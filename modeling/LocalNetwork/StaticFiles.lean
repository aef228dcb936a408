/-
This file models how the proxy serves files from a directory, `_match_route` and
`_serve_static_file` of `proxy/connection.py`, over any file system without symbolic links. No
path in a file system holds the character NUL.

The directory's name is compared with the file's as text, without the slash that would end
it. A request can therefore reach, past the directory itself, what has a longer name in the
same place; for a directory other than the root directory these are the only files outside
that are opened.
-/

import LocalNetwork.HttpResponse
import LocalNetwork.PosixPath

namespace LocalNetwork

open PosixPath

/-! ### The model -/

/-- What stands in a file system under a path; a file may be one that cannot be read. -/
inductive FileNode where
  | file (content : Option Bytes)
  | directory

def nul : Char := Char.ofNat 0

/-- What stands under each path; there is nothing under a path with NUL in it. -/
structure FileSystem where
  node : Path → Option FileNode
  unnamed : ∀ path, nul ∈ path → node path = none

namespace FileSystem

variable (files : FileSystem) (path : Path)

/-- `os.path.isfile`. -/
def isfile : Bool :=
  match files.node path with
  | some (.file _) => true
  | _ => false

/-- `os.path.isdir`. -/
def isdir : Bool :=
  match files.node path with
  | some .directory => true
  | _ => false

/-- Open a file and read it; none where this raises an `OSError`. -/
def read : Option Bytes :=
  match files.node path with
  | some (.file content) => content
  | _ => none

end FileSystem

/-- What `_serve_static_file` uses of a location. -/
structure LocationBlock where
  path : Text
  root : Text
  cacheTtl : Int

/-- A location with what is used of it beside its files. -/
structure ProxyLocation extends LocationBlock where
  upstream : String
  wsEnabled : Bool

/-- The turn of the loop of `_match_route` for one location. -/
def betterLocation (path : Text) (best : Option ProxyLocation × Int) (location : ProxyLocation) :
    Option ProxyLocation × Int :=
  if location.path.isPrefixOf path ∧ best.2 < location.path.length then
    (some location, location.path.length)
  else best

/-- `_match_route`: the first of the locations with the longest matching path. -/
def matchLocation (locations : List ProxyLocation) (path : Text) : Option ProxyLocation :=
  (locations.foldl (betterLocation path) (none, -1)).1

/-- The name of the requested file relative to the root, without the slashes at its front. -/
def relativeName (location : LocationBlock) (path : Text) : Text :=
  let relative :=
    if location.path.isPrefixOf path then path.drop location.path.length
    else path.dropWhile (· == '/')
  let relative := if relative = [] ∨ relative = ['/'] then "index.html".toList else relative
  relative.dropWhile (· == '/')

/-- The answers without a file. -/
def plainResponse (status : Int) (reason : Text) : HttpResponse where
  status := status
  reason := reason
  headers := Dict.ofEntries
    [("content-type".toList, "text/plain".toList), ("connection".toList, "close".toList)]
  body := encodeText (intText status ++ ' ' :: reason)

def forbidden : HttpResponse := plainResponse 403 "Forbidden".toList

def notFound : HttpResponse := plainResponse 404 "Not Found".toList

/-- The answer with a file. -/
def fileResponse (guessType : Path → Option Text) (location : LocationBlock) (filepath : Path)
    (body : Bytes) : HttpResponse where
  status := 200
  reason := "OK".toList
  headers := Dict.ofEntries
    [("content-type".toList, (guessType filepath).getD "application/octet-stream".toList),
      ("content-length".toList, decimalText body.length),
      ("cache-control".toList,
        if 0 < location.cacheTtl then "max-age=".toList ++ intText location.cacheTtl
        else "no-cache".toList)]
  body := body

/-- The file that is opened for a path: the path itself, or the index of a directory. -/
def fileToOpen (files : FileSystem) (filepath : Path) : Option Path :=
  if files.isfile filepath then some filepath
  else
    let filepath :=
      if files.isdir filepath then join filepath "index.html".toList else filepath
    if files.isfile filepath then some filepath else none

/-- The file that was opened, if any, and the answer. -/
structure Served where
  opened : Option Path
  response : HttpResponse

/-- `_serve_static_file`. -/
def serveStaticFile (guessType : Path → Option Text) (files : FileSystem) (path root : Text)
    (location : LocationBlock) : Served :=
  let filepath := normpath (join root (relativeName location path))
  if !(normpath root).isPrefixOf filepath then ⟨none, forbidden⟩
  else
    match fileToOpen files filepath with
    | none => ⟨none, notFound⟩
    | some opened =>
      match files.read opened with
      | none => ⟨some opened, forbidden⟩
      | some body => ⟨some opened, fileResponse guessType location opened body⟩

/-! ### Containment -/

theorem head_dropSlashes (text : Text) : (text.dropWhile (· == '/')).head? ≠ some '/' := by
  intro slash
  have first := List.head?_dropWhile_not (fun char => char == '/') text
  rw [slash] at first
  simp at first

theorem relativeName_relative (location : LocationBlock) (path : Text) :
    (relativeName location path).head? ≠ some '/' :=
  head_dropSlashes _

variable {guessType : Path → Option Text} {files : FileSystem} {location : LocationBlock}
  {path root : Text} {opened : Path}

/-- A file is opened only if the name of the root begins its path, and it is that path or the index
below it. -/
theorem opened_cases
    (served : (serveStaticFile guessType files path root location).opened = some opened) :
    normpath root <+: normpath (join root (relativeName location path)) ∧
      (opened = normpath (join root (relativeName location path)) ∨
        opened = join (normpath (join root (relativeName location path))) "index.html".toList) := by
  unfold serveStaticFile at served
  simp only at served
  split at served
  · cases served
  · rename_i starts
    refine ⟨List.isPrefixOf_iff_prefix.mp (by simpa using starts), ?_⟩
    split at served
    · cases served
    · rename_i target found
      have same : target = opened := by
        split at served
        · exact Option.some.inj served
        · exact Option.some.inj served
      subst same
      unfold fileToOpen at found
      simp only at found
      split at found
      · exact .inl (Option.some.inj found).symm
      · by_cases directory :
            files.isdir (normpath (join root (relativeName location path))) = true
        · rw [if_pos directory] at found
          split at found
          · exact .inr (Option.some.inj found).symm
          · cases found
        · rw [if_neg directory] at found
          split at found
          · exact .inl (Option.some.inj found).symm
          · cases found

/-- Nothing is opened under a name with NUL in it. -/
theorem opened_nul (has : nul ∈ normpath (join root (relativeName location path))) :
    (serveStaticFile guessType files path root location).opened = none := by
  have absent := files.unnamed _ has
  have noFile : files.isfile (normpath (join root (relativeName location path))) = false := by
    rw [FileSystem.isfile, absent]
  have noDirectory : files.isdir (normpath (join root (relativeName location path))) = false := by
    rw [FileSystem.isdir, absent]
  simp only [serveStaticFile, fileToOpen, noFile, noDirectory, Bool.false_eq_true, if_false]
  split <;> rfl

/-- A file system in which a path is a file. -/
def fileAt (target : Path) (named : nul ∉ target) : FileSystem where
  node path := if path = target then some (.file (some [])) else none
  unnamed path has := if_neg fun (same : path = target) => named (same ▸ has)

/-- A file system in which a path is a directory, and what is below it a file. -/
def indexAt (directory target : Path) (named : nul ∉ directory) (fileNamed : nul ∉ target) :
    FileSystem where
  node path :=
    if path = target then some (.file (some []))
    else if path = directory then some .directory
    else none
  unnamed path has :=
    (if_neg fun (same : path = target) => fileNamed (same ▸ has)).trans
      (if_neg fun (same : path = directory) => named (same ▸ has))

theorem not_mem_join {char : Char} {directory name : Path} (slash : char ≠ '/')
    (outside : char ∉ directory) (notIn : char ∉ name) : char ∉ join directory name := by
  unfold join
  split
  · exact notIn
  · split
    · simp only [List.mem_append, not_or]
      exact ⟨outside, notIn⟩
    · simp only [List.mem_append, List.mem_cons, not_or]
      exact ⟨outside, slash, notIn⟩

theorem opened_fileAt
    (starts : normpath root <+: normpath (join root (relativeName location path)))
    (named : nul ∉ normpath (join root (relativeName location path))) :
    (serveStaticFile guessType (fileAt _ named) path root location).opened =
      some (normpath (join root (relativeName location path))) := by
  have present : (fileAt _ named).isfile
      (normpath (join root (relativeName location path))) = true := by
    simp only [FileSystem.isfile, fileAt, if_true]
  have content : (fileAt _ named).read
      (normpath (join root (relativeName location path))) = some [] := by
    simp only [FileSystem.read, fileAt, if_true]
  simp only [serveStaticFile, List.isPrefixOf_iff_prefix.mpr starts, Bool.not_true,
    Bool.false_eq_true, if_false, fileToOpen, present, if_true, content]

theorem opened_indexAt
    (starts : normpath root <+: normpath (join root (relativeName location path)))
    (different : normpath (join root (relativeName location path)) ≠
      join (normpath (join root (relativeName location path))) "index.html".toList)
    (named : nul ∉ normpath (join root (relativeName location path)))
    (fileNamed : nul ∉
      join (normpath (join root (relativeName location path))) "index.html".toList) :
    (serveStaticFile guessType (indexAt _ _ named fileNamed) path root location).opened =
      some (join (normpath (join root (relativeName location path))) "index.html".toList) := by
  generalize target : normpath (join root (relativeName location path)) = filepath at *
  have absent : (indexAt _ _ named fileNamed).isfile filepath = false := by
    simp only [FileSystem.isfile, indexAt, if_neg different, if_true]
  have directory : (indexAt _ _ named fileNamed).isdir filepath = true := by
    simp only [FileSystem.isdir, indexAt, if_neg different, if_true]
  have present : (indexAt _ _ named fileNamed).isfile
      (join filepath "index.html".toList) = true := by
    simp only [FileSystem.isfile, indexAt, if_true]
  have content : (indexAt _ _ named fileNamed).read
      (join filepath "index.html".toList) = some [] := by
    simp only [FileSystem.read, indexAt, if_true]
  simp only [serveStaticFile, target, List.isPrefixOf_iff_prefix.mpr starts, Bool.not_true,
    Bool.false_eq_true, if_false, fileToOpen, absent, directory, present, if_true, content]

/-- In every file system, every file that is opened for a request is inside the root. -/
def Contained (guessType : Path → Option Text) (path root : Text) (location : LocationBlock) :
    Prop :=
  ∀ files opened,
    (serveStaticFile guessType files path root location).opened = some opened → Inside root opened

/-- Whatever the file system, a request opens files inside the root only, if and only if the name of
the file has NUL in it, so that nothing can be opened, or the root is not the root directory, below
which no path begins with its name and a further slash, and the requested name does not lead from
the root to a sibling with a longer name, or below one. -/
theorem static_containment_iff (guessType : Path → Option Text) (path root : Text)
    (location : LocationBlock) :
    Contained guessType path root location ↔
      nul ∈ normpath (join root (relativeName location path)) ∨
        ¬ IsRootDirectory root ∧ ¬ LeadsToSibling root (relativeName location path) := by
  have relative := relativeName_relative location path
  have indexRelative : ("index.html".toList : Path).head? ≠ some '/' := by decide
  constructor
  · intro contained
    refine or_iff_not_imp_left.mpr fun named => ⟨fun top => ?_, fun leads => ?_⟩
    · obtain ⟨starts, outside⟩ := top_not_inside relative top indexRelative (by decide)
      have fileNamed := not_mem_join (by decide) named
        (by decide : nul ∉ ("index.html".toList : Path))
      exact outside (contained _ _
        (opened_indexAt starts (ne_join indexRelative (by decide)) named fileNamed))
    · obtain ⟨starts, outside⟩ := sibling_not_inside relative leads
      exact outside (contained _ _ (opened_fileAt starts named))
  · rintro (has | ⟨notTop, notSibling⟩) files opened served
    · rw [opened_nul has] at served
      cases served
    · obtain ⟨starts, target⟩ := opened_cases served
      have inside := (inside_or_sibling relative notTop starts).resolve_right notSibling
      rcases target with rfl | rfl
      · exact inside
      · exact inside_join notTop inside indexRelative

/-- A request for the directory beside the root. -/
theorem static_files_escape :
    matchLocation [⟨⟨"/".toList, "/srv/www".toList, 300⟩, "", true⟩] "/../www-secret/x".toList =
        some ⟨⟨"/".toList, "/srv/www".toList, 300⟩, "", true⟩ ∧
      (serveStaticFile (fun _ => none) (fileAt "/srv/www-secret/x".toList (by decide))
        "/../www-secret/x".toList "/srv/www".toList ⟨"/".toList, "/srv/www".toList, 300⟩).opened =
          some "/srv/www-secret/x".toList ∧
      ¬ Contained (fun _ => none) "/../www-secret/x".toList "/srv/www".toList
        ⟨"/".toList, "/srv/www".toList, 300⟩ := by
  have opened : (serveStaticFile (fun _ => none) (fileAt "/srv/www-secret/x".toList (by decide))
      "/../www-secret/x".toList "/srv/www".toList ⟨"/".toList, "/srv/www".toList, 300⟩).opened =
        some "/srv/www-secret/x".toList := by
    decide +kernel
  refine ⟨rfl, opened, fun contained => ?_⟩
  have outside : ¬ Inside "/srv/www".toList "/srv/www-secret/x".toList := by
    unfold Inside
    decide +kernel
  exact outside (contained _ _ opened)

end LocalNetwork
