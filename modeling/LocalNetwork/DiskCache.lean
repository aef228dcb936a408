/-
This file models the disk cache of the proxy: an index of entries in memory, and one file
for each key in a directory that other cache objects may share. A file is named by the
SHA-256 of the key and holds the length of the metadata in four bytes, the metadata as a
JSON text and the body.

SHA-256 and the JSON library are parameters. What each operation on the file system comes to
is a parameter as well, and so is every reading of the clock. The subdirectories of the
cache are left out: a file is found by its digest alone.
-/

import LocalNetwork.Basic
import LocalNetwork.Dict
import LocalNetwork.Transition
import Mathlib.Data.Set.Function

namespace LocalNetwork

abbrev Headers := Dict String String

structure CacheEntry where
  key : String
  status : Int
  headers : Headers
  body : Bytes
  ttl : Time
  createdAt : Time
  lastAccess : Time

def CacheEntry.expired (entry : CacheEntry) (now : Time) : Bool :=
  decide (entry.ttl < now - entry.createdAt)

def CacheEntry.size (entry : CacheEntry) : Nat := entry.body.length

/-- An object of the class: its index, in the order of insertion, and its count of bytes. -/
structure DiskCache where
  maxSize : Int
  entries : Dict String CacheEntry
  currentSize : Int

def DiskCache.new (maxSize : Int) : DiskCache := ⟨maxSize, Dict.empty, 0⟩

/-- What `retrieve` returns. -/
structure CachedResponse where
  status : Int
  headers : Headers
  body : Bytes

inductive CacheError where
  | osError
  | overflowError
  | unicodeDecodeError
  | attributeError
  deriving DecidableEq

/-! ### The files -/

/-- The bytes of an ASCII text. -/
def asciiBytes (text : String) : Bytes := text.toList.map fun symbol => UInt8.ofNat symbol.toNat

/-- The object that `store` writes as JSON. -/
structure Metadata where
  key : String
  status : Int
  headers : Headers
  ttl : Time
  createdAt : Time

def CacheEntry.metadata (entry : CacheEntry) : Metadata :=
  ⟨entry.key, entry.status, entry.headers, entry.ttl, entry.createdAt⟩

/-- What `retrieve` looks up in the object it reads. -/
structure LoadedMetadata where
  status : Option Int
  headers : Option Headers
  ttl : Option Time
  createdAt : Option Time

def Metadata.loaded (metadata : Metadata) : LoadedMetadata :=
  ⟨some metadata.status, some metadata.headers, some metadata.ttl, some metadata.createdAt⟩

/-- The exceptions on the way from bytes to an object: the two of `json.loads`, and that of
`meta.get` when the value is no object. -/
inductive LoadError where
  | jsonDecodeError
  | unicodeDecodeError
  | attributeError
  deriving DecidableEq

/-- The JSON library on metadata. -/
structure MetadataText where
  dumps : Metadata → Bytes
  loads : Bytes → Except LoadError LoadedMetadata

/-- `json.loads` gives back what `json.dumps` wrote. -/
def MetadataText.Inverts (json : MetadataText) (metadata : Metadata) : Prop :=
  json.loads (json.dumps metadata) = .ok metadata.loaded

def metadataLengthSize : Nat := 4

/-- The file of an entry; none when the length of the metadata does not fit in its four bytes. -/
def entryFile (json : MetadataText) (entry : CacheEntry) : Option Bytes :=
  let metadata := json.dumps entry.metadata
  if metadata.length < 256 ^ metadataLengthSize then
    some (toBigEndian metadataLengthSize metadata.length ++ metadata ++ entry.body)
  else none

/-- The metadata and the body that `retrieve` finds in a file. -/
def readEntry (json : MetadataText) (content : Bytes) :
    Except LoadError (LoadedMetadata × Bytes) :=
  let metadataLength := ofBigEndian (content.take metadataLengthSize)
  match json.loads ((content.drop metadataLengthSize).take metadataLength) with
  | .error error => .error error
  | .ok metadata => .ok (metadata, content.drop (metadataLengthSize + metadataLength))

/-- A file whose metadata are there: the rest is the body. -/
theorem readEntry_whole (json : MetadataText) {data : Bytes} (body : Bytes)
    (fits : data.length < 256 ^ metadataLengthSize) :
    readEntry json (toBigEndian metadataLengthSize data.length ++ data ++ body) =
      (json.loads data).map fun metadata => (metadata, body) := by
  have length : ofBigEndian ((toBigEndian metadataLengthSize data.length ++ data ++ body).take
      metadataLengthSize) = data.length := by
    rw [List.append_assoc, List.take_left' (toBigEndian_length _ _),
      ofBigEndian_toBigEndian_of_lt _ _ fits]
  have text : ((toBigEndian metadataLengthSize data.length ++ data ++ body).drop
      metadataLengthSize).take data.length = data := by
    rw [List.append_assoc, List.drop_left' (toBigEndian_length _ _), List.take_left]
  have rest : (toBigEndian metadataLengthSize data.length ++ data ++ body).drop
      (metadataLengthSize + data.length) = body :=
    List.drop_left' (by rw [List.length_append, toBigEndian_length])
  rw [readEntry]
  simp only [length, text, rest]
  cases json.loads data <;> rfl

/-- A file that ends before its metadata do: what is there of the metadata is read as JSON. -/
theorem readEntry_cut (json : MetadataText) {data : Bytes} (body : Bytes)
    (fits : data.length < 256 ^ metadataLengthSize) {cut : Nat}
    (early : cut < metadataLengthSize + data.length) :
    ∃ rest, readEntry json ((toBigEndian metadataLengthSize data.length ++ data ++ body).take cut) =
      (json.loads (data.take (cut - metadataLengthSize))).map fun metadata => (metadata, rest) := by
  generalize whole : toBigEndian metadataLengthSize data.length ++ data ++ body = content
  have text : ((content.take cut).drop metadataLengthSize).take
      (ofBigEndian ((content.take cut).take metadataLengthSize)) =
        data.take (cut - metadataLengthSize) := by
    rw [List.drop_take]
    by_cases inLength : cut ≤ metadataLengthSize
    · rw [Nat.sub_eq_zero_of_le inLength, List.take_zero, List.take_zero, List.take_nil]
    · have length : ofBigEndian ((content.take cut).take metadataLengthSize) = data.length := by
        rw [List.take_take, Nat.min_eq_left (by omega), ← whole, List.append_assoc,
          List.take_left' (toBigEndian_length _ _), ofBigEndian_toBigEndian_of_lt _ _ fits]
      rw [length, ← whole, List.append_assoc, List.drop_left' (toBigEndian_length _ _),
        List.take_append_of_le_length (by omega), List.take_take, Nat.min_eq_right (by omega)]
  refine ⟨(content.take cut).drop
    (metadataLengthSize + ofBigEndian ((content.take cut).take metadataLengthSize)), ?_⟩
  rw [readEntry]
  simp only [text]
  cases json.loads (data.take (cut - metadataLengthSize)) <;> rfl

theorem entryFile_eq_some_iff {json : MetadataText} {entry : CacheEntry} {content : Bytes} :
    entryFile json entry = some content ↔
      (json.dumps entry.metadata).length < 256 ^ metadataLengthSize ∧
        toBigEndian metadataLengthSize (json.dumps entry.metadata).length ++
          json.dumps entry.metadata ++ entry.body = content := by
  simp only [entryFile]
  split
  · rename_i fits
    rw [Option.some_inj]
    exact ⟨fun same => ⟨fits, same⟩, And.right⟩
  · rename_i long
    constructor
    · intro written
      cases written
    · exact fun fits => absurd fits.1 long

/-- A whole file gives back its entry. -/
theorem readEntry_entryFile {json : MetadataText} {entry : CacheEntry} {content : Bytes}
    (inverts : json.Inverts entry.metadata) (written : entryFile json entry = some content) :
    readEntry json content = .ok (entry.metadata.loaded, entry.body) := by
  obtain ⟨fits, rfl⟩ := entryFile_eq_some_iff.mp written
  rw [readEntry_whole json entry.body fits, inverts]
  rfl

def defaultTtl : Time := 300

def LoadedMetadata.expired (metadata : LoadedMetadata) (now : Time) : Bool :=
  decide (metadata.ttl.getD defaultTtl < now - metadata.createdAt.getD 0)

theorem CacheEntry.loaded_expired (entry : CacheEntry) (now : Time) :
    entry.metadata.loaded.expired now = entry.expired now := rfl

variable {Digest : Type} [DecidableEq Digest]

/-- What the operations on the file system come to during one call: whether the subdirectory of
the key is there or can be made, whether its file can be opened, how many bytes of it are written
before an error, if there is one, and which files can be removed. -/
structure FileOutcomes (Digest : Type) where
  makesDirectory : Bool
  opens : Bool
  writesUpTo : Option Nat
  removes : Digest → Bool

/-- Every operation succeeds. -/
def FileOutcomes.succeed : FileOutcomes Digest := ⟨true, true, none, fun _ => true⟩

def removeFile (removes : Digest → Bool) (files : Dict Digest Bytes) (digest : Digest) :
    Dict Digest Bytes :=
  if removes digest then files.erase digest else files

/-! ### The operations -/

/-- A cache object and the directory it works on. -/
structure CacheOnDisk (Digest : Type) where
  cache : DiskCache
  files : Dict Digest Bytes

/-- An object over an empty directory. -/
def CacheOnDisk.new (maxSize : Int) : CacheOnDisk Digest := ⟨.new maxSize, Dict.empty⟩

namespace CacheOnDisk

section Operations

variable (json : MetadataText) (sha256 : String → Digest)

/-- `_remove`: a file that cannot be removed stays, without an error. -/
def remove (removes : Digest → Bool) (disk : CacheOnDisk Digest) (key : String) :
    CacheOnDisk Digest where
  cache :=
    match disk.cache.entries.get? key with
    | none => disk.cache
    | some entry =>
      { disk.cache with
        entries := disk.cache.entries.erase key
        currentSize := max 0 (disk.cache.currentSize - entry.size) }
  files := removeFile removes disk.files (sha256 key)

/-- The key that was accessed least recently, the first one in the index among equals. -/
def leastRecentlyUsed (entries : Dict String CacheEntry) : Option String :=
  (entries.entries.minOn? fun entry => entry.2.lastAccess).map Prod.fst

/-- `_evict_one`. -/
def evictOne (removes : Digest → Bool) (disk : CacheOnDisk Digest) : CacheOnDisk Digest :=
  match leastRecentlyUsed disk.cache.entries with
  | none => disk
  | some key => remove sha256 removes disk key

/-- The condition of the eviction loop. -/
def needsEviction (disk : CacheOnDisk Digest) (size : Nat) : Bool :=
  decide (disk.cache.maxSize < disk.cache.currentSize + size ∧ disk.cache.entries.entries ≠ [])

/-- The eviction loop. Every round removes an entry, so that the number of entries bounds it. -/
def evict (removes : Digest → Bool) (size : Nat) : Nat → CacheOnDisk Digest → CacheOnDisk Digest
  | 0, disk => disk
  | rounds + 1, disk =>
    if needsEviction disk size then
      evict removes size rounds (evictOne sha256 removes disk)
    else disk

/-- `store` of an entry that was just made: a failed write is logged and forgotten. -/
def storeEntry (outcomes : FileOutcomes Digest) (disk : CacheOnDisk Digest) (entry : CacheEntry) :
    Except CacheError Unit × CacheOnDisk Digest :=
  let disk := evict sha256 outcomes.removes entry.size disk.cache.entries.size disk
  let digest := sha256 entry.key
  if !outcomes.makesDirectory then (.error .osError, disk)
  else if !outcomes.opens then (.ok (), disk)
  else
    match entryFile json entry with
    -- `to_bytes` raises once the file is open, and so empty.
    | none => (.error .overflowError, { disk with files := disk.files.insert digest [] })
    | some content =>
      match outcomes.writesUpTo with
      | some count =>
        (.ok (), { disk with files := disk.files.insert digest (content.take count) })
      | none =>
        (.ok (),
          { files := disk.files.insert digest content
            cache :=
              { disk.cache with
                entries := disk.cache.entries.insert entry.key entry
                currentSize := disk.cache.currentSize + entry.size } })

/-- The part of `retrieve` for a key that is not in the index. -/
def retrieveFromDisk (outcomes : FileOutcomes Digest) (disk : CacheOnDisk Digest) (key : String)
    (now : Time) : Except CacheError (Option CachedResponse) × CacheOnDisk Digest :=
  if !outcomes.makesDirectory then (.error .osError, disk)
  else
    match disk.files.get? (sha256 key) with
    | none => (.ok none, disk)
    | some content =>
      if !outcomes.opens then (.ok none, disk)
      else
        match readEntry json content with
        | .error .jsonDecodeError => (.ok none, disk)
        | .error .unicodeDecodeError => (.error .unicodeDecodeError, disk)
        | .error .attributeError => (.error .attributeError, disk)
        | .ok (metadata, body) =>
          if metadata.expired now then
            (.ok none, { disk with files := removeFile outcomes.removes disk.files (sha256 key) })
          else
            match metadata.status, metadata.headers with
            | some status, some headers => (.ok (some ⟨status, headers, body⟩), disk)
            | _, _ => (.ok none, disk)

/-- `retrieve`, with the reading of the clock that decides expiry and the one that is noted as the
last access. -/
def retrieve (outcomes : FileOutcomes Digest) (disk : CacheOnDisk Digest) (key : String)
    (now accessed : Time) : Except CacheError (Option CachedResponse) × CacheOnDisk Digest :=
  match disk.cache.entries.get? key with
  | some entry =>
    if entry.expired now then (.ok none, remove sha256 outcomes.removes disk key)
    else
      (.ok (some ⟨entry.status, entry.headers, entry.body⟩),
        { disk with
          cache :=
            { disk.cache with
              entries := disk.cache.entries.modify key fun entry =>
                { entry with lastAccess := accessed } } })
  | none => retrieveFromDisk json sha256 outcomes disk key now

def startsWith (key pattern : String) : Bool := pattern.toList.isPrefixOf key.toList

/-- The keys of the index that a pattern covers; the empty pattern covers all. -/
def matchingKeys (entries : Dict String CacheEntry) (pattern : String) : List String :=
  if pattern = "" then entries.keys else entries.keys.filter fun key => startsWith key pattern

def purge (removes : Digest → Bool) (disk : CacheOnDisk Digest) (pattern : String) :
    Nat × CacheOnDisk Digest :=
  let keys := matchingKeys disk.cache.entries pattern
  (keys.length, keys.foldl (remove sha256 removes) disk)

/-- A call on a cache object, with everything the code cannot decide. -/
inductive CacheCall (Digest : Type) where
  | store (entry : CacheEntry) (outcomes : FileOutcomes Digest)
  | retrieve (key : String) (now accessed : Time) (outcomes : FileOutcomes Digest)
  | purge (pattern : String) (removes : Digest → Bool)

/-- The object and the directory after a call. -/
def afterCall (disk : CacheOnDisk Digest) : CacheCall Digest → CacheOnDisk Digest
  | .store entry outcomes => (storeEntry json sha256 outcomes disk entry).2
  | .retrieve key now accessed outcomes => (retrieve json sha256 outcomes disk key now accessed).2
  | .purge pattern removes => (purge sha256 removes disk pattern).2

end Operations

/-! ### What the operations do to the index and to the files -/

variable {json : MetadataText} {sha256 : String → Digest}

theorem remove_get? (removes : Digest → Bool) (disk : CacheOnDisk Digest) (key other : String) :
    (disk.remove sha256 removes key).cache.entries.get? other =
      if other = key then none else disk.cache.entries.get? other := by
  unfold remove
  cases found : disk.cache.entries.get? key with
  | none =>
    by_cases same : other = key
    · rw [if_pos same, same]
      exact found
    · rw [if_neg same]
  | some entry => exact Dict.get?_erase _ key other

theorem leastRecentlyUsed_mem {entries : Dict String CacheEntry} {key : String}
    (least : leastRecentlyUsed entries = some key) : ∃ entry, entries.get? key = some entry := by
  obtain ⟨entry, found, rfl⟩ := Option.map_eq_some_iff.mp least
  exact ⟨entry.2, Dict.get?_eq_some_iff.mpr (List.minOn?_mem found)⟩

/-- The rule for the eviction loop: what every removal of an entry keeps. -/
theorem evict_keeps (invariant : CacheOnDisk Digest → Prop) {removes : Digest → Bool}
    (kept : ∀ disk key entry, disk.cache.entries.get? key = some entry → invariant disk →
      invariant (disk.remove sha256 removes key))
    (size rounds : Nat) {disk : CacheOnDisk Digest} (holds : invariant disk) :
    invariant (evict sha256 removes size rounds disk) := by
  induction rounds generalizing disk with
  | zero => exact holds
  | succ rounds inductionHypothesis =>
    rw [evict]
    split
    · refine inductionHypothesis ?_
      rw [evictOne]
      split
      · exact holds
      · rename_i key least
        obtain ⟨entry, found⟩ := leastRecentlyUsed_mem least
        exact kept disk key entry found holds
    · exact holds

/-- The rule for a purge: what the removal of each of some keys keeps. -/
theorem foldl_remove_keeps (invariant : CacheOnDisk Digest → Prop) {removes : Digest → Bool}
    {keys : List String}
    (kept : ∀ disk, ∀ key ∈ keys, invariant disk → invariant (disk.remove sha256 removes key))
    {disk : CacheOnDisk Digest} (holds : invariant disk) :
    invariant (keys.foldl (remove sha256 removes) disk) := by
  induction keys generalizing disk with
  | nil => exact holds
  | cons key rest inductionHypothesis =>
    exact inductionHypothesis (fun disk other member => kept disk other (.tail _ member))
      (kept disk key (.head _) holds)

omit [DecidableEq Digest] in
theorem mem_matchingKeys_iff {entries : Dict String CacheEntry} {pattern key : String} :
    key ∈ matchingKeys entries pattern ↔ key ∈ entries.keys ∧ startsWith key pattern = true := by
  unfold matchingKeys
  split
  · rename_i empty
    subst empty
    exact ⟨fun member => ⟨member, rfl⟩, And.left⟩
  · exact List.mem_filter

/-- What a `store` leaves: the state after the evictions, that state with some file for the key, or
that state with the entry in the index and its whole file. -/
theorem storeEntry_cases (json : MetadataText) (sha256 : String → Digest)
    (outcomes : FileOutcomes Digest) (disk : CacheOnDisk Digest) (entry : CacheEntry) :
    ∃ evicted, evicted = evict sha256 outcomes.removes entry.size disk.cache.entries.size disk ∧
      ((storeEntry json sha256 outcomes disk entry).2 = evicted ∨
        (∃ content, (storeEntry json sha256 outcomes disk entry).2 =
          { evicted with files := evicted.files.insert (sha256 entry.key) content }) ∨
        ∃ content, entryFile json entry = some content ∧
          (storeEntry json sha256 outcomes disk entry).2 =
            { files := evicted.files.insert (sha256 entry.key) content
              cache :=
                { evicted.cache with
                  entries := evicted.cache.entries.insert entry.key entry
                  currentSize := evicted.cache.currentSize + entry.size } }) := by
  refine ⟨_, rfl, ?_⟩
  simp only [storeEntry]
  split
  · exact .inl rfl
  · split
    · exact .inl rfl
    · cases written : entryFile json entry with
      | none => exact .inr (.inl ⟨[], rfl⟩)
      | some content =>
        cases outcomes.writesUpTo with
        | some count => exact .inr (.inl ⟨content.take count, rfl⟩)
        | none => exact .inr (.inr ⟨content, rfl, rfl⟩)

/-- Looking at the files changes nothing, but for the removal of an expired file. -/
theorem retrieveFromDisk_cases (json : MetadataText) (sha256 : String → Digest)
    (outcomes : FileOutcomes Digest) (disk : CacheOnDisk Digest) (key : String)
    (now : Time) :
    (retrieveFromDisk json sha256 outcomes disk key now).2 = disk ∨
      (retrieveFromDisk json sha256 outcomes disk key now).2 =
        { disk with files := removeFile outcomes.removes disk.files (sha256 key) } := by
  unfold retrieveFromDisk
  split
  · exact .inl rfl
  · split
    · exact .inl rfl
    · split
      · exact .inl rfl
      · split
        · exact .inl rfl
        · exact .inl rfl
        · exact .inl rfl
        · split
          · exact .inr rfl
          · split
            · exact .inl rfl
            · exact .inl rfl

end CacheOnDisk

end LocalNetwork
