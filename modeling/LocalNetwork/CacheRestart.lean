/-
This file proves that a restart does not show in the disk cache. As long as the operations on
the file system succeed, the index and the directory describe the same contents: the file of
a key that is in the index is the file of its entry, and there is no file for another key. A
new object, which has no index, therefore answers from the files what the old one answers
from its index, expiry included.

SHA-256 is only assumed to be injective on the keys in use, and the JSON library to give back
the metadata that were stored.
-/

import LocalNetwork.DiskCache

namespace LocalNetwork

variable {Digest : Type} [DecidableEq Digest] {json : MetadataText} {sha256 : String → Digest}

namespace CacheOnDisk

/-- The index and the directory describe the same contents for the keys in use. -/
structure Mirrors (json : MetadataText) (sha256 : String → Digest) (keys : Set String)
    (disk : CacheOnDisk Digest) : Prop where
  entries : ∀ key entry, disk.cache.entries.get? key = some entry →
    key ∈ keys ∧ json.Inverts entry.metadata ∧ ∃ content, entryFile json entry = some content
  files : ∀ key ∈ keys, disk.files.get? (sha256 key) =
    (disk.cache.entries.get? key).bind (entryFile json)

variable {keys : Set String} {disk : CacheOnDisk Digest}

theorem mirrors_new (maxSize : Int) : Mirrors json sha256 keys (.new maxSize) :=
  ⟨nofun, fun _ _ => rfl⟩

theorem Mirrors.remove (mirrors : Mirrors json sha256 keys disk)
    (injective : Set.InjOn sha256 keys) {key : String} (used : key ∈ keys) :
    Mirrors json sha256 keys (disk.remove sha256 (fun _ => true) key) := by
  constructor
  · intro other entry found
    rw [remove_get?] at found
    by_cases same : other = key
    · rw [if_pos same] at found
      cases found
    · rw [if_neg same] at found
      exact mirrors.entries other entry found
  · intro other otherUsed
    rw [remove_get?]
    show (disk.files.erase (sha256 key)).get? (sha256 other) = _
    by_cases same : other = key
    · rw [same, Dict.get?_erase_self, if_pos rfl, Option.bind_none]
    · have digests : sha256 other ≠ sha256 key := fun equal => same (injective otherUsed used equal)
      rw [Dict.get?_erase_of_ne _ digests, if_neg same]
      exact mirrors.files other otherUsed

theorem Mirrors.evict (mirrors : Mirrors json sha256 keys disk)
    (injective : Set.InjOn sha256 keys) (size rounds : Nat) :
    Mirrors json sha256 keys (evict sha256 (fun _ => true) size rounds disk) :=
  evict_keeps _ (fun _ key entry found holds =>
    holds.remove injective (holds.entries key entry found).1) size rounds mirrors

theorem Mirrors.purge (mirrors : Mirrors json sha256 keys disk)
    (injective : Set.InjOn sha256 keys) (pattern : String) :
    Mirrors json sha256 keys (disk.purge sha256 (fun _ => true) pattern).2 := by
  refine foldl_remove_keeps _ (fun other key member holds => ?_) mirrors
  obtain ⟨entry, found⟩ := Dict.mem_keys_iff.mp (mem_matchingKeys_iff.mp member).1
  exact holds.remove injective (mirrors.entries key entry found).1

theorem Mirrors.storeEntry (mirrors : Mirrors json sha256 keys disk)
    (injective : Set.InjOn sha256 keys) {entry : CacheEntry} (used : entry.key ∈ keys)
    (inverts : json.Inverts entry.metadata)
    (stored : (storeEntry json sha256 .succeed disk entry).1 = .ok ()) :
    Mirrors json sha256 keys (storeEntry json sha256 .succeed disk entry).2 := by
  have evicted := mirrors.evict injective entry.size disk.cache.entries.size
  unfold CacheOnDisk.storeEntry at stored ⊢
  simp only [FileOutcomes.succeed, Bool.not_true, Bool.false_eq_true, if_false] at stored ⊢
  generalize CacheOnDisk.evict sha256 (fun _ => true) entry.size disk.cache.entries.size disk =
    smaller at evicted stored ⊢
  cases written : entryFile json entry with
  | none =>
    rw [written] at stored
    cases stored
  | some content =>
    constructor
    · intro other found otherFound
      by_cases same : other = entry.key
      · rw [same] at otherFound ⊢
        obtain rfl := Option.some.inj ((Dict.get?_insert_self ..).symm.trans otherFound)
        exact ⟨used, inverts, content, written⟩
      · exact evicted.entries other found
          ((Dict.get?_insert_of_ne _ _ same).symm.trans otherFound)
    · intro other otherUsed
      show (smaller.files.insert (sha256 entry.key) content).get? (sha256 other) =
        ((smaller.cache.entries.insert entry.key entry).get? other).bind _
      by_cases same : other = entry.key
      · rw [same, Dict.get?_insert_self, Dict.get?_insert_self, Option.bind_some, written]
      · have digests : sha256 other ≠ sha256 entry.key :=
          fun equal => same (injective otherUsed used equal)
        rw [Dict.get?_insert_of_ne _ _ digests, Dict.get?_insert_of_ne _ _ same]
        exact evicted.files other otherUsed

/-- Where nothing is in the index there is no file, and nothing is retrieved. -/
theorem Mirrors.retrieveFromDisk_absent (mirrors : Mirrors json sha256 keys disk) {key : String}
    (used : key ∈ keys) (absent : disk.cache.entries.get? key = none) (now : Time) :
    retrieveFromDisk json sha256 .succeed disk key now = (.ok none, disk) := by
  have noFile := mirrors.files key used
  rw [absent, Option.bind_none] at noFile
  rw [retrieveFromDisk, noFile]
  rfl

theorem Mirrors.retrieve (mirrors : Mirrors json sha256 keys disk)
    (injective : Set.InjOn sha256 keys) {key : String} (used : key ∈ keys) (now accessed : Time) :
    Mirrors json sha256 keys (retrieve json sha256 .succeed disk key now accessed).2 := by
  unfold CacheOnDisk.retrieve
  cases found : disk.cache.entries.get? key with
  | none =>
    rw [mirrors.retrieveFromDisk_absent used found]
    exact mirrors
  | some entry =>
    dsimp only
    split
    · exact mirrors.remove injective used
    · -- Only the time of the last access changes, and no file shows it.
      constructor
      · intro other changed otherFound
        change (disk.cache.entries.modify key _).get? other = some changed at otherFound
        rw [Dict.get?_modify] at otherFound
        split at otherFound
        · obtain ⟨old, oldFound, rfl⟩ := Option.map_eq_some_iff.mp otherFound
          exact mirrors.entries other old oldFound
        · exact mirrors.entries other changed otherFound
      · intro other otherUsed
        rw [mirrors.files other otherUsed]
        show _ = ((disk.cache.entries.modify key _).get? other).bind _
        rw [Dict.get?_modify]
        split
        · cases disk.cache.entries.get? other <;> rfl
        · rfl

/-! ### Runs -/

/-- A call in which every operation on the file system succeeds; a `store` also gets its file
written. -/
def Succeeds (json : MetadataText) (sha256 : String → Digest) (disk : CacheOnDisk Digest) :
    CacheCall Digest → Prop
  | .store entry outcomes =>
    outcomes = .succeed ∧ (storeEntry json sha256 outcomes disk entry).1 = .ok ()
  | .retrieve _ _ _ outcomes => outcomes = .succeed
  | .purge _ removes => removes = fun _ => true

/-- A call names keys in use only, and the JSON library can take what it stores. -/
def Admissible (json : MetadataText) (keys : Set String) : CacheCall Digest → Prop
  | .store entry _ => entry.key ∈ keys ∧ json.Inverts entry.metadata
  | .retrieve key _ _ _ => key ∈ keys
  | .purge _ _ => True

theorem Mirrors.afterCall (mirrors : Mirrors json sha256 keys disk)
    (injective : Set.InjOn sha256 keys) {call : CacheCall Digest}
    (admissible : Admissible json keys call) (succeeds : Succeeds json sha256 disk call) :
    Mirrors json sha256 keys (afterCall json sha256 disk call) := by
  cases call with
  | store entry outcomes =>
    obtain ⟨rfl, stored⟩ := succeeds
    exact mirrors.storeEntry injective admissible.1 admissible.2 stored
  | retrieve key now accessed outcomes =>
    obtain rfl := succeeds
    exact mirrors.retrieve injective admissible now accessed
  | purge pattern removes =>
    obtain rfl := succeeds
    exact mirrors.purge injective pattern

/-- A new object answers from the files what the old one answers from its index. -/
theorem restarted_retrieve (mirrors : Mirrors json sha256 keys disk) {key : String}
    (used : key ∈ keys) (maxSize : Int) (now accessed otherAccessed : Time) :
    (retrieve json sha256 .succeed ⟨.new maxSize, disk.files⟩ key now otherAccessed).1 =
      (retrieve json sha256 .succeed disk key now accessed).1 := by
  have restarted : retrieve json sha256 .succeed ⟨.new maxSize, disk.files⟩ key now otherAccessed =
      retrieveFromDisk json sha256 .succeed ⟨.new maxSize, disk.files⟩ key now := rfl
  rw [restarted]
  have file := mirrors.files key used
  cases found : disk.cache.entries.get? key with
  | none =>
    rw [found, Option.bind_none] at file
    rw [CacheOnDisk.retrieve, found]
    dsimp only
    rw [mirrors.retrieveFromDisk_absent used found, retrieveFromDisk, file]
    rfl
  | some entry =>
    obtain ⟨-, inverts, content, written⟩ := mirrors.entries key entry found
    rw [found, Option.bind_some, written] at file
    rw [CacheOnDisk.retrieve, found, retrieveFromDisk, file]
    simp only [FileOutcomes.succeed, Bool.not_true, Bool.false_eq_true, if_false,
      readEntry_entryFile inverts written]
    have same := entry.loaded_expired now
    by_cases expired : entry.expired now = true
    · rw [if_pos expired, if_pos (same.trans expired)]
    · rw [if_neg expired, if_neg (same ▸ expired)]
      rfl

/-- One call after the other. -/
def run (json : MetadataText) (sha256 : String → Digest) (disk : CacheOnDisk Digest)
    (calls : List (CacheCall Digest)) : Option (CacheOnDisk Digest) :=
  runFrom (fun disk call => some (afterCall json sha256 disk call)) disk calls

/-- Every call of a run is admissible, and its operations on the file system succeed. -/
def RunSucceeds (json : MetadataText) (sha256 : String → Digest) (keys : Set String) :
    CacheOnDisk Digest → List (CacheCall Digest) → Prop :=
  HoldsAlong (fun disk call => some (afterCall json sha256 disk call))
    fun disk call => Admissible json keys call ∧ Succeeds json sha256 disk call

/-- Start with an empty directory and one object, and let it take any calls in which the operations
on the file system succeed. A new object over the directory then retrieves for every key and at
every time what the first one retrieves. -/
theorem cache_restart_transparent (maxSize otherSize : Int) (keys : Set String)
    (injective : Set.InjOn sha256 keys) (calls : List (CacheCall Digest))
    (succeeds : RunSucceeds json sha256 keys (.new maxSize) calls)
    (ran : run json sha256 (.new maxSize) calls = some disk) {key : String} (used : key ∈ keys)
    (now accessed otherAccessed : Time) :
    (retrieve json sha256 .succeed ⟨.new otherSize, disk.files⟩ key now otherAccessed).1 =
      (retrieve json sha256 .succeed disk key now accessed).1 := by
  have mirrors : Mirrors json sha256 keys disk := by
    refine run_invariant (fun disk call next both holds stepped => ?_) (mirrors_new maxSize)
      succeeds ran
    obtain rfl := Option.some.inj stepped
    exact holds.afterCall injective both.1 both.2
  exact restarted_retrieve mirrors used otherSize now accessed otherAccessed

end CacheOnDisk

/-! ### A run -/

/-- The JSON library on the metadata of one entry. -/
def plainMetadata : MetadataText where
  dumps _ := asciiBytes plainText
  loads data :=
    if data = asciiBytes plainText then .ok ⟨some 200, some Dict.empty, some 300, some 100⟩
    else .error .jsonDecodeError
where
  plainText := "\x7b\"key\": \"GET:/\", \"status\": 200, \"headers\": \x7b\x7d, " ++
    "\"ttl\": 300, \"created_at\": 100.0\x7d"

def plainEntry : CacheEntry := ⟨"GET:/", 200, Dict.empty, [104, 105], 300, 100, 100⟩

theorem plainEntry_inverts : plainMetadata.Inverts plainEntry.metadata := by
  rw [MetadataText.Inverts, plainMetadata]
  dsimp only
  rw [if_pos rfl]
  rfl

/-- The first two digits of the digest of the one key. -/
def plainDigest (key : String) : String := if key = "GET:/" then "60" else "-"

/-- A response is stored; then the process restarts. The new object returns the response. -/
theorem cache_restart_transparent_plain :
    (CacheOnDisk.retrieve plainMetadata plainDigest .succeed
        ⟨.new 10, (CacheOnDisk.storeEntry plainMetadata plainDigest .succeed
          (.new 100) plainEntry).2.files⟩ "GET:/" 200 200).1 =
      .ok (some ⟨200, Dict.empty, [104, 105]⟩) :=
  (CacheOnDisk.cache_restart_transparent 100 10 {"GET:/"} (Set.injOn_singleton _ _)
    [.store plainEntry .succeed]
    ⟨⟨⟨rfl, plainEntry_inverts⟩, rfl, rfl⟩, fun _ _ => trivial⟩ rfl rfl 200 200 200).trans rfl

end LocalNetwork
