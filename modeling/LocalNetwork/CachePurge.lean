/-
This file is about a directory that several cache objects share, and about what a purge
leaves retrievable. A purge goes through the index of the object it is called on, while
`retrieve` falls back to the files of the directory. A file that an earlier process or another
object wrote is therefore out of reach of the purge, and is retrieved again right after it.

The file of a key is taken as it is, whole or left by a failed write: it is silent when
`retrieve` makes nothing of it at any time.
-/

import LocalNetwork.CacheRestart

namespace LocalNetwork

variable {Digest : Type} [DecidableEq Digest] {json : MetadataText} {sha256 : String → Digest}

/-- A file that is never retrieved: it holds no object, or the object lacks the status or the
headers. -/
def Silent (json : MetadataText) (content : Bytes) : Prop :=
  match readEntry json content with
  | .error error => error = .jsonDecodeError
  | .ok (metadata, _) => metadata.status = none ∨ metadata.headers = none

namespace CacheOnDisk

/-- No file of the directory answers for a key. -/
def Quiet (json : MetadataText) (sha256 : String → Digest) (key : String)
    (files : Dict Digest Bytes) : Prop :=
  ∀ content, files.get? (sha256 key) = some content → Silent json content

variable {disk : CacheOnDisk Digest} {key : String}

/-! ### What a quiet file gives -/

theorem retrieveFromDisk_of_quiet (quiet : Quiet json sha256 key disk.files)
    {outcomes : FileOutcomes Digest} (reachable : outcomes.makesDirectory = true) (now : Time) :
    (retrieveFromDisk json sha256 outcomes disk key now).1 = .ok none := by
  rw [retrieveFromDisk, reachable]
  simp only [Bool.not_true, Bool.false_eq_true, if_false]
  cases file : disk.files.get? (sha256 key) with
  | none => rfl
  | some content =>
    have silent := quiet content file
    unfold Silent at silent
    dsimp only
    split
    · rfl
    · cases read : readEntry json content with
      | error error =>
        rw [read] at silent
        obtain rfl : error = .jsonDecodeError := silent
        rfl
      | ok result =>
        obtain ⟨⟨status, headers, ttl, createdAt⟩, body⟩ := result
        rw [read] at silent
        dsimp only at silent ⊢
        split
        · rfl
        · rcases silent with rfl | rfl
          · rfl
          · cases status <;> rfl

/-- A file that never answers when every operation succeeds is silent. -/
theorem silent_of_retrieveFromDisk {content : Bytes}
    (file : disk.files.get? (sha256 key) = some content)
    (nothing : ∀ now, (retrieveFromDisk json sha256 .succeed disk key now).1 = .ok none) :
    Silent json content := by
  unfold Silent
  simp only [retrieveFromDisk, file, FileOutcomes.succeed, Bool.not_true, Bool.false_eq_true,
    if_false] at nothing
  cases read : readEntry json content with
  | error error =>
    rw [read] at nothing
    cases error with
    | jsonDecodeError => rfl
    | unicodeDecodeError => cases nothing 0
    | attributeError => cases nothing 0
  | ok result =>
    obtain ⟨⟨status, headers, ttl, createdAt⟩, body⟩ := result
    rw [read] at nothing
    -- At the last moment of its lifetime the entry has not expired.
    have fresh : ¬ LoadedMetadata.expired ⟨status, headers, ttl, createdAt⟩
        (createdAt.getD 0 + ttl.getD defaultTtl) = true := by
      rw [LoadedMetadata.expired, decide_eq_true_eq, add_sub_cancel_left]
      exact lt_irrefl _
    have now := nothing (createdAt.getD 0 + ttl.getD defaultTtl)
    dsimp only at now ⊢
    rw [if_neg fresh] at now
    cases status with
    | none => exact .inl rfl
    | some status =>
      cases headers with
      | none => exact .inr rfl
      | some headers => cases now

/-! ### What other keys leave alone -/

theorem Quiet.removeFile {files : Dict Digest Bytes} (quiet : Quiet json sha256 key files)
    (removes : Digest → Bool) (digest : Digest) :
    Quiet json sha256 key (removeFile removes files digest) := by
  intro content found
  unfold LocalNetwork.removeFile at found
  split at found
  · rw [Dict.get?_erase] at found
    split at found
    · cases found
    · exact quiet content found
  · exact quiet content found

theorem Quiet.insert {files : Dict Digest Bytes} (quiet : Quiet json sha256 key files)
    {digest : Digest} (other : sha256 key ≠ digest) (content : Bytes) :
    Quiet json sha256 key (files.insert digest content) := by
  intro found stored
  rw [Dict.get?_insert_of_ne _ _ other] at stored
  exact quiet found stored

theorem Quiet.evict (quiet : Quiet json sha256 key disk.files) (removes : Digest → Bool)
    (size rounds : Nat) : Quiet json sha256 key (evict sha256 removes size rounds disk).files :=
  evict_keeps (fun disk => Quiet json sha256 key disk.files)
    (fun _ _ _ _ holds => holds.removeFile _ _) size rounds quiet

/-- The key that a call stores. -/
def storedKey : CacheCall Digest → Option String
  | .store entry _ => some entry.key
  | _ => none

/-- No call but a `store` writes a file, and that is the file of its own key. -/
theorem Quiet.afterCall (quiet : Quiet json sha256 key disk.files) {call : CacheCall Digest}
    (other : ∀ stored, storedKey call = some stored → sha256 key ≠ sha256 stored) :
    Quiet json sha256 key (afterCall json sha256 disk call).files := by
  cases call with
  | store entry outcomes =>
    have different := other entry.key rfl
    obtain ⟨evicted, rfl, cases⟩ := storeEntry_cases json sha256 outcomes disk entry
    have quietHere := quiet.evict outcomes.removes entry.size disk.cache.entries.size
    show Quiet json sha256 key (storeEntry json sha256 outcomes disk entry).2.files
    rcases cases with same | ⟨content, same⟩ | ⟨content, -, same⟩
    · rw [same]
      exact quietHere
    · rw [same]
      exact quietHere.insert different content
    · rw [same]
      exact quietHere.insert different content
  | retrieve retrieved now accessed outcomes =>
    simp only [CacheOnDisk.afterCall, CacheOnDisk.retrieve]
    split
    · split
      · exact quiet.removeFile _ _
      · exact quiet
    · rcases retrieveFromDisk_cases json sha256 outcomes disk retrieved now
        with same | same
      · rw [same]
        exact quiet
      · rw [same]
        exact quiet.removeFile _ _
  | purge pattern removes =>
    exact foldl_remove_keeps (fun disk => Quiet json sha256 key disk.files)
      (fun _ _ _ holds => holds.removeFile _ _) quiet

/-- Only a `store` of the key puts it into an index. -/
theorem unindexed_afterCall (absent : disk.cache.entries.get? key = none)
    {call : CacheCall Digest} (other : storedKey call ≠ some key) :
    (afterCall json sha256 disk call).cache.entries.get? key = none := by
  have removed : ∀ (removes : Digest → Bool) (disk : CacheOnDisk Digest) (gone : String),
      disk.cache.entries.get? key = none →
        (disk.remove sha256 removes gone).cache.entries.get? key = none := by
    intro removes disk gone absent
    rw [remove_get?, absent, ite_self]
  cases call with
  | store entry outcomes =>
    have different : key ≠ entry.key := fun same => other (congrArg some same.symm)
    obtain ⟨evicted, rfl, cases⟩ := storeEntry_cases json sha256 outcomes disk entry
    have absentHere := evict_keeps (fun disk => disk.cache.entries.get? key = none)
      (fun other gone _ _ => removed outcomes.removes other gone) entry.size
        disk.cache.entries.size absent
    show (storeEntry json sha256 outcomes disk entry).2.cache.entries.get? key = none
    rcases cases with same | ⟨content, same⟩ | ⟨content, -, same⟩
    · rw [same]
      exact absentHere
    · rw [same]
      exact absentHere
    · rw [same]
      exact (Dict.get?_insert_of_ne _ _ different).trans absentHere
  | retrieve retrieved now accessed outcomes =>
    simp only [CacheOnDisk.afterCall, CacheOnDisk.retrieve]
    split
    · split
      · exact removed _ disk retrieved absent
      · show (disk.cache.entries.modify retrieved _).get? key = none
        rw [Dict.get?_modify, absent, Option.map_none, ite_self]
    · rcases retrieveFromDisk_cases json sha256 outcomes disk retrieved now with same | same
      · rw [same]
        exact absent
      · rw [same]
        exact absent
  | purge pattern removes =>
    exact foldl_remove_keeps (fun disk => disk.cache.entries.get? key = none)
      (fun disk gone _ => removed removes disk gone) absent

/-! ### What a purge removes -/

theorem foldl_remove_get? (removes : Digest → Bool) (keys : List String)
    (disk : CacheOnDisk Digest) (key : String) :
    (keys.foldl (remove sha256 removes) disk).cache.entries.get? key =
      if key ∈ keys then none else disk.cache.entries.get? key := by
  induction keys generalizing disk with
  | nil => simp
  | cons gone rest inductionHypothesis =>
    rw [List.foldl_cons, inductionHypothesis, remove_get?]
    by_cases later : key ∈ rest
    · rw [if_pos later, if_pos (.tail _ later)]
    · rw [if_neg later]
      by_cases here : key = gone
      · rw [if_pos here, if_pos (here ▸ .head _)]
      · rw [if_neg here, if_neg (by simp [here, later])]

theorem foldl_remove_files (removes : Digest → Bool) (keys : List String)
    (disk : CacheOnDisk Digest) (digest : Digest) :
    (keys.foldl (remove sha256 removes) disk).files.get? digest =
      if digest ∈ keys.map sha256 ∧ removes digest = true then none
      else disk.files.get? digest := by
  induction keys generalizing disk with
  | nil => simp
  | cons gone rest inductionHypothesis =>
    rw [List.foldl_cons, inductionHypothesis]
    show (if _ then none else (removeFile removes disk.files (sha256 gone)).get? digest) = _
    unfold removeFile
    by_cases removable : removes digest = true
    · by_cases later : digest ∈ rest.map sha256
      · simp [later, removable]
      · by_cases here : digest = sha256 gone
        · simp [here ▸ removable, here]
        · by_cases other : removes (sha256 gone) = true
          · simp [later, here, other, Dict.get?_erase_of_ne _ here]
          · simp [later, here, other]
    · by_cases other : removes (sha256 gone) = true
      · have different : digest ≠ sha256 gone := fun same => removable (same ▸ other)
        simp [removable, other, Dict.get?_erase_of_ne _ different]
      · simp [removable, other]

/-- No key that the pattern covers is left in the index. -/
theorem purge_get?_of_covered (removes : Digest → Bool) (disk : CacheOnDisk Digest)
    {pattern key : String} (covered : startsWith key pattern = true) :
    (purge sha256 removes disk pattern).2.cache.entries.get? key = none := by
  rw [purge]
  dsimp only
  rw [foldl_remove_get?]
  split
  · rfl
  · rename_i absent
    rw [Dict.get?_eq_none_iff]
    exact fun member => absent (mem_matchingKeys_iff.mpr ⟨member, covered⟩)

/-- The file of a covered key is gone when the key is in the index and the removal succeeds. -/
theorem purge_files_of_covered {keys : Set String} (injective : Set.InjOn sha256 keys)
    (disk : CacheOnDisk Digest)
    (indexed : ∀ key entry, disk.cache.entries.get? key = some entry → key ∈ keys)
    (removes : Digest → Bool) {pattern : String} (used : key ∈ keys)
    (covered : startsWith key pattern = true) :
    (purge sha256 removes disk pattern).2.files.get? (sha256 key) =
      if key ∈ disk.cache.entries.keys ∧ removes (sha256 key) = true then none
      else disk.files.get? (sha256 key) := by
  rw [purge]
  dsimp only
  rw [foldl_remove_files]
  refine if_congr (and_congr_left' ?_) rfl rfl
  rw [List.mem_map]
  constructor
  · rintro ⟨other, member, same⟩
    have otherKey := (mem_matchingKeys_iff.mp member).1
    obtain ⟨entry, found⟩ := Dict.mem_keys_iff.mp otherKey
    rwa [← injective (indexed other entry found) used same]
  · exact fun member => ⟨key, mem_matchingKeys_iff.mpr ⟨member, covered⟩, rfl⟩

end CacheOnDisk

/-! ### Several objects over one directory -/

open CacheOnDisk

/-- The cache objects made so far, of this process and of others, and their directory. -/
structure SharedCache (Digest : Type) where
  caches : Dict Nat DiskCache
  files : Dict Digest Bytes

inductive SharedEvent (Digest : Type) where
  | created (id : Nat) (maxSize : Int)
  | called (id : Nat) (call : CacheCall Digest)

namespace SharedCache

def step (json : MetadataText) (sha256 : String → Digest) (shared : SharedCache Digest) :
    SharedEvent Digest → Option (SharedCache Digest)
  | .created id maxSize =>
    if shared.caches.contains id then none
    else some { shared with caches := shared.caches.insert id (.new maxSize) }
  | .called id call =>
    (shared.caches.get? id).map fun cache =>
      let disk := afterCall json sha256 ⟨cache, shared.files⟩ call
      ⟨shared.caches.insert id disk.cache, disk.files⟩

/-- An event of a run in which a key is not stored; other keys in use may be. -/
def Avoids (keys : Set String) (key : String) : SharedEvent Digest → Prop
  | .created _ _ => True
  | .called _ call => ∀ stored, storedKey call = some stored → stored ∈ keys ∧ stored ≠ key

/-- An object retrieves nothing for a key, now and after any calls on any objects that do not store
the key, as long as the directory is there or can be made. -/
def NothingUntilStored (json : MetadataText) (sha256 : String → Digest) (keys : Set String)
    (shared : SharedCache Digest) (id : Nat) (key : String) : Prop :=
  ∀ events later cache, (∀ event ∈ events, Avoids keys key event) →
    runFrom (step json sha256) shared events = some later → later.caches.get? id = some cache →
      ∀ outcomes : FileOutcomes Digest, outcomes.makesDirectory = true → ∀ now accessed,
        (retrieve json sha256 outcomes ⟨cache, later.files⟩ key now accessed).1 = .ok none

variable {shared : SharedCache Digest} {keys : Set String} {id : Nat} {key : String}

/-- The object has no entry for the key, and no file of the directory answers for it. -/
def Gone (json : MetadataText) (sha256 : String → Digest) (id : Nat) (key : String)
    (shared : SharedCache Digest) : Prop :=
  (∀ cache, shared.caches.get? id = some cache → cache.entries.get? key = none) ∧
    Quiet json sha256 key shared.files

theorem Gone.step (gone : Gone json sha256 id key shared) (injective : Set.InjOn sha256 keys)
    (used : key ∈ keys) {event : SharedEvent Digest} (avoids : Avoids keys key event)
    {next : SharedCache Digest} (stepped : shared.step json sha256 event = some next) :
    Gone json sha256 id key next := by
  cases event with
  | created other maxSize =>
    rw [SharedCache.step] at stepped
    split at stepped
    · cases stepped
    · obtain rfl := Option.some.inj stepped
      refine ⟨fun cache found => ?_, gone.2⟩
      change (shared.caches.insert other (.new maxSize)).get? id = some cache at found
      rw [Dict.get?_insert] at found
      split at found
      · obtain rfl := Option.some.inj found
        rfl
      · exact gone.1 cache found
  | called other call =>
    obtain ⟨cache, present, rfl⟩ := Option.map_eq_some_iff.mp stepped
    have differs : storedKey call ≠ some key := fun same => (avoids key same).2 rfl
    refine ⟨fun found foundHere => ?_, Quiet.afterCall gone.2 fun stored isStored equal => ?_⟩
    · change (shared.caches.insert other _).get? id = some found at foundHere
      rw [Dict.get?_insert] at foundHere
      split at foundHere
      · rename_i same
        obtain rfl := Option.some.inj foundHere
        have absent : (CacheOnDisk.mk cache shared.files).cache.entries.get? key = none :=
          gone.1 cache (same ▸ present)
        exact unindexed_afterCall absent differs
      · exact gone.1 found foundHere
    · obtain ⟨storedUsed, different⟩ := avoids stored isStored
      exact different (injective storedUsed used equal.symm)

theorem Gone.nothingUntilStored (gone : Gone json sha256 id key shared)
    (injective : Set.InjOn sha256 keys) (used : key ∈ keys) :
    NothingUntilStored json sha256 keys shared id key := by
  intro events later cache avoid ran present outcomes reachable now accessed
  have still : Gone json sha256 id key later :=
    run_invariant (fun shared event next avoids holds stepped =>
      Gone.step holds injective used avoids stepped) gone
        (holdsAlong_of_forall (fun event member _ => avoid event member) shared) ran
  rw [retrieve, still.1 cache present]
  exact retrieveFromDisk_of_quiet still.2 reachable now

/-- After a purge through an object, with the empty pattern or another one, the object retrieves
nothing for the keys that the pattern covers until they are stored again, if and only if every file
that answers for such a key belongs to an entry of the object's own index, and can be removed. -/
theorem purge_complete_iff {cache : DiskCache} (present : shared.caches.get? id = some cache)
    (keys : Set String) (injective : Set.InjOn sha256 keys)
    (indexed : ∀ key entry, cache.entries.get? key = some entry → key ∈ keys)
    (pattern : String) (removes : Digest → Bool) {purged : SharedCache Digest}
    (stepped : shared.step json sha256 (.called id (.purge pattern removes)) = some purged) :
    (∀ key ∈ keys, startsWith key pattern = true →
        NothingUntilStored json sha256 keys purged id key) ↔
      ∀ key ∈ keys, startsWith key pattern = true →
        ∀ content, shared.files.get? (sha256 key) = some content →
          key ∈ cache.entries.keys ∧ removes (sha256 key) = true ∨
            Silent json content := by
  obtain ⟨_, presentHere, rfl⟩ := Option.map_eq_some_iff.mp stepped
  obtain rfl := Option.some.inj (present.symm.trans presentHere)
  constructor
  · intro nothing key used covered content file
    by_cases removed : key ∈ cache.entries.keys ∧ removes (sha256 key) = true
    · exact .inl removed
    · right
      have here := purge_files_of_covered injective ⟨cache, shared.files⟩ indexed removes used
        covered
      rw [if_neg removed, file] at here
      refine silent_of_retrieveFromDisk here fun now => ?_
      have retrieved := nothing key used covered [] _ _ (by simp) rfl (Dict.get?_insert_self ..)
        .succeed rfl now now
      change (retrieve json sha256 .succeed
        (purge sha256 removes ⟨cache, shared.files⟩ pattern).2 key now now).1 = _ at retrieved
      rwa [retrieve, purge_get?_of_covered removes _ covered] at retrieved
  · intro silent key used covered
    refine Gone.nothingUntilStored ⟨fun found foundHere => ?_, fun content file => ?_⟩
      injective used
    · obtain rfl := Option.some.inj ((Dict.get?_insert_self ..).symm.trans foundHere)
      exact purge_get?_of_covered removes _ covered
    · change (purge sha256 removes ⟨cache, shared.files⟩ pattern).2.files.get? (sha256 key) =
        some content at file
      rw [purge_files_of_covered injective ⟨cache, shared.files⟩ indexed removes used covered]
        at file
      split at file
      · cases file
      · rename_i kept
        exact (silent key used covered content file).resolve_left kept

/-! ### A second object -/

/-- One object has stored an entry; then a second one is made. -/
def plainShared : SharedCache String where
  caches := Dict.ofEntries
    [(0, (storeEntry plainMetadata plainDigest .succeed (.new 100) plainEntry).2.cache),
      (1, .new 100)]
  files := (storeEntry plainMetadata plainDigest .succeed (.new 100) plainEntry).2.files

/-- The first object purges everything. -/
theorem purge_complete_iff_plain :
    (∀ key ∈ ({"GET:/"} : Set String), startsWith key "" = true →
        NothingUntilStored plainMetadata plainDigest {"GET:/"}
          ((plainShared.step plainMetadata plainDigest
            (.called 0 (.purge "" fun _ => true))).getD plainShared) 0 key) ↔
      ∀ key ∈ ({"GET:/"} : Set String), startsWith key "" = true →
        ∀ content, plainShared.files.get? (plainDigest key) = some content →
          key ∈ ["GET:/"] ∧ true = true ∨ Silent plainMetadata content := by
  have present : plainShared.caches.get? 0 =
      some (storeEntry plainMetadata plainDigest .succeed (.new 100) plainEntry).2.cache := rfl
  have stepped : plainShared.step plainMetadata plainDigest
      (.called 0 (.purge "" fun _ => true)) = some ((plainShared.step plainMetadata plainDigest
        (.called 0 (.purge "" fun _ => true))).getD plainShared) := rfl
  refine purge_complete_iff present {"GET:/"} (Set.injOn_singleton _ _)
    (fun key entry found => ?_) "" (fun _ => true) stepped
  have member := Dict.mem_keys_iff.mpr ⟨entry, found⟩
  exact List.mem_singleton.mp member

/-- The second object purges everything, and retrieves what the first one stored. -/
theorem purge_counterexample :
    runFrom (step plainMetadata plainDigest) ⟨Dict.empty, Dict.empty⟩
        [.created 0 100, .called 0 (.store plainEntry .succeed), .created 1 100] =
          some plainShared ∧
      ∃ purged cache,
        plainShared.step plainMetadata plainDigest (.called 1 (.purge "" fun _ => true)) =
            some purged ∧
          purged.caches.get? 1 = some cache ∧
            (retrieve plainMetadata plainDigest .succeed ⟨cache, purged.files⟩ "GET:/" 200 200).1 =
              .ok (some ⟨200, Dict.empty, [104, 105]⟩) := by
  refine ⟨rfl, _, _, rfl, rfl, ?_⟩
  rfl

end SharedCache

end LocalNetwork
