/-
This file settles what the cache manager says about the age of an entry. Both of its queries
ask the disk cache for the entry first, and the disk cache throws an expired entry away when
it is asked for it. The query for a stale entry then looks for the entry in the index, where
it no longer is: no entry is ever called stale, and an entry that has expired is taken for an
absent one.
-/

import LocalNetwork.CacheRestart

namespace LocalNetwork

variable {Digest : Type} [DecidableEq Digest]

namespace CacheManager

section Queries

variable (json : MetadataText) (sha256 : String → Digest)

/-- `is_fresh`, with the storage as `retrieve` leaves it. -/
def isFresh (outcomes : FileOutcomes Digest) (storage : Option (CacheOnDisk Digest)) (key : String)
    (now accessed : Time) : Except CacheError Bool × Option (CacheOnDisk Digest) :=
  match storage with
  | none => (.ok false, none)
  | some disk =>
    let (result, disk) := disk.retrieve json sha256 outcomes key now accessed
    (result.map fun response => response.isSome, some disk)

/-- `is_stale`: the index is looked at after `retrieve`. -/
def isStale (outcomes : FileOutcomes Digest) (storage : Option (CacheOnDisk Digest)) (key : String)
    (now accessed : Time) : Except CacheError Bool × Option (CacheOnDisk Digest) :=
  match storage with
  | none => (.ok false, none)
  | some disk =>
    let (result, disk) := disk.retrieve json sha256 outcomes key now accessed
    (result.map fun response => response.isNone && disk.cache.entries.contains key, some disk)

end Queries

end CacheManager

/-! ### What is stored -/

/-- When an entry was made, and for how long it is fresh. -/
structure Lifetime where
  createdAt : Time
  ttl : Time

/-- At most as old as its time to live. -/
def Lifetime.Fresh (lifetime : Lifetime) (now : Time) : Prop :=
  now - lifetime.createdAt ≤ lifetime.ttl

/-- The lifetime of the entry in a file, if the file holds one. -/
def fileLifetime (json : MetadataText) (content : Bytes) : Option Lifetime :=
  match readEntry json content with
  | .error _ => none
  | .ok (metadata, _) =>
    if metadata.status.isSome ∧ metadata.headers.isSome then
      some ⟨metadata.createdAt.getD 0, metadata.ttl.getD defaultTtl⟩
    else none

theorem CacheEntry.fresh_iff (entry : CacheEntry) (now : Time) :
    Lifetime.Fresh ⟨entry.createdAt, entry.ttl⟩ now ↔ entry.expired now = false := by
  rw [Lifetime.Fresh, CacheEntry.expired, decide_eq_false_iff_not, not_lt]

theorem LoadedMetadata.fresh_iff (metadata : LoadedMetadata) (now : Time) :
    Lifetime.Fresh ⟨metadata.createdAt.getD 0, metadata.ttl.getD defaultTtl⟩ now ↔
      metadata.expired now = false := by
  rw [Lifetime.Fresh, LoadedMetadata.expired, decide_eq_false_iff_not, not_lt]

namespace CacheOnDisk

/-- The entry that is stored for a key: the one in the index, or else the one in its file. -/
def storedLifetime (json : MetadataText) (sha256 : String → Digest) (disk : CacheOnDisk Digest)
    (key : String) : Option Lifetime :=
  match disk.cache.entries.get? key with
  | some entry => some ⟨entry.createdAt, entry.ttl⟩
  | none => (disk.files.get? (sha256 key)).bind (fileLifetime json)

/-- The index has no entry for the key, and its file cannot be reached. -/
def Unreachable (outcomes : FileOutcomes Digest) (disk : CacheOnDisk Digest) (key : String) : Prop :=
  disk.cache.entries.get? key = none ∧
    (outcomes.makesDirectory = false ∨ outcomes.opens = false)

/-! ### What is retrieved -/

variable {json : MetadataText} {sha256 : String → Digest} {outcomes : FileOutcomes Digest}
  {disk : CacheOnDisk Digest} {key : String} {now accessed : Time}

theorem not_found_none :
    ¬ ∃ response, (.ok none : Except CacheError (Option CachedResponse)) = .ok (some response) := by
  rintro ⟨response, found⟩
  cases found

/-- A file that can be read gives a response if it holds a fresh entry. -/
theorem retrieveFromDisk_found_iff (reachable : outcomes.makesDirectory = true)
    (opens : outcomes.opens = true) :
    (∃ response, (retrieveFromDisk json sha256 outcomes disk key now).1 = .ok (some response)) ↔
      ∃ lifetime, (disk.files.get? (sha256 key)).bind (fileLifetime json) = some lifetime ∧
        lifetime.Fresh now := by
  rw [retrieveFromDisk, reachable, opens]
  cases disk.files.get? (sha256 key) with
  | none => simp
  | some content =>
    simp only [Bool.not_true, Bool.false_eq_true, if_false, Option.bind_some, fileLifetime]
    cases readEntry json content with
    | error error => cases error <;> simp
    | ok parts =>
      obtain ⟨⟨status, headers, ttl, createdAt⟩, body⟩ := parts
      have fresh := LoadedMetadata.fresh_iff ⟨status, headers, ttl, createdAt⟩ now
      dsimp only at fresh ⊢
      cases expired : LoadedMetadata.expired ⟨status, headers, ttl, createdAt⟩ now with
      | true =>
        rw [expired] at fresh
        have old : ¬ Lifetime.Fresh ⟨createdAt.getD 0, ttl.getD defaultTtl⟩ now := by simp [fresh]
        rw [if_pos rfl]
        refine iff_of_false not_found_none ?_
        rintro ⟨lifetime, stored, freshNow⟩
        obtain ⟨-, same⟩ := Option.ite_none_right_eq_some.mp stored
        exact old (Option.some.inj same ▸ freshNow)
      | false =>
        have young : Lifetime.Fresh ⟨createdAt.getD 0, ttl.getD defaultTtl⟩ now :=
          fresh.mpr expired
        rw [if_neg Bool.false_ne_true]
        rcases status with _ | status
        · exact iff_of_false not_found_none (by simp)
        · rcases headers with _ | headers
          · exact iff_of_false not_found_none (by simp)
          · exact iff_of_true ⟨_, rfl⟩ ⟨_, rfl, young⟩

theorem retrieveFromDisk_unreachable
    (unreachable : outcomes.makesDirectory = false ∨ outcomes.opens = false)
    (response : CachedResponse) :
    (retrieveFromDisk json sha256 outcomes disk key now).1 ≠ .ok (some response) := by
  unfold retrieveFromDisk
  rcases unreachable with directory | file
  · rw [directory]
    simp
  · rw [file]
    cases outcomes.makesDirectory with
    | false => simp
    | true => cases disk.files.get? (sha256 key) <;> simp

/-- A response is retrieved exactly if a fresh entry is stored and can be reached. -/
theorem retrieve_found_iff (accessed : Time) :
    (∃ response, (retrieve json sha256 outcomes disk key now accessed).1 = .ok (some response)) ↔
      (∃ lifetime, storedLifetime json sha256 disk key = some lifetime ∧ lifetime.Fresh now) ∧
        ¬ Unreachable outcomes disk key := by
  unfold retrieve storedLifetime Unreachable
  cases disk.cache.entries.get? key with
  | some entry =>
    have fresh := entry.fresh_iff now
    dsimp only
    cases expired : entry.expired now with
    | true =>
      have old : ¬ Lifetime.Fresh ⟨entry.createdAt, entry.ttl⟩ now := by simp [fresh, expired]
      rw [if_pos rfl]
      refine iff_of_false not_found_none ?_
      rintro ⟨⟨lifetime, same, freshNow⟩, -⟩
      exact old (Option.some.inj same ▸ freshNow)
    | false =>
      rw [if_neg Bool.false_ne_true]
      exact iff_of_true ⟨_, rfl⟩ ⟨⟨_, rfl, fresh.mpr expired⟩, by simp⟩
  | none =>
    dsimp only
    by_cases unreachable : outcomes.makesDirectory = false ∨ outcomes.opens = false
    · constructor
      · rintro ⟨response, found⟩
        exact absurd found (retrieveFromDisk_unreachable unreachable response)
      · exact fun ⟨_, reachable⟩ => absurd ⟨rfl, unreachable⟩ reachable
    · rw [not_or, Bool.not_eq_false, Bool.not_eq_false] at unreachable
      rw [retrieveFromDisk_found_iff unreachable.1 unreachable.2]
      simp [unreachable.1, unreachable.2]

/-- After a query that finds nothing the key is not in the index. -/
theorem retrieve_none_absent
    (nothing : (retrieve json sha256 outcomes disk key now accessed).1 = .ok none) :
    (retrieve json sha256 outcomes disk key now accessed).2.cache.entries.contains key = false := by
  unfold retrieve at nothing ⊢
  cases found : disk.cache.entries.get? key with
  | some entry =>
    rw [found] at nothing
    dsimp only at nothing ⊢
    split at nothing
    · rename_i expired
      rw [if_pos expired, Dict.contains, remove_get?, if_pos rfl, Option.isSome_none]
    · cases nothing
  | none =>
    dsimp only
    have kept : (retrieveFromDisk json sha256 outcomes disk key now).2.cache = disk.cache := by
      rcases retrieveFromDisk_cases json sha256 outcomes disk key now with same | same <;> rw [same]
    rw [kept, Dict.contains, found, Option.isSome_none]

end CacheOnDisk

/-! ### The queries -/

namespace CacheManager

variable {json : MetadataText} {sha256 : String → Digest} {outcomes : FileOutcomes Digest}
  {disk : CacheOnDisk Digest} {key : String} {now accessed : Time}

theorem isFresh_iff :
    (isFresh json sha256 outcomes (some disk) key now accessed).1 = .ok true ↔
      (∃ lifetime, disk.storedLifetime json sha256 key = some lifetime ∧ lifetime.Fresh now) ∧
        ¬ disk.Unreachable outcomes key := by
  rw [← CacheOnDisk.retrieve_found_iff accessed, isFresh]
  dsimp only
  rcases (disk.retrieve json sha256 outcomes key now accessed).1 with error | _ | response
  · simp [Except.map]
  · simp [Except.map]
  · simp [Except.map]

/-- No entry is ever called stale. -/
theorem isStale_ne_true (storage : Option (CacheOnDisk Digest)) :
    (isStale json sha256 outcomes storage key now accessed).1 ≠ .ok true := by
  cases storage with
  | none => nofun
  | some disk =>
    rw [isStale]
    dsimp only
    rcases result : (disk.retrieve json sha256 outcomes key now accessed).1 with
      error | _ | response
    · simp [Except.map]
    · simp [Except.map, CacheOnDisk.retrieve_none_absent result]
    · simp [Except.map]

/-- The two queries tell a fresh entry, a stale one and none apart. -/
structure ToldApart (json : MetadataText) (sha256 : String → Digest)
    (outcomes : FileOutcomes Digest) (disk : CacheOnDisk Digest) (key : String)
    (now accessed : Time) : Prop where
  fresh : (isFresh json sha256 outcomes (some disk) key now accessed).1 = .ok true ↔
    ∃ lifetime, disk.storedLifetime json sha256 key = some lifetime ∧ lifetime.Fresh now
  stale : (isStale json sha256 outcomes (some disk) key now accessed).1 = .ok true ↔
    ∃ lifetime, disk.storedLifetime json sha256 key = some lifetime ∧ ¬ lifetime.Fresh now
  one :
    ((isFresh json sha256 outcomes (some disk) key now accessed).1 = .ok true ∨
      (isStale json sha256 outcomes (some disk) key now accessed).1 = .ok true ∨
        disk.storedLifetime json sha256 key = none) ∧
    ¬ ((isFresh json sha256 outcomes (some disk) key now accessed).1 = .ok true ∧
      (isStale json sha256 outcomes (some disk) key now accessed).1 = .ok true) ∧
    ¬ ((isFresh json sha256 outcomes (some disk) key now accessed).1 = .ok true ∧
      disk.storedLifetime json sha256 key = none) ∧
    ¬ ((isStale json sha256 outcomes (some disk) key now accessed).1 = .ok true ∧
      disk.storedLifetime json sha256 key = none)

/-- Fresh, stale and absent are told apart if and only if an entry that is stored for the key is
fresh and can be reached. -/
theorem toldApart_iff (json : MetadataText) (sha256 : String → Digest)
    (outcomes : FileOutcomes Digest) (disk : CacheOnDisk Digest) (key : String)
    (now accessed : Time) :
    ToldApart json sha256 outcomes disk key now accessed ↔
      ∀ lifetime, disk.storedLifetime json sha256 key = some lifetime →
        lifetime.Fresh now ∧ ¬ disk.Unreachable outcomes key := by
  have neverStale : (isStale json sha256 outcomes (some disk) key now accessed).1 ≠ .ok true :=
    isStale_ne_true (some disk)
  constructor
  · intro apart lifetime stored
    have fresh : lifetime.Fresh now := by
      by_contra old
      exact neverStale (apart.stale.mpr ⟨lifetime, stored, old⟩)
    exact ⟨fresh, (isFresh_iff.mp (apart.fresh.mpr ⟨lifetime, stored, fresh⟩)).2⟩
  · intro condition
    refine ⟨⟨fun answer => (isFresh_iff.mp answer).1, ?_⟩, ⟨fun answer => absurd answer neverStale,
      ?_⟩, ?_, fun both => neverStale both.2, ?_, fun both => neverStale both.1⟩
    · rintro ⟨lifetime, stored, fresh⟩
      exact isFresh_iff.mpr ⟨⟨lifetime, stored, fresh⟩, (condition lifetime stored).2⟩
    · rintro ⟨lifetime, stored, old⟩
      exact absurd (condition lifetime stored).1 old
    · cases stored : disk.storedLifetime json sha256 key with
      | none => exact .inr (.inr rfl)
      | some lifetime =>
        obtain ⟨fresh, reachable⟩ := condition lifetime stored
        exact .inl (isFresh_iff.mpr ⟨⟨lifetime, stored, fresh⟩, reachable⟩)
    · rintro ⟨answer, absent⟩
      obtain ⟨⟨lifetime, stored, -⟩, -⟩ := isFresh_iff.mp answer
      rw [absent] at stored
      cases stored

end CacheManager

/-! ### An entry that has expired -/

/-- An entry is stored for 300 seconds; 400 seconds later it is not called stale. -/
theorem isStale_counterexample :
    ∃ disk, CacheOnDisk.run plainMetadata plainDigest (.new 100) [.store plainEntry .succeed] =
        some disk ∧
      disk.storedLifetime plainMetadata plainDigest "GET:/" = some ⟨100, 300⟩ ∧
        ¬ Lifetime.Fresh ⟨100, 300⟩ 500 ∧
          (CacheManager.isStale plainMetadata plainDigest .succeed (some disk) "GET:/" 500
            500).1 = .ok false ∧
            ¬ CacheManager.ToldApart plainMetadata plainDigest .succeed disk "GET:/" 500 500 := by
  refine ⟨_, rfl, rfl, by unfold Lifetime.Fresh; decide, rfl, fun apart => ?_⟩
  have stale := apart.stale.mpr ⟨⟨100, 300⟩, rfl, by unfold Lifetime.Fresh; decide⟩
  exact CacheManager.isStale_ne_true _ stale

end LocalNetwork
