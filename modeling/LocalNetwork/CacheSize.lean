/-
This file proves what the disk cache knows about its size. Entries are evicted along the order
of their last accesses, and the loop stops as soon as the new body fits in, or when nothing
is left.

The count of bytes is never below the bytes that are in the index. It is above them once an
entry was replaced that was still there, because the old body is not subtracted; it then
stays above. An eviction may therefore take more entries than it has to, but it always makes
enough room. As long as no such entry is replaced the count is exact.
-/

import LocalNetwork.CacheRestart
import LocalNetwork.DiskCache
import LocalNetwork.RankOrder
import LocalNetwork.Totals
import LocalNetwork.Transition

namespace LocalNetwork

variable {Digest : Type} [DecidableEq Digest] {json : MetadataText} {sha256 : String → Digest}

/-- The bytes of all bodies in the index. -/
def DiskCache.bodies (cache : DiskCache) : Nat := (cache.entries.values.map CacheEntry.size).sum

theorem DiskCache.bodies_eq_total (cache : DiskCache) :
    cache.bodies = cache.entries.total fun _ entry => entry.size :=
  (cache.entries.total_values CacheEntry.size).symm

/-- How far the count is above the bytes in the index. -/
def DiskCache.excess (cache : DiskCache) : Int := cache.currentSize - cache.bodies

namespace CacheOnDisk

/-! ### The order of eviction -/

/-- The entries of an index in the order in which they would be evicted. -/
def evictionOrder (entries : Dict String CacheEntry) : List (String × CacheEntry) :=
  byRank (fun entry => entry.2.lastAccess) entries.entries

/-- The bytes of the body under a key and of all bodies that would be evicted after it. -/
def bytesFrom (key : String) (entries : Dict String CacheEntry) : Nat :=
  (((evictionOrder entries).dropWhile fun entry => decide (entry.1 ≠ key)).map
    fun entry => entry.2.size).sum

theorem mem_evictionOrder {entries : Dict String CacheEntry} {key : String} {entry : CacheEntry} :
    (key, entry) ∈ evictionOrder entries ↔ entries.get? key = some entry := by
  rw [evictionOrder, mem_byRank, Dict.get?_eq_some_iff]

theorem evictionOrder_nodup (entries : Dict String CacheEntry) :
    ((evictionOrder entries).map Prod.fst).Nodup :=
  ((byRank_perm entries.entries).map Prod.fst).nodup_iff.mpr entries.distinct

theorem leastRecentlyUsed_eq (entries : Dict String CacheEntry) :
    leastRecentlyUsed entries = (evictionOrder entries).head?.map Prod.fst := by
  rw [leastRecentlyUsed, evictionOrder, head?_byRank]

theorem evictionOrder_erase (entries : Dict String CacheEntry) (key : String) :
    evictionOrder (entries.erase key) =
      (evictionOrder entries).filter fun entry => decide (entry.1 ≠ key) :=
  byRank_filter _ entries.entries

/-- Without its first entry. -/
theorem evictionOrder_erase_head {entries : Dict String CacheEntry} {key : String}
    {entry : CacheEntry} {rest : List (String × CacheEntry)}
    (order : evictionOrder entries = (key, entry) :: rest) :
    evictionOrder (entries.erase key) = rest := by
  have distinct := evictionOrder_nodup entries
  rw [order, List.map_cons, List.nodup_cons] at distinct
  rw [evictionOrder_erase, order, List.filter_cons_of_neg (by simp), List.filter_eq_self]
  intro other member
  exact decide_eq_true fun same => distinct.1 (List.mem_map.mpr ⟨other, member, same⟩)

theorem sum_evictionOrder (cache : DiskCache) :
    ((evictionOrder cache.entries).map fun entry => entry.2.size).sum = cache.bodies := by
  rw [DiskCache.bodies_eq_total, Dict.total]
  exact ((byRank_perm cache.entries.entries).map _).sum_eq

/-! ### Removing entries -/

theorem remove_maxSize (removes : Digest → Bool) (disk : CacheOnDisk Digest) (key : String) :
    (disk.remove sha256 removes key).cache.maxSize = disk.cache.maxSize := by
  unfold remove
  cases disk.cache.entries.get? key <;> rfl

theorem remove_of_present {disk : CacheOnDisk Digest} {key : String} {entry : CacheEntry}
    (present : disk.cache.entries.get? key = some entry) (removes : Digest → Bool) :
    (disk.remove sha256 removes key).cache =
      { disk.cache with
        entries := disk.cache.entries.erase key
        currentSize := max 0 (disk.cache.currentSize - entry.size) } := by
  unfold remove
  rw [present]

theorem remove_of_absent {disk : CacheOnDisk Digest} {key : String}
    (absent : disk.cache.entries.get? key = none) (removes : Digest → Bool) :
    (disk.remove sha256 removes key).cache = disk.cache := by
  unfold remove
  rw [absent]

/-- A removal takes the bytes of the entry away. -/
theorem bodies_remove {disk : CacheOnDisk Digest} {key : String} {entry : CacheEntry}
    (present : disk.cache.entries.get? key = some entry) (removes : Digest → Bool) :
    disk.cache.bodies = entry.size + (disk.remove sha256 removes key).cache.bodies := by
  rw [remove_of_present present, DiskCache.bodies_eq_total, DiskCache.bodies_eq_total,
    Dict.total_eq_add_erase _ key, present]
  rfl

/-- An eviction removes the first entry in the order. -/
theorem evictOne_of_order {disk : CacheOnDisk Digest} {key : String} {entry : CacheEntry}
    {rest : List (String × CacheEntry)}
    (order : evictionOrder disk.cache.entries = (key, entry) :: rest) (removes : Digest → Bool) :
    disk.cache.entries.get? key = some entry ∧
      evictOne sha256 removes disk = disk.remove sha256 removes key ∧
      evictionOrder (disk.remove sha256 removes key).cache.entries = rest := by
  have present : disk.cache.entries.get? key = some entry :=
    mem_evictionOrder.mp (order ▸ List.mem_cons_self)
  refine ⟨present, ?_, ?_⟩
  · rw [evictOne, leastRecentlyUsed_eq, order]
    rfl
  · rw [remove_of_present present]
    exact evictionOrder_erase_head order

theorem evictionOrder_eq_nil_iff {entries : Dict String CacheEntry} :
    evictionOrder entries = [] ↔ entries.entries = [] := by
  rw [evictionOrder, ← List.length_eq_zero_iff, (byRank_perm _).length_eq, List.length_eq_zero_iff]

theorem length_evictionOrder (entries : Dict String CacheEntry) :
    (evictionOrder entries).length = entries.size :=
  (byRank_perm _).length_eq

/-! ### The eviction loop -/

/-- Entries are evicted along the order, and after as many rounds as there are entries the condition
of the loop is false. -/
theorem evict_along_order (removes : Digest → Bool) (size : Nat) {rounds : Nat}
    {disk : CacheOnDisk Digest} (enough : disk.cache.entries.size ≤ rounds) :
    needsEviction (evict sha256 removes size rounds disk) size = false ∧
      ∃ count, evictionOrder (evict sha256 removes size rounds disk).cache.entries =
        (evictionOrder disk.cache.entries).drop count := by
  induction rounds generalizing disk with
  | zero =>
    have empty : disk.cache.entries.entries = [] := List.eq_nil_of_length_eq_zero (by
      exact Nat.le_zero.mp enough)
    refine ⟨?_, 0, rfl⟩
    rw [evict, needsEviction, empty]
    simp
  | succ rounds inductionHypothesis =>
    rw [evict]
    split
    · rename_i needed
      cases order : evictionOrder disk.cache.entries with
      | nil =>
        rw [needsEviction, evictionOrder_eq_nil_iff.mp order] at needed
        simp at needed
      | cons first rest =>
        obtain ⟨-, evicted, orderRest⟩ := @evictOne_of_order _ _ sha256 _ _ _ _ order removes
        rw [evicted]
        have fewer : (disk.remove sha256 removes first.1).cache.entries.size ≤ rounds := by
          rw [← length_evictionOrder] at enough ⊢
          rw [orderRest]
          rw [order] at enough
          exact Nat.le_of_succ_le_succ enough
        obtain ⟨ended, count, dropped⟩ := inductionHypothesis fewer
        exact ⟨ended, count + 1, by rw [dropped, orderRest, List.drop_succ_cons]⟩
    · rename_i fits
      exact ⟨eq_false_of_ne_true fits, 0, rfl⟩

/-- What an eviction loop leaves was there before it. -/
theorem evict_get? {removes : Digest → Bool} {size rounds : Nat} {disk : CacheOnDisk Digest}
    {key : String} {entry : CacheEntry}
    (left : (evict sha256 removes size rounds disk).cache.entries.get? key = some entry) :
    disk.cache.entries.get? key = some entry := by
  revert left
  refine evict_keeps (fun reached => reached.cache.entries.get? key = some entry →
    disk.cache.entries.get? key = some entry) (fun reached other _ _ holds left => ?_) size rounds id
  rw [remove_get?] at left
  split at left
  · cases left
  · exact holds left

theorem evict_maxSize (removes : Digest → Bool) (size rounds : Nat) (disk : CacheOnDisk Digest) :
    (evict sha256 removes size rounds disk).cache.maxSize = disk.cache.maxSize :=
  evict_keeps (fun reached => reached.cache.maxSize = disk.cache.maxSize)
    (fun reached key _ _ holds => (remove_maxSize removes reached key).trans holds) size rounds rfl

/-- What was evicted was not accessed later than what is left. -/
theorem evict_least_recent {removes : Digest → Bool} {size : Nat} {disk : CacheOnDisk Digest}
    {key other : String} {old kept : CacheEntry}
    (present : disk.cache.entries.get? key = some old)
    (evicted : (evict sha256 removes size disk.cache.entries.size disk).cache.entries.get? key =
      none)
    (left : (evict sha256 removes size disk.cache.entries.size disk).cache.entries.get? other =
      some kept) : old.lastAccess ≤ kept.lastAccess := by
  obtain ⟨-, count, dropped⟩ := @evict_along_order _ _ sha256 removes size _ disk (le_refl _)
  have sorted := @byRank_pairwise _ _ _ (fun entry : String × CacheEntry => entry.2.lastAccess)
    disk.cache.entries.entries
  rw [← evictionOrder, ← List.take_append_drop count (evictionOrder disk.cache.entries),
    List.pairwise_append] at sorted
  have behind := mem_evictionOrder.mpr left
  rw [dropped] at behind
  have before : (key, old) ∈ (evictionOrder disk.cache.entries).take count := by
    have member := mem_evictionOrder.mpr present
    rw [← List.take_append_drop count (evictionOrder disk.cache.entries), List.mem_append,
      ← dropped] at member
    refine member.resolve_right fun here => ?_
    rw [mem_evictionOrder, evicted] at here
    cases here
  exact sorted.2.2 _ before _ behind

/-! ### The count of bytes -/

/-- A removal subtracts what it takes away; the count does not reach 0 before nothing is left. -/
theorem excess_remove (removes : Digest → Bool) {disk : CacheOnDisk Digest} (key : String)
    (covers : 0 ≤ disk.cache.excess) :
    (disk.remove sha256 removes key).cache.excess = disk.cache.excess := by
  cases present : disk.cache.entries.get? key with
  | none => rw [remove_of_absent present]
  | some entry =>
    have parts := @bodies_remove _ _ sha256 _ _ _ present removes
    unfold DiskCache.excess at covers ⊢
    rw [remove_of_present present] at parts ⊢
    simp only at parts ⊢
    omega

theorem excess_evict (removes : Digest → Bool) (size rounds : Nat) {disk : CacheOnDisk Digest}
    (covers : 0 ≤ disk.cache.excess) :
    (evict sha256 removes size rounds disk).cache.excess = disk.cache.excess := by
  refine evict_keeps (fun reached => reached.cache.excess = disk.cache.excess)
    (fun reached key _ _ same => ?_) size rounds rfl
  rw [excess_remove removes key (same ▸ covers), same]

theorem excess_purge (removes : Digest → Bool) (pattern : String) {disk : CacheOnDisk Digest}
    (covers : 0 ≤ disk.cache.excess) :
    (disk.purge sha256 removes pattern).2.cache.excess = disk.cache.excess := by
  refine foldl_remove_keeps (fun reached => reached.cache.excess = disk.cache.excess)
    (fun reached key _ same => ?_) rfl
  rw [excess_remove removes key (same ▸ covers), same]

/-- A last access is noted without a change of size. -/
theorem bodies_modify (cache : DiskCache) (key : String) (accessed : Time) :
    ({ cache with
        entries := cache.entries.modify key fun entry => { entry with lastAccess := accessed } } :
      DiskCache).bodies = cache.bodies := by
  rw [DiskCache.bodies, DiskCache.bodies, Dict.values, Dict.values, Dict.modify, Dict.mapValues]
  simp only [List.map_map]
  refine congrArg List.sum (List.map_congr_left fun entry _ => ?_)
  show CacheEntry.size (if entry.1 = key then { entry.2 with lastAccess := accessed } else entry.2) =
    entry.2.size
  split <;> rfl

theorem excess_retrieve (outcomes : FileOutcomes Digest) {disk : CacheOnDisk Digest} (key : String)
    (now accessed : Time) (covers : 0 ≤ disk.cache.excess) :
    (retrieve json sha256 outcomes disk key now accessed).2.cache.excess = disk.cache.excess := by
  unfold retrieve
  cases disk.cache.entries.get? key with
  | none =>
    simp only
    rcases retrieveFromDisk_cases json sha256 outcomes disk key now with same | same
    · rw [same]
    · rw [same]
  | some entry =>
    simp only
    split
    · exact excess_remove outcomes.removes key covers
    · rw [DiskCache.excess, DiskCache.excess, bodies_modify]

/-! ### Stores -/

/-- The whole file of an entry gets written. -/
def Writes (json : MetadataText) (outcomes : FileOutcomes Digest) (entry : CacheEntry) : Prop :=
  outcomes.makesDirectory = true ∧ outcomes.opens = true ∧ outcomes.writesUpTo = none ∧
    (entryFile json entry).isSome = true

omit [DecidableEq Digest] in
instance (json : MetadataText) (outcomes : FileOutcomes Digest) (entry : CacheEntry) :
    Decidable (Writes json outcomes entry) := inferInstanceAs (Decidable (_ ∧ _ ∧ _ ∧ _))

theorem storeEntry_of_writes {outcomes : FileOutcomes Digest} {entry : CacheEntry}
    (writes : Writes json outcomes entry) (disk : CacheOnDisk Digest) :
    ∃ evicted content,
      evicted = evict sha256 outcomes.removes entry.size disk.cache.entries.size disk ∧
        entryFile json entry = some content ∧ storeEntry json sha256 outcomes disk entry =
          (.ok (), { files := evicted.files.insert (sha256 entry.key) content
                     cache :=
                       { evicted.cache with
                         entries := evicted.cache.entries.insert entry.key entry
                         currentSize := evicted.cache.currentSize + entry.size } }) := by
  obtain ⟨makes, opens, all, isSome⟩ := writes
  obtain ⟨content, written⟩ := Option.isSome_iff_exists.mp isSome
  refine ⟨_, content, rfl, written, ?_⟩
  simp only [storeEntry, makes, opens, all, written, Bool.not_true, Bool.false_eq_true, if_false]

theorem storeEntry_of_not_writes {outcomes : FileOutcomes Digest} {entry : CacheEntry}
    (fails : ¬ Writes json outcomes entry) (disk : CacheOnDisk Digest) :
    (storeEntry json sha256 outcomes disk entry).2.cache =
      (evict sha256 outcomes.removes entry.size disk.cache.entries.size disk).cache := by
  simp only [storeEntry]
  split
  · rfl
  · rename_i makes
    split
    · rfl
    · rename_i opens
      cases written : entryFile json entry with
      | none => rfl
      | some content =>
        cases all : outcomes.writesUpTo with
        | some count => rfl
        | none =>
          refine absurd ⟨by simpa using makes, by simpa using opens, all, ?_⟩ fails
          rw [written]
          rfl

/-- A store that writes adds to the excess what it replaces. -/
theorem excess_store {outcomes : FileOutcomes Digest} {entry : CacheEntry}
    (writes : Writes json outcomes entry) {disk : CacheOnDisk Digest}
    (covers : 0 ≤ disk.cache.excess) :
    (storeEntry json sha256 outcomes disk entry).2.cache.excess = disk.cache.excess +
      ((evict sha256 outcomes.removes entry.size disk.cache.entries.size disk).cache.entries.get?
        entry.key).elim 0 CacheEntry.size := by
  have kept := @excess_evict _ _ sha256 outcomes.removes entry.size disk.cache.entries.size _ covers
  obtain ⟨evicted, content, isEvicted, -, stored⟩ :=
    @storeEntry_of_writes _ _ _ sha256 _ _ writes disk
  rw [← isEvicted] at kept ⊢
  have parts := @Dict.total_eq_add_erase _ _ _ _ (fun _ entry => entry.size) _
    evicted.cache.entries entry.key
  rw [stored, ← kept]
  unfold DiskCache.excess
  rw [DiskCache.bodies_eq_total, DiskCache.bodies_eq_total]
  simp only
  rw [Dict.total_insert, parts]
  cases evicted.cache.entries.get? entry.key with
  | none =>
    simp only [Option.elim_none]
    omega
  | some old =>
    simp only [Option.elim_some]
    omega

/-- The count is never below the bytes in the index. -/
theorem covers_afterCall (call : CacheCall Digest) {disk : CacheOnDisk Digest}
    (covers : 0 ≤ disk.cache.excess) : 0 ≤ (afterCall json sha256 disk call).cache.excess := by
  cases call with
  | store entry outcomes =>
    rw [afterCall]
    by_cases writes : Writes json outcomes entry
    · rw [excess_store writes covers]
      omega
    · unfold DiskCache.excess
      rw [storeEntry_of_not_writes writes, ← DiskCache.excess, excess_evict _ _ _ covers]
      exact covers
  | retrieve key now accessed outcomes =>
    rw [afterCall, excess_retrieve outcomes key now accessed covers]
    exact covers
  | purge pattern removes =>
    rw [afterCall, excess_purge removes pattern covers]
    exact covers

theorem afterCall_maxSize (call : CacheCall Digest) (disk : CacheOnDisk Digest) :
    (afterCall json sha256 disk call).cache.maxSize = disk.cache.maxSize := by
  cases call with
  | store entry outcomes =>
    rw [afterCall]
    by_cases writes : Writes json outcomes entry
    · obtain ⟨evicted, content, rfl, -, stored⟩ :=
        @storeEntry_of_writes _ _ _ sha256 _ _ writes disk
      rw [stored]
      exact evict_maxSize ..
    · rw [storeEntry_of_not_writes writes]
      exact evict_maxSize ..
  | retrieve key now accessed outcomes =>
    rw [afterCall]
    unfold retrieve
    split
    · split
      · exact remove_maxSize ..
      · rfl
    · rcases retrieveFromDisk_cases json sha256 outcomes disk key now with same | same
      · rw [same]
      · rw [same]
  | purge pattern removes =>
    exact foldl_remove_keeps (fun reached => reached.cache.maxSize = disk.cache.maxSize)
      (fun reached key _ holds => (remove_maxSize removes reached key).trans holds) rfl

/-! ### What an eviction makes room for -/

omit [DecidableEq Digest] in
/-- When the loop has ended the new body fits in, or nothing is left. -/
theorem fits_of_not_needsEviction {disk : CacheOnDisk Digest} {size : Nat}
    (ended : needsEviction disk size = false) :
    disk.cache.currentSize + size ≤ disk.cache.maxSize ∨ disk.cache.entries.entries = [] := by
  rwa [needsEviction, decide_eq_false_iff_not, not_and_or, Int.not_lt, not_not] at ended

theorem bodies_of_empty {cache : DiskCache} (empty : cache.entries.entries = []) :
    cache.bodies = 0 := by
  rw [DiskCache.bodies, Dict.values, empty]
  rfl

/-- After a store the bytes in the index are no more than allowed. -/
theorem bodies_store_le {outcomes : FileOutcomes Digest} {entry : CacheEntry}
    (writes : Writes json outcomes entry) {disk : CacheOnDisk Digest}
    (covers : 0 ≤ disk.cache.excess) (fits : (entry.size : Int) ≤ disk.cache.maxSize) :
    ((storeEntry json sha256 outcomes disk entry).2.cache.bodies : Int) ≤ disk.cache.maxSize := by
  obtain ⟨ended, -⟩ := @evict_along_order _ _ sha256 outcomes.removes entry.size _ disk (le_refl _)
  have kept := @excess_evict _ _ sha256 outcomes.removes entry.size disk.cache.entries.size _ covers
  have bound := @evict_maxSize _ _ sha256 outcomes.removes entry.size disk.cache.entries.size disk
  obtain ⟨evicted, content, isEvicted, -, stored⟩ :=
    @storeEntry_of_writes _ _ _ sha256 _ _ writes disk
  rw [← isEvicted] at ended kept bound
  have less : (evicted.cache.entries.erase entry.key).total (fun _ entry => entry.size) ≤
      evicted.cache.bodies := by
    rw [DiskCache.bodies_eq_total, @Dict.total_eq_add_erase _ _ _ _ _ _ evicted.cache.entries
      entry.key]
    exact Nat.le_add_left _ _
  rw [stored, DiskCache.bodies_eq_total]
  simp only
  rw [Dict.total_insert]
  unfold DiskCache.excess at covers kept
  rcases fits_of_not_needsEviction ended with room | empty
  · omega
  · have nothing := bodies_of_empty empty
    omega

/-! ### Entries that stay -/

/-- The keys in use when an entry is stored: those in the index and its own. -/
def usedKeys (disk : CacheOnDisk Digest) (entry : CacheEntry) : Set String :=
  {key | key = entry.key ∨ key ∈ disk.cache.entries.keys}

/-- The file of an entry that is not evicted stays as it is. -/
theorem evict_file {removes : Digest → Bool} {size rounds : Nat} {disk : CacheOnDisk Digest}
    {entry : CacheEntry} (injective : Set.InjOn sha256 (usedKeys disk entry)) {other : String}
    {kept : CacheEntry}
    (left : (evict sha256 removes size rounds disk).cache.entries.get? other = some kept) :
    (evict sha256 removes size rounds disk).files.get? (sha256 other) =
      disk.files.get? (sha256 other) := by
  have used : ∀ key, (∃ found, disk.cache.entries.get? key = some found) →
      key ∈ usedKeys disk entry := fun key found => .inr (Dict.mem_keys_iff.mpr found)
  -- Only keys of the index are removed, and none of them is the one that is left.
  have rule := @evict_keeps _ _ sha256 (fun reached =>
    (∀ key found, reached.cache.entries.get? key = some found →
      ∃ found, disk.cache.entries.get? key = some found) ∧
    ∀ found, reached.cache.entries.get? other = some found →
      reached.files.get? (sha256 other) = disk.files.get? (sha256 other)) removes
    (fun reached key found present holds => ?_) size rounds disk
    ⟨fun key found present => ⟨found, present⟩, fun _ _ => rfl⟩
  · exact rule.2 kept left
  · constructor
    · intro another foundThere presentThere
      rw [remove_get?] at presentThere
      split at presentThere
      · cases presentThere
      · exact holds.1 another foundThere presentThere
    · intro foundThere presentThere
      rw [remove_get?] at presentThere
      split at presentThere
      · cases presentThere
      · rename_i different
        have digests : sha256 other ≠ sha256 key := fun same =>
          different (injective (used other (holds.1 other _ presentThere))
            (used key (holds.1 key found present)) same)
        rw [← holds.2 foundThere presentThere]
        show (removeFile removes reached.files (sha256 key)).get? (sha256 other) = _
        rw [removeFile]
        split
        · exact Dict.get?_erase_of_ne _ digests
        · rfl

/-! ### Stores in every reachable state -/

theorem covers_new (maxSize : Int) : 0 ≤ (DiskCache.new maxSize).excess := le_refl _

/-- In every reachable state the count covers the index, under the bound of the object. -/
theorem reachable_covers {maxSize : Int} {files : Dict Digest Bytes}
    {calls : List (CacheCall Digest)} {disk : CacheOnDisk Digest}
    (ran : run json sha256 ⟨.new maxSize, files⟩ calls = some disk) :
    0 ≤ disk.cache.excess ∧ disk.cache.maxSize = maxSize := by
  refine @run_invariant _ _ _ _ (fun disk => 0 ≤ disk.cache.excess ∧ disk.cache.maxSize = maxSize)
    (fun disk call next _ holds stepped => ?_) _ _ _ ⟨covers_new maxSize, rfl⟩
    (holdsAlong_true calls _) ran
  obtain rfl := Option.some.inj stepped
  exact ⟨covers_afterCall call holds.1, (afterCall_maxSize call disk).trans holds.2⟩

/-- Let an entry that is not larger than the cache be stored in any reachable state. The eviction
loop ends; what it evicts was not accessed later than what it leaves; the other entries and their
files stay as they are; the new entry is in the index, with its file; and the bodies in the index
are not larger than the cache. -/
theorem store_evicts_least_recent (maxSize : Int) (files : Dict Digest Bytes)
    (calls : List (CacheCall Digest)) {disk : CacheOnDisk Digest}
    (ran : run json sha256 ⟨.new maxSize, files⟩ calls = some disk) {entry : CacheEntry}
    {outcomes : FileOutcomes Digest} (fits : (entry.size : Int) ≤ maxSize)
    (writes : Writes json outcomes entry)
    (injective : Set.InjOn sha256 (usedKeys disk entry)) :
    let evicted := evict sha256 outcomes.removes entry.size disk.cache.entries.size disk
    let stored := (storeEntry json sha256 outcomes disk entry).2
    needsEviction evicted entry.size = false ∧
      (∀ key old, disk.cache.entries.get? key = some old → evicted.cache.entries.get? key = none →
        ∀ other kept, evicted.cache.entries.get? other = some kept →
          old.lastAccess ≤ kept.lastAccess) ∧
      (∀ key kept, key ≠ entry.key → evicted.cache.entries.get? key = some kept →
        disk.cache.entries.get? key = some kept ∧ stored.cache.entries.get? key = some kept ∧
          stored.files.get? (sha256 key) = disk.files.get? (sha256 key)) ∧
      (stored.cache.entries.get? entry.key = some entry ∧
        stored.files.get? (sha256 entry.key) = entryFile json entry) ∧
      (stored.cache.bodies : Int) ≤ maxSize := by
  intro evicted stored
  obtain ⟨covers, rfl⟩ := reachable_covers ran
  obtain ⟨_, content, rfl, written, isStored⟩ :=
    @storeEntry_of_writes _ _ _ sha256 _ _ writes disk
  refine ⟨(evict_along_order outcomes.removes entry.size (le_refl _)).1, ?_, ?_, ?_,
    bodies_store_le writes covers fits⟩
  · intro key old present gone other kept left
    exact evict_least_recent present gone left
  · intro key kept different left
    have present := evict_get? left
    have digests : sha256 key ≠ sha256 entry.key := fun same =>
      different (injective (.inr (Dict.mem_keys_iff.mpr ⟨kept, present⟩)) (.inl rfl) same)
    refine ⟨present, ?_, ?_⟩
    · show (storeEntry json sha256 outcomes disk entry).2.cache.entries.get? key = _
      rw [isStored]
      exact (Dict.get?_insert_of_ne _ _ different).trans left
    · show (storeEntry json sha256 outcomes disk entry).2.files.get? _ = _
      rw [isStored]
      exact (Dict.get?_insert_of_ne _ _ digests).trans (evict_file injective left)
  · show (storeEntry json sha256 outcomes disk entry).2.cache.entries.get? entry.key = _ ∧
      (storeEntry json sha256 outcomes disk entry).2.files.get? _ = _
    rw [isStored, written]
    exact ⟨Dict.get?_insert_self .., Dict.get?_insert_self ..⟩

/-! ### When the count is exact -/

omit [DecidableEq Digest] in
theorem bytesFrom_le (key : String) (cache : DiskCache) :
    bytesFrom key cache.entries ≤ cache.bodies := by
  rw [← sum_evictionOrder, bytesFrom]
  nth_rewrite 2 [← @List.takeWhile_append_dropWhile _ (fun entry : String × CacheEntry =>
    decide (entry.1 ≠ key)) (evictionOrder cache.entries)]
  rw [List.map_append, List.sum_append]
  exact Nat.le_add_left _ _

/-- The first entry in the order has everything behind it. -/
theorem bytesFrom_head {cache : DiskCache} {key : String} {entry : CacheEntry}
    {rest : List (String × CacheEntry)}
    (order : evictionOrder cache.entries = (key, entry) :: rest) :
    bytesFrom key cache.entries = cache.bodies := by
  rw [bytesFrom, ← sum_evictionOrder, order, List.dropWhile_cons_of_neg (by simp)]

theorem bytesFrom_tail {entries : Dict String CacheEntry} {key other : String} {entry : CacheEntry}
    {rest : List (String × CacheEntry)} (order : evictionOrder entries = (other, entry) :: rest)
    (different : other ≠ key) : bytesFrom key (entries.erase other) = bytesFrom key entries := by
  rw [bytesFrom, bytesFrom, evictionOrder_erase_head order, order,
    List.dropWhile_cons_of_pos (by simpa using different)]

/-- With an exact count an entry outlasts the loop if and only if it and all that would be evicted
after it leave room for the new body. -/
theorem evict_leaves_iff (removes : Digest → Bool) (size : Nat) {key : String} {old : CacheEntry}
    {rounds : Nat} {disk : CacheOnDisk Digest} (enough : disk.cache.entries.size ≤ rounds)
    (exact_ : disk.cache.excess = 0) (present : disk.cache.entries.get? key = some old) :
    (evict sha256 removes size rounds disk).cache.entries.get? key = some old ↔
      (bytesFrom key disk.cache.entries + size : Int) ≤ disk.cache.maxSize := by
  induction rounds generalizing disk with
  | zero =>
    have empty : disk.cache.entries.entries = [] :=
      List.eq_nil_of_length_eq_zero (Nat.le_zero.mp enough)
    rw [Dict.get?_eq_some_iff, empty] at present
    cases present
  | succ rounds inductionHypothesis =>
    have bound := bytesFrom_le key disk.cache
    have count := exact_
    rw [DiskCache.excess] at count
    rw [evict]
    split
    · rename_i needed
      have tight : disk.cache.maxSize < disk.cache.currentSize + size :=
        (of_decide_eq_true needed).1
      cases order : evictionOrder disk.cache.entries with
      | nil =>
        rw [← mem_evictionOrder, order] at present
        cases present
      | cons first rest =>
        obtain ⟨firstPresent, evicted, orderRest⟩ :=
          @evictOne_of_order _ _ sha256 _ _ _ _ order removes
        rw [evicted]
        by_cases here : first.1 = key
        · have all := bytesFrom_head order
          rw [here] at all
          refine ⟨fun left => ?_, fun room => ?_⟩
          · have there := evict_get? left
            rw [remove_get?, if_pos here.symm] at there
            cases there
          · omega
        · have fewer : (disk.remove sha256 removes first.1).cache.entries.size ≤ rounds := by
            rw [← length_evictionOrder] at enough ⊢
            rw [orderRest]
            rw [order] at enough
            exact Nat.le_of_succ_le_succ enough
          have still : (disk.remove sha256 removes first.1).cache.excess = 0 :=
            (excess_remove removes first.1 (le_of_eq exact_.symm)).trans exact_
          have there : (disk.remove sha256 removes first.1).cache.entries.get? key = some old := by
            rw [remove_get?, if_neg fun same => here same.symm]
            exact present
          rw [inductionHypothesis fewer still there, remove_maxSize,
            remove_of_present firstPresent]
          simp only
          rw [bytesFrom_tail order here]
    · rename_i ended
      refine ⟨fun _ => ?_, fun _ => present⟩
      rcases fits_of_not_needsEviction (eq_false_of_ne_true ended) with room | empty
      · omega
      · rw [Dict.get?_eq_some_iff, empty] at present
        cases present

/-- A body under the key of a new entry is still there when that entry is put into the index: the
eviction does not get as far as the old one. -/
def Replaces (disk : CacheOnDisk Digest) (entry : CacheEntry) : Prop :=
  (∃ old, disk.cache.entries.get? entry.key = some old ∧ old.size ≠ 0) ∧
    (bytesFrom entry.key disk.cache.entries + entry.size : Int) ≤ disk.cache.maxSize

/-- The size of the cache is not negative, and a store that writes is of a body that is not larger
and replaces no body. -/
def KeepsCount (json : MetadataText) (disk : CacheOnDisk Digest) : CacheCall Digest → Prop
  | .store entry outcomes =>
    0 ≤ disk.cache.maxSize ∧
      (Writes json outcomes entry →
        (entry.size : Int) ≤ disk.cache.maxSize ∧ ¬ Replaces disk entry)
  | .retrieve _ _ _ _ => True
  | .purge _ _ => True

/-- After a call the count is exact, and not above the size of the cache if the call is a store. -/
def CountsRight (json : MetadataText) (sha256 : String → Digest) (disk : CacheOnDisk Digest)
    (call : CacheCall Digest) : Prop :=
  (afterCall json sha256 disk call).cache.excess = 0 ∧
    ∀ entry outcomes, call = .store entry outcomes →
      (afterCall json sha256 disk call).cache.currentSize ≤ disk.cache.maxSize

/-- With an exact count the loop ends with an exact count, and with room for the new body or with
nothing. -/
theorem evict_counts (removes : Digest → Bool) (size : Nat) {disk : CacheOnDisk Digest}
    (exact_ : disk.cache.excess = 0) :
    let evicted := evict sha256 removes size disk.cache.entries.size disk
    evicted.cache.currentSize = evicted.cache.bodies ∧
      (evicted.cache.currentSize + size ≤ disk.cache.maxSize ∨ evicted.cache.currentSize = 0) := by
  intro evicted
  have kept : evicted.cache.excess = 0 :=
    (excess_evict removes size disk.cache.entries.size (le_of_eq exact_.symm)).trans exact_
  have counts : evicted.cache.currentSize = evicted.cache.bodies := sub_eq_zero.mp kept
  have bound : evicted.cache.maxSize = disk.cache.maxSize := evict_maxSize ..
  refine ⟨counts, ?_⟩
  rcases fits_of_not_needsEviction (evict_along_order removes size (le_refl _)).1 with room | empty
  · exact .inl (bound ▸ room)
  · refine .inr (counts.trans ?_)
    rw [bodies_of_empty empty]
    rfl

/-- What a store finds under its key once it writes. -/
theorem replaced_eq_zero_iff (outcomes : FileOutcomes Digest) (entry : CacheEntry)
    {disk : CacheOnDisk Digest} (exact_ : disk.cache.excess = 0) :
    ((evict sha256 outcomes.removes entry.size disk.cache.entries.size disk).cache.entries.get?
      entry.key).elim 0 CacheEntry.size = 0 ↔ ¬ Replaces disk entry := by
  have leaves := fun old => @evict_leaves_iff _ _ sha256 outcomes.removes entry.size entry.key old _
    disk (le_refl _) exact_
  cases left : (evict sha256 outcomes.removes entry.size disk.cache.entries.size
      disk).cache.entries.get? entry.key with
  | none =>
    refine ⟨fun _ replaces => ?_, fun _ => rfl⟩
    obtain ⟨⟨old, present, -⟩, room⟩ := replaces
    have there := (leaves old present).mpr room
    rw [left] at there
    cases there
  | some old =>
    have present := evict_get? left
    have room := (leaves old present).mp left
    rw [Option.elim_some]
    constructor
    · rintro empty ⟨⟨other, otherPresent, nonempty⟩, -⟩
      obtain rfl := Option.some.inj (present.symm.trans otherPresent)
      exact nonempty empty
    · intro keeps
      by_contra nonempty
      exact keeps ⟨⟨old, present, nonempty⟩, room⟩

/-- From an exact count exactly the stores that meet the condition leave the count right. -/
theorem countsRight_store_iff {disk : CacheOnDisk Digest} (exact_ : disk.cache.excess = 0)
    (entry : CacheEntry) (outcomes : FileOutcomes Digest) :
    CountsRight json sha256 disk (.store entry outcomes) ↔
      KeepsCount json disk (.store entry outcomes) := by
  obtain ⟨counts, room⟩ := @evict_counts _ _ sha256 outcomes.removes entry.size _ exact_
  have replaced := @replaced_eq_zero_iff _ _ sha256 outcomes entry _ exact_
  have only : CountsRight json sha256 disk (.store entry outcomes) ↔
      (storeEntry json sha256 outcomes disk entry).2.cache.excess = 0 ∧
        (storeEntry json sha256 outcomes disk entry).2.cache.currentSize ≤ disk.cache.maxSize :=
    ⟨fun right => ⟨right.1, right.2 entry outcomes rfl⟩, fun both => ⟨both.1, fun _ _ _ => both.2⟩⟩
  rw [only, KeepsCount]
  by_cases writes : Writes json outcomes entry
  · rw [excess_store writes (le_of_eq exact_.symm), exact_, zero_add, Int.natCast_eq_zero, replaced]
    obtain ⟨_, content, rfl, -, stored⟩ := @storeEntry_of_writes _ _ _ sha256 _ _ writes disk
    rw [stored]
    simp only
    constructor
    · rintro ⟨keeps, below⟩
      exact ⟨by omega, fun _ => ⟨by omega, keeps⟩⟩
    · rintro ⟨-, when⟩
      obtain ⟨small, keeps⟩ := when writes
      exact ⟨keeps, by omega⟩
  · rw [DiskCache.excess, storeEntry_of_not_writes writes]
    constructor
    · rintro ⟨-, below⟩
      exact ⟨by omega, fun does => absurd does writes⟩
    · rintro ⟨nonnegative, -⟩
      exact ⟨sub_eq_zero.mpr counts, by omega⟩

theorem countsRight_iff {disk : CacheOnDisk Digest} (exact_ : disk.cache.excess = 0)
    (call : CacheCall Digest) :
    CountsRight json sha256 disk call ↔ KeepsCount json disk call := by
  cases call with
  | store entry outcomes => exact countsRight_store_iff exact_ entry outcomes
  | retrieve key now accessed outcomes =>
    refine ⟨fun _ => trivial, fun _ => ⟨?_, fun _ _ same => by cases same⟩⟩
    rw [afterCall, excess_retrieve outcomes key now accessed (le_of_eq exact_.symm), exact_]
  | purge pattern removes =>
    refine ⟨fun _ => trivial, fun _ => ⟨?_, fun _ _ same => by cases same⟩⟩
    rw [afterCall, excess_purge removes pattern (le_of_eq exact_.symm), exact_]

/-- In every state of a run the count is the sum of all bodies, and after every store it is not
above the size of the cache, if and only if every store keeps the count. -/
theorem size_exact_iff (json : MetadataText) (sha256 : String → Digest) (maxSize : Int)
    (files : Dict Digest Bytes) (calls : List (CacheCall Digest)) :
    ((∀ before after reached, calls = before ++ after →
        run json sha256 ⟨.new maxSize, files⟩ before = some reached →
          reached.cache.currentSize = (reached.cache.entries.values.map CacheEntry.size).sum) ∧
      ∀ before entry outcomes after reached, calls = before ++ .store entry outcomes :: after →
        run json sha256 ⟨.new maxSize, files⟩ before = some reached →
          (storeEntry json sha256 outcomes reached entry).2.cache.currentSize ≤ maxSize) ↔
      HoldsAlong (fun disk call => some (afterCall json sha256 disk call)) (KeepsCount json)
        ⟨.new maxSize, files⟩ calls := by
  rw [← @holdsAlong_congr _ _ _ (CountsRight json sha256) _ (fun disk => disk.cache.excess = 0)
    (fun disk call exact_ => countsRight_iff exact_ call)
    (fun disk call next right _ stepped => Option.some.inj stepped ▸ right.1) _ rfl,
    holdsAlong_iff]
  constructor
  · rintro ⟨counts, below⟩ before call after reached split ran
    constructor
    · refine sub_eq_zero.mpr (counts (before ++ [call]) after _ (by simp [split]) ?_)
      exact runFrom_append.mpr ⟨reached, ran, rfl⟩
    · rintro entry outcomes rfl
      rw [(reachable_covers ran).2]
      exact below before entry outcomes after reached split ran
  · intro right
    constructor
    · intro before after reached split ran
      refine sub_eq_zero.mp ?_
      rcases List.eq_nil_or_concat before with rfl | ⟨earlier, call, rfl⟩
      · obtain rfl := Option.some.inj ran
        rfl
      · rw [List.concat_eq_append] at split ran
        obtain ⟨previous, ranEarlier, last⟩ := runFrom_append.mp ran
        obtain rfl := Option.some.inj last
        exact (right earlier call after previous (by simp [split]) ranEarlier).1
    · intro before entry outcomes after reached split ran
      have bound := (right before _ after reached split ran).2 entry outcomes rfl
      rwa [(reachable_covers ran).2] at bound

end CacheOnDisk

/-! ### Runs -/

/-- The JSON library on the metadata of entries that differ in their keys alone. -/
def keyedMetadata : MetadataText where
  dumps metadata := asciiBytes ("\x7b\"key\": \"" ++ metadata.key ++ "\"" ++ sharedText)
  loads data :=
    if (asciiBytes sharedText).isSuffixOf data then
      .ok ⟨some 200, some Dict.empty, some 300, some 100⟩
    else .error .jsonDecodeError
where
  sharedText := ", \"status\": 200, \"headers\": \x7b\x7d, \"ttl\": 300, \"created_at\": 100.0\x7d"

def keyedEntry (key : String) (body : Bytes) : CacheEntry :=
  ⟨key, 200, Dict.empty, body, 300, 100, 100⟩

/-- The first two digits of the digests of three keys. -/
def keyedDigest (key : String) : String :=
  if key = "GET:/a" then "5a"
  else if key = "GET:/b" then "95"
  else if key = "GET:/c" then "92"
  else "-"

theorem keyedDigest_injOn {disk : CacheOnDisk String}
    (keys : disk.cache.entries.keys = ["GET:/a", "GET:/b"]) (body : Bytes) :
    Set.InjOn keyedDigest (CacheOnDisk.usedKeys disk (keyedEntry "GET:/c" body)) := by
  have digests : ∀ key ∈ ["GET:/a", "GET:/b", "GET:/c"], ∀ other ∈ ["GET:/a", "GET:/b", "GET:/c"],
      keyedDigest key = keyedDigest other → key = other := by decide
  have among : ∀ key ∈ CacheOnDisk.usedKeys disk (keyedEntry "GET:/c" body),
      key ∈ ["GET:/a", "GET:/b", "GET:/c"] := by
    rintro key (rfl | present)
    · exact (by decide : "GET:/c" ∈ ["GET:/a", "GET:/b", "GET:/c"])
    · rw [keys] at present
      exact List.mem_append_left ["GET:/c"] present
  exact fun key used other otherUsed => digests key (among key used) other (among other otherUsed)

/-- A cache of three bytes holds two responses. The first one was used since, so that the third, of
two bytes, takes the place of the second. -/
theorem store_evicts_least_recent_plain :
    ∃ disk, CacheOnDisk.run keyedMetadata keyedDigest (.new 3)
        [.store (keyedEntry "GET:/a" [1]) .succeed, .store (keyedEntry "GET:/b" [2]) .succeed,
          .retrieve "GET:/a" 150 150 .succeed] = some disk ∧
      disk.cache.entries.keys = ["GET:/a", "GET:/b"] ∧
      let stored := (CacheOnDisk.storeEntry keyedMetadata keyedDigest .succeed disk
        (keyedEntry "GET:/c" [3, 4])).2
      stored.cache.entries.keys = ["GET:/a", "GET:/c"] ∧
        stored.cache.entries.get? "GET:/a" =
          some { keyedEntry "GET:/a" [1] with lastAccess := 150 } ∧
        stored.files.get? "5a" = disk.files.get? "5a" ∧
        stored.files.get? "92" = entryFile keyedMetadata (keyedEntry "GET:/c" [3, 4]) ∧
        (stored.cache.bodies : Int) ≤ 3 := by
  obtain ⟨-, -, others, new, bound⟩ := CacheOnDisk.store_evicts_least_recent 3 Dict.empty
    [.store (keyedEntry "GET:/a" [1]) .succeed, .store (keyedEntry "GET:/b" [2]) .succeed,
      .retrieve "GET:/a" 150 150 .succeed] rfl (by decide)
    (⟨rfl, rfl, rfl, rfl⟩ : CacheOnDisk.Writes keyedMetadata (@FileOutcomes.succeed String) _)
    (keyedDigest_injOn rfl [3, 4])
  obtain ⟨-, kept, file⟩ := others "GET:/a" _ (by decide) rfl
  exact ⟨_, rfl, rfl, rfl, kept, file, new.2, bound⟩

/-- The same response stored twice counts twice. -/
theorem size_counts_twice :
    ∃ reached, CacheOnDisk.run plainMetadata plainDigest (.new 100)
        [.store plainEntry .succeed, .store plainEntry .succeed] = some reached ∧
      reached.cache.currentSize = 4 ∧ (reached.cache.entries.values.map CacheEntry.size).sum = 2 :=
  ⟨_, rfl, rfl, rfl⟩

end LocalNetwork
