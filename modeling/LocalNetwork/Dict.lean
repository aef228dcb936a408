/-
This file is a library of insertion-ordered dictionaries. A dictionary is a list of
entries with distinct keys; looking a key up, storing under a key and removing a key
follow the order rules of a dictionary that remembers insertion: storing under a key
that is present keeps its position, storing under a new key appends.

Every operation is described by what it does to lookups, and the later files reason
through those equations alone.
-/

import Mathlib.Data.List.Nodup
import Mathlib.Data.List.Basic

namespace LocalNetwork

/-- A dictionary: entries in insertion order, with distinct keys. -/
structure Dict (Key Value : Type) where
  entries : List (Key × Value)
  distinct : (entries.map Prod.fst).Nodup

namespace Dict

variable {Key Value Other : Type}

/-- The dictionary without entries. -/
def empty : Dict Key Value := ⟨[], List.nodup_nil⟩

/-- The keys, in insertion order. -/
def keys (dict : Dict Key Value) : List Key := dict.entries.map Prod.fst

/-- The values, in insertion order of their keys. -/
def values (dict : Dict Key Value) : List Value := dict.entries.map Prod.snd

/-- The number of entries. -/
def size (dict : Dict Key Value) : Nat := dict.entries.length

/-- Every value replaced by a function of its key and itself; keys and order stay. -/
def mapValues (dict : Dict Key Value) (update : Key → Value → Other) : Dict Key Other where
  entries := dict.entries.map fun entry => (entry.1, update entry.1 entry.2)
  distinct := by
    rw [List.map_map]
    exact dict.distinct

/-- The entries that satisfy a condition, in their old order. -/
def filter (dict : Dict Key Value) (keep : Key → Value → Bool) : Dict Key Value where
  entries := dict.entries.filter fun entry => keep entry.1 entry.2
  distinct := dict.distinct.sublist (List.filter_sublist.map Prod.fst)

variable [DecidableEq Key]

/-- The value stored under a key. -/
def get? (dict : Dict Key Value) (key : Key) : Option Value :=
  (dict.entries.find? fun entry => decide (entry.1 = key)).map Prod.snd

/-- Whether a key is present. -/
def contains (dict : Dict Key Value) (key : Key) : Bool := (dict.get? key).isSome

/-- Update the value under a key in place; an absent key changes nothing. -/
def modify (dict : Dict Key Value) (key : Key) (update : Value → Value) : Dict Key Value :=
  dict.mapValues fun other value => if other = key then update value else value

/-- Remove a key. -/
def erase (dict : Dict Key Value) (key : Key) : Dict Key Value :=
  dict.filter fun other _ => decide (other ≠ key)

/-! ### Lookups and entries -/

omit [DecidableEq Key] in
/-- Distinct keys: two entries under one key are the same entry. -/
theorem value_unique {dict : Dict Key Value} {key : Key} {first second : Value}
    (firstMember : (key, first) ∈ dict.entries) (secondMember : (key, second) ∈ dict.entries) :
    first = second := by
  have same := List.inj_on_of_nodup_map dict.distinct firstMember secondMember rfl
  exact congrArg Prod.snd same

theorem get?_eq_some_iff {dict : Dict Key Value} {key : Key} {value : Value} :
    dict.get? key = some value ↔ (key, value) ∈ dict.entries := by
  unfold get?
  constructor
  · intro found
    obtain ⟨entry, entryFound, rfl⟩ := Option.map_eq_some_iff.mp found
    have same : entry.1 = key := by simpa using List.find?_some entryFound
    rw [← same]
    exact List.mem_of_find?_eq_some entryFound
  · intro member
    cases found : dict.entries.find? fun entry => decide (entry.1 = key) with
    | none =>
      have absent := List.find?_eq_none.mp found (key, value) member
      simp at absent
    | some entry =>
      have same : entry.1 = key := by simpa using List.find?_some found
      have entryMember : (key, entry.2) ∈ dict.entries := by
        rw [← same]
        exact List.mem_of_find?_eq_some found
      rw [Option.map_some, value_unique entryMember member]

theorem get?_eq_none_iff {dict : Dict Key Value} {key : Key} :
    dict.get? key = none ↔ key ∉ dict.keys := by
  unfold get? keys
  rw [Option.map_eq_none_iff, List.find?_eq_none]
  constructor
  · intro absent member
    obtain ⟨entry, entryMember, same⟩ := List.mem_map.mp member
    exact absent entry entryMember (by simp [same])
  · intro absent entry entryMember
    simp only [decide_eq_true_eq]
    intro same
    exact absent (List.mem_map.mpr ⟨entry, entryMember, same⟩)

theorem mem_keys_iff {dict : Dict Key Value} {key : Key} :
    key ∈ dict.keys ↔ ∃ value, dict.get? key = some value := by
  rw [← Option.ne_none_iff_exists', ne_eq, get?_eq_none_iff, not_not]

theorem mem_values_iff {dict : Dict Key Value} {value : Value} :
    value ∈ dict.values ↔ ∃ key, dict.get? key = some value := by
  unfold values
  simp only [List.mem_map, get?_eq_some_iff, Prod.exists, exists_eq_right]

theorem contains_iff {dict : Dict Key Value} {key : Key} :
    dict.contains key = true ↔ ∃ value, dict.get? key = some value := by
  rw [contains, Option.isSome_iff_exists]

@[simp]
theorem get?_empty (key : Key) : (empty : Dict Key Value).get? key = none := rfl

/-! ### What each operation does to lookups -/

theorem get?_mapValues (dict : Dict Key Value) (update : Key → Value → Other) (key : Key) :
    (dict.mapValues update).get? key = (dict.get? key).map (update key) := by
  cases found : dict.get? key with
  | none =>
    rw [Option.map_none, get?_eq_none_iff]
    rw [get?_eq_none_iff] at found
    rw [keys, mapValues, List.map_map]
    exact found
  | some value =>
    rw [Option.map_some, get?_eq_some_iff]
    rw [get?_eq_some_iff] at found
    exact List.mem_map.mpr ⟨(key, value), found, rfl⟩

theorem get?_filter (dict : Dict Key Value) (keep : Key → Value → Bool) (key : Key) :
    (dict.filter keep).get? key = (dict.get? key).filter (keep key) := by
  cases found : dict.get? key with
  | none =>
    rw [Option.filter_none, get?_eq_none_iff]
    rw [get?_eq_none_iff] at found
    intro member
    obtain ⟨entry, entryMember, same⟩ := List.mem_map.mp member
    exact found (List.mem_map.mpr ⟨entry, (List.mem_filter.mp entryMember).1, same⟩)
  | some value =>
    have stored := get?_eq_some_iff.mp found
    by_cases kept : keep key value = true
    · rw [Option.filter_some_pos kept, get?_eq_some_iff]
      exact List.mem_filter.mpr ⟨stored, kept⟩
    · rw [Option.filter_some_neg (by simpa using kept), get?_eq_none_iff]
      intro member
      obtain ⟨entry, entryMember, same⟩ := List.mem_map.mp member
      obtain ⟨old, oldKept⟩ := List.mem_filter.mp entryMember
      have entryStored : (key, entry.2) ∈ dict.entries := by
        rw [← same]
        exact old
      rw [same, value_unique entryStored stored] at oldKept
      exact kept oldKept

theorem get?_modify (dict : Dict Key Value) (key other : Key) (update : Value → Value) :
    (dict.modify key update).get? other =
      if other = key then (dict.get? other).map update else dict.get? other := by
  rw [modify, get?_mapValues]
  by_cases same : other = key
  · simp [same]
  · simp [same]

theorem get?_erase (dict : Dict Key Value) (key other : Key) :
    (dict.erase key).get? other = if other = key then none else dict.get? other := by
  rw [erase, get?_filter]
  by_cases same : other = key
  · cases dict.get? other <;> simp [same]
  · cases dict.get? other <;> simp [same]

/-- Store a value under a key: in place when the key is present, at the end otherwise. -/
def insert (dict : Dict Key Value) (key : Key) (value : Value) : Dict Key Value :=
  if present : key ∈ dict.keys then dict.modify key fun _ => value
  else
    { entries := dict.entries ++ [(key, value)]
      distinct := by
        rw [List.map_append]
        refine List.Nodup.append dict.distinct (List.nodup_singleton key) ?_
        intro other member single
        have same : other = key := by simpa using single
        exact present (same ▸ member) }

theorem get?_insert (dict : Dict Key Value) (key other : Key) (value : Value) :
    (dict.insert key value).get? other =
      if other = key then some value else dict.get? other := by
  unfold insert
  split
  · rename_i present
    rw [get?_modify]
    by_cases same : other = key
    · obtain ⟨old, stored⟩ := mem_keys_iff.mp present
      simp [same, stored]
    · simp [same]
  · rename_i absent
    by_cases same : other = key
    · rw [if_pos same, get?_eq_some_iff, same]
      exact List.mem_append_right _ (List.mem_singleton.mpr rfl)
    · rw [if_neg same]
      cases found : dict.get? other with
      | none =>
        rw [get?_eq_none_iff] at found ⊢
        simp only [keys, List.map_append, List.map_singleton, List.mem_append,
          List.mem_singleton, not_or]
        exact ⟨found, same⟩
      | some old =>
        rw [get?_eq_some_iff] at found ⊢
        exact List.mem_append_left _ found

@[simp]
theorem get?_insert_self (dict : Dict Key Value) (key : Key) (value : Value) :
    (dict.insert key value).get? key = some value := by
  rw [get?_insert, if_pos rfl]

theorem get?_insert_of_ne (dict : Dict Key Value) {key other : Key} (value : Value)
    (different : other ≠ key) : (dict.insert key value).get? other = dict.get? other := by
  rw [get?_insert, if_neg different]

@[simp]
theorem get?_erase_self (dict : Dict Key Value) (key : Key) :
    (dict.erase key).get? key = none := by
  rw [get?_erase, if_pos rfl]

theorem get?_erase_of_ne (dict : Dict Key Value) {key other : Key} (different : other ≠ key) :
    (dict.erase key).get? other = dict.get? other := by
  rw [get?_erase, if_neg different]

/-- Remove several keys. -/
theorem get?_foldl_erase (keys : List Key) (dict : Dict Key Value) (key : Key) :
    (keys.foldl erase dict).get? key = if key ∈ keys then none else dict.get? key := by
  induction keys generalizing dict with
  | nil => simp
  | cons other keys inductionHypothesis =>
    rw [List.foldl_cons, inductionHypothesis, get?_erase]
    by_cases later : key ∈ keys
    · rw [if_pos later, if_pos (List.mem_cons_of_mem _ later)]
    · rw [if_neg later]
      by_cases here : key = other
      · rw [if_pos here, if_pos (here ▸ List.mem_cons_self ..)]
      · rw [if_neg here, if_neg]
        rw [List.mem_cons, not_or]
        exact ⟨here, later⟩

/-- There is at most one entry under a key. -/
theorem filter_key (dict : Dict Key Value) (key : Key) :
    (dict.entries.filter fun entry => decide (entry.1 = key)).map Prod.snd =
      (dict.get? key).toList := by
  rw [get?]
  have distinct := dict.distinct
  generalize dict.entries = entries at distinct
  induction entries with
  | nil => rfl
  | cons entry entries inductionHypothesis =>
    rw [List.map_cons, List.nodup_cons] at distinct
    by_cases here : entry.1 = key
    · have none : entries.filter (fun entry => decide (entry.1 = key)) = [] := by
        rw [List.filter_eq_nil_iff]
        intro other member same
        refine distinct.1 (List.mem_map.mpr ⟨other, member, ?_⟩)
        rw [of_decide_eq_true same, here]
      rw [List.filter_cons_of_pos (by simp [here]), List.find?_cons_of_pos (by simp [here]), none]
      rfl
    · rw [List.filter_cons_of_neg (by simp [here]), List.find?_cons_of_neg (by simp [here]),
        inductionHypothesis distinct.2]

/-! ### Properties of every entry -/

/-- Every entry has a property. -/
def All (property : Key → Value → Prop) (dict : Dict Key Value) : Prop :=
  ∀ key value, dict.get? key = some value → property key value

variable {property : Key → Value → Prop} {dict : Dict Key Value}

theorem all_empty : All property (empty : Dict Key Value) := by
  intro key value stored
  cases stored

theorem all_iff : All property dict ↔ ∀ entry ∈ dict.entries, property entry.1 entry.2 :=
  ⟨fun all entry member => all entry.1 entry.2 (get?_eq_some_iff.mpr member),
    fun all key value stored => all (key, value) (get?_eq_some_iff.mp stored)⟩

theorem All.insert (all : All property dict) {key : Key} {value : Value}
    (holds : property key value) : All property (dict.insert key value) := by
  intro other found stored
  rw [get?_insert] at stored
  by_cases same : other = key
  · rw [if_pos same] at stored
    rw [same, ← Option.some.inj stored]
    exact holds
  · rw [if_neg same] at stored
    exact all other found stored

theorem All.filter (all : All property dict) (keep : Key → Value → Bool) :
    All property (dict.filter keep) := by
  intro key value stored
  rw [get?_filter] at stored
  exact all key value (Option.filter_eq_some_iff.mp stored).1

theorem All.erase (all : All property dict) (key : Key) : All property (dict.erase key) :=
  all.filter _

theorem All.mapValues (all : All property dict) {update : Key → Value → Value}
    (kept : ∀ key value, property key value → property key (update key value)) :
    All property (dict.mapValues update) := by
  intro key value stored
  rw [get?_mapValues] at stored
  obtain ⟨old, oldStored, rfl⟩ := Option.map_eq_some_iff.mp stored
  exact kept key old (all key old oldStored)

theorem All.modify (all : All property dict) (key : Key) {update : Value → Value}
    (kept : ∀ value, property key value → property key (update value)) :
    All property (dict.modify key update) := by
  refine all.mapValues fun other value holds => ?_
  by_cases same : other = key
  · rw [if_pos same, same]
    exact kept value (same ▸ holds)
  · rw [if_neg same]
    exact holds

/-! ### Dictionaries without a value under two keys -/

/-- No value is stored under two keys. -/
def OneKeyEach (dict : Dict Key Value) : Prop :=
  ∀ first second value, dict.get? first = some value → dict.get? second = some value →
    first = second

theorem oneKeyEach_empty : OneKeyEach (empty : Dict Key Value) := by
  intro first second value stored
  cases stored

theorem OneKeyEach.insert (oneKeyEach : dict.OneKeyEach) {key : Key} {value : Value}
    (absent : value ∉ dict.values) : (dict.insert key value).OneKeyEach := by
  have old {other : Key} {found : Value} (different : other ≠ key)
      (stored : (dict.insert key value).get? other = some found) :
      dict.get? other = some found ∧ found ≠ value := by
    rw [get?_insert_of_ne dict value different] at stored
    exact ⟨stored, fun same => absent (mem_values_iff.mpr ⟨other, same ▸ stored⟩)⟩
  have new {found : Value} (stored : (dict.insert key value).get? key = some found) :
      found = value := by
    rw [get?_insert_self] at stored
    exact (Option.some.inj stored).symm
  intro first second found one two
  by_cases isFirst : first = key
  · by_cases isSecond : second = key
    · exact isFirst.trans isSecond.symm
    · exact absurd (new (isFirst ▸ one)) (old isSecond two).2
  · by_cases isSecond : second = key
    · exact absurd (new (isSecond ▸ two)) (old isFirst one).2
    · exact oneKeyEach first second found (old isFirst one).1 (old isSecond two).1

theorem OneKeyEach.erase (oneKeyEach : dict.OneKeyEach) (key : Key) :
    (dict.erase key).OneKeyEach := by
  intro first second value one two
  rw [get?_erase] at one two
  split at one
  · cases one
  · split at two
    · cases two
    · exact oneKeyEach first second value one two

/-! ### Dictionaries from entries -/

/-- Store entries one after the other. -/
def ofEntries (entries : List (Key × Value)) : Dict Key Value :=
  entries.foldl (fun dict entry => dict.insert entry.1 entry.2) empty

theorem insert_new (dict : Dict Key Value) {key : Key} {value : Value} (absent : key ∉ dict.keys) :
    (dict.insert key value).entries = dict.entries ++ [(key, value)] := by
  rw [insert, dif_neg absent]

/-- Entries under new, distinct keys go to the end. -/
theorem foldl_insert_entries (entries : List (Key × Value)) (dict : Dict Key Value)
    (distinct : ((dict.entries ++ entries).map Prod.fst).Nodup) :
    (entries.foldl (fun dict entry => dict.insert entry.1 entry.2) dict).entries =
      dict.entries ++ entries := by
  induction entries generalizing dict with
  | nil => simp
  | cons entry rest inductionHypothesis =>
    have absent : entry.1 ∉ dict.keys := by
      intro present
      rw [List.map_append, List.map_cons] at distinct
      exact (List.nodup_append.mp distinct).2.2 _ present _ (List.mem_cons_self ..) rfl
    have inserted : (dict.insert entry.1 entry.2).entries = dict.entries ++ [entry] :=
      insert_new dict absent
    rw [List.foldl_cons, inductionHypothesis, inserted, List.append_assoc, List.singleton_append]
    rw [inserted, List.append_assoc, List.singleton_append]
    exact distinct

/-- Of the entries under a key the last one counts. -/
theorem get?_foldl_insert (entries : List (Key × Value)) (dict : Dict Key Value) (key : Key) :
    (entries.foldl (fun dict entry => dict.insert entry.1 entry.2) dict).get? key =
      ((entries.filter fun entry => decide (entry.1 = key)).map Prod.snd).getLast?.or
        (dict.get? key) := by
  induction entries generalizing dict with
  | nil => rfl
  | cons entry rest inductionHypothesis =>
    rw [List.foldl_cons, inductionHypothesis, get?_insert]
    by_cases here : entry.1 = key
    · rw [if_pos here.symm, List.filter_cons_of_pos (by simp [here]), List.map_cons,
        List.getLast?_cons]
      cases ((rest.filter fun entry => decide (entry.1 = key)).map Prod.snd).getLast? with
      | none => rfl
      | some value => rfl
    · rw [if_neg (Ne.symm here), List.filter_cons_of_neg (by simp [here])]

theorem get?_ofEntries (entries : List (Key × Value)) (key : Key) :
    (ofEntries entries).get? key =
      ((entries.filter fun entry => decide (entry.1 = key)).map Prod.snd).getLast? := by
  rw [ofEntries, get?_foldl_insert, get?_empty, Option.or_none]

omit [DecidableEq Key] in
theorem eq_of_entries {first second : Dict Key Value} (same : first.entries = second.entries) :
    first = second := by
  cases first
  cases second
  cases same
  rfl

/-- The entries of a dictionary make it again. -/
theorem ofEntries_entries (dict : Dict Key Value) : ofEntries dict.entries = dict :=
  eq_of_entries (foldl_insert_entries dict.entries empty dict.distinct)

/-- Dictionaries agree on every key if and only if they have the same entries, in any order. -/
theorem get?_eq_iff_perm {first second : Dict Key Value} :
    (∀ key, first.get? key = second.get? key) ↔ first.entries.Perm second.entries := by
  constructor
  · intro same
    refine (List.perm_ext_iff_of_nodup (.of_map Prod.fst first.distinct)
      (.of_map Prod.fst second.distinct)).mpr fun entry => ?_
    have here := same entry.1
    exact get?_eq_some_iff.symm.trans (by rw [here]; exact get?_eq_some_iff)
  · intro perm key
    refine Option.ext fun value => ?_
    rw [get?_eq_some_iff, get?_eq_some_iff, perm.mem_iff]

/-! ### Operations on every value -/

variable {Third : Type}

omit [DecidableEq Key] in
theorem mapValues_mapValues (dict : Dict Key Value) (first : Key → Value → Other)
    (second : Key → Other → Third) :
    (dict.mapValues first).mapValues second =
      dict.mapValues fun key value => second key (first key value) :=
  eq_of_entries (by simp [mapValues, Function.comp_def])

theorem mapValues_congr (dict : Dict Key Value) {first second : Key → Value → Other}
    (same : ∀ key value, dict.get? key = some value → first key value = second key value) :
    dict.mapValues first = dict.mapValues second := by
  refine eq_of_entries (List.map_congr_left fun entry member => ?_)
  rw [same entry.1 entry.2 (get?_eq_some_iff.mpr member)]

/-- An update that keeps the value under its key changes nothing. -/
theorem modify_eq_self {dict : Dict Key Value} {key : Key} {update : Value → Value}
    (kept : ∀ value, dict.get? key = some value → update value = value) :
    dict.modify key update = dict := by
  have same : dict.mapValues (fun _ value => value) = dict :=
    eq_of_entries (List.map_id dict.entries)
  refine (mapValues_congr dict fun other value stored => ?_).trans same
  by_cases here : other = key
  · rw [if_pos here, kept value (here ▸ stored)]
  · rw [if_neg here]

omit [DecidableEq Key] in
theorem keys_mapValues (dict : Dict Key Value) (update : Key → Value → Other) :
    (dict.mapValues update).keys = dict.keys := by
  simp [keys, mapValues, Function.comp_def]

omit [DecidableEq Key] in
theorem filter_filter (dict : Dict Key Value) (first second : Key → Value → Bool) :
    (dict.filter first).filter second =
      dict.filter fun key value => first key value && second key value :=
  eq_of_entries (by simp only [filter, List.filter_filter, Bool.and_comm])

omit [DecidableEq Key] in
/-- A filter of the keys does not see what happens to the values. -/
theorem filter_mapValues (dict : Dict Key Value) (update : Key → Value → Other)
    (keep : Key → Bool) :
    (dict.mapValues update).filter (fun key _ => keep key) =
      (dict.filter fun key _ => keep key).mapValues update :=
  eq_of_entries List.filter_map

/-- Two updates that commute on every value commute under whatever keys. -/
theorem modify_comm (dict : Dict Key Value) (first second : Key) {update other : Value → Value}
    (commute : ∀ value, update (other value) = other (update value)) :
    (dict.modify first update).modify second other =
      (dict.modify second other).modify first update := by
  rw [modify, modify, modify, modify, mapValues_mapValues, mapValues_mapValues]
  refine mapValues_congr dict fun key value _ => ?_
  by_cases here : key = first
  · by_cases there : key = second
    · simp [← here, ← there, commute]
    · simp [← here, there]
  · simp [here]

theorem mapValues_insert (dict : Dict Key Value) (update : Key → Value → Other) (key : Key)
    (value : Value) :
    (dict.insert key value).mapValues update =
      (dict.mapValues update).insert key (update key value) := by
  by_cases present : key ∈ dict.keys
  · have kept : key ∈ (dict.mapValues update).keys := by
      rw [keys_mapValues]
      exact present
    rw [insert, dif_pos present, insert, dif_pos kept, modify, modify, mapValues_mapValues,
      mapValues_mapValues]
    refine mapValues_congr dict fun other old _ => ?_
    by_cases same : other = key
    · simp [same]
    · simp [same]
  · have kept : key ∉ (dict.mapValues update).keys := by
      rw [keys_mapValues]
      exact present
    refine eq_of_entries ?_
    show (dict.insert key value).entries.map (fun entry => (entry.1, update entry.1 entry.2)) = _
    rw [insert_new _ kept, insert_new dict present, List.map_append]
    rfl

end Dict

end LocalNetwork
