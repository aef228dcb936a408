/-
This file is a library of sums over dictionaries: every entry has a weight, and the weights
of all entries are added up. Storing under a key and removing one change the total by the
weights of the two entries concerned and of no other, whatever the order of the entries.
-/

import LocalNetwork.Dict
import Mathlib.Algebra.BigOperators.Group.List.Basic

namespace LocalNetwork

namespace Dict

variable {Key Value Amount : Type} [AddCommMonoid Amount]

/-- The sum of the weights of all entries. -/
def total (weight : Key → Value → Amount) (dict : Dict Key Value) : Amount :=
  (dict.entries.map fun entry => weight entry.1 entry.2).sum

variable {weight : Key → Value → Amount}

@[simp]
theorem total_empty : (empty : Dict Key Value).total weight = 0 := rfl

/-- A weight that does not look at the key is summed over the values. -/
theorem total_values (dict : Dict Key Value) (worth : Value → Amount) :
    dict.total (fun _ => worth) = (dict.values.map worth).sum := by
  rw [total, values, List.map_map]
  rfl

variable [DecidableEq Key]

theorem total_congr (dict : Dict Key Value) {first second : Key → Value → Amount}
    (same : ∀ key value, dict.get? key = some value → first key value = second key value) :
    dict.total first = dict.total second := by
  refine congrArg List.sum (List.map_congr_left fun entry member => ?_)
  exact same entry.1 entry.2 (get?_eq_some_iff.mpr member)

theorem total_eq_zero (dict : Dict Key Value)
    (none : ∀ key value, dict.get? key = some value → weight key value = 0) :
    dict.total weight = 0 := by
  refine List.sum_eq_zero fun amount member => ?_
  obtain ⟨entry, stored, rfl⟩ := List.mem_map.mp member
  exact none entry.1 entry.2 (get?_eq_some_iff.mpr stored)

/-- The entry under a key, and the others. -/
theorem total_eq_add_erase (dict : Dict Key Value) (key : Key) :
    dict.total weight = (dict.get? key).elim 0 (weight key) + (dict.erase key).total weight := by
  have here : (dict.entries.filter fun entry => decide (entry.1 = key)).map
      (fun entry => weight entry.1 entry.2) = (dict.get? key).toList.map (weight key) := by
    rw [← filter_key, List.map_map]
    refine List.map_congr_left fun entry member => ?_
    rw [of_decide_eq_true (List.mem_filter.mp member).2]
    rfl
  have others : (dict.entries.filter fun entry => !decide (entry.1 = key)) =
      (dict.erase key).entries := by
    exact List.filter_congr fun entry _ => decide_not.symm
  have parts := (List.filter_append_perm (fun entry => decide (entry.1 = key)) dict.entries).map
    fun entry => weight entry.1 entry.2
  rw [total, ← parts.sum_eq, List.map_append, List.sum_append, here, others]
  cases dict.get? key with
  | none => rfl
  | some value => rw [Option.toList_some, List.map_singleton, List.sum_singleton]; rfl

/-- What is stored under a key is gone once the key is removed. -/
theorem erase_insert (dict : Dict Key Value) (key : Key) (value : Value) :
    (dict.insert key value).erase key = dict.erase key := by
  refine eq_of_entries ?_
  by_cases present : key ∈ dict.keys
  · rw [insert, dif_pos present]
    show ((dict.entries.map _).filter _) = dict.entries.filter _
    rw [List.filter_map]
    refine (List.map_congr_left fun entry member => ?_).trans (List.map_id _)
    have different : entry.1 ≠ key := of_decide_eq_true (List.mem_filter.mp member).2
    show (entry.1, if entry.1 = key then value else entry.2) = entry
    rw [if_neg different]
  · show (dict.insert key value).entries.filter _ = dict.entries.filter _
    rw [insert_new dict present, List.filter_append]
    simp

theorem total_insert (dict : Dict Key Value) (key : Key) (value : Value) :
    (dict.insert key value).total weight =
      weight key value + (dict.erase key).total weight := by
  rw [total_eq_add_erase _ key, get?_insert_self, erase_insert]
  rfl

/-- A new entry adds its own weight. -/
theorem total_insert_new (dict : Dict Key Value) {key : Key} (value : Value)
    (absent : dict.get? key = none) :
    (dict.insert key value).total weight = weight key value + dict.total weight := by
  rw [total_insert, dict.total_eq_add_erase key, absent]
  exact congrArg _ (zero_add _).symm

end Dict

end LocalNetwork
