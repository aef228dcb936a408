/-
This file is a library for lists put in the order of a rank, from the least one on; elements
of equal rank stay in the order in which they stood. Its first element is the one that a
search for the least rank finds, and dropping elements commutes with putting them in order,
so that a loop which takes the least element again and again goes along the ordered list.
-/

import Mathlib.Data.List.Sort
import Mathlib.Order.Basic

namespace LocalNetwork

variable {Element Rank : Type} [LinearOrder Rank]

/-- The elements in the order of their ranks. -/
def byRank (rank : Element → Rank) (list : List Element) : List Element :=
  list.insertionSort fun first second => rank first ≤ rank second

variable {rank : Element → Rank}

theorem byRank_cons (first : Element) (rest : List Element) :
    byRank rank (first :: rest) =
      (byRank rank rest).orderedInsert (fun one other => rank one ≤ rank other) first := rfl

theorem byRank_perm (list : List Element) : (byRank rank list).Perm list :=
  List.perm_insertionSort _ list

@[simp]
theorem mem_byRank {list : List Element} {element : Element} :
    element ∈ byRank rank list ↔ element ∈ list :=
  (byRank_perm list).mem_iff

/-- What comes earlier does not have a greater rank. -/
theorem byRank_pairwise (list : List Element) :
    (byRank rank list).Pairwise fun first second => rank first ≤ rank second := by
  have : Std.Total fun first second : Element => rank first ≤ rank second :=
    ⟨fun first second => le_total _ _⟩
  have : IsTrans Element fun first second => rank first ≤ rank second :=
    ⟨fun _ _ _ => le_trans⟩
  exact List.pairwise_insertionSort _ list

/-- Where no two elements have the same rank, the order in which they stood does not matter. -/
theorem byRank_eq_of_perm {first second : List Element} (perm : first.Perm second)
    (distinct : Set.InjOn rank {element | element ∈ first}) :
    byRank rank first = byRank rank second := by
  refine List.Perm.eq_of_pairwise (fun element other inFirst inSecond before after => ?_)
    (byRank_pairwise first) (byRank_pairwise second)
    (((byRank_perm first).trans perm).trans (byRank_perm second).symm)
  exact distinct (mem_byRank.mp inFirst) (perm.mem_iff.mpr (mem_byRank.mp inSecond))
    (le_antisymm before after)

/-- The first element is the first one of the least rank. -/
theorem head?_byRank (list : List Element) : (byRank rank list).head? = list.minOn? rank := by
  induction list with
  | nil => simp [byRank]
  | cons first rest inductionHypothesis =>
    rw [byRank_cons, List.minOn?_cons, ← inductionHypothesis]
    cases byRank rank rest with
    | nil => rfl
    | cons least others =>
      rw [List.orderedInsert_cons, List.head?_cons, Option.elim_some, minOn]
      split <;> rfl

/-- An element that comes before all others is put at the front. -/
theorem orderedInsert_of_forall_le {element : Element} {list : List Element}
    (least : ∀ other ∈ list, rank element ≤ rank other) :
    list.orderedInsert (fun one other => rank one ≤ rank other) element = element :: list := by
  cases list with
  | nil => rfl
  | cons first rest => exact List.orderedInsert_cons_of_le _ _ (least first (.head _))

theorem filter_orderedInsert (keep : Element → Bool) (element : Element) {list : List Element}
    (sorted : list.Pairwise fun first second => rank first ≤ rank second) :
    (list.orderedInsert (fun one other => rank one ≤ rank other) element).filter keep =
      if keep element = true then
        (list.filter keep).orderedInsert (fun one other => rank one ≤ rank other) element
      else list.filter keep := by
  induction list with
  | nil => rw [List.orderedInsert_nil, List.filter_cons]; rfl
  | cons first rest inductionHypothesis =>
    obtain ⟨least, sortedRest⟩ := List.pairwise_cons.mp sorted
    have later := inductionHypothesis sortedRest
    rw [List.orderedInsert_cons]
    split
    · rename_i before
      have leastOfAll : ∀ other ∈ (first :: rest).filter keep, rank element ≤ rank other := by
        intro other member
        rcases List.mem_cons.mp (List.mem_of_mem_filter member) with rfl | inRest
        · exact before
        · exact before.trans (least other inRest)
      rw [List.filter_cons, orderedInsert_of_forall_le leastOfAll]
    · rename_i after
      rw [List.filter_cons, later, List.filter_cons]
      by_cases keepElement : keep element = true
      · by_cases keepFirst : keep first = true
        · rw [if_pos keepElement, if_pos keepElement, if_pos keepFirst, if_pos keepFirst,
            List.orderedInsert_cons, if_neg after]
        · rw [if_pos keepElement, if_pos keepElement, if_neg keepFirst, if_neg keepFirst]
      · rw [if_neg keepElement, if_neg keepElement]

/-- The order of some of the elements is that of all of them, without the others. -/
theorem byRank_filter (keep : Element → Bool) (list : List Element) :
    byRank rank (list.filter keep) = (byRank rank list).filter keep := by
  induction list with
  | nil => rfl
  | cons first rest inductionHypothesis =>
    rw [byRank_cons, filter_orderedInsert keep first (byRank_pairwise rest), List.filter_cons,
      ← inductionHypothesis]
    split <;> rfl

end LocalNetwork
