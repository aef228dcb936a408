/-
This file is a library about the first of the largest elements of a list, by a measure. A
scan that remembers the largest element so far finds it, and what the scan finds does not
depend on the order of the list as long as no two elements are equally large.
-/

import Mathlib.Data.List.MinMax

namespace LocalNetwork

variable {Item Value : Type} [LinearOrder Value] {measure : Item → Value} {items others : List Item}
  {item : Item}

/-- An element of a list that is larger than those before it and no smaller than those behind it. -/
def FirstLargest (measure : Item → Value) (items : List Item) (item : Item) : Prop :=
  ∃ before after, items = before ++ item :: after ∧
    (∀ other ∈ before, measure other < measure item) ∧
      ∀ other ∈ after, measure other ≤ measure item

theorem FirstLargest.largest (first : FirstLargest measure items item) {other : Item}
    (member : other ∈ items) : measure other ≤ measure item := by
  obtain ⟨before, after, rfl, smaller, notLarger⟩ := first
  rcases List.mem_append.mp member with inFront | behind
  · exact (smaller other inFront).le
  · rcases List.mem_cons.mp behind with rfl | later
    · exact le_rfl
    · exact notLarger other later

theorem FirstLargest.mem (first : FirstLargest measure items item) : item ∈ items := by
  obtain ⟨before, after, rfl, -⟩ := first
  exact List.mem_append_right _ List.mem_cons_self

/-- The first of the largest elements of a list with one more in front. -/
theorem firstLargest_cons_iff {head : Item} :
    FirstLargest measure (head :: items) item ↔
      (item = head ∧ ∀ other ∈ items, measure other ≤ measure head) ∨
        (FirstLargest measure items item ∧ measure head < measure item) := by
  constructor
  · rintro ⟨before, after, split, smaller, notLarger⟩
    cases before with
    | nil =>
      obtain ⟨rfl, rfl⟩ := List.cons.inj split
      exact .inl ⟨rfl, notLarger⟩
    | cons front before =>
      obtain ⟨rfl, rfl⟩ := List.cons.inj split
      refine .inr ⟨⟨before, after, rfl, fun other member => ?_, notLarger⟩, ?_⟩
      · exact smaller other (List.mem_cons_of_mem _ member)
      · exact smaller head List.mem_cons_self
  · rintro (⟨rfl, notLarger⟩ | ⟨⟨before, after, rfl, smaller, notLarger⟩, larger⟩)
    · exact ⟨[], items, rfl, fun other member => absurd member List.not_mem_nil, notLarger⟩
    · refine ⟨head :: before, after, rfl, fun other member => ?_, notLarger⟩
      rcases List.mem_cons.mp member with rfl | later
      · exact larger
      · exact smaller other later

/-- The maximizer that `argmax` returns is the first one. -/
theorem argmax_eq_some_iff_firstLargest :
    items.argmax measure = some item ↔ FirstLargest measure items item := by
  induction items generalizing item with
  | nil =>
    refine iff_of_false (by simp) fun first => ?_
    exact List.not_mem_nil first.mem
  | cons head rest inductionHypothesis =>
    rw [List.argmax_cons, firstLargest_cons_iff]
    cases found : rest.argmax measure with
    | none =>
      obtain rfl := List.argmax_eq_none.mp found
      constructor
      · intro same
        exact .inl ⟨(Option.some.inj same).symm, fun other member => absurd member List.not_mem_nil⟩
      · rintro (⟨rfl, -⟩ | ⟨first, -⟩)
        · rfl
        · exact absurd first.mem List.not_mem_nil
    | some largest =>
      have first := inductionHypothesis.mp found
      dsimp only
      split
      · rename_i larger
        constructor
        · intro same
          obtain rfl := Option.some.inj same
          exact .inr ⟨first, larger⟩
        · rintro (⟨rfl, notLarger⟩ | ⟨other, -⟩)
          · exact absurd larger (not_lt.mpr (notLarger largest first.mem))
          · rw [← found]
            exact inductionHypothesis.mpr other
      · rename_i notLarger
        constructor
        · intro same
          refine .inl ⟨(Option.some.inj same).symm, fun other member => ?_⟩
          exact (first.largest member).trans (not_lt.mp notLarger)
        · rintro (⟨rfl, -⟩ | ⟨other, larger⟩)
          · rfl
          · have same := found.symm.trans (inductionHypothesis.mpr other)
            obtain rfl := Option.some.inj same
            exact absurd larger notLarger

/-- Where no two elements are equally large, the order of the list does not matter. -/
theorem argmax_perm (perm : items.Perm others)
    (separates : ∀ first ∈ items, ∀ second ∈ items, measure first = measure second →
      first = second) : items.argmax measure = others.argmax measure := by
  cases found : items.argmax measure with
  | none =>
    obtain rfl := List.argmax_eq_none.mp found
    rw [perm.nil_eq.symm]
    rfl
  | some first =>
    have largest := argmax_eq_some_iff_firstLargest.mp found
    cases foundOther : others.argmax measure with
    | none =>
      obtain rfl := List.argmax_eq_none.mp foundOther
      exact absurd (perm.mem_iff.mp largest.mem) List.not_mem_nil
    | some second =>
      have largestOther := argmax_eq_some_iff_firstLargest.mp foundOther
      have member := perm.mem_iff.mpr largestOther.mem
      refine congrArg some (separates first largest.mem second member ?_)
      exact le_antisymm (largestOther.largest (perm.mem_iff.mp largest.mem))
        (largest.largest member)

end LocalNetwork
