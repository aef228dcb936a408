/-
This file is a library for choices by weight. An item of weight `n` owns `n` consecutive
positions, in the order of the list, and a position below the total weight chooses the item
that owns it. A list in which every item is repeated as often as it weighs is a cycle of
turns: whoever goes once around it meets every item that often, wherever they start.

Two ways to compute the choice agree when no weight is negative: walking the list and
subtracting weights, and bisecting the cumulative weights at a point, as `random.choices`
does.
-/

import Mathlib.Algebra.BigOperators.Group.List.Basic
import Mathlib.Algebra.Order.BigOperators.Group.List
import Mathlib.Algebra.Order.Floor.Ring
import Mathlib.Data.Int.ConditionallyCompleteOrder
import Mathlib.Data.Int.Interval
import Mathlib.Data.List.Rotate
import Mathlib.Data.Rat.Floor

namespace LocalNetwork

variable {Item : Type} (weight : Item → Int)

/-- The item that owns a position. -/
def weightedItem : List Item → Int → Option Item
  | [], _ => none
  | item :: rest, position =>
    if position < weight item then some item else weightedItem rest (position - weight item)

/-- Where in the list the item is that owns a position. -/
def weightedIndex : List Item → Int → Option Nat
  | [], _ => none
  | item :: rest, position =>
    if position < weight item then some 0
    else (weightedIndex rest (position - weight item)).map (· + 1)

/-- The total weight of the first items of a list. -/
def weightBefore (items : List Item) (index : Nat) : Int := ((items.take index).map weight).sum

variable {weight} {items : List Item} {position : Int}

theorem weightedItem_eq_bind (items : List Item) (position : Int) :
    weightedItem weight items position =
      (weightedIndex weight items position).bind fun index => items[index]? := by
  induction items generalizing position with
  | nil => rfl
  | cons first rest inductionHypothesis =>
    rw [weightedItem, weightedIndex]
    split
    · rfl
    · rw [inductionHypothesis, Option.bind_map]
      rfl

theorem weightedItem_mem {item : Item} (chosen : weightedItem weight items position = some item) :
    item ∈ items := by
  rw [weightedItem_eq_bind] at chosen
  obtain ⟨index, -, here⟩ := Option.bind_eq_some_iff.mp chosen
  exact List.mem_of_getElem? here

/-! ### The positions of an item -/

@[simp]
theorem weightBefore_zero (items : List Item) : weightBefore weight items 0 = 0 := rfl

@[simp]
theorem weightBefore_cons_succ (first : Item) (rest : List Item) (index : Nat) :
    weightBefore weight (first :: rest) (index + 1) =
      weight first + weightBefore weight rest index := by
  rw [weightBefore, List.take_succ_cons, List.map_cons, List.sum_cons, weightBefore]

theorem weightBefore_length (items : List Item) :
    weightBefore weight items items.length = (items.map weight).sum := by
  rw [weightBefore, List.take_length]

theorem weightBefore_succ {index : Nat} (inside : index < items.length) :
    weightBefore weight items (index + 1) = weightBefore weight items index +
      weight items[index] := by
  rw [weightBefore, List.take_add_one, List.getElem?_eq_getElem inside, Option.toList_some,
    List.map_append, List.sum_append, List.map_singleton, List.sum_singleton, weightBefore]

theorem weightBefore_mono (nonnegative : ∀ item ∈ items, 0 ≤ weight item) {first second : Nat}
    (before : first ≤ second) :
    weightBefore weight items first ≤ weightBefore weight items second := by
  induction items generalizing first second with
  | nil => simp [weightBefore]
  | cons item rest inductionHypothesis =>
    obtain ⟨here, later⟩ := List.forall_mem_cons.mp nonnegative
    cases second with
    | zero => rw [Nat.le_zero.mp before]
    | succ second =>
      rw [weightBefore_cons_succ]
      cases first with
      | zero =>
        have rest := inductionHypothesis later (Nat.zero_le second)
        rw [weightBefore_zero] at rest ⊢
        exact Int.add_nonneg here rest
      | succ first =>
        rw [weightBefore_cons_succ]
        exact Int.add_le_add_left (inductionHypothesis later (Nat.le_of_succ_le_succ before)) _

/-- An item owns the positions from the weights of the items before it on, as many as it weighs. -/
theorem weightedIndex_eq_some_iff (nonnegative : ∀ item ∈ items, 0 ≤ weight item)
    (start : 0 ≤ position) {index : Nat} :
    weightedIndex weight items position = some index ↔
      index < items.length ∧ weightBefore weight items index ≤ position ∧
        position < weightBefore weight items (index + 1) := by
  induction items generalizing position index with
  | nil => simp [weightedIndex]
  | cons first rest inductionHypothesis =>
    obtain ⟨here, later⟩ := List.forall_mem_cons.mp nonnegative
    rw [weightedIndex]
    by_cases owns : position < weight first
    · rw [if_pos owns, Option.some_inj]
      constructor
      · rintro rfl
        exact ⟨Nat.zero_lt_succ _, start, by simpa using owns⟩
      · rintro ⟨-, low, -⟩
        cases index with
        | zero => rfl
        | succ index =>
          have rest := weightBefore_mono later (Nat.zero_le index)
          rw [weightBefore_cons_succ] at low
          rw [weightBefore_zero] at rest
          omega
    · rw [if_neg owns, Option.map_eq_some_iff]
      constructor
      · rintro ⟨before, found, rfl⟩
        obtain ⟨inside, low, high⟩ := (inductionHypothesis later (by omega)).mp found
        rw [weightBefore_cons_succ, weightBefore_cons_succ]
        exact ⟨Nat.succ_lt_succ inside, by omega, by omega⟩
      · rintro ⟨inside, low, high⟩
        cases index with
        | zero =>
          rw [weightBefore_cons_succ, weightBefore_zero] at high
          omega
        | succ index =>
          rw [weightBefore_cons_succ] at low high
          exact ⟨index, (inductionHypothesis later (by omega)).mpr
            ⟨Nat.lt_of_succ_lt_succ inside, by omega, by omega⟩, rfl⟩

/-- Every position below the total weight has an owner. -/
theorem weightedIndex_isSome (start : 0 ≤ position) (below : position < (items.map weight).sum) :
    ∃ index, weightedIndex weight items position = some index := by
  induction items generalizing position with
  | nil =>
    rw [List.map_nil, List.sum_nil] at below
    omega
  | cons first rest inductionHypothesis =>
    rw [List.map_cons, List.sum_cons] at below
    rw [weightedIndex]
    split
    · exact ⟨0, rfl⟩
    · obtain ⟨index, found⟩ := @inductionHypothesis (position - weight first) (by omega)
        (by omega)
      exact ⟨index + 1, by rw [found, Option.map_some]⟩

theorem weightedIndex_lt_length {index : Nat}
    (found : weightedIndex weight items position = some index) : index < items.length := by
  induction items generalizing position index with
  | nil => cases found
  | cons first rest inductionHypothesis =>
    rw [weightedIndex] at found
    split at found
    · obtain rfl := Option.some.inj found
      exact Nat.zero_lt_succ _
    · obtain ⟨before, earlier, rfl⟩ := Option.map_eq_some_iff.mp found
      exact Nat.succ_lt_succ (inductionHypothesis earlier)

theorem weightedItem_isSome (start : 0 ≤ position) (below : position < (items.map weight).sum) :
    ∃ item, weightedItem weight items position = some item := by
  obtain ⟨index, found⟩ := weightedIndex_isSome start below
  rw [weightedItem_eq_bind, found, Option.bind_some]
  exact ⟨_, List.getElem?_eq_getElem (weightedIndex_lt_length found)⟩

/-- Every item with a weight owns a position. -/
theorem exists_position (nonnegative : ∀ item ∈ items, 0 ≤ weight item) {item : Item}
    (member : item ∈ items) (positive : 0 < weight item) :
    ∃ position, 0 ≤ position ∧ position < (items.map weight).sum ∧
      weightedItem weight items position = some item := by
  obtain ⟨index, inside, rfl⟩ := List.getElem_of_mem member
  have start : 0 ≤ weightBefore weight items index := weightBefore_mono nonnegative index.zero_le
  have owned : weightBefore weight items index < weightBefore weight items (index + 1) := by
    rw [weightBefore_succ inside]
    omega
  refine ⟨weightBefore weight items index, start, ?_, ?_⟩
  · rw [← weightBefore_length]
    exact lt_of_lt_of_le owned (weightBefore_mono nonnegative inside)
  · rw [weightedItem_eq_bind, (weightedIndex_eq_some_iff nonnegative start).mpr
      ⟨inside, le_refl _, owned⟩, Option.bind_some, List.getElem?_eq_getElem inside]

/-- An item owns as many positions as it weighs. -/
theorem card_owned (nonnegative : ∀ item ∈ items, 0 ≤ weight item) {index : Nat}
    (inside : index < items.length) :
    (((Finset.Ico 0 (items.map weight).sum).filter fun position =>
      weightedIndex weight items position = some index).card : Int) = weight items[index] := by
  have owned : (Finset.Ico 0 (items.map weight).sum).filter (fun position =>
      weightedIndex weight items position = some index) =
        Finset.Ico (weightBefore weight items index) (weightBefore weight items (index + 1)) := by
    ext position
    rw [Finset.mem_filter, Finset.mem_Ico, Finset.mem_Ico]
    constructor
    · rintro ⟨⟨start, -⟩, owns⟩
      exact ((weightedIndex_eq_some_iff nonnegative start).mp owns).2
    · rintro ⟨low, high⟩
      have start := le_trans (weightBefore_mono nonnegative index.zero_le) low
      refine ⟨⟨start, ?_⟩, (weightedIndex_eq_some_iff nonnegative start).mpr ⟨inside, low, high⟩⟩
      rw [← weightBefore_length]
      exact lt_of_lt_of_le high (weightBefore_mono nonnegative inside)
  have weighs := nonnegative items[index] (List.getElem_mem inside)
  rw [owned, Int.card_Ico, weightBefore_succ inside]
  omega

/-! ### Repeating the items -/

/-- Each item as often as it weighs. -/
def repeated (weight : Item → Int) (items : List Item) : List Item :=
  items.flatMap fun item => List.replicate (weight item).toNat item

theorem repeated_length (weight : Item → Int) (items : List Item) :
    (repeated weight items).length = (items.map fun item => (weight item).toNat).sum := by
  rw [repeated, List.length_flatMap]
  refine congrArg List.sum (List.map_congr_left fun item _ => ?_)
  rw [List.length_replicate]

theorem mem_repeated {item : Item} :
    item ∈ repeated weight items ↔ item ∈ items ∧ 0 < weight item := by
  rw [repeated, List.mem_flatMap]
  constructor
  · rintro ⟨other, member, same⟩
    obtain ⟨weighs, rfl⟩ := List.mem_replicate.mp same
    exact ⟨member, by omega⟩
  · rintro ⟨member, weighs⟩
    exact ⟨item, member, List.mem_replicate.mpr ⟨by omega, rfl⟩⟩

theorem repeated_length_eq_sum (nonnegative : ∀ item ∈ items, 0 ≤ weight item) :
    ((repeated weight items).length : Int) = (items.map weight).sum := by
  rw [repeated_length]
  induction items with
  | nil => rfl
  | cons first rest inductionHypothesis =>
    obtain ⟨here, later⟩ := List.forall_mem_cons.mp nonnegative
    rw [List.map_cons, List.sum_cons, List.map_cons, List.sum_cons, Nat.cast_add,
      inductionHypothesis later, Int.toNat_of_nonneg here]

theorem repeated_map {Other : Type} (weight : Other → Int) (label : Item → Other)
    (items : List Item) :
    repeated weight (items.map label) = (repeated (weight ∘ label) items).map label := by
  rw [repeated, repeated, List.flatMap_map, List.map_flatMap]
  refine List.flatMap_congr fun item _ => ?_
  rw [List.map_replicate]
  rfl

theorem countP_repeated [DecidableEq Item] (distinct : items.Nodup) {item : Item}
    (member : item ∈ items) :
    ((repeated weight items).countP fun other => other = item) = (weight item).toNat := by
  induction items with
  | nil => cases member
  | cons first rest inductionHypothesis =>
    obtain ⟨absent, distinctRest⟩ := List.nodup_cons.mp distinct
    rw [repeated, List.flatMap_cons, List.countP_append, List.countP_replicate]
    rcases List.mem_cons.mp member with rfl | later
    · rw [if_pos (decide_eq_true rfl)]
      refine congrArg (_ + ·) (List.countP_eq_zero.mpr fun other again same => ?_)
      exact absent (of_decide_eq_true same ▸ (mem_repeated.mp again).1)
    · have different : first ≠ item := fun same => absent (same ▸ later)
      rw [if_neg (by simpa using different), Nat.zero_add]
      exact inductionHypothesis distinctRest later

/-- Wherever one starts in a cycle, one full turn meets an item as often as it stands in it. -/
theorem countP_turn [DecidableEq Item] (cycle : List Item) (start : Nat) (item : Item) :
    ((List.range cycle.length).countP fun offset =>
      cycle[(start + offset) % cycle.length]? = some item) =
        cycle.countP fun other => other = item := by
  have turn : (List.range cycle.length).map (fun offset =>
      cycle[(start + offset) % cycle.length]?) = (cycle.rotate start).map some := by
    refine List.ext_getElem? fun offset => ?_
    by_cases inside : offset < cycle.length
    · rw [List.getElem?_map, List.getElem?_range inside, Option.map_some, List.getElem?_map,
        List.getElem?_rotate inside, Nat.add_comm,
        List.getElem?_eq_getElem (Nat.mod_lt _ (Nat.zero_lt_of_lt inside)), Option.map_some]
    · rw [List.getElem?_eq_none (by simpa using inside),
        List.getElem?_eq_none (by simpa using inside)]
  calc ((List.range cycle.length).countP fun offset =>
        cycle[(start + offset) % cycle.length]? = some item)
      = ((cycle.rotate start).map some).countP fun found => found = some item := by
        rw [← turn, List.countP_map]
        rfl
    _ = (cycle.rotate start).countP fun other => other = item := by
        rw [List.countP_map]
        exact List.countP_congr fun other _ => by simp
    _ = cycle.countP fun other => other = item := (List.rotate_perm cycle start).countP_eq _

/-! ### Bisecting the cumulative weights -/

/-- `itertools.accumulate`, from a number on. -/
def accumulate : Int → List Int → List Int
  | _, [] => []
  | base, number :: rest => (base + number) :: accumulate (base + number) rest

/-- `bisect.bisect` between two indices: the range is halved until nothing is left of it. -/
def bisect (numbers : List Int) (point : ℚ) (low high : Nat) : Nat :=
  if low < high then
    let middle := (low + high) / 2
    if point < numbers.getD middle 0 then bisect numbers point low middle
    else bisect numbers point (middle + 1) high
  else low
termination_by high - low

/-- The search ends at the index where the numbers begin to be above the point. -/
theorem bisect_eq {numbers : List Int} {point : ℚ} {index low high : Nat}
    (reached : ∀ other, other < index → (numbers.getD other 0 : ℚ) ≤ point)
    (above : ∀ other, index ≤ other → other < high → point < numbers.getD other 0)
    (atLeast : low ≤ index) (atMost : index ≤ high) : bisect numbers point low high = index := by
  induction low, high using bisect.induct numbers point with
  | case1 low high nonempty middle isAbove inductionHypothesis =>
    rw [bisect, if_pos nonempty, if_pos isAbove]
    refine inductionHypothesis (fun other later inside => above other later (by omega)) atLeast ?_
    by_contra beyond
    exact absurd (reached middle (by omega)) (not_le.mpr isAbove)
  | case2 low high nonempty middle notAbove inductionHypothesis =>
    rw [bisect, if_pos nonempty, if_neg notAbove]
    refine inductionHypothesis above ?_ atMost
    by_contra before
    exact notAbove (above middle (by omega) (by omega))
  | case3 low high empty =>
    rw [bisect, if_neg empty]
    omega

theorem accumulate_getD (weight : Item → Int) (items : List Item) (base : Int) {index : Nat}
    (inside : index < items.length) :
    (accumulate base (items.map weight)).getD index 0 =
      base + weightBefore weight items (index + 1) := by
  induction items generalizing base index with
  | nil => exact absurd inside (Nat.not_lt_zero _)
  | cons first rest inductionHypothesis =>
    rw [List.map_cons, accumulate, weightBefore_cons_succ]
    cases index with
    | zero => rw [List.getD_cons_zero, weightBefore_zero, Int.add_zero]
    | succ index =>
      rw [List.getD_cons_succ, inductionHypothesis _ (Nat.lt_of_succ_lt_succ inside), Int.add_assoc]

/-- Bisecting at a point finds the owner of the integer part of the point. -/
theorem getElem?_bisect (nonnegative : ∀ item ∈ items, 0 ≤ weight item) {point : ℚ}
    (low : 0 ≤ point) (high : point < ((items.map weight).sum : Int)) :
    items[bisect (accumulate 0 (items.map weight)) point 0 (items.length - 1)]? =
      weightedItem weight items ⌊point⌋ := by
  have start : 0 ≤ ⌊point⌋ := Int.floor_nonneg.mpr low
  obtain ⟨index, found⟩ := weightedIndex_isSome start (Int.floor_lt.mpr high)
  obtain ⟨inside, before, after⟩ := (weightedIndex_eq_some_iff nonnegative start).mp found
  have same : bisect (accumulate 0 (items.map weight)) point 0 (items.length - 1) = index := by
    refine bisect_eq (fun other earlier => ?_) (fun other later isBefore => ?_) (Nat.zero_le _)
      (by omega)
    · rw [accumulate_getD weight items 0 (by omega), Int.zero_add, ← Int.le_floor]
      exact le_trans (weightBefore_mono nonnegative earlier) before
    · rw [accumulate_getD weight items 0 (by omega), Int.zero_add, ← Int.floor_lt]
      exact lt_of_lt_of_le after (weightBefore_mono nonnegative (Nat.succ_le_succ later))
  rw [same, weightedItem_eq_bind, found, Option.bind_some]

end LocalNetwork
