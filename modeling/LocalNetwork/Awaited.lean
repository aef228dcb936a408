/-
This file is a library for loops that await a call for each item of a list. A call leaves
log entries and may raise, and an exception ends the loop, so that the later items are
never reached.

A loop of loops is one loop over the items of all. A loop of single attempts gets as far as
the first attempt that fails; it makes every attempt that would succeed exactly when all
attempts after the first failing one fail too.
-/

import Mathlib.Data.List.Flatten

namespace LocalNetwork

/-- What an awaited call did: its log entries, and the exception that ended it, if any. -/
structure Awaited (Entry Exception : Type) where
  entries : List Entry
  raised : Option Exception
  deriving DecidableEq, Repr

namespace Awaited

variable {Entry Exception Item Inner : Type}

/-- A call that does nothing. -/
def nothing : Awaited Entry Exception := ⟨[], none⟩

/-- A call followed by another one, unless the first raises. -/
def andThen (first second : Awaited Entry Exception) : Awaited Entry Exception :=
  match first.raised with
  | some _ => first
  | none => ⟨first.entries ++ second.entries, second.raised⟩

/-- Await a call for each item of a list. -/
def forEach (body : Item → Awaited Entry Exception) (items : List Item) :
    Awaited Entry Exception :=
  items.foldr (fun item rest => (body item).andThen rest) nothing

/-- A call that makes one entry or fails. -/
def attempt (fails : Entry → Option Exception) (entry : Entry) : Awaited Entry Exception :=
  match fails entry with
  | none => ⟨[entry], none⟩
  | some exception => ⟨[], some exception⟩

@[simp]
theorem nothing_andThen (call : Awaited Entry Exception) : nothing.andThen call = call := rfl

@[simp]
theorem andThen_nothing (call : Awaited Entry Exception) : call.andThen nothing = call := by
  obtain ⟨entries, raised⟩ := call
  cases raised with
  | none => simp [andThen, nothing]
  | some exception => rfl

theorem andThen_assoc (first second third : Awaited Entry Exception) :
    (first.andThen second).andThen third = first.andThen (second.andThen third) := by
  obtain ⟨entries, raised⟩ := first
  cases raised with
  | some exception => rfl
  | none =>
    obtain ⟨others, otherRaised⟩ := second
    cases otherRaised with
    | some exception => rfl
    | none => simp [andThen]

/-- Entries that were made before a call raised stay. -/
theorem andThen_split (first second : List Entry) (raised : Option Exception)
    (rest : Awaited Entry Exception) :
    andThen ⟨first ++ second, none⟩ (andThen ⟨[], raised⟩ rest) =
      andThen ⟨first, none⟩ (andThen ⟨second, raised⟩ rest) := by
  cases raised with
  | none => simp [andThen]
  | some exception => simp [andThen]

theorem andThen_raised (first second : Awaited Entry Exception) :
    (first.andThen second).raised = none ↔ first.raised = none ∧ second.raised = none := by
  obtain ⟨entries, raised⟩ := first
  cases raised with
  | some exception => simp [andThen]
  | none => simp [andThen]

/-! ### Loops -/

@[simp]
theorem forEach_nil (body : Item → Awaited Entry Exception) : forEach body [] = nothing := rfl

@[simp]
theorem forEach_cons (body : Item → Awaited Entry Exception) (item : Item) (rest : List Item) :
    forEach body (item :: rest) = (body item).andThen (forEach body rest) := rfl

theorem forEach_append (body : Item → Awaited Entry Exception) (first second : List Item) :
    forEach body (first ++ second) = (forEach body first).andThen (forEach body second) := by
  induction first with
  | nil => rfl
  | cons item rest inductionHypothesis =>
    rw [List.cons_append, forEach_cons, forEach_cons, inductionHypothesis, andThen_assoc]

theorem forEach_map (body : Inner → Awaited Entry Exception) (of : Item → Inner)
    (items : List Item) :
    forEach body (items.map of) = forEach (fun item => body (of item)) items := by
  rw [forEach, forEach, List.foldr_map]

/-- A loop of loops is one loop over the items of all. -/
theorem forEach_flatMap (body : Inner → Awaited Entry Exception) (inner : Item → List Inner)
    (items : List Item) :
    forEach body (items.flatMap inner) = forEach (fun item => forEach body (inner item)) items := by
  induction items with
  | nil => rfl
  | cons item rest inductionHypothesis =>
    rw [List.flatMap_cons, forEach_append, forEach_cons, inductionHypothesis]

/-- A loop goes through when none of its calls raises. -/
theorem forEach_raised (body : Item → Awaited Entry Exception) (items : List Item) :
    (forEach body items).raised = none ↔ ∀ item ∈ items, (body item).raised = none := by
  induction items with
  | nil => simp [nothing]
  | cons item rest inductionHypothesis =>
    rw [forEach_cons, andThen_raised, inductionHypothesis, List.forall_mem_cons]

/-! ### Loops of attempts -/

variable {fails : Entry → Option Exception}

theorem attempt_raised (entry : Entry) : (attempt fails entry).raised = fails entry := by
  unfold attempt
  split <;> rename_i failed <;> rw [failed]

/-- The entries of a loop of attempts are those before the first that fails. -/
theorem forEach_attempt (entries : List Entry) :
    (forEach (attempt fails) entries).entries =
      entries.takeWhile fun entry => (fails entry).isNone := by
  induction entries with
  | nil => rfl
  | cons entry rest inductionHypothesis =>
    rw [forEach_cons, List.takeWhile_cons]
    cases failed : fails entry with
    | none => simp [attempt, failed, andThen, inductionHypothesis]
    | some exception => simp [attempt, failed, andThen]

/-- A loop that stops at the first item that is refused misses no other item if and only if all
items after it are refused too. -/
theorem takeWhile_eq_filter_iff (accepts : Entry → Bool) (entries : List Entry) :
    entries.takeWhile accepts = entries.filter accepts ↔
      entries.Pairwise fun earlier later => accepts earlier = false → accepts later = false := by
  induction entries with
  | nil => simp
  | cons entry rest inductionHypothesis =>
    cases accepted : accepts entry with
    | true => simp [accepted, inductionHypothesis]
    | false =>
      simp only [List.takeWhile_cons, List.filter_cons, accepted, List.pairwise_cons, if_false,
        Bool.false_eq_true]
      rw [eq_comm, List.filter_eq_nil_iff]
      constructor
      · intro none
        have refused : ∀ later ∈ rest, accepts later = false := fun later member =>
          Bool.eq_false_iff.mpr (none later member)
        refine ⟨fun later member _ => refused later member, ?_⟩
        exact List.pairwise_of_forall_mem_list fun earlier _ later member _ => refused later member
      · rintro ⟨refused, -⟩ later member
        exact Bool.eq_false_iff.mp (refused later member trivial)

end Awaited

end LocalNetwork
