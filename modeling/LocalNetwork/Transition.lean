/-
This file is a library for step functions that may refuse an event, and for the runs
they generate. A run feeds a list of events to the step function; a condition holds
along a run when every event meets it in the state in which it is taken.

The invariant rule is the one induction of the later files: what holds at the start
and is kept by every step that meets the condition holds after every run that meets
it. A second form of the rule lets the invariant look back at what happened in the run.
-/

import Mathlib.Data.List.Basic

namespace LocalNetwork

variable {State Event : Type}

/-- Feed a list of events to a step function. -/
def runFrom (step : State → Event → Option State) : State → List Event → Option State
  | state, [] => some state
  | state, event :: rest => (step state event).bind fun next => runFrom step next rest

/-- A condition holds along a run when every event meets it in the state it is taken in. -/
def HoldsAlong (step : State → Event → Option State) (condition : State → Event → Prop) :
    State → List Event → Prop
  | _, [] => True
  | state, event :: rest =>
    condition state event ∧
      ∀ next, step state event = some next → HoldsAlong step condition next rest

variable {step : State → Event → Option State} {condition : State → Event → Prop}

theorem runFrom_cons {state final : State} {event : Event} {rest : List Event} :
    runFrom step state (event :: rest) = some final ↔
      ∃ next, step state event = some next ∧ runFrom step next rest = some final := by
  rw [runFrom, Option.bind_eq_some_iff]

/-- Where the first event is taken, a condition holds along a run if the event meets it and it holds
along the rest. -/
theorem holdsAlong_cons {state next : State} {event : Event} {rest : List Event}
    (stepped : step state event = some next) :
    HoldsAlong step condition state (event :: rest) ↔
      condition state event ∧ HoldsAlong step condition next rest := by
  refine and_congr_right fun _ => ⟨fun each => each next stepped, fun along other taken => ?_⟩
  exact Option.some.inj (stepped.symm.trans taken) ▸ along

instance decidableHoldsAlong [∀ state event, Decidable (condition state event)] :
    (state : State) → (events : List Event) → Decidable (HoldsAlong step condition state events)
  | _, [] => isTrue trivial
  | state, event :: rest =>
    match stepped : step state event with
    | none =>
      decidable_of_iff (condition state event)
        ⟨fun holds => ⟨holds, fun next taken => by rw [stepped] at taken; cases taken⟩, And.left⟩
    | some next =>
      have : Decidable (HoldsAlong step condition next rest) := decidableHoldsAlong next rest
      decidable_of_iff (condition state event ∧ HoldsAlong step condition next rest)
        ⟨fun holds => ⟨holds.1, fun other taken => by
            rw [stepped] at taken
            exact Option.some.inj taken ▸ holds.2⟩,
          fun holds => ⟨holds.1, holds.2 next stepped⟩⟩

theorem runFrom_append {state final : State} {first second : List Event} :
    runFrom step state (first ++ second) = some final ↔
      ∃ middle, runFrom step state first = some middle ∧
        runFrom step middle second = some final := by
  induction first generalizing state with
  | nil => simp [runFrom]
  | cons event rest inductionHypothesis =>
    rw [List.cons_append, runFrom_cons]
    constructor
    · rintro ⟨next, stepped, ran⟩
      obtain ⟨middle, before, after⟩ := inductionHypothesis.mp ran
      exact ⟨middle, runFrom_cons.mpr ⟨next, stepped, before⟩, after⟩
    · rintro ⟨middle, before, after⟩
      obtain ⟨next, stepped, ran⟩ := runFrom_cons.mp before
      exact ⟨next, stepped, inductionHypothesis.mpr ⟨middle, ran, after⟩⟩

/-- The invariant rule for runs along which a condition holds. -/
theorem run_invariant {invariant : State → Prop}
    (kept : ∀ state event next, condition state event → invariant state →
      step state event = some next → invariant next)
    {state final : State} {events : List Event} (holds : invariant state)
    (along : HoldsAlong step condition state events)
    (ran : runFrom step state events = some final) : invariant final := by
  induction events generalizing state with
  | nil =>
    rw [runFrom, Option.some_inj] at ran
    exact ran ▸ holds
  | cons event rest inductionHypothesis =>
    obtain ⟨next, stepped, rest⟩ := runFrom_cons.mp ran
    exact inductionHypothesis (kept state event next along.1 holds stepped)
      (along.2 next stepped) rest

/-- The simulation rule. A relation to the states of another step function holds at the start, and
every step that meets the condition is matched by a run of the other function. Then every run that
meets it is. -/
theorem run_simulates {Abstract Move : Type} {move : Abstract → Move → Option Abstract}
    {relation : State → Abstract → Prop}
    (matched : ∀ state event next abstract, condition state event → relation state abstract →
      step state event = some next →
        ∃ moves abstractNext, runFrom move abstract moves = some abstractNext ∧
          relation next abstractNext)
    {state final : State} {events : List Event} {abstract : Abstract}
    (related : relation state abstract) (along : HoldsAlong step condition state events)
    (ran : runFrom step state events = some final) :
    ∃ moves abstractFinal, runFrom move abstract moves = some abstractFinal ∧
      relation final abstractFinal := by
  induction events generalizing state abstract with
  | nil =>
    rw [runFrom, Option.some_inj] at ran
    exact ⟨[], abstract, rfl, ran ▸ related⟩
  | cons event rest inductionHypothesis =>
    obtain ⟨next, stepped, restRan⟩ := runFrom_cons.mp ran
    obtain ⟨moves, abstractNext, moved, relatedNext⟩ :=
      matched state event next abstract along.1 related stepped
    obtain ⟨more, abstractFinal, movedOn, relatedFinal⟩ :=
      inductionHypothesis relatedNext (along.2 next stepped) restRan
    exact ⟨moves ++ more, abstractFinal, runFrom_append.mpr ⟨abstractNext, moved, movedOn⟩,
      relatedFinal⟩

/-- Two step functions that agree where an invariant holds have the same runs from there. -/
theorem runFrom_congr {other : State → Event → Option State} {invariant : State → Prop}
    (agree : ∀ state event, invariant state → step state event = other state event)
    (kept : ∀ state event next, invariant state → step state event = some next → invariant next)
    {state : State} (holds : invariant state) (events : List Event) :
    runFrom step state events = runFrom other state events := by
  induction events generalizing state with
  | nil => rfl
  | cons event rest inductionHypothesis =>
    rw [runFrom, runFrom, ← agree state event holds]
    cases stepped : step state event with
    | none => rfl
    | some next => exact inductionHypothesis (kept state event next holds stepped)

/-- A condition that every event meets in every state holds along a run. -/
theorem holdsAlong_of_forall {events : List Event}
    (each : ∀ event ∈ events, ∀ state, condition state event) (state : State) :
    HoldsAlong step condition state events := by
  induction events generalizing state with
  | nil => exact trivial
  | cons event rest inductionHypothesis =>
    exact ⟨each event List.mem_cons_self state, fun next _ =>
      inductionHypothesis (fun other member => each other (List.mem_cons_of_mem _ member)) next⟩

/-- The condition that asks nothing holds along every run. -/
theorem holdsAlong_true (events : List Event) (state : State) :
    HoldsAlong step (fun _ _ => True) state events :=
  holdsAlong_of_forall (fun _ _ _ => trivial) state

/-- Two conditions hold along a run together. -/
theorem holdsAlong_and {other : State → Event → Prop} {events : List Event} {state : State}
    (first : HoldsAlong step condition state events) (second : HoldsAlong step other state events) :
    HoldsAlong step (fun state event => condition state event ∧ other state event) state events := by
  induction events generalizing state with
  | nil => exact trivial
  | cons event rest inductionHypothesis =>
    exact ⟨⟨first.1, second.1⟩, fun next stepped =>
      inductionHypothesis (first.2 next stepped) (second.2 next stepped)⟩

/-- A condition holds along a run in two parts when it holds along both. -/
theorem holdsAlong_append {state middle : State} {first second : List Event}
    (along : HoldsAlong step condition state (first ++ second))
    (ran : runFrom step state first = some middle) :
    HoldsAlong step condition state first ∧ HoldsAlong step condition middle second := by
  induction first generalizing state with
  | nil =>
    rw [runFrom, Option.some_inj] at ran
    exact ⟨trivial, ran ▸ along⟩
  | cons event rest inductionHypothesis =>
    obtain ⟨next, stepped, restRan⟩ := runFrom_cons.mp ran
    obtain ⟨restAlong, secondAlong⟩ := inductionHypothesis (along.2 next stepped) restRan
    exact ⟨(holdsAlong_cons stepped).mpr ⟨along.1, restAlong⟩, secondAlong⟩

/-- A condition holds along a run when every event meets it after those before it. -/
theorem holdsAlong_iff {state : State} {events : List Event} :
    HoldsAlong step condition state events ↔
      ∀ before event after reached, events = before ++ event :: after →
        runFrom step state before = some reached → condition reached event := by
  constructor
  · rintro along before event after reached rfl ran
    exact (holdsAlong_append along ran).2.1
  · intro everywhere
    induction events generalizing state with
    | nil => exact trivial
    | cons event rest inductionHypothesis =>
      refine ⟨everywhere [] event rest state rfl rfl, fun next stepped => ?_⟩
      refine inductionHypothesis fun before other after reached split ran => ?_
      exact everywhere (event :: before) other after reached (by rw [split, List.cons_append])
        (runFrom_cons.mpr ⟨next, stepped, ran⟩)

/-- Two conditions that agree where an invariant holds, which the steps that meet them keep, hold
along the same runs. -/
theorem holdsAlong_congr {other : State → Event → Prop} {invariant : State → Prop}
    (agree : ∀ state event, invariant state → (condition state event ↔ other state event))
    (kept : ∀ state event next, condition state event → invariant state →
      step state event = some next → invariant next)
    {state : State} (holds : invariant state) (events : List Event) :
    HoldsAlong step condition state events ↔ HoldsAlong step other state events := by
  induction events generalizing state with
  | nil => exact Iff.rfl
  | cons event rest inductionHypothesis =>
    rw [HoldsAlong, HoldsAlong, ← agree state event holds]
    refine and_congr_right fun met => forall_congr' fun next => imp_congr_right fun stepped => ?_
    exact inductionHypothesis (kept state event next met holds stepped)

/-- Every event of a run that goes through is taken. -/
theorem holdsAlong_taken {state final : State} {events : List Event}
    (along : HoldsAlong step condition state events)
    (ran : runFrom step state events = some final) :
    HoldsAlong step
      (fun state event => condition state event ∧ ∃ next, step state event = some next)
      state events := by
  induction events generalizing state with
  | nil => exact trivial
  | cons event rest inductionHypothesis =>
    obtain ⟨taken, stepped, restRan⟩ := runFrom_cons.mp ran
    exact (holdsAlong_cons stepped).mpr
      ⟨⟨along.1, taken, stepped⟩, inductionHypothesis (along.2 taken stepped) restRan⟩

/-- The rule for the exact condition of a property of states. Steps that meet the condition keep an
invariant that gives the property, and from the invariant only such steps keep the property. The
property then holds in every state that a run passes through if and only if every step of the run
meets the condition. -/
theorem safe_iff_holdsAlong {premise : State → Event → Prop} {invariant safe : State → Prop}
    (safeHere : ∀ state, invariant state → safe state)
    (kept : ∀ state event next, premise state event → condition state event → invariant state →
      step state event = some next → invariant next)
    (needed : ∀ state event, premise state event → invariant state →
      (∀ next, step state event = some next → safe next) → condition state event)
    {state : State} {events : List Event} (admitted : HoldsAlong step premise state events)
    (holds : invariant state) :
    (∀ before after reached, events = before ++ after → runFrom step state before = some reached →
      safe reached) ↔ HoldsAlong step condition state events := by
  induction events generalizing state with
  | nil =>
    refine ⟨fun _ => trivial, fun _ before after reached split ran => ?_⟩
    obtain ⟨rfl, -⟩ := List.append_eq_nil_iff.mp split.symm
    obtain rfl := Option.some.inj ran
    exact safeHere state holds
  | cons event rest inductionHypothesis =>
    constructor
    · intro everywhere
      have met : condition state event := needed state event admitted.1 holds fun next stepped =>
        everywhere [event] rest next rfl (runFrom_cons.mpr ⟨next, stepped, rfl⟩)
      refine ⟨met, fun next stepped => ?_⟩
      refine (inductionHypothesis (admitted.2 next stepped)
        (kept state event next admitted.1 met holds stepped)).mp
          fun before after reached split ran => ?_
      exact everywhere (event :: before) after reached (by rw [split, List.cons_append])
        (runFrom_cons.mpr ⟨next, stepped, ran⟩)
    · rintro ⟨met, along⟩ before after reached split ran
      cases before with
      | nil =>
        obtain rfl := Option.some.inj ran
        exact safeHere state holds
      | cons first before =>
        obtain ⟨rfl, splitRest⟩ := List.cons.inj split
        obtain ⟨next, stepped, ranRest⟩ := runFrom_cons.mp ran
        exact (inductionHypothesis (admitted.2 next stepped)
          (kept state event next admitted.1 met holds stepped)).mpr (along next stepped)
            before after reached splitRest ranRest

/-! ### What happened in a run -/

/-- At some step of a run something happened, a relation between the events before it, the state
it was taken in and the event. -/
def Happened (step : State → Event → Option State) (start : State)
    (happens : List Event → State → Event → Prop) (events : List Event) : Prop :=
  ∃ before event after state, events = before ++ event :: after ∧
    runFrom step start before = some state ∧ happens before state event

variable {start : State} {happens : List Event → State → Event → Prop} {past : List Event}

theorem happened_now {state : State} {event : Event} (ran : runFrom step start past = some state)
    (now : happens past state event) : Happened step start happens (past ++ [event]) :=
  ⟨past, event, [], state, rfl, ran, now⟩

theorem Happened.append (happened : Happened step start happens past) (more : List Event) :
    Happened step start happens (past ++ more) := by
  obtain ⟨before, early, after, state, rfl, ran, then_⟩ := happened
  exact ⟨before, early, after ++ more, state, by simp, ran, then_⟩

theorem Happened.later (happened : Happened step start happens past) (event : Event) :
    Happened step start happens (past ++ [event]) :=
  happened.append [event]

/-- What happened in a run with one more event happened before or happens in the last step. -/
theorem happened_snoc {state : State} {event : Event}
    (ran : runFrom step start past = some state)
    (happened : Happened step start happens (past ++ [event])) :
    Happened step start happens past ∨ happens past state event := by
  obtain ⟨before, early, after, earlier, split, ranBefore, then_⟩ := happened
  rcases List.eq_nil_or_concat after with rfl | ⟨init, last, rfl⟩
  · obtain ⟨rfl, same⟩ := List.append_inj' split rfl
    obtain rfl := (List.cons.inj same).1
    rw [ran] at ranBefore
    exact .inr (Option.some.inj ranBefore ▸ then_)
  · rw [List.concat_eq_append, ← List.cons_append, ← List.append_assoc] at split
    obtain ⟨same, -⟩ := List.append_inj' split rfl
    exact .inl ⟨before, early, init, earlier, same, ranBefore, then_⟩

/-- What no step of a run does has not happened in it. -/
theorem not_happened {happens : State → Event → Prop} {events : List Event}
    (along : HoldsAlong step (fun state event => ¬ happens state event) start events) :
    ¬ Happened step start (fun _ => happens) events := by
  rintro ⟨before, event, after, state, rfl, ran, now⟩
  exact (holdsAlong_append along ran).2.1 now

/-- The invariant rule for runs whose invariant looks back at the events. -/
theorem history_invariant {invariant : List Event → State → Prop}
    (kept : ∀ past state event next, runFrom step start past = some state →
      condition state event → invariant past state → step state event = some next →
        invariant (past ++ [event]) next)
    {final : State} {events : List Event} (initially : invariant [] start)
    (along : HoldsAlong step condition start events)
    (ran : runFrom step start events = some final) : invariant events final := by
  have continued : ∀ (events past : List Event) (state : State),
      runFrom step start past = some state → invariant past state →
      HoldsAlong step condition state events → runFrom step state events = some final →
        invariant (past ++ events) final := by
    intro events
    induction events with
    | nil =>
      intro past state ranPast holds _ ran
      rw [runFrom, Option.some_inj] at ran
      rw [List.append_nil, ← ran]
      exact holds
    | cons event rest inductionHypothesis =>
      intro past state ranPast holds along ran
      obtain ⟨next, stepped, rest⟩ := runFrom_cons.mp ran
      have ranNext : runFrom step start (past ++ [event]) = some next :=
        runFrom_append.mpr ⟨state, ranPast, runFrom_cons.mpr ⟨next, stepped, rfl⟩⟩
      have extended := inductionHypothesis (past ++ [event]) next ranNext
        (kept past state event next ranPast along.1 holds stepped) (along.2 next stepped) rest
      rw [List.append_assoc] at extended
      exact extended
  exact continued events [] start rfl initially along ran

end LocalNetwork
