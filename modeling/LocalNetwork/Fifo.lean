/-
This file is a library for queues that remember what was offered to them and what was taken from
them. A queue keeps the order: what was offered is what was taken, followed by what waits.

A system that hands things on is shown to do so in order by a simulation: each of its steps makes
some moves of a family of queues. What was taken from a queue is then a prefix of what was offered
to it, and all of it when nothing waits.
-/

import LocalNetwork.Transition
import Mathlib.Logic.Function.Basic

namespace LocalNetwork

/-- A queue with its past. -/
structure Fifo (Item : Type) where
  offered : List Item
  taken : List Item
  waiting : List Item
  ordered : offered = taken ++ waiting

namespace Fifo

variable {Item : Type}

def empty : Fifo Item := ⟨[], [], [], rfl⟩

def offer (queue : Fifo Item) (item : Item) : Fifo Item where
  offered := queue.offered ++ [item]
  taken := queue.taken
  waiting := queue.waiting ++ [item]
  ordered := by rw [queue.ordered, List.append_assoc]

/-- Take the item that has waited longest. -/
def take (queue : Fifo Item) : Option (Fifo Item) :=
  match waits : queue.waiting with
  | [] => none
  | item :: rest =>
    some {
      offered := queue.offered
      taken := queue.taken ++ [item]
      waiting := rest
      ordered := by rw [queue.ordered, waits, List.append_assoc, List.singleton_append] }

variable {queue : Fifo Item}

@[simp]
theorem offered_offer (item : Item) : (queue.offer item).offered = queue.offered ++ [item] := rfl

@[simp]
theorem taken_offer (item : Item) : (queue.offer item).taken = queue.taken := rfl

@[simp]
theorem waiting_offer (item : Item) : (queue.offer item).waiting = queue.waiting ++ [item] := rfl

theorem take_eq {item : Item} {rest : List Item} (waits : queue.waiting = item :: rest) :
    ∃ after, queue.take = some after ∧ after.offered = queue.offered ∧
      after.taken = queue.taken ++ [item] ∧ after.waiting = rest := by
  unfold take
  split
  · rename_i none
    rw [none] at waits
    cases waits
  · rename_i first others here
    rw [here] at waits
    obtain ⟨rfl, rfl⟩ := List.cons.inj waits
    exact ⟨_, rfl, rfl, rfl, rfl⟩

/-- What was taken is a prefix of what was offered. -/
theorem taken_prefix : queue.taken <+: queue.offered := ⟨queue.waiting, queue.ordered.symm⟩

/-- What was offered and does not wait was taken. -/
theorem taken_eq_offered (none : queue.waiting = []) : queue.taken = queue.offered := by
  rw [queue.ordered, none, List.append_nil]

/-! ### Families of queues -/

inductive Move (Name Item : Type) where
  | offer (name : Name) (item : Item)
  | take (name : Name)

variable {Name : Type} [DecidableEq Name]

/-- One move of a family of queues. -/
def move (queues : Name → Fifo Item) : Move Name Item → Option (Name → Fifo Item)
  | .offer name item => some (Function.update queues name ((queues name).offer item))
  | .take name => (queues name).take.map (Function.update queues name)

variable {queues : Name → Fifo Item}

theorem runFrom_offer (name : Name) (item : Item) :
    runFrom move queues [.offer name item] =
      some (Function.update queues name ((queues name).offer item)) := rfl

theorem runFrom_take {name : Name} {after : Fifo Item} (taken : (queues name).take = some after) :
    runFrom move queues [.take name] = some (Function.update queues name after) := by
  rw [runFrom, move, taken]
  rfl

end Fifo

end LocalNetwork
