/-
This file settles what dropping clients from the relay leaves behind. A drop is a filter on
each of its structures: on the owners of the queues and the sources of their frames, on the
ends of the paths and on those of the byte counters. Filters do nothing the second time and
commute, on the dictionaries as on the set, so that clients may be dropped twice and in any
order.
-/

import LocalNetwork.RelayRepresentation

namespace LocalNetwork

namespace RelayForwarder

variable {relay : RelayForwarder} {clientId : String}

/-- Nothing of the relay mentions a client: no path, no queue, no frame in a queue, no counter. -/
structure Forgets (relay : RelayForwarder) (clientId : String) : Prop where
  paths : ∀ pair ∈ relay.paths, pair.1 ≠ clientId ∧ pair.2 ≠ clientId
  queue : relay.queues.get? clientId = none
  frames : ∀ dstId queue, relay.queues.get? dstId = some queue →
    ∀ item ∈ queue, item.1 ≠ clientId
  counters : ∀ pair ∈ relay.bytesRelayed.keys, pair.1 ≠ clientId ∧ pair.2 ≠ clientId

/-- Between other clients nothing differs: they have the same paths and counters, and the same
queues but for the frames of the client. -/
structure AgreesApartFrom (clientId : String) (first second : RelayForwarder) : Prop where
  paths : ∀ srcId dstId, srcId ≠ clientId → dstId ≠ clientId →
    ((srcId, dstId) ∈ first.paths ↔ (srcId, dstId) ∈ second.paths)
  queues : ∀ dstId, dstId ≠ clientId →
    (first.queues.get? dstId).map (List.filter fun item => decide (item.1 ≠ clientId)) =
      (second.queues.get? dstId).map (List.filter fun item => decide (item.1 ≠ clientId))
  frames : ∀ srcId dstId, srcId ≠ clientId → dstId ≠ clientId →
    first.waitingFrom srcId dstId = second.waitingFrom srcId dstId
  counters : ∀ srcId dstId, srcId ≠ clientId → dstId ≠ clientId →
    first.bytesRelayed.get? (srcId, dstId) = second.bytesRelayed.get? (srcId, dstId)
  droppedFrames : first.droppedFrames = second.droppedFrames

/-! ### Two drops -/

/-- Two drops are one filter on each structure, with both conditions. -/
theorem dropClient_dropClient (relay : RelayForwarder) (first second : String) :
    (relay.dropClient first).dropClient second =
      { relay with
        queues := (relay.queues.filter fun owner _ =>
            decide (owner ≠ first) && decide (owner ≠ second)).mapValues fun _ queue =>
              queue.filter fun item => decide (item.1 ≠ first) && decide (item.1 ≠ second)
        paths := relay.paths.filter fun pair =>
          (pair.1 ≠ first ∧ pair.2 ≠ first) ∧ pair.1 ≠ second ∧ pair.2 ≠ second
        bytesRelayed := relay.bytesRelayed.filter fun pair _ =>
          decide (first ≠ pair.1 ∧ first ≠ pair.2) &&
            decide (second ≠ pair.1 ∧ second ≠ pair.2) } := by
  unfold dropClient Dict.erase
  rw [Dict.filter_mapValues, Dict.filter_filter, Dict.mapValues_mapValues, Dict.filter_filter,
    Finset.filter_filter]
  simp only [List.filter_filter, Bool.and_comm]

/-- Dropped twice is dropped once. -/
theorem dropClient_idempotent (relay : RelayForwarder) (clientId : String) :
    (relay.dropClient clientId).dropClient clientId = relay.dropClient clientId := by
  rw [dropClient_dropClient]
  simp only [Bool.and_self, and_self, dropClient, Dict.erase]

/-- The order of two drops does not matter. -/
theorem dropClient_comm (relay : RelayForwarder) (first second : String) :
    (relay.dropClient first).dropClient second = (relay.dropClient second).dropClient first := by
  rw [dropClient_dropClient, dropClient_dropClient]
  simp only [Bool.and_comm, and_comm]

/-! ### One drop -/

theorem dropClient_forgets (relay : RelayForwarder) (clientId : String) :
    (relay.dropClient clientId).Forgets clientId where
  paths pair path := ((mem_dropClient_paths relay clientId pair).mp path).2
  queue := by
    cases found : (relay.dropClient clientId).queues.get? clientId with
    | none => rfl
    | some queue => exact absurd rfl (dropClient_found.mp found).1
  frames dstId queue found item member := by
    obtain ⟨-, before, -, rfl⟩ := dropClient_found.mp found
    exact of_decide_eq_true (List.mem_filter.mp member).2
  counters pair counter := by
    obtain ⟨count, found⟩ := Dict.mem_keys_iff.mp counter
    by_contra involved
    rw [not_and_or, not_not, not_not] at involved
    have removed : (relay.dropClient clientId).bytesRelayed.get? (pair.1, pair.2) = none :=
      dropClient_bytesRelayed relay (involved.imp Eq.symm Eq.symm)
    rw [removed] at found
    cases found

theorem dropClient_agrees (relay : RelayForwarder) (clientId : String) :
    AgreesApartFrom clientId relay (relay.dropClient clientId) where
  paths srcId dstId notSource notDestination := by
    rw [mem_dropClient_paths]
    exact ⟨fun path => ⟨path, notSource, notDestination⟩, And.left⟩
  queues dstId other := by
    have idempotent : ∀ queue : List (String × Bytes),
        (queue.filter fun item => decide (item.1 ≠ clientId)).filter
            (fun item => decide (item.1 ≠ clientId)) =
          queue.filter fun item => decide (item.1 ≠ clientId) :=
      fun queue => by rw [List.filter_filter]; simp only [Bool.and_self]
    unfold dropClient
    rw [Dict.get?_mapValues, Dict.get?_erase_of_ne _ other, Option.map_map]
    exact Option.map_congr fun queue _ => (idempotent queue).symm
  frames srcId dstId notSource notDestination :=
    (dropClient_waitingFrom_of_ne relay (Ne.symm notSource) (Ne.symm notDestination)).symm
  counters srcId dstId notSource notDestination :=
    (dropClient_bytesRelayed_of_ne relay (Ne.symm notSource) (Ne.symm notDestination)).symm
  droppedFrames := rfl

/-- Drops may be repeated and come in any order, and a drop takes out exactly what mentions the
client. -/
theorem dropClient_complete (relay : RelayForwarder) (first second : String) :
    (relay.dropClient first).dropClient first = relay.dropClient first ∧
      (relay.dropClient first).dropClient second = (relay.dropClient second).dropClient first ∧
        (relay.dropClient first).Forgets first ∧
          AgreesApartFrom first relay (relay.dropClient first) :=
  ⟨dropClient_idempotent relay first, dropClient_comm relay first second,
    dropClient_forgets relay first, dropClient_agrees relay first⟩

end RelayForwarder

end LocalNetwork
