/-
This file models the relay with its queues as objects, and an iterator over one of them.

`consume_frames` looks its queue up once and keeps the object. The dictionary of queues is
therefore a dictionary of addresses into a heap of deques: `_queue_for` allocates a deque,
`relay_frame` appends to one in place, and `drop_client` puts a new deque under every key
that remains. The forwarder whose queues are values represents this one call by call, so
the results about it carry over; what they cannot see is which object the iterator holds.

The iterator owes the frames that were accepted for its destination and were neither handed
out nor purged by a drop of their source. It hands out what it owes as long as no frame is
accepted for a destination whose queue object was replaced, and no drop purges a frame that
the object it holds still has.
-/

import LocalNetwork.RelayQueues
import LocalNetwork.Transition

namespace LocalNetwork

/-- The forwarder with its queues as objects: a dictionary of addresses into a heap that only
grows. -/
structure RelayObjects where
  deques : List (List (String × Bytes))
  queues : Dict String Nat
  paths : Finset (String × String)
  bytesRelayed : Dict (String × String) Nat
  droppedFrames : Nat

namespace RelayObjects

def init : RelayObjects := ⟨[], Dict.empty, ∅, Dict.empty, 0⟩

/-- The contents of the deque at an address. -/
def deque (relay : RelayObjects) (address : Nat) : List (String × Bytes) :=
  relay.deques.getD address []

/-- Put a new deque under a client. -/
def allocate (relay : RelayObjects) (clientId : String) (contents : List (String × Bytes)) :
    RelayObjects :=
  { relay with
    deques := relay.deques ++ [contents]
    queues := relay.queues.insert clientId relay.deques.length }

/-- Change the contents of a deque in place. -/
def write (relay : RelayObjects) (address : Nat) (contents : List (String × Bytes)) :
    RelayObjects :=
  { relay with deques := relay.deques.set address contents }

def queueFor (relay : RelayObjects) (clientId : String) : RelayObjects :=
  match relay.queues.get? clientId with
  | some _ => relay
  | none => relay.allocate clientId []

def registerRelayPath (relay : RelayObjects) (srcId dstId : String) : Bool × RelayObjects :=
  let queued := (relay.queueFor dstId).queueFor srcId
  (decide ((srcId, dstId) ∉ relay.paths),
    { queued with paths := insert (dstId, srcId) (insert (srcId, dstId) queued.paths) })

/-- The test of `relay_frame`: a queue, a path, and room in the queue. -/
def accepts (relay : RelayObjects) (srcId dstId : String) : Bool :=
  match relay.queues.get? dstId with
  | none => false
  | some address =>
    decide ((srcId, dstId) ∈ relay.paths) && decide ((relay.deque address).length < maxRelayQueue)

def relayFrame (relay : RelayObjects) (srcId dstId : String) (rawFrame : Bytes) :
    Bool × RelayObjects :=
  match relay.queues.get? dstId with
  | none => (false, relay)
  | some address =>
    if (srcId, dstId) ∉ relay.paths then (false, relay)
    else if maxRelayQueue ≤ (relay.deque address).length then
      (false, { relay with droppedFrames := relay.droppedFrames + 1 })
    else
      let relayed := (relay.bytesRelayed.get? (srcId, dstId)).getD 0
      (true, { relay.write address (relay.deque address ++ [(srcId, rawFrame)]) with
        bytesRelayed := relay.bytesRelayed.insert (srcId, dstId) (relayed + rawFrame.length) })

def pendingFrames (relay : RelayObjects) (dstId : String) :
    List (String × String) × RelayObjects :=
  match relay.queues.get? dstId with
  | none => ([], relay)
  | some address =>
    ((relay.deque address).map fun item => (item.1, b64encode item.2), relay.write address [])

/-- The loop of `drop_client` over the remaining queues: each key gets a new deque with the
frames of other sources. -/
def replaceQueues (clientId : String) : List (String × Nat) → RelayObjects → RelayObjects
  | [], relay => relay
  | (dstId, address) :: rest, relay =>
    replaceQueues clientId rest (relay.allocate dstId
      ((relay.deque address).filter fun item => decide (item.1 ≠ clientId)))

def dropClient (relay : RelayObjects) (clientId : String) : RelayObjects :=
  let remaining := { relay with queues := relay.queues.erase clientId }
  { replaceQueues clientId remaining.queues.entries remaining with
    paths := relay.paths.filter fun pair => pair.1 ≠ clientId ∧ pair.2 ≠ clientId
    bytesRelayed := relay.bytesRelayed.filter fun pair _ =>
      decide (clientId ≠ pair.1 ∧ clientId ≠ pair.2) }

def call (relay : RelayObjects) : RelayCall → RelayReply × RelayObjects
  | .registerRelayPath srcId dstId =>
    let (isNew, next) := relay.registerRelayPath srcId dstId
    (.allocated isNew, next)
  | .relayFrame srcId dstId rawFrame =>
    let (accepted, next) := relay.relayFrame srcId dstId rawFrame
    (.queued accepted, next)
  | .pendingFrames dstId =>
    let (drained, next) := relay.pendingFrames dstId
    (.frames drained, next)
  | .dropClient clientId => (.dropped, relay.dropClient clientId)

def calls : RelayObjects → List RelayCall → List (RelayCall × RelayReply) × RelayObjects
  | relay, [] => ([], relay)
  | relay, first :: rest =>
    let (reply, next) := relay.call first
    let (replies, final) := next.calls rest
    ((first, reply) :: replies, final)

/-- The start of `consume_frames`: the queue object of the client, and the end of the iterator
without one. -/
def consumeFrames (relay : RelayObjects) (clientId : String) : Option Nat :=
  relay.queues.get? clientId

/-- One turn of the loop of `consume_frames`: hand out the first frame, or sleep. -/
def resume (relay : RelayObjects) (queue : Nat) : Option (String × Bytes) × RelayObjects :=
  match relay.deque queue with
  | [] => (none, relay)
  | item :: rest => (some item, relay.write queue rest)

end RelayObjects

/-! ### Objects and values -/

namespace RelayObjects

/-- Every key names a deque of the heap, and no two keys name one. -/
structure WellFormed (relay : RelayObjects) : Prop where
  bounded : ∀ clientId address, relay.queues.get? clientId = some address →
    address < relay.deques.length
  unshared : ∀ first second address, relay.queues.get? first = some address →
    relay.queues.get? second = some address → first = second

/-- The forwarder with values that objects stand for. -/
structure Represents (objects : RelayObjects) (values : RelayForwarder) : Prop where
  queues : ∀ clientId, values.queues.get? clientId =
    (objects.queues.get? clientId).map objects.deque
  paths : values.paths = objects.paths
  bytesRelayed : values.bytesRelayed = objects.bytesRelayed
  droppedFrames : values.droppedFrames = objects.droppedFrames

variable {relay : RelayObjects} {values : RelayForwarder}

theorem init_wellFormed : init.WellFormed :=
  ⟨fun _ _ found => (nomatch found), fun _ _ _ found => (nomatch found)⟩

theorem init_represents : init.Represents RelayForwarder.init :=
  ⟨fun _ => rfl, rfl, rfl, rfl⟩

@[simp]
theorem allocate_length (relay : RelayObjects) (clientId : String)
    (contents : List (String × Bytes)) :
    (relay.allocate clientId contents).deques.length = relay.deques.length + 1 := by
  simp [allocate]

theorem allocate_deque (relay : RelayObjects) (clientId : String)
    (contents : List (String × Bytes)) {address : Nat} (old : address < relay.deques.length) :
    (relay.allocate clientId contents).deque address = relay.deque address := by
  simp [allocate, deque, List.getElem?_append_left old]

theorem allocate_deque_new (relay : RelayObjects) (clientId : String)
    (contents : List (String × Bytes)) :
    (relay.allocate clientId contents).deque relay.deques.length = contents := by
  simp [allocate, deque]

theorem allocate_wellFormed (wellFormed : relay.WellFormed) (clientId : String)
    (contents : List (String × Bytes)) : (relay.allocate clientId contents).WellFormed := by
  have fresh : ∀ other address, relay.queues.get? other = some address →
      address ≠ relay.deques.length := fun other address found =>
    Nat.ne_of_lt (wellFormed.bounded other address found)
  constructor
  · intro other address found
    simp only [allocate, Dict.get?_insert] at found
    simp only [allocate_length]
    split at found
    · rw [← Option.some.inj found]
      exact Nat.lt_succ_self _
    · exact Nat.lt_succ_of_lt (wellFormed.bounded other address found)
  · intro first second address firstFound secondFound
    simp only [allocate, Dict.get?_insert] at firstFound secondFound
    split at firstFound <;> split at secondFound
    · rename_i firstSame secondSame
      rw [firstSame, secondSame]
    · exact absurd (Option.some.inj firstFound).symm (fresh second address secondFound)
    · exact absurd (Option.some.inj secondFound).symm (fresh first address firstFound)
    · exact wellFormed.unshared first second address firstFound secondFound

/-- A new deque changes the value of its own key only. -/
theorem allocate_value (wellFormed : relay.WellFormed) (clientId other : String)
    (contents : List (String × Bytes)) :
    ((relay.allocate clientId contents).queues.get? other).map
        (relay.allocate clientId contents).deque =
      if other = clientId then some contents
      else (relay.queues.get? other).map relay.deque := by
  by_cases same : other = clientId
  · simp only [same, if_true]
    show Option.map _ ((relay.queues.insert clientId relay.deques.length).get? clientId) = _
    rw [Dict.get?_insert_self, Option.map_some, allocate_deque_new]
  · simp only [same, if_false]
    show Option.map _ ((relay.queues.insert clientId relay.deques.length).get? other) = _
    rw [Dict.get?_insert_of_ne _ _ same]
    cases found : relay.queues.get? other with
    | none => rfl
    | some address =>
      rw [Option.map_some, Option.map_some,
        allocate_deque relay clientId contents (wellFormed.bounded other address found)]

theorem write_deque (relay : RelayObjects) {address : Nat} (contents : List (String × Bytes))
    (bounded : address < relay.deques.length) (other : Nat) :
    (relay.write address contents).deque other =
      if other = address then contents else relay.deque other := by
  by_cases same : other = address
  · simp [write, deque, same, bounded]
  · simp [write, deque, same, List.getElem?_set_ne (Ne.symm same)]

theorem write_wellFormed (wellFormed : relay.WellFormed) (address : Nat)
    (contents : List (String × Bytes)) : (relay.write address contents).WellFormed := by
  refine ⟨fun clientId other found => ?_, wellFormed.unshared⟩
  have bounded := wellFormed.bounded clientId other found
  simpa [write] using bounded

/-- Writing to the deque of a client changes the value of its own key only. -/
theorem write_value (wellFormed : relay.WellFormed) {clientId : String} {address : Nat}
    (found : relay.queues.get? clientId = some address) (contents : List (String × Bytes))
    (other : String) :
    ((relay.write address contents).queues.get? other).map (relay.write address contents).deque =
      if other = clientId then some contents
      else (relay.queues.get? other).map relay.deque := by
  have bounded := wellFormed.bounded clientId address found
  show (relay.queues.get? other).map _ = _
  by_cases same : other = clientId
  · simp [same, found, write_deque relay contents bounded]
  · simp only [same, if_false]
    cases otherFound : relay.queues.get? other with
    | none => rfl
    | some otherAddress =>
      have different : otherAddress ≠ address := fun equal =>
        same (wellFormed.unshared other clientId address (equal ▸ otherFound) found)
      simp [write_deque relay contents bounded, different]

/-! ### The loop of `drop_client` -/

/-- What the loop does: it leaves the old deques and the other keys alone, and every key it
visits gets a new deque with the frames of other sources. -/
structure Replaced (clientId : String) (entries : List (String × Nat))
    (relay next : RelayObjects) : Prop where
  wellFormed : next.WellFormed
  droppedFrames : next.droppedFrames = relay.droppedFrames
  grows : relay.deques.length ≤ next.deques.length
  old : ∀ address, address < relay.deques.length → next.deque address = relay.deque address
  others : ∀ other, other ∉ entries.map Prod.fst →
    next.queues.get? other = relay.queues.get? other
  visited : ∀ dstId address, (dstId, address) ∈ entries → ∃ fresh,
    next.queues.get? dstId = some fresh ∧ relay.deques.length ≤ fresh ∧
      next.deque fresh = (relay.deque address).filter fun item => decide (item.1 ≠ clientId)

theorem replaceQueues_replaced (clientId : String) (entries : List (String × Nat))
    (relay : RelayObjects) (wellFormed : relay.WellFormed)
    (distinct : (entries.map Prod.fst).Nodup)
    (bounded : ∀ dstId address, (dstId, address) ∈ entries → address < relay.deques.length) :
    Replaced clientId entries relay (replaceQueues clientId entries relay) := by
  induction entries generalizing relay with
  | nil =>
    exact ⟨wellFormed, rfl, Nat.le_refl _, fun _ _ => rfl, fun _ _ => rfl,
      fun _ _ member => absurd member List.not_mem_nil⟩
  | cons entry rest inductionHypothesis =>
    obtain ⟨dstId, address⟩ := entry
    obtain ⟨new, restDistinct⟩ := List.nodup_cons.mp distinct
    let kept := (relay.deque address).filter fun item => decide (item.1 ≠ clientId)
    have later := inductionHypothesis (relay.allocate dstId kept)
      (allocate_wellFormed wellFormed dstId kept) restDistinct
      fun other otherAddress member =>
        Nat.lt_of_lt_of_le (bounded other otherAddress (List.mem_cons_of_mem _ member))
          (by simp)
    have oldBound : ∀ {other}, other < relay.deques.length →
        other < (relay.allocate dstId kept).deques.length := fun small => by
      simp only [allocate_length]
      omega
    refine ⟨later.wellFormed, later.droppedFrames, ?_, fun other small => ?_,
      fun other absent => ?_, ?_⟩
    · have grows := later.grows
      simp only [allocate_length] at grows
      exact Nat.le_of_succ_le grows
    · rw [replaceQueues, later.old other (oldBound small), allocate_deque relay dstId kept small]
    · obtain ⟨notThis, notRest⟩ := not_or.mp (mt List.mem_cons.mpr absent)
      rw [replaceQueues, later.others other notRest]
      exact Dict.get?_insert_of_ne _ _ notThis
    · intro other otherAddress member
      rcases List.mem_cons.mp member with same | member
      · obtain ⟨rfl, rfl⟩ := Prod.mk.inj same
        refine ⟨relay.deques.length, ?_, Nat.le_refl _, ?_⟩
        · rw [replaceQueues, later.others other new]
          exact Dict.get?_insert_self _ _ _
        · rw [replaceQueues, later.old _ (by simp), allocate_deque_new]
      · obtain ⟨fresh, found, after, contents⟩ := later.visited other otherAddress member
        refine ⟨fresh, found, ?_, ?_⟩
        · simp only [allocate_length] at after
          exact Nat.le_of_succ_le after
        · have small := bounded other otherAddress (List.mem_cons_of_mem _ member)
          rw [replaceQueues, contents, allocate_deque relay dstId kept small]

/-- After a drop every queue is a new object; the old ones keep their contents. -/
theorem dropClient_replaced (wellFormed : relay.WellFormed) (clientId : String) :
    Replaced clientId (relay.queues.erase clientId).entries
      { relay with queues := relay.queues.erase clientId } (relay.dropClient clientId) := by
  have kept : ∀ other address, (relay.queues.erase clientId).get? other = some address →
      relay.queues.get? other = some address := by
    intro other address found
    rw [Dict.get?_erase] at found
    split at found
    · cases found
    · exact found
  have remaining : ({ relay with queues := relay.queues.erase clientId } :
      RelayObjects).WellFormed :=
    ⟨fun other address found => wellFormed.bounded other address (kept other address found),
      fun first second address firstFound secondFound =>
        wellFormed.unshared first second address (kept first address firstFound)
          (kept second address secondFound)⟩
  have replaced := replaceQueues_replaced clientId (relay.queues.erase clientId).entries
    { relay with queues := relay.queues.erase clientId } remaining
    (relay.queues.erase clientId).distinct
    fun other address member => remaining.bounded other address (Dict.get?_eq_some_iff.mpr member)
  -- The paths and the counters play no part in the queues.
  exact ⟨⟨replaced.wellFormed.bounded, replaced.wellFormed.unshared⟩, replaced.droppedFrames,
    replaced.grows, replaced.old, replaced.others, replaced.visited⟩

theorem dropClient_fresh (wellFormed : relay.WellFormed) (clientId : String) {other : String}
    {address : Nat} (found : (relay.dropClient clientId).queues.get? other = some address) :
    relay.deques.length ≤ address := by
  have replaced := dropClient_replaced wellFormed clientId
  by_cases visited : other ∈ (relay.queues.erase clientId).keys
  · obtain ⟨oldAddress, oldFound⟩ := Dict.mem_keys_iff.mp visited
    obtain ⟨fresh, freshFound, after, -⟩ := replaced.visited other oldAddress
      (Dict.get?_eq_some_iff.mp oldFound)
    rw [found] at freshFound
    exact Option.some.inj freshFound ▸ after
  · have unchanged := replaced.others other visited
    rw [found] at unchanged
    have absent := Dict.get?_eq_none_iff.mpr visited
    rw [show (relay.queues.erase clientId).get? other = some address from unchanged.symm] at absent
    cases absent

theorem dropClient_value (wellFormed : relay.WellFormed) (clientId other : String) :
    ((relay.dropClient clientId).queues.get? other).map (relay.dropClient clientId).deque =
      ((relay.queues.erase clientId).get? other).map fun address =>
        (relay.deque address).filter fun item => decide (item.1 ≠ clientId) := by
  have replaced := dropClient_replaced wellFormed clientId
  cases found : (relay.queues.erase clientId).get? other with
  | none =>
    have unchanged := replaced.others other (Dict.get?_eq_none_iff.mp found)
    rw [unchanged]
    exact congrArg (Option.map _) found
  | some address =>
    obtain ⟨fresh, freshFound, -, contents⟩ := replaced.visited other address
      (Dict.get?_eq_some_iff.mp found)
    rw [freshFound, Option.map_some, contents]
    rfl

/-! ### The simulation -/

/-- Whether a frame is accepted is the test of `accepts`. -/
theorem relayFrame_accepted (relay : RelayObjects) (srcId dstId : String) (rawFrame : Bytes) :
    (relay.relayFrame srcId dstId rawFrame).1 = relay.accepts srcId dstId := by
  unfold relayFrame accepts
  cases relay.queues.get? dstId with
  | none => rfl
  | some address =>
    by_cases path : (srcId, dstId) ∈ relay.paths
    · by_cases room : maxRelayQueue ≤ (relay.deque address).length
      · simp [path, room, Nat.not_lt.mpr room]
      · simp [path, room, Nat.lt_of_not_le room]
    · simp [path]

theorem queueFor_represents (wellFormed : relay.WellFormed) (represents : relay.Represents values)
    (clientId : String) :
    (relay.queueFor clientId).Represents (values.queueFor clientId) ∧
      (relay.queueFor clientId).WellFormed := by
  unfold queueFor RelayForwarder.queueFor
  rw [represents.queues clientId]
  cases found : relay.queues.get? clientId with
  | some address => exact ⟨represents, wellFormed⟩
  | none =>
    refine ⟨⟨fun other => ?_, represents.paths, represents.bytesRelayed,
      represents.droppedFrames⟩, allocate_wellFormed wellFormed clientId []⟩
    rw [allocate_value wellFormed, Option.map_none]
    show (values.queues.insert clientId []).get? other = _
    rw [Dict.get?_insert, represents.queues other]

/-- The forwarder with values answers a call as the one with objects does, and goes on representing
it. -/
def Agrees (relay : RelayObjects) (values : RelayForwarder) (call : RelayCall) : Prop :=
  (relay.call call).1 = (values.call call).1 ∧
    (relay.call call).2.Represents (values.call call).2 ∧ (relay.call call).2.WellFormed

theorem registerRelayPath_agrees (wellFormed : relay.WellFormed)
    (represents : relay.Represents values) (srcId dstId : String) :
    relay.Agrees values (.registerRelayPath srcId dstId) := by
  obtain ⟨first, firstFormed⟩ := queueFor_represents wellFormed represents dstId
  obtain ⟨second, secondFormed⟩ := queueFor_represents firstFormed first srcId
  refine ⟨?_, ⟨second.queues, ?_, second.bytesRelayed, second.droppedFrames⟩,
    ⟨secondFormed.bounded, secondFormed.unshared⟩⟩
  · simp [RelayObjects.call, RelayForwarder.call, registerRelayPath,
      RelayForwarder.registerRelayPath, represents.paths]
  · show insert (dstId, srcId) (insert (srcId, dstId)
      ((values.queueFor dstId).queueFor srcId).paths) = _
    rw [second.paths]
    rfl

theorem relayFrame_agrees (wellFormed : relay.WellFormed) (represents : relay.Represents values)
    (srcId dstId : String) (rawFrame : Bytes) :
    relay.Agrees values (.relayFrame srcId dstId rawFrame) := by
  simp only [Agrees, RelayObjects.call, RelayForwarder.call, relayFrame, RelayForwarder.relayFrame,
    RelayForwarder.hasPath, represents.queues dstId, represents.paths]
  cases found : relay.queues.get? dstId with
  | none => exact ⟨rfl, represents, wellFormed⟩
  | some address =>
    by_cases path : (srcId, dstId) ∈ relay.paths
    · by_cases full : maxRelayQueue ≤ (relay.deque address).length
      · simp only [path, full, not_true_eq_false, if_false, if_true, Option.map_some,
          decide_true, Bool.not_true, Bool.false_eq_true]
        exact ⟨trivial, ⟨represents.queues, rfl, represents.bytesRelayed,
          congrArg (· + 1) represents.droppedFrames⟩, wellFormed.bounded, wellFormed.unshared⟩
      · simp only [path, full, not_true_eq_false, if_false, Option.map_some, decide_true,
          Bool.not_true, Bool.false_eq_true]
        have written := write_wellFormed wellFormed address
          (relay.deque address ++ [(srcId, rawFrame)])
        refine ⟨trivial, ⟨fun other => ?_, rfl, ?_, represents.droppedFrames⟩,
          written.bounded, written.unshared⟩
        · rw [Dict.get?_insert, represents.queues other]
          exact (write_value wellFormed found _ other).symm
        · rw [represents.bytesRelayed]
    · simp only [path, not_false_eq_true, if_true, Option.map_some, decide_false, Bool.not_false]
      exact ⟨trivial, represents, wellFormed⟩

theorem pendingFrames_agrees (wellFormed : relay.WellFormed) (represents : relay.Represents values)
    (dstId : String) : relay.Agrees values (.pendingFrames dstId) := by
  simp only [Agrees, RelayObjects.call, RelayForwarder.call, pendingFrames,
    RelayForwarder.pendingFrames, represents.queues dstId]
  cases found : relay.queues.get? dstId with
  | none => exact ⟨rfl, represents, wellFormed⟩
  | some address =>
    refine ⟨rfl, ⟨fun other => ?_, represents.paths, represents.bytesRelayed,
      represents.droppedFrames⟩, write_wellFormed wellFormed address []⟩
    show (values.queues.insert dstId []).get? other = _
    rw [Dict.get?_insert, represents.queues other]
    exact (write_value wellFormed found [] other).symm

theorem dropClient_agrees (wellFormed : relay.WellFormed) (represents : relay.Represents values)
    (clientId : String) : relay.Agrees values (.dropClient clientId) := by
  have replaced := dropClient_replaced wellFormed clientId
  refine ⟨rfl, ⟨fun other => ?_, ?_, ?_, ?_⟩, replaced.wellFormed⟩
  · simp only [RelayObjects.call, RelayForwarder.call]
    rw [dropClient_value wellFormed]
    simp only [RelayForwarder.dropClient, Dict.get?_mapValues, Dict.get?_erase,
      represents.queues other]
    split
    · rfl
    · cases relay.queues.get? other <;> rfl
  · simp only [RelayObjects.call, RelayForwarder.call, dropClient, RelayForwarder.dropClient,
      represents.paths]
  · simp only [RelayObjects.call, RelayForwarder.call, dropClient, RelayForwarder.dropClient,
      represents.bytesRelayed]
  · show values.droppedFrames = (relay.dropClient clientId).droppedFrames
    rw [replaced.droppedFrames, represents.droppedFrames]

/-- The forwarder with values answers every call as the one with objects does, and goes on
representing it. -/
theorem call_represents (wellFormed : relay.WellFormed) (represents : relay.Represents values)
    (call : RelayCall) :
    (relay.call call).1 = (values.call call).1 ∧
      (relay.call call).2.Represents (values.call call).2 ∧ (relay.call call).2.WellFormed := by
  cases call with
  | registerRelayPath srcId dstId =>
    exact registerRelayPath_agrees wellFormed represents srcId dstId
  | relayFrame srcId dstId rawFrame =>
    exact relayFrame_agrees wellFormed represents srcId dstId rawFrame
  | pendingFrames dstId => exact pendingFrames_agrees wellFormed represents dstId
  | dropClient clientId => exact dropClient_agrees wellFormed represents clientId

end RelayObjects

/-! ### The iterator among the other tasks -/

/-- What happens while an iterator runs: a call of another task, or a turn of its own loop. -/
inductive ConsumerTurn where
  | registerRelayPath (srcId dstId : String)
  | relayFrame (srcId dstId : String) (rawFrame : Bytes)
  | dropClient (clientId : String)
  | resume
  deriving DecidableEq

/-- What a run shows: each call with its result, and what each turn of the iterator yields. -/
inductive ConsumerEvent where
  | called (call : RelayCall) (reply : RelayReply)
  | resumed (item : Option (String × Bytes))
  deriving DecidableEq

namespace RelayObjects

def turn (relay : RelayObjects) (queue : Nat) : ConsumerTurn → ConsumerEvent × RelayObjects
  | .registerRelayPath srcId dstId =>
    let (reply, next) := relay.call (.registerRelayPath srcId dstId)
    (.called (.registerRelayPath srcId dstId) reply, next)
  | .relayFrame srcId dstId rawFrame =>
    let (reply, next) := relay.call (.relayFrame srcId dstId rawFrame)
    (.called (.relayFrame srcId dstId rawFrame) reply, next)
  | .dropClient clientId =>
    let (reply, next) := relay.call (.dropClient clientId)
    (.called (.dropClient clientId) reply, next)
  | .resume =>
    let (item, next) := relay.resume queue
    (.resumed item, next)

def turns (queue : Nat) : RelayObjects → List ConsumerTurn → List ConsumerEvent × RelayObjects
  | relay, [] => ([], relay)
  | relay, first :: rest =>
    let (event, next) := relay.turn queue first
    let (events, final) := turns queue next rest
    (event :: events, final)

/-- The frames the iterator yields in its next turns, if nothing else happens. -/
def handedOut (queue : Nat) : RelayObjects → Nat → List (String × Bytes)
  | _, 0 => []
  | relay, count + 1 =>
    (relay.resume queue).1.toList ++ handedOut queue (relay.resume queue).2 count

end RelayObjects

/-- The frames owed to a destination after one more event: those accepted for it, less those
handed out and those whose source was dropped. -/
def owedAfter (dstId : String) (owed : List (String × Bytes)) :
    ConsumerEvent → List (String × Bytes)
  | .called (.relayFrame srcId dst rawFrame) (.queued true) =>
    if dst = dstId then owed ++ [(srcId, rawFrame)] else owed
  | .called (.pendingFrames dst) _ => if dst = dstId then [] else owed
  | .called (.dropClient clientId) _ =>
    if clientId = dstId then [] else owed.filter fun item => decide (item.1 ≠ clientId)
  | .resumed (some _) => owed.tail
  | _ => owed

def owed (dstId : String) (events : List ConsumerEvent) : List (String × Bytes) :=
  events.foldl (owedAfter dstId) []

/-- Every turn of the iterator yields the first frame it owes, and none when it owes none. -/
def Faithful (dstId : String) : List (String × Bytes) → List ConsumerEvent → Prop
  | _, [] => True
  | owing, event :: rest =>
    (∀ item, event = .resumed item → item = owing.head?) ∧
      Faithful dstId (owedAfter dstId owing event) rest

/-- An iterator started after some calls survives what follows: all its turns are faithful, and
in its next turns it yields what it still owes. -/
def Survives (dstId : String) (before : List RelayCall) (turns : List ConsumerTurn) : Prop :=
  let results := (RelayObjects.init.calls before).1
  let started := (RelayObjects.init.calls before).2
  ∀ queue, started.consumeFrames dstId = some queue →
    let trace := results.map (fun result => .called result.1 result.2) ++
      (started.turns queue turns).1
    Faithful dstId [] trace ∧
      ∀ count, (started.turns queue turns).2.handedOut queue count = (owed dstId trace).take count

/-- A turn spares the iterator: no frame is accepted for its destination in another
object, and no drop purges a frame of the object it holds. -/
def SparesConsumer (dstId : String) (queue : Nat) (relay : RelayObjects) : ConsumerTurn → Prop
  | .relayFrame srcId dst _ =>
    dst = dstId → relay.accepts srcId dst = true → relay.queues.get? dstId = some queue
  | .dropClient clientId => ∀ item ∈ relay.deque queue, item.1 ≠ clientId
  | _ => True

instance (dstId : String) (queue : Nat) (relay : RelayObjects) :
    (turn : ConsumerTurn) → Decidable (SparesConsumer dstId queue relay turn)
  | .relayFrame srcId dst _ => inferInstanceAs (Decidable (dst = dstId →
      relay.accepts srcId dst = true → relay.queues.get? dstId = some queue))
  | .dropClient clientId =>
    inferInstanceAs (Decidable (∀ item ∈ relay.deque queue, item.1 ≠ clientId))
  | .registerRelayPath _ _ | .resume => isTrue trivial

/-- The step function of the run of an iterator. -/
def consumerStep (queue : Nat) (relay : RelayObjects) (turn : ConsumerTurn) :
    Option RelayObjects :=
  some (relay.turn queue turn).2

/-! ### What the iterator owes at its start -/

theorem call_owed (values : RelayForwarder) (dstId : String) (call : RelayCall) :
    ((values.call call).2.queues.get? dstId).getD [] =
      owedAfter dstId ((values.queues.get? dstId).getD [])
        (.called call (values.call call).1) := by
  cases call with
  | registerRelayPath first second =>
    show (((values.queueFor second).queueFor first).queues.get? dstId).getD [] = _
    rw [RelayForwarder.queueFor_queue, RelayForwarder.queueFor_queue]
    rfl
  | relayFrame src dst rawFrame =>
    rcases values.relayFrame_cases src dst rawFrame with ⟨dropped, refused⟩ |
      ⟨queue, found, -, -, accepted⟩
    · simp [RelayForwarder.call, refused, owedAfter]
    · simp only [RelayForwarder.call, accepted, owedAfter]
      by_cases same : dst = dstId
      · simp [← same, found]
      · rw [if_neg same, Dict.get?_insert_of_ne _ _ (Ne.symm same)]
  | pendingFrames dst =>
    simp only [RelayForwarder.call, RelayForwarder.pendingFrames, owedAfter]
    by_cases same : dst = dstId
    · subst same
      cases found : values.queues.get? dst <;> simp [found]
    · have other : dstId ≠ dst := Ne.symm same
      cases found : values.queues.get? dst <;> simp [same, Dict.get?_insert_of_ne _ _ other]
  | dropClient clientId =>
    simp only [RelayForwarder.call, owedAfter]
    by_cases same : clientId = dstId
    · simp [same, RelayForwarder.dropClient, Dict.get?_mapValues]
    · rw [if_neg same, RelayForwarder.dropClient_queue values (Ne.symm same)]

namespace RelayObjects

variable {relay : RelayObjects} {values : RelayForwarder}

/-- After any calls, the queue of a destination holds the frames owed to it. -/
theorem calls_owed (dstId : String) (before : List RelayCall) (wellFormed : relay.WellFormed)
    (represents : relay.Represents values) :
    (relay.calls before).2.WellFormed ∧
      (((relay.calls before).2.queues.get? dstId).map (relay.calls before).2.deque).getD [] =
        ((relay.calls before).1.map fun result => ConsumerEvent.called result.1 result.2).foldl
          (owedAfter dstId) ((values.queues.get? dstId).getD []) := by
  induction before generalizing relay values with
  | nil => exact ⟨wellFormed, by rw [represents.queues dstId]; rfl⟩
  | cons call rest inductionHypothesis =>
    obtain ⟨sameReply, nextRepresents, nextFormed⟩ := call_represents wellFormed represents call
    obtain ⟨finalFormed, contents⟩ := inductionHypothesis nextFormed nextRepresents
    refine ⟨finalFormed, ?_⟩
    simp only [calls, List.map_cons, List.foldl_cons]
    rw [sameReply, ← call_owed]
    exact contents

end RelayObjects

/-! ### The iterator holds what it owes -/

namespace RelayObjects

/-- The iterator's queue object holds the frames it owes, and no other client has the object. -/
structure Holding (dstId : String) (queue : Nat) (relay : RelayObjects)
    (owing : List (String × Bytes)) : Prop where
  wellFormed : relay.WellFormed
  bounded : queue < relay.deques.length
  own : ∀ clientId, relay.queues.get? clientId = some queue → clientId = dstId
  contents : relay.deque queue = owing

variable {dstId : String} {queue : Nat} {relay : RelayObjects} {owing : List (String × Bytes)}

theorem queueFor_holding (holding : Holding dstId queue relay owing) (clientId : String) :
    Holding dstId queue (relay.queueFor clientId) owing := by
  unfold queueFor
  cases found : relay.queues.get? clientId with
  | some address => exact holding
  | none =>
    refine ⟨allocate_wellFormed holding.wellFormed clientId [], ?_, fun other otherFound => ?_, ?_⟩
    · simp only [allocate_length]
      exact Nat.lt_succ_of_lt holding.bounded
    · simp only [allocate, Dict.get?_insert] at otherFound
      split at otherFound
      · exact absurd (Option.some.inj otherFound) (Nat.ne_of_gt holding.bounded)
      · exact holding.own other otherFound
    · rw [allocate_deque relay clientId [] holding.bounded, holding.contents]

/-- A write to another object, or to the queue itself. -/
theorem write_holding (holding : Holding dstId queue relay owing) {address : Nat}
    (bounded : address < relay.deques.length) (contents : List (String × Bytes)) :
    Holding dstId queue (relay.write address contents)
      (if queue = address then contents else owing) := by
  refine ⟨write_wellFormed holding.wellFormed address contents, ?_, holding.own, ?_⟩
  · simpa [write] using holding.bounded
  · rw [write_deque relay contents bounded, holding.contents]

theorem relayFrame_holding (holding : Holding dstId queue relay owing) (src dst : String)
    (rawFrame : Bytes)
    (attached : dst = dstId → relay.accepts src dst = true →
      relay.queues.get? dstId = some queue) :
    Holding dstId queue (relay.relayFrame src dst rawFrame).2
      (owedAfter dstId owing (.called (.relayFrame src dst rawFrame)
        (.queued (relay.relayFrame src dst rawFrame).1))) := by
  rw [← relayFrame_accepted relay src dst rawFrame] at attached
  unfold relayFrame at attached ⊢
  cases found : relay.queues.get? dst with
  | none => exact holding
  | some address =>
    rw [found] at attached
    simp only at attached ⊢
    split at attached
    · rw [if_pos ‹_›]
      exact holding
    · rw [if_neg ‹_›]
      split at attached
      · rw [if_pos ‹_›]
        exact ⟨⟨holding.wellFormed.bounded, holding.wellFormed.unshared⟩, holding.bounded,
          holding.own, holding.contents⟩
      · rw [if_neg ‹_›]
        have bounded := holding.wellFormed.bounded dst address found
        have written := write_holding holding bounded (relay.deque address ++ [(src, rawFrame)])
        have owes : (if queue = address then relay.deque address ++ [(src, rawFrame)] else owing) =
            owedAfter dstId owing (.called (.relayFrame src dst rawFrame) (.queued true)) := by
          by_cases same : dst = dstId
          · have here := attached same rfl
            rw [← same, found] at here
            obtain rfl := Option.some.inj here
            simp [owedAfter, same, holding.contents]
          · have elsewhere : queue ≠ address := fun equal =>
              same (holding.own dst (equal ▸ found))
            simp [owedAfter, same, elsewhere]
        rw [owes] at written
        exact ⟨⟨written.wellFormed.bounded, written.wellFormed.unshared⟩, written.bounded,
          written.own, written.contents⟩

/-- After a drop the iterator keeps the old object, which no client has any more. -/
theorem dropClient_holding (holding : Holding dstId queue relay owing) {clientId : String}
    (other : clientId ≠ dstId) (unpurged : ∀ item ∈ relay.deque queue, item.1 ≠ clientId) :
    Holding dstId queue (relay.dropClient clientId)
      (owedAfter dstId owing (.called (.dropClient clientId) .dropped)) := by
  have replaced := dropClient_replaced holding.wellFormed clientId
  refine ⟨replaced.wellFormed, Nat.lt_of_lt_of_le holding.bounded replaced.grows, ?_, ?_⟩
  · intro client found
    have fresh := dropClient_fresh holding.wellFormed clientId found
    exact absurd holding.bounded (Nat.not_lt.mpr fresh)
  · have same : (relay.dropClient clientId).deque queue = relay.deque queue :=
      replaced.old queue holding.bounded
    rw [same]
    simp only [owedAfter, if_neg other]
    rw [← holding.contents, List.filter_eq_self.mpr]
    exact fun item member => decide_eq_true (unpurged item member)

theorem resume_holding (holding : Holding dstId queue relay owing) :
    Holding dstId queue (relay.resume queue).2
        (owedAfter dstId owing (.resumed (relay.resume queue).1)) ∧
      (relay.resume queue).1 = owing.head? := by
  unfold resume
  rw [holding.contents]
  cases owing with
  | nil => exact ⟨holding, rfl⟩
  | cons item rest =>
    have written := write_holding holding holding.bounded rest
    rw [if_pos rfl] at written
    exact ⟨written, rfl⟩

/-- One turn: the iterator yields the first frame it owes, and goes on holding what it owes. -/
theorem turn_holding (holding : Holding dstId queue relay owing) (turn : ConsumerTurn)
    (never : turn ≠ .dropClient dstId) (spares : SparesConsumer dstId queue relay turn) :
    Holding dstId queue (relay.turn queue turn).2
        (owedAfter dstId owing (relay.turn queue turn).1) ∧
      ∀ item, (relay.turn queue turn).1 = .resumed item → item = owing.head? := by
  cases turn with
  | registerRelayPath first second =>
    have queued := queueFor_holding (queueFor_holding holding second) first
    exact ⟨⟨⟨queued.wellFormed.bounded, queued.wellFormed.unshared⟩, queued.bounded, queued.own,
      queued.contents⟩, fun item same => nomatch same⟩
  | relayFrame src dst rawFrame =>
    exact ⟨relayFrame_holding holding src dst rawFrame spares, fun item same => nomatch same⟩
  | dropClient clientId =>
    refine ⟨dropClient_holding holding (fun same => never (same ▸ rfl)) spares, ?_⟩
    exact fun item same => nomatch same
  | resume =>
    obtain ⟨held, yielded⟩ := resume_holding holding
    refine ⟨held, fun item same => ?_⟩
    rw [← ConsumerEvent.resumed.inj same]
    exact yielded

/-- A whole run of turns that spare the iterator. -/
theorem turns_holding (holding : Holding dstId queue relay owing) (turns : List ConsumerTurn)
    (never : .dropClient dstId ∉ turns)
    (along : HoldsAlong (consumerStep queue) (SparesConsumer dstId queue) relay turns) :
    Holding dstId queue (relay.turns queue turns).2
        ((relay.turns queue turns).1.foldl (owedAfter dstId) owing) ∧
      Faithful dstId owing (relay.turns queue turns).1 := by
  induction turns generalizing relay owing with
  | nil => exact ⟨holding, trivial⟩
  | cons turn rest inductionHypothesis =>
    obtain ⟨notThis, notRest⟩ := not_or.mp (mt List.mem_cons.mpr never)
    obtain ⟨next, yielded⟩ := turn_holding holding turn (Ne.symm notThis) along.1
    obtain ⟨final, faithful⟩ := inductionHypothesis next notRest (along.2 _ rfl)
    exact ⟨final, yielded, faithful⟩

/-- Left alone, the iterator yields what it owes, in order. -/
theorem handedOut_holding (holding : Holding dstId queue relay owing) (count : Nat) :
    relay.handedOut queue count = owing.take count := by
  induction count generalizing relay owing with
  | zero => rfl
  | succ count inductionHypothesis =>
    obtain ⟨next, yielded⟩ := resume_holding holding
    rw [handedOut, inductionHypothesis next, yielded]
    cases owing with
    | nil => simp [owedAfter]
    | cons item rest => rfl

end RelayObjects

theorem faithful_called (dstId : String) (results : List (RelayCall × RelayReply))
    (events : List ConsumerEvent) (owing : List (String × Bytes))
    (faithful : Faithful dstId ((results.map fun result =>
      ConsumerEvent.called result.1 result.2).foldl (owedAfter dstId) owing) events) :
    Faithful dstId owing
      (results.map (fun result => ConsumerEvent.called result.1 result.2) ++ events) := by
  induction results generalizing owing with
  | nil => exact faithful
  | cons result rest inductionHypothesis =>
    exact ⟨fun item same => (nomatch same), inductionHypothesis _ faithful⟩

/-- An iterator yields every frame accepted for its destination, in order and once, and none
whose source was dropped in between, in every run of turns that spare it. -/
theorem consumer_survives (dstId : String) (before : List RelayCall) (turns : List ConsumerTurn)
    (never : .dropClient dstId ∉ turns)
    (spares : ∀ queue, (RelayObjects.init.calls before).2.consumeFrames dstId = some queue →
      HoldsAlong (consumerStep queue) (SparesConsumer dstId queue)
        (RelayObjects.init.calls before).2 turns) :
    Survives dstId before turns := by
  intro queue started
  obtain ⟨wellFormed, contents⟩ := RelayObjects.calls_owed dstId before
    RelayObjects.init_wellFormed RelayObjects.init_represents
  change (RelayObjects.init.calls before).2.queues.get? dstId = some queue at started
  rw [started] at contents
  have holding : RelayObjects.Holding dstId queue (RelayObjects.init.calls before).2 _ :=
    ⟨wellFormed, wellFormed.bounded dstId queue started,
      fun clientId found => wellFormed.unshared clientId dstId queue found started, contents⟩
  obtain ⟨final, faithful⟩ :=
    RelayObjects.turns_holding holding turns never (spares queue started)
  refine ⟨faithful_called dstId _ _ [] faithful, fun count => ?_⟩
  rw [RelayObjects.handedOut_holding final count, owed, List.foldl_append]
  rfl

/-- Two sources send to `b`, and a client that never sent to it is dropped at the end. -/
def calmTurns : List ConsumerTurn :=
  [.resume, .registerRelayPath "c" "b", .relayFrame "c" "b" [3], .relayFrame "a" "b" [2],
    .resume, .dropClient "x", .resume, .resume]

theorem consumer_survives_calm :
    Survives "b" [.registerRelayPath "a" "b", .relayFrame "a" "b" [1]] calmTurns := by
  refine consumer_survives "b" _ calmTurns (by decide) fun queue started => ?_
  obtain rfl : 0 = queue := Option.some.inj ((by decide +kernel :
    some 0 = (RelayObjects.init.calls _).2.consumeFrames "b").trans started)
  decide +kernel

/-- A drop of a client that has nothing to do with `b` replaces the queue of `b`: the next frame
is accepted, and the iterator never yields it. -/
theorem consumer_loses_frame :
    ¬ Survives "b" [.registerRelayPath "a" "b"] [.dropClient "x", .relayFrame "a" "b" [1]] := by
  intro survives
  obtain ⟨-, handed⟩ := survives 0 (by decide +kernel)
  have lost := handed 1
  revert lost
  decide +kernel

end LocalNetwork
