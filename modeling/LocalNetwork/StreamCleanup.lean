/-
This file proves which streams of `client/service_exposure.py` are cleaned up when their task
ends, over every run of the manager.

The task of a stream can end before its queue is registered: the local service cannot be
reached, there is no tunnel to the peer, or the task is cancelled while it connects. These
exits stand in front of the block whose end closes the stream. They close the connection, if
there is one, but leave the stream in the table in which it was entered when it was accepted.
The exits of the block itself all clean up.
-/

import LocalNetwork.ForwardedStreams

namespace LocalNetwork

namespace StreamManager

open ActiveStream

/-! ### The specification -/

/-- The task of a stream ends between two states. -/
def TaskEnds (before after : StreamManager) (index : Nat) : Prop :=
  ∃ stream last, before.accepted[index]? = some stream ∧ after.accepted[index]? = some last ∧
    stream.phase ≠ .ended ∧ last.phase = .ended

/-- An id is in neither table. -/
def Unregistered (manager : StreamManager) (streamId : String) : Prop :=
  manager.streams.get? streamId = none ∧ manager.streamQueues.get? streamId = none

instance (manager : StreamManager) (streamId : String) :
    Decidable (manager.Unregistered streamId) :=
  inferInstanceAs (Decidable (_ ∧ _))

/-- The id of a stream is in neither table, and its connection, if it has one, is closed. -/
def CleanedUp (manager : StreamManager) (index : Nat) : Prop :=
  ∀ stream, manager.accepted[index]? = some stream →
    manager.Unregistered stream.streamId ∧
      ∀ connection, stream.connection = some connection → connection.closed = true

/-- Whenever an event ends the task of a stream, the stream is cleaned up afterwards. -/
def CleansUp (manager : StreamManager) (event : StreamEvent) : Prop :=
  ∀ next index, manager.step event = some next → TaskEnds manager next index →
    next.CleanedUp index

/-- The stream whose task leaves in front of the block, if it still connects. -/
def leavesEarly : StreamEvent → Option Nat
  | .connects index false => some index
  | .connectFails index => some index
  | .cancel index => some index
  | _ => none

/-- No task leaves in front of the block while the id of its stream is in one of the tables. -/
def LeavesUnregistered (manager : StreamManager) (event : StreamEvent) : Prop :=
  ∀ index stream, leavesEarly event = some index → manager.accepted[index]? = some stream →
    stream.phase = .connecting → manager.Unregistered stream.streamId

/-! ### Which tasks end in a step -/

/-- The streams of the first list are in the second, with their tasks as far as they were. -/
def KeepsPhases (before after : List ActiveStream) : Prop :=
  ∀ (index : Nat) (stream : ActiveStream), before[index]? = some stream →
    ∃ last : ActiveStream, after[index]? = some last ∧ last.phase = stream.phase

theorem KeepsPhases.refl (streams : List ActiveStream) : KeepsPhases streams streams :=
  fun _ stream found => ⟨stream, found, rfl⟩

theorem KeepsPhases.trans {before middle after : List ActiveStream}
    (one : KeepsPhases before middle) (other : KeepsPhases middle after) :
    KeepsPhases before after := by
  intro index stream found
  obtain ⟨between, here, same⟩ := one index stream found
  obtain ⟨last, there, kept⟩ := other index between here
  exact ⟨last, there, kept.trans same⟩

theorem keepsPhases_modify (streams : List ActiveStream) (index : Nat)
    {update : ActiveStream → ActiveStream}
    (keeps : ∀ stream, (update stream).phase = stream.phase) :
    KeepsPhases streams (streams.modify index update) := by
  intro other stream found
  rw [List.getElem?_modify, found]
  refine ⟨_, rfl, ?_⟩
  simp only
  split
  · exact keeps stream
  · rfl

theorem keepsPhases_closeStream (manager : StreamManager) (index : Nat) :
    KeepsPhases manager.accepted (manager.closeStream index).accepted := by
  rw [closeStream_accepted]
  exact keepsPhases_modify _ _ fun _ => rfl

theorem keepsPhases_foldl_closeStream (indices : List Nat) (manager : StreamManager) :
    KeepsPhases manager.accepted (indices.foldl closeStream manager).accepted := by
  induction indices generalizing manager with
  | nil => exact .refl _
  | cons index rest inductionHypothesis =>
    exact (keepsPhases_closeStream manager index).trans (inductionHypothesis _)

theorem phase_forwardFromPeer (stream : ActiveStream) :
    (stream.forwardFromPeer.getD stream).phase = stream.phase := by
  unfold forwardFromPeer
  split
  · rfl
  · rfl
  · rfl

theorem not_taskEnds_of_keepsPhases {before after : StreamManager}
    (keeps : KeepsPhases before.accepted after.accepted) (index : Nat) :
    ¬ TaskEnds before after index := by
  rintro ⟨stream, last, found, there, running, ended⟩
  obtain ⟨same, here, kept⟩ := keeps index stream found
  obtain rfl := Option.some.inj (here.symm.trans there)
  exact running (kept.symm.trans ended)

/-- Where one stream is updated, only its task can end. -/
theorem taskEnds_modify {before after : StreamManager} {index ended : Nat}
    {update : ActiveStream → ActiveStream}
    (updated : after.accepted = before.accepted.modify index update)
    (ends : TaskEnds before after ended) :
    ended = index ∧ ∃ stream, before.accepted[index]? = some stream ∧ stream.phase ≠ .ended ∧
      (update stream).phase = .ended := by
  obtain ⟨stream, last, found, there, running, isEnded⟩ := ends
  rw [updated, List.getElem?_modify, found] at there
  obtain rfl := Option.some.inj there
  simp only at isEnded
  by_cases same : index = ended
  · subst same
    rw [if_pos rfl] at isEnded
    exact ⟨rfl, stream, found, running, isEnded⟩
  · rw [if_neg same] at isEnded
    exact absurd isEnded running

/-- A task ends when its loops have ended, or by leaving while it still connects. -/
theorem step_taskEnds {manager next : StreamManager} {event : StreamEvent} {index : Nat}
    (stepped : manager.step event = some next) (ends : TaskEnds manager next index) :
    event = .finishes index ∨
      leavesEarly event = some index ∧
        ∃ stream, manager.accepted[index]? = some stream ∧ stream.phase = .connecting := by
  cases event with
  | expose advert uuid now =>
    obtain rfl := Option.some.inj stepped
    exact absurd ends (not_taskEnds_of_keepsPhases (.refl _) index)
  | unexpose serviceId =>
    obtain rfl := Option.some.inj stepped
    refine absurd ends (not_taskEnds_of_keepsPhases ?_ index)
    unfold unexpose
    split
    · exact .refl _
    · exact keepsPhases_foldl_closeStream _ (manager.withoutService serviceId)
  | handleIncomingStream serviceId streamId peerId =>
    obtain rfl := Option.some.inj stepped
    refine absurd ends (not_taskEnds_of_keepsPhases ?_ index)
    unfold handleIncomingStream
    split
    · exact .refl _
    · intro other stream found
      refine ⟨stream, ?_, rfl⟩
      simp only
      rw [List.getElem?_append_left (List.getElem?_eq_some_iff.mp found).1, found]
  | feedStreamData streamId data =>
    obtain rfl := Option.some.inj stepped
    refine absurd ends (not_taskEnds_of_keepsPhases ?_ index)
    unfold feedStreamData
    split
    · exact .refl _
    · exact keepsPhases_modify _ _ fun _ => rfl
  | shutdown =>
    obtain rfl := Option.some.inj stepped
    exact absurd ends (not_taskEnds_of_keepsPhases (.refl _) index)
  | connects other tunnel =>
    obtain ⟨stream, found, connecting, rfl⟩ := taskStep_eq_some stepped
    obtain ⟨rfl, same, isSame, -, ended⟩ := taskEnds_modify rfl ends
    obtain rfl := Option.some.inj (found.symm.trans isSame)
    cases tunnel with
    | false => exact .inr ⟨rfl, stream, found, of_decide_eq_true connecting⟩
    | true => cases ended
  | connectFails other =>
    obtain ⟨stream, found, connecting, rfl⟩ := taskStep_eq_some stepped
    obtain ⟨rfl, -⟩ := taskEnds_modify rfl ends
    exact .inr ⟨rfl, stream, found, of_decide_eq_true connecting⟩
  | forwardFromLocal other data =>
    obtain ⟨stream, found, -, rfl⟩ := taskStep_eq_some stepped
    exact absurd ends (not_taskEnds_of_keepsPhases (.refl _) index)
  | localEnds other raised =>
    obtain ⟨stream, found, -, rfl⟩ := taskStep_eq_some stepped
    refine absurd ends (not_taskEnds_of_keepsPhases ?_ index)
    exact keepsPhases_modify _ _ fun _ => rfl
  | forwardFromPeer other =>
    obtain ⟨stream, found, -, rfl⟩ := taskStep_eq_some stepped
    exact absurd ends
      (not_taskEnds_of_keepsPhases (keepsPhases_modify _ _ phase_forwardFromPeer) index)
  | peerEnds other =>
    obtain ⟨stream, found, -, rfl⟩ := taskStep_eq_some stepped
    refine absurd ends (not_taskEnds_of_keepsPhases ?_ index)
    exact keepsPhases_modify _ _ fun _ => rfl
  | finishes other =>
    obtain ⟨stream, found, -, rfl⟩ := taskStep_eq_some stepped
    have split : TaskEnds (manager.closeStream other)
        ((manager.closeStream other).modify other fun stream => { stream with phase := .ended })
        index := by
      obtain ⟨before, last, isBefore, isLast, running, ended⟩ := ends
      obtain ⟨between, here, kept⟩ := keepsPhases_closeStream manager other index before isBefore
      exact ⟨between, last, here, isLast, fun now => running (kept.symm.trans now), ended⟩
    obtain ⟨rfl, -⟩ := taskEnds_modify rfl split
    exact .inl rfl
  | cancel other =>
    obtain ⟨stream, found, -, rfl⟩ := taskStep_eq_some stepped
    obtain ⟨rfl, same, isSame, running, ended⟩ := taskEnds_modify rfl ends
    obtain rfl := Option.some.inj (found.symm.trans isSame)
    split at ended
    · rename_i connecting
      exact .inr ⟨rfl, stream, found, connecting⟩
    · exact absurd ended running
  | closeStream other =>
    rw [step] at stepped
    split at stepped
    · obtain rfl := Option.some.inj stepped
      exact absurd ends (not_taskEnds_of_keepsPhases (keepsPhases_closeStream manager other) index)
    · cases stepped

/-! ### What is left of a stream whose task ended -/

/-- The end of the block cleans up. -/
theorem finishes_cleanedUp {manager next : StreamManager} {index : Nat}
    (stepped : manager.step (.finishes index) = some next) : next.CleanedUp index := by
  obtain ⟨stream, found, -, rfl⟩ := taskStep_eq_some stepped
  intro last isLast
  have closed : (manager.closeStream index).accepted[index]? = some stream.close := by
    rw [closeStream_accepted, List.getElem?_modify, found]
    simp
  have isClosed : last = { stream.close with phase := .ended } := by
    simp only [modify] at isLast
    rw [List.getElem?_modify, closed] at isLast
    simpa using isLast.symm
  subst isClosed
  constructor
  · have tables : (manager.closeStream index).streams = manager.streams.erase stream.streamId ∧
        (manager.closeStream index).streamQueues =
          manager.streamQueues.erase stream.streamId := by
      rw [closeStream, found]
      exact ⟨rfl, rfl⟩
    refine ⟨?_, ?_⟩
    · show (manager.closeStream index).streams.get? stream.streamId = none
      rw [tables.1, Dict.get?_erase, if_pos rfl]
    · show (manager.closeStream index).streamQueues.get? stream.streamId = none
      rw [tables.2, Dict.get?_erase, if_pos rfl]
  · intro connection opened
    obtain ⟨_, -, rfl⟩ := Option.map_eq_some_iff.mp opened
    rfl

/-- A task that leaves early touches neither table, and closes what it opened. -/
theorem leavesEarly_spec {manager : StreamManager} {event : StreamEvent} {index : Nat}
    {stream : ActiveStream} (leaves : leavesEarly event = some index)
    (found : manager.accepted[index]? = some stream) (connecting : stream.phase = .connecting) :
    ∃ next last, manager.step event = some next ∧ next.accepted[index]? = some last ∧
      last.phase = .ended ∧ last.streamId = stream.streamId ∧
      (stream.connection = none → ∀ connection, last.connection = some connection →
        connection.closed = true) ∧
      next.streams = manager.streams ∧ next.streamQueues = manager.streamQueues := by
  have taken (ready : ActiveStream → Bool) (update : ActiveStream → StreamManager)
      (met : ready stream = true) : manager.taskStep index ready update = some (update stream) := by
    rw [taskStep, found, Option.bind_some, if_pos met]
  have modified (update : ActiveStream → ActiveStream) :
      (manager.accepted.modify index update)[index]? = some (update stream) := by
    rw [List.getElem?_modify, found]
    simp
  unfold leavesEarly at leaves
  split at leaves
  · obtain rfl := Option.some.inj leaves
    refine ⟨_, _, taken _ _ (decide_eq_true connecting), modified _, rfl, rfl, ?_, rfl, rfl⟩
    rintro - connection opened
    obtain rfl := Option.some.inj opened
    rfl
  · obtain rfl := Option.some.inj leaves
    refine ⟨_, _, taken _ _ (decide_eq_true connecting), modified _, rfl, rfl, ?_, rfl, rfl⟩
    intro unopened connection opened
    cases unopened.symm.trans opened
  · obtain rfl := Option.some.inj leaves
    refine ⟨_, _, taken _ _ (decide_eq_true (.inl connecting)), modified _, ?_⟩
    rw [if_pos connecting]
    refine ⟨rfl, rfl, ?_, rfl, rfl⟩
    intro unopened connection opened
    cases unopened.symm.trans opened
  · cases leaves

/-- In a sound state an event cleans up exactly if no task leaves registered. -/
theorem cleansUp_iff {manager : StreamManager} (sound : Sound manager) (event : StreamEvent) :
    manager.CleansUp event ↔ manager.LeavesUnregistered event := by
  constructor
  · intro cleans index stream leaves found connecting
    obtain ⟨next, last, stepped, there, ended, sameId, -, streams, queues⟩ :=
      leavesEarly_spec leaves found connecting
    have running : stream.phase ≠ .ended := by
      rw [connecting]
      decide
    have cleaned := (cleans next index stepped ⟨stream, last, found, there, running, ended⟩ last
      there).1
    rwa [Unregistered, streams, queues, sameId] at cleaned
  · intro unregistered next index stepped ends
    rcases step_taskEnds stepped ends with rfl | ⟨leaves, stream, found, connecting⟩
    · exact finishes_cleanedUp stepped
    · obtain ⟨other, last, taken, there, -, sameId, closes, streams, queues⟩ :=
        leavesEarly_spec leaves found connecting
      obtain rfl := Option.some.inj (stepped.symm.trans taken)
      intro same isSame
      obtain rfl := Option.some.inj (there.symm.trans isSame)
      refine ⟨?_, closes (sound.fresh index stream found connecting).1⟩
      rw [Unregistered, streams, queues, sameId]
      exact unregistered index stream leaves found connecting

/-- In every run of the manager, every stream whose task ends is cleaned up if and only if no task
leaves in front of the block while its stream is registered. -/
theorem cleansUp_along_iff (events : List StreamEvent) :
    HoldsAlong step CleansUp init events ↔ HoldsAlong step LeavesUnregistered init events :=
  holdsAlong_congr (fun _ event sound => cleansUp_iff sound event)
    (fun _ _ _ _ sound stepped => sound.step stepped) sound_init events

/-- The local service does not answer, and the stream stays in the table. -/
theorem cleansUp_counterexample :
    ∃ final, runFrom step init [exposeWeb, .handleIncomingStream "svc" "s" "peer",
        .connectFails 0] = some final ∧
      final.streams.get? "s" = some 0 ∧
      ¬ HoldsAlong step CleansUp init [exposeWeb, .handleIncomingStream "svc" "s" "peer",
        .connectFails 0] := by
  refine ⟨_, rfl, rfl, fun cleans => ?_⟩
  have last := (cleans.2 _ rfl).2 _ rfl
  have cleaned := last.1 _ 0 rfl ⟨_, _, rfl, rfl, by decide, rfl⟩ _ rfl
  cases cleaned.1.1

end StreamManager

end LocalNetwork
