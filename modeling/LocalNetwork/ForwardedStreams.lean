/-
This file models the streams of `client/service_exposure.py`: a peer opens a stream to an
exposed service, a task of its own connects to the local service, and from then on two
loops carry the bytes, one in each direction.

A stream is announced, connected and given its queue at different moments. Data from the
peer are put into the queue that is registered under the id of the stream when they arrive;
if there is none, they are dropped without a sign. What reaches the local service is
therefore what was fed while the queue was registered.
-/

import LocalNetwork.ServiceExposure
import LocalNetwork.Transition

namespace LocalNetwork

/-! ### Streams and their tasks -/

/-- A connection to a local service: the bytes written to it, and whether this side closed it. -/
structure LocalConnection where
  written : Bytes
  closed : Bool
  deriving DecidableEq

/-- How far the task of a stream is. Only a stream to a TCP service has the task. -/
inductive StreamPhase where
  | withoutTask
  | connecting
  | forwarding
  | ended
  deriving DecidableEq

/-- An `ActiveStream` with the variables of its task: the record it was started with, the queue it
made, which of its two loops run, and whether one of them ended with an exception. -/
structure ActiveStream where
  streamId : String
  serviceId : String
  peerId : String
  record : ExposedService
  phase : StreamPhase
  connection : Option LocalConnection
  queue : List (Option Bytes)
  fromLocal : Bool
  fromPeer : Bool
  raised : Bool

/-- What `_send_stream_frame` gets, with the peer for its tunnel. -/
structure StreamFrame where
  peerId : String
  serviceId : String
  streamId : String
  data : Bytes
  deriving DecidableEq

namespace ActiveStream

def new (record : ExposedService) (serviceId streamId peerId : String) : ActiveStream where
  streamId := streamId
  serviceId := serviceId
  peerId := peerId
  record := record
  phase := if record.protocol = "tcp" then .connecting else .withoutTask
  connection := none
  queue := []
  fromLocal := false
  fromPeer := false
  raised := false

/-- The connection is there. Without a tunnel to the peer it is closed again and the task ends. -/
def connects (stream : ActiveStream) (tunnel : Bool) : ActiveStream :=
  if tunnel then
    { stream with
      phase := .forwarding, connection := some ⟨[], false⟩, queue := [], fromLocal := true
      fromPeer := true }
  else { stream with phase := .ended, connection := some ⟨[], true⟩ }

/-- `queue.put_nowait`. -/
def put (stream : ActiveStream) (item : Option Bytes) : ActiveStream :=
  { stream with queue := stream.queue ++ [item] }

/-- `writer.write`; nothing is written to a connection that was closed. -/
def write (stream : ActiveStream) (data : Bytes) : ActiveStream :=
  { stream with
    connection := stream.connection.map fun connection =>
      if connection.closed then connection
      else { connection with written := connection.written ++ data } }

/-- A round of `forward_from_peer`. -/
def forwardFromPeer (stream : ActiveStream) : Option ActiveStream :=
  match stream.queue with
  | [] => none
  | none :: rest => some { stream with queue := rest, fromPeer := false }
  | some data :: rest => some ({ stream with queue := rest }.write data)

/-- `_close_stream`, as far as the stream itself is concerned. -/
def close (stream : ActiveStream) : ActiveStream :=
  { stream with
    connection := stream.connection.map fun connection => { connection with closed := true } }

/-- `gather` returns: both loops have ended, or one has raised an exception. -/
def gathered (stream : ActiveStream) : Bool :=
  stream.raised || !stream.fromLocal && !stream.fromPeer

end ActiveStream

/-! ### The manager -/

/-- The streams of the manager. Those that were ever accepted are numbered, and the tables
`_streams` and `_stream_queues` hold numbers. The second table belongs to the class; there is one
manager in a process. -/
structure StreamManager extends ServiceExposureManager where
  accepted : List ActiveStream
  streams : Dict String Nat
  streamQueues : Dict String Nat
  /-- The streams whose `_close_stream` was made a task that has not run yet. -/
  closing : List Nat
  sent : List StreamFrame

inductive StreamEvent where
  | expose (advert : Advert) (uuid : String) (now : Time)
  | unexpose (serviceId : String)
  | handleIncomingStream (serviceId streamId peerId : String)
  | feedStreamData (streamId : String) (data : Option Bytes)
  | shutdown
  /-- `open_connection` returns, and `get_tunnel` finds a tunnel or not. -/
  | connects (index : Nat) (tunnel : Bool)
  | connectFails (index : Nat)
  /-- `forward_from_local` reads from the local service. -/
  | forwardFromLocal (index : Nat) (data : Bytes)
  /-- It ends: at the end of the data or with a socket error, or with another exception. -/
  | localEnds (index : Nat) (raised : Bool)
  | forwardFromPeer (index : Nat)
  /-- A socket error ends `forward_from_peer`. -/
  | peerEnds (index : Nat)
  /-- `gather` returns or raises, and the stream is closed. -/
  | finishes (index : Nat)
  /-- The task is cancelled, and with it the loops. -/
  | cancel (index : Nat)
  /-- A task that `shutdown` made runs. -/
  | closeStream (index : Nat)

namespace StreamManager

def init : StreamManager where
  services := Dict.empty
  accepted := []
  streams := Dict.empty
  streamQueues := Dict.empty
  closing := []
  sent := []

def modify (manager : StreamManager) (index : Nat) (update : ActiveStream → ActiveStream) :
    StreamManager :=
  { manager with accepted := manager.accepted.modify index update }

/-- `_close_stream`. -/
def closeStream (manager : StreamManager) (index : Nat) : StreamManager :=
  match manager.accepted[index]? with
  | none => manager
  | some stream =>
    { manager.modify index ActiveStream.close with
      streams := manager.streams.erase stream.streamId
      streamQueues := manager.streamQueues.erase stream.streamId }

def expose (manager : StreamManager) (advert : Advert) (uuid : String) (now : Time) :
    StreamManager :=
  { manager with
    toServiceExposureManager := (manager.toServiceExposureManager.expose advert uuid now).1 }

/-- The streams in the table that belong to a service. -/
def streamsOf (manager : StreamManager) (serviceId : String) : List Nat :=
  manager.streams.values.filter fun index =>
    manager.accepted[index]?.any fun stream => decide (stream.serviceId = serviceId)

def withoutService (manager : StreamManager) (serviceId : String) : StreamManager :=
  { manager with
    toServiceExposureManager := (manager.toServiceExposureManager.unexpose serviceId).1 }

/-- `unexpose`, which closes the streams of the service. -/
def unexpose (manager : StreamManager) (serviceId : String) : StreamManager :=
  match manager.services.get? serviceId with
  | none => manager
  | some _ => (manager.streamsOf serviceId).foldl closeStream (manager.withoutService serviceId)

def handleIncomingStream (manager : StreamManager) (serviceId streamId peerId : String) :
    StreamManager :=
  match manager.services.get? serviceId with
  | none => manager
  | some record =>
    { manager with
      accepted := manager.accepted ++ [.new record serviceId streamId peerId]
      streams := manager.streams.insert streamId manager.accepted.length }

def feedStreamData (manager : StreamManager) (streamId : String) (data : Option Bytes) :
    StreamManager :=
  match manager.streamQueues.get? streamId with
  | none => manager
  | some index => manager.modify index fun stream => stream.put data

def shutdown (manager : StreamManager) : StreamManager :=
  { manager with
    closing := manager.closing ++ manager.streams.values
    services := Dict.empty
    streams := Dict.empty }

/-- The task of a stream after its connection succeeds: the queue is made and registered. -/
def connects (manager : StreamManager) (index : Nat) (tunnel : Bool) (stream : ActiveStream) :
    StreamManager :=
  { manager.modify index fun stream => stream.connects tunnel with
    streamQueues :=
      if tunnel then manager.streamQueues.insert stream.streamId index else manager.streamQueues }

/-- A step of the task of a stream, which is taken when the stream meets a condition. -/
def taskStep (manager : StreamManager) (index : Nat) (ready : ActiveStream → Bool)
    (update : ActiveStream → StreamManager) : Option StreamManager :=
  manager.accepted[index]?.bind fun stream => if ready stream then some (update stream) else none

def step (manager : StreamManager) : StreamEvent → Option StreamManager
  | .expose advert uuid now => some (manager.expose advert uuid now)
  | .unexpose serviceId => some (manager.unexpose serviceId)
  | .handleIncomingStream serviceId streamId peerId =>
    some (manager.handleIncomingStream serviceId streamId peerId)
  | .feedStreamData streamId data => some (manager.feedStreamData streamId data)
  | .shutdown => some manager.shutdown
  | .connects index tunnel =>
    manager.taskStep index (fun stream => decide (stream.phase = .connecting))
      (manager.connects index tunnel)
  | .connectFails index =>
    manager.taskStep index (fun stream => decide (stream.phase = .connecting)) fun _ =>
      manager.modify index fun stream => { stream with phase := .ended }
  | .forwardFromLocal index data =>
    manager.taskStep index (fun stream => stream.fromLocal && decide (data ≠ [])) fun stream =>
      { manager with
        sent := manager.sent ++ [⟨stream.peerId, stream.serviceId, stream.streamId, data⟩] }
  | .localEnds index raised =>
    manager.taskStep index ActiveStream.fromLocal fun _ =>
      manager.modify index fun stream =>
        { stream with fromLocal := false, raised := stream.raised || raised }
  | .forwardFromPeer index =>
    manager.taskStep index (fun stream => stream.fromPeer && stream.forwardFromPeer.isSome)
      fun _ => manager.modify index fun stream => stream.forwardFromPeer.getD stream
  | .peerEnds index =>
    manager.taskStep index ActiveStream.fromPeer fun _ =>
      manager.modify index fun stream => { stream with fromPeer := false }
  | .finishes index =>
    manager.taskStep index
      (fun stream => decide (stream.phase = .forwarding) && stream.gathered) fun _ =>
        (manager.closeStream index).modify index fun stream => { stream with phase := .ended }
  | .cancel index =>
    manager.taskStep index
      (fun stream => decide (stream.phase = .connecting ∨ stream.phase = .forwarding)) fun stream =>
        manager.modify index fun current =>
          if stream.phase = .connecting then { current with phase := .ended }
          else { current with fromLocal := false, fromPeer := false }
  | .closeStream index =>
    if index ∈ manager.closing then
      some { manager.closeStream index with closing := manager.closing.erase index }
    else none

end StreamManager

/-! ### What happens to one stream -/

namespace ActiveStream

/-- The stream can still write to the local service: its task is about to connect, or the connection
is open and `forward_from_peer` runs. -/
def Live (stream : ActiveStream) : Prop :=
  stream.phase = .connecting ∨
    stream.fromPeer = true ∧ ∃ written, stream.connection = some ⟨written, false⟩

/-- The bytes that were written, and those that wait in the queue. -/
def received (stream : ActiveStream) : Bytes :=
  (stream.connection.elim [] LocalConnection.written) ++
    stream.queue.flatMap fun item => item.getD []

/-- Before the connection is there the task has made nothing. -/
def Fresh (stream : ActiveStream) : Prop :=
  stream.phase = .connecting → stream.connection = none ∧ stream.queue = []

/-- A step of a stream that receives some bytes, unless it cannot write any more. -/
structure Takes (data : Bytes) (before after : ActiveStream) : Prop where
  streamId : after.streamId = before.streamId
  connecting : after.phase = .connecting → before.phase = .connecting
  fresh : before.Fresh → after.Fresh
  received : before.Fresh → after.Live → before.Live ∧ after.received = before.received ++ data

theorem Takes.refl (stream : ActiveStream) : Takes [] stream stream :=
  ⟨rfl, id, id, fun _ live => ⟨live, (List.append_nil _).symm⟩⟩

theorem Takes.trans {first second : Bytes} {before middle after : ActiveStream}
    (one : Takes first before middle) (other : Takes second middle after) :
    Takes (first ++ second) before after := by
  refine ⟨other.streamId.trans one.streamId, fun connecting => one.connecting
    (other.connecting connecting), fun fresh => other.fresh (one.fresh fresh),
    fun fresh live => ?_⟩
  obtain ⟨liveMiddle, more⟩ := other.received (one.fresh fresh) live
  obtain ⟨liveBefore, some⟩ := one.received fresh liveMiddle
  exact ⟨liveBefore, by rw [more, some, List.append_assoc]⟩

/-- A step that touches neither the connection nor the queue, and only ends things. -/
theorem takes_of_ends {before after : ActiveStream} (streamId : after.streamId = before.streamId)
    (connecting : after.phase = .connecting → before.phase = .connecting)
    (fromPeer : after.fromPeer = true → before.fromPeer = true)
    (connection : after.connection = before.connection) (queue : after.queue = before.queue) :
    Takes [] before after := by
  refine ⟨streamId, connecting, fun fresh now => ?_, fun _ live => ⟨?_, ?_⟩⟩
  · rw [connection, queue]
    exact fresh (connecting now)
  · exact live.imp connecting fun writes => ⟨fromPeer writes.1, connection ▸ writes.2⟩
  · rw [received, received, connection, queue, List.append_nil]

theorem takes_put {stream : ActiveStream} (connected : stream.phase ≠ .connecting)
    (item : Option Bytes) : Takes (item.getD []) stream (stream.put item) := by
  refine ⟨rfl, id, fun _ now => absurd now connected, fun _ live => ⟨live, ?_⟩⟩
  simp [received, put]

theorem takes_connects {stream : ActiveStream} (connecting : stream.phase = .connecting)
    (tunnel : Bool) : Takes [] stream (stream.connects tunnel) := by
  refine ⟨?_, fun _ => connecting, fun _ now => ?_, fun fresh _ => ⟨.inl connecting, ?_⟩⟩
  · cases tunnel <;> rfl
  · cases tunnel <;> cases now
  · obtain ⟨connection, queue⟩ := fresh connecting
    cases tunnel <;> simp [received, connects, connection, queue]

theorem takes_close (stream : ActiveStream) : Takes [] stream stream.close := by
  refine ⟨rfl, id, fun fresh now => ?_, fun fresh live => ?_⟩
  · obtain ⟨connection, queue⟩ := fresh now
    exact ⟨by rw [close, connection]; rfl, queue⟩
  · rcases live with connecting | ⟨-, written, closed⟩
    · obtain ⟨connection, -⟩ := fresh connecting
      exact ⟨.inl connecting, by simp [received, close, connection]⟩
    · -- A connection that was closed is not open.
      obtain ⟨connection, -, same⟩ := Option.map_eq_some_iff.mp closed
      cases same

/-- A round of `forward_from_peer` moves bytes from the queue to the connection. -/
theorem takes_forwardFromPeer {stream next : ActiveStream}
    (moved : stream.forwardFromPeer = some next) : Takes [] stream next := by
  unfold forwardFromPeer at moved
  cases queue : stream.queue with
  | nil =>
    rw [queue] at moved
    cases moved
  | cons item rest =>
    rw [queue] at moved
    have notFresh : stream.Fresh → stream.phase ≠ .connecting := by
      intro fresh connecting
      rw [(fresh connecting).2] at queue
      cases queue
    cases item with
    | none =>
      obtain rfl := Option.some.inj moved
      refine ⟨rfl, id, fun fresh now => absurd now (notFresh fresh), fun fresh live => ?_⟩
      rcases live with connecting | ⟨stopped, -⟩
      · exact absurd connecting (notFresh fresh)
      · cases stopped
    | some data =>
      obtain rfl := Option.some.inj moved
      refine ⟨rfl, id, fun fresh now => absurd now (notFresh fresh), fun fresh live => ?_⟩
      rcases live with connecting | ⟨runs, written, opened⟩
      · exact absurd connecting (notFresh fresh)
      · obtain ⟨⟨before, closed⟩, isConnection, same⟩ := Option.map_eq_some_iff.mp opened
        cases closed with
        | true => cases same
        | false =>
          obtain rfl : before ++ data = written := congrArg LocalConnection.written same
          refine ⟨.inr ⟨runs, before, isConnection⟩, ?_⟩
          rw [received, received, opened, isConnection, queue]
          simp [write]

end ActiveStream

namespace StreamManager

open ActiveStream

/-- The bytes that a call of `feed_stream_data` puts into the queue of a stream. -/
def feeds (manager : StreamManager) (index : Nat) : StreamEvent → Bytes
  | .feedStreamData streamId data =>
    if manager.streamQueues.get? streamId = some index then data.getD [] else []
  | _ => []

/-- Every stream takes the bytes that are meant for it, and those that are new are fresh. -/
structure Evolves (data : Nat → Bytes) (before after : List ActiveStream) : Prop where
  grows : before.length ≤ after.length
  old : ∀ index stream next, before[index]? = some stream → after[index]? = some next →
    Takes (data index) stream next
  new : ∀ index next, before.length ≤ index → after[index]? = some next → next.Fresh

/-- A stream is still there. -/
theorem Evolves.there {data : Nat → Bytes} {before after : List ActiveStream}
    (evolves : Evolves data before after) {index : Nat} {stream : ActiveStream}
    (found : before[index]? = some stream) :
    ∃ next, after[index]? = some next ∧ Takes (data index) stream next := by
  have inside := (List.getElem?_eq_some_iff.mp found).1.trans_le evolves.grows
  exact ⟨after[index], List.getElem?_eq_getElem inside,
    evolves.old index stream _ found (List.getElem?_eq_getElem inside)⟩

theorem Evolves.refl (list : List ActiveStream) : Evolves (fun _ => []) list list := by
  refine ⟨le_refl _, fun index stream next found same => ?_, fun index next beyond found => ?_⟩
  · obtain rfl := Option.some.inj (found.symm.trans same)
    exact .refl stream
  · rw [List.getElem?_eq_none beyond] at found
    cases found

theorem Evolves.trans {before middle after : List ActiveStream}
    (one : Evolves (fun _ => []) before middle) (other : Evolves (fun _ => []) middle after) :
    Evolves (fun _ => []) before after := by
  refine ⟨one.grows.trans other.grows, fun index stream next found last => ?_,
    fun index next beyond last => ?_⟩
  · obtain ⟨between, here, takes⟩ := one.there found
    exact takes.trans (other.old index between next here last)
  · by_cases added : middle.length ≤ index
    · exact other.new index next added last
    · have here := List.getElem?_eq_getElem (Nat.not_le.mp added)
      exact (other.old index _ next here last).fresh (one.new index _ beyond here)

theorem evolves_modify {data : Nat → Bytes} {list : List ActiveStream} {index : Nat}
    {update : ActiveStream → ActiveStream} (others : ∀ other, other ≠ index → data other = [])
    (here : ∀ stream, list[index]? = some stream → Takes (data index) stream (update stream)) :
    Evolves data list (list.modify index update) := by
  refine ⟨by rw [List.length_modify], fun other stream next found last => ?_,
    fun other next beyond last => ?_⟩
  · rw [List.getElem?_modify, found] at last
    obtain rfl := Option.some.inj last
    simp only
    by_cases same : index = other
    · subst same
      rw [if_pos rfl]
      exact here stream found
    · rw [if_neg same, others other fun equal => same equal.symm]
      exact .refl stream
  · rw [List.getElem?_modify, List.getElem?_eq_none beyond] at last
    cases last

theorem closeStream_accepted (manager : StreamManager) (index : Nat) :
    (manager.closeStream index).accepted = manager.accepted.modify index ActiveStream.close := by
  unfold closeStream
  cases found : manager.accepted[index]? with
  | none => exact (List.modify_eq_self (List.getElem?_eq_none_iff.mp found)).symm
  | some stream => rfl

theorem evolves_closeStream (manager : StreamManager) (index : Nat) :
    Evolves (fun _ => []) manager.accepted (manager.closeStream index).accepted := by
  rw [closeStream_accepted]
  exact evolves_modify (fun _ _ => rfl) fun stream _ => takes_close stream

theorem evolves_foldl_closeStream (indices : List Nat) (manager : StreamManager) :
    Evolves (fun _ => []) manager.accepted (indices.foldl closeStream manager).accepted := by
  induction indices generalizing manager with
  | nil => exact .refl _
  | cons index rest inductionHypothesis =>
    exact (evolves_closeStream manager index).trans (inductionHypothesis _)

theorem taskStep_eq_some {manager next : StreamManager} {index : Nat} {ready : ActiveStream → Bool}
    {update : ActiveStream → StreamManager}
    (stepped : manager.taskStep index ready update = some next) :
    ∃ stream, manager.accepted[index]? = some stream ∧ ready stream = true ∧
      next = update stream := by
  obtain ⟨stream, found, taken⟩ := Option.bind_eq_some_iff.mp stepped
  split at taken
  · rename_i met
    exact ⟨stream, found, met, (Option.some.inj taken).symm⟩
  · cases taken

/-- What holds of the streams and of the table of queues in every state. -/
structure Sound (manager : StreamManager) : Prop where
  fresh : ∀ (index : Nat) (stream : ActiveStream), manager.accepted[index]? = some stream →
    stream.Fresh
  registered : ∀ streamId index, manager.streamQueues.get? streamId = some index →
    ∃ stream, manager.accepted[index]? = some stream ∧ stream.streamId = streamId ∧
      stream.phase ≠ .connecting

theorem sound_init : Sound init := by
  constructor
  · intro index stream found
    cases found
  · intro streamId index found
    cases found

/-- A step of the manager is a step of every stream. -/
theorem step_evolves {manager next : StreamManager} {event : StreamEvent} (sound : Sound manager)
    (stepped : manager.step event = some next) :
    Evolves (fun index => manager.feeds index event) manager.accepted next.accepted := by
  cases event with
  | expose advert uuid now =>
    obtain rfl := Option.some.inj stepped
    exact .refl _
  | unexpose serviceId =>
    obtain rfl := Option.some.inj stepped
    unfold unexpose
    split
    · exact .refl _
    · exact evolves_foldl_closeStream _ (manager.withoutService serviceId)
  | handleIncomingStream serviceId streamId peerId =>
    obtain rfl := Option.some.inj stepped
    unfold handleIncomingStream
    cases manager.services.get? serviceId with
    | none => exact .refl _
    | some record =>
      refine ⟨by simp, fun index stream next found last => ?_, fun index next beyond last => ?_⟩
      · have inside := (List.getElem?_eq_some_iff.mp found).1
        rw [List.getElem?_append_left inside, found] at last
        obtain rfl := Option.some.inj last
        exact .refl stream
      · rw [List.getElem?_append_right beyond] at last
        obtain rfl := List.mem_singleton.mp (List.mem_of_getElem? last)
        exact fun _ => ⟨rfl, rfl⟩
  | feedStreamData streamId data =>
    obtain rfl := Option.some.inj stepped
    simp only [feedStreamData, feeds]
    cases registered : manager.streamQueues.get? streamId with
    | none => simpa using Evolves.refl manager.accepted
    | some index =>
      obtain ⟨stream, found, -, connected⟩ := sound.registered streamId index registered
      refine evolves_modify (fun other different => ?_) fun same isSame => ?_
      · rw [if_neg fun equal => different (Option.some.inj equal).symm]
      · obtain rfl := Option.some.inj (found.symm.trans isSame)
        rw [if_pos rfl]
        exact takes_put connected data
  | shutdown =>
    obtain rfl := Option.some.inj stepped
    exact .refl _
  | connects index tunnel =>
    obtain ⟨stream, found, connecting, rfl⟩ := taskStep_eq_some stepped
    refine evolves_modify (fun _ _ => rfl) fun same isSame => ?_
    obtain rfl := Option.some.inj (found.symm.trans isSame)
    exact takes_connects (of_decide_eq_true connecting) tunnel
  | connectFails index =>
    obtain ⟨stream, found, connecting, rfl⟩ := taskStep_eq_some stepped
    refine evolves_modify (fun _ _ => rfl) fun same isSame => ?_
    exact takes_of_ends rfl (fun now => by cases now) id rfl rfl
  | forwardFromLocal index data =>
    obtain ⟨stream, found, -, rfl⟩ := taskStep_eq_some stepped
    exact .refl _
  | localEnds index raised =>
    obtain ⟨stream, found, -, rfl⟩ := taskStep_eq_some stepped
    exact evolves_modify (fun _ _ => rfl) fun same isSame => takes_of_ends rfl id id rfl rfl
  | forwardFromPeer index =>
    obtain ⟨stream, found, -, rfl⟩ := taskStep_eq_some stepped
    refine evolves_modify (fun _ _ => rfl) fun same isSame => ?_
    cases moved : same.forwardFromPeer with
    | none => exact .refl same
    | some next => exact takes_forwardFromPeer moved
  | peerEnds index =>
    obtain ⟨stream, found, -, rfl⟩ := taskStep_eq_some stepped
    exact evolves_modify (fun _ _ => rfl) fun same isSame =>
      takes_of_ends rfl id (fun now => by cases now) rfl rfl
  | finishes index =>
    obtain ⟨stream, found, -, rfl⟩ := taskStep_eq_some stepped
    refine (evolves_closeStream manager index).trans
      (evolves_modify (fun _ _ => rfl) fun same isSame => ?_)
    exact takes_of_ends rfl (fun now => by cases now) id rfl rfl
  | cancel index =>
    obtain ⟨stream, found, -, rfl⟩ := taskStep_eq_some stepped
    refine evolves_modify (fun _ _ => rfl) fun same isSame => ?_
    split
    · exact takes_of_ends rfl (fun now => by cases now) id rfl rfl
    · exact takes_of_ends rfl id (fun now => by cases now) rfl rfl
  | closeStream index =>
    rw [step] at stepped
    split at stepped
    · obtain rfl := Option.some.inj stepped
      exact evolves_closeStream manager index
    · cases stepped

theorem closeStream_streamQueues {manager : StreamManager} {index owner : Nat} {streamId : String}
    (registered : (manager.closeStream index).streamQueues.get? streamId = some owner) :
    manager.streamQueues.get? streamId = some owner := by
  unfold closeStream at registered
  cases found : manager.accepted[index]? with
  | none =>
    rw [found] at registered
    exact registered
  | some stream =>
    rw [found] at registered
    simp only [Dict.get?_erase] at registered
    split at registered
    · cases registered
    · exact registered

theorem foldl_closeStream_streamQueues (indices : List Nat) {manager : StreamManager} {owner : Nat}
    {streamId : String}
    (registered : (indices.foldl closeStream manager).streamQueues.get? streamId = some owner) :
    manager.streamQueues.get? streamId = some owner := by
  induction indices generalizing manager with
  | nil => exact registered
  | cons index rest inductionHypothesis =>
    exact closeStream_streamQueues (inductionHypothesis registered)

/-- Only a stream that is connected is registered anew. -/
theorem step_streamQueues {manager next : StreamManager} {event : StreamEvent}
    (stepped : manager.step event = some next) {streamId : String} {index : Nat}
    (registered : next.streamQueues.get? streamId = some index) :
    manager.streamQueues.get? streamId = some index ∨
      ∃ stream, manager.accepted[index]? = some stream ∧ stream.streamId = streamId ∧
        next.accepted[index]? = some (stream.connects true) := by
  cases event with
  | connects other tunnel =>
    obtain ⟨stream, found, -, rfl⟩ := taskStep_eq_some stepped
    cases tunnel with
    | false => exact .inl registered
    | true =>
      simp only [connects, if_true] at registered
      rw [Dict.get?_insert] at registered
      split at registered
      · rename_i same
        obtain rfl := Option.some.inj registered
        refine .inr ⟨stream, found, same.symm, ?_⟩
        simp [connects, modify, found]
      · exact .inl registered
  | unexpose serviceId =>
    obtain rfl := Option.some.inj stepped
    unfold unexpose at registered
    split at registered
    · exact .inl registered
    · exact .inl (@foldl_closeStream_streamQueues _ (manager.withoutService serviceId) _ _ registered)
  | handleIncomingStream serviceId streamId peerId =>
    obtain rfl := Option.some.inj stepped
    unfold handleIncomingStream at registered
    split at registered
    · exact .inl registered
    · exact .inl registered
  | feedStreamData streamId data =>
    obtain rfl := Option.some.inj stepped
    unfold feedStreamData at registered
    split at registered
    · exact .inl registered
    · exact .inl registered
  | expose advert uuid now =>
    obtain rfl := Option.some.inj stepped
    exact .inl registered
  | shutdown =>
    obtain rfl := Option.some.inj stepped
    exact .inl registered
  | finishes other =>
    obtain ⟨stream, found, -, rfl⟩ := taskStep_eq_some stepped
    exact .inl (closeStream_streamQueues registered)
  | closeStream other =>
    rw [step] at stepped
    split at stepped
    · obtain rfl := Option.some.inj stepped
      exact .inl (closeStream_streamQueues registered)
    · cases stepped
  | connectFails other | forwardFromLocal other _ | localEnds other _ | forwardFromPeer other
  | peerEnds other | cancel other =>
    obtain ⟨stream, found, -, rfl⟩ := taskStep_eq_some stepped
    exact .inl registered

theorem Sound.step {manager next : StreamManager} {event : StreamEvent} (sound : Sound manager)
    (stepped : manager.step event = some next) : Sound next := by
  have evolves := step_evolves sound stepped
  constructor
  · intro index stream found
    by_cases added : manager.accepted.length ≤ index
    · exact evolves.new index stream added found
    · have here := List.getElem?_eq_getElem (Nat.not_le.mp added)
      exact (evolves.old index _ stream here found).fresh (sound.fresh index _ here)
  · intro streamId index registered
    rcases step_streamQueues stepped registered with before | ⟨stream, -, same, connected⟩
    · obtain ⟨stream, found, same, notConnecting⟩ := sound.registered streamId index before
      obtain ⟨after, foundAfter, takes⟩ := evolves.there found
      exact ⟨after, foundAfter, takes.streamId.trans same, fun connecting =>
        notConnecting (takes.connecting connecting)⟩
    · exact ⟨_, connected, same, fun connecting => by cases connecting⟩

theorem sound_of_run {events : List StreamEvent} {manager final : StreamManager}
    (sound : Sound manager) (ran : runFrom step manager events = some final) : Sound final :=
  run_invariant (fun _ _ _ _ sound stepped => sound.step stepped) sound (holdsAlong_true events _)
    ran

/-! ### What reaches the local service -/

/-- The bytes that are fed for a stream in a list of events. -/
def fedTo (streamId : String) (events : List StreamEvent) : Bytes :=
  events.flatMap fun
    | .feedStreamData other data => if other = streamId then data.getD [] else []
    | _ => []

/-- The bytes that reach the queue of a stream in a run. -/
def fedAlong (index : Nat) : StreamManager → List StreamEvent → Bytes
  | _, [] => []
  | manager, event :: rest =>
    manager.feeds index event ++ (manager.step event).elim [] fun next => fedAlong index next rest

/-- When data are fed for a stream its queue is registered. -/
def FindsQueue (streamId : String) (index : Nat) (manager : StreamManager) : StreamEvent → Prop
  | .feedStreamData other data => other = streamId → data.getD [] ≠ [] →
    manager.streamQueues.get? streamId = some index
  | _ => True

/-- What a stream received in a run that it could write to the end of is what reached its queue. -/
theorem received_along {events : List StreamEvent} {manager final : StreamManager} {index : Nat}
    {stream last : ActiveStream} (sound : Sound manager)
    (ran : runFrom step manager events = some final)
    (found : manager.accepted[index]? = some stream)
    (isLast : final.accepted[index]? = some last) (live : last.Live) :
    stream.Live ∧ last.received = stream.received ++ fedAlong index manager events := by
  induction events generalizing manager stream with
  | nil =>
    obtain rfl := Option.some.inj ran
    obtain rfl := Option.some.inj (found.symm.trans isLast)
    exact ⟨live, (List.append_nil _).symm⟩
  | cons event rest inductionHypothesis =>
    obtain ⟨next, stepped, ranRest⟩ := runFrom_cons.mp ran
    obtain ⟨after, foundAfter, takes⟩ := (step_evolves sound stepped).there found
    obtain ⟨liveAfter, more⟩ := inductionHypothesis (sound.step stepped) ranRest foundAfter
    obtain ⟨liveBefore, some⟩ := takes.received (sound.fresh index stream found) liveAfter
    refine ⟨liveBefore, ?_⟩
    rw [more, some, fedAlong, stepped, List.append_assoc]
    rfl

theorem fedTo_cons (streamId : String) (event : StreamEvent) (rest : List StreamEvent) :
    fedTo streamId (event :: rest) = fedTo streamId [event] ++ fedTo streamId rest := by
  rw [fedTo, fedTo, fedTo, List.flatMap_cons, List.flatMap_singleton]

/-- Data for a stream reach its queue if it is registered, and are lost if not. -/
theorem feeds_eq {manager : StreamManager} (sound : Sound manager) {index : Nat}
    {stream : ActiveStream} (found : manager.accepted[index]? = some stream)
    (event : StreamEvent) :
    FindsQueue stream.streamId index manager event ∧
        manager.feeds index event = fedTo stream.streamId [event] ∨
      ¬ FindsQueue stream.streamId index manager event ∧ manager.feeds index event = [] ∧
        0 < (fedTo stream.streamId [event]).length := by
  cases event with
  | feedStreamData other data =>
    rw [fedTo, List.flatMap_singleton]
    simp only [FindsQueue, feeds]
    by_cases same : other = stream.streamId
    · subst same
      rw [if_pos rfl]
      by_cases registered : manager.streamQueues.get? stream.streamId = some index
      · rw [if_pos registered]
        exact .inl ⟨fun _ _ => registered, rfl⟩
      · rw [if_neg registered]
        by_cases empty : data.getD [] = []
        · exact .inl ⟨fun _ nonempty => absurd empty nonempty, empty.symm⟩
        · exact .inr ⟨fun finds => registered (finds rfl empty), rfl, List.length_pos_iff.mpr empty⟩
    · have elsewhere : manager.streamQueues.get? other ≠ some index := by
        intro registered
        obtain ⟨owner, isOwner, owns, -⟩ := sound.registered other index registered
        obtain rfl := Option.some.inj (found.symm.trans isOwner)
        exact same owns.symm
      rw [if_neg same, if_neg elsewhere]
      exact .inl ⟨fun equal => absurd equal same, rfl⟩
  | _ => exact .inl ⟨trivial, rfl⟩

/-- All data fed for a stream reach its queue if and only if it is registered whenever some are. -/
theorem fedAlong_eq_iff {events : List StreamEvent} {manager final : StreamManager} {index : Nat}
    {stream : ActiveStream} (sound : Sound manager)
    (ran : runFrom step manager events = some final)
    (found : manager.accepted[index]? = some stream) :
    (fedAlong index manager events).length ≤ (fedTo stream.streamId events).length ∧
      (fedAlong index manager events = fedTo stream.streamId events ↔
        HoldsAlong step (FindsQueue stream.streamId index) manager events) := by
  induction events generalizing manager stream with
  | nil => exact ⟨le_refl _, fun _ => trivial, fun _ => rfl⟩
  | cons event rest inductionHypothesis =>
    obtain ⟨next, stepped, ranRest⟩ := runFrom_cons.mp ran
    obtain ⟨after, foundAfter, takes⟩ := (step_evolves sound stepped).there found
    obtain ⟨bound, same⟩ := inductionHypothesis (sound.step stepped) ranRest foundAfter
    rw [takes.streamId] at bound same
    rw [holdsAlong_cons stepped, ← same, fedAlong, stepped, Option.elim_some, fedTo_cons, List.length_append,
      List.length_append]
    rcases feeds_eq sound found event with ⟨finds, fed⟩ | ⟨loses, nothing, some⟩
    · rw [fed, List.append_cancel_left_eq]
      exact ⟨Nat.add_le_add_left bound _, fun equal => ⟨finds, equal⟩, And.right⟩
    · rw [nothing, List.nil_append, List.length_nil]
      refine ⟨by omega, fun equal => ?_, fun both => absurd both.1 loses⟩
      -- What was lost is missing: the bytes that arrived are fewer.
      have sizes := congrArg List.length equal
      rw [List.length_append] at sizes
      omega

/-- A stream to an exposed service is accepted in any state that can be reached, and anything happens
after that. When its connection is open, its loop runs and its queue is empty, the bytes that were
written to the local service are all that were fed for the stream, in order, if and only if its
queue was registered whenever some were fed. -/
theorem written_eq_fed_iff (before rest : List StreamEvent) (serviceId streamId peerId : String)
    {start final : StreamManager} {record : ExposedService}
    (ranBefore : runFrom step init before = some start)
    (service : start.services.get? serviceId = some record)
    (ran : runFrom step (start.handleIncomingStream serviceId streamId peerId) rest = some final)
    {stream : ActiveStream} (isStream : final.accepted[start.accepted.length]? = some stream)
    {written : Bytes} (opened : stream.connection = some ⟨written, false⟩)
    (runs : stream.fromPeer = true) (drained : stream.queue = []) :
    written = fedTo streamId rest ↔
      HoldsAlong step (FindsQueue streamId start.accepted.length)
        (start.handleIncomingStream serviceId streamId peerId) rest := by
  have sound : Sound (start.handleIncomingStream serviceId streamId peerId) :=
    @Sound.step _ _ (.handleIncomingStream serviceId streamId peerId)
      (sound_of_run sound_init ranBefore) rfl
  have accepted : (start.handleIncomingStream serviceId streamId
      peerId).accepted[start.accepted.length]? = some (.new record serviceId streamId peerId) := by
    simp [handleIncomingStream, service]
  obtain ⟨-, received⟩ := received_along sound ran accepted isStream (.inr ⟨runs, written, opened⟩)
  have all : written = fedAlong start.accepted.length
      (start.handleIncomingStream serviceId streamId peerId) rest := by
    have nothing : (ActiveStream.new record serviceId streamId peerId).received = [] := rfl
    rw [nothing, ActiveStream.received, opened, drained] at received
    simpa using received
  rw [all]
  exact (fedAlong_eq_iff sound ran accepted).2

/-! ### A stream to a web server -/

def exposeWeb : StreamEvent := .expose ⟨"web", "tcp", "127.0.0.1", 8080⟩ "svc" 100

/-- Data that come after the connection is there are written. -/
theorem written_eq_fed_web :
    ([71, 69, 84] : Bytes) = fedTo "s" [.connects 0 true, .feedStreamData "s" (some [71, 69, 84]),
      .forwardFromPeer 0] :=
  (written_eq_fed_iff [exposeWeb] [.connects 0 true, .feedStreamData "s" (some [71, 69, 84]),
    .forwardFromPeer 0] "svc" "s" "peer" rfl rfl rfl rfl rfl rfl rfl).mpr
      ⟨trivial, fun _ first => ⟨fun _ _ => by
        obtain rfl := Option.some.inj first
        rfl, fun _ _ => ⟨trivial, fun _ _ => trivial⟩⟩⟩

/-- The first data of a request come while the task still connects, and are lost. -/
theorem written_misses_first :
    ∃ final stream,
      runFrom step init [exposeWeb, .handleIncomingStream "svc" "s" "peer",
        .feedStreamData "s" (some [71, 69, 84]), .connects 0 true,
        .feedStreamData "s" (some [33]), .forwardFromPeer 0] = some final ∧
      final.accepted[0]? = some stream ∧ stream.connection = some ⟨[33], false⟩ ∧
      stream.fromPeer = true ∧ stream.queue = [] ∧
      fedTo "s" [.feedStreamData "s" (some [71, 69, 84]), .connects 0 true,
        .feedStreamData "s" (some [33]), .forwardFromPeer 0] = [71, 69, 84, 33] :=
  ⟨_, _, rfl, rfl, rfl, rfl, rfl, rfl⟩

end StreamManager

end LocalNetwork
