/-
This file models the connections to the local listeners of `client/service_consumer.py`. A
connection gets a stream id and takes the tunnel to the provider that is there; two loops then carry
bytes, one from the local client into the tunnel and one from a queue, which `feed_stream_data`
fills, to the local client. A datagram to a UDP listener is sent under a stream id of its own.

The file proves that the connections do not disturb each other: what is written to a local client is
what was fed to its stream, in order, and what is sent under its stream id is what the client wrote,
in order, through the tunnel that was there at the start. It also proves what ends a connection: an
error, a cancelled task or an end mark in the queue, but not that the local client is gone.
-/

import LocalNetwork.Basic
import LocalNetwork.Dict
import LocalNetwork.Transition

namespace LocalNetwork

/-! ### The model -/

/-- A call of `_send_stream_frame`. Tunnels are named by the identity of the object. -/
structure TunnelFrame where
  tunnel : Nat
  serviceId : String
  streamId : String
  data : Bytes
  deriving DecidableEq

/-- A connection for which `handle_connection` found a tunnel: what was written to the local client,
what waits in the queue, which of the two loops run, whether one of them has ended with an
exception, and whether the handler has ended. -/
structure LocalStream where
  serviceId : String
  streamId : String
  tunnel : Nat
  written : Bytes
  queue : List (Option Bytes)
  fromLocal : Bool
  fromPeer : Bool
  raised : Bool
  closed : Bool
  deriving DecidableEq

inductive LocalStreamEvent where
  /-- A connection to the listener of a service, and the tunnel to its provider. -/
  | accept (serviceId streamId : String) (tunnel : Option Nat)
  /-- A datagram to the listener of a service. -/
  | datagram (serviceId streamId : String) (tunnel : Option Nat) (data : Bytes)
  | feedStreamData (streamId : String) (data : Option Bytes)
  /-- `forward_local_to_peer` reads from the local client. -/
  | read (index : Nat) (data : Bytes)
  /-- It ends: at the end of the data or with a socket error, or with another exception. -/
  | localEnds (index : Nat) (raised : Bool)
  /-- `forward_peer_to_local` takes the next item. -/
  | write (index : Nat)
  /-- It ends with a socket error. -/
  | peerEnds (index : Nat)
  /-- `gather` returns or raises, and the handler ends. -/
  | finishes (index : Nat)
  /-- The task is cancelled, and with it the loops. -/
  | cancel (index : Nat)
  deriving DecidableEq

namespace LocalStream

def new (serviceId streamId : String) (tunnel : Nat) : LocalStream where
  serviceId := serviceId
  streamId := streamId
  tunnel := tunnel
  written := []
  queue := []
  fromLocal := true
  fromPeer := true
  raised := false
  closed := false

variable (stream : LocalStream)

/-- `queue.put_nowait` -/
def put (item : Option Bytes) : LocalStream := { stream with queue := stream.queue ++ [item] }

/-- `writer.write`; nothing is written any more when the handler has closed the connection. -/
def deliver (data : Bytes) : LocalStream :=
  { stream with written := if stream.closed = true then stream.written else stream.written ++ data }

/-- A round of `forward_peer_to_local`. -/
def forwardPeerToLocal : Option LocalStream :=
  match stream.queue with
  | [] => none
  | none :: rest => some { stream with queue := rest, fromPeer := false }
  | some data :: rest => some ({ stream with queue := rest }.deliver data)

/-- `gather` returns when both loops have ended, and raises when one has raised. -/
def gathered : Bool := stream.raised || !stream.fromLocal && !stream.fromPeer

end LocalStream

/-- The connections of the process in the order in which they came, and the queues by stream id. -/
structure ConsumerStreams where
  connections : List LocalStream
  streamQueues : Dict String Nat
  sent : List TunnelFrame

namespace ConsumerStreams

def init : ConsumerStreams := ⟨[], Dict.empty, []⟩

variable (consumer : ConsumerStreams)

def modify (index : Nat) (update : LocalStream → LocalStream) : ConsumerStreams :=
  { consumer with connections := consumer.connections.modify index update }

def send (frame : TunnelFrame) : ConsumerStreams :=
  { consumer with sent := consumer.sent ++ [frame] }

/-- `feed_stream_data`; data for a stream that is not there are dropped. -/
def feedStreamData (streamId : String) (data : Option Bytes) : ConsumerStreams :=
  match consumer.streamQueues.get? streamId with
  | none => consumer
  | some index => consumer.modify index fun stream => stream.put data

/-- A step of the task of a connection, which the connection may refuse. -/
def taskStep (index : Nat) (update : LocalStream → Option ConsumerStreams) :
    Option ConsumerStreams :=
  consumer.connections[index]?.bind update

def step : LocalStreamEvent → Option ConsumerStreams
  | .accept _ _ none => some consumer
  | .accept serviceId streamId (some tunnel) =>
    some { consumer with
      connections := consumer.connections ++ [.new serviceId streamId tunnel]
      streamQueues := consumer.streamQueues.insert streamId consumer.connections.length }
  | .datagram _ _ none _ => some consumer
  | .datagram serviceId streamId (some tunnel) data =>
    some (consumer.send ⟨tunnel, serviceId, streamId, data⟩)
  | .feedStreamData streamId data => some (consumer.feedStreamData streamId data)
  | .read index data =>
    consumer.taskStep index fun stream =>
      if stream.fromLocal = true ∧ data ≠ [] then
        some (consumer.send ⟨stream.tunnel, stream.serviceId, stream.streamId, data⟩)
      else none
  | .localEnds index raised =>
    consumer.taskStep index fun stream =>
      if stream.fromLocal = true then
        some (consumer.modify index fun stream =>
          { stream with fromLocal := false, raised := stream.raised || raised })
      else none
  | .write index =>
    consumer.taskStep index fun stream =>
      if stream.fromPeer = true then
        stream.forwardPeerToLocal.map fun next => consumer.modify index fun _ => next
      else none
  | .peerEnds index =>
    consumer.taskStep index fun stream =>
      if stream.fromPeer = true then
        some (consumer.modify index fun stream => { stream with fromPeer := false })
      else none
  | .finishes index =>
    consumer.taskStep index fun stream =>
      if stream.closed = false ∧ stream.gathered = true then
        some { consumer.modify index fun stream => { stream with closed := true } with
          streamQueues := consumer.streamQueues.erase stream.streamId }
      else none
  | .cancel index =>
    consumer.taskStep index fun _ =>
      some (consumer.modify index fun stream =>
        { stream with fromLocal := false, fromPeer := false })

end ConsumerStreams

/-! ### One connection -/

namespace LocalStreamEvent

/-- The id that `uuid4` gave. -/
def drawnId : LocalStreamEvent → Option String
  | .accept _ streamId _ | .datagram _ streamId (some _) _ => some streamId
  | _ => none

/-- What is fed to a stream. -/
def fed (streamId : String) : LocalStreamEvent → Bytes
  | .feedStreamData other data => if other = streamId then data.getD [] else []
  | _ => []

/-- What is read from the local client of a connection. -/
def readFrom (index : Nat) : LocalStreamEvent → Option Bytes
  | .read other data => if other = index then some data else none
  | _ => none

/-- An exception, a socket error at the local client, a cancelled task or an end mark. -/
def Breaks (index : Nat) (streamId : String) (event : LocalStreamEvent) : Prop :=
  event = .localEnds index true ∨ event = .peerEnds index ∨ event = .cancel index ∨
    event = .feedStreamData streamId none

end LocalStreamEvent

open LocalStreamEvent

namespace LocalStream

/-- The bytes in the queue. -/
def waiting (stream : LocalStream) : Bytes := stream.queue.flatMap fun item => item.getD []

/-- What was written is the beginning of what was fed, and the queue is the rest while it is
read. -/
structure InOrder (stream : LocalStream) (fed : Bytes) : Prop where
  begins : stream.written <+: fed
  all : stream.closed = false → stream.fromPeer = true → stream.written ++ stream.waiting = fed

/-- One of the loops has failed, or the handler has ended, or the loop will find an end mark. -/
def Broken (stream : LocalStream) : Prop :=
  stream.fromPeer = false ∨ stream.raised = true ∨ none ∈ stream.queue ∨ stream.closed = true

/-- The frames of a stream that carry the data. -/
def frame (stream : LocalStream) (data : Bytes) : TunnelFrame :=
  ⟨stream.tunnel, stream.serviceId, stream.streamId, data⟩

/-- What an event may do to a connection. -/
structure Evolves (event : LocalStreamEvent) (index : Nat) (stream next : LocalStream) : Prop where
  serviceId : next.serviceId = stream.serviceId
  streamId : next.streamId = stream.streamId
  tunnel : next.tunnel = stream.tunnel
  ordered : ∀ fed, stream.InOrder fed → next.InOrder (fed ++ event.fed stream.streamId)
  broken : next.Broken → stream.Broken ∨ event.Breaks index stream.streamId

variable {stream next : LocalStream} {event : LocalStreamEvent} {index : Nat} {fed : Bytes}

/-- Nothing is fed to the stream. -/
theorem evolves_refl (silent : event.fed stream.streamId = []) :
    Evolves event index stream stream :=
  ⟨rfl, rfl, rfl, fun fed ordered => by rwa [silent, List.append_nil], .inl⟩

/-- What is fed to a connection that is closed is lost. -/
theorem evolves_closed (closed : stream.closed = true) : Evolves event index stream stream := by
  refine ⟨rfl, rfl, rfl, fun fed ordered => ?_, .inl⟩
  refine ⟨ordered.begins.trans (List.prefix_append _ _), fun opened => ?_⟩
  rw [closed] at opened
  cases opened

theorem evolves_put (item : Option Bytes) :
    Evolves (.feedStreamData stream.streamId item) index stream (stream.put item) := by
  refine ⟨rfl, rfl, rfl, fun fed ordered => ⟨ordered.begins.trans (List.prefix_append _ _), ?_⟩, ?_⟩
  · intro opened reads
    rw [LocalStreamEvent.fed, if_pos rfl, ← ordered.all opened reads, waiting, put]
    simp [waiting]
  · rintro (stopped | raised | mark | closed)
    · exact .inl (.inl stopped)
    · exact .inl (.inr (.inl raised))
    · rcases List.mem_append.mp mark with early | last
      · exact .inl (.inr (.inr (.inl early)))
      · rw [← List.mem_singleton.mp last]
        exact .inr (.inr (.inr (.inr rfl)))
    · exact .inl (.inr (.inr (.inr closed)))

/-- The next item goes from the queue to the local client. -/
theorem InOrder.deliver (ordered : stream.InOrder fed) (reads : stream.fromPeer = true)
    {data : Bytes} {rest : List (Option Bytes)} (queue : stream.queue = some data :: rest) :
    ({ stream with queue := rest }.deliver data).InOrder fed := by
  by_cases closed : stream.closed = true
  · have same : ({ stream with queue := rest }.deliver data).written = stream.written :=
      if_pos closed
    refine ⟨?_, fun opened => absurd (closed.symm.trans opened) nofun⟩
    rw [same]
    exact ordered.begins
  · have more : ({ stream with queue := rest }.deliver data).written = stream.written ++ data :=
      if_neg closed
    have all : stream.written ++ data ++ (rest.flatMap fun item => item.getD []) = fed := by
      rw [← ordered.all (Bool.eq_false_iff.mpr closed) reads, waiting, queue, List.flatMap_cons,
        List.append_assoc]
      rfl
    exact ⟨⟨_, more.symm ▸ all⟩, fun _ _ => more.symm ▸ all⟩

theorem evolves_forward (reads : stream.fromPeer = true)
    (moved : stream.forwardPeerToLocal = some next) :
    Evolves (.write index) index stream next := by
  have silent : (LocalStreamEvent.write index).fed stream.streamId = [] := rfl
  unfold forwardPeerToLocal at moved
  cases queue : stream.queue with
  | nil =>
    rw [queue] at moved
    cases moved
  | cons item rest =>
    rw [queue] at moved
    cases item with
    | none =>
      obtain rfl := Option.some.inj moved
      refine ⟨rfl, rfl, rfl, fun fed ordered => ⟨?_, fun _ => nofun⟩, fun _ => .inl ?_⟩
      · rw [silent, List.append_nil]
        exact ordered.begins
      · exact .inr (.inr (.inl (queue ▸ List.mem_cons_self)))
    | some data =>
      obtain rfl := Option.some.inj moved
      refine ⟨rfl, rfl, rfl, fun fed ordered => ?_, ?_⟩
      · rw [silent, List.append_nil]
        exact ordered.deliver reads queue
      · rintro (stopped | raised | mark | closed)
        · exact .inl (.inl stopped)
        · exact .inl (.inr (.inl raised))
        · exact .inl (.inr (.inr (.inl (queue ▸ List.mem_cons_of_mem _ mark))))
        · exact .inl (.inr (.inr (.inr closed)))

theorem closed_forward (moved : stream.forwardPeerToLocal = some next) :
    next.closed = stream.closed := by
  unfold forwardPeerToLocal at moved
  split at moved
  · cases moved
  · exact Option.some.inj moved ▸ rfl
  · exact Option.some.inj moved ▸ rfl

/-- The handler ends, when one of the loops has failed. -/
theorem evolves_finish (gathered : stream.gathered = true) :
    Evolves (.finishes index) index stream { stream with closed := true } := by
  refine ⟨rfl, rfl, rfl, fun fed ordered => ⟨?_, nofun⟩, fun _ => .inl ?_⟩
  · exact ordered.begins.trans (List.prefix_append _ _)
  · rcases Bool.or_eq_true_iff.mp gathered with raised | ended
    · exact .inr (.inl raised)
    · rw [Bool.and_eq_true, Bool.not_eq_true', Bool.not_eq_true'] at ended
      exact .inl ended.2

/-- A loop ends. -/
theorem evolves_stop {fromLocal fromPeer raised : Bool}
    (fewer : fromPeer = true → stream.fromPeer = true)
    (silent : event.fed stream.streamId = [])
    (breaks : fromPeer = false → stream.fromPeer = false ∨ event.Breaks index stream.streamId)
    (fails : raised = true → stream.raised = true ∨ event.Breaks index stream.streamId) :
    Evolves event index stream
      { stream with fromLocal := fromLocal, fromPeer := fromPeer, raised := raised } := by
  refine ⟨rfl, rfl, rfl, fun fed ordered => ?_, ?_⟩
  · rw [silent, List.append_nil]
    exact ⟨ordered.begins, fun opened reads => ordered.all opened (fewer reads)⟩
  · rintro (stopped | failed | mark | closed)
    · exact (breaks stopped).imp_left .inl
    · exact (fails failed).imp_left fun raised => .inr (.inl raised)
    · exact .inl (.inr (.inr (.inl mark)))
    · exact .inl (.inr (.inr (.inr closed)))

end LocalStream

/-! ### All connections -/

namespace ConsumerStreams

open LocalStream

/-- The ids that were drawn. -/
def drawnIds (events : List LocalStreamEvent) : List String := events.filterMap drawnId

/-- All that was fed to a stream. -/
def fedTo (streamId : String) (events : List LocalStreamEvent) : Bytes :=
  events.flatMap (LocalStreamEvent.fed streamId)

/-- The frames with a stream id. -/
def sentOn (frames : List TunnelFrame) (streamId : String) : List TunnelFrame :=
  frames.filter fun frame => decide (frame.streamId = streamId)

/-- What happened to a connection since it came. -/
def Carried (past : List LocalStreamEvent) (sent : List TunnelFrame) (index : Nat)
    (stream : LocalStream) : Prop :=
  ∃ before after,
    past = before ++ .accept stream.serviceId stream.streamId (some stream.tunnel) :: after ∧
    stream.InOrder (fedTo stream.streamId after) ∧
    sentOn sent stream.streamId = (after.filterMap (readFrom index)).map stream.frame ∧
    (stream.Broken → ∃ event ∈ after, event.Breaks index stream.streamId)

/-- The connections have ids of their own, under which exactly the open ones are registered. -/
structure Separate (past : List LocalStreamEvent) (consumer : ConsumerStreams) : Prop where
  distinct : (consumer.connections.map streamId).Nodup
  registered : ∀ streamId index, consumer.streamQueues.get? streamId = some index ↔
    ∃ stream, consumer.connections[index]? = some stream ∧ stream.streamId = streamId ∧
      stream.closed = false
  drawn : ∀ stream ∈ consumer.connections, stream.streamId ∈ drawnIds past
  sentDrawn : ∀ frame ∈ consumer.sent, frame.streamId ∈ drawnIds past
  carried : ∀ index stream, consumer.connections[index]? = some stream →
    Carried past consumer.sent index stream

variable {past : List LocalStreamEvent} {event : LocalStreamEvent} {consumer next : ConsumerStreams}
  {index : Nat} {stream : LocalStream}

theorem separate_init : Separate [] init where
  distinct := List.nodup_nil
  registered streamId index := iff_of_false nofun (by rintro ⟨stream, found, -⟩; cases found)
  drawn stream member := absurd member List.not_mem_nil
  sentDrawn frame member := absurd member List.not_mem_nil
  carried index stream found := by cases found

/-- A connection is where its id is. -/
theorem Separate.unique (separate : Separate past consumer) {other : Nat} {second : LocalStream}
    (first : consumer.connections[index]? = some stream)
    (found : consumer.connections[other]? = some second)
    (same : second.streamId = stream.streamId) : other = index := by
  have here (place : Nat) (stream : LocalStream)
      (there : consumer.connections[place]? = some stream) :
      (consumer.connections.map streamId)[place]? = some stream.streamId := by
    rw [List.getElem?_map, there]
    rfl
  have inside : other < (consumer.connections.map streamId).length :=
    (List.getElem?_eq_some_iff.mp (here other second found)).1
  refine (List.getElem?_inj inside separate.distinct).mp ?_
  rw [here other second found, here index stream first, same]

theorem Carried.later {sent more : List TunnelFrame} {later : LocalStream}
    (carried : Carried past sent index stream) (evolves : Evolves event index stream later)
    (frames : sentOn more stream.streamId =
      sentOn sent stream.streamId ++ (event.readFrom index).toList.map stream.frame) :
    Carried (past ++ [event]) more index later := by
  obtain ⟨before, after, rfl, ordered, sends, broken⟩ := carried
  have frame : later.frame = stream.frame := by
    funext data
    rw [LocalStream.frame, LocalStream.frame, evolves.serviceId, evolves.streamId, evolves.tunnel]
  refine ⟨before, after ++ [event], ?_, ?_, ?_, fun breaks => ?_⟩
  · rw [evolves.serviceId, evolves.streamId, evolves.tunnel, List.append_assoc, List.cons_append]
  · rw [evolves.streamId, fedTo, List.flatMap_append, List.flatMap_singleton]
    exact evolves.ordered _ ordered
  · rw [evolves.streamId, frame, frames, sends, List.filterMap_append, List.map_append]
    cases read : event.readFrom index <;> simp [read]
  · rw [evolves.streamId]
    rcases evolves.broken breaks with early | now
    · obtain ⟨cause, member, breaks⟩ := broken early
      exact ⟨cause, List.mem_append_left _ member, breaks⟩
    · exact ⟨event, List.mem_append_right _ List.mem_cons_self, now⟩

theorem drawnIds_snoc : drawnIds (past ++ [event]) = drawnIds past ++ event.drawnId.toList := by
  rw [drawnIds, List.filterMap_append]
  cases drawn : event.drawnId <;> simp [drawnIds, drawn]

/-- A new id is none of those that were drawn. -/
theorem fresh_of_nodup {id : String} (drawn : event.drawnId = some id)
    (nodup : (drawnIds (past ++ [event])).Nodup) : id ∉ drawnIds past := by
  rw [drawnIds_snoc, drawn, Option.toList_some, List.nodup_append] at nodup
  exact fun member => nodup.2.2 id member id (List.mem_singleton_self id) rfl

theorem mem_drawnIds_snoc {id : String} (member : id ∈ drawnIds past) :
    id ∈ drawnIds (past ++ [event]) := by
  rw [drawnIds_snoc]
  exact List.mem_append_left _ member

/-- The connections go on, and what is sent is what they read. -/
theorem Separate.evolve (separate : Separate past consumer)
    (ids : next.connections.map streamId = consumer.connections.map streamId)
    (evolves : ∀ index later, next.connections[index]? = some later →
      ∃ stream, consumer.connections[index]? = some stream ∧ Evolves event index stream later)
    (registered : ∀ streamId index, next.streamQueues.get? streamId = some index ↔
      ∃ stream, next.connections[index]? = some stream ∧ stream.streamId = streamId ∧
        stream.closed = false)
    (sentDrawn : ∀ frame ∈ next.sent, frame.streamId ∈ drawnIds (past ++ [event]))
    (frames : ∀ index stream, consumer.connections[index]? = some stream →
      sentOn next.sent stream.streamId = sentOn consumer.sent stream.streamId ++
        (event.readFrom index).toList.map stream.frame) :
    Separate (past ++ [event]) next := by
  refine ⟨ids ▸ separate.distinct, registered, fun later member => ?_, sentDrawn,
    fun index later found => ?_⟩
  · obtain ⟨index, found⟩ := List.mem_iff_getElem?.mp member
    obtain ⟨stream, before, evolved⟩ := evolves index later found
    rw [evolved.streamId]
    exact mem_drawnIds_snoc (separate.drawn stream (List.mem_of_getElem? before))
  · obtain ⟨stream, before, evolved⟩ := evolves index later found
    exact (separate.carried index stream before).later evolved (frames index stream before)

theorem connections_modify (index other : Nat) (update : LocalStream → LocalStream) :
    (consumer.modify index update).connections[other]? =
      consumer.connections[other]?.map (if index = other then update else id) := by
  rw [modify, List.getElem?_modify]
  split <;> rfl

theorem modify_ids {update : LocalStream → LocalStream}
    (here : consumer.connections[index]? = some stream)
    (same : (update stream).streamId = stream.streamId) :
    (consumer.modify index update).connections.map streamId =
      consumer.connections.map streamId := by
  refine List.ext_getElem? fun other => ?_
  rw [List.getElem?_map, List.getElem?_map, connections_modify]
  by_cases equal : index = other
  · subst equal
    simp [here, same]
  · simp [equal]

/-- One connection goes on, and the others do not notice. -/
theorem modify_evolves {update : LocalStream → LocalStream}
    (here : consumer.connections[index]? = some stream)
    (evolves : Evolves event index stream (update stream))
    (others : ∀ other second, other ≠ index → consumer.connections[other]? = some second →
      event.fed second.streamId = [])
    (other : Nat) (later : LocalStream)
    (found : (consumer.modify index update).connections[other]? = some later) :
    ∃ stream, consumer.connections[other]? = some stream ∧ Evolves event other stream later := by
  rw [connections_modify] at found
  obtain ⟨second, before, rfl⟩ := Option.map_eq_some_iff.mp found
  by_cases equal : index = other
  · subst equal
    obtain rfl := Option.some.inj (here.symm.trans before)
    rw [if_pos rfl]
    exact ⟨stream, here, evolves⟩
  · rw [if_neg equal]
    exact ⟨second, before, evolves_refl (others other second (Ne.symm equal) before)⟩

/-- The open connections are registered when one goes on that does not end. -/
theorem Separate.registered_modify (separate : Separate past consumer)
    {update : LocalStream → LocalStream} (here : consumer.connections[index]? = some stream)
    (id : (update stream).streamId = stream.streamId)
    (closed : (update stream).closed = stream.closed) (streamId : String) (other : Nat) :
    (consumer.modify index update).streamQueues.get? streamId = some other ↔
      ∃ stream, (consumer.modify index update).connections[other]? = some stream ∧
        stream.streamId = streamId ∧ stream.closed = false := by
  rw [show (consumer.modify index update).streamQueues = consumer.streamQueues from rfl,
    separate.registered, connections_modify]
  by_cases equal : index = other
  · subst equal
    simp [here, id, closed]
  · simp [equal]

/-- One connection goes on, which does not end, and the others do not notice. -/
theorem Separate.modify (separate : Separate past consumer)
    (unread : ∀ other, event.readFrom other = none) {update : LocalStream → LocalStream}
    (here : consumer.connections[index]? = some stream)
    (evolves : Evolves event index stream (update stream))
    (closed : (update stream).closed = stream.closed)
    (others : ∀ other second, other ≠ index → consumer.connections[other]? = some second →
      event.fed second.streamId = []) :
    Separate (past ++ [event]) (consumer.modify index update) := by
  refine separate.evolve (modify_ids here evolves.streamId) (modify_evolves here evolves others)
    (separate.registered_modify here evolves.streamId closed)
    (fun frame member => mem_drawnIds_snoc (separate.sentDrawn frame member)) ?_
  intro other second found
  rw [unread, Option.toList_none, List.map_nil, List.append_nil]
  rfl

/-- Nothing happens to the connections. -/
theorem Separate.unchanged (separate : Separate past consumer)
    (unread : ∀ other, event.readFrom other = none)
    (all : ∀ index stream, consumer.connections[index]? = some stream →
      Evolves event index stream stream) : Separate (past ++ [event]) consumer := by
  refine separate.evolve rfl (fun index later found => ⟨later, found, all index later found⟩)
    separate.registered (fun frame member => mem_drawnIds_snoc (separate.sentDrawn frame member))
    fun index stream found => ?_
  rw [unread, Option.toList_none, List.map_nil, List.append_nil]

theorem Separate.feed (separate : Separate past consumer) (streamId : String)
    (data : Option Bytes) :
    Separate (past ++ [.feedStreamData streamId data]) (consumer.feedStreamData streamId data) := by
  unfold feedStreamData
  cases queue : consumer.streamQueues.get? streamId with
  | none =>
    refine separate.unchanged (fun _ => rfl) fun index stream found => ?_
    by_cases same : streamId = stream.streamId
    · -- The connection is closed, for otherwise its id were registered.
      refine evolves_closed (Bool.eq_true_of_not_eq_false fun opened => ?_)
      have open_ := (separate.registered streamId index).mpr ⟨stream, found, same.symm, opened⟩
      rw [queue] at open_
      cases open_
    · exact evolves_refl (if_neg same)
  | some index =>
    obtain ⟨stream, here, rfl, -⟩ := (separate.registered streamId index).mp queue
    refine separate.modify (fun _ => rfl) here (evolves_put data) rfl
      fun other second different found => if_neg fun same => ?_
    exact different (separate.unique here found same.symm)

/-- A call of `_send_stream_frame` is counted to the connection with the stream id. -/
theorem sentOn_send (frame : TunnelFrame) (streamId : String) :
    sentOn (consumer.send frame).sent streamId =
      sentOn consumer.sent streamId ++ if frame.streamId = streamId then [frame] else [] := by
  rw [sentOn, send, List.filter_append]
  refine congrArg (sentOn consumer.sent streamId ++ ·) ?_
  by_cases same : frame.streamId = streamId
  · simp [same]
  · simp [same]

theorem Separate.sent_send (separate : Separate past consumer) {frame : TunnelFrame}
    (drawn : frame.streamId ∈ drawnIds (past ++ [event])) :
    ∀ other ∈ (consumer.send frame).sent, other.streamId ∈ drawnIds (past ++ [event]) := by
  intro other member
  rcases List.mem_append.mp member with early | last
  · exact mem_drawnIds_snoc (separate.sentDrawn other early)
  · exact List.mem_singleton.mp last ▸ drawn

theorem Separate.datagram (separate : Separate past consumer) {serviceId streamId : String}
    {tunnel : Nat} {data : Bytes} (fresh : streamId ∉ drawnIds past) :
    Separate (past ++ [.datagram serviceId streamId (some tunnel) data])
      (consumer.send ⟨tunnel, serviceId, streamId, data⟩) := by
  refine separate.evolve rfl (fun index later found => ⟨later, found, evolves_refl rfl⟩)
    separate.registered (separate.sent_send ?_) fun index stream found => ?_
  · rw [drawnIds_snoc]
    exact List.mem_append_right _ (List.mem_singleton_self streamId)
  · have other : streamId ≠ stream.streamId := fun same =>
      fresh (same ▸ separate.drawn stream (List.mem_of_getElem? found))
    rw [sentOn_send, if_neg other]
    rfl

theorem Separate.read (separate : Separate past consumer) {data : Bytes}
    (here : consumer.connections[index]? = some stream) :
    Separate (past ++ [.read index data]) (consumer.send (stream.frame data)) := by
  refine separate.evolve rfl (fun index later found => ⟨later, found, evolves_refl rfl⟩)
    separate.registered (separate.sent_send ?_) fun other second found => ?_
  · exact mem_drawnIds_snoc (separate.drawn stream (List.mem_of_getElem? here))
  · rw [sentOn_send]
    by_cases equal : index = other
    · subst equal
      obtain rfl := Option.some.inj (here.symm.trans found)
      simp [LocalStream.frame, readFrom]
    · have different : (stream.frame data).streamId ≠ second.streamId := fun same =>
        equal (separate.unique found here same)
      rw [if_neg different, readFrom, if_neg equal]
      rfl

/-- The handler of a connection ends, and its id is not registered any more. -/
theorem Separate.finish (separate : Separate past consumer) (gathered : stream.gathered = true)
    (here : consumer.connections[index]? = some stream) :
    Separate (past ++ [.finishes index])
      { consumer.modify index fun stream => { stream with closed := true } with
        streamQueues := consumer.streamQueues.erase stream.streamId } := by
  refine separate.evolve (modify_ids here rfl)
    (modify_evolves here (evolves_finish gathered) fun _ _ _ _ => rfl) (fun id other => ?_)
    (fun frame member => mem_drawnIds_snoc (separate.sentDrawn frame member)) ?_
  · show (consumer.streamQueues.erase stream.streamId).get? id = some other ↔ ∃ later,
      (consumer.modify index fun stream => { stream with closed := true }).connections[other]? =
        some later ∧ later.streamId = id ∧ later.closed = false
    rw [connections_modify, Dict.get?_erase]
    by_cases same : id = stream.streamId
    · rw [if_pos same]
      refine iff_of_false nofun ?_
      rintro ⟨later, found, rfl, opened⟩
      obtain ⟨second, before, rfl⟩ := Option.map_eq_some_iff.mp found
      by_cases equal : index = other
      · rw [if_pos equal] at opened
        cases opened
      · rw [if_neg equal] at same
        exact equal (separate.unique here before same).symm
    · rw [if_neg same, separate.registered]
      by_cases equal : index = other
      · subst equal
        simp [here, Ne.symm same]
      · simp [equal]
  · intro other second found
    exact (List.append_nil _).symm

/-- What stands in a list with a new last element. -/
theorem getElem?_snoc {Item : Type} {list : List Item} {last item : Item} :
    (list ++ [last])[index]? = some item ↔
      list[index]? = some item ∨ index = list.length ∧ last = item := by
  rcases Nat.lt_trichotomy index list.length with inside | rfl | beyond
  · rw [List.getElem?_append_left inside]
    exact (or_iff_left fun here => inside.ne here.1).symm
  · simp
  · rw [List.getElem?_eq_none (by rw [List.length_append]; exact beyond),
      List.getElem?_eq_none beyond.le]
    refine iff_of_false nofun ?_
    rintro (early | ⟨same, -⟩)
    · cases early
    · exact beyond.ne' same

theorem Separate.accept (separate : Separate past consumer) {serviceId streamId : String}
    {tunnel : Nat} (fresh : streamId ∉ drawnIds past) :
    Separate (past ++ [.accept serviceId streamId (some tunnel)])
      { consumer with
        connections := consumer.connections ++ [.new serviceId streamId tunnel]
        streamQueues := consumer.streamQueues.insert streamId consumer.connections.length } := by
  have drawnNow : streamId ∈ drawnIds (past ++ [.accept serviceId streamId (some tunnel)]) := by
    rw [drawnIds_snoc]
    exact List.mem_append_right _ (List.mem_singleton_self streamId)
  have unsent : sentOn consumer.sent streamId = [] := by
    refine List.filter_eq_nil_iff.mpr fun frame member => ?_
    rw [decide_eq_true_eq]
    exact fun same => fresh (same ▸ separate.sentDrawn frame member)
  refine ⟨?_, fun id index => ?_, fun stream member => ?_, fun frame member => ?_,
    fun index stream found => ?_⟩
  · rw [List.map_append, List.nodup_append]
    refine ⟨separate.distinct, List.nodup_singleton _, fun id member other last same => ?_⟩
    obtain ⟨stream, inside, rfl⟩ := List.mem_map.mp member
    rw [List.mem_singleton.mp last] at same
    have drawn := separate.drawn stream inside
    rw [same] at drawn
    exact fresh drawn
  · rw [Dict.get?_insert]
    by_cases same : id = streamId
    · rw [if_pos same]
      refine ⟨fun here => ⟨_, getElem?_snoc.mpr (.inr ⟨?_, rfl⟩), same.symm, rfl⟩, ?_⟩
      · exact (Option.some.inj here).symm
      · rintro ⟨stream, found, sameId, -⟩
        rcases getElem?_snoc.mp found with early | ⟨rfl, -⟩
        · refine absurd (separate.drawn stream (List.mem_of_getElem? early)) ?_
          rw [sameId, same]
          exact fresh
        · rfl
    · rw [if_neg same, separate.registered]
      refine exists_congr fun stream => and_congr_left fun known => ?_
      rw [getElem?_snoc]
      refine (or_iff_left fun last => same ?_).symm
      rw [← known.1, ← last.2]
      rfl
  · rcases List.mem_append.mp member with early | last
    · exact mem_drawnIds_snoc (separate.drawn stream early)
    · rw [List.mem_singleton.mp last]
      exact drawnNow
  · exact mem_drawnIds_snoc (separate.sentDrawn frame member)
  · rcases getElem?_snoc.mp found with early | ⟨rfl, rfl⟩
    · refine (separate.carried index stream early).later (evolves_refl rfl) ?_
      exact (List.append_nil _).symm
    · refine ⟨past, [], rfl, ⟨List.nil_prefix, fun _ _ => rfl⟩, unsent, ?_⟩
      rintro (stopped | raised | mark | closed)
      · cases stopped
      · cases raised
      · cases mark
      · cases closed

theorem Separate.step (separate : Separate past consumer)
    (nodup : (drawnIds (past ++ [event])).Nodup) (stepped : consumer.step event = some next) :
    Separate (past ++ [event]) next := by
  cases event with
  | accept serviceId streamId tunnel =>
    cases tunnel with
    | none =>
      obtain rfl := Option.some.inj stepped
      exact separate.unchanged (fun _ => rfl) fun index stream _ => evolves_refl rfl
    | some tunnel =>
      obtain rfl := Option.some.inj stepped
      exact separate.accept (fresh_of_nodup rfl nodup)
  | datagram serviceId streamId tunnel data =>
    cases tunnel with
    | none =>
      obtain rfl := Option.some.inj stepped
      exact separate.unchanged (fun _ => rfl) fun index stream _ => evolves_refl rfl
    | some tunnel =>
      obtain rfl := Option.some.inj stepped
      exact separate.datagram (fresh_of_nodup rfl nodup)
  | feedStreamData streamId data => exact Option.some.inj stepped ▸ separate.feed streamId data
  | read index data =>
    obtain ⟨stream, here, taken⟩ := Option.bind_eq_some_iff.mp stepped
    split at taken
    · exact Option.some.inj taken ▸ separate.read here
    · cases taken
  | localEnds index raised =>
    obtain ⟨stream, here, taken⟩ := Option.bind_eq_some_iff.mp stepped
    split at taken
    · rw [← Option.some.inj taken]
      refine separate.modify (fun _ => rfl) here ?_ rfl fun _ _ _ _ => rfl
      refine evolves_stop id rfl .inl fun failed => ?_
      rcases Bool.or_eq_true_iff.mp failed with early | now
      · exact .inl early
      · exact .inr (.inl (now ▸ rfl))
    · cases taken
  | write index =>
    obtain ⟨stream, here, taken⟩ := Option.bind_eq_some_iff.mp stepped
    split at taken
    · rename_i reads
      obtain ⟨later, moved, rfl⟩ := Option.map_eq_some_iff.mp taken
      refine separate.modify (fun _ => rfl) here (evolves_forward reads moved) ?_
        fun _ _ _ _ => rfl
      exact closed_forward moved
    · cases taken
  | peerEnds index =>
    obtain ⟨stream, here, taken⟩ := Option.bind_eq_some_iff.mp stepped
    split at taken
    · rw [← Option.some.inj taken]
      refine separate.modify (fun _ => rfl) here ?_ rfl fun _ _ _ _ => rfl
      exact evolves_stop nofun rfl (fun _ => .inr (.inr (.inl rfl))) .inl
    · cases taken
  | finishes index =>
    obtain ⟨stream, here, taken⟩ := Option.bind_eq_some_iff.mp stepped
    split at taken
    · rename_i ready
      exact Option.some.inj taken ▸ separate.finish ready.2 here
    · cases taken
  | cancel index =>
    obtain ⟨stream, here, taken⟩ := Option.bind_eq_some_iff.mp stepped
    rw [← Option.some.inj taken]
    refine separate.modify (fun _ => rfl) here ?_ rfl fun _ _ _ _ => rfl
    exact evolves_stop nofun rfl (fun _ => .inr (.inr (.inr (.inl rfl)))) .inl

theorem Separate.run {events : List LocalStreamEvent} (nodup : (drawnIds events).Nodup)
    (ran : runFrom ConsumerStreams.step init events = some consumer) :
    Separate events consumer := by
  have kept : (drawnIds events).Nodup → Separate events consumer := by
    refine @history_invariant _ _ ConsumerStreams.step (fun _ _ => True) init
      (fun past consumer => (drawnIds past).Nodup → Separate past consumer)
      (fun past consumer event next _ _ separate stepped nodup => ?_) consumer events
      (fun _ => separate_init) (holdsAlong_true events init) ran
    have earlier : (drawnIds past).Nodup := by
      rw [drawnIds_snoc] at nodup
      exact nodup.of_append_left
    exact (separate earlier).step nodup stepped
  exact kept nodup

/-- In every run in which no stream id is drawn twice, each connection is served on its own. What
was written to its local client is the beginning of what was fed to its stream since it came, and
all of it but what waits in the queue while the queue is read. The frames with its stream id carry
what the client wrote, in order, through the tunnel that was there when it came. -/
theorem streams_in_order (events : List LocalStreamEvent) (consumer : ConsumerStreams)
    (nodup : (drawnIds events).Nodup)
    (ran : runFrom ConsumerStreams.step init events = some consumer)
    (index : Nat) (stream : LocalStream) (here : consumer.connections[index]? = some stream) :
    ∃ before after,
      events = before ++ .accept stream.serviceId stream.streamId (some stream.tunnel) :: after ∧
      stream.written <+: fedTo stream.streamId after ∧
      (stream.closed = false → stream.fromPeer = true →
        stream.written ++ stream.waiting = fedTo stream.streamId after) ∧
      sentOn consumer.sent stream.streamId =
        (after.filterMap (readFrom index)).map stream.frame := by
  obtain ⟨before, after, split, ordered, sends, -⟩ :=
    (Separate.run nodup ran).carried index stream here
  exact ⟨before, after, split, ordered.begins, ordered.all, sends⟩

/-- Two connections to one service, whose data come in turns. -/
theorem streams_in_order_example :
    ∃ events consumer stream, runFrom ConsumerStreams.step init events = some consumer ∧
      consumer.connections[0]? = some stream ∧ stream.written = [10, 11] ∧
      ∃ after, stream.written ++ stream.waiting = fedTo "first" after ∧
        sentOn consumer.sent "first" = (after.filterMap (readFrom 0)).map stream.frame := by
  let events : List LocalStreamEvent :=
    [.accept "web" "first" (some 0), .accept "web" "second" (some 0), .read 1 [1], .read 0 [2],
      .feedStreamData "first" (some [10, 11]), .feedStreamData "second" (some [20]), .write 0,
      .datagram "dns" "third" (some 0) [3], .feedStreamData "third" (some [30]),
      .localEnds 0 false, .feedStreamData "first" (some [12])]
  obtain ⟨consumer, stream, ran, here, written, id, opened, reads⟩ : ∃ consumer stream,
      runFrom ConsumerStreams.step init events = some consumer ∧
        consumer.connections[0]? = some stream ∧ stream.written = [10, 11] ∧
        stream.streamId = "first" ∧ stream.closed = false ∧ stream.fromPeer = true :=
    ⟨_, _, rfl, rfl, rfl, rfl, rfl, rfl⟩
  obtain ⟨before, after, -, -, all, sends⟩ :=
    streams_in_order events consumer (by decide) ran 0 stream here
  rw [id] at all sends
  exact ⟨events, consumer, stream, ran, here, written, after, all opened reads, sends⟩

/-- In every run in which no stream id is drawn twice, a connection whose handler has ended was
broken since it came: by an exception while sending, a socket error at the local client, a cancelled
task or an end mark in its queue. If nothing of this happens it stays open and registered, also when
the local client has gone. -/
theorem closed_connection_was_broken (events : List LocalStreamEvent) (consumer : ConsumerStreams)
    (nodup : (drawnIds events).Nodup)
    (ran : runFrom ConsumerStreams.step init events = some consumer)
    (index : Nat) (stream : LocalStream) (here : consumer.connections[index]? = some stream) :
    ∃ before after,
      events = before ++ .accept stream.serviceId stream.streamId (some stream.tunnel) :: after ∧
      (stream.closed = true → ∃ event ∈ after, event.Breaks index stream.streamId) ∧
      (stream.closed = false → consumer.streamQueues.get? stream.streamId = some index) := by
  have separate := Separate.run nodup ran
  obtain ⟨before, after, split, -, -, broken⟩ := separate.carried index stream here
  refine ⟨before, after, split, fun closed => broken (.inr (.inr (.inr closed))), fun opened => ?_⟩
  exact (separate.registered _ _).mpr ⟨stream, here, rfl, opened⟩

/-- The local client goes, and later a write to it fails. -/
theorem closed_connection_was_broken_example :
    ∃ events consumer stream, runFrom ConsumerStreams.step init events = some consumer ∧
      consumer.connections[0]? = some stream ∧ stream.closed = true ∧
      ∃ event ∈ events, event.Breaks 0 "first" := by
  let events : List LocalStreamEvent :=
    [.accept "web" "first" (some 0), .localEnds 0 false, .feedStreamData "first" (some [10]),
      .write 0, .peerEnds 0, .finishes 0]
  obtain ⟨consumer, stream, ran, here, id, closed⟩ : ∃ consumer stream,
      runFrom ConsumerStreams.step init events = some consumer ∧
        consumer.connections[0]? = some stream ∧ stream.streamId = "first" ∧
        stream.closed = true := ⟨_, _, rfl, rfl, rfl, rfl⟩
  obtain ⟨before, after, split, broken, -⟩ :=
    closed_connection_was_broken events consumer (by decide) ran 0 stream here
  obtain ⟨event, member, breaks⟩ := broken closed
  rw [id] at breaks
  refine ⟨events, consumer, stream, ran, here, closed, event, ?_, breaks⟩
  rw [split]
  exact List.mem_append_right _ (List.mem_cons_of_mem _ member)

end ConsumerStreams

end LocalNetwork
