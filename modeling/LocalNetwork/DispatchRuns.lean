/-
This file follows the run of one `_dispatch` when all socket sends succeed: the only way for
a send to fail is then that its message cannot be built. A message is built from its
dataclass by `make_message` and `build_message`, and that fails where the JSON text has no
encoding in UTF-8 or is too large for a message.

While the connection is inside `_dispatch` nothing changes but what it still has to do. So a
command that leaves only messages that can be built comes to the end of `_dispatch` without
an ERROR, and one that leaves a message that cannot be built is answered with an ERROR, if at
least that ERROR can be built.
-/

import LocalNetwork.Handling
import LocalNetwork.MessageTypes
import Mathlib.Data.Finset.Dedup

namespace LocalNetwork

/-! ### Building the messages of the server -/

/-- What the server writes its messages with: the JSON library, and the floating point number that
a clock reading is. -/
structure WireFormat where
  json : JsonText
  timestamp : Time → UInt64

/-- The dataclass of a message. -/
def ServerMessage.cls : ServerMessage → MessageClass
  | .authChallenge _ => MessageClass.authChallenge
  | .authResult .. => MessageClass.authResult
  | .error .. => MessageClass.errorMessage
  | .heartbeatAck _ => MessageClass.heartbeatAck
  | .networkCreated .. => MessageClass.networkCreated
  | .networkJoined .. => MessageClass.networkJoined
  | .networkLeft _ => MessageClass.networkLeft
  | .networkList _ => MessageClass.networkList
  | .peerEndpoints .. => MessageClass.peerEndpoints
  | .peerOnline .. => MessageClass.peerOnline
  | .peerOffline .. => MessageClass.peerOffline
  | .serviceAdded _ => MessageClass.serviceAdded
  | .serviceRemoved _ => MessageClass.serviceRemoved
  | .relayGranted .. => MessageClass.relayGranted
  | .relayFrame .. => MessageClass.relayFrame

def NetworkInfo.json (wire : WireFormat) (info : NetworkInfo) : Json :=
  .obj [("network_id", .str info.networkId), ("name", .str info.name),
    ("owner_id", .str info.ownerId), ("topology", .str info.topology.toString),
    ("member_count", .int info.memberCount), ("created_at", .float (wire.timestamp info.createdAt))]

/-- `ServiceRecord.to_dict`. -/
def ServiceRecord.toDict (wire : WireFormat) (service : ServiceRecord) : Json :=
  .obj [("service_id", .str service.serviceId), ("network_id", .str service.networkId),
    ("provider_id", .str service.providerId), ("name", .str service.name),
    ("protocol", .str service.protocol.toString), ("local_host", .str service.localHost),
    ("local_port", .int service.localPort),
    ("created_at", .float (wire.timestamp service.createdAt))]

/-- The keyword arguments that the server passes to `make_message`. -/
def ServerMessage.kwargs (wire : WireFormat) : ServerMessage → List (String × Json)
  | .authChallenge challenge =>
    [("challenge", .str challenge.challenge), ("client_id", .str challenge.clientId)]
  | .authResult ok message => [("ok", .bool ok), ("message", .str message)]
  | .error code message => [("code", .str code), ("message", .str message)]
  | .heartbeatAck ts => [("ts", ts)]
  | .networkCreated networkId name ownerId topology inviteCode =>
    [("network_id", .str networkId), ("name", .str name), ("owner_id", .str ownerId),
      ("topology", .str topology.toString), ("invite_code", .str inviteCode)]
  | .networkJoined networkId name => [("network_id", .str networkId), ("name", .str name)]
  | .networkLeft networkId => [("network_id", .str networkId)]
  | .networkList networks => [("networks", .arr (networks.map (NetworkInfo.json wire)))]
  | .peerEndpoints peerId endpoints =>
    [("peer_id", .str peerId),
      ("endpoints", .arr (endpoints.map fun (host, port) => .arr [.str host, .int port]))]
  | .peerOnline networkId peerId | .peerOffline networkId peerId =>
    [("network_id", .str networkId), ("peer_id", .str peerId)]
  | .serviceAdded service => [("service", service.toDict wire)]
  | .serviceRemoved serviceId => [("service_id", .str serviceId)]
  | .relayGranted peerId pathId => [("peer_id", .str peerId), ("path_id", .str pathId)]
  | .relayFrame srcId dstId frameB64 =>
    [("src_id", .str srcId), ("dst_id", .str dstId), ("frame_b64", .str frameB64)]

/-- `make_message`, with the dataclass and the arguments of the message. -/
def ServerMessage.make (wire : WireFormat) (sent : ServerMessage) : Option BuiltMessage :=
  makeMessage sent.cls (Dict.ofEntries (sent.kwargs wire))

/-- A class takes keyword arguments that are fields. -/
theorem MessageClass.construct_isSome {cls : MessageClass} {kwargs : Dict String Json}
    (known : ∀ key ∈ kwargs.keys, key ∈ cls.fieldNames) :
    (cls.construct kwargs).isSome = true := by
  rw [construct, if_pos (List.all_eq_true.mpr fun key member => decide_eq_true (known key member))]
  rfl

theorem makeMessage_isSome {cls : MessageClass} {entries : List (String × Json)}
    (known : ∀ key ∈ entries.map Prod.fst, key ∈ cls.fieldNames) :
    (makeMessage cls (Dict.ofEntries entries)).isSome = true := by
  have passed : ∀ key ∈ (Dict.ofEntries entries).keys, key ∈ cls.fieldNames := by
    intro key member
    obtain ⟨value, stored⟩ := Dict.mem_keys_iff.mp member
    rw [Dict.get?_ofEntries] at stored
    obtain ⟨entry, listed, -⟩ := List.mem_map.mp (List.mem_of_getLast? stored)
    obtain ⟨passed, same⟩ := List.mem_filter.mp listed
    exact of_decide_eq_true same ▸ known entry.1 (List.mem_map_of_mem passed)
  simp only [makeMessage, Option.isSome_map]
  split
  · exact MessageClass.construct_isSome passed
  · refine MessageClass.construct_isSome fun key member => ?_
    obtain ⟨value, stored⟩ := Dict.mem_keys_iff.mp member
    rw [Dict.get?_insert] at stored
    split at stored
    · rename_i same
      exact same ▸ List.mem_cons_self
    · exact passed key (Dict.mem_keys_iff.mpr ⟨value, stored⟩)

/-- The keyword arguments are fields of the dataclass of the message. -/
theorem ServerMessage.kwargs_known (wire : WireFormat) (sent : ServerMessage) :
    ∀ key ∈ (sent.kwargs wire).map Prod.fst, key ∈ sent.cls.fieldNames := by
  cases sent <;> exact of_decide_eq_true rfl

/-- The dataclasses take the arguments that the server passes. -/
theorem ServerMessage.make_isSome (wire : WireFormat) (sent : ServerMessage) :
    (sent.make wire).isSome = true :=
  makeMessage_isSome (sent.kwargs_known wire)

namespace WireFormat

variable (wire : WireFormat)

/-- `build_message` returns for a message. -/
def Builds (sent : ServerMessage) : Prop :=
  ∃ message bytes, sent.make wire = some message ∧
    serializeBuilt wire.json message = .ok bytes

/-- How `_send` ends when the socket takes everything: it raises only where the message cannot be
built. -/
def outcome (sent : ServerMessage) : WriteOutcome :=
  match (sent.make wire).map (serializeBuilt wire.json) with
  | some (.error failure) => .unwritten failure.text
  | _ => .sent

variable {wire} {sent : ServerMessage}

theorem builds_iff : wire.Builds sent ↔
    ((sent.make wire).any fun message => (serializeBuilt wire.json message).toBool) = true := by
  rw [Option.any_eq_true]
  refine exists_congr fun message => ⟨?_, ?_⟩
  · rintro ⟨bytes, made, built⟩
    exact ⟨made, by rw [built]; rfl⟩
  · rintro ⟨made, ok⟩
    cases built : serializeBuilt wire.json message with
    | error failure =>
      rw [built] at ok
      cases ok
    | ok bytes => exact ⟨bytes, made, rfl⟩

instance (wire : WireFormat) (sent : ServerMessage) : Decidable (wire.Builds sent) :=
  decidable_of_iff _ builds_iff.symm

theorem outcome_of_builds (builds : wire.Builds sent) : wire.outcome sent = .sent := by
  obtain ⟨message, bytes, made, built⟩ := builds
  simp only [outcome, made, Option.map_some, built]

theorem outcome_of_not_builds (unbuilt : ¬ wire.Builds sent) :
    ∃ text, wire.outcome sent = .unwritten text := by
  obtain ⟨message, made⟩ := Option.isSome_iff_exists.mp (ServerMessage.make_isSome wire sent)
  cases built : serializeBuilt wire.json message with
  | error failure => exact ⟨failure.text, by simp only [outcome, made, Option.map_some, built]⟩
  | ok bytes => exact absurd ⟨message, bytes, made, built⟩ unbuilt

end WireFormat

/-- The reply to an exception inside `_dispatch`. -/
def internalError (text : String) : ServerMessage := .error "INTERNAL" ("internal error: " ++ text)

/-! ### What an instruction sends -/

/-- A push that sends nothing itself: a loop over networks or members. -/
def Push.Loops : Push → Prop
  | .sendTo _ _ => False
  | _ => True

/-- An online member of a network, other than a client, has a writer. -/
def Reaches (writers : Dict String ConnId) (registry : ClientRegistry)
    (clientId networkId : String) : Prop :=
  ∃ record ∈ registry.membersInNetworks {networkId},
    record.clientId ≠ clientId ∧ (writers.get? record.clientId).isSome = true

namespace Server

variable (server : Server)

/-- The message that an instruction sends. A push to a client without a writer sends none, and the
loops over networks and members send none themselves. -/
def sentBy : Instr → Option ServerMessage
  | .reply message => some message
  | .push (.sendTo clientId message) => (server.writers.get? clientId).map fun _ => message
  | _ => none

/-- The messages that a push leads to. -/
def PushConveys : Push → ServerMessage → Prop
  | .sendTo clientId message, sent => sent = message ∧ (server.writers.get? clientId).isSome = true
  | .announcePeerOnline clientId, sent =>
    ∃ networkId ∈ server.registry.networksFor clientId,
      sent = .peerOnline networkId clientId ∧
        Reaches server.writers server.registry clientId networkId
  | .announcePeerOnlineIn clientId networkId, sent =>
    sent = .peerOnline networkId clientId ∧
      Reaches server.writers server.registry clientId networkId
  | .announcePeerOffline clientId networkId, sent =>
    sent = .peerOffline networkId clientId ∧
      Reaches server.writers server.registry clientId networkId
  | .broadcastService networkId message, sent =>
    sent = message ∧ ∃ record ∈ server.registry.membersInNetworks {networkId},
      (server.writers.get? record.clientId).isSome = true

/-- The messages that an instruction leads to. -/
def Conveys : Instr → ServerMessage → Prop
  | .reply message, sent => sent = message
  | .push push, sent => server.PushConveys push sent
  | _, _ => False

/-- What an instruction puts in its place when it does not raise. -/
def Continues (choice : Choice) : Instr → List Push → Prop
  | .push push, pushes => ∃ written, server.takePush choice push = some ⟨written, .ok pushes⟩
  | _, pushes => pushes = []

/-- The instruction that a connection takes next. -/
def nextInstr (id : ConnId) : Option Instr :=
  (server.connections.get? id).bind fun connection => connection.todo.head?

end Server

/-- All socket sends succeed: a send that a connection makes fails only where its message cannot be
built. -/
def SocketsSend (wire : WireFormat) (server : Server) : ServerEvent → Prop
  | .advance id choice => ∀ instr sent, server.nextInstr id = some instr →
    server.sentBy instr = some sent → choice.outcome = wire.outcome sent
  | _ => True

variable {wire : WireFormat} {packages : Packages} {start state next final : Server} {id : ConnId}
  {clientId : String} {choice : Choice} {instr : Instr} {rest todo : List Instr}

theorem conveys_of_sentBy {sent : ServerMessage} (sends : start.sentBy instr = some sent) :
    start.Conveys instr sent := by
  cases instr with
  | reply message => exact (Option.some.inj sends).symm
  | push push =>
    cases push with
    | sendTo target message =>
      obtain ⟨writer, stored, rfl⟩ := Option.map_eq_some_iff.mp sends
      exact ⟨rfl, Option.isSome_iff_exists.mpr ⟨writer, stored⟩⟩
    | announcePeerOnline target => cases sends
    | announcePeerOnlineIn target networkId => cases sends
    | announcePeerOffline target networkId => cases sends
    | broadcastService networkId message => cases sends
  | setClient client => cases sends
  | setAuthenticated ok => cases sends
  | endDispatch => cases sends
  | deliverRelayed client => cases sends
  | closeWriter => cases sends

theorem mem_otherMembers {member networkId : String} :
    member ∈ start.otherMembers clientId networkId ↔
      ∃ record ∈ start.registry.membersInNetworks {networkId},
        record.clientId = member ∧ member ≠ clientId := by
  rw [Server.otherMembers, List.mem_filter, List.mem_map, decide_eq_true_eq]
  constructor
  · rintro ⟨⟨record, listed, rfl⟩, other⟩
    exact ⟨record, listed, rfl, other⟩
  · rintro ⟨record, listed, rfl, other⟩
    exact ⟨⟨record, listed, rfl⟩, other⟩

/-- A send that does not raise puts nothing in its place. -/
theorem pushes_of_sendTo {target : String} {message : ServerMessage}
    {written : Option (ConnId × ServerMessage)} {pushes : List Push}
    (taken : start.takePush choice (.sendTo target message) = some ⟨written, .ok pushes⟩) :
    pushes = [] := by
  simp only [Server.takePush] at taken
  split at taken
  · exact (Except.ok.inj (PushResult.mk.inj (Option.some.inj taken)).2).symm
  · have ok := (PushResult.mk.inj (Option.some.inj taken)).2
    cases outcome : choice.outcome with
    | sent =>
      rw [outcome] at ok
      exact (Except.ok.inj ok).symm
    | lost text =>
      rw [outcome] at ok
      cases ok
    | unwritten text =>
      rw [outcome] at ok
      cases ok

/-- A loop leads to the messages that what it puts in its place leads to. -/
theorem conveys_iff_of_takePush {push : Push} {written : Option (ConnId × ServerMessage)}
    {pushes : List Push} (loops : push.Loops)
    (taken : start.takePush choice push = some ⟨written, .ok pushes⟩) (sent : ServerMessage) :
    start.PushConveys push sent ↔ ∃ other ∈ pushes, start.PushConveys other sent := by
  have toMembers (target networkId : String) (message : ServerMessage) :
      (sent = message ∧ Reaches start.writers start.registry target networkId) ↔
        ∃ other ∈ (start.otherMembers target networkId).map (fun member =>
          Push.sendTo member message), start.PushConveys other sent := by
    constructor
    · rintro ⟨rfl, record, listed, other, writer⟩
      exact ⟨_, List.mem_map_of_mem (mem_otherMembers.mpr ⟨record, listed, rfl, other⟩), rfl,
        writer⟩
    · rintro ⟨push, member, conveyed⟩
      obtain ⟨name, listed, rfl⟩ := List.mem_map.mp member
      obtain ⟨record, stored, rfl, other⟩ := mem_otherMembers.mp listed
      exact ⟨conveyed.1, record, stored, other, conveyed.2⟩
  cases push with
  | sendTo target message => exact loops.elim
  | announcePeerOnline target =>
    simp only [Server.takePush] at taken
    split at taken
    · rename_i visited
      obtain rfl := Except.ok.inj (PushResult.mk.inj (Option.some.inj taken)).2
      constructor
      · rintro ⟨networkId, member, conveyed⟩
        refine ⟨_, List.mem_map_of_mem ?_, conveyed⟩
        rw [← List.mem_toFinset, visited.2]
        exact member
      · rintro ⟨push, member, conveyed⟩
        obtain ⟨networkId, listed, rfl⟩ := List.mem_map.mp member
        refine ⟨networkId, ?_, conveyed⟩
        rw [← visited.2, List.mem_toFinset]
        exact listed
    · cases taken
  | announcePeerOnlineIn target networkId =>
    obtain rfl := Except.ok.inj (PushResult.mk.inj (Option.some.inj taken)).2
    exact toMembers target networkId _
  | announcePeerOffline target networkId =>
    obtain rfl := Except.ok.inj (PushResult.mk.inj (Option.some.inj taken)).2
    exact toMembers target networkId _
  | broadcastService networkId message =>
    obtain rfl := Except.ok.inj (PushResult.mk.inj (Option.some.inj taken)).2
    constructor
    · rintro ⟨rfl, record, listed, writer⟩
      exact ⟨_, List.mem_map_of_mem listed, rfl, writer⟩
    · rintro ⟨push, member, conveyed⟩
      obtain ⟨record, listed, rfl⟩ := List.mem_map.mp member
      exact ⟨conveyed.1, record, listed, conveyed.2⟩

/-! ### Inside `_dispatch` -/

/-- A connection is inside `_dispatch`, with its instructions up to the end of it; the shared state
is that in which the handler left it. -/
structure Inside (start : Server) (id : ConnId) (clientId : String) (todo : List Instr)
    (state : Server) : Prop where
  networks : state.networks = start.networks
  relay : state.relay = start.relay
  writers : state.writers = start.writers
  found : ∃ connection, state.connections.get? id = some connection ∧
    connection.phase = .reading ∧ connection.todo = todo ++ [.deliverRelayed clientId]

/-- A connection has left `_dispatch`: what follows it is no longer to come. -/
def HasLeft (id : ConnId) (state : Server) : Prop :=
  ∃ connection, state.connections.get? id = some connection ∧
    ∀ clientId, .deliverRelayed clientId ∉ connection.todo

/-- `_dispatch` has returned. -/
def Returned (id : ConnId) (clientId : String) (state : Server) : Prop :=
  ∃ connection, state.connections.get? id = some connection ∧
    connection.todo = [.deliverRelayed clientId]

def Instr.delivers (clientId : String) : Instr → Bool
  | .deliverRelayed other => decide (other = clientId)
  | _ => false

instance (id : ConnId) (clientId : String) (state : Server) :
    Decidable (Returned id clientId state) :=
  decidable_of_iff ((state.connections.get? id).any fun connection =>
      decide (connection.todo.length = 1) && connection.todo.all (Instr.delivers clientId)) <| by
    rw [Option.any_eq_true]
    refine exists_congr fun connection => and_congr_right fun _ => ?_
    rw [Bool.and_eq_true, decide_eq_true_eq]
    constructor
    · rintro ⟨length, delivers⟩
      obtain ⟨instr, single⟩ := List.length_eq_one_iff.mp length
      rw [single] at delivers ⊢
      have last := List.all_eq_true.mp delivers instr (List.mem_singleton_self _)
      cases instr with
      | deliverRelayed other => rw [of_decide_eq_true last]
      | _ => cases last
    · intro todo
      rw [todo]
      exact ⟨rfl, by simp [Instr.delivers]⟩

theorem Returned.not_hasLeft (returned : Returned id clientId state) : ¬ HasLeft id state := by
  rintro ⟨connection, found, left⟩
  obtain ⟨same, sameFound, todo⟩ := returned
  obtain rfl := Option.some.inj (found.symm.trans sameFound)
  exact left clientId (todo ▸ List.mem_singleton_self _)

theorem hasLeft_setConnection (server : Server) {connection : Connection}
    (left : ∀ clientId, .deliverRelayed clientId ∉ connection.todo) :
    HasLeft id (server.setConnection id connection) := by
  refine ⟨connection, ?_, left⟩
  rw [Server.get_setConnection, if_pos rfl]

/-- Whatever a coroutine does, what it has left behind does not come back before it reads again. -/
theorem HasLeft.advance (left : HasLeft id state)
    (stepped : state.step packages (.advance id choice) = some next) : HasLeft id next := by
  obtain ⟨connection, found, none⟩ := left
  cases step_cases stepped with
  | leave _ other actor leaves actorFound reading quiet =>
    obtain rfl := Option.some.inj leaves
    exact hasLeft_setConnection _ (by simp)
  | disconnect _ other actor commander order leaves actorFound reading registered authenticated
      visited =>
    obtain rfl := Option.some.inj leaves
    exact hasLeft_setConnection _ (by simp)
  | instr _ _ actor moved instr rest actorFound todo instrCase =>
    obtain rfl := Option.some.inj (found.symm.trans actorFound)
    rw [todo] at none
    have later : ∀ clientId, .deliverRelayed clientId ∉ rest := fun clientId member =>
      none clientId (List.mem_cons_of_mem _ member)
    refine hasLeft_setConnection _ ?_
    cases instrCase with
    | answered _ text after reading inside =>
      intro clientId member
      rcases List.mem_cons.mp member with same | kept
      · cases same
      · exact later clientId ((mem_afterDispatch inside).2 _ kept)
    | writerClosed => simp
    | abandoned instr left => simp
    | _ => simpa using later
  | deliver _ _ actor client rest actorFound todo =>
    obtain rfl := Option.some.inj (found.symm.trans actorFound)
    exact absurd (todo ▸ List.mem_cons_self) (none client)

/-- What the connection has left to do is all that changes. -/
theorem Inside.proceed (inside : Inside start id clientId todo state) {connection : Connection}
    (reading : connection.phase = .reading) (more : List Instr) :
    Inside start id clientId more (state.setConnection id
      { connection with todo := more ++ [.deliverRelayed clientId] }) := by
  refine ⟨inside.networks, inside.relay, inside.writers,
    { connection with todo := more ++ [.deliverRelayed clientId] }, ?_, reading, rfl⟩
  rw [Server.get_setConnection, if_pos rfl]

/-- A push sees the networks and the writers only. -/
theorem Inside.takePush_eq (inside : Inside start id clientId todo state) (push : Push) :
    state.takePush choice push = start.takePush choice push := by
  have registry : state.registry = start.registry :=
    congrArg NetworkManager.registry inside.networks
  cases push with
  | sendTo target message => simp only [Server.takePush, inside.writers]
  | announcePeerOnline target => simp only [Server.takePush]; rw [registry]
  | announcePeerOnlineIn target networkId =>
    simp only [Server.takePush, Server.otherMembers, registry]
  | announcePeerOffline target networkId =>
    simp only [Server.takePush, Server.otherMembers, registry]
  | broadcastService networkId message => simp only [Server.takePush, registry]

theorem Inside.sentBy_eq (inside : Inside start id clientId todo state) (instr : Instr) :
    state.sentBy instr = start.sentBy instr := by
  cases instr with
  | push push =>
    cases push with
    | sendTo target message => simp only [Server.sentBy, inside.writers]
    | _ => rfl
  | _ => rfl

/-- What follows the `try` block of `_dispatch` ends with what follows `_dispatch`. -/
theorem afterDispatch_deliver {after : List Instr}
    (ends : Server.afterDispatch (rest ++ [.deliverRelayed clientId]) = some after) :
    ∃ more, after = more ++ [.deliverRelayed clientId] ∧ ∀ instr ∈ more, instr ∈ rest := by
  induction rest with
  | nil => cases ends
  | cons first rest inductionHypothesis =>
    by_cases marker : first = .endDispatch
    · subst marker
      exact ⟨rest, (Option.some.inj ends).symm, fun instr member => List.mem_cons_of_mem _ member⟩
    · have later : Server.afterDispatch (rest ++ [.deliverRelayed clientId]) = some after := by
        cases first with
        | endDispatch => exact absurd rfl marker
        | _ => exact ends
      obtain ⟨more, split, kept⟩ := inductionHypothesis later
      exact ⟨more, split, fun instr member => List.mem_cons_of_mem _ (kept instr member)⟩

/-- What a step inside `_dispatch` does: it goes on with the rest, with what a loop puts in front of
it, or the message that it sends cannot be built; then the exception is answered, or leaves
`_dispatch`. -/
inductive DispatchStep (wire : WireFormat) (start : Server) (id : ConnId) (clientId : String)
    (choice : Choice) (instr : Instr) (rest : List Instr) (next : Server) : Prop
  | passed (pushes : List Push) (continues : start.Continues choice instr pushes)
    (built : ∀ sent, start.sentBy instr = some sent → wire.Builds sent)
    (inside : Inside start id clientId (pushes.map .push ++ rest) next)
  | answered (sent : ServerMessage) (text : String) (after : List Instr)
    (sends : start.sentBy instr = some sent) (failed : wire.outcome sent = .unwritten text)
    (kept : Server.afterDispatch (rest ++ [.deliverRelayed clientId]) =
      some (after ++ [.deliverRelayed clientId]))
    (inside : Inside start id clientId (.reply (internalError text) :: after) next)
  | left (sent : ServerMessage) (sends : start.sentBy instr = some sent)
    (unbuilt : ¬ wire.Builds sent)
    (uncaught : Server.afterDispatch (rest ++ [.deliverRelayed clientId]) = none)
    (left : HasLeft id next)

/-- A send whose message cannot be built is answered, or ends the coroutine's loop. -/
theorem Inside.unwind (inside : Inside start id clientId todo state) {connection : Connection}
    (reading : connection.phase = .reading) {text : String}
    (unwound : state.unwind id connection (rest ++ [.deliverRelayed clientId]) text choice =
      some next) :
    (∃ after, Server.afterDispatch (rest ++ [.deliverRelayed clientId]) =
        some (after ++ [.deliverRelayed clientId]) ∧
      Inside start id clientId (.reply (internalError text) :: after) next) ∨
    (Server.afterDispatch (rest ++ [.deliverRelayed clientId]) = none ∧ HasLeft id next) := by
  unfold Server.unwind at unwound
  split at unwound
  · split at unwound
    · rename_i after ends
      obtain ⟨more, rfl, -⟩ := afterDispatch_deliver ends
      obtain rfl := Option.some.inj unwound
      exact .inl ⟨more, ends, inside.proceed reading _⟩
    · rename_i uncaught
      refine .inr ⟨uncaught, ?_⟩
      unfold Server.leaveLoop at unwound
      split at unwound
      · split at unwound
        · obtain rfl := Option.some.inj unwound
          exact hasLeft_setConnection _ (by simp)
        · cases unwound
      · obtain rfl := Option.some.inj unwound
        exact hasLeft_setConnection _ (by simp)
  · rename_i phase other
    exact absurd reading other

/-- Every step inside `_dispatch` is one of the cases. -/
theorem Inside.step (inside : Inside start id clientId (instr :: rest) state)
    (inDispatch : instr.Sends ∨ instr = .endDispatch)
    (sends : SocketsSend wire state (.advance id choice))
    (stepped : state.step packages (.advance id choice) = some next) :
    DispatchStep wire start id clientId choice instr rest next := by
  obtain ⟨connection, found, reading, todo⟩ := inside.found
  rw [List.cons_append] at todo
  have outcome (sent : ServerMessage) (sentBy : start.sentBy instr = some sent) :
      choice.outcome = wire.outcome sent := by
    refine sends instr sent ?_ ((inside.sentBy_eq instr).trans sentBy)
    rw [Server.nextInstr, found, Option.bind_some, todo, List.head?_cons]
  simp only [Server.step, found, Option.bind_some, todo] at stepped
  -- A send goes through where its message can be built.
  have sending (sent : ServerMessage) (target : ConnId) (sentBy : start.sentBy instr = some sent)
      (continues : choice.outcome = .sent → start.Continues choice instr [])
      (continued : state.afterSend id connection (rest ++ [.deliverRelayed clientId]) choice
        (send target sent choice.outcome) = some next) :
      DispatchStep wire start id clientId choice instr rest next := by
    have same := outcome sent sentBy
    by_cases builds : wire.Builds sent
    · rw [WireFormat.outcome_of_builds builds] at same
      rw [same] at continued
      obtain rfl := Option.some.inj continued
      refine .passed [] (continues same) (fun other otherSent => ?_) (inside.proceed reading rest)
      rwa [← Option.some.inj (sentBy.symm.trans otherSent)]
    · obtain ⟨text, failed⟩ := WireFormat.outcome_of_not_builds builds
      rw [same, failed] at continued
      rcases inside.unwind reading continued with ⟨after, kept, answering⟩ | ⟨uncaught, left⟩
      · exact .answered sent text after sentBy failed kept answering
      · exact .left sent sentBy builds uncaught left
  cases instr with
  | reply message => exact sending message id rfl (fun _ => rfl) stepped
  | push push =>
    simp only [Server.takeInstr, Option.bind_eq_some_iff] at stepped
    obtain ⟨result, taken, continued⟩ := stepped
    rw [inside.takePush_eq] at taken
    have looping (loops : push.Loops) (pushes : List Push)
        (written : Option (ConnId × ServerMessage)) (ok : result = ⟨written, .ok pushes⟩) :
        DispatchStep wire start id clientId choice (.push push) rest next := by
      subst ok
      obtain rfl := Option.some.inj continued
      have proceeded := inside.proceed reading (pushes.map .push ++ rest)
      rw [List.append_assoc] at proceeded
      refine .passed pushes ⟨written, taken⟩ (fun sent sentBy => ?_) proceeded
      cases push with
      | sendTo target message => exact loops.elim
      | _ => cases sentBy
    cases push with
    | sendTo target message =>
      simp only [Server.takePush] at taken
      cases stored : start.writers.get? target with
      | none =>
        rw [stored] at taken
        obtain rfl := Option.some.inj taken
        obtain rfl := Option.some.inj continued
        refine .passed [] ⟨none, ?_⟩ (fun sent sentBy => ?_) (inside.proceed reading rest)
        · simp only [Server.takePush, stored]
        · rw [Server.sentBy, stored] at sentBy
          cases sentBy
      | some writer =>
        rw [stored] at taken
        obtain rfl := Option.some.inj taken
        refine sending message writer (by rw [Server.sentBy, stored]; rfl) (fun sent => ?_)
          continued
        exact ⟨some (writer, message), by simp only [Server.takePush, stored, sent]; rfl⟩
    | announcePeerOnline target =>
      simp only [Server.takePush] at taken
      split at taken
      · exact looping trivial _ _ (Option.some.inj taken).symm
      · cases taken
    | announcePeerOnlineIn target networkId =>
      exact looping trivial _ _ (Option.some.inj taken).symm
    | announcePeerOffline target networkId =>
      exact looping trivial _ _ (Option.some.inj taken).symm
    | broadcastService networkId message =>
      exact looping trivial _ _ (Option.some.inj taken).symm
  | endDispatch =>
    obtain rfl := Option.some.inj stepped
    exact .passed [] rfl (fun sent sentBy => by cases sentBy) (inside.proceed reading rest)
  | _ =>
    rcases inDispatch with sends | ends
    · exact sends.elim
    · cases ends

/-! ### A message that cannot be built -/

/-- An ERROR is written on a connection. -/
def WritesError (id : ConnId) (_ : List ServerEvent) (state : Server) (event : ServerEvent) :
    Prop :=
  ∃ code text, state.written event = some (id, .error code text)

/-- The connection can come to the end of `_dispatch` with all socket sends successful and an ERROR
written, while the shared state stays what the handler left. -/
def AnswersError (wire : WireFormat) (packages : Packages) (start : Server) (id : ConnId)
    (clientId : String) (state : Server) : Prop :=
  ∃ (choices : List Choice) (final : Server), HoldsAlong (Server.step packages) (SocketsSend wire)
      state (choices.map (.advance id)) ∧
    runFrom (Server.step packages) state (choices.map (.advance id)) = some final ∧
    final.networks = start.networks ∧ final.relay = start.relay ∧ Returned id clientId final ∧
    Happened (Server.step packages) state (WritesError id) (choices.map (.advance id))

theorem happened_cons {event : ServerEvent} {events : List ServerEvent}
    (stepped : state.step packages event = some next)
    (happened : Happened (Server.step packages) next (WritesError id) events) :
    Happened (Server.step packages) state (WritesError id) (event :: events) := by
  obtain ⟨before, now, after, reached, rfl, ran, written⟩ := happened
  exact ⟨event :: before, now, after, reached, rfl, runFrom_cons.mpr ⟨next, stepped, ran⟩, written⟩

theorem AnswersError.cons (sends : SocketsSend wire state (.advance id choice))
    (stepped : state.step packages (.advance id choice) = some next)
    (answers : AnswersError wire packages start id clientId next) :
    AnswersError wire packages start id clientId state := by
  obtain ⟨choices, final, along, ran, networks, relay, returned, happened⟩ := answers
  exact ⟨choice :: choices, final, (holdsAlong_cons stepped).mpr ⟨sends, along⟩,
    runFrom_cons.mpr ⟨next, stepped, ran⟩, networks, relay, returned,
    happened_cons stepped happened⟩

/-- An ERROR that can be built is written, and `_dispatch` returns. -/
theorem Inside.answersError {text : String} (builds : wire.Builds (internalError text))
    (inside : Inside start id clientId [.reply (internalError text)] state) :
    AnswersError wire packages start id clientId state := by
  obtain ⟨connection, found, reading, todo⟩ := inside.found
  rw [List.cons_append] at todo
  have stepped : state.step packages (.advance id (drawsNothing 0)) = some (state.setConnection id
      { connection with todo := [] ++ [.deliverRelayed clientId] }) := by
    simp only [Server.step, found, Option.bind_some, todo]
    rfl
  have proceeded := inside.proceed reading []
  obtain ⟨moved, movedFound, -, movedTodo⟩ := proceeded.found
  refine ⟨[drawsNothing 0], _, ⟨?_, fun _ _ => trivial⟩, runFrom_cons.mpr ⟨_, stepped, rfl⟩,
    proceeded.networks, proceeded.relay, ⟨moved, movedFound, movedTodo⟩,
    [], .advance id (drawsNothing 0), [], state, rfl, rfl, "INTERNAL", "internal error: " ++ text,
    ?_⟩
  · intro instr sent next sentBy
    rw [Server.nextInstr, found, Option.bind_some, todo, List.head?_cons] at next
    obtain rfl := Option.some.inj next
    obtain rfl := Option.some.inj sentBy
    exact (WireFormat.outcome_of_builds builds).symm
  · simp only [Server.written, found, Option.bind_some, todo]
    rfl

/-- Replies and pushes before the end of the `try` block are dropped by an exception. -/
theorem afterDispatch_sends {tail : List Instr} (allSend : ∀ instr ∈ todo, instr.Sends) :
    Server.afterDispatch (todo ++ .endDispatch :: tail) = some tail := by
  induction todo with
  | nil => rfl
  | cons first rest inductionHypothesis =>
    have later := inductionHypothesis fun other member =>
      allSend other (List.mem_cons_of_mem _ member)
    have sends := allSend first List.mem_cons_self
    cases first with
    | reply message => exact later
    | push push => exact later
    | _ => exact sends.elim

/-- A reply or a push inside the `try` block of `_dispatch` can be taken, with a choice under which
its socket sends succeed. -/
theorem Inside.can_step (packages : Packages) (wire : WireFormat)
    (inside : Inside start id clientId (instr :: rest) state) (sends : instr.Sends)
    (caught : ∃ after, Server.afterDispatch (rest ++ [.deliverRelayed clientId]) = some after) :
    ∃ choice next, SocketsSend wire state (.advance id choice) ∧
      state.step packages (.advance id choice) = some next := by
  obtain ⟨connection, found, reading, todo⟩ := inside.found
  rw [List.cons_append] at todo
  obtain ⟨after, caught⟩ := caught
  have goesOn (choice : Choice) (result : PushResult) :
      ∃ next, state.afterSend id connection (rest ++ [.deliverRelayed clientId]) choice result =
        some next := by
    unfold Server.afterSend
    split
    · exact ⟨_, rfl⟩
    · unfold Server.unwind
      rw [reading, caught]
      exact ⟨_, rfl⟩
  have head : state.nextInstr id = some instr := by
    rw [Server.nextInstr, found, Option.bind_some, todo, List.head?_cons]
  have taking (choice : Choice) (result : PushResult)
      (outcome : ∀ sent, state.sentBy instr = some sent → choice.outcome = wire.outcome sent)
      (taken : state.takeInstr id connection instr (rest ++ [.deliverRelayed clientId]) choice =
        state.afterSend id connection (rest ++ [.deliverRelayed clientId]) choice result) :
      ∃ choice next, SocketsSend wire state (.advance id choice) ∧
        state.step packages (.advance id choice) = some next := by
    obtain ⟨next, continued⟩ := goesOn choice result
    refine ⟨choice, next, fun other sent otherHead sentBy => ?_, ?_⟩
    · obtain rfl := Option.some.inj (head.symm.trans otherHead)
      exact outcome sent sentBy
    · simp only [Server.step, found, Option.bind_some, todo]
      exact taken.trans continued
  have pushing {push : Push} (same : instr = .push push) (choice : Choice) (result : PushResult)
      (outcome : ∀ sent, state.sentBy instr = some sent → choice.outcome = wire.outcome sent)
      (taken : state.takePush choice push = some result) :
      ∃ choice next, SocketsSend wire state (.advance id choice) ∧
        state.step packages (.advance id choice) = some next := by
    refine taking choice result outcome ?_
    rw [same]
    simp only [Server.takeInstr, taken, Option.bind_some]
  cases instr with
  | reply message =>
    refine taking { drawsNothing 0 with outcome := wire.outcome message } _ ?_ rfl
    intro sent sentBy
    obtain rfl := Option.some.inj sentBy
    rfl
  | push push =>
    cases push with
    | sendTo target message =>
      have outcome (sent : ServerMessage)
          (sentBy : state.sentBy (.push (.sendTo target message)) = some sent) :
          wire.outcome message = wire.outcome sent := by
        obtain ⟨writer, -, rfl⟩ := Option.map_eq_some_iff.mp sentBy
        rfl
      cases stored : state.writers.get? target with
      | none =>
        exact pushing rfl { drawsNothing 0 with outcome := wire.outcome message } ⟨none, .ok []⟩
          outcome (by simp only [Server.takePush, stored])
      | some writer =>
        exact pushing rfl { drawsNothing 0 with outcome := wire.outcome message }
          (send writer message (wire.outcome message)) outcome
          (by simp only [Server.takePush, stored])
    | announcePeerOnline target =>
      have visited : Server.Enumerates (state.registry.networksFor target).toList
          (state.registry.networksFor target) := ⟨Finset.nodup_toList _, Finset.toList_toFinset _⟩
      exact pushing rfl { drawsNothing 0 with order := (state.registry.networksFor target).toList }
        _ (fun _ sentBy => by cases sentBy) (if_pos visited)
    | _ => exact pushing rfl (drawsNothing 0) _ (fun _ sentBy => by cases sentBy) rfl
  | _ => exact sends.elim

section Answered

variable (wire packages start id clientId)

/-- From every state inside `_dispatch` that has these instructions before the end of the `try`
block, the connection can come to an answer with an ERROR. -/
def Answered (todo : List Instr) : Prop :=
  ∀ state, Inside start id clientId (todo ++ [.endDispatch]) state →
    AnswersError wire packages start id clientId state

/-- One of the messages that an instruction leads to cannot be built. -/
def Unbuilt (instr : Instr) : Prop := ∃ sent, start.Conveys instr sent ∧ ¬ wire.Builds sent

/-- An ERROR can be built that says why a message could not be. -/
def FailuresReported (conveyed : ServerMessage → Prop) : Prop :=
  ∀ sent text, conveyed sent → wire.outcome sent = .unwritten text →
    wire.Builds (internalError text)

/-- An instruction leads to an answer with an ERROR if the rest does, or one of its own messages
cannot be built. -/
def LeadsOn (conveyed : ServerMessage → Prop) (instr : Instr) : Prop :=
  ∀ rest, (∀ other ∈ rest, other.Sends) → (∀ sent, start.Conveys instr sent → conveyed sent) →
    Answered wire packages start id clientId rest ∨ Unbuilt wire start instr →
    Answered wire packages start id clientId (instr :: rest)

end Answered

variable {conveyed : ServerMessage → Prop} {push : Push}

/-- An instruction leads on if it does when it goes on without raising. -/
theorem leadsOn_of_later (reported : FailuresReported wire conveyed) (sends : instr.Sends)
    (later : ∀ choice pushes rest, (∀ other ∈ rest, other.Sends) →
      (∀ sent, start.Conveys instr sent → conveyed sent) →
      start.Continues choice instr pushes →
      (∀ sent, start.sentBy instr = some sent → wire.Builds sent) →
      Answered wire packages start id clientId rest ∨ Unbuilt wire start instr →
      Answered wire packages start id clientId (pushes.map .push ++ rest)) :
    LeadsOn wire packages start id clientId conveyed instr := by
  intro rest allSend known either state inside
  have caught : Server.afterDispatch ((rest ++ [.endDispatch]) ++ [.deliverRelayed clientId]) =
      some [.deliverRelayed clientId] := by
    rw [List.append_assoc]
    exact afterDispatch_sends allSend
  obtain ⟨choice, next, socketsSend, stepped⟩ := Inside.can_step packages wire inside sends
    ⟨_, caught⟩
  refine AnswersError.cons socketsSend stepped ?_
  cases Inside.step inside (.inl sends) socketsSend stepped with
  | passed pushes continues built insideNext =>
    refine later choice pushes rest allSend known continues built either next ?_
    rw [List.append_assoc]
    exact insideNext
  | answered sent text after sentBy failed kept answering =>
    have same := Option.some.inj (caught.symm.trans kept)
    obtain rfl : after = [] := by simpa using same
    exact answering.answersError (reported sent text (known sent (conveys_of_sentBy sentBy)) failed)
  | left sent sentBy unbuilt uncaught left =>
    cases caught.symm.trans uncaught

theorem leadsOn_reply (reported : FailuresReported wire conveyed) (message : ServerMessage) :
    LeadsOn wire packages start id clientId conveyed (.reply message) := by
  refine leadsOn_of_later reported trivial
    fun choice pushes rest allSend known continues built either => ?_
  obtain rfl : pushes = [] := continues
  refine either.resolve_right ?_
  rintro ⟨sent, rfl, unbuilt⟩
  exact unbuilt (built sent rfl)

theorem leadsOn_sendTo (reported : FailuresReported wire conveyed) (target : String)
    (message : ServerMessage) :
    LeadsOn wire packages start id clientId conveyed (.push (.sendTo target message)) := by
  refine leadsOn_of_later reported trivial
    fun choice pushes rest allSend known continues built either => ?_
  obtain ⟨written, taken⟩ := continues
  obtain rfl := pushes_of_sendTo taken
  refine either.resolve_right ?_
  rintro ⟨sent, ⟨rfl, writer⟩, unbuilt⟩
  obtain ⟨writer, stored⟩ := Option.isSome_iff_exists.mp writer
  exact unbuilt (built sent (by rw [Server.sentBy, stored]; rfl))

/-- Instructions that each lead on lead on together. -/
theorem answered_append {instrs : List Instr} (sends : ∀ instr ∈ instrs, instr.Sends)
    (each : ∀ instr ∈ instrs, LeadsOn wire packages start id clientId conveyed instr)
    (known : ∀ instr ∈ instrs, ∀ sent, start.Conveys instr sent → conveyed sent)
    (allSend : ∀ other ∈ rest, other.Sends)
    (either : Answered wire packages start id clientId rest ∨
      ∃ instr ∈ instrs, Unbuilt wire start instr) :
    Answered wire packages start id clientId (instrs ++ rest) := by
  induction instrs with
  | nil =>
    refine either.resolve_right ?_
    rintro ⟨instr, member, -⟩
    cases member
  | cons first more inductionHypothesis =>
    refine each first List.mem_cons_self (more ++ rest) (fun other member => ?_)
      (known first List.mem_cons_self) ?_
    · rcases List.mem_append.mp member with own | later
      · exact sends other (List.mem_cons_of_mem _ own)
      · exact allSend other later
    · by_cases here : Unbuilt wire start first
      · exact .inr here
      · refine .inl (inductionHypothesis
          (fun other member => sends other (List.mem_cons_of_mem _ member))
          (fun other member => each other (List.mem_cons_of_mem _ member))
          (fun other member => known other (List.mem_cons_of_mem _ member)) ?_)
        rcases either with answered | ⟨instr, member, unbuilt⟩
        · exact .inl answered
        · rcases List.mem_cons.mp member with rfl | later
          · exact absurd unbuilt here
          · exact .inr ⟨instr, later, unbuilt⟩

/-- A loop leads on if each push that it puts in its place does. -/
theorem leadsOn_loop (reported : FailuresReported wire conveyed) (loops : push.Loops)
    (each : ∀ choice written pushes, start.takePush choice push = some ⟨written, .ok pushes⟩ →
      ∀ other ∈ pushes, LeadsOn wire packages start id clientId conveyed (.push other)) :
    LeadsOn wire packages start id clientId conveyed (.push push) := by
  refine leadsOn_of_later reported trivial
    fun choice pushes rest allSend known continues built either => ?_
  obtain ⟨written, taken⟩ := continues
  have same := conveys_iff_of_takePush loops taken
  have leads : ∀ instr ∈ pushes.map Instr.push,
      LeadsOn wire packages start id clientId conveyed instr := by
    intro instr member
    obtain ⟨other, listed, rfl⟩ := List.mem_map.mp member
    exact each choice written pushes taken other listed
  refine answered_append (fun instr member => ?_) leads (fun instr member sent conveys => ?_)
    allSend ?_
  · obtain ⟨other, listed, rfl⟩ := List.mem_map.mp member
    exact trivial
  · obtain ⟨other, listed, rfl⟩ := List.mem_map.mp member
    exact known sent ((same sent).mpr ⟨other, listed, conveys⟩)
  · rcases either with answered | ⟨sent, conveys, unbuilt⟩
    · exact .inl answered
    · obtain ⟨other, listed, otherConveys⟩ := (same sent).mp conveys
      exact .inr ⟨.push other, List.mem_map_of_mem listed, sent, otherConveys, unbuilt⟩

/-- A loop that sends one message to each of several members leads on. -/
theorem leadsOn_members {α : Type} {members : List α} {target : α → String}
    {message : ServerMessage} (reported : FailuresReported wire conveyed) (loops : push.Loops)
    (sends : ∀ choice, start.takePush choice push =
      some ⟨none, .ok (members.map fun member => .sendTo (target member) message)⟩) :
    LeadsOn wire packages start id clientId conveyed (.push push) := by
  refine leadsOn_loop reported loops fun choice written pushes taken other listed => ?_
  have same := (sends choice).symm.trans taken
  obtain rfl := Except.ok.inj (PushResult.mk.inj (Option.some.inj same)).2
  obtain ⟨member, -, rfl⟩ := List.mem_map.mp listed
  exact leadsOn_sendTo reported (target member) message

/-- Every reply and every push leads on. -/
theorem leadsOn (reported : FailuresReported wire conveyed) (sends : instr.Sends) :
    LeadsOn wire packages start id clientId conveyed instr := by
  have onlineIn (target networkId : String) : LeadsOn wire packages start id clientId conveyed
      (.push (.announcePeerOnlineIn target networkId)) :=
    leadsOn_members reported trivial fun _ => rfl
  cases instr with
  | reply message => exact leadsOn_reply reported message
  | push push =>
    cases push with
    | sendTo target message => exact leadsOn_sendTo reported target message
    | announcePeerOnline target =>
      refine leadsOn_loop reported trivial fun choice written pushes taken other member => ?_
      simp only [Server.takePush] at taken
      split at taken
      · obtain rfl := Except.ok.inj (PushResult.mk.inj (Option.some.inj taken)).2
        obtain ⟨networkId, -, rfl⟩ := List.mem_map.mp member
        exact onlineIn target networkId
      · cases taken
    | announcePeerOnlineIn target networkId => exact onlineIn target networkId
    | announcePeerOffline target networkId => exact leadsOn_members reported trivial fun _ => rfl
    | broadcastService networkId message => exact leadsOn_members reported trivial fun _ => rfl
  | _ => exact sends.elim

/-- Of the messages that a handler leaves to be sent one cannot be built: the command can be
answered with an ERROR. -/
theorem answered_of_unbuilt {instrs : List Instr} (reported : FailuresReported wire conveyed)
    (sends : ∀ instr ∈ instrs, instr.Sends)
    (known : ∀ instr ∈ instrs, ∀ sent, start.Conveys instr sent → conveyed sent)
    (unbuilt : ∃ instr ∈ instrs, Unbuilt wire start instr) :
    Answered wire packages start id clientId instrs := by
  have answered : Answered wire packages start id clientId (instrs ++ []) :=
    answered_append sends (fun instr member => leadsOn reported (sends instr member)) known nofun
      (.inr unbuilt)
  rwa [List.append_nil] at answered

/-! ### Only messages that can be built -/

def ServerMessage.isError : ServerMessage → Bool
  | .error .. => true
  | _ => false

/-- An instruction before the end of the `try` block, or that end. -/
def InDispatch (instr : Instr) : Prop := instr.Sends ∨ instr = .endDispatch

/-- An instruction leads to messages that can be built, and to no ERROR. -/
def LeadsToNoError (wire : WireFormat) (start : Server) (instr : Instr) : Prop :=
  InDispatch instr ∧ ∀ sent, start.Conveys instr sent → wire.Builds sent ∧ sent.isError = false

/-- A connection is inside `_dispatch` with such instructions, or it has left. -/
def InsideOrLeft (start : Server) (id : ConnId) (clientId : String) (such : Instr → Prop)
    (state : Server) : Prop :=
  (∃ todo, Inside start id clientId todo state ∧ ∀ instr ∈ todo, such instr) ∨ HasLeft id state

/-- A kind of instructions inside `_dispatch` that steps keep: a loop puts such instructions in its
place, and so is the reply to an exception, where there is one. -/
structure KeptInside (wire : WireFormat) (start : Server) (such : Instr → Prop) : Prop where
  inDispatch : ∀ instr, such instr → InDispatch instr
  loop : ∀ choice instr pushes, such instr → start.Continues choice instr pushes →
    ∀ push ∈ pushes, such (.push push)
  answer : ∀ instr sent text, such instr → start.sentBy instr = some sent →
    wire.outcome sent = .unwritten text → such (.reply (internalError text))

variable {such : Instr → Prop} {choices : List Choice}

theorem InsideOrLeft.step (kept : KeptInside wire start such)
    (invariant : InsideOrLeft start id clientId such state)
    (sends : SocketsSend wire state (.advance id choice))
    (stepped : state.step packages (.advance id choice) = some next) :
    InsideOrLeft start id clientId such next := by
  rcases invariant with ⟨todo, inside, fine⟩ | left
  · cases todo with
    | nil =>
      obtain ⟨connection, found, -, todo⟩ := inside.found
      simp only [Server.step, found, Option.bind_some, todo, List.nil_append] at stepped
      obtain rfl := Option.some.inj stepped
      exact .inr (hasLeft_setConnection _ (by simp [Server.relayReplies]))
    | cons instr rest =>
      have here := fine instr List.mem_cons_self
      have later : ∀ other ∈ rest, such other := fun other member =>
        fine other (List.mem_cons_of_mem _ member)
      cases inside.step (kept.inDispatch instr here) sends stepped with
      | passed pushes continues built insideNext =>
        refine .inl ⟨_, insideNext, fun other member => ?_⟩
        rcases List.mem_append.mp member with added | old
        · obtain ⟨push, listed, rfl⟩ := List.mem_map.mp added
          exact kept.loop choice instr pushes here continues push listed
        · exact later other old
      | answered sent text after sentBy failed caught insideNext =>
        obtain ⟨more, same, inRest⟩ := afterDispatch_deliver caught
        obtain rfl := List.append_cancel_right same
        refine .inl ⟨_, insideNext, fun other member => ?_⟩
        rcases List.mem_cons.mp member with rfl | old
        · exact kept.answer instr sent text here sentBy failed
        · exact later other (inRest other old)
      | left sent sentBy unbuilt uncaught left => exact .inr left
  · exact .inr (left.advance stepped)

/-- The invariant rule for the instructions of a connection when all its socket sends succeed. -/
theorem InsideOrLeft.run (kept : KeptInside wire start such)
    (invariant : InsideOrLeft start id clientId such state)
    (along : HoldsAlong (Server.step packages) (SocketsSend wire) state
      (choices.map (.advance id)))
    (ran : runFrom (Server.step packages) state (choices.map (.advance id)) = some final) :
    InsideOrLeft start id clientId such final := by
  have own : HoldsAlong (Server.step packages) (fun _ event => ∃ choice, event = .advance id choice)
      state (choices.map (.advance id)) := by
    refine holdsAlong_of_forall (fun event member _ => ?_) state
    obtain ⟨taken, -, rfl⟩ := List.mem_map.mp member
    exact ⟨taken, rfl⟩
  refine run_invariant (fun before event after met holds stepped => ?_) invariant
    (holdsAlong_and along own) ran
  obtain ⟨sends, taken, rfl⟩ := met
  exact holds.step kept sends stepped

theorem HasLeft.run (left : HasLeft id state)
    (ran : runFrom (Server.step packages) state (choices.map (.advance id)) = some final) :
    HasLeft id final :=
  advances_invariant (fun _ _ _ _ left stepped => left.advance stepped) left ran

theorem keptInside_inDispatch : KeptInside wire start InDispatch where
  inDispatch _ inDispatch := inDispatch
  loop _ _ _ _ _ _ _ := .inl trivial
  answer _ _ _ _ _ _ := .inl trivial

theorem keptInside_leadsToNoError : KeptInside wire start (LeadsToNoError wire start) where
  inDispatch _ fine := fine.1
  loop choice instr pushes fine continues push member := by
    refine ⟨.inl trivial, fun sent conveys => fine.2 sent ?_⟩
    cases instr with
    | push parent =>
      obtain ⟨written, taken⟩ := continues
      cases parent with
      | sendTo target message =>
        obtain rfl := pushes_of_sendTo taken
        cases member
      | _ => exact (conveys_iff_of_takePush (by trivial) taken sent).mpr ⟨push, member, conveys⟩
    | _ =>
      obtain rfl : pushes = [] := continues
      cases member
  answer instr sent text fine sentBy failed := by
    have builds := (fine.2 sent (conveys_of_sentBy sentBy)).1
    cases (WireFormat.outcome_of_builds builds).symm.trans failed

/-- At the end of `_dispatch` the shared state is what the handler left. -/
theorem Inside.unchanged (inside : Inside start id clientId todo state)
    (inDispatch : ∀ instr ∈ todo, InDispatch instr)
    (along : HoldsAlong (Server.step packages) (SocketsSend wire) state
      (choices.map (.advance id)))
    (ran : runFrom (Server.step packages) state (choices.map (.advance id)) = some final)
    (returned : Returned id clientId final) :
    final.networks = start.networks ∧ final.relay = start.relay := by
  rcases InsideOrLeft.run keptInside_inDispatch (.inl ⟨todo, inside, inDispatch⟩) along ran with
    ⟨last, insideFinal, -⟩ | left
  · exact ⟨insideFinal.networks, insideFinal.relay⟩
  · exact absurd left returned.not_hasLeft

/-- A command that leaves only messages that can be built, and no ERROR, is not answered with
one. -/
theorem Inside.not_answered (inside : Inside start id clientId todo state)
    (fine : ∀ instr ∈ todo, LeadsToNoError wire start instr)
    (along : HoldsAlong (Server.step packages) (SocketsSend wire) state
      (choices.map (.advance id)))
    (ran : runFrom (Server.step packages) state (choices.map (.advance id)) = some final)
    (returned : Returned id clientId final) :
    ¬ Happened (Server.step packages) state (WritesError id) (choices.map (.advance id)) := by
  rintro ⟨before, event, after, reached, split, ranBefore, code, text, written⟩
  obtain ⟨early, more, rfl, rfl, later⟩ := List.map_eq_append_iff.mp split
  obtain ⟨now, late, rfl, rfl, rfl⟩ := List.map_eq_cons_iff.mp later
  rw [split] at along ran
  obtain ⟨middle, ranEarly, ranLate⟩ := runFrom_append.mp ran
  obtain rfl := Option.some.inj (ranBefore.symm.trans ranEarly)
  rcases InsideOrLeft.run keptInside_leadsToNoError (.inl ⟨todo, inside, fine⟩)
    (holdsAlong_append along ranEarly).1 ranEarly with ⟨left, insideNow, fineNow⟩ | left
  · obtain ⟨connection, instr, rest, found, todoNow, sends⟩ := written_taken rfl written
    obtain ⟨same, sameFound, -, sameTodo⟩ := insideNow.found
    obtain rfl := Option.some.inj (found.symm.trans sameFound)
    rw [todoNow] at sameTodo
    have conveys : start.Conveys instr (.error code text) := by
      rcases sends with ⟨rfl, -⟩ | ⟨member, rfl, -, writer⟩
      · exact rfl
      · exact ⟨rfl, Option.isSome_iff_exists.mpr ⟨id, insideNow.writers ▸ writer⟩⟩
    cases left with
    | nil =>
      obtain ⟨rfl, -⟩ := List.cons.inj sameTodo
      exact conveys
    | cons first others =>
      obtain ⟨rfl, -⟩ := List.cons.inj sameTodo
      cases ((fineNow instr List.mem_cons_self).2 _ conveys).2
  · have ranOn : runFrom (Server.step packages) reached
        ((now :: late).map (.advance id)) = some final := ranLate
    exact returned.not_hasLeft (left.run ranOn)

end LocalNetwork
