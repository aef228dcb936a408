/-
This file models the connection handling of `server/main.py`: the coroutine of each
connection with its local variables, the handlers of the commands, the announcements to
other members of a network, the teardown of a connection, and the two background loops.

A handler changes the shared state in one go and leaves the sends it still has to await.
Each connection therefore carries a list of instructions, the rest of its coroutine until
the next read; a step of the server takes one instruction of one task, or lets a task that
waits for input receive some. Switching between any two instructions is allowed, where the
source switches only at a drain that suspends, so every interleaving of the source is one
of the model. What the environment decides (clock readings, random draws, the iteration
order of a set, whether a send raises) is an argument of each step.
-/

import LocalNetwork.Protocol
import LocalNetwork.Relay
import Mathlib.Data.Finset.Dedup

namespace LocalNetwork

/-! ### State -/

/-- Sends to other clients, and the loops over members that produce them. -/
inductive Push where
  | sendTo (clientId : String) (message : ServerMessage)
  | announcePeerOnline (clientId : String)
  | announcePeerOnlineIn (clientId networkId : String)
  | announcePeerOffline (clientId networkId : String)
  | broadcastService (networkId : String) (message : ServerMessage)

/-- What is left to do in the coroutine of a connection before it reads again. -/
inductive Instr where
  /-- Send on the connection's own writer. -/
  | reply (message : ServerMessage)
  | push (push : Push)
  /-- `client_id = ...; registered = client_id is not None` -/
  | setClient (clientId : Option String)
  /-- `authenticated = ...` -/
  | setAuthenticated (ok : Bool)
  /-- The end of the `try` block of `_dispatch`. -/
  | endDispatch
  | deliverRelayed (clientId : String)
  /-- The end of the `finally` block. -/
  | closeWriter

/-- What is left to do in the current round of the prune loop. -/
inductive PruneInstr where
  | disconnect (clientId : String)
  | push (push : Push)

/-- A coroutine is in its loop, in its `finally` block, or has ended. -/
inductive Phase where
  | reading
  | closing
  | ended
  deriving DecidableEq, Repr

/-- One connection: its peer, the local variables of its coroutine, and whether its writer was
closed. -/
structure Connection where
  peer : Addr
  clientId : Option String
  authenticated : Bool
  phase : Phase
  closed : Bool
  todo : List Instr

/-- The local variable `registered`, which is assigned together with the client id. -/
def Connection.registered (connection : Connection) : Bool := connection.clientId.isSome

abbrev ConnId := Nat

structure Server where
  maxClients : Nat
  heartbeatTimeout : Time
  networks : NetworkManager
  auth : AuthSession
  relay : RelayForwarder
  writers : Dict String ConnId
  authenticated : Dict String Bool
  connections : Dict ConnId Connection
  /-- The rest of the round of the prune loop; none once the loop has died. -/
  pruneLoop : Option (List PruneInstr)

/-- The outcome of a send: written and drained, written with an exception from the drain, or an
exception before anything was written. -/
inductive WriteOutcome where
  | sent
  | lost (text : String)
  | unwritten (text : String)

/-- What the environment decides in one step. -/
structure Choice where
  now : Time
  nonce : Bytes
  uuid : String
  salt : Bytes
  draws : Nat → String
  suffix : String
  order : List String
  outcome : WriteOutcome

/-- The packages the server relies on. -/
structure Packages where
  bcrypt : Bcrypt
  scheme : SignatureScheme
  text : PyText

namespace Server

def registry (server : Server) : ClientRegistry := server.networks.registry

def setConnection (server : Server) (id : ConnId) (connection : Connection) : Server :=
  { server with connections := server.connections.insert id connection }

/-- Close a writer; the coroutine that owns it goes on until it notices. -/
def closeWriter (server : Server) (id : ConnId) : Server :=
  { server with connections := server.connections.modify id fun connection =>
      { connection with closed := true } }

/-- Give the coroutine of a connection something to do. -/
def withTodo (server : Server) (id : ConnId) (todo : List Instr) : Server :=
  { server with connections := server.connections.modify id fun connection =>
      { connection with todo := todo } }

/-- A list names every element of a set once. -/
def Enumerates (order : List String) (names : Finset String) : Prop :=
  order.Nodup ∧ order.toFinset = names

instance (order : List String) (names : Finset String) : Decidable (Enumerates order names) :=
  inferInstanceAs (Decidable (_ ∧ _))

end Server

/-! ### Sends -/

/-- What taking one push does: the message it writes, and the pushes that take its place or the
text of the exception it raises. -/
structure PushResult where
  written : Option (ConnId × ServerMessage)
  next : Except String (List Push)

/-- `_send` on a writer. -/
def send (id : ConnId) (message : ServerMessage) : WriteOutcome → PushResult
  | .sent => ⟨some (id, message), .ok []⟩
  | .lost text => ⟨some (id, message), .error text⟩
  | .unwritten text => ⟨none, .error text⟩

/-- The online members of a network other than a client. -/
def Server.otherMembers (server : Server) (clientId networkId : String) : List String :=
  ((server.registry.membersInNetworks {networkId}).map ClientRecord.clientId).filter
    fun member => decide (member ≠ clientId)

/-- Take one push. A member without a writer is passed over; the networks of a client are a set
and are visited in some order. -/
def Server.takePush (server : Server) (choice : Choice) : Push → Option PushResult
  | .sendTo clientId message =>
    match server.writers.get? clientId with
    | none => some ⟨none, .ok []⟩
    | some id => some (send id message choice.outcome)
  | .announcePeerOnline clientId =>
    if Server.Enumerates choice.order (server.registry.networksFor clientId) then
      some ⟨none, .ok (choice.order.map fun networkId => .announcePeerOnlineIn clientId networkId)⟩
    else none
  | .announcePeerOnlineIn clientId networkId =>
    some ⟨none, .ok ((server.otherMembers clientId networkId).map fun member =>
      .sendTo member (.peerOnline networkId clientId))⟩
  | .announcePeerOffline clientId networkId =>
    some ⟨none, .ok ((server.otherMembers clientId networkId).map fun member =>
      .sendTo member (.peerOffline networkId clientId))⟩
  | .broadcastService networkId message =>
    some ⟨none, .ok ((server.registry.membersInNetworks {networkId}).map fun member =>
      .sendTo member.clientId message)⟩

/-! ### Registration and authentication -/

/-- The state after an accepted REGISTER: the key is stored, an older connection of the client is
closed, the client is online at this connection's address, and a challenge is pending. -/
def Server.register (server : Server) (id : ConnId) (peer : Addr) (clientId publicKey : String)
    (choice : Choice) : AuthChallenge × Server :=
  let replaced :=
    match server.writers.get? clientId with
    | none => server
    | some old => if old = id then server else server.closeWriter old
  let registry := ((server.registry.register clientId publicKey choice.now).updateEndpoint
    clientId peer).setOnline clientId choice.now
  let (challenge, auth) := server.auth.issue clientId choice.nonce choice.now
  (challenge, { replaced with
    networks := { server.networks with registry := registry.2 }
    writers := server.writers.insert clientId id
    authenticated := server.authenticated.insert clientId false
    auth := auth })

/-- Whether a REGISTER is accepted, for which client and with which key, or the error that answers
it. -/
def Server.checkRegister (packages : Packages) (server : Server) (payload : Dict String Json) :
    Except ServerMessage (String × String) :=
  match validateRegister packages.text payload with
  | .error exception => .error (.error "INVALID_REGISTER" exception.text)
  | .ok (clientId, publicKey) =>
    if server.maxClients ≤ server.writers.size ∧ !server.writers.contains clientId then
      .error (.error "SERVER_FULL" "server is at capacity")
    else if server.registry.isBanned clientId then .error (.error "BANNED" "client is banned")
    else .ok (clientId, publicKey)

def Server.onRegister (packages : Packages) (server : Server) (id : ConnId) (peer : Addr)
    (message : Message) (choice : Choice) : Server × List Instr :=
  match server.checkRegister packages message.payload with
  | .error reply => (server, [.reply reply, .setClient none])
  | .ok (clientId, publicKey) =>
    let (challenge, registered) := server.register id peer clientId publicKey choice
    (registered, [.reply (.authChallenge challenge), .setClient (some clientId)])

/-- Handle an AUTH_RESPONSE; none when the verification raises. -/
def Server.onAuth (packages : Packages) (server : Server) (clientId : String) (message : Message)
    (choice : Choice) : Server × Option (List Instr) :=
  match validateAuthResponse packages.text message.payload with
  | .error exception =>
    (server, some [.setAuthenticated false, .reply (.error "AUTH_FAILED" exception.text)])
  | .ok (challengeHex, signatureHex) =>
    let done := server.auth.verify packages.scheme server.registry clientId challengeHex
      signatureHex choice.now
    let verified := { server with auth := done.session }
    match done.result with
    | .error _ => (verified, none)
    | .ok (true, _) =>
      ({ verified with authenticated := server.authenticated.insert clientId true },
        some [.reply (.authResult true "authenticated"),
          .push (.announcePeerOnline clientId), .setAuthenticated true])
    | .ok (false, detail) =>
      (verified, some [.setAuthenticated false, .reply (.error "AUTH_FAILED" detail)])

/-! ### Commands -/

/-- The exceptions `_dispatch` turns into an error message. -/
inductive DispatchFailure where
  | protocol (text : String)
  | internal (text : String)

/-- What a command handler did before its first send: the networks and the relay it left, and the
sends it has to await or the exception it raised. -/
structure Handled where
  networks : NetworkManager
  relay : RelayForwarder
  result : Except DispatchFailure (List Instr)

namespace Server

variable (packages : Packages) (server : Server) (clientId : String) (message : Message)
  (choice : Choice)

/-- A handler that changes nothing and sends. -/
def answer (instrs : List Instr) : Handled := ⟨server.networks, server.relay, .ok instrs⟩

def answerError (code text : String) : Handled := server.answer [.reply (.error code text)]

/-- A handler that raises before it changes anything. -/
def raise (failure : DispatchFailure) : Handled := ⟨server.networks, server.relay, .error failure⟩

/-- A handler that changes the networks and sends. -/
def changeNetworks (networks : NetworkManager) (instrs : List Instr) : Handled :=
  ⟨networks, server.relay, .ok instrs⟩

def onHeartbeat : Handled :=
  server.changeNetworks
    { server.networks with registry := (server.registry.heartbeat clientId choice.now).2 }
    [.reply (.heartbeatAck ((message.payload.get? "ts").getD (.float 0)))]

def onCreateNetwork : Handled :=
  match validateCreateNetwork packages.text message.payload with
  | .error exception => server.raise (.protocol exception.text)
  | .ok (name, password, topology) =>
    match server.networks.create packages.bcrypt name password clientId topology none choice.uuid
      choice.salt choice.now with
    | .error exception => server.raise (.internal exception.text)
    | .ok (created, record) =>
      match created.generateInviteCode packages.text.lower record.networkId choice.draws
        choice.suffix with
      | .error exception => ⟨created, server.relay, .error (.internal exception.text)⟩
      | .ok (coded, inviteCode) =>
        server.changeNetworks coded
          [.reply (.networkCreated record.networkId record.name clientId record.topology
              inviteCode),
            .push (.announcePeerOnline clientId)]

/-- The answer to a successful join. -/
def joined (networks : NetworkManager) (record : NetworkRecord) : Handled :=
  server.changeNetworks networks
    [.reply (.networkJoined record.networkId record.name), .push (.announcePeerOnline clientId)]

/-- Join by network id if there is such a network, otherwise by invite code. -/
def onJoinNetwork : Handled :=
  match validateJoinNetwork packages.text message.payload with
  | .error exception => server.raise (.protocol exception.text)
  | .ok (networkIdOrCode, password) =>
    if server.networks.isBanned networkIdOrCode then
      server.answerError "NETWORK_BANNED" "network is banned"
    else
      match server.networks.get networkIdOrCode with
      | some record =>
        match server.networks.join packages.bcrypt networkIdOrCode clientId password with
        | (false, _) => server.answerError "WRONG_PASSWORD" "join rejected"
        | (true, networks) => server.joined clientId networks record
      | none =>
        match server.networks.joinByInviteCode packages.bcrypt networkIdOrCode clientId
          password with
        | (none, _) =>
          server.answerError "NETWORK_NOT_FOUND"
            "no such network — check the network id or invite code"
        | (some record, networks) => server.joined clientId networks record

def onLeaveNetwork : Handled :=
  match validateNetworkId packages.text message.payload with
  | .error exception => server.raise (.protocol exception.text)
  | .ok networkId =>
    match server.networks.leave networkId clientId with
    | (true, networks) =>
      server.changeNetworks networks
        [.reply (.networkLeft networkId), .push (.announcePeerOffline clientId networkId)]
    | (false, _) => server.answerError "NOT_MEMBER" "you are not a member of this network"

def onListNetworks : Handled :=
  server.answer
    [.reply (.networkList ((server.networks.listForClient clientId).map NetworkRecord.toDict))]

/-- The first network of the requester, in the order visited, that has the peer decides. -/
def onRequestPeerConn : Option Handled :=
  match validatePeerId packages.text message.payload with
  | .error exception => some (server.raise (.protocol exception.text))
  | .ok peerId =>
    if Enumerates choice.order (server.registry.networksFor clientId) then
      match choice.order.find? fun networkId => server.networks.isMember networkId peerId with
      | none =>
        some (server.answerError "NO_SHARED_NETWORK" "no shared network with that peer")
      | some networkId =>
        match server.networks.sharedEndpointsFor networkId clientId peerId with
        | none | some [] =>
          some (server.answerError "PEER_UNAVAILABLE" "peer is offline or endpoints hidden")
        | some endpoints => some (server.answer [.reply (.peerEndpoints peerId endpoints)])
    else none

/-- The service is stored, and then the handler reads attributes of the id it got back, which is a
string. -/
def exposeOn (networkId : String) (service : String × Transport × String × Nat) : Handled :=
  let (name, protocol, localHost, localPort) := service
  match server.networks.exposeService networkId clientId name protocol localHost localPort
    choice.uuid choice.now with
  | .error exception => server.raise (.internal exception.text)
  | .ok (exposed, _) =>
    ⟨exposed, server.relay, .error (.internal "'str' object has no attribute 'service_id'")⟩

/-- The network is the one named, unless the field is false in the sense of Python; a value that is
no string names no network. -/
def onExposeService : Handled :=
  match validateExposeService packages.text message.payload with
  | .error exception => server.raise (.protocol exception.text)
  | .ok service =>
    match server.networks.listForClient clientId with
    | [] => server.answerError "NO_NETWORK" "join a network before exposing a service"
    | first :: _ =>
      match getOr message.payload "network_id" (.str first.networkId) with
      | .str networkId => server.exposeOn clientId choice networkId service
      | .arr _ => server.raise (.internal "unhashable type: 'list'")
      | .obj _ => server.raise (.internal "unhashable type: 'dict'")
      | _ => server.raise (.internal "client not a member of this network")

def onUnexposeService : Handled :=
  match validateServiceId packages.text message.payload with
  | .error exception => server.raise (.protocol exception.text)
  | .ok serviceId =>
    match server.networks.unexposeServiceOwner serviceId clientId with
    | (none, _) => server.answerError "SERVICE_NOT_FOUND" "service not found"
    | (some networkId, networks) =>
      server.changeNetworks networks
        [.push (.broadcastService networkId (.serviceRemoved serviceId))]

/-- `RelayForwarder.handle_relay_request`: both sides must be known, online and share a network. -/
def handleRelayRequest (srcId dstId : String) : Handled :=
  match server.registry.get srcId, server.registry.get dstId with
  | some src, some dst =>
    if !(src.online && dst.online) then server.answerError "RELAY_FAILED" "peer is not online"
    else if !(server.networks.listForClient srcId).any fun network =>
        decide (dstId ∈ server.networks.members network.networkId) then
      server.answerError "RELAY_FAILED" "no shared network with that peer"
    else
      ⟨server.networks, (server.relay.registerRelayPath srcId dstId).2,
        .ok [.reply (.relayGranted dstId (srcId ++ "->" ++ dstId)),
          .push (.sendTo dstId (.relayGranted srcId (dstId ++ "->" ++ srcId)))]⟩
  | _, _ => server.answerError "RELAY_FAILED" "unknown peer"

def onRelayRequest : Handled :=
  match validatePeerId packages.text message.payload with
  | .error exception => server.raise (.protocol exception.text)
  | .ok peerId => server.handleRelayRequest clientId peerId

/-- The handler of a command, by its type. -/
def handleCommand : Option Handled :=
  match message.type with
  | "HEARTBEAT" => some (server.onHeartbeat clientId message choice)
  | "CREATE_NETWORK" => some (server.onCreateNetwork packages clientId message choice)
  | "JOIN_NETWORK" => some (server.onJoinNetwork packages clientId message)
  | "LEAVE_NETWORK" => some (server.onLeaveNetwork packages clientId message)
  | "LIST_NETWORKS" => some (server.onListNetworks clientId)
  | "REQUEST_PEER_CONN" => server.onRequestPeerConn packages clientId message choice
  | "EXPOSE_SERVICE" => some (server.onExposeService packages clientId message choice)
  | "UNEXPOSE_SERVICE" => some (server.onUnexposeService packages clientId message)
  | "RELAY_REQUEST" => some (server.onRelayRequest packages clientId message)
  | other => some (server.answerError "UNKNOWN_MESSAGE" ("unhandled message type " ++ other))

/-- What is left of `_dispatch` and of the round of the loop once a handler has run up to its first
send. -/
def dispatchInstrs (clientId : String) : Except DispatchFailure (List Instr) → List Instr
  | .ok instrs => instrs ++ [.endDispatch, .deliverRelayed clientId]
  | .error (.protocol text) =>
    [.reply (.error "INVALID_MESSAGE" text), .deliverRelayed clientId]
  | .error (.internal text) =>
    [.reply (.error "INTERNAL" ("internal error: " ++ text)), .deliverRelayed clientId]

def dispatch : Option (Server × List Instr) :=
  (server.handleCommand packages clientId message choice).map fun handled =>
    ({ server with networks := handled.networks, relay := handled.relay },
      dispatchInstrs clientId handled.result)

end Server

/-! ### Teardown -/

namespace Server

/-- The part of `_handle_disconnect` before its first send. -/
def handleDisconnect (server : Server) (clientId : String) : Server :=
  { server with
    writers := server.writers.erase clientId
    authenticated := server.authenticated.erase clientId
    networks := { server.networks with registry := server.registry.unregister clientId }
    relay := server.relay.dropClient clientId }

/-- Leave the loop of a connection: the start of its `finally` block. -/
def leaveLoop (server : Server) (id : ConnId) (connection : Connection) (choice : Choice) :
    Option Server :=
  match connection.clientId, connection.authenticated with
  | some clientId, true =>
    if Enumerates choice.order (server.registry.networksFor clientId) then
      some ((server.handleDisconnect clientId).setConnection id { connection with
        phase := .closing
        todo := (choice.order.map fun networkId =>
          .push (.announcePeerOffline clientId networkId)) ++ [.closeWriter] })
    else none
  | _, _ => some (server.setConnection id { connection with
      phase := .closing
      todo := [.closeWriter] })

/-- The instructions after the `try` block of `_dispatch`, if the coroutine is inside it. -/
def afterDispatch : List Instr → Option (List Instr)
  | [] => none
  | .endDispatch :: rest => some rest
  | _ :: rest => afterDispatch rest

/-- An exception in the coroutine of a connection, with what was left to do. Inside the `try` block
of `_dispatch` it is answered; otherwise the loop is left, or the rest of the `finally` block is
skipped. -/
def unwind (server : Server) (id : ConnId) (connection : Connection) (rest : List Instr)
    (text : String) (choice : Choice) : Option Server :=
  match connection.phase with
  | .reading =>
    match afterDispatch rest with
    | some rest =>
      some (server.setConnection id { connection with
        todo := .reply (.error "INTERNAL" ("internal error: " ++ text)) :: rest })
    | none => server.leaveLoop id connection choice
  | _ => some (server.setConnection id { connection with phase := .ended, todo := [] })

/-! ### Steps -/

/-- A message arrives at a coroutine that waits for one. -/
def receive (packages : Packages) (server : Server) (id : ConnId) (connection : Connection)
    (message : Message) (choice : Choice) : Option Server :=
  match connection.clientId with
  | none =>
    if message.type ≠ "REGISTER" then
      some (server.withTodo id [.reply (.error "REGISTER_REQUIRED" "register first")])
    else
      let (server, instrs) := server.onRegister packages id connection.peer message choice
      some (server.withTodo id instrs)
  | some clientId =>
    if !connection.authenticated then
      if message.type ≠ "AUTH_RESPONSE" then
        some (server.withTodo id [.reply (.error "AUTH_REQUIRED" "authenticate first")])
      else
        match server.onAuth packages clientId message choice with
        | (server, some instrs) => some (server.withTodo id instrs)
        | (server, none) => server.leaveLoop id connection choice
    else
      (server.dispatch packages clientId message choice).map fun (server, instrs) =>
        server.withTodo id instrs

/-- The sends of `deliver_relayed`. -/
def relayReplies (clientId : String) (frames : List (String × String)) : List Instr :=
  frames.map fun frame => .reply (.relayFrame frame.1 clientId frame.2)

/-- Continue or unwind after a send. -/
def afterSend (server : Server) (id : ConnId) (connection : Connection) (rest : List Instr)
    (choice : Choice) (result : PushResult) : Option Server :=
  match result.next with
  | .ok pushes => some (server.setConnection id { connection with
      todo := pushes.map .push ++ rest })
  | .error text => server.unwind id connection rest text choice

/-- Take the next instruction of a connection. -/
def takeInstr (server : Server) (id : ConnId) (connection : Connection) (instr : Instr)
    (rest : List Instr) (choice : Choice) : Option Server :=
  match instr with
  | .reply message =>
    server.afterSend id connection rest choice (send id message choice.outcome)
  | .push push =>
    (server.takePush choice push).bind fun result =>
      server.afterSend id connection rest choice result
  | .setClient clientId =>
    some (server.setConnection id { connection with clientId := clientId, todo := rest })
  | .setAuthenticated ok =>
    some (server.setConnection id { connection with authenticated := ok, todo := rest })
  | .endDispatch => some (server.setConnection id { connection with todo := rest })
  | .deliverRelayed clientId =>
    let (frames, relay) := server.relay.pendingFrames clientId
    some ({ server with relay := relay }.setConnection id { connection with
      todo := relayReplies clientId frames ++ rest })
  | .closeWriter =>
    some (server.setConnection id { connection with closed := true, phase := .ended, todo := [] })

/-- Take the next instruction of the prune loop; an exception ends the loop for good. -/
def takePruneInstr (server : Server) (instr : PruneInstr) (rest : List PruneInstr)
    (choice : Choice) : Option Server :=
  match instr with
  | .disconnect clientId =>
    if Enumerates choice.order (server.registry.networksFor clientId) then
      some { server.handleDisconnect clientId with
        pruneLoop := some ((choice.order.map fun networkId =>
          .push (.announcePeerOffline clientId networkId)) ++ rest) }
    else none
  | .push push =>
    (server.takePush choice push).map fun result =>
      match result.next with
      | .ok pushes => { server with pruneLoop := some (pushes.map .push ++ rest) }
      | .error _ => { server with pruneLoop := none }

end Server

/-- What can happen next. -/
inductive ServerEvent where
  | connect (id : ConnId) (peer : Addr)
  | receive (id : ConnId) (message : Message) (choice : Choice)
  /-- The input ends: end of stream, a reset, an oversized or a malformed message. -/
  | endInput (id : ConnId) (choice : Choice)
  | advance (id : ConnId) (choice : Choice)
  | pruneTick (now : Time)
  | advancePrune (choice : Choice)
  | expireTick (now : Time)

/-- A coroutine waits for input. -/
def Connection.Waiting (connection : Connection) : Prop :=
  connection.phase = .reading ∧ connection.todo = []

instance (connection : Connection) : Decidable connection.Waiting :=
  match empty : connection.todo with
  | [] => decidable_of_iff (connection.phase = .reading) ⟨fun reading => ⟨reading, empty⟩, And.left⟩
  | instr :: rest => isFalse fun waiting => by rw [waiting.2] at empty; cases empty

namespace Server

/-- One step of the server; none where the event cannot happen. -/
def step (packages : Packages) (server : Server) : ServerEvent → Option Server
  | .connect id peer =>
    match server.connections.get? id with
    | some _ => none
    | none => some (server.setConnection id ⟨peer, none, false, .reading, false, []⟩)
  | .receive id message choice =>
    (server.connections.get? id).bind fun connection =>
      if connection.Waiting then server.receive packages id connection message choice else none
  | .endInput id choice =>
    (server.connections.get? id).bind fun connection =>
      if connection.Waiting then server.leaveLoop id connection choice else none
  | .advance id choice =>
    (server.connections.get? id).bind fun connection =>
      match connection.todo with
      | [] => none
      | instr :: rest => server.takeInstr id connection instr rest choice
  | .pruneTick now =>
    match server.pruneLoop with
    | some [] =>
      let (stale, registry) := server.registry.pruneStale now server.heartbeatTimeout
      some { server with
        networks := { server.networks with registry := registry }
        pruneLoop := some (stale.map .disconnect) }
    | _ => none
  | .advancePrune choice =>
    match server.pruneLoop with
    | some (instr :: rest) => server.takePruneInstr instr rest choice
    | _ => none
  | .expireTick now => some { server with auth := (server.auth.expireStale now).2 }

/-- A server that has just started. -/
def init (maxClients : Nat) (heartbeatTimeout ttl : Time) (maxAttempts : Int)
    (bannedNetworks : Finset String) : Server where
  maxClients := maxClients
  heartbeatTimeout := heartbeatTimeout
  networks := { NetworkManager.init ClientRegistry.init with bannedNetworks := bannedNetworks }
  auth := AuthSession.init ttl maxAttempts
  relay := RelayForwarder.init
  writers := Dict.empty
  authenticated := Dict.empty
  connections := Dict.empty
  pruneLoop := some []

end Server

end LocalNetwork
