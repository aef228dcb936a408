/-
This file proves that commands are gated. `_dispatch` runs for a client on a connection
only after that same connection had a REGISTER accepted for the client and later an
AUTH_RESPONSE verified for it, with a signature valid under the key the client had at
that moment, over a challenge that was issued for the client, pending and not expired.

The pending challenge and the key are shared by all connections of a client and may be
replaced by any of them; the proof ties the stage of each connection to the history of the
run, and every pending challenge to the registration that issued it.
-/

import LocalNetwork.Lifecycle

namespace LocalNetwork

/-! ### The history of a connection -/

/-- A REGISTER for a client is accepted and its challenge issued with these bytes at this time. -/
def Issues (packages : Packages) (clientId : String) (challenge : Bytes) (time : Time)
    (server : Server) (event : ServerEvent) : Prop :=
  ∃ id message choice, event = .receive id message choice ∧
    Registers packages id clientId server event ∧ choice.nonce = challenge ∧ choice.now = time

section History

variable (packages : Packages) (start : Server)

/-- A REGISTER on the connection was accepted for the client. -/
def RegisteredOn (id : ConnId) (clientId : String) (past : List ServerEvent) : Prop :=
  Happened (Server.step packages) start (fun _ => Registers packages id clientId) past

/-- The step compares a signature with a challenge: the challenge was issued for the client, is
pending and not expired, and the signature in the message is valid under the key registered for
the client now. -/
def ComparesIssued (clientId : String) (past : List ServerEvent) (server : Server)
    (event : ServerEvent) : Prop :=
  ∃ id message choice challengeHex signatureHex pending signature record,
    event = .receive id message choice ∧
    validateAuthResponse packages.text message.payload = .ok (challengeHex, signatureHex) ∧
    unhexlify signatureHex = some signature ∧
    server.registry.get clientId = some record ∧
    server.auth.pending.get? clientId = some pending ∧
    choice.now - pending.createdAt ≤ server.auth.ttl ∧
    Happened (Server.step packages) start
      (fun _ => Issues packages clientId pending.challenge pending.createdAt) past ∧
    verifyAuthResponse packages.scheme record.publicKeyPem pending.challenge signature = .ok true

/-- An AUTH_RESPONSE on the connection was verified for the client, after the connection had
registered it. -/
def VerifiedOn (id : ConnId) (clientId : String) (past : List ServerEvent) : Prop :=
  Happened (Server.step packages) start
    (fun before server event => Verifies packages id clientId server event ∧
      RegisteredOn packages start id clientId before ∧
      ComparesIssued packages start clientId before server event) past

/-- The connection registered the client and no other. -/
def RegisteredOnly (id : ConnId) (clientId : String) (past : List ServerEvent) : Prop :=
  RegisteredOn packages start id clientId past ∧
    ∀ other, RegisteredOn packages start id other past → other = clientId

/-- What the history says about a connection at a stage. -/
def Backed (id : ConnId) (past : List ServerEvent) : Stage → Prop
  | .unregistered | .registering none => ∀ clientId, ¬ RegisteredOn packages start id clientId past
  | .registering (some clientId) | .registered clientId =>
    RegisteredOnly packages start id clientId past
  | .verified clientId | .commanding clientId | .disconnecting clientId =>
    RegisteredOnly packages start id clientId past ∧ VerifiedOn packages start id clientId past
  | .leaving => True

/-- The server and its history agree. -/
structure Gated (past : List ServerEvent) (server : Server) : Prop where
  staged : ∀ id connection, server.connections.get? id = some connection →
    ∃ stage, connection.At stage ∧ Backed packages start id past stage
  absent : ∀ id, server.connections.get? id = none →
    ∀ clientId, ¬ RegisteredOn packages start id clientId past
  issued : server.auth.pending.All fun clientId pending =>
    Happened (Server.step packages) start
      (fun _ => Issues packages clientId pending.challenge pending.createdAt) past
  writers : server.writers.All fun clientId id => RegisteredOn packages start id clientId past

end History

variable {packages : Packages} {start server next : Server} {past : List ServerEvent}
  {event : ServerEvent} {id : ConnId}

/-- A connection that is authenticated for a client registered that client and no other. -/
theorem Gated.registeredOnly (gated : Gated packages start past server) {connection : Connection}
    {clientId : String} (found : server.connections.get? id = some connection)
    (registered : connection.clientId = some clientId)
    (authenticated : connection.authenticated = true) :
    RegisteredOnly packages start id clientId past := by
  obtain ⟨stage, here, backed⟩ := gated.staged id connection found
  rcases at_authenticated here registered authenticated with rfl | rfl
  · exact backed.1
  · exact backed.1

/-! ### One more step -/

/-- A step that accepts no REGISTER on a connection adds no registration to it. -/
theorem registeredOn_snoc (ran : runFrom (Server.step packages) start past = some server)
    (none : ∀ clientId, ¬ Registers packages id clientId server event) {clientId : String}
    (registered : RegisteredOn packages start id clientId (past ++ [event])) :
    RegisteredOn packages start id clientId past := by
  rcases happened_snoc ran registered with before | now
  · exact before
  · exact absurd now (none clientId)

theorem registeredOnly_snoc (ran : runFrom (Server.step packages) start past = some server)
    (none : ∀ clientId, ¬ Registers packages id clientId server event) {clientId : String}
    (registered : RegisteredOnly packages start id clientId past) :
    RegisteredOnly packages start id clientId (past ++ [event]) :=
  ⟨registered.1.later event, fun other otherRegistered =>
    registered.2 other (registeredOn_snoc ran none otherRegistered)⟩

/-- A stage stays backed over a step that accepts no REGISTER on the connection. -/
theorem backed_snoc (ran : runFrom (Server.step packages) start past = some server)
    (none : ∀ clientId, ¬ Registers packages id clientId server event) {stage : Stage}
    (backed : Backed packages start id past stage) :
    Backed packages start id (past ++ [event]) stage := by
  cases stage with
  | unregistered =>
    exact fun clientId registered => backed clientId (registeredOn_snoc ran none registered)
  | registering client =>
    cases client with
    | none =>
      exact fun clientId registered => backed clientId (registeredOn_snoc ran none registered)
    | some clientId => exact registeredOnly_snoc ran none backed
  | registered clientId => exact registeredOnly_snoc ran none backed
  | verified clientId => exact ⟨registeredOnly_snoc ran none backed.1, backed.2.later event⟩
  | commanding clientId => exact ⟨registeredOnly_snoc ran none backed.1, backed.2.later event⟩
  | disconnecting clientId => exact ⟨registeredOnly_snoc ran none backed.1, backed.2.later event⟩
  | leaving => exact trivial

/-- A verification that succeeds is of an issued challenge. -/
theorem comparesIssued_of_verifies (gated : Gated packages start past server) {clientId : String}
    (verifies : Verifies packages id clientId server event) :
    ComparesIssued packages start clientId past server event := by
  obtain ⟨message, choice, connection, challengeHex, signatureHex, detail, rfl, responds,
    succeeded⟩ := verifies
  obtain ⟨pending, signature, record, compares, valid⟩ :=
    (server.auth.verify_cases packages.scheme server.registry clientId challengeHex signatureHex
      choice.now).success succeeded
  exact ⟨id, message, choice, challengeHex, signatureHex, pending, signature, record, rfl,
    responds.wellFormed, compares.hexed, compares.known, compares.stored, compares.unexpired,
    gated.issued clientId pending compares.stored, valid⟩

/-- Moving along the lifecycle keeps the stage backed. -/
theorem backed_move (ran : runFrom (Server.step packages) start past = some server)
    (gated : Gated packages start past server)
    (none : ∀ clientId, ¬ Registers packages id clientId server event) {stage later : Stage}
    (backed : Backed packages start id past stage)
    (move : Lifecycle packages id server event stage later) :
    Backed packages start id (past ++ [event]) later := by
  have kept := backed_snoc ran none backed
  cases move with
  | stay => exact kept
  | reject => exact kept
  | retry => exact kept
  | register clientId registers => exact absurd registers (none clientId)
  | acknowledge clientId => exact kept
  | verify clientId verifies =>
    exact ⟨kept, happened_now ran ⟨verifies, backed.1,
      comparesIssued_of_verifies gated verifies⟩⟩
  | enter clientId => exact kept
  | disconnect clientId => exact kept
  | leave => exact trivial

/-- An accepted REGISTER backs the stage it starts. -/
theorem backed_register (ran : runFrom (Server.step packages) start past = some server)
    {clientId : String} (registers : Registers packages id clientId server event)
    (fresh : ∀ other, ¬ RegisteredOn packages start id other past) :
    Backed packages start id (past ++ [event]) (.registering (some clientId)) := by
  refine ⟨happened_now ran registers, fun other registered => ?_⟩
  rcases happened_snoc ran registered with before | now
  · exact absurd before (fresh other)
  · exact registers_unique now registers

/-- Every step keeps the challenges accounted for. -/
theorem issued_step (ran : runFrom (Server.step packages) start past = some server)
    (gated : Gated packages start past server)
    (stepCase : StepCase packages server event next) :
    next.auth.pending.All fun clientId pending =>
      Happened (Server.step packages) start
        (fun _ => Issues packages clientId pending.challenge pending.createdAt)
        (past ++ [event]) := by
  have later : server.auth.pending.All fun clientId pending =>
      Happened (Server.step packages) start
        (fun _ => Issues packages clientId pending.challenge pending.createdAt)
        (past ++ [event]) :=
    fun clientId pending stored => (gated.issued clientId pending stored).later event
  cases stepCase with
  | register id message choice connection clientId publicKey accepts =>
    refine later.insert (happened_now ran ?_)
    exact ⟨id, message, choice, rfl, ⟨message, choice, connection, publicKey, rfl, accepts⟩, rfl,
      rfl⟩
  | verify id message choice connection clientId challengeHex signatureHex detail responds
      succeeded =>
    exact (server.auth.verify_cases packages.scheme server.registry clientId challengeHex
      signatureHex choice.now).pending_all later fun _ _ _ issued => issued
  | rejectAuth id message choice connection clientId challengeHex signatureHex detail responds
      failed =>
    exact (server.auth.verify_cases packages.scheme server.registry clientId challengeHex
      signatureHex choice.now).pending_all later fun _ _ _ issued => issued
  | raiseAuth id message choice connection clientId challengeHex signatureHex exception responds
      raised =>
    exact (server.auth.verify_cases packages.scheme server.registry clientId challengeHex
      signatureHex choice.now).pending_all later fun _ _ _ issued => issued
  | expire now => exact later.filter _
  | connect => exact later
  | refuse => exact later
  | dispatch => exact later
  | leave => exact later
  | disconnect => exact later
  | instr => exact later
  | deliver => exact later
  | pruneTick => exact later
  | pruneDisconnect => exact later
  | prunePush => exact later

/-- The writer of a client is that of a connection that registered it. -/
theorem writers_step (ran : runFrom (Server.step packages) start past = some server)
    (gated : Gated packages start past server)
    (stepCase : StepCase packages server event next) :
    next.writers.All fun clientId id =>
      RegisteredOn packages start id clientId (past ++ [event]) := by
  have later : server.writers.All fun clientId id =>
      RegisteredOn packages start id clientId (past ++ [event]) :=
    fun clientId id stored => (gated.writers clientId id stored).later event
  cases stepCase with
  | register id message choice connection clientId publicKey accepts =>
    exact later.insert (happened_now ran ⟨message, choice, connection, publicKey, rfl, accepts⟩)
  | disconnect event id connection clientId => exact later.erase clientId
  | pruneDisconnect choice clientId => exact later.erase clientId
  | connect => exact later
  | refuse => exact later
  | verify => exact later
  | rejectAuth => exact later
  | raiseAuth => exact later
  | dispatch => exact later
  | leave => exact later
  | instr => exact later
  | deliver => exact later
  | pruneTick => exact later
  | prunePush => exact later
  | expire => exact later

/-- Every step keeps the server and its history in agreement. -/
theorem gated_step (ran : runFrom (Server.step packages) start past = some server)
    (gated : Gated packages start past server)
    (stepped : server.step packages event = some next) :
    Gated packages start (past ++ [event]) next := by
  have stepCase := step_cases stepped
  refine ⟨fun id connection found => ?_, fun id absent clientId registered => ?_,
    issued_step ran gated stepCase, writers_step ran gated stepCase⟩
  · by_cases accepted : ∃ clientId, Registers packages id clientId server event
    · -- An accepted REGISTER: the connection was unregistered and has no registration before.
      obtain ⟨clientId, registers⟩ := accepted
      obtain ⟨before, moved, beforeFound, waiting, unregistered, movedFound, move⟩ :=
        registers_own stepCase registers
      obtain ⟨stage, here, backed⟩ := gated.staged id before beforeFound
      obtain rfl := at_unregistered here waiting unregistered
      obtain rfl := Option.some.inj (movedFound.symm.trans found)
      exact ⟨_, move here, backed_register ran registers backed⟩
    · have none := not_exists.mp accepted
      cases before : server.connections.get? id with
      | none =>
        refine ⟨.unregistered, new_connection stepCase before found, ?_⟩
        exact fun clientId registered =>
          gated.absent id before clientId (registeredOn_snoc ran none registered)
      | some connection =>
        obtain ⟨stage, here, backed⟩ := gated.staged id connection before
        obtain ⟨moved, later, movedFound, there, move⟩ := lifecycle_step stepCase before here
        obtain rfl := Option.some.inj (movedFound.symm.trans found)
        exact ⟨later, there, backed_move ran gated none backed move⟩
  · have absentBefore : server.connections.get? id = none := by
      cases before : server.connections.get? id with
      | none => rfl
      | some connection =>
        obtain ⟨stage, here, -⟩ := gated.staged id connection before
        obtain ⟨moved, -, movedFound, -⟩ := lifecycle_step stepCase before here
        cases absent.symm.trans movedFound
    refine gated.absent id absentBefore clientId (registeredOn_snoc ran (fun other now => ?_)
      registered)
    obtain ⟨message, choice, connection, publicKey, -, accepts⟩ := now
    cases absentBefore.symm.trans accepts.found

/-! ### Every run -/

theorem gated_init (maxClients : Nat) (heartbeatTimeout ttl : Time) (maxAttempts : Int)
    (bannedNetworks : Finset String) :
    Gated packages (Server.init maxClients heartbeatTimeout ttl maxAttempts bannedNetworks) []
      (Server.init maxClients heartbeatTimeout ttl maxAttempts bannedNetworks) := by
  refine ⟨fun id connection found => ?_, fun id _ clientId registered => ?_, Dict.all_empty,
    Dict.all_empty⟩
  · cases found
  · obtain ⟨before, event, after, state, split, -, -⟩ := registered
    exact absurd (congrArg List.length split) (by simp)

theorem gated_run {maxClients : Nat} {heartbeatTimeout ttl : Time} {maxAttempts : Int}
    {bannedNetworks : Finset String} {events : List ServerEvent}
    (ran : runFrom (Server.step packages)
      (Server.init maxClients heartbeatTimeout ttl maxAttempts bannedNetworks) events =
        some server) :
    Gated packages (Server.init maxClients heartbeatTimeout ttl maxAttempts bannedNetworks) events
      server :=
  history_invariant (fun _ _ _ _ ranPast _ gated stepped => gated_step ranPast gated stepped)
    (gated_init maxClients heartbeatTimeout ttl maxAttempts bannedNetworks)
    (holdsAlong_true events _) ran

/-- In every run, when `_dispatch` runs for a client on a connection, an AUTH_RESPONSE was verified
for the client on that connection, after a REGISTER for the client had been accepted on it, over
an issued, pending and unexpired challenge and under the key of that moment; and the connection
never had a REGISTER accepted for another client. -/
theorem command_gating (packages : Packages) (maxClients : Nat) (heartbeatTimeout ttl : Time)
    (maxAttempts : Int) (bannedNetworks : Finset String) (events : List ServerEvent)
    (server : Server)
    (ran : runFrom (Server.step packages)
      (Server.init maxClients heartbeatTimeout ttl maxAttempts bannedNetworks) events =
        some server)
    (event : ServerEvent) (id : ConnId) (clientId : String)
    (dispatches : Dispatches id clientId server event) :
    VerifiedOn packages
        (Server.init maxClients heartbeatTimeout ttl maxAttempts bannedNetworks) id clientId
        events ∧
      ∀ other, RegisteredOn packages
          (Server.init maxClients heartbeatTimeout ttl maxAttempts bannedNetworks) id other events →
        other = clientId := by
  obtain ⟨message, choice, connection, -, found, waiting, registered, authenticated⟩ := dispatches
  obtain ⟨stage, here, backed⟩ := (gated_run ran).staged id connection found
  obtain rfl := at_commanding here waiting.1 registered authenticated
  exact ⟨backed.2, backed.1.2⟩

/-! ### A login -/

/-- Packages for examples: passwords are their own hashes, and a challenge is its own signature. -/
def plainPackages : Packages where
  bcrypt :=
    { hashpw := fun password _ => .ok password.toUTF8.toList
      checkpw := fun password hash => some (decide (password.toUTF8.toList = hash)) }
  scheme :=
    { Key := Unit
      loadPemPublicKey := fun _ => .rsa ()
      verify := fun _ signature challenge =>
        if signature = challenge then .valid else .invalidSignature }
  text := { repr := fun _ => "", lower := fun text => text }

/-- The choices of a step in which nothing goes wrong. -/
def calm (order : List String) : Choice :=
  ⟨0, [7], "network", [], fun _ => "code", "", order, .sent⟩

def payloadOf (fields : List (String × String)) : Dict String Json :=
  fields.foldl (fun payload field => payload.insert field.1 (.str field.2)) Dict.empty

def registerMessage (clientId publicKey : String) : Message :=
  ⟨"REGISTER", payloadOf [("client_id", clientId), ("public_key", publicKey)]⟩

def authMessage (signature : String) : Message :=
  ⟨"AUTH_RESPONSE", payloadOf [("challenge", "07"), ("signature", signature)]⟩

def exampleKey : String := "-----BEGIN PUBLIC KEY-----"

/-- A connection opens, registers a client and authenticates; its networks are visited in the order
given. -/
def login (id : ConnId) (clientId : String) (order : List String) : List ServerEvent :=
  [.connect id ("10.0.0.1", 1), .receive id (registerMessage clientId exampleKey) (calm []),
    .advance id (calm []), .advance id (calm []), .receive id (authMessage "07") (calm []),
    .advance id (calm []), .advance id (calm order), .advance id (calm [])]

/-- The server that runs in the examples. -/
def exampleServer : Server := Server.init 8 90 60 5 ∅

theorem some_of_isSome {Value : Type} {option : Option Value} (present : option.isSome = true)
    (default : Value) : option = some (option.getD default) := by
  cases option with
  | none => cases present
  | some value => rfl

/-- The server after a run, for runs that go through. -/
def serverAfter (events : List ServerEvent) : Server :=
  (runFrom (Server.step plainPackages) exampleServer events).getD exampleServer

theorem runFrom_serverAfter {events : List ServerEvent}
    (through : (runFrom (Server.step plainPackages) exampleServer events).isSome = true) :
    runFrom (Server.step plainPackages) exampleServer events = some (serverAfter events) :=
  some_of_isSome through exampleServer

theorem command_gating_login :
    ∃ server, runFrom (Server.step plainPackages) exampleServer (login 0 "client-0001" []) =
        some server ∧
      Dispatches 0 "client-0001" server (.receive 0 ⟨"HEARTBEAT", Dict.empty⟩ (calm [])) ∧
      VerifiedOn plainPackages exampleServer 0 "client-0001" (login 0 "client-0001" []) := by
  have ran := runFrom_serverAfter
    (show (runFrom (Server.step plainPackages) exampleServer
      (login 0 "client-0001" [])).isSome = true by decide +kernel)
  have ready : ((serverAfter (login 0 "client-0001" [])).connections.get? 0).any
      (fun connection => decide (connection.Waiting ∧ connection.clientId = some "client-0001" ∧
        connection.authenticated = true)) = true := by decide +kernel
  obtain ⟨connection, found, holds⟩ := (Option.any_eq_true _ _).mp ready
  obtain ⟨waiting, registered, authenticated⟩ := of_decide_eq_true holds
  have dispatches : Dispatches 0 "client-0001" (serverAfter (login 0 "client-0001" []))
      (.receive 0 ⟨"HEARTBEAT", Dict.empty⟩ (calm [])) :=
    ⟨_, _, connection, rfl, found, waiting, registered, authenticated⟩
  exact ⟨serverAfter (login 0 "client-0001" []), ran, dispatches,
    (command_gating plainPackages 8 90 60 5 ∅ _ _ ran _ 0 "client-0001" dispatches).1⟩

end LocalNetwork
