/-
This file says once what a step of the server can do. `StepCase` has a case for each kind
of step, with the conditions under which it is taken and the state it leaves, and
`step_cases` sorts every step of the model into these cases. The later files reason about
steps through it and through the lookup lemmas here, and do not unfold the handlers.
-/

import LocalNetwork.Server

namespace LocalNetwork

namespace Server

/-! ### Lookups in the connection table -/

theorem get_setConnection (server : Server) (id other : ConnId) (connection : Connection) :
    (server.setConnection id connection).connections.get? other =
      if other = id then some connection else server.connections.get? other :=
  Dict.get?_insert _ _ _ _

theorem get_closeWriter (server : Server) (id other : ConnId) :
    (server.closeWriter id).connections.get? other =
      if other = id then (server.connections.get? other).map fun connection =>
        { connection with closed := true }
      else server.connections.get? other :=
  Dict.get?_modify _ _ _ _

theorem get_withTodo (server : Server) (id other : ConnId) (todo : List Instr) :
    (server.withTodo id todo).connections.get? other =
      if other = id then (server.connections.get? other).map fun connection =>
        { connection with todo := todo }
      else server.connections.get? other :=
  Dict.get?_modify _ _ _ _

theorem get_withTodo_self {server : Server} {id : ConnId} {connection : Connection}
    (found : server.connections.get? id = some connection) (todo : List Instr) :
    (server.withTodo id todo).connections.get? id = some { connection with todo := todo } := by
  rw [get_withTodo, if_pos rfl, found]
  rfl

/-- A registration may close one other connection, the one that had the client's writer. -/
theorem get_register (server : Server) (id : ConnId) (peer : Addr) (clientId publicKey : String)
    (choice : Choice) (other : ConnId) :
    (server.register id peer clientId publicKey choice).2.connections.get? other =
      if server.writers.get? clientId = some other ∧ other ≠ id then
        (server.connections.get? other).map fun connection => { connection with closed := true }
      else server.connections.get? other := by
  cases stored : server.writers.get? clientId with
  | none => simp [register, stored]
  | some old =>
    by_cases own : old = id
    · have kept : ¬ (some old = some other ∧ other ≠ id) := by
        rintro ⟨same, different⟩
        exact different (own ▸ (Option.some.inj same).symm)
      rw [if_neg kept]
      simp [register, stored, own]
    · simp only [register, stored, if_neg own, get_closeWriter]
      by_cases same : other = old
      · rw [if_pos same, if_pos ⟨same ▸ rfl, fun equal => own (same ▸ equal)⟩]
      · rw [if_neg same, if_neg fun both => same (Option.some.inj both.1).symm]

theorem get_register_self (server : Server) (id : ConnId) (peer : Addr)
    (clientId publicKey : String) (choice : Choice) :
    (server.register id peer clientId publicKey choice).2.connections.get? id =
      server.connections.get? id := by
  rw [get_register, if_neg fun both => both.2 rfl]

end Server

/-! ### Kinds of steps -/

/-- The connection whose coroutine takes the step. -/
def ServerEvent.actor : ServerEvent → Option ConnId
  | .connect id _ | .receive id _ _ | .endInput id _ | .advance id _ => some id
  | .pruneTick _ | .advancePrune _ | .expireTick _ => none

/-- The connection that may leave its loop in the step other than by an AUTH_RESPONSE. -/
def ServerEvent.leaver : ServerEvent → Option ConnId
  | .endInput id _ | .advance id _ => some id
  | _ => none

theorem ServerEvent.actor_of_leaver {event : ServerEvent} {id : ConnId}
    (leaves : event.leaver = some id) : event.actor = some id := by
  cases event with
  | endInput other choice => exact leaves
  | advance other choice => exact leaves
  | _ => cases leaves

/-- The answers to a message that is refused before it is looked at further. -/
inductive Refusal (connection : Connection) : List Instr → Prop
  | registerFirst (unregistered : connection.clientId = none) (code text : String) :
    Refusal connection [.reply (.error code text)]
  | registerRejected (unregistered : connection.clientId = none) (code text : String) :
    Refusal connection [.reply (.error code text), .setClient none]
  | authenticateFirst (clientId : String) (registered : connection.clientId = some clientId)
    (unauthenticated : connection.authenticated = false) (code text : String) :
    Refusal connection [.reply (.error code text)]
  | authMalformed (clientId : String) (registered : connection.clientId = some clientId)
    (unauthenticated : connection.authenticated = false) (code text : String) :
    Refusal connection [.setAuthenticated false, .reply (.error code text)]

/-- What an instruction can turn its own connection into while the shared state stays. -/
inductive InstrCase (server : Server) (choice : Choice) (connection : Connection)
    (rest : List Instr) : Instr → Connection → Prop
  | replied (message : ServerMessage) :
    InstrCase server choice connection rest (.reply message) { connection with todo := rest }
  | pushed (push : Push) (written : Option (ConnId × ServerMessage)) (pushes : List Push)
    (taken : server.takePush choice push = some ⟨written, .ok pushes⟩) :
    InstrCase server choice connection rest (.push push)
      { connection with todo := pushes.map .push ++ rest }
  | clientSet (clientId : Option String) :
    InstrCase server choice connection rest (.setClient clientId)
      { connection with clientId := clientId, todo := rest }
  | authenticatedSet (ok : Bool) :
    InstrCase server choice connection rest (.setAuthenticated ok)
      { connection with authenticated := ok, todo := rest }
  | dispatchEnded :
    InstrCase server choice connection rest .endDispatch { connection with todo := rest }
  | writerClosed :
    InstrCase server choice connection rest .closeWriter
      { connection with closed := true, phase := .ended, todo := [] }
  /-- An exception inside the `try` block of `_dispatch`. -/
  | answered (instr : Instr) (text : String) (after : List Instr)
    (reading : connection.phase = .reading) (inside : Server.afterDispatch rest = some after) :
    InstrCase server choice connection rest instr
      { connection with
        todo := .reply (.error "INTERNAL" ("internal error: " ++ text)) :: after }
  /-- An exception inside the `finally` block. -/
  | abandoned (instr : Instr) (left : connection.phase ≠ .reading) :
    InstrCase server choice connection rest instr { connection with phase := .ended, todo := [] }

/-- A REGISTER on a connection is accepted for a client, with a key. -/
structure Accepts (packages : Packages) (server : Server) (id : ConnId) (message : Message)
    (connection : Connection) (clientId publicKey : String) : Prop where
  found : server.connections.get? id = some connection
  waiting : connection.Waiting
  unregistered : connection.clientId = none
  typed : message.type = "REGISTER"
  accepted : server.checkRegister packages message.payload = .ok (clientId, publicKey)

/-- An AUTH_RESPONSE on a connection that registered a client is well formed and handed to
`AuthSession.verify`. -/
structure Responds (packages : Packages) (server : Server) (id : ConnId) (message : Message)
    (connection : Connection) (clientId challengeHex signatureHex : String) : Prop where
  found : server.connections.get? id = some connection
  waiting : connection.Waiting
  registered : connection.clientId = some clientId
  unauthenticated : connection.authenticated = false
  typed : message.type = "AUTH_RESPONSE"
  wellFormed : validateAuthResponse packages.text message.payload =
    .ok (challengeHex, signatureHex)

/-- The verification that a response asks for. -/
def Server.verification (packages : Packages) (server : Server) (clientId challengeHex
    signatureHex : String) (now : Time) : AuthSession.Verification :=
  server.auth.verify packages.scheme server.registry clientId challengeHex signatureHex now

/-- Everything a step can do. -/
inductive StepCase (packages : Packages) (server : Server) : ServerEvent → Server → Prop
  | connect (id : ConnId) (peer : Addr) (fresh : server.connections.get? id = none) :
    StepCase packages server (.connect id peer)
      (server.setConnection id ⟨peer, none, false, .reading, false, []⟩)
  | refuse (id : ConnId) (message : Message) (choice : Choice) (connection : Connection)
    (instrs : List Instr) (found : server.connections.get? id = some connection)
    (waiting : connection.Waiting) (refusal : Refusal connection instrs)
    (notAccepted : ∀ clientId publicKey,
      ¬ Accepts packages server id message connection clientId publicKey) :
    StepCase packages server (.receive id message choice) (server.withTodo id instrs)
  | register (id : ConnId) (message : Message) (choice : Choice) (connection : Connection)
    (clientId publicKey : String)
    (accepts : Accepts packages server id message connection clientId publicKey) :
    StepCase packages server (.receive id message choice)
      ((server.register id connection.peer clientId publicKey choice).2.withTodo id
        [.reply (.authChallenge (server.register id connection.peer clientId publicKey choice).1),
          .setClient (some clientId)])
  | verify (id : ConnId) (message : Message) (choice : Choice) (connection : Connection)
    (clientId challengeHex signatureHex detail : String)
    (responds : Responds packages server id message connection clientId challengeHex signatureHex)
    (succeeded : (server.verification packages clientId challengeHex signatureHex
      choice.now).result = .ok (true, detail)) :
    StepCase packages server (.receive id message choice)
      ({ server with
          auth := (server.verification packages clientId challengeHex signatureHex
            choice.now).session
          authenticated := server.authenticated.insert clientId true }.withTodo id
        [.reply (.authResult true "authenticated"), .push (.announcePeerOnline clientId),
          .setAuthenticated true])
  | rejectAuth (id : ConnId) (message : Message) (choice : Choice) (connection : Connection)
    (clientId challengeHex signatureHex detail : String)
    (responds : Responds packages server id message connection clientId challengeHex signatureHex)
    (failed : (server.verification packages clientId challengeHex signatureHex
      choice.now).result = .ok (false, detail)) :
    StepCase packages server (.receive id message choice)
      ({ server with
          auth := (server.verification packages clientId challengeHex signatureHex
            choice.now).session }.withTodo id
        [.setAuthenticated false, .reply (.error "AUTH_FAILED" detail)])
  | raiseAuth (id : ConnId) (message : Message) (choice : Choice) (connection : Connection)
    (clientId challengeHex signatureHex : String) (exception : AuthException)
    (responds : Responds packages server id message connection clientId challengeHex signatureHex)
    (raised : (server.verification packages clientId challengeHex signatureHex
      choice.now).result = .error exception) :
    StepCase packages server (.receive id message choice)
      ({ server with
          auth := (server.verification packages clientId challengeHex signatureHex
            choice.now).session }.setConnection id
        { connection with phase := .closing, todo := [.closeWriter] })
  | dispatch (id : ConnId) (message : Message) (choice : Choice) (connection : Connection)
    (clientId : String) (handled : Handled)
    (found : server.connections.get? id = some connection) (waiting : connection.Waiting)
    (registered : connection.clientId = some clientId)
    (authenticated : connection.authenticated = true)
    (ran : server.handleCommand packages clientId message choice = some handled) :
    StepCase packages server (.receive id message choice)
      ({ server with networks := handled.networks, relay := handled.relay }.withTodo id
        (Server.dispatchInstrs clientId handled.result))
  | leave (event : ServerEvent) (id : ConnId) (connection : Connection)
    (leaves : event.leaver = some id) (found : server.connections.get? id = some connection)
    (reading : connection.phase = .reading)
    (quiet : connection.clientId = none ∨ connection.authenticated = false) :
    StepCase packages server event
      (server.setConnection id { connection with phase := .closing, todo := [.closeWriter] })
  | disconnect (event : ServerEvent) (id : ConnId) (connection : Connection) (clientId : String)
    (order : List String) (leaves : event.leaver = some id)
    (found : server.connections.get? id = some connection)
    (reading : connection.phase = .reading) (registered : connection.clientId = some clientId)
    (authenticated : connection.authenticated = true)
    (visited : Server.Enumerates order (server.registry.networksFor clientId)) :
    StepCase packages server event
      ((server.handleDisconnect clientId).setConnection id { connection with
        phase := .closing
        todo := (order.map fun networkId => .push (.announcePeerOffline clientId networkId)) ++
          [.closeWriter] })
  | instr (id : ConnId) (choice : Choice) (connection next : Connection) (instr : Instr)
    (rest : List Instr) (found : server.connections.get? id = some connection)
    (todo : connection.todo = instr :: rest)
    (moved : InstrCase server choice connection rest instr next) :
    StepCase packages server (.advance id choice) (server.setConnection id next)
  | deliver (id : ConnId) (choice : Choice) (connection : Connection) (clientId : String)
    (rest : List Instr) (found : server.connections.get? id = some connection)
    (todo : connection.todo = .deliverRelayed clientId :: rest) :
    StepCase packages server (.advance id choice)
      ({ server with relay := (server.relay.pendingFrames clientId).2 }.setConnection id
        { connection with todo :=
            Server.relayReplies clientId (server.relay.pendingFrames clientId).1 ++ rest })
  | pruneTick (now : Time) (idle : server.pruneLoop = some []) :
    StepCase packages server (.pruneTick now)
      { server with
        networks := { server.networks with
          registry := (server.registry.pruneStale now server.heartbeatTimeout).2 }
        pruneLoop := some ((server.registry.pruneStale now server.heartbeatTimeout).1.map
          .disconnect) }
  | pruneDisconnect (choice : Choice) (clientId : String) (rest : List PruneInstr)
    (todo : server.pruneLoop = some (.disconnect clientId :: rest))
    (visited : Server.Enumerates choice.order (server.registry.networksFor clientId)) :
    StepCase packages server (.advancePrune choice)
      { server.handleDisconnect clientId with
        pruneLoop := some ((choice.order.map fun networkId =>
          .push (.announcePeerOffline clientId networkId)) ++ rest) }
  | prunePush (choice : Choice) (push : Push) (rest : List PruneInstr)
    (loop : Option (List PruneInstr)) (todo : server.pruneLoop = some (.push push :: rest)) :
    StepCase packages server (.advancePrune choice) { server with pruneLoop := loop }
  | expire (now : Time) :
    StepCase packages server (.expireTick now)
      { server with auth := (server.auth.expireStale now).2 }

/-! ### Every step is one of these -/

variable {packages : Packages} {server next : Server} {id : ConnId} {connection : Connection}
  {choice : Choice}

/-- A rejected REGISTER is answered with an error message. -/
theorem checkRegister_error {payload : Dict String Json} {reply : ServerMessage}
    (rejected : server.checkRegister packages payload = .error reply) :
    ∃ code text, reply = .error code text := by
  unfold Server.checkRegister at rejected
  split at rejected
  · rename_i exception _
    exact ⟨_, _, (Except.error.inj rejected).symm⟩
  · split at rejected
    · exact ⟨_, _, (Except.error.inj rejected).symm⟩
    · split at rejected
      · exact ⟨_, _, (Except.error.inj rejected).symm⟩
      · cases rejected

/-- An accepted REGISTER is for a client that is not banned. -/
theorem checkRegister_allowed {payload : Dict String Json} {clientId publicKey : String}
    (accepted : server.checkRegister packages payload = .ok (clientId, publicKey)) :
    server.registry.isBanned clientId = false := by
  unfold Server.checkRegister at accepted
  split at accepted
  · cases accepted
  · split at accepted
    · cases accepted
    · split at accepted
      · cases accepted
      · rename_i allowed
        obtain ⟨rfl, rfl⟩ := Prod.mk.inj (Except.ok.inj accepted)
        exact Bool.eq_false_iff.mpr allowed

theorem leaveLoop_cases {event : ServerEvent} (leaves : event.leaver = some id)
    (found : server.connections.get? id = some connection)
    (reading : connection.phase = .reading)
    (left : server.leaveLoop id connection choice = some next) :
    StepCase packages server event next := by
  unfold Server.leaveLoop at left
  split at left
  · rename_i clientId registered authenticated
    split at left
    · rename_i visited
      obtain rfl := Option.some.inj left
      exact .disconnect event id connection clientId choice.order leaves found reading registered
        authenticated visited
    · cases left
  · rename_i notBoth
    obtain rfl := Option.some.inj left
    refine .leave event id connection leaves found reading ?_
    cases registered : connection.clientId with
    | none => exact .inl rfl
    | some clientId =>
      refine .inr (Bool.eq_false_iff.mpr fun authenticated => ?_)
      exact notBoth clientId registered authenticated

theorem leaveLoop_unauthenticated (server : Server) (id : ConnId) (choice : Choice)
    (unauthenticated : connection.authenticated = false) :
    server.leaveLoop id connection choice = some (server.setConnection id { connection with
      phase := .closing, todo := [.closeWriter] }) := by
  unfold Server.leaveLoop
  split
  · rename_i authenticated
    rw [unauthenticated] at authenticated
    cases authenticated
  · rfl

theorem unwind_cases {instr : Instr} {rest : List Instr} {text : String}
    (found : server.connections.get? id = some connection)
    (todo : connection.todo = instr :: rest)
    (unwound : server.unwind id connection rest text choice = some next) :
    StepCase packages server (.advance id choice) next := by
  unfold Server.unwind at unwound
  split at unwound
  · rename_i reading
    split at unwound
    · rename_i after inside
      obtain rfl := Option.some.inj unwound
      exact .instr id choice connection _ instr rest found todo
        (.answered instr text after reading inside)
    · exact leaveLoop_cases rfl found reading unwound
  · rename_i phase left
    obtain rfl := Option.some.inj unwound
    exact .instr id choice connection _ instr rest found todo (.abandoned instr left)

theorem takeInstr_cases {instr : Instr} {rest : List Instr}
    (found : server.connections.get? id = some connection)
    (todo : connection.todo = instr :: rest)
    (taken : server.takeInstr id connection instr rest choice = some next) :
    StepCase packages server (.advance id choice) next := by
  cases instr with
  | reply message =>
    simp only [Server.takeInstr, Server.afterSend] at taken
    cases outcome : choice.outcome with
    | sent =>
      rw [outcome] at taken
      obtain rfl := Option.some.inj taken
      exact .instr id choice connection _ _ rest found todo (.replied message)
    | lost text =>
      rw [outcome] at taken
      exact unwind_cases found todo taken
    | unwritten text =>
      rw [outcome] at taken
      exact unwind_cases found todo taken
  | push push =>
    simp only [Server.takeInstr, Option.bind_eq_some_iff] at taken
    obtain ⟨⟨written, result⟩, pushTaken, continued⟩ := taken
    cases result with
    | ok pushes =>
      obtain rfl := Option.some.inj continued
      exact .instr id choice connection _ _ rest found todo (.pushed push written pushes pushTaken)
    | error text => exact unwind_cases found todo continued
  | setClient clientId =>
    obtain rfl := Option.some.inj taken
    exact .instr id choice connection _ _ rest found todo (.clientSet clientId)
  | setAuthenticated ok =>
    obtain rfl := Option.some.inj taken
    exact .instr id choice connection _ _ rest found todo (.authenticatedSet ok)
  | endDispatch =>
    obtain rfl := Option.some.inj taken
    exact .instr id choice connection _ _ rest found todo .dispatchEnded
  | deliverRelayed clientId =>
    obtain rfl := Option.some.inj taken
    exact .deliver id choice connection clientId rest found todo
  | closeWriter =>
    obtain rfl := Option.some.inj taken
    exact .instr id choice connection _ _ rest found todo .writerClosed

theorem onAuth_cases {message : Message} {clientId : String}
    (found : server.connections.get? id = some connection) (waiting : connection.Waiting)
    (registered : connection.clientId = some clientId)
    (unauthenticated : connection.authenticated = false) (typed : message.type = "AUTH_RESPONSE")
    (received : (match server.onAuth packages clientId message choice with
      | (server, some instrs) => some (server.withTodo id instrs)
      | (server, none) => server.leaveLoop id connection choice) = some next) :
    StepCase packages server (.receive id message choice) next := by
  unfold Server.onAuth at received
  cases wellFormed : validateAuthResponse packages.text message.payload with
  | error exception =>
    rw [wellFormed] at received
    obtain rfl := Option.some.inj received
    exact .refuse id message choice connection _ found waiting
      (.authMalformed clientId registered unauthenticated _ _)
      fun _ _ accepts => by cases registered.symm.trans accepts.unregistered
  | ok fields =>
    obtain ⟨challengeHex, signatureHex⟩ := fields
    have responds : Responds packages server id message connection clientId challengeHex
      signatureHex := ⟨found, waiting, registered, unauthenticated, typed, wellFormed⟩
    rw [wellFormed] at received
    cases done : (server.verification packages clientId challengeHex signatureHex
      choice.now).result with
    | error exception =>
      have result := done
      unfold Server.verification at result
      simp only [result, leaveLoop_unauthenticated _ _ _ unauthenticated] at received
      obtain rfl := Option.some.inj received
      exact .raiseAuth id message choice connection clientId challengeHex signatureHex exception
        responds done
    | ok outcome =>
      obtain ⟨ok, detail⟩ := outcome
      have result := done
      unfold Server.verification at result
      cases ok with
      | true =>
        simp only [result] at received
        obtain rfl := Option.some.inj received
        exact .verify id message choice connection clientId challengeHex signatureHex detail
          responds done
      | false =>
        simp only [result] at received
        obtain rfl := Option.some.inj received
        exact .rejectAuth id message choice connection clientId challengeHex signatureHex detail
          responds done

theorem receive_cases {message : Message}
    (found : server.connections.get? id = some connection) (waiting : connection.Waiting)
    (received : server.receive packages id connection message choice = some next) :
    StepCase packages server (.receive id message choice) next := by
  unfold Server.receive at received
  cases registered : connection.clientId with
  | none =>
    rw [registered] at received
    by_cases typed : message.type = "REGISTER"
    · simp only [typed, ne_eq, not_true_eq_false, if_false, Server.onRegister] at received
      cases accepted : server.checkRegister packages message.payload with
      | error reply =>
        rw [accepted] at received
        obtain rfl := Option.some.inj received
        obtain ⟨code, text, rfl⟩ := checkRegister_error accepted
        exact .refuse id message choice connection _ found waiting
          (.registerRejected registered code text)
          fun _ _ accepts => by cases accepted.symm.trans accepts.accepted
      | ok fields =>
        obtain ⟨clientId, publicKey⟩ := fields
        rw [accepted] at received
        obtain rfl := Option.some.inj received
        exact .register id message choice connection clientId publicKey
          ⟨found, waiting, registered, typed, accepted⟩
    · simp only [typed, ne_eq, not_false_eq_true, if_true] at received
      obtain rfl := Option.some.inj received
      exact .refuse id message choice connection _ found waiting (.registerFirst registered _ _)
        fun _ _ accepts => typed accepts.typed
  | some clientId =>
    rw [registered] at received
    cases authenticated : connection.authenticated with
    | false =>
      simp only [authenticated, Bool.not_false, if_true] at received
      by_cases typed : message.type = "AUTH_RESPONSE"
      · simp only [typed, ne_eq, not_true_eq_false, if_false] at received
        exact onAuth_cases found waiting registered authenticated typed received
      · simp only [typed, ne_eq, not_false_eq_true, if_true] at received
        obtain rfl := Option.some.inj received
        exact .refuse id message choice connection _ found waiting
          (.authenticateFirst clientId registered authenticated _ _)
          fun _ _ accepts => by cases registered.symm.trans accepts.unregistered
    | true =>
      simp only [authenticated, Bool.not_true, Bool.false_eq_true, if_false, Server.dispatch,
        Option.map_map, Option.map_eq_some_iff] at received
      obtain ⟨handled, ran, rfl⟩ := received
      exact .dispatch id message choice connection clientId handled found waiting registered
        authenticated ran

theorem takePruneInstr_cases {instr : PruneInstr} {rest : List PruneInstr}
    (todo : server.pruneLoop = some (instr :: rest))
    (taken : server.takePruneInstr instr rest choice = some next) :
    StepCase packages server (.advancePrune choice) next := by
  cases instr with
  | disconnect clientId =>
    simp only [Server.takePruneInstr] at taken
    split at taken
    · rename_i visited
      obtain rfl := Option.some.inj taken
      exact .pruneDisconnect choice clientId rest todo visited
    · cases taken
  | push push =>
    simp only [Server.takePruneInstr, Option.map_eq_some_iff] at taken
    obtain ⟨⟨written, result⟩, pushTaken, rfl⟩ := taken
    cases result with
    | ok pushes => exact .prunePush choice push rest _ todo
    | error text => exact .prunePush choice push rest _ todo

/-- Every step of the server is one of the cases. -/
theorem step_cases {event : ServerEvent} (stepped : server.step packages event = some next) :
    StepCase packages server event next := by
  cases event with
  | connect id peer =>
    simp only [Server.step] at stepped
    split at stepped
    · cases stepped
    · rename_i fresh
      obtain rfl := Option.some.inj stepped
      exact .connect id peer fresh
  | receive id message choice =>
    simp only [Server.step, Option.bind_eq_some_iff] at stepped
    obtain ⟨connection, found, received⟩ := stepped
    split at received
    · rename_i waiting
      exact receive_cases found waiting received
    · cases received
  | endInput id choice =>
    simp only [Server.step, Option.bind_eq_some_iff] at stepped
    obtain ⟨connection, found, left⟩ := stepped
    split at left
    · rename_i waiting
      exact leaveLoop_cases rfl found waiting.1 left
    · cases left
  | advance id choice =>
    simp only [Server.step, Option.bind_eq_some_iff] at stepped
    obtain ⟨connection, found, taken⟩ := stepped
    cases todo : connection.todo with
    | nil =>
      rw [todo] at taken
      cases taken
    | cons instr rest =>
      rw [todo] at taken
      exact takeInstr_cases found todo taken
  | pruneTick now =>
    simp only [Server.step] at stepped
    split at stepped
    · rename_i idle
      obtain rfl := Option.some.inj stepped
      exact .pruneTick now idle
    · cases stepped
  | advancePrune choice =>
    simp only [Server.step] at stepped
    split at stepped
    · rename_i instr rest todo
      exact takePruneInstr_cases todo stepped
    · cases stepped
  | expireTick now =>
    obtain rfl := Option.some.inj stepped
    exact .expire now

/-- An instruction leaves the phase and the writer of its connection as they are, or the coroutine
is no longer in its loop. -/
theorem InstrCase.stays {moved : Connection} {instr : Instr} {rest : List Instr}
    (instrCase : InstrCase server choice connection rest instr moved) :
    (moved.phase = connection.phase ∧ moved.closed = connection.closed) ∨
      moved.phase ≠ .reading := by
  cases instrCase with
  | writerClosed => exact .inr (by simp)
  | abandoned instr left => exact .inr (by simp)
  | _ => exact .inl ⟨rfl, rfl⟩

/-- The connection whose coroutine takes a step is new, or it was there before; then its phase and
its writer are as they were, or the coroutine is no longer in its loop. -/
theorem StepCase.own {event : ServerEvent} (stepCase : StepCase packages server event next)
    (taker : event.actor = some id) :
    (server.connections.get? id = none ∧
      ∃ peer, next.connections.get? id = some ⟨peer, none, false, .reading, false, []⟩) ∨
    ∃ connection moved, server.connections.get? id = some connection ∧
      next.connections.get? id = some moved ∧
      ((moved.phase = connection.phase ∧ moved.closed = connection.closed) ∨
        moved.phase ≠ .reading) := by
  have set (state : Server) (moved : Connection) :
      (state.setConnection id moved).connections.get? id = some moved := by
    rw [Server.get_setConnection, if_pos rfl]
  cases stepCase with
  | connect other peer fresh =>
    obtain rfl := Option.some.inj taker
    exact .inl ⟨fresh, peer, set _ _⟩
  | refuse other message choice connection instrs found waiting refusal notAccepted =>
    obtain rfl := Option.some.inj taker
    exact .inr ⟨connection, _, found, Server.get_withTodo_self found _, .inl ⟨rfl, rfl⟩⟩
  | register other message choice connection clientId publicKey accepts =>
    obtain rfl := Option.some.inj taker
    exact .inr ⟨connection, _, accepts.found, Server.get_withTodo_self
      ((Server.get_register_self _ _ _ _ _ _).trans accepts.found) _, .inl ⟨rfl, rfl⟩⟩
  | verify other message choice connection clientId challengeHex signatureHex detail responds
      succeeded =>
    obtain rfl := Option.some.inj taker
    exact .inr ⟨connection, _, responds.found, Server.get_withTodo_self responds.found _,
      .inl ⟨rfl, rfl⟩⟩
  | rejectAuth other message choice connection clientId challengeHex signatureHex detail responds
      failed =>
    obtain rfl := Option.some.inj taker
    exact .inr ⟨connection, _, responds.found, Server.get_withTodo_self responds.found _,
      .inl ⟨rfl, rfl⟩⟩
  | raiseAuth other message choice connection clientId challengeHex signatureHex exception responds
      raised =>
    obtain rfl := Option.some.inj taker
    exact .inr ⟨connection, _, responds.found, set _ _, .inr (by simp)⟩
  | dispatch other message choice connection clientId handled found waiting registered
      authenticated ran =>
    obtain rfl := Option.some.inj taker
    exact .inr ⟨connection, _, found, Server.get_withTodo_self found _, .inl ⟨rfl, rfl⟩⟩
  | leave event other connection leaves found reading quiet =>
    obtain rfl := Option.some.inj ((ServerEvent.actor_of_leaver leaves).symm.trans taker)
    exact .inr ⟨connection, _, found, set _ _, .inr (by simp)⟩
  | disconnect event other connection clientId order leaves found reading registered authenticated
      visited =>
    obtain rfl := Option.some.inj ((ServerEvent.actor_of_leaver leaves).symm.trans taker)
    exact .inr ⟨connection, _, found, set _ _, .inr (by simp)⟩
  | instr other choice connection moved instr rest found todo instrCase =>
    obtain rfl := Option.some.inj taker
    exact .inr ⟨connection, moved, found, set _ _, instrCase.stays⟩
  | deliver other choice connection clientId rest found todo =>
    obtain rfl := Option.some.inj taker
    exact .inr ⟨connection, _, found, set _ _, .inl ⟨rfl, rfl⟩⟩
  | pruneTick now idle => cases taker
  | pruneDisconnect choice clientId rest todo visited => cases taker
  | prunePush choice push rest loop todo => cases taker
  | expire now => cases taker

/-- A step leaves the connections of the other coroutines alone; it may only close their writers. -/
theorem StepCase.frame {event : ServerEvent} (stepCase : StepCase packages server event next)
    {other : ConnId} (different : event.actor ≠ some other) :
    next.connections.get? other = server.connections.get? other ∨
      next.connections.get? other = (server.connections.get? other).map fun connection =>
        { connection with closed := true } := by
  have distinct : ∀ id, event.actor = some id → other ≠ id := by
    rintro id taker rfl
    exact different taker
  cases stepCase with
  | connect id peer fresh =>
    rw [Server.get_setConnection, if_neg (distinct id rfl)]
    exact .inl rfl
  | refuse id message choice connection instrs found waiting refusal notAccepted =>
    rw [Server.get_withTodo, if_neg (distinct id rfl)]
    exact .inl rfl
  | register id message choice connection clientId publicKey accepts =>
    rw [Server.get_withTodo, if_neg (distinct id rfl), Server.get_register]
    split
    · exact .inr rfl
    · exact .inl rfl
  | verify id message choice connection clientId challengeHex signatureHex detail responds
      succeeded =>
    rw [Server.get_withTodo, if_neg (distinct id rfl)]
    exact .inl rfl
  | rejectAuth id message choice connection clientId challengeHex signatureHex detail responds
      failed =>
    rw [Server.get_withTodo, if_neg (distinct id rfl)]
    exact .inl rfl
  | raiseAuth id message choice connection clientId challengeHex signatureHex exception responds
      raised =>
    rw [Server.get_setConnection, if_neg (distinct id rfl)]
    exact .inl rfl
  | dispatch id message choice connection clientId handled found waiting registered authenticated
      ran =>
    rw [Server.get_withTodo, if_neg (distinct id rfl)]
    exact .inl rfl
  | leave event id connection leaves found reading quiet =>
    rw [Server.get_setConnection, if_neg (distinct id (ServerEvent.actor_of_leaver leaves))]
    exact .inl rfl
  | disconnect event id connection clientId order leaves found reading registered authenticated
      visited =>
    rw [Server.get_setConnection, if_neg (distinct id (ServerEvent.actor_of_leaver leaves))]
    exact .inl rfl
  | instr id choice connection moved instr rest found todo instrCase =>
    rw [Server.get_setConnection, if_neg (distinct id rfl)]
    exact .inl rfl
  | deliver id choice connection clientId rest found todo =>
    rw [Server.get_setConnection, if_neg (distinct id rfl)]
    exact .inl rfl
  | pruneTick now idle => exact .inl rfl
  | pruneDisconnect choice clientId rest todo visited => exact .inl rfl
  | prunePush choice push rest loop todo => exact .inl rfl
  | expire now => exact .inl rfl

/-! ### What a step writes -/

/-- The client a step pushes a message to. -/
def Server.pushTarget (server : Server) : ServerEvent → Option String
  | .advance id _ =>
    (server.connections.get? id).bind fun connection =>
      match connection.todo with
      | .push (.sendTo clientId _) :: _ => some clientId
      | _ => none
  | .advancePrune _ =>
    match server.pruneLoop with
    | some (.push (.sendTo clientId _) :: _) => some clientId
    | _ => none
  | _ => none

/-- The message a step writes, and the connection it is written to. -/
def Server.written (server : Server) : ServerEvent → Option (ConnId × ServerMessage)
  | .advance id choice =>
    (server.connections.get? id).bind fun connection =>
      match connection.todo with
      | .reply message :: _ => (send id message choice.outcome).written
      | .push push :: _ => (server.takePush choice push).bind PushResult.written
      | _ => none
  | .advancePrune choice =>
    match server.pruneLoop with
    | some (.push push :: _) => (server.takePush choice push).bind PushResult.written
    | _ => none
  | _ => none

/-- A push that writes is a send to a client, on the client's writer. -/
theorem takePush_written {server : Server} {choice : Choice} {push : Push} {id : ConnId}
    {message : ServerMessage}
    (written : (server.takePush choice push).bind PushResult.written = some (id, message)) :
    ∃ clientId, push = .sendTo clientId message ∧ server.writers.get? clientId = some id := by
  obtain ⟨result, taken, writes⟩ := Option.bind_eq_some_iff.mp written
  cases push with
  | sendTo clientId sent =>
    simp only [Server.takePush] at taken
    split at taken
    · obtain rfl := Option.some.inj taken
      cases writes
    · rename_i writer stored
      obtain rfl := Option.some.inj taken
      cases outcome : choice.outcome with
      | sent =>
        rw [outcome] at writes
        obtain ⟨rfl, rfl⟩ := Prod.mk.inj (Option.some.inj writes)
        exact ⟨clientId, rfl, stored⟩
      | lost text =>
        rw [outcome] at writes
        obtain ⟨rfl, rfl⟩ := Prod.mk.inj (Option.some.inj writes)
        exact ⟨clientId, rfl, stored⟩
      | unwritten text =>
        rw [outcome] at writes
        cases writes
  | announcePeerOnline clientId =>
    simp only [Server.takePush] at taken
    split at taken
    · obtain rfl := Option.some.inj taken
      cases writes
    · cases taken
  | announcePeerOnlineIn clientId networkId =>
    obtain rfl := Option.some.inj taken
    cases writes
  | announcePeerOffline clientId networkId =>
    obtain rfl := Option.some.inj taken
    cases writes
  | broadcastService networkId message =>
    obtain rfl := Option.some.inj taken
    cases writes

theorem send_written {id other : ConnId} {message sent : ServerMessage} {outcome : WriteOutcome}
    (written : (send id sent outcome).written = some (other, message)) :
    id = other ∧ sent = message := by
  cases outcome with
  | sent => exact Prod.mk.inj (Option.some.inj written)
  | lost text => exact Prod.mk.inj (Option.some.inj written)
  | unwritten text => cases written

/-- The instruction with which a coroutine writes: a reply on its own connection, or a send to a
client that has a writer. -/
theorem written_taken {event : ServerEvent} {target : ConnId} {message : ServerMessage}
    (taker : event.actor = some id) (written : server.written event = some (target, message)) :
    ∃ connection instr rest, server.connections.get? id = some connection ∧
      connection.todo = instr :: rest ∧
      ((instr = .reply message ∧ id = target) ∨
        ∃ member, instr = .push (.sendTo member message) ∧
          server.pushTarget event = some member ∧ server.writers.get? member = some target) := by
  cases event with
  | advance other choice =>
    obtain rfl := Option.some.inj taker
    obtain ⟨connection, found, writes⟩ := Option.bind_eq_some_iff.mp written
    split at writes
    · rename_i sent rest todo
      obtain ⟨rfl, rfl⟩ := send_written writes
      exact ⟨connection, _, rest, found, todo, .inl ⟨rfl, rfl⟩⟩
    · rename_i push rest todo
      obtain ⟨member, rfl, stored⟩ := takePush_written writes
      refine ⟨connection, _, rest, found, todo, .inr ⟨member, rfl, ?_, stored⟩⟩
      simp only [Server.pushTarget, found, Option.bind_some, todo]
    · cases writes
  | connect other peer => cases written
  | receive other message choice => cases written
  | endInput other choice => cases written
  | pruneTick now => cases taker
  | advancePrune choice => cases taker
  | expireTick now => cases taker

/-- A step writes a reply on the connection that takes it, or pushes to a client's writer. -/
theorem written_cases {server : Server} {event : ServerEvent} {id : ConnId}
    {message : ServerMessage} (written : server.written event = some (id, message)) :
    (∃ connection rest, server.connections.get? id = some connection ∧
      connection.todo = .reply message :: rest) ∨
    ∃ clientId, server.pushTarget event = some clientId ∧
      server.writers.get? clientId = some id := by
  cases taker : event.actor with
  | some actor =>
    obtain ⟨connection, instr, rest, found, todo, sends⟩ := written_taken taker written
    rcases sends with ⟨rfl, rfl⟩ | ⟨member, -, pushed, stored⟩
    · exact .inl ⟨connection, rest, found, todo⟩
    · exact .inr ⟨member, pushed, stored⟩
  | none =>
    cases event with
    | advancePrune choice =>
      simp only [Server.written] at written
      split at written
      · rename_i push rest todo
        obtain ⟨clientId, rfl, stored⟩ := takePush_written written
        refine .inr ⟨clientId, ?_, stored⟩
        simp only [Server.pushTarget, todo]
      · cases written
    | pruneTick now => cases written
    | expireTick now => cases written
    | _ => cases taker

end LocalNetwork
