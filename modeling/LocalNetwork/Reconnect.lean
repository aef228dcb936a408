/-
This file is about a client that connects again. Its new connection replaces the old one
in the table of writers; the old coroutine ends at some later moment, and if it had come to
the command loop its `finally` block removes the client from the tables, marks it offline
and announces it as offline, whichever connection the tables name by then.

The file proves that this is the only way a reconnection goes wrong. In every run of
connections in which no authenticated connection starts its `finally` block, or sends from
inside it, while its client's writer is that of another open connection, an open connection
that registered a client keeps the client's writer and keeps it online, and the teardown of
any other connection of the client leaves them, and the relay paths, alone and announces
nothing. The run at the end shows the teardown that removes a newer connection.
-/

import LocalNetwork.Gating

namespace LocalNetwork

/-! ### Online clients -/

namespace ClientRegistry

def isOnline (registry : ClientRegistry) (clientId : String) : Bool :=
  (registry.get clientId).any ClientRecord.online

theorem isOnline_iff {registry : ClientRegistry} {clientId : String} :
    registry.isOnline clientId = true ↔
      ∃ record, registry.get clientId = some record ∧ record.online = true :=
  Option.any_eq_true _ _

/-- Being online is read from the client's own record. -/
theorem isOnline_congr {registry changed : ClientRegistry} {clientId : String}
    (same : changed.get clientId = registry.get clientId) :
    changed.isOnline clientId = registry.isOnline clientId := by
  rw [isOnline, isOnline, same]

/-- A registration that is not banned puts the client online. -/
theorem isOnline_registered (registry : ClientRegistry) (clientId publicKeyPem : String)
    (peer : Addr) (now : Time) (allowed : registry.isBanned clientId = false) :
    (((registry.register clientId publicKeyPem now).updateEndpoint clientId peer).setOnline
      clientId now).2.isOnline clientId = true := by
  rw [isOnline, get_setOnline, if_pos rfl, get_updateEndpoint, if_pos rfl, get_register,
    if_pos rfl]
  unfold isBanned at allowed
  cases stored : registry.get clientId with
  | none => simp [newRecord]
  | some record =>
    rw [stored] at allowed
    simp [allowed]

theorem isOnline_registered_of_ne (registry : ClientRegistry) {clientId other : String}
    (publicKeyPem : String) (peer : Addr) (now : Time) (different : other ≠ clientId) :
    (((registry.register clientId publicKeyPem now).updateEndpoint clientId peer).setOnline
      clientId now).2.isOnline other = registry.isOnline other :=
  isOnline_congr (get_registered_of_ne registry publicKeyPem peer now different)

/-- A command leaves every online client online. -/
theorem isOnline_change {registry changed : ClientRegistry} {actor clientId : String}
    (change : RegistryChange registry actor changed) (online : registry.isOnline clientId = true) :
    changed.isOnline clientId = true := by
  by_cases same : clientId = actor
  · subst same
    obtain ⟨record, stored, up⟩ := isOnline_iff.mp online
    cases change with
    | unchanged => exact online
    | heartbeat now => simp [isOnline, get_heartbeat, stored]
    | addNetwork networkId => simp [isOnline, get_addNetwork, stored, up]
    | removeNetwork networkId => simp [isOnline, get_removeNetwork, stored, up]
  · exact (isOnline_congr (change.get_of_ne same)).trans online

theorem isOnline_unregister_self (registry : ClientRegistry) (clientId : String) :
    (registry.unregister clientId).isOnline clientId = false := by
  rw [isOnline, get_unregister, if_pos rfl]
  cases registry.get clientId with
  | none => rfl
  | some record => rfl

theorem isOnline_unregister_of_ne (registry : ClientRegistry) {clientId other : String}
    (different : other ≠ clientId) :
    (registry.unregister clientId).isOnline other = registry.isOnline other := by
  refine isOnline_congr ?_
  rw [get_unregister, if_neg different]

end ClientRegistry

/-! ### Open connections and teardown -/

/-- A connection is open while its coroutine is in its loop and its writer is not closed. -/
def Connection.isOpen (connection : Connection) : Bool :=
  !connection.closed && decide (connection.phase = .reading)

def Server.isOpen (server : Server) (id : ConnId) : Bool :=
  (server.connections.get? id).any Connection.isOpen

/-- The connection whose `finally` block a step starts or continues, as it is before the step. -/
def Server.tearingDown (packages : Packages) (server : Server) (event : ServerEvent) :
    Option (ConnId × Connection) :=
  event.actor.bind fun id =>
    (server.connections.get? id).bind fun connection =>
      (server.step packages event).bind fun next =>
        if (next.connections.get? id).any fun moved => decide (moved.phase ≠ .reading) then
          some (id, connection)
        else none

/-- The step starts the `finally` block of a connection, or sends to a client from inside it. -/
def Server.Announces (server : Server) (event : ServerEvent) (connection : Connection) : Prop :=
  connection.phase = .reading ∨
    (server.pushTarget event).any fun member => server.writers.contains member

instance (server : Server) (event : ServerEvent) (connection : Connection) :
    Decidable (server.Announces event connection) :=
  inferInstanceAs (Decidable (_ ∨ _))

/-- No authenticated connection starts its `finally` block, or sends to a client from inside it,
while the writer of its own client is that of another open connection. -/
def TearsDownCurrent (packages : Packages) (server : Server) (event : ServerEvent) : Prop :=
  ∀ entry ∈ server.tearingDown packages event, entry.2.authenticated = true →
    server.Announces event entry.2 →
      ∀ clientId ∈ entry.2.clientId, ∀ writer ∈ server.writers.get? clientId,
        writer = entry.1 ∨ server.isOpen writer = false

instance (packages : Packages) (server : Server) (event : ServerEvent) :
    Decidable (TearsDownCurrent packages server event) :=
  inferInstanceAs (Decidable (∀ entry ∈ server.tearingDown packages event, _ → _ →
    ∀ clientId ∈ Prod.snd entry |>.clientId, ∀ writer ∈ server.writers.get? clientId, _ ∨ _))

/-- A step of the prune loop. -/
def ServerEvent.prunes : ServerEvent → Bool
  | .pruneTick _ | .advancePrune _ => true
  | _ => false

variable {packages : Packages} {start server next : Server} {past : List ServerEvent}
  {event : ServerEvent} {id : ConnId} {connection moved : Connection}

theorem tearingDown_iff (stepped : server.step packages event = some next) :
    server.tearingDown packages event = some (id, connection) ↔
      event.actor = some id ∧ server.connections.get? id = some connection ∧
        ∃ moved, next.connections.get? id = some moved ∧ moved.phase ≠ .reading := by
  unfold Server.tearingDown
  constructor
  · intro computed
    obtain ⟨taker, isTaker, computed⟩ := Option.bind_eq_some_iff.mp computed
    obtain ⟨before, found, computed⟩ := Option.bind_eq_some_iff.mp computed
    rw [stepped, Option.bind_some] at computed
    split at computed
    · rename_i left
      obtain ⟨rfl, rfl⟩ := Prod.mk.inj (Option.some.inj computed)
      obtain ⟨moved, movedFound, notReading⟩ := (Option.any_eq_true _ _).mp left
      exact ⟨isTaker, found, moved, movedFound, of_decide_eq_true notReading⟩
    · cases computed
  · rintro ⟨isTaker, found, moved, movedFound, notReading⟩
    rw [isTaker, Option.bind_some, found, Option.bind_some, stepped, Option.bind_some,
      if_pos ((Option.any_eq_true _ _).mpr ⟨moved, movedFound, decide_eq_true notReading⟩)]

theorem isOpen_iff : connection.isOpen = true ↔
    connection.closed = false ∧ connection.phase = .reading := by
  simp [Connection.isOpen]

/-- A connection that is open after a step was open before it. -/
theorem open_before (stepCase : StepCase packages server event next)
    (found : server.connections.get? id = some connection)
    (movedFound : next.connections.get? id = some moved) (isOpen : moved.isOpen = true) :
    connection.isOpen = true := by
  by_cases taker : event.actor = some id
  · rcases stepCase.own taker with ⟨absent, -⟩ | ⟨before, after, beforeFound, afterFound, kept⟩
    · cases absent.symm.trans found
    · obtain rfl := Option.some.inj (beforeFound.symm.trans found)
      obtain rfl := Option.some.inj (afterFound.symm.trans movedFound)
      rw [isOpen_iff] at isOpen ⊢
      rcases kept with ⟨samePhase, sameWriter⟩ | left
      · exact ⟨sameWriter.symm.trans isOpen.1, samePhase.symm.trans isOpen.2⟩
      · exact absurd isOpen.2 left
  · rcases stepCase.frame taker with same | closed
    · obtain rfl := Option.some.inj (found.symm.trans (same.symm.trans movedFound))
      exact isOpen
    · rw [found, movedFound] at closed
      obtain rfl := Option.some.inj closed
      cases (isOpen_iff.mp isOpen).1

/-! ### The current connection of a client -/

/-- An open connection that registered a client has the client's writer, and the client is
online. -/
def Current (packages : Packages) (start : Server) (past : List ServerEvent) (server : Server) :
    Prop :=
  ∀ id clientId, RegisteredOn packages start id clientId past → server.isOpen id = true →
    server.writers.get? clientId = some id ∧ server.registry.isOnline clientId = true

/-- A registration makes its connection the current one of its client. -/
theorem current_registers {clientId : String} (stepCase : StepCase packages server event next)
    (registers : Registers packages id clientId server event) :
    next.writers.get? clientId = some id ∧ next.registry.isOnline clientId = true := by
  obtain ⟨message, choice, connection, publicKey, -, accepts, rfl⟩ :=
    registers_case stepCase registers
  exact ⟨Dict.get?_insert_self _ _ _,
    ClientRegistry.isOnline_registered _ _ _ _ _ (checkRegister_allowed accepts.accepted)⟩

/-- A connection that has registered a client is in the connection table. -/
theorem registered_found {clientId : String} (gated : Gated packages start past server)
    (registered : RegisteredOn packages start id clientId past) :
    ∃ connection, server.connections.get? id = some connection := by
  cases found : server.connections.get? id with
  | none => exact absurd registered (gated.absent id found clientId)
  | some connection => exact ⟨connection, rfl⟩

/-- The registration of a client closes the open connection that had its writer. -/
theorem not_open_of_replaced {clientId publicKey : String} {peer : Addr} {choice : Choice}
    {replacing : ConnId} {todo : List Instr} (stored : server.writers.get? clientId = some id)
    (different : id ≠ replacing) :
    ((server.register replacing peer clientId publicKey choice).2.withTodo replacing todo).isOpen
      id = false := by
  rw [Server.isOpen, Server.get_withTodo, if_neg different, Server.get_register,
    if_pos ⟨stored, different⟩]
  cases server.connections.get? id with
  | none => rfl
  | some connection => rfl

/-- A step of a connection keeps the current connections current. -/
theorem current_kept {clientId : String} (gated : Gated packages start past server)
    (tearsDown : TearsDownCurrent packages server event) (connected : event.prunes = false)
    (stepped : server.step packages event = some next)
    (registered : RegisteredOn packages start id clientId past)
    (stored : server.writers.get? clientId = some id)
    (online : server.registry.isOnline clientId = true) (wasOpen : server.isOpen id = true)
    (isOpen : next.isOpen id = true) :
    next.writers.get? clientId = some id ∧ next.registry.isOnline clientId = true := by
  cases step_cases stepped with
  | register other message choice connection named publicKey accepts =>
    have distinct : id ≠ other := by
      rintro rfl
      obtain ⟨stage, here, backed⟩ := gated.staged id connection accepts.found
      obtain rfl := at_unregistered here accepts.waiting accepts.unregistered
      exact backed clientId registered
    by_cases same : named = clientId
    · subst same
      rw [not_open_of_replaced stored distinct] at isOpen
      cases isOpen
    · exact ⟨(Dict.get?_insert_of_ne _ _ (Ne.symm same)).trans stored,
        (ClientRegistry.isOnline_registered_of_ne _ _ _ _ (Ne.symm same)).trans online⟩
  | dispatch other message choice connection named handled found waiting isRegistered authenticated
      ran =>
    exact ⟨stored, ClientRegistry.isOnline_change (Server.spec_handleCommand ran).registry online⟩
  | disconnect _ other connection named order leaves found reading isRegistered authenticated
      visited =>
    by_cases same : named = clientId
    · -- The torn-down connection has the writer of its client, so it is this one, which is left.
      subst same
      have entry : server.tearingDown packages event = some (other, connection) :=
        (tearingDown_iff stepped).mpr ⟨ServerEvent.actor_of_leaver leaves, found, _,
          by rw [Server.get_setConnection, if_pos rfl], by simp⟩
      rcases tearsDown (other, connection) entry authenticated (.inl reading) named isRegistered id
        stored with own | closed
      · obtain rfl : id = other := own
        rw [Server.isOpen, Server.get_setConnection, if_pos rfl] at isOpen
        simp [Connection.isOpen] at isOpen
      · cases wasOpen.symm.trans closed
    · exact ⟨(Dict.get?_erase_of_ne _ (Ne.symm same)).trans stored,
        (ClientRegistry.isOnline_unregister_of_ne _ (Ne.symm same)).trans online⟩
  | connect => exact ⟨stored, online⟩
  | refuse => exact ⟨stored, online⟩
  | verify => exact ⟨stored, online⟩
  | rejectAuth => exact ⟨stored, online⟩
  | raiseAuth => exact ⟨stored, online⟩
  | leave => exact ⟨stored, online⟩
  | instr => exact ⟨stored, online⟩
  | deliver => exact ⟨stored, online⟩
  | prunePush => exact ⟨stored, online⟩
  | expire => exact ⟨stored, online⟩
  | pruneTick => cases connected
  | pruneDisconnect => cases connected

theorem current_step
    (ran : runFrom (Server.step packages) start past = some server)
    (gated : Gated packages start past server) (current : Current packages start past server)
    (tearsDown : TearsDownCurrent packages server event) (connected : event.prunes = false)
    (stepped : server.step packages event = some next) :
    Current packages start (past ++ [event]) next := by
  intro id clientId registered isOpen
  rcases happened_snoc ran registered with before | now
  · obtain ⟨connection, found⟩ := registered_found gated before
    obtain ⟨moved, movedFound, movedOpen⟩ := (Option.any_eq_true _ _).mp isOpen
    have wasOpen : server.isOpen id = true := (Option.any_eq_true _ _).mpr
      ⟨connection, found, open_before (step_cases stepped) found movedFound movedOpen⟩
    obtain ⟨stored, online⟩ := current id clientId before wasOpen
    exact current_kept gated tearsDown connected stepped before stored online wasOpen isOpen
  · exact current_registers (step_cases stepped) now

/-! ### A quiet teardown -/

theorem clientId_of_authenticated {stage : Stage} (here : connection.At stage)
    (authenticated : connection.authenticated = true) :
    ∃ clientId, connection.clientId = some clientId := by
  have locals := here.locals
  cases stage with
  | commanding clientId => exact ⟨clientId, locals.1⟩
  | disconnecting clientId => exact ⟨clientId, locals.1⟩
  | leaving => cases locals.1.symm.trans authenticated
  | _ => cases locals.2.1.symm.trans authenticated

/-- Before the command loop nothing announces a client as offline. -/
theorem not_peerOffline_allowed {stage : Stage} {instr : Instr} {rest : List Instr}
    (networkId clientId : String) (here : connection.At stage)
    (unauthenticated : connection.authenticated = false)
    (todo : connection.todo = instr :: rest) :
    instr ≠ .reply (.peerOffline networkId clientId) ∧
      ∀ member, instr ≠ .push (.sendTo member (.peerOffline networkId clientId)) := by
  have locals := here.locals
  refine ⟨?_, fun member => ?_⟩
  · rintro rfl
    have holds := allows_head here todo (by cases stage <;> simp [Stage.finale])
    cases stage with
    | commanding commander => cases locals.2.1.symm.trans unauthenticated
    | disconnecting leaver => exact holds
    | leaving => exact holds
    | _ => cases holds
  · rintro rfl
    have holds := allows_head here todo (by cases stage <;> simp [Stage.finale])
    cases stage with
    | commanding commander => cases locals.2.1.symm.trans unauthenticated
    | disconnecting leaver => cases locals.2.1.symm.trans unauthenticated
    | _ => exact holds

/-- The teardown of a connection changes none of the shared tables unless it leaves the command
loop. -/
theorem tables_of_teardown {stage : Stage} (here : connection.At stage)
    (stepped : server.step packages event = some next)
    (entry : server.tearingDown packages event = some (id, connection))
    (past : connection.authenticated = true → connection.phase ≠ .reading) :
    next.writers = server.writers ∧ next.registry = server.registry ∧
      next.relay = server.relay := by
  obtain ⟨taker, found, moved, movedFound, left⟩ := (tearingDown_iff stepped).mp entry
  cases step_cases stepped with
  | register other message choice before clientId publicKey accepts =>
    obtain rfl := Option.some.inj taker
    obtain rfl := Option.some.inj ((Server.get_withTodo_self
      ((Server.get_register_self _ _ _ _ _ _).trans accepts.found) _).symm.trans movedFound)
    exact absurd accepts.waiting.1 left
  | dispatch other message choice before clientId handled beforeFound waiting registered
      authenticated ran =>
    obtain rfl := Option.some.inj taker
    obtain rfl := Option.some.inj (beforeFound.symm.trans found)
    exact absurd waiting.1 (past authenticated)
  | disconnect event other before clientId order leaves beforeFound reading registered
      authenticated visited =>
    obtain rfl := Option.some.inj ((ServerEvent.actor_of_leaver leaves).symm.trans taker)
    obtain rfl := Option.some.inj (beforeFound.symm.trans found)
    exact absurd reading (past authenticated)
  | deliver other choice before clientId rest beforeFound todo =>
    obtain rfl := Option.some.inj taker
    obtain rfl := Option.some.inj (beforeFound.symm.trans found)
    obtain ⟨commander, rfl⟩ := commanding_of_deliver here todo
    exact absurd here.locals.2.2 (past here.locals.2.1)
  | connect => exact ⟨rfl, rfl, rfl⟩
  | refuse => exact ⟨rfl, rfl, rfl⟩
  | verify => exact ⟨rfl, rfl, rfl⟩
  | rejectAuth => exact ⟨rfl, rfl, rfl⟩
  | raiseAuth => exact ⟨rfl, rfl, rfl⟩
  | leave => exact ⟨rfl, rfl, rfl⟩
  | instr => exact ⟨rfl, rfl, rfl⟩
  | pruneTick => cases taker
  | pruneDisconnect => cases taker
  | prunePush => cases taker
  | expire => cases taker

/-- A teardown that has nothing to announce announces nobody as offline. -/
theorem not_peerOffline_of_teardown {stage : Stage} {target : ConnId} {networkId clientId : String}
    (here : connection.At stage) (taker : event.actor = some id)
    (found : server.connections.get? id = some connection)
    (quiet : connection.authenticated = true → ¬ server.Announces event connection) :
    server.written event ≠ some (target, .peerOffline networkId clientId) := by
  intro written
  obtain ⟨taken, instr, rest, takenFound, todo, sends⟩ := written_taken taker written
  obtain rfl := Option.some.inj (takenFound.symm.trans found)
  cases authenticated : taken.authenticated with
  | false =>
    obtain ⟨notReplied, notPushed⟩ := not_peerOffline_allowed networkId clientId here
      authenticated todo
    rcases sends with ⟨replied, -⟩ | ⟨member, pushed, -, -⟩
    · exact notReplied replied
    · exact notPushed member pushed
  | true =>
    have left : taken.phase ≠ .reading := fun reading => quiet authenticated (.inl reading)
    obtain ⟨commander, registered⟩ := clientId_of_authenticated here authenticated
    rcases sends with ⟨rfl, -⟩ | ⟨member, rfl, pushed, stored⟩
    · -- No reply stands in the `finally` block.
      rcases at_authenticated here registered authenticated with rfl | rfl
      · exact left here.locals.2.2
      · exact allows_head here todo (by simp [Stage.finale])
    · refine quiet authenticated (.inr ?_)
      rw [pushed]
      exact Dict.contains_iff.mpr ⟨target, stored⟩

/-! ### Reconnection -/

/-- What a step leaves to the open connection of a client: the writer, the online state, the relay
paths, and no announcement of the client as offline. -/
structure LeavesAlone (server next : Server) (event : ServerEvent) (clientId : String)
    (newer : ConnId) : Prop where
  writer : next.writers.get? clientId = some newer
  online : next.registry.isOnline clientId = true
  paths : next.relay.paths = server.relay.paths
  silent : ∀ target networkId,
    server.written event ≠ some (target, .peerOffline networkId clientId)

/-- Whenever in a run a connection is torn down that registered a client, an open connection that
registered the client too is left alone. -/
def ReconnectSafe (packages : Packages) (start : Server) (events : List ServerEvent) : Prop :=
  ∀ before event after server next, events = before ++ event :: after →
    runFrom (Server.step packages) start before = some server →
    server.step packages event = some next →
    ∀ older newer clientId connection, older ≠ newer →
      RegisteredOn packages start older clientId before →
      RegisteredOn packages start newer clientId before → server.isOpen newer = true →
      server.tearingDown packages event = some (older, connection) →
        LeavesAlone server next event clientId newer

/-- The connections of a run are current as long as every teardown is of a current connection. -/
theorem current_run {maxClients : Nat} {heartbeatTimeout ttl : Time} {maxAttempts : Int}
    {bannedNetworks : Finset String} {events : List ServerEvent}
    (along : HoldsAlong (Server.step packages)
      (fun server event => TearsDownCurrent packages server event ∧ event.prunes = false)
      (Server.init maxClients heartbeatTimeout ttl maxAttempts bannedNetworks) events)
    (ran : runFrom (Server.step packages)
      (Server.init maxClients heartbeatTimeout ttl maxAttempts bannedNetworks) events =
        some server) :
    Current packages (Server.init maxClients heartbeatTimeout ttl maxAttempts bannedNetworks) events
      server :=
  history_invariant
    (fun _ _ _ _ ranPast holds current stepped =>
      current_step ranPast (gated_run ranPast) current holds.1 holds.2 stepped)
    (fun id clientId registered _ => absurd registered
      ((gated_init maxClients heartbeatTimeout ttl maxAttempts bannedNetworks).absent id
        (Dict.get?_empty id) clientId))
    along ran

/-- An authenticated connection that is torn down while another connection of its client is
current has nothing left to announce. -/
theorem quiet_of_current {older newer : ConnId} {clientId : String}
    (gated : Gated packages start past server)
    (tearsDown : TearsDownCurrent packages server event)
    (registered : RegisteredOn packages start older clientId past) (distinct : older ≠ newer)
    (stored : server.writers.get? clientId = some newer) (isOpen : server.isOpen newer = true)
    (found : server.connections.get? older = some connection)
    (entry : server.tearingDown packages event = some (older, connection))
    (authenticated : connection.authenticated = true) :
    ¬ server.Announces event connection := by
  intro announces
  obtain ⟨stage, here, -⟩ := gated.staged older connection found
  obtain ⟨own, isOwn⟩ := clientId_of_authenticated here authenticated
  obtain rfl := (gated.registeredOnly found isOwn authenticated).2 clientId registered
  rcases tearsDown (older, connection) entry authenticated announces clientId isOwn newer
    stored with same | closed
  · exact distinct same.symm
  · cases isOpen.symm.trans closed

/-- In every run of connections in which no authenticated connection starts its `finally` block, or
sends from inside it, while its client's writer is that of another open connection, the teardown of
a connection leaves every other open connection of its client alone. -/
theorem reconnect_safe (packages : Packages) (maxClients : Nat) (heartbeatTimeout ttl : Time)
    (maxAttempts : Int) (bannedNetworks : Finset String) (events : List ServerEvent)
    (along : HoldsAlong (Server.step packages)
      (fun server event => TearsDownCurrent packages server event ∧ event.prunes = false)
      (Server.init maxClients heartbeatTimeout ttl maxAttempts bannedNetworks) events) :
    ReconnectSafe packages
      (Server.init maxClients heartbeatTimeout ttl maxAttempts bannedNetworks) events := by
  rintro before event after server next rfl ran stepped older newer clientId connection distinct
    olderRegistered newerRegistered isOpen entry
  obtain ⟨alongBefore, tearsDown, -⟩ := holdsAlong_append along ran
  have gated := gated_run ran
  obtain ⟨stored, online⟩ := current_run alongBefore ran newer clientId newerRegistered isOpen
  obtain ⟨taker, found, -⟩ := (tearingDown_iff stepped).mp entry
  have quiet := quiet_of_current gated tearsDown.1 olderRegistered distinct stored isOpen found
    entry
  obtain ⟨stage, here, -⟩ := gated.staged older connection found
  obtain ⟨writers, registry, relay⟩ := tables_of_teardown here stepped entry
    fun authenticated reading => quiet authenticated (.inl reading)
  refine ⟨?_, ?_, ?_, fun target networkId => ?_⟩
  · rw [writers]
    exact stored
  · rw [registry]
    exact online
  · rw [relay]
  · exact not_peerOffline_of_teardown here taker found quiet

/-- A connection opens and registers a client, and sends no response yet. -/
def signUp (id : ConnId) (clientId : String) : List ServerEvent :=
  [.connect id ("10.0.0.1", 1), .receive id (registerMessage clientId exampleKey) (calm []),
    .advance id (calm []), .advance id (calm [])]

/-- Two connections register a client one after the other. -/
def signedUpTwice : List ServerEvent := signUp 0 "client-0001" ++ signUp 1 "client-0001"

/-- An accepted REGISTER in a run, found by running the part before it. -/
theorem registeredOn_serverAfter {events : List ServerEvent} (before after : List ServerEvent)
    {event : ServerEvent} {id : ConnId} {clientId : String}
    (split : events = before ++ event :: after)
    (through : (runFrom (Server.step plainPackages) exampleServer before).isSome = true)
    (registers : (serverAfter before).registeredClient plainPackages event = some (id, clientId)) :
    RegisteredOn plainPackages exampleServer id clientId events :=
  ⟨before, event, after, _, split, runFrom_serverAfter through, registeredClient_iff.mp registers⟩

/-- The teardown that an event begins on a connection of a run. -/
theorem tearingDown_serverAfter {events : List ServerEvent} {event : ServerEvent} {id : ConnId}
    (torn : ((serverAfter events).tearingDown plainPackages event).any
      (fun entry => decide (entry.1 = id)) = true) :
    ∃ connection,
      (serverAfter events).tearingDown plainPackages event = some (id, connection) := by
  obtain ⟨⟨other, connection⟩, entry, same⟩ := (Option.any_eq_true _ _).mp torn
  obtain rfl : other = id := of_decide_eq_true same
  exact ⟨connection, entry⟩

theorem reconnect_safe_signedUpTwice :
    ∃ server next, runFrom (Server.step plainPackages) exampleServer signedUpTwice = some server ∧
      server.step plainPackages (.endInput 0 (calm [])) = some next ∧
      server.isOpen 1 = true ∧
      LeavesAlone server next (.endInput 0 (calm [])) "client-0001" 1 := by
  have ran := runFrom_serverAfter
    (show (runFrom (Server.step plainPackages) exampleServer signedUpTwice).isSome = true by
      decide +kernel)
  have stepped := some_of_isSome (show ((serverAfter signedUpTwice).step plainPackages
    (.endInput 0 (calm []))).isSome = true by decide +kernel) exampleServer
  have isOpen : (serverAfter signedUpTwice).isOpen 1 = true := by decide +kernel
  have older : RegisteredOn plainPackages exampleServer 0 "client-0001" signedUpTwice :=
    registeredOn_serverAfter (signedUpTwice.take 1) (signedUpTwice.drop 2) rfl (by decide +kernel)
      (by decide +kernel)
  have newer : RegisteredOn plainPackages exampleServer 1 "client-0001" signedUpTwice :=
    registeredOn_serverAfter (signedUpTwice.take 5) (signedUpTwice.drop 6) rfl (by decide +kernel)
      (by decide +kernel)
  obtain ⟨connection, entry⟩ := tearingDown_serverAfter
    (show ((serverAfter signedUpTwice).tearingDown plainPackages (.endInput 0 (calm []))).any
      (fun entry => decide (entry.1 = 0)) = true by decide +kernel)
  refine ⟨_, _, ran, stepped, isOpen, ?_⟩
  exact reconnect_safe plainPackages 8 90 60 5 ∅ (signedUpTwice ++ [.endInput 0 (calm [])])
    (by decide +kernel) signedUpTwice _ [] _ _ rfl ran stepped 0 1 "client-0001" connection
    (by decide) older newer isOpen entry

/-- A client logs in and registers again on a new connection. -/
def reconnected : List ServerEvent := login 0 "client-0001" [] ++ signUp 1 "client-0001"

/-- The old connection ends. Its teardown takes the client's writer, which was that of the new
connection, and marks the client offline, while the new connection is open. -/
theorem teardown_removes_newer :
    ¬ ReconnectSafe plainPackages exampleServer (reconnected ++ [.endInput 0 (calm [])]) ∧
      (serverAfter reconnected).writers.get? "client-0001" = some 1 ∧
      (serverAfter (reconnected ++ [.endInput 0 (calm [])])).isOpen 1 = true ∧
      (serverAfter (reconnected ++ [.endInput 0 (calm [])])).writers.get? "client-0001" = none ∧
      (serverAfter (reconnected ++ [.endInput 0 (calm [])])).registry.isOnline "client-0001" =
        false := by
  refine ⟨fun safe => ?_, by decide +kernel, by decide +kernel, by decide +kernel,
    by decide +kernel⟩
  have ran := runFrom_serverAfter
    (show (runFrom (Server.step plainPackages) exampleServer reconnected).isSome = true by
      decide +kernel)
  have stepped := some_of_isSome (show ((serverAfter reconnected).step plainPackages
    (.endInput 0 (calm []))).isSome = true by decide +kernel) exampleServer
  have isOpen : (serverAfter reconnected).isOpen 1 = true := by decide +kernel
  have older : RegisteredOn plainPackages exampleServer 0 "client-0001" reconnected :=
    registeredOn_serverAfter (reconnected.take 1) (reconnected.drop 2) rfl (by decide +kernel)
      (by decide +kernel)
  have newer : RegisteredOn plainPackages exampleServer 1 "client-0001" reconnected :=
    registeredOn_serverAfter (reconnected.take 9) (reconnected.drop 10) rfl (by decide +kernel)
      (by decide +kernel)
  obtain ⟨connection, entry⟩ := tearingDown_serverAfter
    (show ((serverAfter reconnected).tearingDown plainPackages (.endInput 0 (calm []))).any
      (fun entry => decide (entry.1 = 0)) = true by decide +kernel)
  have kept := (safe reconnected _ [] _ _ rfl ran stepped 0 1 "client-0001" connection (by decide)
    older newer isOpen entry).writer
  have removed : (((serverAfter reconnected).step plainPackages
      (.endInput 0 (calm []))).getD exampleServer).writers.get? "client-0001" = none := by
    decide +kernel
  cases removed.symm.trans kept

end LocalNetwork
