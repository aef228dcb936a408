/-
This file is about what a connection leaves behind. A REGISTER stores the writer of its
connection in `_writers` and puts the client online, before the client has proved who it
is; the `finally` block of `handle_client` takes both back only if the connection came to
be authenticated. A connection that ends between the two leaves a dead writer behind, and
a client that is shown online without a connection.

The file proves that this is the only way. In every run in which no coroutine leaves its
loop unauthenticated while an entry of `_writers` is its own writer, no entry refers to a
connection whose coroutine has ended, and a client without a connection that is still in
its loop is offline. The run at the end shows a connection that ends after its REGISTER.
-/

import LocalNetwork.Reconnect

namespace LocalNetwork

section History

variable (packages : Packages) (start : Server)

/-- A connection in whose loop the coroutine still is registered the client. -/
def RegisteredOpen (events : List ServerEvent) (server : Server) (id : ConnId)
    (clientId : String) : Prop :=
  RegisteredOn packages start id clientId events ∧
    ∃ connection, server.connections.get? id = some connection ∧ connection.phase = .reading

/-- A connection whose coroutine has ended is in no entry of `_writers`, and a client that it
registered is offline unless another connection that registered it is open. -/
def CleanedUp (events : List ServerEvent) (server : Server) : Prop :=
  ∀ id connection, server.connections.get? id = some connection → connection.phase = .ended →
    (∀ clientId, server.writers.get? clientId ≠ some id) ∧
    ∀ clientId, RegisteredOn packages start id clientId events →
      (¬ ∃ other, other ≠ id ∧ RegisteredOpen packages start events server other clientId) →
        server.registry.isOnline clientId = false

end History

/-- No coroutine leaves its loop unauthenticated while an entry of `_writers` is its writer. -/
def EndsWithoutWriter (packages : Packages) (server : Server) (event : ServerEvent) : Prop :=
  ∀ entry ∈ server.tearingDown packages event, entry.2.phase = .reading →
    entry.2.authenticated = false → entry.1 ∉ server.writers.values

instance (packages : Packages) (server : Server) (event : ServerEvent) :
    Decidable (EndsWithoutWriter packages server event) :=
  inferInstanceAs (Decidable (∀ entry ∈ server.tearingDown packages event, _ → _ → _))

/-- A connection is in the command loop for a client. -/
def Attends (server : Server) (id : ConnId) (clientId : String) : Prop :=
  ∃ connection, server.connections.get? id = some connection ∧ connection.phase = .reading ∧
    connection.clientId = some clientId ∧ connection.authenticated = true

/-- No writer is that of a connection that has left its loop, and an online client has a writer or
a connection in the command loop. -/
structure Tidy (server : Server) : Prop where
  writers : ∀ id connection clientId, server.connections.get? id = some connection →
    connection.phase ≠ .reading → server.writers.get? clientId ≠ some id
  attended : ∀ clientId, server.registry.isOnline clientId = true →
    server.writers.contains clientId = true ∨ ∃ id, Attends server id clientId

variable {packages : Packages} {start server next : Server} {past : List ServerEvent}
  {event : ServerEvent} {id : ConnId} {connection moved : Connection} {clientId : String}

/-! ### One step -/

/-- Taking out a client takes it out of both tables and changes nothing for any other. -/
theorem tables_unregister (server : Server) (named clientId : String) :
    ((server.writers.erase named).get? clientId = none ∧
        (server.registry.unregister named).isOnline clientId = false) ∨
      ((server.writers.erase named).get? clientId = server.writers.get? clientId ∧
        ((server.registry.unregister named).isOnline clientId = true →
          server.registry.isOnline clientId = true)) := by
  by_cases same : clientId = named
  · subst same
    exact .inl ⟨Dict.get?_erase_self _ _, ClientRegistry.isOnline_unregister_self _ _⟩
  · refine .inr ⟨Dict.get?_erase_of_ne _ same, fun online => ?_⟩
    exact (ClientRegistry.isOnline_unregister_of_ne _ same).symm.trans online

/-- What a step does to a client in the tables: it registers the client, it takes the client out,
or it keeps the writer and puts the client online at most by a command of its own. -/
theorem tables_step (stepCase : StepCase packages server event next) (clientId : String) :
    (∃ id, Registers packages id clientId server event) ∨
    (next.writers.get? clientId = none ∧ next.registry.isOnline clientId = false) ∨
    (next.writers.get? clientId = server.writers.get? clientId ∧
      (next.registry.isOnline clientId = true → server.registry.isOnline clientId = true ∨
        ∃ id, Dispatches id clientId server event)) := by
  cases stepCase with
  | register id message choice connection named publicKey accepts =>
    by_cases same : clientId = named
    · subst same
      exact .inl ⟨id, message, choice, connection, publicKey, rfl, accepts⟩
    · refine .inr (.inr ⟨Dict.get?_insert_of_ne _ _ same, fun online => .inl ?_⟩)
      exact (ClientRegistry.isOnline_registered_of_ne _ _ _ _ same).symm.trans online
  | dispatch id message choice connection named handled found waiting registered authenticated
      ran =>
    refine .inr (.inr ⟨rfl, fun online => ?_⟩)
    by_cases same : clientId = named
    · subst same
      exact .inr ⟨id, message, choice, connection, rfl, found, waiting, registered, authenticated⟩
    · have kept := (Server.spec_handleCommand ran).registry.get_of_ne same
      exact .inl ((ClientRegistry.isOnline_congr kept).symm.trans online)
  | disconnect event id connection named order leaves found reading registered authenticated
      visited =>
    exact .inr ((tables_unregister server named clientId).imp_right fun kept =>
      ⟨kept.1, fun online => .inl (kept.2 online)⟩)
  | pruneTick now idle =>
    refine .inr (.inr ⟨rfl, fun online => .inl ?_⟩)
    obtain ⟨record, stored, up⟩ := ClientRegistry.isOnline_iff.mp online
    obtain ⟨before, found, rfl⟩ :=
      Option.map_eq_some_iff.mp ((ClientRegistry.get_pruneStale _ _ _ _).symm.trans stored)
    refine ClientRegistry.isOnline_iff.mpr ⟨before, found, ?_⟩
    split at up
    · cases up
    · exact up
  | pruneDisconnect choice named rest todo visited =>
    exact .inr ((tables_unregister server named clientId).imp_right fun kept =>
      ⟨kept.1, fun online => .inl (kept.2 online)⟩)
  | _ => exact .inr (.inr ⟨rfl, .inl⟩)

/-- A connection in the command loop stays there over a step, unless its own coroutine leaves the
loop, which takes its client out of the tables. -/
theorem attends_step (gated : Gated packages start past server)
    (stepCase : StepCase packages server event next) (attends : Attends server id clientId) :
    Attends next id clientId ∨
      (next.writers = server.writers.erase clientId ∧
        next.registry = server.registry.unregister clientId) := by
  obtain ⟨connection, found, reading, registered, authenticated⟩ := attends
  obtain ⟨stage, here, -⟩ := gated.staged id connection found
  obtain rfl := at_commanding here reading registered authenticated
  -- The command loop only reads, sends and delivers.
  have inner {instr : Instr} {rest : List Instr} (todo : connection.todo = instr :: rest) :
      (Stage.commanding clientId).Allows instr :=
    allows_head here todo (by simp [Stage.finale])
  by_cases taker : event.actor = some id
  · have set (state : Server) (moved : Connection) :
        (state.setConnection id moved).connections.get? id = some moved := by
      rw [Server.get_setConnection, if_pos rfl]
    cases stepCase with
    | connect other peer fresh =>
      obtain rfl := Option.some.inj taker
      cases fresh.symm.trans found
    | refuse other message choice same instrs otherFound waiting refusal notAccepted =>
      obtain rfl := Option.some.inj taker
      exact .inl ⟨_, Server.get_withTodo_self found _, reading, registered, authenticated⟩
    | register other message choice same named publicKey accepts =>
      obtain rfl := Option.some.inj taker
      obtain rfl := Option.some.inj (accepts.found.symm.trans found)
      cases accepts.unregistered.symm.trans registered
    | verify other message choice same named challengeHex signatureHex detail responds succeeded =>
      obtain rfl := Option.some.inj taker
      exact .inl ⟨_, Server.get_withTodo_self found _, reading, registered, authenticated⟩
    | rejectAuth other message choice same named challengeHex signatureHex detail responds failed =>
      obtain rfl := Option.some.inj taker
      exact .inl ⟨_, Server.get_withTodo_self found _, reading, registered, authenticated⟩
    | raiseAuth other message choice same named challengeHex signatureHex exception responds
        raised =>
      obtain rfl := Option.some.inj taker
      obtain rfl := Option.some.inj (responds.found.symm.trans found)
      cases responds.unauthenticated.symm.trans authenticated
    | dispatch other message choice same named handled otherFound waiting isRegistered
        isAuthenticated ran =>
      obtain rfl := Option.some.inj taker
      exact .inl ⟨_, Server.get_withTodo_self found _, reading, registered, authenticated⟩
    | leave event other same leaves otherFound isReading quiet =>
      obtain rfl := Option.some.inj ((ServerEvent.actor_of_leaver leaves).symm.trans taker)
      obtain rfl := Option.some.inj (otherFound.symm.trans found)
      rcases quiet with unregistered | unauthenticated
      · cases unregistered.symm.trans registered
      · cases unauthenticated.symm.trans authenticated
    | disconnect event other same named order leaves otherFound isReading isRegistered
        isAuthenticated visited =>
      obtain rfl := Option.some.inj ((ServerEvent.actor_of_leaver leaves).symm.trans taker)
      obtain rfl := Option.some.inj (otherFound.symm.trans found)
      obtain rfl := Option.some.inj (isRegistered.symm.trans registered)
      exact .inr ⟨rfl, rfl⟩
    | instr other choice same moved instr rest otherFound todo instrCase =>
      obtain rfl := Option.some.inj taker
      obtain rfl := Option.some.inj (otherFound.symm.trans found)
      cases instrCase with
      | clientSet other => exact (inner todo).elim
      | authenticatedSet ok => exact (inner todo).elim
      | writerClosed => exact (inner todo).elim
      | abandoned instr left => exact absurd reading left
      | _ => exact .inl ⟨_, set _ _, reading, registered, authenticated⟩
    | deliver other choice same named rest otherFound todo =>
      obtain rfl := Option.some.inj taker
      obtain rfl := Option.some.inj (otherFound.symm.trans found)
      exact .inl ⟨_, set _ _, reading, registered, authenticated⟩
    | _ => cases taker
  · rcases stepCase.frame taker with same | closed
    · exact .inl ⟨connection, same.trans found, reading, registered, authenticated⟩
    · rw [found] at closed
      exact .inl ⟨_, closed, reading, registered, authenticated⟩

/-- A connection that a step registers is in its loop after the step. -/
theorem reading_of_registers (gated : Gated packages start past server)
    (stepCase : StepCase packages server event next)
    (registers : Registers packages id clientId server event)
    (movedFound : next.connections.get? id = some moved) : moved.phase = .reading := by
  obtain ⟨connection, after, found, waiting, unregistered, afterFound, registering⟩ :=
    registers_own stepCase registers
  obtain ⟨stage, here, -⟩ := gated.staged id connection found
  obtain rfl := at_unregistered here waiting unregistered
  obtain rfl := Option.some.inj (afterFound.symm.trans movedFound)
  exact (registering here).locals.2.2

/-- A connection that leaves its loop in a step takes its writer along. -/
theorem unwritten_of_leaving (gated : Gated packages start past server)
    (ends : EndsWithoutWriter packages server event)
    (stepped : server.step packages event = some next) (taker : event.actor = some id)
    (found : server.connections.get? id = some connection)
    (reading : connection.phase = .reading)
    (movedFound : next.connections.get? id = some moved) (left : moved.phase ≠ .reading)
    (stored : server.writers.get? clientId = some id) :
    next.writers.get? clientId ≠ some id := by
  have entry : server.tearingDown packages event = some (id, connection) :=
    (tearingDown_iff stepped).mpr ⟨taker, found, moved, movedFound, left⟩
  cases authenticated : connection.authenticated with
  | false =>
    exact absurd (Dict.mem_values_iff.mpr ⟨clientId, stored⟩)
      (ends (id, connection) entry reading authenticated)
  | true =>
    obtain ⟨stage, here, -⟩ := gated.staged id connection found
    obtain ⟨named, registered⟩ := clientId_of_authenticated here authenticated
    obtain rfl := (gated.registeredOnly found registered authenticated).2 clientId
      (gated.writers clientId id stored)
    rcases attends_step gated (step_cases stepped) ⟨connection, found, reading, registered,
      authenticated⟩ with ⟨after, afterFound, stillReading, -⟩ | ⟨writers, -⟩
    · obtain rfl := Option.some.inj (afterFound.symm.trans movedFound)
      exact absurd stillReading left
    · rw [writers, Dict.get?_erase_self]
      exact nofun

theorem tidy_step (gated : Gated packages start past server) (tidy : Tidy server)
    (ends : EndsWithoutWriter packages server event)
    (stepped : server.step packages event = some next) : Tidy next := by
  have stepCase := step_cases stepped
  constructor
  · intro id moved clientId movedFound left stored
    rcases tables_step stepCase clientId with ⟨other, registers⟩ | ⟨gone, -⟩ | ⟨kept, -⟩
    · obtain rfl := Option.some.inj ((current_registers stepCase registers).1.symm.trans stored)
      exact left (reading_of_registers gated stepCase registers movedFound)
    · cases gone.symm.trans stored
    · have before : server.writers.get? clientId = some id := kept.symm.trans stored
      obtain ⟨connection, found⟩ := registered_found gated (gated.writers clientId id before)
      by_cases reading : connection.phase = .reading
      · by_cases taker : event.actor = some id
        · exact unwritten_of_leaving gated ends stepped taker found reading movedFound left before
            stored
        · -- No other coroutine ends the loop of this one.
          rcases stepCase.frame taker with same | closed
          · obtain rfl := Option.some.inj (found.symm.trans (same.symm.trans movedFound))
            exact left reading
          · rw [found, movedFound] at closed
            obtain rfl := Option.some.inj closed
            exact left reading
      · exact tidy.writers id connection clientId found reading before
  · intro clientId online
    -- A connection in the command loop is still there, or the client is offline.
    have stays {id : ConnId} (attends : Attends server id clientId) :
        ∃ id, Attends next id clientId := by
      rcases attends_step gated stepCase attends with still | ⟨-, registry⟩
      · exact ⟨id, still⟩
      · rw [registry, ClientRegistry.isOnline_unregister_self] at online
        cases online
    rcases tables_step stepCase clientId with ⟨id, registers⟩ | ⟨-, offline⟩ | ⟨kept, cameOnline⟩
    · exact .inl (Dict.contains_iff.mpr ⟨id, (current_registers stepCase registers).1⟩)
    · cases offline.symm.trans online
    · rcases cameOnline online with was | ⟨id, message, choice, connection, -, found, waiting,
        registered, authenticated⟩
      · rcases tidy.attended clientId was with written | ⟨id, attends⟩
        · rw [Dict.contains, ← kept] at written
          exact .inl written
        · exact .inr (stays attends)
      · exact .inr (stays ⟨connection, found, waiting.1, registered, authenticated⟩)

/-! ### Every run -/

/-- In every run in which no coroutine leaves its loop unauthenticated while an entry of `_writers`
is its writer, a connection whose coroutine has ended is in no entry of `_writers`, and its client
is offline unless another connection of the client is open. -/
theorem ended_connections_cleaned (packages : Packages) (maxClients : Nat)
    (heartbeatTimeout ttl : Time) (maxAttempts : Int) (bannedNetworks : Finset String)
    (events : List ServerEvent) (server : Server)
    (along : HoldsAlong (Server.step packages) (EndsWithoutWriter packages)
      (Server.init maxClients heartbeatTimeout ttl maxAttempts bannedNetworks) events)
    (ran : runFrom (Server.step packages)
      (Server.init maxClients heartbeatTimeout ttl maxAttempts bannedNetworks) events =
        some server) :
    CleanedUp packages (Server.init maxClients heartbeatTimeout ttl maxAttempts bannedNetworks)
      events server := by
  have tidy : Tidy server := by
    refine history_invariant (fun _ _ _ _ ranPast ends tidy stepped =>
      tidy_step (gated_run ranPast) tidy ends stepped) ?_ along ran
    constructor
    · intro id connection clientId found
      cases found
    · intro clientId online
      cases online
  have gated := gated_run ran
  intro id connection found ended
  refine ⟨fun clientId => tidy.writers id connection clientId found (by simp [ended]),
    fun clientId registered alone => Bool.eq_false_iff.mpr fun online => alone ?_⟩
  rcases tidy.attended clientId online with written | ⟨other, attending, otherFound, reading,
    isRegistered, authenticated⟩
  · obtain ⟨other, stored⟩ := Dict.contains_iff.mp written
    have otherRegistered := gated.writers clientId other stored
    obtain ⟨current, otherFound⟩ := registered_found gated otherRegistered
    have reading : current.phase = .reading :=
      not_not.mp fun left => tidy.writers other current clientId otherFound left stored
    refine ⟨other, ?_, otherRegistered, current, otherFound, reading⟩
    rintro rfl
    obtain rfl := Option.some.inj (otherFound.symm.trans found)
    cases ended.symm.trans reading
  · refine ⟨other, ?_, (gated.registeredOnly otherFound isRegistered authenticated).1, attending,
      otherFound, reading⟩
    rintro rfl
    obtain rfl := Option.some.inj (otherFound.symm.trans found)
    cases ended.symm.trans reading

/-- A client logs in and its connection ends. -/
def loggedOut : List ServerEvent :=
  login 0 "client-0001" [] ++ [.endInput 0 (calm []), .advance 0 (calm [])]

theorem ended_connections_cleaned_loggedOut :
    ((serverAfter loggedOut).connections.get? 0).any
        (fun connection => decide (connection.phase = .ended)) = true ∧
      CleanedUp plainPackages exampleServer loggedOut (serverAfter loggedOut) :=
  ⟨by decide +kernel,
    ended_connections_cleaned plainPackages 8 90 60 5 ∅ loggedOut (serverAfter loggedOut)
      (by decide +kernel) (runFrom_serverAfter (by decide +kernel))⟩

/-- A client registers on a connection that ends before it is authenticated. -/
def signedUpAndGone : List ServerEvent :=
  signUp 0 "client-0001" ++ [.endInput 0 (calm []), .advance 0 (calm [])]

/-- The connection has ended, it was the only one, and its writer is still in the table and its
client online. -/
theorem unauthenticated_end_leaves_writer :
    (runFrom (Server.step plainPackages) exampleServer signedUpAndGone).isSome = true ∧
      ((serverAfter signedUpAndGone).connections.get? 0).any
        (fun connection => decide (connection.phase = .ended)) = true ∧
      (serverAfter signedUpAndGone).writers.get? "client-0001" = some 0 ∧
      (serverAfter signedUpAndGone).registry.isOnline "client-0001" = true ∧
      ¬ CleanedUp plainPackages exampleServer signedUpAndGone (serverAfter signedUpAndGone) := by
  have ended : ((serverAfter signedUpAndGone).connections.get? 0).any
      (fun connection => decide (connection.phase = .ended)) = true := by decide +kernel
  have stored : (serverAfter signedUpAndGone).writers.get? "client-0001" = some 0 := by
    decide +kernel
  refine ⟨by decide +kernel, ended, stored, by decide +kernel, fun cleaned => ?_⟩
  obtain ⟨connection, found, isEnded⟩ := (Option.any_eq_true _ _).mp ended
  exact (cleaned 0 connection found (of_decide_eq_true isEnded)).1 "client-0001" stored

end LocalNetwork
