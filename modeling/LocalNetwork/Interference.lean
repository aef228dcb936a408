/-
This file proves what a connection that never authenticates can do to a client that is
authenticated on another connection: nothing to the client's record, its writer, its
authentication entry or its connection, as long as no REGISTER that names the client is
accepted on it.

A REGISTER that names the client is accepted before any signature is checked, stores the
key it carries and replaces the client's connection; the run at the end shows it.
-/

import LocalNetwork.Gating

namespace LocalNetwork

/-! ### What another connection leaves alone -/

/-- What the server stores about a client and about one connection. -/
structure Undisturbed (clientId : String) (id : ConnId) (before after : Server) : Prop where
  record : after.registry.get clientId = before.registry.get clientId
  writer : after.writers.get? clientId = before.writers.get? clientId
  authenticated : after.authenticated.get? clientId = before.authenticated.get? clientId
  connection : after.connections.get? id = before.connections.get? id

theorem Undisturbed.trans {clientId : String} {id : ConnId} {first second third : Server}
    (one : Undisturbed clientId id first second) (two : Undisturbed clientId id second third) :
    Undisturbed clientId id first third :=
  ⟨two.record.trans one.record, two.writer.trans one.writer,
    two.authenticated.trans one.authenticated, two.connection.trans one.connection⟩

variable {packages : Packages} {start server next : Server} {past : List ServerEvent}
  {event : ServerEvent} {id intruder : ConnId} {clientId : String}

/-- A change to one connection disturbs no client and no other connection. -/
theorem undisturbed_setConnection (server : Server) (connection : Connection)
    (different : id ≠ intruder) :
    Undisturbed clientId id server (server.setConnection intruder connection) :=
  ⟨rfl, rfl, rfl, by rw [Server.get_setConnection, if_neg different]⟩

theorem undisturbed_withTodo (server : Server) (todo : List Instr) (different : id ≠ intruder) :
    Undisturbed clientId id server (server.withTodo intruder todo) :=
  ⟨rfl, rfl, rfl, by rw [Server.get_withTodo, if_neg different]⟩

theorem undisturbed_auth (server : Server) (session : AuthSession) :
    Undisturbed clientId id server { server with auth := session } :=
  ⟨rfl, rfl, rfl, rfl⟩

/-- The registration of another client does not close the connection of a client: that connection
registered its own client only, so it is the writer of no other. -/
theorem undisturbed_register (gated : Gated packages start past server)
    (only : RegisteredOnly packages start id clientId past) {other publicKey : String} {peer : Addr}
    {choice : Choice} (distinct : other ≠ clientId) :
    Undisturbed clientId id server (server.register intruder peer other publicKey choice).2 where
  record := ClientRegistry.get_registered_of_ne _ _ _ _ (Ne.symm distinct)
  writer := Dict.get?_insert_of_ne _ _ (Ne.symm distinct)
  authenticated := Dict.get?_insert_of_ne _ _ (Ne.symm distinct)
  connection := by
    rw [Server.get_register, if_neg]
    rintro ⟨stored, -⟩
    exact distinct (only.2 other (gated.writers other id stored))

/-- A connection whose response was never verified has not come to the command loop. -/
theorem not_authenticated (gated : Gated packages start past server)
    (never : ∀ other, ¬ VerifiedOn packages start intruder other past) {connection : Connection}
    {other : String} (found : server.connections.get? intruder = some connection)
    (reading : connection.phase = .reading) (registered : connection.clientId = some other) :
    connection.authenticated ≠ true := by
  intro authenticated
  obtain ⟨stage, here, backed⟩ := gated.staged intruder connection found
  obtain rfl := at_commanding here reading registered authenticated
  exact never other backed.2

/-- A step of a connection that never authenticates, in which no REGISTER for the client is
accepted. -/
theorem undisturbed_step (gated : Gated packages start past server)
    (only : RegisteredOnly packages start id clientId past)
    (never : ∀ other, ¬ VerifiedOn packages start intruder other past)
    (different : id ≠ intruder) (taker : event.actor = some intruder)
    (notVerified : ¬ VerifiesOn packages intruder server event)
    (notNamed : ¬ Registers packages intruder clientId server event)
    (stepCase : StepCase packages server event next) :
    Undisturbed clientId id server next := by
  cases stepCase with
  | connect other peer fresh =>
    obtain rfl := Option.some.inj taker
    exact undisturbed_setConnection server _ different
  | refuse other message choice connection instrs found waiting refusal notAccepted =>
    obtain rfl := Option.some.inj taker
    exact undisturbed_withTodo server instrs different
  | register other message choice connection named publicKey accepts =>
    obtain rfl := Option.some.inj taker
    have distinct : named ≠ clientId := by
      rintro rfl
      exact notNamed ⟨message, choice, connection, publicKey, rfl, accepts⟩
    exact (undisturbed_register gated only distinct).trans (undisturbed_withTodo _ _ different)
  | verify other message choice connection named challengeHex signatureHex detail responds
      succeeded =>
    obtain rfl := Option.some.inj taker
    exact absurd ⟨named, message, choice, connection, challengeHex, signatureHex, detail, rfl,
      responds, succeeded⟩ notVerified
  | rejectAuth other message choice connection named challengeHex signatureHex detail responds
      failed =>
    obtain rfl := Option.some.inj taker
    exact (undisturbed_auth server _).trans (undisturbed_withTodo _ _ different)
  | raiseAuth other message choice connection named challengeHex signatureHex exception responds
      raised =>
    obtain rfl := Option.some.inj taker
    exact (undisturbed_auth server _).trans (undisturbed_setConnection _ _ different)
  | dispatch other message choice connection named handled found waiting registered authenticated
      ran =>
    obtain rfl := Option.some.inj taker
    exact absurd authenticated (not_authenticated gated never found waiting.1 registered)
  | leave event other connection leaves found reading quiet =>
    obtain rfl := Option.some.inj ((ServerEvent.actor_of_leaver leaves).symm.trans taker)
    exact undisturbed_setConnection server _ different
  | disconnect event other connection named order leaves found reading registered authenticated
      visited =>
    obtain rfl := Option.some.inj ((ServerEvent.actor_of_leaver leaves).symm.trans taker)
    exact absurd authenticated (not_authenticated gated never found reading registered)
  | instr other choice connection moved instr rest found todo instrCase =>
    obtain rfl := Option.some.inj taker
    exact undisturbed_setConnection server moved different
  | deliver other choice connection named rest found todo =>
    obtain rfl := Option.some.inj taker
    have kept : Undisturbed clientId id server { server with
      relay := (server.relay.pendingFrames named).2 } := ⟨rfl, rfl, rfl, rfl⟩
    exact kept.trans (undisturbed_setConnection _ _ different)
  | pruneTick now idle => cases taker
  | pruneDisconnect choice named rest todo visited => cases taker
  | prunePush choice push rest loop todo => cases taker
  | expire now => cases taker

/-! ### Every sequence of messages -/

/-- A run along which no response on a connection is verified has verified none. -/
theorem not_verifiedOn {events : List ServerEvent}
    (never : HoldsAlong (Server.step packages)
      (fun server event => ¬ VerifiesOn packages intruder server event) start events)
    (other : String) : ¬ VerifiedOn packages start intruder other events := by
  rintro ⟨before, event, after, state, split, ran, verifies, -⟩
  exact not_happened never ⟨before, event, after, state, split, ran, other, verifies⟩

/-- The steps of another connection add no registration to a connection. -/
theorem not_registers_of_actor (different : id ≠ intruder) (taker : event.actor = some intruder)
    (other : String) : ¬ Registers packages id other server event := by
  rintro ⟨message, choice, connection, publicKey, rfl, -⟩
  exact different (Option.some.inj taker)

theorem undisturbed_run {more : List ServerEvent} {after : Server}
    (ran : runFrom (Server.step packages) start past = some server)
    (gated : Gated packages start past server)
    (only : RegisteredOnly packages start id clientId past) (different : id ≠ intruder)
    (sent : ∀ event ∈ more, event.actor = some intruder)
    (never : HoldsAlong (Server.step packages)
      (fun server event => ¬ VerifiesOn packages intruder server event) start (past ++ more))
    (unnamed : HoldsAlong (Server.step packages)
      (fun server event => ¬ Registers packages intruder clientId server event) server more)
    (ranMore : runFrom (Server.step packages) server more = some after) :
    Undisturbed clientId id server after := by
  induction more generalizing past server with
  | nil =>
    obtain rfl := Option.some.inj ranMore
    exact ⟨rfl, rfl, rfl, rfl⟩
  | cons event rest inductionHypothesis =>
    obtain ⟨next, stepped, ranRest⟩ := runFrom_cons.mp ranMore
    have taker := sent event List.mem_cons_self
    obtain ⟨neverPast, neverRest⟩ := holdsAlong_append never ran
    have first := undisturbed_step gated only (not_verifiedOn neverPast) different taker
      neverRest.1 unnamed.1 (step_cases stepped)
    have ranNext : runFrom (Server.step packages) start (past ++ [event]) = some next :=
      runFrom_append.mpr ⟨server, ran, runFrom_cons.mpr ⟨next, stepped, rfl⟩⟩
    have onlyNext := registeredOnly_snoc ran (not_registers_of_actor different taker) only
    have neverNext : HoldsAlong (Server.step packages)
        (fun server event => ¬ VerifiesOn packages intruder server event) start
          (past ++ [event] ++ rest) := by
      rw [List.append_assoc]
      exact never
    exact first.trans (inductionHypothesis ranNext (gated_step ran gated stepped) onlyNext
      (fun other member => sent other (List.mem_cons_of_mem _ member)) neverNext
      (unnamed.2 next stepped) ranRest)

/-- In every reachable state in which a client is authenticated on a connection, the steps of
another connection that never has a response verified leave the client's record, its writer, its
authentication entry and its connection as they are, as long as none of them is the acceptance of
a REGISTER that names the client. -/
theorem unauthenticated_noninterference (packages : Packages) (maxClients : Nat)
    (heartbeatTimeout ttl : Time) (maxAttempts : Int) (bannedNetworks : Finset String)
    (events more : List ServerEvent) (server after : Server)
    (ran : runFrom (Server.step packages)
      (Server.init maxClients heartbeatTimeout ttl maxAttempts bannedNetworks) events =
        some server)
    (id intruder : ConnId) (clientId : String) (connection : Connection)
    (found : server.connections.get? id = some connection)
    (registered : connection.clientId = some clientId)
    (authenticated : connection.authenticated = true) (different : id ≠ intruder)
    (sent : ∀ event ∈ more, event.actor = some intruder)
    (never : HoldsAlong (Server.step packages)
      (fun server event => ¬ VerifiesOn packages intruder server event)
      (Server.init maxClients heartbeatTimeout ttl maxAttempts bannedNetworks) (events ++ more))
    (unnamed : HoldsAlong (Server.step packages)
      (fun server event => ¬ Registers packages intruder clientId server event) server more)
    (ranMore : runFrom (Server.step packages) server more = some after) :
    after.registry.get clientId = server.registry.get clientId ∧
      after.writers.get? clientId = server.writers.get? clientId ∧
      after.authenticated.get? clientId = server.authenticated.get? clientId ∧
      after.connections.get? id = some connection := by
  have gated := gated_run ran
  have only := gated.registeredOnly found registered authenticated
  obtain ⟨record, writer, entry, kept⟩ := undisturbed_run ran gated only different sent never
    unnamed ranMore
  exact ⟨record, writer, entry, kept.trans found⟩

/-- A second connection registers another client, fails to authenticate and ends. -/
def bystander : List ServerEvent :=
  [.connect 1 ("10.0.0.2", 2), .receive 1 (registerMessage "client-0002" exampleKey) (calm []),
    .advance 1 (calm []), .advance 1 (calm []), .receive 1 (authMessage "08") (calm []),
    .advance 1 (calm []), .advance 1 (calm []), .endInput 1 (calm []), .advance 1 (calm [])]

theorem unauthenticated_noninterference_bystander :
    (serverAfter (login 0 "client-0001" [] ++ bystander)).writers.get? "client-0001" =
        (serverAfter (login 0 "client-0001" [])).writers.get? "client-0001" ∧
      (serverAfter (login 0 "client-0001" [])).writers.get? "client-0001" = some 0 := by
  have ran := runFrom_serverAfter
    (show (runFrom (Server.step plainPackages) exampleServer
      (login 0 "client-0001" [])).isSome = true by decide +kernel)
  have ranAll := runFrom_serverAfter
    (show (runFrom (Server.step plainPackages) exampleServer
      (login 0 "client-0001" [] ++ bystander)).isSome = true by decide +kernel)
  have ready : ((serverAfter (login 0 "client-0001" [])).connections.get? 0).any
      (fun connection => decide (connection.clientId = some "client-0001" ∧
        connection.authenticated = true)) = true := by decide +kernel
  obtain ⟨connection, found, holds⟩ := (Option.any_eq_true _ _).mp ready
  obtain ⟨registered, authenticated⟩ := of_decide_eq_true holds
  obtain ⟨middle, ranMiddle, ranMore⟩ := runFrom_append.mp ranAll
  obtain rfl := Option.some.inj (ran.symm.trans ranMiddle)
  refine ⟨?_, by decide +kernel⟩
  exact (unauthenticated_noninterference plainPackages 8 90 60 5 ∅ _ _ _ _ ran 0 1 "client-0001"
    connection found registered authenticated (by decide) (by decide +kernel) (by decide +kernel)
    (by decide +kernel) ranMore).2.1

/-- A second connection registers the first one's client with a key of its own. -/
def takeover : List ServerEvent :=
  [.connect 1 ("10.0.0.2", 2),
    .receive 1 (registerMessage "client-0001" "-----BEGIN PUBLIC KEY-----other") (calm [])]

/-- A client is authenticated on connection 0, and messages on connection 1, on which no response
is ever verified, replace the client's key and writer and close connection 0. -/
theorem register_disturbs_authenticated :
    runFrom (Server.step plainPackages) exampleServer (login 0 "client-0001" [] ++ takeover) =
        some (serverAfter (login 0 "client-0001" [] ++ takeover)) ∧
      ((serverAfter (login 0 "client-0001" [])).connections.get? 0).map
        (fun connection => (connection.clientId, connection.authenticated, connection.closed)) =
          some (some "client-0001", true, false) ∧
      (∀ event ∈ takeover, event.actor = some 1) ∧
      HoldsAlong (Server.step plainPackages)
        (fun server event => ¬ VerifiesOn plainPackages 1 server event) exampleServer
        (login 0 "client-0001" [] ++ takeover) ∧
      ((serverAfter (login 0 "client-0001" [] ++ takeover)).registry.get "client-0001").map
          ClientRecord.publicKeyPem ≠
        ((serverAfter (login 0 "client-0001" [])).registry.get "client-0001").map
          ClientRecord.publicKeyPem ∧
      (serverAfter (login 0 "client-0001" [] ++ takeover)).writers.get? "client-0001" ≠
        (serverAfter (login 0 "client-0001" [])).writers.get? "client-0001" ∧
      (serverAfter (login 0 "client-0001" [] ++ takeover)).authenticated.get? "client-0001" ≠
        (serverAfter (login 0 "client-0001" [])).authenticated.get? "client-0001" ∧
      ((serverAfter (login 0 "client-0001" [] ++ takeover)).connections.get? 0).map
        Connection.closed = some true := by
  refine ⟨runFrom_serverAfter (by decide +kernel), by decide +kernel, by decide +kernel,
    by decide +kernel, by decide +kernel, by decide +kernel, by decide +kernel, by decide +kernel⟩

end LocalNetwork
