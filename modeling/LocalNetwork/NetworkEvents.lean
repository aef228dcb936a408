/-
This file is about who receives network events. Events are pushed through the table of
writers, which is filled when a REGISTER is accepted, before any response is verified; the
table of authenticated clients is kept beside it and not read.

The file proves what reading that table would give: in every run in which events are
pushed only to clients whose entry there says authenticated, and responses are verified
only on the connection that has the client's writer, every network event is written to a
connection on which a response was verified. The run at the end shows an event that
reaches a connection which has only registered.
-/

import LocalNetwork.Gating

namespace LocalNetwork

/-! ### Pushes to authenticated clients -/

/-- Events are pushed only to clients that are entered as authenticated, and a response is verified
only on the connection that has the client's writer. -/
def PushesAuthenticated (packages : Packages) (server : Server) (event : ServerEvent) : Prop :=
  (∀ clientId ∈ server.pushTarget event, (server.writers.get? clientId).isSome →
    server.authenticated.get? clientId = some true) ∧
  ∀ entry ∈ server.verifiedClient packages event,
    server.writers.get? entry.2 = some entry.1

instance (packages : Packages) (server : Server) (event : ServerEvent) :
    Decidable (PushesAuthenticated packages server event) :=
  inferInstanceAs (Decidable (_ ∧ _))

variable {packages : Packages} {start server next : Server} {past : List ServerEvent}
  {event : ServerEvent}

section Trust

variable (packages start)

/-- A response was verified on the connection. -/
def VerifiedBefore (id : ConnId) (past : List ServerEvent) : Prop :=
  Happened (Server.step packages) start (fun _ => VerifiesOn packages id) past

/-- Whoever is entered as authenticated has the writer of a connection on which a response was
verified. -/
def Trusted (past : List ServerEvent) (server : Server) : Prop :=
  ∀ clientId, server.authenticated.get? clientId = some true →
    ∃ id, server.writers.get? clientId = some id ∧ VerifiedBefore packages start id past

end Trust

/-- A step that changes neither table. -/
theorem Trusted.unchanged (trusted : Trusted packages start past server)
    (authenticated : next.authenticated = server.authenticated)
    (writers : next.writers = server.writers) :
    Trusted packages start (past ++ [event]) next := by
  intro clientId entered
  rw [authenticated] at entered
  obtain ⟨id, stored, verified⟩ := trusted clientId entered
  exact ⟨id, writers ▸ stored, verified.later event⟩

/-- A step that removes a client from both tables. -/
theorem Trusted.erased (trusted : Trusted packages start past server) {clientId : String}
    (authenticated : next.authenticated = server.authenticated.erase clientId)
    (writers : next.writers = server.writers.erase clientId) :
    Trusted packages start (past ++ [event]) next := by
  intro other entered
  rw [authenticated, Dict.get?_erase] at entered
  by_cases same : other = clientId
  · rw [if_pos same] at entered
    cases entered
  · rw [if_neg same] at entered
    obtain ⟨id, stored, verified⟩ := trusted other entered
    refine ⟨id, ?_, verified.later event⟩
    rw [writers, Dict.get?_erase_of_ne _ same]
    exact stored

theorem trusted_step (ran : runFrom (Server.step packages) start past = some server)
    (trusted : Trusted packages start past server)
    (authenticatedOnly : PushesAuthenticated packages server event)
    (stepCase : StepCase packages server event next) :
    Trusted packages start (past ++ [event]) next := by
  cases stepCase with
  | register id message choice connection clientId publicKey accepts =>
    intro other entered
    have entry : (server.authenticated.insert clientId false).get? other = some true := entered
    rw [Dict.get?_insert] at entry
    by_cases same : other = clientId
    · rw [if_pos same] at entry
      cases entry
    · rw [if_neg same] at entry
      obtain ⟨writer, stored, verified⟩ := trusted other entry
      exact ⟨writer, (Dict.get?_insert_of_ne _ _ same).trans stored, verified.later _⟩
  | verify id message choice connection clientId challengeHex signatureHex detail responds
      succeeded =>
    have verifies : Verifies packages id clientId server (.receive id message choice) :=
      ⟨message, choice, connection, challengeHex, signatureHex, detail, rfl, responds, succeeded⟩
    intro other entered
    have entry : (server.authenticated.insert clientId true).get? other = some true := entered
    rw [Dict.get?_insert] at entry
    by_cases same : other = clientId
    · have own := authenticatedOnly.2 (id, clientId) (verifiedClient_iff.mpr verifies)
      exact ⟨id, same ▸ own, happened_now ran ⟨clientId, verifies⟩⟩
    · rw [if_neg same] at entry
      obtain ⟨writer, stored, verified⟩ := trusted other entry
      exact ⟨writer, stored, verified.later _⟩
  | disconnect event id connection clientId => exact trusted.erased rfl rfl
  | pruneDisconnect choice clientId => exact trusted.erased rfl rfl
  | connect => exact trusted.unchanged rfl rfl
  | refuse => exact trusted.unchanged rfl rfl
  | rejectAuth => exact trusted.unchanged rfl rfl
  | raiseAuth => exact trusted.unchanged rfl rfl
  | dispatch => exact trusted.unchanged rfl rfl
  | leave => exact trusted.unchanged rfl rfl
  | instr => exact trusted.unchanged rfl rfl
  | deliver => exact trusted.unchanged rfl rfl
  | pruneTick => exact trusted.unchanged rfl rfl
  | prunePush => exact trusted.unchanged rfl rfl
  | expire => exact trusted.unchanged rfl rfl

/-- Only the command loop replies with network events. -/
theorem verified_of_reply (gated : Gated packages start past server) {id : ConnId}
    {connection : Connection} {message : ServerMessage} {rest : List Instr}
    (found : server.connections.get? id = some connection)
    (todo : connection.todo = .reply message :: rest) (network : message.isNetworkEvent = true) :
    VerifiedBefore packages start id past := by
  obtain ⟨stage, here, backed⟩ := gated.staged id connection found
  have permitted := allows_head here todo (by cases stage <;> simp [Stage.finale])
  cases stage with
  | commanding clientId =>
    obtain ⟨before, event, after, state, same, ran, verifies, -⟩ := backed.2
    exact ⟨before, event, after, state, same, ran, clientId, verifies⟩
  | unregistered => cases network.symm.trans permitted
  | registering clientId => cases network.symm.trans permitted
  | registered clientId => cases network.symm.trans permitted
  | verified clientId => cases network.symm.trans permitted
  | disconnecting clientId => exact permitted.elim
  | leaving => exact permitted.elim

/-- In every run in which events are pushed only to clients entered as authenticated, and responses
are verified only on the connection that has the client's writer, every network event is written
to a connection on which a response was verified before. -/
theorem networkEvents_verified (packages : Packages) (maxClients : Nat)
    (heartbeatTimeout ttl : Time) (maxAttempts : Int) (bannedNetworks : Finset String)
    (events : List ServerEvent)
    (along : HoldsAlong (Server.step packages) (PushesAuthenticated packages)
      (Server.init maxClients heartbeatTimeout ttl maxAttempts bannedNetworks) events)
    (before : List ServerEvent) (event : ServerEvent) (after : List ServerEvent)
    (split : events = before ++ event :: after) (server : Server)
    (ran : runFrom (Server.step packages)
      (Server.init maxClients heartbeatTimeout ttl maxAttempts bannedNetworks) before =
        some server)
    (id : ConnId) (message : ServerMessage) (written : server.written event = some (id, message))
    (network : message.isNetworkEvent = true) :
    VerifiedBefore packages
      (Server.init maxClients heartbeatTimeout ttl maxAttempts bannedNetworks) id before := by
  subst split
  obtain ⟨alongBefore, alongAfter⟩ := holdsAlong_append along ran
  have trusted : Trusted packages
      (Server.init maxClients heartbeatTimeout ttl maxAttempts bannedNetworks) before server :=
    history_invariant (fun _ _ _ _ ranPast authenticatedOnly trusted stepped =>
        trusted_step ranPast trusted authenticatedOnly (step_cases stepped))
      (fun clientId entered => by cases entered) alongBefore ran
  rcases written_cases written with ⟨connection, rest, found, todo⟩ | ⟨clientId, target, stored⟩
  · exact verified_of_reply (gated_run ran) found todo network
  · have entered := alongAfter.1.1 clientId target (by rw [stored]; rfl)
    obtain ⟨writer, writerStored, verified⟩ := trusted clientId entered
    rw [stored] at writerStored
    exact Option.some.inj writerStored ▸ verified

/-! ### Two members of a network -/

/-- A client creates a network on its connection. -/
def createNetwork (id : ConnId) : List ServerEvent :=
  [.receive id ⟨"CREATE_NETWORK", payloadOf [("name", "home"), ("password", "secret")]⟩ (calm []),
    .advance id (calm []), .advance id (calm ["network"]), .advance id (calm []),
    .advance id (calm []), .advance id (calm [])]

/-- A client joins the network, up to the push of its announcement to the other member. -/
def joinNetwork (id : ConnId) : List ServerEvent :=
  [.receive id ⟨"JOIN_NETWORK", payloadOf [("network_id", "network"), ("password", "secret")]⟩
      (calm []),
    .advance id (calm []), .advance id (calm ["network"]), .advance id (calm [])]

/-- Two clients log in, the first creates a network, and the second joins it. -/
def twoMembers : List ServerEvent :=
  login 0 "client-0001" [] ++ createNetwork 0 ++ login 1 "client-0002" [] ++ joinNetwork 1

theorem networkEvents_verified_join :
    ∃ id message, (serverAfter twoMembers).written (.advance 1 (calm [])) = some (id, message) ∧
      message.isNetworkEvent = true ∧
      VerifiedBefore plainPackages exampleServer id twoMembers := by
  have ran := runFrom_serverAfter
    (show (runFrom (Server.step plainPackages) exampleServer twoMembers).isSome = true by
      decide +kernel)
  have along : HoldsAlong (Server.step plainPackages) (PushesAuthenticated plainPackages)
      exampleServer (twoMembers ++ [.advance 1 (calm [])]) := by decide +kernel
  have writes : ((serverAfter twoMembers).written (.advance 1 (calm []))).any
      (fun entry => entry.2.isNetworkEvent) = true := by decide +kernel
  obtain ⟨⟨id, message⟩, written, network⟩ := (Option.any_eq_true _ _).mp writes
  exact ⟨id, message, written, network,
    networkEvents_verified plainPackages 8 90 60 5 ∅ _ along twoMembers _ [] rfl _ ran id message
      written network⟩

/-- The first client's identity registers again on a third connection, which sends no response, and
the second client leaves the network, up to the push of its announcement. -/
def reregistered : List ServerEvent :=
  twoMembers ++
    [.advance 1 (calm []), .advance 1 (calm []), .advance 1 (calm []),
      .connect 2 ("10.0.0.3", 3), .receive 2 (registerMessage "client-0001" exampleKey) (calm []),
      .advance 2 (calm []), .advance 2 (calm []),
      .receive 1 ⟨"LEAVE_NETWORK", payloadOf [("network_id", "network")]⟩ (calm []),
      .advance 1 (calm []), .advance 1 (calm [])]

/-- The announcement is written to the third connection, on which no response was verified. -/
theorem event_written_to_unverified :
    (runFrom (Server.step plainPackages) exampleServer
        (reregistered ++ [.advance 1 (calm [])])).isSome = true ∧
      ∃ message, (serverAfter reregistered).written (.advance 1 (calm [])) = some (2, message) ∧
        message.isNetworkEvent = true ∧
        ¬ VerifiedBefore plainPackages exampleServer 2 reregistered := by
  have writes : ((serverAfter reregistered).written (.advance 1 (calm []))).any
      (fun entry => decide (entry.1 = 2) && entry.2.isNetworkEvent) = true := by decide +kernel
  obtain ⟨⟨id, message⟩, written, both⟩ := (Option.any_eq_true _ _).mp writes
  obtain ⟨same, network⟩ := Bool.and_eq_true_iff.mp both
  obtain rfl : id = 2 := of_decide_eq_true same
  exact ⟨by decide +kernel, message, written, network, not_happened (by decide +kernel)⟩

end LocalNetwork
