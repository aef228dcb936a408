/-
This file models the sessions of `localnetwork-cli`, `_make_session` and `_run_cli_command` of
`client/main.py`, against a server with other clients, and proves when they act as one
identity. The server keys memberships by client id. A session passes no client id to its
channel, and the channel then draws one, so that every command comes from a client that no
network has as a member; the identity directory holds the key and not the id.

A session registers under the id it drew, sends one command and ends. Memberships of the
drawn id therefore can only come from that one command, and a later list or leave has
another id. What a list shows is empty, and a leave is refused.
-/

import LocalNetwork.Admission
import LocalNetwork.ControlChannel
import LocalNetwork.NetworkEvents

namespace LocalNetwork

/-! ### Sessions -/

/-- The arguments that all commands share. -/
structure CliArgs where
  host : String
  port : Nat
  identityDir : Option String

/-- The choices of `--topology`. -/
inductive CliTopology where
  | mesh
  | hub
  | gateway
  deriving DecidableEq

/-- The topology of a message, through `topology_map`. -/
def CliTopology.name : CliTopology → String
  | .mesh => "mesh"
  | .hub => "hub_and_spoke"
  | .gateway => "gateway"

inductive CliCommand where
  | create (name password : String) (topology : CliTopology)
  | join (network password : String)
  | leave (network : String)
  | list
  deriving DecidableEq

/-- The request of a command. -/
def CliCommand.message : CliCommand → Message
  | .create name password topology => .made "CREATE_NETWORK"
      [("name", .str name), ("password", .str password), ("topology", .str topology.name)]
  | .join network password => .made "JOIN_NETWORK"
      [("network_id", .str network), ("password", .str password)]
  | .leave network => .made "LEAVE_NETWORK" [("network_id", .str network)]
  | .list => .made "LIST_NETWORKS" []

/-- `ControlChannel.__init__`: without a client id, or with an empty one, the drawn one is taken. -/
def openChannel (clientId : Option String) (uuid : String) : ControlChannel :=
  .init (match clientId with
    | some given => if given = "" then uuid else given
    | none => uuid) 1 60

/-- `_make_session`: the channel gets an address, and no client id. -/
def makeSession (_args : CliArgs) (uuid : String) : ControlChannel := openChannel none uuid

/-- A run of the program: its arguments, the id it draws and its command. -/
structure CliCall where
  args : CliArgs
  uuid : String
  command : CliCommand

/-- The client id that a run of the program registers. -/
def CliCall.clientId (call : CliCall) : String := (makeSession call.args call.uuid).clientId

/-- The messages of a session: those of `authenticate`, of the heartbeat task, and the command. -/
inductive SessionMessage where
  | register (publicKeyPem : String)
  | respond (signature challenge : String)
  | heartbeat (ts : Json)
  | command

def CliCall.message (call : CliCall) : SessionMessage → Message
  | .register publicKeyPem => (makeSession call.args call.uuid).registerMessage publicKeyPem
  | .respond signature challenge => .made "AUTH_RESPONSE"
      [("signature", .str signature), ("challenge", .str challenge)]
  | .heartbeat ts => .made "HEARTBEAT" [("ts", ts)]
  | .command => call.command.message

/-! ### What a command prints -/

/-- What a command learns from the reply that it waits for; it fails on every other reply. -/
inductive CliOutcome where
  | created (networkId : String)
  | joined (networkId : String)
  | left (networkId : String)
  | listed (networkIds : List String)
  | failed
  deriving DecidableEq

/-- The network that a client is a member of after a command. -/
def CliOutcome.gained : CliOutcome → Option String
  | .created networkId | .joined networkId => some networkId
  | _ => none

/-- The first reply to a command decides. -/
def CliCommand.outcome (command : CliCommand) (result : Except DispatchFailure (List Instr)) :
    CliOutcome :=
  match command, result with
  | .create _ _ _, .ok (.reply (.networkCreated networkId _ _ _ _) :: _) => .created networkId
  | .join _ _, .ok (.reply (.networkJoined networkId _) :: _) => .joined networkId
  | .leave _, .ok (.reply (.networkLeft networkId) :: _) => .left networkId
  | .list, .ok (.reply (.networkList networks) :: _) =>
    .listed (networks.map NetworkInfo.networkId)
  | _, _ => .failed

/-- The outcome of a call whose command reaches the server. -/
def CliCall.outcome (packages : Packages) (server : Server) (call : CliCall) (choice : Choice) :
    CliOutcome :=
  match server.handleCommand packages call.clientId call.command.message choice with
  | some handled => call.command.outcome handled.result
  | none => .failed

/-! ### The server, its other clients and the sessions -/

/-- A server with its events so far, the sessions by their connections, each with whether it has
sent its command, and the commands with their outcomes. -/
structure CliSystem where
  server : Server
  trace : List ServerEvent
  sessions : Dict ConnId (CliCall × Bool)
  outcomes : List (CliCommand × CliOutcome)

inductive CliEvent where
  /-- Anything but a message of a session. -/
  | other (event : ServerEvent)
  /-- The program starts and connects. -/
  | start (id : ConnId) (peer : Addr) (call : CliCall)
  /-- A message of a session arrives. -/
  | send (id : ConnId) (message : SessionMessage) (choice : Choice)

/-- The connection that a message arrives on. -/
def ServerEvent.receiver : ServerEvent → Option ConnId
  | .receive id _ _ => some id
  | _ => none

namespace CliSystem

def init (server : Server) : CliSystem := ⟨server, [], Dict.empty, []⟩

/-- One more event of the server. -/
def serve (packages : Packages) (system : CliSystem) (event : ServerEvent) : Option CliSystem :=
  (system.server.step packages event).map fun next =>
    { system with server := next, trace := system.trace ++ [event] }

/-- A session sends its command once, after `authenticate` has returned. -/
def step (packages : Packages) (system : CliSystem) : CliEvent → Option CliSystem
  | .other event =>
    if event.receiver.any system.sessions.contains then none else system.serve packages event
  | .start id peer call => (system.serve packages (.connect id peer)).map fun next =>
      { next with sessions := system.sessions.insert id (call, false) }
  | .send id message choice => (system.sessions.get? id).bind fun (call, sent) =>
    match message with
    | .command =>
      if sent ∨ system.server.commander id ≠ some call.clientId then none
      else (system.serve packages (.receive id (call.message .command) choice)).map fun next =>
        { next with
          sessions := system.sessions.insert id (call, true)
          outcomes := system.outcomes ++
            [(call.command, call.outcome packages system.server choice)] }
    | message => system.serve packages (.receive id (call.message message) choice)

end CliSystem

/-! ### One identity -/

/-- After a create or join of a network succeeded, every later list contains it until a leave of it
succeeds; and a leave of a network that a list showed succeeds, until then. -/
structure OneIdentity (outcomes : List (CliCommand × CliOutcome)) : Prop where
  listed : ∀ before command outcome middle networkIds after networkId,
    outcomes = before ++ (command, outcome) :: middle ++ (.list, .listed networkIds) :: after →
      outcome.gained = some networkId → (∀ entry ∈ middle, entry.2 ≠ .left networkId) →
        networkId ∈ networkIds
  leaves : ∀ before networkIds middle networkId outcome after,
    outcomes = before ++ (.list, .listed networkIds) :: middle ++
      (.leave networkId, outcome) :: after →
      networkId ∈ networkIds → (∀ entry ∈ middle, entry.2 ≠ .left networkId) →
        outcome = .left networkId

/-- A list is sent only while no create or join has succeeded. -/
def ListsFirst (system : CliSystem) : CliEvent → Prop
  | .send id .command _ => ∀ session ∈ system.sessions.get? id, session.1.command = .list →
      ∀ entry ∈ system.outcomes, entry.2.gained = none
  | _ => True

/-- A command and an outcome for a client that is in no network. -/
structure Outside (command : CliCommand) (outcome : CliOutcome) : Prop where
  lists : command = .list → outcome = .listed []
  stays : ∀ networkId, outcome ≠ .left networkId

/-- Commands of clients in no network, none of which lists after one that gained a network. -/
theorem oneIdentity_of_pairwise {outcomes : List (CliCommand × CliOutcome)}
    (outside : ∀ entry ∈ outcomes, Outside entry.1 entry.2)
    (pairwise : outcomes.Pairwise fun earlier later =>
      later.1 = .list → earlier.2.gained = none) : OneIdentity outcomes := by
  refine ⟨?_, ?_⟩
  · rintro before command outcome middle networkIds after networkId rfl gained -
    have later := (List.pairwise_append.mp pairwise).2.2 (command, outcome) (by simp)
      (.list, .listed networkIds) (by simp) rfl
    cases gained.symm.trans later
  · rintro before networkIds middle networkId outcome after rfl shown -
    have empty := (outside (.list, .listed networkIds) (by simp)).lists rfl
    obtain rfl := CliOutcome.listed.inj empty
    cases shown

/-- A list of nothing after a command that gained a network. -/
theorem not_gained_of_oneIdentity {outcomes : List (CliCommand × CliOutcome)}
    (outside : ∀ entry ∈ outcomes, Outside entry.1 entry.2)
    (identity : OneIdentity (outcomes ++ [(.list, .listed [])]))
    {entry : CliCommand × CliOutcome} (member : entry ∈ outcomes) :
    entry.2.gained = none := by
  rw [Option.eq_none_iff_forall_ne_some]
  intro networkId gained
  obtain ⟨before, middle, rfl⟩ := List.append_of_mem member
  have stays : ∀ other ∈ middle, other.2 ≠ .left networkId := fun other inside =>
    (outside other (by simp [inside])).stays networkId
  have shown := identity.listed before entry.1 entry.2 middle [] [] networkId (by simp) gained stays
  cases shown

/-! ### Fresh ids -/

/-- The connection and the client id of a well-formed REGISTER. -/
def registration (text : PyText) : ServerEvent → Option (ConnId × String)
  | .receive id message _ =>
    if message.type = "REGISTER" then
      match validateRegister text message.payload with
      | .ok (clientId, _) => some (id, clientId)
      | .error _ => none
    else none
  | _ => none

/-- The id that a session drew was registered on no other connection when its command arrives. -/
def OwnId (packages : Packages) (system : CliSystem) : CliEvent → Prop
  | .send id .command _ => ∀ session ∈ system.sessions.get? id,
    ∀ pair ∈ system.trace.filterMap (registration packages.text),
      pair.2 = session.1.clientId → pair.1 = id
  | _ => True

instance (system : CliSystem) (event : CliEvent) : Decidable (ListsFirst system event) := by
  unfold ListsFirst
  split <;> infer_instance

instance (packages : Packages) (system : CliSystem) (event : CliEvent) :
    Decidable (OwnId packages system event) := by
  unfold OwnId
  split <;> infer_instance

/-- A command makes a client a member of a network, by creating it or by joining it. -/
def Admits (packages : Packages) (id : ConnId) (server : Server) (event : ServerEvent) : Prop :=
  event.receiver = some id ∧ ∃ clientId networkId,
    Creates packages clientId networkId server event ∨
      Joins packages clientId networkId server event

variable {packages : Packages} {start server next : Server} {event : ServerEvent} {id : ConnId}
  {past : List ServerEvent}

/-- A command that admits is one of its two types, and its connection is ready for a client. -/
theorem admits_ready {clientId networkId : String}
    (admits : Creates packages clientId networkId server event ∨
      Joins packages clientId networkId server event) :
    ∃ id message choice connection, event = .receive id message choice ∧
      Ready server id clientId connection ∧
      (message.type = "CREATE_NETWORK" ∨ message.type = "JOIN_NETWORK") := by
  rcases admits with ⟨id, message, choice, connection, name, password, topology, passwordHash, rfl,
    ready, typed, -⟩ |
    ⟨id, message, choice, connection, name, password, record, rfl, ready, typed, -⟩
  · exact ⟨id, message, choice, connection, rfl, ready, .inl typed⟩
  · exact ⟨id, message, choice, connection, rfl, ready, .inr typed⟩

/-- An accepted REGISTER is well formed. -/
theorem registration_of_registers {clientId : String}
    (registers : Registers packages id clientId server event) :
    registration packages.text event = some (id, clientId) := by
  obtain ⟨message, choice, connection, publicKey, rfl, accepts⟩ := registers
  have accepted := accepts.accepted
  unfold Server.checkRegister at accepted
  split at accepted
  · cases accepted
  · rename_i registered publicKey' valid
    split at accepted
    · cases accepted
    · split at accepted
      · cases accepted
      · obtain ⟨rfl, rfl⟩ := Prod.mk.inj (Except.ok.inj accepted)
        rw [registration, if_pos accepts.typed, valid]

theorem mem_registrations {clientId : String}
    (registered : RegisteredOn packages start id clientId past) :
    (id, clientId) ∈ past.filterMap (registration packages.text) := by
  obtain ⟨before, event, after, state, rfl, -, registers⟩ := registered
  exact List.mem_filterMap.mpr ⟨event, by simp, registration_of_registers registers⟩

/-! ### The invariant of the sessions -/

/-- The server that the sessions meet, from its start. -/
def startServer (maxClients : Nat) (heartbeatTimeout ttl : Time) (maxAttempts : Int)
    (bannedNetworks : Finset String) : CliSystem :=
  .init (Server.init maxClients heartbeatTimeout ttl maxAttempts bannedNetworks)

namespace CliSystem

/-- The trace is a run of the server; before a session sends its command, its connection has
admitted no client to a network; and no session came from a client in a network. -/
structure Separate (packages : Packages) (start : Server) (system : CliSystem) : Prop where
  ran : runFrom (Server.step packages) start system.trace = some system.server
  unspent : ∀ id call, system.sessions.get? id = some (call, false) →
    ¬ Happened (Server.step packages) start (fun _ => Admits packages id) system.trace
  outside : ∀ entry ∈ system.outcomes, Outside entry.1 entry.2

variable {system after : CliSystem}

theorem serve_cases (served : system.serve packages event = some after) :
    ∃ next, system.server.step packages event = some next ∧
      after = { system with server := next, trace := system.trace ++ [event] } := by
  obtain ⟨next, stepped, rfl⟩ := Option.map_eq_some_iff.mp served
  exact ⟨next, stepped, rfl⟩

/-- An event that admits nobody on the connection of a session that has not sent its command. -/
theorem separate_serve (separate : Separate packages start system)
    (served : system.serve packages event = some after)
    (quiet : ∀ id call, system.sessions.get? id = some (call, false) →
      ¬ Admits packages id system.server event) : Separate packages start after := by
  obtain ⟨next, stepped, rfl⟩ := serve_cases served
  refine ⟨?_, fun id call found happened => ?_, separate.outside⟩
  · exact runFrom_append.mpr ⟨system.server, separate.ran,
      runFrom_cons.mpr ⟨next, stepped, rfl⟩⟩
  · rcases happened_snoc separate.ran happened with before | now
    · exact separate.unspent id call found before
    · exact quiet id call found now

end CliSystem

/-! ### A client in no network -/

variable {call : CliCall}

theorem listForClient_eq_nil {manager : NetworkManager} {clientId : String}
    (absent : ∀ networkId, clientId ∉ manager.members networkId) :
    manager.listForClient clientId = [] := by
  refine List.filter_eq_nil_iff.mpr fun record stored member => ?_
  obtain ⟨networkId, found⟩ := Dict.mem_values_iff.mp stored
  exact absent networkId (NetworkManager.mem_members.mpr ⟨record, found, of_decide_eq_true member⟩)

theorem outcome_leave {networkId : String} (commanded : call.command = .leave networkId)
    (choice : Choice) : call.outcome packages server choice =
      (CliCommand.leave networkId).outcome (server.onLeaveNetwork packages call.clientId
        (CliCommand.leave networkId).message).result := by
  unfold CliCall.outcome
  rw [commanded]
  rfl

theorem outcome_list (commanded : call.command = .list) (choice : Choice) :
    call.outcome packages server choice = .listed (((server.networks.listForClient
      call.clientId).map NetworkRecord.toDict).map NetworkInfo.networkId) := by
  unfold CliCall.outcome
  rw [commanded]
  rfl

/-- A create and a join are neither a list nor a leave. -/
theorem outside_gain (other : call.command ≠ .list)
    (stays : ∀ networkId, call.command ≠ .leave networkId) (choice : Choice) :
    Outside call.command (call.outcome packages server choice) := by
  refine ⟨fun same => absurd same other, fun networkId left => ?_⟩
  unfold CliCall.outcome CliCommand.outcome at left
  split at left
  · split at left <;> grind
  · cases left

/-- A client in no network sees an empty list and leaves nothing. -/
theorem outside_outcome (absent : ∀ networkId, call.clientId ∉ server.networks.members networkId)
    (choice : Choice) : Outside call.command (call.outcome packages server choice) := by
  cases commanded : call.command with
  | create | join =>
    rw [← commanded]
    exact outside_gain (by rw [commanded]; nofun) (by rw [commanded]; nofun) choice
  | leave network =>
    refine ⟨nofun, fun networkId => ?_⟩
    rw [outcome_leave commanded]
    unfold Server.onLeaveNetwork
    split
    · exact nofun
    · rename_i named valid
      rcases server.networks.leave_cases named call.clientId with refused |
        ⟨record, stored, member, -⟩
      · rw [refused]
        exact nofun
      · exact absurd (NetworkManager.mem_members.mpr ⟨record, stored, member⟩) (absent named)
  | list =>
    refine ⟨fun _ => ?_, by rw [outcome_list commanded]; exact nofun⟩
    rw [outcome_list commanded, listForClient_eq_nil absent]
    rfl

/-! ### Every run -/

section Runs

variable {maxClients : Nat} {heartbeatTimeout ttl : Time} {maxAttempts : Int}
  {bannedNetworks : Finset String} {system after : CliSystem}

/-- The client of a command that admits had registered on the connection. -/
theorem registeredOn_of_ready {clientId : String} {connection : Connection}
    (ran : runFrom (Server.step packages)
      (Server.init maxClients heartbeatTimeout ttl maxAttempts bannedNetworks) past = some server)
    (ready : Ready server id clientId connection) :
    RegisteredOn packages
      (Server.init maxClients heartbeatTimeout ttl maxAttempts bannedNetworks) id clientId past :=
  ((gated_run ran).registeredOnly ready.found ready.registered ready.authenticated).1

/-- A session whose id is its own comes from a client that is in no network. -/
theorem absent_of_own (separate : CliSystem.Separate packages
      (Server.init maxClients heartbeatTimeout ttl maxAttempts bannedNetworks) system)
    (own : ∀ pair ∈ system.trace.filterMap (registration packages.text),
      pair.2 = call.clientId → pair.1 = id)
    (found : system.sessions.get? id = some (call, false)) (networkId : String) :
    call.clientId ∉ system.server.networks.members networkId := by
  intro member
  have initially : call.clientId ∉ (Server.init maxClients heartbeatTimeout ttl maxAttempts
      bannedNetworks).networks.members networkId := by
    rw [NetworkManager.mem_members]
    rintro ⟨record, stored, -⟩
    cases stored
  obtain ⟨before, event, rest, state, split, ranBefore, admits⟩ :=
    admitted_since initially separate.ran member
  obtain ⟨other, message, choice, connection, received, ready, -⟩ := admits_ready admits
  have registered := (registeredOn_of_ready ranBefore ready).append (event :: rest)
  rw [← split] at registered
  obtain rfl := own (other, call.clientId) (mem_registrations registered) rfl
  refine separate.unspent other call found ⟨before, event, rest, state, split, ranBefore, ?_, ?_⟩
  · rw [received]
    rfl
  · exact ⟨call.clientId, networkId, admits⟩

/-- A session that starts has a new connection, on which nobody was admitted. -/
theorem separate_start {peer : Addr} (separate : CliSystem.Separate packages
      (Server.init maxClients heartbeatTimeout ttl maxAttempts bannedNetworks) system)
    (served : system.serve packages (.connect id peer) = some after) :
    CliSystem.Separate packages
      (Server.init maxClients heartbeatTimeout ttl maxAttempts bannedNetworks)
      { after with sessions := system.sessions.insert id (call, false) } := by
  have next := CliSystem.separate_serve separate served fun _ _ _ admits => by cases admits.1
  obtain ⟨reached, stepped, rfl⟩ := CliSystem.serve_cases served
  have fresh : system.server.connections.get? id = none := by
    rw [Server.step] at stepped
    split at stepped
    · cases stepped
    · assumption
  refine ⟨next.ran, fun other stored found happened => ?_, next.outside⟩
  by_cases same : other = id
  · subst same
    rcases happened_snoc separate.ran happened with earlier | now
    · obtain ⟨before, event, rest, state, split, ranBefore, receives, clientId, networkId,
        admits⟩ := earlier
      obtain ⟨receiver, message, choice, connection, rfl, ready, -⟩ := admits_ready admits
      obtain rfl := Option.some.inj receives
      have registered := (registeredOn_of_ready ranBefore ready).append
        (.receive receiver message choice :: rest)
      rw [← split] at registered
      exact (gated_run separate.ran).absent receiver fresh clientId registered
    · cases now.1
  · rw [Dict.get?_insert_of_ne _ _ same] at found
    exact next.unspent other stored found happened

/-- The command of a session spends it, and has an outcome for a client in no network. -/
theorem separate_command {choice : Choice} (separate : CliSystem.Separate packages
      (Server.init maxClients heartbeatTimeout ttl maxAttempts bannedNetworks) system)
    (own : ∀ pair ∈ system.trace.filterMap (registration packages.text),
      pair.2 = call.clientId → pair.1 = id)
    (found : system.sessions.get? id = some (call, false))
    (served : system.serve packages (.receive id (call.message .command) choice) = some after) :
    CliSystem.Separate packages
      (Server.init maxClients heartbeatTimeout ttl maxAttempts bannedNetworks)
      { after with
        sessions := system.sessions.insert id (call, true)
        outcomes := system.outcomes ++
          [(call.command, call.outcome packages system.server choice)] } := by
  have outside : Outside call.command (call.outcome packages system.server choice) :=
    outside_outcome (absent_of_own separate own found) choice
  obtain ⟨next, stepped, rfl⟩ := CliSystem.serve_cases served
  refine ⟨?_, fun other stored unsent happened => ?_, fun entry member => ?_⟩
  · exact runFrom_append.mpr ⟨system.server, separate.ran, runFrom_cons.mpr ⟨next, stepped, rfl⟩⟩
  · have different : other ≠ id := by
      rintro rfl
      rw [Dict.get?_insert_self] at unsent
      cases unsent
    rw [Dict.get?_insert_of_ne _ _ different] at unsent
    rcases happened_snoc separate.ran happened with before | now
    · exact separate.unspent other stored unsent before
    · exact different (Option.some.inj now.1).symm
  · rcases List.mem_append.mp member with before | last
    · exact separate.outside entry before
    · obtain rfl := List.mem_singleton.mp last
      exact outside

theorem not_admits {message : Message} {choice : Choice} {other : ConnId}
    (create : message.type ≠ "CREATE_NETWORK") (join : message.type ≠ "JOIN_NETWORK") :
    ¬ Admits packages other server (.receive id message choice) := by
  rintro ⟨-, clientId, networkId, admits⟩
  obtain ⟨receiver, same, _, connection, received, -, typed⟩ := admits_ready admits
  obtain ⟨rfl, rfl, rfl⟩ := ServerEvent.receive.inj received
  exact typed.elim create join

theorem separate_step {event : CliEvent} (separate : CliSystem.Separate packages
      (Server.init maxClients heartbeatTimeout ttl maxAttempts bannedNetworks) system)
    (own : OwnId packages system event) (stepped : system.step packages event = some after) :
    CliSystem.Separate packages
      (Server.init maxClients heartbeatTimeout ttl maxAttempts bannedNetworks) after := by
  cases event with
  | other event =>
    unfold CliSystem.step at stepped
    simp only at stepped
    split at stepped
    · cases stepped
    · rename_i notSession
      refine CliSystem.separate_serve separate stepped fun id call found admits => notSession ?_
      rw [admits.1]
      exact Dict.contains_iff.mpr ⟨_, found⟩
  | start id peer call =>
    obtain ⟨served, serves, rfl⟩ := Option.map_eq_some_iff.mp stepped
    exact separate_start separate serves
  | send id message choice =>
    obtain ⟨⟨call, sent⟩, found, sends⟩ := Option.bind_eq_some_iff.mp stepped
    cases message with
    | register | respond | heartbeat =>
      exact CliSystem.separate_serve separate sends fun _ _ _ =>
        not_admits (by simp [CliCall.message, ControlChannel.registerMessage])
          (by simp [CliCall.message, ControlChannel.registerMessage])
    | command =>
      simp only at sends
      split at sends
      · cases sends
      · rename_i ready
        obtain ⟨served, serves, rfl⟩ := Option.map_eq_some_iff.mp sends
        cases sent with
        | true => exact absurd (.inl rfl) ready
        | false => exact separate_command separate (own (call, false) found) found serves

/-- What a step adds to the outcomes: nothing, or the command of a session. -/
theorem outcomes_cases {event : CliEvent} (stepped : system.step packages event = some after) :
    (ListsFirst system event ∧ after.outcomes = system.outcomes) ∨
      ∃ id choice call, event = .send id .command choice ∧
        system.sessions.get? id = some (call, false) ∧
        after.outcomes = system.outcomes ++
          [(call.command, call.outcome packages system.server choice)] := by
  cases event with
  | other event =>
    unfold CliSystem.step at stepped
    simp only at stepped
    split at stepped
    · cases stepped
    · obtain ⟨next, -, rfl⟩ := CliSystem.serve_cases stepped
      exact .inl ⟨trivial, rfl⟩
  | start id peer call =>
    obtain ⟨served, serves, rfl⟩ := Option.map_eq_some_iff.mp stepped
    obtain ⟨next, -, rfl⟩ := CliSystem.serve_cases serves
    exact .inl ⟨trivial, rfl⟩
  | send id message choice =>
    obtain ⟨⟨call, sent⟩, found, sends⟩ := Option.bind_eq_some_iff.mp stepped
    cases message with
    | register | respond | heartbeat =>
      obtain ⟨next, -, rfl⟩ := CliSystem.serve_cases sends
      exact .inl ⟨trivial, rfl⟩
    | command =>
      simp only at sends
      split at sends
      · cases sends
      · rename_i ready
        obtain ⟨served, serves, rfl⟩ := Option.map_eq_some_iff.mp sends
        obtain ⟨next, -, rfl⟩ := CliSystem.serve_cases serves
        cases sent with
        | true => exact absurd (.inl rfl) ready
        | false => exact .inr ⟨id, choice, call, rfl, found, rfl⟩

/-- The sessions are separate, and no command lists after one that gained a network. -/
structure CliInvariant (packages : Packages) (start : Server) (system : CliSystem) : Prop where
  separate : CliSystem.Separate packages start system
  pairwise : system.outcomes.Pairwise fun earlier later =>
    later.1 = .list → earlier.2.gained = none

theorem cliInvariant_step {event : CliEvent} (invariant : CliInvariant packages
      (Server.init maxClients heartbeatTimeout ttl maxAttempts bannedNetworks) system)
    (own : OwnId packages system event) (first : ListsFirst system event)
    (stepped : system.step packages event = some after) :
    CliInvariant packages
      (Server.init maxClients heartbeatTimeout ttl maxAttempts bannedNetworks) after := by
  refine ⟨separate_step invariant.separate own stepped, ?_⟩
  rcases outcomes_cases stepped with ⟨-, same⟩ | ⟨id, choice, call, rfl, found, added⟩
  · rw [same]
    exact invariant.pairwise
  · rw [added]
    refine List.pairwise_append.mpr ⟨invariant.pairwise, List.pairwise_singleton _ _, ?_⟩
    intro earlier member later last list
    obtain rfl := List.mem_singleton.mp last
    exact first (call, false) found list earlier member

/-- A step that keeps one identity sends no list too late. -/
theorem listsFirst_of_step {event : CliEvent} (separate : CliSystem.Separate packages
      (Server.init maxClients heartbeatTimeout ttl maxAttempts bannedNetworks) system)
    (own : OwnId packages system event) (stepped : system.step packages event = some after)
    (identity : OneIdentity after.outcomes) : ListsFirst system event := by
  have outside := (separate_step separate own stepped).outside
  rcases outcomes_cases stepped with ⟨first, -⟩ | ⟨id, choice, call, rfl, found, added⟩
  · exact first
  · intro session stored list entry member
    obtain rfl := Option.some.inj (found.symm.trans stored)
    have empty : call.outcome packages system.server choice = .listed [] :=
      (outside (call.command, call.outcome packages system.server choice)
        (by rw [added]; simp)).lists list
    rw [added, list, empty] at identity
    exact not_gained_of_oneIdentity separate.outside identity member

/-- In every state that a run passes through, the commands so far act as one identity, if and only
if no step of the run sends a list after a create or join that succeeded. The ids that sessions draw
are their own. -/
theorem one_identity_iff {events : List CliEvent} {final : CliSystem}
    (ran : runFrom (CliSystem.step packages)
      (startServer maxClients heartbeatTimeout ttl maxAttempts bannedNetworks) events = some final)
    (own : HoldsAlong (CliSystem.step packages) (OwnId packages)
      (startServer maxClients heartbeatTimeout ttl maxAttempts bannedNetworks) events) :
    (∀ before after reached, events = before ++ after →
      runFrom (CliSystem.step packages)
        (startServer maxClients heartbeatTimeout ttl maxAttempts bannedNetworks) before =
          some reached → OneIdentity reached.outcomes) ↔
      HoldsAlong (CliSystem.step packages) ListsFirst
        (startServer maxClients heartbeatTimeout ttl maxAttempts bannedNetworks) events := by
  have started : CliSystem.Separate packages
      (Server.init maxClients heartbeatTimeout ttl maxAttempts bannedNetworks)
      (startServer maxClients heartbeatTimeout ttl maxAttempts bannedNetworks) := by
    refine ⟨rfl, fun _ _ opened => ?_, fun _ member => absurd member List.not_mem_nil⟩
    cases opened
  exact safe_iff_holdsAlong
    (fun system invariant => oneIdentity_of_pairwise invariant.separate.outside invariant.pairwise)
    (fun system event next taken first invariant stepped =>
      cliInvariant_step invariant taken.1 first stepped)
    (fun system event taken invariant identity =>
      let ⟨next, stepped⟩ := taken.2
      listsFirst_of_step invariant.separate taken.1 stepped (identity next stepped))
    (holdsAlong_taken own ran) ⟨started, List.Pairwise.nil⟩

end Runs

/-! ### Two sessions -/

/-- The program connects, authenticates and sends its command. -/
def cliSession (id : ConnId) (uuid : String) (command : CliCommand) : List CliEvent :=
  [.start id ("10.0.0.1", 1) ⟨⟨"127.0.0.1", 8470, some "identity"⟩, uuid, command⟩,
    .send id (.register exampleKey) (calm []), .other (.advance id (calm [])),
    .other (.advance id (calm [])), .send id (.respond "07" "07") (calm []),
    .other (.advance id (calm [])), .other (.advance id (calm [])),
    .other (.advance id (calm [])), .send id .command (calm [])]

def homeNetwork : CliCommand := .create "home" "secret" .mesh

/-- A session lists before another one creates a network. -/
def listsThenCreates : List CliEvent :=
  cliSession 0 "client-0001" .list ++ cliSession 1 "client-0002" homeNetwork

/-- A session creates a network, and another one with the same identity lists. -/
def createsThenLists : List CliEvent :=
  cliSession 0 "client-0001" homeNetwork ++ cliSession 1 "client-0002" .list

theorem one_identity_iff_listsThenCreates :
    HoldsAlong (CliSystem.step plainPackages) ListsFirst (startServer 8 90 60 5 ∅)
        listsThenCreates ∧
      ∀ before after reached, listsThenCreates = before ++ after →
        runFrom (CliSystem.step plainPackages) (startServer 8 90 60 5 ∅) before = some reached →
          OneIdentity reached.outcomes := by
  have ran := some_of_isSome (show (runFrom (CliSystem.step plainPackages) (startServer 8 90 60 5 ∅)
    listsThenCreates).isSome = true by decide +kernel) (startServer 8 90 60 5 ∅)
  have first : HoldsAlong (CliSystem.step plainPackages) ListsFirst (startServer 8 90 60 5 ∅)
      listsThenCreates := by decide +kernel
  exact ⟨first, (one_identity_iff ran (by decide +kernel)).mpr first⟩

theorem created_network_not_listed :
    ∃ final, runFrom (CliSystem.step plainPackages) (startServer 8 90 60 5 ∅) createsThenLists =
        some final ∧
      HoldsAlong (CliSystem.step plainPackages) (OwnId plainPackages) (startServer 8 90 60 5 ∅)
        createsThenLists ∧
      final.outcomes = [(homeNetwork, .created "network"), (.list, .listed [])] ∧
      ¬ OneIdentity final.outcomes := by
  have ran := some_of_isSome (show (runFrom (CliSystem.step plainPackages) (startServer 8 90 60 5 ∅)
    createsThenLists).isSome = true by decide +kernel) (startServer 8 90 60 5 ∅)
  have outcomes : ((runFrom (CliSystem.step plainPackages) (startServer 8 90 60 5 ∅)
      createsThenLists).getD (startServer 8 90 60 5 ∅)).outcomes =
        [(homeNetwork, .created "network"), (.list, .listed [])] := by decide +kernel
  refine ⟨_, ran, by decide +kernel, outcomes, fun identity => ?_⟩
  have shown := identity.listed [] homeNetwork (.created "network") [] [] [] "network" outcomes rfl
    (by simp)
  cases shown

end LocalNetwork
