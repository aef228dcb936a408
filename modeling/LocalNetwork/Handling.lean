/-
This file follows one command from its arrival to the end of its handling: the connection
receives it, the handler changes the shared state in one go, and the connection takes the
instructions that are left, its sends among them.

The handling of a command touches nothing that belongs to another client, whatever its
outcome.
-/

import LocalNetwork.Lifecycle
import LocalNetwork.RelayPaths

namespace LocalNetwork

/-- A connection receives a message and takes its own instructions, with no other task in
between. -/
def handling (id : ConnId) (message : Message) (choice : Choice) (choices : List Choice) :
    List ServerEvent :=
  .receive id message choice :: choices.map (.advance id)

/-- A connection is ready for a command of its client. -/
structure Ready (server : Server) (id : ConnId) (clientId : String) (connection : Connection) :
    Prop where
  found : server.connections.get? id = some connection
  waiting : connection.Waiting
  registered : connection.clientId = some clientId
  authenticated : connection.authenticated = true

/-- The server once a handler has run. -/
def Server.dispatched (server : Server) (id : ConnId) (clientId : String) (handled : Handled) :
    Server :=
  { server with networks := handled.networks, relay := handled.relay }.withTodo id
    (Server.dispatchInstrs clientId handled.result)

variable {packages : Packages} {server next final : Server} {id : ConnId} {clientId : String}
  {connection : Connection} {message : Message} {choice : Choice}

theorem step_of_ready (ready : Ready server id clientId connection) :
    server.step packages (.receive id message choice) =
      (server.handleCommand packages clientId message choice).map
        (server.dispatched id clientId) := by
  simp only [Server.step, ready.found, Option.bind_some, if_pos ready.waiting, Server.receive,
    ready.registered, ready.authenticated, Bool.not_true, Bool.false_eq_true, if_false,
    Server.dispatch, Option.map_map]
  rfl

/-- The handling of a command is its handler and then the instructions that are left. -/
theorem handling_run {choices : List Choice} (ready : Ready server id clientId connection)
    (ran : runFrom (Server.step packages) server (handling id message choice choices) =
      some final) :
    ∃ handled, server.handleCommand packages clientId message choice = some handled ∧
      runFrom (Server.step packages) (server.dispatched id clientId handled)
        (choices.map (.advance id)) = some final := by
  obtain ⟨next, stepped, rest⟩ := runFrom_cons.mp ran
  rw [step_of_ready ready] at stepped
  obtain ⟨handled, commanded, rfl⟩ := Option.map_eq_some_iff.mp stepped
  exact ⟨handled, commanded, rest⟩

theorem get_dispatched (ready : Ready server id clientId connection) (handled : Handled) :
    (server.dispatched id clientId handled).connections.get? id =
      some { connection with todo := Server.dispatchInstrs clientId handled.result } :=
  Server.get_withTodo_self ready.found _

/-- The invariant rule for the instructions of one connection. -/
theorem advances_invariant {invariant : Server → Prop} {choices : List Choice} {state : Server}
    (kept : ∀ state next, ∀ taken ∈ choices, invariant state →
      state.step packages (.advance id taken) = some next → invariant next)
    (holds : invariant state)
    (ran : runFrom (Server.step packages) state (choices.map (.advance id)) = some final) :
    invariant final := by
  have along : HoldsAlong (Server.step packages)
      (fun _ event => ∃ taken ∈ choices, event = .advance id taken) state
      (choices.map (.advance id)) := by
    refine holdsAlong_of_forall (fun event member _ => ?_) state
    obtain ⟨taken, listed, rfl⟩ := List.mem_map.mp member
    exact ⟨taken, listed, rfl⟩
  refine run_invariant (fun before event after own holds stepped => ?_) holds along ran
  obtain ⟨taken, listed, rfl⟩ := own
  exact kept before after taken listed holds stepped

/-! ### Other clients -/

/-- What a network says about a client: whether it is a member, the hub and the gateway. -/
structure Standing where
  member : Bool
  hub : Bool
  gateway : Bool
  deriving DecidableEq

def NetworkRecord.standing (record : NetworkRecord) (clientId : String) : Standing :=
  ⟨decide (clientId ∈ record.members), decide (record.hubId = some clientId),
    decide (record.gatewayId = some clientId)⟩

namespace NetworkManager

/-- The standing of a client in a network; it has none in a network that does not exist. -/
def standing (manager : NetworkManager) (networkId clientId : String) : Standing :=
  match manager.get networkId with
  | none => ⟨false, false, false⟩
  | some record => record.standing clientId

/-- The service under an id on a network. -/
def serviceAt (manager : NetworkManager) (networkId serviceId : String) : Option ServiceRecord :=
  (manager.services.get? networkId).bind fun serviceMap => serviceMap.get? serviceId

end NetworkManager

/-- Everything that belongs to a client is the same in two states: its record, its standing in
every network and the services it provides. -/
structure Untouched (other : String) (before after : NetworkManager) : Prop where
  record : after.registry.get other = before.registry.get other
  standing : ∀ networkId, after.standing networkId other = before.standing networkId other
  services : ∀ networkId serviceId service, service.providerId = other →
    (after.serviceAt networkId serviceId = some service ↔
      before.serviceAt networkId serviceId = some service)

/-- A drawn id is that of no network and of no service. -/
structure FreshId (manager : NetworkManager) (uuid : String) : Prop where
  network : manager.get uuid = none
  service : ∀ networkId, manager.serviceAt networkId uuid = none

section Frame

variable {other networkId : String} {before after third manager : NetworkManager}

theorem Untouched.refl (other : String) (manager : NetworkManager) :
    Untouched other manager manager :=
  ⟨rfl, fun _ => rfl, fun _ _ _ _ => Iff.rfl⟩

theorem Untouched.trans (first : Untouched other before after)
    (second : Untouched other after third) : Untouched other before third where
  record := second.record.trans first.record
  standing networkId := (second.standing networkId).trans (first.standing networkId)
  services networkId serviceId service provides :=
    (second.services networkId serviceId service provides).trans
      (first.services networkId serviceId service provides)

/-- A change of the registry that keeps the client's record. -/
theorem untouched_registry (registry : ClientRegistry)
    (record : registry.get other = manager.registry.get other) :
    Untouched other manager { manager with registry := registry } :=
  ⟨record, fun _ => rfl, fun _ _ _ _ => Iff.rfl⟩

/-- A change of the record of one network that keeps the client's standing in it. -/
theorem untouched_modify (networkId : String) (update : NetworkRecord → NetworkRecord)
    (registry : ClientRegistry) (record : registry.get other = manager.registry.get other)
    (standing : ∀ record, (update record).standing other = record.standing other) :
    Untouched other manager { manager with
      networks := manager.networks.modify networkId update
      registry := registry } := by
  refine ⟨record, fun oneNetwork => ?_, fun _ _ _ _ => Iff.rfl⟩
  simp only [NetworkManager.standing, NetworkManager.get, Dict.get?_modify]
  by_cases same : oneNetwork = networkId
  · rw [if_pos same]
    cases manager.networks.get? oneNetwork with
    | none => rfl
    | some stored => exact standing stored
  · rw [if_neg same]

/-- A new member does not change the standing of another client. -/
theorem standing_insert (record : NetworkRecord) (different : other ≠ clientId) :
    ({ record with members := insert clientId record.members } : NetworkRecord).standing other =
      record.standing other := by
  simp [NetworkRecord.standing, different]

/-- A member that leaves does not change the standing of another client. -/
theorem standing_withoutMember (record : NetworkRecord) (different : other ≠ clientId) :
    (NetworkManager.withoutMember clientId record).standing other = record.standing other := by
  have role (holder : Option String) :
      ((if holder = some clientId then none else holder) = some other) = (holder = some other) := by
    by_cases own : holder = some clientId
    · rw [if_pos own, own]
      simp [different.symm]
    · rw [if_neg own]
  simp [NetworkRecord.standing, NetworkManager.withoutMember, different, role]

/-- A network under a fresh id has only its owner as a member, a hub or a gateway. -/
theorem untouched_create (fresh : manager.get networkId = none) (name : String)
    (passwordHash : Bytes) (kind : Topology) (now : Time) (registry : ClientRegistry)
    (inviteCodes networkInviteCodes : Dict String String)
    (record : registry.get other = manager.registry.get other) (different : other ≠ clientId) :
    Untouched other manager { manager with
      networks := manager.networks.insert networkId
        (NetworkManager.newNetwork networkId name passwordHash clientId kind now)
      registry := registry
      inviteCodes := inviteCodes
      networkInviteCodes := networkInviteCodes } := by
  refine ⟨record, fun oneNetwork => ?_, fun _ _ _ _ => Iff.rfl⟩
  simp only [NetworkManager.standing, NetworkManager.get, Dict.get?_insert]
  by_cases same : oneNetwork = networkId
  · unfold NetworkManager.get at fresh
    rw [if_pos same, same, fresh]
    cases kind <;>
      simp [NetworkRecord.standing, NetworkManager.newNetwork, different, different.symm]
  · rw [if_neg same]

/-- A change of one entry of the services, neither of whose values is a service of the client. -/
theorem untouched_services (networkId serviceId : String)
    (services : Dict String (Dict String ServiceRecord))
    (elsewhere : ∀ oneNetwork oneService, ¬ (oneNetwork = networkId ∧ oneService = serviceId) →
      ((services.get? oneNetwork).bind fun serviceMap => serviceMap.get? oneService) =
        manager.serviceAt oneNetwork oneService)
    (old : ∀ service, manager.serviceAt networkId serviceId = some service →
      service.providerId ≠ other)
    (new : ∀ service, ((services.get? networkId).bind fun serviceMap =>
      serviceMap.get? serviceId) = some service → service.providerId ≠ other) :
    Untouched other manager { manager with services := services } := by
  refine ⟨rfl, fun _ => rfl, fun oneNetwork oneService service provides => ?_⟩
  by_cases here : oneNetwork = networkId ∧ oneService = serviceId
  · obtain ⟨rfl, rfl⟩ := here
    exact ⟨fun stored => absurd provides (new service stored),
      fun stored => absurd provides (old service stored)⟩
  · rw [NetworkManager.serviceAt, elsewhere oneNetwork oneService here]

/-- A service stored under a fresh id. -/
theorem untouched_expose (uuid : String) (service : ServiceRecord)
    (fresh : ∀ oneNetwork, manager.serviceAt oneNetwork uuid = none)
    (own : service.providerId ≠ other) :
    Untouched other manager { manager with
      services := manager.services.insert networkId
        (((manager.services.get? networkId).getD Dict.empty).insert uuid service) } := by
  refine untouched_services networkId uuid _ (fun oneNetwork oneService apart => ?_)
    (fun stored found => ?_) (fun stored found => ?_)
  · simp only [Dict.get?_insert, NetworkManager.serviceAt]
    by_cases here : oneNetwork = networkId
    · rw [if_pos here, here, Option.bind_some, Dict.get?_insert,
        if_neg fun same => apart ⟨here, same⟩]
      cases manager.services.get? networkId with
      | none => rfl
      | some serviceMap => rfl
    · rw [if_neg here]
  · cases (fresh networkId).symm.trans found
  · rw [Dict.get?_insert_self, Option.bind_some, Dict.get?_insert_self] at found
    obtain rfl := Option.some.inj found
    exact own

/-- A service that a client provides, taken out of its network. -/
theorem untouched_unexpose {serviceId : String} {serviceMap : Dict String ServiceRecord}
    (found : manager.services.entries.find?
      (fun entry => NetworkManager.providedBy serviceId clientId entry.2) =
        some (networkId, serviceMap)) (different : other ≠ clientId) :
    Untouched other manager { manager with
      services := manager.services.insert networkId (serviceMap.erase serviceId) } := by
  have provided := List.find?_some found
  have stored := Dict.get?_eq_some_iff.mpr (List.mem_of_find?_eq_some found)
  refine untouched_services networkId serviceId _ (fun oneNetwork oneService apart => ?_)
    (fun service present => ?_) (fun service present => ?_)
  · simp only [Dict.get?_insert, NetworkManager.serviceAt]
    by_cases here : oneNetwork = networkId
    · rw [if_pos here, here, stored, Option.bind_some, Option.bind_some,
        Dict.get?_erase_of_ne _ fun same => apart ⟨here, same⟩]
    · rw [if_neg here]
  · rw [NetworkManager.serviceAt, stored, Option.bind_some] at present
    simp only [NetworkManager.providedBy, present] at provided
    rw [of_decide_eq_true provided]
    exact different.symm
  · rw [Dict.get?_insert_self, Option.bind_some, Dict.get?_erase_self] at present
    cases present

end Frame

/-- The handler of a command touches nothing that belongs to another client. -/
theorem untouched_command {handled : Handled} {other : String}
    (ran : server.handleCommand packages clientId message choice = some handled)
    (different : other ≠ clientId) (fresh : FreshId server.networks choice.uuid) :
    Untouched other server.networks handled.networks := by
  have record := (Server.spec_handleCommand ran).registry.get_of_ne different
  cases Server.command_cases ran with
  | heartbeat typed => exact untouched_registry _ record
  | created name password topology passwordHash kind inviteCodes networkInviteCodes inviteCode typed
      valid hashed =>
    exact untouched_create fresh.network _ _ _ _ _ _ _ record different
  | joined networkId networkIdOrCode password stored typed valid named found allowed accepted =>
    exact untouched_modify networkId _ _ record fun record => standing_insert record different
  | left networkId stored typed valid found member =>
    exact untouched_modify networkId _ _ record fun record => standing_withoutMember record different
  | exposed networkId name protocol localHost localPort first rest stored typed valid listed chosen
      found member => exact untouched_expose _ _ fresh.service different.symm
  | unexposed serviceId networkId serviceMap typed valid found =>
    exact untouched_unexpose found different
  | _ => exact Untouched.refl other server.networks

/-- A connection is in the command loop for a client, or past it. -/
def Serves (server : Server) (id : ConnId) (clientId : String) : Prop :=
  ∃ connection stage, server.connections.get? id = some connection ∧ connection.At stage ∧
    (stage = .commanding clientId ∨ stage = .disconnecting clientId ∨ stage = .leaving)

theorem serves_dispatched {handled : Handled} (ready : Ready server id clientId connection)
    (ran : server.handleCommand packages clientId message choice = some handled) :
    Serves (server.dispatched id clientId handled) id clientId := by
  have locals : (Stage.commanding clientId).Locals connection :=
    ⟨ready.registered, ready.authenticated, ready.waiting.1⟩
  have here := locals.withTodo _ (allows_dispatchInstrs (Server.spec_handleCommand ran))
  rw [Stage.finale, List.append_nil] at here
  exact ⟨_, _, get_dispatched ready handled, here, .inl rfl⟩

/-- How far the handling of a command has come: its connection is still that of the client, and
nothing of another client has been touched. -/
structure Isolates (start : Server) (id : ConnId) (clientId other : String) (server : Server) :
    Prop where
  serves : Serves server id clientId
  untouched : Untouched other start.networks server.networks

/-- The instructions of a connection touch nothing that belongs to a client other than its own. -/
theorem Isolates.advance {start : Server} {other : String} (different : other ≠ clientId)
    (isolates : Isolates start id clientId other server)
    (stepped : server.step packages (.advance id choice) = some next) :
    Isolates start id clientId other next := by
  obtain ⟨⟨connection, stage, found, here, served⟩, untouched⟩ := isolates
  constructor
  · obtain ⟨moved, later, movedFound, there, move⟩ := lifecycle_step (step_cases stepped) found here
    refine ⟨moved, later, movedFound, there, ?_⟩
    cases move with
    | stay => exact served
    | disconnect commander =>
      rcases served with same | same | same
      · exact .inr (.inl (by rw [Stage.commanding.inj same]))
      · cases same
      · cases same
    | leave => exact .inr (.inr rfl)
    | _ => rcases served with same | same | same <;> cases same
  · refine untouched.trans ?_
    cases step_cases stepped with
    | disconnect _ actor same commander order leaves actorFound reading registered authenticated
        visited =>
      obtain rfl := Option.some.inj leaves
      obtain rfl := Option.some.inj (actorFound.symm.trans found)
      obtain rfl := at_commanding here reading registered authenticated
      have own : commander = clientId := by
        rcases served with same | same | same
        · exact Stage.commanding.inj same
        · cases same
        · cases same
      refine untouched_registry _ ?_
      rw [ClientRegistry.get_unregister, if_neg fun same => different (same.trans own)]
      rfl
    | _ => exact Untouched.refl other server.networks

/-- Handling a command of a client leaves everything that belongs to another client as it was: its
registry record, its standing in every network, and the services it provides. It does so whatever
the sends do, and also if the connection is torn down over them. -/
theorem command_isolation (packages : Packages) (server final : Server) (id : ConnId)
    (clientId : String) (connection : Connection) (ready : Ready server id clientId connection)
    (message : Message) (choice : Choice) (fresh : FreshId server.networks choice.uuid)
    (choices : List Choice)
    (ran : runFrom (Server.step packages) server (handling id message choice choices) =
      some final) (other : String) (different : other ≠ clientId) :
    Untouched other server.networks final.networks := by
  obtain ⟨handled, commanded, rest⟩ := handling_run ready ran
  have initially : Isolates server id clientId other (server.dispatched id clientId handled) :=
    ⟨serves_dispatched ready commanded, untouched_command commanded different fresh⟩
  exact (advances_invariant (fun _ _ _ _ isolates stepped => isolates.advance different stepped)
    initially rest).untouched

/-- The connection of a run that is ready for a command. -/
theorem ready_serverAfter {events : List ServerEvent}
    (ready : ((serverAfter events).connections.get? id).any (fun connection =>
      decide (connection.Waiting ∧ connection.clientId = some clientId ∧
        connection.authenticated = true)) = true) :
    ∃ connection, Ready (serverAfter events) id clientId connection := by
  obtain ⟨connection, found, holds⟩ := (Option.any_eq_true _ _).mp ready
  obtain ⟨waiting, registered, authenticated⟩ := of_decide_eq_true holds
  exact ⟨connection, found, waiting, registered, authenticated⟩

/-- The first of two members of a network. -/
theorem ready_twoMembers :
    ∃ connection, Ready (serverAfter twoMembers) 0 "client-0001" connection :=
  ready_serverAfter (by decide +kernel)

def leaveMessage (networkId : String) : Message :=
  ⟨"LEAVE_NETWORK", payloadOf [("network_id", networkId)]⟩

/-- Of two members of a network one leaves it, and nothing of the other is touched. -/
theorem command_isolation_leave :
    ∃ final, runFrom (Server.step plainPackages) (serverAfter twoMembers)
        (handling 0 (leaveMessage "network") { calm [] with uuid := "unused" } []) = some final ∧
      final.networks.members "network" = {"client-0002"} ∧
      Untouched "client-0002" (serverAfter twoMembers).networks final.networks := by
  obtain ⟨connection, ready⟩ := ready_twoMembers
  have none : (serverAfter twoMembers).networks.services.entries.isEmpty = true := by
    decide +kernel
  have fresh : FreshId (serverAfter twoMembers).networks "unused" := by
    refine ⟨Dict.get?_eq_none_iff.mpr (by decide +kernel), fun networkId => ?_⟩
    rw [NetworkManager.serviceAt, Dict.get?, List.isEmpty_iff.mp none]
    rfl
  have ran := some_of_isSome (show (runFrom (Server.step plainPackages) (serverAfter twoMembers)
    (handling 0 (leaveMessage "network") { calm [] with uuid := "unused" } [])).isSome = true by
    decide +kernel) exampleServer
  exact ⟨_, ran, by decide +kernel, command_isolation plainPackages _ _ 0 "client-0001" connection
    ready _ _ fresh [] ran "client-0002" (by decide)⟩

/-! ### Single commands -/

/-- What the handler of an accepted EXPOSE_SERVICE does. -/
theorem handleCommand_exposes {name : String} {protocol : Transport} {localHost : String}
    {localPort : Nat} {first record : NetworkRecord} {rest : List NetworkRecord}
    {networkId : String} (typed : message.type = "EXPOSE_SERVICE")
    (valid : validateExposeService packages.text message.payload =
      .ok (name, protocol, localHost, localPort))
    (listed : server.networks.listForClient clientId = first :: rest)
    (chosen : getOr message.payload "network_id" (.str first.networkId) = .str networkId)
    (found : server.networks.get networkId = some record) (member : clientId ∈ record.members) :
    server.handleCommand packages clientId message choice = some
      ⟨{ server.networks with
          services := server.networks.services.insert networkId
            (((server.networks.services.get? networkId).getD Dict.empty).insert choice.uuid
              ⟨choice.uuid, networkId, clientId, name, protocol, localHost, localPort,
                choice.now⟩) },
        server.relay, .error (.internal "'str' object has no attribute 'service_id'")⟩ := by
  unfold Server.handleCommand
  rw [typed]
  simp only [Server.onExposeService, valid, listed, chosen, Server.exposeOn,
    NetworkManager.exposeService, found]
  rw [if_neg (not_not.mpr member)]

/-- The choices of a step that draws nothing and sends. -/
def drawsNothing (now : Time) : Choice := ⟨now, [], "", [], fun _ => "", "", [], .sent⟩

end LocalNetwork
