/-
This file lifts what the network manager keeps to every run of the server. Each network is
stored under its own id, with a hub or gateway that is a member of it. A client whose
connection is authenticated has a registry record, so that a member of a network finds the
network among its own: a lookup that starts from the networks of a client misses none.
-/

import LocalNetwork.FanOut
import LocalNetwork.Membership

namespace LocalNetwork

variable {packages : Packages} {server next : Server} {event : ServerEvent}

/-! ### Networks -/

/-- Every step keeps the networks well formed. -/
theorem wellFormed_serverStep (wellFormed : server.networks.networks.All WellFormed)
    (stepped : server.step packages event = some next) :
    next.networks.networks.All WellFormed := by
  cases step_cases stepped with
  | dispatch id message choice connection commander handled found waiting registered authenticated
      ran =>
    cases Server.command_cases ran with
    | created name password topology passwordHash kind inviteCodes networkInviteCodes inviteCode
        typed valid hashed =>
      exact Dict.All.insert wellFormed (wellFormed_newNetwork _ _ _ _ _ _)
    | joined networkId networkIdOrCode password record typed valid named found allowed accepted =>
      exact Dict.All.modify wellFormed networkId fun _ before => before.addMember commander
    | left networkId record typed valid found member =>
      exact Dict.All.modify wellFormed networkId fun _ before => before.withoutMember commander
    | _ => exact wellFormed
  | _ => exact wellFormed

/-! ### Registered clients -/

namespace ClientRegistry

theorem has_modify (registry : ClientRegistry) (clientId other : String)
    (update : ClientRecord → ClientRecord) :
    has ⟨registry.clients.modify clientId update⟩ other = registry.has other := by
  simp only [has, Dict.contains, Dict.get?_modify]
  split
  · rw [Option.isSome_map]
  · rfl

theorem has_register (registry : ClientRegistry) (clientId publicKeyPem : String) (now : Time)
    {other : String} (known : registry.has other = true ∨ other = clientId) :
    (registry.register clientId publicKeyPem now).has other = true := by
  rw [has_iff, get_register]
  split
  · exact ⟨_, rfl⟩
  · rename_i different
    exact has_iff.mp (known.resolve_right different)

theorem has_setOnline (registry : ClientRegistry) (clientId : String) (now : Time)
    (other : String) : (registry.setOnline clientId now).2.has other = registry.has other := by
  unfold setOnline
  split
  · rfl
  · split
    · rfl
    · exact has_modify registry clientId other _

theorem has_pruneStale (registry : ClientRegistry) (now timeout : Time) (other : String) :
    (registry.pruneStale now timeout).2.has other = registry.has other := by
  simp only [has, Dict.contains, pruneStale, Dict.get?_mapValues, Option.isSome_map]

theorem networksFor_updateEndpoint (registry : ClientRegistry) (clientId : String) (addr : Addr)
    (other : String) :
    (registry.updateEndpoint clientId addr).networksFor other = registry.networksFor other := by
  refine networksFor_congr (fun one => ?_) other
  rw [get_updateEndpoint]
  split <;> cases registry.get one <;> rfl

/-- The three writes of a registration make the client known, and keep everyone's networks. -/
theorem has_registered (registry : ClientRegistry) {clientId other : String}
    (publicKeyPem : String) (peer : Addr) (now : Time)
    (known : registry.has other = true ∨ other = clientId) :
    (((registry.register clientId publicKeyPem now).updateEndpoint clientId peer).setOnline
      clientId now).2.has other = true := by
  rw [has_setOnline, updateEndpoint, has_modify]
  exact has_register registry clientId publicKeyPem now known

theorem networksFor_registered (registry : ClientRegistry) (clientId other : String)
    (publicKeyPem : String) (peer : Addr) (now : Time) :
    (((registry.register clientId publicKeyPem now).updateEndpoint clientId peer).setOnline
      clientId now).2.networksFor other = registry.networksFor other := by
  rw [networksFor_setOnline, networksFor_updateEndpoint, networksFor_register]

end ClientRegistry

/-- A command forgets no client. -/
theorem RegistryChange.has_iff {registry changed : ClientRegistry} {clientId other : String}
    (change : RegistryChange registry clientId changed) :
    changed.has other = true ↔ registry.has other = true := by
  cases change with
  | unchanged => rfl
  | heartbeat now | addNetwork networkId | removeNetwork networkId =>
    exact Bool.eq_iff_iff.mp (ClientRegistry.has_modify registry clientId other _)

/-- No step forgets a client, and a registration makes its client known. -/
theorem has_step {clientId : String} (stepped : server.step packages event = some next)
    (known : server.registry.has clientId = true ∨
      ∃ id, Registers packages id clientId server event) :
    next.registry.has clientId = true := by
  have stepCase := step_cases stepped
  rcases known with known | ⟨id, registers⟩
  · cases stepCase with
    | register id message choice connection other publicKey accepts =>
      exact ClientRegistry.has_registered _ _ _ _ (.inl known)
    | dispatch id message choice connection commander handled found waiting registered
        authenticated ran =>
      exact (Server.spec_handleCommand ran).registry.has_iff.mpr known
    | disconnect event id connection other | pruneDisconnect choice other =>
      exact (ClientRegistry.has_modify server.registry other clientId _).trans known
    | pruneTick now idle =>
      exact (ClientRegistry.has_pruneStale server.registry now _ clientId).trans known
    | _ => exact known
  · obtain ⟨message, choice, connection, publicKey, -, accepts, rfl⟩ :=
      registers_case stepCase registers
    exact ClientRegistry.has_registered _ _ _ _ (.inr rfl)

/-- A client that has registered on some connection is known. -/
theorem has_of_registeredOn {start : Server} {events : List ServerEvent} {id : ConnId}
    {clientId : String} (ran : runFrom (Server.step packages) start events = some server)
    (registered : RegisteredOn packages start id clientId events) :
    server.registry.has clientId = true := by
  obtain ⟨before, event, after, state, rfl, ranBefore, registers⟩ := registered
  obtain ⟨middle, ranSame, ranAfter⟩ := runFrom_append.mp ran
  obtain rfl := Option.some.inj (ranBefore.symm.trans ranSame)
  obtain ⟨next, stepped, ranRest⟩ := runFrom_cons.mp ranAfter
  exact run_invariant (fun _ _ _ _ known stepped => has_step stepped (.inl known))
    (has_step stepped (.inr ⟨id, registers⟩)) (holdsAlong_true after next) ranRest

/-! ### The networks of a member -/

/-- A member of a network has it among its networks. -/
def MembersListed (manager : NetworkManager) : Prop :=
  ∀ clientId networkId, clientId ∈ manager.members networkId →
    networkId ∈ manager.registry.networksFor clientId

/-- A command for a known client keeps members listed. -/
theorem membersListed_command {clientId : String} {message : Message} {choice : Choice}
    {handled : Handled} (listed : MembersListed server.networks)
    (known : server.registry.has clientId = true)
    (ran : server.handleCommand packages clientId message choice = some handled) :
    MembersListed handled.networks := by
  cases Server.command_cases ran with
  | heartbeat typed =>
    intro one networkId member
    show networkId ∈ (server.registry.heartbeat clientId choice.now).2.networksFor one
    rw [ClientRegistry.networksFor_heartbeat]
    exact listed one networkId member
  | created name password topology passwordHash kind inviteCodes networkInviteCodes inviteCode typed
      valid hashed =>
    intro one networkId member
    have after : one ∈ ({ server.networks with
        networks := server.networks.networks.insert choice.uuid
          (NetworkManager.newNetwork choice.uuid name passwordHash clientId kind choice.now)
        registry := server.registry } : NetworkManager).members networkId := member
    rw [NetworkManager.members_insert] at after
    show networkId ∈ (server.registry.addNetwork clientId choice.uuid).networksFor one
    rw [ClientRegistry.networksFor_addNetwork _ _ _ known]
    split at after
    · rename_i made
      obtain rfl := Finset.mem_singleton.mp after
      rw [if_pos rfl, made]
      exact Finset.mem_insert_self _ _
    · split
      · exact Finset.mem_insert_of_mem (listed one networkId after)
      · exact listed one networkId after
  | joined joinedId networkIdOrCode password record typed valid named found allowed accepted =>
    intro one networkId member
    replace member := (NetworkManager.members_addMember _ _ _ record found networkId) ▸ member
    show networkId ∈ (server.registry.addNetwork clientId joinedId).networksFor one
    rw [ClientRegistry.networksFor_addNetwork _ _ _ known]
    by_cases sameClient : one = clientId
    · rw [if_pos sameClient]
      split at member
      · rename_i here
        exact Finset.mem_insert.mpr (.inl here)
      · exact Finset.mem_insert_of_mem (listed one networkId member)
    · rw [if_neg sameClient]
      split at member
      · exact listed one networkId (Finset.mem_of_mem_insert_of_ne member sameClient)
      · exact listed one networkId member
  | left leftId record typed valid found own =>
    intro one networkId member
    replace member := (NetworkManager.members_withoutMember _ _ _ _ networkId) ▸ member
    show networkId ∈ (server.registry.removeNetwork clientId leftId).networksFor one
    rw [ClientRegistry.networksFor_removeNetwork]
    by_cases here : networkId = leftId
    · rw [if_pos here] at member
      obtain ⟨other, before⟩ := Finset.mem_erase.mp member
      rw [if_neg other]
      exact listed one networkId before
    · rw [if_neg here] at member
      split
      · exact Finset.mem_erase.mpr ⟨here, listed one networkId member⟩
      · exact listed one networkId member
  | _ => exact listed

/-- A change of the registry that keeps everyone's networks. -/
theorem MembersListed.withRegistry {manager : NetworkManager} (listed : MembersListed manager)
    {registry : ClientRegistry}
    (same : ∀ clientId, registry.networksFor clientId = manager.registry.networksFor clientId) :
    MembersListed { manager with registry := registry } := by
  intro clientId networkId member
  show networkId ∈ registry.networksFor clientId
  rw [same]
  exact listed clientId networkId member

theorem membersListed_step (listed : MembersListed server.networks)
    (known : ∀ id connection clientId, server.connections.get? id = some connection →
      connection.clientId = some clientId → connection.authenticated = true →
        server.registry.has clientId = true)
    (stepped : server.step packages event = some next) : MembersListed next.networks := by
  cases step_cases stepped with
  | register id message choice connection clientId publicKey accepts =>
    exact listed.withRegistry fun other => ClientRegistry.networksFor_registered _ _ _ _ _ _
  | dispatch id message choice connection commander handled found waiting registered authenticated
      ran =>
    exact membersListed_command listed (known id connection commander found registered
      authenticated) ran
  | disconnect event id connection clientId | pruneDisconnect choice clientId =>
    exact listed.withRegistry fun other => ClientRegistry.networksFor_unregister _ _ _
  | pruneTick now idle =>
    exact listed.withRegistry fun other => ClientRegistry.networksFor_pruneStale _ _ _ _
  | _ => exact listed

/-! ### Every run -/

/-- What every run of the server keeps about networks and records. -/
structure NetworksKept (server : Server) : Prop where
  wellFormed : server.networks.networks.All WellFormed
  listed : MembersListed server.networks
  keyed : server.registry.Keyed

theorem networksKept_run {maxClients : Nat} {heartbeatTimeout ttl : Time} {maxAttempts : Int}
    {bannedNetworks : Finset String} {events : List ServerEvent}
    (ran : runFrom (Server.step packages)
      (Server.init maxClients heartbeatTimeout ttl maxAttempts bannedNetworks) events =
        some server) : NetworksKept server := by
  have started : NetworksKept
      (Server.init maxClients heartbeatTimeout ttl maxAttempts bannedNetworks) := by
    refine ⟨Dict.all_empty, fun clientId networkId member => ?_, Dict.all_empty⟩
    obtain ⟨record, stored, -⟩ := NetworkManager.mem_members.mp member
    cases stored
  have step (past : List ServerEvent) (state : Server) (event : ServerEvent) (next : Server)
      (ranPast : runFrom (Server.step packages)
        (Server.init maxClients heartbeatTimeout ttl maxAttempts bannedNetworks) past =
          some state) (kept : NetworksKept state)
      (stepped : state.step packages event = some next) : NetworksKept next := by
    refine ⟨wellFormed_serverStep kept.wellFormed stepped, ?_, keyed_step kept.keyed stepped⟩
    refine membersListed_step kept.listed (fun id connection clientId found registered
      authenticated => ?_) stepped
    exact has_of_registeredOn ranPast
      ((gated_run ranPast).registeredOnly found registered authenticated).1
  exact history_invariant (fun past state event next ranPast _ kept stepped =>
    step past state event next ranPast kept stepped) started (holdsAlong_true events _) ran

end LocalNetwork
