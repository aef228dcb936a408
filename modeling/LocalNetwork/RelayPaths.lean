/-
This file proves which relay paths stay authorized. `handle_relay_request` grants a path
between two clients only if they share a network, but it checks this once: a client that
leaves a network afterwards, or whose network is deleted, keeps its paths. Only a
disconnect drops them. The request also does not compare the two clients, so that a client
that is in a network can have a path to itself.

The system is the server together with the two operations of its network manager that no
message reaches, deleting a network and purging a client. A step spares the paths when it
grants none from a client to itself and takes from no path the last network that its two
ends share. Along every run of such steps, every path joins two distinct clients that share
a network.
-/

import LocalNetwork.Membership
import LocalNetwork.NetworkEvents

namespace LocalNetwork

/-! ### The effect of a command on networks and paths -/

theorem RelayForwarder.queueFor_paths (relay : RelayForwarder) (clientId : String) :
    (relay.queueFor clientId).paths = relay.paths := by
  unfold RelayForwarder.queueFor
  split <;> rfl

theorem RelayForwarder.registerRelayPath_paths (relay : RelayForwarder) (srcId dstId : String) :
    (relay.registerRelayPath srcId dstId).2.paths =
      insert (dstId, srcId) (insert (srcId, dstId) relay.paths) := by
  show insert _ (insert _ ((relay.queueFor dstId).queueFor srcId).paths) = _
  rw [RelayForwarder.queueFor_paths, RelayForwarder.queueFor_paths]

namespace Server

/-- The test of `handle_relay_request`: both clients are known and online and share a network. -/
def relayAllowed (server : Server) (srcId dstId : String) : Bool :=
  match server.registry.get srcId, server.registry.get dstId with
  | some src, some dst =>
    src.online && dst.online && (server.networks.listForClient srcId).any fun network =>
      decide (dstId ∈ server.networks.members network.networkId)
  | _, _ => false

end Server

/-- What a command can do to the networks and the paths. -/
inductive CommandEffect (packages : Packages) (server : Server) (clientId : String)
    (message : Message) (choice : Choice) (handled : Handled) : Prop
  | quiet (networks : handled.networks.networks = server.networks.networks)
    (paths : handled.relay.paths = server.relay.paths)
  | created (record : NetworkRecord) (type : message.type = "CREATE_NETWORK")
    (named : record.networkId = choice.uuid)
    (networks : handled.networks.networks = server.networks.networks.insert choice.uuid record)
    (paths : handled.relay.paths = server.relay.paths)
  | joined (networkId : String)
    (networks : handled.networks.networks = server.networks.networks.modify networkId
      fun record => { record with members := insert clientId record.members })
    (paths : handled.relay.paths = server.relay.paths)
  | left (networkId : String) (type : message.type = "LEAVE_NETWORK")
    (named : validateNetworkId packages.text message.payload = .ok networkId)
    (networks : handled.networks.networks = server.networks.networks.modify networkId
      (NetworkManager.withoutMember clientId))
    (paths : handled.relay.paths = server.relay.paths)
  | granted (peerId : String) (type : message.type = "RELAY_REQUEST")
    (named : validatePeerId packages.text message.payload = .ok peerId)
    (allowed : server.relayAllowed clientId peerId = true)
    (networks : handled.networks.networks = server.networks.networks)
    (paths : handled.relay.paths =
      insert (peerId, clientId) (insert (clientId, peerId) server.relay.paths))

namespace Server

variable {packages : Packages} {server : Server} {clientId : String} {message : Message}
  {choice : Choice}

/-- Every command has one of the effects. -/
theorem effect_handleCommand {handled : Handled}
    (ran : server.handleCommand packages clientId message choice = some handled) :
    CommandEffect packages server clientId message choice handled := by
  cases command_cases ran with
  | refused code text => exact .quiet rfl rfl
  | raised failure => exact .quiet rfl rfl
  | heartbeat typed => exact .quiet rfl rfl
  | created name password topology passwordHash kind inviteCodes networkInviteCodes inviteCode typed
      valid hashed =>
    exact .created _ typed rfl rfl rfl
  | joined networkId networkIdOrCode password record typed valid named found allowed accepted =>
    exact .joined networkId rfl rfl
  | left networkId record typed valid found member => exact .left networkId typed valid rfl rfl
  | listed typed => exact .quiet rfl rfl
  | located peerId networkId endpoints typed valid shared => exact .quiet rfl rfl
  | exposed networkId name protocol localHost localPort first rest record typed valid listed chosen
      found member => exact .quiet rfl rfl
  | unexposed serviceId networkId serviceMap typed valid found => exact .quiet rfl rfl
  | granted peerId src dst typed valid srcStored dstStored online shared =>
    refine .granted peerId typed valid ?_ rfl ?_
    · simp only [relayAllowed, srcStored, dstStored]
      rw [online, shared]
      rfl
    · exact RelayForwarder.registerRelayPath_paths server.relay clientId peerId

end Server

/-! ### The system and its invariant -/

/-- What can happen to the server: a step of its own, or an operation on its network manager that
no message reaches. -/
inductive MediationEvent where
  | server (event : ServerEvent)
  | delete (networkId requesterId : String)
  | purgeClient (clientId : String)

def mediationStep (packages : Packages) (server : Server) : MediationEvent → Option Server
  | .server event => server.step packages event
  | .delete networkId requesterId =>
    some { server with networks := (server.networks.delete networkId requesterId).2 }
  | .purgeClient clientId =>
    some { server with networks := (server.networks.purgeClient clientId).2 }

namespace Server

/-- Two clients are members of one network. -/
def Shares (server : Server) (first second : String) : Prop :=
  ∃ networkId, first ∈ server.networks.members networkId ∧
    second ∈ server.networks.members networkId

/-- Every relay path joins two distinct clients that share a network. -/
def PathsAuthorized (server : Server) : Prop :=
  ∀ pair ∈ server.relay.paths, pair.1 ≠ pair.2 ∧ server.Shares pair.1 pair.2

theorem mem_keys_of_mem_members {server : Server} {networkId clientId : String}
    (member : clientId ∈ server.networks.members networkId) :
    networkId ∈ server.networks.networks.keys := by
  obtain ⟨record, stored, -⟩ := NetworkManager.mem_members.mp member
  exact Dict.mem_keys_iff.mpr ⟨record, stored⟩

instance (server : Server) (first second : String) : Decidable (server.Shares first second) :=
  decidable_of_iff (∃ networkId ∈ server.networks.networks.keys,
      first ∈ server.networks.members networkId ∧ second ∈ server.networks.members networkId)
    ⟨fun ⟨networkId, _, members⟩ => ⟨networkId, members⟩,
      fun ⟨networkId, members⟩ => ⟨networkId, mem_keys_of_mem_members members.1, members⟩⟩

instance (server : Server) : Decidable server.PathsAuthorized :=
  inferInstanceAs (Decidable (∀ pair ∈ server.relay.paths,
    pair.1 ≠ pair.2 ∧ server.Shares pair.1 pair.2))

/-- Two clients share a network other than a given one. -/
def SharesBesides (server : Server) (networkId first second : String) : Prop :=
  ∃ other ∈ server.networks.networks.keys, other ≠ networkId ∧
    first ∈ server.networks.members other ∧ second ∈ server.networks.members other

instance (server : Server) (networkId first second : String) :
    Decidable (server.SharesBesides networkId first second) :=
  inferInstanceAs (Decidable (∃ other ∈ server.networks.networks.keys, other ≠ networkId ∧
    first ∈ server.networks.members other ∧ second ∈ server.networks.members other))

/-- The client whose commands a connection carries. -/
def commander (server : Server) (id : ConnId) : Option String :=
  (server.connections.get? id).bind fun connection =>
    if connection.authenticated then connection.clientId else none

/-- A command spares the paths: a new network has a fresh id, a client leaves no network that it
alone shares with the other end of a path, and no client asks for a path to itself. -/
structure SparesCommand (packages : Packages) (server : Server) (clientId : String)
    (message : Message) (choice : Choice) : Prop where
  create : message.type = "CREATE_NETWORK" → server.networks.get choice.uuid = none
  leave : message.type = "LEAVE_NETWORK" →
    ∀ networkId ∈ (validateNetworkId packages.text message.payload).toOption,
      ∀ pair ∈ server.relay.paths, pair.1 = clientId ∨ pair.2 = clientId →
        server.SharesBesides networkId pair.1 pair.2
  request : message.type = "RELAY_REQUEST" →
    (validatePeerId packages.text message.payload).toOption = some clientId →
      server.relayAllowed clientId clientId = false

instance (packages : Packages) (server : Server) (clientId : String) (message : Message)
    (choice : Choice) : Decidable (server.SparesCommand packages clientId message choice) :=
  decidable_of_iff
    ((message.type = "CREATE_NETWORK" → server.networks.get choice.uuid = none) ∧
      (message.type = "LEAVE_NETWORK" →
        ∀ networkId ∈ (validateNetworkId packages.text message.payload).toOption,
          ∀ pair ∈ server.relay.paths, pair.1 = clientId ∨ pair.2 = clientId →
            server.SharesBesides networkId pair.1 pair.2) ∧
      (message.type = "RELAY_REQUEST" →
        (validatePeerId packages.text message.payload).toOption = some clientId →
          server.relayAllowed clientId clientId = false))
    ⟨fun spares => ⟨spares.1, spares.2.1, spares.2.2⟩,
      fun spares => ⟨spares.create, spares.leave, spares.request⟩⟩

/-- An event spares the paths: its command does, the ends of every path share a network besides
one that its owner deletes, and a client that is purged has no path. -/
def SparesPaths (packages : Packages) (server : Server) : MediationEvent → Prop
  | .server (.receive id message choice) =>
    ∀ clientId ∈ server.commander id, server.SparesCommand packages clientId message choice
  | .server _ => True
  | .delete networkId requesterId =>
    ∀ record ∈ server.networks.get networkId, record.ownerId = requesterId →
      ∀ pair ∈ server.relay.paths, server.SharesBesides networkId pair.1 pair.2
  | .purgeClient clientId => ∀ pair ∈ server.relay.paths, pair.1 ≠ clientId ∧ pair.2 ≠ clientId

instance (packages : Packages) (server : Server) :
    (event : MediationEvent) → Decidable (server.SparesPaths packages event)
  | .server (.receive id message choice) => inferInstanceAs (Decidable (∀ clientId ∈
      server.commander id, server.SparesCommand packages clientId message choice))
  | .delete networkId requesterId => inferInstanceAs (Decidable (∀ record ∈
      server.networks.get networkId, record.ownerId = requesterId →
        ∀ pair ∈ server.relay.paths, server.SharesBesides networkId pair.1 pair.2))
  | .purgeClient clientId => inferInstanceAs (Decidable (∀ pair ∈ server.relay.paths,
      pair.1 ≠ clientId ∧ pair.2 ≠ clientId))
  | .server (.connect ..) | .server (.endInput ..) | .server (.advance ..)
  | .server (.pruneTick _) | .server (.advancePrune _) | .server (.expireTick _) => isTrue trivial

end Server

/-! ### One step -/

/-- Every network record carries its id, and the paths are authorized. -/
structure RelayInvariant (server : Server) : Prop where
  named : server.networks.networks.All fun networkId record => record.networkId = networkId
  authorized : server.PathsAuthorized

namespace RelayInvariant

variable {packages : Packages} {server next : Server} {clientId : String} {message : Message}
  {choice : Choice}

theorem members_congr {first second : NetworkManager} (networks : first.networks = second.networks)
    (networkId : String) : first.members networkId = second.members networkId := by
  rw [NetworkManager.members, NetworkManager.members, NetworkManager.get, NetworkManager.get,
    networks]

/-- A step that leaves the network records and the paths alone. -/
theorem quiet (invariant : RelayInvariant server)
    (networks : next.networks.networks = server.networks.networks)
    (paths : next.relay.paths ⊆ server.relay.paths) : RelayInvariant next := by
  refine ⟨networks ▸ invariant.named, fun pair member => ?_⟩
  obtain ⟨distinct, networkId, first, second⟩ := invariant.authorized pair (paths member)
  refine ⟨distinct, networkId, ?_, ?_⟩
  · rw [members_congr networks]
    exact first
  · rw [members_congr networks]
    exact second

/-- A step that keeps the paths and, for each of them, the members of a network its ends share. -/
theorem kept (invariant : RelayInvariant server)
    (named : next.networks.networks.All fun networkId record => record.networkId = networkId)
    (paths : next.relay.paths = server.relay.paths)
    (shares : ∀ pair ∈ server.relay.paths, next.Shares pair.1 pair.2) : RelayInvariant next := by
  refine ⟨named, fun pair member => ?_⟩
  rw [paths] at member
  exact ⟨(invariant.authorized pair member).1, shares pair member⟩

theorem created (invariant : RelayInvariant server) (record : NetworkRecord) {networkId : String}
    (fresh : server.networks.get networkId = none) (named : record.networkId = networkId)
    (networks : next.networks.networks = server.networks.networks.insert networkId record)
    (paths : next.relay.paths = server.relay.paths) : RelayInvariant next := by
  have other : ∀ {shared client}, client ∈ server.networks.members shared →
      client ∈ next.networks.members shared := by
    intro shared client member
    obtain ⟨old, stored, inside⟩ := NetworkManager.mem_members.mp member
    have different : shared ≠ networkId := fun same => by
      rw [same, fresh] at stored
      cases stored
    refine NetworkManager.mem_members.mpr ⟨old, ?_, inside⟩
    rw [NetworkManager.get, networks, Dict.get?_insert_of_ne _ _ different]
    exact stored
  refine invariant.kept ?_ paths fun pair member => ?_
  · rw [networks]
    exact invariant.named.insert named
  · obtain ⟨-, shared, first, second⟩ := invariant.authorized pair member
    exact ⟨shared, other first, other second⟩

/-- The members of a network whose record is changed, and of the others. -/
theorem mem_members_modify {networkId shared client : String} (update : NetworkRecord → NetworkRecord)
    (networks : next.networks.networks = server.networks.networks.modify networkId update)
    (member : client ∈ server.networks.members shared)
    (stays : ∀ record, shared = networkId → client ∈ record.members →
      client ∈ (update record).members) :
    client ∈ next.networks.members shared := by
  obtain ⟨record, stored, inside⟩ := NetworkManager.mem_members.mp member
  rw [NetworkManager.get] at stored
  by_cases same : shared = networkId
  · refine NetworkManager.mem_members.mpr ⟨update record, ?_, stays record same inside⟩
    rw [NetworkManager.get, networks, Dict.get?_modify, if_pos same, stored, Option.map_some]
  · refine NetworkManager.mem_members.mpr ⟨record, ?_, inside⟩
    rw [NetworkManager.get, networks, Dict.get?_modify, if_neg same, stored]

theorem joined (invariant : RelayInvariant server) {networkId : String}
    (networks : next.networks.networks = server.networks.networks.modify networkId
      fun record => { record with members := insert clientId record.members })
    (paths : next.relay.paths = server.relay.paths) : RelayInvariant next := by
  refine invariant.kept ?_ paths fun pair member => ?_
  · rw [networks]
    exact invariant.named.modify networkId fun record named => named
  · obtain ⟨-, shared, first, second⟩ := invariant.authorized pair member
    exact ⟨shared,
      mem_members_modify _ networks first fun record _ inside => Finset.mem_insert_of_mem inside,
      mem_members_modify _ networks second fun record _ inside => Finset.mem_insert_of_mem inside⟩

theorem left (invariant : RelayInvariant server) {networkId : String}
    (spared : ∀ pair ∈ server.relay.paths, pair.1 = clientId ∨ pair.2 = clientId →
      server.SharesBesides networkId pair.1 pair.2)
    (networks : next.networks.networks = server.networks.networks.modify networkId
      (NetworkManager.withoutMember clientId))
    (paths : next.relay.paths = server.relay.paths) : RelayInvariant next := by
  refine invariant.kept ?_ paths fun pair member => ?_
  · rw [networks]
    exact invariant.named.modify networkId fun record named => named
  · by_cases involved : pair.1 = clientId ∨ pair.2 = clientId
    · obtain ⟨shared, -, different, first, second⟩ := spared pair member involved
      exact ⟨shared,
        mem_members_modify _ networks first fun record same _ => absurd same different,
        mem_members_modify _ networks second fun record same _ => absurd same different⟩
    · obtain ⟨notFirst, notSecond⟩ := not_or.mp involved
      obtain ⟨-, shared, first, second⟩ := invariant.authorized pair member
      exact ⟨shared,
        mem_members_modify _ networks first fun record _ inside =>
          Finset.mem_erase.mpr ⟨notFirst, inside⟩,
        mem_members_modify _ networks second fun record _ inside =>
          Finset.mem_erase.mpr ⟨notSecond, inside⟩⟩

/-- Clients between which a path is allowed share a network. -/
theorem shares_of_allowed (invariant : RelayInvariant server) {peerId : String}
    (allowed : server.relayAllowed clientId peerId = true) : server.Shares clientId peerId := by
  unfold Server.relayAllowed at allowed
  split at allowed
  · obtain ⟨-, shared⟩ := Bool.and_eq_true_iff.mp allowed
    obtain ⟨record, listed, peer⟩ := List.any_eq_true.mp shared
    obtain ⟨stored, member⟩ := List.mem_filter.mp listed
    obtain ⟨networkId, found⟩ := Dict.mem_values_iff.mp stored
    rw [invariant.named networkId record found] at peer
    exact ⟨networkId, NetworkManager.mem_members.mpr ⟨record, found, of_decide_eq_true member⟩,
      of_decide_eq_true peer⟩
  · cases allowed

theorem granted (invariant : RelayInvariant server) {peerId : String} (different : clientId ≠ peerId)
    (allowed : server.relayAllowed clientId peerId = true)
    (networks : next.networks.networks = server.networks.networks)
    (paths : next.relay.paths =
      insert (peerId, clientId) (insert (clientId, peerId) server.relay.paths)) :
    RelayInvariant next := by
  have old : RelayInvariant { next with relay := server.relay } :=
    invariant.quiet networks (Finset.Subset.refl _)
  obtain ⟨networkId, client, peer⟩ := invariant.shares_of_allowed allowed
  rw [← members_congr networks] at client peer
  refine ⟨old.named, fun pair member => ?_⟩
  rw [paths] at member
  rcases Finset.mem_insert.mp member with rfl | member
  · exact ⟨Ne.symm different, networkId, peer, client⟩
  · rcases Finset.mem_insert.mp member with rfl | member
    · exact ⟨different, networkId, client, peer⟩
    · exact old.authorized pair member

theorem deleted (invariant : RelayInvariant server) {networkId requesterId : String}
    (spared : ∀ record ∈ server.networks.get networkId, record.ownerId = requesterId →
      ∀ pair ∈ server.relay.paths, server.SharesBesides networkId pair.1 pair.2) :
    RelayInvariant
      { server with networks := (server.networks.delete networkId requesterId).2 } := by
  by_cases done : (server.networks.delete networkId requesterId).1 = true
  · have members := fun other => NetworkManager.members_delete server.networks networkId
      requesterId other done
    have owned : ∃ record, server.networks.get networkId = some record ∧
        record.ownerId = requesterId := by
      unfold NetworkManager.delete at done
      split at done
      · cases done
      · rename_i record stored
        refine ⟨record, stored, ?_⟩
        split at done
        · cases done
        · rename_i same
          exact not_not.mp same
    obtain ⟨record, stored, owner⟩ := owned
    refine invariant.kept ?_ rfl fun pair member => ?_
    · rw [NetworkManager.delete, stored]
      simp only [owner, ne_eq, not_true_eq_false, if_false]
      exact invariant.named.erase networkId
    · obtain ⟨shared, -, different, first, second⟩ := spared record stored owner pair member
      refine ⟨shared, ?_, ?_⟩ <;> show _ ∈ NetworkManager.members _ shared <;>
        rw [members shared, if_neg different] <;> assumption
  · refine invariant.quiet ?_ (Finset.Subset.refl _)
    show (server.networks.delete networkId requesterId).2.networks = _
    unfold NetworkManager.delete at done ⊢
    split at done
    · rfl
    · split at done
      · rw [if_pos ‹_›]
      · exact absurd rfl done

theorem purged (invariant : RelayInvariant server)
    (spared : ∀ pair ∈ server.relay.paths, pair.1 ≠ clientId ∧ pair.2 ≠ clientId) :
    RelayInvariant { server with networks := (server.networks.purgeClient clientId).2 } := by
  have members := NetworkManager.members_purgeClient server.networks clientId
  refine invariant.kept ?_ rfl fun pair member => ?_
  · refine (invariant.named.filter _).mapValues fun networkId record named => ?_
    split
    · exact named
    · exact named
  · obtain ⟨-, shared, first, second⟩ := invariant.authorized pair member
    obtain ⟨notFirst, notSecond⟩ := spared pair member
    refine ⟨shared, ?_, ?_⟩
    · show _ ∈ NetworkManager.members _ shared
      rw [members shared]
      exact Finset.mem_erase.mpr ⟨notFirst, first⟩
    · show _ ∈ NetworkManager.members _ shared
      rw [members shared]
      exact Finset.mem_erase.mpr ⟨notSecond, second⟩

/-- A command that spares the paths. -/
theorem commanded (invariant : RelayInvariant server) {handled : Handled}
    (effect : CommandEffect packages server clientId message choice handled)
    (spares : server.SparesCommand packages clientId message choice)
    (networks : next.networks = handled.networks) (relay : next.relay = handled.relay) :
    RelayInvariant next := by
  cases effect with
  | quiet sameNetworks samePaths =>
    refine invariant.quiet ?_ (Finset.Subset.antisymm_iff.mp ?_).1
    · rw [networks, sameNetworks]
    · rw [relay, samePaths]
  | created record type named inserted samePaths =>
    refine invariant.created record (spares.create type) named ?_ ?_
    · rw [networks, inserted]
    · rw [relay, samePaths]
  | joined networkId added samePaths =>
    rw [← networks] at added
    refine invariant.joined added ?_
    rw [relay, samePaths]
  | left networkId type named removed samePaths =>
    refine invariant.left (spares.leave type networkId (by rw [named]; rfl)) ?_ ?_
    · rw [networks, removed]
    · rw [relay, samePaths]
  | granted peerId type named allowed sameNetworks added =>
    have different : clientId ≠ peerId := by
      rintro rfl
      rw [spares.request type (by rw [named]; rfl)] at allowed
      cases allowed
    refine invariant.granted different allowed ?_ ?_
    · rw [networks, sameNetworks]
    · rw [relay, added]

/-- A disconnect drops paths and keeps the members. -/
theorem disconnected (invariant : RelayInvariant server)
    (networks : next.networks = (server.handleDisconnect clientId).networks)
    (relay : next.relay = (server.handleDisconnect clientId).relay) : RelayInvariant next := by
  refine invariant.quiet ?_ ?_
  · rw [networks]
    rfl
  · rw [relay]
    exact Finset.filter_subset _ _

theorem step (invariant : RelayInvariant server) {event : ServerEvent}
    (spares : server.SparesPaths packages (.server event))
    (stepCase : StepCase packages server event next) : RelayInvariant next := by
  cases stepCase with
  | connect | verify | rejectAuth | raiseAuth | leave | instr | pruneTick | prunePush | expire |
      refuse =>
    exact invariant.quiet rfl (Finset.Subset.refl _)
  | register id message choice connection clientId publicKey accepts =>
    refine invariant.quiet rfl (Finset.Subset.antisymm_iff.mp ?_).1
    show (server.register id connection.peer clientId publicKey choice).2.relay.paths = _
    unfold Server.register
    simp only
    split
    · rfl
    · split <;> rfl
  | dispatch id message choice connection clientId handled found waiting registered authenticated
      ran =>
    have commander : server.commander id = some clientId := by
      rw [Server.commander, found, Option.bind_some, authenticated, if_pos rfl, registered]
    exact invariant.commanded (Server.effect_handleCommand ran) (spares clientId commander) rfl rfl
  | disconnect event id connection clientId order leaves found reading registered authenticated
      visited =>
    exact invariant.disconnected rfl rfl
  | deliver id choice connection clientId rest found todo =>
    refine invariant.quiet rfl (Finset.Subset.antisymm_iff.mp ?_).1
    show (server.relay.pendingFrames clientId).2.paths = _
    unfold RelayForwarder.pendingFrames
    split <;> rfl
  | pruneDisconnect choice clientId rest todo visited => exact invariant.disconnected rfl rfl

end RelayInvariant

theorem relayInvariant_mediationStep (packages : Packages) {server next : Server}
    {event : MediationEvent} (spares : server.SparesPaths packages event)
    (invariant : RelayInvariant server)
    (stepped : mediationStep packages server event = some next) : RelayInvariant next := by
  cases event with
  | server event => exact invariant.step spares (step_cases stepped)
  | delete networkId requesterId =>
    obtain rfl := Option.some.inj stepped
    exact invariant.deleted spares
  | purgeClient clientId =>
    obtain rfl := Option.some.inj stepped
    exact invariant.purged spares

/-- In every run whose steps spare the paths, every relay path joins two distinct clients that
share a network. -/
theorem relay_paths_authorized (packages : Packages) (maxClients : Nat)
    (heartbeatTimeout ttl : Time) (maxAttempts : Int) (bannedNetworks : Finset String)
    (events : List MediationEvent) (final : Server)
    (along : HoldsAlong (mediationStep packages) (fun server => server.SparesPaths packages)
      (Server.init maxClients heartbeatTimeout ttl maxAttempts bannedNetworks) events)
    (ran : runFrom (mediationStep packages)
      (Server.init maxClients heartbeatTimeout ttl maxAttempts bannedNetworks) events =
        some final) :
    final.PathsAuthorized := by
  refine (run_invariant (fun state event next spares invariant stepped =>
    relayInvariant_mediationStep packages spares invariant stepped) ?_ along ran).authorized
  exact ⟨Dict.all_empty, fun pair member => absurd member (Finset.notMem_empty _)⟩

/-! ### Grants and departures -/

/-- A client asks for a relay path and all its answers are written. -/
def requestRelay (id : ConnId) (peerId : String) : List ServerEvent :=
  [.receive id ⟨"RELAY_REQUEST", payloadOf [("peer_id", peerId)]⟩ (calm []),
    .advance id (calm []), .advance id (calm []), .advance id (calm []), .advance id (calm [])]

/-- Two members of a network with a path between them. -/
def pathGranted : List ServerEvent :=
  twoMembers ++ [.advance 1 (calm []), .advance 1 (calm []), .advance 1 (calm [])] ++
    requestRelay 1 "client-0001"

/-- The events of a run of the server, as a run of the system. -/
def mediated (events : List ServerEvent) : List MediationEvent := events.map .server

theorem relay_paths_authorized_granted :
    ∃ final, runFrom (mediationStep plainPackages) exampleServer
        (mediated pathGranted ++ [.delete "network" "client-0002"]) = some final ∧
      ("client-0001", "client-0002") ∈ final.relay.paths ∧ final.PathsAuthorized := by
  have reached : ((runFrom (mediationStep plainPackages) exampleServer
      (mediated pathGranted ++ [.delete "network" "client-0002"])).any fun final =>
        decide (("client-0001", "client-0002") ∈ final.relay.paths)) = true := by decide +kernel
  obtain ⟨final, ran, granted⟩ := (Option.any_eq_true _ _).mp reached
  exact ⟨final, ran, of_decide_eq_true granted,
    relay_paths_authorized plainPackages 8 90 60 5 ∅ _ final (by decide +kernel) ran⟩

/-- The second client leaves the network, and keeps its path to a client with which it shares
none. A client that is alone in its network asks for a path to itself and gets it. -/
theorem path_outlives_membership :
    (∃ final, runFrom (mediationStep plainPackages) exampleServer (mediated (pathGranted ++
        [.receive 1 ⟨"LEAVE_NETWORK", payloadOf [("network_id", "network")]⟩ (calm [])])) =
          some final ∧ ¬ final.PathsAuthorized) ∧
      ∃ final, runFrom (mediationStep plainPackages) exampleServer
        (mediated (login 0 "client-0001" [] ++ createNetwork 0 ++ requestRelay 0 "client-0001")) =
          some final ∧ ¬ final.PathsAuthorized := by
  have left : ((runFrom (mediationStep plainPackages) exampleServer (mediated (pathGranted ++
      [.receive 1 ⟨"LEAVE_NETWORK", payloadOf [("network_id", "network")]⟩ (calm [])]))).any
        fun final => decide (¬ final.PathsAuthorized)) = true := by decide +kernel
  have alone : ((runFrom (mediationStep plainPackages) exampleServer
      (mediated (login 0 "client-0001" [] ++ createNetwork 0 ++
        requestRelay 0 "client-0001"))).any fun final =>
          decide (¬ final.PathsAuthorized)) = true := by decide +kernel
  obtain ⟨final, ran, unauthorized⟩ := (Option.any_eq_true _ _).mp left
  obtain ⟨other, otherRan, otherUnauthorized⟩ := (Option.any_eq_true _ _).mp alone
  exact ⟨⟨final, ran, of_decide_eq_true unauthorized⟩,
    ⟨other, otherRan, of_decide_eq_true otherUnauthorized⟩⟩

end LocalNetwork
