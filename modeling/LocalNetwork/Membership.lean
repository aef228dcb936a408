/-
This file proves that the two copies of network membership agree. A client's networks
are stored in its registry record, and a network's members in the network record; the
relay reads one copy and the endpoint lookup the other.

Both copies are readings of one relation between clients and networks. Each operation is
described by what it does to each reading, and the invariant is that the readings are
equal. The hub and the gateway of a network are described separately: each, when set, is
a current member of a network of its topology.
-/

import LocalNetwork.NetworkManager
import LocalNetwork.Transition

namespace LocalNetwork

namespace NetworkManager

variable (bcrypt : Bcrypt)

/-! ### The reading of the network records -/

theorem mem_members {manager : NetworkManager} {networkId clientId : String} :
    clientId ∈ manager.members networkId ↔
      ∃ record, manager.get networkId = some record ∧ clientId ∈ record.members := by
  unfold members
  cases manager.get networkId with
  | none => simp
  | some record => simp

theorem members_of_get {manager : NetworkManager} {networkId : String} {record : NetworkRecord}
    (stored : manager.get networkId = some record) :
    manager.members networkId = record.members := by
  rw [members, stored]

theorem members_addMember (manager : NetworkManager) (networkId clientId : String)
    (record : NetworkRecord) (stored : manager.get networkId = some record) (other : String) :
    (manager.addMember networkId clientId).members other =
      if other = networkId then insert clientId (manager.members other)
      else manager.members other := by
  simp only [members, get, addMember, Dict.get?_modify]
  by_cases same : other = networkId
  · subst same
    unfold get at stored
    simp [stored]
  · simp [same]

theorem members_insert (manager : NetworkManager) (networkId : String) (record : NetworkRecord)
    (registry : ClientRegistry) (other : String) :
    ({ manager with
        networks := manager.networks.insert networkId record
        registry := registry } : NetworkManager).members other =
      if other = networkId then record.members else manager.members other := by
  simp only [members, get, Dict.get?_insert]
  by_cases same : other = networkId
  · simp [same]
  · simp [same]

theorem members_withoutMember (manager : NetworkManager) (networkId clientId : String)
    (registry : ClientRegistry) (other : String) :
    ({ manager with
        networks := manager.networks.modify networkId (withoutMember clientId)
        registry := registry } : NetworkManager).members other =
      if other = networkId then (manager.members other).erase clientId
      else manager.members other := by
  simp only [members, get, Dict.get?_modify]
  by_cases same : other = networkId
  · cases stored : manager.networks.get? other with
    | none => simp [same]
    | some record => simp [same, withoutMember]
  · simp [same]

theorem members_delete (manager : NetworkManager) (networkId requesterId other : String)
    (deleted : (manager.delete networkId requesterId).1 = true) :
    (manager.delete networkId requesterId).2.members other =
      if other = networkId then ∅ else manager.members other := by
  unfold delete at deleted ⊢
  cases stored : manager.get networkId with
  | none => simp [stored] at deleted
  | some record =>
    by_cases owner : record.ownerId ≠ requesterId
    · simp [stored, owner] at deleted
    · simp only [owner, if_false, members, get, Dict.get?_erase]
      by_cases same : other = networkId
      · simp [same]
      · simp [same]

/-- Purging a client takes it out of every network; a network it leaves empty has no members
either way. -/
theorem members_purgeClient (manager : NetworkManager) (clientId other : String) :
    (manager.purgeClient clientId).2.members other = (manager.members other).erase clientId := by
  simp only [purgeClient, members, get, Dict.get?_mapValues, Dict.get?_filter]
  cases manager.networks.get? other with
  | none => simp
  | some record =>
    by_cases member : clientId ∈ record.members
    · by_cases last : record.members.erase clientId = ∅
      · simp [Option.filter, member, last]
      · simp [Option.filter, member, last, withoutMember]
    · simp [Option.filter, member]

end NetworkManager

/-! ### The reading of the registry -/

namespace ClientRegistry

/-- Operations that keep every record's networks keep the reading. -/
theorem networksFor_congr {before after : ClientRegistry}
    (same : ∀ clientId, (after.get clientId).map ClientRecord.networks =
      (before.get clientId).map ClientRecord.networks) (clientId : String) :
    after.networksFor clientId = before.networksFor clientId := by
  have equal := same clientId
  unfold networksFor
  cases beforeStored : before.get clientId with
  | none =>
    cases afterStored : after.get clientId with
    | none => rfl
    | some record => simp [beforeStored, afterStored] at equal
  | some record =>
    cases afterStored : after.get clientId with
    | none => simp [beforeStored, afterStored] at equal
    | some other => simpa [beforeStored, afterStored] using equal

theorem networksFor_unregister (registry : ClientRegistry) (clientId other : String) :
    (registry.unregister clientId).networksFor other = registry.networksFor other := by
  refine networksFor_congr (fun one => ?_) other
  rw [get_unregister]
  split <;> cases registry.get one <;> rfl

theorem networksFor_setOnline (registry : ClientRegistry) (clientId : String) (now : Time)
    (other : String) :
    (registry.setOnline clientId now).2.networksFor other = registry.networksFor other := by
  refine networksFor_congr (fun one => ?_) other
  rw [get_setOnline]
  split
  · cases registry.get one with
    | none => rfl
    | some record => cases banned : record.banned <;> simp [banned]
  · rfl

theorem networksFor_heartbeat (registry : ClientRegistry) (clientId : String) (now : Time)
    (other : String) :
    (registry.heartbeat clientId now).2.networksFor other = registry.networksFor other := by
  refine networksFor_congr (fun one => ?_) other
  rw [get_heartbeat]
  split <;> cases registry.get one <;> rfl

theorem networksFor_pruneStale (registry : ClientRegistry) (now timeout : Time)
    (other : String) :
    (registry.pruneStale now timeout).2.networksFor other = registry.networksFor other := by
  refine networksFor_congr (fun one => ?_) other
  rw [get_pruneStale]
  cases registry.get one with
  | none => rfl
  | some record => cases stale : isStale now timeout record <;> simp [stale]

/-- A new client has no networks; a known one keeps its own. -/
theorem networksFor_register (registry : ClientRegistry) (clientId publicKeyPem : String)
    (now : Time) (other : String) :
    (registry.register clientId publicKeyPem now).networksFor other =
      registry.networksFor other := by
  unfold networksFor
  rw [get_register]
  by_cases same : other = clientId
  · subst same
    cases registry.get other with
    | none => simp [newRecord]
    | some record => simp
  · rw [if_neg same]

theorem networksFor_addNetwork (registry : ClientRegistry) (clientId networkId : String)
    (known : registry.has clientId = true) (other : String) :
    (registry.addNetwork clientId networkId).networksFor other =
      if other = clientId then insert networkId (registry.networksFor other)
      else registry.networksFor other := by
  obtain ⟨record, stored⟩ := has_iff.mp known
  unfold networksFor
  rw [get_addNetwork]
  by_cases same : other = clientId
  · simp [same, stored]
  · simp [same]

theorem networksFor_removeNetwork (registry : ClientRegistry)
    (clientId networkId other : String) :
    (registry.removeNetwork clientId networkId).networksFor other =
      if other = clientId then (registry.networksFor other).erase networkId
      else registry.networksFor other := by
  unfold networksFor
  rw [get_removeNetwork]
  by_cases same : other = clientId
  · cases stored : registry.get other with
    | none => simp [same]
    | some record => simp [same]
  · simp [same]

/-- Removing networks one after another removes them all. -/
theorem mem_networksFor_removeAll (networkIds : List String) (registry : ClientRegistry)
    (clientId other networkId : String) :
    networkId ∈ (networkIds.foldl (fun registry networkId =>
        registry.removeNetwork clientId networkId) registry).networksFor other ↔
      networkId ∈ registry.networksFor other ∧ ¬ (other = clientId ∧ networkId ∈ networkIds) := by
  induction networkIds generalizing registry with
  | nil => simp
  | cons first rest inductionHypothesis =>
    rw [List.foldl_cons, inductionHypothesis, networksFor_removeNetwork]
    by_cases same : other = clientId
    · simp only [same, if_true, Finset.mem_erase, List.mem_cons]
      tauto
    · simp [same]

end ClientRegistry

/-! ### Runs of the two classes -/

/-- The operations on the registry and on the network manager that touch membership or could. -/
inductive MembershipOp where
  | register (clientId publicKeyPem : String) (now : Time)
  | unregister (clientId : String)
  | setOnline (clientId : String) (now : Time)
  | heartbeat (clientId : String) (now : Time)
  | pruneStale (now timeout : Time)
  | create (name password ownerId topology : String) (networkId : Option String) (uuid : String)
      (salt : Bytes) (now : Time)
  | join (networkId clientId password : String)
  | joinByInviteCode (code clientId password : String)
  | generateInviteCode (networkId : String) (draws : Nat → String) (suffix : String)
  | leave (networkId clientId : String)
  | delete (networkId requesterId : String)
  | purgeClient (clientId : String)

/-- The state after an operation; one that raises changes nothing. -/
def membershipStep (bcrypt : Bcrypt) (lower : String → String) (manager : NetworkManager) :
    MembershipOp → NetworkManager
  | .register clientId publicKeyPem now =>
    { manager with registry := manager.registry.register clientId publicKeyPem now }
  | .unregister clientId => { manager with registry := manager.registry.unregister clientId }
  | .setOnline clientId now =>
    { manager with registry := (manager.registry.setOnline clientId now).2 }
  | .heartbeat clientId now =>
    { manager with registry := (manager.registry.heartbeat clientId now).2 }
  | .pruneStale now timeout =>
    { manager with registry := (manager.registry.pruneStale now timeout).2 }
  | .create name password ownerId topology networkId uuid salt now =>
    match manager.create bcrypt name password ownerId topology networkId uuid salt now with
    | .error _ => manager
    | .ok (created, _) => created
  | .join networkId clientId password => (manager.join bcrypt networkId clientId password).2
  | .joinByInviteCode code clientId password =>
    (manager.joinByInviteCode bcrypt code clientId password).2
  | .generateInviteCode networkId draws suffix =>
    match manager.generateInviteCode lower networkId draws suffix with
    | .error _ => manager
    | .ok (coded, _) => coded
  | .leave networkId clientId => (manager.leave networkId clientId).2
  | .delete networkId requesterId => (manager.delete networkId requesterId).2
  | .purgeClient clientId => (manager.purgeClient clientId).2

/-- New members are registered clients, and a new network gets an id that is not in use. -/
def Admissible (manager : NetworkManager) : MembershipOp → Prop
  | .create _ _ ownerId _ networkId uuid _ _ =>
    manager.registry.has ownerId = true ∧
      manager.get (NetworkManager.chooseId networkId uuid) = none
  | .join _ clientId _ => manager.registry.has clientId = true
  | .joinByInviteCode _ clientId _ => manager.registry.has clientId = true
  | _ => True

instance (manager : NetworkManager) : (op : MembershipOp) → Decidable (Admissible manager op)
  | .create .. => inferInstanceAs (Decidable (_ ∧ _))
  | .join .. | .joinByInviteCode .. => inferInstanceAs (Decidable (_ = true))
  | .register .. | .unregister .. | .setOnline .. | .heartbeat .. | .pruneStale ..
  | .generateInviteCode .. | .leave .. | .delete .. | .purgeClient .. => isTrue trivial

/-- What an operation can do to the manager. -/
inductive MembershipCase (bcrypt : Bcrypt) (manager : NetworkManager) :
    MembershipOp → NetworkManager → Prop
  | unchanged (op : MembershipOp) : MembershipCase bcrypt manager op manager
  | registered (op : MembershipOp) (registry : ClientRegistry)
    (same : ∀ clientId, registry.networksFor clientId = manager.registry.networksFor clientId) :
    MembershipCase bcrypt manager op { manager with registry := registry }
  | created {name password ownerId topology : String} {networkId : Option String} {uuid : String}
    {salt : Bytes} {now : Time} {created : NetworkManager} {record : NetworkRecord}
    (made : manager.create bcrypt name password ownerId topology networkId uuid salt now =
      .ok (created, record)) :
    MembershipCase bcrypt manager
      (.create name password ownerId topology networkId uuid salt now) created
  | joined {networkId clientId : String} {record : NetworkRecord} (password : String)
    (stored : manager.get networkId = some record) :
    MembershipCase bcrypt manager (.join networkId clientId password)
      (manager.addMember networkId clientId)
  | joinedByInviteCode {networkId clientId : String} {record : NetworkRecord}
    (code password : String) (stored : manager.get networkId = some record) :
    MembershipCase bcrypt manager (.joinByInviteCode code clientId password)
      (manager.addMember networkId clientId)
  | coded (op : MembershipOp) (inviteCodes networkInviteCodes : Dict String String) :
    MembershipCase bcrypt manager op
      { manager with inviteCodes := inviteCodes, networkInviteCodes := networkInviteCodes }
  | left (networkId clientId : String) :
    MembershipCase bcrypt manager (.leave networkId clientId)
      { manager with
        networks := manager.networks.modify networkId (NetworkManager.withoutMember clientId)
        registry := manager.registry.removeNetwork clientId networkId }
  | deleted (networkId requesterId : String) :
    MembershipCase bcrypt manager (.delete networkId requesterId)
      (manager.delete networkId requesterId).2
  | purged (clientId : String) :
    MembershipCase bcrypt manager (.purgeClient clientId) (manager.purgeClient clientId).2

theorem membership_cases (bcrypt : Bcrypt) (lower : String → String) (manager : NetworkManager)
    (op : MembershipOp) :
    MembershipCase bcrypt manager op (membershipStep bcrypt lower manager op) := by
  cases op with
  | register clientId publicKeyPem now =>
    exact .registered _ _ (ClientRegistry.networksFor_register _ clientId publicKeyPem now)
  | unregister clientId =>
    exact .registered _ _ (ClientRegistry.networksFor_unregister _ clientId)
  | setOnline clientId now =>
    exact .registered _ _ (ClientRegistry.networksFor_setOnline _ clientId now)
  | heartbeat clientId now =>
    exact .registered _ _ (ClientRegistry.networksFor_heartbeat _ clientId now)
  | pruneStale now timeout =>
    exact .registered _ _ (ClientRegistry.networksFor_pruneStale _ now timeout)
  | create name password ownerId topology networkId uuid salt now =>
    simp only [membershipStep]
    split
    · exact .unchanged _
    · rename_i created record made
      exact .created made
  | join networkId clientId password =>
    simp only [membershipStep]
    rcases NetworkManager.join_cases networkId clientId password with
      same | ⟨record, stored, -, -, same⟩
    · rw [same]
      exact .unchanged _
    · rw [same]
      exact .joined password stored
  | joinByInviteCode code clientId password =>
    simp only [membershipStep]
    rcases NetworkManager.joinByInviteCode_cases code clientId password with
      same | ⟨networkId, record, -, stored, -, -, same⟩
    · rw [same]
      exact .unchanged _
    · rw [same]
      exact .joinedByInviteCode code password stored
  | generateInviteCode networkId draws suffix =>
    simp only [membershipStep]
    split
    · exact .unchanged _
    · rename_i coded code made
      obtain ⟨inviteCodes, networkInviteCodes, rfl⟩ := NetworkManager.generateInviteCode_ok made
      exact .coded _ inviteCodes networkInviteCodes
  | leave networkId clientId =>
    simp only [membershipStep]
    rcases NetworkManager.leave_cases networkId clientId with same | ⟨record, -, -, same⟩
    · rw [same]
      exact .unchanged _
    · rw [same]
      exact .left networkId clientId
  | delete networkId requesterId => exact .deleted networkId requesterId
  | purgeClient clientId => exact .purged clientId

/-- Both copies of membership are readings of one relation. -/
def Mirrored (manager : NetworkManager) : Prop :=
  ∀ clientId networkId,
    networkId ∈ manager.registry.networksFor clientId ↔ clientId ∈ manager.members networkId

/-- Only the registry changed, and every client kept its networks. -/
theorem Mirrored.withRegistry {manager : NetworkManager} (mirrored : Mirrored manager)
    (registry : ClientRegistry)
    (same : ∀ clientId, registry.networksFor clientId = manager.registry.networksFor clientId) :
    Mirrored { manager with registry := registry } := by
  intro clientId networkId
  show networkId ∈ registry.networksFor clientId ↔ _
  rw [same]
  exact mirrored clientId networkId

theorem mirrored_addMember {manager : NetworkManager} (mirrored : Mirrored manager)
    (networkId clientId : String) (record : NetworkRecord)
    (stored : manager.get networkId = some record)
    (known : manager.registry.has clientId = true) :
    Mirrored (manager.addMember networkId clientId) := by
  intro oneClient oneNetwork
  rw [NetworkManager.members_addMember manager networkId clientId record stored]
  show oneNetwork ∈ (manager.registry.addNetwork clientId networkId).networksFor oneClient ↔ _
  rw [ClientRegistry.networksFor_addNetwork _ _ _ known]
  have before := mirrored oneClient oneNetwork
  by_cases sameClient : oneClient = clientId
  · by_cases sameNetwork : oneNetwork = networkId
    · simp [sameClient, sameNetwork]
    · simp only [sameClient, sameNetwork, if_true, if_false, Finset.mem_insert, false_or]
      rw [← sameClient]
      exact before
  · by_cases sameNetwork : oneNetwork = networkId
    · simp only [sameClient, sameNetwork, if_true, if_false, Finset.mem_insert, false_or]
      rw [← sameNetwork]
      exact before
    · simp only [sameClient, sameNetwork, if_false]
      exact before

theorem mirrored_create {manager : NetworkManager} (mirrored : Mirrored manager)
    (record : NetworkRecord) (ownerId : String) (alone : record.members = {ownerId})
    (fresh : manager.get record.networkId = none)
    (known : manager.registry.has ownerId = true) :
    Mirrored { manager with
      networks := manager.networks.insert record.networkId record
      registry := manager.registry.addNetwork ownerId record.networkId } := by
  intro oneClient oneNetwork
  rw [NetworkManager.members_insert]
  show oneNetwork ∈ (manager.registry.addNetwork ownerId record.networkId).networksFor oneClient ↔
    _
  rw [ClientRegistry.networksFor_addNetwork _ _ _ known]
  have before := mirrored oneClient oneNetwork
  have unused : manager.members record.networkId = ∅ := by rw [NetworkManager.members, fresh]
  by_cases sameNetwork : oneNetwork = record.networkId
  · rw [sameNetwork, unused] at before
    rw [sameNetwork, if_pos rfl, alone, Finset.mem_singleton]
    by_cases sameClient : oneClient = ownerId
    · simp [sameClient]
    · simp only [sameClient, if_false, iff_false]
      exact fun listed => absurd (before.mp listed) (Finset.notMem_empty oneClient)
  · rw [if_neg sameNetwork]
    by_cases sameClient : oneClient = ownerId
    · simp only [sameClient, if_true, Finset.mem_insert, sameNetwork, false_or]
      rw [← sameClient]
      exact before
    · rw [if_neg sameClient]
      exact before

theorem mirrored_leave {manager : NetworkManager} (mirrored : Mirrored manager)
    (networkId clientId : String) :
    Mirrored { manager with
      networks := manager.networks.modify networkId (NetworkManager.withoutMember clientId)
      registry := manager.registry.removeNetwork clientId networkId } := by
  intro oneClient oneNetwork
  rw [NetworkManager.members_withoutMember]
  show oneNetwork ∈ (manager.registry.removeNetwork clientId networkId).networksFor oneClient ↔ _
  rw [ClientRegistry.networksFor_removeNetwork]
  have before := mirrored oneClient oneNetwork
  by_cases sameClient : oneClient = clientId
  · by_cases sameNetwork : oneNetwork = networkId
    · simp [sameClient, sameNetwork]
    · simp only [sameClient, sameNetwork, if_true, if_false, Finset.mem_erase, ne_eq,
        not_false_eq_true, true_and]
      rw [← sameClient]
      exact before
  · by_cases sameNetwork : oneNetwork = networkId
    · simp only [sameClient, sameNetwork, if_true, if_false, Finset.mem_erase, ne_eq,
        not_false_eq_true, true_and]
      rw [← sameNetwork]
      exact before
    · simp only [sameClient, sameNetwork, if_false]
      exact before

/-- Deleting a network removes it from the record of every member, and only members had it. -/
theorem mirrored_delete {manager : NetworkManager} (mirrored : Mirrored manager)
    (networkId requesterId : String) : Mirrored (manager.delete networkId requesterId).2 := by
  cases stored : manager.get networkId with
  | none =>
    rw [NetworkManager.delete, stored]
    exact mirrored
  | some record =>
    by_cases owner : record.ownerId ≠ requesterId
    · rw [NetworkManager.delete, stored]
      simp only
      rw [if_pos owner]
      exact mirrored
    · have deleted : (manager.delete networkId requesterId).1 = true := by
        simp [NetworkManager.delete, stored, not_not.mp owner]
      intro oneClient oneNetwork
      rw [NetworkManager.members_delete _ _ _ _ deleted]
      have before := mirrored oneClient oneNetwork
      have members := NetworkManager.members_of_get stored
      have listed : oneNetwork ∈
          (manager.delete networkId requesterId).2.registry.networksFor oneClient ↔
            oneNetwork ∈ manager.registry.networksFor oneClient ∧
              ¬ (oneClient ∈ record.members ∧ oneNetwork = networkId) := by
        simp only [NetworkManager.delete, stored, owner, if_false, ClientRegistry.networksFor,
          ClientRegistry.get, Dict.get?_mapValues]
        cases manager.registry.clients.get? oneClient with
        | none => simp
        | some client =>
          by_cases member : oneClient ∈ record.members
          · simp [member, and_comm]
          · simp [member]
      rw [listed, before]
      by_cases sameNetwork : oneNetwork = networkId
      · subst sameNetwork
        rw [members]
        simp
      · simp [sameNetwork]

/-- Purging a client removes from its record every network it was a member of. -/
theorem mirrored_purgeClient {manager : NetworkManager} (mirrored : Mirrored manager)
    (clientId : String) : Mirrored (manager.purgeClient clientId).2 := by
  intro oneClient oneNetwork
  rw [NetworkManager.members_purgeClient]
  simp only [NetworkManager.purgeClient]
  rw [ClientRegistry.mem_networksFor_removeAll, mirrored oneClient oneNetwork]
  have removed : oneNetwork ∈ (manager.networks.entries.filter fun entry =>
      decide (clientId ∈ entry.2.members)).map Prod.fst ↔
        clientId ∈ manager.members oneNetwork := by
    rw [NetworkManager.mem_members]
    simp only [List.mem_map, List.mem_filter, decide_eq_true_eq, Prod.exists, exists_and_right,
      exists_eq_right, NetworkManager.get, Dict.get?_eq_some_iff]
  rw [removed]
  by_cases sameClient : oneClient = clientId
  · simp [sameClient]
  · simp [sameClient]

/-- Every admissible operation keeps the two copies equal. -/
theorem mirrored_step (bcrypt : Bcrypt) (lower : String → String) {manager : NetworkManager}
    (op : MembershipOp) (admissible : Admissible manager op) (mirrored : Mirrored manager) :
    Mirrored (membershipStep bcrypt lower manager op) := by
  have result := membership_cases bcrypt lower manager op
  generalize membershipStep bcrypt lower manager op = next at result ⊢
  cases result with
  | unchanged => exact mirrored
  | registered _ registry same => exact mirrored.withRegistry registry same
  | created made =>
    obtain ⟨passwordHash, kind, -, rfl, rfl⟩ := NetworkManager.create_ok made
    exact mirrored_create mirrored _ _ rfl admissible.2 admissible.1
  | joined password stored => exact mirrored_addMember mirrored _ _ _ stored admissible
  | joinedByInviteCode code password stored =>
    exact mirrored_addMember mirrored _ _ _ stored admissible
  | coded => exact mirrored
  | left networkId clientId => exact mirrored_leave mirrored networkId clientId
  | deleted networkId requesterId => exact mirrored_delete mirrored networkId requesterId
  | purged clientId => exact mirrored_purgeClient mirrored clientId

/-! ### Hubs and gateways -/

/-- A network record is stored under its own id, and its hub or gateway, when set, is a member
of a network of that topology. -/
structure WellFormed (networkId : String) (record : NetworkRecord) : Prop where
  named : record.networkId = networkId
  hub : ∀ clientId, record.hubId = some clientId →
    clientId ∈ record.members ∧ record.topology = .hubAndSpoke
  gateway : ∀ clientId, record.gatewayId = some clientId →
    clientId ∈ record.members ∧ record.topology = .gateway

theorem wellFormed_newNetwork (networkId name : String) (passwordHash : Bytes) (ownerId : String)
    (topology : Topology) (now : Time) :
    WellFormed networkId
      (NetworkManager.newNetwork networkId name passwordHash ownerId topology now) := by
  cases topology with
  | mesh => exact ⟨rfl, by simp [NetworkManager.newNetwork], by simp [NetworkManager.newNetwork]⟩
  | hubAndSpoke =>
    exact ⟨rfl, by simp [NetworkManager.newNetwork], by simp [NetworkManager.newNetwork]⟩
  | gateway =>
    exact ⟨rfl, by simp [NetworkManager.newNetwork], by simp [NetworkManager.newNetwork]⟩

theorem WellFormed.addMember {networkId : String} {record : NetworkRecord}
    (wellFormed : WellFormed networkId record) (clientId : String) :
    WellFormed networkId { record with members := insert clientId record.members } := by
  refine ⟨wellFormed.named, fun hub set => ?_, fun gateway set => ?_⟩
  · obtain ⟨member, topology⟩ := wellFormed.hub hub set
    exact ⟨Finset.mem_insert_of_mem member, topology⟩
  · obtain ⟨member, topology⟩ := wellFormed.gateway gateway set
    exact ⟨Finset.mem_insert_of_mem member, topology⟩

/-- A member that goes takes its hub or gateway role with it. -/
theorem WellFormed.withoutMember {networkId : String} {record : NetworkRecord}
    (wellFormed : WellFormed networkId record) (clientId : String) :
    WellFormed networkId (NetworkManager.withoutMember clientId record) := by
  have remains : ∀ (role : Option String) (holder : String),
      (if role = some clientId then none else role) = some holder →
        role = some holder ∧ holder ≠ clientId := by
    intro role holder set
    by_cases gone : role = some clientId
    · rw [if_pos gone] at set
      cases set
    · rw [if_neg gone] at set
      exact ⟨set, fun same => gone (same ▸ set)⟩
  refine ⟨wellFormed.named, fun hub set => ?_, fun gateway set => ?_⟩
  · obtain ⟨before, different⟩ := remains record.hubId hub set
    obtain ⟨member, topology⟩ := wellFormed.hub hub before
    exact ⟨Finset.mem_erase.mpr ⟨different, member⟩, topology⟩
  · obtain ⟨before, different⟩ := remains record.gatewayId gateway set
    obtain ⟨member, topology⟩ := wellFormed.gateway gateway before
    exact ⟨Finset.mem_erase.mpr ⟨different, member⟩, topology⟩

theorem wellFormed_step (bcrypt : Bcrypt) (lower : String → String) {manager : NetworkManager}
    (op : MembershipOp) (wellFormed : manager.networks.All WellFormed) :
    (membershipStep bcrypt lower manager op).networks.All WellFormed := by
  have result := membership_cases bcrypt lower manager op
  generalize membershipStep bcrypt lower manager op = next at result ⊢
  cases result with
  | unchanged => exact wellFormed
  | registered => exact wellFormed
  | created made =>
    obtain ⟨passwordHash, kind, -, rfl, rfl⟩ := NetworkManager.create_ok made
    exact wellFormed.insert (wellFormed_newNetwork _ _ _ _ _ _)
  | joined password stored => exact wellFormed.modify _ fun _ before => before.addMember _
  | joinedByInviteCode code password stored =>
    exact wellFormed.modify _ fun _ before => before.addMember _
  | coded => exact wellFormed
  | left networkId clientId =>
    exact wellFormed.modify networkId fun _ before => before.withoutMember clientId
  | deleted networkId requesterId =>
    unfold NetworkManager.delete
    split
    · exact wellFormed
    · split
      · exact wellFormed
      · exact wellFormed.erase networkId
  | purged clientId =>
    refine (wellFormed.filter _).mapValues fun networkId record before => ?_
    by_cases member : clientId ∈ record.members
    · rw [if_pos member]
      exact before.withoutMember clientId
    · rw [if_neg member]
      exact before

/-! ### Every run -/

/-- The step function of runs: no operation stops a run. -/
def membershipRun (bcrypt : Bcrypt) (lower : String → String) (manager : NetworkManager)
    (op : MembershipOp) : Option NetworkManager :=
  some (membershipStep bcrypt lower manager op)

/-- The two classes as they are built: no clients and no networks. -/
def emptyManager (bannedNetworks : Finset String) : NetworkManager :=
  { NetworkManager.init ClientRegistry.init with bannedNetworks := bannedNetworks }

/-- What every operation keeps. -/
structure MembershipInvariant (manager : NetworkManager) : Prop where
  mirrored : Mirrored manager
  wellFormed : manager.networks.All WellFormed

theorem membershipInvariant_emptyManager (bannedNetworks : Finset String) :
    MembershipInvariant (emptyManager bannedNetworks) := by
  refine ⟨fun clientId networkId => ?_, Dict.all_empty⟩
  simp [emptyManager, NetworkManager.init, ClientRegistry.init, ClientRegistry.networksFor,
    ClientRegistry.get, NetworkManager.members, NetworkManager.get]

/-- The networks listed for a client are those it is a member of. -/
theorem mem_listForClient {manager : NetworkManager}
    (wellFormed : manager.networks.All WellFormed) {clientId networkId : String} :
    networkId ∈ (manager.listForClient clientId).map NetworkRecord.networkId ↔
      clientId ∈ manager.members networkId := by
  rw [NetworkManager.mem_members]
  simp only [NetworkManager.listForClient, NetworkManager.get, List.mem_map, List.mem_filter,
    Dict.mem_values_iff, decide_eq_true_eq]
  constructor
  · rintro ⟨record, ⟨⟨key, stored⟩, member⟩, rfl⟩
    rw [← (wellFormed key record stored).named] at stored
    exact ⟨record, stored, member⟩
  · rintro ⟨record, stored, member⟩
    exact ⟨record, ⟨⟨networkId, stored⟩, member⟩, (wellFormed networkId record stored).named⟩

/-- After every run in which new members are registered and new networks get fresh ids, the
registry's copy of membership, the network records and the listing name the same networks, and
every hub or gateway is a current member of a network of its topology. -/
theorem membership_mirrored (bcrypt : Bcrypt) (lower : String → String)
    (bannedNetworks : Finset String) (ops : List MembershipOp) (manager : NetworkManager)
    (admissible : HoldsAlong (membershipRun bcrypt lower) Admissible
      (emptyManager bannedNetworks) ops)
    (ran : runFrom (membershipRun bcrypt lower) (emptyManager bannedNetworks) ops =
      some manager) :
    (∀ clientId networkId,
      (networkId ∈ manager.registry.networksFor clientId ↔
        ∃ record, manager.get networkId = some record ∧ clientId ∈ record.members) ∧
      (networkId ∈ (manager.listForClient clientId).map NetworkRecord.networkId ↔
        networkId ∈ manager.registry.networksFor clientId)) ∧
    ∀ networkId record, manager.get networkId = some record →
      (∀ clientId, record.hubId = some clientId →
        clientId ∈ record.members ∧ record.topology = .hubAndSpoke) ∧
      (∀ clientId, record.gatewayId = some clientId →
        clientId ∈ record.members ∧ record.topology = .gateway) := by
  have invariant : MembershipInvariant manager := by
    refine run_invariant (fun state op next admitted holds stepped => ?_)
      (membershipInvariant_emptyManager bannedNetworks) admissible ran
    obtain rfl := Option.some.inj stepped
    exact ⟨mirrored_step bcrypt lower op admitted holds.mirrored,
      wellFormed_step bcrypt lower op holds.wellFormed⟩
  obtain ⟨mirrored, wellFormed⟩ := invariant
  refine ⟨fun clientId networkId => ⟨?_, ?_⟩, fun networkId record stored => ?_⟩
  · rw [mirrored clientId networkId, NetworkManager.mem_members]
  · rw [mem_listForClient wellFormed, mirrored clientId networkId]
  · have holds := wellFormed networkId record stored
    exact ⟨holds.hub, holds.gateway⟩

/-- A password hash for tests: the hash is the password. -/
def plainBcrypt : Bcrypt where
  hashpw password _ := .ok password.toUTF8.toList
  checkpw password hash := some (decide (password.toUTF8.toList = hash))

/-- Two clients register, one creates a network around itself as its hub, the other joins, and
the hub leaves. -/
def hubLeaves : List MembershipOp :=
  [.register "alice" "key" 0, .register "bob" "key" 1,
    .create "home" "secret" "alice" "hub_and_spoke" (some "n") "" [] 2,
    .join "n" "bob" "secret", .leave "n" "alice"]

theorem membership_mirrored_hubLeaves :
    ∃ manager, runFrom (membershipRun plainBcrypt id) (emptyManager ∅) hubLeaves = some manager ∧
      ("n" ∈ manager.registry.networksFor "bob" ↔
        ∃ record, manager.get "n" = some record ∧ "bob" ∈ record.members) ∧
      manager.registry.networksFor "bob" = {"n"} ∧ manager.members "n" = {"bob"} := by
  have admissible : HoldsAlong (membershipRun plainBcrypt id) Admissible (emptyManager ∅)
      hubLeaves := by decide +kernel
  refine ⟨_, rfl, ?_, by decide +kernel, by decide +kernel⟩
  exact ((membership_mirrored plainBcrypt id ∅ hubLeaves _ admissible rfl).1 "bob" "n").1

end LocalNetwork
