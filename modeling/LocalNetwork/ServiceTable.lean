/-
This file proves when the services of the network manager belong to members. Services have a
table of their own, by network and then by id; a service enters it for a member, and later
operations take members out of networks, or networks away.

Purging a client takes its services with it. Leaving a network, deleting one and creating
one under an id in use do not look at the table, so these three have to find it without the
services that would lose their provider or their network.
-/

import LocalNetwork.Membership

namespace LocalNetwork

/-! ### The operations -/

/-- The operations on the registry, the networks and the services. -/
inductive ServiceOp where
  | membership (op : MembershipOp)
  | exposeService (networkId providerId name : String) (protocol : Transport) (localHost : String)
      (localPort : Nat) (uuid : String) (now : Time)
  | unexposeService (networkId serviceId : String)
  | unexposeServiceOwner (serviceId clientId : String)
  | purgeClientServices (clientId : String)

/-- The state after an operation; one that raises changes nothing. -/
def serviceStep (bcrypt : Bcrypt) (lower : String → String) (manager : NetworkManager) :
    ServiceOp → NetworkManager
  | .membership op => membershipStep bcrypt lower manager op
  | .exposeService networkId providerId name protocol localHost localPort uuid now =>
    match manager.exposeService networkId providerId name protocol localHost localPort uuid now with
    | .error _ => manager
    | .ok (exposed, _) => exposed
  | .unexposeService networkId serviceId => (manager.unexposeService networkId serviceId).2
  | .unexposeServiceOwner serviceId clientId =>
    (manager.unexposeServiceOwner serviceId clientId).2
  | .purgeClientServices clientId => (manager.purgeClientServices clientId).2

/-- The step function of runs: no operation stops a run. -/
def serviceRun (bcrypt : Bcrypt) (lower : String → String) (manager : NetworkManager)
    (op : ServiceOp) : Option NetworkManager :=
  some (serviceStep bcrypt lower manager op)

/-- Every service that is listed or found has a network that exists and a provider that is a member
of it. -/
def ServicesOfMembers (manager : NetworkManager) : Prop :=
  ∀ service,
    ((∃ networkId, service ∈ manager.listServices networkId) ∨
      ∃ serviceId, manager.getService serviceId = some service) →
    ∃ record, manager.get service.networkId = some record ∧ service.providerId ∈ record.members

/-- A client leaves a network on which it has no service; a network is deleted once it has no
services; and a network is created under an id under which the new owner alone has services. -/
def KeepsServices (bcrypt : Bcrypt) (manager : NetworkManager) : ServiceOp → Prop
  | .membership (.leave networkId clientId) =>
    ∀ service ∈ manager.listServices networkId, service.providerId ≠ clientId
  | .membership (.delete networkId requesterId) =>
    (manager.delete networkId requesterId).1 = true → manager.listServices networkId = []
  | .membership (.create name password ownerId topology networkId uuid salt now) =>
    (manager.create bcrypt name password ownerId topology networkId uuid salt now).isOk = true →
      ∀ service ∈ manager.listServices (NetworkManager.chooseId networkId uuid),
        service.providerId = ownerId
  | _ => True

/-! ### The table -/

namespace NetworkManager

variable {manager : NetworkManager} {service : ServiceRecord}

/-- Every service stands under its network, and its provider is a member of it. -/
def Placed (manager : NetworkManager) : Prop :=
  manager.services.All fun networkId serviceMap => serviceMap.All fun _ service =>
    service.networkId = networkId ∧ service.providerId ∈ manager.members networkId

theorem mem_listServices {networkId : String} :
    service ∈ manager.listServices networkId ↔
      ∃ serviceMap serviceId, manager.services.get? networkId = some serviceMap ∧
        serviceMap.get? serviceId = some service := by
  unfold listServices
  cases manager.services.get? networkId with
  | none => simp [Dict.mem_values_iff]
  | some serviceMap => simp [Dict.mem_values_iff]

theorem listed_of_getService {serviceId : String} (found : manager.getService serviceId =
    some service) : ∃ networkId, service ∈ manager.listServices networkId := by
  obtain ⟨serviceMap, listed, stored⟩ := List.exists_of_findSome?_eq_some found
  obtain ⟨networkId, map⟩ := Dict.mem_values_iff.mp listed
  exact ⟨networkId, mem_listServices.mpr ⟨serviceMap, serviceId, map, stored⟩⟩

theorem Placed.listed (placed : manager.Placed) {networkId : String}
    (member : service ∈ manager.listServices networkId) :
    service.networkId = networkId ∧ service.providerId ∈ manager.members networkId := by
  obtain ⟨serviceMap, serviceId, map, stored⟩ := mem_listServices.mp member
  exact placed networkId serviceMap map serviceId service stored

theorem Placed.serviceMap (placed : manager.Placed) (networkId : String) :
    ((manager.services.get? networkId).getD Dict.empty).All fun _ service =>
      service.networkId = networkId ∧ service.providerId ∈ manager.members networkId := by
  cases map : manager.services.get? networkId with
  | none => exact Dict.all_empty
  | some serviceMap => exact placed networkId serviceMap map

/-- A table in which every listed service is in place. -/
theorem placed_iff :
    manager.Placed ↔ ∀ networkId, ∀ service ∈ manager.listServices networkId,
      service.networkId = networkId ∧ service.providerId ∈ manager.members networkId := by
  refine ⟨fun placed networkId service member => placed.listed member, fun listed => ?_⟩
  intro networkId serviceMap map serviceId service stored
  exact listed networkId service (mem_listServices.mpr ⟨serviceMap, serviceId, map, stored⟩)

theorem Placed.servicesOfMembers (placed : manager.Placed) : ServicesOfMembers manager := by
  intro service reported
  have listed : ∃ networkId, service ∈ manager.listServices networkId := by
    rcases reported with listed | ⟨serviceId, found⟩
    · exact listed
    · exact listed_of_getService found
  obtain ⟨networkId, member⟩ := listed
  obtain ⟨rfl, provides⟩ := placed.listed member
  exact mem_members.mp provides

/-- Services that stay in place, while the members change. -/
theorem Placed.members {next : NetworkManager} (placed : manager.Placed)
    (services : next.services = manager.services)
    (kept : ∀ networkId, ∀ service ∈ manager.listServices networkId,
      service.providerId ∈ next.members networkId) : next.Placed := by
  have same (networkId : String) : next.listServices networkId = manager.listServices networkId := by
    rw [listServices, listServices, services]
  refine placed_iff.mpr fun networkId service member => ?_
  rw [same] at member
  exact ⟨(placed.listed member).1, kept networkId service member⟩

/-! ### Operations that keep services in place -/

variable {bcrypt : Bcrypt} {lower : String → String}

theorem placed_addMember (placed : manager.Placed) {networkId : String} {record : NetworkRecord}
    (stored : manager.get networkId = some record) (clientId : String) :
    (manager.addMember networkId clientId).Placed := by
  refine placed.members rfl fun other service member => ?_
  have provides := (placed.listed member).2
  rw [members_addMember manager networkId clientId record stored]
  split
  · exact Finset.mem_insert_of_mem provides
  · exact provides

theorem placed_leave (placed : manager.Placed) {networkId clientId : String}
    (none : ∀ service ∈ manager.listServices networkId, service.providerId ≠ clientId) :
    NetworkManager.Placed { manager with
      networks := manager.networks.modify networkId (withoutMember clientId)
      registry := manager.registry.removeNetwork clientId networkId } := by
  refine placed.members rfl fun other service member => ?_
  have provides := (placed.listed member).2
  rw [members_withoutMember]
  split
  · rename_i here
    rw [here] at member
    exact Finset.mem_erase.mpr ⟨none service member, provides⟩
  · exact provides

/-- Deleting a network keeps the table of services, and changes nothing if it is refused. -/
theorem delete_services (networkId requesterId : String) :
    (manager.delete networkId requesterId).2.services = manager.services ∧
      ((manager.delete networkId requesterId).1 = false →
        (manager.delete networkId requesterId).2 = manager) := by
  unfold delete
  split
  · exact ⟨rfl, fun _ => rfl⟩
  · split
    · exact ⟨rfl, fun _ => rfl⟩
    · exact ⟨rfl, fun refused => by cases refused⟩

theorem placed_delete (placed : manager.Placed) {networkId requesterId : String}
    (none : (manager.delete networkId requesterId).1 = true →
      manager.listServices networkId = []) :
    (manager.delete networkId requesterId).2.Placed := by
  obtain ⟨services, refused⟩ := @delete_services manager networkId requesterId
  cases deleted : (manager.delete networkId requesterId).1 with
  | false =>
    rw [refused deleted]
    exact placed
  | true =>
    refine placed.members services fun other service member => ?_
    rw [members_delete manager networkId requesterId other deleted]
    split
    · rename_i here
      rw [here, none deleted] at member
      cases member
    · exact (placed.listed member).2

theorem placed_create (placed : manager.Placed) {name password ownerId topology : String}
    {networkId : Option String} {uuid : String} {salt : Bytes} {now : Time}
    {created : NetworkManager} {record : NetworkRecord}
    (made : manager.create bcrypt name password ownerId topology networkId uuid salt now =
      .ok (created, record))
    (own : ∀ service ∈ manager.listServices (chooseId networkId uuid),
      service.providerId = ownerId) : created.Placed := by
  obtain ⟨passwordHash, kind, -, rfl, rfl⟩ := create_ok made
  refine placed.members rfl fun other service member => ?_
  rw [members_insert]
  split
  · rename_i here
    rw [here] at member
    exact Finset.mem_singleton.mpr (own service member)
  · exact (placed.listed member).2

/-- The services that are left once those of a provider are gone. -/
theorem placed_withoutProvider {next : NetworkManager} (placed : manager.Placed)
    {clientId : String} (services : next.services = withoutProvider clientId manager.services)
    (kept : ∀ networkId providerId, providerId ≠ clientId →
      providerId ∈ manager.members networkId → providerId ∈ next.members networkId) :
    next.Placed := by
  intro networkId serviceMap map serviceId service stored
  rw [services, withoutProvider, Dict.get?_mapValues] at map
  obtain ⟨before, beforeMap, rfl⟩ := Option.map_eq_some_iff.mp map
  rw [Dict.get?_filter] at stored
  obtain ⟨beforeStored, other⟩ := Option.filter_eq_some_iff.mp stored
  obtain ⟨named, provides⟩ := placed networkId before beforeMap serviceId service beforeStored
  exact ⟨named, kept networkId service.providerId (of_decide_eq_true other) provides⟩

theorem placed_membershipStep (placed : manager.Placed) {op : MembershipOp}
    (keeps : KeepsServices bcrypt manager (.membership op)) :
    (membershipStep bcrypt lower manager op).Placed := by
  have result := membership_cases bcrypt lower manager op
  generalize membershipStep bcrypt lower manager op = next at result ⊢
  cases result with
  | unchanged => exact placed
  | registered => exact placed
  | created made => exact placed_create placed made (keeps (by rw [made]; rfl))
  | joined password stored => exact placed_addMember placed stored _
  | joinedByInviteCode code password stored => exact placed_addMember placed stored _
  | coded => exact placed
  | left networkId clientId => exact placed_leave placed keeps
  | deleted networkId requesterId => exact placed_delete placed keeps
  | purged clientId =>
    refine placed_withoutProvider placed rfl fun networkId providerId other provides => ?_
    rw [members_purgeClient]
    exact Finset.mem_erase.mpr ⟨other, provides⟩

theorem placed_step (placed : manager.Placed) {op : ServiceOp}
    (keeps : KeepsServices bcrypt manager op) : (serviceStep bcrypt lower manager op).Placed := by
  cases op with
  | membership op => exact placed_membershipStep placed keeps
  | exposeService networkId providerId name protocol localHost localPort uuid now =>
    simp only [serviceStep]
    split
    · exact placed
    · rename_i exposed serviceId made
      obtain ⟨record, stored, member, -, rfl⟩ := exposeService_ok made
      refine Dict.All.insert placed (Dict.All.insert ?_ ⟨rfl, ?_⟩)
      · exact placed.serviceMap networkId
      · exact mem_members.mpr ⟨record, stored, member⟩
  | unexposeService networkId serviceId =>
    simp only [serviceStep, unexposeService]
    split
    · exact placed
    · rename_i serviceMap map
      split
      · exact Dict.All.insert placed ((placed networkId serviceMap map).erase serviceId)
      · exact placed
  | unexposeServiceOwner serviceId clientId =>
    simp only [serviceStep, unexposeServiceOwner]
    split
    · exact placed
    · rename_i networkId serviceMap found
      have map := Dict.get?_eq_some_iff.mpr (List.mem_of_find?_eq_some found)
      exact Dict.All.insert placed ((placed networkId serviceMap map).erase serviceId)
  | purgeClientServices clientId => exact placed_withoutProvider placed rfl fun _ _ _ => id

/-! ### Operations that leave a service behind -/

/-- A service that is listed before a step has its provider in its network after the step. -/
theorem provides_of_servicesOfMembers (placed : manager.Placed) {next : NetworkManager}
    (holds : ServicesOfMembers next) (services : next.services = manager.services)
    {networkId : String} {service : ServiceRecord}
    (member : service ∈ manager.listServices networkId) :
    service.providerId ∈ next.members networkId := by
  have listed : service ∈ next.listServices networkId := by
    rw [listServices, services]
    exact member
  rw [← (placed.listed member).1]
  exact mem_members.mpr (holds service (.inl ⟨networkId, listed⟩))

/-- A network that is created under an id with services has their provider as its owner. -/
theorem keeps_of_create (placed : manager.Placed) {name password ownerId topology : String}
    {networkId : Option String} {uuid : String} {salt : Bytes} {now : Time}
    {created : NetworkManager} {record : NetworkRecord}
    (made : manager.create bcrypt name password ownerId topology networkId uuid salt now =
      .ok (created, record)) (holds : ServicesOfMembers created) {service : ServiceRecord}
    (member : service ∈ manager.listServices (chooseId networkId uuid)) :
    service.providerId = ownerId := by
  obtain ⟨passwordHash, kind, -, rfl, rfl⟩ := create_ok made
  have kept := provides_of_servicesOfMembers placed holds rfl member
  rw [members_insert, if_pos (show chooseId networkId uuid =
    (newNetwork (chooseId networkId uuid) name passwordHash ownerId kind now).networkId
    from rfl)] at kept
  exact Finset.mem_singleton.mp kept

/-- A client that leaves has no service in the network. -/
theorem keeps_of_leave (placed : manager.Placed) {networkId clientId : String}
    (holds : ServicesOfMembers (manager.leave networkId clientId).2) {service : ServiceRecord}
    (member : service ∈ manager.listServices networkId) : service.providerId ≠ clientId := by
  intro same
  obtain ⟨record, stored, listed⟩ := mem_members.mp (placed.listed member).2
  have left : (manager.leave networkId clientId).2 = { manager with
      networks := manager.networks.modify networkId (withoutMember clientId)
      registry := manager.registry.removeNetwork clientId networkId } := by
    rw [leave, stored]
    simp only
    rw [if_neg (not_not.mpr (same ▸ listed))]
  rw [left] at holds
  have kept := provides_of_servicesOfMembers placed holds rfl member
  rw [members_withoutMember, if_pos rfl, same] at kept
  exact Finset.notMem_erase clientId _ kept

/-- A network that is deleted has no services. -/
theorem keeps_of_delete (placed : manager.Placed) {networkId requesterId : String}
    (deleted : (manager.delete networkId requesterId).1 = true)
    (holds : ServicesOfMembers (manager.delete networkId requesterId).2) :
    manager.listServices networkId = [] := by
  refine List.eq_nil_iff_forall_not_mem.mpr fun service member => ?_
  have kept := provides_of_servicesOfMembers placed holds
    (delete_services networkId requesterId).1 member
  rw [members_delete manager networkId requesterId networkId deleted, if_pos rfl] at kept
  exact Finset.notMem_empty _ kept

/-- A step that takes the network or the provider away from a service that is listed. -/
theorem keeps_of_step (placed : manager.Placed) {op : ServiceOp}
    (holds : ServicesOfMembers (serviceStep bcrypt lower manager op)) :
    KeepsServices bcrypt manager op := by
  cases op with
  | membership op =>
    cases op with
    | create name password ownerId topology networkId uuid salt now =>
      intro made service member
      cases result : manager.create bcrypt name password ownerId topology networkId uuid salt
        now with
      | error exception =>
        rw [result] at made
        cases made
      | ok pair =>
        simp only [serviceStep, membershipStep, result] at holds
        exact keeps_of_create placed result holds member
    | leave networkId clientId =>
      intro service member
      exact keeps_of_leave placed holds member
    | delete networkId requesterId =>
      intro deleted
      exact keeps_of_delete placed deleted holds
    | _ => exact trivial
  | _ => exact trivial

end NetworkManager

/-! ### Every run -/

theorem placed_emptyManager (bannedNetworks : Finset String) :
    (emptyManager bannedNetworks).Placed := Dict.all_empty

/-- In every state that a run passes through, every service that is listed or found has a network
that exists and a provider that is a member of it, if and only if at each step a client that leaves
a network has no service there, a network that is deleted has no services, and a network is created
under an id under which the owner alone has services. -/
theorem services_belong_to_members_iff (bcrypt : Bcrypt) (lower : String → String)
    (bannedNetworks : Finset String) (ops : List ServiceOp) :
    (∀ before after manager, ops = before ++ after →
      runFrom (serviceRun bcrypt lower) (emptyManager bannedNetworks) before = some manager →
        ServicesOfMembers manager) ↔
      HoldsAlong (serviceRun bcrypt lower) (KeepsServices bcrypt) (emptyManager bannedNetworks)
        ops := by
  refine safe_iff_holdsAlong (fun manager placed => placed.servicesOfMembers)
    (fun manager op next _ keeps placed stepped => ?_)
    (fun manager op _ placed holds => NetworkManager.keeps_of_step placed (holds _ rfl))
    (holdsAlong_true ops _) (placed_emptyManager bannedNetworks)
  obtain rfl := Option.some.inj stepped
  exact NetworkManager.placed_step placed keeps

/-- A client creates a network, exposes a service on it, and leaves. -/
def providerLeaves : List ServiceOp :=
  [.membership (.create "home" "secret" "alice" "mesh" (some "n") "" [] 0),
    .exposeService "n" "alice" "web" .tcp "127.0.0.1" 80 "s" 1,
    .membership (.leave "n" "alice")]

/-- The service is still listed, and its provider is no member. -/
theorem service_outlives_membership :
    runFrom (serviceRun plainBcrypt id) (emptyManager ∅) providerLeaves =
        some (providerLeaves.foldl (serviceStep plainBcrypt id) (emptyManager ∅)) ∧
      ((providerLeaves.foldl (serviceStep plainBcrypt id) (emptyManager ∅)).listServices "n").map
        ServiceRecord.providerId = ["alice"] ∧
      ¬ ServicesOfMembers (providerLeaves.foldl (serviceStep plainBcrypt id) (emptyManager ∅)) := by
  have found : ((providerLeaves.foldl (serviceStep plainBcrypt id) (emptyManager ∅)).getService
      "s").any (fun service => decide (service.networkId = "n")) = true := by decide +kernel
  have empty : (providerLeaves.foldl (serviceStep plainBcrypt id) (emptyManager ∅)).members "n" =
      ∅ := by decide +kernel
  refine ⟨rfl, by decide +kernel, fun holds => ?_⟩
  obtain ⟨service, stored, named⟩ := (Option.any_eq_true _ _).mp found
  have member := NetworkManager.mem_members.mpr (holds service (.inr ⟨"s", stored⟩))
  rw [of_decide_eq_true named, empty] at member
  exact Finset.notMem_empty _ member

end LocalNetwork
