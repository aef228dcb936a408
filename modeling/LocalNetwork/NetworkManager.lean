/-
This file models `server/network_manager.py`: networks with their members, hub and
gateway, the services exposed on them, and their invite codes. The manager holds the
client registry it was built with and keeps the networks of a client in its registry
record as well as in the member sets.

Password hashing is a parameter: `hashpw` may refuse a password, and `checkpw` answers
or raises. Random draws and clock readings are arguments.
-/

import LocalNetwork.Registry

namespace LocalNetwork

/-- The exception the manager raises, with its text. -/
structure ValueError where
  text : String
  deriving DecidableEq, Repr

inductive Topology where
  | mesh
  | hubAndSpoke
  | gateway
  deriving DecidableEq, Repr

/-- The supported topologies, by their names on the wire. -/
def Topology.ofString? : String → Option Topology
  | "mesh" => some .mesh
  | "hub_and_spoke" => some .hubAndSpoke
  | "gateway" => some .gateway
  | _ => none

def Topology.toString : Topology → String
  | .mesh => "mesh"
  | .hubAndSpoke => "hub_and_spoke"
  | .gateway => "gateway"

inductive Transport where
  | tcp
  | udp
  deriving DecidableEq, Repr

def Transport.toString : Transport → String
  | .tcp => "tcp"
  | .udp => "udp"

/-- One virtual network. -/
structure NetworkRecord where
  networkId : String
  name : String
  passwordHash : Bytes
  ownerId : String
  topology : Topology
  members : Finset String
  hubId : Option String
  gatewayId : Option String
  createdAt : Time

/-- One service exposed on a network. -/
structure ServiceRecord where
  serviceId : String
  networkId : String
  providerId : String
  name : String
  protocol : Transport
  localHost : String
  localPort : Nat
  createdAt : Time
  deriving DecidableEq

/-- The password hash: hashing with a salt, and checking, which raises on a malformed hash. -/
structure Bcrypt where
  hashpw : (password : String) → (salt : Bytes) → Except ValueError Bytes
  checkpw : (password : String) → (hash : Bytes) → Option Bool

structure NetworkManager where
  registry : ClientRegistry
  networks : Dict String NetworkRecord
  bannedNetworks : Finset String
  services : Dict String (Dict String ServiceRecord)
  inviteCodes : Dict String String
  networkInviteCodes : Dict String String

namespace NetworkManager

def init (registry : ClientRegistry) : NetworkManager where
  registry := registry
  networks := Dict.empty
  bannedNetworks := ∅
  services := Dict.empty
  inviteCodes := Dict.empty
  networkInviteCodes := Dict.empty

variable (bcrypt : Bcrypt)

/-! ### Creation and lookup -/

/-- The record of a new network: the owner is its first member, and its hub or gateway where
the topology has one. -/
def newNetwork (networkId name : String) (passwordHash : Bytes) (ownerId : String)
    (topology : Topology) (now : Time) : NetworkRecord where
  networkId := networkId
  name := name
  passwordHash := passwordHash
  ownerId := ownerId
  topology := topology
  members := {ownerId}
  hubId := if topology = .hubAndSpoke then some ownerId else none
  gatewayId := if topology = .gateway then some ownerId else none
  createdAt := now

/-- The id a new network gets: the one passed, unless it is missing or empty, else a fresh
one. -/
def chooseId (networkId : Option String) (uuid : String) : String :=
  match networkId with
  | none => uuid
  | some id => if id = "" then uuid else id

def create (manager : NetworkManager) (name password ownerId topology : String)
    (networkId : Option String) (uuid : String) (salt : Bytes) (now : Time) :
    Except ValueError (NetworkManager × NetworkRecord) :=
  match Topology.ofString? topology with
  | none => .error ⟨s!"unsupported topology: {topology}"⟩
  | some topology =>
    match bcrypt.hashpw password salt with
    | .error exception => .error exception
    | .ok passwordHash =>
      let record := newNetwork (chooseId networkId uuid) name passwordHash ownerId topology now
      .ok ({ manager with
          networks := manager.networks.insert record.networkId record
          registry := manager.registry.addNetwork ownerId record.networkId }, record)

def get (manager : NetworkManager) (networkId : String) : Option NetworkRecord :=
  manager.networks.get? networkId

def isBanned (manager : NetworkManager) (networkId : String) : Bool :=
  decide (networkId ∈ manager.bannedNetworks)

/-! ### Membership -/

/-- Whether a password is accepted for a hash; an exception counts as a refusal. -/
def passwordOk (password : String) (hash : Bytes) : Bool :=
  match bcrypt.checkpw password hash with
  | none => false
  | some accepted => accepted

/-- Add a member to a network and the network to the member's registry record. -/
def addMember (manager : NetworkManager) (networkId clientId : String) : NetworkManager :=
  { manager with
    networks := manager.networks.modify networkId fun record =>
      { record with members := insert clientId record.members }
    registry := manager.registry.addNetwork clientId networkId }

/-- Join a network by id; the result says whether the password was accepted. -/
def join (manager : NetworkManager) (networkId clientId password : String) :
    Bool × NetworkManager :=
  match manager.get networkId with
  | none => (false, manager)
  | some record =>
    if manager.isBanned networkId then (false, manager)
    else if passwordOk bcrypt password record.passwordHash then
      (true, manager.addMember networkId clientId)
    else (false, manager)

/-- A network record after a member is gone: a hub or gateway that was this member is unset. -/
def withoutMember (clientId : String) (record : NetworkRecord) : NetworkRecord :=
  { record with
    members := record.members.erase clientId
    hubId := if record.hubId = some clientId then none else record.hubId
    gatewayId := if record.gatewayId = some clientId then none else record.gatewayId }

def leave (manager : NetworkManager) (networkId clientId : String) : Bool × NetworkManager :=
  match manager.get networkId with
  | none => (false, manager)
  | some record =>
    if clientId ∉ record.members then (false, manager)
    else
      (true, { manager with
        networks := manager.networks.modify networkId (withoutMember clientId)
        registry := manager.registry.removeNetwork clientId networkId })

def isMember (manager : NetworkManager) (networkId clientId : String) : Bool :=
  match manager.get networkId with
  | none => false
  | some record => decide (clientId ∈ record.members)

def members (manager : NetworkManager) (networkId : String) : Finset String :=
  match manager.get networkId with
  | none => ∅
  | some record => record.members

/-- The networks a client is a member of, in creation order. -/
def listForClient (manager : NetworkManager) (clientId : String) : List NetworkRecord :=
  manager.networks.values.filter fun record => decide (clientId ∈ record.members)

/-! ### Deletion -/

/-- Delete a network; only its owner may. The loop over the members touches the record of one
member at a time, so its order does not matter. -/
def delete (manager : NetworkManager) (networkId requesterId : String) : Bool × NetworkManager :=
  match manager.get networkId with
  | none => (false, manager)
  | some record =>
    if record.ownerId ≠ requesterId then (false, manager)
    else
      let code := (manager.networkInviteCodes.get? networkId).getD ""
      (true, { manager with
        registry := ⟨manager.registry.clients.mapValues fun clientId client =>
          if clientId ∈ record.members then
            { client with networks := client.networks.erase networkId }
          else client⟩
        networkInviteCodes := manager.networkInviteCodes.erase networkId
        inviteCodes := if code = "" then manager.inviteCodes else manager.inviteCodes.erase code
        networks := manager.networks.erase networkId })

/-- Every service map without the services of one provider. -/
def withoutProvider (clientId : String) (services : Dict String (Dict String ServiceRecord)) :
    Dict String (Dict String ServiceRecord) :=
  services.mapValues fun _ serviceMap =>
    serviceMap.filter fun _ service => decide (service.providerId ≠ clientId)

/-- Remove a client from every network; a network that loses its last member goes with it.
Each iteration of the source's loop touches one network and removes its id from the client's
record. -/
def purgeClient (manager : NetworkManager) (clientId : String) : List String × NetworkManager :=
  let removed := (manager.networks.entries.filter fun entry =>
    decide (clientId ∈ entry.2.members)).map Prod.fst
  let kept := manager.networks.filter fun _ record =>
    decide (clientId ∈ record.members → record.members.erase clientId ≠ ∅)
  (removed, { manager with
    networks := kept.mapValues fun _ record =>
      if clientId ∈ record.members then withoutMember clientId record else record
    registry := removed.foldl (fun registry networkId =>
      registry.removeNetwork clientId networkId) manager.registry
    services := withoutProvider clientId manager.services })

/-! ### Services -/

def exposeService (manager : NetworkManager) (networkId providerId name : String)
    (protocol : Transport) (localHost : String) (localPort : Nat) (uuid : String) (now : Time) :
    Except ValueError (NetworkManager × String) :=
  let notMember : Except ValueError (NetworkManager × String) :=
    .error ⟨"client not a member of this network"⟩
  match manager.get networkId with
  | none => notMember
  | some record =>
    if providerId ∉ record.members then notMember
    else
      let service : ServiceRecord :=
        ⟨uuid, networkId, providerId, name, protocol, localHost, localPort, now⟩
      let serviceMap := (manager.services.get? networkId).getD Dict.empty
      .ok ({ manager with
          services := manager.services.insert networkId (serviceMap.insert uuid service) }, uuid)

def unexposeService (manager : NetworkManager) (networkId serviceId : String) :
    Bool × NetworkManager :=
  match manager.services.get? networkId with
  | none => (false, manager)
  | some serviceMap =>
    if serviceMap.contains serviceId then
      (true, { manager with
        services := manager.services.insert networkId (serviceMap.erase serviceId) })
    else (false, manager)

def listServices (manager : NetworkManager) (networkId : String) : List ServiceRecord :=
  ((manager.services.get? networkId).getD Dict.empty).values

/-- The first service map, in insertion order, that has the service. -/
def getService (manager : NetworkManager) (serviceId : String) : Option ServiceRecord :=
  manager.services.values.findSome? fun serviceMap => serviceMap.get? serviceId

/-- Whether a service map has the service with this provider. -/
def providedBy (serviceId clientId : String) (serviceMap : Dict String ServiceRecord) : Bool :=
  match serviceMap.get? serviceId with
  | none => false
  | some service => decide (service.providerId = clientId)

/-- Remove a service if the client provides it; the result names its network. -/
def unexposeServiceOwner (manager : NetworkManager) (serviceId clientId : String) :
    Option String × NetworkManager :=
  match manager.services.entries.find? fun entry => providedBy serviceId clientId entry.2 with
  | none => (none, manager)
  | some (networkId, serviceMap) =>
    (some networkId, { manager with
      services := manager.services.insert networkId (serviceMap.erase serviceId) })

def purgeClientServices (manager : NetworkManager) (clientId : String) :
    List String × NetworkManager :=
  ((manager.services.values.flatMap fun serviceMap =>
      (serviceMap.entries.filter fun entry => decide (entry.2.providerId = clientId)).map
        Prod.fst),
    { manager with services := withoutProvider clientId manager.services })

/-! ### Invite codes -/

/-- The invite code of a network, generated if it has none: the first of ten draws that is not
taken, otherwise the start of the name with a random suffix. `lower` is the lower-casing of
strings. -/
def generateInviteCode (lower : String → String) (manager : NetworkManager) (networkId : String)
    (draws : Nat → String) (suffix : String) : Except ValueError (NetworkManager × String) :=
  match manager.get networkId with
  | none => .error ⟨"network not found"⟩
  | some record =>
    match manager.networkInviteCodes.get? networkId with
    | some code => .ok (manager, code)
    | none =>
      let drawn := ((List.range 10).map draws).find? fun code =>
        !manager.inviteCodes.contains code
      let code := drawn.getD
        (lower (String.ofList (record.name.toList.take 4)) ++ "-" ++ suffix)
      .ok ({ manager with
          inviteCodes := manager.inviteCodes.insert code networkId
          networkInviteCodes := manager.networkInviteCodes.insert networkId code }, code)

/-- Join by invite code; the record of the network on success. -/
def joinByInviteCode (manager : NetworkManager) (code clientId password : String) :
    Option NetworkRecord × NetworkManager :=
  match manager.inviteCodes.get? code with
  | none => (none, manager)
  | some networkId =>
    match manager.get networkId with
    | none => (none, manager)
    | some record =>
      if manager.isBanned networkId then (none, manager)
      else if passwordOk bcrypt password record.passwordHash then
        let joined := manager.addMember networkId clientId
        (joined.get networkId, joined)
      else (none, manager)

def getInviteCode (lower : String → String) (manager : NetworkManager) (networkId : String)
    (draws : Nat → String) (suffix : String) :
    Except ValueError (NetworkManager × Option String) :=
  match manager.get networkId with
  | none => .ok (manager, none)
  | some _ =>
    match manager.generateInviteCode lower networkId draws suffix with
    | .error exception => .error exception
    | .ok (manager, code) => .ok (manager, some code)

/-! ### Endpoints for hole punching -/

/-- The endpoints the server may share about a target. -/
def sharedEndpointsFor (manager : NetworkManager) (networkId requesterId targetId : String) :
    Option (List Addr) :=
  match manager.get networkId with
  | none => none
  | some record =>
    if requesterId = targetId then none
    else if requesterId ∉ record.members ∨ targetId ∉ record.members then none
    else
      match manager.registry.get targetId with
      | none => none
      | some target =>
        match target.online, target.publicEndpoint with
        | true, some endpoint =>
          -- In hub-and-spoke mode only the hub's endpoint is shared.
          if record.topology = .hubAndSpoke ∧ record.hubId ≠ some targetId then none
          else some [endpoint]
        | _, _ => none

/-! ### What the operations can do -/

variable {bcrypt} {manager : NetworkManager}

/-- Creating a network stores a record with the owner as its only member, under its id. -/
theorem create_ok {name password ownerId topology : String} {networkId : Option String}
    {uuid : String} {salt : Bytes} {now : Time} {created : NetworkManager} {record : NetworkRecord}
    (made : manager.create bcrypt name password ownerId topology networkId uuid salt now =
      .ok (created, record)) :
    ∃ passwordHash kind, bcrypt.hashpw password salt = .ok passwordHash ∧
      record = newNetwork (chooseId networkId uuid) name passwordHash ownerId kind now ∧
      created = { manager with
        networks := manager.networks.insert record.networkId record
        registry := manager.registry.addNetwork ownerId record.networkId } := by
  unfold create at made
  split at made
  · cases made
  · rename_i kind _
    split at made
    · cases made
    · rename_i passwordHash hashed
      obtain ⟨rfl, rfl⟩ := Prod.mk.inj (Except.ok.inj made)
      exact ⟨passwordHash, kind, hashed, rfl, rfl⟩

/-- A join adds a member to a network that exists and is not banned, with a password that its hash
accepts, or changes nothing. -/
theorem join_cases (networkId clientId password : String) :
    manager.join bcrypt networkId clientId password = (false, manager) ∨
    ∃ record, manager.get networkId = some record ∧ manager.isBanned networkId = false ∧
      passwordOk bcrypt password record.passwordHash = true ∧
      manager.join bcrypt networkId clientId password =
        (true, manager.addMember networkId clientId) := by
  unfold join
  split
  · exact .inl rfl
  · rename_i record stored
    split
    · exact .inl rfl
    · rename_i allowed
      split
      · rename_i matching
        exact .inr ⟨record, stored, Bool.eq_false_iff.mpr allowed, matching, rfl⟩
      · exact .inl rfl

/-- A join by invite code does so for the network of the code. -/
theorem joinByInviteCode_cases (code clientId password : String) :
    manager.joinByInviteCode bcrypt code clientId password = (none, manager) ∨
    ∃ networkId record, manager.inviteCodes.get? code = some networkId ∧
      manager.get networkId = some record ∧ manager.isBanned networkId = false ∧
      passwordOk bcrypt password record.passwordHash = true ∧
      manager.joinByInviteCode bcrypt code clientId password =
        ((manager.addMember networkId clientId).get networkId,
          manager.addMember networkId clientId) := by
  unfold joinByInviteCode
  split
  · exact .inl rfl
  · rename_i networkId mapped
    split
    · exact .inl rfl
    · rename_i record stored
      split
      · exact .inl rfl
      · rename_i allowed
        split
        · rename_i matching
          exact .inr ⟨networkId, record, mapped, stored, Bool.eq_false_iff.mpr allowed, matching,
            rfl⟩
        · exact .inl rfl

/-- Generating an invite code changes the tables of codes only. -/
theorem generateInviteCode_ok {lower : String → String} {networkId : String}
    {draws : Nat → String} {suffix code : String} {coded : NetworkManager}
    (made : manager.generateInviteCode lower networkId draws suffix = .ok (coded, code)) :
    ∃ inviteCodes networkInviteCodes,
      coded = { manager with
        inviteCodes := inviteCodes, networkInviteCodes := networkInviteCodes } := by
  unfold generateInviteCode at made
  split at made
  · cases made
  · split at made
    · obtain ⟨rfl, -⟩ := Prod.mk.inj (Except.ok.inj made)
      exact ⟨manager.inviteCodes, manager.networkInviteCodes, rfl⟩
    · obtain ⟨rfl, -⟩ := Prod.mk.inj (Except.ok.inj made)
      exact ⟨_, _, rfl⟩

/-- Leaving removes a member from a network, or changes nothing. -/
theorem leave_cases (networkId clientId : String) :
    manager.leave networkId clientId = (false, manager) ∨
    ∃ record, manager.get networkId = some record ∧ clientId ∈ record.members ∧
      manager.leave networkId clientId =
        (true, { manager with
          networks := manager.networks.modify networkId (withoutMember clientId)
          registry := manager.registry.removeNetwork clientId networkId }) := by
  unfold leave
  split
  · exact .inl rfl
  · rename_i record stored
    split
    · exact .inl rfl
    · rename_i member
      exact .inr ⟨record, stored, not_not.mp member, rfl⟩

/-- The record of a network after a member is added. -/
theorem get_addMember {networkId clientId : String} {record : NetworkRecord}
    (found : manager.get networkId = some record) :
    (manager.addMember networkId clientId).get networkId =
      some { record with members := insert clientId record.members } := by
  unfold get at found
  rw [get, addMember, Dict.get?_modify, if_pos rfl, found]
  rfl

theorem join_accepted {networkId clientId password : String} {joined : NetworkManager}
    (accepted : manager.join bcrypt networkId clientId password = (true, joined)) :
    ∃ record, manager.get networkId = some record ∧ manager.isBanned networkId = false ∧
      passwordOk bcrypt password record.passwordHash = true ∧
      joined = manager.addMember networkId clientId := by
  rcases @join_cases bcrypt manager networkId clientId password with
    refused | ⟨record, stored, allowed, matching, added⟩
  · cases refused.symm.trans accepted
  · exact ⟨record, stored, allowed, matching, (Prod.mk.inj (added.symm.trans accepted)).2.symm⟩

/-- The record that a join by invite code returns differs from the stored one in its members. -/
theorem joinByInviteCode_accepted {code clientId password : String} {returned : NetworkRecord}
    {joined : NetworkManager}
    (accepted : manager.joinByInviteCode bcrypt code clientId password = (some returned, joined)) :
    ∃ networkId record, manager.inviteCodes.get? code = some networkId ∧
      manager.get networkId = some record ∧ manager.isBanned networkId = false ∧
      passwordOk bcrypt password record.passwordHash = true ∧
      returned.networkId = record.networkId ∧ returned.name = record.name ∧
      joined = manager.addMember networkId clientId := by
  rcases @joinByInviteCode_cases bcrypt manager code clientId password with
    refused | ⟨networkId, record, mapped, stored, allowed, matching, added⟩
  · cases refused.symm.trans accepted
  · obtain ⟨same, rfl⟩ := Prod.mk.inj (added.symm.trans accepted)
    obtain rfl := Option.some.inj ((get_addMember stored).symm.trans same)
    exact ⟨networkId, record, mapped, stored, allowed, matching, rfl, rfl, rfl⟩

theorem leave_accepted {networkId clientId : String} {left : NetworkManager}
    (accepted : manager.leave networkId clientId = (true, left)) :
    ∃ record, manager.get networkId = some record ∧ clientId ∈ record.members ∧
      left = { manager with
        networks := manager.networks.modify networkId (withoutMember clientId)
        registry := manager.registry.removeNetwork clientId networkId } := by
  rcases @leave_cases manager networkId clientId with refused | ⟨record, stored, member, removed⟩
  · cases refused.symm.trans accepted
  · exact ⟨record, stored, member, (Prod.mk.inj (removed.symm.trans accepted)).2.symm⟩

theorem exposeService_ok {networkId providerId name : String} {protocol : Transport}
    {localHost : String} {localPort : Nat} {uuid serviceId : String} {now : Time}
    {exposed : NetworkManager}
    (made : manager.exposeService networkId providerId name protocol localHost localPort uuid now =
      .ok (exposed, serviceId)) :
    ∃ record, manager.get networkId = some record ∧ providerId ∈ record.members ∧
      serviceId = uuid ∧
      exposed = { manager with
        services := manager.services.insert networkId
          (((manager.services.get? networkId).getD Dict.empty).insert uuid
            ⟨uuid, networkId, providerId, name, protocol, localHost, localPort, now⟩) } := by
  simp only [exposeService] at made
  split at made
  · cases made
  · rename_i record found
    split at made
    · cases made
    · rename_i member
      obtain ⟨rfl, rfl⟩ := Prod.mk.inj (Except.ok.inj made)
      exact ⟨record, found, not_not.mp member, rfl, rfl⟩

/-- A network that exists gets an invite code. -/
theorem generateInviteCode_found {lower : String → String} {networkId : String}
    {draws : Nat → String} {suffix : String} {record : NetworkRecord} {exception : ValueError}
    (found : manager.get networkId = some record) :
    manager.generateInviteCode lower networkId draws suffix ≠ .error exception := by
  unfold generateInviteCode
  rw [found]
  simp only
  split
  · intro raised
    cases raised
  · intro raised
    cases raised

end NetworkManager

end LocalNetwork
