/-
This file compares the two routes into a network. A JOIN_NETWORK names a network by its id,
and the handler asks the manager to join it; or it names an invite code, and the handler
asks the manager to look the code up and join the network that it leads to.

Both routes lead a client with the right password into the same network. They differ in
what they say when they refuse: the route by id tells a wrong password and a ban apart,
and the route by code reports either as a network that does not exist.
-/

import LocalNetwork.ServerNetworks
import LocalNetwork.Handling

namespace LocalNetwork

/-! ### What a join does -/

/-- What the answer to a join says: the network that was joined, or the code of an error. -/
inductive JoinReply where
  | joined (networkId : String)
  | error (code : String)
  deriving DecidableEq

def ServerMessage.joinReply : ServerMessage → Option JoinReply
  | .networkJoined networkId _ => some (.joined networkId)
  | .error code _ => some (.error code)
  | _ => none

/-- The answer that comes first. -/
def firstReply : List Instr → Option JoinReply
  | .reply message :: _ => message.joinReply
  | _ => none

/-- The state that the handling of a message leaves, and the answer to it. -/
def Server.joinOutcome (packages : Packages) (server : Server) (clientId : String)
    (message : Message) (choice : Choice) : Option (Server × Option JoinReply) :=
  (server.dispatch packages clientId message choice).map fun handled =>
    (handled.1, firstReply handled.2)

/-- A name other than the id of a network stands for the id: it is the id after all; or both are
banned; or neither is, and the name is no network's id, leads to the network as an invite code, and
the password is right; or the name is another network's id, and the password is wrong for both. -/
def StandsFor (bcrypt : Bcrypt) (manager : NetworkManager) (name networkId password : String)
    (record : NetworkRecord) : Prop :=
  name = networkId ∨
    (manager.isBanned name = true ∧ manager.isBanned networkId = true) ∨
    (manager.isBanned name = false ∧ manager.isBanned networkId = false ∧
      match manager.get name with
      | none => manager.inviteCodes.get? name = some networkId ∧
          NetworkManager.passwordOk bcrypt password record.passwordHash = true
      | some other => NetworkManager.passwordOk bcrypt password other.passwordHash = false ∧
          NetworkManager.passwordOk bcrypt password record.passwordHash = false)

namespace NetworkManager

variable {bcrypt : Bcrypt} {manager : NetworkManager} {name networkId clientId password : String}
  {record : NetworkRecord}

/-- What joining by a name does to the manager, and what is said of it. -/
def joinResult (bcrypt : Bcrypt) (manager : NetworkManager) (name clientId password : String) :
    NetworkManager × JoinReply :=
  if manager.isBanned name then (manager, .error "NETWORK_BANNED")
  else
    match manager.get name with
    | some record =>
      match manager.join bcrypt name clientId password with
      | (false, _) => (manager, .error "WRONG_PASSWORD")
      | (true, joined) => (joined, .joined record.networkId)
    | none =>
      match manager.joinByInviteCode bcrypt name clientId password with
      | (none, _) => (manager, .error "NETWORK_NOT_FOUND")
      | (some record, joined) => (joined, .joined record.networkId)

theorem joinResult_banned (banned : manager.isBanned name = true) :
    manager.joinResult bcrypt name clientId password = (manager, .error "NETWORK_BANNED") := by
  rw [joinResult, if_pos banned]

/-- The route by id. -/
theorem joinResult_id (found : manager.get networkId = some record)
    (allowed : manager.isBanned networkId = false) :
    manager.joinResult bcrypt networkId clientId password =
      if passwordOk bcrypt password record.passwordHash then
        (manager.addMember networkId clientId, .joined record.networkId)
      else (manager, .error "WRONG_PASSWORD") := by
  simp only [joinResult, found, allowed, join, Bool.false_eq_true, if_false]
  by_cases accepted : passwordOk bcrypt password record.passwordHash = true
  · rw [if_pos accepted, if_pos accepted]
  · rw [if_neg accepted, if_neg accepted]

/-- The route by code succeeds when the code leads to a network that is not banned, and the
password is right. -/
theorem joinResult_code (absent : manager.get name = none)
    (free : manager.isBanned name = false)
    (mapped : manager.inviteCodes.get? name = some networkId)
    (found : manager.get networkId = some record)
    (allowed : manager.isBanned networkId = false)
    (accepted : passwordOk bcrypt password record.passwordHash = true) :
    manager.joinResult bcrypt name clientId password =
      (manager.addMember networkId clientId, .joined record.networkId) := by
  simp only [joinResult, free, absent, joinByInviteCode, mapped, found, allowed, accepted,
    get_addMember found, Bool.false_eq_true, if_false, if_true]

/-- Every refusal of the route by code reads the same; what it says otherwise is the network that
the code leads to. -/
theorem joinResult_code_reply (absent : manager.get name = none)
    (free : manager.isBanned name = false) :
    (manager.joinResult bcrypt name clientId password).2 = .error "NETWORK_NOT_FOUND" ∨
      ∃ joinedId record, manager.inviteCodes.get? name = some joinedId ∧
        manager.get joinedId = some record ∧ manager.isBanned joinedId = false ∧
        passwordOk bcrypt password record.passwordHash = true ∧
        (manager.joinResult bcrypt name clientId password).2 = .joined record.networkId := by
  simp only [joinResult, free, absent, Bool.false_eq_true, if_false]
  cases joined : manager.joinByInviteCode bcrypt name clientId password with
  | mk returned next =>
    cases returned with
    | none => exact .inl rfl
    | some returned =>
      obtain ⟨joinedId, record, mapped, found, allowed, accepted, named, -, -⟩ :=
        joinByInviteCode_accepted joined
      exact .inr ⟨joinedId, record, mapped, found, allowed, accepted, congrArg _ named⟩

/-- Joining by a name that stands for an id does what joining by the id does. -/
theorem joinResult_of_standsFor (found : manager.get networkId = some record)
    (stands : StandsFor bcrypt manager name networkId password record) :
    manager.joinResult bcrypt name clientId password =
      manager.joinResult bcrypt networkId clientId password := by
  rcases stands with rfl | ⟨bannedName, banned⟩ | ⟨free, allowed, stands⟩
  · rfl
  · rw [joinResult_banned bannedName, joinResult_banned banned]
  · cases other : manager.get name with
    | none =>
      rw [other] at stands
      obtain ⟨mapped, accepted⟩ := stands
      rw [joinResult_code other free mapped found allowed accepted,
        joinResult_id found allowed, if_pos accepted]
    | some otherRecord =>
      rw [other] at stands
      rw [joinResult_id other free, joinResult_id found allowed,
        if_neg (Bool.eq_false_iff.mp stands.1), if_neg (Bool.eq_false_iff.mp stands.2)]

/-- What the route by id says of a network that exists. -/
theorem joinResult_id_reply (found : manager.get networkId = some record) :
    (manager.joinResult bcrypt networkId clientId password).2 =
      if manager.isBanned networkId then .error "NETWORK_BANNED"
      else if passwordOk bcrypt password record.passwordHash then .joined record.networkId
      else .error "WRONG_PASSWORD" := by
  cases banned : manager.isBanned networkId with
  | true => rw [joinResult_banned banned, if_pos rfl]
  | false =>
    rw [joinResult_id found banned, if_neg Bool.false_ne_true]
    split <;> rfl

/-- A name that is the id of a network, by which a join is answered as by another id. -/
theorem standsFor_of_reply_id (wellFormed : manager.networks.All WellFormed)
    {otherRecord : NetworkRecord} (other : manager.get name = some otherRecord)
    (free : manager.isBanned name = false) (found : manager.get networkId = some record)
    (same : (manager.joinResult bcrypt name clientId password).2 =
      (manager.joinResult bcrypt networkId clientId password).2) :
    StandsFor bcrypt manager name networkId password record := by
  rw [joinResult_id_reply other, joinResult_id_reply found, free,
    if_neg Bool.false_ne_true] at same
  cases refusedName : passwordOk bcrypt password otherRecord.passwordHash with
  | true =>
    rw [if_pos refusedName] at same
    split at same
    · cases same
    · split at same
      · refine .inl ?_
        rw [← (wellFormed name otherRecord other).named,
          ← (wellFormed networkId record found).named]
        exact JoinReply.joined.inj same
      · cases same
  | false =>
    rw [if_neg (Bool.eq_false_iff.mp refusedName)] at same
    split at same
    · simp at same
    · rename_i allowed
      split at same
      · cases same
      · rename_i refused
        refine .inr (.inr ⟨free, Bool.eq_false_iff.mpr allowed, ?_⟩)
        rw [other]
        exact ⟨refusedName, Bool.eq_false_iff.mpr refused⟩

/-- A name that is no network's id, by which a join is answered as by an id. -/
theorem standsFor_of_reply_code (wellFormed : manager.networks.All WellFormed)
    (absent : manager.get name = none) (free : manager.isBanned name = false)
    (found : manager.get networkId = some record)
    (same : (manager.joinResult bcrypt name clientId password).2 =
      (manager.joinResult bcrypt networkId clientId password).2) :
    StandsFor bcrypt manager name networkId password record := by
  rw [joinResult_id_reply found] at same
  rcases @joinResult_code_reply bcrypt manager name clientId password absent free with
    refused | ⟨joinedId, joinedRecord, mapped, joinedFound, -, -, joined⟩
  · -- the route by id never says that there is no such network
    rw [refused] at same
    split at same
    · simp at same
    · split at same <;> simp at same
  · rw [joined] at same
    split at same
    · cases same
    · rename_i allowed
      split at same
      · rename_i right
        have leads : joinedId = networkId := by
          rw [← (wellFormed joinedId joinedRecord joinedFound).named,
            ← (wellFormed networkId record found).named]
          exact JoinReply.joined.inj same
        refine .inr (.inr ⟨free, Bool.eq_false_iff.mpr allowed, ?_⟩)
        rw [absent]
        exact ⟨leads ▸ mapped, right⟩
      · cases same

/-- A name by which a join is answered as by the id stands for it. -/
theorem standsFor_of_reply (wellFormed : manager.networks.All WellFormed)
    (found : manager.get networkId = some record)
    (same : (manager.joinResult bcrypt name clientId password).2 =
      (manager.joinResult bcrypt networkId clientId password).2) :
    StandsFor bcrypt manager name networkId password record := by
  cases bannedName : manager.isBanned name with
  | true =>
    -- only a ban is answered with NETWORK_BANNED
    refine .inr (.inl ⟨bannedName, ?_⟩)
    by_contra free
    rw [joinResult_banned bannedName, joinResult_id_reply found, if_neg free] at same
    split at same <;> simp at same
  | false =>
    cases other : manager.get name with
    | some otherRecord => exact standsFor_of_reply_id wellFormed other bannedName found same
    | none => exact standsFor_of_reply_code wellFormed other bannedName found same

end NetworkManager

/-! ### The two routes -/

/-- The handling of a JOIN_NETWORK does to the networks, and says, what joining by the name in it
does and says. -/
theorem joinOutcome_eq {packages : Packages} {server : Server} {clientId : String}
    {message : Message} {choice : Choice} {name password : String}
    (typed : message.type = "JOIN_NETWORK")
    (valid : validateJoinNetwork packages.text message.payload = .ok (name, password)) :
    server.joinOutcome packages clientId message choice =
      some ({ server with
          networks := (server.networks.joinResult packages.bcrypt name clientId password).1 },
        some (server.networks.joinResult packages.bcrypt name clientId password).2) := by
  have handled : server.handleCommand packages clientId message choice =
      some (server.onJoinNetwork packages clientId message) := by
    simp only [Server.handleCommand, typed]
  rw [Server.joinOutcome, Server.dispatch, handled]
  simp only [Server.onJoinNetwork, valid, NetworkManager.joinResult, Option.map_some]
  by_cases banned : server.networks.isBanned name = true
  · rw [if_pos banned, if_pos banned]
    rfl
  · rw [if_neg banned, if_neg banned]
    cases server.networks.get name with
    | some record =>
      cases server.networks.join packages.bcrypt name clientId password with
      | mk accepted joined => cases accepted <;> rfl
    | none =>
      cases server.networks.joinByInviteCode packages.bcrypt name clientId password with
      | mk returned joined => cases returned <;> rfl

/-- In every state that the server reaches, a client that joins an existing network by some name, in
particular by an invite code, leaves the same state and gets the same answer as by its id, if and
only if the name stands for the id. -/
theorem join_by_code_iff (packages : Packages) (maxClients : Nat) (heartbeatTimeout ttl : Time)
    (maxAttempts : Int) (bannedNetworks : Finset String) (events : List ServerEvent)
    (server : Server)
    (ran : runFrom (Server.step packages)
      (Server.init maxClients heartbeatTimeout ttl maxAttempts bannedNetworks) events =
        some server)
    (code networkId password : String) (record : NetworkRecord)
    (found : server.networks.get networkId = some record) (byCode byId : Message)
    (typedCode : byCode.type = "JOIN_NETWORK") (typedId : byId.type = "JOIN_NETWORK")
    (validCode : validateJoinNetwork packages.text byCode.payload = .ok (code, password))
    (validId : validateJoinNetwork packages.text byId.payload = .ok (networkId, password))
    (clientId : String) (choice : Choice) :
    server.joinOutcome packages clientId byCode choice =
        server.joinOutcome packages clientId byId choice ↔
      StandsFor packages.bcrypt server.networks code networkId password record := by
  rw [joinOutcome_eq typedCode validCode, joinOutcome_eq typedId validId]
  constructor
  · intro same
    have sameReply := Option.some.inj (congrArg Prod.snd (Option.some.inj same))
    exact NetworkManager.standsFor_of_reply (networksKept_run ran).wellFormed found sameReply
  · intro stands
    rw [NetworkManager.joinResult_of_standsFor found stands]

def joinMessage (networkId password : String) : Message :=
  ⟨"JOIN_NETWORK", payloadOf [("network_id", networkId), ("password", password)]⟩

/-- With the right password the invite code of a network does what its id does. -/
theorem join_by_code_iff_twoMembers :
    ∃ record, (serverAfter twoMembers).networks.get "network" = some record ∧
      ((serverAfter twoMembers).joinOutcome plainPackages "client-0003"
          (joinMessage "code" "secret") (calm []) =
        (serverAfter twoMembers).joinOutcome plainPackages "client-0003"
          (joinMessage "network" "secret") (calm []) ↔
      StandsFor plainPackages.bcrypt (serverAfter twoMembers).networks "code" "network" "secret"
        record) := by
  have ran := runFrom_serverAfter
    (show (runFrom (Server.step plainPackages) exampleServer twoMembers).isSome = true by
      decide +kernel)
  obtain ⟨record, found⟩ := Option.isSome_iff_exists.mp
    (show ((serverAfter twoMembers).networks.get "network").isSome = true by decide +kernel)
  exact ⟨record, found, join_by_code_iff plainPackages 8 90 60 5 ∅ twoMembers _ ran "code" "network"
    "secret" record found (joinMessage "code" "secret") (joinMessage "network" "secret") rfl rfl rfl
    rfl "client-0003" (calm [])⟩

/-- With a wrong password the two routes answer with different errors. -/
theorem wrong_password_by_code :
    (serverAfter twoMembers).networks.inviteCodes.get? "code" = some "network" ∧
      ((serverAfter twoMembers).joinOutcome plainPackages "client-0003"
        (joinMessage "network" "wrong") (calm [])).bind Prod.snd =
          some (.error "WRONG_PASSWORD") ∧
      ((serverAfter twoMembers).joinOutcome plainPackages "client-0003"
        (joinMessage "code" "wrong") (calm [])).bind Prod.snd =
          some (.error "NETWORK_NOT_FOUND") := by
  refine ⟨?_, ?_, ?_⟩
  · decide +kernel
  · decide +kernel
  · decide +kernel

end LocalNetwork
