/-
This file says what the command handlers can do, before their first send. `CommandCase` has
a case for each way in which a command ends, with the checks it passed and the state and
the sends it leaves, and `command_cases` sorts every command into these cases.

From the cases follows what all commands keep to: the registry changes in the record of the
client whose command it is and nowhere else, and what is left to do are replies to that
client and pushes to others.
-/

import LocalNetwork.Server

namespace LocalNetwork

/-! ### What a command can do -/

/-- Everything a command can do. -/
inductive CommandCase (packages : Packages) (server : Server) (clientId : String)
    (message : Message) (choice : Choice) : Handled → Prop
  | refused (code text : String) :
    CommandCase packages server clientId message choice (server.answerError code text)
  | raised (failure : DispatchFailure) :
    CommandCase packages server clientId message choice (server.raise failure)
  | heartbeat (typed : message.type = "HEARTBEAT") :
    CommandCase packages server clientId message choice
      (server.onHeartbeat clientId message choice)
  | created (name password topology : String) (passwordHash : Bytes) (kind : Topology)
    (inviteCodes networkInviteCodes : Dict String String) (inviteCode : String)
    (typed : message.type = "CREATE_NETWORK")
    (valid : validateCreateNetwork packages.text message.payload = .ok (name, password, topology))
    (hashed : packages.bcrypt.hashpw password choice.salt = .ok passwordHash) :
    CommandCase packages server clientId message choice
      (server.changeNetworks
        { server.networks with
          networks := server.networks.networks.insert choice.uuid
            (NetworkManager.newNetwork choice.uuid name passwordHash clientId kind choice.now)
          registry := server.registry.addNetwork clientId choice.uuid
          inviteCodes := inviteCodes
          networkInviteCodes := networkInviteCodes }
        [.reply (.networkCreated choice.uuid name clientId kind inviteCode),
          .push (.announcePeerOnline clientId)])
  | joined (networkId networkIdOrCode password : String) (record : NetworkRecord)
    (typed : message.type = "JOIN_NETWORK")
    (valid : validateJoinNetwork packages.text message.payload = .ok (networkIdOrCode, password))
    (named : networkIdOrCode = networkId ∨
      server.networks.inviteCodes.get? networkIdOrCode = some networkId)
    (found : server.networks.get networkId = some record)
    (allowed : server.networks.isBanned networkId = false)
    (accepted : NetworkManager.passwordOk packages.bcrypt password record.passwordHash = true) :
    CommandCase packages server clientId message choice
      (server.joined clientId (server.networks.addMember networkId clientId) record)
  | left (networkId : String) (record : NetworkRecord) (typed : message.type = "LEAVE_NETWORK")
    (valid : validateNetworkId packages.text message.payload = .ok networkId)
    (found : server.networks.get networkId = some record) (member : clientId ∈ record.members) :
    CommandCase packages server clientId message choice
      (server.changeNetworks
        { server.networks with
          networks := server.networks.networks.modify networkId
            (NetworkManager.withoutMember clientId)
          registry := server.registry.removeNetwork clientId networkId }
        [.reply (.networkLeft networkId), .push (.announcePeerOffline clientId networkId)])
  | listed (typed : message.type = "LIST_NETWORKS") :
    CommandCase packages server clientId message choice (server.onListNetworks clientId)
  | located (peerId networkId : String) (endpoints : List Addr)
    (typed : message.type = "REQUEST_PEER_CONN")
    (valid : validatePeerId packages.text message.payload = .ok peerId)
    (shared : server.networks.sharedEndpointsFor networkId clientId peerId = some endpoints) :
    CommandCase packages server clientId message choice
      (server.answer [.reply (.peerEndpoints peerId endpoints)])
  | exposed (networkId name : String) (protocol : Transport) (localHost : String)
    (localPort : Nat) (first : NetworkRecord) (rest : List NetworkRecord) (record : NetworkRecord)
    (typed : message.type = "EXPOSE_SERVICE")
    (valid : validateExposeService packages.text message.payload =
      .ok (name, protocol, localHost, localPort))
    (listed : server.networks.listForClient clientId = first :: rest)
    (chosen : getOr message.payload "network_id" (.str first.networkId) = .str networkId)
    (found : server.networks.get networkId = some record) (member : clientId ∈ record.members) :
    CommandCase packages server clientId message choice
      ⟨{ server.networks with
          services := server.networks.services.insert networkId
            (((server.networks.services.get? networkId).getD Dict.empty).insert choice.uuid
              ⟨choice.uuid, networkId, clientId, name, protocol, localHost, localPort,
                choice.now⟩) },
        server.relay, .error (.internal "'str' object has no attribute 'service_id'")⟩
  | unexposed (serviceId networkId : String) (serviceMap : Dict String ServiceRecord)
    (typed : message.type = "UNEXPOSE_SERVICE")
    (valid : validateServiceId packages.text message.payload = .ok serviceId)
    (found : server.networks.services.entries.find?
      (fun entry => NetworkManager.providedBy serviceId clientId entry.2) =
        some (networkId, serviceMap)) :
    CommandCase packages server clientId message choice
      (server.changeNetworks
        { server.networks with
          services := server.networks.services.insert networkId (serviceMap.erase serviceId) }
        [.push (.broadcastService networkId (.serviceRemoved serviceId))])
  | granted (peerId : String) (src dst : ClientRecord) (typed : message.type = "RELAY_REQUEST")
    (valid : validatePeerId packages.text message.payload = .ok peerId)
    (srcStored : server.registry.get clientId = some src)
    (dstStored : server.registry.get peerId = some dst)
    (online : (src.online && dst.online) = true)
    (shared : ((server.networks.listForClient clientId).any fun network =>
      decide (peerId ∈ server.networks.members network.networkId)) = true) :
    CommandCase packages server clientId message choice
      ⟨server.networks, (server.relay.registerRelayPath clientId peerId).2,
        .ok [.reply (.relayGranted peerId (clientId ++ "->" ++ peerId)),
          .push (.sendTo peerId (.relayGranted clientId (peerId ++ "->" ++ clientId)))]⟩

/-! ### Every command is one of these -/

namespace Server

variable {packages : Packages} {server : Server} {clientId : String} {message : Message}
  {choice : Choice}

theorem onCreateNetwork_cases (typed : message.type = "CREATE_NETWORK") :
    CommandCase packages server clientId message choice
      (server.onCreateNetwork packages clientId message choice) := by
  unfold onCreateNetwork
  split
  · exact .raised _
  · rename_i name password topology valid
    split
    · exact .raised _
    · rename_i created record made
      obtain ⟨passwordHash, kind, hashed, rfl, rfl⟩ := NetworkManager.create_ok made
      split
      · rename_i exception failed
        exact absurd failed (NetworkManager.generateInviteCode_found (Dict.get?_insert_self _ _ _))
      · rename_i coded inviteCode generated
        obtain ⟨inviteCodes, networkInviteCodes, rfl⟩ :=
          NetworkManager.generateInviteCode_ok generated
        exact .created name password topology passwordHash kind inviteCodes networkInviteCodes
          inviteCode typed valid hashed

theorem onJoinNetwork_cases (typed : message.type = "JOIN_NETWORK") :
    CommandCase packages server clientId message choice
      (server.onJoinNetwork packages clientId message) := by
  unfold onJoinNetwork
  split
  · exact .raised _
  · rename_i networkIdOrCode password valid
    split
    · exact .refused _ _
    · split
      · rename_i record found
        split
        · exact .refused _ _
        · rename_i networks joined
          obtain ⟨same, stored, allowed, accepted, rfl⟩ := NetworkManager.join_accepted joined
          obtain rfl := Option.some.inj (stored.symm.trans found)
          exact .joined networkIdOrCode networkIdOrCode password same typed valid (.inl rfl) found
            allowed accepted
      · split
        · exact .refused _ _
        · rename_i returned networks joined
          obtain ⟨networkId, record, mapped, found, allowed, accepted, sameId, sameName, rfl⟩ :=
            NetworkManager.joinByInviteCode_accepted joined
          have answered : CommandCase packages server clientId message choice
              (server.joined clientId (server.networks.addMember networkId clientId) record) :=
            .joined networkId networkIdOrCode password record typed valid (.inr mapped) found
              allowed accepted
          rw [Server.joined, ← sameId, ← sameName] at answered
          exact answered

theorem onLeaveNetwork_cases (typed : message.type = "LEAVE_NETWORK") :
    CommandCase packages server clientId message choice
      (server.onLeaveNetwork packages clientId message) := by
  unfold onLeaveNetwork
  split
  · exact .raised _
  · rename_i networkId valid
    split
    · rename_i networks left
      obtain ⟨record, found, member, rfl⟩ := NetworkManager.leave_accepted left
      exact .left networkId record typed valid found member
    · exact .refused _ _

theorem onRequestPeerConn_cases {handled : Handled} (typed : message.type = "REQUEST_PEER_CONN")
    (ran : server.onRequestPeerConn packages clientId message choice = some handled) :
    CommandCase packages server clientId message choice handled := by
  unfold onRequestPeerConn at ran
  split at ran
  · exact Option.some.inj ran ▸ .raised _
  · rename_i peerId valid
    split at ran
    · split at ran
      · exact Option.some.inj ran ▸ .refused _ _
      · rename_i networkId _
        split at ran
        · exact Option.some.inj ran ▸ .refused _ _
        · exact Option.some.inj ran ▸ .refused _ _
        · rename_i endpoints _ shared
          exact Option.some.inj ran ▸ .located peerId networkId endpoints typed valid shared
    · cases ran

theorem onExposeService_cases (typed : message.type = "EXPOSE_SERVICE") :
    CommandCase packages server clientId message choice
      (server.onExposeService packages clientId message choice) := by
  unfold onExposeService
  split
  · exact .raised _
  · rename_i service valid
    obtain ⟨name, protocol, localHost, localPort⟩ := service
    split
    · exact .refused _ _
    · rename_i first rest listed
      split
      · rename_i networkId chosen
        simp only [exposeOn]
        split
        · exact .raised _
        · rename_i exposed serviceId made
          obtain ⟨record, found, member, -, rfl⟩ := NetworkManager.exposeService_ok made
          exact .exposed networkId name protocol localHost localPort first rest record typed valid
            listed chosen found member
      · exact .raised _
      · exact .raised _
      · exact .raised _

theorem onUnexposeService_cases (typed : message.type = "UNEXPOSE_SERVICE") :
    CommandCase packages server clientId message choice
      (server.onUnexposeService packages clientId message) := by
  unfold onUnexposeService
  split
  · exact .raised _
  · rename_i serviceId valid
    unfold NetworkManager.unexposeServiceOwner
    split
    · exact .refused _ _
    · rename_i networkId networks removed
      split at removed
      · cases removed
      · rename_i otherId serviceMap found
        obtain ⟨same, rfl⟩ := Prod.mk.inj removed
        obtain rfl := Option.some.inj same
        exact .unexposed serviceId otherId serviceMap typed valid found

theorem onRelayRequest_cases (typed : message.type = "RELAY_REQUEST") :
    CommandCase packages server clientId message choice
      (server.onRelayRequest packages clientId message) := by
  unfold onRelayRequest
  split
  · exact .raised _
  · rename_i peerId valid
    unfold handleRelayRequest
    split
    · rename_i src dst srcStored dstStored
      split
      · exact .refused _ _
      · rename_i online
        split
        · exact .refused _ _
        · rename_i shared
          simp only [Bool.not_eq_true, Bool.not_eq_false'] at online shared
          exact .granted peerId src dst typed valid srcStored dstStored online shared
    · exact .refused _ _

/-- Every command is one of the cases. -/
theorem command_cases {handled : Handled}
    (ran : server.handleCommand packages clientId message choice = some handled) :
    CommandCase packages server clientId message choice handled := by
  unfold handleCommand at ran
  split at ran
  · exact Option.some.inj ran ▸ .heartbeat ‹_›
  · exact Option.some.inj ran ▸ onCreateNetwork_cases ‹_›
  · exact Option.some.inj ran ▸ onJoinNetwork_cases ‹_›
  · exact Option.some.inj ran ▸ onLeaveNetwork_cases ‹_›
  · exact Option.some.inj ran ▸ .listed ‹_›
  · exact onRequestPeerConn_cases ‹_› ran
  · exact Option.some.inj ran ▸ onExposeService_cases ‹_›
  · exact Option.some.inj ran ▸ onUnexposeService_cases ‹_›
  · exact Option.some.inj ran ▸ onRelayRequest_cases ‹_›
  · exact Option.some.inj ran ▸ .refused _ _

end Server

/-! ### What every command keeps to -/

/-- What a command of a client can do to the registry. -/
inductive RegistryChange (registry : ClientRegistry) (clientId : String) : ClientRegistry → Prop
  | unchanged : RegistryChange registry clientId registry
  | heartbeat (now : Time) :
    RegistryChange registry clientId (registry.heartbeat clientId now).2
  | addNetwork (networkId : String) :
    RegistryChange registry clientId (registry.addNetwork clientId networkId)
  | removeNetwork (networkId : String) :
    RegistryChange registry clientId (registry.removeNetwork clientId networkId)

/-- A command changes no record but that of its own client. -/
theorem RegistryChange.get_of_ne {registry changed : ClientRegistry} {clientId other : String}
    (change : RegistryChange registry clientId changed) (different : other ≠ clientId) :
    changed.get other = registry.get other := by
  cases change with
  | unchanged => rfl
  | heartbeat now => rw [ClientRegistry.get_heartbeat, if_neg different]
  | addNetwork networkId => rw [ClientRegistry.get_addNetwork, if_neg different]
  | removeNetwork networkId => rw [ClientRegistry.get_removeNetwork, if_neg different]

/-- A reply or a push. -/
def Instr.Sends : Instr → Prop
  | .reply _ | .push _ => True
  | _ => False

/-- What every command handler keeps to. -/
structure CommandSpec (server : Server) (clientId : String) (handled : Handled) : Prop where
  registry : RegistryChange server.registry clientId handled.networks.registry
  sends : ∀ instrs, handled.result = .ok instrs → ∀ instr ∈ instrs, instr.Sends

namespace Server

variable {packages : Packages} {server : Server} {clientId : String} {message : Message}
  {choice : Choice}

/-- Every command keeps to the specification. -/
theorem spec_handleCommand {handled : Handled}
    (ran : server.handleCommand packages clientId message choice = some handled) :
    CommandSpec server clientId handled := by
  have sent (instrs : List Instr) (sends : ∀ instr ∈ instrs, instr.Sends) :
      ∀ others, (Except.ok instrs : Except DispatchFailure (List Instr)) = .ok others →
        ∀ instr ∈ others, instr.Sends := by
    intro others same
    exact Except.ok.inj same ▸ sends
  cases command_cases ran with
  | refused code text => exact ⟨.unchanged, sent _ (by simp [Instr.Sends])⟩
  | raised failure => exact ⟨.unchanged, fun _ same => by cases same⟩
  | heartbeat typed => exact ⟨.heartbeat choice.now, sent _ (by simp [Instr.Sends])⟩
  | created name password topology passwordHash kind inviteCodes networkInviteCodes inviteCode typed
      valid hashed =>
    exact ⟨.addNetwork choice.uuid, sent _ (by simp [Instr.Sends])⟩
  | joined networkId networkIdOrCode password record typed valid named found allowed accepted =>
    exact ⟨.addNetwork networkId, sent _ (by simp [Instr.Sends])⟩
  | left networkId record typed valid found member =>
    exact ⟨.removeNetwork networkId, sent _ (by simp [Instr.Sends])⟩
  | listed typed => exact ⟨.unchanged, sent _ (by simp [Instr.Sends])⟩
  | located peerId networkId endpoints typed valid shared =>
    exact ⟨.unchanged, sent _ (by simp [Instr.Sends])⟩
  | exposed networkId name protocol localHost localPort first rest record typed valid listed chosen
      found member => exact ⟨.unchanged, fun _ same => by cases same⟩
  | unexposed serviceId networkId serviceMap typed valid found =>
    exact ⟨.unchanged, sent _ (by simp [Instr.Sends])⟩
  | granted peerId src dst typed valid srcStored dstStored online shared =>
    exact ⟨.unchanged, sent _ (by simp [Instr.Sends])⟩

end Server

end LocalNetwork
