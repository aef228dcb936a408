/-
This file hides the endpoint of one client from the state of the server. Masking replaces
the endpoint, where there is one, by a fixed address, in the client's registry record and
in the answers with that endpoint that wait on chosen connections; everything else stays.

Masking and then taking a step leaves, up to masking, the state that the step leaves: no
handler, announcement or loop looks at an endpoint, but for the handler that answers a
REQUEST_PEER_CONN with it, and that answer is masked if it is on a chosen connection.
-/

import LocalNetwork.Handling

namespace LocalNetwork

/-! ### The registry -/

/-- A record with its endpoint hidden, and the address that was noted with it. -/
def ClientRecord.mask (record : ClientRecord) : ClientRecord :=
  { record with
    publicEndpoint := record.publicEndpoint.map fun _ => ("", 0)
    clientIp := none }

namespace ClientRegistry

variable (hidden : String) (registry : ClientRegistry)

def mask : ClientRegistry := ⟨registry.clients.modify hidden ClientRecord.mask⟩

theorem get_mask (other : String) :
    (registry.mask hidden).get other =
      (registry.get other).map fun record => if other = hidden then record.mask else record :=
  Dict.get?_mapValues _ _ _

theorem mask_mask : (registry.mask hidden).mask hidden = registry.mask hidden := by
  have twice (record : ClientRecord) : record.mask.mask = record.mask := by
    simp [ClientRecord.mask, Function.comp_def]
  rw [mask, mask, Dict.modify, Dict.modify, Dict.mapValues_mapValues]
  refine congrArg ClientRegistry.mk (Dict.mapValues_congr _ fun other record _ => ?_)
  by_cases same : other = hidden
  · simp [same, twice]
  · simp [same]

/-- An update of a record that does not look at the endpoint and leaves it commutes with masking. -/
theorem mask_modify (clientId : String) {update : ClientRecord → ClientRecord}
    (commute : ∀ record, update record.mask = (update record).mask) :
    (⟨registry.clients.modify clientId update⟩ : ClientRegistry).mask hidden =
      ⟨(registry.mask hidden).clients.modify clientId update⟩ :=
  congrArg ClientRegistry.mk
    (Dict.modify_comm registry.clients clientId hidden fun record => commute record)

theorem isBanned_mask (clientId : String) :
    (registry.mask hidden).isBanned clientId = registry.isBanned clientId := by
  rw [isBanned, isBanned, get_mask]
  cases registry.get clientId with
  | none => rfl
  | some record =>
    simp only [Option.map_some]
    split <;> rfl

theorem networksFor_mask (clientId : String) :
    (registry.mask hidden).networksFor clientId = registry.networksFor clientId := by
  rw [networksFor, networksFor, get_mask]
  cases registry.get clientId with
  | none => rfl
  | some record =>
    simp only [Option.map_some]
    split <;> rfl

theorem contains_mask (clientId : String) :
    (registry.mask hidden).clients.contains clientId = registry.clients.contains clientId := by
  rw [Dict.contains, Dict.contains, mask, Dict.modify, Dict.get?_mapValues, Option.isSome_map]

/-- Masking keeps the members of networks, and their order. -/
theorem membersInNetworks_mask (networkIds : Finset String) :
    ((registry.mask hidden).membersInNetworks networkIds).map ClientRecord.clientId =
      (registry.membersInNetworks networkIds).map ClientRecord.clientId := by
  simp only [membersInNetworks, mask, Dict.values, Dict.modify, Dict.mapValues, List.map_map]
  rw [List.filter_map, List.filter_map, List.map_map, List.map_map]
  have listed : (fun record : ClientRecord =>
        record.online && decide (record.networks ∩ networkIds).Nonempty) ∘
          (Prod.snd ∘ fun entry : String × ClientRecord =>
            (entry.1, if entry.1 = hidden then entry.2.mask else entry.2)) =
      (fun record : ClientRecord =>
        record.online && decide (record.networks ∩ networkIds).Nonempty) ∘ Prod.snd := by
    funext entry
    simp only [Function.comp_apply]
    split <;> rfl
  rw [listed]
  refine List.map_congr_left fun entry _ => ?_
  simp only [Function.comp_apply]
  split <;> rfl

theorem mask_register (clientId publicKeyPem : String) (now : Time) :
    (registry.register clientId publicKeyPem now).mask hidden =
      (registry.mask hidden).register clientId publicKeyPem now := by
  unfold register
  rw [contains_mask]
  split
  · exact mask_modify hidden registry clientId fun _ => rfl
  · have added : (registry.clients.insert clientId (newRecord clientId publicKeyPem now)).modify
        hidden ClientRecord.mask =
          (registry.mask hidden).clients.insert clientId (newRecord clientId publicKeyPem now) := by
      rw [Dict.modify, Dict.mapValues_insert]
      refine congrArg (Dict.insert _ clientId) ?_
      split <;> rfl
    rw [← added]
    exact mask_modify hidden ⟨registry.clients.insert clientId _⟩ clientId fun _ => rfl

theorem mask_unregister (clientId : String) :
    (registry.unregister clientId).mask hidden = (registry.mask hidden).unregister clientId :=
  mask_modify hidden registry clientId fun _ => rfl

theorem mask_setOnline (clientId : String) (now : Time) :
    (registry.setOnline clientId now).2.mask hidden =
      ((registry.mask hidden).setOnline clientId now).2 := by
  unfold setOnline
  rw [get_mask]
  cases registry.get clientId with
  | none => rfl
  | some record =>
    have banned : (if clientId = hidden then record.mask else record).banned = record.banned := by
      split <;> rfl
    simp only [Option.map_some, banned]
    split
    · rfl
    · exact mask_modify hidden registry clientId fun _ => rfl

theorem mask_heartbeat (clientId : String) (now : Time) :
    (registry.heartbeat clientId now).2.mask hidden =
      ((registry.mask hidden).heartbeat clientId now).2 :=
  mask_modify hidden registry clientId fun _ => rfl

theorem mask_addNetwork (clientId networkId : String) :
    (registry.addNetwork clientId networkId).mask hidden =
      (registry.mask hidden).addNetwork clientId networkId :=
  mask_modify hidden registry clientId fun _ => rfl

theorem mask_removeNetwork (clientId networkId : String) :
    (registry.removeNetwork clientId networkId).mask hidden =
      (registry.mask hidden).removeNetwork clientId networkId :=
  mask_modify hidden registry clientId fun _ => rfl

/-- A new endpoint of the hidden client is hidden too. -/
theorem mask_updateEndpoint (clientId : String) (addr : Addr) :
    (registry.updateEndpoint clientId addr).mask hidden =
      ((registry.mask hidden).updateEndpoint clientId addr).mask hidden := by
  simp only [updateEndpoint, mask, Dict.modify, Dict.mapValues_mapValues]
  refine congrArg ClientRegistry.mk (Dict.mapValues_congr _ fun other record _ => ?_)
  by_cases same : other = hidden
  · rw [if_pos same, if_pos same, if_pos same]
    by_cases own : other = clientId
    · rw [if_pos own, if_pos own]
      rfl
    · rw [if_neg own, if_neg own]
      simp [ClientRecord.mask, Function.comp_def]
  · rw [if_neg same, if_neg same, if_neg same]

theorem mask_pruneStale (now timeout : Time) :
    (registry.mask hidden).pruneStale now timeout =
      ((registry.pruneStale now timeout).1, (registry.pruneStale now timeout).2.mask hidden) := by
  have stale (entry : String × ClientRecord) :
      isStale now timeout (if entry.1 = hidden then entry.2.mask else entry.2) =
        isStale now timeout entry.2 := by
    split <;> rfl
  refine Prod.ext ?_ (congrArg ClientRegistry.mk ?_)
  · simp only [pruneStale, mask, Dict.modify, Dict.mapValues]
    rw [List.filter_map, List.map_map]
    have listed : (fun entry : String × ClientRecord => isStale now timeout entry.2) ∘
        (fun entry : String × ClientRecord =>
          (entry.1, if entry.1 = hidden then entry.2.mask else entry.2)) =
          fun entry => isStale now timeout entry.2 := funext stale
    rw [listed]
    rfl
  · simp only [pruneStale, mask, Dict.modify, Dict.mapValues_mapValues]
    refine Dict.mapValues_congr _ fun other record _ => ?_
    rw [stale (other, record)]
    by_cases same : other = hidden
    · simp only [same, if_true]
      split <;> rfl
    · simp only [same, if_false]

end ClientRegistry

/-! ### The network manager -/

namespace NetworkManager

def mask (hidden : String) (manager : NetworkManager) : NetworkManager :=
  { manager with registry := manager.registry.mask hidden }

variable (hidden : String) (bcrypt : Bcrypt) (manager : NetworkManager)

theorem create_mask (name password ownerId topology : String) (networkId : Option String)
    (uuid : String) (salt : Bytes) (now : Time) :
    (manager.mask hidden).create bcrypt name password ownerId topology networkId uuid salt now =
      (manager.create bcrypt name password ownerId topology networkId uuid salt now).map
        fun made => (made.1.mask hidden, made.2) := by
  unfold create
  split
  · rfl
  · split
    · rfl
    · simp only [mask, Except.map, ClientRegistry.mask_addNetwork]

theorem generateInviteCode_mask (lower : String → String) (networkId : String)
    (draws : Nat → String) (suffix : String) :
    (manager.mask hidden).generateInviteCode lower networkId draws suffix =
      (manager.generateInviteCode lower networkId draws suffix).map
        fun made => (made.1.mask hidden, made.2) := by
  have found : (manager.mask hidden).get networkId = manager.get networkId := rfl
  unfold generateInviteCode
  rw [found]
  split
  · rfl
  · have codes : (manager.mask hidden).networkInviteCodes = manager.networkInviteCodes := rfl
    rw [codes]
    split <;> rfl

theorem addMember_mask (networkId clientId : String) :
    (manager.mask hidden).addMember networkId clientId =
      (manager.addMember networkId clientId).mask hidden := by
  simp only [addMember, mask, ClientRegistry.mask_addNetwork]

theorem join_mask (networkId clientId password : String) :
    (manager.mask hidden).join bcrypt networkId clientId password =
      ((manager.join bcrypt networkId clientId password).1,
        (manager.join bcrypt networkId clientId password).2.mask hidden) := by
  have found : (manager.mask hidden).get networkId = manager.get networkId := rfl
  have banned : (manager.mask hidden).isBanned networkId = manager.isBanned networkId := rfl
  unfold join
  rw [found, banned, addMember_mask]
  split
  · rfl
  · split
    · rfl
    · split <;> rfl

theorem joinByInviteCode_mask (code clientId password : String) :
    (manager.mask hidden).joinByInviteCode bcrypt code clientId password =
      ((manager.joinByInviteCode bcrypt code clientId password).1,
        (manager.joinByInviteCode bcrypt code clientId password).2.mask hidden) := by
  have codes : (manager.mask hidden).inviteCodes = manager.inviteCodes := rfl
  unfold joinByInviteCode
  rw [codes]
  split
  · rfl
  · rename_i networkId _
    have found : (manager.mask hidden).get networkId = manager.get networkId := rfl
    have banned : (manager.mask hidden).isBanned networkId = manager.isBanned networkId := rfl
    rw [found, banned, addMember_mask]
    split
    · rfl
    · split
      · rfl
      · split <;> rfl

theorem leave_mask (networkId clientId : String) :
    (manager.mask hidden).leave networkId clientId =
      ((manager.leave networkId clientId).1,
        (manager.leave networkId clientId).2.mask hidden) := by
  have found : (manager.mask hidden).get networkId = manager.get networkId := rfl
  unfold leave
  rw [found]
  split
  · rfl
  · split
    · rfl
    · simp only [mask, ClientRegistry.mask_removeNetwork]

theorem exposeService_mask (networkId providerId name : String) (protocol : Transport)
    (localHost : String) (localPort : Nat) (uuid : String) (now : Time) :
    (manager.mask hidden).exposeService networkId providerId name protocol localHost localPort uuid
        now =
      (manager.exposeService networkId providerId name protocol localHost localPort uuid now).map
        fun made => (made.1.mask hidden, made.2) := by
  have found : (manager.mask hidden).get networkId = manager.get networkId := rfl
  simp only [exposeService]
  rw [found]
  split
  · rfl
  · split <;> rfl

theorem unexposeServiceOwner_mask (serviceId clientId : String) :
    (manager.mask hidden).unexposeServiceOwner serviceId clientId =
      ((manager.unexposeServiceOwner serviceId clientId).1,
        (manager.unexposeServiceOwner serviceId clientId).2.mask hidden) := by
  have services : (manager.mask hidden).services = manager.services := rfl
  unfold unexposeServiceOwner
  rw [services]
  split <;> rfl

/-- The endpoints about a client, hidden if it is the hidden one. -/
def maskEndpoints (hidden peerId : String) (endpoints : List Addr) : List Addr :=
  if peerId = hidden then endpoints.map fun _ => ("", 0) else endpoints

theorem sharedEndpointsFor_mask (networkId requesterId targetId : String) :
    (manager.mask hidden).sharedEndpointsFor networkId requesterId targetId =
      (manager.sharedEndpointsFor networkId requesterId targetId).map
        (maskEndpoints hidden targetId) := by
  have found : (manager.mask hidden).get networkId = manager.get networkId := rfl
  have registry : (manager.mask hidden).registry = manager.registry.mask hidden := rfl
  unfold sharedEndpointsFor
  rw [found, registry, ClientRegistry.get_mask]
  cases manager.get networkId with
  | none => rfl
  | some record =>
    simp only
    split
    · rfl
    · split
      · rfl
      · cases manager.registry.get targetId with
        | none => rfl
        | some target =>
          have online : (if targetId = hidden then target.mask else target).online =
              target.online := by
            split <;> rfl
          have endpoint : (if targetId = hidden then target.mask else target).publicEndpoint =
              target.publicEndpoint.map fun addr =>
                if targetId = hidden then ("", 0) else addr := by
            split
            · rfl
            · rw [Option.map_id']
          simp only [Option.map_some, online, endpoint]
          cases target.online with
          | false => rfl
          | true =>
            cases target.publicEndpoint with
            | none => rfl
            | some addr =>
              simp only [Option.map_some]
              split
              · rfl
              · simp only [Option.map_some, maskEndpoints]
                split <;> rfl

end NetworkManager

/-! ### The server -/

/-- A message with the endpoints of the hidden client hidden. -/
def ServerMessage.mask (hidden : String) : ServerMessage → ServerMessage
  | .peerEndpoints peerId endpoints =>
    .peerEndpoints peerId (NetworkManager.maskEndpoints hidden peerId endpoints)
  | message => message

/-- An instruction, with its reply masked if this is asked for. -/
def Instr.mask (hidden : String) (chosen : Bool) : Instr → Instr
  | .reply message => .reply (if chosen then message.mask hidden else message)
  | instr => instr

def Connection.mask (hidden : String) (chosen : Bool) (connection : Connection) : Connection :=
  { connection with todo := connection.todo.map (Instr.mask hidden chosen) }

/-- The state with the endpoint of a client hidden, and with the answers about it that wait on the
chosen connections. -/
def Server.mask (hidden : String) (chosen : ConnId → Bool) (server : Server) : Server :=
  { server with
    networks := server.networks.mask hidden
    connections := server.connections.mapValues fun id connection =>
      connection.mask hidden (chosen id) }

theorem ServerMessage.mask_mask (hidden : String) (message : ServerMessage) :
    (message.mask hidden).mask hidden = message.mask hidden := by
  cases message with
  | peerEndpoints peerId endpoints =>
    simp only [ServerMessage.mask, NetworkManager.maskEndpoints]
    split <;> simp
  | _ => rfl

theorem Instr.mask_mask (hidden : String) (chosen : Bool) (instr : Instr) :
    (instr.mask hidden chosen).mask hidden chosen = instr.mask hidden chosen := by
  cases instr with
  | reply message =>
    cases chosen with
    | false => rfl
    | true => exact congrArg Instr.reply (message.mask_mask hidden)
  | _ => rfl

namespace Server

variable (hidden : String) (chosen : ConnId → Bool) (server : Server)

theorem mask_mask : (server.mask hidden chosen).mask hidden chosen = server.mask hidden chosen := by
  have networks : (server.networks.mask hidden).mask hidden = server.networks.mask hidden := by
    simp only [NetworkManager.mask, ClientRegistry.mask_mask]
  have connections : (server.connections.mapValues fun id connection =>
      connection.mask hidden (chosen id)).mapValues (fun id connection =>
        connection.mask hidden (chosen id)) =
      server.connections.mapValues fun id connection => connection.mask hidden (chosen id) := by
    rw [Dict.mapValues_mapValues]
    refine Dict.mapValues_congr _ fun id connection _ => ?_
    simp only [Connection.mask, List.map_map]
    have twice : Instr.mask hidden (chosen id) ∘ Instr.mask hidden (chosen id) =
        Instr.mask hidden (chosen id) := funext (Instr.mask_mask hidden (chosen id))
    rw [twice]
  simp only [mask, networks, connections]

theorem connection_mask (id : ConnId) :
    (server.mask hidden chosen).connections.get? id =
      (server.connections.get? id).map (Connection.mask hidden (chosen id)) :=
  Dict.get?_mapValues _ _ _

theorem mask_setConnection (id : ConnId) (connection : Connection) :
    (server.setConnection id connection).mask hidden chosen =
      (server.mask hidden chosen).setConnection id (connection.mask hidden (chosen id)) := by
  simp only [mask, setConnection, Dict.mapValues_insert]

/-- A change of one connection that commutes with the mask. -/
theorem mask_modifyConnection (id : ConnId) {update masked : Connection → Connection}
    (commutes : ∀ connection : Connection, (update connection).mask hidden (chosen id) =
      masked (connection.mask hidden (chosen id))) :
    ({ server with connections := server.connections.modify id update } : Server).mask
        hidden chosen =
      { server.mask hidden chosen with
        connections := (server.mask hidden chosen).connections.modify id masked } := by
  simp only [mask, Dict.modify, Dict.mapValues_mapValues]
  refine congrArg (fun connections : Dict ConnId Connection => { server with
    networks := server.networks.mask hidden, connections := connections }) ?_
  refine Dict.mapValues_congr _ fun other connection _ => ?_
  by_cases same : other = id
  · rw [if_pos same, if_pos same, same, commutes]
  · rw [if_neg same, if_neg same]

theorem mask_withTodo (id : ConnId) (todo : List Instr) :
    (server.withTodo id todo).mask hidden chosen =
      (server.mask hidden chosen).withTodo id (todo.map (Instr.mask hidden (chosen id))) :=
  mask_modifyConnection hidden chosen server id fun _ => rfl

theorem mask_closeWriter (id : ConnId) :
    (server.closeWriter id).mask hidden chosen = (server.mask hidden chosen).closeWriter id :=
  mask_modifyConnection hidden chosen server id fun _ => rfl

theorem mask_handleDisconnect (clientId : String) :
    (server.handleDisconnect clientId).mask hidden chosen =
      (server.mask hidden chosen).handleDisconnect clientId := by
  have registry := ClientRegistry.mask_unregister hidden server.networks.registry clientId
  simp only [mask, handleDisconnect, NetworkManager.mask, Server.registry, registry]

/-! ### Sends and announcements -/

theorem networksFor_mask (clientId : String) :
    (server.mask hidden chosen).registry.networksFor clientId =
      server.registry.networksFor clientId :=
  ClientRegistry.networksFor_mask hidden server.registry clientId

/-- No push looks at an endpoint. -/
theorem takePush_mask (choice : Choice) (push : Push) :
    (server.mask hidden chosen).takePush choice push = server.takePush choice push := by
  have members (networkId : String) :
      ((server.mask hidden chosen).registry.membersInNetworks {networkId}).map
          ClientRecord.clientId =
        (server.registry.membersInNetworks {networkId}).map ClientRecord.clientId :=
    ClientRegistry.membersInNetworks_mask hidden server.registry {networkId}
  have others (clientId networkId : String) :
      (server.mask hidden chosen).otherMembers clientId networkId =
        server.otherMembers clientId networkId := by
    rw [otherMembers, otherMembers, members]
  cases push with
  | sendTo clientId message => rfl
  | announcePeerOnline clientId =>
    simp only [takePush]
    rw [networksFor_mask]
  | announcePeerOnlineIn clientId networkId =>
    simp only [takePush, others]
  | announcePeerOffline clientId networkId =>
    simp only [takePush, others]
  | broadcastService networkId message =>
    have targets (registry : ClientRegistry) :
        ((registry.membersInNetworks {networkId}).map fun member =>
          Push.sendTo member.clientId message) =
          ((registry.membersInNetworks {networkId}).map ClientRecord.clientId).map fun member =>
            Push.sendTo member message := by
      rw [List.map_map]
      rfl
    simp only [takePush]
    rw [targets, targets, members]

theorem leaveLoop_mask (id : ConnId) (connection : Connection) (choice : Choice) :
    (server.mask hidden chosen).leaveLoop id (connection.mask hidden (chosen id)) choice =
      (server.leaveLoop id connection choice).map (mask hidden chosen) := by
  have clientId : (connection.mask hidden (chosen id)).clientId = connection.clientId := rfl
  have authenticated : (connection.mask hidden (chosen id)).authenticated =
    connection.authenticated := rfl
  unfold leaveLoop
  rw [clientId, authenticated]
  split
  · rename_i registered _
    rw [networksFor_mask]
    split
    · rw [Option.map_some, mask_setConnection, mask_handleDisconnect]
      simp [Connection.mask, Instr.mask, Function.comp_def]
    · rfl
  · rw [Option.map_some, mask_setConnection]
    rfl

theorem afterDispatch_map (on : Bool) (todo : List Instr) :
    afterDispatch (todo.map (Instr.mask hidden on)) =
      (afterDispatch todo).map (List.map (Instr.mask hidden on)) := by
  induction todo with
  | nil => rfl
  | cons instr rest inductionHypothesis =>
    cases instr with
    | endDispatch => rfl
    | _ => exact inductionHypothesis

theorem unwind_mask (id : ConnId) (connection : Connection) (rest : List Instr) (text : String)
    (choice : Choice) :
    (server.mask hidden chosen).unwind id (connection.mask hidden (chosen id))
        (rest.map (Instr.mask hidden (chosen id))) text choice =
      (server.unwind id connection rest text choice).map (mask hidden chosen) := by
  have phase : (connection.mask hidden (chosen id)).phase = connection.phase := rfl
  unfold unwind
  rw [phase, afterDispatch_map]
  split
  · cases afterDispatch rest with
    | none => exact leaveLoop_mask hidden chosen server id connection choice
    | some after =>
      simp only [Option.map_some, mask_setConnection]
      cases on : chosen id <;> rfl
  · rw [Option.map_some, mask_setConnection]
    rfl

theorem afterSend_mask (id : ConnId) (connection : Connection) (rest : List Instr)
    (choice : Choice) {result masked : PushResult} (same : masked.next = result.next) :
    (server.mask hidden chosen).afterSend id (connection.mask hidden (chosen id))
        (rest.map (Instr.mask hidden (chosen id))) choice masked =
      (server.afterSend id connection rest choice result).map (mask hidden chosen) := by
  unfold afterSend
  rw [same]
  split
  · rw [Option.map_some, mask_setConnection]
    simp [Connection.mask, Instr.mask, Function.comp_def]
  · exact unwind_mask hidden chosen server id connection rest _ choice

theorem takeInstr_mask (id : ConnId) (connection : Connection) (instr : Instr)
    (rest : List Instr) (choice : Choice) :
    (server.mask hidden chosen).takeInstr id (connection.mask hidden (chosen id))
        (instr.mask hidden (chosen id)) (rest.map (Instr.mask hidden (chosen id))) choice =
      (server.takeInstr id connection instr rest choice).map (mask hidden chosen) := by
  cases instr with
  | reply message =>
    refine afterSend_mask hidden chosen server id connection rest choice ?_
    cases choice.outcome <;> rfl
  | push pushed =>
    simp only [takeInstr, Instr.mask, takePush_mask]
    cases server.takePush choice pushed with
    | none => rfl
    | some result => exact afterSend_mask hidden chosen server id connection rest choice rfl
  | setClient client =>
    simp only [takeInstr, Instr.mask, Option.map_some, mask_setConnection]
    rfl
  | setAuthenticated ok =>
    simp only [takeInstr, Instr.mask, Option.map_some, mask_setConnection]
    rfl
  | endDispatch =>
    simp only [takeInstr, Instr.mask, Option.map_some, mask_setConnection]
    rfl
  | deliverRelayed client =>
    simp only [takeInstr, Instr.mask, Option.map_some, mask_setConnection]
    refine congrArg some (congrArg (setConnection _ id) ?_)
    have frames : (relayReplies client (server.relay.pendingFrames client).1).map
        (Instr.mask hidden (chosen id)) =
          relayReplies client (server.relay.pendingFrames client).1 := by
      rw [relayReplies, List.map_map]
      refine List.map_congr_left fun frame _ => ?_
      cases on : chosen id with
      | false => rfl
      | true => rfl
    simp only [Connection.mask, List.map_append, frames]
    rfl
  | closeWriter =>
    simp only [takeInstr, Instr.mask, Option.map_some, mask_setConnection]
    rfl

theorem takePruneInstr_mask (instr : PruneInstr) (rest : List PruneInstr) (choice : Choice) :
    (server.mask hidden chosen).takePruneInstr instr rest choice =
      (server.takePruneInstr instr rest choice).map (mask hidden chosen) := by
  cases instr with
  | disconnect clientId =>
    simp only [takePruneInstr]
    rw [networksFor_mask]
    split
    · rw [Option.map_some, ← mask_handleDisconnect]
      rfl
    · rfl
  | push pushed =>
    simp only [takePruneInstr, takePush_mask, Option.map_map]
    refine congrArg (fun update => Option.map update (server.takePush choice pushed)) ?_
    funext result
    simp only [Function.comp_apply]
    split <;> rfl

end Server

/-! ### Commands -/

/-- What a handler did, with the endpoint of the hidden client hidden. -/
def Handled.mask (hidden : String) (handled : Handled) : Handled where
  networks := handled.networks.mask hidden
  relay := handled.relay
  result := handled.result.map (List.map (Instr.mask hidden true))

namespace Server

variable (packages : Packages) (hidden : String) (chosen : ConnId → Bool) (server : Server)
  (clientId : String) (message : Message) (choice : Choice)

theorem onHeartbeat_mask :
    (server.mask hidden chosen).onHeartbeat clientId message choice =
      (server.onHeartbeat clientId message choice).mask hidden := by
  have registry := ClientRegistry.mask_heartbeat hidden server.registry clientId choice.now
  simp only [onHeartbeat, changeNetworks, Handled.mask, NetworkManager.mask, registry]
  rfl

theorem onCreateNetwork_mask :
    (server.mask hidden chosen).onCreateNetwork packages clientId message choice =
      (server.onCreateNetwork packages clientId message choice).mask hidden := by
  have networks : (server.mask hidden chosen).networks = server.networks.mask hidden := rfl
  unfold onCreateNetwork
  split
  · rfl
  · rename_i name password topology _
    rw [networks, NetworkManager.create_mask]
    cases server.networks.create packages.bcrypt name password clientId topology none choice.uuid
      choice.salt choice.now with
    | error exception => rfl
    | ok made =>
      obtain ⟨created, record⟩ := made
      simp only [Except.map, NetworkManager.generateInviteCode_mask]
      cases created.generateInviteCode packages.text.lower record.networkId choice.draws
        choice.suffix with
      | error exception => rfl
      | ok coded => rfl

theorem onJoinNetwork_mask :
    (server.mask hidden chosen).onJoinNetwork packages clientId message =
      (server.onJoinNetwork packages clientId message).mask hidden := by
  have networks : (server.mask hidden chosen).networks = server.networks.mask hidden := rfl
  unfold onJoinNetwork
  split
  · rfl
  · rename_i networkIdOrCode password _
    have banned : (server.networks.mask hidden).isBanned networkIdOrCode =
      server.networks.isBanned networkIdOrCode := rfl
    have found : (server.networks.mask hidden).get networkIdOrCode =
      server.networks.get networkIdOrCode := rfl
    rw [networks, banned, found, NetworkManager.join_mask, NetworkManager.joinByInviteCode_mask]
    split
    · rfl
    · cases server.networks.get networkIdOrCode with
      | some record =>
        cases server.networks.join packages.bcrypt networkIdOrCode clientId password with
        | mk accepted joined => cases accepted <;> rfl
      | none =>
        cases server.networks.joinByInviteCode packages.bcrypt networkIdOrCode clientId password with
        | mk returned joined => cases returned <;> rfl

theorem onLeaveNetwork_mask :
    (server.mask hidden chosen).onLeaveNetwork packages clientId message =
      (server.onLeaveNetwork packages clientId message).mask hidden := by
  have networks : (server.mask hidden chosen).networks = server.networks.mask hidden := rfl
  unfold onLeaveNetwork
  split
  · rfl
  · rename_i networkId _
    rw [networks, NetworkManager.leave_mask]
    cases server.networks.leave networkId clientId with
    | mk accepted left => cases accepted <;> rfl

/-- The endpoints that answer a request are the only ones a handler reads. -/
theorem onRequestPeerConn_mask :
    (server.mask hidden chosen).onRequestPeerConn packages clientId message choice =
      (server.onRequestPeerConn packages clientId message choice).map (Handled.mask hidden) := by
  have networks : (server.mask hidden chosen).networks = server.networks.mask hidden := rfl
  unfold onRequestPeerConn
  split
  · rfl
  · rename_i peerId _
    have member : (fun networkId => (server.networks.mask hidden).isMember networkId peerId) =
      fun networkId => server.networks.isMember networkId peerId := rfl
    rw [networksFor_mask, networks, member]
    split
    · split
      · rfl
      · rename_i networkId _
        rw [NetworkManager.sharedEndpointsFor_mask]
        cases server.networks.sharedEndpointsFor networkId clientId peerId with
        | none => rfl
        | some endpoints =>
          cases endpoints with
          | nil =>
            simp only [Option.map_some, NetworkManager.maskEndpoints, List.map_nil, ite_self]
            rfl
          | cons first rest =>
            simp only [Option.map_some]
            cases masked : NetworkManager.maskEndpoints hidden peerId (first :: rest) with
            | nil =>
              unfold NetworkManager.maskEndpoints at masked
              split at masked <;> cases masked
            | cons other others =>
              simp only [Handled.mask, answer, Except.map, List.map_cons, List.map_nil, Instr.mask,
                if_true, ServerMessage.mask, masked]
              rfl
    · rfl

theorem onExposeService_mask :
    (server.mask hidden chosen).onExposeService packages clientId message choice =
      (server.onExposeService packages clientId message choice).mask hidden := by
  have networks : (server.mask hidden chosen).networks = server.networks.mask hidden := rfl
  have listed : (server.networks.mask hidden).listForClient clientId =
    server.networks.listForClient clientId := rfl
  unfold onExposeService
  split
  · rfl
  · rename_i service _
    rw [networks, listed]
    split
    · rfl
    · split
      · rename_i networkId _
        simp only [exposeOn, networks, NetworkManager.exposeService_mask]
        cases server.networks.exposeService networkId clientId service.1 service.2.1 service.2.2.1
          service.2.2.2 choice.uuid choice.now with
        | error exception => rfl
        | ok made => rfl
      · rfl
      · rfl
      · rfl

theorem onUnexposeService_mask :
    (server.mask hidden chosen).onUnexposeService packages clientId message =
      (server.onUnexposeService packages clientId message).mask hidden := by
  have networks : (server.mask hidden chosen).networks = server.networks.mask hidden := rfl
  unfold onUnexposeService
  split
  · rfl
  · rename_i serviceId _
    rw [networks, NetworkManager.unexposeServiceOwner_mask]
    cases server.networks.unexposeServiceOwner serviceId clientId with
    | mk removed left => cases removed <;> rfl

theorem onRelayRequest_mask :
    (server.mask hidden chosen).onRelayRequest packages clientId message =
      (server.onRelayRequest packages clientId message).mask hidden := by
  have online (other : String) (record : ClientRecord) :
      (if other = hidden then record.mask else record).online = record.online := by
    split <;> rfl
  unfold onRelayRequest
  split
  · rfl
  · rename_i peerId _
    have src := ClientRegistry.get_mask hidden server.registry clientId
    have dst := ClientRegistry.get_mask hidden server.registry peerId
    have registry : (server.mask hidden chosen).registry = server.registry.mask hidden := rfl
    unfold handleRelayRequest
    rw [registry, src, dst]
    cases server.registry.get clientId with
    | none =>
      cases server.registry.get peerId with
      | none => rfl
      | some second => rfl
    | some first =>
      cases server.registry.get peerId with
      | none => rfl
      | some second =>
        simp only [Option.map_some, online]
        split
        · rfl
        · have shared : ((server.mask hidden chosen).networks.listForClient clientId).any
              (fun network => decide (peerId ∈
                (server.mask hidden chosen).networks.members network.networkId)) =
              (server.networks.listForClient clientId).any
                fun network => decide (peerId ∈ server.networks.members network.networkId) := rfl
          rw [shared]
          split <;> rfl

/-- Every handler does on the masked state what it does on the state, masked. -/
theorem handleCommand_mask :
    (server.mask hidden chosen).handleCommand packages clientId message choice =
      (server.handleCommand packages clientId message choice).map (Handled.mask hidden) := by
  unfold handleCommand
  split
  · exact congrArg some (onHeartbeat_mask hidden chosen server clientId message choice)
  · exact congrArg some (onCreateNetwork_mask packages hidden chosen server clientId message choice)
  · exact congrArg some (onJoinNetwork_mask packages hidden chosen server clientId message)
  · exact congrArg some (onLeaveNetwork_mask packages hidden chosen server clientId message)
  · rfl
  · exact onRequestPeerConn_mask packages hidden chosen server clientId message choice
  · exact congrArg some (onExposeService_mask packages hidden chosen server clientId message choice)
  · exact congrArg some (onUnexposeService_mask packages hidden chosen server clientId message)
  · exact congrArg some (onRelayRequest_mask packages hidden chosen server clientId message)
  · rfl

/-! ### Registration and authentication -/

theorem checkRegister_mask (payload : Dict String Json) :
    (server.mask hidden chosen).checkRegister packages payload =
      server.checkRegister packages payload := by
  have writers : (server.mask hidden chosen).writers = server.writers := rfl
  have banned (other : String) :
      (server.mask hidden chosen).registry.isBanned other = server.registry.isBanned other :=
    ClientRegistry.isBanned_mask hidden server.registry other
  unfold checkRegister
  split
  · rfl
  · rw [banned, writers]
    rfl

/-- A registration of the hidden client hides its new endpoint only once the state is masked
again. -/
theorem register_mask (id : ConnId) (peer : Addr) (publicKey : String) :
    ((server.mask hidden chosen).register id peer clientId publicKey choice).1 =
      (server.register id peer clientId publicKey choice).1 ∧
    ((server.mask hidden chosen).register id peer clientId publicKey choice).2.mask hidden chosen =
      (server.register id peer clientId publicKey choice).2.mask hidden chosen := by
  have registry : (((server.mask hidden chosen).registry.register clientId publicKey
      choice.now).updateEndpoint clientId peer |>.setOnline clientId choice.now).2.mask hidden =
        ((server.registry.register clientId publicKey choice.now).updateEndpoint clientId peer
          |>.setOnline clientId choice.now).2.mask hidden := by
    have masked : (server.mask hidden chosen).registry = server.registry.mask hidden := rfl
    rw [masked, ← ClientRegistry.mask_register, ClientRegistry.mask_setOnline,
      ClientRegistry.mask_setOnline, ← ClientRegistry.mask_updateEndpoint]
  have writers : (server.mask hidden chosen).writers = server.writers := rfl
  have built (replaced : Server) (writers : Dict String ConnId) (authenticated : Dict String Bool)
      (auth : AuthSession) :
      ({ replaced.mask hidden chosen with
          networks := { (server.mask hidden chosen).networks with
            registry := (((server.mask hidden chosen).registry.register clientId publicKey
              choice.now).updateEndpoint clientId peer |>.setOnline clientId choice.now).2 }
          writers := writers
          authenticated := authenticated
          auth := auth } : Server).mask hidden chosen =
        ({ replaced with
          networks := { server.networks with
            registry := ((server.registry.register clientId publicKey choice.now).updateEndpoint
              clientId peer |>.setOnline clientId choice.now).2 }
          writers := writers
          authenticated := authenticated
          auth := auth } : Server).mask hidden chosen := by
    have connections := congrArg Server.connections (mask_mask hidden chosen replaced)
    simp only [mask, NetworkManager.mask] at registry connections ⊢
    rw [registry, connections]
  refine ⟨rfl, ?_⟩
  simp only [register, writers]
  cases server.writers.get? clientId with
  | none => exact built server _ _ _
  | some old =>
    by_cases own : old = id
    · simp only [if_pos own]
      exact built server _ _ _
    · simp only [if_neg own, ← mask_closeWriter]
      exact built (server.closeWriter old) _ _ _

theorem verify_mask (challengeHex signatureHex : String) (now : Time) :
    server.auth.verify packages.scheme (server.registry.mask hidden) clientId challengeHex
        signatureHex now =
      server.auth.verify packages.scheme server.registry clientId challengeHex signatureHex
        now := by
  have key (record : ClientRecord) :
      (if clientId = hidden then record.mask else record).publicKeyPem = record.publicKeyPem := by
    split <;> rfl
  unfold AuthSession.verify
  rw [ClientRegistry.get_mask]
  cases server.registry.get clientId with
  | none => rfl
  | some record => simp only [Option.map_some, key]

theorem onAuth_mask :
    (server.mask hidden chosen).onAuth packages clientId message choice =
      ((server.onAuth packages clientId message choice).1.mask hidden chosen,
        (server.onAuth packages clientId message choice).2) := by
  have auth : (server.mask hidden chosen).auth = server.auth := rfl
  have registry : (server.mask hidden chosen).registry = server.registry.mask hidden := rfl
  unfold onAuth
  split
  · rfl
  · simp only [auth, registry, verify_mask]
    split <;> rfl

theorem onRegister_mask (id : ConnId) (peer : Addr) :
    ((server.mask hidden chosen).onRegister packages id peer message choice).2 =
      (server.onRegister packages id peer message choice).2 ∧
    ((server.mask hidden chosen).onRegister packages id peer message choice).1.mask hidden chosen =
      (server.onRegister packages id peer message choice).1.mask hidden chosen := by
  unfold onRegister
  rw [checkRegister_mask]
  split
  · exact ⟨rfl, mask_mask hidden chosen server⟩
  · rename_i clientId publicKey _
    obtain ⟨challenge, registered⟩ :=
      register_mask hidden chosen server clientId choice id peer publicKey
    simp only [challenge]
    exact ⟨trivial, registered⟩

end Server

end LocalNetwork
