/-
This file proves when a command that is answered with an ERROR has changed nothing. A handler
checks its message before it changes anything, so an ERROR of its own is harmless; but once
it has changed the state it still has to send, and what fails in sending is answered with an
ERROR as well.

Two things fail so. An EXPOSE_SERVICE that is accepted always does, on the reply to it: the
handler reads an attribute of the service that the manager does not return. And of any other
command that changes something a message may be one that cannot be built, such as the
confirmation of a network whose name has no encoding in UTF-8.
-/

import LocalNetwork.DispatchRuns

namespace LocalNetwork

/-! ### Commands that change something -/

section Changes

variable (packages : Packages) (server : Server) (clientId : String) (message : Message)

/-- A CREATE_NETWORK that is accepted with the id and the code that are drawn for it. -/
structure CreatesWith (choice : Choice) (name : String) (kind : Topology) (inviteCode : String) :
    Prop where
  typed : message.type = "CREATE_NETWORK"
  accepted : ∃ password topology created record coded,
    validateCreateNetwork packages.text message.payload = .ok (name, password, topology) ∧
    server.networks.create packages.bcrypt name password clientId topology none choice.uuid
      choice.salt choice.now = .ok (created, record) ∧
    record.topology = kind ∧
    created.generateInviteCode packages.text.lower record.networkId choice.draws choice.suffix =
      .ok (coded, inviteCode)

/-- A JOIN_NETWORK that is accepted, by the id of the network or by an invite code, from a client
that is not yet a member or whose record does not name the network. -/
structure JoinsAnew (networkId : String) (record : NetworkRecord) : Prop where
  typed : message.type = "JOIN_NETWORK"
  accepted : ∃ name password,
    validateJoinNetwork packages.text message.payload = .ok (name, password) ∧
    server.networks.isBanned name = false ∧
    (name = networkId ∨ server.networks.get name = none ∧
      server.networks.inviteCodes.get? name = some networkId) ∧
    server.networks.isBanned networkId = false ∧
    NetworkManager.passwordOk packages.bcrypt password record.passwordHash = true
  found : server.networks.get networkId = some record
  new : clientId ∉ record.members ∨
    ∃ client, server.registry.get clientId = some client ∧ networkId ∉ client.networks

/-- A LEAVE_NETWORK of a member. -/
structure Leaves (networkId : String) (record : NetworkRecord) : Prop where
  typed : message.type = "LEAVE_NETWORK"
  valid : validateNetworkId packages.text message.payload = .ok networkId
  found : server.networks.get networkId = some record
  member : clientId ∈ record.members

/-- An UNEXPOSE_SERVICE of the provider. -/
structure Unexposes (serviceId networkId : String) (serviceMap : Dict String ServiceRecord) :
    Prop where
  typed : message.type = "UNEXPOSE_SERVICE"
  valid : validateServiceId packages.text message.payload = .ok serviceId
  found : server.networks.services.entries.find?
    (fun entry => NetworkManager.providedBy serviceId clientId entry.2) =
      some (networkId, serviceMap)

/-- A RELAY_REQUEST that is granted, of a path that is not allocated yet. -/
structure Grants (peerId : String) : Prop where
  typed : message.type = "RELAY_REQUEST"
  valid : validatePeerId packages.text message.payload = .ok peerId
  online : ∃ src dst, server.registry.get clientId = some src ∧
    server.registry.get peerId = some dst ∧ (src.online && dst.online) = true
  shared : ((server.networks.listForClient clientId).any fun network =>
    decide (peerId ∈ server.networks.members network.networkId)) = true
  new : (clientId, peerId) ∉ server.relay.paths ∨ (peerId, clientId) ∉ server.relay.paths

/-- A command other than EXPOSE_SERVICE changes something, and its handling sends this message: to
the client that sent the command, or to the others that are told. -/
inductive ChangeConveys : ServerMessage → Prop
  | heartbeat (record : ClientRecord) (typed : message.type = "HEARTBEAT")
    (registered : server.registry.get clientId = some record) :
    ChangeConveys (.heartbeatAck ((message.payload.get? "ts").getD (.float 0)))
  | created (choice : Choice) (name : String) (kind : Topology) (inviteCode : String)
    (creates : CreatesWith packages server clientId message choice name kind inviteCode) :
    ChangeConveys (.networkCreated choice.uuid name clientId kind inviteCode)
  | createdOnline (choice : Choice) (name : String) (kind : Topology) (inviteCode : String)
    (creates : CreatesWith packages server clientId message choice name kind inviteCode)
    (networkId : String)
    (member : networkId ∈ (server.registry.addNetwork clientId choice.uuid).networksFor clientId)
    (reached : Reaches server.writers (server.registry.addNetwork clientId choice.uuid) clientId
      networkId) :
    ChangeConveys (.peerOnline networkId clientId)
  | joined (networkId : String) (record : NetworkRecord)
    (joins : JoinsAnew packages server clientId message networkId record) :
    ChangeConveys (.networkJoined record.networkId record.name)
  | joinedOnline (networkId : String) (record : NetworkRecord)
    (joins : JoinsAnew packages server clientId message networkId record) (other : String)
    (member : other ∈ (server.registry.addNetwork clientId networkId).networksFor clientId)
    (reached : Reaches server.writers (server.registry.addNetwork clientId networkId) clientId
      other) :
    ChangeConveys (.peerOnline other clientId)
  | left (networkId : String) (record : NetworkRecord)
    (leaves : Leaves packages server clientId message networkId record) :
    ChangeConveys (.networkLeft networkId)
  | leftOffline (networkId : String) (record : NetworkRecord)
    (leaves : Leaves packages server clientId message networkId record)
    (reached : Reaches server.writers (server.registry.removeNetwork clientId networkId) clientId
      networkId) :
    ChangeConveys (.peerOffline networkId clientId)
  | unexposed (serviceId networkId : String) (serviceMap : Dict String ServiceRecord)
    (unexposes : Unexposes packages server clientId message serviceId networkId serviceMap)
    (record : ClientRecord) (listed : record ∈ server.registry.membersInNetworks {networkId})
    (writer : (server.writers.get? record.clientId).isSome = true) :
    ChangeConveys (.serviceRemoved serviceId)
  | granted (peerId : String) (grants : Grants packages server clientId message peerId) :
    ChangeConveys (.relayGranted peerId (clientId ++ "->" ++ peerId))
  | grantedPeer (peerId : String) (grants : Grants packages server clientId message peerId)
    (writer : (server.writers.get? peerId).isSome = true) :
    ChangeConveys (.relayGranted clientId (peerId ++ "->" ++ clientId))

/-- An EXPOSE_SERVICE that the server accepts: its fields are valid, and the network it names, or
the first of the sender's networks, exists and has the sender as a member. -/
def ExposesService : Prop :=
  message.type = "EXPOSE_SERVICE" ∧
    ∃ service first rest networkId record,
      validateExposeService packages.text message.payload = .ok service ∧
      server.networks.listForClient clientId = first :: rest ∧
      getOr message.payload "network_id" (.str first.networkId) = .str networkId ∧
      server.networks.get networkId = some record ∧ clientId ∈ record.members

/-- A handler that changes nothing, exposes a service, or leaves only these messages to be sent. -/
def ConveysChange (handled : Handled) : Prop :=
  (handled.networks = server.networks ∧ handled.relay.paths = server.relay.paths) ∨
    ExposesService packages server clientId message ∨
    ∃ instrs, handled.result = .ok instrs ∧ ∀ id, ∀ instr ∈ instrs, ∀ sent,
      (server.dispatched id clientId handled).Conveys instr sent →
        ChangeConveys packages server clientId message sent ∧ sent.isError = false

end Changes

variable {packages : Packages} {server : Server} {clientId : String} {message : Message}
  {choice : Choice}

/-- What the handler of an accepted CREATE_NETWORK leaves to be sent. -/
theorem conveysChange_created (typed : message.type = "CREATE_NETWORK") :
    ConveysChange packages server clientId message
      (server.onCreateNetwork packages clientId message choice) := by
  unfold Server.onCreateNetwork
  split
  · exact .inl ⟨rfl, rfl⟩
  · rename_i name password topology valid
    split
    · exact .inl ⟨rfl, rfl⟩
    · rename_i created record made
      obtain ⟨passwordHash, kind, hashed, sameRecord, sameCreated⟩ := NetworkManager.create_ok made
      split
      · rename_i exception failed
        rw [sameCreated, sameRecord] at failed
        exact absurd failed (NetworkManager.generateInviteCode_found (Dict.get?_insert_self _ _ _))
      · rename_i coded inviteCode generated
        obtain ⟨inviteCodes, networkInviteCodes, sameCoded⟩ :=
          NetworkManager.generateInviteCode_ok generated
        have creates : CreatesWith packages server clientId message choice name kind inviteCode :=
          ⟨typed, password, topology, created, record, coded, valid, made, by rw [sameRecord]; rfl,
            generated⟩
        subst sameCoded sameCreated sameRecord
        refine .inr (.inr ⟨_, rfl, fun id instr member sent conveys => ?_⟩)
        rcases List.mem_cons.mp member with rfl | member
        · obtain rfl := conveys
          exact ⟨.created choice name kind inviteCode creates, rfl⟩
        · obtain rfl := List.mem_singleton.mp member
          obtain ⟨networkId, visited, rfl, reached⟩ := conveys
          exact ⟨.createdOnline choice name kind inviteCode creates networkId visited reached, rfl⟩

/-- A client that is a member, and whose record says so, joins without a change. -/
theorem addMember_eq_self {manager : NetworkManager} {networkId : String} {record : NetworkRecord}
    (found : manager.get networkId = some record) (member : clientId ∈ record.members)
    (known : ∀ client, manager.registry.get clientId = some client → networkId ∈ client.networks) :
    manager.addMember networkId clientId = manager := by
  have networks : (manager.networks.modify networkId fun record =>
      { record with members := insert clientId record.members }) = manager.networks := by
    refine Dict.modify_eq_self fun stored storedThere => ?_
    obtain rfl := Option.some.inj (storedThere.symm.trans found)
    rw [Finset.insert_eq_of_mem member]
  have registry : manager.registry.addNetwork clientId networkId = manager.registry := by
    unfold ClientRegistry.addNetwork
    rw [Dict.modify_eq_self fun client stored => by
      rw [Finset.insert_eq_of_mem (known client stored)]]
  rw [NetworkManager.addMember, networks, registry]

theorem conveysChange_addMember {name password networkId : String} {record : NetworkRecord}
    (typed : message.type = "JOIN_NETWORK")
    (valid : validateJoinNetwork packages.text message.payload = .ok (name, password))
    (free : server.networks.isBanned name = false)
    (named : name = networkId ∨ server.networks.get name = none ∧
      server.networks.inviteCodes.get? name = some networkId)
    (found : server.networks.get networkId = some record)
    (allowed : server.networks.isBanned networkId = false)
    (accepted : NetworkManager.passwordOk packages.bcrypt password record.passwordHash = true) :
    ConveysChange packages server clientId message
      (server.joined clientId (server.networks.addMember networkId clientId) record) := by
  by_cases new : clientId ∉ record.members ∨
      ∃ client, server.registry.get clientId = some client ∧ networkId ∉ client.networks
  · have joins : JoinsAnew packages server clientId message networkId record :=
      ⟨typed, ⟨name, password, valid, free, named, allowed, accepted⟩, found, new⟩
    refine .inr (.inr ⟨_, rfl, fun id instr member sent conveys => ?_⟩)
    rcases List.mem_cons.mp member with rfl | member
    · obtain rfl := conveys
      exact ⟨.joined networkId record joins, rfl⟩
    · obtain rfl := List.mem_singleton.mp member
      obtain ⟨other, visited, rfl, reached⟩ := conveys
      exact ⟨.joinedOnline networkId record joins other visited reached, rfl⟩
  · obtain ⟨member, known⟩ := not_or.mp new
    refine .inl ⟨addMember_eq_self found (not_not.mp member) fun client stored => ?_, rfl⟩
    by_contra unknown
    exact known ⟨client, stored, unknown⟩

/-- What the handler of an accepted JOIN_NETWORK leaves to be sent, on either route. -/
theorem conveysChange_joined (typed : message.type = "JOIN_NETWORK") :
    ConveysChange packages server clientId message
      (server.onJoinNetwork packages clientId message) := by
  unfold Server.onJoinNetwork
  split
  · exact .inl ⟨rfl, rfl⟩
  · rename_i name password valid
    split
    · exact .inl ⟨rfl, rfl⟩
    · rename_i free
      have free := Bool.eq_false_iff.mpr free
      split
      · rename_i record found
        split
        · exact .inl ⟨rfl, rfl⟩
        · rename_i networks joined
          obtain ⟨same, stored, allowed, accepted, rfl⟩ := NetworkManager.join_accepted joined
          obtain rfl := Option.some.inj (stored.symm.trans found)
          exact conveysChange_addMember typed valid free (.inl rfl) found allowed accepted
      · rename_i absent
        split
        · exact .inl ⟨rfl, rfl⟩
        · rename_i returned networks joined
          obtain ⟨networkId, record, mapped, found, allowed, accepted, sameId, sameName, rfl⟩ :=
            NetworkManager.joinByInviteCode_accepted joined
          have conveys : ConveysChange packages server clientId message
              (server.joined clientId (server.networks.addMember networkId clientId) record) :=
            conveysChange_addMember typed valid free (.inr ⟨absent, mapped⟩) found allowed accepted
          rw [Server.joined, ← sameId, ← sameName] at conveys
          exact conveys

/-- Every command changes nothing, exposes a service, or leaves only these messages to be sent. -/
theorem conveysChange {handled : Handled}
    (ran : server.handleCommand packages clientId message choice = some handled) :
    ConveysChange packages server clientId message handled := by
  by_cases creating : message.type = "CREATE_NETWORK"
  · unfold Server.handleCommand at ran
    rw [creating] at ran
    exact Option.some.inj ran ▸ conveysChange_created creating
  by_cases joining : message.type = "JOIN_NETWORK"
  · unfold Server.handleCommand at ran
    rw [joining] at ran
    exact Option.some.inj ran ▸ conveysChange_joined joining
  cases Server.command_cases ran with
  | refused code text => exact .inl ⟨rfl, rfl⟩
  | raised failure => exact .inl ⟨rfl, rfl⟩
  | listed typed => exact .inl ⟨rfl, rfl⟩
  | located peerId networkId endpoints typed valid shared => exact .inl ⟨rfl, rfl⟩
  | created name password topology passwordHash kind inviteCodes networkInviteCodes inviteCode typed
      valid hashed => exact absurd typed creating
  | joined networkId networkIdOrCode password record typed valid named found allowed accepted =>
    exact absurd typed joining
  | exposed networkId name protocol localHost localPort first rest record typed valid listed chosen
      found member =>
    exact .inr (.inl ⟨typed, _, first, rest, networkId, record, valid, listed, chosen, found,
      member⟩)
  | heartbeat typed =>
    cases stored : server.registry.get clientId with
    | none =>
      refine .inl ⟨?_, rfl⟩
      have registry : (server.registry.heartbeat clientId choice.now).2 = server.registry := by
        unfold ClientRegistry.heartbeat
        rw [Dict.modify_eq_self fun record found => by cases found.symm.trans stored]
      rw [Server.onHeartbeat, Server.changeNetworks, registry]
      rfl
    | some record =>
      refine .inr (.inr ⟨_, rfl, fun id instr member sent conveys => ?_⟩)
      obtain rfl := List.mem_singleton.mp member
      obtain rfl := conveys
      exact ⟨.heartbeat record typed stored, rfl⟩
  | left networkId record typed valid found member =>
    have leaves : Leaves packages server clientId message networkId record :=
      ⟨typed, valid, found, member⟩
    refine .inr (.inr ⟨_, rfl, fun id instr listed sent conveys => ?_⟩)
    rcases List.mem_cons.mp listed with rfl | listed
    · obtain rfl := conveys
      exact ⟨.left networkId record leaves, rfl⟩
    · obtain rfl := List.mem_singleton.mp listed
      obtain ⟨rfl, reached⟩ := conveys
      exact ⟨.leftOffline networkId record leaves reached, rfl⟩
  | unexposed serviceId networkId serviceMap typed valid found =>
    refine .inr (.inr ⟨_, rfl, fun id instr member sent conveys => ?_⟩)
    obtain rfl := List.mem_singleton.mp member
    obtain ⟨rfl, record, listed, writer⟩ := conveys
    exact ⟨.unexposed serviceId networkId serviceMap ⟨typed, valid, found⟩ record listed writer,
      rfl⟩
  | granted peerId src dst typed valid srcStored dstStored online shared =>
    by_cases new : (clientId, peerId) ∉ server.relay.paths ∨ (peerId, clientId) ∉ server.relay.paths
    · have grants : Grants packages server clientId message peerId :=
        ⟨typed, valid, ⟨src, dst, srcStored, dstStored, online⟩, shared, new⟩
      refine .inr (.inr ⟨_, rfl, fun id instr member sent conveys => ?_⟩)
      rcases List.mem_cons.mp member with rfl | member
      · obtain rfl := conveys
        exact ⟨.granted peerId grants, rfl⟩
      · obtain rfl := List.mem_singleton.mp member
        obtain ⟨rfl, writer⟩ := conveys
        exact ⟨.grantedPeer peerId grants writer, rfl⟩
    · obtain ⟨there, back⟩ := not_or.mp new
      refine .inl ⟨rfl, ?_⟩
      rw [RelayForwarder.registerRelayPath_paths, Finset.insert_eq_of_mem (not_not.mp there),
        Finset.insert_eq_of_mem (not_not.mp back)]

/-! ### Answers with an ERROR -/

/-- If `_dispatch` returns from the handling of a command, an ERROR was sent on its connection and
all socket sends succeeded, the registry, the networks, the services, the invite codes and the relay
paths are as they were before. -/
def ErrorsChangeNothing (wire : WireFormat) (packages : Packages) (server : Server) (id : ConnId)
    (clientId : String) (message : Message) : Prop :=
  ∀ choice choices final,
    HoldsAlong (Server.step packages) (SocketsSend wire) server
      (handling id message choice choices) →
    runFrom (Server.step packages) server (handling id message choice choices) = some final →
    Returned id clientId final →
    Happened (Server.step packages) server (WritesError id) (handling id message choice choices) →
    final.networks = server.networks ∧ final.relay.paths = server.relay.paths

variable {wire : WireFormat} {id : ConnId} {connection : Connection} {handled : Handled}

/-- The handler leaves the connection inside `_dispatch`. -/
theorem inside_dispatched (ready : Ready server id clientId connection) {todo : List Instr}
    (left : Server.dispatchInstrs clientId handled.result = todo ++ [.deliverRelayed clientId]) :
    Inside (server.dispatched id clientId handled) id clientId todo
      (server.dispatched id clientId handled) :=
  ⟨rfl, rfl, rfl, _, get_dispatched ready handled, ready.waiting.1, left⟩

theorem inDispatch_dispatchInstrs
    (ran : server.handleCommand packages clientId message choice = some handled) :
    ∃ todo, Server.dispatchInstrs clientId handled.result = todo ++ [.deliverRelayed clientId] ∧
      ∀ instr ∈ todo, InDispatch instr := by
  cases result : handled.result with
  | ok instrs =>
    refine ⟨instrs ++ [.endDispatch], by simp [Server.dispatchInstrs], fun instr member => ?_⟩
    rcases List.mem_append.mp member with sent | last
    · exact .inl ((Server.spec_handleCommand ran).sends instrs result instr sent)
    · exact .inr (List.mem_singleton.mp last)
  | error failure =>
    cases failure with
    | protocol text =>
      refine ⟨[.reply (.error "INVALID_MESSAGE" text)], rfl, fun instr member => ?_⟩
      obtain rfl := List.mem_singleton.mp member
      exact .inl trivial
    | internal text =>
      refine ⟨[.reply (internalError text)], rfl, fun instr member => ?_⟩
      obtain rfl := List.mem_singleton.mp member
      exact .inl trivial

/-- A command is taken in, and nothing is written yet. -/
theorem happened_handling {choices : List Choice} (ready : Ready server id clientId connection)
    (ran : server.handleCommand packages clientId message choice = some handled) :
    Happened (Server.step packages) server (WritesError id) (handling id message choice choices) ↔
      Happened (Server.step packages) (server.dispatched id clientId handled) (WritesError id)
        (choices.map (.advance id)) := by
  have received : server.step packages (.receive id message choice) =
      some (server.dispatched id clientId handled) := by
    rw [step_of_ready ready, ran]
    rfl
  constructor
  · rintro ⟨before, event, after, reached, split, ranBefore, code, text, written⟩
    cases before with
    | nil =>
      obtain ⟨rfl, -⟩ := List.cons.inj split
      cases written
    | cons first earlier =>
      obtain ⟨rfl, rest⟩ := List.cons.inj split
      obtain ⟨next, stepped, ranEarlier⟩ := runFrom_cons.mp ranBefore
      obtain rfl := Option.some.inj (received.symm.trans stepped)
      exact ⟨earlier, event, after, reached, rest, ranEarlier, code, text, written⟩
  · exact happened_cons received

/-- A command that neither exposes a service nor leaves a message that cannot be built is answered
with an ERROR only if it changes nothing. -/
theorem errorsChangeNothing_of_builds (ready : Ready server id clientId connection)
    (unexposed : ¬ ExposesService packages server clientId message)
    (builds : ∀ sent, ChangeConveys packages server clientId message sent → wire.Builds sent) :
    ErrorsChangeNothing wire packages server id clientId message := by
  intro choice choices final along ran returned answered
  obtain ⟨handled, commanded, rest⟩ := handling_run ready ran
  have received : server.step packages (.receive id message choice) =
      some (server.dispatched id clientId handled) := by
    rw [step_of_ready ready, commanded]
    rfl
  have restAlong := ((holdsAlong_cons received).mp along).2
  obtain ⟨todo, left, inDispatch⟩ := inDispatch_dispatchInstrs commanded
  have inside := inside_dispatched ready left
  obtain ⟨networks, relay⟩ := inside.unchanged inDispatch restAlong rest returned
  rcases conveysChange commanded with ⟨sameNetworks, samePaths⟩ | exposes | ⟨instrs, ok, conveyed⟩
  · exact ⟨networks.trans sameNetworks, (congrArg _ relay).trans samePaths⟩
  · exact absurd exposes unexposed
  · refine absurd ((happened_handling ready commanded).mp answered)
      (inside.not_answered (fun instr member => ⟨inDispatch instr member, fun sent conveys => ?_⟩)
        restAlong rest returned)
    have same : todo ++ [.deliverRelayed clientId] =
        (instrs ++ [.endDispatch]) ++ [.deliverRelayed clientId] := by
      rw [← left, ok]
      simp [Server.dispatchInstrs]
    rw [List.append_cancel_right same] at member
    rcases List.mem_append.mp member with own | last
    · obtain ⟨change, noError⟩ := conveyed id instr own sent conveys
      exact ⟨builds sent change, noError⟩
    · obtain rfl := List.mem_singleton.mp last
      exact conveys.elim

/-! ### Commands that fail late -/

/-- A command that can be answered with an ERROR has changed nothing, where such commands change
nothing. -/
theorem unchanged_of_answersError (ready : Ready server id clientId connection)
    (unchanged : ErrorsChangeNothing wire packages server id clientId message)
    (commanded : server.handleCommand packages clientId message choice = some handled)
    (answers : AnswersError wire packages (server.dispatched id clientId handled) id clientId
      (server.dispatched id clientId handled)) :
    handled.networks = server.networks ∧ handled.relay.paths = server.relay.paths := by
  obtain ⟨choices, final, along, ran, networks, relay, returned, happened⟩ := answers
  have received : server.step packages (.receive id message choice) =
      some (server.dispatched id clientId handled) := by
    rw [step_of_ready ready, commanded]
    rfl
  obtain ⟨sameNetworks, samePaths⟩ := unchanged choice choices final
    ((holdsAlong_cons received).mpr ⟨trivial, along⟩) (runFrom_cons.mpr ⟨_, received, ran⟩) returned
    ((happened_handling ready commanded).mpr happened)
  exact ⟨networks.symm.trans sameNetworks, (congrArg _ relay).symm.trans samePaths⟩

/-- A handler that raises is answered with an ERROR. -/
theorem answersError_internal (packages : Packages) {text : String}
    (ready : Ready server id clientId connection)
    (failed : handled.result = .error (.internal text))
    (builds : wire.Builds (internalError text)) :
    AnswersError wire packages (server.dispatched id clientId handled) id clientId
      (server.dispatched id clientId handled) := by
  refine Inside.answersError builds (inside_dispatched ready ?_)
  rw [failed]
  rfl

/-- A command of whose messages one cannot be built has changed nothing, where commands that are
answered with an ERROR change nothing. -/
theorem unchanged_of_unbuilt (ready : Ready server id clientId connection)
    (reported : FailuresReported wire (ChangeConveys packages server clientId message))
    (unchanged : ErrorsChangeNothing wire packages server id clientId message)
    (commanded : server.handleCommand packages clientId message choice = some handled)
    {instrs : List Instr} (ok : handled.result = .ok instrs) {instr : Instr}
    (member : instr ∈ instrs)
    {sent : ServerMessage} (conveys : (server.dispatched id clientId handled).Conveys instr sent)
    (unbuilt : ¬ wire.Builds sent) :
    handled.networks = server.networks ∧ handled.relay.paths = server.relay.paths := by
  rcases conveysChange commanded with same | exposes | ⟨others, sameOk, conveyed⟩
  · exact same
  · obtain ⟨typed, ⟨name, protocol, localHost, localPort⟩, first, rest, networkId, record, valid,
      listed, chosen, found, isMember⟩ := exposes
    obtain rfl := Option.some.inj (commanded.symm.trans
      (handleCommand_exposes typed valid listed chosen found isMember))
    cases ok
  · obtain rfl := Except.ok.inj (ok.symm.trans sameOk)
    refine unchanged_of_answersError ready unchanged commanded ?_
    refine answered_of_unbuilt reported ((Server.spec_handleCommand commanded).sends instrs ok)
      (fun other listed message conveysOther => (conveyed id other listed message conveysOther).1)
      ⟨instr, member, sent, conveys, unbuilt⟩ _ (inside_dispatched ready ?_)
    rw [ok]
    simp [Server.dispatchInstrs]

/-- The invite code of a new network does not depend on when it is created. -/
theorem generateInviteCode_newNetwork {manager coded : NetworkManager} {lower : String → String}
    {networkId name ownerId suffix inviteCode : String} {passwordHash : Bytes} {kind : Topology}
    {registry : ClientRegistry} {draws : Nat → String} {now : Time}
    (generated : NetworkManager.generateInviteCode lower { manager with
        networks := manager.networks.insert networkId
          (NetworkManager.newNetwork networkId name passwordHash ownerId kind now)
        registry := registry } networkId draws suffix = .ok (coded, inviteCode)) (later : Time) :
    ∃ inviteCodes networkInviteCodes, NetworkManager.generateInviteCode lower { manager with
        networks := manager.networks.insert networkId
          (NetworkManager.newNetwork networkId name passwordHash ownerId kind later)
        registry := registry } networkId draws suffix =
      .ok ({ manager with
        networks := manager.networks.insert networkId
          (NetworkManager.newNetwork networkId name passwordHash ownerId kind later)
        registry := registry
        inviteCodes := inviteCodes
        networkInviteCodes := networkInviteCodes }, inviteCode) := by
  simp only [NetworkManager.generateInviteCode, NetworkManager.get,
    Dict.get?_insert_self] at generated ⊢
  cases stored : manager.networkInviteCodes.get? networkId with
  | some code =>
    rw [stored] at generated
    obtain ⟨-, rfl⟩ := Prod.mk.inj (Except.ok.inj generated)
    exact ⟨_, _, rfl⟩
  | none =>
    rw [stored] at generated
    obtain ⟨-, rfl⟩ := Prod.mk.inj (Except.ok.inj generated)
    exact ⟨_, _, rfl⟩

/-- The handler of an accepted CREATE_NETWORK, at any reading of the clock. -/
theorem CreatesWith.handleCommand {name : String} {kind : Topology} {inviteCode : String}
    (creates : CreatesWith packages server clientId message choice name kind inviteCode)
    (now : Time) :
    ∃ handled, server.handleCommand packages clientId message { choice with now := now } =
        some handled ∧
      handled.networks.registry = server.registry.addNetwork clientId choice.uuid ∧
      (handled.networks.get choice.uuid).map NetworkRecord.createdAt = some now ∧
      handled.result = .ok [.reply (.networkCreated choice.uuid name clientId kind inviteCode),
        .push (.announcePeerOnline clientId)] := by
  obtain ⟨typed, password, topology, created, record, coded, valid, made, rfl, generated⟩ := creates
  unfold NetworkManager.create at made
  split at made
  · cases made
  · rename_i kind supported
    split at made
    · cases made
    · rename_i passwordHash hashed
      obtain ⟨rfl, rfl⟩ := Prod.mk.inj (Except.ok.inj made)
      have first : NetworkManager.generateInviteCode packages.text.lower { server.networks with
          networks := server.networks.networks.insert choice.uuid
            (NetworkManager.newNetwork choice.uuid name passwordHash clientId kind choice.now)
          registry := server.networks.registry.addNetwork clientId choice.uuid } choice.uuid
            choice.draws choice.suffix = .ok (coded, inviteCode) := generated
      obtain ⟨inviteCodes, networkInviteCodes, again⟩ := generateInviteCode_newNetwork first now
      have networkId : (NetworkManager.newNetwork choice.uuid name passwordHash clientId kind
        now).networkId = choice.uuid := rfl
      have ran : server.handleCommand packages clientId message { choice with now := now } =
          some (server.changeNetworks { server.networks with
            networks := server.networks.networks.insert choice.uuid
              (NetworkManager.newNetwork choice.uuid name passwordHash clientId kind now)
            registry := server.networks.registry.addNetwork clientId choice.uuid
            inviteCodes := inviteCodes
            networkInviteCodes := networkInviteCodes }
          [.reply (.networkCreated choice.uuid name clientId kind inviteCode),
            .push (.announcePeerOnline clientId)]) := by
        unfold Server.handleCommand
        rw [typed]
        simp only [Server.onCreateNetwork, valid, NetworkManager.create, supported, hashed,
          NetworkManager.chooseId, networkId, again]
        rfl
      refine ⟨_, ran, rfl, ?_, rfl⟩
      show ((server.networks.networks.insert choice.uuid _).get? choice.uuid).map _ = _
      rw [Dict.get?_insert_self]
      rfl

/-- The handler of an accepted JOIN_NETWORK. -/
theorem JoinsAnew.handleCommand {networkId : String} {record : NetworkRecord}
    (joins : JoinsAnew packages server clientId message networkId record) (choice : Choice) :
    server.handleCommand packages clientId message choice =
      some (server.joined clientId (server.networks.addMember networkId clientId) record) := by
  obtain ⟨typed, ⟨name, password, valid, free, named, allowed, accepted⟩, found, -⟩ := joins
  unfold Server.handleCommand
  rw [typed]
  refine congrArg some ?_
  simp only [Server.onJoinNetwork, valid, free, Bool.false_eq_true, if_false]
  rcases named with rfl | ⟨absent, mapped⟩
  · simp only [found, NetworkManager.join, allowed, accepted, Bool.false_eq_true, if_false, if_true]
  · have stored := @NetworkManager.get_addMember _ _ clientId _ found
    simp only [absent, NetworkManager.joinByInviteCode, mapped, found, allowed, accepted, stored,
      Bool.false_eq_true, if_false, if_true]
    rfl

/-- A join that is accepted changes the members or the record of the client. -/
theorem JoinsAnew.addMember_ne {networkId : String} {record : NetworkRecord}
    (joins : JoinsAnew packages server clientId message networkId record) :
    server.networks.addMember networkId clientId ≠ server.networks := by
  intro same
  rcases joins.new with stranger | ⟨client, stored, unknown⟩
  · have added := @NetworkManager.get_addMember _ _ clientId _ joins.found
    rw [same, joins.found] at added
    have members := congrArg NetworkRecord.members (Option.some.inj added)
    exact stranger (members ▸ Finset.mem_insert_self clientId record.members)
  · have added : (server.networks.addMember networkId clientId).registry.get clientId =
        some { client with networks := insert networkId client.networks } := by
      show (server.networks.registry.addNetwork clientId networkId).get clientId = _
      rw [ClientRegistry.get_addNetwork, if_pos rfl]
      exact congrArg _ stored
    rw [same] at added
    have networks := congrArg ClientRecord.networks (Option.some.inj (stored.symm.trans added))
    exact unknown (networks ▸ Finset.mem_insert_self networkId client.networks)

/-- The handler of a LEAVE_NETWORK of a member. -/
theorem Leaves.handleCommand {networkId : String} {record : NetworkRecord}
    (leaves : Leaves packages server clientId message networkId record) (choice : Choice) :
    server.handleCommand packages clientId message choice = some (server.changeNetworks
      { server.networks with
        networks := server.networks.networks.modify networkId
          (NetworkManager.withoutMember clientId)
        registry := server.networks.registry.removeNetwork clientId networkId }
      [.reply (.networkLeft networkId), .push (.announcePeerOffline clientId networkId)]) := by
  unfold Server.handleCommand
  rw [leaves.typed]
  simp only [Server.onLeaveNetwork, leaves.valid, NetworkManager.leave, leaves.found]
  rw [if_neg (not_not.mpr leaves.member)]

/-- A member that leaves is no member afterwards. -/
theorem Leaves.changes {networkId : String} {record : NetworkRecord}
    (leaves : Leaves packages server clientId message networkId record) :
    ({ server.networks with
        networks := server.networks.networks.modify networkId
          (NetworkManager.withoutMember clientId)
        registry := server.networks.registry.removeNetwork clientId networkId } :
      NetworkManager) ≠ server.networks := by
  intro same
  have found := leaves.found
  unfold NetworkManager.get at found
  have after : (server.networks.networks.modify networkId
      (NetworkManager.withoutMember clientId)).get? networkId =
        some (NetworkManager.withoutMember clientId record) := by
    rw [Dict.get?_modify, if_pos rfl, found]
    rfl
  have networks : server.networks.networks.modify networkId
      (NetworkManager.withoutMember clientId) = server.networks.networks :=
    congrArg NetworkManager.networks same
  rw [networks, found] at after
  have members : record.members = record.members.erase clientId :=
    congrArg NetworkRecord.members (Option.some.inj after)
  have member := leaves.member
  rw [members] at member
  exact Finset.notMem_erase _ _ member

/-- The handler of an UNEXPOSE_SERVICE of the provider. -/
theorem Unexposes.handleCommand {serviceId networkId : String}
    {serviceMap : Dict String ServiceRecord}
    (unexposes : Unexposes packages server clientId message serviceId networkId serviceMap)
    (choice : Choice) :
    server.handleCommand packages clientId message choice = some (server.changeNetworks
      { server.networks with
        services := server.networks.services.insert networkId (serviceMap.erase serviceId) }
      [.push (.broadcastService networkId (.serviceRemoved serviceId))]) := by
  unfold Server.handleCommand
  rw [unexposes.typed]
  simp only [Server.onUnexposeService, unexposes.valid, NetworkManager.unexposeServiceOwner,
    unexposes.found]

/-- A service that is taken out was in. -/
theorem Unexposes.changes {serviceId networkId : String} {serviceMap : Dict String ServiceRecord}
    (unexposes : Unexposes packages server clientId message serviceId networkId serviceMap) :
    ({ server.networks with
        services := server.networks.services.insert networkId (serviceMap.erase serviceId) } :
      NetworkManager) ≠ server.networks := by
  intro same
  have provided := List.find?_some unexposes.found
  have stored := Dict.get?_eq_some_iff.mpr (List.mem_of_find?_eq_some unexposes.found)
  have after :=
    Dict.get?_insert_self server.networks.services networkId (serviceMap.erase serviceId)
  have services : server.networks.services.insert networkId (serviceMap.erase serviceId) =
      server.networks.services := congrArg NetworkManager.services same
  rw [services, stored] at after
  have gone := congrArg (fun services => Dict.get? services serviceId) (Option.some.inj after)
  rw [Dict.get?_erase_self] at gone
  simp only [NetworkManager.providedBy, gone] at provided
  cases provided

/-- The handler of a RELAY_REQUEST that is granted. -/
theorem Grants.handleCommand {peerId : String}
    (grants : Grants packages server clientId message peerId) (choice : Choice) :
    server.handleCommand packages clientId message choice = some
      ⟨server.networks, (server.relay.registerRelayPath clientId peerId).2,
        .ok [.reply (.relayGranted peerId (clientId ++ "->" ++ peerId)),
          .push (.sendTo peerId (.relayGranted clientId (peerId ++ "->" ++ clientId)))]⟩ := by
  obtain ⟨src, dst, srcStored, dstStored, online⟩ := grants.online
  unfold Server.handleCommand
  rw [grants.typed]
  simp only [Server.onRelayRequest, grants.valid, Server.handleRelayRequest, srcStored, dstStored,
    online, grants.shared, Bool.not_true, Bool.false_eq_true, if_false]

/-- A path that is not allocated yet is allocated. -/
theorem Grants.changes {peerId : String}
    (grants : Grants packages server clientId message peerId) :
    (server.relay.registerRelayPath clientId peerId).2.paths ≠ server.relay.paths := by
  intro same
  rw [RelayForwarder.registerRelayPath_paths] at same
  rcases grants.new with there | back
  · exact there (same ▸ Finset.mem_insert_of_mem (Finset.mem_insert_self _ _))
  · exact back (same ▸ Finset.mem_insert_self _ _)

/-- Where commands that are answered with an ERROR change nothing, every message of a command that
changes something can be built. -/
theorem builds_of_errorsChangeNothing (ready : Ready server id clientId connection)
    (reported : FailuresReported wire (ChangeConveys packages server clientId message))
    (unchanged : ErrorsChangeNothing wire packages server id clientId message)
    {sent : ServerMessage} (change : ChangeConveys packages server clientId message sent) :
    wire.Builds sent := by
  by_contra unbuilt
  have same {choice : Choice} {handled : Handled} {instrs : List Instr} {instr : Instr}
      (commanded : server.handleCommand packages clientId message choice = some handled)
      (ok : handled.result = .ok instrs) (member : instr ∈ instrs)
      (conveys : (server.dispatched id clientId handled).Conveys instr sent) :
      handled.networks = server.networks ∧ handled.relay.paths = server.relay.paths :=
    unchanged_of_unbuilt ready reported unchanged commanded ok member conveys unbuilt
  -- At every clock reading the network would have been there already, with that reading.
  have notCreated {choice : Choice} {name : String} {kind : Topology} {inviteCode : String}
      (creates : CreatesWith packages server clientId message choice name kind inviteCode)
      {instr : Instr} (member : instr ∈ [.reply (.networkCreated choice.uuid name clientId kind
        inviteCode), .push (.announcePeerOnline clientId)])
      (conveys : ∀ handled : Handled,
        handled.networks.registry = server.registry.addNetwork clientId choice.uuid →
        (server.dispatched id clientId handled).Conveys instr sent) : False := by
    have created (now : Time) :
        (server.networks.get choice.uuid).map NetworkRecord.createdAt = some now := by
      obtain ⟨handled, commanded, registry, stored, ok⟩ := creates.handleCommand now
      rw [← (same commanded ok member (conveys handled registry)).1]
      exact stored
    cases Option.some.inj ((created 0).symm.trans (created 1))
  cases change with
  | heartbeat record typed registered =>
    have beaten (now : Time) :
        (server.registry.get clientId).map ClientRecord.lastHeartbeat = some now := by
      have commanded : server.handleCommand packages clientId message (drawsNothing now) =
          some (server.onHeartbeat clientId message (drawsNothing now)) := by
        unfold Server.handleCommand
        rw [typed]
        rfl
      have networks := (same commanded rfl List.mem_cons_self rfl).1
      have registry : (server.registry.heartbeat clientId now).2 = server.registry :=
        congrArg NetworkManager.registry networks
      rw [← registry, ClientRegistry.get_heartbeat, if_pos rfl, registered]
      rfl
    cases Option.some.inj ((beaten 0).symm.trans (beaten 1))
  | created choice name kind inviteCode creates =>
    exact notCreated creates List.mem_cons_self fun _ _ => rfl
  | createdOnline choice name kind inviteCode creates networkId visited reached =>
    refine notCreated creates (List.mem_cons_of_mem _ List.mem_cons_self) fun handled registry => ?_
    have after : (server.dispatched id clientId handled).registry =
        server.registry.addNetwork clientId choice.uuid := registry
    exact ⟨networkId, by rw [after]; exact visited, rfl, by rw [after]; exact reached⟩
  | joined networkId record joins =>
    exact joins.addMember_ne
      (same (joins.handleCommand (drawsNothing 0)) rfl List.mem_cons_self rfl).1
  | joinedOnline networkId record joins other visited reached =>
    exact joins.addMember_ne (same (joins.handleCommand (drawsNothing 0)) rfl
      (List.mem_cons_of_mem _ List.mem_cons_self) ⟨other, visited, rfl, reached⟩).1
  | left networkId record leaves =>
    exact leaves.changes
      (same (leaves.handleCommand (drawsNothing 0)) rfl List.mem_cons_self rfl).1
  | leftOffline networkId record leaves reached =>
    exact leaves.changes (same (leaves.handleCommand (drawsNothing 0)) rfl
      (List.mem_cons_of_mem _ List.mem_cons_self) ⟨rfl, reached⟩).1
  | unexposed serviceId networkId serviceMap unexposes record listed writer =>
    exact unexposes.changes (same (unexposes.handleCommand (drawsNothing 0)) rfl
      List.mem_cons_self ⟨rfl, record, listed, writer⟩).1
  | granted peerId grants =>
    exact grants.changes
      (same (grants.handleCommand (drawsNothing 0)) rfl List.mem_cons_self rfl).2
  | grantedPeer peerId grants writer =>
    exact grants.changes (same (grants.handleCommand (drawsNothing 0)) rfl
      (List.mem_cons_of_mem _ List.mem_cons_self) ⟨rfl, writer⟩).2

/-- Where commands that are answered with an ERROR change nothing, no EXPOSE_SERVICE is accepted. -/
theorem unexposed_of_errorsChangeNothing (ready : Ready server id clientId connection)
    (builds : wire.Builds (internalError "'str' object has no attribute 'service_id'"))
    (unchanged : ErrorsChangeNothing wire packages server id clientId message) :
    ¬ ExposesService packages server clientId message := by
  rintro ⟨typed, ⟨name, protocol, localHost, localPort⟩, first, rest, networkId, record, valid,
    listed, chosen, found, member⟩
  -- At every clock reading the service would have been there already, with that reading.
  have stored (now : Time) : server.networks.serviceAt networkId "" =
      some ⟨"", networkId, clientId, name, protocol, localHost, localPort, now⟩ := by
    have commanded : server.handleCommand packages clientId message (drawsNothing now) = _ :=
      handleCommand_exposes typed valid listed chosen found member
    have networks := (unchanged_of_answersError ready unchanged commanded
      (answersError_internal packages ready rfl builds)).1
    rw [← networks, NetworkManager.serviceAt, Dict.get?_insert_self, Option.bind_some]
    exact Dict.get?_insert_self _ _ _
  have same := Option.some.inj ((stored 0).symm.trans (stored 1))
  cases congrArg ServiceRecord.createdAt same

/-- The ERRORs that report an exception can be built: their texts are short, and ASCII. -/
structure ErrorsBuilt (wire : WireFormat) (packages : Packages) (server : Server)
    (clientId : String) (message : Message) : Prop where
  exposing : wire.Builds (internalError "'str' object has no attribute 'service_id'")
  failures : FailuresReported wire (ChangeConveys packages server clientId message)

/-- A command that is answered with an ERROR changes nothing if and only if it is no EXPOSE_SERVICE
that the server accepts, and every message that is sent for what it changes can be built. -/
theorem errors_change_nothing_iff (wire : WireFormat) (packages : Packages) (server : Server)
    (id : ConnId) (clientId : String) (connection : Connection)
    (ready : Ready server id clientId connection) (message : Message)
    (reported : ErrorsBuilt wire packages server clientId message) :
    ErrorsChangeNothing wire packages server id clientId message ↔
      ¬ ExposesService packages server clientId message ∧
        ∀ sent, ChangeConveys packages server clientId message sent → wire.Builds sent :=
  ⟨fun unchanged => ⟨unexposed_of_errorsChangeNothing ready reported.exposing unchanged,
      fun _ => builds_of_errorsChangeNothing ready reported.failures unchanged⟩,
    fun ⟨unexposed, builds⟩ => errorsChangeNothing_of_builds ready unexposed builds⟩

/-- The JSON library on messages whose fields are texts, none of which needs an escape. -/
def textJson : JsonText := { plainJson with
  dumps := fun body => pyStr <| match body with
    | .obj [("type", .str type), ("payload", .obj fields)] =>
      "\x7b\"type\":\"" ++ type ++ "\",\"payload\":\x7b" ++
        ",".intercalate (fields.map fun (key, value) =>
          "\"" ++ key ++ "\":" ++ match value with
            | .str text => "\"" ++ text ++ "\""
            | _ => "") ++ "\x7d\x7d"
    | _ => "" }

def plainWire : WireFormat := ⟨textJson, fun _ => 0⟩

/-- A member leaves its network. All messages of that can be built, so there is no ERROR. -/
theorem errors_change_nothing_leave :
    ∃ connection, Ready (serverAfter twoMembers) 0 "client-0001" connection ∧
      ErrorsChangeNothing plainWire plainPackages (serverAfter twoMembers) 0 "client-0001"
        (leaveMessage "network") := by
  obtain ⟨connection, ready⟩ := ready_twoMembers
  have builds : ∀ sent, ChangeConveys plainPackages (serverAfter twoMembers) "client-0001"
      (leaveMessage "network") sent → plainWire.Builds sent := by
    intro sent change
    have named {networkId : String} {record : NetworkRecord}
        (leaves : Leaves plainPackages (serverAfter twoMembers) "client-0001"
          (leaveMessage "network") networkId record) : networkId = "network" :=
      Except.ok.inj leaves.valid.symm
    cases change with
    | left networkId record leaves =>
      rw [named leaves]
      decide +kernel
    | leftOffline networkId record leaves reached =>
      rw [named leaves]
      decide +kernel
    | heartbeat record typed => exact absurd typed (by decide)
    | created choice name kind inviteCode creates => exact absurd creates.typed (by decide)
    | createdOnline choice name kind inviteCode creates => exact absurd creates.typed (by decide)
    | joined networkId record joins => exact absurd joins.typed (by decide)
    | joinedOnline networkId record joins => exact absurd joins.typed (by decide)
    | unexposed serviceId networkId serviceMap unexposes => exact absurd unexposes.typed (by decide)
    | granted peerId grants => exact absurd grants.typed (by decide)
    | grantedPeer peerId grants => exact absurd grants.typed (by decide)
  refine ⟨connection, ready, (errors_change_nothing_iff plainWire plainPackages _ 0 "client-0001"
    connection ready _ ⟨by decide +kernel, fun sent text change failed => ?_⟩).mpr
      ⟨fun exposes => absurd exposes.1 (by decide), builds⟩⟩
  cases (WireFormat.outcome_of_builds (builds sent change)).symm.trans failed

def exposeMessage : Message :=
  ⟨"EXPOSE_SERVICE", (payloadOf [("name", "web")]).insert "local_port" (.int 8080)⟩

/-- The server after the message is read, and after it is answered. -/
def exposing : Server :=
  (runFrom (Server.step plainPackages) (serverAfter twoMembers)
    [.receive 0 exposeMessage (calm [])]).getD exampleServer

def exposed : Server :=
  (runFrom (Server.step plainPackages) (serverAfter twoMembers)
    (handling 0 exposeMessage (calm []) [calm []])).getD exampleServer

/-- A member of a network exposes a service. The answer is an ERROR, and the service, of which
there was none before, is stored. -/
theorem exposed_and_answered_error :
    (serverAfter twoMembers).networks.listServices "network" = [] ∧
      (∃ final, runFrom (Server.step plainPackages) (serverAfter twoMembers)
          (handling 0 exposeMessage (calm []) [calm []]) = some final ∧
        (final.networks.listServices "network").map ServiceRecord.name = ["web"]) ∧
      ¬ ErrorsChangeNothing plainWire plainPackages (serverAfter twoMembers) 0 "client-0001"
        exposeMessage := by
  obtain ⟨received, ran⟩ : (runFrom (Server.step plainPackages) (serverAfter twoMembers)
        [.receive 0 exposeMessage (calm [])]).isSome = true ∧
      (runFrom (Server.step plainPackages) (serverAfter twoMembers)
        (handling 0 exposeMessage (calm []) [calm []])).isSome = true := by decide +kernel
  have received : _ = some exposing := some_of_isSome received exampleServer
  have ran : _ = some exposed := some_of_isSome ran exampleServer
  obtain ⟨none, stored, returned⟩ :
      (serverAfter twoMembers).networks.listServices "network" = [] ∧
        (exposed.networks.listServices "network").map ServiceRecord.name = ["web"] ∧
        Returned 0 "client-0001" exposed := by decide +kernel
  refine ⟨none, ⟨exposed, ran, stored⟩, fun unchanged => ?_⟩
  -- The one message that is sent is an ERROR, and can be built.
  obtain ⟨writes, builds⟩ :
      (exposing.written (.advance 0 (calm []))).any
          (fun entry => decide (entry.1 = 0) && entry.2.isError) = true ∧
        ((exposing.nextInstr 0).bind exposing.sentBy).all
          (fun sent => decide (plainWire.Builds sent)) = true := by decide +kernel
  obtain ⟨⟨id, message⟩, written, both⟩ := (Option.any_eq_true _ _).mp writes
  obtain ⟨same, isError⟩ := Bool.and_eq_true_iff.mp both
  obtain rfl : id = 0 := of_decide_eq_true same
  have along : HoldsAlong (Server.step plainPackages) (SocketsSend plainWire)
      (serverAfter twoMembers) (handling 0 exposeMessage (calm []) [calm []]) := by
    refine ⟨trivial, fun next stepped => ⟨fun instr sent head sentBy => ?_, fun _ _ => trivial⟩⟩
    obtain rfl := Option.some.inj ((runFrom_cons.mpr ⟨next, stepped, rfl⟩).symm.trans received)
    rw [head, Option.bind_some, sentBy] at builds
    exact (WireFormat.outcome_of_builds (of_decide_eq_true builds)).symm
  cases message with
  | error code text =>
    have kept := (unchanged (calm []) [calm []] exposed along ran returned
      ⟨[.receive 0 exposeMessage (calm [])], .advance 0 (calm []), [], exposing, rfl, received,
        code, text, written⟩).1
    rw [kept, none] at stored
    cases stored
  | _ => cases isError

end LocalNetwork
