/-
This file asks when a client that requests a connection to a peer gets the peer's endpoint.
The server may share it in any network that both belong to; the handler looks at one of
these networks, the first that the iteration over a set comes upon.

So the answer is right, and the same for every order of the iteration, exactly when the
networks agree: none of them lets the server share the endpoint, or all of them do.
-/

import LocalNetwork.JoinRoutes

namespace LocalNetwork

/-! ### What may be shared -/

/-- In a network with this record the server may tell a requester the endpoint of a target. -/
structure Shares (manager : NetworkManager) (record : NetworkRecord) (target : ClientRecord)
    (requesterId targetId : String) (endpoint : Addr) : Prop where
  different : requesterId ≠ targetId
  requester : requesterId ∈ record.members
  member : targetId ∈ record.members
  stored : manager.registry.get targetId = some target
  online : target.online = true
  located : target.publicEndpoint = some endpoint
  visible : record.topology = .hubAndSpoke → record.hubId = some targetId

namespace NetworkManager

variable {manager : NetworkManager} {networkId requesterId targetId : String}

theorem sharedEndpointsFor_iff {endpoints : List Addr} :
    manager.sharedEndpointsFor networkId requesterId targetId = some endpoints ↔
      ∃ record target endpoint, manager.get networkId = some record ∧
        Shares manager record target requesterId targetId endpoint ∧ endpoints = [endpoint] := by
  constructor
  · intro shared
    unfold sharedEndpointsFor at shared
    split at shared
    · cases shared
    · rename_i record found
      split at shared
      · cases shared
      · rename_i different
        split at shared
        · cases shared
        · rename_i members
          rw [not_or, not_not, not_not] at members
          split at shared
          · cases shared
          · rename_i target stored
            split at shared
            · rename_i endpoint online located
              split at shared
              · cases shared
              · rename_i visible
                refine ⟨record, target, endpoint, found, ⟨different, members.1, members.2, stored,
                  online, located, fun topology => ?_⟩, (Option.some.inj shared).symm⟩
                exact not_not.mp fun other => visible ⟨topology, other⟩
            · cases shared
  · rintro ⟨record, target, endpoint, found, shares, rfl⟩
    have seen : ¬ (record.topology = .hubAndSpoke ∧ record.hubId ≠ some targetId) :=
      fun hidden => hidden.2 (shares.visible hidden.1)
    simp only [sharedEndpointsFor, found, shares.stored, shares.online, shares.located]
    rw [if_neg shares.different, if_neg (by simp [shares.requester, shares.member]), if_neg seen]

/-- Whatever the network, the endpoint that is shared is the one in the registry. -/
theorem sharedEndpointsFor_unique {otherId : String} {first second : List Addr}
    (one : manager.sharedEndpointsFor networkId requesterId targetId = some first)
    (other : manager.sharedEndpointsFor otherId requesterId targetId = some second) :
    first = second := by
  obtain ⟨record, target, endpoint, -, shares, rfl⟩ := sharedEndpointsFor_iff.mp one
  obtain ⟨otherRecord, otherTarget, otherEndpoint, -, otherShares, rfl⟩ :=
    sharedEndpointsFor_iff.mp other
  obtain rfl := Option.some.inj (shares.stored.symm.trans otherShares.stored)
  rw [Option.some.inj (shares.located.symm.trans otherShares.located)]

theorem isMember_iff {clientId : String} :
    manager.isMember networkId clientId = true ↔ clientId ∈ manager.members networkId := by
  unfold isMember members
  split
  · simp
  · exact decide_eq_true_iff

/-- The answer of a network that both clients belong to. -/
def endpointsReply (peerId : String) : Option (List Addr) → ServerMessage
  | none | some [] => .error "PEER_UNAVAILABLE" "peer is offline or endpoints hidden"
  | some endpoints => .peerEndpoints peerId endpoints

/-- The answer when the networks of the requester are visited in an order. -/
def lookupReply (manager : NetworkManager) (order : List String) (requesterId peerId : String) :
    ServerMessage :=
  match order.find? fun networkId => manager.isMember networkId peerId with
  | none => .error "NO_SHARED_NETWORK" "no shared network with that peer"
  | some networkId =>
    endpointsReply peerId (manager.sharedEndpointsFor networkId requesterId peerId)

end NetworkManager

theorem handleCommand_requestPeerConn {packages : Packages} {server : Server}
    {requesterId peerId : String} {message : Message} {choice : Choice}
    (typed : message.type = "REQUEST_PEER_CONN")
    (valid : validatePeerId packages.text message.payload = .ok peerId)
    (visited : Server.Enumerates choice.order (server.registry.networksFor requesterId)) :
    server.handleCommand packages requesterId message choice =
      some (server.answer
        [.reply (server.networks.lookupReply choice.order requesterId peerId)]) := by
  simp only [Server.handleCommand, typed, Server.onRequestPeerConn, valid, if_pos visited,
    NetworkManager.lookupReply]
  cases choice.order.find? fun networkId => server.networks.isMember networkId peerId with
  | none => rfl
  | some networkId =>
    simp only
    rcases server.networks.sharedEndpointsFor networkId requesterId peerId with
      _ | _ | ⟨endpoint, rest⟩ <;> rfl

/-! ### All networks and one -/

/-- A request for a peer is answered with the endpoint that some network lets the server share, and
the answer is the same for every order in which the networks of the requester are visited. -/
structure LooksEverywhere (packages : Packages) (server : Server) (requesterId peerId : String)
    (message : Message) : Prop where
  found : ∀ networkId endpoints choice,
    server.networks.sharedEndpointsFor networkId requesterId peerId = some endpoints →
    Server.Enumerates choice.order (server.registry.networksFor requesterId) →
      server.handleCommand packages requesterId message choice =
        some (server.answer [.reply (.peerEndpoints peerId endpoints)])
  orderless : ∀ first second : Choice,
    Server.Enumerates first.order (server.registry.networksFor requesterId) →
    Server.Enumerates second.order (server.registry.networksFor requesterId) →
      server.handleCommand packages requesterId message first =
        server.handleCommand packages requesterId message second

/-- No network lets the server share the endpoint, or every network of the requester that the peer
belongs to does. -/
def NetworksAgree (manager : NetworkManager) (requesterId peerId : String) : Prop :=
  (∀ networkId, manager.sharedEndpointsFor networkId requesterId peerId = none) ∨
    ∀ networkId ∈ manager.registry.networksFor requesterId,
      manager.isMember networkId peerId = true →
        manager.sharedEndpointsFor networkId requesterId peerId ≠ none

section

variable {manager : NetworkManager} {requesterId peerId : String} {order : List String}

/-- Where no network of the requester has the peer, the answer says so. -/
theorem lookupReply_apart
    (apart : ∀ networkId ∈ order, manager.isMember networkId peerId = false) :
    manager.lookupReply order requesterId peerId =
      .error "NO_SHARED_NETWORK" "no shared network with that peer" := by
  have search : (order.find? fun networkId => manager.isMember networkId peerId) = none :=
    List.find?_eq_none.mpr fun networkId listed => by simp [apart networkId listed]
  rw [NetworkManager.lookupReply, search]

/-- A network that has the peer and comes first decides. -/
theorem lookupReply_first {first : String} (member : manager.isMember first peerId = true)
    (rest : List String) :
    manager.lookupReply (first :: rest) requesterId peerId =
      NetworkManager.endpointsReply peerId
        (manager.sharedEndpointsFor first requesterId peerId) := by
  simp only [NetworkManager.lookupReply, List.find?_cons, member]

/-- Where all networks that have the peer give one result, the order does not matter. -/
theorem lookupReply_of_all {result : Option (List Addr)} {networkId : String}
    (listed : networkId ∈ order) (member : manager.isMember networkId peerId = true)
    (all : ∀ other ∈ order, manager.isMember other peerId = true →
      manager.sharedEndpointsFor other requesterId peerId = result) :
    manager.lookupReply order requesterId peerId =
      NetworkManager.endpointsReply peerId result := by
  cases search : order.find? fun networkId => manager.isMember networkId peerId with
  | none =>
    have absent := List.find?_eq_none.mp search networkId listed
    rw [member] at absent
    exact absurd rfl absent
  | some first =>
    have has : manager.isMember first peerId = true := by
      simpa using List.find?_some search
    simp only [NetworkManager.lookupReply, search,
      all first (List.mem_of_find?_eq_some search) has]

/-- A network that lets the server share an endpoint is among those of the requester, and the peer
belongs to it. -/
theorem listed_of_shared (listed : MembersListed manager) {networkId : String}
    {endpoints : List Addr}
    (shared : manager.sharedEndpointsFor networkId requesterId peerId = some endpoints) :
    networkId ∈ manager.registry.networksFor requesterId ∧
      manager.isMember networkId peerId = true := by
  obtain ⟨record, target, endpoint, found, shares, -⟩ :=
    NetworkManager.sharedEndpointsFor_iff.mp shared
  exact ⟨listed requesterId networkId (NetworkManager.mem_members.mpr
    ⟨record, found, shares.requester⟩), NetworkManager.isMember_iff.mpr
      (NetworkManager.mem_members.mpr ⟨record, found, shares.member⟩)⟩

theorem mem_order_iff {names : Finset String} (visited : Server.Enumerates order names)
    {name : String} : name ∈ order ↔ name ∈ names := by
  rw [← List.mem_toFinset, visited.2]

/-- Where the networks agree, all that have the peer let the server share the same. -/
theorem NetworksAgree.same (agree : NetworksAgree manager requesterId peerId)
    {networkId otherId : String}
    (listed : networkId ∈ manager.registry.networksFor requesterId)
    (member : manager.isMember networkId peerId = true)
    (otherListed : otherId ∈ manager.registry.networksFor requesterId)
    (otherMember : manager.isMember otherId peerId = true) :
    manager.sharedEndpointsFor otherId requesterId peerId =
      manager.sharedEndpointsFor networkId requesterId peerId := by
  rcases agree with none | every
  · rw [none otherId, none networkId]
  · obtain ⟨endpoints, shared⟩ := Option.ne_none_iff_exists'.mp (every networkId listed member)
    obtain ⟨otherEndpoints, otherShared⟩ :=
      Option.ne_none_iff_exists'.mp (every otherId otherListed otherMember)
    rw [shared, otherShared, NetworkManager.sharedEndpointsFor_unique otherShared shared]

/-- Where the networks agree, what one of them lets the server share decides. -/
theorem NetworksAgree.lookupReply_eq (agree : NetworksAgree manager requesterId peerId)
    {networkId : String} (visited : Server.Enumerates order
      (manager.registry.networksFor requesterId))
    (listed : networkId ∈ manager.registry.networksFor requesterId)
    (member : manager.isMember networkId peerId = true) :
    manager.lookupReply order requesterId peerId =
      NetworkManager.endpointsReply peerId
        (manager.sharedEndpointsFor networkId requesterId peerId) :=
  lookupReply_of_all ((mem_order_iff visited).mpr listed) member fun _ otherListed =>
    agree.same listed member ((mem_order_iff visited).mp otherListed)

/-- Where the networks agree, there is one answer for all orders. -/
theorem lookupReply_of_agree (agree : NetworksAgree manager requesterId peerId)
    (first second : List String)
    (one : Server.Enumerates first (manager.registry.networksFor requesterId))
    (other : Server.Enumerates second (manager.registry.networksFor requesterId)) :
    manager.lookupReply first requesterId peerId =
      manager.lookupReply second requesterId peerId := by
  by_cases apart : ∀ networkId ∈ manager.registry.networksFor requesterId,
      manager.isMember networkId peerId = false
  · rw [lookupReply_apart fun networkId listed => apart networkId ((mem_order_iff one).mp listed),
      lookupReply_apart fun networkId listed => apart networkId ((mem_order_iff other).mp listed)]
  · push Not at apart
    obtain ⟨networkId, listed, member⟩ := apart
    replace member := Bool.ne_false_iff.mp member
    rw [agree.lookupReply_eq one listed member, agree.lookupReply_eq other listed member]

/-- A network of the requester can be the first that is visited. -/
theorem exists_order_first {names : Finset String} {name : String} (listed : name ∈ names) :
    ∃ rest, Server.Enumerates (name :: rest) names := by
  refine ⟨(names.erase name).toList, ?_, ?_⟩
  · refine List.nodup_cons.mpr ⟨fun again => ?_, Finset.nodup_toList _⟩
    exact Finset.notMem_erase name names (Finset.mem_toList.mp again)
  · rw [List.toFinset_cons, Finset.toList_toFinset, Finset.insert_erase listed]

end

/-- In every state that the server reaches, a request for a peer is answered with the endpoint that
some network lets the server share, for every order in which the networks of the requester are
visited, and with the same answer for all orders, if and only if no network lets the server share it
or every network that both belong to does. -/
theorem peer_lookup_iff (packages : Packages) (maxClients : Nat) (heartbeatTimeout ttl : Time)
    (maxAttempts : Int) (bannedNetworks : Finset String) (events : List ServerEvent)
    (server : Server)
    (ran : runFrom (Server.step packages)
      (Server.init maxClients heartbeatTimeout ttl maxAttempts bannedNetworks) events =
        some server)
    (requesterId peerId : String) (message : Message) (typed : message.type = "REQUEST_PEER_CONN")
    (valid : validatePeerId packages.text message.payload = .ok peerId) :
    LooksEverywhere packages server requesterId peerId message ↔
      NetworksAgree server.networks requesterId peerId := by
  have listed := (networksKept_run ran).listed
  constructor
  · intro everywhere
    by_contra disagree
    rw [NetworksAgree, not_or] at disagree
    obtain ⟨some_, hidden⟩ := disagree
    push Not at some_ hidden
    obtain ⟨networkId, shares⟩ := some_
    obtain ⟨endpoints, shared⟩ := Option.ne_none_iff_exists'.mp shares
    obtain ⟨first, own, member, unshared⟩ := hidden
    obtain ⟨rest, visited⟩ := exists_order_first own
    -- the handler comes upon the network that does not share first
    have answered := everywhere.found networkId endpoints
      { drawsNothing 0 with order := first :: rest } shared visited
    rw [handleCommand_requestPeerConn typed valid visited, lookupReply_first member,
      unshared] at answered
    simp [Server.answer, NetworkManager.endpointsReply] at answered
  · intro agree
    refine ⟨fun networkId endpoints choice shared visited => ?_, fun first second one other => ?_⟩
    · rw [handleCommand_requestPeerConn typed valid visited]
      obtain ⟨own, member⟩ := listed_of_shared listed shared
      rw [agree.lookupReply_eq visited own member, shared]
      obtain ⟨record, target, endpoint, -, -, rfl⟩ :=
        NetworkManager.sharedEndpointsFor_iff.mp shared
      rfl
    · rw [handleCommand_requestPeerConn typed valid one,
        handleCommand_requestPeerConn typed valid other,
        lookupReply_of_agree agree first.order second.order one other]

def peerMessage (peerId : String) : Message :=
  ⟨"REQUEST_PEER_CONN", payloadOf [("peer_id", peerId)]⟩

theorem peer_lookup_iff_twoMembers :
    LooksEverywhere plainPackages (serverAfter twoMembers) "client-0001" "client-0002"
        (peerMessage "client-0002") ↔
      NetworksAgree (serverAfter twoMembers).networks "client-0001" "client-0002" := by
  have ran := runFrom_serverAfter
    (show (runFrom (Server.step plainPackages) exampleServer twoMembers).isSome = true by
      decide +kernel)
  exact peer_lookup_iff plainPackages 8 90 60 5 ∅ twoMembers _ ran "client-0001" "client-0002"
    (peerMessage "client-0002") rfl rfl

/-- Two members of a mesh network are also the hub and a spoke of a second one. -/
def meshAndHub : List ServerEvent :=
  twoMembers ++ [.advance 1 (calm []), .advance 1 (calm []), .advance 1 (calm [])] ++
    [.receive 0 ⟨"CREATE_NETWORK", payloadOf [("name", "star"), ("password", "secret"),
      ("topology", "hub_and_spoke")]⟩
        { calm [] with uuid := "star", draws := fun _ => "star-code" },
    .receive 1 (joinMessage "star" "secret") (calm [])]

/-- The hub asks for the spoke: visited first, the mesh network answers with the endpoint, and the
network with the hub refuses. -/
theorem order_decides_lookup :
    (runFrom (Server.step plainPackages) exampleServer meshAndHub).isSome = true ∧
      (serverAfter meshAndHub).networks.sharedEndpointsFor "network" "client-0001" "client-0002" =
        some [("10.0.0.1", 1)] ∧
      Server.Enumerates ["star", "network"]
        ((serverAfter meshAndHub).registry.networksFor "client-0001") ∧
      (serverAfter meshAndHub).handleCommand plainPackages "client-0001"
        (peerMessage "client-0002") (calm ["network", "star"]) =
          some ((serverAfter meshAndHub).answer
            [.reply (.peerEndpoints "client-0002" [("10.0.0.1", 1)])]) ∧
      (serverAfter meshAndHub).handleCommand plainPackages "client-0001"
        (peerMessage "client-0002") (calm ["star", "network"]) =
          some ((serverAfter meshAndHub).answer
            [.reply (.error "PEER_UNAVAILABLE" "peer is offline or endpoints hidden")]) := by
  have shared : (serverAfter meshAndHub).networks.sharedEndpointsFor "network" "client-0001"
      "client-0002" = some [("10.0.0.1", 1)] := by decide +kernel
  have hidden : (serverAfter meshAndHub).networks.sharedEndpointsFor "star" "client-0001"
      "client-0002" = none := by decide +kernel
  have visited : Server.Enumerates ["star", "network"]
      ((serverAfter meshAndHub).registry.networksFor "client-0001") := by decide +kernel
  have valid : validatePeerId plainPackages.text (peerMessage "client-0002").payload =
      .ok "client-0002" := rfl
  refine ⟨by decide +kernel, shared, visited, ?_, ?_⟩
  · rw [handleCommand_requestPeerConn rfl valid (by decide +kernel),
      show (calm ["network", "star"]).order = "network" :: ["star"] from rfl,
      lookupReply_first (by decide +kernel), shared]
    rfl
  · rw [handleCommand_requestPeerConn rfl valid visited,
      show (calm ["star", "network"]).order = "star" :: ["network"] from rfl,
      lookupReply_first (by decide +kernel), hidden]
    rfl

end LocalNetwork
