/-
This file compares the three statements of who may connect to whom in a network. The server
lists the peers of a member, it decides whose endpoint it shares with whom, and the client
decides to whom it opens a tunnel.

The list ignores the topology; the server shares the endpoints of all members of a gateway
network, where the clients connect to the gateway only; and in a network with a hub it shares
the hub's endpoint only, where the hub's client connects to every spoke.
-/

import LocalNetwork.PeerLookup
import LocalNetwork.TopologyManager

namespace LocalNetwork

/-- The online members of a network other than a client, in the order in which the set of members
is visited. -/
def NetworkManager.getPeers (manager : NetworkManager) (order : List String)
    (networkId clientId : String) : List ClientRecord :=
  match manager.get networkId with
  | none => []
  | some _ => (order.filter fun memberId => decide (memberId ≠ clientId)).filterMap fun memberId =>
      (manager.registry.get memberId).filter ClientRecord.online

/-- The manager that a client builds for a network. -/
def NetworkRecord.topologyManager (record : NetworkRecord) (clientId : String) :
    Except ValueError TopologyManager :=
  createTopologyManager record.topology.toString record.hubId record.gatewayId
    (decide (record.hubId = some clientId)) (decide (record.gatewayId = some clientId))

/-- The manager that a client built for a network, after what it has heard since, lets the client
open a tunnel to a peer that comes online. -/
def OpensTunnel (record : NetworkRecord) (heard : List TopologyManager.PeerEvent)
    (clientId peerId : String) (peerIp : Option String) : Prop :=
  ∃ manager, record.topologyManager clientId = .ok manager ∧
    ((heard.foldl TopologyManager.hear manager).onPeerOnline peerId peerIp).1 = true

/-- A network in which the three rules agree on two members: it has no hub or gateway; or the peer is
its hub; or one of the two is its gateway. -/
def RolesAgree (record : NetworkRecord) (clientId peerId : String) : Prop :=
  match record.topology with
  | .mesh => True
  | .hubAndSpoke => record.hubId = some peerId
  | .gateway => record.gatewayId = some clientId ∨ record.gatewayId = some peerId

section

variable {manager : NetworkManager} {networkId clientId peerId : String} {record : NetworkRecord}

/-- The list of peers has every online member but the client itself. -/
theorem mem_getPeers {order : List String} {peer : ClientRecord} (keyed : manager.registry.Keyed)
    (found : manager.get networkId = some record)
    (visited : Server.Enumerates order record.members) (different : clientId ≠ peerId)
    (member : peerId ∈ record.members) (stored : manager.registry.get peerId = some peer)
    (online : peer.online = true) :
    peerId ∈ (manager.getPeers order networkId clientId).map ClientRecord.clientId := by
  simp only [NetworkManager.getPeers, found]
  refine List.mem_map.mpr ⟨peer, List.mem_filterMap.mpr ⟨peerId, ?_, ?_⟩, keyed peerId peer stored⟩
  · exact List.mem_filter.mpr ⟨(mem_order_iff visited).mpr member,
      decide_eq_true (Ne.symm different)⟩
  · rw [stored, Option.filter_some, if_pos online]

theorem opensTunnel_iff {heard : List TopologyManager.PeerEvent} {peerIp : Option String} :
    OpensTunnel record heard clientId peerId peerIp ↔
      match record.topology with
      | .mesh => True
      | .hubAndSpoke => record.hubId = some clientId ∨ record.hubId = some peerId
      | .gateway => record.gatewayId = some clientId ∨ record.gatewayId = some peerId := by
  simp only [OpensTunnel, TopologyManager.onPeerOnline_fst, TopologyManager.connects_foldl_hear,
    NetworkRecord.topologyManager]
  cases record.topology with
  | mesh => simp [createTopologyManager, Topology.toString, TopologyManager.connects]
  | hubAndSpoke => simp [createTopologyManager, Topology.toString, TopologyManager.connects]
  | gateway => simp [createTopologyManager, Topology.toString, TopologyManager.connects]

end

/-- In every state that the server reaches, for two members of a network of which the second is
online at a known endpoint, the three rules agree on whether the first may connect to it if and only
if their roles in the network say so: the list of peers has it, the server shares its endpoint, and
the client opens a tunnel to it. -/
theorem topology_rules_agree_iff (packages : Packages) (maxClients : Nat)
    (heartbeatTimeout ttl : Time) (maxAttempts : Int) (bannedNetworks : Finset String)
    (events : List ServerEvent) (server : Server)
    (ran : runFrom (Server.step packages)
      (Server.init maxClients heartbeatTimeout ttl maxAttempts bannedNetworks) events =
        some server)
    (networkId clientId peerId : String) (record : NetworkRecord) (peer : ClientRecord)
    (found : server.networks.get networkId = some record) (different : clientId ≠ peerId)
    (member : clientId ∈ record.members) (peerMember : peerId ∈ record.members)
    (stored : server.registry.get peerId = some peer) (online : peer.online = true)
    (located : peer.publicEndpoint ≠ none) (order : List String)
    (visited : Server.Enumerates order record.members)
    (heard : List TopologyManager.PeerEvent) (peerIp : Option String) :
    ((peerId ∈ (server.networks.getPeers order networkId clientId).map ClientRecord.clientId ↔
        server.networks.sharedEndpointsFor networkId clientId peerId ≠ none) ∧
      (server.networks.sharedEndpointsFor networkId clientId peerId ≠ none ↔
        OpensTunnel record heard clientId peerId peerIp)) ↔
      RolesAgree record clientId peerId := by
  have listed := mem_getPeers (networksKept_run ran).keyed found visited different peerMember stored
    online
  have shared : server.networks.sharedEndpointsFor networkId clientId peerId ≠ none ↔
      (record.topology = .hubAndSpoke → record.hubId = some peerId) := by
    obtain ⟨endpoint, locatedAt⟩ := Option.ne_none_iff_exists'.mp located
    rw [Option.ne_none_iff_exists']
    constructor
    · rintro ⟨endpoints, answered⟩
      obtain ⟨same, target, endpoint, foundSame, shares, -⟩ :=
        NetworkManager.sharedEndpointsFor_iff.mp answered
      obtain rfl := Option.some.inj (found.symm.trans foundSame)
      exact shares.visible
    · intro visible
      exact ⟨[endpoint], NetworkManager.sharedEndpointsFor_iff.mpr ⟨record, peer, endpoint, found,
        ⟨different, member, peerMember, stored, online, locatedAt, visible⟩, rfl⟩⟩
  rw [shared, opensTunnel_iff, RolesAgree]
  cases record.topology with
  | mesh => simp [listed]
  | hubAndSpoke =>
    simp only [listed, true_iff, forall_const]
    tauto
  | gateway => simp [listed]

/-- Three clients log in; the first creates a network with itself as hub, and the others join. -/
def threeInStar : List ServerEvent :=
  login 0 "client-0001" [] ++ login 1 "client-0002" [] ++ login 2 "client-0003" [] ++
    [.receive 0 ⟨"CREATE_NETWORK", payloadOf [("name", "home"), ("password", "secret"),
      ("topology", "hub_and_spoke")]⟩ (calm []),
    .receive 1 (joinMessage "network" "secret") (calm []),
    .receive 2 (joinMessage "network" "secret") (calm [])]

def starOrder : List String := ["client-0003", "client-0001", "client-0002"]

theorem topology_rules_agree_iff_hub :
    ∃ record, (serverAfter threeInStar).networks.get "network" = some record ∧
      ((("client-0001" ∈ ((serverAfter threeInStar).networks.getPeers starOrder "network"
            "client-0002").map ClientRecord.clientId ↔
          (serverAfter threeInStar).networks.sharedEndpointsFor "network" "client-0002"
            "client-0001" ≠ none) ∧
        ((serverAfter threeInStar).networks.sharedEndpointsFor "network" "client-0002"
            "client-0001" ≠ none ↔
          OpensTunnel record [] "client-0002" "client-0001" none)) ↔
      RolesAgree record "client-0002" "client-0001") := by
  have ran := runFrom_serverAfter
    (show (runFrom (Server.step plainPackages) exampleServer threeInStar).isSome = true by
      decide +kernel)
  have network : ((serverAfter threeInStar).networks.get "network").any (fun record =>
      decide ("client-0002" ∈ record.members ∧ "client-0001" ∈ record.members ∧
        Server.Enumerates starOrder record.members)) = true := by decide +kernel
  have hub : ((serverAfter threeInStar).registry.get "client-0001").any (fun peer =>
      decide (peer.online = true ∧ peer.publicEndpoint ≠ none)) = true := by decide +kernel
  obtain ⟨record, found, holds⟩ := (Option.any_eq_true _ _).mp network
  obtain ⟨member, hubMember, visited⟩ := of_decide_eq_true holds
  obtain ⟨peer, stored, reachable⟩ := (Option.any_eq_true _ _).mp hub
  obtain ⟨online, located⟩ := of_decide_eq_true reachable
  exact ⟨record, found, topology_rules_agree_iff plainPackages 8 90 60 5 ∅ threeInStar _ ran
    "network" "client-0002" "client-0001" record peer found (by decide) member hubMember stored
    online located starOrder visited [] none⟩

/-- A spoke is listed among the peers of another spoke, whose endpoint the server does not share and
to whom the client opens no tunnel. -/
theorem spokes_listed_as_peers :
    (runFrom (Server.step plainPackages) exampleServer threeInStar).isSome = true ∧
      ∃ record, (serverAfter threeInStar).networks.get "network" = some record ∧
        Server.Enumerates starOrder record.members ∧
        "client-0003" ∈ ((serverAfter threeInStar).networks.getPeers starOrder "network"
          "client-0002").map ClientRecord.clientId ∧
        (serverAfter threeInStar).networks.sharedEndpointsFor "network" "client-0002"
          "client-0003" = none ∧
        ¬ OpensTunnel record [] "client-0002" "client-0003" none := by
  have network : ((serverAfter threeInStar).networks.get "network").any (fun record =>
      decide (Server.Enumerates starOrder record.members ∧ record.topology = .hubAndSpoke ∧
        record.hubId = some "client-0001")) = true := by decide +kernel
  obtain ⟨record, found, holds⟩ := (Option.any_eq_true _ _).mp network
  obtain ⟨visited, star, hub⟩ := of_decide_eq_true holds
  refine ⟨by decide +kernel, record, found, visited, by decide +kernel, by decide +kernel, ?_⟩
  rw [opensTunnel_iff, star, hub]
  show ¬ (some "client-0001" = some "client-0002" ∨ some "client-0001" = some "client-0003")
  decide

end LocalNetwork
