/-
This file models `client/topology.py`: the strategy objects that decide, for each network, to
which peers a client opens tunnels. A client asks its manager when a peer comes online and
tells it when a peer goes offline; what the manager remembers of the peers never enters a
decision, only the topology, its hub or gateway, and the client's own role do.

A hub or gateway may be missing, since the server unsets it when that member leaves.
-/

import LocalNetwork.NetworkManager

namespace LocalNetwork

structure MeshTopology where
  peers : Dict String (Option String)

structure HubAndSpokeTopology where
  hubId : Option String
  isHub : Bool
  spokes : Dict String (Option String)

structure GatewayTopology where
  gatewayId : Option String
  isGateway : Bool
  peers : Dict String (Option String)
  arpTable : Dict String String

namespace MeshTopology

/-- Whether a tunnel should be created to a peer that came online: always. -/
def onPeerOnline (topology : MeshTopology) (peerId : String) (peerIp : Option String) :
    Bool × MeshTopology :=
  (true, { topology with peers := topology.peers.insert peerId peerIp })

/-- Whether the tunnel to a peer that went offline should be closed: always. -/
def onPeerOffline (topology : MeshTopology) (peerId : String) : Bool × MeshTopology :=
  (true, { topology with peers := topology.peers.erase peerId })

def getPeersToConnect (topology : MeshTopology) : Finset (Option String) :=
  (topology.peers.keys.map some).toFinset

end MeshTopology

namespace HubAndSpokeTopology

/-- The hub accepts all spokes; a spoke only connects to the hub. -/
def onPeerOnline (topology : HubAndSpokeTopology) (peerId : String) (peerIp : Option String) :
    Bool × HubAndSpokeTopology :=
  if topology.isHub then
    (true, { topology with spokes := topology.spokes.insert peerId peerIp })
  else (decide (topology.hubId = some peerId), topology)

def onPeerOffline (topology : HubAndSpokeTopology) (peerId : String) :
    Bool × HubAndSpokeTopology :=
  if topology.isHub then (true, { topology with spokes := topology.spokes.erase peerId })
  else (decide (topology.hubId = some peerId), topology)

/-- A spoke names its hub, whatever it heard of it. -/
def getPeersToConnect (topology : HubAndSpokeTopology) : Finset (Option String) :=
  if topology.isHub then (topology.spokes.keys.map some).toFinset else {topology.hubId}

end HubAndSpokeTopology

namespace GatewayTopology

/-- The gateway connects to all peers; the others only connect to the gateway. -/
def onPeerOnline (topology : GatewayTopology) (peerId : String) (peerIp : Option String) :
    Bool × GatewayTopology :=
  let seen := { topology with peers := topology.peers.insert peerId peerIp }
  if topology.isGateway then (true, seen)
  else (decide (topology.gatewayId = some peerId), seen)

def onPeerOffline (topology : GatewayTopology) (peerId : String) : Bool × GatewayTopology :=
  (true, { topology with
    peers := topology.peers.erase peerId
    arpTable := topology.arpTable.erase peerId })

def getPeersToConnect (topology : GatewayTopology) : Finset (Option String) :=
  if topology.isGateway then (topology.peers.keys.map some).toFinset else {topology.gatewayId}

end GatewayTopology

inductive TopologyManager where
  | mesh (topology : MeshTopology)
  | hubAndSpoke (topology : HubAndSpokeTopology)
  | gateway (topology : GatewayTopology)

/-- The manager of a network of a topology, by the name of the topology. -/
def createTopologyManager (topology : String) (hubClientId gatewayClientId : Option String)
    (isHub isGateway : Bool) : Except ValueError TopologyManager :=
  match topology with
  | "mesh" => .ok (.mesh ⟨Dict.empty⟩)
  | "hub_and_spoke" => .ok (.hubAndSpoke ⟨hubClientId, isHub, Dict.empty⟩)
  | "gateway" => .ok (.gateway ⟨gatewayClientId, isGateway, Dict.empty, Dict.empty⟩)
  | other => .error ⟨"unknown topology: " ++ other⟩

namespace TopologyManager

def onPeerOnline (manager : TopologyManager) (peerId : String) (peerIp : Option String) :
    Bool × TopologyManager :=
  match manager with
  | .mesh topology => (topology.onPeerOnline peerId peerIp).map id .mesh
  | .hubAndSpoke topology => (topology.onPeerOnline peerId peerIp).map id .hubAndSpoke
  | .gateway topology => (topology.onPeerOnline peerId peerIp).map id .gateway

def onPeerOffline (manager : TopologyManager) (peerId : String) : Bool × TopologyManager :=
  match manager with
  | .mesh topology => (topology.onPeerOffline peerId).map id .mesh
  | .hubAndSpoke topology => (topology.onPeerOffline peerId).map id .hubAndSpoke
  | .gateway topology => (topology.onPeerOffline peerId).map id .gateway

/-- The peers that should have tunnels. -/
def getPeersToConnect : TopologyManager → Finset (Option String)
  | .mesh topology => topology.getPeersToConnect
  | .hubAndSpoke topology => topology.getPeersToConnect
  | .gateway topology => topology.getPeersToConnect

/-- What a client hears of its peers in a network. -/
inductive PeerEvent where
  | online (peerId : String) (peerIp : Option String)
  | offline (peerId : String)

/-- The manager after an event. -/
def hear (manager : TopologyManager) : PeerEvent → TopologyManager
  | .online peerId peerIp => (manager.onPeerOnline peerId peerIp).2
  | .offline peerId => (manager.onPeerOffline peerId).2

/-- Whether the manager lets its client connect to a peer. -/
def connects (manager : TopologyManager) (peerId : String) : Bool :=
  match manager with
  | .mesh _ => true
  | .hubAndSpoke topology => topology.isHub || decide (topology.hubId = some peerId)
  | .gateway topology => topology.isGateway || decide (topology.gatewayId = some peerId)

theorem onPeerOnline_fst (manager : TopologyManager) (peerId : String) (peerIp : Option String) :
    (manager.onPeerOnline peerId peerIp).1 = manager.connects peerId := by
  cases manager with
  | mesh topology => rfl
  | hubAndSpoke topology =>
    obtain ⟨hubId, isHub, spokes⟩ := topology
    cases isHub <;> rfl
  | gateway topology =>
    obtain ⟨gatewayId, isGateway, peers, arpTable⟩ := topology
    cases isGateway <;> rfl

/-- What a client hears changes no decision. -/
theorem connects_hear (manager : TopologyManager) (event : PeerEvent) (peerId : String) :
    (manager.hear event).connects peerId = manager.connects peerId := by
  cases manager with
  | mesh topology => cases event <;> rfl
  | hubAndSpoke topology =>
    obtain ⟨hubId, isHub, spokes⟩ := topology
    cases event <;> cases isHub <;> rfl
  | gateway topology =>
    obtain ⟨gatewayId, isGateway, peers, arpTable⟩ := topology
    cases event <;> cases isGateway <;> rfl

theorem connects_foldl_hear (events : List PeerEvent) (manager : TopologyManager)
    (peerId : String) :
    (events.foldl hear manager).connects peerId = manager.connects peerId := by
  induction events generalizing manager with
  | nil => rfl
  | cons event rest inductionHypothesis =>
    rw [List.foldl_cons, inductionHypothesis, connects_hear]

end TopologyManager

end LocalNetwork
