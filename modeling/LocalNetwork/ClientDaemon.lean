/-
This file models the tables of `ClientDaemon` in `client/main.py`: the virtual addresses and
networks of the peers, the topology managers, and the tunnels. The daemon hears of its peers
through PEER_ONLINE and PEER_OFFLINE events, which it handles one after the other; a peer may
be announced in several networks, and the tables are keyed by the peer.

Whether a tunnel comes up is decided by the environment, and between two events other tasks may
open and close tunnels. An exception in a handler is logged and the next event is handled.
-/

import LocalNetwork.TopologyManager
import LocalNetwork.Tunnel

namespace LocalNetwork

/-! ### Tunnels -/

/-- The tunnels of `TunnelManager`, each under the peer it leads to. -/
structure TunnelManager where
  tunnels : Dict String PeerTunnel
  keyed : tunnels.All fun peerId tunnel => tunnel.peerId = peerId

namespace TunnelManager

def getTunnel (manager : TunnelManager) (peerId : String) : Option PeerTunnel :=
  manager.tunnels.get? peerId

/-- Store a tunnel under its peer. -/
def store (manager : TunnelManager) (tunnel : PeerTunnel) : TunnelManager where
  tunnels := manager.tunnels.insert tunnel.peerId tunnel
  keyed := manager.keyed.insert rfl

/-- Send a CLOSE frame and remove a tunnel from the table; a sequence number that does not fit in
the frame raises before that. -/
def closeTunnel (manager : TunnelManager) (tunnel : PeerTunnel) :
    Except FrameException TunnelManager :=
  let closed : TunnelManager := ⟨manager.tunnels.erase tunnel.peerId, manager.keyed.erase _⟩
  match tunnel.socket, tunnel.remoteAddr with
  | some _, some _ => (makeCloseFrame tunnel.txSeq).map fun _ => closed
  | _, _ => .ok closed

end TunnelManager

/-! ### The daemon -/

structure ClientDaemon where
  clientId : String
  topologies : Dict String TopologyManager
  ipToPeer : Dict String String
  peerToIp : Dict String String
  peerNetworks : Dict String String
  /-- None until the daemon runs. -/
  tunnels : Option TunnelManager

namespace ClientDaemon

/-- A daemon that has just started, with the tunnels of its manager. -/
def start (clientId : String) (tunnels : Option TunnelManager) : ClientDaemon where
  clientId := clientId
  topologies := Dict.empty
  ipToPeer := Dict.empty
  peerToIp := Dict.empty
  peerNetworks := Dict.empty
  tunnels := tunnels

/-- The address that the configuration gives the daemon, or the default one. -/
def chosenIp (virtualIp : Option String) : String :=
  if virtualIp.getD "" = "" then "25.1.0.1" else virtualIp.getD ""

/-- Set up the interface: the daemon's own address enters the tables once the interface is up. -/
def setupTun (daemon : ClientDaemon) (virtualIp : Option String) (opened : Bool) : ClientDaemon :=
  if opened then
    { daemon with
      ipToPeer := daemon.ipToPeer.insert (chosenIp virtualIp) daemon.clientId
      peerToIp := daemon.peerToIp.insert daemon.clientId (chosenIp virtualIp) }
  else daemon

/-- The tunnel to a peer. -/
def tunnelTo (daemon : ClientDaemon) (peerId : String) : Option PeerTunnel :=
  daemon.tunnels.bind fun manager => manager.getTunnel peerId

/-- The topology manager of a network; one that is not known yet is taken for a mesh. -/
def topologyFor (daemon : ClientDaemon) (networkId : String) : Except ValueError TopologyManager :=
  match daemon.topologies.get? networkId with
  | some topology => .ok topology
  | none => createTopologyManager "mesh" (some "") (some "") false false

/-- Create a tunnel to a peer that has none; `created` is the tunnel that the attempt leaves in the
table, if it leaves one. -/
def createTunnelToPeer (daemon : ClientDaemon) (peerId : String) (peerIp : Option String)
    (created : Option PeerTunnel) : ClientDaemon :=
  match daemon.tunnels, created with
  | some manager, some tunnel =>
    if (manager.getTunnel peerId).isSome then daemon
    else { daemon with
      tunnels := some (manager.store { tunnel with peerId := peerId, peerIp := peerIp.getD "" }) }
  | _, _ => daemon

/-- The tables once a peer is online. -/
def enter (daemon : ClientDaemon) (peerId networkId : String) (peerIp : Option String) :
    ClientDaemon :=
  { daemon with
    peerToIp := daemon.peerToIp.insert peerId (peerIp.getD "")
    ipToPeer :=
      if peerIp.getD "" = "" then daemon.ipToPeer
      else daemon.ipToPeer.insert (peerIp.getD "") peerId
    peerNetworks := daemon.peerNetworks.insert peerId networkId }

def onPeerOnline (daemon : ClientDaemon) (peerId networkId : String) (peerIp : Option String)
    (created : Option PeerTunnel) : ClientDaemon :=
  if peerId = "" ∨ peerId = daemon.clientId then daemon
  else
    let entered := daemon.enter peerId networkId peerIp
    match entered.topologyFor networkId with
    | .error _ => entered
    | .ok topology =>
      let (connect, topology) := topology.onPeerOnline peerId peerIp
      let heard := { entered with topologies := entered.topologies.insert networkId topology }
      if connect then heard.createTunnelToPeer peerId peerIp created else heard

/-- The tables once a peer is gone. -/
def forget (daemon : ClientDaemon) (peerId : String) : ClientDaemon :=
  { daemon with
    peerToIp := daemon.peerToIp.erase peerId
    ipToPeer := daemon.ipToPeer.erase ((daemon.peerToIp.get? peerId).getD "")
    peerNetworks := daemon.peerNetworks.erase peerId }

/-- Close the tunnel to a peer, if there is one. -/
def closeTunnelTo (daemon : ClientDaemon) (peerId : String) : Except FrameException ClientDaemon :=
  match daemon.tunnels with
  | none => .ok daemon
  | some manager =>
    match manager.getTunnel peerId with
    | none => .ok daemon
    | some tunnel =>
      (manager.closeTunnel tunnel).map fun closed => { daemon with tunnels := some closed }

def onPeerOffline (daemon : ClientDaemon) (peerId networkId : String) : ClientDaemon :=
  if peerId = "" then daemon
  else
    match (daemon.forget peerId).closeTunnelTo peerId with
    | .error _ => daemon.forget peerId
    | .ok closed =>
      match closed.topologies.get? networkId with
      | none => closed
      | some topology =>
        { closed with
          topologies := closed.topologies.insert networkId (topology.onPeerOffline peerId).2 }

end ClientDaemon

/-- What happens to the tables: an event about a peer, or other tasks at work on the tunnels. -/
inductive DaemonEvent where
  | peerOnline (peerId networkId : String) (peerIp : Option String) (created : Option PeerTunnel)
  | peerOffline (peerId networkId : String)
  | otherTasks (tunnels : Option TunnelManager)

def ClientDaemon.handle (daemon : ClientDaemon) : DaemonEvent → ClientDaemon
  | .peerOnline peerId networkId peerIp created =>
    daemon.onPeerOnline peerId networkId peerIp created
  | .peerOffline peerId networkId => daemon.onPeerOffline peerId networkId
  | .otherTasks tunnels => { daemon with tunnels := tunnels }

/-! ### What the handlers do -/

namespace ClientDaemon

variable {daemon : ClientDaemon} {peerId networkId : String}

/-- Two daemons with the same entries for the peers. -/
structure SameTables (daemon other : ClientDaemon) : Prop where
  clientId : other.clientId = daemon.clientId
  ipToPeer : other.ipToPeer = daemon.ipToPeer
  peerToIp : other.peerToIp = daemon.peerToIp
  peerNetworks : other.peerNetworks = daemon.peerNetworks

/-- A peer that is announced enters the tables, and no tunnel is lost. -/
theorem onPeerOnline_spec (peerIp : Option String) (created : Option PeerTunnel)
    (named : peerId ≠ "") (other : peerId ≠ daemon.clientId) :
    SameTables (daemon.enter peerId networkId peerIp)
        (daemon.onPeerOnline peerId networkId peerIp created) ∧
      ∀ someone tunnel, daemon.tunnelTo someone = some tunnel →
        (daemon.onPeerOnline peerId networkId peerIp created).tunnelTo someone = some tunnel := by
  unfold onPeerOnline
  rw [if_neg (not_or.mpr ⟨named, other⟩)]
  simp only
  split
  · exact ⟨⟨rfl, rfl, rfl, rfl⟩, fun _ _ had => had⟩
  · split
    · simp only [createTunnelToPeer]
      split
      · rename_i manager tunnel has
        split
        · exact ⟨⟨rfl, rfl, rfl, rfl⟩, fun _ _ had => had⟩
        · rename_i absent
          refine ⟨⟨rfl, rfl, rfl, rfl⟩, fun someone old had => ?_⟩
          have held : daemon.tunnels = some manager := has
          simp only [tunnelTo, held, Option.bind_some] at had ⊢
          by_cases same : someone = peerId
          · rw [same] at had
            rw [had] at absent
            exact absurd rfl absent
          · exact (Dict.get?_insert_of_ne _ _ same).trans had
      · exact ⟨⟨rfl, rfl, rfl, rfl⟩, fun _ _ had => had⟩
    · exact ⟨⟨rfl, rfl, rfl, rfl⟩, fun _ _ had => had⟩

/-- Closing the tunnel to a peer leaves the tables and the other tunnels. -/
theorem closeTunnelTo_ok {closed : ClientDaemon} (done : daemon.closeTunnelTo peerId = .ok closed) :
    SameTables daemon closed ∧
      ∀ someone, someone ≠ peerId → closed.tunnelTo someone = daemon.tunnelTo someone := by
  unfold closeTunnelTo at done
  split at done
  · obtain rfl := Except.ok.inj done
    exact ⟨⟨rfl, rfl, rfl, rfl⟩, fun _ _ => rfl⟩
  · rename_i manager has
    split at done
    · obtain rfl := Except.ok.inj done
      exact ⟨⟨rfl, rfl, rfl, rfl⟩, fun _ _ => rfl⟩
    · rename_i tunnel stored
      have own : tunnel.peerId = peerId := manager.keyed peerId tunnel stored
      have closes : ∀ left, manager.closeTunnel tunnel = .ok left →
          left.tunnels = manager.tunnels.erase peerId := by
        intro left closing
        simp only [TunnelManager.closeTunnel] at closing
        split at closing
        · cases frame : makeCloseFrame tunnel.txSeq with
          | error exception =>
            rw [frame] at closing
            cases closing
          | ok bytes =>
            rw [frame] at closing
            obtain rfl := Except.ok.inj closing
            exact congrArg manager.tunnels.erase own
        · obtain rfl := Except.ok.inj closing
          exact congrArg manager.tunnels.erase own
      cases closing : manager.closeTunnel tunnel with
      | error exception =>
        rw [closing] at done
        cases done
      | ok left =>
        rw [closing] at done
        obtain rfl := Except.ok.inj done
        refine ⟨⟨rfl, rfl, rfl, rfl⟩, fun someone different => ?_⟩
        simp only [tunnelTo, has, Option.bind_some, TunnelManager.getTunnel, closes left closing]
        exact Dict.get?_erase_of_ne _ different

/-- A peer that goes leaves the tables, and no tunnel but its own is lost. -/
theorem onPeerOffline_spec (named : peerId ≠ "") :
    SameTables (daemon.forget peerId) (daemon.onPeerOffline peerId networkId) ∧
      ∀ someone, someone ≠ peerId →
        (daemon.onPeerOffline peerId networkId).tunnelTo someone = daemon.tunnelTo someone := by
  unfold onPeerOffline
  rw [if_neg named]
  split
  · exact ⟨⟨rfl, rfl, rfl, rfl⟩, fun _ _ => rfl⟩
  · rename_i closed done
    obtain ⟨tables, tunnels⟩ := closeTunnelTo_ok done
    split
    · exact ⟨tables, tunnels⟩
    · exact ⟨⟨tables.clientId, tables.ipToPeer, tables.peerToIp, tables.peerNetworks⟩, tunnels⟩

/-- What an event does: nothing, if it is ignored; its peer enters the tables, and no tunnel is
lost; its peer leaves the tables, and no tunnel but its own is lost; or other tasks had the
tunnels. -/
inductive HandleCase (daemon : ClientDaemon) : DaemonEvent → Prop
  | ignored (event : DaemonEvent) (same : daemon.handle event = daemon) : HandleCase daemon event
  | entered (peerId networkId : String) (peerIp : Option String) (created : Option PeerTunnel)
    (named : peerId ≠ "") (other : peerId ≠ daemon.clientId)
    (tables : SameTables (daemon.enter peerId networkId peerIp)
      (daemon.handle (.peerOnline peerId networkId peerIp created)))
    (kept : ∀ someone tunnel, daemon.tunnelTo someone = some tunnel →
      (daemon.handle (.peerOnline peerId networkId peerIp created)).tunnelTo someone =
        some tunnel) : HandleCase daemon (.peerOnline peerId networkId peerIp created)
  | left (peerId networkId : String) (named : peerId ≠ "")
    (tables : SameTables (daemon.forget peerId) (daemon.handle (.peerOffline peerId networkId)))
    (kept : ∀ someone, someone ≠ peerId →
      (daemon.handle (.peerOffline peerId networkId)).tunnelTo someone =
        daemon.tunnelTo someone) : HandleCase daemon (.peerOffline peerId networkId)
  | otherTasks (tunnels : Option TunnelManager) : HandleCase daemon (.otherTasks tunnels)

theorem handle_cases (daemon : ClientDaemon) (event : DaemonEvent) : HandleCase daemon event := by
  cases event with
  | peerOnline peerId networkId peerIp created =>
    by_cases ignored : peerId = "" ∨ peerId = daemon.clientId
    · exact .ignored _ (if_pos ignored)
    · obtain ⟨named, other⟩ := not_or.mp ignored
      obtain ⟨tables, kept⟩ := @onPeerOnline_spec daemon peerId networkId peerIp created named other
      exact .entered peerId networkId peerIp created named other tables kept
  | peerOffline peerId networkId =>
    by_cases unnamed : peerId = ""
    · exact .ignored _ (if_pos unnamed)
    · obtain ⟨tables, kept⟩ := @onPeerOffline_spec daemon peerId networkId unnamed
      exact .left peerId networkId unnamed tables kept
  | otherTasks tunnels => exact .otherTasks tunnels

end ClientDaemon

end LocalNetwork
