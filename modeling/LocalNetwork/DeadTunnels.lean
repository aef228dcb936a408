/-
This file models `ClientDaemon` together with its tunnel manager: PEER_ONLINE with the two
halves of `_create_tunnel_to_peer` around the request for the endpoints of the peer,
PEER_OFFLINE, and everything that other tasks do with the tunnels in between. The daemon
handles one event after the other; here several handlers may wait, which adds runs.

`_create_tunnel_to_peer` returns when the peer has an entry, without a look at the state of
the tunnel. A tunnel that dies as the entry of its peer, by a CLOSE frame or because
accepting it failed, stays there until the peer goes offline: closing and pruning remove
the entries they close, and pruning skips a dead tunnel. A dead tunnel never keeps the
daemon from connecting if and only if no tunnel dies as the entry of its peer.
-/

import LocalNetwork.ClientDaemon
import LocalNetwork.TunnelObjects

namespace LocalNetwork

/-- `alive` of a tunnel. -/
def PeerTunnel.alive (tunnel : PeerTunnel) : Bool :=
  tunnel.state = .punching ∨ tunnel.state = .connected

/-! ### The daemon and its manager -/

/-- What the daemon calls for a peer. -/
inductive DaemonCall where
  | requestPeerEndpoints (peerId : String)
  | createTunnel (peerId : String) (peerIp : Option String) (endpoints : List Addr)
  deriving DecidableEq

/-- A daemon that runs: its tables, its manager, the handlers that wait for the endpoints of a
peer, and the calls that were made. The tunnels are those of the manager, and not in the tables. -/
structure RunningDaemon where
  tables : ClientDaemon
  manager : TunnelObjects
  waiting : List (String × Option String)
  called : List DaemonCall

inductive RunningEvent where
  /-- PEER_ONLINE, up to the request for the endpoints. -/
  | peerOnline (peerId networkId : String) (peerIp : Option String)
  /-- The request returns, or raises; the rest is for the tunnel that may be created. -/
  | answered (peerId : String) (peerIp : Option String) (endpoints : Option (List Addr))
    (object : Nat) (ecdhPrivate : Bytes) (bound : Option Nat)
  | peerOffline (peerId networkId : String)
  /-- Other tasks have to do with a tunnel. -/
  | manager (event : ManagerEvent)

/-- The answer of the topology of a network to a peer that is online. -/
def ClientDaemon.saysConnect (daemon : ClientDaemon) (peerId networkId : String)
    (peerIp : Option String) : Bool :=
  match (daemon.enter peerId networkId peerIp).topologyFor networkId with
  | .error _ => false
  | .ok topology => (topology.onPeerOnline peerId peerIp).1

namespace RunningDaemon

/-- A daemon that has just started. -/
def start (clientId : String) (virtualIp : Option String) (opened : Bool) (staleTimeout : Time) :
    RunningDaemon where
  tables := (ClientDaemon.start clientId none).setupTun virtualIp opened
  manager := TunnelObjects.init staleTimeout
  waiting := []
  called := []

/-- `_create_tunnel_to_peer` up to the request. -/
def createTunnelToPeer (daemon : RunningDaemon) (peerId : String) (peerIp : Option String) :
    RunningDaemon :=
  if (daemon.manager.getTunnel peerId).isSome then daemon
  else { daemon with
    waiting := daemon.waiting ++ [(peerId, peerIp)]
    called := daemon.called ++ [.requestPeerEndpoints peerId] }

/-- `_on_peer_online` up to the request. -/
def onPeerOnline (daemon : RunningDaemon) (peerId networkId : String) (peerIp : Option String) :
    RunningDaemon :=
  let heard := { daemon with tables := daemon.tables.onPeerOnline peerId networkId peerIp none }
  if peerId = "" ∨ peerId = daemon.tables.clientId then daemon
  else if daemon.tables.saysConnect peerId networkId peerIp then
    heard.createTunnelToPeer peerId peerIp
  else heard

/-- `_on_peer_offline`. -/
def onPeerOffline (daemon : RunningDaemon) (peerId networkId : String) : RunningDaemon :=
  if peerId = "" then daemon
  else { daemon with
    tables := daemon.tables.onPeerOffline peerId networkId
    manager := (daemon.manager.tunnels.get? peerId).elim daemon.manager daemon.manager.close }

variable (agreement : KeyAgreement) (aead : AesGcm)

/-- The manager of a daemon has its control channel, so a punch that fails is answered by it. -/
def step (daemon : RunningDaemon) : RunningEvent → Option RunningDaemon
  | .peerOnline peerId networkId peerIp => some (daemon.onPeerOnline peerId networkId peerIp)
  | .answered peerId peerIp endpoints object ecdhPrivate bound =>
    if (peerId, peerIp) ∈ daemon.waiting then
      let resumed := { daemon with waiting := daemon.waiting.erase (peerId, peerIp) }
      if endpoints.getD [] = [] then some resumed
      else
        (resumed.manager.step agreement aead
          (.create peerId (peerIp.getD "") object ecdhPrivate bound)).map fun manager =>
            { resumed with
              manager
              called := resumed.called ++ [.createTunnel peerId peerIp (endpoints.getD [])] }
    else none
  | .peerOffline peerId networkId => some (daemon.onPeerOffline peerId networkId)
  | .manager (.punched _ _ _ none) => none
  | .manager event =>
    (daemon.manager.step agreement aead event).map fun manager => { daemon with manager }

/-- Handling PEER_ONLINE requests the endpoints of the peer, and whenever the request returns some,
whatever has happened meanwhile, a tunnel to the peer is created. -/
def Reconnects (daemon : RunningDaemon) (peerId networkId : String) (peerIp : Option String) :
    Prop :=
  ∃ handling, daemon.step agreement aead (.peerOnline peerId networkId peerIp) = some handling ∧
    (peerId, peerIp) ∈ handling.waiting ∧
    handling.called = daemon.called ++ [.requestPeerEndpoints peerId] ∧
    ∀ events later, runFrom (step agreement aead) handling events = some later →
      ∀ endpoints, endpoints ≠ [] → ∀ object ecdhPrivate bound created,
        later.step agreement aead
            (.answered peerId peerIp (some endpoints) object ecdhPrivate bound) = some created →
          created.called = later.called ++ [.createTunnel peerId peerIp endpoints]

/-- No dead tunnel keeps the daemon from connecting to a peer that its topology says to connect
to. -/
def NeverBlocked (daemon : RunningDaemon) : Prop :=
  ∀ peerId networkId peerIp, peerId ≠ "" → peerId ≠ daemon.tables.clientId →
    daemon.tables.saysConnect peerId networkId peerIp = true →
      (∀ tunnel, daemon.manager.getTunnel peerId = some tunnel → tunnel.alive = false) →
        daemon.Reconnects agreement aead peerId networkId peerIp

/-- The object is the entry of a peer that the daemon may connect to. -/
def IsEntry (daemon : RunningDaemon) (object : Nat) : Prop :=
  ∃ peerId, peerId ≠ "" ∧ peerId ≠ daemon.tables.clientId ∧
    daemon.manager.tunnels.get? peerId = some object

/-- The event is not the death of a tunnel that is the entry of its peer. -/
def SparesEntries (daemon : RunningDaemon) : RunningEvent → Prop
  | .manager (.frame object data _ _) =>
    frameType data = some frameClose → ¬ daemon.IsEntry object
  | .manager (.accepted object none _) => ¬ daemon.IsEntry object
  | _ => True

end RunningDaemon

/-! ### What keeps a tunnel alive -/

theorem connectTunnel_alive {agreement : KeyAgreement} {privateKey peerPubkey : Bytes}
    {tunnel after : PeerTunnel} {addr : Addr} {now : Time}
    (connected : connectTunnel agreement privateKey tunnel addr peerPubkey now = some after) :
    after.alive = true := by
  unfold connectTunnel at connected
  dsimp only at connected
  split at connected
  · split at connected
    · cases connected
    · obtain rfl := Option.some.inj connected
      rfl
  · obtain rfl := Option.some.inj connected
    rfl

theorem getD_alive {tunnel : PeerTunnel} {made : Option PeerTunnel} (alive : tunnel.alive = true)
    (each : ∀ after, made = some after → after.alive = true) :
    (made.getD tunnel).alive = true := by
  cases made with
  | none => exact alive
  | some after => exact each after rfl

/-- A punch that is answered by the control channel leaves a tunnel alive. -/
theorem PeerTunnel.punched_alive {agreement : KeyAgreement} {tunnel : PeerTunnel}
    (alive : tunnel.alive = true) (now : Time) (granted : Bool)
    (result : Option (Addr × Bytes)) :
    (tunnel.punched agreement now (some granted) result).alive = true := by
  cases result with
  | some reached => exact getD_alive alive fun _ => connectTunnel_alive
  | none =>
    refine getD_alive alive fun after fell => ?_
    cases granted with
    | false => cases fell
    | true =>
      obtain rfl := Option.some.inj fell
      rfl

theorem PeerTunnel.accepted_alive {agreement : KeyAgreement} {tunnel : PeerTunnel}
    (alive : tunnel.alive = true) (now : Time) (reached : Addr × Bytes) :
    (tunnel.accepted agreement now (some reached)).alive = true :=
  getD_alive alive fun _ => connectTunnel_alive

/-- A frame takes the life of a tunnel if it is a CLOSE frame. -/
theorem handleFrame_alive (aead : AesGcm) (tunnel : PeerTunnel) (data : Bytes) (addr : Addr)
    (now : Time) :
    (handleFrame aead tunnel data addr now).tunnel.alive =
      if frameType data = some frameClose then false else tunnel.alive := by
  rcases handleFrame_cases aead tunnel data addr now with
    ⟨header, payload, tag, unpacked, isData, after⟩ | after
  · have typed : frameType data = some frameData := by rw [frameType, unpacked]; exact isData ▸ rfl
    rw [after, typed, if_neg (by decide)]
    rfl
  · rw [after]
    split
    · rfl
    · rfl

/-! ### The topologies of the daemon -/

namespace ClientDaemon

/-- Every topology is a mesh. -/
def Meshes (daemon : ClientDaemon) : Prop :=
  daemon.topologies.All fun _ topology => ∃ mesh, topology = .mesh mesh

variable {daemon : ClientDaemon}

theorem Meshes.topologyFor (meshes : daemon.Meshes) (networkId : String) :
    ∃ mesh, daemon.topologyFor networkId = .ok (.mesh mesh) := by
  rw [ClientDaemon.topologyFor]
  cases stored : daemon.topologies.get? networkId with
  | none => exact ⟨_, rfl⟩
  | some topology =>
    obtain ⟨mesh, rfl⟩ := meshes networkId topology stored
    exact ⟨mesh, rfl⟩

/-- A daemon whose topologies are meshes connects to every peer. -/
theorem Meshes.saysConnect (meshes : daemon.Meshes) (peerId networkId : String)
    (peerIp : Option String) : daemon.saysConnect peerId networkId peerIp = true := by
  have entered : (daemon.enter peerId networkId peerIp).Meshes := meshes
  obtain ⟨mesh, found⟩ := entered.topologyFor networkId
  rw [ClientDaemon.saysConnect, found]
  rfl

theorem Meshes.onPeerOnline (meshes : daemon.Meshes) (peerId networkId : String)
    (peerIp : Option String) : (daemon.onPeerOnline peerId networkId peerIp none).Meshes := by
  have entered : (daemon.enter peerId networkId peerIp).Meshes := meshes
  obtain ⟨mesh, found⟩ := entered.topologyFor networkId
  rw [ClientDaemon.onPeerOnline]
  split
  · exact meshes
  · simp only [found]
    have same (heard : ClientDaemon) : heard.createTunnelToPeer peerId peerIp none = heard := by
      rw [createTunnelToPeer]
      intro _ _ _ made
      cases made
    rw [same, ite_self]
    exact entered.insert ⟨_, rfl⟩

theorem closeTunnelTo_topologies {peerId : String} {closed : ClientDaemon}
    (done : daemon.closeTunnelTo peerId = .ok closed) : closed.topologies = daemon.topologies := by
  rw [closeTunnelTo] at done
  split at done
  · exact Except.ok.inj done ▸ rfl
  · rename_i manager has
    split at done
    · exact Except.ok.inj done ▸ rfl
    · rename_i tunnel stored
      cases closing : manager.closeTunnel tunnel with
      | error exception =>
        rw [closing] at done
        cases done
      | ok left =>
        rw [closing] at done
        exact Except.ok.inj done ▸ rfl

theorem Meshes.onPeerOffline (meshes : daemon.Meshes) (peerId networkId : String) :
    (daemon.onPeerOffline peerId networkId).Meshes := by
  rw [ClientDaemon.onPeerOffline]
  split
  · exact meshes
  · split
    · exact meshes
    · rename_i closed done
      have closedMeshes : closed.Meshes := by
        rw [Meshes, closeTunnelTo_topologies done]
        exact meshes
      split
      · exact closedMeshes
      · rename_i topology stored
        obtain ⟨mesh, rfl⟩ := closedMeshes networkId topology stored
        exact closedMeshes.insert ⟨_, rfl⟩

end ClientDaemon

/-! ### The life of the entries -/

namespace TunnelObjects

/-- The tunnels of some peers are alive. -/
def EntriesAlive (counts : String → Prop) (manager : TunnelObjects) : Prop :=
  ∀ peerId tunnel, counts peerId → manager.getTunnel peerId = some tunnel → tunnel.alive = true

variable {counts : String → Prop} {manager after : TunnelObjects} {object : Nat}

theorem EntriesAlive.opened (alive : manager.EntriesAlive counts)
    (wellFormed : manager.WellFormed) {peerId : String} {tunnel : PeerTunnel}
    (lives : tunnel.alive = true) (new : manager.objects.get? object = none)
    (objects : after.objects = manager.objects.insert object tunnel)
    (tunnels : ∀ other, after.tunnels.get? other =
      if other = peerId then some object else manager.tunnels.get? other) :
    after.EntriesAlive counts := by
  intro other stored counted found
  rw [getTunnel_opened wellFormed new objects tunnels] at found
  split at found
  · exact Option.some.inj found ▸ lives
  · exact alive other stored counted found

theorem EntriesAlive.close (alive : manager.EntriesAlive counts)
    (wellFormed : manager.WellFormed) (object : Nat) :
    (manager.close object).EntriesAlive counts := by
  cases found : manager.objects.get? object with
  | none =>
    rw [TunnelObjects.close, found]
    exact alive
  | some tunnel =>
    intro other stored counted left
    rw [getTunnel_close wellFormed found] at left
    split at left
    · cases left
    · exact alive other stored counted left

/-- The entries stay alive in a step that does not take the life of one. -/
theorem EntriesAlive.step {agreement : KeyAgreement} {aead : AesGcm} {event : ManagerEvent}
    (alive : manager.EntriesAlive counts) (wellFormed : manager.WellFormed)
    (spares : ∀ object tunnel changed, event.Changes agreement aead object tunnel changed →
      tunnel.alive = true → changed.alive = true ∨
        ∀ peerId, counts peerId → manager.tunnels.get? peerId ≠ some object)
    (stepped : manager.step agreement aead event = some after) : after.EntriesAlive counts := by
  cases step_cases stepped with
  | creates peerId peerIp object socket ecdhPrivate new fresh =>
    exact alive.opened wellFormed rfl new rfl (create_entry peerIp ecdhPrivate)
  | unbound peerId peerIp object ecdhPrivate =>
    intro other stored counted left
    rw [getTunnel_forgot] at left
    split at left
    · cases left
    · exact alive other stored counted left
  | accepts peerId peerIp object socket ecdhPrivate new =>
    exact alive.opened wellFormed rfl new rfl fun other => Dict.get?_insert _ _ _ _
  | changes _ _ object tunnel changed how updates =>
    intro other stored counted left
    rw [getTunnel_updated updates] at left
    split at left
    · rename_i entry
      obtain rfl := Option.some.inj left
      have lives := alive other tunnel counted (getTunnel_eq other entry updates.found)
      exact (spares object tunnel changed how lives).resolve_right
        fun free => free other counted entry
    · exact alive other stored counted left
  | ends object => exact alive
  | closes object tunnel found => exact alive.close wellFormed object
  | prunes timeout now =>
    exact (prune_keeps (fun current object wellFormed _ alive => alive.close wellFormed object)
      wellFormed alive timeout now).2

end TunnelObjects

namespace RunningDaemon

/-- A peer that the daemon may connect to. -/
def Counts (daemon : RunningDaemon) (peerId : String) : Prop :=
  peerId ≠ "" ∧ peerId ≠ daemon.tables.clientId

/-- The daemon keeps its manager in order, its topologies are meshes, and the entries of the peers
that it may connect to are alive. -/
structure Lively (daemon : RunningDaemon) : Prop where
  wellFormed : daemon.manager.WellFormed
  meshes : daemon.tables.Meshes
  alive : daemon.manager.EntriesAlive daemon.Counts

theorem start_lively (clientId : String) (virtualIp : Option String) (opened : Bool)
    (staleTimeout : Time) : (start clientId virtualIp opened staleTimeout).Lively := by
  refine ⟨TunnelObjects.init_wellFormed staleTimeout, ?_, nofun⟩
  have same : (start clientId virtualIp opened staleTimeout).tables.topologies = Dict.empty := by
    cases opened <;> rfl
  rw [ClientDaemon.Meshes, same]
  exact Dict.all_empty

variable {agreement : KeyAgreement} {aead : AesGcm}

/-- The daemon connects to a peer that its topology says to connect to if and only if the peer has
no entry. -/
theorem reconnects_iff {daemon : RunningDaemon} {peerId networkId : String}
    {peerIp : Option String} (named : peerId ≠ "") (other : peerId ≠ daemon.tables.clientId)
    (connects : daemon.tables.saysConnect peerId networkId peerIp = true) :
    daemon.Reconnects agreement aead peerId networkId peerIp ↔
      daemon.manager.getTunnel peerId = none := by
  have handled : daemon.step agreement aead (.peerOnline peerId networkId peerIp) =
      some (({ daemon with
        tables := daemon.tables.onPeerOnline peerId networkId peerIp none } :
          RunningDaemon).createTunnelToPeer peerId peerIp) := by
    rw [step, onPeerOnline, if_neg (not_or.mpr ⟨named, other⟩), if_pos connects]
  constructor
  · rintro ⟨handling, stepped, -, called, -⟩
    rw [handled] at stepped
    obtain rfl := Option.some.inj stepped
    rw [createTunnelToPeer] at called
    split at called
    · exact absurd (congrArg List.length called) (by simp)
    · rename_i absent
      exact Option.not_isSome_iff_eq_none.mp absent
  · intro absent
    have free : ¬ (daemon.manager.getTunnel peerId).isSome = true := by rw [absent]; exact nofun
    refine ⟨_, handled, ?_, ?_, fun events later ran endpoints nonempty object key bound created
      stepped => ?_⟩
    · rw [createTunnelToPeer, if_neg free]
      simp
    · rw [createTunnelToPeer, if_neg free]
    · rw [step] at stepped
      split at stepped
      · simp only [Option.getD_some] at stepped
        rw [if_neg nonempty] at stepped
        obtain ⟨manager, -, rfl⟩ := Option.map_eq_some_iff.mp stepped
        rfl
      · cases stepped

theorem Lively.neverBlocked {daemon : RunningDaemon} (lively : daemon.Lively) :
    daemon.NeverBlocked agreement aead := by
  intro peerId networkId peerIp named other connects dead
  rw [reconnects_iff named other connects]
  cases stored : daemon.manager.getTunnel peerId with
  | none => rfl
  | some tunnel =>
    have alive := lively.alive peerId tunnel ⟨named, other⟩ stored
    rw [dead tunnel stored] at alive
    cases alive

/-- A dead entry blocks the daemon. -/
theorem NeverBlocked.alive {daemon : RunningDaemon} (never : daemon.NeverBlocked agreement aead)
    (meshes : daemon.tables.Meshes) {peerId : String} {tunnel : PeerTunnel} (named : peerId ≠ "")
    (other : peerId ≠ daemon.tables.clientId)
    (stored : daemon.manager.getTunnel peerId = some tunnel) : tunnel.alive = true := by
  refine Bool.of_not_eq_false fun dead => ?_
  have connects := meshes.saysConnect peerId "" none
  have reconnects := never peerId "" none named other connects fun found same => by
    obtain rfl := Option.some.inj (stored.symm.trans same)
    exact dead
  rw [reconnects_iff named other connects, stored] at reconnects
  cases reconnects

/-! ### Steps of the daemon -/

theorem clientId_onPeerOnline (tables : ClientDaemon) (peerId networkId : String)
    (peerIp : Option String) :
    (tables.onPeerOnline peerId networkId peerIp none).clientId = tables.clientId := by
  by_cases ignored : peerId = "" ∨ peerId = tables.clientId
  · rw [ClientDaemon.onPeerOnline, if_pos ignored]
  · obtain ⟨named, other⟩ := not_or.mp ignored
    exact (ClientDaemon.onPeerOnline_spec peerIp none named other).1.clientId

theorem clientId_onPeerOffline (tables : ClientDaemon) (peerId networkId : String) :
    (tables.onPeerOffline peerId networkId).clientId = tables.clientId := by
  by_cases named : peerId = ""
  · rw [ClientDaemon.onPeerOffline, if_pos named]
  · exact (ClientDaemon.onPeerOffline_spec named).1.clientId

theorem onPeerOnline_cases (daemon : RunningDaemon) (peerId networkId : String)
    (peerIp : Option String) :
    (daemon.onPeerOnline peerId networkId peerIp).manager = daemon.manager ∧
      ((daemon.onPeerOnline peerId networkId peerIp).tables = daemon.tables ∨
        (daemon.onPeerOnline peerId networkId peerIp).tables =
          daemon.tables.onPeerOnline peerId networkId peerIp none) := by
  rw [onPeerOnline]
  split
  · exact ⟨rfl, .inl rfl⟩
  · split
    · rw [createTunnelToPeer]
      split
      · exact ⟨rfl, .inr rfl⟩
      · exact ⟨rfl, .inr rfl⟩
    · exact ⟨rfl, .inr rfl⟩

theorem manager_step {daemon next : RunningDaemon} {event : ManagerEvent}
    (stepped : daemon.step agreement aead (.manager event) = some next) :
    daemon.manager.step agreement aead event = some next.manager ∧ next.tables = daemon.tables ∧
      ∀ object result now, event ≠ .punched object result now none := by
  by_cases unanswered : ∃ object result now, event = .punched object result now none
  · obtain ⟨object, result, now, rfl⟩ := unanswered
    cases stepped
  · have answered : ∀ object result now, event ≠ .punched object result now none :=
      fun object result now same => unanswered ⟨object, result, now, same⟩
    have same : daemon.step agreement aead (.manager event) =
        (daemon.manager.step agreement aead event).map
          fun manager => { daemon with manager } := by
      cases event with
      | punched object result now relay =>
        cases relay with
        | none => exact absurd rfl (answered object result now)
        | some granted => rfl
      | _ => rfl
    rw [same] at stepped
    obtain ⟨manager, taken, rfl⟩ := Option.map_eq_some_iff.mp stepped
    exact ⟨taken, rfl, answered⟩

/-- What an event of the manager changes stays alive, or was no entry. -/
theorem spares_of_sparesEntries {daemon : RunningDaemon} {event : ManagerEvent}
    (spares : daemon.SparesEntries (.manager event))
    (answered : ∀ object result now, event ≠ .punched object result now none)
    (object : Nat) (tunnel changed : PeerTunnel)
    (how : event.Changes agreement aead object tunnel changed) (alive : tunnel.alive = true) :
    changed.alive = true ∨
      ∀ peerId, daemon.Counts peerId → daemon.manager.tunnels.get? peerId ≠ some object := by
  have free (spared : ¬ daemon.IsEntry object) (peerId : String) (counted : daemon.Counts peerId) :
      daemon.manager.tunnels.get? peerId ≠ some object := fun entry =>
    spared ⟨peerId, counted.1, counted.2, entry⟩
  cases how with
  | punched _ _ result now relay =>
    cases relay with
    | none => exact absurd rfl (answered object result now)
    | some granted => exact .inl (PeerTunnel.punched_alive alive now granted result)
  | accepted _ _ result now =>
    cases result with
    | none => exact .inr (free spares)
    | some reached => exact .inl (PeerTunnel.accepted_alive alive now reached)
  | frame _ _ data addr now =>
    by_cases isClose : frameType data = some frameClose
    · exact .inr (free (spares isClose))
    · refine .inl ?_
      rw [handleFrame_alive, if_neg isClose]
      exact alive

/-- A step keeps the topologies meshes, and the daemon its name. -/
theorem tables_step {daemon next : RunningDaemon} {event : RunningEvent}
    (meshes : daemon.tables.Meshes) (stepped : daemon.step agreement aead event = some next) :
    next.tables.Meshes ∧ next.tables.clientId = daemon.tables.clientId := by
  cases event with
  | peerOnline peerId networkId peerIp =>
    obtain rfl := Option.some.inj stepped
    rcases (daemon.onPeerOnline_cases peerId networkId peerIp).2 with same | heard
    · rw [same]
      exact ⟨meshes, rfl⟩
    · rw [heard]
      exact ⟨meshes.onPeerOnline peerId networkId peerIp,
        clientId_onPeerOnline daemon.tables peerId networkId peerIp⟩
  | answered peerId peerIp endpoints object ecdhPrivate bound =>
    rw [step] at stepped
    split at stepped
    · dsimp only at stepped
      split at stepped
      · obtain rfl := Option.some.inj stepped
        exact ⟨meshes, rfl⟩
      · obtain ⟨manager, -, rfl⟩ := Option.map_eq_some_iff.mp stepped
        exact ⟨meshes, rfl⟩
    · cases stepped
  | peerOffline peerId networkId =>
    obtain rfl := Option.some.inj stepped
    rw [onPeerOffline]
    split
    · exact ⟨meshes, rfl⟩
    · exact ⟨meshes.onPeerOffline peerId networkId,
        clientId_onPeerOffline daemon.tables peerId networkId⟩
  | manager event =>
    rw [(manager_step stepped).2.1]
    exact ⟨meshes, rfl⟩

/-- A step that spares the entries keeps them alive. -/
theorem Lively.tunnels_step {daemon next : RunningDaemon} {event : RunningEvent}
    (lively : daemon.Lively) (spares : daemon.SparesEntries event)
    (stepped : daemon.step agreement aead event = some next) :
    next.manager.WellFormed ∧ next.manager.EntriesAlive daemon.Counts := by
  cases event with
  | peerOnline peerId networkId peerIp =>
    obtain rfl := Option.some.inj stepped
    rw [(daemon.onPeerOnline_cases peerId networkId peerIp).1]
    exact ⟨lively.wellFormed, lively.alive⟩
  | answered peerId peerIp endpoints object ecdhPrivate bound =>
    rw [RunningDaemon.step] at stepped
    split at stepped
    · dsimp only at stepped
      split at stepped
      · obtain rfl := Option.some.inj stepped
        exact ⟨lively.wellFormed, lively.alive⟩
      · obtain ⟨manager, created, rfl⟩ := Option.map_eq_some_iff.mp stepped
        exact ⟨(TunnelObjects.step_cases created).wellFormed lively.wellFormed,
          lively.alive.step lively.wellFormed (fun _ _ _ how => by cases how) created⟩
    · cases stepped
  | peerOffline peerId networkId =>
    obtain rfl := Option.some.inj stepped
    rw [onPeerOffline]
    split
    · exact ⟨lively.wellFormed, lively.alive⟩
    · dsimp only
      cases daemon.manager.tunnels.get? peerId with
      | none => exact ⟨lively.wellFormed, lively.alive⟩
      | some object =>
        exact ⟨lively.wellFormed.close object, lively.alive.close lively.wellFormed object⟩
  | manager event =>
    obtain ⟨taken, -, answered⟩ := manager_step stepped
    exact ⟨(TunnelObjects.step_cases taken).wellFormed lively.wellFormed,
      lively.alive.step lively.wellFormed (spares_of_sparesEntries spares answered) taken⟩

theorem Lively.step {daemon next : RunningDaemon} {event : RunningEvent} (lively : daemon.Lively)
    (spares : daemon.SparesEntries event)
    (stepped : daemon.step agreement aead event = some next) : next.Lively := by
  obtain ⟨meshes, clientId⟩ := tables_step lively.meshes stepped
  obtain ⟨wellFormed, alive⟩ := lively.tunnels_step spares stepped
  refine ⟨wellFormed, meshes, fun peerId tunnel counted stored => ?_⟩
  exact alive peerId tunnel ⟨counted.1, clientId ▸ counted.2⟩ stored

/-- A tunnel that dies in a step and leaves no dead entry was no entry. -/
theorem not_isEntry_of_dead {daemon next : RunningDaemon} {object : Nat}
    {tunnel changed : PeerTunnel}
    (updates : daemon.manager.Updates next.manager object tunnel changed)
    (dead : changed.alive = false) (alive : next.manager.EntriesAlive daemon.Counts) :
    ¬ daemon.IsEntry object := by
  rintro ⟨peerId, named, other, entry⟩
  have stored : next.manager.getTunnel peerId = some changed := by
    rw [TunnelObjects.getTunnel_updated updates, if_pos entry]
  have lives := alive peerId changed ⟨named, other⟩ stored
  rw [dead] at lives
  cases lives

theorem sparesEntries_of_alive {daemon next : RunningDaemon} {event : RunningEvent}
    (stepped : daemon.step agreement aead event = some next)
    (alive : next.manager.EntriesAlive daemon.Counts) : daemon.SparesEntries event := by
  unfold SparesEntries
  split
  · rename_i object data addr now
    intro isClose
    obtain ⟨tunnel, found, same⟩ := Option.map_eq_some_iff.mp (manager_step stepped).1
    have updates : daemon.manager.Updates next.manager object tunnel
        (handleFrame aead tunnel data addr now).tunnel := by
      rw [← same]
      exact ⟨found, rfl, rfl, rfl, rfl⟩
    refine not_isEntry_of_dead updates ?_ alive
    rw [handleFrame_alive, if_pos isClose]
  · rename_i object now
    have taken := (manager_step stepped).1
    rw [TunnelObjects.step] at taken
    split at taken
    · rename_i tunnel found called
      have updates : daemon.manager.Updates next.manager object tunnel
          (tunnel.accepted agreement now none) := by
        rw [← Option.some.inj taken]
        exact ⟨found, rfl, rfl, rfl, rfl⟩
      exact not_isEntry_of_dead updates rfl alive
    · cases taken
  · exact trivial

/-! ### Runs -/

/-- In no state that a run passes through does a dead tunnel keep the daemon from connecting, if and
only if in no step of the run a tunnel dies, by a CLOSE frame or because accepting it failed, that
is the entry of its peer. -/
theorem dead_tunnels_never_block_iff (agreement : KeyAgreement) (aead : AesGcm) (clientId : String)
    (virtualIp : Option String) (opened : Bool) (staleTimeout : Time) (events : List RunningEvent)
    (final : RunningDaemon)
    (ran : runFrom (step agreement aead) (start clientId virtualIp opened staleTimeout) events =
      some final) :
    (∀ before after reached, events = before ++ after →
      runFrom (step agreement aead) (start clientId virtualIp opened staleTimeout) before =
        some reached → reached.NeverBlocked agreement aead) ↔
      HoldsAlong (step agreement aead) SparesEntries
        (start clientId virtualIp opened staleTimeout) events := by
  have needed (daemon : RunningDaemon) (event : RunningEvent) (lively : daemon.Lively)
      (taken : ∃ next, daemon.step agreement aead event = some next)
      (never : ∀ next, daemon.step agreement aead event = some next →
        next.NeverBlocked agreement aead) : daemon.SparesEntries event := by
    obtain ⟨next, stepped⟩ := taken
    obtain ⟨meshes, sameId⟩ := tables_step lively.meshes stepped
    refine sparesEntries_of_alive stepped fun peerId tunnel counted stored => ?_
    exact (never next stepped).alive meshes counted.1 (fun same => counted.2 (same.trans sameId))
      stored
  exact safe_iff_holdsAlong (fun daemon lively => lively.neverBlocked)
    (fun daemon event next _ spares lively stepped => lively.step spares stepped)
    (fun daemon event taken lively never => needed daemon event lively taken.2 never)
    (holdsAlong_taken (holdsAlong_true events (start clientId virtualIp opened staleTimeout)) ran)
    (start_lively clientId virtualIp opened staleTimeout)

/-- A peer comes online and the tunnel to it is relayed. -/
def bobConnects : List RunningEvent :=
  [.peerOnline "bob" "home" (some "25.1.0.2"),
    .answered "bob" (some "25.1.0.2") (some [("10.0.0.2", 4000)]) 0 [1] (some 100),
    .manager (.punched 0 none 5 (some true))]

theorem dead_tunnels_never_block_bob :
    ∃ final, runFrom (step sumAgreement refusingAead) (start "alice" none false 90) bobConnects =
        some final ∧ final.NeverBlocked sumAgreement refusingAead :=
  ⟨_, rfl, (dead_tunnels_never_block_iff sumAgreement refusingAead "alice" none false 90
    bobConnects _ rfl).mpr
      ⟨trivial, fun _ _ => ⟨trivial, fun _ _ => ⟨trivial, fun _ _ => trivial⟩⟩⟩
      bobConnects [] _ (List.append_nil _).symm rfl⟩

/-- After a CLOSE frame of the peer, its next PEER_ONLINE requests nothing. -/
theorem dead_tunnel_blocks :
    ∃ final, runFrom (step sumAgreement refusingAead) (start "alice" none false 90)
        (bobConnects ++ [.manager (.frame 0 ((makeCloseFrame 0).toOption.getD [])
          ("10.0.0.2", 4000) 6)]) = some final ∧
      final.tables.saysConnect "bob" "home" (some "25.1.0.2") = true ∧
      (final.manager.getTunnel "bob").map PeerTunnel.alive = some false ∧
      (final.onPeerOnline "bob" "home" (some "25.1.0.2")).called = final.called ∧
      ¬ final.NeverBlocked sumAgreement refusingAead := by
  refine ⟨_, rfl, rfl, rfl, rfl, fun never => ?_⟩
  have reconnects := never "bob" "home" (some "25.1.0.2") (by decide) (by decide) rfl
    fun tunnel stored => by
      obtain rfl := Option.some.inj stored
      rfl
  have absent := (reconnects_iff (by decide) (by decide) rfl).mp reconnects
  cases absent

end RunningDaemon

end LocalNetwork
