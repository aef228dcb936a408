/-
This file models `TunnelManager` of `client/tunnel_manager.py` with its tunnels as objects.
The table of the manager maps a peer to an object, but whoever created or looked up a tunnel
keeps the object, and so do the calls of `create_tunnel` and `accept_tunnel` that wait for a
punch: an object may change after its entry was replaced or removed.

A socket is owned from when the manager bound it or was handed it. The steps are the two
calls up to their punch, the end of a punch, a frame, `close_tunnel` and `prune_stale`; no
packets are sent, so the sequence numbers of the tunnels stay 0 and a CLOSE frame can always
be packed.
-/

import LocalNetwork.HolePunch
import LocalNetwork.Dict
import LocalNetwork.Transition
import Mathlib.Data.Finset.Insert

namespace LocalNetwork

/-- A call that waits for the punch of its tunnel. -/
inductive TunnelCall where
  | creates
  | accepts
  deriving DecidableEq

structure TunnelObjects where
  staleTimeout : Time
  objects : Dict Nat PeerTunnel
  /-- The object under each peer. -/
  tunnels : Dict String Nat
  calls : Dict Nat TunnelCall
  owned : Finset Nat
  closed : Finset Nat

inductive ManagerEvent where
  /-- `create_tunnel` up to its punch; `bound` is the socket, none where binding raises. -/
  | create (peerId peerIp : String) (object : Nat) (ecdhPrivate : Bytes) (bound : Option Nat)
  /-- `accept_tunnel` up to its punch. -/
  | accept (peerId peerIp : String) (object socket : Nat) (ecdhPrivate : Bytes)
  /-- The rest of `create_tunnel`; `relay` is the answer of the control channel to a request. -/
  | punched (object : Nat) (result : Option (Addr × Bytes)) (now : Time) (relay : Option Bool)
  /-- The rest of `accept_tunnel`. -/
  | accepted (object : Nat) (result : Option (Addr × Bytes)) (now : Time)
  /-- A call ends with an exception of its punch. -/
  | raised (object : Nat)
  | frame (object : Nat) (data : Bytes) (addr : Addr) (now : Time)
  | close (object : Nat)
  | prune (timeout : Option Time) (now : Time)

/-! ### The end of a punch -/

section

variable (agreement : KeyAgreement)

/-- A tunnel after the punch of `create_tunnel`; an exception leaves it as it was. -/
def PeerTunnel.punched (tunnel : PeerTunnel) (now : Time) (relay : Option Bool) :
    Option (Addr × Bytes) → PeerTunnel
  | some (addr, peerPubkey) =>
    (connectTunnel agreement (tunnel.ecdhPrivate.getD []) tunnel addr peerPubkey now).getD tunnel
  | none => (fallBack tunnel now relay).getD tunnel

/-- A tunnel after the punch of `accept_tunnel`. -/
def PeerTunnel.accepted (tunnel : PeerTunnel) (now : Time) :
    Option (Addr × Bytes) → PeerTunnel
  | some (addr, peerPubkey) =>
    (connectTunnel agreement (tunnel.ecdhPrivate.getD []) tunnel addr peerPubkey now).getD tunnel
  | none => { tunnel with state := .failed }

end

/-! ### The manager -/

namespace TunnelObjects

def init (staleTimeout : Time) : TunnelObjects :=
  ⟨staleTimeout, Dict.empty, Dict.empty, Dict.empty, ∅, ∅⟩

/-- `get_tunnel`. -/
def getTunnel (manager : TunnelObjects) (peerId : String) : Option PeerTunnel :=
  (manager.tunnels.get? peerId).bind manager.objects.get?

/-- The previous entry of the peer is removed before the socket is bound. -/
def create (manager : TunnelObjects) (peerId peerIp : String) (object : Nat)
    (ecdhPrivate : Bytes) : Option Nat → TunnelObjects
  | none => { manager with tunnels := manager.tunnels.erase peerId }
  | some socket =>
    { manager with
      objects := manager.objects.insert object
        (PeerTunnel.new peerId peerIp .punching (some socket) (some ecdhPrivate))
      tunnels := (manager.tunnels.erase peerId).insert peerId object
      calls := manager.calls.insert object .creates
      owned := insert socket manager.owned }

def accept (manager : TunnelObjects) (peerId peerIp : String) (object socket : Nat)
    (ecdhPrivate : Bytes) : TunnelObjects :=
  { manager with
    objects := manager.objects.insert object
      (PeerTunnel.new peerId peerIp .punching (some socket) (some ecdhPrivate))
    tunnels := manager.tunnels.insert peerId object
    calls := manager.calls.insert object .accepts
    owned := insert socket manager.owned }

/-- `close_tunnel`: it removes whatever entry the peer of the tunnel has. -/
def close (manager : TunnelObjects) (object : Nat) : TunnelObjects :=
  match manager.objects.get? object with
  | none => manager
  | some tunnel =>
    { manager with
      objects := manager.objects.insert object (closeTunnel tunnel).1
      tunnels := manager.tunnels.erase tunnel.peerId
      closed := tunnel.socket.elim manager.closed fun socket => insert socket manager.closed }

/-- A tunnel that is up and has been silent for too long. -/
def isStale (limit now : Time) (tunnel : PeerTunnel) : Bool :=
  tunnel.state = .connected ∧ 0 < tunnel.lastRx ∧ limit < now - tunnel.lastRx

/-- `prune_stale`. -/
def prune (manager : TunnelObjects) (timeout : Option Time) (now : Time) : TunnelObjects :=
  let limit := if timeout.getD 0 = 0 then manager.staleTimeout else timeout.getD 0
  manager.tunnels.values.foldl (fun current object =>
    if (current.objects.get? object).any (isStale limit now) then current.close object
    else current) manager

/-- `shutdown`. -/
def shutdown (manager : TunnelObjects) : TunnelObjects :=
  { manager.tunnels.values.foldl close manager with tunnels := Dict.empty }

variable (agreement : KeyAgreement) (aead : AesGcm)

/-- An object that is new has a number that is, and so has a socket that is bound. -/
def step (manager : TunnelObjects) : ManagerEvent → Option TunnelObjects
  | .create peerId peerIp object ecdhPrivate bound =>
    if manager.objects.contains object ∨ bound.any (· ∈ manager.owned) then none
    else some (manager.create peerId peerIp object ecdhPrivate bound)
  | .accept peerId peerIp object socket ecdhPrivate =>
    if manager.objects.contains object then none
    else some (manager.accept peerId peerIp object socket ecdhPrivate)
  | .punched object result now relay =>
    match manager.objects.get? object, manager.calls.get? object with
    | some tunnel, some .creates =>
      some { manager with
        objects := manager.objects.insert object (tunnel.punched agreement now relay result)
        calls := manager.calls.erase object }
    | _, _ => none
  | .accepted object result now =>
    match manager.objects.get? object, manager.calls.get? object with
    | some tunnel, some .accepts =>
      some { manager with
        objects := manager.objects.insert object (tunnel.accepted agreement now result)
        calls := manager.calls.erase object }
    | _, _ => none
  | .raised object =>
    (manager.calls.get? object).map fun _ =>
      { manager with calls := manager.calls.erase object }
  | .frame object data addr now =>
    (manager.objects.get? object).map fun tunnel =>
      { manager with
        objects := manager.objects.insert object (handleFrame aead tunnel data addr now).tunnel }
  | .close object => (manager.objects.get? object).map fun _ => manager.close object
  | .prune timeout now => some (manager.prune timeout now)

end TunnelObjects

/-! ### What stays the same in a tunnel -/

/-- A tunnel to the same peer with the same socket and sequence number. -/
structure PeerTunnel.SameSocket (tunnel after : PeerTunnel) : Prop where
  peerId : after.peerId = tunnel.peerId
  socket : after.socket = tunnel.socket
  txSeq : after.txSeq = tunnel.txSeq

theorem connectTunnel_sameSocket {agreement : KeyAgreement} {privateKey peerPubkey : Bytes}
    {tunnel after : PeerTunnel} {addr : Addr} {now : Time}
    (connected : connectTunnel agreement privateKey tunnel addr peerPubkey now = some after) :
    tunnel.SameSocket after := by
  unfold connectTunnel at connected
  dsimp only at connected
  split at connected
  · split at connected
    · cases connected
    · obtain rfl := Option.some.inj connected
      exact ⟨rfl, rfl, rfl⟩
  · obtain rfl := Option.some.inj connected
    exact ⟨rfl, rfl, rfl⟩

theorem fallBack_sameSocket {tunnel after : PeerTunnel} {now : Time} {relay : Option Bool}
    (fell : fallBack tunnel now relay = some after) : tunnel.SameSocket after := by
  match relay with
  | none =>
    obtain rfl := Option.some.inj fell
    exact ⟨rfl, rfl, rfl⟩
  | some false => cases fell
  | some true =>
    obtain rfl := Option.some.inj fell
    exact ⟨rfl, rfl, rfl⟩

theorem getD_sameSocket {tunnel : PeerTunnel} {made : Option PeerTunnel}
    (same : ∀ after, made = some after → tunnel.SameSocket after) :
    tunnel.SameSocket (made.getD tunnel) := by
  cases made with
  | none => exact ⟨rfl, rfl, rfl⟩
  | some after => exact same after rfl

theorem PeerTunnel.punched_sameSocket (agreement : KeyAgreement) (tunnel : PeerTunnel)
    (now : Time) (relay : Option Bool) (result : Option (Addr × Bytes)) :
    tunnel.SameSocket (tunnel.punched agreement now relay result) := by
  cases result with
  | none => exact getD_sameSocket fun after => fallBack_sameSocket
  | some reached => exact getD_sameSocket fun after => connectTunnel_sameSocket

theorem PeerTunnel.accepted_sameSocket (agreement : KeyAgreement) (tunnel : PeerTunnel)
    (now : Time) (result : Option (Addr × Bytes)) :
    tunnel.SameSocket (tunnel.accepted agreement now result) := by
  cases result with
  | none => exact ⟨rfl, rfl, rfl⟩
  | some reached => exact getD_sameSocket fun after => connectTunnel_sameSocket

theorem handleFrame_sameSocket (aead : AesGcm) (tunnel : PeerTunnel) (data : Bytes) (addr : Addr)
    (now : Time) : tunnel.SameSocket (handleFrame aead tunnel data addr now).tunnel := by
  rcases handleFrame_cases aead tunnel data addr now with ⟨_, _, _, _, _, after⟩ | after
  · rw [after]
    exact ⟨rfl, rfl, rfl⟩
  · rw [after]
    exact ⟨rfl, rfl, rfl⟩

/-! ### What a step does -/

/-- How an event changes a tunnel. -/
inductive ManagerEvent.Changes (agreement : KeyAgreement) (aead : AesGcm) :
    ManagerEvent → Nat → PeerTunnel → PeerTunnel → Prop
  | punched (object : Nat) (tunnel : PeerTunnel) (result : Option (Addr × Bytes)) (now : Time)
    (relay : Option Bool) : Changes agreement aead (.punched object result now relay) object tunnel
      (tunnel.punched agreement now relay result)
  | accepted (object : Nat) (tunnel : PeerTunnel) (result : Option (Addr × Bytes)) (now : Time) :
    Changes agreement aead (.accepted object result now) object tunnel
      (tunnel.accepted agreement now result)
  | frame (object : Nat) (tunnel : PeerTunnel) (data : Bytes) (addr : Addr) (now : Time) :
    Changes agreement aead (.frame object data addr now) object tunnel
      (handleFrame aead tunnel data addr now).tunnel

theorem ManagerEvent.Changes.sameSocket {agreement : KeyAgreement} {aead : AesGcm}
    {event : ManagerEvent} {object : Nat} {tunnel changed : PeerTunnel}
    (changes : event.Changes agreement aead object tunnel changed) :
    tunnel.SameSocket changed := by
  cases changes with
  | punched _ _ result now relay => exact tunnel.punched_sameSocket agreement now relay result
  | accepted _ _ result now => exact tunnel.accepted_sameSocket agreement now result
  | frame _ _ data addr now => exact handleFrame_sameSocket aead tunnel data addr now

namespace TunnelObjects

/-- A manager that differs in an object, and in the calls that wait. -/
structure Updates (manager after : TunnelObjects) (object : Nat) (tunnel changed : PeerTunnel) :
    Prop where
  found : manager.objects.get? object = some tunnel
  objects : after.objects = manager.objects.insert object changed
  tunnels : after.tunnels = manager.tunnels
  owned : after.owned = manager.owned
  closed : after.closed = manager.closed

/-- What an event does: a tunnel is created or accepted, or its socket could not be bound; a
tunnel changes; a call ends; a tunnel is closed; or the stale ones are. -/
inductive StepCase (agreement : KeyAgreement) (aead : AesGcm) (manager : TunnelObjects) :
    ManagerEvent → TunnelObjects → Prop
  | creates (peerId peerIp : String) (object socket : Nat) (ecdhPrivate : Bytes)
    (new : manager.objects.get? object = none) (fresh : socket ∉ manager.owned) :
    StepCase agreement aead manager (.create peerId peerIp object ecdhPrivate (some socket))
      (manager.create peerId peerIp object ecdhPrivate (some socket))
  | unbound (peerId peerIp : String) (object : Nat) (ecdhPrivate : Bytes) :
    StepCase agreement aead manager (.create peerId peerIp object ecdhPrivate none)
      { manager with tunnels := manager.tunnels.erase peerId }
  | accepts (peerId peerIp : String) (object socket : Nat) (ecdhPrivate : Bytes)
    (new : manager.objects.get? object = none) :
    StepCase agreement aead manager (.accept peerId peerIp object socket ecdhPrivate)
      (manager.accept peerId peerIp object socket ecdhPrivate)
  | changes (event : ManagerEvent) (after : TunnelObjects) (object : Nat)
    (tunnel changed : PeerTunnel) (how : event.Changes agreement aead object tunnel changed)
    (updates : manager.Updates after object tunnel changed) :
    StepCase agreement aead manager event after
  | ends (object : Nat) :
    StepCase agreement aead manager (.raised object)
      { manager with calls := manager.calls.erase object }
  | closes (object : Nat) (tunnel : PeerTunnel)
    (found : manager.objects.get? object = some tunnel) :
    StepCase agreement aead manager (.close object) (manager.close object)
  | prunes (timeout : Option Time) (now : Time) :
    StepCase agreement aead manager (.prune timeout now) (manager.prune timeout now)

theorem step_cases {agreement : KeyAgreement} {aead : AesGcm} {manager after : TunnelObjects}
    {event : ManagerEvent} (stepped : manager.step agreement aead event = some after) :
    StepCase agreement aead manager event after := by
  have absent {object : Nat} (new : ¬ manager.objects.contains object = true) :
      manager.objects.get? object = none :=
    Option.not_isSome_iff_eq_none.mp new
  cases event with
  | create peerId peerIp object ecdhPrivate bound =>
    rw [step] at stepped
    split at stepped
    · cases stepped
    · rename_i guard
      obtain ⟨new, fresh⟩ := not_or.mp guard
      obtain rfl := Option.some.inj stepped
      cases bound with
      | none => exact .unbound peerId peerIp object ecdhPrivate
      | some socket =>
        exact .creates peerId peerIp object socket ecdhPrivate (absent new) (by simpa using fresh)
  | accept peerId peerIp object socket ecdhPrivate =>
    rw [step] at stepped
    split at stepped
    · cases stepped
    · rename_i new
      obtain rfl := Option.some.inj stepped
      exact .accepts peerId peerIp object socket ecdhPrivate (absent new)
  | punched object result now relay =>
    rw [step] at stepped
    split at stepped
    · rename_i tunnel found called
      obtain rfl := Option.some.inj stepped
      exact .changes _ _ object tunnel _ (.punched object tunnel result now relay)
        ⟨found, rfl, rfl, rfl, rfl⟩
    · cases stepped
  | accepted object result now =>
    rw [step] at stepped
    split at stepped
    · rename_i tunnel found called
      obtain rfl := Option.some.inj stepped
      exact .changes _ _ object tunnel _ (.accepted object tunnel result now)
        ⟨found, rfl, rfl, rfl, rfl⟩
    · cases stepped
  | raised object =>
    obtain ⟨call, -, rfl⟩ := Option.map_eq_some_iff.mp stepped
    exact .ends object
  | frame object data addr now =>
    obtain ⟨tunnel, found, rfl⟩ := Option.map_eq_some_iff.mp stepped
    exact .changes _ _ object tunnel _ (.frame object tunnel data addr now)
      ⟨found, rfl, rfl, rfl, rfl⟩
  | close object =>
    obtain ⟨tunnel, found, rfl⟩ := Option.map_eq_some_iff.mp stepped
    exact .closes object tunnel found
  | prune timeout now =>
    obtain rfl := Option.some.inj stepped
    exact .prunes timeout now

/-! ### The entries of the peers -/

/-- The entry of a peer is a tunnel to it that has a socket, the sockets of the tunnels are owned,
and nothing was sent. -/
structure WellFormed (manager : TunnelObjects) : Prop where
  entries : ∀ peerId object, manager.tunnels.get? peerId = some object →
    ∃ tunnel, manager.objects.get? object = some tunnel ∧ tunnel.peerId = peerId ∧
      tunnel.socket.isSome
  sockets : ∀ object tunnel socket, manager.objects.get? object = some tunnel →
    tunnel.socket = some socket → socket ∈ manager.owned
  unsent : ∀ object tunnel, manager.objects.get? object = some tunnel → tunnel.txSeq = 0

theorem init_wellFormed (staleTimeout : Time) : (init staleTimeout).WellFormed :=
  ⟨nofun, nofun, nofun⟩

section

variable {manager after : TunnelObjects} {object : Nat} {tunnel changed : PeerTunnel}

theorem getTunnel_eq (peerId : String) (entry : manager.tunnels.get? peerId = some object)
    (found : manager.objects.get? object = some tunnel) :
    manager.getTunnel peerId = some tunnel := by
  rw [getTunnel, entry, Option.bind_some, found]

/-- A manager with other objects has other tunnels where these are entries. -/
theorem getTunnel_insert (objects : after.objects = manager.objects.insert object changed)
    {peerId : String} (tunnels : after.tunnels.get? peerId = manager.tunnels.get? peerId) :
    after.getTunnel peerId =
      if manager.tunnels.get? peerId = some object then some changed
      else manager.getTunnel peerId := by
  rw [getTunnel, getTunnel, tunnels, objects]
  cases entry : manager.tunnels.get? peerId with
  | none => rfl
  | some other =>
    rw [Option.bind_some, Option.bind_some, Dict.get?_insert]
    by_cases same : other = object
    · rw [if_pos same, if_pos (congrArg some same)]
    · rw [if_neg same, if_neg fun wrong => same (Option.some.inj wrong)]

/-- An object that is new is no entry. -/
theorem WellFormed.not_entry (wellFormed : manager.WellFormed)
    (new : manager.objects.get? object = none) (peerId : String) :
    manager.tunnels.get? peerId ≠ some object := by
  intro entry
  obtain ⟨tunnel, found, -⟩ := wellFormed.entries peerId object entry
  cases new.symm.trans found

/-- A tunnel that is closed is an entry of no peer but its own. -/
theorem WellFormed.entry_peerId (wellFormed : manager.WellFormed)
    (found : manager.objects.get? object = some tunnel) {peerId : String}
    (entry : manager.tunnels.get? peerId = some object) : peerId = tunnel.peerId := by
  obtain ⟨other, foundOther, same, -⟩ := wellFormed.entries peerId object entry
  obtain rfl := Option.some.inj (found.symm.trans foundOther)
  exact same.symm

theorem WellFormed.opened (wellFormed : manager.WellFormed) {peerId peerIp : String}
    {socket : Nat} {ecdhPrivate : Bytes} (new : manager.objects.get? object = none)
    (objects : after.objects = manager.objects.insert object
      (PeerTunnel.new peerId peerIp .punching (some socket) (some ecdhPrivate)))
    (tunnels : ∀ other, after.tunnels.get? other =
      if other = peerId then some object else manager.tunnels.get? other)
    (owned : after.owned = insert socket manager.owned) : after.WellFormed := by
  constructor
  · intro other entry stored
    rw [objects]
    rw [tunnels] at stored
    split at stored
    · rename_i same
      obtain rfl := Option.some.inj stored
      exact ⟨_, Dict.get?_insert_self _ _ _, same.symm, rfl⟩
    · obtain ⟨tunnel, found, rest⟩ := wellFormed.entries other entry stored
      have different : entry ≠ object := fun same => by
        rw [same, new] at found
        cases found
      exact ⟨tunnel, (Dict.get?_insert_of_ne _ _ different).trans found, rest⟩
  · intro other tunnel held stored has
    rw [owned, Finset.mem_insert]
    rw [objects, Dict.get?_insert] at stored
    split at stored
    · obtain rfl := Option.some.inj stored
      exact .inl (Option.some.inj has).symm
    · exact .inr (wellFormed.sockets other tunnel held stored has)
  · intro other tunnel stored
    rw [objects, Dict.get?_insert] at stored
    split at stored
    · obtain rfl := Option.some.inj stored
      rfl
    · exact wellFormed.unsent other tunnel stored

theorem create_entry {peerId : String} (peerIp : String) (ecdhPrivate : Bytes) {socket : Nat}
    (other : String) :
    (manager.create peerId peerIp object ecdhPrivate (some socket)).tunnels.get? other =
      if other = peerId then some object else manager.tunnels.get? other := by
  rw [create, Dict.get?_insert, Dict.get?_erase]
  split
  · rfl
  · rfl

theorem WellFormed.forgot (wellFormed : manager.WellFormed) (peerId : String) :
    ({ manager with tunnels := manager.tunnels.erase peerId } : TunnelObjects).WellFormed := by
  refine ⟨fun other entry stored => ?_, wellFormed.sockets, wellFormed.unsent⟩
  rw [Dict.get?_erase] at stored
  split at stored
  · cases stored
  · exact wellFormed.entries other entry stored

theorem WellFormed.updated (wellFormed : manager.WellFormed)
    (updates : manager.Updates after object tunnel changed) (same : tunnel.SameSocket changed) :
    after.WellFormed := by
  constructor
  · intro peerId entry stored
    rw [updates.tunnels] at stored
    obtain ⟨other, found, rest⟩ := wellFormed.entries peerId entry stored
    rw [updates.objects, Dict.get?_insert]
    split
    · rename_i here
      rw [here, updates.found] at found
      obtain rfl := Option.some.inj found
      exact ⟨changed, rfl, same.peerId.trans rest.1, by rw [same.socket]; exact rest.2⟩
    · exact ⟨other, found, rest⟩
  · intro entry other socket stored has
    rw [updates.owned]
    rw [updates.objects, Dict.get?_insert] at stored
    split at stored
    · obtain rfl := Option.some.inj stored
      exact wellFormed.sockets object tunnel socket updates.found (same.socket ▸ has)
    · exact wellFormed.sockets entry other socket stored has
  · intro entry other stored
    rw [updates.objects, Dict.get?_insert] at stored
    split at stored
    · obtain rfl := Option.some.inj stored
      exact same.txSeq.trans (wellFormed.unsent object tunnel updates.found)
    · exact wellFormed.unsent entry other stored

theorem close_eq (found : manager.objects.get? object = some tunnel) :
    manager.close object = { manager with
      objects := manager.objects.insert object (closeTunnel tunnel).1
      tunnels := manager.tunnels.erase tunnel.peerId
      closed := tunnel.socket.elim manager.closed fun socket => insert socket manager.closed } := by
  rw [close, found]

theorem WellFormed.close (wellFormed : manager.WellFormed) (object : Nat) :
    (manager.close object).WellFormed := by
  cases found : manager.objects.get? object with
  | none =>
    rw [TunnelObjects.close, found]
    exact wellFormed
  | some tunnel =>
    rw [close_eq found]
    constructor
    · intro peerId entry stored
      dsimp only at stored ⊢
      rw [Dict.get?_erase] at stored
      split at stored
      · cases stored
      · rename_i different
        have other : entry ≠ object := fun same =>
          different (wellFormed.entry_peerId found (same ▸ stored))
        rw [Dict.get?_insert_of_ne _ _ other]
        exact wellFormed.entries peerId entry stored
    · intro entry other socket stored has
      dsimp only at stored ⊢
      rw [Dict.get?_insert] at stored
      split at stored
      · obtain rfl := Option.some.inj stored
        cases has
      · exact wellFormed.sockets entry other socket stored has
    · intro entry other stored
      dsimp only at stored
      rw [Dict.get?_insert] at stored
      split at stored
      · obtain rfl := Option.some.inj stored
        exact wellFormed.unsent object tunnel found
      · exact wellFormed.unsent entry other stored

/-! ### The tunnel of a peer after a step -/

/-- A tunnel that is created or accepted is the one of its peer. -/
theorem getTunnel_opened (wellFormed : manager.WellFormed) {peerId : String}
    (new : manager.objects.get? object = none)
    (objects : after.objects = manager.objects.insert object changed)
    (tunnels : ∀ other, after.tunnels.get? other =
      if other = peerId then some object else manager.tunnels.get? other) (other : String) :
    after.getTunnel other = if other = peerId then some changed else manager.getTunnel other := by
  by_cases same : other = peerId
  · rw [if_pos same, getTunnel, tunnels, if_pos same, Option.bind_some, objects,
      Dict.get?_insert_self]
  · have entry : after.tunnels.get? other = manager.tunnels.get? other := by
      rw [tunnels, if_neg same]
    rw [if_neg same, getTunnel_insert objects entry, if_neg (wellFormed.not_entry new other)]

theorem getTunnel_forgot (peerId other : String) :
    ({ manager with tunnels := manager.tunnels.erase peerId } : TunnelObjects).getTunnel other =
      if other = peerId then none else manager.getTunnel other := by
  rw [getTunnel, getTunnel]
  dsimp only
  rw [Dict.get?_erase]
  split
  · rfl
  · rfl

theorem getTunnel_updated (updates : manager.Updates after object tunnel changed)
    (other : String) :
    after.getTunnel other =
      if manager.tunnels.get? other = some object then some changed
      else manager.getTunnel other :=
  getTunnel_insert updates.objects (congrFun (congrArg Dict.get? updates.tunnels) other)

theorem getTunnel_close (wellFormed : manager.WellFormed)
    (found : manager.objects.get? object = some tunnel) (other : String) :
    (manager.close object).getTunnel other =
      if other = tunnel.peerId then none else manager.getTunnel other := by
  rw [close_eq found]
  by_cases same : other = tunnel.peerId
  · rw [if_pos same, getTunnel]
    dsimp only
    rw [same, Dict.get?_erase_self, Option.bind_none]
  · have entry : manager.tunnels.get? other ≠ some object := fun wrong =>
      same (wellFormed.entry_peerId found wrong)
    rw [if_neg same, @getTunnel_insert manager _ object _ rfl _ (Dict.get?_erase_of_ne _ same),
      if_neg entry]

/-! ### Loops that close entries -/

/-- No other tunnel is the entry of the peer that an object leads to. -/
def Listed (manager : TunnelObjects) (object : Nat) : Prop :=
  ∀ tunnel, manager.objects.get? object = some tunnel →
    ∀ other, manager.tunnels.get? tunnel.peerId = some other → other = object

theorem WellFormed.listed (wellFormed : manager.WellFormed) :
    ∀ object ∈ manager.tunnels.values, manager.Listed object := by
  intro object member tunnel found other stored
  obtain ⟨peerId, entry⟩ := Dict.mem_values_iff.mp member
  rw [← wellFormed.entry_peerId found entry, entry] at stored
  exact (Option.some.inj stored).symm

theorem Listed.close {other : Nat} (listed : manager.Listed other) (object : Nat) :
    (manager.close object).Listed other := by
  cases found : manager.objects.get? object with
  | none =>
    rw [TunnelObjects.close, found]
    exact listed
  | some tunnel =>
    rw [close_eq found]
    intro changed foundOther entry stored
    dsimp only at foundOther stored
    rw [Dict.get?_erase] at stored
    split at stored
    · cases stored
    · rw [Dict.get?_insert] at foundOther
      split at foundOther
      · rename_i same
        obtain rfl := Option.some.inj foundOther
        exact listed tunnel (same ▸ found) entry stored
      · exact listed changed foundOther entry stored

/-- The rule for a loop that closes some of the entries: what is kept by closing an entry is kept
by the loop. -/
theorem foldl_close_keeps {invariant : TunnelObjects → Prop}
    (kept : ∀ current object, current.WellFormed → current.Listed object → invariant current →
      invariant (current.close object))
    (closes : TunnelObjects → Nat → Bool) (objects : List Nat) (wellFormed : manager.WellFormed)
    (listed : ∀ object ∈ objects, manager.Listed object) (holds : invariant manager) :
    (objects.foldl (fun current object =>
        if closes current object then current.close object else current) manager).WellFormed ∧
      invariant (objects.foldl (fun current object =>
        if closes current object then current.close object else current) manager) := by
  induction objects generalizing manager with
  | nil => exact ⟨wellFormed, holds⟩
  | cons object rest inductionHypothesis =>
    rw [List.foldl_cons]
    have here := listed object (.head _)
    have later := fun other member => listed other (.tail _ member)
    by_cases stale : closes manager object = true
    · rw [if_pos stale]
      exact inductionHypothesis (wellFormed.close object)
        (fun other member => (later other member).close object)
        (kept manager object wellFormed here holds)
    · rw [if_neg stale]
      exact inductionHypothesis wellFormed later holds

/-- The rule for `prune_stale`. -/
theorem prune_keeps {invariant : TunnelObjects → Prop}
    (kept : ∀ current object, current.WellFormed → current.Listed object → invariant current →
      invariant (current.close object))
    (wellFormed : manager.WellFormed) (holds : invariant manager) (timeout : Option Time)
    (now : Time) :
    (manager.prune timeout now).WellFormed ∧ invariant (manager.prune timeout now) :=
  foldl_close_keeps kept _ _ wellFormed wellFormed.listed holds

theorem StepCase.wellFormed {agreement : KeyAgreement} {aead : AesGcm} {event : ManagerEvent}
    (stepped : StepCase agreement aead manager event after) (wellFormed : manager.WellFormed) :
    after.WellFormed := by
  cases stepped with
  | creates peerId peerIp object socket ecdhPrivate new fresh =>
    exact wellFormed.opened new rfl (create_entry peerIp ecdhPrivate) rfl
  | unbound peerId peerIp object ecdhPrivate => exact wellFormed.forgot peerId
  | accepts peerId peerIp object socket ecdhPrivate new =>
    exact wellFormed.opened new rfl (fun other => Dict.get?_insert _ _ _ _) rfl
  | changes _ _ object tunnel changed how updates =>
    exact wellFormed.updated updates how.sameSocket
  | ends object => exact ⟨wellFormed.entries, wellFormed.sockets, wellFormed.unsent⟩
  | closes object tunnel found => exact wellFormed.close object
  | prunes timeout now =>
    exact (@prune_keeps manager (fun _ => True) (fun _ _ _ _ _ => trivial) wellFormed trivial
      timeout now).1

end

end TunnelObjects

end LocalNetwork
