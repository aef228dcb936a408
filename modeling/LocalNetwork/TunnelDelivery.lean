/-
This file proves that an established tunnel is a pair of first-in first-out queues, one in each
direction, when the network between its ends is faithful: it delivers what the sockets take, in
order and once, from the address it was sent from. The hosts read their interfaces, exchange
keep-alives, hear of peers and use other tunnels in any order meanwhile.

Each step of the two hosts makes at most one move of the queues: a packet is offered when the
socket takes its frame, and taken when the frame arrives. So what a host hands to its interface is
what the other host sent, without gaps, changes or repeats, up to the frames under way.
-/

import LocalNetwork.Fifo
import LocalNetwork.PacketOrigin

namespace LocalNetwork

/-! ### Two hosts and the network between them -/

/-- The names that the sides of a tunnel have for the other side, and their addresses. -/
structure TunnelEnds where
  peer : Bool → String
  addr : Bool → Addr

/-- Two hosts, the datagrams on their way to each, and the packets that each has sent to the other
and has handed to its interface from the tunnel. -/
structure Link where
  hosts : Bool → Host
  wires : Bool → List Bytes
  sent : Bool → List Bytes
  delivered : Bool → List Bytes

inductive LinkEvent where
  /-- Something happens at a side other than the arrival of a datagram of the tunnel. -/
  | atHost (side : Bool) (event : HostEvent)
  /-- The next datagram of the tunnel arrives at a side. -/
  | arrive (side : Bool) (now : Time)

namespace TunnelEnds

variable (ends : TunnelEnds)

/-- What a side puts on the wire of the tunnel. -/
def toWire (side : Bool) : Option (String × Bytes × Addr) → List Bytes
  | none => []
  | some (peerId, frame, remote) =>
    if peerId = ends.peer side ∧ remote = ends.addr (!side) then [frame] else []

/-- What a side hands to its interface from the tunnel. -/
def fromTunnel (side : Bool) : Option (TunSource × Bytes) → List Bytes
  | some (.tunnel peerId, packet) => if peerId = ends.peer side then [packet] else []
  | _ => []

/-- A datagram of the tunnel. -/
def isTunnelDatagram (side : Bool) : HostEvent → Bool
  | .datagram peerId _ _ _ => decide (peerId = ends.peer side)
  | _ => false

/-- The packet that an event reads from the interface. -/
def packetOf : HostEvent → List Bytes
  | .tunRead packet _ _ => [packet.bytes]
  | _ => []

variable (unicode : UnicodeData) (aead : AesGcm) (b64decode : String → Option Bytes)

def linkStep (link : Link) : LinkEvent → Option Link
  | .atHost side event =>
    if ends.isTunnelDatagram side event then none
    else
      ((link.hosts side).effect unicode aead b64decode event).map fun effect =>
        let frames := ends.toWire side effect.sent
        { hosts := Function.update link.hosts side effect.host
          wires := Function.update link.wires (!side) (link.wires (!side) ++ frames)
          sent := Function.update link.sent side
            (link.sent side ++ if frames = [] then [] else packetOf event)
          delivered := link.delivered }
  | .arrive side now =>
    match link.wires side with
    | [] => none
    | frame :: rest =>
      ((link.hosts side).effect unicode aead b64decode
          (.datagram (ends.peer side) frame (ends.addr (!side)) now)).map fun effect =>
        let wires := Function.update link.wires side rest
        { hosts := Function.update link.hosts side effect.host
          wires := Function.update wires (!side)
            (wires (!side) ++ ends.toWire side effect.sent)
          sent := link.sent
          delivered := Function.update link.delivered side
            (link.delivered side ++ ends.fromTunnel side effect.written) }

/-- What the control channel says and the other tasks do leaves the tunnel as it is, and no side is
shut down. -/
def Undisturbed (link : Link) : LinkEvent → Prop
  | .atHost side (.control heard) =>
    ((link.hosts side).daemon.handle heard).tunnelTo (ends.peer side) =
      (link.hosts side).daemon.tunnelTo (ends.peer side)
  | .atHost _ .requestShutdown => False
  | _ => True

/-! ### A tunnel that is established -/

variable (cipher : CipherContext)

/-- A tunnel is up and leads to the other side. -/
structure Up (side : Bool) (tunnel : PeerTunnel) : Prop where
  state : tunnel.state = .connected
  socket : tunnel.socket.isSome
  cipher : tunnel.cipher = some cipher
  remote : tunnel.remoteAddr = some (ends.addr (!side))

structure Established (side : Bool) (host : Host) : Prop where
  tunnel : ∃ tunnel, host.daemon.tunnelTo (ends.peer side) = some tunnel ∧
    ends.Up cipher side tunnel
  tun : host.tun = true
  running : host.shutdown = false

/-- Two hosts with an established tunnel and nothing under way. -/
structure LinkStart (link : Link) : Prop where
  established : ∀ side, ends.Established cipher side (link.hosts side)
  wires : ∀ side, link.wires side = []
  sent : ∀ side, link.sent side = []
  delivered : ∀ side, link.delivered side = []

end TunnelEnds

/-- The packet that a frame carries, if it is a DATA frame that opens. -/
def openFrame (aead : AesGcm) (cipher : CipherContext) (frame : Bytes) : Option Bytes :=
  match unpackFrame frame with
  | .error _ => none
  | .ok (header, payload, tag) =>
    if header.type = frameData then (cipher.decrypt aead payload tag []).toOption else none

/-- A frame that the ends of a tunnel exchange. -/
structure Carried (aead : AesGcm) (cipher : CipherContext) (frame : Bytes) : Prop where
  fits : frame.length ≤ udpRecvBuffer
  typed : (openFrame aead cipher frame).isSome ∨ frameType frame = some frameKeepalive

/-! ### Frames -/

section

variable {aead : AesGcm} {cipher : CipherContext} {ends : TunnelEnds} {side : Bool}
  {tunnel : PeerTunnel}

/-- What a tunnel that is up sends for a packet. -/
theorem TunnelEnds.Up.sendData (inverts : aead.Inverts) (up : ends.Up cipher side tunnel)
    (packet : TunPacket) (nonce : Nonce) (sendto : Bytes → Addr → Option Nat) :
    ∃ frame, Carried aead cipher frame ∧ openFrame aead cipher frame = some packet.bytes ∧
      (LocalNetwork.sendData aead sendto tunnel packet.bytes nonce).datagram =
        some (frame, ends.addr (!side)) := by
  obtain ⟨socket, bound⟩ := Option.isSome_iff_exists.mp up.socket
  obtain ⟨frame, packed, sent⟩ := sendData_sealed aead inverts sendto tunnel cipher up.cipher
    up.state socket bound (ends.addr (!side)) up.remote packet.bytes nonce packet.fits
  have opened : openFrame aead cipher frame = some packet.bytes := by
    rw [openFrame, unpackFrame_packFrame packed]
    dsimp only
    rw [if_pos rfl, Option.getD_some, CipherContext.decrypt_encrypt cipher cipher aead inverts rfl]
    rfl
  refine ⟨frame, ⟨length_packFrame packed, .inl ?_⟩, opened, by rw [sent]⟩
  rw [opened]
  rfl

/-- What a tunnel that is up sends as a keep-alive. -/
theorem TunnelEnds.Up.sendKeepalive (up : ends.Up cipher side tunnel) :
    ∃ frame, Carried aead cipher frame ∧ openFrame aead cipher frame = none ∧
      LocalNetwork.sendKeepalive tunnel = some (frame, ends.addr (!side)) := by
  obtain ⟨socket, bound⟩ := Option.isSome_iff_exists.mp up.socket
  obtain ⟨frame, packed⟩ := exists_packFrame frameKeepalive [] (tunnel.txSeq : Int) none (by decide)
    (Nat.zero_le _) List.length_replicate
  have unpacked := unpackFrame_packFrame packed
  refine ⟨frame, ⟨length_packFrame packed, .inr ?_⟩, ?_, ?_⟩
  · rw [frameType, unpacked]
  · rw [openFrame, unpacked]
    rfl
  · have made : makeKeepaliveFrame tunnel.txSeq = .ok frame := packed
    rw [LocalNetwork.sendKeepalive, if_neg (not_not_intro up.state), bound, up.remote]
    dsimp only
    rw [made]
    rfl

theorem TunnelEnds.Up.sent (up : ends.Up cipher side tunnel)
    (sendto : Bytes → Addr → Option Nat) (packet : Bytes) (nonce : Nonce) :
    ends.Up cipher side (LocalNetwork.sendData aead sendto tunnel packet nonce).tunnel := by
  obtain ⟨txSeq, after⟩ := sendData_tunnel aead sendto tunnel packet nonce
  rw [after]
  exact ⟨up.state, up.socket, up.cipher, up.remote⟩

/-- A frame of the other end is handled: it is delivered if it carries a packet, and the tunnel
stays up. -/
theorem TunnelEnds.Up.handleFrame (up : ends.Up cipher side tunnel) {frame : Bytes}
    (carried : Carried aead cipher frame) (now : Time) :
    (LocalNetwork.handleFrame aead tunnel frame (ends.addr (!side)) now).payload =
        openFrame aead cipher frame ∧
      (LocalNetwork.handleFrame aead tunnel frame (ends.addr (!side)) now).reply = none ∧
      ends.Up cipher side
        (LocalNetwork.handleFrame aead tunnel frame (ends.addr (!side)) now).tunnel := by
  cases opened : openFrame aead cipher frame with
  | some packet =>
    unfold openFrame at opened
    split at opened
    · cases opened
    · rename_i header payload tag unpacked
      split at opened
      · rename_i isData
        rw [handleFrame_data aead tunnel frame _ now header payload tag packet unpacked isData
          (by rw [openPayload, up.cipher]; exact opened)]
        exact ⟨rfl, rfl, up.state, up.socket, up.cipher, rfl⟩
      · cases opened
  | none =>
    have isKeepalive : frameType frame = some frameKeepalive :=
      carried.typed.resolve_left fun some => by
        rw [opened] at some
        cases some
    unfold frameType at isKeepalive
    split at isKeepalive
    · cases isKeepalive
    · rename_i header payload tag unpacked
      have typed : header.type = frameKeepalive := Option.some.inj isKeepalive
      have handled : LocalNetwork.handleFrame aead tunnel frame (ends.addr (!side)) now =
          ⟨{ tunnel with lastRx := now }, none, none⟩ := by
        rw [LocalNetwork.handleFrame, unpacked]
        dsimp only
        rw [typed, if_neg (by decide), if_pos rfl]
      rw [handled]
      exact ⟨rfl, rfl, up.state, up.socket, up.cipher, up.remote⟩

end

/-! ### One event at a side -/

namespace TunnelEnds

variable {ends : TunnelEnds} {unicode : UnicodeData} {aead : AesGcm}
  {b64decode : String → Option Bytes} {cipher : CipherContext} {side : Bool} {host : Host}

/-- What an event at a side puts on the wire of the tunnel: nothing, the packet that it reads from
the interface, or a keep-alive. -/
inductive Emits (aead : AesGcm) (cipher : CipherContext) : HostEvent → List Bytes → Prop
  | nothing (event : HostEvent) : Emits aead cipher event []
  | packet (packet : TunPacket) (nonce : Nonce) (taken : Bool) (frame : Bytes)
    (carried : Carried aead cipher frame)
    (opened : openFrame aead cipher frame = some packet.bytes) :
    Emits aead cipher (.tunRead packet nonce taken) [frame]
  | keepalive (peerId : String) (taken : Bool) (frame : Bytes)
    (carried : Carried aead cipher frame) (opened : openFrame aead cipher frame = none) :
    Emits aead cipher (.keepalive peerId taken) [frame]

/-- A host that has stored a tunnel under another peer is still established. -/
theorem Established.storeOther (established : ends.Established cipher side host) {peerId : String}
    {tunnel changed : PeerTunnel} (found : host.daemon.tunnelTo peerId = some tunnel)
    (same : changed.peerId = peerId) (other : peerId ≠ ends.peer side) :
    ends.Established cipher side (host.storeTunnel changed) := by
  obtain ⟨own, foundOwn, up⟩ := established.tunnel
  refine ⟨⟨own, ?_, up⟩, established.tun, established.running⟩
  rw [Host.storeTunnel_tunnelTo found same, if_neg (Ne.symm other)]
  exact foundOwn

/-- A host that has stored the tunnel itself is still established if the tunnel is up. -/
theorem Established.storeOwn (established : ends.Established cipher side host)
    {tunnel changed : PeerTunnel} (found : host.daemon.tunnelTo (ends.peer side) = some tunnel)
    (same : changed.peerId = ends.peer side) (up : ends.Up cipher side changed) :
    ends.Established cipher side (host.storeTunnel changed) := by
  refine ⟨⟨changed, ?_, up⟩, established.tun, established.running⟩
  rw [Host.storeTunnel_tunnelTo found same, if_pos rfl]

theorem toWire_other {peerId : String} (other : peerId ≠ ends.peer side)
    (datagram : Option (Bytes × Addr)) : ends.toWire side (datagram.map (peerId, ·)) = [] := by
  cases datagram with
  | none => rfl
  | some datagram => exact if_neg fun both => other both.1

theorem toWire_own (frame : Bytes) :
    ends.toWire side (some (ends.peer side, frame, ends.addr (!side))) = [frame] :=
  if_pos ⟨rfl, rfl⟩

/-- Forwarding a packet keeps a host established, and the packet goes on the wire at most. -/
theorem Established.forward (inverts : aead.Inverts)
    (established : ends.Established cipher side host) (peerId : String) (packet : TunPacket)
    (nonce : Nonce) (taken : Bool) :
    ends.Established cipher side (host.forward aead peerId packet.bytes nonce taken).host ∧
      Emits aead cipher (.tunRead packet nonce taken)
        (ends.toWire side (host.forward aead peerId packet.bytes nonce taken).sent) := by
  rcases @Host.forward_cases aead host peerId inverts packet nonce taken with
    ⟨-, forwarded⟩ | ⟨tunnel, found, forwarded⟩
  · rw [forwarded]
    exact ⟨established, .nothing _⟩
  · rw [forwarded]
    dsimp only
    have named := ClientDaemon.peerId_of_tunnelTo found
    have kept : (sendData aead (Host.socketTakes taken) tunnel packet.bytes nonce).tunnel.peerId =
        peerId := by
      obtain ⟨txSeq, after⟩ :=
        sendData_tunnel aead (Host.socketTakes taken) tunnel packet.bytes nonce
      rw [after]
      exact named
    by_cases own : peerId = ends.peer side
    · subst own
      obtain ⟨stored, foundStored, up⟩ := established.tunnel
      rw [foundStored] at found
      obtain rfl := Option.some.inj found
      refine ⟨established.storeOwn foundStored kept (up.sent _ _ _), ?_⟩
      cases taken with
      | false => exact .nothing _
      | true =>
        obtain ⟨frame, carried, opened, sent⟩ :=
          up.sendData inverts packet nonce (Host.socketTakes true)
        rw [if_pos rfl, sent, Option.map_some, toWire_own]
        exact .packet packet nonce true frame carried opened
    · refine ⟨established.storeOther found kept own, ?_⟩
      split
      · rw [toWire_other own]
        exact .nothing _
      · exact .nothing _

/-- An event at a side that is no datagram of the tunnel, and leaves the tunnel as it is. -/
theorem Established.atHost (inverts : aead.Inverts) {link : Link} {event : HostEvent}
    (established : ends.Established cipher side (link.hosts side))
    (undisturbed : ends.Undisturbed link (.atHost side event))
    (other : ends.isTunnelDatagram side event = false) {effect : HostEffect}
    (happened : (link.hosts side).effect unicode aead b64decode event = some effect) :
    ends.Established cipher side effect.host ∧
      Emits aead cipher event (ends.toWire side effect.sent) := by
  cases event with
  | tunRead packet nonce taken =>
    rw [Host.effect] at happened
    split at happened
    · obtain rfl := Option.some.inj happened
      rcases @Host.tunReadBody_cases unicode aead (link.hosts side) packet.bytes nonce taken with
        ⟨answer, body, -⟩ | ⟨-, peerId, -, body⟩
      · rw [body]
        exact ⟨established, .nothing _⟩
      · rw [body]
        exact established.forward inverts peerId packet nonce taken
    · cases happened
  | datagram peerId data addr now =>
    have different : peerId ≠ ends.peer side := of_decide_eq_false other
    rw [Host.effect] at happened
    split at happened
    · cases happened
    · rename_i tunnel found
      split at happened
      · obtain rfl := Option.some.inj happened
        have named := ClientDaemon.peerId_of_tunnelTo found
        refine ⟨established.storeOther found ((handleFrame_peerId _ _ _ _ _).trans named)
          different, ?_⟩
        dsimp only [Host.receive]
        rw [named, toWire_other different]
        exact .nothing _
      · cases happened
  | keepalive peerId taken =>
    obtain ⟨tunnel, found, rfl⟩ := Option.map_eq_some_iff.mp happened
    refine ⟨established, ?_⟩
    dsimp only
    cases taken with
    | false => exact .nothing _
    | true =>
      rw [if_pos rfl]
      by_cases own : peerId = ends.peer side
      · subst own
        obtain ⟨stored, foundStored, up⟩ := established.tunnel
        rw [foundStored] at found
        obtain rfl := Option.some.inj found
        obtain ⟨frame, carried, opened, sent⟩ := @Up.sendKeepalive aead cipher ends side _ up
        rw [sent, Option.map_some, toWire_own]
        exact .keepalive _ true frame carried opened
      · rw [toWire_other own]
        exact .nothing _
  | relayFrame srcId frameB64 =>
    obtain rfl := Option.some.inj happened
    exact ⟨established, .nothing _⟩
  | control heard =>
    obtain rfl := Option.some.inj happened
    obtain ⟨tunnel, found, up⟩ := established.tunnel
    exact ⟨⟨⟨tunnel, undisturbed.trans found, up⟩, established.tun, established.running⟩,
      .nothing _⟩
  | requestShutdown => exact undisturbed.elim

/-- A frame of the tunnel arrives at a side. -/
theorem Established.arrive (established : ends.Established cipher side host) {frame : Bytes}
    (carried : Carried aead cipher frame) {now : Time} {effect : HostEffect}
    (happened : host.effect unicode aead b64decode
      (.datagram (ends.peer side) frame (ends.addr (!side)) now) = some effect) :
    ends.Established cipher side effect.host ∧ ends.toWire side effect.sent = [] ∧
      ends.fromTunnel side effect.written = (openFrame aead cipher frame).toList := by
  obtain ⟨tunnel, found, up⟩ := established.tunnel
  rw [Host.effect, found] at happened
  dsimp only at happened
  split at happened
  · obtain rfl := Option.some.inj happened
    have named := ClientDaemon.peerId_of_tunnelTo found
    dsimp only [Host.receive]
    rw [List.take_of_length_le carried.fits]
    obtain ⟨payload, reply, upAfter⟩ := up.handleFrame carried now
    refine ⟨established.storeOwn found ((handleFrame_peerId _ _ _ _ _).trans named) upAfter, ?_, ?_⟩
    · rw [reply]
      rfl
    · rw [payload, established.running]
      cases openFrame aead cipher frame with
      | none => rfl
      | some packet => exact if_pos named
  · cases happened

end TunnelEnds

/-! ### The simulation -/

section

variable {ends : TunnelEnds} {unicode : UnicodeData} {aead : AesGcm}
  {b64decode : String → Option Bytes} {cipher : CipherContext}

/-- Two hosts and two queues of packets, one for each side that takes from it. -/
structure Queued (ends : TunnelEnds) (aead : AesGcm) (cipher : CipherContext) (link : Link)
    (queues : Bool → Fifo Bytes) : Prop where
  established : ∀ side, ends.Established cipher side (link.hosts side)
  carried : ∀ side, ∀ frame ∈ link.wires side, Carried aead cipher frame
  offered : ∀ side, (queues side).offered = link.sent (!side)
  taken : ∀ side, (queues side).taken = link.delivered side
  waiting : ∀ side, (queues side).waiting = (link.wires side).filterMap (openFrame aead cipher)

theorem TunnelEnds.LinkStart.queued {link : Link} (start : ends.LinkStart cipher link) :
    Queued ends aead cipher link fun _ => Fifo.empty where
  established := start.established
  carried := fun side frame member => by
    rw [start.wires side] at member
    cases member
  offered := fun side => (start.sent (!side)).symm
  taken := fun side => (start.delivered side).symm
  waiting := fun side => by
    rw [start.wires side]
    rfl

/-- The packets that an event sends are those that its frames carry, one at most. -/
theorem TunnelEnds.Emits.packets {event : HostEvent} {frames : List Bytes}
    (emits : TunnelEnds.Emits aead cipher event frames) :
    (if frames = [] then [] else TunnelEnds.packetOf event) =
        frames.filterMap (openFrame aead cipher) ∧
      (∀ frame ∈ frames, Carried aead cipher frame) ∧
      (frames.filterMap (openFrame aead cipher) = [] ∨
        ∃ packet, frames.filterMap (openFrame aead cipher) = [packet]) := by
  cases emits with
  | nothing => exact ⟨rfl, nofun, .inl rfl⟩
  | packet packet nonce taken frame carried opened =>
    have carries : [frame].filterMap (openFrame aead cipher) = [packet.bytes] := by
      rw [List.filterMap_cons_some opened, List.filterMap_nil]
    refine ⟨?_, fun other member => ?_, .inr ⟨packet.bytes, carries⟩⟩
    · rw [if_neg (List.cons_ne_nil _ _), carries]
      rfl
    · rw [List.mem_singleton.mp member]
      exact carried
  | keepalive peerId taken frame carried opened =>
    have carries : [frame].filterMap (openFrame aead cipher) = [] := by
      rw [List.filterMap_cons_none opened, List.filterMap_nil]
    refine ⟨?_, fun other member => ?_, .inl carries⟩
    · rw [if_neg (List.cons_ne_nil _ _), carries]
      rfl
    · rw [List.mem_singleton.mp member]
      exact carried

variable {link : Link} {queues : Bool → Fifo Bytes} {side : Bool}

/-- An event at a side offers the packet that it sends to the queue of the other side. -/
theorem Queued.atHost (queued : Queued ends aead cipher link queues) {event : HostEvent}
    {host : Host} (established : ends.Established cipher side host) {frames : List Bytes}
    (emits : TunnelEnds.Emits aead cipher event frames) :
    ∃ moves after, runFrom Fifo.move queues moves = some after ∧
      Queued ends aead cipher {
        hosts := Function.update link.hosts side host
        wires := Function.update link.wires (!side) (link.wires (!side) ++ frames)
        sent := Function.update link.sent side
          (link.sent side ++ if frames = [] then [] else TunnelEnds.packetOf event)
        delivered := link.delivered } after := by
  obtain ⟨packets, carried, few⟩ := emits.packets
  rw [packets]
  have hosts := (Function.forall_update_iff link.hosts fun any => ends.Established cipher any).mpr
    ⟨established, fun any _ => queued.established any⟩
  have wires : ∀ any, ∀ frame ∈ Function.update link.wires (!side)
      (link.wires (!side) ++ frames) any, Carried aead cipher frame :=
    (Function.forall_update_iff link.wires fun _ frames =>
      ∀ frame ∈ frames, Carried aead cipher frame).mpr
        ⟨fun frame member =>
          (List.mem_append.mp member).elim (queued.carried (!side) frame) (carried frame),
          fun any _ => queued.carried any⟩
  rcases few with none | ⟨packet, one⟩
  · refine ⟨[], queues, rfl, hosts, wires, fun any => ?_, queued.taken, ?_⟩
    · rw [none, List.append_nil, Function.update_eq_self]
      exact queued.offered any
    · refine (Function.forall_update_iff link.wires fun any frames =>
        (queues any).waiting = frames.filterMap (openFrame aead cipher)).mpr
          ⟨?_, fun any _ => queued.waiting any⟩
      rw [List.filterMap_append, none, List.append_nil]
      exact queued.waiting _
  · refine ⟨[.offer (!side) packet], _, Fifo.runFrom_offer _ _, hosts, wires, ?_, ?_, ?_⟩
    · refine (Function.forall_update_iff queues fun any queue =>
        queue.offered = Function.update link.sent side _ (!any)).mpr ⟨?_, fun any other => ?_⟩
      · rw [Bool.not_not, Function.update_self, Fifo.offered_offer, one, queued.offered,
          Bool.not_not]
      · rw [Function.update_of_ne fun same => other (by rw [← same, Bool.not_not])]
        exact queued.offered any
    · exact (Function.forall_update_iff queues fun any queue =>
        queue.taken = link.delivered any).mpr
          ⟨queued.taken (!side), fun any _ => queued.taken any⟩
    · refine (Function.forall_update_iff queues fun any queue =>
        queue.waiting = (Function.update link.wires (!side) _ any).filterMap _).mpr
          ⟨?_, fun any other => ?_⟩
      · rw [Function.update_self, List.filterMap_append, one, Fifo.waiting_offer, queued.waiting]
      · rw [Function.update_of_ne other]
        exact queued.waiting any

/-- A frame that arrives takes its packet from the queue of the side, if it carries one. -/
theorem Queued.arrive (queued : Queued ends aead cipher link queues) {host : Host}
    (established : ends.Established cipher side host) {frame : Bytes} {rest : List Bytes}
    (wire : link.wires side = frame :: rest) :
    ∃ moves after, runFrom Fifo.move queues moves = some after ∧
      Queued ends aead cipher {
        hosts := Function.update link.hosts side host
        wires := Function.update link.wires side rest
        sent := link.sent
        delivered := Function.update link.delivered side
          (link.delivered side ++ (openFrame aead cipher frame).toList) } after := by
  have hosts := (Function.forall_update_iff link.hosts fun any => ends.Established cipher any).mpr
    ⟨established, fun any _ => queued.established any⟩
  have wires : ∀ any, ∀ other ∈ Function.update link.wires side rest any,
      Carried aead cipher other :=
    (Function.forall_update_iff link.wires fun _ frames =>
      ∀ other ∈ frames, Carried aead cipher other).mpr
        ⟨fun other member => queued.carried side other (wire ▸ List.mem_cons_of_mem _ member),
          fun any _ => queued.carried any⟩
  have waits := queued.waiting side
  rw [wire] at waits
  cases opened : openFrame aead cipher frame with
  | none =>
    rw [List.filterMap_cons_none opened] at waits
    refine ⟨[], queues, rfl, hosts, wires, queued.offered, fun any => ?_, ?_⟩
    · rw [Option.toList_none, List.append_nil, Function.update_eq_self]
      exact queued.taken any
    · exact (Function.forall_update_iff link.wires fun any frames =>
        (queues any).waiting = frames.filterMap (openFrame aead cipher)).mpr
          ⟨waits, fun any _ => queued.waiting any⟩
  | some packet =>
    rw [List.filterMap_cons_some opened] at waits
    obtain ⟨after, taken, offered, took, left⟩ := Fifo.take_eq waits
    refine ⟨[.take side], _, Fifo.runFrom_take taken, hosts, wires, ?_, ?_, ?_⟩
    · exact (Function.forall_update_iff queues fun any queue =>
        queue.offered = link.sent (!any)).mpr
          ⟨offered.trans (queued.offered side), fun any _ => queued.offered any⟩
    · refine (Function.forall_update_iff queues fun any queue =>
        queue.taken = Function.update link.delivered side _ any).mpr ⟨?_, fun any other => ?_⟩
      · rw [Function.update_self, took, queued.taken]
        rfl
      · rw [Function.update_of_ne other]
        exact queued.taken any
    · refine (Function.forall_update_iff queues fun any queue =>
        queue.waiting = (Function.update link.wires side rest any).filterMap _).mpr
          ⟨?_, fun any other => ?_⟩
      · rw [Function.update_self]
        exact left
      · rw [Function.update_of_ne other]
        exact queued.waiting any

/-- Every step of the two hosts is matched by moves of the queues. -/
theorem Queued.step (inverts : aead.Inverts) (queued : Queued ends aead cipher link queues)
    {event : LinkEvent} (undisturbed : ends.Undisturbed link event) {next : Link}
    (stepped : ends.linkStep unicode aead b64decode link event = some next) :
    ∃ moves after, runFrom Fifo.move queues moves = some after ∧
      Queued ends aead cipher next after := by
  cases event with
  | atHost side event =>
    rw [TunnelEnds.linkStep] at stepped
    split at stepped
    · cases stepped
    · rename_i other
      obtain ⟨effect, happened, rfl⟩ := Option.map_eq_some_iff.mp stepped
      obtain ⟨established, emits⟩ := (queued.established side).atHost inverts undisturbed
        (eq_false_of_ne_true other) happened
      exact queued.atHost established emits
  | arrive side now =>
    rw [TunnelEnds.linkStep] at stepped
    split at stepped
    · cases stepped
    · rename_i frame rest wire
      obtain ⟨effect, happened, rfl⟩ := Option.map_eq_some_iff.mp stepped
      have carried := queued.carried side frame (by rw [wire]; exact List.mem_cons_self)
      obtain ⟨established, silent, written⟩ := (queued.established side).arrive carried happened
      rw [silent, written]
      dsimp only
      rw [List.append_nil, Function.update_eq_self]
      exact queued.arrive established wire

/-- An established tunnel over a faithful network is two queues: what a host sends is offered to
the queue of the other side, which takes it when it is delivered, and what waits is what the frames
on the wire carry. So the packets arrive in order, and all of them once the wire is empty. -/
theorem tunnel_refines_queues (inverts : aead.Inverts) {start final : Link}
    (starts : ends.LinkStart cipher start) {events : List LinkEvent}
    (undisturbed : HoldsAlong (ends.linkStep unicode aead b64decode) ends.Undisturbed start events)
    (ran : runFrom (ends.linkStep unicode aead b64decode) start events = some final) :
    (∃ moves queues, runFrom Fifo.move (fun _ => Fifo.empty) moves = some queues ∧
      ∀ side, (queues side).offered = final.sent (!side) ∧
        (queues side).taken = final.delivered side ∧
        (queues side).waiting = (final.wires side).filterMap (openFrame aead cipher)) ∧
      ∀ side, final.delivered side <+: final.sent (!side) ∧
        (final.wires side = [] → final.delivered side = final.sent (!side)) := by
  have matched : ∀ link event next queues, ends.Undisturbed link event →
      Queued ends aead cipher link queues →
      ends.linkStep unicode aead b64decode link event = some next →
        ∃ moves after, runFrom Fifo.move queues moves = some after ∧
          Queued ends aead cipher next after :=
    fun _ _ _ _ met queued stepped => queued.step inverts met stepped
  obtain ⟨moves, queues, moved, queued⟩ := run_simulates matched starts.queued undisturbed ran
  refine ⟨⟨moves, queues, moved, fun side =>
    ⟨queued.offered side, queued.taken side, queued.waiting side⟩⟩, fun side => ?_⟩
  rw [← queued.offered side, ← queued.taken side]
  refine ⟨Fifo.taken_prefix, fun empty => Fifo.taken_eq_offered ?_⟩
  rw [queued.waiting side, empty]
  rfl

end

/-- The tunnel of the two hosts of the example. -/
def exampleEnds : TunnelEnds where
  peer := fun side => if side then "a" else "b"
  addr := fun _ => ("198.51.100.7", 50000)

def exampleLink : Link where
  hosts := fun side => (examplePeers side).host
  wires := fun _ => []
  sent := fun _ => []
  delivered := fun _ => []

/-- A packet and a keep-alive cross the tunnel. -/
def exampleCrossing : List LinkEvent :=
  [.atHost false (.control (.peerOnline "b" "net" (some "25.1.0.2") none)),
    .atHost false (.tunRead exampleRead exampleNonce true), .atHost false (.keepalive "b" true),
    .arrive true 7, .arrive true 8]

theorem exampleLink_starts : exampleEnds.LinkStart exampleCipher exampleLink where
  established := fun side => by
    cases side with
    | false => exact ⟨⟨_, rfl, rfl, rfl, rfl, rfl⟩, rfl, rfl⟩
    | true => exact ⟨⟨_, rfl, rfl, rfl, rfl, rfl⟩, rfl, rfl⟩
  wires := fun _ => rfl
  sent := fun _ => rfl
  delivered := fun _ => rfl

theorem tunnel_refines_queues_example :
    ∃ final, runFrom (exampleEnds.linkStep plainUnicode zeroTagAead fun _ => none) exampleLink
        exampleCrossing = some final ∧
      final.delivered true = [exampleRead.bytes] ∧ final.delivered true = final.sent false := by
  have crossed : ∃ final, runFrom (exampleEnds.linkStep plainUnicode zeroTagAead fun _ => none)
        exampleLink exampleCrossing = some final ∧
      final.delivered true = [exampleRead.bytes] ∧ final.wires true = [] := ⟨_, rfl, rfl, rfl⟩
  have undisturbed : HoldsAlong (exampleEnds.linkStep plainUnicode zeroTagAead fun _ => none)
      exampleEnds.Undisturbed exampleLink exampleCrossing :=
    ⟨rfl, fun _ _ => ⟨trivial, fun _ _ => ⟨trivial, fun _ _ => ⟨trivial, fun _ _ =>
      ⟨trivial, fun _ _ => trivial⟩⟩⟩⟩⟩
  obtain ⟨final, ran, delivered, empty⟩ := crossed
  exact ⟨final, ran, delivered,
    ((tunnel_refines_queues zeroTagAead_inverts exampleLink_starts undisturbed ran).2 true).2
      empty⟩

end LocalNetwork
