/-
This file models the data plane of `client/main.py`: the loop that reads packets from the TUN
interface and sends each through the tunnel of the peer that owns its destination address, the
loop that writes what the tunnels deliver to the interface, and the frames that come over the
control channel. It joins the tables of `ClientDaemon`, the ARP helpers and the tunnels.

The datagrams on the network are the environment's: any datagram may arrive at any tunnel. A
packet is taken from a socket and handled in one step.

A packet that the interface returns is short enough to be framed and an ARP reply can always be
built, so the loop that reads the interface never ends with an exception.
-/

import LocalNetwork.Arp
import LocalNetwork.ClientDaemon
import LocalNetwork.HolePunch
import LocalNetwork.Transition

namespace LocalNetwork

/-! ### Packets -/

def virtualMtu : Nat := 1400

/-- `UDP_RECV_BUFFER`. -/
def udpRecvBuffer : Nat := maxFramePayload + 32

/-- A packet as the interface returns it: a read asks for 64 bytes more than the MTU. -/
structure TunPacket where
  bytes : Bytes
  short : bytes.length ≤ virtualMtu + 64

/-- `_extract_dst_ip_from_packet`. -/
def extractDstIpFromPacket (packet : Bytes) : Option String :=
  if packet.length < 20 then none
  else
    match packet with
    | [] => none
    | versionIhl :: _ =>
      if versionIhl.toNat >>> 4 ≠ 4 then none
      else (inetNtoa (slice packet 16 20)).toOption

/-! ### A host -/

/-- What hands a packet to the interface. -/
inductive TunSource where
  | arp
  | tunnel (peerId : String)
  | relay (srcId : String)
  deriving DecidableEq

structure Host where
  daemon : ClientDaemon
  /-- The interface is open. -/
  tun : Bool
  /-- The task that reads the interface has not ended with an exception. -/
  reading : Bool
  shutdown : Bool

/-- What an event leaves, what it hands to the interface, and the datagram that a socket takes with
the peer whose tunnel has the socket. -/
structure HostEffect where
  host : Host
  written : Option (TunSource × Bytes)
  sent : Option (String × Bytes × Addr)

inductive HostEvent where
  /-- One round of `_tun_read_loop`; `taken` says whether the socket takes the datagram. -/
  | tunRead (packet : TunPacket) (nonce : Nonce) (taken : Bool)
  /-- A datagram arrives at the tunnel of a peer. -/
  | datagram (peerId : String) (data : Bytes) (addr : Addr) (now : Time)
  | keepalive (peerId : String) (taken : Bool)
  | relayFrame (srcId frameB64 : String)
  | control (event : DaemonEvent)
  | requestShutdown

namespace Host

/-- A tunnel of the table has changed. -/
def storeTunnel (host : Host) (tunnel : PeerTunnel) : Host :=
  { host with daemon := { host.daemon with
      tunnels := host.daemon.tunnels.map fun manager => manager.store tunnel } }

/-- The peer that a packet is routed to, if its destination has an owner. -/
def route (host : Host) (packet : Bytes) : Option String :=
  (extractDstIpFromPacket packet).bind host.daemon.ipToPeer.get?

/-- The outcome of a socket that takes a datagram or raises. -/
def socketTakes (taken : Bool) (frame : Bytes) (_ : Addr) : Option Nat :=
  if taken then some frame.length else none

variable (unicode : UnicodeData) (aead : AesGcm) (b64decode : String → Option Bytes)

/-- Send a packet through the tunnel of a peer. An exception ends the task. -/
def forward (host : Host) (peerId : String) (packet : Bytes) (nonce : Nonce) (taken : Bool) :
    HostEffect :=
  match host.daemon.tunnelTo peerId with
  | none => ⟨host, none, none⟩
  | some tunnel =>
    let outcome := sendData aead (socketTakes taken) tunnel packet nonce
    let after := host.storeTunnel outcome.tunnel
    match outcome.returned with
    | .error _ => ⟨{ after with reading := false }, none, none⟩
    | .ok _ => ⟨after, none, if taken then outcome.datagram.map (peerId, ·) else none⟩

/-- The body of `_tun_read_loop` for one packet. -/
def tunReadBody (host : Host) (packet : Bytes) (nonce : Nonce) (taken : Bool) : HostEffect :=
  if isArpForUs packet host.daemon.ipToPeer.keys then
    match buildArpReplyForTun unicode packet host.daemon.ipToPeer with
    | none => ⟨{ host with reading := false }, none, none⟩
    | some none => ⟨host, none, none⟩
    | some (some reply) =>
      if reply = [] then ⟨host, none, none⟩ else ⟨host, some (.arp, reply), none⟩
  else
    match host.route packet with
    | none => ⟨host, none, none⟩
    | some peerId => host.forward aead peerId packet nonce taken

/-- One datagram of `recv_loop`, and what `_tunnel_recv_loop` does with what it yields. -/
def receive (host : Host) (tunnel : PeerTunnel) (data : Bytes) (addr : Addr) (now : Time) :
    HostEffect :=
  let outcome := handleFrame aead tunnel (data.take udpRecvBuffer) addr now
  { host := host.storeTunnel outcome.tunnel
    written := if host.shutdown then none else outcome.payload.map (.tunnel tunnel.peerId, ·)
    sent := outcome.reply.map (tunnel.peerId, ·) }

/-- `_on_relay_frame`; an exception of the decoder is logged. -/
def onRelayFrame (host : Host) (srcId frameB64 : String) : Option (TunSource × Bytes) :=
  if host.daemon.tunnels.isNone ∨ frameB64 = "" then none
  else
    match b64decode frameB64 with
    | none => none
    | some raw =>
      if (host.daemon.tunnelTo srcId).isSome ∧ host.tun then some (.relay srcId, raw) else none

/-- What an event does, none where it cannot happen. -/
def effect (host : Host) : HostEvent → Option HostEffect
  | .tunRead packet nonce taken =>
    if host.tun ∧ host.reading ∧ ¬ host.shutdown then
      some (host.tunReadBody unicode aead packet.bytes nonce taken)
    else none
  | .datagram peerId data addr now =>
    match host.daemon.tunnelTo peerId with
    | none => none
    | some tunnel =>
      if host.tun ∧ tunnel.state = .connected ∧ tunnel.socket.isSome then
        some (host.receive aead tunnel data addr now)
      else none
  | .keepalive peerId taken =>
    (host.daemon.tunnelTo peerId).map fun tunnel =>
      ⟨host, none, if taken then (sendKeepalive tunnel).map (peerId, ·) else none⟩
  | .relayFrame srcId frameB64 => some ⟨host, host.onRelayFrame b64decode srcId frameB64, none⟩
  | .control event => some ⟨{ host with daemon := host.daemon.handle event }, none, none⟩
  | .requestShutdown => some ⟨{ host with shutdown := true }, none, none⟩

/-- A host that has just started. -/
def start (clientId : String) (virtualIp : Option String) (opened : Bool)
    (tunnels : Option TunnelManager) : Host where
  daemon := (ClientDaemon.start clientId tunnels).setupTun virtualIp opened
  tun := opened
  reading := true
  shutdown := false

end Host

/-! ### The tunnels of a host -/

theorem TunnelManager.peerId_of_getTunnel {manager : TunnelManager} {peerId : String}
    {tunnel : PeerTunnel} (found : manager.getTunnel peerId = some tunnel) :
    tunnel.peerId = peerId :=
  manager.keyed peerId tunnel found

theorem ClientDaemon.peerId_of_tunnelTo {daemon : ClientDaemon} {peerId : String}
    {tunnel : PeerTunnel} (found : daemon.tunnelTo peerId = some tunnel) :
    tunnel.peerId = peerId := by
  obtain ⟨manager, -, stored⟩ := Option.bind_eq_some_iff.mp found
  exact TunnelManager.peerId_of_getTunnel stored

namespace Host

variable {host : Host} {peerId other : String} {tunnel changed : PeerTunnel}

theorem storeTunnel_tunnelTo (found : host.daemon.tunnelTo peerId = some tunnel)
    (same : changed.peerId = peerId) :
    (host.storeTunnel changed).daemon.tunnelTo other =
      if other = peerId then some changed else host.daemon.tunnelTo other := by
  obtain ⟨manager, has, -⟩ := Option.bind_eq_some_iff.mp found
  simp only [storeTunnel, ClientDaemon.tunnelTo, has, Option.map_some, Option.bind_some,
    TunnelManager.getTunnel, TunnelManager.store, Dict.get?_insert, same]

@[simp]
theorem storeTunnel_ipToPeer : (host.storeTunnel changed).daemon.ipToPeer = host.daemon.ipToPeer :=
  rfl

@[simp]
theorem storeTunnel_clientId : (host.storeTunnel changed).daemon.clientId = host.daemon.clientId :=
  rfl

end Host

theorem handleFrame_peerId (aead : AesGcm) (tunnel : PeerTunnel) (data : Bytes) (addr : Addr)
    (now : Time) : (handleFrame aead tunnel data addr now).tunnel.peerId = tunnel.peerId := by
  rcases handleFrame_cases aead tunnel data addr now with ⟨_, _, _, _, _, after⟩ | after
  · rw [after]
  · rw [after]

/-! ### The loop that reads the interface -/

/-- A frame of a length that the header can say is packed. -/
theorem exists_packFrame (type : Nat) (payload : Bytes) (seqNum : Int) (authTag : Option Bytes)
    (typed : type ≤ 255) (fits : payload.length ≤ maxFramePayload)
    (tagged : (authTag.getD (List.replicate gcmTagSize 0)).length = gcmTagSize) :
    ∃ frame, packFrame type payload seqNum frameVersion authTag = .ok frame := by
  unfold packFrame
  rw [if_neg (Nat.not_lt_of_ge fits), if_neg (not_not_intro rfl)]
  dsimp only
  rw [if_neg (not_not_intro tagged), if_neg (Nat.not_lt_of_ge typed)]
  exact ⟨_, rfl⟩

theorem length_packFrame {type : Nat} {payload : Bytes} {seqNum : Int} {authTag : Option Bytes}
    {frame : Bytes} (packed : packFrame type payload seqNum frameVersion authTag = .ok frame) :
    frame.length ≤ udpRecvBuffer := by
  obtain ⟨-, fits, tagged, rfl⟩ := packFrame_inversion packed
  simp only [List.length_append, headerBytes_length, tagged]
  unfold udpRecvBuffer frameHeaderSize gcmTagSize
  omega

/-- A packet with room for the nonce is sent without an exception. -/
theorem sendData_returned (aead : AesGcm) (inverts : aead.Inverts)
    (sendto : Bytes → Addr → Option Nat) (tunnel : PeerTunnel) (packet : Bytes) (nonce : Nonce)
    (fits : packet.length + nonceLength ≤ maxFramePayload) :
    ∃ sent, (sendData aead sendto tunnel packet nonce).returned = .ok sent := by
  unfold sendData
  split
  · exact ⟨0, rfl⟩
  · split
    · dsimp only
      split
      · rename_i frame raised
        split at raised
        · rename_i cipher keyed
          obtain ⟨packed, made⟩ := exists_packFrame frameData
            (cipher.encrypt aead nonce packet []).1 (tunnel.txSeq + 1 : Nat)
            (some (cipher.encrypt aead nonce packet []).2) (by decide)
            (by rw [cipher.encrypt_ciphertext_length aead inverts]; exact fits)
            (cipher.encrypt_tag_length aead inverts nonce packet [])
          rw [made] at raised
          cases raised
        · obtain ⟨packed, made⟩ := exists_packFrame frameData packet (tunnel.txSeq + 1 : Nat) none
            (by decide) (Nat.le_of_add_right_le fits) List.length_replicate
          rw [made] at raised
          cases raised
      · exact ⟨_, rfl⟩
    · exact ⟨0, rfl⟩

theorem TunPacket.fits (packet : TunPacket) :
    packet.bytes.length + nonceLength ≤ maxFramePayload := by
  have short := packet.short
  unfold virtualMtu at short
  unfold nonceLength maxFramePayload
  omega

namespace Host

variable {unicode : UnicodeData} {aead : AesGcm} {b64decode : String → Option Bytes} {host : Host}
  {peerId : String}

/-- What forwarding a packet from the interface does: nothing without a tunnel, else the tunnel
sends it. -/
theorem forward_cases (inverts : aead.Inverts) (packet : TunPacket) (nonce : Nonce)
    (taken : Bool) :
    host.daemon.tunnelTo peerId = none ∧
        host.forward aead peerId packet.bytes nonce taken = ⟨host, none, none⟩ ∨
      ∃ tunnel, host.daemon.tunnelTo peerId = some tunnel ∧
        host.forward aead peerId packet.bytes nonce taken =
          ⟨host.storeTunnel (sendData aead (socketTakes taken) tunnel packet.bytes nonce).tunnel,
            none,
            if taken then
              (sendData aead (socketTakes taken) tunnel packet.bytes nonce).datagram.map (peerId, ·)
            else none⟩ := by
  unfold forward
  cases found : host.daemon.tunnelTo peerId with
  | none => exact .inl ⟨rfl, rfl⟩
  | some tunnel =>
    obtain ⟨sent, returned⟩ :=
      sendData_returned aead inverts (socketTakes taken) tunnel packet.bytes nonce packet.fits
    refine .inr ⟨tunnel, rfl, ?_⟩
    dsimp only
    rw [returned]

/-- What one round of the loop does: an answer to an ARP request at most, or the packet is
forwarded to the peer it is routed to. -/
theorem tunReadBody_cases (packet : Bytes) (nonce : Nonce) (taken : Bool) :
    (∃ written, host.tunReadBody unicode aead packet nonce taken = ⟨host, written, none⟩ ∧
        ∀ origin bytes, written = some (origin, bytes) → origin = .arp) ∨
      isArpForUs packet host.daemon.ipToPeer.keys = false ∧
        ∃ peerId, host.route packet = some peerId ∧
          host.tunReadBody unicode aead packet nonce taken =
            host.forward aead peerId packet nonce taken := by
  unfold tunReadBody
  by_cases asked : isArpForUs packet host.daemon.ipToPeer.keys = true
  · rw [if_pos asked]
    left
    rcases buildArpReplyForTun_cases unicode packet host.daemon.ipToPeer with
      nothing | ⟨_, answer, -, -, built, -⟩
    · rw [nothing]
      exact ⟨none, rfl, nofun⟩
    · rw [built]
      dsimp only
      split
      · exact ⟨none, rfl, nofun⟩
      · refine ⟨_, rfl, fun origin bytes same => ?_⟩
        exact (congrArg Prod.fst (Option.some.inj same)).symm
  · rw [if_neg asked]
    cases routed : host.route packet with
    | none => exact .inl ⟨none, rfl, nofun⟩
    | some peerId => exact .inr ⟨eq_false_of_ne_true asked, peerId, rfl, rfl⟩

/-- No event but one of the control channel changes the owners of the addresses, and none ends the
loop that reads the interface. -/
theorem effect_kept (inverts : aead.Inverts) {event : HostEvent} {effect : HostEffect}
    (happened : host.effect unicode aead b64decode event = some effect) :
    effect.host.reading = host.reading ∧ effect.host.tun = host.tun ∧
      effect.host.daemon.clientId = host.daemon.clientId ∧
      ((∀ heard, event ≠ .control heard) →
        effect.host.daemon.ipToPeer = host.daemon.ipToPeer) := by
  cases event with
  | tunRead packet nonce taken =>
    rw [Host.effect] at happened
    split at happened
    · obtain rfl := Option.some.inj happened
      rcases @tunReadBody_cases unicode aead host packet.bytes nonce taken with
        ⟨written, body, -⟩ | ⟨-, peerId, -, body⟩
      · rw [body]
        exact ⟨rfl, rfl, rfl, fun _ => rfl⟩
      · rw [body]
        rcases @forward_cases aead host peerId inverts packet nonce taken with
          ⟨-, forwarded⟩ | ⟨tunnel, -, forwarded⟩
        · rw [forwarded]
          exact ⟨rfl, rfl, rfl, fun _ => rfl⟩
        · rw [forwarded]
          exact ⟨rfl, rfl, rfl, fun _ => rfl⟩
    · cases happened
  | datagram peerId data addr now =>
    rw [Host.effect] at happened
    split at happened
    · cases happened
    · split at happened
      · obtain rfl := Option.some.inj happened
        exact ⟨rfl, rfl, rfl, fun _ => rfl⟩
      · cases happened
  | keepalive peerId taken =>
    obtain ⟨tunnel, -, rfl⟩ := Option.map_eq_some_iff.mp happened
    exact ⟨rfl, rfl, rfl, fun _ => rfl⟩
  | relayFrame srcId frameB64 =>
    obtain rfl := Option.some.inj happened
    exact ⟨rfl, rfl, rfl, fun _ => rfl⟩
  | control heard =>
    obtain rfl := Option.some.inj happened
    refine ⟨rfl, rfl, ?_, fun other => absurd rfl (other heard)⟩
    cases host.daemon.handle_cases heard with
    | ignored _ same => exact congrArg ClientDaemon.clientId same
    | entered _ _ _ _ _ _ tables _ => exact tables.clientId
    | left _ _ _ tables _ => exact tables.clientId
    | otherTasks _ => rfl
  | requestShutdown =>
    obtain rfl := Option.some.inj happened
    exact ⟨rfl, rfl, rfl, fun _ => rfl⟩

end Host

end LocalNetwork
