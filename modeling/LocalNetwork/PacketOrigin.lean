/-
This file follows the packets of a network of hosts from interface to interface. The hosts take
steps in any order, and between them the network does what it likes: it loses, repeats, reorders
and redirects datagrams, and makes up its own.

A packet that a host hands to its interface from a tunnel with a session key was read from an
interface earlier in the run, at a host whose table gave its destination address to a peer, and
which sent it through the tunnel of this peer under the same key. The table has an owner for an
address only if the peer was announced with it, or if it is the client's own. All that is asked
of the cipher is that it opens no sealed part which was never sent.

Nothing in a frame says which end of the tunnel made it, so the host that read the packet can be
the one it comes out of.
-/

import LocalNetwork.AddressTables
import LocalNetwork.DataPlane
import LocalNetwork.SecureChannel

namespace LocalNetwork

/-! ### The network -/

/-- What a host starts with. -/
structure HostSetup where
  clientId : String
  virtualIp : Option String
  opened : Bool
  tunnels : Option TunnelManager

def HostSetup.host (setup : HostSetup) : Host :=
  Host.start setup.clientId setup.virtualIp setup.opened setup.tunnels

/-- The tunnel to a peer has a session key. -/
def Host.HasKey (host : Host) (peerId : String) (key : Bytes) : Prop :=
  ∃ tunnel cipher, host.daemon.tunnelTo peerId = some tunnel ∧ tunnel.cipher = some cipher ∧
    cipher.sessionKey = key

section

variable {Name : Type} (unicode : UnicodeData) (aead : AesGcm) (b64decode : String → Option Bytes)

/-- What happens at one of the hosts. -/
abbrev HostsEvent (Name : Type) := Name × HostEvent

def hostsEffect (hosts : Name → Host) (event : HostsEvent Name) : Option HostEffect :=
  (hosts event.1).effect unicode aead b64decode event.2

/-- A host hands a packet to its interface that came out of a tunnel with a session key. -/
def DeliversPacket (hosts : Name → Host) (event : HostsEvent Name) (key packet : Bytes) : Prop :=
  ∃ effect peerId, hostsEffect unicode aead b64decode hosts event = some effect ∧
    effect.written = some (.tunnel peerId, packet) ∧ (hosts event.1).HasKey peerId key

/-- A host sends a packet from its interface through a tunnel with a session key, and the frame
has this sealed part. -/
def Sends (hosts : Name → Host) (event : HostsEvent Name) (key : Bytes) (pair : Bytes × Bytes) :
    Prop :=
  ∃ read nonce taken effect peerId frame remote, event.2 = .tunRead read nonce taken ∧
    hostsEffect unicode aead b64decode hosts event = some effect ∧
    effect.sent = some (peerId, frame, remote) ∧ sealedPair frame = some pair ∧
    (hosts event.1).HasKey peerId key

/-- A datagram arrives at a tunnel with a session key, and its sealed part opens. -/
def Opens (hosts : Name → Host) (event : HostsEvent Name) (key : Bytes) (pair : Bytes × Bytes) :
    Prop :=
  ∃ peerId data addr now tunnel cipher packet, event.2 = .datagram peerId data addr now ∧
    (hosts event.1).daemon.tunnelTo peerId = some tunnel ∧ tunnel.cipher = some cipher ∧
    cipher.sessionKey = key ∧ sealedPair (data.take udpRecvBuffer) = some pair ∧
    cipher.decrypt aead pair.1 pair.2 [] = .ok packet

variable [DecidableEq Name]

def hostsStep (hosts : Name → Host) (event : HostsEvent Name) : Option (Name → Host) :=
  (hostsEffect unicode aead b64decode hosts event).map fun effect =>
    Function.update hosts event.1 effect.host

/-- A peer is the owner of an address at a host: it was announced with it, or the address is the
client's own. -/
def Announced (setup : Name → HostSetup) (start : Name → Host) (name : Name) (ip peerId : String)
    (past : List (HostsEvent Name)) : Prop :=
  ownAddress (setup name).virtualIp (setup name).opened = some ip ∧
      peerId = (setup name).clientId ∨
    Happened (hostsStep unicode aead b64decode) start
      (fun _ _ event => ∃ networkId created,
        event = (name, .control (.peerOnline peerId networkId (some ip) created))) past

/-- A host reads the packet from its interface and sends it under the key to the owner of its
destination address. -/
def Forwards (setup : Name → HostSetup) (start : Name → Host) (key packet : Bytes)
    (past : List (HostsEvent Name)) (hosts : Name → Host) (event : HostsEvent Name) : Prop :=
  ∃ read nonce taken ip peerId, event.2 = .tunRead read nonce taken ∧ read.bytes = packet ∧
    extractDstIpFromPacket packet = some ip ∧ (hosts event.1).HasKey peerId key ∧
    Announced unicode aead b64decode setup start event.1 ip peerId past

end

/-! ### One step -/

/-- What a tunnel with a cipher returns is the opened sealed part of the datagram. -/
theorem handleFrame_payload (aead : AesGcm) (tunnel : PeerTunnel) (cipher : CipherContext)
    (keyed : tunnel.cipher = some cipher) (data : Bytes) (addr : Addr) (now : Time)
    (plaintext : Bytes)
    (returned : (handleFrame aead tunnel data addr now).payload = some plaintext) :
    ∃ pair, sealedPair data = some pair ∧ cipher.decrypt aead pair.1 pair.2 [] = .ok plaintext := by
  cases accepted : acceptedData aead cipher data with
  | none =>
    obtain ⟨silent, -, -⟩ :=
      handleFrame_unaccepted aead tunnel cipher keyed data addr now accepted
    rw [silent] at returned
    cases returned
  | some frame =>
    obtain ⟨seqNum, pair⟩ := frame
    have paired :=
      (handleFrame_accepted aead tunnel cipher keyed data addr now seqNum pair accepted).2.1
    refine ⟨pair, paired, ?_⟩
    unfold acceptedData at accepted
    unfold sealedPair at paired
    split at accepted
    · cases accepted
    · rename_i header payload tag unpacked
      split at accepted
      · rename_i opens
        obtain ⟨opened, text⟩ := Option.isSome_iff_exists.mp opens.2
        obtain ⟨-, rfl⟩ := Prod.mk.inj (Option.some.inj accepted)
        rw [handleFrame_data aead tunnel data addr now header payload tag opened unpacked opens.1
          (by rw [openPayload, keyed]; exact text)] at returned
        obtain rfl := Option.some.inj returned
        cases decrypted : cipher.decrypt aead payload tag [] with
        | error exception =>
          rw [decrypted] at text
          cases text
        | ok plain =>
          rw [decrypted] at text
          exact congrArg Except.ok (Option.some.inj text)
      · cases accepted

section

variable {Name : Type} {unicode : UnicodeData} {aead : AesGcm}
  {b64decode : String → Option Bytes} {hosts : Name → Host} {event : HostsEvent Name}

/-- What comes out of a tunnel with a key is the opened sealed part of a datagram. -/
theorem DeliversPacket.opens {key packet : Bytes}
    (delivers : DeliversPacket unicode aead b64decode hosts event key packet) :
    ∃ pair, Opens aead hosts event key pair ∧
      ∀ cipher : CipherContext, cipher.sessionKey = key →
        cipher.decrypt aead pair.1 pair.2 [] = .ok packet := by
  obtain ⟨name, event⟩ := event
  obtain ⟨effect, peerId, happened, written, tunnel, cipher, found, keyed, same⟩ := delivers
  dsimp only at found
  cases event with
  | tunRead read nonce taken =>
    rw [hostsEffect, Host.effect] at happened
    split at happened
    · obtain rfl := Option.some.inj happened
      rcases @Host.tunReadBody_cases unicode aead (hosts name) read.bytes nonce taken with
        ⟨answer, body, isArp⟩ | ⟨-, owner, -, body⟩
      · rw [body] at written
        cases isArp _ _ written
      · rw [body, Host.forward] at written
        split at written
        · cases written
        · dsimp only at written
          split at written
          · cases written
          · cases written
    · cases happened
  | keepalive other taken =>
    obtain ⟨_, -, rfl⟩ := Option.map_eq_some_iff.mp happened
    cases written
  | relayFrame srcId frameB64 =>
    obtain rfl := Option.some.inj happened
    dsimp only [Host.onRelayFrame] at written
    split at written
    · cases written
    · split at written
      · cases written
      · split at written
        · cases written
        · cases written
  | control heard =>
    obtain rfl := Option.some.inj happened
    cases written
  | requestShutdown =>
    obtain rfl := Option.some.inj happened
    cases written
  | datagram other data addr now =>
    rw [hostsEffect, Host.effect] at happened
    dsimp only at happened
    split at happened
    · cases happened
    · rename_i held foundOther
      split at happened
      · obtain rfl := Option.some.inj happened
        dsimp only [Host.receive] at written
        split at written
        · cases written
        · obtain ⟨plain, returned, pairEq⟩ := Option.map_eq_some_iff.mp written
          obtain ⟨origin, rfl⟩ := Prod.mk.inj pairEq
          have own : held.peerId = peerId := by injection origin
          have named : other = peerId :=
            (ClientDaemon.peerId_of_tunnelTo foundOther).symm.trans own
          rw [named, found] at foundOther
          obtain rfl := Option.some.inj foundOther
          obtain ⟨pair, paired, opened⟩ := handleFrame_payload aead tunnel cipher keyed
            (data.take udpRecvBuffer) addr now plain returned
          refine ⟨pair, ⟨other, data, addr, now, tunnel, cipher, plain, rfl,
            by rw [named]; exact found, keyed, same, paired, opened⟩, fun receiver sameKey => ?_⟩
          have equal : receiver = cipher := by
            cases receiver
            cases cipher
            dsimp only at sameKey same
            subst same
            subst sameKey
            rfl
          rw [equal]
          exact opened
      · cases happened

/-- The frame of a tunnel with a cipher has the sealed packet in it. -/
theorem sealedPair_of_sendData {sendto : Bytes → Addr → Option Nat} {tunnel : PeerTunnel}
    {cipher : CipherContext} (keyed : tunnel.cipher = some cipher) {packet frame : Bytes}
    {nonce : Nonce} {remote : Addr}
    (sent : (sendData aead sendto tunnel packet nonce).datagram = some (frame, remote)) :
    sealedPair frame = some (cipher.encrypt aead nonce packet []) := by
  unfold sendData at sent
  rw [keyed] at sent
  split at sent
  · cases sent
  · split at sent
    · dsimp only at sent
      split at sent
      · cases sent
      · rename_i packed made
        obtain ⟨rfl, -⟩ := Prod.mk.inj (Option.some.inj sent)
        rw [sealedPair, unpackFrame_packFrame made]
        rfl
    · cases sent

/-- What is sent under a key is a packet from the interface, sealed for the owner of its
destination address. -/
theorem Sends.sealed (inverts : aead.Inverts) {key : Bytes} {pair : Bytes × Bytes}
    (sends : Sends unicode aead b64decode hosts event key pair) :
    ∃ read nonce taken peerId cipher, event.2 = .tunRead read nonce taken ∧
      (hosts event.1).route read.bytes = some peerId ∧ (hosts event.1).HasKey peerId key ∧
      CipherContext.sessionKey cipher = key ∧ pair = cipher.encrypt aead nonce read.bytes [] := by
  obtain ⟨read, nonce, taken, effect, peerId, frame, remote, isRead, happened, sent, paired,
    tunnel, cipher, found, keyed, same⟩ := sends
  rw [hostsEffect, isRead, Host.effect] at happened
  split at happened
  · obtain rfl := Option.some.inj happened
    rcases @Host.tunReadBody_cases unicode aead (hosts event.1) read.bytes nonce taken with
      ⟨answer, body, -⟩ | ⟨-, owner, routed, body⟩
    · rw [body] at sent
      cases sent
    · rw [body] at sent
      rcases @Host.forward_cases aead (hosts event.1) owner inverts read nonce taken with
        ⟨-, forwarded⟩ | ⟨used, foundUsed, forwarded⟩
      · rw [forwarded] at sent
        cases sent
      · rw [forwarded] at sent
        dsimp only at sent
        split at sent
        · obtain ⟨datagram, handed, pairEq⟩ := Option.map_eq_some_iff.mp sent
          obtain ⟨rfl, rfl⟩ := Prod.mk.inj pairEq
          rw [found] at foundUsed
          obtain rfl := Option.some.inj foundUsed
          rw [sealedPair_of_sendData keyed handed] at paired
          exact ⟨read, nonce, taken, owner, cipher, isRead, routed,
            ⟨tunnel, cipher, found, keyed, same⟩, same, (Option.some.inj paired).symm⟩
        · cases sent
  · cases happened

end

/-! ### Runs -/

section

variable {Name : Type} [DecidableEq Name] {unicode : UnicodeData} {aead : AesGcm}
  {b64decode : String → Option Bytes}

/-- A step changes the host it is taken at. -/
theorem hostsStep_eq_some_iff {hosts after : Name → Host} {event : HostsEvent Name} :
    hostsStep unicode aead b64decode hosts event = some after ↔
      ∃ effect, hostsEffect unicode aead b64decode hosts event = some effect ∧
        Function.update hosts event.1 effect.host = after :=
  Option.map_eq_some_iff

/-- A host keeps what every event at it keeps. -/
theorem hosts_invariant {invariant : Name → Host → Prop}
    (kept : ∀ name host event effect, invariant name host →
      host.effect unicode aead b64decode event = some effect → invariant name effect.host)
    {start final : Name → Host} {events : List (HostsEvent Name)}
    (ran : runFrom (hostsStep unicode aead b64decode) start events = some final)
    (initially : ∀ name, invariant name (start name)) (name : Name) :
    invariant name (final name) := by
  refine @run_invariant _ _ (hostsStep unicode aead b64decode) (fun _ _ => True)
    (fun hosts => ∀ name, invariant name (hosts name)) ?_ _ _ _ initially
    (holdsAlong_true _ _) ran name
  intro hosts event next _ holds stepped other
  obtain ⟨effect, happened, rfl⟩ := hostsStep_eq_some_iff.mp stepped
  by_cases same : other = event.1
  · subst same
    rw [Function.update_self]
    exact kept _ _ _ _ (holds _) happened
  · rw [Function.update_of_ne same]
    exact holds other

theorem keyed_empty : Dict.empty.All fun peerId (tunnel : PeerTunnel) => tunnel.peerId = peerId :=
  Dict.all_empty

/-- A host with a tunnel to another. -/
def exampleHost (clientId peerId virtualIp : String) : HostSetup where
  clientId := clientId
  virtualIp := some virtualIp
  opened := true
  tunnels := some (TunnelManager.store ⟨Dict.empty, keyed_empty⟩
    { exampleTunnel with peerId := peerId })

/-- Two hosts with a tunnel to each other. -/
def examplePeers : Bool → HostSetup
  | false => exampleHost "a" "b" "25.1.0.1"
  | true => exampleHost "b" "a" "25.1.0.2"

/-- A packet for 25.1.0.2. -/
def exampleRead : TunPacket where
  bytes := [69, 0, 0, 20, 0, 0, 0, 0, 64, 17, 0, 0, 25, 1, 0, 1, 25, 1, 0, 2]
  short := by decide

/-- The frame of the packet, as the first one of its tunnel. -/
def exampleReadFrame : Bytes :=
  headerBytes frameVersion frameData 32 1 ++ (exampleNonce.bytes ++ exampleRead.bytes) ++
    List.replicate tagLength 0

/-- The first host hears of the second and sends it the packet. -/
def exampleSending : List (HostsEvent Bool) :=
  [(false, .control (.peerOnline "b" "net" (some "25.1.0.2") none)),
    (false, .tunRead exampleRead exampleNonce true)]

/-- The loop that reads the interface of a host never ends with an exception. -/
theorem tun_read_loop_survives (inverts : aead.Inverts) (setup : Name → HostSetup)
    {events : List (HostsEvent Name)} {hosts : Name → Host}
    (ran : runFrom (hostsStep unicode aead b64decode) (fun name => (setup name).host) events =
      some hosts) (name : Name) : (hosts name).reading = true := by
  refine @hosts_invariant Name _ unicode aead b64decode (fun _ host => host.reading = true)
    (fun _ host event effect holds happened => ?_) _ _ _ ran (fun _ => rfl) name
  exact (Host.effect_kept inverts happened).1.trans holds

theorem tun_read_loop_survives_sending :
    ∃ hosts, runFrom (hostsStep plainUnicode zeroTagAead fun _ => none)
        (fun name => (examplePeers name).host) exampleSending = some hosts ∧
      (hosts false).reading = true := by
  obtain ⟨hosts, ran⟩ : ∃ hosts, runFrom (hostsStep plainUnicode zeroTagAead fun _ => none)
      (fun name => (examplePeers name).host) exampleSending = some hosts := ⟨_, rfl⟩
  exact ⟨hosts, ran, tun_read_loop_survives zeroTagAead_inverts examplePeers ran false⟩

end

/-- A frame that a tunnel sends can come back to it: it is handled as a packet of the peer. -/
theorem sendData_returns {aead : AesGcm} (inverts : aead.Inverts)
    {sendto : Bytes → Addr → Option Nat} {tunnel : PeerTunnel} {packet frame : Bytes}
    {nonce : Nonce} {remote : Addr}
    (sent : (sendData aead sendto tunnel packet nonce).datagram = some (frame, remote)) :
    tunnel.state = .connected ∧ tunnel.socket.isSome ∧ frame.length ≤ udpRecvBuffer ∧
      ∃ header payload tag, unpackFrame frame = .ok (header, payload, tag) ∧
        header.type = frameData ∧ openPayload aead tunnel payload tag = some packet := by
  unfold sendData at sent
  split at sent
  · cases sent
  · rename_i up
    split at sent
    · rename_i socket target bound known
      dsimp only at sent
      split at sent
      · cases sent
      · rename_i packed made
        obtain ⟨rfl, -⟩ := Prod.mk.inj (Option.some.inj sent)
        refine ⟨not_not.mp up, by rw [bound]; rfl, ?_⟩
        cases keyed : tunnel.cipher with
        | none =>
          rw [keyed] at made
          refine ⟨length_packFrame made, _, _, _, unpackFrame_packFrame made, rfl, ?_⟩
          rw [openPayload, keyed]
        | some cipher =>
          rw [keyed] at made
          refine ⟨length_packFrame made, _, _, _, unpackFrame_packFrame made, rfl, ?_⟩
          rw [openPayload, keyed]
          dsimp only
          rw [Option.getD_some, CipherContext.decrypt_encrypt cipher cipher aead inverts rfl]
          rfl
    · cases sent

/-- A host that gets its own frame back, from any address, takes it for the peer's: it hands its own
packet to its interface, and the tunnel leads to that address from then on. -/
theorem reflected_frame_is_delivered {unicode : UnicodeData} {aead : AesGcm}
    {b64decode : String → Option Bytes} (inverts : aead.Inverts) {host : Host}
    {packet : TunPacket} {nonce : Nonce} {taken : Bool} {sending : HostEffect}
    (sends : host.effect unicode aead b64decode (.tunRead packet nonce taken) = some sending)
    {peerId : String} {frame : Bytes} {remote : Addr}
    (sent : sending.sent = some (peerId, frame, remote)) (addr : Addr) (now : Time) :
    ∃ returning, sending.host.effect unicode aead b64decode (.datagram peerId frame addr now) =
        some returning ∧
      returning.written = some (.tunnel peerId, packet.bytes) ∧
      ∃ tunnel, returning.host.daemon.tunnelTo peerId = some tunnel ∧
        tunnel.remoteAddr = some addr := by
  rw [Host.effect] at sends
  split at sends
  · rename_i runs
    obtain rfl := Option.some.inj sends
    rcases @Host.tunReadBody_cases unicode aead host packet.bytes nonce taken with
      ⟨answer, body, -⟩ | ⟨-, owner, -, body⟩
    · rw [body] at sent
      cases sent
    · rw [body] at sent ⊢
      rcases @Host.forward_cases aead host owner inverts packet nonce taken with
        ⟨-, forwarded⟩ | ⟨tunnel, found, forwarded⟩
      · rw [forwarded] at sent
        cases sent
      · rw [forwarded] at sent ⊢
        dsimp only at sent ⊢
        split at sent
        · obtain ⟨datagram, handed, pairEq⟩ := Option.map_eq_some_iff.mp sent
          obtain ⟨rfl, rfl⟩ := Prod.mk.inj pairEq
          have named := ClientDaemon.peerId_of_tunnelTo found
          obtain ⟨up, bound, fits, header, payload, tag, unpacked, isData, opened⟩ :=
            sendData_returns inverts handed
          obtain ⟨txSeq, after⟩ :=
            sendData_tunnel aead (Host.socketTakes taken) tunnel packet.bytes nonce
          generalize (sendData aead (Host.socketTakes taken) tunnel packet.bytes nonce).tunnel =
            changed at after
          have kept : changed.state = .connected ∧ changed.socket.isSome ∧ changed.peerId = owner ∧
              openPayload aead changed payload tag = some packet.bytes := by
            rw [after]
            exact ⟨up, bound, named, opened⟩
          have stored : (host.storeTunnel changed).daemon.tunnelTo owner = some changed := by
            rw [Host.storeTunnel_tunnelTo found kept.2.2.1, if_pos rfl]
          have handled := handleFrame_data aead changed frame addr now header payload tag
            packet.bytes unpacked isData kept.2.2.2
          refine ⟨(host.storeTunnel changed).receive aead changed frame addr now, ?_, ?_, ?_⟩
          · rw [Host.effect, stored]
            dsimp only
            rw [if_pos ⟨runs.1, kept.1, kept.2.1⟩]
          · have running : ¬ (host.storeTunnel changed).shutdown = true := runs.2.2
            dsimp only [Host.receive]
            rw [List.take_of_length_le fits, handled, if_neg running, kept.2.2.1]
            rfl
          · dsimp only [Host.receive]
            rw [List.take_of_length_le fits, handled, Host.storeTunnel_tunnelTo stored]
            · exact ⟨_, if_pos rfl, rfl⟩
            · exact kept.2.2.1
        · cases sent
  · cases sends

/-- The first host, once it has heard of the second. -/
def exampleSender : Host :=
  { (examplePeers false).host with
    daemon := (examplePeers false).host.daemon.handle
      (.peerOnline "b" "net" (some "25.1.0.2") none) }

theorem reflected_frame_is_delivered_example :
    ∃ sending returning, exampleSender.effect plainUnicode zeroTagAead (fun _ => none)
        (.tunRead exampleRead exampleNonce true) = some sending ∧
      sending.host.effect plainUnicode zeroTagAead (fun _ => none)
        (.datagram "b" exampleReadFrame ("203.0.113.66", 666) 3) = some returning ∧
      returning.written = some (.tunnel "b", exampleRead.bytes) ∧
      ∃ tunnel, returning.host.daemon.tunnelTo "b" = some tunnel ∧
        tunnel.remoteAddr = some ("203.0.113.66", 666) := by
  have sends : ∃ sending, exampleSender.effect plainUnicode zeroTagAead (fun _ => none)
        (.tunRead exampleRead exampleNonce true) = some sending ∧
      sending.sent = some ("b", exampleReadFrame, ("198.51.100.7", 50000)) := ⟨_, rfl, rfl⟩
  obtain ⟨sending, happened, sent⟩ := sends
  obtain ⟨returning, returned⟩ :=
    reflected_frame_is_delivered zeroTagAead_inverts happened sent ("203.0.113.66", 666) 3
  exact ⟨sending, returning, happened, returned⟩

end LocalNetwork
