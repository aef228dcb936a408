/-
This file models the data plane of `client/tunnel_manager.py`: one tunnel, sending a
packet or a keep-alive through it, closing it, and handling one datagram. Reading the
clock and the outcome of a socket write are arguments; what is handed to the socket is
part of the result.

The specification lemmas at the end say once what handling a datagram can do, case by
case over the frame type, and that a packet crosses the tunnel unchanged.
-/

import LocalNetwork.Frame
import LocalNetwork.Cipher

namespace LocalNetwork

inductive PunchState where
  | idle
  | punching
  | connected
  | failed
  | closed
  deriving DecidableEq, Repr

/-- One encrypted tunnel to a peer. A socket is named by a number. -/
structure PeerTunnel where
  peerId : String
  peerIp : String
  state : PunchState
  socket : Option Nat
  cipher : Option CipherContext
  lastRx : Time
  txSeq : Nat
  rxSeq : Nat
  remoteAddr : Option Addr
  fallbackRelay : Bool
  ecdhPrivate : Option Bytes
  deriving DecidableEq

/-- A tunnel as its constructor leaves it, with the fields the callers pass. -/
def PeerTunnel.new (peerId peerIp : String) (state : PunchState) (socket : Option Nat)
    (ecdhPrivate : Option Bytes) : PeerTunnel where
  peerId := peerId
  peerIp := peerIp
  state := state
  socket := socket
  cipher := none
  lastRx := 0
  txSeq := 0
  rxSeq := 0
  remoteAddr := none
  fallbackRelay := false
  ecdhPrivate := ecdhPrivate

/-! ### Sending -/

/-- What sending does: the tunnel afterwards, the datagram handed to the socket, and the value
returned or the exception that escapes. -/
structure SendOutcome where
  tunnel : PeerTunnel
  datagram : Option (Bytes × Addr)
  returned : Except FrameException Nat

/-- Encrypt a packet and send it. `sendto` is the socket: the number of bytes sent, or none
for an `OSError`. The sequence number advances before the frame is packed. -/
def sendData (aead : AesGcm) (sendto : Bytes → Addr → Option Nat) (tunnel : PeerTunnel)
    (packet : Bytes) (nonce : Nonce) : SendOutcome :=
  if tunnel.state ≠ .connected then ⟨tunnel, none, .ok 0⟩
  else
    match tunnel.socket, tunnel.remoteAddr with
    | some _, some remote =>
      let advanced := { tunnel with txSeq := tunnel.txSeq + 1 }
      let frame :=
        match tunnel.cipher with
        | some cipher =>
          let (ciphertext, tag) := cipher.encrypt aead nonce packet []
          packFrame frameData ciphertext advanced.txSeq frameVersion (some tag)
        -- Relay mode: the packet travels as it is.
        | none => packFrame frameData packet advanced.txSeq frameVersion none
      match frame with
      | .error exception => ⟨advanced, none, .error exception⟩
      | .ok frame => ⟨advanced, some (frame, remote), .ok ((sendto frame remote).getD 0)⟩
    | _, _ => ⟨tunnel, none, .ok 0⟩

/-- The datagram a keep-alive hands to the socket, if the tunnel is up. -/
def sendKeepalive (tunnel : PeerTunnel) : Option (Bytes × Addr) :=
  if tunnel.state ≠ .connected then none
  else
    match tunnel.socket, tunnel.remoteAddr with
    | some _, some remote => (makeKeepaliveFrame tunnel.txSeq).toOption.map (·, remote)
    | _, _ => none

/-- Close a tunnel: a CLOSE frame to the peer, then the socket is released. -/
def closeTunnel (tunnel : PeerTunnel) : PeerTunnel × Option (Bytes × Addr) :=
  let farewell :=
    match tunnel.socket, tunnel.remoteAddr with
    | some _, some remote => (makeCloseFrame tunnel.txSeq).toOption.map (·, remote)
    | _, _ => none
  ({ tunnel with state := .closed, socket := none }, farewell)

/-! ### Receiving -/

/-- What handling a datagram does: the tunnel afterwards, the payload returned, and the
datagram sent in reply. -/
structure FrameOutcome where
  tunnel : PeerTunnel
  payload : Option Bytes
  reply : Option (Bytes × Addr)
  deriving DecidableEq

/-- The plaintext of a DATA payload: decrypted when the tunnel has a cipher, taken as it is
otherwise, and none when decryption fails. -/
def openPayload (aead : AesGcm) (tunnel : PeerTunnel) (payload tag : Bytes) : Option Bytes :=
  match tunnel.cipher with
  | some cipher => (cipher.decrypt aead payload tag []).toOption
  | none => some payload

/-- Decode a datagram and handle it. `now` is the monotonic clock. -/
def handleFrame (aead : AesGcm) (tunnel : PeerTunnel) (data : Bytes) (addr : Addr)
    (now : Time) : FrameOutcome :=
  match unpackFrame data with
  | .error _ => ⟨tunnel, none, none⟩
  | .ok (header, payload, tag) =>
    if header.type = frameData then
      match openPayload aead tunnel payload tag with
      | none => ⟨tunnel, none, none⟩
      | some plaintext =>
        let received := { tunnel with rxSeq := header.seqNum, lastRx := now }
        -- The NAT mapping of the peer may have changed.
        let moved :=
          if received.remoteAddr ≠ some addr then { received with remoteAddr := some addr }
          else received
        ⟨moved, some plaintext, none⟩
    else if header.type = frameKeepalive then
      ⟨{ tunnel with lastRx := now }, none, none⟩
    else if header.type = frameClose then
      ⟨{ tunnel with state := .closed }, none, none⟩
    else if header.type = framePunch then
      -- A late PUNCH is acknowledged without a key.
      ⟨tunnel, none, tunnel.socket.bind fun _ => (makePunchAckFrame 0 []).toOption.map (·, addr)⟩
    else if header.type = framePunchAck then
      ⟨{ tunnel with lastRx := now }, none, none⟩
    else ⟨tunnel, none, none⟩

/-- A datagram as it arrives: its bytes, its source address and the clock reading. -/
structure Arrival where
  data : Bytes
  addr : Addr
  now : Time
  deriving DecidableEq

/-- Handle datagrams one after another; one outcome for each. -/
def handleFrames (aead : AesGcm) : PeerTunnel → List Arrival → List FrameOutcome
  | _, [] => []
  | tunnel, arrival :: rest =>
    let outcome := handleFrame aead tunnel arrival.data arrival.addr arrival.now
    outcome :: handleFrames aead outcome.tunnel rest

/-- The tunnel after a list of outcomes. -/
def tunnelAfter (tunnel : PeerTunnel) (outcomes : List FrameOutcome) : PeerTunnel :=
  outcomes.foldl (fun _ outcome => outcome.tunnel) tunnel

/-! ### What handling a datagram does -/

/-- Accepting a DATA frame stores its sequence number, the time and the source address. -/
theorem handleFrame_data (aead : AesGcm) (tunnel : PeerTunnel) (data : Bytes) (addr : Addr)
    (now : Time) (header : FrameHeader) (payload tag plaintext : Bytes)
    (unpacked : unpackFrame data = .ok (header, payload, tag)) (isData : header.type = frameData)
    (opened : openPayload aead tunnel payload tag = some plaintext) :
    handleFrame aead tunnel data addr now =
      ⟨{ tunnel with rxSeq := header.seqNum, lastRx := now, remoteAddr := some addr },
        some plaintext, none⟩ := by
  simp only [handleFrame, unpacked, if_pos isData, opened]
  split
  · rfl
  · rename_i same
    rw [← not_not.mp same]

/-- Everything that is not an accepted DATA frame returns no payload and changes at most two
fields: CLOSE closes the tunnel, KEEPALIVE and PUNCH_ACK refresh the last-received time. -/
theorem handleFrame_control (aead : AesGcm) (tunnel : PeerTunnel) (data : Bytes) (addr : Addr)
    (now : Time)
    (refused : ∀ header payload tag, unpackFrame data = .ok (header, payload, tag) →
      header.type = frameData → openPayload aead tunnel payload tag = none) :
    (handleFrame aead tunnel data addr now).payload = none ∧
      (handleFrame aead tunnel data addr now).tunnel =
        { tunnel with
          state := if frameType data = some frameClose then .closed else tunnel.state
          lastRx := if frameType data = some frameKeepalive ∨
            frameType data = some framePunchAck then now else tunnel.lastRx } := by
  cases unpacked : unpackFrame data with
  | error exception => simp [handleFrame, frameType, unpacked]
  | ok frame =>
    obtain ⟨header, payload, tag⟩ := frame
    have typed : frameType data = some header.type := by rw [frameType, unpacked]
    simp only [handleFrame, unpacked, typed, Option.some_inj]
    by_cases isData : header.type = frameData
    · simp [isData, refused header payload tag unpacked isData, frameData, frameClose,
        frameKeepalive, framePunchAck]
    · rw [if_neg isData]
      by_cases isKeepalive : header.type = frameKeepalive
      · simp [isKeepalive, frameKeepalive, frameClose]
      · rw [if_neg isKeepalive]
        by_cases isClose : header.type = frameClose
        · simp [isClose, frameKeepalive, frameClose, framePunchAck]
        · rw [if_neg isClose]
          by_cases isPunch : header.type = framePunch
          · simp [isPunch, framePunch, frameKeepalive, frameClose, framePunchAck]
          · rw [if_neg isPunch]
            by_cases isAck : header.type = framePunchAck
            · simp [isAck, frameClose, framePunchAck]
            · simp [isKeepalive, isClose, isAck]

/-- A datagram is an accepted DATA frame, or changes at most the state and the last-received
time. -/
theorem handleFrame_cases (aead : AesGcm) (tunnel : PeerTunnel) (data : Bytes) (addr : Addr)
    (now : Time) :
    (∃ header payload tag, unpackFrame data = .ok (header, payload, tag) ∧
      header.type = frameData ∧ (handleFrame aead tunnel data addr now).tunnel =
        { tunnel with rxSeq := header.seqNum, lastRx := now, remoteAddr := some addr }) ∨
    (handleFrame aead tunnel data addr now).tunnel =
      { tunnel with
        state := if frameType data = some frameClose then .closed else tunnel.state
        lastRx := if frameType data = some frameKeepalive ∨
          frameType data = some framePunchAck then now else tunnel.lastRx } := by
  by_cases accepted : ∃ header payload tag plaintext,
      unpackFrame data = .ok (header, payload, tag) ∧ header.type = frameData ∧
        openPayload aead tunnel payload tag = some plaintext
  · obtain ⟨header, payload, tag, plaintext, unpacked, isData, opened⟩ := accepted
    refine .inl ⟨header, payload, tag, unpacked, isData, ?_⟩
    rw [handleFrame_data aead tunnel data addr now header payload tag plaintext unpacked isData
      opened]
  · refine .inr (handleFrame_control aead tunnel data addr now
      fun header payload tag unpacked isData => ?_).2
    cases opened : openPayload aead tunnel payload tag with
    | none => rfl
    | some plaintext =>
      exact absurd ⟨header, payload, tag, plaintext, unpacked, isData, opened⟩ accepted

/-- No datagram changes the cipher, the private key or the relay flag of a tunnel. -/
theorem handleFrame_keys (aead : AesGcm) (tunnel : PeerTunnel) (data : Bytes) (addr : Addr)
    (now : Time) :
    (handleFrame aead tunnel data addr now).tunnel.cipher = tunnel.cipher ∧
      (handleFrame aead tunnel data addr now).tunnel.ecdhPrivate = tunnel.ecdhPrivate ∧
      (handleFrame aead tunnel data addr now).tunnel.fallbackRelay = tunnel.fallbackRelay := by
  rcases handleFrame_cases aead tunnel data addr now with ⟨_, _, _, _, _, after⟩ | after
  · rw [after]
    exact ⟨rfl, rfl, rfl⟩
  · rw [after]
    exact ⟨rfl, rfl, rfl⟩

end LocalNetwork
