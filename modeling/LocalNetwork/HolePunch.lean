/-
This file models the opening of a tunnel: `punch_peer` and `accept_punch` of
`client/nat_traversal.py`, and `create_tunnel` and `accept_tunnel` of
`client/tunnel_manager.py` around them, for two peers that open a tunnel to each other.

Each end is a small machine. While it is inside `punch_peer` or `accept_punch` it takes
one datagram, timeout or failure at a time; afterwards its coroutine resumes with the
result; then it exchanges frames. The network keeps every datagram ever sent and may
hand any of them to the other end at any moment, or never: that is loss, delay,
reordering and duplication, without forgery.

The keys agree in every run in which no end that is still punching takes an
acknowledgement without a key. The acknowledgements that `punch_peer` and the
late-PUNCH branch of `handleFrame` send carry none, and an end that takes one comes up
without a cipher.
-/

import LocalNetwork.Tunnel
import LocalNetwork.Transition
import Mathlib.Logic.Function.Basic

namespace LocalNetwork

/-! ### One receive cycle -/

/-- Whether a datagram is a frame of the expected type; anything that does not unpack is
not. -/
def isFrameType (data : Bytes) (expectedType : Nat) : Bool :=
  match unpackFrame data with
  | .error _ => false
  | .ok (header, _, _) => header.type == expectedType

/-- The payload of a frame, and nothing for a datagram that does not unpack. -/
def tryExtractPayload (data : Bytes) : Bytes :=
  match unpackFrame data with
  | .error _ => []
  | .ok (_, payload, _) => payload

/-- One datagram inside the loop of `punch_peer`: none to go on waiting, otherwise the payload
it returns with and the acknowledgement it sends first. -/
def punchPeerReceive (data : Bytes) : Option (Bytes × Option Bytes) :=
  if isFrameType data framePunchAck then some (tryExtractPayload data, none)
  else
    match unpackFrame data with
    | .error _ => none
    | .ok (header, _, _) =>
      if header.type = framePunch then
        -- The peer punched us back; the acknowledgement carries no key.
        some (tryExtractPayload data, (makePunchAckFrame 0 []).toOption)
      else none

/-- One datagram inside the loop of `accept_punch`. -/
def acceptPunchReceive (ecdhPubkey data : Bytes) : Option (Bytes × Option Bytes) :=
  if isFrameType data framePunch then
    some (tryExtractPayload data, (makePunchAckFrame 0 ecdhPubkey).toOption)
  else none

/-! ### One end of the tunnel -/

/-- Where the coroutine of one end is. -/
inductive PunchPhase where
  | notStarted
  | punching
  | punched (result : Option (Addr × Bytes))
  | accepting
  | accepted (result : Option (Addr × Bytes))
  | running
  | raised
  deriving DecidableEq

structure PunchEnd where
  phase : PunchPhase
  tunnel : PeerTunnel

/-- What can happen at one end. `sendOk` says whether the socket write inside the step goes
through; `relay` is the control channel's part in the fallback: absent, granting, or
raising. -/
inductive PunchEvent where
  | create (hasEndpoints : Bool) (socket : Nat)
  | accept (socket : Nat)
  | receive (data : Bytes) (addr : Addr) (now : Time) (sendOk : Bool)
  | timeout
  | giveUp
  | resume (now : Time) (relay : Option Bool)
  | send (packet : Bytes) (nonce : Nonce)
  | keepalive
  | close

variable (agreement : KeyAgreement) (aead : AesGcm)

/-- The tunnel of an end whose punch succeeded: a cipher only if the peer's key arrived. None
when deriving the key raises. -/
def connectTunnel (privateKey : Bytes) (tunnel : PeerTunnel) (addr : Addr) (peerPubkey : Bytes)
    (now : Time) : Option PeerTunnel :=
  let up := { tunnel with state := .connected, remoteAddr := some addr, lastRx := now }
  if peerPubkey ≠ [] then
    match (deriveSessionKeyFromBytes agreement privateKey peerPubkey).bind CipherContext.init with
    | .error _ => none
    | .ok cipher => some { up with cipher := some cipher }
  else some up

/-- The tunnel of a `create_tunnel` whose punch failed: relayed, failed, or left behind by an
exception of the relay request. -/
def fallBack (tunnel : PeerTunnel) (now : Time) : Option Bool → Option PeerTunnel
  | some true =>
    some { tunnel with fallbackRelay := true, state := .connected, lastRx := now }
  | some false => none
  | none => some { tunnel with state := .failed }

/-- One step of one end: the end afterwards and the datagrams it sends. -/
def endStep (privateKey : Bytes) (side : PunchEnd) : PunchEvent → Option (PunchEnd × List Bytes)
  | .create hasEndpoints socket =>
    if side.phase = .notStarted then
      let tunnel := PeerTunnel.new side.tunnel.peerId side.tunnel.peerIp .punching (some socket)
        (some privateKey)
      if hasEndpoints then
        match makePunchFrame 0 (agreement.publicBytes privateKey) with
        | .error _ => some (⟨.raised, tunnel⟩, [])
        | .ok punch => some (⟨.punching, tunnel⟩, [punch])
      else some (⟨.punched none, tunnel⟩, [])
    else none
  | .accept socket =>
    if side.phase = .notStarted then
      some (⟨.accepting, PeerTunnel.new side.tunnel.peerId side.tunnel.peerIp .punching
        (some socket) (some privateKey)⟩, [])
    else none
  | .receive data addr now sendOk =>
    match side.phase with
    | .punching =>
      match punchPeerReceive data with
      | none => some (side, [])
      | some (payload, none) => some ({ side with phase := .punched (some (addr, payload)) }, [])
      | some (payload, some ack) =>
        if sendOk then some ({ side with phase := .punched (some (addr, payload)) }, [ack])
        else some ({ side with phase := .punched none }, [])
    | .accepting =>
      match acceptPunchReceive (agreement.publicBytes privateKey) data with
      | none => some (side, [])
      | some (payload, ack) =>
        if sendOk then
          some ({ side with phase := .accepted (some (addr, payload)) }, ack.toList)
        else some ({ side with phase := .raised }, [])
    | .running =>
      -- The receive loop reads the sockets of connected tunnels only.
      if side.tunnel.state = .connected then
        let outcome := handleFrame aead side.tunnel data addr now
        some ({ side with tunnel := outcome.tunnel },
          if sendOk then (outcome.reply.map Prod.fst).toList else [])
      else none
    | _ => none
  | .timeout =>
    match side.phase with
    | .punching =>
      some (side, (makePunchFrame 0 (agreement.publicBytes privateKey)).toOption.toList)
    | .accepting => some ({ side with phase := .accepted none }, [])
    | _ => none
  | .giveUp =>
    match side.phase with
    | .punching => some ({ side with phase := .punched none }, [])
    | .accepting => some ({ side with phase := .accepted none }, [])
    | _ => none
  | .resume now relay =>
    match side.phase with
    | .punched (some (addr, payload)) =>
      match connectTunnel agreement privateKey side.tunnel addr payload now with
      | none => some ({ side with phase := .raised }, [])
      | some tunnel => some (⟨.running, tunnel⟩, [])
    | .punched none =>
      match fallBack side.tunnel now relay with
      | none => some ({ side with phase := .raised }, [])
      | some tunnel => some (⟨.running, tunnel⟩, [])
    | .accepted (some (addr, payload)) =>
      match connectTunnel agreement privateKey side.tunnel addr payload now with
      | none => some ({ side with phase := .raised }, [])
      | some tunnel => some (⟨.running, tunnel⟩, [])
    | .accepted none => some (⟨.running, { side.tunnel with state := .failed }⟩, [])
    | _ => none
  | .send packet nonce =>
    if side.phase = .running then
      let outcome := sendData aead (fun _ _ => none) side.tunnel packet nonce
      some ({ side with tunnel := outcome.tunnel }, (outcome.datagram.map Prod.fst).toList)
    else none
  | .keepalive =>
    if side.phase = .running then
      some (side, ((sendKeepalive side.tunnel).map Prod.fst).toList)
    else none
  | .close =>
    if side.phase = .running then
      some ({ side with tunnel := (closeTunnel side.tunnel).1 },
        ((closeTunnel side.tunnel).2.map Prod.fst).toList)
    else none

/-! ### The two ends and the network -/

inductive Peer where
  | first
  | second
  deriving DecidableEq

def Peer.other : Peer → Peer
  | .first => .second
  | .second => .first

/-- Both ends, and every datagram either of them has sent. -/
structure PunchWorld where
  ends : Peer → PunchEnd
  sent : List (Peer × Bytes)

/-- Nothing has started and nothing has been sent. -/
def punchStart (names : Peer → String × String) : PunchWorld where
  ends := fun peer =>
    ⟨.notStarted, PeerTunnel.new (names peer).1 (names peer).2 .idle none none⟩
  sent := []

/-- A datagram can arrive only if the other end has sent it. -/
def canHappen (world : PunchWorld) (peer : Peer) : PunchEvent → Bool
  | .receive data _ _ _ => decide ((peer.other, data) ∈ world.sent)
  | _ => true

/-- One step of the world. -/
def punchStep (keys : Peer → Bytes) (world : PunchWorld) (event : Peer × PunchEvent) :
    Option PunchWorld :=
  if canHappen world event.1 event.2 then
    match endStep agreement aead (keys event.1) (world.ends event.1) event.2 with
    | none => none
    | some (side, datagrams) =>
      some
        { ends := Function.update world.ends event.1 side
          sent := world.sent ++ datagrams.map fun datagram => (event.1, datagram) }
  else none

/-- The end is up over the direct path. -/
def ConnectedDirectly (side : PunchEnd) : Prop :=
  side.tunnel.state = .connected ∧ side.tunnel.fallbackRelay = false

/-- If both ends are up over the direct path, both hold a cipher and the session keys are
equal. -/
def KeysAgree (world : PunchWorld) : Prop :=
  ConnectedDirectly (world.ends .first) → ConnectedDirectly (world.ends .second) →
    ∃ firstCipher secondCipher,
      (world.ends .first).tunnel.cipher = some firstCipher ∧
      (world.ends .second).tunnel.cipher = some secondCipher ∧
      firstCipher.sessionKey = secondCipher.sessionKey

/-- The event is the arrival of a PUNCH_ACK without a key. -/
def isEmptyAck : PunchEvent → Bool
  | .receive data _ _ _ => isFrameType data framePunchAck && (tryExtractPayload data).isEmpty
  | _ => false

/-- The event hands a PUNCH_ACK without a key to an end that is still inside `punch_peer`. -/
def TakesEmptyAck (side : PunchEnd) (event : PunchEvent) : Prop :=
  side.phase = .punching ∧ isEmptyAck event = true

instance (side : PunchEnd) (event : PunchEvent) : Decidable (TakesEmptyAck side event) :=
  inferInstanceAs (Decidable (side.phase = .punching ∧ isEmptyAck event = true))

/-! ### What is on the wire -/

/-- The frames an end with this public key may have sent: a PUNCH carries the key, a PUNCH_ACK
the key or nothing. Other frames are free. -/
def GenuineFrame (ownPublic frame : Bytes) : Prop :=
  ∀ header payload tag, unpackFrame frame = .ok (header, payload, tag) →
    (header.type = framePunch → payload = ownPublic) ∧
      (header.type = framePunchAck → payload = [] ∨ payload = ownPublic)

/-- A packed frame is genuine when its type and payload are. -/
theorem genuineFrame_packFrame {ownPublic : Bytes} {type : Nat} {payload : Bytes} {seqNum : Int}
    {authTag : Option Bytes} {frame : Bytes}
    (packed : packFrame type payload seqNum frameVersion authTag = .ok frame)
    (punches : type = framePunch → payload = ownPublic)
    (acks : type = framePunchAck → payload = [] ∨ payload = ownPublic) :
    GenuineFrame ownPublic frame := by
  intro header other tag unpacked
  rw [unpackFrame_packFrame packed] at unpacked
  obtain ⟨rfl, same⟩ := Prod.mk.inj (Except.ok.inj unpacked)
  obtain ⟨rfl, -⟩ := Prod.mk.inj same
  exact ⟨punches, acks⟩

theorem genuineFrame_punch {ownPublic frame : Bytes}
    (made : makePunchFrame 0 ownPublic = .ok frame) : GenuineFrame ownPublic frame :=
  genuineFrame_packFrame made (fun _ => rfl) (fun _ => Or.inr rfl)

theorem genuineFrame_ack {ownPublic payload frame : Bytes} (keyOrNothing : payload = [] ∨
    payload = ownPublic) (made : makePunchAckFrame 0 payload = .ok frame) :
    GenuineFrame ownPublic frame :=
  genuineFrame_packFrame made (fun wrong => absurd wrong (by decide)) (fun _ => keyOrNothing)

/-- Packing failures send nothing, so a sent frame is one that packing produced. -/
theorem mem_toOption_toList {Failure Value : Type} {result : Except Failure Value}
    {value : Value} (member : value ∈ result.toOption.toList) : result = .ok value := by
  cases result with
  | error failure => cases member
  | ok other =>
    rw [List.mem_singleton.mp member]

/-- The datagram of `sendData` is a DATA frame. -/
theorem genuineFrame_sendData (ownPublic : Bytes) (sendto : Bytes → Addr → Option Nat)
    (tunnel : PeerTunnel) (packet : Bytes) (nonce : Nonce) (frame : Bytes)
    (sent : frame ∈ ((sendData aead sendto tunnel packet nonce).datagram.map Prod.fst).toList) :
    GenuineFrame ownPublic frame := by
  have isData {payload : Bytes} {authTag : Option Bytes} {made : Bytes} {seqNum : Int}
      (packed : packFrame frameData payload seqNum frameVersion authTag = .ok made) :
      GenuineFrame ownPublic made :=
    genuineFrame_packFrame packed (fun wrong => absurd wrong (by decide))
      (fun wrong => absurd wrong (by decide))
  unfold sendData at sent
  split at sent
  · cases sent
  · split at sent
    · simp only at sent
      split at sent
      · cases sent
      · rename_i made packed
        have same : frame = made := by simpa using sent
        rw [same]
        split at packed
        · exact isData packed
        · exact isData packed
    · cases sent

theorem genuineFrame_sendKeepalive (ownPublic : Bytes) (tunnel : PeerTunnel) (frame : Bytes)
    (sent : frame ∈ ((sendKeepalive tunnel).map Prod.fst).toList) :
    GenuineFrame ownPublic frame := by
  unfold sendKeepalive at sent
  split at sent
  · cases sent
  · split at sent
    · rw [Option.map_map] at sent
      have made : makeKeepaliveFrame tunnel.txSeq = .ok frame := by
        refine mem_toOption_toList ?_
        simpa using sent
      exact genuineFrame_packFrame made (fun wrong => absurd wrong (by decide))
        (fun wrong => absurd wrong (by decide))
    · cases sent

theorem genuineFrame_closeTunnel (ownPublic : Bytes) (tunnel : PeerTunnel) (frame : Bytes)
    (sent : frame ∈ ((closeTunnel tunnel).2.map Prod.fst).toList) :
    GenuineFrame ownPublic frame := by
  unfold closeTunnel at sent
  simp only at sent
  split at sent
  · rw [Option.map_map] at sent
    have made : makeCloseFrame tunnel.txSeq = .ok frame := by
      refine mem_toOption_toList ?_
      simpa using sent
    exact genuineFrame_packFrame made (fun wrong => absurd wrong (by decide))
      (fun wrong => absurd wrong (by decide))
  · cases sent

/-- The only reply of `handleFrame` is an acknowledgement without a key. -/
theorem genuineFrame_handleFrame (ownPublic : Bytes) (tunnel : PeerTunnel) (data : Bytes)
    (addr : Addr) (now : Time) (frame : Bytes)
    (sent : frame ∈ ((handleFrame aead tunnel data addr now).reply.map Prod.fst).toList) :
    GenuineFrame ownPublic frame := by
  have made : makePunchAckFrame 0 [] = .ok frame := by
    unfold handleFrame at sent
    split at sent
    · cases sent
    · split at sent
      · split at sent <;> cases sent
      · split at sent
        · cases sent
        · split at sent
          · cases sent
          · split at sent
            · cases bound : tunnel.socket with
              | none =>
                rw [bound] at sent
                cases sent
              | some socket =>
                rw [bound, Option.bind_some, Option.map_map] at sent
                refine mem_toOption_toList ?_
                simpa using sent
            · split at sent <;> cases sent
  exact genuineFrame_ack (Or.inl rfl) made

/-! ### What an end learns -/

theorem isFrameType_iff {data : Bytes} {expectedType : Nat} :
    isFrameType data expectedType = true ↔
      ∃ header payload tag, unpackFrame data = .ok (header, payload, tag) ∧
        header.type = expectedType := by
  unfold isFrameType
  cases unpacked : unpackFrame data with
  | error exception => simp
  | ok frame =>
    obtain ⟨header, payload, tag⟩ := frame
    simp

/-- A genuine datagram that ends the wait of `punch_peer`, unless it is an acknowledgement
without a key, brings the peer's public key. -/
theorem punchPeerReceive_payload {theirPublic data payload : Bytes} {reply : Option Bytes}
    (genuine : GenuineFrame theirPublic data)
    (keyed : ¬ (isFrameType data framePunchAck ∧ tryExtractPayload data = []))
    (taken : punchPeerReceive data = some (payload, reply)) :
    payload = theirPublic ∧ ∀ ack, reply = some ack → makePunchAckFrame 0 [] = .ok ack := by
  unfold punchPeerReceive at taken
  split at taken
  · rename_i isAck
    obtain ⟨rfl, rfl⟩ := Prod.mk.inj (Option.some.inj taken)
    obtain ⟨header, carried, tag, unpacked, typed⟩ := isFrameType_iff.mp isAck
    have extracted : tryExtractPayload data = carried := by rw [tryExtractPayload, unpacked]
    rw [extracted] at keyed ⊢
    refine ⟨?_, fun ack impossible => by cases impossible⟩
    rcases (genuine header carried tag unpacked).2 typed with nothing | theirs
    · exact absurd ⟨isAck, nothing⟩ keyed
    · exact theirs
  · split at taken
    · cases taken
    · rename_i header carried tag unpacked
      split at taken
      · rename_i isPunch
        obtain ⟨rfl, rfl⟩ := Prod.mk.inj (Option.some.inj taken)
        rw [tryExtractPayload, unpacked]
        refine ⟨(genuine header carried tag unpacked).1 isPunch, fun ack made => ?_⟩
        exact mem_toOption_toList (by rw [made]; exact List.mem_singleton.mpr rfl)
      · cases taken

/-- A genuine PUNCH brings the peer's public key to `accept_punch`, which answers with its
own. -/
theorem acceptPunchReceive_payload {theirPublic ownPublic data payload : Bytes}
    {reply : Option Bytes} (genuine : GenuineFrame theirPublic data)
    (taken : acceptPunchReceive ownPublic data = some (payload, reply)) :
    payload = theirPublic ∧ ∀ ack ∈ reply.toList, makePunchAckFrame 0 ownPublic = .ok ack := by
  unfold acceptPunchReceive at taken
  split at taken
  · rename_i isPunch
    obtain ⟨rfl, rfl⟩ := Prod.mk.inj (Option.some.inj taken)
    obtain ⟨header, carried, tag, unpacked, typed⟩ := isFrameType_iff.mp isPunch
    rw [tryExtractPayload, unpacked]
    exact ⟨(genuine header carried tag unpacked).1 typed, fun ack member =>
      mem_toOption_toList member⟩
  · cases taken

/-- Coming up with the peer's key gives the cipher derived from it. -/
theorem connectTunnel_cipher {privateKey theirPublic : Bytes} {tunnel up : PeerTunnel}
    {addr : Addr} {now : Time} (present : theirPublic ≠ [])
    (connected : connectTunnel agreement privateKey tunnel addr theirPublic now = some up) :
    ∃ cipher, up.cipher = some cipher ∧
      deriveSessionKeyFromBytes agreement privateKey theirPublic = .ok cipher.sessionKey := by
  unfold connectTunnel at connected
  simp only [present, ne_eq, not_false_eq_true, if_true] at connected
  split at connected
  · cases connected
  · rename_i cipher derived
    rw [← Option.some.inj connected]
    refine ⟨cipher, rfl, ?_⟩
    cases key : deriveSessionKeyFromBytes agreement privateKey theirPublic with
    | error exception =>
      rw [key] at derived
      cases derived
    | ok sessionKey =>
      rw [key] at derived
      rw [CipherContext.init_sessionKey derived]

/-! ### The invariant of one end -/

/-- What an end that never takes an empty acknowledgement knows: a successful punch returned
the peer's public key, and a tunnel that is up directly uses the key derived from it. -/
structure EndInvariant (privateKey theirPublic : Bytes) (side : PunchEnd) : Prop where
  result : ∀ addr payload, side.phase = .punched (some (addr, payload)) ∨
    side.phase = .accepted (some (addr, payload)) → payload = theirPublic
  keyed : ConnectedDirectly side → ∃ cipher, side.tunnel.cipher = some cipher ∧
    deriveSessionKeyFromBytes agreement privateKey theirPublic = .ok cipher.sessionKey

/-- A change of phase that brings no result keeps the invariant. -/
theorem EndInvariant.withPhase {privateKey theirPublic : Bytes} {side : PunchEnd}
    (holds : EndInvariant agreement privateKey theirPublic side) (phase : PunchPhase)
    (brings : ∀ addr payload, phase = .punched (some (addr, payload)) ∨
      phase = .accepted (some (addr, payload)) → payload = theirPublic) :
    EndInvariant agreement privateKey theirPublic { side with phase := phase } :=
  ⟨brings, holds.keyed⟩

/-- A result that is the peer's public key keeps the invariant. -/
theorem EndInvariant.withResult {privateKey theirPublic payload : Bytes} {side : PunchEnd}
    (holds : EndInvariant agreement privateKey theirPublic side) (phase : PunchPhase) {addr : Addr}
    (reached : phase = .punched (some (addr, payload)) ∨ phase = .accepted (some (addr, payload)))
    (theirs : payload = theirPublic) :
    EndInvariant agreement privateKey theirPublic { side with phase := phase } := by
  refine holds.withPhase agreement phase fun other found brought => ?_
  rcases reached with rfl | rfl
  · simp only [PunchPhase.punched.injEq, Option.some.injEq, Prod.mk.injEq, reduceCtorEq,
      or_false] at brought
    rw [← brought.2, theirs]
  · simp only [PunchPhase.accepted.injEq, Option.some.injEq, Prod.mk.injEq, reduceCtorEq,
      false_or] at brought
    rw [← brought.2, theirs]

/-- A tunnel that is not up directly satisfies the invariant in a phase without a result. -/
theorem endInvariant_of_down {privateKey theirPublic : Bytes} {phase : PunchPhase}
    {tunnel : PeerTunnel}
    (plain : ∀ addr payload, ¬ (phase = .punched (some (addr, payload)) ∨
      phase = .accepted (some (addr, payload))))
    (down : ¬ ConnectedDirectly ⟨phase, tunnel⟩) :
    EndInvariant agreement privateKey theirPublic ⟨phase, tunnel⟩ :=
  ⟨fun addr payload reached => absurd reached (plain addr payload), fun up => absurd up down⟩

/-- A running end keeps the invariant when its tunnel keeps cipher and relay flag and does not
come up anew. -/
theorem EndInvariant.withTunnel {privateKey theirPublic : Bytes} {side : PunchEnd}
    (holds : EndInvariant agreement privateKey theirPublic side) (tunnel : PeerTunnel)
    (running : side.phase = .running) (sameCipher : tunnel.cipher = side.tunnel.cipher)
    (sameRelay : tunnel.fallbackRelay = side.tunnel.fallbackRelay)
    (wasUp : tunnel.state = .connected → side.tunnel.state = .connected) :
    EndInvariant agreement privateKey theirPublic { side with tunnel := tunnel } := by
  refine ⟨fun addr payload reached => ?_, fun up => ?_⟩
  · rw [running] at reached
    rcases reached with impossible | impossible <;> cases impossible
  · obtain ⟨cipher, stored, derived⟩ := holds.keyed ⟨wasUp up.1, sameRelay ▸ up.2⟩
    exact ⟨cipher, by rw [← stored]; exact sameCipher, derived⟩

/-- Sending changes nothing but the sequence number. -/
theorem sendData_tunnel (sendto : Bytes → Addr → Option Nat) (tunnel : PeerTunnel)
    (packet : Bytes) (nonce : Nonce) :
    ∃ txSeq, (sendData aead sendto tunnel packet nonce).tunnel =
      { tunnel with txSeq := txSeq } := by
  unfold sendData
  split
  · exact ⟨tunnel.txSeq, rfl⟩
  · split
    · simp only
      split
      · exact ⟨tunnel.txSeq + 1, rfl⟩
      · exact ⟨tunnel.txSeq + 1, rfl⟩
    · exact ⟨tunnel.txSeq, rfl⟩

/-- One receive keeps the invariant of an end, and what it sends is genuine. -/
theorem endStep_receive_kept {privateKey theirPublic : Bytes} {side next : PunchEnd}
    {data : Bytes} {addr : Addr} {now : Time} {sendOk : Bool} {sent : List Bytes}
    (holds : EndInvariant agreement privateKey theirPublic side)
    (genuine : GenuineFrame theirPublic data)
    (keyed : ¬ TakesEmptyAck side (.receive data addr now sendOk))
    (stepped : endStep agreement aead privateKey side (.receive data addr now sendOk) =
      some (next, sent)) :
    EndInvariant agreement privateKey theirPublic next ∧
      ∀ frame ∈ sent, GenuineFrame (agreement.publicBytes privateKey) frame := by
  unfold endStep at stepped
  cases phase : side.phase with
  | punching =>
    simp only [phase] at stepped
    have notEmpty : ¬ (isFrameType data framePunchAck ∧ tryExtractPayload data = []) :=
      fun empty => keyed ⟨phase, by simp [isEmptyAck, empty.1, empty.2]⟩
    split at stepped
    · obtain ⟨rfl, rfl⟩ := Prod.mk.inj (Option.some.inj stepped)
      exact ⟨holds, fun frame member => absurd member List.not_mem_nil⟩
    · rename_i payload taken
      obtain ⟨rfl, rfl⟩ := Prod.mk.inj (Option.some.inj stepped)
      obtain ⟨theirs, -⟩ := punchPeerReceive_payload genuine notEmpty taken
      exact ⟨holds.withResult agreement _ (.inl rfl) theirs,
        fun frame member => absurd member List.not_mem_nil⟩
    · rename_i payload ack taken
      obtain ⟨theirs, acknowledges⟩ := punchPeerReceive_payload genuine notEmpty taken
      split at stepped
      · obtain ⟨rfl, rfl⟩ := Prod.mk.inj (Option.some.inj stepped)
        refine ⟨holds.withResult agreement _ (.inl rfl) theirs, fun frame member => ?_⟩
        rw [List.mem_singleton.mp member]
        exact genuineFrame_ack (Or.inl rfl) (acknowledges ack rfl)
      · obtain ⟨rfl, rfl⟩ := Prod.mk.inj (Option.some.inj stepped)
        exact ⟨holds.withPhase agreement _ fun other found reached => by simp at reached,
          fun frame member => absurd member List.not_mem_nil⟩
  | accepting =>
    simp only [phase] at stepped
    split at stepped
    · obtain ⟨rfl, rfl⟩ := Prod.mk.inj (Option.some.inj stepped)
      exact ⟨holds, fun frame member => absurd member List.not_mem_nil⟩
    · rename_i payload ack taken
      obtain ⟨theirs, acknowledges⟩ := acceptPunchReceive_payload genuine taken
      split at stepped
      · obtain ⟨rfl, rfl⟩ := Prod.mk.inj (Option.some.inj stepped)
        exact ⟨holds.withResult agreement _ (.inr rfl) theirs, fun frame member =>
          genuineFrame_ack (Or.inr rfl) (acknowledges frame member)⟩
      · obtain ⟨rfl, rfl⟩ := Prod.mk.inj (Option.some.inj stepped)
        exact ⟨holds.withPhase agreement _ fun other found reached => by simp at reached,
          fun frame member => absurd member List.not_mem_nil⟩
  | running =>
    simp only [phase] at stepped
    split at stepped
    · rename_i up
      obtain ⟨rfl, rfl⟩ := Prod.mk.inj (Option.some.inj stepped)
      obtain ⟨sameCipher, -, sameRelay⟩ := handleFrame_keys aead side.tunnel data addr now
      refine ⟨?_, fun frame member => ?_⟩
      · have kept := holds.withTunnel agreement (handleFrame aead side.tunnel data addr now).tunnel
          phase sameCipher sameRelay (fun _ => up)
        rwa [← phase]
      · split at member
        · exact genuineFrame_handleFrame aead _ side.tunnel data addr now frame member
        · cases member
    · cases stepped
  | notStarted => simp [phase] at stepped
  | punched result => simp [phase] at stepped
  | accepted result => simp [phase] at stepped
  | raised => simp [phase] at stepped

/-- Resuming after the punch keeps the invariant of an end. -/
theorem endStep_resume_kept {privateKey theirPublic : Bytes} {side next : PunchEnd}
    {now : Time} {relay : Option Bool} {sent : List Bytes} (present : theirPublic ≠ [])
    (holds : EndInvariant agreement privateKey theirPublic side)
    (stepped : endStep agreement aead privateKey side (.resume now relay) = some (next, sent)) :
    EndInvariant agreement privateKey theirPublic next ∧ sent = [] := by
  have raises : EndInvariant agreement privateKey theirPublic { side with phase := .raised } :=
    holds.withPhase agreement _ fun addr payload reached => by simp at reached
  have comesUp {addr : Addr} {payload : Bytes} {tunnel : PeerTunnel}
      (theirs : payload = theirPublic)
      (connected : connectTunnel agreement privateKey side.tunnel addr payload now =
        some tunnel) :
      EndInvariant agreement privateKey theirPublic ⟨.running, tunnel⟩ :=
    ⟨fun addr payload reached => by simp at reached, fun _ =>
      connectTunnel_cipher agreement present (theirs ▸ connected)⟩
  unfold endStep at stepped
  cases phase : side.phase with
  | punched result =>
    cases result with
    | some found =>
      simp only [phase] at stepped
      split at stepped
      · obtain ⟨rfl, rfl⟩ := Prod.mk.inj (Option.some.inj stepped)
        exact ⟨raises, rfl⟩
      · rename_i tunnel connected
        obtain ⟨rfl, rfl⟩ := Prod.mk.inj (Option.some.inj stepped)
        exact ⟨comesUp (holds.result _ _ (Or.inl phase)) connected, rfl⟩
    | none =>
      simp only [phase] at stepped
      split at stepped
      · obtain ⟨rfl, rfl⟩ := Prod.mk.inj (Option.some.inj stepped)
        exact ⟨raises, rfl⟩
      · rename_i tunnel fell
        obtain ⟨rfl, rfl⟩ := Prod.mk.inj (Option.some.inj stepped)
        refine ⟨endInvariant_of_down agreement (by simp) fun up => ?_, rfl⟩
        unfold fallBack at fell
        split at fell
        · rw [← Option.some.inj fell] at up
          cases up.2
        · cases fell
        · rw [← Option.some.inj fell] at up
          cases up.1
  | accepted result =>
    cases result with
    | some found =>
      simp only [phase] at stepped
      split at stepped
      · obtain ⟨rfl, rfl⟩ := Prod.mk.inj (Option.some.inj stepped)
        exact ⟨raises, rfl⟩
      · rename_i tunnel connected
        obtain ⟨rfl, rfl⟩ := Prod.mk.inj (Option.some.inj stepped)
        exact ⟨comesUp (holds.result _ _ (Or.inr phase)) connected, rfl⟩
    | none =>
      simp only [phase] at stepped
      obtain ⟨rfl, rfl⟩ := Prod.mk.inj (Option.some.inj stepped)
      exact ⟨endInvariant_of_down agreement (by simp) (fun up => by cases up.1), rfl⟩
  | notStarted => simp [phase] at stepped
  | punching => simp [phase] at stepped
  | accepting => simp [phase] at stepped
  | running => simp [phase] at stepped
  | raised => simp [phase] at stepped

/-- Creating a tunnel starts an end afresh, and the punch that it sends is genuine. -/
theorem endStep_create_kept {privateKey theirPublic : Bytes} {side next : PunchEnd}
    {hasEndpoints : Bool} {socket : Nat} {sent : List Bytes}
    (stepped : endStep agreement aead privateKey side (.create hasEndpoints socket) =
      some (next, sent)) :
    EndInvariant agreement privateKey theirPublic next ∧
      ∀ frame ∈ sent, GenuineFrame (agreement.publicBytes privateKey) frame := by
  have silent : ∀ frame ∈ ([] : List Bytes),
      GenuineFrame (agreement.publicBytes privateKey) frame :=
    fun frame member => absurd member List.not_mem_nil
  have fresh (phase : PunchPhase) (plain : ∀ addr payload,
      ¬ (phase = .punched (some (addr, payload)) ∨ phase = .accepted (some (addr, payload)))) :
      EndInvariant agreement privateKey theirPublic ⟨phase, PeerTunnel.new side.tunnel.peerId
        side.tunnel.peerIp .punching (some socket) (some privateKey)⟩ :=
    endInvariant_of_down agreement plain fun up => by cases up.1
  simp only [endStep] at stepped
  split at stepped
  · split at stepped
    · split at stepped
      · obtain ⟨rfl, rfl⟩ := Prod.mk.inj (Option.some.inj stepped)
        exact ⟨fresh .raised (by simp), silent⟩
      · rename_i punch made
        obtain ⟨rfl, rfl⟩ := Prod.mk.inj (Option.some.inj stepped)
        refine ⟨fresh .punching (by simp), fun frame member => ?_⟩
        rw [List.mem_singleton.mp member]
        exact genuineFrame_punch made
    · obtain ⟨rfl, rfl⟩ := Prod.mk.inj (Option.some.inj stepped)
      exact ⟨fresh (.punched none) (by simp), silent⟩
  · cases stepped

/-- Every step keeps the invariant of an end, and what it sends is genuine. -/
theorem endStep_kept {privateKey theirPublic : Bytes} {side next : PunchEnd}
    {event : PunchEvent} {sent : List Bytes} (present : theirPublic ≠ [])
    (holds : EndInvariant agreement privateKey theirPublic side)
    (genuine : ∀ data addr now sendOk, event = .receive data addr now sendOk →
      GenuineFrame theirPublic data)
    (keyed : ¬ TakesEmptyAck side event)
    (stepped : endStep agreement aead privateKey side event = some (next, sent)) :
    EndInvariant agreement privateKey theirPublic next ∧
      ∀ frame ∈ sent, GenuineFrame (agreement.publicBytes privateKey) frame := by
  have silent : ∀ frame ∈ ([] : List Bytes),
      GenuineFrame (agreement.publicBytes privateKey) frame :=
    fun frame member => absurd member List.not_mem_nil
  cases event with
  | receive data addr now sendOk =>
    exact endStep_receive_kept agreement aead holds (genuine data addr now sendOk rfl) keyed stepped
  | resume now relay =>
    obtain ⟨kept, rfl⟩ := endStep_resume_kept agreement aead present holds stepped
    exact ⟨kept, silent⟩
  | create hasEndpoints socket => exact endStep_create_kept agreement aead stepped
  | accept socket =>
    simp only [endStep] at stepped
    split at stepped
    · obtain ⟨rfl, rfl⟩ := Prod.mk.inj (Option.some.inj stepped)
      exact ⟨endInvariant_of_down agreement (by simp) (fun up => by cases up.1), silent⟩
    · cases stepped
  | timeout =>
    simp only [endStep] at stepped
    split at stepped
    · obtain ⟨rfl, rfl⟩ := Prod.mk.inj (Option.some.inj stepped)
      exact ⟨holds, fun frame member => genuineFrame_punch (mem_toOption_toList member)⟩
    · obtain ⟨rfl, rfl⟩ := Prod.mk.inj (Option.some.inj stepped)
      exact ⟨holds.withPhase agreement _ (by simp), silent⟩
    · cases stepped
  | giveUp =>
    simp only [endStep] at stepped
    split at stepped
    · obtain ⟨rfl, rfl⟩ := Prod.mk.inj (Option.some.inj stepped)
      exact ⟨holds.withPhase agreement _ (by simp), silent⟩
    · obtain ⟨rfl, rfl⟩ := Prod.mk.inj (Option.some.inj stepped)
      exact ⟨holds.withPhase agreement _ (by simp), silent⟩
    · cases stepped
  | send packet nonce =>
    simp only [endStep] at stepped
    split at stepped
    · rename_i running
      obtain ⟨rfl, rfl⟩ := Prod.mk.inj (Option.some.inj stepped)
      obtain ⟨txSeq, after⟩ := sendData_tunnel aead (fun _ _ => none) side.tunnel packet nonce
      refine ⟨holds.withTunnel agreement _ running ?_ ?_ ?_, fun frame member =>
        genuineFrame_sendData aead _ _ side.tunnel packet nonce frame member⟩
      · rw [after]
      · rw [after]
      · rw [after]
        exact id
    · cases stepped
  | keepalive =>
    simp only [endStep] at stepped
    split at stepped
    · obtain ⟨rfl, rfl⟩ := Prod.mk.inj (Option.some.inj stepped)
      exact ⟨holds, fun frame member => genuineFrame_sendKeepalive _ side.tunnel frame member⟩
    · cases stepped
  | close =>
    simp only [endStep] at stepped
    split at stepped
    · rename_i running
      obtain ⟨rfl, rfl⟩ := Prod.mk.inj (Option.some.inj stepped)
      refine ⟨holds.withTunnel agreement _ running rfl rfl (fun up => by cases up),
        fun frame member => genuineFrame_closeTunnel _ side.tunnel frame member⟩
    · cases stepped

/-! ### The invariant of the world -/

/-- Everything on the wire is genuine, and both ends satisfy their invariant. -/
structure PunchInvariant (keys : Peer → Bytes) (world : PunchWorld) : Prop where
  genuine : ∀ peer frame, (peer, frame) ∈ world.sent →
    GenuineFrame (agreement.publicBytes (keys peer)) frame
  ends : ∀ peer, EndInvariant agreement (keys peer) (agreement.publicBytes (keys peer.other))
    (world.ends peer)

theorem punchInvariant_start (keys : Peer → Bytes) (names : Peer → String × String) :
    PunchInvariant agreement keys (punchStart names) where
  genuine := fun peer frame member => absurd member List.not_mem_nil
  ends := fun peer => endInvariant_of_down agreement (by simp) fun up => by cases up.1

/-- A step that hands no empty acknowledgement to a punching end keeps the invariant. -/
theorem punchStep_kept (agrees : agreement.Agrees) (keys : Peer → Bytes)
    (world next : PunchWorld) (event : Peer × PunchEvent)
    (keyed : ¬ TakesEmptyAck (world.ends event.1) event.2)
    (holds : PunchInvariant agreement keys world)
    (stepped : punchStep agreement aead keys world event = some next) :
    PunchInvariant agreement keys next := by
  obtain ⟨peer, event⟩ := event
  have present : agreement.publicBytes (keys peer.other) ≠ [] := by
    intro empty
    have size := agrees.publicBytes_length (keys peer.other)
    rw [empty] at size
    cases size
  simp only [punchStep] at stepped
  split at stepped
  · rename_i delivered
    split at stepped
    · cases stepped
    · rename_i side datagrams moved
      have arrived : ∀ data addr now sendOk, event = .receive data addr now sendOk →
          GenuineFrame (agreement.publicBytes (keys peer.other)) data := by
        intro data addr now sendOk same
        subst same
        exact holds.genuine peer.other data (of_decide_eq_true delivered)
      obtain ⟨kept, sentGenuine⟩ := endStep_kept agreement aead present (holds.ends peer) arrived
        keyed moved
      rw [← Option.some.inj stepped]
      refine ⟨fun other frame member => ?_, fun other => ?_⟩
      · rcases List.mem_append.mp member with old | new
        · exact holds.genuine other frame old
        · obtain ⟨datagram, among, same⟩ := List.mem_map.mp new
          obtain ⟨rfl, rfl⟩ := Prod.mk.inj same
          exact sentGenuine datagram among
      · show EndInvariant agreement (keys other) (agreement.publicBytes (keys other.other))
          (Function.update world.ends peer side other)
        by_cases same : other = peer
        · subst same
          rw [Function.update_self]
          exact kept
        · rw [Function.update_of_ne same]
          exact holds.ends other
  · cases stepped

/-- In every run in which no end takes an empty acknowledgement while it is punching, two ends
that are up over the direct path hold ciphers with one session key. -/
theorem keysAgree_of_no_empty_ack (agrees : agreement.Agrees) (keys : Peer → Bytes)
    (names : Peer → String × String) (events : List (Peer × PunchEvent)) (world : PunchWorld)
    (noEmptyAck : HoldsAlong (punchStep agreement aead keys)
      (fun world event => ¬ TakesEmptyAck (world.ends event.1) event.2) (punchStart names) events)
    (ran : runFrom (punchStep agreement aead keys) (punchStart names) events = some world) :
    KeysAgree world := by
  have holds : PunchInvariant agreement keys world :=
    run_invariant (fun world event next keyed holds stepped =>
      punchStep_kept agreement aead agrees keys world next event keyed holds stepped)
      (punchInvariant_start agreement keys names) noEmptyAck ran
  intro firstUp secondUp
  obtain ⟨firstCipher, firstStored, firstDerived⟩ := (holds.ends .first).keyed firstUp
  obtain ⟨secondCipher, secondStored, secondDerived⟩ := (holds.ends .second).keyed secondUp
  refine ⟨firstCipher, secondCipher, firstStored, secondStored, ?_⟩
  simp only [Peer.other] at firstDerived secondDerived
  rw [deriveSessionKeyFromBytes_comm agreement agrees] at firstDerived
  rw [firstDerived] at secondDerived
  exact Except.ok.inj secondDerived

/-! ### Runs -/

/-- A key agreement for the runs below: keys are padded to 32 bytes, and the shared secret is
their bytewise sum. -/
def sumAgreement : KeyAgreement where
  publicBytes := fun privateKey => (privateKey ++ List.replicate 32 0).take 32
  exchange := fun privateKey peerPublic =>
    some (List.zipWith (· + ·) ((privateKey ++ List.replicate 32 0).take 32) peerPublic)
  hkdf := fun shared _ => shared

theorem sumAgreement_agrees : sumAgreement.Agrees where
  publicBytes_length := by
    intro privateKey
    simp [sumAgreement]
  exchange_comm := by
    intro first second
    simp only [sumAgreement]
    rw [List.zipWith_comm_of_comm UInt8.add_comm]

/-- The AEAD of the runs below; no packet is sent in them. -/
def refusingAead : AesGcm where
  encrypt := fun _ _ plaintext _ => plaintext
  decrypt := fun _ _ _ _ => none

def exampleKeys : Peer → Bytes
  | .first => [1]
  | .second => [2]

def exampleNames : Peer → String × String
  | .first => ("bob-client", "25.0.0.2")
  | .second => ("alice-client", "25.0.0.1")

/-- The PUNCH and the acknowledgements of the runs below. -/
def examplePunch (peer : Peer) : Bytes :=
  headerBytes frameVersion framePunch 32 0 ++ sumAgreement.publicBytes (exampleKeys peer) ++
    List.replicate gcmTagSize 0

def exampleKeyedAck (peer : Peer) : Bytes :=
  headerBytes frameVersion framePunchAck 32 0 ++ sumAgreement.publicBytes (exampleKeys peer) ++
    List.replicate gcmTagSize 0

def exampleEmptyAck : Bytes :=
  headerBytes frameVersion framePunchAck 0 0 ++ [] ++ List.replicate gcmTagSize 0

/-- The first peer punches, the second accepts and answers with its key. -/
def acceptedPunch : List (Peer × PunchEvent) :=
  [(.first, .create true 1), (.second, .accept 2),
    (.second, .receive (examplePunch .first) ("198.51.100.1", 1000) 1 true),
    (.second, .resume 2 none),
    (.first, .receive (exampleKeyedAck .second) ("198.51.100.2", 2000) 3 true),
    (.first, .resume 4 none)]

theorem keysAgree_acceptedPunch :
    ∃ world, runFrom (punchStep sumAgreement refusingAead exampleKeys) (punchStart exampleNames)
        acceptedPunch = some world ∧ ConnectedDirectly (world.ends .first) ∧
      ConnectedDirectly (world.ends .second) ∧ KeysAgree world := by
  have completes : (runFrom (punchStep sumAgreement refusingAead exampleKeys)
      (punchStart exampleNames) acceptedPunch).isSome := by
    decide +kernel
  obtain ⟨world, ran⟩ := Option.isSome_iff_exists.mp completes
  have bothUp : ((runFrom (punchStep sumAgreement refusingAead exampleKeys)
      (punchStart exampleNames) acceptedPunch).map fun world =>
        ((world.ends .first).tunnel.state, (world.ends .first).tunnel.fallbackRelay,
          (world.ends .second).tunnel.state, (world.ends .second).tunnel.fallbackRelay)) =
      some (.connected, false, .connected, false) := by
    decide +kernel
  rw [ran, Option.map_some, Option.some_inj] at bothUp
  simp only [Prod.mk.injEq] at bothUp
  exact ⟨world, ran, ⟨bothUp.1, bothUp.2.1⟩, ⟨bothUp.2.2.1, bothUp.2.2.2⟩,
    keysAgree_of_no_empty_ack sumAgreement refusingAead sumAgreement_agrees exampleKeys
      exampleNames acceptedPunch world (by decide +kernel) ran⟩

/-- Both peers punch; the second one's PUNCH reaches the first, whose own PUNCH is lost, and the
empty acknowledgement of the first is what the second gets. -/
def lostPunch : List (Peer × PunchEvent) :=
  [(.first, .create true 1), (.second, .create true 2),
    (.first, .receive (examplePunch .second) ("198.51.100.2", 2000) 1 true),
    (.first, .resume 2 none),
    (.second, .receive exampleEmptyAck ("198.51.100.1", 1000) 3 true),
    (.second, .resume 4 none)]

/-- The keys do not agree in every run: an end that takes an empty acknowledgement comes up
without a cipher. -/
theorem empty_ack_breaks_agreement :
    ¬ ∀ (agreement : KeyAgreement) (aead : AesGcm), agreement.Agrees →
      ∀ (keys : Peer → Bytes) (names : Peer → String × String)
        (events : List (Peer × PunchEvent)) (world : PunchWorld),
      runFrom (punchStep agreement aead keys) (punchStart names) events = some world →
        KeysAgree world := by
  intro claimed
  have completes : (runFrom (punchStep sumAgreement refusingAead exampleKeys)
      (punchStart exampleNames) lostPunch).isSome := by
    decide +kernel
  obtain ⟨world, ran⟩ := Option.isSome_iff_exists.mp completes
  have ended : ((runFrom (punchStep sumAgreement refusingAead exampleKeys)
      (punchStart exampleNames) lostPunch).map fun world =>
        ((world.ends .first).tunnel.state, (world.ends .first).tunnel.fallbackRelay,
          (world.ends .second).tunnel.state, (world.ends .second).tunnel.fallbackRelay,
          (world.ends .second).tunnel.cipher)) =
      some (.connected, false, .connected, false, none) := by
    decide +kernel
  rw [ran, Option.map_some, Option.some_inj] at ended
  simp only [Prod.mk.injEq] at ended
  obtain ⟨firstState, firstDirect, secondState, secondDirect, noCipher⟩ := ended
  obtain ⟨-, secondCipher, -, stored, -⟩ := claimed sumAgreement refusingAead sumAgreement_agrees
    exampleKeys exampleNames lostPunch world ran ⟨firstState, firstDirect⟩
    ⟨secondState, secondDirect⟩
  rw [noCipher] at stored
  cases stored

end LocalNetwork
