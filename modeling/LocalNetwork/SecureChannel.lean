/-
This file proves what an established tunnel guarantees between its two ends.

A packet crosses the tunnel unchanged: what `sendData` hands to the socket is what
`handleFrame` opens. Datagrams the cipher refuses deliver nothing and move neither the
sequence number nor the remote address; CLOSE, KEEPALIVE and PUNCH_ACK frames carry no
authentication and still act on the state and on the last-received time.

A datagram that the cipher accepts is delivered every time it arrives, and the sequence
number of the last accepted one replaces the stored one whatever its value. So replays
are kept out, and the stored number never falls, exactly when the network itself
neither repeats nor reorders what the peer sent.
-/

import LocalNetwork.Tunnel

namespace LocalNetwork

/-! ### A packet crosses the tunnel -/

/-- What a connected tunnel with a cipher hands to its socket. -/
theorem sendData_sealed (aead : AesGcm) (inverts : aead.Inverts)
    (sendto : Bytes → Addr → Option Nat) (tunnel : PeerTunnel) (cipher : CipherContext)
    (keyed : tunnel.cipher = some cipher) (up : tunnel.state = .connected) (socket : Nat)
    (bound : tunnel.socket = some socket) (remote : Addr)
    (known : tunnel.remoteAddr = some remote) (packet : Bytes) (nonce : Nonce)
    (fits : packet.length + 12 ≤ 65535) :
    ∃ datagram,
      packFrame frameData (cipher.encrypt aead nonce packet []).1 (tunnel.txSeq + 1 : Nat)
        frameVersion (some (cipher.encrypt aead nonce packet []).2) = .ok datagram ∧
      sendData aead sendto tunnel packet nonce =
        ⟨{ tunnel with txSeq := tunnel.txSeq + 1 }, some (datagram, remote),
          .ok ((sendto datagram remote).getD 0)⟩ := by
  have payloadFits : (cipher.encrypt aead nonce packet []).1.length ≤ maxFramePayload := by
    rw [CipherContext.encrypt_ciphertext_length cipher aead inverts]
    exact fits
  have packed := packFrame_ok frameData (cipher.encrypt aead nonce packet []).1
    (tunnel.txSeq + 1 : Nat) (cipher.encrypt aead nonce packet []).2 (by decide) payloadFits
    (CipherContext.encrypt_tag_length cipher aead inverts nonce packet [])
  refine ⟨_, packed, ?_⟩
  simp only [sendData, up, bound, known, keyed, packed, ne_eq, not_true_eq_false, if_false]

/-- The datagram that `sendData` passes to the socket, handled by a tunnel with the same
session key, returns exactly the packet, stores the sender's sequence number modulo `2 ^ 32`
and the source address; and a sender with a socket and a remote address does pass one. -/
theorem handleFrame_sendData (aead : AesGcm) (inverts : aead.Inverts)
    (sendto : Bytes → Addr → Option Nat) (sender receiver : PeerTunnel)
    (senderCipher receiverCipher : CipherContext) (senderKeyed : sender.cipher = some senderCipher)
    (receiverKeyed : receiver.cipher = some receiverCipher)
    (sameKey : senderCipher.sessionKey = receiverCipher.sessionKey)
    (senderUp : sender.state = .connected) (packet : Bytes)
    (fits : packet.length + 12 ≤ 65535) (nonce : Nonce) (addr : Addr) (now : Time) :
    (∀ datagram target, (sendData aead sendto sender packet nonce).datagram =
        some (datagram, target) →
      (handleFrame aead receiver datagram addr now).payload = some packet ∧
      (handleFrame aead receiver datagram addr now).tunnel.rxSeq =
        (sendData aead sendto sender packet nonce).tunnel.txSeq % 2 ^ 32 ∧
      (handleFrame aead receiver datagram addr now).tunnel.remoteAddr = some addr) ∧
    (∀ socket remote, sender.socket = some socket → sender.remoteAddr = some remote →
      ∃ datagram, (sendData aead sendto sender packet nonce).datagram =
        some (datagram, remote)) := by
  constructor
  · intro datagram target passed
    -- Only a sender with a socket and a remote address passes a datagram at all.
    obtain ⟨socket, bound⟩ : ∃ socket, sender.socket = some socket := by
      cases bound : sender.socket with
      | none => simp [sendData, senderUp, bound] at passed
      | some socket => exact ⟨socket, rfl⟩
    obtain ⟨remote, known⟩ : ∃ remote, sender.remoteAddr = some remote := by
      cases known : sender.remoteAddr with
      | none => simp [sendData, senderUp, bound, known] at passed
      | some remote => exact ⟨remote, rfl⟩
    obtain ⟨frame, packed, sent⟩ := sendData_sealed aead inverts sendto sender
      senderCipher senderKeyed senderUp socket bound remote known packet nonce fits
    rw [sent] at passed ⊢
    obtain ⟨rfl, rfl⟩ := Prod.mk.inj (Option.some.inj passed)
    have unpacked := unpackFrame_packFrame packed
    have opened : openPayload aead receiver (senderCipher.encrypt aead nonce packet []).1
        (senderCipher.encrypt aead nonce packet []).2 = some packet := by
      rw [openPayload, receiverKeyed]
      show (receiverCipher.decrypt aead _ _ []).toOption = some packet
      rw [CipherContext.decrypt_encrypt senderCipher receiverCipher aead inverts sameKey]
      rfl
    rw [handleFrame_data aead receiver frame addr now _ _ _ packet unpacked rfl opened]
    exact ⟨rfl, maskSeq_natCast _, rfl⟩
  · intro socket remote bound known
    obtain ⟨frame, packed, sent⟩ := sendData_sealed aead inverts sendto sender
      senderCipher senderKeyed senderUp socket bound remote known packet nonce fits
    exact ⟨frame, by rw [sent]⟩

/-- An AEAD that leaves the text as it is and marks it with a zero tag. -/
def zeroTagAead : AesGcm where
  encrypt := fun _ _ plaintext _ => plaintext ++ List.replicate tagLength 0
  decrypt := fun _ _ sealedText _ =>
    if sealedText.drop (sealedText.length - tagLength) = List.replicate tagLength 0 then
      some (sealedText.take (sealedText.length - tagLength))
    else none

theorem zeroTagAead_inverts : zeroTagAead.Inverts where
  decrypt_encrypt := by
    intro key nonce plaintext associatedData _ _
    simp [zeroTagAead]
  encrypt_length := by
    intro key nonce plaintext associatedData _ _
    simp [zeroTagAead]

/-- The session key, the nonce and the tunnel of the worked examples. -/
def exampleCipher : CipherContext := ⟨List.replicate 32 7, by decide⟩

def exampleNonce : Nonce := ⟨List.replicate 12 9, by decide⟩

def exampleTunnel : PeerTunnel :=
  { PeerTunnel.new "peer" "25.1.0.2" .connected (some 5) none with
    cipher := some exampleCipher
    remoteAddr := some ("198.51.100.7", 50000) }

theorem handleFrame_sendData_packet :
    ∃ datagram,
      (sendData zeroTagAead (fun _ _ => none) exampleTunnel [69, 0, 0, 20] exampleNonce).datagram =
        some (datagram, ("198.51.100.7", 50000)) ∧
      (handleFrame zeroTagAead exampleTunnel datagram ("203.0.113.4", 40000) 3).payload =
        some [69, 0, 0, 20] := by
  have crossed := handleFrame_sendData zeroTagAead zeroTagAead_inverts (fun _ _ => none)
    exampleTunnel exampleTunnel exampleCipher exampleCipher rfl rfl rfl rfl [69, 0, 0, 20]
    (by decide) exampleNonce ("203.0.113.4", 40000) 3
  obtain ⟨datagram, passed⟩ := crossed.2 5 ("198.51.100.7", 50000) rfl rfl
  exact ⟨datagram, passed, (crossed.1 datagram _ passed).1⟩

/-! ### Datagrams the cipher refuses -/

/-- A datagram is forged when it carries no payload and tag that the cipher accepts. -/
def Forged (aead : AesGcm) (cipher : CipherContext) (data : Bytes) : Prop :=
  ∀ header payload tag, unpackFrame data = .ok (header, payload, tag) →
    (cipher.decrypt aead payload tag []).toOption = none

theorem handleFrame_forged (aead : AesGcm) (tunnel : PeerTunnel) (cipher : CipherContext)
    (keyed : tunnel.cipher = some cipher) (data : Bytes) (addr : Addr) (now : Time)
    (forged : Forged aead cipher data) :
    (handleFrame aead tunnel data addr now).payload = none ∧
      (handleFrame aead tunnel data addr now).tunnel =
        { tunnel with
          state := if frameType data = some frameClose then .closed else tunnel.state
          lastRx := if frameType data = some frameKeepalive ∨
            frameType data = some framePunchAck then now else tunnel.lastRx } := by
  refine handleFrame_control aead tunnel data addr now fun header payload tag unpacked _ => ?_
  rw [openPayload, keyed]
  exact forged header payload tag unpacked

theorem handleFrames_cons (aead : AesGcm) (tunnel : PeerTunnel) (arrival : Arrival)
    (rest : List Arrival) :
    handleFrames aead tunnel (arrival :: rest) =
      handleFrame aead tunnel arrival.data arrival.addr arrival.now ::
        handleFrames aead
          (handleFrame aead tunnel arrival.data arrival.addr arrival.now).tunnel rest := rfl

theorem tunnelAfter_cons (tunnel : PeerTunnel) (outcome : FrameOutcome)
    (rest : List FrameOutcome) :
    tunnelAfter tunnel (outcome :: rest) = tunnelAfter outcome.tunnel rest := rfl

/-- When the KEEPALIVE and PUNCH_ACK frames among the arrivals came, in order. -/
def refreshTimes (arrivals : List Arrival) : List Time :=
  (arrivals.filter fun arrival => frameType arrival.data = some frameKeepalive ∨
    frameType arrival.data = some framePunchAck).map Arrival.now

theorem refreshTimes_cons (arrival : Arrival) (rest : List Arrival) :
    refreshTimes (arrival :: rest) =
      if frameType arrival.data = some frameKeepalive ∨
        frameType arrival.data = some framePunchAck then arrival.now :: refreshTimes rest
      else refreshTimes rest := by
  unfold refreshTimes
  rw [List.filter_cons]
  by_cases refreshes : frameType arrival.data = some frameKeepalive ∨
      frameType arrival.data = some framePunchAck
  · rw [if_pos (decide_eq_true refreshes), if_pos refreshes, List.map_cons]
  · rw [if_neg (fun claimed => refreshes (of_decide_eq_true claimed)), if_neg refreshes]

/-- Forged datagrams deliver nothing and leave the sequence number and the remote address
alone. They close the tunnel exactly when one of them is a CLOSE frame, and the last-received
time becomes the arrival time of the last KEEPALIVE or PUNCH_ACK frame among them: without
one it stays as it is. -/
theorem handleFrames_forged (aead : AesGcm) (tunnel : PeerTunnel) (cipher : CipherContext)
    (keyed : tunnel.cipher = some cipher) (arrivals : List Arrival)
    (forged : ∀ arrival ∈ arrivals, Forged aead cipher arrival.data) :
    (∀ outcome ∈ handleFrames aead tunnel arrivals, outcome.payload = none) ∧
      (tunnelAfter tunnel (handleFrames aead tunnel arrivals)).rxSeq = tunnel.rxSeq ∧
      (tunnelAfter tunnel (handleFrames aead tunnel arrivals)).remoteAddr = tunnel.remoteAddr ∧
      (tunnelAfter tunnel (handleFrames aead tunnel arrivals)).state =
        (if ∃ arrival ∈ arrivals, frameType arrival.data = some frameClose then .closed
          else tunnel.state) ∧
      (tunnelAfter tunnel (handleFrames aead tunnel arrivals)).lastRx =
        (refreshTimes arrivals).getLastD tunnel.lastRx := by
  induction arrivals generalizing tunnel with
  | nil => exact ⟨fun _ member => absurd member List.not_mem_nil, rfl, rfl, by simp [handleFrames,
      tunnelAfter], rfl⟩
  | cons arrival rest inductionHypothesis =>
    obtain ⟨silent, after⟩ := handleFrame_forged aead tunnel cipher keyed arrival.data arrival.addr
      arrival.now (forged arrival List.mem_cons_self)
    have nextKeyed :
        (handleFrame aead tunnel arrival.data arrival.addr arrival.now).tunnel.cipher =
          some cipher := by
      rw [after]
      exact keyed
    obtain ⟨restSilent, restSeq, restAddr, restState, restTime⟩ := inductionHypothesis _ nextKeyed
      fun other member => forged other (List.mem_cons_of_mem _ member)
    rw [handleFrames_cons, tunnelAfter_cons]
    refine ⟨?_, ?_, ?_, ?_, ?_⟩
    · intro outcome member
      rcases List.mem_cons.mp member with rfl | later
      · exact silent
      · exact restSilent outcome later
    · rw [restSeq, after]
    · rw [restAddr, after]
    · rw [restState, after]
      by_cases closes : frameType arrival.data = some frameClose
      · simp [closes]
      · simp [closes]
    · rw [restTime, after, refreshTimes_cons]
      by_cases refreshes : frameType arrival.data = some frameKeepalive ∨
          frameType arrival.data = some framePunchAck
      · rw [if_pos refreshes, if_pos refreshes, List.getLastD_cons]
      · rw [if_neg refreshes, if_neg refreshes]

/-- A CLOSE frame anyone can make: an empty payload and a zero tag. -/
def plainClose : Bytes :=
  headerBytes frameVersion frameClose 0 0 ++ [] ++ List.replicate gcmTagSize 0

theorem plainClose_unpacks :
    unpackFrame plainClose =
      .ok (⟨frameVersion, frameClose, 0, 0⟩, [], List.replicate gcmTagSize 0) :=
  unpackFrame_frameBytes frameClose [] 0 (List.replicate gcmTagSize 0) (by decide) (by decide)
    (by decide) (by decide)

theorem plainClose_forged (aead : AesGcm) (cipher : CipherContext) :
    Forged aead cipher plainClose := by
  intro header payload tag unpacked
  rw [plainClose_unpacks] at unpacked
  obtain ⟨-, same⟩ := Prod.mk.inj (Except.ok.inj unpacked)
  obtain ⟨rfl, rfl⟩ := Prod.mk.inj same
  rfl

theorem handleFrames_forged_close :
    (tunnelAfter exampleTunnel (handleFrames zeroTagAead exampleTunnel
        [⟨plainClose, ("203.0.113.66", 666), 4⟩])).rxSeq = exampleTunnel.rxSeq ∧
      (tunnelAfter exampleTunnel (handleFrames zeroTagAead exampleTunnel
        [⟨plainClose, ("203.0.113.66", 666), 4⟩])).remoteAddr = exampleTunnel.remoteAddr ∧
      (tunnelAfter exampleTunnel (handleFrames zeroTagAead exampleTunnel
        [⟨plainClose, ("203.0.113.66", 666), 4⟩])).lastRx =
        (refreshTimes [⟨plainClose, ("203.0.113.66", 666), 4⟩]).getLastD
          exampleTunnel.lastRx := by
  have effect := handleFrames_forged zeroTagAead exampleTunnel exampleCipher rfl
    [⟨plainClose, ("203.0.113.66", 666), 4⟩]
    (fun arrival member => by
      rw [List.mem_singleton] at member
      rw [member]
      exact plainClose_forged zeroTagAead exampleCipher)
  exact ⟨effect.2.1, effect.2.2.1, effect.2.2.2.2⟩

/-- Forged datagrams do not leave the whole tunnel alone: an unauthenticated CLOSE closes it. -/
theorem forged_close_closes :
    ¬ ∀ (aead : AesGcm) (tunnel : PeerTunnel) (cipher : CipherContext) (arrivals : List Arrival),
      tunnel.cipher = some cipher → tunnel.state = .connected →
      (∀ arrival ∈ arrivals, Forged aead cipher arrival.data) →
      (∀ outcome ∈ handleFrames aead tunnel arrivals, outcome.payload = none) ∧
        (tunnelAfter tunnel (handleFrames aead tunnel arrivals)).state = tunnel.state ∧
        (tunnelAfter tunnel (handleFrames aead tunnel arrivals)).remoteAddr = tunnel.remoteAddr ∧
        (tunnelAfter tunnel (handleFrames aead tunnel arrivals)).rxSeq = tunnel.rxSeq ∧
        (tunnelAfter tunnel (handleFrames aead tunnel arrivals)).lastRx = tunnel.lastRx := by
  intro claimed
  have unchanged := (claimed zeroTagAead exampleTunnel exampleCipher
    [⟨plainClose, ("203.0.113.66", 666), 4⟩] rfl rfl
    (fun arrival member => by
      rw [List.mem_singleton] at member
      rw [member]
      exact plainClose_forged zeroTagAead exampleCipher)).2.1
  have closed : (tunnelAfter exampleTunnel (handleFrames zeroTagAead exampleTunnel
      [⟨plainClose, ("203.0.113.66", 666), 4⟩])).state = .closed := by
    decide +kernel
  rw [closed] at unchanged
  cases unchanged

/-! ### Replayed and reordered datagrams -/

/-- The sealed part of a frame: payload and tag. The header is not covered by the tag, so the
sealed part is what identifies the packet a frame was made for. -/
def sealedPair (data : Bytes) : Option (Bytes × Bytes) :=
  match unpackFrame data with
  | .error _ => none
  | .ok (_, payload, tag) => some (payload, tag)

/-- The datagrams that consecutive `sendData` calls hand to the socket. -/
def sendAll (aead : AesGcm) (sendto : Bytes → Addr → Option Nat) :
    PeerTunnel → List (Bytes × Nonce) → List Bytes
  | _, [] => []
  | tunnel, (packet, nonce) :: rest =>
    let outcome := sendData aead sendto tunnel packet nonce
    (outcome.datagram.map Prod.fst).toList ++ sendAll aead sendto outcome.tunnel rest

/-- The sealed parts the peer produced, one for each `sendData` call that sent a frame. -/
def producedPairs (aead : AesGcm) (sendto : Bytes → Addr → Option Nat) (peer : PeerTunnel)
    (sends : List (Bytes × Nonce)) : List (Bytes × Bytes) :=
  (sendAll aead sendto peer sends).filterMap sealedPair

/-- The sealed parts of the datagrams whose plaintext was returned. -/
def deliveredPairs (aead : AesGcm) : PeerTunnel → List Arrival → List (Bytes × Bytes)
  | _, [] => []
  | tunnel, arrival :: rest =>
    let outcome := handleFrame aead tunnel arrival.data arrival.addr arrival.now
    (if outcome.payload.isSome then (sealedPair arrival.data).toList else []) ++
      deliveredPairs aead outcome.tunnel rest

/-- Replay protection over one history: every frame the peer produced is delivered at most as
often as it was produced, which is once for each `sendData` call, and the stored sequence
number never falls. -/
structure ReplayProtected (aead : AesGcm) (produced : List (Bytes × Bytes)) (tunnel : PeerTunnel)
    (arrivals : List Arrival) : Prop where
  once : ∀ pair ∈ produced,
    (deliveredPairs aead tunnel arrivals).count pair ≤ produced.count pair
  monotone : List.IsChain (· ≤ ·)
    (tunnel.rxSeq :: (handleFrames aead tunnel arrivals).map fun outcome => outcome.tunnel.rxSeq)

/-- The DATA frame a datagram carries, if the cipher accepts it: sequence number and sealed
part. It is read off the datagram and the key alone. -/
def acceptedData (aead : AesGcm) (cipher : CipherContext) (data : Bytes) :
    Option (Nat × Bytes × Bytes) :=
  match unpackFrame data with
  | .error _ => none
  | .ok (header, payload, tag) =>
    if header.type = frameData ∧ (cipher.decrypt aead payload tag []).toOption.isSome then
      some (header.seqNum, payload, tag)
    else none

/-- The network hands over what the peer sent without repeating it and in order: no sealed part
arrives more often than it was produced, and the sequence numbers of the accepted DATA
datagrams start at the stored one or above and never fall. -/
structure OrderedWithoutRepeats (aead : AesGcm) (cipher : CipherContext)
    (produced : List (Bytes × Bytes)) (rxSeq : Nat) (arrivals : List Arrival) : Prop where
  once : ∀ pair ∈ produced,
    ((arrivals.filterMap fun arrival => acceptedData aead cipher arrival.data).map
      Prod.snd).count pair ≤ produced.count pair
  ordered : List.IsChain (· ≤ ·)
    (rxSeq :: (arrivals.filterMap fun arrival => acceptedData aead cipher arrival.data).map
      Prod.fst)

/-- An accepted DATA datagram is delivered, and its sequence number is stored unconditionally. -/
theorem handleFrame_accepted (aead : AesGcm) (tunnel : PeerTunnel) (cipher : CipherContext)
    (keyed : tunnel.cipher = some cipher) (data : Bytes) (addr : Addr) (now : Time) (seqNum : Nat)
    (pair : Bytes × Bytes) (accepted : acceptedData aead cipher data = some (seqNum, pair)) :
    (handleFrame aead tunnel data addr now).payload.isSome ∧ sealedPair data = some pair ∧
      (handleFrame aead tunnel data addr now).tunnel.rxSeq = seqNum ∧
      (handleFrame aead tunnel data addr now).tunnel.cipher = some cipher := by
  unfold acceptedData at accepted
  unfold sealedPair
  cases unpacked : unpackFrame data with
  | error exception =>
    rw [unpacked] at accepted
    cases accepted
  | ok frame =>
    obtain ⟨header, payload, tag⟩ := frame
    simp only [unpacked] at accepted
    split at accepted
    · rename_i opens
      obtain ⟨plaintext, opened⟩ := Option.isSome_iff_exists.mp opens.2
      obtain ⟨rfl, rfl⟩ := Prod.mk.inj (Option.some.inj accepted)
      rw [handleFrame_data aead tunnel data addr now header payload tag plaintext unpacked opens.1
        (by rw [openPayload, keyed]; exact opened)]
      exact ⟨rfl, rfl, rfl, keyed⟩
    · cases accepted

/-- A datagram that is not an accepted DATA frame delivers nothing and stores no number. -/
theorem handleFrame_unaccepted (aead : AesGcm) (tunnel : PeerTunnel) (cipher : CipherContext)
    (keyed : tunnel.cipher = some cipher) (data : Bytes) (addr : Addr) (now : Time)
    (refused : acceptedData aead cipher data = none) :
    (handleFrame aead tunnel data addr now).payload = none ∧
      (handleFrame aead tunnel data addr now).tunnel.rxSeq = tunnel.rxSeq ∧
      (handleFrame aead tunnel data addr now).tunnel.cipher = some cipher := by
  obtain ⟨silent, after⟩ := handleFrame_control aead tunnel data addr now
    (fun header payload tag unpacked isData => by
      unfold acceptedData at refused
      simp only [unpacked, isData, true_and] at refused
      rw [openPayload, keyed]
      cases opened : (cipher.decrypt aead payload tag []).toOption with
      | none => exact opened
      | some plaintext => simp [opened] at refused)
  rw [after]
  exact ⟨silent, rfl, keyed⟩

/-- What is delivered is what is accepted, repeats included. -/
theorem deliveredPairs_eq (aead : AesGcm) (tunnel : PeerTunnel) (cipher : CipherContext)
    (keyed : tunnel.cipher = some cipher) (arrivals : List Arrival) :
    deliveredPairs aead tunnel arrivals =
      (arrivals.filterMap fun arrival => acceptedData aead cipher arrival.data).map Prod.snd := by
  induction arrivals generalizing tunnel with
  | nil => rfl
  | cons arrival rest inductionHypothesis =>
    rw [deliveredPairs, List.filterMap_cons]
    cases accepted : acceptedData aead cipher arrival.data with
    | none =>
      obtain ⟨silent, -, nextKeyed⟩ := handleFrame_unaccepted aead tunnel cipher keyed arrival.data
        arrival.addr arrival.now accepted
      simp only [silent, Option.isSome_none, Bool.false_eq_true, if_false, List.nil_append]
      exact inductionHypothesis _ nextKeyed
    | some frame =>
      obtain ⟨returned, paired, -, nextKeyed⟩ := handleFrame_accepted aead tunnel cipher keyed
        arrival.data arrival.addr arrival.now frame.1 frame.2 accepted
      simp only [returned, if_true, paired, Option.toList_some, List.singleton_append,
        List.map_cons]
      rw [inductionHypothesis _ nextKeyed]

/-- The stored sequence numbers never fall exactly when the accepted ones never do. -/
theorem rxSeq_chain_iff (aead : AesGcm) (tunnel : PeerTunnel) (cipher : CipherContext)
    (keyed : tunnel.cipher = some cipher) (arrivals : List Arrival) :
    List.IsChain (· ≤ ·)
        (tunnel.rxSeq ::
          (handleFrames aead tunnel arrivals).map fun outcome => outcome.tunnel.rxSeq) ↔
      List.IsChain (· ≤ ·)
        (tunnel.rxSeq ::
          (arrivals.filterMap fun arrival => acceptedData aead cipher arrival.data).map
            Prod.fst) := by
  induction arrivals generalizing tunnel with
  | nil => exact Iff.rfl
  | cons arrival rest inductionHypothesis =>
    rw [handleFrames_cons, List.map_cons, List.filterMap_cons, List.isChain_cons_cons]
    cases accepted : acceptedData aead cipher arrival.data with
    | none =>
      obtain ⟨-, kept, nextKeyed⟩ := handleFrame_unaccepted aead tunnel cipher keyed arrival.data
        arrival.addr arrival.now accepted
      rw [inductionHypothesis _ nextKeyed, kept]
      exact and_iff_right le_rfl
    | some frame =>
      obtain ⟨-, -, stored, nextKeyed⟩ := handleFrame_accepted aead tunnel cipher keyed
        arrival.data arrival.addr arrival.now frame.1 frame.2 accepted
      rw [inductionHypothesis _ nextKeyed, stored, List.map_cons, List.isChain_cons_cons]

/-- A tunnel with a cipher is protected against replays over a history exactly when the network
delivered that history in order and without repeats: the tunnel itself adds no check. -/
theorem replayProtected_iff (aead : AesGcm) (sendto : Bytes → Addr → Option Nat)
    (peer : PeerTunnel) (sends : List (Bytes × Nonce)) (tunnel : PeerTunnel)
    (cipher : CipherContext) (keyed : tunnel.cipher = some cipher) (arrivals : List Arrival) :
    ReplayProtected aead (producedPairs aead sendto peer sends) tunnel arrivals ↔
      OrderedWithoutRepeats aead cipher (producedPairs aead sendto peer sends) tunnel.rxSeq
        arrivals := by
  constructor
  · intro guarded
    refine ⟨fun pair member => ?_, (rxSeq_chain_iff aead tunnel cipher keyed arrivals).mp
      guarded.monotone⟩
    rw [← deliveredPairs_eq aead tunnel cipher keyed arrivals]
    exact guarded.once pair member
  · intro orderly
    refine ⟨fun pair member => ?_, (rxSeq_chain_iff aead tunnel cipher keyed arrivals).mpr
      orderly.ordered⟩
    rw [deliveredPairs_eq aead tunnel cipher keyed arrivals]
    exact orderly.once pair member

/-- An AEAD that opens one sealed message only: the one whose nonce and text it is given. -/
def singleMessageAead (nonce plaintext : Bytes) : AesGcm where
  encrypt := fun _ _ text _ => text ++ List.replicate tagLength 0
  decrypt := fun _ usedNonce sealedText _ =>
    if usedNonce = nonce ∧ sealedText = plaintext ++ List.replicate tagLength 0 then
      some plaintext
    else none

def examplePacket : Bytes := [69, 0, 0, 20]

def exampleAead : AesGcm := singleMessageAead exampleNonce.bytes examplePacket

/-- The frame of the example packet, as the example tunnel sends it first. -/
def exampleFrame : Bytes :=
  headerBytes frameVersion frameData 16 1 ++ (exampleNonce.bytes ++ examplePacket) ++
    List.replicate tagLength 0

def exampleArrival : Arrival := ⟨exampleFrame, ("198.51.100.7", 50000), 5⟩

theorem exampleProduced :
    producedPairs exampleAead (fun _ _ => none) exampleTunnel [(examplePacket, exampleNonce)] =
      [(exampleNonce.bytes ++ examplePacket, List.replicate tagLength 0)] := by
  decide +kernel

theorem replayProtected_singleDelivery :
    ReplayProtected exampleAead
      (producedPairs exampleAead (fun _ _ => none) exampleTunnel [(examplePacket, exampleNonce)])
      exampleTunnel [exampleArrival] := by
  refine (replayProtected_iff exampleAead (fun _ _ => none) exampleTunnel
    [(examplePacket, exampleNonce)] exampleTunnel exampleCipher rfl [exampleArrival]).mpr ⟨?_, ?_⟩
  · rw [exampleProduced]
    decide +kernel
  · decide +kernel

/-- The tunnel does not keep replays out: one frame sent once and received twice is delivered
twice, although the cipher accepts nothing but what the peer produced. -/
theorem replayed_frame_delivered_twice :
    ¬ ∀ (aead : AesGcm) (sendto : Bytes → Addr → Option Nat) (peer : PeerTunnel)
        (sends : List (Bytes × Nonce)) (tunnel : PeerTunnel) (cipher : CipherContext)
        (arrivals : List Arrival),
      tunnel.cipher = some cipher → sends.length < 2 ^ 32 →
      (∀ payload tag plaintext, tag.length = gcmTagSize →
        cipher.decrypt aead payload tag [] = .ok plaintext →
          (payload, tag) ∈ producedPairs aead sendto peer sends) →
      ReplayProtected aead (producedPairs aead sendto peer sends) tunnel arrivals := by
  intro claimed
  have guarded := claimed exampleAead (fun _ _ => none) exampleTunnel
    [(examplePacket, exampleNonce)] exampleTunnel exampleCipher
    [exampleArrival, exampleArrival] rfl (by decide)
    (fun payload tag plaintext tagFits opened => by
      rw [exampleProduced, List.mem_singleton]
      unfold CipherContext.decrypt at opened
      simp only [exampleAead, singleMessageAead] at opened
      split at opened
      · cases opened
      · split at opened
        · rename_i accepted
          split at accepted
          · rename_i same
            have lengths : (payload.drop nonceLength).length = examplePacket.length := by
              have total := congrArg List.length same.2
              simp only [List.length_append, List.length_replicate] at total
              unfold tagLength at total
              unfold gcmTagSize at tagFits
              omega
            obtain ⟨body, tagEq⟩ := List.append_inj same.2 lengths
            rw [tagEq, ← same.1, ← body, List.take_append_drop]
          · cases accepted
        · cases opened)
  have once := guarded.once (exampleNonce.bytes ++ examplePacket, List.replicate tagLength 0)
    (by rw [exampleProduced]; exact List.mem_singleton.mpr rfl)
  rw [exampleProduced] at once
  exact absurd once (by decide +kernel)

end LocalNetwork
