/-
This file models `_send_stream_frame` of `client/service_consumer.py`, and proves when
`send_data` keeps its promise to return the number of bytes sent, or 0 on failure.

A socket that refuses a frame is a failure like any other, but packing the frame stands before
the guarded call: a packet that is longer, with what its cipher adds to it, than the length
field of a frame can say raises. For a packet that frames the data of a stream the two ids in
front of the data count as well.
-/

import LocalNetwork.SecureChannel

namespace LocalNetwork

/-! ### Frames of a stream -/

def streamIdSize : Nat := 36

/-- The ASCII encoding, none where it raises. -/
def encodeAscii (text : String) : Option Bytes :=
  if text.toList.all (·.toNat < 128) then
    some (text.toList.map fun symbol => UInt8.ofNat symbol.toNat)
  else none

/-- Cut to the width of an id, and padded to it with zeros. -/
def idField (encoded : Bytes) : Bytes :=
  let cut := encoded.take streamIdSize
  cut ++ List.replicate (streamIdSize - cut.length) 0

/-- The packet of a stream frame; an id that is not ASCII raises. -/
def streamPacket (serviceId streamId : String) (data : Bytes) : Option Bytes := do
  let sid ← encodeAscii serviceId
  let stid ← encodeAscii streamId
  some (idField sid ++ idField stid ++ data)

/-- `_send_stream_frame`. -/
def sendStreamFrame (aead : AesGcm) (sendto : Bytes → Addr → Option Nat) (tunnel : PeerTunnel)
    (serviceId streamId : String) (data : Bytes) (nonce : Nonce) : Option SendOutcome :=
  (streamPacket serviceId streamId data).map fun packet =>
    sendData aead sendto tunnel packet nonce

theorem length_idField (encoded : Bytes) : (idField encoded).length = streamIdSize := by
  unfold idField streamIdSize
  rw [List.length_append, List.length_replicate, List.length_take]
  omega

theorem length_streamPacket {serviceId streamId : String} {data packet : Bytes}
    (built : streamPacket serviceId streamId data = some packet) :
    packet.length = data.length + 72 := by
  obtain ⟨sid, -, rest⟩ := Option.bind_eq_some_iff.mp built
  obtain ⟨stid, -, joined⟩ := Option.bind_eq_some_iff.mp rest
  rw [← Option.some.inj joined, List.length_append, List.length_append, length_idField,
    length_idField, streamIdSize]
  omega

/-! ### What `send_data` promises -/

/-- The value returned is 0, or what the socket says of the frame it was handed. -/
def SendOutcome.Returns (sendto : Bytes → Addr → Option Nat) (outcome : SendOutcome) : Prop :=
  ∃ sent, outcome.returned = .ok sent ∧
    (sent = 0 ∨ ∃ frame remote, outcome.datagram = some (frame, remote) ∧
      sendto frame remote = some sent)

/-- A tunnel that `send_data` does not refuse. -/
def PeerTunnel.Sends (tunnel : PeerTunnel) : Prop :=
  tunnel.state = .connected ∧ tunnel.socket ≠ none ∧ tunnel.remoteAddr ≠ none

/-- How much longer the payload of a frame is than its packet. -/
def PeerTunnel.overhead (tunnel : PeerTunnel) : Nat :=
  if tunnel.cipher.isSome then nonceLength else 0

/-- The frame of a packet of a length can be packed, or none is. -/
def PeerTunnel.Carries (tunnel : PeerTunnel) (length : Nat) : Prop :=
  tunnel.Sends → length + tunnel.overhead ≤ maxFramePayload

theorem sendData_refused (aead : AesGcm) (sendto : Bytes → Addr → Option Nat)
    {tunnel : PeerTunnel} (refused : ¬ tunnel.Sends) (packet : Bytes) (nonce : Nonce) :
    sendData aead sendto tunnel packet nonce = ⟨tunnel, none, .ok 0⟩ := by
  unfold sendData
  split
  · rfl
  · rename_i connected
    split
    · rename_i socket remote bound known
      exact absurd ⟨not_not.mp connected, by simp [bound], by simp [known]⟩ refused
    · rfl

/-- A payload that fits the length field is packed, with a tag of legal size. -/
theorem packFrame_fits {payload : Bytes} {seqNum : Int} {tag : Option Bytes}
    (fits : payload.length ≤ maxFramePayload)
    (tagFits : (tag.getD (List.replicate gcmTagSize 0)).length = gcmTagSize) :
    ∃ frame, packFrame frameData payload seqNum frameVersion tag = .ok frame := by
  unfold packFrame
  dsimp only
  rw [if_neg (not_lt.mpr fits), if_neg (not_not.mpr rfl), if_neg (not_not.mpr tagFits),
    if_neg (by decide)]
  exact ⟨_, rfl⟩

/-- A tunnel that sends packs one frame, whose payload is the packet and what its cipher adds, with
a tag of legal size. -/
theorem sendData_packed (aead : AesGcm) (inverts : aead.Inverts)
    (sendto : Bytes → Addr → Option Nat) {tunnel : PeerTunnel} (sends : tunnel.Sends)
    (packet : Bytes) (nonce : Nonce) :
    ∃ payload tag remote, payload.length = packet.length + tunnel.overhead ∧
      (tag.getD (List.replicate gcmTagSize 0)).length = gcmTagSize ∧
        sendData aead sendto tunnel packet nonce =
          match packFrame frameData payload (tunnel.txSeq + 1 : Nat) frameVersion tag with
          | .error exception =>
            ⟨{ tunnel with txSeq := tunnel.txSeq + 1 }, none, .error exception⟩
          | .ok frame =>
            ⟨{ tunnel with txSeq := tunnel.txSeq + 1 }, some (frame, remote),
              .ok ((sendto frame remote).getD 0)⟩ := by
  obtain ⟨connected, bound, known⟩ := sends
  obtain ⟨socket, bound⟩ := Option.ne_none_iff_exists'.mp bound
  obtain ⟨remote, known⟩ := Option.ne_none_iff_exists'.mp known
  unfold sendData PeerTunnel.overhead
  rw [if_neg (not_not.mpr connected), bound, known]
  cases keyed : tunnel.cipher with
  | none => exact ⟨packet, none, remote, rfl, List.length_replicate, rfl⟩
  | some cipher =>
    have length := cipher.encrypt_ciphertext_length aead inverts nonce packet []
    have tagFits := cipher.encrypt_tag_length aead inverts nonce packet []
    exact ⟨_, some (cipher.encrypt aead nonce packet []).2, remote, length, tagFits, rfl⟩

/-- A packet that is too long for a tunnel that sends raises. -/
theorem sendData_tooLong (aead : AesGcm) (inverts : aead.Inverts)
    (sendto : Bytes → Addr → Option Nat) {tunnel : PeerTunnel} (sends : tunnel.Sends)
    {packet : Bytes} (long : maxFramePayload < packet.length + tunnel.overhead) (nonce : Nonce) :
    (sendData aead sendto tunnel packet nonce).returned = .error (.frameTooLargeError
      s!"payload of {packet.length + tunnel.overhead} bytes exceeds 2-byte length field") := by
  obtain ⟨payload, tag, remote, length, -, outcome⟩ :=
    sendData_packed aead inverts sendto sends packet nonce
  rw [← length] at long ⊢
  rw [outcome, packFrame, if_pos long]

/-- For every tunnel and packet `send_data` returns the number of bytes sent, or 0, if and only if
the tunnel refuses the packet or the payload of its frame is not too long; the packet of a stream
frame is 72 bytes longer than the data. -/
theorem sendData_returns_iff (aead : AesGcm) (inverts : aead.Inverts)
    (sendto : Bytes → Addr → Option Nat) (tunnel : PeerTunnel) (nonce : Nonce) :
    (∀ packet, (sendData aead sendto tunnel packet nonce).Returns sendto ↔
      tunnel.Carries packet.length) ∧
    ∀ serviceId streamId data outcome,
      sendStreamFrame aead sendto tunnel serviceId streamId data nonce = some outcome →
        (outcome.Returns sendto ↔ tunnel.Carries (data.length + 72)) := by
  have sending (packet : Bytes) : (sendData aead sendto tunnel packet nonce).Returns sendto ↔
      tunnel.Carries packet.length := by
    by_cases sends : tunnel.Sends
    · by_cases fits : packet.length + tunnel.overhead ≤ maxFramePayload
      · obtain ⟨payload, tag, remote, length, tagFits, outcome⟩ :=
          sendData_packed aead inverts sendto sends packet nonce
        obtain ⟨frame, packed⟩ := packFrame_fits (length ▸ fits) tagFits
        refine iff_of_true ?_ fun _ => fits
        rw [outcome, packed]
        refine ⟨_, rfl, ?_⟩
        cases sent : sendto frame remote with
        | none => exact Or.inl rfl
        | some count => exact Or.inr ⟨frame, remote, rfl, sent⟩
      · have raised := sendData_tooLong aead inverts sendto sends (not_le.mp fits) nonce
        refine iff_of_false ?_ fun carries => fits (carries sends)
        rintro ⟨sent, returned, -⟩
        exact nomatch raised.symm.trans returned
    · rw [sendData_refused aead sendto sends]
      exact iff_of_true ⟨0, rfl, Or.inl rfl⟩ fun sendsAnyway => absurd sendsAnyway sends
  refine ⟨sending, fun serviceId streamId data outcome framed => ?_⟩
  obtain ⟨packet, built, rfl⟩ := Option.map_eq_some_iff.mp framed
  rw [sending, length_streamPacket built]

theorem sendData_returns_examplePacket :
    (sendData zeroTagAead (fun frame _ => some frame.length) exampleTunnel examplePacket
      exampleNonce).Returns fun frame _ => some frame.length :=
  ((sendData_returns_iff zeroTagAead zeroTagAead_inverts _ exampleTunnel exampleNonce).1
    examplePacket).mpr fun _ => by decide

/-- The largest datagram there is does not fit the frame of a stream. -/
theorem sendData_counterexample :
    ∃ outcome, sendStreamFrame zeroTagAead (fun frame _ => some frame.length) exampleTunnel
        "5a1c7d9e-0b42-4f0e-8c1d-2f6a7b3e9d10" "9e8d7c6b-1a2b-4c3d-9e4f-5a6b7c8d9e0f"
          (List.replicate 65507 0) exampleNonce = some outcome ∧
      outcome.returned = .error (.frameTooLargeError
        "payload of 65591 bytes exceeds 2-byte length field") ∧
      ¬ outcome.Returns fun frame _ => some frame.length := by
  obtain ⟨packet, built⟩ : ∃ packet, streamPacket "5a1c7d9e-0b42-4f0e-8c1d-2f6a7b3e9d10"
      "9e8d7c6b-1a2b-4c3d-9e4f-5a6b7c8d9e0f" (List.replicate 65507 0) = some packet := ⟨_, rfl⟩
  have length : packet.length + exampleTunnel.overhead = 65591 := by
    rw [length_streamPacket built, List.length_replicate]
    rfl
  have sends : exampleTunnel.Sends := ⟨rfl, nofun, nofun⟩
  have raised := sendData_tooLong zeroTagAead zeroTagAead_inverts
    (fun frame _ => some frame.length) sends (by rw [length]; decide) exampleNonce
  rw [length] at raised
  refine ⟨_, by rw [sendStreamFrame, built, Option.map_some], raised, ?_⟩
  rintro ⟨sent, returned, -⟩
  exact nomatch raised.symm.trans returned

end LocalNetwork
