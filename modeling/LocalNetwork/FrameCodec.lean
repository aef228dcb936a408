/-
This file proves what the frame codec of `common/frame.py` promises, and how far.

Every frame that packing makes is unpacked to the same fields, and no part of it that is cut
off before its end is accepted. Unpacking is the inverse of packing on exactly the buffers
that do not go on behind the declared frame: the buffer is compared with the declared
length in one direction only, so what follows the tag is passed over.
-/

import LocalNetwork.Frame

namespace LocalNetwork

/-! ### The specification -/

/-- The exceptions of the class `FrameError` and its subclasses. -/
def FrameException.IsFrameError : FrameException → Prop
  | .frameError _ => True
  | .invalidFrameVersionError _ => True
  | .frameTooLargeError _ => True
  | .structError => False

/-- The data do not unpack, and the exception is a frame error. -/
def RefusedAsFrame (data : Bytes) : Prop :=
  ∃ exception, unpackFrame data = .error exception ∧ exception.IsFrameError

/-- Packing succeeds, unpacking gives back what was packed, and every strict prefix of the
frame is refused. -/
def FrameRoundTrip (type : Nat) (payload : Bytes) (seqNum : Int) (authTag : Option Bytes) :
    Prop :=
  ∃ frame, packFrame type payload seqNum frameVersion authTag = .ok frame ∧
    unpackFrame frame =
      .ok (⟨frameVersion, type, payload.length, (seqNum % 2 ^ 32).toNat⟩, payload,
        authTag.getD (List.replicate gcmTagSize 0)) ∧
    ∀ cut, cut <+: frame → cut ≠ frame → RefusedAsFrame cut

/-- The data are what packing makes of some arguments. -/
def IsPacked (data : Bytes) : Prop :=
  ∃ type payload seqNum version authTag,
    packFrame type payload seqNum version authTag = .ok data

/-- Unpacking is exact on the data: what it accepts is packed again to the same bytes, it
accepts exactly what packing makes, and everything else is a frame error. -/
structure FrameDecodingExact (data : Bytes) : Prop where
  packedAgain : ∀ header payload tag, unpackFrame data = .ok (header, payload, tag) →
    packFrame header.type payload header.seqNum frameVersion (some tag) = .ok data
  accepted : (∃ parsed, unpackFrame data = .ok parsed) ↔ IsPacked data
  refused : ¬ IsPacked data → RefusedAsFrame data

/-- The data are too short for a frame, of another version, or end where the declared frame
ends or before. -/
def NothingBehindFrame (data : Bytes) : Prop :=
  data.length < frameHeaderSize + gcmTagSize ∨
    (parseHeader data).version ≠ frameVersion ∨
    data.length ≤ frameHeaderSize + (parseHeader data).payloadLength + gcmTagSize

instance (data : Bytes) : Decidable (NothingBehindFrame data) :=
  inferInstanceAs (Decidable (_ ∨ _ ∨ _))

/-! ### What unpacking accepts -/

/-- Unpacking accepts the data exactly when they have room for the declared frame. -/
theorem unpackFrame_eq_ok_iff (data : Bytes) (parsed : FrameHeader × Bytes × Bytes) :
    unpackFrame data = .ok parsed ↔
      frameHeaderSize + gcmTagSize ≤ data.length ∧
        (parseHeader data).version = frameVersion ∧
        frameHeaderSize + (parseHeader data).payloadLength + gcmTagSize ≤ data.length ∧
        parsed = (parseHeader data,
          slice data frameHeaderSize (frameHeaderSize + (parseHeader data).payloadLength),
          slice data (frameHeaderSize + (parseHeader data).payloadLength)
            (frameHeaderSize + (parseHeader data).payloadLength + gcmTagSize)) := by
  unfold unpackFrame
  split
  · rename_i short
    simp only [reduceCtorEq, false_iff]
    exact fun ⟨long, _⟩ => absurd long (by omega)
  · rename_i long
    simp only
    split
    · rename_i otherVersion
      simp only [reduceCtorEq, false_iff]
      exact fun ⟨_, version, _⟩ => otherVersion version
    · rename_i version
      split
      · rename_i truncated
        simp only [reduceCtorEq, false_iff]
        exact fun ⟨_, _, room, _⟩ => absurd room (by omega)
      · rename_i room
        simp only [Except.ok.injEq]
        constructor
        · intro same
          exact ⟨by omega, not_not.mp version, by omega, same.symm⟩
        · rintro ⟨_, _, _, same⟩
          exact same.symm

/-- Every exception of unpacking is a frame error. -/
theorem unpackFrame_isFrameError {data : Bytes} {exception : FrameException}
    (raised : unpackFrame data = .error exception) : exception.IsFrameError := by
  unfold unpackFrame at raised
  split at raised
  · cases raised
    trivial
  · simp only at raised
    split at raised
    · cases raised
      trivial
    · split at raised
      · cases raised
        trivial
      · cases raised

/-- What is not accepted is refused with a frame error. -/
theorem refusedAsFrame_of_not_accepted {data : Bytes}
    (unaccepted : ¬ ∃ parsed, unpackFrame data = .ok parsed) : RefusedAsFrame data := by
  cases outcome : unpackFrame data with
  | ok parsed => exact absurd ⟨parsed, outcome⟩ unaccepted
  | error exception => exact ⟨exception, outcome, unpackFrame_isFrameError outcome⟩

/-- The header is read from the first eight bytes alone. -/
theorem parseHeader_append (front rest : Bytes) (long : frameHeaderSize ≤ front.length) :
    parseHeader (front ++ rest) = parseHeader front := by
  unfold frameHeaderSize at long
  rw [parseHeader, parseHeader, slice_append_left _ _ 0 1 (by omega),
    slice_append_left _ _ 1 2 (by omega), slice_append_left _ _ 2 4 (by omega),
    slice_append_left _ _ 4 8 (by omega)]

/-- The fields of a parsed header fit their places. -/
theorem parseHeader_fits (data : Bytes) (long : frameHeaderSize ≤ data.length) :
    (parseHeader data).type ≤ 255 ∧ (parseHeader data).payloadLength ≤ maxFramePayload ∧
      (parseHeader data).seqNum < 2 ^ 32 := by
  unfold frameHeaderSize at long
  have type := ofBigEndian_lt (slice data 1 2)
  have length := ofBigEndian_lt (slice data 2 4)
  have seq := ofBigEndian_lt (slice data 4 8)
  rw [slice_length _ _ _ (by omega)] at type length seq
  unfold maxFramePayload
  exact ⟨by simp only [parseHeader]; omega, by simp only [parseHeader]; omega,
    by simp only [parseHeader]; omega⟩

/-- Writing the parsed header gives back the first eight bytes. -/
theorem headerBytes_parseHeader (data : Bytes) (long : frameHeaderSize ≤ data.length) :
    headerBytes (parseHeader data).version (parseHeader data).type
      (parseHeader data).payloadLength (parseHeader data).seqNum =
      slice data 0 frameHeaderSize := by
  unfold frameHeaderSize at long ⊢
  have written : ∀ start stop, stop ≤ data.length →
      toBigEndian (stop - start) (ofBigEndian (slice data start stop)) =
        slice data start stop := by
    intro start stop inside
    have same := toBigEndian_ofBigEndian (slice data start stop)
    rwa [slice_length _ _ _ inside] at same
  simp only [headerBytes, parseHeader]
  rw [written 0 1 (by omega), written 1 2 (by omega), written 2 4 (by omega),
    written 4 8 (by omega), slice_append_slice _ 0 1 2 (by omega) (by omega),
    slice_append_slice _ 0 2 4 (by omega) (by omega),
    slice_append_slice _ 0 4 8 (by omega) (by omega)]

theorem maskSeq_of_lt (seqNum : Nat) (small : seqNum < 2 ^ 32) : maskSeq seqNum = seqNum := by
  rw [maskSeq_natCast, Nat.mod_eq_of_lt small]

/-- Packing what unpacking returned gives the declared frame, without what is behind it. -/
theorem packFrame_unpackFrame {data : Bytes} {header : FrameHeader} {payload tag : Bytes}
    (unpacked : unpackFrame data = .ok (header, payload, tag)) :
    packFrame header.type payload header.seqNum frameVersion (some tag) =
      .ok (slice data 0 (frameHeaderSize + header.payloadLength + gcmTagSize)) := by
  obtain ⟨long, version, room, same⟩ := (unpackFrame_eq_ok_iff data _).mp unpacked
  obtain ⟨rfl, rfl, rfl⟩ := Prod.mk.inj same |>.imp_right Prod.mk.inj
  obtain ⟨typeFits, lengthFits, seqFits⟩ := parseHeader_fits data (by omega)
  have payloadLength : (slice data frameHeaderSize
      (frameHeaderSize + (parseHeader data).payloadLength)).length =
      (parseHeader data).payloadLength := by
    rw [slice_length _ _ _ (by omega)]
    omega
  have tagLength : (slice data (frameHeaderSize + (parseHeader data).payloadLength)
      (frameHeaderSize + (parseHeader data).payloadLength + gcmTagSize)).length =
      gcmTagSize := by
    rw [slice_length _ _ _ room]
    omega
  rw [packFrame_ok _ _ _ _ typeFits (by rw [payloadLength]; exact lengthFits) tagLength,
    payloadLength, maskSeq_of_lt _ seqFits, ← version, headerBytes_parseHeader data (by omega),
    slice_append_slice _ _ _ _ (by omega) (by omega),
    slice_append_slice _ _ _ _ (by omega) (by omega)]

/-- Packing has one version. -/
theorem packFrame_version {type : Nat} {payload : Bytes} {seqNum : Int} {version : Nat}
    {authTag : Option Bytes} {frame : Bytes}
    (packed : packFrame type payload seqNum version authTag = .ok frame) :
    version = frameVersion := by
  by_contra otherVersion
  unfold packFrame at packed
  split at packed
  · cases packed
  · cases packed

/-- What packing makes ends where its declared frame ends. -/
theorem packed_length {data : Bytes} (packed : IsPacked data) :
    data.length = frameHeaderSize + (parseHeader data).payloadLength + gcmTagSize := by
  obtain ⟨type, payload, seqNum, version, authTag, packed⟩ := packed
  cases packFrame_version packed
  obtain ⟨_, _, room, same⟩ := (unpackFrame_eq_ok_iff data _).mp (unpackFrame_packFrame packed)
  obtain ⟨_, _, tagFits, rfl⟩ := packFrame_inversion packed
  rw [← (Prod.mk.inj same).1]
  simp only [List.length_append, headerBytes_length, tagFits]

/-! ### The round trip -/

/-- A frame is unpacked to what was packed, and no strict prefix of it is a frame. -/
theorem frame_roundTrip (type : Nat) (payload : Bytes) (seqNum : Int) (authTag : Option Bytes)
    (typeFits : type ≤ 255) (payloadFits : payload.length ≤ 65535)
    (tagFits : ∀ tag, authTag = some tag → tag.length = 16) :
    FrameRoundTrip type payload seqNum authTag := by
  have tagged : (authTag.getD (List.replicate gcmTagSize 0)).length = gcmTagSize := by
    cases authTag with
    | none => rw [Option.getD_none, List.length_replicate]
    | some tag => exact tagFits tag rfl
  have packed : ∃ frame, packFrame type payload seqNum frameVersion authTag = .ok frame := by
    have given := packFrame_ok type payload seqNum _ typeFits payloadFits tagged
    cases authTag with
    | none => exact ⟨_, given⟩
    | some tag => exact ⟨_, given⟩
  obtain ⟨frame, packed⟩ := packed
  refine ⟨frame, packed, unpackFrame_packFrame packed, ?_⟩
  rintro cut ⟨rest, rfl⟩ strict
  refine refusedAsFrame_of_not_accepted ?_
  rintro ⟨parsed, accepted⟩
  obtain ⟨long, _, room, _⟩ := (unpackFrame_eq_ok_iff cut parsed).mp accepted
  have whole := packed_length ⟨type, payload, seqNum, frameVersion, authTag, packed⟩
  rw [parseHeader_append cut rest (by omega), List.length_append] at whole
  have nothing : rest = [] := List.eq_nil_of_length_eq_zero (by omega)
  exact strict (by rw [nothing, List.append_nil])

theorem frame_roundTrip_punch :
    (framePunch ≤ 255 ∧ ([1, 2, 3] : Bytes).length ≤ 65535) ∧
      FrameRoundTrip framePunch [1, 2, 3] (-1) (some (List.replicate 16 7)) :=
  ⟨by decide, frame_roundTrip framePunch [1, 2, 3] (-1) (some (List.replicate 16 7)) (by decide)
    (by decide) (fun _ same => by cases same; rfl)⟩

/-! ### Exact decoding -/

/-- Where nothing is behind the frame, what unpacking accepts is the whole of the data. -/
theorem packedAgain_of_nothingBehind {data : Bytes} (nothing : NothingBehindFrame data)
    {header : FrameHeader} {payload tag : Bytes}
    (unpacked : unpackFrame data = .ok (header, payload, tag)) :
    packFrame header.type payload header.seqNum frameVersion (some tag) = .ok data := by
  have again := packFrame_unpackFrame unpacked
  obtain ⟨long, version, _, same⟩ := (unpackFrame_eq_ok_iff data _).mp unpacked
  obtain ⟨rfl, _⟩ := Prod.mk.inj same
  obtain short | otherVersion | ends := nothing
  · exact absurd long (by omega)
  · exact absurd version otherVersion
  · rw [again, slice_all data _ ends]

/-- Unpacking is exact on exactly the data with nothing behind the declared frame. -/
theorem frameDecodingExact_iff (data : Bytes) :
    FrameDecodingExact data ↔ NothingBehindFrame data := by
  constructor
  · intro decodes
    by_contra behind
    simp only [NothingBehindFrame, not_or, not_not] at behind
    obtain ⟨long, version, follows⟩ := behind
    have accepted := (unpackFrame_eq_ok_iff data _).mpr ⟨by omega, version, by omega, rfl⟩
    have packed := packed_length (decodes.accepted.mp ⟨_, accepted⟩)
    omega
  · intro nothing
    have accepted : (∃ parsed, unpackFrame data = .ok parsed) ↔ IsPacked data := by
      constructor
      · rintro ⟨⟨header, payload, tag⟩, unpacked⟩
        exact ⟨_, _, _, _, _, packedAgain_of_nothingBehind nothing unpacked⟩
      · rintro ⟨type, payload, seqNum, version, authTag, packed⟩
        cases packFrame_version packed
        exact ⟨_, unpackFrame_packFrame packed⟩
    refine ⟨fun _ _ _ => packedAgain_of_nothingBehind nothing, accepted, fun unpacked => ?_⟩
    exact refusedAsFrame_of_not_accepted fun parsed => unpacked (accepted.mp parsed)

/-- A keepalive frame with one more byte behind it is accepted as the keepalive frame. -/
def keepaliveAndByte : Bytes :=
  headerBytes frameVersion frameKeepalive 0 5 ++ List.replicate 16 0 ++ [255]

theorem keepaliveAndByte_counterexample :
    ¬ FrameDecodingExact keepaliveAndByte ∧
      unpackFrame keepaliveAndByte =
        .ok (⟨frameVersion, frameKeepalive, 0, 5⟩, [], List.replicate 16 0) ∧
      packFrame frameKeepalive [] 5 frameVersion (some (List.replicate 16 0)) ≠
        .ok keepaliveAndByte := by
  have unpacked : unpackFrame keepaliveAndByte =
      .ok (⟨frameVersion, frameKeepalive, 0, 5⟩, [], List.replicate 16 0) := by decide +kernel
  have different : packFrame frameKeepalive [] 5 frameVersion (some (List.replicate 16 0)) ≠
      .ok keepaliveAndByte := by decide +kernel
  exact ⟨fun decodes => different (decodes.packedAgain _ _ _ unpacked), unpacked, different⟩

end LocalNetwork
