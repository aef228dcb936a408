/-
This file models the data-plane frame of `common/frame.py`: an eight-byte header, the
payload and a sixteen-byte tag. Packing checks the payload length, the version and the
tag length; unpacking checks the minimum size, the version and that the declared
payload fits the buffer.

The last part is the specification the tunnel proofs use: what packing produces, and
that unpacking a packed frame gives back every field.
-/

import LocalNetwork.Basic

namespace LocalNetwork

/-! ### Constants -/

def frameVersion : Nat := 0x01
def frameHeaderSize : Nat := 8
def gcmTagSize : Nat := 16
def maxFramePayload : Nat := 65535

def frameData : Nat := 0x01
def framePunch : Nat := 0x02
def frameKeepalive : Nat := 0x03
def frameClose : Nat := 0x04
def framePunchAck : Nat := 0x06

/-! ### Packing and unpacking -/

/-- What packing and unpacking raise. `frameError` stands for the base class alone; the next
two are its subclasses; `structError` is raised by the header codec for a type byte out of
range and is not one of them. -/
inductive FrameException where
  | frameError (text : String)
  | invalidFrameVersionError (text : String)
  | frameTooLargeError (text : String)
  | structError
  deriving DecidableEq, Repr

/-- A parsed frame header. -/
structure FrameHeader where
  version : Nat
  type : Nat
  payloadLength : Nat
  seqNum : Nat
  deriving DecidableEq, Repr

/-- Two lower-case hexadecimal digits at least, as the format `02x` prints them. -/
def hexByte (value : Nat) : String :=
  let digits := Nat.toDigits 16 value
  String.ofList (if digits.length < 2 then '0' :: digits else digits)

def unsupportedVersion (version : Nat) : FrameException :=
  .invalidFrameVersionError s!"unsupported frame version 0x{hexByte version}"

/-- The eight header bytes, in network byte order. -/
def headerBytes (version type payloadLength seqNum : Nat) : Bytes :=
  toBigEndian 1 version ++ toBigEndian 1 type ++ toBigEndian 2 payloadLength ++
    toBigEndian 4 seqNum

/-- The sequence number as the header carries it: the low 32 bits of any integer. -/
def maskSeq (seqNum : Int) : Nat := (seqNum % 4294967296).toNat

/-- Pack a frame. The source also tests for a missing tag on encrypted frame types, and
then does nothing about it. -/
def packFrame (type : Nat) (payload : Bytes) (seqNum : Int) (version : Nat)
    (authTag : Option Bytes) : Except FrameException Bytes :=
  if maxFramePayload < payload.length then
    .error (.frameTooLargeError
      s!"payload of {payload.length} bytes exceeds 2-byte length field")
  else if version ≠ frameVersion then
    .error (unsupportedVersion version)
  else
    let tag := authTag.getD (List.replicate gcmTagSize 0)
    if tag.length ≠ gcmTagSize then
      .error (.frameError s!"auth tag must be {gcmTagSize} bytes, got {tag.length}")
    else if 255 < type then
      .error .structError
    else
      .ok (headerBytes version type payload.length (maskSeq seqNum) ++ payload ++ tag)

/-- Read the four header fields from the first eight bytes. -/
def parseHeader (data : Bytes) : FrameHeader where
  version := ofBigEndian (slice data 0 1)
  type := ofBigEndian (slice data 1 2)
  payloadLength := ofBigEndian (slice data 2 4)
  seqNum := ofBigEndian (slice data 4 8)

/-- Unpack a frame into its header, payload and tag. -/
def unpackFrame (data : Bytes) : Except FrameException (FrameHeader × Bytes × Bytes) :=
  if data.length < frameHeaderSize + gcmTagSize then
    .error (.frameError
      s!"frame too short: {data.length} bytes (minimum {frameHeaderSize + gcmTagSize})")
  else
    let header := parseHeader data
    if header.version ≠ frameVersion then
      .error (unsupportedVersion header.version)
    else if data.length < frameHeaderSize + header.payloadLength + gcmTagSize then
      .error (.frameError
        (s!"truncated frame: declared {header.payloadLength} payload bytes but only " ++
          s!"{data.length - frameHeaderSize - gcmTagSize} available"))
    else
      let start := frameHeaderSize
      let ciphertext := slice data start (start + header.payloadLength)
      let tag := slice data (start + header.payloadLength)
        (start + header.payloadLength + gcmTagSize)
      .ok (header, ciphertext, tag)

/-- The frame type of a datagram that unpacks. -/
def frameType (data : Bytes) : Option Nat :=
  match unpackFrame data with
  | .error _ => none
  | .ok (header, _, _) => some header.type

/-! ### The frames of the tunnel protocol -/

def makePunchFrame (seqNum : Int) (payload : Bytes) : Except FrameException Bytes :=
  packFrame framePunch payload seqNum frameVersion none

def makePunchAckFrame (seqNum : Int) (payload : Bytes) : Except FrameException Bytes :=
  packFrame framePunchAck payload seqNum frameVersion none

def makeKeepaliveFrame (seqNum : Int) : Except FrameException Bytes :=
  packFrame frameKeepalive [] seqNum frameVersion none

def makeCloseFrame (seqNum : Int) : Except FrameException Bytes :=
  packFrame frameClose [] seqNum frameVersion none

/-! ### The specification of the codec -/

theorem headerBytes_length (version type payloadLength seqNum : Nat) :
    (headerBytes version type payloadLength seqNum).length = frameHeaderSize := by
  simp [headerBytes, frameHeaderSize]

theorem maskSeq_lt (seqNum : Int) : maskSeq seqNum < 2 ^ 32 := by
  unfold maskSeq
  omega

theorem maskSeq_natCast (seqNum : Nat) : maskSeq seqNum = seqNum % 2 ^ 32 := by
  unfold maskSeq
  omega

/-- Packing succeeds on a payload, a type and a tag of legal size. -/
theorem packFrame_ok (type : Nat) (payload : Bytes) (seqNum : Int) (tag : Bytes)
    (typeFits : type ≤ 255) (payloadFits : payload.length ≤ maxFramePayload)
    (tagFits : tag.length = gcmTagSize) :
    packFrame type payload seqNum frameVersion (some tag) =
      .ok (headerBytes frameVersion type payload.length (maskSeq seqNum) ++ payload ++ tag) := by
  simp only [packFrame, Option.getD_some, tagFits, ne_eq, not_true_eq_false, if_false]
  rw [if_neg (by omega), if_neg (by omega)]

theorem parseHeader_headerBytes (version type payloadLength seqNum : Nat) (rest : Bytes)
    (versionFits : version ≤ 255) (typeFits : type ≤ 255)
    (lengthFits : payloadLength ≤ maxFramePayload) (seqFits : seqNum < 2 ^ 32) :
    parseHeader (headerBytes version type payloadLength seqNum ++ rest) =
      ⟨version, type, payloadLength, seqNum⟩ := by
  have versionSlice : slice (headerBytes version type payloadLength seqNum ++ rest) 0 1 =
      toBigEndian 1 version := by
    simp only [headerBytes, List.append_assoc]
    exact slice_append_middle [] (toBigEndian 1 version) _ 0 1 rfl (by simp)
  have typeSlice : slice (headerBytes version type payloadLength seqNum ++ rest) 1 2 =
      toBigEndian 1 type := by
    simp only [headerBytes, List.append_assoc]
    rw [← List.append_assoc]
    exact slice_append_middle (toBigEndian 1 version) _ _ 1 2 (by simp) (by simp)
  have lengthSlice : slice (headerBytes version type payloadLength seqNum ++ rest) 2 4 =
      toBigEndian 2 payloadLength := by
    rw [headerBytes, List.append_assoc]
    exact slice_append_middle (toBigEndian 1 version ++ toBigEndian 1 type) _ _ 2 4 (by simp)
      (by simp)
  have seqSlice : slice (headerBytes version type payloadLength seqNum ++ rest) 4 8 =
      toBigEndian 4 seqNum := by
    rw [headerBytes]
    exact slice_append_middle _ (toBigEndian 4 seqNum) rest 4 8 (by simp) (by simp)
  unfold maxFramePayload at lengthFits
  rw [parseHeader, versionSlice, typeSlice, lengthSlice, seqSlice,
    ofBigEndian_toBigEndian_of_lt 1 version (by omega),
    ofBigEndian_toBigEndian_of_lt 1 type (by omega),
    ofBigEndian_toBigEndian_of_lt 2 payloadLength (by omega),
    ofBigEndian_toBigEndian_of_lt 4 seqNum (by omega)]

/-- Unpacking the bytes of a well-formed frame gives back every field, whatever follows. -/
theorem unpackFrame_frameBytes (type : Nat) (payload : Bytes) (seqNum : Nat) (tag : Bytes)
    (typeFits : type ≤ 255) (payloadFits : payload.length ≤ maxFramePayload)
    (seqFits : seqNum < 2 ^ 32) (tagFits : tag.length = gcmTagSize) :
    unpackFrame (headerBytes frameVersion type payload.length seqNum ++ payload ++ tag) =
      .ok (⟨frameVersion, type, payload.length, seqNum⟩, payload, tag) := by
  have total : (headerBytes frameVersion type payload.length seqNum ++ payload ++ tag).length =
      frameHeaderSize + payload.length + gcmTagSize := by
    rw [List.length_append, List.length_append, headerBytes_length, tagFits]
  have header : parseHeader
      (headerBytes frameVersion type payload.length seqNum ++ payload ++ tag) =
      ⟨frameVersion, type, payload.length, seqNum⟩ := by
    rw [List.append_assoc]
    exact parseHeader_headerBytes _ _ _ _ _ (by decide) typeFits payloadFits seqFits
  have payloadSlice : slice
      (headerBytes frameVersion type payload.length seqNum ++ payload ++ tag)
      frameHeaderSize (frameHeaderSize + payload.length) = payload :=
    slice_append_middle _ payload tag _ _ (headerBytes_length _ _ _ _).symm
      (by rw [headerBytes_length])
  have tagSlice : slice (headerBytes frameVersion type payload.length seqNum ++ payload ++ tag)
      (frameHeaderSize + payload.length) (frameHeaderSize + payload.length + gcmTagSize) =
      tag := by
    have cut := slice_append_middle
      (headerBytes frameVersion type payload.length seqNum ++ payload) tag []
      (frameHeaderSize + payload.length) (frameHeaderSize + payload.length + gcmTagSize)
      (by rw [List.length_append, headerBytes_length])
      (by rw [List.length_append, headerBytes_length, tagFits])
    rwa [List.append_nil] at cut
  simp only [unpackFrame]
  rw [if_neg (by rw [total]; omega), header]
  simp only [ne_eq, not_true_eq_false, if_false]
  rw [if_neg (by rw [total]; omega), payloadSlice, tagSlice]

/-- Packing succeeds on legal sizes only, and says what it produced. -/
theorem packFrame_inversion {type : Nat} {payload : Bytes} {seqNum : Int} {authTag : Option Bytes}
    {frame : Bytes} (packed : packFrame type payload seqNum frameVersion authTag = .ok frame) :
    type ≤ 255 ∧ payload.length ≤ maxFramePayload ∧
      (authTag.getD (List.replicate gcmTagSize 0)).length = gcmTagSize ∧
      frame = headerBytes frameVersion type payload.length (maskSeq seqNum) ++ payload ++
        authTag.getD (List.replicate gcmTagSize 0) := by
  unfold packFrame at packed
  split at packed
  · cases packed
  · split at packed
    · cases packed
    · simp only at packed
      split at packed
      · cases packed
      · split at packed
        · cases packed
        · rename_i small _ tagged typed
          exact ⟨by omega, by omega, not_not.mp tagged, (Except.ok.inj packed).symm⟩

/-- What packing accepts, unpacking gives back. -/
theorem unpackFrame_packFrame {type : Nat} {payload : Bytes} {seqNum : Int}
    {authTag : Option Bytes} {frame : Bytes}
    (packed : packFrame type payload seqNum frameVersion authTag = .ok frame) :
    unpackFrame frame =
      .ok (⟨frameVersion, type, payload.length, maskSeq seqNum⟩, payload,
        authTag.getD (List.replicate gcmTagSize 0)) := by
  obtain ⟨typeFits, payloadFits, tagFits, rfl⟩ := packFrame_inversion packed
  exact unpackFrame_frameBytes type payload _ _ typeFits payloadFits (maskSeq_lt seqNum) tagFits

end LocalNetwork
