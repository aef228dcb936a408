/-
This file models WebSocket frames as they are on the wire, and the two routines of
`WebSocketRelay` that take them apart and put them together. `_read_frame` reads any frame
and returns its opcode and payload; `_send_frame` writes an opcode and a payload as one
unmasked frame that is marked as final.

A read that has too few bytes waits for more. More bytes never change what a read returns,
so that a frame is read the same way whatever pieces it arrives in.
-/

import LocalNetwork.Basic

namespace LocalNetwork

/-! ### Frames -/

def opClose : UInt8 := 0x8

def opPing : UInt8 := 0x9

def opPong : UInt8 := 0xA

/-- A frame, without extensions. -/
structure WebSocketFrame where
  fin : Bool
  opcode : Fin 16
  payload : Bytes
  deriving DecidableEq

/-- A frame as an endpoint sends it, with the key that masks its payload if there is one. -/
structure WireFrame extends WebSocketFrame where
  mask : Option { key : Bytes // key.length = 4 }

/-- Combine each byte with one of the four bytes of a key. -/
def applyMask (key payload : Bytes) : Bytes :=
  payload.mapIdx fun index byte => byte ^^^ key.getD (index % 4) 0

def headerByte (fin : Bool) (opcode : Fin 16) : UInt8 :=
  UInt8.ofNat ((if fin then 128 else 0) + opcode)

def lengthByte (masked : Bool) (short : Fin 128) : UInt8 :=
  UInt8.ofNat ((if masked then 128 else 0) + short)

/-- The seven bits for a length: the length itself, or the size of the number that follows. -/
def shortLength (length : Nat) : Fin 128 :=
  if small : length < 126 then ⟨length, by omega⟩ else if length < 65536 then 126 else 127

def extendedLength (length : Nat) : Bytes :=
  if length < 126 then [] else if length < 65536 then toBigEndian 2 length
  else toBigEndian 8 length

namespace WireFrame

/-- The bytes of a frame, with its length in the shortest form. -/
def encode (frame : WireFrame) : Bytes :=
  headerByte frame.fin frame.opcode ::
    lengthByte frame.mask.isSome (shortLength frame.payload.length) ::
      (extendedLength frame.payload.length ++
        match frame.mask with
        | none => frame.payload
        | some key => key.val ++ applyMask key.val frame.payload)

/-- The payload is not longer than the relay admits and than a frame can hold. -/
def WellFormed (maxMessageSize : Nat) (frame : WireFrame) : Prop :=
  frame.payload.length ≤ maxMessageSize ∧ frame.payload.length < 2 ^ 63

end WireFrame

/-! ### Reading and sending -/

/-- What `_read_frame` comes to on the bytes that are there. -/
inductive FrameRead where
  | waits
  | tooLarge
  | frame (opcode : UInt8) (payload rest : Bytes)
  deriving DecidableEq

/-- `readexactly` on the bytes that are there. -/
def takeExactly (count : Nat) (data : Bytes) : Option (Bytes × Bytes) :=
  if count ≤ data.length then some (data.take count, data.drop count) else none

/-- The length of the payload behind its seven bits. -/
def readFrameLength (short : UInt8) (data : Bytes) : Option (Nat × Bytes) :=
  if short = 126 then (takeExactly 2 data).map fun taken => (ofBigEndian taken.1, taken.2)
  else if short = 127 then (takeExactly 8 data).map fun taken => (ofBigEndian taken.1, taken.2)
  else some (short.toNat, data)

/-- The masking key, if there is one, and the payload. -/
def readFramePayload (masked : Bool) (length : Nat) (data : Bytes) : Option (Bytes × Bytes) :=
  if masked then
    (takeExactly 4 data).bind fun key =>
      (takeExactly length key.2).map fun payload => (applyMask key.1 payload.1, payload.2)
  else takeExactly length data

/-- `_read_frame`. -/
def readFrame (maxMessageSize : Nat) : Bytes → FrameRead
  | byte0 :: byte1 :: data =>
    match readFrameLength (byte1 &&& 0x7F) data with
    | none => .waits
    | some (length, data) =>
      if maxMessageSize < length then .tooLarge
      else
        match readFramePayload (byte1 &&& 0x80 != 0) length data with
        | none => .waits
        | some (payload, rest) => .frame (byte0 &&& 0x0F) payload rest
  | _ => .waits

/-- `_send_frame`. -/
def sendFrame (opcode : UInt8) (payload : Bytes) : Bytes :=
  (0x80 ||| (opcode &&& 0x0F)) ::
    (if payload.length < 126 then UInt8.ofNat payload.length :: payload
    else if payload.length < 65536 then 126 :: (toBigEndian 2 payload.length ++ payload)
    else 127 :: (toBigEndian 8 payload.length ++ payload))

/-! ### A read takes a front off, whatever follows it -/

theorem takeExactly_take {count : Nat} {first : Bytes} (size : first.length = count)
    (rest : Bytes) : takeExactly count (first ++ rest) = some (first, rest) := by
  subst size
  rw [takeExactly, if_pos (by rw [List.length_append]; omega), List.take_left, List.drop_left]

theorem takeExactly_front {count : Nat} {data taken rest : Bytes}
    (read : takeExactly count data = some (taken, rest)) :
    data = taken ++ rest ∧ ∀ other, takeExactly count (taken ++ other) = some (taken, other) := by
  unfold takeExactly at read
  split at read
  · rename_i enough
    obtain ⟨rfl, rfl⟩ := Prod.mk.inj (Option.some.inj read)
    exact ⟨(List.take_append_drop count data).symm,
      takeExactly_take (List.length_take_of_le enough)⟩
  · cases read

theorem readFrameLength_front {short : UInt8} {data rest : Bytes} {length : Nat}
    (read : readFrameLength short data = some (length, rest)) :
    ∃ front, data = front ++ rest ∧
      ∀ other, readFrameLength short (front ++ other) = some (length, other) := by
  unfold readFrameLength at read
  split at read
  · rename_i medium
    obtain ⟨⟨taken, left⟩, readHere, same⟩ := Option.map_eq_some_iff.mp read
    obtain ⟨rfl, rfl⟩ := Prod.mk.inj same
    obtain ⟨whole, again⟩ := takeExactly_front readHere
    refine ⟨taken, whole, fun other => ?_⟩
    rw [readFrameLength, if_pos medium, again other]
    rfl
  · rename_i notMedium
    split at read
    · rename_i long
      obtain ⟨⟨taken, left⟩, readHere, same⟩ := Option.map_eq_some_iff.mp read
      obtain ⟨rfl, rfl⟩ := Prod.mk.inj same
      obtain ⟨whole, again⟩ := takeExactly_front readHere
      refine ⟨taken, whole, fun other => ?_⟩
      rw [readFrameLength, if_neg notMedium, if_pos long, again other]
      rfl
    · rename_i notLong
      obtain ⟨rfl, rfl⟩ := Prod.mk.inj (Option.some.inj read)
      refine ⟨[], rfl, fun other => ?_⟩
      rw [readFrameLength, if_neg notMedium, if_neg notLong]
      rfl

theorem readFramePayload_front {masked : Bool} {length : Nat} {data payload rest : Bytes}
    (read : readFramePayload masked length data = some (payload, rest)) :
    ∃ front, data = front ++ rest ∧
      ∀ other, readFramePayload masked length (front ++ other) = some (payload, other) := by
  unfold readFramePayload at read
  cases masked with
  | false => exact ⟨payload, takeExactly_front read⟩
  | true =>
    obtain ⟨⟨key, afterKey⟩, keyRead, read⟩ := Option.bind_eq_some_iff.mp read
    obtain ⟨⟨hidden, left⟩, readHere, same⟩ := Option.map_eq_some_iff.mp read
    obtain ⟨rfl, rfl⟩ := Prod.mk.inj same
    obtain ⟨rfl, keyAgain⟩ := takeExactly_front keyRead
    obtain ⟨rfl, again⟩ := takeExactly_front readHere
    refine ⟨key ++ hidden, (List.append_assoc ..).symm, fun other => ?_⟩
    rw [readFramePayload, if_pos rfl, List.append_assoc, keyAgain, Option.bind_some, again]
    rfl

/-- A frame that is read is a front of what is there, and is read with anything else behind it. -/
theorem readFrame_front {maxMessageSize : Nat} {data payload rest : Bytes} {opcode : UInt8}
    (read : readFrame maxMessageSize data = .frame opcode payload rest) :
    ∃ front, data = front ++ rest ∧
      ∀ other, readFrame maxMessageSize (front ++ other) = .frame opcode payload other := by
  match data with
  | [] => cases read
  | [byte0] => cases read
  | byte0 :: byte1 :: data =>
    rw [readFrame] at read
    split at read
    · cases read
    · rename_i length afterLength lengthRead
      split at read
      · cases read
      · rename_i fits
        split at read
        · cases read
        · rename_i payload left payloadRead
          obtain ⟨rfl, rfl, rfl⟩ := FrameRead.frame.inj read
          obtain ⟨lengthFront, rfl, lengthAgain⟩ := readFrameLength_front lengthRead
          obtain ⟨payloadFront, rfl, payloadAgain⟩ := readFramePayload_front payloadRead
          refine ⟨byte0 :: byte1 :: (lengthFront ++ payloadFront),
            congrArg (byte0 :: byte1 :: ·) (List.append_assoc ..).symm, fun other => ?_⟩
          rw [List.cons_append, List.cons_append, readFrame, List.append_assoc, lengthAgain]
          dsimp only
          rw [if_neg fits, payloadAgain]

/-- A frame that is too large is rejected with more bytes behind it too. -/
theorem readFrame_tooLarge_append {maxMessageSize : Nat} {data : Bytes} (more : Bytes)
    (read : readFrame maxMessageSize data = .tooLarge) :
    readFrame maxMessageSize (data ++ more) = .tooLarge := by
  match data with
  | [] => cases read
  | [byte0] => cases read
  | byte0 :: byte1 :: data =>
    rw [readFrame] at read
    split at read
    · cases read
    · rename_i length afterLength lengthRead
      split at read
      · rename_i large
        obtain ⟨front, rfl, again⟩ := readFrameLength_front lengthRead
        rw [List.cons_append, List.cons_append, readFrame, List.append_assoc, again]
        exact if_pos large
      · split at read
        · cases read
        · cases read

/-- A read that does not wait comes to the same with more bytes. -/
theorem readFrame_append {maxMessageSize : Nat} {data : Bytes} (more : Bytes) :
    match readFrame maxMessageSize data with
    | .waits => True
    | .tooLarge => readFrame maxMessageSize (data ++ more) = .tooLarge
    | .frame opcode payload rest =>
      readFrame maxMessageSize (data ++ more) = .frame opcode payload (rest ++ more) := by
  cases read : readFrame maxMessageSize data with
  | waits => exact trivial
  | tooLarge => exact readFrame_tooLarge_append more read
  | frame opcode payload rest =>
    obtain ⟨front, rfl, again⟩ := readFrame_front read
    dsimp only
    rw [List.append_assoc]
    exact again (rest ++ more)

theorem readFrame_suffix {maxMessageSize : Nat} {data payload rest : Bytes} {opcode : UInt8}
    (read : readFrame maxMessageSize data = .frame opcode payload rest) : rest <:+ data := by
  obtain ⟨front, whole, -⟩ := readFrame_front read
  exact ⟨front, whole.symm⟩

/-! ### A read takes off what was encoded -/

/-- The opcode in the first byte, with and without the mark of the last frame. -/
theorem headerByte_opcode (fin : Bool) (opcode : Fin 16) :
    headerByte fin opcode &&& 0x0F = UInt8.ofNat opcode := by
  revert fin opcode
  decide

theorem lengthByte_short (masked : Bool) (short : Fin 128) :
    lengthByte masked short &&& 0x7F = UInt8.ofNat short := by
  revert masked short
  decide

theorem lengthByte_masked (masked : Bool) (short : Fin 128) :
    (lengthByte masked short &&& 0x80 != 0) = masked := by
  revert masked short
  decide

theorem readFrameLength_encode {length : Nat} (bounded : length < 2 ^ 64) (rest : Bytes) :
    readFrameLength (UInt8.ofNat (shortLength length)) (extendedLength length ++ rest) =
      some (length, rest) := by
  unfold shortLength extendedLength
  by_cases small : length < 126
  · rw [dif_pos small, if_pos small]
    have short : (UInt8.ofNat length).toNat = length :=
      UInt8.toNat_ofNat_of_lt' (Nat.lt_trans small (by decide))
    have notMedium : UInt8.ofNat length ≠ 126 := fun same => by
      rw [same] at short
      exact absurd small (by rw [← short]; decide)
    have notLong : UInt8.ofNat length ≠ 127 := fun same => by
      rw [same] at short
      exact absurd small (by rw [← short]; decide)
    rw [readFrameLength, if_neg notMedium, if_neg notLong, short]
    rfl
  · rw [dif_neg small, if_neg small]
    by_cases medium : length < 65536
    · have taken := takeExactly_take (toBigEndian_length 2 length) rest
      rw [if_pos medium, if_pos medium, readFrameLength, if_pos (by decide), taken, Option.map_some,
        ofBigEndian_toBigEndian_of_lt 2 length medium]
    · have taken := takeExactly_take (toBigEndian_length 8 length) rest
      rw [if_neg medium, if_neg medium, readFrameLength, if_neg (by decide), if_pos (by decide),
        taken, Option.map_some,
        ofBigEndian_toBigEndian_of_lt 8 length bounded]

theorem applyMask_applyMask (key payload : Bytes) :
    applyMask key (applyMask key payload) = payload := by
  rw [applyMask, applyMask, List.mapIdx_mapIdx, List.mapIdx_eq_iff]
  intro index
  cases payload[index]? with
  | none => rfl
  | some byte =>
    have cancels (mask : UInt8) : byte ^^^ mask ^^^ mask = byte := by
      rw [UInt8.xor_assoc, UInt8.xor_self, UInt8.xor_zero]
    exact congrArg some (cancels _).symm

theorem applyMask_length (key payload : Bytes) :
    (applyMask key payload).length = payload.length :=
  List.length_mapIdx

/-- A read takes a frame off the stream whose length can be written, and leaves what follows. -/
theorem readFrame_packed {maxMessageSize : Nat} {frame : WireFrame}
    (fits : frame.payload.length ≤ maxMessageSize) (packs : frame.payload.length < 2 ^ 64)
    (rest : Bytes) :
    readFrame maxMessageSize (frame.encode ++ rest) =
      .frame (UInt8.ofNat frame.opcode) frame.payload rest := by
  have payloadRead : readFramePayload frame.mask.isSome frame.payload.length
      ((match frame.mask with
        | none => frame.payload
        | some key => key.val ++ applyMask key.val frame.payload) ++ rest) =
          some (frame.payload, rest) := by
    cases frame.mask with
    | none => exact takeExactly_take rfl rest
    | some key =>
      have keyRead := takeExactly_take key.property (applyMask key.val frame.payload ++ rest)
      have maskedRead := takeExactly_take (applyMask_length key.val frame.payload) rest
      simp only [readFramePayload, Option.isSome_some, if_true, List.append_assoc, keyRead,
        Option.bind_some, maskedRead, Option.map_some, applyMask_applyMask]
  rw [WireFrame.encode, List.cons_append, List.cons_append, readFrame, lengthByte_short,
    lengthByte_masked, headerByte_opcode, List.append_assoc, readFrameLength_encode packs]
  dsimp only
  rw [if_neg (Nat.not_lt_of_le fits), payloadRead]

theorem readFrame_encode {maxMessageSize : Nat} {frame : WireFrame}
    (wellFormed : frame.WellFormed maxMessageSize) (rest : Bytes) :
    readFrame maxMessageSize (frame.encode ++ rest) =
      .frame (UInt8.ofNat frame.opcode) frame.payload rest :=
  readFrame_packed wellFormed.1 (Nat.lt_trans wellFormed.2 (by decide)) rest

/-- What `_send_frame` writes is the final, unmasked frame with the opcode and the payload. -/
theorem sendFrame_eq_encode (opcode : Fin 16) (payload : Bytes) :
    sendFrame (UInt8.ofNat opcode) payload =
      WireFrame.encode ⟨⟨true, opcode, payload⟩, none⟩ := by
  have header : 0x80 ||| (UInt8.ofNat opcode &&& 0x0F) = headerByte true opcode := by
    revert opcode
    decide
  rw [sendFrame, WireFrame.encode, header]
  refine congrArg _ ?_
  unfold shortLength extendedLength
  dsimp only
  split
  · simp [lengthByte]
  · split
    · rfl
    · rfl

/-! ### The codec -/

/-- The bytes of a frame up to the end of its length, and the length they declare. -/
inductive DeclaresLength : Bytes → Nat → Prop
  | short (byte0 byte1 : UInt8) (small : (byte1 &&& 0x7F).toNat < 126) :
    DeclaresLength [byte0, byte1] (byte1 &&& 0x7F).toNat
  | medium (byte0 byte1 : UInt8) (extended : Bytes) (medium : byte1 &&& 0x7F = 126)
    (two : extended.length = 2) :
    DeclaresLength (byte0 :: byte1 :: extended) (ofBigEndian extended)
  | long (byte0 byte1 : UInt8) (extended : Bytes) (long : byte1 &&& 0x7F = 127)
    (eight : extended.length = 8) :
    DeclaresLength (byte0 :: byte1 :: extended) (ofBigEndian extended)

theorem readFrameLength_declared {byte0 byte1 : UInt8} {extended : Bytes} {length : Nat}
    (declares : DeclaresLength (byte0 :: byte1 :: extended) length) (more : Bytes) :
    readFrameLength (byte1 &&& 0x7F) (extended ++ more) = some (length, more) := by
  cases declares with
  | short _ _ small =>
    have notMedium : byte1 &&& 0x7F ≠ 126 := fun same => by
      rw [same] at small
      exact absurd small (by decide)
    have notLong : byte1 &&& 0x7F ≠ 127 := fun same => by
      rw [same] at small
      exact absurd small (by decide)
    rw [readFrameLength, if_neg notMedium, if_neg notLong]
    rfl
  | medium _ _ _ medium two =>
    rw [readFrameLength, if_pos medium, takeExactly_take two more]
    rfl
  | long _ _ _ long eight =>
    rw [readFrameLength, long, if_neg (by decide), if_pos rfl, takeExactly_take eight more]
    rfl

/-- A length that is too large is rejected on the bytes that declare it, whatever follows them. -/
theorem readFrame_tooLarge {maxMessageSize length : Nat} {header : Bytes}
    (declares : DeclaresLength header length) (large : maxMessageSize < length) (more : Bytes) :
    readFrame maxMessageSize (header ++ more) = .tooLarge := by
  obtain ⟨byte0, byte1, extended, rfl⟩ :
      ∃ byte0 byte1 extended, header = byte0 :: byte1 :: extended := by
    cases declares with
    | short byte0 byte1 => exact ⟨byte0, byte1, [], rfl⟩
    | medium byte0 byte1 extended => exact ⟨byte0, byte1, extended, rfl⟩
    | long byte0 byte1 extended => exact ⟨byte0, byte1, extended, rfl⟩
  rw [List.cons_append, List.cons_append, readFrame, readFrameLength_declared declares]
  exact if_pos large

/-- What `_send_frame` writes of a payload whose length `struct.pack` can write in eight bytes is
read back by itself, whatever follows it, and so is the masked encoding of the frame. A frame that
declares too many bytes is rejected before its mask and its payload are read: by what it begins
with, whether anything follows or not. -/
theorem webSocketFrameCodec (maxMessageSize : Nat) :
    (∀ (opcode : Fin 16) (payload : Bytes), payload.length ≤ maxMessageSize →
      payload.length < 2 ^ 64 → ∀ rest,
        readFrame maxMessageSize (sendFrame (UInt8.ofNat opcode) payload ++ rest) =
            .frame (UInt8.ofNat opcode) payload rest ∧
          ∀ key : { key : Bytes // key.length = 4 },
            readFrame maxMessageSize
                (WireFrame.encode ⟨⟨true, opcode, payload⟩, some key⟩ ++ rest) =
              .frame (UInt8.ofNat opcode) payload rest) ∧
      ∀ header length, DeclaresLength header length → maxMessageSize < length →
        ∀ more, readFrame maxMessageSize (header ++ more) = .tooLarge := by
  refine ⟨fun opcode payload fits packs rest => ⟨?_, fun key => ?_⟩,
    fun header length declares large more => readFrame_tooLarge declares large more⟩
  · rw [sendFrame_eq_encode]
    exact @readFrame_packed _ ⟨⟨true, opcode, payload⟩, none⟩ fits packs rest
  · exact @readFrame_packed _ ⟨⟨true, opcode, payload⟩, some key⟩ fits packs rest

theorem webSocketFrameCodec_hi :
    readFrame 1048576 (sendFrame 1 [104, 105] ++ [0]) = .frame 1 [104, 105] [0] ∧
      readFrame 1 (sendFrame 1 [104, 105]) = .tooLarge :=
  ⟨((webSocketFrameCodec 1048576).1 1 [104, 105] (by decide) (by decide) [0]).1,
    (webSocketFrameCodec 1).2 [129, 2] 2 (.short 129 2 (by decide)) (by decide) [104, 105]⟩

end LocalNetwork
