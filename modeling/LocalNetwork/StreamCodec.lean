/-
This file proves that the plaintext of a stream frame is read back, whichever of
`client/service_exposure.py` and `client/service_consumer.py` built it.

An id is padded with zero bytes to a fixed width, and the padding is taken off by removing
the zero bytes at the end. That gives the id back if it is ASCII, fits the width and does not
itself end in a NUL. The data stand behind the two ids and are not looked at.
-/

import LocalNetwork.StreamFrames
import LocalNetwork.Text
import Mathlib.Data.List.DropRight

namespace LocalNetwork

/-! ### Both directions -/

/-- The plaintext of `_send_stream_frame` in `client/service_exposure.py`. -/
def exposurePacket (serviceId streamId : String) (data : Bytes) : Option Bytes := do
  let sid ← encodeAscii serviceId
  let stid ← encodeAscii streamId
  let associated := idField sid ++ idField stid
  some (associated ++ data)

/-- Decode ASCII; a byte that is none is replaced. -/
def decodeAscii (data : Bytes) : String :=
  String.ofList (data.map fun byte =>
    if byte.toNat < 128 then Char.ofNat byte.toNat else replacement)

/-- The field of an id without the zeros at its end. -/
def decodeId (field : Bytes) : String := decodeAscii (field.rdropWhile (· == 0))

/-- `decode_stream_frame`. -/
def decodeStreamFrame (data : Bytes) : String × String × Bytes :=
  if data.length < 2 * streamIdSize then ("", "", data)
  else
    (decodeId (slice data 0 streamIdSize),
      decodeId (slice data streamIdSize (2 * streamIdSize)), data.drop (2 * streamIdSize))

/-- An id that fits its field and does not look like padding at its end. -/
structure StreamId where
  text : String
  ascii : ∀ symbol ∈ text.toList, symbol.toNat < 128
  short : text.toList.length ≤ streamIdSize
  unpadded : text.toList.getLast? ≠ some (Char.ofNat 0)

/-! ### One id -/

theorem rdropWhile_append_replicate {Element : Type} {drops : Element → Bool} {element : Element}
    (dropped : drops element = true) (front : List Element) (count : Nat) :
    (front ++ List.replicate count element).rdropWhile drops = front.rdropWhile drops := by
  induction count with
  | zero => rw [List.replicate_zero, List.append_nil]
  | succ count inductionHypothesis =>
    rw [List.replicate_succ', ← List.append_assoc, List.rdropWhile_concat_pos drops _ _ dropped,
      inductionHypothesis]

/-- The bytes of an ASCII id, one for each symbol. -/
def StreamId.bytes (id : StreamId) : Bytes :=
  id.text.toList.map fun symbol => UInt8.ofNat symbol.toNat

theorem StreamId.encodeAscii_text (id : StreamId) : encodeAscii id.text = some id.bytes := by
  rw [encodeAscii, if_pos]
  · rfl
  · exact List.all_eq_true.mpr fun symbol member => decide_eq_true (id.ascii symbol member)

theorem toNat_ofNat_ascii {symbol : Char} (ascii : symbol.toNat < 128) :
    (UInt8.ofNat symbol.toNat).toNat = symbol.toNat :=
  UInt8.toNat_ofNat_of_lt' (Nat.lt_trans ascii (by decide))

theorem StreamId.decodeAscii_bytes (id : StreamId) : decodeAscii id.bytes = id.text := by
  have symbols : (id.bytes.map fun byte =>
      if byte.toNat < 128 then Char.ofNat byte.toNat else replacement) = id.text.toList := by
    rw [bytes, List.map_map]
    refine (List.map_congr_left fun symbol member => ?_).trans (List.map_id _)
    have ascii := id.ascii symbol member
    rw [Function.comp_apply, toNat_ofNat_ascii ascii, if_pos ascii, Char.ofNat_toNat, id_eq]
  rw [decodeAscii, symbols, String.ofList_toList]

theorem StreamId.rdropWhile_bytes (id : StreamId) : id.bytes.rdropWhile (· == 0) = id.bytes := by
  rw [List.rdropWhile_eq_self_iff]
  intro nonempty zero
  have last : id.bytes.getLast? = some 0 := by
    rw [List.getLast?_eq_some_getLast nonempty, eq_of_beq zero]
  rw [bytes, List.getLast?_map, Option.map_eq_some_iff] at last
  obtain ⟨symbol, isLast, isZero⟩ := last
  have ascii := id.ascii symbol (List.mem_of_getLast? isLast)
  have code : symbol.toNat = 0 := by
    rw [← toNat_ofNat_ascii ascii, isZero]
    rfl
  refine id.unpadded ?_
  rw [isLast, ← Char.ofNat_toNat symbol, code]

theorem StreamId.decodeId_idField (id : StreamId) : decodeId (idField id.bytes) = id.text := by
  have short : id.bytes.length ≤ streamIdSize := by
    rw [bytes, List.length_map]
    exact id.short
  rw [decodeId, idField, List.take_of_length_le short, rdropWhile_append_replicate rfl,
    id.rdropWhile_bytes, id.decodeAscii_bytes]

/-! ### Packets -/

/-- The two fields and the data are found where they were put. -/
theorem decodeStreamFrame_fields (sid stid data : Bytes) :
    decodeStreamFrame (idField sid ++ idField stid ++ data) =
      (decodeId (idField sid), decodeId (idField stid), data) := by
  have first : slice (idField sid ++ idField stid ++ data) 0 streamIdSize = idField sid := by
    rw [List.append_assoc]
    exact slice_append_middle [] (idField sid) (idField stid ++ data) 0 streamIdSize rfl
      (by rw [length_idField, List.length_nil, Nat.zero_add])
  have second : slice (idField sid ++ idField stid ++ data) streamIdSize (2 * streamIdSize) =
      idField stid :=
    slice_append_middle (idField sid) (idField stid) data streamIdSize (2 * streamIdSize)
      (length_idField sid).symm (by rw [length_idField, length_idField, Nat.two_mul])
  have fields : (idField sid ++ idField stid).length = 2 * streamIdSize := by
    rw [List.length_append, length_idField, length_idField, Nat.two_mul]
  rw [decodeStreamFrame, if_neg (by rw [List.length_append, fields]; omega), first, second,
    ← fields, List.drop_left]

theorem exposurePacket_eq (serviceId streamId : String) (data : Bytes) :
    exposurePacket serviceId streamId data = streamPacket serviceId streamId data := rfl

theorem streamPacket_eq (serviceId streamId : StreamId) (data : Bytes) :
    streamPacket serviceId.text streamId.text data =
      some (idField serviceId.bytes ++ idField streamId.bytes ++ data) := by
  rw [streamPacket, serviceId.encodeAscii_text, streamId.encodeAscii_text]
  rfl

/-- A packet for such ids is decoded to them and the data. -/
theorem decodeStreamFrame_streamPacket {serviceId streamId : StreamId} {data packet : Bytes}
    (built : streamPacket serviceId.text streamId.text data = some packet) :
    decodeStreamFrame packet = (serviceId.text, streamId.text, data) := by
  rw [streamPacket_eq] at built
  rw [← Option.some.inj built, decodeStreamFrame_fields, serviceId.decodeId_idField,
    streamId.decodeId_idField]

/-- For every two ids and all data: both encoders build one packet, which is decoded to the ids and
the data, and which no other two ids are encoded as. -/
theorem streamCodec (serviceId streamId : StreamId) (data : Bytes) :
    ∃ packet, streamPacket serviceId.text streamId.text data = some packet ∧
      exposurePacket serviceId.text streamId.text data = some packet ∧
      decodeStreamFrame packet = (serviceId.text, streamId.text, data) ∧
      ∀ (otherService otherStream : StreamId) (otherData : Bytes),
        streamPacket otherService.text otherStream.text otherData = some packet ∨
            exposurePacket otherService.text otherStream.text otherData = some packet →
          (otherService.text, otherStream.text) = (serviceId.text, streamId.text) := by
  have built := streamPacket_eq serviceId streamId data
  have decoded := decodeStreamFrame_streamPacket built
  refine ⟨_, built, ?_, decoded, fun otherService otherStream otherData encoded => ?_⟩
  · rw [exposurePacket_eq]
    exact built
  · rw [exposurePacket_eq, or_self] at encoded
    have same := (decodeStreamFrame_streamPacket encoded).symm.trans decoded
    obtain ⟨service, rest⟩ := Prod.mk.inj same
    rw [service, (Prod.mk.inj rest).1]

/-- Two ids as `uuid4` makes them, which are as long as their fields. -/
def exampleServiceId : StreamId :=
  ⟨"7d4c1f0e-52ab-4e19-9c3d-8e6b2f10a4d7", by decide, by decide, by decide⟩

def exampleStreamId : StreamId :=
  ⟨"0b9c41d2-7e5f-4a8c-b3d6-e0f1a2937485", by decide, by decide, by decide⟩

theorem streamCodec_example :
    ∃ packet, streamPacket "7d4c1f0e-52ab-4e19-9c3d-8e6b2f10a4d7"
        "0b9c41d2-7e5f-4a8c-b3d6-e0f1a2937485" [104, 105] = some packet ∧
      decodeStreamFrame packet = ("7d4c1f0e-52ab-4e19-9c3d-8e6b2f10a4d7",
        "0b9c41d2-7e5f-4a8c-b3d6-e0f1a2937485", [104, 105]) := by
  obtain ⟨packet, built, -, decoded, -⟩ :=
    streamCodec exampleServiceId exampleStreamId [104, 105]
  exact ⟨packet, built, decoded⟩

end LocalNetwork
