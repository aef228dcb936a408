/-
This file models the wire format of `common/messages.py`, a length in four bytes and a JSON
body in UTF-8, with its incremental parser and the two readers that take a message off a
connection, in `server/main.py` and `client/control_channel.py`.

JSON is a parameter: the round trip assumes that `json.loads` gives back what `json.dumps`
wrote for the bodies at hand. What `dumps` writes is a text of Python, a list of code points,
lone surrogates among them; it has an encoding in UTF-8 unless there is one. A string in a
JSON value here stands for a text of Python, and `dumps` says for which.

The round trip instantiates the library of incremental decoders: a serialized message is
taken off whatever follows it, and the parser waits on every proper beginning of one.
-/

import LocalNetwork.Incremental
import LocalNetwork.Protocol

namespace LocalNetwork

/-! ### Texts of Python -/

/-- A code point; the surrogates from U+D800 to U+DFFF are code points, but no characters. -/
abbrev CodePoint := Fin 0x110000

abbrev PyStr := List CodePoint

/-- A text without surrogates. -/
def pyStr (text : String) : PyStr := text.toList.map fun char => Fin.ofNat 0x110000 char.toNat

def CodePoint.isSurrogate (point : CodePoint) : Bool :=
  decide (0xD800 ≤ point.val ∧ point.val ≤ 0xDFFF)

/-- The text of the `UnicodeEncodeError` for the surrogates from an index on. -/
def surrogatesNotAllowed (text : PyStr) (start : Nat) : String :=
  let surrogates := (text.drop start).takeWhile CodePoint.isSurrogate
  let last := start + surrogates.length - 1
  match surrogates with
  | [point] =>
    "'utf-8' codec can't encode character '\\u" ++ String.ofList (Nat.toDigits 16 point.val) ++
      s!"' in position {start}: surrogates not allowed"
  | _ =>
    s!"'utf-8' codec can't encode characters in position {start}-{last}: surrogates not allowed"

/-! ### The wire format -/

/-- The JSON library: `dumps` with the separators and options of `serialize`, and `loads`. -/
structure JsonText where
  dumps : Json → PyStr
  loads : PyStr → Option Json

def maxMessageSize : Nat := 1024 * 1024

/-- The size of the length at the start of a message. -/
def lengthPrefixSize : Nat := 4

/-- The exceptions of `serialize`. -/
inductive SerializeError where
  | unicodeEncodeError (text : String)
  | messageTooLarge (text : String)
  deriving DecidableEq

/-- `str` of an exception of `serialize`. -/
def SerializeError.text : SerializeError → String
  | .unicodeEncodeError text => text
  | .messageTooLarge text => text

/-- `encode("utf-8")`. -/
def utf8Encode (text : PyStr) : Except SerializeError Bytes :=
  match text.findIdx? CodePoint.isSurrogate with
  | some start => .error (.unicodeEncodeError (surrogatesNotAllowed text start))
  | none =>
    .ok (String.ofList (text.map fun point => Char.ofNat point.val)).toUTF8.data.toList

/-- `decode("utf-8")`. -/
def utf8Decode (data : Bytes) : Option PyStr := (String.fromUTF8? ⟨data.toArray⟩).map pyStr

/-- The exceptions of `deserialize`. -/
inductive MessageError where
  | messageTooLarge (text : String)
  | valueError (text : String)
  | unicodeDecodeError
  | jsonDecodeError
  | attributeError (text : String)
  deriving DecidableEq

/-- The name of the Python type of a value. -/
def Json.typeName : Json → String
  | .null => "NoneType"
  | .bool _ => "bool"
  | .int _ => "int"
  | .float _ => "float"
  | .str _ => "str"
  | .arr _ => "list"
  | .obj _ => "dict"

/-- The body that stands for a message on the wire. -/
def Message.body (message : Message) : Json :=
  .obj [("type", .str message.type), ("payload", .obj message.payload.entries)]

/-- The message a decoded body stands for; a payload that is no object counts as empty. -/
def messageOf : Json → Except MessageError Message
  | .obj entries =>
    let body := Dict.ofEntries entries
    match body.get? "type" with
    | some (.str type) =>
      match body.get? "payload" with
      | some (.obj payload) => .ok ⟨type, Dict.ofEntries payload⟩
      | _ => .ok ⟨type, Dict.empty⟩
    | _ => .error (.valueError "message missing a valid 'type' field")
  | body => .error (.attributeError s!"'{body.typeName}' object has no attribute 'get'")

section Codec

variable (json : JsonText)

/-- The end of `serialize`, on the body of any message. -/
def serializeBody (body : Json) : Except SerializeError Bytes :=
  match utf8Encode (json.dumps body) with
  | .error failure => .error failure
  | .ok data =>
    if maxMessageSize < data.length then
      .error (.messageTooLarge s!"message payload of {data.length} bytes exceeds MAX_MESSAGE_SIZE")
    else .ok (toBigEndian lengthPrefixSize data.length ++ data)

def serialize (message : Message) : Except SerializeError Bytes := serializeBody json message.body

def deserialize (data : Bytes) : Except MessageError Message :=
  if data.length < lengthPrefixSize then
    .error (.valueError "message too short to contain a length prefix")
  else
    let length := ofBigEndian (data.take lengthPrefixSize)
    if maxMessageSize < length then
      .error (.messageTooLarge s!"declared message length {length} exceeds MAX_MESSAGE_SIZE")
    else if data.length < lengthPrefixSize + length then
      let received := data.length - lengthPrefixSize
      .error (.valueError s!"incomplete message: declared {length} bytes, got {received}")
    else
      match utf8Decode (slice data lengthPrefixSize (lengthPrefixSize + length)) with
      | none => .error .unicodeDecodeError
      | some text =>
        match json.loads text with
        | none => .error .jsonDecodeError
        | some body => messageOf body

/-- One message off a buffer, and what is left; without a whole message the buffer is left. -/
def parseStream (data : Bytes) : Except MessageError (Option Message × Bytes) :=
  if data.length < lengthPrefixSize then .ok (none, data)
  else
    let length := ofBigEndian (data.take lengthPrefixSize)
    if maxMessageSize < length then
      .error (.messageTooLarge s!"declared message length {length} too large")
    else
      let total := lengthPrefixSize + length
      if data.length < total then .ok (none, data)
      else
        match deserialize json (data.take total) with
        | .error failure => .error failure
        | .ok message => .ok (some message, data.drop total)

/-! ### The readers -/

/-- What a reader of a connection ends with instead of a message. -/
inductive ReadFailure where
  | incompleteRead
  | oversized
  | controlChannelError (text : String)
  | message (failure : MessageError)
  deriving DecidableEq

/-- Read four bytes and then as many as they say, as `readexactly` does; the readers differ in
what they do with an oversized message. -/
def readFramed (oversized : Nat → ReadFailure) (stream : Bytes) :
    Except ReadFailure (Message × Bytes) :=
  if stream.length < lengthPrefixSize then .error .incompleteRead
  else
    let data := stream.take lengthPrefixSize
    let length := ofBigEndian data
    if maxMessageSize < length then .error (oversized length)
    else if stream.length < lengthPrefixSize + length then .error .incompleteRead
    else
      let body := slice stream lengthPrefixSize (lengthPrefixSize + length)
      match deserialize json (data ++ body) with
      | .error failure => .error (.message failure)
      | .ok message => .ok (message, stream.drop (lengthPrefixSize + length))

/-- The reader of `handle_client`, which leaves its loop at an oversized message. -/
def readClient : Bytes → Except ReadFailure (Message × Bytes) :=
  readFramed json fun _ => .oversized

/-- The reader of the control channel. -/
def recvMessage : Bytes → Except ReadFailure (Message × Bytes) :=
  readFramed json fun length =>
    .controlChannelError s!"server sent oversized message ({length} bytes)"

end Codec

/-! ### One message -/

/-- A code point that is no surrogate is a character. -/
theorem toNat_ofNat {point : CodePoint} (character : point.isSurrogate = false) :
    (Char.ofNat point.val).toNat = point.val := by
  have outside : ¬ (0xD800 ≤ point.val ∧ point.val ≤ 0xDFFF) := of_decide_eq_false character
  have valid : point.val.isValidChar := by
    have bound := point.isLt
    simp only [Nat.isValidChar]
    omega
  rw [Char.ofNat, dif_pos valid]
  rfl

theorem utf8Decode_utf8Encode {text : PyStr} {data : Bytes} (encoded : utf8Encode text = .ok data) :
    utf8Decode data = some text := by
  unfold utf8Encode at encoded
  split at encoded
  · cases encoded
  · rename_i characters
    obtain rfl := Except.ok.inj encoded
    have none : ∀ point ∈ text, point.isSurrogate = false := List.findIdx?_eq_none_iff.mp characters
    generalize chars : String.ofList (text.map fun point => Char.ofNat point.val) = string
    have same : (⟨string.toUTF8.data.toList.toArray⟩ : ByteArray) = string.toUTF8 := rfl
    have valid : string.toUTF8.IsValidUTF8 := string.isValidUTF8
    have decoded : String.fromUTF8? string.toUTF8 = some string := by
      rw [String.fromUTF8?, dif_pos valid]
      rfl
    rw [utf8Decode, same, decoded, Option.map_some, pyStr, ← chars, String.toList_ofList,
      List.map_map]
    refine congrArg some ((List.map_congr_left fun point member => ?_).trans (List.map_id text))
    refine Fin.ext ?_
    show (Char.ofNat point.val).toNat % 0x110000 = point.val
    rw [toNat_ofNat (none point member), Nat.mod_eq_of_lt point.isLt]

example : utf8Encode [0x61, 0xD800] = .error (.unicodeEncodeError
    "'utf-8' codec can't encode character '\\ud800' in position 1: surrogates not allowed") := rfl

theorem messageOf_body (message : Message) : messageOf message.body = .ok message := by
  have type : (Dict.ofEntries [("type", Json.str message.type),
      ("payload", .obj message.payload.entries)]).get? "type" = some (.str message.type) := rfl
  have payload : (Dict.ofEntries [("type", Json.str message.type),
      ("payload", .obj message.payload.entries)]).get? "payload" =
        some (.obj message.payload.entries) := rfl
  simp only [messageOf, Message.body, type, payload, Dict.ofEntries_entries]

section RoundTrip

variable {json : JsonText} {message : Message} {bytes : Bytes}

/-- A serialized message is a bounded body after its length. -/
theorem serialize_ok (serialized : serialize json message = .ok bytes) :
    ∃ data, utf8Encode (json.dumps message.body) = .ok data ∧ data.length ≤ maxMessageSize ∧
      bytes = toBigEndian lengthPrefixSize data.length ++ data := by
  unfold serialize serializeBody at serialized
  split at serialized
  · cases serialized
  · rename_i data encoded
    split at serialized
    · cases serialized
    · rename_i bounded
      exact ⟨data, encoded, Nat.le_of_not_lt bounded, (Except.ok.inj serialized).symm⟩

/-- The length read off a bounded body that follows its length. -/
theorem ofBigEndian_take (data rest : Bytes) (bounded : data.length ≤ maxMessageSize) :
    ofBigEndian ((toBigEndian lengthPrefixSize data.length ++ rest).take lengthPrefixSize) =
      data.length := by
  have small : data.length < 256 ^ lengthPrefixSize :=
    Nat.lt_of_le_of_lt bounded (by decide)
  rw [List.take_left' (toBigEndian_length _ _), ofBigEndian_toBigEndian_of_lt _ _ small]

/-- The length read off a serialized message, whatever follows it, is that of its body. -/
theorem ofBigEndian_serialize (serialized : serialize json message = .ok bytes) (rest : Bytes) :
    ofBigEndian ((bytes ++ rest).take lengthPrefixSize) ≤ maxMessageSize ∧
      bytes.length =
        lengthPrefixSize + ofBigEndian ((bytes ++ rest).take lengthPrefixSize) := by
  obtain ⟨data, -, bounded, rfl⟩ := serialize_ok serialized
  rw [List.append_assoc, ofBigEndian_take _ _ bounded, List.length_append, toBigEndian_length]
  exact ⟨bounded, rfl⟩

theorem deserialize_serialize (serialized : serialize json message = .ok bytes)
    (inverts : json.loads (json.dumps message.body) = some message.body) :
    deserialize json bytes = .ok message := by
  obtain ⟨data, encoded, bounded, rfl⟩ := serialize_ok serialized
  have length := ofBigEndian_take _ data bounded
  have body := slice_append_middle (toBigEndian lengthPrefixSize data.length) data []
    lengthPrefixSize (lengthPrefixSize + data.length) (toBigEndian_length _ _).symm
    (by rw [toBigEndian_length])
  rw [List.append_nil] at body
  simp only [deserialize, length, List.length_append, toBigEndian_length, body,
    utf8Decode_utf8Encode encoded, inverts, messageOf_body]
  rw [if_neg (by omega), if_neg (Nat.not_lt.mpr bounded), if_neg (by omega)]

/-- The parser takes a serialized message off whatever follows it. -/
theorem parseStream_serialize (serialized : serialize json message = .ok bytes)
    (inverts : json.loads (json.dumps message.body) = some message.body) (rest : Bytes) :
    parseStream json (bytes ++ rest) = .ok (some message, rest) := by
  have whole := deserialize_serialize serialized inverts
  obtain ⟨bounded, total⟩ := ofBigEndian_serialize serialized rest
  simp only [parseStream]
  generalize ofBigEndian ((bytes ++ rest).take lengthPrefixSize) = length at bounded total ⊢
  rw [List.length_append, if_neg (by omega), if_neg (Nat.not_lt.mpr bounded), if_neg (by omega),
    ← total, List.take_left, List.drop_left, whole]

/-- The parser waits on every proper beginning of a serialized message. -/
theorem parseStream_waits (serialized : serialize json message = .ok bytes) {part : Bytes}
    (begins : part <+: bytes) (proper : part ≠ bytes) :
    parseStream json part = .ok (none, part) := by
  have shorter : part.length < bytes.length :=
    Nat.lt_of_le_of_ne begins.length_le fun equal => proper (begins.eq_of_length equal)
  by_cases short : part.length < lengthPrefixSize
  · rw [parseStream, if_pos short]
  · obtain ⟨rest, split⟩ := begins
    obtain ⟨bounded, total⟩ := ofBigEndian_serialize serialized []
    have front : (bytes ++ []).take lengthPrefixSize = part.take lengthPrefixSize := by
      rw [List.append_nil, ← split, List.take_append_of_le_length (Nat.le_of_not_lt short)]
    rw [front] at bounded total
    simp only [parseStream]
    rw [if_neg short, if_neg (Nat.not_lt.mpr bounded), if_pos (by omega)]

/-- A reader takes a serialized message off whatever follows it. -/
theorem readFramed_serialize (oversized : Nat → ReadFailure)
    (serialized : serialize json message = .ok bytes)
    (inverts : json.loads (json.dumps message.body) = some message.body) (rest : Bytes) :
    readFramed json oversized (bytes ++ rest) = .ok (message, rest) := by
  have whole := deserialize_serialize serialized inverts
  obtain ⟨bounded, total⟩ := ofBigEndian_serialize serialized rest
  have parts : (bytes ++ rest).take lengthPrefixSize ++ slice (bytes ++ rest) lengthPrefixSize
      (lengthPrefixSize + ofBigEndian ((bytes ++ rest).take lengthPrefixSize)) = bytes := by
    rw [slice, Nat.add_sub_cancel_left, ← List.take_add, ← total, List.take_left]
  simp only [readFramed, List.length_append, parts, whole]
  generalize ofBigEndian ((bytes ++ rest).take lengthPrefixSize) = length at bounded total ⊢
  rw [if_neg (by omega), if_neg (Nat.not_lt.mpr bounded), if_neg (by omega), ← total,
    List.drop_left]

end RoundTrip

/-! ### The stream -/

/-- The bytes of a message, where it can be serialized. -/
def wireBytes (json : JsonText) (message : Message) : Bytes :=
  (serialize json message).toOption.getD []

theorem mapM_serialize {json : JsonText} {messages : List Message} {encodings : List Bytes}
    (serialized : messages.mapM (serialize json) = .ok encodings) :
    encodings.flatten = messages.flatMap (wireBytes json) ∧
      ∀ message ∈ messages, serialize json message = .ok (wireBytes json message) := by
  induction messages generalizing encodings with
  | nil =>
    obtain rfl := Except.ok.inj serialized
    exact ⟨rfl, fun message member => absurd member List.not_mem_nil⟩
  | cons message rest inductionHypothesis =>
    rw [List.mapM_cons] at serialized
    cases first : serialize json message with
    | error failure =>
      rw [first] at serialized
      cases serialized
    | ok bytes =>
      cases later : rest.mapM (serialize json) with
      | error failure =>
        rw [first, later] at serialized
        cases serialized
      | ok others =>
        rw [first, later] at serialized
        obtain rfl := Except.ok.inj serialized
        obtain ⟨joined, each⟩ := inductionHypothesis later
        have here : wireBytes json message = bytes := by
          rw [wireBytes, first]
          rfl
        refine ⟨by rw [List.flatten_cons, joined, List.flatMap_cons, here], ?_⟩
        intro other member
        rcases List.mem_cons.mp member with rfl | member
        · rw [first, here]
        · exact each other member

/-- Messages that can be serialized come back from the concatenation of their serializations,
whatever the pieces, and leave an empty buffer; and each of them passes the size checks of
`deserialize` and of both readers, which return it. -/
theorem control_stream_round_trip (json : JsonText) (messages : List Message)
    (encodings pieces : List Bytes)
    (serialized : messages.mapM (serialize json) = .ok encodings)
    (inverts : ∀ message ∈ messages,
      json.loads (json.dumps message.body) = some message.body)
    (cut : pieces.flatten = encodings.flatten) :
    feedChunks (parseStream json) [] pieces = some (messages, .ok []) ∧
      ∀ message ∈ messages, ∀ bytes, serialize json message = .ok bytes →
        deserialize json bytes = .ok message ∧
        ∀ rest, readClient json (bytes ++ rest) = .ok (message, rest) ∧
          recvMessage json (bytes ++ rest) = .ok (message, rest) := by
  obtain ⟨joined, each⟩ := mapM_serialize serialized
  refine ⟨?_, fun message member bytes made => ⟨?_, fun rest => ⟨?_, ?_⟩⟩⟩
  · refine feedChunks_decodes (fun message member empty => ?_) (cut.trans joined) ?_
    · obtain ⟨-, total⟩ := ofBigEndian_serialize (each message member) []
      rw [empty, List.length_nil, lengthPrefixSize] at total
      omega
    · intro before chunk after past done todo buffer left _ parts _ _ _ remains
      constructor
      · intro earlier message later split
        have member : message ∈ messages := by rw [parts, split]; simp
        exact parseStream_serialize (each message member) (inverts message member) _
      · cases todo with
        | nil =>
          rw [Remains] at remains
          rw [remains]
          rfl
        | cons message others =>
          have member : message ∈ messages := by rw [parts]; simp
          exact parseStream_waits (each message member) remains.1 remains.2
  · exact deserialize_serialize made (inverts message member)
  · exact readFramed_serialize _ made (inverts message member) rest
  · exact readFramed_serialize _ made (inverts message member) rest

/-- The JSON library on messages with at most one text field, none of which needs an escape. -/
def plainJson : JsonText where
  dumps body := pyStr <| match body with
    | .obj [("type", .str type), ("payload", .obj [])] =>
      "\x7b\"type\":\"" ++ type ++ "\",\"payload\":\x7b\x7d\x7d"
    | .obj [("type", .str type), ("payload", .obj [(key, .str value)])] =>
      "\x7b\"type\":\"" ++ type ++ "\",\"payload\":\x7b\"" ++ key ++ "\":\"" ++ value ++ "\"\x7d\x7d"
    | _ => ""
  loads text :=
    if text = pyStr "\x7b\"type\":\"LIST_NETWORKS\",\"payload\":\x7b\x7d\x7d" then
      some (.obj [("type", .str "LIST_NETWORKS"), ("payload", .obj [])])
    else if text =
        pyStr "\x7b\"type\":\"NETWORK_CREATED\",\"payload\":\x7b\"name\":\"café\"\x7d\x7d" then
      some (.obj [("type", .str "NETWORK_CREATED"), ("payload", .obj [("name", .str "café")])])
    else none

def plainMessages : List Message :=
  [⟨"LIST_NETWORKS", Dict.empty⟩, ⟨"NETWORK_CREATED", Dict.ofEntries [("name", .str "café")]⟩]

/-- Two messages, cut inside the first length and inside the two bytes of a letter. -/
theorem control_stream_round_trip_cut :
    ∃ encodings, plainMessages.mapM (serialize plainJson) = .ok encodings ∧
      feedChunks (parseStream plainJson) []
        [encodings.flatten.take 2, slice encodings.flatten 2 94, encodings.flatten.drop 94] =
          some (plainMessages, .ok []) := by
  have made : plainMessages.mapM (serialize plainJson) =
      .ok (plainMessages.map (wireBytes plainJson)) := rfl
  refine ⟨_, made, (control_stream_round_trip plainJson plainMessages _ _ made ?_ ?_).1⟩
  · intro message member
    rcases List.mem_cons.mp member with rfl | member
    · rfl
    · obtain rfl := List.mem_singleton.mp member
      rfl
  · decide +kernel

end LocalNetwork
