/-
This file proves which instances of the message classes of `common/messages.py` come back
from the wire.

A field that is `None` is left out and comes back as its default, which is `None` for every
field that may be. Sending the instance itself takes the type out of the payload, so it comes
back as the default of the class. Only `AuthResult` is mapped from a second type, and its
instances of that type come back with the first.
-/

import LocalNetwork.MessageTypes

namespace LocalNetwork

/-! ### The way of an instance -/

namespace MessageInstance

/-- Every field holds a value of its declared type. -/
def Typed (sent : MessageInstance) : Prop :=
  ∀ pair ∈ sent.cls.fields.zip sent.values, pair.1.admits pair.2 = true

/-- What `serialize` writes for the instance. -/
def direct (sent : MessageInstance) : BuiltMessage :=
  ⟨sent.type, sent.payloadFromDataclass.erase "type"⟩

/-- What `make_message` builds from the fields of the instance. -/
def built (sent : MessageInstance) : BuiltMessage := ⟨sent.type, sent.payloadFromDataclass⟩

variable {sent : MessageInstance}

theorem keys_asDict (sent : MessageInstance) : sent.asDict.keys = sent.cls.fieldNames := by
  rw [Dict.keys, asDict, List.map_cons,
    List.map_fst_zip (by rw [List.length_map, sent.complete])]
  rfl

theorem get?_asDict_type (sent : MessageInstance) : sent.asDict.get? "type" = some sent.type :=
  Dict.get?_eq_some_iff.mpr List.mem_cons_self

theorem get?_asDict_field {index : Nat} (inside : index < sent.cls.fields.length)
    (stored : index < sent.values.length) :
    sent.asDict.get? sent.cls.fields[index].name = some sent.values[index] := by
  refine Dict.get?_eq_some_iff.mpr (List.mem_cons_of_mem _ ?_)
  have bound : index <
      ((sent.cls.fields.map MessageField.name).zip sent.values).length := by
    rw [List.length_zip, List.length_map, sent.complete, Nat.min_self]
    exact inside
  have entry := List.getElem_mem bound
  rwa [List.getElem_zip, List.getElem_map] at entry

/-- The name of a field is not that of the type. -/
theorem name_ne_type (cls : MessageClass) {field : MessageField} (member : field ∈ cls.fields) :
    field.name ≠ "type" := by
  intro same
  exact (List.nodup_cons.mp cls.distinct).1 (same ▸ List.mem_map_of_mem member)

/-- A null that was left out comes back as the default. -/
theorem default_of_typed (typed : sent.Typed) {index : Nat}
    (inside : index < sent.cls.fields.length) (stored : index < sent.values.length)
    (null : sent.values[index] = .null) :
    sent.cls.fields[index].default = .null := by
  have bound : index < (sent.cls.fields.zip sent.values).length := by
    rw [List.length_zip, sent.complete, Nat.min_self]
    exact inside
  have admitted := typed _ (List.getElem_mem bound)
  rw [List.getElem_zip, null] at admitted
  exact MessageField.default_of_admits_null admitted

/-- Calling the class with the fields of an instance, with or without those that are null, gives the
instance but for the type. -/
theorem construct_eq (typed : sent.Typed) {kwargs : Dict String Json}
    (known : ∀ key ∈ kwargs.keys, key ∈ sent.cls.fieldNames)
    (same : ∀ field ∈ sent.cls.fields,
      kwargs.get? field.name = sent.payloadFromDataclass.get? field.name ∨
        kwargs.get? field.name = sent.asDict.get? field.name) :
    sent.cls.construct kwargs =
      some { sent with type := (kwargs.get? "type").getD (.str sent.cls.type) } := by
  have values : (sent.cls.fields.map fun field =>
      (kwargs.get? field.name).getD field.default) = sent.values := by
    refine List.ext_getElem (by rw [List.length_map, sent.complete]) fun index inside stored => ?_
    rw [List.length_map] at inside
    have field := get?_asDict_field inside stored
    rw [List.getElem_map]
    rcases same _ (List.getElem_mem inside) with payload | all
    · rw [payload, payloadFromDataclass, Dict.get?_filter, field]
      cases null : sent.values[index].isNull with
      | true =>
        have isNull := (Json.isNull_iff _).mp null
        rw [Option.filter_some_neg (by rw [null]; decide), Option.getD_none,
          default_of_typed typed inside stored isNull, isNull]
      | false => rw [Option.filter_some_pos (by rw [null]; rfl), Option.getD_some]
    · rw [all, field, Option.getD_some]
  have allKnown : kwargs.keys.all (fun key => decide (key ∈ sent.cls.fieldNames)) = true :=
    List.all_eq_true.mpr fun key member => decide_eq_true (known key member)
  rw [MessageClass.construct, if_pos allKnown]
  simp only [values]

/-- `make_message` builds a message of all fields that are not null. -/
theorem makeMessage_eq (typed : sent.Typed) :
    makeMessage sent.cls sent.asDict = some sent.built := by
  have hasType : sent.asDict.contains "type" = true :=
    Dict.contains_iff.mpr ⟨_, sent.get?_asDict_type⟩
  have constructed := construct_eq typed (fun key member => sent.keys_asDict ▸ member)
    fun field _ => .inr rfl
  rw [get?_asDict_type, Option.getD_some] at constructed
  simp only [makeMessage]
  rw [if_pos hasType, constructed]
  rfl

/-- A message with the fields of an instance is read as the instance but for the type, which is the
one of the payload or the default. -/
theorem messageToDataclass_eq (typed : sent.Typed) {type : String} {payload : Dict String Json}
    (mapped : messageTypes.get? type = some sent.cls)
    (same : ∀ field ∈ sent.cls.fields,
      payload.get? field.name = sent.payloadFromDataclass.get? field.name) :
    messageToDataclass ⟨type, payload⟩ messageTypes =
      some { sent with type := (payload.get? "type").getD (.str sent.cls.type) } := by
  have kept : ∀ name, name ∈ sent.cls.fieldNames →
      (payload.filter fun key _ => decide (key ∈ sent.cls.fieldNames)).get? name =
        payload.get? name := by
    intro name member
    rw [Dict.get?_filter]
    cases payload.get? name with
    | none => rfl
    | some value => exact Option.filter_some_pos (decide_eq_true member)
  have known : ∀ key ∈ (payload.filter fun key _ => decide (key ∈ sent.cls.fieldNames)).keys,
      key ∈ sent.cls.fieldNames := by
    intro key member
    obtain ⟨value, found⟩ := Dict.mem_keys_iff.mp member
    rw [Dict.get?_filter] at found
    exact of_decide_eq_true (Option.filter_eq_some_iff.mp found).2
  have constructed := construct_eq typed known fun field member => .inl <| by
    rw [kept _ (List.mem_cons_of_mem _ (List.mem_map_of_mem member))]
    exact same field member
  simp only [messageToDataclass, mapped]
  rw [constructed, kept "type" List.mem_cons_self]

/-! ### The round trip -/

/-- The instance comes back, whether it is sent itself or as a message made of its fields. -/
structure RoundTrips (json : JsonText) (sent : MessageInstance) : Prop where
  direct : ∃ bytes, serializeDataclass json sent = .ok bytes ∧
    readDataclass json bytes = some sent
  built : ∃ message bytes, makeMessage sent.cls sent.asDict = some message ∧
    serializeBuilt json message = .ok bytes ∧ readDataclass json bytes = some sent

/-- The body of a message has an encoding, and that is within the limit. -/
def Fits (json : JsonText) (message : BuiltMessage) : Prop :=
  ∃ data, utf8Encode (json.dumps message.body) = .ok data ∧ data.length ≤ maxMessageSize

instance (json : JsonText) (message : BuiltMessage) : Decidable (Fits json message) :=
  match encoded : utf8Encode (json.dumps message.body) with
  | .error _ => isFalse fun ⟨data, same, _⟩ => by rw [encoded] at same; cases same
  | .ok data => decidable_of_iff (data.length ≤ maxMessageSize)
      ⟨fun bounded => ⟨data, encoded, bounded⟩, fun ⟨other, same, bounded⟩ => by
        rw [encoded] at same
        exact Except.ok.inj same ▸ bounded⟩

/-- The JSON library reads back the body of a message. -/
def Inverts (json : JsonText) (message : BuiltMessage) : Prop :=
  json.loads (json.dumps message.body) = some message.body

theorem serializeBuilt_iff (json : JsonText) (message : BuiltMessage) :
    (∃ bytes, serializeBuilt json message = .ok bytes) ↔ Fits json message := by
  unfold serializeBuilt serializeBody Fits
  cases utf8Encode (json.dumps message.body) with
  | error failure => simp
  | ok data =>
    simp only [Except.ok.injEq, exists_eq_left']
    split
    · rename_i large
      exact iff_of_false (fun ⟨bytes, serialized⟩ => by cases serialized) (by omega)
    · rename_i bounded
      exact iff_of_true ⟨_, rfl⟩ (by omega)

/-- The instance itself is written without its type in the payload. -/
theorem serializeDataclass_iff (json : JsonText) {type : String} (isType : sent.type = .str type)
    (bytes : Bytes) :
    serializeDataclass json sent = .ok bytes ↔ serializeBuilt json sent.direct = .ok bytes := by
  have kept : sent.payloadFromDataclass.get? "type" = some sent.type := by
    rw [payloadFromDataclass, Dict.get?_filter, get?_asDict_type,
      Option.filter_some_pos (by rw [isType]; rfl)]
  simp only [serializeDataclass, kept, direct]
  cases serializeBuilt json ⟨sent.type, sent.payloadFromDataclass.erase "type"⟩ with
  | error failure => simp
  | ok written => simp

/-- What a built message is read as. -/
theorem readDataclass_eq {json : JsonText} {message : BuiltMessage} {bytes : Bytes} {type : String}
    (isType : message.type = .str type) (serialized : serializeBuilt json message = .ok bytes)
    (inverts : Inverts json message) :
    readDataclass json bytes = messageToDataclass ⟨type, message.payload⟩ messageTypes := by
  obtain ⟨_, payload⟩ := message
  obtain rfl : _ = Json.str type := isType
  have same : serialize json ⟨type, payload⟩ = .ok bytes := serialized
  rw [readDataclass, deserialize_serialize same inverts]

variable {json : JsonText} {type : String}

/-- Sent itself, an instance comes back with the default type of its class. -/
theorem readDataclass_direct (isType : sent.type = .str type)
    (mapped : messageTypes.get? type = some sent.cls) (typed : sent.Typed)
    (inverts : Inverts json sent.direct) {bytes : Bytes}
    (serialized : serializeBuilt json sent.direct = .ok bytes) :
    readDataclass json bytes = some { sent with type := .str sent.cls.type } := by
  rw [readDataclass_eq isType serialized inverts, messageToDataclass_eq typed mapped]
  · rw [direct, Dict.get?_erase_self, Option.getD_none]
  · intro field member
    exact Dict.get?_erase_of_ne _ (name_ne_type sent.cls member)

/-- Sent as a message made of its fields, an instance comes back. -/
theorem readDataclass_built (isType : sent.type = .str type)
    (mapped : messageTypes.get? type = some sent.cls) (typed : sent.Typed)
    (inverts : Inverts json sent.built) {bytes : Bytes}
    (serialized : serializeBuilt json sent.built = .ok bytes) :
    readDataclass json bytes = some sent := by
  have kept : sent.built.payload.get? "type" = some sent.type := by
    rw [built, payloadFromDataclass, Dict.get?_filter, get?_asDict_type,
      Option.filter_some_pos (by rw [isType]; rfl)]
  rw [readDataclass_eq isType serialized inverts, messageToDataclass_eq typed mapped]
  · rw [kept, Option.getD_some]
  · exact fun _ _ => rfl

/-- An instance of a mapped class comes back both ways exactly if it is not of the second type of its
class and both messages can be encoded and are within the limit. -/
theorem roundTrips_iff (isType : sent.type = .str type)
    (mapped : messageTypes.get? type = some sent.cls) (typed : sent.Typed)
    (invertsDirect : Inverts json sent.direct) (invertsBuilt : Inverts json sent.built) :
    RoundTrips json sent ↔
      type ≠ "AUTH_FAIL" ∧ Fits json sent.direct ∧ Fits json sent.built := by
  have isDefault := messageTypes_type _ (Dict.get?_eq_some_iff.mp mapped)
  constructor
  · intro trips
    obtain ⟨bytes, serialized, read⟩ := trips.direct
    rw [serializeDataclass_iff json isType] at serialized
    rw [readDataclass_direct isType mapped typed invertsDirect serialized] at read
    have sameType : Json.str sent.cls.type = sent.type :=
      congrArg MessageInstance.type (Option.some.inj read)
    rw [isType] at sameType
    obtain ⟨message, written, made, builtSerialized, -⟩ := trips.built
    rw [makeMessage_eq typed] at made
    obtain rfl := Option.some.inj made
    exact ⟨isDefault.mp (Json.str.inj sameType).symm, (serializeBuilt_iff json _).mp ⟨_, serialized⟩,
      (serializeBuilt_iff json _).mp ⟨_, builtSerialized⟩⟩
  · rintro ⟨first, directFits, builtFits⟩
    obtain ⟨bytes, serialized⟩ := (serializeBuilt_iff json _).mpr directFits
    obtain ⟨written, builtSerialized⟩ := (serializeBuilt_iff json _).mpr builtFits
    refine ⟨⟨bytes, (serializeDataclass_iff json isType bytes).mpr serialized, ?_⟩,
      ⟨sent.built, written, makeMessage_eq typed, builtSerialized,
        readDataclass_built isType mapped typed invertsBuilt builtSerialized⟩⟩
    rw [readDataclass_direct isType mapped typed invertsDirect serialized,
      ← isDefault.mpr first, ← isType]

/-- An `AuthResult` without a text and an address. -/
def resultOf (type : String) (ok : Bool) : MessageInstance where
  cls := MessageClass.authResult
  type := .str type
  values := [.bool ok, .str "", .null]
  complete := rfl

/-- The JSON text of the body of such a result. -/
def resultText : Json → String
  | .obj [("type", .str type), ("payload", .obj [("ok", .bool ok), ("message", .str _)])] =>
    "\x7b\"type\":\"" ++ type ++ "\",\"payload\":\x7b\"ok\":" ++ toString ok ++
      ",\"message\":\"\"\x7d\x7d"
  | .obj [("type", .str type), ("payload", .obj [("type", .str again), ("ok", .bool ok),
      ("message", .str _)])] =>
    "\x7b\"type\":\"" ++ type ++ "\",\"payload\":\x7b\"type\":\"" ++ again ++ "\",\"ok\":" ++
      toString ok ++ ",\"message\":\"\"\x7d\x7d"
  | _ => ""

/-- The JSON library on the results of both types. -/
def resultJson : JsonText where
  dumps body := pyStr (resultText body)
  loads text :=
    [(resultOf "AUTH_OK" true).direct, (resultOf "AUTH_OK" true).built,
      (resultOf "AUTH_FAIL" false).direct, (resultOf "AUTH_FAIL" false).built].map
        BuiltMessage.body |>.find? fun body => decide (pyStr (resultText body) = text)

theorem resultOf_typed (type : String) (ok : Bool) : (resultOf type ok).Typed := by
  intro pair member
  simp only [resultOf, MessageClass.authResult, List.zip_cons_cons, List.zip_nil_right,
    List.mem_cons, List.not_mem_nil, or_false] at member
  rcases member with rfl | rfl | rfl
  · rfl
  · rfl
  · rfl

theorem resultJson_inverts :
    (Inverts resultJson (resultOf "AUTH_OK" true).direct ∧
      Inverts resultJson (resultOf "AUTH_OK" true).built) ∧
      Inverts resultJson (resultOf "AUTH_FAIL" false).direct ∧
      Inverts resultJson (resultOf "AUTH_FAIL" false).built :=
  ⟨⟨rfl, rfl⟩, rfl, rfl⟩

theorem roundTrips_iff_ok : RoundTrips resultJson (resultOf "AUTH_OK" true) :=
  (roundTrips_iff rfl rfl (resultOf_typed "AUTH_OK" true) resultJson_inverts.1.1
    resultJson_inverts.1.2).mpr ⟨by decide, by decide +kernel, by decide +kernel⟩

/-- A failed authentication that is sent as an instance is read as one that has gone well. -/
theorem roundTrips_counterexample :
    messageTypes.get? "AUTH_FAIL" = some (resultOf "AUTH_FAIL" false).cls ∧
      (resultOf "AUTH_FAIL" false).Typed ∧
      Inverts resultJson (resultOf "AUTH_FAIL" false).direct ∧
      Inverts resultJson (resultOf "AUTH_FAIL" false).built ∧
      (∃ bytes, serializeDataclass resultJson (resultOf "AUTH_FAIL" false) = .ok bytes ∧
        readDataclass resultJson bytes = some (resultOf "AUTH_OK" false)) ∧
      ¬ RoundTrips resultJson (resultOf "AUTH_FAIL" false) := by
  have typed := resultOf_typed "AUTH_FAIL" false
  have inverts := resultJson_inverts.2
  have read : ∀ bytes, serializeDataclass resultJson (resultOf "AUTH_FAIL" false) = .ok bytes →
      readDataclass resultJson bytes = some (resultOf "AUTH_OK" false) := by
    intro bytes serialized
    rw [serializeDataclass_iff resultJson rfl] at serialized
    exact readDataclass_direct rfl rfl typed inverts.1 serialized
  refine ⟨rfl, typed, inverts.1, inverts.2, ?_, fun trips => ?_⟩
  · obtain ⟨bytes, serialized⟩ := (serializeBuilt_iff resultJson
      (resultOf "AUTH_FAIL" false).direct).mpr (by decide +kernel)
    have sent := (serializeDataclass_iff resultJson rfl bytes).mpr serialized
    exact ⟨bytes, sent, read bytes sent⟩
  · obtain ⟨bytes, serialized, same⟩ := trips.direct
    rw [read bytes serialized] at same
    have types := congrArg MessageInstance.type (Option.some.inj same)
    exact absurd (Json.str.inj types) (by decide)

end MessageInstance

end LocalNetwork
