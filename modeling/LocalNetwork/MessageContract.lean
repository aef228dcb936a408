/-
This file proves which exceptions leave `deserialize` and `parse_stream` of
`common/messages.py`, for every byte string and every JSON library.

The length, the encoding, the text and the type field are all checked, and each check
raises a `ValueError`. That the body is an object is taken for granted: any other value has
no `get`, and the exception of that is of another class.
-/

import LocalNetwork.Messages

namespace LocalNetwork

/-- The exceptions of the class `ValueError` and its subclasses. -/
def MessageError.IsValueError : MessageError → Prop
  | .messageTooLarge _ => True
  | .valueError _ => True
  | .unicodeDecodeError => True
  | .jsonDecodeError => True
  | .attributeError _ => False

/-- The computation returns, or raises a `ValueError`. What it returns has a text as its type and
a dictionary as its payload by its own type. -/
def RaisesOnlyValueErrors {Result : Type} (outcome : Except MessageError Result) : Prop :=
  ∀ failure, outcome = .error failure → failure.IsValueError

/-- The contract of both ways to decode a message. -/
structure ErrorContract (json : JsonText) (data : Bytes) : Prop where
  deserializes : RaisesOnlyValueErrors (deserialize json data)
  parses : RaisesOnlyValueErrors (parseStream json data)

/-- The data begin with a whole, bounded body that decodes to the value. -/
def DecodesTo (json : JsonText) (data : Bytes) (body : Json) : Prop :=
  lengthPrefixSize ≤ data.length ∧
    ofBigEndian (data.take lengthPrefixSize) ≤ maxMessageSize ∧
    lengthPrefixSize + ofBigEndian (data.take lengthPrefixSize) ≤ data.length ∧
    (utf8Decode (slice data lengthPrefixSize
      (lengthPrefixSize + ofBigEndian (data.take lengthPrefixSize)))).bind json.loads = some body

/-- What the data decode to, if anything, is an object. -/
def BodyIsObject (json : JsonText) (data : Bytes) : Prop :=
  ∀ body, DecodesTo json data body → ∃ entries, body = .obj entries

theorem raisesOnlyValueErrors_error {Result : Type} (failure : MessageError) :
    RaisesOnlyValueErrors (.error failure : Except MessageError Result) ↔ failure.IsValueError := by
  simp only [RaisesOnlyValueErrors, Except.error.injEq, forall_eq']

theorem raisesOnlyValueErrors_ok {Result : Type} (result : Result) :
    RaisesOnlyValueErrors (.ok result) := by
  intro failure raised
  cases raised

/-- A value becomes a message, or is refused with a `ValueError`, exactly if it is an object. -/
theorem messageOf_raisesOnlyValueErrors_iff (body : Json) :
    RaisesOnlyValueErrors (messageOf body) ↔ ∃ entries, body = .obj entries := by
  cases body with
  | obj entries =>
    refine iff_of_true ?_ ⟨entries, rfl⟩
    simp only [messageOf]
    split
    · split
      · exact raisesOnlyValueErrors_ok _
      · exact raisesOnlyValueErrors_ok _
    · exact (raisesOnlyValueErrors_error _).mpr trivial
  | null | bool | int | float | str | arr =>
    refine iff_of_false (fun contract => contract _ rfl) ?_
    rintro ⟨entries, same⟩
    cases same

/-- Decoding keeps the contract exactly if the body is an object. -/
theorem deserialize_raisesOnlyValueErrors_iff (json : JsonText) (data : Bytes) :
    RaisesOnlyValueErrors (deserialize json data) ↔ BodyIsObject json data := by
  unfold deserialize
  split
  · rename_i short
    exact iff_of_true ((raisesOnlyValueErrors_error _).mpr trivial)
      fun body decodes => absurd decodes.1 (by omega)
  · rename_i long
    simp only
    split
    · rename_i large
      exact iff_of_true ((raisesOnlyValueErrors_error _).mpr trivial)
        fun body decodes => absurd decodes.2.1 (by omega)
    · rename_i bounded
      split
      · rename_i incomplete
        exact iff_of_true ((raisesOnlyValueErrors_error _).mpr trivial)
          fun body decodes => absurd decodes.2.2.1 (by omega)
      · rename_i complete
        have decodesTo : ∀ body, DecodesTo json data body ↔
            (utf8Decode (slice data lengthPrefixSize
              (lengthPrefixSize + ofBigEndian (data.take lengthPrefixSize)))).bind json.loads =
              some body := by
          intro body
          exact ⟨fun decodes => decodes.2.2.2,
            fun value => ⟨by omega, by omega, by omega, value⟩⟩
        simp only [BodyIsObject, decodesTo]
        split
        · rename_i undecodable
          rw [undecodable]
          exact iff_of_true ((raisesOnlyValueErrors_error _).mpr trivial)
            fun body decodes => by cases decodes
        · rename_i text decoded
          rw [decoded, Option.bind_some]
          split
          · rename_i unparsed
            rw [unparsed]
            exact iff_of_true ((raisesOnlyValueErrors_error _).mpr trivial)
              fun body decodes => by cases decodes
          · rename_i body parsed
            rw [parsed, messageOf_raisesOnlyValueErrors_iff]
            simp only [Option.some.injEq, forall_eq']

/-- What stands behind a whole message does not change what the message decodes to. -/
theorem bodyIsObject_take (json : JsonText) (data : Bytes)
    (complete : lengthPrefixSize + ofBigEndian (data.take lengthPrefixSize) ≤ data.length) :
    BodyIsObject json (data.take (lengthPrefixSize + ofBigEndian (data.take lengthPrefixSize))) ↔
      BodyIsObject json data := by
  generalize total : lengthPrefixSize + ofBigEndian (data.take lengthPrefixSize) = whole at *
  have front : (data.take whole).take lengthPrefixSize = data.take lengthPrefixSize := by
    rw [List.take_take, Nat.min_eq_left (by omega)]
  have length : (data.take whole).length = whole := List.length_take_of_le complete
  have body : slice (data.take whole) lengthPrefixSize whole =
      slice data lengthPrefixSize whole := by
    rw [← slice_append_left (data.take whole) (data.drop whole) _ _ (by omega),
      List.take_append_drop]
  have same : ∀ value, DecodesTo json (data.take whole) value ↔ DecodesTo json data value := by
    intro value
    simp only [DecodesTo, front, total, length, body]
    refine ⟨?_, ?_⟩
    · rintro ⟨_, bounded, _, decodes⟩
      exact ⟨by omega, bounded, complete, decodes⟩
    · rintro ⟨_, bounded, _, decodes⟩
      exact ⟨by omega, bounded, le_refl _, decodes⟩
  simp only [BodyIsObject, same]

/-- Parsing a buffer keeps the contract exactly if the body is an object. -/
theorem parseStream_raisesOnlyValueErrors_iff (json : JsonText) (data : Bytes) :
    RaisesOnlyValueErrors (parseStream json data) ↔ BodyIsObject json data := by
  unfold parseStream
  split
  · rename_i short
    exact iff_of_true (raisesOnlyValueErrors_ok _)
      fun body decodes => absurd decodes.1 (by omega)
  · simp only
    split
    · rename_i large
      exact iff_of_true ((raisesOnlyValueErrors_error _).mpr trivial)
        fun body decodes => absurd decodes.2.1 (by omega)
    · split
      · rename_i incomplete
        exact iff_of_true (raisesOnlyValueErrors_ok _)
          fun body decodes => absurd decodes.2.2.1 (by omega)
      · rename_i complete
        have decoding := deserialize_raisesOnlyValueErrors_iff json
          (data.take (lengthPrefixSize + ofBigEndian (data.take lengthPrefixSize)))
        rw [bodyIsObject_take json data (by omega)] at decoding
        rw [← decoding]
        split
        · rename_i failure raised
          rw [raised, raisesOnlyValueErrors_error, raisesOnlyValueErrors_error]
        · rename_i message decoded
          rw [decoded]
          exact iff_of_true (raisesOnlyValueErrors_ok _) (raisesOnlyValueErrors_ok _)

/-- The contract is kept on exactly the data whose body, if they have one, is an object. -/
theorem errorContract_iff (json : JsonText) (data : Bytes) :
    ErrorContract json data ↔ BodyIsObject json data := by
  constructor
  · intro contract
    exact (deserialize_raisesOnlyValueErrors_iff json data).mp contract.deserializes
  · intro isObject
    exact ⟨(deserialize_raisesOnlyValueErrors_iff json data).mpr isObject,
      (parseStream_raisesOnlyValueErrors_iff json data).mpr isObject⟩

/-- A JSON library that knows the text of the empty list. -/
def emptyListJson : JsonText where
  dumps _ := pyStr "[]"
  loads text := if text = pyStr "[]" then some (.arr []) else none

/-- The body is an empty list, after its length. -/
def emptyListMessage : Bytes := toBigEndian 4 2 ++ [91, 93]

theorem emptyListMessage_counterexample :
    ¬ ErrorContract emptyListJson emptyListMessage ∧
      deserialize emptyListJson emptyListMessage =
        .error (.attributeError "'list' object has no attribute 'get'") ∧
      parseStream emptyListJson emptyListMessage =
        .error (.attributeError "'list' object has no attribute 'get'") := by
  have decoded : utf8Decode [91, 93] = some (pyStr "[]") :=
    @utf8Decode_utf8Encode (pyStr "[]") _ rfl
  have raised : deserialize emptyListJson emptyListMessage =
      .error (.attributeError "'list' object has no attribute 'get'") := by
    have body : slice emptyListMessage lengthPrefixSize (lengthPrefixSize + 2) = [91, 93] := by
      decide +kernel
    have declared : ofBigEndian (emptyListMessage.take lengthPrefixSize) = 2 := by decide +kernel
    rw [deserialize, if_neg (by decide +kernel)]
    simp only [declared]
    rw [if_neg (by decide), if_neg (by decide +kernel), body, decoded]
    rfl
  have parsed : parseStream emptyListJson emptyListMessage =
      .error (.attributeError "'list' object has no attribute 'get'") := by
    have declared : ofBigEndian (emptyListMessage.take lengthPrefixSize) = 2 := by decide +kernel
    have whole : emptyListMessage.take (lengthPrefixSize + 2) = emptyListMessage := by
      decide +kernel
    rw [parseStream, if_neg (by decide +kernel)]
    simp only [declared]
    rw [if_neg (by decide), if_neg (by decide +kernel), whole, raised]
  exact ⟨fun contract => contract.deserializes _ raised, raised, parsed⟩

end LocalNetwork
