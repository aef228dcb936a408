/-
This file is a library that reads HTTP/1.1 messages by their own headers, as the party that
receives them does. The head is read line by line up to an empty line, and its headers say
how far the body goes: a transfer coding first, and else a length.

Nothing malformed is accepted: names are tokens, values have no control characters, a
length is written in digits and stands once. A message with both a transfer coding and a
length has two readings that the standard allows, to refuse it or to go by the coding.
Which of them a recipient takes is a parameter, and a message is good if both agree.
-/

import LocalNetwork.Incremental
import LocalNetwork.Text

namespace LocalNetwork

/-! ### Lines and names -/

/-- The end of a line in text. -/
def crlf : Text := ['\r', '\n']

def crlfBytes : Bytes := [13, 10]

/-- The end of a head: the end of its last line and an empty line. -/
def headEnd : Bytes := [13, 10, 13, 10]

/-- The characters of a token: methods and header names. -/
def isTokenChar (char : Char) : Bool :=
  char.isAlphanum || "!#$%&'*+-.^_`|~".toList.contains char

/-- The characters of a header value. -/
def isFieldChar (char : Char) : Bool :=
  decide (char = '\t' ∨ 0x20 ≤ char.toNat ∧ char.toNat ≠ 0x7F)

def isToken (text : Text) : Prop := text ≠ [] ∧ ∀ char ∈ text, isTokenChar char = true

instance decidableIsToken (text : Text) : Decidable (isToken text) :=
  inferInstanceAs (Decidable (text ≠ [] ∧ ∀ char ∈ text, isTokenChar char = true))

/-- Text without control characters. -/
def isFieldText (text : Text) : Prop := ∀ char ∈ text, isFieldChar char = true

instance decidableIsFieldText (text : Text) : Decidable (isFieldText text) :=
  inferInstanceAs (Decidable (∀ char ∈ text, isFieldChar char = true))

/-- The characters of the address in a request line. -/
def isTarget (text : Text) : Prop :=
  text ≠ [] ∧ ∀ char ∈ text, 0x21 ≤ char.toNat ∧ char.toNat ≤ 0x7E

instance decidableIsTarget (text : Text) : Decidable (isTarget text) :=
  inferInstanceAs (Decidable (text ≠ [] ∧ ∀ char ∈ text, 0x21 ≤ char.toNat ∧ char.toNat ≤ 0x7E))

theorem toNat_lt_of_isTokenChar {char : Char} (token : isTokenChar char = true) :
    char.toNat < 128 := by
  rw [isTokenChar, Bool.or_eq_true, Char.isAlphanum, Bool.or_eq_true, isAlpha_eq,
    Bool.or_eq_true] at token
  rcases token with ((upper | lower) | digit) | other
  · exact toNat_lt_of_isUpper upper
  · exact toNat_lt_of_isLower lower
  · exact toNat_lt_of_isDigit digit
  · have each : ∀ other ∈ "!#$%&'*+-.^_`|~".toList, other.toNat < 128 := by decide
    exact each char (List.contains_iff_mem.mp other)

/-- A token has no line end, no blank and no colon. -/
theorem isTokenChar_plain {char : Char} (token : isTokenChar char = true) :
    char ≠ '\r' ∧ char ≠ ':' ∧ char ≠ ' ' ∧ isPythonSpace char = false :=
  @ascii_induction (fun char => isTokenChar char = true →
    char ≠ '\r' ∧ char ≠ ':' ∧ char ≠ ' ' ∧ isPythonSpace char = false) (by decide) char
    (toNat_lt_of_isTokenChar token) token

theorem not_mem_of_isToken {text : Text} (token : isToken text) :
    '\r' ∉ text ∧ ':' ∉ text ∧ ' ' ∉ text :=
  ⟨fun member => (isTokenChar_plain (token.2 _ member)).1 rfl,
    fun member => (isTokenChar_plain (token.2 _ member)).2.1 rfl,
    fun member => (isTokenChar_plain (token.2 _ member)).2.2.1 rfl⟩

theorem strip_token {text : Text} (token : isToken text) : strip text = text :=
  stripBlanks_of_ends isPythonSpace
    (fun char head => (isTokenChar_plain (token.2 char (List.mem_of_mem_head? head))).2.2.2)
    (fun char last => (isTokenChar_plain (token.2 char (List.mem_of_mem_getLast? last))).2.2.2)

theorem lowerText_token (unicode : UnicodeData) {text : Text} (token : isToken text) :
    lowerText unicode text = text.map Char.toLower :=
  lowerText_ascii unicode fun char member => toNat_lt_of_isTokenChar (token.2 char member)

/-- The blanks around header values. -/
def isBlank (char : Char) : Bool := char = ' ' || char = '\t'

/-! ### Heads -/

/-- The lines up to the first empty one, and what follows it. -/
def readLines : Nat → Bytes → Option (List Bytes × Bytes)
  | 0, _ => none
  | fuel + 1, data =>
    match cutAt crlfBytes data with
    | none => none
    | some (line, rest) =>
      if line = [] then some ([], rest)
      else (readLines fuel rest).map fun result => (line :: result.1, result.2)

/-- A header line: a name, a colon, and a value between blanks. -/
def readField (line : Text) : Option (Text × Text) :=
  match cutAt [':'] line with
  | none => none
  | some (name, value) =>
    if isToken name ∧ isFieldText value then
      some (name.map Char.toLower, stripBlanks isBlank value)
    else none

def readFields : List Text → Option (List (Text × Text))
  | [] => some []
  | line :: lines =>
    match readField line, readFields lines with
    | some field, some fields => some (field :: fields)
    | _, _ => none

/-- The first line, the headers, and what follows the head. -/
def readHead (data : Bytes) : Option (Text × List (Text × Text) × Bytes) :=
  match readLines data.length data with
  | some (line :: lines, rest) =>
    (readFields (lines.map decodeText)).map fun fields => (decodeText line, fields, rest)
  | _ => none

/-- The values of all headers of one name. -/
def valuesOf (name : Text) (fields : List (Text × Text)) : List Text :=
  (fields.filter fun field => field.1 = name).map Prod.snd

/-! ### Bodies -/

/-- A length, in digits. -/
def readLength (text : Text) : Option Nat :=
  if text ≠ [] ∧ ∀ char ∈ text, char.isDigit = true then some (Nat.ofDigitChars 10 text 0)
  else none

def isHexDigit (byte : UInt8) : Bool := (hexValue (Char.ofNat byte.toNat)).isSome

/-- The size of a chunk: hexadecimal digits, and extensions after a semicolon. -/
def readChunkSize (line : Bytes) : Option Nat :=
  let digits := line.takeWhile isHexDigit
  let extension := (line.dropWhile isHexDigit).dropWhile fun byte => byte = 32 || byte = 9
  if digits ≠ [] ∧ (extension = [] ∨ extension.head? = some 59) then
    readNumber hexValue 16 (digits.map fun byte => Char.ofNat byte.toNat)
  else none

/-- Chunks up to one of size zero, and the trailers after it. -/
def readChunks : Nat → Bytes → Option (Bytes × Bytes)
  | 0, _ => none
  | fuel + 1, data =>
    match cutAt crlfBytes data with
    | none => none
    | some (line, rest) =>
      match readChunkSize line with
      | none => none
      | some 0 => (readLines rest.length rest).map fun result => ([], result.2)
      | some size =>
        if (rest.drop size).take 2 = crlfBytes then
          (readChunks fuel (rest.drop (size + 2))).map fun result =>
            (rest.take size ++ result.1, result.2)
        else none

/-- The length of a body; one is given for messages that do not say. -/
def bodyLength (unsaid : Option Nat) : List Text → Option Nat
  | [] => unsaid
  | [value] => readLength value
  | _ => none

/-- The body of a message, and what follows it. -/
def readBody (refuses : Bool) (unsaid : Option Nat) (fields : List (Text × Text)) (rest : Bytes) :
    Option (Bytes × Bytes) :=
  let lengths := valuesOf "content-length".toList fields
  match valuesOf "transfer-encoding".toList fields with
  | [] =>
    match bodyLength unsaid lengths with
    | none => none
    | some length => if length ≤ rest.length then some (rest.take length, rest.drop length) else none
  | [coding] =>
    if refuses = true ∧ lengths ≠ [] then none
    else if coding.map Char.toLower = "chunked".toList then readChunks rest.length rest
    else none
  | _ => none

/-! ### Requests -/

/-- What a request says: a header name may stand in it more than once. -/
structure HttpMessage where
  method : Text
  path : Text
  headers : List (Text × Text)
  body : Bytes
  deriving DecidableEq

/-- A request, and what follows it. A request that does not say how long its body is has none. -/
def readRequest (refuses : Bool) (data : Bytes) : Option (HttpMessage × Bytes) :=
  match readHead data with
  | none => none
  | some (start, fields, rest) =>
    match splitOn [' '] start with
    | [method, target, version] =>
      if isToken method ∧ isTarget target ∧ version = "HTTP/1.1".toList then
        (readBody refuses (some 0) fields rest).map fun result =>
          (⟨method, target, fields, result.1⟩, result.2)
      else none
    | _ => none

/-! ### Responses -/

structure ResponseMessage where
  status : Nat
  headers : List (Text × Text)
  body : Bytes
  deriving DecidableEq

/-- The code of a status: three digits. -/
def readStatus (text : Text) : Option Nat := if text.length = 3 then readLength text else none

/-- A response that says how long its body is, and what follows it. -/
def readResponse (refuses : Bool) (data : Bytes) : Option (ResponseMessage × Bytes) :=
  match readHead data with
  | none => none
  | some (start, fields, rest) =>
    match splitAtMost [' '] 2 start with
    | [version, code, reason] =>
      if (version = "HTTP/1.0".toList ∨ version = "HTTP/1.1".toList) ∧ isFieldText reason then
        match readStatus code, readBody refuses none fields rest with
        | some status, some (body, left) => some (⟨status, fields, body⟩, left)
        | _, _ => none
      else none
    | _ => none

/-! ### Reading what was written -/

theorem encodeText_append (first second : Text) :
    encodeText (first ++ second) = encodeText first ++ encodeText second :=
  List.flatMap_append ..

/-- A line end in bytes is one in the text. -/
theorem not_crlf_encodeText {line : Text} (absent : ¬ crlf <:+: line) :
    ¬ crlfBytes <:+: encodeText line := by
  rintro ⟨before, after, split⟩
  have text := decodeText_encodeText line
  have second : decodeText (10 :: after) = '\n' :: decodeText after :=
    @decodeText_ascii [] after 10 (by decide)
  rw [← split, crlfBytes, List.append_assoc, List.cons_append, List.cons_append, List.nil_append,
    decodeText_ascii before _ (by decide), second] at text
  refine absent ⟨decodeText before, decodeText after, ?_⟩
  rw [← text, List.append_assoc]
  rfl

theorem encodeText_ne_nil {line : Text} (nonempty : line ≠ []) : encodeText line ≠ [] := by
  intro empty
  have text := decodeText_encodeText line
  rw [empty] at text
  exact nonempty text.symm

theorem readLines_append {lines : List Bytes} (rest : Bytes) {fuel : Nat}
    (plain : ∀ line ∈ lines, line ≠ [] ∧ ¬ crlfBytes <:+: line) (enough : lines.length < fuel) :
    readLines fuel (lines.flatMap (· ++ crlfBytes) ++ (crlfBytes ++ rest)) = some (lines, rest) := by
  induction lines generalizing fuel with
  | nil =>
    obtain ⟨fuel, rfl⟩ : ∃ less, fuel = less + 1 := ⟨fuel - 1, by omega⟩
    rw [List.flatMap_nil, List.nil_append, readLines, cutAt_append]
    rfl
  | cons line lines inductionHypothesis =>
    obtain ⟨fuel, rfl⟩ : ∃ less, fuel = less + 1 := ⟨fuel - 1, by omega⟩
    obtain ⟨nonempty, absent⟩ := plain line (List.mem_cons_self ..)
    have later := @inductionHypothesis fuel
      (fun other member => plain other (List.mem_cons_of_mem _ member))
      (Nat.lt_of_succ_lt_succ enough)
    have cut : cutAt crlfBytes (line ++ (crlfBytes ++ (lines.flatMap (· ++ crlfBytes) ++
        (crlfBytes ++ rest)))) = some (line, lines.flatMap (· ++ crlfBytes) ++ (crlfBytes ++ rest)) :=
      cutAt_two _ (by decide) absent
    rw [List.flatMap_cons, List.append_assoc, List.append_assoc, readLines, cut]
    simp only [if_neg nonempty, later, Option.map_some]

/-- The text of a head: lines with their ends, and an empty line. -/
def writeLines (lines : List Text) : Text := lines.flatMap (· ++ crlf) ++ crlf

theorem encodeText_writeLines (lines : List Text) :
    encodeText (writeLines lines) =
      (lines.map encodeText).flatMap (· ++ crlfBytes) ++ crlfBytes := by
  rw [writeLines, encodeText_append]
  refine congrArg (· ++ crlfBytes) ?_
  induction lines with
  | nil => rfl
  | cons line lines inductionHypothesis =>
    rw [List.flatMap_cons, encodeText_append, encodeText_append, inductionHypothesis]
    rfl

/-- A head that was written line by line is read line by line. -/
theorem readHead_writeLines (start : Text) (lines : List Text) (rest : Bytes)
    (plain : ∀ line ∈ start :: lines, line ≠ [] ∧ ¬ crlf <:+: line) :
    readHead (encodeText (writeLines (start :: lines)) ++ rest) =
      (readFields lines).map fun fields => (start, fields, rest) := by
  have plainBytes : ∀ line ∈ (start :: lines).map encodeText,
      line ≠ [] ∧ ¬ crlfBytes <:+: line := by
    intro encoded member
    obtain ⟨line, inside, rfl⟩ := List.mem_map.mp member
    obtain ⟨nonempty, absent⟩ := plain line inside
    exact ⟨encodeText_ne_nil nonempty, not_crlf_encodeText absent⟩
  have decoded : (lines.map encodeText).map decodeText = lines := by
    rw [List.map_map]
    exact (List.map_congr_left fun line _ => decodeText_encodeText line).trans (List.map_id lines)
  rw [readHead, encodeText_writeLines, List.append_assoc, readLines_append rest plainBytes]
  · simp only [List.map_cons, decoded, decodeText_encodeText]
  · have size := length_le_flatMap ((start :: lines).map encodeText) fun line _ =>
      List.append_ne_nil_of_right_ne_nil line (List.cons_ne_nil 13 [10])
    simp only [List.length_append, crlfBytes, List.length_cons] at size ⊢
    omega

/-- A header as it is written. -/
def writeField (field : Text × Text) : Text := field.1 ++ ':' :: ' ' :: field.2

/-- A header as it is read. -/
def fieldRead (field : Text × Text) : Text × Text :=
  (field.1.map Char.toLower, stripBlanks isBlank field.2)

def isField (field : Text × Text) : Prop := isToken field.1 ∧ isFieldText field.2

instance decidableIsField (field : Text × Text) : Decidable (isField field) :=
  inferInstanceAs (Decidable (isToken field.1 ∧ isFieldText field.2))

theorem readField_write {field : Text × Text} (name : ':' ∉ field.1) :
    readField (writeField field) = if isField field then some (fieldRead field) else none := by
  have text : isFieldText (' ' :: field.2) ↔ isFieldText field.2 := by
    refine ⟨fun all char member => all char (List.mem_cons_of_mem _ member), fun all char member => ?_⟩
    rcases List.mem_cons.mp member with rfl | member
    · decide
    · exact all char member
  have blank : stripBlanks isBlank (' ' :: field.2) = stripBlanks isBlank field.2 :=
    congrArg (List.rdropWhile isBlank) (List.dropWhile_cons_of_pos (by decide))
  rw [readField, writeField, cutAt_symbol _ name]
  simp only [text, blank]
  rfl

/-- Written headers are read if all of them are well formed. -/
theorem readFields_write {fields : List (Text × Text)} (names : ∀ field ∈ fields, ':' ∉ field.1) :
    readFields (fields.map writeField) =
      if ∀ field ∈ fields, isField field then some (fields.map fieldRead) else none := by
  induction fields with
  | nil => rfl
  | cons field fields inductionHypothesis =>
    have later := inductionHypothesis fun other member =>
      names other (List.mem_cons_of_mem _ member)
    rw [List.map_cons, readFields, readField_write (names field (List.mem_cons_self ..)), later]
    by_cases here : isField field
    · by_cases rest : ∀ other ∈ fields, isField other
      · rw [if_pos here, if_pos rest, if_pos (List.forall_mem_cons.mpr ⟨here, rest⟩)]
        rfl
      · rw [if_pos here, if_neg rest, if_neg fun all => rest (List.forall_mem_cons.mp all).2]
    · rw [if_neg here, if_neg fun all => here (List.forall_mem_cons.mp all).1]

/-- Without a transfer coding the body is all that follows if and only if its length is said. -/
theorem readBody_iff {refuses : Bool} {unsaid : Option Nat} {fields : List (Text × Text)}
    {body : Bytes} (uncoded : valuesOf "transfer-encoding".toList fields = []) :
    readBody refuses unsaid fields body = some (body, []) ↔
      bodyLength unsaid (valuesOf "content-length".toList fields) = some body.length := by
  rw [readBody, uncoded]
  simp only
  cases bodyLength unsaid (valuesOf "content-length".toList fields) with
  | none => exact ⟨fun read => (nomatch read), fun said => (nomatch said)⟩
  | some length =>
    simp only [Option.some.injEq]
    by_cases enough : length ≤ body.length
    · rw [if_pos enough, Option.some.injEq, Prod.mk.injEq, List.take_eq_self_iff,
        List.drop_eq_nil_iff]
      omega
    · rw [if_neg enough]
      exact ⟨fun read => (nomatch read), fun same => by omega⟩

/-! ### What was read -/

theorem readLines_some {fuel : Nat} {data rest : Bytes} {lines : List Bytes}
    (read : readLines fuel data = some (lines, rest)) :
    data = lines.flatMap (· ++ crlfBytes) ++ (crlfBytes ++ rest) ∧ ∀ line ∈ lines, line ≠ [] := by
  induction fuel generalizing data lines with
  | zero => cases read
  | succ fuel inductionHypothesis =>
    rw [readLines] at read
    cases found : cutAt crlfBytes data with
    | none =>
      rw [found] at read
      cases read
    | some cut =>
      obtain ⟨line, others⟩ := cut
      have split := (cutAt_some found).1
      rw [found] at read
      simp only at read
      by_cases empty : line = []
      · rw [if_pos empty] at read
        obtain ⟨rfl, rfl⟩ := Prod.mk.inj (Option.some.inj read)
        rw [empty] at split
        exact ⟨split, fun other member => (nomatch member)⟩
      · rw [if_neg empty] at read
        obtain ⟨⟨later, final⟩, readRest, same⟩ := Option.map_eq_some_iff.mp read
        obtain ⟨rfl, rfl⟩ := Prod.mk.inj same
        obtain ⟨whole, nonempty⟩ := inductionHypothesis readRest
        refine ⟨?_, List.forall_mem_cons.mpr ⟨empty, nonempty⟩⟩
        rw [split, whole, List.flatMap_cons]
        simp only [List.append_assoc]

theorem readField_some {line : Text} {field : Text × Text} (read : readField line = some field) :
    ∃ name value, line = name ++ ':' :: value ∧ isToken name ∧ isFieldText value ∧
      field = (name.map Char.toLower, stripBlanks isBlank value) := by
  rw [readField] at read
  cases found : cutAt [':'] line with
  | none =>
    rw [found] at read
    cases read
  | some cut =>
    obtain ⟨name, value⟩ := cut
    rw [found] at read
    simp only at read
    split at read
    · rename_i plain
      exact ⟨name, value, (cutAt_some found).1, plain.1, plain.2, (Option.some.inj read).symm⟩
    · cases read

theorem readFields_some {lines : List Text} {fields : List (Text × Text)}
    (read : readFields lines = some fields) :
    List.Forall₂ (fun line field => readField line = some field) lines fields := by
  induction lines generalizing fields with
  | nil =>
    obtain rfl := Option.some.inj read
    exact .nil
  | cons line lines inductionHypothesis =>
    rw [readFields] at read
    split at read
    · rename_i field others readHere readRest
      obtain rfl := Option.some.inj read
      exact .cons readHere (inductionHypothesis readRest)
    · cases read

theorem readHead_some {data rest : Bytes} {start : Text} {fields : List (Text × Text)}
    (read : readHead data = some (start, fields, rest)) :
    ∃ line lines, readLines data.length data = some (line :: lines, rest) ∧
      decodeText line = start ∧ readFields (lines.map decodeText) = some fields := by
  rw [readHead] at read
  split at read
  · rename_i line lines after readAll
    obtain ⟨others, readOthers, same⟩ := Option.map_eq_some_iff.mp read
    obtain ⟨sameStart, pair⟩ := Prod.mk.inj same
    obtain ⟨rfl, rfl⟩ := Prod.mk.inj pair
    exact ⟨line, lines, readAll, sameStart, readOthers⟩
  · cases read

theorem readResponse_some {refuses : Bool} {data left : Bytes} {message : ResponseMessage}
    (read : readResponse refuses data = some (message, left)) :
    ∃ start rest version code reason, readHead data = some (start, message.headers, rest) ∧
      splitAtMost [' '] 2 start = [version, code, reason] ∧
      (version = "HTTP/1.0".toList ∨ version = "HTTP/1.1".toList) ∧ isFieldText reason ∧
      readStatus code = some message.status ∧
      readBody refuses none message.headers rest = some (message.body, left) := by
  rw [readResponse] at read
  split at read
  · cases read
  · rename_i start fields rest readAll
    split at read
    · rename_i version code reason parts
      split at read
      · rename_i plain
        split at read
        · rename_i status body after readCode readRest
          obtain ⟨rfl, rfl⟩ := Prod.mk.inj (Option.some.inj read)
          exact ⟨start, rest, version, code, reason, readAll, parts, plain.1, plain.2, readCode,
            readRest⟩
        · cases read
      · cases read
    · cases read

end LocalNetwork
