/-
This file proves for which cuts a stream of requests comes back from the parser. A request on
the wire is given with its own spelling: the case of its header names and the blanks around
its header values are free, and its body has the length that `Content-Length` says.

A request without a body makes the parser drop its whole buffer, so that bytes of the next
request that came in the same chunk are lost; and a head that is not complete is refused
once more than 16384 bytes of it are there. Whatever the cuts, the parser returns a method
in capitals, keeps the last of several headers of one name, strips more than blanks and tabs
off a value, and takes a length of more than 4300 digits for 0. These are the only failures.
-/

import LocalNetwork.HttpParser
import LocalNetwork.LossyDecoder
import Mathlib.Data.Set.List

namespace LocalNetwork

/-! ### Requests on the wire -/

/-- A header line: the value stands between blanks and begins and ends with none. -/
structure HeaderField where
  name : Text
  before : Text
  value : Text
  after : Text
  token : isToken name
  beforeBlank : ∀ char ∈ before, char = ' ' ∨ char = '\t'
  afterBlank : ∀ char ∈ after, char = ' ' ∨ char = '\t'
  visible : ∀ char ∈ value, isFieldChar char = true
  first : ∀ char ∈ value.head?, char ≠ ' ' ∧ char ≠ '\t'
  last : ∀ char ∈ value.getLast?, char ≠ ' ' ∧ char ≠ '\t'

/-- Header names are compared without regard to case. -/
def HeaderField.key (field : HeaderField) : Text := field.name.map Char.toLower

def HeaderField.line (field : HeaderField) : Text :=
  field.name ++ ':' :: (field.before ++ (field.value ++ field.after))

/-- The header that a line stands for. -/
def HeaderField.entry (field : HeaderField) : Text × Text := (field.key, field.value)

def headersOf (fields : List HeaderField) : Dict Text Text :=
  Dict.ofEntries (fields.map HeaderField.entry)

/-- A well-formed request, without a body or with one framed by `Content-Length`. -/
structure WireRequest where
  method : Text
  target : Text
  fields : List HeaderField
  body : Bytes
  token : isToken method
  visible : ∀ char ∈ target, 0x21 ≤ char.toNat ∧ char.toNat ≤ 0x7E
  /-- A path, the asterisk, or an absolute address or host and port. -/
  form : target.head? = some '/' ∨ target = ['*'] ∨ ':' ∈ target
  uncoded : ∀ field ∈ fields, field.key ≠ "transfer-encoding".toList
  framed : ∀ field ∈ fields, field.key = "content-length".toList →
    field.value ≠ [] ∧ (∀ char ∈ field.value, char.isDigit = true) ∧
      Nat.ofDigitChars 10 field.value 0 = body.length
  unframed : (∀ field ∈ fields, field.key ≠ "content-length".toList) → body = []

def HttpRequest.message (request : HttpRequest) : HttpMessage where
  method := request.method
  path := request.path
  headers := request.headers.entries
  body := request.body

namespace WireRequest

variable (wire : WireRequest)

def requestLine : Text := wire.method ++ ' ' :: (wire.target ++ ' ' :: "HTTP/1.1".toList)

def lines : List Text := wire.requestLine :: wire.fields.map HeaderField.line

/-- The head, up to the end of its last line. -/
def head : Bytes := encodeText (crlf.intercalate wire.lines)

def encode : Bytes := wire.head ++ (headEnd ++ wire.body)

def message : HttpMessage where
  method := wire.method
  path := wire.target
  headers := wire.fields.map HeaderField.entry
  body := wire.body

/-- The requests that the parser returns unchanged: the method is in capitals, no header name
stands twice, no value begins or ends with a character that Python strips, and the length of a
body is written with no more digits than `int` reads. -/
structure Plain : Prop where
  capitals : ∀ char ∈ wire.method, char.isLower = false
  distinct : (wire.fields.map HeaderField.key).Nodup
  stripped : ∀ field ∈ wire.fields, strip field.value = field.value
  readable : wire.body ≠ [] → ∀ field ∈ wire.fields, field.key = "content-length".toList →
    field.value.length ≤ maxStrDigits

/-- The request as the parser returns it. -/
def request : HttpRequest where
  method := wire.method
  path := wire.target
  version := "HTTP/1.1".toList
  headers := headersOf wire.fields
  body := wire.body
  clientIp := "127.0.0.1".toList

end WireRequest

/-! ### Lines -/

/-- A header line is not empty and has no line end in it. -/
theorem HeaderField.line_plain (field : HeaderField) : field.line ≠ [] ∧ '\r' ∉ field.line := by
  refine ⟨fun empty => ?_, fun member => ?_⟩
  · cases (List.append_eq_nil_iff.mp empty).2
  · rw [line, List.mem_append, List.mem_cons, List.mem_append, List.mem_append] at member
    rcases member with name | colon | before | value | after
    · exact (not_mem_of_isToken field.token).1 name
    · exact absurd colon (by decide)
    · rcases field.beforeBlank _ before with blank | blank
      · exact absurd blank (by decide)
      · exact absurd blank (by decide)
    · exact absurd (field.visible _ value) (by decide)
    · rcases field.afterBlank _ after with blank | blank
      · exact absurd blank (by decide)
      · exact absurd blank (by decide)

namespace WireRequest

variable (wire : WireRequest)

theorem not_mem_target : '\r' ∉ wire.target ∧ ' ' ∉ wire.target := by
  refine ⟨fun member => ?_, fun member => ?_⟩
  · exact absurd (wire.visible _ member).1 (by decide)
  · exact absurd (wire.visible _ member).1 (by decide)

theorem lines_plain : ∀ line ∈ wire.lines, line ≠ [] ∧ '\r' ∉ line := by
  intro line member
  rcases List.mem_cons.mp member with rfl | inFields
  · refine ⟨fun empty => ?_, fun inside => ?_⟩
    · cases (List.append_eq_nil_iff.mp empty).2
    · rw [requestLine, List.mem_append, List.mem_cons, List.mem_append, List.mem_cons] at inside
      rcases inside with method | blank | target | blank | version
      · exact (not_mem_of_isToken wire.token).1 method
      · exact absurd blank (by decide)
      · exact wire.not_mem_target.1 target
      · exact absurd blank (by decide)
      · exact absurd version (by decide)
  · obtain ⟨field, -, rfl⟩ := List.mem_map.mp inFields
    exact field.line_plain

theorem lines_not_crlf : ∀ line ∈ wire.lines, ¬ crlf <:+: line := by
  intro line member inside
  exact (wire.lines_plain line member).2 (inside.subset (List.mem_cons_self ..))

end WireRequest

/-! ### The head -/

theorem encodeText_intercalate (lines : List Text) :
    encodeText (crlf.intercalate lines) = crlfBytes.intercalate (lines.map encodeText) := by
  induction lines with
  | nil => rfl
  | cons line lines inductionHypothesis =>
    cases lines with
    | nil => rw [List.intercalate_singleton, List.map_singleton, List.intercalate_singleton]
    | cons next lines =>
      rw [List.map_cons, List.map_cons, List.intercalate_cons_cons, List.intercalate_cons_cons,
        encodeText_append, encodeText_append, inductionHypothesis, List.map_cons]
      rfl

/-- Lines that are not empty end with the first empty line. -/
theorem cutAt_headEnd (lines : List Bytes) (rest : Bytes) (nonempty : lines ≠ [])
    (plain : ∀ line ∈ lines, line ≠ [] ∧ 13 ∉ line) :
    cutAt headEnd (crlfBytes.intercalate lines ++ (headEnd ++ rest)) =
      some (crlfBytes.intercalate lines, rest) := by
  induction lines with
  | nil => exact absurd rfl nonempty
  | cons line lines inductionHypothesis =>
    have absent := (plain line (List.mem_cons_self ..)).2
    cases lines with
    | nil =>
      have here : cutAt headEnd (headEnd ++ rest) = some ([], rest) := cutAt_append headEnd rest
      rw [List.intercalate_singleton, headEnd, cutAt_append_of_not_mem _ absent]
      rw [headEnd] at here
      rw [here]
      simp
    | cons next lines =>
      have later := inductionHypothesis (List.cons_ne_nil _ _) fun other member =>
        plain other (List.mem_cons_of_mem _ member)
      obtain ⟨nextNonempty, nextAbsent⟩ :=
        plain next (List.mem_cons_of_mem _ (List.mem_cons_self ..))
      have elsewhere : ¬ headEnd <+: 13 :: 10 :: (crlfBytes.intercalate (next :: lines) ++
          (headEnd ++ rest)) := by
        obtain ⟨byte, others, rfl⟩ := List.exists_cons_of_ne_nil nextNonempty
        rw [intercalate_cons_eq, List.append_assoc, headEnd, List.cons_prefix_cons,
          List.cons_prefix_cons, List.cons_append, List.cons_prefix_cons]
        rintro ⟨-, -, rfl, -⟩
        exact nextAbsent (List.mem_cons_self ..)
      have passed : cutAt headEnd (13 :: 10 :: (crlfBytes.intercalate (next :: lines) ++
          (headEnd ++ rest))) = some (13 :: 10 :: crlfBytes.intercalate (next :: lines), rest) := by
        rw [cutAt_cons_of_not elsewhere, headEnd, cutAt_cons_of_ne (by decide), ← headEnd, later]
        rfl
      have skipped := @cutAt_append_of_not_mem _ _ 13 [10, 13, 10] line
        (13 :: 10 :: (crlfBytes.intercalate (next :: lines) ++ (headEnd ++ rest))) absent
      rw [← headEnd, passed] at skipped
      rw [List.intercalate_cons_cons]
      simp only [List.append_assoc]
      exact skipped

namespace WireRequest

variable (wire : WireRequest) (unicode : UnicodeData)

theorem cutAt_encode (rest : Bytes) :
    cutAt headEnd (wire.encode ++ rest) = some (wire.head, wire.body ++ rest) := by
  have bytes : wire.head = crlfBytes.intercalate (wire.lines.map encodeText) :=
    encodeText_intercalate wire.lines
  have plain : ∀ line ∈ wire.lines.map encodeText, line ≠ [] ∧ 13 ∉ line := by
    intro encoded member
    obtain ⟨line, inside, rfl⟩ := List.mem_map.mp member
    obtain ⟨nonempty, absent⟩ := wire.lines_plain line inside
    refine ⟨fun empty => nonempty ?_, fun byte => absent (mem_of_mem_encodeText (by decide) line byte)⟩
    have back := decodeText_encodeText line
    rw [empty] at back
    exact back.symm
  rw [encode, List.append_assoc, List.append_assoc, bytes]
  exact cutAt_headEnd _ _ (List.cons_ne_nil _ _) plain

/-- A header line is read as its key and its value, if nothing is stripped off that. -/
theorem addHeader_line (headers : Dict Text Text) {field : HeaderField}
    (stripped : strip field.value = field.value) :
    addHeader unicode headers field.line = headers.insert field.key field.value := by
  have blank : ∀ char, char = ' ' ∨ char = '\t' → isPythonSpace char = true := by
    rintro char (rfl | rfl)
    · decide
    · decide
  have first := head_stripBlanks isPythonSpace field.value
  have last := getLast_stripBlanks isPythonSpace field.value
  rw [← strip_eq, stripped] at first last
  have value : strip (field.before ++ (field.value ++ field.after)) = field.value :=
    stripBlanks_padded isPythonSpace (fun char member => blank char (field.beforeBlank char member))
      (fun char member => blank char (field.afterBlank char member))
      first last
  rw [addHeader, HeaderField.line, cutAt_symbol _ (not_mem_of_isToken field.token).2.1]
  simp only [strip_token field.token, value, lowerText_token unicode field.token]
  rfl

theorem parseHeaders_lines {fields : List HeaderField}
    (stripped : ∀ field ∈ fields, strip field.value = field.value) :
    parseHeaders unicode (fields.map HeaderField.line) = headersOf fields := by
  rw [parseHeaders, headersOf, Dict.ofEntries, List.foldl_map, List.foldl_map]
  exact List.foldl_ext _ _ _ fun headers field member =>
    addHeader_line unicode headers (stripped field member)

theorem splitAtMost_requestLine :
    splitAtMost [' '] 2 wire.requestLine = [wire.method, wire.target, "HTTP/1.1".toList] := by
  rw [requestLine, splitAtMost_symbol _ _ (not_mem_of_isToken wire.token).2.2,
    splitAtMost_symbol _ _ wire.not_mem_target.2]
  rfl

variable {wire}

theorem Plain.upperText_method (plain : wire.Plain) :
    upperText unicode wire.method = wire.method := by
  have ascii : ∀ char ∈ wire.method, char.toNat < 128 := fun char member =>
    toNat_lt_of_isTokenChar (wire.token.2 char member)
  have capital : ∀ char ∈ wire.method, char.toUpper = id char := fun char member =>
    @ascii_induction (fun char => char.isLower = false → char.toUpper = char) (by decide) char
      (ascii char member) (plain.capitals char member)
  rw [upperText_ascii unicode ascii, List.map_congr_left capital, List.map_id]

/-- Headers of different names are kept as they stand. -/
theorem Plain.entries (plain : wire.Plain) :
    (headersOf wire.fields).entries = wire.fields.map HeaderField.entry := by
  refine Dict.foldl_insert_entries (wire.fields.map HeaderField.entry) Dict.empty ?_
  change ((wire.fields.map HeaderField.entry).map Prod.fst).Nodup
  rw [List.map_map]
  exact plain.distinct

theorem Plain.parseHead_head (plain : wire.Plain) :
    parseHead unicode wire.head = .ok (some { wire.request with body := [] }) := by
  have lines : splitOn crlf (decodeText wire.head) = wire.lines := by
    rw [head, decodeText_encodeText]
    exact splitOn_intercalate (by decide) wire.lines (List.cons_ne_nil _ _) wire.lines_not_crlf
  rw [parseHead, lines, WireRequest.lines]
  simp only [wire.splitAtMost_requestLine, parseHeaders_lines unicode plain.stripped,
    plain.upperText_method]
  rfl

/-- Under the headers of a request a value stands that it has. -/
theorem exists_field {headers : Dict Text Text}
    (entries : headers.entries = wire.fields.map HeaderField.entry) {key value : Text}
    (stored : headers.get? key = some value) :
    ∃ field ∈ wire.fields, field.key = key ∧ field.value = value := by
  have member := Dict.get?_eq_some_iff.mp stored
  rw [entries] at member
  obtain ⟨field, inside, same⟩ := List.mem_map.mp member
  exact ⟨field, inside, (Prod.mk.inj same).1, (Prod.mk.inj same).2⟩

/-- The headers say that the request is not chunked. -/
theorem isChunked_of_entries {request : HttpRequest}
    (entries : request.headers.entries = wire.fields.map HeaderField.entry) :
    request.isChunked unicode = false := by
  refine decide_eq_false ?_
  cases coding : request.headers.get? "transfer-encoding".toList with
  | none => exact fun same => nomatch same
  | some value =>
    obtain ⟨field, inside, key, -⟩ := exists_field entries coding
    exact absurd key (wire.uncoded field inside)

/-- The headers say that the request is not chunked, and how long its body is. -/
theorem Plain.framing (plain : wire.Plain) {request : HttpRequest}
    (headers : request.headers = headersOf wire.fields) :
    request.isChunked unicode = false ∧
      request.contentLength unicode = (wire.body.length : Int) := by
  constructor
  · exact isChunked_of_entries unicode (by rw [headers, plain.entries])
  · rw [HttpRequest.contentLength, headers]
    cases length : (headersOf wire.fields).get? "content-length".toList with
    | none =>
      have absent : ∀ field ∈ wire.fields, field.key ≠ "content-length".toList := by
        intro field inside key
        refine Dict.get?_eq_none_iff.mp length ?_
        rw [Dict.keys, plain.entries, List.map_map]
        exact List.mem_map.mpr ⟨field, inside, key⟩
      rw [wire.unframed absent]
      rfl
    | some digits =>
      obtain ⟨field, inside, key, rfl⟩ := exists_field plain.entries length
      obtain ⟨nonempty, digit, same⟩ := wire.framed field inside key
      rw [Option.getD_some]
      by_cases short : field.value.length ≤ maxStrDigits
      · rw [parseInt_digits unicode nonempty digit short, same]
        rfl
      · -- A length that `int` refuses counts as 0, and the body is empty.
        have empty : wire.body = [] := by
          by_contra something
          exact short (plain.readable something field inside key)
        rw [parseInt_long unicode digit (Nat.lt_of_not_le short), empty]
        rfl

/-- The body of a request: what follows it is kept, or dropped if there is no body. -/
theorem Plain.parseBody_body (plain : wire.Plain) (turns : Nat) {request : HttpRequest}
    (headers : request.headers = headersOf wire.fields) (rest : Bytes) :
    parseBody unicode turns request (wire.body ++ rest) =
      .ok (some (if wire.body = [] then (request, [])
        else ({ request with body := wire.body }, rest))) := by
  obtain ⟨unchunked, length⟩ := plain.framing unicode headers
  rw [parseBody, unchunked, length]
  by_cases empty : wire.body = []
  · simp [empty]
  · have positive := List.length_pos_iff.mpr empty
    rw [if_neg empty, if_neg (by decide), if_pos (by omega)]
    simp

/-- A whole request is taken off the buffer, with everything behind it if it has no body. -/
theorem Plain.tryParse_encode (plain : wire.Plain) (turns : Nat) (rest : Bytes) :
    tryParse unicode turns (wire.encode ++ rest) =
      .ok (some wire.request, if wire.body = [] then [] else rest) := by
  rw [tryParse, wire.cutAt_encode]
  simp only [plain.parseHead_head unicode]
  rw [plain.parseBody_body unicode turns rfl]
  by_cases empty : wire.body = []
  · rw [if_pos empty, if_pos empty]
    simp [request, empty]
  · rw [if_neg empty, if_neg empty]
    rfl

variable (wire)

/-- The head of a request fits, as far as it is there. -/
def patient (wire : WireRequest) (size : Nat) : Prop :=
  size < wire.head.length + 4 → size ≤ maxHeaderSize

instance decidablePatient (wire : WireRequest) : DecidablePred wire.patient := fun size =>
  inferInstanceAs (Decidable (size < wire.head.length + 4 → size ≤ maxHeaderSize))

end WireRequest

/-! ### A head that is cut in front -/

/-- What the head of a request is read as. -/
theorem parseHead_some {unicode : UnicodeData} {block : Bytes} {request : HttpRequest}
    (parsed : parseHead unicode block = .ok (some request)) :
    ∃ line lines method path more, splitOn crlf (decodeText block) = line :: lines ∧
      splitAtMost [' '] 2 line = method :: path :: more ∧
      request.method = upperText unicode method ∧ request.path = path ∧
      request.headers = parseHeaders unicode lines := by
  rw [parseHead] at parsed
  split at parsed
  · cases parsed
  · rename_i line lines split_
    split at parsed
    · rename_i method path more parts
      obtain rfl := Option.some.inj (Except.ok.inj parsed)
      exact ⟨line, lines, method, path, more, split_, parts, rfl, rfl, rfl⟩
    · cases parsed

namespace WireRequest

variable (wire : WireRequest) (unicode : UnicodeData)

/-- Reading the body sets the body and nothing else. -/
theorem parseBody_returned {turns : Nat} {request returned : HttpRequest} {rest left : Bytes}
    (read : parseBody unicode turns request rest = .ok (some (returned, left))) :
    returned = { request with body := returned.body } := by
  rw [parseBody] at read
  split at read
  · split at read
    · cases read
    · cases read
    · obtain ⟨rfl, -⟩ := Prod.mk.inj (Option.some.inj (Except.ok.inj read))
      rfl
  · split at read
    · simp only at read
      split at read
      · cases read
      · obtain ⟨rfl, -⟩ := Prod.mk.inj (Option.some.inj (Except.ok.inj read))
        rfl
    · obtain ⟨rfl, -⟩ := Prod.mk.inj (Option.some.inj (Except.ok.inj read))
      rfl

end WireRequest

theorem tryParse_some {unicode : UnicodeData} {turns : Nat} {buffer left : Bytes}
    {request : HttpRequest} (parsed : tryParse unicode turns buffer = .ok (some request, left)) :
    ∃ block rest head, cutAt headEnd buffer = some (block, rest) ∧
      parseHead unicode block = .ok (some head) ∧
      parseBody unicode turns head rest = .ok (some (request, left)) := by
  rw [tryParse] at parsed
  split at parsed
  · split at parsed
    · cases parsed
    · cases parsed
  · rename_i block rest found
    split at parsed
    · cases parsed
    · cases parsed
    · rename_i head read
      split at parsed
      · cases parsed
      · cases parsed
      · rename_i returned after body
        obtain ⟨same, rfl⟩ := Prod.mk.inj (Except.ok.inj parsed)
        obtain rfl := Option.some.inj same
        exact ⟨block, rest, head, found, read, body⟩

theorem strip_strip (text : Text) : strip (strip text) = strip text :=
  stripBlanks_stripBlanks (fun _ blank => blank) text

/-- The values of headers are stripped. -/
theorem stripped_parseHeaders (unicode : UnicodeData) (lines : List Text) :
    Dict.All (fun _ value => strip value = value) (parseHeaders unicode lines) := by
  rw [parseHeaders]
  refine List.foldlRecOn lines (addHeader unicode) Dict.all_empty fun headers all line _ => ?_
  rw [addHeader]
  split
  · exact all
  · exact all.insert (strip_strip _)

def exampleGet : WireRequest where
  method := "GET".toList
  target := "/".toList
  fields := []
  body := []
  token := ⟨by decide, by decide⟩
  visible := by decide
  form := by decide
  uncoded := by decide
  framed := by decide
  unframed := by decide

end LocalNetwork
