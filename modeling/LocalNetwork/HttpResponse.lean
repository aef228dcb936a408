/-
This file models the way of a response through the proxy, `_read_upstream_response`, the
compression in `_forward_request` and `_send_response` of `proxy/connection.py`, and proves
for which responses the client gets what the server sent.

Reading takes a body out of its chunks, but the header that says so stays and is sent with
the plain body. Compressing replaces the header for the coding of the content and not the
coding itself. A head of more than 65536 bytes is refused by the stream it is read from, and
a length of more than 4300 digits by `int`. Everything else arrives.
-/

import LocalNetwork.HttpForward
import Mathlib.Data.List.Forall2

namespace LocalNetwork

/-! ### Streams -/

/-- The limit of a stream for what is read up to a separator. -/
def streamLimit : Nat := 65536

/-- `reader.readuntil`: up to the separator and what follows it; none where it raises. -/
def readUntil (separator data : Bytes) : Option (Bytes × Bytes) :=
  match cutAt separator data with
  | none => none
  | some (before, after) =>
    if streamLimit < before.length then none else some (before ++ separator, after)

/-- `reader.readline`: the rest of the stream is the last line. -/
def readLine (data : Bytes) : Option (Bytes × Bytes) :=
  match cutAt [10] data with
  | none => if streamLimit < data.length then none else some (data, [])
  | some (before, after) =>
    if streamLimit < before.length then none else some (before ++ [10], after)

/-- `reader.readexactly`. -/
def readExactly (count : Int) (data : Bytes) : Option (Bytes × Bytes) :=
  if 0 ≤ count ∧ count ≤ data.length then some (data.take count.toNat, data.drop count.toNat)
  else none

/-! ### Reading a response -/

structure HttpResponse where
  status : Int
  reason : Text
  headers : Dict Text Text
  body : Bytes

/-- `_read_chunked_body`: the body and what is left of the stream. What is no chunk size ends the
body; each turn uses up a line. -/
def readChunkedBody : Nat → Bytes → Bytes → Option (Bytes × Bytes)
  | 0, _, _ => none
  | turns + 1, data, result =>
    match readLine data with
    | none => none
    | some (line, rest) =>
      match parseHex line with
      | none => some (result, rest)
      | some chunkSize =>
        if chunkSize = 0 then (readLine rest).map fun trailing => (result, trailing.2)
        else
          match readExactly (chunkSize + 2) rest with
          | none => none
          | some (chunk, rest) =>
            readChunkedBody turns rest (result ++ pythonSlice chunk 0 (-2))

theorem length_of_readLine {data line rest : Bytes} (nonempty : data ≠ [])
    (read : readLine data = some (line, rest)) : rest.length < data.length := by
  rw [readLine] at read
  split at read
  · split at read
    · cases read
    · obtain ⟨-, rfl⟩ := Prod.mk.inj (Option.some.inj read)
      exact List.length_pos_iff.mpr nonempty
  · rename_i before after cut
    split at read
    · cases read
    · obtain ⟨-, rfl⟩ := Prod.mk.inj (Option.some.inj read)
      have sizes := length_of_cutAt cut
      rw [List.length_singleton] at sizes
      omega

theorem length_of_readExactly {count : Int} {data chunk rest : Bytes}
    (read : readExactly count data = some (chunk, rest)) : rest.length ≤ data.length := by
  rw [readExactly] at read
  split at read
  · obtain ⟨-, rfl⟩ := Prod.mk.inj (Option.some.inj read)
    rw [List.length_drop]
    omega
  · cases read

/-- The loop ends by itself: one turn more than there are bytes is enough. -/
theorem readChunkedBody_ends {first second : Nat} {data : Bytes} (result : Bytes)
    (enough : data.length < first) (alsoEnough : data.length < second) :
    readChunkedBody first data result = readChunkedBody second data result := by
  induction first generalizing second data result with
  | zero => exact absurd enough (Nat.not_lt_zero _)
  | succ first inductionHypothesis =>
    obtain ⟨second, rfl⟩ : ∃ less, second = less + 1 := ⟨second - 1, by omega⟩
    rw [readChunkedBody, readChunkedBody]
    by_cases empty : data = []
    · subst empty
      rfl
    cases read : readLine data with
    | none => rfl
    | some pair =>
      obtain ⟨line, rest⟩ := pair
      have shorter := length_of_readLine empty read
      simp only
      cases parseHex line with
      | none => rfl
      | some chunkSize =>
        by_cases last : chunkSize = 0
        · simp only [if_pos last]
        simp only [if_neg last]
        cases taken : readExactly (chunkSize + 2) rest with
        | none => rfl
        | some next =>
          have bound := length_of_readExactly taken
          exact inductionHypothesis _ (by omega) (by omega)

variable (unicode : UnicodeData)

/-- The body of a response, by its headers; none where reading it raises. -/
def readResponseBody (headers : Dict Text Text) (rest : Bytes) : Option Bytes :=
  match parseInt unicode ((headers.get? "content-length".toList).getD "0".toList) with
  | none => none
  | some length =>
    if 0 < length then (readExactly length rest).map Prod.fst
    else if lowerText unicode ((headers.get? "transfer-encoding".toList).getD []) =
        "chunked".toList then
      (readChunkedBody (rest.length + 1) rest []).map Prod.fst
    else some []

/-- `_read_upstream_response`. -/
def readUpstreamResponse (data : Bytes) : Option HttpResponse :=
  match readUntil headEnd data with
  | none => none
  | some (block, rest) =>
    let lines := splitOn crlf (decodeText block)
    let parts := splitAtMost [' '] 2 (lines.head?.getD [])
    let code := match parts with
      | _ :: code :: _ => parseInt unicode code
      | _ => some 200
    let reason := match parts with
      | _ :: _ :: reason :: _ => reason
      | _ => "OK".toList
    let headers := parseHeaders unicode lines.tail
    match code, readResponseBody unicode headers rest with
    | some status, some body => some ⟨status, reason, headers, body⟩
    | _, _ => none

/-! ### Compression -/

/-- `COMPRESSIBLE_TYPES`. -/
def compressibleTypes : List Text :=
  ["text/html", "text/css", "text/plain", "text/xml", "text/javascript",
    "application/javascript", "application/json", "application/xml", "application/xhtml+xml",
    "image/svg+xml"].map String.toList

/-- `GzipCompressor`, with the compressor of the library at each level. -/
structure GzipCompressor where
  level : Int
  minLength : Int
  gzip : Int → Bytes → Bytes

def shouldCompress (contentType acceptEncoding : Text) : Bool :=
  if acceptEncoding = [] ∨ cutAt "gzip".toList (lowerText unicode acceptEncoding) = none then false
  else if contentType ≠ [] ∧
      strip ((splitOn [';'] contentType).head?.getD []) ∉ compressibleTypes then false
  else true

def GzipCompressor.compress (compressor : GzipCompressor) (data : Bytes) : Bytes :=
  if data.length < compressor.minLength then data else compressor.gzip compressor.level data

/-- The codings that a request accepts. -/
def acceptedBy (request : HttpRequest) : Text :=
  (request.headers.get? "accept-encoding".toList).getD []

/-- The compression of a response in `_forward_request`. -/
def compressResponse (compressor : Option GzipCompressor) (enabled : Bool)
    (acceptEncoding : Text) (response : HttpResponse) : HttpResponse :=
  match compressor with
  | none => response
  | some compressor =>
    let contentType := (response.headers.get? "content-type".toList).getD []
    if enabled && shouldCompress unicode contentType acceptEncoding then
      let compressed := compressor.compress response.body
      if compressed.length < response.body.length then
        { response with
          body := compressed
          headers := (response.headers.insert "content-encoding".toList "gzip".toList).insert
            "content-length".toList (decimalText compressed.length) }
      else response
    else response

/-! ### Sending a response -/

/-- Set a header that is not there. -/
def setDefault (headers : Dict Text Text) (key value : Text) : Dict Text Text :=
  if headers.contains key then headers else headers.insert key value

/-- The headers of a response as they are sent. -/
def sentHeaders (response : HttpResponse) : Dict Text Text :=
  let headers := setDefault response.headers "content-length".toList
    (decimalText response.body.length)
  let headers := setDefault headers "server".toList "LocalNetworkProxy/0.1.0".toList
  setDefault headers "connection".toList "keep-alive".toList

/-- `_send_response`: the bytes that are written to the client. -/
def sendResponse (response : HttpResponse) : Bytes :=
  encodeText ("HTTP/1.1 ".toList ++ intText response.status ++ ' ' :: (response.reason ++ crlf)) ++
    encodeText (headerBlock (sentHeaders response)) ++ response.body

/-- The whole way of a response; none where reading it raises and nothing is sent. -/
def relayResponse (compressor : Option GzipCompressor) (enabled : Bool) (request : HttpRequest)
    (data : Bytes) : Option Bytes :=
  (readUpstreamResponse unicode data).map fun response =>
    sendResponse (compressResponse unicode compressor enabled (acceptedBy request) response)

/-! ### Heads of well-formed responses -/

theorem decodeText_intercalate (pieces : List Bytes) :
    decodeText (crlfBytes.intercalate pieces) = crlf.intercalate (pieces.map decodeText) := by
  induction pieces with
  | nil => rfl
  | cons piece pieces inductionHypothesis =>
    cases pieces with
    | nil => rw [List.intercalate_singleton, List.map_singleton, List.intercalate_singleton]
    | cons next pieces =>
      have second := fun rest => @decodeText_ascii [] rest 10 (by decide)
      rw [List.intercalate_cons_cons, List.map_cons, List.map_cons, List.intercalate_cons_cons,
        ← List.map_cons, ← inductionHypothesis, crlfBytes, List.append_assoc, List.cons_append,
        decodeText_ascii piece _ (by decide), List.append_assoc]
      exact congrArg (fun rest => decodeText piece ++ '\r' :: rest) (second _)

theorem mem_decodeText {data : Bytes} (member : 13 ∈ data) : '\r' ∈ decodeText data := by
  obtain ⟨before, after, rfl⟩ := List.append_of_mem member
  rw [decodeText_ascii before after (by decide)]
  exact List.mem_append_right _ (List.mem_cons_self ..)

/-- Lines with their ends, and an empty line, are joined lines and the end of a head. -/
theorem flatMap_crlf_eq (line : Bytes) (lines : List Bytes) (rest : Bytes) :
    (line :: lines).flatMap (· ++ crlfBytes) ++ (crlfBytes ++ rest) =
      crlfBytes.intercalate (line :: lines) ++ (headEnd ++ rest) := by
  induction lines generalizing line with
  | nil => simp [headEnd, crlfBytes]
  | cons next lines inductionHypothesis =>
    rw [List.flatMap_cons, List.append_assoc, inductionHypothesis next,
      List.intercalate_cons_cons]
    simp only [List.append_assoc]

theorem intercalate_headEnd (line : Bytes) (lines : List Bytes) :
    crlfBytes.intercalate (line :: (lines ++ [[], []])) =
      crlfBytes.intercalate (line :: lines) ++ headEnd := by
  rw [intercalate_cons_eq, intercalate_cons_eq, List.flatMap_append, List.append_assoc]
  rfl

theorem not_mem_of_readField {line : Text} {field : Text × Text}
    (read : readField line = some field) : '\r' ∉ line := by
  obtain ⟨name, value, rfl, token, plain, -⟩ := readField_some read
  rw [List.mem_append, List.mem_cons]
  rintro (inName | colon | inValue)
  · exact (not_mem_of_isToken token).1 inName
  · exact absurd colon (by decide)
  · exact absurd (plain _ inValue) (by decide)

/-- A head that is read line by line is found as a whole, and split into the same lines. -/
theorem cutAt_of_readHead {data rest : Bytes} {start : Text} {fields : List (Text × Text)}
    (read : readHead data = some (start, fields, rest)) (startPlain : '\r' ∉ start) :
    ∃ head lines, cutAt headEnd data = some (head, rest) ∧
      splitOn crlf (decodeText (head ++ headEnd)) = start :: (lines ++ [[], []]) ∧
      readFields lines = some fields := by
  obtain ⟨line, lines, readAll, rfl, readRest⟩ := readHead_some read
  obtain ⟨whole, nonempty⟩ := readLines_some readAll
  have fieldsPlain : ∀ other ∈ lines.map decodeText, '\r' ∉ other :=
    ((List.forall₂_and_left _ _).mp ((readFields_some readRest).imp fun _ _ readOne =>
      ⟨not_mem_of_readField readOne, readOne⟩)).1
  have plain : ∀ other ∈ line :: lines, other ≠ [] ∧ 13 ∉ other := by
    intro other member
    refine ⟨nonempty other member, fun byte => ?_⟩
    rcases List.mem_cons.mp member with rfl | later
    · exact startPlain (mem_decodeText byte)
    · exact fieldsPlain _ (List.mem_map_of_mem later) (mem_decodeText byte)
  refine ⟨crlfBytes.intercalate (line :: lines), lines.map decodeText, ?_, ?_, readRest⟩
  · rw [whole, flatMap_crlf_eq]
    exact cutAt_headEnd _ rest (List.cons_ne_nil _ _) plain
  · have absent : ∀ other ∈ (line :: (lines ++ [[], []])).map decodeText, ¬ crlf <:+: other := by
      intro other member inside
      have carriage : '\r' ∈ other := inside.subset (List.mem_cons_self ..)
      rw [List.map_cons, List.map_append, List.mem_cons, List.mem_append] at member
      rcases member with rfl | inFields | empty
      · exact startPlain carriage
      · exact fieldsPlain other inFields carriage
      · have blank : other = [] := by simpa [decodeText, decodeFrom] using empty
        rw [blank] at carriage
        cases carriage
    rw [← intercalate_headEnd, decodeText_intercalate]
    refine (splitOn_intercalate (by decide) _ (List.cons_ne_nil _ _) absent).trans ?_
    rw [List.map_append]
    rfl

/-! ### Headers of well-formed responses -/

/-- The headers as the proxy keeps them: the last of each name, stripped. -/
def headersRead (fields : List (Text × Text)) : Dict Text Text :=
  Dict.ofEntries (fields.map fun field => (field.1, strip field.2))

theorem addHeader_of_readField (headers : Dict Text Text) {line : Text} {field : Text × Text}
    (read : readField line = some field) :
    addHeader unicode headers line = headers.insert field.1 (strip field.2) := by
  obtain ⟨name, value, rfl, token, -, rfl⟩ := readField_some read
  have stripped : strip (stripBlanks isBlank value) = strip value := by
    refine stripBlanks_stripBlanks (fun char blank => ?_) value
    refine Bool.of_not_eq_false fun visible => ?_
    exact absurd blank (Bool.eq_false_iff.mp (isBlank_of_isPythonSpace visible))
  rw [addHeader, cutAt_symbol _ (not_mem_of_isToken token).2.1]
  simp only [strip_token token, lowerText_token unicode token, stripped]

theorem parseHeaders_of_readFields {lines : List Text} {fields : List (Text × Text)}
    (read : readFields lines = some fields) :
    parseHeaders unicode (lines ++ [[], []]) = headersRead fields := by
  have folded : ∀ headers, lines.foldl (addHeader unicode) headers =
      (fields.map fun field => (field.1, strip field.2)).foldl
        (fun headers entry => headers.insert entry.1 entry.2) headers := by
    have each := readFields_some read
    clear read
    induction each with
    | nil => exact fun headers => rfl
    | cons here _ inductionHypothesis =>
      intro headers
      rw [List.foldl_cons, addHeader_of_readField unicode headers here, List.map_cons,
        List.foldl_cons, inductionHypothesis]
  rw [parseHeaders, List.foldl_append, folded]
  rfl

theorem get?_headersRead (fields : List (Text × Text)) (name : Text) :
    (headersRead fields).get? name = (valuesOf name fields).getLast?.map strip := by
  rw [headersRead, Dict.get?_ofEntries, valuesOf, ← List.getLast?_map, List.filter_map,
    List.map_map, List.map_map]
  rfl

/-- A header that can be sent: well formed, with its name in small letters. -/
def isSendable (key value : Text) : Prop :=
  isField (key, value) ∧ ∀ char ∈ key, char.isUpper = false

theorem keepsLine_of_isSendable {key value : Text} (sendable : isSendable key value) :
    KeepsLine key value :=
  ⟨(not_mem_of_isToken sendable.1.1).2.1,
    fun inside => (not_mem_of_isToken sendable.1.1).1 (inside.subset (List.mem_cons_self ..)),
    not_crlf_of_isFieldText sendable.1.2, sendable.2⟩

theorem isSendable_of_readField {line : Text} {field : Text × Text}
    (read : readField line = some field) : isSendable field.1 (strip field.2) := by
  obtain ⟨name, value, -, token, plain, rfl⟩ := readField_some read
  have tokenChar : ∀ char, isTokenChar char = true → isTokenChar char.toLower = true :=
    fun char inside => @ascii_induction (fun char => isTokenChar char = true →
      isTokenChar char.toLower = true) (by decide +kernel) char (toNat_lt_of_isTokenChar inside)
        inside
  have small : ∀ char, isTokenChar char = true → char.toLower.isUpper = false :=
    fun char inside => @ascii_induction (fun char => char.toLower.isUpper = false) (by decide) char
      (toNat_lt_of_isTokenChar inside)
  refine ⟨⟨⟨fun empty => token.1 (List.map_eq_nil_iff.mp empty), fun char member => ?_⟩,
    fun char member => ?_⟩, fun char member => ?_⟩
  · obtain ⟨other, inside, rfl⟩ := List.mem_map.mp member
    exact tokenChar other (token.2 other inside)
  · exact plain char ((stripBlanks_inside isBlank value).subset
      ((stripBlanks_inside isPythonSpace _).subset member))
  · obtain ⟨other, inside, rfl⟩ := List.mem_map.mp member
    exact small other (token.2 other inside)

theorem isSendable_headersRead {lines : List Text} {fields : List (Text × Text)}
    (read : readFields lines = some fields) : Dict.All isSendable (headersRead fields) := by
  have each : ∀ field ∈ fields, isSendable field.1 (strip field.2) :=
    ((List.forall₂_and_left _ _).mp ((readFields_some read).flip.imp fun _ _ readOne =>
      ⟨isSendable_of_readField readOne, readOne⟩)).1
  rw [headersRead, Dict.ofEntries, List.foldl_map]
  exact List.foldlRecOn fields _ Dict.all_empty fun _ all field member =>
    all.insert (each field member)

/-! ### Reading well-formed responses -/

theorem readLength_some {text : Text} {length : Nat} (read : readLength text = some length) :
    (text ≠ [] ∧ ∀ char ∈ text, char.isDigit = true) ∧ Nat.ofDigitChars 10 text 0 = length := by
  rw [readLength] at read
  split at read
  · rename_i digits
    exact ⟨digits, Option.some.inj read⟩
  · cases read

/-- A length is read as it stands, unless it has more digits than `int` reads. -/
theorem parseInt_of_readLength {text : Text} {length : Nat}
    (read : readLength text = some length) :
    parseInt unicode text =
      if text.length ≤ maxStrDigits then some (length : Int) else none := by
  obtain ⟨⟨nonempty, digits⟩, rfl⟩ := readLength_some read
  by_cases short : text.length ≤ maxStrDigits
  · rw [if_pos short]
    exact parseInt_digits unicode nonempty digits short
  · rw [if_neg short]
    exact parseInt_long unicode digits (Nat.lt_of_not_le short)

/-- A body whose length is said, without a transfer coding. -/
theorem readBody_some {refuses : Bool} {fields : List (Text × Text)} {rest body left : Bytes}
    (uncoded : valuesOf "transfer-encoding".toList fields = [])
    (read : readBody refuses none fields rest = some (body, left)) :
    ∃ value, valuesOf "content-length".toList fields = [value] ∧
      readLength value = some body.length ∧ body = rest.take body.length ∧
      body.length ≤ rest.length := by
  rw [readBody, uncoded] at read
  simp only at read
  cases lengths : valuesOf "content-length".toList fields with
  | nil =>
    rw [lengths] at read
    cases read
  | cons value others =>
    cases others with
    | cons next others =>
      rw [lengths] at read
      cases read
    | nil =>
      rw [lengths, bodyLength] at read
      cases said : readLength value with
      | none =>
        rw [said] at read
        cases read
      | some length =>
        rw [said] at read
        simp only at read
        split at read
        · rename_i enough
          obtain ⟨rfl, -⟩ := Prod.mk.inj (Option.some.inj read)
          rw [List.length_take, Nat.min_eq_left enough]
          exact ⟨value, rfl, said, rfl, enough⟩
        · cases read

/-- The length of a body is written with no more digits than `int` reads. -/
def LengthReadable (fields : List (Text × Text)) : Prop :=
  ∀ value ∈ valuesOf "content-length".toList fields, value.length ≤ maxStrDigits

instance (fields : List (Text × Text)) : Decidable (LengthReadable fields) :=
  inferInstanceAs (Decidable (∀ value ∈ valuesOf "content-length".toList fields, _))

/-- The proxy reads a body whose length is said, if it can read the length. -/
theorem readResponseBody_eq {refuses : Bool} {fields : List (Text × Text)} {rest body left : Bytes}
    (uncoded : valuesOf "transfer-encoding".toList fields = [])
    (read : readBody refuses none fields rest = some (body, left)) :
    readResponseBody unicode (headersRead fields) rest =
      if LengthReadable fields then some body else none := by
  obtain ⟨value, lengths, said, whole, enough⟩ := readBody_some uncoded read
  have coding : (headersRead fields).get? "transfer-encoding".toList = none := by
    rw [get?_headersRead, uncoded]
    rfl
  have length : (headersRead fields).get? "content-length".toList = some value := by
    rw [get?_headersRead, lengths]
    exact congrArg some (strip_digits (readLength_some said).1.2)
  have readable : LengthReadable fields ↔ value.length ≤ maxStrDigits := by
    rw [LengthReadable, lengths, List.forall_mem_singleton]
  rw [readResponseBody, length, Option.getD_some, parseInt_of_readLength unicode said, coding]
  by_cases short : value.length ≤ maxStrDigits
  · rw [if_pos short, if_pos (readable.mpr short)]
    simp only
    by_cases empty : body.length = 0
    · rw [if_neg (by omega), if_neg]
      · rw [List.eq_nil_of_length_eq_zero empty]
      · exact fun same => nomatch same
    · rw [if_pos (by omega), readExactly, if_pos (by omega), Int.toNat_natCast, Option.map_some]
      exact congrArg some whole.symm
  · rw [if_neg short, if_neg fun claimed => short (readable.mp claimed)]

/-- A status is a length of three digits. -/
theorem readLength_of_readStatus {code : Text} {status : Nat}
    (read : readStatus code = some status) :
    readLength code = some status ∧ parseInt unicode code = some (status : Int) := by
  rw [readStatus] at read
  split at read
  · rename_i three
    refine ⟨read, ?_⟩
    rw [parseInt_of_readLength unicode read, if_pos (by rw [three]; decide)]
  · cases read

/-- The first line of a response has no carriage return. -/
theorem not_mem_of_statusLine {start version code reason : Text} {status : Nat}
    (parts : splitAtMost [' '] 2 start = [version, code, reason])
    (known : version = "HTTP/1.0".toList ∨ version = "HTTP/1.1".toList)
    (plain : isFieldText reason) (read : readLength code = some status) : '\r' ∉ start := by
  have joined := @intercalate_splitAtMost _ _ [' '] 2 start
  rw [parts, List.intercalate_cons_cons, List.intercalate_cons_cons,
    List.intercalate_singleton] at joined
  rw [← joined]
  simp only [List.mem_append, List.mem_singleton, not_or]
  refine ⟨⟨?_, by decide⟩, ⟨fun inside => ?_, by decide⟩, fun inside => ?_⟩
  · rcases known with rfl | rfl
    · decide
    · decide
  · exact absurd ((readLength_some read).1.2 _ inside) (by decide)
  · exact absurd (plain _ inside) (by decide)

/-- The proxy reads a well-formed response as it is, up to the body. -/
theorem readUpstreamResponse_eq {refuses : Bool} {data left : Bytes} {upstream : ResponseMessage}
    (read : readResponse refuses data = some (upstream, left)) :
    ∃ head rest reason lines, cutAt headEnd data = some (head, rest) ∧ isFieldText reason ∧
      readFields lines = some upstream.headers ∧
      readBody refuses none upstream.headers rest = some (upstream.body, left) ∧
      readUpstreamResponse unicode data =
        if streamLimit < head.length then none
        else (readResponseBody unicode (headersRead upstream.headers) rest).map fun body =>
          ⟨upstream.status, reason, headersRead upstream.headers, body⟩ := by
  obtain ⟨start, rest, version, code, reason, readAll, parts, known, plain, status, readRest⟩ :=
    readResponse_some read
  obtain ⟨code_, number⟩ := readLength_of_readStatus unicode status
  have startPlain := not_mem_of_statusLine parts known plain code_
  obtain ⟨head, lines, cut, pieces, readLines⟩ := cutAt_of_readHead readAll startPlain
  refine ⟨head, rest, reason, lines, cut, plain, readLines, readRest, ?_⟩
  rw [readUpstreamResponse, readUntil, cut]
  simp only
  by_cases long : streamLimit < head.length
  · rw [if_pos long, if_pos long]
  · rw [if_neg long, if_neg long]
    simp only [pieces, List.head?_cons, Option.getD_some, parts, List.tail_cons,
      parseHeaders_of_readFields unicode readLines, number]
    cases readResponseBody unicode (headersRead upstream.headers) rest with
    | none => rfl
    | some body => rfl

/-! ### What the client reads -/

theorem get?_setDefault (headers : Dict Text Text) (key value other : Text) :
    (setDefault headers key value).get? other =
      if other = key then some ((headers.get? key).getD value) else headers.get? other := by
  rw [setDefault, Dict.contains]
  cases stored : headers.get? key with
  | none =>
    rw [if_neg (by decide), Dict.get?_insert]
    rfl
  | some present =>
    rw [if_pos Option.isSome_some]
    by_cases same : other = key
    · rw [if_pos same, same, stored]
      rfl
    · rw [if_neg same]

theorem isSendable_setDefault {headers : Dict Text Text} (all : Dict.All isSendable headers)
    {key value : Text} (sendable : isSendable key value) :
    Dict.All isSendable (setDefault headers key value) := by
  rw [setDefault]
  split
  · exact all
  · exact all.insert sendable

theorem isSendable_sentHeaders {response : HttpResponse}
    (all : Dict.All isSendable response.headers) : Dict.All isSendable (sentHeaders response) := by
  have length : isToken "content-length".toList := by decide
  refine isSendable_setDefault (isSendable_setDefault (isSendable_setDefault all ?_) ?_) ?_
  · exact ⟨⟨length, isFieldText_decimalText _⟩, by decide⟩
  · exact ⟨by decide, by decide⟩
  · exact ⟨by decide, by decide⟩

theorem get?_sentHeaders_length (response : HttpResponse) :
    (sentHeaders response).get? "content-length".toList =
      some ((response.headers.get? "content-length".toList).getD
        (decimalText response.body.length)) := by
  rw [sentHeaders, get?_setDefault, if_neg (by decide), get?_setDefault, if_neg (by decide),
    get?_setDefault, if_pos rfl]

/-- The defaults leave the other headers as they are. -/
theorem get?_sentHeaders_of_ne (response : HttpResponse) {name : Text}
    (different : name ∉ ["content-length".toList, "server".toList, "connection".toList]) :
    (sentHeaders response).get? name = response.headers.get? name := by
  simp only [List.mem_cons, List.not_mem_nil, or_false, not_or] at different
  rw [sentHeaders, get?_setDefault, if_neg different.2.2, get?_setDefault, if_neg different.2.1,
    get?_setDefault, if_neg different.1]

def statusLine (version : Text) (response : HttpResponse) : Text :=
  version ++ ' ' :: (intText response.status ++ ' ' :: response.reason)

theorem readHead_sendResponse {response : HttpResponse}
    (all : Dict.All isSendable response.headers) (reason : isFieldText response.reason) :
    readHead (sendResponse response) =
      some (statusLine "HTTP/1.1".toList response, (sentHeaders response).entries.map fieldRead,
        response.body) := by
  have sent := isSendable_sentHeaders all
  have start : "HTTP/1.1 ".toList ++ intText response.status ++ ' ' :: (response.reason ++ crlf) =
      statusLine "HTTP/1.1".toList response ++ crlf := by
    rw [statusLine]
    simp
  have nonempty : statusLine "HTTP/1.1".toList response ≠ [] := by
    rw [statusLine, ne_eq, List.append_eq_nil_iff]
    exact fun empty => List.cons_ne_nil _ _ empty.2
  have code : ¬ crlf <:+: intText response.status ++ ' ' :: response.reason :=
    not_infix_append_cons (by decide) (by decide)
      (not_crlf_of_isFieldText (isFieldText_intText _)) (not_crlf_of_isFieldText reason)
  have plain : ¬ crlf <:+: statusLine "HTTP/1.1".toList response :=
    @not_infix_append_cons _ '\r' '\n' ' ' "HTTP/1.1".toList _ (by decide) (by decide) (by decide)
      code
  rw [sendResponse, start, readHead_headerBlock response.body nonempty plain
    (fun key value stored => keepsLine_of_isSendable (sent key value stored)),
    if_pos (Dict.all_iff.mp fun key value stored => (sent key value stored).1)]

theorem readLength_decimalText (length : Nat) : readLength (decimalText length) = some length := by
  rw [readLength, if_pos ⟨Nat.toDigits_ne_nil, fun char member =>
    isDigit_of_mem_decimalText member⟩, decimalText, Nat.ofDigitChars_ten_toDigits]

/-- A status of three digits. -/
theorem readStatus_intText {status : Nat} (low : 100 ≤ status) (high : status < 1000) :
    readStatus (intText status) = some status := by
  have most : (Nat.toDigits 10 status).length ≤ 3 :=
    (Nat.length_toDigits_le_iff (by decide) (by decide)).mpr high
  have least : ¬ (Nat.toDigits 10 status).length ≤ 2 := fun short =>
    absurd ((Nat.length_toDigits_le_iff (by decide) (by decide)).mp short) (by omega)
  change readStatus (decimalText status) = some status
  rw [readStatus, decimalText, if_pos (by omega)]
  exact readLength_decimalText status

theorem lt_of_readStatus {text : Text} {status : Nat} (read : readStatus text = some status) :
    status < 1000 := by
  rw [readStatus] at read
  split at read
  · rename_i three
    obtain ⟨⟨-, digits⟩, rfl⟩ := readLength_some read
    obtain ⟨first, second, third, rfl⟩ := List.length_eq_three.mp three
    have bound : ∀ char ∈ [first, second, third], char.toNat - 48 ≤ 9 := fun char member => by
      have digit := digits char member
      exact @ascii_induction (fun char => char.isDigit = true → char.toNat - 48 ≤ 9) (by decide)
        char (toNat_lt_of_isDigit digit) digit
    simp only [List.forall_mem_cons] at bound
    rw [Nat.ofDigitChars_cons, Nat.ofDigitChars_cons, Nat.ofDigitChars_cons, Nat.ofDigitChars_nil]
    have zero : '0'.toNat = 48 := rfl
    omega
  · cases read

/-- What is sent is read again, as far as its headers say. -/
theorem readResponse_sendResponse {response : HttpResponse} {status : Nat}
    (same : response.status = status) (low : 100 ≤ status) (high : status < 1000)
    (all : Dict.All isSendable response.headers) (reason : isFieldText response.reason)
    (refuses : Bool) :
    readResponse refuses (sendResponse response) =
      (readBody refuses none ((sentHeaders response).entries.map fieldRead) response.body).map
        fun result =>
          (⟨status, (sentHeaders response).entries.map fieldRead, result.1⟩, result.2) := by
  have blank : ' ' ∉ intText status := fun member =>
    absurd (isDigit_of_mem_decimalText member) (by decide)
  have parts : splitAtMost [' '] 2 (statusLine "HTTP/1.1".toList response) =
      ["HTTP/1.1".toList, intText status, response.reason] := by
    have version : ' ' ∉ "HTTP/1.1".toList := by decide
    rw [statusLine, same, splitAtMost_symbol _ _ version, splitAtMost_symbol _ _ blank, splitAtMost]
  rw [readResponse, readHead_sendResponse all reason]
  simp only [parts]
  rw [if_pos ⟨.inr trivial, reason⟩, readStatus_intText low high]
  cases readBody refuses none ((sentHeaders response).entries.map fieldRead) response.body with
  | none => rfl
  | some result => rfl

/-! ### The content of a response -/

/-- What the values of `Content-Encoding` stand for: lists of tokens, each undone by a decoder. -/
structure ContentDecoder where
  decode : Text → Bytes → Option Bytes
  named : ∀ value body entity, decode value body = some entity →
    ∀ char ∈ value, isTokenChar char = true ∨ char = ',' ∨ isBlank char = true

variable (decoder : ContentDecoder)

/-- The body without its codings; the last was applied last. -/
def decodeAll (values : List Text) (body : Bytes) : Option Bytes :=
  values.foldr (fun value rest => rest.bind (decoder.decode value)) (some body)

/-- The entity that a response carries. -/
def ResponseMessage.entity (message : ResponseMessage) : Option Bytes :=
  decodeAll decoder (valuesOf "content-encoding".toList message.headers) message.body

/-- The value that the proxy keeps of a header. -/
def ResponseMessage.kept (message : ResponseMessage) (name : Text) : Option Text :=
  (valuesOf name message.headers).getLast?.map strip

/-- The proxy sends the body compressed. -/
def Compresses (compressor : Option GzipCompressor) (enabled : Bool) (request : HttpRequest)
    (upstream : ResponseMessage) : Prop :=
  ∃ gzipper ∈ compressor, enabled = true ∧
    shouldCompress unicode ((upstream.kept "content-type".toList).getD []) (acceptedBy request) =
      true ∧
    (gzipper.compress upstream.body).length < upstream.body.length

/-- The responses that arrive: the head is within the limit, its length can be read, there is no
transfer coding, and the body is compressed only if its codings change nothing, and else the last
line of them says all. -/
structure ResponseArrives (compressor : Option GzipCompressor) (enabled : Bool)
    (request : HttpRequest) (data : Bytes) (upstream : ResponseMessage) : Prop where
  fits : ∀ head rest, cutAt headEnd data = some (head, rest) → head.length ≤ streamLimit
  readable : LengthReadable upstream.headers
  uncoded : valuesOf "transfer-encoding".toList upstream.headers = []
  compressed : Compresses unicode compressor enabled request upstream →
    upstream.entity decoder = some upstream.body
  plain : ¬ Compresses unicode compressor enabled request upstream →
    decodeAll decoder (valuesOf "content-encoding".toList upstream.headers).getLast?.toList
      upstream.body = upstream.entity decoder

/-- A value that can be decoded has no blank or other white space around it. -/
theorem strip_of_decode {value : Text} {body entity : Bytes}
    (decoded : decoder.decode value body = some entity)
    (trimmed : stripBlanks isBlank value = value) : strip value = value := by
  have first := head_stripBlanks isBlank value
  have last := getLast_stripBlanks isBlank value
  rw [trimmed] at first last
  have visible : ∀ char ∈ value, isBlank char = false → isPythonSpace char = false := by
    intro char member blank
    rcases decoder.named value body entity decoded char member with token | rfl | isBlank
    · exact (isTokenChar_plain token).2.2.2
    · decide
    · rw [isBlank] at blank
      cases blank
  exact stripBlanks_of_ends isPythonSpace
    (fun char head => visible char (List.mem_of_mem_head? head) (first char head))
    (fun char final => visible char (List.mem_of_mem_getLast? final) (last char final))

theorem foldr_decode_none (values : List Text) :
    values.foldr (fun value rest => rest.bind (decoder.decode value)) (none : Option Bytes) =
      none := by
  induction values with
  | nil => rfl
  | cons value values inductionHypothesis =>
    rw [List.foldr_cons, inductionHypothesis]
    rfl

/-- The last coding is undone first. -/
theorem decodeAll_last {values : List Text} {body entity : Bytes} {value : Text}
    (decoded : decodeAll decoder values body = some entity) (last : values.getLast? = some value) :
    ∃ rest, decoder.decode value body = some rest := by
  obtain ⟨before, rfl⟩ := List.getLast?_eq_some_iff.mp last
  rw [decodeAll, List.foldr_append, List.foldr_cons, List.foldr_nil, Option.bind_some] at decoded
  cases first : decoder.decode value body with
  | some rest => exact ⟨rest, rfl⟩
  | none =>
    rw [first, foldr_decode_none] at decoded
    cases decoded

theorem stripBlanks_of_readField {line : Text} {field : Text × Text}
    (read : readField line = some field) : stripBlanks isBlank field.2 = field.2 := by
  obtain ⟨name, value, -, -, -, rfl⟩ := readField_some read
  exact stripBlanks_stripBlanks (fun _ blank => blank) value

/-- The values of headers that were read have no blanks around them. -/
theorem stripBlanks_of_mem_valuesOf {lines : List Text} {fields : List (Text × Text)}
    (read : readFields lines = some fields) {name value : Text}
    (member : value ∈ valuesOf name fields) : stripBlanks isBlank value = value := by
  obtain ⟨field, inside, rfl⟩ := List.mem_map.mp member
  have each : ∀ field ∈ fields, stripBlanks isBlank field.2 = field.2 :=
    ((List.forall₂_and_left _ _).mp ((readFields_some read).flip.imp fun _ _ readOne =>
      ⟨stripBlanks_of_readField readOne, readOne⟩)).1
  exact each field (List.mem_filter.mp inside).1

/-! ### Compressing and sending -/

variable {unicode decoder} {compressor : Option GzipCompressor} {enabled : Bool}
  {acceptEncoding : Text}

/-- A response with its body compressed. -/
def withCompressed (response : HttpResponse) (compressed : Bytes) : HttpResponse :=
  { response with
    body := compressed
    headers := (response.headers.insert "content-encoding".toList "gzip".toList).insert
      "content-length".toList (decimalText compressed.length) }

/-- Compression does nothing, or replaces the body and the headers that describe it. -/
theorem compressResponse_cases (response : HttpResponse) :
    compressResponse unicode compressor enabled acceptEncoding response = response ∨
      ∃ compressed, compressResponse unicode compressor enabled acceptEncoding response =
        withCompressed response compressed := by
  cases compressor with
  | none => exact .inl rfl
  | some gzipper =>
    rw [compressResponse]
    simp only
    split
    · split
      · exact .inr ⟨_, rfl⟩
      · exact .inl rfl
    · exact .inl rfl

theorem isSendable_withCompressed {response : HttpResponse} {compressed : Bytes}
    (all : Dict.All isSendable response.headers) :
    Dict.All isSendable (withCompressed response compressed).headers := by
  have length : isToken "content-length".toList := by decide
  refine (all.insert ⟨by decide, by decide⟩).insert ?_
  exact ⟨⟨length, isFieldText_decimalText _⟩, by decide⟩

theorem isSendable_compressResponse {response : HttpResponse}
    (all : Dict.All isSendable response.headers) :
    Dict.All isSendable
      (compressResponse unicode compressor enabled acceptEncoding response).headers := by
  rcases @compressResponse_cases unicode compressor enabled acceptEncoding response with
    same | ⟨compressed, same⟩
  · rw [same]
    exact all
  · rw [same]
    exact isSendable_withCompressed all

/-- A header for a transfer coding is not touched. -/
theorem get?_compressResponse (response : HttpResponse) :
    (compressResponse unicode compressor enabled acceptEncoding response).headers.get?
      "transfer-encoding".toList = response.headers.get? "transfer-encoding".toList := by
  rcases @compressResponse_cases unicode compressor enabled acceptEncoding response with
    same | ⟨compressed, same⟩
  · rw [same]
  · rw [same, withCompressed]
    simp only
    rw [Dict.get?_insert_of_ne _ _ (by decide), Dict.get?_insert_of_ne _ _ (by decide)]

/-- A response with a transfer coding is sent with a length as well, and refused. -/
theorem readBody_refused {response : HttpResponse} (all : Dict.All isSendable response.headers)
    {coding : Text} (coded : response.headers.get? "transfer-encoding".toList = some coding)
    (body : Bytes) :
    readBody true none ((sentHeaders response).entries.map fieldRead) body = none := by
  have keeps : Dict.All KeepsLine (sentHeaders response) := fun key value stored =>
    keepsLine_of_isSendable (isSendable_sentHeaders all key value stored)
  rw [readBody, valuesOf_fieldRead keeps, valuesOf_fieldRead keeps,
    get?_sentHeaders_of_ne response (by decide), coded, get?_sentHeaders_length]
  rfl

/-- A response with a length that is right is read again, and its content is what the header for it
says. -/
theorem readBody_framed {response : HttpResponse} (all : Dict.All isSendable response.headers)
    (uncoded : response.headers.get? "transfer-encoding".toList = none) {length : Text}
    (said : response.headers.get? "content-length".toList = some length)
    (right : readLength length = some response.body.length) (refuses : Bool) :
    readBody refuses none ((sentHeaders response).entries.map fieldRead) response.body =
      some (response.body, []) := by
  have keeps : Dict.All KeepsLine (sentHeaders response) := fun key value stored =>
    keepsLine_of_isSendable (isSendable_sentHeaders all key value stored)
  have none : valuesOf "transfer-encoding".toList
      ((sentHeaders response).entries.map fieldRead) = [] := by
    rw [valuesOf_fieldRead keeps, get?_sentHeaders_of_ne response (by decide), uncoded]
    rfl
  rw [readBody_iff none, valuesOf_fieldRead keeps, get?_sentHeaders_length, said]
  rw [Option.getD_some, Option.map_some,
    stripBlanks_of_strip (strip_digits (readLength_some right).1.2)]
  exact right

theorem valuesOf_coding {response : HttpResponse} (all : Dict.All isSendable response.headers) :
    valuesOf "content-encoding".toList ((sentHeaders response).entries.map fieldRead) =
      ((response.headers.get? "content-encoding".toList).map (stripBlanks isBlank)).toList := by
  rw [valuesOf_fieldRead fun key value stored =>
    keepsLine_of_isSendable (isSendable_sentHeaders all key value stored),
    get?_sentHeaders_of_ne response (by decide)]

variable {request : HttpRequest} {upstream : ResponseMessage} {response : HttpResponse}

theorem compressResponse_of_compresses
    (type : response.headers.get? "content-type".toList = upstream.kept "content-type".toList)
    (body : response.body = upstream.body)
    (compresses : Compresses unicode compressor enabled request upstream) :
    ∃ gzipper ∈ compressor,
      compressResponse unicode compressor enabled (acceptedBy request) response =
        withCompressed response (gzipper.gzip gzipper.level upstream.body) := by
  obtain ⟨gzipper, present, isEnabled, should, shorter⟩ := compresses
  obtain rfl := Option.mem_def.mp present
  have long : gzipper.compress upstream.body = gzipper.gzip gzipper.level upstream.body := by
    refine if_neg fun short => ?_
    rw [GzipCompressor.compress, if_pos short] at shorter
    omega
  refine ⟨gzipper, rfl, ?_⟩
  rw [compressResponse, type, body]
  simp only
  rw [isEnabled, should, Bool.and_self, if_pos rfl, if_pos shorter, long]
  rfl

theorem compressResponse_of_not
    (type : response.headers.get? "content-type".toList = upstream.kept "content-type".toList)
    (body : response.body = upstream.body)
    (plain : ¬ Compresses unicode compressor enabled request upstream) :
    compressResponse unicode compressor enabled (acceptedBy request) response = response := by
  cases compressor with
  | none => rfl
  | some gzipper =>
    rw [compressResponse, type, body]
    simp only
    split
    · rename_i should
      rw [Bool.and_eq_true] at should
      exact if_neg fun shorter => plain ⟨gzipper, rfl, should.1, should.2, shorter⟩
    · rfl

/-! ### Responses that arrive -/

/-- A response with a length that is right is read again, with the content that its header for the
coding says. -/
theorem readResponse_framed {status : Nat} (same : response.status = status) (low : 100 ≤ status)
    (high : status < 1000) (all : Dict.All isSendable response.headers)
    (reason : isFieldText response.reason)
    (uncoded : response.headers.get? "transfer-encoding".toList = none) {length : Text}
    (said : response.headers.get? "content-length".toList = some length)
    (right : readLength length = some response.body.length) :
    ∃ client : ResponseMessage,
      (∀ refuses, readResponse refuses (sendResponse response) = some (client, [])) ∧
      client.status = status ∧
      client.entity decoder = decodeAll decoder ((response.headers.get?
        "content-encoding".toList).map (stripBlanks isBlank)).toList response.body := by
  refine ⟨⟨status, (sentHeaders response).entries.map fieldRead, response.body⟩, fun refuses => ?_,
    rfl, ?_⟩
  · rw [readResponse_sendResponse same low high all reason,
      readBody_framed all uncoded said right refuses]
    rfl
  · rw [ResponseMessage.entity, valuesOf_coding all]

/-- The response that the proxy reads from one that is not chunked. -/
def responseRead (upstream : ResponseMessage) (reason : Text) : HttpResponse :=
  ⟨upstream.status, reason, headersRead upstream.headers, upstream.body⟩

/-- What the client reads of a response whose length is said: the body compressed, and then nothing
of the codings it had, or the body as it was with the last line of its codings. -/
theorem readResponse_relayed {data : Bytes} {lines : List Text} {reason : Text}
    (inverse : ∀ gzipper ∈ compressor, ∀ data,
      decoder.decode "gzip".toList (gzipper.gzip gzipper.level data) = some data)
    (low : 100 ≤ upstream.status) (high : upstream.status < 1000) (plain : isFieldText reason)
    (fields : readFields lines = some upstream.headers)
    (uncoded : valuesOf "transfer-encoding".toList upstream.headers = [])
    (body : readBody true none upstream.headers data = some (upstream.body, []))
    {entity : Bytes} (decodes : upstream.entity decoder = some entity) :
    ∃ client : ResponseMessage,
      (∀ refuses, readResponse refuses (sendResponse (compressResponse unicode compressor enabled
        (acceptedBy request) (responseRead upstream reason))) = some (client, [])) ∧
      client.status = upstream.status ∧
      (Compresses unicode compressor enabled request upstream →
        client.entity decoder = some upstream.body) ∧
      (¬ Compresses unicode compressor enabled request upstream →
        client.entity decoder = decodeAll decoder
          (valuesOf "content-encoding".toList upstream.headers).getLast?.toList upstream.body) := by
  obtain ⟨value, lengths, said, -, -⟩ := readBody_some uncoded body
  have all : Dict.All isSendable (responseRead upstream reason).headers :=
    isSendable_headersRead fields
  have noCoding : (responseRead upstream reason).headers.get? "transfer-encoding".toList = none := by
    rw [responseRead, get?_headersRead, uncoded]
    rfl
  have type : (responseRead upstream reason).headers.get? "content-type".toList =
      upstream.kept "content-type".toList := get?_headersRead _ _
  by_cases compresses : Compresses unicode compressor enabled request upstream
  · obtain ⟨gzipper, present, same⟩ := compressResponse_of_compresses type rfl compresses
    have length := readLength_decimalText (gzipper.gzip gzipper.level upstream.body).length
    obtain ⟨client, read, status, content⟩ := @readResponse_framed decoder
      (withCompressed (responseRead upstream reason) (gzipper.gzip gzipper.level upstream.body))
      upstream.status rfl low high (isSendable_withCompressed all) plain
      ((Dict.get?_insert_of_ne _ _ (by decide)).trans
        ((Dict.get?_insert_of_ne _ _ (by decide)).trans noCoding))
      _ (Dict.get?_insert_self _ _ _) length
    rw [same]
    refine ⟨client, read, status, fun _ => ?_, fun plain => absurd compresses plain⟩
    rw [content, withCompressed]
    simp only
    rw [Dict.get?_insert_of_ne _ _ (by decide), Dict.get?_insert_self, Option.map_some]
    exact inverse gzipper present upstream.body
  · have length : (responseRead upstream reason).headers.get? "content-length".toList =
        some value := by
      rw [responseRead, get?_headersRead, lengths]
      exact congrArg some (strip_digits (readLength_some said).1.2)
    obtain ⟨client, read, status, content⟩ := @readResponse_framed decoder
      (responseRead upstream reason) upstream.status rfl low high all plain noCoding _ length said
    rw [compressResponse_of_not type rfl compresses]
    refine ⟨client, read, status, fun applied => absurd applied compresses, fun _ => ?_⟩
    rw [content, responseRead]
    simp only
    rw [get?_headersRead]
    cases last : (valuesOf "content-encoding".toList upstream.headers).getLast? with
    | none => rfl
    | some coding =>
      have trimmed := stripBlanks_of_mem_valuesOf fields (List.mem_of_getLast? last)
      obtain ⟨rest, decoded⟩ := decodeAll_last decoder decodes last
      rw [Option.map_some, Option.map_some, strip_of_decode decoder decoded trimmed, trimmed]

/-- A response with a transfer coding does not arrive. -/
theorem readResponse_coded {lines : List Text} {reason : Text} {body : Bytes}
    (low : 100 ≤ upstream.status) (high : upstream.status < 1000) (plain : isFieldText reason)
    (fields : readFields lines = some upstream.headers)
    (coded : valuesOf "transfer-encoding".toList upstream.headers ≠ []) :
    readResponse true (sendResponse (compressResponse unicode compressor enabled acceptEncoding
      ⟨upstream.status, reason, headersRead upstream.headers, body⟩)) = none := by
  have all := isSendable_headersRead fields
  obtain ⟨coding, last⟩ := Option.ne_none_iff_exists'.mp
    fun none => coded (List.getLast?_eq_none_iff.mp none)
  have status : (compressResponse unicode compressor enabled acceptEncoding
      ⟨upstream.status, reason, headersRead upstream.headers, body⟩).status = upstream.status ∧
      (compressResponse unicode compressor enabled acceptEncoding
        ⟨upstream.status, reason, headersRead upstream.headers, body⟩).reason = reason := by
    rcases @compressResponse_cases unicode compressor enabled acceptEncoding
      ⟨upstream.status, reason, headersRead upstream.headers, body⟩ with same | ⟨compressed, same⟩
    · rw [same]
      exact ⟨rfl, rfl⟩
    · rw [same]
      exact ⟨rfl, rfl⟩
  have sendable := @isSendable_compressResponse unicode compressor enabled acceptEncoding
    ⟨upstream.status, reason, headersRead upstream.headers, body⟩ all
  have stored : (headersRead upstream.headers).get? "transfer-encoding".toList =
      some (strip coding) := by
    rw [get?_headersRead, last, Option.map_some]
  rw [readResponse_sendResponse status.1 low high sendable (status.2.symm ▸ plain),
    readBody_refused sendable ((get?_compressResponse _).trans stored)]
  rfl

/-- A well-formed response arrives at the client with its status and its entity if and only if its
head is within the limit, its length can be read, it is not chunked, and either it is sent
compressed and its own codings left the body as it was, or it is not and the last line of its
codings says all of them. -/
theorem response_fidelity (unicode : UnicodeData) (decoder : ContentDecoder)
    (compressor : Option GzipCompressor)
    (inverse : ∀ gzipper ∈ compressor, ∀ data,
      decoder.decode "gzip".toList (gzipper.gzip gzipper.level data) = some data)
    (enabled : Bool) (request : HttpRequest) (data : Bytes) (upstream : ResponseMessage)
    (wellFormed : ∀ refuses, readResponse refuses data = some (upstream, []))
    (allowsBody : 200 ≤ upstream.status ∧ upstream.status ≠ 204 ∧ upstream.status ≠ 304)
    (entity : Bytes) (decodes : upstream.entity decoder = some entity) :
    (∃ sent, relayResponse unicode compressor enabled request data = some sent ∧
      ∀ refuses, ∃ client, readResponse refuses sent = some (client, []) ∧
        client.status = upstream.status ∧ client.entity decoder = some entity) ↔
    ResponseArrives unicode decoder compressor enabled request data upstream := by
  obtain ⟨head, rest, reason, lines, cut, plain, fields, body, readEq⟩ :=
    readUpstreamResponse_eq unicode (wellFormed true)
  obtain ⟨_, _, _, _, _, -, -, -, -, code, -⟩ := readResponse_some (wellFormed true)
  have high := lt_of_readStatus code
  have low : 100 ≤ upstream.status := by omega
  constructor
  · rintro ⟨sent, relayed, arrived⟩
    rw [relayResponse, readEq] at relayed
    by_cases long : streamLimit < head.length
    · rw [if_pos long] at relayed
      cases relayed
    rw [if_neg long] at relayed
    by_cases uncoded : valuesOf "transfer-encoding".toList upstream.headers = []
    · rw [readResponseBody_eq unicode uncoded body] at relayed
      by_cases readable : LengthReadable upstream.headers
      rotate_left
      · rw [if_neg readable] at relayed
        cases relayed
      rw [if_pos readable] at relayed
      obtain rfl := Option.some.inj relayed
      obtain ⟨client, read, -, compressed, kept⟩ := @readResponse_relayed unicode decoder compressor
        enabled request upstream rest lines reason inverse low high plain fields uncoded body entity
        decodes
      obtain ⟨other, readOther, -, content⟩ := arrived true
      obtain rfl : client = other :=
        (Prod.mk.inj (Option.some.inj ((read true).symm.trans readOther))).1
      refine ⟨fun first after found => ?_, readable, uncoded, fun compresses => ?_,
        fun plain => ?_⟩
      · obtain ⟨rfl, -⟩ := Prod.mk.inj (Option.some.inj (cut.symm.trans found))
        exact Nat.le_of_not_lt long
      · rw [decodes, ← content]
        exact compressed compresses
      · rw [← kept plain, decodes]
        exact content
    · obtain ⟨response, readBody, rfl⟩ := Option.map_eq_some_iff.mp relayed
      obtain ⟨whole, -, rfl⟩ := Option.map_eq_some_iff.mp readBody
      obtain ⟨client, read, -⟩ := arrived true
      rw [readResponse_coded low high plain fields uncoded] at read
      cases read
  · rintro ⟨fits, readable, uncoded, compressed, kept⟩
    obtain ⟨client, read, status, whenCompressed, whenPlain⟩ := @readResponse_relayed unicode decoder
      compressor enabled request upstream rest lines reason inverse low high plain fields uncoded body
      entity decodes
    refine ⟨_, ?_, fun refuses => ⟨client, read refuses, status, ?_⟩⟩
    · rw [relayResponse, readEq, if_neg (Nat.not_lt.mpr (fits head rest cut)),
        readResponseBody_eq unicode uncoded body, if_pos readable]
      rfl
    · by_cases compresses : Compresses unicode compressor enabled request upstream
      · rw [whenCompressed compresses, ← compressed compresses, decodes]
      · rw [whenPlain compresses, kept compresses, decodes]

/-- A client that knows no codings. -/
def noCodings : ContentDecoder where
  decode _ _ := none
  named _ _ _ decoded := nomatch decoded

def exampleFound : Bytes :=
  encodeText "HTTP/1.1 200 OK\r\nContent-Type: text/plain\r\nContent-Length: 5\r\n\r\nhello".toList

def exampleFoundRead : ResponseMessage where
  status := 200
  headers := [("content-type".toList, "text/plain".toList), ("content-length".toList, "5".toList)]
  body := encodeText "hello".toList

theorem response_fidelity_found :
    ∃ sent, relayResponse plainUnicode none true exampleGet.request exampleFound = some sent ∧
      ∀ refuses, ∃ client, readResponse refuses sent = some (client, []) ∧
        client.status = 200 ∧ client.entity noCodings = some (encodeText "hello".toList) := by
  have read : ∀ refuses, readResponse refuses exampleFound = some (exampleFoundRead, []) := by
    decide +kernel
  have short : (cutAt headEnd exampleFound).all fun cut => cut.1.length ≤ streamLimit := by
    decide +kernel
  refine (response_fidelity plainUnicode noCodings none (fun _ present => nomatch present) true
    exampleGet.request exampleFound exampleFoundRead read (by decide) _ rfl).mpr
    ⟨fun head rest cut => ?_, by decide, by decide, fun ⟨_, present, _⟩ => (nomatch present),
      fun _ => rfl⟩
  rw [cut] at short
  exact of_decide_eq_true short

def exampleChunks : Bytes :=
  encodeText "HTTP/1.1 200 OK\r\nTransfer-Encoding: chunked\r\n\r\n5\r\nhello\r\n0\r\n\r\n".toList

/-- A chunked response is sent as one body, still with the header that says it is chunked. -/
theorem response_loses_chunks :
    ∃ upstream, (∀ refuses, readResponse refuses exampleChunks = some (upstream, [])) ∧
      upstream.status = 200 ∧ upstream.entity noCodings = some (encodeText "hello".toList) ∧
      ¬ ∃ sent, relayResponse plainUnicode none true exampleGet.request exampleChunks = some sent ∧
        ∃ refuses client, readResponse refuses sent = some (client, []) ∧
          client.status = 200 ∧ client.entity noCodings = some (encodeText "hello".toList) := by
  refine ⟨⟨200, [("transfer-encoding".toList, "chunked".toList)], encodeText "hello".toList⟩,
    by decide +kernel, rfl, rfl, ?_⟩
  have refused : ∀ refuses, (relayResponse plainUnicode none true exampleGet.request
      exampleChunks).bind (fun sent => readResponse refuses sent) = none := by decide +kernel
  rintro ⟨sent, relayed, refuses, client, read, -⟩
  have nothing := refused refuses
  rw [relayed, Option.bind_some, read] at nothing
  cases nothing

end LocalNetwork
