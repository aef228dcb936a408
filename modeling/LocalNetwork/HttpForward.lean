/-
This file models how `_forward_request` of `proxy/connection.py` writes a request to an
upstream server, and proves when the server reads the request that was parsed.

The headers are those of the client, without the ones for a single connection. The
transfer coding is among those, and the body was taken out of its chunks before, but no
length is written in their place: what the server reads is right if and only if the length
that the client gave, or none, is the length of the body. The parser is also more liberal
than a server has to be, and passes on what it accepts.
-/

import LocalNetwork.HttpStream

namespace LocalNetwork

/-! ### The request that is written -/

/-- `HOP_BY_HOP`: the headers that are not forwarded. -/
def hopByHop : List Text :=
  ["connection", "keep-alive", "proxy-authenticate", "proxy-authorization", "te", "trailer",
    "transfer-encoding", "upgrade"].map String.toList

/-- One end of an open connection. -/
structure Endpoint where
  host : Text
  port : Int
  plain : isFieldText host

/-- The headers for the server. -/
def forwardedHeaders (request : HttpRequest) (server : Endpoint) : Dict Text Text :=
  let headers := request.headers.insert "host".toList (server.host ++ ':' :: intText server.port)
  let headers := headers.insert "x-real-ip".toList request.clientIp
  let existing := (headers.get? "x-forwarded-for".toList).getD []
  let headers := headers.insert "x-forwarded-for".toList
    (if existing ≠ [] then existing ++ ',' :: ' ' :: request.clientIp else request.clientIp)
  hopByHop.foldl Dict.erase headers

/-- Header lines, and the empty line after them. -/
def headerBlock (headers : Dict Text Text) : Text :=
  (headers.entries.flatMap fun entry => entry.1 ++ ':' :: ' ' :: (entry.2 ++ crlf)) ++ crlf

/-- What `_forward_request` writes to the server. -/
def forwardRequest (request : HttpRequest) (server : Endpoint) : Bytes :=
  encodeText (request.method ++ ' ' :: (request.path ++ " HTTP/1.1\r\n".toList)) ++
    encodeText (headerBlock (forwardedHeaders request server)) ++ request.body

/-- `_read_request`: the parsed request gets the address of the client. -/
def HttpRequest.ofClient (request : HttpRequest) (client : Endpoint) : HttpRequest :=
  { request with clientIp := client.host }

/-! ### What the parser returns -/

/-- A header that stays on its line, with its name before the first colon and in small letters. -/
structure KeepsLine (key value : Text) : Prop where
  colon : ':' ∉ key
  keyLine : ¬ crlf <:+: key
  valueLine : ¬ crlf <:+: value
  small : ∀ char ∈ key, char.isUpper = false

/-- The parts of a request line stay apart, and so do the headers. -/
structure KeepsLines (request : HttpRequest) : Prop where
  methodBlank : ' ' ∉ request.method
  methodLine : ¬ crlf <:+: request.method
  pathBlank : ' ' ∉ request.path
  pathLine : ¬ crlf <:+: request.path
  headers : Dict.All KeepsLine request.headers

variable (unicode : UnicodeData)

theorem keepsLine_addHeader {headers : Dict Text Text} (all : Dict.All KeepsLine headers)
    {line : Text} (absent : ¬ crlf <:+: line) :
    Dict.All KeepsLine (addHeader unicode headers line) := by
  rw [addHeader]
  split
  · exact all
  · rename_i key value found
    have split := (cutAt_some found).1
    have inKey : strip key <:+: line := by
      refine (strip_eq key ▸ stripBlanks_inside isPythonSpace key).trans ?_
      exact split ▸ (List.prefix_append ..).isInfix
    have inValue : strip value <:+: line := by
      refine (strip_eq value ▸ stripBlanks_inside isPythonSpace value).trans ?_
      rw [split]
      exact ((List.suffix_append [':'] value).trans (List.suffix_append _ _)).isInfix
    refine all.insert ⟨fun member => ?_, fun inside => absent ?_, fun inside => absent ?_, ?_⟩
    · have inName := mem_of_mem_mapChars (keepsChar_lower unicode (by decide) (by decide)) member
      have nothing := not_infix_of_cutAt (List.cons_ne_nil ':' []) found
      rw [List.singleton_infix_iff] at nothing
      exact nothing ((stripBlanks_inside isPythonSpace key).subset inName)
    · exact (infix_of_infix_mapChars (keepsChar_lower unicode (by decide) (by decide))
        (keepsChar_lower unicode (by decide) (by decide)) inside).trans inKey
    · exact inside.trans inValue
    · exact fun char member => isUpper_of_mem_lowerText unicode member

theorem keepsLine_parseHeaders {lines : List Text} (absent : ∀ line ∈ lines, ¬ crlf <:+: line) :
    Dict.All KeepsLine (parseHeaders unicode lines) :=
  List.foldlRecOn lines (addHeader unicode) Dict.all_empty fun _ all line member =>
    keepsLine_addHeader unicode all (absent line member)

theorem keepsLines_of_feed {turns : Nat} {buffer data left : Bytes} {request : HttpRequest}
    (fed : feed unicode turns buffer data = .ok (some request, left)) : KeepsLines request := by
  obtain ⟨block, rest, head, -, readHead, readBody⟩ := tryParse_some fed
  obtain ⟨line, lines, method, path, more, pieces, parts, sameMethod, samePath, sameHeaders⟩ :=
    parseHead_some readHead
  have absent : ∀ other ∈ line :: lines, ¬ crlf <:+: other := fun other member =>
    not_infix_of_mem_splitOn (List.cons_ne_nil _ _) (pieces.symm ▸ member)
  obtain ⟨⟨methodBlank, inMethod⟩, pathBlank, inPath⟩ := splitAtMost_two parts
  have ofLine := absent line (List.mem_cons_self ..)
  rw [WireRequest.parseBody_returned unicode readBody]
  constructor
  · simp only [sameMethod]
    exact fun member => methodBlank
      (mem_of_mem_mapChars (keepsChar_upper unicode (by decide) (by decide)) member)
  · simp only [sameMethod]
    exact fun inside => ofLine ((infix_of_infix_mapChars
      (keepsChar_upper unicode (by decide) (by decide))
      (keepsChar_upper unicode (by decide) (by decide)) inside).trans inMethod)
  · simp only [samePath]
    exact pathBlank
  · simp only [samePath]
    exact fun inside => ofLine (inside.trans inPath)
  · simp only [sameHeaders]
    exact keepsLine_parseHeaders unicode fun other member =>
      absent other (List.mem_cons_of_mem _ member)

/-! ### Headers that were written -/

theorem isBlank_of_isPythonSpace {char : Char} (visible : isPythonSpace char = false) :
    isBlank char = false := by
  refine Bool.eq_false_iff.mpr fun blank => ?_
  rw [isBlank, Bool.or_eq_true, decide_eq_true_eq, decide_eq_true_eq] at blank
  rcases blank with rfl | rfl
  · cases visible
  · cases visible

/-- What Python has stripped, no blank is left around. -/
theorem stripBlanks_of_strip {text : Text} (stripped : strip text = text) :
    stripBlanks isBlank text = text := by
  have first := head_stripBlanks isPythonSpace text
  have last := getLast_stripBlanks isPythonSpace text
  rw [← strip_eq, stripped] at first last
  exact stripBlanks_of_ends isBlank (fun char head => isBlank_of_isPythonSpace (first char head))
    (fun char final => isBlank_of_isPythonSpace (last char final))

theorem map_toLower_of_small {key : Text} (small : ∀ char ∈ key, char.isUpper = false) :
    key.map Char.toLower = key := by
  have same : ∀ char ∈ key, char.toLower = id char := by
    intro char member
    exact dif_neg (of_decide_eq_false (small char member))
  rw [List.map_congr_left same, List.map_id]

theorem headerBlock_eq (headers : Dict Text Text) :
    headerBlock headers = writeLines (headers.entries.map writeField) := by
  rw [headerBlock, writeLines, List.flatMap_map]
  congr 2
  funext entry
  rw [writeField]
  simp

theorem writeLines_cons (line : Text) (lines : List Text) :
    writeLines (line :: lines) = line ++ (crlf ++ writeLines lines) := by
  simp [writeLines]

theorem writeField_line {field : Text × Text} (name : ¬ crlf <:+: field.1)
    (value : ¬ crlf <:+: field.2) : writeField field ≠ [] ∧ ¬ crlf <:+: writeField field := by
  refine ⟨fun empty => ?_, ?_⟩
  · cases (List.append_eq_nil_iff.mp empty).2
  · refine not_infix_append_cons (by decide) (by decide) name ?_
    exact @not_infix_append_cons _ '\r' '\n' ' ' [] field.2 (by decide) (by decide) (by decide)
      value

/-- A header that stays on its line is a line. -/
theorem KeepsLine.writeField_plain {entry : Text × Text} (keeps : KeepsLine entry.1 entry.2) :
    writeField entry ≠ [] ∧ ¬ crlf <:+: writeField entry :=
  writeField_line keeps.keyLine keeps.valueLine

/-- A start line and headers that stay on their lines are read again. -/
theorem readHead_headerBlock {start : Text} {headers : Dict Text Text} (body : Bytes)
    (startNonempty : start ≠ []) (startLine : ¬ crlf <:+: start)
    (keeps : Dict.All KeepsLine headers) :
    readHead (encodeText (start ++ crlf) ++ encodeText (headerBlock headers) ++ body) =
      if ∀ entry ∈ headers.entries, isField entry then
        some (start, headers.entries.map fieldRead, body)
      else none := by
  have entryKeeps := Dict.all_iff.mp keeps
  have plain : ∀ line ∈ start :: headers.entries.map writeField, line ≠ [] ∧ ¬ crlf <:+: line := by
    intro line member
    rcases List.mem_cons.mp member with rfl | member
    · exact ⟨startNonempty, startLine⟩
    · obtain ⟨entry, inside, rfl⟩ := List.mem_map.mp member
      exact (entryKeeps entry inside).writeField_plain
  rw [← encodeText_append, headerBlock_eq, List.append_assoc, ← writeLines_cons,
    readHead_writeLines start _ body plain,
    readFields_write fun entry member => (entryKeeps entry member).colon]
  split
  · rfl
  · rfl

/-- The values of a name among headers that were read: there is at most one. -/
theorem valuesOf_fieldRead {headers : Dict Text Text} (keeps : Dict.All KeepsLine headers)
    (name : Text) :
    valuesOf name (headers.entries.map fieldRead) =
      ((headers.get? name).map (stripBlanks isBlank)).toList := by
  have names : ∀ entry ∈ headers.entries,
      decide ((fieldRead entry).1 = name) = decide (entry.1 = name) := by
    intro entry member
    rw [fieldRead, map_toLower_of_small (Dict.all_iff.mp keeps entry member).small]
  have filtered : headers.entries.filter ((fun field => decide (field.1 = name)) ∘ fieldRead) =
      headers.entries.filter fun entry => decide (entry.1 = name) := List.filter_congr names
  have values := headers.filter_key name
  rw [valuesOf, List.filter_map, filtered, List.map_map]
  cases stored : headers.get? name with
  | none =>
    rw [stored, Option.toList_none, List.map_eq_nil_iff] at values
    rw [values]
    rfl
  | some value =>
    rw [stored, Option.toList_some] at values
    obtain ⟨entry, single, rfl⟩ := List.map_eq_singleton_iff.mp values
    rw [single]
    rfl

/-! ### The forwarded headers -/

theorem isFieldText_append {first second : Text} :
    isFieldText (first ++ second) ↔ isFieldText first ∧ isFieldText second :=
  List.forall_mem_append

theorem isFieldText_cons {char : Char} {text : Text} :
    isFieldText (char :: text) ↔ isFieldChar char = true ∧ isFieldText text :=
  List.forall_mem_cons

theorem isFieldText_decimalText (number : Nat) : isFieldText (decimalText number) := by
  intro char member
  have digit := isDigit_of_mem_decimalText member
  exact @ascii_induction (fun char => char.isDigit = true → isFieldChar char = true) (by decide)
    char (toNat_lt_of_isDigit digit) digit

theorem isFieldText_intText (number : Int) : isFieldText (intText number) := by
  cases number with
  | ofNat number => exact isFieldText_decimalText number
  | negSucc number =>
    exact isFieldText_cons.mpr ⟨by decide, isFieldText_decimalText (number + 1)⟩

theorem not_crlf_of_isFieldText {text : Text} (plain : isFieldText text) : ¬ crlf <:+: text := by
  intro inside
  exact absurd (plain '\r' (inside.subset (List.mem_cons_self ..))) (by decide)

/-- The value of `X-Forwarded-For`. -/
def forwardedFor (request : HttpRequest) : Text :=
  let existing := (request.headers.get? "x-forwarded-for".toList).getD []
  if existing ≠ [] then existing ++ ',' :: ' ' :: request.clientIp else request.clientIp

theorem get?_forwardedHeaders (request : HttpRequest) (server : Endpoint) (key : Text) :
    (forwardedHeaders request server).get? key =
      if key ∈ hopByHop then none
      else if key = "x-forwarded-for".toList then some (forwardedFor request)
      else if key = "x-real-ip".toList then some request.clientIp
      else if key = "host".toList then some (server.host ++ ':' :: intText server.port)
      else request.headers.get? key := by
  have existing : (((request.headers.insert "host".toList
      (server.host ++ ':' :: intText server.port)).insert "x-real-ip".toList
        request.clientIp).get? "x-forwarded-for".toList) =
      request.headers.get? "x-forwarded-for".toList := by
    rw [Dict.get?_insert_of_ne _ _ (by decide), Dict.get?_insert_of_ne _ _ (by decide)]
  rw [forwardedHeaders, Dict.get?_foldl_erase, existing, Dict.get?_insert, Dict.get?_insert,
    Dict.get?_insert]
  by_cases hop : key ∈ hopByHop
  · rw [if_pos hop, if_pos hop]
  · rw [if_neg hop, if_neg hop]
    rfl

variable {request : HttpRequest} {server : Endpoint}

/-- A property of the headers that are added, and of those that are kept, is one of all. -/
theorem all_forwardedHeaders {property : Text → Text → Prop}
    (forwarded : property "x-forwarded-for".toList (forwardedFor request))
    (real : property "x-real-ip".toList request.clientIp)
    (host : property "host".toList (server.host ++ ':' :: intText server.port))
    (kept : ∀ key value, request.headers.get? key = some value → key ∉ hopByHop →
      key ≠ "x-real-ip".toList → key ≠ "host".toList → property key value) :
    Dict.All property (forwardedHeaders request server) := by
  intro key value stored
  rw [get?_forwardedHeaders] at stored
  split at stored
  · cases stored
  rename_i hop
  split at stored
  · rename_i same
    rw [same, ← Option.some.inj stored]
    exact forwarded
  split at stored
  · rename_i same
    rw [same, ← Option.some.inj stored]
    exact real
  rename_i notReal
  split at stored
  · rename_i same
    rw [same, ← Option.some.inj stored]
    exact host
  · rename_i notHost
    exact kept key value stored hop notReal notHost

theorem keepsLine_forwardedHeaders (keeps : Dict.All KeepsLine request.headers)
    (client : isFieldText request.clientIp) :
    Dict.All KeepsLine (forwardedHeaders request server) := by
  have clientLine := not_crlf_of_isFieldText client
  refine all_forwardedHeaders ⟨by decide, by decide, ?_, by decide⟩
    ⟨by decide, by decide, clientLine, by decide⟩ ⟨by decide, by decide, ?_, by decide⟩
    fun key value stored _ _ _ => keeps key value stored
  · rw [forwardedFor]
    split
    · refine not_infix_append_cons (by decide) (by decide) ?_ ?_
      · cases stored : request.headers.get? "x-forwarded-for".toList with
        | none => decide
        | some value => exact (keeps _ value stored).valueLine
      · exact @not_infix_append_cons _ '\r' '\n' ' ' [] request.clientIp (by decide) (by decide)
          (by decide) clientLine
    · exact clientLine
  · exact not_infix_append_cons (by decide) (by decide) (not_crlf_of_isFieldText server.plain)
      (not_crlf_of_isFieldText (isFieldText_intText server.port))

/-- The headers that are forwarded as they came are well formed. -/
def HttpRequest.fieldsPlain (request : HttpRequest) : Prop :=
  Dict.All (fun key value => key ∈ hopByHop ∨ isToken key ∧
    (key = "host".toList ∨ key = "x-real-ip".toList ∨ isFieldText value)) request.headers

theorem isField_forwardedHeaders (client : isFieldText request.clientIp) :
    Dict.All (fun key value => isField (key, value)) (forwardedHeaders request server) ↔
      request.fieldsPlain := by
  constructor
  · intro all key value stored
    by_cases hop : key ∈ hopByHop
    · exact .inl hop
    refine .inr ?_
    have forwarded := get?_forwardedHeaders request server key
    rw [if_neg hop] at forwarded
    by_cases isFor : key = "x-forwarded-for".toList
    · rw [if_pos isFor] at forwarded
      obtain ⟨token, plain⟩ := all key _ forwarded
      refine ⟨token, .inr (.inr ?_)⟩
      rw [forwardedFor, ← isFor, stored] at plain
      simp only [Option.getD_some] at plain
      split at plain
      · exact (isFieldText_append.mp plain).1
      · rename_i empty
        rw [Classical.not_not.mp empty]
        exact fun char member => absurd member List.not_mem_nil
    rw [if_neg isFor] at forwarded
    by_cases isReal : key = "x-real-ip".toList
    · rw [if_pos isReal] at forwarded
      exact ⟨(all key _ forwarded).1, .inr (.inl isReal)⟩
    rw [if_neg isReal] at forwarded
    by_cases isHost : key = "host".toList
    · rw [if_pos isHost] at forwarded
      exact ⟨(all key _ forwarded).1, .inl isHost⟩
    · rw [if_neg isHost, stored] at forwarded
      obtain ⟨token, plain⟩ := all key value forwarded
      exact ⟨token, .inr (.inr plain)⟩
  · intro plain
    have tokens : isToken "x-forwarded-for".toList ∧ isToken "x-real-ip".toList ∧
        isToken "host".toList := by decide
    refine all_forwardedHeaders ⟨tokens.1, ?_⟩ ⟨tokens.2.1, client⟩ ⟨tokens.2.2, ?_⟩
      fun key value stored hop notReal notHost => ?_
    · change isFieldText (forwardedFor request)
      rw [forwardedFor]
      split
      · refine isFieldText_append.mpr ⟨?_, isFieldText_cons.mpr ⟨by decide,
          isFieldText_cons.mpr ⟨by decide, client⟩⟩⟩
        cases stored : request.headers.get? "x-forwarded-for".toList with
        | none => exact fun char member => absurd member List.not_mem_nil
        | some value =>
          rcases plain _ value stored with hop | ⟨-, host | real | text⟩
          · exact absurd hop (by decide)
          · exact absurd host (by decide)
          · exact absurd real (by decide)
          · exact text
      · exact client
    · exact isFieldText_append.mpr ⟨server.plain,
        isFieldText_cons.mpr ⟨by decide, isFieldText_intText server.port⟩⟩
    · rcases plain key value stored with isHop | ⟨token, host | real | text⟩
      · exact absurd isHop hop
      · exact absurd host notHost
      · exact absurd real notReal
      · exact ⟨token, text⟩

/-! ### What the server reads -/

/-- A request whose own parts are well formed. -/
structure HttpRequest.WellFormed (request : HttpRequest) : Prop where
  method : isToken request.method
  path : isTarget request.path
  fields : request.fieldsPlain

/-- The length that the headers say is the length of the body. -/
def HttpRequest.Framed (request : HttpRequest) : Prop :=
  match request.headers.get? "content-length".toList with
  | none => request.body = []
  | some value => readLength value = some request.body.length

def startLine (request : HttpRequest) : Text :=
  request.method ++ ' ' :: (request.path ++ ' ' :: "HTTP/1.1".toList)

theorem KeepsLines.readHead_forward (keeps : KeepsLines request)
    (client : isFieldText request.clientIp) :
    readHead (forwardRequest request server) =
      if ∀ entry ∈ (forwardedHeaders request server).entries, isField entry then
        some (startLine request, (forwardedHeaders request server).entries.map fieldRead,
          request.body)
      else none := by
  have start : request.method ++ ' ' :: (request.path ++ " HTTP/1.1\r\n".toList) =
      startLine request ++ crlf := by
    rw [startLine, List.append_assoc, List.cons_append, List.append_assoc]
    rfl
  have nonempty : startLine request ≠ [] := fun empty => by
    cases (List.append_eq_nil_iff.mp empty).2
  have line : ¬ crlf <:+: startLine request :=
    not_infix_append_cons (by decide) (by decide) keeps.methodLine
      (not_infix_append_cons (by decide) (by decide) keeps.pathLine (by decide))
  rw [forwardRequest, start]
  exact readHead_headerBlock request.body nonempty line
    (keepsLine_forwardedHeaders keeps.headers client)

theorem KeepsLines.splitOn_startLine (keeps : KeepsLines request) :
    splitOn [' '] (startLine request) = [request.method, request.path, "HTTP/1.1".toList] := by
  rw [startLine, splitOn_symbol _ keeps.methodBlank, splitOn_symbol _ keeps.pathBlank,
    splitOn_of_not (by decide) (by decide)]

/-- The body is read as it is if and only if the request is framed. -/
theorem KeepsLines.readBody_forward (keeps : KeepsLines request)
    (client : isFieldText request.clientIp)
    (stripped : Dict.All (fun _ value => strip value = value) request.headers) (refuses : Bool) :
    readBody refuses (some 0) ((forwardedHeaders request server).entries.map fieldRead)
      request.body = some (request.body, []) ↔ request.Framed := by
  have values := valuesOf_fieldRead
    (@keepsLine_forwardedHeaders _ server keeps.headers client)
  have uncoded : valuesOf "transfer-encoding".toList
      ((forwardedHeaders request server).entries.map fieldRead) = [] := by
    rw [values, get?_forwardedHeaders, if_pos (by decide)]
    rfl
  rw [readBody_iff uncoded, values, get?_forwardedHeaders, if_neg (by decide), if_neg (by decide),
    if_neg (by decide), if_neg (by decide), HttpRequest.Framed]
  cases length : request.headers.get? "content-length".toList with
  | none =>
    simp only [Option.map_none, Option.toList_none, bodyLength, Option.some.injEq]
    rw [eq_comm, List.length_eq_zero_iff]
  | some value =>
    simp only [Option.map_some, Option.toList_some, bodyLength]
    rw [stripBlanks_of_strip (stripped _ value length)]

theorem stripped_of_feed {unicode : UnicodeData} {turns : Nat} {buffer data left : Bytes}
    (fed : feed unicode turns buffer data = .ok (some request, left)) :
    Dict.All (fun _ value => strip value = value) request.headers := by
  obtain ⟨block, rest, head, -, readHead, readBody⟩ := tryParse_some fed
  obtain ⟨line, lines, method, path, more, -, -, -, -, sameHeaders⟩ := parseHead_some readHead
  rw [WireRequest.parseBody_returned unicode readBody]
  simp only [sameHeaders]
  exact stripped_parseHeaders unicode lines

/-- For every request that the parser returns, the bytes written to the server are read as one
request with the same method, path and body, and nothing after it, if and only if the parts of the
request are well formed and the length its headers say is that of its body. -/
theorem forwarded_request_framing (unicode : UnicodeData) (turns : Nat) (buffer data left : Bytes)
    (request : HttpRequest) (fed : feed unicode turns buffer data = .ok (some request, left))
    (client server : Endpoint) :
    (∀ refuses, ∃ headers, readRequest refuses (forwardRequest (request.ofClient client) server) =
      some (⟨request.method, request.path, headers, request.body⟩, [])) ↔
    request.WellFormed ∧ request.Framed := by
  have keeps : KeepsLines (request.ofClient client) := by
    obtain ⟨methodBlank, methodLine, pathBlank, pathLine, headers⟩ := keepsLines_of_feed unicode fed
    exact ⟨methodBlank, methodLine, pathBlank, pathLine, headers⟩
  have stripped := stripped_of_feed fed
  have head := @KeepsLines.readHead_forward _ server keeps client.plain
  have body := @KeepsLines.readBody_forward _ server keeps client.plain stripped
  have fields : (∀ entry ∈ (forwardedHeaders (request.ofClient client) server).entries,
      isField entry) ↔ request.fieldsPlain :=
    Dict.all_iff.symm.trans
      (@isField_forwardedHeaders (request.ofClient client) server client.plain)
  constructor
  · intro read
    obtain ⟨headers, same⟩ := read true
    rw [readRequest, head] at same
    by_cases plain : ∀ entry ∈ (forwardedHeaders (request.ofClient client) server).entries,
        isField entry
    · rw [if_pos plain] at same
      simp only [keeps.splitOn_startLine] at same
      split at same
      · rename_i parts
        obtain ⟨⟨whole, rest⟩, readAll, pair⟩ := Option.map_eq_some_iff.mp same
        obtain ⟨message, rfl⟩ := Prod.mk.inj pair
        obtain ⟨-, -, -, rfl⟩ := HttpMessage.mk.inj message
        exact ⟨⟨parts.1, parts.2.1, fields.mp plain⟩, (body true).mp readAll⟩
      · cases same
    · rw [if_neg plain] at same
      cases same
  · rintro ⟨formed, framed⟩ refuses
    refine ⟨(forwardedHeaders (request.ofClient client) server).entries.map fieldRead, ?_⟩
    rw [readRequest, head, if_pos (fields.mpr formed.fields)]
    simp only [keeps.splitOn_startLine]
    rw [if_pos ⟨formed.method, formed.path, trivial⟩, (body refuses).mpr framed]
    rfl

def examplePeer : Endpoint := ⟨"10.0.0.7".toList, 50000, by decide⟩

def exampleBackend : Endpoint := ⟨"10.0.0.2".toList, 8080, by decide⟩

/-- A request that the parser returns: a header that is not forwarded, and one for the framing. -/
def exampleRequest (name value : String) : HttpRequest where
  method := "POST".toList
  path := "/a".toList
  version := "HTTP/1.1".toList
  headers := Dict.ofEntries [("connection".toList, "close".toList), (name.toList, value.toList)]
  body := [104, 105]
  clientIp := "127.0.0.1".toList

def exampleUpload : Bytes :=
  encodeText "POST /a HTTP/1.1\r\nConnection: close\r\nContent-Length: 2\r\n\r\nhi".toList

theorem feed_upload : feed plainUnicode 0 [] exampleUpload =
    .ok (some (exampleRequest "content-length" "2"), []) := rfl

/-- A request with a length is read by the server as it was. -/
theorem forwarded_request_framing_upload :
    feed plainUnicode 0 [] exampleUpload =
      .ok (some (exampleRequest "content-length" "2"), []) ∧
    ∀ refuses, ∃ headers, readRequest refuses
        (forwardRequest ((exampleRequest "content-length" "2").ofClient examplePeer) exampleBackend) =
      some (⟨"POST".toList, "/a".toList, headers, [104, 105]⟩, []) :=
  ⟨feed_upload,
    (forwarded_request_framing plainUnicode 0 _ _ _ _ feed_upload examplePeer exampleBackend).mpr
      ⟨⟨by decide, by decide, Dict.all_iff.mpr (by decide)⟩, rfl⟩⟩

theorem feed_chunked :
    feed plainUnicode 3 [] (encodeText ("POST /a HTTP/1.1\r\nConnection: close\r\n".toList ++
      "Transfer-Encoding: chunked\r\n\r\n2\r\nhi\r\n0\r\na: b\r\n\r\n".toList)) =
        .ok (some (exampleRequest "transfer-encoding" "chunked"), []) := rfl

/-- A request that came in chunks is forwarded with its body and nothing that says how long it is:
the server reads a request without a body, and the body is left over. -/
theorem forwarded_chunks_left_over :
    (∃ turns buffer data left, feed plainUnicode turns buffer data =
      .ok (some (exampleRequest "transfer-encoding" "chunked"), left)) ∧
    ¬ ∃ refuses headers, readRequest refuses (forwardRequest
        ((exampleRequest "transfer-encoding" "chunked").ofClient examplePeer) exampleBackend) =
      some (⟨"POST".toList, "/a".toList, headers, [104, 105]⟩, []) := by
  refine ⟨⟨3, [], _, [], feed_chunked⟩, ?_⟩
  rintro ⟨refuses, headers, read⟩
  have leftOver : ∀ refuses, (readRequest refuses (forwardRequest
      ((exampleRequest "transfer-encoding" "chunked").ofClient examplePeer) exampleBackend)).map
        (fun result => (result.1.body, result.2)) = some ([], [104, 105]) := by decide +kernel
  have other := leftOver refuses
  rw [read] at other
  cases other

end LocalNetwork
