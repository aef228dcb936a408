/-
This file models the handshake of a proxied WebSocket: `compute_accept_key`,
`perform_upgrade`, and `handle_websocket_upgrade` of `proxy/websocket.py` up to the relay.

The key that `perform_upgrade` takes is one of the client, and it computes the accept key of
it. It is handed one that is an accept key already, so that the client gets the accept key
of the accept key. A refusal is written up to the end of its headers only: what
`writer.write` returns cannot be awaited, and the exception ends the connection.
-/

import LocalNetwork.HttpResponse
import LocalNetwork.ProxyConnections
import LocalNetwork.Relay

namespace LocalNetwork

/-! ### The answer to the client -/

def webSocketGuid : Text := "258EAFA5-E914-47DA-95CA-C5AB0DC85B11".toList

section

variable (sha1 : Bytes → Bytes)

/-- `compute_accept_key`. -/
def computeAcceptKey (clientKey : Text) : Text :=
  base64Chars (sha1 (encodeText (clientKey ++ webSocketGuid)))

def switchingLine : Text := "HTTP/1.1 101 Switching Protocols".toList

/-- The headers of the answer that switches protocols. -/
def upgradeFields (acceptKey : Text) (protocol : Option Text) : List (Text × Text) :=
  [("Upgrade".toList, "websocket".toList), ("Connection".toList, "Upgrade".toList),
    ("Sec-WebSocket-Accept".toList, acceptKey)] ++
  if protocol.getD [] = [] then [] else [("Sec-WebSocket-Protocol".toList, protocol.getD [])]

/-- `perform_upgrade`. -/
def performUpgrade (clientKey : Text) (protocol : Option Text) : Bytes :=
  encodeText (writeLines (switchingLine ::
    (upgradeFields (computeAcceptKey sha1 clientKey) protocol).map writeField))

end

/-- The response of `_send_error`. -/
def errorPage (status : Nat) (message : String) : HttpResponse where
  status := status
  reason := message.toList
  headers := Dict.ofEntries [("content-type".toList, "text/html".toList),
    ("connection".toList, "close".toList)]
  body := encodeText ("<html><body><h1>".toList ++ decimalText status ++ ' ' :: message.toList ++
    "</h1><hr><em>LocalNetwork Proxy</em></body></html>".toList)

/-! ### The handshake with the server -/

/-- What the read of the head of the answer comes to. -/
inductive AnswerRead where
  /-- The time is up, or the stream has ended. -/
  | missing
  | overrun
  | head (answer : Bytes)

/-- `readuntil` for the end of the head, on all bytes that come in time. -/
def readAnswer (data : Bytes) : AnswerRead :=
  match cutAt headEnd data with
  | none => if streamLimit + 3 < data.length then .overrun else .missing
  | some (before, _) =>
    if streamLimit < before.length then .overrun else .head (before ++ headEnd)

inductive UpgradeOutcome where
  | returns
  | raises
  | relays
  deriving DecidableEq

/-- What the handshake writes to either side, and how it goes on. -/
structure UpgradeResult where
  toUpstream : Bytes
  toClient : Bytes
  outcome : UpgradeOutcome

/-- What is written to the server. -/
def upgradeRequest (request : HttpRequest) : Bytes :=
  let headers := request.headers.insert "host".toList
    ((request.headers.get? "host".toList).getD [])
  encodeText (request.method ++ ' ' :: (request.path ++ " HTTP/1.1\r\n".toList)) ++
    encodeText (headerBlock headers)

section

variable (unicode : UnicodeData) (sha1 : Bytes → Bytes)

/-- From the head of the answer on: what is written to the client, and how it goes on. -/
def handleAnswer (clientKey : Text) (clientProtocol : Option Text) (answer : Bytes) :
    Bytes × UpgradeOutcome :=
  let lines := splitOn crlf (decodeText answer)
  match splitAtMost [' '] 2 (lines.head?.getD []) with
  | _ :: code :: _ =>
    match parseInt unicode code with
    | none => ([], .raises)
    | some status =>
      if status ≠ 101 then
        -- `await` on the result of `writer.write`, which is none.
        (answer, .raises)
      else
        let headers := parseHeaders unicode lines.tail
        let upstreamAccept := (headers.get? "sec-websocket-accept".toList).getD []
        let upstreamProtocol := (headers.get? "sec-websocket-protocol".toList).getD []
        let own := computeAcceptKey sha1 clientKey
        let acceptKey :=
          if upstreamAccept ≠ [] ∧ upstreamAccept ≠ own then upstreamAccept else own
        let protocol := if upstreamProtocol = [] then clientProtocol else some upstreamProtocol
        (performUpgrade sha1 acceptKey protocol, .relays)
  | _ => (sendResponse (errorPage 502 "Bad Gateway"), .returns)

/-- `handle_websocket_upgrade`, up to the relay. -/
def handleWebSocketUpgrade (request : HttpRequest) (data : Bytes) : UpgradeResult :=
  let clientKey := (request.headers.get? "sec-websocket-key".toList).getD []
  if clientKey = [] then ⟨[], sendResponse (errorPage 400 "Bad Request"), .returns⟩
  else
    match readAnswer data with
    | .missing => ⟨upgradeRequest request, sendResponse (errorPage 502 "Bad Gateway"), .returns⟩
    | .overrun => ⟨upgradeRequest request, [], .raises⟩
    | .head answer =>
      let result := handleAnswer unicode sha1 clientKey
        (request.headers.get? "sec-websocket-protocol".toList) answer
      ⟨upgradeRequest request, result.1, result.2⟩

/-- The connection moves on as the handshake does. -/
theorem webSocketAnswer_eq (clientKey : Text) (clientProtocol : Option Text) (answer : Bytes) :
    webSocketAnswer unicode answer =
      match (handleAnswer unicode sha1 clientKey clientProtocol answer).2 with
      | .returns => .awaits .refuse
      | .raises => .raised
      | .relays => .awaits .upgrade := by
  unfold webSocketAnswer handleAnswer
  dsimp only
  generalize splitAtMost [' '] 2 ((splitOn crlf (decodeText answer)).head?.getD []) = parts
  match parts with
  | [] => rfl
  | [_] => rfl
  | _ :: code :: _ =>
    dsimp only
    cases parseInt unicode code with
    | none => rfl
    | some status =>
      dsimp only
      split
      · rfl
      · rfl

end

/-! ### What the client reads -/

/-- The status in the first line of a well-formed response. -/
def readStatusLine (start : Text) : Option Nat :=
  match splitAtMost [' '] 2 start with
  | [version, code, reason] =>
    if (version = "HTTP/1.0".toList ∨ version = "HTTP/1.1".toList) ∧ isFieldText reason then
      readStatus code
    else none
  | _ => none

/-- What the last header of a name says. -/
def lastValue (name : Text) (fields : List (Text × Text)) : Text :=
  (valuesOf name fields).getLast?.getD []

theorem base64Char_mem (index : Nat) : base64Char index ∈ '=' :: base64Alphabet := by
  rw [base64Char, List.getD_eq_getElem?_getD]
  cases found : base64Alphabet[index % 64]? with
  | none => exact .head _
  | some char => exact .tail _ (List.mem_of_getElem? found)

theorem mem_base64Chars {data : Bytes} {char : Char} (member : char ∈ base64Chars data) :
    char ∈ '=' :: base64Alphabet := by
  fun_induction base64Chars data with
  | case1 => cases member
  | case2 first bits =>
    simp only [List.mem_cons, List.not_mem_nil, or_false] at member
    rcases member with rfl | rfl | rfl | rfl
    · exact base64Char_mem _
    · exact base64Char_mem _
    · exact .head _
    · exact .head _
  | case3 first second bits =>
    simp only [List.mem_cons, List.not_mem_nil, or_false] at member
    rcases member with rfl | rfl | rfl | rfl
    · exact base64Char_mem _
    · exact base64Char_mem _
    · exact base64Char_mem _
    · exact .head _
  | case4 first second third rest bits inductionHypothesis =>
    simp only [List.mem_cons] at member
    rcases member with rfl | rfl | rfl | rfl | later
    · exact base64Char_mem _
    · exact base64Char_mem _
    · exact base64Char_mem _
    · exact base64Char_mem _
    · exact inductionHypothesis later

/-- Base64 has neither control characters nor blanks. -/
theorem base64Chars_plain (data : Bytes) :
    ∀ char ∈ base64Chars data, isFieldChar char = true ∧ isPythonSpace char = false := by
  intro char member
  have all : ∀ other ∈ '=' :: base64Alphabet,
      isFieldChar other = true ∧ isPythonSpace other = false := by decide +kernel
  exact all char (mem_base64Chars member)

theorem strip_computeAcceptKey (sha1 : Bytes → Bytes) (clientKey : Text) :
    strip (computeAcceptKey sha1 clientKey) = computeAcceptKey sha1 clientKey :=
  stripBlanks_of_ends isPythonSpace
    (fun char head => (base64Chars_plain _ char (List.mem_of_mem_head? head)).2)
    (fun char last => (base64Chars_plain _ char (List.mem_of_mem_getLast? last)).2)

section

variable {sha1 : Bytes → Bytes} {clientKey : Text} {protocol : Option Text}

theorem isField_upgradeFields :
    (∀ field ∈ upgradeFields (computeAcceptKey sha1 clientKey) protocol, isField field) ↔
      isFieldText (protocol.getD []) := by
  have acceptName : isToken "Sec-WebSocket-Accept".toList := by decide
  have protocolName : isToken "Sec-WebSocket-Protocol".toList := by decide
  have accept : isFieldText (computeAcceptKey sha1 clientKey) :=
    fun char member => (base64Chars_plain _ char member).1
  rw [upgradeFields, List.forall_mem_append]
  constructor
  · rintro ⟨-, last⟩
    split at last
    · rename_i empty
      rw [empty]
      exact nofun
    · exact (last _ (.head _)).2
  · intro plain
    refine ⟨?_, ?_⟩
    · simp only [List.forall_mem_cons]
      exact ⟨by decide, by decide, ⟨acceptName, accept⟩, nofun⟩
    · split
      · exact nofun
      · exact List.forall_mem_cons.mpr ⟨⟨protocolName, plain⟩, nofun⟩

/-- The client can read the answer if the subprotocol has no control characters. -/
theorem readHead_performUpgrade (line : ¬ crlf <:+: protocol.getD []) :
    readHead (performUpgrade sha1 clientKey protocol) =
      if isFieldText (protocol.getD []) then
        some (switchingLine,
          (upgradeFields (computeAcceptKey sha1 clientKey) protocol).map fieldRead, [])
      else none := by
  have accept : ¬ crlf <:+: computeAcceptKey sha1 clientKey :=
    not_crlf_of_isFieldText fun char member => (base64Chars_plain _ char member).1
  have each : ∀ field ∈ upgradeFields (computeAcceptKey sha1 clientKey) protocol,
      ':' ∉ field.1 ∧ ¬ crlf <:+: field.1 ∧ ¬ crlf <:+: field.2 := by
    have protocolName : ':' ∉ "Sec-WebSocket-Protocol".toList ∧
        ¬ crlf <:+: "Sec-WebSocket-Protocol".toList := by decide
    rw [upgradeFields, List.forall_mem_append]
    refine ⟨?_, ?_⟩
    · simp only [List.forall_mem_cons]
      exact ⟨by decide, by decide, ⟨by decide, by decide, accept⟩, nofun⟩
    · split
      · exact nofun
      · exact List.forall_mem_cons.mpr ⟨⟨protocolName.1, protocolName.2, line⟩, nofun⟩
  have lines : ∀ other ∈ switchingLine ::
      (upgradeFields (computeAcceptKey sha1 clientKey) protocol).map writeField,
      other ≠ [] ∧ ¬ crlf <:+: other := by
    intro other member
    rcases List.mem_cons.mp member with rfl | member
    · decide
    · obtain ⟨field, inside, rfl⟩ := List.mem_map.mp member
      exact writeField_line (each field inside).2.1 (each field inside).2.2
  have read := readHead_writeLines switchingLine _ [] lines
  rw [List.append_nil, readFields_write fun field member => (each field member).1] at read
  rw [performUpgrade, read]
  by_cases plain : isFieldText (protocol.getD [])
  · rw [if_pos plain, if_pos (isField_upgradeFields.mpr plain)]
    rfl
  · rw [if_neg plain, if_neg (mt isField_upgradeFields.mp plain)]
    rfl

theorem valuesOf_accept (acceptKey : Text) :
    valuesOf "sec-websocket-accept".toList ((upgradeFields acceptKey protocol).map fieldRead) =
      [stripBlanks isBlank acceptKey] := by
  rw [upgradeFields]
  split
  · rfl
  · rfl

theorem lastValue_protocol (acceptKey : Text) :
    lastValue "sec-websocket-protocol".toList ((upgradeFields acceptKey protocol).map fieldRead) =
      stripBlanks isBlank (protocol.getD []) := by
  rw [upgradeFields]
  split
  · rename_i empty
    rw [empty]
    rfl
  · rfl

end

/-! ### The answer of a server that is well formed -/

theorem getD_headersRead (fields : List (Text × Text)) (name : Text) :
    ((headersRead fields).get? name).getD [] = strip (lastValue name fields) := by
  rw [get?_headersRead, lastValue]
  cases (valuesOf name fields).getLast? with
  | none => rfl
  | some value => rfl

theorem readStatusLine_some (unicode : UnicodeData) {start : Text} {status : Nat}
    (read : readStatusLine start = some status) :
    ∃ version code reason, splitAtMost [' '] 2 start = [version, code, reason] ∧
      parseInt unicode code = some (status : Int) ∧ '\r' ∉ start := by
  rw [readStatusLine] at read
  split at read
  · rename_i version code reason parts
    split at read
    · rename_i plain
      obtain ⟨length, number⟩ := readLength_of_readStatus unicode read
      exact ⟨version, code, reason, parts, number,
        not_mem_of_statusLine parts plain.1 plain.2 length⟩
    · cases read
  · cases read

/-- The key that is handed to `perform_upgrade`. -/
def handedKey (sha1 : Bytes → Bytes) (clientKey : Text) (fields : List (Text × Text)) : Text :=
  let own := computeAcceptKey sha1 clientKey
  let upstream := strip (lastValue "sec-websocket-accept".toList fields)
  if upstream ≠ [] ∧ upstream ≠ own then upstream else own

/-- The subprotocol that is handed to `perform_upgrade`. -/
def handedProtocol (clientProtocol : Option Text) (fields : List (Text × Text)) : Option Text :=
  let upstream := strip (lastValue "sec-websocket-protocol".toList fields)
  if upstream = [] then clientProtocol else some upstream

theorem handleAnswer_of_readHead (unicode : UnicodeData) (sha1 : Bytes → Bytes)
    {data rest : Bytes} {start : Text} {fields : List (Text × Text)} {status : Nat}
    (read : readHead data = some (start, fields, rest))
    (line : readStatusLine start = some status) :
    ∃ head, cutAt headEnd data = some (head, rest) ∧
      Dict.All isSendable (headersRead fields) ∧
      ∀ clientKey clientProtocol,
        handleAnswer unicode sha1 clientKey clientProtocol (head ++ headEnd) =
          if status ≠ 101 then (head ++ headEnd, .raises)
          else (performUpgrade sha1 (handedKey sha1 clientKey fields)
            (handedProtocol clientProtocol fields), .relays) := by
  obtain ⟨version, code, reason, parts, parsed, plain⟩ := readStatusLine_some unicode line
  obtain ⟨head, lines, cut, pieces, readLines⟩ := cutAt_of_readHead read plain
  refine ⟨head, cut, isSendable_headersRead readLines, fun clientKey clientProtocol => ?_⟩
  have number : ((status : Int) ≠ 101) ↔ status ≠ 101 := by omega
  simp only [handleAnswer, pieces, List.head?_cons, Option.getD_some, parts, List.tail_cons,
    parseHeaders_of_readFields unicode readLines, parsed,
    getD_headersRead, number]
  rfl

theorem handleWebSocketUpgrade_toClient (unicode : UnicodeData) (sha1 : Bytes → Bytes)
    {request : HttpRequest} {clientKey : Text} {data head rest : Bytes}
    (keyed : request.headers.get? "sec-websocket-key".toList = some clientKey)
    (nonempty : clientKey ≠ []) (cut : cutAt headEnd data = some (head, rest)) :
    (handleWebSocketUpgrade unicode sha1 request data).toClient =
      if streamLimit < head.length then []
      else (handleAnswer unicode sha1 clientKey
        (request.headers.get? "sec-websocket-protocol".toList) (head ++ headEnd)).1 := by
  simp only [handleWebSocketUpgrade, keyed, Option.getD_some, if_neg nonempty, readAnswer, cut]
  split
  · rename_i missing
    split at missing
    · cases missing
    · cases missing
  · rename_i overrun
    split at overrun
    · rename_i long
      rw [if_pos long]
    · cases overrun
  · rename_i answer found
    split at found
    · cases found
    · rename_i short
      obtain rfl := AnswerRead.head.inj found
      rw [if_neg short]

/-! ### What arrives at the client -/

/-- The head is within the limit of the stream. -/
def HeadFits (data : Bytes) : Prop :=
  ∀ head rest, cutAt headEnd data = some (head, rest) → head.length ≤ streamLimit

/-- The bytes are a 101 with an accept key, and with a subprotocol or, if it is empty, with none. -/
def CarriesUpgrade (acceptKey protocol : Text) (sent : Bytes) : Prop :=
  ∃ fields, readHead sent = some (switchingLine, fields, []) ∧
    valuesOf "sec-websocket-accept".toList fields = [acceptKey] ∧
    lastValue "sec-websocket-protocol".toList fields = protocol

theorem headFits_iff {data head rest : Bytes} (cut : cutAt headEnd data = some (head, rest)) :
    HeadFits data ↔ ¬ streamLimit < head.length := by
  rw [HeadFits, cut]
  refine ⟨fun fits => Nat.not_lt.mpr (fits head rest rfl), fun short other after same => ?_⟩
  obtain ⟨rfl, -⟩ := Prod.mk.inj (Option.some.inj same)
  exact Nat.not_lt.mp short

theorem carriesUpgrade_performUpgrade_iff {sha1 : Bytes → Bytes} {clientKey acceptKey : Text}
    {protocol : Option Text} {named : Text} (line : ¬ crlf <:+: protocol.getD [])
    (stripped : strip (protocol.getD []) = protocol.getD []) :
    CarriesUpgrade acceptKey named (performUpgrade sha1 clientKey protocol) ↔
      isFieldText (protocol.getD []) ∧ computeAcceptKey sha1 clientKey = acceptKey ∧
        protocol.getD [] = named := by
  have accept := @valuesOf_accept protocol (computeAcceptKey sha1 clientKey)
  have last := @lastValue_protocol protocol (computeAcceptKey sha1 clientKey)
  rw [stripBlanks_of_strip (strip_computeAcceptKey sha1 clientKey)] at accept
  rw [stripBlanks_of_strip stripped] at last
  rw [CarriesUpgrade, readHead_performUpgrade line]
  constructor
  · rintro ⟨fields, read, values, protocols⟩
    split at read
    · rename_i plain
      obtain ⟨-, rfl, -⟩ := by simpa using read
      rw [accept] at values
      exact ⟨plain, (List.cons.inj values).1, last.symm.trans protocols⟩
    · cases read
  · rintro ⟨plain, rfl, rfl⟩
    exact ⟨_, if_pos plain, accept, last⟩

/-- The subprotocol that is handed on is the one of the server if the server names one that is
stripped, or if neither side names one. -/
theorem handedProtocol_eq_iff {clientProtocol : Option Text} {fields : List (Text × Text)}
    (stripped : strip (clientProtocol.getD []) = clientProtocol.getD []) :
    (handedProtocol clientProtocol fields).getD [] =
        lastValue "sec-websocket-protocol".toList fields ↔
      strip (lastValue "sec-websocket-protocol".toList fields) =
          lastValue "sec-websocket-protocol".toList fields ∧
        (lastValue "sec-websocket-protocol".toList fields ≠ [] ∨ clientProtocol.getD [] = []) := by
  rw [handedProtocol]
  generalize lastValue "sec-websocket-protocol".toList fields = named
  by_cases empty : strip named = []
  · rw [if_pos empty]
    constructor
    · rintro rfl
      exact ⟨stripped, .inr (stripped.symm.trans empty)⟩
    · rintro ⟨same, nonempty | none_⟩
      · exact absurd (same.symm.trans empty) nonempty
      · rw [none_, ← same, empty]
  · rw [if_neg empty, Option.getD_some]
    refine ⟨fun same => ⟨same, .inl (same ▸ empty)⟩, And.left⟩

/-! ### The handshake -/

theorem handedProtocol_plain {clientProtocol : Option Text} {fields : List (Text × Text)}
    (sendable : Dict.All isSendable (headersRead fields))
    (stripped : strip (clientProtocol.getD []) = clientProtocol.getD [])
    (line : ¬ crlf <:+: clientProtocol.getD []) :
    strip ((handedProtocol clientProtocol fields).getD []) =
        (handedProtocol clientProtocol fields).getD [] ∧
      ¬ crlf <:+: (handedProtocol clientProtocol fields).getD [] ∧
      ((handedProtocol clientProtocol fields).getD [] =
        lastValue "sec-websocket-protocol".toList fields →
          isFieldText ((handedProtocol clientProtocol fields).getD [])) := by
  have plain : isFieldText (strip (lastValue "sec-websocket-protocol".toList fields)) := by
    rw [← getD_headersRead]
    cases stored : (headersRead fields).get? "sec-websocket-protocol".toList with
    | none => exact nofun
    | some value => exact (sendable _ value stored).1.2
  rw [handedProtocol]
  by_cases empty : strip (lastValue "sec-websocket-protocol".toList fields) = []
  · rw [if_pos empty]
    refine ⟨stripped, line, fun same => ?_⟩
    rw [← stripped, same]
    exact plain
  · rw [if_neg empty]
    exact ⟨strip_strip _, not_crlf_of_isFieldText plain, fun _ => plain⟩

/-- For every request with a key and every answer with a well-formed head. If the answer is a 101
with the accept key of the key, the client gets a 101 with this accept key and the subprotocol of
the server if and only if the head is within the limit, the accept key is its own accept key, and
the server names a subprotocol, stripped, or neither side does. If the answer is another one, the
client gets it as it is if and only if its head is within the limit and it has no body. -/
theorem handshake_relayed_iff (unicode : UnicodeData) (sha1 : Bytes → Bytes) (turns : Nat)
    (buffer incoming left : Bytes) (request : HttpRequest)
    (fed : feed unicode turns buffer incoming = .ok (some request, left)) (clientKey : Text)
    (keyed : request.headers.get? "sec-websocket-key".toList = some clientKey)
    (nonempty : clientKey ≠ []) (data rest : Bytes) (start : Text) (fields : List (Text × Text))
    (status : Nat) (read : readHead data = some (start, fields, rest))
    (line : readStatusLine start = some status) :
    (status = 101 →
      lastValue "sec-websocket-accept".toList fields = computeAcceptKey sha1 clientKey →
      (CarriesUpgrade (computeAcceptKey sha1 clientKey)
          (lastValue "sec-websocket-protocol".toList fields)
          (handleWebSocketUpgrade unicode sha1 request data).toClient ↔
        HeadFits data ∧
          computeAcceptKey sha1 (computeAcceptKey sha1 clientKey) =
            computeAcceptKey sha1 clientKey ∧
          strip (lastValue "sec-websocket-protocol".toList fields) =
            lastValue "sec-websocket-protocol".toList fields ∧
          (lastValue "sec-websocket-protocol".toList fields ≠ [] ∨
            (request.headers.get? "sec-websocket-protocol".toList).getD [] = []))) ∧
    (status ≠ 101 →
      ((handleWebSocketUpgrade unicode sha1 request data).toClient = data ↔
        HeadFits data ∧ rest = [])) := by
  obtain ⟨head, cut, sendable, answer⟩ := handleAnswer_of_readHead unicode sha1 read line
  rw [handleWebSocketUpgrade_toClient unicode sha1 keyed nonempty cut, headFits_iff cut, answer]
  refine ⟨fun switches accept => ?_, fun other => ?_⟩
  · have stripped : strip ((request.headers.get? "sec-websocket-protocol".toList).getD []) =
        (request.headers.get? "sec-websocket-protocol".toList).getD [] := by
      cases stored : request.headers.get? "sec-websocket-protocol".toList with
      | none => rfl
      | some value => exact stripped_of_feed fed _ value stored
    have plainLine :
        ¬ crlf <:+: (request.headers.get? "sec-websocket-protocol".toList).getD [] := by
      cases stored : request.headers.get? "sec-websocket-protocol".toList with
      | none => decide
      | some value => exact ((keepsLines_of_feed unicode fed).headers _ value stored).valueLine
    obtain ⟨handedStripped, handedLine, handedPlain⟩ :=
      handedProtocol_plain sendable stripped plainLine
    have handed : handedKey sha1 clientKey fields = computeAcceptKey sha1 clientKey := by
      rw [handedKey, accept, strip_computeAcceptKey]
      exact if_neg fun differs => differs.2 rfl
    by_cases long : streamLimit < head.length
    · rw [if_pos long]
      refine ⟨fun ⟨_, read, _⟩ => ?_, fun holds => absurd long holds.1⟩
      cases read
    · rw [if_neg long, if_neg (not_not.mpr switches), handed,
        carriesUpgrade_performUpgrade_iff handedLine handedStripped, handedProtocol_eq_iff stripped]
      refine ⟨fun carries => ⟨long, carries.2⟩, fun holds => ⟨?_, holds.2⟩⟩
      exact handedPlain ((handedProtocol_eq_iff stripped).mpr holds.2.2)
  · have whole := (cutAt_some cut).1
    by_cases long : streamLimit < head.length
    · rw [if_pos long]
      refine ⟨fun empty => ?_, fun holds => absurd long holds.1⟩
      rw [← empty] at read
      cases read
    · rw [if_neg long, if_pos other, whole]
      simp [long]

def sampleKey : Text := "dGhlIHNhbXBsZSBub25jZQ==".toList

/-- SHA-1 on the sample key and on its accept key, both with the GUID. -/
def sampleSha1 (data : Bytes) : Bytes :=
  if data = encodeText (sampleKey ++ webSocketGuid) then
    [179, 122, 79, 44, 192, 98, 79, 22, 144, 246, 70, 6, 207, 56, 89, 69, 178, 190, 196, 234]
  else
    [146, 144, 193, 6, 127, 21, 102, 244, 216, 133, 103, 111, 231, 112, 119, 65, 156, 170, 216, 7]

def sampleUpgrade : HttpRequest where
  method := "GET".toList
  path := "/chat".toList
  version := "HTTP/1.1".toList
  headers := Dict.ofEntries [("upgrade".toList, "websocket".toList),
    ("connection".toList, "Upgrade".toList), ("sec-websocket-key".toList, sampleKey)]
  body := []
  clientIp := "127.0.0.1".toList

def sampleSwitch : Bytes :=
  encodeText ("HTTP/1.1 101 Switching Protocols\r\nUpgrade: websocket\r\n".toList ++
    "Connection: Upgrade\r\nSec-WebSocket-Accept: s3pPLMBiTxaQ9kYGzzhZRbK+xOo=\r\n\r\n".toList)

def sampleRefusal (body : String) : Bytes :=
  encodeText ("HTTP/1.1 403 Forbidden\r\nContent-Length: ".toList ++
    decimalText body.length ++ "\r\n\r\n".toList ++ body.toList)

set_option maxRecDepth 4000 in
theorem feed_sampleUpgrade :
    feed plainUnicode 0 [] (encodeText ("GET /chat HTTP/1.1\r\nUpgrade: websocket\r\n".toList ++
      "Connection: Upgrade\r\nSec-WebSocket-Key: ".toList ++ sampleKey ++ "\r\n\r\n".toList)) =
        .ok (some sampleUpgrade, []) := rfl

/-- A refusal without a body arrives, and the accept key of the sample key does not. -/
theorem handshake_relayed_sample :
    (handleWebSocketUpgrade plainUnicode sampleSha1 sampleUpgrade (sampleRefusal "")).toClient =
        sampleRefusal "" ∧
      ¬ CarriesUpgrade "s3pPLMBiTxaQ9kYGzzhZRbK+xOo=".toList []
        (handleWebSocketUpgrade plainUnicode sampleSha1 sampleUpgrade sampleSwitch).toClient := by
  have refusal : readHead (sampleRefusal "") = some ("HTTP/1.1 403 Forbidden".toList,
      [("content-length".toList, "0".toList)], []) := by decide +kernel
  have switch : readHead sampleSwitch = some (switchingLine,
      [("upgrade".toList, "websocket".toList), ("connection".toList, "Upgrade".toList),
        ("sec-websocket-accept".toList, "s3pPLMBiTxaQ9kYGzzhZRbK+xOo=".toList)], []) := by
    decide +kernel
  have own : computeAcceptKey sampleSha1 sampleKey = "s3pPLMBiTxaQ9kYGzzhZRbK+xOo=".toList := by
    decide +kernel
  have fits : (cutAt headEnd (sampleRefusal "")).all fun cut => cut.1.length ≤ streamLimit := by
    decide +kernel
  have keyed : sampleUpgrade.headers.get? "sec-websocket-key".toList = some sampleKey := rfl
  refine ⟨((handshake_relayed_iff plainUnicode sampleSha1 0 [] _ _ sampleUpgrade feed_sampleUpgrade
    sampleKey keyed (by decide) _ _ _ _ 403 refusal (by decide +kernel)).2 (by decide)).mpr
      ⟨fun head rest cut => ?_, rfl⟩, fun carries => ?_⟩
  · rw [cut] at fits
    exact of_decide_eq_true fits
  · have relayed := (handshake_relayed_iff plainUnicode sampleSha1 0 [] _ _ sampleUpgrade
      feed_sampleUpgrade sampleKey keyed (by decide) _ _ _ _ 101 switch (by decide +kernel)).1 rfl
        own.symm
    rw [own] at relayed
    exact absurd (relayed.mp carries).2.1 (by decide +kernel)

/-- The client gets another accept key, and a refusal without its body. -/
theorem handshake_not_relayed :
    ¬ CarriesUpgrade (computeAcceptKey sampleSha1 sampleKey) []
        (handleWebSocketUpgrade plainUnicode sampleSha1 sampleUpgrade sampleSwitch).toClient ∧
      (handleWebSocketUpgrade plainUnicode sampleSha1 sampleUpgrade (sampleRefusal "no")).toClient ≠
        sampleRefusal "no" := by
  refine ⟨?_, by decide +kernel⟩
  rintro ⟨fields, read, values, -⟩
  have sent : (readHead (handleWebSocketUpgrade plainUnicode sampleSha1 sampleUpgrade
      sampleSwitch).toClient).map (fun head => valuesOf "sec-websocket-accept".toList head.2.1) =
        some ["kpDBBn8VZvTYhWdv53B3QZyq2Ac=".toList] := by decide +kernel
  rw [read, Option.map_some, values] at sent
  exact absurd sent (by decide +kernel)

end LocalNetwork
