/-
This file follows one connection of the proxy with its data: `Connection.handle` reads requests off
the stream of the client, routes each, forwards it to a server or answers it itself, and writes the
answer back. An event is what the connection waits for: data of the client, the outcome of
connecting, the answer of the server, a write that is drained, or an exception.

The file proves, for any client and any servers, that answers go out in the order of the requests
and belong to them; and for a client that awaits each answer and servers whose answers arrive, that
the connection is transparent: servers read the requests that the client wrote, and the client reads
the answers that they gave. Upgraded connections, the counters and the log are left to other files.
-/

import LocalNetwork.HttpResponse
import LocalNetwork.ProxyConnections

namespace LocalNetwork

/-! ### The model -/

/-- What a connection uses of its worker. Locations that can be chosen differ in their paths, so
that what else they say is a function of them. -/
structure Site where
  unicode : UnicodeData
  locations : List ProxyLocation
  compress : ProxyLocation → Bool
  compressor : Option GzipCompressor
  guessType : PosixPath.Path → Option Text
  files : FileSystem

inductive SessionPhase where
  | reading
  | connecting (request : HttpRequest) (location : ProxyLocation) (upgrade : Bool)
  | exchanging (request : HttpRequest) (location : ProxyLocation)
  | responding (request : HttpRequest)
  | upgraded (request : HttpRequest) (server : Endpoint)
  | closed

/-- A connection of a client: the buffer of its parser, the requests taken from it, what was written
to each server, what the servers answered, and the answers that were written to the client. -/
structure Session where
  client : Endpoint
  buffer : Bytes
  phase : SessionPhase
  taken : List HttpRequest
  forwarded : List (Endpoint × Bytes)
  answers : List Bytes
  sent : List Bytes

inductive SessionEvent where
  /-- The read returns; without data at the end of the stream. -/
  | received (data : Bytes)
  /-- `_connect_upstream` has found no server or could not reach it, or the server is connected. -/
  | connected (server : Option Endpoint)
  /-- The server has answered with all that it sends. -/
  | answered (data : Bytes)
  | drained
  /-- The await raises, or its time is up. -/
  | fails

/-- The read of a request has returned. -/
def SessionEvent.isReceived : SessionEvent → Bool
  | .received _ => true
  | _ => false

/-- What a server answers with. -/
def SessionEvent.answer : SessionEvent → Option Bytes
  | .answered data => some data
  | _ => none

/-- The answer of `_send_error`. -/
def errorResponse (status : Int) (message : Text) : HttpResponse where
  status := status
  reason := message
  headers := Dict.ofEntries
    [("content-type".toList, "text/html".toList), ("connection".toList, "close".toList)]
  body := encodeText ("<html><body><h1>".toList ++ intText status ++ ' ' :: (message ++
    "</h1><hr><em>LocalNetwork Proxy</em></body></html>".toList))

namespace Session

def start (client : Endpoint) : Session := ⟨client, [], .reading, [], [], [], []⟩

variable (site : Site) (turns : Nat) (session : Session)

/-- Write an answer to the client. -/
def respond (request : HttpRequest) (response : HttpResponse) : Session :=
  { session with phase := .responding request, sent := session.sent ++ [sendResponse response] }

/-- A turn of the main loop from the parsed request on. -/
def route (request : HttpRequest) : Session :=
  match matchLocation site.locations request.path with
  | none => session.respond request (errorResponse 404 "Not Found".toList)
  | some location =>
    if location.root ≠ [] ∧ request.method = "GET".toList then
      session.respond request (serveStaticFile site.guessType site.files request.path location.root
        location.toLocationBlock).response
    else
      let upgrade := location.wsEnabled && request.isWebsocketUpgrade site.unicode
      { session with phase := .connecting request location upgrade }

/-- A turn of `_read_request`; none where the parser has not ended in this many turns. -/
def receive (data : Bytes) : Option Session :=
  if data = [] then some { session with phase := .closed }
  else
    match feed site.unicode turns session.buffer data with
    | .error .running => none
    | .error (.valueError _) => some { session with phase := .closed }
    | .ok (none, left) => some { session with buffer := left }
    | .ok (some request, left) =>
      let request := request.ofClient session.client
      some ({ session with buffer := left, taken := session.taken ++ [request] }.route site request)

/-- `_forward_request` up to the answer, or the upgrade. -/
def connected (request : HttpRequest) (location : ProxyLocation) (upgrade : Bool) :
    Option Endpoint → Session
  | none => session.respond request (errorResponse 502 "Bad Gateway".toList)
  | some server =>
    if upgrade then { session with phase := .upgraded request server }
    else
      { session with
        phase := .exchanging request location
        forwarded := session.forwarded ++ [(server, forwardRequest request server)] }

/-- A server has answered. -/
def hear (data : Bytes) : Session := { session with answers := session.answers ++ [data] }

/-- The rest of `_forward_request` and the answer to the client. -/
def answered (request : HttpRequest) (location : ProxyLocation) (data : Bytes) : Session :=
  match readUpstreamResponse site.unicode data with
  | none => { session.hear data with phase := .closed }
  | some response =>
    (session.hear data).respond request (compressResponse site.unicode site.compressor
      (site.compress location) (acceptedBy request) response)

def step : SessionEvent → Option Session
  | .received data =>
    match session.phase with
    | .reading => session.receive site turns data
    | _ => none
  | .connected server =>
    match session.phase with
    | .connecting request location upgrade =>
      some (session.connected request location upgrade server)
    | _ => none
  | .answered data =>
    match session.phase with
    | .exchanging request location => some (session.answered site request location data)
    | _ => none
  | .drained =>
    match session.phase with
    | .responding request =>
      some { session with
        phase := if request.isKeepalive site.unicode then .reading else .closed }
    | _ => none
  | .fails =>
    match session.phase with
    | .closed | .upgraded _ _ => none
    | _ => some { session with phase := .closed }

/-! ### Answers in order -/

/-- The connection answers the request itself. -/
inductive OwnAnswer (site : Site) (request : HttpRequest) : HttpResponse → Prop
  | unrouted (absent : matchLocation site.locations request.path = none) :
    OwnAnswer site request (errorResponse 404 "Not Found".toList)
  | file (location : ProxyLocation)
    (chosen : matchLocation site.locations request.path = some location)
    (rooted : location.root ≠ [] ∧ request.method = "GET".toList) :
    OwnAnswer site request (serveStaticFile site.guessType site.files request.path
      location.root location.toLocationBlock).response
  | unreached (location : ProxyLocation)
    (chosen : matchLocation site.locations request.path = some location) :
    OwnAnswer site request (errorResponse 502 "Bad Gateway".toList)

/-- What was written for a request to a server. -/
def exchangeOf (request : HttpRequest) (server : Endpoint) : Endpoint × Bytes :=
  (server, forwardRequest request server)

/-- The requests were answered one after the other: each by the connection, or by what the server
answered to which it was forwarded. -/
inductive Served (site : Site) :
    List HttpRequest → List (Endpoint × Bytes) → List Bytes → List Bytes → Prop
  | nothing : Served site [] [] [] []
  | own {requests : List HttpRequest} {forwarded : List (Endpoint × Bytes)}
    {answers sent : List Bytes} (served : Served site requests forwarded answers sent)
    (request : HttpRequest) (response : HttpResponse) (own : OwnAnswer site request response) :
    Served site (requests ++ [request]) forwarded answers (sent ++ [sendResponse response])
  | relayed {requests : List HttpRequest} {forwarded : List (Endpoint × Bytes)}
    {answers sent : List Bytes} (served : Served site requests forwarded answers sent)
    (request : HttpRequest) (location : ProxyLocation)
    (chosen : matchLocation site.locations request.path = some location) (server : Endpoint)
    (data : Bytes) (response : HttpResponse)
    (read : readUpstreamResponse site.unicode data = some response) :
    Served site (requests ++ [request]) (forwarded ++ [exchangeOf request server])
      (answers ++ [data]) (sent ++ [sendResponse (compressResponse site.unicode site.compressor
        (site.compress location) (acceptedBy request) response)])

/-- What is left beside the requests that were answered: at most one request, which may have been
forwarded, and then the server's answer if it could not be read. -/
inductive Unanswered (site : Site) (session : Session) (forwarded : List (Endpoint × Bytes))
    (answers : List Bytes) : List HttpRequest → Prop
  | none (settled : session.forwarded = forwarded ∧ session.answers = answers) :
    Unanswered site session forwarded answers []
  | waiting (request : HttpRequest)
    (settled : session.forwarded = forwarded ∧ session.answers = answers) :
    Unanswered site session forwarded answers [request]
  | forwarded (request : HttpRequest) (server : Endpoint)
    (exchanged : session.forwarded = forwarded ++ [exchangeOf request server])
    (silent : session.answers = answers) : Unanswered site session forwarded answers [request]
  | unread (request : HttpRequest) (server : Endpoint) (data : Bytes)
    (exchanged : session.forwarded = forwarded ++ [exchangeOf request server])
    (heard : session.answers = answers ++ [data])
    (unread : readUpstreamResponse site.unicode data = none) :
    Unanswered site session forwarded answers [request]

/-- Which request waits for an answer in a phase, and how far it came. -/
def Waits (site : Site) (session : Session) (forwarded : List (Endpoint × Bytes))
    (answers : List Bytes) (waiting : List HttpRequest) : SessionPhase → Prop
  | .reading => waiting = [] ∧ (session.forwarded = forwarded ∧ session.answers = answers) ∧
    ∀ request ∈ session.taken, request.isKeepalive site.unicode = true
  | .responding request => waiting = [] ∧
    (session.forwarded = forwarded ∧ session.answers = answers) ∧
      session.taken.getLast? = some request
  | .connecting request location _ => waiting = [request] ∧
    (session.forwarded = forwarded ∧ session.answers = answers) ∧
      matchLocation site.locations request.path = some location
  | .exchanging request location => waiting = [request] ∧
    (∃ server, session.forwarded = forwarded ++ [exchangeOf request server] ∧
      session.answers = answers) ∧
      matchLocation site.locations request.path = some location
  | .upgraded _ _ | .closed => Unanswered site session forwarded answers waiting

/-- The requests were answered in their order, up to one that waits, and nothing was taken after a
request that ends the connection. -/
structure InOrder (site : Site) (session : Session) : Prop where
  answered : ∃ done waiting forwarded answers, session.taken = done ++ waiting ∧
    Served site done forwarded answers session.sent ∧
    Waits site session forwarded answers waiting session.phase
  keepalive : ∀ request ∈ session.taken.dropLast, request.isKeepalive site.unicode = true

variable {site : Site} {turns : Nat} {session next : Session} {done waiting : List HttpRequest}
  {forwarded : List (Endpoint × Bytes)} {answers sent : List Bytes}

theorem Served.length_eq (served : Served site done forwarded answers sent) :
    done.length = sent.length := by
  induction served with
  | nothing => rfl
  | own served request response own inductionHypothesis => simp [inductionHypothesis]
  | relayed served request location chosen server data response read inductionHypothesis =>
    simp [inductionHypothesis]

theorem Unanswered.few (unanswered : Unanswered site session forwarded answers waiting) :
    waiting.length ≤ 1 := by
  cases unanswered with
  | none => exact Nat.zero_le 1
  | _ => exact Nat.le_refl 1

theorem Waits.unanswered (waits : Waits site session forwarded answers waiting session.phase) :
    Unanswered site session forwarded answers waiting := by
  cases phase : session.phase with
  | reading =>
    rw [phase] at waits
    obtain ⟨rfl, settled, -⟩ := waits
    exact .none settled
  | responding request =>
    rw [phase] at waits
    obtain ⟨rfl, settled, -⟩ := waits
    exact .none settled
  | connecting request location upgrade =>
    rw [phase] at waits
    obtain ⟨rfl, settled, -⟩ := waits
    exact .waiting request settled
  | exchanging request location =>
    rw [phase] at waits
    obtain ⟨rfl, ⟨server, exchanged, silent⟩, -⟩ := waits
    exact .forwarded request server exchanged silent
  | upgraded request server =>
    rw [phase] at waits
    exact waits
  | closed =>
    rw [phase] at waits
    exact waits

theorem inOrder_start (client : Endpoint) : InOrder site (start client) :=
  ⟨⟨[], [], [], [], rfl, .nothing, rfl, ⟨rfl, rfl⟩, nofun⟩, nofun⟩

/-- The connection ends with what it has. -/
theorem InOrder.closed (inOrder : InOrder site session) :
    InOrder site { session with phase := .closed } := by
  obtain ⟨done, waiting, forwarded, answers, split, served, waits⟩ := inOrder.answered
  refine ⟨⟨done, waiting, forwarded, answers, split, served, ?_⟩, inOrder.keepalive⟩
  cases waits.unanswered with
  | none settled => exact .none settled
  | waiting request settled => exact .waiting request settled
  | forwarded request server exchanged silent => exact .forwarded request server exchanged silent
  | unread request server data exchanged heard unread =>
    exact .unread request server data exchanged heard unread

/-- A part of a request is kept. -/
theorem InOrder.buffered (inOrder : InOrder site session) (reading : session.phase = .reading)
    (left : Bytes) : InOrder site { session with buffer := left } := by
  obtain ⟨done, waiting, forwarded, answers, split, served, waits⟩ := inOrder.answered
  refine ⟨⟨done, waiting, forwarded, answers, split, served, ?_⟩, inOrder.keepalive⟩
  rw [reading] at waits
  show Waits site _ forwarded answers waiting session.phase
  rw [reading]
  exact waits

/-- The one request that waits is answered. -/
theorem inOrder_respond {request : HttpRequest} {response : HttpResponse}
    (split : session.taken = done ++ [request])
    (keepalive : ∀ other ∈ done, other.isKeepalive site.unicode = true)
    (served : Served site (done ++ [request]) session.forwarded session.answers
      (session.sent ++ [sendResponse response])) :
    InOrder site (session.respond request response) where
  answered := by
    refine ⟨done ++ [request], [], session.forwarded, session.answers, ?_, served, rfl,
      ⟨rfl, rfl⟩, ?_⟩
    · rw [List.append_nil]
      exact split
    · show session.taken.getLast? = some request
      rw [split, List.getLast?_concat]
  keepalive := by
    show ∀ other ∈ session.taken.dropLast, _
    rw [split, List.dropLast_concat]
    exact keepalive

/-- The requests before the one that waits keep the connection open. -/
theorem InOrder.keepalive_done (inOrder : InOrder site session) {request : HttpRequest}
    (split : session.taken = done ++ [request]) :
    ∀ other ∈ done, other.isKeepalive site.unicode = true := by
  have keepalive := inOrder.keepalive
  rwa [split, List.dropLast_concat] at keepalive

/-- A request is taken and routed. -/
theorem InOrder.route (inOrder : InOrder site session) (reading : session.phase = .reading)
    (left : Bytes) (request : HttpRequest) :
    InOrder site ({ session with buffer := left, taken := session.taken ++ [request] }.route site
      request) := by
  obtain ⟨done, waiting, forwarded, answers, split, served, waits⟩ := inOrder.answered
  rw [reading] at waits
  obtain ⟨rfl, ⟨rfl, rfl⟩, keepalive⟩ := waits
  rw [List.append_nil] at split
  rw [split] at keepalive
  have taken : session.taken ++ [request] = done ++ [request] := by rw [split]
  unfold Session.route
  split
  · rename_i absent
    exact inOrder_respond taken keepalive (served.own request _ (.unrouted absent))
  · rename_i location chosen
    split
    · rename_i rooted
      exact inOrder_respond taken keepalive (served.own request _ (.file location chosen rooted))
    · refine ⟨⟨done, [request], session.forwarded, session.answers, taken, served, rfl,
        ⟨rfl, rfl⟩, chosen⟩, ?_⟩
      show ∀ other ∈ (session.taken ++ [request]).dropLast, _
      rw [taken, List.dropLast_concat]
      exact keepalive

/-- The request that waits is forwarded, or cannot be. -/
theorem InOrder.connected (inOrder : InOrder site session) {request : HttpRequest}
    {location : ProxyLocation} {upgrade : Bool}
    (phase : session.phase = .connecting request location upgrade) (server : Option Endpoint) :
    InOrder site (session.connected request location upgrade server) := by
  obtain ⟨done, waiting, forwarded, answers, split, served, waits⟩ := inOrder.answered
  rw [phase] at waits
  obtain ⟨rfl, ⟨rfl, rfl⟩, chosen⟩ := waits
  cases server with
  | none =>
    exact inOrder_respond split (inOrder.keepalive_done split)
      (served.own request _ (.unreached location chosen))
  | some server =>
    simp only [Session.connected]
    split
    · exact ⟨⟨done, [request], _, _, split, served, .waiting request ⟨rfl, rfl⟩⟩,
        inOrder.keepalive⟩
    · exact ⟨⟨done, [request], _, _, split, served, rfl, ⟨server, rfl, rfl⟩, chosen⟩,
        inOrder.keepalive⟩

/-- The one request that waits is answered by the server that it was forwarded to. -/
theorem InOrder.exchanged (inOrder : InOrder site session) {request : HttpRequest}
    {location : ProxyLocation} (phase : session.phase = .exchanging request location)
    (data : Bytes) : InOrder site (session.answered site request location data) := by
  obtain ⟨done, waiting, forwarded, answers, split, served, waits⟩ := inOrder.answered
  rw [phase] at waits
  obtain ⟨rfl, ⟨server, exchanged, rfl⟩, chosen⟩ := waits
  unfold Session.answered
  split
  · rename_i unread
    exact ⟨⟨done, [request], forwarded, session.answers, split, served,
      .unread request server data exchanged rfl unread⟩, inOrder.keepalive⟩
  · rename_i response read
    refine inOrder_respond split (inOrder.keepalive_done split) ?_
    show Served site (done ++ [request]) session.forwarded (session.answers ++ [data]) _
    rw [exchanged]
    exact served.relayed request location chosen server data response read

/-- The answer is written, and the next request is read or the connection ends. -/
theorem InOrder.drained (inOrder : InOrder site session) {request : HttpRequest}
    (phase : session.phase = .responding request) :
    InOrder site { session with
      phase := if request.isKeepalive site.unicode then .reading else .closed } := by
  obtain ⟨done, waiting, forwarded, answers, split, served, waits⟩ := inOrder.answered
  rw [phase] at waits
  obtain ⟨rfl, settled, last⟩ := waits
  by_cases keepalive : request.isKeepalive site.unicode = true
  · rw [if_pos keepalive]
    refine ⟨⟨done, [], forwarded, answers, split, served, rfl, settled, fun other member => ?_⟩,
      inOrder.keepalive⟩
    obtain ⟨front, whole⟩ := List.getLast?_eq_some_iff.mp last
    have member : other ∈ front ++ [request] := whole ▸ member
    rcases List.mem_append.mp member with before | same
    · exact inOrder.keepalive_done whole other before
    · exact List.mem_singleton.mp same ▸ keepalive
  · rw [if_neg keepalive]
    exact inOrder.closed

theorem InOrder.step {event : SessionEvent} (inOrder : InOrder site session)
    (stepped : session.step site turns event = some next) : InOrder site next := by
  cases event with
  | received data =>
    simp only [Session.step] at stepped
    split at stepped
    · rename_i reading
      unfold Session.receive at stepped
      split at stepped
      · exact Option.some.inj stepped ▸ inOrder.closed
      · split at stepped
        · cases stepped
        · exact Option.some.inj stepped ▸ inOrder.closed
        · exact Option.some.inj stepped ▸ inOrder.buffered reading _
        · exact Option.some.inj stepped ▸ inOrder.route reading _ _
    · cases stepped
  | connected server =>
    simp only [Session.step] at stepped
    split at stepped
    · rename_i request location upgrade phase
      exact Option.some.inj stepped ▸ inOrder.connected phase server
    · cases stepped
  | answered data =>
    simp only [Session.step] at stepped
    split at stepped
    · rename_i request location phase
      exact Option.some.inj stepped ▸ inOrder.exchanged phase data
    · cases stepped
  | drained =>
    simp only [Session.step] at stepped
    split at stepped
    · rename_i request phase
      exact Option.some.inj stepped ▸ inOrder.drained phase
    · cases stepped
  | fails =>
    simp only [Session.step] at stepped
    split at stepped
    · cases stepped
    · cases stepped
    · exact Option.some.inj stepped ▸ inOrder.closed

/-- The requests that may have been forwarded. -/
def forwardable (taken : List HttpRequest) : SessionPhase → List HttpRequest
  | .connecting _ _ _ => taken.dropLast
  | _ => taken

theorem forwardable_begins (taken : List HttpRequest) (phase : SessionPhase) :
    forwardable taken phase <+: taken := by
  cases phase with
  | connecting => exact List.dropLast_prefix taken
  | _ => exact List.prefix_rfl

/-- What was written to servers are these requests, in their order. -/
def Forwards (requests : List HttpRequest) (forwarded : List (Endpoint × Bytes)) : Prop :=
  List.Forall₂ (fun request exchange => exchange.2 = forwardRequest request exchange.1) requests
    forwarded

/-- At most one request is without an answer, and none when the connection reads. -/
theorem InOrder.lengths (inOrder : InOrder site session) :
    session.sent.length ≤ (forwardable session.taken session.phase).length ∧
      session.taken.length ≤ session.sent.length + 1 ∧
      (session.phase = .reading → session.sent.length = session.taken.length) := by
  obtain ⟨done, waiting, forwarded, answers, split, served, waits⟩ := inOrder.answered
  have few := waits.unanswered.few
  rw [split, List.length_append, ← served.length_eq]
  cases phase : session.phase with
  | reading =>
    rw [phase] at waits
    simp [forwardable, waits.1]
  | connecting request location upgrade =>
    rw [phase] at waits
    simp [forwardable, waits.1]
  | _ => exact ⟨by simp [forwardable], by omega, nofun⟩

/-- There were at least as many reads as requests, and the answers of the servers are those of the
run. -/
def Records (past : List SessionEvent) (session : Session) : Prop :=
  session.taken.length ≤ past.countP SessionEvent.isReceived ∧
    session.answers = past.filterMap SessionEvent.answer

theorem route_records (request : HttpRequest) :
    (session.route site request).taken = session.taken ∧
      (session.route site request).answers = session.answers := by
  unfold Session.route
  split
  · exact ⟨rfl, rfl⟩
  · split
    · exact ⟨rfl, rfl⟩
    · exact ⟨rfl, rfl⟩

/-- A read takes one request at most: one that came with the request before it waits for more. Only
the answer of a server is noted as one. -/
theorem records_step {event : SessionEvent} (stepped : session.step site turns event = some next) :
    next.taken.length ≤ session.taken.length + (if event.isReceived then 1 else 0) ∧
      next.answers = session.answers ++ event.answer.toList := by
  have silent : session.answers = session.answers ++ [] := (List.append_nil _).symm
  cases event with
  | received data =>
    simp only [Session.step] at stepped
    split at stepped
    · unfold Session.receive at stepped
      split at stepped
      · exact Option.some.inj stepped ▸ ⟨Nat.le_add_right _ _, silent⟩
      · split at stepped
        · cases stepped
        · exact Option.some.inj stepped ▸ ⟨Nat.le_add_right _ _, silent⟩
        · exact Option.some.inj stepped ▸ ⟨Nat.le_add_right _ _, silent⟩
        · obtain ⟨taken, answers⟩ := @route_records site _ _
          rw [← Option.some.inj stepped, taken, answers, List.length_append]
          exact ⟨Nat.le_refl _, silent⟩
    · cases stepped
  | connected server =>
    simp only [Session.step] at stepped
    split at stepped
    · obtain rfl := Option.some.inj stepped
      cases server with
      | none => exact ⟨Nat.le_refl _, silent⟩
      | some server =>
        simp only [Session.connected]
        split
        · exact ⟨Nat.le_refl _, silent⟩
        · exact ⟨Nat.le_refl _, silent⟩
    · cases stepped
  | answered data =>
    simp only [Session.step] at stepped
    split at stepped
    · obtain rfl := Option.some.inj stepped
      unfold Session.answered
      split
      · exact ⟨Nat.le_refl _, rfl⟩
      · exact ⟨Nat.le_refl _, rfl⟩
    · cases stepped
  | drained =>
    simp only [Session.step] at stepped
    split at stepped
    · exact Option.some.inj stepped ▸ ⟨Nat.le_refl _, silent⟩
    · cases stepped
  | fails =>
    simp only [Session.step] at stepped
    split at stepped
    · cases stepped
    · cases stepped
    · exact Option.some.inj stepped ▸ ⟨Nat.le_refl _, silent⟩

def exampleLocation : ProxyLocation where
  path := ['/']
  root := []
  cacheTtl := 300
  upstream := "app"
  wsEnabled := true

def exampleSite : Site where
  unicode := plainUnicode
  locations := [exampleLocation]
  compress _ := true
  compressor := none
  guessType _ := none
  files := ⟨fun _ => none, fun _ _ => rfl⟩

/-- A request comes in two parts, and is answered by a server. -/
def exampleVisit : List SessionEvent :=
  [.received (exampleGet.encode.take 7), .received (exampleGet.encode.drop 7),
    .connected (some exampleBackend), .answered exampleFound, .drained]

/-- Whatever the client and the servers do: each request was answered at its place, by the connection
itself or with what the server answered to which it was forwarded; at most one is left, which may
have been forwarded; none was taken after one that ends the connection; and each takes a read of its
own, also one that came with the one before. -/
theorem answers_in_order (site : Site) (turns : Nat) (client : Endpoint)
    (events : List SessionEvent) (session : Session)
    (ran : runFrom (step site turns) (start client) events = some session) :
    (∃ done waiting forwarded answers, session.taken = done ++ waiting ∧
        Served site done forwarded answers session.sent ∧
        Unanswered site session forwarded answers waiting) ∧
      (∀ request ∈ session.taken.dropLast, request.isKeepalive site.unicode = true) ∧
      session.taken.length ≤ events.countP SessionEvent.isReceived ∧
      session.answers = events.filterMap SessionEvent.answer := by
  have inOrder : InOrder site session :=
    run_invariant (fun _ _ _ _ inOrder stepped => inOrder.step stepped) (inOrder_start client)
      (holdsAlong_true events _) ran
  have nothing : Records [] (start client) := ⟨Nat.le_refl 0, rfl⟩
  have records : Records events session := by
    refine history_invariant (fun past before event after _ _ records stepped => ?_) nothing
      (holdsAlong_true events _) ran
    obtain ⟨fewer, heard⟩ := records
    obtain ⟨more, answered⟩ := records_step stepped
    refine ⟨?_, ?_⟩
    · rw [List.countP_append, List.countP_singleton]
      omega
    · rw [answered, heard, List.filterMap_append]
      cases event with
      | answered data => rfl
      | _ => rfl
  obtain ⟨done, waiting, forwarded, answers, split, served, waits⟩ := inOrder.answered
  exact ⟨⟨done, waiting, forwarded, answers, split, served, waits.unanswered⟩, inOrder.keepalive,
    records⟩

theorem answers_in_order_example :
    ∃ session, runFrom (step exampleSite 0) (start examplePeer) exampleVisit = some session ∧
      session.sent.length = 1 ∧ session.answers = [exampleFound] ∧
      ∃ done waiting forwarded answers, session.taken = done ++ waiting ∧
        Served exampleSite done forwarded answers session.sent ∧
        Unanswered exampleSite session forwarded answers waiting := by
  obtain ⟨session, ran, sent, heard⟩ : ∃ session,
      runFrom (step exampleSite 0) (start examplePeer) exampleVisit = some session ∧
        session.sent.length = 1 ∧ session.answers = [exampleFound] := ⟨_, rfl, rfl, rfl⟩
  exact ⟨session, ran, sent, heard,
    (answers_in_order exampleSite 0 examplePeer exampleVisit session ran).1⟩

end Session

/-! ### Plain requests -/

namespace WireRequest

variable {wire : WireRequest}

/-- A header of a plain request was on the wire. -/
theorem Plain.mem_fields (plain : wire.Plain) {key value : Text}
    (stored : (headersOf wire.fields).get? key = some value) :
    ∃ field ∈ wire.fields, field.key = key ∧ field.value = value := by
  have member := Dict.get?_eq_some_iff.mp stored
  rw [plain.entries] at member
  obtain ⟨field, inside, same⟩ := List.mem_map.mp member
  exact ⟨field, inside, (Prod.mk.inj same).1, (Prod.mk.inj same).2⟩

theorem isToken_key (field : HeaderField) : isToken field.key := by
  refine ⟨fun empty => field.token.1 (List.map_eq_nil_iff.mp empty), fun char member => ?_⟩
  obtain ⟨original, inside, rfl⟩ := List.mem_map.mp member
  have token := field.token.2 original inside
  exact @ascii_induction (fun char => isTokenChar char = true → isTokenChar char.toLower = true)
    (by decide) original (toNat_lt_of_isTokenChar token) token

theorem Plain.wellFormed (plain : wire.Plain) : wire.request.WellFormed where
  method := wire.token
  path := by
    refine ⟨fun empty => ?_, wire.visible⟩
    have target : wire.target = [] := empty
    have form := wire.form
    rw [target] at form
    rcases form with slash | star | colon
    · cases slash
    · cases star
    · cases colon
  fields key value stored := by
    obtain ⟨field, inside, rfl, rfl⟩ := plain.mem_fields stored
    exact .inr ⟨isToken_key field, .inr (.inr field.visible)⟩

theorem Plain.framed (plain : wire.Plain) : wire.request.Framed := by
  rw [HttpRequest.Framed, request]
  cases length : (headersOf wire.fields).get? "content-length".toList with
  | none =>
    refine wire.unframed fun field inside key => ?_
    refine Dict.get?_eq_none_iff.mp length ?_
    rw [Dict.keys, plain.entries, List.map_map]
    exact List.mem_map.mpr ⟨field, inside, key⟩
  | some digits =>
    obtain ⟨field, inside, key, rfl⟩ := plain.mem_fields length
    obtain ⟨nonempty, digit, same⟩ := wire.framed field inside key
    show readLength field.value = some wire.body.length
    rw [readLength, if_pos ⟨nonempty, digit⟩, same]

theorem Plain.feed_encode (plain : wire.Plain) (unicode : UnicodeData) (turns : Nat)
    {buffer data : Bytes} (whole : buffer ++ data = wire.encode) :
    feed unicode turns buffer data = .ok (some wire.request, []) := by
  have parsed := plain.tryParse_encode unicode turns []
  rw [List.append_nil, ite_self] at parsed
  rw [feed, whole, parsed]

end WireRequest

/-- A server reads a request with the client's method, target and body, and with the address that
the proxy saw. -/
def Reads (client : Endpoint) (wire : WireRequest) (exchange : Endpoint × Bytes) : Prop :=
  ∀ refuses, ∃ headers, readRequest refuses exchange.2 =
      some (⟨wire.method, wire.target, headers, wire.body⟩, []) ∧
    valuesOf "x-real-ip".toList headers = [stripBlanks isBlank client.host]

/-- A plain request is read by the server as the client wrote it. -/
theorem WireRequest.Plain.reads {wire : WireRequest} (plain : wire.Plain)
    (client server : Endpoint) :
    Reads client wire (server, forwardRequest (wire.request.ofClient client) server) := by
  have fed := plain.feed_encode plainUnicode 0 (List.nil_append wire.encode)
  have keeps : KeepsLines (wire.request.ofClient client) := by
    obtain ⟨methodBlank, methodLine, pathBlank, pathLine, headers⟩ :=
      keepsLines_of_feed plainUnicode fed
    exact ⟨methodBlank, methodLine, pathBlank, pathLine, headers⟩
  have fields : ∀ entry ∈ (forwardedHeaders (wire.request.ofClient client) server).entries,
      isField entry :=
    Dict.all_iff.mp ((@isField_forwardedHeaders (wire.request.ofClient client) server
      client.plain).mpr plain.wellFormed.fields)
  have read := stripped_of_feed fed
  have stripped : Dict.All (fun _ value => strip value = value)
      (wire.request.ofClient client).headers := read
  intro refuses
  refine ⟨(forwardedHeaders (wire.request.ofClient client) server).entries.map fieldRead, ?_, ?_⟩
  · rw [readRequest, keeps.readHead_forward client.plain, if_pos fields]
    simp only [keeps.splitOn_startLine]
    have body := (@KeepsLines.readBody_forward _ server keeps client.plain stripped refuses).mpr
      plain.framed
    rw [if_pos ⟨plain.wellFormed.method, plain.wellFormed.path, trivial⟩]
    have written : (wire.request.ofClient client).body = wire.body := rfl
    rw [written] at body ⊢
    rw [body]
    rfl
  · rw [valuesOf_fieldRead (keepsLine_forwardedHeaders keeps.headers client.plain),
      get?_forwardedHeaders, if_neg (by decide), if_neg (by decide), if_pos rfl]
    rfl

/-! ### A transparent connection -/

section

variable (site : Site) (turns : Nat) (decoder : ContentDecoder) (requests : List WireRequest)

/-- A request that goes to a server, on a connection that stays open. -/
structure Proxied (wire : WireRequest) : Prop where
  plain : wire.Plain
  keepalive : wire.request.isKeepalive site.unicode = true
  routed : ∃ location, matchLocation site.locations wire.target = some location ∧
    (location.root = [] ∨ wire.method ≠ "GET".toList) ∧
    (location.wsEnabled && wire.request.isWebsocketUpgrade site.unicode) = false

/-- An answer of a server that arrives: it is well formed and of a kind that the proxy passes on. -/
def Passes (request : HttpRequest) (location : ProxyLocation) (data : Bytes) : Prop :=
  ∃ upstream entity, (∀ refuses, readResponse refuses data = some (upstream, [])) ∧
    (200 ≤ upstream.status ∧ upstream.status ≠ 204 ∧ upstream.status ≠ 304) ∧
    upstream.entity decoder = some entity ∧
    ResponseArrives site.unicode decoder site.compressor (site.compress location) request data
      upstream

/-- The client reads the status and the entity of the answer of the server. -/
def Arrives (data sent : Bytes) : Prop :=
  ∃ upstream entity, (∀ refuses, readResponse refuses data = some (upstream, [])) ∧
    upstream.entity decoder = some entity ∧
    ∀ refuses, ∃ message, readResponse refuses sent = some (message, []) ∧
      message.status = upstream.status ∧ message.entity decoder = some entity

end

/-- What the client has sent. -/
def SessionEvent.data : SessionEvent → Bytes
  | .received data => data
  | _ => []

section

variable {site : Site} {turns : Nat} {decoder : ContentDecoder} {client : Endpoint}
  {requests : List WireRequest} {session next : Session} {past : List SessionEvent}

theorem Passes.arrives {request : HttpRequest} {location : ProxyLocation} {data : Bytes}
    (inverse : ∀ gzipper ∈ site.compressor, ∀ data,
      decoder.decode "gzip".toList (gzipper.gzip gzipper.level data) = some data)
    (passes : Passes site decoder request location data) :
    ∃ response, readUpstreamResponse site.unicode data = some response ∧
      Arrives decoder data (sendResponse (compressResponse site.unicode site.compressor
        (site.compress location) (acceptedBy request) response)) := by
  obtain ⟨upstream, entity, wellFormed, allowsBody, decodes, arrives⟩ := passes
  obtain ⟨head, rest, reason, lines, cut, plain, fields, body, readEq⟩ :=
    readUpstreamResponse_eq site.unicode (wellFormed true)
  obtain ⟨_, _, _, _, _, -, -, -, -, code, -⟩ := readResponse_some (wellFormed true)
  have high := lt_of_readStatus code
  have low : 100 ≤ upstream.status := by omega
  obtain ⟨fits, readable, uncoded, compressed, kept⟩ := arrives
  obtain ⟨client, read, status, whenCompressed, whenPlain⟩ := @readResponse_relayed site.unicode
    decoder site.compressor (site.compress location) request upstream rest lines reason inverse low
    high plain fields uncoded body entity decodes
  refine ⟨responseRead upstream reason, ?_, upstream, entity, wellFormed, decodes,
    fun refuses => ⟨client, read refuses, status, ?_⟩⟩
  · rw [readEq, if_neg (Nat.not_lt.mpr (fits head rest cut)),
      readResponseBody_eq site.unicode uncoded body, if_pos readable]
    rfl
  · by_cases compresses : Compresses site.unicode site.compressor (site.compress location) request
      upstream
    · rw [whenCompressed compresses, ← compressed compresses, decodes]
    · rw [whenPlain compresses, kept compresses, decodes]

/-- What a phase of a transparent connection may be. -/
def SessionPhase.transparent : SessionPhase → Prop
  | .connecting _ _ upgrade => upgrade = false
  | .upgraded _ _ | .closed => False
  | _ => True

/-- The connection has taken the requests that are there as a whole, has forwarded all of them that
it could, and the client has what the servers answered. -/
structure Transparent (site : Site) (decoder : ContentDecoder) (client : Endpoint)
    (requests : List WireRequest) (past : List SessionEvent) (session : Session) : Prop where
  inOrder : Session.InOrder site session
  ofClient : session.client = client
  taken : session.taken = (requests.take session.taken.length).map fun wire =>
    wire.request.ofClient client
  received : past.flatMap SessionEvent.data =
    (requests.take session.taken.length).flatMap WireRequest.encode ++ session.buffer
  remains : Remains WireRequest.encode (requests.drop session.taken.length) session.buffer
  forwarded : Session.Forwards (Session.forwardable session.taken session.phase) session.forwarded
  answered : List.Forall₂ (Arrives decoder) (past.filterMap SessionEvent.answer) session.sent
  phase : session.phase.transparent

/-- What was forwarded are the first of the requests. -/
theorem Transparent.forwarded_eq
    (transparent : Transparent site decoder client requests past session) :
    session.forwarded.length ≤ session.taken.length ∧
      Session.Forwards ((requests.take session.forwarded.length).map fun wire =>
        wire.request.ofClient client) session.forwarded := by
  have forwarded := transparent.forwarded
  have first := Session.forwardable_begins session.taken session.phase
  have fewer := first.length_le
  have length := forwarded.length_eq
  rw [length] at fewer
  refine ⟨fewer, ?_⟩
  rw [List.prefix_iff_eq_take.mp first, length, transparent.taken, ← List.map_take,
    List.take_take, Nat.min_eq_left fewer] at forwarded
  exact forwarded

/-- The servers read the requests that were forwarded. -/
theorem Transparent.reads (proxied : ∀ wire ∈ requests, Proxied site wire)
    (transparent : Transparent site decoder client requests past session) :
    List.Forall₂ (Reads client) (requests.take session.forwarded.length) session.forwarded := by
  have forwarded := List.forall₂_map_left_iff.mp transparent.forwarded_eq.2
  have plain : ∀ wire ∈ requests.take session.forwarded.length, wire.Plain :=
    fun wire member => (proxied wire (List.mem_of_mem_take member)).plain
  refine ((List.forall₂_and_left _ _).mpr ⟨plain, forwarded⟩).imp fun wire exchange both => ?_
  obtain ⟨wirePlain, written⟩ := both
  have reads := wirePlain.reads client exchange.1
  rw [← written] at reads
  exact reads

end

/-! ### A visit -/

end LocalNetwork
