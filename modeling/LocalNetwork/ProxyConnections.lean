/-
This file models the coroutine of a proxied connection: `Connection.handle` and
`_connect_upstream` of `proxy/connection.py`, the awaits of `_forward_request`, and
`handle_websocket_upgrade` of `proxy/websocket.py`. The connections of a worker share its
balancers.

A coroutine runs from one await to the next without interruption, so a step resumes one
connection with what its await returned or raised. Awaits between which nothing shared
changes are one await: those that read a request, those that read the response of a
server, and those of the WebSocket relay. What is sent to the client, the access log, the
health monitor and the status counters do not feed back into a connection; of these only
the awaits are modelled.
-/

import LocalNetwork.LoadBalancer
import LocalNetwork.StaticFiles
import LocalNetwork.Transition

namespace LocalNetwork

/-! ### Configuration -/

structure UpstreamBlock where
  name : String
  servers : List UpstreamServer
  algorithm : String

structure ProxyConfig where
  locations : List ProxyLocation
  upstreams : List UpstreamBlock
  accessLog : Bool

/-- What a worker uses of the interpreter and its library. -/
structure ProxyPackages (Score : Type) extends BalancerPackages Score where
  unicode : UnicodeData

/-! ### Requests -/

namespace HttpRequest

variable (unicode : UnicodeData)

/-- The header `Connection` in small letters. -/
def connectionHeader (request : HttpRequest) : Text :=
  lowerText unicode ((request.headers.get? "connection".toList).getD [])

def isKeepalive (request : HttpRequest) : Bool :=
  if request.version = "HTTP/1.0".toList then
    request.connectionHeader unicode = "keep-alive".toList
  else request.connectionHeader unicode ≠ "close".toList

def isWebsocketUpgrade (request : HttpRequest) : Bool :=
  lowerText unicode ((request.headers.get? "upgrade".toList).getD []) = "websocket".toList ∧
    (cutAt "upgrade".toList (request.connectionHeader unicode)).isSome

end HttpRequest

/-! ### The awaits of a connection -/

/-- Where `_forward_request` waits. -/
inductive ForwardStage where
  | drain
  | read
  deriving DecidableEq

/-- Where `handle_websocket_upgrade` waits. -/
inductive WebSocketStage where
  | refuse
  | drain
  | answer
  | upgrade
  | relay
  | closing
  deriving DecidableEq

/-- Where a connection waits; a closed connection holds the upstream connection that it left
open, with the name of the upstream. -/
inductive ProxyPhase where
  | readRequest
  | sendError (request : HttpRequest)
  | sendResponse (request : HttpRequest)
  | log (request : HttpRequest)
  | connectUpstream (request : HttpRequest) (location : ProxyLocation) (server : UpstreamServer)
    (upgrade : Bool)
  | forward (request : HttpRequest) (location : ProxyLocation) (server : UpstreamServer)
    (stage : ForwardStage)
  | webSocket (location : ProxyLocation) (server : UpstreamServer) (stage : WebSocketStage)
  | closed (leftOpen : Option (String × UpstreamServer))

/-- The upstream connection that is open while a connection waits. -/
def ProxyPhase.upstream : ProxyPhase → Option (String × UpstreamServer)
  | .forward _ location server _ => some (location.upstream, server)
  | .webSocket location server _ => some (location.upstream, server)
  | .closed leftOpen => leftOpen
  | _ => none

/-- What an await returns or raises. -/
inductive AwaitResult where
  /-- A parsed request, with the draw of a `select` that follows. -/
  | request (request : HttpRequest) (draw : UnitDraw)
  /-- The head of the answer to an upgrade request. -/
  | head (data : Bytes)
  | done
  /-- The end of a stream, a timeout or a failed connection where the code looks for it. -/
  | caught
  /-- Any other exception, a cancellation among them. -/
  | raised

/-- What `handle_websocket_upgrade` does next. -/
inductive WebSocketMove where
  | awaits (stage : WebSocketStage)
  | returned
  | raised
  deriving DecidableEq

/-- The first await of `handle_websocket_upgrade`. -/
def webSocketStart (request : HttpRequest) : WebSocketStage :=
  if (request.headers.get? "sec-websocket-key".toList).getD [] = [] then .refuse else .drain

/-- The answer of the server: anything but a 101 is written with an `await` on no awaitable. -/
def webSocketAnswer (unicode : UnicodeData) (data : Bytes) : WebSocketMove :=
  match splitAtMost [' '] 2 ((splitOn crlf (decodeText data)).head?.getD []) with
  | _ :: code :: _ =>
    match parseInt unicode code with
    | none => .raised
    | some status => if status ≠ 101 then .raised else .awaits .upgrade
  | _ => .awaits .refuse

/-- One step of `handle_websocket_upgrade`. -/
def webSocketNext (unicode : UnicodeData) : WebSocketStage → AwaitResult → Option WebSocketMove
  | _, .raised => some .raised
  | .refuse, .done => some .returned
  | .drain, .done => some (.awaits .answer)
  | .answer, .head data => some (webSocketAnswer unicode data)
  | .answer, .caught => some (.awaits .refuse)
  | .upgrade, .done => some (.awaits .relay)
  | .relay, .done => some (.awaits .closing)
  | .closing, .done => some .returned
  | _, _ => none

/-! ### A worker -/

structure ProxyConnection where
  clientIp : Text
  phase : ProxyPhase

structure Proxy where
  config : ProxyConfig
  balancers : Dict String LoadBalancer
  connections : Dict Nat ProxyConnection

inductive ProxyEvent where
  /-- A client connects. -/
  | accept (id : Nat) (clientIp : Text)
  /-- The await of a connection ends. -/
  | resume (id : Nat) (result : AwaitResult)

/-- A balancer for every upstream, by its name. -/
def createBalancers : List UpstreamBlock → Dict String LoadBalancer →
    Except BalancerException (Dict String LoadBalancer)
  | [], balancers => .ok balancers
  | block :: rest, balancers =>
    match createBalancer block.algorithm with
    | .error exception => .error exception
    | .ok balancer => createBalancers rest (balancers.insert block.name balancer)

namespace Proxy

/-- A worker that has just started. -/
def init (config : ProxyConfig) : Except BalancerException Proxy :=
  match createBalancers config.upstreams Dict.empty with
  | .error exception => .error exception
  | .ok balancers => .ok ⟨config, balancers, Dict.empty⟩

/-- The upstreams by name, the last of a name. -/
def upstreams (proxy : Proxy) : Dict String (List UpstreamServer) :=
  Dict.ofEntries (proxy.config.upstreams.map fun block => (block.name, block.servers))

variable {Score : Type} [LinearOrder Score] (packages : ProxyPackages Score) (proxy : Proxy)
  (id : Nat) (connection : ProxyConnection)

/-- Run a connection to its next await. -/
def await (phase : ProxyPhase) : Proxy :=
  { proxy with connections := proxy.connections.insert id { connection with phase := phase } }

/-- The end of a turn of the main loop. -/
def nextRequest (request : HttpRequest) : Proxy :=
  if request.isKeepalive packages.unicode then proxy.await id connection .readRequest
  else proxy.await id connection (.closed none)

/-- `_connect_upstream` up to the connection: choose a server, or send an error. -/
def connectUpstream (request : HttpRequest) (location : ProxyLocation) (upgrade : Bool)
    (draw : UnitDraw) : Proxy :=
  match proxy.upstreams.get? location.upstream, proxy.balancers.get? location.upstream with
  | some servers, some balancer =>
    let (result, next) := balancer.select packages.toBalancerPackages servers
      (String.ofList request.clientIp) draw
    let chosen := { proxy with balancers := proxy.balancers.insert location.upstream next }
    match result with
    | .error _ => chosen.await id connection (.closed none)
    | .ok none => chosen.await id connection (.sendError request)
    | .ok (some server) =>
      chosen.await id connection (.connectUpstream request location server upgrade)
  | _, _ => proxy.await id connection (.sendError request)

/-- A turn of the main loop from the parsed request on. -/
def route (request : HttpRequest) (draw : UnitDraw) : Proxy :=
  match matchLocation proxy.config.locations request.path with
  | none => proxy.await id connection (.sendError request)
  | some location =>
    if location.root ≠ [] ∧ request.method = "GET".toList then
      proxy.await id connection (.sendResponse request)
    else
      proxy.connectUpstream packages id connection request location
        (location.wsEnabled && request.isWebsocketUpgrade packages.unicode) draw

/-- The rest of `_connect_upstream` with an open upstream connection, up to the next await. -/
def connected (request : HttpRequest) (location : ProxyLocation) (server : UpstreamServer)
    (upgrade : Bool) : Proxy :=
  let counted := { proxy with
    balancers := proxy.balancers.modify location.upstream (LoadBalancer.increment server) }
  if upgrade then counted.await id connection (.webSocket location server (webSocketStart request))
  else counted.await id connection (.forward request location server .drain)

/-- The `finally` of `_forward_request`: the count goes down and the upstream connection is
closed. -/
def release (location : ProxyLocation) (server : UpstreamServer) (phase : ProxyPhase) : Proxy :=
  let counted := { proxy with
    balancers := proxy.balancers.modify location.upstream (LoadBalancer.decrement server) }
  counted.await id connection phase

/-- What `handle` does after a step of `handle_websocket_upgrade`: when the handler returns, it
closes the upstream connection, and an exception passes by that. -/
def webSocketMoved (location : ProxyLocation) (server : UpstreamServer) : WebSocketMove → Proxy
  | .awaits stage => proxy.await id connection (.webSocket location server stage)
  | .returned => proxy.await id connection (.closed none)
  | .raised => proxy.await id connection (.closed (some (location.upstream, server)))

/-- Run a connection from the end of its await to the next await. -/
def resume : ProxyPhase → AwaitResult → Option Proxy
  | .readRequest, .request request draw =>
    some (proxy.route packages id connection { request with clientIp := connection.clientIp } draw)
  | .readRequest, .caught => some (proxy.await id connection (.closed none))
  | .sendError request, .done => some (proxy.nextRequest packages id connection request)
  | .sendResponse request, .done =>
    if proxy.config.accessLog then some (proxy.await id connection (.log request))
    else some (proxy.nextRequest packages id connection request)
  | .log request, .done => some (proxy.nextRequest packages id connection request)
  | .connectUpstream request location server upgrade, .done =>
    some (proxy.connected id connection request location server upgrade)
  | .connectUpstream request _ _ _, .caught => some (proxy.await id connection (.sendError request))
  | .forward request location server .drain, .done =>
    some (proxy.await id connection (.forward request location server .read))
  | .forward request location server .read, .done =>
    some (proxy.release id connection location server (.sendResponse request))
  | .forward _ location server _, .raised =>
    some (proxy.release id connection location server (.closed none))
  | .webSocket location server stage, result =>
    (webSocketNext packages.unicode stage result).map
      (proxy.webSocketMoved id connection location server)
  | .closed _, _ => none
  | _, .raised => some (proxy.await id connection (.closed none))
  | _, _ => none

def step (proxy : Proxy) : ProxyEvent → Option Proxy
  | .accept id clientIp =>
    if proxy.connections.get? id = none then
      some { proxy with connections := proxy.connections.insert id ⟨clientIp, .readRequest⟩ }
    else none
  | .resume id result =>
    match proxy.connections.get? id with
    | none => none
    | some connection => proxy.resume packages id connection connection.phase result

end Proxy

end LocalNetwork
