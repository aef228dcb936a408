/-
This file proves when the table of a `least_conn` balancer counts the open upstream
connections. `_connect_upstream` counts a connection up in the step in which it opens, and
`_forward_request` counts it down in the step in which it closes it, on every way out. A
WebSocket upgrade takes the same connection and never counts it down: once its handler
returns, the connection is closed and still counted, and after an exception it stays open.

The balancers are shared by all connections, and a step changes the table of a balancer and
the phase of one connection together. The table counts right as long as no WebSocket
handler returns, and no connection that ended is still counted as long as none raises.
-/

import LocalNetwork.ProxyConnections
import LocalNetwork.Totals

namespace LocalNetwork

/-! ### Counting open connections -/

/-- One for a phase that holds an upstream connection to a server of an upstream. -/
def ProxyPhase.opens (phase : ProxyPhase) (name key : String) : Nat :=
  match phase.upstream with
  | some (upstream, server) => if upstream = name ∧ server.key = key then 1 else 0
  | none => 0

def ProxyPhase.isClosed : ProxyPhase → Bool
  | .closed _ => true
  | _ => false

namespace Proxy

/-- The open upstream connections to a server of an upstream. -/
def openTo (proxy : Proxy) (name key : String) : Nat :=
  proxy.connections.total fun _ connection => connection.phase.opens name key

/-- The `least_conn` balancer of an upstream. -/
def leastConn (proxy : Proxy) (name : String) : Option LeastConnBalancer :=
  match proxy.balancers.get? name with
  | some (.leastConn balancer) => some balancer
  | _ => none

/-- Every `least_conn` balancer counts the open connections of its upstream, server by server. -/
def Counted (proxy : Proxy) : Prop :=
  ∀ name balancer, proxy.leastConn name = some balancer →
    ∀ key, (balancer.activeConns.get? key).getD 0 = proxy.openTo name key

/-- All connections have ended. -/
def AllEnded (proxy : Proxy) : Prop :=
  ∀ connection ∈ proxy.connections.values, connection.phase.isClosed = true

instance (proxy : Proxy) : Decidable proxy.AllEnded :=
  inferInstanceAs (Decidable (∀ connection ∈ proxy.connections.values,
    connection.phase.isClosed = true))

/-- No `least_conn` balancer counts a connection. -/
def NoneCounted (proxy : Proxy) : Prop :=
  ∀ name balancer, proxy.leastConn name = some balancer →
    ∀ key, (balancer.activeConns.get? key).getD 0 = 0

end Proxy

namespace LeastConnBalancer

theorem count_increment (balancer : LeastConnBalancer) (server : UpstreamServer) (key : String) :
    ((balancer.increment server).activeConns.get? key).getD 0 =
      (balancer.activeConns.get? key).getD 0 + if server.key = key then 1 else 0 := by
  rw [increment, Dict.get?_insert]
  by_cases same : key = server.key
  · rw [if_pos same, if_pos same.symm, same]
    rfl
  · rw [if_neg same, if_neg (Ne.symm same), Nat.add_zero]

/-- Counting down undoes counting up, for a server that is counted. -/
theorem count_decrement (balancer : LeastConnBalancer) (server : UpstreamServer) (key : String)
    (counted : 0 < (balancer.activeConns.get? server.key).getD 0) :
    ((balancer.decrement server).activeConns.get? key).getD 0 +
        (if server.key = key then 1 else 0) = (balancer.activeConns.get? key).getD 0 := by
  rw [decrement, Dict.get?_insert]
  by_cases same : key = server.key
  · rw [if_pos same, if_pos same.symm, same]
    cases stored : balancer.activeConns.get? server.key with
    | none => rw [stored] at counted; exact absurd counted (Nat.lt_irrefl 0)
    | some count =>
      rw [stored, Option.getD_some] at counted
      exact Nat.sub_add_cancel counted
  · rw [if_neg same, if_neg (Ne.symm same), Nat.add_zero]

end LeastConnBalancer

/-! ### What a step does to the balancers and to one connection -/

/-- The balancers before and after a step, and what a connection holds before and after it. -/
inductive UpstreamMove (before after : String → Option LeastConnBalancer) :
    Option (String × UpstreamServer) → Option (String × UpstreamServer) → Prop
  | kept (held : Option (String × UpstreamServer)) (balancers : after = before) :
    UpstreamMove before after held held
  | opened (name : String) (server : UpstreamServer)
    (balancers : after = fun other =>
      if other = name then (before other).map (·.increment server) else before other) :
    UpstreamMove before after none (some (name, server))
  | released (name : String) (server : UpstreamServer)
    (balancers : after = fun other =>
      if other = name then (before other).map (·.decrement server) else before other) :
    UpstreamMove before after (some (name, server)) none

namespace Proxy

variable {Score : Type} {packages : ProxyPackages Score} {proxy next : Proxy} {id : Nat}
  {connection : ProxyConnection}

/-- The step of a connection: its phase afterwards, and what it did to the balancers. -/
structure Moves (proxy next : Proxy) (id : Nat) (connection : ProxyConnection)
    (phase : ProxyPhase) : Prop where
  connections : next.connections = proxy.connections.insert id { connection with phase := phase }
  upstream : UpstreamMove proxy.leastConn next.leastConn connection.phase.upstream phase.upstream

/-- Waiting with the same upstream connection as before. -/
theorem moves_await {phase : ProxyPhase} (same : phase.upstream = connection.phase.upstream) :
    Moves proxy (proxy.await id connection phase) id connection phase :=
  ⟨rfl, same ▸ .kept _ rfl⟩

theorem leastConn_modify (proxy : Proxy) (name : String) (update : LoadBalancer → LoadBalancer)
    (count : LeastConnBalancer → LeastConnBalancer)
    (counts : ∀ balancer, update (.leastConn balancer) = .leastConn (count balancer))
    (others : ∀ balancer, (∀ state, balancer ≠ .leastConn state) → update balancer = balancer) :
    ({ proxy with balancers := proxy.balancers.modify name update } : Proxy).leastConn =
      fun other => if other = name then (proxy.leastConn other).map count
        else proxy.leastConn other := by
  funext other
  simp only [leastConn, Dict.get?_modify]
  by_cases same : other = name
  · rw [if_pos same, if_pos same]
    cases proxy.balancers.get? other with
    | none => rfl
    | some balancer =>
      cases balancer with
      | leastConn state => rw [Option.map_some, counts]; rfl
      | roundRobin | ipHash | random =>
        rw [Option.map_some, others _ (fun _ equal => by cases equal)]
        rfl
  · rw [if_neg same, if_neg same]

/-- Selecting a server changes no table of connections. -/
theorem leastConn_select [LinearOrder Score] (packages : ProxyPackages Score) {name : String}
    {balancer : LoadBalancer} (servers : List UpstreamServer) (clientIp : String)
    (draw : UnitDraw) (found : proxy.balancers.get? name = some balancer) :
    ({ proxy with balancers := proxy.balancers.insert name (balancer.select
      packages.toBalancerPackages servers clientIp draw).2 } : Proxy).leastConn =
        proxy.leastConn := by
  funext other
  simp only [leastConn]
  by_cases same : other = name
  · rw [same, Dict.get?_insert_self, found]
    cases balancer <;> rfl
  · rw [Dict.get?_insert_of_ne _ _ same]

/-- Choosing a server holds no upstream connection yet. -/
theorem moves_connectUpstream [LinearOrder Score] (request : HttpRequest)
    (location : ProxyLocation) (upgrade : Bool) (draw : UnitDraw)
    (holdsNone : connection.phase.upstream = none) :
    ∃ phase, phase.upstream = none ∧ Moves proxy
      (proxy.connectUpstream packages id connection request location upgrade draw) id connection
        phase := by
  unfold connectUpstream
  split
  · rename_i servers balancer _ found
    have balancers := leastConn_select packages servers
      (String.ofList request.clientIp) draw found
    simp only
    split
    · exact ⟨.closed none, rfl, rfl, holdsNone ▸ .kept none balancers⟩
    · exact ⟨.sendError request, rfl, rfl, holdsNone ▸ .kept none balancers⟩
    · rename_i server _
      exact ⟨.connectUpstream request location server upgrade, rfl, rfl,
        holdsNone ▸ .kept none balancers⟩
  · exact ⟨.sendError request, rfl, moves_await holdsNone.symm⟩

theorem moves_nextRequest (request : HttpRequest) (holdsNone : connection.phase.upstream = none) :
    ∃ phase, phase.upstream = none ∧
      Moves proxy (proxy.nextRequest packages id connection request) id connection phase := by
  unfold nextRequest
  split
  · exact ⟨.readRequest, rfl, moves_await holdsNone.symm⟩
  · exact ⟨.closed none, rfl, moves_await holdsNone.symm⟩

theorem moves_route [LinearOrder Score] (request : HttpRequest) (draw : UnitDraw)
    (holdsNone : connection.phase.upstream = none) :
    ∃ phase, phase.upstream = none ∧
      Moves proxy (proxy.route packages id connection request draw) id connection phase := by
  unfold route
  split
  · exact ⟨.sendError request, rfl, moves_await holdsNone.symm⟩
  · split
    · exact ⟨.sendResponse request, rfl, moves_await holdsNone.symm⟩
    · exact moves_connectUpstream _ _ _ _ holdsNone

/-- An upstream connection opens and is counted in one step. -/
theorem moves_connected (proxy : Proxy) (id : Nat) (request : HttpRequest)
    (location : ProxyLocation) (server : UpstreamServer) (upgrade : Bool)
    (holdsNone : connection.phase.upstream = none) :
    ∃ phase, phase.upstream = some (location.upstream, server) ∧
      (∀ leftOpen, phase ≠ .closed leftOpen) ∧ Moves proxy
        (proxy.connected id connection request location server upgrade) id connection phase := by
  have balancers := leastConn_modify proxy location.upstream (LoadBalancer.increment server)
    (·.increment server) (fun _ => rfl) (fun balancer other => by
      cases balancer with
      | leastConn state => exact absurd rfl (other state)
      | roundRobin | ipHash | random => rfl)
  unfold connected
  simp only
  split
  · exact ⟨.webSocket location server (webSocketStart request), rfl, nofun, rfl,
      holdsNone ▸ .opened _ _ balancers⟩
  · exact ⟨.forward request location server .drain, rfl, nofun, rfl,
      holdsNone ▸ .opened _ _ balancers⟩

/-- An upstream connection closes and is counted down in one step. -/
theorem moves_release (location : ProxyLocation) (server : UpstreamServer) {phase : ProxyPhase}
    (holds : connection.phase.upstream = some (location.upstream, server))
    (holdsNone : phase.upstream = none) :
    Moves proxy (proxy.release id connection location server phase) id connection phase := by
  have balancers := leastConn_modify proxy location.upstream (LoadBalancer.decrement server)
    (·.decrement server) (fun _ => rfl) (fun balancer other => by
      cases balancer with
      | leastConn state => exact absurd rfl (other state)
      | roundRobin | ipHash | random => rfl)
  refine ⟨rfl, ?_⟩
  rw [holds, holdsNone]
  exact .released _ _ balancers

/-- What resuming a connection does. The handler of a WebSocket upgrade returns, which closes its
upstream connection and counts nothing; or the balancers and the connection move together, and only
a handler that raises leaves an upstream connection open. -/
inductive Resumed (packages : ProxyPackages Score) (proxy next : Proxy) (id : Nat)
    (connection : ProxyConnection) (result : AwaitResult) : Prop
  | moved (phase : ProxyPhase) (moves : Moves proxy next id connection phase)
    (open? : phase.upstream = none ∨ ∀ leftOpen, phase ≠ .closed leftOpen)
  | raised (location : ProxyLocation) (server : UpstreamServer) (stage : WebSocketStage)
    (upgraded : connection.phase = .webSocket location server stage)
    (raises : webSocketNext packages.unicode stage result = some .raised)
    (moves : Moves proxy next id connection (.closed (some (location.upstream, server))))
  | returned (location : ProxyLocation) (server : UpstreamServer) (stage : WebSocketStage)
    (upgraded : connection.phase = .webSocket location server stage)
    (returns : webSocketNext packages.unicode stage result = some .returned)
    (closes : next = proxy.await id connection (.closed none))

/-- A handler that holds no upstream connection keeps on without one, or opens one and counts it. -/
theorem resume_idle [LinearOrder Score] {phase : ProxyPhase} {result : AwaitResult}
    (idle : phase.upstream = none) (holdsNone : connection.phase.upstream = none)
    (resumed : proxy.resume packages id connection phase result = some next) :
    Resumed packages proxy next id connection result := by
  have quiet {after : Proxy} (some : Option.some after = Option.some next)
      (moves : ∃ phase, phase.upstream = none ∧ Moves proxy after id connection phase) :
      Resumed packages proxy next id connection result := by
    obtain ⟨phase, holdsNone, moves⟩ := moves
    exact .moved phase (Option.some.inj some ▸ moves) (.inl holdsNone)
  have awaits (after : ProxyPhase) (idle : after.upstream = none) :
      ∃ phase, phase.upstream = none ∧
        Moves proxy (proxy.await id connection after) id connection phase :=
    ⟨after, idle, moves_await (idle.trans holdsNone.symm)⟩
  cases phase with
  | readRequest =>
    cases result with
    | request request draw => exact quiet resumed (moves_route _ _ holdsNone)
    | caught | raised => exact quiet resumed (awaits (.closed none) rfl)
    | head | done => cases resumed
  | sendError request =>
    cases result with
    | done => exact quiet resumed (moves_nextRequest request holdsNone)
    | raised => exact quiet resumed (awaits (.closed none) rfl)
    | request | head | caught => cases resumed
  | sendResponse request =>
    cases result with
    | done =>
      rw [resume] at resumed
      split at resumed
      · exact quiet resumed (awaits (.log request) rfl)
      · exact quiet resumed (moves_nextRequest request holdsNone)
    | raised => exact quiet resumed (awaits (.closed none) rfl)
    | request | head | caught => cases resumed
  | log request =>
    cases result with
    | done => exact quiet resumed (moves_nextRequest request holdsNone)
    | raised => exact quiet resumed (awaits (.closed none) rfl)
    | request | head | caught => cases resumed
  | connectUpstream request location server upgrade =>
    cases result with
    | done =>
      obtain ⟨phase, -, notClosed, moves⟩ :=
        moves_connected proxy id request location server upgrade holdsNone
      exact .moved phase (Option.some.inj resumed ▸ moves) (.inr notClosed)
    | caught => exact quiet resumed (awaits (.sendError request) rfl)
    | raised => exact quiet resumed (awaits (.closed none) rfl)
    | request | head => cases resumed
  | forward | webSocket => cases idle
  | closed => cases result <;> cases resumed

/-- The forwarding of a request closes its upstream connection and counts down, however it ends. -/
theorem resume_forward [LinearOrder Score] {request : HttpRequest} {location : ProxyLocation}
    {server : UpstreamServer} {stage : ForwardStage} {result : AwaitResult}
    (holds : connection.phase.upstream = some (location.upstream, server))
    (resumed : proxy.resume packages id connection (.forward request location server stage) result =
      some next) :
    Resumed packages proxy next id connection result := by
  have ended : Moves proxy (proxy.release id connection location server (.closed none)) id
      connection (.closed none) := moves_release location server holds rfl
  cases stage with
  | drain =>
    cases result with
    | done =>
      exact .moved (.forward request location server .read)
        (Option.some.inj resumed ▸ moves_await holds.symm) (.inr nofun)
    | raised => exact .moved (.closed none) (Option.some.inj resumed ▸ ended) (.inl rfl)
    | request | head | caught => cases resumed
  | read =>
    cases result with
    | done =>
      exact .moved (.sendResponse request)
        (Option.some.inj resumed ▸ moves_release location server holds rfl) (.inl rfl)
    | raised => exact .moved (.closed none) (Option.some.inj resumed ▸ ended) (.inl rfl)
    | request | head | caught => cases resumed

/-- The relay of a WebSocket upgrade keeps its upstream connection as long as it awaits, and counts
nothing when it ends. -/
theorem resume_webSocket [LinearOrder Score] {location : ProxyLocation} {server : UpstreamServer}
    {stage : WebSocketStage} {result : AwaitResult}
    (here : connection.phase = .webSocket location server stage)
    (resumed : proxy.resume packages id connection (.webSocket location server stage) result =
      some next) :
    Resumed packages proxy next id connection result := by
  have holds : connection.phase.upstream = some (location.upstream, server) := by rw [here]; rfl
  have mapped : (webSocketNext packages.unicode stage result).map
      (proxy.webSocketMoved id connection location server) = some next := by
    cases result <;> exact resumed
  obtain ⟨move, following, rfl⟩ := Option.map_eq_some_iff.mp mapped
  cases move with
  | awaits after =>
    exact .moved (.webSocket location server after) (moves_await holds.symm) (.inr nofun)
  | returned => exact .returned location server stage here following rfl
  | raised => exact .raised location server stage here following (moves_await holds.symm)

theorem resume_cases [LinearOrder Score] {result : AwaitResult}
    (resumed : proxy.resume packages id connection connection.phase result = some next) :
    Resumed packages proxy next id connection result := by
  cases here : connection.phase with
  | forward request location server stage =>
    rw [here] at resumed
    exact resume_forward (by rw [here]; rfl) resumed
  | webSocket location server stage =>
    rw [here] at resumed
    exact resume_webSocket here resumed
  | closed leftOpen =>
    rw [here] at resumed
    cases result <;> cases resumed
  | _ => exact resume_idle (by rw [here]; rfl) (by rw [here]; rfl) resumed

/-! ### One step -/

theorem opens_eq (phase : ProxyPhase) (name key : String) :
    phase.opens name key = phase.upstream.elim 0 fun held =>
      if held.1 = name ∧ held.2.key = key then 1 else 0 := by
  unfold ProxyPhase.opens
  cases phase.upstream <;> rfl

/-- A step of one connection changes the number of open connections by what that one holds. -/
theorem openTo_moves {phase : ProxyPhase} (found : proxy.connections.get? id = some connection)
    (connections : next.connections =
      proxy.connections.insert id { connection with phase := phase }) (name key : String) :
    next.openTo name key + connection.phase.opens name key =
      proxy.openTo name key + phase.opens name key := by
  rw [openTo, openTo, connections, Dict.total_insert, proxy.connections.total_eq_add_erase id,
    found]
  show phase.opens name key + _ + connection.phase.opens name key =
    connection.phase.opens name key + _ + phase.opens name key
  omega

/-- A step that moves the balancers and a connection together keeps the count. -/
theorem counted_moves {phase : ProxyPhase} (counted : proxy.Counted)
    (found : proxy.connections.get? id = some connection)
    (moves : Moves proxy next id connection phase) : next.Counted := by
  intro name balancer stored key
  have opened := openTo_moves found moves.connections name
  simp only [opens_eq] at opened
  have upstream := moves.upstream
  generalize connection.phase.upstream = heldBefore at opened upstream
  generalize phase.upstream = heldAfter at opened upstream
  cases upstream with
  | kept _ balancers =>
    rw [balancers] at stored
    rw [counted name balancer stored key]
    exact (Nat.add_right_cancel (opened key)).symm
  | opened upstream server balancers =>
    rw [balancers] at stored
    by_cases same : name = upstream
    · simp only [if_pos same, Option.map_eq_some_iff] at stored
      obtain ⟨earlier, found, rfl⟩ := stored
      rw [LeastConnBalancer.count_increment, counted name earlier found key]
      simpa [same] using (opened key).symm
    · simp only [if_neg same] at stored
      rw [counted name balancer stored key]
      simpa [Ne.symm same] using (opened key).symm
  | released upstream server balancers =>
    rw [balancers] at stored
    by_cases same : name = upstream
    · subst same
      simp only [if_true, Option.map_eq_some_iff] at stored
      obtain ⟨earlier, found, rfl⟩ := stored
      have held : 0 < (earlier.activeConns.get? server.key).getD 0 := by
        have one := opened server.key
        rw [counted name earlier found server.key]
        simp only [Option.elim_some, Option.elim_none, true_and, if_true, Nat.add_zero] at one
        exact Nat.lt_of_lt_of_eq (Nat.succ_pos _) one
      have less := earlier.count_decrement server key held
      have one := opened key
      simp only [Option.elim_some, Option.elim_none, true_and, Nat.add_zero] at one
      rw [counted name earlier found key, ← one] at less
      exact Nat.add_right_cancel less
    · simp only [if_neg same] at stored
      rw [counted name balancer stored key]
      simpa [Ne.symm same] using (opened key).symm

/-- What the handler of a WebSocket upgrade does in a step, through an upstream with a `least_conn`
balancer. -/
def webSocketMove (packages : ProxyPackages Score) (proxy : Proxy) :
    ProxyEvent → Option WebSocketMove
  | .accept _ _ => none
  | .resume id result => (proxy.connections.get? id).bind fun connection =>
    match connection.phase with
    | .webSocket location _ stage =>
      if (proxy.leastConn location.upstream).isSome then
        webSocketNext packages.unicode stage result
      else none
    | _ => none

theorem webSocketMove_eq {result : AwaitResult} {location : ProxyLocation}
    {server : UpstreamServer} {stage : WebSocketStage}
    (found : proxy.connections.get? id = some connection)
    (upgraded : connection.phase = .webSocket location server stage)
    (least : (proxy.leastConn location.upstream).isSome) :
    proxy.webSocketMove packages (.resume id result) =
      webSocketNext packages.unicode stage result := by
  simp only [webSocketMove, found, Option.bind_some, upgraded]
  exact if_pos least

theorem webSocketMove_some {event : ProxyEvent} {move : WebSocketMove}
    (moves : proxy.webSocketMove packages event = some move) :
    ∃ id result connection location server stage, event = .resume id result ∧
      proxy.connections.get? id = some connection ∧
      connection.phase = .webSocket location server stage ∧
      (proxy.leastConn location.upstream).isSome ∧
      webSocketNext packages.unicode stage result = some move := by
  cases event with
  | accept id clientIp => cases moves
  | resume id result =>
    obtain ⟨connection, found, moves⟩ := Option.bind_eq_some_iff.mp moves
    split at moves
    · rename_i location server stage upgraded
      split at moves
      · rename_i least
        exact ⟨id, result, connection, location, server, stage, rfl, found, upgraded, least, moves⟩
      · cases moves
    · cases moves

variable [LinearOrder Score] {event : ProxyEvent}

/-- A step accepts a connection or resumes one. -/
theorem step_cases (stepped : proxy.step packages event = some next) :
    (∃ id clientIp, event = .accept id clientIp ∧ proxy.connections.get? id = none ∧
      next = { proxy with connections := proxy.connections.insert id ⟨clientIp, .readRequest⟩ }) ∨
    ∃ id result connection, event = .resume id result ∧
      proxy.connections.get? id = some connection ∧
      Resumed packages proxy next id connection result := by
  cases event with
  | accept id clientIp =>
    unfold step at stepped
    simp only at stepped
    split at stepped
    · rename_i fresh
      exact .inl ⟨id, clientIp, rfl, fresh, (Option.some.inj stepped).symm⟩
    · cases stepped
  | resume id result =>
    unfold step at stepped
    simp only at stepped
    split at stepped
    · cases stepped
    · rename_i connection found
      exact .inr ⟨id, result, connection, rfl, found, resume_cases stepped⟩

/-- A handler that returns closes its connection, and the balancers stay as they are. -/
theorem openTo_returned {location : ProxyLocation} {server : UpstreamServer}
    {stage : WebSocketStage} (found : proxy.connections.get? id = some connection)
    (upgraded : connection.phase = .webSocket location server stage) (name key : String) :
    (proxy.await id connection (.closed none)).openTo name key +
        (if location.upstream = name ∧ server.key = key then 1 else 0) =
      proxy.openTo name key := by
  have closes : (proxy.await id connection (.closed none)).connections =
      proxy.connections.insert id { connection with phase := .closed none } := rfl
  have opened := openTo_moves found closes name key
  rw [upgraded] at opened
  exact opened

theorem counted_step (counted : proxy.Counted)
    (returns : proxy.webSocketMove packages event ≠ some .returned)
    (stepped : proxy.step packages event = some next) : next.Counted := by
  rcases step_cases stepped with ⟨id, clientIp, rfl, fresh, rfl⟩ |
    ⟨id, result, connection, rfl, found, resumed⟩
  · intro name balancer stored key
    rw [counted name balancer stored key, openTo, openTo, Dict.total_insert_new _ _ fresh]
    exact (Nat.zero_add _).symm
  · cases resumed with
    | moved phase moves | raised location server stage upgraded raises moves =>
      exact counted_moves counted found moves
    | returned location server stage upgraded returned closes =>
      subst closes
      intro name balancer stored key
      have opened := openTo_returned found upgraded name key
      rw [if_neg, Nat.add_zero] at opened
      · rw [opened]
        exact counted name balancer stored key
      · rintro ⟨rfl, -⟩
        exact returns
          ((webSocketMove_eq found upgraded (Option.isSome_of_mem stored)).trans returned)

/-- A handler that returns leaves its connection counted. -/
theorem skewed_step (counted : proxy.Counted)
    (returns : proxy.webSocketMove packages event = some .returned) :
    ∃ skewed, proxy.step packages event = some skewed ∧ ¬ skewed.Counted := by
  obtain ⟨id, result, connection, location, server, stage, rfl, found, upgraded, least, returned⟩ :=
    webSocketMove_some returns
  refine ⟨proxy.await id connection (.closed none), ?_, fun recount => ?_⟩
  · have resumed : proxy.resume packages id connection (.webSocket location server stage) result =
        (webSocketNext packages.unicode stage result).map
          (proxy.webSocketMoved id connection location server) := by
      cases result <;> rfl
    rw [step]
    simp only [found]
    rw [upgraded, resumed, returned]
    rfl
  · obtain ⟨balancer, stored⟩ := Option.isSome_iff_exists.mp least
    have before := counted location.upstream balancer stored server.key
    have after := recount location.upstream balancer stored server.key
    have opened := openTo_returned found upgraded location.upstream server.key
    rw [if_pos ⟨rfl, rfl⟩] at opened
    omega

/-- The tables count right in every state of a run if and only if no handler of a WebSocket upgrade
returns in it. -/
theorem counted_iff {events : List ProxyEvent} (counted : proxy.Counted) :
    (∀ before after reached, events = before ++ after →
      runFrom (step packages) proxy before = some reached → reached.Counted) ↔
      HoldsAlong (step packages) (fun proxy event =>
        proxy.webSocketMove packages event ≠ some .returned) proxy events := by
  refine safe_iff_holdsAlong (fun _ counted => counted) ?_ ?_ (holdsAlong_true events proxy) counted
  · intro state event next _ returns counted stepped
    exact counted_step counted returns stepped
  · intro state event _ counted safe returns
    obtain ⟨skewed, stepped, notCounted⟩ := skewed_step counted returns
    exact notCounted (safe skewed stepped)

/-! ### After the last connection -/

/-- No connection through a `least_conn` upstream was left open by one that ended. -/
def NoneStranded (proxy : Proxy) : Prop :=
  ∀ id connection name server, proxy.connections.get? id = some connection →
    connection.phase = .closed (some (name, server)) → proxy.leastConn name = none

omit [LinearOrder Score] in
theorem leastConn_moves {phase : ProxyPhase} (moves : Moves proxy next id connection phase)
    {name : String} (other : proxy.leastConn name = none) : next.leastConn name = none := by
  have upstream := moves.upstream
  generalize connection.phase.upstream = heldBefore at upstream
  generalize phase.upstream = heldAfter at upstream
  cases upstream with
  | kept _ balancers => rw [balancers, other]
  | opened | released =>
    rename_i balancers
    rw [balancers]
    simp only [other, Option.map_none, ite_self]

omit [LinearOrder Score] in
/-- A connection that moves strands none if its own phase does not. -/
theorem noneStranded_moves {phase : ProxyPhase} (noneStranded : proxy.NoneStranded)
    (moves : Moves proxy next id connection phase)
    (here : ∀ name server, phase = .closed (some (name, server)) → next.leastConn name = none) :
    next.NoneStranded := by
  intro other stored name server found closed
  rw [moves.connections] at found
  by_cases same : other = id
  · rw [same, Dict.get?_insert_self] at found
    obtain rfl := Option.some.inj found
    exact here name server closed
  · rw [Dict.get?_insert_of_ne _ _ same] at found
    exact leastConn_moves moves (noneStranded other stored name server found closed)

theorem noneStranded_step (noneStranded : proxy.NoneStranded)
    (raises : proxy.webSocketMove packages event ≠ some .raised)
    (stepped : proxy.step packages event = some next) : next.NoneStranded := by
  rcases step_cases stepped with ⟨id, clientIp, rfl, fresh, rfl⟩ |
    ⟨id, result, connection, rfl, found, resumed⟩
  · intro other stored name server found closed
    by_cases same : other = id
    · rw [same, Dict.get?_insert_self] at found
      obtain rfl := Option.some.inj found
      cases closed
    · rw [Dict.get?_insert_of_ne _ _ same] at found
      exact noneStranded other stored name server found closed
  · cases resumed with
    | moved phase moves notStranded =>
      refine noneStranded_moves noneStranded moves fun name server closed => ?_
      rcases notStranded with holdsNone | notClosed
      · rw [closed] at holdsNone
        cases holdsNone
      · exact absurd closed (notClosed _)
    | raised location server stage upgraded raised moves =>
      refine noneStranded_moves noneStranded moves fun name other closed => ?_
      obtain ⟨rfl, rfl⟩ := Prod.mk.inj (Option.some.inj (ProxyPhase.closed.inj closed))
      refine leastConn_moves moves (Option.not_isSome_iff_eq_none.mp fun least => raises ?_)
      exact (webSocketMove_eq found upgraded least).trans raised
    | returned location server stage upgraded returned closes =>
      subst closes
      intro other stored name server found closed
      by_cases same : other = id
      · rw [same] at found
        obtain rfl := Option.some.inj ((Dict.get?_insert_self _ _ _).symm.trans found)
        cases closed
      · exact noneStranded other stored name server
          ((Dict.get?_insert_of_ne _ _ same).symm.trans found) closed

omit [LinearOrder Score] in
/-- When all connections have ended and none was left open, nothing is counted. -/
theorem noneCounted_of_ended (counted : proxy.Counted) (noneStranded : proxy.NoneStranded)
    (ended : proxy.AllEnded) : proxy.NoneCounted := by
  intro name balancer stored key
  rw [counted name balancer stored key, openTo]
  refine Dict.total_eq_zero _ fun id connection found => ?_
  have closed := ended connection (Dict.mem_values_iff.mpr ⟨id, found⟩)
  cases here : connection.phase with
  | closed leftOpen =>
    cases leftOpen with
    | none => rfl
    | some held =>
      refine if_neg fun ⟨same, _⟩ => ?_
      rw [← same, noneStranded id connection held.1 held.2 found here] at stored
      cases stored
  | _ => rw [here] at closed; cases closed

/-! ### Every run -/

/-- The balancers of a new worker count nothing. -/
theorem fresh_createBalancers {blocks : List UpstreamBlock}
    {balancers created : Dict String LoadBalancer}
    (fresh : ∀ name state, balancers.get? name = some (.leastConn state) → state = .init)
    (creates : createBalancers blocks balancers = .ok created) :
    ∀ name state, created.get? name = some (.leastConn state) → state = .init := by
  induction blocks generalizing balancers with
  | nil =>
    obtain rfl := Except.ok.inj creates
    exact fresh
  | cons block rest inductionHypothesis =>
    rw [createBalancers] at creates
    split at creates
    · cases creates
    · rename_i balancer ofAlgorithm
      refine inductionHypothesis (fun name state stored => ?_) creates
      by_cases same : name = block.name
      · rw [same, Dict.get?_insert_self] at stored
        obtain rfl := Option.some.inj stored
        rcases createBalancer_cases ofAlgorithm with least | least | least | least <;> cases least
        rfl
      · rw [Dict.get?_insert_of_ne _ _ same] at stored
        exact fresh name state stored

/-- The tables count right, and no connection that they count has ended. -/
structure Accounted (proxy : Proxy) : Prop where
  counted : proxy.Counted
  noneStranded : proxy.NoneStranded

theorem accounted_init {config : ProxyConfig} (started : init config = .ok proxy) :
    proxy.Accounted := by
  unfold init at started
  split at started
  · cases started
  · rename_i balancers creates
    obtain rfl := Except.ok.inj started
    refine ⟨fun name balancer stored key => ?_, fun id connection name server found => ?_⟩
    · unfold leastConn at stored
      split at stored
      · rename_i state found
        obtain rfl := Option.some.inj stored
        rw [fresh_createBalancers (fun _ _ none => by cases none) creates name state found]
        rfl
      · cases stored
    · cases found

/-- In a run in which no handler of a WebSocket upgrade through a `least_conn` upstream returns or
raises, every table counts the open upstream connections in every state, and counts none once all
connections have ended. -/
theorem connections_counted (packages : ProxyPackages Score) {config : ProxyConfig} {start : Proxy}
    {events : List ProxyEvent} (started : init config = .ok start)
    (along : HoldsAlong (step packages) (fun proxy event =>
      proxy.webSocketMove packages event ≠ some .returned ∧
        proxy.webSocketMove packages event ≠ some .raised) start events) :
    ∀ before after reached, events = before ++ after →
      runFrom (step packages) start before = some reached →
        reached.Counted ∧ (reached.AllEnded → reached.NoneCounted) := by
  rintro before after reached rfl ran
  have accounted : reached.Accounted := by
    refine run_invariant (fun proxy event next ends accounted stepped => ?_)
      (accounted_init started) (holdsAlong_append along ran).1 ran
    exact ⟨counted_step accounted.counted ends.1 stepped,
      noneStranded_step accounted.noneStranded ends.2 stepped⟩
  exact ⟨accounted.counted, noneCounted_of_ended accounted.counted accounted.noneStranded⟩

end Proxy

/-! ### Two runs -/

def examplePackages : ProxyPackages ℚ where
  toBalancerPackages := exactRatios
  unicode := plainUnicode

/-- One upstream of one server, balanced by `least_conn`. -/
def exampleConfig : ProxyConfig where
  locations := [⟨⟨"/".toList, [], 300⟩, "app", true⟩]
  upstreams := [⟨"app", [⟨"10.0.0.2", 8080, 1, false, false⟩], "least_conn"⟩]
  accessLog := false

def exampleProxy : Proxy :=
  ⟨exampleConfig, Dict.empty.insert "app" (.leastConn .init), Dict.empty⟩

theorem exampleProxy_init : Proxy.init exampleConfig = .ok exampleProxy := rfl

def exampleHeaders (headers : List (String × String)) : HttpRequest where
  method := "GET".toList
  path := "/".toList
  version := "HTTP/1.1".toList
  headers := Dict.ofEntries (headers.map fun header => (header.1.toList, header.2.toList))
  body := []
  clientIp := []

def plainGet : HttpRequest := exampleHeaders [("host", "app"), ("connection", "close")]

def upgradeGet : HttpRequest := exampleHeaders [("host", "app"), ("upgrade", "websocket"),
  ("connection", "upgrade"), ("sec-websocket-key", "dGhlIHNhbXBsZSBub25jZQ==")]

/-- Two clients with a plain request each; the server fails one of them. -/
def plainRun : List ProxyEvent :=
  [.accept 1 "10.0.0.7".toList, .accept 2 "10.0.0.8".toList,
    .resume 1 (.request plainGet halfDraw), .resume 2 (.request plainGet halfDraw),
    .resume 1 .done, .resume 2 .done, .resume 2 .done, .resume 2 .raised, .resume 1 .done,
    .resume 1 .done, .resume 1 .done]

theorem connections_counted_plainRun :
    ∃ reached, runFrom (Proxy.step examplePackages) exampleProxy plainRun = some reached ∧
      reached.Counted ∧ (reached.AllEnded → reached.NoneCounted) := by
  have runs : (runFrom (Proxy.step examplePackages) exampleProxy plainRun).isSome := by
    decide +kernel
  obtain ⟨reached, ran⟩ := Option.isSome_iff_exists.mp runs
  exact ⟨reached, ran, Proxy.connections_counted examplePackages exampleProxy_init
    (by decide +kernel) plainRun [] reached (List.append_nil _).symm ran⟩

/-- A WebSocket that is opened, relayed and closed. -/
def upgradeRun : List ProxyEvent :=
  [.accept 1 "10.0.0.7".toList, .resume 1 (.request upgradeGet halfDraw), .resume 1 .done,
    .resume 1 .done,
    .resume 1 (.head (encodeText "HTTP/1.1 101 Switching Protocols\r\n\r\n".toList)),
    .resume 1 .done, .resume 1 .done, .resume 1 .done]

/-- After the WebSocket has ended its server still counts one connection. -/
theorem webSocket_stays_counted :
    ∃ reached, runFrom (Proxy.step examplePackages) exampleProxy upgradeRun = some reached ∧
      reached.AllEnded ∧ ¬ reached.Counted ∧ ¬ reached.NoneCounted := by
  have values : (runFrom (Proxy.step examplePackages) exampleProxy upgradeRun).map (fun reached =>
      (decide reached.AllEnded, reached.openTo "app" "10.0.0.2:8080",
        (reached.leastConn "app").map fun balancer =>
          (balancer.activeConns.get? "10.0.0.2:8080").getD 0)) = some (true, 0, some 1) := by
    decide +kernel
  obtain ⟨reached, ran, values⟩ := Option.map_eq_some_iff.mp values
  obtain ⟨ended, rest⟩ := Prod.mk.inj values
  obtain ⟨nothing, counted⟩ := Prod.mk.inj rest
  obtain ⟨balancer, stored, one⟩ := Option.map_eq_some_iff.mp counted
  refine ⟨reached, ran, of_decide_eq_true ended, fun counts => ?_, fun counts => ?_⟩
  · have equal := counts "app" balancer stored "10.0.0.2:8080"
    rw [one, nothing] at equal
    cases equal
  · have zero := counts "app" balancer stored "10.0.0.2:8080"
    rw [one] at zero
    cases zero

end LocalNetwork
