/-
This file is about the servers to which a worker opens connections while its health monitor
has some of them marked as unavailable. The connections of a worker share the balancers and
the monitor. A connection records the outcome of its attempt with the monitor, and the
balancer picks among the servers that are not down; neither asks the monitor whether a server
is available.

Whatever the balancer, it stays away from the servers that were marked lately as long as the
servers of the group leave it no choice to get wrong: none of those that are not down was
marked lately, or all the others are marked as well.
-/

import LocalNetwork.BackupServers
import LocalNetwork.HealthMonitor
import LocalNetwork.LeastConnections

namespace LocalNetwork

open HealthMonitor

/-! ### The rule and its condition -/

/-- An attempt to connect to a server keeps the rule: it is not one that was marked lately while
another server of the group is neither down nor marked. -/
def AvoidsMarked (monitor : HealthMonitor) (servers : List UpstreamServer) (now : Time)
    (server : UpstreamServer) : Prop :=
  ¬ (monitor.MarkedLately server now ∧
    ∃ other ∈ servers, other.key ≠ server.key ∧ other.down = false ∧ ¬ monitor.Marked other)

/-- Beside a server that is not down and was marked lately, every other server that is not down is
marked. -/
def NoChoice (monitor : HealthMonitor) (servers : List UpstreamServer) (now : Time) : Prop :=
  ∀ server ∈ upServers servers, monitor.MarkedLately server now →
    ∀ other ∈ upServers servers, other.key ≠ server.key → monitor.Marked other

instance (monitor : HealthMonitor) (servers : List UpstreamServer) (now : Time)
    (server : UpstreamServer) : Decidable (AvoidsMarked monitor servers now server) :=
  inferInstanceAs (Decidable (¬ (monitor.MarkedLately server now ∧
    ∃ other ∈ servers, other.key ≠ server.key ∧ other.down = false ∧ ¬ monitor.Marked other)))

instance (monitor : HealthMonitor) (servers : List UpstreamServer) (now : Time) :
    Decidable (NoChoice monitor servers now) :=
  inferInstanceAs (Decidable (∀ server ∈ upServers servers, monitor.MarkedLately server now →
    ∀ other ∈ upServers servers, other.key ≠ server.key → monitor.Marked other))

/-! ### What a balancer picks -/

section Balancers

variable {Score : Type} {packages : BalancerPackages Score} {servers : List UpstreamServer}
  {server : UpstreamServer}

theorem elementAt_mem {index : Nat} (found : elementAt servers index = .ok (some server)) :
    server ∈ servers := by
  unfold elementAt at found
  split at found
  · rename_i here
    obtain rfl := Option.some.inj (Except.ok.inj found)
    exact List.mem_of_getElem? here
  · cases found

theorem walk_mem {index : Int} (found : IpHashBalancer.walk servers index = some server) :
    server ∈ servers := by
  rw [walk_eq_weightedItem] at found
  exact weightedItem_mem found

/-- Every balancer picks a server that is not down. -/
theorem select_up [LinearOrder Score] {balancer next : LoadBalancer} {clientIp : String}
    {draw : UnitDraw}
    (selected : balancer.select packages servers clientIp draw = (.ok (some server), next)) :
    server ∈ upServers servers := by
  have picked := congrArg Prod.fst selected
  cases balancer with
  | roundRobin state =>
    change (state.select servers).1 = _ at picked
    rw [RoundRobinBalancer.select] at picked
    split at picked
    · cases picked
    · split at picked
      · cases picked
      · rename_i here
        obtain rfl := Option.some.inj (Except.ok.inj picked)
        obtain ⟨owner, member, repeated⟩ := List.mem_flatMap.mp (List.mem_of_getElem? here)
        obtain ⟨stored, notDown, -⟩ := mem_available member
        rw [List.eq_of_mem_replicate repeated]
        exact mem_upServers.mpr ⟨stored, notDown⟩
  | leastConn state => exact List.argmin_mem (Except.ok.inj picked)
  | ipHash =>
    change IpHashBalancer.select packages servers clientIp = _ at picked
    rw [IpHashBalancer.select] at picked
    dsimp only at picked
    split at picked
    · cases picked
    · split at picked
      · exact elementAt_mem picked
      · split at picked
        · cases picked
        · split at picked
          · rename_i here
            obtain rfl := Option.some.inj (Except.ok.inj picked)
            exact walk_mem here
          · exact elementAt_mem picked
  | random =>
    change RandomBalancer.select servers draw = _ at picked
    rw [RandomBalancer.select] at picked
    split at picked
    · cases picked
    · rw [RandomBalancer.choices] at picked
      dsimp only at picked
      split at picked
      · cases picked
      · exact elementAt_mem picked

/-- The balancers keep away from the servers that were marked lately, for all of their states, all
clients and all draws, if and only if the group leaves them no choice. -/
theorem select_avoidsMarked_iff [LinearOrder Score] (packages : BalancerPackages Score)
    (monitor : HealthMonitor) (weights : ∀ server ∈ servers, 1 ≤ server.weight) (now : Time) :
    (∀ (balancer next : LoadBalancer) clientIp draw server,
      balancer.select packages servers clientIp draw = (.ok (some server), next) →
        AvoidsMarked monitor servers now server) ↔ NoChoice monitor servers now := by
  constructor
  · intro always server up lately other otherUp different
    obtain ⟨draw, selected⟩ := random_reaches weights up
    by_contra unmarked
    obtain ⟨member, notDown⟩ := mem_upServers.mp otherUp
    exact always .random .random "" draw server (congrArg (·, LoadBalancer.random) selected)
      ⟨lately, other, member, different, notDown, unmarked⟩
  · rintro noChoice balancer next clientIp draw server selected
      ⟨lately, other, member, different, notDown, unmarked⟩
    exact unmarked (noChoice server (select_up selected) lately other
      (mem_upServers.mpr ⟨member, notDown⟩) different)

end Balancers

/-! ### A worker and its monitor -/

/-- A worker with its health monitor. -/
structure HealthRun where
  proxy : Proxy
  monitor : HealthMonitor

/-- A step of a connection, with the reading of the clock. -/
structure HealthEvent where
  event : ProxyEvent
  now : Time

namespace HealthRun

variable {Score : Type} [LinearOrder Score]

/-- What `_connect_upstream` records when its attempt to connect has ended. -/
def recordOutcome (run : HealthRun) (event : HealthEvent) : HealthMonitor :=
  match event.event with
  | .accept _ _ => run.monitor
  | .resume id result =>
    match (run.proxy.connections.get? id).map ProxyConnection.phase, result with
    | some (.connectUpstream _ _ server _), .done =>
      run.monitor.recordSuccess server.host server.port
    | some (.connectUpstream _ _ server _), .caught =>
      run.monitor.recordFailure server.host server.port event.now
    | _, _ => run.monitor

def step (packages : ProxyPackages Score) (run : HealthRun) (event : HealthEvent) :
    Option HealthRun :=
  (run.proxy.step packages event.event).map fun next => ⟨next, run.recordOutcome event⟩

/-- The upstream group that a request is routed to; a request for a file is not routed to one. -/
def groupOf (proxy : Proxy) : ProxyEvent → Option (List UpstreamServer)
  | .resume _ (.request request _) =>
    (matchLocation proxy.config.locations request.path).bind fun location =>
      if location.root ≠ [] ∧ request.method = "GET".toList then none
      else proxy.upstreams.get? location.upstream
  | _ => none

/-- The server to which a step opens a connection, with its group. -/
def attempt (proxy next : Proxy) : ProxyEvent → Option (UpstreamServer × List UpstreamServer)
  | .resume id (.request _ _) =>
    match (next.connections.get? id).map ProxyConnection.phase with
    | some (.connectUpstream _ location server _) =>
      (proxy.upstreams.get? location.upstream).map fun servers => (server, servers)
    | _ => none
  | _ => none

/-- Whatever server a step opens a connection to, it keeps the rule. -/
def AttemptAvoidsMarked (packages : ProxyPackages Score) (run : HealthRun) (event : HealthEvent) :
    Prop :=
  ∀ next, run.step packages event = some next → ∀ server servers,
    attempt run.proxy next.proxy event.event = some (server, servers) →
      AvoidsMarked run.monitor servers event.now server

/-- The group of a request that arrives leaves its balancer no choice. -/
def GroupLeavesNoChoice (run : HealthRun) (event : HealthEvent) : Prop :=
  ∀ servers ∈ groupOf run.proxy event.event, NoChoice run.monitor servers event.now

instance (run : HealthRun) (event : HealthEvent) : Decidable (run.GroupLeavesNoChoice event) :=
  inferInstanceAs (Decidable (∀ servers ∈ groupOf run.proxy event.event,
    NoChoice run.monitor servers event.now))

variable {packages : ProxyPackages Score} {proxy : Proxy} {id : Nat}
  {connection : ProxyConnection}

/-- A request that leads to an attempt was routed to the group, and the balancer of the group picked
the server. -/
theorem route_attempt {request reached : HttpRequest} {draw : UnitDraw}
    {location : ProxyLocation} {server : UpstreamServer} {upgrade : Bool}
    (waits : ((proxy.route packages id connection request draw).connections.get? id).map
      ProxyConnection.phase = some (.connectUpstream reached location server upgrade)) :
    matchLocation proxy.config.locations request.path = some location ∧
      ¬ (location.root ≠ [] ∧ request.method = "GET".toList) ∧
      ∃ servers balancer next, proxy.upstreams.get? location.upstream = some servers ∧
        LoadBalancer.select packages.toBalancerPackages balancer servers
          (String.ofList request.clientIp) draw = (.ok (some server), next) := by
  unfold Proxy.route at waits
  split at waits
  · simp [Proxy.await] at waits
  · rename_i found matched
    split at waits
    · simp [Proxy.await] at waits
    · rename_i noFile
      unfold Proxy.connectUpstream at waits
      split at waits
      · rename_i servers balancer group stored
        dsimp only at waits
        rcases picked : balancer.select packages.toBalancerPackages servers
          (String.ofList request.clientIp) draw with ⟨result, next⟩
        rw [picked] at waits
        rcases result with exception | _ | chosen
        · simp [Proxy.await] at waits
        · simp [Proxy.await] at waits
        · simp only [Proxy.await, Dict.get?_insert_self, Option.map_some, Option.some_inj,
            ProxyPhase.connectUpstream.injEq] at waits
          obtain ⟨-, rfl, rfl, -⟩ := waits
          exact ⟨matched, noFile, servers, balancer, next, group, picked⟩
      · simp [Proxy.await] at waits

/-- Only a connection that reads a request takes one. -/
theorem resume_request {phase : ProxyPhase} {request : HttpRequest} {draw : UnitDraw} {next : Proxy}
    (resumed : proxy.resume packages id connection phase (.request request draw) = some next) :
    next = proxy.route packages id connection { request with clientIp := connection.clientIp }
      draw := by
  cases phase with
  | readRequest => exact (Option.some.inj resumed).symm
  | webSocket location server stage => cases stage <;> cases resumed
  | forward request location server stage => cases stage <;> cases resumed
  | _ => cases resumed

/-- A step that opens a connection while the group leaves no choice keeps the rule. -/
theorem avoidsMarked_step {run : HealthRun} {event : HealthEvent}
    (noChoice : run.GroupLeavesNoChoice event) : run.AttemptAvoidsMarked packages event := by
  rintro next stepped server servers attempted ⟨lately, other, member, different, notDown, unmarked⟩
  obtain ⟨after, proxyStepped, rfl⟩ := Option.map_eq_some_iff.mp stepped
  unfold attempt at attempted
  split at attempted
  · rename_i id request draw isRequest
    rw [isRequest, Proxy.step] at proxyStepped
    split at proxyStepped
    · cases proxyStepped
    · obtain rfl := resume_request proxyStepped
      split at attempted
      · rename_i reached location picked upgrade waits
        obtain ⟨group, found, same⟩ := Option.map_eq_some_iff.mp attempted
        obtain ⟨rfl, rfl⟩ := Prod.mk.inj same
        obtain ⟨matched, noFile, other', balancer, after, stored, selected⟩ := route_attempt waits
        obtain rfl := Option.some.inj (found.symm.trans stored)
        have routed : groupOf run.proxy event.event = some group := by
          rw [isRequest, groupOf, matched]
          exact (if_neg noFile).trans stored
        exact unmarked (noChoice group routed picked (select_up selected) lately other
          (mem_upServers.mpr ⟨member, notDown⟩) different)
      · cases attempted
  · cases attempted

/-- In a run in which, at every request, the servers of its group leave the balancer no choice, no
connection is opened to a server that was marked lately while another one is neither down nor
marked. -/
theorem marked_servers_avoided (packages : ProxyPackages Score) {start : HealthRun}
    {events : List HealthEvent}
    (along : HoldsAlong (step packages) GroupLeavesNoChoice start events) :
    ∀ before event after reached, events = before ++ event :: after →
      runFrom (step packages) start before = some reached →
        reached.AttemptAvoidsMarked packages event := by
  rintro before event after reached rfl ran
  exact avoidsMarked_step (holdsAlong_append along ran).2.1

end HealthRun

/-! ### Two runs -/

/-- One upstream of two servers, the first with three times the weight of the second. -/
def unequalProxy : Proxy where
  config :=
    { locations := [⟨⟨"/".toList, [], 300⟩, "app", true⟩]
      upstreams := [⟨"app", [⟨"a", 80, 3, false, false⟩, ⟨"b", 80, 1, false, false⟩],
        "round_robin"⟩]
      accessLog := false }
  balancers := Dict.empty.insert "app" (.roundRobin .init)
  connections := Dict.empty

def unequalRun : HealthRun := ⟨unequalProxy, .new 3 10⟩

/-- A client whose request leads to an attempt that fails. -/
def failedRequest (id : Nat) (now : Time) : List HealthEvent :=
  [⟨.accept id "10.0.0.7".toList, now⟩, ⟨.resume id (.request plainGet halfDraw), now⟩,
    ⟨.resume id .caught, now⟩]

/-- One upstream of two servers with the same weight. -/
def equalProxy : Proxy where
  config :=
    { locations := [⟨⟨"/".toList, [], 300⟩, "app", true⟩]
      upstreams := [⟨"app", [⟨"a", 80, 1, false, false⟩, ⟨"b", 80, 1, false, false⟩],
        "round_robin"⟩]
      accessLog := false }
  balancers := Dict.empty.insert "app" (.roundRobin .init)
  connections := Dict.empty

def equalRun : HealthRun := ⟨equalProxy, .new 3 10⟩

/-- Two clients at once, whose requests lead to attempts that fail. -/
def failedPair (first second : Nat) (now : Time) : List HealthEvent :=
  [⟨.accept first "10.0.0.7".toList, now⟩, ⟨.accept second "10.0.0.8".toList, now⟩,
    ⟨.resume first (.request plainGet halfDraw), now⟩,
    ⟨.resume second (.request plainGet halfDraw), now⟩,
    ⟨.resume first .caught, now⟩, ⟨.resume second .caught, now⟩]

/-- Both servers fail three times and are marked; the next request opens a connection to the first
one, as there is no other. -/
theorem marked_servers_avoided_plain :
    ∃ reached next, runFrom (HealthRun.step examplePackages) equalRun
        (failedPair 1 2 100 ++ failedPair 3 4 101 ++ failedPair 5 6 102 ++
          [⟨.accept 7 "10.0.0.7".toList, 103⟩]) = some reached ∧
      reached.monitor.MarkedLately ⟨"a", 80, 1, false, false⟩ 103 ∧
      reached.step examplePackages ⟨.resume 7 (.request plainGet halfDraw), 103⟩ = some next ∧
      (HealthRun.attempt reached.proxy next.proxy (.resume 7 (.request plainGet halfDraw))).map
        Prod.fst = some ⟨"a", 80, 1, false, false⟩ ∧
      reached.AttemptAvoidsMarked examplePackages
        ⟨.resume 7 (.request plainGet halfDraw), 103⟩ := by
  have runs : ((runFrom (HealthRun.step examplePackages) equalRun
      (failedPair 1 2 100 ++ failedPair 3 4 101 ++ failedPair 5 6 102 ++
        [⟨.accept 7 "10.0.0.7".toList, 103⟩])).bind fun reached =>
      (reached.step examplePackages ⟨.resume 7 (.request plainGet halfDraw), 103⟩).map fun next =>
        (decide (reached.monitor.MarkedLately ⟨"a", 80, 1, false, false⟩ 103),
          (HealthRun.attempt reached.proxy next.proxy
            (.resume 7 (.request plainGet halfDraw))).map Prod.fst)) =
      some (true, some ⟨"a", 80, 1, false, false⟩) := by
    decide +kernel
  obtain ⟨reached, ran, rest⟩ := Option.bind_eq_some_iff.mp runs
  obtain ⟨next, stepped, both⟩ := Option.map_eq_some_iff.mp rest
  obtain ⟨marked, attempted⟩ := Prod.mk.inj both
  have along : HoldsAlong (HealthRun.step examplePackages) HealthRun.GroupLeavesNoChoice equalRun
      (failedPair 1 2 100 ++ failedPair 3 4 101 ++ failedPair 5 6 102 ++
        [⟨.accept 7 "10.0.0.7".toList, 103⟩] ++
          [⟨.resume 7 (.request plainGet halfDraw), 103⟩]) := by
    decide +kernel
  exact ⟨reached, next, ran, of_decide_eq_true marked, stepped, attempted,
    HealthRun.marked_servers_avoided examplePackages along _ _ [] reached rfl ran⟩

/-- Three failures mark the first server, a fourth client takes the turn of the second one, and the
fifth request opens a connection to the first server two seconds after it was marked. -/
theorem marked_server_used :
    ∃ reached next server servers,
      runFrom (HealthRun.step examplePackages) unequalRun
        (failedRequest 1 100 ++ failedRequest 2 101 ++ failedRequest 3 102 ++
          (failedRequest 4 103).take 2 ++ [⟨.accept 5 "10.0.0.7".toList, 104⟩]) = some reached ∧
      reached.step examplePackages ⟨.resume 5 (.request plainGet halfDraw), 104⟩ = some next ∧
        HealthRun.attempt reached.proxy next.proxy (.resume 5 (.request plainGet halfDraw)) =
            some (server, servers) ∧
          ¬ AvoidsMarked reached.monitor servers 104 server := by
  have breaks : ((runFrom (HealthRun.step examplePackages) unequalRun
      (failedRequest 1 100 ++ failedRequest 2 101 ++ failedRequest 3 102 ++
        (failedRequest 4 103).take 2 ++ [⟨.accept 5 "10.0.0.7".toList, 104⟩])).bind fun reached =>
      (reached.step examplePackages ⟨.resume 5 (.request plainGet halfDraw), 104⟩).bind fun next =>
        (HealthRun.attempt reached.proxy next.proxy (.resume 5 (.request plainGet halfDraw))).map
          fun target => decide (AvoidsMarked reached.monitor target.2 104 target.1)) =
      some false := by
    decide +kernel
  obtain ⟨reached, ran, rest⟩ := Option.bind_eq_some_iff.mp breaks
  obtain ⟨next, stepped, rest⟩ := Option.bind_eq_some_iff.mp rest
  obtain ⟨⟨server, servers⟩, attempted, avoids⟩ := Option.map_eq_some_iff.mp rest
  exact ⟨reached, next, server, servers, ran, stepped, attempted, of_decide_eq_false avoids⟩

end LocalNetwork
