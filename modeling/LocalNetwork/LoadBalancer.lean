/-
This file models `proxy/load_balancer.py`: the servers of an upstream, the four balancers
with their state, and the results of `select`, the exceptions included. A weight is any
integer, as the configuration does not check it.

Two things are not under the model's control. The quotients that `least_conn` compares and
the digest that `ip_hash` reduces are parameters. A random draw is a rational number in the
unit interval, and its product with the total weight is exact where the source rounds it; a
total weight that is too large for a float, with which the source raises an `OverflowError`,
is multiplied as well.
-/

import LocalNetwork.Dict
import LocalNetwork.WeightedChoice
import Mathlib.Data.List.MinMax

namespace LocalNetwork

structure UpstreamServer where
  host : String
  port : Nat
  weight : Int
  backup : Bool
  down : Bool
  deriving DecidableEq, Repr

/-- The key of a server in the table of active connections. -/
def UpstreamServer.key (server : UpstreamServer) : String :=
  server.host ++ ":" ++ toString server.port

/-- What a balancer uses of the interpreter and its library. -/
structure BalancerPackages (Score : Type) where
  /-- The quotient of two integers, a float. -/
  divide : Nat → Nat → Score
  /-- The MD5 digest of a text as an integer. -/
  md5 : String → Nat

/-- A result of `random.random()`. -/
structure UnitDraw where
  value : ℚ
  nonnegative : 0 ≤ value
  belowOne : value < 1

inductive BalancerException where
  | indexError
  | valueError (text : String)
  deriving DecidableEq, Repr

/-- What `select` returns or raises. -/
abbrev Selection := Except BalancerException (Option UpstreamServer)

/-- The element at an index of a list. -/
def elementAt (servers : List UpstreamServer) (index : Nat) : Selection :=
  match servers[index]? with
  | some server => .ok (some server)
  | none => .error .indexError

/-! ### Weighted round-robin -/

structure RoundRobinBalancer where
  index : Nat

namespace RoundRobinBalancer

def init : RoundRobinBalancer := ⟨0⟩

/-- The servers that a selection chooses from: those that are up and no backup, else the backups
that are up. -/
def available (servers : List UpstreamServer) : List UpstreamServer :=
  let primary := servers.filter fun server => !server.down && !server.backup
  if primary = [] then servers.filter fun server => server.backup && !server.down else primary

/-- Each server as often as it weighs. -/
def weighted (servers : List UpstreamServer) : List UpstreamServer :=
  (available servers).flatMap fun server => List.replicate server.weight.toNat server

def select (balancer : RoundRobinBalancer) (servers : List UpstreamServer) :
    Selection × RoundRobinBalancer :=
  if available servers = [] then (.ok none, balancer)
  else
    match (weighted servers)[balancer.index]? with
    | none => (.error .indexError, balancer)
    | some result => (.ok (some result), ⟨(balancer.index + 1) % (weighted servers).length⟩)

end RoundRobinBalancer

/-- The servers that are not down, backup or not. -/
def upServers (servers : List UpstreamServer) : List UpstreamServer :=
  servers.filter fun server => !server.down

/-! ### Least connections -/

structure LeastConnBalancer where
  activeConns : Dict String Nat

namespace LeastConnBalancer

def init : LeastConnBalancer := ⟨Dict.empty⟩

/-- The number of connections of a server over its weight. -/
def score {Score : Type} (packages : BalancerPackages Score) (balancer : LeastConnBalancer)
    (server : UpstreamServer) : Score :=
  packages.divide ((balancer.activeConns.get? server.key).getD 0) (max server.weight 1).toNat

/-- The first of the servers whose score is least. -/
def select {Score : Type} [LinearOrder Score] (packages : BalancerPackages Score)
    (balancer : LeastConnBalancer) (servers : List UpstreamServer) : Selection :=
  .ok ((upServers servers).argmin (balancer.score packages))

def increment (balancer : LeastConnBalancer) (server : UpstreamServer) : LeastConnBalancer :=
  ⟨balancer.activeConns.insert server.key ((balancer.activeConns.get? server.key).getD 0 + 1)⟩

def decrement (balancer : LeastConnBalancer) (server : UpstreamServer) : LeastConnBalancer :=
  ⟨balancer.activeConns.insert server.key ((balancer.activeConns.get? server.key).getD 1 - 1)⟩

end LeastConnBalancer

/-! ### Hash of the client's address -/

namespace IpHashBalancer

/-- The loop of `select`: subtract weights until the index falls into one. -/
def walk : List UpstreamServer → Int → Option UpstreamServer
  | [], _ => none
  | server :: rest, index =>
    if index < server.weight then some server else walk rest (index - server.weight)

def select {Score : Type} (packages : BalancerPackages Score) (servers : List UpstreamServer)
    (clientIp : String) : Selection :=
  let available := upServers servers
  if available = [] then .ok none
  else if clientIp = "" then elementAt available 0
  else
    let totalWeight := (available.map UpstreamServer.weight).sum
    if totalWeight = 0 then .ok none
    else
      match walk available (Int.fmod (packages.md5 clientIp) totalWeight) with
      | some server => .ok (some server)
      | none => elementAt available (available.length - 1)

end IpHashBalancer

/-! ### Weighted random selection -/

namespace RandomBalancer

/-- `random.choices` of one server, for every total weight. -/
def choices (servers : List UpstreamServer) (draw : UnitDraw) : Selection :=
  let weights := servers.map UpstreamServer.weight
  if weights.sum ≤ 0 then .error (.valueError "Total of weights must be greater than zero")
  else elementAt servers
    (bisect (accumulate 0 weights) (draw.value * (weights.sum : Int)) 0 (servers.length - 1))

def select (servers : List UpstreamServer) (draw : UnitDraw) : Selection :=
  if upServers servers = [] then .ok none else choices (upServers servers) draw

end RandomBalancer

/-! ### The balancer of an upstream -/

inductive LoadBalancer where
  | roundRobin (balancer : RoundRobinBalancer)
  | leastConn (balancer : LeastConnBalancer)
  | ipHash
  | random

/-- Create a balancer by the name of its algorithm. -/
def createBalancer (algorithm : String) : Except BalancerException LoadBalancer :=
  if algorithm = "round_robin" then .ok (.roundRobin .init)
  else if algorithm = "least_conn" then .ok (.leastConn .init)
  else if algorithm = "ip_hash" then .ok .ipHash
  else if algorithm = "random" then .ok .random
  else .error (.valueError ("unknown load balancing algorithm: " ++ algorithm))

theorem createBalancer_cases {algorithm : String} {balancer : LoadBalancer}
    (created : createBalancer algorithm = .ok balancer) :
    balancer = .roundRobin .init ∨ balancer = .leastConn .init ∨ balancer = .ipHash ∨
      balancer = .random := by
  unfold createBalancer at created
  split at created
  · exact .inl (Except.ok.inj created).symm
  · split at created
    · exact .inr (.inl (Except.ok.inj created).symm)
    · split at created
      · exact .inr (.inr (.inl (Except.ok.inj created).symm))
      · split at created
        · exact .inr (.inr (.inr (Except.ok.inj created).symm))
        · cases created

namespace LoadBalancer

variable {Score : Type} [LinearOrder Score] (packages : BalancerPackages Score)

def select (balancer : LoadBalancer) (servers : List UpstreamServer) (clientIp : String)
    (draw : UnitDraw) : Selection × LoadBalancer :=
  match balancer with
  | .roundRobin state =>
    let (result, next) := state.select servers
    (result, .roundRobin next)
  | .leastConn state => (state.select packages servers, balancer)
  | .ipHash => (IpHashBalancer.select packages servers clientIp, balancer)
  | .random => (RandomBalancer.select servers draw, balancer)

/-- The balancer after selections from one list of servers, each with its client and its draw. -/
def afterSelects (servers : List UpstreamServer) :
    LoadBalancer → List (String × UnitDraw) → LoadBalancer
  | balancer, [] => balancer
  | balancer, (clientIp, draw) :: rest =>
    afterSelects servers (balancer.select packages servers clientIp draw).2 rest

/-- `increment`, on a balancer that has it. -/
def increment (server : UpstreamServer) : LoadBalancer → LoadBalancer
  | .leastConn state => .leastConn (state.increment server)
  | balancer => balancer

/-- `decrement`, on a balancer that has it. -/
def decrement (server : UpstreamServer) : LoadBalancer → LoadBalancer
  | .leastConn state => .leastConn (state.decrement server)
  | balancer => balancer

end LoadBalancer

/-- Exact quotients, and a digest for balancers that compute none. -/
def exactRatios : BalancerPackages ℚ where
  divide count weight := (count : ℚ) / weight
  md5 _ := 0

def halfDraw : UnitDraw := ⟨1 / 2, by norm_num, by norm_num⟩

end LocalNetwork
