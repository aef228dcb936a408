/-
This file models the passive health checks of the proxy, `proxy/health_check.py`: the record
of each server, and what a failure, a success and a question about a server do to it. Every
reading of the monotonic clock is a parameter.

A server that was marked unavailable less than the timeout ago is one of which the monitor
says that it is not available, as often as it is asked.
-/

import LocalNetwork.Basic
import LocalNetwork.LoadBalancer

namespace LocalNetwork

structure ServerHealth where
  host : String
  port : Nat
  failures : Int
  lastFailure : Time
  unavailable : Bool
  unavailableSince : Time
  totalFailures : Int

def ServerHealth.new (host : String) (port : Nat) : ServerHealth :=
  ⟨host, port, 0, 0, false, 0, 0⟩

structure HealthMonitor where
  maxFailures : Int
  failTimeout : Time
  servers : Dict String ServerHealth

namespace HealthMonitor

def new (maxFailures : Int) (failTimeout : Time) : HealthMonitor :=
  ⟨maxFailures, failTimeout, Dict.empty⟩

def key (host : String) (port : Nat) : String := host ++ ":" ++ toString port

/-- The record of a server after a failure. -/
def afterFailure (monitor : HealthMonitor) (health : ServerHealth) (now : Time) : ServerHealth :=
  let earlier := if monitor.failTimeout < now - health.lastFailure then 0 else health.failures
  let failed := { health with
    failures := earlier + 1
    totalFailures := health.totalFailures + 1
    lastFailure := now }
  if monitor.maxFailures ≤ failed.failures then
    { failed with unavailable := true, unavailableSince := now }
  else failed

def recordFailure (monitor : HealthMonitor) (host : String) (port : Nat) (now : Time) :
    HealthMonitor :=
  let health := (monitor.servers.get? (key host port)).getD (.new host port)
  { monitor with
    servers := monitor.servers.insert (key host port) (monitor.afterFailure health now) }

def recordSuccess (monitor : HealthMonitor) (host : String) (port : Nat) : HealthMonitor :=
  { monitor with
    servers := monitor.servers.modify (key host port) fun health =>
      { health with failures := 0, unavailable := false } }

/-- `is_available`; a server whose timeout is over counts as available again. -/
def isAvailable (monitor : HealthMonitor) (host : String) (port : Nat) (now : Time) :
    Bool × HealthMonitor :=
  match monitor.servers.get? (key host port) with
  | none => (true, monitor)
  | some health =>
    if !health.unavailable then (true, monitor)
    else if monitor.failTimeout < now - health.unavailableSince then
      (true, { monitor with
        servers := monitor.servers.modify (key host port) fun health =>
          { health with unavailable := false, failures := 0 } })
    else (false, monitor)

/-! ### Marks -/

/-- The monitor has a server marked as unavailable. -/
def Marked (monitor : HealthMonitor) (server : UpstreamServer) : Prop :=
  ∃ health ∈ monitor.servers.get? server.key, health.unavailable = true

/-- The mark was set less than the timeout ago. -/
def MarkedLately (monitor : HealthMonitor) (server : UpstreamServer) (now : Time) : Prop :=
  ∃ health ∈ monitor.servers.get? server.key, health.unavailable = true ∧
    now - health.unavailableSince < monitor.failTimeout

instance (monitor : HealthMonitor) (server : UpstreamServer) :
    Decidable (monitor.Marked server) :=
  inferInstanceAs (Decidable (∃ health ∈ monitor.servers.get? server.key,
    health.unavailable = true))

instance (monitor : HealthMonitor) (server : UpstreamServer) (now : Time) :
    Decidable (monitor.MarkedLately server now) :=
  inferInstanceAs (Decidable (∃ health ∈ monitor.servers.get? server.key,
    health.unavailable = true ∧ now - health.unavailableSince < monitor.failTimeout))

end HealthMonitor

end LocalNetwork
