/-
This file models `server/registry.py`: the records of the registered clients, kept in a
dictionary by client id. Records are updated in place and never removed by the server's
own handlers. Clock readings are arguments.
-/

import LocalNetwork.Dict
import LocalNetwork.Basic
import Mathlib.Data.Finset.Basic

namespace LocalNetwork

/-- Everything the server knows about one registered client. -/
structure ClientRecord where
  clientId : String
  publicKeyPem : String
  publicEndpoint : Option Addr
  lastHeartbeat : Time
  online : Bool
  networks : Finset String
  joinedAt : Time
  banned : Bool
  clientIp : Option String

/-- The clients the server knows, by id. -/
structure ClientRegistry where
  clients : Dict String ClientRecord

namespace ClientRegistry

def init : ClientRegistry := ⟨Dict.empty⟩

/-- The record a first registration creates. -/
def newRecord (clientId publicKeyPem : String) (now : Time) : ClientRecord where
  clientId := clientId
  publicKeyPem := publicKeyPem
  publicEndpoint := none
  lastHeartbeat := now
  online := false
  networks := ∅
  joinedAt := now
  banned := false
  clientIp := none

/-- Register or re-register: an existing record keeps everything but its key. -/
def register (registry : ClientRegistry) (clientId publicKeyPem : String) (now : Time) :
    ClientRegistry :=
  let present :=
    if registry.clients.contains clientId then registry.clients
    else registry.clients.insert clientId (newRecord clientId publicKeyPem now)
  ⟨present.modify clientId fun record => { record with publicKeyPem := publicKeyPem }⟩

/-- Mark a client offline but keep its record. -/
def unregister (registry : ClientRegistry) (clientId : String) : ClientRegistry :=
  ⟨registry.clients.modify clientId fun record =>
    { record with online := false, publicEndpoint := none }⟩

/-- Remove a client record. -/
def forget (registry : ClientRegistry) (clientId : String) : ClientRegistry :=
  ⟨registry.clients.erase clientId⟩

def get (registry : ClientRegistry) (clientId : String) : Option ClientRecord :=
  registry.clients.get? clientId

def has (registry : ClientRegistry) (clientId : String) : Bool :=
  registry.clients.contains clientId

def isBanned (registry : ClientRegistry) (clientId : String) : Bool :=
  match registry.get clientId with
  | none => false
  | some record => record.banned

/-- Mark a client online, unless it is unknown or banned. -/
def setOnline (registry : ClientRegistry) (clientId : String) (now : Time) :
    Bool × ClientRegistry :=
  match registry.get clientId with
  | none => (false, registry)
  | some record =>
    if record.banned then (false, registry)
    else
      (true, ⟨registry.clients.modify clientId fun record =>
        { record with online := true, lastHeartbeat := now }⟩)

def updateEndpoint (registry : ClientRegistry) (clientId : String) (addr : Addr) :
    ClientRegistry :=
  ⟨registry.clients.modify clientId fun record =>
    { record with publicEndpoint := some addr, clientIp := some addr.1 }⟩

/-- Bump the heartbeat of a known client; this also marks it online. -/
def heartbeat (registry : ClientRegistry) (clientId : String) (now : Time) :
    Bool × ClientRegistry :=
  (registry.has clientId, ⟨registry.clients.modify clientId fun record =>
    { record with lastHeartbeat := now, online := true }⟩)

/-- Online, and silent for longer than the timeout. -/
def isStale (now timeout : Time) (record : ClientRecord) : Bool :=
  record.online && decide (record.lastHeartbeat < now - timeout)

/-- Mark silent clients offline and name them. -/
def pruneStale (registry : ClientRegistry) (now timeout : Time) : List String × ClientRegistry :=
  ((registry.clients.entries.filter fun entry => isStale now timeout entry.2).map Prod.fst,
    ⟨registry.clients.mapValues fun _ record =>
      if isStale now timeout record then { record with online := false } else record⟩)

def addNetwork (registry : ClientRegistry) (clientId networkId : String) : ClientRegistry :=
  ⟨registry.clients.modify clientId fun record =>
    { record with networks := insert networkId record.networks }⟩

def removeNetwork (registry : ClientRegistry) (clientId networkId : String) : ClientRegistry :=
  ⟨registry.clients.modify clientId fun record =>
    { record with networks := record.networks.erase networkId }⟩

def networksFor (registry : ClientRegistry) (clientId : String) : Finset String :=
  match registry.get clientId with
  | none => ∅
  | some record => record.networks

/-- The online clients that belong to any of the networks, in registration order. -/
def membersInNetworks (registry : ClientRegistry) (networkIds : Finset String) :
    List ClientRecord :=
  registry.clients.values.filter fun record =>
    record.online && decide (record.networks ∩ networkIds).Nonempty

/-! ### What each operation does to a record -/

theorem has_iff {registry : ClientRegistry} {clientId : String} :
    registry.has clientId = true ↔ ∃ record, registry.get clientId = some record :=
  Dict.contains_iff

theorem get_register (registry : ClientRegistry) (clientId publicKeyPem : String) (now : Time)
    (other : String) :
    (registry.register clientId publicKeyPem now).get other =
      if other = clientId then
        some { (registry.get clientId).getD (newRecord clientId publicKeyPem now) with
          publicKeyPem := publicKeyPem }
      else registry.get other := by
  simp only [register, get, Dict.get?_modify]
  by_cases same : other = clientId
  · subst same
    rw [if_pos rfl, if_pos rfl]
    cases stored : registry.clients.get? other with
    | none => simp [Dict.contains, stored]
    | some record => simp [Dict.contains, stored]
  · rw [if_neg same, if_neg same]
    split
    · rfl
    · exact Dict.get?_insert_of_ne _ _ same

theorem get_unregister (registry : ClientRegistry) (clientId other : String) :
    (registry.unregister clientId).get other =
      if other = clientId then
        (registry.get other).map fun record =>
          { record with online := false, publicEndpoint := none }
      else registry.get other :=
  Dict.get?_modify _ _ _ _

theorem get_setOnline (registry : ClientRegistry) (clientId : String) (now : Time)
    (other : String) :
    (registry.setOnline clientId now).2.get other =
      if other = clientId then
        (registry.get other).map fun record =>
          if record.banned then record else { record with online := true, lastHeartbeat := now }
      else registry.get other := by
  unfold setOnline
  cases stored : registry.get clientId with
  | none =>
    by_cases same : other = clientId
    · simp [same, stored]
    · simp [same]
  | some record =>
    by_cases banned : record.banned = true
    · by_cases same : other = clientId
      · simp [same, stored, banned]
      · simp [same, banned]
    · simp only [banned, Bool.false_eq_true, if_false]
      unfold get at stored ⊢
      rw [Dict.get?_modify]
      by_cases same : other = clientId
      · simp [same, stored, banned]
      · simp [same]

theorem get_updateEndpoint (registry : ClientRegistry) (clientId : String) (addr : Addr)
    (other : String) :
    (registry.updateEndpoint clientId addr).get other =
      if other = clientId then
        (registry.get other).map fun record =>
          { record with publicEndpoint := some addr, clientIp := some addr.1 }
      else registry.get other :=
  Dict.get?_modify _ _ _ _

theorem get_heartbeat (registry : ClientRegistry) (clientId : String) (now : Time)
    (other : String) :
    (registry.heartbeat clientId now).2.get other =
      if other = clientId then
        (registry.get other).map fun record => { record with lastHeartbeat := now, online := true }
      else registry.get other :=
  Dict.get?_modify _ _ _ _

theorem get_pruneStale (registry : ClientRegistry) (now timeout : Time) (other : String) :
    (registry.pruneStale now timeout).2.get other =
      (registry.get other).map fun record =>
        if isStale now timeout record then { record with online := false } else record :=
  Dict.get?_mapValues _ _ _

theorem get_addNetwork (registry : ClientRegistry) (clientId networkId other : String) :
    (registry.addNetwork clientId networkId).get other =
      if other = clientId then
        (registry.get other).map fun record =>
          { record with networks := insert networkId record.networks }
      else registry.get other :=
  Dict.get?_modify _ _ _ _

theorem get_removeNetwork (registry : ClientRegistry) (clientId networkId other : String) :
    (registry.removeNetwork clientId networkId).get other =
      if other = clientId then
        (registry.get other).map fun record =>
          { record with networks := record.networks.erase networkId }
      else registry.get other :=
  Dict.get?_modify _ _ _ _

/-- The three writes of a registration touch the record of its own client only. -/
theorem get_registered_of_ne (registry : ClientRegistry) {clientId other : String}
    (publicKeyPem : String) (peer : Addr) (now : Time) (different : other ≠ clientId) :
    (((registry.register clientId publicKeyPem now).updateEndpoint clientId peer).setOnline
      clientId now).2.get other = registry.get other := by
  rw [get_setOnline, if_neg different, get_updateEndpoint, if_neg different, get_register,
    if_neg different]

end ClientRegistry

end LocalNetwork
