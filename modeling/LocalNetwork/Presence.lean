/-
This file is about the online flag of the registry. A registration sets it together with
the client's writer and endpoint, and a disconnect clears the three together; but a
heartbeat sets the flag alone, on the word of a connection that may have lost its place in
the tables: the prune loop removes a silent client and leaves its connection open, and the
teardown of an older connection removes a client that a newer one has registered.

The file proves that this is the only way an online client comes to be unreachable. In
every run in which each HEARTBEAT that is dispatched finds its client in `_writers`, every
client that is online has a writer and an endpoint. The run at the end shows a connection
that outlives its own pruning.
-/

import LocalNetwork.Reconnect

namespace LocalNetwork

/-- Every client that is online has a writer and an endpoint. -/
def Server.OnlineReachable (server : Server) : Prop :=
  ∀ clientId record, server.registry.get clientId = some record → record.online = true →
    server.writers.contains clientId = true ∧ record.publicEndpoint.isSome = true

/-- The client for which a step dispatches a HEARTBEAT. -/
def Server.heartbeating (server : Server) : ServerEvent → Option String
  | .receive id message _ =>
    (server.connections.get? id).bind fun connection =>
      if connection.Waiting ∧ connection.authenticated = true ∧ message.type = "HEARTBEAT" then
        connection.clientId
      else none
  | _ => none

/-- A HEARTBEAT is dispatched for a client that has a writer. -/
def HeartbeatsHaveWriter (server : Server) (event : ServerEvent) : Prop :=
  ∀ clientId ∈ server.heartbeating event, server.writers.contains clientId = true

instance (server : Server) (event : ServerEvent) :
    Decidable (HeartbeatsHaveWriter server event) :=
  inferInstanceAs (Decidable (∀ clientId ∈ server.heartbeating event, _))

/-! ### The invariant -/

/-- An online client has a writer, and a client with a writer has an endpoint. -/
structure Presence (server : Server) : Prop where
  written : ∀ clientId record, server.registry.get clientId = some record →
    record.online = true → server.writers.contains clientId = true
  located : ∀ clientId record, server.registry.get clientId = some record →
    server.writers.contains clientId = true → record.publicEndpoint.isSome = true

theorem Presence.onlineReachable {server : Server} (presence : Presence server) :
    server.OnlineReachable := by
  intro clientId record stored online
  have written := presence.written clientId record stored online
  exact ⟨written, presence.located clientId record stored written⟩

variable {packages : Packages} {server next : Server} {event : ServerEvent} {id : ConnId}

/-- The writers stay, no endpoint changes, and only a client with a writer comes online. -/
theorem Presence.records (presence : Presence server) (writers : next.writers = server.writers)
    (kept : ∀ clientId record, next.registry.get clientId = some record →
      ∃ before, server.registry.get clientId = some before ∧
        record.publicEndpoint = before.publicEndpoint ∧
        (record.online = true → before.online = true ∨
          server.writers.contains clientId = true)) :
    Presence next := by
  constructor
  · intro clientId record stored online
    obtain ⟨before, beforeStored, -, cameOnline⟩ := kept clientId record stored
    rw [writers]
    rcases cameOnline online with was | written
    · exact presence.written clientId before beforeStored was
    · exact written
  · intro clientId record stored written
    obtain ⟨before, beforeStored, endpoint, -⟩ := kept clientId record stored
    rw [endpoint]
    rw [writers] at written
    exact presence.located clientId before beforeStored written

/-- A step that leaves the writers and the registry alone. -/
theorem Presence.unchanged (presence : Presence server) (writers : next.writers = server.writers)
    (registry : next.registry = server.registry) : Presence next := by
  refine presence.records writers fun clientId record stored => ?_
  rw [registry] at stored
  exact ⟨record, stored, rfl, .inl⟩

/-- A command keeps every endpoint, and brings its own client online only as a heartbeat. -/
theorem command_record {clientId other : String} {message : Message} {choice : Choice}
    {handled : Handled} {record : ClientRecord}
    (ran : server.handleCommand packages clientId message choice = some handled)
    (stored : handled.networks.registry.get other = some record) :
    ∃ before, server.registry.get other = some before ∧
      record.publicEndpoint = before.publicEndpoint ∧
      (record.online = true → before.online = true ∨
        (other = clientId ∧ message.type = "HEARTBEAT")) := by
  -- A change of the client's own record that keeps the endpoint and the flag.
  have own (update : ClientRecord → ClientRecord)
      (changed : (if other = clientId then (server.registry.get other).map update
        else server.registry.get other) = some record)
      (endpoint : ∀ record, (update record).publicEndpoint = record.publicEndpoint)
      (online : ∀ record, (update record).online = record.online) :
      ∃ before, server.registry.get other = some before ∧
        record.publicEndpoint = before.publicEndpoint ∧
        (record.online = true → before.online = true ∨
          (other = clientId ∧ message.type = "HEARTBEAT")) := by
    by_cases same : other = clientId
    · rw [if_pos same] at changed
      obtain ⟨before, found, rfl⟩ := Option.map_eq_some_iff.mp changed
      exact ⟨before, found, endpoint before, fun up => .inl (online before ▸ up)⟩
    · rw [if_neg same] at changed
      exact ⟨record, changed, rfl, .inl⟩
  cases Server.command_cases ran with
  | heartbeat typed =>
    rw [show (server.onHeartbeat clientId message choice).networks.registry =
      (server.registry.heartbeat clientId choice.now).2 from rfl,
      ClientRegistry.get_heartbeat] at stored
    by_cases same : other = clientId
    · rw [if_pos same] at stored
      obtain ⟨before, found, rfl⟩ := Option.map_eq_some_iff.mp stored
      exact ⟨before, found, rfl, fun _ => .inr ⟨same, typed⟩⟩
    · rw [if_neg same] at stored
      exact ⟨record, stored, rfl, .inl⟩
  | created =>
    exact own _ ((ClientRegistry.get_addNetwork _ _ _ _).symm.trans stored) (fun _ => rfl)
      (fun _ => rfl)
  | joined =>
    exact own _ ((ClientRegistry.get_addNetwork _ _ _ _).symm.trans stored) (fun _ => rfl)
      (fun _ => rfl)
  | left =>
    exact own _ ((ClientRegistry.get_removeNetwork _ _ _ _).symm.trans stored) (fun _ => rfl)
      (fun _ => rfl)
  | _ => exact ⟨record, stored, rfl, .inl⟩

/-- A registration gives its client a writer and an endpoint. -/
theorem presence_register (presence : Presence server) (peer : Addr)
    (clientId publicKey : String) (choice : Choice) (todo : List Instr) :
    Presence ((server.register id peer clientId publicKey choice).2.withTodo id todo) := by
  have writers : ((server.register id peer clientId publicKey choice).2.withTodo id todo).writers =
    server.writers.insert clientId id := rfl
  have registry : ((server.register id peer clientId publicKey choice).2.withTodo id
      todo).registry = (((server.registry.register clientId publicKey choice.now).updateEndpoint
        clientId peer).setOnline clientId choice.now).2 := rfl
  constructor
  · intro other record stored online
    rw [writers, Dict.contains, Dict.get?_insert]
    by_cases same : other = clientId
    · rw [if_pos same]
      rfl
    · rw [if_neg same]
      rw [registry, ClientRegistry.get_registered_of_ne _ _ _ _ same] at stored
      exact presence.written other record stored online
  · intro other record stored written
    by_cases same : other = clientId
    · subst same
      rw [registry, ClientRegistry.get_setOnline, if_pos rfl, ClientRegistry.get_updateEndpoint,
        if_pos rfl, Option.map_map] at stored
      obtain ⟨before, -, rfl⟩ := Option.map_eq_some_iff.mp stored
      rw [Function.comp_apply]
      split <;> rfl
    · rw [registry, ClientRegistry.get_registered_of_ne _ _ _ _ same] at stored
      rw [writers, Dict.contains, Dict.get?_insert, if_neg same] at written
      exact presence.located other record stored written

/-- A disconnect takes the writer and the online flag of its client together. -/
theorem presence_handleDisconnect (presence : Presence server) (clientId : String)
    (writers : next.writers = server.writers.erase clientId)
    (registry : next.registry = server.registry.unregister clientId) : Presence next := by
  constructor
  · intro other record stored online
    rw [registry, ClientRegistry.get_unregister] at stored
    by_cases same : other = clientId
    · rw [if_pos same] at stored
      obtain ⟨before, -, rfl⟩ := Option.map_eq_some_iff.mp stored
      cases online
    · rw [if_neg same] at stored
      rw [writers, Dict.contains, Dict.get?_erase_of_ne _ same]
      exact presence.written other record stored online
  · intro other record stored written
    rw [writers, Dict.contains, Dict.get?_erase] at written
    by_cases same : other = clientId
    · rw [if_pos same] at written
      cases written
    · rw [if_neg same] at written
      rw [registry, ClientRegistry.get_unregister, if_neg same] at stored
      exact presence.located other record stored written

/-! ### Every run -/

/-- Every step that meets the condition keeps the invariant. -/
theorem presence_step (heard : HeartbeatsHaveWriter server event) (presence : Presence server)
    (stepped : server.step packages event = some next) : Presence next := by
  cases step_cases stepped with
  | register id message choice connection clientId publicKey accepts =>
    exact presence_register presence _ _ _ _ _
  | dispatch id message choice connection clientId handled found waiting registered authenticated
      ran =>
    refine presence.records rfl fun other record stored => ?_
    obtain ⟨before, beforeStored, endpoint, online⟩ := command_record ran stored
    refine ⟨before, beforeStored, endpoint, fun up => (online up).imp_right ?_⟩
    rintro ⟨rfl, typed⟩
    refine heard other ?_
    simp only [Server.heartbeating, found, Option.bind_some]
    rw [if_pos ⟨waiting, authenticated, typed⟩, registered]
    rfl
  | disconnect event id connection clientId order leaves found reading registered authenticated
      visited => exact presence_handleDisconnect presence clientId rfl rfl
  | pruneTick now idle =>
    refine presence.records rfl fun other record stored => ?_
    obtain ⟨before, found, rfl⟩ :=
      Option.map_eq_some_iff.mp ((ClientRegistry.get_pruneStale _ _ _ _).symm.trans stored)
    refine ⟨before, found, ?_, fun online => .inl ?_⟩
    · split <;> rfl
    · split at online
      · cases online
      · exact online
  | pruneDisconnect choice clientId rest todo visited =>
    exact presence_handleDisconnect presence clientId rfl rfl
  | _ => exact presence.unchanged rfl rfl

/-- In every run in which each HEARTBEAT that is dispatched finds its client in `_writers`, every
client that is online has a writer and an endpoint. -/
theorem online_reachable (packages : Packages) (maxClients : Nat) (heartbeatTimeout ttl : Time)
    (maxAttempts : Int) (bannedNetworks : Finset String) (events : List ServerEvent)
    (server : Server)
    (along : HoldsAlong (Server.step packages) HeartbeatsHaveWriter
      (Server.init maxClients heartbeatTimeout ttl maxAttempts bannedNetworks) events)
    (ran : runFrom (Server.step packages)
      (Server.init maxClients heartbeatTimeout ttl maxAttempts bannedNetworks) events =
        some server) :
    server.OnlineReachable := by
  have initially : Presence
      (Server.init maxClients heartbeatTimeout ttl maxAttempts bannedNetworks) := by
    constructor
    · intro clientId record stored
      cases stored
    · intro clientId record stored
      cases stored
  exact (run_invariant (fun _ _ _ heard presence stepped => presence_step heard presence stepped)
    initially along ran).onlineReachable

/-- A heartbeat on a connection. -/
def heartbeatOn (id : ConnId) : ServerEvent := .receive id ⟨"HEARTBEAT", Dict.empty⟩ (calm [])

theorem online_reachable_heartbeat :
    (serverAfter (login 0 "client-0001" [] ++ [heartbeatOn 0])).registry.isOnline "client-0001" =
        true ∧
      (serverAfter (login 0 "client-0001" [] ++ [heartbeatOn 0])).OnlineReachable :=
  ⟨by decide +kernel,
    online_reachable plainPackages 8 90 60 5 ∅ _ _ (by decide +kernel)
      (runFrom_serverAfter (by decide +kernel))⟩

/-- A client logs in and is silent until the prune loop takes it out of the tables. -/
def pruned : List ServerEvent :=
  login 0 "client-0001" [] ++ [.pruneTick 100, .advancePrune (calm [])]

/-- The pruned connection is still open, and its next heartbeat puts the client online again,
without a writer and without an endpoint. -/
theorem pruned_heartbeat_unreachable :
    (runFrom (Server.step plainPackages) exampleServer (pruned ++ [heartbeatOn 0])).isSome = true ∧
      (serverAfter pruned).registry.isOnline "client-0001" = false ∧
      (serverAfter (pruned ++ [heartbeatOn 0])).registry.isOnline "client-0001" = true ∧
      (serverAfter (pruned ++ [heartbeatOn 0])).writers.contains "client-0001" = false ∧
      ((serverAfter (pruned ++ [heartbeatOn 0])).registry.get "client-0001").any
        (fun record => record.publicEndpoint.isNone) = true ∧
      ¬ (serverAfter (pruned ++ [heartbeatOn 0])).OnlineReachable := by
  have online : (serverAfter (pruned ++ [heartbeatOn 0])).registry.isOnline "client-0001" = true :=
    by decide +kernel
  have unwritten : (serverAfter (pruned ++ [heartbeatOn 0])).writers.contains "client-0001" =
      false := by decide +kernel
  refine ⟨by decide +kernel, by decide +kernel, online, unwritten, by decide +kernel,
    fun reachable => ?_⟩
  obtain ⟨record, stored, up⟩ := ClientRegistry.isOnline_iff.mp online
  cases unwritten.symm.trans (reachable "client-0001" record stored up).1

end LocalNetwork
