/-
This file proves the representation invariant of the relay. The four structures of the
forwarder are updated by each operation on its own, and a drop rebuilds three of them; what
ties them together is the set of paths. It is symmetric, both ends of a path have a queue, a
frame waits and bytes are counted only where there is a path, and no queue is too long.

Registering only adds paths, so everything that had a path keeps it. Queueing a frame checks
the path and the length. A drop removes the paths of one client and, with them, exactly its
queue, its frames in other queues and its counters.
-/

import LocalNetwork.RelayPaths
import LocalNetwork.RelayQueues

namespace LocalNetwork

namespace RelayForwarder

/-- The four structures of the relay fit together. -/
structure Represented (relay : RelayForwarder) : Prop where
  symmetric : ∀ srcId dstId, (srcId, dstId) ∈ relay.paths → (dstId, srcId) ∈ relay.paths
  queued : ∀ pair ∈ relay.paths, pair.1 ∈ relay.queues.keys ∧ pair.2 ∈ relay.queues.keys
  authorized : ∀ dstId queue, relay.queues.get? dstId = some queue →
    ∀ item ∈ queue, (item.1, dstId) ∈ relay.paths
  bounded : ∀ dstId queue, relay.queues.get? dstId = some queue → queue.length ≤ maxRelayQueue
  counted : ∀ pair ∈ relay.bytesRelayed.keys, pair ∈ relay.paths

theorem represented_init : init.Represented where
  symmetric srcId dstId path := absurd path (Finset.notMem_empty _)
  queued pair path := absurd path (Finset.notMem_empty _)
  authorized dstId queue found := by cases found
  bounded dstId queue found := by cases found
  counted pair counter := absurd counter List.not_mem_nil

variable {relay : RelayForwarder}

/-! ### Registering a path -/

theorem mem_queueFor_keys (relay : RelayForwarder) (clientId other : String) :
    other ∈ (relay.queueFor clientId).queues.keys ↔
      other = clientId ∨ other ∈ relay.queues.keys := by
  unfold queueFor
  split
  · rename_i queue found
    have present : clientId ∈ relay.queues.keys := Dict.mem_keys_iff.mpr ⟨queue, found⟩
    exact ⟨.inr, fun member => member.elim (fun same => same ▸ present) id⟩
  · rw [Dict.mem_keys_iff, Dict.mem_keys_iff]
    by_cases same : other = clientId
    · simp [same]
    · simp [same, Dict.get?_insert_of_ne]

/-- A queue that `_queue_for` leaves behind was there before or is empty. -/
theorem queueFor_found {clientId dstId : String} {queue : List (String × Bytes)}
    (found : (relay.queueFor clientId).queues.get? dstId = some queue) :
    relay.queues.get? dstId = some queue ∨ queue = [] := by
  have waiting := queueFor_queue relay clientId dstId
  rw [found, Option.getD_some] at waiting
  cases before : relay.queues.get? dstId with
  | none => exact .inr (by rw [waiting, before, Option.getD_none])
  | some stored => exact .inl (by rw [waiting, before, Option.getD_some])

theorem registerRelayPath_found {srcId dstId otherId : String} {queue : List (String × Bytes)}
    (found : (relay.registerRelayPath srcId dstId).2.queues.get? otherId = some queue) :
    relay.queues.get? otherId = some queue ∨ queue = [] := by
  have found : ((relay.queueFor dstId).queueFor srcId).queues.get? otherId = some queue := found
  rcases queueFor_found found with before | empty
  · exact queueFor_found before
  · exact .inr empty

theorem mem_registerRelayPath_keys (relay : RelayForwarder) (srcId dstId otherId : String) :
    otherId ∈ (relay.registerRelayPath srcId dstId).2.queues.keys ↔
      otherId = srcId ∨ otherId = dstId ∨ otherId ∈ relay.queues.keys := by
  show otherId ∈ ((relay.queueFor dstId).queueFor srcId).queues.keys ↔ _
  rw [mem_queueFor_keys, mem_queueFor_keys]

theorem mem_registerRelayPath_paths (relay : RelayForwarder) (srcId dstId : String)
    (pair : String × String) :
    pair ∈ (relay.registerRelayPath srcId dstId).2.paths ↔
      pair = (dstId, srcId) ∨ pair = (srcId, dstId) ∨ pair ∈ relay.paths := by
  rw [registerRelayPath_paths, Finset.mem_insert, Finset.mem_insert]

theorem represented_registerRelayPath (fits : relay.Represented) (srcId dstId : String) :
    (relay.registerRelayPath srcId dstId).2.Represented where
  symmetric first second path := by
    rw [mem_registerRelayPath_paths] at path ⊢
    rcases path with backward | forward | before
    · exact .inr (.inl (congrArg Prod.swap backward))
    · exact .inl (congrArg Prod.swap forward)
    · exact .inr (.inr (fits.symmetric first second before))
  queued pair path := by
    rw [mem_registerRelayPath_keys, mem_registerRelayPath_keys]
    rw [mem_registerRelayPath_paths] at path
    rcases path with rfl | rfl | before
    · exact ⟨.inr (.inl rfl), .inl rfl⟩
    · exact ⟨.inl rfl, .inr (.inl rfl)⟩
    · obtain ⟨first, second⟩ := fits.queued pair before
      exact ⟨.inr (.inr first), .inr (.inr second)⟩
  authorized otherId queue found item member := by
    rw [mem_registerRelayPath_paths]
    rcases registerRelayPath_found found with before | rfl
    · exact .inr (.inr (fits.authorized otherId queue before item member))
    · cases member
  bounded otherId queue found := by
    rcases registerRelayPath_found found with before | rfl
    · exact fits.bounded otherId queue before
    · exact Nat.zero_le _
  counted pair counter := by
    rw [registerRelayPath_bytesRelayed] at counter
    rw [mem_registerRelayPath_paths]
    exact .inr (.inr (fits.counted pair counter))

/-! ### Queueing and draining frames -/

/-- Replacing the queue of a client that has one keeps the invariant when the new queue fits and
its frames have a path, whatever happens to the counters of existing paths. -/
theorem represented_replaceQueue (fits : relay.Represented) {dstId : String}
    {queue : List (String × Bytes)} {counters : Dict (String × String) Nat}
    (authorized : ∀ item ∈ queue, (item.1, dstId) ∈ relay.paths)
    (bounded : queue.length ≤ maxRelayQueue)
    (counted : ∀ pair ∈ counters.keys, pair ∈ relay.paths) :
    ({ relay with
      queues := relay.queues.insert dstId queue
      bytesRelayed := counters } : RelayForwarder).Represented where
  symmetric := fits.symmetric
  queued pair path := by
    have kept : ∀ clientId ∈ relay.queues.keys,
        clientId ∈ (relay.queues.insert dstId queue).keys := by
      intro clientId present
      rw [Dict.mem_keys_iff] at present ⊢
      obtain ⟨stored, found⟩ := present
      by_cases same : clientId = dstId
      · exact ⟨queue, by rw [same, Dict.get?_insert_self]⟩
      · exact ⟨stored, by rw [Dict.get?_insert_of_ne _ _ same, found]⟩
    obtain ⟨first, second⟩ := fits.queued pair path
    exact ⟨kept _ first, kept _ second⟩
  authorized otherId stored found := by
    by_cases same : otherId = dstId
    · subst same
      obtain rfl := Option.some.inj ((Dict.get?_insert_self _ _ _).symm.trans found)
      exact authorized
    · exact fits.authorized otherId stored ((Dict.get?_insert_of_ne _ _ same).symm.trans found)
  bounded otherId stored found := by
    by_cases same : otherId = dstId
    · subst same
      obtain rfl := Option.some.inj ((Dict.get?_insert_self _ _ _).symm.trans found)
      exact bounded
    · exact fits.bounded otherId stored ((Dict.get?_insert_of_ne _ _ same).symm.trans found)
  counted := counted

theorem represented_relayFrame (fits : relay.Represented) (srcId dstId : String)
    (rawFrame : Bytes) : (relay.relayFrame srcId dstId rawFrame).2.Represented := by
  rcases relayFrame_cases relay srcId dstId rawFrame with ⟨dropped, refused⟩ |
    ⟨queue, found, path, room, accepted⟩
  · rw [refused]
    exact ⟨fits.symmetric, fits.queued, fits.authorized, fits.bounded, fits.counted⟩
  · rw [accepted]
    refine represented_replaceQueue fits ?_ ?_ ?_
    · intro item member
      rcases List.mem_append.mp member with before | last
      · exact fits.authorized dstId queue found item before
      · obtain rfl := List.mem_singleton.mp last
        exact path
    · rw [List.length_append, List.length_singleton]
      exact room
    · intro pair counter
      obtain ⟨count, stored⟩ := Dict.mem_keys_iff.mp counter
      by_cases same : pair = (srcId, dstId)
      · exact same ▸ path
      · rw [Dict.get?_insert_of_ne _ _ same] at stored
        exact fits.counted pair (Dict.mem_keys_iff.mpr ⟨count, stored⟩)

theorem represented_pendingFrames (fits : relay.Represented) (dstId : String) :
    (relay.pendingFrames dstId).2.Represented := by
  unfold pendingFrames
  split
  · exact fits
  · exact represented_replaceQueue fits (fun _ member => absurd member List.not_mem_nil)
      (Nat.zero_le _) fits.counted

/-! ### Dropping a client -/

theorem mem_dropClient_paths (relay : RelayForwarder) (clientId : String)
    (pair : String × String) :
    pair ∈ (relay.dropClient clientId).paths ↔
      pair ∈ relay.paths ∧ pair.1 ≠ clientId ∧ pair.2 ≠ clientId :=
  Finset.mem_filter

/-- The queues after a drop: the others keep the frames of the other clients. -/
theorem dropClient_found {clientId dstId : String} {queue : List (String × Bytes)} :
    (relay.dropClient clientId).queues.get? dstId = some queue ↔
      dstId ≠ clientId ∧ ∃ before, relay.queues.get? dstId = some before ∧
        (before.filter fun item => decide (item.1 ≠ clientId)) = queue := by
  by_cases same : dstId = clientId
  · simp [dropClient, Dict.get?_mapValues, same]
  · simp [dropClient, Dict.get?_mapValues, same, Dict.get?_erase_of_ne]

theorem mem_dropClient_keys {clientId otherId : String} (other : otherId ≠ clientId)
    (present : otherId ∈ relay.queues.keys) :
    otherId ∈ (relay.dropClient clientId).queues.keys := by
  obtain ⟨queue, found⟩ := Dict.mem_keys_iff.mp present
  exact Dict.mem_keys_iff.mpr ⟨_, dropClient_found.mpr ⟨other, queue, found, rfl⟩⟩

theorem represented_dropClient (fits : relay.Represented) (clientId : String) :
    (relay.dropClient clientId).Represented where
  symmetric srcId dstId path := by
    rw [mem_dropClient_paths] at path ⊢
    exact ⟨fits.symmetric srcId dstId path.1, path.2.2, path.2.1⟩
  queued pair path := by
    obtain ⟨before, firstOther, secondOther⟩ := (mem_dropClient_paths _ _ _).mp path
    obtain ⟨first, second⟩ := fits.queued pair before
    exact ⟨mem_dropClient_keys firstOther first, mem_dropClient_keys secondOther second⟩
  authorized dstId queue found item member := by
    obtain ⟨other, before, stored, rfl⟩ := dropClient_found.mp found
    obtain ⟨waited, source⟩ := List.mem_filter.mp member
    exact (mem_dropClient_paths _ _ _).mpr
      ⟨fits.authorized dstId before stored item waited, of_decide_eq_true source, other⟩
  bounded dstId queue found := by
    obtain ⟨-, before, stored, rfl⟩ := dropClient_found.mp found
    exact le_trans (List.length_filter_le _ _) (fits.bounded dstId before stored)
  counted pair counter := by
    obtain ⟨count, stored⟩ := Dict.mem_keys_iff.mp counter
    simp only [dropClient, Dict.get?_filter, Option.filter_eq_some_iff,
      decide_eq_true_eq] at stored
    obtain ⟨before, firstOther, secondOther⟩ := stored
    exact (mem_dropClient_paths _ _ _).mpr
      ⟨fits.counted pair (Dict.mem_keys_iff.mpr ⟨count, before⟩),
        firstOther.symm, secondOther.symm⟩

/-! ### Every reachable state -/

theorem represented_call (fits : relay.Represented) (call : RelayCall) :
    (relay.call call).2.Represented := by
  cases call with
  | registerRelayPath srcId dstId => exact represented_registerRelayPath fits srcId dstId
  | relayFrame srcId dstId rawFrame => exact represented_relayFrame fits srcId dstId rawFrame
  | pendingFrames dstId => exact represented_pendingFrames fits dstId
  | dropClient clientId => exact represented_dropClient fits clientId

theorem represented_calls (calls : List RelayCall) (fits : relay.Represented) :
    (relay.calls calls).2.Represented := by
  induction calls generalizing relay with
  | nil => exact fits
  | cons first rest inductionHypothesis => exact inductionHypothesis (represented_call fits first)

theorem queueFor_droppedFrames (relay : RelayForwarder) (clientId : String) :
    (relay.queueFor clientId).droppedFrames = relay.droppedFrames := by
  unfold queueFor
  split <;> rfl

/-- Only a frame that meets a full queue changes the count of dropped frames. -/
theorem droppedFrames_call (relay : RelayForwarder) (call : RelayCall) :
    relay.droppedFrames ≤ (relay.call call).2.droppedFrames := by
  cases call with
  | registerRelayPath srcId dstId =>
    show _ ≤ ((relay.queueFor dstId).queueFor srcId).droppedFrames
    rw [queueFor_droppedFrames, queueFor_droppedFrames]
  | relayFrame srcId dstId rawFrame =>
    show _ ≤ (relay.relayFrame srcId dstId rawFrame).2.droppedFrames
    unfold relayFrame
    split
    · exact le_rfl
    · split
      · exact le_rfl
      · split
        · exact Nat.le_succ _
        · exact le_rfl
  | pendingFrames dstId =>
    show _ ≤ (relay.pendingFrames dstId).2.droppedFrames
    unfold pendingFrames
    split <;> exact le_rfl
  | dropClient clientId => exact le_rfl

theorem droppedFrames_calls (relay : RelayForwarder) (calls : List RelayCall) :
    relay.droppedFrames ≤ (relay.calls calls).2.droppedFrames := by
  induction calls generalizing relay with
  | nil => exact le_rfl
  | cons first rest inductionHypothesis =>
    exact le_trans (droppedFrames_call relay first) (inductionHypothesis _)

/-- The relay fits together after every list of calls, and further calls never lower its count of
dropped frames. -/
theorem relay_represented (calls : List RelayCall) :
    (init.calls calls).2.Represented ∧ ∀ more,
      (init.calls calls).2.droppedFrames ≤ (init.calls (calls ++ more)).2.droppedFrames := by
  refine ⟨represented_calls calls represented_init, fun more => ?_⟩
  rw [calls_append]
  exact droppedFrames_calls _ more

end RelayForwarder

/-! ### The relay of a running server -/

/-- A command leaves the relay as it was or registers one path. -/
theorem represented_handleCommand {packages : Packages} {server : Server} {clientId : String}
    {message : Message} {choice : Choice} {handled : Handled} (fits : server.relay.Represented)
    (ran : server.handleCommand packages clientId message choice = some handled) :
    handled.relay.Represented := by
  cases Server.command_cases ran with
  | granted peerId => exact RelayForwarder.represented_registerRelayPath fits clientId peerId
  | _ => exact fits

theorem represented_serverStep {packages : Packages} {server next : Server} {event : ServerEvent}
    (fits : server.relay.Represented) (stepped : server.step packages event = some next) :
    next.relay.Represented := by
  cases step_cases stepped with
  | register id message choice connection clientId publicKey accepts =>
    show (server.register id connection.peer clientId publicKey choice).2.relay.Represented
    unfold Server.register
    simp only
    split
    · exact fits
    · split <;> exact fits
  | dispatch id message choice connection clientId handled found waiting registered authenticated
      ran => exact represented_handleCommand fits ran
  | disconnect event id connection clientId | pruneDisconnect choice clientId =>
    exact RelayForwarder.represented_dropClient fits clientId
  | deliver id choice connection clientId =>
    exact RelayForwarder.represented_pendingFrames fits clientId
  | _ => exact fits

/-- In every state of a server the structures of its relay fit together. -/
theorem represented_run {packages : Packages} {maxClients : Nat} {heartbeatTimeout ttl : Time}
    {maxAttempts : Int} {bannedNetworks : Finset String} {events : List ServerEvent}
    {server : Server}
    (ran : runFrom (Server.step packages)
      (Server.init maxClients heartbeatTimeout ttl maxAttempts bannedNetworks) events =
        some server) : server.relay.Represented :=
  run_invariant (fun _ _ _ _ fits stepped => represented_serverStep fits stepped)
    RelayForwarder.represented_init (holdsAlong_true events _) ran

end LocalNetwork
