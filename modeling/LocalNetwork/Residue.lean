/-
This file proves when nothing is left in the response queue of the control channel over a
reconnect. The background reader and the loss handler put items there, and only a request
that waits for a response takes them out; nothing ever empties the queue. What is put while
nobody waits, or is left behind by a request that gives up, stays for the next request,
over any number of connections.

If every item is put for a request that waits at an empty queue, and no request gives up
before it has taken its item, the queue is empty whenever no request waits for a response,
and in particular when an authentication completes.
-/

import LocalNetwork.ReconnectLoop

namespace LocalNetwork

/-- The request that takes this item raises. -/
def ResponseItem.fails : ResponseItem → Bool
  | .reply delivery => decide (delivery.message.type = "ERROR")
  | .lost _ => true

namespace ControlChannel

/-! ### What is put, and what is taken -/

/-- The message that the background reader puts into the response queue when it reads next. -/
def putsReply (channel : ControlChannel) : Option Delivery :=
  match channel.eventTask, channel.expectedType with
  | some (.reading connection), some expected =>
    ((channel.receive connection).map Prod.fst).filter fun delivery =>
      decide (delivery.message.type = expected ∨ delivery.message.type = "ERROR")
  | _, _ => none

/-- A loss that is reported now is acted upon. -/
def losesConnection (channel : ControlChannel) : Bool := channel.connected && !channel.stopped

/-- A request waits for a response at an empty queue. -/
def awaitsItem (channel : ControlChannel) : Bool :=
  channel.responses.isEmpty && channel.holder.any fun holder => holder.waiting = .response

/-- The request that takes an item from the response queue in a step, and the item. -/
def takesItem (channel : ControlChannel) : ChannelEvent → Option (Holder × ResponseItem)
  | .takeResponse =>
    match channel.holder, channel.responses with
    | some holder, item :: _ => if holder.waiting = .response then some (holder, item) else none
    | _, _ => none
  | _ => none

/-- The heartbeat's request raises in a step, and the loop reports a loss. -/
def heartbeatFails (channel : ControlChannel) : ChannelEvent → Bool
  | .acquire raises => raises && channel.waiting.head?.any fun job => job.caller = .heartbeat
  | .takeResponse => (channel.takesItem .takeResponse).any fun (holder, item) =>
      holder.job.caller = .heartbeat && item.fails
  | .readStream => (channel.raisesError .readStream).any fun (holder, _) =>
      holder.job.caller = .heartbeat
  | .readFails | .timeout => channel.holder.any fun holder => holder.job.caller = .heartbeat
  | _ => false

/-- The request that has the lock gives up in a step, not for an item it takes. -/
def givesUp (channel : ControlChannel) : ChannelEvent → Bool
  | .timeout | .cancel => true
  | .close => channel.holder.any fun holder => holder.job.caller.background
  | _ => false

/-- What the background reader puts into the response queue in a step is awaited, a message by a
request that was sent on its connection or before. -/
def putsAwaited (channel : ControlChannel) : ChannelEvent → Bool
  | .eventRead => channel.putsReply.all fun delivery => channel.awaitsItem &&
      channel.holder.all fun holder => holder.connection ≤ delivery.connection
  | .eventFails => !channel.losesConnection || channel.awaitsItem
  | _ => true

/-- A step leaves nothing behind in the response queue. -/
structure LeavesNothing (channel : ControlChannel) (event : ChannelEvent) : Prop where
  awaited : channel.putsAwaited event = true
  /-- The request that fails is not there any more to take the `None`. -/
  heartbeat : channel.heartbeatFails event = true → channel.losesConnection = false
  taken : channel.givesUp event = true → channel.responses = []

instance (channel : ControlChannel) (event : ChannelEvent) :
    Decidable (channel.LeavesNothing event) :=
  decidable_of_iff (channel.putsAwaited event = true ∧
      (channel.heartbeatFails event = true → channel.losesConnection = false) ∧
      (channel.givesUp event = true → channel.responses.isEmpty = true))
    ⟨fun ⟨awaited, heartbeat, taken⟩ =>
        ⟨awaited, heartbeat, fun ends => List.isEmpty_iff.mp (taken ends)⟩,
      fun ⟨awaited, heartbeat, taken⟩ =>
        ⟨awaited, heartbeat, fun ends => List.isEmpty_iff.mpr (taken ends)⟩⟩

/-! ### The invariant -/

/-- The queue is empty, or holds one item for the request that waits for it; the item belongs to the
connection the request was sent on or a later one. Connections are numbered in order, and the
stream is the last. -/
structure Swept (channel : ControlChannel) : Prop where
  stream : channel.connected = true → channel.stream.isSome
  latest : ∀ connection ∈ channel.stream, connection + 1 = channel.wires.length
  sent : ∀ holder ∈ channel.holder, holder.connection < channel.wires.length
  queue : ∀ item rest, channel.responses = item :: rest → rest = [] ∧
    ∃ holder connection, channel.holder = some holder ∧ holder.waiting = .response ∧
      item.connection = some connection ∧ holder.connection ≤ connection

variable {channel next : ControlChannel}

theorem swept_init (clientId : String) (base maximum : Time) :
    (init clientId base maximum).Swept :=
  ⟨fun connected => (nomatch connected), fun _ stream => (nomatch stream),
    fun _ held => (nomatch held), fun _ _ queued => (nomatch queued)⟩

/-- A step that keeps what the invariant looks at. -/
theorem Swept.of_eq (swept : channel.Swept) (connected : next.connected = channel.connected)
    (stream : next.stream = channel.stream) (wires : next.wires.length = channel.wires.length)
    (holder : next.holder = channel.holder) (responses : next.responses = channel.responses) :
    next.Swept := by
  refine ⟨?_, ?_, ?_, ?_⟩
  · rw [connected, stream]
    exact swept.stream
  · rw [stream, wires]
    exact swept.latest
  · rw [holder, wires]
    exact swept.sent
  · rw [holder, responses]
    exact swept.queue

/-- Without a request that waits for a response the queue is empty. -/
theorem Swept.empty (swept : channel.Swept)
    (nobody : ∀ holder ∈ channel.holder, holder.waiting ≠ .response) : channel.responses = [] := by
  cases queued : channel.responses with
  | nil => rfl
  | cons item rest =>
    obtain ⟨-, holder, -, held, waits, -⟩ := swept.queue item rest queued
    exact absurd waits (nobody holder held)

/-- An invariant channel with an empty queue stays so whatever the request does. -/
theorem Swept.withHolder (swept : channel.Swept) (empty : channel.responses = [])
    {holder : Option Holder} (sent : ∀ held ∈ holder, held.connection < channel.wires.length)
    (connected : next.connected = channel.connected) (stream : next.stream = channel.stream)
    (wires : next.wires.length = channel.wires.length) (held : next.holder = holder)
    (responses : next.responses = channel.responses) : next.Swept := by
  refine ⟨?_, ?_, ?_, ?_⟩
  · rw [connected, stream]
    exact swept.stream
  · rw [stream, wires]
    exact swept.latest
  · rw [held, wires]
    exact sent
  · rw [responses, empty]
    intro item rest queued
    cases queued

theorem Swept.release (swept : channel.Swept) (empty : channel.responses = []) :
    channel.release.Swept := by
  refine swept.withHolder empty (fun holder held => ?_) rfl rfl rfl rfl rfl
  cases held

/-- A loss that is acted upon puts an item for the request that waits. -/
theorem Swept.onConnectionLost (swept : channel.Swept)
    (awaited : channel.losesConnection = true → channel.awaitsItem = true) :
    channel.onConnectionLost.Swept := by
  unfold ControlChannel.onConnectionLost
  split
  · exact swept
  · rename_i acts
    have loses : channel.losesConnection = true := by
      simp only [Bool.or_eq_true, Bool.not_eq_true', not_or, Bool.not_eq_false] at acts
      rw [losesConnection, acts.2, Bool.eq_false_of_not_eq_true acts.1]
      rfl
    obtain ⟨empty, waits⟩ := Bool.and_eq_true_iff.mp (awaited loses)
    obtain ⟨holder, held, response⟩ := (Option.any_eq_true _ _).mp waits
    obtain ⟨connection, current⟩ :=
      Option.isSome_iff_exists.mp (swept.stream (Bool.and_eq_true_iff.mp loses).1)
    refine ⟨fun connected => (nomatch connected), fun _ stream => (nomatch stream), swept.sent, ?_⟩
    intro item rest queued
    change channel.responses ++ [.lost channel.stream] = item :: rest at queued
    rw [List.isEmpty_iff.mp empty, List.nil_append] at queued
    obtain ⟨rfl, rfl⟩ := List.cons.inj queued
    have bound := swept.sent holder held
    rw [← swept.latest connection current] at bound
    exact ⟨rfl, holder, connection, held, of_decide_eq_true response, current,
      Nat.le_of_lt_succ bound⟩

/-- A loss that is not acted upon. -/
theorem onConnectionLost_of_not (quiet : channel.losesConnection = false) :
    channel.onConnectionLost = channel := by
  unfold ControlChannel.onConnectionLost
  rw [if_pos]
  revert quiet
  unfold losesConnection
  cases channel.stopped <;> cases channel.connected <;> decide

/-- Without a stream a loss is not acted upon. -/
theorem Swept.quiet (swept : channel.Swept) (none : channel.stream = none) :
    channel.losesConnection = false := by
  cases connected : channel.connected with
  | false => rw [losesConnection, connected, Bool.false_and]
  | true =>
    have current := swept.stream connected
    rw [none] at current
    cases current

/-- A request that raises; the heartbeat's only when its loss is not acted upon. -/
theorem Swept.fail (swept : channel.Swept) {caller : Caller}
    (quiet : caller = .heartbeat → channel.losesConnection = false) :
    (channel.fail caller).Swept := by
  cases caller with
  | user => exact swept
  | heartbeat =>
    unfold ControlChannel.fail
    simp only
    rw [onConnectionLost_of_not (quiet rfl)]
    exact swept.of_eq rfl rfl rfl rfl rfl
  | register owner | respond owner =>
    cases owner with
    | user => exact swept
    | reconnect => exact swept.of_eq rfl rfl rfl rfl rfl
  | reregister => exact swept.of_eq rfl rfl rfl rfl rfl

theorem Swept.authFailed (swept : channel.Swept) (owner : AuthOwner) :
    (channel.authFailed owner).Swept := by
  cases owner with
  | user => exact swept
  | reconnect => exact swept.of_eq rfl rfl rfl rfl rfl

theorem Swept.respond (swept : channel.Swept) (sign : String → Option String) (owner : AuthOwner)
    (reply : Message) : (channel.respond sign owner reply).Swept := by
  unfold ControlChannel.respond
  split
  · exact swept.authFailed owner
  · split
    · exact swept.authFailed owner
    · exact swept.of_eq rfl rfl rfl rfl rfl

theorem Swept.succeed (swept : channel.Swept) (sign : String → Option String) (reply : Message)
    (caller : Caller) : (channel.succeed sign reply caller).Swept := by
  cases caller with
  | user => exact swept
  | heartbeat => exact swept.of_eq rfl rfl rfl rfl rfl
  | register owner => exact swept.respond sign owner reply
  | respond owner =>
    cases owner with
    | user => exact swept.of_eq rfl rfl rfl rfl rfl
    | reconnect => exact swept.of_eq rfl rfl rfl rfl rfl
  | reregister => exact swept.of_eq rfl rfl rfl rfl rfl

/-- The request waits again at an empty queue; without a stream it raises, but the channel is not
connected then. -/
theorem Swept.proceed (swept : channel.Swept) (empty : channel.responses = []) {connection : Nat}
    (sent : connection < channel.wires.length) (job : Job) (id : Nat) :
    (channel.proceed job id connection).Swept := by
  have held : ∀ waiting, ∀ holder ∈ some (Holder.mk job id connection waiting),
      holder.connection < channel.wires.length := by
    intro waiting holder same
    obtain rfl := Option.some.inj same
    exact sent
  unfold ControlChannel.proceed
  split
  · exact swept.withHolder empty (held _) rfl rfl rfl rfl rfl
  · split
    · rename_i none
      exact (swept.release empty).fail fun _ => swept.quiet none
    · exact swept.withHolder empty (held _) rfl rfl rfl rfl rfl

theorem Swept.handle (swept : channel.Swept) (empty : channel.responses = []) {holder : Holder}
    {delivery : Delivery} (sent : holder.connection < channel.wires.length)
    (quiet : delivery.message.type = "ERROR" → holder.job.caller = .heartbeat →
      channel.losesConnection = false) (sign : String → Option String) :
    (channel.handle sign holder delivery).Swept := by
  unfold ControlChannel.handle
  split
  · rename_i error
    exact (swept.release empty).fail (quiet error)
  · split
    · exact (swept.release empty).succeed sign _ _
    · exact swept.proceed empty sent _ _

/-! ### One step -/

/-- The request that gets the lock finds the queue empty. -/
theorem Swept.free (swept : channel.Swept) (free : channel.holder = none) :
    channel.responses = [] :=
  swept.empty fun holder held => by
    rw [free] at held
    cases held

/-- A request that reads the stream finds the queue empty. -/
theorem Swept.reads (swept : channel.Swept) {holder : Holder} {connection : Nat}
    (held : channel.holder = some holder) (waits : holder.waiting = .stream connection) :
    channel.responses = [] :=
  swept.empty fun other same => by
    obtain rfl := Option.some.inj (held.symm.trans same)
    rw [waits]
    exact Waiting.noConfusion

theorem Swept.acquired (swept : channel.Swept) {job : Job} {rest : List Job} {connection : Nat}
    (free : channel.holder = none) (current : channel.stream = some connection) :
    (((channel.entered job rest).transmit connection job.message).proceed job channel.nextId
      connection).Swept := by
  have transmitted : Swept ((channel.entered job rest).transmit connection job.message) :=
    swept.of_eq rfl rfl (List.length_modify ..) rfl rfl
  have sent : connection < channel.wires.length :=
    Nat.lt_of_succ_le (Nat.le_of_eq (swept.latest connection current))
  refine transmitted.proceed (swept.free free) ?_ job _
  exact sent.trans_eq (List.length_modify ..).symm

/-- The item taken was the only one. -/
theorem Swept.taken (swept : channel.Swept) {item : ResponseItem} {rest : List ResponseItem}
    (queued : channel.responses = item :: rest) :
    rest = [] ∧ Swept { channel with responses := rest } := by
  obtain ⟨last, -⟩ := swept.queue item rest queued
  refine ⟨last, swept.stream, swept.latest, swept.sent, fun first others more => ?_⟩
  cases last.symm.trans more

/-- An item that makes the heartbeat's request raise is taken when no loss is acted upon. -/
theorem LeavesNothing.item {holder : Holder} {item : ResponseItem} {rest : List ResponseItem}
    (leaves : channel.LeavesNothing .takeResponse) (held : channel.holder = some holder)
    (waits : holder.waiting = .response) (queued : channel.responses = item :: rest)
    (fails : item.fails = true) (heartbeat : holder.job.caller = .heartbeat) :
    channel.losesConnection = false := by
  refine leaves.heartbeat ?_
  simp only [heartbeatFails, takesItem, held, queued, if_pos waits, Option.any_some, heartbeat,
    fails]
  rfl

/-- A message less on a connection. -/
theorem Swept.receive (swept : channel.Swept) {connection : Nat} {delivery : Delivery}
    (received : channel.receive connection = some (delivery, next)) : next.Swept := by
  obtain ⟨outbound, rest, found, rfl⟩ := receive_some received
  exact swept.of_eq rfl rfl (List.length_set ..) rfl rfl

theorem Swept.replyRead (swept : channel.Swept) (leaves : channel.LeavesNothing .readStream)
    {holder : Holder} {connection : Nat} {delivery : Delivery} {read : ControlChannel}
    (held : channel.holder = some holder) (waits : holder.waiting = .stream connection)
    (received : channel.receive connection = some (delivery, read))
    (looks : channel.looksAt .readStream = some (holder, delivery))
    (sign : String → Option String) : (read.handle sign holder delivery).Swept := by
  have empty := swept.reads held waits
  have quiet : delivery.message.type = "ERROR" → holder.job.caller = .heartbeat →
      channel.losesConnection = false := by
    intro error heartbeat
    refine leaves.heartbeat ?_
    simp [heartbeatFails, raisesError, looks, error, heartbeat]
  have read := swept.receive received
  obtain ⟨outbound, rest, found, rfl⟩ := receive_some received
  refine read.handle empty ?_ quiet sign
  exact (swept.sent holder held).trans_eq (List.length_set ..).symm

/-- The head of the reader's loop reports no loss of its own: a connected channel has a stream. -/
theorem Swept.eventLoop (swept : channel.Swept) : channel.eventLoop.Swept := by
  unfold ControlChannel.eventLoop
  split
  · split
    · rename_i none
      rw [onConnectionLost_of_not (swept.quiet none)]
      exact swept.of_eq rfl rfl rfl rfl rfl
    · exact swept.of_eq rfl rfl rfl rfl rfl
  · exact swept.of_eq rfl rfl rfl rfl rfl

/-- What the reader puts into the response queue is awaited. -/
theorem Swept.classify (swept : channel.Swept) {delivery : Delivery}
    (awaited : ∀ expected, channel.expectedType = some expected →
      (delivery.message.type = expected ∨ delivery.message.type = "ERROR") →
        channel.awaitsItem = true ∧ ∀ holder ∈ channel.holder,
          holder.connection ≤ delivery.connection) :
    (channel.classify delivery).Swept := by
  unfold ControlChannel.classify
  split
  · rename_i expected pending
    split
    · rename_i routed
      obtain ⟨awaits, earlier⟩ := awaited expected pending routed
      obtain ⟨empty, waits⟩ := Bool.and_eq_true_iff.mp awaits
      obtain ⟨holder, held, response⟩ := (Option.any_eq_true _ _).mp waits
      refine ⟨swept.stream, swept.latest, swept.sent, fun item rest queued => ?_⟩
      change channel.responses ++ [.reply delivery] = item :: rest at queued
      rw [List.isEmpty_iff.mp empty, List.nil_append] at queued
      obtain ⟨rfl, rfl⟩ := List.cons.inj queued
      exact ⟨rfl, holder, delivery.connection, held, of_decide_eq_true response, rfl,
        earlier holder held⟩
    · exact swept.of_eq rfl rfl rfl rfl rfl
  · exact swept.of_eq rfl rfl rfl rfl rfl

theorem Swept.readerRead (swept : channel.Swept) (leaves : channel.LeavesNothing .eventRead)
    {connection : Nat} {delivery : Delivery} {read : ControlChannel}
    (reading : channel.eventTask = some (.reading connection))
    (received : channel.receive connection = some (delivery, read)) :
    (read.classify delivery).eventLoop.Swept := by
  have awaited : ∀ expected, channel.expectedType = some expected →
      (delivery.message.type = expected ∨ delivery.message.type = "ERROR") →
        channel.awaitsItem = true ∧ ∀ holder ∈ channel.holder,
          holder.connection ≤ delivery.connection := by
    intro expected pending routed
    have puts : channel.putsReply = some delivery := by
      simp only [putsReply, reading, pending, received, Option.map_some, Option.filter_some]
      rw [if_pos (decide_eq_true routed)]
    have holds : channel.putsAwaited .eventRead = true := leaves.awaited
    simp only [putsAwaited, puts, Option.all_some] at holds
    obtain ⟨awaits, earlier⟩ := Bool.and_eq_true_iff.mp holds
    refine ⟨awaits, fun holder held => ?_⟩
    rw [held, Option.all_some] at earlier
    exact of_decide_eq_true earlier
  have read := swept.receive received
  obtain ⟨outbound, rest, found, rfl⟩ := receive_some received
  exact (read.classify awaited).eventLoop

theorem Swept.connect (swept : channel.Swept) : channel.connect.Swept := by
  have longer : channel.connect.wires.length = channel.wires.length + 1 := by
    simp [ControlChannel.connect]
  refine ⟨fun _ => rfl, fun connection current => ?_, fun holder held => ?_, swept.queue⟩
  · obtain rfl := Option.some.inj current
    exact longer.symm
  · rw [longer]
    exact Nat.lt_succ_of_lt (swept.sent holder held)

theorem Swept.reconnected (swept : channel.Swept) : channel.reconnected.Swept := by
  unfold ControlChannel.reconnected
  simp only
  split
  · split
    · exact swept.connect.of_eq rfl rfl rfl rfl rfl
    · exact swept.connect.of_eq rfl rfl rfl rfl rfl
  · exact swept.connect.of_eq rfl rfl rfl rfl rfl

/-- Closing the channel cancels the request of a background task, which leaves nothing. -/
theorem Swept.close (swept : channel.Swept) (leaves : channel.LeavesNothing .close) :
    channel.close.Swept := by
  refine ⟨swept.stream, swept.latest, fun holder held => ?_, fun item rest queued => ?_⟩
  · exact swept.sent holder (Option.filter_eq_some_iff.mp held).1
  · obtain ⟨last, holder, connection, held, waits, belongs, earlier⟩ := swept.queue item rest queued
    refine ⟨last, holder, connection, Option.filter_eq_some_iff.mpr ⟨held, ?_⟩, waits, belongs,
      earlier⟩
    -- Were the request cancelled, the queue would be empty.
    cases background : holder.job.caller.background with
    | false => rfl
    | true =>
      have gone : channel.givesUp .close = true := by
        simp only [givesUp, held, Option.any_some, background]
      cases (leaves.taken gone).symm.trans queued

/-- One step that leaves nothing behind. -/
theorem swept_step (sign : String → Option String) {event : ChannelEvent}
    (leaves : channel.LeavesNothing event) (swept : channel.Swept)
    (stepped : channel.step sign event = some next) : next.Swept := by
  cases channel_cases stepped with
  | connected => exact swept.connect
  | unsent message offline => exact swept
  | sent message connection current =>
    exact swept.of_eq rfl rfl (List.length_modify ..) rfl rfl
  | refused raises job rest free waiting fails =>
    have entered : (channel.entered job rest).Swept := swept.of_eq rfl rfl rfl rfl rfl
    refine (entered.release (swept.free free)).fail fun heartbeat => ?_
    rcases fails with failing | offline
    · refine leaves.heartbeat ?_
      simp [heartbeatFails, failing, waiting, heartbeat]
    · exact swept.quiet offline
  | acquired job rest connection free waiting current => exact swept.acquired free current
  | lossTaken holder connection rest held waits queued =>
    obtain ⟨last, taken⟩ := swept.taken queued
    exact (taken.release last).fail (leaves.item held waits queued rfl)
  | replyTaken holder delivery rest held waits queued looks =>
    obtain ⟨last, taken⟩ := swept.taken queued
    refine taken.handle last (swept.sent holder held) (fun error => ?_) sign
    exact leaves.item held waits queued (decide_eq_true error)
  | replyRead holder connection delivery read held waits received looks =>
    exact swept.replyRead leaves held waits received looks sign
  | readFailed holder connection held waits =>
    refine (swept.release (swept.reads held waits)).fail fun heartbeat => leaves.heartbeat ?_
    simp only [heartbeatFails, held, Option.any_some, heartbeat, decide_true]
  | timedOut holder held waits =>
    refine (swept.release (leaves.taken rfl)).fail fun heartbeat => leaves.heartbeat ?_
    simp only [heartbeatFails, held, Option.any_some, heartbeat, decide_true]
  | cancelled holder held foreground => exact swept.release (leaves.taken rfl)
  | readerStarted starting =>
    refine Swept.eventLoop ?_
    exact swept.of_eq rfl rfl rfl rfl rfl
  | readerRead connection delivery read reading received =>
    exact swept.readerRead leaves reading received
  | readerFailed connection reading =>
    have awaited : channel.losesConnection = true → channel.awaitsItem = true := by
      intro loses
      have holds : channel.putsAwaited .eventFails = true := leaves.awaited
      rwa [putsAwaited, loses, Bool.not_true, Bool.false_or] at holds
    exact (swept.onConnectionLost awaited).of_eq rfl rfl rfl rfl rfl
  | reconnectOpened connecting => exact swept.reconnected
  | reconnectRefused connecting => exact swept.authFailed .reconnect
  | closing => exact swept.close leaves
  | closed stopped =>
    refine ⟨fun connected => ?_, fun _ stream => ?_, swept.sent, swept.queue⟩
    · cases connected
    · cases stream
  | serverAnswered | serverPushed =>
    exact swept.of_eq rfl rfl (List.length_set ..) rfl rfl
  | requested | authenticated | abandoned | heartbeatStarted | heartbeatSent | heartbeatEnded
  | reconnectWoke => exact swept.of_eq rfl rfl rfl rfl rfl

/-! ### Every run -/

/-- A request that completes an authentication leaves the queue as it found it, less what it took. -/
theorem responses_succeed_respond (sign : String → Option String) (reply : Message)
    (owner : AuthOwner) :
    (channel.succeed sign reply (.respond owner)).responses = channel.responses := by
  cases owner with
  | user => rfl
  | reconnect => rfl

/-- A completed authentication, with the request and the reply that completed it. -/
theorem completesAuth_spec {event : ChannelEvent} (completes : channel.completesAuth event = true) :
    ∃ holder delivery owner, channel.looksAt event = some (holder, delivery) ∧
      holder.job.caller = .respond owner ∧ delivery.message.type ≠ "ERROR" ∧
      delivery.message.type = holder.job.expected := by
  obtain ⟨⟨holder, delivery⟩, returns, caller⟩ := (Option.any_eq_true _ _).mp completes
  obtain ⟨looks, ends⟩ := Option.filter_eq_some_iff.mp returns
  obtain ⟨noError, expected⟩ := of_decide_eq_true ends
  simp only at caller
  split at caller
  · rename_i owner responds
    exact ⟨holder, delivery, owner, looks, responds, noError, expected⟩
  · cases caller

theorem handle_respond {holder : Holder} {delivery : Delivery} {owner : AuthOwner}
    (sign : String → Option String) (caller : holder.job.caller = .respond owner)
    (noError : delivery.message.type ≠ "ERROR")
    (expected : delivery.message.type = holder.job.expected) :
    (channel.handle sign holder delivery).responses = channel.responses := by
  unfold handle
  rw [if_neg noError, if_pos expected, caller]
  exact responses_succeed_respond sign delivery.message owner

/-- When an authentication completes, the queue is empty. -/
theorem Swept.completes (swept : channel.Swept) {sign : String → Option String}
    {event : ChannelEvent} (completes : channel.completesAuth event = true)
    (stepped : channel.step sign event = some next) : next.responses = [] := by
  obtain ⟨holder, delivery, owner, looks, caller, noError, expected⟩ := completesAuth_spec completes
  cases channel_cases stepped with
  | lossTaken other connection rest held waits queued =>
    rw [looksAt, held, queued] at looks
    cases looks
  | replyTaken other reply rest held waits queued looksHere =>
    obtain ⟨rfl, rfl⟩ := Prod.mk.inj (Option.some.inj (looksHere.symm.trans looks))
    rw [handle_respond sign caller noError expected]
    exact (swept.taken queued).1
  | replyRead other connection reply read held waits received looksHere =>
    obtain ⟨rfl, rfl⟩ := Prod.mk.inj (Option.some.inj (looksHere.symm.trans looks))
    rw [handle_respond sign caller noError expected]
    obtain ⟨outbound, rest, found, rfl⟩ := receive_some received
    exact swept.reads held waits
  | _ => cases looks

/-- In every run whose steps leave nothing behind, the response queue holds no item of an earlier
connection when an authentication completes; and a request takes no item of a connection earlier
than the one it was sent on. -/
theorem reconnect_leaves_no_residue (sign : String → Option String) (clientId : String)
    (base maximum : Time) (events : List ChannelEvent) (channel : ControlChannel)
    (along : HoldsAlong (step sign) LeavesNothing (init clientId base maximum) events)
    (ran : runFrom (step sign) (init clientId base maximum) events = some channel)
    (event : ChannelEvent) (next : ControlChannel)
    (stepped : channel.step sign event = some next) :
    (channel.completesAuth event = true →
      ∀ item ∈ next.responses, item.connection = next.stream) ∧
    (∀ holder item, channel.takesItem event = some (holder, item) →
      ∃ connection, item.connection = some connection ∧ holder.connection ≤ connection) := by
  have swept : channel.Swept :=
    run_invariant (fun _ _ _ leaves swept stepped => swept_step sign leaves swept stepped)
      (swept_init clientId base maximum) along ran
  refine ⟨fun completes item queued => ?_, fun holder item takes => ?_⟩
  · rw [swept.completes completes stepped] at queued
    cases queued
  · cases event with
    | takeResponse =>
      simp only [takesItem] at takes
      split at takes
      · rename_i pending first rest held queued
        split at takes
        · obtain ⟨rfl, rfl⟩ := Prod.mk.inj (Option.some.inj takes)
          obtain ⟨-, other, connection, same, -, belongs, earlier⟩ := swept.queue _ _ queued
          obtain rfl := Option.some.inj (held.symm.trans same)
          exact ⟨connection, belongs, earlier⟩
        · cases takes
      · cases takes
    | _ => cases takes

/-- A request waits when the connection is lost: it takes the `None`, and the loop connects and
authenticates again, up to the last read. -/
def lostWhileWaiting : List ChannelEvent :=
  signedOn ++ [.request (.made "LIST_NETWORKS" []) "NETWORK_LIST" false, .acquire false,
    .eventFails, .takeResponse, .reconnectWakes, .reconnectConnects true] ++ answeredAuth 1

theorem reconnect_leaves_no_residue_waiting :
    ∃ channel next, runFrom (step signAll) exampleChannel lostWhileWaiting = some channel ∧
      channel.step signAll .readStream = some next ∧ channel.completesAuth .readStream = true ∧
      ∀ item ∈ next.responses, item.connection = next.stream := by
  have along : HoldsAlong (step signAll) LeavesNothing exampleChannel lostWhileWaiting := by
    decide +kernel
  refine ⟨_, _, rfl, rfl, rfl, ?_⟩
  exact (reconnect_leaves_no_residue signAll "client-0001" 1 60 lostWhileWaiting _ along rfl
    .readStream _ rfl).1 rfl

/-- No request waits when the connection is lost: the `None` is still there when the new connection
is authenticated, and the first request on it raises. -/
theorem reconnect_leaves_residue :
    ∃ channel next later holder, runFrom (step signAll) exampleChannel lostAndBack = some channel ∧
      channel.step signAll .readStream = some next ∧ channel.completesAuth .readStream = true ∧
      next.stream = some 1 ∧ next.responses = [.lost (some 0)] ∧
      runFrom (step signAll) next
        [.eventStart, .request (.made "LIST_NETWORKS" []) "NETWORK_LIST" false,
          .acquire false] = some later ∧
      later.takesItem .takeResponse = some (holder, .lost (some 0)) ∧ holder.connection = 1 :=
  ⟨_, _, _, _, rfl, rfl, rfl, rfl, rfl, rfl, rfl, rfl⟩

end ControlChannel

end LocalNetwork
