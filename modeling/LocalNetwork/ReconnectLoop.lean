/-
This file proves when the reconnect loop leaves a healthy channel alone. A lost connection
starts the loop, which sleeps, connects and authenticates. It has no exit but the end of the
channel: after a success it sleeps again and then opens one more connection, over the one
that works.

The loop disturbs nothing as long as no authentication succeeds while it runs. Until then a
running loop means that the channel is not authenticated, which is the invariant here.
-/

import LocalNetwork.ChannelSteps

namespace LocalNetwork

/-- The requests that the reconnect loop makes. -/
def Caller.reconnects : Caller → Bool
  | .register .reconnect | .respond .reconnect | .reregister => true
  | .user | .heartbeat | .register .user | .respond .user => false

namespace ControlChannel

/-- An authentication completes in a step. -/
def completesAuth (channel : ControlChannel) (event : ChannelEvent) : Bool :=
  (channel.returnsReply event).any fun (holder, _) =>
    match holder.job.caller with
    | .respond _ => true
    | _ => false

/-- The reconnect loop opens a connection in a step: it calls `connect`, or that call returns. -/
def opensConnection (channel : ControlChannel) : ChannelEvent → Bool
  | .reconnectWakes => channel.reconnectTask = some .sleeping
  | .reconnectConnects opened => opened && channel.reconnectTask = some .connecting
  | _ => false

/-! ### The invariant -/

/-- A running loop means that the channel is not authenticated, and only a running loop has requests
of its own; a stopped channel has no loop. -/
structure Retrying (channel : ControlChannel) : Prop where
  stopped : channel.stopped = true → channel.reconnectTask = none
  unauthenticated : channel.reconnectTask.isSome → channel.authenticated = false
  waiting : ∀ job ∈ channel.waiting, job.caller.reconnects = true → channel.reconnectTask.isSome
  holder : ∀ holder ∈ channel.holder, holder.job.caller.reconnects = true →
    channel.reconnectTask.isSome

variable {channel next : ControlChannel}

theorem retrying_init (clientId : String) (base maximum : Time) :
    (init clientId base maximum).Retrying :=
  ⟨fun _ => rfl, fun alive => (nomatch alive), fun _ member => (nomatch member),
    fun _ held => (nomatch held)⟩

/-- A step that keeps what the invariant looks at. -/
theorem Retrying.of_eq (retrying : channel.Retrying) (stopped : next.stopped = channel.stopped)
    (task : next.reconnectTask = channel.reconnectTask)
    (authenticated : next.authenticated = channel.authenticated)
    (waiting : next.waiting = channel.waiting) (holder : next.holder = channel.holder) :
    next.Retrying := by
  refine ⟨?_, ?_, ?_, ?_⟩
  · rw [stopped, task]
    exact retrying.stopped
  · rw [task, authenticated]
    exact retrying.unauthenticated
  · rw [waiting, task]
    exact retrying.waiting
  · rw [holder, task]
    exact retrying.holder

/-- A request more is waiting. -/
theorem Retrying.enqueue (retrying : channel.Retrying) {job : Job}
    (owned : job.caller.reconnects = true → channel.reconnectTask.isSome)
    (stopped : next.stopped = channel.stopped)
    (task : next.reconnectTask = channel.reconnectTask)
    (authenticated : next.authenticated = channel.authenticated)
    (waiting : next.waiting = channel.waiting ++ [job]) (holder : next.holder = channel.holder) :
    next.Retrying := by
  refine ⟨?_, ?_, ?_, ?_⟩
  · rw [stopped, task]
    exact retrying.stopped
  · rw [task, authenticated]
    exact retrying.unauthenticated
  · rw [waiting, task]
    intro other member
    rcases List.mem_append.mp member with old | new
    · exact retrying.waiting other old
    · rw [List.mem_singleton.mp new]
      exact owned
  · rw [holder, task]
    exact retrying.holder

theorem Retrying.release (retrying : channel.Retrying) : channel.release.Retrying :=
  ⟨retrying.stopped, retrying.unauthenticated, retrying.waiting, fun _ held => (nomatch held)⟩

/-- A reported loss starts the loop, and the channel is not authenticated any more. -/
theorem Retrying.onConnectionLost (retrying : channel.Retrying) :
    channel.onConnectionLost.Retrying := by
  unfold ControlChannel.onConnectionLost
  split
  · exact retrying
  · rename_i running
    refine ⟨fun stopped => ?_, fun _ => rfl, fun _ _ _ => rfl, fun _ _ _ => rfl⟩
    have still : channel.stopped = true := stopped
    rw [still, Bool.true_or] at running
    exact absurd rfl running

/-- The next turn of a loop that is running. -/
theorem Retrying.reconnectLoop (retrying : channel.Retrying) (alive : channel.reconnectTask.isSome)
    (backoff : Time) : (channel.reconnectLoop backoff).Retrying := by
  have running : channel.stopped = false := by
    cases stopped : channel.stopped with
    | false => rfl
    | true =>
      rw [retrying.stopped stopped] at alive
      cases alive
  have again : (channel.reconnectLoop backoff).reconnectTask = some .sleeping := by
    simp [ControlChannel.reconnectLoop, running]
  refine ⟨fun stopped => ?_, fun _ => retrying.unauthenticated alive, fun _ _ _ => ?_,
    fun _ _ _ => ?_⟩
  · cases running.symm.trans stopped
  · rw [again]
    rfl
  · rw [again]
    rfl

theorem Retrying.authFailed (retrying : channel.Retrying) (owner : AuthOwner)
    (owned : owner = .reconnect → channel.reconnectTask.isSome) :
    (channel.authFailed owner).Retrying := by
  cases owner with
  | user => exact retrying
  | reconnect => exact retrying.reconnectLoop (owned rfl) _

theorem Retrying.authDone (retrying : channel.Retrying) (owner : AuthOwner)
    (owned : owner = .reconnect → channel.reconnectTask.isSome) :
    (channel.authDone owner).Retrying := by
  cases owner with
  | user => exact retrying
  | reconnect => exact retrying.reconnectLoop (owned rfl) _

theorem Retrying.fail (retrying : channel.Retrying) {caller : Caller}
    (owned : caller.reconnects = true → channel.reconnectTask.isSome) :
    (channel.fail caller).Retrying := by
  cases caller with
  | user => exact retrying
  | heartbeat => exact retrying.onConnectionLost.of_eq rfl rfl rfl rfl rfl
  | register owner => exact retrying.authFailed owner fun same => owned (same ▸ rfl)
  | respond owner => exact retrying.authFailed owner fun same => owned (same ▸ rfl)
  | reregister => exact retrying.authFailed .reconnect fun _ => owned rfl

theorem Retrying.respond (retrying : channel.Retrying) (sign : String → Option String)
    (owner : AuthOwner) (owned : owner = .reconnect → channel.reconnectTask.isSome)
    (reply : Message) : (channel.respond sign owner reply).Retrying := by
  unfold ControlChannel.respond
  split
  · exact retrying.authFailed owner owned
  · split
    · exact retrying.authFailed owner owned
    · refine retrying.enqueue (fun reconnects => owned ?_) rfl rfl rfl rfl rfl
      cases owner with
      | user => cases reconnects
      | reconnect => rfl

/-- A request returns; if it completes an authentication, no loop is running. -/
theorem Retrying.succeed (retrying : channel.Retrying) (sign : String → Option String)
    {caller : Caller} (owned : caller.reconnects = true → channel.reconnectTask.isSome)
    (calm : ∀ owner, caller = .respond owner → channel.reconnectTask = none) (reply : Message) :
    (channel.succeed sign reply caller).Retrying := by
  cases caller with
  | user => exact retrying
  | heartbeat => exact retrying.of_eq rfl rfl rfl rfl rfl
  | register owner => exact retrying.respond sign owner (fun same => owned (same ▸ rfl)) reply
  | respond owner =>
    have idle := calm owner rfl
    cases owner with
    | user =>
      refine ⟨retrying.stopped, fun alive => ?_, retrying.waiting, retrying.holder⟩
      change channel.reconnectTask.isSome = true at alive
      rw [idle] at alive
      cases alive
    | reconnect =>
      have alive := owned rfl
      rw [idle] at alive
      cases alive
  | reregister => exact retrying.authDone .reconnect fun _ => owned rfl

/-- The request that has the lock waits again, or fails. -/
theorem Retrying.proceed (retrying : channel.Retrying) {job : Job}
    (owned : job.caller.reconnects = true → channel.reconnectTask.isSome) (id connection : Nat) :
    (channel.proceed job id connection).Retrying := by
  have held : ∀ waiting, ∀ holder ∈ some (Holder.mk job id connection waiting),
      holder.job.caller.reconnects = true → channel.reconnectTask.isSome := by
    intro waiting holder same
    obtain rfl := Option.some.inj same
    exact owned
  unfold ControlChannel.proceed
  split
  · exact ⟨retrying.stopped, retrying.unauthenticated, retrying.waiting, held _⟩
  · split
    · exact retrying.release.fail owned
    · exact ⟨retrying.stopped, retrying.unauthenticated, retrying.waiting, held _⟩

theorem Retrying.handle (retrying : channel.Retrying) (sign : String → Option String)
    {holder : Holder} {delivery : Delivery}
    (owned : holder.job.caller.reconnects = true → channel.reconnectTask.isSome)
    (calm : delivery.message.type ≠ "ERROR" → delivery.message.type = holder.job.expected →
      ∀ owner, holder.job.caller = .respond owner → channel.reconnectTask = none) :
    (channel.handle sign holder delivery).Retrying := by
  unfold ControlChannel.handle
  split
  · exact retrying.release.fail owned
  · rename_i noError
    split
    · rename_i expected
      exact retrying.release.succeed sign owned (calm noError expected) _
    · exact retrying.proceed owned _ _

/-! ### One step -/

/-- No authentication completes while the reconnect loop runs. -/
def NoRevival (channel : ControlChannel) (event : ChannelEvent) : Prop :=
  channel.completesAuth event = true → channel.reconnectTask = none

instance (channel : ControlChannel) (event : ChannelEvent) : Decidable (channel.NoRevival event) :=
  inferInstanceAs (Decidable (_ → _))

/-- The request that looks at a reply completes no authentication under a running loop. -/
theorem NoRevival.calm {event : ChannelEvent} {holder : Holder} {delivery : Delivery}
    (lost : channel.NoRevival event) (looks : channel.looksAt event = some (holder, delivery)) :
    delivery.message.type ≠ "ERROR" → delivery.message.type = holder.job.expected →
      ∀ owner, holder.job.caller = .respond owner → channel.reconnectTask = none := by
  intro noError expected owner caller
  refine lost ?_
  unfold completesAuth returnsReply
  rw [looks, Option.filter_some, if_pos (decide_eq_true ⟨noError, expected⟩), Option.any_some]
  simp only [caller]

theorem Retrying.eventLoop (retrying : channel.Retrying) : channel.eventLoop.Retrying := by
  unfold ControlChannel.eventLoop
  split
  · split
    · exact retrying.onConnectionLost.of_eq rfl rfl rfl rfl rfl
    · exact retrying.of_eq rfl rfl rfl rfl rfl
  · exact retrying.of_eq rfl rfl rfl rfl rfl

theorem Retrying.classify (retrying : channel.Retrying) (delivery : Delivery) :
    (channel.classify delivery).Retrying := by
  unfold ControlChannel.classify
  split
  · split
    · exact retrying.of_eq rfl rfl rfl rfl rfl
    · exact retrying.of_eq rfl rfl rfl rfl rfl
  · exact retrying.of_eq rfl rfl rfl rfl rfl

/-- A message less on a connection. -/
theorem Retrying.receive (retrying : channel.Retrying) {connection : Nat} {delivery : Delivery}
    (received : channel.receive connection = some (delivery, next)) : next.Retrying := by
  obtain ⟨outbound, rest, found, rfl⟩ := receive_some received
  exact retrying.of_eq rfl rfl rfl rfl rfl

theorem Retrying.transmit (retrying : channel.Retrying) (connection : Nat) (message : Message) :
    (channel.transmit connection message).Retrying :=
  retrying.of_eq rfl rfl rfl rfl rfl

/-- The first waiting request leaves the queue, whatever becomes of it. -/
theorem Retrying.entered (retrying : channel.Retrying) {job : Job} {rest : List Job}
    (waiting : channel.waiting = job :: rest) : (channel.entered job rest).Retrying :=
  ⟨retrying.stopped, retrying.unauthenticated,
    fun other member => retrying.waiting other (waiting ▸ List.mem_cons_of_mem _ member),
    retrying.holder⟩

/-- The loop has opened a connection and asks for the challenge. -/
theorem Retrying.reconnected (retrying : channel.Retrying)
    (alive : channel.reconnectTask.isSome) : channel.reconnected.Retrying := by
  have opened : Retrying { channel.connect with reconnectTask := some .authenticating } := by
    refine ⟨fun stopped => ?_, fun _ => retrying.unauthenticated alive, fun _ _ _ => rfl,
      fun _ _ _ => rfl⟩
    rw [retrying.stopped stopped] at alive
    cases alive
  unfold ControlChannel.reconnected
  simp only
  split
  · split
    · exact opened.enqueue (fun _ => rfl) rfl rfl rfl rfl rfl
    · exact opened.enqueue (fun _ => rfl) rfl rfl rfl rfl rfl
  · exact opened.enqueue (fun _ => rfl) rfl rfl rfl rfl rfl

theorem Caller.background_of_reconnects {caller : Caller} (reconnects : caller.reconnects = true) :
    caller.background = true := by
  cases caller with
  | user | heartbeat => cases reconnects
  | register owner | respond owner =>
    cases owner with
    | user => cases reconnects
    | reconnect => rfl
  | reregister => rfl

/-- Closing the channel ends the loop and its requests. -/
theorem retrying_close (channel : ControlChannel) : channel.close.Retrying := by
  refine ⟨fun _ => rfl, fun alive => (nomatch alive), fun job member reconnects => ?_,
    fun holder held reconnects => ?_⟩
  · have kept := (List.mem_filter.mp member).2
    rw [Caller.background_of_reconnects reconnects] at kept
    cases kept
  · have kept := (Option.filter_eq_some_iff.mp held).2
    rw [Caller.background_of_reconnects reconnects] at kept
    cases kept

/-- One step in which no authentication completes under a running loop. -/
theorem retrying_step (sign : String → Option String) {event : ChannelEvent}
    (lost : channel.NoRevival event) (retrying : channel.Retrying)
    (stepped : channel.step sign event = some next) : next.Retrying := by
  cases channel_cases stepped with
  | connected => exact retrying.of_eq rfl rfl rfl rfl rfl
  | requested message expected timed =>
    refine retrying.enqueue (fun user => ?_) rfl rfl rfl rfl rfl
    cases user
  | authenticated publicKeyPem =>
    refine retrying.enqueue (fun user => ?_) rfl rfl rfl rfl rfl
    cases user
  | unsent message offline => exact retrying
  | sent message connection current => exact retrying.transmit connection message
  | refused raises job rest free waiting fails =>
    have owned := retrying.waiting job (waiting ▸ List.mem_cons_self ..)
    exact (retrying.entered waiting).release.fail owned
  | acquired job rest connection free waiting current =>
    have owned := retrying.waiting job (waiting ▸ List.mem_cons_self ..)
    exact ((retrying.entered waiting).transmit connection job.message).proceed owned _ _
  | lossTaken holder connection rest held waits queued =>
    have taken : Retrying { channel with responses := rest } := retrying.of_eq rfl rfl rfl rfl rfl
    exact taken.release.fail (retrying.holder holder held)
  | replyTaken holder delivery rest held waits queued looks =>
    have taken : Retrying { channel with responses := rest } := retrying.of_eq rfl rfl rfl rfl rfl
    exact taken.handle sign (retrying.holder holder held) (lost.calm looks)
  | replyRead holder connection delivery read held waits received looks =>
    have calm := lost.calm looks
    have owned := retrying.holder holder held
    have read := retrying.receive received
    obtain ⟨outbound, rest, found, rfl⟩ := receive_some received
    exact read.handle sign owned calm
  | readFailed holder connection held waits =>
    exact retrying.release.fail (retrying.holder holder held)
  | timedOut holder held waits => exact retrying.release.fail (retrying.holder holder held)
  | cancelled holder held foreground => exact retrying.release
  | abandoned index job waits foreground =>
    exact ⟨retrying.stopped, retrying.unauthenticated,
      fun other member => retrying.waiting other (List.eraseIdx_subset member), retrying.holder⟩
  | readerStarted starting =>
    refine Retrying.eventLoop ?_
    exact retrying.of_eq rfl rfl rfl rfl rfl
  | readerRead connection delivery read reading received =>
    exact ((retrying.receive received).classify delivery).eventLoop
  | readerFailed connection reading => exact retrying.onConnectionLost.of_eq rfl rfl rfl rfl rfl
  | heartbeatSent ts sleeping =>
    refine retrying.enqueue (fun heartbeat => ?_) rfl rfl rfl rfl rfl
    cases heartbeat
  | reconnectWoke sleeping =>
    have alive : channel.reconnectTask.isSome := sleeping ▸ rfl
    refine ⟨fun stopped => ?_, fun _ => retrying.unauthenticated alive, fun _ _ _ => rfl,
      fun _ _ _ => rfl⟩
    rw [retrying.stopped stopped] at alive
    cases alive
  | reconnectOpened connecting => exact retrying.reconnected (connecting ▸ rfl)
  | reconnectRefused connecting => exact retrying.authFailed .reconnect fun _ => connecting ▸ rfl
  | closing => exact retrying_close channel
  | closed stopped => exact ⟨retrying.stopped, fun _ => rfl, retrying.waiting, retrying.holder⟩
  | heartbeatStarted | heartbeatEnded | serverAnswered | serverPushed =>
    exact retrying.of_eq rfl rfl rfl rfl rfl

/-! ### Every run -/

/-- In every run in which no authentication completes while the reconnect loop runs, the loop opens
no connection while the channel is connected and authenticated. -/
theorem reconnect_spares_healthy (sign : String → Option String) (clientId : String)
    (base maximum : Time) (events : List ChannelEvent) (channel : ControlChannel)
    (along : HoldsAlong (step sign) NoRevival (init clientId base maximum) events)
    (ran : runFrom (step sign) (init clientId base maximum) events = some channel)
    (event : ChannelEvent) (opens : channel.opensConnection event = true) :
    ¬ (channel.connected = true ∧ channel.authenticated = true) := by
  have retrying : channel.Retrying :=
    run_invariant (fun _ _ _ lost retrying stepped => retrying_step sign lost retrying stepped)
      (retrying_init clientId base maximum) along ran
  rintro ⟨-, authenticated⟩
  have alive : channel.reconnectTask.isSome := by
    cases event with
    | reconnectWakes => exact of_decide_eq_true opens ▸ rfl
    | reconnectConnects opened =>
      exact of_decide_eq_true ((Bool.and_eq_true _ _).mp opens).2 ▸ rfl
    | _ => cases opens
  cases (retrying.unauthenticated alive).symm.trans authenticated

/-- The client has signed on and its connection is lost. -/
def lostOnce : List ChannelEvent := signedOn ++ [.eventFails]

theorem reconnect_spares_healthy_lost :
    ∃ channel, runFrom (step signAll) exampleChannel lostOnce = some channel ∧
      channel.opensConnection .reconnectWakes = true ∧
      ¬ (channel.connected = true ∧ channel.authenticated = true) := by
  have along : HoldsAlong (step signAll) NoRevival exampleChannel lostOnce := by decide +kernel
  refine ⟨_, rfl, rfl, ?_⟩
  exact reconnect_spares_healthy signAll "client-0001" 1 60 lostOnce _ along rfl .reconnectWakes rfl

/-- The loop has connected and authenticated again, up to the last read. -/
def lostAndBack : List ChannelEvent :=
  lostOnce ++ [.reconnectWakes, .reconnectConnects true] ++ answeredAuth 1

/-- The authentication completes and nothing is lost after it, but the loop wakes once more and
replaces the connection. -/
theorem reconnect_disturbs_healthy :
    ∃ before channel opened, runFrom (step signAll) exampleChannel lostAndBack = some before ∧
      before.completesAuth .readStream = true ∧ before.step signAll .readStream = some channel ∧
      channel.connected = true ∧ channel.authenticated = true ∧ channel.stream = some 1 ∧
      channel.opensConnection .reconnectWakes = true ∧
      runFrom (step signAll) channel [.reconnectWakes, .reconnectConnects true] = some opened ∧
      opened.stream = some 2 :=
  ⟨_, _, _, rfl, rfl, rfl, rfl, rfl, rfl, rfl, rfl, rfl⟩

end ControlChannel

end LocalNetwork
