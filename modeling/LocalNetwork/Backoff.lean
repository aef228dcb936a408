/-
This file proves how long the reconnect loop of `client/control_channel.py` sleeps before
each attempt, for every sequence of outcomes.

The delay is written at three places: `connect` resets it as soon as the connection is open,
the loop resets it after the authentication, and doubles it after a failure. An attempt that
fails behind `connect` therefore doubles the first delay and not the last one, however many
attempts failed before. `step_backoff` says that no other step of the channel writes the
delay.
-/

import LocalNetwork.ChannelSteps

namespace LocalNetwork

/-- How an attempt ends: the connection cannot be opened, the server does not register or
authenticate the client on it, or the loop gets through. -/
inductive Attempt where
  | refused
  | rejected
  | succeeded
  deriving DecidableEq, Repr

/-- The delay after a number of failures in a row. -/
def expectedDelay (base maximum : Time) : Nat → Time
  | 0 => base
  | failures + 1 => min (base * 2 ^ (failures + 1)) maximum

namespace ControlChannel

variable {channel next : ControlChannel}

/-! ### Where the delay is written -/

/-- A change of the channel keeps the delay, or ends an attempt of the loop. -/
inductive BackoffCase (channel next : ControlChannel) : Prop
  | kept (same : next.backoff = channel.backoff)
  | failed (before : ControlChannel) (same : before.backoff = channel.backoff)
    (maximum : before.reconnectMaxDelay = channel.reconnectMaxDelay)
    (raised : next = before.authFailed .reconnect)
  | succeeded (before : ControlChannel)
    (base : before.reconnectBaseDelay = channel.reconnectBaseDelay)
    (returned : next = before.authDone .reconnect)

/-- The delay and its bounds are those of another channel. -/
structure SameBackoff (channel next : ControlChannel) : Prop where
  backoff : next.backoff = channel.backoff
  base : next.reconnectBaseDelay = channel.reconnectBaseDelay
  maximum : next.reconnectMaxDelay = channel.reconnectMaxDelay

theorem SameBackoff.refl (channel : ControlChannel) : SameBackoff channel channel :=
  ⟨rfl, rfl, rfl⟩

theorem SameBackoff.trans {first second third : ControlChannel} (one : SameBackoff first second)
    (other : SameBackoff second third) : SameBackoff first third :=
  ⟨other.backoff.trans one.backoff, other.base.trans one.base, other.maximum.trans one.maximum⟩

theorem BackoffCase.of_same {middle : ControlChannel} (backoffCase : BackoffCase middle next)
    (same : SameBackoff channel middle) : BackoffCase channel next := by
  cases backoffCase with
  | kept kept => exact .kept (kept.trans same.backoff)
  | failed before kept maximum raised =>
    exact .failed before (kept.trans same.backoff) (maximum.trans same.maximum) raised
  | succeeded before base returned => exact .succeeded before (base.trans same.base) returned

theorem sameBackoff_onConnectionLost (channel : ControlChannel) :
    SameBackoff channel channel.onConnectionLost := by
  unfold onConnectionLost
  split
  · exact .refl _
  · exact ⟨rfl, rfl, rfl⟩

theorem sameBackoff_eventLoop (channel : ControlChannel) :
    SameBackoff channel channel.eventLoop := by
  unfold eventLoop
  split
  · split
    · exact (sameBackoff_onConnectionLost channel).trans ⟨rfl, rfl, rfl⟩
    · exact ⟨rfl, rfl, rfl⟩
  · exact ⟨rfl, rfl, rfl⟩

theorem sameBackoff_classify (channel : ControlChannel) (delivery : Delivery) :
    SameBackoff channel (channel.classify delivery) := by
  unfold classify
  split
  · split
    · exact ⟨rfl, rfl, rfl⟩
    · exact ⟨rfl, rfl, rfl⟩
  · exact ⟨rfl, rfl, rfl⟩

theorem backoffCase_authFailed (channel : ControlChannel) (owner : AuthOwner) :
    BackoffCase channel (channel.authFailed owner) := by
  cases owner with
  | user => exact .kept rfl
  | reconnect => exact .failed channel rfl rfl rfl

theorem backoffCase_fail (channel : ControlChannel) (caller : Caller) :
    BackoffCase channel (channel.fail caller) := by
  cases caller with
  | user => exact .kept rfl
  | heartbeat => exact .kept (sameBackoff_onConnectionLost channel).backoff
  | register owner => exact backoffCase_authFailed channel owner
  | respond owner => exact backoffCase_authFailed channel owner
  | reregister => exact backoffCase_authFailed channel .reconnect

theorem backoffCase_respond (channel : ControlChannel) (sign : String → Option String)
    (owner : AuthOwner) (reply : Message) :
    BackoffCase channel (channel.respond sign owner reply) := by
  unfold respond
  split
  · exact backoffCase_authFailed channel owner
  · split
    · exact backoffCase_authFailed channel owner
    · exact .kept rfl

theorem backoffCase_succeed (channel : ControlChannel) (sign : String → Option String)
    (reply : Message) (caller : Caller) :
    BackoffCase channel (channel.succeed sign reply caller) := by
  cases caller with
  | user => exact .kept rfl
  | heartbeat => exact .kept rfl
  | register owner => exact backoffCase_respond channel sign owner reply
  | respond owner =>
    cases owner with
    | user => exact .kept rfl
    | reconnect =>
      exact .succeeded ({ channel with
        authenticated := true, hasPrivateKey := true }.startBackgroundTasks) rfl rfl
  | reregister => exact .succeeded channel rfl rfl

theorem backoffCase_release_fail (channel : ControlChannel) (caller : Caller) :
    BackoffCase channel (channel.release.fail caller) :=
  (backoffCase_fail channel.release caller).of_same ⟨rfl, rfl, rfl⟩

theorem backoffCase_proceed (channel : ControlChannel) (job : Job) (id connection : Nat) :
    BackoffCase channel (channel.proceed job id connection) := by
  unfold proceed
  split
  · exact .kept rfl
  · split
    · exact backoffCase_release_fail channel job.caller
    · exact .kept rfl

theorem backoffCase_handle (channel : ControlChannel) (sign : String → Option String)
    (holder : Holder) (delivery : Delivery) :
    BackoffCase channel (channel.handle sign holder delivery) := by
  unfold handle
  split
  · exact backoffCase_release_fail channel holder.job.caller
  · split
    · exact (backoffCase_succeed channel.release sign _ _).of_same ⟨rfl, rfl, rfl⟩
    · exact backoffCase_proceed channel _ _ _

theorem reconnected_backoff (channel : ControlChannel) :
    channel.reconnected.backoff = channel.reconnectBaseDelay := by
  unfold reconnected
  simp only
  split
  · split
    · rfl
    · rfl
  · rfl

/-- The delay is written where a connection is opened and where an attempt of the loop ends, and
nowhere else. -/
theorem step_backoff (sign : String → Option String) {event : ChannelEvent}
    (stepped : channel.step sign event = some next) :
    BackoffCase channel next ∨
      (event = .connect ∨ event = .reconnectConnects true) ∧
        next.backoff = channel.reconnectBaseDelay := by
  cases channel_cases stepped with
  | connected => exact .inr ⟨.inl rfl, rfl⟩
  | reconnectOpened connecting => exact .inr ⟨.inr rfl, reconnected_backoff channel⟩
  | reconnectRefused connecting => exact .inl (.failed channel rfl rfl rfl)
  | refused raises job rest free waiting fails =>
    exact .inl ((backoffCase_release_fail (channel.entered job rest) _).of_same ⟨rfl, rfl, rfl⟩)
  | acquired job rest connection free waiting current =>
    exact .inl ((backoffCase_proceed ((channel.entered job rest).transmit connection job.message)
      _ _ _).of_same ⟨rfl, rfl, rfl⟩)
  | lossTaken holder connection rest held waits queued =>
    exact .inl ((backoffCase_release_fail { channel with responses := rest }
      holder.job.caller).of_same ⟨rfl, rfl, rfl⟩)
  | replyTaken holder delivery rest held waits queued looks =>
    exact .inl ((backoffCase_handle { channel with responses := rest } sign holder
      delivery).of_same ⟨rfl, rfl, rfl⟩)
  | replyRead holder connection delivery read held waits received looks =>
    have handled := backoffCase_handle read sign holder delivery
    obtain ⟨outbound, rest, found, rfl⟩ := receive_some received
    exact .inl (handled.of_same ⟨rfl, rfl, rfl⟩)
  | readFailed holder connection held waits =>
    exact .inl (backoffCase_release_fail channel holder.job.caller)
  | timedOut holder held waits =>
    exact .inl (backoffCase_release_fail channel holder.job.caller)
  | readerStarted starting =>
    exact .inl (.kept (sameBackoff_eventLoop { channel with readerOwned := true }).backoff)
  | readerRead connection delivery read reading received =>
    have same := (sameBackoff_classify read delivery).trans (sameBackoff_eventLoop _)
    obtain ⟨outbound, rest, found, rfl⟩ := receive_some received
    exact .inl (.kept same.backoff)
  | readerFailed connection reading =>
    exact .inl (.kept (sameBackoff_onConnectionLost channel).backoff)
  | requested | authenticated | unsent | sent | cancelled | abandoned | heartbeatStarted
  | heartbeatSent | heartbeatEnded | reconnectWoke | serverAnswered | serverPushed | closing
  | closed =>
    exact .inl (.kept rfl)

/-! ### The attempts of the loop -/

/-- One attempt: `connect` raises, or what comes behind it does, or nothing does. What happens on the
channel in between leaves the delay. -/
def attempt (channel : ControlChannel) : Attempt → ControlChannel
  | .refused => channel.authFailed .reconnect
  | .rejected => channel.connect.authFailed .reconnect
  | .succeeded => channel.connect.authDone .reconnect

/-- An attempt of a loop that sleeps; the number counts the failures since the last success. -/
def attemptStep (loop : ControlChannel × Nat) (outcome : Attempt) :
    Option (ControlChannel × Nat) :=
  if loop.1.reconnectTask = some .sleeping then
    some (loop.1.attempt outcome, if outcome = .succeeded then 0 else loop.2 + 1)
  else none

/-- The loop sleeps as long as the failures since the last success say. -/
def DelayRight (loop : ControlChannel × Nat) : Prop :=
  loop.1.backoff = expectedDelay loop.1.reconnectBaseDelay loop.1.reconnectMaxDelay loop.2

instance (loop : ControlChannel × Nat) : Decidable (DelayRight loop) :=
  inferInstanceAs (Decidable (_ = _))

/-- An attempt that fails behind `connect` is the first failure, or the doubled first delay is the
delay already; with a bound below zero the delay must not have come to the bound. -/
def KeepsDelay (loop : ControlChannel × Nat) : Attempt → Prop
  | .succeeded => True
  | .refused =>
    loop.2 = 0 ∨ 0 ≤ loop.1.reconnectMaxDelay ∨
      loop.1.reconnectBaseDelay * 2 ^ loop.2 ≤ loop.1.reconnectMaxDelay
  | .rejected =>
    loop.2 = 0 ∨ loop.1.reconnectBaseDelay = 0 ∨
      loop.1.reconnectMaxDelay ≤ loop.1.reconnectBaseDelay * 2 ∧
        loop.1.reconnectMaxDelay ≤ loop.1.reconnectBaseDelay * 2 ^ (loop.2 + 1)

theorem min_twice_iff (delay maximum : Int) :
    min (min delay maximum * 2) maximum = min (delay * 2) maximum ↔
      0 ≤ maximum ∨ delay ≤ maximum := by
  omega

theorem min_eq_min_iff (first second maximum : Int) :
    min first maximum = min second maximum ↔
      second = first ∨ maximum ≤ first ∧ maximum ≤ second := by
  omega

/-- Doubling the delay gives the next delay. -/
theorem doubled_iff (base maximum : Time) (failures : Nat) :
    min (expectedDelay base maximum failures * 2) maximum =
        expectedDelay base maximum (failures + 1) ↔
      failures = 0 ∨ 0 ≤ maximum ∨ base * 2 ^ failures ≤ maximum := by
  cases failures with
  | zero => exact iff_of_true (by rw [expectedDelay, expectedDelay, zero_add, pow_one]) (.inl rfl)
  | succ failures =>
    have twice : base * 2 ^ (failures + 1 + 1) = base * 2 ^ (failures + 1) * 2 := by
      rw [pow_succ 2 (failures + 1), mul_assoc]
    rw [expectedDelay, expectedDelay, twice, min_twice_iff]
    exact (or_iff_right (Nat.succ_ne_zero failures)).symm

/-- Doubling the first delay gives the next delay. -/
theorem restarted_iff (base maximum : Time) (failures : Nat) :
    min (base * 2) maximum = expectedDelay base maximum (failures + 1) ↔
      failures = 0 ∨ base = 0 ∨
        maximum ≤ base * 2 ∧ maximum ≤ base * 2 ^ (failures + 1) := by
  rw [expectedDelay]
  have unchanged : base * 2 ^ (failures + 1) = base * 2 ↔ failures = 0 ∨ base = 0 := by
    rw [mul_eq_mul_left_iff]
    refine or_congr_left ⟨fun same => ?_, fun zero => by rw [zero, zero_add, pow_one]⟩
    have exponent : failures + 1 = 1 :=
      Nat.pow_right_injective (le_refl 2) (by exact_mod_cast same)
    omega
  rw [← or_assoc, ← unchanged, min_eq_min_iff]

theorem attempt_delays (channel : ControlChannel) (outcome : Attempt) :
    (channel.attempt outcome).reconnectBaseDelay = channel.reconnectBaseDelay ∧
      (channel.attempt outcome).reconnectMaxDelay = channel.reconnectMaxDelay := by
  cases outcome with
  | refused | rejected | succeeded => exact ⟨rfl, rfl⟩

theorem attempt_running (outcome : Attempt) (running : channel.stopped = false) :
    (channel.attempt outcome).stopped = false ∧
      (channel.attempt outcome).reconnectTask = some .sleeping := by
  cases outcome with
  | refused | rejected | succeeded =>
    refine ⟨running, ?_⟩
    simp [attempt, connect, authFailed, authDone, reconnectLoop, running]

/-- From the right delay, an attempt leads to the right delay exactly if it keeps the condition. -/
theorem delayRight_attempt_iff {loop next : ControlChannel × Nat} {outcome : Attempt}
    (right : DelayRight loop) (stepped : attemptStep loop outcome = some next) :
    DelayRight next ↔ KeepsDelay loop outcome := by
  unfold attemptStep at stepped
  split at stepped
  · obtain rfl := Option.some.inj stepped
    obtain ⟨base, maximum⟩ := attempt_delays loop.1 outcome
    rw [DelayRight, base, maximum]
    cases outcome with
    | succeeded => exact iff_of_true rfl trivial
    | refused =>
      rw [KeepsDelay, ← doubled_iff, ← right]
      rfl
    | rejected =>
      rw [KeepsDelay, ← restarted_iff]
      rfl
  · cases stepped

/-- The loop is at its sleep, with the right delay. -/
structure Sleeping (loop : ControlChannel × Nat) : Prop where
  right : DelayRight loop
  running : loop.1.stopped = false
  sleeping : loop.1.reconnectTask = some .sleeping

theorem Sleeping.taken {loop : ControlChannel × Nat} (asleep : Sleeping loop) (outcome : Attempt) :
    ∃ next, attemptStep loop outcome = some next :=
  ⟨_, if_pos asleep.sleeping⟩

theorem Sleeping.step {loop next : ControlChannel × Nat} {outcome : Attempt}
    (asleep : Sleeping loop) (keeps : KeepsDelay loop outcome)
    (stepped : attemptStep loop outcome = some next) : Sleeping next := by
  have right := (delayRight_attempt_iff asleep.right stepped).mpr keeps
  rw [attemptStep, if_pos asleep.sleeping] at stepped
  obtain rfl := Option.some.inj stepped
  obtain ⟨running, sleeping⟩ := attempt_running outcome asleep.running
  exact ⟨right, running, sleeping⟩

/-- A loop that starts with the first delay sleeps for the right time before every attempt if and only
if every attempt keeps the condition. -/
theorem backoff_iff (channel : ControlChannel)
    (fresh : channel.backoff = channel.reconnectBaseDelay) (running : channel.stopped = false)
    (sleeping : channel.reconnectTask = some .sleeping) (outcomes : List Attempt) :
    (∀ before after loop, outcomes = before ++ after →
        runFrom attemptStep (channel, 0) before = some loop → DelayRight loop) ↔
      HoldsAlong attemptStep KeepsDelay (channel, 0) outcomes := by
  refine safe_iff_holdsAlong (fun loop (asleep : Sleeping loop) => asleep.right)
    (fun loop outcome next _ keeps asleep stepped => asleep.step keeps stepped)
    (fun loop outcome _ asleep safe => ?_) (holdsAlong_true outcomes _)
    ⟨fresh, running, sleeping⟩
  obtain ⟨next, stepped⟩ := asleep.taken outcome
  exact (delayRight_attempt_iff asleep.right stepped).mp (safe next stepped)

/-- The loop of a channel with the delays of the source, right after a loss. -/
def lostChannel : ControlChannel := exampleChannel.connect.onConnectionLost

theorem backoff_iff_lost :
    (∀ before after loop, [Attempt.rejected, .succeeded, .refused, .refused] = before ++ after →
        runFrom attemptStep (lostChannel, 0) before = some loop → DelayRight loop) ↔
      HoldsAlong attemptStep KeepsDelay (lostChannel, 0)
        [Attempt.rejected, .succeeded, .refused, .refused] :=
  backoff_iff lostChannel rfl rfl rfl [.rejected, .succeeded, .refused, .refused]

/-- Two refused connections and a rejected registration: the loop sleeps 2 and not 8. -/
theorem backoff_counterexample :
    ∃ loop, runFrom attemptStep (lostChannel, 0) [.refused, .refused, .rejected] = some loop ∧
      loop.2 = 3 ∧ loop.1.backoff = 2 ∧
      expectedDelay loop.1.reconnectBaseDelay loop.1.reconnectMaxDelay 3 = 8 ∧
      ¬ DelayRight loop :=
  ⟨_, rfl, rfl, rfl, rfl, by decide⟩

end ControlChannel

end LocalNetwork
