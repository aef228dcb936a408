/-
This file relates what the health monitor answers about a server to what was recorded about
it. The counter of failures is the length of a streak: failures without a success between
them, each within the timeout of the one before. A server is refused because of a streak that
was long enough, and whose last failure is not longer ago than the timeout.

The other direction has a gap. A mark can outlive its streak, because a failure after a long
pause starts a new count and leaves the mark as it was. A question then takes the old mark
away together with the new count, and the new streak has to begin again.
-/

import LocalNetwork.Delimiters
import LocalNetwork.HealthMonitor
import LocalNetwork.Transition

namespace LocalNetwork

/-! ### Histories -/

inductive HealthCallKind where
  | recordFailure
  | recordSuccess
  | isAvailable
  deriving DecidableEq

/-- A call on the monitor, with the reading of the clock. -/
structure HealthCall where
  kind : HealthCallKind
  host : String
  port : Nat
  now : Time
  deriving DecidableEq

namespace HealthCall

/-- The call is about a server. -/
def isAbout (host : String) (port : Nat) (call : HealthCall) : Bool :=
  decide (call.host = host ∧ call.port = port)

/-- The call records a result of a server. -/
def isResult (host : String) (port : Nat) (call : HealthCall) : Bool :=
  call.isAbout host port && decide (call.kind ≠ .isAvailable)

end HealthCall

/-- The results of a server. -/
def results (host : String) (port : Nat) (calls : List HealthCall) : List HealthCall :=
  calls.filter (HealthCall.isResult host port)

/-- Failures one after the other, each within the timeout of the one before. -/
structure Streak (failTimeout : Time) (streak : List HealthCall) : Prop where
  failures : ∀ call ∈ streak, call.kind = .recordFailure
  gaps : streak.IsChain fun first second => second.now - first.now ≤ failTimeout

/-- The clock does not go back in a history that ends at some time. -/
def ClockRuns (calls : List HealthCall) (now : Time) : Prop :=
  (calls.map HealthCall.now ++ [now]).Pairwise (· ≤ ·)

instance (calls : List HealthCall) (now : Time) : Decidable (ClockRuns calls now) :=
  inferInstanceAs (Decidable ((calls.map HealthCall.now ++ [now]).Pairwise (· ≤ ·)))

instance (failTimeout : Time) (streak : List HealthCall) : Decidable (Streak failTimeout streak) :=
  decidable_of_iff ((∀ call ∈ streak, call.kind = .recordFailure) ∧
    streak.IsChain fun first second => second.now - first.now ≤ failTimeout)
    ⟨fun both => ⟨both.1, both.2⟩, fun streak => ⟨streak.failures, streak.gaps⟩⟩

/-- The time of the last of some calls that follow one at a known time. -/
def lastTime (before : Time) (calls : List HealthCall) : Time :=
  (calls.getLast?.map HealthCall.now).getD before

theorem lastTime_cons (before : Time) (call : HealthCall) (rest : List HealthCall) :
    lastTime before (call :: rest) = lastTime call.now rest := by
  rw [lastTime, lastTime, List.getLast?_cons]
  cases rest.getLast? <;> rfl

theorem ClockRuns.le {calls : List HealthCall} {now : Time} (clock : ClockRuns calls now)
    {call : HealthCall} (member : call ∈ calls) : call.now ≤ now :=
  (List.pairwise_append.mp clock).2.2 _ (List.mem_map_of_mem member) now List.mem_cons_self

theorem streak_nil (failTimeout : Time) : Streak failTimeout [] := ⟨by simp, .nil⟩

/-- A failure goes on with a streak whose last failure is within the timeout. -/
theorem Streak.snoc {failTimeout : Time} {streak : List HealthCall} {call : HealthCall}
    (holds : Streak failTimeout streak)
    (failure : call.kind = .recordFailure)
    (within : ∀ last ∈ streak.getLast?, call.now - last.now ≤ failTimeout) :
    Streak failTimeout (streak ++ [call]) := by
  constructor
  · intro other member
    rcases List.mem_append.mp member with earlier | last
    · exact holds.failures other earlier
    · rw [List.mem_singleton.mp last]
      exact failure
  · refine List.isChain_append.mpr ⟨holds.gaps, .singleton _, fun last isLast next isNext => ?_⟩
    obtain rfl := Option.some.inj isNext
    exact within last isLast

theorem Streak.tail {failTimeout : Time} {first second : HealthCall} {rest : List HealthCall}
    (streak : Streak failTimeout (first :: second :: rest)) :
    second.kind = .recordFailure ∧ second.now - first.now ≤ failTimeout ∧
      Streak failTimeout (second :: rest) := by
  obtain ⟨gap, gaps⟩ := List.isChain_cons_cons.mp streak.gaps
  exact ⟨streak.failures second (.tail _ (.head _)), gap,
    fun call member => streak.failures call (.tail _ member), gaps⟩

namespace HealthMonitor

def afterCall (monitor : HealthMonitor) (call : HealthCall) : HealthMonitor :=
  match call.kind with
  | .recordFailure => monitor.recordFailure call.host call.port call.now
  | .recordSuccess => monitor.recordSuccess call.host call.port
  | .isAvailable => (monitor.isAvailable call.host call.port call.now).2

def afterCalls (monitor : HealthMonitor) (calls : List HealthCall) : HealthMonitor :=
  calls.foldl afterCall monitor

/-- A call, seen as a step of the monitor. -/
def step (monitor : HealthMonitor) (call : HealthCall) : Option HealthMonitor :=
  some (monitor.afterCall call)

/-- If the call asks about a server, it does not find an old mark: one set longer ago than the
timeout. -/
def FindsNoOldMark (host : String) (port : Nat) (monitor : HealthMonitor) (call : HealthCall) :
    Prop :=
  call.kind = .isAvailable → call.isAbout host port = true →
    ∀ health ∈ monitor.servers.get? (key host port), health.unavailable = true →
      call.now - health.unavailableSince ≤ monitor.failTimeout

instance (host : String) (port : Nat) (monitor : HealthMonitor) (call : HealthCall) :
    Decidable (FindsNoOldMark host port monitor call) :=
  inferInstanceAs (Decidable (call.kind = .isAvailable → call.isAbout host port = true →
    ∀ health ∈ monitor.servers.get? (key host port), health.unavailable = true →
      call.now - health.unavailableSince ≤ monitor.failTimeout))

/-! ### Keys -/

theorem key_reverse (host : String) (port : Nat) :
    (key host port).toList.reverse =
      (Nat.toDigits 10 port).reverse ++ ':' :: host.toList.reverse := by
  have digits : (toString port).toList = Nat.toDigits 10 port := Nat.toList_repr
  rw [key, String.toList_append, String.toList_append, digits]
  simp

/-- A port has no colon, so that host and port can be read off a key. -/
theorem key_eq_iff {host other : String} {port otherPort : Nat} :
    key host port = key other otherPort ↔ host = other ∧ port = otherPort := by
  refine ⟨fun same => ?_, fun ⟨hosts, ports⟩ => by rw [hosts, ports]⟩
  have absent (port : Nat) : ':' ∉ (Nat.toDigits 10 port).reverse := fun member =>
    absurd (Nat.isDigit_of_mem_toDigits (by decide) (by decide) (List.mem_reverse.mp member))
      (by decide)
  have reversed := congrArg (fun text : String => text.toList.reverse) same
  simp only [key_reverse] at reversed
  have cut := congrArg (cutAt [':']) reversed
  rw [cutAt_symbol _ (absent port), cutAt_symbol _ (absent otherPort), Option.some_inj] at cut
  obtain ⟨digits, hosts⟩ := Prod.mk.inj cut
  refine ⟨String.toList_inj.mp (List.reverse_inj.mp hosts), ?_⟩
  rw [← @Nat.ofDigitChars_ten_toDigits port, List.reverse_inj.mp digits,
    Nat.ofDigitChars_ten_toDigits]

/-! ### The record of one server -/

/-- The mark was set longer ago than the timeout. -/
def OldMark (monitor : HealthMonitor) (health : ServerHealth) (now : Time) : Prop :=
  health.unavailable = true ∧ monitor.failTimeout < now - health.unavailableSince

instance (monitor : HealthMonitor) (health : ServerHealth) (now : Time) :
    Decidable (monitor.OldMark health now) :=
  inferInstanceAs (Decidable (_ ∧ _))

/-- What a call about a server does to its record. -/
def recordAfter (monitor : HealthMonitor) (call : HealthCall) (record : Option ServerHealth) :
    Option ServerHealth :=
  match call.kind with
  | .recordFailure =>
    some (monitor.afterFailure (record.getD (.new call.host call.port)) call.now)
  | .recordSuccess => record.map fun health => { health with failures := 0, unavailable := false }
  | .isAvailable => record.map fun health =>
    if monitor.OldMark health call.now then { health with unavailable := false, failures := 0 }
    else health

variable {host : String} {port : Nat} {monitor other : HealthMonitor} {call : HealthCall}

/-- Asking about a server takes an old mark away, and changes nothing else. -/
theorem isAvailable_some {health : ServerHealth}
    (stored : monitor.servers.get? (key host port) = some health) (now : Time) :
    monitor.isAvailable host port now =
      if monitor.OldMark health now then
        (true, { monitor with
          servers := monitor.servers.modify (key host port) fun health =>
            { health with unavailable := false, failures := 0 } })
      else (!health.unavailable, monitor) := by
  rw [isAvailable, stored]
  dsimp only
  by_cases marked : health.unavailable = true
  · by_cases late : monitor.failTimeout < now - health.unavailableSince
    · rw [if_neg (by simp [marked]), if_pos late, if_pos ⟨marked, late⟩]
    · rw [if_neg (by simp [marked]), if_neg late, if_neg fun old => late old.2, marked]
      rfl
  · rw [if_pos (by simpa using marked), if_neg fun old => marked old.1,
      Bool.eq_false_iff.mpr marked]
    rfl

theorem isAvailable_none (absent : monitor.servers.get? (key host port) = none) (now : Time) :
    monitor.isAvailable host port now = (true, monitor) := by
  rw [isAvailable, absent]

/-- A server is refused because of its mark, if that is not old. -/
theorem isAvailable_eq_false_iff {now : Time} :
    (monitor.isAvailable host port now).1 = false ↔
      ∃ health, monitor.servers.get? (key host port) = some health ∧
        health.unavailable = true ∧ now - health.unavailableSince ≤ monitor.failTimeout := by
  cases stored : monitor.servers.get? (key host port) with
  | none => simp [isAvailable_none stored]
  | some health =>
    rw [isAvailable_some stored]
    by_cases old : monitor.OldMark health now
    · rw [if_pos old]
      constructor
      · intro refused
        cases refused
      · rintro ⟨found, same, -, lately⟩
        obtain rfl := Option.some.inj same
        exact absurd lately (not_le.mpr old.2)
    · rw [if_neg old]
      dsimp only
      rw [Bool.not_eq_false']
      constructor
      · exact fun marked => ⟨health, rfl, marked, le_of_not_gt fun late => old ⟨marked, late⟩⟩
      · rintro ⟨found, same, marked, -⟩
        exact Option.some.inj same ▸ marked

/-- A failure counts on, or anew after a pause that is too long, and marks the server if there are
enough of them. -/
theorem afterFailure_spec (monitor : HealthMonitor) (health : ServerHealth) (now : Time) :
    (monitor.afterFailure health now).failures =
        (if monitor.failTimeout < now - health.lastFailure then 0 else health.failures) + 1 ∧
      (monitor.afterFailure health now).lastFailure = now ∧
      (monitor.maxFailures ≤ (monitor.afterFailure health now).failures →
        (monitor.afterFailure health now).unavailable = true ∧
          (monitor.afterFailure health now).unavailableSince = now) ∧
      ((monitor.afterFailure health now).failures < monitor.maxFailures →
        (monitor.afterFailure health now).unavailable = health.unavailable ∧
          (monitor.afterFailure health now).unavailableSince = health.unavailableSince) := by
  simp only [afterFailure]
  generalize (if monitor.failTimeout < now - health.lastFailure then 0 else health.failures) + 1 =
    failures
  split
  · rename_i many
    exact ⟨rfl, rfl, fun _ => ⟨rfl, rfl⟩, fun few => absurd many (not_le.mpr few)⟩
  · rename_i few
    exact ⟨rfl, rfl, fun many => absurd many few, fun _ => ⟨rfl, rfl⟩⟩

/-- A call acts on the record of its own server alone. -/
theorem afterCall_get? (monitor : HealthMonitor) (call : HealthCall) (host : String) (port : Nat) :
    (monitor.afterCall call).servers.get? (key host port) =
      if call.isAbout host port then
        monitor.recordAfter call (monitor.servers.get? (key host port))
      else monitor.servers.get? (key host port) := by
  have keys : key host port = key call.host call.port ↔ call.isAbout host port = true := by
    rw [key_eq_iff, HealthCall.isAbout, decide_eq_true_iff, eq_comm, @eq_comm _ port]
  rw [afterCall, recordAfter]
  cases call.kind with
  | recordFailure =>
    dsimp only
    rw [recordFailure, Dict.get?_insert]
    by_cases about : call.isAbout host port = true
    · rw [if_pos (keys.mpr about), if_pos about, keys.mpr about]
    · rw [if_neg (mt keys.mp about), if_neg about]
  | recordSuccess =>
    dsimp only
    rw [recordSuccess, Dict.get?_modify]
    by_cases about : call.isAbout host port = true
    · rw [if_pos (keys.mpr about), if_pos about]
    · rw [if_neg (mt keys.mp about), if_neg about]
  | isAvailable =>
    dsimp only
    cases stored : monitor.servers.get? (key call.host call.port) with
    | none =>
      rw [isAvailable_none stored]
      by_cases about : call.isAbout host port = true
      · rw [if_pos about, keys.mpr about, stored, Option.map_none]
      · rw [if_neg about]
    | some health =>
      rw [isAvailable_some stored]
      by_cases about : call.isAbout host port = true
      · rw [if_pos about, keys.mpr about, stored, Option.map_some]
        by_cases old : monitor.OldMark health call.now
        · rw [if_pos old, if_pos old, Dict.get?_modify, if_pos rfl, stored, Option.map_some]
        · rw [if_neg old, if_neg old, stored]
      · rw [if_neg about]
        split
        · rw [Dict.get?_modify, if_neg (mt keys.mp about)]
        · rfl

/-- The settings never change. -/
theorem afterCall_settings (monitor : HealthMonitor) (call : HealthCall) :
    (monitor.afterCall call).maxFailures = monitor.maxFailures ∧
      (monitor.afterCall call).failTimeout = monitor.failTimeout := by
  rw [afterCall]
  cases call.kind with
  | recordFailure => exact ⟨rfl, rfl⟩
  | recordSuccess => exact ⟨rfl, rfl⟩
  | isAvailable =>
    dsimp only
    cases stored : monitor.servers.get? (key call.host call.port) with
    | none =>
      rw [isAvailable_none stored]
      exact ⟨rfl, rfl⟩
    | some health =>
      rw [isAvailable_some stored]
      split
      · exact ⟨rfl, rfl⟩
      · exact ⟨rfl, rfl⟩

theorem afterCalls_settings (monitor : HealthMonitor) (calls : List HealthCall) :
    (monitor.afterCalls calls).maxFailures = monitor.maxFailures ∧
      (monitor.afterCalls calls).failTimeout = monitor.failTimeout := by
  induction calls generalizing monitor with
  | nil => exact ⟨rfl, rfl⟩
  | cons call rest inductionHypothesis =>
    obtain ⟨most, timeout⟩ := inductionHypothesis (monitor.afterCall call)
    exact ⟨most.trans (afterCall_settings monitor call).1,
      timeout.trans (afterCall_settings monitor call).2⟩

theorem recordAfter_congr (most : monitor.maxFailures = other.maxFailures)
    (timeout : monitor.failTimeout = other.failTimeout) (call : HealthCall)
    (record : Option ServerHealth) :
    monitor.recordAfter call record = other.recordAfter call record := by
  obtain ⟨_, _, _⟩ := monitor
  obtain ⟨_, _, _⟩ := other
  obtain rfl := most
  obtain rfl := timeout
  rfl

/-- The record of a server depends on the calls about it alone. -/
theorem afterCalls_get?_about (most : monitor.maxFailures = other.maxFailures)
    (timeout : monitor.failTimeout = other.failTimeout)
    (same : monitor.servers.get? (key host port) = other.servers.get? (key host port))
    (calls : List HealthCall) :
    (monitor.afterCalls calls).servers.get? (key host port) =
      (other.afterCalls (calls.filter (HealthCall.isAbout host port))).servers.get?
        (key host port) := by
  induction calls generalizing monitor other with
  | nil => exact same
  | cons call rest inductionHypothesis =>
    obtain ⟨mostAfter, timeoutAfter⟩ := afterCall_settings monitor call
    have after := afterCall_get? monitor call host port
    by_cases about : call.isAbout host port = true
    · obtain ⟨otherMost, otherTimeout⟩ := afterCall_settings other call
      rw [List.filter_cons_of_pos about]
      refine inductionHypothesis (by rw [mostAfter, otherMost, most])
        (by rw [timeoutAfter, otherTimeout, timeout]) ?_
      rw [after, afterCall_get? other, if_pos about, if_pos about, same,
        recordAfter_congr most timeout]
    · rw [List.filter_cons_of_neg about]
      refine inductionHypothesis (mostAfter.trans most) (timeoutAfter.trans timeout) ?_
      rw [after, if_neg about, same]

/-- Calls about other servers do not influence the answer about a server. -/
theorem isAvailable_about (maxFailures : Int) (failTimeout : Time) (calls : List HealthCall)
    (host : String) (port : Nat) (now : Time) :
    (((new maxFailures failTimeout).afterCalls calls).isAvailable host port now).1 =
      (((new maxFailures failTimeout).afterCalls
        (calls.filter (HealthCall.isAbout host port))).isAvailable host port now).1 := by
  rw [Bool.eq_iff_iff, ← not_iff_not, Bool.not_eq_true, Bool.not_eq_true,
    isAvailable_eq_false_iff, isAvailable_eq_false_iff, afterCalls_get?_about rfl rfl rfl,
    (afterCalls_settings _ _).2, (afterCalls_settings _ _).2]

/-! ### The reason for a mark -/

/-- A history has a streak that is long enough for a mark, and no success after it. -/
def HasReason (maxFailures : Int) (failTimeout : Time) (history : List HealthCall) (since : Time) :
    Prop :=
  ∃ earlier streak last later, history = earlier ++ (streak ++ [last]) ++ later ∧
    Streak failTimeout (streak ++ [last]) ∧ maxFailures ≤ (streak ++ [last]).length ∧
      last.now = since ∧ ∀ call ∈ later, call.kind = .recordFailure

/-- The counter of a record is the length of a streak at the end of the history, and a mark has its
reason in the history. -/
structure Explains (maxFailures : Int) (failTimeout : Time) (history : List HealthCall)
    (health : ServerHealth) : Prop where
  counted : ∃ earlier streak, history = earlier ++ streak ∧ Streak failTimeout streak ∧
    (streak.length : Int) = health.failures ∧
      ∀ last ∈ streak.getLast?, last.now = health.lastFailure
  marked : health.unavailable = true →
    HasReason maxFailures failTimeout history health.unavailableSince

section

variable {maxFailures : Int} {failTimeout : Time} {history : List HealthCall}
  {health : ServerHealth}

theorem HasReason.snoc {since : Time} (reason : HasReason maxFailures failTimeout history since)
    (failure : call.kind = .recordFailure) :
    HasReason maxFailures failTimeout (history ++ [call]) since := by
  obtain ⟨earlier, streak, last, later, rfl, holds, long, sinceLast, failures⟩ := reason
  refine ⟨earlier, streak, last, later ++ [call], by simp, holds, long, sinceLast, ?_⟩
  intro other member
  rcases List.mem_append.mp member with before | here
  · exact failures other before
  · rw [List.mem_singleton.mp here]
    exact failure

theorem explains_new (host : String) (port : Nat) (history : List HealthCall) :
    Explains maxFailures failTimeout history (.new host port) :=
  ⟨⟨history, [], by simp, streak_nil _, rfl, by simp⟩, fun marked => by cases marked⟩

/-- After a reset the record explains nothing but its counter of zero. -/
theorem explains_reset (history : List HealthCall) (health : ServerHealth) :
    Explains maxFailures failTimeout history
      { health with failures := 0, unavailable := false } :=
  ⟨⟨history, [], by simp, streak_nil _, rfl, by simp⟩, fun marked => by cases marked⟩

theorem Explains.afterFailure (explains : Explains monitor.maxFailures monitor.failTimeout history
    health) (failure : call.kind = .recordFailure) :
    Explains monitor.maxFailures monitor.failTimeout (history ++ [call])
      (monitor.afterFailure health call.now) := by
  -- The streak that the failure goes on with: none after a pause that is too long.
  obtain ⟨earlier, streak, split, holds, counts⟩ : ∃ earlier streak, history = earlier ++ streak ∧
      Streak monitor.failTimeout (streak ++ [call]) ∧ (streak.length : Int) =
        if monitor.failTimeout < call.now - health.lastFailure then 0 else health.failures := by
    split
    · exact ⟨history, [], by simp, (streak_nil _).snoc failure (by simp), rfl⟩
    · rename_i within
      obtain ⟨earlier, streak, split, holds, counts, last⟩ := explains.counted
      refine ⟨earlier, streak, split, holds.snoc failure fun other isLast => ?_, counts⟩
      rw [last other isLast]
      exact not_lt.mp within
  have whole : history ++ [call] = earlier ++ (streak ++ [call]) := by
    rw [split, List.append_assoc]
  obtain ⟨failures, lastFailure, marks, stays⟩ := afterFailure_spec monitor health call.now
  rw [← counts] at failures
  have length : ((streak ++ [call]).length : Int) =
      (monitor.afterFailure health call.now).failures := by
    rw [failures, List.length_append, List.length_singleton]
    rfl
  refine ⟨⟨earlier, streak ++ [call], whole, holds, length, by simp [lastFailure]⟩, fun marked => ?_⟩
  by_cases many : monitor.maxFailures ≤ (monitor.afterFailure health call.now).failures
  · rw [(marks many).2]
    exact ⟨earlier, streak, call, [], by rw [whole, List.append_nil], holds, length ▸ many, rfl,
      by simp⟩
  · obtain ⟨before, since⟩ := stays (not_le.mp many)
    rw [since]
    exact (explains.marked (before.symm.trans marked)).snoc failure

/-- A call about a server extends its history and explains the record again. -/
theorem explains_recordAfter {record : Option ServerHealth}
    (explains : ∀ health ∈ record, Explains monitor.maxFailures monitor.failTimeout history health)
    (about : call.isAbout host port = true) :
    ∀ health ∈ monitor.recordAfter call record,
      Explains monitor.maxFailures monitor.failTimeout
        (history ++ [call].filter (HealthCall.isResult host port)) health := by
  intro health found
  rw [recordAfter] at found
  cases kind : call.kind with
  | recordFailure =>
    have isResult : call.isResult host port = true := by simp [HealthCall.isResult, about, kind]
    rw [List.filter_cons_of_pos isResult, List.filter_nil]
    rw [kind] at found
    obtain rfl := Option.some.inj found
    refine Explains.afterFailure ?_ kind
    cases record with
    | none => exact explains_new _ _ _
    | some stored => exact explains stored rfl
  | recordSuccess =>
    rw [kind] at found
    obtain ⟨stored, -, rfl⟩ := Option.map_eq_some_iff.mp found
    exact explains_reset _ stored
  | isAvailable =>
    have noResult : ¬ call.isResult host port = true := by simp [HealthCall.isResult, kind]
    rw [List.filter_cons_of_neg noResult, List.filter_nil, List.append_nil]
    rw [kind] at found
    obtain ⟨stored, isStored, rfl⟩ := Option.map_eq_some_iff.mp found
    split
    · exact explains_reset _ stored
    · exact explains stored isStored

theorem explains_afterCall
    (explains : ∀ health ∈ monitor.servers.get? (key host port),
      Explains monitor.maxFailures monitor.failTimeout history health) (call : HealthCall) :
    ∀ health ∈ (monitor.afterCall call).servers.get? (key host port),
      Explains (monitor.afterCall call).maxFailures (monitor.afterCall call).failTimeout
        (history ++ [call].filter (HealthCall.isResult host port)) health := by
  rw [(afterCall_settings monitor call).1, (afterCall_settings monitor call).2, afterCall_get?]
  by_cases about : call.isAbout host port = true
  · rw [if_pos about]
    exact explains_recordAfter explains about
  · have noResult : ¬ call.isResult host port = true := by simp [HealthCall.isResult, about]
    rw [if_neg about, List.filter_cons_of_neg noResult, List.filter_nil, List.append_nil]
    exact explains

theorem explains_afterCalls
    (explains : ∀ health ∈ monitor.servers.get? (key host port),
      Explains monitor.maxFailures monitor.failTimeout history health) (calls : List HealthCall) :
    ∀ health ∈ (monitor.afterCalls calls).servers.get? (key host port),
      Explains (monitor.afterCalls calls).maxFailures (monitor.afterCalls calls).failTimeout
        (history ++ results host port calls) health := by
  induction calls generalizing monitor history with
  | nil => rwa [results, List.filter_nil, List.append_nil]
  | cons call rest inductionHypothesis =>
    have after := inductionHypothesis (explains_afterCall explains call)
    rw [List.append_assoc, results, ← List.filter_append] at after
    exact after

end

/-- Whatever was called on a monitor: when it refuses a server, the results of the server have a
streak of at least as many failures as mark a server, the last of them not longer ago than the
timeout, and no success after it. Calls about other servers do not influence the answer. -/
theorem refused_has_reason (maxFailures : Int) (failTimeout : Time) (calls : List HealthCall)
    (host : String) (port : Nat) (now : Time) :
    (((new maxFailures failTimeout).afterCalls calls).isAvailable host port now).1 =
        (((new maxFailures failTimeout).afterCalls
          (calls.filter (HealthCall.isAbout host port))).isAvailable host port now).1 ∧
      ((((new maxFailures failTimeout).afterCalls calls).isAvailable host port now).1 = false →
        ∃ since, now - since ≤ failTimeout ∧
          HasReason maxFailures failTimeout (results host port calls) since) := by
  refine ⟨isAvailable_about maxFailures failTimeout calls host port now, fun refused => ?_⟩
  obtain ⟨health, stored, marked, lately⟩ := isAvailable_eq_false_iff.mp refused
  obtain ⟨most, timeout⟩ := afterCalls_settings (new maxFailures failTimeout) calls
  have explains := @explains_afterCalls host port (new maxFailures failTimeout) []
    (fun _ found => by cases found) calls health stored
  rw [timeout] at lately
  rw [most, timeout, List.nil_append] at explains
  exact ⟨health.unavailableSince, lately, explains.marked marked⟩

/-! ### A streak that is long enough -/

/-- The counter has counted every failure of the present streak, and the last of them has set a mark
if it made them enough. -/
def Counts (monitor : HealthMonitor) (host : String) (port : Nat) (count : Nat) (last : Time) :
    Prop :=
  ∃ health, monitor.servers.get? (key host port) = some health ∧ (count : Int) ≤ health.failures ∧
    health.lastFailure = last ∧ (monitor.maxFailures ≤ health.failures →
      health.unavailable = true ∧ health.unavailableSince = last)

/-- The counter has missed a failure of the present streak, and there is no mark. -/
def Misses (monitor : HealthMonitor) (host : String) (port : Nat) (count : Nat) (last : Time) :
    Prop :=
  ∃ health, monitor.servers.get? (key host port) = some health ∧ health.failures < count ∧
    health.lastFailure = last ∧ health.unavailable = false

section

variable {count : Nat} {last : Time}

theorem Counts.recordFailure (counts : monitor.Counts host port count last)
    (about : call.isAbout host port = true) (failure : call.kind = .recordFailure)
    (within : call.now - last ≤ monitor.failTimeout) :
    (monitor.afterCall call).Counts host port (count + 1) call.now := by
  obtain ⟨health, stored, counted, rfl, -⟩ := counts
  refine ⟨monitor.afterFailure health call.now, ?_, ?_⟩
  · rw [afterCall_get?, if_pos about, recordAfter, failure, stored]
    rfl
  · obtain ⟨failures, lastFailure, marks, -⟩ := afterFailure_spec monitor health call.now
    rw [if_neg (not_lt.mpr within)] at failures
    rw [(afterCall_settings monitor call).1]
    exact ⟨by push_cast; omega, lastFailure, marks⟩

theorem Misses.recordFailure (misses : monitor.Misses host port count last)
    (about : call.isAbout host port = true) (failure : call.kind = .recordFailure)
    (within : call.now - last ≤ monitor.failTimeout)
    (room : ((count + 1 : Nat) : Int) ≤ monitor.maxFailures) :
    (monitor.afterCall call).Misses host port (count + 1) call.now := by
  obtain ⟨health, stored, missed, rfl, unmarked⟩ := misses
  refine ⟨monitor.afterFailure health call.now, ?_, ?_⟩
  · rw [afterCall_get?, if_pos about, recordAfter, failure, stored]
    rfl
  · obtain ⟨failures, lastFailure, -, stays⟩ := afterFailure_spec monitor health call.now
    rw [if_neg (not_lt.mpr within)] at failures
    push_cast at room
    exact ⟨by push_cast; omega, lastFailure, (stays (by omega)).1.trans unmarked⟩

/-- A question that finds no old mark leaves the counter alone. -/
theorem Counts.isAvailable (counts : monitor.Counts host port count last)
    (about : call.isAbout host port = true) (asks : call.kind = .isAvailable)
    (noOldMark : FindsNoOldMark host port monitor call) :
    (monitor.afterCall call).Counts host port count last := by
  obtain ⟨health, stored, rest⟩ := counts
  have notOld : ¬ monitor.OldMark health call.now := fun old =>
    absurd (noOldMark asks about health stored old.1) (not_le.mpr old.2)
  refine ⟨health, ?_, ?_⟩
  · rw [afterCall_get?, if_pos about, recordAfter, asks, stored]
    dsimp only
    rw [Option.map_some, if_neg notOld]
  · rwa [(afterCall_settings monitor call).1]

/-- A question that finds an old mark takes away what was counted. -/
theorem Counts.misses (counts : monitor.Counts host port count last) (positive : 0 < count)
    (about : call.isAbout host port = true) (asks : call.kind = .isAvailable)
    (oldMark : ¬ FindsNoOldMark host port monitor call) :
    (monitor.afterCall call).Misses host port count last := by
  obtain ⟨health, stored, -, lastFailure, -⟩ := counts
  have old : monitor.OldMark health call.now := by
    by_contra notOld
    refine oldMark fun _ _ found isFound marked => ?_
    obtain rfl := Option.some.inj (stored.symm.trans isFound)
    exact le_of_not_gt fun late => notOld ⟨marked, late⟩
  refine ⟨{ health with unavailable := false, failures := 0 }, ?_, ?_, lastFailure, rfl⟩
  · rw [afterCall_get?, if_pos about, recordAfter, asks, stored]
    dsimp only
    rw [Option.map_some, if_pos old]
  · exact Int.natCast_pos.mpr positive

theorem Misses.isAvailable (misses : monitor.Misses host port count last)
    (about : call.isAbout host port = true) (asks : call.kind = .isAvailable) :
    (monitor.afterCall call).Misses host port count last := by
  obtain ⟨health, stored, missed, lastFailure, unmarked⟩ := misses
  have notOld : ¬ monitor.OldMark health call.now := fun old =>
    absurd (unmarked.symm.trans old.1) Bool.false_ne_true
  refine ⟨health, ?_, missed, lastFailure, unmarked⟩
  rw [afterCall_get?, if_pos about, recordAfter, asks, stored]
  dsimp only
  rw [Option.map_some, if_neg notOld]

/-- Calls about other servers leave the record alone. -/
theorem afterCall_get?_other (elsewhere : ¬ call.isAbout host port = true) :
    (monitor.afterCall call).servers.get? (key host port) =
      monitor.servers.get? (key host port) := by
  rw [afterCall_get?, if_neg elsewhere]

/-- What a call is to the history of a server. -/
theorem call_cases (host : String) (port : Nat) (call : HealthCall) (rest : List HealthCall) :
    (¬ call.isAbout host port = true ∧
        results host port (call :: rest) = results host port rest) ∨
      (call.isAbout host port = true ∧ call.kind = .isAvailable ∧
        results host port (call :: rest) = results host port rest) ∨
      (call.isAbout host port = true ∧ call.kind ≠ .isAvailable ∧
        results host port (call :: rest) = call :: results host port rest) := by
  unfold results
  by_cases about : call.isAbout host port = true
  · by_cases asks : call.kind = .isAvailable
    · exact .inr (.inl ⟨about, asks, List.filter_cons_of_neg (by simp [HealthCall.isResult, asks])⟩)
    · exact .inr (.inr ⟨about, asks,
        List.filter_cons_of_pos (by simp [HealthCall.isResult, about, asks])⟩)
  · exact .inl ⟨about, List.filter_cons_of_neg (by simp [HealthCall.isResult, about])⟩

variable {latest : HealthCall} {rest : List HealthCall}

theorem misses_afterCalls (streak : Streak monitor.failTimeout (latest :: results host port rest))
    (room : ((count + (results host port rest).length : Nat) : Int) ≤ monitor.maxFailures)
    (misses : monitor.Misses host port count latest.now) :
    (monitor.afterCalls rest).Misses host port (count + (results host port rest).length)
      (lastTime latest.now (results host port rest)) := by
  induction rest generalizing monitor count latest with
  | nil => exact misses
  | cons call rest inductionHypothesis =>
    obtain ⟨most, timeout⟩ := afterCall_settings monitor call
    have goesOn := @inductionHypothesis (monitor.afterCall call)
    rw [most, timeout] at goesOn
    rcases call_cases host port call rest with
      ⟨elsewhere, same⟩ | ⟨about, asks, same⟩ | ⟨about, isResult, same⟩
    · rw [same] at streak room ⊢
      refine goesOn streak room ?_
      rwa [Misses, afterCall_get?_other elsewhere]
    · rw [same] at streak room ⊢
      exact goesOn streak room (misses.isAvailable about asks)
    · rw [same] at streak room ⊢
      obtain ⟨failure, within, later⟩ := streak.tail
      rw [List.length_cons, Nat.add_comm _ 1, ← Nat.add_assoc] at room ⊢
      rw [lastTime_cons]
      refine goesOn later room (misses.recordFailure about failure within ?_)
      push_cast at room ⊢
      omega

/-- As long as no question finds an old mark, the counter counts the streak; from such a question on
it misses some of it. -/
theorem counts_afterCalls (streak : Streak monitor.failTimeout (latest :: results host port rest))
    (room : ((count + (results host port rest).length : Nat) : Int) ≤ monitor.maxFailures)
    (positive : 0 < count) (counts : monitor.Counts host port count latest.now) :
    (HoldsAlong step (FindsNoOldMark host port) monitor rest ∧
        (monitor.afterCalls rest).Counts host port (count + (results host port rest).length)
          (lastTime latest.now (results host port rest))) ∨
      (¬ HoldsAlong step (FindsNoOldMark host port) monitor rest ∧
        (monitor.afterCalls rest).Misses host port (count + (results host port rest).length)
          (lastTime latest.now (results host port rest))) := by
  induction rest generalizing monitor count latest with
  | nil => exact .inl ⟨trivial, counts⟩
  | cons call rest inductionHypothesis =>
    obtain ⟨most, timeout⟩ := afterCall_settings monitor call
    have goesOn := @inductionHypothesis (monitor.afterCall call)
    rw [most, timeout] at goesOn
    have stepped : step monitor call = some (monitor.afterCall call) := rfl
    rw [holdsAlong_cons stepped]
    rcases call_cases host port call rest with
      ⟨elsewhere, same⟩ | ⟨about, asks, same⟩ | ⟨about, isResult, same⟩
    · rw [same] at streak room ⊢
      have passes : FindsNoOldMark host port monitor call := fun _ about => absurd about elsewhere
      simp only [passes, true_and]
      refine goesOn streak room positive ?_
      rwa [Counts, afterCall_get?_other elsewhere, most]
    · rw [same] at streak room ⊢
      by_cases passes : FindsNoOldMark host port monitor call
      · simp only [passes, true_and]
        exact goesOn streak room positive (counts.isAvailable about asks passes)
      · refine .inr ⟨fun both => passes both.1, ?_⟩
        refine misses_afterCalls (by rwa [timeout]) (by rwa [most]) ?_
        exact counts.misses positive about asks passes
    · rw [same] at streak room ⊢
      have passes : FindsNoOldMark host port monitor call := fun asks => absurd asks isResult
      obtain ⟨failure, within, later⟩ := streak.tail
      rw [List.length_cons, Nat.add_comm _ 1, ← Nat.add_assoc] at room ⊢
      simp only [passes, true_and, lastTime_cons]
      exact goesOn later room (Nat.zero_lt_succ _) (counts.recordFailure about failure within)

end

/-- A first failure is counted, whatever was recorded before it. -/
theorem counts_first (past : List HealthCall) (maxFailures : Int) (failTimeout : Time)
    (about : call.isAbout host port = true) (failure : call.kind = .recordFailure) :
    (((new maxFailures failTimeout).afterCalls past).afterCall call).Counts host port 1
      call.now := by
  generalize isMonitor : (new maxFailures failTimeout).afterCalls past = monitor
  have nonnegative : ∀ health ∈ monitor.servers.get? (key host port), 0 ≤ health.failures := by
    intro health stored
    rw [← isMonitor] at stored
    obtain ⟨-, streak, -, -, length, -⟩ := (@explains_afterCalls host port
      (new maxFailures failTimeout) [] (fun _ found => by cases found) past health stored).counted
    omega
  have counted : 0 ≤ ((monitor.servers.get? (key host port)).getD
      (.new call.host call.port)).failures := by
    cases stored : monitor.servers.get? (key host port) with
    | none => exact le_refl _
    | some health => exact nonnegative health stored
  refine ⟨monitor.afterFailure ((monitor.servers.get? (key host port)).getD
    (.new call.host call.port)) call.now, ?_, ?_⟩
  · rw [afterCall_get?, if_pos about, recordAfter, failure]
  · obtain ⟨failures, lastFailure, marks, -⟩ := afterFailure_spec monitor
      ((monitor.servers.get? (key host port)).getD (.new call.host call.port)) call.now
    rw [(afterCall_settings monitor call).1]
    refine ⟨?_, lastFailure, marks⟩
    rw [failures]
    split
    · exact le_refl _
    · push_cast
      omega

/-- The last results of a server are as many failures as mark a server, each within the timeout of
the one before. At the time of the last one the server is refused if and only if the timeout is not
negative and no question about the server since the first one found an old mark. -/
theorem streak_refused_iff {maxFailures : Int} {failTimeout : Time} (past rest : List HealthCall)
    (first : HealthCall) (host : String) (port : Nat) (now : Time)
    (about : first.isAbout host port = true)
    (streak : Streak failTimeout (first :: results host port rest))
    (enough : ((first :: results host port rest).length : Int) = maxFailures)
    (clock : ClockRuns (past ++ first :: rest) now)
    (atLast : now = lastTime first.now (results host port rest)) :
    (((new maxFailures failTimeout).afterCalls (past ++ first :: rest)).isAvailable host port
        now).1 = false ↔
      0 ≤ failTimeout ∧ HoldsAlong step (FindsNoOldMark host port)
        ((new maxFailures failTimeout).afterCalls (past ++ [first])) rest := by
  obtain ⟨most, timeout⟩ := afterCalls_settings (new maxFailures failTimeout) (past ++ [first])
  obtain ⟨mostEnd, timeoutEnd⟩ :=
    afterCalls_settings (new maxFailures failTimeout) (past ++ first :: rest)
  have split : (new maxFailures failTimeout).afterCalls (past ++ first :: rest) =
      ((new maxFailures failTimeout).afterCalls (past ++ [first])).afterCalls rest := by
    rw [afterCalls, afterCalls, afterCalls, ← List.foldl_append, List.append_assoc,
      List.singleton_append]
  have started : ((new maxFailures failTimeout).afterCalls (past ++ [first])).Counts host port 1
      first.now := by
    rw [afterCalls, List.foldl_append]
    exact counts_first past maxFailures failTimeout about (streak.failures first (.head _))
  have ended := counts_afterCalls (by rwa [timeout]) (by
    rw [most, Nat.add_comm, ← List.length_cons, enough]
    exact le_refl _) Nat.one_pos started
  rw [Nat.add_comm, ← @List.length_cons _ first, ← split, ← atLast] at ended
  constructor
  · intro refused
    have nonnegative : 0 ≤ failTimeout := by
      obtain ⟨since, lately, earlier, streak, last, later, split, -, -, rfl, -⟩ :=
        (refused_has_reason maxFailures failTimeout _ host port now).2 refused
      have member : last ∈ results host port (past ++ first :: rest) := by
        rw [split]
        simp
      exact le_trans (sub_nonneg.mpr (clock.le (List.mem_of_mem_filter member))) lately
    refine ⟨nonnegative, ?_⟩
    rcases ended with ⟨along, -⟩ | ⟨-, health, stored, -, -, unmarked⟩
    · exact along
    · obtain ⟨found, isFound, marked, -⟩ := isAvailable_eq_false_iff.mp refused
      obtain rfl := Option.some.inj (stored.symm.trans isFound)
      exact absurd (unmarked.symm.trans marked) Bool.false_ne_true
  · rintro ⟨nonnegative, along⟩
    obtain ⟨-, health, stored, counted, -, marks⟩ := ended.resolve_right fun broken =>
      broken.1 along
    rw [enough] at counted
    rw [mostEnd] at marks
    obtain ⟨marked, since⟩ := marks counted
    refine isAvailable_eq_false_iff.mpr ⟨health, stored, marked, ?_⟩
    rw [since, timeoutEnd, sub_self]
    exact nonnegative

/-! ### Histories of one server -/

def failureAt (now : Time) : HealthCall := ⟨.recordFailure, "10.0.0.1", 80, now⟩

def questionAt (now : Time) : HealthCall := ⟨.isAvailable, "10.0.0.1", 80, now⟩

/-- Three failures mark a server, and another server's success does not matter. -/
theorem refused_has_reason_three :
    ∃ since, 103 - since ≤ 10 ∧ HasReason 3 10
      (results "10.0.0.1" 80 [failureAt 100, failureAt 101, ⟨.recordSuccess, "10.0.0.2", 80, 101⟩,
        failureAt 102]) since :=
  (refused_has_reason 3 10 _ "10.0.0.1" 80 103).2 (by decide)

/-- Questions between the failures do no harm without an old mark. -/
theorem streak_refused_three :
    (((new 3 10).afterCalls ([] ++ failureAt 100 :: [questionAt 100, failureAt 101,
      questionAt 102, failureAt 102])).isAvailable "10.0.0.1" 80 102).1 = false :=
  (streak_refused_iff [] [questionAt 100, failureAt 101, questionAt 102, failureAt 102]
    (failureAt 100) "10.0.0.1" 80 102 (by decide) (by decide) (by decide) (by decide)
    (by decide)).mpr ⟨by decide, by decide⟩

/-- A server is marked and fails again after a long pause. A question then takes the old mark away,
and with it the first failure of the new streak: after three failures in a row the server counts as
available. -/
theorem streak_not_refused :
    Streak 10 (failureAt 200 ::
        results "10.0.0.1" 80 [questionAt 201, failureAt 202, failureAt 203]) ∧
      (failureAt 200 ::
        results "10.0.0.1" 80 [questionAt 201, failureAt 202, failureAt 203]).length = 3 ∧
      ClockRuns ([failureAt 100, failureAt 101, failureAt 102] ++ failureAt 200 ::
        [questionAt 201, failureAt 202, failureAt 203]) 203 ∧
      (((new 3 10).afterCalls ([failureAt 100, failureAt 101, failureAt 102] ++ failureAt 200 ::
        [questionAt 201, failureAt 202, failureAt 203])).isAvailable "10.0.0.1" 80 203).1 =
          true := by
  decide

end HealthMonitor

end LocalNetwork
