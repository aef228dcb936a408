/-
This file is about the rate limiter of the proxy. A key has a window with a count, which the
first call more than a second after its start replaces by a new one. In each window the
first calls are allowed, as many as the rate and the burst together.

The windows are fixed, and the second of a claim about every second slides: calls at the end
of one window and at the start of the next lie within one second. The file finds the exact
condition on the calls: a window may be replaced only more than a second after every call
that was counted within the limit. As long as all calls meet it, no second sees more calls
than the limit; and after a run of such calls, calls at a time that does not meet it exceed
the limit.

Times and rates are floats in the program and rational numbers here, with exact sums and
differences. The difference of two readings of the clock is exact in floats as well, while a
sum of a rate and a burst that are far apart gets rounded. Every reading of the clock is a
parameter.
-/

import LocalNetwork.Dict
import LocalNetwork.Transition
import Mathlib.Data.Rat.Floor

namespace LocalNetwork

/-- A window; its start is an exact number in place of a float. -/
structure RateWindow where
  count : Nat
  windowStart : ℚ

structure RateLimiter where
  zoneSize : Int
  windows : Dict String RateWindow
  /-- When the burst of a key expires. -/
  bursts : Dict String ℚ

namespace RateLimiter

def new (zoneSize : Int) : RateLimiter := ⟨zoneSize, Dict.empty, Dict.empty⟩

/-- The next call for a key starts a new window. -/
def startsWindow (limiter : RateLimiter) (key : String) (now : ℚ) : Bool :=
  match limiter.windows.get? key with
  | none => true
  | some window => decide (1 < now - window.windowStart)

/-- The window in which a call for a key counts, itself counted; a new one reads the clock again. -/
def currentWindow (limiter : RateLimiter) (key : String) (now started : ℚ) : RateWindow :=
  match limiter.windows.get? key with
  | none => ⟨1, started⟩
  | some window =>
    if 1 < now - window.windowStart then ⟨1, started⟩
    else { window with count := window.count + 1 }

/-- `allow`, with its two readings of the clock. The sum of the rate and the burst is not rounded. -/
def allow (limiter : RateLimiter) (key : String) (rate burst now started : ℚ) :
    Bool × RateLimiter :=
  if rate ≤ 0 then (true, limiter)
  else
    let window := limiter.currentWindow key now started
    let limiter := { limiter with windows := limiter.windows.insert key window }
    if window.count ≤ rate + max 0 burst then (true, limiter)
    else if 0 < burst ∧ now < (limiter.bursts.get? key).getD 0 then (true, limiter)
    else (false, limiter)

def setBurst (limiter : RateLimiter) (key : String) (burstDuration now : ℚ) : RateLimiter :=
  { limiter with bursts := limiter.bursts.insert key (now + burstDuration) }

def cleanup (limiter : RateLimiter) (now : ℚ) : RateLimiter :=
  let windows := limiter.windows.filter fun _ window => !decide (10 < now - window.windowStart)
  let bursts := limiter.bursts.filter fun _ expiry => !decide (expiry < now)
  -- The oldest keys go first; a negative number of them is none.
  let excess := (windows.size - limiter.zoneSize).toNat
  { limiter with windows := (windows.keys.take excess).foldl Dict.erase windows, bursts := bursts }

/-- A call on a limiter, with its readings of the clock. -/
inductive Call where
  | allow (key : String) (rate burst now started : ℚ)
  | setBurst (key : String) (burstDuration now : ℚ)
  | cleanup (now : ℚ)

def afterCall (limiter : RateLimiter) : Call → RateLimiter
  | .allow key rate burst now started => (limiter.allow key rate burst now started).2
  | .setBurst key burstDuration now => limiter.setBurst key burstDuration now
  | .cleanup now => limiter.cleanup now

end RateLimiter

/-! ### Watching one key -/

/-- A limiter with its last reading of the clock and the history of one key, the latest first: the
times of the calls that were counted within the limit of their window, and of those allowed. -/
structure Watch where
  limiter : RateLimiter
  clock : ℚ
  counted : List ℚ
  allowed : List ℚ

namespace Watch

/-- A new limiter. -/
def new (zoneSize : Int) (clock : ℚ) : Watch := ⟨.new zoneSize, clock, [], []⟩

/-- A call for the key is among the first ones of its window, as many as the limit. -/
def countsWithin (watch : Watch) (key : String) (limit now started : ℚ) : Bool :=
  decide ((watch.limiter.currentWindow key now started).count ≤ limit)

/-- A call on the limiter, noted if it is for the key. -/
def step (key : String) (watch : Watch) (call : RateLimiter.Call) : Option Watch :=
  match call with
  | .allow other rate burst now started =>
    let answer := watch.limiter.allow other rate burst now started
    if other = key then
      some ⟨answer.2, started,
        if watch.countsWithin key (rate + burst) now started then now :: watch.counted
        else watch.counted,
        if answer.1 then now :: watch.allowed else watch.allowed⟩
    else some ⟨answer.2, started, watch.counted, watch.allowed⟩
  | .setBurst _ _ now => some { watch with limiter := watch.limiter.afterCall call, clock := now }
  | .cleanup now => some { watch with limiter := watch.limiter.afterCall call, clock := now }

/-- The clock does not go back, every call for the key has the one rate and the one burst, and no
burst is granted to it. -/
def Admissible (key : String) (rate burst : ℚ) (watch : Watch) : RateLimiter.Call → Prop
  | .allow other otherRate otherBurst now started =>
    watch.clock ≤ now ∧ now ≤ started ∧ (other = key → otherRate = rate ∧ otherBurst = burst)
  | .setBurst other _ now => watch.clock ≤ now ∧ other ≠ key
  | .cleanup now => watch.clock ≤ now

instance decidableAdmissible (key : String) (rate burst : ℚ) (watch : Watch) :
    (call : RateLimiter.Call) → Decidable (Admissible key rate burst watch call)
  | .allow other otherRate otherBurst now started =>
    inferInstanceAs (Decidable (watch.clock ≤ now ∧ now ≤ started ∧
      (other = key → otherRate = rate ∧ otherBurst = burst)))
  | .setBurst other _ now => inferInstanceAs (Decidable (watch.clock ≤ now ∧ other ≠ key))
  | .cleanup now => inferInstanceAs (Decidable (watch.clock ≤ now))

/-- A call for the key that starts a new window comes more than a second after every call that was
counted within the limit, and the clock is not negative where a burst counts. -/
def StartsLate (key : String) (watch : Watch) : RateLimiter.Call → Prop
  | .allow other _ burst now _ =>
    other = key → (burst = 0 ∨ 0 ≤ now) ∧
      (watch.limiter.startsWindow key now = true → ∀ time ∈ watch.counted, 1 < now - time)
  | .setBurst .. => True
  | .cleanup _ => True

instance decidableStartsLate (key : String) (watch : Watch) :
    (call : RateLimiter.Call) → Decidable (StartsLate key watch call)
  | .allow other _ burst now _ =>
    inferInstanceAs (Decidable (other = key → (burst = 0 ∨ 0 ≤ now) ∧
      (watch.limiter.startsWindow key now = true → ∀ time ∈ watch.counted, 1 < now - time)))
  | .setBurst .. => isTrue trivial
  | .cleanup _ => isTrue trivial

end Watch

/-- The times within a second from a point on. -/
def withinSecond (point : ℚ) (times : List ℚ) : List ℚ :=
  times.filter fun time => decide (point ≤ time) && decide (time ≤ point + 1)

/-- In no second there are more times than the limit. -/
def WithinLimit (limit : ℚ) (times : List ℚ) : Prop :=
  ∀ point, ((withinSecond point times).length : ℚ) ≤ limit

theorem withinLimit_nil {limit : ℚ} (nonnegative : 0 ≤ limit) : WithinLimit limit [] := fun _ => by
  rw [withinSecond, List.filter_nil, List.length_nil, Nat.cast_zero]
  exact nonnegative

/-- Late times that are more than a second after the early ones share no second with these. -/
theorem withinLimit_append {limit begun : ℚ} {late early : List ℚ}
    (after : ∀ time ∈ late, begun ≤ time) (before : ∀ time ∈ early, 1 < begun - time)
    (few : (late.length : ℚ) ≤ limit) (within : WithinLimit limit early) :
    WithinLimit limit (late ++ early) := by
  intro point
  rw [withinSecond, List.filter_append, List.length_append]
  by_cases reached : ∃ time ∈ late, time ≤ point + 1
  · -- The second reaches a late time, so that every early one is before it.
    obtain ⟨time, member, bound⟩ := reached
    have noEarly : early.filter (fun other => decide (point ≤ other) && decide (other ≤ point + 1)) =
        [] := by
      refine List.filter_eq_nil_iff.mpr fun other otherMember inside => ?_
      rw [Bool.and_eq_true, decide_eq_true_iff, decide_eq_true_iff] at inside
      have far := before other otherMember
      have begins := after time member
      linarith
    rw [noEarly, List.length_nil, Nat.add_zero]
    exact le_trans (Nat.cast_le.mpr (List.length_filter_le _ _)) few
  · have noLate : late.filter (fun other => decide (point ≤ other) && decide (other ≤ point + 1)) =
        [] := by
      refine List.filter_eq_nil_iff.mpr fun other member inside => reached ⟨other, member, ?_⟩
      rw [Bool.and_eq_true, decide_eq_true_iff, decide_eq_true_iff] at inside
      exact inside.2
    rw [noLate, List.length_nil, Nat.zero_add]
    exact within point

/-- Many calls at one time inside a second. -/
theorem not_withinLimit_replicate {limit now point : ℚ} {count : Nat} {times : List ℚ}
    (after : point ≤ now) (before : now ≤ point + 1)
    (many : limit < count + ((withinSecond point times).length : ℚ)) :
    ¬ WithinLimit limit (List.replicate count now ++ times) := by
  intro within
  have bound := within point
  rw [withinSecond, List.filter_append, List.filter_replicate_of_pos (by simp [after, before]),
    List.length_append, List.length_replicate, Nat.cast_add] at bound
  exact absurd many (not_lt.mpr bound)

/-! ### What the calls do to one key -/

namespace RateLimiter

variable {limiter : RateLimiter} {key : String} {rate burst now started : ℚ}

theorem currentWindow_of_starts (starts : limiter.startsWindow key now = true) (started : ℚ) :
    limiter.currentWindow key now started = ⟨1, started⟩ := by
  unfold startsWindow at starts
  unfold currentWindow
  cases found : limiter.windows.get? key with
  | none => rfl
  | some window =>
    rw [found] at starts
    exact if_pos (of_decide_eq_true starts)

theorem currentWindow_of_continues (continues : limiter.startsWindow key now = false) (started : ℚ) :
    ∃ window, limiter.windows.get? key = some window ∧
      limiter.currentWindow key now started = { window with count := window.count + 1 } := by
  unfold startsWindow at continues
  unfold currentWindow
  cases found : limiter.windows.get? key with
  | none =>
    rw [found] at continues
    cases continues
  | some window =>
    rw [found] at continues
    exact ⟨window, rfl, if_neg (of_decide_eq_false continues)⟩

theorem allow_bursts (limiter : RateLimiter) (key : String) (rate burst now started : ℚ) :
    (limiter.allow key rate burst now started).2.bursts = limiter.bursts := by
  unfold allow
  dsimp only
  split_ifs <;> rfl

theorem allow_windows (limiter : RateLimiter) (key : String) (burst now started : ℚ)
    (positive : 0 < rate) :
    (limiter.allow key rate burst now started).2.windows =
      limiter.windows.insert key (limiter.currentWindow key now started) := by
  unfold allow
  rw [if_neg (not_le.mpr positive)]
  dsimp only
  split_ifs <;> rfl

/-- A call leaves the windows of the other keys. -/
theorem allow_windows_of_ne {other : String} (different : key ≠ other) :
    (limiter.allow other rate burst now started).2.windows.get? key = limiter.windows.get? key := by
  rcases le_or_gt rate 0 with none | positive
  · rw [allow, if_pos none]
  · rw [allow_windows limiter other burst now started positive, Dict.get?_insert_of_ne _ _ different]

/-- Without a burst granted, a call is allowed if it is counted within the limit. -/
theorem allow_fst (positive : 0 < rate) (nonnegative : 0 ≤ burst)
    (noBurst : limiter.bursts.get? key = none) (clock : burst = 0 ∨ 0 ≤ now) :
    (limiter.allow key rate burst now started).1 =
      decide (((limiter.currentWindow key now started).count : ℚ) ≤ rate + burst) := by
  unfold allow
  rw [if_neg (not_le.mpr positive), max_eq_right nonnegative]
  dsimp only
  have noneLeft : ¬ (0 < burst ∧ now < (limiter.bursts.get? key).getD 0) := by
    rw [noBurst, Option.getD_none]
    rintro ⟨some, negative⟩
    rcases clock with zero | late
    · exact some.ne' zero
    · exact not_lt.mpr late negative
  rw [if_neg noneLeft]
  split_ifs with within
  · exact (decide_eq_true within).symm
  · exact (decide_eq_false within).symm

theorem cleanup_windows {window : RateWindow}
    (found : (limiter.cleanup now).windows.get? key = some window) :
    limiter.windows.get? key = some window := by
  unfold cleanup at found
  dsimp only at found
  rw [Dict.get?_foldl_erase] at found
  split at found
  · cases found
  · rw [Dict.get?_filter] at found
    exact (Option.filter_eq_some_iff.mp found).1

theorem cleanup_bursts (noBurst : limiter.bursts.get? key = none) :
    (limiter.cleanup now).bursts.get? key = none := by
  unfold cleanup
  dsimp only
  rw [Dict.get?_filter, noBurst]
  rfl

end RateLimiter

/-! ### Runs -/

namespace Watch

variable {key : String} {rate burst limit : ℚ} {watch next : Watch}

/-- The invariant: what was allowed is what was counted. The latest of these times are of one window
and no more than the limit; the others are more than a second older than its first call. -/
structure Paced (key : String) (limit : ℚ) (watch : Watch) : Prop where
  noBurst : watch.limiter.bursts.get? key = none
  allowed : watch.allowed = watch.counted
  past : ∀ time ∈ watch.counted, time ≤ watch.clock
  apart : ∃ recent older begun, watch.counted = recent ++ older ∧ begun ≤ watch.clock ∧
    (∀ time ∈ recent, begun ≤ time) ∧ (∀ time ∈ older, 1 < begun - time) ∧
      (recent.length : ℚ) ≤ limit ∧ WithinLimit limit older ∧
        ∀ window, watch.limiter.windows.get? key = some window → recent.length ≤ window.count

theorem paced_new (zoneSize : Int) (clock : ℚ) (nonnegative : 0 ≤ limit) :
    Paced key limit (.new zoneSize clock) :=
  ⟨rfl, rfl, nofun, [], [], clock, rfl, le_rfl, nofun, nofun,
    by rw [List.length_nil, Nat.cast_zero]; exact nonnegative, withinLimit_nil nonnegative, nofun⟩

theorem Paced.withinLimit (paced : Paced key limit watch) : WithinLimit limit watch.allowed := by
  obtain ⟨recent, older, begun, split, -, after, before, few, within, -⟩ := paced.apart
  rw [paced.allowed, split]
  exact withinLimit_append after before few within

/-- What happens to the other keys, and a lost window, do not matter to the key. -/
theorem Paced.of_fewer (paced : Paced key limit watch) {limiter : RateLimiter} {clock : ℚ}
    (later : watch.clock ≤ clock) (noBurst : limiter.bursts.get? key = none)
    (fewer : ∀ window, limiter.windows.get? key = some window →
      watch.limiter.windows.get? key = some window) :
    Paced key limit ⟨limiter, clock, watch.counted, watch.allowed⟩ := by
  obtain ⟨recent, older, begun, split, started, after, before, few, within, counts⟩ := paced.apart
  exact ⟨noBurst, paced.allowed, fun time member => (paced.past time member).trans later,
    recent, older, begun, split, started.trans later, after, before, few, within,
    fun window found => counts window (fewer window found)⟩

/-- Before a call that starts late the counted times are apart by the window of the call. -/
theorem Paced.apart_now (paced : Paced key limit watch) (nonnegative : 0 ≤ limit)
    {now : ℚ} (later : watch.clock ≤ now) (started : ℚ)
    (late : watch.limiter.startsWindow key now = true → ∀ time ∈ watch.counted, 1 < now - time) :
    ∃ recent older begun, watch.counted = recent ++ older ∧ begun ≤ now ∧
      (∀ time ∈ recent, begun ≤ time) ∧ (∀ time ∈ older, 1 < begun - time) ∧
        (recent.length : ℚ) ≤ limit ∧ WithinLimit limit older ∧
          recent.length + 1 ≤ (watch.limiter.currentWindow key now started).count := by
  cases starts : watch.limiter.startsWindow key now with
  | true =>
    rw [RateLimiter.currentWindow_of_starts starts]
    exact ⟨[], watch.counted, now, rfl, le_rfl, nofun, late starts,
      by rw [List.length_nil, Nat.cast_zero]; exact nonnegative,
      paced.allowed ▸ paced.withinLimit, le_rfl⟩
  | false =>
    obtain ⟨window, found, current⟩ := RateLimiter.currentWindow_of_continues starts started
    obtain ⟨recent, older, begun, split, before, after, apart, few, within, counts⟩ := paced.apart
    rw [current]
    exact ⟨recent, older, begun, split, before.trans later, after, apart, few, within,
      Nat.succ_le_succ (counts window found)⟩

/-- A call for the key that starts late. -/
theorem Paced.allow (paced : Paced key (rate + burst) watch) (positive : 0 < rate)
    (nonnegative : 0 ≤ burst) {now started : ℚ} (later : watch.clock ≤ now)
    (reading : now ≤ started) (clock : burst = 0 ∨ 0 ≤ now)
    (late : watch.limiter.startsWindow key now = true → ∀ time ∈ watch.counted, 1 < now - time)
    (stepped : watch.step key (.allow key rate burst now started) = some next) :
    Paced key (rate + burst) next := by
  rw [step, if_pos rfl, RateLimiter.allow_fst positive nonnegative paced.noBurst clock,
    paced.allowed] at stepped
  obtain rfl := Option.some.inj stepped
  obtain ⟨recent, older, begun, split, begins, after, before, few, within, room⟩ :=
    paced.apart_now (add_nonneg positive.le nonnegative) later started late
  have windows := RateLimiter.allow_windows watch.limiter key burst now started positive
  refine ⟨?_, rfl, fun time member => ?_, ?_⟩
  · rw [RateLimiter.allow_bursts]
    exact paced.noBurst
  · refine le_trans ?_ reading
    dsimp only at member
    split at member
    · rcases List.mem_cons.mp member with rfl | old
      · exact le_rfl
      · exact (paced.past time old).trans later
    · exact (paced.past time member).trans later
  · dsimp only
    rw [windows, countsWithin]
    split
    · rename_i counts
      refine ⟨now :: recent, older, begun, by rw [split]; rfl, begins.trans reading, ?_, before,
        le_trans (Nat.cast_le.mpr room) (of_decide_eq_true counts), within, ?_⟩
      · exact List.forall_mem_cons.mpr ⟨begins, after⟩
      · intro window found
        rw [Dict.get?_insert_self, Option.some_inj] at found
        exact found ▸ room
    · refine ⟨recent, older, begun, split, begins.trans reading, after, before, few, within, ?_⟩
      intro window found
      rw [Dict.get?_insert_self, Option.some_inj] at found
      exact found ▸ (Nat.le_succ _).trans room

/-- Every call that starts late keeps the invariant. -/
theorem Paced.step (paced : Paced key (rate + burst) watch) (positive : 0 < rate)
    (nonnegative : 0 ≤ burst) {call : RateLimiter.Call}
    (admissible : Admissible key rate burst watch call) (late : StartsLate key watch call)
    (stepped : watch.step key call = some next) : Paced key (rate + burst) next := by
  cases call with
  | allow other otherRate otherBurst now started =>
    obtain ⟨later, reading, same⟩ := admissible
    by_cases here : other = key
    · subst here
      obtain ⟨rfl, rfl⟩ := same rfl
      obtain ⟨clock, starts⟩ := late rfl
      exact paced.allow positive nonnegative later reading clock starts stepped
    · rw [Watch.step, if_neg here] at stepped
      obtain rfl := Option.some.inj stepped
      refine paced.of_fewer (later.trans reading) ?_ fun window found => ?_
      · rw [RateLimiter.allow_bursts]
        exact paced.noBurst
      · rwa [RateLimiter.allow_windows_of_ne (Ne.symm here)] at found
  | setBurst other burstDuration now =>
    obtain ⟨later, different⟩ := admissible
    obtain rfl := Option.some.inj stepped
    refine paced.of_fewer later ?_ fun window found => found
    exact (Dict.get?_insert_of_ne _ _ different.symm).trans paced.noBurst
  | cleanup now =>
    obtain rfl := Option.some.inj stepped
    exact paced.of_fewer admissible (RateLimiter.cleanup_bursts paced.noBurst)
      fun window found => RateLimiter.cleanup_windows found

/-! ### Calls that start early -/

/-- Calls at one time, of which each is allowed: a condition counts how many of them are left. -/
theorem allowed_replicate {now : ℚ} (remaining : Nat → Watch → Prop) (count : Nat)
    (each : ∀ count watch, remaining (count + 1) watch →
      ∃ next, watch.step key (.allow key rate burst now now) = some next ∧
        next.allowed = now :: watch.allowed ∧ next.clock = now ∧ remaining count next)
    (left : remaining count watch) (later : watch.clock ≤ now) :
    ∃ final,
      HoldsAlong (step key) (Admissible key rate burst) watch
          (List.replicate count (.allow key rate burst now now)) ∧
        runFrom (step key) watch (List.replicate count (.allow key rate burst now now)) =
            some final ∧
          final.allowed = List.replicate count now ++ watch.allowed := by
  induction count generalizing watch with
  | zero => exact ⟨watch, trivial, rfl, rfl⟩
  | succ count inductionHypothesis =>
    obtain ⟨next, stepped, allowed, clock, leftNext⟩ := each count watch left
    obtain ⟨final, along, ran, allowedRest⟩ := inductionHypothesis leftNext clock.le
    refine ⟨final, (holdsAlong_cons stepped).mpr ⟨⟨later, le_rfl, fun _ => ⟨rfl, rfl⟩⟩, along⟩,
      runFrom_cons.mpr ⟨next, stepped, ran⟩, ?_⟩
    rw [allowedRest, allowed, List.replicate_succ', List.append_assoc, List.singleton_append]

/-- Before the time zero a burst lets every call through. -/
theorem allowed_negative {now : ℚ} (positive : 0 < rate) (some : 0 < burst) (negative : now < 0)
    (noBurst : watch.limiter.bursts.get? key = none) :
    ∃ next, watch.step key (.allow key rate burst now now) = .some next ∧
      next.allowed = now :: watch.allowed ∧ next.clock = now ∧
        next.limiter.bursts.get? key = none := by
  have answer : (watch.limiter.allow key rate burst now now).1 = true := by
    unfold RateLimiter.allow
    rw [if_neg (not_le.mpr positive)]
    dsimp only
    split
    · rfl
    · rw [noBurst, Option.getD_none, if_pos ⟨some, negative⟩]
  refine ⟨_, by rw [step, if_pos rfl], ?_, rfl, ?_⟩
  · rw [answer, if_pos rfl]
  · rw [RateLimiter.allow_bursts]
    exact noBurst

/-- While the limit of the window is not reached a call is allowed. -/
theorem allowed_within {now : ℚ} {before : Nat} (positive : 0 < rate) (nonnegative : 0 ≤ burst)
    (current : watch.limiter.currentWindow key now now = ⟨before + 1, now⟩)
    (room : ((before + 1 : Nat) : ℚ) ≤ rate + burst) :
    ∃ next, watch.step key (.allow key rate burst now now) = some next ∧
      next.allowed = now :: watch.allowed ∧ next.clock = now ∧
        next.limiter.currentWindow key now now = ⟨before + 1 + 1, now⟩ := by
  have answer : (watch.limiter.allow key rate burst now now).1 = true := by
    unfold RateLimiter.allow
    rw [if_neg (not_le.mpr positive), current, max_eq_right nonnegative, if_pos room]
  refine ⟨_, by rw [step, if_pos rfl], ?_, rfl, ?_⟩
  · rw [answer, if_pos rfl]
  · unfold RateLimiter.currentWindow
    rw [RateLimiter.allow_windows _ _ _ _ _ positive, Dict.get?_insert_self, current]
    exact if_neg (by rw [sub_self]; exact not_lt.mpr zero_le_one)

/-- Where a call does not start late, calls at its time exceed the limit. -/
theorem Paced.exceeded (paced : Paced key (rate + burst) watch) (positive : 0 < rate)
    (nonnegative : 0 ≤ burst) {now : ℚ} (later : watch.clock ≤ now)
    (early : ¬ StartsLate key watch (.allow key rate burst now now)) :
    ∃ count final,
      HoldsAlong (Watch.step key) (Admissible key rate burst) watch
          (List.replicate count (.allow key rate burst now now)) ∧
        runFrom (Watch.step key) watch (List.replicate count (.allow key rate burst now now)) =
            some final ∧
          ¬ WithinLimit (rate + burst) final.allowed := by
  have limit : 0 ≤ rate + burst := add_nonneg positive.le nonnegative
  have floor : rate + burst < (⌊rate + burst⌋₊ : ℚ) + 1 := Nat.lt_floor_add_one _
  by_cases clock : burst = 0 ∨ 0 ≤ now
  · have starts : watch.limiter.startsWindow key now = true ∧
        ∃ time ∈ watch.counted, ¬ 1 < now - time := by
      by_contra none
      refine early fun _ => ⟨clock, fun starts time member => ?_⟩
      by_contra near
      exact none ⟨starts, time, member, near⟩
    obtain ⟨starts, time, member, near⟩ := starts
    have current := RateLimiter.currentWindow_of_starts starts now
    obtain ⟨final, along, ran, allowed⟩ := allowed_replicate
      (fun left watch => ∃ before, before + left = ⌊rate + burst⌋₊ ∧
        watch.limiter.currentWindow key now now = ⟨before + 1, now⟩) ⌊rate + burst⌋₊
      (fun left watch ⟨before, total, current⟩ => by
        have room : ((before + 1 : Nat) : ℚ) ≤ rate + burst :=
          le_trans (Nat.cast_le.mpr (by omega)) (Nat.floor_le limit)
        obtain ⟨next, stepped, allowed, clock, currentNext⟩ :=
          allowed_within positive nonnegative current room
        exact ⟨next, stepped, allowed, clock, before + 1, by omega, currentNext⟩)
      ⟨0, Nat.zero_add _, current⟩ later
    refine ⟨_, final, along, ran, ?_⟩
    rw [allowed, paced.allowed]
    -- The second from the old call on holds that call and all the new ones.
    have past := paced.past time member
    have old : 0 < (withinSecond time watch.counted).length := by
      refine List.length_pos_of_mem (List.mem_filter.mpr ⟨member, ?_⟩)
      rw [Bool.and_eq_true, decide_eq_true_iff, decide_eq_true_iff]
      exact ⟨le_rfl, by linarith⟩
    refine not_withinLimit_replicate (past.trans later) (by linarith) (floor.trans_le ?_)
    exact add_le_add_right (Nat.one_le_cast.mpr old) _
  · rw [not_or, not_le] at clock
    have some : 0 < burst := lt_of_le_of_ne nonnegative (Ne.symm clock.1)
    obtain ⟨final, along, ran, allowed⟩ := allowed_replicate
      (fun _ watch => watch.limiter.bursts.get? key = none) (⌊rate + burst⌋₊ + 1)
      (fun _ watch noBurst => allowed_negative positive some clock.2 noBurst)
      paced.noBurst later
    refine ⟨_, final, along, ran, ?_⟩
    rw [allowed]
    refine not_withinLimit_replicate le_rfl (by linarith) (floor.trans_le ?_)
    rw [Nat.cast_succ]
    exact le_add_of_nonneg_right (Nat.cast_nonneg _)

/-- In a run in which every call for the key starts late, no second sees more allowed calls than
rate and burst. After such a run, calls at a time that is not late exceed them. -/
theorem allowed_withinLimit {zoneSize : Int} {clock : ℚ} {calls : List RateLimiter.Call}
    (positive : 0 < rate) (nonnegative : 0 ≤ burst)
    (along : HoldsAlong (Watch.step key)
      (fun watch call => Admissible key rate burst watch call ∧ StartsLate key watch call)
      (new zoneSize clock) calls)
    (ran : runFrom (Watch.step key) (new zoneSize clock) calls = some watch) :
    WithinLimit (rate + burst) watch.allowed ∧
      ∀ now, watch.clock ≤ now → ¬ StartsLate key watch (.allow key rate burst now now) →
        ∃ count final,
          HoldsAlong (Watch.step key) (Admissible key rate burst) watch
              (List.replicate count (.allow key rate burst now now)) ∧
            runFrom (Watch.step key) watch (List.replicate count (.allow key rate burst now now)) =
                some final ∧
              ¬ WithinLimit (rate + burst) final.allowed := by
  have limit : 0 ≤ rate + burst := add_nonneg positive.le nonnegative
  have paced : Paced key (rate + burst) watch := by
    refine run_invariant (fun before call after met paced stepped => ?_)
      (paced_new zoneSize clock limit) along ran
    exact paced.step positive nonnegative met.1 met.2 stepped
  exact ⟨paced.withinLimit, fun now later early => paced.exceeded positive nonnegative later early⟩

end Watch

/-! ### Two windows in one second -/

def acrossWindows : List RateLimiter.Call :=
  [.allow "10.0.0.1" 2 0 0 0, .allow "10.0.0.1" 2 0 1 1, .allow "10.0.0.1" 2 0 (3 / 2) (3 / 2),
    .allow "10.0.0.1" 2 0 (3 / 2) (3 / 2)]

/-- A window that is used up, another client, and a new window that starts late. -/
def separateWindows : List RateLimiter.Call :=
  [.allow "10.0.0.1" 2 0 0 0, .allow "10.0.0.1" 2 0 (1 / 2) (1 / 2),
    .allow "10.0.0.1" 2 0 1 1, .allow "10.0.0.2" 2 0 1 1,
    .allow "10.0.0.1" 2 0 2 2, .allow "10.0.0.1" 2 0 2 2]

theorem allowed_withinLimit_window :
    ∃ watch, runFrom (Watch.step "10.0.0.1") (.new 10000 0) separateWindows = some watch ∧
      watch.allowed = [2, 2, 1 / 2, 0] ∧ WithinLimit (2 + 0) watch.allowed := by
  have along : HoldsAlong (Watch.step "10.0.0.1")
      (fun watch call => Watch.Admissible "10.0.0.1" 2 0 watch call ∧
        Watch.StartsLate "10.0.0.1" watch call)
      (.new 10000 0) separateWindows := by
    decide +kernel
  have four : (runFrom (Watch.step "10.0.0.1") (.new 10000 0) separateWindows).map Watch.allowed =
      some [2, 2, 1 / 2, 0] := by
    decide +kernel
  obtain ⟨watch, ran, counted⟩ := Option.map_eq_some_iff.mp four
  exact ⟨watch, ran, counted, (Watch.allowed_withinLimit two_pos le_rfl along ran).1⟩

/-- Two calls a second are the limit. The second call comes at the end of the first window, and the
next two in a window that starts half a second later. -/
theorem allowed_counterexample :
    HoldsAlong (Watch.step "10.0.0.1") (Watch.Admissible "10.0.0.1" 2 0) (.new 10000 0)
        acrossWindows ∧
      ∃ watch, runFrom (Watch.step "10.0.0.1") (.new 10000 0) acrossWindows = some watch ∧
        withinSecond 1 watch.allowed = [3 / 2, 3 / 2, 1] ∧ ¬ WithinLimit (2 + 0) watch.allowed := by
  refine ⟨by decide +kernel, ?_⟩
  have three : (runFrom (Watch.step "10.0.0.1") (.new 10000 0) acrossWindows).map
      (fun watch => withinSecond 1 watch.allowed) = some [3 / 2, 3 / 2, 1] := by
    decide +kernel
  obtain ⟨watch, ran, inside⟩ := Option.map_eq_some_iff.mp three
  refine ⟨watch, ran, inside, fun within => ?_⟩
  have bound := within 1
  rw [inside] at bound
  norm_num at bound

end LocalNetwork
