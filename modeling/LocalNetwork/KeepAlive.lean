/-
This file models `client/keepalive.py` over the tunnels of the manager. A tick looks at every
tunnel in the table: those that are up and were heard of are judged by their silence, and the
set of suspects is corrected for their peers; one that is silent for too long is closed.

The set is corrected for no other peer. A suspect whose tunnel is closed by the peer, by the
daemon or by `prune_stale`, or replaced by one that is not up yet, stays a suspect. Right
after a tick the set is therefore the one it claims to be exactly if it already was for the
peers that the tick does not judge.

A KEEPALIVE frame changes no tunnel, and sending one is left out.
-/

import LocalNetwork.TunnelObjects
import Mathlib.Data.Finset.Erase

namespace LocalNetwork

structure KeepAliveManager where
  suspectTimeout : Time
  staleTimeout : Time
  suspectPeers : Finset String

/-- The keep-alive manager, and the tunnel manager it works on. -/
structure KeepAliveRun where
  tunnels : TunnelObjects
  keepalive : KeepAliveManager

inductive KeepAliveEvent where
  | tunnels (event : ManagerEvent)
  | tick (now : Time)

namespace KeepAliveRun

def init (suspectTimeout staleTimeout pruneTimeout : Time) : KeepAliveRun :=
  ⟨.init pruneTimeout, ⟨suspectTimeout, staleTimeout, ∅⟩⟩

def markSuspect (run : KeepAliveRun) (peerId : String) : KeepAliveRun :=
  { run with
    keepalive := { run.keepalive with suspectPeers := insert peerId run.keepalive.suspectPeers } }

def clearSuspect (run : KeepAliveRun) (peerId : String) : KeepAliveRun :=
  { run with
    keepalive := { run.keepalive with
      suspectPeers := run.keepalive.suspectPeers.erase peerId } }

/-- One round of the loop of `_tick`. -/
def tickTunnel (now : Time) (run : KeepAliveRun) (object : Nat) : KeepAliveRun :=
  match run.tunnels.objects.get? object with
  | none => run
  | some tunnel =>
    if tunnel.state ≠ .connected then run
    else if 0 < tunnel.lastRx then
      if run.keepalive.staleTimeout < now - tunnel.lastRx then
        { run with tunnels := run.tunnels.close object }.clearSuspect tunnel.peerId
      else if run.keepalive.suspectTimeout < now - tunnel.lastRx then
        run.markSuspect tunnel.peerId
      else run.clearSuspect tunnel.peerId
    else run

/-- `_tick`, over the tunnels that are in the table when it begins. -/
def tick (run : KeepAliveRun) (now : Time) : KeepAliveRun :=
  run.tunnels.tunnels.values.foldl (tickTunnel now) run

variable (agreement : KeyAgreement) (aead : AesGcm)

def step (run : KeepAliveRun) : KeepAliveEvent → Option KeepAliveRun
  | .tunnels event =>
    (run.tunnels.step agreement aead event).map fun tunnels => { run with tunnels := tunnels }
  | .tick now => some (run.tick now)

end KeepAliveRun

/-! ### Suspects -/

/-- A tunnel is up, and silent for longer than the first timeout but not longer than the second. -/
def PeerTunnel.Suspect (keepalive : KeepAliveManager) (now : Time) (tunnel : PeerTunnel) : Prop :=
  tunnel.state = .connected ∧ keepalive.suspectTimeout < now - tunnel.lastRx ∧
    now - tunnel.lastRx ≤ keepalive.staleTimeout

/-- A tick judges a tunnel. -/
def PeerTunnel.Judged (tunnel : PeerTunnel) : Prop :=
  tunnel.state = .connected ∧ 0 < tunnel.lastRx

instance (tunnel : PeerTunnel) : Decidable tunnel.Judged :=
  inferInstanceAs (Decidable (_ ∧ _))

namespace KeepAliveRun

/-- The tunnel of a peer is suspect. -/
def IsSuspect (run : KeepAliveRun) (now : Time) (peerId : String) : Prop :=
  ∃ tunnel, run.tunnels.getTunnel peerId = some tunnel ∧ tunnel.Suspect run.keepalive now

/-- The set holds the peers whose tunnels are suspect. -/
def Exact (run : KeepAliveRun) (now : Time) : Prop :=
  ∀ peerId, peerId ∈ run.keepalive.suspectPeers ↔ run.IsSuspect now peerId

/-- Right after a tick the set is exact. -/
def ExactAfter (run : KeepAliveRun) : KeepAliveEvent → Prop
  | .tunnels _ => True
  | .tick now => (run.tick now).Exact now

/-- Before a tick the set is right about the peers that have no tunnel for it to judge: of these it
holds those whose tunnel is suspect. -/
def SettledBefore (run : KeepAliveRun) : KeepAliveEvent → Prop
  | .tunnels _ => True
  | .tick now => ∀ peerId,
    (∀ tunnel, run.tunnels.getTunnel peerId = some tunnel → ¬ tunnel.Judged) →
      (peerId ∈ run.keepalive.suspectPeers ↔ run.IsSuspect now peerId)

/-! ### One round -/

variable {run : KeepAliveRun} {now : Time}

/-- What a peer has: its tunnel in the table, and whether it is in the set. -/
def view (run : KeepAliveRun) (peerId : String) : Option PeerTunnel × Bool :=
  (run.tunnels.getTunnel peerId, decide (peerId ∈ run.keepalive.suspectPeers))

/-- What a tick leaves a peer of what it has: a tunnel that is judged decides, and goes if it is
stale. -/
def judge (suspectTimeout staleTimeout now : Time) :
    Option PeerTunnel × Bool → Option PeerTunnel × Bool
  | (none, suspect) => (none, suspect)
  | (some tunnel, suspect) =>
    if tunnel.Judged then
      if staleTimeout < now - tunnel.lastRx then (none, false)
      else (some tunnel, decide (suspectTimeout < now - tunnel.lastRx))
    else (some tunnel, suspect)

/-- A peer is in the set if and only if its tunnel is suspect. -/
def Right (keepalive : KeepAliveManager) (now : Time) (has : Option PeerTunnel × Bool) : Prop :=
  has.2 = true ↔ ∃ tunnel, has.1 = some tunnel ∧ tunnel.Suspect keepalive now

/-- Nothing but the set and the tunnels changes. -/
structure SameTimeouts (first second : KeepAliveRun) : Prop where
  suspect : first.keepalive.suspectTimeout = second.keepalive.suspectTimeout
  stale : first.keepalive.staleTimeout = second.keepalive.staleTimeout

/-- What a round leaves behind. -/
structure Round (now : Time) (peerId : String) (run after : KeepAliveRun) : Prop where
  wellFormed : after.tunnels.WellFormed
  timeouts : SameTimeouts after run
  others : ∀ other, other ≠ peerId →
    after.tunnels.tunnels.get? other = run.tunnels.tunnels.get? other
  judged : after.view peerId =
    judge run.keepalive.suspectTimeout run.keepalive.staleTimeout now (run.view peerId)
  elsewhere : ∀ other, other ≠ peerId → after.view other = run.view other

theorem view_markSuspect (run : KeepAliveRun) (peerId : String) :
    (run.markSuspect peerId).view peerId = (run.tunnels.getTunnel peerId, true) := by
  simp [markSuspect, view]

theorem view_markSuspect_of_ne (run : KeepAliveRun) {peerId other : String}
    (different : other ≠ peerId) : (run.markSuspect peerId).view other = run.view other := by
  simp [markSuspect, view, different]

theorem view_clearSuspect (run : KeepAliveRun) (peerId : String) :
    (run.clearSuspect peerId).view peerId = (run.tunnels.getTunnel peerId, false) := by
  simp [clearSuspect, view]

theorem view_clearSuspect_of_ne (run : KeepAliveRun) {peerId other : String}
    (different : other ≠ peerId) : (run.clearSuspect peerId).view other = run.view other := by
  simp [clearSuspect, view, different]

/-- A tunnel that a tick does not judge is left as it was. -/
theorem judge_of_not_judged {tunnel : PeerTunnel} (unjudged : ¬ tunnel.Judged)
    (suspectTimeout staleTimeout now : Time) (suspect : Bool) :
    judge suspectTimeout staleTimeout now (some tunnel, suspect) = (some tunnel, suspect) :=
  if_neg unjudged

/-- A round with the tunnel in the table of a peer judges what the peer has. -/
theorem tickTunnel_round (wellFormed : run.tunnels.WellFormed) {peerId : String} {object : Nat}
    (entry : run.tunnels.tunnels.get? peerId = some object) :
    Round now peerId run (tickTunnel now run object) := by
  obtain ⟨tunnel, found, rfl, -⟩ := wellFormed.entries peerId object entry
  have viewed : run.view tunnel.peerId =
      (some tunnel, decide (tunnel.peerId ∈ run.keepalive.suspectPeers)) := by
    rw [view, TunnelObjects.getTunnel_eq tunnel.peerId entry found]
  have untouched (unjudged : ¬ tunnel.Judged) : Round now tunnel.peerId run run :=
    ⟨wellFormed, ⟨rfl, rfl⟩, fun _ _ => rfl,
      by rw [viewed, judge_of_not_judged unjudged], fun _ _ => rfl⟩
  rw [tickTunnel, found]
  dsimp only
  by_cases connected : tunnel.state = .connected
  · rw [if_neg (not_not.mpr connected)]
    by_cases heard : 0 < tunnel.lastRx
    · have judged : tunnel.Judged := ⟨connected, heard⟩
      rw [if_pos heard]
      by_cases stale : run.keepalive.staleTimeout < now - tunnel.lastRx
      · rw [if_pos stale]
        refine ⟨wellFormed.close object, ⟨rfl, rfl⟩, fun other different => ?_, ?_,
          fun other different => ?_⟩
        · show (run.tunnels.close object).tunnels.get? other = _
          rw [TunnelObjects.close_eq found]
          exact Dict.get?_erase_of_ne _ different
        · rw [view_clearSuspect, viewed, judge, if_pos judged, if_pos stale,
            TunnelObjects.getTunnel_close wellFormed found, if_pos rfl]
        · rw [view_clearSuspect_of_ne _ different, view,
            TunnelObjects.getTunnel_close wellFormed found, if_neg different, view]
      · rw [if_neg stale]
        by_cases suspect : run.keepalive.suspectTimeout < now - tunnel.lastRx
        · rw [if_pos suspect]
          refine ⟨wellFormed, ⟨rfl, rfl⟩, fun _ _ => rfl, ?_,
            fun other different => view_markSuspect_of_ne run different⟩
          rw [viewed, view_markSuspect, judge, if_pos judged, if_neg stale,
            decide_eq_true suspect, TunnelObjects.getTunnel_eq tunnel.peerId entry found]
        · rw [if_neg suspect]
          refine ⟨wellFormed, ⟨rfl, rfl⟩, fun _ _ => rfl, ?_,
            fun other different => view_clearSuspect_of_ne run different⟩
          rw [viewed, view_clearSuspect, judge, if_pos judged, if_neg stale,
            decide_eq_false suspect, TunnelObjects.getTunnel_eq tunnel.peerId entry found]
    · rw [if_neg heard]
      exact untouched fun judged => heard judged.2
  · rw [if_pos connected]
    exact untouched fun judged => connected judged.1

/-! ### A tick -/

/-- The rounds of a loop over entries of the table. -/
theorem foldl_tickTunnel (entries : List (String × Nat)) (wellFormed : run.tunnels.WellFormed)
    (distinct : (entries.map Prod.fst).Nodup)
    (stored : ∀ entry ∈ entries, run.tunnels.tunnels.get? entry.1 = some entry.2) :
    ((entries.map Prod.snd).foldl (tickTunnel now) run).tunnels.WellFormed ∧
      SameTimeouts ((entries.map Prod.snd).foldl (tickTunnel now) run) run ∧
        ∀ peerId, ((entries.map Prod.snd).foldl (tickTunnel now) run).view peerId =
          if peerId ∈ entries.map Prod.fst then
            judge run.keepalive.suspectTimeout run.keepalive.staleTimeout now (run.view peerId)
          else run.view peerId := by
  induction entries generalizing run with
  | nil => exact ⟨wellFormed, ⟨rfl, rfl⟩, fun peerId => (if_neg List.not_mem_nil).symm⟩
  | cons entry rest inductionHypothesis =>
    rw [List.map_cons, List.nodup_cons] at distinct
    have round : Round now entry.1 run (tickTunnel now run entry.2) :=
      tickTunnel_round wellFormed (stored entry List.mem_cons_self)
    have storedRest : ∀ other ∈ rest,
        (tickTunnel now run entry.2).tunnels.tunnels.get? other.1 = some other.2 := by
      intro other member
      rw [round.others other.1 fun same => distinct.1 (same ▸ List.mem_map_of_mem member)]
      exact stored other (List.mem_cons_of_mem _ member)
    obtain ⟨wellFormedAfter, timeouts, views⟩ :=
      inductionHypothesis round.wellFormed distinct.2 storedRest
    refine ⟨wellFormedAfter, ⟨timeouts.suspect.trans round.timeouts.suspect,
      timeouts.stale.trans round.timeouts.stale⟩, fun peerId => ?_⟩
    rw [List.map_cons, List.foldl_cons, views, round.timeouts.suspect, round.timeouts.stale]
    by_cases here : peerId = entry.1
    · have member : entry.1 ∈ (entry :: rest).map Prod.fst := List.mem_cons_self
      rw [here, if_neg distinct.1, if_pos member, round.judged]
    · have member : peerId ∈ (entry :: rest).map Prod.fst ↔ peerId ∈ rest.map Prod.fst := by
        rw [List.map_cons, List.mem_cons, or_iff_right here]
      rw [round.elsewhere peerId here]
      exact (if_congr member rfl rfl).symm

/-- A tick judges what every peer has. -/
theorem tick_view (wellFormed : run.tunnels.WellFormed) (now : Time) :
    (run.tick now).tunnels.WellFormed ∧ SameTimeouts (run.tick now) run ∧
      ∀ peerId, (run.tick now).view peerId =
        judge run.keepalive.suspectTimeout run.keepalive.staleTimeout now (run.view peerId) := by
  obtain ⟨wellFormedAfter, timeouts, views⟩ := @foldl_tickTunnel run now
    run.tunnels.tunnels.entries wellFormed run.tunnels.tunnels.distinct
    fun entry member => Dict.get?_eq_some_iff.mpr member
  refine ⟨wellFormedAfter, timeouts, fun peerId => (views peerId).trans ?_⟩
  split
  · rfl
  · rename_i absent
    have noTunnel : run.tunnels.getTunnel peerId = none := by
      rw [TunnelObjects.getTunnel, Dict.get?_eq_none_iff.mpr absent, Option.bind_none]
    rw [view, noTunnel, judge]

/-- A tick leaves a peer right if and only if it judges its tunnel, or the peer already was. -/
theorem judge_right_iff (keepalive : KeepAliveManager) (now : Time)
    (has : Option PeerTunnel × Bool) :
    Right keepalive now (judge keepalive.suspectTimeout keepalive.staleTimeout now has) ↔
      ((∀ tunnel, has.1 = some tunnel → ¬ tunnel.Judged) → Right keepalive now has) := by
  obtain ⟨_ | tunnel, suspect⟩ := has
  · exact ⟨fun right _ => right, fun right => right nofun⟩
  · by_cases judged : tunnel.Judged
    · refine iff_of_true ?_ fun unjudged => absurd judged (unjudged tunnel rfl)
      rw [judge, if_pos judged]
      split
      · exact iff_of_false Bool.false_ne_true nofun
      · rename_i fresh
        rw [Right, decide_eq_true_iff]
        constructor
        · exact fun silent => ⟨tunnel, rfl, judged.1, silent, not_lt.mp fresh⟩
        · rintro ⟨other, same, -, silent, -⟩
          obtain rfl := Option.some.inj same
          exact silent
    · rw [judge_of_not_judged judged]
      refine ⟨fun right _ => right, fun right => right fun other same => ?_⟩
      exact Option.some.inj same ▸ judged

/-- Right after a tick the set is exact if and only if it was right about the peers that have no
tunnel to judge. -/
theorem exactAfter_iff (wellFormed : run.tunnels.WellFormed) (event : KeepAliveEvent) :
    run.ExactAfter event ↔ run.SettledBefore event := by
  cases event with
  | tunnels event => exact Iff.rfl
  | tick now =>
    obtain ⟨-, timeouts, views⟩ := tick_view wellFormed now
    refine forall_congr' fun peerId => ?_
    have before : Right run.keepalive now (run.view peerId) ↔
        (peerId ∈ run.keepalive.suspectPeers ↔ run.IsSuspect now peerId) := by
      rw [Right, view, decide_eq_true_iff, IsSuspect]
    have after : Right run.keepalive now ((run.tick now).view peerId) ↔
        (peerId ∈ (run.tick now).keepalive.suspectPeers ↔ (run.tick now).IsSuspect now peerId) := by
      unfold Right IsSuspect PeerTunnel.Suspect
      rw [view, decide_eq_true_iff, timeouts.suspect, timeouts.stale]
    rw [← before, ← after, views, judge_right_iff]
    exact Iff.rfl

/-! ### Runs -/

theorem step_wellFormed {agreement : KeyAgreement} {aead : AesGcm} {event : KeepAliveEvent}
    {next : KeepAliveRun} (wellFormed : run.tunnels.WellFormed)
    (stepped : run.step agreement aead event = some next) : next.tunnels.WellFormed := by
  cases event with
  | tunnels event =>
    obtain ⟨tunnels, taken, rfl⟩ := Option.map_eq_some_iff.mp stepped
    exact (TunnelObjects.step_cases taken).wellFormed wellFormed
  | tick now =>
    obtain rfl := Option.some.inj stepped
    exact (tick_view wellFormed now).1

/-- The set of suspects is exact right after every tick of a run if and only if before every tick it
is right about the peers that have no tunnel to judge. -/
theorem suspects_exact_iff (agreement : KeyAgreement) (aead : AesGcm)
    (suspectTimeout staleTimeout pruneTimeout : Time) (events : List KeepAliveEvent) :
    HoldsAlong (step agreement aead) ExactAfter (init suspectTimeout staleTimeout pruneTimeout)
        events ↔
      HoldsAlong (step agreement aead) SettledBefore
        (init suspectTimeout staleTimeout pruneTimeout) events :=
  holdsAlong_congr (fun _ event wellFormed => exactAfter_iff wellFormed event)
    (fun _ _ _ _ wellFormed stepped => step_wellFormed wellFormed stepped)
    (TunnelObjects.init_wellFormed pruneTimeout) events

/-- The tunnel to Bob comes up at 100, the tick at 140 suspects it, and the daemon closes it. -/
def closedSuspect : List KeepAliveEvent :=
  [.tunnels (.create "bob" "25.1.0.2" 0 [1] (some 100)),
    .tunnels (.punched 0 (some (("203.0.113.7", 4000), [])) 100 none), .tick 140,
    .tunnels (.close 0)]

/-- After the next tick Bob is a suspect without a tunnel. -/
theorem suspects_counterexample :
    ¬ HoldsAlong (step sumAgreement refusingAead) ExactAfter (init 30 60 90)
      (closedSuspect ++ [.tick 150]) := by
  intro along
  have left : ((runFrom (step sumAgreement refusingAead) (init 30 60 90) closedSuspect).map
      fun run => (run.tick 150).view "bob") = some (none, true) := by
    decide +kernel
  obtain ⟨run, ran, viewed⟩ := Option.map_eq_some_iff.mp left
  obtain ⟨noTunnel, suspect⟩ := Prod.mk.inj viewed
  have exact : (run.tick 150).Exact 150 := (holdsAlong_append along ran).2.1
  obtain ⟨tunnel, found, -⟩ := (exact "bob").mp (of_decide_eq_true suspect)
  exact nomatch noTunnel.symm.trans found

end KeepAliveRun

end LocalNetwork
