/-
This file counts the idle connections that the pool keeps for each server. A release makes the
connection of its caller idle and looks at no bound, and no other step makes a connection
idle. The number of idle connections of a server is therefore within the bound after every
release exactly if every release finds fewer than that.
-/

import LocalNetwork.PoolCallers

namespace LocalNetwork

section UpdateFirst

variable {Element : Type} {chosen : Element → Bool} {first : Element}

/-- The update of the first element with a property takes it out of a count and puts its update
in. -/
theorem countP_updateFirst (counts : Element → Bool) (update : Element → Element)
    {elements : List Element} (found : elements.find? chosen = some first) :
    (updateFirst chosen update elements).countP counts + (if counts first then 1 else 0) =
      elements.countP counts + (if counts (update first) then 1 else 0) := by
  induction elements with
  | nil => cases found
  | cons head rest inductionHypothesis =>
    rw [updateFirst]
    by_cases here : chosen head = true
    · rw [List.find?_cons_of_pos here] at found
      obtain rfl := Option.some.inj found
      rw [if_pos here, List.countP_cons, List.countP_cons]
      omega
    · rw [List.find?_cons_of_neg here] at found
      have later := inductionHypothesis found
      rw [if_neg here, List.countP_cons, List.countP_cons]
      omega

end UpdateFirst

open UpstreamPool

namespace UpstreamPool

/-- The number of idle connections under a key. -/
def idleAt (pool : UpstreamPool) (key : String) : Nat :=
  (pool.poolAt key).countP fun conn => !conn.inUse

variable {pool : UpstreamPool}

/-- Taking an idle connection makes no other one idle. -/
theorem idleAt_takeIdle_le (pool : UpstreamPool) (host : String) (port : Int) (now : Time)
    (other : String) : (pool.takeIdle host port now).2.idleAt other ≤ pool.idleAt other := by
  rcases takeIdle_cases pool host port now with same | ⟨first, found, same⟩
  · rw [same]
  · rw [same, idleAt, idleAt, poolAt_modify _ _ _ _ rfl]
    split
    · rename_i here
      subst here
      have count := countP_updateFirst (fun conn => !conn.inUse)
        (fun conn : PooledConnection => { conn with inUse := true, lastUsed := now }) found
      simp only [Bool.not_true, Bool.false_eq_true, if_false, Nat.add_zero] at count
      omega
    · exact le_rfl

/-- A new connection is in use. -/
theorem idleAt_addOpened (pool : UpstreamPool) (opened : PooledConnection) (other : String) :
    (pool.addOpened opened).idleAt other = pool.idleAt other := by
  unfold addOpened idleAt poolAt
  dsimp only
  rw [Dict.get?_insert]
  split
  · rename_i here
    rw [Option.getD_some, List.countP_append, here]
    rfl
  · rfl

/-- Fewer connections are idle where some go. -/
theorem idleAt_le_of_sublist {smaller : UpstreamPool} {key : String}
    (sublist : (smaller.poolAt key).Sublist (pool.poolAt key)) :
    smaller.idleAt key ≤ pool.idleAt key := sublist.countP_le

theorem idleAt_closeConnection_le (pool : UpstreamPool) (host : String) (port : Int) (writer : Nat)
    (other : String) : (pool.closeConnection host port writer).1.idleAt other ≤ pool.idleAt other := by
  refine idleAt_le_of_sublist ?_
  unfold closeConnection
  split
  · dsimp only
    rw [poolAt_modify _ _ _ _ rfl]
    split
    · exact List.eraseP_sublist
    · exact List.Sublist.refl _
  · exact List.Sublist.refl _

theorem idleAt_pruneIdle_le (pool : UpstreamPool) (now : Time) (other : String) :
    (pool.pruneIdle now).1.idleAt other ≤ pool.idleAt other := by
  refine idleAt_le_of_sublist ?_
  rw [poolAt_pruneIdle]
  exact List.filter_sublist

end UpstreamPool

namespace PoolRun

variable {run next : PoolRun} {id : Nat}

/-- A caller that releases what it holds makes it idle. -/
theorem Exclusive.idleAt_release (holds : run.Exclusive) {host : String} {port : Int}
    {reader writer : Nat} (held : run.Holds id host port reader writer) (now : Time)
    (other : String) :
    (run.pool.release host port writer now).1.idleAt other =
      run.pool.idleAt other + if other = key host port then 1 else 0 := by
  obtain ⟨first, found, firstWriter, same⟩ := holds.release_eq held now
  rw [same, idleAt, idleAt, poolAt_modify _ _ _ _ rfl]
  split
  · rename_i here
    subst here
    obtain ⟨conn, member, sameWriter, -, inUse⟩ := holds.tracked id host port reader writer held
    obtain rfl := holds.tidy.distinct.unique (List.mem_of_find?_eq_some found) member
      (firstWriter.trans sameWriter.symm)
    have count := countP_updateFirst (fun conn => !conn.inUse)
      (fun conn : PooledConnection => { conn with inUse := false, lastUsed := now }) found
    simpa [inUse] using count
  · rfl

/-- Only a release makes a connection idle. -/
theorem idleAt_step_le {event : PoolEvent} (stepped : run.step event = some next)
    (other : ∀ id now, event ≠ .released id now) (key : String) :
    next.pool.idleAt key ≤ run.pool.idleAt key := by
  cases event with
  | called id host port now =>
    rw [step] at stepped
    split at stepped
    · cases stepped
    · obtain rfl := Option.some.inj stepped
      exact idleAt_takeIdle_le run.pool host port now key
  | connected id reader writer createdAt lastUsed =>
    rw [step] at stepped
    split at stepped
    · split at stepped
      · cases stepped
      · obtain rfl := Option.some.inj stepped
        exact (idleAt_addOpened _ _ key).le
    · cases stepped
  | failed id =>
    rw [step] at stepped
    split at stepped
    · obtain rfl := Option.some.inj stepped
      exact le_rfl
    · cases stepped
  | released id now => exact absurd rfl (other id now)
  | closed id =>
    rw [step] at stepped
    split at stepped
    · obtain rfl := Option.some.inj stepped
      exact idleAt_closeConnection_le run.pool _ _ _ key
    · cases stepped
  | pruned now =>
    obtain rfl := Option.some.inj stepped
    exact idleAt_pruneIdle_le run.pool now key

/-! ### The bound -/

/-- After a release every server has at most so many idle connections. -/
def WithinBound (bound : Int) (run : PoolRun) : PoolEvent → Prop
  | .released id now => ∀ next, run.step (.released id now) = some next →
    ∀ host port, (next.pool.idleAt (key host port) : Int) ≤ bound
  | .called .. => True
  | .connected .. => True
  | .failed _ => True
  | .closed _ => True
  | .pruned _ => True

/-- A release finds fewer idle connections of its server. -/
def FindsFewer (bound : Int) (run : PoolRun) : PoolEvent → Prop
  | .released id _ => ∀ host port reader writer, run.Holds id host port reader writer →
    (run.pool.idleAt (key host port) : Int) < bound
  | .called .. => True
  | .connected .. => True
  | .failed _ => True
  | .closed _ => True
  | .pruned _ => True

/-- The invariant: calls hold what the pool tracks, and the idle connections are within the bound.
A negative bound allows no idle connection, as zero does. -/
structure Bounded (bound : Int) (run : PoolRun) : Prop where
  exclusive : run.Exclusive
  idle : ∀ host port, (run.pool.idleAt (key host port) : Int) ≤ max 0 bound

theorem bounded_new (maxIdlePerServer : Int) (idleTimeout : Time) (bound : Int) :
    (new maxIdlePerServer idleTimeout).Bounded bound :=
  ⟨exclusive_new maxIdlePerServer idleTimeout, fun _ _ => le_max_left 0 bound⟩

/-- A release of a call that holds a connection. -/
theorem released_eq_some {now : Time} (stepped : run.step (.released id now) = some next) :
    ∃ host port reader writer, run.Holds id host port reader writer ∧
      next.pool = (run.pool.release host port writer now).1 := by
  rw [step] at stepped
  split at stepped
  · rename_i host port reader writer held
    obtain rfl := Option.some.inj stepped
    exact ⟨host, port, reader, writer, held, rfl⟩
  · cases stepped

theorem Bounded.withinBound_iff {bound : Int} (bounded : run.Bounded bound) (event : PoolEvent) :
    WithinBound bound run event ↔ FindsFewer bound run event := by
  cases event with
  | released id now =>
    constructor
    · intro within host port reader writer held
      have stepped : ∃ next, run.step (.released id now) = some next := by
        rw [step, held]
        exact ⟨_, rfl⟩
      obtain ⟨next, stepped⟩ := stepped
      have after := within next stepped host port
      obtain ⟨otherHost, otherPort, otherReader, otherWriter, otherHeld, same⟩ :=
        released_eq_some stepped
      obtain ⟨rfl, rfl, rfl, rfl⟩ := GetCall.holding.inj (Option.some.inj (held.symm.trans otherHeld))
      rw [same, bounded.exclusive.idleAt_release held now, if_pos rfl] at after
      omega
    · intro fewer next stepped otherHost otherPort
      obtain ⟨host, port, reader, writer, held, same⟩ := released_eq_some stepped
      have room := fewer host port reader writer held
      have others := bounded.idle otherHost otherPort
      rw [same, bounded.exclusive.idleAt_release held now]
      split
      · rename_i here
        rw [here]
        omega
      · omega
  | called id host port now => exact Iff.rfl
  | connected id reader writer createdAt lastUsed => exact Iff.rfl
  | failed id => exact Iff.rfl
  | closed id => exact Iff.rfl
  | pruned now => exact Iff.rfl

theorem Bounded.step {bound : Int} (bounded : run.Bounded bound) {event : PoolEvent}
    (within : WithinBound bound run event) (stepped : run.step event = some next) :
    next.Bounded bound := by
  refine ⟨bounded.exclusive.step stepped, fun host port => ?_⟩
  by_cases releases : ∃ id now, event = .released id now
  · obtain ⟨id, now, rfl⟩ := releases
    exact (within next stepped host port).trans (le_max_right 0 bound)
  · have fewer := idleAt_step_le stepped (fun id now same => releases ⟨id, now, same⟩)
      (key host port)
    exact (Int.ofNat_le.mpr fewer).trans (bounded.idle host port)

/-- The idle connections of every server are within the bound of the pool after every release of a
run if and only if every release finds fewer idle connections of its server. -/
theorem idle_within_iff (maxIdlePerServer : Int) (idleTimeout : Time) (events : List PoolEvent) :
    HoldsAlong PoolRun.step (WithinBound maxIdlePerServer) (new maxIdlePerServer idleTimeout)
        events ↔
      HoldsAlong PoolRun.step (FindsFewer maxIdlePerServer) (new maxIdlePerServer idleTimeout)
        events :=
  holdsAlong_congr (fun _ event bounded => Bounded.withinBound_iff bounded event)
    (fun _ _ _ within bounded stepped => Bounded.step bounded within stepped)
    (bounded_new maxIdlePerServer idleTimeout maxIdlePerServer) events

/-- Two connections to one server, open at once and released one after the other. -/
def twoReleases : List PoolEvent :=
  [.called 0 "a" 80 0, .called 1 "a" 80 0, .connected 0 10 11 1 1, .connected 1 20 21 1 1,
    .released 0 2, .released 1 3]

/-- One idle connection is the bound, and the second release makes two of them. -/
theorem idle_counterexample :
    (∃ run, runFrom PoolRun.step (new 1 60) twoReleases = some run ∧
      run.pool.idleAt (key "a" 80) = 2) ∧
        ¬ HoldsAlong PoolRun.step (WithinBound 1) (new 1 60) twoReleases := by
  have two : ∃ run, runFrom PoolRun.step (new 1 60) twoReleases = some run ∧
      run.pool.idleAt (key "a" 80) = 2 := ⟨_, rfl, by decide⟩
  refine ⟨two, fun along => ?_⟩
  obtain ⟨run, ran, idle⟩ := two
  have split : twoReleases = twoReleases.take 5 ++ [.released 1 3] := rfl
  rw [split] at along ran
  obtain ⟨reached, before, last⟩ := runFrom_append.mp ran
  have within := (holdsAlong_append along before).2.1
  obtain ⟨next, stepped, rest⟩ := runFrom_cons.mp last
  obtain rfl := Option.some.inj rest
  have bound := within next stepped "a" 80
  rw [idle] at bound
  exact absurd bound (by decide)

end PoolRun

end LocalNetwork
