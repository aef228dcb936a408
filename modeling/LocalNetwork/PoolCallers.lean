/-
This file runs the pool of upstream connections with its callers. Each call of
`get_connection` is suspended while it opens a connection, and then holds one until it
releases or closes it, once. Calls, releases, closes and prunings come in any order.

The invariant relates the calls to the pool: what a call holds is in the pool, under the key
of its own server and in use; no two calls hold the same connection; and nothing in the pool
has been closed.
-/

import LocalNetwork.ConnectionPool

namespace LocalNetwork

open UpstreamPool

/-- A call of `get_connection`: it is opening a connection, or it holds one. -/
inductive GetCall where
  | opening (host : String) (port : Int)
  | holding (host : String) (port : Int) (reader writer : Nat)

/-- The pool and its callers, with every writer that was ever opened and every one that the pool
has closed. -/
structure PoolRun where
  pool : UpstreamPool
  calls : Dict Nat GetCall
  opened : List Nat
  closed : List Nat

inductive PoolEvent where
  | called (id : Nat) (host : String) (port : Int) (now : Time)
  | connected (id reader writer : Nat) (createdAt lastUsed : Time)
  | failed (id : Nat)
  | released (id : Nat) (now : Time)
  | closed (id : Nat)
  | pruned (now : Time)

namespace PoolRun

def new (maxIdlePerServer : Int) (idleTimeout : Time) : PoolRun :=
  ⟨⟨maxIdlePerServer, idleTimeout, Dict.empty⟩, Dict.empty, [], []⟩

/-- One step. A new connection is an object of its own; only a call that opens gets one, and only a
call that holds one gives it back. -/
def step (run : PoolRun) : PoolEvent → Option PoolRun
  | .called id host port now =>
    if run.calls.contains id then none
    else
      let taken := run.pool.takeIdle host port now
      some { run with
        pool := taken.2
        calls := run.calls.insert id (match taken.1 with
          | some conn => .holding host port conn.reader conn.writer
          | none => .opening host port) }
  | .connected id reader writer createdAt lastUsed =>
    match run.calls.get? id with
    | some (.opening host port) =>
      if writer ∈ run.opened then none
      else some { run with
        pool := run.pool.addOpened ⟨reader, writer, host, port, createdAt, lastUsed, false⟩
        calls := run.calls.insert id (.holding host port reader writer)
        opened := writer :: run.opened }
    | _ => none
  | .failed id =>
    match run.calls.get? id with
    | some (.opening _ _) => some { run with calls := run.calls.erase id }
    | _ => none
  | .released id now =>
    match run.calls.get? id with
    | some (.holding host port _ writer) =>
      let released := run.pool.release host port writer now
      some { run with
        pool := released.1
        calls := run.calls.erase id
        closed := released.2 ++ run.closed }
    | _ => none
  | .closed id =>
    match run.calls.get? id with
    | some (.holding host port _ writer) =>
      let closing := run.pool.closeConnection host port writer
      some { run with
        pool := closing.1
        calls := run.calls.erase id
        closed := closing.2 ++ run.closed }
    | _ => none
  | .pruned now =>
    let pruning := run.pool.pruneIdle now
    some { run with pool := pruning.1, closed := pruning.2 ++ run.closed }

/-- A call holds a connection to a server. -/
def Holds (run : PoolRun) (id : Nat) (host : String) (port : Int) (reader writer : Nat) : Prop :=
  run.calls.get? id = some (.holding host port reader writer)

/-- A connection is in the pool under the key of a server, in use. -/
def Tracks (pool : UpstreamPool) (host : String) (port : Int) (reader writer : Nat) : Prop :=
  ∃ conn ∈ pool.poolAt (key host port),
    conn.writer = writer ∧ conn.reader = reader ∧ conn.inUse = true

/-- The pool has no connection twice, none under a key other than its own, and none that is
closed. -/
structure Tidy (run : PoolRun) : Prop where
  distinct : run.pool.Distinct
  keyed : ∀ other, ∀ conn ∈ run.pool.poolAt other, key conn.host conn.port = other
  known : ∀ other, ∀ conn ∈ run.pool.poolAt other,
    conn.writer ∈ run.opened ∧ conn.writer ∉ run.closed
  closedKnown : ∀ writer ∈ run.closed, writer ∈ run.opened

/-- The pool is tidy, and the calls hold different connections that it tracks. -/
structure Exclusive (run : PoolRun) : Prop where
  tidy : run.Tidy
  tracked : ∀ id host port reader writer, run.Holds id host port reader writer →
    Tracks run.pool host port reader writer
  exclusive : ∀ id other host port reader writer otherHost otherPort otherReader,
    run.Holds id host port reader writer →
      run.Holds other otherHost otherPort otherReader writer → id = other

variable {run next : PoolRun} {id : Nat}

theorem exclusive_new (maxIdlePerServer : Int) (idleTimeout : Time) :
    (new maxIdlePerServer idleTimeout).Exclusive :=
  ⟨⟨⟨fun _ => List.nodup_nil, nofun⟩, nofun, nofun, nofun⟩, nofun, nofun⟩

theorem Tidy.withCalls (tidy : run.Tidy) (calls : Dict Nat GetCall) :
    { run with calls := calls }.Tidy :=
  ⟨tidy.distinct, tidy.keyed, tidy.known, tidy.closedKnown⟩

/-! ### Steps after which no call holds more -/

theorem Exclusive.of_fewer (holds : run.Exclusive) (tidy : next.Tidy)
    (fewer : ∀ other host port reader writer, next.Holds other host port reader writer →
      run.Holds other host port reader writer)
    (stays : ∀ other host port reader writer, next.Holds other host port reader writer →
      Tracks run.pool host port reader writer → Tracks next.pool host port reader writer) :
    next.Exclusive :=
  ⟨tidy, fun other host port reader writer held => stays other host port reader writer held
      (holds.tracked other host port reader writer (fewer other host port reader writer held)),
    fun one two _ _ _ _ _ _ _ held otherHeld => holds.exclusive one two _ _ _ _ _ _ _
      (fewer one _ _ _ _ held) (fewer two _ _ _ _ otherHeld)⟩

/-- A call that is over holds nothing, and the others go on. -/
theorem holds_of_erase {other : Nat} {host : String} {port : Int} {reader writer : Nat}
    (held : (run.calls.erase id).get? other = some (.holding host port reader writer)) :
    other ≠ id ∧ run.Holds other host port reader writer := by
  rw [Dict.get?_erase] at held
  split at held
  · cases held
  · rename_i different
    exact ⟨different, held⟩

/-- What one call holds, another one does not hold. -/
theorem Exclusive.writer_ne (holds : run.Exclusive) {other : Nat} {host otherHost : String}
    {port otherPort : Int} {reader writer otherReader otherWriter : Nat}
    (held : run.Holds id host port reader writer)
    (otherHeld : run.Holds other otherHost otherPort otherReader otherWriter)
    (different : other ≠ id) : otherWriter ≠ writer := by
  rintro rfl
  exact different (holds.exclusive other id _ _ _ _ _ _ _ otherHeld held)

/-- The removal of connections from the pool keeps it tidy, when they are noted as closed. -/
theorem Tidy.of_filter (tidy : run.Tidy) {pool : UpstreamPool} {keep : PooledConnection → Bool}
    {writers : List Nat}
    (filtered : ∀ other, pool.poolAt other = (run.pool.poolAt other).filter keep)
    (gone : ∀ writer ∈ writers, ∃ other, ∃ conn ∈ run.pool.poolAt other,
      conn.writer = writer ∧ keep conn = false) (calls : Dict Nat GetCall) :
    (PoolRun.mk pool calls run.opened (writers ++ run.closed)).Tidy := by
  constructor
  · exact tidy.distinct.of_sublist fun other => by
      rw [filtered]
      exact List.filter_sublist
  · intro other conn member
    change conn ∈ pool.poolAt other at member
    rw [filtered] at member
    exact tidy.keyed other conn (List.mem_of_mem_filter member)
  · intro other conn member
    change conn ∈ pool.poolAt other at member
    rw [filtered] at member
    obtain ⟨before, kept⟩ := List.mem_filter.mp member
    obtain ⟨opened, notClosed⟩ := tidy.known other conn before
    refine ⟨opened, fun closed => ?_⟩
    rcases List.mem_append.mp closed with now | earlier
    · obtain ⟨_, closing, closingMember, same, notKept⟩ := gone conn.writer now
      obtain rfl := tidy.distinct.unique closingMember before same
      rw [kept] at notKept
      cases notKept
    · exact notClosed earlier
  · intro writer closed
    rcases List.mem_append.mp closed with now | earlier
    · obtain ⟨other, conn, member, rfl, -⟩ := gone writer now
      exact (tidy.known other conn member).1
    · exact tidy.closedKnown writer earlier

/-- The update of one connection keeps the pool tidy. -/
theorem Tidy.of_update (tidy : run.Tidy) {other : String} {chosen : PooledConnection → Bool}
    {update : PooledConnection → PooledConnection} {first : PooledConnection}
    (found : (run.pool.poolAt other).find? chosen = some first)
    (writerKept : ∀ conn, (update conn).writer = conn.writer)
    (keyKept : ∀ conn, key (update conn).host (update conn).port = key conn.host conn.port)
    (calls : Dict Nat GetCall) :
    (PoolRun.mk { run.pool with
      pools := run.pool.pools.modify other (updateFirst chosen update) } calls
        run.opened run.closed).Tidy := by
  have firstMember := List.mem_of_find?_eq_some found
  refine ⟨tidy.distinct.update found writerKept, fun place conn member => ?_,
    fun place conn member => ?_, tidy.closedKnown⟩
  · rcases (tidy.distinct.mem_update found place conn).mp member with ⟨old, -⟩ | ⟨rfl, rfl⟩
    · exact tidy.keyed place conn old
    · rw [keyKept]
      exact tidy.keyed place first firstMember
  · rcases (tidy.distinct.mem_update found place conn).mp member with ⟨old, -⟩ | ⟨rfl, rfl⟩
    · exact tidy.known place conn old
    · rw [writerKept]
      exact tidy.known place first firstMember

/-- An idle connection is not one that a call holds. -/
theorem Exclusive.held_ne_idle (holds : run.Exclusive) {host : String} {port : Int}
    {reader writer : Nat} (held : run.Holds id host port reader writer) {other : String}
    {conn : PooledConnection} (member : conn ∈ run.pool.poolAt other)
    (idle : conn.inUse = false) : writer ≠ conn.writer := by
  intro same
  obtain ⟨tracked, trackedMember, rfl, -, inUse⟩ := holds.tracked id host port reader writer held
  obtain rfl := holds.tidy.distinct.unique trackedMember member same
  rw [inUse] at idle
  cases idle

theorem Exclusive.pruned (holds : run.Exclusive) {now : Time}
    (stepped : run.step (.pruned now) = some next) : next.Exclusive := by
  obtain rfl := Option.some.inj stepped
  refine holds.of_fewer (holds.tidy.of_filter (poolAt_pruneIdle run.pool now) ?_ run.calls)
    (fun _ _ _ _ _ held => held) ?_
  · intro writer closed
    obtain ⟨other, conn, member, same, prunable⟩ := mem_pruneIdle_closed closed
    exact ⟨other, conn, member, same, by rw [prunable]; rfl⟩
  · rintro other host port reader writer - ⟨conn, member, same, sameReader, inUse⟩
    refine ⟨conn, ?_, same, sameReader, inUse⟩
    show conn ∈ (run.pool.pruneIdle now).1.poolAt (key host port)
    rw [poolAt_pruneIdle]
    exact List.mem_filter.mpr ⟨member, by rw [isPrunable, inUse]; rfl⟩

theorem Exclusive.closed (holds : run.Exclusive)
    (stepped : run.step (.closed id) = some next) : next.Exclusive := by
  rw [step] at stepped
  split at stepped
  · rename_i host port reader writer held
    obtain rfl := Option.some.inj stepped
    obtain ⟨own, ownMember, ownSame, -, -⟩ := holds.tracked id host port reader writer held
    have filtered := poolAt_closeConnection holds.tidy.distinct writer ⟨own, ownMember, ownSame⟩
    refine holds.of_fewer (holds.tidy.of_filter filtered ?_ _)
      (fun _ _ _ _ _ still => (holds_of_erase still).2) ?_
    · intro closing member
      have only : closing = writer := by
        unfold closeConnection at member
        split at member
        · exact List.mem_singleton.mp member
        · cases member
      exact ⟨_, own, ownMember, ownSame.trans only.symm, by simp [ownSame]⟩
    · rintro other otherHost otherPort otherReader otherWriter still
        ⟨conn, member, same, sameReader, inUse⟩
      obtain ⟨different, otherHeld⟩ := holds_of_erase still
      refine ⟨conn, ?_, same, sameReader, inUse⟩
      show conn ∈ (run.pool.closeConnection host port writer).1.poolAt (key otherHost otherPort)
      rw [filtered]
      refine List.mem_filter.mpr ⟨member, decide_eq_true ?_⟩
      rw [same]
      exact holds.writer_ne held otherHeld different
  · cases stepped

/-- A connection that a call holds is released, and not closed as an unknown one. -/
theorem Exclusive.release_eq (holds : run.Exclusive) {host : String} {port : Int}
    {reader writer : Nat} (held : run.Holds id host port reader writer) (now : Time) :
    ∃ first, (run.pool.poolAt (key host port)).find? (fun conn => decide (conn.writer = writer)) =
        some first ∧ first.writer = writer ∧
      run.pool.release host port writer now =
        ({ run.pool with
            pools := run.pool.pools.modify (key host port)
              (updateFirst (fun conn => decide (conn.writer = writer)) fun conn =>
                { conn with inUse := false, lastUsed := now }) }, []) := by
  obtain ⟨own, ownMember, ownSame, -, -⟩ := holds.tracked id host port reader writer held
  have any : ((run.pool.poolAt (key host port)).any fun conn => decide (conn.writer = writer)) =
      true := List.any_eq_true.mpr ⟨own, ownMember, by simp [ownSame]⟩
  cases found : (run.pool.poolAt (key host port)).find? fun conn =>
      decide (conn.writer = writer) with
  | none => exact absurd (List.find?_eq_none.mp found own ownMember) (by simp [ownSame])
  | some first =>
    have firstWriter : first.writer = writer := by simpa using List.find?_some found
    refine ⟨first, rfl, firstWriter, ?_⟩
    rw [UpstreamPool.release, if_pos any]

theorem Exclusive.released (holds : run.Exclusive) {now : Time}
    (stepped : run.step (.released id now) = some next) : next.Exclusive := by
  rw [step] at stepped
  split at stepped
  · rename_i host port reader writer held
    obtain rfl := Option.some.inj stepped
    obtain ⟨first, found, firstWriter, same⟩ := holds.release_eq held now
    rw [same]
    refine holds.of_fewer (holds.tidy.of_update found ?_ ?_ _)
      (fun _ _ _ _ _ still => (holds_of_erase still).2) ?_
    · exact fun _ => rfl
    · exact fun _ => rfl
    · rintro other otherHost otherPort otherReader otherWriter still
        ⟨conn, member, sameWriter, sameReader, inUse⟩
      obtain ⟨different, otherHeld⟩ := holds_of_erase still
      refine ⟨conn, (holds.tidy.distinct.mem_update found _ conn).mpr (.inl ⟨member, ?_⟩),
        sameWriter, sameReader, inUse⟩
      rw [sameWriter, firstWriter]
      exact holds.writer_ne held otherHeld different
  · cases stepped

theorem Exclusive.failed (holds : run.Exclusive)
    (stepped : run.step (.failed id) = some next) : next.Exclusive := by
  rw [step] at stepped
  split at stepped
  · obtain rfl := Option.some.inj stepped
    exact holds.of_fewer (holds.tidy.withCalls _) (fun _ _ _ _ _ still => (holds_of_erase still).2)
      fun _ _ _ _ _ _ tracked => tracked
  · cases stepped

/-! ### Steps after which one call holds a connection -/

theorem Exclusive.of_gained (holds : run.Exclusive) (tidy : next.Tidy) {host : String} {port : Int}
    {reader writer : Nat}
    (gained : next.calls = run.calls.insert id (.holding host port reader writer))
    (mine : Tracks next.pool host port reader writer)
    (unheld : ∀ other otherHost otherPort otherReader otherWriter,
      run.Holds other otherHost otherPort otherReader otherWriter → otherWriter ≠ writer)
    (stays : ∀ other otherHost otherPort otherReader otherWriter,
      run.Holds other otherHost otherPort otherReader otherWriter →
        Tracks run.pool otherHost otherPort otherReader otherWriter →
          Tracks next.pool otherHost otherPort otherReader otherWriter) : next.Exclusive := by
  have cases : ∀ other otherHost otherPort otherReader otherWriter,
      next.Holds other otherHost otherPort otherReader otherWriter →
        (other = id ∧ otherHost = host ∧ otherPort = port ∧ otherReader = reader ∧
          otherWriter = writer) ∨
        run.Holds other otherHost otherPort otherReader otherWriter := by
    intro other otherHost otherPort otherReader otherWriter held
    unfold Holds at held
    rw [gained, Dict.get?_insert] at held
    split at held
    · rename_i same
      cases held
      exact .inl ⟨same, rfl, rfl, rfl, rfl⟩
    · exact .inr held
  refine ⟨tidy, fun other otherHost otherPort otherReader otherWriter held => ?_,
    fun one two _ _ _ shared _ _ _ held otherHeld => ?_⟩
  · rcases cases _ _ _ _ _ held with ⟨rfl, rfl, rfl, rfl, rfl⟩ | old
    · exact mine
    · exact stays _ _ _ _ _ old (holds.tracked _ _ _ _ _ old)
  · rcases cases _ _ _ _ _ held with ⟨rfl, -, -, -, rfl⟩ | old
    · rcases cases _ _ _ _ _ otherHeld with ⟨rfl, -⟩ | otherOld
      · rfl
      · exact absurd rfl (unheld _ _ _ _ _ otherOld)
    · rcases cases _ _ _ _ _ otherHeld with ⟨rfl, -, -, -, rfl⟩ | otherOld
      · exact absurd rfl (unheld _ _ _ _ _ old)
      · exact holds.exclusive _ _ _ _ _ _ _ _ _ old otherOld

/-- A call that takes an idle connection, or goes on to open one. -/
theorem Exclusive.called (holds : run.Exclusive) {host : String} {port : Int} {now : Time}
    (stepped : run.step (.called id host port now) = some next) : next.Exclusive := by
  rw [step] at stepped
  split at stepped
  · cases stepped
  · obtain rfl := Option.some.inj stepped
    rcases takeIdle_cases run.pool host port now with same | ⟨first, found, same⟩
    · rw [same]
      refine holds.of_fewer (holds.tidy.withCalls _) (fun other _ _ _ _ held => ?_)
        fun _ _ _ _ _ _ tracked => tracked
      unfold Holds at held
      rw [Dict.get?_insert] at held
      split at held
      · cases held
      · exact held
    · rw [same]
      have usable : run.pool.isUsable now first = true := List.find?_some found
      have idle : first.inUse = false := by
        rw [isUsable, Bool.and_eq_true] at usable
        exact Bool.not_eq_true' _ |>.mp usable.1
      have firstMember := List.mem_of_find?_eq_some found
      refine holds.of_gained (holds.tidy.of_update found ?_ ?_ _) rfl
        ⟨_, (holds.tidy.distinct.mem_update found _ _).mpr (.inr ⟨rfl, rfl⟩), rfl, rfl, rfl⟩
        (fun _ _ _ _ _ held => holds.held_ne_idle held firstMember idle) ?_
      · exact fun _ => rfl
      · exact fun _ => rfl
      · rintro other otherHost otherPort otherReader otherWriter held
          ⟨conn, member, rfl, sameReader, inUse⟩
        exact ⟨conn, (holds.tidy.distinct.mem_update found _ conn).mpr
          (.inl ⟨member, holds.held_ne_idle held firstMember idle⟩), rfl, sameReader, inUse⟩

theorem Exclusive.connected (holds : run.Exclusive) {reader writer : Nat}
    {createdAt lastUsed : Time}
    (stepped : run.step (.connected id reader writer createdAt lastUsed) = some next) :
    next.Exclusive := by
  rw [step] at stepped
  split at stepped
  · rename_i host port waiting
    split at stepped
    · cases stepped
    · rename_i fresh
      obtain rfl := Option.some.inj stepped
      have unused : ∀ other, ∀ conn ∈ run.pool.poolAt other, conn.writer ≠ writer :=
        fun other conn member same => fresh (same ▸ (holds.tidy.known other conn member).1)
      refine holds.of_gained ⟨holds.tidy.distinct.addOpened unused, fun other conn member => ?_,
        fun other conn member => ?_, fun closing closed =>
          .tail _ (holds.tidy.closedKnown closing closed)⟩ rfl
        ⟨_, (mem_addOpened_iff _ _ _ _).mpr (.inr ⟨rfl, rfl⟩), rfl, rfl, rfl⟩ ?_ ?_
      · rcases (mem_addOpened_iff _ _ _ _).mp member with old | ⟨rfl, rfl⟩
        · exact holds.tidy.keyed other conn old
        · rfl
      · rcases (mem_addOpened_iff _ _ _ _).mp member with old | ⟨rfl, rfl⟩
        · obtain ⟨opened, notClosed⟩ := holds.tidy.known other conn old
          exact ⟨.tail _ opened, notClosed⟩
        · exact ⟨.head _, fun closed => fresh (holds.tidy.closedKnown writer closed)⟩
      · intro other otherHost otherPort otherReader otherWriter held
        obtain ⟨conn, member, rfl, -⟩ := holds.tracked _ _ _ _ _ held
        exact unused _ conn member
      · rintro other otherHost otherPort otherReader otherWriter - ⟨conn, member, rest⟩
        exact ⟨conn, (mem_addOpened_iff _ _ _ _).mpr (.inl member), rest⟩
  · cases stepped

theorem Exclusive.step (holds : run.Exclusive) {event : PoolEvent}
    (stepped : run.step event = some next) : next.Exclusive := by
  cases event with
  | called id host port now => exact holds.called stepped
  | connected id reader writer createdAt lastUsed => exact holds.connected stepped
  | failed id => exact holds.failed stepped
  | released id now => exact holds.released stepped
  | closed id => exact holds.closed stepped
  | pruned now => exact holds.pruned stepped

/-! ### Every run -/

/-- What the pool promises its callers. -/
structure ServesCallers (run : PoolRun) : Prop where
  /-- No two calls hold the same connection. -/
  oneHolder : ∀ id other host port reader writer otherHost otherPort otherReader,
    run.Holds id host port reader writer →
      run.Holds other otherHost otherPort otherReader writer → id = other
  /-- A connection that is held has one entry, in the list of its server and in use. -/
  oneEntry : ∀ id host port reader writer, run.Holds id host port reader writer →
    (∃ conns conn, run.pool.pools.get? (key host port) = some conns ∧
      (conns.filter fun conn => decide (conn.writer = writer)) = [conn] ∧
        conn.reader = reader ∧ conn.inUse = true) ∧
      ∀ other conns, run.pool.pools.get? other = some conns → other ≠ key host port →
        ∀ conn ∈ conns, conn.writer ≠ writer
  /-- A pruning closes no connection that is held. -/
  prunesIdle : ∀ now id host port reader writer, run.Holds id host port reader writer →
    writer ∉ (run.pool.pruneIdle now).2
  /-- What a call holds, so also what it was just given, has not been closed by the pool. -/
  notClosed : ∀ id host port reader writer, run.Holds id host port reader writer →
    writer ∉ run.closed

theorem Exclusive.servesCallers (holds : run.Exclusive) : run.ServesCallers := by
  refine ⟨holds.exclusive, fun id host port reader writer held => ?_,
    fun now id host port reader writer held pruned => ?_,
    fun id host port reader writer held closed => ?_⟩
  · obtain ⟨conn, member, rfl, sameReader, inUse⟩ := holds.tracked id host port reader writer held
    have entry : ∀ other conns, run.pool.pools.get? other = some conns →
        run.pool.poolAt other = conns := by
      intro other conns found
      rw [poolAt, found]
      rfl
    constructor
    · cases found : run.pool.pools.get? (key host port) with
      | none =>
        rw [poolAt, found] at member
        cases member
      | some conns =>
        rw [entry _ _ found] at member
        have distinct := holds.tidy.distinct.lists (key host port)
        rw [entry _ _ found] at distinct
        exact ⟨conns, conn, rfl, filter_label PooledConnection.writer distinct member,
          sameReader, inUse⟩
    · intro other conns found different otherConn otherMember same
      refine different (holds.tidy.distinct.keys other _ otherConn ?_ conn member same)
      rw [entry _ _ found]
      exact otherMember
  · obtain ⟨other, conn, member, same, prunable⟩ := mem_pruneIdle_closed pruned
    rw [isPrunable, Bool.and_eq_true] at prunable
    have idle : conn.inUse = false := by simpa using prunable.1
    exact holds.held_ne_idle held member idle same.symm
  · obtain ⟨conn, member, rfl, -⟩ := holds.tracked id host port reader writer held
    exact (holds.tidy.known _ conn member).2 closed

/-- Whatever order calls, connections, releases, closes and prunings come in, the pool serves its
callers: connections are exclusive, stay in the pool while they are held, and are not handed out
again once they are closed. -/
theorem pool_serves_callers (maxIdlePerServer : Int) (idleTimeout : Time) (events : List PoolEvent)
    (ran : runFrom step (new maxIdlePerServer idleTimeout) events = some run) :
    run.ServesCallers :=
  (run_invariant (fun _ _ _ _ holds stepped => Exclusive.step holds stepped)
    (exclusive_new maxIdlePerServer idleTimeout) (holdsAlong_true _ _) ran).servesCallers

/-- Two calls for one server are suspended together. The first connection is released, reused and
closed, and a pruning comes before the second connection is open. -/
def plainPoolEvents : List PoolEvent :=
  [.called 0 "a" 80 0, .called 1 "a" 80 0, .connected 0 10 11 1 1, .released 0 2,
    .called 2 "a" 80 3, .closed 2, .pruned 90, .connected 1 20 21 91 91]

theorem pool_serves_callers_plain :
    ∃ run, runFrom step (new 32 60) plainPoolEvents = some run ∧ run.ServesCallers := by
  have taken : (runFrom step (new 32 60) plainPoolEvents).isSome = true := by decide
  obtain ⟨run, ran⟩ := Option.isSome_iff_exists.mp taken
  exact ⟨run, ran, pool_serves_callers 32 60 plainPoolEvents ran⟩

end PoolRun

end LocalNetwork
