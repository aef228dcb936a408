/-
This file models the pool of upstream connections: for each server a list of connections,
each in use or idle. A caller that finds no idle connection opens one and is suspended until
it is open; in between, other callers may empty the list of the server, and a pruning may
take it out of the pool.

Every operation is described by the connections it leaves in the pool, given that no two of
them have the same writer. From this a connection is held by one caller at most, it stays in
the pool under its own key as long as it is held, and what the pool has closed is never
handed out again.
-/

import LocalNetwork.Basic
import LocalNetwork.Dict
import LocalNetwork.Transition

namespace LocalNetwork

/-! ### The first element with a property -/

section UpdateFirst

variable {Element : Type}

/-- Update the first element with a property in place. -/
def updateFirst (chosen : Element → Bool) (update : Element → Element) :
    List Element → List Element
  | [] => []
  | element :: rest =>
    if chosen element then update element :: rest
    else element :: updateFirst chosen update rest

variable {chosen : Element → Bool} {update : Element → Element} {elements : List Element}
  {first : Element}

/-- An update that keeps the labels keeps the list of labels. -/
theorem map_updateFirst {Label : Type} (label : Element → Label)
    (kept : ∀ element, label (update element) = label element) (elements : List Element) :
    (updateFirst chosen update elements).map label = elements.map label := by
  induction elements with
  | nil => rfl
  | cons element rest inductionHypothesis =>
    rw [updateFirst]
    split
    · rw [List.map_cons, List.map_cons, kept]
    · rw [List.map_cons, List.map_cons, inductionHypothesis]

/-- With distinct labels, the update replaces the first element with the property and no other. -/
theorem mem_updateFirst_iff {Label : Type} (label : Element → Label)
    (distinct : (elements.map label).Nodup) (found : elements.find? chosen = some first)
    (element : Element) :
    element ∈ updateFirst chosen update elements ↔
      element ∈ elements ∧ label element ≠ label first ∨ element = update first := by
  induction elements with
  | nil => cases found
  | cons head rest inductionHypothesis =>
    rw [List.map_cons, List.nodup_cons] at distinct
    rw [updateFirst]
    by_cases here : chosen head = true
    · rw [List.find?_cons_of_pos here] at found
      obtain rfl := Option.some.inj found
      rw [if_pos here, List.mem_cons, List.mem_cons]
      constructor
      · rintro (same | later)
        · exact .inr same
        · exact .inl ⟨.inr later, fun equal =>
            distinct.1 (equal ▸ List.mem_map_of_mem later)⟩
      · rintro (⟨same | later, different⟩ | same)
        · exact absurd (congrArg label same) different
        · exact .inr later
        · exact .inl same
    · rw [List.find?_cons_of_neg here] at found
      have firstIn : first ∈ rest := List.mem_of_find?_eq_some found
      have headOther : label head ≠ label first := fun equal =>
        distinct.1 (equal ▸ List.mem_map_of_mem firstIn)
      rw [if_neg here, List.mem_cons, inductionHypothesis distinct.2 found, List.mem_cons]
      constructor
      · rintro (rfl | ⟨later, different⟩ | same)
        · exact .inl ⟨.inl rfl, headOther⟩
        · exact .inl ⟨.inr later, different⟩
        · exact .inr same
      · rintro (⟨same | later, different⟩ | same)
        · exact .inl same
        · exact .inr (.inl ⟨later, different⟩)
        · exact .inr (.inr same)

/-- With distinct labels, erasing the first element with a label erases every one. -/
theorem eraseP_eq_filter {Label : Type} [DecidableEq Label] (label : Element → Label)
    (distinct : (elements.map label).Nodup) (erased : Label) :
    (elements.eraseP fun element => decide (label element = erased)) =
      elements.filter fun element => decide (label element ≠ erased) := by
  induction elements with
  | nil => rfl
  | cons head rest inductionHypothesis =>
    rw [List.map_cons, List.nodup_cons] at distinct
    by_cases here : label head = erased
    · rw [List.eraseP_cons_of_pos (by simp [here]), List.filter_cons_of_neg (by simp [here])]
      refine (List.filter_eq_self.mpr fun element member => ?_).symm
      refine decide_eq_true fun same => distinct.1 ?_
      exact (here.trans same.symm) ▸ List.mem_map_of_mem member
    · rw [List.eraseP_cons_of_neg (by simp [here]), List.filter_cons_of_pos (by simp [here]),
        inductionHypothesis distinct.2]

/-- With distinct labels, an element is the only one with its label. -/
theorem filter_label {Label : Type} [DecidableEq Label] (label : Element → Label)
    (distinct : (elements.map label).Nodup) {element : Element} (member : element ∈ elements) :
    (elements.filter fun other => decide (label other = label element)) = [element] := by
  induction elements with
  | nil => cases member
  | cons head rest inductionHypothesis =>
    rw [List.map_cons, List.nodup_cons] at distinct
    rcases List.mem_cons.mp member with rfl | later
    · rw [List.filter_cons_of_pos (by simp)]
      refine congrArg _ (List.filter_eq_nil_iff.mpr fun other otherMember same => distinct.1 ?_)
      exact of_decide_eq_true same ▸ List.mem_map_of_mem otherMember
    · have different : label head ≠ label element := fun same =>
        distinct.1 (same ▸ List.mem_map_of_mem later)
      rw [List.filter_cons_of_neg (by simp [different]), inductionHypothesis distinct.2 later]

end UpdateFirst

/-! ### The pool -/

/-- A reader and a writer stand for the objects; no two connections share one. -/
structure PooledConnection where
  reader : Nat
  writer : Nat
  host : String
  port : Int
  createdAt : Time
  lastUsed : Time
  inUse : Bool

structure UpstreamPool where
  maxIdlePerServer : Int
  idleTimeout : Time
  pools : Dict String (List PooledConnection)

namespace UpstreamPool

def key (host : String) (port : Int) : String := host ++ ":" ++ toString port

/-- The connections under a key; none when the key is absent. -/
def poolAt (pool : UpstreamPool) (key : String) : List PooledConnection :=
  (pool.pools.get? key).getD []

def isStale (pool : UpstreamPool) (conn : PooledConnection) (now : Time) : Bool :=
  decide (pool.idleTimeout < now - conn.lastUsed)

/-- An idle connection that has not timed out. -/
def isUsable (pool : UpstreamPool) (now : Time) (conn : PooledConnection) : Bool :=
  !conn.inUse && !pool.isStale conn now

/-- `get_connection` up to where it would open a connection: the connection it takes from the pool,
if there is one. -/
def takeIdle (pool : UpstreamPool) (host : String) (port : Int) (now : Time) :
    Option PooledConnection × UpstreamPool :=
  match (pool.poolAt (key host port)).find? (pool.isUsable now) with
  | none => (none, pool)
  | some conn =>
    (some conn,
      { pool with
        pools := pool.pools.modify (key host port) (updateFirst (pool.isUsable now) fun conn =>
          { conn with inUse := true, lastUsed := now }) })

/-- The rest of `get_connection`, once the connection is open. -/
def addOpened (pool : UpstreamPool) (conn : PooledConnection) : UpstreamPool :=
  { pool with
    pools := pool.pools.insert (key conn.host conn.port)
      (pool.poolAt (key conn.host conn.port) ++ [{ conn with inUse := true }]) }

/-- `release`, with the writers it closes: a connection that is not tracked is closed. -/
def release (pool : UpstreamPool) (host : String) (port : Int) (writer : Nat) (now : Time) :
    UpstreamPool × List Nat :=
  if (pool.poolAt (key host port)).any fun conn => decide (conn.writer = writer) then
    ({ pool with
        pools := pool.pools.modify (key host port)
          (updateFirst (fun conn => decide (conn.writer = writer)) fun conn =>
            { conn with inUse := false, lastUsed := now }) }, [])
  else (pool, [writer])

/-- `close_connection`, with the writers it closes. -/
def closeConnection (pool : UpstreamPool) (host : String) (port : Int) (writer : Nat) :
    UpstreamPool × List Nat :=
  if (pool.poolAt (key host port)).any fun conn => decide (conn.writer = writer) then
    ({ pool with
        pools := pool.pools.modify (key host port)
          (List.eraseP fun conn => decide (conn.writer = writer)) }, [writer])
  else (pool, [])

/-- A connection that `prune_idle` closes. -/
def isPrunable (pool : UpstreamPool) (now : Time) (conn : PooledConnection) : Bool :=
  !conn.inUse && pool.isStale conn now

/-- `prune_idle`, with the writers it closes. Lists that are empty afterwards go. -/
def pruneIdle (pool : UpstreamPool) (now : Time) : UpstreamPool × List Nat :=
  ({ pool with
      pools := (pool.pools.mapValues fun _ conns =>
        conns.filter fun conn => !pool.isPrunable now conn).filter fun _ conns => !conns.isEmpty },
    (pool.pools.values.flatten.filter (pool.isPrunable now)).map PooledConnection.writer)

/-! ### What the operations leave in the pool -/

/-- No two connections of the pool have the same writer. -/
structure Distinct (pool : UpstreamPool) : Prop where
  lists : ∀ key, ((pool.poolAt key).map PooledConnection.writer).Nodup
  keys : ∀ key other, ∀ conn ∈ pool.poolAt key, ∀ otherConn ∈ pool.poolAt other,
    conn.writer = otherConn.writer → key = other

variable {pool : UpstreamPool} {host : String} {port : Int} {now : Time}

theorem Distinct.unique (distinct : pool.Distinct) {key other : String}
    {conn otherConn : PooledConnection} (member : conn ∈ pool.poolAt key)
    (otherMember : otherConn ∈ pool.poolAt other) (same : conn.writer = otherConn.writer) :
    conn = otherConn := by
  obtain rfl := distinct.keys key other conn member otherConn otherMember same
  exact List.inj_on_of_nodup_map (distinct.lists key) member otherMember same

theorem poolAt_modify (pool : UpstreamPool) (key other : String)
    (update : List PooledConnection → List PooledConnection) (empty : update [] = []) :
    { pool with pools := pool.pools.modify key update }.poolAt other =
      if other = key then update (pool.poolAt other) else pool.poolAt other := by
  simp only [poolAt, Dict.get?_modify]
  split
  · cases pool.pools.get? other with
    | none => exact empty.symm
    | some conns => rfl
  · rfl

/-- The update of one connection: it is replaced, and the other ones stay. -/
theorem Distinct.mem_update (distinct : pool.Distinct) {key : String}
    {chosen : PooledConnection → Bool} {update : PooledConnection → PooledConnection}
    {first : PooledConnection} (found : (pool.poolAt key).find? chosen = some first)
    (other : String) (conn : PooledConnection) :
    conn ∈ { pool with
        pools := pool.pools.modify key (updateFirst chosen update) }.poolAt other ↔
      conn ∈ pool.poolAt other ∧ conn.writer ≠ first.writer ∨
        other = key ∧ conn = update first := by
  rw [poolAt_modify _ _ _ _ rfl]
  by_cases here : other = key
  · subst here
    rw [if_pos rfl, mem_updateFirst_iff PooledConnection.writer (distinct.lists other) found]
    simp
  · rw [if_neg here]
    have elsewhere : conn ∈ pool.poolAt other → conn.writer ≠ first.writer := fun member same =>
      here (distinct.keys other key conn member first (List.mem_of_find?_eq_some found) same)
    simp only [here, false_and, or_false]
    exact ⟨fun member => ⟨member, elsewhere member⟩, And.left⟩

theorem Distinct.update (distinct : pool.Distinct) {key : String}
    {chosen : PooledConnection → Bool} {update : PooledConnection → PooledConnection}
    {first : PooledConnection} (found : (pool.poolAt key).find? chosen = some first)
    (kept : ∀ conn, (update conn).writer = conn.writer) :
    { pool with pools := pool.pools.modify key (updateFirst chosen update) }.Distinct := by
  have firstMember := List.mem_of_find?_eq_some found
  constructor
  · intro other
    rw [poolAt_modify _ _ _ _ rfl]
    split
    · rw [map_updateFirst _ kept]
      exact distinct.lists other
    · exact distinct.lists other
  · -- Every connection after the update stands for one with its writer, under the same key.
    have before : ∀ other conn, conn ∈ { pool with
        pools := pool.pools.modify key (updateFirst chosen update) }.poolAt other →
          ∃ old ∈ pool.poolAt other, old.writer = conn.writer := by
      intro other conn member
      rcases (distinct.mem_update found other conn).mp member with ⟨old, -⟩ | ⟨rfl, rfl⟩
      · exact ⟨conn, old, rfl⟩
      · exact ⟨first, firstMember, (kept first).symm⟩
    intro one two conn member otherConn otherMember same
    obtain ⟨old, oldMember, oldSame⟩ := before one conn member
    obtain ⟨otherOld, otherOldMember, otherOldSame⟩ := before two otherConn otherMember
    exact distinct.keys one two old oldMember otherOld otherOldMember
      (oldSame.trans (same.trans otherOldSame.symm))

/-- The removal of connections leaves the pool distinct. -/
theorem Distinct.of_sublist (distinct : pool.Distinct) {smaller : UpstreamPool}
    (sublist : ∀ key, (smaller.poolAt key).Sublist (pool.poolAt key)) : smaller.Distinct :=
  ⟨fun key => (distinct.lists key).sublist ((sublist key).map _),
    fun one two conn member otherConn otherMember =>
      distinct.keys one two conn ((sublist one).subset member) otherConn
        ((sublist two).subset otherMember)⟩

theorem takeIdle_cases (pool : UpstreamPool) (host : String) (port : Int) (now : Time) :
    pool.takeIdle host port now = (none, pool) ∨
      ∃ first, (pool.poolAt (key host port)).find? (pool.isUsable now) = some first ∧
        pool.takeIdle host port now = (some first,
          { pool with
            pools := pool.pools.modify (key host port) (updateFirst (pool.isUsable now)
              fun conn => { conn with inUse := true, lastUsed := now }) }) := by
  unfold takeIdle
  cases found : (pool.poolAt (key host port)).find? (pool.isUsable now) with
  | none => exact .inl rfl
  | some first => exact .inr ⟨first, rfl, rfl⟩

theorem mem_addOpened_iff (pool : UpstreamPool) (opened : PooledConnection) (other : String)
    (conn : PooledConnection) :
    conn ∈ (pool.addOpened opened).poolAt other ↔
      conn ∈ pool.poolAt other ∨
        other = key opened.host opened.port ∧ conn = { opened with inUse := true } := by
  unfold addOpened poolAt
  dsimp only
  rw [Dict.get?_insert]
  split
  · rename_i here
    subst here
    simp
  · rename_i elsewhere
    simp [elsewhere]

theorem Distinct.addOpened (distinct : pool.Distinct) {opened : PooledConnection}
    (fresh : ∀ other, ∀ conn ∈ pool.poolAt other, conn.writer ≠ opened.writer) :
    (pool.addOpened opened).Distinct := by
  constructor
  · intro other
    unfold UpstreamPool.addOpened poolAt
    dsimp only
    rw [Dict.get?_insert]
    split
    · rename_i here
      subst here
      rw [Option.getD_some, List.map_append]
      refine List.Nodup.append (distinct.lists _) (List.nodup_singleton _) ?_
      intro writer member single
      obtain ⟨conn, connMember, rfl⟩ := List.mem_map.mp member
      exact fresh _ conn connMember (List.mem_singleton.mp single)
    · exact distinct.lists other
  · intro one two conn member otherConn otherMember same
    rcases (mem_addOpened_iff pool opened one conn).mp member with old | ⟨rfl, rfl⟩
    · rcases (mem_addOpened_iff pool opened two otherConn).mp otherMember with
        otherOld | ⟨rfl, rfl⟩
      · exact distinct.keys one two conn old otherConn otherOld same
      · exact absurd same (fresh one conn old)
    · rcases (mem_addOpened_iff pool opened two otherConn).mp otherMember with
        otherOld | ⟨rfl, rfl⟩
      · exact absurd same.symm (fresh two otherConn otherOld)
      · rfl

theorem poolAt_closeConnection (distinct : pool.Distinct) (writer : Nat)
    (present : ∃ conn ∈ pool.poolAt (key host port), conn.writer = writer) (other : String) :
    (pool.closeConnection host port writer).1.poolAt other =
      (pool.poolAt other).filter fun conn => decide (conn.writer ≠ writer) := by
  obtain ⟨first, member, rfl⟩ := present
  have any : ((pool.poolAt (key host port)).any fun conn =>
      decide (conn.writer = first.writer)) = true := List.any_eq_true.mpr ⟨first, member, by simp⟩
  rw [closeConnection, if_pos any, poolAt_modify _ _ _ _ rfl]
  split
  · exact eraseP_eq_filter PooledConnection.writer (distinct.lists other) first.writer
  · rename_i elsewhere
    refine (List.filter_eq_self.mpr fun conn connMember => ?_).symm
    exact decide_eq_true fun same =>
      elsewhere (distinct.keys other _ conn connMember first member same)

theorem poolAt_pruneIdle (pool : UpstreamPool) (now : Time) (other : String) :
    (pool.pruneIdle now).1.poolAt other =
      (pool.poolAt other).filter fun conn => !pool.isPrunable now conn := by
  unfold pruneIdle poolAt
  dsimp only
  rw [Dict.get?_filter, Dict.get?_mapValues]
  cases pool.pools.get? other with
  | none => rfl
  | some conns =>
    rw [Option.map_some, Option.getD_some]
    cases left : conns.filter fun conn => !pool.isPrunable now conn with
    | nil => rfl
    | cons conn rest => rfl

theorem mem_pruneIdle_closed {writer : Nat} (closed : writer ∈ (pool.pruneIdle now).2) :
    ∃ other, ∃ conn ∈ pool.poolAt other, conn.writer = writer ∧
      pool.isPrunable now conn = true := by
  obtain ⟨conn, member, rfl⟩ := List.mem_map.mp closed
  obtain ⟨inPool, prunable⟩ := List.mem_filter.mp member
  obtain ⟨conns, connsMember, connMember⟩ := List.mem_flatten.mp inPool
  obtain ⟨other, found⟩ := Dict.mem_values_iff.mp connsMember
  refine ⟨other, conn, ?_, rfl, prunable⟩
  rw [poolAt, found]
  exact connMember

end UpstreamPool

end LocalNetwork
