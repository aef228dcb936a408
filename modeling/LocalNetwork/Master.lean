/-
This file models the master of the proxy, `proxy/master.py`: it starts the workers, restarts those
that died, and reloads or stops all of them when it gets a signal.

Python runs a signal handler between two instructions of whatever the master is doing, so a reload
may start inside the loop that restarts workers, inside another reload, or inside the shutdown. The
model has one frame for each function that is running, the innermost first, and takes the steps of
the innermost; a signal puts the frame of its handler on top. Lists are objects: a loop goes on over
the list that it started with, also when `_workers` is another one by then. A process can always be
started, and one that was told to stop, waited for and killed is gone.

The file proves that nothing is lost if signals are handled while the master sleeps, reloads while
another reload starts or stops workers: every process that runs is one of the workers, there are as
many of these as the configuration says, and after a shutdown none runs. A reload that is handled
while dead workers are restarted may lose a worker for good.
-/

import LocalNetwork.Transition
import Mathlib.Algebra.BigOperators.Group.List.Basic
import Mathlib.Algebra.GroupWithZero.Nat
import Mathlib.Data.Finset.Basic

namespace LocalNetwork

/-! ### The model -/

/-- Where a function of the master stands. A list is named by the identity of the object. -/
inductive MasterFrame where
  /-- `start` starts the worker of this number next. -/
  | spawning (next : Nat)
  /-- `_spawn_worker` has started a process and appends it to `_workers`. -/
  | appending (worker : Nat)
  | sleeping
  /-- `_reap_workers` looks at the place of this number in the list. -/
  | reaping (list index : Nat)
  /-- It has found a dead worker there, and puts a new process at the place in `_workers`. -/
  | replacing (list index : Nat)
  /-- It starts the process at the place in `_workers`. -/
  | starting (list index : Nat)
  /-- `reload` has read the old workers. -/
  | swapping (old : Nat)
  /-- `reload` starts the worker of this number out of as many as there were. -/
  | reloading (old count next : Nat)
  /-- `reload` stops the old worker at the place of this number: `terminate`, `join`, `kill`. -/
  | terminating (old index : Nat)
  /-- `shutdown` tells the worker at the place to stop. -/
  | asking (list index : Nat)
  /-- `shutdown` waits for the worker at the place, and kills it. -/
  | stopping (list index : Nat)
  /-- The master has left by `sys.exit`. -/
  | exited
  /-- An exception has left `start`. -/
  | crashed
  deriving DecidableEq

/-- The master sleeps, or reloads. -/
def MasterFrame.reloads : MasterFrame → Bool
  | .sleeping | .appending _ | .reloading _ _ _ | .terminating _ _ => true
  | _ => false

inductive MasterSignal where
  | reload
  | shutdown
  deriving DecidableEq

inductive MasterEvent where
  /-- The innermost function takes a step. -/
  | advance
  /-- A process ends. -/
  | dies (worker : Nat)
  | signal (signal : MasterSignal)
  deriving DecidableEq

/-- The master with its lists of processes, and the processes that were started and that run. -/
structure Master where
  count : Nat
  lists : Nat → List Nat
  nextList : Nat
  workers : Nat
  nextWorker : Nat
  started : Finset Nat
  alive : Finset Nat
  listening : Bool
  frames : List MasterFrame

namespace Master

/-- The master when `start` has bound its sockets. -/
def init (count : Nat) : Master where
  count := count
  lists _ := []
  nextList := 1
  workers := 0
  nextWorker := 0
  started := ∅
  alive := ∅
  listening := true
  frames := [.spawning 0]

variable (master : Master)

/-- The processes in a list. -/
def current : List Nat := master.lists master.workers

def setWorkers (workers : List Nat) : Master :=
  { master with lists := Function.update master.lists master.workers workers }

/-- Start a new process. -/
def launch : Master :=
  { master with
    nextWorker := master.nextWorker + 1
    started := insert master.nextWorker master.started
    alive := insert master.nextWorker master.alive }

/-- A process has come to its end. -/
def ended (worker : Nat) : Master := { master with alive := master.alive.erase worker }

/-- The functions that run. -/
def within (frames : List MasterFrame) : Master := { master with frames := frames }

/-- An exception goes through all functions. -/
def raise : Master := master.within [.crashed]

/-- A step of the innermost function, with the others that run around it. -/
def advance (rest : List MasterFrame) : MasterFrame → Option Master
  | .spawning next =>
    if next < master.count then
      some (master.launch.within (.appending master.nextWorker :: .spawning (next + 1) :: rest))
    else some (master.within (.reaping master.workers 0 :: rest))
  | .appending worker => some ((master.setWorkers (master.current ++ [worker])).within rest)
  | .sleeping => some (master.within (.reaping master.workers 0 :: rest))
  | .reaping list index =>
    match (master.lists list)[index]? with
    | none => some (master.within (.sleeping :: rest))
    | some worker =>
      if worker ∈ master.alive then some (master.within (.reaping list (index + 1) :: rest))
      else some (master.within (.replacing list index :: rest))
  | .replacing list index =>
    if index < master.current.length then
      let made := { master with nextWorker := master.nextWorker + 1 }
      some ((made.setWorkers (master.current.set index master.nextWorker)).within
        (.starting list index :: rest))
    else some master.raise
  | .starting list index =>
    match master.current[index]? with
    | none => some master.raise
    | some worker =>
      if worker ∈ master.started then some master.raise
      else
        some { master with
          started := insert worker master.started
          alive := insert worker master.alive
          frames := .reaping list (index + 1) :: rest }
  | .swapping old =>
    some { master with
      lists := Function.update master.lists master.nextList []
      nextList := master.nextList + 1
      workers := master.nextList
      frames := .reloading old (master.lists old).length 0 :: rest }
  | .reloading old count next =>
    if next < count then
      some (master.launch.within
        (.appending master.nextWorker :: .reloading old count (next + 1) :: rest))
    else some (master.within (.terminating old 0 :: rest))
  | .terminating old index =>
    match (master.lists old)[index]? with
    | none => some (master.within rest)
    | some worker =>
      if worker ∈ master.started then
        some ((master.ended worker).within (.terminating old (index + 1) :: rest))
      else some master.raise
  | .asking list index =>
    match (master.lists list)[index]? with
    | none => some (master.within (.stopping master.workers 0 :: rest))
    | some worker =>
      if worker ∈ master.started then some (master.within (.asking list (index + 1) :: rest))
      else some master.raise
  | .stopping list index =>
    match (master.lists list)[index]? with
    | none => some { master with listening := false, frames := [.exited] }
    | some worker =>
      if worker ∈ master.started then
        some ((master.ended worker).within (.stopping list (index + 1) :: rest))
      else some master.raise
  | .exited | .crashed => none

/-- The handlers are set once the workers are started; before that a signal ends the master. -/
def handles : Bool :=
  !master.frames.any fun frame =>
    match frame with
    | .spawning _ | .exited | .crashed => true
    | _ => false

def step : MasterEvent → Option Master
  | .advance =>
    match master.frames with
    | [] => none
    | frame :: rest => master.advance rest frame
  | .dies worker => if worker ∈ master.alive then some (master.ended worker) else none
  | .signal signal =>
    if master.handles then
      match signal with
      | .reload => some (master.within (.swapping master.workers :: master.frames))
      | .shutdown => some (master.within (.asking master.workers 0 :: master.frames))
    else none

/-! ### Nothing is lost -/

/-- Signals are handled while the master sleeps, and a reload also while another starts or stops
workers. -/
def Calm (master : Master) : MasterEvent → Prop
  | .signal .reload => master.frames.head?.any MasterFrame.reloads = true
  | .signal .shutdown => master.frames = [.sleeping]
  | _ => True

instance decidableCalm : (event : MasterEvent) → Decidable (Calm master event)
  | .advance | .dies _ => isTrue trivial
  | .signal .reload => inferInstanceAs (Decidable (_ = true))
  | .signal .shutdown => inferInstanceAs (Decidable (_ = _))

end Master

namespace MasterFrame

/-- How many workers a function still adds to `_workers`. -/
def owed (count : Nat) : MasterFrame → Nat
  | .spawning next => count - next
  | .appending _ => 1
  | .reloading _ among next => among - next
  | _ => 0

/-- The processes that a function knows beside those in `_workers`. -/
def covers (lists : Nat → List Nat) : MasterFrame → List Nat
  | .appending worker => [worker]
  | .reloading old _ _ => lists old
  | .terminating old index => (lists old).drop index
  | _ => []

/-- The list of old workers of a reload. -/
def old : MasterFrame → Option Nat
  | .reloading old _ _ | .terminating old _ => some old
  | _ => none

/-- Only the list of old workers matters for what is covered. -/
theorem covers_congr {lists others : Nat → List Nat} (frame : MasterFrame)
    (same : ∀ old ∈ frame.old, lists old = others old) :
    frame.covers lists = frame.covers others := by
  cases frame with
  | reloading old among next => exact same old rfl
  | terminating old index => exact congrArg (List.drop index) (same old rfl)
  | _ => rfl

end MasterFrame

namespace Master

/-- Reloads that were interrupted by reloads, over the sleep. -/
inductive Handlers : List MasterFrame → Prop
  | sleeping : Handlers [.sleeping]
  | appending (worker : Nat) {rest : List MasterFrame} (handlers : Handlers rest) :
    Handlers (.appending worker :: rest)
  | reloading (old count next : Nat) {rest : List MasterFrame} (handlers : Handlers rest) :
    Handlers (.reloading old count next :: rest)
  | terminating (old index : Nat) {rest : List MasterFrame} (handlers : Handlers rest) :
    Handlers (.terminating old index :: rest)

/-- Which functions run, and what the innermost relies on. -/
inductive Shape (master : Master) : Prop
  | spawning (next : Nat) (frames : master.frames = [.spawning next])
  | appending (worker next : Nat) (frames : master.frames = [.appending worker, .spawning next])
  | handling (handlers : Handlers master.frames)
  | swapping (rest : List MasterFrame) (frames : master.frames = .swapping master.workers :: rest)
    (handlers : Handlers rest)
  | reaping (index : Nat) (frames : master.frames = [.reaping master.workers index])
  | replacing (index worker : Nat) (frames : master.frames = [.replacing master.workers index])
    (placed : master.current[index]? = some worker) (dead : worker ∉ master.alive)
  | starting (index worker : Nat) (frames : master.frames = [.starting master.workers index])
    (placed : master.current[index]? = some worker) (unstarted : worker ∉ master.started)
    (recent : worker < master.nextWorker)
  | asking (index : Nat) (frames : master.frames = [.asking master.workers index, .sleeping])
  | stopping (index : Nat) (frames : master.frames = [.stopping master.workers index, .sleeping])
    (left : ∀ worker ∈ master.alive, worker ∈ master.current.drop index)
  | exited (frames : master.frames = [.exited]) (none : master.alive = ∅)
    (closed : master.listening = false)

/-- The workers are as many as the configuration says, with those that a function still adds, and
every process that runs is one of them or known to a function that goes on with it. -/
structure Supervised (master : Master) : Prop where
  total : master.current.length + (master.frames.map (MasterFrame.owed master.count)).sum =
    master.count
  covered : ∀ worker ∈ master.alive, worker ∈ master.current ∨
    ∃ frame ∈ master.frames, worker ∈ frame.covers master.lists
  placed : ∀ worker ∈ master.current, worker ∈ master.started ∨
    ∃ index, master.frames = [.starting master.workers index] ∧
      master.current[index]? = some worker
  olds : ∀ frame ∈ master.frames, ∀ old ∈ frame.old, old < master.nextList ∧
    old ≠ master.workers ∧ ∀ worker ∈ master.lists old, worker ∈ master.started
  appended : ∀ worker, .appending worker ∈ master.frames → worker ∈ master.started
  current : master.workers < master.nextList
  numbered : ∀ worker ∈ master.started, worker < master.nextWorker
  shape : Shape master

variable {master next : Master}

theorem supervised_init (count : Nat) : Supervised (init count) where
  total := by simp [init, Master.current, MasterFrame.owed]
  covered worker running := absurd running (Finset.notMem_empty worker)
  placed worker member := absurd member List.not_mem_nil
  olds frame member old known := by
    obtain rfl := List.mem_singleton.mp member
    cases known
  appended worker member := by cases List.mem_singleton.mp member
  current := Nat.one_pos
  numbered worker started := absurd started (Finset.notMem_empty worker)
  shape := .spawning 0 rfl

/-- The workers are all started, unless one is about to be. -/
theorem Supervised.started (supervised : Supervised master)
    (none : ∀ index, master.frames ≠ [.starting master.workers index]) :
    ∀ worker ∈ master.current, worker ∈ master.started := by
  intro worker member
  rcases supervised.placed worker member with started | ⟨index, frames, -⟩
  · exact started
  · exact absurd frames (none index)

theorem not_starting {frame : MasterFrame} {rest : List MasterFrame}
    (frames : master.frames = frame :: rest) (other : ∀ list index, frame ≠ .starting list index) :
    ∀ index, master.frames ≠ [.starting master.workers index] := by
  intro index same
  exact other _ _ (List.cons.inj (frames.symm.trans same)).1

/-- Only the functions that run change. -/
theorem Supervised.within (supervised : Supervised master) {frames : List MasterFrame}
    (none : ∀ index, master.frames ≠ [.starting master.workers index])
    (owed : (frames.map (MasterFrame.owed master.count)).sum =
      (master.frames.map (MasterFrame.owed master.count)).sum)
    (covers : ∀ frame ∈ master.frames, ∀ worker ∈ frame.covers master.lists,
      ∃ other ∈ frames, worker ∈ other.covers master.lists)
    (olds : ∀ frame ∈ frames, ∀ old ∈ frame.old, ∃ other ∈ master.frames, old ∈ other.old)
    (appended : ∀ worker, .appending worker ∈ frames → .appending worker ∈ master.frames)
    (shape : Shape (master.within frames)) : Supervised (master.within frames) where
  total := owed ▸ supervised.total
  covered worker running := by
    rcases supervised.covered worker running with now | ⟨frame, member, known⟩
    · exact .inl now
    · exact .inr (covers frame member worker known)
  placed worker member := .inl (supervised.started none worker member)
  olds frame member old known := by
    obtain ⟨other, otherMember, otherKnown⟩ := olds frame member old known
    exact supervised.olds other otherMember old otherKnown
  appended worker member := supervised.appended worker (appended worker member)
  current := supervised.current
  numbered := supervised.numbered
  shape := shape

/-- The innermost function changes, and knew no processes of its own. -/
theorem Supervised.turn (supervised : Supervised master) {frame later : MasterFrame}
    {rest : List MasterFrame} (frames : master.frames = frame :: rest)
    (none : ∀ index, master.frames ≠ [.starting master.workers index])
    (owed : later.owed master.count = frame.owed master.count)
    (covers : frame.covers master.lists = []) (old : later.old = Option.none)
    (other : ∀ worker, later ≠ .appending worker) (shape : Shape (master.within (later :: rest))) :
    Supervised (master.within (later :: rest)) := by
  refine supervised.within none ?_ (fun known member worker here => ?_)
    (fun known member list here => ?_) (fun worker member => ?_) shape
  · rw [frames, List.map_cons, List.map_cons, List.sum_cons, List.sum_cons, owed]
  · rw [frames] at member
    rcases List.mem_cons.mp member with rfl | inRest
    · rw [covers] at here
      exact absurd here List.not_mem_nil
    · exact ⟨known, List.mem_cons_of_mem _ inRest, here⟩
  · rcases List.mem_cons.mp member with rfl | inRest
    · rw [old] at here
      cases here
    · exact ⟨known, frames ▸ List.mem_cons_of_mem _ inRest, here⟩
  · rcases List.mem_cons.mp member with same | inRest
    · exact absurd same.symm (other worker)
    · exact frames ▸ List.mem_cons_of_mem _ inRest

/-- A new process is started and will be appended. -/
theorem Supervised.launch (supervised : Supervised master) {frame later : MasterFrame}
    {rest : List MasterFrame} (frames : master.frames = frame :: rest)
    (none : ∀ index, master.frames ≠ [.starting master.workers index])
    (owed : frame.owed master.count = later.owed master.count + 1)
    (covers : ∀ lists, later.covers lists = frame.covers lists) (old : later.old = frame.old)
    (other : ∀ worker, later ≠ .appending worker)
    (shape : Shape (master.launch.within (.appending master.nextWorker :: later :: rest))) :
    Supervised (master.launch.within (.appending master.nextWorker :: later :: rest)) where
  total := by
    have total := supervised.total
    rw [frames, List.map_cons, List.sum_cons, owed] at total
    show master.current.length + (1 + (later.owed master.count +
      (rest.map (MasterFrame.owed master.count)).sum)) = master.count
    omega
  covered worker running := by
    rcases Finset.mem_insert.mp running with rfl | before
    · exact .inr ⟨_, List.mem_cons_self, List.mem_singleton.mpr rfl⟩
    · rcases supervised.covered worker before with now | ⟨known, member, here⟩
      · exact .inl now
      · rw [frames] at member
        rcases List.mem_cons.mp member with rfl | inRest
        · exact .inr ⟨later, by simp [Master.within], (covers _).symm ▸ here⟩
        · exact .inr ⟨known, by simp [Master.within, inRest], here⟩
  placed worker member := .inl (Finset.mem_insert_of_mem (supervised.started none worker member))
  olds known member list here := by
    have before : ∃ other ∈ master.frames, list ∈ other.old := by
      rw [frames]
      rcases List.mem_cons.mp member with rfl | more
      · cases here
      · rcases List.mem_cons.mp more with rfl | inRest
        · exact ⟨frame, List.mem_cons_self, old ▸ here⟩
        · exact ⟨known, List.mem_cons_of_mem _ inRest, here⟩
    obtain ⟨other, otherMember, otherHere⟩ := before
    obtain ⟨small, different, started⟩ := supervised.olds other otherMember list otherHere
    exact ⟨small, different, fun worker inside => Finset.mem_insert_of_mem (started worker inside)⟩
  appended worker member := by
    rcases List.mem_cons.mp member with same | more
    · obtain rfl := MasterFrame.appending.inj same
      exact Finset.mem_insert_self _ _
    · rcases List.mem_cons.mp more with same | inRest
      · exact absurd same.symm (other worker)
      · refine Finset.mem_insert_of_mem (supervised.appended worker ?_)
        exact frames ▸ List.mem_cons_of_mem _ inRest
  current := supervised.current
  numbered worker started := by
    rcases Finset.mem_insert.mp started with rfl | before
    · exact Nat.lt_succ_self _
    · exact Nat.lt_succ_of_lt (supervised.numbered worker before)
  shape := shape

/-- Changing the current list changes nothing that the reloads go on with. -/
theorem Supervised.covers_setWorkers (supervised : Supervised master) (workers : List Nat)
    {frame : MasterFrame} (member : frame ∈ master.frames) :
    frame.covers (master.setWorkers workers).lists = frame.covers master.lists := by
  refine frame.covers_congr fun old known => ?_
  exact Function.update_of_ne (supervised.olds frame member old known).2.1 _ _

/-- The process that was started is appended. -/
theorem Supervised.append (supervised : Supervised master) {worker : Nat}
    {rest : List MasterFrame} (frames : master.frames = .appending worker :: rest)
    (shape : Shape ((master.setWorkers (master.current ++ [worker])).within rest)) :
    Supervised ((master.setWorkers (master.current ++ [worker])).within rest) := by
  have now : ((master.setWorkers (master.current ++ [worker])).within rest).current =
      master.current ++ [worker] := Function.update_self _ _ _
  have inside : ∀ frame ∈ rest, frame ∈ master.frames := fun frame member =>
    frames ▸ List.mem_cons_of_mem _ member
  refine ⟨?_, fun other running => ?_, fun other member => ?_, fun frame member old known => ?_,
    fun other member => supervised.appended other (inside _ member), supervised.current,
    supervised.numbered, shape⟩
  · have total := supervised.total
    rw [frames, List.map_cons, List.sum_cons] at total
    rw [now, List.length_append, List.length_singleton]
    have one : (MasterFrame.appending worker).owed master.count = 1 := rfl
    rw [one] at total
    exact (Nat.add_assoc _ _ _).trans total
  · rw [now]
    rcases supervised.covered other running with before | ⟨frame, member, known⟩
    · exact .inl (List.mem_append_left _ before)
    · rw [frames] at member
      rcases List.mem_cons.mp member with rfl | inRest
      · exact .inl (List.mem_append_right _ known)
      · refine .inr ⟨frame, inRest, ?_⟩
        rw [← supervised.covers_setWorkers (master.current ++ [worker]) (inside _ inRest)] at known
        exact known
  · rw [now] at member
    rcases List.mem_append.mp member with before | last
    · refine .inl (supervised.started (fun index same => ?_) other before)
      rw [frames] at same
      cases same
    · obtain rfl := List.mem_singleton.mp last
      exact .inl (supervised.appended other (frames ▸ List.mem_cons_self))
  · obtain ⟨small, different, started⟩ := supervised.olds frame (inside _ member) old known
    refine ⟨small, different, fun other placed => started other ?_⟩
    have same : ((master.setWorkers (master.current ++ [worker])).within rest).lists old =
        master.lists old := Function.update_of_ne different _ _
    exact same ▸ placed

/-- A reload puts the workers aside and starts with none. -/
theorem Supervised.swap (supervised : Supervised master) {rest : List MasterFrame}
    (frames : master.frames = .swapping master.workers :: rest) (handlers : Handlers rest) :
    Supervised { master with
      lists := Function.update master.lists master.nextList []
      nextList := master.nextList + 1
      workers := master.nextList
      frames := .reloading master.workers (master.lists master.workers).length 0 :: rest } := by
  have unchanged : ∀ list, list < master.nextList →
      Function.update master.lists master.nextList [] list = master.lists list :=
    fun list small => Function.update_of_ne (Nat.ne_of_lt small) _ _
  have inside : ∀ frame ∈ rest, frame ∈ master.frames := fun frame member =>
    frames ▸ List.mem_cons_of_mem _ member
  have none := not_starting frames nofun
  have empty : Function.update master.lists master.nextList [] master.nextList = [] :=
    Function.update_self _ _ _
  refine ⟨?_, fun worker running => .inr ?_, fun worker member => ?_,
    fun frame member old known => ?_, fun worker member => ?_, Nat.lt_succ_self _,
    supervised.numbered, .handling (.reloading _ _ _ handlers)⟩
  · have total := supervised.total
    rw [frames, List.map_cons, List.sum_cons] at total
    have zero : (MasterFrame.swapping master.workers).owed master.count = 0 := rfl
    rw [zero, Nat.zero_add] at total
    show (Function.update master.lists master.nextList [] master.nextList).length +
      ((master.lists master.workers).length - 0 +
        (rest.map (MasterFrame.owed master.count)).sum) = master.count
    rw [empty, List.length_nil, Nat.zero_add, Nat.sub_zero]
    exact total
  · rcases supervised.covered worker running with now | ⟨frame, member, known⟩
    · refine ⟨_, List.mem_cons_self, ?_⟩
      show worker ∈ Function.update master.lists master.nextList [] master.workers
      rw [unchanged _ supervised.current]
      exact now
    · rw [frames] at member
      rcases List.mem_cons.mp member with rfl | inRest
      · exact absurd known List.not_mem_nil
      · refine ⟨frame, List.mem_cons_of_mem _ inRest, ?_⟩
        have same := frame.covers_congr fun old here =>
          unchanged old (supervised.olds frame (inside _ inRest) old here).1
        exact same ▸ known
  · have nothing : worker ∈ Function.update master.lists master.nextList [] master.nextList :=
      member
    rw [empty] at nothing
    exact absurd nothing List.not_mem_nil
  · show old < master.nextList + 1 ∧ old ≠ master.nextList ∧
      ∀ worker ∈ Function.update master.lists master.nextList [] old, worker ∈ master.started
    rcases List.mem_cons.mp member with rfl | inRest
    · obtain rfl := Option.some.inj known
      rw [unchanged _ supervised.current]
      exact ⟨Nat.lt_succ_of_lt supervised.current, Nat.ne_of_lt supervised.current,
        supervised.started none⟩
    · obtain ⟨small, -, started⟩ := supervised.olds frame (inside _ inRest) old known
      rw [unchanged _ small]
      exact ⟨Nat.lt_succ_of_lt small, Nat.ne_of_lt small, started⟩
  · rcases List.mem_cons.mp member with same | inRest
    · cases same
    · exact supervised.appended worker (inside _ inRest)

/-- A process has ended; a function that was to stop it has passed it. -/
theorem Supervised.end (supervised : Supervised master) {worker : Nat} {frame later : MasterFrame}
    {rest : List MasterFrame} (frames : master.frames = frame :: rest)
    (none : ∀ index, master.frames ≠ [.starting master.workers index])
    (owed : later.owed master.count = frame.owed master.count)
    (covers : ∀ other ∈ frame.covers master.lists, other = worker ∨
      other ∈ later.covers master.lists) (old : later.old = frame.old)
    (same : ∀ worker, later = .appending worker → frame = .appending worker)
    (shape : Shape ((master.ended worker).within (later :: rest))) :
    Supervised ((master.ended worker).within (later :: rest)) where
  total := by
    have total := supervised.total
    rw [frames, List.map_cons, List.sum_cons, ← owed] at total
    exact total
  covered other running := by
    obtain ⟨different, before⟩ := Finset.mem_erase.mp running
    rcases supervised.covered other before with now | ⟨known, member, here⟩
    · exact .inl now
    · rw [frames] at member
      rcases List.mem_cons.mp member with rfl | inRest
      · exact .inr ⟨later, List.mem_cons_self, (covers other here).resolve_left different⟩
      · exact .inr ⟨known, List.mem_cons_of_mem _ inRest, here⟩
  placed other member := .inl (supervised.started none other member)
  olds known member list here := by
    rcases List.mem_cons.mp member with rfl | inRest
    · exact supervised.olds frame (frames ▸ List.mem_cons_self) list (old ▸ here)
    · exact supervised.olds known (frames ▸ List.mem_cons_of_mem _ inRest) list here
  appended other member := by
    rcases List.mem_cons.mp member with this | inRest
    · exact supervised.appended other (frames ▸ same other this.symm ▸ List.mem_cons_self)
    · exact supervised.appended other (frames ▸ List.mem_cons_of_mem _ inRest)
  current := supervised.current
  numbered := supervised.numbered
  shape := shape

/-- A process ends by itself. -/
theorem Supervised.dies (supervised : Supervised master) {worker : Nat}
    (running : worker ∈ master.alive) : Supervised (master.ended worker) where
  total := supervised.total
  covered other still := supervised.covered other (Finset.mem_of_mem_erase still)
  placed := supervised.placed
  olds := supervised.olds
  appended := supervised.appended
  current := supervised.current
  numbered := supervised.numbered
  shape := by
    cases supervised.shape with
    | spawning next frames => exact .spawning next frames
    | appending worker next frames => exact .appending worker next frames
    | handling handlers => exact .handling handlers
    | swapping rest frames handlers => exact .swapping rest frames handlers
    | reaping index frames => exact .reaping index frames
    | replacing index worker frames placed dead =>
      exact .replacing index worker frames placed fun still => dead (Finset.mem_of_mem_erase still)
    | starting index worker frames placed unstarted recent =>
      exact .starting index worker frames placed unstarted recent
    | asking index frames => exact .asking index frames
    | stopping index frames left =>
      exact .stopping index frames fun other still => left other (Finset.mem_of_mem_erase still)
    | exited frames none closed => exact absurd running (none ▸ Finset.notMem_empty worker)

/-- The place of a dead worker gets a new process. -/
theorem Supervised.replace (supervised : Supervised master) {index dead : Nat}
    (frames : master.frames = [.replacing master.workers index])
    (found : master.current[index]? = some dead) (ended : dead ∉ master.alive) :
    Supervised ((({ master with nextWorker := master.nextWorker + 1 } : Master).setWorkers
      (master.current.set index master.nextWorker)).within [.starting master.workers index]) := by
  have now : ((({ master with nextWorker := master.nextWorker + 1 } : Master).setWorkers
      (master.current.set index master.nextWorker)).within
        [.starting master.workers index]).current = master.current.set index master.nextWorker :=
    Function.update_self _ _ _
  have none := not_starting frames nofun
  have unstarted : master.nextWorker ∉ master.started := fun started =>
    Nat.lt_irrefl _ (supervised.numbered _ started)
  obtain ⟨inside, same⟩ := List.getElem?_eq_some_iff.mp found
  have placed : ((({ master with nextWorker := master.nextWorker + 1 } : Master).setWorkers
      (master.current.set index master.nextWorker)).within
        [.starting master.workers index]).current[index]? = some master.nextWorker := by
    rw [now, List.getElem?_set_self inside]
  refine ⟨?_, fun worker running => .inl ?_, fun worker member => ?_,
    fun frame member old known => ?_,
    fun worker member => ?_, supervised.current, fun worker started => ?_,
    .starting index master.nextWorker rfl placed unstarted (Nat.lt_succ_self _)⟩
  · have total := supervised.total
    rw [frames] at total
    rw [now, List.length_set]
    exact total
  · rw [now]
    rcases supervised.covered worker running with member | ⟨frame, member, known⟩
    · obtain ⟨place, here⟩ := List.mem_iff_getElem?.mp member
      have other : index ≠ place := by
        rintro rfl
        obtain rfl := Option.some.inj (found.symm.trans here)
        exact ended running
      exact List.mem_iff_getElem?.mpr ⟨place, by rw [List.getElem?_set_ne other, here]⟩
    · rw [frames] at member
      obtain rfl := List.mem_singleton.mp member
      exact absurd known List.not_mem_nil
  · rw [now] at member
    rcases List.mem_or_eq_of_mem_set member with before | rfl
    · exact .inl (supervised.started none worker before)
    · exact .inr ⟨index, rfl, placed⟩
  · obtain rfl := List.mem_singleton.mp member
    cases known
  · cases List.mem_singleton.mp member
  · exact Nat.lt_succ_of_lt (supervised.numbered worker started)

/-- The new process is started. -/
theorem Supervised.startNew (supervised : Supervised master) {index worker : Nat}
    (frames : master.frames = [.starting master.workers index])
    (placed : master.current[index]? = some worker) (recent : worker < master.nextWorker) :
    Supervised { master with
      started := insert worker master.started
      alive := insert worker master.alive
      frames := [.reaping master.workers (index + 1)] } where
  total := by
    have total := supervised.total
    rw [frames] at total
    exact total
  covered other running := by
    rcases Finset.mem_insert.mp running with rfl | before
    · exact .inl (List.mem_of_getElem? placed)
    · rcases supervised.covered other before with now | ⟨frame, member, known⟩
      · exact .inl now
      · rw [frames] at member
        obtain rfl := List.mem_singleton.mp member
        exact absurd known List.not_mem_nil
  placed other member := by
    refine .inl ?_
    rcases supervised.placed other member with before | ⟨place, same, here⟩
    · exact Finset.mem_insert_of_mem before
    · rw [frames] at same
      obtain rfl := (MasterFrame.starting.inj (List.cons.inj same).1).2
      obtain rfl := Option.some.inj (placed.symm.trans here)
      exact Finset.mem_insert_self _ _
  olds frame member old known := by
    obtain rfl := List.mem_singleton.mp member
    cases known
  appended other member := by cases List.mem_singleton.mp member
  current := supervised.current
  numbered other started := by
    rcases Finset.mem_insert.mp started with rfl | before
    · exact recent
    · exact supervised.numbered other before
  shape := .reaping (index + 1) rfl

/-! ### Steps -/

theorem Handlers.not_starting {frames : List MasterFrame} (handlers : Handlers frames)
    (list : Nat) :
    ∀ index, frames ≠ [.starting list index] := by
  rintro index rfl
  cases handlers

/-- A step of a reload that is the innermost function, or of the sleep. -/
theorem Supervised.advance_handling (supervised : Supervised master)
    (handlers : Handlers master.frames) (stepped : master.step .advance = some next) :
    Supervised next := by
  have none := handlers.not_starting master.workers
  rw [Master.step] at stepped
  generalize frames : master.frames = running at handlers stepped
  cases handlers with
  | sleeping =>
    obtain rfl := Option.some.inj stepped
    exact supervised.turn frames none rfl rfl rfl nofun (.reaping 0 rfl)
  | appending worker handlers =>
    obtain rfl := Option.some.inj stepped
    exact supervised.append frames (.handling handlers)
  | reloading old among place handlers =>
    simp only [Master.advance] at stepped
    split at stepped
    · rename_i more
      obtain rfl := Option.some.inj stepped
      refine supervised.launch frames none ?_ (fun _ => rfl) rfl nofun
        (.handling (.appending _ (.reloading old among (place + 1) handlers)))
      show among - place = among - (place + 1) + 1
      omega
    · rename_i last
      obtain rfl := Option.some.inj stepped
      refine supervised.within none ?_ (fun frame member worker known => ?_)
        (fun frame member list known => ?_) (fun worker member => ?_)
        (.handling (.terminating old 0 handlers))
      · rw [frames, List.map_cons, List.map_cons, List.sum_cons, List.sum_cons]
        have done : among - place = 0 := by omega
        show 0 + _ = among - place + _
        rw [done]
      · rw [frames] at member
        rcases List.mem_cons.mp member with rfl | inRest
        · exact ⟨_, List.mem_cons_self, known⟩
        · exact ⟨frame, List.mem_cons_of_mem _ inRest, known⟩
      · rw [frames]
        rcases List.mem_cons.mp member with rfl | inRest
        · exact ⟨_, List.mem_cons_self, known⟩
        · exact ⟨frame, List.mem_cons_of_mem _ inRest, known⟩
      · rcases List.mem_cons.mp member with same | inRest
        · cases same
        · exact frames ▸ List.mem_cons_of_mem _ inRest
  | terminating old place handlers =>
    simp only [Master.advance] at stepped
    cases found : (master.lists old)[place]? with
    | none =>
      rw [found] at stepped
      obtain rfl := Option.some.inj stepped
      have past : (master.lists old).drop place = [] :=
        List.drop_eq_nil_iff.mpr (List.getElem?_eq_none_iff.mp found)
      refine supervised.within none ?_ (fun frame member worker known => ?_)
        (fun frame member list known => ?_) (fun worker member => ?_) (.handling handlers)
      · rw [frames, List.map_cons, List.sum_cons]
        exact (Nat.zero_add _).symm
      · rw [frames] at member
        rcases List.mem_cons.mp member with rfl | inRest
        · have nothing : worker ∈ (master.lists old).drop place := known
          rw [past] at nothing
          exact absurd nothing List.not_mem_nil
        · exact ⟨frame, inRest, known⟩
      · exact ⟨frame, frames ▸ List.mem_cons_of_mem _ member, known⟩
      · exact frames ▸ List.mem_cons_of_mem _ member
    | some worker =>
      rw [found] at stepped
      have started : worker ∈ master.started :=
        (supervised.olds _ (frames ▸ List.mem_cons_self) old rfl).2.2 worker
          (List.mem_of_getElem? found)
      simp only [if_pos started] at stepped
      obtain rfl := Option.some.inj stepped
      obtain ⟨inside, same⟩ := List.getElem?_eq_some_iff.mp found
      refine supervised.end frames none rfl (fun other known => ?_) rfl nofun
        (.handling (.terminating old (place + 1) handlers))
      have known : other ∈ (master.lists old).drop place := known
      rw [List.drop_eq_getElem_cons inside, same] at known
      exact List.mem_cons.mp known

/-- A step of `_reap_workers`. -/
theorem Supervised.advance_reaping (supervised : Supervised master) {place : Nat}
    (frames : master.frames = [.reaping master.workers place])
    (stepped : master.step .advance = some next) : Supervised next := by
  have none := not_starting frames nofun
  rw [Master.step, frames] at stepped
  simp only [Master.advance] at stepped
  cases found : (master.lists master.workers)[place]? with
  | none =>
    rw [found] at stepped
    obtain rfl := Option.some.inj stepped
    exact supervised.turn frames none rfl rfl rfl nofun (.handling .sleeping)
  | some worker =>
    rw [found] at stepped
    simp only at stepped
    split at stepped
    · obtain rfl := Option.some.inj stepped
      exact supervised.turn frames none rfl rfl rfl nofun (.reaping (place + 1) rfl)
    · rename_i dead
      obtain rfl := Option.some.inj stepped
      exact supervised.turn frames none rfl rfl rfl nofun (.replacing place worker rfl found dead)

/-- A step of `shutdown`. -/
theorem Supervised.advance_stopping (supervised : Supervised master) {place : Nat}
    (frames : master.frames = [.stopping master.workers place, .sleeping])
    (left : ∀ worker ∈ master.alive, worker ∈ master.current.drop place)
    (stepped : master.step .advance = some next) : Supervised next := by
  have none := not_starting frames nofun
  rw [Master.step, frames] at stepped
  simp only [Master.advance] at stepped
  cases found : (master.lists master.workers)[place]? with
  | none =>
    rw [found] at stepped
    obtain rfl := Option.some.inj stepped
    have past : master.current.drop place = [] :=
      List.drop_eq_nil_iff.mpr (List.getElem?_eq_none_iff.mp found)
    have dead : master.alive = ∅ := by
      refine Finset.eq_empty_of_forall_notMem fun worker running => ?_
      have nothing := left worker running
      rw [past] at nothing
      exact absurd nothing List.not_mem_nil
    have total := supervised.total
    rw [frames] at total
    refine ⟨total, fun worker running => ?_, fun worker member =>
      .inl (supervised.started none worker member), fun frame member old known => ?_,
      fun worker member => ?_, supervised.current, supervised.numbered, .exited rfl dead rfl⟩
    · exact absurd running (dead ▸ Finset.notMem_empty worker)
    · obtain rfl := List.mem_singleton.mp member
      cases known
    · cases List.mem_singleton.mp member
  | some worker =>
    rw [found] at stepped
    have started := supervised.started none worker (List.mem_of_getElem? found)
    simp only [if_pos started] at stepped
    obtain rfl := Option.some.inj stepped
    obtain ⟨inside, same⟩ := List.getElem?_eq_some_iff.mp found
    refine supervised.end frames none rfl (fun other known => .inr known) rfl nofun
      (.stopping (place + 1) rfl fun other running => ?_)
    obtain ⟨different, before⟩ := Finset.mem_erase.mp running
    have known := left other before
    rw [Master.current, List.drop_eq_getElem_cons inside, same] at known
    exact (List.mem_cons.mp known).resolve_left different

/-- A step of the innermost function. -/
theorem Supervised.advance_step (supervised : Supervised master)
    (stepped : master.step .advance = some next) : Supervised next := by
  cases supervised.shape with
  | spawning place frames =>
    have none := not_starting frames nofun
    rw [Master.step, frames] at stepped
    simp only [Master.advance] at stepped
    split at stepped
    · rename_i more
      obtain rfl := Option.some.inj stepped
      refine supervised.launch frames none ?_ (fun _ => rfl) rfl nofun (.appending _ _ rfl)
      show master.count - place = master.count - (place + 1) + 1
      omega
    · rename_i last
      obtain rfl := Option.some.inj stepped
      have done : master.count - place = 0 := by omega
      exact supervised.turn frames none done.symm rfl rfl nofun (.reaping 0 rfl)
  | appending worker place frames =>
    rw [Master.step, frames] at stepped
    obtain rfl := Option.some.inj stepped
    exact supervised.append frames (.spawning place rfl)
  | handling handlers => exact supervised.advance_handling handlers stepped
  | swapping rest frames handlers =>
    rw [Master.step, frames] at stepped
    obtain rfl := Option.some.inj stepped
    exact supervised.swap frames handlers
  | reaping place frames => exact supervised.advance_reaping frames stepped
  | replacing place worker frames placed dead =>
    rw [Master.step, frames] at stepped
    simp only [Master.advance] at stepped
    have inside := (List.getElem?_eq_some_iff.mp placed).1
    rw [if_pos inside] at stepped
    obtain rfl := Option.some.inj stepped
    exact supervised.replace frames placed dead
  | starting place worker frames placed unstarted recent =>
    rw [Master.step, frames] at stepped
    simp only [Master.advance] at stepped
    rw [placed] at stepped
    simp only [if_neg unstarted] at stepped
    obtain rfl := Option.some.inj stepped
    exact supervised.startNew frames placed recent
  | asking place frames =>
    have none := not_starting frames nofun
    rw [Master.step, frames] at stepped
    simp only [Master.advance] at stepped
    cases found : (master.lists master.workers)[place]? with
    | none =>
      rw [found] at stepped
      obtain rfl := Option.some.inj stepped
      refine supervised.turn frames none rfl rfl rfl nofun
        (.stopping 0 rfl fun worker running => ?_)
      rw [List.drop_zero]
      rcases supervised.covered worker running with now | ⟨frame, member, known⟩
      · exact now
      · rw [frames] at member
        simp only [List.mem_cons, List.mem_nil_iff, or_false] at member
        rcases member with rfl | rfl
        · exact absurd known List.not_mem_nil
        · exact absurd known List.not_mem_nil
    | some worker =>
      rw [found] at stepped
      have started := supervised.started none worker (List.mem_of_getElem? found)
      simp only [if_pos started] at stepped
      obtain rfl := Option.some.inj stepped
      exact supervised.turn frames none rfl rfl rfl nofun (.asking (place + 1) rfl)
  | stopping place frames left => exact supervised.advance_stopping frames left stepped
  | exited frames none closed =>
    rw [Master.step, frames] at stepped
    cases stepped

/-- A reload that is handled while the master sleeps or reloads. -/
theorem Supervised.reload (supervised : Supervised master) (handlers : Handlers master.frames) :
    Supervised (master.within (.swapping master.workers :: master.frames)) := by
  refine supervised.within (handlers.not_starting _) ?_ (fun frame member worker known => ?_)
    (fun frame member old known => ?_) (fun worker member => ?_) (.swapping _ rfl handlers)
  · rw [List.map_cons, List.sum_cons]
    exact Nat.zero_add _
  · exact ⟨frame, List.mem_cons_of_mem _ member, known⟩
  · rcases List.mem_cons.mp member with rfl | before
    · cases known
    · exact ⟨frame, before, known⟩
  · rcases List.mem_cons.mp member with same | before
    · cases same
    · exact before

/-- A shutdown that is handled while the master sleeps. -/
theorem Supervised.shutdown (supervised : Supervised master)
    (frames : master.frames = [.sleeping]) :
    Supervised (master.within (.asking master.workers 0 :: master.frames)) := by
  refine supervised.within (not_starting frames nofun) ?_ (fun frame member worker known => ?_)
    (fun frame member old known => ?_) (fun worker member => ?_) (.asking 0 (by rw [frames]; rfl))
  · rw [List.map_cons, List.sum_cons]
    exact Nat.zero_add _
  · exact ⟨frame, List.mem_cons_of_mem _ member, known⟩
  · rcases List.mem_cons.mp member with rfl | before
    · cases known
    · exact ⟨frame, before, known⟩
  · rcases List.mem_cons.mp member with same | before
    · cases same
    · exact before

/-- Signals are handled in a calm moment, so a reload is handled in a sleep or in a reload. -/
theorem Supervised.handlers (supervised : Supervised master) (handles : master.handles = true)
    (calm : Calm master (.signal .reload)) : Handlers master.frames := by
  cases supervised.shape with
  | spawning place frames =>
    rw [Master.handles, frames] at handles
    cases handles
  | appending worker place frames =>
    rw [Master.handles, frames] at handles
    cases handles
  | handling handlers => exact handlers
  | exited frames none closed =>
    rw [Master.handles, frames] at handles
    cases handles
  | swapping rest frames handlers => simp [Calm, frames, MasterFrame.reloads] at calm
  | reaping place frames => simp [Calm, frames, MasterFrame.reloads] at calm
  | replacing place worker frames placed dead => simp [Calm, frames, MasterFrame.reloads] at calm
  | starting place worker frames placed unstarted recent =>
    simp [Calm, frames, MasterFrame.reloads] at calm
  | asking place frames => simp [Calm, frames, MasterFrame.reloads] at calm
  | stopping place frames left => simp [Calm, frames, MasterFrame.reloads] at calm

theorem Supervised.step {event : MasterEvent} (calm : Calm master event)
    (supervised : Supervised master) (stepped : master.step event = some next) :
    Supervised next := by
  cases event with
  | advance => exact supervised.advance_step stepped
  | dies worker =>
    rw [Master.step] at stepped
    split at stepped
    · rename_i running
      exact Option.some.inj stepped ▸ supervised.dies running
    · cases stepped
  | signal signal =>
    simp only [Master.step] at stepped
    split at stepped
    · rename_i handles
      cases signal with
      | reload =>
        exact Option.some.inj stepped ▸ supervised.reload (supervised.handlers handles calm)
      | shutdown => exact Option.some.inj stepped ▸ supervised.shutdown calm
    · cases stepped

def Configured (count : Nat) (master : Master) : Prop := master.count = count

/-- The configuration stays. -/
theorem count_step {event : MasterEvent} (stepped : master.step event = some next) :
    next.count = master.count := by
  cases event with
  | advance =>
    simp only [Master.step] at stepped
    split at stepped
    · cases stepped
    · rename_i frame rest frames
      unfold Master.advance at stepped
      cases frame <;> simp only at stepped <;> (repeat' split at stepped) <;>
        first
          | exact Option.some.inj stepped ▸ rfl
          | cases stepped
  | dies worker =>
    simp only [Master.step] at stepped
    split at stepped
    · exact Option.some.inj stepped ▸ rfl
    · cases stepped
  | signal signal =>
    simp only [Master.step] at stepped
    split at stepped
    · cases signal with
      | reload => exact Option.some.inj stepped ▸ rfl
      | shutdown => exact Option.some.inj stepped ▸ rfl
    · cases stepped

theorem Handlers.not_crashed {frames : List MasterFrame} (handlers : Handlers frames) :
    .crashed ∉ frames := by
  induction handlers with
  | sleeping => decide
  | appending worker handlers inductionHypothesis => simp [inductionHypothesis]
  | reloading old count next handlers inductionHypothesis => simp [inductionHypothesis]
  | terminating old index handlers inductionHypothesis => simp [inductionHypothesis]

theorem Supervised.not_crashed (supervised : Supervised master) : .crashed ∉ master.frames := by
  cases supervised.shape with
  | handling handlers => exact handlers.not_crashed
  | swapping rest frames handlers =>
    rw [frames]
    simp [handlers.not_crashed]
  | spawning place frames => simp [frames]
  | appending worker place frames => simp [frames]
  | reaping place frames => simp [frames]
  | replacing place worker frames placed dead => simp [frames]
  | starting place worker frames placed unstarted recent => simp [frames]
  | asking place frames => simp [frames]
  | stopping place frames left => simp [frames]
  | exited frames none closed => simp [frames]

/-- Nobody else knows a process while the master sleeps. -/
theorem Supervised.sleeping (supervised : Supervised master)
    (frames : master.frames = [.sleeping]) :
    master.current.length = master.count ∧ ∀ worker ∈ master.alive, worker ∈ master.current := by
  have total := supervised.total
  rw [frames] at total
  refine ⟨total, fun worker running => ?_⟩
  rcases supervised.covered worker running with now | ⟨frame, member, known⟩
  · exact now
  · rw [frames] at member
    obtain rfl := List.mem_singleton.mp member
    exact absurd known List.not_mem_nil

theorem Supervised.exited (supervised : Supervised master) (frames : master.frames = [.exited]) :
    master.alive = ∅ ∧ master.listening = false := by
  cases supervised.shape with
  | exited _ none closed => exact ⟨none, closed⟩
  | handling handlers =>
    rw [frames] at handlers
    cases handlers
  | spawning place other => cases frames.symm.trans other
  | appending worker place other => cases frames.symm.trans other
  | swapping rest other handlers => cases frames.symm.trans other
  | reaping place other => cases frames.symm.trans other
  | replacing place worker other placed dead => cases frames.symm.trans other
  | starting place worker other placed unstarted recent => cases frames.symm.trans other
  | asking place other => cases frames.symm.trans other
  | stopping place other left => cases frames.symm.trans other

/-- In every run in which signals are handled while the master sleeps, and reloads also inside other
reloads, whenever workers die: the master does not fail; whenever it sleeps, with no reload under
way, it has as many workers as the configuration says, and every process that runs is one of them;
and when it has left, none runs and its sockets are closed. -/
theorem workers_are_supervised (count : Nat) (events : List MasterEvent) (master : Master)
    (calm : HoldsAlong Master.step Calm (init count) events)
    (ran : runFrom Master.step (init count) events = some master) :
    .crashed ∉ master.frames ∧
      (master.frames = [.sleeping] → master.current.length = count ∧
        ∀ worker ∈ master.alive, worker ∈ master.current) ∧
      (master.frames = [.exited] → master.alive = ∅ ∧ master.listening = false) := by
  have supervised : Supervised master :=
    run_invariant (fun _ _ _ calm supervised stepped => supervised.step calm stepped)
      (supervised_init count) calm ran
  have configured : Configured count master :=
    run_invariant (fun _ _ _ _ configured stepped => (count_step stepped).trans configured) rfl calm
      ran
  exact ⟨supervised.not_crashed, fun sleeping => configured ▸ supervised.sleeping sleeping,
    supervised.exited⟩

/-- One of two workers dies and is restarted, a reload is interrupted by another when it has started
a process, and then the master is told to stop. -/
def supervisedRun : List MasterEvent :=
  List.replicate 8 .advance ++ [.dies 0] ++ List.replicate 6 .advance ++
    [.signal .reload, .advance, .advance, .signal .reload] ++ List.replicate 14 .advance ++
    [.signal .shutdown] ++ List.replicate 6 .advance

/-- Both workers are gone at the end, and the sockets are closed. -/
theorem workers_are_supervised_example : ∃ events master,
    runFrom Master.step (init 2) events = some master ∧
      (.signal .reload ∈ events ∧ .dies 0 ∈ events ∧ master.frames = [.exited]) ∧
      master.alive = ∅ ∧ master.listening = false := by
  obtain ⟨calm, exits⟩ : HoldsAlong Master.step Calm (init 2) supervisedRun ∧
      (runFrom Master.step (init 2) supervisedRun).map Master.frames = some [.exited] := by
    decide +kernel
  obtain ⟨master, ran, exited⟩ := Option.map_eq_some_iff.mp exits
  exact ⟨supervisedRun, master, ran, ⟨by decide, by decide, exited⟩,
    (workers_are_supervised 2 supervisedRun master calm ran).2.2 exited⟩

/-- A reload that is handled when `_reap_workers` looks at the only worker loses the new one: the
loop finds the old one dead, and puts another process in the place of the new. -/
example : ∃ master, runFrom Master.step (init 1) (List.replicate 3 .advance ++ .signal .reload ::
    List.replicate 11 .advance ++ .signal .shutdown :: List.replicate 4 .advance) = some master ∧
      master.frames = [.exited] ∧ master.alive = {1} := ⟨_, rfl, rfl, by decide⟩

end Master

end LocalNetwork
