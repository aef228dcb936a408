/-
This file models the status counters of a worker and the states of its connections:
`StatusCollector` of `proxy/status.py`, and what `Connection.handle`, `_set_state` and
`_close` do to it. A step of a connection runs from one await to the next, and sets the
states that the code on the way sets.

The counters of the three categories are moved by pairs of a leave and an enter. They count
the connections by the category of their state at every await, and the clamps at zero of the
collector are never in use: the collector without them takes the same steps.
-/

import LocalNetwork.LeastConnections
import Mathlib.Algebra.Order.BigOperators.Group.List

namespace LocalNetwork

/-! ### The collector -/

inductive ConnState where
  | readRequest
  | matchRoute
  | connectUpstream
  | forward
  | respond
  | closed
  deriving DecidableEq

inductive StateCategory where
  | reading
  | writing
  | waiting
  deriving DecidableEq

/-- `_STATE_CATEGORY`. -/
def ConnState.category : ConnState → Option StateCategory
  | .readRequest => some .reading
  | .matchRoute | .connectUpstream | .forward => some .waiting
  | .respond => some .writing
  | .closed => none

structure StatusCollector where
  accepted : Int
  handled : Int
  active : Int
  requests : Int
  reading : Int
  writing : Int
  waiting : Int

namespace StatusCollector

def new : StatusCollector := ⟨0, 0, 0, 0, 0, 0, 0⟩

/-- The counter of a category. -/
def counter (collector : StatusCollector) : StateCategory → Int
  | .reading => collector.reading
  | .writing => collector.writing
  | .waiting => collector.waiting

def incrementAccepted (collector : StatusCollector) : StatusCollector :=
  { collector with accepted := collector.accepted + 1, active := collector.active + 1 }

def incrementHandled (collector : StatusCollector) : StatusCollector :=
  { collector with handled := collector.handled + 1, requests := collector.requests + 1 }

/-- One less, but not below zero. -/
def clamped (count : Int) : Int := max 0 (count - 1)

/-- One less. -/
def unclamped (count : Int) : Int := count - 1

variable (lower : Int → Int)

def decrementActive (collector : StatusCollector) : StatusCollector :=
  { collector with active := lower collector.active }

def enterState (collector : StatusCollector) : Option StateCategory → StatusCollector
  | some .reading => { collector with reading := collector.reading + 1 }
  | some .writing => { collector with writing := collector.writing + 1 }
  | some .waiting => { collector with waiting := collector.waiting + 1 }
  | none => collector

def leaveState (collector : StatusCollector) : Option StateCategory → StatusCollector
  | some .reading => { collector with reading := lower collector.reading }
  | some .writing => { collector with writing := lower collector.writing }
  | some .waiting => { collector with waiting := lower collector.waiting }
  | none => collector

def transitionState (collector : StatusCollector) (old new : Option StateCategory) :
    StatusCollector :=
  (collector.leaveState lower old).enterState new

/-- The counters after `_set_state`; a connection that was just made has no state yet. -/
def setState (collector : StatusCollector) (old : Option ConnState) (new : ConnState) :
    StatusCollector :=
  let oldCategory := old.bind ConnState.category
  if oldCategory ≠ new.category then collector.transitionState lower oldCategory new.category
  else collector

/-- Several calls of `_set_state` in a row, with the state of the connection after them. -/
def setStates (collector : StatusCollector) (state : ConnState) :
    List ConnState → ConnState × StatusCollector
  | [] => (state, collector)
  | next :: rest => setStates (collector.setState lower (some state) next) next rest

end StatusCollector

/-! ### The states of a connection -/

/-- The states that `handle` sets on its way from an await, before it reaches the head of its loop
or its end. -/
def statesOnTheWay (config : ProxyConfig) : ProxyPhase → AwaitResult → List ConnState
  | .readRequest, .request request _ =>
    match matchLocation config.locations request.path with
    | none => [.matchRoute]
    | some location =>
      if location.root ≠ [] ∧ request.method = "GET".toList then [.matchRoute, .respond]
      else [.matchRoute, .connectUpstream]
  | .connectUpstream _ _ _ upgrade, .done => if upgrade then [] else [.forward]
  | .forward _ _ _ .read, .done => [.respond]
  | _, _ => []

/-- The states that the head of the loop and `_close` set. -/
def statesOnArrival : ProxyPhase → List ConnState
  | .readRequest => [.readRequest]
  | .closed _ => [.closed]
  | _ => []

/-- A response was sent, and logged if there is an access log, or an upgrade was answered. -/
def countsHandled (config : ProxyConfig) : ProxyPhase → AwaitResult → Bool
  | .sendResponse _, .done => !config.accessLog
  | .log _, .done => true
  | .webSocket _ _ .upgrade, .done => true
  | _, _ => false

/-- A worker with the states of its connections and its collector. -/
structure StatusRun where
  proxy : Proxy
  states : Dict Nat ConnState
  collector : StatusCollector

namespace StatusRun

/-- A worker without connections. -/
def new (proxy : Proxy) : StatusRun := ⟨proxy, Dict.empty, .new⟩

variable {Score : Type} [LinearOrder Score]

/-- The state and the collector when a step of a connection reaches the head of the loop, the end or
its next await. -/
def onTheWay (lower : Int → Int) (config : ProxyConfig) (collector : StatusCollector)
    (state : ConnState) (phase : ProxyPhase) (result : AwaitResult) :
    ConnState × StatusCollector :=
  let way := collector.setStates lower state (statesOnTheWay config phase result)
  (way.1, if countsHandled config phase result then way.2.incrementHandled else way.2)

/-- The state and the collector when a step has led to a phase. -/
def arrive (lower : Int → Int) (after : ProxyPhase) (collector : StatusCollector)
    (state : ConnState) : ConnState × StatusCollector :=
  let arrived := collector.setStates lower state (statesOnArrival after)
  (arrived.1, if after.isClosed then arrived.2.decrementActive lower else arrived.2)

/-- The state and the collector after a step of a connection from one phase to another. -/
def collect (lower : Int → Int) (config : ProxyConfig) (collector : StatusCollector)
    (state : ConnState) (phase after : ProxyPhase) (result : AwaitResult) :
    ConnState × StatusCollector :=
  let way := onTheWay lower config collector state phase result
  arrive lower after way.2 way.1

/-- A step of the worker, with a way to lower a counter. -/
def step (lower : Int → Int) (packages : ProxyPackages Score) (run : StatusRun) :
    ProxyEvent → Option StatusRun
  | .accept id clientIp =>
    (run.proxy.step packages (.accept id clientIp)).map fun next =>
      { proxy := next
        states := run.states.insert id .readRequest
        collector := run.collector.incrementAccepted.setState lower none .readRequest }
  | .resume id result =>
    match run.proxy.connections.get? id, run.states.get? id with
    | some connection, some state =>
      (run.proxy.step packages (.resume id result)).bind fun next =>
        (next.connections.get? id).map fun after =>
          let collected := collect lower run.proxy.config run.collector state connection.phase
            after.phase result
          { proxy := next
            states := run.states.insert id collected.1
            collector := collected.2 }
    | _, _ => none

end StatusRun

/-! ### What setting a state does to the counters -/

/-- One for a state of a category. -/
def ConnState.weight (state : ConnState) (category : StateCategory) : Int :=
  if state.category = some category then 1 else 0

theorem ConnState.weight_nonneg (state : ConnState) (category : StateCategory) :
    0 ≤ state.weight category := by
  unfold weight
  split
  · exact Int.zero_le_ofNat 1
  · exact Int.le_refl 0

namespace StatusCollector

open ConnState

variable {collector : StatusCollector} {state : ConnState}

/-- The collector counts a connection in this state. -/
def Covers (collector : StatusCollector) (state : ConnState) : Prop :=
  ∀ category, state.weight category ≤ collector.counter category

theorem clamped_of_pos {count : Int} (positive : 1 ≤ count) : clamped count = unclamped count :=
  max_eq_right (by omega)

theorem counter_enterState (collector : StatusCollector) (new : Option StateCategory)
    (category : StateCategory) :
    (collector.enterState new).counter category =
      collector.counter category + if new = some category then 1 else 0 := by
  rcases new with _ | new
  · simp [enterState]
  · cases new <;> cases category <;> simp [enterState, counter]

theorem counter_leaveState (collector : StatusCollector) (old : Option StateCategory)
    (category : StateCategory) :
    (collector.leaveState unclamped old).counter category =
      collector.counter category - if old = some category then 1 else 0 := by
  rcases old with _ | old
  · simp [leaveState]
  · cases old <;> cases category <;> simp [leaveState, counter, unclamped]

theorem counter_setState (collector : StatusCollector) (old new : ConnState)
    (category : StateCategory) :
    (collector.setState unclamped (some old) new).counter category =
      collector.counter category - old.weight category + new.weight category := by
  unfold setState
  simp only [Option.bind_some]
  split
  · rw [transitionState, counter_enterState, counter_leaveState]
    rfl
  · rename_i same
    have equal : old.category = new.category := not_not.mp same
    rw [weight, weight, equal]
    omega

/-- A connection that is counted is taken out of its category without the clamp. -/
theorem setState_clamped (covers : collector.Covers state) (new : ConnState) :
    collector.setState clamped (some state) new =
      collector.setState unclamped (some state) new := by
  have leave : collector.leaveState clamped state.category =
      collector.leaveState unclamped state.category := by
    cases category : state.category with
    | none => rfl
    | some own =>
      have counted := covers own
      rw [weight, if_pos category] at counted
      have lowered := clamped_of_pos counted
      cases own with
      | reading => exact congrArg (fun count => { collector with reading := count }) lowered
      | writing => exact congrArg (fun count => { collector with writing := count }) lowered
      | waiting => exact congrArg (fun count => { collector with waiting := count }) lowered
  unfold setState
  simp only [Option.bind_some, transitionState, leave]

theorem covers_setState (covers : collector.Covers state) (new : ConnState) :
    (collector.setState unclamped (some state) new).Covers new := by
  intro category
  have before := covers category
  rw [counter_setState]
  omega

theorem counter_setStates (collector : StatusCollector) (state : ConnState)
    (states : List ConnState) (category : StateCategory) :
    (collector.setStates unclamped state states).2.counter category =
      collector.counter category - state.weight category +
        (collector.setStates unclamped state states).1.weight category := by
  induction states generalizing collector state with
  | nil => exact (Int.sub_add_cancel _ _).symm
  | cons next rest inductionHypothesis =>
    rw [setStates, inductionHypothesis, counter_setState]
    omega

theorem setStates_clamped (covers : collector.Covers state) (states : List ConnState) :
    collector.setStates clamped state states = collector.setStates unclamped state states := by
  induction states generalizing collector state with
  | nil => rfl
  | cons next rest inductionHypothesis =>
    rw [setStates, setStates, setState_clamped covers]
    exact inductionHypothesis (covers_setState covers next)

/-- Setting states moves the counters of the categories alone. -/
theorem setState_frame (lower : Int → Int) (collector : StatusCollector) (old : Option ConnState)
    (new : ConnState) :
    (collector.setState lower old new).active = collector.active ∧
      (collector.setState lower old new).accepted = collector.accepted := by
  have enter : ∀ (collector : StatusCollector) (category : Option StateCategory),
      (collector.enterState category).active = collector.active ∧
        (collector.enterState category).accepted = collector.accepted := by
    rintro collector (_ | category)
    · exact ⟨rfl, rfl⟩
    · cases category <;> exact ⟨rfl, rfl⟩
  have leave : ∀ category : Option StateCategory,
      (collector.leaveState lower category).active = collector.active ∧
        (collector.leaveState lower category).accepted = collector.accepted := by
    rintro (_ | category)
    · exact ⟨rfl, rfl⟩
    · cases category <;> exact ⟨rfl, rfl⟩
  unfold setState
  dsimp only
  split
  · rw [transitionState]
    exact ⟨(enter _ _).1.trans (leave _).1, (enter _ _).2.trans (leave _).2⟩
  · exact ⟨rfl, rfl⟩

theorem setStates_frame (lower : Int → Int) (collector : StatusCollector) (state : ConnState)
    (states : List ConnState) :
    (collector.setStates lower state states).2.active = collector.active ∧
      (collector.setStates lower state states).2.accepted = collector.accepted := by
  induction states generalizing collector state with
  | nil => exact ⟨rfl, rfl⟩
  | cons next rest inductionHypothesis =>
    have first := setState_frame lower collector (some state) next
    have later := inductionHypothesis (collector.setState lower (some state) next) next
    exact ⟨later.1.trans first.1, later.2.trans first.2⟩

/-- The last of the states that are set is the state afterwards. -/
theorem setStates_state (lower : Int → Int) (collector : StatusCollector) (state : ConnState)
    (states : List ConnState) :
    (collector.setStates lower state states).1 = states.getLast?.getD state := by
  induction states generalizing collector state with
  | nil => rfl
  | cons next rest inductionHypothesis =>
    rw [setStates, inductionHypothesis, List.getLast?_cons]
    rfl

end StatusCollector

/-! ### What a step of a connection does to the counters -/

namespace StatusRun

open StatusCollector

variable {config : ProxyConfig} {collector : StatusCollector} {state : ConnState}
  {phase after : ProxyPhase} {result : AwaitResult}

theorem statesOnTheWay_ne_closed :
    ∀ state ∈ statesOnTheWay config phase result, state ≠ .closed := by
  intro state member
  unfold statesOnTheWay at member
  split at member
  · split at member
    · simp_all
    · split at member <;> simp at member <;> rcases member with rfl | rfl <;> decide
  · split at member <;> simp_all
  · simp_all
  · cases member

theorem counter_counted (counts : Bool) (category : StateCategory) :
    (if counts then collector.incrementHandled else collector).counter category =
      collector.counter category := by
  cases counts <;> cases category <;> rfl

theorem counter_onTheWay (category : StateCategory) :
    (onTheWay unclamped config collector state phase result).2.counter category =
      collector.counter category - state.weight category +
        (onTheWay unclamped config collector state phase result).1.weight category :=
  (counter_counted _ category).trans (counter_setStates collector state _ category)

theorem counter_arrive (category : StateCategory) :
    (arrive unclamped after collector state).2.counter category =
      collector.counter category - state.weight category +
        (arrive unclamped after collector state).1.weight category := by
  refine Eq.trans ?_ (counter_setStates collector state (statesOnArrival after) category)
  rw [arrive]
  dsimp only
  split
  · cases category <;> rfl
  · rfl

/-- A step takes a connection from the category of its state to that of its next state. -/
theorem counter_collect (category : StateCategory) :
    (collect unclamped config collector state phase after result).2.counter category =
      collector.counter category - state.weight category +
        (collect unclamped config collector state phase after result).1.weight category := by
  rw [collect, counter_arrive, counter_onTheWay]
  omega

theorem frame_onTheWay (lower : Int → Int) (config : ProxyConfig) (collector : StatusCollector)
    (state : ConnState) (phase : ProxyPhase) (result : AwaitResult) :
    (onTheWay lower config collector state phase result).2.active = collector.active ∧
      (onTheWay lower config collector state phase result).2.accepted = collector.accepted := by
  have way := setStates_frame lower collector state (statesOnTheWay config phase result)
  rw [onTheWay]
  dsimp only
  split
  · exact way
  · exact way

theorem frame_collect (lower : Int → Int) :
    (collect lower config collector state phase after result).2.active =
        (if after.isClosed then lower collector.active else collector.active) ∧
      (collect lower config collector state phase after result).2.accepted =
        collector.accepted := by
  have way := frame_onTheWay lower config collector state phase result
  have arrived := setStates_frame lower (onTheWay lower config collector state phase result).2
    (onTheWay lower config collector state phase result).1 (statesOnArrival after)
  rw [way.1, way.2] at arrived
  rw [collect, arrive]
  dsimp only
  split
  · exact ⟨congrArg lower arrived.1, arrived.2⟩
  · exact arrived

theorem onTheWay_ne_closed (lower : Int → Int) (config : ProxyConfig)
    (collector : StatusCollector) (phase : ProxyPhase) (result : AwaitResult)
    (isOpen : state ≠ .closed) :
    (onTheWay lower config collector state phase result).1 ≠ .closed := by
  rw [onTheWay]
  dsimp only
  rw [setStates_state]
  cases last : (statesOnTheWay config phase result).getLast? with
  | none => exact isOpen
  | some final => exact statesOnTheWay_ne_closed final (List.mem_of_getLast? last)

/-- A connection is in the state `CLOSED` when it has ended. -/
theorem state_collect (lower : Int → Int) (config : ProxyConfig) (collector : StatusCollector)
    (phase after : ProxyPhase) (result : AwaitResult) (isOpen : state ≠ .closed) :
    (collect lower config collector state phase after result).1 = .closed ↔
      after.isClosed = true := by
  have way := onTheWay_ne_closed lower config collector phase result isOpen
  rw [collect, arrive]
  dsimp only
  rw [setStates_state]
  cases after with
  | closed leftOpen => exact ⟨fun _ => rfl, fun _ => rfl⟩
  | readRequest => exact ⟨nofun, nofun⟩
  | _ => exact ⟨fun closed => absurd closed way, nofun⟩

/-- While the collector counts the connection, no clamp is in use. -/
theorem collect_clamped (covers : collector.Covers state) (active : 1 ≤ collector.active) :
    collect clamped config collector state phase after result =
      collect unclamped config collector state phase after result := by
  have way : onTheWay clamped config collector state phase result =
      onTheWay unclamped config collector state phase result := by
    rw [onTheWay, onTheWay, setStates_clamped covers]
  have still : (onTheWay unclamped config collector state phase result).2.Covers
      (onTheWay unclamped config collector state phase result).1 := by
    intro category
    have before := covers category
    rw [counter_onTheWay]
    omega
  have activeHere := (setStates_frame unclamped
    (onTheWay unclamped config collector state phase result).2
    (onTheWay unclamped config collector state phase result).1 (statesOnArrival after)).1
  rw [(frame_onTheWay unclamped config collector state phase result).1] at activeHere
  rw [collect, collect, way, arrive, arrive, setStates_clamped still, decrementActive,
    decrementActive, activeHere, clamped_of_pos active]

/-! ### Runs -/

/-- The connections whose state is in a category. -/
def inCategory (run : StatusRun) (category : StateCategory) : Int :=
  run.states.total fun _ state => state.weight category

/-- The connections that were accepted. -/
def acceptedCount (run : StatusRun) : Int := run.states.total fun _ _ => 1

/-- The connections that are closed. -/
def closedCount (run : StatusRun) : Int :=
  run.states.total fun _ state => if state = .closed then 1 else 0

/-- The connections that are not closed. -/
def openCount (run : StatusRun) : Int :=
  run.states.total fun _ state => if state = .closed then 0 else 1

/-- Every connection has a state, which is `CLOSED` when the connection has ended, and the collector
counts the states. -/
structure Balanced (run : StatusRun) : Prop where
  ended : ∀ id, (run.proxy.connections.get? id).map (fun connection => connection.phase.isClosed) =
    (run.states.get? id).map fun state => decide (state = .closed)
  counted : ∀ category, run.collector.counter category = run.inCategory category
  active : run.collector.active = run.openCount
  accepted : run.collector.accepted = run.acceptedCount

theorem total_nonneg (states : Dict Nat ConnState) (weight : Nat → ConnState → Int)
    (nonneg : ∀ id state, 0 ≤ weight id state) : 0 ≤ states.total weight := by
  refine List.sum_nonneg fun amount member => ?_
  obtain ⟨entry, -, rfl⟩ := List.mem_map.mp member
  exact nonneg entry.1 entry.2

/-- The weight of an entry that is replaced. -/
theorem total_replace {states : Dict Nat ConnState} {id : Nat} {state : ConnState}
    (weight : Nat → ConnState → Int) (found : states.get? id = some state) (new : ConnState) :
    (states.insert id new).total weight =
      states.total weight - weight id state + weight id new := by
  rw [Dict.total_insert, states.total_eq_add_erase id, found, Option.elim_some]
  omega

variable {Score : Type} [LinearOrder Score] {packages : ProxyPackages Score}
  {run next : StatusRun} {id : Nat}

/-- An open connection is not counted as closed. -/
theorem Balanced.ne_closed (balanced : run.Balanced) {connection : ProxyConnection}
    (present : run.proxy.connections.get? id = some connection)
    (found : run.states.get? id = some state) (isOpen : connection.phase.isClosed = false) :
    state ≠ .closed := by
  have ended := balanced.ended id
  rw [present, found, Option.map_some, Option.map_some, isOpen] at ended
  exact of_decide_eq_false (Option.some.inj ended).symm

/-- What the collector counts for one open connection. -/
theorem Balanced.covers (balanced : run.Balanced) (found : run.states.get? id = some state)
    (isOpen : state ≠ .closed) : run.collector.Covers state ∧ 1 ≤ run.collector.active := by
  constructor
  · intro category
    have others := total_nonneg (run.states.erase id) (fun _ state => state.weight category)
      fun _ state => state.weight_nonneg category
    rw [balanced.counted, inCategory, run.states.total_eq_add_erase id, found, Option.elim_some]
    omega
  · have others := total_nonneg (run.states.erase id)
      (fun _ state => if state = .closed then 0 else 1) fun _ state => by split <;> decide
    rw [balanced.active, openCount, run.states.total_eq_add_erase id, found, Option.elim_some,
      if_neg isOpen]
    omega

/-- A step of a connection leads to another phase of the same connection. -/
theorem resume_phase {result : AwaitResult} {connection : ProxyConnection} {after : Proxy}
    (present : run.proxy.connections.get? id = some connection)
    (stepped : run.proxy.step packages (.resume id result) = some after) :
    connection.phase.isClosed = false ∧
      ∃ phase, after.connections =
        run.proxy.connections.insert id { connection with phase := phase } := by
  rw [Proxy.step, present] at stepped
  dsimp only at stepped
  constructor
  · cases here : connection.phase with
    | closed leftOpen =>
      rw [here] at stepped
      cases result <;> cases stepped
    | _ => rfl
  · cases Proxy.resume_cases stepped with
    | moved phase moves => exact ⟨phase, moves.connections⟩
    | raised location server stage upgraded raises moves => exact ⟨_, moves.connections⟩
    | returned location server stage upgraded returns closes =>
      subst closes
      exact ⟨.closed none, rfl⟩

theorem balanced_new (proxy : Proxy) (none : proxy.connections = Dict.empty) :
    (new proxy).Balanced :=
  ⟨fun id => by rw [new, none]; rfl, fun category => by cases category <;> rfl, rfl, rfl⟩

theorem Balanced.accept (balanced : run.Balanced) {clientIp : Text} (lower : Int → Int)
    (stepped : run.step lower packages (.accept id clientIp) = some next) : next.Balanced := by
  obtain ⟨after, accepted, rfl⟩ := Option.map_eq_some_iff.mp stepped
  rw [Proxy.step] at accepted
  split at accepted
  · rename_i absent
    obtain rfl := Option.some.inj accepted
    have noState : run.states.get? id = none := by
      have ended := balanced.ended id
      rw [absent] at ended
      exact Option.map_eq_none_iff.mp ended.symm
    have frame := setState_frame lower run.collector.incrementAccepted none .readRequest
    refine ⟨fun other => ?_, fun category => ?_, ?_, ?_⟩
    · show ((run.proxy.connections.insert id _).get? other).map _ =
        ((run.states.insert id _).get? other).map _
      rw [Dict.get?_insert, Dict.get?_insert]
      by_cases same : other = id
      · rw [if_pos same, if_pos same]
        rfl
      · rw [if_neg same, if_neg same]
        exact balanced.ended other
    · show _ = (run.states.insert id .readRequest).total _
      rw [Dict.total_insert_new _ _ noState]
      have counted := balanced.counted category
      rw [inCategory] at counted
      rw [← counted]
      cases category with
      | reading => exact Int.add_comm _ _
      | writing | waiting => exact (Int.zero_add _).symm
    · show _ = (run.states.insert id .readRequest).total _
      rw [Dict.total_insert_new _ _ noState]
      have active := balanced.active
      rw [openCount] at active
      rw [← active, frame.1]
      exact Int.add_comm _ _
    · show _ = (run.states.insert id .readRequest).total _
      rw [Dict.total_insert_new _ _ noState]
      have accepted := balanced.accepted
      rw [acceptedCount] at accepted
      rw [← accepted, frame.2]
      exact Int.add_comm _ _
  · cases accepted

/-- A step of a connection, as the collector without the clamps sees it. -/
theorem Balanced.resume (balanced : run.Balanced) {result : AwaitResult}
    (stepped : run.step unclamped packages (.resume id result) = some next) : next.Balanced := by
  rw [step] at stepped
  split at stepped
  · rename_i connection state present found
    obtain ⟨after, proxyStepped, mapped⟩ := Option.bind_eq_some_iff.mp stepped
    obtain ⟨isOpen, phase, connections⟩ := resume_phase present proxyStepped
    obtain ⟨reached, reachedHere, rfl⟩ := Option.map_eq_some_iff.mp mapped
    rw [connections, Dict.get?_insert_self] at reachedHere
    obtain rfl := Option.some.inj reachedHere
    have notClosed := balanced.ne_closed present found isOpen
    have closes := state_collect unclamped run.proxy.config run.collector connection.phase phase
      result notClosed
    have counter := @counter_collect run.proxy.config run.collector state connection.phase phase
      result
    have frame := @frame_collect run.proxy.config run.collector state connection.phase phase
      result unclamped
    generalize collect unclamped run.proxy.config run.collector state connection.phase phase
      result = collected at closes counter frame
    refine ⟨fun other => ?_, fun category => ?_, ?_, ?_⟩
    · show (after.connections.get? other).map _ =
        ((run.states.insert id collected.1).get? other).map _
      rw [connections, Dict.get?_insert, Dict.get?_insert]
      by_cases same : other = id
      · rw [if_pos same, if_pos same, Option.map_some, Option.map_some]
        exact congrArg some (Bool.eq_iff_iff.mpr (closes.symm.trans decide_eq_true_iff.symm))
      · rw [if_neg same, if_neg same]
        exact balanced.ended other
    · show _ = (run.states.insert id collected.1).total _
      have counted := balanced.counted category
      rw [inCategory] at counted
      rw [total_replace _ found, ← counted]
      exact counter category
    · show _ = (run.states.insert id collected.1).total _
      have active := balanced.active
      rw [openCount] at active
      rw [total_replace _ found, ← active, if_neg notClosed]
      refine frame.1.trans ?_
      by_cases ended : phase.isClosed = true
      · rw [if_pos ended, if_pos (closes.mpr ended), unclamped]
        omega
      · rw [if_neg ended, if_neg (mt closes.mp ended)]
        omega
    · show _ = (run.states.insert id collected.1).total _
      have accepted := balanced.accepted
      rw [acceptedCount] at accepted
      rw [total_replace _ found, ← accepted]
      refine frame.2.trans ?_
      omega
  · cases stepped

theorem Balanced.step (balanced : run.Balanced) {event : ProxyEvent}
    (stepped : run.step unclamped packages event = some next) : next.Balanced := by
  cases event with
  | accept id clientIp => exact balanced.accept unclamped stepped
  | resume id result => exact balanced.resume stepped

/-- In a balanced state the clamps change nothing. -/
theorem Balanced.step_clamped (balanced : run.Balanced) (event : ProxyEvent) :
    run.step clamped packages event = run.step unclamped packages event := by
  cases event with
  | accept id clientIp => rfl
  | resume id result =>
    rw [StatusRun.step, StatusRun.step]
    split
    · rename_i connection state present found
      cases proxyStepped : run.proxy.step packages (.resume id result) with
      | none => rfl
      | some after =>
        obtain ⟨isOpen, -⟩ := resume_phase present proxyStepped
        obtain ⟨covers, active⟩ := balanced.covers found (balanced.ne_closed present found isOpen)
        simp only [Option.bind_some, collect_clamped covers active]
    · rfl

/-- The connections are the open ones and the closed ones. -/
theorem openCount_add_closedCount (run : StatusRun) :
    run.openCount + run.closedCount = run.acceptedCount := by
  rw [openCount, closedCount, acceptedCount, Dict.total, Dict.total, Dict.total,
    ← List.sum_map_add]
  refine congrArg List.sum (List.map_congr_left fun entry _ => ?_)
  split <;> rfl

/-- Whatever order connections come, go on and end in, the counters of the categories count the
connections by their state at every await, and the active connections are the accepted ones without
the closed ones. A collector without the clamps takes the same steps. Once all connections have
ended, the counters are zero. -/
theorem status_counters_exact (packages : ProxyPackages Score) (proxy : Proxy)
    (noConnections : proxy.connections = Dict.empty) (events : List ProxyEvent)
    (ran : runFrom (step clamped packages) (new proxy) events = some run) :
    (∀ category, run.collector.counter category = run.inCategory category) ∧
      run.collector.accepted = run.acceptedCount ∧
      run.collector.active = run.acceptedCount - run.closedCount ∧
      runFrom (step unclamped packages) (new proxy) events = some run ∧
      (run.proxy.AllEnded → run.collector.active = 0 ∧
        ∀ category, run.collector.counter category = 0) := by
  have balancedNew := balanced_new proxy noConnections
  have agree : ∀ (run : StatusRun) (event : ProxyEvent), run.Balanced →
      run.step clamped packages event = run.step unclamped packages event :=
    fun run event balanced => balanced.step_clamped event
  have kept : ∀ (run : StatusRun) (event : ProxyEvent) (next : StatusRun), run.Balanced →
      run.step clamped packages event = some next → next.Balanced :=
    fun run event next balanced stepped =>
      balanced.step ((agree run event balanced).symm.trans stepped)
  have balanced : run.Balanced := run_invariant (fun run event next _ => kept run event next)
    balancedNew (holdsAlong_true _ _) ran
  refine ⟨balanced.counted, balanced.accepted, ?_,
    (runFrom_congr agree kept balancedNew events).symm.trans ran, fun ended => ?_⟩
  · have parts := run.openCount_add_closedCount
    rw [balanced.active]
    omega
  · have closed : ∀ id state, run.states.get? id = some state → state = .closed := by
      intro id state found
      have agrees := balanced.ended id
      rw [found] at agrees
      obtain ⟨connection, present, isClosed⟩ := Option.map_eq_some_iff.mp agrees
      rw [ended connection (Dict.mem_values_iff.mpr ⟨id, present⟩)] at isClosed
      exact of_decide_eq_true isClosed.symm
    constructor
    · rw [balanced.active, openCount]
      exact Dict.total_eq_zero _ fun id state found => if_pos (closed id state found)
    · intro category
      rw [balanced.counted, inCategory]
      refine Dict.total_eq_zero _ fun id state found => ?_
      rw [closed id state found]
      rfl

end StatusRun

/-- Two plain requests, one of which the server fails: in the end every counter is zero. -/
theorem status_counters_exact_plainRun :
    ∃ run, runFrom (StatusRun.step StatusCollector.clamped examplePackages)
        (.new exampleProxy) plainRun = some run ∧
      run.collector.active = 0 ∧ ∀ category, run.collector.counter category = 0 := by
  have ends : (runFrom (StatusRun.step StatusCollector.clamped examplePackages)
      (.new exampleProxy) plainRun).map (fun run => decide run.proxy.AllEnded) = some true := by
    decide +kernel
  obtain ⟨run, ran, ended⟩ := Option.map_eq_some_iff.mp ends
  have exact := StatusRun.status_counters_exact examplePackages exampleProxy rfl plainRun ran
  exact ⟨run, ran, exact.2.2.2.2 (of_decide_eq_true ended)⟩

end LocalNetwork
