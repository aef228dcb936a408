/-
This file proves that the relay is a first-in first-out channel for each ordered pair of
clients. The frames of all sources wait in one queue for a destination, drops filter that
queue, and `pending_frames` drains it in batches; still, what one destination receives from
one source is what was accepted from that source, in order and byte for byte.

The argument follows one pair through a list of calls. A call that drops neither client
moves frames of the pair from the queue to a result of `pending_frames`, or appends an
accepted frame to the queue, or leaves the pair alone; a drop of either client empties it.
-/

import LocalNetwork.Relay

namespace LocalNetwork

/-! ### Base64 decoding -/

/-- The six bits a letter of the alphabet stands for. -/
def base64Value (symbol : Char) : Option Nat :=
  base64Alphabet.findIdx? fun letter => decide (letter = symbol)

/-- Decode four letters at a time; padding ends the text. -/
def base64Bytes : List Char → Option Bytes
  | [] => some []
  | first :: second :: third :: fourth :: rest => do
    let high := (← base64Value first) * 64 + (← base64Value second)
    if fourth = '=' then
      if rest ≠ [] then none
      else if third = '=' then some [UInt8.ofNat (high / 16)]
      else
        let bits := high * 64 + (← base64Value third)
        some [UInt8.ofNat (bits / 1024), UInt8.ofNat (bits / 4)]
    else
      let bits := (high * 64 + (← base64Value third)) * 64 + (← base64Value fourth)
      some (UInt8.ofNat (bits / 65536) :: UInt8.ofNat (bits / 256) :: UInt8.ofNat bits ::
        (← base64Bytes rest))
  | _ => none

def b64decode (text : String) : Option Bytes := base64Bytes text.toList

theorem base64Value_base64Char (index : Nat) :
    base64Value (base64Char index) = some (index % 64) := by
  have table : ∀ small : Fin 64, base64Value (base64Char small) = some small.val := by
    decide +kernel
  have letter : base64Char index = base64Char (index % 64) := by
    rw [base64Char, base64Char, Nat.mod_mod]
  rw [letter]
  exact table ⟨index % 64, Nat.mod_lt _ (by decide)⟩

theorem base64Char_ne_padding (index : Nat) : base64Char index ≠ '=' := by
  intro padding
  have value := base64Value_base64Char index
  rw [padding, show base64Value '=' = none from by decide] at value
  cases value

theorem ofNat_eq_byte (value : Nat) (byte : UInt8) (same : value % 256 = byte.toNat) :
    UInt8.ofNat value = byte := by
  refine UInt8.toNat_inj.mp ?_
  rw [UInt8.toNat_ofNat', same]

/-- Decoding inverts encoding on the letters. -/
theorem base64Bytes_base64Chars (frame : Bytes) :
    base64Bytes (base64Chars frame) = some frame := by
  induction frame using base64Chars.induct with
  | case1 => rfl
  | case2 first =>
    have bound := first.toNat_lt
    simp only [base64Chars, base64Bytes, base64Value_base64Char, Option.bind_eq_bind,
      Option.bind_some, ne_eq, not_true_eq_false, if_true, if_false]
    rw [ofNat_eq_byte _ first (by omega)]
  | case3 first second =>
    have firstBound := first.toNat_lt
    have secondBound := second.toNat_lt
    simp only [base64Chars, base64Bytes, base64Value_base64Char, base64Char_ne_padding,
      Option.bind_eq_bind, Option.bind_some, ne_eq, not_true_eq_false, if_true,
      if_false]
    rw [ofNat_eq_byte _ first (by omega), ofNat_eq_byte _ second (by omega)]
  | case4 first second third rest inductionHypothesis =>
    have firstBound := first.toNat_lt
    have secondBound := second.toNat_lt
    have thirdBound := third.toNat_lt
    simp only [base64Chars, base64Bytes, base64Value_base64Char, base64Char_ne_padding,
      inductionHypothesis, Option.bind_eq_bind, Option.bind_some, if_false]
    rw [ofNat_eq_byte _ first (by omega), ofNat_eq_byte _ second (by omega),
      ofNat_eq_byte _ third (by omega)]

theorem b64decode_b64encode (frame : Bytes) : b64decode (b64encode frame) = some frame := by
  rw [b64decode, b64encode, String.toList_ofList, base64Bytes_base64Chars]

/-! ### Calls and their results -/

/-- The calls of the data plane. -/
inductive RelayCall where
  | registerRelayPath (srcId dstId : String)
  | relayFrame (srcId dstId : String) (rawFrame : Bytes)
  | pendingFrames (dstId : String)
  | dropClient (clientId : String)
  deriving DecidableEq

inductive RelayReply where
  | allocated (isNew : Bool)
  | queued (accepted : Bool)
  | frames (drained : List (String × String))
  | dropped
  deriving DecidableEq

namespace RelayForwarder

def call (relay : RelayForwarder) : RelayCall → RelayReply × RelayForwarder
  | .registerRelayPath srcId dstId =>
    let (isNew, next) := relay.registerRelayPath srcId dstId
    (.allocated isNew, next)
  | .relayFrame srcId dstId rawFrame =>
    let (accepted, next) := relay.relayFrame srcId dstId rawFrame
    (.queued accepted, next)
  | .pendingFrames dstId =>
    let (drained, next) := relay.pendingFrames dstId
    (.frames drained, next)
  | .dropClient clientId => (.dropped, relay.dropClient clientId)

/-- A list of calls: each call with its result, and the forwarder afterwards. -/
def calls : RelayForwarder → List RelayCall → List (RelayCall × RelayReply) × RelayForwarder
  | relay, [] => ([], relay)
  | relay, first :: rest =>
    let (reply, next) := relay.call first
    let (replies, final) := next.calls rest
    ((first, reply) :: replies, final)

/-- The frames of one source that wait for one destination. -/
def waitingFrom (relay : RelayForwarder) (srcId dstId : String) : List Bytes :=
  (((relay.queues.get? dstId).getD []).filter fun item => decide (item.1 = srcId)).map Prod.snd

end RelayForwarder

/-- The frame of a call that `relay_frame` accepted from one source for one destination. -/
def acceptedFrame (srcId dstId : String) : RelayCall × RelayReply → List Bytes
  | (.relayFrame src dst rawFrame, .queued true) =>
    if src = srcId ∧ dst = dstId then [rawFrame] else []
  | _ => []

/-- The encoded frames of one source in a result of `pending_frames` for one destination. -/
def drainedFrames (srcId dstId : String) : RelayCall × RelayReply → List String
  | (.pendingFrames dst, .frames drained) =>
    if dst = dstId then (drained.filter fun item => decide (item.1 = srcId)).map Prod.snd else []
  | _ => []

/-- A call that drops one of two clients. -/
def Drops (srcId dstId : String) : RelayCall → Prop
  | .dropClient clientId => clientId = srcId ∨ clientId = dstId
  | _ => False

instance (srcId dstId : String) : (call : RelayCall) → Decidable (Drops srcId dstId call)
  | .registerRelayPath _ _ | .relayFrame _ _ _ | .pendingFrames _ => isFalse id
  | .dropClient clientId => inferInstanceAs (Decidable (clientId = srcId ∨ clientId = dstId))

/-! ### What each call does to one pair -/

namespace RelayForwarder

variable {relay : RelayForwarder} {srcId dstId : String}

theorem waitingFrom_congr {first second : RelayForwarder}
    (same : (first.queues.get? dstId).getD [] = (second.queues.get? dstId).getD []) :
    first.waitingFrom srcId dstId = second.waitingFrom srcId dstId := by
  rw [waitingFrom, waitingFrom, same]

theorem queueFor_queue (relay : RelayForwarder) (clientId dstId : String) :
    ((relay.queueFor clientId).queues.get? dstId).getD [] =
      (relay.queues.get? dstId).getD [] := by
  unfold queueFor
  split
  · rfl
  · rename_i absent
    by_cases same : dstId = clientId
    · rw [same, Dict.get?_insert_self, absent]
      rfl
    · rw [Dict.get?_insert_of_ne _ _ same]

theorem queueFor_bytesRelayed (relay : RelayForwarder) (clientId : String) :
    (relay.queueFor clientId).bytesRelayed = relay.bytesRelayed := by
  unfold queueFor
  split <;> rfl

theorem registerRelayPath_waitingFrom (relay : RelayForwarder) (first second : String) :
    (relay.registerRelayPath first second).2.waitingFrom srcId dstId =
      relay.waitingFrom srcId dstId := by
  refine waitingFrom_congr ?_
  show (((relay.queueFor second).queueFor first).queues.get? dstId).getD [] = _
  rw [queueFor_queue, queueFor_queue]

theorem registerRelayPath_bytesRelayed (relay : RelayForwarder) (first second : String) :
    (relay.registerRelayPath first second).2.bytesRelayed = relay.bytesRelayed := by
  show ((relay.queueFor second).queueFor first).bytesRelayed = _
  rw [queueFor_bytesRelayed, queueFor_bytesRelayed]

/-- A frame is refused, and at most the count of dropped frames changes, or it goes to the end
of the queue of its destination and to the byte count of the pair. -/
theorem relayFrame_cases (relay : RelayForwarder) (src dst : String) (rawFrame : Bytes) :
    (∃ dropped, relay.relayFrame src dst rawFrame =
      (false, { relay with droppedFrames := dropped })) ∨
    ∃ queue, relay.queues.get? dst = some queue ∧ (src, dst) ∈ relay.paths ∧
      queue.length < maxRelayQueue ∧
      relay.relayFrame src dst rawFrame = (true, { relay with
        queues := relay.queues.insert dst (queue ++ [(src, rawFrame)])
        bytesRelayed := relay.bytesRelayed.insert (src, dst)
          ((relay.bytesRelayed.get? (src, dst)).getD 0 + rawFrame.length) }) := by
  unfold relayFrame
  split
  · exact .inl ⟨relay.droppedFrames, rfl⟩
  · rename_i queue found
    split
    · exact .inl ⟨relay.droppedFrames, rfl⟩
    · rename_i path
      split
      · exact .inl ⟨relay.droppedFrames + 1, rfl⟩
      · rename_i room
        refine .inr ⟨queue, found, ?_, Nat.lt_of_not_le room, rfl⟩
        simpa [hasPath] using path

/-- Draining a queue hands out its frames, encoded, and empties it. -/
theorem pendingFrames_waitingFrom (relay : RelayForwarder) (dst : String) :
    (drainedFrames srcId dstId (.pendingFrames dst, .frames (relay.pendingFrames dst).1)).map
        b64decode ++ ((relay.pendingFrames dst).2.waitingFrom srcId dstId).map some =
      (relay.waitingFrom srcId dstId).map some := by
  unfold pendingFrames
  cases found : relay.queues.get? dst with
  | none => simp [drainedFrames]
  | some queue =>
    by_cases same : dst = dstId
    · subst same
      have decoded : ∀ item : String × Bytes, b64decode (b64encode item.2) = some item.2 :=
        fun item => b64decode_b64encode item.2
      simp [drainedFrames, waitingFrom, found, List.filter_map, Function.comp_def, decoded]
    · have other : dstId ≠ dst := fun equal => same equal.symm
      simp [drainedFrames, waitingFrom, same, Dict.get?_insert_of_ne _ _ other]

theorem pendingFrames_bytesRelayed (relay : RelayForwarder) (dst : String) :
    (relay.pendingFrames dst).2.bytesRelayed = relay.bytesRelayed := by
  unfold pendingFrames
  split <;> rfl

theorem dropClient_queue (relay : RelayForwarder) {clientId : String}
    (other : dstId ≠ clientId) :
    ((relay.dropClient clientId).queues.get? dstId).getD [] =
      ((relay.queues.get? dstId).getD []).filter fun item => decide (item.1 ≠ clientId) := by
  simp only [dropClient, Dict.get?_mapValues, Dict.get?_erase_of_ne _ other]
  cases relay.queues.get? dstId <;> rfl

/-- Dropping a client leaves every pair of other clients alone. -/
theorem dropClient_waitingFrom_of_ne (relay : RelayForwarder) {clientId : String}
    (notSource : clientId ≠ srcId) (notDestination : clientId ≠ dstId) :
    (relay.dropClient clientId).waitingFrom srcId dstId = relay.waitingFrom srcId dstId := by
  have kept : ∀ item : String × Bytes,
      (decide (item.1 = srcId) && decide (item.1 ≠ clientId)) = decide (item.1 = srcId) := by
    intro item
    by_cases same : item.1 = srcId
    · simp [same, Ne.symm notSource]
    · simp [same]
  rw [waitingFrom, waitingFrom, dropClient_queue relay (Ne.symm notDestination),
    List.filter_filter]
  simp only [kept]

theorem dropClient_bytesRelayed_of_ne (relay : RelayForwarder) {clientId : String}
    (notSource : clientId ≠ srcId) (notDestination : clientId ≠ dstId) :
    (relay.dropClient clientId).bytesRelayed.get? (srcId, dstId) =
      relay.bytesRelayed.get? (srcId, dstId) := by
  simp only [dropClient, Dict.get?_filter]
  cases relay.bytesRelayed.get? (srcId, dstId) <;> simp [notSource, notDestination]

/-- Dropping a client empties every pair that it belongs to. -/
theorem dropClient_waitingFrom (relay : RelayForwarder) {clientId : String}
    (involved : clientId = srcId ∨ clientId = dstId) :
    (relay.dropClient clientId).waitingFrom srcId dstId = [] := by
  by_cases destination : dstId = clientId
  · simp [waitingFrom, dropClient, Dict.get?_mapValues, destination]
  · have source : srcId = clientId := by
      rcases involved with same | same
      · exact same.symm
      · exact absurd same.symm destination
    rw [waitingFrom, dropClient_queue relay destination, List.filter_filter, source]
    simp

theorem dropClient_bytesRelayed (relay : RelayForwarder) {clientId : String}
    (involved : clientId = srcId ∨ clientId = dstId) :
    (relay.dropClient clientId).bytesRelayed.get? (srcId, dstId) = none := by
  have removed : (decide (clientId ≠ srcId ∧ clientId ≠ dstId)) = false := by
    rcases involved with same | same <;> simp [same]
  simp only [dropClient, Dict.get?_filter, removed]
  cases relay.bytesRelayed.get? (srcId, dstId) <;> rfl

/-! ### One call, and a list of calls -/

/-- A byte count after more frames: it appears with the first of them. -/
def countBytes (count : Option Nat) (frames : List Bytes) : Option Nat :=
  if frames = [] then count else some (count.getD 0 + (frames.map List.length).sum)

theorem countBytes_append (count : Option Nat) (first second : List Bytes) :
    countBytes count (first ++ second) = countBytes (countBytes count first) second := by
  by_cases noFirst : first = []
  · simp [countBytes, noFirst]
  · by_cases noSecond : second = []
    · simp [countBytes, noSecond]
    · simp [countBytes, noFirst, noSecond, Nat.add_assoc]

/-- One call keeps the order of a pair: what it hands out and what waits afterwards is what
waited before and what it accepts. -/
theorem call_fifo (relay : RelayForwarder) (call : RelayCall) (kept : ¬ Drops srcId dstId call) :
    (drainedFrames srcId dstId (call, (relay.call call).1)).map b64decode ++
        ((relay.call call).2.waitingFrom srcId dstId).map some =
      (relay.waitingFrom srcId dstId).map some ++
        (acceptedFrame srcId dstId (call, (relay.call call).1)).map some := by
  cases call with
  | registerRelayPath first second =>
    simpa [drainedFrames, acceptedFrame, RelayForwarder.call] using
      congrArg (List.map some) (registerRelayPath_waitingFrom relay first second)
  | relayFrame src dst rawFrame =>
    rcases relayFrame_cases relay src dst rawFrame with ⟨dropped, refused⟩ |
      ⟨queue, found, -, -, accepted⟩
    · simp [drainedFrames, acceptedFrame, RelayForwarder.call, refused, waitingFrom]
    · simp only [drainedFrames, acceptedFrame, RelayForwarder.call, accepted, List.map_nil,
        List.nil_append, waitingFrom]
      by_cases destination : dst = dstId
      · subst destination
        by_cases source : src = srcId <;> simp [found, source]
      · have other : dstId ≠ dst := fun equal => destination equal.symm
        simp [destination, Dict.get?_insert_of_ne _ _ other]
  | pendingFrames dst =>
    simpa [acceptedFrame, RelayForwarder.call] using pendingFrames_waitingFrom relay dst
  | dropClient clientId =>
    obtain ⟨notSource, notDestination⟩ := not_or.mp kept
    simpa [drainedFrames, acceptedFrame, RelayForwarder.call] using
      congrArg (List.map some) (dropClient_waitingFrom_of_ne relay notSource notDestination)

/-- One call counts the bytes of the frame of the pair that it accepts. -/
theorem call_bytesRelayed (relay : RelayForwarder) (call : RelayCall)
    (kept : ¬ Drops srcId dstId call) :
    (relay.call call).2.bytesRelayed.get? (srcId, dstId) =
      countBytes (relay.bytesRelayed.get? (srcId, dstId))
        (acceptedFrame srcId dstId (call, (relay.call call).1)) := by
  cases call with
  | registerRelayPath first second =>
    show (relay.registerRelayPath first second).2.bytesRelayed.get? _ = _
    rw [registerRelayPath_bytesRelayed]
    rfl
  | relayFrame src dst rawFrame =>
    rcases relayFrame_cases relay src dst rawFrame with ⟨dropped, refused⟩ |
      ⟨queue, -, -, -, accepted⟩
    · simp [acceptedFrame, RelayForwarder.call, refused, countBytes]
    · simp only [acceptedFrame, RelayForwarder.call, accepted]
      by_cases pair : src = srcId ∧ dst = dstId
      · obtain ⟨rfl, rfl⟩ := pair
        simp [countBytes]
      · have other : (srcId, dstId) ≠ (src, dst) := fun equal =>
          pair ⟨(congrArg Prod.fst equal).symm, (congrArg Prod.snd equal).symm⟩
        simp [pair, countBytes, Dict.get?_insert_of_ne _ _ other]
  | pendingFrames dst =>
    show (relay.pendingFrames dst).2.bytesRelayed.get? _ = _
    rw [pendingFrames_bytesRelayed]
    rfl
  | dropClient clientId =>
    obtain ⟨notSource, notDestination⟩ := not_or.mp kept
    exact dropClient_bytesRelayed_of_ne relay notSource notDestination

theorem calls_fifo (relay : RelayForwarder) (segment : List RelayCall)
    (kept : ∀ call ∈ segment, ¬ Drops srcId dstId call) :
    ((relay.calls segment).1.flatMap (drainedFrames srcId dstId)).map b64decode ++
        ((relay.calls segment).2.waitingFrom srcId dstId).map some =
      (relay.waitingFrom srcId dstId).map some ++
        ((relay.calls segment).1.flatMap (acceptedFrame srcId dstId)).map some := by
  induction segment generalizing relay with
  | nil => simp [calls]
  | cons call rest inductionHypothesis =>
    have first := call_fifo relay call (kept call (List.mem_cons_self ..))
    have later := inductionHypothesis (relay.call call).2
      fun other member => kept other (List.mem_cons_of_mem _ member)
    simp only [calls, List.flatMap_cons, List.map_append]
    rw [List.append_assoc, later, ← List.append_assoc, first, List.append_assoc]

theorem calls_bytesRelayed (relay : RelayForwarder) (segment : List RelayCall)
    (kept : ∀ call ∈ segment, ¬ Drops srcId dstId call) :
    (relay.calls segment).2.bytesRelayed.get? (srcId, dstId) =
      countBytes (relay.bytesRelayed.get? (srcId, dstId))
        ((relay.calls segment).1.flatMap (acceptedFrame srcId dstId)) := by
  induction segment generalizing relay with
  | nil => simp [calls, countBytes]
  | cons call rest inductionHypothesis =>
    have first := call_bytesRelayed relay call (kept call (List.mem_cons_self ..))
    have later := inductionHypothesis (relay.call call).2
      fun other member => kept other (List.mem_cons_of_mem _ member)
    simp only [calls, List.flatMap_cons]
    rw [later, first, countBytes_append]

theorem calls_append (relay : RelayForwarder) (earlier later : List RelayCall) :
    (relay.calls (earlier ++ later)).2 = ((relay.calls earlier).2.calls later).2 := by
  induction earlier generalizing relay with
  | nil => rfl
  | cons call rest inductionHypothesis => exact inductionHypothesis (relay.call call).2

/-- A list of calls opens a new period for a pair when it is empty or ends in a drop of either
client. -/
def Opens (srcId dstId : String) (before : List RelayCall) : Prop :=
  before = [] ∨ ∃ earlier last, before = earlier ++ [last] ∧ Drops srcId dstId last

/-- At the start of a period the pair has no frame and no byte count. -/
theorem opened_empty {before : List RelayCall} (opens : Opens srcId dstId before) :
    ((init.calls before).2.waitingFrom srcId dstId = []) ∧
      (init.calls before).2.bytesRelayed.get? (srcId, dstId) = none := by
  rcases opens with rfl | ⟨earlier, last, rfl, dropped⟩
  · exact ⟨rfl, rfl⟩
  · rw [calls_append]
    cases last with
    | registerRelayPath | relayFrame | pendingFrames => exact dropped.elim
    | dropClient clientId =>
      exact ⟨dropClient_waitingFrom _ dropped, dropClient_bytesRelayed _ dropped⟩

/-- The relay is a first-in first-out channel for each ordered pair of clients. From the start
of a period of the pair to any later point of it, the frames of the source handed out to the
destination and then those still queued are the accepted ones, in order and byte for byte; the
byte count is the sum of their lengths; and dropping any other client changes neither. -/
theorem relay_pair_fifo (srcId dstId : String) (before segment : List RelayCall)
    (opens : Opens srcId dstId before) (kept : ∀ call ∈ segment, ¬ Drops srcId dstId call) :
    let opened := (init.calls before).2
    let results := (opened.calls segment).1
    let closed := (opened.calls segment).2
    let accepted := results.flatMap (acceptedFrame srcId dstId)
    (results.flatMap (drainedFrames srcId dstId)).map b64decode ++
        (closed.waitingFrom srcId dstId).map some = accepted.map some ∧
      closed.bytesRelayed.get? (srcId, dstId) =
        (if accepted = [] then none else some (accepted.map List.length).sum) ∧
      ∀ other, other ≠ srcId → other ≠ dstId →
        (closed.dropClient other).waitingFrom srcId dstId = closed.waitingFrom srcId dstId ∧
        (closed.dropClient other).bytesRelayed.get? (srcId, dstId) =
          closed.bytesRelayed.get? (srcId, dstId) := by
  intro opened results closed accepted
  obtain ⟨noFrames, noCount⟩ := opened_empty opens
  refine ⟨?_, ?_, fun other notSource notDestination =>
    ⟨dropClient_waitingFrom_of_ne closed notSource notDestination,
      dropClient_bytesRelayed_of_ne closed notSource notDestination⟩⟩
  · have order := calls_fifo opened segment kept
    rw [noFrames, List.map_nil, List.nil_append] at order
    exact order
  · have count := calls_bytesRelayed opened segment kept
    rw [noCount] at count
    simpa [countBytes] using count

/-- Two sources share the queue of `b`, it is drained once, and a third client is dropped. -/
def mixedCalls : List RelayCall :=
  [.registerRelayPath "a" "b", .registerRelayPath "c" "b", .relayFrame "a" "b" [1, 2],
    .relayFrame "c" "b" [7], .pendingFrames "b", .relayFrame "a" "b" [], .relayFrame "a" "x" [9],
    .dropClient "c", .relayFrame "a" "b" [255, 0, 3, 4]]

theorem relay_pair_fifo_mixed :
    let closed := ((init.calls [.dropClient "a"]).2.calls mixedCalls).2
    closed.waitingFrom "a" "b" = [[], [255, 0, 3, 4]] ∧
      closed.bytesRelayed.get? ("a", "b") = some 6 ∧
      (closed.dropClient "d").waitingFrom "a" "b" = closed.waitingFrom "a" "b" := by
  obtain ⟨-, count, others⟩ := relay_pair_fifo "a" "b" [.dropClient "a"] mixedCalls
    (.inr ⟨[], .dropClient "a", rfl, .inl rfl⟩) (by decide)
  refine ⟨by decide +kernel, ?_, (others "d" (by decide) (by decide)).1⟩
  rw [count]
  decide +kernel

end RelayForwarder

end LocalNetwork
