/-
This file models the relay between the two sides of a WebSocket: `WebSocketRelay.relay` with
its two directions and its ping loop, and `close`. A direction reads frame after frame from
its side and writes to the other one. The three tasks share the event that ends them, and a
direction that is reading when the event is set still relays the frame it gets.

What a direction writes is a frame for every frame it reads, but always a final one, and a
pong in the place of a ping. So the frames come out as they went in exactly when all of them
are final and none is a ping, and the relay was not stopped before it had read them.
-/

import LocalNetwork.Transition
import LocalNetwork.WebSocketFrames

namespace LocalNetwork

/-! ### The receiver of the relay's frames -/

/-- The first frame of a byte string, and what follows. -/
def decodeFrame (data : Bytes) : Option (WebSocketFrame × Bytes) :=
  match data, readFrame data.length data with
  | byte0 :: _, .frame opcode payload rest =>
    some (⟨decide (128 ≤ byte0.toNat), Fin.ofNat 16 opcode.toNat, payload⟩, rest)
  | _, _ => none

/-- The frames that a byte string consists of, if it has no more of them than a given number. -/
def decodeFrames : Nat → Bytes → Option (List WebSocketFrame)
  | _, [] => some []
  | 0, _ => none
  | frames + 1, data =>
    (decodeFrame data).bind fun decoded => (decodeFrames frames decoded.2).map (decoded.1 :: ·)

/-! ### The relay -/

/-- A write to the other side: on behalf of a side, or of the relay itself. -/
inductive RelayWrite where
  | forwarded (data : Bytes)
  | own (data : Bytes)

/-- A direction of the relay: the bytes from its side that were read and those that were not, what
was written to the other side, and whether its task runs. -/
structure RelayDirection where
  taken : Bytes
  buffer : Bytes
  written : List RelayWrite
  active : Bool

inductive RelaySide where
  | client
  | upstream
  deriving DecidableEq

/-- The relay, with the event that ends it and whether the task of the ping loop runs. -/
structure WebSocketRelay where
  maxMessageSize : Nat
  done : Bool
  pinging : Bool
  client : RelayDirection
  upstream : RelayDirection

inductive RelayEvent where
  /-- Bytes arrive from a side. -/
  | arrives (side : RelaySide) (data : Bytes)
  /-- A direction gets on with its next frame. -/
  | relays (side : RelaySide)
  /-- A read or a write of a direction ends with an exception, which it catches or not. -/
  | fails (side : RelaySide) (caught : Bool)
  /-- The ping loop wakes up. -/
  | pings
  /-- A write of the ping loop ends with an exception, which it catches or not. -/
  | pingFails (caught : Bool)
  /-- The tasks are cancelled. -/
  | cancels
  /-- `close`, once the tasks are over. -/
  | closes

namespace RelayDirection

def new : RelayDirection := ⟨[], [], [], true⟩

/-- The bytes that were written on behalf of the side. -/
def onBehalf (direction : RelayDirection) : Bytes :=
  direction.written.flatMap fun
    | .forwarded data => data
    | .own _ => []

/-- The opcode under which a frame is written. -/
def forwardOpcode (opcode : UInt8) : UInt8 := if opcode = opPing then opPong else opcode

end RelayDirection

namespace WebSocketRelay

def new (maxMessageSize : Nat) : WebSocketRelay := ⟨maxMessageSize, false, true, .new, .new⟩

/-- The direction that reads from a side. -/
def direction (relay : WebSocketRelay) : RelaySide → RelayDirection
  | .client => relay.client
  | .upstream => relay.upstream

def setDirection (relay : WebSocketRelay) (side : RelaySide) (direction : RelayDirection) :
    WebSocketRelay :=
  match side with
  | .client => { relay with client := direction }
  | .upstream => { relay with upstream := direction }

/-- A direction reads a frame, writes one, and looks whether it is to go on. -/
def relays (relay : WebSocketRelay) (side : RelaySide) : Option WebSocketRelay :=
  let direction := relay.direction side
  match readFrame relay.maxMessageSize direction.buffer with
  | .waits => none
  | .tooLarge =>
    some ({ relay with done := true }.setDirection side { direction with active := false })
  | .frame opcode payload rest =>
    let done := relay.done || opcode = opClose
    some ({ relay with done }.setDirection side
      { taken := direction.taken ++ direction.buffer.take (direction.buffer.length - rest.length)
        buffer := rest
        written := direction.written ++
          [RelayWrite.forwarded (sendFrame (RelayDirection.forwardOpcode opcode) payload)]
        active := !done })

def step (relay : WebSocketRelay) : RelayEvent → Option WebSocketRelay
  | .arrives side data =>
    let direction := relay.direction side
    some (relay.setDirection side { direction with buffer := direction.buffer ++ data })
  | .relays side => if (relay.direction side).active then relay.relays side else none
  | .fails side caught =>
    if (relay.direction side).active then
      some ({ relay with done := relay.done || caught }.setDirection side
        { relay.direction side with active := false })
    else none
  | .pings =>
    if relay.done || !relay.pinging then none
    else
      some { relay with client := { relay.client with
        written := relay.client.written ++ [.own (sendFrame opPing [])] } }
  | .pingFails caught =>
    if relay.pinging then some { relay with done := relay.done || caught, pinging := false }
    else none
  | .cancels =>
    if relay.done then
      some { relay with
        pinging := false
        client := { relay.client with active := false }
        upstream := { relay.upstream with active := false } }
    else none
  | .closes =>
    if relay.client.active || relay.upstream.active then none
    else
      let frame := RelayWrite.own (sendFrame opClose (toBigEndian 2 1000))
      some { relay with
        client := { relay.client with written := relay.client.written ++ [frame] }
        upstream := { relay.upstream with written := relay.upstream.written ++ [frame] } }

end WebSocketRelay

/-! ### The receiver decodes what was sent -/

/-- A frame as the relay sends it. -/
def WebSocketFrame.plain (frame : WebSocketFrame) : WireFrame := ⟨frame, none⟩

theorem headerByte_fin (fin : Bool) (opcode : Fin 16) :
    decide (128 ≤ (headerByte fin opcode).toNat) = fin := by
  revert fin opcode
  decide

theorem fin_opcode (opcode : Fin 16) : Fin.ofNat 16 (UInt8.ofNat opcode).toNat = opcode := by
  revert opcode
  decide

theorem decodeFrame_encode {frame : WireFrame} (bounded : frame.payload.length < 2 ^ 63)
    (rest : Bytes) :
    decodeFrame (frame.encode ++ rest) = some (frame.toWebSocketFrame, rest) := by
  have fits : frame.WellFormed (frame.encode ++ rest).length := by
    refine ⟨?_, bounded⟩
    rw [WireFrame.encode]
    cases frame.mask with
    | none => simp; omega
    | some key => simp [applyMask_length]; omega
  have read := readFrame_encode fits rest
  obtain ⟨tail, whole⟩ : ∃ tail, frame.encode ++ rest =
      headerByte frame.fin frame.opcode :: tail := ⟨_, rfl⟩
  rw [whole] at read ⊢
  simp only [decodeFrame, read, headerByte_fin, fin_opcode]

theorem encode_length_pos (frame : WireFrame) : 0 < frame.encode.length := by
  rw [WireFrame.encode]
  exact Nat.succ_pos _

theorem decodeFrames_encode {frames : List WebSocketFrame}
    (bounded : ∀ frame ∈ frames, frame.payload.length < 2 ^ 63) (count : Nat)
    (enough : frames.length ≤ count) :
    decodeFrames count (frames.flatMap fun frame => frame.plain.encode) = some frames := by
  induction frames generalizing count with
  | nil => cases count <;> rfl
  | cons frame rest inductionHypothesis =>
    obtain ⟨count, rfl⟩ : ∃ fewer, count = fewer + 1 :=
      ⟨count - 1, by simp at enough; omega⟩
    have first := @decodeFrame_encode frame.plain (bounded frame (.head _))
      (rest.flatMap fun frame => frame.plain.encode)
    have later := inductionHypothesis (fun other member => bounded other (.tail _ member)) count
      (by simpa using enough)
    rw [List.flatMap_cons]
    generalize rest.flatMap (fun frame => frame.plain.encode) = data at first later
    cases whole : frame.plain.encode ++ data with
    | nil =>
      have positive := encode_length_pos frame.plain
      rw [(List.append_eq_nil_iff.mp whole).1] at positive
      exact absurd positive (by decide)
    | cons byte bytes =>
      rw [decodeFrames, ← whole, first, Option.bind_some, later]
      rfl
      exact nofun

/-- A stream of frames has at least as many bytes as frames. -/
theorem length_le_flatMap_encode {Sent : Type} (toWire : Sent → WireFrame) (frames : List Sent) :
    frames.length ≤ (frames.flatMap fun frame => (toWire frame).encode).length := by
  induction frames with
  | nil => exact Nat.le_refl 0
  | cons frame rest inductionHypothesis =>
    have positive := encode_length_pos (toWire frame)
    rw [List.flatMap_cons, List.length_append, List.length_cons]
    omega

/-! ### The frames that are relayed, and what is written for them -/

/-- The frames up to and including the first one that closes. -/
def upToClose : List WireFrame → List WireFrame
  | [] => []
  | frame :: rest => if frame.opcode = 8 then [frame] else frame :: upToClose rest

/-- The frame that is written for a frame. -/
def WireFrame.forwarded (frame : WireFrame) : WebSocketFrame :=
  ⟨true, if frame.opcode = 9 then 10 else frame.opcode, frame.payload⟩

theorem upToClose_append {read : List WireFrame} (unclosed : ∀ frame ∈ read, frame.opcode ≠ 8)
    (rest : List WireFrame) : upToClose (read ++ rest) = read ++ upToClose rest := by
  induction read with
  | nil => rfl
  | cons frame read inductionHypothesis =>
    rw [List.cons_append, upToClose, if_neg (unclosed frame (.head _)),
      inductionHypothesis fun other member => unclosed other (.tail _ member)]
    rfl

theorem ofNat_opcode_eq_opClose (opcode : Fin 16) : UInt8.ofNat opcode = opClose ↔ opcode = 8 := by
  revert opcode
  decide

/-- What is written for a frame is the encoding of the forwarded frame. -/
theorem sendFrame_forwardOpcode (frame : WireFrame) :
    sendFrame (RelayDirection.forwardOpcode (UInt8.ofNat frame.opcode)) frame.payload =
      frame.forwarded.plain.encode := by
  have opcode : RelayDirection.forwardOpcode (UInt8.ofNat frame.opcode) =
      UInt8.ofNat frame.forwarded.opcode := by
    show RelayDirection.forwardOpcode (UInt8.ofNat frame.opcode) =
      UInt8.ofNat (if frame.opcode = 9 then 10 else frame.opcode : Fin 16)
    generalize frame.opcode = opcode
    revert opcode
    decide
  rw [opcode, sendFrame_eq_encode]
  rfl

/-- A frame comes out as it went in when it is final and not a ping. -/
theorem forwarded_eq_iff (frame : WireFrame) :
    frame.forwarded = frame.toWebSocketFrame ↔ frame.fin = true ∧ frame.opcode ≠ 9 := by
  obtain ⟨⟨fin, opcode, payload⟩, mask⟩ := frame
  have same : WireFrame.forwarded ⟨⟨fin, opcode, payload⟩, mask⟩ = ⟨fin, opcode, payload⟩ ↔
      true = fin ∧ (if opcode = 9 then 10 else opcode) = opcode := by
    simp [WireFrame.forwarded]
  rw [same]
  clear same
  show true = fin ∧ (if opcode = 9 then 10 else opcode) = opcode ↔ fin = true ∧ opcode ≠ 9
  revert fin opcode
  decide

theorem map_eq_map_iff_of_initial {Item Image : Type} {first second : Item → Image}
    {read all : List Item} (initial : read <+: all) :
    read.map first = all.map second ↔ read = all ∧ ∀ item ∈ all, first item = second item := by
  constructor
  · intro same
    have lengths := congrArg List.length same
    rw [List.length_map, List.length_map] at lengths
    have whole := initial.eq_of_length lengths
    exact ⟨whole, List.map_inj_left.mp (whole ▸ same)⟩
  · rintro ⟨rfl, same⟩
    exact List.map_inj_left.mpr same

/-! ### What a direction does in a step -/

namespace WebSocketRelay

@[simp]
theorem direction_setDirection (relay : WebSocketRelay) (side : RelaySide)
    (direction : RelayDirection) : (relay.setDirection side direction).direction side = direction :=
  by cases side <;> rfl

theorem direction_setDirection_ne {side other : RelaySide} (different : other ≠ side)
    (relay : WebSocketRelay) (direction : RelayDirection) :
    (relay.setDirection side direction).direction other = relay.direction other := by
  cases side <;> cases other <;> first | rfl | exact absurd rfl different

@[simp]
theorem setDirection_maxMessageSize (relay : WebSocketRelay) (side : RelaySide)
    (direction : RelayDirection) :
    (relay.setDirection side direction).maxMessageSize = relay.maxMessageSize := by
  cases side <;> rfl

end WebSocketRelay

namespace RelayDirection

theorem onBehalf_own (direction : RelayDirection) (data : Bytes) :
    ({ direction with written := direction.written ++ [RelayWrite.own data] }).onBehalf =
      direction.onBehalf := by
  simp [onBehalf]

/-- A direction that at most got bytes, wrote for the relay itself or stopped. -/
structure Waits (direction after : RelayDirection) : Prop where
  taken : after.taken = direction.taken
  buffer : direction.buffer <+: after.buffer
  onBehalf : after.onBehalf = direction.onBehalf
  active : after.active → direction.active

/-- A direction that relayed a frame. -/
structure Relays (maxMessageSize : Nat) (direction after : RelayDirection) (opcode : UInt8)
    (payload : Bytes) : Prop where
  running : direction.active
  read : readFrame maxMessageSize direction.buffer = .frame opcode payload after.buffer
  taken : after.taken =
    direction.taken ++ direction.buffer.take (direction.buffer.length - after.buffer.length)
  onBehalf : after.onBehalf = direction.onBehalf ++ sendFrame (forwardOpcode opcode) payload
  active : after.active → opcode ≠ opClose

theorem Waits.refl (direction : RelayDirection) : Waits direction direction :=
  ⟨rfl, List.prefix_rfl, rfl, id⟩

end RelayDirection

namespace WebSocketRelay

theorem relays_cases {relay after : WebSocketRelay} {side : RelaySide}
    (running : (relay.direction side).active) (relayed : relay.relays side = some after) :
    after.maxMessageSize = relay.maxMessageSize ∧
      (∀ other, other ≠ side → after.direction other = relay.direction other) ∧
      ((relay.direction side).Waits (after.direction side) ∨
        ∃ opcode payload, (relay.direction side).Relays relay.maxMessageSize
          (after.direction side) opcode payload) := by
  unfold relays at relayed
  dsimp only at relayed
  split at relayed
  · cases relayed
  · obtain rfl := Option.some.inj relayed
    refine ⟨by simp, fun other different => direction_setDirection_ne different _ _, .inl ?_⟩
    rw [direction_setDirection]
    exact ⟨rfl, List.prefix_rfl, rfl, nofun⟩
  · rename_i opcode payload rest read
    obtain rfl := Option.some.inj relayed
    refine ⟨by simp, fun other different => direction_setDirection_ne different _ _,
      .inr ⟨opcode, payload, ?_⟩⟩
    rw [direction_setDirection]
    refine ⟨running, read, rfl, by simp [RelayDirection.onBehalf], fun active => ?_⟩
    simp at active
    exact active.2

theorem waits_of_eq {relay after : WebSocketRelay} {side : RelaySide}
    (same : after.direction side = relay.direction side) :
    (relay.direction side).Waits (after.direction side) :=
  same ▸ RelayDirection.Waits.refl _

/-- Where one direction changes, the other one stays. -/
theorem waits_setDirection (relay : WebSocketRelay) {other : RelaySide}
    {direction : RelayDirection} (waits : (relay.direction other).Waits direction)
    (side : RelaySide) :
    (relay.direction side).Waits ((relay.setDirection other direction).direction side) := by
  by_cases same : side = other
  · subst same
    rwa [direction_setDirection]
  · exact waits_of_eq (direction_setDirection_ne same _ _)

/-- A step makes a direction wait, or the direction relays a frame. -/
theorem step_cases {relay after : WebSocketRelay} {event : RelayEvent} (side : RelaySide)
    (stepped : relay.step event = some after) :
    after.maxMessageSize = relay.maxMessageSize ∧
      ((relay.direction side).Waits (after.direction side) ∨
        ∃ opcode payload, (relay.direction side).Relays relay.maxMessageSize
          (after.direction side) opcode payload) := by
  cases event with
  | arrives other data =>
    obtain rfl := Option.some.inj stepped
    refine ⟨by simp, .inl (waits_setDirection relay ?_ side)⟩
    exact ⟨rfl, List.prefix_append _ _, rfl, id⟩
  | relays other =>
    rw [step] at stepped
    split at stepped
    · rename_i running
      obtain ⟨size, others, here⟩ := relays_cases running stepped
      by_cases same : side = other
      · exact ⟨size, same ▸ here⟩
      · exact ⟨size, .inl (waits_of_eq (others side same))⟩
    · cases stepped
  | fails other caught =>
    rw [step] at stepped
    split at stepped
    · obtain rfl := Option.some.inj stepped
      refine ⟨by simp, .inl (waits_setDirection { relay with done := relay.done || caught } ?_ side)⟩
      exact ⟨rfl, List.prefix_rfl, rfl, nofun⟩
    · cases stepped
  | pings =>
    rw [step] at stepped
    split at stepped
    · cases stepped
    · obtain rfl := Option.some.inj stepped
      cases side with
      | client =>
        exact ⟨rfl, .inl ⟨rfl, List.prefix_rfl, RelayDirection.onBehalf_own _ _, id⟩⟩
      | upstream => exact ⟨rfl, .inl (.refl _)⟩
  | pingFails caught =>
    rw [step] at stepped
    split at stepped
    · obtain rfl := Option.some.inj stepped
      exact ⟨rfl, .inl (waits_of_eq (by cases side <;> rfl))⟩
    · cases stepped
  | cancels =>
    rw [step] at stepped
    split at stepped
    · obtain rfl := Option.some.inj stepped
      cases side with
      | client => exact ⟨rfl, .inl ⟨rfl, List.prefix_rfl, rfl, nofun⟩⟩
      | upstream => exact ⟨rfl, .inl ⟨rfl, List.prefix_rfl, rfl, nofun⟩⟩
    · cases stepped
  | closes =>
    rw [step] at stepped
    split at stepped
    · cases stepped
    · obtain rfl := Option.some.inj stepped
      cases side with
      | client =>
        exact ⟨rfl, .inl ⟨rfl, List.prefix_rfl, RelayDirection.onBehalf_own _ _, id⟩⟩
      | upstream =>
        exact ⟨rfl, .inl ⟨rfl, List.prefix_rfl, RelayDirection.onBehalf_own _ _, id⟩⟩

end WebSocketRelay

/-! ### What was written for the frames that were read -/

theorem upToClose_initial (frames : List WireFrame) : upToClose frames <+: frames := by
  induction frames with
  | nil => exact List.prefix_rfl
  | cons frame rest inductionHypothesis =>
    rw [upToClose]
    split
    · exact List.prefix_append [frame] rest
    · exact List.cons_prefix_cons.mpr ⟨rfl, inductionHypothesis⟩

/-- A read of the start of a frame and what follows it takes exactly the frame. -/
theorem readFrame_initial {maxMessageSize : Nat} {frame : WireFrame}
    (wellFormed : frame.WellFormed maxMessageSize) {buffer payload rest following : Bytes}
    {opcode : UInt8} (initial : buffer <+: frame.encode ++ following)
    (read : readFrame maxMessageSize buffer = .frame opcode payload rest) :
    opcode = UInt8.ofNat frame.opcode ∧ payload = frame.payload ∧
      buffer = frame.encode ++ rest := by
  obtain ⟨more, whole⟩ := initial
  have same := @readFrame_append maxMessageSize buffer more
  rw [read] at same
  dsimp only at same
  rw [whole, readFrame_encode wellFormed] at same
  obtain ⟨sameOpcode, samePayload, sameRest⟩ := FrameRead.frame.inj same
  refine ⟨sameOpcode.symm, samePayload.symm, ?_⟩
  rw [sameRest, ← List.append_assoc] at whole
  exact List.append_cancel_right whole

namespace RelayDirection

/-- The bytes that arrived are the start of the frames from the side. -/
def Receives (frames : List WireFrame) (direction : RelayDirection) : Prop :=
  direction.taken ++ direction.buffer <+: frames.flatMap WireFrame.encode

/-- Some first frames were read, and for each of them the forwarded frame was written. -/
structure Followed (frames read : List WireFrame) (direction : RelayDirection) : Prop where
  initial : read <+: upToClose frames
  taken : direction.taken = read.flatMap WireFrame.encode
  onBehalf : direction.onBehalf =
    (read.map WireFrame.forwarded).flatMap fun frame => frame.plain.encode
  unclosed : direction.active → ∀ frame ∈ read, frame.opcode ≠ 8

theorem new_followed (frames : List WireFrame) : new.Followed frames [] :=
  ⟨List.nil_prefix, rfl, rfl, nofun⟩

section

variable {maxMessageSize : Nat} {frames read : List WireFrame} {direction after : RelayDirection}

theorem Waits.receives (waits : direction.Waits after) (received : after.Receives frames) :
    direction.Receives frames := by
  refine List.IsPrefix.trans ?_ received
  rw [waits.taken]
  exact (List.prefix_append_right_inj _).mpr waits.buffer

theorem Waits.followed (waits : direction.Waits after) (followed : direction.Followed frames read) :
    after.Followed frames read :=
  ⟨followed.initial, waits.taken.trans followed.taken, waits.onBehalf.trans followed.onBehalf,
    fun active => followed.unclosed (waits.active active)⟩

variable {opcode : UInt8} {payload : Bytes}

theorem Relays.receives (relays : direction.Relays maxMessageSize after opcode payload)
    (received : after.Receives frames) : direction.Receives frames := by
  obtain ⟨frame, whole⟩ := readFrame_suffix relays.read
  have size : direction.buffer.length - after.buffer.length = frame.length := by
    rw [← whole, List.length_append]
    omega
  rw [Receives, relays.taken, size, ← whole, List.take_left, List.append_assoc, whole] at received
  exact received

/-- The frame that a direction relays is the next one. -/
theorem Relays.followed (relays : direction.Relays maxMessageSize after opcode payload)
    (wellFormed : ∀ frame ∈ frames, frame.WellFormed maxMessageSize)
    (received : direction.Receives frames) (followed : direction.Followed frames read) :
    ∃ frame, after.Followed frames (read ++ [frame]) := by
  have unclosed := followed.unclosed relays.running
  obtain ⟨rest, rfl⟩ := followed.initial.trans (upToClose_initial frames)
  rw [Receives, followed.taken, List.flatMap_append, List.prefix_append_right_inj] at received
  cases rest with
  | nil =>
    have empty : direction.buffer = [] := List.prefix_nil.mp received
    have waits := relays.read
    rw [empty] at waits
    cases waits
  | cons frame rest =>
    have fits := wellFormed frame (by simp)
    obtain ⟨rfl, rfl, whole⟩ := readFrame_initial fits received relays.read
    refine ⟨frame, ?_, ?_, ?_, fun active => ?_⟩
    · rw [upToClose_append unclosed, List.prefix_append_right_inj, upToClose]
      split
      · exact List.prefix_rfl
      · exact List.prefix_append [frame] _
    · have size : direction.buffer.length - after.buffer.length = frame.encode.length := by
        rw [whole, List.length_append]
        omega
      rw [relays.taken, size, whole, List.take_left, followed.taken]
      simp
    · rw [relays.onBehalf, sendFrame_forwardOpcode, followed.onBehalf]
      simp
    · have notClose := mt (ofNat_opcode_eq_opClose frame.opcode).mpr (relays.active active)
      intro other member
      rcases List.mem_append.mp member with earlier | last
      · exact unclosed other earlier
      · rw [List.mem_singleton.mp last]
        exact notClose

end

/-- The receiver decodes the forwarded frames of those that were read. -/
theorem Followed.decodes {maxMessageSize : Nat} {frames read : List WireFrame}
    {direction : RelayDirection} (followed : direction.Followed frames read)
    (wellFormed : ∀ frame ∈ frames, frame.WellFormed maxMessageSize) :
    decodeFrames direction.onBehalf.length direction.onBehalf =
      some (read.map WireFrame.forwarded) := by
  have members := (followed.initial.trans (upToClose_initial frames)).subset
  rw [followed.onBehalf]
  refine decodeFrames_encode (fun frame member => ?_) _
    (length_le_flatMap_encode WebSocketFrame.plain _)
  obtain ⟨original, memberRead, rfl⟩ := List.mem_map.mp member
  exact (wellFormed original (members memberRead)).2

theorem Followed.taken_eq_iff {frames read : List WireFrame} {direction : RelayDirection}
    (followed : direction.Followed frames read) :
    direction.taken = (upToClose frames).flatMap WireFrame.encode ↔ read = upToClose frames := by
  rw [followed.taken]
  refine ⟨fun same => ?_, fun same => same ▸ rfl⟩
  obtain ⟨more, whole⟩ := followed.initial
  have positive := length_le_flatMap_encode id more
  rw [← whole, List.flatMap_append, List.self_eq_append_right] at same
  have empty : more = [] := List.eq_nil_of_length_eq_zero (by simpa [same] using positive)
  rw [← whole, empty, List.append_nil]

end RelayDirection

/-! ### Transparency -/

namespace WebSocketRelay

/-- As long as the bytes from a side are the start of the frames, some of the frames were read and
forwarded. -/
structure Tracks (maxMessageSize : Nat) (side : RelaySide) (frames : List WireFrame)
    (relay : WebSocketRelay) : Prop where
  size : relay.maxMessageSize = maxMessageSize
  followed : (relay.direction side).Receives frames →
    ∃ read, (relay.direction side).Followed frames read

section

variable {maxMessageSize : Nat} {side : RelaySide} {frames : List WireFrame}

theorem new_tracks : (new maxMessageSize).Tracks maxMessageSize side frames := by
  refine ⟨rfl, fun _ => ⟨[], ?_⟩⟩
  cases side <;> exact RelayDirection.new_followed frames

theorem Tracks.step {relay after : WebSocketRelay} {event : RelayEvent}
    (wellFormed : ∀ frame ∈ frames, frame.WellFormed maxMessageSize)
    (tracks : relay.Tracks maxMessageSize side frames)
    (stepped : relay.step event = some after) : after.Tracks maxMessageSize side frames := by
  obtain ⟨size, here⟩ := step_cases side stepped
  refine ⟨size.trans tracks.size, fun received => ?_⟩
  rcases here with waits | ⟨opcode, payload, relays⟩
  · obtain ⟨read, followed⟩ := tracks.followed (waits.receives received)
    exact ⟨read, waits.followed followed⟩
  · have earlier := relays.receives received
    obtain ⟨read, followed⟩ := tracks.followed earlier
    obtain ⟨frame, later⟩ := relays.followed (tracks.size ▸ wellFormed) earlier followed
    exact ⟨_, later⟩

theorem run_tracks (wellFormed : ∀ frame ∈ frames, frame.WellFormed maxMessageSize)
    {events : List RelayEvent} {after : WebSocketRelay}
    (ran : runFrom step (new maxMessageSize) events = some after) :
    after.Tracks maxMessageSize side frames :=
  run_invariant (fun _ _ _ _ tracks stepped => tracks.step wellFormed stepped) new_tracks
    (holdsAlong_true events _) ran

end

/-- In every run, what the relay has written on behalf of a side decodes to the frames that came
from the side, up to the first one that closes, exactly when the relay has read all these frames,
and all of them are final and none is a ping. -/
theorem relay_transparent_iff (maxMessageSize : Nat) (side : RelaySide) (frames : List WireFrame)
    (wellFormed : ∀ frame ∈ frames, frame.WellFormed maxMessageSize)
    (events : List RelayEvent) (after : WebSocketRelay)
    (ran : runFrom step (new maxMessageSize) events = some after)
    (received : (after.direction side).Receives frames) :
    decodeFrames (after.direction side).onBehalf.length (after.direction side).onBehalf =
        some ((upToClose frames).map WireFrame.toWebSocketFrame) ↔
      (after.direction side).taken = (upToClose frames).flatMap WireFrame.encode ∧
        ∀ frame ∈ upToClose frames, frame.fin = true ∧ frame.opcode ≠ 9 := by
  obtain ⟨read, followed⟩ := (run_tracks wellFormed ran).followed received
  rw [followed.decodes wellFormed, followed.taken_eq_iff, Option.some_inj,
    map_eq_map_iff_of_initial followed.initial]
  simp only [forwarded_eq_iff]

/-- A text in one frame and a close, masked by the client. -/
def wholeText : List WireFrame :=
  [⟨⟨true, 1, [104, 105]⟩, some ⟨[1, 2, 3, 4], rfl⟩⟩, ⟨⟨true, 8, []⟩, some ⟨[1, 2, 3, 4], rfl⟩⟩]

def wholeTextEvents : List RelayEvent :=
  [.arrives .client (wholeText.flatMap WireFrame.encode), .relays .client, .pings,
    .relays .client, .cancels, .closes]

/-- A text in two frames with a ping between them. -/
def splitText : List WireFrame :=
  [⟨⟨false, 1, [104]⟩, some ⟨[1, 2, 3, 4], rfl⟩⟩, ⟨⟨true, 9, []⟩, none⟩,
    ⟨⟨true, 0, [105]⟩, none⟩]

theorem relay_transparent_wholeText :
    ∃ after, runFrom step (new 1048576) wholeTextEvents = some after ∧
      decodeFrames (after.direction .client).onBehalf.length (after.direction .client).onBehalf =
        some ((upToClose wholeText).map WireFrame.toWebSocketFrame) := by
  refine ⟨_, rfl, (relay_transparent_iff 1048576 .client wholeText ?_ wholeTextEvents
    _ rfl ?_).mpr ?_⟩
  · unfold WireFrame.WellFormed
    decide
  · exact List.prefix_rfl
  · exact ⟨rfl, by decide⟩

theorem relay_not_transparent :
    ∃ after, runFrom step (new 1048576)
        [.arrives .client (splitText.flatMap WireFrame.encode), .relays .client, .relays .client,
          .relays .client] = some after ∧
      (after.direction .client).Receives splitText ∧
      (after.direction .client).taken = (upToClose splitText).flatMap WireFrame.encode ∧
      decodeFrames (after.direction .client).onBehalf.length (after.direction .client).onBehalf =
        some [⟨true, 1, [104]⟩, ⟨true, 10, []⟩, ⟨true, 0, [105]⟩] ∧
      decodeFrames (after.direction .client).onBehalf.length (after.direction .client).onBehalf ≠
        some ((upToClose splitText).map WireFrame.toWebSocketFrame) := by
  refine ⟨_, rfl, List.prefix_rfl, rfl, rfl, fun same => ?_⟩
  have finals := congrArg (Option.map (List.map WebSocketFrame.fin)) same
  exact absurd finals (by decide)

end WebSocketRelay

end LocalNetwork
