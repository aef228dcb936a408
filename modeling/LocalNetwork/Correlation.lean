/-
This file proves when a request on the control channel gets its own reply. Replies carry no
correlation: the background reader gives the pending request every ERROR and every message
of the type it expects, and the request takes the first of them. So an ERROR that answers
another message, or a push of the expected type, ends the request as if it were its reply;
the server does push RELAY_GRANTED to the peer of a request.

Messages of these two types are the ones that can be confused with a reply. If none is under
way or queued when a request gets the lock, and while it has the lock the server writes none
but its answer to it, then whatever ends the request is the server's answer to its message.
-/

import LocalNetwork.ChannelSteps

namespace LocalNetwork

/-- A message that a request could take for its reply. -/
def confuses (expected : String) (message : Message) : Bool :=
  decide (message.type = "ERROR" ∨ message.type = expected)

def ResponseItem.confuses (expected : String) : ResponseItem → Bool
  | .reply delivery => LocalNetwork.confuses expected delivery.message
  | .lost _ => false

/-- The steps in which a message is sent or the server writes one. -/
def ChannelEvent.writes : ChannelEvent → Bool
  | .acquire _ | .send _ | .serverAnswers _ _ | .serverPushes _ _ => true
  | _ => false

namespace ControlChannel

/-! ### Steps that send nothing -/

/-- What a step can do to a request, its queue and the connections if nothing is sent: messages
move from a connection to the queue or go away, and so does the request. -/
structure Narrows (channel next : ControlChannel) : Prop where
  nextId : next.nextId = channel.nextId
  outbound : ∀ wire ∈ next.wires, ∀ entry ∈ wire.outbound,
    ∃ old ∈ channel.wires, entry ∈ old.outbound
  inbound : ∀ wire ∈ next.wires, ∀ delivery ∈ wire.inbound,
    ∃ old ∈ channel.wires, delivery ∈ old.inbound
  replies : ∀ delivery, .reply delivery ∈ next.responses →
    .reply delivery ∈ channel.responses ∨ ∃ old ∈ channel.wires, delivery ∈ old.inbound
  holder : ∀ holder ∈ next.holder, ∃ old ∈ channel.holder,
    old.job = holder.job ∧ old.id = holder.id

variable {channel middle next : ControlChannel}

theorem Narrows.refl (channel : ControlChannel) : Narrows channel channel :=
  ⟨rfl, fun wire member _ inside => ⟨wire, member, inside⟩,
    fun wire member _ inside => ⟨wire, member, inside⟩, fun _ queued => .inl queued,
    fun holder held => ⟨holder, held, rfl, rfl⟩⟩

theorem Narrows.trans (first : Narrows channel middle) (second : Narrows middle next) :
    Narrows channel next where
  nextId := second.nextId.trans first.nextId
  outbound wire member entry inside := by
    obtain ⟨old, oldMember, oldInside⟩ := second.outbound wire member entry inside
    exact first.outbound old oldMember entry oldInside
  inbound wire member delivery inside := by
    obtain ⟨old, oldMember, oldInside⟩ := second.inbound wire member delivery inside
    exact first.inbound old oldMember delivery oldInside
  replies delivery queued := by
    rcases second.replies delivery queued with before | ⟨old, member, inside⟩
    · exact first.replies delivery before
    · exact .inr (first.inbound old member delivery inside)
  holder holder held := by
    obtain ⟨old, oldHeld, sameJob, sameId⟩ := second.holder holder held
    obtain ⟨older, olderHeld, olderJob, olderId⟩ := first.holder old oldHeld
    exact ⟨older, olderHeld, olderJob.trans sameJob, olderId.trans sameId⟩

/-- A step that keeps connections, queue and request. -/
theorem Narrows.of_eq (nextId : next.nextId = channel.nextId) (wires : next.wires = channel.wires)
    (responses : next.responses = channel.responses) (holder : next.holder = channel.holder) :
    Narrows channel next :=
  ⟨nextId, fun wire member _ inside => ⟨wire, wires ▸ member, inside⟩,
    fun wire member _ inside => ⟨wire, wires ▸ member, inside⟩,
    fun _ queued => .inl (responses ▸ queued),
    fun held member => ⟨held, holder ▸ member, rfl, rfl⟩⟩

/-- A request that goes on waits elsewhere; nothing else changes. -/
theorem narrows_waits {holder : Holder} (held : channel.holder = some holder)
    (waiting : Waiting) :
    Narrows channel
      { channel with holder := some ⟨holder.job, holder.id, holder.connection, waiting⟩ } where
  nextId := rfl
  outbound wire member _ inside := ⟨wire, member, inside⟩
  inbound wire member _ inside := ⟨wire, member, inside⟩
  replies _ queued := .inl queued
  holder later same := by
    obtain rfl := Option.some.inj same
    exact ⟨holder, held, rfl, rfl⟩

theorem narrows_connect (channel : ControlChannel) : Narrows channel channel.connect where
  nextId := rfl
  outbound wire member entry inside := by
    rcases List.mem_append.mp member with old | new
    · exact ⟨wire, old, inside⟩
    · rw [List.mem_singleton.mp new] at inside
      cases inside
  inbound wire member delivery inside := by
    rcases List.mem_append.mp member with old | new
    · exact ⟨wire, old, inside⟩
    · rw [List.mem_singleton.mp new] at inside
      cases inside
  replies delivery queued := .inl queued
  holder held member := ⟨held, member, rfl, rfl⟩

theorem narrows_onConnectionLost (channel : ControlChannel) :
    Narrows channel channel.onConnectionLost := by
  unfold onConnectionLost
  split
  · exact .refl channel
  · refine ⟨rfl, fun wire member _ inside => ⟨wire, member, inside⟩,
      fun wire member _ inside => ⟨wire, member, inside⟩, fun delivery queued => ?_,
      fun held member => ⟨held, member, rfl, rfl⟩⟩
    rcases List.mem_append.mp queued with old | new
    · exact .inl old
    · cases List.mem_singleton.mp new

theorem narrows_release (channel : ControlChannel) : Narrows channel channel.release :=
  ⟨rfl, fun wire member _ inside => ⟨wire, member, inside⟩,
    fun wire member _ inside => ⟨wire, member, inside⟩, fun _ queued => .inl queued,
    fun _ held => (nomatch held)⟩

theorem narrows_authFailed (channel : ControlChannel) (owner : AuthOwner) :
    Narrows channel (channel.authFailed owner) := by
  cases owner with
  | user => exact .refl channel
  | reconnect => exact .of_eq rfl rfl rfl rfl

theorem narrows_authDone (channel : ControlChannel) (owner : AuthOwner) :
    Narrows channel (channel.authDone owner) := by
  cases owner with
  | user => exact .refl channel
  | reconnect => exact .of_eq rfl rfl rfl rfl

theorem narrows_fail (channel : ControlChannel) (caller : Caller) :
    Narrows channel (channel.fail caller) := by
  cases caller with
  | user => exact .refl channel
  | heartbeat => exact (narrows_onConnectionLost channel).trans (.of_eq rfl rfl rfl rfl)
  | register owner => exact narrows_authFailed channel owner
  | respond owner => exact narrows_authFailed channel owner
  | reregister => exact narrows_authFailed channel .reconnect

theorem narrows_respond (channel : ControlChannel) (sign : String → Option String)
    (owner : AuthOwner) (reply : Message) : Narrows channel (channel.respond sign owner reply) := by
  unfold respond
  split
  · exact narrows_authFailed channel owner
  · split
    · exact narrows_authFailed channel owner
    · exact .of_eq rfl rfl rfl rfl

theorem narrows_succeed (channel : ControlChannel) (sign : String → Option String)
    (reply : Message) (caller : Caller) : Narrows channel (channel.succeed sign reply caller) := by
  cases caller with
  | user => exact .refl channel
  | heartbeat => exact .of_eq rfl rfl rfl rfl
  | register owner => exact narrows_respond channel sign owner reply
  | respond owner =>
    refine Narrows.trans ?_ (narrows_authDone _ owner)
    exact .of_eq rfl rfl rfl rfl
  | reregister => exact narrows_authDone channel .reconnect

theorem narrows_endEventLoop (channel : ControlChannel) : Narrows channel channel.endEventLoop :=
  .of_eq rfl rfl rfl rfl

theorem narrows_eventLoop (channel : ControlChannel) : Narrows channel channel.eventLoop := by
  unfold eventLoop
  split
  · split
    · exact (narrows_onConnectionLost channel).trans (narrows_endEventLoop _)
    · exact .of_eq rfl rfl rfl rfl
  · exact narrows_endEventLoop channel

/-- The loop of the request that holds the lock. -/
theorem narrows_proceed {holder : Holder} (held : channel.holder = some holder) :
    Narrows channel (channel.proceed holder.job holder.id holder.connection) := by
  unfold proceed
  split
  · exact narrows_waits held .response
  · split
    · exact (narrows_release channel).trans (narrows_fail _ _)
    · exact narrows_waits held (.stream _)

theorem narrows_handle (sign : String → Option String) {holder : Holder} (delivery : Delivery)
    (held : channel.holder = some holder) : Narrows channel (channel.handle sign holder delivery) := by
  unfold handle
  split
  · exact (narrows_release channel).trans (narrows_fail _ _)
  · split
    · exact (narrows_release channel).trans (narrows_succeed _ _ _ _)
    · exact narrows_proceed held

theorem narrows_receive {connection : Nat} {delivery : Delivery}
    (received : channel.receive connection = some (delivery, next)) : Narrows channel next := by
  obtain ⟨outbound, rest, found, rfl⟩ := receive_some received
  have here := List.mem_of_getElem? found
  refine ⟨rfl, fun wire member entry inside => ?_, fun wire member other inside => ?_,
    fun _ queued => .inl queued, fun held member => ⟨held, member, rfl, rfl⟩⟩
  · rcases List.mem_or_eq_of_mem_set member with old | rfl
    · exact ⟨wire, old, inside⟩
    · exact ⟨_, here, inside⟩
  · rcases List.mem_or_eq_of_mem_set member with old | rfl
    · exact ⟨wire, old, inside⟩
    · exact ⟨_, here, List.mem_cons_of_mem _ inside⟩

/-- A message read from a connection and routed. -/
theorem narrows_classify {connection : Nat} {delivery : Delivery}
    (received : channel.receive connection = some (delivery, next)) :
    Narrows channel (next.classify delivery) := by
  have narrows := narrows_receive received
  obtain ⟨outbound, rest, found, rfl⟩ := receive_some received
  unfold classify
  split
  · split
    · refine ⟨narrows.nextId, narrows.outbound, narrows.inbound, fun other queued => ?_,
        narrows.holder⟩
      rcases List.mem_append.mp queued with old | new
      · exact .inl old
      · obtain rfl := ResponseItem.reply.inj (List.mem_singleton.mp new)
        exact .inr ⟨_, List.mem_of_getElem? found, List.mem_cons_self ..⟩
    · exact narrows.trans (.of_eq rfl rfl rfl rfl)
  · exact narrows.trans (.of_eq rfl rfl rfl rfl)

theorem narrows_register (channel : ControlChannel) (publicKeyPem : String) (caller : Caller) :
    Narrows channel (channel.register publicKeyPem caller) :=
  .of_eq rfl rfl rfl rfl

theorem narrows_reconnected (channel : ControlChannel) :
    Narrows channel channel.reconnected := by
  have opened : Narrows channel { channel.connect with reconnectTask := some .authenticating } :=
    (narrows_connect channel).trans (.of_eq rfl rfl rfl rfl)
  unfold reconnected
  simp only
  split
  · split
    · exact opened.trans (narrows_register _ _ _)
    · exact opened.trans (narrows_register _ _ _)
  · exact opened.trans (narrows_register _ _ _)

theorem narrows_close (channel : ControlChannel) : Narrows channel channel.close :=
  ⟨rfl, fun wire member _ inside => ⟨wire, member, inside⟩,
    fun wire member _ inside => ⟨wire, member, inside⟩, fun _ queued => .inl queued,
    fun holder held => ⟨holder, (Option.filter_eq_some_iff.mp held).1, rfl, rfl⟩⟩

/-- The item at the head of the queue is taken. -/
theorem narrows_taken {item : ResponseItem} {rest : List ResponseItem}
    (queued : channel.responses = item :: rest) :
    Narrows channel { channel with responses := rest } :=
  ⟨rfl, fun wire member _ inside => ⟨wire, member, inside⟩,
    fun wire member _ inside => ⟨wire, member, inside⟩,
    fun _ later => .inl (queued ▸ List.mem_cons_of_mem _ later),
    fun other member => ⟨other, member, rfl, rfl⟩⟩

/-- Every other step narrows. -/
theorem narrows_step (sign : String → Option String) {event : ChannelEvent}
    (quiet : event.writes = false) (stepped : channel.step sign event = some next) :
    Narrows channel next := by
  cases channel_cases stepped with
  | refused | acquired | unsent | sent | serverAnswered | serverPushed => cases quiet
  | connected => exact narrows_connect channel
  | lossTaken holder connection rest held waits queued =>
    exact (narrows_taken queued).trans ((narrows_release _).trans (narrows_fail _ _))
  | replyTaken holder delivery rest held waits queued looks =>
    exact (narrows_taken queued).trans (narrows_handle sign _ held)
  | replyRead holder connection delivery read held waits received looks =>
    have narrows := narrows_receive received
    obtain ⟨outbound, rest, found, rfl⟩ := receive_some received
    exact narrows.trans (narrows_handle sign _ held)
  | readFailed | timedOut => exact (narrows_release _).trans (narrows_fail _ _)
  | cancelled => exact narrows_release _
  | readerStarted starting =>
    refine Narrows.trans ?_ (narrows_eventLoop _)
    exact .of_eq rfl rfl rfl rfl
  | readerRead connection delivery read reading received =>
    exact (narrows_classify received).trans (narrows_eventLoop _)
  | readerFailed connection reading =>
    exact (narrows_onConnectionLost _).trans (narrows_endEventLoop _)
  | reconnectOpened connecting => exact narrows_reconnected channel
  | reconnectRefused connecting => exact narrows_authFailed channel .reconnect
  | closing => exact narrows_close channel
  | requested | authenticated | abandoned | heartbeatStarted | heartbeatSent | heartbeatEnded
  | reconnectWoke | closed => exact .of_eq rfl rfl rfl rfl

/-! ### The invariant -/

/-- Messages are numbered in the order sent, and what the pending request could take for its reply
is the server's answer to its message. -/
structure Correlated (channel : ControlChannel) : Prop where
  numbered : ∀ wire ∈ channel.wires, ∀ entry ∈ wire.outbound, entry.1 < channel.nextId
  sent : ∀ holder ∈ channel.holder, holder.id < channel.nextId ∧
    ∀ wire ∈ channel.wires, ∀ entry ∈ wire.outbound, entry.1 = holder.id →
      entry.2 = holder.job.message
  queued : ∀ holder ∈ channel.holder, ∀ delivery, .reply delivery ∈ channel.responses →
    confuses holder.job.expected delivery.message = true →
      delivery.origin = .reply holder.id holder.job.message
  underWay : ∀ holder ∈ channel.holder, ∀ wire ∈ channel.wires, ∀ delivery ∈ wire.inbound,
    confuses holder.job.expected delivery.message = true →
      delivery.origin = .reply holder.id holder.job.message

/-- The number of the message that the server answers next on a connection. -/
def nextAnswered (channel : ControlChannel) (connection : Nat) : Option Nat :=
  (channel.wires[connection]?.bind fun wire => wire.outbound.head?).map Prod.fst

/-- An event confuses no request: one that gets the lock finds nothing it could take for its reply
queued or under way, and while a request has the lock the server writes no such message but in
answer to it. -/
def Unconfused (channel : ControlChannel) : ChannelEvent → Prop
  | .acquire _ => ∀ job ∈ channel.waiting.head?,
    (∀ item ∈ channel.responses, item.confuses job.expected = false) ∧
      ∀ wire ∈ channel.wires, ∀ delivery ∈ wire.inbound,
        confuses job.expected delivery.message = false
  | .serverAnswers connection messages => ∀ holder ∈ channel.holder,
    channel.nextAnswered connection = some holder.id ∨
      ∀ message ∈ messages, confuses holder.job.expected message = false
  | .serverPushes _ message => ∀ holder ∈ channel.holder,
    confuses holder.job.expected message = false
  | _ => True

instance (channel : ControlChannel) : (event : ChannelEvent) → Decidable (channel.Unconfused event)
  | .acquire _ => inferInstanceAs (Decidable (∀ job ∈ channel.waiting.head?,
      (∀ item ∈ channel.responses, item.confuses job.expected = false) ∧
        ∀ wire ∈ channel.wires, ∀ delivery ∈ wire.inbound,
          confuses job.expected delivery.message = false))
  | .serverAnswers connection messages => inferInstanceAs (Decidable (∀ holder ∈ channel.holder,
      channel.nextAnswered connection = some holder.id ∨
        ∀ message ∈ messages, confuses holder.job.expected message = false))
  | .serverPushes _ message => inferInstanceAs (Decidable (∀ holder ∈ channel.holder,
      confuses holder.job.expected message = false))
  | .connect | .request .. | .authenticate _ | .send _ | .takeResponse | .readStream | .readFails
  | .timeout | .cancel | .cancelWaiting _ | .eventStart | .eventRead | .eventFails
  | .heartbeatStart | .heartbeatWakes _ | .reconnectWakes | .reconnectConnects _ | .close
  | .closed => isTrue trivial

theorem correlated_init (clientId : String) (base maximum : Time) :
    (init clientId base maximum).Correlated :=
  ⟨fun _ member => (nomatch member), fun _ held => (nomatch held), fun _ held => (nomatch held),
    fun _ held => (nomatch held)⟩

theorem Narrows.correlated (narrows : Narrows channel next) (correlated : channel.Correlated) :
    next.Correlated where
  numbered wire member entry inside := by
    obtain ⟨old, oldMember, oldInside⟩ := narrows.outbound wire member entry inside
    rw [narrows.nextId]
    exact correlated.numbered old oldMember entry oldInside
  sent holder held := by
    obtain ⟨old, oldHeld, job, id⟩ := narrows.holder holder held
    obtain ⟨small, same⟩ := correlated.sent old oldHeld
    rw [narrows.nextId, ← job, ← id]
    refine ⟨small, fun wire member entry inside => ?_⟩
    obtain ⟨oldWire, oldMember, oldInside⟩ := narrows.outbound wire member entry inside
    exact same oldWire oldMember entry oldInside
  queued holder held delivery queued := by
    obtain ⟨old, oldHeld, job, id⟩ := narrows.holder holder held
    rw [← job, ← id]
    rcases narrows.replies delivery queued with before | ⟨wire, member, inside⟩
    · exact correlated.queued old oldHeld delivery before
    · exact correlated.underWay old oldHeld wire member delivery inside
  underWay holder held wire member delivery inside := by
    obtain ⟨old, oldHeld, job, id⟩ := narrows.holder holder held
    obtain ⟨oldWire, oldMember, oldInside⟩ := narrows.inbound wire member delivery inside
    rw [← job, ← id]
    exact correlated.underWay old oldHeld oldWire oldMember delivery oldInside

theorem mem_modify {Element : Type} {elements : List Element} {index : Nat}
    {update : Element → Element} {element : Element}
    (member : element ∈ elements.modify index update) :
    element ∈ elements ∨ ∃ old ∈ elements, element = update old := by
  obtain ⟨position, found⟩ := List.mem_iff_getElem?.mp member
  rw [List.getElem?_modify] at found
  obtain ⟨old, oldFound, same⟩ := Option.map_eq_some_iff.mp found
  by_cases here : index = position
  · rw [if_pos here] at same
    exact .inr ⟨old, List.mem_of_getElem? oldFound, same.symm⟩
  · rw [if_neg here] at same
    exact .inl (same ▸ List.mem_of_getElem? oldFound)

/-- The messages not answered after one more is sent: the old ones, and the new one under a new
number. -/
theorem outbound_transmit {connection : Nat} {message : Message} {wire : Wire}
    {entry : Nat × Message} (member : wire ∈ (channel.transmit connection message).wires)
    (inside : entry ∈ wire.outbound) :
    (∃ old ∈ channel.wires, entry ∈ old.outbound) ∨ entry = (channel.nextId, message) := by
  rcases mem_modify member with old | ⟨old, oldMember, rfl⟩
  · exact .inl ⟨wire, old, inside⟩
  · rcases List.mem_append.mp inside with before | new
    · exact .inl ⟨old, oldMember, before⟩
    · exact .inr (List.mem_singleton.mp new)

theorem inbound_transmit {connection : Nat} {message : Message} {wire : Wire} {delivery : Delivery}
    (member : wire ∈ (channel.transmit connection message).wires)
    (inside : delivery ∈ wire.inbound) : ∃ old ∈ channel.wires, delivery ∈ old.inbound := by
  rcases mem_modify member with old | ⟨old, oldMember, rfl⟩
  · exact ⟨wire, old, inside⟩
  · exact ⟨old, oldMember, inside⟩

/-- The numbers stay in order. -/
theorem numbered_transmit (correlated : channel.Correlated) (connection : Nat)
    (message : Message) :
    ∀ wire ∈ (channel.transmit connection message).wires, ∀ entry ∈ wire.outbound,
      entry.1 < channel.nextId + 1 := by
  intro wire member entry inside
  rcases outbound_transmit member inside with ⟨old, oldMember, oldInside⟩ | rfl
  · exact Nat.lt_succ_of_lt (correlated.numbered old oldMember entry oldInside)
  · exact Nat.lt_succ_self _

theorem correlated_transmit (correlated : channel.Correlated) (connection : Nat)
    (message : Message) : (channel.transmit connection message).Correlated := by
  refine ⟨numbered_transmit correlated connection message, fun holder held => ⟨?_, ?_⟩,
    correlated.queued, fun holder held wire member delivery inside => ?_⟩
  · exact Nat.lt_succ_of_lt (correlated.sent holder held).1
  · obtain ⟨small, known⟩ := correlated.sent holder held
    intro wire member entry inside number
    rcases outbound_transmit member inside with ⟨old, oldMember, oldInside⟩ | rfl
    · exact known old oldMember entry oldInside number
    · exact absurd number (Nat.ne_of_gt small)
  · obtain ⟨old, oldMember, oldInside⟩ := inbound_transmit member inside
    exact correlated.underWay holder held old oldMember delivery oldInside

/-- A request that has sent its message, before anything that it could take for its reply is
written. -/
theorem correlated_sent (correlated : channel.Correlated) {job : Job} {connection : Nat}
    (queue : ∀ item ∈ channel.responses, item.confuses job.expected = false)
    (wires : ∀ wire ∈ channel.wires, ∀ delivery ∈ wire.inbound,
      confuses job.expected delivery.message = false) :
    { channel.transmit connection job.message with
      holder := some ⟨job, channel.nextId, connection, .response⟩ }.Correlated := by
  refine ⟨numbered_transmit correlated connection job.message, fun holder held => ⟨?_, ?_⟩,
    fun holder held delivery queued confusing => ?_,
    fun holder held wire member delivery inside confusing => ?_⟩
  · obtain rfl := Option.some.inj held
    exact Nat.lt_succ_self _
  · obtain rfl := Option.some.inj held
    intro wire member entry inside number
    rcases outbound_transmit member inside with ⟨old, oldMember, oldInside⟩ | rfl
    · exact absurd number (Nat.ne_of_lt (correlated.numbered old oldMember entry oldInside))
    · rfl
  · obtain rfl := Option.some.inj held
    have clear : confuses job.expected delivery.message = false := queue _ queued
    cases clear.symm.trans confusing
  · obtain rfl := Option.some.inj held
    obtain ⟨old, oldMember, oldInside⟩ := inbound_transmit member inside
    cases (wires old oldMember delivery oldInside).symm.trans confusing

/-- The loop of the request narrows a channel that the request already holds. -/
theorem correlated_request (correlated : channel.Correlated) {job : Job} {connection : Nat}
    (queue : ∀ item ∈ channel.responses, item.confuses job.expected = false)
    (wires : ∀ wire ∈ channel.wires, ∀ delivery ∈ wire.inbound,
      confuses job.expected delivery.message = false) :
    ((channel.transmit connection job.message).proceed job channel.nextId
      connection).Correlated := by
  let holder : Holder := ⟨job, channel.nextId, connection, .response⟩
  have narrows : Narrows { channel.transmit connection job.message with holder := some holder }
      ((channel.transmit connection job.message).proceed job channel.nextId connection) :=
    @narrows_proceed { channel.transmit connection job.message with holder := some holder } holder rfl
  exact narrows.correlated (correlated_sent correlated queue wires)

theorem narrows_entered (channel : ControlChannel) (job : Job) (rest : List Job) :
    Narrows channel (channel.entered job rest) :=
  .of_eq rfl rfl rfl rfl

/-- One connection changes: it keeps messages not answered, and what it gains for the client to
read is not taken for a reply that it is not. -/
theorem correlated_set (correlated : channel.Correlated) {connection : Nat} {old wire : Wire}
    (found : channel.wires[connection]? = some old)
    (fewer : ∀ entry ∈ wire.outbound, entry ∈ old.outbound)
    (own : ∀ delivery ∈ wire.inbound, delivery ∈ old.inbound ∨
      ∀ holder ∈ channel.holder, confuses holder.job.expected delivery.message = true →
        delivery.origin = .reply holder.id holder.job.message) :
    { channel with wires := channel.wires.set connection wire }.Correlated := by
  have here := List.mem_of_getElem? found
  refine ⟨fun other member entry inside => ?_, fun holder held => ⟨(correlated.sent holder held).1,
    fun other member entry inside number => ?_⟩, correlated.queued,
    fun holder held other member delivery inside confusing => ?_⟩
  · rcases List.mem_or_eq_of_mem_set member with before | rfl
    · exact correlated.numbered other before entry inside
    · exact correlated.numbered old here entry (fewer entry inside)
  · rcases List.mem_or_eq_of_mem_set member with before | rfl
    · exact (correlated.sent holder held).2 other before entry inside number
    · exact (correlated.sent holder held).2 old here entry (fewer entry inside) number
  · rcases List.mem_or_eq_of_mem_set member with before | rfl
    · exact correlated.underWay holder held other before delivery inside confusing
    · rcases own delivery inside with before | written
      · exact correlated.underWay holder held old here delivery before confusing
      · exact written holder held confusing

/-- One step that confuses no request. -/
theorem correlated_step (sign : String → Option String) {event : ChannelEvent}
    (unconfused : channel.Unconfused event) (correlated : channel.Correlated)
    (stepped : channel.step sign event = some next) : next.Correlated := by
  cases writes : event.writes with
  | false => exact (narrows_step sign writes stepped).correlated correlated
  | true =>
    cases channel_cases stepped with
    | refused raises job rest free waiting fails =>
      refine ((narrows_entered channel job rest).trans ?_).correlated correlated
      exact (narrows_release _).trans (narrows_fail _ job.caller)
    | acquired job rest connection free waiting current =>
      obtain ⟨queue, wires⟩ := unconfused job (by rw [waiting]; rfl)
      exact correlated_request ((narrows_entered channel job rest).correlated correlated) queue wires
    | unsent message offline => exact correlated
    | sent message connection current => exact correlated_transmit correlated connection message
    | serverAnswered connection messages id message rest inbound found =>
      refine correlated_set correlated found (fun _ => List.mem_cons_of_mem _)
        fun delivery inside => ?_
      rcases List.mem_append.mp inside with old | new
      · exact .inl old
      · refine .inr fun holder held confusing => ?_
        obtain ⟨answer, given, rfl⟩ := List.mem_map.mp new
        rcases unconfused holder held with first | clear
        · rw [nextAnswered, found] at first
          have number : id = holder.id := Option.some.inj first
          have same := (correlated.sent holder held).2 _ (List.mem_of_getElem? found) (id, message)
            (List.mem_cons_self ..) number
          rw [number, show message = holder.job.message from same]
        · rw [clear answer given] at confusing
          cases confusing
    | serverPushed connection message outbound inbound found =>
      refine correlated_set correlated found (fun _ => id) fun delivery inside => ?_
      rcases List.mem_append.mp inside with old | new
      · exact .inl old
      · refine .inr fun holder held confusing => ?_
        rw [List.mem_singleton.mp new, unconfused holder held] at confusing
        cases confusing
    | _ => cases writes

/-- A request looks at a message that was queued for it or under way to it. -/
theorem Correlated.own (correlated : channel.Correlated) {event : ChannelEvent} {holder : Holder}
    {delivery : Delivery} (looks : channel.looksAt event = some (holder, delivery))
    (confusing : confuses holder.job.expected delivery.message = true) :
    delivery.origin = .reply holder.id holder.job.message := by
  cases event with
  | takeResponse =>
    simp only [looksAt] at looks
    split at looks
    · rename_i pending first rest held queued
      split at looks
      · obtain ⟨rfl, rfl⟩ := Prod.mk.inj (Option.some.inj looks)
        exact correlated.queued _ held _ (queued ▸ List.mem_cons_self ..) confusing
      · cases looks
    · cases looks
  | readStream =>
    simp only [looksAt] at looks
    split at looks
    · rename_i pending held
      split at looks
      · cases looks
      · obtain ⟨⟨read, rest⟩, received, same⟩ := Option.map_eq_some_iff.mp looks
        obtain ⟨rfl, rfl⟩ := Prod.mk.inj same
        obtain ⟨outbound, later, found, -⟩ := receive_some received
        exact correlated.underWay _ held _ (List.mem_of_getElem? found) _
          (List.mem_cons_self ..) confusing
    · cases looks
  | _ => cases looks

/-! ### Requests and their replies -/

/-- The request of `request_relay`. -/
def relayRequest (peerId : String) : Message :=
  .made "RELAY_REQUEST" [("peer_id", .str peerId)]

/-- The server granted a relay path to a peer: its answer to a request for it is RELAY_GRANTED. -/
def GrantsRelay (peerId : String) (delivery : Delivery) : Prop :=
  delivery.message.type = "RELAY_GRANTED" ∧ ∃ id, delivery.origin = .reply id (relayRequest peerId)

/-- In every run whose events confuse no request, a request returns only the server's answer to its
message and raises for an ERROR only if that is the answer; and a request for a relay path returns
only if the server granted one to the peer. -/
theorem request_correlated (sign : String → Option String) (clientId : String)
    (base maximum : Time) (events : List ChannelEvent) (channel : ControlChannel)
    (along : HoldsAlong (step sign) Unconfused (init clientId base maximum) events)
    (ran : runFrom (step sign) (init clientId base maximum) events = some channel)
    (event : ChannelEvent) (holder : Holder) (delivery : Delivery) :
    (channel.returnsReply event = some (holder, delivery) →
      delivery.origin = .reply holder.id holder.job.message ∧
      ∀ peerId, holder.job.message = relayRequest peerId →
        holder.job.expected = "RELAY_GRANTED" → GrantsRelay peerId delivery) ∧
    (channel.raisesError event = some (holder, delivery) →
      delivery.origin = .reply holder.id holder.job.message) := by
  have correlated : channel.Correlated :=
    run_invariant (fun _ _ _ unconfused correlated stepped =>
      correlated_step sign unconfused correlated stepped) (correlated_init clientId base maximum)
      along ran
  constructor
  · intro returns
    obtain ⟨looks, ends⟩ := Option.filter_eq_some_iff.mp returns
    obtain ⟨-, expected⟩ := of_decide_eq_true ends
    have own := correlated.own looks (decide_eq_true (.inr expected))
    refine ⟨own, fun peerId asked awaits => ⟨expected.trans awaits, holder.id, ?_⟩⟩
    rw [own, asked]
  · intro raises
    obtain ⟨looks, ends⟩ := Option.filter_eq_some_iff.mp raises
    exact correlated.own looks (decide_eq_true (.inl (of_decide_eq_true ends)))

/-- The client asks for a relay path to a peer. -/
def relayAsked : List ChannelEvent :=
  signedOn ++ [.request (relayRequest "peer-0001") "RELAY_GRANTED" false, .acquire false]

/-- A push arrives, and then the server's answer. -/
def relayAnswered : List ChannelEvent :=
  relayAsked ++ [.serverPushes 0 ⟨"PEER_ONLINE", Dict.empty⟩,
    .serverAnswers 0 [⟨"RELAY_GRANTED", Dict.empty⟩], .eventRead, .eventRead]

theorem request_correlated_granted :
    ∃ channel holder delivery,
      runFrom (step signAll) exampleChannel relayAnswered = some channel ∧
      channel.returnsReply .takeResponse = some (holder, delivery) ∧
      GrantsRelay "peer-0001" delivery := by
  refine ⟨_, _, _, rfl, rfl, ?_⟩
  have along : HoldsAlong (step signAll) Unconfused exampleChannel relayAnswered := by
    decide +kernel
  exact ((request_correlated signAll "client-0001" 1 60 relayAnswered _ along rfl .takeResponse _
    _).1 rfl).2 "peer-0001" rfl rfl

/-- The peer of another request is granted a path while the client waits for its own: it is told so
with a push of the expected type, and the request returns that. -/
theorem push_returned_as_reply :
    ∃ channel holder delivery, runFrom (step signAll) exampleChannel
        (relayAsked ++ [.serverPushes 0 ⟨"RELAY_GRANTED", Dict.empty⟩, .eventRead]) =
          some channel ∧
      channel.returnsReply .takeResponse = some (holder, delivery) ∧
      holder.job.message = relayRequest "peer-0001" ∧
      delivery.origin ≠ .reply holder.id holder.job.message ∧
      ¬ GrantsRelay "peer-0001" delivery := by
  refine ⟨_, _, _, rfl, rfl, rfl, ?_, ?_⟩
  · intro own
    cases own
  · rintro ⟨-, id, own⟩
    cases own

end ControlChannel

end LocalNetwork
