/-
This file says once what a step of the control channel can do. `ChannelCase` has a case for
each way in which a step ends, with what held before it and the channel it leaves, and
`channel_cases` sorts every step of the model into these cases. The later files follow their
invariants through the cases and do not unfold the steps.
-/

import LocalNetwork.ControlChannel

namespace LocalNetwork

namespace ControlChannel

/-- The channel once the first waiting request has the lock. -/
def entered (channel : ControlChannel) (job : Job) (rest : List Job) : ControlChannel :=
  { channel with waiting := rest, expectedType := some job.expected }

/-- Everything a step can do. -/
inductive ChannelCase (sign : String → Option String) (channel : ControlChannel) :
    ChannelEvent → ControlChannel → Prop
  | connected : ChannelCase sign channel .connect channel.connect
  | requested (message : Message) (expected : String) (timed : Bool) :
    ChannelCase sign channel (.request message expected timed)
      { channel with waiting := channel.waiting ++ [⟨.user, message, expected, timed⟩] }
  | authenticated (publicKeyPem : String) :
    ChannelCase sign channel (.authenticate publicKeyPem)
      (channel.register publicKeyPem (.register .user))
  | unsent (message : Message) (offline : channel.stream = none) :
    ChannelCase sign channel (.send message) channel
  | sent (message : Message) (connection : Nat) (current : channel.stream = some connection) :
    ChannelCase sign channel (.send message) (channel.transmit connection message)
  | refused (raises : Bool) (job : Job) (rest : List Job) (free : channel.holder = none)
    (waiting : channel.waiting = job :: rest) (fails : raises = true ∨ channel.stream = none) :
    ChannelCase sign channel (.acquire raises)
      ((channel.entered job rest).release.fail job.caller)
  | acquired (job : Job) (rest : List Job) (connection : Nat) (free : channel.holder = none)
    (waiting : channel.waiting = job :: rest) (current : channel.stream = some connection) :
    ChannelCase sign channel (.acquire false)
      (((channel.entered job rest).transmit connection job.message).proceed job channel.nextId
        connection)
  | lossTaken (holder : Holder) (connection : Option Nat) (rest : List ResponseItem)
    (held : channel.holder = some holder) (waits : holder.waiting = .response)
    (queued : channel.responses = .lost connection :: rest) :
    ChannelCase sign channel .takeResponse
      ({ channel with responses := rest }.release.fail holder.job.caller)
  | replyTaken (holder : Holder) (delivery : Delivery) (rest : List ResponseItem)
    (held : channel.holder = some holder) (waits : holder.waiting = .response)
    (queued : channel.responses = .reply delivery :: rest)
    (looks : channel.looksAt .takeResponse = some (holder, delivery)) :
    ChannelCase sign channel .takeResponse
      ({ channel with responses := rest }.handle sign holder delivery)
  | replyRead (holder : Holder) (connection : Nat) (delivery : Delivery) (read : ControlChannel)
    (held : channel.holder = some holder) (waits : holder.waiting = .stream connection)
    (received : channel.receive connection = some (delivery, read))
    (looks : channel.looksAt .readStream = some (holder, delivery)) :
    ChannelCase sign channel .readStream (read.handle sign holder delivery)
  | readFailed (holder : Holder) (connection : Nat) (held : channel.holder = some holder)
    (waits : holder.waiting = .stream connection) :
    ChannelCase sign channel .readFails (channel.release.fail holder.job.caller)
  | timedOut (holder : Holder) (held : channel.holder = some holder)
    (waits : holder.waiting = .response) :
    ChannelCase sign channel .timeout (channel.release.fail holder.job.caller)
  | cancelled (holder : Holder) (held : channel.holder = some holder)
    (foreground : holder.job.caller.background = false) :
    ChannelCase sign channel .cancel channel.release
  | abandoned (index : Nat) (job : Job) (waits : channel.waiting[index]? = some job)
    (foreground : job.caller.background = false) :
    ChannelCase sign channel (.cancelWaiting index)
      { channel with waiting := channel.waiting.eraseIdx index }
  | readerStarted (starting : channel.eventTask = some .starting) :
    ChannelCase sign channel .eventStart { channel with readerOwned := true }.eventLoop
  | readerRead (connection : Nat) (delivery : Delivery) (read : ControlChannel)
    (reading : channel.eventTask = some (.reading connection))
    (received : channel.receive connection = some (delivery, read)) :
    ChannelCase sign channel .eventRead (read.classify delivery).eventLoop
  | readerFailed (connection : Nat) (reading : channel.eventTask = some (.reading connection)) :
    ChannelCase sign channel .eventFails channel.onConnectionLost.endEventLoop
  | heartbeatStarted (starting : channel.heartbeatTask = some .starting) :
    ChannelCase sign channel .heartbeatStart channel.heartbeatLoop
  | heartbeatSent (ts : Json) (sleeping : channel.heartbeatTask = some .sleeping) :
    ChannelCase sign channel (.heartbeatWakes ts)
      { channel with
        heartbeatTask := some .requesting
        waiting := channel.waiting ++
          [⟨.heartbeat, .made "HEARTBEAT" [("ts", ts)], "HEARTBEAT_ACK", true⟩] }
  | heartbeatEnded (ts : Json) (sleeping : channel.heartbeatTask = some .sleeping) :
    ChannelCase sign channel (.heartbeatWakes ts) channel.heartbeatLoop
  | reconnectWoke (sleeping : channel.reconnectTask = some .sleeping) :
    ChannelCase sign channel .reconnectWakes { channel with reconnectTask := some .connecting }
  | reconnectOpened (connecting : channel.reconnectTask = some .connecting) :
    ChannelCase sign channel (.reconnectConnects true) channel.reconnected
  | reconnectRefused (connecting : channel.reconnectTask = some .connecting) :
    ChannelCase sign channel (.reconnectConnects false) (channel.authFailed .reconnect)
  | serverAnswered (connection : Nat) (messages : List Message) (id : Nat) (message : Message)
    (rest : List (Nat × Message)) (inbound : List Delivery)
    (found : channel.wires[connection]? = some ⟨(id, message) :: rest, inbound⟩) :
    ChannelCase sign channel (.serverAnswers connection messages)
      { channel with wires := channel.wires.set connection ⟨rest, inbound ++
          messages.map fun answer => ⟨answer, .reply id message, connection⟩⟩ }
  | serverPushed (connection : Nat) (message : Message) (outbound : List (Nat × Message))
    (inbound : List Delivery) (found : channel.wires[connection]? = some ⟨outbound, inbound⟩) :
    ChannelCase sign channel (.serverPushes connection message)
      { channel with wires := channel.wires.set connection ⟨outbound, inbound ++
          [⟨message, .push, connection⟩]⟩ }
  | closing : ChannelCase sign channel .close channel.close
  | closed (stopped : channel.stopped = true) :
    ChannelCase sign channel .closed
      { channel with
        stream := none, connected := false, authenticated := false, readerOwned := false }

variable {sign : String → Option String} {channel next : ControlChannel}

theorem acquire_cases {raises : Bool} (stepped : channel.acquire raises = some next) :
    ChannelCase sign channel (.acquire raises) next := by
  unfold acquire at stepped
  split at stepped
  · rename_i job rest free waiting
    simp only at stepped
    split at stepped
    · rename_i offline
      exact Option.some.inj stepped ▸ .refused raises job rest free waiting (.inr offline)
    · rename_i connection current
      split at stepped
      · rename_i failing
        exact Option.some.inj stepped ▸ .refused raises job rest free waiting (.inl failing)
      · rename_i through
        obtain rfl := Bool.eq_false_iff.mpr through
        exact Option.some.inj stepped ▸ .acquired job rest connection free waiting current
  · cases stepped

theorem takeResponse_cases (stepped : channel.takeResponse sign = some next) :
    ChannelCase sign channel .takeResponse next := by
  unfold takeResponse at stepped
  split at stepped
  · rename_i holder item rest held queued
    split at stepped
    · rename_i waits
      simp only at stepped
      split at stepped
      · rename_i connection
        exact Option.some.inj stepped ▸ .lossTaken holder connection rest held waits queued
      · rename_i delivery
        have looks : channel.looksAt .takeResponse = some (holder, delivery) := by
          simp only [looksAt, held, queued, if_pos waits]
        exact Option.some.inj stepped ▸ .replyTaken holder delivery rest held waits queued looks
    · cases stepped
  · cases stepped

theorem readStream_cases (stepped : channel.readStream sign = some next) :
    ChannelCase sign channel .readStream next := by
  unfold readStream at stepped
  split at stepped
  · rename_i holder held
    split at stepped
    · cases stepped
    · rename_i connection waits
      obtain ⟨⟨delivery, read⟩, received, rfl⟩ := Option.map_eq_some_iff.mp stepped
      have looks : channel.looksAt .readStream = some (holder, delivery) := by
        simp only [looksAt, held, waits, received, Option.map_some]
      exact .replyRead holder connection delivery read held waits received looks
  · cases stepped

theorem eventRead_cases (stepped : channel.eventRead = some next) :
    ChannelCase sign channel .eventRead next := by
  unfold eventRead at stepped
  split at stepped
  · rename_i connection reading
    obtain ⟨⟨delivery, read⟩, received, rfl⟩ := Option.map_eq_some_iff.mp stepped
    exact .readerRead connection delivery read reading received
  · cases stepped

/-- Every step is one of the cases. -/
theorem channel_cases {event : ChannelEvent} (stepped : channel.step sign event = some next) :
    ChannelCase sign channel event next := by
  cases event with
  | connect => exact Option.some.inj stepped ▸ .connected
  | request message expected timed =>
    exact Option.some.inj stepped ▸ .requested message expected timed
  | authenticate publicKeyPem => exact Option.some.inj stepped ▸ .authenticated publicKeyPem
  | send message =>
    simp only [step] at stepped
    split at stepped
    · rename_i offline
      exact Option.some.inj stepped ▸ .unsent message offline
    · rename_i connection current
      exact Option.some.inj stepped ▸ .sent message connection current
  | acquire raises => exact acquire_cases stepped
  | takeResponse => exact takeResponse_cases stepped
  | readStream => exact readStream_cases stepped
  | readFails =>
    simp only [step] at stepped
    split at stepped
    · rename_i connection held
      exact Option.some.inj stepped ▸ .readFailed _ connection held rfl
    · cases stepped
  | timeout =>
    simp only [step] at stepped
    split at stepped
    · rename_i held
      split at stepped
      · exact Option.some.inj stepped ▸ .timedOut _ held rfl
      · cases stepped
    · cases stepped
  | cancel =>
    simp only [step] at stepped
    split at stepped
    · rename_i holder held
      split at stepped
      · cases stepped
      · rename_i foreground
        exact Option.some.inj stepped ▸ .cancelled holder held (Bool.eq_false_iff.mpr foreground)
    · cases stepped
  | cancelWaiting index =>
    simp only [step] at stepped
    split at stepped
    · rename_i job waits
      split at stepped
      · cases stepped
      · rename_i foreground
        exact Option.some.inj stepped ▸
          .abandoned index job waits (Bool.eq_false_iff.mpr foreground)
    · cases stepped
  | eventStart =>
    simp only [step] at stepped
    split at stepped
    · exact Option.some.inj stepped ▸ .readerStarted ‹_›
    · cases stepped
  | eventRead => exact eventRead_cases stepped
  | eventFails =>
    simp only [step] at stepped
    split at stepped
    · rename_i connection reading
      exact Option.some.inj stepped ▸ .readerFailed connection reading
    · cases stepped
  | heartbeatStart =>
    simp only [step] at stepped
    split at stepped
    · exact Option.some.inj stepped ▸ .heartbeatStarted ‹_›
    · cases stepped
  | heartbeatWakes ts =>
    simp only [step] at stepped
    split at stepped
    · rename_i sleeping
      split at stepped
      · exact Option.some.inj stepped ▸ .heartbeatSent ts sleeping
      · exact Option.some.inj stepped ▸ .heartbeatEnded ts sleeping
    · cases stepped
  | reconnectWakes =>
    simp only [step] at stepped
    split at stepped
    · exact Option.some.inj stepped ▸ .reconnectWoke ‹_›
    · cases stepped
  | reconnectConnects opened =>
    simp only [step] at stepped
    split at stepped
    · rename_i connecting
      cases opened with
      | true => exact Option.some.inj stepped ▸ .reconnectOpened connecting
      | false => exact Option.some.inj stepped ▸ .reconnectRefused connecting
    · cases stepped
  | serverAnswers connection messages =>
    simp only [step] at stepped
    split at stepped
    · rename_i id message rest inbound found
      exact Option.some.inj stepped ▸
        .serverAnswered connection messages id message rest inbound found
    · cases stepped
  | serverPushes connection message =>
    simp only [step] at stepped
    split at stepped
    · rename_i outbound inbound found
      exact Option.some.inj stepped ▸ .serverPushed connection message outbound inbound found
    · cases stepped
  | close => exact Option.some.inj stepped ▸ .closing
  | closed =>
    simp only [step] at stepped
    split at stepped
    · exact Option.some.inj stepped ▸ .closed ‹_›
    · cases stepped

end ControlChannel

end LocalNetwork
