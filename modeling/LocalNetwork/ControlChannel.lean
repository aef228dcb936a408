/-
This file models `client/control_channel.py`: the control channel of a client, its three
background tasks, the requests that share it, and the connections to the server.

A step runs one task from one `await` to the next; everything between two suspensions is one
step, as `asyncio` switches tasks nowhere else. Puts into the queues never suspend. A
message is taken off a connection whole. The jobs that wait for the network lock are served
in order, and the one that holds it waits for a response or reads the stream itself.

A connection carries the messages to the server that are not answered yet and those to the
client that are not read yet. The server answers in order and pushes at any time. Each
message to the client is tagged with what it answers and with its connection, and each item
of the response queue with the connection it belongs to; the code sees none of these tags.

Sleeps end and timeouts fire at any time. What `sign_challenge` makes of a challenge is a
parameter, with no result where decoding or signing raises.
-/

import LocalNetwork.Protocol
import LocalNetwork.Transition

namespace LocalNetwork

/-! ### Messages under way -/

/-- What a message from the server is: its answer to a message, or a push. -/
inductive Origin where
  | reply (id : Nat) (message : Message)
  | push

/-- A message from the server. -/
structure Delivery where
  message : Message
  origin : Origin
  connection : Nat

/-- One connection: messages sent and not answered, and messages written and not read. -/
structure Wire where
  outbound : List (Nat × Message)
  inbound : List Delivery

/-- An item of the response queue: a message, or the `None` that a loss puts there. -/
inductive ResponseItem where
  | reply (delivery : Delivery)
  | lost (connection : Option Nat)

/-- The connection an item belongs to. -/
def ResponseItem.connection : ResponseItem → Option Nat
  | .reply delivery => some delivery.connection
  | .lost connection => connection

/-! ### Tasks -/

/-- Who called `authenticate`. -/
inductive AuthOwner where
  | user
  | reconnect
  deriving DecidableEq

/-- Who called `request`, and with it what comes after. -/
inductive Caller where
  | user
  | heartbeat
  | register (owner : AuthOwner)
  | respond (owner : AuthOwner)
  /-- The reconnect loop without a key, which registers only. -/
  | reregister
  deriving DecidableEq

/-- Whether closing the channel cancels the task that called. -/
def Caller.background : Caller → Bool
  | .heartbeat | .register .reconnect | .respond .reconnect | .reregister => true
  | .user | .register .user | .respond .user => false

/-- A call of `request`. -/
structure Job where
  caller : Caller
  message : Message
  expected : String
  timed : Bool

/-- Where the request that has the lock waits. -/
inductive Waiting where
  | response
  | stream (connection : Nat)
  deriving DecidableEq

/-- The request that has the lock: its message's id and the connection it was sent on. -/
structure Holder where
  job : Job
  id : Nat
  connection : Nat
  waiting : Waiting

inductive EventTask where
  | starting
  | reading (connection : Nat)
  deriving DecidableEq

inductive HeartbeatTask where
  | starting
  | sleeping
  | requesting
  deriving DecidableEq

inductive ReconnectTask where
  | sleeping
  | connecting
  | authenticating
  deriving DecidableEq

/-- The channel. Reader and writer always belong to one connection, `stream`; a task that has
ended is absent. -/
structure ControlChannel where
  clientId : String
  reconnectBaseDelay : Time
  reconnectMaxDelay : Time
  stream : Option Nat
  publicKeyPem : Option String
  hasPrivateKey : Bool
  authenticated : Bool
  connected : Bool
  events : List Delivery
  responses : List ResponseItem
  expectedType : Option String
  readerOwned : Bool
  eventTask : Option EventTask
  heartbeatTask : Option HeartbeatTask
  reconnectTask : Option ReconnectTask
  backoff : Time
  stopped : Bool
  waiting : List Job
  holder : Option Holder
  wires : List Wire
  nextId : Nat

namespace ControlChannel

def init (clientId : String) (reconnectBaseDelay reconnectMaxDelay : Time) : ControlChannel where
  clientId := clientId
  reconnectBaseDelay := reconnectBaseDelay
  reconnectMaxDelay := reconnectMaxDelay
  stream := none
  publicKeyPem := none
  hasPrivateKey := false
  authenticated := false
  connected := false
  events := []
  responses := []
  expectedType := none
  readerOwned := false
  eventTask := none
  heartbeatTask := none
  reconnectTask := none
  backoff := reconnectBaseDelay
  stopped := false
  waiting := []
  holder := none
  wires := []
  nextId := 0

variable (channel : ControlChannel)

/-! ### Connections -/

/-- The part of `connect` after the connection is open. -/
def connect : ControlChannel :=
  { channel with
    stream := some channel.wires.length
    wires := channel.wires ++ [⟨[], []⟩]
    connected := true
    backoff := channel.reconnectBaseDelay }

/-- `start_reconnect`: the loop starts with a sleep, unless it is running. -/
def startReconnect : ControlChannel :=
  { channel with reconnectTask := some (channel.reconnectTask.getD .sleeping) }

def onConnectionLost : ControlChannel :=
  if channel.stopped || !channel.connected then channel
  else
    let lost : ControlChannel := { channel with
      connected := false
      authenticated := false
      stream := none
      responses := channel.responses ++ [.lost channel.stream] }
    lost.startReconnect

/-- Write a message to a connection. -/
def transmit (connection : Nat) (message : Message) : ControlChannel :=
  { channel with
    wires := channel.wires.modify connection fun wire =>
      { wire with outbound := wire.outbound ++ [(channel.nextId, message)] }
    nextId := channel.nextId + 1 }

/-- The next message that can be read from a connection, and the channel without it. -/
def receive (connection : Nat) : Option (Delivery × ControlChannel) :=
  match channel.wires[connection]? with
  | some ⟨outbound, delivery :: rest⟩ =>
    some (delivery, { channel with wires := channel.wires.set connection ⟨outbound, rest⟩ })
  | _ => none

/-! ### The heads of the loops -/

def startBackgroundTasks : ControlChannel :=
  { channel with
    readerOwned := true
    eventTask := some (channel.eventTask.getD .starting)
    heartbeatTask := some (channel.heartbeatTask.getD .starting) }

def heartbeatLoop : ControlChannel :=
  { channel with
    heartbeatTask := if channel.connected && !channel.stopped then some .sleeping else none }

def reconnectLoop (backoff : Time) : ControlChannel :=
  { channel with
    backoff := backoff
    reconnectTask := if channel.stopped then none else some .sleeping }

/-- The `finally` block of `_event_loop`. -/
def endEventLoop : ControlChannel :=
  { channel with eventTask := none, readerOwned := false }

/-- The head of `_event_loop`, up to the next read; without a reader `recv_message` raises. -/
def eventLoop : ControlChannel :=
  if channel.connected && !channel.stopped then
    match channel.stream with
    | none => channel.onConnectionLost.endEventLoop
    | some connection => { channel with eventTask := some (.reading connection) }
  else channel.endEventLoop

/-! ### Requests -/

/-- The `finally` block of `request` and the release of the lock. -/
def release : ControlChannel := { channel with holder := none, expectedType := none }

/-- `authenticate` or `register` raised. -/
def authFailed : AuthOwner → ControlChannel
  | .user => channel
  | .reconnect => channel.reconnectLoop (min (channel.backoff * 2) channel.reconnectMaxDelay)

def authDone : AuthOwner → ControlChannel
  | .user => channel
  | .reconnect => channel.reconnectLoop channel.reconnectBaseDelay

/-- A request raised: what its caller does. -/
def fail : Caller → ControlChannel
  | .user => channel
  | .heartbeat => channel.onConnectionLost.heartbeatLoop
  | .register owner => channel.authFailed owner
  | .respond owner => channel.authFailed owner
  | .reregister => channel.authFailed .reconnect

def registerMessage (publicKeyPem : String) : Message :=
  .made "REGISTER" [("client_id", .str channel.clientId), ("public_key", .str publicKeyPem),
    ("version", .str "0.1.0")]

/-- Call `register` with a key. -/
def register (publicKeyPem : String) (caller : Caller) : ControlChannel :=
  { channel with
    publicKeyPem := some publicKeyPem
    waiting := channel.waiting ++
      [⟨caller, channel.registerMessage publicKeyPem, "AUTH_CHALLENGE", false⟩] }

/-- The challenge of a reply to a REGISTER; a value that is no string cannot be decoded. -/
def challengeOf (reply : Message) : Option String :=
  match reply.payload.get? "challenge" with
  | none => some ""
  | some (.str challenge) => some challenge
  | some _ => none

/-- `authenticate` after its first request: sign the challenge and call `request` again. -/
def respond (sign : String → Option String) (owner : AuthOwner) (reply : Message) :
    ControlChannel :=
  match challengeOf reply with
  | none => channel.authFailed owner
  | some challenge =>
    match sign challenge with
    | none => channel.authFailed owner
    | some signature =>
      let response := .made "AUTH_RESPONSE"
        [("signature", .str signature), ("challenge", .str challenge)]
      { channel with waiting := channel.waiting ++
          [⟨.respond owner, response, "AUTH_OK", false⟩] }

/-- A request returned its reply: what its caller does. -/
def succeed (sign : String → Option String) (reply : Message) : Caller → ControlChannel
  | .user => channel
  | .heartbeat => channel.heartbeatLoop
  | .register owner => channel.respond sign owner reply
  | .respond owner =>
    { channel with authenticated := true, hasPrivateKey := true }.startBackgroundTasks.authDone owner
  | .reregister => channel.authDone .reconnect

/-- The head of the loop of `request`: wait for the background reader or read the stream. -/
def proceed (job : Job) (id connection : Nat) : ControlChannel :=
  if channel.readerOwned then { channel with holder := some ⟨job, id, connection, .response⟩ }
  else
    match channel.stream with
    | none => channel.release.fail job.caller
    | some current => { channel with holder := some ⟨job, id, connection, .stream current⟩ }

/-- A request looks at a reply: an ERROR raises, the expected type returns, any other is
skipped. -/
def handle (sign : String → Option String) (holder : Holder) (delivery : Delivery) :
    ControlChannel :=
  if delivery.message.type = "ERROR" then channel.release.fail holder.job.caller
  else if delivery.message.type = holder.job.expected then
    channel.release.succeed sign delivery.message holder.job.caller
  else channel.proceed holder.job holder.id holder.connection

end ControlChannel

/-! ### Steps -/

/-- What can happen next. -/
inductive ChannelEvent where
  /-- A call of `connect` has opened a connection. -/
  | connect
  | request (message : Message) (expected : String) (timed : Bool)
  | authenticate (publicKeyPem : String)
  /-- A call of `send_message` that awaits no reply. -/
  | send (message : Message)
  /-- The first waiting request gets the lock and sends, which may raise. -/
  | acquire (raises : Bool)
  | takeResponse
  | readStream
  /-- The read of a request fails: the connection broke or the time was up. -/
  | readFails
  | timeout
  /-- The task of the user's request that has the lock is cancelled. -/
  | cancel
  /-- The task of a user's request that waits for the lock is cancelled. -/
  | cancelWaiting (index : Nat)
  | eventStart
  | eventRead
  | eventFails
  | heartbeatStart
  | heartbeatWakes (ts : Json)
  | reconnectWakes
  | reconnectConnects (opened : Bool)
  | serverAnswers (connection : Nat) (messages : List Message)
  | serverPushes (connection : Nat) (message : Message)
  | close
  /-- The end of `close`, once the writer is closed. -/
  | closed

namespace ControlChannel

variable (sign : String → Option String) (channel : ControlChannel)

/-- The request with the lock gets its turn: the first waiting job sets the expected type and
sends. -/
def acquire (raises : Bool) : Option ControlChannel :=
  match channel.holder, channel.waiting with
  | none, job :: rest =>
    let entered := { channel with waiting := rest, expectedType := some job.expected }
    match channel.stream with
    | none => some (entered.release.fail job.caller)
    | some connection =>
      if raises then some (entered.release.fail job.caller)
      else
        some ((entered.transmit connection job.message).proceed job channel.nextId connection)
  | _, _ => none

/-- The item at the head of the response queue goes to the request that waits for it. -/
def takeResponse : Option ControlChannel :=
  match channel.holder, channel.responses with
  | some holder, item :: rest =>
    if holder.waiting = .response then
      let taken := { channel with responses := rest }
      match item with
      | .lost _ => some (taken.release.fail holder.job.caller)
      | .reply delivery => some (taken.handle sign holder delivery)
    else none
  | _, _ => none

/-- A request that reads the stream itself. -/
def readStream : Option ControlChannel :=
  match channel.holder with
  | some holder =>
    match holder.waiting with
    | .response => none
    | .stream connection =>
      (channel.receive connection).map fun (delivery, next) => next.handle sign holder delivery
  | none => none

/-- Route a message: to the pending request when it has the expected type or is an ERROR, else
to the events. -/
def classify (delivery : Delivery) : ControlChannel :=
  match channel.expectedType with
  | some expected =>
    if delivery.message.type = expected ∨ delivery.message.type = "ERROR" then
      { channel with responses := channel.responses ++ [.reply delivery] }
    else { channel with events := channel.events ++ [delivery] }
  | none => { channel with events := channel.events ++ [delivery] }

def eventRead : Option ControlChannel :=
  match channel.eventTask with
  | some (.reading connection) =>
    (channel.receive connection).map fun (delivery, next) => (next.classify delivery).eventLoop
  | _ => none

/-- The reconnect loop after its call of `connect`. -/
def reconnected : ControlChannel :=
  let opened := { channel.connect with reconnectTask := some .authenticating }
  match channel.publicKeyPem with
  | some pem =>
    if pem ≠ "" ∧ channel.hasPrivateKey then opened.register pem (.register .reconnect)
    else opened.register pem .reregister
  | none => opened.register "" .reregister

/-- The first part of `close`: the background tasks are cancelled, with their requests. -/
def close : ControlChannel :=
  let held := channel.holder.filter fun holder => !holder.job.caller.background
  { channel with
    stopped := true
    reconnectTask := none
    heartbeatTask := none
    eventTask := none
    readerOwned := match channel.eventTask with
      | some (.reading _) => false
      | _ => channel.readerOwned
    waiting := channel.waiting.filter fun job => !job.caller.background
    holder := held
    expectedType := if held.isSome then channel.expectedType else none }

/-- One step of the channel; none where the event cannot happen. -/
def step : ChannelEvent → Option ControlChannel
  | .connect => some channel.connect
  | .request message expected timed =>
    some { channel with waiting := channel.waiting ++ [⟨.user, message, expected, timed⟩] }
  | .authenticate publicKeyPem => some (channel.register publicKeyPem (.register .user))
  | .send message =>
    match channel.stream with
    | none => some channel
    | some connection => some (channel.transmit connection message)
  | .acquire raises => channel.acquire raises
  | .takeResponse => channel.takeResponse sign
  | .readStream => channel.readStream sign
  | .readFails =>
    match channel.holder with
    | some ⟨job, _, _, .stream _⟩ => some (channel.release.fail job.caller)
    | _ => none
  | .timeout =>
    match channel.holder with
    | some ⟨job, _, _, .response⟩ =>
      if job.timed then some (channel.release.fail job.caller) else none
    | _ => none
  | .cancel =>
    match channel.holder with
    | some holder => if holder.job.caller.background then none else some channel.release
    | none => none
  | .cancelWaiting index =>
    match channel.waiting[index]? with
    | some job =>
      if job.caller.background then none
      else some { channel with waiting := channel.waiting.eraseIdx index }
    | none => none
  | .eventStart =>
    match channel.eventTask with
    | some .starting => some { channel with readerOwned := true }.eventLoop
    | _ => none
  | .eventRead => channel.eventRead
  | .eventFails =>
    match channel.eventTask with
    | some (.reading _) => some channel.onConnectionLost.endEventLoop
    | _ => none
  | .heartbeatStart =>
    match channel.heartbeatTask with
    | some .starting => some channel.heartbeatLoop
    | _ => none
  | .heartbeatWakes ts =>
    match channel.heartbeatTask with
    | some .sleeping =>
      if channel.connected then
        some { channel with
          heartbeatTask := some .requesting
          waiting := channel.waiting ++
            [⟨.heartbeat, .made "HEARTBEAT" [("ts", ts)], "HEARTBEAT_ACK", true⟩] }
      else some channel.heartbeatLoop
    | _ => none
  | .reconnectWakes =>
    match channel.reconnectTask with
    | some .sleeping => some { channel with reconnectTask := some .connecting }
    | _ => none
  | .reconnectConnects opened =>
    match channel.reconnectTask with
    | some .connecting =>
      if opened then some channel.reconnected
      else some (channel.authFailed .reconnect)
    | _ => none
  | .serverAnswers connection messages =>
    match channel.wires[connection]? with
    | some ⟨(id, message) :: rest, inbound⟩ =>
      let answers := messages.map fun answer => ⟨answer, .reply id message, connection⟩
      some { channel with wires := channel.wires.set connection ⟨rest, inbound ++ answers⟩ }
    | _ => none
  | .serverPushes connection message =>
    match channel.wires[connection]? with
    | some ⟨outbound, inbound⟩ =>
      let pushed := [⟨message, .push, connection⟩]
      some { channel with wires := channel.wires.set connection ⟨outbound, inbound ++ pushed⟩ }
    | none => none
  | .close => some channel.close
  | .closed =>
    if channel.stopped then
      some { channel with
        stream := none, connected := false, authenticated := false, readerOwned := false }
    else none

/-- The request that looks at a message in a step, and the message. -/
def looksAt : ChannelEvent → Option (Holder × Delivery)
  | .takeResponse =>
    match channel.holder, channel.responses with
    | some holder, .reply delivery :: _ =>
      if holder.waiting = .response then some (holder, delivery) else none
    | _, _ => none
  | .readStream =>
    match channel.holder with
    | some holder =>
      match holder.waiting with
      | .response => none
      | .stream connection => (channel.receive connection).map fun (delivery, _) => (holder, delivery)
    | none => none
  | _ => none

/-- The request that returns in a step, with the message it returns. -/
def returnsReply (event : ChannelEvent) : Option (Holder × Delivery) :=
  (channel.looksAt event).filter fun (holder, delivery) =>
    decide (delivery.message.type ≠ "ERROR" ∧ delivery.message.type = holder.job.expected)

/-- The request that raises for an ERROR in a step, with the ERROR. -/
def raisesError (event : ChannelEvent) : Option (Holder × Delivery) :=
  (channel.looksAt event).filter fun (_, delivery) => decide (delivery.message.type = "ERROR")

/-- A message read from a connection was on it, and goes away. -/
theorem receive_some {channel next : ControlChannel} {connection : Nat} {delivery : Delivery}
    (received : channel.receive connection = some (delivery, next)) :
    ∃ outbound rest, channel.wires[connection]? = some ⟨outbound, delivery :: rest⟩ ∧
      next = { channel with wires := channel.wires.set connection ⟨outbound, rest⟩ } := by
  unfold receive at received
  split at received
  · rename_i outbound first rest found
    obtain ⟨rfl, rfl⟩ := Prod.mk.inj (Option.some.inj received)
    exact ⟨outbound, rest, found, rfl⟩
  · cases received

/-! ### A client that signs on -/

/-- A client's channel, of a client that signs every challenge. -/
def exampleChannel : ControlChannel := init "client-0001" 1 60

def signAll : String → Option String := some

/-- Requests of one authentication on a connection, each answered at once and read by the request. -/
def answeredAuth (connection : Nat) : List ChannelEvent :=
  [.acquire false,
    .serverAnswers connection [.made "AUTH_CHALLENGE" [("challenge", .str "07")]],
    .readStream, .acquire false, .serverAnswers connection [.made "AUTH_OK" []]]

/-- The client connects, authenticates and starts its background tasks. -/
def signedOn : List ChannelEvent :=
  [.connect, .authenticate "pem"] ++ answeredAuth 0 ++ [.readStream, .eventStart, .heartbeatStart]

end ControlChannel

end LocalNetwork
