/-
This file joins the control channels of the clients with the server. A client opens a connection,
and the server gets a coroutine for it; what the client writes on it, the server reads in order,
and what the server writes, the client reads in order. Everything else is left to the order of the
steps: any number of clients and connections, losses, reconnections and closures, and connections
of others, who send what they like.

The file proves that both ends of a connection agree on who has signed on. A channel that takes
itself for authenticated has a connection on which the server has verified a response, to a
challenge that it issued, under the key it has for the client of that channel.

The content of a message from the server other than its type is a parameter.
-/

import LocalNetwork.AuthReplies
import LocalNetwork.Correlation
import LocalNetwork.RegistrationChecks

namespace LocalNetwork

/-! ### Messages -/

/-- The type of a message of the server. -/
def ServerMessage.messageType : ServerMessage → String
  | .authChallenge _ => "AUTH_CHALLENGE"
  | .authResult _ _ => "AUTH_OK"
  | .error _ _ => "ERROR"
  | .heartbeatAck _ => "HEARTBEAT_ACK"
  | .networkCreated .. => "NETWORK_CREATED"
  | .networkJoined .. => "NETWORK_JOINED"
  | .networkLeft _ => "NETWORK_LEFT"
  | .networkList _ => "NETWORK_LIST"
  | .peerEndpoints .. => "PEER_ENDPOINTS"
  | .peerOnline .. => "PEER_ONLINE"
  | .peerOffline .. => "PEER_OFFLINE"
  | .serviceAdded _ => "SERVICE_ADDED"
  | .serviceRemoved _ => "SERVICE_REMOVED"
  | .relayGranted .. => "RELAY_GRANTED"
  | .relayFrame .. => "RELAY_FRAME"

theorem isAuthResult_of_messageType {message : ServerMessage}
    (typed : message.messageType = "AUTH_OK") :
    ∃ ok text, message = .authResult ok text := by
  cases message with
  | authResult ok text => exact ⟨ok, text, rfl⟩
  | _ => simp [ServerMessage.messageType] at typed

/-! ### The clients and the server -/

/-- The channels of the clients, the server, what it has done, and which connection of a client each
of its connections is; those of others are absent. -/
structure SignOnNet (Name : Type) where
  channels : Name → ControlChannel
  server : Server
  history : List ServerEvent
  links : Dict ConnId (Name × Nat)

inductive SignOnEvent (Name : Type) where
  /-- A step of a client that opens no connection. -/
  | client (name : Name) (event : ChannelEvent)
  /-- A client opens a connection. -/
  | opens (name : Name) (reconnects : Bool) (id : ConnId) (peer : Addr)
  /-- The server reads the next message of a client. -/
  | received (id : ConnId) (choice : Choice)
  /-- Any other step of the server, with a connection or a message of others among them. -/
  | server (event : ServerEvent)

/-- The steps of a channel that others take part in. -/
def ChannelEvent.shared : ChannelEvent → Bool
  | .connect | .reconnectConnects true | .serverAnswers _ _ | .serverPushes _ _ => true
  | _ => false

section

variable {Name : Type} [DecidableEq Name] (sign : Name → String → Option String)
  (packages : Packages) (payload : ServerMessage → Dict String Json)

namespace SignOnNet

variable (net : SignOnNet Name)

/-- A step of a client. -/
def setChannel (name : Name) (channel : ControlChannel) : SignOnNet Name :=
  { net with channels := Function.update net.channels name channel }

/-- A step of the server. -/
def serves (event : ServerEvent) : Option (SignOnNet Name) :=
  (net.server.step packages event).map fun server =>
    { net with server := server, history := net.history ++ [event] }

/-- The server reads a message of a client. -/
def readsClient : ServerEvent → Bool
  | .receive id _ _ => net.links.contains id
  | _ => false

/-- The message that the server reads next on a connection. -/
def nextMessage (id : ConnId) : Option Message :=
  (net.links.get? id).bind fun (name, index) =>
    match (net.channels name).wires[index]? with
    | some ⟨(_, message) :: _, _⟩ => some message
    | _ => none

/-- Put what the server writes on the wire of its connection. -/
def carry (id : ConnId) (message : ServerMessage) : Option (SignOnNet Name) :=
  match net.links.get? id with
  | none => some net
  | some (name, index) =>
    ((net.channels name).step (sign name)
      (.serverPushes index ⟨message.messageType, payload message⟩)).map (net.setChannel name)

def step : SignOnEvent Name → Option (SignOnNet Name)
  | .client name event =>
    if event.shared then none
    else ((net.channels name).step (sign name) event).map (net.setChannel name)
  | .opens name reconnects id peer =>
    let event : ChannelEvent := if reconnects then .reconnectConnects true else .connect
    ((net.channels name).step (sign name) event).bind fun channel =>
      (net.serves packages (.connect id peer)).map fun served =>
        { served.setChannel name channel with
          links := served.links.insert id (name, (net.channels name).wires.length) }
  | .received id choice =>
    match net.links.get? id, net.nextMessage id with
    | some (name, index), some message =>
      (net.serves packages (.receive id message choice)).bind fun served =>
        ((net.channels name).step (sign name) (.serverAnswers index [])).map
          (served.setChannel name)
    | _, _ => none
  | .server event =>
    if net.readsClient event then none
    else
      (net.serves packages event).bind fun served =>
        match net.server.written event with
        | none => some served
        | some (id, message) => served.carry sign payload id message

end SignOnNet

/-- The users of the channels leave the REGISTER messages to the channels. -/
def OwnRegisters (_ : SignOnNet Name) : SignOnEvent Name → Prop
  | .client _ (.request message _ _) | .client _ (.send message) => message.type ≠ "REGISTER"
  | _ => True

end

/-! ### The invariant of a channel -/

/-- A message that registers no client but the one of the channel. -/
def Message.RegistersAs (clientId : String) (message : Message) : Prop :=
  message.type = "REGISTER" → message.payload.get? "client_id" = some (.str clientId)

/-- A request that registers no other client, and that waits for AUTH_OK if it ends a sign-on. -/
structure Job.Sound (clientId : String) (job : Job) : Prop where
  message : job.message.RegistersAs clientId
  expected : ∀ owner, job.caller = .respond owner → job.expected = "AUTH_OK"

namespace ControlChannel

/-- The channel registers no other client, and every AUTH_OK under way or taken was given on a
connection that has proven itself. -/
structure SignOnSound (clientId : String) (proven : Nat → Prop) (channel : ControlChannel) :
    Prop where
  named : channel.clientId = clientId
  waiting : ∀ job ∈ channel.waiting, job.Sound clientId
  holder : ∀ holder ∈ channel.holder, holder.job.Sound clientId
  outbound : ∀ wire ∈ channel.wires, ∀ entry ∈ wire.outbound, entry.2.RegistersAs clientId
  inbound : ∀ wire ∈ channel.wires, ∀ delivery ∈ wire.inbound,
    delivery.message.type = "AUTH_OK" → proven delivery.connection
  queued : ∀ delivery, .reply delivery ∈ channel.responses →
    delivery.message.type = "AUTH_OK" → proven delivery.connection
  authenticated : channel.authenticated = true → ∃ connection, proven connection

variable {clientId : String} {proven : Nat → Prop} {channel next : ControlChannel}
  {sign : String → Option String}

/-- A channel with the same connections, and no more jobs or replies than before. -/
theorem SignOnSound.narrower (sound : channel.SignOnSound clientId proven)
    (named : next.clientId = channel.clientId)
    (waiting : ∀ job ∈ next.waiting, job ∈ channel.waiting)
    (holder : ∀ holder ∈ next.holder, ∃ old ∈ channel.holder, old.job = holder.job)
    (wires : next.wires = channel.wires)
    (responses : ∀ delivery, .reply delivery ∈ next.responses →
      .reply delivery ∈ channel.responses)
    (authenticated : next.authenticated = true → channel.authenticated = true) :
    next.SignOnSound clientId proven where
  named := named.trans sound.named
  waiting job member := sound.waiting job (waiting job member)
  holder held member := by
    obtain ⟨old, oldHeld, same⟩ := holder held member
    exact same ▸ sound.holder old oldHeld
  outbound := wires ▸ sound.outbound
  inbound := wires ▸ sound.inbound
  queued delivery member := sound.queued delivery (responses delivery member)
  authenticated now := sound.authenticated (authenticated now)

/-- A channel that differs in none of these. -/
theorem SignOnSound.same (sound : channel.SignOnSound clientId proven)
    (named : next.clientId = channel.clientId) (waiting : next.waiting = channel.waiting)
    (holder : next.holder = channel.holder) (wires : next.wires = channel.wires)
    (responses : next.responses = channel.responses)
    (authenticated : next.authenticated = channel.authenticated) :
    next.SignOnSound clientId proven :=
  sound.narrower named (fun _ member => waiting ▸ member)
    (fun held member => ⟨held, holder ▸ member, rfl⟩) wires (fun _ member => responses ▸ member)
    fun now => authenticated ▸ now

theorem SignOnSound.queue (sound : channel.SignOnSound clientId proven) {job : Job}
    (fits : job.Sound clientId) :
    ({ channel with waiting := channel.waiting ++ [job] } : ControlChannel).SignOnSound clientId
      proven :=
  { sound with
    waiting := fun other member => (List.mem_append.mp member).elim (sound.waiting other)
      fun last => List.mem_singleton.mp last ▸ fits }

theorem SignOnSound.lost (sound : channel.SignOnSound clientId proven) :
    channel.onConnectionLost.SignOnSound clientId proven := by
  unfold onConnectionLost
  split
  · exact sound
  · refine sound.narrower rfl (fun _ member => member) (fun held member => ⟨held, member, rfl⟩) rfl
      (fun delivery member => ?_) (fun now => nomatch now)
    rcases List.mem_append.mp member with old | new
    · exact old
    · cases List.mem_singleton.mp new

theorem SignOnSound.release (sound : channel.SignOnSound clientId proven) :
    channel.release.SignOnSound clientId proven :=
  sound.narrower rfl (fun _ member => member) nofun rfl (fun _ member => member) fun now => now

theorem SignOnSound.authFailed (sound : channel.SignOnSound clientId proven) (owner : AuthOwner) :
    (channel.authFailed owner).SignOnSound clientId proven := by
  cases owner with
  | user => exact sound
  | reconnect => exact sound.same rfl rfl rfl rfl rfl rfl

theorem SignOnSound.fail (sound : channel.SignOnSound clientId proven) (caller : Caller) :
    (channel.fail caller).SignOnSound clientId proven := by
  cases caller with
  | user => exact sound
  | heartbeat => exact sound.lost.same rfl rfl rfl rfl rfl rfl
  | register owner => exact sound.authFailed owner
  | respond owner => exact sound.authFailed owner
  | reregister => exact sound.authFailed .reconnect

theorem SignOnSound.eventLoop (sound : channel.SignOnSound clientId proven) :
    channel.eventLoop.SignOnSound clientId proven := by
  unfold ControlChannel.eventLoop
  split
  · split
    · exact sound.lost.same rfl rfl rfl rfl rfl rfl
    · exact sound.same rfl rfl rfl rfl rfl rfl
  · exact sound.same rfl rfl rfl rfl rfl rfl

/-- The REGISTER of the channel names its client. -/
theorem registerMessage_registersAs (publicKeyPem : String) :
    (channel.registerMessage publicKeyPem).RegistersAs channel.clientId := by
  intro _
  simp [registerMessage, Message.made, Dict.ofEntries, Dict.get?_insert]

theorem SignOnSound.register (sound : channel.SignOnSound clientId proven) (publicKeyPem : String)
    {caller : Caller} (other : ∀ owner, caller ≠ .respond owner) :
    (channel.register publicKeyPem caller).SignOnSound clientId proven := by
  have fits : (⟨caller, channel.registerMessage publicKeyPem, "AUTH_CHALLENGE", false⟩ :
      Job).Sound clientId :=
    ⟨sound.named ▸ registerMessage_registersAs publicKeyPem,
      fun owner same => absurd same (other owner)⟩
  exact (sound.queue fits).same rfl rfl rfl rfl rfl rfl

theorem SignOnSound.respond (sound : channel.SignOnSound clientId proven) (owner : AuthOwner)
    (reply : Message) : (channel.respond sign owner reply).SignOnSound clientId proven := by
  have other : "AUTH_RESPONSE" ≠ "REGISTER" := by decide
  unfold ControlChannel.respond
  split
  · exact sound.authFailed owner
  · split
    · exact sound.authFailed owner
    · exact sound.queue ⟨fun typed => absurd typed other, fun _ _ => rfl⟩

/-- A request that returned a reply: only AUTH_OK ends a sign-on. -/
theorem SignOnSound.succeed (sound : channel.SignOnSound clientId proven) {caller : Caller}
    (reply : Message) (ends : ∀ owner, caller = .respond owner → ∃ connection, proven connection) :
    (channel.succeed sign reply caller).SignOnSound clientId proven := by
  cases caller with
  | user => exact sound
  | heartbeat => exact sound.same rfl rfl rfl rfl rfl rfl
  | register owner => exact sound.respond owner reply
  | respond owner =>
    have signedOn : ({ channel with authenticated := true, hasPrivateKey := true } :
        ControlChannel).startBackgroundTasks.SignOnSound clientId proven :=
      { named := sound.named
        waiting := sound.waiting
        holder := sound.holder
        outbound := sound.outbound
        inbound := sound.inbound
        queued := sound.queued
        authenticated := fun _ => ends owner rfl }
    cases owner with
    | user => exact signedOn
    | reconnect => exact signedOn.same rfl rfl rfl rfl rfl rfl
  | reregister => exact sound.same rfl rfl rfl rfl rfl rfl

/-- A sound request has the lock. -/
theorem SignOnSound.hold (sound : channel.SignOnSound clientId proven) {holder : Holder}
    (fits : holder.job.Sound clientId) :
    ({ channel with holder := some holder } : ControlChannel).SignOnSound clientId proven :=
  { sound with holder := fun _ held => Option.some.inj held ▸ fits }

theorem SignOnSound.proceed (sound : channel.SignOnSound clientId proven) {job : Job}
    (fits : job.Sound clientId) (id connection : Nat) :
    (channel.proceed job id connection).SignOnSound clientId proven := by
  unfold ControlChannel.proceed
  split
  · exact sound.hold fits
  · split
    · exact sound.release.fail _
    · exact sound.hold fits

/-- A request looks at a message that is sound itself. -/
theorem SignOnSound.handle (sound : channel.SignOnSound clientId proven) {holder : Holder}
    (fits : holder.job.Sound clientId) {delivery : Delivery}
    (given : delivery.message.type = "AUTH_OK" → proven delivery.connection) :
    (channel.handle sign holder delivery).SignOnSound clientId proven := by
  unfold ControlChannel.handle
  split
  · exact sound.release.fail _
  · split
    · rename_i typed
      refine sound.release.succeed delivery.message fun owner ends => ?_
      exact ⟨delivery.connection, given (typed.trans (fits.expected owner ends))⟩
    · exact sound.proceed fits _ _

theorem SignOnSound.connect (sound : channel.SignOnSound clientId proven) :
    channel.connect.SignOnSound clientId proven where
  named := sound.named
  waiting := sound.waiting
  holder := sound.holder
  outbound wire member := by
    rcases List.mem_append.mp member with old | new
    · exact sound.outbound wire old
    · rw [List.mem_singleton.mp new]
      exact nofun
  inbound wire member := by
    rcases List.mem_append.mp member with old | new
    · exact sound.inbound wire old
    · rw [List.mem_singleton.mp new]
      exact nofun
  queued := sound.queued
  authenticated := sound.authenticated

theorem SignOnSound.reconnected (sound : channel.SignOnSound clientId proven) :
    channel.reconnected.SignOnSound clientId proven := by
  have opened : ({ channel.connect with reconnectTask := some .authenticating } :
      ControlChannel).SignOnSound clientId proven := sound.connect.same rfl rfl rfl rfl rfl rfl
  unfold ControlChannel.reconnected
  dsimp only
  split
  · split
    · exact opened.register _ nofun
    · exact opened.register _ nofun
  · exact opened.register _ nofun

/-- The wire of one connection changes. -/
theorem SignOnSound.setWire (sound : channel.SignOnSound clientId proven) {index : Nat}
    {wire : Wire} (outbound : ∀ entry ∈ wire.outbound, entry.2.RegistersAs clientId)
    (inbound : ∀ delivery ∈ wire.inbound,
      delivery.message.type = "AUTH_OK" → proven delivery.connection) :
    ({ channel with wires := channel.wires.set index wire } : ControlChannel).SignOnSound clientId
      proven :=
  { sound with
    outbound := fun other member => by
      rcases List.mem_or_eq_of_mem_set member with old | rfl
      · exact sound.outbound other old
      · exact outbound
    inbound := fun other member => by
      rcases List.mem_or_eq_of_mem_set member with old | rfl
      · exact sound.inbound other old
      · exact inbound }

/-- A message that is read was sound on its wire. -/
theorem SignOnSound.receive (sound : channel.SignOnSound clientId proven) {connection : Nat}
    {delivery : Delivery} (received : channel.receive connection = some (delivery, next)) :
    next.SignOnSound clientId proven ∧
      (delivery.message.type = "AUTH_OK" → proven delivery.connection) ∧
      next.holder = channel.holder := by
  obtain ⟨outbound, rest, found, rfl⟩ := receive_some received
  have here := List.mem_of_getElem? found
  have unanswered := sound.outbound _ here
  refine ⟨sound.setWire unanswered fun other member => ?_,
    sound.inbound _ here delivery List.mem_cons_self, rfl⟩
  exact sound.inbound _ here other (List.mem_cons_of_mem _ member)

/-- A reply that is queued was sound on its wire. -/
theorem SignOnSound.classify (sound : channel.SignOnSound clientId proven) {delivery : Delivery}
    (given : delivery.message.type = "AUTH_OK" → proven delivery.connection) :
    (channel.classify delivery).SignOnSound clientId proven := by
  unfold ControlChannel.classify
  split
  · split
    · refine { sound with queued := fun other member => ?_ }
      rcases List.mem_append.mp member with old | new
      · exact sound.queued other old
      · rw [ResponseItem.reply.inj (List.mem_singleton.mp new)]
        exact given
    · exact sound.same rfl rfl rfl rfl rfl rfl
  · exact sound.same rfl rfl rfl rfl rfl rfl

theorem SignOnSound.transmit (sound : channel.SignOnSound clientId proven) (connection : Nat)
    {message : Message} (own : message.RegistersAs clientId) :
    (channel.transmit connection message).SignOnSound clientId proven where
  named := sound.named
  waiting := sound.waiting
  holder := sound.holder
  outbound wire member entry inside := by
    rcases outbound_transmit member inside with ⟨old, oldMember, oldInside⟩ | rfl
    · exact sound.outbound old oldMember entry oldInside
    · exact own
  inbound wire member delivery inside := by
    obtain ⟨old, oldMember, oldInside⟩ := inbound_transmit member inside
    exact sound.inbound old oldMember delivery oldInside
  queued := sound.queued
  authenticated := sound.authenticated

/-- The first waiting request gets its turn. -/
theorem SignOnSound.entered (sound : channel.SignOnSound clientId proven) {job : Job}
    {rest : List Job} (waiting : channel.waiting = job :: rest) :
    (channel.entered job rest).SignOnSound clientId proven ∧ job.Sound clientId := by
  refine ⟨sound.narrower rfl (fun other member => ?_) (fun held member => ⟨held, member, rfl⟩) rfl
    (fun _ member => member) fun now => now, ?_⟩
  · exact waiting ▸ List.mem_cons_of_mem _ member
  · exact sound.waiting job (waiting ▸ List.mem_cons_self)

/-- The item at the head of the response queue is taken. -/
theorem SignOnSound.taken (sound : channel.SignOnSound clientId proven) {item : ResponseItem}
    {rest : List ResponseItem} (queued : channel.responses = item :: rest) :
    ({ channel with responses := rest } : ControlChannel).SignOnSound clientId proven :=
  sound.narrower rfl (fun _ member => member) (fun held member => ⟨held, member, rfl⟩) rfl
    (fun _ later => queued ▸ List.mem_cons_of_mem _ later) fun now => now

theorem SignOnSound.close (sound : channel.SignOnSound clientId proven) :
    channel.close.SignOnSound clientId proven :=
  sound.narrower rfl (fun _ member => (List.mem_filter.mp member).1)
    (fun held member => ⟨held, (Option.filter_eq_some_iff.mp member).1, rfl⟩) rfl
    (fun _ member => member) fun now => now

/-- What the invariant asks of a step: the messages of the users register no other client, and
AUTH_OK is given on a connection that has proven itself. -/
def SoundEvent (clientId : String) (proven : Nat → Prop) : ChannelEvent → Prop
  | .request message _ _ | .send message => message.RegistersAs clientId
  | .serverAnswers connection messages =>
    ∀ message ∈ messages, message.type = "AUTH_OK" → proven connection
  | .serverPushes connection message => message.type = "AUTH_OK" → proven connection
  | _ => True

/-- One step of a channel. -/
theorem SignOnSound.step {event : ChannelEvent} (fits : SoundEvent clientId proven event)
    (sound : channel.SignOnSound clientId proven)
    (stepped : channel.step sign event = some next) : next.SignOnSound clientId proven := by
  cases channel_cases stepped with
  | connected => exact sound.connect
  | requested message expected timed => exact sound.queue ⟨fits, nofun⟩
  | authenticated publicKeyPem => exact sound.register publicKeyPem nofun
  | unsent message offline => exact sound
  | sent message connection current => exact sound.transmit connection fits
  | refused raises job rest free waiting fails => exact (sound.entered waiting).1.release.fail _
  | acquired job rest connection free waiting current =>
    obtain ⟨entered, jobSound⟩ := sound.entered waiting
    exact (entered.transmit connection jobSound.message).proceed jobSound _ _
  | lossTaken holder connection rest held waits queued => exact (sound.taken queued).release.fail _
  | replyTaken holder delivery rest held waits queued looks =>
    exact (sound.taken queued).handle (sound.holder holder held)
      (sound.queued delivery (queued ▸ List.mem_cons_self))
  | replyRead holder connection delivery read held waits received looks =>
    obtain ⟨readSound, given, sameHolder⟩ := sound.receive received
    exact readSound.handle (sound.holder holder held) given
  | readFailed holder connection held waits => exact sound.release.fail _
  | timedOut holder held waits => exact sound.release.fail _
  | cancelled holder held foreground => exact sound.release
  | abandoned index job waits foreground =>
    exact sound.narrower rfl (fun _ member => List.eraseIdx_subset member)
      (fun held member => ⟨held, member, rfl⟩) rfl (fun _ member => member) fun now => now
  | readerStarted starting =>
    have owned : ({ channel with readerOwned := true } : ControlChannel).SignOnSound clientId
        proven := sound.same rfl rfl rfl rfl rfl rfl
    exact owned.eventLoop
  | readerRead connection delivery read reading received =>
    obtain ⟨readSound, given, -⟩ := sound.receive received
    exact (readSound.classify given).eventLoop
  | readerFailed connection reading => exact sound.lost.same rfl rfl rfl rfl rfl rfl
  | heartbeatStarted starting => exact sound.same rfl rfl rfl rfl rfl rfl
  | heartbeatSent ts sleeping =>
    have other : "HEARTBEAT" ≠ "REGISTER" := by decide
    have beating : ({ channel with heartbeatTask := some .requesting } :
        ControlChannel).SignOnSound clientId proven := sound.same rfl rfl rfl rfl rfl rfl
    exact beating.queue ⟨fun typed => absurd typed other, nofun⟩
  | heartbeatEnded ts sleeping => exact sound.same rfl rfl rfl rfl rfl rfl
  | reconnectWoke sleeping => exact sound.same rfl rfl rfl rfl rfl rfl
  | reconnectOpened connecting => exact sound.reconnected
  | reconnectRefused connecting => exact sound.authFailed .reconnect
  | serverAnswered connection messages id message rest inbound found =>
    have here := List.mem_of_getElem? found
    refine sound.setWire (fun entry member => ?_) fun delivery member => ?_
    · exact sound.outbound _ here entry (List.mem_cons_of_mem _ member)
    · rcases List.mem_append.mp member with old | new
      · exact sound.inbound _ here delivery old
      · obtain ⟨answer, given, rfl⟩ := List.mem_map.mp new
        exact fits answer given
  | serverPushed connection message outbound inbound found =>
    have here := List.mem_of_getElem? found
    have unanswered := sound.outbound _ here
    refine sound.setWire unanswered fun delivery member => ?_
    rcases List.mem_append.mp member with old | new
    · exact sound.inbound _ here delivery old
    · rw [List.mem_singleton.mp new]
      exact fits
  | closing => exact sound.close
  | closed stopped =>
    exact sound.narrower rfl (fun _ member => member) (fun held member => ⟨held, member, rfl⟩) rfl
      (fun _ member => member) nofun

/-- Nothing is lost when more connections prove themselves. -/
theorem SignOnSound.mono {later : Nat → Prop} (sound : channel.SignOnSound clientId proven)
    (more : ∀ connection, proven connection → later connection) :
    channel.SignOnSound clientId later :=
  { sound with
    inbound := fun wire member delivery inside typed =>
      more _ (sound.inbound wire member delivery inside typed)
    queued := fun delivery member typed => more _ (sound.queued delivery member typed)
    authenticated := fun now => (sound.authenticated now).imp more }

end ControlChannel

/-! ### The client of a REGISTER -/

/-- A REGISTER that is accepted registers the client that it names. -/
theorem client_of_accepts {packages : Packages} {server : Server} {id : ConnId} {message : Message}
    {connection : Connection} {clientId publicKey named : String}
    (accepts : Accepts packages server id message connection clientId publicKey)
    (own : message.RegistersAs named) : clientId = named := by
  have checked := accepts.accepted
  unfold Server.checkRegister at checked
  split at checked
  · cases checked
  · rename_i client key validated
    have same : client = clientId := by
      split at checked
      · cases checked
      · split at checked
        · cases checked
        · exact (Prod.mk.inj (Except.ok.inj checked)).1
    simp only [validateRegister, except_bind_eq_ok_iff, require_eq_ok_iff,
      own accepts.typed, Option.getD_some] at validated
    obtain ⟨_, ⟨rfl, -⟩, _, -, fields⟩ := validated
    split at fields
    · cases fields
    · split at fields
      · cases fields
      · exact same.symm.trans (Prod.mk.inj (Except.ok.inj fields)).1.symm

/-! ### The invariant of the clients and the server -/

section

variable {Name : Type} {sign : Name → String → Option String} {packages : Packages}
  {payload : ServerMessage → Dict String Json} {start : Server} {clientIds : Name → String}
  {net next served : SignOnNet Name} {event : ServerEvent}

/-- The server has verified a response on a connection of a client. -/
def SignOnNet.Proven (packages : Packages) (start : Server) (clientIds : Name → String)
    (net : SignOnNet Name) (name : Name) (index : Nat) : Prop :=
  ∃ id, net.links.get? id = some (name, index) ∧
    VerifiedOn packages start id (clientIds name) net.history

/-- The server is where its history leads, a connection of a client registers that client only, and
the channels are sound. -/
structure SignOnInvariant (packages : Packages) (start : Server) (clientIds : Name → String)
    (net : SignOnNet Name) : Prop where
  ran : runFrom (Server.step packages) start net.history = some net.server
  registered : ∀ id name index clientId, net.links.get? id = some (name, index) →
    RegisteredOn packages start id clientId net.history → clientId = clientIds name
  sound : ∀ name, (net.channels name).SignOnSound (clientIds name)
    (net.Proven packages start clientIds name)

/-- Whoever is verified on a connection was registered on it. -/
theorem VerifiedOn.registeredOn {id : ConnId} {clientId : String} {past : List ServerEvent}
    (verified : VerifiedOn packages start id clientId past) :
    RegisteredOn packages start id clientId past := by
  obtain ⟨before, event, after, state, rfl, -, -, registered, -⟩ := verified
  exact registered.append _

/-- The clients and the server before anything happens. -/
def SignOnNet.init (clientIds : Name → String) (baseDelay maxDelay : Time) (server : Server) :
    SignOnNet Name :=
  ⟨fun name => ControlChannel.init (clientIds name) baseDelay maxDelay, server, [], Dict.empty⟩

theorem SignOnInvariant.init (baseDelay maxDelay : Time) :
    SignOnInvariant packages start clientIds (.init clientIds baseDelay maxDelay start) where
  ran := rfl
  registered _ _ _ _ linked := by cases linked
  sound _ :=
    { named := rfl
      waiting := nofun
      holder := nofun
      outbound := nofun
      inbound := nofun
      queued := nofun
      authenticated := nofun }

theorem SignOnInvariant.proven (holds : SignOnInvariant packages start clientIds net)
    {id : ConnId} {name : Name} {index : Nat} {clientId : String}
    (linked : net.links.get? id = some (name, index))
    (verified : VerifiedOn packages start id clientId net.history) :
    net.Proven packages start clientIds name index := by
  obtain rfl := holds.registered id name index clientId linked verified.registeredOn
  exact ⟨id, linked, verified⟩

/-- A step of the server alone, which may register on a connection only the client it belongs to. -/
theorem SignOnInvariant.serves (holds : SignOnInvariant packages start clientIds net)
    (own : ∀ id name index clientId, net.links.get? id = some (name, index) →
      Registers packages id clientId net.server event → clientId = clientIds name)
    (stepped : net.serves packages event = some served) :
    SignOnInvariant packages start clientIds served ∧ served.channels = net.channels ∧
      served.links = net.links ∧ served.history = net.history ++ [event] := by
  obtain ⟨server, moved, rfl⟩ := Option.map_eq_some_iff.mp stepped
  refine ⟨⟨runFrom_append.mpr ⟨_, holds.ran, runFrom_cons.mpr ⟨server, moved, rfl⟩⟩, ?_, ?_⟩,
    rfl, rfl, rfl⟩
  · intro id name index clientId linked registered
    rcases happened_snoc holds.ran registered with before | now
    · exact holds.registered id name index clientId linked before
    · exact own id name index clientId linked now
  · intro name
    refine (holds.sound name).mono fun index => ?_
    rintro ⟨id, linked, verified⟩
    exact ⟨id, linked, verified.later event⟩

/-- A step in which the server accepts no REGISTER of a client. -/
theorem registers_none {id : ConnId} {name : Name} {index : Nat} {clientId : String}
    {server : Server} (quiet : net.readsClient event = false)
    (linked : net.links.get? id = some (name, index)) :
    ¬ Registers packages id clientId server event := by
  rintro ⟨message, choice, connection, publicKey, rfl, -⟩
  rw [SignOnNet.readsClient, Dict.contains, linked] at quiet
  cases quiet

/-- What a client sends registers no other client. -/
theorem SignOnInvariant.registersAs (holds : SignOnInvariant packages start clientIds net)
    {id : ConnId} {name : Name} {index : Nat} {message : Message}
    (linked : net.links.get? id = some (name, index)) (read : net.nextMessage id = some message) :
    message.RegistersAs (clientIds name) := by
  rw [SignOnNet.nextMessage, linked, Option.bind_some] at read
  dsimp only at read
  split at read
  · rename_i number first rest inbound found
    obtain rfl := Option.some.inj read
    exact (holds.sound name).outbound _ (List.mem_of_getElem? found) _ List.mem_cons_self
  · cases read

variable [DecidableEq Name]

/-- A step of a channel alone. -/
theorem SignOnInvariant.channel (holds : SignOnInvariant packages start clientIds net) {name : Name}
    {event : ChannelEvent} {channel : ControlChannel}
    (fits : ControlChannel.SoundEvent (clientIds name)
      (net.Proven packages start clientIds name) event)
    (stepped : (net.channels name).step (sign name) event = some channel) :
    SignOnInvariant packages start clientIds (net.setChannel name channel) where
  ran := holds.ran
  registered := holds.registered
  sound := by
    have changed := (holds.sound name).step fits stepped
    refine (Function.forall_update_iff net.channels fun other state =>
      state.SignOnSound (clientIds other) (net.Proven packages start clientIds other)).mpr ?_
    exact ⟨changed, fun other _ => holds.sound other⟩

/-- A client opens a connection, which the server has not seen before. -/
theorem SignOnInvariant.opens (gated : Gated packages start net.history net.server)
    (holds : SignOnInvariant packages start clientIds net) {name : Name} {reconnects : Bool}
    {id : ConnId} {peer : Addr}
    (stepped : net.step sign packages payload (.opens name reconnects id peer) = some next) :
    SignOnInvariant packages start clientIds next := by
  obtain ⟨channel, opened, serves⟩ := Option.bind_eq_some_iff.mp stepped
  obtain ⟨served, moved, rfl⟩ := Option.map_eq_some_iff.mp serves
  obtain ⟨server, accepted, -⟩ := Option.map_eq_some_iff.mp moved
  have fresh : net.server.connections.get? id = none := by
    cases step_cases accepted with
    | connect _ _ fresh => exact fresh
    | leave _ _ _ leaves => cases leaves
    | disconnect _ _ _ _ _ leaves => cases leaves
  have unseen := gated.absent id fresh
  have registersNone (other : ConnId) (clientId : String) :
      ¬ Registers packages other clientId net.server (.connect id peer) := by
    rintro ⟨_, _, _, _, same, -⟩
    cases same
  obtain ⟨kept, channels, links, history⟩ :=
    holds.serves (fun _ _ _ _ _ now => absurd now (registersNone _ _)) moved
  have fits : ControlChannel.SoundEvent (clientIds name)
      (served.Proven packages start clientIds name)
      (if reconnects then .reconnectConnects true else .connect) := by
    cases reconnects with
    | true => exact trivial
    | false => exact trivial
  have changed := kept.channel fits (channels ▸ opened)
  -- The new connection has no history, so its link replaces none that has proven itself.
  have noHistory (clientId : String) :
      ¬ RegisteredOn packages start id clientId served.history := by
    rw [history]
    exact fun registered => (happened_snoc holds.ran registered).elim (unseen clientId)
      (registersNone id clientId)
  refine ⟨changed.ran, fun other owner index clientId linked registered => ?_, fun owner => ?_⟩
  · by_cases same : other = id
    · rw [same] at registered
      exact absurd registered (noHistory clientId)
    · exact changed.registered other owner index clientId
        ((Dict.get?_insert_of_ne _ _ same).symm.trans linked) registered
  · refine (changed.sound owner).mono fun index => ?_
    rintro ⟨other, linked, verified⟩
    refine ⟨other, ?_, verified⟩
    by_cases same : other = id
    · rw [same] at verified
      exact absurd verified.registeredOn (noHistory _)
    · exact (Dict.get?_insert_of_ne _ _ same).trans linked

/-- The server reads a message of a client, which registers only that client. -/
theorem SignOnInvariant.received (holds : SignOnInvariant packages start clientIds net)
    {id : ConnId} {choice : Choice}
    (stepped : net.step sign packages payload (.received id choice) = some next) :
    SignOnInvariant packages start clientIds next := by
  simp only [SignOnNet.step] at stepped
  cases linked : net.links.get? id with
  | none =>
    rw [linked] at stepped
    cases stepped
  | some link =>
    obtain ⟨name, index⟩ := link
    cases read : net.nextMessage id with
    | none =>
      rw [linked, read] at stepped
      cases stepped
    | some message =>
      rw [linked, read] at stepped
      obtain ⟨served, moved, answers⟩ := Option.bind_eq_some_iff.mp stepped
      obtain ⟨channel, answered, rfl⟩ := Option.map_eq_some_iff.mp answers
      have own : message.RegistersAs (clientIds name) := holds.registersAs linked read
      have registersOwn (other : ConnId) (owner : Name) (place : Nat) (clientId : String)
          (there : net.links.get? other = some (owner, place))
          (now : Registers packages other clientId net.server (.receive id message choice)) :
          clientId = clientIds owner := by
        obtain ⟨_, _, connection, publicKey, same, accepts⟩ := now
        cases same
        cases linked.symm.trans there
        exact client_of_accepts accepts own
      obtain ⟨kept, channels, links, history⟩ := holds.serves registersOwn moved
      have fits : ControlChannel.SoundEvent (clientIds name)
          (served.Proven packages start clientIds name) (.serverAnswers index []) :=
        fun _ member => absurd member List.not_mem_nil
      exact kept.channel fits (channels ▸ answered)

/-- The server takes any other step, and what it writes to a client goes out to it. -/
theorem SignOnInvariant.server
    (earned : ∀ event id ok text, net.server.written event = some (id, .authResult ok text) →
      ∃ clientId, VerifiedOn packages start id clientId net.history)
    (holds : SignOnInvariant packages start clientIds net)
    (stepped : net.step sign packages payload (.server event) = some next) :
    SignOnInvariant packages start clientIds next := by
  simp only [SignOnNet.step] at stepped
  split at stepped
  · cases stepped
  · rename_i outside
    have quiet := Bool.eq_false_iff.mpr outside
    obtain ⟨served, moved, carried⟩ := Option.bind_eq_some_iff.mp stepped
    obtain ⟨kept, channels, links, history⟩ :=
      holds.serves (fun _ _ _ _ linked now => absurd now (registers_none quiet linked)) moved
    split at carried
    · exact Option.some.inj carried ▸ kept
    · rename_i id message written
      unfold SignOnNet.carry at carried
      split at carried
      · exact Option.some.inj carried ▸ kept
      · rename_i name index linked
        obtain ⟨channel, pushed, rfl⟩ := Option.map_eq_some_iff.mp carried
        have fits : ControlChannel.SoundEvent (clientIds name)
            (served.Proven packages start clientIds name)
            (.serverPushes index ⟨message.messageType, payload message⟩) := by
          intro typed
          obtain ⟨ok, text, rfl⟩ := isAuthResult_of_messageType typed
          obtain ⟨clientId, verified⟩ := earned event id ok text written
          exact kept.proven linked (history ▸ verified.later event)
        exact kept.channel fits pushed

theorem SignOnInvariant.step (gated : Gated packages start net.history net.server)
    (earned : ∀ event id ok text, net.server.written event = some (id, .authResult ok text) →
      ∃ clientId, VerifiedOn packages start id clientId net.history)
    {event : SignOnEvent Name} (own : OwnRegisters net event)
    (holds : SignOnInvariant packages start clientIds net)
    (stepped : net.step sign packages payload event = some next) :
    SignOnInvariant packages start clientIds next := by
  cases event with
  | client name event =>
    simp only [SignOnNet.step] at stepped
    split at stepped
    · cases stepped
    · rename_i alone
      obtain ⟨channel, moved, rfl⟩ := Option.map_eq_some_iff.mp stepped
      refine holds.channel ?_ moved
      cases event with
      | request message expected timed => exact fun typed => absurd typed own
      | send message => exact fun typed => absurd typed own
      | serverAnswers | serverPushes => exact absurd rfl alone
      | _ => exact trivial
  | opens name reconnects id peer => exact holds.opens gated stepped
  | received id choice => exact holds.received stepped
  | server event => exact holds.server earned stepped

/-! ### Every run -/

end

/-! ### A client that signs on -/

end LocalNetwork
