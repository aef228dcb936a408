/-
This file proves what the port strategy "same" of `client/service_consumer.py` gives, over
every sequence of earlier mappings and every set of ports that other processes hold, and that
no two listeners of one protocol share a port.

A TCP and a UDP socket may have the same port, but the only probe is one with a TCP socket. A
UDP service whose port is free for TCP alone is given that port, and its listener fails; one
whose port is taken for TCP alone falls back without need; and the port of the auto range that
is free for TCP need not be free for UDP, though a later one is. A port that is not one raises
before the fallback.

The probe is also stricter than the TCP listener. `asyncio.start_server` sets SO_REUSEADDR and so
binds a port at which connections of a closed listener linger; the probe does not set it and
gives that port up. This is how the port of a service that was mapped, used and unmapped looks
for a while.

The ports of other processes and the lingering connections stay as they are during a call, and
may be any others before the next one. The sockets of listeners are numbered, and so the host of
a consumer knows at which port each is bound; a closed one is released some time after it was
closed.
-/

import LocalNetwork.NetworkManager
import LocalNetwork.ServiceConsumer
import LocalNetwork.Transition

namespace LocalNetwork

/-- A consumer, the ports at which its listening sockets are bound, the ports that are refused
because another process holds them, and the TCP ports at which connections linger that outlived
their listener (in TIME_WAIT, or still open). -/
structure PortHost where
  consumer : ServiceConsumer
  sockets : Dict Nat (Transport × Int)
  others : Transport → Int → Bool
  lingering : Int → Bool

/-- What a call draws, the number of its socket, the port it is given for port 0, another failure of
its listener, and the message to the server. -/
structure PortCall where
  mapId : String
  now : Time
  socket : Nat
  ephemeral : Int
  failure : Option MapException
  notified : Notified

inductive PortEvent where
  | mapService (request : MapRequest) (call : PortCall)
  | unmapService (mapId : String)
  | injectControl (present : Bool)
  | released (socket : Nat)
  | others (held : Transport → Int → Bool)
  | lingering (ports : Int → Bool)

/-- The protocols that have a listener. -/
def transportNamed : String → Option Transport
  | "tcp" => some .tcp
  | "udp" => some .udp
  | _ => none

namespace ServiceConsumer

/-- `unmap_service`, but for the message to the server. -/
def unmapService (consumer : ServiceConsumer) (mapId : String) : ServiceConsumer :=
  if consumer.mapped.contains mapId then
    { consumer with
      mapped := consumer.mapped.erase mapId
      servers := consumer.servers.erase mapId
      udpTransports := consumer.udpTransports.erase mapId }
  else consumer

/-- The listeners of a protocol. -/
def listeners (consumer : ServiceConsumer) : Transport → Dict String Nat
  | .tcp => consumer.servers
  | .udp => consumer.udpTransports

end ServiceConsumer

namespace PortHost

open ServiceConsumer

/-! ### Ports and sockets -/

/-- The listener of a protocol can be bound at a port. A TCP listener has SO_REUSEADDR, so that
lingering connections do not matter. -/
def Bindable (host : PortHost) (transport : Transport) (port : Int) : Prop :=
  (0 < port ∧ port ≤ 65535) ∧ host.others transport port = false ∧
    (transport, port) ∉ host.sockets.values

instance (host : PortHost) (transport : Transport) (port : Int) :
    Decidable (host.Bindable transport port) :=
  inferInstanceAs (Decidable (_ ∧ _ ∧ _))

/-- A TCP socket without SO_REUSEADDR can be bound at a port. -/
def Free (host : PortHost) (port : Int) : Prop :=
  host.Bindable .tcp port ∧ host.lingering port = false

instance (host : PortHost) (port : Int) : Decidable (host.Free port) :=
  inferInstanceAs (Decidable (_ ∧ _))

/-- `_port_is_free`: what the probe of a port finds. Port 0 stands for any port. -/
def probe (host : PortHost) (port : Int) : Bool := decide (port = 0 ∨ host.Free port)

/-- The port a socket gets that is bound at a port. -/
def given (ephemeral port : Int) : Int := if port = 0 then ephemeral else port

/-- Bind a socket at a port. -/
def bind (host : PortHost) (transport : Transport) (ephemeral port : Int) :
    Except MapException Int :=
  if port < 0 ∨ 65535 < port then .error .overflowError
  else if host.Bindable transport (given ephemeral port) then .ok (given ephemeral port)
  else .error (.osError "address already in use")

/-! ### Calls and runs -/

/-- What a consumer sees of its host during a call. -/
def mapCall (host : PortHost) (request : MapRequest) (call : PortCall)
    (listener : Except MapException Nat) : MapCall where
  mapId := call.mapId
  now := call.now
  remoteIsFree := host.probe (request.remotePort.getD 0)
  isFree := host.probe
  listener := listener
  notified := call.notified

/-- The port a call chooses. The choice does not depend on the listener. -/
def chosen (host : PortHost) (request : MapRequest) (call : PortCall) : Except MapException Int :=
  host.consumer.choosePort request (host.mapCall request call (.ok call.socket))

/-- Where the listener of a call is bound, if its protocol has one. -/
def bound (host : PortHost) (request : MapRequest) (call : PortCall) :
    Except MapException (Option (Transport × Int)) :=
  match transportNamed request.protocol with
  | none => .ok none
  | some transport =>
    match call.failure with
    | some exception => .error exception
    | none => ((host.chosen request call).bind (host.bind transport call.ephemeral)).map
        fun port => some (transport, port)

/-- What a call does and returns. -/
def outcome (host : PortHost) (request : MapRequest) (call : PortCall) : MapOutcome :=
  host.consumer.mapService request
    (host.mapCall request call ((host.bound request call).map fun _ => call.socket))

def mapService (host : PortHost) (request : MapRequest) (call : PortCall) : PortHost where
  consumer := (host.outcome request call).consumer
  sockets :=
    match host.bound request call with
    | .ok (some place) => host.sockets.insert call.socket place
    | _ => host.sockets
  others := host.others
  lingering := host.lingering

/-- No listener has a socket. -/
def Closed (host : PortHost) (socket : Nat) : Prop :=
  socket ∉ host.consumer.servers.values ∧ socket ∉ host.consumer.udpTransports.values

instance (host : PortHost) (socket : Nat) : Decidable (host.Closed socket) :=
  inferInstanceAs (Decidable (_ ∧ _))

/-- A call draws an id and a socket that are not in use. -/
def step (host : PortHost) : PortEvent → Option PortHost
  | .mapService request call =>
    if host.consumer.mapped.get? call.mapId = none ∧ host.sockets.get? call.socket = none then
      some (host.mapService request call)
    else none
  | .unmapService mapId => some { host with consumer := host.consumer.unmapService mapId }
  | .injectControl present =>
    some { host with consumer := { host.consumer with hasControl := present } }
  | .released socket =>
    if host.Closed socket then some { host with sockets := host.sockets.erase socket } else none
  | .others held => some { host with others := held }
  | .lingering ports => some { host with lingering := ports }

/-- A new consumer, beside processes that hold some ports and connections that linger at some. -/
def init (hasControl : Bool) (held : Transport → Int → Bool) (ports : Int → Bool) : PortHost where
  consumer := ⟨Dict.empty, Dict.empty, Dict.empty, hasControl⟩
  sockets := Dict.empty
  others := held
  lingering := ports

/-! ### The specification -/

/-- A live mapping: its listener is bound at a port. -/
def ListensAt (host : PortHost) (transport : Transport) (mapId : String) (port : Int) : Prop :=
  ∃ socket, (host.consumer.listeners transport).get? mapId = some socket ∧
    host.sockets.get? socket = some (transport, port)

/-- Every listener belongs to a mapping and is bound at its local port, or at the port it was given
for port 0; and no two listeners of one protocol are bound at the same port. -/
structure PortsApart (host : PortHost) : Prop where
  mapped : ∀ transport mapId socket,
    (host.consumer.listeners transport).get? mapId = some socket →
      ∃ mapped port, host.consumer.mapped.get? mapId = some mapped ∧
        host.ListensAt transport mapId port ∧ (mapped.localPort = port ∨ mapped.localPort = 0)
  apart : ∀ transport first second port, host.ListensAt transport first port →
    host.ListensAt transport second port → first = second

/-- The remote port if it can be bound, else a port of the auto range that can be bound, and a
failure only if there is none. -/
def SamePromise (host : PortHost) (transport : Transport) (remote : Int)
    (returned : Except MapException Int) : Prop :=
  if host.Bindable transport remote then returned = .ok remote
  else (∃ port ∈ autoPorts, host.Bindable transport port ∧ returned = .ok port) ∨
    (∃ exception, returned = .error exception) ∧
      ∀ port ∈ autoPorts, ¬ host.Bindable transport port

/-- The listener has no other failure, and the call is not cancelled while it notifies the
server. -/
def Undisturbed (host : PortHost) (call : PortCall) : Prop :=
  call.failure = none ∧ ¬ (host.consumer.hasControl = true ∧ call.notified = .cancelled)

/-- The first unmapped port of the auto range that the probe finds free. -/
def firstAvailable (host : PortHost) : Option Int :=
  autoPorts.find? (host.consumer.Available host.probe ·)

/-- The probe finds what holds for the listener of the protocol: of the remote port, and where that
cannot be bound, of the first port it accepts in the auto range. -/
def ProbeAgrees (host : PortHost) (transport : Transport) (remote : Int) : Prop :=
  if host.Bindable transport remote then host.Free remote
  else (0 ≤ remote ∧ remote ≤ 65535) ∧ ¬ host.Free remote ∧
    ∃ port, host.firstAvailable = some port ∧ host.Bindable transport port

/-- Nothing can be bound, or the call is undisturbed and the probe agrees with the protocol. -/
def SameSucceeds (host : PortHost) (call : PortCall) (transport : Transport) (remote : Int) :
    Prop :=
  (¬ host.Bindable transport remote ∧ ∀ port ∈ autoPorts, ¬ host.Bindable transport port) ∨
    host.Undisturbed call ∧ host.ProbeAgrees transport remote

variable {host next : PortHost} {request : MapRequest} {call : PortCall} {transport : Transport}
  {remote port : Int}

/-! ### What a call does -/

theorem listeners_same {consumer other : ServiceConsumer}
    (servers : consumer.servers = other.servers)
    (udpTransports : consumer.udpTransports = other.udpTransports) :
    consumer.listeners = other.listeners := by
  funext transport
  cases transport with
  | tcp => exact servers
  | udp => exact udpTransports

/-- Starting the listener of a protocol enters its socket under the id of the mapping. -/
theorem startListener_ok (consumer : ServiceConsumer) (mapped : MappedService)
    (named : transportNamed mapped.protocol = some transport) (socket : Nat) :
    ∃ listening, consumer.startListener mapped (.ok socket) = .ok listening ∧
      listening.mapped = consumer.mapped ∧
      listening.listeners transport =
        (consumer.listeners transport).insert mapped.mapId socket ∧
      ∀ other, other ≠ transport → listening.listeners other = consumer.listeners other := by
  unfold transportNamed at named
  unfold startListener
  split at named
  · rename_i isTcp
    obtain rfl := Option.some.inj named
    rw [if_pos isTcp]
    refine ⟨_, rfl, rfl, rfl, fun other different => ?_⟩
    cases other with
    | tcp => exact absurd rfl different
    | udp => rfl
  · rename_i isUdp
    obtain rfl := Option.some.inj named
    rw [if_neg (by rw [isUdp]; decide), if_pos isUdp]
    refine ⟨_, rfl, rfl, rfl, fun other different => ?_⟩
    cases other with
    | tcp => rfl
    | udp => exact absurd rfl different
  · cases named

theorem startListener_error {consumer : ServiceConsumer} {mapped : MappedService}
    (named : transportNamed mapped.protocol = some transport) (exception : MapException) :
    consumer.startListener mapped (.error exception) = .error exception := by
  unfold transportNamed at named
  unfold startListener
  split at named
  · rename_i isTcp
    rw [if_pos isTcp]
    rfl
  · rename_i isUdp
    rw [if_neg (by rw [isUdp]; decide), if_pos isUdp]
    rfl
  · cases named

theorem startListener_unnamed {consumer : ServiceConsumer} {mapped : MappedService}
    (unnamed : transportNamed mapped.protocol = none) (listener : Except MapException Nat) :
    consumer.startListener mapped listener = .ok consumer := by
  unfold transportNamed at unnamed
  unfold startListener
  split at unnamed
  · cases unnamed
  · cases unnamed
  · rename_i notTcp notUdp
    rw [if_neg notTcp, if_neg notUdp]

/-- A socket is bound at a port that could be bound: the port itself, or one given for port 0. -/
theorem bind_ok {ephemeral place : Int} (binds : host.bind transport ephemeral port = .ok place) :
    host.Bindable transport place ∧ (port = place ∨ port = 0) := by
  unfold bind at binds
  split at binds
  · cases binds
  · split at binds
    · rename_i bindable
      obtain rfl := Except.ok.inj binds
      refine ⟨bindable, ?_⟩
      by_cases zero : port = 0
      · exact .inr zero
      · exact .inl (if_neg zero).symm
    · cases binds

/-- A port other than 0 is bound if and only if it can be bound. -/
theorem bind_of_ne_zero (ephemeral : Int) (nonzero : port ≠ 0) :
    (host.Bindable transport port → host.bind transport ephemeral port = .ok port) ∧
      (¬ host.Bindable transport port →
        ∃ exception, host.bind transport ephemeral port = .error exception) := by
  have same : given ephemeral port = port := if_neg nonzero
  unfold bind
  rw [same]
  constructor
  · intro bindable
    rw [if_neg (by have := bindable.1; omega), if_pos bindable]
  · intro taken
    split
    · exact ⟨_, rfl⟩
    · exact ⟨_, rfl⟩

/-- The consumer of a call once its mapping is entered, with its listener still to be started. -/
def entered (host : PortHost) (request : MapRequest) (call : PortCall) (port : Int) :
    ServiceConsumer :=
  { host.consumer with
    mapped := host.consumer.mapped.insert call.mapId
      (record request (host.mapCall request call (.ok call.socket)) port) }

theorem choosePort_mapCall (host : PortHost) (request : MapRequest) (call : PortCall)
    (listener : Except MapException Nat) :
    host.consumer.choosePort request (host.mapCall request call listener) =
      host.chosen request call := rfl

/-- A call that chooses no port changes nothing. -/
theorem outcome_of_error {exception : MapException}
    (raised : host.chosen request call = .error exception) :
    host.outcome request call = ⟨host.consumer, none, .error exception⟩ := by
  rw [outcome, ServiceConsumer.mapService, choosePort_mapCall, raised]

/-- A call whose listener is not bound leaves its mapping behind. -/
theorem outcome_of_unbound {exception : MapException}
    (named : transportNamed request.protocol = some transport)
    (chose : host.chosen request call = .ok port)
    (raised : host.bound request call = .error exception) :
    host.outcome request call = ⟨host.entered request call port, none, .error exception⟩ := by
  rw [outcome, ServiceConsumer.mapService, choosePort_mapCall, chose, raised]
  dsimp only [mapCall, Except.map]
  rw [startListener_error]
  · rfl
  · exact named

/-- A call whose listener starts, or whose protocol has none, fails only if it is cancelled. -/
theorem outcome_of_started {listening : ServiceConsumer} {place : Option (Transport × Int)}
    (chose : host.chosen request call = .ok port)
    (isBound : host.bound request call = .ok place)
    (started : (host.entered request call port).startListener
      (record request (host.mapCall request call (.ok call.socket)) port) (.ok call.socket) =
        .ok listening) :
    (host.outcome request call).consumer = listening ∧
      (host.outcome request call).returned =
        if host.consumer.hasControl = true ∧ call.notified = .cancelled then
          .error .cancelledError
        else .ok port := by
  rw [outcome, isBound]
  exact mapService_listening chose started

/-- With a port chosen and no other failure, the listener of a protocol is bound as the port is. -/
theorem bound_of_chosen (named : transportNamed request.protocol = some transport)
    (failure : call.failure = none) (chose : host.chosen request call = .ok port) :
    host.bound request call =
      (host.bind transport call.ephemeral port).map fun port => some (transport, port) := by
  rw [bound, named]
  dsimp only
  rw [failure]
  dsimp only
  rw [chose]
  rfl

/-- A listener that is bound is bound at the port that was chosen. -/
theorem bound_ok (named : transportNamed request.protocol = some transport)
    {place : Option (Transport × Int)} (isBound : host.bound request call = .ok place) :
    call.failure = none ∧ ∃ port given, host.chosen request call = .ok port ∧
      host.bind transport call.ephemeral port = .ok given ∧ place = some (transport, given) := by
  cases failure : call.failure with
  | some exception =>
    rw [bound, named] at isBound
    dsimp only at isBound
    rw [failure] at isBound
    cases isBound
  | none =>
    cases choice : host.chosen request call with
    | error exception =>
      rw [bound, named] at isBound
      dsimp only at isBound
      rw [failure, choice] at isBound
      cases isBound
    | ok port =>
      rw [bound_of_chosen named failure choice] at isBound
      cases binds : host.bind transport call.ephemeral port with
      | error exception =>
        rw [binds] at isBound
        cases isBound
      | ok given =>
        rw [binds] at isBound
        exact ⟨rfl, port, given, rfl, binds, (Except.ok.inj isBound).symm⟩

/-- The three courses of a call: no port is chosen and nothing changes; a mapping is entered that
has no listener; or a listener is bound as well. -/
theorem mapService_cases (host : PortHost) (request : MapRequest) (call : PortCall) :
    host.mapService request call = host ∨
      ∃ mapped, (host.mapService request call).consumer.mapped =
          host.consumer.mapped.insert call.mapId mapped ∧
        (((host.mapService request call).consumer.listeners = host.consumer.listeners ∧
            (host.mapService request call).sockets = host.sockets) ∨
          ∃ transport place, host.Bindable transport place ∧
            (mapped.localPort = place ∨ mapped.localPort = 0) ∧
            (host.mapService request call).sockets =
              host.sockets.insert call.socket (transport, place) ∧
            (host.mapService request call).consumer.listeners transport =
              (host.consumer.listeners transport).insert call.mapId call.socket ∧
            ∀ other, other ≠ transport →
              (host.mapService request call).consumer.listeners other =
                host.consumer.listeners other) := by
  cases choice : host.chosen request call with
  | error exception =>
    refine .inl ?_
    rw [mapService, outcome_of_error choice]
    cases isBound : host.bound request call with
    | error exception => rfl
    | ok place =>
      cases named : transportNamed request.protocol with
      | none =>
        rw [bound, named] at isBound
        obtain rfl := Except.ok.inj isBound
        rfl
      | some transport =>
        obtain ⟨-, port, given, chose, -, rfl⟩ := bound_ok named isBound
        cases choice.symm.trans chose
  | ok port =>
    refine .inr ⟨record request (host.mapCall request call (.ok call.socket)) port, ?_⟩
    cases named : transportNamed request.protocol with
    | none =>
      have unbound : host.bound request call = .ok none := by
        rw [bound, named]
      obtain ⟨after, -⟩ := outcome_of_started choice unbound (startListener_unnamed named _)
      rw [mapService, unbound, after]
      exact ⟨rfl, .inl ⟨rfl, rfl⟩⟩
    | some transport =>
      cases isBound : host.bound request call with
      | error exception =>
        rw [mapService, isBound, outcome_of_unbound named choice isBound]
        exact ⟨rfl, .inl ⟨rfl, rfl⟩⟩
      | ok place =>
        obtain ⟨-, chose, given, same, binds, rfl⟩ := bound_ok named isBound
        obtain rfl := Except.ok.inj (choice.symm.trans same)
        obtain ⟨listening, started, mapped, listeners, others⟩ :=
          startListener_ok (host.entered request call port)
            (record request (host.mapCall request call (.ok call.socket)) port) named call.socket
        obtain ⟨after, -⟩ := outcome_of_started choice isBound started
        rw [mapService, isBound, after]
        obtain ⟨bindable, localPort⟩ := bind_ok binds
        exact ⟨mapped, .inr ⟨transport, given, bindable, localPort, rfl, listeners, others⟩⟩

/-! ### The invariant of the sockets -/

/-- Every listener belongs to a mapping and has a socket of its own, and no two sockets are bound at
one place. -/
structure Sound (host : PortHost) : Prop where
  bound : ∀ transport mapId socket,
    (host.consumer.listeners transport).get? mapId = some socket →
      ∃ mapped port, host.consumer.mapped.get? mapId = some mapped ∧
        host.sockets.get? socket = some (transport, port) ∧
          (mapped.localPort = port ∨ mapped.localPort = 0)
  single : ∀ transport, (host.consumer.listeners transport).OneKeyEach
  distinct : host.sockets.OneKeyEach

theorem portsApart_of_sound (sound : Sound host) : host.PortsApart where
  mapped transport mapId socket found := by
    obtain ⟨mapped, port, isMapped, bound, same⟩ := sound.bound transport mapId socket found
    exact ⟨mapped, port, isMapped, ⟨socket, found, bound⟩, same⟩
  apart := by
    rintro transport first second port ⟨socket, found, bound⟩ ⟨other, otherFound, otherBound⟩
    obtain rfl := sound.distinct socket other (transport, port) bound otherBound
    exact sound.single transport first second socket found otherFound

theorem sound_init (hasControl : Bool) (held : Transport → Int → Bool) (ports : Int → Bool) :
    Sound (init hasControl held ports) where
  bound transport mapId socket found := by
    cases transport with
    | tcp => cases found
    | udp => cases found
  single transport := by
    cases transport with
    | tcp => exact Dict.oneKeyEach_empty
    | udp => exact Dict.oneKeyEach_empty
  distinct := Dict.oneKeyEach_empty

/-- The invariant is about the mappings, the listeners and the sockets alone. -/
theorem sound_of_same (sound : Sound host)
    (mapped : next.consumer.mapped = host.consumer.mapped)
    (listeners : next.consumer.listeners = host.consumer.listeners)
    (sockets : next.sockets = host.sockets) : Sound next where
  bound := by
    rw [mapped, listeners, sockets]
    exact sound.bound
  single := by
    rw [listeners]
    exact sound.single
  distinct := by
    rw [sockets]
    exact sound.distinct

/-- An id and a socket that are not in use are those of no listener. -/
theorem listener_ne (sound : Sound host) (freshId : host.consumer.mapped.get? call.mapId = none)
    (freshSocket : host.sockets.get? call.socket = none) {mapId : String} {socket : Nat}
    (found : (host.consumer.listeners transport).get? mapId = some socket) :
    mapId ≠ call.mapId ∧ socket ≠ call.socket := by
  obtain ⟨mapped, port, isMapped, isBound, -⟩ := sound.bound transport mapId socket found
  constructor
  · rintro rfl
    cases freshId.symm.trans isMapped
  · rintro rfl
    cases freshSocket.symm.trans isBound

theorem sound_mapService (sound : Sound host)
    (freshId : host.consumer.mapped.get? call.mapId = none)
    (freshSocket : host.sockets.get? call.socket = none) :
    Sound (host.mapService request call) := by
  rcases mapService_cases host request call with
    unchanged | ⟨mapped, entered, ⟨listeners, sockets⟩ |
      ⟨transport, place, bindable, localPort, sockets, listening, others⟩⟩
  · rw [unchanged]
    exact sound
  · refine ⟨fun transport mapId socket found => ?_, ?_, ?_⟩
    · rw [listeners] at found
      have fresh := listener_ne sound freshId freshSocket found
      rw [entered, sockets, Dict.get?_insert_of_ne _ _ fresh.1]
      exact sound.bound transport mapId socket found
    · rw [listeners]
      exact sound.single
    · rw [sockets]
      exact sound.distinct
  · refine ⟨fun other mapId socket found => ?_, fun other => ?_, ?_⟩
    · rw [entered, sockets]
      by_cases isNew : other = transport ∧ mapId = call.mapId
      · obtain ⟨rfl, rfl⟩ := isNew
        rw [listening, Dict.get?_insert_self] at found
        obtain rfl := Option.some.inj found
        exact ⟨mapped, place, Dict.get?_insert_self _ _ _, Dict.get?_insert_self _ _ _, localPort⟩
      · have old : (host.consumer.listeners other).get? mapId = some socket := by
          by_cases same : other = transport
          · subst same
            rwa [listening, Dict.get?_insert_of_ne _ _ fun isId => isNew ⟨rfl, isId⟩] at found
          · rwa [others other same] at found
        have fresh := listener_ne sound freshId freshSocket old
        rw [Dict.get?_insert_of_ne _ _ fresh.1, Dict.get?_insert_of_ne _ _ fresh.2]
        exact sound.bound other mapId socket old
    · by_cases same : other = transport
      · subst same
        rw [listening]
        refine (sound.single other).insert fun used => ?_
        obtain ⟨mapId, found⟩ := Dict.mem_values_iff.mp used
        exact (listener_ne sound freshId freshSocket found).2 rfl
      · rw [others other same]
        exact sound.single other
    · rw [sockets]
      exact sound.distinct.insert bindable.2.2

theorem listeners_unmapService {consumer : ServiceConsumer} {mapId : String}
    (present : consumer.mapped.contains mapId = true) (transport : Transport) :
    (consumer.unmapService mapId).listeners transport =
      (consumer.listeners transport).erase mapId := by
  rw [unmapService, if_pos present]
  cases transport with
  | tcp => rfl
  | udp => rfl

theorem sound_unmapService (sound : Sound host) (mapId : String) :
    Sound { host with consumer := host.consumer.unmapService mapId } := by
  by_cases present : host.consumer.mapped.contains mapId = true
  · have listeners := listeners_unmapService present
    refine ⟨fun transport other socket found => ?_, fun transport => ?_, sound.distinct⟩
    · rw [listeners, Dict.get?_erase] at found
      split at found
      · cases found
      · rename_i different
        rw [unmapService, if_pos present]
        dsimp only
        rw [Dict.get?_erase_of_ne _ different]
        exact sound.bound transport other socket found
    · rw [listeners]
      exact (sound.single transport).erase mapId
  · rw [unmapService, if_neg present]
    exact sound

/-- A socket that no listener has is not one that a listener needs. -/
theorem sound_released (sound : Sound host) {socket : Nat} (closed : host.Closed socket) :
    Sound { host with sockets := host.sockets.erase socket } where
  bound transport mapId other found := by
    have different : other ≠ socket := by
      rintro rfl
      cases transport with
      | tcp => exact closed.1 (Dict.mem_values_iff.mpr ⟨mapId, found⟩)
      | udp => exact closed.2 (Dict.mem_values_iff.mpr ⟨mapId, found⟩)
    rw [Dict.get?_erase_of_ne _ different]
    exact sound.bound transport mapId other found
  single := sound.single
  distinct := sound.distinct.erase socket

theorem sound_step {event : PortEvent} (sound : Sound host)
    (stepped : host.step event = some next) : Sound next := by
  cases event with
  | mapService request call =>
    rw [step] at stepped
    split at stepped
    · rename_i fresh
      obtain rfl := Option.some.inj stepped
      exact sound_mapService sound fresh.1 fresh.2
    · cases stepped
  | unmapService mapId =>
    obtain rfl := Option.some.inj stepped
    exact sound_unmapService sound mapId
  | injectControl present =>
    obtain rfl := Option.some.inj stepped
    exact sound_of_same sound rfl (listeners_same rfl rfl) rfl
  | released socket =>
    rw [step] at stepped
    split at stepped
    · rename_i closed
      obtain rfl := Option.some.inj stepped
      exact sound_released sound closed
    · cases stepped
  | others held =>
    obtain rfl := Option.some.inj stepped
    exact sound_of_same sound rfl rfl rfl
  | lingering ports =>
    obtain rfl := Option.some.inj stepped
    exact sound_of_same sound rfl rfl rfl

theorem sound_run {hasControl : Bool} {held : Transport → Int → Bool} {ports : Int → Bool}
    {events : List PortEvent}
    (ran : runFrom step (init hasControl held ports) events = some host) : Sound host :=
  run_invariant (fun _ _ _ _ sound stepped => sound_step sound stepped)
    (sound_init hasControl held ports) (holdsAlong_true events _) ran

/-! ### What a call returns -/

theorem mem_autoPorts : port ∈ autoPorts ↔ 50000 ≤ port ∧ port ≤ 50999 := by
  simp only [autoPorts, autoPortStart, autoPortEnd, List.mem_map, List.bind_eq_flatMap,
    List.mem_flatMap, List.mem_range'_1, List.pure_def, List.mem_singleton]
  constructor
  · rintro ⟨_, ⟨number, inside, rfl⟩, rfl⟩
    omega
  · intro inside
    exact ⟨port, ⟨port.toNat, by omega, by omega⟩, rfl⟩

/-- The first available port is a port of the auto range and free. -/
theorem firstAvailable_some (found : host.firstAvailable = some port) :
    port ∈ autoPorts ∧ host.Free port := by
  have member := List.mem_of_find?_eq_some found
  have accepted := List.find?_some found
  have available : host.consumer.Available host.probe port := of_decide_eq_true accepted
  have free : port = 0 ∨ host.Free port := of_decide_eq_true available.2
  have inside := mem_autoPorts.mp member
  exact ⟨member, free.resolve_left (by omega)⟩

/-- The strategy chooses the remote port if it is free, and else the first available port; a remote
port that is not a port it refuses. -/
theorem chosen_ok_iff (strategy : request.strategy = "same")
    (remotePort : request.remotePort = some remote) :
    host.chosen request call = .ok port ↔ (0 ≤ remote ∧ remote ≤ 65535) ∧
      if host.Free remote then remote = port else host.firstAvailable = some port := by
  have auto : host.consumer.findAutoPort host.probe = .ok port ↔
      host.firstAvailable = some port := by
    have first : autoPorts.find? (host.consumer.Available host.probe ·) =
        host.firstAvailable := rfl
    rw [findAutoPort, first]
    cases host.firstAvailable with
    | some first => simp
    | none => simp
  have free : (host.mapCall request call (.ok call.socket)).remoteIsFree = host.probe remote := by
    rw [mapCall, remotePort]
    rfl
  rw [chosen, choosePort, if_neg (by rw [strategy]; decide), if_pos strategy, remotePort,
    findSamePort_some, free]
  by_cases outside : remote < 0 ∨ 65535 < remote
  · rw [if_pos outside]
    refine iff_of_false nofun fun inside => ?_
    omega
  · rw [if_neg outside, and_iff_right (by omega)]
    dsimp only
    by_cases free : host.Free remote
    · have positive := free.1.1.1
      have isFree : host.probe remote = true := decide_eq_true (.inr free)
      rw [if_pos free, if_pos isFree, Option.getD_some, if_pos (by omega), Except.ok.injEq]
    · have none : (if host.probe remote = true then some remote else none).getD 0 = 0 := by
        split
        · rename_i isFree
          exact (of_decide_eq_true isFree).resolve_right free
        · rfl
      rw [if_neg free, none, if_neg (by simp)]
      exact auto

/-- A call returns the port it chose if the listener can be bound there and nothing disturbs it,
and returns no other port. -/
theorem returned_ok_iff (named : transportNamed request.protocol = some transport)
    (nonzero : port ≠ 0) :
    (host.outcome request call).returned = .ok port ↔
      host.chosen request call = .ok port ∧ host.Undisturbed call ∧
        host.Bindable transport port := by
  cases choice : host.chosen request call with
  | error exception =>
    rw [outcome_of_error choice]
    exact iff_of_false nofun fun holds => nomatch holds.1
  | ok chose =>
    cases isBound : host.bound request call with
    | error exception =>
      rw [outcome_of_unbound named choice isBound]
      refine iff_of_false nofun ?_
      rintro ⟨same, undisturbed, bindable⟩
      obtain rfl := Except.ok.inj same
      rw [bound_of_chosen named undisturbed.1 choice,
        (bind_of_ne_zero call.ephemeral nonzero).1 bindable] at isBound
      cases isBound
    | ok place =>
      obtain ⟨failure, other, given, same, binds, rfl⟩ := bound_ok named isBound
      obtain rfl := Except.ok.inj (choice.symm.trans same)
      obtain ⟨listening, started, -⟩ :=
        startListener_ok (host.entered request call chose)
          (record request (host.mapCall request call (.ok call.socket)) chose) named call.socket
      rw [(outcome_of_started choice isBound started).2]
      by_cases cancelled : host.consumer.hasControl = true ∧ call.notified = .cancelled
      · rw [if_pos cancelled]
        exact iff_of_false nofun fun holds => holds.2.1.2 cancelled
      · rw [if_neg cancelled]
        refine (and_iff_left_of_imp fun same => ⟨⟨failure, cancelled⟩, ?_⟩).symm
        obtain rfl := Except.ok.inj same
        by_contra taken
        obtain ⟨exception, raised⟩ := (bind_of_ne_zero call.ephemeral nonzero).2 taken
        cases binds.symm.trans raised

/-- A call returns no other port than the one it chose. -/
theorem chosen_of_returned (returned : (host.outcome request call).returned = .ok port) :
    host.chosen request call = .ok port := by
  cases choice : host.chosen request call with
  | error exception =>
    rw [outcome_of_error choice] at returned
    cases returned
  | ok chose =>
    rw [outcome, ServiceConsumer.mapService, choosePort_mapCall, choice] at returned
    dsimp only at returned
    split at returned
    · cases returned
    · split at returned
      · split at returned
        · cases returned
        · exact returned
      · exact returned

/-- What the strategy returns, by what it chose. -/
theorem same_returned_iff (named : transportNamed request.protocol = some transport)
    (strategy : request.strategy = "same") (remotePort : request.remotePort = some remote) :
    (host.outcome request call).returned = .ok port ↔
      (host.Undisturbed call ∧ host.Bindable transport port) ∧ (0 ≤ remote ∧ remote ≤ 65535) ∧
        if host.Free remote then remote = port else host.firstAvailable = some port := by
  rw [← chosen_ok_iff strategy remotePort]
  have nonzero (choice : host.chosen request call = .ok port) : port ≠ 0 := by
    have chose := ((chosen_ok_iff strategy remotePort).mp choice).2
    split at chose
    · rename_i free
      have positive := free.1.1.1
      omega
    · have inside := mem_autoPorts.mp (firstAvailable_some chose).1
      omega
  constructor
  · intro returned
    have choice := chosen_of_returned returned
    exact ⟨((returned_ok_iff named (nonzero choice)).mp returned).2, choice⟩
  · rintro ⟨binds, choice⟩
    exact (returned_ok_iff named (nonzero choice)).mpr ⟨choice, binds⟩

/-- The promise is kept if and only if nothing can be bound, or the call is undisturbed and the
probe agrees with the listener. -/
theorem samePromise_iff (named : transportNamed request.protocol = some transport)
    (strategy : request.strategy = "same") (remotePort : request.remotePort = some remote) :
    host.SamePromise transport remote (host.outcome request call).returned ↔
      host.SameSucceeds call transport remote := by
  unfold SamePromise SameSucceeds ProbeAgrees
  by_cases bindable : host.Bindable transport remote
  · have inside : 0 ≤ remote ∧ remote ≤ 65535 := ⟨bindable.1.1.le, bindable.1.2⟩
    rw [if_pos bindable, if_pos bindable, same_returned_iff named strategy remotePort,
      and_iff_left bindable, and_iff_right inside,
      or_iff_right fun nothing => nothing.1 bindable]
    refine and_congr_right fun _ => ?_
    by_cases free : host.Free remote
    · simp [free]
    · rw [if_neg free]
      exact iff_of_false (fun found => free (firstAvailable_some found).2) free
  · rw [if_neg bindable, if_neg bindable, and_iff_right bindable]
    by_cases nothing : ∀ port ∈ autoPorts, ¬ host.Bindable transport port
    · refine iff_of_true (.inr ⟨?_, nothing⟩) (.inl nothing)
      cases returned : (host.outcome request call).returned with
      | error exception => exact ⟨exception, rfl⟩
      | ok port =>
        obtain ⟨⟨-, isBindable⟩, -, choice⟩ :=
          (same_returned_iff named strategy remotePort).mp returned
        split at choice
        · exact absurd (choice ▸ isBindable) bindable
        · exact absurd isBindable (nothing port (firstAvailable_some choice).1)
    · rw [or_iff_left fun fails => nothing fails.2, or_iff_right nothing]
      constructor
      · rintro ⟨port, inRange, isBindable, returned⟩
        obtain ⟨⟨undisturbed, -⟩, inside, choice⟩ :=
          (same_returned_iff named strategy remotePort).mp returned
        split at choice
        · exact absurd (choice ▸ isBindable) bindable
        · rename_i taken
          exact ⟨undisturbed, inside, taken, port, choice, isBindable⟩
      · rintro ⟨undisturbed, inside, taken, port, found, isBindable⟩
        refine ⟨port, (firstAvailable_some found).1, isBindable, ?_⟩
        refine (same_returned_iff named strategy remotePort).mpr ?_
        rw [if_neg taken]
        exact ⟨⟨undisturbed, isBindable⟩, inside, found⟩

/-- For every set of ports that other processes hold, every set at which connections linger and
every sequence of calls, unmappings and changes of these sets: the listeners keep their ports
apart, and a next call with the strategy returns the remote port, or falls back, as it promises if
and only if nothing can be bound, or the call is undisturbed and the probe agrees with the
listener of the protocol. -/
theorem samePort_iff (hasControl : Bool) (held : Transport → Int → Bool) (ports : Int → Bool)
    (events : List PortEvent) {host : PortHost}
    (ran : runFrom step (init hasControl held ports) events = some host) :
    host.PortsApart ∧
      ∀ request call transport remote, transportNamed request.protocol = some transport →
        request.strategy = "same" → request.remotePort = some remote →
          (host.SamePromise transport remote (host.outcome request call).returned ↔
            host.SameSucceeds call transport remote) :=
  ⟨portsApart_of_sound (sound_run ran), fun _ _ _ _ named strategy remotePort =>
    samePromise_iff named strategy remotePort⟩

/-- A service of a protocol and a port, mapped with the strategy. -/
def sameRequest (protocol : String) (remote : Int) : MapRequest :=
  ⟨"5a1c7d9e", "bob", "game", protocol, none, "same", some remote⟩

def sameCall (mapId : String) (socket : Nat) : PortCall :=
  ⟨mapId, 100, socket, 40000, none, .sent⟩

/-- A consumer that has mapped a TCP service to its own port. -/
def mappedOnce : PortHost :=
  (init false (fun _ _ => false) fun _ => false).mapService (sameRequest "tcp" 25565)
    (sameCall "9e8d7c6b" 7)

theorem samePort_iff_second :
    mappedOnce.PortsApart ∧
      mappedOnce.SamePromise .tcp 25565
        (mappedOnce.outcome (sameRequest "tcp" 25565) (sameCall "1f2e3d4c" 8)).returned := by
  have ran : runFrom step (init false (fun _ _ => false) fun _ => false)
      [.mapService (sameRequest "tcp" 25565) (sameCall "9e8d7c6b" 7)] = some mappedOnce := rfl
  have both := samePort_iff false (fun _ _ => false) (fun _ => false) _ ran
  refine ⟨both.1, ?_⟩
  refine (both.2 (sameRequest "tcp" 25565) (sameCall "1f2e3d4c" 8) .tcp 25565 rfl rfl rfl).mpr ?_
  refine .inr ⟨⟨rfl, by decide⟩, ?_⟩
  rw [ProbeAgrees, if_neg (by decide)]
  exact ⟨by decide, by decide, 50000, rfl, by decide⟩

-- The same service again after its first mapping was used and unmapped: its port can be bound,
-- and the probe gives it up.
example : ((runFrom step mappedOnce [.unmapService "9e8d7c6b", .released 7,
    .lingering fun port => port = 25565]).map fun host =>
      ((host.outcome (sameRequest "tcp" 25565) (sameCall "1f2e3d4c" 8)).returned.toOption,
        decide (host.Bindable .tcp 25565))) = some (some 50000, true) := rfl

/-- Port 5353 is held by another process, for UDP alone. -/
def heldForUdp : PortHost :=
  init false (fun transport port => transport = .udp ∧ port = 5353) fun _ => false

/-- The call fails, though every port of the auto range can be bound. -/
theorem samePort_counterexample :
    (heldForUdp.outcome (sameRequest "udp" 5353) (sameCall "9e8d7c6b" 7)).returned =
      .error (.osError "address already in use") ∧
    ¬ heldForUdp.SamePromise .udp 5353
      (heldForUdp.outcome (sameRequest "udp" 5353) (sameCall "9e8d7c6b" 7)).returned := by
  have raised : (heldForUdp.outcome (sameRequest "udp" 5353) (sameCall "9e8d7c6b" 7)).returned =
      .error (.osError "address already in use") := rfl
  refine ⟨raised, ?_⟩
  rw [raised, SamePromise, if_neg (by decide)]
  rintro (⟨port, -, -, returned⟩ | ⟨-, nothing⟩)
  · cases returned
  · exact nothing 50000 (by decide) (by decide)

end PortHost

end LocalNetwork
