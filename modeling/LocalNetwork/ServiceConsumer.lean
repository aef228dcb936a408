/-
This file models `ServiceConsumer.map_service` of `client/service_consumer.py`: the choice of
a local port, the record, the listener and the notification of the server.

The record is entered before the listener is started, and nothing takes it out again. A call
that raises once it has a port therefore leaves a mapping behind; so does, with its listener, a
call that is cancelled while it notifies the server. A protocol that is neither TCP nor UDP
gets a mapping without a listener.

What the operating system and the control channel do during a call is given with it. An
`OverflowError` is what a socket raises for a port that is not one.
-/

import LocalNetwork.Basic
import LocalNetwork.Dict

namespace LocalNetwork

/-- A locally-mapped remote service. -/
structure MappedService where
  mapId : String
  serviceId : String
  serviceName : String
  protocol : String
  providerId : String
  localPort : Int
  strategy : String
  remotePort : Option Int
  createdAt : Time
  deriving DecidableEq

/-- A listener is named by a number. -/
structure ServiceConsumer where
  mapped : Dict String MappedService
  servers : Dict String Nat
  udpTransports : Dict String Nat
  hasControl : Bool

/-- The arguments of `map_service`. -/
structure MapRequest where
  serviceId : String
  providerId : String
  serviceName : String
  protocol : String
  localPort : Option Int
  strategy : String
  remotePort : Option Int

/-- What `map_service` raises. -/
inductive MapException where
  | valueError (text : String)
  | osError (text : String)
  | overflowError
  | cancelledError
  deriving DecidableEq

/-- What becomes of the message to the server: every `Exception` of sending it is swallowed, but
that the call was cancelled is not one. -/
inductive Notified where
  | sent
  | failed
  | cancelled
  deriving DecidableEq

/-- What is outside during a call: the id and the time it draws, what the probes of the remote port
and of the ports of the auto range find, the listener it starts or what starting it raises, and the
message to the server. -/
structure MapCall where
  mapId : String
  now : Time
  remoteIsFree : Bool
  isFree : Int → Bool
  listener : Except MapException Nat
  notified : Notified

/-- The message of the dataclass `MapService`. -/
structure MapServiceMessage where
  serviceId : String
  localPort : Int
  strategy : String
  deriving DecidableEq

/-- A consumer after a call, the message it tried to send, and what it returned or raised. -/
structure MapOutcome where
  consumer : ServiceConsumer
  message : Option MapServiceMessage
  returned : Except MapException Int

namespace ServiceConsumer

def autoPortStart : Nat := 50000
def autoPortEnd : Nat := 50999

/-- The ports of the auto range, in order. -/
def autoPorts : List Int :=
  (List.range' autoPortStart (autoPortEnd + 1 - autoPortStart)).map fun port => (port : Int)

def listMapped (consumer : ServiceConsumer) : List MappedService := consumer.mapped.values

/-! ### The choice of a port -/

/-- `_port_is_free`, which probes with a TCP socket whatever the protocol is. -/
def portIsFree (isFree : Bool) (port : Int) : Except MapException Bool :=
  if port < 0 ∨ 65535 < port then .error .overflowError else .ok isFree

/-- A port of the auto range that is not mapped and that can be bound. -/
def Available (consumer : ServiceConsumer) (isFree : Int → Bool) (port : Int) : Prop :=
  port ∉ consumer.listMapped.map MappedService.localPort ∧ isFree port = true

instance (consumer : ServiceConsumer) (isFree : Int → Bool) (port : Int) :
    Decidable (consumer.Available isFree port) :=
  inferInstanceAs (Decidable (_ ∧ _))

/-- The ports of the range are ports, so the probe of one does not raise. -/
def findAutoPort (consumer : ServiceConsumer) (isFree : Int → Bool) : Except MapException Int :=
  match autoPorts.find? (consumer.Available isFree ·) with
  | some port => .ok port
  | none => .error (.osError "no free ports in auto range")

def findSamePort (isFree : Bool) : Option Int → Except MapException (Option Int)
  | none => .ok none
  | some port => (portIsFree isFree port).map fun free => if free then some port else none

/-- The first part of `map_service`. Port 0 counts as none where the strategy falls back. -/
def choosePort (consumer : ServiceConsumer) (request : MapRequest) (call : MapCall) :
    Except MapException Int :=
  if request.strategy = "manual" then
    match request.localPort with
    | none => .error (.valueError "manual strategy requires local_port")
    | some port => .ok port
  else if request.strategy = "same" then
    match findSamePort call.remoteIsFree request.remotePort with
    | .error exception => .error exception
    | .ok same =>
      if same.getD 0 ≠ 0 then .ok (same.getD 0) else consumer.findAutoPort call.isFree
  else if request.strategy = "auto" then consumer.findAutoPort call.isFree
  else .error (.valueError s!"unknown port strategy: {request.strategy}")

/-! ### Mapping a service -/

/-- The record of a call. -/
def record (request : MapRequest) (call : MapCall) (port : Int) : MappedService where
  mapId := call.mapId
  serviceId := request.serviceId
  serviceName := request.serviceName
  protocol := request.protocol
  providerId := request.providerId
  localPort := port
  strategy := request.strategy
  remotePort := request.remotePort
  createdAt := call.now

/-- `_start_tcp_listener` and `_start_udp_listener`, by the protocol of the record. -/
def startListener (consumer : ServiceConsumer) (mapped : MappedService)
    (listener : Except MapException Nat) : Except MapException ServiceConsumer :=
  if mapped.protocol = "tcp" then
    listener.map fun server =>
      { consumer with servers := consumer.servers.insert mapped.mapId server }
  else if mapped.protocol = "udp" then
    listener.map fun transport =>
      { consumer with udpTransports := consumer.udpTransports.insert mapped.mapId transport }
  else .ok consumer

def mapService (consumer : ServiceConsumer) (request : MapRequest) (call : MapCall) :
    MapOutcome :=
  match consumer.choosePort request call with
  | .error exception => ⟨consumer, none, .error exception⟩
  | .ok port =>
    let mapped := record request call port
    let entered := { consumer with mapped := consumer.mapped.insert call.mapId mapped }
    match entered.startListener mapped call.listener with
    | .error exception => ⟨entered, none, .error exception⟩
    | .ok listening =>
      if consumer.hasControl then
        let message := some ⟨request.serviceId, port, request.strategy⟩
        if call.notified = .cancelled then ⟨listening, message, .error .cancelledError⟩
        else ⟨listening, message, .ok port⟩
      else ⟨listening, none, .ok port⟩

/-! ### Calls that map or change nothing -/

/-- A mapping has a listener of its protocol. -/
def HasListener (consumer : ServiceConsumer) (mapped : MappedService) : Prop :=
  (mapped.protocol = "tcp" ∧ consumer.servers.contains mapped.mapId = true) ∨
    (mapped.protocol = "udp" ∧ consumer.udpTransports.contains mapped.mapId = true)

/-- A call that raises changes nothing, and one that returns a port adds one mapping to it, which
has a listener. -/
def Atomic (consumer : ServiceConsumer) (outcome : MapOutcome) : Prop :=
  match outcome.returned with
  | .error _ => outcome.consumer.listMapped = consumer.listMapped ∧
      outcome.consumer.servers = consumer.servers ∧
        outcome.consumer.udpTransports = consumer.udpTransports
  | .ok port => ∃ mapped, outcome.consumer.listMapped = consumer.listMapped ++ [mapped] ∧
      mapped.localPort = port ∧ outcome.consumer.HasListener mapped

/-- No port of the auto range is available. -/
def Exhausted (consumer : ServiceConsumer) (isFree : Int → Bool) : Prop :=
  ∀ port ∈ autoPorts, ¬ consumer.Available isFree port

/-- No port can be chosen. -/
def NoPort (consumer : ServiceConsumer) (request : MapRequest) (call : MapCall) : Prop :=
  if request.strategy = "manual" then request.localPort = none
  else if request.strategy = "same" then
    match request.remotePort with
    | none => consumer.Exhausted call.isFree
    | some port => (port < 0 ∨ 65535 < port) ∨
        (port = 0 ∨ call.remoteIsFree = false) ∧ consumer.Exhausted call.isFree
  else if request.strategy = "auto" then consumer.Exhausted call.isFree
  else True

/-- The listener of a protocol starts, and the call is not cancelled after that. -/
structure Completes (consumer : ServiceConsumer) (request : MapRequest) (call : MapCall) :
    Prop where
  protocol : request.protocol = "tcp" ∨ request.protocol = "udp"
  listener : ∃ socket, call.listener = .ok socket
  notified : consumer.hasControl = true → call.notified ≠ .cancelled

variable {consumer : ServiceConsumer} {request : MapRequest} {call : MapCall}

/-- `_find_auto_port` raises if and only if the range is exhausted. -/
theorem findAutoPort_raises_iff {isFree : Int → Bool} :
    (∃ exception, consumer.findAutoPort isFree = .error exception) ↔
      consumer.Exhausted isFree := by
  unfold findAutoPort Exhausted
  cases found : autoPorts.find? (consumer.Available isFree ·) with
  | some port =>
    refine iff_of_false nofun fun exhausted => ?_
    have available := List.find?_some found
    exact exhausted port (List.mem_of_find?_eq_some found) (of_decide_eq_true available)
  | none =>
    refine iff_of_true ⟨_, rfl⟩ fun port member => ?_
    exact fun available => List.find?_eq_none.mp found port member (decide_eq_true available)

theorem findSamePort_some (isFree : Bool) (port : Int) :
    findSamePort isFree (some port) =
      if port < 0 ∨ 65535 < port then .error .overflowError
      else .ok (if isFree then some port else none) := by
  rw [findSamePort, portIsFree]
  split
  · rfl
  · rfl

/-- Choosing a port raises if and only if no port can be chosen. -/
theorem choosePort_raises_iff :
    (∃ exception, consumer.choosePort request call = .error exception) ↔
      consumer.NoPort request call := by
  unfold choosePort NoPort
  split
  · cases request.localPort with
    | none => exact iff_of_true ⟨_, rfl⟩ rfl
    | some port => exact iff_of_false nofun nofun
  · split
    · cases request.remotePort with
      | none => exact findAutoPort_raises_iff
      | some port =>
        rw [findSamePort_some]
        dsimp only
        by_cases outside : port < 0 ∨ 65535 < port
        · rw [if_pos outside]
          exact iff_of_true ⟨_, rfl⟩ (Or.inl outside)
        · rw [if_neg outside, or_iff_right outside]
          cases free : call.remoteIsFree with
          | false => simpa using findAutoPort_raises_iff
          | true =>
            by_cases zero : port = 0
            · simpa [zero] using findAutoPort_raises_iff
            · simp [zero]
    · split
      · exact findAutoPort_raises_iff
      · exact iff_of_true ⟨_, rfl⟩ trivial

/-- Starting a listener does what the listener does, or nothing if the protocol has none. -/
theorem startListener_cases (consumer : ServiceConsumer) (mapped : MappedService)
    (listener : Except MapException Nat) :
    ((∃ exception, listener = .error exception ∧
        consumer.startListener mapped listener = .error exception) ∨
      ((mapped.protocol = "tcp" ∨ mapped.protocol = "udp") ∧ (∃ socket, listener = .ok socket) ∧
        ∃ listening, consumer.startListener mapped listener = .ok listening ∧
          listening.mapped = consumer.mapped ∧ listening.HasListener mapped)) ∨
      (¬ (mapped.protocol = "tcp" ∨ mapped.protocol = "udp") ∧
        consumer.startListener mapped listener = .ok consumer) := by
  unfold startListener
  by_cases tcp : mapped.protocol = "tcp"
  · rw [if_pos tcp]
    cases listener with
    | error exception => exact Or.inl (Or.inl ⟨exception, rfl, rfl⟩)
    | ok server =>
      refine Or.inl (Or.inr ⟨Or.inl tcp, ⟨server, rfl⟩, _, rfl, rfl, Or.inl ⟨tcp, ?_⟩⟩)
      rw [Dict.contains, Dict.get?_insert_self]
      rfl
  · rw [if_neg tcp]
    by_cases udp : mapped.protocol = "udp"
    · rw [if_pos udp]
      cases listener with
      | error exception => exact Or.inl (Or.inl ⟨exception, rfl, rfl⟩)
      | ok transport =>
        refine Or.inl (Or.inr ⟨Or.inr udp, ⟨transport, rfl⟩, _, rfl, rfl, Or.inr ⟨udp, ?_⟩⟩)
        rw [Dict.contains, Dict.get?_insert_self]
        rfl
    · rw [if_neg udp]
      exact Or.inr ⟨not_or.mpr ⟨tcp, udp⟩, rfl⟩

/-- A listener that does not start leaves the mapping behind. -/
theorem mapService_failed {port : Int} {exception : MapException}
    (chosen : consumer.choosePort request call = .ok port)
    (failed : startListener
      { consumer with mapped := consumer.mapped.insert call.mapId (record request call port) }
      (record request call port) call.listener = .error exception) :
    (consumer.mapService request call).consumer.mapped =
        consumer.mapped.insert call.mapId (record request call port) ∧
      (consumer.mapService request call).returned = .error exception := by
  unfold mapService
  rw [chosen]
  dsimp only
  rw [failed]
  exact ⟨rfl, rfl⟩

/-- With a listener, or without one for a protocol that has none, only a cancellation raises. -/
theorem mapService_listening {port : Int} {listening : ServiceConsumer}
    (chosen : consumer.choosePort request call = .ok port)
    (started : startListener
      { consumer with mapped := consumer.mapped.insert call.mapId (record request call port) }
      (record request call port) call.listener = .ok listening) :
    (consumer.mapService request call).consumer = listening ∧
      (consumer.mapService request call).returned =
        if consumer.hasControl = true ∧ call.notified = .cancelled then .error .cancelledError
        else .ok port := by
  unfold mapService
  rw [chosen]
  dsimp only
  rw [started]
  dsimp only
  by_cases control : consumer.hasControl = true
  · by_cases cancelled : call.notified = .cancelled
    · simp [control, cancelled]
    · simp [control, cancelled]
  · simp [control]

/-- A new mapping goes to the end of the list. -/
theorem listMapped_insert (fresh : consumer.mapped.get? call.mapId = none)
    {after : ServiceConsumer} {mapped : MappedService}
    (entered : after.mapped = consumer.mapped.insert call.mapId mapped) :
    after.listMapped = consumer.listMapped ++ [mapped] := by
  unfold listMapped Dict.values
  rw [entered, Dict.insert_new _ (Dict.get?_eq_none_iff.mp fresh), List.map_append]
  rfl

/-- A call that raises after its mapping was entered is not atomic. -/
theorem not_atomic_of_entered (fresh : consumer.mapped.get? call.mapId = none)
    {outcome : MapOutcome} {mapped : MappedService} {exception : MapException}
    (entered : outcome.consumer.mapped = consumer.mapped.insert call.mapId mapped)
    (raised : outcome.returned = .error exception) : ¬ consumer.Atomic outcome := by
  unfold Atomic
  rw [raised]
  rintro ⟨same, -⟩
  have lengths := congrArg List.length ((listMapped_insert fresh entered).symm.trans same)
  rw [List.length_append, List.length_singleton] at lengths
  omega

/-- A call that returns after its mapping was entered is atomic if and only if the mapping has a
listener. -/
theorem atomic_iff_of_entered (fresh : consumer.mapped.get? call.mapId = none)
    {outcome : MapOutcome} {mapped : MappedService}
    (entered : outcome.consumer.mapped = consumer.mapped.insert call.mapId mapped)
    (returned : outcome.returned = .ok mapped.localPort) :
    consumer.Atomic outcome ↔ outcome.consumer.HasListener mapped := by
  unfold Atomic
  rw [returned]
  dsimp only
  rw [listMapped_insert fresh entered]
  constructor
  · rintro ⟨other, same, -, hasListener⟩
    obtain rfl := List.singleton_inj.mp (List.append_cancel_left same)
    exact hasListener
  · exact fun hasListener => ⟨mapped, rfl, rfl, hasListener⟩

/-- For every consumer, arguments and course of the call, the call is atomic if and only if no port
can be chosen, or the protocol is TCP or UDP, the listener starts and the call is not cancelled
while it notifies the server. -/
theorem mapService_atomic_iff (consumer : ServiceConsumer) (request : MapRequest) (call : MapCall)
    (fresh : consumer.mapped.get? call.mapId = none) :
    consumer.Atomic (consumer.mapService request call) ↔
      consumer.NoPort request call ∨ consumer.Completes request call := by
  cases chosen : consumer.choosePort request call with
  | error exception =>
    refine iff_of_true ?_ (Or.inl (choosePort_raises_iff.mp ⟨exception, chosen⟩))
    rw [mapService, chosen]
    exact ⟨rfl, rfl, rfl⟩
  | ok port =>
    have hasPort : ¬ consumer.NoPort request call := by
      intro noPort
      obtain ⟨exception, raised⟩ := choosePort_raises_iff.mpr noPort
      exact nomatch chosen.symm.trans raised
    rw [or_iff_right hasPort]
    rcases startListener_cases
        { consumer with mapped := consumer.mapped.insert call.mapId (record request call port) }
        (record request call port) call.listener with
      (⟨exception, raised, failed⟩ | ⟨protocol, starts, listening, started, kept, hasListener⟩) |
        ⟨noListener, started⟩
    · obtain ⟨entered, returned⟩ := mapService_failed chosen failed
      refine iff_of_false (not_atomic_of_entered fresh entered returned) fun completes => ?_
      obtain ⟨socket, listens⟩ := completes.listener
      exact nomatch raised.symm.trans listens
    · obtain ⟨after, returned⟩ := mapService_listening chosen started
      have entered := (congrArg mapped after).trans kept
      by_cases cancelled : consumer.hasControl = true ∧ call.notified = .cancelled
      · rw [if_pos cancelled] at returned
        refine iff_of_false (not_atomic_of_entered fresh entered returned) fun completes => ?_
        exact completes.notified cancelled.1 cancelled.2
      · rw [if_neg cancelled] at returned
        refine iff_of_true ((atomic_iff_of_entered fresh entered returned).mpr ?_) ?_
        · rw [after]
          exact hasListener
        · exact ⟨protocol, starts, not_and.mp cancelled⟩
    · obtain ⟨after, returned⟩ := mapService_listening chosen started
      have entered := congrArg mapped after
      refine iff_of_false ?_ fun completes => noListener completes.protocol
      by_cases cancelled : consumer.hasControl = true ∧ call.notified = .cancelled
      · rw [if_pos cancelled] at returned
        exact not_atomic_of_entered fresh entered returned
      · rw [if_neg cancelled] at returned
        rw [atomic_iff_of_entered fresh entered returned]
        exact fun hasListener => noListener (hasListener.imp And.left And.left)

/-- A call that maps a TCP service to port 8080, whose listener does what it is given. -/
def exampleRequest : MapRequest :=
  ⟨"5a1c7d9e", "bob", "web", "tcp", some 8080, "manual", none⟩

def exampleCall (listener : Except MapException Nat) : MapCall :=
  ⟨"9e8d7c6b", 100, true, fun _ => true, listener, .sent⟩

theorem mapService_atomic_iff_manual :
    Atomic ⟨Dict.empty, Dict.empty, Dict.empty, true⟩
      (mapService ⟨Dict.empty, Dict.empty, Dict.empty, true⟩ exampleRequest
        (exampleCall (.ok 7))) :=
  (mapService_atomic_iff ⟨Dict.empty, Dict.empty, Dict.empty, true⟩ exampleRequest
    (exampleCall (.ok 7)) rfl).mpr (Or.inr ⟨Or.inl rfl, ⟨7, rfl⟩, nofun⟩)

/-- Port 8080 belongs to another process: the call raises, and its mapping stays. -/
theorem mapService_counterexample :
    (mapService ⟨Dict.empty, Dict.empty, Dict.empty, true⟩ exampleRequest
        (exampleCall (.error (.osError "address already in use")))).returned =
      .error (.osError "address already in use") ∧
    ¬ Atomic ⟨Dict.empty, Dict.empty, Dict.empty, true⟩
      (mapService ⟨Dict.empty, Dict.empty, Dict.empty, true⟩ exampleRequest
        (exampleCall (.error (.osError "address already in use")))) := by
  refine ⟨rfl, ?_⟩
  rintro ⟨same, -⟩
  exact absurd same (by decide)

end ServiceConsumer

end LocalNetwork
