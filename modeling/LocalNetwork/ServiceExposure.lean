/-
This file models `client/service_exposure.py` together with the server it talks to: the
manager's table of the services its client exposes, the messages that are on their way, and
the server that receives them in order.

The two sides keep a table each and draw their ids each on their own. The messages are those
of the dataclasses `ExposeService` and `UnexposeService`; the stream that carries them is
that of `Messages`. The manager swallows every exception of a send, also that of a message
which is too large or has no encoding.
-/

import LocalNetwork.Handling
import LocalNetwork.Messages
import Mathlib.Algebra.Order.Group.Multiset

namespace LocalNetwork

/-! ### Messages -/

/-- What a client says about a service: the fields of the dataclass `ExposeService`. -/
structure Advert where
  name : String
  protocol : String
  localHost : String
  localPort : Int
  deriving DecidableEq

/-- The dataclasses of the messages the manager sends. -/
inductive ServiceMessage where
  | exposeService (advert : Advert)
  | unexposeService (serviceId : String)
  deriving DecidableEq

/-- `make_message` with the dataclass of a message. -/
def ServiceMessage.make : ServiceMessage → Message
  | .exposeService advert => .made "EXPOSE_SERVICE"
      [("name", .str advert.name), ("protocol", .str advert.protocol),
        ("local_host", .str advert.localHost), ("local_port", .int advert.localPort)]
  | .unexposeService serviceId => .made "UNEXPOSE_SERVICE" [("service_id", .str serviceId)]

/-- `serialize` raises no exception. -/
def Sendable (json : JsonText) (message : ServiceMessage) : Prop :=
  (serialize json message.make).isOk = true

instance (json : JsonText) (message : ServiceMessage) : Decidable (Sendable json message) :=
  inferInstanceAs (Decidable (_ = _))

/-- `send_message` on a connected channel, and what becomes of its exception in the manager. -/
def trySend (json : JsonText) (outbound : List ServiceMessage) (message : ServiceMessage) :
    List ServiceMessage :=
  if Sendable json message then outbound ++ [message] else outbound

/-- The server's checks accept what a client says about a service. -/
def Advert.Accepted (text : PyText) (advert : Advert) : Prop :=
  (validateExposeService text (ServiceMessage.exposeService advert).make.payload).isOk = true

instance (text : PyText) (advert : Advert) : Decidable (advert.Accepted text) :=
  inferInstanceAs (Decidable (_ = _))

/-! ### The client -/

/-- `ServiceRecord` of the client. -/
structure ExposedService extends Advert where
  serviceId : String
  createdAt : Time

structure ServiceExposureManager where
  services : Dict String ExposedService

namespace ServiceExposureManager

def init : ServiceExposureManager := ⟨Dict.empty⟩

/-- The record is stored before anything is sent, and stays whatever becomes of the message. -/
def expose (manager : ServiceExposureManager) (advert : Advert) (uuid : String) (now : Time) :
    ServiceExposureManager × ServiceMessage :=
  (⟨manager.services.insert uuid ⟨advert, uuid, now⟩⟩, .exposeService advert)

/-- The message names the service by the client's own id. -/
def unexpose (manager : ServiceExposureManager) (serviceId : String) :
    ServiceExposureManager × Option ServiceMessage :=
  match manager.services.get? serviceId with
  | none => (manager, none)
  | some _ => (⟨manager.services.erase serviceId⟩, some (.unexposeService serviceId))

def listExposed (manager : ServiceExposureManager) : List ExposedService := manager.services.values

/-- What the client says about the services it exposes. -/
def adverts (manager : ServiceExposureManager) : Multiset Advert :=
  manager.listExposed.map ExposedService.toAdvert

end ServiceExposureManager

/-! ### The server -/

def Transport.value : Transport → String
  | .tcp => "tcp"
  | .udp => "udp"

/-- What the server says about a service. -/
def ServiceRecord.advert (service : ServiceRecord) : Advert :=
  ⟨service.name, service.protocol.value, service.localHost, service.localPort⟩

/-- What the server says about the services of a provider, on all networks. -/
def NetworkManager.adverts (manager : NetworkManager) (providerId : String) : Multiset Advert :=
  ((manager.services.values.flatMap Dict.values).filter fun service =>
    decide (service.providerId = providerId)).map ServiceRecord.advert

/-! ### Both together -/

structure ExposureState where
  manager : ServiceExposureManager
  /-- What the manager has sent and the server has not received yet. -/
  outbound : List ServiceMessage
  server : Server

inductive ExposureEvent where
  | expose (advert : Advert) (uuid : String) (now : Time)
  | unexpose (serviceId : String)
  /-- The server receives the next message of the manager on a connection. -/
  | process (id : ConnId) (choice : Choice)
  /-- Any other step of the server. -/
  | other (event : ServerEvent)

/-- A connection is one of an authenticated client. -/
def Server.speaksFor (server : Server) (id : ConnId) (clientId : String) : Bool :=
  (server.connections.get? id).any fun connection =>
    decide (connection.clientId = some clientId) && connection.authenticated

/-- An EXPOSE_SERVICE or UNEXPOSE_SERVICE of a client; those of the manager's client are sent by the
manager alone. -/
def Server.commandsServices (server : Server) (clientId : String) : ServerEvent → Bool
  | .receive id message _ => server.speaksFor id clientId &&
    decide (message.type = "EXPOSE_SERVICE" ∨ message.type = "UNEXPOSE_SERVICE")
  | _ => false

namespace ExposureState

/-- One step of the manager of a client, or of the server. -/
def step (packages : Packages) (json : JsonText) (clientId : String) (state : ExposureState) :
    ExposureEvent → Option ExposureState
  | .expose advert uuid now =>
    let (manager, message) := state.manager.expose advert uuid now
    some { state with manager := manager, outbound := trySend json state.outbound message }
  | .unexpose serviceId =>
    match state.manager.unexpose serviceId with
    | (manager, none) => some { state with manager := manager }
    | (manager, some message) =>
      some { state with manager := manager, outbound := trySend json state.outbound message }
  | .process id choice =>
    match state.outbound with
    | [] => none
    | message :: rest =>
      if state.server.speaksFor id clientId then
        (state.server.step packages (.receive id message.make choice)).map fun server =>
          { state with outbound := rest, server := server }
      else none
  | .other event =>
    if state.server.commandsServices clientId event then none
    else (state.server.step packages event).map fun server => { state with server := server }

/-- The client and the server agree on the services the client exposes. -/
def Agree (clientId : String) (state : ExposureState) : Prop :=
  state.server.networks.adverts clientId = state.manager.adverts

end ExposureState

/-! ### What a step can do -/

/-- Everything a step can do. -/
inductive ExposureCase (packages : Packages) (json : JsonText) (clientId : String)
    (state : ExposureState) : ExposureEvent → ExposureState → Prop
  | exposed (advert : Advert) (uuid : String) (now : Time) :
    ExposureCase packages json clientId state (.expose advert uuid now)
      { state with
        manager := ⟨state.manager.services.insert uuid ⟨advert, uuid, now⟩⟩
        outbound := trySend json state.outbound (.exposeService advert) }
  | unknown (serviceId : String) (absent : state.manager.services.get? serviceId = none) :
    ExposureCase packages json clientId state (.unexpose serviceId) state
  | unexposed (serviceId : String) (service : ExposedService)
    (stored : state.manager.services.get? serviceId = some service) :
    ExposureCase packages json clientId state (.unexpose serviceId)
      { state with
        manager := ⟨state.manager.services.erase serviceId⟩
        outbound := trySend json state.outbound (.unexposeService serviceId) }
  | processed (id : ConnId) (choice : Choice) (message : ServiceMessage)
    (rest : List ServiceMessage) (server : Server) (outbound : state.outbound = message :: rest)
    (speaks : state.server.speaksFor id clientId = true)
    (received : state.server.step packages (.receive id message.make choice) = some server) :
    ExposureCase packages json clientId state (.process id choice)
      { state with outbound := rest, server := server }
  | elsewhere (event : ServerEvent) (server : Server)
    (foreign : state.server.commandsServices clientId event = false)
    (taken : state.server.step packages event = some server) :
    ExposureCase packages json clientId state (.other event) { state with server := server }

/-- Every step is one of the cases. -/
theorem exposure_cases {packages : Packages} {json : JsonText} {clientId : String}
    {state next : ExposureState} {event : ExposureEvent}
    (stepped : state.step packages json clientId event = some next) :
    ExposureCase packages json clientId state event next := by
  cases event with
  | expose advert uuid now =>
    obtain rfl := Option.some.inj stepped
    exact .exposed advert uuid now
  | unexpose serviceId =>
    simp only [ExposureState.step, ServiceExposureManager.unexpose] at stepped
    cases stored : state.manager.services.get? serviceId with
    | none =>
      rw [stored] at stepped
      obtain rfl := Option.some.inj stepped
      exact .unknown serviceId stored
    | some service =>
      rw [stored] at stepped
      obtain rfl := Option.some.inj stepped
      exact .unexposed serviceId service stored
  | process id choice =>
    simp only [ExposureState.step] at stepped
    split at stepped
    · cases stepped
    · rename_i message rest outbound
      split at stepped
      · rename_i speaks
        obtain ⟨server, received, rfl⟩ := Option.map_eq_some_iff.mp stepped
        exact .processed id choice message rest server outbound speaks received
      · cases stepped
  | other event =>
    simp only [ExposureState.step] at stepped
    split at stepped
    · cases stepped
    · rename_i foreign
      obtain ⟨server, taken, rfl⟩ := Option.map_eq_some_iff.mp stepped
      exact .elsewhere event server (Bool.eq_false_iff.mpr foreign) taken

end LocalNetwork
