/-
This file models the typed messages of `common/messages.py`: the dataclasses of
`MESSAGE_TYPES` with their fields and defaults, the two ways to send an instance of one,
`serialize` on the instance and `make_message`, and the one way back, `message_to_dataclass`.

The dataclasses are values of one structure, which carries that their field names are
distinct. An instance has a value for each field of its class.
-/

import LocalNetwork.Messages

namespace LocalNetwork

def Json.isNull : Json → Bool
  | .null => true
  | _ => false

theorem Json.isNull_iff (value : Json) : value.isNull = true ↔ value = .null := by
  cases value with
  | null => exact iff_of_true rfl rfl
  | bool | int | float | str | arr | obj => simp [isNull]

/-! ### Message classes -/

/-- The types that fields are declared with. -/
inductive FieldType where
  | str
  | bool
  | int
  | float
  | list
  | dict
  deriving DecidableEq, Repr

/-- Whether a JSON value is of the type; a truth value is an integer, and an integer counts as a
floating point number. -/
def FieldType.admits : FieldType → Json → Bool
  | .str, .str _ => true
  | .bool, .bool _ => true
  | .int, .int _ | .int, .bool _ => true
  | .float, .float _ | .float, .int _ => true
  | .list, .arr _ => true
  | .dict, .obj _ => true
  | _, _ => false

/-- A field of a dataclass. One that is declared `Optional` has the default `None`. -/
inductive MessageField where
  | required (name : String) (type : FieldType) (default : Json)
  | optional (name : String) (type : FieldType)

namespace MessageField

def name : MessageField → String
  | .required name _ _ => name
  | .optional name _ => name

def default : MessageField → Json
  | .required _ _ default => default
  | .optional _ _ => .null

def admits : MessageField → Json → Bool
  | .required _ type _, value => type.admits value
  | .optional _ type, value => value.isNull || type.admits value

/-- A text, empty by default. -/
def text (name : String) : MessageField := .required name .str (.str "")

/-- Only a field whose default is null admits null. -/
theorem default_of_admits_null {field : MessageField} (admitted : field.admits .null = true) :
    field.default = .null := by
  cases field with
  | required name type default => cases type <;> cases admitted
  | optional name type => rfl

end MessageField

/-- A dataclass of a message: the default of its field `type`, and its other fields in order. -/
structure MessageClass where
  name : String
  type : String
  fields : List MessageField
  distinct : ("type" :: fields.map MessageField.name).Nodup

namespace MessageClass

open MessageField

def fieldNames (cls : MessageClass) : List String := "type" :: cls.fields.map MessageField.name

def registerMessage : MessageClass where
  name := "RegisterMessage"
  type := "REGISTER"
  fields := [text "client_id", text "public_key", text "version"]
  distinct := by decide

def authChallenge : MessageClass where
  name := "AuthChallenge"
  type := "AUTH_CHALLENGE"
  fields := [text "challenge", text "client_id"]
  distinct := by decide

def authResponse : MessageClass where
  name := "AuthResponse"
  type := "AUTH_RESPONSE"
  fields := [text "signature", text "challenge"]
  distinct := by decide

def authResult : MessageClass where
  name := "AuthResult"
  type := "AUTH_OK"
  fields := [.required "ok" .bool (.bool true), text "message", .optional "virtual_ip" .str]
  distinct := by decide

def createNetwork : MessageClass where
  name := "CreateNetwork"
  type := "CREATE_NETWORK"
  fields := [text "name", text "password", .required "topology" .str (.str "mesh")]
  distinct := by decide

def networkCreated : MessageClass where
  name := "NetworkCreated"
  type := "NETWORK_CREATED"
  fields := [text "network_id", text "name", text "owner_id", text "topology", text "invite_code"]
  distinct := by decide

def joinNetwork : MessageClass where
  name := "JoinNetwork"
  type := "JOIN_NETWORK"
  fields := [text "network_id", text "password"]
  distinct := by decide

def networkJoined : MessageClass where
  name := "NetworkJoined"
  type := "NETWORK_JOINED"
  fields := [text "network_id", text "name", .optional "virtual_ip" .str]
  distinct := by decide

def leaveNetwork : MessageClass where
  name := "LeaveNetwork"
  type := "LEAVE_NETWORK"
  fields := [text "network_id"]
  distinct := by decide

def networkLeft : MessageClass where
  name := "NetworkLeft"
  type := "NETWORK_LEFT"
  fields := [text "network_id"]
  distinct := by decide

def listNetworks : MessageClass where
  name := "ListNetworks"
  type := "LIST_NETWORKS"
  fields := []
  distinct := by decide

def networkList : MessageClass where
  name := "NetworkList"
  type := "NETWORK_LIST"
  fields := [.required "networks" .list (.arr [])]
  distinct := by decide

def networkPeers : MessageClass where
  name := "NetworkPeers"
  type := "NETWORK_PEERS"
  fields := [text "network_id", .required "peers" .list (.arr [])]
  distinct := by decide

def peerOnline : MessageClass where
  name := "PeerOnline"
  type := "PEER_ONLINE"
  fields := [text "network_id", text "peer_id", .optional "peer_ip" .str]
  distinct := by decide

def peerOffline : MessageClass where
  name := "PeerOffline"
  type := "PEER_OFFLINE"
  fields := [text "network_id", text "peer_id"]
  distinct := by decide

def requestPeerConn : MessageClass where
  name := "RequestPeerConn"
  type := "REQUEST_PEER_CONN"
  fields := [text "peer_id"]
  distinct := by decide

def peerEndpoints : MessageClass where
  name := "PeerEndpoints"
  type := "PEER_ENDPOINTS"
  fields := [text "peer_id", .required "endpoints" .list (.arr [])]
  distinct := by decide

def relayRequest : MessageClass where
  name := "RelayRequest"
  type := "RELAY_REQUEST"
  fields := [text "peer_id"]
  distinct := by decide

def relayGranted : MessageClass where
  name := "RelayGranted"
  type := "RELAY_GRANTED"
  fields := [text "peer_id", text "path_id"]
  distinct := by decide

def relayFrame : MessageClass where
  name := "RelayFrame"
  type := "RELAY_FRAME"
  fields := [text "src_id", text "dst_id", text "frame_b64"]
  distinct := by decide

def heartbeat : MessageClass where
  name := "Heartbeat"
  type := "HEARTBEAT"
  fields := [.required "ts" .float (.float 0)]
  distinct := by decide

def heartbeatAck : MessageClass where
  name := "HeartbeatAck"
  type := "HEARTBEAT_ACK"
  fields := [.required "ts" .float (.float 0)]
  distinct := by decide

def errorMessage : MessageClass where
  name := "ErrorMessage"
  type := "ERROR"
  fields := [text "code", text "message"]
  distinct := by decide

def exposeService : MessageClass where
  name := "ExposeService"
  type := "EXPOSE_SERVICE"
  fields := [
    text "name", .required "protocol" .str (.str "tcp"),
    .required "local_host" .str (.str "127.0.0.1"), .required "local_port" .int (.int 0)]
  distinct := by decide

def serviceExposed : MessageClass where
  name := "ServiceExposed"
  type := "SERVICE_EXPOSED"
  fields := [text "service_id", text "name", text "protocol", .required "local_port" .int (.int 0)]
  distinct := by decide

def unexposeService : MessageClass where
  name := "UnexposeService"
  type := "UNEXPOSE_SERVICE"
  fields := [text "service_id"]
  distinct := by decide

def serviceUnexposed : MessageClass where
  name := "ServiceUnexposed"
  type := "SERVICE_UNEXPOSED"
  fields := [text "service_id"]
  distinct := by decide

def serviceList : MessageClass where
  name := "ServiceList"
  type := "SERVICE_LIST"
  fields := [.required "services" .list (.arr [])]
  distinct := by decide

def serviceAdded : MessageClass where
  name := "ServiceAdded"
  type := "SERVICE_ADDED"
  fields := [.required "service" .dict (.obj [])]
  distinct := by decide

def serviceRemoved : MessageClass where
  name := "ServiceRemoved"
  type := "SERVICE_REMOVED"
  fields := [text "service_id"]
  distinct := by decide

def mapService : MessageClass where
  name := "MapService"
  type := "MAP_SERVICE"
  fields := [
    text "service_id", .optional "local_port" .int, .required "strategy" .str (.str "auto")]
  distinct := by decide

def serviceMapped : MessageClass where
  name := "ServiceMapped"
  type := "SERVICE_MAPPED"
  fields := [text "service_id", .required "local_port" .int (.int 0)]
  distinct := by decide

def unmapService : MessageClass where
  name := "UnmapService"
  type := "UNMAP_SERVICE"
  fields := [text "service_id"]
  distinct := by decide

def serviceUnmapped : MessageClass where
  name := "ServiceUnmapped"
  type := "SERVICE_UNMAPPED"
  fields := [text "service_id"]
  distinct := by decide

end MessageClass

open MessageClass in
/-- `MESSAGE_TYPES`. -/
def messageTypes : Dict String MessageClass where
  entries := [
    ("REGISTER", registerMessage), ("AUTH_CHALLENGE", authChallenge),
    ("AUTH_RESPONSE", authResponse), ("AUTH_OK", authResult), ("AUTH_FAIL", authResult),
    ("CREATE_NETWORK", createNetwork), ("NETWORK_CREATED", networkCreated),
    ("JOIN_NETWORK", joinNetwork), ("NETWORK_JOINED", networkJoined),
    ("LEAVE_NETWORK", leaveNetwork), ("NETWORK_LEFT", networkLeft),
    ("LIST_NETWORKS", listNetworks), ("NETWORK_LIST", networkList),
    ("NETWORK_PEERS", networkPeers), ("PEER_ONLINE", peerOnline), ("PEER_OFFLINE", peerOffline),
    ("REQUEST_PEER_CONN", requestPeerConn), ("PEER_ENDPOINTS", peerEndpoints),
    ("RELAY_REQUEST", relayRequest), ("RELAY_GRANTED", relayGranted), ("RELAY_FRAME", relayFrame),
    ("HEARTBEAT", heartbeat), ("HEARTBEAT_ACK", heartbeatAck), ("ERROR", errorMessage),
    ("EXPOSE_SERVICE", exposeService), ("SERVICE_EXPOSED", serviceExposed),
    ("UNEXPOSE_SERVICE", unexposeService), ("SERVICE_UNEXPOSED", serviceUnexposed),
    ("SERVICE_LIST", serviceList), ("SERVICE_ADDED", serviceAdded),
    ("SERVICE_REMOVED", serviceRemoved), ("MAP_SERVICE", mapService),
    ("SERVICE_MAPPED", serviceMapped), ("UNMAP_SERVICE", unmapService),
    ("SERVICE_UNMAPPED", serviceUnmapped)]
  distinct := by decide +kernel

/-- Every default passes the check of its own field. -/
theorem defaults_admitted : ∀ entry ∈ messageTypes.entries, ∀ field ∈ entry.2.fields,
    field.admits field.default = true := by
  decide +kernel

/-- Every class is mapped from its default type; `AUTH_FAIL` is the one other type. -/
theorem messageTypes_type : ∀ entry ∈ messageTypes.entries,
    entry.1 = entry.2.type ↔ entry.1 ≠ "AUTH_FAIL" := by
  decide +kernel

/-! ### Instances and messages -/

/-- An instance of a message class: its type, and a value for each of the other fields. -/
structure MessageInstance where
  cls : MessageClass
  type : Json
  values : List Json
  complete : values.length = cls.fields.length

/-- A `Message` as the code builds it; whether the type is a text is not looked at. -/
structure BuiltMessage where
  type : Json
  payload : Dict String Json

def BuiltMessage.body (message : BuiltMessage) : Json :=
  .obj [("type", message.type), ("payload", .obj message.payload.entries)]

namespace MessageInstance

/-- The fields and their values, `type` first. -/
def asDict (sent : MessageInstance) : Dict String Json where
  entries := ("type", sent.type) ::
    (sent.cls.fields.map MessageField.name).zip sent.values
  distinct := by
    rw [List.map_cons, List.map_fst_zip (by rw [List.length_map, sent.complete])]
    exact sent.cls.distinct

/-- `_payload_from_dataclass`: the fields that are not null. -/
def payloadFromDataclass (sent : MessageInstance) : Dict String Json :=
  sent.asDict.filter fun _ value => !value.isNull

end MessageInstance

/-- Call a class with keyword arguments; a keyword that is no field raises a `TypeError`. -/
def MessageClass.construct (cls : MessageClass) (kwargs : Dict String Json) :
    Option MessageInstance :=
  if kwargs.keys.all fun key => decide (key ∈ cls.fieldNames) then
    some {
      cls := cls
      type := (kwargs.get? "type").getD (.str cls.type)
      values := cls.fields.map fun field => (kwargs.get? field.name).getD field.default
      complete := List.length_map _ }
  else none

/-- `make_message`; none where the class raises. -/
def makeMessage (cls : MessageClass) (kwargs : Dict String Json) : Option BuiltMessage :=
  let kwargs := if kwargs.contains "type" then kwargs else kwargs.insert "type" (.str cls.type)
  (cls.construct kwargs).map fun made => ⟨made.type, made.payloadFromDataclass⟩

/-- `message_to_dataclass`. -/
def messageToDataclass (message : Message) (mapping : Dict String MessageClass) :
    Option MessageInstance :=
  match mapping.get? message.type with
  | none => none
  | some cls => cls.construct (message.payload.filter fun key _ => decide (key ∈ cls.fieldNames))

/-- What `serialize` raises on an instance: `pop` finds no type, or writing the body fails. -/
inductive DataclassError where
  | keyError (key : String)
  | message (failure : SerializeError)
  deriving DecidableEq

section Codec

variable (json : JsonText)

/-- `serialize` on a built message. -/
def serializeBuilt (message : BuiltMessage) : Except SerializeError Bytes :=
  serializeBody json message.body

/-- `serialize` on an instance: the type is taken out of the payload. -/
def serializeDataclass (sent : MessageInstance) : Except DataclassError Bytes :=
  let payload := sent.payloadFromDataclass
  match payload.get? "type" with
  | none => .error (.keyError "type")
  | some type =>
    match serializeBuilt json ⟨type, payload.erase "type"⟩ with
    | .error failure => .error (.message failure)
    | .ok bytes => .ok bytes

/-- `message_to_dataclass(deserialize(data), MESSAGE_TYPES)`. -/
def readDataclass (data : Bytes) : Option MessageInstance :=
  match deserialize json data with
  | .error _ => none
  | .ok message => messageToDataclass message messageTypes

end Codec

end LocalNetwork
