/-
This file models `server/protocol.py` and the message types of `common/messages.py` that
the mediation server reads and writes: JSON payloads, the field checks with the texts of
their errors, and the messages the server sends.

Python's `repr` of a JSON value and the lower-casing of strings are parameters; `str` of a
value is its `repr` unless the value is a string. The patterns are those of the source:
`match` anchors at the start, and `$` also matches before a line break at the very end.
-/

import LocalNetwork.NetworkManager
import LocalNetwork.Auth
import LocalNetwork.Text
import Mathlib.Data.Finset.Card

namespace LocalNetwork

/-! ### JSON values -/

/-- A decoded JSON value; a floating point number is given by its bits. -/
inductive Json where
  | null
  | bool (value : Bool)
  | int (value : Int)
  | float (bits : UInt64)
  | str (value : String)
  | arr (items : List Json)
  | obj (entries : List (String × Json))

namespace Json

/-- Python truth of a value: null, false, zero and everything empty are false. -/
def truthy : Json → Bool
  | .null => false
  | .bool value => value
  | .int value => decide (value ≠ 0)
  | .float bits => decide (bits ≠ 0 ∧ bits ≠ 0x8000000000000000)
  | .str value => decide (value ≠ "")
  | .arr items => !items.isEmpty
  | .obj entries => !entries.isEmpty

/-- Whether a value equals `None` or the empty string. -/
def missing : Json → Bool
  | .null => true
  | .str value => decide (value = "")
  | _ => false

end Json

/-- The Python text operations the validators use on arbitrary values. -/
structure PyText where
  repr : Json → String
  lower : String → String

/-- `str` of a value. -/
def PyText.str (text : PyText) : Json → String
  | .str value => value
  | value => text.repr value

/-- A message as `deserialize` returns it: a type and a payload dictionary. -/
structure Message where
  type : String
  payload : Dict String Json

/-- A message as `make_message` makes it: the type stands in the payload, too. -/
def Message.made (type : String) (fields : List (String × Json)) : Message :=
  ⟨type, Dict.ofEntries (("type", .str type) :: fields)⟩

@[simp]
theorem Message.made_type (type : String) (fields : List (String × Json)) :
    (Message.made type fields).type = type := rfl

/-! ### Field checks -/

structure ProtocolError where
  text : String
  deriving DecidableEq, Repr

/-- The value under a key, which must be neither absent nor null nor empty. -/
def require (payload : Dict String Json) (key label : String) : Except ProtocolError Json :=
  let value := (payload.get? key).getD .null
  if value.missing then .error ⟨s!"{label} is required"⟩ else .ok value

/-- The value under a key, or a default where Python's `or` takes it. -/
def getOr (payload : Dict String Json) (key : String) (default : Json) : Json :=
  let value := (payload.get? key).getD .null
  if value.truthy then value else default

/-- What stands before the place where `$` matches: the text, or the text without a line break at
its end. -/
def beforeDollar (chars : List Char) : List Char :=
  if chars.getLast? = some '\n' then chars.dropLast else chars

/-- The characters of a client id. -/
def isIdChar (char : Char) : Bool :=
  decide (('A' ≤ char ∧ char ≤ 'Z') ∨ ('a' ≤ char ∧ char ≤ 'z') ∨ ('0' ≤ char ∧ char ≤ '9') ∨
    char = '-' ∨ char = '_')

/-- The pattern `^[A-Za-z0-9\-_]{8,64}$`. -/
def matchesId (text : String) : Bool :=
  let body := beforeDollar text.toList
  decide (8 ≤ body.length ∧ body.length ≤ 64) && body.all isIdChar

/-- The pattern `^.{1,64}$`. -/
def matchesName (text : String) : Bool :=
  let body := beforeDollar text.toList
  decide (1 ≤ body.length ∧ body.length ≤ 64) && body.all fun char => decide (char ≠ '\n')

/-- The pattern `^-----BEGIN (RSA )?PUBLIC KEY-----` on the stripped text. -/
def matchesPem (text : String) : Bool :=
  let stripped := strip text.toList
  "-----BEGIN PUBLIC KEY-----".toList.isPrefixOf stripped ||
    "-----BEGIN RSA PUBLIC KEY-----".toList.isPrefixOf stripped

section Validators

variable (text : PyText) (payload : Dict String Json)

/-- The client id and the public key of a REGISTER payload. -/
def validateRegister : Except ProtocolError (String × String) := do
  let clientId ← require payload "client_id" "client_id"
  let publicKey ← require payload "public_key" "public_key"
  if !matchesId (text.str clientId) then
    .error ⟨"client_id must be 8-64 chars of [A-Za-z0-9_-]"⟩
  else if !matchesPem (text.str publicKey) then
    .error ⟨"public_key must be a PEM-encoded public key"⟩
  else .ok (text.str clientId, text.str publicKey)

/-- The challenge and the signature of an AUTH_RESPONSE payload. -/
def validateAuthResponse : Except ProtocolError (String × String) := do
  let challenge ← require payload "challenge" "challenge"
  let signature ← require payload "signature" "signature"
  .ok (text.str challenge, text.str signature)

/-- The name, password and topology of a CREATE_NETWORK payload. -/
def validateCreateNetwork : Except ProtocolError (String × String × String) := do
  let name ← require payload "name" "name"
  let password ← require payload "password" "password"
  let topology := text.str (getOr payload "topology" (.str "mesh"))
  if !matchesName (text.str name) then .error ⟨"name must be 1-64 characters"⟩
  else if (Topology.ofString? topology).isNone then
    .error ⟨"unsupported topology " ++ text.repr (.str topology) ++
      "; expected one of mesh, hub_and_spoke, gateway"⟩
  else .ok (text.str name, text.str password, topology)

def validateJoinNetwork : Except ProtocolError (String × String) := do
  let networkId ← require payload "network_id" "network_id"
  let password ← require payload "password" "password"
  .ok (text.str networkId, text.str password)

/-- A payload of which one field is read. -/
def validateField (key : String) : Except ProtocolError String := do
  let value ← require payload key key
  .ok (text.str value)

def validateNetworkId : Except ProtocolError String := validateField text payload "network_id"

def validatePeerId : Except ProtocolError String := validateField text payload "peer_id"

def validateServiceId : Except ProtocolError String := validateField text payload "service_id"

/-- A port as the source accepts it: an integer in range, or `True`, which is an integer. -/
def port? : Json → Option Nat
  | .int value => if 0 < value ∧ value < 65536 then some value.toNat else none
  | .bool true => some 1
  | _ => none

/-- The name, protocol, host and port of an EXPOSE_SERVICE payload. -/
def validateExposeService : Except ProtocolError (String × Transport × String × Nat) := do
  let name ← require payload "name" "name"
  let protocol := text.lower (text.str (getOr payload "protocol" (.str "tcp")))
  let localHost := text.str (getOr payload "local_host" (.str "127.0.0.1"))
  let localPort := (payload.get? "local_port").getD .null
  let transport ←
    match protocol with
    | "tcp" => .ok Transport.tcp
    | "udp" => .ok Transport.udp
    | _ => .error ⟨"protocol must be tcp or udp, got " ++ text.repr (.str protocol)⟩
  match port? localPort with
  | none => .error ⟨"invalid local_port: " ++ text.repr localPort⟩
  | some port => .ok (text.str name, transport, localHost, port)

end Validators

/-! ### Messages the server sends -/

/-- One entry of a NETWORK_LIST payload. -/
structure NetworkInfo where
  networkId : String
  name : String
  ownerId : String
  topology : Topology
  memberCount : Nat
  createdAt : Time
  deriving DecidableEq

def NetworkRecord.toDict (record : NetworkRecord) : NetworkInfo :=
  ⟨record.networkId, record.name, record.ownerId, record.topology, record.members.card,
    record.createdAt⟩

inductive ServerMessage where
  | authChallenge (challenge : AuthChallenge)
  | authResult (ok : Bool) (message : String)
  | error (code message : String)
  | heartbeatAck (ts : Json)
  | networkCreated (networkId name ownerId : String) (topology : Topology) (inviteCode : String)
  | networkJoined (networkId name : String)
  | networkLeft (networkId : String)
  | networkList (networks : List NetworkInfo)
  | peerEndpoints (peerId : String) (endpoints : List Addr)
  | peerOnline (networkId peerId : String)
  | peerOffline (networkId peerId : String)
  | serviceAdded (service : ServiceRecord)
  | serviceRemoved (serviceId : String)
  | relayGranted (peerId pathId : String)
  | relayFrame (srcId dstId frameB64 : String)

/-- The messages that tell a client about its networks: peers, services and the relay. -/
def ServerMessage.isNetworkEvent : ServerMessage → Bool
  | .peerOnline .. | .peerOffline .. | .serviceAdded .. | .serviceRemoved .. | .relayGranted ..
  | .relayFrame .. => true
  | _ => false

end LocalNetwork
