/-
This file proves that no message of the service manager is lost: what the server stores for a
client, together with what is still on its way, is what the client has sent.

The server stores a service as it has read it, with its own defaults put in. It never takes a
service of the client away, because the ids that the client names are those of its own table
and the server has stored its services under other ones.
-/

import LocalNetwork.ServiceExposure
import LocalNetwork.Totals

namespace LocalNetwork

/-! ### What is assumed of a run -/

/-- A client is a member of one network. -/
def InOneNetwork (manager : NetworkManager) (clientId : String) : Prop :=
  ∃ record, manager.listForClient clientId = [record] ∧
    clientId ∈ manager.members record.networkId

/-- The id drawn in a step, if one is. -/
def ExposureEvent.drawn : ExposureEvent → Option String
  | .expose _ uuid _ => some uuid
  | .process _ choice | .other (.receive _ _ choice) => some choice.uuid
  | _ => none

/-- An id is that of nothing on the server, of no service of the manager, and in no message. -/
structure ExposureState.Unused (state : ExposureState) (uuid : String) : Prop where
  server : FreshId state.server.networks uuid
  manager : state.manager.services.get? uuid = none
  outbound : .unexposeService uuid ∉ state.outbound

/-- What holds at every step: the client is a member of one network, and an id that is drawn is not
in use. -/
structure Steady (clientId : String) (state : ExposureState) (event : ExposureEvent) :
    Prop where
  member : InOneNetwork state.server.networks clientId
  unused : ∀ uuid, event.drawn = some uuid → state.Unused uuid

/-- A dictionary of dictionaries has nothing under an id, on whatever network. -/
theorem serviceAt_none_iff {manager : NetworkManager} {uuid : String} :
    (∀ networkId, manager.serviceAt networkId uuid = none) ↔
      ∀ entry ∈ manager.services.entries, (entry.2.get? uuid).isNone = true := by
  constructor
  · intro none entry member
    have stored := none entry.1
    rw [NetworkManager.serviceAt, Dict.get?_eq_some_iff.mpr member] at stored
    exact Option.isNone_iff_eq_none.mpr stored
  · intro none networkId
    rw [NetworkManager.serviceAt]
    cases found : manager.services.get? networkId with
    | none => rfl
    | some serviceMap =>
      exact Option.isNone_iff_eq_none.mp (none _ (Dict.get?_eq_some_iff.mp found))

instance (manager : NetworkManager) (uuid : String) : Decidable (FreshId manager uuid) :=
  decidable_of_iff ((manager.get uuid).isNone = true ∧
      ∀ entry ∈ manager.services.entries, (entry.2.get? uuid).isNone = true)
    ⟨fun both => ⟨Option.isNone_iff_eq_none.mp both.1, serviceAt_none_iff.mpr both.2⟩,
      fun fresh => ⟨Option.isNone_iff_eq_none.mpr fresh.network,
        serviceAt_none_iff.mp fresh.service⟩⟩

instance (manager : NetworkManager) (clientId : String) :
    Decidable (InOneNetwork manager clientId) :=
  match listed : manager.listForClient clientId with
  | [record] => decidable_of_iff (clientId ∈ manager.members record.networkId)
    ⟨fun member => ⟨record, listed, member⟩, fun ⟨other, same, member⟩ => by
      rw [listed] at same
      obtain rfl := List.head_eq_of_cons_eq same
      exact member⟩
  | [] => isFalse fun ⟨other, same, _⟩ => by rw [listed] at same; cases same
  | _ :: _ :: _ => isFalse fun ⟨other, same, _⟩ => by rw [listed] at same; cases same

instance (state : ExposureState) (uuid : String) : Decidable (state.Unused uuid) :=
  decidable_of_iff (FreshId state.server.networks uuid ∧
      (state.manager.services.get? uuid).isNone = true ∧
      .unexposeService uuid ∉ state.outbound)
    ⟨fun ⟨server, manager, outbound⟩ => ⟨server, Option.isNone_iff_eq_none.mp manager, outbound⟩,
      fun unused => ⟨unused.server, Option.isNone_iff_eq_none.mpr unused.manager,
        unused.outbound⟩⟩

instance (clientId : String) (state : ExposureState) (event : ExposureEvent) :
    Decidable (Steady clientId state event) :=
  decidable_of_iff (InOneNetwork state.server.networks clientId ∧
      ∀ uuid ∈ event.drawn, state.Unused uuid)
    ⟨fun ⟨member, unused⟩ => ⟨member, unused⟩, fun ⟨member, unused⟩ => ⟨member, unused⟩⟩

/-- A call of `expose` passes a name, a protocol and a port that the server accepts. -/
def ExposureEvent.Valid (text : PyText) : ExposureEvent → Prop
  | .expose advert _ _ => advert.Accepted text
  | _ => True

instance (text : PyText) : (event : ExposureEvent) → Decidable (event.Valid text)
  | .expose advert _ _ => inferInstanceAs (Decidable (advert.Accepted text))
  | .unexpose _ | .process _ _ | .other _ => isTrue trivial

/-! ### What the server stores -/

/-- How the server stores what a client says about a service. -/
def Advert.received (text : PyText) (advert : Advert) : Advert :=
  ⟨advert.name, text.lower (if advert.protocol = "" then "tcp" else advert.protocol),
    if advert.localHost = "" then "127.0.0.1" else advert.localHost, advert.localPort⟩

theorem port?_ok {value : Int} {port : Nat} (accepted : port? (.int value) = some port) :
    (port : Int) = value := by
  unfold port? at accepted
  simp only at accepted
  split at accepted
  · obtain rfl := Option.some.inj accepted
    omega
  · cases accepted

/-- A text field, or a default where it is empty. -/
theorem getOr_str {payload : Dict String Json} {key value default : String}
    (stored : payload.get? key = some (.str value)) :
    getOr payload key (.str default) = .str (if value = "" then default else value) := by
  simp only [getOr, stored, Option.getD_some, Json.truthy, decide_eq_true_eq]
  by_cases empty : value = ""
  · rw [if_neg (not_not.mpr empty), if_pos empty]
  · rw [if_pos empty, if_neg empty]

/-- What the server's checks make of an accepted message. -/
theorem Advert.Accepted.validated {text : PyText} {advert : Advert}
    (accepted : advert.Accepted text) :
    ∃ protocol localPort, validateExposeService text
        (ServiceMessage.exposeService advert).make.payload =
          .ok (advert.name, protocol, (advert.received text).localHost, localPort) ∧
      protocol.value = (advert.received text).protocol ∧ (localPort : Int) = advert.localPort := by
  have name : (ServiceMessage.exposeService advert).make.payload.get? "name" =
    some (.str advert.name) := rfl
  have localPort : (ServiceMessage.exposeService advert).make.payload.get? "local_port" =
    some (.int advert.localPort) := rfl
  unfold Advert.Accepted at accepted
  unfold validateExposeService require at accepted ⊢
  rw [getOr_str rfl, getOr_str rfl, localPort, name] at accepted ⊢
  simp only [Option.getD_some, PyText.str] at accepted ⊢
  show ∃ (protocol : Transport) (localPort : Nat), _ ∧ protocol.value = text.lower _ ∧ _
  generalize text.lower (if advert.protocol = "" then "tcp" else advert.protocol) = lowered
    at accepted ⊢
  split at accepted
  · cases accepted
  · rename_i named
    rw [if_neg named]
    cases port : port? (.int advert.localPort) with
    | none =>
      rw [port] at accepted
      revert accepted
      simp only [bind, Except.bind]
      split <;> intro accepted <;> cases accepted
    | some localPort =>
      rw [port] at accepted
      revert accepted
      simp only [bind, Except.bind]
      split
      · intro _
        exact ⟨.tcp, localPort, rfl, rfl, port?_ok port⟩
      · intro _
        exact ⟨.udp, localPort, rfl, rfl, port?_ok port⟩
      · intro accepted
        cases accepted
/-! ### The server's table -/

/-- What a service adds to what the server says about the services of a provider. -/
def ServiceRecord.share (providerId : String) (service : ServiceRecord) : Multiset Advert :=
  if service.providerId = providerId then {service.advert} else 0

theorem share_of_ne {service : ServiceRecord} {providerId : String}
    (other : service.providerId ≠ providerId) : service.share providerId = 0 := if_neg other

theorem sum_share (providerId : String) (services : List ServiceRecord) :
    ((services.filter fun service => decide (service.providerId = providerId)).map
      ServiceRecord.advert : Multiset Advert) =
        (services.map (ServiceRecord.share providerId)).sum := by
  induction services with
  | nil => rfl
  | cons service rest inductionHypothesis =>
    rw [List.map_cons, List.sum_cons, ← inductionHypothesis]
    by_cases own : service.providerId = providerId
    · rw [List.filter_cons_of_pos (by simp [own]), ServiceRecord.share, if_pos own]
      rfl
    · rw [List.filter_cons_of_neg (by simp [own]), share_of_ne own, zero_add]

namespace NetworkManager

variable {manager : NetworkManager} {providerId networkId serviceId : String}

theorem adverts_eq_total (manager : NetworkManager) (providerId : String) :
    manager.adverts providerId = manager.services.total fun _ serviceMap =>
      serviceMap.total fun _ service => service.share providerId := by
  rw [adverts, sum_share, Dict.total_values, List.map_flatMap, List.flatMap_def, List.sum_flatten,
    List.map_map]
  refine congrArg List.sum (List.map_congr_left fun serviceMap _ => ?_)
  exact (serviceMap.total_values _).symm

/-- The state once a service is stored. -/
def withService (manager : NetworkManager) (networkId uuid : String) (service : ServiceRecord) :
    NetworkManager :=
  { manager with
    services := manager.services.insert networkId
      (((manager.services.get? networkId).getD Dict.empty).insert uuid service) }

/-- A service that is stored under an id that is not in use. -/
theorem adverts_expose {service : ServiceRecord} {uuid : String}
    (fresh : ∀ networkId, manager.serviceAt networkId uuid = none) :
    (manager.withService networkId uuid service).adverts providerId =
      service.share providerId + manager.adverts providerId := by
  have absent : ((manager.services.get? networkId).getD Dict.empty).get? uuid = none := by
    have none := fresh networkId
    rw [serviceAt] at none
    cases map : manager.services.get? networkId with
    | none => rfl
    | some serviceMap =>
      rw [map] at none
      exact none
  rw [adverts_eq_total, adverts_eq_total, withService, Dict.total_insert,
    Dict.total_insert_new _ _ absent,
    manager.services.total_eq_add_erase networkId, add_assoc]
  cases manager.services.get? networkId with
  | none => rfl
  | some serviceMap => rfl

/-- A service of another provider that is removed. -/
theorem adverts_unexpose {serviceMap : Dict String ServiceRecord}
    (stored : manager.services.get? networkId = some serviceMap)
    (other : ∀ service, serviceMap.get? serviceId = some service →
      service.providerId ≠ providerId) :
    ({ manager with services := manager.services.insert networkId (serviceMap.erase serviceId) } :
      NetworkManager).adverts providerId = manager.adverts providerId := by
  rw [adverts_eq_total, adverts_eq_total, Dict.total_insert,
    manager.services.total_eq_add_erase networkId, stored, Option.elim_some,
    serviceMap.total_eq_add_erase serviceId]
  cases removed : serviceMap.get? serviceId with
  | none => rw [Option.elim_none, zero_add]
  | some service => rw [Option.elim_some, share_of_ne (other service removed), zero_add]

/-- No service of a provider is under an id. -/
def ProvidesNone (manager : NetworkManager) (providerId serviceId : String) : Prop :=
  ∀ networkId service, manager.serviceAt networkId serviceId = some service →
    service.providerId ≠ providerId

theorem providesNone_of_fresh (fresh : FreshId manager serviceId) :
    manager.ProvidesNone providerId serviceId := by
  intro networkId service stored
  rw [fresh.service networkId] at stored
  cases stored

theorem ProvidesNone.untouched {next : NetworkManager}
    (none : manager.ProvidesNone providerId serviceId)
    (untouched : Untouched providerId manager next) : next.ProvidesNone providerId serviceId := by
  intro networkId service stored provides
  exact none networkId service ((untouched.services networkId serviceId service provides).mp stored)
    provides

theorem ProvidesNone.services {next : NetworkManager}
    (none : manager.ProvidesNone providerId serviceId) (same : next.services = manager.services) :
    next.ProvidesNone providerId serviceId := by
  intro networkId service stored
  rw [serviceAt, same] at stored
  exact none networkId service stored

theorem ProvidesNone.expose {service : ServiceRecord} {uuid : String}
    (none : manager.ProvidesNone providerId serviceId) (different : serviceId ≠ uuid) :
    (manager.withService networkId uuid service).ProvidesNone providerId serviceId := by
  intro oneNetwork stored found
  rw [serviceAt, withService, Dict.get?_insert] at found
  by_cases here : oneNetwork = networkId
  · rw [if_pos here, Option.bind_some, Dict.get?_insert_of_ne _ _ different] at found
    cases map : manager.services.get? networkId with
    | none =>
      rw [map] at found
      cases found
    | some serviceMap =>
      refine none networkId stored ?_
      rw [serviceAt, map]
      rw [map] at found
      exact found
  · rw [if_neg here] at found
    exact none oneNetwork stored found

end NetworkManager

/-! ### Steps of the server -/

/-- Nothing changes about the services of a client. -/
structure SameServices (clientId : String) (before after : NetworkManager) : Prop where
  adverts : after.adverts clientId = before.adverts clientId
  provides : ∀ serviceId, before.ProvidesNone clientId serviceId →
    after.ProvidesNone clientId serviceId

theorem sameServices_of_eq {clientId : String} {before after : NetworkManager}
    (same : after.services = before.services) : SameServices clientId before after := by
  refine ⟨?_, fun serviceId none => none.services same⟩
  rw [NetworkManager.adverts, NetworkManager.adverts, same]

section Steps

variable {packages : Packages} {server next : Server} {handled : Handled} {id : ConnId}
  {clientId commander : String} {message : Message} {choice : Choice} {event : ServerEvent}

/-- Two types of commands change services, and no other. -/
theorem services_command
    (ran : server.handleCommand packages commander message choice = some handled)
    (neither : ¬ (message.type = "EXPOSE_SERVICE" ∨ message.type = "UNEXPOSE_SERVICE")) :
    handled.networks.services = server.networks.services := by
  cases Server.command_cases ran with
  | exposed networkId name protocol localHost localPort first rest record typed valid listed chosen
      found member => exact absurd (.inl typed) neither
  | unexposed serviceId networkId serviceMap typed valid found =>
    exact absurd (.inr typed) neither
  | _ => rfl

/-- A command of another client. -/
theorem sameServices_other
    (ran : server.handleCommand packages commander message choice = some handled)
    (different : clientId ≠ commander) (fresh : FreshId server.networks choice.uuid) :
    SameServices clientId server.networks handled.networks := by
  refine ⟨?_, fun serviceId none => none.untouched (untouched_command ran different fresh)⟩
  cases Server.command_cases ran with
  | exposed networkId name protocol localHost localPort first rest record typed valid listed chosen
      found member =>
    refine (NetworkManager.adverts_expose fresh.service).trans ?_
    rw [share_of_ne different.symm, zero_add]
  | unexposed serviceId networkId serviceMap typed valid found =>
    have provided := List.find?_some found
    have stored := Dict.get?_eq_some_iff.mpr (List.mem_of_find?_eq_some found)
    refine NetworkManager.adverts_unexpose stored fun service present => ?_
    simp only [NetworkManager.providedBy, present] at provided
    rw [of_decide_eq_true provided]
    exact different.symm
  | _ => rfl

/-- A step of the server other than a service command of the client. -/
theorem sameServices_step (stepped : server.step packages event = some next)
    (foreign : server.commandsServices clientId event = false)
    (fresh : ∀ uuid, (ExposureEvent.other event).drawn = some uuid →
      FreshId server.networks uuid) : SameServices clientId server.networks next.networks := by
  cases step_cases stepped with
  | dispatch id message choice connection commander handled found waiting registered authenticated
      ran =>
    by_cases own : clientId = commander
    · refine sameServices_of_eq (services_command ran fun either => ?_)
      have speaks : server.speaksFor id clientId = true := by
        simp [Server.speaksFor, found, registered, authenticated, own]
      simp only [Server.commandsServices, speaks, Bool.true_and, decide_eq_false_iff_not] at foreign
      exact foreign either
    · exact sameServices_other ran own (fresh choice.uuid rfl)
  | _ => exact sameServices_of_eq rfl

/-- A connection that takes a message of an authenticated client is ready for it. -/
theorem ready_of_speaks (speaks : server.speaksFor id clientId = true)
    (stepped : server.step packages (.receive id message choice) = some next) :
    ∃ connection, Ready server id clientId connection := by
  obtain ⟨connection, found, both⟩ := (Option.any_eq_true _ _).mp speaks
  obtain ⟨registered, authenticated⟩ := Bool.and_eq_true_iff.mp both
  simp only [Server.step, found, Option.bind_some] at stepped
  split at stepped
  · rename_i waiting
    exact ⟨connection, found, waiting, of_decide_eq_true registered, authenticated⟩
  · cases stepped

/-- An EXPOSE_SERVICE of a client that is a member of one network is stored. -/
theorem receive_expose {advert : Advert} (member : InOneNetwork server.networks clientId)
    (accepted : advert.Accepted packages.text) (speaks : server.speaksFor id clientId = true)
    (stepped : server.step packages
      (.receive id (ServiceMessage.exposeService advert).make choice) = some next) :
    ∃ networkId service,
      next.networks = server.networks.withService networkId choice.uuid service ∧
      service.share clientId = {advert.received packages.text} := by
  obtain ⟨connection, ready⟩ := ready_of_speaks speaks stepped
  obtain ⟨record, listed, member⟩ := member
  obtain ⟨stored, found, own⟩ := NetworkManager.mem_members.mp member
  obtain ⟨protocol, localPort, validated, value, port⟩ := accepted.validated
  rw [step_of_ready ready, handleCommand_exposes rfl validated listed rfl found own] at stepped
  obtain rfl := Option.some.inj stepped
  refine ⟨record.networkId, ⟨choice.uuid, record.networkId, clientId, advert.name, protocol,
    (advert.received packages.text).localHost, localPort, choice.now⟩, rfl, ?_⟩
  rw [ServiceRecord.share, if_pos rfl, ServiceRecord.advert, value, port]
  rfl

theorem validateServiceId_make {text : PyText} {serviceId named : String}
    (valid : validateServiceId text (ServiceMessage.unexposeService serviceId).make.payload =
      .ok named) : serviceId = named := by
  have stored : (ServiceMessage.unexposeService serviceId).make.payload.get? "service_id" =
    some (.str serviceId) := rfl
  unfold validateServiceId validateField require at valid
  rw [stored] at valid
  simp only [Option.getD_some] at valid
  split at valid
  · cases valid
  · exact Except.ok.inj valid

/-- An UNEXPOSE_SERVICE with an id under which the client has no service. -/
theorem receive_unexpose {serviceId : String}
    (none : server.networks.ProvidesNone clientId serviceId)
    (speaks : server.speaksFor id clientId = true)
    (stepped : server.step packages
      (.receive id (ServiceMessage.unexposeService serviceId).make choice) = some next) :
    next.networks.services = server.networks.services := by
  obtain ⟨connection, ready⟩ := ready_of_speaks speaks stepped
  rw [step_of_ready ready] at stepped
  obtain ⟨handled, ran, rfl⟩ := Option.map_eq_some_iff.mp stepped
  show handled.networks.services = server.networks.services
  cases Server.command_cases ran with
  | exposed networkId name protocol localHost localPort first rest record typed =>
    exact absurd typed (by decide : "UNEXPOSE_SERVICE" ≠ "EXPOSE_SERVICE")
  | unexposed namedId networkId serviceMap typed valid found =>
    obtain rfl := validateServiceId_make valid
    have provided := List.find?_some found
    have stored := Dict.get?_eq_some_iff.mpr (List.mem_of_find?_eq_some found)
    simp only [NetworkManager.providedBy] at provided
    split at provided
    · cases provided
    · rename_i service present
      refine absurd (of_decide_eq_true provided) (none networkId service ?_)
      rw [NetworkManager.serviceAt, stored, Option.bind_some, present]
  | _ => rfl

end Steps

/-! ### What was sent is stored or on its way -/

/-- What a message on its way adds to what the server will say. -/
def ServiceMessage.share (text : PyText) : ServiceMessage → Multiset Advert
  | .exposeService advert => {advert.received text}
  | .unexposeService _ => 0

/-- What a step sends. -/
def ExposureEvent.share (json : JsonText) (text : PyText) : ExposureEvent → Multiset Advert
  | .expose advert _ _ =>
    if Sendable json (.exposeService advert) then {advert.received text} else 0
  | _ => 0

/-- What is sent in a run. -/
def sentIn (json : JsonText) (text : PyText) (events : List ExposureEvent) : Multiset Advert :=
  (events.map (ExposureEvent.share json text)).sum

/-- The manager has a service under an id, or has said that it had one. -/
def ExposureState.Names (state : ExposureState) (serviceId : String) : Prop :=
  state.manager.services.get? serviceId ≠ none ∨ .unexposeService serviceId ∈ state.outbound

/-- What the server says about the services of a client, together with what is on its way, is what
was sent; and the ids of the manager are not among those of the server. -/
structure Delivers (text : PyText) (clientId : String) (sent : Multiset Advert)
    (state : ExposureState) : Prop where
  balance : state.server.networks.adverts clientId +
    (state.outbound.map (ServiceMessage.share text)).sum = sent
  apart : ∀ serviceId, state.Names serviceId →
    state.server.networks.ProvidesNone clientId serviceId
  accepted : ∀ advert, .exposeService advert ∈ state.outbound → advert.Accepted text

section Delivery

variable {packages : Packages} {json : JsonText} {text : PyText} {clientId : String}
  {sent : Multiset Advert} {state next start final : ExposureState}

theorem mem_trySend {outbound : List ServiceMessage} {message other : ServiceMessage}
    (member : other ∈ trySend json outbound message) : other ∈ outbound ∨ other = message := by
  unfold trySend at member
  split at member
  · rcases List.mem_append.mp member with old | new
    · exact .inl old
    · exact .inr (List.mem_singleton.mp new)
  · exact .inl member

theorem sum_trySend (outbound : List ServiceMessage) (message : ServiceMessage) :
    ((trySend json outbound message).map (ServiceMessage.share text)).sum =
      (outbound.map (ServiceMessage.share text)).sum +
        if Sendable json message then message.share text else 0 := by
  unfold trySend
  split
  · rw [List.map_append, List.sum_append, List.map_singleton, List.sum_singleton]
  · rw [add_zero]

theorem Delivers.expose {advert : Advert} {uuid : String} {now : Time}
    (delivers : Delivers text clientId sent state) (unused : state.Unused uuid)
    (accepted : advert.Accepted text) :
    Delivers text clientId (sent + (ExposureEvent.expose advert uuid now).share json text)
      { state with
        manager := (state.manager.expose advert uuid now).1
        outbound := trySend json state.outbound (.exposeService advert) } where
  balance := by
    rw [sum_trySend, ← add_assoc, delivers.balance]
    rfl
  apart serviceId named := by
    rcases named with stored | member
    · by_cases drawn : serviceId = uuid
      · rw [drawn]
        exact NetworkManager.providesNone_of_fresh unused.server
      · refine delivers.apart serviceId (.inl fun none => stored ?_)
        exact (Dict.get?_insert_of_ne _ _ drawn).trans none
    · rcases mem_trySend member with old | new
      · exact delivers.apart serviceId (.inr old)
      · cases new
  accepted other member := by
    rcases mem_trySend member with old | new
    · exact delivers.accepted other old
    · cases new
      exact accepted

theorem Delivers.unexpose {serviceId : String} {service : ExposedService}
    (delivers : Delivers text clientId sent state)
    (stored : state.manager.services.get? serviceId = some service) :
    Delivers text clientId sent
      { state with
        manager := ⟨state.manager.services.erase serviceId⟩
        outbound := trySend json state.outbound (.unexposeService serviceId) } where
  balance := by
    rw [sum_trySend, ServiceMessage.share, ite_self, add_zero, delivers.balance]
  apart other named := by
    rcases named with present | member
    · refine delivers.apart other (.inl fun none => present ?_)
      rw [Dict.get?_erase, none, ite_self]
    · rcases mem_trySend member with old | new
      · exact delivers.apart other (.inr old)
      · obtain rfl := ServiceMessage.unexposeService.inj new
        refine delivers.apart other (.inl ?_)
        rw [stored]
        exact Option.some_ne_none service
  accepted advert member := by
    rcases mem_trySend member with old | new
    · exact delivers.accepted advert old
    · cases new

/-- A step of the server that changes no service of the client, and takes no EXPOSE_SERVICE off the
messages. -/
theorem Delivers.server {server : Server} {outbound : List ServiceMessage}
    (delivers : Delivers text clientId sent state)
    (same : SameServices clientId state.server.networks server.networks)
    (sum : (outbound.map (ServiceMessage.share text)).sum =
      (state.outbound.map (ServiceMessage.share text)).sum)
    (fewer : ∀ message ∈ outbound, message ∈ state.outbound) :
    Delivers text clientId sent { state with outbound := outbound, server := server } where
  balance := by
    rw [same.adverts, sum, delivers.balance]
  apart serviceId named :=
    same.provides serviceId (delivers.apart serviceId (named.imp_right (fewer _)))
  accepted advert member := delivers.accepted advert (fewer _ member)

/-- The server receives an EXPOSE_SERVICE. -/
theorem Delivers.exposed {advert : Advert} {rest : List ServiceMessage} {networkId uuid : String}
    {service : ServiceRecord} {server : Server} (delivers : Delivers text clientId sent state)
    (outbound : state.outbound = .exposeService advert :: rest) (unused : state.Unused uuid)
    (stored : server.networks = state.server.networks.withService networkId uuid service)
    (share : service.share clientId = {advert.received text}) :
    Delivers text clientId sent { state with outbound := rest, server := server } where
  balance := by
    have before := delivers.balance
    rw [outbound, List.map_cons, List.sum_cons] at before
    rw [stored, NetworkManager.adverts_expose unused.server.service, share, ← before]
    show _ = _ + ({advert.received text} + _)
    rw [add_comm {advert.received text}, add_assoc]
  apart serviceId named := by
    rw [stored]
    have old : state.Names serviceId := by
      refine named.imp_right fun member => ?_
      rw [outbound]
      exact List.mem_cons_of_mem _ member
    refine (delivers.apart serviceId old).expose fun drawn => ?_
    rcases old with present | member
    · exact present (drawn ▸ unused.manager)
    · exact unused.outbound (drawn ▸ member)
  accepted other member := by
    refine delivers.accepted other ?_
    rw [outbound]
    exact List.mem_cons_of_mem _ member

theorem Delivers.step {event : ExposureEvent}
    (delivers : Delivers packages.text clientId sent state)
    (steady : Steady clientId state event) (valid : event.Valid packages.text)
    (stepped : state.step packages json clientId event = some next) :
    Delivers packages.text clientId (sent + event.share json packages.text) next := by
  -- Only `expose` adds to what was sent.
  have silent (delivered : Delivers packages.text clientId sent next) :
      Delivers packages.text clientId (sent + 0) next := by
    rw [add_zero]
    exact delivered
  cases exposure_cases stepped with
  | exposed advert uuid now => exact delivers.expose (steady.unused uuid rfl) valid
  | unknown serviceId absent => exact silent delivers
  | unexposed serviceId service stored => exact silent (delivers.unexpose stored)
  | processed id choice message rest server outbound speaks received =>
    refine silent ?_
    have here : message ∈ state.outbound := by
      rw [outbound]
      exact List.mem_cons_self
    cases message with
    | exposeService advert =>
      obtain ⟨networkId, service, stored, share⟩ := receive_expose steady.member
        (delivers.accepted advert here) speaks received
      exact delivers.exposed outbound (steady.unused choice.uuid rfl) stored share
    | unexposeService serviceId =>
      have none := delivers.apart serviceId (.inr here)
      refine delivers.server (sameServices_of_eq (receive_unexpose none speaks received)) ?_
        fun other member => ?_
      · rw [outbound, List.map_cons, List.sum_cons]
        exact (zero_add _).symm
      · rw [outbound]
        exact List.mem_cons_of_mem _ member
  | elsewhere event server foreign taken =>
    exact silent (delivers.server (sameServices_step taken foreign
      fun uuid drawn => (steady.unused uuid drawn).server) rfl fun _ member => member)

theorem Delivers.run {events : List ExposureEvent}
    (delivers : Delivers packages.text clientId sent start)
    (valid : ∀ event ∈ events, event.Valid packages.text)
    (along : HoldsAlong (ExposureState.step packages json clientId) (Steady clientId) start
      events)
    (ran : runFrom (ExposureState.step packages json clientId) start events = some final) :
    Delivers packages.text clientId (sent + sentIn json packages.text events) final := by
  induction events generalizing start sent with
  | nil =>
    obtain rfl := Option.some.inj ran
    rw [sentIn, List.map_nil, List.sum_nil, add_zero]
    exact delivers
  | cons event rest inductionHypothesis =>
    obtain ⟨next, stepped, ranOn⟩ := runFrom_cons.mp ran
    have taken := delivers.step along.1 (valid event List.mem_cons_self) stepped
    have later := inductionHypothesis taken
      (fun other member => valid other (List.mem_cons_of_mem _ member)) (along.2 next stepped) ranOn
    rw [add_assoc] at later
    exact later

end Delivery

end LocalNetwork
