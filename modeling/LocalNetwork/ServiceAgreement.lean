/-
This file proves when a client and the server agree on the services that the client exposes.

What the server has stored is what was sent. What was sent is what was asked for only where
the message could be encoded and was not too large, what is stored is what was sent only where
the server has no default to put in, and a service that is unexposed stays on the server for
good. So the two sides agree exactly where every service that is exposed is sent as it is
stored, and is never unexposed.
-/

import LocalNetwork.ServiceDelivery

namespace LocalNetwork

/-! ### When the two sides agree -/

/-- `str.lower` leaves the names of the two transports alone. -/
structure LowersTransports (text : PyText) : Prop where
  tcp : text.lower "tcp" = "tcp"
  udp : text.lower "udp" = "udp"

/-- A new manager and a server take part in a run, in which no step is out of order, and at its end
nothing is on its way. -/
structure ExposureSession (packages : Packages) (json : JsonText) (clientId : String)
    (start : ExposureState) (events : List ExposureEvent) (final : ExposureState) : Prop where
  new : start.manager = ServiceExposureManager.init
  quiet : start.outbound = []
  valid : ∀ event ∈ events, event.Valid packages.text
  steady : HoldsAlong (ExposureState.step packages json clientId) (Steady clientId) start
    events
  ran : runFrom (ExposureState.step packages json clientId) start events = some final
  processed : final.outbound = []

/-- Whether a service is unexposed in a run. -/
def unexposedIn (serviceId : String) (events : List ExposureEvent) : Bool :=
  events.any fun
    | .unexpose other => decide (other = serviceId)
    | _ => false

/-- The server puts in no default and changes no letter. -/
structure Advert.Plain (advert : Advert) : Prop where
  protocol : advert.protocol = "tcp" ∨ advert.protocol = "udp"
  localHost : advert.localHost ≠ ""

/-- A service that is sent is plain and never unexposed, and one that cannot be sent (it is too large,
or it cannot be encoded) is unexposed in the end. -/
def ExposuresKept (json : JsonText) : List ExposureEvent → Prop
  | [] => True
  | .expose advert uuid _ :: rest =>
    (if Sendable json (.exposeService advert) then
      advert.Plain ∧ unexposedIn uuid rest = false
    else unexposedIn uuid rest = true) ∧ ExposuresKept json rest
  | _ :: rest => ExposuresKept json rest

/-- What is plain is stored as it is. -/
theorem Advert.Plain.received_eq {text : PyText} {advert : Advert}
    (lowers : LowersTransports text) (plain : advert.Plain) : advert.received text = advert := by
  have protocol : (advert.received text).protocol = advert.protocol := by
    rcases plain.protocol with same | same
    · simp [received, same, lowers.tcp]
    · simp [received, same, lowers.udp]
  have localHost : (advert.received text).localHost = advert.localHost := if_neg plain.localHost
  show (⟨advert.name, (advert.received text).protocol, (advert.received text).localHost,
    advert.localPort⟩ : Advert) = advert
  rw [protocol, localHost]

/-- What is stored is plain. -/
theorem Advert.Accepted.plain_received {text : PyText} {advert : Advert}
    (accepted : advert.Accepted text) : (advert.received text).Plain := by
  obtain ⟨protocol, -, -, value, -⟩ := accepted.validated
  refine ⟨?_, ?_⟩
  · cases protocol with
    | tcp => exact .inl value.symm
    | udp => exact .inr value.symm
  · show (if advert.localHost = "" then "127.0.0.1" else advert.localHost) ≠ ""
    split
    · decide
    · assumption

/-! ### What the client lists -/

/-- What is exposed in a run and not unexposed afterwards. -/
def keptIn : List ExposureEvent → Multiset Advert
  | [] => 0
  | .expose advert uuid _ :: rest =>
    (if unexposedIn uuid rest = true then 0 else {advert}) + keptIn rest
  | _ :: rest => keptIn rest

/-- What a service of the manager adds to the list at the end of a run. -/
def ExposedService.share (events : List ExposureEvent) (serviceId : String)
    (service : ExposedService) : Multiset Advert :=
  if unexposedIn serviceId events = true then 0 else {service.toAdvert}

section Listing

variable {packages : Packages} {json : JsonText} {clientId : String}
  {state next start final : ExposureState}

theorem adverts_manager (manager : ServiceExposureManager) :
    manager.adverts = manager.services.total (ExposedService.share []) := by
  show (manager.services.values.map ExposedService.toAdvert : Multiset Advert) =
    manager.services.total fun _ service => {service.toAdvert}
  rw [Dict.total_values]
  induction manager.services.values with
  | nil => rfl
  | cons service rest inductionHypothesis =>
    rw [List.map_cons, List.map_cons, List.sum_cons, ← inductionHypothesis]
    rfl

theorem unexposedIn_unexpose (serviceId other : String) (rest : List ExposureEvent) :
    unexposedIn other (.unexpose serviceId :: rest) =
      (decide (serviceId = other) || unexposedIn other rest) := rfl

/-- A service that is going to be unexposed does not count. -/
theorem total_share_unexpose (services : Dict String ExposedService) (serviceId : String)
    (rest : List ExposureEvent) :
    services.total (ExposedService.share (.unexpose serviceId :: rest)) =
      (services.erase serviceId).total (ExposedService.share rest) := by
  rw [services.total_eq_add_erase serviceId]
  have gone (service : ExposedService) :
      service.share (.unexpose serviceId :: rest) serviceId = 0 := by
    rw [ExposedService.share, unexposedIn_unexpose, decide_eq_true rfl, Bool.true_or, if_pos rfl]
  have first : (services.get? serviceId).elim 0
      (ExposedService.share (.unexpose serviceId :: rest) serviceId) = 0 := by
    cases services.get? serviceId with
    | none => rfl
    | some service => exact gone service
  rw [first, zero_add]
  refine Dict.total_congr _ fun other service stored => ?_
  have different : serviceId ≠ other := by
    rintro rfl
    rw [Dict.get?_erase_self] at stored
    cases stored
  rw [ExposedService.share, unexposedIn_unexpose, decide_eq_false different, Bool.false_or]
  rfl

theorem listed_step {event : ExposureEvent} (rest : List ExposureEvent)
    (steady : Steady clientId state event)
    (stepped : state.step packages json clientId event = some next) :
    next.manager.services.total (ExposedService.share rest) + keptIn rest =
      state.manager.services.total (ExposedService.share (event :: rest)) +
        keptIn (event :: rest) := by
  cases exposure_cases stepped with
  | exposed advert uuid now =>
    show (state.manager.services.insert uuid _).total _ + _ =
      state.manager.services.total (ExposedService.share rest) + (_ + keptIn rest)
    rw [Dict.total_insert_new _ _ (steady.unused uuid rfl).manager, ExposedService.share,
      add_left_comm, add_assoc]
  | unknown serviceId absent =>
    rw [total_share_unexpose, state.manager.services.total_eq_add_erase serviceId, absent,
      Option.elim_none, zero_add]
    rfl
  | unexposed serviceId service stored =>
    rw [total_share_unexpose]
    rfl
  | processed id choice message others server outbound speaks received => rfl
  | elsewhere event server foreign taken => rfl

/-- At the end the client lists what it had and what it exposed, less what it unexposed. -/
theorem listed_run {events : List ExposureEvent}
    (along : HoldsAlong (ExposureState.step packages json clientId) (Steady clientId) start
      events)
    (ran : runFrom (ExposureState.step packages json clientId) start events = some final) :
    final.manager.adverts =
      start.manager.services.total (ExposedService.share events) + keptIn events := by
  induction events generalizing start with
  | nil =>
    obtain rfl := Option.some.inj ran
    exact (adverts_manager _).trans (add_zero _).symm
  | cons event rest inductionHypothesis =>
    obtain ⟨next, stepped, ranOn⟩ := runFrom_cons.mp ran
    rw [inductionHypothesis (along.2 next stepped) ranOn, listed_step rest along.1 stepped]

end Listing

/-! ### What is sent and what is kept -/

section Counting

variable {packages : Packages} {json : JsonText} {text : PyText} {clientId : String}
  {start final : ExposureState} {events : List ExposureEvent}

theorem sentIn_cons (event : ExposureEvent) (rest : List ExposureEvent) :
    sentIn json text (event :: rest) = event.share json text + sentIn json text rest := rfl

/-- Everything that is sent is stored in a plain form. -/
theorem plain_of_mem_sentIn (valid : ∀ event ∈ events, event.Valid text) {advert : Advert}
    (member : advert ∈ sentIn json text events) : advert.Plain := by
  induction events with
  | nil => cases member
  | cons event rest inductionHypothesis =>
    rw [sentIn_cons] at member
    rcases Multiset.mem_add.mp member with here | later
    · cases event with
      | expose exposed uuid now =>
        have accepted : exposed.Accepted text := valid _ List.mem_cons_self
        rw [ExposureEvent.share] at here
        split at here
        · rw [Multiset.mem_singleton.mp here]
          exact accepted.plain_received
        · cases here
      | _ => cases here
    · exact inductionHypothesis (fun other listed => valid other (List.mem_cons_of_mem _ listed))
        later

/-- Where the condition holds, what is sent is kept. -/
theorem sentIn_eq_keptIn (lowers : LowersTransports text) (kept : ExposuresKept json events) :
    sentIn json text events = keptIn events := by
  induction events with
  | nil => rfl
  | cons event rest inductionHypothesis =>
    rw [sentIn_cons]
    cases event with
    | expose advert uuid now =>
      obtain ⟨here, later⟩ := kept
      rw [inductionHypothesis later, ExposureEvent.share, keptIn]
      split at here
      · rename_i sendable
        rw [if_pos sendable, here.1.received_eq lowers, here.2, if_neg Bool.false_ne_true]
      · rename_i unsent
        rw [if_neg unsent, if_pos here]
    | _ => exact (zero_add _).trans (inductionHypothesis kept)

/-- One `expose`, with what it sends and what it keeps. -/
theorem card_share {advert : Advert} {uuid : String} {now : Time} :
    ((ExposureEvent.expose advert uuid now).share json text).card =
      if Sendable json (.exposeService advert) then 1 else 0 := by
  rw [ExposureEvent.share]
  split <;> rfl

/-- If only what is sent is kept, then no more is kept than was sent. -/
theorem card_keptIn_le
    (sendable : ∀ advert ∈ keptIn events, Sendable json (.exposeService advert)) :
    (keptIn events).card ≤ (sentIn json text events).card := by
  induction events with
  | nil => exact le_rfl
  | cons event rest inductionHypothesis =>
    rw [sentIn_cons, Multiset.card_add]
    cases event with
    | expose advert uuid now =>
      have later := inductionHypothesis fun other member =>
        sendable other (Multiset.mem_add.mpr (.inr member))
      rw [keptIn, Multiset.card_add, card_share]
      refine Nat.add_le_add ?_ later
      split
      · exact Nat.zero_le _
      · rename_i kept
        have here : advert ∈ keptIn (.expose advert uuid now :: rest) := by
          rw [keptIn, if_neg kept]
          exact Multiset.mem_add.mpr (.inl (Multiset.mem_singleton_self advert))
        rw [if_pos (sendable advert here)]
        exact le_rfl
    | _ => exact (inductionHypothesis sendable).trans (Nat.le_add_left _ _)

/-- If only what is sent and plain is kept, and no less than was sent, then the condition holds. -/
theorem exposuresKept_of_card
    (settled : ∀ advert ∈ keptIn events,
      Sendable json (.exposeService advert) ∧ advert.Plain)
    (enough : (sentIn json text events).card ≤ (keptIn events).card) :
    ExposuresKept json events := by
  induction events with
  | nil => trivial
  | cons event rest inductionHypothesis =>
    rw [sentIn_cons, Multiset.card_add] at enough
    cases event with
    | expose advert uuid now =>
      rw [keptIn, Multiset.card_add, card_share] at enough
      have settledLater : ∀ other ∈ keptIn rest,
          Sendable json (.exposeService other) ∧ other.Plain := fun other member =>
        settled other (Multiset.mem_add.mpr (.inr member))
      have later := @card_keptIn_le json text rest fun other member =>
        (settledLater other member).1
      by_cases unexposed : unexposedIn uuid rest = true
      · rw [if_pos unexposed, Multiset.card_zero] at enough
        have unsent : ¬ Sendable json (.exposeService advert) := by
          intro sendable
          rw [if_pos sendable] at enough
          omega
        rw [if_neg unsent] at enough
        refine ⟨?_, inductionHypothesis settledLater (by omega)⟩
        rw [if_neg unsent]
        exact unexposed
      · have here : advert ∈ keptIn (.expose advert uuid now :: rest) := by
          rw [keptIn, if_neg unexposed]
          exact Multiset.mem_add.mpr (.inl (Multiset.mem_singleton_self advert))
        obtain ⟨sendable, plain⟩ := settled advert here
        rw [if_neg unexposed, if_pos sendable, Multiset.card_singleton] at enough
        refine ⟨?_, inductionHypothesis settledLater (by omega)⟩
        rw [if_pos sendable]
        exact ⟨plain, Bool.eq_false_iff.mpr unexposed⟩
    | _ => exact inductionHypothesis settled (by simpa [ExposureEvent.share, keptIn] using enough)

end Counting

/-! ### Agreement -/

/-- The client and the server agree at the end if the server had no service of the client before,
and every service is sent as it is stored and never unexposed, or never sent and unexposed. And
unless the server stores a service that could not be sent itself, they do not agree otherwise. -/
theorem services_agree_iff (packages : Packages) (json : JsonText) (clientId : String)
    (lowers : LowersTransports packages.text) (start : ExposureState)
    (events : List ExposureEvent) (final : ExposureState)
    (session : ExposureSession packages json clientId start events final) :
    (start.server.networks.adverts clientId = 0 ∧ ExposuresKept json events →
      final.Agree clientId) ∧
    ((∀ advert ∈ final.server.networks.adverts clientId,
        Sendable json (.exposeService advert)) →
      final.Agree clientId →
      start.server.networks.adverts clientId = 0 ∧ ExposuresKept json events) := by
  have initially : Delivers packages.text clientId (start.server.networks.adverts clientId)
      start := by
    refine ⟨?_, fun serviceId named => ?_, fun advert member => ?_⟩
    · rw [session.quiet]
      exact add_zero _
    · rcases named with present | member
      · rw [session.new] at present
        exact absurd rfl present
      · rw [session.quiet] at member
        cases member
    · rw [session.quiet] at member
      cases member
  have stored := (initially.run session.valid session.steady session.ran).balance
  rw [session.processed, List.map_nil, List.sum_nil, add_zero] at stored
  have listed := listed_run session.steady session.ran
  rw [session.new, ServiceExposureManager.init, Dict.total_empty, zero_add] at listed
  rw [ExposureState.Agree, stored, listed]
  constructor
  · rintro ⟨none, kept⟩
    rw [none, zero_add, sentIn_eq_keptIn lowers kept]
  · intro sendable same
    rw [same] at sendable
    have fewer := @card_keptIn_le json packages.text events sendable
    rw [← same, Multiset.card_add] at fewer
    have none : start.server.networks.adverts clientId = 0 :=
      Multiset.card_eq_zero.mp (by omega)
    rw [none, zero_add] at same
    refine ⟨none, exposuresKept_of_card (fun advert member => ⟨sendable advert member, ?_⟩)
      (congrArg Multiset.card same).le⟩
    rw [← same] at member
    exact plain_of_mem_sentIn session.valid member

/-! ### Two sessions -/

/-- A member of a payload, none of whose texts needs an escape. -/
def memberText : String × Json → String
  | (key, .str value) => "\"" ++ key ++ "\":\"" ++ value ++ "\""
  | (key, .int value) => "\"" ++ key ++ "\":" ++ toString value
  | _ => ""

/-- The JSON library on messages with a payload of texts and numbers. -/
def payloadJson : JsonText where
  dumps body := pyStr <| match body with
    | .obj [("type", .str type), ("payload", .obj members)] =>
      "\x7b\"type\":\"" ++ type ++ "\",\"payload\":\x7b" ++
        ",".intercalate (members.map memberText) ++ "\x7d\x7d"
    | _ => ""
  loads := plainJson.loads

def webService : Advert := ⟨"web", "tcp", "127.0.0.1", 8080⟩

/-- A client that is the only member of its network. -/
def exposureStart : ExposureState :=
  ⟨ServiceExposureManager.init, [], serverAfter (login 0 "client-0001" [] ++ createNetwork 0)⟩

/-- The client exposes a service, and the server stores it and answers. -/
def exposeWeb : List ExposureEvent :=
  [.expose webService "drawn-by-client" 1, .process 0 { calm [] with uuid := "drawn-by-server" },
    .other (.advance 0 (calm [])), .other (.advance 0 (calm []))]

/-- Then it unexposes the service. -/
def unexposeWeb : List ExposureEvent :=
  [.unexpose "drawn-by-client", .process 0 { calm [] with uuid := "unused" },
    .other (.advance 0 (calm []))]

/-- The state after a run, for runs that go through. -/
def exposureAfter (events : List ExposureEvent) : ExposureState :=
  (runFrom (ExposureState.step plainPackages payloadJson "client-0001") exposureStart
    events).getD exposureStart

/-- A run that goes through is a session. What is evaluated of it is one proposition, so that the
run is gone through once. -/
theorem session_of_run {events : List ExposureEvent} {listed stored : Multiset Advert}
    (valid : ∀ event ∈ events, event.Valid plainPackages.text)
    (evaluated : HoldsAlong (ExposureState.step plainPackages payloadJson "client-0001")
        (Steady "client-0001") exposureStart events ∧
      (runFrom (ExposureState.step plainPackages payloadJson "client-0001") exposureStart
        events).isSome = true ∧
      (exposureAfter events).outbound = [] ∧ (exposureAfter events).manager.adverts = listed ∧
      (exposureAfter events).server.networks.adverts "client-0001" = stored) :
    ExposureSession plainPackages payloadJson "client-0001" exposureStart events
        (exposureAfter events) ∧
      (exposureAfter events).manager.adverts = listed ∧
      (exposureAfter events).server.networks.adverts "client-0001" = stored := by
  obtain ⟨steady, through, processed, lists⟩ := evaluated
  exact ⟨⟨rfl, rfl, valid, steady, some_of_isSome through exposureStart, processed⟩, lists⟩

theorem lowersTransports_plain : LowersTransports plainPackages.text := ⟨rfl, rfl⟩

/-- A service that is exposed and stays so is on both lists. -/
theorem services_agree_web :
    ExposureSession plainPackages payloadJson "client-0001" exposureStart exposeWeb
        (exposureAfter exposeWeb) ∧
      (exposureAfter exposeWeb).manager.adverts = {webService} ∧
      (exposureAfter exposeWeb).Agree "client-0001" := by
  obtain ⟨session, listed, -⟩ := @session_of_run exposeWeb {webService} {webService}
    (by decide +kernel) (by decide +kernel)
  refine ⟨session, listed, (services_agree_iff plainPackages payloadJson "client-0001"
    lowersTransports_plain exposureStart exposeWeb _ session).1 ⟨by decide +kernel, ?_, trivial⟩⟩
  rw [if_pos (by decide +kernel)]
  exact ⟨⟨.inl rfl, by decide⟩, rfl⟩

/-- A service that is unexposed is gone from the client's list, and stays on the server's. -/
theorem unexposed_service_stays :
    ExposureSession plainPackages payloadJson "client-0001" exposureStart
        (exposeWeb ++ unexposeWeb) (exposureAfter (exposeWeb ++ unexposeWeb)) ∧
      (exposureAfter (exposeWeb ++ unexposeWeb)).manager.adverts = 0 ∧
      (exposureAfter (exposeWeb ++ unexposeWeb)).server.networks.adverts "client-0001" =
        {webService} ∧
      ¬ (exposureAfter (exposeWeb ++ unexposeWeb)).Agree "client-0001" := by
  obtain ⟨session, listed, stored⟩ := @session_of_run (exposeWeb ++ unexposeWeb) 0 {webService}
    (by decide +kernel) (by decide +kernel)
  refine ⟨session, listed, stored, fun agree => ?_⟩
  rw [ExposureState.Agree, listed, stored] at agree
  exact Multiset.singleton_ne_zero webService agree

end LocalNetwork
