/-
This file compares the peers that a topology manager names with what it answered to the
events. A manager that connects to all its peers keeps them in a dictionary, from which a
peer goes when it goes offline. A spoke, and a client behind a gateway, keep nothing: they
name their hub or gateway before it came online and after it went offline, so that the two
agree exactly while it is online.
-/

import LocalNetwork.TopologyManager

namespace LocalNetwork

namespace TopologyManager

def PeerEvent.peerId : PeerEvent → String
  | .online peerId _ => peerId
  | .offline peerId => peerId

/-- What the call of an event returns. -/
def answer (manager : TopologyManager) : PeerEvent → Bool
  | .online peerId peerIp => (manager.onPeerOnline peerId peerIp).1
  | .offline peerId => (manager.onPeerOffline peerId).1

/-- The events with what their calls returned. -/
def answers : TopologyManager → List PeerEvent → List (PeerEvent × Bool)
  | _, [] => []
  | manager, event :: rest => (event, manager.answer event) :: answers (manager.hear event) rest

/-- The last event about a peer. -/
def lastEvent (events : List PeerEvent) (peerId : String) : Option PeerEvent :=
  (events.filter fun event => decide (event.peerId = peerId)).getLast?

/-- The last event about a peer, with what its call returned. -/
def lastAnswer (answers : List (PeerEvent × Bool)) (peerId : String) : Option (PeerEvent × Bool) :=
  (answers.filter fun call => decide (call.1.peerId = peerId)).getLast?

/-- The peers that a manager names after the events are those whose last event was a call of
`on_peer_online` that returned True. -/
def NamesPeers (manager : TopologyManager) (events : List PeerEvent) : Prop :=
  ∀ peer, peer ∈ (events.foldl hear manager).getPeersToConnect ↔
    ∃ peerId peerIp, peer = some peerId ∧
      lastAnswer (manager.answers events) peerId = some (.online peerId peerIp, true)

/-- The client connects to all its peers: in a mesh, as the hub, and as the gateway. -/
def connectsToAll : TopologyManager → Bool
  | .mesh _ => true
  | .hubAndSpoke topology => topology.isHub
  | .gateway topology => topology.isGateway

/-- The hub or the gateway. -/
def center : TopologyManager → Option String
  | .mesh _ => none
  | .hubAndSpoke topology => topology.hubId
  | .gateway topology => topology.gatewayId

/-- The dictionary of peers. -/
def peers : TopologyManager → Dict String (Option String)
  | .mesh topology => topology.peers
  | .hubAndSpoke topology => topology.spokes
  | .gateway topology => topology.peers

variable {manager : TopologyManager} {events : List PeerEvent}

/-! ### The last event about a peer -/

theorem answers_snoc (manager : TopologyManager) (events : List PeerEvent) (event : PeerEvent) :
    manager.answers (events ++ [event]) =
      manager.answers events ++ [(event, (events.foldl hear manager).answer event)] := by
  induction events generalizing manager with
  | nil => rfl
  | cons first rest inductionHypothesis =>
    rw [List.cons_append, answers, inductionHypothesis, List.foldl_cons, answers, List.cons_append]

theorem lastAnswer_snoc_self (answers : List (PeerEvent × Bool)) (event : PeerEvent)
    (returned : Bool) :
    lastAnswer (answers ++ [(event, returned)]) event.peerId = some (event, returned) := by
  rw [lastAnswer, List.filter_append, List.filter_singleton, decide_eq_true rfl, cond_true,
    List.getLast?_concat]

theorem lastAnswer_snoc_of_ne (answers : List (PeerEvent × Bool)) {event : PeerEvent}
    (returned : Bool) {peerId : String} (other : event.peerId ≠ peerId) :
    lastAnswer (answers ++ [(event, returned)]) peerId = lastAnswer answers peerId := by
  rw [lastAnswer, List.filter_append, List.filter_singleton, decide_eq_false other, cond_false,
    List.append_nil, lastAnswer]

theorem map_fst_answers (manager : TopologyManager) (events : List PeerEvent) :
    (manager.answers events).map Prod.fst = events := by
  induction events generalizing manager with
  | nil => rfl
  | cons first rest inductionHypothesis => rw [answers, List.map_cons, inductionHypothesis]

/-- The last answer is that of the last event. -/
theorem map_lastAnswer (manager : TopologyManager) (events : List PeerEvent) (peerId : String) :
    (lastAnswer (manager.answers events) peerId).map Prod.fst = lastEvent events peerId := by
  rw [lastAnswer, ← List.getLast?_map, lastEvent, ← map_fst_answers manager events,
    List.filter_map, map_fst_answers]
  rfl

/-- A call of `on_peer_online` returns whether the manager lets its client connect. -/
theorem mem_answers {peerId : String} {peerIp : Option String} {returned : Bool}
    (member : (.online peerId peerIp, returned) ∈ manager.answers events) :
    returned = manager.connects peerId := by
  induction events generalizing manager with
  | nil => cases member
  | cons first rest inductionHypothesis =>
    rcases List.mem_cons.mp member with here | later
    · obtain ⟨rfl, rfl⟩ := Prod.mk.inj here
      exact onPeerOnline_fst manager peerId peerIp
    · rw [inductionHypothesis later, connects_hear]

/-! ### Managers that connect to all peers -/

theorem connectsToAll_hear (manager : TopologyManager) (event : PeerEvent) :
    (manager.hear event).connectsToAll = manager.connectsToAll := by
  cases manager with
  | mesh topology => cases event <;> rfl
  | hubAndSpoke topology =>
    obtain ⟨hubId, isHub, spokes⟩ := topology
    cases event <;> cases isHub <;> rfl
  | gateway topology =>
    obtain ⟨gatewayId, isGateway, peers, arpTable⟩ := topology
    cases event <;> cases isGateway <;> rfl

theorem connectsToAll_foldl (events : List PeerEvent) (manager : TopologyManager) :
    (events.foldl hear manager).connectsToAll = manager.connectsToAll := by
  induction events generalizing manager with
  | nil => rfl
  | cons event rest inductionHypothesis =>
    rw [List.foldl_cons, inductionHypothesis, connectsToAll_hear]

theorem connects_of_all (all : manager.connectsToAll = true) (peerId : String) :
    manager.connects peerId = true := by
  cases manager with
  | mesh topology => rfl
  | hubAndSpoke topology => exact Bool.or_eq_true_iff.mpr (.inl all)
  | gateway topology => exact Bool.or_eq_true_iff.mpr (.inl all)

theorem getPeersToConnect_of_all (all : manager.connectsToAll = true) :
    manager.getPeersToConnect = (manager.peers.keys.map some).toFinset := by
  cases manager with
  | mesh topology => rfl
  | hubAndSpoke topology => exact if_pos all
  | gateway topology => exact if_pos all

/-- Such a manager stores a peer that comes online, and erases it when it goes offline. -/
theorem peers_hear (all : manager.connectsToAll = true) (event : PeerEvent) :
    (manager.hear event).peers =
      match event with
      | .online peerId peerIp => manager.peers.insert peerId peerIp
      | .offline peerId => manager.peers.erase peerId := by
  cases manager with
  | mesh topology => cases event <;> rfl
  | hubAndSpoke topology =>
    obtain ⟨hubId, isHub, spokes⟩ := topology
    obtain rfl : isHub = true := all
    cases event <;> rfl
  | gateway topology =>
    obtain ⟨gatewayId, isGateway, peers, arpTable⟩ := topology
    obtain rfl : isGateway = true := all
    cases event <;> rfl

/-- The peers that it has stored are those whose last event was an arrival. -/
theorem mem_peers_iff (all : manager.connectsToAll = true) (fresh : manager.peers = Dict.empty)
    (events : List PeerEvent) (peerId : String) :
    peerId ∈ (events.foldl hear manager).peers.keys ↔
      ∃ peerIp, lastAnswer (manager.answers events) peerId = some (.online peerId peerIp, true) := by
  induction events using List.reverseRecOn with
  | nil =>
    rw [List.foldl_nil, fresh]
    exact iff_of_false List.not_mem_nil nofun
  | append_singleton events event inductionHypothesis =>
    have allNow := (connectsToAll_foldl events manager).trans all
    rw [List.foldl_append, List.foldl_cons, List.foldl_nil, peers_hear allNow, answers_snoc,
      Dict.mem_keys_iff]
    by_cases here : event.peerId = peerId
    · subst here
      rw [lastAnswer_snoc_self]
      cases event with
      | online other otherIp =>
        have returned : (events.foldl hear manager).answer (.online other otherIp) = true :=
          (onPeerOnline_fst _ other otherIp).trans (connects_of_all allNow other)
        rw [returned]
        exact iff_of_true ⟨otherIp, Dict.get?_insert_self _ other otherIp⟩ ⟨otherIp, rfl⟩
      | offline other =>
        refine iff_of_false ?_ ?_
        · rintro ⟨peerIp, found⟩
          rw [PeerEvent.peerId, Dict.get?_erase_self] at found
          cases found
        · rintro ⟨peerIp, same⟩
          cases (Prod.mk.inj (Option.some.inj same)).1
    · rw [lastAnswer_snoc_of_ne _ _ here, ← inductionHypothesis, Dict.mem_keys_iff]
      cases event with
      | online other otherIp =>
        dsimp only [PeerEvent.peerId] at here ⊢
        rw [Dict.get?_insert_of_ne _ _ (Ne.symm here)]
      | offline other =>
        dsimp only [PeerEvent.peerId] at here ⊢
        rw [Dict.get?_erase_of_ne _ (Ne.symm here)]

theorem namesPeers_of_all (all : manager.connectsToAll = true)
    (fresh : manager.peers = Dict.empty) (events : List PeerEvent) :
    NamesPeers manager events := by
  intro peer
  rw [getPeersToConnect_of_all ((connectsToAll_foldl events manager).trans all), List.mem_toFinset,
    List.mem_map]
  constructor
  · rintro ⟨peerId, member, rfl⟩
    obtain ⟨peerIp, last⟩ := (mem_peers_iff all fresh events peerId).mp member
    exact ⟨peerId, peerIp, rfl, last⟩
  · rintro ⟨peerId, peerIp, rfl, last⟩
    exact ⟨peerId, (mem_peers_iff all fresh events peerId).mpr ⟨peerIp, last⟩, rfl⟩

/-! ### Spokes and remote clients -/

theorem center_hear (manager : TopologyManager) (event : PeerEvent) :
    (manager.hear event).center = manager.center := by
  cases manager with
  | mesh topology => cases event <;> rfl
  | hubAndSpoke topology =>
    obtain ⟨hubId, isHub, spokes⟩ := topology
    cases event <;> cases isHub <;> rfl
  | gateway topology =>
    obtain ⟨gatewayId, isGateway, peers, arpTable⟩ := topology
    cases event <;> cases isGateway <;> rfl

theorem center_foldl (events : List PeerEvent) (manager : TopologyManager) :
    (events.foldl hear manager).center = manager.center := by
  induction events generalizing manager with
  | nil => rfl
  | cons event rest inductionHypothesis =>
    rw [List.foldl_cons, inductionHypothesis, center_hear]

theorem connects_of_some (some : manager.connectsToAll = false) (peerId : String) :
    manager.connects peerId = decide (manager.center = .some peerId) := by
  cases manager with
  | mesh topology => cases some
  | hubAndSpoke topology =>
    obtain ⟨hubId, isHub, spokes⟩ := topology
    obtain rfl : isHub = false := some
    exact Bool.false_or _
  | gateway topology =>
    obtain ⟨gatewayId, isGateway, peers, arpTable⟩ := topology
    obtain rfl : isGateway = false := some
    exact Bool.false_or _

theorem getPeersToConnect_of_some (some : manager.connectsToAll = false) :
    manager.getPeersToConnect = {manager.center} := by
  cases manager with
  | mesh topology => cases some
  | hubAndSpoke topology => exact if_neg (Bool.eq_false_iff.mp some)
  | gateway topology => exact if_neg (Bool.eq_false_iff.mp some)

/-- The last event about a peer was an arrival, and its call returned True. -/
theorem lastAnswer_eq_iff (peerId : String) (peerIp : Option String) :
    lastAnswer (manager.answers events) peerId = some (.online peerId peerIp, true) ↔
      lastEvent events peerId = some (.online peerId peerIp) ∧ manager.connects peerId = true := by
  rw [← map_lastAnswer manager]
  constructor
  · intro last
    rw [last]
    have member := List.mem_of_mem_filter (List.mem_of_getLast? last)
    exact ⟨rfl, (mem_answers member).symm⟩
  · rintro ⟨last, connects⟩
    obtain ⟨⟨event, returned⟩, found, same⟩ := Option.map_eq_some_iff.mp last
    obtain rfl : event = .online peerId peerIp := same
    have member := List.mem_of_mem_filter (List.mem_of_getLast? found)
    rw [found, mem_answers member, connects]

theorem namesPeers_of_some_iff (some : manager.connectsToAll = false) (events : List PeerEvent) :
    NamesPeers manager events ↔
      ∃ centerId centerIp, manager.center = .some centerId ∧
        lastEvent events centerId = .some (.online centerId centerIp) := by
  rw [NamesPeers, getPeersToConnect_of_some ((connectsToAll_foldl events manager).trans some),
    center_foldl]
  simp only [Finset.mem_singleton, lastAnswer_eq_iff, connects_of_some some, decide_eq_true_iff]
  constructor
  · intro names
    obtain ⟨centerId, centerIp, same, last, -⟩ := (names manager.center).mp rfl
    exact ⟨centerId, centerIp, same, last⟩
  · rintro ⟨centerId, centerIp, same, last⟩ peer
    constructor
    · rintro rfl
      exact ⟨centerId, centerIp, same, last, same⟩
    · rintro ⟨peerId, peerIp, rfl, -, connects⟩
      exact connects.symm

/-! ### Every manager -/

theorem peers_of_created {topology : String} {hubClientId gatewayClientId : Option String}
    {isHub isGateway : Bool}
    (created : createTopologyManager topology hubClientId gatewayClientId isHub isGateway =
      .ok manager) : manager.peers = Dict.empty := by
  unfold createTopologyManager at created
  split at created
  · obtain rfl := Except.ok.inj created
    rfl
  · obtain rfl := Except.ok.inj created
    rfl
  · obtain rfl := Except.ok.inj created
    rfl
  · cases created

/-- A new manager names after any events the peers for which they ask for a tunnel, if and only if
it connects to all peers, or the last it heard of its hub or gateway is that it came online. -/
theorem namesPeers_iff {topology : String} {hubClientId gatewayClientId : Option String}
    {isHub isGateway : Bool}
    (created : createTopologyManager topology hubClientId gatewayClientId isHub isGateway =
      .ok manager) (events : List PeerEvent) :
    NamesPeers manager events ↔
      manager.connectsToAll = true ∨ ∃ centerId centerIp, manager.center = some centerId ∧
        lastEvent events centerId = some (.online centerId centerIp) := by
  cases all : manager.connectsToAll with
  | true => exact iff_of_true (namesPeers_of_all all (peers_of_created created) events) (.inl rfl)
  | false =>
    rw [namesPeers_of_some_iff all]
    exact ⟨.inr, fun either => either.resolve_left Bool.false_ne_true⟩

/-! ### A hub that goes offline -/

def spokeOfHub : TopologyManager := .hubAndSpoke ⟨some "hub", false, Dict.empty⟩

theorem spokeOfHub_created :
    createTopologyManager "hub_and_spoke" (some "hub") none false false = .ok spokeOfHub := rfl

theorem namesPeers_iff_spoke : NamesPeers spokeOfHub [.online "hub" (some "10.0.0.1")] :=
  (namesPeers_iff spokeOfHub_created _).mpr (.inr ⟨"hub", some "10.0.0.1", rfl, rfl⟩)

/-- The spoke still names its hub after it went offline. -/
theorem namesPeers_counterexample :
    ([.online "hub" (some "10.0.0.1"), .offline "hub"].foldl hear spokeOfHub).getPeersToConnect =
        {some "hub"} ∧
      lastAnswer (spokeOfHub.answers [.online "hub" (some "10.0.0.1"), .offline "hub"]) "hub" =
          some (.offline "hub", true) ∧
        ¬ NamesPeers spokeOfHub [.online "hub" (some "10.0.0.1"), .offline "hub"] := by
  refine ⟨rfl, rfl, fun names => ?_⟩
  obtain ⟨peerId, peerIp, same, last⟩ := (names (some "hub")).mp (Finset.mem_singleton_self _)
  obtain rfl := Option.some.inj same
  cases (Prod.mk.inj (Option.some.inj last)).1

end TopologyManager

end LocalNetwork
