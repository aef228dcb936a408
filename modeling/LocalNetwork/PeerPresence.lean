/-
This file asks when a client's tables tell which peers are online. A peer is announced once
for each network that the client shares with it, and leaves these networks one by one; the
tables have one entry for the peer, which the first PEER_OFFLINE removes together with its
tunnel.

So the tables tell the truth along a sequence of events exactly when no peer goes offline in
one network while it is still online in another.
-/

import LocalNetwork.ClientDaemon

namespace LocalNetwork

/-! ### What the events say -/

/-- What an event says about a peer in a network: online, offline, or nothing. -/
def DaemonEvent.tells (peerId networkId : String) : DaemonEvent → Option Bool
  | .peerOnline onePeer oneNetwork _ _ =>
    if onePeer = peerId ∧ oneNetwork = networkId then some true else none
  | .peerOffline onePeer oneNetwork =>
    if onePeer = peerId ∧ oneNetwork = networkId then some false else none
  | .otherTasks _ => none

/-- What the last event about a peer in a network says. -/
def lastSaid (events : List DaemonEvent) (peerId networkId : String) : Option Bool :=
  (events.filterMap (DaemonEvent.tells peerId networkId)).getLast?

/-- A peer is online in some network. -/
def OnlineSomewhere (events : List DaemonEvent) (peerId : String) : Prop :=
  ∃ networkId, lastSaid events peerId networkId = some true

/-! ### What the tables say -/

/-- The daemon after a list of events. -/
def ClientDaemon.after (start : ClientDaemon) (events : List DaemonEvent) : ClientDaemon :=
  events.foldl ClientDaemon.handle start

/-- A peer has an entry in both tables of peers. -/
def ClientDaemon.Lists (daemon : ClientDaemon) (peerId : String) : Prop :=
  daemon.peerToIp.contains peerId = true ∧ daemon.peerNetworks.contains peerId = true

/-- An event closes the tunnel to a peer. -/
def ClosesTunnel (daemon : ClientDaemon) (event : DaemonEvent) (peerId : String) : Prop :=
  (∀ tunnels, event ≠ .otherTasks tunnels) ∧ daemon.tunnelTo peerId ≠ none ∧
    (daemon.handle event).tunnelTo peerId = none

/-- One of the events closed the tunnel to a peer that was still online in some network. -/
def TunnelCut (start : ClientDaemon) (events : List DaemonEvent) (peerId : String) : Prop :=
  ∃ before event after, events = before ++ event :: after ∧
    ClosesTunnel (start.after before) event peerId ∧ OnlineSomewhere (before ++ [event]) peerId

/-- After the events a peer is listed, and its tunnel has not been cut, if and only if it is online
in some network. -/
def Tracks (start : ClientDaemon) (events : List DaemonEvent) (peerId : String) : Prop :=
  (start.after events).Lists peerId ∧ ¬ TunnelCut start events peerId ↔
    OnlineSomewhere events peerId

/-- A peer goes offline in a network while it is online in no other. -/
def LeavesLast (events : List DaemonEvent) (peerId networkId : String) : Prop :=
  ∀ other, other ≠ networkId → lastSaid events peerId other ≠ some true

/-! ### One more event -/

section

variable {events : List DaemonEvent} {event : DaemonEvent} {peerId networkId : String}

theorem lastSaid_snoc :
    lastSaid (events ++ [event]) peerId networkId =
      (event.tells peerId networkId).or (lastSaid events peerId networkId) := by
  cases said : event.tells peerId networkId with
  | none => simp [lastSaid, said]
  | some value => simp [lastSaid, said]

theorem tells_peerOnline (peerIp : Option String) (created : Option PeerTunnel) :
    (DaemonEvent.peerOnline peerId networkId peerIp created).tells peerId networkId = some true :=
  if_pos ⟨rfl, rfl⟩

theorem onlineSomewhere_online (peerIp : Option String) (created : Option PeerTunnel) :
    OnlineSomewhere (events ++ [.peerOnline peerId networkId peerIp created]) peerId := by
  refine ⟨networkId, ?_⟩
  rw [lastSaid_snoc, tells_peerOnline]
  rfl

/-- A peer that goes offline in a network is online afterwards where it was online besides. -/
theorem onlineSomewhere_offline :
    OnlineSomewhere (events ++ [.peerOffline peerId networkId]) peerId ↔
      ¬ LeavesLast events peerId networkId := by
  simp only [LeavesLast, not_forall, not_not, OnlineSomewhere, lastSaid_snoc]
  constructor
  · rintro ⟨other, said⟩
    by_cases same : networkId = other
    · rw [DaemonEvent.tells, if_pos ⟨rfl, same⟩] at said
      cases said
    · rw [DaemonEvent.tells, if_neg fun both => same both.2] at said
      exact ⟨other, Ne.symm same, said⟩
  · rintro ⟨other, different, said⟩
    refine ⟨other, ?_⟩
    rw [DaemonEvent.tells, if_neg fun both => different both.2.symm]
    exact said

/-- An event about another peer, or about none. -/
def DaemonEvent.SilentOn (peerId : String) (event : DaemonEvent) : Prop :=
  ∀ networkId, event.tells peerId networkId = none

theorem onlineSomewhere_silent (silent : event.SilentOn peerId) :
    OnlineSomewhere (events ++ [event]) peerId ↔ OnlineSomewhere events peerId := by
  simp only [OnlineSomewhere, lastSaid_snoc, silent _, Option.none_or]

/-- An event about a peer, or one that is silent on it. -/
theorem peer_event_cases (event : DaemonEvent) (peerId : String) :
    (∃ networkId peerIp created, event = .peerOnline peerId networkId peerIp created) ∨
      (∃ networkId, event = .peerOffline peerId networkId) ∨ event.SilentOn peerId := by
  cases event with
  | peerOnline onePeer networkId peerIp created =>
    by_cases same : onePeer = peerId
    · exact .inl ⟨networkId, peerIp, created, same ▸ rfl⟩
    · exact .inr (.inr fun _ => if_neg fun both => same both.1)
  | peerOffline onePeer networkId =>
    by_cases same : onePeer = peerId
    · exact .inr (.inl ⟨networkId, same ▸ rfl⟩)
    · exact .inr (.inr fun _ => if_neg fun both => same both.1)
  | otherTasks tunnels => exact .inr (.inr fun _ => rfl)

end

section

variable {daemon : ClientDaemon} {event : DaemonEvent} {peerId networkId : String}

theorem clientId_handle : (daemon.handle event).clientId = daemon.clientId := by
  cases daemon.handle_cases event with
  | ignored event same => rw [same]
  | entered peerId networkId peerIp created named other tables kept => exact tables.clientId
  | left peerId networkId named tables kept => exact tables.clientId
  | otherTasks tunnels => rfl

theorem lists_online (peerIp : Option String) (created : Option PeerTunnel) (named : peerId ≠ "")
    (other : peerId ≠ daemon.clientId) :
    (daemon.handle (.peerOnline peerId networkId peerIp created)).Lists peerId := by
  have tables := (@ClientDaemon.onPeerOnline_spec daemon peerId networkId peerIp created named
    other).1
  refine ⟨Dict.contains_iff.mpr ⟨peerIp.getD "", ?_⟩, Dict.contains_iff.mpr ⟨networkId, ?_⟩⟩
  · rw [ClientDaemon.handle, tables.peerToIp]
    exact Dict.get?_insert_self _ _ _
  · rw [ClientDaemon.handle, tables.peerNetworks]
    exact Dict.get?_insert_self _ _ _

theorem not_lists_offline (named : peerId ≠ "") :
    ¬ (daemon.handle (.peerOffline peerId networkId)).Lists peerId := by
  rintro ⟨listed, -⟩
  obtain ⟨peerIp, stored⟩ := Dict.contains_iff.mp listed
  rw [ClientDaemon.handle, (ClientDaemon.onPeerOffline_spec named).1.peerToIp] at stored
  cases (Dict.get?_erase_self _ _).symm.trans stored

/-- An event that is silent on a peer leaves its entries. -/
theorem lists_silent (silent : event.SilentOn peerId) :
    (daemon.handle event).Lists peerId ↔ daemon.Lists peerId := by
  cases daemon.handle_cases event with
  | ignored event same => rw [same]
  | entered onePeer oneNetwork peerIp created named other tables kept =>
    have different : peerId ≠ onePeer := by
      rintro rfl
      cases (tells_peerOnline peerIp created).symm.trans (silent oneNetwork)
    rw [ClientDaemon.Lists, tables.peerToIp, tables.peerNetworks]
    simp only [ClientDaemon.enter, Dict.contains, Dict.get?_insert_of_ne _ _ different,
      ClientDaemon.Lists]
  | left onePeer oneNetwork named tables kept =>
    have different : peerId ≠ onePeer := by
      rintro rfl
      have said := silent oneNetwork
      rw [DaemonEvent.tells, if_pos ⟨rfl, rfl⟩] at said
      cases said
    rw [ClientDaemon.Lists, tables.peerToIp, tables.peerNetworks]
    simp only [ClientDaemon.forget, Dict.contains, Dict.get?_erase_of_ne _ different,
      ClientDaemon.Lists]
  | otherTasks tunnels => rfl

/-- Only a PEER_OFFLINE about a peer closes its tunnel. -/
theorem offline_of_closesTunnel (closes : ClosesTunnel daemon event peerId) :
    ∃ networkId, event = .peerOffline peerId networkId := by
  obtain ⟨handled, had, lost⟩ := closes
  cases daemon.handle_cases event with
  | ignored event same =>
    rw [same] at lost
    exact absurd lost had
  | entered onePeer oneNetwork peerIp created named other tables kept =>
    obtain ⟨tunnel, stored⟩ := Option.ne_none_iff_exists'.mp had
    cases (kept peerId tunnel stored).symm.trans lost
  | left onePeer oneNetwork named tables kept =>
    by_cases same : onePeer = peerId
    · exact ⟨oneNetwork, same ▸ rfl⟩
    · rw [kept peerId (Ne.symm same)] at lost
      exact absurd lost had
  | otherTasks tunnels => exact absurd rfl (handled tunnels)

end

/-! ### Every sequence -/

/-- In the sequence a peer goes offline in a network only while it is online in no other. -/
def LeavesInOrder (events : List DaemonEvent) (peerId : String) : Prop :=
  ∀ before networkId after, events = before ++ .peerOffline peerId networkId :: after →
    LeavesLast before peerId networkId

section

variable {clientId peerId : String} {tunnels : Option TunnelManager} {start : ClientDaemon}

theorem after_snoc (start : ClientDaemon) (events : List DaemonEvent) (event : DaemonEvent) :
    start.after (events ++ [event]) = (start.after events).handle event := by
  rw [ClientDaemon.after, List.foldl_append]
  rfl

theorem clientId_after (events : List DaemonEvent) :
    (start.after events).clientId = start.clientId := by
  induction events using List.reverseRecOn with
  | nil => rfl
  | append_singleton events event inductionHypothesis =>
    rw [after_snoc, clientId_handle, inductionHypothesis]

/-- A peer that leaves its networks in order is listed while it is online somewhere. -/
theorem lists_iff_onlineSomewhere (named : peerId ≠ "") (other : peerId ≠ start.clientId)
    (unlisted : ¬ start.Lists peerId) {events : List DaemonEvent}
    (inOrder : LeavesInOrder events peerId) :
    (start.after events).Lists peerId ↔ OnlineSomewhere events peerId := by
  induction events using List.reverseRecOn with
  | nil =>
    refine iff_of_false unlisted ?_
    rintro ⟨networkId, said⟩
    cases said
  | append_singleton events event inductionHypothesis =>
    have before : LeavesInOrder events peerId := fun first networkId rest split =>
      inOrder first networkId (rest ++ [event]) (by rw [split]; simp)
    rw [after_snoc]
    rcases peer_event_cases event peerId with ⟨networkId, peerIp, created, rfl⟩ |
      ⟨networkId, rfl⟩ | silent
    · refine iff_of_true (lists_online peerIp created named ?_)
        (onlineSomewhere_online peerIp created)
      rw [clientId_after]
      exact other
    · refine iff_of_false (not_lists_offline named) ?_
      rw [onlineSomewhere_offline, not_not]
      exact inOrder events networkId [] rfl
    · rw [lists_silent silent, onlineSomewhere_silent silent]
      exact inductionHypothesis before

/-- No tunnel of a peer that leaves its networks in order is cut. -/
theorem not_tunnelCut {events : List DaemonEvent} (inOrder : LeavesInOrder events peerId) :
    ¬ TunnelCut start events peerId := by
  rintro ⟨before, event, after, split, closes, online⟩
  obtain ⟨networkId, rfl⟩ := offline_of_closesTunnel closes
  exact onlineSomewhere_offline.mp online (inOrder before networkId after split)

end

/-- Along a sequence of events, whatever other tasks do to the tunnels in between, the tables tell
after each event whether a peer other than the client is online in some network, and no event closes
the tunnel to it while it is, if and only if the peer goes offline in a network only while it is
online in no other. -/
theorem presence_tracked_iff (clientId peerId : String) (tunnels : Option TunnelManager)
    (virtualIp : Option String) (opened : Bool) (events : List DaemonEvent) (named : peerId ≠ "")
    (other : peerId ≠ clientId) :
    (∀ before after, events = before ++ after →
      Tracks ((ClientDaemon.start clientId tunnels).setupTun virtualIp opened) before peerId) ↔
      LeavesInOrder events peerId := by
  have otherStarted : peerId ≠
      ((ClientDaemon.start clientId tunnels).setupTun virtualIp opened).clientId := by
    cases opened <;> exact other
  have unlisted : ¬ ((ClientDaemon.start clientId tunnels).setupTun virtualIp opened).Lists
      peerId := by
    rintro ⟨-, listed⟩
    obtain ⟨networkId, stored⟩ := Dict.contains_iff.mp listed
    cases opened <;> cases stored
  constructor
  · intro tracks before networkId after split
    by_contra stays
    have tracked := tracks (before ++ [.peerOffline peerId networkId]) after (by rw [split]; simp)
    have listed := (tracked.mpr (onlineSomewhere_offline.mpr stays)).1
    rw [after_snoc] at listed
    exact not_lists_offline named listed
  · intro inOrder before after split
    have inOrderBefore : LeavesInOrder before peerId := fun first networkId rest splitBefore =>
      inOrder first networkId (rest ++ after) (by rw [split, splitBefore]; simp)
    rw [Tracks, lists_iff_onlineSomewhere named otherStarted unlisted inOrderBefore]
    exact and_iff_left (not_tunnelCut inOrderBefore)

/-- A peer is announced in two networks and leaves one of them. -/
def leavesOne : List DaemonEvent :=
  [.peerOnline "bob" "n" (some "25.1.0.2") none, .peerOnline "bob" "m" (some "25.1.0.2") none,
    .otherTasks (some ((TunnelManager.mk Dict.empty Dict.all_empty).store
      (PeerTunnel.new "bob" "25.1.0.2" .connected (some 7) none))),
    .peerOffline "bob" "n"]

theorem presence_tracked_iff_leavesOne :
    (∀ before after, leavesOne = before ++ after →
      Tracks ((ClientDaemon.start "alice" none).setupTun none true) before "bob") ↔
      LeavesInOrder leavesOne "bob" :=
  presence_tracked_iff "alice" "bob" none none true leavesOne (by decide) (by decide)

/-- It is still online in the other network, and has lost its entries and its tunnel. -/
theorem offline_in_one_network :
    OnlineSomewhere leavesOne "bob" ∧
      ¬ (((ClientDaemon.start "alice" none).setupTun none true).after leavesOne).Lists "bob" ∧
      TunnelCut ((ClientDaemon.start "alice" none).setupTun none true) leavesOne "bob" := by
  have online : OnlineSomewhere leavesOne "bob" := ⟨"m", by decide⟩
  refine ⟨online, ?_, leavesOne.take 3, .peerOffline "bob" "n", [], rfl, ⟨?_, ?_, ?_⟩, online⟩
  · unfold ClientDaemon.Lists
    decide +kernel
  · rintro tunnels ⟨⟩
  · decide +kernel
  · decide +kernel

end LocalNetwork
