/-
This file asks when the two tables of virtual addresses are inverse to each other. Packets are
routed by the table from addresses to peers, and a peer that goes offline is cleaned up by the
table from peers to addresses.

A PEER_ONLINE writes both tables and looks at neither: it leaves the old address of a peer that
has moved, and takes an address away from the peer that has it, the client itself included. The
tables stay inverse exactly as long as no PEER_ONLINE does either.
-/

import LocalNetwork.ClientDaemon
import LocalNetwork.InverseTables
import LocalNetwork.Transition

namespace LocalNetwork

/-! ### The client's own address -/

/-- The peer other than the client that an event is about. -/
def DaemonEvent.otherPeer (clientId : String) : DaemonEvent → Option String
  | .peerOnline peerId _ _ _ | .peerOffline peerId _ =>
    if peerId = clientId then none else some peerId
  | .otherTasks _ => none

/-- The daemon, and whether an event about another peer has changed the entry of the client's own
address. -/
structure AddressLog where
  daemon : ClientDaemon
  ownTouched : Bool

/-- An event about another peer changes the entry of an address. -/
def touches (daemon : ClientDaemon) (event : DaemonEvent) (address : String) : Bool :=
  (event.otherPeer daemon.clientId).isSome &&
    decide ((daemon.handle event).ipToPeer.get? address ≠ daemon.ipToPeer.get? address)

/-- The step function of runs, with the client's own address if it has one. -/
def addressRun (own : Option String) (log : AddressLog) (event : DaemonEvent) : Option AddressLog :=
  some {
    daemon := log.daemon.handle event
    ownTouched := log.ownTouched || own.any (touches log.daemon event) }

/-- The address that a client has given itself. -/
def ownAddress (virtualIp : Option String) (opened : Bool) : Option String :=
  if opened then some (ClientDaemon.chosenIp virtualIp) else none

/-! ### The property and its condition -/

/-- Every address that is not empty leads to the peer that has it, and no event about another peer
has touched the client's own address. -/
structure AddressesSound (log : AddressLog) : Prop where
  inverse : ∀ ip peerId, ip ≠ "" →
    (log.daemon.ipToPeer.get? ip = some peerId ↔ log.daemon.peerToIp.get? peerId = some ip)
  untouched : log.ownTouched = false

/-- A peer is announced with the address it has, if it has one, and with an address that no other
peer has and that is not the client's own. -/
def KeepsAddresses (own : Option String) (log : AddressLog) : DaemonEvent → Prop
  | .peerOnline peerId _ peerIp _ =>
    peerId ≠ "" → peerId ≠ log.daemon.clientId →
      (∀ ip, ip ≠ "" → log.daemon.peerToIp.get? peerId = some ip → ip = peerIp.getD "") ∧
      (peerIp.getD "" ≠ "" →
        (∀ other, log.daemon.ipToPeer.get? (peerIp.getD "") = some other → other = peerId) ∧
          own ≠ some (peerIp.getD ""))
  | _ => True

/-- The tables are inverse on addresses that are not empty, the client's own address has not been
touched, and if it has an entry, that is the client. -/
structure AddressInvariant (own : Option String) (log : AddressLog) : Prop where
  inverse : Dict.InverseOn (fun ip => ip ≠ "") log.daemon.ipToPeer log.daemon.peerToIp
  untouched : log.ownTouched = false
  owned : ∀ address, own = some address → address ≠ "" ∧
    ∀ peerId, log.daemon.ipToPeer.get? address = some peerId → peerId = log.daemon.clientId

section

variable {own : Option String} {log : AddressLog} {event : DaemonEvent}
  {peerId networkId : String}

theorem AddressInvariant.sound (invariant : AddressInvariant own log) : AddressesSound log :=
  ⟨fun ip peerId counted => invariant.inverse ip peerId counted, invariant.untouched⟩

/-- The tables of an event that is ignored are the tables before. -/
theorem addressRun_ignored (ignored : log.daemon.handle event = log.daemon) :
    addressRun own log event = some log := by
  have untouched (address : String) : touches log.daemon event address = false := by
    rw [touches, ignored]
    simp
  obtain ⟨daemon, ownTouched⟩ := log
  cases own with
  | none => simp [addressRun, ignored]
  | some address => simp [addressRun, ignored, untouched]

/-- When the tables are inverse after a PEER_ONLINE. -/
theorem AddressInvariant.enter_iff (invariant : AddressInvariant own log)
    (peerIp : Option String) :
    Dict.InverseOn (fun ip => ip ≠ "") (log.daemon.enter peerId networkId peerIp).ipToPeer
        (log.daemon.enter peerId networkId peerIp).peerToIp ↔
      (∀ ip, ip ≠ "" → log.daemon.peerToIp.get? peerId = some ip → ip = peerIp.getD "") ∧
        (peerIp.getD "" ≠ "" → ∀ other,
          log.daemon.ipToPeer.get? (peerIp.getD "") = some other → other = peerId) := by
  by_cases empty : peerIp.getD "" = ""
  · simp only [ClientDaemon.enter, if_pos empty]
    rw [empty, invariant.inverse.insert_backward_iff (not_not.mpr rfl)]
    constructor
    · intro keyless
      exact ⟨fun ip counted stored => absurd stored (keyless ip counted),
        fun counted => absurd rfl counted⟩
    · rintro ⟨moved, -⟩ ip counted stored
      exact counted (moved ip counted stored)
  · simp only [ClientDaemon.enter, if_neg empty]
    rw [invariant.inverse.insert_iff empty]
    constructor
    · rintro ⟨free, stays⟩
      exact ⟨stays, fun _ => free⟩
    · rintro ⟨stays, free⟩
      exact ⟨free empty, stays⟩

/-- An event that leaves the entry of the client's own address. -/
theorem untouched_of_same (kept : ∀ address, own = some address →
    (event.otherPeer log.daemon.clientId).isSome = true →
      (log.daemon.handle event).ipToPeer.get? address = log.daemon.ipToPeer.get? address) :
    own.any (touches log.daemon event) = false := by
  cases own with
  | none => rfl
  | some address =>
    rw [Option.any_some, touches]
    cases about : (event.otherPeer log.daemon.clientId).isSome with
    | false => rfl
    | true => simp [kept address rfl about]

/-- A PEER_ONLINE that meets the condition keeps the invariant. -/
theorem AddressInvariant.online (invariant : AddressInvariant own log) {peerIp : Option String}
    {created : Option PeerTunnel} (named : peerId ≠ "") (other : peerId ≠ log.daemon.clientId)
    (tables : ClientDaemon.SameTables (log.daemon.enter peerId networkId peerIp)
      (log.daemon.handle (.peerOnline peerId networkId peerIp created)))
    (keeps : KeepsAddresses own log (.peerOnline peerId networkId peerIp created))
    {next : AddressLog}
    (stepped : addressRun own log (.peerOnline peerId networkId peerIp created) = some next) :
    AddressInvariant own next := by
  obtain ⟨stays, free⟩ := keeps named other
  have entry (address : String) (mine : own = some address) :
      (log.daemon.handle (.peerOnline peerId networkId peerIp created)).ipToPeer.get? address =
        log.daemon.ipToPeer.get? address := by
    rw [tables.ipToPeer, ClientDaemon.enter]
    by_cases empty : peerIp.getD "" = ""
    · simp only [if_pos empty]
    · simp only [if_neg empty]
      refine Dict.get?_insert_of_ne _ _ fun same => (free empty).2 ?_
      rw [mine, same]
  obtain rfl := Option.some.inj stepped
  refine ⟨?_, ?_, fun address mine => ⟨(invariant.owned address mine).1, fun someone stored => ?_⟩⟩
  · simp only [tables.ipToPeer, tables.peerToIp]
    exact (invariant.enter_iff peerIp).mpr ⟨stays, fun empty => (free empty).1⟩
  · rw [invariant.untouched, Bool.false_or]
    exact untouched_of_same fun address mine _ => entry address mine
  · refine ((invariant.owned address mine).2 someone ?_).trans tables.clientId.symm
    exact (entry address mine).symm.trans stored

/-- Every PEER_OFFLINE keeps the invariant. -/
theorem AddressInvariant.offline (invariant : AddressInvariant own log)
    (tables : ClientDaemon.SameTables (log.daemon.forget peerId)
      (log.daemon.handle (.peerOffline peerId networkId)))
    {next : AddressLog} (stepped : addressRun own log (.peerOffline peerId networkId) = some next) :
    AddressInvariant own next := by
  have removed : (log.daemon.handle (.peerOffline peerId networkId)).ipToPeer =
      log.daemon.ipToPeer.erase ((log.daemon.peerToIp.get? peerId).getD "") := tables.ipToPeer
  obtain rfl := Option.some.inj stepped
  refine ⟨?_, ?_, fun address mine => ⟨(invariant.owned address mine).1, fun someone stored => ?_⟩⟩
  · simp only [tables.ipToPeer, tables.peerToIp]
    refine invariant.inverse.erase fun ip counted => ?_
    cases log.daemon.peerToIp.get? peerId with
    | none => simpa using counted
    | some old => simp [eq_comm]
  · rw [invariant.untouched, Bool.false_or]
    refine untouched_of_same fun address mine about => ?_
    rw [removed]
    refine Dict.get?_erase_of_ne _ fun same => ?_
    -- the peer's address is the client's own, so that the peer is the client
    obtain ⟨counted, owned⟩ := invariant.owned address mine
    cases held : log.daemon.peerToIp.get? peerId with
    | none =>
      rw [held] at same
      exact counted same
    | some old =>
      rw [held, Option.getD_some] at same
      have client := owned peerId ((invariant.inverse address peerId counted).mpr (same ▸ held))
      rw [DaemonEvent.otherPeer, if_pos client] at about
      cases about
  · refine ((invariant.owned address mine).2 someone ?_).trans tables.clientId.symm
    rw [removed, Dict.get?_erase] at stored
    split at stored
    · cases stored
    · exact stored

theorem AddressInvariant.step (invariant : AddressInvariant own log)
    (keeps : KeepsAddresses own log event) {next : AddressLog}
    (stepped : addressRun own log event = some next) : AddressInvariant own next := by
  cases log.daemon.handle_cases event with
  | ignored event same =>
    rw [addressRun_ignored same] at stepped
    exact Option.some.inj stepped ▸ invariant
  | entered peerId networkId peerIp created named other tables kept =>
    exact invariant.online named other tables keeps stepped
  | left peerId networkId named tables kept => exact invariant.offline tables stepped
  | otherTasks tunnels =>
    obtain rfl := Option.some.inj stepped
    refine ⟨invariant.inverse, ?_, invariant.owned⟩
    rw [invariant.untouched, Bool.false_or]
    exact untouched_of_same fun _ _ _ => rfl

/-- From the invariant only an event that meets the condition leaves the tables sound. -/
theorem AddressInvariant.keeps_of_step (invariant : AddressInvariant own log)
    (sound : ∀ next, addressRun own log event = some next → AddressesSound next) :
    KeepsAddresses own log event := by
  cases event with
  | peerOnline peerId networkId peerIp created =>
    intro named other
    have tables := (@ClientDaemon.onPeerOnline_spec log.daemon peerId networkId peerIp created named
      other).1
    have after := sound _ rfl
    have inverse : Dict.InverseOn (fun ip => ip ≠ "")
        (log.daemon.enter peerId networkId peerIp).ipToPeer
        (log.daemon.enter peerId networkId peerIp).peerToIp := by
      rw [← tables.ipToPeer, ← tables.peerToIp]
      exact fun ip someone counted => after.inverse ip someone counted
    obtain ⟨stays, free⟩ := (invariant.enter_iff peerIp).mp inverse
    refine ⟨stays, fun empty => ⟨free empty, fun mine => ?_⟩⟩
    have touched : touches log.daemon (.peerOnline peerId networkId peerIp created)
        (peerIp.getD "") = true := by
      rw [touches, DaemonEvent.otherPeer, if_neg other, ClientDaemon.handle, tables.ipToPeer,
        ClientDaemon.enter]
      simp only [if_neg empty, Dict.get?_insert_self, Option.isSome_some, Bool.true_and,
        decide_eq_true_eq]
      exact fun stored => other ((invariant.owned _ mine).2 peerId stored.symm)
    have untouched := after.untouched
    rw [mine, Option.any_some, touched, Bool.or_true] at untouched
    cases untouched
  | _ => exact trivial

end

/-! ### Every run -/

theorem addressInvariant_start (clientId : String) (tunnels : Option TunnelManager)
    (virtualIp : Option String) (opened : Bool) :
    AddressInvariant (ownAddress virtualIp opened)
      ⟨(ClientDaemon.start clientId tunnels).setupTun virtualIp opened, false⟩ := by
  cases opened with
  | false => exact ⟨Dict.inverseOn_empty, rfl, fun address mine => by cases mine⟩
  | true =>
    have counted : ClientDaemon.chosenIp virtualIp ≠ "" := by
      unfold ClientDaemon.chosenIp
      split
      · decide
      · rename_i given
        exact given
    have before : Dict.InverseOn (fun ip => ip ≠ "") (Dict.empty : Dict String String) Dict.empty :=
      Dict.inverseOn_empty
    refine ⟨(before.insert_iff counted).mpr ⟨?_, ?_⟩, rfl, fun address mine => ?_⟩
    · intro other stored
      cases stored
    · intro other _ stored
      cases stored
    · obtain rfl := Option.some.inj mine
      refine ⟨counted, fun someone stored => ?_⟩
      exact (Option.some.inj ((Dict.get?_insert_self _ _ _).symm.trans stored)).symm

/-- Along a sequence of events, for a client that has set up its interface or not, the tables are
inverse on the addresses that are not empty after each event, and no event about another peer
touches the client's own address, if and only if at each PEER_ONLINE about another peer the peer has
no other address, and the address that is announced, if it is not empty, belongs to no one else. -/
theorem address_tables_inverse_iff (clientId : String) (tunnels : Option TunnelManager)
    (virtualIp : Option String) (opened : Bool) (events : List DaemonEvent) :
    (∀ before after log, events = before ++ after →
      runFrom (addressRun (ownAddress virtualIp opened))
        ⟨(ClientDaemon.start clientId tunnels).setupTun virtualIp opened, false⟩ before =
          some log → AddressesSound log) ↔
      HoldsAlong (addressRun (ownAddress virtualIp opened))
        (KeepsAddresses (ownAddress virtualIp opened))
        ⟨(ClientDaemon.start clientId tunnels).setupTun virtualIp opened, false⟩ events := by
  exact safe_iff_holdsAlong (fun log => AddressInvariant.sound)
    (fun log event next _ keeps invariant stepped => invariant.step keeps stepped)
    (fun log event _ invariant sound => invariant.keeps_of_step sound)
    (holdsAlong_true events _) (addressInvariant_start clientId tunnels virtualIp opened)

/-- A peer is announced with one address and then with another. -/
def movesAddress : List DaemonEvent :=
  [.peerOnline "bob" "n" (some "25.1.0.2") none, .peerOnline "bob" "n" (some "25.1.0.3") none]

/-- Its old address still leads to it; and a peer that is announced with the default address takes
it away from the client. -/
theorem address_left_behind :
    ((movesAddress.foldl ClientDaemon.handle
        ((ClientDaemon.start "alice" none).setupTun none true)).ipToPeer.get? "25.1.0.2" =
          some "bob" ∧
      (movesAddress.foldl ClientDaemon.handle
        ((ClientDaemon.start "alice" none).setupTun none true)).peerToIp.get? "bob" =
          some "25.1.0.3") ∧
      ((ClientDaemon.start "alice" none).setupTun none true).ipToPeer.get? "25.1.0.1" =
        some "alice" ∧
      (((ClientDaemon.start "alice" none).setupTun none true).handle
        (.peerOnline "bob" "n" (some "25.1.0.1") none)).ipToPeer.get? "25.1.0.1" = some "bob" := by
  refine ⟨⟨?_, ?_⟩, ?_, ?_⟩
  · decide +kernel
  · decide +kernel
  · decide +kernel
  · decide +kernel

end LocalNetwork
