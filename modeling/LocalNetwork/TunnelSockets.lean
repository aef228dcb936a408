/-
This file proves when the sockets of the tunnels are released. `shutdown` closes the sockets
of the entries, so a socket that is owned and open is lost once no entry holds it.

Three calls drop an entry without closing its socket: `create_tunnel` and `accept_tunnel` for
a peer that has a tunnel, and `close_tunnel` of a tunnel whose peer has another one by now.
All sockets are released at any moment of a run if and only if none of these calls drops the
only entry of an open socket.
-/

import LocalNetwork.TunnelObjects

namespace LocalNetwork

namespace TunnelObjects

/-- The entry of a peer holds a socket. -/
def Holds (manager : TunnelObjects) (peerId : String) (socket : Nat) : Prop :=
  ∃ tunnel, manager.getTunnel peerId = some tunnel ∧ tunnel.socket = some socket

/-- Every socket that is owned is closed or held. -/
def Held (manager : TunnelObjects) : Prop :=
  ∀ socket ∈ manager.owned, socket ∈ manager.closed ∨ ∃ peerId, manager.Holds peerId socket

/-- `shutdown` leaves no socket open that the manager bound or was handed. -/
def Released (manager : TunnelObjects) : Prop :=
  ∀ socket ∈ manager.shutdown.owned, socket ∈ manager.shutdown.closed

/-- The entry of a peer is the only one that holds a socket, and the socket is open. -/
def HoldsAlone (manager : TunnelObjects) (peerId : String) (socket : Nat) : Prop :=
  manager.Holds peerId socket ∧ socket ∉ manager.closed ∧
    ∀ other, other ≠ peerId → ¬ manager.Holds other socket

/-- The event does not drop the only entry of an open socket, unless it hands over or closes the
socket itself. -/
def Keeps (manager : TunnelObjects) : ManagerEvent → Prop
  | .create peerId _ _ _ _ => ∀ socket, ¬ manager.HoldsAlone peerId socket
  | .accept peerId _ _ handed _ => ∀ socket, manager.HoldsAlone peerId socket → socket = handed
  | .close object => ∀ tunnel, manager.objects.get? object = some tunnel →
      ∀ socket, manager.HoldsAlone tunnel.peerId socket → tunnel.socket = some socket
  | _ => True

/-! ### What shutdown closes -/

theorem holds_of_entry {manager : TunnelObjects} {peerId : String} {object socket : Nat}
    {tunnel : PeerTunnel} (entry : manager.tunnels.get? peerId = some object)
    (found : manager.objects.get? object = some tunnel) (has : tunnel.socket = some socket) :
    manager.Holds peerId socket :=
  ⟨tunnel, getTunnel_eq peerId entry found, has⟩

theorem Holds.entry {manager : TunnelObjects} {peerId : String} {socket : Nat}
    (holds : manager.Holds peerId socket) :
    ∃ object tunnel, manager.tunnels.get? peerId = some object ∧
      manager.objects.get? object = some tunnel ∧ tunnel.socket = some socket := by
  obtain ⟨tunnel, stored, has⟩ := holds
  obtain ⟨object, entry, found⟩ := Option.bind_eq_some_iff.mp stored
  exact ⟨object, tunnel, entry, found, has⟩

theorem mem_closed_close {manager : TunnelObjects} {object socket : Nat} :
    socket ∈ (manager.close object).closed ↔
      socket ∈ manager.closed ∨ ∃ tunnel, manager.objects.get? object = some tunnel ∧
        tunnel.socket = some socket := by
  cases found : manager.objects.get? object with
  | none => simp [close, found]
  | some tunnel =>
    rw [close_eq found]
    cases has : tunnel.socket with
    | none => simp [has]
    | some other => simp [has, eq_comm, or_comm]

/-- A loop that closes objects closes their sockets. -/
theorem mem_closed_foldl_close {manager : TunnelObjects} (objects : List Nat) {socket : Nat} :
    socket ∈ (objects.foldl close manager).closed ↔
      socket ∈ manager.closed ∨ ∃ object ∈ objects, ∃ tunnel,
        manager.objects.get? object = some tunnel ∧ tunnel.socket = some socket := by
  induction objects generalizing manager with
  | nil => simp
  | cons object rest inductionHypothesis =>
    rw [List.foldl_cons, inductionHypothesis, mem_closed_close]
    constructor
    · rintro ((closed | ⟨tunnel, found, has⟩) | ⟨other, member, tunnel, found, has⟩)
      · exact .inl closed
      · exact .inr ⟨object, .head _, tunnel, found, has⟩
      · refine .inr ⟨other, .tail _ member, ?_⟩
        cases here : manager.objects.get? object with
        | none =>
          rw [close, here] at found
          exact ⟨tunnel, found, has⟩
        | some closedTunnel =>
          rw [close_eq here] at found
          dsimp only at found
          rw [Dict.get?_insert] at found
          split at found
          · obtain rfl := Option.some.inj found
            cases has
          · exact ⟨tunnel, found, has⟩
    · rintro (closed | ⟨other, member, tunnel, found, has⟩)
      · exact .inl (.inl closed)
      · by_cases same : other = object
        · exact .inl (.inr ⟨tunnel, same ▸ found, has⟩)
        · refine .inr ⟨other, (List.mem_cons.mp member).resolve_left same, tunnel, ?_, has⟩
          cases here : manager.objects.get? object with
          | none => rw [close, here]; exact found
          | some closedTunnel =>
            rw [close_eq here]
            exact (Dict.get?_insert_of_ne _ _ same).trans found

theorem owned_close (manager : TunnelObjects) (object : Nat) :
    (manager.close object).owned = manager.owned := by
  cases found : manager.objects.get? object with
  | none => rw [close, found]
  | some tunnel => rw [close_eq found]

theorem owned_shutdown (manager : TunnelObjects) : manager.shutdown.owned = manager.owned :=
  List.foldlRecOn (motive := fun current : TunnelObjects => current.owned = manager.owned)
    manager.tunnels.values close rfl
    fun current same object _ => (owned_close current object).trans same

theorem released_iff (manager : TunnelObjects) : manager.Released ↔ manager.Held := by
  rw [Released, Held, owned_shutdown]
  refine forall₂_congr fun socket owned => ?_
  rw [show manager.shutdown.closed = (manager.tunnels.values.foldl close manager).closed from rfl,
    mem_closed_foldl_close]
  refine or_congr_right ⟨?_, ?_⟩
  · rintro ⟨object, member, tunnel, found, has⟩
    obtain ⟨peerId, entry⟩ := Dict.mem_values_iff.mp member
    exact ⟨peerId, holds_of_entry entry found has⟩
  · rintro ⟨peerId, holds⟩
    obtain ⟨object, tunnel, entry, found, has⟩ := holds.entry
    exact ⟨object, Dict.mem_values_iff.mpr ⟨peerId, entry⟩, tunnel, found, has⟩

/-! ### One entry changes -/

section

variable {manager after : TunnelObjects} {peerId : String}

theorem Holds.owned {socket : Nat} (holds : manager.Holds peerId socket)
    (wellFormed : manager.WellFormed) : socket ∈ manager.owned := by
  obtain ⟨object, tunnel, -, found, has⟩ := holds.entry
  exact wellFormed.sockets object tunnel socket found has

/-- Every socket stays closed or held if the entry of one peer changes and its socket does not get
lost. -/
theorem Held.moved (held : manager.Held)
    (others : ∀ other, other ≠ peerId → ∀ socket,
      manager.Holds other socket → after.Holds other socket)
    (closed : manager.closed ⊆ after.closed)
    (owned : ∀ socket ∈ after.owned, socket ∈ manager.owned ∨ after.Holds peerId socket)
    (kept : ∀ socket, manager.HoldsAlone peerId socket →
      socket ∈ after.closed ∨ after.Holds peerId socket) : after.Held := by
  intro socket member
  rcases owned socket member with old | new
  · rcases held socket old with shut | ⟨holder, holds⟩
    · exact .inl (closed shut)
    · by_cases shut : socket ∈ manager.closed
      · exact .inl (closed shut)
      · by_cases alone : ∃ other, other ≠ peerId ∧ manager.Holds other socket
        · obtain ⟨other, different, holdsOther⟩ := alone
          exact .inr ⟨other, others other different socket holdsOther⟩
        · have own : holder = peerId :=
            of_not_not fun different => alone ⟨holder, different, holds⟩
          rcases kept socket ⟨own ▸ holds, shut, fun other different holdsOther =>
            alone ⟨other, different, holdsOther⟩⟩ with shutAfter | holdsAfter
          · exact .inl shutAfter
          · exact .inr ⟨peerId, holdsAfter⟩
  · exact .inr ⟨peerId, new⟩

/-- The converse: the socket of the entry that changed is not lost. -/
theorem Held.not_lost (held : after.Held) (wellFormed : manager.WellFormed)
    (others : ∀ other, other ≠ peerId → ∀ socket,
      after.Holds other socket → manager.Holds other socket)
    (owned : manager.owned ⊆ after.owned) {socket : Nat}
    (alone : manager.HoldsAlone peerId socket) :
    socket ∈ after.closed ∨ after.Holds peerId socket := by
  rcases held socket (owned (alone.1.owned wellFormed)) with shut | ⟨holder, holds⟩
  · exact .inl shut
  · by_cases own : holder = peerId
    · exact .inr (own ▸ holds)
    · exact absurd (others holder own socket holds) (alone.2.2 holder own)

/-! ### The steps -/

variable {object : Nat}

theorem holds_forgot {other : String} {socket : Nat} :
    ({ manager with tunnels := manager.tunnels.erase peerId } : TunnelObjects).Holds other socket ↔
      other ≠ peerId ∧ manager.Holds other socket := by
  rw [Holds, getTunnel_forgot, Holds]
  split
  · rename_i same
    simp [same]
  · rename_i different
    simp [different]

theorem holds_updated {tunnel changed : PeerTunnel}
    (updates : manager.Updates after object tunnel changed) (same : tunnel.SameSocket changed)
    (other : String) (socket : Nat) : after.Holds other socket ↔ manager.Holds other socket := by
  rw [Holds, getTunnel_updated updates]
  split
  · rename_i entry
    rw [Holds, getTunnel_eq other entry updates.found]
    simp [same.socket]
  · rfl

theorem holds_close (wellFormed : manager.WellFormed) {tunnel : PeerTunnel}
    (found : manager.objects.get? object = some tunnel) {other : String} {socket : Nat} :
    (manager.close object).Holds other socket ↔
      other ≠ tunnel.peerId ∧ manager.Holds other socket := by
  rw [Holds, getTunnel_close wellFormed found, Holds]
  split
  · rename_i same
    simp [same]
  · rename_i different
    simp [different]

/-- A new entry with a socket keeps all sockets if and only if the entry before it did not hold
another open socket alone. -/
theorem held_opened_iff (wellFormed : manager.WellFormed) (held : manager.Held)
    {tunnel : PeerTunnel} {handed : Nat} (has : tunnel.socket = some handed)
    (new : manager.objects.get? object = none)
    (objects : after.objects = manager.objects.insert object tunnel)
    (tunnels : ∀ other, after.tunnels.get? other =
      if other = peerId then some object else manager.tunnels.get? other)
    (owned : after.owned = insert handed manager.owned) (closed : after.closed = manager.closed) :
    after.Held ↔ ∀ socket, manager.HoldsAlone peerId socket → socket = handed := by
  have entry := getTunnel_opened wellFormed new objects tunnels
  have own : ∀ socket, after.Holds peerId socket ↔ socket = handed := fun socket => by
    rw [Holds, entry, if_pos rfl]
    simp [has, eq_comm]
  have others : ∀ other, other ≠ peerId → ∀ socket,
      after.Holds other socket ↔ manager.Holds other socket := fun other different socket => by
    rw [Holds, entry, if_neg different, Holds]
  constructor
  · intro heldAfter socket alone
    have kept := heldAfter.not_lost wellFormed (fun other different socket =>
      (others other different socket).mp) (owned ▸ Finset.subset_insert _ _) alone
    rw [closed] at kept
    exact (own socket).mp (kept.resolve_left alone.2.1)
  · intro kept
    refine held.moved (fun other different socket => (others other different socket).mpr)
      (closed ▸ Finset.Subset.refl _) (fun socket member => ?_)
      (fun socket alone => .inr ((own socket).mpr (kept socket alone)))
    rw [owned, Finset.mem_insert] at member
    rcases member with rfl | old
    · exact .inr ((own socket).mpr rfl)
    · exact .inl old

theorem held_close_iff (wellFormed : manager.WellFormed) (held : manager.Held)
    {tunnel : PeerTunnel} (found : manager.objects.get? object = some tunnel) :
    (manager.close object).Held ↔
      ∀ socket, manager.HoldsAlone tunnel.peerId socket → tunnel.socket = some socket := by
  have closed : ∀ socket, socket ∈ (manager.close object).closed ↔
      socket ∈ manager.closed ∨ tunnel.socket = some socket := fun socket => by
    rw [mem_closed_close, found]
    simp
  constructor
  · intro heldAfter socket alone
    have kept := heldAfter.not_lost wellFormed
      (fun other _ socket holds => ((holds_close wellFormed found).mp holds).2)
      (owned_close manager object ▸ Finset.Subset.refl _) alone
    rw [closed, holds_close wellFormed found] at kept
    rcases kept with (shut | own) | ⟨different, -⟩
    · exact absurd shut alone.2.1
    · exact own
    · exact absurd rfl different
  · intro kept
    refine held.moved
      (fun other different socket holds => (holds_close wellFormed found).mpr ⟨different, holds⟩)
      (fun socket shut => (closed socket).mpr (.inl shut))
      (fun socket member => .inl (owned_close manager object ▸ member))
      (fun socket alone => .inl ((closed socket).mpr (.inr (kept socket alone))))

/-- Closing an entry loses no socket. -/
theorem Held.close_listed (held : manager.Held) (wellFormed : manager.WellFormed)
    (listed : manager.Listed object) : (manager.close object).Held := by
  cases found : manager.objects.get? object with
  | none =>
    rw [close, found]
    exact held
  | some tunnel =>
    refine (held_close_iff wellFormed held found).mpr fun socket alone => ?_
    obtain ⟨other, holder, entry, foundHolder, has⟩ := alone.1.entry
    rw [listed tunnel found other entry, found] at foundHolder
    exact Option.some.inj foundHolder ▸ has

variable {agreement : KeyAgreement} {aead : AesGcm} {event : ManagerEvent}

theorem held_step_iff (wellFormed : manager.WellFormed) (held : manager.Held)
    (stepped : manager.step agreement aead event = some after) :
    after.Held ↔ manager.Keeps event := by
  cases step_cases stepped with
  | creates peerId peerIp object socket ecdhPrivate new fresh =>
    rw [held_opened_iff wellFormed held rfl new rfl (create_entry peerIp ecdhPrivate) rfl rfl]
    refine forall_congr' fun lost => imp_congr_right fun alone => iff_of_false ?_ id
    rintro rfl
    exact fresh (alone.1.owned wellFormed)
  | unbound peerId peerIp object ecdhPrivate =>
    constructor
    · intro heldAfter socket alone
      rcases heldAfter.not_lost wellFormed (fun other _ socket holds => (holds_forgot.mp holds).2)
        (Finset.Subset.refl _) alone with shut | holds
      · exact alone.2.1 shut
      · exact (holds_forgot.mp holds).1 rfl
    · intro kept
      exact held.moved
        (fun other different socket holds => holds_forgot.mpr ⟨different, holds⟩)
        (Finset.Subset.refl _) (fun socket member => .inl member)
        (fun socket alone => absurd alone (kept socket))
  | accepts peerId peerIp object socket ecdhPrivate new =>
    have tunnels : ∀ other,
        (manager.accept peerId peerIp object socket ecdhPrivate).tunnels.get? other =
          if other = peerId then some object else manager.tunnels.get? other :=
      fun other => Dict.get?_insert _ _ _ _
    exact held_opened_iff wellFormed held rfl new rfl tunnels rfl rfl
  | changes _ _ object tunnel changed how updates =>
    have same := holds_updated updates how.sameSocket
    refine iff_of_true ?_ ?_
    · rw [Held, updates.owned, updates.closed]
      simp only [same]
      exact held
    · cases how <;> exact trivial
  | ends object => exact iff_of_true held trivial
  | closes object tunnel found =>
    rw [held_close_iff wellFormed held found, Keeps]
    simp [found]
  | prunes timeout now =>
    exact iff_of_true (prune_keeps (fun current object wellFormed listed held =>
      held.close_listed wellFormed listed) wellFormed held timeout now).2 trivial

end

/-! ### Runs -/

/-- At every moment of a run, `shutdown` would close every socket that the manager bound or was
handed, if and only if no step of the run drops the only entry of an open socket. -/
theorem sockets_released_iff (agreement : KeyAgreement) (aead : AesGcm) (staleTimeout : Time)
    (events : List ManagerEvent) (final : TunnelObjects)
    (ran : runFrom (step agreement aead) (init staleTimeout) events = some final) :
    (∀ before after reached, events = before ++ after →
      runFrom (step agreement aead) (init staleTimeout) before = some reached →
        reached.Released) ↔
      HoldsAlong (step agreement aead) Keeps (init staleTimeout) events := by
  have start : (init staleTimeout).WellFormed ∧ (init staleTimeout).Held :=
    ⟨init_wellFormed staleTimeout, nofun⟩
  refine safe_iff_holdsAlong
    (fun manager (holds : manager.WellFormed ∧ manager.Held) => (released_iff manager).mpr holds.2)
    (fun manager event next _ keeps holds stepped =>
      ⟨(step_cases stepped).wellFormed holds.1, (held_step_iff holds.1 holds.2 stepped).mpr keeps⟩)
    (fun manager event taken holds safe => ?_)
    (holdsAlong_taken (holdsAlong_true events (init staleTimeout)) ran) start
  obtain ⟨next, stepped⟩ := taken.2
  exact (held_step_iff holds.1 holds.2 stepped).mp ((released_iff next).mp (safe next stepped))

/-- A tunnel whose punch fails, is relayed, and is closed. -/
theorem sockets_released_closed : ∃ final,
    runFrom (step sumAgreement refusingAead) (init 90)
      [.create "bob" "25.1.0.2" 0 [1] (some 100), .punched 0 none 5 (some true), .close 0] =
        some final ∧ final.Released := by
  have created : ∀ socket, ¬ (init 90).HoldsAlone "bob" socket := by
    rintro socket ⟨⟨tunnel, stored, -⟩, -⟩
    cases stored
  refine ⟨_, rfl, (sockets_released_iff sumAgreement refusingAead 90
    [.create "bob" "25.1.0.2" 0 [1] (some 100), .punched 0 none 5 (some true), .close 0] _ rfl).mpr
      ⟨created, fun next stepped => ⟨?_, fun later steppedLater => ⟨?_, fun _ _ => trivial⟩⟩⟩
      _ [] _ (List.append_nil _).symm rfl⟩
  · exact trivial
  · obtain rfl := Option.some.inj stepped
    obtain rfl := Option.some.inj steppedLater
    rintro tunnel found socket ⟨⟨holder, stored, has⟩, -⟩
    obtain rfl := Option.some.inj found
    obtain rfl := Option.some.inj stored
    exact has

/-- The second call of `create_tunnel` for a peer loses the socket of the first. -/
theorem socket_not_released : ∃ final,
    runFrom (step sumAgreement refusingAead) (init 90)
      [.create "bob" "25.1.0.2" 0 [1] (some 100), .create "bob" "25.1.0.2" 1 [2] (some 101)] =
        some final ∧ 100 ∈ final.shutdown.owned ∧ 100 ∉ final.shutdown.closed :=
  ⟨_, rfl, by decide, by decide⟩

end TunnelObjects

end LocalNetwork
