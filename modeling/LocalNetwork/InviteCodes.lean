/-
This file proves when the two tables of invite codes are inverse to each other. A code is
stored under its network and the network under its code; both entries are written when a
code is generated, and deleting a network removes both.

Two paths of the source write one table without the other. Purging the last member of a
network removes the network and leaves its code in both tables. And a code made from the
network's name is stored even if it is taken, so that it leads away from the network that
had it. Along every run without these two, each code leads to the network it was last
issued for.
-/

import LocalNetwork.InverseTables
import LocalNetwork.Membership

namespace LocalNetwork

/-! ### The operations -/

/-- The operations on the networks and their invite codes. -/
inductive InviteOp where
  | membership (op : MembershipOp)
  | getInviteCode (networkId : String) (draws : Nat → String) (suffix : String)

/-- The state after an operation; one that raises changes nothing. -/
def inviteStep (bcrypt : Bcrypt) (lower : String → String) (manager : NetworkManager) :
    InviteOp → NetworkManager
  | .membership op => membershipStep bcrypt lower manager op
  | .getInviteCode networkId draws suffix =>
    match manager.getInviteCode lower networkId draws suffix with
    | .error _ => manager
    | .ok (coded, _) => coded

/-- The code that an operation returns, with its network. -/
def issuedCode (lower : String → String) (manager : NetworkManager) :
    InviteOp → Option (String × String)
  | .membership (.generateInviteCode networkId draws suffix) =>
    match manager.generateInviteCode lower networkId draws suffix with
    | .error _ => none
    | .ok (_, code) => some (code, networkId)
  | .getInviteCode networkId draws suffix =>
    match manager.getInviteCode lower networkId draws suffix with
    | .ok (_, some code) => some (code, networkId)
    | _ => none
  | _ => none

/-- The network manager, with the network that each code was last issued for. -/
structure InviteLog where
  manager : NetworkManager
  issued : Dict String String

/-- The step function of runs: no operation stops a run. -/
def inviteRun (bcrypt : Bcrypt) (lower : String → String) (log : InviteLog) (op : InviteOp) :
    Option InviteLog :=
  some {
    manager := inviteStep bcrypt lower log.manager op
    issued :=
      match issuedCode lower log.manager op with
      | none => log.issued
      | some (code, networkId) => log.issued.insert code networkId }

/-- A draw of `random.choices(_INVITE_CODE_ALPHABET, k=_INVITE_CODE_LENGTH)`. -/
def IsDraw (code : String) : Prop :=
  code.length = 8 ∧ ∀ char ∈ code.toList, char ∈ "abcdefghijklmnopqrstuvwxyz0123456789".toList

/-- The draws of an operation are draws. -/
def InviteOp.Draws : InviteOp → Prop
  | .membership (.generateInviteCode _ draws _) | .getInviteCode _ draws _ =>
    ∀ count, IsDraw (draws count)
  | _ => True

/-! ### The invariant -/

namespace NetworkManager

/-- The tables of codes are inverse to each other, and every network in them exists. -/
structure InvitesConsistent (manager : NetworkManager) : Prop where
  inverse : ∀ code networkId, manager.inviteCodes.get? code = some networkId ↔
    manager.networkInviteCodes.get? networkId = some code
  existing : ∀ networkId code, manager.networkInviteCodes.get? networkId = some code →
    ∃ record, manager.get networkId = some record

/-- A code that is made from the name of a network, where every draw was taken. -/
def fallbackCode (lower : String → String) (record : NetworkRecord) (suffix : String) : String :=
  lower (String.ofList (record.name.toList.take 4)) ++ "-" ++ suffix

/-- Whether the code made from the name would be stored, and is taken already. -/
def FallbackTaken (lower : String → String) (manager : NetworkManager) (networkId : String)
    (draws : Nat → String) (suffix : String) : Prop :=
  ∃ record, manager.get networkId = some record ∧
    manager.networkInviteCodes.get? networkId = none ∧
    (∀ count < 10, manager.inviteCodes.contains (draws count) = true) ∧
    manager.inviteCodes.contains (fallbackCode lower record suffix) = true

end NetworkManager

/-- An operation keeps the codes: a code that is made from a name is not taken, and a client is not
purged whose going would leave a network with a code empty. -/
def KeepsCodes (lower : String → String) (log : InviteLog) : InviteOp → Prop
  | .membership (.generateInviteCode networkId draws suffix)
  | .getInviteCode networkId draws suffix =>
    ¬ log.manager.FallbackTaken lower networkId draws suffix
  | .membership (.purgeClient clientId) =>
    ∀ networkId record, log.manager.get networkId = some record → record.members = {clientId} →
      log.manager.networkInviteCodes.get? networkId = none
  | _ => True

/-- The tables are consistent, and a join by invite code adds a member to the network that the code
was last issued for. -/
structure CodesLead (bcrypt : Bcrypt) (log : InviteLog) : Prop where
  consistent : log.manager.InvitesConsistent
  leads : ∀ code clientId password returned joined,
    log.manager.joinByInviteCode bcrypt code clientId password = (some returned, joined) →
      ∃ networkId, log.issued.get? code = some networkId ∧
        joined = log.manager.addMember networkId clientId

/-! ### Generating a code -/

namespace NetworkManager

variable {bcrypt : Bcrypt} {lower : String → String} {manager : NetworkManager}

/-- The manager with a code stored in both tables. -/
def withCode (manager : NetworkManager) (networkId code : String) : NetworkManager :=
  { manager with
    inviteCodes := manager.inviteCodes.insert code networkId
    networkInviteCodes := manager.networkInviteCodes.insert networkId code }

/-- What generating a code for a network can do. -/
inductive CodeCase (lower : String → String) (manager : NetworkManager) (networkId : String)
    (draws : Nat → String) (suffix : String) : Except ValueError (NetworkManager × String) → Prop
  | missing (gone : manager.get networkId = none) :
    CodeCase lower manager networkId draws suffix (.error ⟨"network not found"⟩)
  | kept {record : NetworkRecord} {code : String} (found : manager.get networkId = some record)
    (stored : manager.networkInviteCodes.get? networkId = some code) :
    CodeCase lower manager networkId draws suffix (.ok (manager, code))
  | drawn {record : NetworkRecord} {count : Nat} (found : manager.get networkId = some record)
    (codeless : manager.networkInviteCodes.get? networkId = none)
    (free : manager.inviteCodes.contains (draws count) = false) :
    CodeCase lower manager networkId draws suffix
      (.ok (manager.withCode networkId (draws count), draws count))
  | named {record : NetworkRecord} (found : manager.get networkId = some record)
    (codeless : manager.networkInviteCodes.get? networkId = none)
    (taken : ∀ count < 10, manager.inviteCodes.contains (draws count) = true) :
    CodeCase lower manager networkId draws suffix
      (.ok (manager.withCode networkId (fallbackCode lower record suffix),
        fallbackCode lower record suffix))

theorem generateInviteCode_cases (networkId : String) (draws : Nat → String) (suffix : String) :
    CodeCase lower manager networkId draws suffix
      (manager.generateInviteCode lower networkId draws suffix) := by
  unfold generateInviteCode
  split
  · rename_i gone
    exact .missing gone
  · rename_i record found
    split
    · rename_i code stored
      exact .kept found stored
    · rename_i codeless
      cases search : ((List.range 10).map draws).find? fun code =>
          !manager.inviteCodes.contains code with
      | none =>
        refine .named found codeless fun count bound => ?_
        have taken := List.find?_eq_none.mp search (draws count)
          (List.mem_map_of_mem (List.mem_range.mpr bound))
        simpa using taken
      | some code =>
        obtain ⟨count, -, rfl⟩ := List.mem_map.mp (List.mem_of_find?_eq_some search)
        exact .drawn found codeless (by simpa using List.find?_some search)

end NetworkManager

/-- The log after a code has been generated, or could not be. -/
def InviteLog.generated (log : InviteLog) (networkId : String) :
    Except ValueError (NetworkManager × String) → InviteLog
  | .error _ => log
  | .ok (coded, code) => ⟨coded, log.issued.insert code networkId⟩

theorem inviteRun_generateInviteCode (bcrypt : Bcrypt) (lower : String → String) (log : InviteLog)
    (networkId : String) (draws : Nat → String) (suffix : String) :
    inviteRun bcrypt lower log (.membership (.generateInviteCode networkId draws suffix)) =
      some (log.generated networkId
        (log.manager.generateInviteCode lower networkId draws suffix)) := by
  simp only [inviteRun, inviteStep, membershipStep, issuedCode]
  cases log.manager.generateInviteCode lower networkId draws suffix with
  | error exception => rfl
  | ok pair => rfl

/-- Asking for the code of a network generates it where it is missing. -/
theorem inviteRun_getInviteCode (bcrypt : Bcrypt) (lower : String → String) (log : InviteLog)
    (networkId : String) (draws : Nat → String) (suffix : String) :
    inviteRun bcrypt lower log (.getInviteCode networkId draws suffix) =
      some (log.generated networkId
        (log.manager.generateInviteCode lower networkId draws suffix)) := by
  simp only [inviteRun, inviteStep, issuedCode, NetworkManager.getInviteCode,
    NetworkManager.generateInviteCode]
  cases log.manager.get networkId with
  | none => rfl
  | some record =>
    cases log.manager.networkInviteCodes.get? networkId with
    | none => rfl
    | some code => rfl

/-! ### What every operation keeps -/

/-- The tables are consistent, no code in them is empty, and a code leads to the network that it was
last issued for. -/
structure CodeInvariant (log : InviteLog) : Prop where
  inverse : Dict.InverseOn (fun _ => True) log.manager.inviteCodes log.manager.networkInviteCodes
  existing : ∀ networkId code, log.manager.networkInviteCodes.get? networkId = some code →
    ∃ record, log.manager.get networkId = some record
  nonempty : log.manager.inviteCodes.All fun code _ => code ≠ ""
  issued : ∀ code networkId, log.manager.inviteCodes.get? code = some networkId →
    log.issued.get? code = some networkId

section Invariant

variable {bcrypt : Bcrypt} {lower : String → String} {log : InviteLog}

theorem codeInvariant_empty (bannedNetworks : Finset String) :
    CodeInvariant ⟨emptyManager bannedNetworks, Dict.empty⟩ := by
  refine ⟨Dict.inverseOn_empty, fun networkId code stored => ?_, Dict.all_empty,
    fun code networkId stored => ?_⟩
  · cases stored
  · cases stored

theorem CodeInvariant.codesLead (invariant : CodeInvariant log) : CodesLead bcrypt log := by
  refine ⟨⟨fun code networkId => invariant.inverse code networkId trivial, invariant.existing⟩, ?_⟩
  intro code clientId password returned joined accepted
  obtain ⟨networkId, record, mapped, -, -, -, -, -, rfl⟩ :=
    NetworkManager.joinByInviteCode_accepted accepted
  exact ⟨networkId, invariant.issued code networkId mapped, rfl⟩

/-- A change that leaves the tables alone and no network with a code away. -/
theorem CodeInvariant.sameCodes (invariant : CodeInvariant log) {next : NetworkManager}
    (codes : next.inviteCodes = log.manager.inviteCodes)
    (networkCodes : next.networkInviteCodes = log.manager.networkInviteCodes)
    (kept : ∀ networkId code, log.manager.networkInviteCodes.get? networkId = some code →
      ∀ record, log.manager.get networkId = some record →
        ∃ record, next.get networkId = some record) :
    CodeInvariant ⟨next, log.issued⟩ := by
  refine ⟨?_, fun networkId code stored => ?_, ?_, fun code networkId stored => ?_⟩
  · show Dict.InverseOn _ next.inviteCodes next.networkInviteCodes
    rw [codes, networkCodes]
    exact invariant.inverse
  · simp only [networkCodes] at stored
    obtain ⟨record, found⟩ := invariant.existing networkId code stored
    exact kept networkId code stored record found
  · show next.inviteCodes.All _
    rw [codes]
    exact invariant.nonempty
  · simp only [codes] at stored
    exact invariant.issued code networkId stored

/-- A change of one network record, such as that of its members. -/
theorem CodeInvariant.modify (invariant : CodeInvariant log) (networkId : String)
    (update : NetworkRecord → NetworkRecord) (registry : ClientRegistry) :
    CodeInvariant ⟨{ log.manager with
      networks := log.manager.networks.modify networkId update, registry := registry },
        log.issued⟩ := by
  refine invariant.sameCodes rfl rfl fun otherId code stored record found => ?_
  have before : log.manager.networks.get? otherId = some record := found
  simp only [NetworkManager.get, Dict.get?_modify, before]
  split
  · exact ⟨_, rfl⟩
  · exact ⟨record, rfl⟩

/-- A code that is free may be stored for a network that exists and has none. -/
theorem CodeInvariant.withCode (invariant : CodeInvariant log) {networkId code : String}
    {record : NetworkRecord} (found : log.manager.get networkId = some record)
    (codeless : log.manager.networkInviteCodes.get? networkId = none)
    (free : log.manager.inviteCodes.contains code = false) (nonempty : code ≠ "") :
    CodeInvariant ⟨log.manager.withCode networkId code, log.issued.insert code networkId⟩ := by
  have unmapped : log.manager.inviteCodes.get? code = none := Option.isSome_eq_false_iff.mp free |>
    Option.isNone_iff_eq_none.mp
  refine ⟨?_, fun otherId otherCode stored => ?_, invariant.nonempty.insert nonempty,
    fun otherCode otherId stored => ?_⟩
  · refine (invariant.inverse.insert_iff trivial).mpr ⟨fun other mapped => ?_,
      fun other _ mapped => ?_⟩
    · rw [unmapped] at mapped
      cases mapped
    · rw [codeless] at mapped
      cases mapped
  · by_cases same : otherId = networkId
    · exact ⟨record, same ▸ found⟩
    · exact invariant.existing otherId otherCode
        ((Dict.get?_insert_of_ne _ _ same).symm.trans stored)
  · have mapped : (log.manager.inviteCodes.insert code networkId).get? otherCode = some otherId :=
      stored
    show (log.issued.insert code networkId).get? otherCode = some otherId
    rw [Dict.get?_insert] at mapped ⊢
    split
    · rename_i same
      rw [if_pos same] at mapped
      exact mapped
    · rename_i different
      rw [if_neg different] at mapped
      exact invariant.issued otherCode otherId mapped

theorem CodeInvariant.generated (invariant : CodeInvariant log) {networkId : String}
    {draws : Nat → String} {suffix : String} (areDraws : ∀ count, IsDraw (draws count))
    (keeps : ¬ log.manager.FallbackTaken lower networkId draws suffix) :
    CodeInvariant (log.generated networkId
      (log.manager.generateInviteCode lower networkId draws suffix)) := by
  have result := @NetworkManager.generateInviteCode_cases lower log.manager networkId draws suffix
  generalize log.manager.generateInviteCode lower networkId draws suffix = outcome at result ⊢
  cases result with
  | missing => exact invariant
  | @kept record code found stored =>
    -- the code is issued again, for the network that it leads to
    refine ⟨invariant.inverse, invariant.existing, invariant.nonempty,
      fun otherCode otherId mapped => ?_⟩
    show (log.issued.insert code networkId).get? otherCode = some otherId
    rw [Dict.get?_insert]
    split
    · rename_i same
      have leads := (invariant.inverse code networkId trivial).mpr stored
      rw [← same] at leads
      exact leads.symm.trans mapped
    · exact invariant.issued otherCode otherId mapped
  | @drawn record count found codeless free =>
    refine invariant.withCode found codeless free fun empty => ?_
    have length := (areDraws count).1
    rw [empty] at length
    cases length
  | @named record found codeless taken =>
    refine invariant.withCode found codeless ?_ ?_
    · by_contra contained
      exact keeps ⟨record, found, codeless, taken, by simpa using contained⟩
    · intro empty
      have length := congrArg String.length empty
      simp [NetworkManager.fallbackCode] at length

theorem CodeInvariant.delete (invariant : CodeInvariant log) (networkId requesterId : String) :
    CodeInvariant ⟨(log.manager.delete networkId requesterId).2, log.issued⟩ := by
  unfold NetworkManager.delete
  split
  · exact invariant
  · rename_i record found
    split
    · exact invariant
    · have elsewhere (otherId code : String)
          (stored : (log.manager.networkInviteCodes.erase networkId).get? otherId = some code) :
          ∃ record, (log.manager.networks.erase networkId).get? otherId = some record := by
        rw [Dict.get?_erase] at stored
        split at stored
        · cases stored
        · rename_i different
          rw [Dict.get?_erase_of_ne _ different]
          exact invariant.existing otherId code stored
      cases stored : log.manager.networkInviteCodes.get? networkId with
      | none =>
        refine ⟨?_, elsewhere, invariant.nonempty, invariant.issued⟩
        intro code otherId counted
        refine (invariant.inverse code otherId counted).trans ?_
        rw [Dict.get?_erase]
        by_cases same : otherId = networkId
        · rw [same, stored, if_pos rfl]
        · rw [if_neg same]
      | some code =>
        have mapped := (invariant.inverse code networkId trivial).mpr stored
        simp only [Option.getD_some, if_neg (invariant.nonempty code networkId mapped)]
        refine ⟨invariant.inverse.erase fun other _ => ?_, elsewhere,
          invariant.nonempty.erase code, fun otherCode otherId left => ?_⟩
        · rw [stored, Option.some_inj, eq_comm]
        · simp only [Dict.get?_erase] at left
          split at left
          · cases left
          · exact invariant.issued otherCode otherId left

/-- A network that a purge removes had the client as its only member. -/
theorem purged_or_kept {manager : NetworkManager} {networkId : String} {record : NetworkRecord}
    (found : manager.get networkId = some record) (clientId : String) :
    record.members = {clientId} ∧ (manager.purgeClient clientId).2.get networkId = none ∨
      record.members ≠ {clientId} ∧
        ∃ kept, (manager.purgeClient clientId).2.get networkId = some kept := by
  have stored : manager.networks.get? networkId = some record := found
  simp only [NetworkManager.purgeClient, NetworkManager.get, Dict.get?_mapValues,
    Dict.get?_filter, stored, Option.filter]
  by_cases alone : record.members = {clientId}
  · exact .inl ⟨alone, by simp [alone]⟩
  · have stays : clientId ∈ record.members → record.members.erase clientId ≠ ∅ := by
      intro member last
      refine alone (Finset.eq_singleton_iff_unique_mem.mpr ⟨member, fun other present => ?_⟩)
      by_contra different
      have remains := Finset.mem_erase.mpr ⟨different, present⟩
      rw [last] at remains
      exact Finset.notMem_empty other remains
    rw [if_pos (decide_eq_true stays)]
    exact .inr ⟨alone, _, rfl⟩

theorem CodeInvariant.purgeClient (invariant : CodeInvariant log) {clientId : String}
    (keeps : KeepsCodes lower log (.membership (.purgeClient clientId))) :
    CodeInvariant ⟨(log.manager.purgeClient clientId).2, log.issued⟩ := by
  refine invariant.sameCodes rfl rfl fun networkId code stored record found => ?_
  rcases purged_or_kept found clientId with ⟨alone, -⟩ | ⟨-, kept⟩
  · rw [keeps networkId record found alone] at stored
    cases stored
  · exact kept

/-- Every operation on the networks but the generation of a code, a deletion and a purge leaves the
tables of codes alone, and no network away. -/
theorem CodeInvariant.membership (invariant : CodeInvariant log) (op : MembershipOp)
    (draws : InviteOp.Draws (.membership op)) (keeps : KeepsCodes lower log (.membership op)) :
    ∀ next, inviteRun bcrypt lower log (.membership op) = some next → CodeInvariant next := by
  intro next stepped
  cases op with
  | generateInviteCode networkId drawn suffix =>
    rw [inviteRun_generateInviteCode] at stepped
    obtain rfl := Option.some.inj stepped
    exact invariant.generated draws keeps
  | delete networkId requesterId =>
    obtain rfl := Option.some.inj stepped
    exact invariant.delete networkId requesterId
  | purgeClient clientId =>
    obtain rfl := Option.some.inj stepped
    exact invariant.purgeClient keeps
  | create name password ownerId topology networkId uuid salt now =>
    obtain rfl := Option.some.inj stepped
    simp only [inviteStep, membershipStep, issuedCode]
    split
    · exact invariant
    · rename_i created record made
      obtain ⟨passwordHash, kind, -, rfl, rfl⟩ := NetworkManager.create_ok made
      refine invariant.sameCodes rfl rfl fun otherId code stored before found => ?_
      unfold NetworkManager.get
      simp only [Dict.get?_insert]
      split
      · exact ⟨_, rfl⟩
      · exact ⟨before, found⟩
  | join networkId clientId password =>
    obtain rfl := Option.some.inj stepped
    simp only [inviteStep, membershipStep, issuedCode]
    rcases @NetworkManager.join_cases bcrypt log.manager networkId clientId password with
      same | ⟨record, -, -, -, same⟩
    · rw [same]
      exact invariant
    · rw [same]
      exact invariant.modify networkId _ _
  | joinByInviteCode code clientId password =>
    obtain rfl := Option.some.inj stepped
    simp only [inviteStep, membershipStep, issuedCode]
    rcases @NetworkManager.joinByInviteCode_cases bcrypt log.manager code clientId password with
      same | ⟨networkId, record, -, -, -, -, same⟩
    · rw [same]
      exact invariant
    · rw [same]
      exact invariant.modify networkId _ _
  | leave networkId clientId =>
    obtain rfl := Option.some.inj stepped
    simp only [inviteStep, membershipStep, issuedCode]
    rcases @NetworkManager.leave_cases log.manager networkId clientId with
      same | ⟨record, -, -, same⟩
    · rw [same]
      exact invariant
    · rw [same]
      exact invariant.modify networkId _ _
  | register | unregister | setOnline | heartbeat | pruneStale =>
    obtain rfl := Option.some.inj stepped
    exact invariant.sameCodes rfl rfl fun _ _ _ record found => ⟨record, found⟩

theorem CodeInvariant.step (invariant : CodeInvariant log) {op : InviteOp} (draws : op.Draws)
    (keeps : KeepsCodes lower log op) {next : InviteLog}
    (stepped : inviteRun bcrypt lower log op = some next) : CodeInvariant next := by
  cases op with
  | membership op => exact invariant.membership op draws keeps next stepped
  | getInviteCode networkId drawn suffix =>
    rw [inviteRun_getInviteCode] at stepped
    obtain rfl := Option.some.inj stepped
    exact invariant.generated draws keeps

/-! ### Operations that part the tables -/

/-- A code made from a name that is taken leads away from the network that had it. -/
theorem CodeInvariant.not_fallbackTaken (invariant : CodeInvariant log) {networkId : String}
    {drawn : Nat → String} {suffix : String}
    (holds : (log.generated networkId (log.manager.generateInviteCode lower networkId drawn
      suffix)).manager.InvitesConsistent) :
    ¬ log.manager.FallbackTaken lower networkId drawn suffix := by
  rintro ⟨record, found, codeless, taken, named⟩
  have search : ((List.range 10).map drawn).find? (fun code =>
      !log.manager.inviteCodes.contains code) = none := by
    refine List.find?_eq_none.mpr fun code listed => ?_
    obtain ⟨count, bound, rfl⟩ := List.mem_map.mp listed
    simp [taken count (List.mem_range.mp bound)]
  have made : log.manager.generateInviteCode lower networkId drawn suffix =
      .ok (log.manager.withCode networkId (NetworkManager.fallbackCode lower record suffix),
        NetworkManager.fallbackCode lower record suffix) := by
    simp only [NetworkManager.generateInviteCode, found, codeless, search]
    rfl
  rw [made] at holds
  obtain ⟨otherId, mapped⟩ := Dict.contains_iff.mp named
  have alone := ((invariant.inverse.insert_iff trivial).mp
    fun code stored _ => holds.inverse code stored).1 otherId mapped
  have coded := (invariant.inverse _ otherId trivial).mp mapped
  rw [alone, codeless] at coded
  cases coded

theorem CodeInvariant.keeps_of_step (invariant : CodeInvariant log) {op : InviteOp}
    (holds : ∀ next, inviteRun bcrypt lower log op = some next →
      next.manager.InvitesConsistent) : KeepsCodes lower log op := by
  cases op with
  | getInviteCode networkId drawn suffix =>
    exact invariant.not_fallbackTaken (holds _ (inviteRun_getInviteCode ..))
  | membership op =>
    cases op with
    | generateInviteCode networkId drawn suffix =>
      exact invariant.not_fallbackTaken (holds _ (inviteRun_generateInviteCode ..))
    | purgeClient clientId =>
      intro networkId record found alone
      by_contra coded
      obtain ⟨code, stored⟩ := Option.ne_none_iff_exists'.mp coded
      obtain ⟨remaining, kept⟩ := (holds _ rfl).existing networkId code stored
      rcases purged_or_kept found clientId with ⟨-, gone⟩ | ⟨others, -⟩
      · rw [show (inviteStep bcrypt lower log.manager (.membership (.purgeClient clientId))).get
          networkId = none from gone] at kept
        cases kept
      · exact others alone
    | _ => exact trivial

/-! ### Every run -/

/-- In every state that a run passes through, the two tables of codes are inverse to each other,
their networks exist, and a join by invite code adds its client to the network that the code was last
issued for, if and only if at each step of the run a code that is made from a name is not taken, and
a purge leaves no network with a code empty. -/
theorem invite_tables_inverse_iff (bcrypt : Bcrypt) (lower : String → String)
    (bannedNetworks : Finset String) (ops : List InviteOp) (draws : ∀ op ∈ ops, op.Draws) :
    (∀ before after log, ops = before ++ after →
      runFrom (inviteRun bcrypt lower) ⟨emptyManager bannedNetworks, Dict.empty⟩ before =
        some log → CodesLead bcrypt log) ↔
      HoldsAlong (inviteRun bcrypt lower) (KeepsCodes lower)
        ⟨emptyManager bannedNetworks, Dict.empty⟩ ops := by
  refine safe_iff_holdsAlong (fun log => CodeInvariant.codesLead)
    (fun log op next drawn keeps invariant stepped => invariant.step drawn keeps stepped)
    (fun log op drawn invariant holds => invariant.keeps_of_step fun next stepped =>
      (holds next stepped).consistent)
    (holdsAlong_of_forall (fun op member _ => draws op member) _) (codeInvariant_empty _)

end Invariant

/-- A client creates a network with a code, and is purged. -/
def lastMemberPurged : List InviteOp :=
  [.membership (.create "home" "secret" "alice" "mesh" (some "n") "" [] 0),
    .getInviteCode "n" (fun _ => "a3x9k2bc") "1f2e3d",
    .membership (.purgeClient "alice")]

theorem invite_tables_inverse_iff_lastMemberPurged :
    (∀ before after log, lastMemberPurged = before ++ after →
      runFrom (inviteRun plainBcrypt id) ⟨emptyManager ∅, Dict.empty⟩ before = some log →
        CodesLead plainBcrypt log) ↔
      HoldsAlong (inviteRun plainBcrypt id) (KeepsCodes id) ⟨emptyManager ∅, Dict.empty⟩
        lastMemberPurged := by
  refine invite_tables_inverse_iff plainBcrypt id ∅ lastMemberPurged fun op member => ?_
  simp only [lastMemberPurged, List.mem_cons, List.not_mem_nil, or_false] at member
  rcases member with rfl | rfl | rfl
  · exact trivial
  · have drawn : IsDraw "a3x9k2bc" := ⟨rfl, by decide⟩
    exact fun _ => drawn
  · exact trivial

/-- The code still leads to the network, and the network is gone. -/
theorem code_outlives_network :
    runFrom (inviteRun plainBcrypt id) ⟨emptyManager ∅, Dict.empty⟩ lastMemberPurged =
        some ⟨lastMemberPurged.foldl (inviteStep plainBcrypt id) (emptyManager ∅),
          Dict.empty.insert "a3x9k2bc" "n"⟩ ∧
      (lastMemberPurged.foldl (inviteStep plainBcrypt id) (emptyManager ∅)).inviteCodes.get?
        "a3x9k2bc" = some "n" ∧
      ¬ (lastMemberPurged.foldl (inviteStep plainBcrypt id)
        (emptyManager ∅)).InvitesConsistent := by
  have stored : (lastMemberPurged.foldl (inviteStep plainBcrypt id)
      (emptyManager ∅)).networkInviteCodes.get? "n" = some "a3x9k2bc" := by decide +kernel
  have gone : ((lastMemberPurged.foldl (inviteStep plainBcrypt id) (emptyManager ∅)).get
      "n").isNone = true := by decide +kernel
  refine ⟨rfl, by decide +kernel, fun consistent => ?_⟩
  obtain ⟨record, found⟩ := consistent.existing "n" "a3x9k2bc" stored
  rw [found] at gone
  cases gone

end LocalNetwork
