/-
This file proves what becomes of a challenge: it makes at most one verification succeed,
it is compared with a bounded number of signatures, it succeeds only within its time to
live, and not after a newer challenge was issued for the same client.

A run of the session is accompanied by its history, in which every issue, comparison and
success names the challenge by its identity. The invariant says of every pending challenge
what the history says about it: it has not succeeded yet, its count of attempts is the
number of its comparisons, and no newer challenge was issued for its client.
-/

import LocalNetwork.Auth
import Mathlib.Data.List.Count

namespace LocalNetwork

/-! ### Runs and their histories -/

/-- The calls on a session. A verification reads the registry as it is at that moment. -/
inductive AuthCall where
  | issue (clientId : String) (nonce : Bytes) (now : Time)
  | verify (registry : ClientRegistry) (clientId challengeHex signatureHex : String) (now : Time)
  | expireStale (now : Time)

/-- What the history records of a challenge, named by its identity. -/
inductive AuthEvent where
  | issued (identity : Nat) (clientId : String) (at_ : Time)
  | compared (identity : Nat)
  | succeeded (identity : Nat) (at_ : Time)
  deriving DecidableEq, Repr

namespace AuthEvent

def identity : AuthEvent → Nat
  | .issued identity _ _ => identity
  | .compared identity => identity
  | .succeeded identity _ => identity

/-- Whether the event is a comparison with this challenge. -/
def compares (identity : Nat) : AuthEvent → Bool
  | .compared other => decide (other = identity)
  | _ => false

/-- Whether the event is a success of this challenge. -/
def succeeds (identity : Nat) : AuthEvent → Bool
  | .succeeded other _ => decide (other = identity)
  | _ => false

end AuthEvent

/-- How often a challenge was compared with a signature. -/
def comparisons (history : List AuthEvent) (identity : Nat) : Nat :=
  history.countP (AuthEvent.compares identity)

/-- How often a challenge made a verification succeed. -/
def successes (history : List AuthEvent) (identity : Nat) : Nat :=
  history.countP (AuthEvent.succeeds identity)

/-- A session with the history of the calls made on it. -/
structure AuthRun where
  session : AuthSession
  history : List AuthEvent

/-- What a verification adds to the history. -/
def verificationEvents (done : AuthSession.Verification) (now : Time) : List AuthEvent :=
  match done.compared, done.result with
  | none, _ => []
  | some pending, .ok (true, _) =>
    [.compared pending.identity, .succeeded pending.identity now]
  | some pending, _ => [.compared pending.identity]

def authStep (scheme : SignatureScheme) (run : AuthRun) : AuthCall → AuthRun
  | .issue clientId nonce now =>
    { session := (run.session.issue clientId nonce now).2
      history := run.history ++
        [.issued (run.session.newPending clientId nonce now).identity clientId now] }
  | .verify registry clientId challengeHex signatureHex now =>
    let done := run.session.verify scheme registry clientId challengeHex signatureHex now
    { session := done.session, history := run.history ++ verificationEvents done now }
  | .expireStale now => { run with session := (run.session.expireStale now).2 }

/-- The history of a list of calls on a new session. -/
def authHistory (scheme : SignatureScheme) (ttl : Time) (maxAttempts : Int)
    (calls : List AuthCall) : List AuthEvent :=
  (calls.foldl (authStep scheme) ⟨AuthSession.init ttl maxAttempts, []⟩).history

/-! ### Histories that grow at the end -/

/-- An ordered selection from a history with one more event either ends with that event or was a
selection before. -/
theorem sublist_snoc {Event : Type} (selected : List Event) {history : List Event}
    {last event : Event} (sublist : (selected ++ [last]).Sublist (history ++ [event])) :
    (selected ++ [last]).Sublist history ∨ (last = event ∧ selected.Sublist history) := by
  have reversed := List.reverse_sublist.mpr sublist
  rw [List.reverse_append, List.reverse_append] at reversed
  rcases List.sublist_cons_iff.mp reversed with older | ⟨rest, same, older⟩
  · refine .inl (List.reverse_sublist.mp ?_)
    rw [List.reverse_append]
    exact older
  · obtain ⟨rfl, rfl⟩ := List.cons.inj same
    exact .inr ⟨rfl, List.reverse_sublist.mp older⟩

/-- What the histories of sessions satisfy. -/
structure SoundHistory (ttl : Time) (maxAttempts : Int) (created : Nat)
    (history : List AuthEvent) : Prop where
  known : ∀ event ∈ history, event.identity < created
  unique : ∀ identity first second firstTime secondTime,
    .issued identity first firstTime ∈ history → .issued identity second secondTime ∈ history →
      first = second ∧ firstTime = secondTime
  once : ∀ identity, successes history identity ≤ 1
  bounded : ∀ identity, (comparisons history identity : Int) ≤ max 1 maxAttempts
  timely : ∀ identity clientId issuedAt succeededAt,
    .issued identity clientId issuedAt ∈ history → .succeeded identity succeededAt ∈ history →
      succeededAt - issuedAt ≤ ttl
  latest : ∀ old new clientId oldTime newTime time,
    ¬ [.issued old clientId oldTime, .issued new clientId newTime, .succeeded old time].Sublist
      history

/-- What the history says about a challenge that is pending for a client. -/
structure Live (maxAttempts : Int) (history : List AuthEvent) (clientId : String)
    (pending : PendingAuth) : Prop where
  issued : .issued pending.identity clientId pending.createdAt ∈ history
  unused : successes history pending.identity = 0
  counted : comparisons history pending.identity = pending.attempts
  allowed : pending.attempts = 0 ∨ (pending.attempts : Int) < maxAttempts
  newest : ∀ issuedAt newer newerTime,
    ¬ [.issued pending.identity clientId issuedAt, .issued newer clientId newerTime].Sublist
      history

variable {ttl : Time} {maxAttempts : Int} {created : Nat} {history : List AuthEvent}

/-! ### One more event -/

theorem successes_snoc (history : List AuthEvent) (event : AuthEvent) (identity : Nat) :
    successes (history ++ [event]) identity =
      successes history identity + if event.succeeds identity then 1 else 0 := by
  rw [successes, List.countP_append, List.countP_singleton, successes]

theorem comparisons_snoc (history : List AuthEvent) (event : AuthEvent) (identity : Nat) :
    comparisons (history ++ [event]) identity =
      comparisons history identity + if event.compares identity then 1 else 0 := by
  rw [comparisons, List.countP_append, List.countP_singleton, comparisons]

/-- An event about another challenge that is not an issue for the client keeps a challenge as it
is. -/
theorem Live.snoc {clientId : String} {pending : PendingAuth}
    (live : Live maxAttempts history clientId pending) {event : AuthEvent}
    (different : event.identity ≠ pending.identity)
    (notNewer : ∀ identity time, event ≠ .issued identity clientId time) :
    Live maxAttempts (history ++ [event]) clientId pending where
  issued := List.mem_append_left _ live.issued
  unused := by
    have uncounted : AuthEvent.succeeds pending.identity event = false := by
      cases event <;> simp_all [AuthEvent.succeeds, AuthEvent.identity]
    rw [successes_snoc, uncounted]
    exact live.unused
  counted := by
    have uncounted : AuthEvent.compares pending.identity event = false := by
      cases event <;> simp_all [AuthEvent.compares, AuthEvent.identity]
    rw [comparisons_snoc, uncounted]
    exact live.counted
  allowed := live.allowed
  newest := by
    intro issuedAt newer newerTime sublist
    rcases sublist_snoc [_] sublist with older | ⟨same, -⟩
    · exact live.newest issuedAt newer newerTime older
    · exact notNewer newer newerTime same.symm

/-- A challenge that was never mentioned has no successes and no comparisons. -/
theorem SoundHistory.unmentioned (sound : SoundHistory ttl maxAttempts created history) :
    successes history created = 0 ∧ comparisons history created = 0 := by
  constructor
  · refine List.countP_eq_zero.mpr fun event member => ?_
    have older := sound.known event member
    cases event <;> simp_all [AuthEvent.succeeds, AuthEvent.identity]
    omega
  · refine List.countP_eq_zero.mpr fun event member => ?_
    have older := sound.known event member
    cases event <;> simp_all [AuthEvent.compares, AuthEvent.identity]
    omega

/-- An event about a known challenge mentions no new one. -/
theorem SoundHistory.known_snoc (sound : SoundHistory ttl maxAttempts created history)
    {event : AuthEvent} (named : event.identity < created) :
    ∀ other ∈ history ++ [event], other.identity < created := by
  intro other member
  rcases List.mem_append.mp member with older | new
  · exact sound.known other older
  · rw [List.mem_singleton.mp new]
    exact named

/-- An event that issues nothing leaves each challenge issued once. -/
theorem SoundHistory.unique_snoc (sound : SoundHistory ttl maxAttempts created history)
    {event : AuthEvent}
    (notIssue : ∀ identity clientId time, event ≠ .issued identity clientId time) (identity : Nat)
    (first second : String) (firstTime secondTime : Time)
    (firstIssued : .issued identity first firstTime ∈ history ++ [event])
    (secondIssued : .issued identity second secondTime ∈ history ++ [event]) :
    first = second ∧ firstTime = secondTime := by
  have before {clientId : String} {time : Time}
      (issued : .issued identity clientId time ∈ history ++ [event]) :
      .issued identity clientId time ∈ history := by
    rcases List.mem_append.mp issued with older | new
    · exact older
    · exact absurd (List.mem_singleton.mp new).symm (notIssue identity clientId time)
  exact sound.unique identity first second firstTime secondTime (before firstIssued)
    (before secondIssued)

/-- An event that is no success lets no older challenge succeed after a newer one was issued. -/
theorem SoundHistory.latest_snoc (sound : SoundHistory ttl maxAttempts created history)
    {event : AuthEvent} (notSuccess : ∀ identity time, event ≠ .succeeded identity time)
    (old new : Nat) (clientId : String) (oldTime newTime time : Time) :
    ¬ [.issued old clientId oldTime, .issued new clientId newTime, .succeeded old time].Sublist
      (history ++ [event]) := by
  intro sublist
  rcases sublist_snoc [_, _] sublist with older | ⟨same, -⟩
  · exact sound.latest old new clientId oldTime newTime time older
  · exact notSuccess old time same.symm

theorem SoundHistory.issue (sound : SoundHistory ttl maxAttempts created history)
    (clientId : String) (now : Time) :
    SoundHistory ttl maxAttempts (created + 1) (history ++ [.issued created clientId now]) where
  known := by
    intro event member
    rcases List.mem_append.mp member with older | new
    · exact Nat.lt_succ_of_lt (sound.known event older)
    · rw [List.mem_singleton.mp new]
      exact Nat.lt_succ_self created
  unique := by
    intro identity first second firstTime secondTime firstIssued secondIssued
    rcases List.mem_append.mp firstIssued with firstOld | firstNew <;>
      rcases List.mem_append.mp secondIssued with secondOld | secondNew
    · exact sound.unique identity first second firstTime secondTime firstOld secondOld
    · cases List.mem_singleton.mp secondNew
      exact absurd (sound.known _ firstOld) (Nat.lt_irrefl created)
    · cases List.mem_singleton.mp firstNew
      exact absurd (sound.known _ secondOld) (Nat.lt_irrefl created)
    · cases List.mem_singleton.mp firstNew
      cases List.mem_singleton.mp secondNew
      exact ⟨rfl, rfl⟩
  once := by
    intro identity
    rw [successes_snoc]
    exact sound.once identity
  bounded := by
    intro identity
    rw [comparisons_snoc]
    exact sound.bounded identity
  timely := by
    intro identity other issuedAt succeededAt issued succeeded
    have success : .succeeded identity succeededAt ∈ history := by simpa using succeeded
    rcases List.mem_append.mp issued with older | new
    · exact sound.timely identity other issuedAt succeededAt older success
    · cases List.mem_singleton.mp new
      exact absurd (sound.known _ success) (Nat.lt_irrefl created)
  latest := sound.latest_snoc nofun

/-- A comparison with a pending challenge stays within the limit: either it is the first one, or
the challenge was re-queued below the limit. -/
theorem SoundHistory.compare (sound : SoundHistory ttl maxAttempts created history)
    {clientId : String} {pending : PendingAuth}
    (live : Live maxAttempts history clientId pending) :
    SoundHistory ttl maxAttempts created (history ++ [.compared pending.identity]) where
  known := by
    have named : pending.identity < created := sound.known _ live.issued
    exact sound.known_snoc named
  unique := sound.unique_snoc nofun
  once := by
    intro identity
    rw [successes_snoc]
    exact sound.once identity
  bounded := by
    intro identity
    rw [comparisons_snoc]
    by_cases same : pending.identity = identity
    · rw [← same, live.counted]
      rcases live.allowed with none | below
      · simp [AuthEvent.compares, none]
      · simp only [AuthEvent.compares, decide_true, if_true]
        exact le_max_of_le_right (by push_cast; omega)
    · simp only [AuthEvent.compares, same, decide_false, Bool.false_eq_true, if_false]
      exact sound.bounded identity
  timely := by
    intro identity other issuedAt succeededAt issued succeeded
    exact sound.timely identity other issuedAt succeededAt (by simpa using issued)
      (by simpa using succeeded)
  latest := sound.latest_snoc nofun

/-- A success of a challenge that was pending and is not expired. -/
theorem SoundHistory.succeed (sound : SoundHistory ttl maxAttempts created history)
    {clientId : String} {pending : PendingAuth}
    (issued : .issued pending.identity clientId pending.createdAt ∈ history)
    (unused : successes history pending.identity = 0)
    (newest : ∀ issuedAt newer newerTime,
      ¬ [.issued pending.identity clientId issuedAt, .issued newer clientId newerTime].Sublist
        history)
    {now : Time} (unexpired : now - pending.createdAt ≤ ttl) :
    SoundHistory ttl maxAttempts created (history ++ [.succeeded pending.identity now]) where
  known := by
    have named : pending.identity < created := sound.known _ issued
    exact sound.known_snoc named
  unique := sound.unique_snoc nofun
  once := by
    intro identity
    rw [successes_snoc]
    by_cases same : pending.identity = identity
    · rw [← same, unused]
      simp [AuthEvent.succeeds]
    · simp only [AuthEvent.succeeds, same, decide_false, Bool.false_eq_true, if_false]
      exact sound.once identity
  bounded := by
    intro identity
    rw [comparisons_snoc]
    exact sound.bounded identity
  timely := by
    intro identity other issuedAt succeededAt otherIssued succeeded
    have before : .issued identity other issuedAt ∈ history := by simpa using otherIssued
    rcases List.mem_append.mp succeeded with older | new
    · exact sound.timely identity other issuedAt succeededAt before older
    · cases List.mem_singleton.mp new
      rw [(sound.unique _ _ _ _ _ before issued).2]
      exact unexpired
  latest := by
    intro old new other oldTime newTime time sublist
    rcases sublist_snoc [_, _] sublist with older | ⟨same, selected⟩
    · exact sound.latest old new other oldTime newTime time older
    · cases same
      have before := selected.subset List.mem_cons_self
      rw [(sound.unique _ _ _ _ _ before issued).1] at selected
      exact newest oldTime new newTime selected

/-! ### Every run -/

/-- The history of a run agrees with its session. -/
structure Accounted (run : AuthRun) : Prop where
  sound : SoundHistory run.session.ttl run.session.maxAttempts run.session.created run.history
  live : run.session.pending.All (Live run.session.maxAttempts run.history)

/-- Challenges pending for different clients are different. -/
theorem Accounted.different {run : AuthRun} (accounted : Accounted run)
    {first second : String} {firstPending secondPending : PendingAuth}
    (firstStored : run.session.pending.get? first = some firstPending)
    (secondStored : run.session.pending.get? second = some secondPending)
    (different : first ≠ second) : firstPending.identity ≠ secondPending.identity := by
  intro same
  have firstIssued := (accounted.live first firstPending firstStored).issued
  have secondIssued := (accounted.live second secondPending secondStored).issued
  rw [← same] at secondIssued
  exact different (accounted.sound.unique _ _ _ _ _ firstIssued secondIssued).1

theorem accounted_issue {run : AuthRun} (accounted : Accounted run) (scheme : SignatureScheme)
    (clientId : String) (nonce : Bytes) (now : Time) :
    Accounted (authStep scheme run (.issue clientId nonce now)) where
  sound := accounted.sound.issue clientId now
  live := by
    intro other pending stored
    simp only [authStep, AuthSession.issue, Dict.get?_insert] at stored
    by_cases same : other = clientId
    · rw [if_pos same] at stored
      obtain rfl := Option.some.inj stored
      obtain ⟨unused, uncompared⟩ := accounted.sound.unmentioned
      refine ⟨?_, ?_, ?_, .inl rfl, ?_⟩
      · rw [same]
        exact List.mem_append_right _ (List.mem_singleton.mpr rfl)
      · exact (successes_snoc _ _ _).trans unused
      · exact (comparisons_snoc _ _ _).trans uncompared
      · intro issuedAt newer newerTime sublist
        have before : .issued run.session.created other issuedAt ∈ run.history := by
          rcases sublist_snoc [_] sublist with older | ⟨-, older⟩
          · exact older.subset List.mem_cons_self
          · exact older.subset List.mem_cons_self
        exact absurd (accounted.sound.known _ before) (Nat.lt_irrefl _)
    · rw [if_neg same] at stored
      have live := accounted.live other pending stored
      refine live.snoc (fun equal => ?_) fun identity time equal => ?_
      · have older := accounted.sound.known _ live.issued
        exact absurd (equal ▸ older) (Nat.lt_irrefl _)
      · exact same (AuthEvent.issued.inj equal).2.1.symm

/-- The challenges of the other clients, after a comparison with the challenge of one. -/
theorem Accounted.others {run : AuthRun} (accounted : Accounted run) {clientId : String}
    {compared : PendingAuth} (stored : run.session.pending.get? clientId = some compared)
    {other : String} {pending : PendingAuth} (different : other ≠ clientId)
    (otherStored : run.session.pending.get? other = some pending) {event : AuthEvent}
    (about : event = .compared compared.identity ∨ ∃ now, event = .succeeded compared.identity now)
    {events : List AuthEvent} (live : Live run.session.maxAttempts events other pending) :
    Live run.session.maxAttempts (events ++ [event]) other pending := by
  have distinct := accounted.different stored otherStored (Ne.symm different)
  rcases about with rfl | ⟨now, rfl⟩
  · exact live.snoc distinct fun identity time equal => by cases equal
  · exact live.snoc distinct fun identity time equal => by cases equal

/-- After a comparison that removes the challenge. -/
theorem accounted_dropped {run : AuthRun} (accounted : Accounted run) {clientId : String}
    {pending : PendingAuth} (stored : run.session.pending.get? clientId = some pending) :
    Accounted ⟨run.session.cleared clientId, run.history ++ [.compared pending.identity]⟩ where
  sound := accounted.sound.compare (accounted.live clientId pending stored)
  live := by
    intro other otherPending otherStored
    simp only [AuthSession.cleared, Dict.get?_erase] at otherStored
    by_cases same : other = clientId
    · rw [if_pos same] at otherStored
      cases otherStored
    · rw [if_neg same] at otherStored
      exact accounted.others stored same otherStored (.inl rfl)
        (accounted.live other otherPending otherStored)

/-- After a comparison that re-queues the challenge. -/
theorem accounted_requeued {run : AuthRun} (accounted : Accounted run) {clientId : String}
    {pending : PendingAuth} (stored : run.session.pending.get? clientId = some pending)
    (below : (pending.attempts + 1 : Nat) < run.session.maxAttempts) :
    Accounted
      ⟨{ run.session with
          pending := (run.session.pending.erase clientId).insert clientId
            { pending with attempts := pending.attempts + 1 } },
        run.history ++ [.compared pending.identity]⟩ where
  sound := accounted.sound.compare (accounted.live clientId pending stored)
  live := by
    intro other otherPending otherStored
    simp only [Dict.get?_insert, Dict.get?_erase] at otherStored
    by_cases same : other = clientId
    · rw [if_pos same] at otherStored
      obtain rfl := Option.some.inj otherStored
      subst same
      have live := accounted.live other pending stored
      refine ⟨List.mem_append_left _ live.issued, ?_, ?_, .inr below, ?_⟩
      · exact (successes_snoc _ _ _).trans live.unused
      · rw [comparisons_snoc, live.counted]
        simp [AuthEvent.compares]
      · intro issuedAt newer newerTime sublist
        rcases sublist_snoc [_] sublist with older | ⟨same, -⟩
        · exact live.newest issuedAt newer newerTime older
        · cases same
    · rw [if_neg same, if_neg same] at otherStored
      exact accounted.others stored same otherStored (.inl rfl)
        (accounted.live other otherPending otherStored)

/-- After a comparison that accepts the signature. -/
theorem accounted_accepted {run : AuthRun} (accounted : Accounted run) {clientId : String}
    {pending : PendingAuth} (stored : run.session.pending.get? clientId = some pending)
    {now : Time} (unexpired : now - pending.createdAt ≤ run.session.ttl) :
    Accounted
      ⟨run.session.cleared clientId,
        run.history ++ [.compared pending.identity, .succeeded pending.identity now]⟩ := by
  have live := accounted.live clientId pending stored
  have compared := accounted_dropped accounted stored
  have split : run.history ++ [.compared pending.identity, .succeeded pending.identity now] =
      run.history ++ [.compared pending.identity] ++ [.succeeded pending.identity now] := by
    rw [List.append_assoc, List.singleton_append]
  rw [split]
  refine ⟨?_, ?_⟩
  · refine compared.sound.succeed (List.mem_append_left _ live.issued) ?_ ?_ unexpired
    · exact (successes_snoc _ _ _).trans live.unused
    · intro issuedAt newer newerTime sublist
      rcases sublist_snoc [_] sublist with older | ⟨same, -⟩
      · exact live.newest issuedAt newer newerTime older
      · cases same
  · intro other otherPending otherStored
    have stillLive := compared.live other otherPending otherStored
    simp only [AuthSession.cleared, Dict.get?_erase] at otherStored
    by_cases same : other = clientId
    · rw [if_pos same] at otherStored
      cases otherStored
    · rw [if_neg same] at otherStored
      exact accounted.others stored same otherStored (.inr ⟨now, rfl⟩) stillLive

theorem accounted_verification {run : AuthRun} (accounted : Accounted run)
    {scheme : SignatureScheme} {registry : ClientRegistry} {clientId signatureHex : String}
    {now : Time} {done : AuthSession.Verification}
    (outcome : run.session.VerifyCase scheme registry clientId signatureHex now done) :
    Accounted ⟨done.session, run.history ++ verificationEvents done now⟩ := by
  cases outcome with
  | uncompared message =>
    rw [verificationEvents, List.append_nil]
    exact ⟨accounted.sound, accounted.live.erase clientId⟩
  | accepted pending signature record compares valid =>
    exact accounted_accepted accounted compares.stored compares.unexpired
  | raised pending signature record compares exception =>
    exact accounted_dropped accounted compares.stored
  | exhausted pending signature record compares message =>
    exact accounted_dropped accounted compares.stored
  | requeued pending signature record compares message below =>
    exact accounted_requeued accounted compares.stored below

theorem accounted_step {run : AuthRun} (accounted : Accounted run) (scheme : SignatureScheme)
    (call : AuthCall) : Accounted (authStep scheme run call) := by
  cases call with
  | issue clientId nonce now => exact accounted_issue accounted scheme clientId nonce now
  | verify registry clientId challengeHex signatureHex now =>
    exact accounted_verification accounted (run.session.verify_cases scheme registry clientId
      challengeHex signatureHex now)
  | expireStale now => exact ⟨accounted.sound, accounted.live.filter _⟩

theorem accounted_init (ttl : Time) (maxAttempts : Int) :
    Accounted ⟨AuthSession.init ttl maxAttempts, []⟩ := by
  refine ⟨⟨?_, ?_, ?_, ?_, ?_, ?_⟩, Dict.all_empty⟩
  · intro event member
    cases member
  · intro identity first second firstTime secondTime member
    cases member
  · intro identity
    exact Nat.zero_le 1
  · intro identity
    exact le_max_of_le_left (show (0 : Int) ≤ 1 by decide)
  · intro identity clientId issuedAt succeededAt member
    cases member
  · intro old new clientId oldTime newTime time sublist
    cases sublist

/-- No call changes the limits. -/
theorem limits_step (scheme : SignatureScheme) (run : AuthRun) (call : AuthCall) :
    (authStep scheme run call).session.ttl = run.session.ttl ∧
      (authStep scheme run call).session.maxAttempts = run.session.maxAttempts := by
  cases call with
  | issue clientId nonce now => exact ⟨rfl, rfl⟩
  | verify registry clientId challengeHex signatureHex now =>
    exact (run.session.verify_cases scheme registry clientId challengeHex signatureHex
      now).limits
  | expireStale now => exact ⟨rfl, rfl⟩

/-- The lifetime of a challenge, for every sequence of calls and every signature scheme: it
makes at most one verification succeed, is compared at most as often as the limit allows (and
once where the limit is lower), succeeds only within its time to live, and not once a newer
challenge has been issued for its client. -/
theorem challenge_lifetime (scheme : SignatureScheme) (ttl : Time) (maxAttempts : Int)
    (calls : List AuthCall) :
    (∀ identity, successes (authHistory scheme ttl maxAttempts calls) identity ≤ 1) ∧
    (∀ identity, (comparisons (authHistory scheme ttl maxAttempts calls) identity : Int) ≤
      max 1 maxAttempts) ∧
    (∀ identity clientId issuedAt succeededAt,
      .issued identity clientId issuedAt ∈ authHistory scheme ttl maxAttempts calls →
      .succeeded identity succeededAt ∈ authHistory scheme ttl maxAttempts calls →
        succeededAt - issuedAt ≤ ttl) ∧
    ∀ old new clientId oldTime newTime time,
      ¬ [.issued old clientId oldTime, .issued new clientId newTime, .succeeded old time].Sublist
        (authHistory scheme ttl maxAttempts calls) := by
  have invariant := List.foldlRecOn
    (motive := fun run : AuthRun =>
      Accounted run ∧ run.session.ttl = ttl ∧ run.session.maxAttempts = maxAttempts)
    calls (authStep scheme) ⟨accounted_init ttl maxAttempts, rfl, rfl⟩ fun run holds call _ => by
      obtain ⟨sameTtl, sameLimit⟩ := limits_step scheme run call
      exact ⟨accounted_step holds.1 scheme call, sameTtl.trans holds.2.1,
        sameLimit.trans holds.2.2⟩
  obtain ⟨⟨sound, -⟩, sameTtl, sameLimit⟩ := invariant
  rw [sameTtl, sameLimit] at sound
  exact ⟨sound.once, sound.bounded, sound.timely, sound.latest⟩

/-- A wrong signature, then the right one, under a scheme in which a challenge signs itself. -/
example :
    authHistory
        { Key := Unit
          loadPemPublicKey := fun _ => .rsa ()
          verify := fun _ signature challenge =>
            if signature = challenge then .valid else .invalidSignature }
        60 5
        [.issue "client-0001" [7] 0,
          .verify (ClientRegistry.init.register "client-0001" "key" 0) "client-0001" "07" "08" 1,
          .verify (ClientRegistry.init.register "client-0001" "key" 0) "client-0001" "07" "07" 2] =
      [.issued 0 "client-0001" 0, .compared 0, .compared 0, .succeeded 0 2] := by
  decide +kernel

end LocalNetwork
