/-
This file models the sessions of the server's admin panel, `server/web/auth.py`: the store of
tokens, the middleware before every route, and the handlers of login and logout. What the other
routes answer does not touch the store and is left to them.

The file proves exactly which requests pass the middleware after any sequence of requests, whatever
the clock shows: those whose cookie holds a token that a login with the right credentials was given,
that was not used to log out since, and that at no request since, this one included, was older than
an hour.
-/

import LocalNetwork.Basic
import LocalNetwork.Dict

namespace LocalNetwork

/-! ### Since -/

section Since

variable {Event : Type} {cause keeps : Event → Prop} {past : List Event} {event : Event}

/-- Something happened, and all that came after it kept it. -/
def Since (cause keeps : Event → Prop) (events : List Event) : Prop :=
  ∃ before first after, events = before ++ first :: after ∧ cause first ∧
    ∀ other ∈ after, keeps other

theorem not_since_nil : ¬ Since cause keeps [] := by
  rintro ⟨before, first, after, split, -, -⟩
  exact List.append_ne_nil_of_right_ne_nil before (List.cons_ne_nil first after) split.symm

/-- It happened in the last step, or before and the last step keeps it. -/
theorem since_snoc :
    Since cause keeps (past ++ [event]) ↔ cause event ∨ Since cause keeps past ∧ keeps event := by
  constructor
  · rintro ⟨before, first, after, split, happened, kept⟩
    rcases List.eq_nil_or_concat' after with rfl | ⟨middle, last, rfl⟩
    · obtain ⟨-, same⟩ := List.append_inj' split rfl
      exact .inl ((List.cons.inj same).1 ▸ happened)
    · rw [← List.cons_append, ← List.append_assoc] at split
      obtain ⟨same, lastSame⟩ := List.append_inj' split rfl
      obtain rfl := (List.cons.inj lastSame).1
      refine .inr ⟨⟨before, first, middle, same, happened, fun other member => ?_⟩, ?_⟩
      · exact kept other (List.mem_append_left _ member)
      · exact kept event (List.mem_append_right _ List.mem_cons_self)
  · rintro (happened | ⟨⟨before, first, after, rfl, happened, kept⟩, now⟩)
    · exact ⟨past, event, [], rfl, happened, fun other member => absurd member List.not_mem_nil⟩
    · refine ⟨before, first, after ++ [event], by simp, happened, fun other member => ?_⟩
      rcases List.mem_append.mp member with early | last
      · exact kept other early
      · exact List.mem_singleton.mp last ▸ now

end Since

/-! ### The model -/

/-- `SESSION_TIMEOUT` -/
def sessionTimeout : Time := 3600

/-- What the panel reads of a request. A field of the form that is missing is none. -/
structure PanelRequest where
  method : String
  path : String
  cookie : Option String
  username : Option String
  password : Option String

/-- A request, with the time at which it is handled and the token that `secrets` gives if it is
asked for one. -/
structure PanelEvent where
  request : PanelRequest
  now : Time
  token : String

inductive PanelHandler where
  | loginPage
  | login
  | logout
  /-- Another route, or the answer that there is none. -/
  | other
  deriving DecidableEq

inductive PanelAnswer where
  /-- The handler answers. -/
  | answered
  /-- Sent to the dashboard, with the token as a cookie. -/
  | loggedIn (token : String)
  /-- Sent to `/login?error=Invalid+credentials`. -/
  | invalidCredentials
  /-- Sent to the login page, and the cookie deleted. -/
  | loggedOut
  /-- Status 401. -/
  | unauthorized
  /-- Sent to the login page. -/
  | redirected
  deriving DecidableEq

structure AdminPanel where
  credentials : String × String
  sessions : Dict String Time

/-- `get_admin_credentials`, from the environment and a random password. -/
def adminCredentials (user password : Option String) (random : String) : String × String :=
  let password := password.getD ""
  (user.getD "admin", if password = "" then random else password)

namespace AdminPanel

variable (panel : AdminPanel)

/-- `create_session` -/
def createSession (token : String) (now : Time) : AdminPanel :=
  { panel with sessions := panel.sessions.insert token now }

/-- `destroy_session` -/
def destroySession (token : String) : AdminPanel :=
  { panel with sessions := panel.sessions.erase token }

/-- `validate_session` -/
def validateSession (token : Option String) (now : Time) : Bool × AdminPanel :=
  match token with
  | none => (false, panel)
  | some token =>
    if token = "" then (false, panel)
    else
      match panel.sessions.get? token with
      | none => (false, panel)
      | some created =>
        if now - created > sessionTimeout then (false, panel.destroySession token)
        else (true, panel)

end AdminPanel

namespace PanelRequest

/-- The routes that deal with sessions. A route for GET is one for HEAD too. -/
def handler (request : PanelRequest) : PanelHandler :=
  if request.path = "/login" ∧ request.method = "POST" then .login
  else if request.method = "GET" ∨ request.method = "HEAD" then
    if request.path = "/login" then .loginPage
    else if request.path = "/logout" then .logout
    else .other
  else .other

def StartsWith (request : PanelRequest) (text : String) : Prop :=
  text.toList <+: request.path.toList

instance (request : PanelRequest) (text : String) : Decidable (request.StartsWith text) :=
  inferInstanceAs (Decidable (_ <+: _))

/-- The middleware lets the login page and static assets through. -/
def Free (request : PanelRequest) : Prop :=
  request.path = "/login" ∨ request.StartsWith "/static/"

instance (request : PanelRequest) : Decidable request.Free := inferInstanceAs (Decidable (_ ∨ _))

/-- The form has the right user and password. -/
def HasCredentials (request : PanelRequest) (credentials : String × String) : Prop :=
  request.username.getD "" = credentials.1 ∧ request.password.getD "" = credentials.2

instance (request : PanelRequest) (credentials : String × String) :
    Decidable (request.HasCredentials credentials) := inferInstanceAs (Decidable (_ ∧ _))

end PanelRequest

namespace AdminPanel

variable (panel : AdminPanel)

/-- The handler of the route. -/
def answer (event : PanelEvent) : PanelAnswer × AdminPanel :=
  match event.request.handler with
  | .login =>
    if event.request.HasCredentials panel.credentials then
      (.loggedIn event.token, panel.createSession event.token event.now)
    else (.invalidCredentials, panel)
  | .logout =>
    match event.request.cookie with
    | none => (.loggedOut, panel)
    | some token => (.loggedOut, if token = "" then panel else panel.destroySession token)
  | .loginPage | .other => (.answered, panel)

/-- `auth_middleware` -/
def handle (event : PanelEvent) : PanelAnswer × AdminPanel :=
  if event.request.Free then panel.answer event
  else
    match panel.validateSession event.request.cookie event.now with
    | (true, panel) => panel.answer event
    | (false, panel) =>
      if event.request.StartsWith "/api/" then (.unauthorized, panel) else (.redirected, panel)

/-- The panel of a new process, and what becomes of it. -/
def after (credentials : String × String) (events : List PanelEvent) : AdminPanel :=
  events.foldl (fun panel event => (panel.handle event).2) ⟨credentials, Dict.empty⟩

end AdminPanel

/-! ### Who is let in -/

namespace PanelEvent

/-- A login that is given the token. -/
def Issues (credentials : String × String) (token : String) (event : PanelEvent) : Prop :=
  event.request.handler = .login ∧ event.request.HasCredentials credentials ∧ event.token = token

/-- A logout with the token. -/
def Ends (token : String) (event : PanelEvent) : Prop :=
  event.request.handler = .logout ∧ event.request.cookie = some token

/-- The middleware looks at the token. -/
def Checks (token : String) (event : PanelEvent) : Prop :=
  ¬ event.request.Free ∧ event.request.cookie = some token

/-- The token that was issued at some time is as good after the event as before. -/
def Spares (credentials : String × String) (token : String) (created : Time) (event : PanelEvent) :
    Prop :=
  ¬ event.Issues credentials token ∧ ¬ event.Ends token ∧
    (event.Checks token → event.now - created ≤ sessionTimeout)

variable (credentials : String × String) (token : String) (created : Time) (event : PanelEvent)

instance : Decidable (event.Issues credentials token) := inferInstanceAs (Decidable (_ ∧ _ ∧ _))

instance : Decidable (event.Ends token) := inferInstanceAs (Decidable (_ ∧ _))

instance : Decidable (event.Checks token) := inferInstanceAs (Decidable (_ ∧ _))

instance : Decidable (event.Spares credentials token created) :=
  inferInstanceAs (Decidable (¬ _ ∧ ¬ _ ∧ (_ → _)))

end PanelEvent

/-- The handler of the route is called. -/
def PanelAnswer.Passes (answer : PanelAnswer) : Prop :=
  answer ≠ .unauthorized ∧ answer ≠ .redirected

instance (answer : PanelAnswer) : Decidable answer.Passes := inferInstanceAs (Decidable (_ ∧ _))

namespace PanelRequest

variable {request : PanelRequest}

theorem free_of_login (login : request.handler = .login) : request.Free := by
  unfold handler at login
  split at login
  · rename_i right
    exact .inl right.1
  · split at login
    · split at login
      · cases login
      · split at login <;> cases login
    · cases login

end PanelRequest

namespace AdminPanel

variable {panel : AdminPanel} {credentials : String × String} {token : String} {created : Time}
  {event : PanelEvent}

theorem validateSession_get? (present : token ≠ "") (cookie : Option String) (now : Time) :
    (panel.validateSession cookie now).2.sessions.get? token = some created ↔
      panel.sessions.get? token = some created ∧
        (cookie = some token → now - created ≤ sessionTimeout) := by
  cases cookie with
  | none => simp [validateSession]
  | some other =>
    rw [validateSession]
    by_cases same : other = token
    · subst same
      simp only [if_neg present]
      cases found : panel.sessions.get? other with
      | none => simp [found]
      | some since =>
        simp only
        split
        · rename_i late
          simp only [destroySession, Dict.get?_erase_self, reduceCtorEq, Option.some_inj,
            forall_const, false_iff]
          rintro ⟨rfl, early⟩
          exact absurd early (not_le.mpr late)
        · rename_i early
          simp only [found, Option.some_inj, forall_const, iff_self_and]
          rintro rfl
          exact not_lt.mp early
    · have kept : some other = some token → now - created ≤ sessionTimeout :=
        fun equal => absurd (Option.some.inj equal) same
      rw [and_iff_left kept]
      split
      · exact Iff.rfl
      · split
        · exact Iff.rfl
        · split
          · rw [destroySession, Dict.get?_erase_of_ne _ (Ne.symm same)]
          · exact Iff.rfl

theorem validateSession_fst (cookie : Option String) (now : Time) :
    (panel.validateSession cookie now).1 = true ↔
      ∃ token created, cookie = some token ∧ token ≠ "" ∧
        panel.sessions.get? token = some created ∧ now - created ≤ sessionTimeout := by
  cases cookie with
  | none => simp [validateSession]
  | some token =>
    rw [validateSession]
    by_cases empty : token = ""
    · simp [empty]
    · simp only [if_neg empty]
      cases found : panel.sessions.get? token with
      | none => simp [found]
      | some created =>
        simp only
        split
        · rename_i late
          refine iff_of_false Bool.false_ne_true ?_
          rintro ⟨other, since, same, -, present, early⟩
          obtain rfl := Option.some.inj same
          obtain rfl := Option.some.inj (found.symm.trans present)
          exact absurd early (not_le.mpr late)
        · rename_i early
          exact iff_of_true rfl ⟨token, created, rfl, empty, found, not_lt.mp early⟩

/-- A session that is valid stays as it is. -/
theorem validateSession_snd {cookie : Option String} {now : Time}
    (valid : (panel.validateSession cookie now).1 = true) :
    (panel.validateSession cookie now).2 = panel := by
  obtain ⟨token, created, rfl, present, found, early⟩ := (validateSession_fst cookie now).mp valid
  simp [validateSession, present, found, not_lt.mpr early]

theorem answer_get? (present : token ≠ "") :
    (panel.answer event).2.sessions.get? token = some created ↔
      (event.Issues panel.credentials token ∧ event.now = created) ∨
        (panel.sessions.get? token = some created ∧ ¬ event.Issues panel.credentials token ∧
          ¬ event.Ends token) := by
  unfold answer PanelEvent.Issues PanelEvent.Ends
  cases handler : event.request.handler with
  | loginPage => simp
  | other => simp
  | login =>
    by_cases right : event.request.HasCredentials panel.credentials
    · by_cases same : event.token = token
      · simp [right, same, createSession]
      · simp [right, same, createSession, Dict.get?_insert_of_ne _ _ (Ne.symm same)]
    · simp [right]
  | logout =>
    cases cookie : event.request.cookie with
    | none => simp
    | some other =>
      by_cases same : other = token
      · subst same
        simp [present, destroySession]
      · by_cases empty : other = ""
        · simp [empty, Ne.symm present]
        · simp [empty, same, destroySession, Dict.get?_erase_of_ne _ (Ne.symm same)]

/-- What a request does to a token. -/
theorem handle_get? (present : token ≠ "") :
    (panel.handle event).2.sessions.get? token = some created ↔
      (event.Issues panel.credentials token ∧ event.now = created) ∨
        (panel.sessions.get? token = some created ∧
          event.Spares panel.credentials token created) := by
  unfold handle PanelEvent.Spares
  by_cases free : event.request.Free
  · have unchecked : ¬ event.Checks token := fun checks => checks.1 free
    simp only [if_pos free, answer_get? present, unchecked, false_implies, and_true]
  · have notIssued : ¬ event.Issues panel.credentials token :=
      fun issues => free (PanelRequest.free_of_login issues.1)
    have checks : event.Checks token ↔ event.request.cookie = some token :=
      and_iff_right free
    simp only [if_neg free, checks, notIssued, false_and, false_or, not_false_eq_true, true_and]
    cases validated : panel.validateSession event.request.cookie event.now with
    | mk valid next =>
      have fst := congrArg Prod.fst validated
      have snd := congrArg Prod.snd validated
      cases valid with
      | true =>
        obtain rfl : next = panel := snd.symm.trans (validateSession_snd fst)
        obtain ⟨other, since, cookie, -, found, early⟩ := (validateSession_fst _ _).mp fst
        rw [answer_get? present]
        simp only [notIssued, false_and, false_or, not_false_eq_true, true_and]
        refine and_congr_right fun held => (and_iff_left fun same => ?_).symm
        obtain rfl := Option.some.inj (same.symm.trans cookie)
        obtain rfl := Option.some.inj (held.symm.trans found)
        exact early
      | false =>
        have refused : (if event.request.StartsWith "/api/" then (PanelAnswer.unauthorized, next)
            else (.redirected, next)).2 = next := by
          split <;> rfl
        have kept : (panel.validateSession event.request.cookie event.now).2.sessions.get? token =
            some created ↔ panel.sessions.get? token = some created ∧
              (event.request.cookie = some token → event.now - created ≤ sessionTimeout) :=
          validateSession_get? present event.request.cookie event.now
        rw [validated] at kept
        simp only [refused, kept]
        refine and_congr_right fun held => (and_iff_right_of_imp fun inTime ends => ?_).symm
        have valid := (validateSession_fst event.request.cookie event.now).mpr
          ⟨token, created, ends.2, present, held, inTime ends.2⟩
        rw [validated] at valid
        cases valid

/-- The credentials stay. -/
theorem answer_credentials : (panel.answer event).2.credentials = panel.credentials := by
  unfold answer
  split
  · split <;> rfl
  · split
    · rfl
    · simp only
      split <;> rfl
  · rfl
  · rfl

theorem validateSession_credentials (cookie : Option String) (now : Time) :
    (panel.validateSession cookie now).2.credentials = panel.credentials := by
  unfold validateSession
  split
  · rfl
  · split
    · rfl
    · split
      · rfl
      · split <;> rfl

theorem handle_credentials : (panel.handle event).2.credentials = panel.credentials := by
  unfold handle
  split
  · exact answer_credentials
  · have same : (panel.validateSession event.request.cookie event.now).2.credentials =
        panel.credentials := validateSession_credentials event.request.cookie event.now
    split
    · rename_i next validated
      rw [answer_credentials, ← same, validated]
    · rename_i next validated
      rw [validated] at same
      split <;> exact same

/-- A handler never answers as the middleware does when it refuses. -/
theorem answer_passes : (panel.answer event).1.Passes := by
  unfold answer
  split
  · split
    · exact ⟨nofun, nofun⟩
    · exact ⟨nofun, nofun⟩
  · split
    · exact ⟨nofun, nofun⟩
    · exact ⟨nofun, nofun⟩
  · exact ⟨nofun, nofun⟩
  · exact ⟨nofun, nofun⟩

theorem handle_passes (guarded : ¬ event.request.Free) :
    (panel.handle event).1.Passes ↔
      (panel.validateSession event.request.cookie event.now).1 = true := by
  rw [handle, if_neg guarded]
  cases validated : panel.validateSession event.request.cookie event.now with
  | mk valid next =>
    cases valid with
    | true => exact iff_of_true answer_passes rfl
    | false =>
      refine iff_of_false ?_ nofun
      by_cases api : event.request.StartsWith "/api/"
      · simp [PanelAnswer.Passes, api]
      · simp [PanelAnswer.Passes, api]

theorem after_snoc (events : List PanelEvent) (event : PanelEvent) :
    after credentials (events ++ [event]) = ((after credentials events).handle event).2 := by
  rw [after, List.foldl_append]
  rfl

theorem after_credentials (events : List PanelEvent) :
    (after credentials events).credentials = credentials := by
  induction events using List.reverseRecOn with
  | nil => rfl
  | append_singleton events event inductionHypothesis =>
    rw [after_snoc, handle_credentials, inductionHypothesis]

/-- The store holds a token if it was issued and all requests since spared it. -/
theorem after_get? (present : token ≠ "") (events : List PanelEvent) :
    (after credentials events).sessions.get? token = some created ↔
      Since (fun first => first.Issues credentials token ∧ first.now = created)
        (PanelEvent.Spares credentials token created) events := by
  induction events using List.reverseRecOn with
  | nil => exact iff_of_false nofun not_since_nil
  | append_singleton events event inductionHypothesis =>
    rw [after_snoc, handle_get? present, after_credentials, inductionHypothesis, since_snoc]

/-- Nobody logs in without a password, whatever the environment says. -/
theorem password_of_issues {user password : Option String} {random : String} (drawn : random ≠ "")
    (issues : event.Issues (adminCredentials user password random) token) :
    event.request.password.getD "" ≠ "" := by
  rw [issues.2.1.2, adminCredentials]
  simp only
  split
  · exact drawn
  · assumption

/-- In every sequence of requests to a new panel, whatever the clock shows: a request for a page
that needs a session is passed on exactly if its cookie holds a token that a login with the right
credentials was given, that was not given again or used to log out since, and that at this request
and at every such request with it since was at most an hour old. -/
theorem passes_iff (credentials : String × String) (events : List PanelEvent) (event : PanelEvent)
    (guarded : ¬ event.request.Free) :
    ((after credentials events).handle event).1.Passes ↔
      ∃ token created, event.request.cookie = some token ∧ token ≠ "" ∧
        event.now - created ≤ sessionTimeout ∧
        Since (fun first => first.Issues credentials token ∧ first.now = created)
          (PanelEvent.Spares credentials token created) events := by
  rw [handle_passes guarded, validateSession_fst]
  refine exists_congr fun token => exists_congr fun created => and_congr_right fun _ =>
    and_congr_right fun present => ?_
  rw [after_get? present, and_comm]

/-- A page is shown 3600 seconds after the login, also when somebody else logged out. -/
theorem passes_iff_example :
    let login (now : Time) (token : String) : PanelEvent :=
      ⟨⟨"POST", "/login", none, some "admin", some "secret"⟩, now, token⟩
    let get (path cookie : String) (now : Time) : PanelEvent :=
      ⟨⟨"GET", path, some cookie, none, none⟩, now, "unused"⟩
    ((after ("admin", "secret") [login 100 "first", login 200 "second", get "/clients" "first" 300,
      get "/logout" "second" 400]).handle (get "/" "first" 3700)).1.Passes := by
  intro login get
  exact (passes_iff _ _ _ (by decide)).mpr ⟨"first", 100, rfl, by decide, by decide, [], _, _, rfl,
    by decide, by decide⟩

end AdminPanel
end LocalNetwork
