/-
This file describes a connection by the stage it has reached: it has not registered, it is
being answered to its REGISTER, it has registered a client, its response was verified, it
sends commands, or it is torn down, with announcements to others if it had come to the
command loop. A stage fixes the local variables of the coroutine and what kind of
instructions it can still have before it.

The stages are the lifecycle that the source documents, and every step of the server moves
each connection along it. A connection comes to be registered for a client only by a
REGISTER that is accepted for that client, and verified only by a verification that
succeeds for the client it registered; no later message changes its client.
-/

import LocalNetwork.ServerSteps
import LocalNetwork.Commands
import LocalNetwork.Transition

namespace LocalNetwork

/-! ### What happens in a step -/

/-- A REGISTER on this connection is accepted for this client. -/
def Registers (packages : Packages) (id : ConnId) (clientId : String) (server : Server)
    (event : ServerEvent) : Prop :=
  ∃ message choice connection publicKey, event = .receive id message choice ∧
    Accepts packages server id message connection clientId publicKey

/-- A message is accepted as a REGISTER for one client at most. -/
theorem registers_unique {packages : Packages} {id : ConnId} {first second : String}
    {server : Server} {event : ServerEvent}
    (firstRegisters : Registers packages id first server event)
    (secondRegisters : Registers packages id second server event) : first = second := by
  obtain ⟨message, choice, connection, publicKey, rfl, accepts⟩ := firstRegisters
  obtain ⟨_, _, _, _, same, otherAccepts⟩ := secondRegisters
  obtain ⟨-, rfl, -⟩ := ServerEvent.receive.inj same
  exact (Prod.mk.inj (Except.ok.inj (accepts.accepted.symm.trans otherAccepts.accepted))).1

/-- An AUTH_RESPONSE on this connection, which has registered this client, is verified. -/
def Verifies (packages : Packages) (id : ConnId) (clientId : String) (server : Server)
    (event : ServerEvent) : Prop :=
  ∃ message choice connection challengeHex signatureHex detail,
    event = .receive id message choice ∧
    Responds packages server id message connection clientId challengeHex signatureHex ∧
    (server.verification packages clientId challengeHex signatureHex choice.now).result =
      .ok (true, detail)

/-- An AUTH_RESPONSE on this connection is verified. -/
def VerifiesOn (packages : Packages) (id : ConnId) (server : Server) (event : ServerEvent) : Prop :=
  ∃ clientId, Verifies packages id clientId server event

/-- `_dispatch` runs for this client on this connection. -/
def Dispatches (id : ConnId) (clientId : String) (server : Server) (event : ServerEvent) : Prop :=
  ∃ message choice connection, event = .receive id message choice ∧
    server.connections.get? id = some connection ∧ connection.Waiting ∧
    connection.clientId = some clientId ∧ connection.authenticated = true

/-- The connection and the client of a REGISTER that is accepted in a step. -/
def Server.registeredClient (packages : Packages) (server : Server) :
    ServerEvent → Option (ConnId × String)
  | .receive id message _ =>
    (server.connections.get? id).bind fun connection =>
      if connection.Waiting ∧ connection.clientId = none ∧ message.type = "REGISTER" then
        match server.checkRegister packages message.payload with
        | .ok (clientId, _) => some (id, clientId)
        | .error _ => none
      else none
  | _ => none

theorem registeredClient_iff {packages : Packages} {server : Server} {event : ServerEvent}
    {id : ConnId} {clientId : String} :
    server.registeredClient packages event = some (id, clientId) ↔
      Registers packages id clientId server event := by
  constructor
  · intro computed
    cases event with
    | receive other message choice =>
      obtain ⟨connection, found, checked⟩ := Option.bind_eq_some_iff.mp computed
      split at checked
      · rename_i ready
        split at checked
        · rename_i client publicKey accepted
          obtain ⟨rfl, rfl⟩ := Prod.mk.inj (Option.some.inj checked)
          exact ⟨message, choice, connection, publicKey, rfl,
            ⟨found, ready.1, ready.2.1, ready.2.2, accepted⟩⟩
        · cases checked
      · cases checked
    | _ => cases computed
  · rintro ⟨message, choice, connection, publicKey, rfl, accepts⟩
    simp only [Server.registeredClient, accepts.found, Option.bind_some]
    rw [if_pos ⟨accepts.waiting, accepts.unregistered, accepts.typed⟩, accepts.accepted]

instance (packages : Packages) (id : ConnId) (clientId : String) (server : Server)
    (event : ServerEvent) : Decidable (Registers packages id clientId server event) :=
  decidable_of_iff _ registeredClient_iff

/-- The connection and the client of an AUTH_RESPONSE that is verified in a step. -/
def Server.verifiedClient (packages : Packages) (server : Server) :
    ServerEvent → Option (ConnId × String)
  | .receive id message choice =>
    (server.connections.get? id).bind fun connection =>
      connection.clientId.bind fun clientId =>
        if connection.Waiting ∧ connection.authenticated = false ∧
            message.type = "AUTH_RESPONSE" then
          match validateAuthResponse packages.text message.payload with
          | .ok (challengeHex, signatureHex) =>
            match (server.verification packages clientId challengeHex signatureHex
              choice.now).result with
            | .ok (true, _) => some (id, clientId)
            | _ => none
          | .error _ => none
        else none
  | _ => none

theorem verifiedClient_iff {packages : Packages} {server : Server} {event : ServerEvent}
    {id : ConnId} {clientId : String} :
    server.verifiedClient packages event = some (id, clientId) ↔
      Verifies packages id clientId server event := by
  constructor
  · intro computed
    cases event with
    | receive other message choice =>
      obtain ⟨connection, found, checked⟩ := Option.bind_eq_some_iff.mp computed
      obtain ⟨client, registered, checked⟩ := Option.bind_eq_some_iff.mp checked
      split at checked
      · rename_i ready
        split at checked
        · rename_i challengeHex signatureHex wellFormed
          split at checked
          · rename_i detail succeeded
            obtain ⟨rfl, rfl⟩ := Prod.mk.inj (Option.some.inj checked)
            exact ⟨message, choice, connection, challengeHex, signatureHex, detail, rfl,
              ⟨found, ready.1, registered, ready.2.1, ready.2.2, wellFormed⟩, succeeded⟩
          · cases checked
        · cases checked
      · cases checked
    | _ => cases computed
  · rintro ⟨message, choice, connection, challengeHex, signatureHex, detail, rfl, responds,
      succeeded⟩
    simp only [Server.verifiedClient, responds.found, responds.registered, Option.bind_some]
    rw [if_pos ⟨responds.waiting, responds.unauthenticated, responds.typed⟩, responds.wellFormed]
    simp only [succeeded]

instance (packages : Packages) (id : ConnId) (server : Server) (event : ServerEvent) :
    Decidable (VerifiesOn packages id server event) :=
  decidable_of_iff ((server.verifiedClient packages event).any fun entry => entry.1 = id) <| by
    rw [Option.any_eq_true]
    constructor
    · rintro ⟨⟨other, clientId⟩, computed, same⟩
      obtain rfl : other = id := of_decide_eq_true same
      exact ⟨clientId, verifiedClient_iff.mp computed⟩
    · rintro ⟨clientId, verifies⟩
      exact ⟨(id, clientId), verifiedClient_iff.mpr verifies, decide_eq_true rfl⟩

/-! ### Stages -/

inductive Stage where
  | unregistered
  | registering (clientId : Option String)
  | registered (clientId : String)
  | verified (clientId : String)
  | commanding (clientId : String)
  | disconnecting (clientId : String)
  | leaving

/-- The pushes that announce a client as online. -/
def Push.AnnouncesOnline : Push → Prop
  | .announcePeerOnline _ | .announcePeerOnlineIn _ _ | .sendTo _ (.peerOnline _ _) => True
  | _ => False

namespace Stage

/-- The local variables of the coroutine at a stage. -/
def Locals (connection : Connection) : Stage → Prop
  | .unregistered | .registering _ =>
    connection.clientId = none ∧ connection.authenticated = false ∧ connection.phase = .reading
  | .registered clientId | .verified clientId =>
    connection.clientId = some clientId ∧ connection.authenticated = false ∧
      connection.phase = .reading
  | .commanding clientId =>
    connection.clientId = some clientId ∧ connection.authenticated = true ∧
      connection.phase = .reading
  | .disconnecting clientId =>
    connection.clientId = some clientId ∧ connection.authenticated = true ∧
      connection.phase ≠ .reading
  | .leaving => connection.authenticated = false ∧ connection.phase ≠ .reading

/-- The instructions that can stand before a connection at a stage. Before the command loop no
reply is a network event. -/
def Allows : Stage → Instr → Prop
  | .commanding _, .reply _ | .commanding _, .push _ | .commanding _, .endDispatch
  | .commanding _, .deliverRelayed _ => True
  | .disconnecting _, .push _ | .disconnecting _, .closeWriter | .leaving, .closeWriter => True
  | .disconnecting _, .reply _ | .leaving, .reply _ => False
  | .verified _, .push push => push.AnnouncesOnline
  | .registered _, .setAuthenticated false => True
  | _, .reply message => message.isNetworkEvent = false
  | _, _ => False

/-- The instruction that ends a stage. -/
def finale : Stage → List Instr
  | .registering clientId => [.setClient clientId]
  | .verified _ => [.setAuthenticated true]
  | .unregistered | .registered _ | .commanding _ | .disconnecting _ | .leaving => []

end Stage

/-- The local variables and the instructions of a connection at a stage. -/
structure Connection.At (connection : Connection) (stage : Stage) : Prop where
  locals : stage.Locals connection
  todo : ∃ body, connection.todo = body ++ stage.finale ∧ ∀ instr ∈ body, stage.Allows instr

/-- New instructions of the kind the stage allows leave a connection at its stage. -/
theorem Stage.Locals.withTodo {connection : Connection} {stage : Stage}
    (locals : stage.Locals connection) (body : List Instr)
    (allowed : ∀ instr ∈ body, stage.Allows instr) :
    ({ connection with todo := body ++ stage.finale } : Connection).At stage := by
  refine ⟨?_, body, rfl, allowed⟩
  cases stage <;> exact locals

/-- Closing a writer does not move the coroutine that owns it. -/
theorem Connection.At.close {connection : Connection} {stage : Stage} (here : connection.At stage) :
    ({ connection with closed := true } : Connection).At stage := by
  refine ⟨?_, here.todo⟩
  cases stage <;> exact here.locals

/-- How a step moves a connection along its lifecycle. -/
inductive Lifecycle (packages : Packages) (id : ConnId) (server : Server) (event : ServerEvent) :
    Stage → Stage → Prop
  | stay (stage : Stage) : Lifecycle packages id server event stage stage
  | reject : Lifecycle packages id server event .unregistered (.registering none)
  | retry : Lifecycle packages id server event (.registering none) .unregistered
  | register (clientId : String) (registers : Registers packages id clientId server event) :
    Lifecycle packages id server event .unregistered (.registering (some clientId))
  | acknowledge (clientId : String) :
    Lifecycle packages id server event (.registering (some clientId)) (.registered clientId)
  | verify (clientId : String) (verifies : Verifies packages id clientId server event) :
    Lifecycle packages id server event (.registered clientId) (.verified clientId)
  | enter (clientId : String) :
    Lifecycle packages id server event (.verified clientId) (.commanding clientId)
  | disconnect (clientId : String) :
    Lifecycle packages id server event (.commanding clientId) (.disconnecting clientId)
  | leave (stage : Stage) : Lifecycle packages id server event stage .leaving

/-! ### Instructions and stages -/

theorem mem_afterDispatch {rest after : List Instr}
    (inside : Server.afterDispatch rest = some after) :
    .endDispatch ∈ rest ∧ ∀ instr ∈ after, instr ∈ rest := by
  induction rest with
  | nil => cases inside
  | cons first rest inductionHypothesis =>
    by_cases marker : first = .endDispatch
    · subst marker
      obtain rfl := Option.some.inj inside
      exact ⟨List.mem_cons_self, fun instr member => List.mem_cons_of_mem _ member⟩
    · have later : Server.afterDispatch rest = some after := by
        cases first with
        | endDispatch => exact absurd rfl marker
        | _ => exact inside
      obtain ⟨member, kept⟩ := inductionHypothesis later
      exact ⟨List.mem_cons_of_mem _ member, fun instr found =>
        List.mem_cons_of_mem _ (kept instr found)⟩

variable {packages : Packages} {server next : Server} {event : ServerEvent} {id : ConnId}
  {connection moved : Connection} {choice : Choice} {instr : Instr} {rest : List Instr}
  {stage : Stage}

/-- The announcement of a client as online leads to nothing but such announcements. -/
theorem announcesOnline_takePush {push : Push} {written : Option (ConnId × ServerMessage)}
    {pushes : List Push} (online : push.AnnouncesOnline)
    (taken : server.takePush choice push = some ⟨written, .ok pushes⟩) :
    ∀ other ∈ pushes, other.AnnouncesOnline := by
  cases push with
  | sendTo clientId message =>
    simp only [Server.takePush] at taken
    split at taken
    · obtain ⟨-, same⟩ := PushResult.mk.inj (Option.some.inj taken)
      obtain rfl := Except.ok.inj same
      simp
    · cases outcome : choice.outcome with
      | sent =>
        rw [outcome] at taken
        obtain ⟨-, same⟩ := PushResult.mk.inj (Option.some.inj taken)
        obtain rfl := Except.ok.inj same
        simp
      | lost text =>
        rw [outcome] at taken
        cases (PushResult.mk.inj (Option.some.inj taken)).2
      | unwritten text =>
        rw [outcome] at taken
        cases (PushResult.mk.inj (Option.some.inj taken)).2
  | announcePeerOnline clientId =>
    simp only [Server.takePush] at taken
    split at taken
    · obtain ⟨-, same⟩ := PushResult.mk.inj (Option.some.inj taken)
      obtain rfl := Except.ok.inj same
      intro other member
      obtain ⟨networkId, -, rfl⟩ := List.mem_map.mp member
      exact trivial
    · cases taken
  | announcePeerOnlineIn clientId networkId =>
    obtain ⟨-, same⟩ := PushResult.mk.inj (Option.some.inj taken)
    obtain rfl := Except.ok.inj same
    intro other member
    obtain ⟨target, -, rfl⟩ := List.mem_map.mp member
    exact trivial
  | announcePeerOffline clientId networkId => exact online.elim
  | broadcastService networkId message => exact online.elim

/-- What a push leads to is allowed where the push is. -/
theorem allows_push {push : Push} {written : Option (ConnId × ServerMessage)}
    {pushes : List Push} (allowed : stage.Allows (.push push))
    (taken : server.takePush choice push = some ⟨written, .ok pushes⟩) :
    ∀ other ∈ pushes, stage.Allows (.push other) := by
  cases stage with
  | verified clientId => exact announcesOnline_takePush allowed taken
  | commanding clientId => exact fun _ _ => trivial
  | disconnecting clientId => exact fun _ _ => trivial
  | _ => exact allowed.elim

/-- Only the command loop is inside `_dispatch`. -/
theorem commanding_of_endDispatch {body : List Instr}
    (allowed : ∀ instr ∈ body, stage.Allows instr) (member : .endDispatch ∈ body ++ stage.finale) :
    ∃ clientId, stage = .commanding clientId := by
  rcases List.mem_append.mp member with inside | final
  · have holds := allowed _ inside
    cases stage with
    | commanding clientId => exact ⟨clientId, rfl⟩
    | _ => exact holds.elim
  · cases stage <;> simp [Stage.finale] at final

/-- An instruction of the body of a stage leaves the connection at the stage. -/
theorem at_instr_body {body : List Instr} (locals : stage.Locals connection)
    (allowed : ∀ other ∈ instr :: body, stage.Allows other)
    (instrCase : InstrCase server choice connection (body ++ stage.finale) instr moved) :
    moved.At stage := by
  have bodyAllowed : ∀ other ∈ body, stage.Allows other := fun other member =>
    allowed other (List.mem_cons_of_mem _ member)
  have headAllowed := allowed instr List.mem_cons_self
  cases instrCase with
  | replied message =>
    refine ⟨?_, body, rfl, bodyAllowed⟩
    cases stage <;> exact locals
  | pushed push written pushes taken =>
    refine ⟨by cases stage <;> exact locals, pushes.map .push ++ body, ?_, ?_⟩
    · rw [List.append_assoc]
    · intro other member
      rcases List.mem_append.mp member with new | old
      · obtain ⟨pushed, fromTaken, rfl⟩ := List.mem_map.mp new
        exact allows_push headAllowed taken pushed fromTaken
      · exact bodyAllowed other old
  | clientSet clientId => cases stage <;> exact headAllowed.elim
  | authenticatedSet ok =>
    cases stage with
    | registered clientId =>
      cases ok with
      | true => exact headAllowed.elim
      | false => exact ⟨⟨locals.1, rfl, locals.2.2⟩, body, rfl, bodyAllowed⟩
    | _ => exact headAllowed.elim
  | dispatchEnded =>
    refine ⟨?_, body, rfl, bodyAllowed⟩
    cases stage <;> exact locals
  | writerClosed =>
    cases stage with
    | disconnecting clientId => exact ⟨⟨locals.1, locals.2.1, by simp⟩, [], rfl, by simp⟩
    | leaving => exact ⟨⟨locals.1, by simp⟩, [], rfl, by simp⟩
    | _ => exact headAllowed.elim
  | answered instr text after reading inside =>
    obtain ⟨marker, kept⟩ := mem_afterDispatch inside
    obtain ⟨clientId, rfl⟩ := commanding_of_endDispatch bodyAllowed marker
    refine ⟨locals, _, (List.append_nil _).symm, fun other member => ?_⟩
    rcases List.mem_cons.mp member with rfl | old
    · exact trivial
    · have fromBody : other ∈ body ++ [] := kept other old
      rw [List.append_nil] at fromBody
      exact bodyAllowed other fromBody
  | abandoned instr left =>
    cases stage with
    | disconnecting clientId => exact ⟨⟨locals.1, locals.2.1, by simp⟩, [], rfl, by simp⟩
    | leaving => exact ⟨⟨locals.1, by simp⟩, [], rfl, by simp⟩
    | commanding clientId => exact absurd locals.2.2 left
    | unregistered => exact absurd locals.2.2 left
    | registering clientId => exact absurd locals.2.2 left
    | registered clientId => exact absurd locals.2.2 left
    | verified clientId => exact absurd locals.2.2 left

/-- The instruction that ends a stage takes the connection to the next one. -/
theorem at_instr_finale (locals : stage.Locals connection) (last : stage.finale = instr :: rest)
    (instrCase : InstrCase server choice connection rest instr moved) :
    ∃ later, moved.At later ∧ Lifecycle packages id server event stage later := by
  cases stage with
  | registering clientId =>
    obtain ⟨rfl, rfl⟩ := List.cons.inj last
    cases instrCase with
    | clientSet _ =>
      cases clientId with
      | none =>
        exact ⟨.unregistered, ⟨⟨rfl, locals.2.1, locals.2.2⟩, [], rfl, by simp⟩, .retry⟩
      | some clientId =>
        exact ⟨.registered clientId, ⟨⟨rfl, locals.2.1, locals.2.2⟩, [], rfl, by simp⟩,
          .acknowledge clientId⟩
    | answered _ text after reading inside => cases inside
    | abandoned _ left => exact absurd locals.2.2 left
  | verified clientId =>
    obtain ⟨rfl, rfl⟩ := List.cons.inj last
    cases instrCase with
    | authenticatedSet _ =>
      exact ⟨.commanding clientId, ⟨⟨locals.1, rfl, locals.2.2⟩, [], rfl, by simp⟩,
        .enter clientId⟩
    | answered _ text after reading inside => cases inside
    | abandoned _ left => exact absurd locals.2.2 left
  | unregistered => cases last
  | registered clientId => cases last
  | commanding clientId => cases last
  | disconnecting clientId => cases last
  | leaving => cases last

theorem at_instr (here : connection.At stage) (todo : connection.todo = instr :: rest)
    (instrCase : InstrCase server choice connection rest instr moved) :
    ∃ later, moved.At later ∧ Lifecycle packages id server event stage later := by
  obtain ⟨locals, body, split, allowed⟩ := here
  rw [todo] at split
  cases body with
  | nil => exact at_instr_finale locals split.symm instrCase
  | cons first body =>
    obtain ⟨rfl, rfl⟩ := List.cons.inj split
    exact ⟨stage, at_instr_body locals allowed instrCase, .stay stage⟩

/-- The next instruction of a connection is one that its stage allows, unless it ends the stage. -/
theorem allows_head (here : connection.At stage) (todo : connection.todo = instr :: rest)
    (inner : instr ∉ stage.finale) : stage.Allows instr := by
  obtain ⟨-, body, split, allowed⟩ := here
  rw [todo] at split
  cases body with
  | nil =>
    rw [List.nil_append] at split
    exact absurd (split ▸ List.mem_cons_self) inner
  | cons first body =>
    obtain ⟨rfl, -⟩ := List.cons.inj split
    exact allowed _ List.mem_cons_self

/-! ### Every step follows the lifecycle -/

/-- A connection that waits has nothing left to do, so it is not between two stages. -/
theorem waiting_finale (here : connection.At stage) (waiting : connection.Waiting) :
    stage.finale = [] := by
  obtain ⟨-, body, split, -⟩ := here
  rw [waiting.2] at split
  exact (List.append_eq_nil_iff.mp split.symm).2

theorem at_unregistered (here : connection.At stage) (waiting : connection.Waiting)
    (unregistered : connection.clientId = none) : stage = .unregistered := by
  have finale := waiting_finale here waiting
  have locals := here.locals
  cases stage with
  | unregistered => rfl
  | registering clientId => cases finale
  | registered clientId => cases locals.1.symm.trans unregistered
  | verified clientId => cases finale
  | commanding clientId => cases locals.1.symm.trans unregistered
  | disconnecting clientId => exact absurd waiting.1 locals.2.2
  | leaving => exact absurd waiting.1 locals.2

theorem at_registered (here : connection.At stage) (waiting : connection.Waiting)
    {clientId : String} (registered : connection.clientId = some clientId)
    (unauthenticated : connection.authenticated = false) : stage = .registered clientId := by
  have finale := waiting_finale here waiting
  have locals := here.locals
  cases stage with
  | unregistered => cases locals.1.symm.trans registered
  | registering other => cases finale
  | registered other => cases locals.1.symm.trans registered; rfl
  | verified other => cases finale
  | commanding other => cases locals.2.1.symm.trans unauthenticated
  | disconnecting other => exact absurd waiting.1 locals.2.2
  | leaving => exact absurd waiting.1 locals.2

theorem at_commanding (here : connection.At stage) (reading : connection.phase = .reading)
    {clientId : String} (registered : connection.clientId = some clientId)
    (authenticated : connection.authenticated = true) : stage = .commanding clientId := by
  have locals := here.locals
  cases stage with
  | unregistered => cases locals.1.symm.trans registered
  | registering other => cases locals.1.symm.trans registered
  | registered other => cases locals.2.1.symm.trans authenticated
  | verified other => cases locals.2.1.symm.trans authenticated
  | commanding other => cases locals.1.symm.trans registered; rfl
  | disconnecting other => exact absurd reading locals.2.2
  | leaving => exact absurd reading locals.2

/-- A connection whose local variable says authenticated is in the command loop or past it. -/
theorem at_authenticated (here : connection.At stage) {clientId : String}
    (registered : connection.clientId = some clientId)
    (authenticated : connection.authenticated = true) :
    stage = .commanding clientId ∨ stage = .disconnecting clientId := by
  by_cases reading : connection.phase = .reading
  · exact .inl (at_commanding here reading registered authenticated)
  · have locals := here.locals
    cases stage with
    | disconnecting other => cases locals.1.symm.trans registered; exact .inr rfl
    | leaving => cases locals.1.symm.trans authenticated
    | unregistered => exact absurd locals.2.2 reading
    | registering other => exact absurd locals.2.2 reading
    | registered other => exact absurd locals.2.2 reading
    | verified other => exact absurd locals.2.2 reading
    | commanding other => exact absurd locals.2.2 reading

theorem allows_of_sends {clientId : String} (sends : instr.Sends) :
    (Stage.commanding clientId).Allows instr := by
  cases instr with
  | reply message => exact trivial
  | push push => exact trivial
  | _ => exact sends.elim

/-- What is left to do after a command handler has run. -/
theorem allows_dispatchInstrs {clientId : String} {handled : Handled}
    (spec : CommandSpec server clientId handled) :
    ∀ instr ∈ Server.dispatchInstrs clientId handled.result,
      (Stage.commanding clientId).Allows instr := by
  intro instr member
  cases result : handled.result with
  | ok instrs =>
    rw [result] at member
    rcases List.mem_append.mp member with handler | round
    · exact allows_of_sends (spec.sends instrs result instr handler)
    · rcases List.mem_cons.mp round with rfl | last
      · exact trivial
      · rw [List.mem_singleton.mp last]
        exact trivial
  | error failure =>
    rw [result] at member
    cases failure with
    | protocol text =>
      rcases List.mem_cons.mp member with rfl | last
      · exact trivial
      · rw [List.mem_singleton.mp last]
        exact trivial
    | internal text =>
      rcases List.mem_cons.mp member with rfl | last
      · exact trivial
      · rw [List.mem_singleton.mp last]
        exact trivial

/-- A connection that leaves its loop before it has come to the command loop. -/
theorem at_leaving (here : connection.At stage) (reading : connection.phase = .reading)
    (quiet : connection.clientId = none ∨ connection.authenticated = false) :
    ({ connection with phase := .closing, todo := [.closeWriter] } : Connection).At .leaving := by
  have unauthenticated : connection.authenticated = false := by
    rcases quiet with unregistered | unauthenticated
    · have locals := here.locals
      cases stage with
      | commanding clientId => cases locals.1.symm.trans unregistered
      | disconnecting clientId => exact absurd reading locals.2.2
      | leaving => exact locals.1
      | _ => exact locals.2.1
    · exact unauthenticated
  exact ⟨⟨unauthenticated, by simp⟩, [.closeWriter], rfl, by simp [Stage.Allows]⟩

/-- A connection that leaves the command loop. -/
theorem at_disconnecting {clientId : String} (registered : connection.clientId = some clientId)
    (authenticated : connection.authenticated = true) (order : List String) :
    ({ connection with
        phase := .closing
        todo := (order.map fun networkId => .push (.announcePeerOffline clientId networkId)) ++
          [.closeWriter] } : Connection).At (.disconnecting clientId) := by
  refine ⟨⟨registered, authenticated, by simp⟩, _, (List.append_nil _).symm, ?_⟩
  intro instr member
  rcases List.mem_append.mp member with announcement | last
  · obtain ⟨networkId, -, rfl⟩ := List.mem_map.mp announcement
    exact trivial
  · rw [List.mem_singleton.mp last]
    exact trivial

theorem at_refusal {instrs : List Instr} (here : connection.At stage)
    (waiting : connection.Waiting) (refusal : Refusal connection instrs) :
    ∃ later, ({ connection with todo := instrs } : Connection).At later ∧
      Lifecycle packages id server event stage later := by
  have locals := here.locals
  cases refusal with
  | registerFirst unregistered code text =>
    obtain rfl := at_unregistered here waiting unregistered
    exact ⟨.unregistered, locals.withTodo [_] (by simp [Stage.Allows,
      ServerMessage.isNetworkEvent]), .stay _⟩
  | registerRejected unregistered code text =>
    obtain rfl := at_unregistered here waiting unregistered
    have registering : (Stage.registering none).Locals connection := locals
    exact ⟨.registering none, registering.withTodo [_] (by simp [Stage.Allows,
      ServerMessage.isNetworkEvent]), .reject⟩
  | authenticateFirst clientId registered unauthenticated code text =>
    obtain rfl := at_registered here waiting registered unauthenticated
    exact ⟨.registered clientId, locals.withTodo [_] (by simp [Stage.Allows,
      ServerMessage.isNetworkEvent]), .stay _⟩
  | authMalformed clientId registered unauthenticated code text =>
    obtain rfl := at_registered here waiting registered unauthenticated
    exact ⟨.registered clientId, locals.withTodo [_, _] (by simp [Stage.Allows,
      ServerMessage.isNetworkEvent]), .stay _⟩

/-- Only the command loop delivers relayed frames. -/
theorem commanding_of_deliver {clientId : String} (here : connection.At stage)
    (todo : connection.todo = .deliverRelayed clientId :: rest) :
    ∃ commander, stage = .commanding commander := by
  have holds := allows_head here todo (by cases stage <;> simp [Stage.finale])
  cases stage with
  | commanding commander => exact ⟨commander, rfl⟩
  | _ => exact holds.elim

theorem at_deliver {clientId : String} (frames : List (String × String))
    (here : connection.At stage) (todo : connection.todo = .deliverRelayed clientId :: rest) :
    ({ connection with todo := Server.relayReplies clientId frames ++ rest } : Connection).At
      stage := by
  obtain ⟨commander, rfl⟩ := commanding_of_deliver here todo
  obtain ⟨locals, body, split, allowed⟩ := here
  rw [todo] at split
  have kept : ∀ instr ∈ Server.relayReplies clientId frames ++ rest,
      (Stage.commanding commander).Allows instr := by
    intro instr member
    rcases List.mem_append.mp member with frame | old
    · obtain ⟨sent, -, rfl⟩ := List.mem_map.mp frame
      exact trivial
    · have inBody : instr ∈ body ++ [] := split ▸ List.mem_cons_of_mem _ old
      rw [List.append_nil] at inBody
      exact allowed instr inBody
  exact ⟨locals, _, (List.append_nil _).symm, kept⟩

/-- The connection that takes a step moves along its lifecycle. -/
theorem lifecycle_own (stepCase : StepCase packages server event next)
    (taker : event.actor = some id) (found : server.connections.get? id = some connection)
    (here : connection.At stage) :
    ∃ moved later, next.connections.get? id = some moved ∧ moved.At later ∧
      Lifecycle packages id server event stage later := by
  have locals := here.locals
  cases stepCase with
  | connect other peer fresh =>
    obtain rfl := Option.some.inj taker
    rw [fresh] at found
    cases found
  | refuse other message choice same instrs otherFound waiting refusal notAccepted =>
    obtain rfl := Option.some.inj taker
    obtain rfl := Option.some.inj (otherFound.symm.trans found)
    obtain ⟨later, there, move⟩ := at_refusal here waiting refusal
    exact ⟨_, later, Server.get_withTodo_self found _, there, move⟩
  | register other message choice same clientId publicKey accepts =>
    obtain rfl := Option.some.inj taker
    obtain rfl := Option.some.inj (accepts.found.symm.trans found)
    obtain rfl := at_unregistered here accepts.waiting accepts.unregistered
    have registering : (Stage.registering (some clientId)).Locals same := locals
    exact ⟨_, .registering (some clientId),
      Server.get_withTodo_self ((Server.get_register_self _ _ _ _ _ _).trans found) _,
      registering.withTodo [_] (by simp [Stage.Allows, ServerMessage.isNetworkEvent]),
      .register clientId ⟨message, choice, _, publicKey, rfl, accepts⟩⟩
  | verify other message choice same clientId challengeHex signatureHex detail responds succeeded =>
    obtain rfl := Option.some.inj taker
    obtain rfl := Option.some.inj (responds.found.symm.trans found)
    obtain rfl := at_registered here responds.waiting responds.registered responds.unauthenticated
    have verified : (Stage.verified clientId).Locals same := locals
    exact ⟨_, .verified clientId, Server.get_withTodo_self found _,
      verified.withTodo [_, _]
        (by simp [Stage.Allows, ServerMessage.isNetworkEvent, Push.AnnouncesOnline]),
      .verify clientId ⟨message, choice, _, challengeHex, signatureHex, detail, rfl, responds,
        succeeded⟩⟩
  | rejectAuth other message choice same clientId challengeHex signatureHex detail responds
      failed =>
    obtain rfl := Option.some.inj taker
    obtain rfl := Option.some.inj (responds.found.symm.trans found)
    obtain rfl := at_registered here responds.waiting responds.registered responds.unauthenticated
    exact ⟨_, .registered clientId, Server.get_withTodo_self found _,
      locals.withTodo [_, _] (by simp [Stage.Allows, ServerMessage.isNetworkEvent]), .stay _⟩
  | raiseAuth other message choice same clientId challengeHex signatureHex exception responds
      raised =>
    obtain rfl := Option.some.inj taker
    obtain rfl := Option.some.inj (responds.found.symm.trans found)
    exact ⟨_, .leaving, by rw [Server.get_setConnection, if_pos rfl],
      at_leaving here responds.waiting.1 (.inr responds.unauthenticated), .leave stage⟩
  | dispatch other message choice same clientId handled otherFound waiting registered authenticated
      ran =>
    obtain rfl := Option.some.inj taker
    obtain rfl := Option.some.inj (otherFound.symm.trans found)
    obtain rfl := at_commanding here waiting.1 registered authenticated
    have kept := locals.withTodo _ (allows_dispatchInstrs (Server.spec_handleCommand ran))
    rw [Stage.finale, List.append_nil] at kept
    exact ⟨_, .commanding clientId, Server.get_withTodo_self found _, kept, .stay _⟩
  | leave event other same leaves otherFound reading quiet =>
    obtain rfl := Option.some.inj ((ServerEvent.actor_of_leaver leaves).symm.trans taker)
    obtain rfl := Option.some.inj (otherFound.symm.trans found)
    exact ⟨_, .leaving, by rw [Server.get_setConnection, if_pos rfl],
      at_leaving here reading quiet, .leave stage⟩
  | disconnect event other same clientId order leaves otherFound reading registered
      authenticated visited =>
    obtain rfl := Option.some.inj ((ServerEvent.actor_of_leaver leaves).symm.trans taker)
    obtain rfl := Option.some.inj (otherFound.symm.trans found)
    obtain rfl := at_commanding here reading registered authenticated
    exact ⟨_, .disconnecting clientId, by rw [Server.get_setConnection, if_pos rfl],
      at_disconnecting registered authenticated order, .disconnect clientId⟩
  | instr other choice same moved instr rest otherFound todo instrCase =>
    obtain rfl := Option.some.inj taker
    obtain rfl := Option.some.inj (otherFound.symm.trans found)
    obtain ⟨later, there, move⟩ := at_instr here todo instrCase
    exact ⟨moved, later, by rw [Server.get_setConnection, if_pos rfl], there, move⟩
  | deliver other choice same clientId rest otherFound todo =>
    obtain rfl := Option.some.inj taker
    obtain rfl := Option.some.inj (otherFound.symm.trans found)
    exact ⟨_, stage, by rw [Server.get_setConnection, if_pos rfl], at_deliver _ here todo,
      .stay stage⟩
  | pruneTick now idle => cases taker
  | pruneDisconnect choice clientId rest todo visited => cases taker
  | prunePush choice push rest loop todo => cases taker
  | expire now => cases taker

/-- Every step moves every connection along its lifecycle. -/
theorem lifecycle_step (stepCase : StepCase packages server event next)
    (found : server.connections.get? id = some connection) (here : connection.At stage) :
    ∃ moved later, next.connections.get? id = some moved ∧ moved.At later ∧
      Lifecycle packages id server event stage later := by
  by_cases taker : event.actor = some id
  · exact lifecycle_own stepCase taker found here
  · rcases stepCase.frame taker with same | closed
    · exact ⟨connection, stage, same.trans found, here, .stay stage⟩
    · rw [found] at closed
      exact ⟨_, stage, closed, here.close, .stay stage⟩

/-- A connection that is new after a step has just been accepted. -/
theorem new_connection (stepCase : StepCase packages server event next)
    (absent : server.connections.get? id = none)
    (found : next.connections.get? id = some connection) :
    connection.At .unregistered := by
  by_cases taker : event.actor = some id
  · rcases stepCase.own taker with ⟨-, peer, isNew⟩ | ⟨before, moved, beforeFound, -⟩
    · obtain rfl := Option.some.inj (isNew.symm.trans found)
      exact ⟨⟨rfl, rfl, rfl⟩, [], rfl, by simp⟩
    · cases absent.symm.trans beforeFound
  · rcases stepCase.frame taker with same | closed
    · cases absent.symm.trans (same.symm.trans found)
    · rw [absent] at closed
      cases closed.symm.trans found

/-- The step that accepts a REGISTER. -/
theorem registers_case {clientId : String} (stepCase : StepCase packages server event next)
    (registers : Registers packages id clientId server event) :
    ∃ message choice connection publicKey, event = .receive id message choice ∧
      Accepts packages server id message connection clientId publicKey ∧
      next = (server.register id connection.peer clientId publicKey choice).2.withTodo id
        [.reply (.authChallenge (server.register id connection.peer clientId publicKey choice).1),
          .setClient (some clientId)] := by
  obtain ⟨message, choice, connection, publicKey, rfl, accepts⟩ := registers
  have registered : ∀ (other : Connection) (someClient : String),
      server.connections.get? id = some other → other.clientId ≠ some someClient := by
    intro other someClient found same
    obtain rfl := Option.some.inj (found.symm.trans accepts.found)
    cases same.symm.trans accepts.unregistered
  cases stepCase with
  | refuse _ _ _ same instrs found waiting refusal notAccepted =>
    obtain rfl := Option.some.inj (found.symm.trans accepts.found)
    exact absurd accepts (notAccepted clientId publicKey)
  | register _ _ _ same otherClient otherKey otherAccepts =>
    obtain rfl := Option.some.inj (otherAccepts.found.symm.trans accepts.found)
    obtain ⟨rfl, rfl⟩ := Prod.mk.inj (Except.ok.inj
      (otherAccepts.accepted.symm.trans accepts.accepted))
    exact ⟨message, choice, same, otherKey, rfl, accepts, rfl⟩
  | verify _ _ _ same someClient challengeHex signatureHex detail responds succeeded =>
    exact absurd responds.registered (registered same someClient responds.found)
  | rejectAuth _ _ _ same someClient challengeHex signatureHex detail responds failed =>
    exact absurd responds.registered (registered same someClient responds.found)
  | raiseAuth _ _ _ same someClient challengeHex signatureHex exception responds raised =>
    exact absurd responds.registered (registered same someClient responds.found)
  | dispatch _ _ _ same someClient handled found waiting isRegistered authenticated ran =>
    exact absurd isRegistered (registered same someClient found)
  | leave event other same leaves found reading quiet => cases leaves
  | disconnect event other same someClient order leaves found reading isRegistered authenticated
      visited => cases leaves

/-- An accepted REGISTER finds its connection unregistered and starts the registration. -/
theorem registers_own {clientId : String} (stepCase : StepCase packages server event next)
    (registers : Registers packages id clientId server event) :
    ∃ connection moved, server.connections.get? id = some connection ∧
      connection.Waiting ∧ connection.clientId = none ∧
      next.connections.get? id = some moved ∧
      (connection.At .unregistered → moved.At (.registering (some clientId))) := by
  obtain ⟨message, choice, connection, publicKey, -, accepts, rfl⟩ :=
    registers_case stepCase registers
  refine ⟨connection, _, accepts.found, accepts.waiting, accepts.unregistered,
    Server.get_withTodo_self ((Server.get_register_self _ _ _ _ _ _).trans accepts.found) _,
    fun here => ?_⟩
  have registering : (Stage.registering (some clientId)).Locals connection := here.locals
  exact registering.withTodo [_] (by simp [Stage.Allows, ServerMessage.isNetworkEvent])

end LocalNetwork
