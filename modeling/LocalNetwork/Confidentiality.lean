/-
This file compares two runs of the server from states that differ in the endpoint of one
client. The runs take the same steps and write the same messages, but for the answers to a
REQUEST_PEER_CONN that may be answered with that endpoint.

The relation between the two states is equality up to masking. The connections whose
pending answers are masked are those that wait to answer such a request; a step keeps the
relation, as masking commutes with every step.
-/

import LocalNetwork.Masking

namespace LocalNetwork

/-! ### Who may be told an endpoint -/

/-- Some network has both clients, the one asked for is online, and it is the hub of the network if
the network has one. -/
def MayLearn (server : Server) (clientId hidden : String) : Prop :=
  ∃ networkId record target, server.networks.get networkId = some record ∧
    clientId ∈ record.members ∧ hidden ∈ record.members ∧
    server.registry.get hidden = some target ∧ target.online = true ∧
    (record.topology = .hubAndSpoke → record.hubId = some hidden)

/-- A message is dispatched on a connection that asks for the endpoint of a client, for another
client that may be told. -/
structure AsksFor (packages : Packages) (hidden : String) (server : Server) (id : ConnId)
    (message : Message) : Prop where
  typed : message.type = "REQUEST_PEER_CONN"
  valid : validatePeerId packages.text message.payload = .ok hidden
  allowed : ∃ clientId connection, Ready server id clientId connection ∧ clientId ≠ hidden ∧
    MayLearn server clientId hidden

theorem mayLearn_of_shared {server : Server} {networkId clientId hidden : String}
    {endpoints : List Addr}
    (shared : server.networks.sharedEndpointsFor networkId clientId hidden = some endpoints) :
    clientId ≠ hidden ∧ MayLearn server clientId hidden := by
  unfold NetworkManager.sharedEndpointsFor at shared
  split at shared
  · cases shared
  · rename_i record found
    split at shared
    · cases shared
    · rename_i different
      split at shared
      · cases shared
      · rename_i members
        rw [not_or, not_not, not_not] at members
        split at shared
        · cases shared
        · rename_i target stored
          split at shared
          · rename_i endpoint online _
            split at shared
            · cases shared
            · rename_i visible
              exact ⟨different, networkId, record, target, found, members.1, members.2, stored,
                online, fun topology => not_not.mp fun other => visible ⟨topology, other⟩⟩
          · cases shared

variable {packages : Packages} {hidden : String} {chosen : ConnId → Bool} {server next : Server}
  {id : ConnId} {clientId : String} {connection : Connection} {message : Message} {choice : Choice}

/-- A command that does not ask for the endpoint of the hidden client is answered without it. -/
theorem result_mask {handled : Handled} (ready : Ready server id clientId connection)
    (ran : server.handleCommand packages clientId message choice = some handled)
    (other : ¬ AsksFor packages hidden server id message) :
    (handled.mask hidden).result = handled.result := by
  cases Server.command_cases ran with
  | located peerId networkId endpoints typed valid shared =>
    by_cases same : peerId = hidden
    · subst same
      obtain ⟨different, allowed⟩ := mayLearn_of_shared shared
      exact absurd ⟨typed, valid, clientId, connection, ready, different, allowed⟩ other
    · simp only [Handled.mask, Server.answer, Except.map, List.map_cons, List.map_nil, Instr.mask,
        if_true, ServerMessage.mask, NetworkManager.maskEndpoints, if_neg same]
  | _ => rfl

/-! ### Steps of masked states -/

namespace Server

theorem dispatchInstrs_mask (hidden clientId : String)
    (result : Except DispatchFailure (List Instr)) :
    dispatchInstrs clientId (result.map (List.map (Instr.mask hidden true))) =
      (dispatchInstrs clientId result).map (Instr.mask hidden true) := by
  cases result with
  | ok instrs => simp [dispatchInstrs, Except.map, Instr.mask]
  | error failure => cases failure <;> rfl

theorem map_mask_false (hidden : String) (todo : List Instr) :
    todo.map (Instr.mask hidden false) = todo := by
  refine List.map_id'' (fun instr => ?_) todo
  cases instr <;> rfl

/-- A connection with nothing to do is the same for every choice of connections. -/
theorem mask_of_idle {connection : Connection} (on : Bool)
    (idle : connection.todo = []) : connection.mask hidden on = connection := by
  obtain ⟨peer, client, authenticated, phase, closed, todo⟩ := connection
  subst idle
  rfl

theorem waiting_mask {connection : Connection} {on : Bool} :
    (connection.mask hidden on).Waiting ↔ connection.Waiting :=
  and_congr_right fun _ => List.map_eq_nil_iff

/-- Where the coroutine of a connection has nothing to do, the choice of it does not matter. -/
theorem mask_update (on : Bool) (found : server.connections.get? id = some connection)
    (idle : connection.todo = []) :
    server.mask hidden (Function.update chosen id on) = server.mask hidden chosen := by
  refine congrArg (fun connections => { server with
    networks := server.networks.mask hidden, connections := connections }) ?_
  refine Dict.mapValues_congr _ fun other stored present => ?_
  by_cases same : other = id
  · subst same
    obtain rfl := Option.some.inj (found.symm.trans present)
    rw [mask_of_idle _ idle, mask_of_idle _ idle]
  · rw [Function.update_of_ne same]

/-- Masking commutes with the dispatch of a command, if the connection is chosen whenever the
command is answered with the hidden endpoint. -/
theorem dispatch_mask (ready : Ready server id clientId connection)
    (told : AsksFor packages hidden server id message → chosen id = true) :
    ((server.mask hidden chosen).dispatch packages clientId message choice).map
        (fun done => done.1.withTodo id done.2) =
      ((server.dispatch packages clientId message choice).map
        fun done => done.1.withTodo id done.2).map (mask hidden chosen) := by
  simp only [dispatch, handleCommand_mask, Option.map_map]
  refine Option.map_congr fun handled ran => ?_
  simp only [Function.comp_apply, mask_withTodo]
  have todo : dispatchInstrs clientId (handled.mask hidden).result =
      (dispatchInstrs clientId handled.result).map (Instr.mask hidden (chosen id)) := by
    cases on : chosen id with
    | true => exact dispatchInstrs_mask hidden clientId handled.result
    | false =>
      have other : ¬ AsksFor packages hidden server id message := fun asks => by
        rw [told asks] at on
        cases on
      rw [map_mask_false, result_mask ready ran other]
  rw [todo]
  rfl

/-- Masking before the arrival of a message changes nothing that masking afterwards does not
hide. -/
theorem receive_mask (found : server.connections.get? id = some connection)
    (waiting : connection.Waiting)
    (told : AsksFor packages hidden server id message → chosen id = true) :
    ((server.mask hidden chosen).receive packages id connection message choice).map
        (mask hidden chosen) =
      (server.receive packages id connection message choice).map (mask hidden chosen) := by
  have again := mask_mask hidden chosen server
  unfold receive
  cases registered : connection.clientId with
  | none =>
    simp only
    split
    · simp only [Option.map_some, mask_withTodo, again]
    · obtain ⟨instrs, state⟩ :=
        onRegister_mask packages hidden chosen server message choice id connection.peer
      simp only [Option.map_some, mask_withTodo, instrs, state]
  | some clientId =>
    simp only
    split
    · split
      · simp only [Option.map_some, mask_withTodo, again]
      · rw [onAuth_mask]
        cases server.onAuth packages clientId message choice with
        | mk verified left =>
          cases left with
          | some instrs => simp only [Option.map_some, mask_withTodo, mask_mask]
          | none =>
            have left := leaveLoop_mask hidden chosen verified id connection choice
            rw [mask_of_idle _ waiting.2] at left
            simp only [left, Option.map_map]
            refine Option.map_congr fun state _ => ?_
            exact mask_mask hidden chosen state
    · rename_i authenticated
      have ready : Ready server id clientId connection :=
        ⟨found, waiting, registered, by simpa using authenticated⟩
      simp only [dispatch_mask ready told, Option.map_map]
      refine Option.map_congr fun state _ => ?_
      exact mask_mask hidden chosen _

/-- A message that asks for the hidden endpoint arrives at a chosen connection only. -/
def Covers (packages : Packages) (hidden : String) (chosen : ConnId → Bool) (server : Server) :
    ServerEvent → Prop
  | .receive id message _ => AsksFor packages hidden server id message → chosen id = true
  | _ => True

/-- Masking before a step changes nothing that masking after it does not hide. -/
theorem step_mask {event : ServerEvent} (covers : Covers packages hidden chosen server event) :
    ((server.mask hidden chosen).step packages event).map (mask hidden chosen) =
      (server.step packages event).map (mask hidden chosen) := by
  have exactly {masked plain : Option Server} (same : masked = plain.map (mask hidden chosen)) :
      masked.map (mask hidden chosen) = plain.map (mask hidden chosen) := by
    rw [same, Option.map_map]
    exact Option.map_congr fun state _ => mask_mask hidden chosen state
  cases event with
  | connect id peer =>
    refine exactly ?_
    simp only [step, connection_mask]
    cases server.connections.get? id with
    | none =>
      rw [Option.map_none, Option.map_some, mask_setConnection]
      rfl
    | some connection => rfl
  | receive id message choice =>
    simp only [step, connection_mask]
    cases found : server.connections.get? id with
    | none => rfl
    | some connection =>
      simp only [Option.map_some, Option.bind_some]
      by_cases waiting : connection.Waiting
      · rw [mask_of_idle _ waiting.2, if_pos waiting, if_pos waiting]
        exact receive_mask found waiting covers
      · rw [if_neg waiting, if_neg (waiting_mask.not.mpr waiting)]
  | endInput id choice =>
    refine exactly ?_
    simp only [step, connection_mask]
    cases found : server.connections.get? id with
    | none => rfl
    | some connection =>
      simp only [Option.map_some, Option.bind_some]
      by_cases waiting : connection.Waiting
      · have left := leaveLoop_mask hidden chosen server id connection choice
        rw [mask_of_idle _ waiting.2] at left ⊢
        rw [if_pos waiting, if_pos waiting, left]
      · rw [if_neg waiting, if_neg (waiting_mask.not.mpr waiting)]
        rfl
  | advance id choice =>
    refine exactly ?_
    simp only [step, connection_mask]
    cases server.connections.get? id with
    | none => rfl
    | some connection =>
      have todo : (connection.mask hidden (chosen id)).todo =
        connection.todo.map (Instr.mask hidden (chosen id)) := rfl
      simp only [Option.map_some, Option.bind_some, todo]
      cases connection.todo with
      | nil => rfl
      | cons instr rest => exact takeInstr_mask hidden chosen server id connection instr rest choice
  | pruneTick now =>
    refine exactly ?_
    have pruned := ClientRegistry.mask_pruneStale hidden server.registry now server.heartbeatTimeout
    have registry : (server.mask hidden chosen).registry = server.registry.mask hidden := rfl
    have loop : (server.mask hidden chosen).pruneLoop = server.pruneLoop := rfl
    have timeout : (server.mask hidden chosen).heartbeatTimeout = server.heartbeatTimeout := rfl
    simp only [step, registry, loop, timeout, pruned]
    split <;> rfl
  | advancePrune choice =>
    refine exactly ?_
    have loop : (server.mask hidden chosen).pruneLoop = server.pruneLoop := rfl
    simp only [step, loop]
    split
    · exact takePruneInstr_mask hidden chosen server _ _ choice
    · rfl
  | expireTick now => exact exactly rfl

end Server

/-! ### Messages of masked states -/

theorem ServerMessage.mask_eq {first second : ServerMessage}
    (same : first.mask hidden = second.mask hidden) :
    first = second ∨ ∃ endpoints others,
      first = .peerEndpoints hidden endpoints ∧ second = .peerEndpoints hidden others := by
  have kept (message : ServerMessage)
      (other : ¬ ∃ peerId endpoints, message = .peerEndpoints peerId endpoints) :
      message.mask hidden = message := by
    unfold mask
    split
    · rename_i peerId endpoints
      exact absurd ⟨peerId, endpoints, rfl⟩ other
    · rfl
  by_cases located : ∃ peerId endpoints, first = .peerEndpoints peerId endpoints
  · obtain ⟨peerId, endpoints, rfl⟩ := located
    by_cases relocated : ∃ peerId endpoints, second = .peerEndpoints peerId endpoints
    · obtain ⟨otherId, others, rfl⟩ := relocated
      obtain ⟨rfl, masked⟩ := ServerMessage.peerEndpoints.inj same
      by_cases own : peerId = hidden
      · subst own
        exact .inr ⟨endpoints, others, rfl, rfl⟩
      · rw [NetworkManager.maskEndpoints, NetworkManager.maskEndpoints, if_neg own,
          if_neg own] at masked
        exact .inl (by rw [masked])
    · rw [kept second relocated] at same
      exact absurd ⟨_, _, same.symm⟩ relocated
  · rw [kept first located] at same
    by_cases relocated : ∃ peerId endpoints, second = .peerEndpoints peerId endpoints
    · obtain ⟨otherId, others, rfl⟩ := relocated
      exact absurd ⟨_, _, same⟩ located
    · rw [kept second relocated] at same
      exact .inl same

theorem Instr.mask_eq {first second : Instr} {on : Bool}
    (same : first.mask hidden on = second.mask hidden on) :
    first = second ∨ ∃ endpoints others, on = true ∧
      first = .reply (.peerEndpoints hidden endpoints) ∧
      second = .reply (.peerEndpoints hidden others) := by
  cases on with
  | false =>
    have kept (instr : Instr) : instr.mask hidden false = instr := by cases instr <;> rfl
    rw [kept, kept] at same
    exact .inl same
  | true =>
    have kept (instr : Instr) (other : ¬ ∃ message, instr = .reply message) :
        instr.mask hidden true = instr := by
      cases instr with
      | reply message => exact absurd ⟨message, rfl⟩ other
      | _ => rfl
    by_cases replies : ∃ message, first = .reply message
    · obtain ⟨message, rfl⟩ := replies
      by_cases alike : ∃ message, second = .reply message
      · obtain ⟨sent, rfl⟩ := alike
        rcases ServerMessage.mask_eq (Instr.reply.inj same) with rfl | ⟨endpoints, others, rfl, rfl⟩
        · exact .inl rfl
        · exact .inr ⟨endpoints, others, rfl, rfl, rfl⟩
      · rw [kept second alike] at same
        exact absurd ⟨_, same.symm⟩ alike
    · rw [kept first replies] at same
      by_cases alike : ∃ message, second = .reply message
      · obtain ⟨sent, rfl⟩ := alike
        exact absurd ⟨_, same⟩ replies
      · rw [kept second alike] at same
        exact .inl same

/-- States that are the same up to masking write the same message, or both tell an endpoint of the
hidden client on a chosen connection. -/
theorem written_alike {first second : Server}
    (same : first.mask hidden chosen = second.mask hidden chosen) (event : ServerEvent) :
    first.written event = second.written event ∨
      ∃ id endpoints others, chosen id = true ∧
        first.written event = some (id, .peerEndpoints hidden endpoints) ∧
        second.written event = some (id, .peerEndpoints hidden others) := by
  have pushes (choice : Choice) (push : Push) :
      first.takePush choice push = second.takePush choice push := by
    rw [← Server.takePush_mask hidden chosen first, same, Server.takePush_mask]
  cases event with
  | advance id choice =>
    have connections : (first.connections.get? id).map (Connection.mask hidden (chosen id)) =
        (second.connections.get? id).map (Connection.mask hidden (chosen id)) := by
      rw [← Server.connection_mask, same, Server.connection_mask]
    simp only [Server.written]
    cases here : first.connections.get? id with
    | none =>
      rw [here, Option.map_none, eq_comm, Option.map_eq_none_iff] at connections
      rw [connections]
      exact .inl rfl
    | some connection =>
      rw [here, Option.map_some, eq_comm, Option.map_eq_some_iff] at connections
      obtain ⟨other, there, masked⟩ := connections
      rw [there]
      have todos : other.todo.map (Instr.mask hidden (chosen id)) =
        connection.todo.map (Instr.mask hidden (chosen id)) := congrArg Connection.todo masked
      simp only [Option.bind_some]
      cases todo : connection.todo with
      | nil =>
        rw [todo, List.map_nil, List.map_eq_nil_iff] at todos
        rw [todos]
        exact .inl rfl
      | cons instr rest =>
        rw [todo, List.map_cons, List.map_eq_cons_iff] at todos
        obtain ⟨otherInstr, otherRest, otherTodo, masked, -⟩ := todos
        rw [otherTodo]
        rcases Instr.mask_eq masked with rfl | ⟨endpoints, others, on, rfl, rfl⟩
        · simp only [pushes]
          exact .inl (by cases otherInstr <;> rfl)
        · cases choice.outcome with
          | sent => exact .inr ⟨id, others, endpoints, on, rfl, rfl⟩
          | lost text => exact .inr ⟨id, others, endpoints, on, rfl, rfl⟩
          | unwritten text => exact .inl rfl
  | advancePrune choice =>
    have loop : first.pruneLoop = second.pruneLoop := by
      show (first.mask hidden chosen).pruneLoop = (second.mask hidden chosen).pruneLoop
      rw [same]
    refine .inl ?_
    simp only [Server.written, loop, pushes]
  | _ => exact .inl rfl

/-! ### Two runs -/

/-- The last message that a connection received in a run asked for the hidden endpoint, for a client
that may be told. -/
def Asked (packages : Packages) (hidden : String) (start : Server) (id : ConnId)
    (past : List ServerEvent) : Prop :=
  ∃ before message choice after state, past = before ++ .receive id message choice :: after ∧
    runFrom (Server.step packages) start before = some state ∧
    AsksFor packages hidden state id message ∧
    ∀ later, ∀ next choice, later ∈ after → later ≠ .receive id next choice

theorem Asked.later {start : Server} {past : List ServerEvent} {event : ServerEvent}
    (asked : Asked packages hidden start id past)
    (other : ∀ next choice, event ≠ .receive id next choice) :
    Asked packages hidden start id (past ++ [event]) := by
  obtain ⟨before, message, choice, after, state, rfl, ran, asks, last⟩ := asked
  refine ⟨before, message, choice, after ++ [event], state, by simp, ran, asks, ?_⟩
  intro later next drawn member
  rcases List.mem_append.mp member with early | now
  · exact last later next drawn early
  · rw [List.mem_singleton.mp now]
    exact other next drawn

/-- A connection with nothing to do is the same in two states that are masked alike. -/
theorem idle_alike {first second : Server}
    (same : first.mask hidden chosen = second.mask hidden chosen)
    (found : first.connections.get? id = some connection) (idle : connection.todo = []) :
    second.connections.get? id = some connection := by
  have connections : (second.connections.get? id).map (Connection.mask hidden (chosen id)) =
      some connection := by
    rw [← Server.connection_mask, ← same, Server.connection_mask, found, Option.map_some,
      Server.mask_of_idle _ idle]
  obtain ⟨other, there, masked⟩ := Option.map_eq_some_iff.mp connections
  have empty : other.todo = [] :=
    List.map_eq_nil_iff.mp ((congrArg Connection.todo masked).trans idle)
  rw [Server.mask_of_idle _ empty] at masked
  exact there.trans (congrArg some masked)

/-- Whether a message asks for the hidden endpoint does not depend on that endpoint. -/
theorem asksFor_alike {first second : Server}
    (same : first.mask hidden chosen = second.mask hidden chosen)
    (asks : AsksFor packages hidden first id message) :
    AsksFor packages hidden second id message := by
  obtain ⟨clientId, connection, ready, different, networkId, record, target, found, member, asked,
    stored, online, hub⟩ := asks.allowed
  have there := idle_alike same ready.found ready.waiting.2
  have registered : (second.registry.get hidden).map ClientRecord.mask = some target.mask := by
    have masked : (second.registry.mask hidden).get hidden =
        (first.registry.mask hidden).get hidden := by
      show (second.mask hidden chosen).registry.get hidden =
        (first.mask hidden chosen).registry.get hidden
      rw [same]
    rw [ClientRegistry.get_mask, ClientRegistry.get_mask, stored] at masked
    simpa using masked
  obtain ⟨record', stored', maskedRecord⟩ := Option.map_eq_some_iff.mp registered
  have networks : second.networks.get networkId = first.networks.get networkId := by
    show (second.mask hidden chosen).networks.get networkId =
      (first.mask hidden chosen).networks.get networkId
    rw [same]
  refine ⟨asks.typed, asks.valid, clientId, connection,
    ⟨there, ready.waiting, ready.registered, ready.authenticated⟩, different, networkId, record,
    record', networks.trans found, member, asked, stored', ?_, hub⟩
  exact (congrArg ClientRecord.online maskedRecord).trans online

/-- In a run, the other run has come as far, and the two states are the same up to the answers on
connections that asked for the hidden endpoint. -/
def Alike (packages : Packages) (hidden : String) (start second : Server)
    (past : List ServerEvent) (server : Server) : Prop :=
  ∃ other chosen, runFrom (Server.step packages) second past = some other ∧
    server.mask hidden chosen = other.mask hidden chosen ∧
    ∀ id, chosen id = true → Asked packages hidden start id past

open Classical in
/-- The connections whose answers are masked after an event. -/
noncomputable def chosenAfter (packages : Packages) (hidden : String) (chosen : ConnId → Bool)
    (server : Server) : ServerEvent → ConnId → Bool
  | .receive id message _ =>
    Function.update chosen id (decide (AsksFor packages hidden server id message))
  | _ => chosen

/-- A message is received where nothing is left to do. -/
theorem idle_of_receive (stepped : server.step packages (.receive id message choice) = some next) :
    ∃ connection, server.connections.get? id = some connection ∧ connection.todo = [] := by
  obtain ⟨connection, found, received⟩ := Option.bind_eq_some_iff.mp stepped
  split at received
  · rename_i waiting
    exact ⟨connection, found, waiting.2⟩
  · cases received

/-- The choice of connections after an event masks a state before it in the same way. -/
theorem mask_chosenAfter {state : Server} {event : ServerEvent}
    (idle : ∀ id message choice, event = .receive id message choice →
      ∃ connection, server.connections.get? id = some connection ∧ connection.todo = []) :
    server.mask hidden (chosenAfter packages hidden chosen state event) =
      server.mask hidden chosen := by
  cases event with
  | receive id message choice =>
    obtain ⟨connection, found, empty⟩ := idle id message choice rfl
    exact Server.mask_update _ found empty
  | _ => rfl

/-- The chosen connections have asked, also after one more event. -/
theorem asked_chosenAfter {start : Server} {past : List ServerEvent} {event : ServerEvent}
    (ran : runFrom (Server.step packages) start past = some server)
    (asked : ∀ id, chosen id = true → Asked packages hidden start id past)
    (on : chosenAfter packages hidden chosen server event id = true) :
    Asked packages hidden start id (past ++ [event]) := by
  cases event with
  | receive other message choice =>
    by_cases same : id = other
    · subst same
      rw [chosenAfter, Function.update_self] at on
      exact ⟨past, message, choice, [], server, rfl, ran, by simpa using on, by simp⟩
    · rw [chosenAfter, Function.update_of_ne same] at on
      refine (asked id on).later fun next drawn equal => same ?_
      exact (ServerEvent.receive.inj equal).1.symm
  | _ => exact (asked id on).later (by simp)

/-- One step keeps the two runs alike. -/
theorem Alike.step {start second : Server} {past : List ServerEvent} {event : ServerEvent}
    (ran : runFrom (Server.step packages) start past = some server)
    (alike : Alike packages hidden start second past server)
    (stepped : server.step packages event = some next) :
    Alike packages hidden start second (past ++ [event]) next := by
  obtain ⟨other, chosen, otherRan, same, asked⟩ := alike
  have idle : ∀ id message choice, event = .receive id message choice →
      ∃ connection, server.connections.get? id = some connection ∧ connection.todo = [] := by
    rintro id message choice rfl
    exact idle_of_receive stepped
  have before : server.mask hidden (chosenAfter packages hidden chosen server event) =
      other.mask hidden (chosenAfter packages hidden chosen server event) := by
    rw [mask_chosenAfter idle, same]
    refine (mask_chosenAfter fun id message choice received => ?_).symm
    obtain ⟨connection, found, empty⟩ := idle id message choice received
    exact ⟨connection, idle_alike same found empty, empty⟩
  have covers : Server.Covers packages hidden (chosenAfter packages hidden chosen server event)
      server event := by
    cases event with
    | receive id message choice =>
      intro asks
      simpa [chosenAfter] using asks
    | _ => exact trivial
  have otherCovers : Server.Covers packages hidden
      (chosenAfter packages hidden chosen server event) other event := by
    cases event with
    | receive id message choice => exact fun asks => covers (asksFor_alike before.symm asks)
    | _ => exact trivial
  have steps : (other.step packages event).map
      (Server.mask hidden (chosenAfter packages hidden chosen server event)) =
        some (next.mask hidden (chosenAfter packages hidden chosen server event)) := by
    rw [← Server.step_mask otherCovers, ← before, Server.step_mask covers, stepped, Option.map_some]
  obtain ⟨otherNext, otherStepped, masked⟩ := Option.map_eq_some_iff.mp steps
  refine ⟨otherNext, chosenAfter packages hidden chosen server event, ?_, masked.symm,
    fun id on => asked_chosenAfter ran asked on⟩
  exact runFrom_append.mpr ⟨other, otherRan, runFrom_cons.mpr ⟨otherNext, otherStepped, rfl⟩⟩

/-- Two states that differ at most in the endpoint of a client, which has one in both, and in the
address that is noted with it. -/
def DifferInEndpoint (hidden : String) (first second : Server) : Prop :=
  ∃ record addr other clientIp, first.registry.get hidden = some record ∧
    record.publicEndpoint = some addr ∧
    second = { first with networks := { first.networks with
      registry := ⟨first.registry.clients.modify hidden fun record =>
        { record with publicEndpoint := some other, clientIp := clientIp }⟩ } }

theorem DifferInEndpoint.mask_eq {first second : Server}
    (differ : DifferInEndpoint hidden first second) (chosen : ConnId → Bool) :
    first.mask hidden chosen = second.mask hidden chosen := by
  obtain ⟨record, addr, other, clientIp, stored, endpoint, rfl⟩ := differ
  have clients : first.registry.clients.modify hidden ClientRecord.mask =
      (first.registry.clients.modify hidden fun record =>
        { record with publicEndpoint := some other, clientIp := clientIp }).modify hidden
          ClientRecord.mask := by
    rw [Dict.modify, Dict.modify, Dict.modify, Dict.mapValues_mapValues]
    refine Dict.mapValues_congr _ fun clientId entry found => ?_
    by_cases own : clientId = hidden
    · subst own
      obtain rfl := Option.some.inj (stored.symm.trans found)
      simp only [if_true, ClientRecord.mask, endpoint, Option.map_some]
    · rw [if_neg own, if_neg own, if_neg own]
  simp only [Server.mask, NetworkManager.mask, ClientRegistry.mask]
  rw [← clients]
  rfl

/-- A run from one of two states that differ in the endpoint is a run from the other. -/
theorem alike_of_run {first second : Server} {events : List ServerEvent} {final : Server}
    (same : first.mask hidden (fun _ => false) = second.mask hidden fun _ => false)
    (ran : runFrom (Server.step packages) first events = some final) :
    Alike packages hidden first second events final := by
  have initially : Alike packages hidden first second [] first :=
    ⟨second, fun _ => false, rfl, same, by simp⟩
  exact history_invariant (fun past server event next before _ alike stepped =>
    alike.step before stepped) initially (holdsAlong_true events first) ran

/-- For two states of the server that differ in the endpoint of a client, the same events can be
taken from both, and each event writes the same message in both runs to the same connection, if
any, with one exception: the answer on a connection whose last message was a REQUEST_PEER_CONN
with the client's id, for another client that shared a network with it, when it was online and the
hub of the network if the network has one. -/
theorem endpoint_confidentiality (packages : Packages) (hidden : String) (first second : Server)
    (differ : DifferInEndpoint hidden first second) (events : List ServerEvent) :
    (runFrom (Server.step packages) first events).isSome =
        (runFrom (Server.step packages) second events).isSome ∧
      ∀ before event after server other, events = before ++ event :: after →
        runFrom (Server.step packages) first before = some server →
        runFrom (Server.step packages) second before = some other →
          server.written event = other.written event ∨
            ∃ id endpoints others,
              server.written event = some (id, .peerEndpoints hidden endpoints) ∧
              other.written event = some (id, .peerEndpoints hidden others) ∧
              Asked packages hidden first id before ∧ Asked packages hidden second id before := by
  have same := differ.mask_eq fun _ => false
  refine ⟨?_, ?_⟩
  · rw [Bool.eq_iff_iff, Option.isSome_iff_exists, Option.isSome_iff_exists]
    constructor
    · rintro ⟨final, ran⟩
      obtain ⟨other, chosen, otherRan, -⟩ := alike_of_run same ran
      exact ⟨other, otherRan⟩
    · rintro ⟨final, ran⟩
      obtain ⟨other, chosen, otherRan, -⟩ := alike_of_run same.symm ran
      exact ⟨other, otherRan⟩
  · intro before event after server other _ ran otherRan
    obtain ⟨reached, chosen, reachedRan, masked, asked⟩ := alike_of_run same ran
    obtain rfl := Option.some.inj (otherRan.symm.trans reachedRan)
    rcases written_alike masked event with equal | ⟨id, endpoints, others, on, told, otherTold⟩
    · exact .inl equal
    · obtain ⟨returned, otherChosen, returnedRan, otherMasked, otherAsked⟩ :=
        alike_of_run same.symm otherRan
      obtain rfl := Option.some.inj (ran.symm.trans returnedRan)
      rcases written_alike otherMasked event with equal | ⟨otherId, _, _, otherOn, sent, _⟩
      · exact .inl equal.symm
      · obtain ⟨rfl, -⟩ := Prod.mk.inj (Option.some.inj (otherTold.symm.trans sent))
        exact .inr ⟨id, endpoints, others, told, otherTold, asked id on, otherAsked id otherOn⟩

def requestMessage (peerId : String) : Message :=
  ⟨"REQUEST_PEER_CONN", payloadOf [("peer_id", peerId)]⟩

/-- The server with two members of a network, the second of them at another endpoint. -/
def twoMembersMoved : Server :=
  { serverAfter twoMembers with networks := { (serverAfter twoMembers).networks with
    registry := ⟨(serverAfter twoMembers).registry.clients.modify "client-0002" fun record =>
      { record with publicEndpoint := some ("10.0.0.2", 2), clientIp := some "10.0.0.2" }⟩ } }

def ServerMessage.toldEndpoints : ServerMessage → List Addr
  | .peerEndpoints _ endpoints => endpoints
  | _ => []

/-- One member of a network asks for the endpoint of the other, and is told a different one in the
two runs. -/
theorem endpoint_confidentiality_request :
    DifferInEndpoint "client-0002" (serverAfter twoMembers) twoMembersMoved ∧
      Asked plainPackages "client-0002" (serverAfter twoMembers) 0
        [.receive 0 (requestMessage "client-0002") (calm ["network"])] := by
  have endpoint : ((serverAfter twoMembers).registry.get "client-0002").any
      (fun record => record.publicEndpoint.isSome) = true := by decide +kernel
  obtain ⟨record, stored, present⟩ := (Option.any_eq_true _ _).mp endpoint
  obtain ⟨addr, located⟩ := Option.isSome_iff_exists.mp present
  have differ : DifferInEndpoint "client-0002" (serverAfter twoMembers) twoMembersMoved :=
    ⟨record, addr, ("10.0.0.2", 2), some "10.0.0.2", stored, located, rfl⟩
  have ran := some_of_isSome (show (runFrom (Server.step plainPackages) (serverAfter twoMembers)
    [.receive 0 (requestMessage "client-0002") (calm ["network"])]).isSome = true by
    decide +kernel) exampleServer
  have otherRan := some_of_isSome (show (runFrom (Server.step plainPackages) twoMembersMoved
    [.receive 0 (requestMessage "client-0002") (calm ["network"])]).isSome = true by
    decide +kernel) exampleServer
  have different : ((((runFrom (Server.step plainPackages) (serverAfter twoMembers)
      [.receive 0 (requestMessage "client-0002") (calm ["network"])]).getD exampleServer).written
        (.advance 0 (calm []))).map fun sent => sent.2.toldEndpoints) ≠
      ((((runFrom (Server.step plainPackages) twoMembersMoved
        [.receive 0 (requestMessage "client-0002") (calm ["network"])]).getD exampleServer).written
          (.advance 0 (calm []))).map fun sent => sent.2.toldEndpoints) := by
    decide +kernel
  refine ⟨differ, ?_⟩
  rcases (endpoint_confidentiality plainPackages "client-0002" _ _ differ
    [.receive 0 (requestMessage "client-0002") (calm ["network"]), .advance 0 (calm [])]).2
      [.receive 0 (requestMessage "client-0002") (calm ["network"])] _ [] _ _ rfl ran otherRan with
    equal | ⟨id, endpoints, others, told, -, asked, -⟩
  · exact absurd (congrArg _ equal) different
  · have answered : (((runFrom (Server.step plainPackages) (serverAfter twoMembers)
        [.receive 0 (requestMessage "client-0002") (calm ["network"])]).getD exampleServer).written
          (.advance 0 (calm []))).map Prod.fst = some 0 := by
      decide +kernel
    rw [told] at answered
    exact Option.some.inj answered ▸ asked

end LocalNetwork
