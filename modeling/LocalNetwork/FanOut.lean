/-
This file models the fan-outs of the server, each awaited from its start to its end: the
announcements of a client as online or offline, the broadcast of a service event, and the
rounds of the prune loop with the disconnects they run. Which sends raise is given by the
connection they are made to, and the order in which the networks of a client are visited by
the client.

No loop catches an exception. A fan-out therefore reaches all members that it can reach if
and only if, in the order in which they are visited, those whose writer raises come last;
and a round of the prune loop goes through if and only if no writer it sends to raises.
-/

import LocalNetwork.Awaited
import LocalNetwork.Handling

namespace LocalNetwork

/-- The sends that a fan-out made, and the text of the exception that ended it. -/
abbrev SendLog := Awaited (ConnId × ServerMessage) String

namespace Server

variable (raises : ConnId → Option String) (order : String → List String) (server : Server)

/-! ### The loops -/

/-- `_send` to a client, if it has a writer. -/
def sendTo (clientId : String) (message : ServerMessage) : SendLog :=
  match server.writers.get? clientId with
  | none => .nothing
  | some id => .attempt (fun sent => raises sent.1) (id, message)

/-- The inner loop of `_announce_peer_online`. -/
def announcePeerOnlineIn (clientId networkId : String) : SendLog :=
  .forEach (fun member => server.sendTo raises member (.peerOnline networkId clientId))
    (server.otherMembers clientId networkId)

def announcePeerOnline (clientId : String) : SendLog :=
  .forEach (fun networkId => server.announcePeerOnlineIn raises clientId networkId) (order clientId)

def announcePeerOffline (clientId networkId : String) : SendLog :=
  .forEach (fun member => server.sendTo raises member (.peerOffline networkId clientId))
    (server.otherMembers clientId networkId)

def broadcastService (networkId : String) (message : ServerMessage) : SendLog :=
  .forEach (fun member => server.sendTo raises member.clientId message)
    (server.registry.membersInNetworks {networkId})

/-- A push, awaited to its end. -/
def fanOut : Push → SendLog
  | .sendTo clientId message => server.sendTo raises clientId message
  | .announcePeerOnline clientId => server.announcePeerOnline raises order clientId
  | .announcePeerOnlineIn clientId networkId =>
    server.announcePeerOnlineIn raises clientId networkId
  | .announcePeerOffline clientId networkId =>
    server.announcePeerOffline raises clientId networkId
  | .broadcastService networkId message => server.broadcastService raises networkId message

/-- The sends of `_handle_disconnect`, which come after its changes. -/
def disconnectSends (clientId : String) : SendLog :=
  .forEach (fun networkId =>
    (server.handleDisconnect clientId).announcePeerOffline raises clientId networkId)
    (order clientId)

/-- The loop of a round over the clients that were silent: the clients whose `_handle_disconnect`
was run, and the exception that ends the prune loop. -/
def pruneRound : Server → List String → Awaited String String
  | _, [] => .nothing
  | server, clientId :: rest =>
    Awaited.andThen ⟨[clientId], (server.disconnectSends raises order clientId).raised⟩
      (pruneRound (server.handleDisconnect clientId) rest)

/-- The state once the silent clients of a round are marked offline. -/
def marked (now : Time) : Server :=
  { server with networks := { server.networks with
    registry := (server.registry.pruneStale now server.heartbeatTimeout).2 } }

/-! ### The members that are owed an event -/

/-- The send to a client, if it has a writer. -/
def sendDue (clientId : String) (message : ServerMessage) : List (ConnId × ServerMessage) :=
  ((server.writers.get? clientId).map fun id => (id, message)).toList

/-- The sends of a push to all members that have a writer, in the order in which they are
visited. -/
def due : Push → List (ConnId × ServerMessage)
  | .sendTo clientId message => server.sendDue clientId message
  | .announcePeerOnline clientId =>
    (order clientId).flatMap fun networkId =>
      (server.otherMembers clientId networkId).flatMap fun member =>
        server.sendDue member (.peerOnline networkId clientId)
  | .announcePeerOnlineIn clientId networkId =>
    (server.otherMembers clientId networkId).flatMap fun member =>
      server.sendDue member (.peerOnline networkId clientId)
  | .announcePeerOffline clientId networkId =>
    (server.otherMembers clientId networkId).flatMap fun member =>
      server.sendDue member (.peerOffline networkId clientId)
  | .broadcastService networkId message =>
    (server.registry.membersInNetworks {networkId}).flatMap fun member =>
      server.sendDue member.clientId message

theorem sendTo_eq (clientId : String) (message : ServerMessage) :
    server.sendTo raises clientId message =
      .forEach (.attempt fun sent => raises sent.1) (server.sendDue clientId message) := by
  unfold sendTo sendDue
  cases server.writers.get? clientId with
  | none => rfl
  | some id => exact (Awaited.andThen_nothing _).symm

/-- A fan-out attempts the sends that are due, one after the other. -/
theorem fanOut_eq (push : Push) :
    server.fanOut raises order push =
      .forEach (.attempt fun sent => raises sent.1) (server.due order push) := by
  cases push with
  | sendTo clientId message => exact sendTo_eq raises server clientId message
  | announcePeerOnline clientId =>
    simp only [fanOut, due, announcePeerOnline, announcePeerOnlineIn, Awaited.forEach_flatMap,
      sendTo_eq]
  | announcePeerOnlineIn clientId networkId =>
    simp only [fanOut, due, announcePeerOnlineIn, Awaited.forEach_flatMap, sendTo_eq]
  | announcePeerOffline clientId networkId =>
    simp only [fanOut, due, announcePeerOffline, Awaited.forEach_flatMap, sendTo_eq]
  | broadcastService networkId message =>
    simp only [fanOut, due, broadcastService, Awaited.forEach_flatMap, sendTo_eq]

/-! ### The loops as steps -/

/-- A choice follows the writers that raise, and the orders of the networks. -/
def FollowsPush (choice : Choice) : Push → Prop
  | .sendTo clientId _ =>
    ∀ id, server.writers.get? clientId = some id →
      (choice.outcome = .sent ∧ raises id = none) ∨
      ∃ text, raises id = some text ∧
        (choice.outcome = .lost text ∨ choice.outcome = .unwritten text)
  | .announcePeerOnline clientId => choice.order = order clientId
  | _ => True

variable {raises order server}

/-- A step of a fan-out writes the first message of the fan-out and leaves the others, or the
fan-out raises. -/
theorem takePush_fanOut {choice : Choice} {push : Push} {result : PushResult}
    (follows : server.FollowsPush raises order choice push)
    (taken : server.takePush choice push = some result) :
    (∃ pushes, result.next = .ok pushes ∧
      server.fanOut raises order push =
        Awaited.andThen ⟨result.written.toList, none⟩
          (.forEach (server.fanOut raises order) pushes)) ∨
    ∃ text, result.next = .error text ∧ server.fanOut raises order push = ⟨[], some text⟩ := by
  cases push with
  | sendTo clientId message =>
    simp only [takePush] at taken
    simp only [fanOut, Server.sendTo]
    cases stored : server.writers.get? clientId with
    | none =>
      rw [stored] at taken
      obtain rfl := Option.some.inj taken
      exact .inl ⟨[], rfl, rfl⟩
    | some id =>
      rw [stored] at taken
      obtain rfl := Option.some.inj taken
      rcases follows id stored with ⟨sent, quiet⟩ | ⟨text, raised, lost | unwritten⟩
      · refine .inl ⟨[], by rw [sent]; rfl, ?_⟩
        rw [sent]
        simp only [Awaited.attempt, quiet]
        rfl
      · exact .inr ⟨text, by rw [lost]; rfl, by simp only [Awaited.attempt, raised]⟩
      · exact .inr ⟨text, by rw [unwritten]; rfl, by simp only [Awaited.attempt, raised]⟩
  | announcePeerOnline clientId =>
    simp only [takePush] at taken
    split at taken
    · obtain rfl := Option.some.inj taken
      refine .inl ⟨_, rfl, ?_⟩
      rw [Awaited.forEach_map, follows]
      rfl
    · cases taken
  | announcePeerOnlineIn clientId networkId =>
    obtain rfl := Option.some.inj taken
    exact .inl ⟨_, rfl, by rw [Awaited.forEach_map]; rfl⟩
  | announcePeerOffline clientId networkId =>
    obtain rfl := Option.some.inj taken
    exact .inl ⟨_, rfl, by rw [Awaited.forEach_map]; rfl⟩
  | broadcastService networkId message =>
    obtain rfl := Option.some.inj taken
    exact .inl ⟨_, rfl, by rw [Awaited.forEach_map]; rfl⟩

/-- The choices of an event follow the writers that raise, and the orders of the networks. -/
def Follows (raises : ConnId → Option String) (order : String → List String) (server : Server) :
    ServerEvent → Prop
  | .advance id choice => ∀ connection push rest, server.connections.get? id = some connection →
    connection.todo = .push push :: rest → server.FollowsPush raises order choice push
  | .advancePrune choice => ∀ instr rest, server.pruneLoop = some (instr :: rest) →
    match instr with
    | .push push => server.FollowsPush raises order choice push
    | .disconnect clientId => choice.order = order clientId
  | _ => True

/-- The messages that a run writes. -/
def writtenAlong (packages : Packages) : Server → List ServerEvent → List (ConnId × ServerMessage)
  | _, [] => []
  | server, event :: rest =>
    (server.written event).toList ++
      match server.step packages event with
      | none => []
      | some next => writtenAlong packages next rest

/-- A connection that takes its own steps from the start of a fan-out is inside it, with the written
messages the first of those of the fan-out, or the fan-out ended earlier with all it delivers
written. -/
theorem fanOut_advances {packages : Packages} {final : Server} {id : ConnId}
    {connection : Connection} {pushes : List Push} {rest : List Instr} {choices : List Choice}
    (found : server.connections.get? id =
      some { connection with todo := pushes.map .push ++ rest })
    (along : HoldsAlong (Server.step packages) (Follows raises order) server
      (choices.map (.advance id)))
    (ran : runFrom (Server.step packages) server (choices.map (.advance id)) = some final) :
    (∃ left, final.connections.get? id = some { connection with todo := left.map .push ++ rest } ∧
      Awaited.forEach (server.fanOut raises order) pushes =
        Awaited.andThen ⟨writtenAlong packages server (choices.map (.advance id)), none⟩
          (.forEach (final.fanOut raises order) left)) ∨
    ∃ early late raised, choices = early ++ late ∧
      Awaited.forEach (server.fanOut raises order) pushes =
        ⟨writtenAlong packages server (early.map (.advance id)), raised⟩ := by
  induction choices generalizing server pushes with
  | nil =>
    obtain rfl := Option.some.inj ran
    exact .inl ⟨pushes, found, rfl⟩
  | cons choice choices inductionHypothesis =>
    cases pushes with
    | nil => exact .inr ⟨[], choice :: choices, none, rfl, rfl⟩
    | cons push more =>
      obtain ⟨next, stepped, restRan⟩ := runFrom_cons.mp ran
      have ⟨now, alongRest⟩ := along
      have follows := now _ push (more.map .push ++ rest) found rfl
      have taken := stepped
      simp only [step, found, Option.bind_some, List.map_cons, List.cons_append, takeInstr] at taken
      obtain ⟨result, pushed, sent⟩ := Option.bind_eq_some_iff.mp taken
      rcases takePush_fanOut follows pushed with ⟨others, continues, first⟩ | ⟨text, -, first⟩
      · simp only [afterSend, continues] at sent
        obtain rfl := Option.some.inj sent
        have moved : (server.setConnection id { connection with
            todo := others.map .push ++ (more.map .push ++ rest) }).connections.get? id =
              some { connection with todo := (others ++ more).map .push ++ rest } := by
          rw [get_setConnection, if_pos rfl, List.map_append, List.append_assoc]
        have here : server.written (.advance id choice) = result.written := by
          simp only [written, found, Option.bind_some, List.map_cons, List.cons_append, pushed]
        have writes (later : List ServerEvent) :
            writtenAlong packages server (.advance id choice :: later) =
              result.written.toList ++ writtenAlong packages (server.setConnection id { connection
                with todo := others.map .push ++ (more.map .push ++ rest) }) later := by
          rw [writtenAlong, here, stepped]
        have total : Awaited.forEach (server.fanOut raises order) (push :: more) =
            Awaited.andThen ⟨result.written.toList, none⟩
              (.forEach (server.fanOut raises order) (others ++ more)) := by
          rw [Awaited.forEach_cons, first, Awaited.forEach_append, Awaited.andThen_assoc]
        rcases inductionHypothesis moved (alongRest _ stepped) restRan with
          ⟨left, inside, owed⟩ | ⟨early, late, raised, rfl, owed⟩
        · refine .inl ⟨left, inside, ?_⟩
          rw [total, List.map_cons, writes]
          exact (congrArg _ owed).trans (Awaited.andThen_assoc ⟨_, none⟩ ⟨_, none⟩ _).symm
        · refine .inr ⟨choice :: early, late, raised, rfl, ?_⟩
          rw [total, List.map_cons, writes]
          exact congrArg _ owed
      · refine .inr ⟨[], choice :: choices, some text, rfl, ?_⟩
        rw [Awaited.forEach_cons, first]
        rfl

/-- What is left of a round of the prune loop, with the clients it disconnects as its entries. -/
def roundLeft (raises : ConnId → Option String) (order : String → List String) :
    Server → List PruneInstr → Awaited String String
  | _, [] => .nothing
  | server, .disconnect clientId :: rest =>
    Awaited.andThen ⟨[clientId], (server.disconnectSends raises order clientId).raised⟩
      (roundLeft raises order (server.handleDisconnect clientId) rest)
  | server, .push push :: rest =>
    Awaited.andThen ⟨[], (server.fanOut raises order push).raised⟩
      (roundLeft raises order server rest)

theorem roundLeft_disconnects (clients : List String) :
    server.roundLeft raises order (clients.map .disconnect) =
      server.pruneRound raises order clients := by
  induction clients generalizing server with
  | nil => rfl
  | cons clientId rest inductionHypothesis =>
    rw [List.map_cons, roundLeft, inductionHypothesis, pruneRound]

/-- What is left of a round does not depend on what the state says is left. -/
theorem roundLeft_loop (loop : Option (List PruneInstr)) (left : List PruneInstr) :
    Server.roundLeft raises order { server with pruneLoop := loop } left =
      server.roundLeft raises order left := by
  induction left generalizing server with
  | nil => rfl
  | cons instr rest inductionHypothesis =>
    cases instr with
    | disconnect clientId =>
      exact congrArg (Awaited.andThen
        ⟨[clientId], (server.disconnectSends raises order clientId).raised⟩)
          (@inductionHypothesis (server.handleDisconnect clientId))
    | push push =>
      have same : Server.fanOut raises order { server with pruneLoop := loop } push =
          server.fanOut raises order push := by
        cases push <;> rfl
      rw [roundLeft, roundLeft, same, inductionHypothesis]

/-- The pushes at the front of a round raise as their fan-outs do. -/
theorem roundLeft_pushes (pushes : List Push) (rest : List PruneInstr) :
    server.roundLeft raises order (pushes.map .push ++ rest) =
      Awaited.andThen ⟨[], (Awaited.forEach (server.fanOut raises order) pushes).raised⟩
        (server.roundLeft raises order rest) := by
  induction pushes with
  | nil => rfl
  | cons push more inductionHypothesis =>
    rw [List.map_cons, List.cons_append, roundLeft, inductionHypothesis, Awaited.forEach_cons,
      ← Awaited.andThen_assoc]
    refine congrArg (fun call => Awaited.andThen call (server.roundLeft raises order rest)) ?_
    cases raised : (server.fanOut raises order push).raised with
    | none => simp [Awaited.andThen, raised]
    | some text => simp [Awaited.andThen, raised]

theorem roundLeft_pushes_loop (loop : Option (List PruneInstr)) (pushes : List Push)
    (rest : List PruneInstr) :
    Server.roundLeft raises order { server with pruneLoop := loop } (pushes.map .push ++ rest) =
      Awaited.andThen ⟨[], (Awaited.forEach (server.fanOut raises order) pushes).raised⟩
        (server.roundLeft raises order rest) :=
  (roundLeft_loop loop _).trans (roundLeft_pushes pushes rest)

/-- A round is inside the loop, with the clients disconnected so far the first of its entries, or an
exception has ended it. -/
def RoundAt (total : Awaited String String) (raises : ConnId → Option String)
    (order : String → List String) (server : Server) : Prop :=
  (∃ left done, server.pruneLoop = some left ∧
    total = Awaited.andThen ⟨done, none⟩ (server.roundLeft raises order left)) ∨
  (server.pruneLoop = none ∧ total.raised ≠ none)

theorem roundAt_step {packages : Packages} {next : Server} {choice : Choice}
    {total : Awaited String String}
    (follows : server.Follows raises order (.advancePrune choice))
    (stepped : server.step packages (.advancePrune choice) = some next)
    (inside : server.RoundAt total raises order) : next.RoundAt total raises order := by
  rcases inside with ⟨left, done, loop, rfl⟩ | ⟨dead, -⟩
  · cases left with
    | nil =>
      simp only [step, loop] at stepped
      cases stepped
    | cons instr rest =>
      have now := follows instr rest loop
      simp only [step, loop] at stepped
      cases instr with
      | disconnect clientId =>
        simp only [takePruneInstr] at stepped
        split at stepped
        · obtain rfl := Option.some.inj stepped
          refine .inl ⟨_, done ++ [clientId], rfl, ?_⟩
          have instrs : (choice.order.map fun networkId =>
              PruneInstr.push (.announcePeerOffline clientId networkId)) =
                ((order clientId).map fun networkId =>
                  Push.announcePeerOffline clientId networkId).map .push := by
            rw [List.map_map, now]
            rfl
          rw [instrs]
          refine Eq.trans ?_ (congrArg (Awaited.andThen _)
            (@roundLeft_pushes_loop raises order (server.handleDisconnect clientId) _ _ _).symm)
          rw [Awaited.forEach_map]
          exact (Awaited.andThen_split done [clientId] _ _).symm
        · cases stepped
      | push push =>
        obtain ⟨result, pushed, rfl⟩ := Option.map_eq_some_iff.mp stepped
        rcases takePush_fanOut now pushed with ⟨pushes, continues, first⟩ | ⟨text, raised, first⟩
        · rw [continues]
          refine .inl ⟨_, done, rfl, ?_⟩
          refine Eq.trans ?_ (congrArg (Awaited.andThen _)
            (@roundLeft_pushes_loop raises order server _ _ _).symm)
          rw [roundLeft, first]
          rfl
        · rw [raised]
          refine .inr ⟨rfl, ?_⟩
          rw [roundLeft, first]
          simp [Awaited.andThen]
  · simp only [step, dead] at stepped
    cases stepped

/-- A round that the prune loop takes in its own steps ends in its sleep when the round raises
nothing, and ends the loop when it raises. -/
theorem pruneRound_run {packages : Packages} {ticked final : Server} {now : Time}
    {events : List ServerEvent} (stepped : server.step packages (.pruneTick now) = some ticked)
    (along : HoldsAlong (Server.step packages) (fun state event =>
      (∃ choice, event = .advancePrune choice) ∧ state.Follows raises order event) ticked events)
    (ran : runFrom (Server.step packages) ticked events = some final) :
    (final.pruneLoop = some [] → ((server.marked now).pruneRound raises order
      (server.registry.pruneStale now server.heartbeatTimeout).1).raised = none) ∧
    (final.pruneLoop = none → ((server.marked now).pruneRound raises order
      (server.registry.pruneStale now server.heartbeatTimeout).1).raised ≠ none) := by
  have initially : ticked.RoundAt ((server.marked now).pruneRound raises order
      (server.registry.pruneStale now server.heartbeatTimeout).1) raises order := by
    simp only [step] at stepped
    split at stepped
    · obtain rfl := Option.some.inj stepped
      refine .inl ⟨_, [], rfl, ?_⟩
      rw [← roundLeft_disconnects]
      exact (@roundLeft_loop raises order (server.marked now) _ _).symm
    · cases stepped
  have reached : final.RoundAt ((server.marked now).pruneRound raises order
      (server.registry.pruneStale now server.heartbeatTimeout).1) raises order := by
    refine run_invariant (fun state event next follows inside taken => ?_) initially along ran
    obtain ⟨⟨choice, rfl⟩, honest⟩ := follows
    exact roundAt_step honest taken inside
  rcases reached with ⟨left, done, loop, total⟩ | ⟨dead, raised⟩
  · rw [loop, total]
    refine ⟨fun idle => ?_, fun gone => ?_⟩
    · rw [Option.some.inj idle]
      rfl
    · cases gone
  · rw [dead]
    refine ⟨fun idle => ?_, fun _ => raised⟩
    cases idle

end Server

/-! ### Members of networks -/

/-- Every record stands under its own client id. -/
def ClientRegistry.Keyed (registry : ClientRegistry) : Prop :=
  registry.clients.All fun clientId record => record.clientId = clientId

namespace ClientRegistry

variable {registry : ClientRegistry}

theorem Keyed.member (keyed : registry.Keyed) {networkIds : Finset String} {record : ClientRecord}
    (member : record ∈ registry.membersInNetworks networkIds) :
    registry.get record.clientId = some record ∧ record.online = true := by
  obtain ⟨listed, holds⟩ := List.mem_filter.mp member
  obtain ⟨clientId, stored⟩ := Dict.mem_values_iff.mp listed
  rw [keyed clientId record stored]
  exact ⟨stored, (Bool.and_eq_true_iff.mp holds).1⟩

/-- A client that is offline is not among the members that are online. -/
theorem Keyed.ne_of_offline (keyed : registry.Keyed) {networkIds : Finset String}
    {record : ClientRecord} {clientId : String}
    (offline : ∀ record, registry.get clientId = some record → record.online = false)
    (member : record ∈ registry.membersInNetworks networkIds) : record.clientId ≠ clientId := by
  rintro rfl
  obtain ⟨stored, online⟩ := keyed.member member
  rw [offline record stored] at online
  cases online

/-- Taking a client that is offline out of the tables changes no list of members. -/
theorem membersInNetworks_unregister {clientId : String}
    (offline : ∀ record, registry.get clientId = some record → record.online = false)
    (networkIds : Finset String) :
    (registry.unregister clientId).membersInNetworks networkIds =
      registry.membersInNetworks networkIds := by
  have quiet (entry : String × ClientRecord) (listed : entry ∈ registry.clients.entries)
      (same : entry.1 = clientId) : entry.2.online = false := by
    refine offline entry.2 (Dict.get?_eq_some_iff.mpr ?_)
    rw [← same]
    exact listed
  simp only [membersInNetworks, unregister, Dict.values, Dict.modify, Dict.mapValues]
  rw [List.map_map, List.filter_map, List.filter_map]
  rw [List.filter_congr fun entry listed => ?_]
  · refine List.map_congr_left fun entry kept => ?_
    obtain ⟨listed, holds⟩ := List.mem_filter.mp kept
    have other : entry.1 ≠ clientId := fun same => by
      simp [quiet entry listed same] at holds
    simp only [Function.comp_apply, if_neg other]
  · by_cases same : entry.1 = clientId
    · simp [same, quiet entry listed same]
    · simp only [Function.comp_apply, if_neg same]

/-- A client that was named as silent is offline in the records that are left. -/
theorem offline_of_stale {now timeout : Time} {clientId : String}
    (stale : clientId ∈ (registry.pruneStale now timeout).1) (record : ClientRecord)
    (stored : (registry.pruneStale now timeout).2.get clientId = some record) :
    record.online = false := by
  obtain ⟨entry, kept, rfl⟩ := List.mem_map.mp stale
  obtain ⟨listed, silent⟩ := List.mem_filter.mp kept
  have found : registry.get entry.1 = some entry.2 := Dict.get?_eq_some_iff.mpr listed
  rw [get_pruneStale, found, Option.map_some, Option.some_inj] at stored
  rw [← stored, if_pos silent]

theorem Keyed.modify (keyed : registry.Keyed) (clientId : String)
    {update : ClientRecord → ClientRecord} (kept : ∀ record, (update record).clientId =
      record.clientId) : Keyed ⟨registry.clients.modify clientId update⟩ :=
  Dict.All.modify keyed clientId fun record same => (kept record).trans same

theorem Keyed.register (keyed : registry.Keyed) (clientId publicKeyPem : String) (now : Time) :
    (registry.register clientId publicKeyPem now).Keyed := by
  unfold ClientRegistry.register
  split
  · exact keyed.modify clientId fun _ => rfl
  · have inserted : Keyed
        ⟨registry.clients.insert clientId (newRecord clientId publicKeyPem now)⟩ :=
      Dict.All.insert keyed rfl
    exact inserted.modify clientId fun _ => rfl

theorem Keyed.updateEndpoint (keyed : registry.Keyed) (clientId : String) (addr : Addr) :
    (registry.updateEndpoint clientId addr).Keyed :=
  keyed.modify clientId fun _ => rfl

theorem Keyed.setOnline (keyed : registry.Keyed) (clientId : String) (now : Time) :
    (registry.setOnline clientId now).2.Keyed := by
  unfold ClientRegistry.setOnline
  split
  · exact keyed
  · split
    · exact keyed
    · exact keyed.modify clientId fun _ => rfl

end ClientRegistry

theorem RegistryChange.keyed {registry changed : ClientRegistry} {clientId : String}
    (change : RegistryChange registry clientId changed) (keyed : registry.Keyed) :
    changed.Keyed := by
  cases change with
  | unchanged => exact keyed
  | heartbeat now => exact keyed.modify clientId fun _ => rfl
  | addNetwork networkId => exact keyed.modify clientId fun _ => rfl
  | removeNetwork networkId => exact keyed.modify clientId fun _ => rfl

theorem keyed_step {packages : Packages} {server next : Server} {event : ServerEvent}
    (keyed : server.registry.Keyed) (stepped : server.step packages event = some next) :
    next.registry.Keyed := by
  cases step_cases stepped with
  | register id message choice connection clientId publicKey accepts =>
    exact ((keyed.register clientId publicKey choice.now).updateEndpoint clientId
      connection.peer).setOnline clientId choice.now
  | dispatch id message choice connection clientId handled found waiting registered authenticated
      ran =>
    exact (Server.spec_handleCommand ran).registry.keyed keyed
  | disconnect event id connection clientId => exact keyed.modify clientId fun _ => rfl
  | pruneTick now idle =>
    refine Dict.All.mapValues keyed fun clientId record same => ?_
    split <;> exact same
  | pruneDisconnect choice clientId => exact keyed.modify clientId fun _ => rfl
  | _ => exact keyed

/-! ### Fan-outs that reach everyone -/

section

variable (raises : ConnId → Option String) (order : String → List String)

/-- A fan-out makes every send to a member whose writer does not raise. -/
def FansOut (server : Server) (push : Push) : Prop :=
  (server.fanOut raises order push).entries =
    (server.due order push).filter fun sent => (raises sent.1).isNone

/-- Once a writer raises, all that are visited after it raise too. -/
def RaisesLast (sends : List (ConnId × ServerMessage)) : Prop :=
  sends.Pairwise fun earlier later =>
    (raises earlier.1).isNone = false → (raises later.1).isNone = false

/-- A round runs `_handle_disconnect` for every client that was silent, and the prune loop goes
on. -/
def RoundCompletes (server : Server) (now : Time) : Prop :=
  (server.marked now).pruneRound raises order
      (server.registry.pruneStale now server.heartbeatTimeout).1 =
    ⟨(server.registry.pruneStale now server.heartbeatTimeout).1, none⟩

/-- No writer raises of a member that is still online in a network of a silent client. -/
def NotifiesQuietly (server : Server) (now : Time) : Prop :=
  ∀ clientId ∈ (server.registry.pruneStale now server.heartbeatTimeout).1,
    ∀ networkId ∈ server.registry.networksFor clientId,
      ∀ member ∈ (server.marked now).registry.membersInNetworks {networkId},
        ∀ id, server.writers.get? member.clientId = some id → raises id = none

end

variable {raises : ConnId → Option String} {order : String → List String} {server : Server}

theorem sendTo_raised {clientId : String} {message : ServerMessage} :
    (server.sendTo raises clientId message).raised = none ↔
      ∀ id, server.writers.get? clientId = some id → raises id = none := by
  unfold Server.sendTo
  cases server.writers.get? clientId with
  | none => simp [Awaited.nothing]
  | some id => simp [Awaited.attempt_raised]

/-- The sends of a disconnect go through when no member that is online raises. -/
theorem disconnectSends_raised {clientId : String} (keyed : server.registry.Keyed)
    (offline : ∀ record, server.registry.get clientId = some record → record.online = false) :
    (server.disconnectSends raises order clientId).raised = none ↔
      ∀ networkId ∈ order clientId, ∀ member ∈ server.registry.membersInNetworks {networkId},
        ∀ id, server.writers.get? member.clientId = some id → raises id = none := by
  have members (networkId : String) :
      (server.handleDisconnect clientId).registry.membersInNetworks {networkId} =
        server.registry.membersInNetworks {networkId} :=
    ClientRegistry.membersInNetworks_unregister offline {networkId}
  have other {networkId : String} {record : ClientRecord}
      (member : record ∈ server.registry.membersInNetworks {networkId}) :
      record.clientId ≠ clientId := keyed.ne_of_offline offline member
  have kept {record : ClientRecord} (different : record.clientId ≠ clientId) :
      (server.handleDisconnect clientId).writers.get? record.clientId =
        server.writers.get? record.clientId :=
    Dict.get?_erase_of_ne _ different
  rw [Server.disconnectSends, Awaited.forEach_raised]
  refine forall₂_congr fun networkId _ => ?_
  rw [Server.announcePeerOffline, Awaited.forEach_raised]
  constructor
  · intro quiet member listed id stored
    have visited : member.clientId ∈
        (server.handleDisconnect clientId).otherMembers clientId networkId := by
      refine List.mem_filter.mpr ⟨List.mem_map.mpr ⟨member, ?_, rfl⟩, ?_⟩
      · rw [members]
        exact listed
      · exact decide_eq_true (other listed)
    refine sendTo_raised.mp (quiet member.clientId visited) id ?_
    rw [kept (other listed)]
    exact stored
  · intro quiet memberId visited
    obtain ⟨listed, -⟩ := List.mem_filter.mp visited
    obtain ⟨member, present, rfl⟩ := List.mem_map.mp listed
    rw [members] at present
    refine sendTo_raised.mpr fun id stored => quiet member present id ?_
    rw [← kept (other present)]
    exact stored

/-- A round over clients that are offline raises nothing when none of the members raises that are
online in one of their networks. -/
theorem pruneRound_raised {clients : List String} (keyed : server.registry.Keyed)
    (offline : ∀ clientId ∈ clients, ∀ record, server.registry.get clientId = some record →
      record.online = false) :
    (server.pruneRound raises order clients).raised = none ↔
      ∀ clientId ∈ clients, ∀ networkId ∈ order clientId,
        ∀ member ∈ server.registry.membersInNetworks {networkId},
          ∀ id, server.writers.get? member.clientId = some id → raises id = none := by
  induction clients generalizing server with
  | nil => simp [Server.pruneRound, Awaited.nothing]
  | cons clientId rest inductionHypothesis =>
    have first := offline clientId List.mem_cons_self
    have members (networkId : String) :
        (server.handleDisconnect clientId).registry.membersInNetworks {networkId} =
          server.registry.membersInNetworks {networkId} :=
      ClientRegistry.membersInNetworks_unregister first {networkId}
    have later : ∀ other ∈ rest, ∀ record,
        (server.handleDisconnect clientId).registry.get other = some record →
          record.online = false := by
      intro other listed record stored
      rw [show (server.handleDisconnect clientId).registry = server.registry.unregister clientId
        from rfl, ClientRegistry.get_unregister] at stored
      split at stored
      · obtain ⟨before, -, rfl⟩ := Option.map_eq_some_iff.mp stored
        rfl
      · exact offline other (List.mem_cons_of_mem _ listed) record stored
    have torn : (server.handleDisconnect clientId).registry.Keyed :=
      keyed.modify clientId fun _ => rfl
    rw [Server.pruneRound, Awaited.andThen_raised, disconnectSends_raised keyed first,
      inductionHypothesis torn later, List.forall_mem_cons]
    refine and_congr_right fun _ => forall₂_congr fun other listed => forall₂_congr
      fun networkId _ => ?_
    rw [members]
    refine forall₂_congr fun member present => ?_
    have different : member.clientId ≠ clientId := keyed.ne_of_offline first present
    rw [show (server.handleDisconnect clientId).writers.get? member.clientId =
      server.writers.get? member.clientId from Dict.get?_erase_of_ne _ different]

/-- A round that raises nothing has disconnected all its clients. -/
theorem pruneRound_entries {clients : List String}
    (quiet : (server.pruneRound raises order clients).raised = none) :
    (server.pruneRound raises order clients).entries = clients := by
  induction clients generalizing server with
  | nil => rfl
  | cons clientId rest inductionHypothesis =>
    rw [Server.pruneRound] at quiet ⊢
    obtain ⟨sent, later⟩ := (Awaited.andThen_raised _ _).mp quiet
    have others := inductionHypothesis later
    simp only at sent
    rw [sent]
    exact congrArg (clientId :: ·) others

theorem roundCompletes_iff {now : Time} (keyed : server.registry.Keyed)
    (visited : ∀ clientId ∈ (server.registry.pruneStale now server.heartbeatTimeout).1,
      Server.Enumerates (order clientId) (server.registry.networksFor clientId)) :
    RoundCompletes raises order server now ↔ NotifiesQuietly raises server now := by
  have marked : (server.marked now).registry.Keyed := by
    refine Dict.All.mapValues keyed fun clientId record same => ?_
    split <;> exact same
  have quiet : ((server.marked now).pruneRound raises order
      (server.registry.pruneStale now server.heartbeatTimeout).1).raised = none ↔
        NotifiesQuietly raises server now := by
    rw [pruneRound_raised marked fun clientId stale => ClientRegistry.offline_of_stale stale]
    refine forall₂_congr fun clientId stale => ?_
    have listed (networkId : String) :
        networkId ∈ order clientId ↔ networkId ∈ server.registry.networksFor clientId := by
      rw [← (visited clientId stale).2, List.mem_toFinset]
    simp only [listed]
    rfl
  rw [← quiet]
  constructor
  · intro completes
    exact congrArg Awaited.raised completes
  · intro none
    have entries := pruneRound_entries none
    unfold RoundCompletes
    rw [← none]
    exact congrArg (Awaited.mk · _) entries

/-! ### When a failing send cuts nothing short -/

/-- A fan-out makes all sends that would not raise if and only if, in the order in which the members
are visited, those whose writer raises come last. In every state that the server reaches, a round
of the prune loop disconnects every client that was silent, and the loop goes on, if and only if no
writer raises of a member that is still online in a network of a silent client. -/
theorem fan_out_isolation_iff (packages : Packages) (raises : ConnId → Option String)
    (order : String → List String) :
    (∀ server push,
      FansOut raises order server push ↔ RaisesLast raises (server.due order push)) ∧
    ∀ maxClients heartbeatTimeout ttl maxAttempts bannedNetworks events server now,
      runFrom (Server.step packages)
        (Server.init maxClients heartbeatTimeout ttl maxAttempts bannedNetworks) events =
          some server →
      (∀ clientId ∈ (server.registry.pruneStale now server.heartbeatTimeout).1,
        Server.Enumerates (order clientId) (server.registry.networksFor clientId)) →
      (RoundCompletes raises order server now ↔ NotifiesQuietly raises server now) := by
  refine ⟨fun server push => ?_, ?_⟩
  · unfold FansOut RaisesLast
    rw [Server.fanOut_eq, Awaited.forEach_attempt]
    exact Awaited.takeWhile_eq_filter_iff (fun sent : ConnId × ServerMessage =>
      (raises sent.1).isNone) _
  · intro maxClients heartbeatTimeout ttl maxAttempts bannedNetworks events server now ran visited
    have initially : (Server.init maxClients heartbeatTimeout ttl maxAttempts
        bannedNetworks).registry.Keyed := Dict.all_empty
    have keyed : server.registry.Keyed :=
      run_invariant (fun state event next _ keyed stepped => keyed_step keyed stepped) initially
        (holdsAlong_true events _) ran
    exact roundCompletes_iff keyed visited

/-! ### A network of three -/

/-- Three clients are members of a network, and the last two of them are heard of later. -/
def threeMembers : List ServerEvent :=
  twoMembers ++ [.advance 1 (calm []), .advance 1 (calm []), .advance 1 (calm [])] ++
    login 2 "client-0003" [] ++ joinNetwork 2 ++
    [.advance 2 (calm []), .advance 2 (calm []), .advance 2 (calm []), .advance 2 (calm []),
      .receive 1 ⟨"HEARTBEAT", Dict.empty⟩ { calm [] with now := 50 },
      .receive 2 ⟨"HEARTBEAT", Dict.empty⟩ { calm [] with now := 50 }]

/-- Only the last connection raises, and the round at time 100 disconnects the first client, which
has one network. -/
theorem fan_out_isolation_last :
    FansOut (fun id => if id = 2 then some "lost" else none) (fun _ => ["network"])
        (serverAfter threeMembers) (.announcePeerOnline "client-0001") ∧
      RoundCompletes (fun id => if id = 0 then some "lost" else none) (fun _ => ["network"])
        (serverAfter threeMembers) 100 := by
  have ran := runFrom_serverAfter
    (show (runFrom (Server.step plainPackages) exampleServer threeMembers).isSome = true by
      decide +kernel)
  have last : RaisesLast (fun id => if id = 2 then some "lost" else none)
      ((serverAfter threeMembers).due (fun _ => ["network"])
        (.announcePeerOnline "client-0001")) := by
    unfold RaisesLast
    decide +kernel
  have quiet : NotifiesQuietly (fun id => if id = 0 then some "lost" else none)
      (serverAfter threeMembers) 100 := by
    have checked : ∀ clientId ∈ ((serverAfter threeMembers).registry.pruneStale 100
        (serverAfter threeMembers).heartbeatTimeout).1,
        ∀ networkId ∈ (serverAfter threeMembers).registry.networksFor clientId,
          ∀ member ∈ ((serverAfter threeMembers).marked 100).registry.membersInNetworks {networkId},
            (serverAfter threeMembers).writers.get? member.clientId ≠ some 0 := by
      decide +kernel
    intro clientId stale networkId listed member present id stored
    refine if_neg fun first => checked clientId stale networkId listed member present ?_
    rw [stored, first]
  exact ⟨((fan_out_isolation_iff plainPackages _ _).1 _ _).mpr last,
    ((fan_out_isolation_iff plainPackages _ _).2 8 90 60 5 ∅ _ _ 100 ran (by decide +kernel)).mpr
      quiet⟩

/-- The writer of the second of three members raises. The third one is not told that the first is
online, and the round that times the first out ends the prune loop. -/
theorem raising_member_cuts_short :
    ¬ FansOut (fun id => if id = 1 then some "lost" else none) (fun _ => ["network"])
        (serverAfter threeMembers) (.announcePeerOnline "client-0001") ∧
      ¬ RoundCompletes (fun id => if id = 1 then some "lost" else none) (fun _ => ["network"])
        (serverAfter threeMembers) 100 := by
  have short : ((serverAfter threeMembers).fanOut (fun id => if id = 1 then some "lost" else none)
      (fun _ => ["network"]) (.announcePeerOnline "client-0001")).entries.length ≠
        (((serverAfter threeMembers).due (fun _ => ["network"])
          (.announcePeerOnline "client-0001")).filter fun sent =>
            (if sent.1 = 1 then some "lost" else none).isNone).length := by
    decide +kernel
  refine ⟨fun fansOut => short (congrArg List.length fansOut), ?_⟩
  unfold RoundCompletes
  decide +kernel

end LocalNetwork
