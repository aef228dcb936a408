/-
This file proves that members of a network have shown its password. It relates the members
of each network to the history of the run: a client is a member because a CREATE_NETWORK
dispatched for it made the network, or because a JOIN_NETWORK dispatched for it named the
network, by its id or by an invite code that led to it then, with a password that the hash
of the network accepted while the network was not banned.

The argument runs from any state in which the client is not a member, so that it also says
what a client needs that has left: it is admitted again. Networks are never removed in a
run, so with fresh ids for new networks only a JOIN_NETWORK can do that.
-/

import LocalNetwork.Handling

namespace LocalNetwork

variable (packages : Packages) (clientId networkId : String)

/-- A CREATE_NETWORK dispatched for the client makes the network, with the hash of the password it
gives. -/
def Creates (server : Server) (event : ServerEvent) : Prop :=
  ∃ id message choice connection name password topology passwordHash,
    event = .receive id message choice ∧ Ready server id clientId connection ∧
    message.type = "CREATE_NETWORK" ∧
    validateCreateNetwork packages.text message.payload = .ok (name, password, topology) ∧
    packages.bcrypt.hashpw password choice.salt = .ok passwordHash ∧ choice.uuid = networkId

/-- A JOIN_NETWORK dispatched for the client names the network, by its id or by an invite code,
with a password that its hash accepts, and the network is not banned. -/
def Joins (server : Server) (event : ServerEvent) : Prop :=
  ∃ id message choice connection networkIdOrCode password record,
    event = .receive id message choice ∧ Ready server id clientId connection ∧
    message.type = "JOIN_NETWORK" ∧
    validateJoinNetwork packages.text message.payload = .ok (networkIdOrCode, password) ∧
    (networkIdOrCode = networkId ∨
      server.networks.inviteCodes.get? networkIdOrCode = some networkId) ∧
    server.networks.get networkId = some record ∧
    server.networks.isBanned networkId = false ∧
    packages.bcrypt.checkpw password record.passwordHash = some true

/-- A CREATE_NETWORK draws the id of no network that exists. -/
def DrawsFreshId (server : Server) : ServerEvent → Prop
  | .receive _ message choice =>
    message.type = "CREATE_NETWORK" → server.networks.networks.contains choice.uuid = false
  | _ => True

instance (server : Server) (event : ServerEvent) : Decidable (DrawsFreshId server event) := by
  unfold DrawsFreshId
  split <;> infer_instance

variable {packages clientId networkId} {start server next : Server} {event : ServerEvent}
  {id : ConnId} {past : List ServerEvent}

/-! ### One step -/

theorem passwordOk_iff {bcrypt : Bcrypt} {password : String} {hash : Bytes} :
    NetworkManager.passwordOk bcrypt password hash = true ↔
      bcrypt.checkpw password hash = some true := by
  unfold NetworkManager.passwordOk
  split
  · rename_i raised
    simp [raised]
  · rename_i accepted answered
    simp [answered]

/-- A command makes only its own client a member, and only as a creation or a join. -/
theorem admits_command {commander : String} {message : Message} {choice : Choice}
    {connection : Connection} {handled : Handled} (ready : Ready server id commander connection)
    (ran : server.handleCommand packages commander message choice = some handled)
    (member : clientId ∈ handled.networks.members networkId) :
    clientId ∈ server.networks.members networkId ∨
      Creates packages clientId networkId server (.receive id message choice) ∨
      Joins packages clientId networkId server (.receive id message choice) := by
  cases Server.command_cases ran with
  | created name password topology passwordHash kind inviteCodes networkInviteCodes inviteCode typed
      valid hashed =>
    have after : clientId ∈ ({ server.networks with
        networks := server.networks.networks.insert choice.uuid
          (NetworkManager.newNetwork choice.uuid name passwordHash commander kind choice.now)
        registry := server.registry } : NetworkManager).members networkId := member
    rw [NetworkManager.members_insert] at after
    by_cases made : networkId = choice.uuid
    · rw [if_pos made] at after
      obtain rfl := Finset.mem_singleton.mp after
      exact .inr (.inl ⟨id, message, choice, connection, name, password, topology, passwordHash,
        rfl, ready, typed, valid, hashed, made.symm⟩)
    · rw [if_neg made] at after
      exact .inl after
  | joined joinedId networkIdOrCode password record typed valid named found allowed accepted =>
    replace member := (NetworkManager.members_addMember _ _ _ record found networkId) ▸ member
    by_cases joined : networkId = joinedId
    · subst joined
      rw [if_pos rfl] at member
      rcases Finset.mem_insert.mp member with rfl | before
      · exact .inr (.inr ⟨id, message, choice, connection, networkIdOrCode, password, record, rfl,
          ready, typed, valid, named, found, allowed, passwordOk_iff.mp accepted⟩)
      · exact .inl before
    · rw [if_neg joined] at member
      exact .inl member
  | left leftId record typed valid found own =>
    replace member := (NetworkManager.members_withoutMember _ _ _ _ networkId) ▸ member
    refine .inl ?_
    by_cases here : networkId = leftId
    · rw [if_pos here] at member
      exact Finset.mem_of_mem_erase member
    · rw [if_neg here] at member
      exact member
  | _ => exact .inl member

/-- Every new member is admitted in the step. -/
theorem admits_step (stepped : server.step packages event = some next)
    (member : clientId ∈ next.networks.members networkId) :
    clientId ∈ server.networks.members networkId ∨
      Creates packages clientId networkId server event ∨
      Joins packages clientId networkId server event := by
  cases step_cases stepped with
  | dispatch id message choice connection commander handled found waiting registered authenticated
      ran => exact admits_command ⟨found, waiting, registered, authenticated⟩ ran member
  | _ => exact .inl member

/-- No step removes a network. -/
theorem network_kept (stepped : server.step packages event = some next)
    (present : server.networks.networks.contains networkId = true) :
    next.networks.networks.contains networkId = true := by
  obtain ⟨record, stored⟩ := Dict.contains_iff.mp present
  cases step_cases stepped with
  | dispatch id message choice connection commander handled found waiting registered authenticated
      ran =>
    refine Dict.contains_iff.mpr ?_
    cases Server.effect_handleCommand ran with
    | quiet networks paths => exact ⟨record, networks ▸ stored⟩
    | created made type named networks paths =>
      show ∃ value, handled.networks.networks.get? networkId = some value
      rw [networks, Dict.get?_insert]
      by_cases same : networkId = choice.uuid
      · exact ⟨made, if_pos same⟩
      · exact ⟨record, (if_neg same).trans stored⟩
    | joined joinedId networks paths =>
      show ∃ value, handled.networks.networks.get? networkId = some value
      rw [networks, Dict.get?_modify, stored]
      by_cases same : networkId = joinedId
      · exact ⟨_, if_pos same⟩
      · exact ⟨_, if_neg same⟩
    | left leftId type named networks paths =>
      show ∃ value, handled.networks.networks.get? networkId = some value
      rw [networks, Dict.get?_modify, stored]
      by_cases same : networkId = leftId
      · exact ⟨_, if_pos same⟩
      · exact ⟨_, if_neg same⟩
    | granted peerId type named allowed networks paths => exact ⟨record, networks ▸ stored⟩
  | _ => exact present

/-! ### Every run -/

/-- A client that is a member of the network has been admitted in the run. -/
def AdmittedSince (packages : Packages) (start : Server) (clientId networkId : String)
    (past : List ServerEvent) (server : Server) : Prop :=
  clientId ∈ server.networks.members networkId →
    Happened (Server.step packages) start
      (fun _ state event => Creates packages clientId networkId state event ∨
        Joins packages clientId networkId state event) past

/-- From a state in which a client is not a member, it becomes one only by being admitted. -/
theorem admitted_since {events : List ServerEvent}
    (absent : clientId ∉ start.networks.members networkId)
    (ran : runFrom (Server.step packages) start events = some server) :
    AdmittedSince packages start clientId networkId events server := by
  refine history_invariant (fun past state event next ranPast _ since stepped member => ?_)
    (fun member => absurd member absent) (holdsAlong_true events start) ran
  rcases admits_step stepped member with before | now
  · exact (since before).later event
  · exact happened_now ranPast now

/-- The network exists, and a client that is a member of it has joined in the run. -/
structure JoinedSince (packages : Packages) (start : Server) (clientId networkId : String)
    (past : List ServerEvent) (server : Server) : Prop where
  present : server.networks.networks.contains networkId = true
  joined : clientId ∈ server.networks.members networkId →
    Happened (Server.step packages) start
      (fun _ => Joins packages clientId networkId) past

/-- From a state in which the network exists and the client is not a member, and with fresh ids for
new networks, it becomes one only by joining. -/
theorem joined_since {events : List ServerEvent}
    (present : start.networks.networks.contains networkId = true)
    (absent : clientId ∉ start.networks.members networkId)
    (fresh : HoldsAlong (Server.step packages) DrawsFreshId start events)
    (ran : runFrom (Server.step packages) start events = some server) :
    JoinedSince packages start clientId networkId events server := by
  refine history_invariant (fun past state event next ranPast draws since stepped => ?_)
    ⟨present, fun member => absurd member absent⟩ fresh ran
  refine ⟨network_kept stepped since.present, fun member => ?_⟩
  rcases admits_step stepped member with before | creates | joins
  · exact (since.joined before).later event
  · obtain ⟨id, message, choice, connection, name, password, topology, passwordHash, rfl, -, typed,
      -, -, rfl⟩ := creates
    cases since.present.symm.trans (draws typed)
  · exact happened_now ranPast joins

/-- In every run a member of a network created it, or joined it with a password that its hash
accepted while it was not banned; and a member that was one before and was none in between has
joined again since, when new networks get fresh ids. -/
theorem membership_requires_password (packages : Packages) (maxClients : Nat)
    (heartbeatTimeout ttl : Time) (maxAttempts : Int) (bannedNetworks : Finset String)
    (events : List ServerEvent) (server : Server)
    (ran : runFrom (Server.step packages)
      (Server.init maxClients heartbeatTimeout ttl maxAttempts bannedNetworks) events =
        some server)
    (clientId networkId : String) (member : clientId ∈ server.networks.members networkId) :
    Happened (Server.step packages)
      (Server.init maxClients heartbeatTimeout ttl maxAttempts bannedNetworks)
      (fun _ state event => Creates packages clientId networkId state event ∨
        Joins packages clientId networkId state event) events ∧
    ∀ first second third before between, events = first ++ second ++ third →
      runFrom (Server.step packages)
        (Server.init maxClients heartbeatTimeout ttl maxAttempts bannedNetworks) first =
          some before →
      clientId ∈ before.networks.members networkId →
      runFrom (Server.step packages) before second = some between →
      clientId ∉ between.networks.members networkId →
      HoldsAlong (Server.step packages) DrawsFreshId between third →
      Happened (Server.step packages) between
        (fun _ => Joins packages clientId networkId) third := by
  refine ⟨admitted_since ?_ ran member, ?_⟩
  · rw [NetworkManager.mem_members]
    rintro ⟨record, stored, -⟩
    cases stored
  · rintro first second third before between rfl ranFirst was ranSecond absent fresh
    obtain ⟨middle, ranBoth, ranThird⟩ := runFrom_append.mp ran
    have same := runFrom_append.mpr ⟨before, ranFirst, ranSecond⟩
    obtain rfl := Option.some.inj (ranBoth.symm.trans same)
    obtain ⟨record, stored, -⟩ := NetworkManager.mem_members.mp was
    have present : middle.networks.networks.contains networkId = true :=
      run_invariant (fun _ _ _ _ present stepped => network_kept stepped present)
        (Dict.contains_iff.mpr ⟨record, stored⟩) (holdsAlong_true second before) ranSecond
    exact (joined_since present absent fresh ranThird).joined member

/-- A client creates a network, a second one joins it, leaves it and joins it again. -/
def rejoined : List ServerEvent :=
  twoMembers ++ [.advance 1 (calm []), .advance 1 (calm []), .advance 1 (calm [])] ++
    [.receive 1 (leaveMessage "network") (calm []), .advance 1 (calm []), .advance 1 (calm []),
      .advance 1 (calm []), .advance 1 (calm []), .advance 1 (calm [])] ++ joinNetwork 1

theorem membership_requires_password_rejoined :
    ∃ between, runFrom (Server.step plainPackages) (serverAfter twoMembers)
        ((rejoined.drop twoMembers.length).take 4) = some between ∧
      "client-0002" ∉ between.networks.members "network" ∧
      Happened (Server.step plainPackages) between
        (fun _ => Joins plainPackages "client-0002" "network")
        ((rejoined.drop twoMembers.length).drop 4) := by
  have ran := runFrom_serverAfter
    (show (runFrom (Server.step plainPackages) exampleServer rejoined).isSome = true by
      decide +kernel)
  have ranFirst := runFrom_serverAfter
    (show (runFrom (Server.step plainPackages) exampleServer twoMembers).isSome = true by
      decide +kernel)
  have ranSecond := some_of_isSome (show (runFrom (Server.step plainPackages)
    (serverAfter twoMembers) ((rejoined.drop twoMembers.length).take 4)).isSome = true by
    decide +kernel) exampleServer
  have absent : "client-0002" ∉ ((runFrom (Server.step plainPackages) (serverAfter twoMembers)
    ((rejoined.drop twoMembers.length).take 4)).getD exampleServer).networks.members "network" := by
    decide +kernel
  refine ⟨_, ranSecond, absent, ?_⟩
  exact (membership_requires_password plainPackages 8 90 60 5 ∅ rejoined _ ran "client-0002"
    "network" (by decide +kernel)).2 twoMembers _ _ _ _ rfl ranFirst (by decide +kernel) ranSecond
    absent (by decide +kernel)

end LocalNetwork
