/-
This file proves that an honest client gets in. The client has a key pair, registers under the id
that its public key gives, and signs the challenge that the server sends. The server does anything
else in between, for any other connections and clients, as long as it is not asked to register the
same client again or to verify a response for it, and the challenge does not expire.

The REGISTER passes the checks of the server, the challenge survives the way to the client and back
in hexadecimal, the key and the pending challenge are still those of the registration when the
response arrives, and the response is verified.
-/

import LocalNetwork.Correlation
import LocalNetwork.Gating
import LocalNetwork.Identity

namespace LocalNetwork

/-! ### The client -/

namespace KeyPackage

variable (keys : KeyPackage)

/-- The text of a public key: `decode("ascii")` of its PEM form. -/
def publicKeyText (publicKey : keys.PublicKey) : String :=
  String.ofList ((keys.publicPem publicKey).map fun byte => Char.ofNat byte.toNat)

/-- `sign_challenge` on a challenge in hexadecimal, as `authenticate` calls it; both may raise. -/
def signChallenge (key : keys.PrivateKey) (challengeHex : String) : Option String :=
  (unhexlify challengeHex).bind fun challenge =>
    if challenge = [] then none else some (hexlify (keys.sign key challenge))

/-- The server's package loads the text of a public key, and what the private key signed is valid
under it; the text begins as PEM texts of public keys do, and no signature and no digest is too
short. -/
structure VerifiedBy (scheme : SignatureScheme) : Prop where
  verifies : ∀ key, ∃ loaded,
    scheme.loadPemPublicKey (keys.publicKeyText (keys.publicKey key)) = .rsa loaded ∧
      ∀ challenge, scheme.verify loaded (keys.sign key challenge) challenge = .valid
  begins : ∀ publicKey, matchesPem (keys.publicKeyText publicKey) = true
  signs : ∀ key challenge, challenge ≠ [] → keys.sign key challenge ≠ []
  digests : ∀ pem, 16 ≤ (keys.sha256 pem).length

end KeyPackage

/-! ### Hexadecimal text -/

theorem nibble_hexDigit {nibble : Nat} (small : nibble < 16) :
    nibble? (hexDigit nibble) = some nibble := by
  have each : ∀ digit : Fin 16, nibble? (hexDigit digit) = some digit.val := by decide
  exact each ⟨nibble, small⟩

/-- What was turned into hexadecimal text is read back from it. -/
theorem unhexlify_hexlify (bytes : Bytes) : unhexlify (hexlify bytes) = some bytes := by
  rw [unhexlify]
  induction bytes with
  | nil => rfl
  | cons byte rest inductionHypothesis =>
    have low : byte.toNat % 16 < 16 := Nat.mod_lt _ (by decide)
    have high : byte.toNat / 16 < 16 := Nat.div_lt_of_lt_mul byte.toNat_lt
    have digits : (hexlify (byte :: rest)).toList =
        hexDigit (byte.toNat / 16) :: hexDigit (byte.toNat % 16) :: (hexlify rest).toList := by
      simp [hexlify]
    rw [digits, unhexlifyChars, nibble_hexDigit high, nibble_hexDigit low, inductionHypothesis]
    simp only [Nat.div_add_mod, UInt8.ofNat_toNat]

theorem hexlify_ne_empty {bytes : Bytes} (nonempty : bytes ≠ []) : hexlify bytes ≠ "" := by
  intro empty
  have read := unhexlify_hexlify bytes
  rw [empty] at read
  exact nonempty (Option.some.inj read).symm

/-! ### Keys in the registry -/

/-- The key that a client is verified with. -/
def ClientRegistry.keyOf (registry : ClientRegistry) (clientId : String) : Option String :=
  (registry.get clientId).map ClientRecord.publicKeyPem

namespace ClientRegistry

variable {registry changed : ClientRegistry} {clientId : String}

/-- An update of one record that keeps the key keeps all keys. -/
theorem keyOf_update {actor : String} {update : ClientRecord → ClientRecord}
    (get : changed.get clientId =
      if clientId = actor then (registry.get clientId).map update else registry.get clientId)
    (kept : ∀ record, (update record).publicKeyPem = record.publicKeyPem) :
    changed.keyOf clientId = registry.keyOf clientId := by
  rw [keyOf, get]
  split
  · rw [Option.map_map]
    exact congrArg (fun read => (registry.get clientId).map read) (funext kept)
  · rfl

theorem keyOf_change {actor : String} (change : RegistryChange registry actor changed) :
    changed.keyOf clientId = registry.keyOf clientId := by
  cases change with
  | unchanged => rfl
  | heartbeat now => exact keyOf_update (get_heartbeat _ _ _ _) fun _ => rfl
  | addNetwork networkId => exact keyOf_update (get_addNetwork _ _ _ _) fun _ => rfl
  | removeNetwork networkId => exact keyOf_update (get_removeNetwork _ _ _ _) fun _ => rfl

theorem keyOf_unregister (actor : String) :
    (registry.unregister actor).keyOf clientId = registry.keyOf clientId :=
  keyOf_update (get_unregister _ _ _) fun _ => rfl

theorem keyOf_pruneStale (now timeout : Time) :
    (registry.pruneStale now timeout).2.keyOf clientId = registry.keyOf clientId := by
  rw [keyOf, get_pruneStale, Option.map_map, keyOf]
  refine congrArg (fun read => (registry.get clientId).map read) (funext fun record => ?_)
  rw [Function.comp_apply]
  split <;> rfl

end ClientRegistry

/-! ### A pending handshake -/

/-- A message is handed to `AuthSession.verify` for a client. -/
def Answers (packages : Packages) (clientId : String) (server : Server) (event : ServerEvent) :
    Prop :=
  ∃ id message choice connection challengeHex signatureHex,
    event = .receive id message choice ∧
      Responds packages server id message connection clientId challengeHex signatureHex

/-- A step leaves a handshake alone. The server is not asked to register the client or to verify a
response for it on any connection; the connection of the handshake says nothing and stays up, and
the challenge of that time does not expire. -/
structure LeavesHandshake (packages : Packages) (id : ConnId) (clientId : String) (issued : Time)
    (server : Server) (event : ServerEvent) : Prop where
  registers : ∀ other, ¬ Registers packages other clientId server event
  answers : ¬ Answers packages clientId server event
  silent : ∀ message choice, event ≠ .receive id message choice
  stays : ∀ choice, event ≠ .endInput id choice
  sent : ∀ choice, event = .advance id choice → choice.outcome = .sent
  unexpired : ∀ now, event = .expireTick now → now - server.auth.ttl ≤ issued

/-- A connection that sends the challenge of a client or waits for the response. -/
inductive Handshaking (clientId : String) (connection : Connection) : Prop
  | sending (challenge : ServerMessage) (unset : connection.clientId = none)
    (todo : connection.todo = [.reply challenge, .setClient (some clientId)])
  | setting (unset : connection.clientId = none)
    (todo : connection.todo = [.setClient (some clientId)])
  | waiting (registered : connection.clientId = some clientId) (todo : connection.todo = [])

/-- A handshake is under way: the challenge is pending, the key is that of the registration, and the
connection is on its way to the response. -/
structure Challenged (server : Server) (id : ConnId) (clientId publicKey : String)
    (pending : PendingAuth) : Prop where
  pending : server.auth.pending.get? clientId = some pending
  key : server.registry.keyOf clientId = some publicKey
  found : ∃ connection, server.connections.get? id = some connection ∧
    connection.phase = .reading ∧ connection.authenticated = false ∧
      Handshaking clientId connection

section

variable {packages : Packages} {server next : Server} {event : ServerEvent} {id : ConnId}
  {clientId publicKey : String} {pending : PendingAuth} {issued : Time}

/-- The connection is as it was but for its writer, and so are the challenge and the key. -/
theorem Challenged.kept (challenged : Challenged server id clientId publicKey pending)
    (pendingKept : next.auth.pending.get? clientId = server.auth.pending.get? clientId)
    (keyKept : next.registry.keyOf clientId = server.registry.keyOf clientId)
    (connections : next.connections.get? id = server.connections.get? id ∨
      next.connections.get? id = (server.connections.get? id).map fun connection =>
        { connection with closed := true }) :
    Challenged next id clientId publicKey pending := by
  refine ⟨pendingKept.trans challenged.pending, keyKept.trans challenged.key, ?_⟩
  obtain ⟨connection, found, reading, unauthenticated, stage⟩ := challenged.found
  rcases connections with same | closed
  · exact ⟨connection, same.trans found, reading, unauthenticated, stage⟩
  · refine ⟨{ connection with closed := true }, closed.trans (by rw [found]; rfl), reading,
      unauthenticated, ?_⟩
    cases stage with
    | sending challenge unset todo => exact .sending challenge unset todo
    | setting unset todo => exact .setting unset todo
    | waiting registered todo => exact .waiting registered todo

/-- A verification for another client leaves the challenge of this one. -/
theorem pending_verification {other challengeHex signatureHex : String} {now : Time}
    (different : clientId ≠ other) :
    (server.verification packages other challengeHex signatureHex now).session.pending.get?
      clientId = server.auth.pending.get? clientId := by
  have cleared : (server.auth.pending.erase other).get? clientId =
      server.auth.pending.get? clientId := Dict.get?_erase_of_ne _ different
  have verified := AuthSession.verify_cases packages.scheme server.registry server.auth other
    challengeHex signatureHex now
  unfold Server.verification
  generalize server.auth.verify packages.scheme server.registry other challengeHex signatureHex
    now = verification at verified ⊢
  cases verified with
  | requeued pending signature record compares message below =>
    exact (Dict.get?_insert_of_ne _ _ different).trans cleared
  | _ => exact cleared

/-- A challenge that is not older than the limit outlives the expiry loop. -/
theorem pending_expireStale {now : Time} (stored : server.auth.pending.get? clientId = some pending)
    (fresh : now - server.auth.ttl ≤ pending.createdAt) :
    (server.auth.expireStale now).2.pending.get? clientId = some pending := by
  simp only [AuthSession.expireStale, Dict.get?_filter, stored]
  simp [not_lt.mpr fresh]

/-- The connection of the handshake takes its next instruction. -/
theorem Challenged.advance (challenged : Challenged server id clientId publicKey pending)
    {choice : Choice} (sent : choice.outcome = .sent)
    (stepped : server.step packages (.advance id choice) = some next) :
    Challenged next id clientId publicKey pending := by
  obtain ⟨connection, found, reading, unauthenticated, stage⟩ := challenged.found
  simp only [Server.step, found, Option.bind_some] at stepped
  have moved (changed : Connection) (same : changed.phase = .reading)
      (still : changed.authenticated = false) (stage : Handshaking clientId changed)
      (set : next = server.setConnection id changed) :
      Challenged next id clientId publicKey pending := by
    subst set
    refine ⟨challenged.pending, challenged.key, changed, ?_, same, still, stage⟩
    rw [Server.get_setConnection, if_pos rfl]
  cases stage with
  | sending challenge unset todo =>
    simp only [todo, Server.takeInstr, Server.afterSend, send, sent] at stepped
    exact moved { connection with todo := [.setClient (some clientId)] } reading unauthenticated
      (.setting unset rfl) (Option.some.inj stepped).symm
  | setting unset todo =>
    simp only [todo, Server.takeInstr] at stepped
    exact moved { connection with clientId := some clientId, todo := [] } reading unauthenticated
      (.waiting rfl rfl) (Option.some.inj stepped).symm
  | waiting registered todo =>
    simp only [todo] at stepped
    cases stepped

/-- What leaves a handshake alone keeps it under way. -/
theorem Challenged.step (challenged : Challenged server id clientId publicKey pending)
    (leaves : LeavesHandshake packages id clientId pending.createdAt server event)
    (stepped : server.step packages event = some next) :
    Challenged next id clientId publicKey pending := by
  -- Another connection than that of the handshake takes the step, or none.
  by_cases own : event.actor = some id
  · cases event with
    | connect other peer =>
      obtain rfl := Option.some.inj own
      obtain ⟨connection, found, -⟩ := challenged.found
      simp only [Server.step, found] at stepped
      cases stepped
    | receive other message choice =>
      obtain rfl := Option.some.inj own
      exact absurd rfl (leaves.silent message choice)
    | endInput other choice =>
      obtain rfl := Option.some.inj own
      exact absurd rfl (leaves.stays choice)
    | advance other choice =>
      obtain rfl := Option.some.inj own
      exact challenged.advance (leaves.sent choice rfl) stepped
    | pruneTick | advancePrune | expireTick => cases own
  have elsewhere {other : ConnId} (acts : event.actor = some other) : id ≠ other :=
    fun same => own (same ▸ acts)
  have different {other : ConnId} {message : Message} {choice : Choice} {connection : Connection}
      {named challengeHex signatureHex : String} (same : event = .receive other message choice)
      (responds : Responds packages server other message connection named challengeHex
        signatureHex) : clientId ≠ named := by
    rintro rfl
    exact leaves.answers ⟨other, message, choice, connection, challengeHex, signatureHex,
      same, responds⟩
  cases step_cases stepped with
  | connect other peer fresh =>
    exact challenged.kept rfl rfl (.inl ((Server.get_setConnection _ _ _ _).trans
      (if_neg (elsewhere rfl))))
  | refuse other message choice connection instrs =>
    exact challenged.kept rfl rfl (.inl ((Server.get_withTodo _ _ _ _).trans
      (if_neg (elsewhere rfl))))
  | register other message choice connection named publicKey accepts =>
    have another : clientId ≠ named := by
      rintro rfl
      exact leaves.registers other ⟨message, choice, connection, publicKey, rfl, accepts⟩
    refine challenged.kept (Dict.get?_insert_of_ne _ _ another) ?_ ?_
    · exact congrArg (Option.map ClientRecord.publicKeyPem)
        (ClientRegistry.get_registered_of_ne _ _ _ _ another)
    · rw [Server.get_withTodo, if_neg (elsewhere rfl), Server.get_register]
      split
      · exact .inr rfl
      · exact .inl rfl
  | verify other message choice connection named challengeHex signatureHex detail responds =>
    exact challenged.kept (pending_verification (different rfl responds)) rfl
      (.inl ((Server.get_withTodo _ _ _ _).trans (if_neg (elsewhere rfl))))
  | rejectAuth other message choice connection named challengeHex signatureHex detail responds =>
    exact challenged.kept (pending_verification (different rfl responds)) rfl
      (.inl ((Server.get_withTodo _ _ _ _).trans (if_neg (elsewhere rfl))))
  | raiseAuth other message choice connection named challengeHex signatureHex exception responds =>
    exact challenged.kept (pending_verification (different rfl responds)) rfl
      (.inl ((Server.get_setConnection _ _ _ _).trans (if_neg (elsewhere rfl))))
  | dispatch other message choice connection named handled found waiting registered authenticated
      ran =>
    exact challenged.kept rfl (ClientRegistry.keyOf_change (Server.spec_handleCommand ran).registry)
      (.inl ((Server.get_withTodo _ _ _ _).trans (if_neg (elsewhere rfl))))
  | leave event other connection leaves =>
    exact challenged.kept rfl rfl (.inl ((Server.get_setConnection _ _ _ _).trans
      (if_neg (elsewhere (ServerEvent.actor_of_leaver leaves)))))
  | disconnect event other connection named order leaves =>
    exact challenged.kept rfl (ClientRegistry.keyOf_unregister named)
      (.inl ((Server.get_setConnection _ _ _ _).trans
        (if_neg (elsewhere (ServerEvent.actor_of_leaver leaves)))))
  | instr other choice connection moved instr rest =>
    exact challenged.kept rfl rfl (.inl ((Server.get_setConnection _ _ _ _).trans
      (if_neg (elsewhere rfl))))
  | deliver other choice connection named rest =>
    exact challenged.kept rfl rfl (.inl ((Server.get_setConnection _ _ _ _).trans
      (if_neg (elsewhere rfl))))
  | pruneTick now idle =>
    exact challenged.kept rfl (ClientRegistry.keyOf_pruneStale _ _) (.inl rfl)
  | pruneDisconnect choice named rest todo visited =>
    exact challenged.kept rfl (ClientRegistry.keyOf_unregister named) (.inl rfl)
  | prunePush choice push rest loop todo => exact challenged.kept rfl rfl (.inl rfl)
  | expire now =>
    refine ⟨pending_expireStale challenged.pending (leaves.unexpired now rfl),
      challenged.key, challenged.found⟩

/-! ### The registration -/

/-- The checks that the REGISTER of a client has to pass. -/
structure Admitted (server : Server) (id : ConnId) (clientId : String) (connection : Connection) :
    Prop where
  found : server.connections.get? id = some connection
  waiting : connection.Waiting
  unregistered : connection.clientId = none
  unauthenticated : connection.authenticated = false
  room : server.writers.size < server.maxClients ∨ server.writers.contains clientId = true
  allowed : server.registry.isBanned clientId = false

variable {connection : Connection} {choice : Choice}

/-- A payload with a client id and a key of the right form passes with them. -/
theorem validateRegister_of_matches (text : PyText) {payload : Dict String Json}
    (hasId : payload.get? "client_id" = some (.str clientId))
    (hasKey : payload.get? "public_key" = some (.str publicKey))
    (idMatches : matchesId clientId = true) (keyMatches : matchesPem publicKey = true) :
    validateRegister text payload = .ok (clientId, publicKey) := by
  obtain ⟨⟨named, key⟩, accepted⟩ :=
    (validateRegister_accepts_iff text hasId hasKey).mpr ⟨idMatches, keyMatches⟩
  have read := accepted
  simp only [validateRegister, except_bind_eq_ok_iff, require_eq_ok_iff, hasId, hasKey,
    Option.getD_some] at read
  obtain ⟨_, ⟨rfl, -⟩, _, ⟨rfl, -⟩, checked⟩ := read
  split at checked
  · cases checked
  · split at checked
    · cases checked
    · obtain ⟨rfl, rfl⟩ := Prod.mk.inj (Except.ok.inj checked)
      exact accepted

/-- An honest REGISTER is accepted. -/
theorem Admitted.accepts (admitted : Admitted server id clientId connection)
    (channel : ControlChannel) (named : channel.clientId = clientId)
    (idMatches : matchesId clientId = true) (keyMatches : matchesPem publicKey = true) :
    Accepts packages server id (channel.registerMessage publicKey) connection clientId
      publicKey where
  found := admitted.found
  waiting := admitted.waiting
  unregistered := admitted.unregistered
  typed := rfl
  accepted := by
    have valid : validateRegister packages.text (channel.registerMessage publicKey).payload =
        .ok (clientId, publicKey) := by
      refine validateRegister_of_matches _ ?_ ?_ idMatches keyMatches
      · simp [ControlChannel.registerMessage, Message.made, Dict.ofEntries, Dict.get?_insert, named]
      · simp [ControlChannel.registerMessage, Message.made, Dict.ofEntries, Dict.get?_insert]
    have notFull : ¬ (server.maxClients ≤ server.writers.size ∧
        !server.writers.contains clientId) := by
      rintro ⟨full, absent⟩
      rcases admitted.room with room | present
      · exact absurd full (not_le.mpr room)
      · simp [present] at absent
    unfold Server.checkRegister
    rw [valid]
    simp only [if_neg notFull, admitted.allowed]
    rfl

/-- The server after it accepted a REGISTER. -/
def Server.registered (server : Server) (id : ConnId) (connection : Connection)
    (clientId publicKey : String) (choice : Choice) : Server :=
  (server.register id connection.peer clientId publicKey choice).2.withTodo id
    [.reply (.authChallenge (createAuthChallenge clientId choice.nonce)),
      .setClient (some clientId)]

theorem step_of_accepts {message : Message}
    (accepts : Accepts packages server id message connection clientId publicKey) :
    server.step packages (.receive id message choice) =
      some (server.registered id connection clientId publicKey choice) := by
  simp only [Server.step, accepts.found, Option.bind_some, if_pos accepts.waiting, Server.receive,
    accepts.unregistered, accepts.typed, ne_eq, not_true_eq_false, if_false, Server.onRegister,
    accepts.accepted]
  rfl

theorem get_registered (found : server.connections.get? id = some connection) :
    (server.registered id connection clientId publicKey choice).connections.get? id =
      some { connection with todo := [
        .reply (.authChallenge (createAuthChallenge clientId choice.nonce)),
        .setClient (some clientId)] } :=
  Server.get_withTodo_self ((Server.get_register_self _ _ _ _ _ _).trans found) _

/-- An accepted REGISTER starts a handshake. -/
theorem challenged_registered (admitted : Admitted server id clientId connection) :
    Challenged (server.registered id connection clientId publicKey choice) id clientId publicKey
      (server.auth.newPending clientId choice.nonce choice.now) := by
  refine ⟨Dict.get?_insert_self _ _ _, ?_, _, get_registered admitted.found, admitted.waiting.1,
    admitted.unauthenticated, .sending _ admitted.unregistered rfl⟩
  have registry : (server.registered id connection clientId publicKey choice).registry =
      (((server.registry.register clientId publicKey choice.now).updateEndpoint clientId
        connection.peer).setOnline clientId choice.now).2 := rfl
  rw [registry, ClientRegistry.keyOf, ClientRegistry.get_setOnline, if_pos rfl,
    ClientRegistry.get_updateEndpoint, if_pos rfl, ClientRegistry.get_register, if_pos rfl]
  simp only [Option.map_some]
  split <;> rfl

/-! ### The response -/

/-- A response over the pending challenge is verified, and the server says so next. -/
theorem Challenged.answered (challenged : Challenged server id clientId publicKey pending)
    (settled : ∀ connection, server.connections.get? id = some connection → connection.todo = [])
    {message : Message} {challengeHex signatureHex : String} {signature : Bytes}
    (typed : message.type = "AUTH_RESPONSE")
    (wellFormed : validateAuthResponse packages.text message.payload =
      .ok (challengeHex, signatureHex))
    (hexed : unhexlify signatureHex = some signature)
    (valid : verifyAuthResponse packages.scheme publicKey pending.challenge signature = .ok true)
    (inTime : choice.now - pending.createdAt ≤ server.auth.ttl) :
    ∃ next, server.step packages (.receive id message choice) = some next ∧
      next.authenticated.get? clientId = some true ∧
      ∀ sending : Choice, sending.outcome = .sent →
        next.written (.advance id sending) = some (id, .authResult true "authenticated") := by
  obtain ⟨connection, found, reading, unauthenticated, stage⟩ := challenged.found
  have todo := settled connection found
  have registered : connection.clientId = some clientId := by
    cases stage with
    | sending challenge unset sends => cases todo.symm.trans sends
    | setting unset sets => cases todo.symm.trans sets
    | waiting registered => exact registered
  obtain ⟨record, known, rfl⟩ := Option.map_eq_some_iff.mp challenged.key
  have verified : (server.auth.verify packages.scheme server.registry clientId challengeHex
      signatureHex choice.now).result = .ok (true, "authenticated") := by
    rw [AuthSession.verify, AuthSession.consume, challenged.pending]
    simp only [if_neg (not_lt.mpr inTime), hexed, known, valid]
  have waiting : connection.Waiting := ⟨reading, todo⟩
  have stepped : server.step packages (.receive id message choice) =
      some ({ server with
        auth := (server.verification packages clientId challengeHex signatureHex
          choice.now).session
        authenticated := server.authenticated.insert clientId true }.withTodo id
          [.reply (.authResult true "authenticated"), .push (.announcePeerOnline clientId),
            .setAuthenticated true]) := by
    simp only [Server.step, found, Option.bind_some, if_pos waiting, Server.receive, registered,
      unauthenticated, typed, Server.onAuth, wellFormed, verified]
    rfl
  refine ⟨_, stepped, Dict.get?_insert_self server.authenticated clientId true, ?_⟩
  intro sending sent
  rw [Server.written, Server.get_withTodo, if_pos rfl]
  simp only [found, Option.map_some, Option.bind_some, send, sent]

/-! ### The client answers -/

theorem require_str {payload : Dict String Json} {field value : String}
    (stored : payload.get? field = some (.str value)) (nonempty : value ≠ "") :
    require payload field field = .ok (.str value) :=
  (require_eq_ok_iff _ _ _ _).mpr ⟨by rw [stored]; rfl, decide_eq_false nonempty⟩

/-- The channel of a client queues a response to a challenge, and the server reads from it the
challenge and its signature. -/
theorem respond_wellFormed (keys : KeyPackage) (key : keys.PrivateKey) (channel : ControlChannel)
    (owner : AuthOwner) (text : PyText) {reply : Message} {challenge : Bytes}
    (drawn : challenge ≠ []) (signs : keys.sign key challenge ≠ [])
    (read : reply.payload.get? "challenge" = some (.str (hexlify challenge))) :
    ∃ job, (channel.respond (keys.signChallenge key) owner reply).waiting =
        channel.waiting ++ [job] ∧
      job.message.type = "AUTH_RESPONSE" ∧
      validateAuthResponse text job.message.payload =
        .ok (hexlify challenge, hexlify (keys.sign key challenge)) := by
  have signed : keys.signChallenge key (hexlify challenge) =
      some (hexlify (keys.sign key challenge)) := by
    rw [KeyPackage.signChallenge, unhexlify_hexlify, Option.bind_some, if_neg drawn]
  have challenged : ControlChannel.challengeOf reply = some (hexlify challenge) := by
    rw [ControlChannel.challengeOf, read]
  let response : Message := .made "AUTH_RESPONSE"
    [("signature", .str (hexlify (keys.sign key challenge))),
      ("challenge", .str (hexlify challenge))]
  refine ⟨⟨.respond owner, response, "AUTH_OK", false⟩, ?_, rfl, ?_⟩
  · rw [ControlChannel.respond, challenged]
    simp only [signed, response]
  · have challengeRead := @require_str response.payload "challenge" (hexlify challenge)
      (by simp [response, Message.made, Dict.ofEntries]) (hexlify_ne_empty drawn)
    have signatureRead := @require_str response.payload "signature"
      (hexlify (keys.sign key challenge))
      (by simp [response, Message.made, Dict.ofEntries, Dict.get?_insert]) (hexlify_ne_empty signs)
    rw [validateAuthResponse, challengeRead, signatureRead]
    rfl

end

/-! ### Every run -/

/-- A client whose id is that of its public key, on a connection that waits for a REGISTER, is sent
a challenge if the server has room for it and has not banned it. Whatever else happens before the
response, so long as it leaves the handshake alone, the response that the channel of the client
queues is verified if it is read in time, and the server says so next. -/
theorem honest_client_signs_on (keys : KeyPackage) (packages : Packages)
    (honest : keys.VerifiedBy packages.scheme) (key : keys.PrivateKey) (channel : ControlChannel)
    (named : channel.clientId = keys.clientIdForPublicKey (keys.publicKey key)) (server : Server)
    (id : ConnId) (connection : Connection)
    (admitted : Admitted server id channel.clientId connection) (choice : Choice)
    (drawn : choice.nonce ≠ []) :
    ∃ registered,
      server.step packages (.receive id
        (channel.registerMessage (keys.publicKeyText (keys.publicKey key))) choice) =
          some registered ∧
      (∀ sending : Choice, sending.outcome = .sent → registered.written (.advance id sending) =
        some (id, .authChallenge (createAuthChallenge channel.clientId choice.nonce))) ∧
      ∀ events current,
        HoldsAlong (Server.step packages) (LeavesHandshake packages id channel.clientId choice.now)
          registered events →
        runFrom (Server.step packages) registered events = some current →
        (∀ waiting, current.connections.get? id = some waiting → waiting.todo = []) →
        ∀ (reply : Message) (owner : AuthOwner) (later : Choice),
          reply.payload.get? "challenge" = some (.str
            (createAuthChallenge channel.clientId choice.nonce).challenge) →
          later.now - choice.now ≤ current.auth.ttl →
          ∃ job next, (channel.respond (keys.signChallenge key) owner reply).waiting =
              channel.waiting ++ [job] ∧
            current.step packages (.receive id job.message later) = some next ∧
            next.authenticated.get? channel.clientId = some true ∧
            ∀ sending : Choice, sending.outcome = .sent →
              next.written (.advance id sending) = some (id, .authResult true "authenticated") := by
  have idMatches : matchesId channel.clientId = true :=
    named ▸ KeyPackage.matchesId_clientIdForPublicKey (honest.digests _)
  have accepts : Accepts packages server id
      (channel.registerMessage (keys.publicKeyText (keys.publicKey key))) connection
      channel.clientId (keys.publicKeyText (keys.publicKey key)) :=
    admitted.accepts channel rfl idMatches (honest.begins _)
  refine ⟨_, step_of_accepts accepts, fun sending sent => ?_, ?_⟩
  · rw [Server.written, get_registered admitted.found]
    simp only [Option.bind_some, send, sent]
  intro events current leaves ran settled reply owner later read inTime
  have challenged := run_invariant
    (fun _ _ _ leaves challenged stepped => Challenged.step challenged leaves stepped)
    (challenged_registered admitted) leaves ran
  obtain ⟨job, queued, typed, wellFormed⟩ := respond_wellFormed keys key channel owner packages.text
    drawn (honest.signs key choice.nonce drawn) read
  obtain ⟨loaded, loads, valid⟩ := honest.verifies key
  have verified : verifyAuthResponse packages.scheme (keys.publicKeyText (keys.publicKey key))
      choice.nonce (keys.sign key choice.nonce) = .ok true := by
    rw [verifyAuthResponse, loads]
    simp only [valid]
  obtain ⟨next, stepped, authenticated, answered⟩ := challenged.answered settled typed wellFormed
    (unhexlify_hexlify _) verified inTime
  exact ⟨job, next, queued, stepped, authenticated, answered⟩

/-! ### A client that gets in -/

/-- One key, whose text is that of the examples and whose signatures are the challenges. -/
def plainKeys : KeyPackage where
  PrivateKey := Unit
  PublicKey := Unit
  publicKey := id
  privatePem _ := []
  publicPem _ := exampleKey.toList.map fun char => UInt8.ofNat char.toNat
  loadPemPrivateKey _ := .rsa ()
  loadPemPublicKey _ := .rsa ()
  sign _ challenge := challenge
  sha256 _ := List.replicate 32 0

theorem plainKeys_verifiedBy : plainKeys.VerifiedBy plainPackages.scheme where
  verifies _ := ⟨(), rfl, fun _ => if_pos rfl⟩
  begins publicKey := by
    cases publicKey
    decide +kernel
  signs _ _ drawn := drawn
  digests _ := Nat.le_of_ble_eq_true rfl

/-- The channel of the client with this key. -/
def plainChannel : ControlChannel := .init (plainKeys.clientIdForPublicKey ()) 1 60

/-- What happens between the connection of the client and the response, with another connection. -/
def handshake : List ServerEvent :=
  [.receive 0 (plainChannel.registerMessage (plainKeys.publicKeyText ())) (calm []),
    .advance 0 (calm []), .connect 1 ("10.0.0.2", 2), .advance 0 (calm [])]

theorem honest_client_signs_on_example :
    ∃ job next, (plainChannel.respond (plainKeys.signChallenge ()) .user
        ⟨"AUTH_CHALLENGE", payloadOf [("challenge", "07")]⟩).waiting =
        plainChannel.waiting ++ [job] ∧
      (serverAfter (.connect 0 ("10.0.0.1", 1) :: handshake)).step plainPackages
        (.receive 0 job.message (calm [])) = some next ∧
      next.authenticated.get? plainChannel.clientId = some true := by
  have admitted : Admitted (serverAfter [.connect 0 ("10.0.0.1", 1)]) 0 plainChannel.clientId
      ⟨("10.0.0.1", 1), none, false, .reading, false, []⟩ :=
    ⟨rfl, ⟨rfl, rfl⟩, rfl, rfl, .inl (by decide), rfl⟩
  obtain ⟨registered, stepped, -, rest⟩ := honest_client_signs_on plainKeys plainPackages
    plainKeys_verifiedBy () plainChannel rfl _ 0 _ admitted (calm []) (by decide)
  have ran : runFrom (Server.step plainPackages) exampleServer
      (.connect 0 ("10.0.0.1", 1) :: handshake) =
        some (serverAfter (.connect 0 ("10.0.0.1", 1) :: handshake)) :=
    runFrom_serverAfter (by decide +kernel)
  obtain ⟨connected, opened, ran⟩ := runFrom_cons.mp ran
  obtain rfl : serverAfter [.connect 0 ("10.0.0.1", 1)] = connected :=
    Option.some.inj opened
  obtain ⟨same, read, ran⟩ := runFrom_cons.mp ran
  obtain rfl : registered = same := Option.some.inj (stepped.symm.trans read)
  have settled : ((serverAfter (.connect 0 ("10.0.0.1", 1) :: handshake)).connections.get?
      0).all (fun connection => connection.todo.isEmpty) = true := by decide +kernel
  have leaves : HoldsAlong (Server.step plainPackages)
      (LeavesHandshake plainPackages 0 plainChannel.clientId (calm []).now) registered
      [.advance 0 (calm []), .connect 1 ("10.0.0.2", 2), .advance 0 (calm [])] := by
    refine holdsAlong_of_forall (fun event member state => ?_) _
    simp only [List.mem_cons, List.mem_nil_iff, or_false] at member
    rcases member with rfl | rfl | rfl
    all_goals
      constructor
      · rintro _ ⟨_, _, _, _, same, -⟩
        cases same
      · rintro ⟨_, _, _, _, _, _, same, -⟩
        cases same
      · exact nofun
      · exact nofun
      · intro choice same
        cases same <;> rfl
      · exact nofun
  obtain ⟨job, next, queued, answered, authenticated, -⟩ := rest _ _ leaves ran
    (fun waiting found => by
      rw [found] at settled
      exact List.isEmpty_iff.mp settled)
    ⟨"AUTH_CHALLENGE", payloadOf [("challenge", "07")]⟩ .user (calm []) rfl
    (by decide +kernel)
  exact ⟨job, next, queued, answered, authenticated⟩

end LocalNetwork
