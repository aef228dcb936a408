/-
This file models `server/auth.py`: challenges that are issued to a client, wait for one
signed response, expire, and are re-queued a bounded number of times after a wrong
signature.

Loading a public key and checking a signature belong to the `cryptography` package and
are parameters, with the exceptions the source handles and those it lets through. A
pending challenge carries the identity of its Python object: re-queueing stores the same
object again, and two challenges with equal bytes are still different objects.
-/

import LocalNetwork.Registry

namespace LocalNetwork

/-! ### Hexadecimal text -/

def hexDigit (nibble : Nat) : Char :=
  (['0', '1', '2', '3', '4', '5', '6', '7', '8', '9', 'a', 'b', 'c', 'd', 'e', 'f'].getD nibble '0')

def hexlify (bytes : Bytes) : String :=
  String.ofList (bytes.flatMap fun byte => [hexDigit (byte.toNat / 16), hexDigit (byte.toNat % 16)])

def nibble? (char : Char) : Option Nat :=
  if '0' ≤ char ∧ char ≤ '9' then some (char.toNat - '0'.toNat)
  else if 'a' ≤ char ∧ char ≤ 'f' then some (char.toNat - 'a'.toNat + 10)
  else if 'A' ≤ char ∧ char ≤ 'F' then some (char.toNat - 'A'.toNat + 10)
  else none

def unhexlifyChars : List Char → Option Bytes
  | [] => some []
  | [_] => none
  | high :: low :: rest =>
    match nibble? high, nibble? low, unhexlifyChars rest with
    | some high, some low, some bytes => some (UInt8.ofNat (16 * high + low) :: bytes)
    | _, _, _ => none

/-- `binascii.unhexlify` on a string; both of its exceptions are handled alike. -/
def unhexlify (text : String) : Option Bytes := unhexlifyChars text.toList

/-! ### Signatures -/

/-- What loading a PEM key gives: an RSA key, a key of another kind, an exception that the source
turns into a refusal, or one that it lets through. -/
inductive LoadedKey (Key : Type) where
  | rsa (key : Key)
  | otherKind
  | valueError
  | unsupportedAlgorithm

/-- What checking a signature does. -/
inductive SignatureCheck where
  | valid
  | invalidSignature
  | valueError
  deriving DecidableEq, Repr

structure SignatureScheme where
  Key : Type
  loadPemPublicKey : (publicKeyPem : String) → LoadedKey Key
  verify : Key → (signature challenge : Bytes) → SignatureCheck

/-- The exception of the `cryptography` package that `AuthSession.verify` does not handle. -/
inductive AuthException where
  | unsupportedAlgorithm
  deriving DecidableEq, Repr

def verifyAuthResponse (scheme : SignatureScheme) (publicKeyPem : String)
    (challenge signature : Bytes) : Except AuthException Bool :=
  match scheme.loadPemPublicKey publicKeyPem with
  | .unsupportedAlgorithm => .error .unsupportedAlgorithm
  | .valueError => .ok false
  | .otherKind => .ok false
  | .rsa key =>
    match scheme.verify key signature challenge with
    | .valid => .ok true
    | .invalidSignature => .ok false
    | .valueError => .ok false

/-! ### Pending challenges -/

/-- The payload of an AUTH_CHALLENGE message. -/
structure AuthChallenge where
  challenge : String
  clientId : String
  deriving DecidableEq, Repr

def createAuthChallenge (clientId : String) (nonce : Bytes) : AuthChallenge :=
  ⟨hexlify nonce, clientId⟩

/-- A challenge awaiting its signed response; `identity` is the identity of the object. -/
structure PendingAuth where
  identity : Nat
  clientId : String
  challenge : Bytes
  createdAt : Time
  attempts : Nat
  deriving DecidableEq, Repr

/-- The pending challenges with the limits on them; `created` counts the objects made. -/
structure AuthSession where
  ttl : Time
  maxAttempts : Int
  pending : Dict String PendingAuth
  created : Nat

namespace AuthSession

def init (ttl : Time) (maxAttempts : Int) : AuthSession := ⟨ttl, maxAttempts, Dict.empty, 0⟩

/-- The object `issue` makes. -/
def newPending (session : AuthSession) (clientId : String) (nonce : Bytes) (now : Time) :
    PendingAuth :=
  ⟨session.created, clientId, nonce, now, 0⟩

/-- Issue a fresh challenge for a client, replacing any pending one. -/
def issue (session : AuthSession) (clientId : String) (nonce : Bytes) (now : Time) :
    AuthChallenge × AuthSession :=
  (createAuthChallenge clientId nonce,
    { session with
      pending := session.pending.insert clientId (session.newPending clientId nonce now)
      created := session.created + 1 })

/-- Fetch and clear the pending challenge for a client; an expired one is cleared only. -/
def consume (session : AuthSession) (clientId : String) (now : Time) :
    Option PendingAuth × AuthSession :=
  let popped := { session with pending := session.pending.erase clientId }
  match session.pending.get? clientId with
  | none => (none, popped)
  | some pending =>
    if now - pending.createdAt > session.ttl then (none, popped) else (some pending, popped)

/-- What a call of `verify` did: its result or the exception it let through, the session it left,
and the pending challenge it handed to `verify_auth_response`, if it came that far. -/
structure Verification where
  result : Except AuthException (Bool × String)
  session : AuthSession
  compared : Option PendingAuth

/-- A response that was compared and found wrong: the challenge is dropped at the limit and
re-queued below it. -/
def reject (session : AuthSession) (clientId : String) (pending : PendingAuth) :
    Bool × String × AuthSession :=
  let counted := { pending with attempts := pending.attempts + 1 }
  if session.maxAttempts ≤ counted.attempts then
    (false, "auth failed; too many attempts", session)
  else
    (false, "signature verification failed",
      { session with pending := session.pending.insert clientId counted })

/-- Verify a challenge response. The challenge that the client sends back is not read. -/
def verify (scheme : SignatureScheme) (registry : ClientRegistry) (session : AuthSession)
    (clientId _challengeHex signatureHex : String) (now : Time) : Verification :=
  let (consumed, popped) := session.consume clientId now
  match consumed with
  | none => ⟨.ok (false, "no pending challenge (expired or not issued)"), popped, none⟩
  | some pending =>
    match unhexlify signatureHex with
    | none => ⟨.ok (false, "malformed signature"), popped, none⟩
    | some signature =>
      match registry.get clientId with
      | none => ⟨.ok (false, "unknown client"), popped, none⟩
      | some record =>
        match verifyAuthResponse scheme record.publicKeyPem pending.challenge signature with
        | .error exception => ⟨.error exception, popped, some pending⟩
        | .ok true => ⟨.ok (true, "authenticated"), popped, some pending⟩
        | .ok false =>
          let (ok, message, left) := popped.reject clientId pending
          ⟨.ok (ok, message), left, some pending⟩

/-- Drop challenges older than the limit; the dropped client ids are returned. -/
def expireStale (session : AuthSession) (now : Time) : List String × AuthSession :=
  let cutoff := now - session.ttl
  ((session.pending.entries.filter fun entry => decide (entry.2.createdAt < cutoff)).map Prod.fst,
    { session with
      pending := session.pending.filter fun _ pending => !decide (pending.createdAt < cutoff) })

def pendingCount (session : AuthSession) : Nat := session.pending.size

/-! ### What a verification can do -/

/-- The session without the entry of a client. -/
def cleared (session : AuthSession) (clientId : String) : AuthSession :=
  { session with pending := session.pending.erase clientId }

/-- A call of `verify` gets as far as the signature: the client's challenge is pending and not
expired, the signature is hexadecimal, and the client is known. -/
structure Compares (registry : ClientRegistry) (session : AuthSession)
    (clientId signatureHex : String) (now : Time) (pending : PendingAuth) (signature : Bytes)
    (record : ClientRecord) : Prop where
  stored : session.pending.get? clientId = some pending
  unexpired : now - pending.createdAt ≤ session.ttl
  hexed : unhexlify signatureHex = some signature
  known : registry.get clientId = some record

/-- Everything a call of `verify` can do. -/
inductive VerifyCase (scheme : SignatureScheme) (registry : ClientRegistry)
    (session : AuthSession) (clientId signatureHex : String) (now : Time) : Verification → Prop
  | uncompared (message : String) :
    VerifyCase scheme registry session clientId signatureHex now
      ⟨.ok (false, message), session.cleared clientId, none⟩
  | accepted (pending : PendingAuth) (signature : Bytes) (record : ClientRecord)
    (compares : Compares registry session clientId signatureHex now pending signature record)
    (valid : verifyAuthResponse scheme record.publicKeyPem pending.challenge signature = .ok true) :
    VerifyCase scheme registry session clientId signatureHex now
      ⟨.ok (true, "authenticated"), session.cleared clientId, some pending⟩
  | raised (pending : PendingAuth) (signature : Bytes) (record : ClientRecord)
    (compares : Compares registry session clientId signatureHex now pending signature record)
    (exception : AuthException) :
    VerifyCase scheme registry session clientId signatureHex now
      ⟨.error exception, session.cleared clientId, some pending⟩
  | exhausted (pending : PendingAuth) (signature : Bytes) (record : ClientRecord)
    (compares : Compares registry session clientId signatureHex now pending signature record)
    (message : String) :
    VerifyCase scheme registry session clientId signatureHex now
      ⟨.ok (false, message), session.cleared clientId, some pending⟩
  | requeued (pending : PendingAuth) (signature : Bytes) (record : ClientRecord)
    (compares : Compares registry session clientId signatureHex now pending signature record)
    (message : String) (below : (pending.attempts + 1 : Nat) < session.maxAttempts) :
    VerifyCase scheme registry session clientId signatureHex now
      ⟨.ok (false, message),
        { session with
          pending := (session.pending.erase clientId).insert clientId
            { pending with attempts := pending.attempts + 1 } },
        some pending⟩

theorem verify_cases (scheme : SignatureScheme) (registry : ClientRegistry)
    (session : AuthSession) (clientId challengeHex signatureHex : String) (now : Time) :
    VerifyCase scheme registry session clientId signatureHex now
      (session.verify scheme registry clientId challengeHex signatureHex now) := by
  cases stored : session.pending.get? clientId with
  | none =>
    rw [verify, consume, stored]
    exact .uncompared _
  | some pending =>
    by_cases expired : now - pending.createdAt > session.ttl
    · rw [verify, consume, stored]
      simp only [if_pos expired]
      exact .uncompared _
    cases hexed : unhexlify signatureHex with
    | none =>
      rw [verify, consume, stored]
      simp only [if_neg expired, hexed]
      exact .uncompared _
    | some signature =>
      cases known : registry.get clientId with
      | none =>
        rw [verify, consume, stored]
        simp only [if_neg expired, hexed, known]
        exact .uncompared _
      | some record =>
        have compares : Compares registry session clientId signatureHex now pending signature
          record := ⟨stored, not_lt.mp expired, hexed, known⟩
        rw [verify, consume, stored]
        simp only [if_neg expired, hexed, known]
        cases checked : verifyAuthResponse scheme record.publicKeyPem pending.challenge
          signature with
        | error exception => exact .raised pending signature record compares exception
        | ok valid =>
          cases valid with
          | true => exact .accepted pending signature record compares checked
          | false =>
            simp only [reject]
            by_cases last : session.maxAttempts ≤ (pending.attempts + 1 : Nat)
            · simp only [if_pos last]
              exact .exhausted pending signature record compares _
            · simp only [if_neg last]
              exact .requeued pending signature record compares _ (not_le.mp last)

/-- No verification changes the limits. -/
theorem VerifyCase.limits {scheme : SignatureScheme} {registry : ClientRegistry}
    {session : AuthSession} {clientId signatureHex : String} {now : Time} {done : Verification}
    (outcome : VerifyCase scheme registry session clientId signatureHex now done) :
    done.session.ttl = session.ttl ∧ done.session.maxAttempts = session.maxAttempts := by
  cases outcome <;> exact ⟨rfl, rfl⟩

/-- A verification succeeds only for a pending, unexpired challenge, with a signature that is valid
under the key the client has at that moment. -/
theorem VerifyCase.success {scheme : SignatureScheme} {registry : ClientRegistry}
    {session : AuthSession} {clientId signatureHex detail : String} {now : Time}
    {done : Verification}
    (outcome : VerifyCase scheme registry session clientId signatureHex now done)
    (succeeded : done.result = .ok (true, detail)) :
    ∃ pending signature record,
      Compares registry session clientId signatureHex now pending signature record ∧
      verifyAuthResponse scheme record.publicKeyPem pending.challenge signature = .ok true := by
  cases outcome with
  | uncompared message => cases succeeded
  | accepted pending signature record compares valid =>
    exact ⟨pending, signature, record, compares, valid⟩
  | raised pending signature record compares exception => cases succeeded
  | exhausted pending signature record compares message => cases succeeded
  | requeued pending signature record compares message below => cases succeeded

/-- What holds of every pending challenge whatever its count of attempts still holds after a
verification. -/
theorem VerifyCase.pending_all {scheme : SignatureScheme} {registry : ClientRegistry}
    {session : AuthSession} {clientId signatureHex : String} {now : Time} {done : Verification}
    (outcome : VerifyCase scheme registry session clientId signatureHex now done)
    {property : String → PendingAuth → Prop} (all : session.pending.All property)
    (kept : ∀ client pending attempts, property client pending →
      property client { pending with attempts := attempts }) :
    done.session.pending.All property := by
  cases outcome with
  | uncompared message => exact all.erase clientId
  | accepted pending signature record compares valid => exact all.erase clientId
  | raised pending signature record compares exception => exact all.erase clientId
  | exhausted pending signature record compares message => exact all.erase clientId
  | requeued pending signature record compares message below =>
    exact (all.erase clientId).insert (kept _ _ _ (all _ _ compares.stored))

end AuthSession

end LocalNetwork
