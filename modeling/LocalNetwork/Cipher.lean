/-
This file models `client/encryption.py`: X25519 key agreement followed by HKDF, and the
AES-256-GCM context of one tunnel. The primitives come from a library outside the
repository, so they are parameters; what the code relies on is stated as a named
property of the parameter and assumed only where it is used.
-/

import LocalNetwork.Basic

namespace LocalNetwork

def sessionKeyLength : Nat := 32
def nonceLength : Nat := 12
def tagLength : Nat := 16

/-- The HKDF info string, `localnetwork-tunnel-v1`. -/
def hkdfInfo : Bytes := "localnetwork-tunnel-v1".toUTF8.toList

/-- What the encryption module raises. `decryptionError` is a subclass of `encryptionError`;
`valueError` is what the X25519 exchange raises on an all-zero shared secret. -/
inductive EncryptionException where
  | encryptionError (text : String)
  | decryptionError (text : String)
  | valueError
  deriving DecidableEq, Repr

/-! ### Key agreement -/

/-- The key-agreement primitives: the raw public key of a private key, the X25519 exchange,
which refuses a public key that leads to an all-zero secret, and HKDF-SHA256. -/
structure KeyAgreement where
  publicBytes : (privateKey : Bytes) → Bytes
  exchange : (privateKey peerPublic : Bytes) → Option Bytes
  hkdf : (shared info : Bytes) → Bytes

/-- The two facts about X25519 the tunnels rely on: a raw public key has 32 bytes, and the
two ends of an exchange compute one secret. -/
structure KeyAgreement.Agrees (agreement : KeyAgreement) : Prop where
  publicBytes_length : ∀ privateKey, (agreement.publicBytes privateKey).length = 32
  exchange_comm : ∀ first second,
    agreement.exchange first (agreement.publicBytes second) =
      agreement.exchange second (agreement.publicBytes first)

/-- Deserialize a raw public key; anything but 32 bytes is refused. -/
def ecdhPublicFromBytes (data : Bytes) : Except EncryptionException Bytes :=
  if data.length ≠ 32 then
    .error (.encryptionError s!"X25519 public key must be 32 bytes, got {data.length}")
  else .ok data

def deriveSessionKey (agreement : KeyAgreement) (ourPrivate peerPublic context : Bytes) :
    Except EncryptionException Bytes :=
  match agreement.exchange ourPrivate peerPublic with
  | none => .error .valueError
  | some shared => .ok (agreement.hkdf shared context)

def deriveSessionKeyFromBytes (agreement : KeyAgreement)
    (ourPrivate peerPublicBytes : Bytes) : Except EncryptionException Bytes := do
  let peerPublic ← ecdhPublicFromBytes peerPublicBytes
  deriveSessionKey agreement ourPrivate peerPublic hkdfInfo

/-- Each end deriving from the other's genuine public key gives one session key. -/
theorem deriveSessionKeyFromBytes_comm (agreement : KeyAgreement) (agrees : agreement.Agrees)
    (first second : Bytes) :
    deriveSessionKeyFromBytes agreement first (agreement.publicBytes second) =
      deriveSessionKeyFromBytes agreement second (agreement.publicBytes first) := by
  have accepted (privateKey : Bytes) :
      ecdhPublicFromBytes (agreement.publicBytes privateKey) =
        .ok (agreement.publicBytes privateKey) := by
    rw [ecdhPublicFromBytes, if_neg (not_not.mpr (agrees.publicBytes_length privateKey))]
  unfold deriveSessionKeyFromBytes deriveSessionKey
  rw [accepted first, accepted second]
  show (match agreement.exchange first (agreement.publicBytes second) with
    | none => Except.error EncryptionException.valueError
    | some shared => Except.ok (agreement.hkdf shared hkdfInfo)) = _
  rw [agrees.exchange_comm first second]
  rfl

/-! ### The cipher context -/

/-- The AES-GCM primitive: sealing, and opening, which fails on a bad tag. -/
structure AesGcm where
  encrypt : (key nonce plaintext associatedData : Bytes) → Bytes
  decrypt : (key nonce sealed associatedData : Bytes) → Option Bytes

/-- The two facts about AES-GCM a round trip relies on: opening inverts sealing, and the
sealed text is the ciphertext, as long as the plaintext, followed by a 16-byte tag. -/
structure AesGcm.Inverts (aead : AesGcm) : Prop where
  decrypt_encrypt : ∀ key nonce plaintext associatedData,
    key.length = sessionKeyLength → nonce.length = nonceLength →
      aead.decrypt key nonce (aead.encrypt key nonce plaintext associatedData) associatedData =
        some plaintext
  encrypt_length : ∀ key nonce plaintext associatedData,
    key.length = sessionKeyLength → nonce.length = nonceLength →
      (aead.encrypt key nonce plaintext associatedData).length = plaintext.length + tagLength

/-- A random nonce: any string of twelve bytes. -/
structure Nonce where
  bytes : Bytes
  length_eq : bytes.length = nonceLength
  deriving DecidableEq

/-- The cipher of one tunnel session. The constructor accepts keys of 32 bytes only. -/
structure CipherContext where
  sessionKey : Bytes
  length_eq : sessionKey.length = sessionKeyLength
  deriving DecidableEq

def CipherContext.init (sessionKey : Bytes) : Except EncryptionException CipherContext :=
  if fits : sessionKey.length = sessionKeyLength then .ok ⟨sessionKey, fits⟩
  else
    .error (.encryptionError
      s!"session key must be {sessionKeyLength} bytes, got {sessionKey.length}")

/-- Encrypt a packet under a fresh nonce: the nonce goes in front of the ciphertext, the tag
is cut off the end. -/
def CipherContext.encrypt (cipher : CipherContext) (aead : AesGcm) (nonce : Nonce)
    (plaintext associatedData : Bytes) : Bytes × Bytes :=
  let sealedText := aead.encrypt cipher.sessionKey nonce.bytes plaintext associatedData
  let ciphertext := sealedText.take (sealedText.length - tagLength)
  let tag := sealedText.drop (sealedText.length - tagLength)
  (nonce.bytes ++ ciphertext, tag)

def CipherContext.decrypt (cipher : CipherContext) (aead : AesGcm)
    (ciphertext tag associatedData : Bytes) : Except EncryptionException Bytes :=
  if ciphertext.length < nonceLength then
    .error (.decryptionError "ciphertext too short to contain a nonce")
  else
    let nonce := ciphertext.take nonceLength
    let body := ciphertext.drop nonceLength
    match aead.decrypt cipher.sessionKey nonce (body ++ tag) associatedData with
    | some plaintext => .ok plaintext
    | none => .error (.decryptionError "GCM authentication failed")

theorem CipherContext.init_sessionKey {sessionKey : Bytes} {cipher : CipherContext}
    (built : CipherContext.init sessionKey = .ok cipher) : cipher.sessionKey = sessionKey := by
  unfold CipherContext.init at built
  split at built
  · rw [← Except.ok.inj built]
  · cases built

theorem CipherContext.encrypt_tag_length (cipher : CipherContext) (aead : AesGcm)
    (inverts : aead.Inverts) (nonce : Nonce) (plaintext associatedData : Bytes) :
    (cipher.encrypt aead nonce plaintext associatedData).2.length = tagLength := by
  have sealedLength := inverts.encrypt_length cipher.sessionKey nonce.bytes plaintext
    associatedData cipher.length_eq nonce.length_eq
  simp only [CipherContext.encrypt, List.length_drop]
  omega

theorem CipherContext.encrypt_ciphertext_length (cipher : CipherContext) (aead : AesGcm)
    (inverts : aead.Inverts) (nonce : Nonce) (plaintext associatedData : Bytes) :
    (cipher.encrypt aead nonce plaintext associatedData).1.length =
      plaintext.length + nonceLength := by
  have sealedLength := inverts.encrypt_length cipher.sessionKey nonce.bytes plaintext
    associatedData cipher.length_eq nonce.length_eq
  simp only [CipherContext.encrypt, List.length_append, List.length_take, nonce.length_eq]
  omega

/-- Decrypting what a context with the same key encrypted gives the packet back: the nonce is
cut off where it was put, and the tag is attached where it was cut. -/
theorem CipherContext.decrypt_encrypt (sender receiver : CipherContext) (aead : AesGcm)
    (inverts : aead.Inverts) (sameKey : sender.sessionKey = receiver.sessionKey) (nonce : Nonce)
    (plaintext associatedData : Bytes) :
    receiver.decrypt aead (sender.encrypt aead nonce plaintext associatedData).1
      (sender.encrypt aead nonce plaintext associatedData).2 associatedData = .ok plaintext := by
  have long : ¬ (sender.encrypt aead nonce plaintext associatedData).1.length < nonceLength := by
    rw [CipherContext.encrypt_ciphertext_length sender aead inverts]
    omega
  have nonceCut : (sender.encrypt aead nonce plaintext associatedData).1.take nonceLength =
      nonce.bytes := by
    rw [← nonce.length_eq]
    exact List.take_left
  have bodyCut : (sender.encrypt aead nonce plaintext associatedData).1.drop nonceLength ++
      (sender.encrypt aead nonce plaintext associatedData).2 =
      aead.encrypt sender.sessionKey nonce.bytes plaintext associatedData := by
    rw [← nonce.length_eq]
    simp only [CipherContext.encrypt, List.drop_left, List.take_append_drop]
  unfold CipherContext.decrypt
  simp only
  rw [if_neg long, nonceCut, bodyCut, sameKey,
    inverts.decrypt_encrypt _ _ _ _ receiver.length_eq nonce.length_eq]

end LocalNetwork
