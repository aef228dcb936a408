/-
This file models the identity of a client, `client/identity.py`: the key pair, the two files it is
kept in, the client id that is read off the public key, and `ClientDaemon.ensure_identity`, which
loads the pair or makes one when a daemon starts. A daemon may be stopped while it saves the pair,
by a crash or by an exception of the file system, after any number of bytes of either file.

The file proves that a client has one identity. Once a start got through, every later start finds
the pair of that start, however many starts were stopped before and between. The mode of the private
key is another matter. It is set last, and only by a start that makes a key pair, so a start that is
stopped in front of it leaves a key that no later start protects.

The keys and their encoding belong to the `cryptography` package and are parameters, and so is the
digest. The texts of the exceptions are left out, since the daemon does not read them.
-/

import LocalNetwork.Auth
import LocalNetwork.RegistrationChecks
import LocalNetwork.Transition

namespace LocalNetwork

/-! ### Keys -/

/-- The packages that an identity rests on. -/
structure KeyPackage where
  PrivateKey : Type
  PublicKey : Type
  publicKey : PrivateKey → PublicKey
  privatePem : PrivateKey → Bytes
  publicPem : PublicKey → Bytes
  loadPemPrivateKey : Bytes → LoadedKey PrivateKey
  loadPemPublicKey : Bytes → LoadedKey PublicKey
  sign : PrivateKey → (challenge : Bytes) → Bytes
  sha256 : Bytes → Bytes

/-- A text that is cut short is refused, unless what it lost says nothing about the key, as the line
break at its end does. -/
def CutSafe {Key : Type} (load : Bytes → LoadedKey Key) (key : Key) (pem : Bytes) : Prop :=
  ∀ length, load (pem.take length) = .valueError ∨ load (pem.take length) = .rsa key

/-- The encoding of a key can be read back, and not when it is cut short. -/
structure KeyPackage.ReadsBack (keys : KeyPackage) : Prop where
  privateKey : ∀ key, keys.loadPemPrivateKey (keys.privatePem key) = .rsa key
  publicKey : ∀ key, keys.loadPemPublicKey (keys.publicPem key) = .rsa key
  privateCut : ∀ key, CutSafe keys.loadPemPrivateKey key (keys.privatePem key)
  publicCut : ∀ key, CutSafe keys.loadPemPublicKey key (keys.publicPem key)

/-! ### The files -/

structure KeyFile where
  content : Bytes
  mode : Nat

/-- The directory of an identity: `identity.pem` and `identity.pub`. -/
structure IdentityDir where
  privateFile : Option KeyFile
  publicFile : Option Bytes

/-- Owner read and write, `0600`. -/
def ownerOnly : Nat := 0o600

namespace IdentityDir

def empty : IdentityDir := ⟨none, none⟩

/-- A file that is written anew keeps its mode; one that is created gets a mode from the process. -/
def writePrivate (dir : IdentityDir) (newMode : Nat) (content : Bytes) : IdentityDir :=
  { dir with privateFile := some ⟨content, (dir.privateFile.map KeyFile.mode).getD newMode⟩ }

def writePublic (dir : IdentityDir) (content : Bytes) : IdentityDir :=
  { dir with publicFile := some content }

/-- `_chmod_private` -/
def chmodPrivate (dir : IdentityDir) : IdentityDir :=
  { dir with privateFile := dir.privateFile.map fun file => { file with mode := ownerOnly } }

/-- The private key can be read by its owner only. -/
def Protected (dir : IdentityDir) : Prop :=
  ∃ file, dir.privateFile = some file ∧ file.mode = ownerOnly

end IdentityDir

/-! ### Loading and saving -/

/-- The cases of an IdentityError, and the exception of the package that is no such error. -/
inductive IdentityFailure where
  | noIdentity
  | notParsed
  | noRsaPrivateKey
  | noRsaPublicKey
  | unsupportedAlgorithm
  deriving DecidableEq, Repr

/-- How far a start came with saving a key pair. -/
inductive SaveProgress where
  | stoppedBefore
  | stoppedInPrivate (written : Nat)
  | stoppedInPublic (written : Nat)
  /-- All was written, and the change of the mode went through or was refused. -/
  | finished (modeChanged : Bool)
  deriving DecidableEq, Repr

namespace KeyPackage

variable (keys : KeyPackage)

/-- Parse one file; the kind of the key is looked at later. -/
def parseKey {Key : Type} : LoadedKey Key → Except IdentityFailure (Option Key)
  | .rsa key => .ok (some key)
  | .otherKind => .ok none
  | .valueError => .error .notParsed
  | .unsupportedAlgorithm => .error .unsupportedAlgorithm

def loadIdentity (dir : IdentityDir) :
    Except IdentityFailure (keys.PrivateKey × keys.PublicKey) :=
  match dir.privateFile, dir.publicFile with
  | some privateFile, some publicFile => do
    let privateKey ← parseKey (keys.loadPemPrivateKey privateFile.content)
    let publicKey ← parseKey (keys.loadPemPublicKey publicFile)
    match privateKey, publicKey with
    | some privateKey, some publicKey => .ok (privateKey, publicKey)
    | some _, none => .error .noRsaPublicKey
    | none, _ => .error .noRsaPrivateKey
  | _, _ => .error .noIdentity

/-- `save_identity`, as far as it came. -/
def saveIdentity (dir : IdentityDir) (newMode : Nat) (privateKey : keys.PrivateKey) :
    SaveProgress → IdentityDir
  | .stoppedBefore => dir
  | .stoppedInPrivate written =>
    dir.writePrivate newMode ((keys.privatePem privateKey).take written)
  | .stoppedInPublic written =>
    (dir.writePrivate newMode (keys.privatePem privateKey)).writePublic
      ((keys.publicPem (keys.publicKey privateKey)).take written)
  | .finished false =>
    (dir.writePrivate newMode (keys.privatePem privateKey)).writePublic
      (keys.publicPem (keys.publicKey privateKey))
  | .finished true =>
    ((dir.writePrivate newMode (keys.privatePem privateKey)).writePublic
      (keys.publicPem (keys.publicKey privateKey))).chmodPrivate

/-- A start of the daemon: the key that it draws if it needs one, the mode of a file it creates, and
how far it comes. -/
structure Start where
  drawn : keys.PrivateKey
  newMode : Nat
  progress : SaveProgress

/-- What became of a start: it has an identity, it raised, or it was stopped. -/
inductive StartOutcome where
  | ready (privateKey : keys.PrivateKey) (publicKey : keys.PublicKey)
  | raised (failure : IdentityFailure)
  | stopped

/-- A key pair is made only where loading raises an IdentityError. -/
def ensureIdentity (dir : IdentityDir) (start : keys.Start) : keys.StartOutcome × IdentityDir :=
  match keys.loadIdentity dir with
  | .ok (privateKey, publicKey) => (.ready privateKey publicKey, dir)
  | .error .unsupportedAlgorithm => (.raised .unsupportedAlgorithm, dir)
  | .error _ =>
    (match start.progress with
      | .finished _ => .ready start.drawn (keys.publicKey start.drawn)
      | _ => .stopped,
    keys.saveIdentity dir start.newMode start.drawn start.progress)

/-- The directory after a number of starts. -/
def afterStarts (dir : IdentityDir) (starts : List keys.Start) : IdentityDir :=
  starts.foldl (fun dir start => (keys.ensureIdentity dir start).2) dir

theorem afterStarts_append (dir : IdentityDir) (first second : List keys.Start) :
    keys.afterStarts dir (first ++ second) = keys.afterStarts (keys.afterStarts dir first) second :=
  List.foldl_append

theorem afterStarts_cons (dir : IdentityDir) (start : keys.Start) (rest : List keys.Start) :
    keys.afterStarts dir (start :: rest) =
      keys.afterStarts (keys.ensureIdentity dir start).2 rest :=
  rfl

/-- A start as a step of the directory. -/
def startStep (dir : IdentityDir) (start : keys.Start) : Option IdentityDir :=
  some (keys.ensureIdentity dir start).2

theorem runFrom_startStep (dir : IdentityDir) (starts : List keys.Start) :
    runFrom keys.startStep dir starts = some (keys.afterStarts dir starts) := by
  induction starts generalizing dir with
  | nil => rfl
  | cons start rest inductionHypothesis => exact inductionHypothesis _

/-! ### What a start does -/

variable {keys} {dir : IdentityDir} {start : keys.Start}

/-- A start that finds a key pair uses it and leaves the files alone. -/
theorem ensureIdentity_found {privateKey : keys.PrivateKey} {publicKey : keys.PublicKey}
    (found : keys.loadIdentity dir = .ok (privateKey, publicKey)) :
    keys.ensureIdentity dir start = (.ready privateKey publicKey, dir) := by
  simp only [ensureIdentity, found]

/-- The identity is missing or broken in a way that a start repairs. -/
def Repairs (keys : KeyPackage) (dir : IdentityDir) : Prop :=
  ∃ failure, keys.loadIdentity dir = .error failure ∧ failure ≠ .unsupportedAlgorithm

/-- A start that repairs an identity goes as far as it comes. -/
theorem ensureIdentity_repairs (repairs : keys.Repairs dir) :
    (keys.ensureIdentity dir start).2 =
      keys.saveIdentity dir start.newMode start.drawn start.progress := by
  obtain ⟨failure, missing, other⟩ := repairs
  cases failure with
  | unsupportedAlgorithm => exact absurd rfl other
  | _ => simp only [ensureIdentity, missing]

theorem ensureIdentity_finished (repairs : keys.Repairs dir) {changed : Bool}
    (finishes : start.progress = .finished changed) :
    (keys.ensureIdentity dir start).1 = .ready start.drawn (keys.publicKey start.drawn) := by
  obtain ⟨failure, missing, other⟩ := repairs
  cases failure with
  | unsupportedAlgorithm => exact absurd rfl other
  | _ => simp only [ensureIdentity, missing, finishes]

/-! ### The two files agree -/

/-- The directory holds a key pair. -/
def Holds (keys : KeyPackage) (dir : IdentityDir) (privateKey : keys.PrivateKey) : Prop :=
  keys.loadIdentity dir = .ok (privateKey, keys.publicKey privateKey)

/-- The public key, which is written last, cannot be read, and what there is of the private key
raises nothing but an IdentityError. -/
structure Unfinished (keys : KeyPackage) (dir : IdentityDir) : Prop where
  publicFile : ∀ pem ∈ dir.publicFile, keys.loadPemPublicKey pem = .valueError
  privateFile : ∀ file ∈ dir.privateFile, keys.loadPemPrivateKey file.content = .valueError ∨
    ∃ key, keys.loadPemPrivateKey file.content = .rsa key

theorem Unfinished.repairs (unfinished : keys.Unfinished dir) : keys.Repairs dir := by
  cases privateFile : dir.privateFile with
  | none => exact ⟨.noIdentity, by simp [loadIdentity, privateFile], nofun⟩
  | some file =>
    cases publicFile : dir.publicFile with
    | none => exact ⟨.noIdentity, by simp [loadIdentity, privateFile, publicFile], nofun⟩
    | some pem =>
      have noPublic := unfinished.publicFile pem publicFile
      refine ⟨.notParsed, ?_, nofun⟩
      rcases unfinished.privateFile file privateFile with noPrivate | ⟨key, read⟩
      · simp only [loadIdentity, privateFile, publicFile, noPrivate, parseKey]
        rfl
      · simp only [loadIdentity, privateFile, publicFile, read, noPublic, parseKey]
        rfl

/-- Two files that can be read are a key pair. -/
theorem holds_of_files {file : KeyFile} {pem : Bytes} {key : keys.PrivateKey}
    (privateFile : dir.privateFile = some file) (publicFile : dir.publicFile = some pem)
    (readPrivate : keys.loadPemPrivateKey file.content = .rsa key)
    (readPublic : keys.loadPemPublicKey pem = .rsa (keys.publicKey key)) : keys.Holds dir key := by
  simp only [Holds, loadIdentity, privateFile, publicFile, readPrivate, readPublic, parseKey]
  rfl

/-- Saving leaves an unfinished identity or the new key pair, and the latter if it is finished. -/
theorem saveIdentity_cases (reads : keys.ReadsBack) (unfinished : keys.Unfinished dir)
    (newMode : Nat) (key : keys.PrivateKey) (progress : SaveProgress) :
    keys.Holds (keys.saveIdentity dir newMode key progress) key ∨
      keys.Unfinished (keys.saveIdentity dir newMode key progress) ∧
        ∀ changed, progress ≠ .finished changed := by
  cases progress with
  | stoppedBefore => exact .inr ⟨unfinished, nofun⟩
  | stoppedInPrivate written =>
    refine .inr ⟨⟨unfinished.publicFile, fun file written => ?_⟩, nofun⟩
    obtain rfl := Option.some.inj written
    exact (reads.privateCut key _).imp id fun read => ⟨key, read⟩
  | stoppedInPublic written =>
    rcases reads.publicCut (keys.publicKey key) written with cut | whole
    · refine .inr ⟨⟨fun pem written => ?_, fun file written => ?_⟩, nofun⟩
      · exact Option.some.inj written ▸ cut
      · exact Option.some.inj written ▸ .inr ⟨key, reads.privateKey key⟩
    · exact .inl (holds_of_files rfl rfl (reads.privateKey key) whole)
  | finished changed =>
    cases changed with
    | false => exact .inl (holds_of_files rfl rfl (reads.privateKey key) (reads.publicKey _))
    | true => exact .inl (holds_of_files rfl rfl (reads.privateKey key) (reads.publicKey _))

/-- A directory that starts have left: a key pair, or an unfinished one. -/
def Sound (keys : KeyPackage) (dir : IdentityDir) : Prop :=
  (∃ key, keys.Holds dir key) ∨ keys.Unfinished dir

theorem sound_empty : keys.Sound .empty := .inr ⟨nofun, nofun⟩

theorem Sound.ensureIdentity (reads : keys.ReadsBack) (sound : keys.Sound dir) :
    keys.Sound (keys.ensureIdentity dir start).2 := by
  rcases sound with ⟨key, holds⟩ | unfinished
  · rw [ensureIdentity_found holds]
    exact .inl ⟨key, holds⟩
  · rw [ensureIdentity_repairs unfinished.repairs]
    exact (saveIdentity_cases reads unfinished start.newMode start.drawn start.progress).imp
      (fun holds => ⟨start.drawn, holds⟩) And.left

theorem Sound.afterStarts (reads : keys.ReadsBack) (sound : keys.Sound dir)
    (starts : List keys.Start) : keys.Sound (keys.afterStarts dir starts) := by
  induction starts generalizing dir with
  | nil => exact sound
  | cons start rest inductionHypothesis => exact inductionHypothesis (sound.ensureIdentity reads)

/-- Starts leave a key pair alone. -/
theorem Holds.afterStarts {key : keys.PrivateKey} (holds : keys.Holds dir key)
    (starts : List keys.Start) : keys.afterStarts dir starts = dir := by
  induction starts with
  | nil => rfl
  | cons start rest inductionHypothesis =>
    rw [afterStarts_cons, ensureIdentity_found holds]
    exact inductionHypothesis

/-- A start that is not stopped has a key pair, and so has the directory then. -/
theorem Sound.ready (reads : keys.ReadsBack) (sound : keys.Sound dir) {changed : Bool}
    (finishes : start.progress = .finished changed) :
    ∃ key, (keys.ensureIdentity dir start).1 = .ready key (keys.publicKey key) ∧
      keys.Holds (keys.ensureIdentity dir start).2 key := by
  rcases sound with ⟨key, holds⟩ | unfinished
  · rw [ensureIdentity_found holds]
    exact ⟨key, rfl, holds⟩
  · refine ⟨start.drawn, ensureIdentity_finished unfinished.repairs finishes, ?_⟩
    rw [ensureIdentity_repairs unfinished.repairs]
    rcases saveIdentity_cases reads unfinished start.newMode start.drawn start.progress with
      holds | ⟨-, stopped⟩
    · exact holds
    · exact absurd finishes (stopped changed)

/-- After any starts, stopped wherever they were, a start that is not stopped has a key pair, and
every later start has the same pair and changes nothing on disk. -/
theorem identity_is_kept (reads : keys.ReadsBack) (before between : List keys.Start)
    (first later : keys.Start) (changed : Bool) (finishes : first.progress = .finished changed) :
    ∃ key, (keys.ensureIdentity (keys.afterStarts .empty before) first).1 =
        .ready key (keys.publicKey key) ∧
      keys.ensureIdentity (keys.afterStarts .empty (before ++ first :: between)) later =
        (.ready key (keys.publicKey key), keys.afterStarts .empty (before ++ [first])) := by
  obtain ⟨key, ready, holds⟩ := (sound_empty.afterStarts reads before).ready reads finishes
  refine ⟨key, ready, ?_⟩
  rw [afterStarts_append, afterStarts_append, afterStarts_cons, holds.afterStarts,
    ensureIdentity_found holds]
  rfl

/-- Two keys, each with a text of two bytes. -/
def exampleKeys : KeyPackage where
  PrivateKey := Bool
  PublicKey := Bool
  publicKey := id
  privatePem key := [45, if key = true then 1 else 0]
  publicPem key := [45, if key = true then 1 else 0]
  loadPemPrivateKey pem :=
    if pem = [45, 1] then .rsa true else if pem = [45, 0] then .rsa false else .valueError
  loadPemPublicKey pem :=
    if pem = [45, 1] then .rsa true else if pem = [45, 0] then .rsa false else .valueError
  sign _ challenge := challenge
  sha256 pem := pem ++ List.replicate 30 0

theorem exampleKeys_readsBack : exampleKeys.ReadsBack := by
  have cut (key : Bool) :
      CutSafe exampleKeys.loadPemPrivateKey key (exampleKeys.privatePem key) := by
    intro length
    rcases length with _ | _ | length
    · exact .inl (by cases key <;> rfl)
    · exact .inl (by cases key <;> rfl)
    · have whole : (exampleKeys.privatePem key).take (length + 2) = exampleKeys.privatePem key :=
        List.take_of_length_le (Nat.le_add_left 2 length)
      rw [whole]
      exact .inr (by cases key <;> rfl)
  exact ⟨fun key => by cases key <;> rfl, fun key => by cases key <;> rfl, cut, cut⟩

/-- One start is stopped in the private key and one in the public key; the third gets through. -/
theorem identity_is_kept_example :
    ∃ key, (exampleKeys.ensureIdentity (exampleKeys.afterStarts .empty
        [⟨true, 0o644, .stoppedInPrivate 1⟩, ⟨true, 0o644, .stoppedInPublic 1⟩])
          ⟨false, 0o644, .finished true⟩).1 = .ready key (exampleKeys.publicKey key) ∧
      exampleKeys.ensureIdentity (exampleKeys.afterStarts .empty
        ([⟨true, 0o644, .stoppedInPrivate 1⟩, ⟨true, 0o644, .stoppedInPublic 1⟩] ++
          ⟨false, 0o644, .finished true⟩ :: [⟨true, 0o644, .stoppedInPublic 0⟩]))
            ⟨true, 0o644, .finished false⟩ =
        (.ready key (exampleKeys.publicKey key), exampleKeys.afterStarts .empty
          ([⟨true, 0o644, .stoppedInPrivate 1⟩, ⟨true, 0o644, .stoppedInPublic 1⟩] ++
            [⟨false, 0o644, .finished true⟩])) :=
  identity_is_kept exampleKeys_readsBack
    [⟨true, 0o644, .stoppedInPrivate 1⟩, ⟨true, 0o644, .stoppedInPublic 1⟩]
    [⟨true, 0o644, .stoppedInPublic 0⟩] ⟨false, 0o644, .finished true⟩
    ⟨true, 0o644, .finished false⟩ true rfl

/-! ### The mode of the private key -/

/-- A start saves a key pair and comes as far as the change of the mode, which goes through. -/
def Protects (keys : KeyPackage) (dir : IdentityDir) (start : keys.Start) : Prop :=
  keys.Repairs dir ∧ start.progress = .finished true

/-- Writing the key leaves the mode as it is; a new file is not protected. -/
theorem protected_writePrivate {newMode : Nat} (shared : newMode ≠ ownerOnly) (content : Bytes) :
    (dir.writePrivate newMode content).Protected ↔ dir.Protected := by
  cases privateFile : dir.privateFile with
  | none => simp [IdentityDir.Protected, IdentityDir.writePrivate, privateFile, shared]
  | some file => simp [IdentityDir.Protected, IdentityDir.writePrivate, privateFile]

theorem protected_writePublic (content : Bytes) :
    (dir.writePublic content).Protected ↔ dir.Protected :=
  Iff.rfl

/-- Saving protects the key with the change of the mode, and in no other way. -/
theorem protected_saveIdentity {newMode : Nat} (shared : newMode ≠ ownerOnly)
    (key : keys.PrivateKey) (progress : SaveProgress) :
    (keys.saveIdentity dir newMode key progress).Protected ↔
      progress = .finished true ∨ dir.Protected := by
  cases progress with
  | stoppedBefore => simp [saveIdentity]
  | stoppedInPrivate written => simp [saveIdentity, protected_writePrivate shared]
  | stoppedInPublic written =>
    simp [saveIdentity, protected_writePrivate shared, protected_writePublic]
  | finished changed =>
    cases changed with
    | false => simp [saveIdentity, protected_writePrivate shared, protected_writePublic]
    | true => simp [saveIdentity, IdentityDir.Protected, IdentityDir.chmodPrivate,
        IdentityDir.writePrivate, IdentityDir.writePublic]

theorem protected_ensureIdentity (sound : keys.Sound dir) (shared : start.newMode ≠ ownerOnly) :
    (keys.ensureIdentity dir start).2.Protected ↔ keys.Protects dir start ∨ dir.Protected := by
  rcases sound with ⟨key, holds⟩ | unfinished
  · rw [ensureIdentity_found holds]
    refine ⟨.inr, fun either => either.resolve_left fun protects => ?_⟩
    obtain ⟨⟨failure, missing, -⟩, -⟩ := protects
    cases holds.symm.trans missing
  · have repairs := unfinished.repairs
    rw [ensureIdentity_repairs repairs, protected_saveIdentity shared, Protects,
      and_iff_right repairs]

/-- The private key is readable by its owner only exactly when one of the starts saved a key pair
and came as far as changing the mode. A start that finds a key pair never protects it. -/
theorem protected_iff (reads : keys.ReadsBack) (starts : List keys.Start)
    (shared : ∀ start ∈ starts, start.newMode ≠ ownerOnly) :
    (keys.afterStarts .empty starts).Protected ↔
      Happened keys.startStep .empty (fun _ => keys.Protects) starts := by
  induction starts using List.reverseRecOn with
  | nil =>
    refine iff_of_false (fun ⟨file, present, _⟩ => nomatch present) ?_
    rintro ⟨before, start, after, dir, split, -⟩
    simp at split
  | append_singleton starts last inductionHypothesis =>
    have ran := keys.runFrom_startStep .empty starts
    rw [afterStarts_append, afterStarts_cons, afterStarts, List.foldl_nil,
      protected_ensureIdentity (sound_empty.afterStarts reads starts) (shared last (by simp)),
      inductionHypothesis fun start member => shared start (List.mem_append_left _ member)]
    constructor
    · rintro (now | before)
      · exact happened_now ran now
      · exact before.later last
    · exact fun happened => (happened_snoc ran happened).symm

/-- The first start is stopped while it writes, the second gets through. -/
theorem protected_iff_example :
    (exampleKeys.afterStarts .empty
      [⟨true, 0o644, .stoppedInPublic 0⟩, ⟨false, 0o644, .finished true⟩]).Protected ↔
      Happened exampleKeys.startStep .empty (fun _ => exampleKeys.Protects)
        [⟨true, 0o644, .stoppedInPublic 0⟩, ⟨false, 0o644, .finished true⟩] :=
  protected_iff exampleKeys_readsBack
    [⟨true, 0o644, .stoppedInPublic 0⟩, ⟨false, 0o644, .finished true⟩] (by decide)

/-- A start that is stopped between the last byte and the change of the mode leaves a key pair that
every later start uses, readable by others. -/
example : ((exampleKeys.afterStarts .empty [⟨true, 0o644, .stoppedInPublic 2⟩,
    ⟨false, 0o644, .finished true⟩, ⟨false, 0o644, .finished true⟩]).privateFile.map
      KeyFile.mode) = some 0o644 := by decide

/-! ### The client id -/

/-- The first 16 bytes of the digest in hexadecimal, with a colon between any two of them. -/
def publicKeyFingerprint (keys : KeyPackage) (publicKey : keys.PublicKey) : String :=
  ":".intercalate
    (((keys.sha256 (keys.publicPem publicKey)).take 16).map fun byte => hexlify [byte])

/-- `replace(":", "")` -/
def withoutColons (text : String) : String :=
  String.ofList (text.toList.filter fun char => decide (char ≠ ':'))

def clientIdForPublicKey (keys : KeyPackage) (publicKey : keys.PublicKey) : String :=
  withoutColons (keys.publicKeyFingerprint publicKey)

theorem hexDigit_mem (nibble : Nat) : hexDigit nibble ∈ "0123456789abcdef".toList := by
  rw [hexDigit, List.getD_eq_getElem?_getD]
  cases digit : ['0', '1', '2', '3', '4', '5', '6', '7', '8', '9', 'a', 'b', 'c', 'd', 'e',
    'f'][nibble]? with
  | none => decide
  | some char => exact List.mem_of_getElem? digit

theorem hexlify_toList_mem {bytes : Bytes} {char : Char} (member : char ∈ (hexlify bytes).toList) :
    char ∈ "0123456789abcdef".toList := by
  rw [hexlify, String.toList_ofList, List.mem_flatMap] at member
  obtain ⟨byte, -, digit⟩ := member
  rcases List.mem_cons.mp digit with rfl | low
  · exact hexDigit_mem _
  · exact List.mem_singleton.mp low ▸ hexDigit_mem _

theorem hexlify_cons (byte : UInt8) (bytes : Bytes) :
    (hexlify (byte :: bytes)).toList = (hexlify [byte]).toList ++ (hexlify bytes).toList := by
  simp [hexlify]

/-- Without the colons the bytes stand next to each other. -/
theorem withoutColons_intercalate (bytes : Bytes) :
    withoutColons (":".intercalate (bytes.map fun byte => hexlify [byte])) = hexlify bytes := by
  have kept (some : Bytes) :
      ((hexlify some).toList.filter fun char => decide (char ≠ ':')) = (hexlify some).toList := by
    refine List.filter_eq_self.mpr fun char member => decide_eq_true ?_
    rintro rfl
    exact absurd (hexlify_toList_mem member) (by decide)
  refine String.toList_inj.mp ?_
  rw [withoutColons, String.toList_ofList]
  induction bytes with
  | nil => rfl
  | cons byte rest inductionHypothesis =>
    cases rest with
    | nil => rw [List.map_cons, List.map_nil, String.intercalate_singleton, kept]
    | cons second rest =>
      have colon : (":".toList.filter fun char => decide (char ≠ ':')) = [] := by decide
      rw [List.map_cons] at inductionHypothesis
      rw [List.map_cons, List.map_cons, String.intercalate_cons_cons, String.toList_append,
        String.toList_append, List.filter_append, List.filter_append, kept, colon,
        List.append_nil, inductionHypothesis]
      exact (hexlify_cons byte (second :: rest)).symm

theorem clientIdForPublicKey_eq (publicKey : keys.PublicKey) :
    keys.clientIdForPublicKey publicKey =
      hexlify ((keys.sha256 (keys.publicPem publicKey)).take 16) :=
  withoutColons_intercalate _

/-- A digest of at least 16 bytes gives a client id that the server accepts. -/
theorem matchesId_clientIdForPublicKey {publicKey : keys.PublicKey}
    (long : 16 ≤ (keys.sha256 (keys.publicPem publicKey)).length) :
    matchesId (keys.clientIdForPublicKey publicKey) = true := by
  rw [clientIdForPublicKey_eq, matchesId_iff]
  refine .inl ⟨?_, fun char member => ?_⟩
  · simp [hexlify, List.length_flatMap, long]
  · have digits : ∀ char ∈ "0123456789abcdef".toList, isIdChar char = true := by decide
    exact digits char (hexlify_toList_mem member)

end KeyPackage
end LocalNetwork
