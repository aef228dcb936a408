/-
This file models the STUN probe of `client/nat_traversal.py`, `_parse_stun_mapped_address`
and `_stun_probe`, and proves what it makes of every response.

The scan of a response is compared with the list of the attributes that lie within its
declared length: the scan ends at the first mapped address of that list. A response that is
written as a header, attributes padded to four bytes and any bytes behind them has exactly
these attributes, so the address comes back. A mapped address of fewer than two bytes is
read at an index it does not have, and that exception is not one the probe catches.
-/

import LocalNetwork.Basic

namespace LocalNetwork

/-! ### Parsing a response -/

def stunMagicCookie : Nat := 0x2112A442
def attrXorMappedAddress : Nat := 0x0020

/-- What parsing a response raises. -/
inductive StunException where
  | valueError (text : String)
  | indexError
  | structError
  | osError (text : String)
  deriving DecidableEq, Repr

/-- `socket.inet_ntoa`. -/
def inetNtoa : Bytes → Except StunException String
  | [first, second, third, fourth] => .ok s!"{first}.{second}.{third}.{fourth}"
  | _ => .error (.osError "packed IP wrong length")

/-- Exclusive or of the bytes with those of the cookie, as far as both go. -/
def xorWithCookie (bytes : Bytes) : Bytes :=
  List.zipWith (fun byte mask => byte ^^^ mask) bytes (toBigEndian 4 stunMagicCookie)

/-- Read the value of a mapped address. -/
def readMappedAddress (value : Bytes) : Except StunException (String × Nat) :=
  match value[1]? with
  | none => .error .indexError
  | some family =>
    if (slice value 2 4).length ≠ 2 then .error .structError
    else
      let xport := ofBigEndian (slice value 2 4)
      let port := xport ^^^ (stunMagicCookie >>> 16)
      if family = 0x01 then
        match inetNtoa (xorWithCookie (slice value 4 8)) with
        | .error exception => .error exception
        | .ok ip => .ok (ip, port)
      else .error (.valueError "IPv6 XOR-MAPPED-ADDRESS unsupported")

def noMappedAddress : StunException := .valueError "no XOR-MAPPED-ADDRESS in stun response"

/-- The loop over the attributes, from a position on. -/
def scanAttributes (data : Bytes) (stop pos : Nat) : Except StunException (String × Nat) :=
  if pos + 4 ≤ stop then
    let attrType := ofBigEndian (slice data pos (pos + 2))
    let attrLen := ofBigEndian (slice data (pos + 2) (pos + 4))
    let valueStart := pos + 4
    let valueEnd := valueStart + attrLen
    if stop < valueEnd then .error noMappedAddress
    else if attrType = attrXorMappedAddress then
      readMappedAddress (slice data valueStart valueEnd)
    else scanAttributes data stop (valueEnd + (4 - attrLen % 4) % 4)
  else .error noMappedAddress
termination_by stop - pos

/-- Where the declared attributes end. -/
def attributesEnd (data : Bytes) : Nat := min data.length (20 + ofBigEndian (slice data 2 4))

/-- Find the mapped address in a response to the transaction. -/
def parseStunMappedAddress (data transactionId : Bytes) :
    Except StunException (String × Nat) :=
  if data.length < 20 then .error (.valueError "stun response too short")
  else if slice data 8 20 ≠ transactionId then
    .error (.valueError "stun transaction id mismatch")
  else scanAttributes data (attributesEnd data) 20

/-! ### The probe -/

/-- Whether the exception is of a class that the probe turns into no address. -/
def StunException.isCaught : StunException → Bool
  | .valueError _ => true
  | .structError => true
  | .osError _ => true
  | .indexError => false

/-- One request and its response; none where sending or receiving fails. -/
def stunProbe (transaction : Bytes) (received : Option Bytes) :
    Except StunException (Option (String × Nat)) :=
  match received with
  | none => .ok none
  | some data =>
    match parseStunMappedAddress data transaction with
    | .ok mapped => .ok (some mapped)
    | .error exception => if exception.isCaught then .ok none else .error exception

/-! ### The attributes of a response -/

/-- The types and values of the attributes from a position on, up to the first one that does
not end within the declared length. -/
def stunAttributes (data : Bytes) (stop pos : Nat) : List (Nat × Bytes) :=
  if pos + 4 ≤ stop then
    let attrLen := ofBigEndian (slice data (pos + 2) (pos + 4))
    if stop < pos + 4 + attrLen then []
    else
      (ofBigEndian (slice data pos (pos + 2)), slice data (pos + 4) (pos + 4 + attrLen)) ::
        stunAttributes data stop (pos + 4 + attrLen + (4 - attrLen % 4) % 4)
  else []
termination_by stop - pos

/-- Every attribute takes four bytes of the declared length at least. -/
theorem stunAttributes_length_le (data : Bytes) (stop pos : Nat) :
    4 * (stunAttributes data stop pos).length ≤ stop - pos := by
  fun_induction stunAttributes data stop pos with
  | case1 pos header attrLen outside => exact Nat.zero_le _
  | case2 pos header attrLen inside inductionHypothesis =>
    rw [List.length_cons]
    omega
  | case3 pos header => exact Nat.zero_le _

/-- The first mapped address of a list of attributes. -/
def firstMappedAddress (attributes : List (Nat × Bytes)) : Option Bytes :=
  (attributes.find? fun entry => entry.1 == attrXorMappedAddress).map Prod.snd

/-- The scan reads the first mapped address among the attributes. -/
theorem scanAttributes_eq (data : Bytes) (stop pos : Nat) :
    scanAttributes data stop pos =
      match firstMappedAddress (stunAttributes data stop pos) with
      | none => .error noMappedAddress
      | some value => readMappedAddress value := by
  fun_induction scanAttributes data stop pos with
  | case1 pos header attrLen valueStart valueEnd outside =>
    rw [stunAttributes, if_pos header, if_pos outside]
    rfl
  | case2 pos header attrType attrLen valueStart valueEnd inside mapped =>
    rw [stunAttributes, if_pos header, if_neg inside, firstMappedAddress,
      List.find?_cons_of_pos (by exact beq_iff_eq.mpr mapped)]
    rfl
  | case3 pos header attrType attrLen valueStart valueEnd inside other inductionHypothesis =>
    rw [inductionHypothesis, firstMappedAddress, firstMappedAddress, stunAttributes.eq_1 data stop pos,
      if_pos header, if_neg inside, List.find?_cons_of_neg (by simpa using other)]
  | case4 pos header =>
    rw [stunAttributes, if_neg header]
    rfl

/-! ### Responses as they are written -/

/-- An attribute with its padding to a multiple of four bytes. -/
structure StunAttribute where
  type : Nat
  value : Bytes
  padding : Bytes
  typeFits : type < 65536
  paddingShort : padding.length < 4
  padded : 4 ∣ value.length + padding.length

namespace StunAttribute

def bytes (entry : StunAttribute) : Bytes :=
  toBigEndian 2 entry.type ++ toBigEndian 2 entry.value.length ++ entry.value ++ entry.padding

theorem bytes_length (entry : StunAttribute) :
    entry.bytes.length = 4 + entry.value.length + entry.padding.length := by
  simp only [bytes, List.length_append, toBigEndian_length]

theorem padding_length (entry : StunAttribute) :
    entry.padding.length = (4 - entry.value.length % 4) % 4 := by
  have short := entry.paddingShort
  have padded := entry.padded
  omega

/-- The mapped address of an IPv4 address and a port. -/
def mappedAddress (reserved : UInt8) (address : UInt8 × UInt8 × UInt8 × UInt8) (port : UInt16) :
    StunAttribute where
  type := attrXorMappedAddress
  value := [reserved, 0x01] ++ toBigEndian 2 (port.toNat ^^^ (stunMagicCookie >>> 16)) ++
    xorWithCookie [address.1, address.2.1, address.2.2.1, address.2.2.2]
  padding := []
  typeFits := by decide
  paddingShort := by decide
  padded := by
    simp only [List.length_append, toBigEndian_length, xorWithCookie, List.length_zipWith,
      List.length_cons, List.length_nil]
    decide

end StunAttribute

def attributesBytes (entries : List StunAttribute) : Bytes := entries.flatMap StunAttribute.bytes

def stunHeader (messageType length cookie : Nat) (transactionId : Bytes) : Bytes :=
  toBigEndian 2 messageType ++ toBigEndian 2 length ++ toBigEndian 4 cookie ++ transactionId

/-- A response with the length of its attributes in the header and any bytes behind them. -/
def stunResponse (messageType cookie : Nat) (transactionId : Bytes)
    (entries : List StunAttribute) (trailing : Bytes) : Bytes :=
  stunHeader messageType (attributesBytes entries).length cookie transactionId ++
    attributesBytes entries ++ trailing

theorem stunHeader_length (messageType length cookie : Nat) (transactionId : Bytes)
    (transactionFits : transactionId.length = 12) :
    (stunHeader messageType length cookie transactionId).length = 20 := by
  simp only [stunHeader, List.length_append, toBigEndian_length, transactionFits]

theorem stunHeader_lengthField (messageType length cookie : Nat) (transactionId rest : Bytes) :
    slice (stunHeader messageType length cookie transactionId ++ rest) 2 4 =
      toBigEndian 2 length := by
  simp only [stunHeader, List.append_assoc]
  rw [← List.append_assoc]
  exact slice_append_middle _ _ _ 2 4 (by rw [toBigEndian_length])
    (by rw [toBigEndian_length, toBigEndian_length])

theorem stunHeader_transaction (messageType length cookie : Nat) (transactionId rest : Bytes)
    (transactionFits : transactionId.length = 12) :
    slice (stunHeader messageType length cookie transactionId ++ rest) 8 20 = transactionId :=
  slice_append_middle _ transactionId rest 8 20
    (by simp only [List.length_append, toBigEndian_length])
    (by simp only [List.length_append, toBigEndian_length, transactionFits])

/-- The attributes written between any bytes are the attributes read there. -/
theorem stunAttributes_attributesBytes (entries : List StunAttribute) (front rest : Bytes)
    (fits : (attributesBytes entries).length ≤ 65535) :
    stunAttributes (front ++ attributesBytes entries ++ rest)
      (front.length + (attributesBytes entries).length) front.length =
      entries.map fun entry => (entry.type, entry.value) := by
  induction entries generalizing front with
  | nil =>
    rw [stunAttributes, if_neg (by simp [attributesBytes])]
    rfl
  | cons entry entries inductionHypothesis =>
    have cons : attributesBytes (entry :: entries) = entry.bytes ++ attributesBytes entries :=
      List.flatMap_cons
    have total := entry.bytes_length
    rw [cons, List.length_append] at fits ⊢
    have tail := inductionHypothesis (front ++ entry.bytes) (by omega)
    rw [List.length_append] at tail
    have typeSlice : slice (front ++ (entry.bytes ++ attributesBytes entries) ++ rest)
        front.length (front.length + 2) = toBigEndian 2 entry.type := by
      simp only [StunAttribute.bytes, List.append_assoc]
      rw [← List.append_assoc]
      exact slice_append_middle front _ _ _ _ rfl (by rw [toBigEndian_length])
    have lengthSlice : slice (front ++ (entry.bytes ++ attributesBytes entries) ++ rest)
        (front.length + 2) (front.length + 4) = toBigEndian 2 entry.value.length := by
      have cut := slice_append_middle (front ++ toBigEndian 2 entry.type)
        (toBigEndian 2 entry.value.length)
        (entry.value ++ entry.padding ++ attributesBytes entries ++ rest) (front.length + 2)
        (front.length + 4) (by rw [List.length_append, toBigEndian_length])
        (by rw [List.length_append, toBigEndian_length, toBigEndian_length])
      refine Eq.trans ?_ cut
      simp only [StunAttribute.bytes, List.append_assoc]
    have valueSlice : slice (front ++ (entry.bytes ++ attributesBytes entries) ++ rest)
        (front.length + 4) (front.length + 4 + entry.value.length) = entry.value := by
      have cut := slice_append_middle
        (front ++ toBigEndian 2 entry.type ++ toBigEndian 2 entry.value.length) entry.value
        (entry.padding ++ attributesBytes entries ++ rest) (front.length + 4)
        (front.length + 4 + entry.value.length)
        (by simp only [List.length_append, toBigEndian_length])
        (by simp only [List.length_append, toBigEndian_length])
      refine Eq.trans ?_ cut
      simp only [StunAttribute.bytes, List.append_assoc]
    have next : front.length + 4 + entry.value.length + (4 - entry.value.length % 4) % 4 =
        front.length + entry.bytes.length := by
      rw [← entry.padding_length]
      omega
    rw [← List.append_assoc front] at *
    generalize front ++ entry.bytes ++ attributesBytes entries ++ rest = data at *
    rw [stunAttributes, if_pos (by omega), typeSlice, lengthSlice,
      ofBigEndian_toBigEndian_of_lt 2 _ entry.typeFits,
      ofBigEndian_toBigEndian_of_lt 2 _ (by omega)]
    simp only
    rw [if_neg (by omega), valueSlice, next, List.map_cons, ← tail, Nat.add_assoc]

/-- The mapped address reads back. -/
theorem readMappedAddress_mappedAddress (reserved : UInt8)
    (address : UInt8 × UInt8 × UInt8 × UInt8) (port : UInt16) :
    readMappedAddress (StunAttribute.mappedAddress reserved address port).value =
      .ok (s!"{address.1}.{address.2.1}.{address.2.2.1}.{address.2.2.2}", port.toNat) := by
  obtain ⟨first, second, third, fourth⟩ := address
  have portSmall : port.toNat ^^^ (stunMagicCookie >>> 16) < 2 ^ 16 :=
    Nat.xor_lt_two_pow port.toNat_lt (by decide)
  have cookie : toBigEndian 4 stunMagicCookie = [0x21, 0x12, 0xA4, 0x42] := by decide
  have cancels (byte mask : UInt8) : byte ^^^ mask ^^^ mask = byte := by
    rw [UInt8.xor_assoc, UInt8.xor_self, UInt8.xor_zero]
  have back : xorWithCookie (xorWithCookie [first, second, third, fourth]) =
      [first, second, third, fourth] := by
    simp only [xorWithCookie, cookie, List.zipWith_cons_cons, List.zipWith_nil_left, cancels]
  have addressLength : (xorWithCookie [first, second, third, fourth]).length = 4 := by
    rw [xorWithCookie, cookie]
    rfl
  have portSlice : slice (StunAttribute.mappedAddress reserved (first, second, third, fourth)
      port).value 2 4 = toBigEndian 2 (port.toNat ^^^ (stunMagicCookie >>> 16)) :=
    slice_append_middle [reserved, 0x01] _ _ 2 4 rfl (by rw [toBigEndian_length]; rfl)
  have addressSlice : slice (StunAttribute.mappedAddress reserved (first, second, third, fourth)
      port).value 4 8 = xorWithCookie [first, second, third, fourth] := by
    have cut := slice_append_middle ([reserved, 0x01] ++
      toBigEndian 2 (port.toNat ^^^ (stunMagicCookie >>> 16)))
      (xorWithCookie [first, second, third, fourth]) [] 4 8
      (by rw [List.length_append, toBigEndian_length]; rfl)
      (by rw [List.length_append, toBigEndian_length, addressLength]; rfl)
    rwa [List.append_nil] at cut
  have family : (StunAttribute.mappedAddress reserved (first, second, third, fourth)
      port).value[1]? = some 0x01 := rfl
  rw [readMappedAddress, family, portSlice, addressSlice, back]
  simp only [toBigEndian_length, ne_eq, not_true_eq_false, if_false, if_true, inetNtoa]
  rw [ofBigEndian_toBigEndian_of_lt 2 _ portSmall, Nat.xor_assoc, Nat.xor_self, Nat.xor_zero]

/-- The address is found among any other attributes in front of it, whatever follows. -/
theorem parseStunMappedAddress_stunResponse (messageType cookie : Nat)
    (transactionId : Bytes) (reserved : UInt8) (address : UInt8 × UInt8 × UInt8 × UInt8)
    (port : UInt16) (before after : List StunAttribute) (trailing : Bytes)
    (transactionFits : transactionId.length = 12)
    (others : ∀ entry ∈ before, entry.type ≠ 0x0020)
    (fits : (attributesBytes
      (before ++ StunAttribute.mappedAddress reserved address port :: after)).length ≤ 65535) :
    parseStunMappedAddress
      (stunResponse messageType cookie transactionId
        (before ++ StunAttribute.mappedAddress reserved address port :: after) trailing)
      transactionId =
      .ok (s!"{address.1}.{address.2.1}.{address.2.2.1}.{address.2.2.2}", port.toNat) := by
  generalize whole : before ++ StunAttribute.mappedAddress reserved address port :: after =
    entries at fits ⊢
  have header := stunHeader_length messageType (attributesBytes entries).length cookie
    transactionId transactionFits
  have total : (stunResponse messageType cookie transactionId entries trailing).length =
      20 + (attributesBytes entries).length + trailing.length := by
    rw [stunResponse, List.length_append, List.length_append, header]
  have lengthField : ofBigEndian
      (slice (stunResponse messageType cookie transactionId entries trailing) 2 4) =
      (attributesBytes entries).length := by
    rw [stunResponse, List.append_assoc, stunHeader_lengthField,
      ofBigEndian_toBigEndian_of_lt 2 _ (by omega)]
  have transaction : slice (stunResponse messageType cookie transactionId entries trailing) 8 20 =
      transactionId := by
    rw [stunResponse, List.append_assoc, stunHeader_transaction _ _ _ _ _ transactionFits]
  have ends : attributesEnd (stunResponse messageType cookie transactionId entries trailing) =
      20 + (attributesBytes entries).length := by
    rw [attributesEnd, lengthField, total]
    omega
  have attributes : stunAttributes
      (stunResponse messageType cookie transactionId entries trailing)
      (20 + (attributesBytes entries).length) 20 =
      entries.map fun entry => (entry.type, entry.value) := by
    have read := stunAttributes_attributesBytes entries
      (stunHeader messageType (attributesBytes entries).length cookie transactionId) trailing fits
    rwa [header] at read
  have found : firstMappedAddress (entries.map fun entry => (entry.type, entry.value)) =
      some (StunAttribute.mappedAddress reserved address port).value := by
    have skipped : (before.map fun entry => (entry.type, entry.value)).find?
        (fun entry => entry.1 == attrXorMappedAddress) = none := by
      rw [List.find?_eq_none]
      intro pair member
      obtain ⟨entry, inside, rfl⟩ := List.mem_map.mp member
      simpa [attrXorMappedAddress] using others entry inside
    rw [← whole, firstMappedAddress, List.map_append, List.find?_append, skipped, List.map_cons,
      Option.none_or, List.find?_cons_of_pos (by rfl), Option.map_some]
  rw [parseStunMappedAddress, if_neg (by rw [total]; omega), transaction]
  simp only [ne_eq, not_true_eq_false, if_false]
  rw [ends, scanAttributes_eq, attributes, found]
  exact readMappedAddress_mappedAddress reserved address port

/-- An attribute of seven bytes and one byte of padding. -/
def unalignedAttribute : StunAttribute where
  type := 0x0001
  value := List.replicate 7 0
  padding := [0]
  typeFits := by decide
  paddingShort := by decide
  padded := by decide

theorem parseStunMappedAddress_stunResponse_unaligned :
    parseStunMappedAddress
      (stunResponse 0x0101 stunMagicCookie (List.replicate 12 0xee)
        ([unalignedAttribute] ++ StunAttribute.mappedAddress 0 (10, 0, 0, 1) 7777 ::
          [unalignedAttribute]) [1, 2, 3])
      (List.replicate 12 0xee) = .ok ("10.0.0.1", 7777) :=
  parseStunMappedAddress_stunResponse 0x0101 stunMagicCookie (List.replicate 12 0xee) 0
    (10, 0, 0, 1) 7777 [unalignedAttribute] [unalignedAttribute] [1, 2, 3] rfl
    (fun entry member => by rw [List.mem_singleton.mp member]; decide) (by decide)

/-! ### What the probe makes of a response -/

/-- The probe returns, parsing raises only what the probe catches, and every turn of the loop
over the attributes but the last uses up four bytes. -/
structure ProbeTolerates (transaction data : Bytes) : Prop where
  returns : ∃ mapped, stunProbe transaction (some data) = .ok mapped
  caught : ∀ exception, parseStunMappedAddress data transaction = .error exception →
    exception.isCaught = true
  terminates : 4 * (stunAttributes data (attributesEnd data) 20).length ≤ data.length - 20

/-- The response is one to the transaction, and its first mapped address is too short for a
family. -/
def FamilyMissing (transaction data : Bytes) : Prop :=
  20 ≤ data.length ∧ slice data 8 20 = transaction ∧
    ∃ value ∈ firstMappedAddress (stunAttributes data (attributesEnd data) 20), value.length < 2

/-- Reading a mapped address raises what the probe catches exactly if there is a family. -/
theorem readMappedAddress_caught_iff (value : Bytes) :
    (∀ exception, readMappedAddress value = .error exception → exception.isCaught = true) ↔
      2 ≤ value.length := by
  constructor
  · intro caught
    by_contra short
    have missing : readMappedAddress value = .error .indexError := by
      rw [readMappedAddress, List.getElem?_eq_none (by omega)]
    cases caught _ missing
  · intro long exception raised
    rw [readMappedAddress, List.getElem?_eq_getElem (by omega)] at raised
    simp only at raised
    split at raised
    · cases raised
      rfl
    · split at raised
      · split at raised
        · rename_i converted
          unfold inetNtoa at converted
          split at converted
          · cases converted
          · cases converted
            cases raised
            rfl
        · cases raised
      · cases raised
        rfl

/-- Parsing raises what the probe catches exactly if the family is not missing. -/
theorem parseStunMappedAddress_caught_iff (transaction data : Bytes) :
    (∀ exception, parseStunMappedAddress data transaction = .error exception →
      exception.isCaught = true) ↔ ¬ FamilyMissing transaction data := by
  unfold parseStunMappedAddress FamilyMissing
  split
  · rename_i short
    refine iff_of_true (fun exception raised => ?_) fun missing => absurd missing.1 (by omega)
    cases raised
    rfl
  · rename_i long
    split
    · rename_i other
      refine iff_of_true (fun exception raised => ?_) fun missing => other missing.2.1
      cases raised
      rfl
    · rename_i same
      rw [scanAttributes_eq]
      cases firstMappedAddress (stunAttributes data (attributesEnd data) 20) with
      | none =>
        refine iff_of_true (fun exception raised => ?_) fun ⟨_, _, value, found, _⟩ => by cases found
        cases raised
        rfl
      | some value =>
        simp only [readMappedAddress_caught_iff]
        constructor
        · rintro enough ⟨_, _, value', found, short⟩
          cases found
          omega
        · intro present
          by_contra short
          exact present ⟨by omega, not_not.mp same, value, rfl, by omega⟩

/-- The probe returns exactly if parsing raises only what the probe catches. -/
theorem stunProbe_returns_iff (transaction data : Bytes) :
    (∃ mapped, stunProbe transaction (some data) = .ok mapped) ↔
      ∀ exception, parseStunMappedAddress data transaction = .error exception →
        exception.isCaught = true := by
  simp only [stunProbe]
  cases parseStunMappedAddress data transaction with
  | ok mapped => exact iff_of_true ⟨_, rfl⟩ fun exception raised => by cases raised
  | error exception =>
    simp only [Except.error.injEq, forall_eq']
    cases caught : exception.isCaught with
    | true => exact iff_of_true ⟨none, rfl⟩ rfl
    | false => simp

/-- The probe tolerates exactly the responses whose first mapped address has a family. -/
theorem probeTolerates_iff (transaction data : Bytes) :
    ProbeTolerates transaction data ↔ ¬ FamilyMissing transaction data := by
  have caughtIff := parseStunMappedAddress_caught_iff transaction data
  have returnsIff := stunProbe_returns_iff transaction data
  constructor
  · intro tolerates
    exact caughtIff.mp tolerates.caught
  · intro present
    have caught := caughtIff.mpr present
    refine ⟨returnsIff.mpr caught, caught, ?_⟩
    have bound := stunAttributes_length_le data (attributesEnd data) 20
    have within : attributesEnd data ≤ data.length := Nat.min_le_left _ _
    omega

/-- A response whose one attribute is a mapped address without a value. -/
def emptyMappedAddress : Bytes :=
  stunHeader 0x0101 4 stunMagicCookie (List.replicate 12 0xdd) ++ [0x00, 0x20, 0x00, 0x00]

theorem emptyMappedAddress_counterexample :
    ¬ ProbeTolerates (List.replicate 12 0xdd) emptyMappedAddress ∧
      stunProbe (List.replicate 12 0xdd) (some emptyMappedAddress) = .error .indexError := by
  have raised : stunProbe (List.replicate 12 0xdd) (some emptyMappedAddress) =
      .error .indexError := by
    have scanned : scanAttributes emptyMappedAddress 24 20 = .error .indexError := by
      rw [scanAttributes]
      decide +kernel
    have ends : attributesEnd emptyMappedAddress = 24 := by decide +kernel
    have parsed : parseStunMappedAddress emptyMappedAddress (List.replicate 12 0xdd) =
        .error .indexError := by
      rw [parseStunMappedAddress, if_neg (by decide +kernel), if_neg (by decide +kernel), ends,
        scanned]
    rw [stunProbe, parsed]
    rfl
  refine ⟨fun tolerates => ?_, raised⟩
  obtain ⟨mapped, returned⟩ := tolerates.returns
  rw [raised] at returned
  cases returned

end LocalNetwork
