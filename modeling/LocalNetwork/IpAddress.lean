/-
This file is a library of internet addresses as Python's `ipaddress` has them. An address has
32 or 128 bits, and a network is a block of addresses: those that agree with its own address
on the first bits, as many as its prefix length says.

A block stores its address with the host bits cleared, so that a value lies in it if clearing
its host bits gives that address. The parsers take the texts that the package takes; every
exception is `none`.
-/

import LocalNetwork.Text

namespace LocalNetwork

/-! ### Blocks of addresses -/

variable {width : Nat}

/-- The mask of a prefix length: that many bits are set, from the most significant one on. -/
def netmask (width prefixLength : Nat) : BitVec width :=
  BitVec.allOnes width ^^^ (BitVec.allOnes width >>> prefixLength)

/-- A block of addresses; the host bits of its own address are not set. -/
structure IpBlock (width : Nat) where
  address : BitVec width
  prefixLength : Fin (width + 1)
  hostBits : address &&& netmask width prefixLength = address

namespace IpBlock

/-- The block in which an address lies. -/
def ofHost (host : BitVec width) (prefixLength : Fin (width + 1)) : IpBlock width where
  address := host &&& netmask width prefixLength
  prefixLength := prefixLength
  hostBits := by rw [BitVec.and_assoc, BitVec.and_self]

/-- The block of one address. -/
def single (host : BitVec width) : IpBlock width := ofHost host (Fin.last width)

def contains (block : IpBlock width) (value : BitVec width) : Bool :=
  decide (value &&& netmask width block.prefixLength = block.address)

end IpBlock

theorem getMsbD_netmask {prefixLength index : Nat} (inside : index < width) :
    (netmask width prefixLength).getMsbD index = decide (index < prefixLength) := by
  rw [netmask, BitVec.getMsbD_xor, BitVec.getMsbD_ushiftRight, BitVec.getMsbD_allOnes,
    BitVec.getMsbD_allOnes]
  have earlier : index - prefixLength < width := Nat.lt_of_le_of_lt (Nat.sub_le _ _) inside
  by_cases inPrefix : index < prefixLength
  · simp [inPrefix, inside]
  · simp [inPrefix, inside, earlier]

/-- The block of a host holds the values that agree with it on the first bits. -/
theorem IpBlock.ofHost_contains_iff (host value : BitVec width) (prefixLength : Fin (width + 1)) :
    (ofHost host prefixLength).contains value = true ↔
      ∀ index < prefixLength.val, value.getMsbD index = host.getMsbD index := by
  rw [contains, decide_eq_true_iff, ofHost]
  dsimp only
  constructor
  · intro same index inPrefix
    have inside : index < width := by omega
    have bit := congrArg (BitVec.getMsbD · index) same
    rwa [BitVec.getMsbD_and, BitVec.getMsbD_and, getMsbD_netmask inside, decide_eq_true inPrefix,
      Bool.and_true, Bool.and_true] at bit
  · intro agree
    refine BitVec.eq_of_getMsbD_eq fun index inside => ?_
    rw [BitVec.getMsbD_and, BitVec.getMsbD_and, getMsbD_netmask inside]
    by_cases inPrefix : index < prefixLength.val
    · rw [agree index inPrefix]
    · rw [decide_eq_false inPrefix, Bool.and_false, Bool.and_false]

/-! ### Addresses and networks -/

inductive IpAddress where
  | v4 (value : BitVec 32)
  | v6 (value : BitVec 128)
  deriving DecidableEq

inductive IpNetwork where
  | v4 (block : IpBlock 32)
  | v6 (block : IpBlock 128)

/-- `address in network`: never across the versions. -/
def IpNetwork.contains : IpNetwork → IpAddress → Bool
  | .v4 block, .v4 value => block.contains value
  | .v6 block, .v6 value => block.contains value
  | .v4 _, .v6 _ => false
  | .v6 _, .v4 _ => false

/-! ### Texts of version 4 -/

/-- Digits of ASCII, at least one. -/
def isDigits (text : Text) : Bool := !text.isEmpty && text.all Char.isDigit

/-- A part of a dotted quad, without a leading zero. -/
def parseOctet (text : Text) : Option Nat :=
  if !isDigits text then none
  else if 3 < text.length then none
  else if text ≠ ['0'] ∧ text.head? = some '0' then none
  else
    let octet := Nat.ofDigitChars 10 text 0
    if 255 < octet then none else some octet

/-- Numbers read as the digits of one number. -/
def joinDigits (base : Nat) (digits : List Nat) : Nat :=
  digits.foldl (fun value digit => value * base + digit) 0

/-- A dotted quad. -/
def parseIpv4 (text : Text) : Option (BitVec 32) :=
  let octets := splitOn ['.'] text
  if octets.length ≠ 4 then none
  else (octets.mapM parseOctet).map fun values => BitVec.ofNat 32 (joinDigits 256 values)

/-- `IPv4Address`. -/
def ipv4Address (text : Text) : Option (BitVec 32) :=
  if '/' ∈ text then none else parseIpv4 text

/-- The prefix length that a netmask stands for. -/
def prefixOfNetmask (mask : BitVec 32) : Option (Fin 33) :=
  (List.finRange 33).find? fun prefixLength => netmask 32 prefixLength = mask

/-- A prefix length in digits. -/
def parsePrefixLength (width : Nat) (text : Text) : Option (Fin (width + 1)) :=
  if !isDigits text then none
  else
    let number := Nat.ofDigitChars 10 text 0
    if bound : number < width + 1 then some ⟨number, bound⟩ else none

/-- What stands behind the slash: a prefix length, or a netmask or its complement as a dotted quad. -/
def parseIpv4Prefix (text : Text) : Option (Fin 33) :=
  match parsePrefixLength 32 text with
  | some prefixLength => some prefixLength
  | none =>
    (parseIpv4 text).bind fun mask => (prefixOfNetmask mask).or (prefixOfNetmask (~~~mask))

/-! ### Texts of version 6 -/

/-- A group of at most four hexadecimal digits. -/
def parseHextet (text : Text) : Option Nat :=
  if text = [] ∨ 4 < text.length then none else (text.mapM hexValue).map (joinDigits 16)

/-- The groups of a text; a dotted quad at the end stands for two. -/
def hextetParts (text : Text) : Option (List Text) :=
  let parts := splitAtMost [':'] 9 text
  if parts.length < 3 then none
  else
    match parts.getLast? with
    | none => none
    | some final =>
      if '.' ∈ final then
        (ipv4Address final).map fun value =>
          parts.dropLast ++
            [Nat.toDigits 16 (value.toNat / 65536), Nat.toDigits 16 (value.toNat % 65536)]
      else some parts

/-- The places of empty groups that are neither first nor last. -/
def skippedPlaces (parts : List Text) : List Nat :=
  (List.range parts.length).filter fun index =>
    decide (0 < index) && decide (index + 1 < parts.length) && (parts[index]? == some [])

/-- The groups before and after `::`, and how many groups it stands for. An empty group at an end
must be next to it. -/
def splitHextets (parts : List Text) : Option (List Text × Nat × List Text) :=
  if 9 < parts.length then none
  else
    match skippedPlaces parts with
    | [] =>
      if parts.length ≠ 8 ∨ parts.head? = some [] ∨ parts.getLast? = some [] then none
      else some (parts, 0, [])
    | [skip] =>
      let high := parts.take skip
      let low := parts.drop (skip + 1)
      if (high.head? = some [] ∧ high.length ≠ 1) ∨ (low.getLast? = some [] ∧ low.length ≠ 1) then
        none
      else
        let high := if high.head? = some [] then [] else high
        let low := if low.getLast? = some [] then [] else low
        if 8 < high.length + low.length + 1 then none
        else some (high, 8 - (high.length + low.length), low)
    | _ => none

/-- An address in groups. -/
def parseIpv6 (text : Text) : Option (BitVec 128) := do
  let parts ← hextetParts text
  let (high, skipped, low) ← splitHextets parts
  let high ← high.mapM parseHextet
  let low ← low.mapM parseHextet
  return BitVec.ofNat 128 (joinDigits 65536 (high ++ List.replicate skipped 0 ++ low))

/-- `IPv6Address`. A zone behind a percent sign does not matter to the value. -/
def ipv6Address (text : Text) : Option (BitVec 128) :=
  if '/' ∈ text then none
  else
    match cutAt ['%'] text with
    | none => parseIpv6 text
    | some (address, zone) => if zone = [] ∨ '%' ∈ zone then none else parseIpv6 address

/-! ### Texts of either version -/

/-- `ip_address`: version 4 is tried first. -/
def ipAddress (text : Text) : Option IpAddress :=
  ((ipv4Address text).map IpAddress.v4).or ((ipv6Address text).map IpAddress.v6)

/-- A network of a version: an address alone, or an address and what stands behind a slash. -/
def parseBlock (parseAddress : Text → Option (BitVec width))
    (parsePrefix : Text → Option (Fin (width + 1))) (text : Text) : Option (IpBlock width) :=
  match splitOn ['/'] text with
  | [address] => (parseAddress address).map IpBlock.single
  | [address, mask] => (parseAddress address).bind fun host => (parsePrefix mask).map (.ofHost host)
  | _ => none

/-- `ip_network` without its check of the host bits. -/
def ipNetwork (text : Text) : Option IpNetwork :=
  ((parseBlock ipv4Address parseIpv4Prefix text).map IpNetwork.v4).or
    ((parseBlock ipv6Address (parsePrefixLength 128) text).map IpNetwork.v6)

end LocalNetwork
