/-
This file models the ARP helpers of `client/main.py`, `_parse_arp`, `_mac_for_ip`,
`_is_arp_for_us` and `_build_arp_reply_for_tun`, and compares the two forms they take a packet
in.

A packet behind an Ethernet header is told by the type of that header, at a fixed place of
the packet. In a packet without the header the same place holds the last two bytes of the
sender's MAC, which can be any. If they look like the type, the packet is taken for one with
a header, what is behind that header is too short, and the packet is dropped. Replies are
packets without the header too, but their sender's MAC is one the helpers derive, and it
ends in a zero.
-/

import LocalNetwork.Dict
import LocalNetwork.Stun
import LocalNetwork.Text

namespace LocalNetwork

/-! ### Parsing -/

/-- What `_parse_arp` returns: the operation, and the hardware and protocol addresses of sender
and target. -/
structure ArpPacket where
  opcode : Nat
  sha : Bytes
  spa : Bytes
  tha : Bytes
  tpa : Bytes
  deriving DecidableEq, Repr

/-- The ARP part of a packet, behind the Ethernet header if there is one. -/
def arpPart (packet : Bytes) : Option Bytes :=
  if packet = [] then none
  else if 14 ≤ packet.length ∧ slice packet 12 14 = [0x08, 0x06] then some (packet.drop 14)
  else if 28 ≤ packet.length ∧ slice packet 0 2 = [0x00, 0x01] ∧
      slice packet 2 4 = [0x08, 0x00] then some packet
  else none

/-- The fields of the ARP part. -/
def readArp (arp : Bytes) : Option ArpPacket :=
  if arp.length < 28 then none
  else
    let htype := ofBigEndian (slice arp 0 2)
    let ptype := ofBigEndian (slice arp 2 4)
    let hlen := arp[4]?
    let plen := arp[5]?
    let opcode := ofBigEndian (slice arp 6 8)
    if htype ≠ 1 ∨ ptype ≠ 0x0800 ∨ hlen ≠ some 6 ∨ plen ≠ some 4 then none
    else
      some {
        opcode
        sha := slice arp 8 14
        spa := slice arp 14 18
        tha := slice arp 18 24
        tpa := slice arp 24 28 }

/-- `_parse_arp`. -/
def parseArp (packet : Bytes) : Option ArpPacket := (arpPart packet).bind readArp

/-! ### Replies -/

/-- `bytes` of a list of integers, none where it raises ValueError. -/
def bytesOfInts (values : List Int) : Option Bytes :=
  values.mapM fun value => if 0 ≤ value ∧ value < 256 then some (UInt8.ofNat value.toNat) else none

/-- `_mac_for_ip`, none where it raises ValueError. -/
def macForIp (unicode : UnicodeData) (ip : String) : Option Bytes :=
  match (splitOn ['.'] ip.toList).mapM (parseInt unicode) with
  | some [first, second, third, fourth] => bytesOfInts [0x02, second, third, fourth, first, 0x00]
  | _ => some [0x02, 0x00, 0x00, 0x00, 0x00, 0x00]

/-- `_is_arp_for_us`. -/
def isArpForUs (packet : Bytes) (ourIps : List String) : Bool :=
  match parseArp packet with
  | none => false
  | some arp =>
    if arp.opcode ≠ 1 then false
    else
      match inetNtoa arp.tpa with
      | .error _ => false
      | .ok targetIp => decide (targetIp ∈ ourIps)

/-- A field of `width` bytes as `struct.pack` writes it, cut off or padded with zeros. -/
def packField (width : Nat) (data : Bytes) : Bytes :=
  data.take width ++ List.replicate (width - data.length) 0

/-- `struct.pack` of an ARP packet for IPv4 over Ethernet. -/
def packArp (arp : ArpPacket) : Bytes :=
  toBigEndian 2 1 ++ toBigEndian 2 0x0800 ++ [6, 4] ++ toBigEndian 2 arp.opcode ++
    packField 6 arp.sha ++ packField 4 arp.spa ++ packField 6 arp.tha ++ packField 4 arp.tpa

/-- `_build_arp_reply_for_tun`, none where it raises. -/
def buildArpReplyForTun {Peer : Type} (unicode : UnicodeData) (packet : Bytes)
    (ipToPeer : Dict String Peer) : Option (Option Bytes) :=
  match parseArp packet with
  | none => some none
  | some arp =>
    if arp.opcode ≠ 1 then some none
    else
      match inetNtoa arp.tpa with
      | .error _ => some none
      | .ok targetIp =>
        if ipToPeer.contains targetIp = false then some none
        else do
          let ourMac ← macForIp unicode targetIp
          some (some (packArp {
            opcode := 2
            sha := ourMac
            spa := arp.tpa
            tha := arp.sha
            tpa := arp.spa }))

/-! ### Packets that are well formed -/

/-- The fields of an ARP packet with the sizes they have in a packet for IPv4 over Ethernet. -/
structure ArpMessage extends ArpPacket where
  opcodeFits : opcode < 2 ^ 16
  shaLength : sha.length = 6
  spaLength : spa.length = 4
  thaLength : tha.length = 6
  tpaLength : tpa.length = 4

/-- The addresses of an Ethernet header whose type is that of ARP. -/
structure EthernetHeader where
  destination : Bytes
  source : Bytes
  destinationLength : destination.length = 6
  sourceLength : source.length = 6

/-- The packet behind the header. -/
def EthernetHeader.frame (header : EthernetHeader) (packet : Bytes) : Bytes :=
  header.destination ++ header.source ++ [0x08, 0x06] ++ packet

/-- The packet without a header, 28 bytes. -/
def ArpMessage.raw (message : ArpMessage) : Bytes := packArp message.toArpPacket

/-- The last two bytes of the sender's MAC are those of the type of ARP. -/
def ArpMessage.LooksFramed (message : ArpMessage) : Prop := slice message.sha 4 6 = [0x08, 0x06]

instance (message : ArpMessage) : Decidable message.LooksFramed :=
  inferInstanceAs (Decidable (_ = _))

theorem packField_of_length {width : Nat} {data : Bytes} (fits : data.length = width) :
    packField width data = data := by
  rw [packField, List.take_of_length_le (Nat.le_of_eq fits), fits, Nat.sub_self,
    List.replicate_zero, List.append_nil]

/-- What stands in front of the addresses. -/
def arpFront (opcode : Nat) : Bytes := [0x00, 0x01, 0x08, 0x00, 6, 4] ++ toBigEndian 2 opcode

theorem length_arpFront (opcode : Nat) : (arpFront opcode).length = 8 := by
  rw [arpFront, List.length_append, toBigEndian_length]
  rfl

namespace ArpMessage

variable (message : ArpMessage)

theorem raw_eq :
    message.raw =
      arpFront message.opcode ++ message.sha ++ message.spa ++ message.tha ++ message.tpa := by
  have htype : toBigEndian 2 1 = [0x00, 0x01] := by decide
  have ptype : toBigEndian 2 0x0800 = [0x08, 0x00] := by decide
  rw [raw, packArp, packField_of_length message.shaLength, packField_of_length message.spaLength,
    packField_of_length message.thaLength, packField_of_length message.tpaLength, htype, ptype]
  rfl

theorem length_raw : message.raw.length = 28 := by
  rw [message.raw_eq]
  simp only [List.length_append, length_arpFront, message.shaLength, message.spaLength,
    message.thaLength, message.tpaLength]

/-- Bytes in front of the addresses are those of the fixed part. -/
theorem slice_raw_front {start stop : Nat} (inside : stop ≤ 8) :
    slice message.raw start stop = slice (arpFront message.opcode) start stop := by
  rw [message.raw_eq, List.append_assoc, List.append_assoc, List.append_assoc]
  exact slice_append_left _ _ _ _ (by rw [length_arpFront]; exact inside)

theorem slice_raw_opcode : slice message.raw 6 8 = toBigEndian 2 message.opcode := by
  have middle := slice_append_middle [0x00, 0x01, 0x08, 0x00, 6, 4]
    (toBigEndian 2 message.opcode) [] 6 8 rfl (by rw [toBigEndian_length]; rfl)
  rw [List.append_nil] at middle
  rw [message.slice_raw_front le_rfl, arpFront, middle]

theorem slice_raw_sha : slice message.raw 8 14 = message.sha := by
  rw [message.raw_eq, List.append_assoc, List.append_assoc]
  exact slice_append_middle _ _ _ _ _ (length_arpFront _).symm
    (by rw [length_arpFront, message.shaLength])

theorem slice_raw_spa : slice message.raw 14 18 = message.spa := by
  rw [message.raw_eq, List.append_assoc]
  refine slice_append_middle _ _ _ _ _ ?_ ?_
  · rw [List.length_append, length_arpFront, message.shaLength]
  · rw [List.length_append, length_arpFront, message.shaLength, message.spaLength]

theorem slice_raw_tha : slice message.raw 18 24 = message.tha := by
  rw [message.raw_eq]
  refine slice_append_middle _ _ _ _ _ ?_ ?_
  · rw [List.length_append, List.length_append, length_arpFront, message.shaLength,
      message.spaLength]
  · rw [List.length_append, List.length_append, length_arpFront, message.shaLength,
      message.spaLength, message.thaLength]

theorem slice_raw_tpa : slice message.raw 24 28 = message.tpa := by
  have front : (arpFront message.opcode ++ message.sha ++ message.spa ++ message.tha).length =
      24 := by
    rw [List.length_append, List.length_append, List.length_append, length_arpFront,
      message.shaLength, message.spaLength, message.thaLength]
  rw [message.raw_eq, slice, ← front, List.drop_left, front,
    List.take_of_length_le (Nat.le_of_eq message.tpaLength)]

/-- The fields are read where they were written. -/
theorem readArp_raw : readArp message.raw = some message.toArpPacket := by
  have opcode : ofBigEndian (slice message.raw 6 8) = message.opcode := by
    rw [message.slice_raw_opcode]
    exact ofBigEndian_toBigEndian_of_lt 2 _ message.opcodeFits
  have htype : ofBigEndian (slice message.raw 0 2) = 1 := by
    rw [message.slice_raw_front (by decide)]
    rfl
  have ptype : ofBigEndian (slice message.raw 2 4) = 0x0800 := by
    rw [message.slice_raw_front (by decide)]
    rfl
  have hlen : message.raw[4]? = some 6 := by
    rw [message.raw_eq]
    rfl
  have plen : message.raw[5]? = some 4 := by
    rw [message.raw_eq]
    rfl
  rw [readArp, if_neg (by rw [message.length_raw]; decide)]
  dsimp only
  rw [htype, ptype, hlen, plen, if_neg (by decide), opcode, message.slice_raw_sha,
    message.slice_raw_spa, message.slice_raw_tha, message.slice_raw_tpa]

/-- The place of the type in a packet without a header holds the end of the sender's MAC. -/
theorem slice_raw_type : slice message.raw 12 14 = slice message.sha 4 6 := by
  rw [← message.slice_raw_sha, slice, slice, slice, List.drop_take, List.drop_drop, List.take_take]
  rfl

/-- Without a header, the whole packet is the ARP part, unless the end of the sender's MAC looks
like a type. -/
theorem parseArp_raw :
    parseArp message.raw = if message.LooksFramed then none else some message.toArpPacket := by
  have length := message.length_raw
  have nonempty : message.raw ≠ [] := by
    intro empty
    rw [empty] at length
    cases length
  by_cases looks : message.LooksFramed
  · -- Of 28 bytes, 14 are left behind what is taken for a header.
    rw [if_pos looks, parseArp, arpPart, if_neg nonempty,
      if_pos ⟨by omega, message.slice_raw_type.trans looks⟩, Option.bind_some, readArp, if_pos]
    rw [List.length_drop, length]
    decide
  · have htype : slice message.raw 0 2 = [0x00, 0x01] := message.slice_raw_front (by decide)
    have ptype : slice message.raw 2 4 = [0x08, 0x00] := message.slice_raw_front (by decide)
    rw [if_neg looks, parseArp, arpPart, if_neg nonempty,
      if_neg fun typed => looks (message.slice_raw_type.symm.trans typed.2),
      if_pos ⟨Nat.le_of_eq length.symm, htype, ptype⟩, Option.bind_some, message.readArp_raw]

/-- Behind a header, every packet is read. -/
theorem parseArp_frame (header : EthernetHeader) :
    parseArp (header.frame message.raw) = some message.toArpPacket := by
  have addresses : (header.destination ++ header.source).length = 12 := by
    rw [List.length_append, header.destinationLength, header.sourceLength]
  have front : (header.destination ++ header.source ++ [0x08, 0x06]).length = 14 := by
    rw [List.length_append, addresses]
    rfl
  have length : 14 ≤ (header.frame message.raw).length := by
    rw [EthernetHeader.frame, List.length_append, front]
    exact Nat.le_add_right ..
  have nonempty : header.frame message.raw ≠ [] := by
    intro empty
    rw [empty] at length
    exact absurd length (by decide)
  have typed : slice (header.frame message.raw) 12 14 = [0x08, 0x06] :=
    slice_append_middle _ _ _ _ _ addresses.symm (by rw [addresses]; rfl)
  have behind : (header.frame message.raw).drop 14 = message.raw := by
    rw [EthernetHeader.frame, ← front, List.drop_left]
  rw [parseArp, arpPart, if_neg nonempty, if_pos ⟨length, typed⟩, Option.bind_some, behind,
    message.readArp_raw]

end ArpMessage

/-! ### Replies to what was parsed -/

/-- What is parsed has fields of the right sizes. -/
theorem exists_message_of_parseArp {packet : Bytes} {arp : ArpPacket}
    (parsed : parseArp packet = some arp) : ∃ message : ArpMessage, message.toArpPacket = arp := by
  obtain ⟨part, -, read⟩ := Option.bind_eq_some_iff.mp parsed
  unfold readArp at read
  split at read
  · cases read
  · rename_i long
    dsimp only at read
    split at read
    · cases read
    · have inside : 28 ≤ part.length := Nat.le_of_not_lt long
      have opcode := ofBigEndian_lt (slice part 6 8)
      rw [slice_length part 6 8 (by omega)] at opcode
      cases read
      exact ⟨⟨_, opcode, slice_length part 8 14 (by omega), slice_length part 14 18 (by omega),
        slice_length part 18 24 (by omega), slice_length part 24 28 inside⟩, rfl⟩

theorem dot_not_mem_decimalText (number : Nat) : '.' ∉ decimalText number := fun member =>
  absurd (isDigit_of_mem_decimalText member) (by decide)

/-- The symbols of an address. -/
theorem toList_dotted (first second third fourth : UInt8) :
    (s!"{first}.{second}.{third}.{fourth}").toList =
      decimalText first.toNat ++ '.' :: (decimalText second.toNat ++ '.' ::
        (decimalText third.toNat ++ '.' :: decimalText fourth.toNat)) := by
  have text (byte : UInt8) : (toString byte).toList = decimalText byte.toNat := Nat.toList_repr
  have dot : (toString ".").toList = ['.'] := rfl
  simp only [String.toList_append, text, dot, List.append_assoc, List.cons_append,
    List.nil_append]

/-- Every address has a MAC, which ends in the first number of the address and a zero. -/
theorem macForIp_dotted (unicode : UnicodeData) (first second third fourth : UInt8) :
    macForIp unicode s!"{first}.{second}.{third}.{fourth}" =
      some [0x02, second, third, fourth, first, 0x00] := by
  have byte (value : UInt8) :
      (if 0 ≤ (value.toNat : Int) ∧ (value.toNat : Int) < 256 then
        some (UInt8.ofNat (value.toNat : Int).toNat) else none) = some value := by
    have small := value.toNat_lt
    rw [if_pos (by omega), Int.toNat_natCast, UInt8.ofNat_toNat]
  have read (value : UInt8) :
      parseInt unicode (decimalText value.toNat) = some (value.toNat : Int) := by
    have short : (decimalText value.toNat).length ≤ 3 :=
      (Nat.length_toDigits_le_iff (by decide) (by decide)).mpr
        (Nat.lt_of_lt_of_le value.toNat_lt (by decide))
    exact parseInt_decimalText unicode (short.trans (by decide))
  rw [macForIp, toList_dotted, splitOn_symbol _ (dot_not_mem_decimalText _),
    splitOn_symbol _ (dot_not_mem_decimalText _), splitOn_symbol _ (dot_not_mem_decimalText _),
    splitOn_of_not_mem (dot_not_mem_decimalText _)]
  simp only [List.mapM_cons, List.mapM_nil, read, Option.pure_def,
    Option.bind_eq_bind, Option.bind_some, bytesOfInts, byte]
  rfl

/-- A packet is answered with no bytes, or it is a request and the answer is a packet with the
addresses of sender and target swapped, from a MAC that does not look like the type of ARP. -/
theorem buildArpReplyForTun_cases {Peer : Type} (unicode : UnicodeData) (packet : Bytes)
    (ipToPeer : Dict String Peer) :
    buildArpReplyForTun unicode packet ipToPeer = some none ∨
      ∃ request answer : ArpMessage,
        parseArp packet = some request.toArpPacket ∧ request.opcode = 1 ∧
        buildArpReplyForTun unicode packet ipToPeer = some (some answer.raw) ∧
        ¬ answer.LooksFramed ∧ answer.opcode = 2 ∧ answer.spa = request.tpa ∧
        answer.tha = request.sha ∧ answer.tpa = request.spa := by
  cases parsed : parseArp packet with
  | none =>
    left
    rw [buildArpReplyForTun, parsed]
  | some arp =>
    obtain ⟨request, rfl⟩ := exists_message_of_parseArp parsed
    by_cases isRequest : request.opcode = 1
    · obtain ⟨first, second, third, fourth, target⟩ : ∃ first second third fourth,
          request.tpa = [first, second, third, fourth] := by
        have length := request.tpaLength
        match request.tpa, length with
        | [first, second, third, fourth], _ => exact ⟨first, second, third, fourth, rfl⟩
      have ip : inetNtoa request.tpa = .ok s!"{first}.{second}.{third}.{fourth}" := by
        rw [target]
        rfl
      by_cases ours : ipToPeer.contains s!"{first}.{second}.{third}.{fourth}" = false
      · left
        rw [buildArpReplyForTun, parsed]
        dsimp only
        rw [if_neg (not_not_intro isRequest), ip]
        dsimp only
        rw [if_pos ours]
      · right
        refine ⟨request, {
          opcode := 2
          sha := [0x02, second, third, fourth, first, 0x00]
          spa := request.tpa
          tha := request.sha
          tpa := request.spa
          opcodeFits := by decide
          shaLength := rfl
          spaLength := request.tpaLength
          thaLength := request.shaLength
          tpaLength := request.spaLength }, rfl, isRequest, ?_, ?_, rfl, rfl, rfl, rfl⟩
        · rw [buildArpReplyForTun, parsed]
          dsimp only
          rw [if_neg (not_not_intro isRequest), ip]
          dsimp only
          rw [if_neg ours, macForIp_dotted]
          rfl
        · intro looks
          have last : [first, 0x00] = [0x08, 0x06] := looks
          exact absurd (List.cons.inj (List.cons.inj last).2).1 (by decide)
    · left
      rw [buildArpReplyForTun, parsed]
      dsimp only
      rw [if_pos isRequest]

/-! ### Both forms of a packet -/

variable {Peer : Type} (unicode : UnicodeData)

/-- Without a header and behind it, a packet is the same to every helper. -/
structure FormsAgree (message : ArpMessage) (header : EthernetHeader) (ourIps : List String)
    (ipToPeer : Dict String Peer) : Prop where
  raw : parseArp message.raw = some message.toArpPacket
  framed : parseArp (header.frame message.raw) = some message.toArpPacket
  forUs : isArpForUs message.raw ourIps = isArpForUs (header.frame message.raw) ourIps
  reply : buildArpReplyForTun unicode message.raw ipToPeer =
    buildArpReplyForTun unicode (header.frame message.raw) ipToPeer

/-- Every reply is read as a reply, to the sender of the packet and from the address it asked
for. -/
def RepliesSwap (ipToPeer : Dict String Peer) : Prop :=
  ∀ packet reply, buildArpReplyForTun unicode packet ipToPeer = some (some reply) →
    ∃ request answer, parseArp packet = some request ∧ parseArp reply = some answer ∧
      answer.opcode = 2 ∧ answer.spa = request.tpa ∧ answer.tpa = request.spa ∧
      answer.tha = request.sha

theorem repliesSwap (ipToPeer : Dict String Peer) : RepliesSwap unicode ipToPeer := by
  intro packet reply built
  rcases buildArpReplyForTun_cases unicode packet ipToPeer with
    none | ⟨request, answer, parsed, -, some, unlike, opcode, spa, tha, tpa⟩
  · rw [none] at built
    cases built
  · rw [some] at built
    cases built
    refine ⟨request.toArpPacket, answer.toArpPacket, parsed, ?_, opcode, spa, tpa, tha⟩
    rw [answer.parseArp_raw, if_neg unlike]

/-- What the helpers make of a packet depends on what is parsed alone. -/
theorem formsAgree_of_parseArp {message : ArpMessage} {header : EthernetHeader}
    (ourIps : List String) (ipToPeer : Dict String Peer)
    (raw : parseArp message.raw = some message.toArpPacket) :
    FormsAgree unicode message header ourIps ipToPeer := by
  have framed := message.parseArp_frame header
  have same : parseArp message.raw = parseArp (header.frame message.raw) := raw.trans framed.symm
  refine ⟨raw, framed, ?_, ?_⟩
  · rw [isArpForUs, isArpForUs, same]
  · rw [buildArpReplyForTun, buildArpReplyForTun, same]

/-- The forms agree for exactly those packets whose sender's MAC does not end in the type of
ARP. -/
theorem arp_forms_iff (message : ArpMessage) (header : EthernetHeader) (ourIps : List String)
    (ipToPeer : Dict String Peer) :
    FormsAgree unicode message header ourIps ipToPeer ∧ RepliesSwap unicode ipToPeer ↔
      ¬ message.LooksFramed := by
  constructor
  · intro agree looks
    have raw := agree.1.raw
    rw [message.parseArp_raw, if_pos looks] at raw
    cases raw
  · intro unlike
    have raw : parseArp message.raw = some message.toArpPacket := by
      rw [message.parseArp_raw, if_neg unlike]
    exact ⟨formsAgree_of_parseArp unicode ourIps ipToPeer raw, repliesSwap unicode ipToPeer⟩

/-- A request for 25.1.0.1 from a MAC that ends in the type of ARP. -/
def hiddenRequest : ArpMessage where
  opcode := 1
  sha := [0xaa, 0xbb, 0xcc, 0xdd, 0x08, 0x06]
  spa := [25, 2, 0, 1]
  tha := [0, 0, 0, 0, 0, 0]
  tpa := [25, 1, 0, 1]
  opcodeFits := by decide
  shaLength := rfl
  spaLength := rfl
  thaLength := rfl
  tpaLength := rfl

def broadcastHeader : EthernetHeader where
  destination := [0xff, 0xff, 0xff, 0xff, 0xff, 0xff]
  source := [0xaa, 0xbb, 0xcc, 0xdd, 0x08, 0x06]
  destinationLength := rfl
  sourceLength := rfl

/-- It is parsed behind a header and dropped without one. -/
theorem arp_forms_differ :
    parseArp hiddenRequest.raw = none ∧
      parseArp (broadcastHeader.frame hiddenRequest.raw) = some hiddenRequest.toArpPacket ∧
      isArpForUs hiddenRequest.raw ["25.1.0.1"] = false ∧
      isArpForUs (broadcastHeader.frame hiddenRequest.raw) ["25.1.0.1"] = true := by
  decide

end LocalNetwork
