/-
This file proves what the loop over a chunked body does with any bytes. At a position inside
the body the loop sees the bytes from there on: it cuts a size line off, and either takes a
chunk and goes on behind it or ends.

A size may be a negative number. The loop goes forward as long as no size line gives one
that is too small, and then it ends; otherwise it goes back to a place where it has been.

A body that was written in chunks is never read as it was written. Behind the size line of
the last chunk the loop looks for an empty line with the end of a line before it, and that
end of a line is the one it has just skipped.
-/

import LocalNetwork.Delimiters
import LocalNetwork.HttpParser

namespace LocalNetwork

/-! ### Positions -/

theorem pythonIndex_append (before after : Bytes) :
    pythonIndex (before ++ after).length (before.length : Int) = before.length := by
  rw [pythonIndex, if_neg (by omega), Int.toNat_natCast, List.length_append]
  omega

theorem pythonFind_append (pattern before after : Bytes) :
    pythonFind pattern (before ++ after) before.length =
      match cutAt pattern after with
      | some (front, _) => ((before.length + front.length : Nat) : Int)
      | none => -1 := by
  rw [pythonFind, pythonIndex_append, List.drop_left]
  cases cutAt pattern after <;> simp

theorem pythonSlice_append (before middle after : Bytes) :
    pythonSlice (before ++ (middle ++ after)) before.length
      ((before.length + middle.length : Nat) : Int) = middle := by
  have stop := pythonIndex_append (before ++ middle) after
  rw [List.append_assoc] at stop
  rw [pythonSlice, pythonIndex_append, ← List.length_append, stop, slice, List.drop_left,
    List.length_append, Nat.add_sub_cancel_left, List.take_left]

/-- A line is read back from the place before it. -/
theorem pythonSlice_of_cutAt {pattern after line rest : Bytes}
    (cut : cutAt pattern after = some (line, rest)) (before : Bytes) :
    pythonSlice (before ++ after) before.length ((before.length + line.length : Nat) : Int) = line := by
  rw [(cutAt_some cut).1]
  exact pythonSlice_append before line _

/-! ### Turns of the loop -/

/-- Where the chunk begins whose size stands at a position, and the size, if the loop takes the chunk
and goes on behind it. -/
def chunkAt (data : Bytes) (pos : Int) : Option (Int × Int) :=
  let eol := pythonFind crlfBytes data pos
  if pos < data.length ∧ eol ≠ -1 then
    match parseHex (pythonSlice data pos eol) with
    | some chunkSize =>
      if chunkSize ≠ 0 ∧ eol + 2 + chunkSize + 2 ≤ data.length then some (eol + 2, chunkSize) else none
    | none => none
  else none

/-- The positions where a turn of the loop begins. -/
inductive Visits (data : Bytes) : Int → Prop
  | first : Visits data 0
  | next {pos start chunkSize : Int} (before : Visits data pos)
    (found : chunkAt data pos = some (start, chunkSize)) : Visits data (start + chunkSize + 2)

/-- A turn that takes a chunk goes on behind it, and another one ends the loop. -/
theorem parseChunks_succ (data : Bytes) (turns : Nat) (pos : Int) (result : Bytes) :
    parseChunks data (turns + 1) pos result =
      match chunkAt data pos with
      | some (start, chunkSize) =>
        parseChunks data turns (start + chunkSize + 2)
          (result ++ pythonSlice data start (start + chunkSize))
      | none => parseChunks data 1 pos result := by
  unfold chunkAt
  simp only [parseChunks]
  by_cases inside : pos < data.length
  · by_cases missing : pythonFind crlfBytes data pos = -1
    · simp [inside, missing]
    · cases parseHex (pythonSlice data pos (pythonFind crlfBytes data pos)) with
      | none => simp [inside, missing]
      | some chunkSize =>
        by_cases last : chunkSize = 0
        · simp [inside, missing, last]
        · by_cases short : data.length < pythonFind crlfBytes data pos + 2 + chunkSize + 2
          · simp [inside, missing, last, short, Int.not_le.mpr short]
          · simp [inside, missing, last, short, Int.not_lt.mp short]
  · simp [inside]

/-- A turn that takes no chunk has a result. -/
theorem parseChunks_ends {data : Bytes} {pos : Int} (ends : chunkAt data pos = none)
    (turns : Nat) (result : Bytes) : parseChunks data (turns + 1) pos result ≠ .error .running := by
  rw [parseChunks_succ, ends]
  simp only
  unfold chunkAt at ends
  simp only [parseChunks] at ends ⊢
  split
  · rename_i inside
    split
    · simp
    · rename_i present
      cases number : parseHex (pythonSlice data pos (pythonFind crlfBytes data pos)) with
      | none => simp
      | some chunkSize =>
        rw [number] at ends
        simp only
        split
        · split <;> simp
        · rename_i more
          rw [if_pos ⟨inside, present⟩] at ends
          simp only at ends
          split at ends
          · cases ends
          · rename_i short
            rw [if_pos (Int.not_le.mp fun fits => short ⟨more, fits⟩)]
            simp
  · simp

/-- More turns do not change a result. -/
theorem parseChunks_add {data : Bytes} (more : Nat) {turns : Nat} {pos : Int} {result : Bytes}
    (ended : parseChunks data turns pos result ≠ .error .running) :
    parseChunks data (turns + more) pos result = parseChunks data turns pos result := by
  induction turns generalizing pos result with
  | zero => exact absurd rfl ended
  | succ turns inductionHypothesis =>
    rw [Nat.add_right_comm, parseChunks_succ, parseChunks_succ data turns]
    rw [parseChunks_succ] at ended
    cases found : chunkAt data pos with
    | none => rfl
    | some chunk =>
      rw [found] at ended
      exact inductionHypothesis ended

/-! ### Size lines -/

/-- A turn that takes a chunk, on the bytes from its position on. -/
theorem chunkAt_append_eq_some_iff {before after : Bytes} {start chunkSize : Int} :
    chunkAt (before ++ after) before.length = some (start, chunkSize) ↔
      ∃ line rest, cutAt crlfBytes after = some (line, rest) ∧ parseHex line = some chunkSize ∧
        chunkSize ≠ 0 ∧ chunkSize + 2 ≤ rest.length ∧ start = before.length + line.length + 2 := by
  unfold chunkAt
  simp only [pythonFind_append]
  cases cut : cutAt crlfBytes after with
  | none => simp
  | some parts =>
    obtain ⟨line, rest⟩ := parts
    have size : after.length = line.length + 2 + rest.length := length_of_cutAt cut
    have here : ((before.length : Int) < (before ++ after).length ∧
        ((before.length + line.length : Nat) : Int) ≠ -1) := by
      rw [List.length_append]
      omega
    simp only [if_pos here, pythonSlice_of_cutAt cut, Option.some.injEq, Prod.mk.injEq]
    cases number : parseHex line with
    | none =>
      constructor
      · intro found
        cases found
      · rintro ⟨_, _, ⟨rfl, rfl⟩, other, -⟩
        rw [number] at other
        cases other
    | some other =>
      simp only [List.length_append, size]
      constructor
      · intro found
        split at found
        · rename_i fits
          obtain ⟨rfl, rfl⟩ := Prod.mk.inj (Option.some.inj found)
          exact ⟨line, rest, ⟨rfl, rfl⟩, number, fits.1, by omega, by omega⟩
        · cases found
      · rintro ⟨_, _, ⟨rfl, rfl⟩, same, more, fits, rfl⟩
        obtain rfl := Option.some.inj (number.symm.trans same)
        rw [if_pos ⟨more, by omega⟩, Nat.cast_add]

/-- The size lines of a body and the numbers on them: the first line, and the size lines of what
follows a chunk, if its size line leads forward. -/
inductive SizeLine : Bytes → Bytes → Int → Prop
  | first {body line rest : Bytes} {chunkSize : Int}
    (cut : cutAt crlfBytes body = some (line, rest)) (number : parseHex line = some chunkSize) :
    SizeLine body line chunkSize
  | later {body line rest other : Bytes} {chunkSize otherSize : Int}
    (cut : cutAt crlfBytes body = some (line, rest)) (number : parseHex line = some chunkSize)
    (more : chunkSize ≠ 0) (fits : chunkSize + 2 ≤ rest.length)
    (forward : 0 < line.length + 4 + chunkSize)
    (behind : SizeLine (body.drop (line.length + 4 + chunkSize).toNat) other otherSize) :
    SizeLine body other otherSize

/-- No size line gives a negative number that leads back over the line. -/
def SizesAdvance (body : Bytes) : Prop :=
  ∀ line chunkSize, SizeLine body line chunkSize → -(line.length + 4 : Int) < chunkSize

/-- A turn on a body whose sizes advance: some bytes of it are passed, and so do the sizes of the
others. -/
theorem SizesAdvance.next {before after : Bytes} {start chunkSize : Int}
    (advance : SizesAdvance after)
    (found : chunkAt (before ++ after) before.length = some (start, chunkSize)) :
    ∃ front rest, after = front ++ rest ∧ 0 < front.length ∧
      start + chunkSize + 2 = (before ++ front).length ∧ SizesAdvance rest := by
  obtain ⟨line, rest, cut, number, more, fits, rfl⟩ := chunkAt_append_eq_some_iff.mp found
  have forward : 0 < line.length + 4 + chunkSize := by
    have bound := advance line chunkSize (.first cut number)
    omega
  have size : after.length = line.length + 2 + rest.length := length_of_cutAt cut
  refine ⟨after.take (line.length + 4 + chunkSize).toNat,
    after.drop (line.length + 4 + chunkSize).toNat, (List.take_append_drop _ _).symm, ?_, ?_,
    fun other otherSize behind => advance other otherSize
      (.later cut number more fits forward behind)⟩
  · rw [List.length_take]
    omega
  · rw [List.length_append, List.length_take]
    omega

/-- Where sizes advance the loop ends after as many turns as there are bytes, and one more. -/
theorem SizesAdvance.parseChunks_ne_running {turns : Nat} {before after : Bytes}
    (advance : SizesAdvance after) (enough : after.length < turns) (result : Bytes) :
    parseChunks (before ++ after) turns before.length result ≠ .error .running := by
  induction turns generalizing before after result with
  | zero => omega
  | succ turns inductionHypothesis =>
    cases found : chunkAt (before ++ after) before.length with
    | none => exact parseChunks_ends found turns result
    | some chunk =>
      obtain ⟨start, chunkSize⟩ := chunk
      obtain ⟨front, rest, rfl, passed, next, advanceRest⟩ := advance.next found
      rw [parseChunks_succ, found]
      simp only
      rw [next, ← List.append_assoc]
      rw [List.length_append] at enough
      exact inductionHypothesis advanceRest (by omega) _

/-- Where sizes advance every turn of the loop begins behind some of the bytes. -/
theorem SizesAdvance.visits {data : Bytes} (advance : SizesAdvance data) {pos : Int}
    (visited : Visits data pos) :
    ∃ before after, data = before ++ after ∧ pos = before.length ∧ SizesAdvance after := by
  induction visited with
  | first => exact ⟨[], data, rfl, rfl, advance⟩
  | next _ found inductionHypothesis =>
    obtain ⟨before, after, rfl, rfl, advanceAfter⟩ := inductionHypothesis
    obtain ⟨front, rest, rfl, -, next, advanceRest⟩ := advanceAfter.next found
    exact ⟨before ++ front, rest, (List.append_assoc _ _ _).symm, next, advanceRest⟩

/-- Every size line of what follows a visited position advances, if the loop does. -/
theorem SizeLine.advances {data after line : Bytes} {chunkSize : Int}
    (sizeLine : SizeLine after line chunkSize)
    (increases : ∀ pos start chunkSize, Visits data pos →
      chunkAt data pos = some (start, chunkSize) → pos < start + chunkSize + 2) :
    ∀ before, data = before ++ after → Visits data before.length →
      -(line.length + 4 : Int) < chunkSize := by
  induction sizeLine with
  | @first body line rest chunkSize cut number =>
    rintro before rfl visited
    by_contra small
    have taken := (@chunkAt_append_eq_some_iff before body _ chunkSize).mpr
      ⟨line, rest, cut, number, by omega, by omega, rfl⟩
    have further := increases _ _ _ visited taken
    omega
  | @later body line rest other chunkSize otherSize cut number more fits forward _
      inductionHypothesis =>
    rintro before rfl visited
    have taken := (@chunkAt_append_eq_some_iff before body _ chunkSize).mpr
      ⟨line, rest, cut, number, more, fits, rfl⟩
    have size : body.length = line.length + 2 + rest.length := length_of_cutAt cut
    refine inductionHypothesis (before ++ body.take (line.length + 4 + chunkSize).toNat) ?_ ?_
    · rw [List.append_assoc, List.take_append_drop]
    · have place : ((before ++ body.take (line.length + 4 + chunkSize).toNat).length : Int) =
          before.length + line.length + 2 + chunkSize + 2 := by
        rw [List.length_append, List.length_take]
        omega
      rw [place]
      exact .next visited taken

/-- The loop ends and its position increases with every turn after which it goes on, if and only if
no size line leads back. -/
theorem parseChunked_terminates_iff (data : Bytes) :
    ((∃ turns, parseChunked turns data ≠ .error .running) ∧
      ∀ pos start chunkSize, Visits data pos → chunkAt data pos = some (start, chunkSize) →
        pos < start + chunkSize + 2) ↔ SizesAdvance data := by
  constructor
  · rintro ⟨-, increases⟩ line chunkSize sizeLine
    exact sizeLine.advances increases [] rfl .first
  · intro advance
    have ends := @SizesAdvance.parseChunks_ne_running (data.length + 1) [] data advance
      (Nat.lt_succ_self _) []
    refine ⟨⟨data.length + 1, ends⟩, fun pos start chunkSize visited found => ?_⟩
    obtain ⟨before, after, rfl, rfl, advanceAfter⟩ := advance.visits visited
    obtain ⟨front, rest, -, passed, next, -⟩ := advanceAfter.next found
    rw [next, List.length_append]
    omega

/-- A size of −6 leads back to the beginning of its line, and the loop reads it for ever. -/
theorem parseChunked_never_ends :
    (∀ turns, parseChunked turns (encodeText "-6\r\n".toList) = .error .running) ∧
      Visits (encodeText "-6\r\n".toList) 0 ∧
      chunkAt (encodeText "-6\r\n".toList) 0 = some (4, -6) := by
  have taken : chunkAt (encodeText "-6\r\n".toList) 0 = some (4, -6) := by decide
  refine ⟨fun turns => ?_, .first, taken⟩
  have again : ∀ result, parseChunks (encodeText "-6\r\n".toList) turns 0 result =
      .error .running := by
    induction turns with
    | zero => exact fun _ => rfl
    | succ turns inductionHypothesis =>
      intro result
      rw [parseChunks_succ, taken]
      exact inductionHypothesis _
  exact again []

/-! ### Sizes in hexadecimal digits -/

/-- Bytes that are hexadecimal digits of a number. -/
def Spells (digits : Bytes) (number : Nat) : Prop :=
  (∀ byte ∈ digits, isHexDigit byte = true) ∧
    readNumber hexValue 16 (digits.map fun byte => Char.ofNat byte.toNat) = some number

-- The digits are looked at one by one, not all bytes that could be among them.
instance (digits : Bytes) (number : Nat) : Decidable (Spells digits number) :=
  @instDecidableAnd _ _ (List.decidableBAll _ digits) (inferInstanceAs (Decidable (_ = _)))

theorem byte_induction {property : UInt8 → Prop}
    (each : ∀ code : Fin 256, property (UInt8.ofNat code)) (byte : UInt8) : property byte := by
  have here := each ⟨byte.toNat, byte.toNat_lt⟩
  rwa [UInt8.ofNat_toNat] at here

/-- A hexadecimal digit is no blank, no sign, no part of `0x` and not in the end of a line. -/
theorem isHexDigit_plain (byte : UInt8) (digit : isHexDigit byte = true) :
    isAsciiSpace byte = false ∧ byte ≠ 13 ∧ Char.ofNat byte.toNat ∉ ['+', '-', 'x', 'X'] := by
  revert digit
  exact @byte_induction (fun byte => isHexDigit byte = true → isAsciiSpace byte = false ∧
    byte ≠ 13 ∧ Char.ofNat byte.toNat ∉ ['+', '-', 'x', 'X']) (by decide +kernel) byte

theorem readHex_of_not_mem {text : Text} (small : 'x' ∉ text) (large : 'X' ∉ text) :
    readHex text = readNumber hexValue 16 text := by
  unfold readHex
  split <;> simp_all

theorem readSigned_of_not_mem {text : Text} (read : Text → Option Nat) (plus : '+' ∉ text)
    (minus : '-' ∉ text) : readSigned read text = (read text).map Int.ofNat := by
  unfold readSigned
  split <;> simp_all

/-- A number in hexadecimal digits is read as it is. -/
theorem Spells.parseHex_eq {digits : Bytes} {number : Nat} (spells : Spells digits number) :
    parseHex digits = some (number : Int) := by
  have blank : stripBlanks isAsciiSpace digits = digits :=
    stripBlanks_of_ends isAsciiSpace
      (fun byte head => (isHexDigit_plain byte (spells.1 byte (List.mem_of_mem_head? head))).1)
      (fun byte last => (isHexDigit_plain byte (spells.1 byte (List.mem_of_mem_getLast? last))).1)
  have plain : ∀ char ∈ ['+', '-', 'x', 'X'],
      char ∉ digits.map fun byte => Char.ofNat byte.toNat := by
    intro char sign member
    obtain ⟨byte, digit, rfl⟩ := List.mem_map.mp member
    exact (isHexDigit_plain byte (spells.1 byte digit)).2.2 sign
  rw [parseHex, blank, readSigned_of_not_mem _ (plain _ (by simp)) (plain _ (by simp)),
    readHex_of_not_mem (plain _ (by simp)) (plain _ (by simp)), spells.2]
  rfl

theorem Spells.not_mem {digits : Bytes} {number : Nat} (spells : Spells digits number) :
    13 ∉ digits :=
  fun member => (isHexDigit_plain 13 (spells.1 13 member)).2.1 rfl

/-- Digits without underscores count from the left. -/
theorem readDigits_hex {text : Text} (digits : ∀ char ∈ text, (hexValue char).isSome = true)
    (value : Nat) : readDigits hexValue 16 value text =
      some (text.foldl (fun value char => 16 * value + (hexValue char).getD 0) value) := by
  induction text generalizing value with
  | nil => rfl
  | cons char text inductionHypothesis =>
    obtain ⟨digit, is⟩ := Option.isSome_iff_exists.mp (digits char (List.mem_cons_self ..))
    have rest := inductionHypothesis fun other member => digits other (List.mem_cons_of_mem _ member)
    rw [readDigits, is, Option.bind_some, rest, List.foldl_cons, is]
    · rfl
    · rintro other others rfl
      cases is

/-- One digit more. -/
theorem readNumber_concat {text : Text} {char : Char} {value digit : Nat}
    (digits : ∀ other ∈ text, (hexValue other).isSome = true)
    (read : readNumber hexValue 16 text = some value) (is : hexValue char = some digit) :
    readNumber hexValue 16 (text ++ [char]) = some (16 * value + digit) := by
  cases text with
  | nil => cases read
  | cons first text =>
    obtain ⟨start, isFirst⟩ := Option.isSome_iff_exists.mp (digits first (List.mem_cons_self ..))
    have more : ∀ other ∈ text ++ [char], (hexValue other).isSome = true := by
      intro other member
      rcases List.mem_append.mp member with before | last
      · exact digits other (List.mem_cons_of_mem _ before)
      · rw [List.mem_singleton.mp last, is]
        rfl
    rw [readNumber, isFirst, Option.bind_some, readDigits_hex fun other member =>
      digits other (List.mem_cons_of_mem _ member)] at read
    rw [List.cons_append, readNumber, isFirst, Option.bind_some, readDigits_hex more,
      List.foldl_append, Option.some.inj read, List.foldl_cons, is]
    rfl

/-- Every number can be spelled. -/
theorem exists_spells (number : Nat) : ∃ digits, Spells digits number := by
  have digitOf : ∀ value : Fin 16, ∃ byte, isHexDigit byte = true ∧
      hexValue (Char.ofNat byte.toNat) = some value.val := by
    intro value
    refine ⟨UInt8.ofNat (Nat.digitChar value).toNat, ?_⟩
    revert value
    decide
  induction number using Nat.strong_induction_on with
  | _ number inductionHypothesis =>
    obtain ⟨last, isDigit, is⟩ := digitOf ⟨number % 16, Nat.mod_lt _ (by decide)⟩
    simp only at is
    by_cases small : number < 16
    · rw [Nat.mod_eq_of_lt small] at is
      refine ⟨[last], fun byte member => ?_, ?_⟩
      · rwa [List.mem_singleton.mp member]
      · rw [List.map_singleton, readNumber, is]
        rfl
    · obtain ⟨digits, areDigits, read⟩ := inductionHypothesis (number / 16) (by omega)
      refine ⟨digits ++ [last], fun byte member => ?_, ?_⟩
      · rcases List.mem_append.mp member with before | rest
        · exact areDigits byte before
        · rwa [List.mem_singleton.mp rest]
      · rw [List.map_append, List.map_singleton, readNumber_concat _ read is, Nat.div_add_mod]
        intro char member
        obtain ⟨byte, digit, rfl⟩ := List.mem_map.mp member
        exact areDigits byte digit

/-! ### Bodies written in chunks -/

/-- A chunk as it is sent: its size in hexadecimal digits, and bytes. -/
structure WireChunk where
  size : Bytes
  data : Bytes
  spells : Spells size data.length
  nonempty : data ≠ []

namespace WireChunk

/-- The size and the end of its line, the bytes and the end of a line. -/
def encode (chunk : WireChunk) : Bytes :=
  chunk.size ++ (crlfBytes ++ (chunk.data ++ crlfBytes))

theorem cutAt_encode (chunk : WireChunk) (rest : Bytes) :
    cutAt crlfBytes (chunk.encode ++ rest) =
      some (chunk.size, chunk.data ++ (crlfBytes ++ rest)) := by
  have cut := cutAt_append crlfBytes (chunk.data ++ (crlfBytes ++ rest))
  rw [encode]
  simp only [List.append_assoc]
  rw [crlfBytes, cutAt_append_of_not_mem _ chunk.spells.not_mem, ← crlfBytes, cut]
  simp

theorem length_ne_zero (chunk : WireChunk) : (chunk.data.length : Int) ≠ 0 := by
  have positive := List.length_pos_iff.mpr chunk.nonempty
  omega

theorem length_encode (chunk : WireChunk) :
    chunk.encode.length = chunk.size.length + chunk.data.length + 4 := by
  simp only [encode, crlfBytes, List.length_append, List.length_cons, List.length_nil]
  omega

end WireChunk

/-- A chunk of any bytes. -/
theorem exists_wireChunk {data : Bytes} (nonempty : data ≠ []) :
    ∃ chunk : WireChunk, chunk.data = data := by
  obtain ⟨size, spells⟩ := exists_spells data.length
  exact ⟨⟨size, data, spells, nonempty⟩, rfl⟩

/-- The last chunk, without trailers. -/
def lastChunk : Bytes := encodeText "0\r\n\r\n".toList

def encodeChunked (chunks : List WireChunk) : Bytes :=
  chunks.flatMap WireChunk.encode ++ lastChunk

/-- What `_parse_chunked` returns, in however many turns. -/
def Returns (data : Bytes) (outcome : Option (Bytes × Int)) : Prop :=
  ∃ turns, parseChunked turns data = .ok outcome

theorem Returns.unique {data : Bytes} {first second : Option (Bytes × Int)}
    (one : Returns data first) (other : Returns data second) : first = second := by
  have later : ∀ {turns : Nat} {outcome : Option (Bytes × Int)} (more : Nat),
      parseChunked turns data = .ok outcome → parseChunked (turns + more) data = .ok outcome := by
    intro turns outcome more ended
    rw [parseChunked] at ended ⊢
    rw [parseChunks_add more (by simp [ended]), ended]
  obtain ⟨turns, ended⟩ := one
  obtain ⟨others, endedToo⟩ := other
  have both := later others ended
  rw [Nat.add_comm, later turns endedToo] at both
  exact (Except.ok.inj both).symm

/-! ### The last turn of the loop -/

theorem parseChunks_of_no_line {after : Bytes} (cut : cutAt crlfBytes after = none)
    (before : Bytes) (turns : Nat) (result : Bytes) :
    parseChunks (before ++ after) (turns + 1) before.length result = .ok none := by
  rw [parseChunks, pythonFind_append, cut]
  simp

/-- A turn that finds a size line: what the bytes behind the line decide. -/
theorem parseChunks_of_line {after line rest : Bytes} {chunkSize : Int}
    (cut : cutAt crlfBytes after = some (line, rest)) (number : parseHex line = some chunkSize)
    (before : Bytes) (turns : Nat) (result : Bytes) :
    parseChunks (before ++ after) (turns + 1) before.length result =
      let here := before ++ (line ++ crlfBytes)
      if chunkSize = 0 then
        match cutAt headEnd rest with
        | some (trailer, _) => .ok (some (result, (here ++ (trailer ++ headEnd)).length))
        | none => .ok none
      else if (rest.length : Int) < chunkSize + 2 then .ok none
      else parseChunks (before ++ after) turns (here.length + chunkSize + 2)
        (result ++ pythonSlice (before ++ after) here.length (here.length + chunkSize)) := by
  have whole : before ++ after = before ++ (line ++ crlfBytes) ++ rest := by
    rw [(cutAt_some cut).1]
    simp only [List.append_assoc]
  have place : ((before.length + line.length : Nat) : Int) + 2 =
      (before ++ (line ++ crlfBytes)).length := by
    simp only [List.length_append, crlfBytes, List.length_cons, List.length_nil]
    omega
  have inside : (before.length : Int) < (before ++ after).length := by
    rw [List.length_append, length_of_cutAt cut, crlfBytes, List.length_cons]
    omega
  rw [parseChunks, if_pos inside, pythonFind_append, cut]
  simp only
  rw [if_neg (by omega), pythonSlice_of_cutAt cut, number, place]
  simp only
  split
  · rw [whole, pythonFind_append]
    cases cutAt headEnd rest with
    | none => rfl
    | some parts =>
      simp only
      rw [if_neg (by omega)]
      simp only [List.length_append, headEnd, List.length_cons, List.length_nil, Nat.cast_add]
      rfl
  · refine if_congr ?_ rfl rfl
    rw [whole]
    simp only [List.length_append, Nat.cast_add]
    omega

/-! ### Reading what was written -/

/-- A chunk is taken in one turn. -/
theorem parseChunks_encode (chunk : WireChunk) (before rest : Bytes) (turns : Nat)
    (result : Bytes) :
    parseChunks (before ++ (chunk.encode ++ rest)) (turns + 1) before.length result =
      parseChunks (before ++ (chunk.encode ++ rest)) turns (before ++ chunk.encode).length
        (result ++ chunk.data) := by
  have inside := pythonSlice_append (before ++ (chunk.size ++ crlfBytes)) chunk.data
    (crlfBytes ++ rest)
  have whole : before ++ (chunk.size ++ crlfBytes) ++ (chunk.data ++ (crlfBytes ++ rest)) =
      before ++ (chunk.encode ++ rest) := by
    rw [WireChunk.encode]
    simp only [List.append_assoc]
  have next : ((before ++ (chunk.size ++ crlfBytes)).length : Int) + chunk.data.length + 2 =
      (before ++ chunk.encode).length := by
    simp only [WireChunk.encode, crlfBytes, List.length_append, List.length_cons, List.length_nil]
    omega
  rw [whole, Nat.cast_add] at inside
  rw [parseChunks_of_line (chunk.cutAt_encode rest) chunk.spells.parseHex_eq]
  simp only
  rw [if_neg chunk.length_ne_zero, if_neg, inside, next]
  simp only [crlfBytes, List.length_append, List.length_cons, List.length_nil]
  omega

/-- All chunks before the last are taken, each in its turn. -/
theorem parseChunks_flatMap (chunks : List WireChunk) (before rest : Bytes) (turns : Nat)
    (result : Bytes) :
    parseChunks (before ++ (chunks.flatMap WireChunk.encode ++ rest)) (turns + chunks.length)
        before.length result =
      parseChunks (before ++ (chunks.flatMap WireChunk.encode ++ rest)) turns
        (before ++ chunks.flatMap WireChunk.encode).length
        (result ++ chunks.flatMap WireChunk.data) := by
  induction chunks generalizing before result with
  | nil => simp
  | cons chunk chunks inductionHypothesis =>
    have later := inductionHypothesis (before ++ chunk.encode) (result ++ chunk.data)
    simp only [List.flatMap_cons, List.append_assoc] at later ⊢
    rw [List.length_cons, ← Nat.add_assoc, parseChunks_encode, later]

theorem cutAt_lastChunk (rest : Bytes) :
    cutAt crlfBytes (lastChunk ++ rest) = some ([48], crlfBytes ++ rest) := by
  have bytes : lastChunk = [48] ++ 13 :: 10 :: crlfBytes := by decide
  rw [bytes]
  exact @cutAt_two _ _ 13 10 [48] (crlfBytes ++ rest) (by decide) (by decide)

theorem parseHex_zero : parseHex [48] = some 0 := by
  decide

/-- What a body written in chunks is read as: the empty line at its end is passed over, and the body
is taken to end with the next empty line, whatever comes before that. -/
theorem parseChunked_encodeChunked (chunks : List WireChunk) (rest : Bytes) :
    Returns (encodeChunked chunks ++ rest)
      ((cutAt headEnd (crlfBytes ++ rest)).map fun (trailer, _) =>
        (chunks.flatMap WireChunk.data,
          (((encodeChunked chunks).length + trailer.length + 2 : Nat) : Int))) := by
  refine ⟨1 + chunks.length, ?_⟩
  have taken := parseChunks_flatMap chunks [] (lastChunk ++ rest) 1 []
  simp only [List.nil_append] at taken
  rw [parseChunked, encodeChunked, List.append_assoc]
  refine taken.trans ?_
  rw [parseChunks_of_line (cutAt_lastChunk rest) parseHex_zero]
  cases cutAt headEnd (crlfBytes ++ rest) with
  | none => rfl
  | some parts =>
    simp only [if_true, Option.map_some, List.length_append]
    have size : lastChunk.length = 5 := by decide
    simp only [size, crlfBytes, headEnd, List.length_cons, List.length_nil]
    refine congrArg (fun place : Nat => Except.ok (some (_, (place : Int)))) ?_
    omega

/-! ### Bodies that are cut off -/

/-- Of a chunk that is not all there nothing is taken. -/
theorem parseChunks_part {chunk : WireChunk} {front : Bytes} (begins : front <+: chunk.encode)
    (shorter : front.length < chunk.encode.length) (before : Bytes) (turns : Nat)
    (result : Bytes) :
    parseChunks (before ++ front) (turns + 1) before.length result = .ok none := by
  cases cut : cutAt crlfBytes front with
  | none => exact parseChunks_of_no_line cut before turns result
  | some parts =>
    obtain ⟨line, rest⟩ := parts
    have cutChunk := chunk.cutAt_encode []
    rw [List.append_nil] at cutChunk
    obtain rfl := cutAt_front_eq begins cut cutChunk
    have size : front.length = chunk.size.length + 2 + rest.length := length_of_cutAt cut
    rw [chunk.length_encode] at shorter
    rw [parseChunks_of_line cut chunk.spells.parseHex_eq]
    simp only
    rw [if_neg chunk.length_ne_zero, if_pos (by omega)]

/-- The last chunk is not read as one before all of it is there. -/
theorem parseChunks_part_lastChunk {front : Bytes} (begins : front <+: lastChunk)
    (shorter : front.length < lastChunk.length) (before : Bytes) (turns : Nat) (result : Bytes) :
    parseChunks (before ++ front) (turns + 1) before.length result = .ok none := by
  have bound : front.length < 5 := shorter
  cases cut : cutAt crlfBytes front with
  | none => exact parseChunks_of_no_line cut before turns result
  | some parts =>
    obtain ⟨line, rest⟩ := parts
    have cutLast := cutAt_lastChunk []
    rw [List.append_nil] at cutLast
    obtain rfl := cutAt_front_eq begins cut cutLast
    have size : front.length = 1 + 2 + rest.length := length_of_cutAt cut
    have absent : cutAt headEnd rest = none := by
      rw [cutAt_eq_none_iff (by decide)]
      intro found
      have long := found.length_le
      simp only [headEnd, List.length_cons, List.length_nil] at long
      omega
    rw [parseChunks_of_line cut parseHex_zero]
    simp only [if_true, absent]

/-- A body that is cut off counts as incomplete. -/
theorem parseChunks_front (chunks : List WireChunk) (before : Bytes) {front : Bytes}
    (begins : front <+: encodeChunked chunks)
    (shorter : front.length < (encodeChunked chunks).length) (result : Bytes) :
    parseChunks (before ++ front) (1 + chunks.length) before.length result = .ok none := by
  induction chunks generalizing before front result with
  | nil => exact parseChunks_part_lastChunk begins shorter before 0 result
  | cons chunk chunks inductionHypothesis =>
    have split : encodeChunked (chunk :: chunks) = chunk.encode ++ encodeChunked chunks := by
      rw [encodeChunked, List.flatMap_cons, List.append_assoc, ← encodeChunked]
    rw [split] at begins shorter
    rw [List.length_cons, ← Nat.add_assoc]
    by_cases part : front.length < chunk.encode.length
    · exact parseChunks_part
        (List.prefix_of_prefix_length_le begins (List.prefix_append _ _) (Nat.le_of_lt part)) part
        before _ result
    · obtain ⟨more, rfl⟩ := List.prefix_of_prefix_length_le (List.prefix_append _ _) begins
        (Nat.not_lt.mp part)
      rw [List.length_append, List.length_append, Nat.add_lt_add_iff_left] at shorter
      rw [parseChunks_encode, ← List.append_assoc]
      exact inductionHypothesis (before ++ chunk.encode)
        ((List.prefix_append_right_inj _).mp begins) shorter _

/-- A body written in chunks is never read as the bytes it was written from, with its own length; cut
off at any place it counts as incomplete. -/
theorem parseChunked_not_inverse (chunks : List WireChunk) (rest : Bytes) :
    ¬ Returns (encodeChunked chunks ++ rest)
        (some (chunks.flatMap WireChunk.data, (encodeChunked chunks).length)) ∧
      ∀ front back, encodeChunked chunks = front ++ back → back ≠ [] → Returns front none := by
  constructor
  · intro inverse
    have same := inverse.unique (parseChunked_encodeChunked chunks rest)
    cases cut : cutAt headEnd (crlfBytes ++ rest) with
    | none =>
      rw [cut] at same
      cases same
    | some parts =>
      rw [cut, Option.map_some] at same
      have place := congrArg Prod.snd (Option.some.inj same)
      simp only at place
      omega
  · intro front back split nonempty
    have positive := List.length_pos_iff.mpr nonempty
    have shorter : front.length < (encodeChunked chunks).length := by
      rw [split, List.length_append]
      omega
    exact ⟨1 + chunks.length, parseChunks_front chunks [] ⟨back, split.symm⟩ shorter []⟩

def helloChunk : WireChunk where
  size := encodeText "5".toList
  data := encodeText "hello".toList
  spells := by decide
  nonempty := by decide

/-- One chunk, with all of the last chunk behind it, counts as incomplete. -/
theorem parseChunked_hello :
    encodeChunked [helloChunk] = encodeText "5\r\nhello\r\n0\r\n\r\n".toList ∧
      parseChunked 2 (encodeChunked [helloChunk]) = .ok none ∧
      ¬ Returns (encodeChunked [helloChunk] ++ []) (some (encodeText "hello".toList, 15)) := by
  have incomplete : parseChunked 2 (encodeChunked [helloChunk] ++ []) = .ok none := by decide
  refine ⟨by decide, by decide, fun inverse => ?_⟩
  cases inverse.unique ⟨2, incomplete⟩

end LocalNetwork
