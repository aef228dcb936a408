/-
This file is a library of text as Python has it: a list of characters, with UTF-8, blanks,
letter case and numbers in digits.

Decoding replaces what is not UTF-8: the longest beginning of a sequence that no character
continues becomes one replacement character. The decoder is a machine that reads one byte
at a time, so that a byte below 128 always ends what came before it.

The case mappings and decimal digits outside ASCII are a parameter, with what the proofs
need of them.
-/

import LocalNetwork.Basic
import LocalNetwork.Delimiters

namespace LocalNetwork

abbrev Text := List Char

/-- What holds of each character of a text is decided along the text, not over all characters. -/
instance decidableEachChar (property : Char → Prop) [DecidablePred property] (text : List Char) :
    Decidable (∀ char ∈ text, property char) :=
  List.decidableBAll property text

/-! ### UTF-8 -/

/-- `str.encode` in UTF-8. -/
def encodeText (text : Text) : Bytes := text.flatMap String.utf8EncodeChar

/-- The character for what cannot be decoded. -/
def replacement : Char := '\uFFFD'

/-- A sequence that has begun: its bits so far, the bounds of its next byte, and how many come after
that. The least character it can become takes more than one byte. -/
structure Utf8State where
  value : Nat
  low : Nat
  high : Nat
  further : Nat
  continues : 128 ≤ low
  wide : 128 ≤ (value * 64 + (low - 128)) * 64 ^ further

/-- The first byte of a sequence of two or more. -/
def utf8Lead (byte : Nat) : Option Utf8State :=
  if here : 0xC2 ≤ byte ∧ byte ≤ 0xDF then
    some ⟨byte - 0xC0, 0x80, 0xBF, 0, by decide, by simp; omega⟩
  else if byte = 0xE0 then some ⟨0, 0xA0, 0xBF, 1, by decide, by decide⟩
  else if byte = 0xED then some ⟨0xD, 0x80, 0x9F, 1, by decide, by decide⟩
  else if here : 0xE1 ≤ byte ∧ byte ≤ 0xEF then
    some ⟨byte - 0xE0, 0x80, 0xBF, 1, by decide, by simp; omega⟩
  else if byte = 0xF0 then some ⟨0, 0x90, 0xBF, 2, by decide, by decide⟩
  else if here : 0xF1 ≤ byte ∧ byte ≤ 0xF3 then
    some ⟨byte - 0xF0, 0x80, 0xBF, 2, by decide, by simp; omega⟩
  else if byte = 0xF4 then some ⟨4, 0x80, 0x8F, 2, by decide, by decide⟩
  else none

/-- A byte that begins a character: what it gives at once, and what is pending. -/
def utf8Start (byte : Nat) : Text × Option Utf8State :=
  if byte < 0x80 then ([Char.ofNat byte], none)
  else
    match utf8Lead byte with
    | some state => ([], some state)
    | none => ([replacement], none)

/-- The bits of a sequence with one more byte are as many as the state promised. -/
theorem Utf8State.wide_next (state : Utf8State) {byte : Nat} (bound : state.low ≤ byte) :
    128 ≤ (state.value * 64 + (byte - 128)) * 64 ^ state.further := by
  refine state.wide.trans (Nat.mul_le_mul_right _ ?_)
  omega

/-- One byte more. A byte that does not continue the sequence ends it and is read again. -/
def utf8Next : Option Utf8State → Nat → Text × Option Utf8State
  | none, byte => utf8Start byte
  | some state, byte =>
    if here : state.low ≤ byte ∧ byte ≤ state.high then
      let value := state.value * 64 + (byte - 128)
      match rest : state.further with
      | 0 => ([Char.ofNat value], none)
      | further + 1 =>
        ([], some ⟨value, 0x80, 0xBF, further, by decide, by
          have wide := state.wide_next here.1
          rw [rest, Nat.pow_succ'] at wide
          simpa [value, Nat.mul_assoc] using wide⟩)
    else (replacement :: (utf8Start byte).1, (utf8Start byte).2)

def decodeFrom : Option Utf8State → Bytes → Text
  | none, [] => []
  | some _, [] => [replacement]
  | state, byte :: rest =>
    (utf8Next state byte.toNat).1 ++ decodeFrom (utf8Next state byte.toNat).2 rest

/-- `bytes.decode` in UTF-8 with `errors="replace"`. -/
def decodeText (data : Bytes) : Text := decodeFrom none data

/-- A byte below 128 stands for itself and ends what came before it. -/
theorem utf8Next_ascii (state : Option Utf8State) {byte : Nat} (small : byte < 128) :
    utf8Next state byte = (decodeFrom state [] ++ [Char.ofNat byte], none) := by
  have start : utf8Start byte = ([Char.ofNat byte], none) := by rw [utf8Start, if_pos small]
  cases state with
  | none => exact start
  | some state =>
    have outside : ¬ (state.low ≤ byte ∧ byte ≤ state.high) := by
      have continues := state.continues
      omega
    rw [utf8Next, dif_neg outside, start]
    rfl

theorem decodeFrom_ascii (state : Option Utf8State) (front rest : Bytes) {byte : UInt8}
    (small : byte.toNat < 128) :
    decodeFrom state (front ++ byte :: rest) =
      decodeFrom state front ++ Char.ofNat byte.toNat :: decodeFrom none rest := by
  induction front generalizing state with
  | nil => simp [decodeFrom, utf8Next_ascii state small]
  | cons other front inductionHypothesis =>
    rw [List.cons_append, decodeFrom, inductionHypothesis, decodeFrom, List.append_assoc]

/-- Text on both sides of a byte below 128 is decoded on its own. -/
theorem decodeText_ascii (front rest : Bytes) {byte : UInt8} (small : byte.toNat < 128) :
    decodeText (front ++ byte :: rest) =
      decodeText front ++ Char.ofNat byte.toNat :: decodeText rest :=
  decodeFrom_ascii none front rest small

/-- The last byte of a sequence. -/
theorem utf8Next_last {state : Utf8State} {byte : Nat} (last : state.further = 0)
    (low : state.low ≤ byte) (high : byte ≤ state.high) :
    utf8Next (some state) byte = ([Char.ofNat (state.value * 64 + (byte - 128))], none) := by
  rw [utf8Next, dif_pos ⟨low, high⟩]
  simp only
  split
  · rfl
  · rename_i further
    rw [last] at further
    cases further

/-- A byte inside a sequence. -/
theorem utf8Next_inner {state : Utf8State} {byte further : Nat} (more : state.further = further + 1)
    (low : state.low ≤ byte) (high : byte ≤ state.high) :
    ∃ next, utf8Next (some state) byte = ([], some next) ∧
      next.value = state.value * 64 + (byte - 128) ∧ next.low = 0x80 ∧ next.high = 0xBF ∧
      next.further = further := by
  rw [utf8Next, dif_pos ⟨low, high⟩]
  simp only
  split
  · rename_i none
    rw [more] at none
    cases none
  · rename_i rest same
    obtain rfl : rest = further := by omega
    exact ⟨_, rfl, rfl, rfl, rfl, rfl⟩

/-- The first byte of a sequence, with the bits it holds. The bounds of the next byte leave out the
characters that a shorter sequence has, the surrogates, and what is beyond the last character. -/
theorem utf8Lead_two {byte : Nat} (low : 0xC2 ≤ byte) (high : byte ≤ 0xDF) :
    ∃ state, utf8Start byte = ([], some state) ∧ state.value = byte - 0xC0 ∧
      state.low = 0x80 ∧ state.high = 0xBF ∧ state.further = 0 := by
  rw [utf8Start, if_neg (by omega), utf8Lead, dif_pos ⟨low, high⟩]
  exact ⟨_, rfl, rfl, rfl, rfl, rfl⟩

theorem utf8Lead_three {byte : Nat} (low : 0xE0 ≤ byte) (high : byte ≤ 0xEF) :
    ∃ state, utf8Start byte = ([], some state) ∧ state.value = byte - 0xE0 ∧
      state.low = (if byte = 0xE0 then 0xA0 else 0x80) ∧
      state.high = (if byte = 0xED then 0x9F else 0xBF) ∧ state.further = 1 := by
  by_cases first : byte = 0xE0
  · subst first
    exact ⟨_, rfl, rfl, rfl, rfl, rfl⟩
  by_cases surrogate : byte = 0xED
  · subst surrogate
    exact ⟨_, rfl, rfl, rfl, rfl, rfl⟩
  · rw [utf8Start, if_neg (by omega), utf8Lead, dif_neg (by omega), if_neg first, if_neg surrogate,
      dif_pos ⟨by omega, high⟩, if_neg first, if_neg surrogate]
    exact ⟨_, rfl, rfl, rfl, rfl, rfl⟩

theorem utf8Lead_four {byte : Nat} (low : 0xF0 ≤ byte) (high : byte ≤ 0xF4) :
    ∃ state, utf8Start byte = ([], some state) ∧ state.value = byte - 0xF0 ∧
      state.low = (if byte = 0xF0 then 0x90 else 0x80) ∧
      state.high = (if byte = 0xF4 then 0x8F else 0xBF) ∧ state.further = 2 := by
  by_cases first : byte = 0xF0
  · subst first
    exact ⟨_, rfl, rfl, rfl, rfl, rfl⟩
  by_cases last : byte = 0xF4
  · subst last
    exact ⟨_, rfl, rfl, rfl, rfl, rfl⟩
  · rw [utf8Start, if_neg (by omega), utf8Lead, dif_neg (by omega), if_neg (by omega),
      if_neg (by omega), dif_neg (by omega), if_neg first, dif_pos ⟨by omega, by omega⟩,
      if_neg first, if_neg last]
    exact ⟨_, rfl, rfl, rfl, rfl, rfl⟩

theorem toNat_ofNat_of_lt {value : Nat} (small : value < 256) : (UInt8.ofNat value).toNat = value := by
  rw [UInt8.toNat_ofNat']
  omega

/-- Decoding the sequence of two bytes of a character. -/
theorem decodeFrom_two {code : Nat} (low : 0x80 ≤ code) (high : code < 0x800) (rest : Bytes) :
    decodeFrom none (UInt8.ofNat (code / 64 % 32 + 0xC0) :: UInt8.ofNat (code % 64 + 0x80) ::
      rest) = Char.ofNat code :: decodeFrom none rest := by
  obtain ⟨state, lead, value, lowest, highest, further⟩ :=
    @utf8Lead_two (code / 64 % 32 + 0xC0) (by omega) (by omega)
  have last := @utf8Next_last state (code % 64 + 0x80) further (by omega) (by omega)
  rw [show state.value * 64 + (code % 64 + 0x80 - 128) = code by omega] at last
  simp only [decodeFrom]
  rw [toNat_ofNat_of_lt (by omega), toNat_ofNat_of_lt (by omega), utf8Next, lead]
  simp only [List.nil_append]
  rw [last]
  rfl

/-- Decoding the sequence of three bytes of a character. -/
theorem decodeFrom_three {code : Nat} (low : 0x800 ≤ code) (high : code < 0x10000)
    (valid : code < 0xD800 ∨ 0xDFFF < code) (rest : Bytes) :
    decodeFrom none (UInt8.ofNat (code / 4096 % 16 + 0xE0) ::
      UInt8.ofNat (code / 64 % 64 + 0x80) :: UInt8.ofNat (code % 64 + 0x80) :: rest) =
        Char.ofNat code :: decodeFrom none rest := by
  obtain ⟨state, lead, value, lowest, highest, further⟩ :=
    @utf8Lead_three (code / 4096 % 16 + 0xE0) (by omega) (by omega)
  have lowBound : state.low ≤ code / 64 % 64 + 0x80 := by
    rw [lowest]
    split <;> omega
  have highBound : code / 64 % 64 + 0x80 ≤ state.high := by
    rw [highest]
    split <;> omega
  obtain ⟨next, inner, nextValue, nextLow, nextHigh, nextFurther⟩ :=
    utf8Next_inner further lowBound highBound
  have last := @utf8Next_last next (code % 64 + 0x80) nextFurther (by omega) (by omega)
  rw [show next.value * 64 + (code % 64 + 0x80 - 128) = code by omega] at last
  simp only [decodeFrom]
  rw [toNat_ofNat_of_lt (by omega), toNat_ofNat_of_lt (by omega), toNat_ofNat_of_lt (by omega),
    utf8Next, lead]
  simp only [List.nil_append]
  rw [inner]
  simp only [List.nil_append]
  rw [last]
  rfl

/-- Decoding the sequence of four bytes of a character. -/
theorem decodeFrom_four {code : Nat} (low : 0x10000 ≤ code) (high : code < 0x110000)
    (rest : Bytes) :
    decodeFrom none (UInt8.ofNat (code / 262144 % 8 + 0xF0) ::
      UInt8.ofNat (code / 4096 % 64 + 0x80) :: UInt8.ofNat (code / 64 % 64 + 0x80) ::
      UInt8.ofNat (code % 64 + 0x80) :: rest) = Char.ofNat code :: decodeFrom none rest := by
  obtain ⟨state, lead, value, lowest, highest, further⟩ :=
    @utf8Lead_four (code / 262144 % 8 + 0xF0) (by omega) (by omega)
  have lowBound : state.low ≤ code / 4096 % 64 + 0x80 := by
    rw [lowest]
    split <;> omega
  have highBound : code / 4096 % 64 + 0x80 ≤ state.high := by
    rw [highest]
    split <;> omega
  obtain ⟨second, inner, secondValue, secondLow, secondHigh, secondFurther⟩ :=
    utf8Next_inner further lowBound highBound
  obtain ⟨third, innerThird, thirdValue, thirdLow, thirdHigh, thirdFurther⟩ :=
    @utf8Next_inner second (code / 64 % 64 + 0x80) 0 secondFurther (by omega) (by omega)
  have last := @utf8Next_last third (code % 64 + 0x80) thirdFurther (by omega) (by omega)
  rw [show third.value * 64 + (code % 64 + 0x80 - 128) = code by omega] at last
  simp only [decodeFrom]
  rw [toNat_ofNat_of_lt (by omega), toNat_ofNat_of_lt (by omega), toNat_ofNat_of_lt (by omega),
    toNat_ofNat_of_lt (by omega), utf8Next, lead]
  simp only [List.nil_append]
  rw [inner]
  simp only [List.nil_append]
  rw [innerThird]
  simp only [List.nil_append]
  rw [last]
  rfl

/-- Decoding a character that was encoded. -/
theorem decodeFrom_encode (char : Char) (rest : Bytes) :
    decodeFrom none (String.utf8EncodeChar char ++ rest) = char :: decodeFrom none rest := by
  have back : Char.ofNat char.val.toNat = char := Char.ofNat_toNat char
  have valid : char.val.toNat < 0xD800 ∨ 0xDFFF < char.val.toNat ∧ char.val.toNat < 0x110000 :=
    char.valid
  unfold String.utf8EncodeChar
  simp only
  generalize char.val.toNat = code at back valid
  subst back
  split
  · have ascii := @decodeFrom_ascii none [] rest (UInt8.ofNat code)
      (by rw [toNat_ofNat_of_lt (by omega)]; omega)
    rw [toNat_ofNat_of_lt (by omega)] at ascii
    exact ascii
  split
  · exact decodeFrom_two (by omega) (by omega) rest
  split
  · exact decodeFrom_three (by omega) (by omega) (by omega) rest
  · exact decodeFrom_four (by omega) (by omega) rest

theorem decodeText_encodeText (text : Text) : decodeText (encodeText text) = text := by
  induction text with
  | nil => rfl
  | cons char text inductionHypothesis =>
    rw [encodeText, List.flatMap_cons]
    exact (decodeFrom_encode char _).trans (congrArg (char :: ·) inductionHypothesis)

/-- A byte below 128 encodes the character of that code. -/
theorem mem_of_mem_encodeText {byte : UInt8} (small : byte.toNat < 128) (text : Text)
    (member : byte ∈ encodeText text) : Char.ofNat byte.toNat ∈ text := by
  obtain ⟨char, inside, encoded⟩ := List.mem_flatMap.mp member
  have larger : ∀ value, value < 256 → 128 ≤ value → byte ≠ UInt8.ofNat value := by
    rintro value bound large rfl
    rw [toNat_ofNat_of_lt bound] at small
    omega
  unfold String.utf8EncodeChar at encoded
  simp only at encoded
  split at encoded
  · rename_i one
    rw [List.mem_singleton.mp encoded, toNat_ofNat_of_lt (by omega)]
    exact (Char.ofNat_toNat char).symm ▸ inside
  split at encoded
  · simp only [List.mem_cons, List.not_mem_nil, or_false] at encoded
    rcases encoded with lead | last
    · exact absurd lead (larger _ (by omega) (by omega))
    · exact absurd last (larger _ (by omega) (by omega))
  split at encoded
  · simp only [List.mem_cons, List.not_mem_nil, or_false] at encoded
    rcases encoded with lead | inner | last
    · exact absurd lead (larger _ (by omega) (by omega))
    · exact absurd inner (larger _ (by omega) (by omega))
    · exact absurd last (larger _ (by omega) (by omega))
  · simp only [List.mem_cons, List.not_mem_nil, or_false] at encoded
    rcases encoded with lead | second | third | last
    · exact absurd lead (larger _ (by omega) (by omega))
    · exact absurd second (larger _ (by omega) (by omega))
    · exact absurd third (larger _ (by omega) (by omega))
    · exact absurd last (larger _ (by omega) (by omega))

/-! ### Blanks -/

/-- The characters that `str.strip` removes. -/
def isPythonSpace (char : Char) : Bool :=
  let code := char.toNat
  decide ((0x09 ≤ code ∧ code ≤ 0x0d) ∨ (0x1c ≤ code ∧ code ≤ 0x20) ∨ code = 0x85 ∨ code = 0xa0 ∨
    code = 0x1680 ∨ (0x2000 ≤ code ∧ code ≤ 0x200a) ∨ code = 0x2028 ∨ code = 0x2029 ∨
    code = 0x202f ∨ code = 0x205f ∨ code = 0x3000)

def strip (chars : List Char) : List Char :=
  ((chars.dropWhile isPythonSpace).reverse.dropWhile isPythonSpace).reverse

theorem strip_eq (text : Text) : strip text = stripBlanks isPythonSpace text := rfl

/-! ### Letter case -/

/-- What Unicode says of the characters outside ASCII: their case mappings, which for small letters
depend on what stands around, and the values of decimal digits. The only ASCII characters they are
mapped to are letters of the case asked for. -/
structure UnicodeData where
  lower : Text → Char → Text → Text
  upper : Char → Text
  decimal : Char → Option Nat
  lower_ne_nil : ∀ before char after, lower before char after ≠ []
  upper_ne_nil : ∀ char, upper char ≠ []
  lower_ascii : ∀ before char after, 128 ≤ char.toNat → ∀ mapped ∈ lower before char after,
    mapped.toNat < 128 → mapped.isLower = true
  upper_ascii : ∀ char, 128 ≤ char.toNat → ∀ mapped ∈ upper char,
    mapped.toNat < 128 → mapped.isUpper = true

/-- No letters or digits outside ASCII. -/
def plainUnicode : UnicodeData where
  lower _ char _ := [char]
  upper char := [char]
  decimal _ := none
  lower_ne_nil _ _ _ := List.cons_ne_nil _ _
  upper_ne_nil _ := List.cons_ne_nil _ _
  lower_ascii _ char _ large mapped member small := by
    rw [List.mem_singleton.mp member] at small
    omega
  upper_ascii char large mapped member small := by
    rw [List.mem_singleton.mp member] at small
    omega

/-- Map each character of a text, with what stands before and after it. -/
def mapChars (convert : Text → Char → Text → Text) : Text → Text → Text
  | _, [] => []
  | before, char :: after =>
    convert before char after ++ mapChars convert (before ++ [char]) after

def UnicodeData.lowerChar (unicode : UnicodeData) (before : Text) (char : Char) (after : Text) :
    Text :=
  if char.toNat < 128 then [char.toLower] else unicode.lower before char after

def UnicodeData.upperChar (unicode : UnicodeData) (_before : Text) (char : Char) (_after : Text) :
    Text :=
  if char.toNat < 128 then [char.toUpper] else unicode.upper char

/-- `str.lower`. -/
def lowerText (unicode : UnicodeData) (text : Text) : Text := mapChars unicode.lowerChar [] text

/-- `str.upper`. -/
def upperText (unicode : UnicodeData) (text : Text) : Text := mapChars unicode.upperChar [] text

/-- A mapping that gives a character only for itself, and something for every character. -/
structure KeepsChar (convert : Text → Char → Text → Text) (kept : Char) : Prop where
  nonempty : ∀ before char after, convert before char after ≠ []
  alone : ∀ before char after, kept ∈ convert before char after →
    char = kept ∧ convert before char after = [kept]

variable {convert : Text → Char → Text → Text} {first second : Char}

theorem mem_of_mem_mapChars (keeps : KeepsChar convert first) {before text : Text}
    (member : first ∈ mapChars convert before text) : first ∈ text := by
  induction text generalizing before with
  | nil => cases member
  | cons char text inductionHypothesis =>
    rcases List.mem_append.mp member with here | later
    · exact (keeps.alone _ _ _ here).1 ▸ List.mem_cons_self ..
    · exact List.mem_cons_of_mem _ (inductionHypothesis later)

theorem head_of_head_mapChars (keeps : KeepsChar convert first) {before text rest : Text}
    (head : mapChars convert before text = first :: rest) : ∃ others, text = first :: others := by
  cases text with
  | nil => cases head
  | cons char text =>
    obtain ⟨symbol, block, converted⟩ :=
      List.exists_cons_of_ne_nil (keeps.nonempty before char text)
    have inside : first ∈ convert before char text := by
      rw [mapChars, converted] at head
      rw [converted, (List.cons.inj head).1]
      exact List.mem_cons_self ..
    exact ⟨text, by rw [(keeps.alone _ _ _ inside).1]⟩

/-- Two such characters stand side by side only if they did before. -/
theorem infix_of_infix_mapChars (keepsFirst : KeepsChar convert first)
    (keepsSecond : KeepsChar convert second) {before text : Text}
    (inside : [first, second] <:+: mapChars convert before text) : [first, second] <:+: text := by
  induction text generalizing before with
  | nil =>
    have empty := inside.length_le
    rw [mapChars] at empty
    cases empty
  | cons char text inductionHypothesis =>
    rw [mapChars] at inside
    obtain ⟨left, right, split⟩ := inside
    rw [List.append_assoc] at split
    rcases List.append_eq_append_iff.mp split with ⟨more, front, back⟩ | ⟨more, front, back⟩
    · -- The pair begins in the mapped character, or right after it.
      cases more with
      | nil =>
        rw [List.nil_append] at back
        have later : [first, second] <:+: mapChars convert (before ++ [char]) text :=
          ⟨[], right, by rw [← back]; rfl⟩
        exact (inductionHypothesis later).trans (List.suffix_cons ..).isInfix
      | cons symbol more =>
        have symbolFirst : symbol = first := (List.cons.inj back).1.symm
        have member : first ∈ convert before char text := by
          rw [front, symbolFirst]
          simp
        obtain ⟨rfl, converted⟩ := keepsFirst.alone _ _ _ member
        rw [converted] at front
        have sizes := congrArg List.length front
        simp only [List.length_append, List.length_cons, List.length_nil] at sizes
        obtain rfl := List.eq_nil_of_length_eq_zero (show more.length = 0 by omega)
        have rest : mapChars convert (before ++ [char]) text = second :: right :=
          (List.cons.inj back).2.symm
        obtain ⟨others, rfl⟩ := head_of_head_mapChars keepsSecond rest
        exact ⟨[], others, rfl⟩
    · have later : [first, second] <:+: mapChars convert (before ++ [char]) text :=
        ⟨more, right, by rw [back, List.append_assoc]⟩
      exact (inductionHypothesis later).trans (List.suffix_cons ..).isInfix

/-- A fact about the ASCII characters, checked one by one. -/
theorem ascii_induction {property : Char → Prop}
    (each : ∀ code : Fin 128, property (Char.ofNat code)) {char : Char}
    (small : char.toNat < 128) : property char := by
  have here := each ⟨char.toNat, small⟩
  rwa [Char.ofNat_toNat] at here

variable (unicode : UnicodeData)

theorem isAlpha_eq (char : Char) : char.isAlpha = (char.isUpper || char.isLower) := rfl

theorem keepsChar_lower {char : Char} (small : char.toNat < 128) (symbol : char.isAlpha = false) :
    KeepsChar unicode.lowerChar char := by
  constructor
  · intro before other after
    unfold UnicodeData.lowerChar
    split
    · exact List.cons_ne_nil _ _
    · exact unicode.lower_ne_nil before other after
  · intro before other after member
    unfold UnicodeData.lowerChar at member ⊢
    split at member
    · rename_i ascii
      have same := List.mem_singleton.mp member
      have unchanged : other.toLower.isAlpha = false → other.toLower = other :=
        @ascii_induction (fun other => other.toLower.isAlpha = false → other.toLower = other)
          (by decide) other ascii
      rw [if_pos ascii, ← same]
      exact ⟨(same.trans (unchanged (same ▸ symbol))).symm, rfl⟩
    · rename_i large
      have letter := unicode.lower_ascii before other after (Nat.le_of_not_lt large) char member small
      rw [isAlpha_eq, letter, Bool.or_true] at symbol
      cases symbol

theorem keepsChar_upper {char : Char} (small : char.toNat < 128) (symbol : char.isAlpha = false) :
    KeepsChar unicode.upperChar char := by
  constructor
  · intro before other after
    unfold UnicodeData.upperChar
    split
    · exact List.cons_ne_nil _ _
    · exact unicode.upper_ne_nil other
  · intro before other after member
    unfold UnicodeData.upperChar at member ⊢
    split at member
    · rename_i ascii
      have same := List.mem_singleton.mp member
      have unchanged : other.toUpper.isAlpha = false → other.toUpper = other :=
        @ascii_induction (fun other => other.toUpper.isAlpha = false → other.toUpper = other)
          (by decide) other ascii
      rw [if_pos ascii, ← same]
      exact ⟨(same.trans (unchanged (same ▸ symbol))).symm, rfl⟩
    · rename_i large
      have letter := unicode.upper_ascii other (Nat.le_of_not_lt large) char member small
      rw [isAlpha_eq, letter, Bool.true_or] at symbol
      cases symbol

/-- On ASCII text a case mapping changes each letter on its own. -/
theorem mapChars_ascii {change : Char → Char} {text : Text} (before : Text)
    (each : ∀ char ∈ text, ∀ before after, convert before char after = [change char]) :
    mapChars convert before text = text.map change := by
  induction text generalizing before with
  | nil => rfl
  | cons char text inductionHypothesis =>
    rw [mapChars, each char (List.mem_cons_self ..), inductionHypothesis _ fun other member =>
      each other (List.mem_cons_of_mem _ member)]
    rfl

theorem lowerText_ascii {text : Text} (ascii : ∀ char ∈ text, char.toNat < 128) :
    lowerText unicode text = text.map Char.toLower := by
  refine mapChars_ascii [] fun char member before after => ?_
  rw [UnicodeData.lowerChar, if_pos (ascii char member)]

theorem upperText_ascii {text : Text} (ascii : ∀ char ∈ text, char.toNat < 128) :
    upperText unicode text = text.map Char.toUpper := by
  refine mapChars_ascii [] fun char member before after => ?_
  rw [UnicodeData.upperChar, if_pos (ascii char member)]

theorem mem_mapChars {before text : Text} {char : Char}
    (member : char ∈ mapChars convert before text) :
    ∃ front other back, char ∈ convert front other back := by
  induction text generalizing before with
  | nil => cases member
  | cons other text inductionHypothesis =>
    rcases List.mem_append.mp member with here | later
    · exact ⟨before, other, text, here⟩
    · exact inductionHypothesis later

theorem toNat_lt_of_isUpper {char : Char} (upper : char.isUpper = true) : char.toNat < 128 := by
  have bound := (of_decide_eq_true upper).2
  have code : char.toNat ≤ 90 := UInt32.le_iff_toNat_le.mp bound
  omega

theorem toNat_lt_of_isLower {char : Char} (lower : char.isLower = true) : char.toNat < 128 := by
  have bound := of_decide_eq_true ((Bool.and_eq_true _ _).mp lower).2
  have code : char.toNat ≤ 122 := UInt32.le_iff_toNat_le.mp bound
  omega

theorem toNat_lt_of_isDigit {char : Char} (digit : char.isDigit = true) : char.toNat < 128 := by
  have bound := of_decide_eq_true ((Bool.and_eq_true _ _).mp digit).2
  have code : char.toNat ≤ 57 := UInt32.le_iff_toNat_le.mp bound
  omega

/-- A lowered text has no capital ASCII letter. -/
theorem isUpper_of_mem_lowerText {text : Text} {char : Char}
    (member : char ∈ lowerText unicode text) : char.isUpper = false := by
  obtain ⟨before, other, after, inside⟩ := mem_mapChars member
  unfold UnicodeData.lowerChar at inside
  split at inside
  · rename_i ascii
    rw [List.mem_singleton.mp inside]
    exact @ascii_induction (fun other => other.toLower.isUpper = false) (by decide) other ascii
  · rename_i large
    by_cases small : char.toNat < 128
    · have letter := unicode.lower_ascii before other after (Nat.le_of_not_lt large) char inside small
      exact @ascii_induction (fun other => other.isLower = true → other.isUpper = false) (by decide)
        char small letter
    · exact Bool.eq_false_iff.mpr fun upper => small (toNat_lt_of_isUpper upper)

/-- The value of a decimal digit. -/
def decimalValue (char : Char) : Option Nat :=
  if char.toNat < 128 then
    if char.isDigit then some (char.toNat - '0'.toNat) else none
  else unicode.decimal char

/-- The value of a hexadecimal digit. -/
def hexValue (char : Char) : Option Nat :=
  if char.isDigit then some (char.toNat - '0'.toNat)
  else if 'a' ≤ char ∧ char ≤ 'f' then some (char.toNat - 'a'.toNat + 10)
  else if 'A' ≤ char ∧ char ≤ 'F' then some (char.toNat - 'A'.toNat + 10)
  else none

/-- Digits after the first, with single underscores between them. -/
def readDigits (digit : Char → Option Nat) (base : Nat) : Nat → Text → Option Nat
  | value, [] => some value
  | value, '_' :: char :: rest =>
    (digit char).bind fun next => readDigits digit base (base * value + next) rest
  | value, char :: rest =>
    (digit char).bind fun next => readDigits digit base (base * value + next) rest

def readNumber (digit : Char → Option Nat) (base : Nat) : Text → Option Nat
  | [] => none
  | char :: rest => (digit char).bind fun first => readDigits digit base first rest

def readSigned (read : Text → Option Nat) : Text → Option Int
  | '+' :: rest => (read rest).map Int.ofNat
  | '-' :: rest => (read rest).map fun value => -Int.ofNat value
  | text => (read text).map Int.ofNat

/-- The characters that `int` removes from the ends of a text. Of the ASCII characters they are
fewer than those of `str.strip`. -/
def isIntSpace (char : Char) : Bool :=
  let code := char.toNat
  if code < 127 then decide (9 ≤ code ∧ code ≤ 13 ∨ code = 32) else isPythonSpace char

/-- `sys.get_int_max_str_digits()`: `int` refuses a decimal text with more digits. -/
def maxStrDigits : Nat := 4300

/-- `int(text)`, none where it raises ValueError. Signs, blanks and underscores do not count as
digits, and zeros do. -/
def parseInt (text : Text) : Option Int :=
  let stripped := stripBlanks isIntSpace text
  if maxStrDigits < (stripped.filter fun char => (decimalValue unicode char).isSome).length then
    none
  else readSigned (readNumber (decimalValue unicode) 10) stripped

/-- A hexadecimal number, with or without `0x` and one underscore after it. -/
def readHex : Text → Option Nat
  | '0' :: 'x' :: '_' :: rest | '0' :: 'X' :: '_' :: rest => readNumber hexValue 16 rest
  | '0' :: 'x' :: rest | '0' :: 'X' :: rest => readNumber hexValue 16 rest
  | text => readNumber hexValue 16 text

/-- The blanks of byte strings. -/
def isAsciiSpace (byte : UInt8) : Bool := decide (9 ≤ byte ∧ byte ≤ 13 ∨ byte = 32)

/-- `int(data, 16)` of a byte string. The number of digits has no limit where the base is a power of
two. -/
def parseHex (data : Bytes) : Option Int :=
  readSigned readHex ((stripBlanks isAsciiSpace data).map fun byte => Char.ofNat byte.toNat)

/-- `str` of a natural number. -/
def decimalText (number : Nat) : Text := Nat.toDigits 10 number

/-- `str` of an integer. -/
def intText : Int → Text
  | .ofNat number => decimalText number
  | .negSucc number => '-' :: decimalText (number + 1)

theorem decimalValue_digit {char : Char} (digit : char.isDigit = true) :
    decimalValue unicode char = some (char.toNat - '0'.toNat) := by
  rw [decimalValue, if_pos (toNat_lt_of_isDigit digit), if_pos digit]

theorem readDigits_digits {text : Text} (digits : ∀ char ∈ text, char.isDigit = true) (value : Nat) :
    readDigits (decimalValue unicode) 10 value text = some (Nat.ofDigitChars 10 text value) := by
  induction text generalizing value with
  | nil => rfl
  | cons char text inductionHypothesis =>
    have digit := digits char (List.mem_cons_self ..)
    have rest := inductionHypothesis fun other member => digits other (List.mem_cons_of_mem _ member)
    rw [readDigits, decimalValue_digit unicode digit, Option.bind_some, rest,
      Nat.ofDigitChars_cons]
    rintro other others rfl
    cases digit

/-- Digits are no blanks of `str.strip` or `int`. -/
theorem stripBlanks_digits {text : Text} (digits : ∀ char ∈ text, char.isDigit = true) :
    stripBlanks isPythonSpace text = text ∧ stripBlanks isIntSpace text = text := by
  have space : ∀ char ∈ text, isPythonSpace char = false ∧ isIntSpace char = false := by
    intro char member
    have digit := digits char member
    exact @ascii_induction (fun char => char.isDigit = true →
      isPythonSpace char = false ∧ isIntSpace char = false) (by decide)
      char (toNat_lt_of_isDigit digit) digit
  exact ⟨stripBlanks_of_ends isPythonSpace
      (fun char head => (space char (List.mem_of_mem_head? head)).1)
      (fun char last => (space char (List.mem_of_mem_getLast? last)).1),
    stripBlanks_of_ends isIntSpace
      (fun char head => (space char (List.mem_of_mem_head? head)).2)
      (fun char last => (space char (List.mem_of_mem_getLast? last)).2)⟩

theorem strip_digits {text : Text} (digits : ∀ char ∈ text, char.isDigit = true) :
    strip text = text := (stripBlanks_digits digits).1

/-- Every digit counts towards the limit. -/
theorem filter_digits {text : Text} (digits : ∀ char ∈ text, char.isDigit = true) :
    (text.filter fun char => (decimalValue unicode char).isSome) = text := by
  refine List.filter_eq_self.mpr fun char member => ?_
  rw [decimalValue_digit unicode (digits char member)]
  rfl

/-- More digits than the limit are refused. -/
theorem parseInt_long {text : Text} (digits : ∀ char ∈ text, char.isDigit = true)
    (long : maxStrDigits < text.length) : parseInt unicode text = none := by
  rw [parseInt, (stripBlanks_digits digits).2, filter_digits unicode digits, if_pos long]

/-- Plain digits within the limit are read as they stand. -/
theorem parseInt_digits {text : Text} (nonempty : text ≠ [])
    (digits : ∀ char ∈ text, char.isDigit = true) (short : text.length ≤ maxStrDigits) :
    parseInt unicode text = some (Nat.ofDigitChars 10 text 0) := by
  have kept : stripBlanks isIntSpace text = text := (stripBlanks_digits digits).2
  have counted := filter_digits unicode digits
  obtain ⟨char, rest, rfl⟩ := List.exists_cons_of_ne_nil nonempty
  have digit := digits char (List.mem_cons_self ..)
  have read : readNumber (decimalValue unicode) 10 (char :: rest) =
      some (Nat.ofDigitChars 10 (char :: rest) 0) := by
    rw [readNumber, decimalValue_digit unicode digit, Option.bind_some,
      readDigits_digits unicode (fun other member => digits other (List.mem_cons_of_mem _ member)),
      Nat.ofDigitChars_cons, Nat.mul_zero, Nat.zero_add]
  rw [parseInt, kept, counted, if_neg (Nat.not_lt.mpr short), readSigned, read]
  · rfl
  · intro others same
    rw [(List.cons.inj same).1] at digit
    cases digit
  · intro others same
    rw [(List.cons.inj same).1] at digit
    cases digit

theorem isDigit_of_mem_decimalText {number : Nat} {char : Char}
    (member : char ∈ decimalText number) : char.isDigit = true :=
  Nat.isDigit_of_mem_toDigits (by decide) (by decide) member

/-- A number is read back from its text, if that is within the limit. -/
theorem parseInt_decimalText {number : Nat} (short : (decimalText number).length ≤ maxStrDigits) :
    parseInt unicode (decimalText number) = some (number : Int) := by
  rw [@parseInt_digits unicode (decimalText number) Nat.toDigits_ne_nil
    (fun char member => isDigit_of_mem_decimalText member) short, decimalText,
    Nat.ofDigitChars_ten_toDigits]
  rfl

end LocalNetwork
