/-
This file proves what `_read_chunked_body` of `proxy/connection.py` reads of a body that was
written in chunks, and where it leaves the stream.

The size is read up to the end of its line and the bytes by their number, so that line ends
among the bytes do no harm. All chunks are taken, and the stream is left behind the empty
line at the end. The stream has a limit for a line, which a size written with very many zeros
in front can exceed; reading that line raises.
-/

import LocalNetwork.ChunkedBody
import LocalNetwork.HttpResponse

namespace LocalNetwork

/-! ### Lines -/

/-- A line with its end is taken off the stream, unless it is longer than the limit. -/
theorem readLine_append {line : Bytes} (absent : 10 ∉ line) (rest : Bytes) :
    readLine (line ++ 10 :: rest) =
      if streamLimit < line.length then none else some (line ++ [10], rest) := by
  rw [readLine, cutAt_symbol rest absent]

theorem isHexDigit_ne_newline {byte : UInt8} (digit : isHexDigit byte = true) : byte ≠ 10 := by
  rintro rfl
  exact absurd digit (by decide)

/-- The end of the line does not count. -/
theorem Spells.parseHex_line {digits : Bytes} {number : Nat} (spells : Spells digits number) :
    parseHex (digits ++ crlfBytes) = some (number : Int) := by
  have plain (byte : UInt8) (member : byte ∈ digits) : isAsciiSpace byte = false :=
    (isHexDigit_plain byte (spells.1 byte member)).1
  have stripped : stripBlanks isAsciiSpace (digits ++ crlfBytes) = digits :=
    stripBlanks_padded isAsciiSpace (fun _ member => absurd member List.not_mem_nil)
      (List.all_eq_true.mp (by decide)) (fun byte head => plain byte (List.mem_of_mem_head? head))
      (fun byte last => plain byte (List.mem_of_mem_getLast? last))
  have alone : stripBlanks isAsciiSpace digits = digits :=
    stripBlanks_of_ends isAsciiSpace (fun byte head => plain byte (List.mem_of_mem_head? head))
      (fun byte last => plain byte (List.mem_of_mem_getLast? last))
  rw [← spells.parseHex_eq, parseHex, parseHex, stripped, alone]

/-! ### Chunks -/

/-- The line of the size, with its carriage return, is not longer than the stream admits. -/
def WireChunk.SizeFits (chunk : WireChunk) : Prop := chunk.size.length + 1 ≤ streamLimit

instance (chunk : WireChunk) : Decidable chunk.SizeFits := inferInstanceAs (Decidable (_ ≤ _))

theorem WireChunk.readLine_encode (chunk : WireChunk) (rest : Bytes) :
    readLine (chunk.encode ++ rest) =
      if chunk.SizeFits then
        some (chunk.size ++ crlfBytes, chunk.data ++ (crlfBytes ++ rest))
      else none := by
  have absent : 10 ∉ chunk.size ++ [13] := by
    intro member
    rcases List.mem_append.mp member with digit | carriage
    · exact isHexDigit_ne_newline (chunk.spells.1 10 digit) rfl
    · exact absurd carriage (by decide)
  have split : chunk.encode ++ rest =
      (chunk.size ++ [13]) ++ 10 :: (chunk.data ++ (crlfBytes ++ rest)) := by
    simp [encode, crlfBytes]
  have line : chunk.size ++ [13] ++ [10] = chunk.size ++ crlfBytes := by
    rw [List.append_assoc]
    rfl
  rw [split, readLine_append absent, List.length_append, List.length_singleton, line]
  by_cases fits : chunk.SizeFits
  · rw [if_pos fits, if_neg (Nat.not_lt.mpr fits)]
  · rw [if_neg fits, if_pos (Nat.not_le.mp fits)]

/-- The bytes of a chunk and the end of a line behind them are taken together. -/
theorem WireChunk.readExactly_data (chunk : WireChunk) (rest : Bytes) :
    readExactly (chunk.data.length + 2) (chunk.data ++ (crlfBytes ++ rest)) =
      some (chunk.data ++ crlfBytes, rest) := by
  have size : ((chunk.data.length : Int) + 2).toNat = (chunk.data ++ crlfBytes).length := by
    rw [List.length_append]
    exact Int.toNat_natCast (chunk.data.length + 2)
  rw [readExactly, ← List.append_assoc, size, List.take_left, List.drop_left, if_pos]
  rw [List.length_append, List.length_append]
  simp only [crlfBytes, List.length_cons, List.length_nil]
  omega

theorem pythonSlice_dropEnd (data : Bytes) : pythonSlice (data ++ crlfBytes) 0 (-2) = data := by
  have stop : pythonIndex (data ++ crlfBytes).length (-2) = data.length := by
    rw [pythonIndex, if_pos (by decide), List.length_append]
    simp only [crlfBytes, List.length_cons, List.length_nil]
    omega
  have start : pythonIndex (data ++ crlfBytes).length 0 = 0 := by
    rw [pythonIndex, if_neg (by decide)]
    exact Nat.zero_min _
  rw [pythonSlice, start, stop, slice, List.drop_zero, Nat.sub_zero, List.take_left]

/-- One turn takes one chunk, unless the line of its size is too long. -/
theorem readChunkedBody_encode (chunk : WireChunk) (turns : Nat) (rest result : Bytes) :
    readChunkedBody (turns + 1) (chunk.encode ++ rest) result =
      if chunk.SizeFits then readChunkedBody turns rest (result ++ chunk.data) else none := by
  rw [readChunkedBody, chunk.readLine_encode]
  by_cases fits : chunk.SizeFits
  · rw [if_pos fits, if_pos fits]
    dsimp only
    rw [chunk.spells.parseHex_line]
    dsimp only
    rw [if_neg chunk.length_ne_zero, chunk.readExactly_data]
    dsimp only
    rw [pythonSlice_dropEnd]
  · rw [if_neg fits, if_neg fits]

/-- The last chunk and the empty line behind it end the loop. -/
theorem readChunkedBody_lastChunk (turns : Nat) (rest result : Bytes) :
    readChunkedBody (turns + 1) (lastChunk ++ rest) result = some (result, rest) := by
  have split : lastChunk ++ rest = [48, 13] ++ 10 :: ([13] ++ 10 :: rest) := rfl
  have size : parseHex ([48, 13] ++ [10]) = some 0 := by decide
  rw [split, readChunkedBody, readLine_append (by decide), if_neg (by decide)]
  dsimp only
  rw [size]
  dsimp only
  rw [if_pos rfl, readLine_append (by decide), if_neg (by decide)]
  rfl

/-- All chunks and the last one are taken, each in its turn, unless the line of a size is too
long. -/
theorem readChunkedBody_flatMap (chunks : List WireChunk) {turns : Nat}
    (enough : chunks.length < turns) (rest result : Bytes) :
    readChunkedBody turns (chunks.flatMap WireChunk.encode ++ (lastChunk ++ rest)) result =
      if ∀ chunk ∈ chunks, chunk.SizeFits then
        some (result ++ chunks.flatMap WireChunk.data, rest)
      else none := by
  induction chunks generalizing turns result with
  | nil =>
    obtain ⟨turns, rfl⟩ : ∃ less, turns = less + 1 := ⟨turns - 1, by omega⟩
    rw [if_pos fun chunk member => absurd member List.not_mem_nil, List.flatMap_nil,
      List.flatMap_nil, List.append_nil]
    exact readChunkedBody_lastChunk turns rest result
  | cons chunk chunks inductionHypothesis =>
    rw [List.length_cons] at enough
    obtain ⟨turns, rfl⟩ : ∃ less, turns = less + 1 := ⟨turns - 1, by omega⟩
    rw [List.flatMap_cons, List.append_assoc, readChunkedBody_encode,
      inductionHypothesis (by omega), List.flatMap_cons, ← List.append_assoc]
    simp only [List.forall_mem_cons]
    by_cases fits : chunk.SizeFits
    · simp only [fits, true_and, if_true]
    · simp only [fits, false_and, if_false]

/-- `_read_chunked_body` on a stream, with as many turns as it can take: what it returns, and what
it leaves of the stream. -/
def readChunked (data : Bytes) : Option (Bytes × Bytes) :=
  readChunkedBody (data.length + 1) data []

theorem length_chunks_le (chunks : List WireChunk) :
    chunks.length ≤ (chunks.flatMap WireChunk.encode).length := by
  induction chunks with
  | nil => exact le_rfl
  | cons chunk chunks inductionHypothesis =>
    rw [List.length_cons, List.flatMap_cons, List.length_append, chunk.length_encode]
    omega

/-- For every list of chunks, in whatever hexadecimal digits their sizes are written, and whatever
follows the last chunk: the body is returned and the stream is left right behind it, unless the
line of a size is longer than the stream admits, which raises. -/
theorem readChunked_encodeChunked (chunks : List WireChunk) (rest : Bytes) :
    readChunked (encodeChunked chunks ++ rest) =
      if ∀ chunk ∈ chunks, chunk.SizeFits then some (chunks.flatMap WireChunk.data, rest)
      else none := by
  have turns : chunks.length < (encodeChunked chunks ++ rest).length + 1 := by
    have bound := length_chunks_le chunks
    rw [encodeChunked, List.length_append, List.length_append]
    omega
  have read := readChunkedBody_flatMap chunks turns rest []
  rw [List.nil_append, ← List.append_assoc] at read
  exact read

/-! ### A size that is too long -/

/-- A zero in front of a number does not change it. -/
theorem Spells.zero_cons {digits : Bytes} {number : Nat} (spells : Spells digits number) :
    Spells (48 :: digits) number := by
  obtain ⟨hex, read⟩ := spells
  refine ⟨List.forall_mem_cons.mpr ⟨by decide, hex⟩, ?_⟩
  have zero : hexValue (Char.ofNat (48 : UInt8).toNat) = some 0 := by decide
  cases digits with
  | nil => cases read
  | cons digit digits =>
    obtain ⟨first, is⟩ := Option.isSome_iff_exists.mp (hex digit (List.mem_cons_self ..))
    rw [List.map_cons, readNumber, is, Option.bind_some] at read
    rw [List.map_cons, readNumber, zero, Option.bind_some, List.map_cons, readDigits, is,
      Option.bind_some, Nat.mul_zero, Nat.zero_add]
    · exact read
    · -- The underscore is no digit.
      rintro other others underscore
      rw [underscore] at is
      cases is

theorem Spells.zeros {digits : Bytes} {number : Nat} (spells : Spells digits number)
    (count : Nat) : Spells (List.replicate count 48 ++ digits) number := by
  induction count with
  | zero => exact spells
  | succ count inductionHypothesis => exact inductionHypothesis.zero_cons

/-- A body whose only chunk has a size that is too long is not read. -/
theorem readChunked_of_long {chunk : WireChunk} (long : ¬ chunk.SizeFits) :
    readChunked (encodeChunked [chunk]) = none := by
  have turns : [chunk].length < (encodeChunked [chunk]).length + 1 := by
    have bound := length_chunks_le [chunk]
    rw [encodeChunked, List.length_append]
    omega
  have read := readChunkedBody_flatMap [chunk] turns [] []
  rw [if_neg fun fits => long (fits chunk (List.mem_singleton_self chunk)),
    List.append_nil, ← encodeChunked] at read
  exact read

/-- One byte, with a size of as many digits as the stream admits in a line. -/
def longSizeChunk : WireChunk where
  size := List.replicate (streamLimit - 1) 48 ++ [49]
  data := [120]
  spells := Spells.zeros (by decide) _
  nonempty := List.cons_ne_nil _ _

/-- Reading it raises, although it is a chunk like any other. -/
theorem readChunked_counterexample :
    readChunked (encodeChunked [longSizeChunk]) = none ∧
      readChunked (encodeChunked [longSizeChunk]) ≠ some ([120], []) := by
  have long : ¬ longSizeChunk.SizeFits := by
    have size : longSizeChunk.size = List.replicate (streamLimit - 1) 48 ++ [49] := rfl
    rw [WireChunk.SizeFits, size, List.length_append, List.length_replicate]
    decide
  have read := readChunked_of_long long
  refine ⟨read, fun same => ?_⟩
  rw [read] at same
  cases same

end LocalNetwork
