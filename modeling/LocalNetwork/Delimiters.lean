/-
This file is a library for text with delimiters, over any symbols. A list is cut at the first
occurrence of a pattern; splitting at a separator, at most so often or as often as it
occurs, repeats the cut. Stripping drops blanks at both ends.

The lemmas come in two directions. What was joined with a separator comes apart again, if
the pieces do not hold the separator; and what a cut returns never holds it.
-/

import Mathlib.Data.List.DropRight
import Mathlib.Data.List.Infix

namespace LocalNetwork

variable {Symbol : Type} [DecidableEq Symbol]

/-- The parts before and after the first occurrence of a pattern. -/
def cutAt (pattern : List Symbol) : List Symbol → Option (List Symbol × List Symbol)
  | [] => if pattern = [] then some ([], []) else none
  | symbol :: rest =>
    if pattern.isPrefixOf (symbol :: rest) then
      some ([], (symbol :: rest).drop pattern.length)
    else (cutAt pattern rest).map fun (before, after) => (symbol :: before, after)

/-- Split at a separator, at most so often. -/
def splitAtMost (separator : List Symbol) : Nat → List Symbol → List (List Symbol)
  | 0, data => [data]
  | count + 1, data =>
    match cutAt separator data with
    | none => [data]
    | some (before, after) => before :: splitAtMost separator count after

/-- Split at every occurrence of a separator. -/
def splitOn (separator data : List Symbol) : List (List Symbol) :=
  splitAtMost separator data.length data

/-- Drop the blanks at both ends. -/
def stripBlanks (blank : Symbol → Bool) (data : List Symbol) : List Symbol :=
  (data.dropWhile blank).rdropWhile blank

/-! ### Cuts -/

variable {pattern : List Symbol}

theorem cutAt_append (pattern rest : List Symbol) :
    cutAt pattern (pattern ++ rest) = some ([], rest) := by
  cases whole : pattern ++ rest with
  | nil =>
    obtain ⟨rfl, rfl⟩ := List.append_eq_nil_iff.mp whole
    rfl
  | cons symbol others =>
    have here : pattern.isPrefixOf (symbol :: others) = true := by
      rw [List.isPrefixOf_iff_prefix, ← whole]
      exact List.prefix_append pattern rest
    rw [cutAt, if_pos here, ← whole, List.drop_left]

theorem cutAt_cons_of_not {symbol : Symbol} {rest : List Symbol}
    (elsewhere : ¬ pattern <+: symbol :: rest) :
    cutAt pattern (symbol :: rest) =
      (cutAt pattern rest).map fun (before, after) => (symbol :: before, after) := by
  rw [cutAt, if_neg]
  rwa [List.isPrefixOf_iff_prefix]

/-- A cut gives the list back, and the pattern is not in the first part. -/
theorem cutAt_some {data before after : List Symbol}
    (found : cutAt pattern data = some (before, after)) :
    data = before ++ (pattern ++ after) ∧
      ∀ earlier later, data = earlier ++ (pattern ++ later) → before.length ≤ earlier.length := by
  induction data generalizing before with
  | nil =>
    rw [cutAt] at found
    split at found
    · rename_i empty
      obtain ⟨rfl, rfl⟩ := Prod.mk.inj (Option.some.inj found)
      exact ⟨by rw [empty]; rfl, fun _ _ _ => Nat.zero_le _⟩
    · cases found
  | cons symbol rest inductionHypothesis =>
    by_cases here : pattern <+: symbol :: rest
    · obtain ⟨others, split⟩ := here
      rw [← split, cutAt_append] at found
      obtain ⟨rfl, rfl⟩ := Prod.mk.inj (Option.some.inj found)
      exact ⟨split.symm, fun _ _ _ => Nat.zero_le _⟩
    · rw [cutAt_cons_of_not here] at found
      obtain ⟨⟨front, back⟩, foundRest, same⟩ := Option.map_eq_some_iff.mp found
      obtain ⟨rfl, rfl⟩ := Prod.mk.inj same
      obtain ⟨split, first⟩ := inductionHypothesis foundRest
      refine ⟨congrArg (symbol :: ·) split, fun earlier later other => ?_⟩
      cases earlier with
      | nil => exact absurd ⟨later, other.symm⟩ here
      | cons head earlier =>
        exact Nat.succ_le_succ (first earlier later (List.cons.inj other).2)

/-- Where the pattern does not occur nothing is cut. -/
theorem cutAt_eq_none_iff (nonempty : pattern ≠ []) {data : List Symbol} :
    cutAt pattern data = none ↔ ¬ pattern <:+: data := by
  induction data with
  | nil =>
    rw [cutAt, if_neg nonempty]
    simp [nonempty]
  | cons symbol rest inductionHypothesis =>
    rw [List.infix_cons_iff, not_or]
    by_cases here : pattern <+: symbol :: rest
    · obtain ⟨others, split⟩ := here
      rw [← split, cutAt_append]
      simp
    · rw [cutAt_cons_of_not here, Option.map_eq_none_iff, inductionHypothesis]
      exact ⟨fun elsewhere => ⟨here, elsewhere⟩, And.right⟩

/-- A cut is determined by its place: nothing of the pattern begins before it. -/
theorem cutAt_of_first {data before after : List Symbol} (split : data = before ++ (pattern ++ after))
    (first : ∀ earlier later, data = earlier ++ (pattern ++ later) →
      before.length ≤ earlier.length) : cutAt pattern data = some (before, after) := by
  cases found : cutAt pattern data with
  | none =>
    by_cases empty : pattern = []
    · subst empty
      cases data with
      | nil => cases found
      | cons symbol rest => cases found
    · refine absurd ?_ ((cutAt_eq_none_iff empty).mp found)
      exact ⟨before, after, by rw [split, List.append_assoc]⟩
  | some parts =>
    obtain ⟨front, back⟩ := parts
    obtain ⟨other, least⟩ := cutAt_some found
    have same : front.length = before.length :=
      Nat.le_antisymm (least before after split) (first front back other)
    obtain ⟨rfl, rest⟩ := List.append_inj (other.symm.trans split) same
    rw [List.append_cancel_left rest]

theorem not_infix_of_cutAt (nonempty : pattern ≠ []) {data before after : List Symbol}
    (found : cutAt pattern data = some (before, after)) : ¬ pattern <:+: before := by
  rintro ⟨earlier, later, inside⟩
  obtain ⟨split, first⟩ := cutAt_some found
  have bound := first earlier (later ++ (pattern ++ after)) (by
    rw [split, ← inside]
    simp only [List.append_assoc])
  have size := congrArg List.length inside
  have positive := List.length_pos_iff.mpr nonempty
  simp only [List.length_append] at size
  omega

theorem length_of_cutAt {data before after : List Symbol}
    (found : cutAt pattern data = some (before, after)) :
    data.length = before.length + pattern.length + after.length := by
  rw [(cutAt_some found).1]
  simp only [List.length_append, Nat.add_assoc]

/-- What comes later does not change a cut. -/
theorem cutAt_append_right {data before after : List Symbol} (more : List Symbol)
    (found : cutAt pattern data = some (before, after)) :
    cutAt pattern (data ++ more) = some (before, after ++ more) := by
  obtain ⟨split, first⟩ := cutAt_some found
  refine cutAt_of_first (by rw [split]; simp only [List.append_assoc]) fun earlier later other => ?_
  by_contra sooner
  have size := length_of_cutAt found
  have begins : earlier ++ pattern <+: data :=
    List.prefix_of_prefix_length_le ⟨later, by rw [other, List.append_assoc]⟩
      (List.prefix_append data more) (by
        rw [List.length_append]
        omega)
  obtain ⟨rest, whole⟩ := begins
  exact sooner (first earlier rest (by rw [← whole, List.append_assoc]))

/-- A front of a list that can be cut is cut where the list is. -/
theorem cutAt_front_eq {front whole before rest other after : List Symbol} (begins : front <+: whole)
    (found : cutAt pattern front = some (before, rest))
    (foundWhole : cutAt pattern whole = some (other, after)) : before = other := by
  obtain ⟨more, rfl⟩ := begins
  rw [cutAt_append_right more found] at foundWhole
  exact (Prod.mk.inj (Option.some.inj foundWhole)).1

/-- A symbol that does not begin the pattern is passed over. -/
theorem cutAt_cons_of_ne {first symbol : Symbol} {others rest : List Symbol}
    (different : symbol ≠ first) :
    cutAt (first :: others) (symbol :: rest) =
      (cutAt (first :: others) rest).map fun (before, after) => (symbol :: before, after) := by
  refine cutAt_cons_of_not fun here => different ?_
  exact (List.cons_prefix_cons.mp here).1.symm

/-- Symbols that do not begin the pattern are passed over. -/
theorem cutAt_append_of_not_mem {first : Symbol} {others piece : List Symbol} (rest : List Symbol)
    (absent : first ∉ piece) :
    cutAt (first :: others) (piece ++ rest) =
      (cutAt (first :: others) rest).map fun (before, after) => (piece ++ before, after) := by
  induction piece with
  | nil => simp
  | cons symbol piece inductionHypothesis =>
    rw [List.mem_cons, not_or] at absent
    rw [List.cons_append, cutAt_cons_of_ne (fun same => absent.1 same.symm),
      inductionHypothesis absent.2, Option.map_map]
    rfl

theorem cutAt_symbol {symbol : Symbol} {piece : List Symbol} (rest : List Symbol)
    (absent : symbol ∉ piece) : cutAt [symbol] (piece ++ symbol :: rest) = some (piece, rest) := by
  have here : cutAt [symbol] (symbol :: rest) = some ([], rest) := cutAt_append [symbol] rest
  rw [cutAt_append_of_not_mem _ absent, here]
  simp

/-- A pattern of two different symbols cannot begin in a piece and end after it. -/
theorem cutAt_two {first second : Symbol} {piece : List Symbol} (rest : List Symbol)
    (different : first ≠ second) (absent : ¬ [first, second] <:+: piece) :
    cutAt [first, second] (piece ++ first :: second :: rest) = some (piece, rest) := by
  induction piece with
  | nil => exact cutAt_append [first, second] rest
  | cons symbol piece inductionHypothesis =>
    rw [List.infix_cons_iff, not_or] at absent
    have elsewhere : ¬ [first, second] <+: symbol :: (piece ++ first :: second :: rest) := by
      rw [List.cons_prefix_cons]
      rintro ⟨rfl, begins⟩
      cases piece with
      | nil => exact different (List.cons_prefix_cons.mp begins).1.symm
      | cons next piece =>
        obtain ⟨rfl, -⟩ := List.cons_prefix_cons.mp begins
        exact absent.1 ⟨piece, rfl⟩
    rw [List.cons_append, cutAt_cons_of_not elsewhere, inductionHypothesis absent.2]
    rfl

omit [DecidableEq Symbol] in
/-- A pair that does not hold a symbol cannot reach across it. -/
theorem not_infix_append_cons {first second symbol : Symbol} {front back : List Symbol}
    (notFirst : symbol ≠ first) (notSecond : symbol ≠ second)
    (inFront : ¬ [first, second] <:+: front) (inBack : ¬ [first, second] <:+: back) :
    ¬ [first, second] <:+: front ++ symbol :: back := by
  induction front with
  | nil =>
    rw [List.nil_append, List.infix_cons_iff, List.cons_prefix_cons]
    rintro (⟨same, -⟩ | later)
    · exact notFirst same.symm
    · exact inBack later
  | cons other front inductionHypothesis =>
    rw [List.infix_cons_iff, not_or] at inFront
    rw [List.cons_append, List.infix_cons_iff, List.cons_prefix_cons]
    rintro (⟨rfl, next⟩ | later)
    · cases front with
      | nil => exact notSecond (List.cons_prefix_cons.mp next).1.symm
      | cons another front =>
        obtain ⟨rfl, -⟩ := List.cons_prefix_cons.mp next
        exact inFront.1 ⟨front, rfl⟩
    · exact inductionHypothesis inFront.2 later

/-! ### Splits -/

variable {separator : List Symbol}

/-- More splits than symbols are as good as any. -/
theorem splitAtMost_of_le (nonempty : separator ≠ []) {first second : Nat} {data : List Symbol}
    (firstEnough : data.length ≤ first) (secondEnough : data.length ≤ second) :
    splitAtMost separator first data = splitAtMost separator second data := by
  have nothing : cutAt separator ([] : List Symbol) = none := by
    rw [cutAt, if_neg nonempty]
  induction first generalizing second data with
  | zero =>
    obtain rfl := List.eq_nil_of_length_eq_zero (Nat.le_zero.mp firstEnough)
    cases second with
    | zero => rfl
    | succ second => rw [splitAtMost, splitAtMost, nothing]
  | succ first inductionHypothesis =>
    cases second with
    | zero =>
      obtain rfl := List.eq_nil_of_length_eq_zero (Nat.le_zero.mp secondEnough)
      rw [splitAtMost, splitAtMost, nothing]
    | succ second =>
      rw [splitAtMost, splitAtMost]
      cases found : cutAt separator data with
      | none => rfl
      | some parts =>
        have size := length_of_cutAt found
        have positive := List.length_pos_iff.mpr nonempty
        exact congrArg (parts.1 :: ·) (inductionHypothesis (by omega) (by omega))

/-- A full split is a cut and a full split of what follows. -/
theorem splitOn_of_cutAt (nonempty : separator ≠ []) {data before after : List Symbol}
    (found : cutAt separator data = some (before, after)) :
    splitOn separator data = before :: splitOn separator after := by
  have size := length_of_cutAt found
  have positive := List.length_pos_iff.mpr nonempty
  rw [splitOn, splitOn, splitAtMost_of_le nonempty (Nat.le_refl _) (Nat.le_succ _), splitAtMost,
    found]
  simp only
  rw [splitAtMost_of_le nonempty (by omega) (Nat.le_refl _)]

theorem splitOn_of_not (nonempty : separator ≠ []) {data : List Symbol}
    (absent : ¬ separator <:+: data) : splitOn separator data = [data] := by
  rw [splitOn, splitAtMost_of_le nonempty (Nat.le_refl _) (Nat.le_succ _), splitAtMost,
    (cutAt_eq_none_iff nonempty).mpr absent]

theorem splitOn_symbol {symbol : Symbol} {piece : List Symbol} (rest : List Symbol)
    (absent : symbol ∉ piece) :
    splitOn [symbol] (piece ++ symbol :: rest) = piece :: splitOn [symbol] rest :=
  splitOn_of_cutAt (List.cons_ne_nil symbol []) (cutAt_symbol rest absent)

omit [DecidableEq Symbol] in
/-- Joined pieces: the first, and each other one after a separator. -/
theorem intercalate_cons_eq (separator piece : List Symbol) (pieces : List (List Symbol)) :
    separator.intercalate (piece :: pieces) =
      piece ++ pieces.flatMap fun other => separator ++ other := by
  induction pieces generalizing piece with
  | nil => simp
  | cons next pieces inductionHypothesis =>
    rw [List.intercalate_cons_cons, inductionHypothesis, List.flatMap_cons]
    simp only [List.append_assoc]

/-- Pieces joined with a separator of two different symbols come apart again. -/
theorem splitOn_intercalate {first second : Symbol} (different : first ≠ second)
    (pieces : List (List Symbol)) (nonempty : pieces ≠ [])
    (absent : ∀ piece ∈ pieces, ¬ [first, second] <:+: piece) :
    splitOn [first, second] ([first, second].intercalate pieces) = pieces := by
  induction pieces with
  | nil => exact absurd rfl nonempty
  | cons piece pieces inductionHypothesis =>
    have here := absent piece (List.mem_cons_self ..)
    cases pieces with
    | nil =>
      rw [List.intercalate_singleton]
      exact splitOn_of_not (List.cons_ne_nil _ _) here
    | cons next pieces =>
      have cut := cutAt_two ([first, second].intercalate (next :: pieces)) different here
      have rest := inductionHypothesis (List.cons_ne_nil _ _) fun other member =>
        absent other (List.mem_cons_of_mem _ member)
      rw [List.intercalate_cons_cons, List.append_assoc]
      exact (splitOn_of_cutAt (List.cons_ne_nil _ _) cut).trans (congrArg (piece :: ·) rest)

/-- The pieces of a split, joined again. -/
theorem intercalate_splitAtMost (count : Nat) (data : List Symbol) :
    separator.intercalate (splitAtMost separator count data) = data := by
  induction count generalizing data with
  | zero => exact List.intercalate_singleton
  | succ count inductionHypothesis =>
    rw [splitAtMost]
    cases found : cutAt separator data with
    | none => exact List.intercalate_singleton
    | some parts =>
      obtain ⟨before, after⟩ := parts
      have later := inductionHypothesis after
      cases pieces : splitAtMost separator count after with
      | nil =>
        cases count with
        | zero => cases pieces
        | succ count =>
          rw [splitAtMost] at pieces
          split at pieces
          · cases pieces
          · cases pieces
      | cons piece others =>
        rw [pieces] at later
        simp only
        rw [pieces, List.intercalate_cons_cons, later, (cutAt_some found).1, List.append_assoc]

/-- The pieces of a split do not hold the separator. -/
theorem not_infix_of_mem_splitOn (nonempty : separator ≠ []) {data piece : List Symbol}
    (member : piece ∈ splitOn separator data) : ¬ separator <:+: piece := by
  induction size : data.length using Nat.strong_induction_on generalizing data with
  | _ size inductionHypothesis =>
    cases found : cutAt separator data with
    | none =>
      have absent := (cutAt_eq_none_iff nonempty).mp found
      rw [splitOn_of_not nonempty absent, List.mem_singleton] at member
      rwa [member]
    | some parts =>
      obtain ⟨before, after⟩ := parts
      rw [splitOn_of_cutAt nonempty found, List.mem_cons] at member
      rcases member with rfl | later
      · exact not_infix_of_cutAt nonempty found
      · have sizes := length_of_cutAt found
        have positive := List.length_pos_iff.mpr nonempty
        exact inductionHypothesis after.length (by omega) later rfl

/-- The first pieces of a bounded split at one symbol. -/
theorem splitAtMost_symbol {symbol : Symbol} {piece : List Symbol} (count : Nat)
    (rest : List Symbol) (absent : symbol ∉ piece) :
    splitAtMost [symbol] (count + 1) (piece ++ symbol :: rest) =
      piece :: splitAtMost [symbol] count rest := by
  rw [splitAtMost, cutAt_symbol rest absent]

/-- The pieces of a split at one symbol into two or more, at most three. -/
theorem splitAtMost_two {symbol : Symbol} {data first second : List Symbol}
    {more : List (List Symbol)} (parts : splitAtMost [symbol] 2 data = first :: second :: more) :
    (symbol ∉ first ∧ first <:+: data) ∧ symbol ∉ second ∧ second <:+: data := by
  have nonempty : [symbol] ≠ [] := List.cons_ne_nil symbol []
  rw [splitAtMost] at parts
  cases found : cutAt [symbol] data with
  | none =>
    rw [found] at parts
    cases (List.cons.inj parts).2
  | some cut =>
    obtain ⟨before, after⟩ := cut
    rw [found] at parts
    obtain ⟨rfl, rest⟩ := List.cons.inj parts
    have absent := not_infix_of_cutAt nonempty found
    rw [List.singleton_infix_iff] at absent
    have split := (cutAt_some found).1
    have suffix : after <:+: data := by
      rw [split]
      exact ((List.suffix_append [symbol] after).trans (List.suffix_append _ _)).isInfix
    refine ⟨⟨absent, split ▸ (List.prefix_append ..).isInfix⟩, ?_⟩
    rw [splitAtMost] at rest
    cases foundNext : cutAt [symbol] after with
    | none =>
      rw [foundNext] at rest
      obtain ⟨rfl, -⟩ := List.cons.inj rest
      have nothing := (cutAt_eq_none_iff nonempty).mp foundNext
      rw [List.singleton_infix_iff] at nothing
      exact ⟨nothing, suffix⟩
    | some next =>
      rw [foundNext] at rest
      obtain ⟨rfl, -⟩ := List.cons.inj rest
      have nothing := not_infix_of_cutAt nonempty foundNext
      rw [List.singleton_infix_iff] at nothing
      refine ⟨nothing, List.IsInfix.trans ?_ suffix⟩
      rw [(cutAt_some foundNext).1]
      exact (List.prefix_append ..).isInfix

/-- A list is a last piece, or a piece and the rest behind the first occurrence of a symbol. -/
theorem pieces_induction (symbol : Symbol) {property : List Symbol → Prop}
    (last : ∀ piece, symbol ∉ piece → property piece)
    (more : ∀ piece rest, symbol ∉ piece → property rest → property (piece ++ symbol :: rest))
    (data : List Symbol) : property data := by
  generalize size : data.length = length
  induction length using Nat.strong_induction_on generalizing data with
  | _ length inductionHypothesis =>
    by_cases inside : symbol ∈ data
    · obtain ⟨piece, rest, rfl, absent⟩ := List.eq_append_cons_of_mem inside
      refine more piece rest absent (inductionHypothesis rest.length ?_ rest rfl)
      rw [← size, List.length_append, List.length_cons]
      omega
    · exact last data inside

theorem splitOn_of_not_mem {symbol : Symbol} {piece : List Symbol} (absent : symbol ∉ piece) :
    splitOn [symbol] piece = [piece] := by
  refine splitOn_of_not (List.cons_ne_nil symbol []) ?_
  rwa [List.singleton_infix_iff]

/-- A split goes on behind every occurrence of the symbol. -/
theorem splitOn_append_cons {symbol : Symbol} (front rest : List Symbol) :
    splitOn [symbol] (front ++ symbol :: rest) =
      splitOn [symbol] front ++ splitOn [symbol] rest := by
  induction front using pieces_induction symbol with
  | last piece absent =>
    rw [splitOn_symbol rest absent, splitOn_of_not_mem absent, List.singleton_append]
  | more piece others absent inductionHypothesis =>
    rw [List.append_assoc, List.cons_append, splitOn_symbol _ absent, splitOn_symbol _ absent,
      inductionHypothesis, List.cons_append]

/-- A split gives one piece more than there are occurrences of the symbol. -/
theorem length_splitOn_symbol (symbol : Symbol) (data : List Symbol) :
    (splitOn [symbol] data).length = data.count symbol + 1 := by
  induction data using pieces_induction symbol with
  | last piece absent =>
    rw [splitOn_of_not_mem absent, List.count_eq_zero_of_not_mem absent, List.length_singleton]
  | more piece rest absent inductionHypothesis =>
    rw [splitOn_symbol rest absent, List.length_cons, inductionHypothesis, List.count_append,
      List.count_eq_zero_of_not_mem absent, List.count_cons_self, Nat.zero_add]

/-- Joined texts come apart into the pieces of each of them. -/
theorem splitOn_intercalate_symbol {symbol : Symbol} (first : List Symbol)
    (texts : List (List Symbol)) :
    splitOn [symbol] ([symbol].intercalate (first :: texts)) =
      (first :: texts).flatMap (splitOn [symbol]) := by
  induction texts generalizing first with
  | nil => rw [List.intercalate_singleton, List.flatMap_singleton]
  | cons second texts inductionHypothesis =>
    rw [List.intercalate_cons_cons, List.append_assoc, List.singleton_append,
      splitOn_append_cons, inductionHypothesis second]
    exact List.flatMap_cons.symm

/-- Texts are told apart by their pieces and by how many of these each of them has. -/
theorem eq_of_pieces {symbol : Symbol} {first second : List (List Symbol)}
    (pieces : first.flatMap (splitOn [symbol]) = second.flatMap (splitOn [symbol]))
    (counts : first.map (List.count symbol) = second.map (List.count symbol)) :
    first = second := by
  induction first generalizing second with
  | nil =>
    rw [List.map_nil] at counts
    exact (List.map_eq_nil_iff.mp counts.symm).symm
  | cons text first inductionHypothesis =>
    cases second with
    | nil => cases counts
    | cons other second =>
      rw [List.map_cons, List.map_cons, List.cons.injEq] at counts
      rw [List.flatMap_cons, List.flatMap_cons] at pieces
      have sameLength : (splitOn [symbol] text).length = (splitOn [symbol] other).length := by
        rw [length_splitOn_symbol, length_splitOn_symbol, counts.1]
      obtain ⟨here, rest⟩ := List.append_inj pieces sameLength
      have same : text = other := by
        have joined := congrArg [symbol].intercalate here
        rwa [splitOn, splitOn, intercalate_splitAtMost, intercalate_splitAtMost] at joined
      rw [same, inductionHypothesis rest counts.2]

/-! ### Stripping -/

omit [DecidableEq Symbol] in
theorem stripBlanks_inside (blank : Symbol → Bool) (data : List Symbol) :
    stripBlanks blank data <:+: data :=
  (List.rdropWhile_prefix ..).isInfix.trans (List.dropWhile_suffix ..).isInfix

omit [DecidableEq Symbol] in
theorem dropWhile_append_of_head (blank : Symbol → Bool) {left core : List Symbol}
    (leftBlank : ∀ symbol ∈ left, blank symbol = true)
    (first : ∀ symbol ∈ core.head?, blank symbol = false) :
    (left ++ core).dropWhile blank = core := by
  rw [List.dropWhile_append_of_pos leftBlank]
  cases core with
  | nil => rfl
  | cons symbol rest =>
    rw [List.dropWhile_cons_of_neg]
    simp [first symbol rfl]

omit [DecidableEq Symbol] in
/-- What does not begin or end with a blank stays, and blanks around it go away. -/
theorem stripBlanks_padded (blank : Symbol → Bool) {left core right : List Symbol}
    (leftBlank : ∀ symbol ∈ left, blank symbol = true)
    (rightBlank : ∀ symbol ∈ right, blank symbol = true)
    (first : ∀ symbol ∈ core.head?, blank symbol = false)
    (last : ∀ symbol ∈ core.getLast?, blank symbol = false) :
    stripBlanks blank (left ++ (core ++ right)) = core := by
  have front : stripBlanks blank (left ++ (core ++ right)) = (core ++ right).rdropWhile blank := by
    cases core with
    | nil =>
      have allBlank : ∀ symbol ∈ left ++ right, blank symbol = true := by
        intro symbol member
        rcases List.mem_append.mp member with inLeft | inRight
        · exact leftBlank symbol inLeft
        · exact rightBlank symbol inRight
      rw [stripBlanks, List.nil_append, List.dropWhile_eq_nil_iff.mpr allBlank, List.rdropWhile_nil,
        List.rdropWhile_eq_nil_iff.mpr rightBlank]
    | cons symbol core =>
      exact congrArg (List.rdropWhile blank)
        (@dropWhile_append_of_head _ blank left (symbol :: core ++ right) leftBlank first)
  rw [front, List.rdropWhile, List.reverse_append, dropWhile_append_of_head blank,
    List.reverse_reverse]
  · intro symbol member
    exact rightBlank symbol (List.mem_reverse.mp member)
  · rw [List.head?_reverse]
    exact last

omit [DecidableEq Symbol] in
theorem stripBlanks_of_ends (blank : Symbol → Bool) {core : List Symbol}
    (first : ∀ symbol ∈ core.head?, blank symbol = false)
    (last : ∀ symbol ∈ core.getLast?, blank symbol = false) : stripBlanks blank core = core := by
  have padded := @stripBlanks_padded _ blank [] core [] (fun _ member => nomatch member)
    (fun _ member => nomatch member) first last
  rwa [List.append_nil, List.nil_append] at padded

omit [DecidableEq Symbol] in
theorem head_stripBlanks (blank : Symbol → Bool) (data : List Symbol) :
    ∀ symbol ∈ (stripBlanks blank data).head?, blank symbol = false := by
  intro symbol head
  have begins : (stripBlanks blank data).head? = (data.dropWhile blank).head? := by
    obtain ⟨rest, split⟩ := List.rdropWhile_prefix blank (data.dropWhile blank)
    have nonempty : stripBlanks blank data ≠ [] := by
      intro empty
      rw [empty] at head
      cases head
    rw [← split]
    exact (List.head?_append_of_ne_nil _ nonempty).symm
  rw [begins] at head
  have kept := List.head?_dropWhile_not blank data
  rw [head] at kept
  simpa using kept

omit [DecidableEq Symbol] in
theorem getLast_stripBlanks (blank : Symbol → Bool) (data : List Symbol) :
    ∀ symbol ∈ (stripBlanks blank data).getLast?, blank symbol = false := by
  intro symbol last
  obtain ⟨nonempty, rfl⟩ := List.mem_getLast?_eq_getLast last
  exact eq_false_of_ne_true (List.rdropWhile_last_not blank (data.dropWhile blank) nonempty)

omit [DecidableEq Symbol] in
/-- What stripping takes away are blanks at both ends. -/
theorem exists_stripBlanks (blank : Symbol → Bool) (data : List Symbol) :
    ∃ left right, data = left ++ (stripBlanks blank data ++ right) ∧
      (∀ symbol ∈ left, blank symbol = true) ∧ ∀ symbol ∈ right, blank symbol = true := by
  refine ⟨data.takeWhile blank, (data.dropWhile blank).rtakeWhile blank, ?_,
    fun symbol member => List.mem_takeWhile_imp member,
    fun symbol member => List.mem_rtakeWhile_imp member⟩
  rw [stripBlanks, List.rdropWhile_append_rtakeWhile, List.takeWhile_append_dropWhile]

omit [DecidableEq Symbol] in
/-- Stripping fewer kinds of blanks first makes no difference. -/
theorem stripBlanks_stripBlanks {fewer more : Symbol → Bool}
    (included : ∀ symbol, fewer symbol = true → more symbol = true) (data : List Symbol) :
    stripBlanks more (stripBlanks fewer data) = stripBlanks more data := by
  obtain ⟨left, right, outer, leftBlank, rightBlank⟩ := exists_stripBlanks fewer data
  obtain ⟨nextLeft, nextRight, inner, nextLeftBlank, nextRightBlank⟩ :=
    exists_stripBlanks more (stripBlanks fewer data)
  have whole : data = (left ++ nextLeft) ++
      (stripBlanks more (stripBlanks fewer data) ++ (nextRight ++ right)) := by
    refine outer.trans ((congrArg (fun core => left ++ (core ++ right)) inner).trans ?_)
    simp only [List.append_assoc]
  have padded := @stripBlanks_padded _ more (left ++ nextLeft)
    (stripBlanks more (stripBlanks fewer data)) (nextRight ++ right)
    (List.forall_mem_append.mpr ⟨fun symbol member => included symbol (leftBlank symbol member),
      nextLeftBlank⟩)
    (List.forall_mem_append.mpr ⟨nextRightBlank,
      fun symbol member => included symbol (rightBlank symbol member)⟩)
    (head_stripBlanks more _) (getLast_stripBlanks more _)
  rw [← whole] at padded
  exact padded.symm

end LocalNetwork
