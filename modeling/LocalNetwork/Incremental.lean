/-
This file is a library for decoders that are fed a stream in chunks. A decoder takes the
first item off a buffer when a whole one is there, and otherwise leaves the buffer as it is
or fails. The loop around it appends each chunk to the buffer and calls the decoder until
it has no more items.

The result says when a stream that concatenates encodings comes back as its items, however
it is cut. At each chunk the items that end in it have to decode one after the other, and
the decoder has to wait on what is left over. What is left over is always the beginning of
the next encoding, so that both are conditions on encodings and cut points alone.
-/

import Mathlib.Data.List.Basic

namespace LocalNetwork

variable {Symbol Item Error : Type}
  (next : List Symbol → Except Error (Option Item × List Symbol))

/-- Call a decoder until it returns no item: the items, and what is left or the failure. None when
the calls run out. -/
def drain : Nat → List Symbol → Option (List Item × Except Error (List Symbol))
  | 0, _ => none
  | fuel + 1, buffer =>
    match next buffer with
    | .error failure => some ([], .error failure)
    | .ok (none, rest) => some ([], .ok rest)
    | .ok (some item, rest) =>
      (drain fuel rest).map fun result => (item :: result.1, result.2)

/-- Feed chunks: append each to the buffer and drain it, until a failure. -/
def feedChunks : List Symbol → List (List Symbol) →
    Option (List Item × Except Error (List Symbol))
  | buffer, [] => some ([], .ok buffer)
  | buffer, chunk :: rest =>
    match drain next ((buffer ++ chunk).length + 1) (buffer ++ chunk) with
    | none => none
    | some (items, .error failure) => some (items, .error failure)
    | some (items, .ok left) =>
      (feedChunks left rest).map fun result => (items ++ result.1, result.2)

variable {next} {Output : Type}

variable (encode : Item → List Symbol)

/-! ### One drain -/

/-- The decoder takes the items off one by one and then waits. -/
structure Decodes (next : List Symbol → Except Error (Option Item × List Symbol))
    (encode : Item → List Symbol) (items : List Item) (left : List Symbol) : Prop where
  takes : ∀ before item after, items = before ++ item :: after →
    next (encode item ++ (after.flatMap encode ++ left)) =
      .ok (some item, after.flatMap encode ++ left)
  waits : next left = .ok (none, left)

variable {encode}

theorem drain_decodes {items : List Item} {left : List Symbol} (fuel : Nat)
    (decodes : Decodes next encode items left) (enough : items.length < fuel) :
    drain next fuel (items.flatMap encode ++ left) = some (items, .ok left) := by
  induction items generalizing fuel with
  | nil =>
    obtain ⟨fuel, rfl⟩ : ∃ smaller, fuel = smaller + 1 := ⟨fuel - 1, by simp at enough; omega⟩
    simp [drain, decodes.waits]
  | cons item rest inductionHypothesis =>
    obtain ⟨fuel, rfl⟩ : ∃ smaller, fuel = smaller + 1 := ⟨fuel - 1, by omega⟩
    have later := inductionHypothesis fuel
      ⟨fun before other after split => decodes.takes (item :: before) other after (by simp [split]),
        decodes.waits⟩
      (by simpa using enough)
    rw [List.flatMap_cons, List.append_assoc, drain, decodes.takes [] item rest rfl]
    simp [later]

/-! ### All chunks -/

/-- What is left over when a part of a stream has been decoded: the beginning of the next
encoding, and nothing after the last. -/
def Remains (encode : Item → List Symbol) : List Item → List Symbol → Prop
  | [], left => left = []
  | item :: _, left => left <+: encode item ∧ left ≠ encode item

/-- A part of a concatenation of encodings holds some whole encodings and a remainder. -/
theorem exists_remains (items : List Item) (part rest : List Symbol)
    (split : part ++ rest = items.flatMap encode) :
    ∃ done todo left, items = done ++ todo ∧ part = done.flatMap encode ++ left ∧
      left ++ rest = todo.flatMap encode ∧ Remains encode todo left := by
  induction items generalizing part with
  | nil =>
    obtain ⟨rfl, rfl⟩ := List.append_eq_nil_iff.mp split
    exact ⟨[], [], [], rfl, rfl, rfl, rfl⟩
  | cons item items inductionHypothesis =>
    rw [List.flatMap_cons] at split
    by_cases whole : encode item <+: part
    · obtain ⟨more, rfl⟩ := whole
      rw [List.append_assoc, List.append_cancel_left_eq] at split
      obtain ⟨done, todo, left, rfl, rfl, later, remains⟩ := inductionHypothesis more split
      exact ⟨item :: done, todo, left, rfl, by simp, later, remains⟩
    · have shorter : part <+: encode item := by
        have both : part <+: encode item ++ items.flatMap encode := ⟨rest, split⟩
        rcases List.prefix_or_prefix_of_prefix both (List.prefix_append _ _) with short | long
        · exact short
        · exact absurd long whole
      refine ⟨[], item :: items, part, rfl, rfl, by simp [split], shorter, fun same => ?_⟩
      exact whole (same ▸ List.prefix_refl _)

/-- Every drain along the chunks decodes: at each chunk, the items that end in it and the
remainder of the next. -/
def DecodesAlong (next : List Symbol → Except Error (Option Item × List Symbol))
    (encode : Item → List Symbol) (items : List Item) (chunks : List (List Symbol)) : Prop :=
  ∀ before chunk after past done todo buffer left, chunks = before ++ chunk :: after →
    items = past ++ (done ++ todo) → before.flatten = past.flatMap encode ++ buffer →
      Remains encode (done ++ todo) buffer → buffer ++ chunk = done.flatMap encode ++ left →
        Remains encode todo left → Decodes next encode done left

/-- Encodings that are not empty are at most as many as their symbols. -/
theorem length_le_flatMap (items : List Item) (nonempty : ∀ item ∈ items, encode item ≠ []) :
    items.length ≤ (items.flatMap encode).length := by
  induction items with
  | nil => simp
  | cons item rest inductionHypothesis =>
    have head := List.length_pos_iff.mpr (nonempty item (List.mem_cons_self ..))
    have tail := inductionHypothesis fun other member =>
      nonempty other (List.mem_cons_of_mem _ member)
    rw [List.flatMap_cons, List.length_append, List.length_cons]
    omega

/-- A stream of encodings comes back as its items, whatever the chunks, if every drain along the
chunks decodes. -/
theorem feedChunks_decodes {items : List Item} {chunks : List (List Symbol)}
    (nonempty : ∀ item ∈ items, encode item ≠ [])
    (stream : chunks.flatten = items.flatMap encode)
    (along : DecodesAlong next encode items chunks) :
    feedChunks next [] chunks = some (items, .ok []) := by
  -- The induction is on the chunks still to come, with the items decoded so far as its past.
  have continued : ∀ (after before : List (List Symbol)) (past todo : List Item)
      (buffer : List Symbol), chunks = before ++ after → items = past ++ todo →
      before.flatten = past.flatMap encode ++ buffer → Remains encode todo buffer →
        feedChunks next buffer after = some (todo, .ok []) := by
    intro after
    induction after with
    | nil =>
      intro before past todo buffer split parts read remains
      rw [split, List.append_nil, read, parts, List.flatMap_append,
        List.append_cancel_left_eq] at stream
      cases todo with
      | nil =>
        rw [Remains] at remains
        rw [remains, feedChunks]
      | cons item rest =>
        obtain ⟨short, different⟩ := remains
        rw [stream, List.flatMap_cons] at short different
        have bound := short.length_le
        have empty : rest.flatMap encode = [] := by
          refine List.eq_nil_of_length_eq_zero ?_
          rw [List.length_append] at bound
          omega
        rw [empty, List.append_nil] at different
        exact absurd rfl different
    | cons chunk after inductionHypothesis =>
      intro before past todo buffer split parts read remains
      have restStream : (buffer ++ chunk) ++ after.flatten = todo.flatMap encode := by
        rw [split, List.flatten_append, List.flatten_cons, read, parts, List.flatMap_append,
          List.append_assoc, List.append_cancel_left_eq] at stream
        rw [List.append_assoc, stream]
      obtain ⟨done, later, left, rfl, held, rest, nextRemains⟩ :=
        exists_remains todo (buffer ++ chunk) after.flatten restStream
      have decodes := along before chunk after past done later buffer left split parts read remains
        held nextRemains
      have count : done.length ≤ (buffer ++ chunk).length := by
        have fits := length_le_flatMap done fun item member =>
          nonempty item (by rw [parts]; simp [member])
        rw [held, List.length_append]
        omega
      have drained := drain_decodes ((buffer ++ chunk).length + 1) decodes (by omega)
      rw [← held] at drained
      have continuation := inductionHypothesis (before ++ [chunk]) (past ++ done) later left
        (by simp [split]) (by simp [parts])
        (by rw [List.flatten_append, List.flatten_singleton, read, List.append_assoc, held]; simp)
        nextRemains
      rw [feedChunks, drained]
      simp [continuation]
  refine continued chunks [] [] items [] rfl rfl rfl ?_
  cases items with
  | nil => rfl
  | cons item rest =>
    exact ⟨ List.nil_prefix, fun same => nonempty item (List.mem_cons_self ..) same.symm⟩

end LocalNetwork
