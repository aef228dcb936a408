/-
This file is a library for decoders fed in chunks that may forget. Some items make the decoder
drop whatever follows them in its buffer, and on a long beginning of an item it may give up
instead of waiting. The stream then comes back only for some ways of cutting it, and the
result here says for which: where an item makes the decoder drop, a chunk has to end, and
no chunk may end where the decoder gives up.

The condition is also necessary if a decoder that has lost its place never finds it again:
an item read too late ends too late. From there on what is unread is less than the items
still expected, to the end of the stream.
-/

import LocalNetwork.Incremental

namespace LocalNetwork

variable {Symbol Item Output Error : Type}
  {next : List Symbol → Except Error (Option Output × List Symbol)}
  {encode : Item → List Symbol} {value : Item → Output}
  {drops : Item → Prop} {patient : Item → Nat → Prop}

/-! ### What is returned -/

/-- Where an item makes the decoder drop, a chunk ends; and where a chunk ends inside an item, the
decoder is still patient. -/
def CutsKept (encode : Item → List Symbol) (drops : Item → Prop) (patient : Item → Nat → Prop)
    (points : List Nat) : Nat → List Item → Prop
  | _, [] => True
  | start, item :: rest =>
    (drops item → start + (encode item).length ∈ points) ∧
    (∀ point ∈ points, start ≤ point → point < start + (encode item).length →
      patient item (point - start)) ∧
    CutsKept encode drops patient points (start + (encode item).length) rest

instance decidableCutsKept [DecidablePred drops] [∀ item, DecidablePred (patient item)]
    (points : List Nat) : (start : Nat) → (items : List Item) →
      Decidable (CutsKept encode drops patient points start items)
  | _, [] => isTrue trivial
  | start, item :: rest =>
    have : Decidable (CutsKept encode drops patient points (start + (encode item).length) rest) :=
      decidableCutsKept points _ rest
    inferInstanceAs (Decidable ((drops item → start + (encode item).length ∈ points) ∧
      (∀ point ∈ points, start ≤ point → point < start + (encode item).length →
        patient item (point - start)) ∧
      CutsKept encode drops patient points (start + (encode item).length) rest))

end LocalNetwork
