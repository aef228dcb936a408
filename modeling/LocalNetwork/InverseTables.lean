/-
This file is a library of two dictionaries that map in opposite directions, each meant to
undo the other, such as an address book that is searched by name and by number. The keys
of the first may include some that do not count, for instance a default; the tables are
then inverse on the keys that count.

Storing a pair in both tables keeps them inverse exactly when neither side had another
partner before, and removing a partner from both keeps them inverse.
-/

import LocalNetwork.Dict

namespace LocalNetwork

namespace Dict

variable {Key Value : Type} [DecidableEq Key] [DecidableEq Value] {counts : Key → Prop}
  {forward : Dict Key Value} {backward : Dict Value Key}

/-- On the keys that count, each of two dictionaries maps back what the other maps. -/
def InverseOn (counts : Key → Prop) (forward : Dict Key Value) (backward : Dict Value Key) : Prop :=
  ∀ key value, counts key → (forward.get? key = some value ↔ backward.get? value = some key)

theorem inverseOn_empty : InverseOn counts (empty : Dict Key Value) (empty : Dict Value Key) := by
  intro key value _
  simp

/-- A pair goes into both tables: neither side may have had another partner. -/
theorem InverseOn.insert_iff (inverse : InverseOn counts forward backward) {key : Key}
    {value : Value} (here : counts key) :
    InverseOn counts (forward.insert key value) (backward.insert value key) ↔
      (∀ other, forward.get? key = some other → other = value) ∧
        ∀ other, counts other → backward.get? value = some other → other = key := by
  constructor
  · intro after
    refine ⟨fun other stored => ?_, fun other counted stored => ?_⟩
    · by_contra different
      have kept : (backward.insert value key).get? other = some key :=
        (get?_insert_of_ne _ _ different).trans ((inverse key other here).mp stored)
      have moved := (after key other here).mpr kept
      rw [get?_insert_self] at moved
      exact different (Option.some.inj moved).symm
    · by_contra different
      have kept : (forward.insert key value).get? other = some value :=
        (get?_insert_of_ne _ _ different).trans ((inverse other value counted).mpr stored)
      have moved := (after other value counted).mp kept
      rw [get?_insert_self] at moved
      exact different (Option.some.inj moved).symm
  · rintro ⟨partner, keyOf⟩ other stored counted
    rw [get?_insert, get?_insert]
    by_cases sameKey : other = key
    · subst sameKey
      by_cases sameValue : stored = value
      · simp [sameValue]
      · rw [if_pos rfl, if_neg sameValue, ← inverse other stored counted]
        exact ⟨fun same => absurd (Option.some.inj same).symm sameValue,
          fun before => absurd (partner stored before) sameValue⟩
    · rw [if_neg sameKey, inverse other stored counted]
      by_cases sameValue : stored = value
      · subst sameValue
        rw [if_pos rfl]
        exact ⟨fun before => absurd (keyOf other counted before) sameKey,
          fun same => absurd (Option.some.inj same).symm sameKey⟩
      · rw [if_neg sameValue]

/-- A value gets a key that does not count, and only the table of keys is changed: the value may
not have had a key that counts. -/
theorem InverseOn.insert_backward_iff (inverse : InverseOn counts forward backward) {key : Key}
    {value : Value} (uncounted : ¬ counts key) :
    InverseOn counts forward (backward.insert value key) ↔
      ∀ other, counts other → backward.get? value ≠ some other := by
  constructor
  · intro after other counted stored
    have kept := (after other value counted).mp ((inverse other value counted).mpr stored)
    rw [get?_insert_self] at kept
    exact uncounted (Option.some.inj kept ▸ counted)
  · intro keyless other stored counted
    rw [inverse other stored counted, get?_insert]
    by_cases same : stored = value
    · subst same
      rw [if_pos rfl]
      exact ⟨fun before => absurd before (keyless other counted),
        fun same => absurd (Option.some.inj same ▸ counted) uncounted⟩
    · rw [if_neg same]

/-- A value is removed, and with it the key that it has; if it has none that counts, the key that
is removed does not count either. -/
theorem InverseOn.erase (inverse : InverseOn counts forward backward) {key : Key} {value : Value}
    (partner : ∀ other, counts other → (backward.get? value = some other ↔ other = key)) :
    InverseOn counts (forward.erase key) (backward.erase value) := by
  intro other stored counted
  rw [get?_erase, get?_erase]
  by_cases sameKey : other = key
  · subst sameKey
    have held := (inverse other value counted).mpr ((partner other counted).mpr rfl)
    rw [if_pos rfl]
    by_cases sameValue : stored = value
    · rw [if_pos sameValue]
      simp
    · rw [if_neg sameValue, ← inverse other stored counted, held]
      simp [Ne.symm sameValue]
  · rw [if_neg sameKey, inverse other stored counted]
    by_cases sameValue : stored = value
    · subst sameValue
      rw [if_pos rfl, partner other counted]
      simp [sameKey]
    · rw [if_neg sameValue]

end Dict

end LocalNetwork
