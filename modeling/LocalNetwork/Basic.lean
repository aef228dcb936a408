/-
This file is a library of base types: clock readings, network addresses and byte
strings, with slices and unsigned integers written in a fixed number of bytes, the most
significant byte first. Reading back a written number gives it modulo the width.
-/

import Mathlib.Data.List.Basic
import Mathlib.Data.List.Induction
import Mathlib.Tactic.Ring

namespace LocalNetwork

/-- Clock readings and durations, in ticks of one fixed unit. The source reads them as floating
point numbers; here the difference of two readings is exact. -/
abbrev Time := Int

/-- A host and a port. -/
abbrev Addr := String × Nat

abbrev Bytes := List UInt8

/-- The half-open slice from `start` to `stop`, cut off at the end of the string. -/
def slice {Element : Type} (data : List Element) (start stop : Nat) : List Element :=
  (data.drop start).take (stop - start)

/-- The last `width` bytes of a number, most significant first. -/
def toBigEndian : Nat → Nat → Bytes
  | 0, _ => []
  | width + 1, value => toBigEndian width (value / 256) ++ [UInt8.ofNat value]

/-- The number a byte string denotes, most significant byte first. -/
def ofBigEndian (data : Bytes) : Nat :=
  data.foldl (fun value byte => value * 256 + byte.toNat) 0

/-! ### Slices -/

/-- The slice that starts where the first part ends and is as long as the middle part. -/
theorem slice_append_middle {Element : Type} (first middle last : List Element)
    (start stop : Nat) (startsAfter : start = first.length)
    (stopsAt : stop = first.length + middle.length) :
    slice (first ++ middle ++ last) start stop = middle := by
  subst startsAfter stopsAt
  rw [slice, List.append_assoc, List.drop_left, Nat.add_sub_cancel_left, List.take_left]

/-- A slice that ends within the front part does not see the rest. -/
theorem slice_append_left {Element : Type} (front rest : List Element) (start stop : Nat)
    (inside : stop ≤ front.length) : slice (front ++ rest) start stop = slice front start stop := by
  have nothingLeft : stop - start - (front.drop start).length = 0 := by
    rw [List.length_drop]
    omega
  rw [slice, slice, List.drop_append, List.take_append, nothingLeft, List.take_zero,
    List.append_nil]

theorem slice_length {Element : Type} (data : List Element) (start stop : Nat)
    (inside : stop ≤ data.length) : (slice data start stop).length = stop - start := by
  rw [slice, List.length_take, List.length_drop]
  omega

/-- Two slices that meet are one slice. -/
theorem slice_append_slice {Element : Type} (data : List Element) (start middle stop : Nat)
    (ordered : start ≤ middle) (within : middle ≤ stop) :
    slice data start middle ++ slice data middle stop = slice data start stop := by
  have whole : stop - start = (middle - start) + (stop - middle) := by omega
  have shifted : data.drop middle = (data.drop start).drop (middle - start) := by
    rw [List.drop_drop]
    congr 1
    omega
  rw [slice, slice, slice, whole, shifted, List.take_add]

theorem slice_all {Element : Type} (data : List Element) (stop : Nat)
    (everything : data.length ≤ stop) : slice data 0 stop = data := by
  rw [slice, List.drop_zero, Nat.sub_zero, List.take_of_length_le everything]

/-! ### Numbers -/

@[simp]
theorem toBigEndian_length (width value : Nat) : (toBigEndian width value).length = width := by
  induction width generalizing value with
  | zero => rfl
  | succ width inductionHypothesis =>
    rw [toBigEndian, List.length_append, inductionHypothesis, List.length_singleton]

theorem ofBigEndian_append_singleton (data : Bytes) (byte : UInt8) :
    ofBigEndian (data ++ [byte]) = ofBigEndian data * 256 + byte.toNat := by
  rw [ofBigEndian, List.foldl_append]
  rfl

/-- A byte string denotes a number that its length has room for. -/
theorem ofBigEndian_lt (data : Bytes) : ofBigEndian data < 256 ^ data.length := by
  induction data using List.reverseRecOn with
  | nil => decide
  | append_singleton front byte inductionHypothesis =>
    have small : byte.toNat < 256 := byte.toNat_lt
    rw [ofBigEndian_append_singleton, List.length_append, List.length_singleton, pow_succ]
    omega

/-- Writing back the number that a byte string denotes gives the byte string. -/
theorem toBigEndian_ofBigEndian (data : Bytes) :
    toBigEndian data.length (ofBigEndian data) = data := by
  induction data using List.reverseRecOn with
  | nil => rfl
  | append_singleton front byte inductionHypothesis =>
    have small : byte.toNat < 256 := byte.toNat_lt
    have upper : (ofBigEndian front * 256 + byte.toNat) / 256 = ofBigEndian front := by omega
    have lower : UInt8.ofNat (ofBigEndian front * 256 + byte.toNat) = byte := by
      apply UInt8.toNat_inj.mp
      rw [UInt8.toNat_ofNat']
      omega
    rw [ofBigEndian_append_singleton, List.length_append, List.length_singleton, toBigEndian,
      upper, lower, inductionHypothesis]

/-- Reading back a written number gives it modulo the width. -/
theorem ofBigEndian_toBigEndian (width value : Nat) :
    ofBigEndian (toBigEndian width value) = value % 256 ^ width := by
  induction width generalizing value with
  | zero => rw [pow_zero, Nat.mod_one]; rfl
  | succ width inductionHypothesis =>
    have byte : (UInt8.ofNat value).toNat = value % 256 := UInt8.toNat_ofNat'
    rw [toBigEndian, ofBigEndian_append_singleton, inductionHypothesis, byte,
      pow_succ, Nat.mul_comm (256 ^ width) 256, Nat.mod_mul]
    ring

theorem ofBigEndian_toBigEndian_of_lt (width value : Nat) (small : value < 256 ^ width) :
    ofBigEndian (toBigEndian width value) = value := by
  rw [ofBigEndian_toBigEndian, Nat.mod_eq_of_lt small]

end LocalNetwork
