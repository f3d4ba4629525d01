/-
# Packing bits into bytes

A finite sequence of bits is packed eight to a byte, the first bit in the least
significant place, and the unused places of the last byte are clear. Packing is
described by the bit each place receives, so that reading a place back and
packing are inverse without reference to a loop. A loop that gathers one byte by
shifting and joining is related to the packed byte by its step.
-/

import Mathlib.Data.BitVec

namespace AutomationBoard.Math

/-! ## One byte -/

/-- The byte with the given bits. -/
def packByte (f : ℕ → Bool) : BitVec 8 :=
  BitVec.ofBoolListLE [f 0, f 1, f 2, f 3, f 4, f 5, f 6, f 7]

theorem getLsbD_packByte (f : ℕ → Bool) (i : ℕ) :
    (packByte f).getLsbD i = (decide (i < 8) && f i) := by
  rw [packByte, BitVec.getLsbD_ofBoolListLE]
  match i with
  | 0 | 1 | 2 | 3 | 4 | 5 | 6 | 7 => rfl
  | i + 8 => simp

theorem packByte_congr {f g : ℕ → Bool} (h : ∀ i < 8, f i = g i) : packByte f = packByte g := by
  apply BitVec.eq_of_getLsbD_eq
  intro i hi
  rw [getLsbD_packByte, getLsbD_packByte, h i hi]

/-- No bit is gathered at the start. -/
theorem packByte_below_zero (f : ℕ → Bool) : packByte (fun i => decide (i < 0) && f i) = 0#8 := by
  apply BitVec.eq_of_getLsbD_eq
  intro i _
  simp [getLsbD_packByte]

/-- Joining the next bit in its place. -/
theorem packByte_below_succ (f : ℕ → Bool) (n : ℕ) :
    packByte (fun i => decide (i < n + 1) && f i) =
      packByte (fun i => decide (i < n) && f i) ||| (BitVec.ofBool (f n)).setWidth 8 <<< n := by
  apply BitVec.eq_of_getLsbD_eq
  intro i hi
  rw [BitVec.getLsbD_or, getLsbD_packByte, getLsbD_packByte, BitVec.getLsbD_shiftLeft,
    BitVec.getLsbD_setWidth, BitVec.getLsbD_ofBool]
  rcases Nat.lt_trichotomy i n with hlt | rfl | hgt
  · simp [hi, hlt, Nat.lt_succ_of_lt hlt]
  · simp [hi]
  · have hpast : ¬ i < n + 1 := by omega
    have hplace : ¬ i - n = 0 := by omega
    simp [hpast, hplace]
    omega

/-! ## A sequence of bits -/

/-- The first `n` values of `f`, packed. -/
def packBits (f : ℕ → Bool) (n : ℕ) : List (BitVec 8) :=
  (List.range ((n + 7) / 8)).map fun i => packByte fun b => decide (i * 8 + b < n) && f (i * 8 + b)

/-- The bit of a packed sequence, clear after its last byte. -/
def bitOf (data : List (BitVec 8)) (i : ℕ) : Bool := (data.getD (i / 8) 0#8).getLsbD (i % 8)

theorem bitOf_of_length_le {data : List (BitVec 8)} {i : ℕ} (h : data.length * 8 ≤ i) :
    bitOf data i = false := by
  have hpast : data.length ≤ i / 8 := by omega
  simp [bitOf, List.getD_eq_getElem?_getD, hpast]

@[simp]
theorem length_packBits (f : ℕ → Bool) (n : ℕ) : (packBits f n).length = (n + 7) / 8 := by
  simp [packBits]

theorem packBits_congr {f g : ℕ → Bool} {n : ℕ} (h : ∀ i < n, f i = g i) :
    packBits f n = packBits g n := by
  refine List.map_congr_left fun i _ => packByte_congr fun b _ => ?_
  by_cases hlt : i * 8 + b < n
  · rw [h _ hlt]
  · rw [decide_eq_false hlt, Bool.false_and, Bool.false_and]

/-- A byte is packed from its bits. -/
theorem packByte_getLsbD (b : BitVec 8) : packByte b.getLsbD = b := by
  apply BitVec.eq_of_getLsbD_eq
  intro i hi
  rw [getLsbD_packByte, decide_eq_true hi, Bool.true_and]

/-- Every place holds its bit, and the places after the last are clear. -/
theorem bitOf_packBits (f : ℕ → Bool) (n i : ℕ) :
    bitOf (packBits f n) i = (decide (i < n) && f i) := by
  have hplace : i / 8 * 8 + i % 8 = i := by omega
  have hmod : i % 8 < 8 := Nat.mod_lt _ (by decide)
  by_cases hbyte : i / 8 < (n + 7) / 8
  · simp only [bitOf, packBits, List.getD_eq_getElem?_getD, List.getElem?_map,
      List.getElem?_range hbyte, Option.map_some, Option.getD_some, getLsbD_packByte, hplace,
      hmod, decide_true, Bool.true_and]
  · have hpast : ¬ i < n := by omega
    simp [bitOf, packBits, List.getD_eq_getElem?_getD, hbyte, hpast]

end AutomationBoard.Math
