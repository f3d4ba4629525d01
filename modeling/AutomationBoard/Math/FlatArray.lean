/-
# Flat arrays

An array of a fixed size as a function of its index, and what replacing one
element or a range of elements makes of it. A container that is written element
by element in a loop is described by its array once: if one write replaces one
element of the array, the loop replaces the range.
-/

import Mathlib.Data.List.Basic

namespace AutomationBoard.Math

universe u v

variable {α : Type u} {T : Type v} {size : ℕ}

/-- One element replaced; nothing outside the array. -/
def writeAt (f : Fin size → α) (a : ℕ) (value : α) : Fin size → α :=
  fun i => if i.val = a then value else f i

/-- `count` elements from `start` on replaced. -/
def writeRange (f : Fin size → α) (start count : ℕ) (value : ℕ → α) : Fin size → α :=
  fun i => if start ≤ i ∧ i < start + count then value (i - start) else f i

@[simp]
theorem writeRange_zero (f : Fin size → α) (start : ℕ) (value : ℕ → α) :
    writeRange f start 0 value = f := by
  funext i
  exact if_neg (by omega)

/-- A longer range is one more element. -/
theorem writeRange_succ (f : Fin size → α) (start count : ℕ) (value : ℕ → α) :
    writeRange f start (count + 1) value =
      writeAt (writeRange f start count value) (start + count) (value count) := by
  funext i
  simp only [writeRange, writeAt]
  by_cases hlast : i.val = start + count
  · rw [if_pos (by omega), if_pos hlast, show i.val - start = count by omega]
  · rw [if_neg hlast]
    by_cases hin : start ≤ i.val ∧ i.val < start + count
    · rw [if_pos (by omega), if_pos hin]
    · rw [if_neg (by omega), if_neg hin]

/-- A container written element by element in a loop. -/
theorem view_foldl_range {view : T → Fin size → α} {put : T → ℕ → α → T}
    (hput : ∀ t a value, view (put t a value) = writeAt (view t) a value) (t : T)
    (start count : ℕ) (value : ℕ → α) :
    view ((List.range count).foldl (fun t i => put t (start + i) (value i)) t) =
      writeRange (view t) start count value := by
  induction count with
  | zero => rw [List.range_zero, List.foldl_nil, writeRange_zero]
  | succ n ih =>
      rw [List.range_succ, List.foldl_append, List.foldl_cons, List.foldl_nil, hput, ih,
        writeRange_succ]

/-- The first cells replaced in a loop, each by what its own value makes of it. -/
theorem foldl_range_replace {replace : (ℕ → α) → ℕ → ℕ → α} (next : ℕ → α → α)
    (hreplace : ∀ f i j, replace f i j = if j = i then next i (f i) else f j) (f : ℕ → α)
    (n : ℕ) : (List.range n).foldl replace f = fun i => if i < n then next i (f i) else f i := by
  induction n with
  | zero => rfl
  | succ n ih =>
      rw [List.range_succ, List.foldl_append, ih, List.foldl_cons, List.foldl_nil]
      funext i
      rw [hreplace]
      rcases Nat.lt_trichotomy i n with hlt | rfl | hgt
      · rw [if_neg (Nat.ne_of_lt hlt), if_pos hlt, if_pos (Nat.lt_succ_of_lt hlt)]
      · rw [if_pos rfl, if_neg (Nat.lt_irrefl i), if_pos (Nat.lt_succ_self i)]
      · rw [if_neg (Nat.ne_of_gt hgt), if_neg (Nat.not_lt_of_gt hgt),
          if_neg (Nat.not_lt.mpr hgt)]

end AutomationBoard.Math
