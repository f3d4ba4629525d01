/-
# Memory as named blocks

Every variable of a program is a block of cells of its own, and a pointer is a
block with an offset into it, so pointers into different variables never meet.
What a program reads after it has written is decided by whether the two ranges
have a cell in common.
-/

import Mathlib.Data.List.Basic

namespace AutomationBoard.Program

universe u v

variable {ν : Type u} {β : Type v}

/-- A place in memory. -/
@[ext]
structure Pointer (ν : Type u) where
  block : ν
  offset : ℕ
  deriving DecidableEq

namespace Pointer

/-- `p + n`. -/
def add (p : Pointer ν) (n : ℕ) : Pointer ν := ⟨p.block, p.offset + n⟩

@[simp]
theorem add_zero (p : Pointer ν) : p.add 0 = p := rfl

@[simp]
theorem add_add (p : Pointer ν) (m n : ℕ) : (p.add m).add n = p.add (m + n) := by
  simp only [add, Nat.add_assoc]

/-- The place is one of the `n` places from `p` on. -/
def Covers (p : Pointer ν) (n : ℕ) (q : Pointer ν) : Prop :=
  q.block = p.block ∧ p.offset ≤ q.offset ∧ q.offset < p.offset + n

instance [DecidableEq ν] (p : Pointer ν) (n : ℕ) (q : Pointer ν) : Decidable (p.Covers n q) :=
  inferInstanceAs (Decidable (_ ∧ _ ∧ _))

/-- The `m` places from `p` on and the `n` places from `q` on have none in common. -/
def Apart (p : Pointer ν) (m : ℕ) (q : Pointer ν) (n : ℕ) : Prop :=
  p.block ≠ q.block ∨ p.offset + m ≤ q.offset ∨ q.offset + n ≤ p.offset

instance [DecidableEq ν] (p : Pointer ν) (m : ℕ) (q : Pointer ν) (n : ℕ) :
    Decidable (p.Apart m q n) := inferInstanceAs (Decidable (_ ∨ _ ∨ _))

theorem Apart.symm {p q : Pointer ν} {m n : ℕ} (h : p.Apart m q n) : q.Apart n p m := by
  rcases h with hblock | hleft | hright
  · exact .inl (Ne.symm hblock)
  · exact .inr (.inr hleft)
  · exact .inr (.inl hright)

theorem Apart.not_covers {p q : Pointer ν} {m n i : ℕ} (h : p.Apart m q n) (hi : i < n) :
    ¬ p.Covers m (q.add i) := by
  rintro ⟨hblock, hlow, hhigh⟩
  simp only [add] at hblock hlow hhigh
  rcases h with hne | hleft | hright
  · exact hne hblock.symm
  · omega
  · omega

/-- Two ranges that are not apart have a place in common. -/
theorem exists_of_not_apart {p q : Pointer ν} {m n : ℕ} (hm : 0 < m) (hn : 0 < n)
    (h : ¬ p.Apart m q n) : ∃ i < m, ∃ j < n, p.add i = q.add j := by
  simp only [Apart, not_or, not_not, Nat.not_le] at h
  obtain ⟨hblock, hleft, hright⟩ := h
  refine ⟨q.offset - p.offset, by omega, p.offset - q.offset, by omega, ?_⟩
  ext
  · exact hblock
  · simp only [add]
    omega

end Pointer

/-- What every place holds. -/
@[ext]
structure Memory (ν : Type u) (β : Type v) where
  cell : Pointer ν → β

namespace Memory

/-- The `n` cells from `p` on. -/
def read (mem : Memory ν β) (p : Pointer ν) (n : ℕ) : List β :=
  (List.range n).map fun i => mem.cell (p.add i)

/-- The memory with the values in the cells from `p` on. -/
def write [DecidableEq ν] (mem : Memory ν β) (p : Pointer ν) (values : List β) : Memory ν β :=
  ⟨fun q =>
    if q.block = p.block ∧ p.offset ≤ q.offset then
      (values[q.offset - p.offset]?).getD (mem.cell q)
    else mem.cell q⟩

/-! ## Reading -/

@[simp]
theorem length_read (mem : Memory ν β) (p : Pointer ν) (n : ℕ) : (mem.read p n).length = n := by
  simp [read]

@[simp]
theorem read_zero (mem : Memory ν β) (p : Pointer ν) : mem.read p 0 = [] := rfl

theorem read_one (mem : Memory ν β) (p : Pointer ν) : mem.read p 1 = [mem.cell p] := rfl

theorem getElem?_read (mem : Memory ν β) (p : Pointer ν) {n i : ℕ} (hi : i < n) :
    (mem.read p n)[i]? = some (mem.cell (p.add i)) := by
  simp [read, hi]

/-- What is read depends on the cells read only. -/
theorem read_congr {mem mem' : Memory ν β} {p : Pointer ν} {n : ℕ}
    (h : ∀ i < n, mem.cell (p.add i) = mem'.cell (p.add i)) : mem.read p n = mem'.read p n := by
  apply List.map_congr_left
  intro i hi
  exact h i (List.mem_range.mp hi)

/-- A range is read in two parts. -/
theorem read_add (mem : Memory ν β) (p : Pointer ν) (m n : ℕ) :
    mem.read p (m + n) = mem.read p m ++ mem.read (p.add m) n := by
  simp only [read, List.range_add, List.map_append, List.map_map, Pointer.add_add]
  rfl

theorem take_read (mem : Memory ν β) (p : Pointer ν) {m n : ℕ} (h : m ≤ n) :
    (mem.read p n).take m = mem.read p m := by
  obtain ⟨k, rfl⟩ := Nat.exists_eq_add_of_le h
  rw [read_add, List.take_left' (length_read mem p m)]

theorem drop_read (mem : Memory ν β) (p : Pointer ν) {m n : ℕ} (h : m ≤ n) :
    (mem.read p n).drop m = mem.read (p.add m) (n - m) := by
  obtain ⟨k, rfl⟩ := Nat.exists_eq_add_of_le h
  rw [read_add, List.drop_left' (length_read mem p m), Nat.add_sub_cancel_left]

/-! ## Reading after writing -/

section Write

variable [DecidableEq ν]

theorem cell_write_of_not_covers {mem : Memory ν β} {p q : Pointer ν} {values : List β}
    (h : ¬ p.Covers values.length q) : (mem.write p values).cell q = mem.cell q := by
  simp only [write]
  split
  · rename_i hcond
    have hout : values.length ≤ q.offset - p.offset := by
      by_contra hin
      exact h ⟨hcond.1, hcond.2, by omega⟩
    rw [List.getElem?_eq_none hout, Option.getD_none]
  · rfl

theorem cell_write_add (mem : Memory ν β) (p : Pointer ν) {values : List β} {i : ℕ}
    (h : i < values.length) : (mem.write p values).cell (p.add i) = values[i] := by
  simp only [write, Pointer.add]
  rw [if_pos ⟨trivial, Nat.le_add_right _ _⟩, Nat.add_sub_cancel_left,
    List.getElem?_eq_getElem h, Option.getD_some]

/-- What a cell holds after a write was written there, or it was there before. -/
theorem mem_or_of_cell_write {mem : Memory ν β} {p q : Pointer ν} {values : List β} {b : β}
    (h : (mem.write p values).cell q = b) :
    (∃ i, ∃ hi : i < values.length, q = p.add i ∧ values[i] = b) ∨ mem.cell q = b := by
  by_cases hcovers : p.Covers values.length q
  · obtain ⟨hblock, hlow, hhigh⟩ := hcovers
    have hi : q.offset - p.offset < values.length := by omega
    have hq : q = p.add (q.offset - p.offset) := by
      ext
      · exact hblock
      · simp only [Pointer.add]
        omega
    refine .inl ⟨_, hi, hq, ?_⟩
    rw [← cell_write_add mem p hi, ← hq, h]
  · exact .inr (by rwa [cell_write_of_not_covers hcovers] at h)

/-- A value that was not written was there before. -/
theorem cell_eq_of_not_mem {mem : Memory ν β} {p q : Pointer ν} {values : List β} {b : β}
    (hvalues : b ∉ values) (h : (mem.write p values).cell q = b) : mem.cell q = b := by
  rcases mem_or_of_cell_write h with ⟨i, hi, -, rfl⟩ | hcell
  · exact absurd (List.getElem_mem hi) hvalues
  · exact hcell

/-- A value that is written once and was not there is where it was written. -/
theorem eq_of_cell_write {mem : Memory ν β} {p q : Pointer ν} {values : List β} {b : β}
    (hvalues : b ∉ values) (hmem : mem.cell q ≠ b) (h : (mem.write p (b :: values)).cell q = b) :
    q = p := by
  rcases mem_or_of_cell_write h with ⟨i, hi, hq, hvalue⟩ | hcell
  · cases i with
    | zero => exact hq
    | succ i =>
        rw [List.getElem_cons_succ] at hvalue
        exact absurd (hvalue ▸ List.getElem_mem _) hvalues
  · exact absurd hcell hmem

@[simp]
theorem write_nil (mem : Memory ν β) (p : Pointer ν) : mem.write p [] = mem := by
  ext q
  apply cell_write_of_not_covers
  rintro ⟨-, hlow, hhigh⟩
  exact absurd hhigh (by simpa using hlow)

/-- What was written is read back. -/
@[simp]
theorem read_write_self (mem : Memory ν β) (p : Pointer ν) (values : List β) :
    (mem.write p values).read p values.length = values := by
  apply List.ext_getElem
  · simp
  · intro i hread hi
    simp only [read, List.getElem_map, List.getElem_range, cell_write_add mem p hi]

theorem read_write_of_length (mem : Memory ν β) (p : Pointer ν) {values : List β} {n : ℕ}
    (h : values.length = n) : (mem.write p values).read p n = values := by
  rw [← h, read_write_self]

/-- A range apart from the one written reads as before. -/
theorem read_write_of_apart {mem : Memory ν β} {p q : Pointer ν} {values : List β} {n : ℕ}
    (h : p.Apart values.length q n) : (mem.write p values).read q n = mem.read q n :=
  read_congr fun _ hi => cell_write_of_not_covers (h.not_covers hi)

/-- A range in another block reads as before. -/
theorem read_write_of_block_ne {mem : Memory ν β} {p q : Pointer ν} {values : List β} {n : ℕ}
    (h : p.block ≠ q.block) : (mem.write p values).read q n = mem.read q n :=
  read_write_of_apart (.inl h)

end Write

end Memory

end AutomationBoard.Program
