/-
# Checked arithmetic on machine words

The four operations on words of a width, each of which ends in a fault where the
exact result is not a word: the sum or the product is too large, the difference is
negative, the divisor is zero. A computation with these that ends well is one in
which nothing wraps, and it is the computation on numbers.
-/

import Mathlib.Data.BitVec

namespace AutomationBoard.Program

/-- What keeps an operation from having its exact result. -/
inductive ArithFault
  | overflow
  | divisionByZero
  deriving DecidableEq

variable {w : ℕ}

/-- `a + b` where the sum is a word. -/
def addChecked (a b : BitVec w) : Except ArithFault (BitVec w) :=
  if a.toNat + b.toNat < 2 ^ w then .ok (a + b) else .error .overflow

/-- `a - b` where the difference is not negative. -/
def subChecked (a b : BitVec w) : Except ArithFault (BitVec w) :=
  if b.toNat ≤ a.toNat then .ok (a - b) else .error .overflow

/-- `a * b` where the product is a word. -/
def mulChecked (a b : BitVec w) : Except ArithFault (BitVec w) :=
  if a.toNat * b.toNat < 2 ^ w then .ok (a * b) else .error .overflow

/-- `a / b` where the divisor is not zero. -/
def divChecked (a b : BitVec w) : Except ArithFault (BitVec w) :=
  if b.toNat ≠ 0 then .ok (a / b) else .error .divisionByZero

variable {a b : BitVec w}

theorem addChecked_eq_ok (h : a.toNat + b.toNat < 2 ^ w) : addChecked a b = .ok (a + b) := if_pos h

theorem subChecked_eq_ok (h : b.toNat ≤ a.toNat) : subChecked a b = .ok (a - b) := if_pos h

theorem mulChecked_eq_ok (h : a.toNat * b.toNat < 2 ^ w) : mulChecked a b = .ok (a * b) := if_pos h

theorem divChecked_eq_ok (h : b.toNat ≠ 0) : divChecked a b = .ok (a / b) := if_pos h

/-- A computation goes on after an operation that has ended well. -/
@[simp]
theorem arith_ok_bind {α β : Type} (x : α) (f : α → Except ArithFault β) : .ok x >>= f = f x := rfl

theorem toNat_add_of_fits (h : a.toNat + b.toNat < 2 ^ w) : (a + b).toNat = a.toNat + b.toNat := by
  rw [BitVec.toNat_add, Nat.mod_eq_of_lt h]

end AutomationBoard.Program
