/-
# Unbroken streaks

How long a property has held without a break at the end of a history, the newest
entry first, and the saturating counter with which a program keeps track of that.
-/

import Mathlib.Data.List.TakeWhile

namespace AutomationBoard.Program

universe u

variable {α : Type u} (p : α → Prop) [DecidablePred p]

/-- How many of the newest entries have the property in a row. -/
def streak (history : List α) : ℕ := (history.takeWhile p).length

@[simp]
theorem streak_nil : streak p [] = 0 := rfl

@[simp]
theorem streak_cons (a : α) (history : List α) :
    streak p (a :: history) = if p a then streak p history + 1 else 0 := by
  rw [streak, List.takeWhile_cons]
  by_cases h : p a
  · rw [decide_eq_true h, if_pos h, if_pos rfl]
    rfl
  · rw [decide_eq_false h, if_neg h, if_neg Bool.false_ne_true]
    rfl

/-- The streak reaches a length exactly if that many of the newest entries have the
property. -/
theorem le_streak_iff (n : ℕ) (history : List α) :
    n ≤ streak p history ↔ n ≤ history.length ∧ ∀ a ∈ history.take n, p a := by
  induction history generalizing n with
  | nil => simp
  | cons a history ih =>
      cases n with
      | zero => simp
      | succ n =>
          rw [streak_cons, List.take_succ_cons, List.forall_mem_cons, List.length_cons,
            Nat.succ_le_succ_iff]
          by_cases h : p a
          · rw [if_pos h, Nat.succ_le_succ_iff, ih]
            exact and_congr_right fun _ => (and_iff_right h).symm
          · rw [if_neg h]
            exact iff_of_false (Nat.not_succ_le_zero n) fun hall => h hall.2.1

/-- A counter that stops at a bound and starts again when the property fails. -/
def streakCounter (bound : ℕ) (holds : Prop) [Decidable holds] (count : ℕ) : ℕ :=
  if holds then if count < bound then count + 1 else count else 0

/-- The counter keeps the length of the streak, as far as the bound. -/
theorem streakCounter_streak (bound : ℕ) (a : α) (history : List α) :
    streakCounter bound (p a) (min bound (streak p history)) =
      min bound (streak p (a :: history)) := by
  rw [streakCounter, streak_cons]
  split_ifs with hp hlt
  · omega
  · omega
  · exact (Nat.min_zero bound).symm

end AutomationBoard.Program
