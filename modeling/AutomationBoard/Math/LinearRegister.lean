/-
# Registers with a linear update

A check value such as a cyclic redundancy check runs a register over a message,
one symbol at a time. When the update is linear over exclusive or, superposing
an error pattern on a message superposes the run of the pattern from the zero
register on the run of the message, so whether the error shows depends on the
pattern alone. Two updates can be told apart by their registers at the prefixes
of a message: they agree on all of them exactly when they agree at every step.

The second half is the feedback shift register, whose step is linear, and the
table form of several of its steps taken at once.
-/

import Mathlib.Data.BitVec
import Mathlib.Logic.Function.Iterate

namespace AutomationBoard.Math

variable {w k : ℕ}

/-- An update of a `w`-bit register by a `k`-bit symbol that respects
exclusive or in both arguments. -/
def XorLinear (update : BitVec w → BitVec k → BitVec w) : Prop :=
  ∀ c d a b, update (c ^^^ d) (a ^^^ b) = update c a ^^^ update d b

/-- The register after a message. -/
def digest (update : BitVec w → BitVec k → BitVec w) (c : BitVec w) (msg : List (BitVec k)) :
    BitVec w :=
  msg.foldl update c

/-- Two messages of one length superposed. -/
def superpose (msg pattern : List (BitVec k)) : List (BitVec k) :=
  List.zipWith (· ^^^ ·) msg pattern

@[simp]
theorem length_superpose (msg pattern : List (BitVec k)) :
    (superpose msg pattern).length = min msg.length pattern.length :=
  List.length_zipWith

@[simp]
theorem digest_nil (update : BitVec w → BitVec k → BitVec w) (c : BitVec w) :
    digest update c [] = c := rfl

@[simp]
theorem digest_cons (update : BitVec w → BitVec k → BitVec w) (c : BitVec w) (b : BitVec k)
    (msg : List (BitVec k)) :
    digest update c (b :: msg) = digest update (update c b) msg := rfl

section Linear

variable {update : BitVec w → BitVec k → BitVec w}

/-- Superposed messages leave superposed registers. -/
theorem digest_superpose (linear : XorLinear update) {msg pattern : List (BitVec k)}
    (hlen : msg.length = pattern.length) (c d : BitVec w) :
    digest update (c ^^^ d) (superpose msg pattern) =
      digest update c msg ^^^ digest update d pattern := by
  induction msg generalizing pattern c d with
  | nil =>
      cases pattern with
      | nil => rfl
      | cons e pattern => simp at hlen
  | cons b msg ih =>
      cases pattern with
      | nil => simp at hlen
      | cons e pattern =>
          have hlen' : msg.length = pattern.length := by simpa using hlen
          show digest update (update (c ^^^ d) (b ^^^ e)) (superpose msg pattern) = _
          rw [linear, ih hlen']
          rfl

/-- An error pattern moves the register by its own run from zero. -/
theorem digest_superpose_error (linear : XorLinear update) {msg pattern : List (BitVec k)}
    (hlen : msg.length = pattern.length) (c : BitVec w) :
    digest update c (superpose msg pattern) =
      digest update c msg ^^^ digest update 0 pattern := by
  simpa using digest_superpose linear hlen c 0

end Linear

/-! ## Two updates compared -/

/-- The update takes each step of the reference's run as the reference does. -/
def AgreeAlong (reference update : BitVec w → BitVec k → BitVec w) :
    BitVec w → List (BitVec k) → Prop
  | _, [] => True
  | c, b :: msg =>
      update c b = reference c b ∧ AgreeAlong reference update (reference c b) msg

section Compared

variable {reference update : BitVec w → BitVec k → BitVec w}

/-- Updates that agree along a message leave the same register. -/
theorem AgreeAlong.digest_eq {c : BitVec w} {msg : List (BitVec k)}
    (h : AgreeAlong reference update c msg) : digest update c msg = digest reference c msg := by
  induction msg generalizing c with
  | nil => rfl
  | cons b msg ih =>
      obtain ⟨hstep, hrest⟩ := h
      rw [digest_cons, digest_cons, hstep]
      exact ih hrest

/-- Updates that leave the same register at every prefix agree along the message. -/
theorem agreeAlong_of_prefixes {c : BitVec w} {msg : List (BitVec k)}
    (h : ∀ pre, pre <+: msg → digest update c pre = digest reference c pre) :
    AgreeAlong reference update c msg := by
  induction msg generalizing c with
  | nil => trivial
  | cons b msg ih =>
      have hstep : update c b = reference c b := by
        simpa using h [b] (by simp)
      refine ⟨hstep, ih fun pre hpre => ?_⟩
      have hlonger := h (b :: pre) (by simpa using hpre)
      rwa [digest_cons, digest_cons, hstep] at hlonger

end Compared

/-! ## The feedback shift register -/

/-- Shift right once, adding the feedback polynomial when a one falls out. -/
def shiftStep (poly c : BitVec w) : BitVec w :=
  if c.getLsbD 0 then (c >>> 1) ^^^ poly else c >>> 1

theorem shiftStep_xor (poly c d : BitVec w) :
    shiftStep poly (c ^^^ d) = shiftStep poly c ^^^ shiftStep poly d := by
  have hcancel : ∀ a b : BitVec w, a ^^^ b = a ^^^ poly ^^^ (b ^^^ poly) := by
    intro a b
    rw [BitVec.xor_assoc, BitVec.xor_comm b poly, ← BitVec.xor_assoc poly poly b,
      BitVec.xor_self, BitVec.zero_xor]
  unfold shiftStep
  rw [BitVec.getLsbD_xor, BitVec.ushiftRight_xor_distrib]
  cases c.getLsbD 0 <;> cases d.getLsbD 0
  · rfl
  · exact BitVec.xor_assoc _ _ _
  · simp only [Bool.xor_false, if_true, Bool.false_eq_true, if_false]
    ac_rfl
  · exact hcancel _ _

theorem iterate_shiftStep_xor (poly : BitVec w) (n : ℕ) (c d : BitVec w) :
    (shiftStep poly)^[n] (c ^^^ d) = (shiftStep poly)^[n] c ^^^ (shiftStep poly)^[n] d := by
  induction n generalizing c d with
  | zero => rfl
  | succ n ih => rw [Function.iterate_succ_apply, shiftStep_xor, ih]; rfl

/-- A register whose low `n` bits are clear only moves down in `n` steps. -/
theorem iterate_shiftStep_of_low_clear (poly : BitVec w) {n : ℕ} {c : BitVec w}
    (hclear : ∀ i < n, c.getLsbD i = false) : (shiftStep poly)^[n] c = c >>> n := by
  induction n with
  | zero => simp
  | succ n ih =>
      rw [Function.iterate_succ_apply', ih fun i hi => hclear i (by omega)]
      have hlow : (c >>> n).getLsbD 0 = false := by simpa using hclear n (by omega)
      rw [shiftStep, hlow, BitVec.shiftRight_add]
      rfl

/-- The low `n` bits of a register, in place. -/
def lowPart (n : ℕ) (c : BitVec w) : BitVec w := (c.setWidth n).setWidth w

theorem getLsbD_lowPart (n : ℕ) (c : BitVec w) (i : ℕ) :
    (lowPart n c).getLsbD i = (decide (i < n) && c.getLsbD i) := by
  by_cases hw : i < w
  · simp [lowPart, BitVec.getLsbD_setWidth, hw]
  · have : c.getLsbD i = false := BitVec.getLsbD_of_ge c i (by omega)
    simp [lowPart, BitVec.getLsbD_setWidth, hw, this]

/-- The table form of `n` steps at once: what the low `n` bits become is looked
up, and the rest of the register moves down. -/
theorem iterate_shiftStep_eq_table (poly : BitVec w) (n : ℕ) (c : BitVec w) :
    (shiftStep poly)^[n] c = (c >>> n) ^^^ (shiftStep poly)^[n] (lowPart n c) := by
  have hsplit : c = (c ^^^ lowPart n c) ^^^ lowPart n c := by
    rw [BitVec.xor_assoc, BitVec.xor_self, BitVec.xor_zero]
  have hclear : ∀ i < n, (c ^^^ lowPart n c).getLsbD i = false := by
    intro i hi
    rw [BitVec.getLsbD_xor, getLsbD_lowPart]
    simp [hi]
  have hhigh : (c ^^^ lowPart n c) >>> n = c >>> n := by
    rw [BitVec.ushiftRight_xor_distrib]
    have hzero : lowPart n c >>> n = 0#w := by
      apply BitVec.eq_of_getLsbD_eq
      intro i _
      rw [BitVec.getLsbD_ushiftRight, getLsbD_lowPart]
      simp
    rw [hzero, BitVec.xor_zero]
  calc
    (shiftStep poly)^[n] c =
        (shiftStep poly)^[n] ((c ^^^ lowPart n c) ^^^ lowPart n c) := by rw [← hsplit]
    _ = (shiftStep poly)^[n] (c ^^^ lowPart n c) ^^^ (shiftStep poly)^[n] (lowPart n c) :=
        iterate_shiftStep_xor poly n _ _
    _ = (c >>> n) ^^^ (shiftStep poly)^[n] (lowPart n c) := by
        rw [iterate_shiftStep_of_low_clear poly hclear, hhigh]

end AutomationBoard.Math
