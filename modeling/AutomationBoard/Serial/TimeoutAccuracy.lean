/-
# How exact the silent intervals are

The time of a character is rounded up, its multiples are rounded down, and above a
threshold the intervals are fixed. None of this wraps, the intervals never grow with
the rate, and up to the threshold they are what the protocol asks for to within a
few microseconds.
-/

import AutomationBoard.Program.CheckedWords
import AutomationBoard.Serial.Timeouts
import Mathlib.Algebra.Order.Field.Basic
import Mathlib.Data.Rat.Cast.Order
import Mathlib.Tactic.Linarith
import Mathlib.Tactic.FieldSimp

namespace AutomationBoard.Serial

open AutomationBoard.Program

/-- `modbus_rtu_timeouts_us` with every operation checked. -/
def modbusRtuTimeoutsUsChecked (baudrate : Dword) : Except ArithFault (Dword × Dword) :=
  let baudrate := if baudrate = 0 then 9600 else baudrate
  if rtuBaudThreshold.toNat < baudrate.toNat then .ok (rtuT15FixedUs, rtuT35FixedUs)
  else do
    let bitTimesUs ← mulChecked rtuBitsPerChar 1000000
    let dividend ← subChecked (← addChecked bitTimesUs baudrate) 1
    let charTimeUs ← divChecked dividend baudrate
    let t15 ← divChecked (← mulChecked charTimeUs 3) 2
    let t35 ← divChecked (← mulChecked charTimeUs 7) 2
    pure (t15, t35)

/-- The exact time of a character of eleven bits, in microseconds. -/
def exactCharTime (rate : ℕ) : ℚ := 11000000 / rate

/-- An interval falls short of a number of characters by half a microsecond at most,
and exceeds it by less than as many microseconds. -/
structure Approximates (interval : ℕ) (chars : ℚ) (rate : ℕ) : Prop where
  short : chars * exactCharTime rate - 1 / 2 ≤ interval
  long : interval < chars * exactCharTime rate + chars

/-- What the silent intervals of a baud rate have to be. -/
structure TimeoutsSound (timeouts : Dword → Dword × Dword)
    (checked : Dword → Except ArithFault (Dword × Dword)) : Prop where
  exact : ∀ baudrate, checked baudrate = .ok (timeouts baudrate)
  default : timeouts 0 = timeouts 9600
  ordered : ∀ baudrate, (timeouts baudrate).1.toNat < (timeouts baudrate).2.toNat
  antitone : ∀ slow fast : Dword, 0 < slow.toNat → slow.toNat ≤ fast.toNat →
    (timeouts fast).1.toNat ≤ (timeouts slow).1.toNat ∧
      (timeouts fast).2.toNat ≤ (timeouts slow).2.toNat
  accurate : ∀ baudrate, usedBaudrate baudrate ≤ 19200 →
    Approximates (timeouts baudrate).1.toNat (3 / 2) (usedBaudrate baudrate) ∧
      Approximates (timeouts baudrate).2.toNat (7 / 2) (usedBaudrate baudrate)

/-! ## No operation wraps -/

/-- A multiple of a character time, which is at most eleven seconds, fits a word. -/
theorem mulChecked_charTime {time factor : Dword} (htime : time.toNat ≤ 11000000)
    (hfactor : factor.toNat ≤ 7) : mulChecked time factor = .ok (time * factor) := by
  apply mulChecked_eq_ok
  calc
    time.toNat * factor.toNat ≤ 11000000 * 7 := Nat.mul_le_mul htime hfactor
    _ < 2 ^ 32 := by decide

theorem modbusRtuTimeoutsUsChecked_eq (baudrate : Dword) :
    modbusRtuTimeoutsUsChecked baudrate = .ok (modbusRtuTimeoutsUs baudrate) := by
  have hpos := usedBaudrate_pos baudrate
  rw [← toNat_usedBaudrate] at hpos
  simp only [modbusRtuTimeoutsUsChecked, modbusRtuTimeoutsUs]
  generalize (if baudrate = 0 then 9600 else baudrate : Dword) = rate at hpos ⊢
  by_cases hfast : rtuBaudThreshold.toNat < rate.toNat
  · rw [if_pos hfast, if_pos hfast]
  · rw [if_neg hfast, if_neg hfast]
    have hlow : rate.toNat ≤ 19200 := Nat.not_lt.mp hfast
    have hbits : (rtuBitsPerChar * 1000000).toNat = 11000000 := rfl
    have hsum : (rtuBitsPerChar * 1000000).toNat + rate.toNat < 2 ^ 32 := by omega
    have hone : (1 : Dword).toNat ≤ (rtuBitsPerChar * 1000000 + rate).toNat := by
      rw [toNat_add_of_fits hsum, hbits]
      exact Nat.le_add_right_of_le (by decide)
    have hchar : ((rtuBitsPerChar * 1000000 + rate - 1) / rate).toNat ≤ 11000000 := by
      rw [toNat_charTimeUs hpos hlow]
      exact (charTime_bounds hpos hlow).2
    have htwo : (2 : Dword).toNat ≠ 0 := by decide
    simp only [mulChecked_eq_ok (a := rtuBitsPerChar) (b := 1000000) (by decide), arith_ok_bind,
      addChecked_eq_ok hsum, subChecked_eq_ok hone, divChecked_eq_ok (Nat.ne_of_gt hpos),
      mulChecked_charTime hchar (show (3 : Dword).toNat ≤ 7 by decide),
      mulChecked_charTime hchar (show (7 : Dword).toNat ≤ 7 by decide), divChecked_eq_ok htwo]
    rfl

/-! ## The character time -/

/-- Rounding up adds less than a microsecond. -/
theorem charTime_exact {rate : ℕ} (hpos : 0 < rate) :
    exactCharTime rate ≤ charTime rate ∧ (charTime rate : ℚ) < exactCharTime rate + 1 := by
  have hrate : (0 : ℚ) < rate := Nat.cast_pos.mpr hpos
  have hdiv := Nat.div_add_mod (11000000 + rate - 1) rate
  have hmod := Nat.mod_lt (11000000 + rate - 1) hpos
  rw [← charTime] at hdiv
  have hlow : 11000000 ≤ rate * charTime rate := by omega
  have hhigh : rate * charTime rate < 11000000 + rate := by omega
  have hlow' : (11000000 : ℚ) ≤ rate * charTime rate := by exact_mod_cast hlow
  have hhigh' : (rate : ℚ) * charTime rate < 11000000 + rate := by exact_mod_cast hhigh
  constructor
  · rw [exactCharTime, div_le_iff₀ hrate]
    linarith
  · rw [exactCharTime, ← sub_lt_iff_lt_add, lt_div_iff₀ hrate]
    linarith

/-- A faster character is not longer. -/
theorem charTime_antitone {slow fast : ℕ} (hpos : 0 < slow) (hle : slow ≤ fast) :
    charTime fast ≤ charTime slow := by
  unfold charTime
  rw [Nat.div_le_iff_le_mul_add_pred (by omega)]
  have hdiv := Nat.div_add_mod (11000000 + slow - 1) slow
  have hmod := Nat.mod_lt (11000000 + slow - 1) hpos
  have hscale : slow * ((11000000 + slow - 1) / slow) ≤ fast * ((11000000 + slow - 1) / slow) :=
    Nat.mul_le_mul_right _ hle
  omega

/-- A multiple of half a character, rounded down. -/
theorem approximates_halved {rate factor : ℕ} (hpos : 0 < rate) (hmultiple : 0 < factor) :
    Approximates (charTime rate * factor / 2) (factor / 2) rate := by
  obtain ⟨hlow, hhigh⟩ := charTime_exact hpos
  have hdiv := Nat.div_add_mod (charTime rate * factor) 2
  have hmod := Nat.mod_lt (charTime rate * factor) (by decide : 0 < 2)
  have hshort : charTime rate * factor ≤ 2 * (charTime rate * factor / 2) + 1 := by omega
  have hlong : 2 * (charTime rate * factor / 2) ≤ charTime rate * factor := by omega
  have hshort' : (charTime rate : ℚ) * factor ≤ 2 * (charTime rate * factor / 2 : ℕ) + 1 := by
    exact_mod_cast hshort
  have hlong' : (2 : ℚ) * (charTime rate * factor / 2 : ℕ) ≤ charTime rate * factor := by
    exact_mod_cast hlong
  have hfactor : (0 : ℚ) < factor := Nat.cast_pos.mpr hmultiple
  constructor
  · have hscaled := mul_le_mul_of_nonneg_right hlow hfactor.le
    linarith
  · have hscaled := mul_lt_mul_of_pos_right hhigh hfactor
    linarith

/-! ## The intervals -/

/-- No rate up to the threshold has intervals as short as the fixed ones. -/
theorem fixed_le_charTime {rate : ℕ} (hpos : 0 < rate) (hlow : rate ≤ 19200) :
    750 ≤ charTime rate * 3 / 2 ∧ 1750 ≤ charTime rate * 7 / 2 := by
  have hbounds := charTime_bounds hpos hlow
  omega

/-- The intervals do not grow with the rate, also across the threshold. -/
theorem modbusRtuTimeoutsUs_antitone {slow fast : Dword} (hpos : 0 < slow.toNat)
    (hle : slow.toNat ≤ fast.toNat) :
    (modbusRtuTimeoutsUs fast).1.toNat ≤ (modbusRtuTimeoutsUs slow).1.toNat ∧
      (modbusRtuTimeoutsUs fast).2.toNat ≤ (modbusRtuTimeoutsUs slow).2.toNat := by
  have hused : ∀ rate : Dword, 0 < rate.toNat → usedBaudrate rate = rate.toNat := by
    intro rate hrate
    refine if_neg ?_
    rintro rfl
    exact absurd hrate (by decide)
  obtain ⟨hslow15, hslow35⟩ := toNat_modbusRtuTimeoutsUs slow
  obtain ⟨hfast15, hfast35⟩ := toNat_modbusRtuTimeoutsUs fast
  rw [hslow15, hslow35, hfast15, hfast35, hused slow hpos, hused fast (by omega)]
  by_cases hslow : 19200 < slow.toNat
  · simp only [if_pos hslow, if_pos (Nat.lt_of_lt_of_le hslow hle), Nat.le_refl, and_self]
  · simp only [if_neg hslow]
    by_cases hfast : 19200 < fast.toNat
    · simp only [if_pos hfast]
      exact fixed_le_charTime hpos (Nat.not_lt.mp hslow)
    · simp only [if_neg hfast]
      have hchar := charTime_antitone hpos hle
      exact ⟨Nat.div_le_div_right (Nat.mul_le_mul_right 3 hchar),
        Nat.div_le_div_right (Nat.mul_le_mul_right 7 hchar)⟩

/-- For every baud rate nothing wraps and nothing is divided by zero, T1.5 is below
T3.5, neither grows with the rate, and up to 19200 baud both are 1.5 and 3.5
characters as nearly as whole microseconds allow. -/
theorem modbusRtuTimeoutsUs_sound :
    TimeoutsSound modbusRtuTimeoutsUs modbusRtuTimeoutsUsChecked where
  exact := modbusRtuTimeoutsUsChecked_eq
  default := rfl
  ordered baudrate := (modbusRtuTimeoutsUs_bounds baudrate).1
  antitone _ _ hpos hle := modbusRtuTimeoutsUs_antitone hpos hle
  accurate baudrate hlow := by
    have hpos := usedBaudrate_pos baudrate
    obtain ⟨ht15, ht35⟩ := toNat_modbusRtuTimeoutsUs baudrate
    rw [ht15, ht35, if_neg (Nat.not_lt.mpr hlow), if_neg (Nat.not_lt.mpr hlow)]
    exact ⟨approximates_halved hpos (by decide), approximates_halved hpos (by decide)⟩

end AutomationBoard.Serial
