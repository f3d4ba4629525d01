/-
# The silent intervals

What `modbus_rtu_timeouts_us` computes, as natural numbers. Nothing wraps: the
character time is at most eleven million microseconds, and the products with it
stay far below 2^32.
-/

import AutomationBoard.Serial.RtuFramer

namespace AutomationBoard.Serial

/-- The baud rate that is used; 0 stands for 9600. -/
def usedBaudrate (baudrate : Dword) : ℕ := if baudrate = 0 then 9600 else baudrate.toNat

/-- The time of a character at a rate, rounded up. -/
def charTime (rate : ℕ) : ℕ := (11000000 + rate - 1) / rate

theorem usedBaudrate_pos (baudrate : Dword) : 0 < usedBaudrate baudrate := by
  unfold usedBaudrate
  split_ifs with h
  · decide
  · exact Nat.pos_of_ne_zero fun h0 => h (BitVec.eq_of_toNat_eq h0)

/-- At 19200 baud a character takes 573 microseconds, at one baud eleven seconds. -/
theorem charTime_bounds {rate : ℕ} (hpos : 0 < rate) (hlow : rate ≤ 19200) :
    573 ≤ charTime rate ∧ charTime rate ≤ 11000000 := by
  unfold charTime
  constructor
  · rw [Nat.le_div_iff_mul_le hpos]
    omega
  · apply Nat.div_le_of_le_mul
    omega

/-- The rate in the register that the division is made with. -/
theorem toNat_usedBaudrate (baudrate : Dword) :
    (if baudrate = 0 then 9600 else baudrate : Dword).toNat = usedBaudrate baudrate := by
  unfold usedBaudrate
  split_ifs <;> rfl

/-- The dividend does not wrap for a rate up to the threshold. -/
theorem toNat_charTimeUs {rate : Dword} (hpos : 0 < rate.toNat) (hlow : rate.toNat ≤ 19200) :
    ((rtuBitsPerChar * 1000000 + rate - 1) / rate).toNat = charTime rate.toNat := by
  have hsum : (rtuBitsPerChar * 1000000 + rate).toNat = 11000000 + rate.toNat := by
    rw [BitVec.toNat_add]
    exact Nat.mod_eq_of_lt (show 11000000 + rate.toNat < 2 ^ 32 by omega)
  have hone : (1 : Dword).toNat = 1 := rfl
  rw [BitVec.toNat_udiv, charTime, BitVec.toNat_sub_of_le, hsum, hone]
  rw [BitVec.le_def, hsum, hone]
  omega

/-- A multiple of a character time, halved. -/
theorem toNat_mul_div_two {time : Dword} (factor : Dword)
    (hfits : time.toNat * factor.toNat < 2 ^ 32) :
    (time * factor / 2).toNat = time.toNat * factor.toNat / 2 := by
  rw [BitVec.toNat_udiv, BitVec.toNat_mul, Nat.mod_eq_of_lt hfits]
  rfl

/-- Above the threshold the intervals are fixed, up to it they are 1.5 and 3.5
characters. -/
theorem toNat_modbusRtuTimeoutsUs (baudrate : Dword) :
    (modbusRtuTimeoutsUs baudrate).1.toNat =
        (if 19200 < usedBaudrate baudrate then 750
        else charTime (usedBaudrate baudrate) * 3 / 2) ∧
      (modbusRtuTimeoutsUs baudrate).2.toNat =
        (if 19200 < usedBaudrate baudrate then 1750
        else charTime (usedBaudrate baudrate) * 7 / 2) := by
  have hpos := usedBaudrate_pos baudrate
  simp only [modbusRtuTimeoutsUs]
  rw [← toNat_usedBaudrate] at hpos ⊢
  generalize (if baudrate = 0 then 9600 else baudrate : Dword) = rate at hpos ⊢
  have hthreshold : rtuBaudThreshold.toNat = 19200 := rfl
  rw [hthreshold]
  split_ifs with hfast
  · exact ⟨rfl, rfl⟩
  · have hlow : rate.toNat ≤ 19200 := Nat.not_lt.mp hfast
    have hchar := toNat_charTimeUs hpos hlow
    have hbounds := charTime_bounds hpos hlow
    have hthree : (3 : Dword).toNat = 3 := rfl
    have hseven : (7 : Dword).toNat = 7 := rfl
    rw [toNat_mul_div_two 3 (by rw [hchar, hthree]; omega),
      toNat_mul_div_two 7 (by rw [hchar, hseven]; omega), hchar]
    exact ⟨rfl, rfl⟩

/-- T1.5 is shorter than T3.5, which is longer than a tick and far shorter than
the clock takes to wrap. -/
theorem modbusRtuTimeoutsUs_bounds (baudrate : Dword) :
    (modbusRtuTimeoutsUs baudrate).1.toNat < (modbusRtuTimeoutsUs baudrate).2.toNat ∧
      1750 ≤ (modbusRtuTimeoutsUs baudrate).2.toNat ∧
      (modbusRtuTimeoutsUs baudrate).2.toNat ≤ 38500000 := by
  obtain ⟨ht15, ht35⟩ := toNat_modbusRtuTimeoutsUs baudrate
  rw [ht15, ht35]
  split_ifs with hfast
  · decide
  · have hbounds := charTime_bounds (usedBaudrate_pos baudrate) (Nat.not_lt.mp hfast)
    omega

end AutomationBoard.Serial
