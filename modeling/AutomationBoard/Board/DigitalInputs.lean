/-
# The digital inputs

`digital_io.c`: a scan samples the port and counts, for each input, how long its pin
has been low; an input is reported once the counter is full and its pin is still low.
So an input is reported exactly if its pin was low in the last six samples.
-/

import AutomationBoard.Modbus.Store
import AutomationBoard.Program.Streak

namespace AutomationBoard.Board

open AutomationBoard.Modbus (Byte Word diCount getLsbD_one_shiftLeft getLsbD_setBit)
open AutomationBoard.Program

/-- `GPIO_PIN_0` to `GPIO_PIN_15`. -/
def gpioPin (n : ℕ) : Word := 1#16 <<< n

/-- `di_pins`. -/
def diPins (i : ℕ) : Word := gpioPin i

/-- `di_debounce` and `digital_input_states`. -/
structure DigitalInputs where
  diDebounce : ℕ → Byte
  digitalInputStates : Byte

/-- The variables at boot. -/
def DigitalInputs.boot : DigitalInputs := ⟨fun _ => 0, 0⟩

/-- The body of the loop in `digital_inputs_scan`, on `di_debounce` and `raw`. -/
def scanInput (port : BitVec 32) (s : (ℕ → Byte) × Byte) (i : ℕ) : (ℕ → Byte) × Byte :=
  if port &&& (diPins i).setWidth 32 = 0 then
    if (s.1 i).toNat < 5 then (Function.update s.1 i (s.1 i + 1), s.2)
    else (s.1, s.2 ||| 1#8 <<< i)
  else (Function.update s.1 i 0, s.2)

/-- `digital_inputs_scan`, with what it reads from the input data register. -/
def digitalInputsScan (port : BitVec 32) (di : DigitalInputs) : DigitalInputs :=
  let r := (List.range diCount).foldl (scanInput port) (di.diDebounce, 0)
  ⟨r.1, r.2⟩

/-- `digital_inputs_read_all`. -/
def digitalInputsReadAll (di : DigitalInputs) : Byte := di.digitalInputStates

/-- `digital_input_read`. -/
def digitalInputRead (channel : Byte) (di : DigitalInputs) : Byte :=
  if channel.toNat ≥ diCount then 0
  else (di.digitalInputStates >>> channel.toNat) &&& 0x01

/-- A bit of a byte, shifted down. -/
theorem shiftRight_and_one (b : Byte) (i : ℕ) :
    (b >>> i) &&& 0x01 = (BitVec.ofBool (b.getLsbD i)).setWidth 8 := by
  have hbit := BitVec.and_one_eq_setWidth_ofBool_getLsbD (x := b >>> i)
  rw [BitVec.getLsbD_ushiftRight, Nat.add_zero] at hbit
  exact hbit

/-- A bit of a byte, shifted down, is one exactly if it is set. -/
theorem shiftRight_and_one_eq_one_iff (b : Byte) (i : ℕ) :
    (b >>> i) &&& 0x01 = 1 ↔ b.getLsbD i = true := by
  rw [shiftRight_and_one]
  cases b.getLsbD i with
  | false => decide
  | true => decide

/-! ## One scan -/

/-- The pin of an input is low, which stands for an active input. -/
def PinLow (i : ℕ) (port : BitVec 32) : Prop := port.getLsbD i = false

instance (i : ℕ) : DecidablePred (PinLow i) := fun port =>
  inferInstanceAs (Decidable (port.getLsbD i = false))

/-- The mask of a pin selects its bit. -/
theorem and_diPins_eq_zero_iff (port : BitVec 32) {i : ℕ} (hi : i < diCount) :
    port &&& (diPins i).setWidth 32 = 0 ↔ PinLow i port := by
  have hwidth : i < 16 := hi.trans (by decide)
  have hpin : ∀ j, ((diPins i).setWidth 32).getLsbD j = decide (j = i) := by
    intro j
    rw [diPins, gpioPin, BitVec.getLsbD_setWidth, BitVec.getLsbD_shiftLeft, BitVec.getLsbD_one]
    by_cases hj : j = i
    · subst hj
      simp [hwidth, hwidth.trans (show 16 < 32 by decide)]
    · simp [hj]
      omega
  constructor
  · intro hzero
    have hbit := congrArg (·.getLsbD i) hzero
    simpa [hpin, PinLow] using hbit
  · intro hlow
    apply BitVec.eq_of_getLsbD_eq
    intro j hj
    rw [BitVec.getLsbD_and, hpin]
    by_cases hji : j = i
    · have hbit : port.getLsbD j = false := hji ▸ hlow
      rw [hbit, Bool.false_and]
      exact BitVec.getLsbD_zero.symm
    · simp [hji]

section Scan

variable (port : BitVec 32)

/-- A pass of the loop changes the counter of its own input only. -/
theorem debounce_scanInput (s : (ℕ → Byte) × Byte) {i : ℕ} (hi : i < diCount) (j : ℕ) :
    ((scanInput port s i).1 j).toNat =
      if j = i then streakCounter 5 (PinLow i port) (s.1 i).toNat else (s.1 j).toNat := by
  have hpin := and_diPins_eq_zero_iff port hi
  rw [scanInput, streakCounter]
  by_cases hlow : PinLow i port
  · rw [if_pos (hpin.mpr hlow), if_pos hlow]
    by_cases hcount : (s.1 i).toNat < 5
    · have hnext : (s.1 i + 1).toNat = (s.1 i).toNat + 1 :=
        BitVec.toNat_add_of_lt (show (s.1 i).toNat + 1 < 2 ^ 8 by omega)
      simp only [if_pos hcount, Function.update_apply, ← hnext]
      exact apply_ite BitVec.toNat _ _ _
    · rw [if_neg hcount, if_neg hcount]
      split_ifs with hj
      · rw [hj]
      · rfl
  · simp only [if_neg (hlow ∘ hpin.mp), if_neg hlow, Function.update_apply]
    exact apply_ite BitVec.toNat _ _ _

/-- A scan reports an input if its pin is low and its counter full. -/
theorem raw_scanInput (s : (ℕ → Byte) × Byte) {i : ℕ} (hi : i < diCount) (j : ℕ) :
    (scanInput port s i).2.getLsbD j =
      if j = i ∧ PinLow i port ∧ 5 ≤ (s.1 i).toNat then true else s.2.getLsbD j := by
  have hpin := and_diPins_eq_zero_iff port hi
  rw [scanInput]
  by_cases hlow : PinLow i port
  · rw [if_pos (hpin.mpr hlow)]
    by_cases hcount : (s.1 i).toNat < 5
    · rw [if_pos hcount, if_neg fun h => Nat.not_le.mpr hcount h.2.2]
    · rw [if_neg hcount, getLsbD_setBit _ hi]
      simp only [hlow, Nat.not_lt.mp hcount, and_true]
  · rw [if_neg (hlow ∘ hpin.mp), if_neg fun h => hlow h.2.1]

variable (debounce : ℕ → Byte)

/-- The first `n` passes: the counters below `n` are advanced, and these inputs are
reported if their pin is low and their counter was full. -/
theorem foldl_scanInput {n : ℕ} (hn : n ≤ diCount) (j : ℕ) :
    (((List.range n).foldl (scanInput port) (debounce, 0)).1 j).toNat =
        (if j < n then streakCounter 5 (PinLow j port) (debounce j).toNat
          else (debounce j).toNat) ∧
      ((List.range n).foldl (scanInput port) (debounce, 0)).2.getLsbD j =
        decide (j < n ∧ PinLow j port ∧ 5 ≤ (debounce j).toNat) := by
  induction n generalizing j with
  | zero => exact ⟨rfl, by simp⟩
  | succ n ih =>
      have hlt : n < diCount := Nat.lt_of_succ_le hn
      rw [List.range_succ, List.foldl_append, List.foldl_cons, List.foldl_nil,
        debounce_scanInput port _ hlt, raw_scanInput port _ hlt]
      have hcount := (ih hlt.le n).1
      rw [if_neg (Nat.lt_irrefl n)] at hcount
      rw [hcount, (ih hlt.le j).1, (ih hlt.le j).2]
      rcases Nat.lt_trichotomy j n with hbelow | rfl | habove
      · simp [hbelow, hbelow.ne, Nat.lt_succ_of_lt hbelow]
      · simp
      · simp [habove.ne', Nat.not_lt.mpr habove.le, Nat.not_lt.mpr (Nat.succ_le_of_lt habove)]

end Scan

/-! ## A history of samples -/

/-- The variables after the samples of the port, the newest first: each counter is
the length of the streak of its pin, as far as five, and an input is reported if it
is one longer. -/
structure Debounced (samples : List (BitVec 32)) (di : DigitalInputs) : Prop where
  counts : ∀ i < diCount, (di.diDebounce i).toNat = min 5 (streak (PinLow i) samples)
  reports : ∀ i, di.digitalInputStates.getLsbD i =
    decide (i < diCount ∧ 6 ≤ streak (PinLow i) samples)

theorem debounced_boot : Debounced [] .boot where
  counts _ _ := rfl
  reports i := by simp [DigitalInputs.boot]

/-- A scan takes its sample into account. -/
theorem Debounced.scan {samples : List (BitVec 32)} {di : DigitalInputs}
    (h : Debounced samples di) (port : BitVec 32) :
    Debounced (port :: samples) (digitalInputsScan port di) where
  counts i hi := by
    have hcount := (foldl_scanInput port di.diDebounce (Nat.le_refl diCount) i).1
    rw [if_pos hi, h.counts i hi, streakCounter_streak] at hcount
    exact hcount
  reports i := by
    refine (foldl_scanInput port di.diDebounce (Nat.le_refl diCount) i).2.trans ?_
    apply decide_eq_decide.mpr
    apply and_congr_right
    intro hi
    rw [h.counts i hi, streak_cons, le_min_iff, and_iff_right (Nat.le_refl 5)]
    split_ifs with hlow
    · rw [and_iff_right hlow, Nat.succ_le_succ_iff]
    · exact iff_of_false (fun hboth => hlow hboth.1) (by decide)

/-- An input is read as active exactly if its pin was low in the last six samples. -/
theorem Debounced.digitalInputRead_eq_one_iff {samples : List (BitVec 32)} {di : DigitalInputs}
    (h : Debounced samples di) {channel : Byte} (hchannel : channel.toNat < diCount) :
    digitalInputRead channel di = 1 ↔
      6 ≤ samples.length ∧ ∀ port ∈ samples.take 6, PinLow channel.toNat port := by
  rw [← le_streak_iff, digitalInputRead, if_neg (Nat.not_le.mpr hchannel),
    shiftRight_and_one_eq_one_iff, h.reports, decide_eq_true_iff]
  exact and_iff_right hchannel

end AutomationBoard.Board
