/-
# The analog input scan

`analog_io.c`: a scan converts one channel after another into the caller's buffer
and then copies the buffer. A conversion that fails leaves its cell of the buffer
alone, but the copy takes it all the same: what is reported for the channel is then
what the caller's buffer held before the scan.
-/

import AutomationBoard.Math.FlatArray
import AutomationBoard.Modbus.Store
import AutomationBoard.Program.Runs

namespace AutomationBoard.Board

open AutomationBoard.Modbus (Word aiCount)
open AutomationBoard.Math AutomationBoard.Program

/-! ## The driver -/

/-- `AI0_ADC_CHANNEL` to `AI3_ADC_CHANNEL`, as `analog_inputs_scan_all` selects them. -/
def adcChannel : ℕ → ℕ
  | 0 => 0
  | 1 => 10
  | 2 => 12
  | _ => 13

/-- What polling for a conversion of an ADC channel comes to: `HAL_OK` and then the
16-bit data register, or anything else. -/
abbrev AdcDriver := ℕ → Option Word

/-- `ai_raw_values`. -/
structure AnalogInputs where
  aiRawValues : ℕ → Word

/-- `ai_raw_values` at boot. -/
def AnalogInputs.boot : AnalogInputs := ⟨fun _ => 0⟩

/-- The conversion of input `i`: a successful one is stored. -/
def convertInto (adc : AdcDriver) (buffer : ℕ → Word) (i : ℕ) : ℕ → Word :=
  match adc (adcChannel i) with
  | some value => Function.update buffer i value
  | none => buffer

/-- `analog_inputs_scan_all`: the caller's buffer and the values after it. -/
def analogInputsScanAll (adc : AdcDriver) (buffer : ℕ → Word) (ai : AnalogInputs) :
    (ℕ → Word) × AnalogInputs :=
  let buffer := (List.range aiCount).foldl (convertInto adc) buffer
  (buffer, ⟨(List.range aiCount).foldl (fun raw i => Function.update raw i (buffer i))
    ai.aiRawValues⟩)

/-- `analog_input_read_raw`. -/
def analogInputReadRaw (channel : ℕ) (ai : AnalogInputs) : Word :=
  if aiCount ≤ channel then 0 else ai.aiRawValues channel

/-! ## What a scan does -/

/-- A conversion changes its own cell at most. -/
theorem convertInto_apply (adc : AdcDriver) (buffer : ℕ → Word) (i j : ℕ) :
    convertInto adc buffer i j =
      if j = i then (adc (adcChannel i)).getD (buffer i) else buffer j := by
  unfold convertInto
  cases adc (adcChannel i) with
  | none =>
      split_ifs with hj
      · exact congrArg buffer hj
      · rfl
  | some value => exact Function.update_apply buffer i value j

/-- The cells below `n` are converted where that succeeds, the others are left. -/
theorem foldl_convertInto (adc : AdcDriver) (buffer : ℕ → Word) (n : ℕ) :
    (List.range n).foldl (convertInto adc) buffer =
      fun i => if i < n then (adc (adcChannel i)).getD (buffer i) else buffer i :=
  foldl_range_replace (fun i old => (adc (adcChannel i)).getD old)
    (convertInto_apply adc) buffer n

/-- The cells below `n` are copied. -/
theorem foldl_copy (buffer raw : ℕ → Word) (n : ℕ) :
    (List.range n).foldl (fun raw i => Function.update raw i (buffer i)) raw =
      fun i => if i < n then buffer i else raw i :=
  foldl_range_replace (fun i _ => buffer i)
    (fun raw i j => Function.update_apply raw i (buffer i) j) raw n

section Scan

variable (adc : AdcDriver) (buffer : ℕ → Word) (ai : AnalogInputs) {channel : ℕ}

/-- The buffer holds what was converted, and what it held where that failed. -/
theorem buffer_analogInputsScanAll (h : channel < aiCount) :
    (analogInputsScanAll adc buffer ai).1 channel =
      (adc (adcChannel channel)).getD (buffer channel) := by
  simp only [analogInputsScanAll, foldl_convertInto]
  exact if_pos h

/-- What is reported is what the buffer holds. -/
theorem readRaw_analogInputsScanAll (h : channel < aiCount) :
    analogInputReadRaw channel (analogInputsScanAll adc buffer ai).2 =
      (analogInputsScanAll adc buffer ai).1 channel := by
  simp only [analogInputReadRaw, if_neg (Nat.not_le.mpr h), analogInputsScanAll, foldl_copy]
  exact if_pos h

end Scan

/-! ## Runs of scans -/

/-- A scan: the buffer that the caller passes, and the driver while it runs. -/
structure Scan where
  buffer : ℕ → Word
  adc : AdcDriver

/-- The values, with the result of the last successful conversion of each input, 0
if there has been none. -/
structure ScannedAnalogs where
  ai : AnalogInputs
  latest : ℕ → Word

/-- Nothing has been converted at boot. -/
def ScannedAnalogs.boot : ScannedAnalogs := ⟨.boot, fun _ => 0⟩

/-- One scan, observed: the buffer that is handed back. -/
def scanStep (scan : Scan) (s : ScannedAnalogs) : (ℕ → Word) × ScannedAnalogs :=
  let r := analogInputsScanAll scan.adc scan.buffer s.ai
  (r.1, ⟨r.2, fun channel => (scan.adc (adcChannel channel)).getD (s.latest channel)⟩)

/-- Every channel is reported, and handed back, as it was last converted. -/
def ReportsLatest (_ : ScannedAnalogs) (_ : Scan) (buffer : ℕ → Word) (s' : ScannedAnalogs) :
    Prop :=
  ∀ channel < aiCount, analogInputReadRaw channel s'.ai = s'.latest channel ∧
    buffer channel = s'.latest channel

/-- Where a conversion fails, the caller's buffer held the last result already. -/
def FailsOverLatest (s : ScannedAnalogs) (scan : Scan) (_ : ℕ → Word) (_ : ScannedAnalogs) :
    Prop :=
  ∀ channel < aiCount, scan.adc (adcChannel channel) = none →
    scan.buffer channel = s.latest channel

/-- A scan reports the last results exactly if the conversions that fail find them
in the buffer. -/
theorem scanStep_reportsLatest_iff (scan : Scan) (s : ScannedAnalogs) :
    ReportsLatest s scan (scanStep scan s).1 (scanStep scan s).2 ↔
      FailsOverLatest s scan (scanStep scan s).1 (scanStep scan s).2 := by
  refine forall₂_congr fun channel hchannel => ?_
  have hreported : analogInputReadRaw channel (scanStep scan s).2.ai =
      (scanStep scan s).1 channel := readRaw_analogInputsScanAll _ _ _ hchannel
  have hbuffer : (scanStep scan s).1 channel =
      (scan.adc (adcChannel channel)).getD (scan.buffer channel) :=
    buffer_analogInputsScanAll _ _ s.ai hchannel
  have hlatest : (scanStep scan s).2.latest channel =
      (scan.adc (adcChannel channel)).getD (s.latest channel) := rfl
  rw [hreported, hbuffer, hlatest, and_self]
  cases scan.adc (adcChannel channel) with
  | none => simp
  | some value => simp

/-- In a run of scans every channel is reported as it was last converted exactly if
every conversion that fails finds that value in the caller's buffer. -/
theorem scanRun_reportsLatest_iff (scans : List Scan) :
    EveryStep (total scanStep) ReportsLatest .boot scans ↔
      EveryStep (total scanStep) FailsOverLatest .boot scans := by
  apply everyStep_congr (I := fun _ => True) _ trivial
  intro s scan _
  rw [yields_total]
  exact ⟨trivial, scanStep_reportsLatest_iff scan s⟩

/-- A first conversion that fails is reported as the garbage in the buffer. -/
theorem not_scanRun_reportsLatest :
    ¬ EveryStep (total scanStep) ReportsLatest .boot [⟨fun _ => 0xDEAD, fun _ => none⟩] := by
  rw [everyStep_singleton, yields_total]
  intro h
  exact absurd (h 0 (by decide)).1 (by decide)

end AutomationBoard.Board
