/-
# What the frame check detects

A line error is superposed on a frame. The check is linear, so whether it is
noticed depends on the error alone: on the run of the table update over its data
bytes from the zero register, measured against what it does to the CRC field.
CRC-16/MODBUS notices every burst of at most sixteen bits; with the bytes of the
table entries swapped there are bursts whose run vanishes.
-/

import AutomationBoard.Math.BitPacking
import AutomationBoard.Modbus.Master
import AutomationBoard.Modbus.Refinement.Rtu
import AutomationBoard.Program.Runs

namespace AutomationBoard.Modbus

open AutomationBoard.Math AutomationBoard.Program

variable {cfg : Config}

/-! ## Errors -/

/-- A valid frame as it was sent, and the bits the line has changed. -/
structure Transmission where
  frame : List Byte
  error : List Byte
  lengthValid : lengthValid frame
  crcValid : crcValid frame
  length_eq : error.length = frame.length

/-- The bytes that arrive. -/
def Transmission.received (t : Transmission) : List Byte := superpose t.frame t.error

/-- A non-zero error whose bits all lie in sixteen consecutive places, in
transmission order. -/
def Burst16 (error : List Byte) : Prop :=
  (∃ i, bitOf error i = true) ∧ ∃ k, ∀ i, bitOf error i = true → k ≤ i ∧ i < k + 16

/-- The register that the data bytes of an error leave, against its CRC field. -/
def syndrome (error : List Byte) : Word :=
  digest crcTableUpdate 0 (error.take (error.length - 2)) ^^^ frameCrc error

/-- The only change is the comm-error counter and the event log. -/
structure OnlyCommErrorNoted (s s' : Slave cfg) : Prop where
  slave : s' = { s with line := s'.line }
  diag : s'.line.diag = { s.line.diag with commErrorCount := s'.line.diag.commErrorCount }
  counter : s'.line.event.counter = s.line.event.counter

/-- Slave and master notice that a transmission was corrupted, and the slave does
nothing else about it. -/
structure Detected (s : Slave cfg) (t : Transmission) (out : Outcome) (s' : Slave cfg) :
    Prop where
  slave : out = ⟨.crcError, []⟩
  noted : OnlyCommErrorNoted s s'
  master : ∀ slaveId,
    (modbusMasterRtuValidateResponse slaveId t.received).1 = .crcError

/-! ## The check of a corrupted frame -/

theorem byteAt_superpose {frame error : List Byte} (hlen : error.length = frame.length) (i : ℕ) :
    byteAt (superpose frame error) i = byteAt frame i ^^^ byteAt error i := by
  by_cases h : i < frame.length
  · have he : i < error.length := hlen ▸ h
    simp [byteAt, superpose, h, he]
  · have he : ¬ i < error.length := hlen ▸ h
    simp [byteAt, superpose, h, he]

namespace Transmission

variable (t : Transmission)

theorem length_received : t.received.length = t.frame.length := by
  rw [received, length_superpose, t.length_eq, Nat.min_self]

theorem lengthValid_received : Modbus.lengthValid t.received := by
  have h := t.lengthValid
  rwa [Modbus.lengthValid, ← t.length_received] at h

theorem frameCrc_received : frameCrc t.received = frameCrc t.frame ^^^ frameCrc t.error := by
  rw [frameCrc, t.length_received, received, byteAt_superpose t.length_eq,
    byteAt_superpose t.length_eq, ← word_xor, frameCrc, frameCrc, t.length_eq]

/-- A corrupted frame still passes the check exactly when the syndrome of the
error is zero. -/
theorem crcValid_received_iff : Modbus.crcValid t.received ↔ syndrome t.error = 0 := by
  have hframe : frameCrc t.frame = _ := (crcValid_iff t.frame).mp t.crcValid
  have hdata : t.received.take (t.received.length - 2) =
      superpose (t.frame.take (t.frame.length - 2)) (t.error.take (t.error.length - 2)) := by
    rw [t.length_received, received, superpose, List.take_zipWith, t.length_eq]
    rfl
  have hlen : (t.frame.take (t.frame.length - 2)).length =
      (t.error.take (t.error.length - 2)).length := by
    rw [List.length_take, List.length_take, t.length_eq]
  rw [crcValid_iff, t.frameCrc_received, hdata,
    digest_superpose_error crcTableUpdate_linear hlen, ← hframe, BitVec.xor_right_inj, syndrome]
  exact eq_comm.trans BitVec.xor_eq_zero_iff.symm

end Transmission

/-! ## Detection -/

theorem onlyCommErrorNoted_noteCommError (s : Slave cfg) :
    OnlyCommErrorNoted s (s.updateLine LineState.noteCommError) := ⟨rfl, rfl, rfl⟩

/-- The master reports a CRC error for a frame of valid length exactly when its
check fails. -/
theorem modbusMasterRtuValidateResponse_crcError_iff {adu : List Byte} (h : lengthValid adu)
    (slaveId : Byte) :
    (modbusMasterRtuValidateResponse slaveId adu).1 = .crcError ↔ ¬ crcValid adu := by
  unfold lengthValid at h
  rw [modbusMasterRtuValidateResponse, if_neg (by omega)]
  by_cases hcrc : crcValid adu
  · have hsum : frameCrc adu = crc16 (adu.take (adu.length - 2)) := hcrc
    rw [if_neg (not_not_intro hsum)]
    refine iff_of_false ?_ (not_not_intro hcrc)
    split <;> exact ModbusStatus.noConfusion
  · have hsum : frameCrc adu ≠ crc16 (adu.take (adu.length - 2)) := hcrc
    rw [if_pos hsum]
    exact iff_of_true rfl hcrc

/-- A transmission is detected exactly when the frame that arrives fails the
check. -/
theorem detected_slaveStep_iff (s : Slave cfg) (t : Transmission) :
    Detected s t (slaveStep s t.received).1 (slaveStep s t.received).2 ↔
      ¬ crcValid t.received := by
  have hmaster := modbusMasterRtuValidateResponse_crcError_iff t.lengthValid_received
  constructor
  · exact fun h => (hmaster 0).mp (h.master 0)
  · intro hcrc
    rw [slaveStep, if_neg (not_not_intro t.lengthValid_received), if_pos hcrc]
    exact ⟨rfl, onlyCommErrorNoted_noteCommError s, fun slaveId => (hmaster slaveId).mpr hcrc⟩

theorem everyStep_detected_iff (flat : cfg.Flat) (s : Slave cfg) (ts : List Transmission) :
    EveryStep (fun t : Transmission => modbusRtuProcess t.received) Detected s ts ↔
      ∀ t ∈ ts, syndrome t.error ≠ 0 := by
  induction ts generalizing s with
  | nil => exact iff_of_true trivial fun t ht => absurd ht List.not_mem_nil
  | cons t ts ih =>
      obtain ⟨out, s', hrun, hstep⟩ := yields_modbusRtuProcess flat s t.received
      have hdetected := detected_slaveStep_iff s t
      rw [← hstep] at hdetected
      rw [EveryStep, Yields.iff_of_run_eq hrun, hdetected, t.crcValid_received_iff, ih,
        List.forall_mem_cons]

/-- In every run, slave and master detect the corrupted frames exactly when no
error has a zero syndrome. -/
theorem runTransmissions_detected_iff (s : Slave boardConfig) (ts : List Transmission) :
    EveryStep (fun t : Transmission => modbusRtuProcess t.received) Detected s ts ↔
      ∀ t ∈ ts, syndrome t.error ≠ 0 :=
  everyStep_detected_iff Config.boardConfig_flat s ts

/-- A write of 3 to register 1 that arrives as a write of `0x8460`. -/
def corruptedWrite : Transmission where
  frame := [0x01, 0x06, 0x00, 0x01, 0x00, 0x03, 0xBF, 0x80]
  error := [0x00, 0x00, 0x00, 0x00, 0x84, 0x63, 0x00, 0x00]
  lengthValid := by decide
  crcValid := (crcValid_iff _).mpr (by decide +kernel)
  length_eq := rfl

/-- The bits 34 to 46 of a frame are corrupted and nobody notices. -/
theorem runTransmissions_burst_undetected :
    Burst16 corruptedWrite.error ∧
      ¬ EveryStep (fun t : Transmission => modbusRtuProcess t.received) Detected
        (modbusRtuInit 1 (Slave.powerOn (SyncHooks.none boardConfig))) [corruptedWrite] := by
  constructor
  · refine ⟨⟨34, by decide⟩, 34, fun i hi => ?_⟩
    have hplaces : ∀ i < 64, bitOf corruptedWrite.error i = true → 34 ≤ i ∧ i < 34 + 16 := by
      decide
    refine hplaces i ?_ hi
    by_contra hpast
    rw [bitOf_of_length_le (Nat.le_of_not_lt hpast)] at hi
    cases hi
  · rw [everyStep_detected_iff Config.boardConfig_flat, List.forall_mem_singleton]
    exact not_not_intro (by decide +kernel)

end AutomationBoard.Modbus
