/-
# The master's RTU envelope

`modbus_master_rtu_frame` and `modbus_master_rtu_validate_response`. The master
computes the same frame check as the slave, so it accepts what a slave with the
expected id has framed.
-/

import AutomationBoard.Modbus.SlaveStep

namespace AutomationBoard.Modbus

/-- `modbus_master_rtu_frame`: the ADU, no bytes where the function returns zero. -/
def modbusMasterRtuFrame (slaveId : Byte) (pdu : List Byte) (aduMax : ℕ) : List Byte :=
  if pdu.length = 0 ∨ pdu.length > 253 then []
  else if 1 + pdu.length + 2 > aduMax ∨ 1 + pdu.length + 2 > rtuFrameMax then []
  else rtuFrame slaveId pdu

/-- `modbus_master_rtu_validate_response`: the status, and the PDU that `pdu_out`
and `pdu_len_out` delimit where the status is `MODBUS_OK`. -/
def modbusMasterRtuValidateResponse (slaveId : Byte) (adu : List Byte) :
    ModbusStatus × Option (List Byte) :=
  if adu.length < 4 ∨ adu.length > rtuFrameMax then (.error, none)
  else if frameCrc adu ≠ crc16 (adu.take (adu.length - 2)) then (.crcError, none)
  else if byteAt adu 0 ≠ slaveId then (.error, none)
  else (.ok, some (framePdu adu))

/-- The master checks a frame as the slave does. -/
theorem modbusMasterRtuValidateResponse_eq (slaveId : Byte) (adu : List Byte) :
    modbusMasterRtuValidateResponse slaveId adu =
      if ¬ lengthValid adu then (.error, none)
      else if ¬ crcValid adu then (.crcError, none)
      else if byteAt adu 0 ≠ slaveId then (.error, none)
      else (.ok, some (framePdu adu)) := by
  rw [modbusMasterRtuValidateResponse]
  by_cases hlength : lengthValid adu
  · obtain ⟨hlow, hhigh⟩ := id hlength
    rw [if_neg (by omega), if_neg (not_not_intro hlength)]
    rfl
  · rw [if_pos hlength, if_pos (by unfold lengthValid at hlength; omega)]

/-! ## Frames -/

variable (slaveId : Byte) (pdu : List Byte)

@[simp]
theorem length_rtuFrame : (rtuFrame slaveId pdu).length = pdu.length + 3 := by
  simp [rtuFrame]

theorem byteAt_rtuFrame_zero : byteAt (rtuFrame slaveId pdu) 0 = slaveId := rfl

/-- The bytes of the PDU stand behind the address. -/
theorem byteAt_rtuFrame_succ {i : ℕ} (h : i < pdu.length) :
    byteAt (rtuFrame slaveId pdu) (i + 1) = byteAt pdu i := by
  simp [rtuFrame, byteAt, List.getElem?_append, h]

@[simp]
theorem framePdu_rtuFrame : framePdu (rtuFrame slaveId pdu) = pdu := by
  rw [framePdu, length_rtuFrame]
  simp [rtuFrame]

/-- The CRC of a frame is the one that was put into it. -/
theorem crcValid_rtuFrame : crcValid (rtuFrame slaveId pdu) := by
  have hbody : (rtuFrame slaveId pdu).take (pdu.length + 1) = slaveId :: pdu := by
    simp [rtuFrame]
  have hlow : byteAt (rtuFrame slaveId pdu) (pdu.length + 1) =
      loByte (crc16 (slaveId :: pdu)) := by
    simp [rtuFrame, byteAt]
  have hhigh : byteAt (rtuFrame slaveId pdu) (pdu.length + 2) =
      hiByte (crc16 (slaveId :: pdu)) := by
    simp [rtuFrame, byteAt]
  rw [crcValid, frameCrc, length_rtuFrame, show pdu.length + 3 - 2 = pdu.length + 1 by omega,
    show pdu.length + 3 - 1 = pdu.length + 2 by omega, hbody, hlow, hhigh, word_hiByte_loByte]

variable {slaveId pdu}

theorem lengthValid_rtuFrame (hlow : 1 ≤ pdu.length) (hhigh : pdu.length ≤ 253) :
    lengthValid (rtuFrame slaveId pdu) := by
  rw [lengthValid, length_rtuFrame, rtuFrameMax]
  omega

/-- A framed request to a slave is handled by it. -/
theorem slaveStep_rtuFrame {cfg : Config} {s : Slave cfg} (hid : s.slaveId ≠ 0)
    (hlow : 1 ≤ pdu.length) (hhigh : pdu.length ≤ 253) :
    slaveStep s (rtuFrame s.slaveId pdu) = addressedStep s pdu false := by
  have hunicast : decide (byteAt (rtuFrame s.slaveId pdu) 0 = 0) = false := by
    rw [byteAt_rtuFrame_zero]
    exact decide_eq_false hid
  rw [slaveStep_addressed (lengthValid_rtuFrame hlow hhigh) (crcValid_rtuFrame _ _) (.inl rfl),
    framePdu_rtuFrame, hunicast]

/-- A PDU is framed if it fits. -/
theorem modbusMasterRtuFrame_eq_rtuFrame (hlow : 1 ≤ pdu.length) (hhigh : pdu.length ≤ 253) :
    modbusMasterRtuFrame slaveId pdu rtuFrameMax = rtuFrame slaveId pdu := by
  rw [modbusMasterRtuFrame, if_neg (by omega), if_neg (by unfold rtuFrameMax; omega)]

/-- A PDU that does not fit is not framed. -/
theorem modbusMasterRtuFrame_eq_nil (hsize : ¬ (1 ≤ pdu.length ∧ pdu.length ≤ 253)) (aduMax : ℕ) :
    modbusMasterRtuFrame slaveId pdu aduMax = [] := by
  rw [modbusMasterRtuFrame, if_pos (by omega)]

/-- The master accepts a frame of the slave it expects, and gets its PDU. -/
theorem modbusMasterRtuValidateResponse_rtuFrame (hlow : 1 ≤ pdu.length)
    (hhigh : pdu.length ≤ 253) :
    modbusMasterRtuValidateResponse slaveId (rtuFrame slaveId pdu) = (.ok, some pdu) := by
  have hvalid : lengthValid (rtuFrame slaveId pdu) := lengthValid_rtuFrame hlow hhigh
  have hcrc : frameCrc (rtuFrame slaveId pdu) = _ := crcValid_rtuFrame slaveId pdu
  unfold lengthValid at hvalid
  rw [modbusMasterRtuValidateResponse, if_neg (by omega), if_neg (not_not_intro hcrc),
    if_neg (not_not_intro (byteAt_rtuFrame_zero slaveId pdu)), framePdu_rtuFrame]

end AutomationBoard.Modbus
