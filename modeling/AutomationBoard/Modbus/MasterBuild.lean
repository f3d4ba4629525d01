/-
# The master's request builders

`modbus_master_build_*` of `modbus_master.c`. A builder returns the bytes it
writes to `pdu`, none where the code returns 0; `pdu_max` is the room there. An
array of the caller is the function of what stands at each of its indices.
-/

import AutomationBoard.Modbus.Pdu

namespace AutomationBoard.Modbus

/-- `modbus_master_build_read`. -/
def modbusMasterBuildRead (fc : Byte) (start quantity : Word) (pduMax : ℕ) : List Byte :=
  if pduMax < 5 then [] else fc :: bytesOfWords [start, quantity]

/-- `modbus_master_build_write_single_coil`. -/
def modbusMasterBuildWriteSingleCoil (addr : Word) (on : Byte) (pduMax : ℕ) : List Byte :=
  if pduMax < 5 then []
  else
    FunctionCode.writeSingleCoil.code ::
      bytesOfWords [addr, if on ≠ 0 then 0xFF00 else 0x0000]

/-- `modbus_master_build_write_single_register`. -/
def modbusMasterBuildWriteSingleRegister (addr value : Word) (pduMax : ℕ) : List Byte :=
  if pduMax < 5 then []
  else FunctionCode.writeSingleRegister.code :: bytesOfWords [addr, value]

/-- `modbus_master_build_write_multiple_coils`. -/
def modbusMasterBuildWriteMultipleCoils (start quantity : Word) (bits : ℕ → Byte)
    (pduMax : ℕ) : List Byte :=
  if quantity.toNat < 1 ∨ quantity.toNat > 1968 then []
  else
    let byteCount := uint8 ((quantity.toNat + 7) / 8)
    if pduMax < uint16 (6 + byteCount) then []
    else
      FunctionCode.writeMultipleCoils.code :: (bytesOfWords [start, quantity] ++
        BitVec.ofNat 8 byteCount :: (List.range byteCount).map bits)

/-- `modbus_master_build_write_multiple_registers`. -/
def modbusMasterBuildWriteMultipleRegisters (start quantity : Word) (regs : ℕ → Word)
    (pduMax : ℕ) : List Byte :=
  if quantity.toNat < 1 ∨ quantity.toNat > 123 then []
  else
    let byteCount := uint8 (quantity.toNat * 2)
    if pduMax < uint16 (6 + byteCount) then []
    else
      FunctionCode.writeMultipleRegisters.code :: (bytesOfWords [start, quantity] ++
        BitVec.ofNat 8 byteCount :: bytesOfWords ((List.range quantity.toNat).map regs))

/-- The builders of the requests that are a function code alone. -/
def buildFunctionCode (fc : FunctionCode) (pduMax : ℕ) : List Byte :=
  if pduMax < 1 then [] else [fc.code]

/-- `modbus_master_build_read_exception_status`. -/
def modbusMasterBuildReadExceptionStatus (pduMax : ℕ) : List Byte :=
  buildFunctionCode .readExceptionStatus pduMax

/-- `modbus_master_build_get_comm_event_counter`. -/
def modbusMasterBuildGetCommEventCounter (pduMax : ℕ) : List Byte :=
  buildFunctionCode .getCommEventCounter pduMax

/-- `modbus_master_build_get_comm_event_log`. -/
def modbusMasterBuildGetCommEventLog (pduMax : ℕ) : List Byte :=
  buildFunctionCode .getCommEventLog pduMax

/-- `modbus_master_build_report_server_id`. -/
def modbusMasterBuildReportServerId (pduMax : ℕ) : List Byte :=
  buildFunctionCode .reportServerId pduMax

/-- `modbus_master_build_mask_write_register`. -/
def modbusMasterBuildMaskWriteRegister (addr andMask orMask : Word) (pduMax : ℕ) : List Byte :=
  if pduMax < 7 then []
  else FunctionCode.maskWriteRegister.code :: bytesOfWords [addr, andMask, orMask]

/-- `modbus_master_build_read_fifo_queue`. -/
def modbusMasterBuildReadFifoQueue (fifoAddr : Word) (pduMax : ℕ) : List Byte :=
  if pduMax < 3 then [] else FunctionCode.readFifoQueue.code :: bytesOfWords [fifoAddr]

/-- `modbus_master_build_diagnostics`. -/
def modbusMasterBuildDiagnostics (subFunction data : Word) (pduMax : ℕ) : List Byte :=
  if pduMax < 5 then [] else FunctionCode.diagnostics.code :: bytesOfWords [subFunction, data]

/-- `modbus_master_build_read_file_record`. -/
def modbusMasterBuildReadFileRecord (fileNumber recordNumber recordLength : Word)
    (pduMax : ℕ) : List Byte :=
  if pduMax < 9 ∨ recordLength.toNat < 1 then []
  else
    FunctionCode.readFileRecord.code :: 0x07 :: fileRefType ::
      bytesOfWords [fileNumber, recordNumber, recordLength]

/-- `modbus_master_build_write_file_record`. -/
def modbusMasterBuildWriteFileRecord (fileNumber recordNumber recordLength : Word)
    (regs : ℕ → Word) (pduMax : ℕ) : List Byte :=
  if recordLength.toNat < 1 then []
  else if recordLength.toNat > (0xFB - 7) / 2 then []
  else
    let dataBytes := uint16 (recordLength.toNat * 2)
    let reqDataLen := uint8 (7 + dataBytes)
    if uint16 (2 + reqDataLen) > pduMax ∨ reqDataLen < 0x09 then []
    else
      FunctionCode.writeFileRecord.code :: BitVec.ofNat 8 reqDataLen :: fileRefType ::
        (bytesOfWords [fileNumber, recordNumber, recordLength] ++
          bytesOfWords ((List.range recordLength.toNat).map regs))

/-- `modbus_master_build_read_write_multiple_registers`. -/
def modbusMasterBuildReadWriteMultipleRegisters (readStart readQty writeStart writeQty : Word)
    (writeRegs : ℕ → Word) (pduMax : ℕ) : List Byte :=
  if readQty.toNat < 1 ∨ readQty.toNat > 0x007D ∨ writeQty.toNat < 1 ∨
      writeQty.toNat > 0x0079 then []
  else
    let writeBc := uint8 (writeQty.toNat * 2)
    if pduMax < uint16 (10 + writeBc) then []
    else
      FunctionCode.readWriteMultipleRegs.code ::
        (bytesOfWords [readStart, readQty, writeStart, writeQty] ++
          BitVec.ofNat 8 writeBc :: bytesOfWords ((List.range writeQty.toNat).map writeRegs))

/-- `modbus_master_build_read_device_id`. -/
def modbusMasterBuildReadDeviceId (readDeviceId objectId : Byte) (pduMax : ℕ) : List Byte :=
  if pduMax < 4 then []
  else [FunctionCode.encapsulatedInterface.code, 0x0E, readDeviceId, objectId]

/-! ## Requests of any length

The builders of the requests that carry data have the room of a frame, so their
limits alone decide whether they build one, and no length in them is truncated. -/

section Data

variable {start quantity fileNumber recordNumber recordLength : Word} {bits : ℕ → Byte}
  {regs : ℕ → Word} {readStart readQty writeStart writeQty : Word}

theorem modbusMasterBuildWriteMultipleCoils_eq :
    modbusMasterBuildWriteMultipleCoils start quantity bits 256 =
      if 1 ≤ quantity.toNat ∧ quantity.toNat ≤ 1968 then
        FunctionCode.writeMultipleCoils.code :: (bytesOfWords [start, quantity] ++
          BitVec.ofNat 8 ((quantity.toNat + 7) / 8) ::
            (List.range ((quantity.toNat + 7) / 8)).map bits)
      else [] := by
  rw [modbusMasterBuildWriteMultipleCoils]
  by_cases hquantity : 1 ≤ quantity.toNat ∧ quantity.toNat ≤ 1968
  · have hcount : uint8 ((quantity.toNat + 7) / 8) = (quantity.toNat + 7) / 8 :=
      uint8_of_lt (by omega)
    have hroom : uint16 (6 + (quantity.toNat + 7) / 8) = 6 + (quantity.toNat + 7) / 8 :=
      uint16_of_lt (by omega)
    simp only [hcount, hroom]
    rw [if_neg (by omega), if_neg (by omega), if_pos hquantity]
  · rw [if_pos (by omega), if_neg hquantity]

theorem modbusMasterBuildWriteMultipleRegisters_eq :
    modbusMasterBuildWriteMultipleRegisters start quantity regs 256 =
      if 1 ≤ quantity.toNat ∧ quantity.toNat ≤ 123 then
        FunctionCode.writeMultipleRegisters.code :: (bytesOfWords [start, quantity] ++
          BitVec.ofNat 8 (quantity.toNat * 2) ::
            bytesOfWords ((List.range quantity.toNat).map regs))
      else [] := by
  rw [modbusMasterBuildWriteMultipleRegisters]
  by_cases hquantity : 1 ≤ quantity.toNat ∧ quantity.toNat ≤ 123
  · have hcount : uint8 (quantity.toNat * 2) = quantity.toNat * 2 := uint8_of_lt (by omega)
    have hroom : uint16 (6 + quantity.toNat * 2) = 6 + quantity.toNat * 2 :=
      uint16_of_lt (by omega)
    simp only [hcount, hroom]
    rw [if_neg (by omega), if_neg (by omega), if_pos hquantity]
  · rw [if_pos (by omega), if_neg hquantity]

theorem modbusMasterBuildWriteFileRecord_eq :
    modbusMasterBuildWriteFileRecord fileNumber recordNumber recordLength regs 256 =
      if 1 ≤ recordLength.toNat ∧ recordLength.toNat ≤ 122 then
        FunctionCode.writeFileRecord.code :: BitVec.ofNat 8 (7 + recordLength.toNat * 2) ::
          fileRefType :: (bytesOfWords [fileNumber, recordNumber, recordLength] ++
            bytesOfWords ((List.range recordLength.toNat).map regs))
      else [] := by
  rw [modbusMasterBuildWriteFileRecord]
  by_cases hlength : 1 ≤ recordLength.toNat ∧ recordLength.toNat ≤ 122
  · have hdata : uint16 (recordLength.toNat * 2) = recordLength.toNat * 2 :=
      uint16_of_lt (by omega)
    have hcount : uint8 (7 + recordLength.toNat * 2) = 7 + recordLength.toNat * 2 :=
      uint8_of_lt (by omega)
    have hroom : uint16 (2 + (7 + recordLength.toNat * 2)) = 2 + (7 + recordLength.toNat * 2) :=
      uint16_of_lt (by omega)
    simp only [hdata, hcount, hroom]
    rw [if_neg (by omega), if_neg (by omega), if_neg (by omega), if_pos hlength]
  · rw [if_neg hlength]
    by_cases hnone : recordLength.toNat < 1
    · rw [if_pos hnone]
    · rw [if_neg hnone, if_pos (by omega)]

theorem modbusMasterBuildReadWriteMultipleRegisters_eq :
    modbusMasterBuildReadWriteMultipleRegisters readStart readQty writeStart writeQty regs 256 =
      if (1 ≤ readQty.toNat ∧ readQty.toNat ≤ 0x007D) ∧
          1 ≤ writeQty.toNat ∧ writeQty.toNat ≤ 0x0079 then
        FunctionCode.readWriteMultipleRegs.code ::
          (bytesOfWords [readStart, readQty, writeStart, writeQty] ++
            BitVec.ofNat 8 (writeQty.toNat * 2) ::
              bytesOfWords ((List.range writeQty.toNat).map regs))
      else [] := by
  rw [modbusMasterBuildReadWriteMultipleRegisters]
  by_cases hquantity : (1 ≤ readQty.toNat ∧ readQty.toNat ≤ 0x007D) ∧
      1 ≤ writeQty.toNat ∧ writeQty.toNat ≤ 0x0079
  · have hcount : uint8 (writeQty.toNat * 2) = writeQty.toNat * 2 := uint8_of_lt (by omega)
    have hroom : uint16 (10 + writeQty.toNat * 2) = 10 + writeQty.toNat * 2 :=
      uint16_of_lt (by omega)
    simp only [hcount, hroom]
    rw [if_neg (by omega), if_neg (by omega), if_pos hquantity]
  · rw [if_pos (by omega), if_neg hquantity]

end Data

end AutomationBoard.Modbus
