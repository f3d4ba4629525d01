/-
# Built requests are read back

What the slave parses from the requests that the master builds. The builders and
the dispatcher lay out the same fields independently; for arguments inside the
tables, the request that is parsed names the elements that the caller asked for.
-/

import AutomationBoard.Modbus.MasterBuild
import AutomationBoard.Modbus.Refinement.Tables

namespace AutomationBoard.Modbus

open AutomationBoard.Math AutomationBoard.Program

variable {cfg : Config}

/-! ## Tables -/

/-- Fields that are given as words. -/
theorem fields_map_toNat (values : List Word) :
    fields (values.map BitVec.toNat) = bytesOfWords values := by
  have hwords : (values.map BitVec.toNat).map (BitVec.ofNat 16) = values := by
    simp [Function.comp_def]
  rw [fields, hwords]

/-- The fields of a read. -/
theorem fields_eq_buildRead {n m : ℕ} {start quantity : Word} (hstart : n = start.toNat)
    (hcount : m = quantity.toNat) (fc : Byte) :
    fc :: fields [n, m] = modbusMasterBuildRead fc start quantity 5 := by
  rw [hstart, hcount]
  exact congrArg (fc :: ·) (fields_map_toNat [start, quantity])

namespace TableRequest

variable {start quantity : Word}

theorem encode_writeSingleCoil {addr : Fin cfg.maxCoils} (haddr : addr.val = start.toNat)
    (on : Byte) :
    (writeSingleCoil addr (on ≠ 0)).encode = modbusMasterBuildWriteSingleCoil start on 5 := by
  rw [encode, haddr]
  by_cases hon : on = 0
  · subst hon
    exact congrArg (FunctionCode.writeSingleCoil.code :: ·) (fields_map_toNat [start, 0x0000])
  · have hbuild : modbusMasterBuildWriteSingleCoil start on 5 =
        FunctionCode.writeSingleCoil.code :: bytesOfWords [start, 0xFF00] := by
      rw [modbusMasterBuildWriteSingleCoil, if_neg (by decide), if_pos hon]
    rw [hbuild, decide_eq_true hon]
    exact congrArg (FunctionCode.writeSingleCoil.code :: ·) (fields_map_toNat [start, 0xFF00])

theorem encode_writeSingleRegister {addr : Fin cfg.maxRegisters} (haddr : addr.val = start.toNat)
    (value : Word) :
    (writeSingleRegister addr value).encode =
      modbusMasterBuildWriteSingleRegister start value 5 := by
  rw [encode, haddr]
  exact congrArg (fun bytes => FunctionCode.writeSingleRegister.code ::
    (bytes ++ bytesOfWords [value])) (fields_map_toNat [start])

theorem encode_maskWriteRegister {addr : Fin cfg.maxRegisters} (haddr : addr.val = start.toNat)
    (andMask orMask : Word) :
    (maskWriteRegister addr andMask orMask).encode =
      modbusMasterBuildMaskWriteRegister start andMask orMask 7 := by
  rw [encode, haddr]
  exact congrArg (fun bytes => FunctionCode.maskWriteRegister.code ::
    (bytes ++ bytesOfWords [andMask, orMask])) (fields_map_toNat [start])

theorem encode_writeMultipleCoils {write : CoilWrite maxWriteCoils cfg.maxCoils} {bits : ℕ → Byte}
    (hstart : write.start = start.toNat) (hcount : write.count = quantity.toNat)
    (hdata : write.data = (List.range ((quantity.toNat + 7) / 8)).map bits) :
    (writeMultipleCoils write).encode =
      modbusMasterBuildWriteMultipleCoils start quantity bits 256 := by
  have hquantity : 1 ≤ quantity.toNat ∧ quantity.toNat ≤ 1968 :=
    ⟨hcount ▸ write.positive, hcount ▸ write.le_limit⟩
  have hfields := fields_map_toNat [start, quantity]
  simp only [List.map_cons, List.map_nil] at hfields
  rw [modbusMasterBuildWriteMultipleCoils_eq, if_pos hquantity, encode, hstart, hcount, hdata,
    hfields, List.length_map, List.length_range]

theorem encode_writeMultipleRegisters {write : RegisterWrite maxWriteRegisters cfg.maxRegisters}
    {regs : ℕ → Word} (hstart : write.start = start.toNat)
    (hvalues : write.values = (List.range quantity.toNat).map regs) :
    (writeMultipleRegisters write).encode =
      modbusMasterBuildWriteMultipleRegisters start quantity regs 256 := by
  have hcount : write.values.length = quantity.toNat := by rw [hvalues]; simp
  have hquantity : 1 ≤ quantity.toNat ∧ quantity.toNat ≤ 123 :=
    ⟨hcount ▸ write.positive, hcount ▸ write.le_limit⟩
  have hfields := fields_map_toNat [start, quantity]
  simp only [List.map_cons, List.map_nil] at hfields
  rw [modbusMasterBuildWriteMultipleRegisters_eq, if_pos hquantity, encode, hstart, hcount,
    hvalues, hfields]

theorem encode_readWriteMultipleRegs {read : Span 0x007D cfg.maxRegisters}
    {write : RegisterWrite 0x0079 cfg.maxRegisters} {writeStart writeQty : Word} {regs : ℕ → Word}
    (hreadStart : read.start = start.toNat) (hreadQty : read.count = quantity.toNat)
    (hwriteStart : write.start = writeStart.toNat)
    (hvalues : write.values = (List.range writeQty.toNat).map regs) :
    (readWriteMultipleRegs read write).encode =
      modbusMasterBuildReadWriteMultipleRegisters start quantity writeStart writeQty regs 256 := by
  have hcount : write.values.length = writeQty.toNat := by rw [hvalues]; simp
  have hquantity : (1 ≤ quantity.toNat ∧ quantity.toNat ≤ 0x007D) ∧
      1 ≤ writeQty.toNat ∧ writeQty.toNat ≤ 0x0079 :=
    ⟨⟨hreadQty ▸ read.positive, hreadQty ▸ read.le_limit⟩,
      hcount ▸ write.positive, hcount ▸ write.le_limit⟩
  have hfields := fields_map_toNat [start, quantity, writeStart, writeQty]
  simp only [List.map_cons, List.map_nil] at hfields
  rw [modbusMasterBuildReadWriteMultipleRegisters_eq, if_pos hquantity, encode, hreadStart,
    hreadQty, hwriteStart, hcount, hvalues, hfields]

end TableRequest

/-! ## Files -/

/-- The file span of a request, if it is inside the files. -/
def fileSpanOf (fileNumber recordNumber recordLength : Word) : Except ExceptionCode FileSpan :=
  if hvalue : 1 ≤ recordLength.toNat then
    if haddr : (1 ≤ fileNumber.toNat ∧ fileNumber.toNat ≤ fileCount) ∧
        recordNumber.toNat + recordLength.toNat ≤ fileSizeRegs then
      .ok ⟨fileNumber.toNat - 1, recordNumber.toNat, recordLength.toNat, by omega, hvalue, haddr.2⟩
    else .error .illegalDataAddress
  else .error .illegalDataValue

section Files

variable {fileNumber recordNumber recordLength : Word}

theorem fileSpanOf_eq_ok (hfile : 1 ≤ fileNumber.toNat ∧ fileNumber.toNat ≤ fileCount)
    (hlow : 1 ≤ recordLength.toNat)
    (hfits : recordNumber.toNat + recordLength.toNat ≤ fileSizeRegs) :
    ∃ span, fileSpanOf fileNumber recordNumber recordLength = .ok span ∧
      span.file = fileNumber.toNat - 1 ∧ span.start = recordNumber.toNat ∧
      span.count = recordLength.toNat := by
  rw [fileSpanOf, dif_pos hlow, dif_pos ⟨hfile, hfits⟩]
  exact ⟨_, rfl, rfl, rfl, rfl⟩

/-- A sub-request at the start of the data of a request. -/
theorem parseFileSpan_built (fc byteCount : Byte) (rest : List Byte) :
    parseFileSpan (fc :: byteCount :: fileRefType ::
        (bytesOfWords [fileNumber, recordNumber, recordLength] ++ rest)) 2 =
      fileSpanOf fileNumber recordNumber recordLength := by
  generalize hrx : fc :: byteCount :: fileRefType ::
    (bytesOfWords [fileNumber, recordNumber, recordLength] ++ rest) = rx
  have hfile : wordAt rx (2 + 1) = fileNumber := by
    rw [← hrx]
    exact word_hiByte_loByte fileNumber
  have hrecord : wordAt rx (2 + 3) = recordNumber := by
    rw [← hrx]
    exact word_hiByte_loByte recordNumber
  have hlength : wordAt rx (2 + 5) = recordLength := by
    rw [← hrx]
    exact word_hiByte_loByte recordLength
  have href : byteAt rx 2 = fileRefType := by
    rw [← hrx]
    rfl
  unfold parseFileSpan fileSpanOf
  simp only [hfile, hrecord, hlength, href, true_and]

/-- A file read asks for one span, if the response has room for it. -/
theorem parseRequest_readFileRecord (hlow : 1 ≤ recordLength.toNat) :
    parseRequest cfg (modbusMasterBuildReadFileRecord fileNumber recordNumber recordLength 16) =
      (do
        let span ← fileSpanOf fileNumber recordNumber recordLength
        if 2 + (2 + span.count * 2) > 253 then .error .illegalDataValue
        else pure (.readFileRecord [span])) := by
  have hbuilt : modbusMasterBuildReadFileRecord fileNumber recordNumber recordLength 16 =
      FunctionCode.readFileRecord.code :: 0x07 :: fileRefType ::
        (bytesOfWords [fileNumber, recordNumber, recordLength] ++ []) := by
    rw [modbusMasterBuildReadFileRecord, if_neg (by omega), List.append_nil]
  have hspan : parseFileSpan (modbusMasterBuildReadFileRecord fileNumber recordNumber recordLength
      16) 2 = fileSpanOf fileNumber recordNumber recordLength := by
    rw [hbuilt]
    exact parseFileSpan_built _ _ []
  have hcode : FunctionCode.ofByte (byteAt (modbusMasterBuildReadFileRecord fileNumber recordNumber
      recordLength 16) 0) = some .readFileRecord := by
    rw [hbuilt]
    rfl
  have hcount : (byteAt (modbusMasterBuildReadFileRecord fileNumber recordNumber recordLength 16)
      1).toNat = 7 := by
    rw [hbuilt]
    rfl
  have hlength : (modbusMasterBuildReadFileRecord fileNumber recordNumber recordLength 16).length =
      9 := by
    rw [hbuilt]
    rfl
  rw [parseRequest, hcode]
  simp only [parseReadFileRecord, hcount, hlength]
  rw [if_neg (by decide), if_pos (by decide)]
  simp only [Nat.reduceDiv, parseFileReads, Nat.zero_mul, Nat.add_zero, hspan]
  cases fileSpanOf fileNumber recordNumber recordLength with
  | error e => rfl
  | ok span =>
      show Request.readFileRecord <$> (if 2 + (2 + span.count * 2) > 253 then _ else _) =
        if 2 + (2 + span.count * 2) > 253 then _ else _
      split_ifs <;> rfl

/-- The sub-requests of a request that is as long as its first one. -/
theorem parseFileWrites_one {rx : List Byte} {span : FileSpan} {values : List Word}
    (hspan : parseFileSpan rx 2 = .ok span) (hlength : values.length = span.count)
    (hrx : rx.length = 9 + values.length * 2) (hvalues : wordsAt rx 9 values.length = values) :
    parseFileWrites rx rx.length 2 = ([⟨span, values, hlength⟩], none) := by
  have hwrite : parseFileWrite rx 2 = .ok ⟨span, values, hlength⟩ := by
    have hshort : ¬ rx.length < 2 + 7 := by omega
    have hroom : ¬ rx.length < 2 + 7 + span.count * 2 := by omega
    rw [parseFileWrite, if_neg hshort, hspan]
    refine (if_neg hroom).trans (congrArg Except.ok ?_)
    rw [FileWrite.mk.injEq]
    exact ⟨rfl, by rw [← hlength]; exact hvalues⟩
  have hend : ¬ 2 + 7 + span.count * 2 < rx.length := by omega
  have hrest : ∀ bound, parseFileWrites rx bound (2 + 7 + span.count * 2) = ([], none) := by
    intro bound
    cases bound with
    | zero => rfl
    | succ bound => rw [parseFileWrites, if_neg hend]
  obtain ⟨bound, hbound⟩ : ∃ bound, rx.length = bound + 1 := ⟨8 + values.length * 2, by omega⟩
  rw [hbound, parseFileWrites, if_pos (by omega), hwrite]
  simp only [hrest]

/-- A file write asks for its one sub-request. -/
theorem parseRequest_writeFileRecord {regs : ℕ → Word}
    (hcount : 1 ≤ recordLength.toNat ∧ recordLength.toNat ≤ 122) {span : FileSpan}
    (hspan : fileSpanOf fileNumber recordNumber recordLength = .ok span)
    (hlength : ((List.range recordLength.toNat).map regs).length = span.count) :
    parseRequest cfg (modbusMasterBuildWriteFileRecord fileNumber recordNumber recordLength regs
        256) =
      .ok (.writeFileRecord [⟨span, (List.range recordLength.toNat).map regs, hlength⟩] none) := by
  rw [modbusMasterBuildWriteFileRecord_eq, if_pos hcount]
  have hvalues : ((List.range recordLength.toNat).map regs).length = recordLength.toNat := by simp
  generalize (List.range recordLength.toNat).map regs = values at hlength hvalues ⊢
  rw [← hvalues] at hcount ⊢
  generalize hrx : FunctionCode.writeFileRecord.code :: BitVec.ofNat 8 (7 + values.length * 2) ::
    fileRefType :: (bytesOfWords [fileNumber, recordNumber, recordLength] ++ bytesOfWords values) = rx
  have hfirst : parseFileSpan rx 2 = .ok span := by
    rw [← hrx, parseFileSpan_built, hspan]
  have hrxLength : rx.length = 9 + values.length * 2 := by
    rw [← hrx]
    simp
    omega
  have hdata : wordsAt rx 9 values.length = values := by
    rw [← hrx]
    exact wordsAt_append_bytesOfWords (FunctionCode.writeFileRecord.code ::
      BitVec.ofNat 8 (7 + values.length * 2) :: fileRefType ::
        bytesOfWords [fileNumber, recordNumber, recordLength]) values
  have hbyteCount : (byteAt rx 1).toNat = 7 + values.length * 2 := by
    rw [← hrx]
    exact toNat_ofNat_byte (by omega)
  have hcode : FunctionCode.ofByte (byteAt rx 0) = some .writeFileRecord := by
    rw [← hrx]
    rfl
  rw [parseRequest, hcode]
  simp only [parseWriteFileRecord, hbyteCount]
  rw [if_neg (by omega), if_pos (by omega), parseFileWrites_one hfirst hlength hrxLength hdata]

end Files

/-! ## Queues and identification -/

theorem parseRequest_readFifoQueue {fifoAddr : Word} (haddr : fifoAddr.toNat < fifoCount) :
    parseRequest cfg (modbusMasterBuildReadFifoQueue fifoAddr 3) =
      .ok (.readFifoQueue ⟨fifoAddr.toNat, haddr⟩) := by
  have hfield : wordAt (modbusMasterBuildReadFifoQueue fifoAddr 3) 1 = fifoAddr :=
    word_hiByte_loByte fifoAddr
  have hlength : (modbusMasterBuildReadFifoQueue fifoAddr 3).length = 3 := rfl
  have hcode : FunctionCode.ofByte (byteAt (modbusMasterBuildReadFifoQueue fifoAddr 3) 0) =
      some .readFifoQueue := rfl
  rw [parseRequest, hcode]
  simp only [parseReadFifoQueue, hlength, hfield, parseAddr, ne_eq, not_true_eq_false, if_false,
    dif_pos haddr]
  rfl

/-- The first object of an identification: the one that is named, or the first of
all where a stream access names none that exists. -/
def firstObject (readDeviceId objectId : Byte) : ℕ :=
  if readDeviceId = 0x04 ∨ objectId.toNat ≤ 2 then objectId.toNat else 0

/-- The last object of an identification. -/
def lastObject (readDeviceId objectId : Byte) : ℕ :=
  if readDeviceId = 0x04 then objectId.toNat else 2

theorem parseRequest_readDeviceId {readDeviceId objectId : Byte}
    (hcode : 1 ≤ readDeviceId.toNat ∧ readDeviceId.toNat ≤ 4)
    (hobject : readDeviceId = 0x04 → objectId.toNat ≤ 2) :
    ∃ read : DeviceIdRead, parseRequest cfg (modbusMasterBuildReadDeviceId readDeviceId objectId 4) =
        .ok (.readDeviceId read) ∧
      read.code = readDeviceId ∧ read.firstObj = firstObject readDeviceId objectId ∧
      read.lastObj = lastObject readDeviceId objectId := by
  have hknownCode : ¬ (readDeviceId ≠ 0x01 ∧ readDeviceId ≠ 0x02 ∧ readDeviceId ≠ 0x03 ∧
      readDeviceId ≠ 0x04) := by
    bv_omega
  have hparse : parseRequest cfg (modbusMasterBuildReadDeviceId readDeviceId objectId 4) =
      if hobject : objectId.toNat ≤ 2 then
        if readDeviceId = 0x04 then
          .ok (.readDeviceId ⟨readDeviceId, objectId.toNat, objectId.toNat, Nat.le_refl _, hobject⟩)
        else .ok (.readDeviceId ⟨readDeviceId, objectId.toNat, 2, hobject, Nat.le_refl _⟩)
      else if readDeviceId = 0x04 then .error .illegalDataAddress
      else .ok (.readDeviceId ⟨readDeviceId, 0, 2, by decide, Nat.le_refl _⟩) :=
    if_neg hknownCode
  rw [hparse]
  unfold firstObject lastObject
  by_cases hindividual : readDeviceId = 0x04
  · have hobj := hobject hindividual
    rw [dif_pos hobj, if_pos hindividual, if_pos (.inl hindividual), if_pos hindividual]
    exact ⟨_, rfl, rfl, rfl, rfl⟩
  · rw [if_neg hindividual, if_neg hindividual]
    by_cases hobj : objectId.toNat ≤ 2
    · rw [dif_pos hobj, if_neg hindividual, if_pos (.inr hobj)]
      exact ⟨_, rfl, rfl, rfl, rfl⟩
    · rw [dif_neg hobj, if_neg (not_or.mpr ⟨hindividual, hobj⟩)]
      exact ⟨_, rfl, rfl, rfl, rfl⟩

end AutomationBoard.Modbus
