/-
# Requests

What a request PDU asks for, once it has passed its checks. A request carries
the bounds its checks established, so a range outside its table cannot be built.
`parseRequest` names the exception of a PDU that asks for nothing; it makes the
checks of the dispatcher in the dispatcher's order, and no access of its own can
fail.
-/

import AutomationBoard.Math.BitPacking
import AutomationBoard.Modbus.Pdu

namespace AutomationBoard.Modbus

open AutomationBoard.Math

/-! ## Fields of a PDU -/

/-- `n` consecutive words from an index. -/
def wordsAt (rx : List Byte) (base n : ℕ) : List Word :=
  (List.range n).map fun i => wordAt rx (base + i * 2)

@[simp]
theorem length_wordsAt (rx : List Byte) (base n : ℕ) : (wordsAt rx base n).length = n := by
  simp [wordsAt]

/-! ## Ranges -/

/-- The elements `start`, …, `start + count - 1` of a table of the given size,
at least one and at most `limit` of them. -/
structure Span (limit size : ℕ) where
  start : ℕ
  count : ℕ
  positive : 1 ≤ count
  le_limit : count ≤ limit
  fits : start + count ≤ size

/-- Bits for consecutive coils of a table of the given size, packed; the unused
bits of the last byte are as they were sent. -/
structure CoilWrite (limit size : ℕ) extends Span limit size where
  data : List Byte
  length_eq : data.length = (count + 7) / 8

/-- Values for consecutive registers of a table of the given size. -/
@[ext]
structure RegisterWrite (limit size : ℕ) where
  start : ℕ
  values : List Word
  positive : 1 ≤ values.length
  le_limit : values.length ≤ limit
  fits : start + values.length ≤ size

/-- Consecutive registers of one virtual file. -/
structure FileSpan where
  file : ℕ
  start : ℕ
  count : ℕ
  file_lt : file < fileCount
  positive : 1 ≤ count
  fits : start + count ≤ fileSizeRegs

/-- One sub-request of a file write. -/
structure FileWrite where
  span : FileSpan
  values : List Word
  length_eq : values.length = span.count

/-- The identification objects a device identification read asks for. -/
structure DeviceIdRead where
  code : Byte
  firstObj : ℕ
  lastObj : ℕ
  ordered : firstObj ≤ lastObj
  known : lastObj ≤ 2

/-- What a PDU asks for. A file write may be refused after some of its
sub-requests, which are then still carried out. -/
inductive Request (cfg : Config)
  | readCoils (span : Span maxReadCoils cfg.maxCoils)
  | readDiscreteInputs (span : Span maxReadCoils cfg.maxCoils)
  | readHoldingRegisters (span : Span maxReadRegisters cfg.maxRegisters)
  | readInputRegisters (span : Span maxReadRegisters cfg.maxRegisters)
  | writeSingleCoil (addr : Fin cfg.maxCoils) (on : Bool)
  | writeSingleRegister (addr : Fin cfg.maxRegisters) (value : Word)
  | readExceptionStatus
  | writeMultipleCoils (write : CoilWrite maxWriteCoils cfg.maxCoils)
  | writeMultipleRegisters (write : RegisterWrite maxWriteRegisters cfg.maxRegisters)
  | readFileRecord (spans : List FileSpan)
  | writeFileRecord (writes : List FileWrite) (refused : Option ExceptionCode)
  | maskWriteRegister (addr : Fin cfg.maxRegisters) (andMask orMask : Word)
  | readWriteMultipleRegs (read : Span 0x007D cfg.maxRegisters)
      (write : RegisterWrite 0x0079 cfg.maxRegisters)
  | readFifoQueue (queue : Fin fifoCount)
  | readDeviceId (read : DeviceIdRead)

/-! ## Checks -/

/-- A start address and a quantity name elements of a table. -/
def parseSpan (limit size : ℕ) (start quantity : Word) : Except ExceptionCode (Span limit size) :=
  if hcount : 1 ≤ quantity.toNat ∧ quantity.toNat ≤ limit then
    if hfits : start.toNat + quantity.toNat ≤ size then
      .ok ⟨start.toNat, quantity.toNat, hcount.1, hcount.2, hfits⟩
    else .error .illegalDataAddress
  else .error .illegalDataValue

/-- A range that is parsed is the one that was asked for. -/
theorem parseSpan_eq_ok {limit size : ℕ} {start quantity : Word} {span : Span limit size}
    (h : parseSpan limit size start quantity = .ok span) :
    span.start = start.toNat ∧ span.count = quantity.toNat := by
  unfold parseSpan at h
  split_ifs at h
  obtain rfl := Except.ok.inj h
  exact ⟨rfl, rfl⟩

/-- A read of a range of a table. -/
def parseRead (limit size : ℕ) (rx : List Byte) : Except ExceptionCode (Span limit size) :=
  if rx.length ≠ 5 then .error .illegalDataValue
  else parseSpan limit size (wordAt rx 1) (wordAt rx 3)

/-- One element of a table. -/
def parseAddr (size : ℕ) (start : Word) : Except ExceptionCode (Fin size) :=
  if h : start.toNat < size then .ok ⟨start.toNat, h⟩ else .error .illegalDataAddress

/-- An element that is parsed is the one that was asked for. -/
theorem parseAddr_eq_ok {size : ℕ} {start : Word} {addr : Fin size}
    (h : parseAddr size start = .ok addr) : (addr : ℕ) = start.toNat := by
  unfold parseAddr at h
  split_ifs at h
  obtain rfl := Except.ok.inj h
  rfl

variable (cfg : Config)

/-- `MODBUS_FC_WRITE_SINGLE_COIL`. -/
def parseWriteSingleCoil (rx : List Byte) : Except ExceptionCode (Request cfg) :=
  if rx.length ≠ 5 then .error .illegalDataValue
  else if wordAt rx 3 ≠ 0xFF00 ∧ wordAt rx 3 ≠ 0x0000 then .error .illegalDataValue
  else do
    let addr ← parseAddr cfg.maxCoils (wordAt rx 1)
    pure (.writeSingleCoil addr (wordAt rx 3 = 0xFF00))

/-- `MODBUS_FC_WRITE_SINGLE_REGISTER`. -/
def parseWriteSingleRegister (rx : List Byte) : Except ExceptionCode (Request cfg) :=
  if rx.length ≠ 5 then .error .illegalDataValue
  else do
    let addr ← parseAddr cfg.maxRegisters (wordAt rx 1)
    pure (.writeSingleRegister addr (wordAt rx 3))

/-- `MODBUS_FC_WRITE_MULTIPLE_COILS`. -/
def parseWriteMultipleCoils (rx : List Byte) : Except ExceptionCode (Request cfg) :=
  if rx.length < 6 then .error .illegalDataValue
  else do
    let span ← parseSpan maxWriteCoils cfg.maxCoils (wordAt rx 1) (wordAt rx 3)
    let byteCount := (byteAt rx 5).toNat
    if hdata : byteCount = (span.count + 7) / 8 ∧ rx.length = 6 + byteCount then
      pure (.writeMultipleCoils
        { toSpan := span
          data := rx.drop 6
          length_eq := by rw [List.length_drop]; omega })
    else .error .illegalDataValue

/-- `MODBUS_FC_WRITE_MULTIPLE_REGISTERS`. -/
def parseWriteMultipleRegisters (rx : List Byte) : Except ExceptionCode (Request cfg) :=
  if rx.length < 6 then .error .illegalDataValue
  else do
    let span ← parseSpan maxWriteRegisters cfg.maxRegisters (wordAt rx 1) (wordAt rx 3)
    let byteCount := (byteAt rx 5).toNat
    if byteCount = span.count * 2 ∧ rx.length = 6 + byteCount then
      pure (.writeMultipleRegisters
        { start := span.start
          values := wordsAt rx 6 span.count
          positive := by rw [length_wordsAt]; exact span.positive
          le_limit := by rw [length_wordsAt]; exact span.le_limit
          fits := by rw [length_wordsAt]; exact span.fits })
    else .error .illegalDataValue

/-- `MODBUS_FC_MASK_WRITE_REGISTER`. -/
def parseMaskWriteRegister (rx : List Byte) : Except ExceptionCode (Request cfg) :=
  if rx.length ≠ 7 then .error .illegalDataValue
  else do
    let addr ← parseAddr cfg.maxRegisters (wordAt rx 1)
    pure (.maskWriteRegister addr (wordAt rx 3) (wordAt rx 5))

/-- `MODBUS_FC_READ_WRITE_MULTIPLE_REGS`: both quantities are checked before
either address. -/
def parseReadWriteMultipleRegs (rx : List Byte) : Except ExceptionCode (Request cfg) :=
  let readQty := (wordAt rx 3).toNat
  let writeQty := (wordAt rx 7).toNat
  if rx.length < 10 then .error .illegalDataValue
  else if hqty : (1 ≤ readQty ∧ readQty ≤ 0x007D) ∧ (1 ≤ writeQty ∧ writeQty ≤ 0x0079) ∧
      (byteAt rx 9).toNat = writeQty * 2 ∧ rx.length = 10 + (byteAt rx 9).toNat then
    if haddr : (wordAt rx 1).toNat + readQty ≤ cfg.maxRegisters ∧
        (wordAt rx 5).toNat + writeQty ≤ cfg.maxRegisters then
      .ok (.readWriteMultipleRegs
        ⟨(wordAt rx 1).toNat, readQty, hqty.1.1, hqty.1.2, haddr.1⟩
        { start := (wordAt rx 5).toNat
          values := wordsAt rx 10 writeQty
          positive := by rw [length_wordsAt]; exact hqty.2.1.1
          le_limit := by rw [length_wordsAt]; exact hqty.2.1.2
          fits := by rw [length_wordsAt]; exact haddr.2 })
    else .error .illegalDataAddress
  else .error .illegalDataValue

/-- The file, record number and record length of a sub-request at an index. -/
def parseFileSpan (rx : List Byte) (off : ℕ) : Except ExceptionCode FileSpan :=
  let fileNumber := (wordAt rx (off + 1)).toNat
  let recordNumber := (wordAt rx (off + 3)).toNat
  let recordLength := (wordAt rx (off + 5)).toNat
  if hvalue : byteAt rx off = fileRefType ∧ 1 ≤ recordLength then
    if haddr : (1 ≤ fileNumber ∧ fileNumber ≤ fileCount) ∧
        recordNumber + recordLength ≤ fileSizeRegs then
      .ok ⟨fileNumber - 1, recordNumber, recordLength, by omega, hvalue.2, haddr.2⟩
    else .error .illegalDataAddress
  else .error .illegalDataValue

/-- The sub-requests of a file read, `n` of them from sub-request `s`, with the
response `out` bytes long so far. -/
def parseFileReads (rx : List Byte) : ℕ → ℕ → ℕ → Except ExceptionCode (List FileSpan)
  | 0, _, _ => .ok []
  | n + 1, s, out => do
      let span ← parseFileSpan rx (2 + s * 7)
      if out + (2 + span.count * 2) > 253 then .error .illegalDataValue
      else
        let spans ← parseFileReads rx n (s + 1) (out + 2 + span.count * 2)
        pure (span :: spans)

/-- `MODBUS_FC_READ_FILE_RECORD`. -/
def parseReadFileRecord (rx : List Byte) : Except ExceptionCode (Request cfg) :=
  let byteCount := (byteAt rx 1).toNat
  if rx.length < 2 then .error .illegalDataValue
  else if 0x07 ≤ byteCount ∧ byteCount ≤ 0xF5 ∧ byteCount % 7 = 0 ∧ rx.length = 2 + byteCount then
    .readFileRecord <$> parseFileReads rx (byteCount / 7) 0 2
  else .error .illegalDataValue

/-- The sub-request of a file write at an index. -/
def parseFileWrite (rx : List Byte) (pos : ℕ) : Except ExceptionCode FileWrite :=
  if rx.length < pos + 7 then .error .illegalDataValue
  else do
    let span ← parseFileSpan rx pos
    if rx.length < pos + 7 + span.count * 2 then .error .illegalDataValue
    else pure ⟨span, wordsAt rx (pos + 7) span.count, length_wordsAt _ _ _⟩

/-- The sub-requests of a file write from an index on, up to the first that is
refused, at most `bound` of them. -/
def parseFileWrites (rx : List Byte) : ℕ → ℕ → List FileWrite × Option ExceptionCode
  | 0, _ => ([], none)
  | bound + 1, pos =>
      if pos < rx.length then
        match parseFileWrite rx pos with
        | .error e => ([], some e)
        | .ok write =>
            let rest := parseFileWrites rx bound (pos + 7 + write.span.count * 2)
            (write :: rest.1, rest.2)
      else ([], none)

/-- `MODBUS_FC_WRITE_FILE_RECORD`: each sub-request takes at least nine bytes, so
the length of the request bounds their number. -/
def parseWriteFileRecord (rx : List Byte) : Except ExceptionCode (Request cfg) :=
  let byteCount := (byteAt rx 1).toNat
  if rx.length < 2 then .error .illegalDataValue
  else if 0x09 ≤ byteCount ∧ byteCount ≤ 0xFB ∧ rx.length = 2 + byteCount then
    let writes := parseFileWrites rx rx.length 2
    .ok (.writeFileRecord writes.1 writes.2)
  else .error .illegalDataValue

/-- `MODBUS_FC_READ_FIFO_QUEUE`. -/
def parseReadFifoQueue (rx : List Byte) : Except ExceptionCode (Request cfg) :=
  if rx.length ≠ 3 then .error .illegalDataValue
  else .readFifoQueue <$> parseAddr fifoCount (wordAt rx 1)

/-- `MODBUS_FC_ENCAPSULATED_INTERFACE`: an individual access names one object, a
stream access runs to the last one. -/
def parseReadDeviceId (rx : List Byte) : Except ExceptionCode (Request cfg) :=
  let readDevId := byteAt rx 2
  let objectId := (byteAt rx 3).toNat
  if rx.length < 4 then .error .illegalDataValue
  else if byteAt rx 1 ≠ 0x0E then .error .illegalFunction
  else if readDevId ≠ 0x01 ∧ readDevId ≠ 0x02 ∧ readDevId ≠ 0x03 ∧ readDevId ≠ 0x04 then
    .error .illegalDataValue
  else if hobject : objectId ≤ 2 then
    if readDevId = 0x04 then
      .ok (.readDeviceId ⟨readDevId, objectId, objectId, Nat.le_refl _, hobject⟩)
    else .ok (.readDeviceId ⟨readDevId, objectId, 2, hobject, Nat.le_refl _⟩)
  else if readDevId = 0x04 then .error .illegalDataAddress
  else .ok (.readDeviceId ⟨readDevId, 0, 2, by decide, Nat.le_refl _⟩)

/-- What a PDU asks for, or the exception it is answered with. -/
def parseRequest (rx : List Byte) : Except ExceptionCode (Request cfg) :=
  match FunctionCode.ofByte (byteAt rx 0) with
  | some .readCoils => .readCoils <$> parseRead maxReadCoils cfg.maxCoils rx
  | some .readDiscreteInputs => .readDiscreteInputs <$> parseRead maxReadCoils cfg.maxCoils rx
  | some .readHoldingRegisters =>
      .readHoldingRegisters <$> parseRead maxReadRegisters cfg.maxRegisters rx
  | some .readInputRegisters =>
      .readInputRegisters <$> parseRead maxReadRegisters cfg.maxRegisters rx
  | some .writeSingleCoil => parseWriteSingleCoil cfg rx
  | some .writeSingleRegister => parseWriteSingleRegister cfg rx
  | some .writeMultipleCoils => parseWriteMultipleCoils cfg rx
  | some .writeMultipleRegisters => parseWriteMultipleRegisters cfg rx
  | some .readExceptionStatus =>
      if rx.length ≠ 1 then .error .illegalDataValue else .ok .readExceptionStatus
  | some .readFileRecord => parseReadFileRecord cfg rx
  | some .writeFileRecord => parseWriteFileRecord cfg rx
  | some .maskWriteRegister => parseMaskWriteRegister cfg rx
  | some .readFifoQueue => parseReadFifoQueue cfg rx
  | some .readWriteMultipleRegs => parseReadWriteMultipleRegs cfg rx
  | some .encapsulatedInterface => parseReadDeviceId cfg rx
  | _ => .error .illegalFunction

end AutomationBoard.Modbus
