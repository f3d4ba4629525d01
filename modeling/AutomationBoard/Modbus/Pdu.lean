/-
# The PDU dispatcher

`modbus_pdu_process` branch by branch. A handler is entered with its function
code in `tx_pdu[0]` and returns `pdu_len`. The order of the checks, the widths
of the locals and the order of the writes are those of the source; every read of
the request, every write of the response and every unchecked table index is a
checked access.
-/

import AutomationBoard.Modbus.Exchange
import AutomationBoard.Modbus.Sync

namespace AutomationBoard.Modbus

open AutomationBoard.Program

/-! ## Limits and strings -/

def maxReadCoils : ℕ := 2000
def maxReadRegisters : ℕ := 125
def maxWriteCoils : ℕ := 1968
def maxWriteRegisters : ℕ := 123

/-- `MODBUS_FILE_REF_TYPE`. -/
def fileRefType : Byte := 0x06

/-- The bytes of a string literal. -/
def ascii (s : String) : List Byte := s.toList.map fun c => BitVec.ofNat 8 c.toNat

def modbusDevidVendor : List Byte := ascii "xAI"
def modbusDevidProduct : List Byte := ascii "STM32 Automation Board"
def modbusDevidVersion : List Byte := ascii "1.0.0"

/-- `modbus_devid_object_str`: the first 64 bytes of the object's string. -/
def modbusDevidObjectStr (objectId : ℕ) : Option (List Byte) :=
  match objectId with
  | 0x00 => some (modbusDevidVendor.take 64)
  | 0x01 => some (modbusDevidProduct.take 64)
  | 0x02 => some (modbusDevidVersion.take 64)
  | _ => none

/-- `modbus_broadcast_function_supported`. -/
def modbusBroadcastFunctionSupported (functionCode : Byte) : Bool :=
  functionCode = FunctionCode.writeSingleCoil.code ||
  functionCode = FunctionCode.writeSingleRegister.code ||
  functionCode = FunctionCode.writeMultipleCoils.code ||
  functionCode = FunctionCode.writeMultipleRegisters.code ||
  functionCode = FunctionCode.writeFileRecord.code ||
  functionCode = FunctionCode.maskWriteRegister.code ||
  functionCode = FunctionCode.readWriteMultipleRegs.code

variable (cfg : Config)

/-! ## Reads -/

/-- `MODBUS_FC_READ_COILS` and `MODBUS_FC_READ_DISCRETE_INPUTS`. -/
def readBits (rx : List Byte) (fc : FunctionCode) (startAddr quantity : Word) :
    PduM (PduEnv cfg) ℕ :=
  if rx.length ≠ 5 then modbusExceptionResponse fc.code .illegalDataValue
  else if quantity.toNat < 1 ∨ quantity.toNat > maxReadCoils then
    modbusExceptionResponse fc.code .illegalDataValue
  else if ¬ modbusAddressRangeValid startAddr.toNat quantity.toNat cfg.maxCoils then
    modbusExceptionResponse fc.code .illegalDataAddress
  else do
    if fc = .readDiscreteInputs then onEnv (onStore (modify (mirrorDiscreteInputs cfg)))
    let byteCount := uint8 ((quantity.toNat + 7) / 8)
    txSet 1 (BitVec.ofNat 8 byteCount)
    forRange byteCount fun i => do
      let val ← forBreak 8 0 (0#8) fun b val => do
        let addr := uint16 (startAddr.toNat + i * 8 + b)
        let s ← get
        if b + i * 8 ≥ quantity.toNat then pure (.done val)
        else if fc = .readCoils then
          let bit := modbusBitRead cfg s.env.store.coilBits (uint16 (cfg.coilOffset + addr))
          pure (.yield (val ||| bit <<< b))
        else
          let bit := modbusBitRead cfg s.env.store.discreteBits
            (uint16 (cfg.discreteInputOffset + addr))
          pure (.yield (val ||| bit <<< b))
      txSet (2 + i) val
    pure (2 + byteCount)

/-- `MODBUS_FC_READ_HOLDING_REGISTERS` and `MODBUS_FC_READ_INPUT_REGISTERS`. -/
def readRegisters (rx : List Byte) (fc : FunctionCode) (startAddr quantity : Word) :
    PduM (PduEnv cfg) ℕ :=
  if rx.length ≠ 5 then modbusExceptionResponse fc.code .illegalDataValue
  else if quantity.toNat < 1 ∨ quantity.toNat > maxReadRegisters then
    modbusExceptionResponse fc.code .illegalDataValue
  else if ¬ modbusAddressRangeValid startAddr.toNat quantity.toNat cfg.maxRegisters then
    modbusExceptionResponse fc.code .illegalDataAddress
  else do
    if fc = .readInputRegisters then onEnv (onStore (mirrorAnalogInputs cfg))
    let byteCount := uint8 (quantity.toNat * 2)
    txSet 1 (BitVec.ofNat 8 byteCount)
    forRange quantity.toNat fun i => do
      let val ← onEnv (onStore (
        if fc = .readHoldingRegisters then holdingReg cfg (cfg.holdingRegOffset + startAddr.toNat + i)
        else inputReg cfg (cfg.inputRegOffset + startAddr.toNat + i)))
      txSet (2 + i * 2) (hiByte val)
      txSet (2 + i * 2 + 1) (loByte val)
    pure (2 + byteCount)

/-- `MODBUS_FC_READ_EXCEPTION_STATUS`. -/
def readExceptionStatus (rx : List Byte) (fc : FunctionCode) : PduM (PduEnv cfg) ℕ :=
  if rx.length ≠ 1 then modbusExceptionResponse fc.code .illegalDataValue
  else do
    onEnv (onStore (modify (mirrorDiscreteInputs cfg)))
    let s ← get
    let status := (List.range 8).foldl (fun (status : Byte) i =>
      if modbusBitRead cfg s.env.store.discreteBits (uint16 (cfg.discreteInputOffset + i)) ≠ 0 then
        status ||| 1#8 <<< i
      else status) 0
    txSet 0 fc.code
    txSet 1 status
    pure 2

/-! ## Writes -/

/-- `tx_pdu[1..4] = rx_pdu[1..4]`. -/
def echoFields {σ : Type} (rx : List Byte) : PduM σ PUnit := do
  txSet 1 (← rxByte rx 1)
  txSet 2 (← rxByte rx 2)
  txSet 3 (← rxByte rx 3)
  txSet 4 (← rxByte rx 4)

/-- `tx_pdu[i] = rx_pdu[i]` for `i < n`. -/
def echoRequest {σ : Type} (rx : List Byte) (n : ℕ) : PduM σ PUnit :=
  forRange n fun i => do txSet i (← rxByte rx i)

variable {cfg}

/-- Replace one coil. -/
def writeCoilAt (addr : ℕ) (value : Byte) : Checked Fault (PduEnv cfg) PUnit :=
  onStore (modify fun s => { s with coilBits := modbusBitWrite cfg s.coilBits addr value })

/-- `modbus_regs_write` on the holding registers. -/
def writeHoldingAt (addr : ℕ) (value : Word) : Checked Fault (PduEnv cfg) PUnit :=
  onStore (modify fun s => { s with holdingRegs := modbusRegsWrite cfg s.holdingRegs addr value })

variable (hooks : SyncHooks cfg)

/-- `MODBUS_FC_WRITE_SINGLE_COIL`. -/
def writeSingleCoil (rx : List Byte) (fc : FunctionCode) (startAddr quantity : Word) :
    PduM (PduEnv cfg) ℕ :=
  if rx.length ≠ 5 then modbusExceptionResponse fc.code .illegalDataValue
  else if quantity ≠ 0xFF00 ∧ quantity ≠ 0x0000 then
    modbusExceptionResponse fc.code .illegalDataValue
  else if ¬ modbusAddressRangeValid startAddr.toNat 1 cfg.maxCoils then
    modbusExceptionResponse fc.code .illegalDataAddress
  else do
    let coilVal : Byte := if quantity = 0xFF00 then 1 else 0
    onEnv (writeCoilAt (uint16 (cfg.coilOffset + startAddr.toNat)) coilVal)
    onEnv (modbusSyncRegisters hooks)
    echoFields rx
    pure 5

/-- `MODBUS_FC_WRITE_SINGLE_REGISTER`. -/
def writeSingleRegister (rx : List Byte) (fc : FunctionCode) (startAddr quantity : Word) :
    PduM (PduEnv cfg) ℕ :=
  if rx.length ≠ 5 then modbusExceptionResponse fc.code .illegalDataValue
  else if ¬ modbusAddressRangeValid startAddr.toNat 1 cfg.maxRegisters then
    modbusExceptionResponse fc.code .illegalDataAddress
  else do
    let regVal := quantity
    onEnv (writeHoldingAt (uint16 (cfg.holdingRegOffset + startAddr.toNat)) regVal)
    onEnv (modbusSyncRegisters hooks)
    echoFields rx
    pure 5

/-- `MODBUS_FC_WRITE_MULTIPLE_COILS`. -/
def writeMultipleCoils (rx : List Byte) (fc : FunctionCode) (startAddr quantity : Word) :
    PduM (PduEnv cfg) ℕ :=
  if rx.length < 6 then modbusExceptionResponse fc.code .illegalDataValue
  else if quantity.toNat < 1 ∨ quantity.toNat > maxWriteCoils then
    modbusExceptionResponse fc.code .illegalDataValue
  else if ¬ modbusAddressRangeValid startAddr.toNat quantity.toNat cfg.maxCoils then
    modbusExceptionResponse fc.code .illegalDataAddress
  else do
    let byteCount ← rxByte rx 5
    let expectedBytes := uint8 ((quantity.toNat + 7) / 8)
    if byteCount.toNat ≠ expectedBytes ∨ rx.length ≠ uint16 (6 + byteCount.toNat) then
      modbusExceptionResponse fc.code .illegalDataValue
    else do
      forRange quantity.toNat fun i => do
        let val := ((← rxByte rx (6 + i / 8)) >>> (i % 8)) &&& 0x01
        onEnv (writeCoilAt (uint16 (cfg.coilOffset + startAddr.toNat + i)) val)
      onEnv (modbusSyncRegisters hooks)
      echoFields rx
      pure 5

/-- The loop that stores `n` registers of the request, from `rx_pdu[base]`, at
consecutive addresses. -/
def storeRegisters (rx : List Byte) (base addr n : ℕ) : PduM (PduEnv cfg) PUnit :=
  forRange n fun i => do
    let val ← rxWord rx (base + i * 2)
    onEnv (writeHoldingAt (uint16 (addr + i)) val)

/-- `MODBUS_FC_WRITE_MULTIPLE_REGISTERS`. -/
def writeMultipleRegisters (rx : List Byte) (fc : FunctionCode) (startAddr quantity : Word) :
    PduM (PduEnv cfg) ℕ :=
  if rx.length < 6 then modbusExceptionResponse fc.code .illegalDataValue
  else if quantity.toNat < 1 ∨ quantity.toNat > maxWriteRegisters then
    modbusExceptionResponse fc.code .illegalDataValue
  else if ¬ modbusAddressRangeValid startAddr.toNat quantity.toNat cfg.maxRegisters then
    modbusExceptionResponse fc.code .illegalDataAddress
  else do
    let byteCount ← rxByte rx 5
    if byteCount.toNat ≠ quantity.toNat * 2 ∨ rx.length ≠ uint16 (6 + byteCount.toNat) then
      modbusExceptionResponse fc.code .illegalDataValue
    else do
      storeRegisters rx 6 (cfg.holdingRegOffset + startAddr.toNat) quantity.toNat
      onEnv (modbusSyncRegisters hooks)
      echoFields rx
      pure 5

/-- `MODBUS_FC_MASK_WRITE_REGISTER`. -/
def maskWriteRegister (rx : List Byte) (fc : FunctionCode) (startAddr : Word) :
    PduM (PduEnv cfg) ℕ :=
  if rx.length ≠ 7 then modbusExceptionResponse fc.code .illegalDataValue
  else do
    let andMask ← rxWord rx 3
    let orMask ← rxWord rx 5
    if ¬ modbusAddressRangeValid startAddr.toNat 1 cfg.maxRegisters then
      modbusExceptionResponse fc.code .illegalDataAddress
    else do
      let cur ← onEnv (onStore (holdingReg cfg (cfg.holdingRegOffset + startAddr.toNat)))
      let result := cur &&& andMask ||| orMask &&& ~~~andMask
      onEnv (writeHoldingAt (uint16 (cfg.holdingRegOffset + startAddr.toNat)) result)
      onEnv (modbusSyncRegisters hooks)
      echoRequest rx 7
      pure 7

/-- `MODBUS_FC_READ_WRITE_MULTIPLE_REGS`. -/
def readWriteMultipleRegs (rx : List Byte) (fc : FunctionCode) : PduM (PduEnv cfg) ℕ :=
  if rx.length < 10 then modbusExceptionResponse fc.code .illegalDataValue
  else do
    let readStart ← rxWord rx 1
    let readQty ← rxWord rx 3
    let writeStart ← rxWord rx 5
    let writeQty ← rxWord rx 7
    let writeBc ← rxByte rx 9
    if readQty.toNat < 1 ∨ readQty.toNat > 0x007D ∨
        writeQty.toNat < 1 ∨ writeQty.toNat > 0x0079 ∨
        writeBc.toNat ≠ uint8 (writeQty.toNat * 2) ∨
        rx.length ≠ uint16 (10 + writeBc.toNat) then
      modbusExceptionResponse fc.code .illegalDataValue
    else if ¬ modbusAddressRangeValid readStart.toNat readQty.toNat cfg.maxRegisters ∨
        ¬ modbusAddressRangeValid writeStart.toNat writeQty.toNat cfg.maxRegisters then
      modbusExceptionResponse fc.code .illegalDataAddress
    else do
      -- the write comes first, so the read sees it where the ranges overlap
      storeRegisters rx 10 (cfg.holdingRegOffset + writeStart.toNat) writeQty.toNat
      onEnv (modbusSyncRegisters hooks)
      txSet 0 fc.code
      txSet 1 (BitVec.ofNat 8 (readQty.toNat * 2))
      forRange readQty.toNat fun i => do
        let val ← onEnv (onStore (holdingReg cfg (cfg.holdingRegOffset + readStart.toNat + i)))
        txSet (2 + i * 2) (hiByte val)
        txSet (2 + i * 2 + 1) (loByte val)
      pure (2 + readQty.toNat * 2)

/-! ## Files, queues and identification -/

/-- `file_store[file][record]`. -/
def fileReg (file record : ℕ) : Checked Fault (PduEnv cfg) Word := onStore do
  let s ← get
  let regs ← orFault s.fileStore[file]? (.outOfBounds .fileStore file)
  orFault regs[record]? (.outOfBounds .fileStore record)

/-- `file_store[file][record] = value`. -/
def setFileReg (file record : ℕ) (value : Word) : Checked Fault (PduEnv cfg) PUnit := onStore do
  let s ← get
  if hfile : file < fileCount then
    if hrecord : record < fileSizeRegs then
      set { s with fileStore := s.fileStore.set file (s.fileStore[file].set record value) }
    else throw (.outOfBounds .fileStore record)
  else throw (.outOfBounds .fileStore file)

/-- The locals of the file record loops: `out` or `pos`, `pdu_len` and `ok`. -/
structure FileLocals where
  pos : ℕ
  pduLen : ℕ
  ok : Bool

/-- Leave a file record loop with an exception response. -/
def failFile {σ : Type} (fc : FunctionCode) (exceptionCode : ExceptionCode) (l : FileLocals) :
    PduM σ (ForInStep FileLocals) := do
  let pduLen ← modbusExceptionResponse fc.code exceptionCode
  pure (.done { l with pduLen := pduLen, ok := false })

variable (cfg)

/-- Sub-request `s` of `MODBUS_FC_READ_FILE_RECORD`; `l.pos` is `out`. -/
def readFileSubRequest (rx : List Byte) (fc : FunctionCode) (s : ℕ) (l : FileLocals) :
    PduM (PduEnv cfg) (ForInStep FileLocals) := do
  let off := uint16 (2 + s * 7)
  let refType ← rxByte rx off
  let fileNumber ← rxWord rx (off + 1)
  let recordNumber ← rxWord rx (off + 3)
  let recordLength ← rxWord rx (off + 5)
  if refType ≠ fileRefType ∨ recordLength.toNat < 1 then failFile fc .illegalDataValue l
  else if recordNumber.toNat > 0x270F ∨ ¬ modbusFileIndexValid fileNumber.toNat ∨
      ¬ modbusFileRangeValid recordNumber.toNat recordLength.toNat then
    failFile fc .illegalDataAddress l
  else
    let need := uint16 (1 + 1 + recordLength.toNat * 2)
    if l.pos + need > 253 then failFile fc .illegalDataValue l
    else do
      let fileIdx := uint8 (fileNumber.toNat - 1)
      txSet l.pos (BitVec.ofNat 8 (1 + recordLength.toNat * 2))
      txSet (l.pos + 1) fileRefType
      forRange recordLength.toNat fun r => do
        let val ← onEnv (fileReg fileIdx (recordNumber.toNat + r))
        txSet (l.pos + 2 + r * 2) (hiByte val)
        txSet (l.pos + 2 + r * 2 + 1) (loByte val)
      pure (.yield { l with pos := l.pos + 2 + recordLength.toNat * 2 })

/-- `MODBUS_FC_READ_FILE_RECORD`. -/
def readFileRecord (rx : List Byte) (fc : FunctionCode) : PduM (PduEnv cfg) ℕ :=
  if rx.length < 2 then modbusExceptionResponse fc.code .illegalDataValue
  else do
    let reqByteCount ← rxByte rx 1
    if reqByteCount.toNat < 0x07 ∨ reqByteCount.toNat > 0xF5 ∨ reqByteCount.toNat % 7 ≠ 0 ∨
        rx.length ≠ uint16 (2 + reqByteCount.toNat) then
      modbusExceptionResponse fc.code .illegalDataValue
    else do
      let l ← forBreak (uint8 (reqByteCount.toNat / 7)) 0 (⟨2, 1, true⟩ : FileLocals)
        (readFileSubRequest cfg rx fc)
      if l.ok then do
        txSet 0 fc.code
        txSet 1 (BitVec.ofNat 8 (l.pos - 2))
        pure l.pos
      else pure l.pduLen

/-- One sub-request of `MODBUS_FC_WRITE_FILE_RECORD`, stored as soon as its own
checks pass. -/
def writeFileSubRequest (rx : List Byte) (fc : FunctionCode) (reqByteCount : ℕ) (l : FileLocals) :
    PduM (PduEnv cfg) (ForInStep FileLocals) :=
  if uint16 (2 + reqByteCount - l.pos) < 7 then failFile fc .illegalDataValue l
  else do
    let refType ← rxByte rx l.pos
    let fileNumber ← rxWord rx (l.pos + 1)
    let recordNumber ← rxWord rx (l.pos + 3)
    let recordLength ← rxWord rx (l.pos + 5)
    if refType ≠ fileRefType ∨ recordLength.toNat < 1 then failFile fc .illegalDataValue l
    else if recordNumber.toNat > 0x270F ∨ ¬ modbusFileIndexValid fileNumber.toNat ∨
        ¬ modbusFileRangeValid recordNumber.toNat recordLength.toNat then
      failFile fc .illegalDataAddress l
    else
      let dataBytes := uint16 (recordLength.toNat * 2)
      if uint16 (l.pos + 7 + dataBytes) > uint16 (2 + reqByteCount) then
        failFile fc .illegalDataValue l
      else do
        let fileIdx := uint8 (fileNumber.toNat - 1)
        forRange recordLength.toNat fun r => do
          let val ← rxWord rx (l.pos + 7 + r * 2)
          onEnv (setFileReg fileIdx (recordNumber.toNat + r) val)
        pure (.yield { l with pos := uint16 (l.pos + 7 + dataBytes) })

/-- `MODBUS_FC_WRITE_FILE_RECORD`. The length of the request bounds the number of
passes through the loop. -/
def writeFileRecord (rx : List Byte) (fc : FunctionCode) : PduM (PduEnv cfg) ℕ :=
  if rx.length < 2 then modbusExceptionResponse fc.code .illegalDataValue
  else do
    let reqByteCount ← rxByte rx 1
    if reqByteCount.toNat < 0x09 ∨ reqByteCount.toNat > 0xFB ∨
        rx.length ≠ uint16 (2 + reqByteCount.toNat) then
      modbusExceptionResponse fc.code .illegalDataValue
    else do
      let l ← whileLoop .diverged rx.length (⟨2, 1, true⟩ : FileLocals)
        (fun l => l.pos < uint16 (2 + reqByteCount.toNat) && l.ok)
        (writeFileSubRequest cfg rx fc reqByteCount.toNat)
      if l.ok then do
        echoRequest rx rx.length
        pure rx.length
      else pure l.pduLen

/-- `fifo_len[addr]`. -/
def fifoLen (addr : ℕ) : Checked Fault (PduEnv cfg) ℕ := onStore do
  let s ← get
  let queue ← orFault s.fifos[addr]? (.outOfBounds .fifoStore addr)
  pure queue.len

/-- `fifo_store[addr][i]`. -/
def fifoReg (addr i : ℕ) : Checked Fault (PduEnv cfg) Word := onStore do
  let s ← get
  let queue ← orFault s.fifos[addr]? (.outOfBounds .fifoStore addr)
  orFault queue.store[i]? (.outOfBounds .fifoStore i)

/-- `MODBUS_FC_READ_FIFO_QUEUE`. -/
def readFifoQueue (rx : List Byte) (fc : FunctionCode) : PduM (PduEnv cfg) ℕ :=
  if rx.length ≠ 3 then modbusExceptionResponse fc.code .illegalDataValue
  else do
    let fifoAddr ← rxWord rx 1
    if fifoAddr.toNat ≥ fifoCount then modbusExceptionResponse fc.code .illegalDataAddress
    else do
      let count ← onEnv (fifoLen cfg fifoAddr.toNat)
      txSet 0 fc.code
      txSet 1 0x00
      txSet 2 (BitVec.ofNat 8 (2 + 2 * count))
      txSet 3 0x00
      txSet 4 (BitVec.ofNat 8 count)
      forRange count fun i => do
        let val ← onEnv (fifoReg cfg fifoAddr.toNat i)
        txSet (5 + i * 2) (hiByte val)
        txSet (5 + i * 2 + 1) (loByte val)
      pure (5 + 2 * count)

/-- Object `oid` of a device identification; `l.pos` is `out`. -/
def putDeviceIdObject {σ : Type} (fc : FunctionCode) (oid : ℕ) (l : FileLocals) :
    PduM σ (ForInStep FileLocals) :=
  match modbusDevidObjectStr oid with
  | none => failFile fc .slaveDeviceFailure l
  | some s =>
      if l.pos + 2 + s.length > 253 then failFile fc .slaveDeviceFailure l
      else do
        txSet l.pos (BitVec.ofNat 8 oid)
        txSet (l.pos + 1) (BitVec.ofNat 8 s.length)
        forRange s.length fun k => txSet (l.pos + 2 + k) (s.getD k 0)
        pure (.yield { l with pos := l.pos + 2 + s.length })

/-- `MODBUS_FC_ENCAPSULATED_INTERFACE`. -/
def encapsulatedInterface {σ : Type} (rx : List Byte) (fc : FunctionCode) : PduM σ ℕ :=
  if rx.length < 4 then modbusExceptionResponse fc.code .illegalDataValue
  else do
    let meiType ← rxByte rx 1
    let readDevId ← rxByte rx 2
    let objectId ← rxByte rx 3
    if meiType ≠ 0x0E then modbusExceptionResponse fc.code .illegalFunction
    else if readDevId ≠ 0x01 ∧ readDevId ≠ 0x02 ∧ readDevId ≠ 0x03 ∧ readDevId ≠ 0x04 then
      modbusExceptionResponse fc.code .illegalDataValue
    else if readDevId = 0x04 ∧ objectId.toNat > 2 then
      modbusExceptionResponse fc.code .illegalDataAddress
    else do
      let firstObj :=
        if readDevId = 0x04 then objectId.toNat
        else if objectId.toNat ≤ 2 then objectId.toNat else 0
      let lastObj := if readDevId = 0x04 then objectId.toNat else 2
      txSet 0 fc.code
      txSet 1 0x0E
      txSet 2 readDevId
      txSet 3 0x81
      txSet 4 0x00
      txSet 5 0x00
      txSet 6 (BitVec.ofNat 8 (lastObj - firstObj + 1))
      let l ← forBreak (lastObj + 1 - firstObj) firstObj (⟨7, 1, true⟩ : FileLocals)
        (putDeviceIdObject fc)
      if l.ok then pure l.pos else pure l.pduLen

/-! ## The dispatcher -/

variable {cfg}

/-- The `switch` of `modbus_pdu_process`, after `tx_pdu[0] = func_code`. -/
def dispatch (rx : List Byte) (funcCode : Byte) (startAddr quantity : Word) :
    PduM (PduEnv cfg) ℕ :=
  match FunctionCode.ofByte funcCode with
  | some .readCoils => readBits cfg rx .readCoils startAddr quantity
  | some .readDiscreteInputs => readBits cfg rx .readDiscreteInputs startAddr quantity
  | some .readHoldingRegisters => readRegisters cfg rx .readHoldingRegisters startAddr quantity
  | some .readInputRegisters => readRegisters cfg rx .readInputRegisters startAddr quantity
  | some .writeSingleCoil => writeSingleCoil hooks rx .writeSingleCoil startAddr quantity
  | some .writeSingleRegister =>
      writeSingleRegister hooks rx .writeSingleRegister startAddr quantity
  | some .writeMultipleCoils => writeMultipleCoils hooks rx .writeMultipleCoils startAddr quantity
  | some .writeMultipleRegisters =>
      writeMultipleRegisters hooks rx .writeMultipleRegisters startAddr quantity
  | some .readExceptionStatus => readExceptionStatus cfg rx .readExceptionStatus
  | some .readFileRecord => readFileRecord cfg rx .readFileRecord
  | some .writeFileRecord => writeFileRecord cfg rx .writeFileRecord
  | some .maskWriteRegister => maskWriteRegister hooks rx .maskWriteRegister startAddr
  | some .readFifoQueue => readFifoQueue cfg rx .readFifoQueue
  | some .readWriteMultipleRegs => readWriteMultipleRegs hooks rx .readWriteMultipleRegs
  | some .encapsulatedInterface => encapsulatedInterface rx .encapsulatedInterface
  | _ => modbusExceptionResponse funcCode .illegalFunction

/-- `start_addr` or `quantity`: a field of a PDU of five bytes or more, else zero. -/
def fieldAhead {σ : Type} (rx : List Byte) (i : ℕ) : PduM σ Word :=
  if rx.length ≥ 5 then rxWord rx i else pure 0

/-- `modbus_pdu_process`, with its status and the value it leaves in
`*tx_pdu_len`, if it sets it. -/
def modbusPduProcess (rx : List Byte) (isBroadcast : Bool) :
    PduM (PduEnv cfg) (ModbusStatus × Option ℕ) :=
  if rx.length < 1 then pure (.error, none)
  else do
    let funcCode ← rxByte rx 0
    let startAddr ← fieldAhead rx 1
    let quantity ← fieldAhead rx 3
    if isBroadcast ∧ ¬ modbusBroadcastFunctionSupported funcCode then pure (.ok, some 0)
    else do
      txSet 0 funcCode
      let pduLen ← dispatch hooks rx funcCode startAddr quantity
      pure (.ok, some (if isBroadcast then 0 else pduLen))

end AutomationBoard.Modbus
