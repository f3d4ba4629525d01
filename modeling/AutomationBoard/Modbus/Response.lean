/-
# Responses

What carrying out a request does to the store, and the PDU it is answered with.
`pduReply` is the abstract dispatcher: parse, then either one exception or the
effect and the response of the request. It has no buffer and no index that could
be wrong; the dispatcher of the code is shown to compute it.
-/

import AutomationBoard.Modbus.Request

namespace AutomationBoard.Modbus

open AutomationBoard.Math

variable {cfg : Config}

/-! ## Response PDUs -/

/-- The response to a read of `n` bits. -/
def bitsPdu (fc : FunctionCode) (f : ℕ → Bool) (n : ℕ) : List Byte :=
  fc.code :: BitVec.ofNat 8 ((n + 7) / 8) :: packBits f n

/-- The response to a read of registers. -/
def registersPdu (fc : FunctionCode) (values : List Word) : List Byte :=
  fc.code :: BitVec.ofNat 8 (values.length * 2) :: bytesOfWords values

/-! ## Values in the store -/

/-- `n` registers from a start address. -/
def regsAt {size : ℕ} (regs : Vector Word size) (start n : ℕ) : List Word :=
  (List.range n).map fun i => regAt regs (start + i)

/-- The register of a file, zero outside the files. -/
def fileAt (files : Vector (Vector Word fileSizeRegs) fileCount) (file record : ℕ) : Word :=
  match files[file]? with
  | some regs => regAt regs record
  | none => 0

/-- The registers a sub-request names. -/
def FileSpan.read (span : FileSpan) (files : Vector (Vector Word fileSizeRegs) fileCount) :
    List Word :=
  (List.range span.count).map fun r => fileAt files span.file (span.start + r)

/-- The sub-response to a file read. -/
def FileSpan.subResponse (span : FileSpan)
    (files : Vector (Vector Word fileSizeRegs) fileCount) : List Byte :=
  BitVec.ofNat 8 (1 + span.count * 2) :: fileRefType :: bytesOfWords (span.read files)

/-- The queued values, oldest first. -/
def FifoQueue.entries (queue : FifoQueue) : List Word :=
  (List.range queue.len).map fun i => regAt queue.store i

@[simp]
theorem FifoQueue.length_entries (queue : FifoQueue) : queue.entries.length = queue.len := by
  simp [entries]

theorem FifoQueue.length_entries_le_fifoDepth (queue : FifoQueue) :
    queue.entries.length ≤ fifoDepth :=
  queue.length_entries.trans_le queue.len_le

/-- The bytes of an identification object. -/
def deviceIdObject (objectId : ℕ) : List Byte := (modbusDevidObjectStr objectId).getD []

/-- An identification object with its number and length. -/
def deviceIdEntry (objectId : ℕ) : List Byte :=
  BitVec.ofNat 8 objectId :: BitVec.ofNat 8 (deviceIdObject objectId).length ::
    deviceIdObject objectId

/-- The byte of `MODBUS_FC_READ_EXCEPTION_STATUS`: the first discrete inputs. -/
def exceptionStatus (s : Store cfg) : Byte := packByte fun i => bitAt s.discreteBits i

/-! ## Effects on the store -/

/-- `n` consecutive coils written. -/
def coilsWritten (table : Vector Byte cfg.coilBytes) (start : ℕ) (bit : ℕ → Bool) (n : ℕ) :
    Vector Byte cfg.coilBytes :=
  (List.range n).foldl
    (fun table i => modbusBitWrite cfg table (start + i) ((BitVec.ofBool (bit i)).setWidth 8)) table

/-- `n` consecutive registers written. -/
def registersWritten (regs : Vector Word cfg.maxRegisters) (start : ℕ) (value : ℕ → Word)
    (n : ℕ) : Vector Word cfg.maxRegisters :=
  (List.range n).foldl (fun regs i => modbusRegsWrite cfg regs (start + i) (value i)) regs

/-- One register of a file replaced. -/
def fileRegWritten (files : Vector (Vector Word fileSizeRegs) fileCount) (file record : ℕ)
    (value : Word) : Vector (Vector Word fileSizeRegs) fileCount :=
  if hfile : file < fileCount then
    if hrecord : record < fileSizeRegs then
      files.set file (files[file].set record value)
    else files
  else files

/-- The first `n` values of a sub-request stored. -/
def FileWrite.stored (write : FileWrite) (files : Vector (Vector Word fileSizeRegs) fileCount)
    (n : ℕ) : Vector (Vector Word fileSizeRegs) fileCount :=
  (List.range n).foldl
    (fun files r =>
      fileRegWritten files write.span.file (write.span.start + r) (write.values.getD r 0)) files

/-- The files after the sub-requests of a file write, in order. -/
def filesWritten (files : Vector (Vector Word fileSizeRegs) fileCount)
    (writes : List FileWrite) : Vector (Vector Word fileSizeRegs) fileCount :=
  writes.foldl (fun files write => write.stored files write.span.count) files

/-- Change the store of an environment. -/
def PduEnv.updateStore (env : PduEnv cfg) (f : Store cfg → Store cfg) : PduEnv cfg :=
  { env with store := f env.store }

/-- Replace the coils, then tell the application. -/
def PduEnv.putCoils (hooks : SyncHooks cfg) (env : PduEnv cfg)
    (f : Vector Byte cfg.coilBytes → Vector Byte cfg.coilBytes) : PduEnv cfg :=
  registersSynced hooks (env.updateStore fun s => { s with coilBits := f s.coilBits })

/-- Replace the holding registers, then tell the application. -/
def PduEnv.putHoldingRegs (hooks : SyncHooks cfg) (env : PduEnv cfg)
    (f : Vector Word cfg.maxRegisters → Vector Word cfg.maxRegisters) : PduEnv cfg :=
  registersSynced hooks (env.updateStore fun s => { s with holdingRegs := f s.holdingRegs })

/-! ## Carrying out a request -/

/-- The result of a mask write. -/
def maskedWord (cur andMask orMask : Word) : Word := cur &&& andMask ||| orMask &&& ~~~andMask

/-- The response to a request and the environment after it. `rx` is the request
PDU, which several responses repeat. -/
def execute (hooks : SyncHooks cfg) (rx : List Byte) (env : PduEnv cfg) :
    Request cfg → List Byte × PduEnv cfg
  | .readCoils span =>
      (bitsPdu .readCoils (fun i => bitAt env.store.coilBits (span.start + i)) span.count, env)
  | .readDiscreteInputs span =>
      let env := env.updateStore (mirrorDiscreteInputs cfg)
      (bitsPdu .readDiscreteInputs (fun i => bitAt env.store.discreteBits (span.start + i))
        span.count, env)
  | .readHoldingRegisters span =>
      (registersPdu .readHoldingRegisters (regsAt env.store.holdingRegs span.start span.count),
        env)
  | .readInputRegisters span =>
      let env := env.updateStore analogInputsMirrored
      (registersPdu .readInputRegisters (regsAt env.store.inputRegs span.start span.count), env)
  | .writeSingleCoil addr on =>
      (rx.take 5,
        env.putCoils hooks fun t => modbusBitWrite cfg t addr ((BitVec.ofBool on).setWidth 8))
  | .writeSingleRegister addr value =>
      (rx.take 5, env.putHoldingRegs hooks fun regs => modbusRegsWrite cfg regs addr value)
  | .readExceptionStatus =>
      let env := env.updateStore (mirrorDiscreteInputs cfg)
      ([FunctionCode.readExceptionStatus.code, exceptionStatus env.store], env)
  | .writeMultipleCoils write =>
      (rx.take 5,
        env.putCoils hooks fun t => coilsWritten t write.start (bitOf write.data) write.count)
  | .writeMultipleRegisters write =>
      (rx.take 5, env.putHoldingRegs hooks fun regs =>
        registersWritten regs write.start (write.values.getD · 0) write.values.length)
  | .readFileRecord spans =>
      let data := spans.flatMap fun span => span.subResponse env.store.fileStore
      (FunctionCode.readFileRecord.code :: BitVec.ofNat 8 data.length :: data, env)
  | .writeFileRecord writes refused =>
      let env := env.updateStore fun s => { s with fileStore := filesWritten s.fileStore writes }
      match refused with
      | none => (rx, env)
      | some e => (exceptionPdu FunctionCode.writeFileRecord.code e, env)
  | .maskWriteRegister addr andMask orMask =>
      let result := maskedWord (regAt env.store.holdingRegs addr) andMask orMask
      (rx.take 7, env.putHoldingRegs hooks fun regs => modbusRegsWrite cfg regs addr result)
  | .readWriteMultipleRegs read write =>
      let env := env.putHoldingRegs hooks fun regs =>
        registersWritten regs write.start (write.values.getD · 0) write.values.length
      (registersPdu .readWriteMultipleRegs (regsAt env.store.holdingRegs read.start read.count),
        env)
  | .readFifoQueue queue =>
      let entries := env.store.fifos[queue].entries
      (FunctionCode.readFifoQueue.code :: 0x00 :: BitVec.ofNat 8 (2 + 2 * entries.length) ::
        0x00 :: BitVec.ofNat 8 entries.length :: bytesOfWords entries, env)
  | .readDeviceId read =>
      (FunctionCode.encapsulatedInterface.code :: 0x0E :: read.code :: 0x81 :: 0x00 :: 0x00 ::
        BitVec.ofNat 8 (read.lastObj - read.firstObj + 1) ::
        (List.range' read.firstObj (read.lastObj + 1 - read.firstObj)).flatMap deviceIdEntry, env)

/-- The response to a request PDU, given the outcome of its checks. -/
def answer (hooks : SyncHooks cfg) (functionCode : Byte) (rx : List Byte) (env : PduEnv cfg) :
    Except ExceptionCode (Request cfg) → List Byte × PduEnv cfg
  | .error e => (exceptionPdu functionCode e, env)
  | .ok request => execute hooks rx env request

/-- The response to a request PDU and the environment after it. -/
def pduReply (hooks : SyncHooks cfg) (rx : List Byte) (env : PduEnv cfg) :
    List Byte × PduEnv cfg :=
  answer hooks (byteAt rx 0) rx env (parseRequest cfg rx)

end AutomationBoard.Modbus
