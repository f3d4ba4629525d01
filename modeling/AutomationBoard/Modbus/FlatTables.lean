/-
# The tables as flat arrays

What a Modbus slave is for: four arrays that requests read and write. A table
request names its elements and is encoded as a PDU; what it does to the arrays
and what it is answered with is said here without packed bytes, loops or
buffers.
-/

import AutomationBoard.Math.FlatArray
import AutomationBoard.Modbus.Response

namespace AutomationBoard.Modbus

open AutomationBoard.Math

variable (cfg : Config)

/-! ## Arrays -/

/-- The coils, the discrete inputs, and the two kinds of registers. -/
structure Tables where
  coils : Fin cfg.maxCoils → Bool
  discreteInputs : Fin cfg.maxCoils → Bool
  inputRegs : Fin cfg.maxRegisters → Word
  holdingRegs : Fin cfg.maxRegisters → Word

variable {cfg}

/-- The array of a packed bit table. -/
def bitArray (table : Vector Byte cfg.coilBytes) : Fin cfg.maxCoils → Bool := fun i => bitAt table i

/-- The array of a register table. -/
def regArray (regs : Vector Word cfg.maxRegisters) : Fin cfg.maxRegisters → Word :=
  fun i => regAt regs i

/-- The arrays that a store holds. -/
def Store.tables (s : Store cfg) : Tables cfg where
  coils := bitArray s.coilBits
  discreteInputs := bitArray s.discreteBits
  inputRegs := regArray s.inputRegs
  holdingRegs := regArray s.holdingRegs

namespace Tables

/-- The discrete inputs 0 to 7 follow the debounced inputs. -/
def refreshDiscreteInputs (inputs : Byte) (t : Tables cfg) : Tables cfg :=
  { t with discreteInputs := writeRange t.discreteInputs 0 8 fun i => inputs.getLsbD i }

/-- The input registers 0 to 3 follow the holding registers 100 to 103. -/
def refreshInputRegs (flat : cfg.Flat) (t : Tables cfg) : Tables cfg :=
  { t with inputRegs := fun i =>
      if h : i.val < 4 then t.holdingRegs ⟨100 + i, by have := flat.mirror; omega⟩
      else t.inputRegs i }

end Tables

/-- What the application does to the arrays once it is told of a write: the board's
own sync refreshes the inputs, a registered hook that keeps the tables does not. -/
def SyncHooks.syncTables (flat : cfg.Flat) (hooks : SyncHooks cfg) (inputs : Byte)
    (t : Tables cfg) : Tables cfg :=
  match hooks.onRegistersWritten with
  | some _ => t
  | .none => (t.refreshDiscreteInputs inputs).refreshInputRegs flat

/-- A hook that is told of a write does not write the tables, files or queues. -/
def SyncHooks.KeepsTables (hooks : SyncHooks cfg) : Prop :=
  ∀ hook, hooks.onRegistersWritten = some hook → ∀ ctx s, (hook ctx s).tables = s.tables ∧
    (hook ctx s).fileStore = s.fileStore ∧ (hook ctx s).fifos = s.fifos

/-! ## Requests -/

/-- An element of a span. -/
def Span.at {limit size : ℕ} (span : Span limit size) (i : Fin span.count) : Fin size :=
  ⟨span.start + i, by have := span.fits; omega⟩

/-- The requests that read and write the tables, with their ranges inside them. -/
inductive TableRequest (cfg : Config)
  | readCoils (span : Span maxReadCoils cfg.maxCoils)
  | readDiscreteInputs (span : Span maxReadCoils cfg.maxCoils)
  | readHoldingRegisters (span : Span maxReadRegisters cfg.maxRegisters)
  | readInputRegisters (span : Span maxReadRegisters cfg.maxRegisters)
  | writeSingleCoil (addr : Fin cfg.maxCoils) (on : Bool)
  | writeSingleRegister (addr : Fin cfg.maxRegisters) (value : Word)
  | writeMultipleCoils (write : CoilWrite maxWriteCoils cfg.maxCoils)
  | writeMultipleRegisters (write : RegisterWrite maxWriteRegisters cfg.maxRegisters)
  | maskWriteRegister (addr : Fin cfg.maxRegisters) (andMask orMask : Word)
  | readWriteMultipleRegs (read : Span 0x007D cfg.maxRegisters)
      (write : RegisterWrite 0x0079 cfg.maxRegisters)

/-- The bytes of 16-bit fields, high byte first. -/
def fields (values : List ℕ) : List Byte := bytesOfWords (values.map (BitVec.ofNat 16))

namespace TableRequest

/-- The request PDU. -/
def encode : TableRequest cfg → List Byte
  | readCoils span => FunctionCode.readCoils.code :: fields [span.start, span.count]
  | readDiscreteInputs span =>
      FunctionCode.readDiscreteInputs.code :: fields [span.start, span.count]
  | readHoldingRegisters span =>
      FunctionCode.readHoldingRegisters.code :: fields [span.start, span.count]
  | readInputRegisters span =>
      FunctionCode.readInputRegisters.code :: fields [span.start, span.count]
  | writeSingleCoil addr on =>
      FunctionCode.writeSingleCoil.code :: fields [addr, if on then 0xFF00 else 0x0000]
  | writeSingleRegister addr value =>
      FunctionCode.writeSingleRegister.code :: (fields [addr] ++ bytesOfWords [value])
  | writeMultipleCoils write =>
      FunctionCode.writeMultipleCoils.code :: (fields [write.start, write.count] ++
        BitVec.ofNat 8 write.data.length :: write.data)
  | writeMultipleRegisters write =>
      FunctionCode.writeMultipleRegisters.code :: (fields [write.start, write.values.length] ++
        BitVec.ofNat 8 (write.values.length * 2) :: bytesOfWords write.values)
  | maskWriteRegister addr andMask orMask =>
      FunctionCode.maskWriteRegister.code :: (fields [addr] ++ bytesOfWords [andMask, orMask])
  | readWriteMultipleRegs read write =>
      FunctionCode.readWriteMultipleRegs.code ::
        (fields [read.start, read.count, write.start, write.values.length] ++
          BitVec.ofNat 8 (write.values.length * 2) :: bytesOfWords write.values)

/-- The request as the dispatcher parses it. -/
def toRequest : TableRequest cfg → Request cfg
  | readCoils span => .readCoils span
  | readDiscreteInputs span => .readDiscreteInputs span
  | readHoldingRegisters span => .readHoldingRegisters span
  | readInputRegisters span => .readInputRegisters span
  | writeSingleCoil addr on => .writeSingleCoil addr on
  | writeSingleRegister addr value => .writeSingleRegister addr value
  | writeMultipleCoils write => .writeMultipleCoils write
  | writeMultipleRegisters write => .writeMultipleRegisters write
  | maskWriteRegister addr andMask orMask => .maskWriteRegister addr andMask orMask
  | readWriteMultipleRegs read write => .readWriteMultipleRegs read write

/-- The requests that write. -/
def writes : TableRequest cfg → Bool
  | readCoils _ | readDiscreteInputs _ | readHoldingRegisters _ | readInputRegisters _ => false
  | _ => true

/-- What a request makes of the arrays. `inputs` are the debounced inputs, and
`sync` is what is done to the arrays after a write. -/
def carryOut (flat : cfg.Flat) (inputs : Byte) (sync : Tables cfg → Tables cfg)
    (t : Tables cfg) : TableRequest cfg → Tables cfg
  | readCoils _ => t
  | readDiscreteInputs _ => t.refreshDiscreteInputs inputs
  | readHoldingRegisters _ => t
  | readInputRegisters _ => t.refreshInputRegs flat
  | writeSingleCoil addr on => sync { t with coils := writeAt t.coils addr on }
  | writeSingleRegister addr value =>
      sync { t with holdingRegs := writeAt t.holdingRegs addr value }
  | writeMultipleCoils write =>
      sync { t with coils := writeRange t.coils write.start write.count (bitOf write.data) }
  | writeMultipleRegisters write => sync { t with
      holdingRegs := writeRange t.holdingRegs write.start write.values.length
        (write.values.getD · 0) }
  | maskWriteRegister addr andMask orMask => sync { t with
      holdingRegs := writeAt t.holdingRegs addr
        (t.holdingRegs addr &&& andMask ||| orMask &&& ~~~andMask) }
  | readWriteMultipleRegs _ write => sync { t with
      holdingRegs := writeRange t.holdingRegs write.start write.values.length
        (write.values.getD · 0) }

end TableRequest

/-! ## Responses -/

/-- A response that carries the bits `f`, the first in the least significant
place, with the unused bits of the last byte zero. -/
structure CarriesBits (fc : FunctionCode) {n : ℕ} (f : Fin n → Bool) (tx : List Byte) : Prop where
  code : byteAt tx 0 = fc.code
  byteCount : (byteAt tx 1).toNat = (n + 7) / 8
  length : tx.length = 2 + (n + 7) / 8
  bits : ∀ i, bitOf (tx.drop 2) i = if h : i < n then f ⟨i, h⟩ else false

/-- A response that carries the words `f`, high bytes first. -/
structure CarriesWords (fc : FunctionCode) {n : ℕ} (f : Fin n → Word) (tx : List Byte) :
    Prop where
  code : byteAt tx 0 = fc.code
  byteCount : (byteAt tx 1).toNat = 2 * n
  length : tx.length = 2 + 2 * n
  words : ∀ i : Fin n, wordAt tx (2 + 2 * i) = f i

/-- The response to a request, given the arrays after it: a read returns the
elements it names, a write repeats the head of its request. -/
def TableRequest.Answered (t : Tables cfg) (tx : List Byte) : TableRequest cfg → Prop
  | readCoils span => CarriesBits .readCoils (fun i => t.coils (span.at i)) tx
  | readDiscreteInputs span =>
      CarriesBits .readDiscreteInputs (fun i => t.discreteInputs (span.at i)) tx
  | readHoldingRegisters span =>
      CarriesWords .readHoldingRegisters (fun i => t.holdingRegs (span.at i)) tx
  | readInputRegisters span =>
      CarriesWords .readInputRegisters (fun i => t.inputRegs (span.at i)) tx
  | readWriteMultipleRegs read _ =>
      CarriesWords .readWriteMultipleRegs (fun i => t.holdingRegs (read.at i)) tx
  | maskWriteRegister addr andMask orMask => tx = (maskWriteRegister addr andMask orMask).encode
  | r => tx = r.encode.take 5

end AutomationBoard.Modbus
