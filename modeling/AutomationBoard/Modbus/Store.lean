/-
# The data a slave serves

The static tables of `modbus.c`, with the board outputs they are mirrored to.
A FIFO queue carries the bound on its length, so every store that can be built
satisfies it. Access functions that check their index are total here; the code's
unchecked indexing appears where it is used, as a checked access that faults.
-/

import AutomationBoard.Modbus.Types

namespace AutomationBoard.Modbus

/-! ## Sizes -/

def diCount : ℕ := 8
def doCount : ℕ := 8
def aiCount : ℕ := 4
def aoCount : ℕ := 2
def relayCount : ℕ := 4

/-- `MODBUS_FILE_COUNT` and `MODBUS_FILE_SIZE_REGS`. -/
def fileCount : ℕ := 4
def fileSizeRegs : ℕ := 128

/-- `MODBUS_FIFO_COUNT` and `MODBUS_FIFO_DEPTH`. -/
def fifoCount : ℕ := 2
def fifoDepth : ℕ := 31

/-! ## State -/

/-- One queue of `fifo_store` with its entry of `fifo_len`. -/
structure FifoQueue where
  store : Vector Word fifoDepth
  len : ℕ
  len_le : len ≤ fifoDepth

/-- The driver shadows: debounced digital inputs, and the outputs that the
default sync sets. -/
structure BoardIo where
  digitalInputStates : Byte
  digitalOutputStates : Byte
  relayStates : Byte
  analogOutputs : Vector Word aoCount

/-- The tables, files and queues of `modbus.c`, the board's inputs and outputs,
and the application memory that registered hooks may use. -/
structure Store (cfg : Config) where
  holdingRegs : Vector Word cfg.maxRegisters
  inputRegs : Vector Word cfg.maxRegisters
  coilBits : Vector Byte cfg.coilBytes
  discreteBits : Vector Byte cfg.coilBytes
  fileStore : Vector (Vector Word fileSizeRegs) fileCount
  fifos : Vector FifoQueue fifoCount
  io : BoardIo
  app : ℕ → Byte

variable (cfg : Config)

/-- The static data before any code has run. -/
def Store.powerOn : Store cfg where
  holdingRegs := Vector.replicate _ 0
  inputRegs := Vector.replicate _ 0
  coilBits := Vector.replicate _ 0
  discreteBits := Vector.replicate _ 0
  fileStore := Vector.replicate _ (Vector.replicate _ 0)
  fifos := Vector.replicate _ ⟨Vector.replicate _ 0, 0, Nat.zero_le _⟩
  io := ⟨0, 0, 0, Vector.replicate _ 0⟩
  app := fun _ => 0

/-- The tables, files and queues as `modbus_rtu_init` leaves them. -/
def Store.init (s : Store cfg) : Store cfg where
  holdingRegs := Vector.replicate _ 0
  inputRegs := Vector.replicate _ 0
  coilBits := Vector.replicate _ 0
  discreteBits := Vector.replicate _ 0
  fileStore := Vector.replicate _ (Vector.replicate _ 0)
  fifos := s.fifos.map fun queue => { queue with len := 0, len_le := Nat.zero_le _ }
  io := s.io
  app := s.app

/-! ## Table access -/

/-- `modbus_bit_read`. -/
def modbusBitRead (table : Vector Byte cfg.coilBytes) (addr : ℕ) : Byte :=
  if h : addr < cfg.maxCoils then
    have := cfg.div_lt_coilBytes h
    (table[addr / 8] >>> (addr % 8)) &&& 0x01
  else 0

/-- `modbus_bit_write`. -/
def modbusBitWrite (table : Vector Byte cfg.coilBytes) (addr : ℕ) (value : Byte) :
    Vector Byte cfg.coilBytes :=
  if h : addr < cfg.maxCoils then
    have := cfg.div_lt_coilBytes h
    if value ≠ 0 then table.set (addr / 8) (table[addr / 8] ||| 1#8 <<< (addr % 8))
    else table.set (addr / 8) (table[addr / 8] &&& ~~~(1#8 <<< (addr % 8)))
  else table

/-- `modbus_regs_write`. -/
def modbusRegsWrite (regs : Vector Word cfg.maxRegisters) (addr : ℕ) (value : Word) :
    Vector Word cfg.maxRegisters :=
  if h : addr < cfg.maxRegisters then regs.set addr value else regs

/-- `modbus_address_range_valid`. -/
def modbusAddressRangeValid (startAddr quantity tableSize : ℕ) : Bool :=
  startAddr < tableSize && quantity ≤ tableSize - startAddr

/-- `modbus_file_index_valid`. -/
def modbusFileIndexValid (fileNumber : ℕ) : Bool :=
  fileNumber ≥ 1 && fileNumber ≤ fileCount

/-- `modbus_file_range_valid`. -/
def modbusFileRangeValid (recordNumber recordLength : ℕ) : Bool :=
  if recordLength < 1 then false
  else if recordNumber ≥ fileSizeRegs then false
  else recordLength ≤ fileSizeRegs - recordNumber

/-- `modbus_fifo_push`, on the queue that the address selects. -/
def FifoQueue.push (queue : FifoQueue) (value : Word) : Bool × FifoQueue :=
  if h : queue.len < fifoDepth then
    (true, { store := queue.store.set queue.len value, len := queue.len + 1, len_le := h })
  else (false, queue)

/-- `modbus_fifo_push`. -/
def modbusFifoPush (s : Store cfg) (fifoAddr : ℕ) (value : Word) : Bool × Store cfg :=
  if h : fifoAddr < fifoCount then
    let pushed := s.fifos[fifoAddr].push value
    (pushed.1, { s with fifos := s.fifos.set fifoAddr pushed.2 })
  else (false, s)

variable {cfg}

/-- `modbus_write_coil`. -/
def modbusWriteCoil (s : Store cfg) (addr : ℕ) (value : Word) : Store cfg :=
  { s with coilBits :=
      modbusBitWrite cfg s.coilBits (uint16 (cfg.coilOffset + addr)) (if value ≠ 0 then 1 else 0) }

/-- `modbus_write_holding_register`. -/
def modbusWriteHoldingRegister (s : Store cfg) (addr : ℕ) (value : Word) : Store cfg :=
  { s with holdingRegs :=
      modbusRegsWrite cfg s.holdingRegs (uint16 (cfg.holdingRegOffset + addr)) value }

/-! ## A bit table as a function of the address -/

/-- The bit of a packed table at an address, clear outside the table. -/
def bitAt (table : Vector Byte cfg.coilBytes) (addr : ℕ) : Bool :=
  if h : addr < cfg.maxCoils then
    have := cfg.div_lt_coilBytes h
    table[addr / 8].getLsbD (addr % 8)
  else false

theorem bitAt_of_not_lt {table : Vector Byte cfg.coilBytes} {addr : ℕ}
    (h : ¬ addr < cfg.maxCoils) : bitAt table addr = false := by
  rw [bitAt, dif_neg h]

/-- A read returns the bit as a byte. -/
theorem modbusBitRead_eq (table : Vector Byte cfg.coilBytes) (addr : ℕ) :
    modbusBitRead cfg table addr = (BitVec.ofBool (bitAt table addr)).setWidth 8 := by
  unfold modbusBitRead bitAt
  split
  · next h =>
      have := cfg.div_lt_coilBytes h
      have hbit := BitVec.and_one_eq_setWidth_ofBool_getLsbD (x := table[addr / 8] >>> (addr % 8))
      rw [BitVec.getLsbD_ushiftRight, Nat.add_zero] at hbit
      exact hbit
  · rfl

theorem getLsbD_one_shiftLeft {i j : ℕ} (hi : i < 8) :
    (1#8 <<< i).getLsbD j = decide (j = i) := by
  rw [BitVec.getLsbD_shiftLeft, BitVec.getLsbD_one]
  by_cases h : j = i
  · subst h
    simp [hi]
  · simp [h]
    omega

theorem getLsbD_setBit (b : Byte) {i j : ℕ} (hi : i < 8) :
    (b ||| 1#8 <<< i).getLsbD j = if j = i then true else b.getLsbD j := by
  rw [BitVec.getLsbD_or, getLsbD_one_shiftLeft hi]
  by_cases h : j = i <;> simp [h]

theorem getLsbD_clearBit (b : Byte) {i j : ℕ} (hi : i < 8) :
    (b &&& ~~~(1#8 <<< i)).getLsbD j = if j = i then false else b.getLsbD j := by
  rw [BitVec.getLsbD_and, BitVec.getLsbD_not, getLsbD_one_shiftLeft hi]
  by_cases h8 : j < 8
  · by_cases h : j = i <;> simp [h, h8]
  · simp [BitVec.getLsbD_of_ge b j (by omega)]

/-- A write changes the addressed bit and no other. -/
theorem bitAt_modbusBitWrite (table : Vector Byte cfg.coilBytes) (addr i : ℕ) (value : Byte) :
    bitAt (modbusBitWrite cfg table addr value) i =
      if i = addr ∧ addr < cfg.maxCoils then decide (value ≠ 0) else bitAt table i := by
  by_cases haddr : addr < cfg.maxCoils
  · by_cases hi : i < cfg.maxCoils
    · have hbyte := cfg.div_lt_coilBytes haddr
      have hbit : addr % 8 < 8 := Nat.mod_lt _ (by decide)
      by_cases hword : addr / 8 = i / 8
      · have hsame : i % 8 = addr % 8 ↔ i = addr := by omega
        by_cases hvalue : value = 0#8
        · simp [bitAt, modbusBitWrite, haddr, hi, hvalue, hword, getLsbD_clearBit _ hbit, hsame]
        · simp [bitAt, modbusBitWrite, haddr, hi, hvalue, hword, getLsbD_setBit _ hbit, hsame]
      · have hother : i ≠ addr := by
          rintro rfl
          exact hword rfl
        by_cases hvalue : value = 0#8 <;>
          simp [bitAt, modbusBitWrite, haddr, hi, hvalue, hother, Vector.getElem_set_ne, hword]
    · rw [bitAt_of_not_lt hi, bitAt_of_not_lt hi]
      simp
      omega
  · simp [modbusBitWrite, haddr]

end AutomationBoard.Modbus
