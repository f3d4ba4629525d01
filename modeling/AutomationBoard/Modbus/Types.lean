/-
# Machine integers, protocol codes and the register map

The C code computes in `uint8_t` and `uint16_t`. Data bytes and registers are
bit vectors here; lengths and indices are natural numbers, truncated with
`uint8` and `uint16` wherever the code stores them in a variable of that width.
The table sizes and base offsets of `board_config.h` are a parameter of the
model, because a project may change them; `boardConfig` is what the repository
ships.
-/

import Mathlib.Data.BitVec

namespace AutomationBoard.Modbus

/-- `uint8_t` data. -/
abbrev Byte := BitVec 8

/-- `uint16_t` data. -/
abbrev Word := BitVec 16

/-- The value left in a `uint8_t` variable. -/
def uint8 (n : ℕ) : ℕ := n % 2 ^ 8

/-- The value left in a `uint16_t` variable. -/
def uint16 (n : ℕ) : ℕ := n % 2 ^ 16

theorem uint8_of_lt {n : ℕ} (h : n < 256) : uint8 n = n := Nat.mod_eq_of_lt h

theorem uint16_of_lt {n : ℕ} (h : n < 65536) : uint16 n = n := Nat.mod_eq_of_lt h

/-! ## Bytes and words -/

/-- `((uint16_t)hi << 8) | lo`. -/
def word (hi lo : Byte) : Word := hi.setWidth 16 <<< 8 ||| lo.setWidth 16

/-- `(uint8_t)(w >> 8)`. -/
def hiByte (w : Word) : Byte := (w >>> 8).setWidth 8

/-- `(uint8_t)(w & 0xFF)`. -/
def loByte (w : Word) : Byte := (w &&& 0xFF).setWidth 8

theorem toNat_word (hi lo : Byte) : (word hi lo).toNat = hi.toNat * 256 + lo.toNat := by
  have hdisjoint : hi.setWidth 16 <<< 8 &&& lo.setWidth 16 = 0#16 := by
    apply BitVec.eq_of_getLsbD_eq
    intro i _
    by_cases h : i < 8
    · simp [h]
    · have : lo.getLsbD i = false := BitVec.getLsbD_of_ge lo i (by omega)
      simp [this]
  rw [word, ← BitVec.add_eq_or_of_and_eq_zero _ _ hdisjoint]
  have hhi := hi.isLt
  have hlo := lo.isLt
  simp only [BitVec.toNat_add, BitVec.toNat_shiftLeft, BitVec.toNat_setWidth,
    Nat.shiftLeft_eq]
  omega

theorem toNat_hiByte (w : Word) : (hiByte w).toNat = w.toNat / 256 := by
  have := w.isLt
  rw [hiByte, BitVec.toNat_setWidth, BitVec.toNat_ushiftRight, Nat.shiftRight_eq_div_pow]
  omega

theorem toNat_loByte (w : Word) : (loByte w).toNat = w.toNat % 256 := by
  have hmask : (w &&& 0xFF).toNat = w.toNat % 256 := by
    rw [BitVec.toNat_and]
    exact Nat.and_two_pow_sub_one_eq_mod w.toNat 8
  rw [loByte, BitVec.toNat_setWidth, hmask]
  omega

@[simp]
theorem hiByte_word (hi lo : Byte) : hiByte (word hi lo) = hi := by
  apply BitVec.eq_of_toNat_eq
  have := lo.isLt
  rw [toNat_hiByte, toNat_word]
  omega

@[simp]
theorem loByte_word (hi lo : Byte) : loByte (word hi lo) = lo := by
  apply BitVec.eq_of_toNat_eq
  have := lo.isLt
  rw [toNat_loByte, toNat_word]
  omega

/-- A word is put together again from its two bytes. -/
@[simp]
theorem word_hiByte_loByte (w : Word) : word (hiByte w) (loByte w) = w := by
  apply BitVec.eq_of_toNat_eq
  rw [toNat_word, toNat_hiByte, toNat_loByte]
  omega

theorem hiByte_xor (v w : Word) : hiByte (v ^^^ w) = hiByte v ^^^ hiByte w := by
  rw [hiByte, BitVec.ushiftRight_xor_distrib, BitVec.setWidth_xor]
  rfl

theorem loByte_eq_setWidth (w : Word) : loByte w = w.setWidth 8 := by
  apply BitVec.eq_of_toNat_eq
  rw [toNat_loByte, BitVec.toNat_setWidth]

theorem loByte_xor (v w : Word) : loByte (v ^^^ w) = loByte v ^^^ loByte w := by
  simp only [loByte_eq_setWidth, BitVec.setWidth_xor]

/-- Words are equal when both their bytes are. -/
theorem word_ext {v w : Word} (hhi : hiByte v = hiByte w) (hlo : loByte v = loByte w) :
    v = w := by
  rw [← word_hiByte_loByte v, hhi, hlo, word_hiByte_loByte]

theorem word_xor (hi hi' lo lo' : Byte) :
    word hi lo ^^^ word hi' lo' = word (hi ^^^ hi') (lo ^^^ lo') := by
  apply word_ext
  · rw [hiByte_xor, hiByte_word, hiByte_word, hiByte_word]
  · rw [loByte_xor, loByte_word, loByte_word, loByte_word]

/-- Words as bytes, high byte first. -/
def bytesOfWords (words : List Word) : List Byte :=
  words.flatMap fun w => [hiByte w, loByte w]

@[simp]
theorem bytesOfWords_nil : bytesOfWords [] = [] := rfl

theorem bytesOfWords_concat (words : List Word) (w : Word) :
    bytesOfWords (words ++ [w]) = bytesOfWords words ++ [hiByte w] ++ [loByte w] := by
  simp [bytesOfWords]

@[simp]
theorem length_bytesOfWords (words : List Word) :
    (bytesOfWords words).length = 2 * words.length := by
  induction words with
  | nil => rfl
  | cons w words ih =>
      rw [bytesOfWords, List.flatMap_cons, List.length_append, ← bytesOfWords, ih]
      simp only [List.length_cons, List.length_nil]
      omega

/-! ## Protocol codes -/

/-- The function codes of `modbus.h`. -/
inductive FunctionCode
  | readCoils
  | readDiscreteInputs
  | readHoldingRegisters
  | readInputRegisters
  | writeSingleCoil
  | writeSingleRegister
  | readExceptionStatus
  | diagnostics
  | getCommEventCounter
  | getCommEventLog
  | writeMultipleCoils
  | writeMultipleRegisters
  | reportServerId
  | readFileRecord
  | writeFileRecord
  | maskWriteRegister
  | readWriteMultipleRegs
  | readFifoQueue
  | encapsulatedInterface
  deriving DecidableEq

namespace FunctionCode

/-- The `MODBUS_FC_*` values. -/
def code : FunctionCode → Byte
  | readCoils => 0x01
  | readDiscreteInputs => 0x02
  | readHoldingRegisters => 0x03
  | readInputRegisters => 0x04
  | writeSingleCoil => 0x05
  | writeSingleRegister => 0x06
  | readExceptionStatus => 0x07
  | diagnostics => 0x08
  | getCommEventCounter => 0x0B
  | getCommEventLog => 0x0C
  | writeMultipleCoils => 0x0F
  | writeMultipleRegisters => 0x10
  | reportServerId => 0x11
  | readFileRecord => 0x14
  | writeFileRecord => 0x15
  | maskWriteRegister => 0x16
  | readWriteMultipleRegs => 0x17
  | readFifoQueue => 0x18
  | encapsulatedInterface => 0x2B

/-- Every code once, in the order of `modbus.h`. -/
def all : List FunctionCode :=
  [readCoils, readDiscreteInputs, readHoldingRegisters, readInputRegisters, writeSingleCoil,
    writeSingleRegister, readExceptionStatus, diagnostics, getCommEventCounter,
    getCommEventLog, writeMultipleCoils, writeMultipleRegisters, reportServerId,
    readFileRecord, writeFileRecord, maskWriteRegister, readWriteMultipleRegs,
    readFifoQueue, encapsulatedInterface]

/-- The code a `switch` on a function byte selects; `none` is its `default`. -/
def ofByte (b : Byte) : Option FunctionCode := all.find? fun f => f.code == b

@[simp]
theorem ofByte_code (f : FunctionCode) : ofByte f.code = some f := by
  cases f <;> rfl

theorem ofByte_eq_some {b : Byte} {f : FunctionCode} : ofByte b = some f ↔ f.code = b := by
  constructor
  · intro h
    simpa using List.find?_some h
  · rintro rfl
    exact ofByte_code f

/-- No function code has the exception bit. -/
theorem msb_code (f : FunctionCode) : f.code.msb = false := by
  cases f <;> rfl

end FunctionCode

/-- The exception codes of `modbus.h` that the slave raises. -/
inductive ExceptionCode
  | illegalFunction
  | illegalDataAddress
  | illegalDataValue
  | slaveDeviceFailure
  deriving DecidableEq

/-- The `MODBUS_EXC_*` values. -/
def ExceptionCode.code : ExceptionCode → Byte
  | illegalFunction => 0x01
  | illegalDataAddress => 0x02
  | illegalDataValue => 0x03
  | slaveDeviceFailure => 0x04

/-- `modbus_status_t`. -/
inductive ModbusStatus
  | ok
  | error
  | exception
  | crcError
  | timeout
  deriving DecidableEq

/-! ## Faults -/

/-- The arrays whose indices the code takes from requests. -/
inductive Region
  | rxPdu
  | txPdu
  | holdingRegs
  | inputRegs
  | fileStore
  | fifoStore
  deriving DecidableEq

/-- What the C standard leaves undefined and the model makes visible: an index
outside an array, or a loop that does not end. -/
inductive Fault
  | outOfBounds (region : Region) (index : ℕ)
  | diverged
  deriving DecidableEq

/-! ## The register map of `board_config.h` -/

/-- The sizes of the tables and the base offsets of a project's register map. -/
structure Config where
  maxCoils : ℕ
  maxRegisters : ℕ
  coilOffset : ℕ
  discreteInputOffset : ℕ
  inputRegOffset : ℕ
  holdingRegOffset : ℕ

/-- The configuration the repository ships. -/
def boardConfig : Config where
  maxCoils := 128
  maxRegisters := 256
  coilOffset := 0x0000
  discreteInputOffset := 0x0000
  inputRegOffset := 0x0000
  holdingRegOffset := 0x0000

namespace Config

/-- The bytes of a coil table, `(MODBUS_MAX_COILS + 7) / 8`. -/
def coilBytes (cfg : Config) : ℕ := (cfg.maxCoils + 7) / 8

theorem div_lt_coilBytes (cfg : Config) {addr : ℕ} (h : addr < cfg.maxCoils) :
    addr / 8 < cfg.coilBytes := by
  unfold coilBytes
  omega

/-- A map whose protocol addresses are table indices: no base offset, room for
the addresses the board mirrors, and sizes a `uint16_t` address can reach. -/
structure Flat (cfg : Config) : Prop where
  coilOffset : cfg.coilOffset = 0
  discreteInputOffset : cfg.discreteInputOffset = 0
  inputRegOffset : cfg.inputRegOffset = 0
  holdingRegOffset : cfg.holdingRegOffset = 0
  coils : cfg.maxCoils ≤ 65535
  registers : cfg.maxRegisters ≤ 65535
  mirror : 104 ≤ cfg.maxRegisters

theorem boardConfig_flat : boardConfig.Flat := by
  constructor <;> decide

/-- A map whose coils and registers stand at their protocol addresses. The base of
the discrete inputs, whose accesses are all guarded, may be anything, and that of
the coils anything that a `uint16_t` address loses. -/
structure Direct (cfg : Config) : Prop where
  coilOffset : cfg.coilOffset % 65536 = 0
  inputRegOffset : cfg.inputRegOffset = 0
  holdingRegOffset : cfg.holdingRegOffset = 0
  coils : cfg.maxCoils ≤ 65535
  registers : cfg.maxRegisters ≤ 65535
  mirror : 104 ≤ cfg.maxRegisters

theorem Flat.direct {cfg : Config} (flat : cfg.Flat) : cfg.Direct where
  coilOffset := by rw [flat.coilOffset]
  inputRegOffset := flat.inputRegOffset
  holdingRegOffset := flat.holdingRegOffset
  coils := flat.coils
  registers := flat.registers
  mirror := flat.mirror

/-- The base of the coils is lost. -/
theorem Direct.uint16_coil {cfg : Config} (direct : cfg.Direct) (addr : ℕ) :
    uint16 (cfg.coilOffset + addr) = uint16 addr := by
  have hbase := direct.coilOffset
  unfold uint16
  omega

end Config

end AutomationBoard.Modbus
