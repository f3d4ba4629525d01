/-
# The frame check of `modbus.c`

`modbus_crc16` looks each byte up in two tables that `modbus_crc_init_tables`
fills from eight bitwise steps. The loop adds the *high* byte of an entry to the
low half of the register and moves the *low* byte to the high half, which is the
other way round from the bitwise definition. Its value is therefore a linear
check of its own. It is CRC-16/MODBUS for the strings that only ever look up
entries with two equal bytes, and the table has two of these.
-/

import AutomationBoard.Math.LinearRegister
import AutomationBoard.Modbus.Types

namespace AutomationBoard.Modbus

open AutomationBoard.Math

/-! ## The bitwise definition -/

/-- One bit of the loop in `modbus_crc_init_tables`. -/
def crcShift (crc : Word) : Word :=
  if crc &&& 0x0001 ≠ 0 then (crc >>> 1) ^^^ 0xA001 else crc >>> 1

/-- The value whose two bytes `modbus_crc_init_tables` stores for index `i`. -/
def crcTableEntry (i : Byte) : Word := crcShift^[8] (i.setWidth 16)

/-- CRC-16/MODBUS takes a byte: XOR it into the low byte, then shift right
eight times. -/
def crcBitwiseUpdate (crc : Word) (b : Byte) : Word := crcShift^[8] (crc ^^^ b.setWidth 16)

/-- CRC-16/MODBUS by its bit-by-bit definition. -/
def crcBitwise (buf : List Byte) : Word := digest crcBitwiseUpdate 0xFFFF buf

theorem crcShift_eq_shiftStep (crc : Word) : crcShift crc = shiftStep 0xA001 crc := by
  have hbit : crc &&& 0x0001 = (BitVec.ofBool (crc.getLsbD 0)).setWidth 16 :=
    BitVec.and_one_eq_setWidth_ofBool_getLsbD
  unfold crcShift shiftStep
  rw [hbit]
  cases crc.getLsbD 0 <;> rfl

/-! ## The tables -/

/-- `low_crc_table`, `high_crc_table` and `crc_table_initialized`. The flag is
only ever set once both tables are filled. -/
structure CrcTables where
  low : Vector Word 256
  high : Vector Word 256
  initialized : Bool
  filled : initialized = true →
    low = Vector.ofFn (fun i => crcTableEntry (BitVec.ofFin i) &&& 0xFF) ∧
      high = Vector.ofFn (fun i => crcTableEntry (BitVec.ofFin i) >>> 8)

/-- The static tables before the first use. -/
def CrcTables.boot : CrcTables where
  low := Vector.replicate 256 0
  high := Vector.replicate 256 0
  initialized := false
  filled := by simp

/-- `modbus_crc_init_tables`. -/
def modbusCrcInitTables (tables : CrcTables) : CrcTables :=
  if tables.initialized then tables
  else
    { low := Vector.ofFn fun i => crcTableEntry (BitVec.ofFin i) &&& 0xFF
      high := Vector.ofFn fun i => crcTableEntry (BitVec.ofFin i) >>> 8
      initialized := true
      filled := fun _ => ⟨rfl, rfl⟩ }

/-- One pass of the loop in `modbus_crc16`, on `crc_hi` and `crc_lo`. -/
def modbusCrcStep (tables : CrcTables) (crc : Byte × Byte) (b : Byte) : Byte × Byte :=
  let idx := crc.2 ^^^ b
  have : idx.toNat < 256 := idx.isLt
  let crcLo := crc.1 ^^^ tables.high[idx.toNat].setWidth 8
  let crcHi := tables.low[idx.toNat].setWidth 8
  (crcHi, crcLo)

/-- `modbus_crc16`, with the tables it may fill on the way. -/
def modbusCrc16 (tables : CrcTables) (buf : List Byte) : Word × CrcTables :=
  let tables := modbusCrcInitTables tables
  let crc := buf.foldl (modbusCrcStep tables) (0xFF, 0xFF)
  (word crc.1 crc.2, tables)

/-! ## The value as a linear check -/

/-- The update of the register by one byte, once the tables are filled. -/
def crcTableUpdate (crc : Word) (b : Byte) : Word :=
  let entry := crcTableEntry (loByte crc ^^^ b)
  word (loByte entry) (hiByte crc ^^^ hiByte entry)

theorem initialized_modbusCrcInitTables (tables : CrcTables) :
    (modbusCrcInitTables tables).initialized = true := by
  unfold modbusCrcInitTables
  split
  · assumption
  · rfl

theorem getElem_low (tables : CrcTables) (h : tables.initialized = true) (i : Byte)
    (hi : i.toNat < 256) : tables.low[i.toNat].setWidth 8 = loByte (crcTableEntry i) := by
  simp only [(tables.filled h).1, Vector.getElem_ofFn]
  rfl

theorem getElem_high (tables : CrcTables) (h : tables.initialized = true) (i : Byte)
    (hi : i.toNat < 256) : tables.high[i.toNat].setWidth 8 = hiByte (crcTableEntry i) := by
  simp only [(tables.filled h).2, Vector.getElem_ofFn]
  rfl

theorem word_modbusCrcStep {tables : CrcTables} (h : tables.initialized = true)
    (crc : Byte × Byte) (b : Byte) :
    word (modbusCrcStep tables crc b).1 (modbusCrcStep tables crc b).2 =
      crcTableUpdate (word crc.1 crc.2) b := by
  simp only [modbusCrcStep, crcTableUpdate, getElem_low tables h,
    getElem_high tables h,
    hiByte_word, loByte_word]

theorem word_foldl_modbusCrcStep {tables : CrcTables} (h : tables.initialized = true)
    (buf : List Byte) (crc : Byte × Byte) :
    word (buf.foldl (modbusCrcStep tables) crc).1 (buf.foldl (modbusCrcStep tables) crc).2 =
      digest crcTableUpdate (word crc.1 crc.2) buf := by
  induction buf generalizing crc with
  | nil => rfl
  | cons b buf ih =>
      rw [List.foldl_cons, ih, word_modbusCrcStep h]
      rfl

/-- The frame check of a byte string. The tables are only a cache, so it is
taken from their boot state wherever the slave and the master compute it. -/
def crc16 (buf : List Byte) : Word := (modbusCrc16 CrcTables.boot buf).1

/-- Whatever the state of the tables, `modbus_crc16` returns the register of the
table update started at `0xFFFF`. -/
theorem fst_modbusCrc16 (tables : CrcTables) (buf : List Byte) :
    (modbusCrc16 tables buf).1 = digest crcTableUpdate 0xFFFF buf :=
  word_foldl_modbusCrcStep (initialized_modbusCrcInitTables tables) buf (0xFF, 0xFF)

theorem crc16_eq_digest (buf : List Byte) : crc16 buf = digest crcTableUpdate 0xFFFF buf :=
  fst_modbusCrc16 CrcTables.boot buf

theorem iterate_crcShift (n : ℕ) : crcShift^[n] = (shiftStep 0xA001)^[n] := by
  rw [show crcShift = shiftStep 0xA001 from funext crcShift_eq_shiftStep]

theorem crcTableEntry_xor (i j : Byte) :
    crcTableEntry (i ^^^ j) = crcTableEntry i ^^^ crcTableEntry j := by
  simp only [crcTableEntry, iterate_crcShift, BitVec.setWidth_xor, iterate_shiftStep_xor]

/-- The byte-swapped update is still linear. -/
theorem crcTableUpdate_linear : XorLinear crcTableUpdate := by
  intro c d a b
  have hindex : loByte (c ^^^ d) ^^^ (a ^^^ b) = (loByte c ^^^ a) ^^^ (loByte d ^^^ b) := by
    rw [loByte_xor]
    ac_rfl
  simp only [crcTableUpdate, hindex]
  rw [crcTableEntry_xor (loByte c ^^^ a), word_xor, hiByte_xor, hiByte_xor, loByte_xor]
  congr 1
  ac_rfl

/-! ## Against the bitwise definition -/

theorem lowPart_eq_setWidth (crc : Word) (b : Byte) :
    lowPart 8 (crc ^^^ b.setWidth 16) = (loByte crc ^^^ b).setWidth 16 := by
  simp only [lowPart, loByte_eq_setWidth, BitVec.setWidth_xor]
  simp

theorem shiftRight_eight (crc : Word) (b : Byte) :
    (crc ^^^ b.setWidth 16) >>> 8 = word 0#8 (hiByte crc) := by
  apply BitVec.eq_of_toNat_eq
  have hb : (b.setWidth 16 >>> 8 : Word) = 0#16 := by
    apply BitVec.eq_of_toNat_eq
    have := b.isLt
    simp only [BitVec.toNat_ushiftRight, BitVec.toNat_setWidth, Nat.shiftRight_eq_div_pow]
    simp
    omega
  rw [BitVec.ushiftRight_xor_distrib, hb, BitVec.xor_zero, toNat_word, toNat_hiByte,
    BitVec.toNat_ushiftRight, Nat.shiftRight_eq_div_pow]
  simp

/-- Eight bitwise steps as one table look-up: the low byte of the entry belongs
in the low half of the register and its high byte in the high half. -/
theorem crcBitwiseUpdate_eq_table (crc : Word) (b : Byte) :
    crcBitwiseUpdate crc b =
      word (hiByte (crcTableEntry (loByte crc ^^^ b)))
        (hiByte crc ^^^ loByte (crcTableEntry (loByte crc ^^^ b))) := by
  have htable := iterate_shiftStep_eq_table 0xA001 8 (crc ^^^ b.setWidth 16)
  rw [lowPart_eq_setWidth, shiftRight_eight] at htable
  rw [crcBitwiseUpdate, iterate_crcShift, htable, ← iterate_crcShift]
  show word 0#8 (hiByte crc) ^^^ crcTableEntry (loByte crc ^^^ b) = _
  apply word_ext
  · rw [hiByte_xor, hiByte_word, hiByte_word, BitVec.zero_xor]
  · rw [loByte_xor, loByte_word, loByte_word]

/-- What storing the bytes of a table entry the other way round adds. -/
def crcSwapSlip (idx : Byte) : Word :=
  let entry := crcTableEntry idx
  entry ^^^ word (loByte entry) (hiByte entry)

theorem crcTableUpdate_xor_bitwise (crc : Word) (b : Byte) :
    crcTableUpdate crc b ^^^ crcBitwiseUpdate crc b = crcSwapSlip (loByte crc ^^^ b) := by
  rw [crcBitwiseUpdate_eq_table]
  simp only [crcTableUpdate, crcSwapSlip]
  generalize crcTableEntry (loByte crc ^^^ b) = entry
  have hcancel : hiByte crc ^^^ hiByte entry ^^^ (hiByte crc ^^^ loByte entry) =
      loByte entry ^^^ hiByte entry := by
    rw [BitVec.xor_comm (hiByte crc) (hiByte entry), BitVec.xor_assoc,
      ← BitVec.xor_assoc (hiByte crc), BitVec.xor_self, BitVec.zero_xor, BitVec.xor_comm]
  rw [word_xor, hcancel]
  apply word_ext
  · rw [hiByte_word, hiByte_xor, hiByte_word, BitVec.xor_comm]
  · rw [loByte_word, loByte_xor, loByte_word]

/-- Only the first and the last entry of the table have two equal bytes. -/
theorem crcSwapSlip_eq_zero_iff (idx : Byte) : crcSwapSlip idx = 0 ↔ idx = 0x00 ∨ idx = 0xFF := by
  revert idx
  decide +kernel

/-- The code takes a byte as the definition does where the index is `0x00` or `0xFF`. -/
theorem crcTableUpdate_eq_bitwise_iff (crc : Word) (b : Byte) :
    crcTableUpdate crc b = crcBitwiseUpdate crc b ↔
      loByte crc ^^^ b = 0x00 ∨ loByte crc ^^^ b = 0xFF := by
  rw [← crcSwapSlip_eq_zero_iff, ← crcTableUpdate_xor_bitwise]
  exact BitVec.xor_eq_zero_iff.symm

/-! ## The strings that hide the swap -/

/-- Each byte is `0x00` or `0xFF`; where the top bits of the two bytes before it
differ, it is `0x40` or `0xBF`. -/
def FlatBytes : Bool → Bool → List Byte → Prop
  | _, _, [] => True
  | before, last, b :: buf =>
      (if before = last then b = 0x00 ∨ b = 0xFF else b = 0x40 ∨ b = 0xBF) ∧
        FlatBytes last b.msb buf

/-- A string whose bytes are flat once its first two are complemented, which is
what starting the register at `0xFFFF` does to them. -/
def SwapHidden : List Byte → Prop
  | [] => True
  | [a] => FlatBytes false false [~~~a]
  | a :: b :: buf => FlatBytes false false (~~~a :: ~~~b :: buf)

/-- The register behind flat bytes, by the top bits of the last two. -/
def flatRegister (before last : Bool) : Word :=
  word (if last then 0x40 else 0x00) (if before = last then 0x00 else 0x40)

theorem loByte_flatRegister_xor (before last : Bool) (b : Byte) :
    (loByte (flatRegister before last) ^^^ b = 0x00 ∨
        loByte (flatRegister before last) ^^^ b = 0xFF) ↔
      if before = last then b = 0x00 ∨ b = 0xFF else b = 0x40 ∨ b = 0xBF := by
  revert b
  cases before <;> cases last <;> decide +kernel

/-- A flat byte leaves such a register again. -/
theorem crcBitwiseUpdate_flatRegister {before last : Bool} {b : Byte}
    (h : if before = last then b = 0x00 ∨ b = 0xFF else b = 0x40 ∨ b = 0xBF) :
    crcBitwiseUpdate (flatRegister before last) b = flatRegister last b.msb := by
  cases before <;> cases last <;> obtain rfl | rfl := h <;> decide +kernel

theorem agreeAlong_flatRegister_iff (before last : Bool) (buf : List Byte) :
    AgreeAlong crcBitwiseUpdate crcTableUpdate (flatRegister before last) buf ↔
      FlatBytes before last buf := by
  induction buf generalizing before last with
  | nil => exact Iff.rfl
  | cons b buf ih =>
      rw [AgreeAlong, FlatBytes, crcTableUpdate_eq_bitwise_iff, loByte_flatRegister_xor]
      refine and_congr_right fun hflat => ?_
      rw [crcBitwiseUpdate_flatRegister hflat]
      exact ih last b.msb

/-- A complemented low byte of the register complements the byte it takes. -/
theorem xor_setWidth_not (crc : Word) (b : Byte) :
    crc ^^^ 0x00FF ^^^ b.setWidth 16 = crc ^^^ (~~~b).setWidth 16 := by
  have hnot : (0x00FF : Word) ^^^ b.setWidth 16 = (~~~b).setWidth 16 := by
    revert b
    decide +kernel
  rw [BitVec.xor_assoc, hnot]

theorem crcBitwiseUpdate_xor_low (crc : Word) (b : Byte) :
    crcBitwiseUpdate (crc ^^^ 0x00FF) b = crcBitwiseUpdate crc (~~~b) := by
  rw [crcBitwiseUpdate, crcBitwiseUpdate, xor_setWidth_not]

/-- The start value complements the first byte and, moved down, the second. -/
theorem crcBitwiseUpdate_start (a : Byte) :
    crcBitwiseUpdate 0xFFFF a = crcBitwiseUpdate 0 (~~~a) ^^^ 0x00FF := by
  revert a
  decide +kernel

theorem loByte_xor_low (crc : Word) (b : Byte) :
    loByte (crc ^^^ 0x00FF) ^^^ b = loByte crc ^^^ ~~~b := by
  rw [loByte_xor, BitVec.xor_assoc]
  rfl

theorem crcTableUpdate_eq_bitwise_xor_low_iff (crc : Word) (b : Byte) :
    crcTableUpdate (crc ^^^ 0x00FF) b = crcBitwiseUpdate (crc ^^^ 0x00FF) b ↔
      crcTableUpdate crc (~~~b) = crcBitwiseUpdate crc (~~~b) := by
  rw [crcTableUpdate_eq_bitwise_iff, crcTableUpdate_eq_bitwise_iff, loByte_xor_low]

theorem crcTableUpdate_eq_bitwise_start_iff (a : Byte) :
    crcTableUpdate 0xFFFF a = crcBitwiseUpdate 0xFFFF a ↔
      crcTableUpdate 0 (~~~a) = crcBitwiseUpdate 0 (~~~a) := by
  have hstart : (0xFFFF : Word) = 0xFF00 ^^^ 0x00FF := by decide
  have hlow : loByte 0xFF00 = loByte 0 := by decide
  rw [hstart, crcTableUpdate_eq_bitwise_xor_low_iff, crcTableUpdate_eq_bitwise_iff,
    crcTableUpdate_eq_bitwise_iff, hlow]

/-- The code follows the definition byte by byte exactly along the strings that
hide the swap. -/
theorem agreeAlong_iff_swapHidden (buf : List Byte) :
    AgreeAlong crcBitwiseUpdate crcTableUpdate 0xFFFF buf ↔ SwapHidden buf := by
  have hzero (msg : List Byte) : AgreeAlong crcBitwiseUpdate crcTableUpdate 0 msg ↔
      FlatBytes false false msg :=
    agreeAlong_flatRegister_iff false false msg
  match buf with
  | [] => exact Iff.rfl
  | [a] =>
      rw [SwapHidden, ← hzero, AgreeAlong, AgreeAlong, crcTableUpdate_eq_bitwise_start_iff]
      exact Iff.rfl
  | a :: b :: buf =>
      rw [SwapHidden, ← hzero, AgreeAlong, AgreeAlong, crcTableUpdate_eq_bitwise_start_iff,
        crcBitwiseUpdate_start, AgreeAlong, AgreeAlong,
        crcTableUpdate_eq_bitwise_xor_low_iff, crcBitwiseUpdate_xor_low]

/-- `modbus_crc16` is CRC-16/MODBUS for the strings that hide the swap, and it
gets every prefix of a string right only if the string is one of these. -/
theorem modbusCrc16_eq_crcBitwise_of_swapHidden (tables : CrcTables) (buf : List Byte) :
    (SwapHidden buf → (modbusCrc16 tables buf).1 = crcBitwise buf) ∧
      ((∀ pre, pre <+: buf → (modbusCrc16 tables pre).1 = crcBitwise pre) → SwapHidden buf) := by
  rw [← agreeAlong_iff_swapHidden]
  simp only [fst_modbusCrc16, crcBitwise]
  exact ⟨AgreeAlong.digest_eq, agreeAlong_of_prefixes⟩

-- Elsewhere the slips of three or more bytes can still cancel.
example : ¬ SwapHidden [0x02, 0x7F, 0x40] ∧
    digest crcTableUpdate 0xFFFF [0x02, 0x7F, 0x40] = crcBitwise [0x02, 0x7F, 0x40] := by
  refine ⟨?_, by decide +kernel⟩
  simp [SwapHidden, FlatBytes]

/-- For a request to read ten holding registers the code computes `0x40ED`,
where CRC-16/MODBUS is `0xCDC5`. -/
theorem modbusCrc16_ne_crcBitwise :
    (modbusCrc16 CrcTables.boot [0x01, 0x03, 0x00, 0x00, 0x00, 0x0A]).1 ≠
      crcBitwise [0x01, 0x03, 0x00, 0x00, 0x00, 0x0A] := by
  rw [fst_modbusCrc16]
  decide +kernel

end AutomationBoard.Modbus
