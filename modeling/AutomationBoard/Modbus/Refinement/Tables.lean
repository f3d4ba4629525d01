/-
# The dispatcher refines flat arrays

A table request is encoded, dispatched, and answered: the arrays that the store
holds afterwards are those the request makes of them, and the response carries
the elements of these arrays. Everything between, from the parser to the packed
bytes of the coil table, is gone from the statement.
-/

import AutomationBoard.Modbus.FlatTables
import AutomationBoard.Modbus.Grammar

namespace AutomationBoard.Modbus

open AutomationBoard.Math AutomationBoard.Program

variable {cfg : Config}

/-! ## Encoded requests parse -/

theorem length_fields (values : List ℕ) : (fields values).length = 2 * values.length := by
  rw [fields, length_bytesOfWords, List.length_map]

theorem toNat_ofNat_word {n : ℕ} (h : n ≤ 65535) : (BitVec.ofNat 16 n).toNat = n := by
  rw [BitVec.toNat_ofNat]
  omega

theorem toNat_ofNat_byte {n : ℕ} (h : n ≤ 255) : (BitVec.ofNat 8 n).toNat = n := by
  rw [BitVec.toNat_ofNat]
  omega

theorem parseSpan_ofNat {limit size : ℕ} (span : Span limit size) (hsize : size ≤ 65535) :
    parseSpan limit size (BitVec.ofNat 16 span.start) (BitVec.ofNat 16 span.count) = .ok span := by
  obtain ⟨start, count, hpos, hlimit, hfits⟩ := span
  have hstart := toNat_ofNat_word (n := start) (by omega)
  have hcount := toNat_ofNat_word (n := count) (by omega)
  unfold parseSpan
  simp only [hstart, hcount]
  rw [dif_pos ⟨hpos, hlimit⟩, dif_pos hfits]

theorem parseAddr_ofNat {size : ℕ} (addr : Fin size) (hsize : size ≤ 65535) :
    parseAddr size (BitVec.ofNat 16 addr) = .ok addr := by
  have haddr := toNat_ofNat_word (n := addr) (by omega)
  unfold parseAddr
  simp only [haddr]
  rw [dif_pos addr.isLt]

theorem byteAt_append_length (head rest : List Byte) (i : ℕ) :
    byteAt (head ++ rest) (head.length + i) = byteAt rest i := by
  simp [byteAt, List.getElem?_append_right]

theorem wordAt_bytesOfWords (values : List Word) {i : ℕ} (h : i < values.length) :
    wordAt (bytesOfWords values) (2 * i) = values[i] := by
  induction values generalizing i with
  | nil => exact absurd h (Nat.not_lt_zero i)
  | cons w values ih =>
      cases i with
      | zero => exact word_hiByte_loByte w
      | succ i => exact ih (Nat.lt_of_succ_lt_succ h)

/-- A word behind a prefix of a PDU. -/
theorem wordAt_append_bytesOfWords (head : List Byte) (values : List Word) {i : ℕ}
    (h : i < values.length) :
    wordAt (head ++ bytesOfWords values) (head.length + 2 * i) = values[i] := by
  rw [wordAt, byteAt_append_length, Nat.add_assoc, byteAt_append_length]
  exact wordAt_bytesOfWords values h

theorem wordsAt_append_bytesOfWords (head : List Byte) (values : List Word) :
    wordsAt (head ++ bytesOfWords values) head.length values.length = values := by
  apply List.ext_getElem (length_wordsAt _ _ _)
  intro i _ hi
  simp only [wordsAt, List.getElem_map, List.getElem_range, Nat.mul_comm i 2,
    wordAt_append_bytesOfWords head values hi]

theorem parseRead_fields {limit size : ℕ} (fc : Byte) (span : Span limit size)
    (hsize : size ≤ 65535) :
    parseRead limit size (fc :: fields [span.start, span.count]) = .ok span := by
  have hlength : (fc :: fields [span.start, span.count]).length = 5 := rfl
  have hstart : wordAt (fc :: fields [span.start, span.count]) 1 = BitVec.ofNat 16 span.start :=
    word_hiByte_loByte _
  have hcount : wordAt (fc :: fields [span.start, span.count]) 3 = BitVec.ofNat 16 span.count :=
    word_hiByte_loByte _
  rw [parseRead, if_neg (not_not_intro hlength), hstart, hcount, parseSpan_ofNat span hsize]

namespace TableRequest

theorem functionCode_encode (r : TableRequest cfg) :
    FunctionCode.ofByte (byteAt r.encode 0) = some r.toRequest.functionCode := by
  cases r <;> rfl

theorem parseWriteSingleCoil_encode (hsize : cfg.maxCoils ≤ 65535) (addr : Fin cfg.maxCoils)
    (on : Bool) :
    parseWriteSingleCoil cfg (writeSingleCoil addr on).encode = .ok (.writeSingleCoil addr on) := by
  have hlength : (writeSingleCoil addr on).encode.length = 5 := rfl
  have haddr : wordAt (writeSingleCoil addr on).encode 1 = BitVec.ofNat 16 addr :=
    word_hiByte_loByte _
  have hvalue : wordAt (writeSingleCoil addr on).encode 3 =
      BitVec.ofNat 16 (if on then 0xFF00 else 0x0000) := word_hiByte_loByte _
  rw [parseWriteSingleCoil, if_neg (not_not_intro hlength), haddr, hvalue, parseAddr_ofNat addr hsize]
  cases on <;> rfl

theorem parseWriteSingleRegister_encode (hsize : cfg.maxRegisters ≤ 65535)
    (addr : Fin cfg.maxRegisters) (value : Word) :
    parseWriteSingleRegister cfg (writeSingleRegister addr value).encode =
      .ok (.writeSingleRegister addr value) := by
  have hlength : (writeSingleRegister addr value).encode.length = 5 := rfl
  have haddr : wordAt (writeSingleRegister addr value).encode 1 = BitVec.ofNat 16 addr :=
    word_hiByte_loByte _
  have hvalue : wordAt (writeSingleRegister addr value).encode 3 = value := word_hiByte_loByte _
  rw [parseWriteSingleRegister, if_neg (not_not_intro hlength), haddr, hvalue,
    parseAddr_ofNat addr hsize]
  rfl

theorem parseWriteMultipleCoils_encode (hsize : cfg.maxCoils ≤ 65535)
    (write : CoilWrite maxWriteCoils cfg.maxCoils) :
    parseWriteMultipleCoils cfg (writeMultipleCoils write).encode =
      .ok (.writeMultipleCoils write) := by
  have hlimit : write.count ≤ 1968 := write.le_limit
  have hdata := write.length_eq
  have hlength : (writeMultipleCoils write).encode.length = 6 + write.data.length := by
    simp only [encode, List.length_cons, List.length_append, length_fields, List.length_nil]
    omega
  have hstart : wordAt (writeMultipleCoils write).encode 1 = BitVec.ofNat 16 write.start :=
    word_hiByte_loByte _
  have hcount : wordAt (writeMultipleCoils write).encode 3 = BitVec.ofNat 16 write.count :=
    word_hiByte_loByte _
  have hbyteCount : (byteAt (writeMultipleCoils write).encode 5).toNat = write.data.length :=
    toNat_ofNat_byte (by omega)
  rw [parseWriteMultipleCoils, if_neg (by omega), hstart, hcount,
    parseSpan_ofNat write.toSpan hsize]
  exact dif_pos ⟨hbyteCount.trans hdata, hlength.trans (by rw [hbyteCount])⟩

theorem parseWriteMultipleRegisters_encode (hsize : cfg.maxRegisters ≤ 65535)
    (write : RegisterWrite maxWriteRegisters cfg.maxRegisters) :
    parseWriteMultipleRegisters cfg (writeMultipleRegisters write).encode =
      .ok (.writeMultipleRegisters write) := by
  have hlimit : write.values.length ≤ 123 := write.le_limit
  have hlength : (writeMultipleRegisters write).encode.length = 6 + 2 * write.values.length := by
    simp only [encode, List.length_cons, List.length_append, length_fields, List.length_nil,
      length_bytesOfWords]
    omega
  have hstart : wordAt (writeMultipleRegisters write).encode 1 = BitVec.ofNat 16 write.start :=
    word_hiByte_loByte _
  have hcount : wordAt (writeMultipleRegisters write).encode 3 =
      BitVec.ofNat 16 write.values.length := word_hiByte_loByte _
  have hbyteCount : (byteAt (writeMultipleRegisters write).encode 5).toNat =
      write.values.length * 2 := toNat_ofNat_byte (by omega)
  have hvalues : wordsAt (writeMultipleRegisters write).encode 6 write.values.length =
      write.values :=
    wordsAt_append_bytesOfWords (FunctionCode.writeMultipleRegisters.code ::
      (fields [write.start, write.values.length] ++ [BitVec.ofNat 8 (write.values.length * 2)]))
      write.values
  have hspan := parseSpan_ofNat (⟨write.start, write.values.length, write.positive,
    write.le_limit, write.fits⟩ : Span maxWriteRegisters cfg.maxRegisters) hsize
  rw [parseWriteMultipleRegisters, if_neg (by omega), hstart, hcount, hspan]
  refine (if_pos ⟨hbyteCount, hlength.trans (by rw [hbyteCount, Nat.mul_comm])⟩).trans ?_
  refine congrArg Except.ok (congrArg Request.writeMultipleRegisters ?_)
  exact RegisterWrite.ext rfl hvalues

/-- The fields of a combined read and write. -/
theorem parseReadWriteMultipleRegs_encode (hsize : cfg.maxRegisters ≤ 65535)
    (read : Span 0x007D cfg.maxRegisters) (write : RegisterWrite 0x0079 cfg.maxRegisters) :
    parseReadWriteMultipleRegs cfg (readWriteMultipleRegs read write).encode =
      .ok (.readWriteMultipleRegs read write) := by
  have hfits := read.fits
  have hread := read.le_limit
  have hwfits := write.fits
  have hlimit := write.le_limit
  have hlength : (readWriteMultipleRegs read write).encode.length =
      10 + 2 * write.values.length := by
    simp only [encode, List.length_cons, List.length_append, length_fields, List.length_nil,
      length_bytesOfWords]
    omega
  have hreadStart : (wordAt (readWriteMultipleRegs read write).encode 1).toNat = read.start :=
    (congrArg BitVec.toNat (word_hiByte_loByte _)).trans (toNat_ofNat_word (by omega))
  have hreadQty : (wordAt (readWriteMultipleRegs read write).encode 3).toNat = read.count :=
    (congrArg BitVec.toNat (word_hiByte_loByte _)).trans (toNat_ofNat_word (by omega))
  have hwriteStart : (wordAt (readWriteMultipleRegs read write).encode 5).toNat = write.start :=
    (congrArg BitVec.toNat (word_hiByte_loByte _)).trans (toNat_ofNat_word (by omega))
  have hwriteQty : (wordAt (readWriteMultipleRegs read write).encode 7).toNat =
      write.values.length :=
    (congrArg BitVec.toNat (word_hiByte_loByte _)).trans (toNat_ofNat_word (by omega))
  have hbyteCount : (byteAt (readWriteMultipleRegs read write).encode 9).toNat =
      write.values.length * 2 := toNat_ofNat_byte (by omega)
  have hvalues : wordsAt (readWriteMultipleRegs read write).encode 10 write.values.length =
      write.values :=
    wordsAt_append_bytesOfWords (FunctionCode.readWriteMultipleRegs.code ::
      (fields [read.start, read.count, write.start, write.values.length] ++
        [BitVec.ofNat 8 (write.values.length * 2)])) write.values
  have hchecks : (1 ≤ read.count ∧ read.count ≤ 0x007D) ∧
      (1 ≤ write.values.length ∧ write.values.length ≤ 0x0079) ∧
      True ∧
      (readWriteMultipleRegs read write).encode.length = 10 + write.values.length * 2 :=
    ⟨⟨read.positive, read.le_limit⟩, ⟨write.positive, write.le_limit⟩, trivial,
      hlength.trans (by rw [Nat.mul_comm])⟩
  rw [parseReadWriteMultipleRegs, if_neg (by omega)]
  simp only [hreadStart, hreadQty, hwriteStart, hwriteQty, hbyteCount]
  rw [dif_pos hchecks, dif_pos ⟨hfits, hwfits⟩]
  refine congrArg Except.ok (congrArg (Request.readWriteMultipleRegs read) ?_)
  exact RegisterWrite.ext rfl hvalues

theorem parseMaskWriteRegister_encode (hsize : cfg.maxRegisters ≤ 65535)
    (addr : Fin cfg.maxRegisters) (andMask orMask : Word) :
    parseMaskWriteRegister cfg (maskWriteRegister addr andMask orMask).encode =
      .ok (.maskWriteRegister addr andMask orMask) := by
  have hlength : (maskWriteRegister addr andMask orMask).encode.length = 7 := rfl
  have haddr : wordAt (maskWriteRegister addr andMask orMask).encode 1 = BitVec.ofNat 16 addr :=
    word_hiByte_loByte _
  have hand : wordAt (maskWriteRegister addr andMask orMask).encode 3 = andMask :=
    word_hiByte_loByte _
  have hor : wordAt (maskWriteRegister addr andMask orMask).encode 5 = orMask :=
    word_hiByte_loByte _
  rw [parseMaskWriteRegister, if_neg (not_not_intro hlength), haddr, hand, hor,
    parseAddr_ofNat addr hsize]
  rfl

end TableRequest

/-- An encoded request asks for what it encodes. -/
theorem parseRequest_encode (hcoils : cfg.maxCoils ≤ 65535)
    (hregisters : cfg.maxRegisters ≤ 65535) (r : TableRequest cfg) :
    parseRequest cfg r.encode = .ok r.toRequest := by
  rw [parseRequest, r.functionCode_encode]
  cases r with
  | readCoils span | readDiscreteInputs span =>
      simp only [TableRequest.toRequest, Request.functionCode, TableRequest.encode]
      rw [parseRead_fields _ span hcoils]
      rfl
  | readHoldingRegisters span | readInputRegisters span =>
      simp only [TableRequest.toRequest, Request.functionCode, TableRequest.encode]
      rw [parseRead_fields _ span hregisters]
      rfl
  | writeSingleCoil addr on => exact TableRequest.parseWriteSingleCoil_encode hcoils addr on
  | writeSingleRegister addr value =>
      exact TableRequest.parseWriteSingleRegister_encode hregisters addr value
  | writeMultipleCoils write => exact TableRequest.parseWriteMultipleCoils_encode hcoils write
  | writeMultipleRegisters write =>
      exact TableRequest.parseWriteMultipleRegisters_encode hregisters write
  | maskWriteRegister addr andMask orMask =>
      exact TableRequest.parseMaskWriteRegister_encode hregisters addr andMask orMask
  | readWriteMultipleRegs read write =>
      exact TableRequest.parseReadWriteMultipleRegs_encode hregisters read write

/-! ## Writing the tables -/

theorem bitArray_modbusBitWrite (table : Vector Byte cfg.coilBytes) (addr : ℕ) (on : Bool) :
    bitArray (modbusBitWrite cfg table addr ((BitVec.ofBool on).setWidth 8)) =
      writeAt (bitArray table) addr on := by
  funext i
  have hvalue : decide ((BitVec.ofBool on).setWidth 8 ≠ (0 : Byte)) = on := by
    cases on <;> decide
  rw [bitArray, bitAt_modbusBitWrite, hvalue, writeAt]
  by_cases hi : i.val = addr
  · rw [if_pos ⟨hi, hi ▸ i.isLt⟩, if_pos hi]
  · rw [if_neg (fun h => hi h.1), if_neg hi, bitArray]

theorem regArray_modbusRegsWrite (regs : Vector Word cfg.maxRegisters) (addr : ℕ) (value : Word) :
    regArray (modbusRegsWrite cfg regs addr value) = writeAt (regArray regs) addr value := by
  funext i
  by_cases haddr : addr < cfg.maxRegisters
  · by_cases hi : i.val = addr
    · simp [regArray, modbusRegsWrite, haddr, regAt, writeAt, hi]
    · have hne : addr ≠ i.val := fun h => hi h.symm
      simp [regArray, modbusRegsWrite, haddr, regAt, writeAt, hi, hne]
  · have hi : i.val ≠ addr := by omega
    simp [regArray, modbusRegsWrite, haddr, writeAt, hi]

theorem bitArray_coilsWritten (table : Vector Byte cfg.coilBytes) (start : ℕ) (bit : ℕ → Bool)
    (n : ℕ) : bitArray (coilsWritten table start bit n) = writeRange (bitArray table) start n bit :=
  view_foldl_range bitArray_modbusBitWrite table start n bit

theorem regArray_registersWritten (regs : Vector Word cfg.maxRegisters) (start : ℕ)
    (value : ℕ → Word) (n : ℕ) :
    regArray (registersWritten regs start value n) = writeRange (regArray regs) start n value :=
  view_foldl_range regArray_modbusRegsWrite regs start n value

/-! ## Refreshing the inputs -/

theorem tables_mirrorDiscreteInputs (flat : cfg.Flat) (s : Store cfg) :
    (mirrorDiscreteInputs cfg s).tables =
      s.tables.refreshDiscreteInputs s.io.digitalInputStates := by
  have hfold : (mirrorDiscreteInputs cfg s).discreteBits =
      coilsWritten s.discreteBits 0 (fun i => s.io.digitalInputStates.getLsbD i) 8 := by
    refine List.foldl_ext _ _ _ fun table i hi => ?_
    have hlt : i < 8 := List.mem_range.mp hi
    have hbit := BitVec.and_one_eq_setWidth_ofBool_getLsbD (x := s.io.digitalInputStates >>> i)
    rw [BitVec.getLsbD_ushiftRight, Nat.add_zero] at hbit
    rw [flat.discreteInputOffset, uint16_of_lt (by omega)]
    exact congrArg (modbusBitWrite cfg table (0 + i)) hbit
  have hbits := bitArray_coilsWritten s.discreteBits 0
    (fun i => s.io.digitalInputStates.getLsbD i) 8
  rw [← hfold] at hbits
  exact congrArg (fun d => { s.tables with discreteInputs := d }) hbits

theorem tables_analogInputsMirrored (flat : cfg.Flat) (s : Store cfg) :
    (analogInputsMirrored s).tables = s.tables.refreshInputRegs flat := by
  have hfold : mirroredInputRegs s aiCount =
      registersWritten s.inputRegs 0 (fun i => regAt s.holdingRegs (100 + i)) 4 := by
    refine List.foldl_ext _ _ _ fun regs i _ => ?_
    rw [Nat.zero_add]
  have hregs : regArray (mirroredInputRegs s aiCount) = fun i : Fin cfg.maxRegisters =>
      if h : i.val < 4 then
        regArray s.holdingRegs ⟨100 + i, by have := flat.mirror; omega⟩
      else regArray s.inputRegs i := by
    rw [hfold, regArray_registersWritten]
    funext i
    by_cases hi : i.val < 4
    · rw [dif_pos hi]
      exact if_pos ⟨Nat.zero_le _, by omega⟩
    · rw [dif_neg hi]
      exact if_neg (by omega)
  exact congrArg (fun r => { s.tables with inputRegs := r }) hregs

theorem digitalInputStates_drivenOutputs (coils : Vector Byte cfg.coilBytes) (io : BoardIo)
    (n : ℕ) : (drivenOutputs coils io n).digitalInputStates = io.digitalInputStates := by
  induction n with
  | zero => rfl
  | succ n ih =>
      rw [drivenOutputs, List.range_succ, List.foldl_append, ← drivenOutputs, ← ih]
      unfold BoardIo.digitalOutputWrite
      simp only [List.foldl_cons, List.foldl_nil]
      split_ifs <;> rfl

theorem digitalInputStates_drivenRelays (coils : Vector Byte cfg.coilBytes) (io : BoardIo)
    (n : ℕ) : (drivenRelays coils io n).digitalInputStates = io.digitalInputStates := by
  induction n with
  | zero => rfl
  | succ n ih =>
      rw [drivenRelays, List.range_succ, List.foldl_append, ← drivenRelays, ← ih]
      unfold BoardIo.relaySet
      simp only [List.foldl_cons, List.foldl_nil]
      split_ifs <;> rfl

/-- The board's own sync drives the outputs and refreshes the inputs. -/
theorem tables_appRegistersSynced (flat : cfg.Flat) (s : Store cfg) :
    (appRegistersSynced s).tables =
      (s.tables.refreshDiscreteInputs s.io.digitalInputStates).refreshInputRegs flat := by
  let io := drivenRelays s.coilBits (drivenOutputs s.coilBits s.io doCount) relayCount
  have hinputs : io.digitalInputStates = s.io.digitalInputStates := by
    rw [digitalInputStates_drivenRelays, digitalInputStates_drivenOutputs]
  have hmirrored := tables_analogInputsMirrored flat
    (mirrorDiscreteInputs cfg { s with io := io })
  rw [tables_mirrorDiscreteInputs flat, hinputs] at hmirrored
  exact hmirrored

/-- Telling the application of a write. -/
theorem tables_registersSynced (flat : cfg.Flat) {hooks : SyncHooks cfg}
    (keeps : hooks.KeepsTables) (env : PduEnv cfg) :
    (registersSynced hooks env).store.tables =
        hooks.syncTables flat env.store.io.digitalInputStates env.store.tables ∧
      (registersSynced hooks env).store.fileStore = env.store.fileStore ∧
      (registersSynced hooks env).store.fifos = env.store.fifos := by
  unfold registersSynced SyncHooks.syncTables
  cases hhook : hooks.onRegistersWritten with
  | some hook => exact keeps hook hhook hooks.userCtx env.store
  | none => exact ⟨tables_appRegistersSynced flat env.store, rfl, rfl⟩

/-! ## Requests on the arrays -/

/-- A write to the coils. -/
theorem tables_putCoils (flat : cfg.Flat) {hooks : SyncHooks cfg} (keeps : hooks.KeepsTables)
    (env : PduEnv cfg) (f : Vector Byte cfg.coilBytes → Vector Byte cfg.coilBytes) :
    (env.putCoils hooks f).store.tables =
        hooks.syncTables flat env.store.io.digitalInputStates
          { env.store.tables with coils := bitArray (f env.store.coilBits) } ∧
      (env.putCoils hooks f).store.fileStore = env.store.fileStore ∧
      (env.putCoils hooks f).store.fifos = env.store.fifos :=
  tables_registersSynced flat keeps
    (env.updateStore fun s => { s with coilBits := f s.coilBits })

/-- A write to the holding registers. -/
theorem tables_putHoldingRegs (flat : cfg.Flat) {hooks : SyncHooks cfg}
    (keeps : hooks.KeepsTables) (env : PduEnv cfg)
    (f : Vector Word cfg.maxRegisters → Vector Word cfg.maxRegisters) :
    (env.putHoldingRegs hooks f).store.tables =
        hooks.syncTables flat env.store.io.digitalInputStates
          { env.store.tables with holdingRegs := regArray (f env.store.holdingRegs) } ∧
      (env.putHoldingRegs hooks f).store.fileStore = env.store.fileStore ∧
      (env.putHoldingRegs hooks f).store.fifos = env.store.fifos :=
  tables_registersSynced flat keeps
    (env.updateStore fun s => { s with holdingRegs := f s.holdingRegs })

/-- The tables after a request are what it makes of the arrays, and files and
queues are as before. -/
theorem tables_execute (flat : cfg.Flat) {hooks : SyncHooks cfg} (keeps : hooks.KeepsTables)
    (rx : List Byte) (env : PduEnv cfg) (r : TableRequest cfg) :
    (execute hooks rx env r.toRequest).2.store.tables =
        r.carryOut flat env.store.io.digitalInputStates
          (hooks.syncTables flat env.store.io.digitalInputStates) env.store.tables ∧
      (execute hooks rx env r.toRequest).2.store.fileStore = env.store.fileStore ∧
      (execute hooks rx env r.toRequest).2.store.fifos = env.store.fifos := by
  cases r with
  | readCoils span | readHoldingRegisters span => exact ⟨rfl, rfl, rfl⟩
  | readDiscreteInputs span => exact ⟨tables_mirrorDiscreteInputs flat env.store, rfl, rfl⟩
  | readInputRegisters span => exact ⟨tables_analogInputsMirrored flat env.store, rfl, rfl⟩
  | writeSingleCoil addr on =>
      have h := tables_putCoils flat keeps env fun t =>
        modbusBitWrite cfg t addr ((BitVec.ofBool on).setWidth 8)
      rwa [bitArray_modbusBitWrite] at h
  | writeMultipleCoils write =>
      have h := tables_putCoils flat keeps env fun t =>
        coilsWritten t write.start (bitOf write.data) write.count
      rwa [bitArray_coilsWritten] at h
  | writeSingleRegister addr value =>
      have h := tables_putHoldingRegs flat keeps env fun regs => modbusRegsWrite cfg regs addr value
      rwa [regArray_modbusRegsWrite] at h
  | maskWriteRegister addr andMask orMask =>
      have h := tables_putHoldingRegs flat keeps env fun regs => modbusRegsWrite cfg regs addr
        (maskedWord (regAt env.store.holdingRegs addr) andMask orMask)
      rwa [regArray_modbusRegsWrite] at h
  | writeMultipleRegisters write | readWriteMultipleRegs _ write =>
      have h := tables_putHoldingRegs flat keeps env fun regs =>
        registersWritten regs write.start (write.values.getD · 0) write.values.length
      rwa [regArray_registersWritten] at h

/-! ## Responses from the arrays -/

/-- A response to a read of bits carries them. -/
theorem carriesBits_bitsPdu (fc : FunctionCode) {n : ℕ} (hn : n ≤ maxReadCoils) (f : Fin n → Bool)
    (g : ℕ → Bool) (h : ∀ i : Fin n, g i = f i) : CarriesBits fc f (bitsPdu fc g n) where
  code := rfl
  byteCount := toNat_ofNat_byte (by unfold maxReadCoils at hn; omega)
  length := by
    rw [bitsPdu, List.length_cons, List.length_cons, length_packBits]
    omega
  bits i := by
    refine (bitOf_packBits g n i).trans ?_
    by_cases hi : i < n
    · rw [dif_pos hi, ← h ⟨i, hi⟩]
      simp [hi]
    · rw [dif_neg hi]
      simp [hi]

/-- A response to a read of registers carries them. -/
theorem carriesWords_registersPdu (fc : FunctionCode) {size : ℕ} (regs : Vector Word size)
    {start n : ℕ} (hn : n ≤ maxReadRegisters) (f : Fin n → Word)
    (h : ∀ i : Fin n, regAt regs (start + i) = f i) :
    CarriesWords fc f (registersPdu fc (regsAt regs start n)) where
  code := rfl
  byteCount := by
    have hlength : (regsAt regs start n).length = n := by simp [regsAt]
    refine (toNat_ofNat_byte ?_).trans ?_
    · unfold maxReadRegisters at hn
      omega
    · omega
  length := by
    rw [registersPdu, List.length_cons, List.length_cons, length_bytesOfWords, regsAt,
      List.length_map, List.length_range]
    omega
  words i := by
    have hlength : i.val < (regsAt regs start n).length := by simp [regsAt]
    refine (wordAt_append_bytesOfWords [_, _] (regsAt regs start n) hlength).trans ?_
    simp only [regsAt, List.getElem_map, List.getElem_range, h]

/-- The response to a request carries elements of the arrays after it. -/
theorem answered_execute (hooks : SyncHooks cfg) (env : PduEnv cfg) (r : TableRequest cfg) :
    r.Answered (execute hooks r.encode env r.toRequest).2.store.tables
      (execute hooks r.encode env r.toRequest).1 := by
  cases r with
  | readCoils span | readDiscreteInputs span =>
      exact carriesBits_bitsPdu _ span.le_limit _ _ fun i => rfl
  | readHoldingRegisters span | readInputRegisters span =>
      exact carriesWords_registersPdu _ _ span.le_limit _ fun i => rfl
  | readWriteMultipleRegs read write =>
      exact carriesWords_registersPdu _ _ read.le_limit _ fun i => rfl
  | writeSingleCoil | writeSingleRegister | writeMultipleCoils | writeMultipleRegisters => rfl
  | maskWriteRegister => rfl

/-! ## The refinement -/

theorem pduReply_encode (hcoils : cfg.maxCoils ≤ 65535) (hregisters : cfg.maxRegisters ≤ 65535)
    (hooks : SyncHooks cfg) (env : PduEnv cfg) (r : TableRequest cfg) :
    pduReply hooks r.encode env = execute hooks r.encode env r.toRequest := by
  rw [pduReply, parseRequest_encode hcoils hregisters, answer]

/-- Every request that writes is carried out as a broadcast too. -/
theorem broadcastDropped_encode {r : TableRequest cfg} {isBroadcast : Bool}
    (hexecuted : isBroadcast = true → r.writes = true) :
    broadcastDropped r.encode isBroadcast = false := by
  cases isBroadcast with
  | false => rfl
  | true =>
      have hwrites := hexecuted rfl
      cases r with
      | readCoils | readDiscreteInputs | readHoldingRegisters | readInputRegisters => cases hwrites
      | _ => rfl

/-- What a table request does and what it is answered with, as a unicast or, where
it writes, as a broadcast. -/
structure TablesRefined (flat : cfg.Flat) (hooks : SyncHooks cfg) (r : TableRequest cfg)
    (isBroadcast : Bool) (env : PduEnv cfg) (result : ModbusStatus × Option ℕ)
    (s' : Exchange (PduEnv cfg)) : Prop where
  answered : ∃ n, result = (.ok, some (if isBroadcast then 0 else n)) ∧
    r.Answered s'.env.store.tables (s'.tx.take n)
  tables : s'.env.store.tables = r.carryOut flat env.store.io.digitalInputStates
    (hooks.syncTables flat env.store.io.digitalInputStates) env.store.tables
  files : s'.env.store.fileStore = env.store.fileStore
  queues : s'.env.store.fifos = env.store.fifos

theorem yields_tablesRefined (flat : cfg.Flat) {hooks : SyncHooks cfg} (keeps : hooks.KeepsTables)
    (env : PduEnv cfg) (r : TableRequest cfg) {isBroadcast : Bool}
    (hexecuted : isBroadcast = true → r.writes = true) {tx : List Byte} (room : 253 ≤ tx.length) :
    Yields (modbusPduProcess hooks r.encode isBroadcast) ⟨env, tx⟩
      (TablesRefined flat hooks r isBroadcast env) := by
  have hpdu : r.encode ≠ [] := by
    cases r <;> exact List.cons_ne_nil _ _
  apply (yields_modbusPduProcess flat hooks hpdu isBroadcast (s := ⟨env, tx⟩) room).mono
  intro result s' h
  rw [if_neg (by rw [broadcastDropped_encode hexecuted]; exact Bool.false_ne_true),
    pduReply_encode flat.coils flat.registers] at h
  obtain ⟨rfl, henv, hwrote⟩ := h
  obtain ⟨htables, hfiles, hfifos⟩ := tables_execute flat keeps r.encode env r
  have hanswered := answered_execute hooks env r
  rw [← henv] at htables hfiles hfifos hanswered
  exact ⟨⟨_, rfl, by rw [hwrote.take]; exact hanswered⟩, htables, hfiles, hfifos⟩

/-- The dispatcher refines flat arrays of 128 coils, 128 discrete inputs and 256
registers of either kind. -/
theorem modbusPduProcess_tablesRefined (hooks : SyncHooks boardConfig) (keeps : hooks.KeepsTables)
    (env : PduEnv boardConfig) (r : TableRequest boardConfig) (isBroadcast : Bool)
    (hexecuted : isBroadcast = true → r.writes = true) (tx : List Byte)
    (room : 253 ≤ tx.length) :
    Yields (modbusPduProcess hooks r.encode isBroadcast) ⟨env, tx⟩
      (TablesRefined Config.boardConfig_flat hooks r isBroadcast env) :=
  yields_tablesRefined Config.boardConfig_flat keeps env r hexecuted room

/-- The board's own sync keeps to the tables. -/
theorem SyncHooks.keepsTables_none : (SyncHooks.none cfg).KeepsTables := by
  intro hook hhook
  cases hhook

/-- Registers 1 and 2 are read, after 2 and 3 are written. -/
def overlappingReadWrite : TableRequest boardConfig :=
  .readWriteMultipleRegs ⟨1, 2, by decide, by decide, by decide⟩
    ⟨2, [0x1234, 0x5678], by decide, by decide, by decide⟩

theorem modbusPduProcess_tablesRefined_overlap :
    Yields (modbusPduProcess (SyncHooks.none boardConfig) overlappingReadWrite.encode false)
      ⟨⟨Store.powerOn boardConfig, []⟩, List.replicate 253 0⟩
      (TablesRefined Config.boardConfig_flat (SyncHooks.none boardConfig) overlappingReadWrite
        false ⟨Store.powerOn boardConfig, []⟩) :=
  modbusPduProcess_tablesRefined (SyncHooks.none boardConfig) SyncHooks.keepsTables_none
    ⟨Store.powerOn boardConfig, []⟩ overlappingReadWrite false (fun h => absurd h (by decide))
    (List.replicate 253 0) (by rw [List.length_replicate])

end AutomationBoard.Modbus
