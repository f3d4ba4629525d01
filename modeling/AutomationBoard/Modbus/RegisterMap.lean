/-
# Other register maps

A project may change the table sizes and base offsets of `board_config.h`. Requests
are checked against the protocol address, and the base is added afterwards: bit
accesses and register writes are guarded once more where the table is indexed,
register reads are not. A map is served exactly if no base moves the coils or the
registers.
-/

import AutomationBoard.Modbus.Exceptions
import AutomationBoard.Modbus.Refinement.Tables

namespace AutomationBoard.Modbus

open AutomationBoard.Math AutomationBoard.Program

variable {cfg : Config}

/-! ## The public accessors -/

/-- `modbus_read_coil`. -/
def modbusReadCoil (s : Store cfg) (addr : ℕ) : Word :=
  (modbusBitRead cfg s.coilBits (uint16 (cfg.coilOffset + addr))).setWidth 16

/-- `modbus_read_discrete_input`. -/
def modbusReadDiscreteInput (s : Store cfg) (addr : ℕ) : Word :=
  (modbusBitRead cfg s.discreteBits (uint16 (cfg.discreteInputOffset + addr))).setWidth 16

/-- `modbus_read_holding_register`. -/
def modbusReadHoldingRegister (addr : ℕ) : Checked Fault (Store cfg) Word :=
  if addr ≥ cfg.maxRegisters then pure 0 else holdingReg cfg (cfg.holdingRegOffset + addr)

/-- `modbus_read_input_register`. -/
def modbusReadInputRegister (addr : ℕ) : Checked Fault (Store cfg) Word :=
  if addr ≥ cfg.maxRegisters then pure 0 else inputReg cfg (cfg.inputRegOffset + addr)

/-! ## What a map asks for -/

/-- An address is one of `count` from `start` on. -/
def within (start count : Word) (addr : ℕ) : Prop :=
  start.toNat ≤ addr ∧ addr < start.toNat + count.toNat

instance (start count : Word) (addr : ℕ) : Decidable (within start count addr) :=
  inferInstanceAs (Decidable (_ ∧ _))

/-- The value that a write request has for the coil at a protocol address. -/
def coilValueOf (rx : List Byte) (addr : ℕ) : Option Bool :=
  match FunctionCode.ofByte (byteAt rx 0) with
  | some .writeSingleCoil =>
      if addr = (wordAt rx 1).toNat then some (wordAt rx 3 = 0xFF00) else none
  | some .writeMultipleCoils =>
      if within (wordAt rx 1) (wordAt rx 3) addr then
        some (bitOf (rx.drop 6) (addr - (wordAt rx 1).toNat))
      else none
  | _ => none

/-- The value that a write request has for the holding register at a protocol
address, given the value that is there: a mask write depends on it. -/
def registerValueOf (rx : List Byte) (old : Word) (addr : ℕ) : Option Word :=
  match FunctionCode.ofByte (byteAt rx 0) with
  | some .writeSingleRegister =>
      if addr = (wordAt rx 1).toNat then some (wordAt rx 3) else none
  | some .writeMultipleRegisters =>
      if within (wordAt rx 1) (wordAt rx 3) addr then
        some (wordAt rx (6 + (addr - (wordAt rx 1).toNat) * 2))
      else none
  | some .maskWriteRegister =>
      if addr = (wordAt rx 1).toNat then some (maskedWord old (wordAt rx 3) (wordAt rx 5))
      else none
  | some .readWriteMultipleRegs =>
      if within (wordAt rx 5) (wordAt rx 7) addr then
        some (wordAt rx (10 + (addr - (wordAt rx 5).toNat) * 2))
      else none
  | _ => none

/-- A hook that is told of a write does not write the coils and holding registers. -/
def SyncHooks.KeepsWritten (hooks : SyncHooks cfg) : Prop :=
  ∀ hook, hooks.onRegistersWritten = some hook → ∀ ctx s,
    (hook ctx s).coilBits = s.coilBits ∧ (hook ctx s).holdingRegs = s.holdingRegs

/-- A coil reads as a value, by the accessor and by every read request for it. -/
structure CoilReads (env : PduEnv cfg) (addr : ℕ) (value : Bool) : Prop where
  accessor : modbusReadCoil env.store addr = if value then 1 else 0
  request : ∀ (hooks : SyncHooks cfg) (span : Span maxReadCoils cfg.maxCoils),
    span.start ≤ addr → addr < span.start + span.count → ∀ tx : List Byte, 253 ≤ tx.length →
      Yields (modbusPduProcess hooks
          (FunctionCode.readCoils.code :: fields [span.start, span.count]) false)
        ⟨env, tx⟩ fun r t => ∃ n, r = (.ok, some n) ∧
          byteAt (t.tx.take n) 0 = FunctionCode.readCoils.code ∧
          bitOf ((t.tx.take n).drop 2) (addr - span.start) = value

/-- A holding register reads as a value, by the accessor and by every read request
for it. -/
structure RegisterReads (env : PduEnv cfg) (addr : ℕ) (value : Word) : Prop where
  accessor : Yields (modbusReadHoldingRegister addr) env.store fun w _ => w = value
  request : ∀ (hooks : SyncHooks cfg) (span : Span maxReadRegisters cfg.maxRegisters),
    span.start ≤ addr → addr < span.start + span.count → ∀ tx : List Byte, 253 ≤ tx.length →
      Yields (modbusPduProcess hooks
          (FunctionCode.readHoldingRegisters.code :: fields [span.start, span.count]) false)
        ⟨env, tx⟩ fun r t => ∃ n, r = (.ok, some n) ∧
          byteAt (t.tx.take n) 0 = FunctionCode.readHoldingRegisters.code ∧
          wordAt (t.tx.take n) (2 + 2 * (addr - span.start)) = value

/-- After a write request the coils and registers that it names read as its values. -/
structure StoredValues (rx : List Byte) (env env' : PduEnv cfg) : Prop where
  coils : ∀ addr value, coilValueOf rx addr = some value → CoilReads env' addr value
  registers : ∀ addr value,
    registerValueOf rx (regAt env.store.holdingRegs (cfg.holdingRegOffset + addr)) addr =
        some value →
      RegisterReads env' addr value

/-- A map is served: no request and no accessor indexes outside a table, and a write
that is answered normally has stored its values. -/
structure Config.Served (cfg : Config) : Prop where
  requests : ∀ (hooks : SyncHooks cfg) (rx : List Byte) (isBroadcast : Bool)
    (s : Exchange (PduEnv cfg)), 253 ≤ s.tx.length →
      Yields (modbusPduProcess hooks rx isBroadcast) s fun _ _ => True
  holdingRegisters : ∀ (s : Store cfg) (addr : Word),
    Yields (modbusReadHoldingRegister addr.toNat) s fun _ _ => True
  inputRegisters : ∀ (s : Store cfg) (addr : Word),
    Yields (modbusReadInputRegister addr.toNat) s fun _ _ => True
  writes : ∀ (hooks : SyncHooks cfg), hooks.KeepsWritten → ∀ (rx : List Byte)
    (isBroadcast : Bool) (s : Exchange (PduEnv cfg)), 253 ≤ s.tx.length →
      Yields (modbusPduProcess hooks rx isBroadcast) s fun r s' =>
        AnsweredNormally rx r s' → StoredValues rx s.env s'.env

/-! ## Discrete inputs with a base -/

section Discrete

variable {hooks : SyncHooks cfg} {rx : List Byte} {env : PduEnv cfg}

/-- A read of discrete inputs is answered, wherever their base puts them. -/
theorem exists_answers_readDiscreteInputs (rx : List Byte) (env : PduEnv cfg) :
    ∃ reply, ∀ start quantity, (rx.length = 5 → start = wordAt rx 1 ∧ quantity = wordAt rx 3) →
      Answers (readBits cfg rx .readDiscreteInputs start quantity) env
        FunctionCode.readDiscreteInputs.code reply := by
  have hrefused (e : ExceptionCode) :=
    answers_modbusExceptionResponse env FunctionCode.readDiscreteInputs.code e
  by_cases hlength : rx.length ≠ 5
  · exact ⟨_, fun start quantity _ => by rw [readBits, if_pos hlength]; exact hrefused _⟩
  by_cases hquantity : (wordAt rx 3).toNat < 1 ∨ (wordAt rx 3).toNat > maxReadCoils
  · refine ⟨(exceptionPdu FunctionCode.readDiscreteInputs.code .illegalDataValue, env),
      fun start quantity hfields => ?_⟩
    obtain ⟨rfl, rfl⟩ := hfields (not_not.mp hlength)
    rw [readBits, if_neg hlength, if_pos hquantity]
    exact hrefused _
  by_cases hvalid : ¬ modbusAddressRangeValid (wordAt rx 1).toNat (wordAt rx 3).toNat cfg.maxCoils
  · refine ⟨(exceptionPdu FunctionCode.readDiscreteInputs.code .illegalDataAddress, env),
      fun start quantity hfields => ?_⟩
    obtain ⟨rfl, rfl⟩ := hfields (not_not.mp hlength)
    rw [readBits, if_neg hlength, if_neg hquantity, if_pos hvalid]
    exact hrefused _
  let env' := env.updateStore (mirrorDiscreteInputs cfg)
  refine ⟨(bitsPdu .readDiscreteInputs (fun i => bitAt env'.store.discreteBits
    (uint16 (cfg.discreteInputOffset + uint16 ((wordAt rx 1).toNat + i)))) (wordAt rx 3).toNat,
    env'), fun start quantity hfields => ?_⟩
  obtain ⟨rfl, rfl⟩ := hfields (not_not.mp hlength)
  rw [readBits, if_neg hlength, if_neg hquantity, if_neg hvalid]
  intro given tx room hwrote
  simp only [if_true]
  rw [yields_bind, yields_onEnv, yields_onStore, yields_modify]
  refine yields_bitsPdu room hwrote (by omega) fun i b hb hin val t henv => ?_
  rw [yields_bind, yields_get]
  by_cases hend : b + i * 8 ≥ (wordAt rx 3).toNat
  · simp [hend]
  · simp [hend, henv, modbusBitRead_eq, env', PduEnv.updateStore, Nat.add_assoc]

/-- The exception status is answered, wherever the base of the discrete inputs puts
them. -/
theorem exists_answers_readExceptionStatus (rx : List Byte) (env : PduEnv cfg) :
    ∃ reply, Answers (readExceptionStatus cfg rx .readExceptionStatus) env
      FunctionCode.readExceptionStatus.code reply := by
  by_cases hlength : rx.length ≠ 1
  · rw [readExceptionStatus, if_pos hlength]
    exact ⟨_, answers_modbusExceptionResponse env _ _⟩
  rw [readExceptionStatus, if_neg hlength]
  let env' := env.updateStore (mirrorDiscreteInputs cfg)
  let status := (List.range 8).foldl (fun (status : Byte) i =>
    if modbusBitRead cfg env'.store.discreteBits (uint16 (cfg.discreteInputOffset + i)) ≠ 0 then
      status ||| 1#8 <<< i
    else status) 0
  refine ⟨([FunctionCode.readExceptionStatus.code, status], env'), ?_⟩
  intro given tx room hwrote
  have hin := hwrote.length
  simp only [yields_bind, yields_onEnv, yields_onStore, yields_modify, yields_get, yields_txSet,
    yields_pure, List.length_set]
  have hset := hwrote.set FunctionCode.readExceptionStatus.code (i := 0) (by simp)
  exact ⟨by omega, by omega, rfl, rfl, hset.push room status (by simp)⟩

/-- Every request is answered. -/
theorem exists_answers_dispatch (direct : cfg.Direct) (hooks : SyncHooks cfg) (rx : List Byte)
    (env : PduEnv cfg) :
    ∃ reply, ∀ start quantity, (5 ≤ rx.length → start = wordAt rx 1 ∧ quantity = wordAt rx 3) →
      Answers (dispatch hooks rx (byteAt rx 0) start quantity) env (byteAt rx 0) reply := by
  by_cases hinputs : byteAt rx 0 = FunctionCode.readDiscreteInputs.code
  · obtain ⟨reply, hreply⟩ := exists_answers_readDiscreteInputs rx env
    refine ⟨reply, fun start quantity hfields => ?_⟩
    rw [dispatch, hinputs, FunctionCode.ofByte_code]
    exact hreply start quantity fun h => hfields h.ge
  by_cases hstatus : byteAt rx 0 = FunctionCode.readExceptionStatus.code
  · obtain ⟨reply, hreply⟩ := exists_answers_readExceptionStatus rx env
    refine ⟨reply, fun start quantity hfields => ?_⟩
    rw [dispatch, hstatus, FunctionCode.ofByte_code]
    exact hreply
  · exact ⟨_, fun start quantity hfields => answers_dispatch_direct direct hooks rx env
      (fun h => (h.elim hinputs hstatus).elim) hfields⟩

end Discrete

/-! ## Stored values -/

section Stored

variable {hooks : SyncHooks cfg} {rx : List Byte} {env : PduEnv cfg} {r : Request cfg} {addr : ℕ}

/-- Telling the application of a write leaves what was written. -/
theorem written_registersSynced (keeps : hooks.KeepsWritten) (env : PduEnv cfg) :
    (registersSynced hooks env).store.coilBits = env.store.coilBits ∧
      (registersSynced hooks env).store.holdingRegs = env.store.holdingRegs := by
  unfold registersSynced
  cases hhook : hooks.onRegistersWritten with
  | some hook => exact keeps hook hhook hooks.userCtx env.store
  | none => exact ⟨rfl, rfl⟩

theorem coilBits_putCoils (keeps : hooks.KeepsWritten) (env : PduEnv cfg)
    (f : Vector Byte cfg.coilBytes → Vector Byte cfg.coilBytes) :
    (env.putCoils hooks f).store.coilBits = f env.store.coilBits :=
  (written_registersSynced keeps _).1

theorem holdingRegs_putHoldingRegs (keeps : hooks.KeepsWritten) (env : PduEnv cfg)
    (f : Vector Word cfg.maxRegisters → Vector Word cfg.maxRegisters) :
    (env.putHoldingRegs hooks f).store.holdingRegs = f env.store.holdingRegs :=
  (written_registersSynced keeps _).2

theorem bitAt_modbusBitWrite_self (table : Vector Byte cfg.coilBytes) (a : Fin cfg.maxCoils)
    (on : Bool) : bitAt (modbusBitWrite cfg table a ((BitVec.ofBool on).setWidth 8)) a = on := by
  have hwritten := congrFun (bitArray_modbusBitWrite table a on) a
  rwa [writeAt, if_pos rfl] at hwritten

theorem regAt_modbusRegsWrite_self (regs : Vector Word cfg.maxRegisters)
    (a : Fin cfg.maxRegisters) (value : Word) :
    regAt (modbusRegsWrite cfg regs a value) a = value := by
  have hwritten := congrFun (regArray_modbusRegsWrite regs a value) a
  rwa [writeAt, if_pos rfl] at hwritten

/-- A coil that a request has a value for is in the table, and has it afterwards. -/
theorem stored_coil (env : PduEnv cfg) (keeps : hooks.KeepsWritten)
    (hparse : parseRequest cfg rx = .ok r) {value : Bool}
    (hvalue : coilValueOf rx addr = some value) :
    addr < cfg.maxCoils ∧ bitAt (execute hooks rx env r).2.store.coilBits addr = value := by
  unfold coilValueOf at hvalue
  unfold parseRequest at hparse
  split at hvalue
  · next hcode =>
      rw [hcode] at hparse
      simp only [parseWriteSingleCoil, except_reject_eq_ok, except_bind_eq_ok] at hparse
      obtain ⟨-, -, a, ha, ⟨⟩⟩ := hparse
      have hstart := parseAddr_eq_ok ha
      split_ifs at hvalue with haddr
      obtain rfl := Option.some.inj hvalue
      obtain rfl : addr = a := haddr.trans hstart.symm
      refine ⟨a.isLt, ?_⟩
      rw [execute, coilBits_putCoils keeps]
      exact bitAt_modbusBitWrite_self _ a _
  · next hcode =>
      rw [hcode] at hparse
      simp only [parseWriteMultipleCoils, except_reject_eq_ok, except_bind_eq_ok,
        except_require_eq_ok] at hparse
      obtain ⟨-, span, hspan, -, ⟨⟩⟩ := hparse
      obtain ⟨hstart, hcount⟩ := parseSpan_eq_ok hspan
      split_ifs at hvalue with hwithin
      obtain rfl := Option.some.inj hvalue
      obtain ⟨hlow, hhigh⟩ := hwithin
      rw [← hstart] at hlow hhigh ⊢
      rw [← hcount] at hhigh
      have haddr : addr < cfg.maxCoils := Nat.lt_of_lt_of_le hhigh span.fits
      refine ⟨haddr, ?_⟩
      rw [execute, coilBits_putCoils keeps]
      have hwritten := congrFun (bitArray_coilsWritten env.store.coilBits span.start
        (bitOf (rx.drop 6)) span.count) ⟨addr, haddr⟩
      rw [writeRange, if_pos ⟨hlow, hhigh⟩] at hwritten
      exact hwritten
  · cases hvalue

/-- One register is written. -/
theorem stored_putRegister (keeps : hooks.KeepsWritten) (env : PduEnv cfg)
    (a : Fin cfg.maxRegisters) (value : Word) :
    (a : ℕ) < cfg.maxRegisters ∧
      regAt (env.putHoldingRegs hooks fun regs =>
        modbusRegsWrite cfg regs a value).store.holdingRegs a = value := by
  refine ⟨a.isLt, ?_⟩
  rw [holdingRegs_putHoldingRegs keeps]
  exact regAt_modbusRegsWrite_self _ a _

/-- A range of registers is written from the words of a request. -/
theorem stored_putRegisters (keeps : hooks.KeepsWritten) (env : PduEnv cfg)
    {start count base : ℕ} (hfits : start + count ≤ cfg.maxRegisters) (hlow : start ≤ addr)
    (hhigh : addr < start + count) :
    addr < cfg.maxRegisters ∧
      regAt (env.putHoldingRegs hooks fun regs => registersWritten regs start
        ((wordsAt rx base count).getD · 0) (wordsAt rx base count).length).store.holdingRegs addr =
        wordAt rx (base + (addr - start) * 2) := by
  have haddr : addr < cfg.maxRegisters := Nat.lt_of_lt_of_le hhigh hfits
  have hlt : addr - start < count := by omega
  have hwritten := congrFun (regArray_registersWritten env.store.holdingRegs start
    ((wordsAt rx base count).getD · 0) count) ⟨addr, haddr⟩
  rw [writeRange, if_pos ⟨hlow, hhigh⟩] at hwritten
  rw [holdingRegs_putHoldingRegs keeps, length_wordsAt]
  refine ⟨haddr, hwritten.trans ?_⟩
  simp [wordsAt, hlt]

/-- A register that a request has a value for is in the table, and has it afterwards. -/
theorem stored_register (keeps : hooks.KeepsWritten) (hparse : parseRequest cfg rx = .ok r)
    {value : Word}
    (hvalue : registerValueOf rx (regAt env.store.holdingRegs addr) addr = some value) :
    addr < cfg.maxRegisters ∧
      regAt (execute hooks rx env r).2.store.holdingRegs addr = value := by
  unfold registerValueOf at hvalue
  unfold parseRequest at hparse
  split at hvalue
  · next hcode =>
      rw [hcode] at hparse
      simp only [parseWriteSingleRegister, except_reject_eq_ok, except_bind_eq_ok] at hparse
      obtain ⟨-, a, ha, ⟨⟩⟩ := hparse
      split_ifs at hvalue with haddr
      obtain rfl := Option.some.inj hvalue
      obtain rfl : addr = a := haddr.trans (parseAddr_eq_ok ha).symm
      exact stored_putRegister keeps env a _
  · next hcode =>
      rw [hcode] at hparse
      simp only [parseWriteMultipleRegisters, except_reject_eq_ok, except_bind_eq_ok] at hparse
      obtain ⟨-, span, hspan, hrest⟩ := hparse
      obtain ⟨hstart, hcount⟩ := parseSpan_eq_ok hspan
      split_ifs at hvalue with hwithin
      obtain rfl := Option.some.inj hvalue
      obtain ⟨hlow, hhigh⟩ := hwithin
      rw [← hstart] at hlow hhigh ⊢
      rw [← hcount] at hhigh
      split_ifs at hrest
      obtain ⟨⟩ := hrest
      exact stored_putRegisters keeps env span.fits hlow hhigh
  · next hcode =>
      rw [hcode] at hparse
      simp only [parseMaskWriteRegister, except_reject_eq_ok, except_bind_eq_ok] at hparse
      obtain ⟨-, a, ha, ⟨⟩⟩ := hparse
      split_ifs at hvalue with haddr
      obtain rfl := Option.some.inj hvalue
      obtain rfl : addr = a := haddr.trans (parseAddr_eq_ok ha).symm
      exact stored_putRegister keeps env a _
  · next hcode =>
      rw [hcode] at hparse
      simp only [parseReadWriteMultipleRegs, except_reject_eq_ok, except_require_eq_ok] at hparse
      obtain ⟨-, hqty, hfits, ⟨⟩⟩ := hparse
      split_ifs at hvalue with hwithin
      obtain rfl := Option.some.inj hvalue
      obtain ⟨hlow, hhigh⟩ := hwithin
      exact stored_putRegisters keeps env hfits.2 hlow hhigh
  · cases hvalue

theorem functionCode_of_coilValueOf {value : Bool} (h : coilValueOf rx addr = some value) :
    ∃ fc : FunctionCode, byteAt rx 0 = fc.code ∧ ¬ readsDiscrete fc.code := by
  unfold coilValueOf at h
  unfold readsDiscrete
  split at h
  iterate 2 next hcode => exact ⟨_, (FunctionCode.ofByte_eq_some.mp hcode).symm, by decide⟩
  cases h

theorem functionCode_of_registerValueOf {old value : Word}
    (h : registerValueOf rx old addr = some value) :
    ∃ fc : FunctionCode, byteAt rx 0 = fc.code ∧ ¬ readsDiscrete fc.code := by
  unfold registerValueOf at h
  unfold readsDiscrete
  split at h
  iterate 4 next hcode => exact ⟨_, (FunctionCode.ofByte_eq_some.mp hcode).symm, by decide⟩
  cases h

end Stored

/-! ## Served maps -/

section Direct

variable (direct : cfg.Direct) {env : PduEnv cfg} {addr : ℕ}
include direct

/-- Without a base, a request that does not read discrete inputs gets its reply. -/
theorem yields_modbusPduProcess_direct (hooks : SyncHooks cfg) {rx : List Byte} (hrx : rx ≠ [])
    (isBroadcast : Bool) {s : Exchange (PduEnv cfg)} (room : 253 ≤ s.tx.length)
    (hcode : ¬ readsDiscrete (byteAt rx 0)) :
    Yields (modbusPduProcess hooks rx isBroadcast) s fun r s' =>
      if broadcastDropped rx isBroadcast then r = (.ok, some 0) ∧ s' = s
      else
        r = (.ok, some (if isBroadcast then 0 else (pduReply hooks rx s.env).1.length)) ∧
          s'.env = (pduReply hooks rx s.env).2 ∧ Wrote s.tx s'.tx (pduReply hooks rx s.env).1 :=
  yields_modbusPduProcess_of_answers hooks hrx isBroadcast room fun _ _ hfields =>
    answers_dispatch_direct direct hooks rx s.env (fun h => (hcode h).elim) hfields

/-- Without a base, a read of the tables is answered from them. -/
theorem yields_readRequest (r : TableRequest cfg) (hcode : ¬ readsDiscrete (byteAt r.encode 0))
    (hooks : SyncHooks cfg) (env : PduEnv cfg) {tx : List Byte} (room : 253 ≤ tx.length) :
    Yields (modbusPduProcess hooks r.encode false) ⟨env, tx⟩ fun result t =>
      ∃ n, result = (.ok, some n) ∧
        r.Answered (execute hooks r.encode env r.toRequest).2.store.tables (t.tx.take n) := by
  have hpdu : r.encode ≠ [] := by
    cases r <;> exact List.cons_ne_nil _ _
  apply (yields_modbusPduProcess_direct direct hooks hpdu false (s := ⟨env, tx⟩) room hcode).mono
  rintro result t h
  rw [if_neg (by simp [broadcastDropped]), pduReply_encode direct.coils direct.registers] at h
  obtain ⟨rfl, -, hwrote⟩ := h
  refine ⟨_, rfl, ?_⟩
  simp only [Bool.false_eq_true, if_false]
  rw [hwrote.take]
  exact answered_execute hooks env r

/-- Without a base, a coil reads as its bit in the table. -/
theorem coilReads_of_bitAt (haddr : addr < cfg.maxCoils) :
    CoilReads env addr (bitAt env.store.coilBits addr) where
  accessor := by
    have hcoils := direct.coils
    rw [modbusReadCoil, direct.uint16_coil, uint16_of_lt (by omega), modbusBitRead_eq]
    cases bitAt env.store.coilBits addr <;> rfl
  request := by
    intro hooks span hlow hhigh tx room
    have hcode : ¬ readsDiscrete FunctionCode.readCoils.code := by
      unfold readsDiscrete
      decide
    apply (yields_readRequest direct (.readCoils span) hcode hooks env room).mono
    rintro r t ⟨n, hr, hanswered⟩
    refine ⟨n, hr, hanswered.code, (hanswered.bits _).trans ?_⟩
    rw [dif_pos (by omega)]
    exact congrArg (bitAt env.store.coilBits) (Nat.add_sub_cancel' hlow)

/-- Without a base, a holding register reads as its word in the table. -/
theorem registerReads_of_regAt (haddr : addr < cfg.maxRegisters) :
    RegisterReads env addr (regAt env.store.holdingRegs addr) where
  accessor := by
    rw [modbusReadHoldingRegister, if_neg (by omega), yields_holdingReg, direct.holdingRegOffset,
      Nat.zero_add]
    exact ⟨haddr, rfl⟩
  request := by
    intro hooks span hlow hhigh tx room
    have hcode : ¬ readsDiscrete FunctionCode.readHoldingRegisters.code := by
      unfold readsDiscrete
      decide
    apply (yields_readRequest direct (.readHoldingRegisters span) hcode hooks env room).mono
    rintro r t ⟨n, hr, hanswered⟩
    refine ⟨n, hr, hanswered.code, (hanswered.words ⟨addr - span.start, by omega⟩).trans ?_⟩
    exact congrArg (regAt env.store.holdingRegs) (Nat.add_sub_cancel' hlow)

/-- A request that is answered normally was accepted and carried out. -/
theorem yields_accepted (hooks : SyncHooks cfg) {rx : List Byte} {fc : FunctionCode}
    (hbyte : byteAt rx 0 = fc.code) (hcode : ¬ readsDiscrete fc.code) (isBroadcast : Bool)
    {s : Exchange (PduEnv cfg)} (room : 253 ≤ s.tx.length) :
    Yields (modbusPduProcess hooks rx isBroadcast) s fun r s' => AnsweredNormally rx r s' →
      ∃ request, parseRequest cfg rx = .ok request ∧
        s'.env = (execute hooks rx s.env request).2 := by
  have hrx : rx ≠ [] := by
    rintro rfl
    revert hbyte
    cases fc <;> decide
  rw [← hbyte] at hcode
  apply (yields_modbusPduProcess_direct direct hooks hrx isBroadcast room hcode).mono
  intro r s' h hanswered
  split at h
  · obtain ⟨rfl, -⟩ := h
    obtain ⟨_, ⟨⟩, hpos, -⟩ := hanswered
    exact absurd hpos (Nat.lt_irrefl 0)
  · obtain ⟨rfl, henv, hwrote⟩ := h
    cases isBroadcast with
    | true =>
        obtain ⟨_, ⟨⟩, hpos, -⟩ := hanswered
        exact absurd hpos (Nat.lt_irrefl 0)
    | false =>
        have haccepted := (answeredNormally_iff (hbyte ▸ fc.msb_code) hwrote).mp hanswered
        rw [henv, pduReply]
        cases hparse : parseRequest cfg rx with
        | error e =>
            rw [hparse] at haccepted
            cases haccepted
        | ok request => exact ⟨request, rfl, rfl⟩

/-- Without a base, a map is served. -/
theorem Config.Direct.served : cfg.Served where
  requests hooks rx isBroadcast s room := by
    by_cases hrx : rx = []
    · subst hrx
      exact yields_pure.mpr trivial
    · obtain ⟨reply, hreply⟩ := exists_answers_dispatch direct hooks rx s.env
      exact (yields_modbusPduProcess_of_answers hooks hrx isBroadcast room hreply).mono
        fun _ _ _ => trivial
  holdingRegisters s addr := by
    unfold modbusReadHoldingRegister
    split_ifs with haddr
    · exact yields_pure.mpr trivial
    · rw [yields_holdingReg, direct.holdingRegOffset]
      exact ⟨by omega, trivial⟩
  inputRegisters s addr := by
    unfold modbusReadInputRegister
    split_ifs with haddr
    · exact yields_pure.mpr trivial
    · rw [yields_inputReg, direct.inputRegOffset]
      exact ⟨by omega, trivial⟩
  writes hooks keeps rx isBroadcast s room := by
    by_cases hrx : rx = []
    · subst hrx
      exact yields_pure.mpr fun ⟨_, h, _⟩ => by cases h
    obtain ⟨reply, hreply⟩ := exists_answers_dispatch direct hooks rx s.env
    obtain ⟨r, s', hrun, -⟩ :=
      yields_modbusPduProcess_of_answers hooks hrx isBroadcast room hreply
    refine ⟨r, s', hrun, fun hanswered => ⟨fun addr value hvalue => ?_,
      fun addr value hvalue => ?_⟩⟩
    · obtain ⟨fc, hbyte, hcode⟩ := functionCode_of_coilValueOf hvalue
      obtain ⟨request, hparse, henv⟩ :=
        (yields_accepted direct hooks hbyte hcode isBroadcast room).of_run_eq hrun hanswered
      obtain ⟨haddr, hbit⟩ := stored_coil s.env keeps hparse hvalue
      rw [← hbit, ← henv]
      exact coilReads_of_bitAt direct haddr
    · obtain ⟨fc, hbyte, hcode⟩ := functionCode_of_registerValueOf hvalue
      obtain ⟨request, hparse, henv⟩ :=
        (yields_accepted direct hooks hbyte hcode isBroadcast room).of_run_eq hrun hanswered
      rw [direct.holdingRegOffset, Nat.zero_add] at hvalue
      obtain ⟨haddr, hreg⟩ := stored_register keeps hparse hvalue
      rw [← hreg, ← henv]
      exact registerReads_of_regAt direct haddr

end Direct

/-! ## Maps with a base -/

/-- An application that does nothing when it is told of a write. -/
def idleHooks (cfg : Config) : SyncHooks cfg := ⟨some fun _ s => s, none, 0⟩

theorem idleHooks_keepsWritten : (idleHooks cfg).KeepsWritten := by
  rintro hook ⟨rfl⟩ ctx s
  exact ⟨rfl, rfl⟩

/-- The request that sets a coil. -/
def setCoilPdu (addr : ℕ) : List Byte :=
  FunctionCode.writeSingleCoil.code :: bytesOfWords [BitVec.ofNat 16 addr, 0xFF00]

theorem wordAt_setCoilPdu_addr (addr : ℕ) : wordAt (setCoilPdu addr) 1 = BitVec.ofNat 16 addr :=
  word_hiByte_loByte _

theorem wordAt_setCoilPdu_value (addr : ℕ) : wordAt (setCoilPdu addr) 3 = 0xFF00 :=
  word_hiByte_loByte _

/-- A coil in the range that is checked is set with a normal answer, wherever the
base of the coils puts it. -/
theorem answeredNormally_setCoilPdu (hcoils : cfg.maxCoils ≤ 65535) {addr : ℕ}
    (haddr : addr < cfg.maxCoils) {s : Exchange (PduEnv cfg)} (room : 253 ≤ s.tx.length) :
    Yields (modbusPduProcess (idleHooks cfg) (setCoilPdu addr) false) s fun r s' =>
      AnsweredNormally (setCoilPdu addr) r s' := by
  have hlength : (setCoilPdu addr).length = 5 := rfl
  have hbyte : byteAt (setCoilPdu addr) 0 = FunctionCode.writeSingleCoil.code := rfl
  let env' := s.env.updateStore fun t => { t with
    coilBits := modbusBitWrite cfg t.coilBits (uint16 (cfg.coilOffset + addr)) 1 }
  have hanswers : ∀ start quantity, (5 ≤ (setCoilPdu addr).length →
      start = wordAt (setCoilPdu addr) 1 ∧ quantity = wordAt (setCoilPdu addr) 3) →
      Answers (dispatch (idleHooks cfg) (setCoilPdu addr) (byteAt (setCoilPdu addr) 0) start
        quantity) s.env (byteAt (setCoilPdu addr) 0)
        ((setCoilPdu addr).take 5, registersSynced (idleHooks cfg) env') := by
    intro start quantity hfields
    obtain ⟨rfl, rfl⟩ := hfields hlength.ge
    have hstart : (wordAt (setCoilPdu addr) 1).toNat = addr := by
      rw [wordAt_setCoilPdu_addr, BitVec.toNat_ofNat]
      omega
    have hvalid := (modbusAddressRangeValid_iff addr cfg.maxCoils (Nat.le_refl 1)).mpr haddr
    intro given tx hroom hwrote
    rw [dispatch, hbyte, FunctionCode.ofByte_code]
    simp only [writeSingleCoil]
    rw [if_neg (not_not_intro hlength), wordAt_setCoilPdu_value, if_neg (by decide), hstart,
      if_neg (not_not_intro hvalid), yields_bind, yields_onEnv, yields_writeCoilAt]
    exact yields_syncEcho_of_sync hroom hwrote hlength.ge (yields_modify.mpr rfl)
  apply (yields_modbusPduProcess_of_answers (idleHooks cfg) (List.cons_ne_nil _ _) false room
    hanswers).mono
  rintro r s' h
  rw [if_neg (by simp [broadcastDropped])] at h
  obtain ⟨rfl, -, hwrote⟩ := h
  exact ⟨5, rfl, by decide, hwrote.byteAt_eq (show 0 < 5 by decide)⟩

/-- In a map that is served, no base moves a coil out of the range that is checked. -/
theorem Config.Served.coilOffset (served : cfg.Served) (hcoils : cfg.maxCoils ≤ 65535)
    (hpos : 0 < cfg.maxCoils) : cfg.coilOffset % 65536 = 0 := by
  by_contra hbase
  -- the coil that the base puts at the end of the table or, if it is past it, the first
  let addr := cfg.maxCoils - cfg.coilOffset % 65536
  have haddr : addr < cfg.maxCoils := by omega
  have hmoved : ¬ uint16 (cfg.coilOffset + addr) < cfg.maxCoils := by
    unfold uint16
    omega
  let s : Exchange (PduEnv cfg) := ⟨⟨Store.powerOn cfg, []⟩, List.replicate 253 0⟩
  have room : 253 ≤ s.tx.length := List.length_replicate.ge
  obtain ⟨r, s', hrun, hanswered⟩ := answeredNormally_setCoilPdu hcoils haddr room
  have hstored := (served.writes (idleHooks cfg) idleHooks_keepsWritten (setCoilPdu addr) false s
    room).of_run_eq hrun hanswered
  have hstart : addr = (wordAt (setCoilPdu addr) 1).toNat := by
    rw [wordAt_setCoilPdu_addr, BitVec.toNat_ofNat]
    omega
  have hvalue : coilValueOf (setCoilPdu addr) addr = some true := by
    have hcode : FunctionCode.ofByte (byteAt (setCoilPdu addr) 0) = some .writeSingleCoil := rfl
    simp only [coilValueOf, hcode]
    rw [if_pos hstart, wordAt_setCoilPdu_value, decide_eq_true rfl]
  have hread := (hstored.coils addr true hvalue).accessor
  rw [modbusReadCoil, modbusBitRead, dif_neg hmoved] at hread
  exact absurd hread (by decide)

/-- In a map that is served, no base moves a holding register. -/
theorem Config.Served.holdingRegOffset (served : cfg.Served) (hregisters : cfg.maxRegisters ≤ 65535)
    (hpos : 0 < cfg.maxRegisters) : cfg.holdingRegOffset = 0 := by
  have hlast := served.holdingRegisters (Store.powerOn cfg)
    (BitVec.ofNat 16 (cfg.maxRegisters - 1))
  rw [BitVec.toNat_ofNat, modbusReadHoldingRegister, if_neg (by omega), yields_holdingReg] at hlast
  omega

/-- In a map that is served, no base moves an input register. -/
theorem Config.Served.inputRegOffset (served : cfg.Served) (hregisters : cfg.maxRegisters ≤ 65535)
    (hpos : 0 < cfg.maxRegisters) : cfg.inputRegOffset = 0 := by
  have hlast := served.inputRegisters (Store.powerOn cfg)
    (BitVec.ofNat 16 (cfg.maxRegisters - 1))
  rw [BitVec.toNat_ofNat, modbusReadInputRegister, if_neg (by omega), yields_inputReg] at hlast
  omega

/-- A map of any size that has room for the addresses the board mirrors is served if
and only if no base moves its coils or its registers. -/
theorem config_served_iff (cfg : Config) (hcoils : 12 ≤ cfg.maxCoils ∧ cfg.maxCoils ≤ 65535)
    (hregisters : 104 ≤ cfg.maxRegisters ∧ cfg.maxRegisters ≤ 65535) :
    cfg.Served ↔
      cfg.coilOffset % 65536 = 0 ∧ cfg.inputRegOffset = 0 ∧ cfg.holdingRegOffset = 0 := by
  constructor
  · intro served
    exact ⟨served.coilOffset hcoils.2 (by omega), served.inputRegOffset hregisters.2 (by omega),
      served.holdingRegOffset hregisters.2 (by omega)⟩
  · rintro ⟨hcoil, hinput, hholding⟩
    exact Config.Direct.served
      ⟨hcoil, hinput, hholding, hcoils.2, hregisters.2, hregisters.1⟩

theorem config_served_iff_board :
    boardConfig.Served ↔ boardConfig.coilOffset % 65536 = 0 ∧ boardConfig.inputRegOffset = 0 ∧
      boardConfig.holdingRegOffset = 0 :=
  config_served_iff boardConfig (by decide) (by decide)

/-- The shipped sizes, with the holding registers from 100 on. -/
def shiftedConfig : Config := { boardConfig with holdingRegOffset := 100 }

/-- Register 200 passes the check and is read at index 300 of 256. -/
theorem not_served_shiftedConfig : ¬ shiftedConfig.Served := by
  intro served
  have hread := served.requests (SyncHooks.none shiftedConfig) [0x03, 0x00, 0xC8, 0x00, 0x01] false
    ⟨⟨Store.powerOn shiftedConfig, []⟩, List.replicate 253 0⟩ List.length_replicate.ge
  revert hread
  decide +kernel

end AutomationBoard.Modbus
