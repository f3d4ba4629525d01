/-
# The writes

The handlers that write coils and holding registers compute the abstract
replies. A write stores its elements one by one, synchronises once, and answers
with the fields of the request.
-/

import AutomationBoard.Modbus.Refinement.Reads

namespace AutomationBoard.Modbus

open AutomationBoard.Math AutomationBoard.Program

variable {cfg : Config} {hooks : SyncHooks cfg} {rx : List Byte} {env : PduEnv cfg}

/-! ## Echoed requests -/

theorem map_byteAt_range {n : ℕ} (h : n ≤ rx.length) :
    (List.range n).map (byteAt rx) = rx.take n := by
  apply List.ext_getElem
  · simp [h]
  · intro i hleft hright
    simp only [List.length_map, List.length_range] at hleft
    have hi : i < rx.length := by omega
    simp [byteAt, hi]

/-- The loop that repeats the first bytes of the request. -/
theorem yields_echoRequest {σ : Type} {given out : List Byte} {s : Exchange σ}
    (room : 253 ≤ given.length) (h : Wrote given s.tx out) {n : ℕ} (hn : n ≤ rx.length)
    (fits : n ≤ 253) :
    Yields (echoRequest rx n) s fun _ s' => s'.env = s.env ∧ Wrote given s'.tx (rx.take n) := by
  have hempty : Wrote given s.tx [] := (show Wrote given s.tx ([] ++ out) from h).shorten
  have hloop := yields_pushBytes (f := byteAt rx) room hempty (rfl : 0 = ([] : List Byte).length)
    (show 0 + n ≤ 253 by omega)
    (fun i (hi : i < n) (t : Exchange σ) (_ : t.env = s.env) =>
      show Yields (rxByte rx i) t fun b t' => b = byteAt rx i ∧ t' = t from
        (yields_rxByte (by omega)).mpr ⟨rfl, rfl⟩)
  rw [map_byteAt_range hn, List.nil_append] at hloop
  simpa only [echoRequest, Nat.zero_add] using hloop

/-- The four fields repeated after the function code. -/
theorem yields_echoFields {σ : Type} {given : List Byte} {s : Exchange σ}
    (room : 253 ≤ given.length) (h : Wrote given s.tx [byteAt rx 0]) (hlength : 5 ≤ rx.length) :
    Yields (echoFields rx) s fun _ s' => s'.env = s.env ∧ Wrote given s'.tx (rx.take 5) := by
  have hin := h.length
  have hpushed := (((h.push room (byteAt rx 1) (by simp)).push room (byteAt rx 2) (by simp)).push
    room (byteAt rx 3) (by simp)).push room (byteAt rx 4) (by simp)
  have htake : rx.take 5 = [byteAt rx 0, byteAt rx 1, byteAt rx 2, byteAt rx 3, byteAt rx 4] := by
    rw [← map_byteAt_range hlength]
    rfl
  simp (disch := omega) only [echoFields, yields_bind, yields_rxByte, yields_txSet, List.length_set]
  refine ⟨by omega, by omega, by omega, by omega, trivial, ?_⟩
  rw [htake]
  exact hpushed

/-! ## Single elements -/

@[simp]
theorem yields_writeCoilAt {addr : ℕ} {value : Byte} {post : PUnit → PduEnv cfg → Prop} :
    Yields (writeCoilAt addr value) env post ↔ post ⟨⟩ (env.updateStore fun s =>
      { s with coilBits := modbusBitWrite cfg s.coilBits addr value }) := by
  rw [writeCoilAt, yields_onStore, yields_modify]
  rfl

@[simp]
theorem yields_writeHoldingAt {addr : ℕ} {value : Word} {post : PUnit → PduEnv cfg → Prop} :
    Yields (writeHoldingAt addr value) env post ↔ post ⟨⟩ (env.updateStore fun s =>
      { s with holdingRegs := modbusRegsWrite cfg s.holdingRegs addr value }) := by
  rw [writeHoldingAt, yields_onStore, yields_modify]
  rfl

/-- The end of a write whose response repeats the fields of the request, given what
telling the application does. -/
theorem yields_syncEcho_of_sync {given tx : List Byte} (room : 253 ≤ given.length)
    (h : Wrote given tx [byteAt rx 0]) (hlength : 5 ≤ rx.length)
    (hsync : Yields (modbusSyncRegisters hooks) env fun _ env' =>
      env' = registersSynced hooks env) :
    Yields (do
        onEnv (modbusSyncRegisters hooks)
        echoFields rx
        pure 5) ⟨env, tx⟩
      fun n s => n = (rx.take 5).length ∧ s.env = registersSynced hooks env ∧
        Wrote given s.tx (rx.take 5) := by
  rw [yields_bind, yields_onEnv]
  apply hsync.mono
  rintro _ _ rfl
  rw [yields_bind]
  apply (yields_echoFields room h hlength).mono
  rintro _ s ⟨henv, hwrote⟩
  rw [yields_pure, List.length_take, Nat.min_eq_left hlength]
  exact ⟨rfl, henv, hwrote⟩

/-- The end of a write whose response repeats the fields of the request. -/
theorem yields_syncEcho (direct : cfg.Direct) {given tx : List Byte} (room : 253 ≤ given.length)
    (h : Wrote given tx [byteAt rx 0]) (hlength : 5 ≤ rx.length) :
    Yields (do
        onEnv (modbusSyncRegisters hooks)
        echoFields rx
        pure 5) ⟨env, tx⟩
      fun n s => n = (rx.take 5).length ∧ s.env = registersSynced hooks env ∧
        Wrote given s.tx (rx.take 5) :=
  yields_syncEcho_of_sync room h hlength (yields_modbusSyncRegisters direct hooks env)

theorem answers_writeSingleCoil (direct : cfg.Direct) {start quantity : Word}
    (hcode : byteAt rx 0 = FunctionCode.writeSingleCoil.code)
    (hfields : rx.length = 5 → start = wordAt rx 1 ∧ quantity = wordAt rx 3) :
    Answers (writeSingleCoil hooks rx .writeSingleCoil start quantity) env
      FunctionCode.writeSingleCoil.code
      (answer hooks FunctionCode.writeSingleCoil.code rx env (parseWriteSingleCoil cfg rx)) := by
  rw [writeSingleCoil, parseWriteSingleCoil]
  refine answers_reject Iff.rfl fun hlength => ?_
  obtain ⟨rfl, rfl⟩ := hfields (not_not.mp hlength)
  refine answers_reject Iff.rfl fun _ => answers_addr fun addr haddr => ?_
  intro given tx room hwrote
  have hcoils := direct.coils
  have hlt := addr.isLt
  rw [direct.uint16_coil, ← haddr, uint16_of_lt (by omega), yields_bind, yields_onEnv,
    yields_writeCoilAt]
  have hvalue : (if wordAt rx 3 = 0xFF00 then (1 : Byte) else 0) =
      (BitVec.ofBool (decide (wordAt rx 3 = 0xFF00))).setWidth 8 := by
    split <;> simp_all
  rw [hvalue]
  exact yields_syncEcho direct room (hcode ▸ hwrote) (by omega)

theorem answers_writeSingleRegister (direct : cfg.Direct) {start quantity : Word}
    (hcode : byteAt rx 0 = FunctionCode.writeSingleRegister.code)
    (hfields : rx.length = 5 → start = wordAt rx 1 ∧ quantity = wordAt rx 3) :
    Answers (writeSingleRegister hooks rx .writeSingleRegister start quantity) env
      FunctionCode.writeSingleRegister.code
      (answer hooks FunctionCode.writeSingleRegister.code rx env
        (parseWriteSingleRegister cfg rx)) := by
  rw [writeSingleRegister, parseWriteSingleRegister]
  refine answers_reject Iff.rfl fun hlength => ?_
  obtain ⟨rfl, rfl⟩ := hfields (not_not.mp hlength)
  refine answers_addr fun addr haddr => ?_
  intro given tx room hwrote
  have hregisters := direct.registers
  have hlt := addr.isLt
  simp only [direct.holdingRegOffset, Nat.zero_add, ← haddr]
  rw [uint16_of_lt (by omega), yields_bind, yields_onEnv, yields_writeHoldingAt]
  exact yields_syncEcho direct room (hcode ▸ hwrote) (by omega)

theorem answers_maskWriteRegister (direct : cfg.Direct) {start : Word}
    (hfields : rx.length = 7 → start = wordAt rx 1) :
    Answers (maskWriteRegister hooks rx .maskWriteRegister start) env
      FunctionCode.maskWriteRegister.code
      (answer hooks FunctionCode.maskWriteRegister.code rx env
        (parseMaskWriteRegister cfg rx)) := by
  rw [maskWriteRegister, parseMaskWriteRegister]
  refine answers_reject Iff.rfl fun hlength => ?_
  obtain rfl := hfields (not_not.mp hlength)
  refine answers_rxWord (by omega) (answers_rxWord (by omega) (answers_addr fun addr haddr => ?_))
  intro given tx room hwrote
  have hregisters := direct.registers
  have hlt := addr.isLt
  simp only [direct.holdingRegOffset, Nat.zero_add, ← haddr]
  rw [yields_bind, yields_onEnv, yields_onStore, yields_holdingReg]
  refine ⟨hlt, ?_⟩
  rw [uint16_of_lt (by omega), yields_bind, yields_onEnv, yields_writeHoldingAt, yields_bind,
    yields_onEnv]
  apply (yields_modbusSyncRegisters direct hooks _).mono
  rintro _ _ rfl
  rw [yields_bind]
  apply (yields_echoRequest room hwrote (by omega) (by omega)).mono
  rintro _ s ⟨henv, hwrote'⟩
  rw [yields_pure]
  refine ⟨?_, henv, hwrote'⟩
  show 7 = (rx.take 7).length
  rw [List.length_take]
  omega

/-! ## Several elements -/

/-- The holding registers replaced by consecutive words of the request. -/
def wordsStored (rx : List Byte) (base addr n : ℕ) (env : PduEnv cfg) : PduEnv cfg :=
  env.updateStore fun s => { s with
    holdingRegs := registersWritten s.holdingRegs addr ((wordsAt rx base n).getD · 0)
      (wordsAt rx base n).length }

/-- The loop that stores the registers of a request. -/
theorem yields_storeRegisters {s : Exchange (PduEnv cfg)} {base addr n : ℕ}
    (hread : base + n * 2 ≤ rx.length) (haddr : addr + n ≤ 65536) :
    Yields (storeRegisters rx base addr n) s fun _ s' =>
      s' = { s with env := wordsStored rx base addr n s.env } := by
  -- the loop writes the words as it reads them, whatever their number will be
  have hloop : Yields (storeRegisters rx base addr n) s fun _ s' =>
      s' = { s with env := s.env.updateStore fun t => { t with
        holdingRegs := registersWritten t.holdingRegs addr (fun i => wordAt rx (base + i * 2)) n } } := by
    refine Yields.forRange (fun i s' =>
      s' = { s with env := s.env.updateStore fun t => { t with
        holdingRegs := registersWritten t.holdingRegs addr (fun i => wordAt rx (base + i * 2)) i } })
      rfl ?_
    rintro i hi _ rfl
    rw [yields_bind, yields_rxWord (by omega), yields_onEnv, yields_writeHoldingAt,
      uint16_of_lt (by omega)]
    simp only [PduEnv.updateStore, registersWritten, List.range_succ, List.foldl_append,
      List.foldl_cons, List.foldl_nil]
  apply hloop.mono
  rintro _ _ rfl
  have hsame : ∀ regs : Vector Word cfg.maxRegisters,
      registersWritten regs addr (fun i => wordAt rx (base + i * 2)) n =
        registersWritten regs addr ((wordsAt rx base n).getD · 0) n := by
    intro regs
    refine List.foldl_ext _ _ _ fun regs i hi => ?_
    have hlt := List.mem_range.mp hi
    simp [wordsAt, hlt]
  simp only [wordsStored, hsame, length_wordsAt]

theorem answers_writeMultipleRegisters (direct : cfg.Direct) {start quantity : Word}
    (hcode : byteAt rx 0 = FunctionCode.writeMultipleRegisters.code)
    (hfields : 5 ≤ rx.length → start = wordAt rx 1 ∧ quantity = wordAt rx 3) :
    Answers (writeMultipleRegisters hooks rx .writeMultipleRegisters start quantity) env
      FunctionCode.writeMultipleRegisters.code
      (answer hooks FunctionCode.writeMultipleRegisters.code rx env
        (parseWriteMultipleRegisters cfg rx)) := by
  rw [writeMultipleRegisters, parseWriteMultipleRegisters]
  refine answers_reject Iff.rfl fun hlength => ?_
  obtain ⟨rfl, rfl⟩ := hfields (by omega)
  refine answers_span fun span hstart hcount => ?_
  refine answers_rxByte (by omega) ?_
  have hlimit : span.count ≤ 123 := span.le_limit
  have hfits := span.fits
  have hregisters := direct.registers
  have hbyte := (byteAt rx 5).isLt
  rw [uint16_of_lt (by omega), ← hstart, ← hcount]
  refine answers_require (by omega) fun hdata => ?_
  intro given tx room hwrote
  rw [direct.holdingRegOffset, Nat.zero_add, yields_bind]
  apply (yields_storeRegisters (by omega) (by omega)).mono
  rintro _ _ rfl
  exact yields_syncEcho direct room (hcode ▸ hwrote) (by omega)

theorem answers_readWriteMultipleRegs (direct : cfg.Direct) :
    Answers (readWriteMultipleRegs hooks rx .readWriteMultipleRegs) env
      FunctionCode.readWriteMultipleRegs.code
      (answer hooks FunctionCode.readWriteMultipleRegs.code rx env
        (parseReadWriteMultipleRegs cfg rx)) := by
  rw [readWriteMultipleRegs, parseReadWriteMultipleRegs]
  refine answers_reject Iff.rfl fun hlength => ?_
  refine answers_rxWord (by omega) (answers_rxWord (by omega) (answers_rxWord (by omega)
    (answers_rxWord (by omega) (answers_rxByte (by omega) ?_))))
  have hbyte := (byteAt rx 9).isLt
  have hregisters := direct.registers
  rw [uint16_of_lt (by omega)]
  refine answers_require (by unfold uint8; omega) fun hqty => ?_
  have hread := modbusAddressRangeValid_iff (wordAt rx 1).toNat cfg.maxRegisters hqty.1.1
  have hwrite := modbusAddressRangeValid_iff (wordAt rx 5).toNat cfg.maxRegisters hqty.2.1.1
  refine answers_require (by rw [hread, hwrite]; omega) fun haddr => ?_
  intro given tx room hwrote
  have hin : 0 < tx.length := by
    rw [hwrote.length]
    omega
  rw [direct.holdingRegOffset, Nat.zero_add, Nat.zero_add, yields_bind]
  apply (yields_storeRegisters (by omega) (by omega)).mono
  rintro _ _ rfl
  rw [yields_bind, yields_onEnv]
  apply (yields_modbusSyncRegisters direct hooks _).mono
  rintro _ _ rfl
  rw [yields_bind, yields_txSet]
  refine ⟨hin, ?_⟩
  have hcode := hwrote.set FunctionCode.readWriteMultipleRegs.code (i := 0) (by simp)
  refine yields_registersPdu room hcode hqty.1.2 fun i hi t henv => ?_
  rw [yields_onEnv, yields_onStore, yields_holdingReg, henv]
  exact ⟨by omega, rfl, by rw [← henv]⟩

/-- The loop that stores the coils of a request. -/
theorem yields_storeCoils {s : Exchange (PduEnv cfg)} {addr n : ℕ}
    (hread : 6 + (n + 7) / 8 ≤ rx.length) (haddr : addr + n ≤ 65536) :
    Yields (forRange n fun i => do
        let val := ((← rxByte rx (6 + i / 8)) >>> (i % 8)) &&& 0x01
        onEnv (writeCoilAt (uint16 (addr + i)) val)) s
      fun _ s' => s' = { s with env := s.env.updateStore fun t => { t with
        coilBits := coilsWritten t.coilBits addr (bitOf (rx.drop 6)) n } } := by
  refine Yields.forRange (fun i s' =>
    s' = { s with env := s.env.updateStore fun t => { t with
      coilBits := coilsWritten t.coilBits addr (bitOf (rx.drop 6)) i } }) rfl ?_
  rintro i hi _ rfl
  rw [yields_bind, yields_rxByte (by omega)]
  have hbit : (byteAt rx (6 + i / 8) >>> (i % 8)) &&& 0x01 =
      (BitVec.ofBool (bitOf (rx.drop 6) i)).setWidth 8 := by
    have hone := BitVec.and_one_eq_setWidth_ofBool_getLsbD (x := byteAt rx (6 + i / 8) >>> (i % 8))
    rw [BitVec.getLsbD_ushiftRight, Nat.add_zero] at hone
    simpa [bitOf, byteAt, List.getD_eq_getElem?_getD] using hone
  rw [yields_onEnv, yields_writeCoilAt, uint16_of_lt (by omega)]
  simp only [PduEnv.updateStore, coilsWritten, List.range_succ, List.foldl_append,
    List.foldl_cons, List.foldl_nil, hbit]

theorem answers_writeMultipleCoils (direct : cfg.Direct) {start quantity : Word}
    (hcode : byteAt rx 0 = FunctionCode.writeMultipleCoils.code)
    (hfields : 5 ≤ rx.length → start = wordAt rx 1 ∧ quantity = wordAt rx 3) :
    Answers (writeMultipleCoils hooks rx .writeMultipleCoils start quantity) env
      FunctionCode.writeMultipleCoils.code
      (answer hooks FunctionCode.writeMultipleCoils.code rx env
        (parseWriteMultipleCoils cfg rx)) := by
  rw [writeMultipleCoils, parseWriteMultipleCoils]
  refine answers_reject Iff.rfl fun hlength => ?_
  obtain ⟨rfl, rfl⟩ := hfields (by omega)
  refine answers_span fun span hstart hcount => ?_
  refine answers_rxByte (by omega) ?_
  have hlimit : span.count ≤ 1968 := span.le_limit
  have hfits := span.fits
  have hcoils := direct.coils
  have hbyte := (byteAt rx 5).isLt
  rw [uint16_of_lt (by omega), ← hstart, ← hcount, uint8_of_lt (by omega)]
  refine answers_require (by omega) fun hdata => ?_
  intro given tx room hwrote
  simp only [Nat.add_assoc, direct.uint16_coil]
  rw [yields_bind]
  apply (yields_storeCoils (by omega) (by omega)).mono
  rintro _ _ rfl
  exact yields_syncEcho direct room (hcode ▸ hwrote) (by omega)

end AutomationBoard.Modbus
