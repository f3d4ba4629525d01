/-
# The checks of a handler, and the reads

The handlers of the dispatcher compute the abstract replies. The checks come
first: each group of checks has one rule, which leaves the handler's body with
the bounds that parsing establishes. The handlers that read bits and registers
follow.
-/

import AutomationBoard.Modbus.Response

namespace AutomationBoard.Modbus

open AutomationBoard.Math AutomationBoard.Program

variable {cfg : Config} {hooks : SyncHooks cfg} {rx : List Byte} {env : PduEnv cfg}
  {functionCode : Byte}

/-! ## Groups of checks -/

/-- Reading a byte inside the request. -/
theorem answers_rxByte {σ : Type} {s : σ} {i : ℕ} {next : Byte → PduM σ ℕ} {reply : List Byte × σ}
    (hi : i < rx.length) (h : Answers (next (byteAt rx i)) s functionCode reply) :
    Answers (rxByte rx i >>= next) s functionCode reply := by
  intro given tx room hwrote
  rw [yields_bind, yields_rxByte hi]
  exact h given tx room hwrote

/-- Reading a word inside the request. -/
theorem answers_rxWord {σ : Type} {s : σ} {i : ℕ} {next : Word → PduM σ ℕ} {reply : List Byte × σ}
    (hi : i + 1 < rx.length) (h : Answers (next (wordAt rx i)) s functionCode reply) :
    Answers (rxWord rx i >>= next) s functionCode reply := by
  intro given tx room hwrote
  rw [yields_bind, yields_rxWord hi]
  exact h given tx room hwrote

/-- A check that refuses the request. -/
theorem answers_reject {c c' : Prop} [Decidable c] [Decidable c'] {e : ExceptionCode}
    {prog : PduM (PduEnv cfg) ℕ} {parsed : Except ExceptionCode (Request cfg)} (hiff : c ↔ c')
    (h : ¬ c → Answers prog env functionCode (answer hooks functionCode rx env parsed)) :
    Answers (if c then modbusExceptionResponse functionCode e else prog) env functionCode
      (answer hooks functionCode rx env (if c' then .error e else parsed)) := by
  by_cases hc : c
  · rw [if_pos hc, if_pos (hiff.mp hc)]
    exact answers_modbusExceptionResponse env functionCode e
  · rw [if_neg hc, if_neg (mt hiff.mpr hc)]
    exact h hc

/-- A check stated as what the request must satisfy. -/
theorem answers_require {c c' : Prop} [Decidable c] [Decidable c'] {e : ExceptionCode}
    {prog : PduM (PduEnv cfg) ℕ} {parsed : c' → Except ExceptionCode (Request cfg)}
    (hiff : c ↔ ¬ c')
    (h : ∀ hc' : c', Answers prog env functionCode
      (answer hooks functionCode rx env (parsed hc'))) :
    Answers (if c then modbusExceptionResponse functionCode e else prog) env functionCode
      (answer hooks functionCode rx env (if hc' : c' then parsed hc' else .error e)) := by
  by_cases hc' : c'
  · rw [if_neg (fun hc => hiff.mp hc hc'), dif_pos hc']
    exact h hc'
  · rw [if_pos (hiff.mpr hc'), dif_neg hc']
    exact answers_modbusExceptionResponse env functionCode e

theorem modbusAddressRangeValid_iff (start size : ℕ) {quantity : ℕ} (h : 1 ≤ quantity) :
    modbusAddressRangeValid start quantity size ↔ start + quantity ≤ size := by
  simp only [modbusAddressRangeValid, Bool.and_eq_true, decide_eq_true_eq]
  omega

/-- The address of an element of a span is not truncated. -/
theorem Span.uint16_add {limit size n : ℕ} (span : Span limit size) (hsize : size ≤ 65535)
    (hn : n < span.count) : uint16 (span.start + n) = span.start + n := by
  have hfits := span.fits
  exact uint16_of_lt (by omega)

/-- The quantity check followed by the address check. -/
theorem answers_span {limit size : ℕ} {start quantity : Word} {prog : PduM (PduEnv cfg) ℕ}
    {next : Span limit size → Except ExceptionCode (Request cfg)}
    (h : ∀ span : Span limit size, span.start = start.toNat → span.count = quantity.toNat →
      Answers prog env functionCode (answer hooks functionCode rx env (next span))) :
    Answers
      (if quantity.toNat < 1 ∨ quantity.toNat > limit then
        modbusExceptionResponse functionCode .illegalDataValue
      else if ¬ modbusAddressRangeValid start.toNat quantity.toNat size then
        modbusExceptionResponse functionCode .illegalDataAddress
      else prog)
      env functionCode
      (answer hooks functionCode rx env (parseSpan limit size start quantity >>= next)) := by
  rw [parseSpan]
  by_cases hcount : 1 ≤ quantity.toNat ∧ quantity.toNat ≤ limit
  · rw [if_neg (by omega), dif_pos hcount]
    have hvalid := modbusAddressRangeValid_iff start.toNat size hcount.1
    by_cases hfits : start.toNat + quantity.toNat ≤ size
    · rw [if_neg (not_not_intro (hvalid.mpr hfits)), dif_pos hfits]
      exact h _ rfl rfl
    · rw [if_pos (mt hvalid.mp hfits), dif_neg hfits]
      exact answers_modbusExceptionResponse env functionCode .illegalDataAddress
  · rw [if_pos (by omega), dif_neg hcount]
    exact answers_modbusExceptionResponse env functionCode .illegalDataValue

/-- The check of a single address. -/
theorem answers_addr {size : ℕ} {start : Word} {prog : PduM (PduEnv cfg) ℕ}
    {next : Fin size → Except ExceptionCode (Request cfg)}
    (h : ∀ addr : Fin size, (addr : ℕ) = start.toNat →
      Answers prog env functionCode (answer hooks functionCode rx env (next addr))) :
    Answers
      (if ¬ modbusAddressRangeValid start.toNat 1 size then
        modbusExceptionResponse functionCode .illegalDataAddress
      else prog)
      env functionCode
      (answer hooks functionCode rx env (parseAddr size start >>= next)) := by
  rw [parseAddr]
  have hvalid := modbusAddressRangeValid_iff start.toNat size (Nat.le_refl 1)
  by_cases haddr : start.toNat < size
  · rw [if_neg (not_not_intro (hvalid.mpr haddr)), dif_pos haddr]
    exact h _ rfl
  · rw [if_pos (mt hvalid.mp haddr), dif_neg haddr]
    exact answers_modbusExceptionResponse env functionCode .illegalDataAddress

/-! ## Bits -/

/-- The loop that gathers one byte of a bit read. -/
theorem yields_gatherByte {σ : Type} {s : Exchange σ} {f : ℕ → Bool} {n i : ℕ}
    {body : ℕ → Byte → PduM σ (ForInStep Byte)}
    (hbody : ∀ b < 8, ∀ val,
      Yields (body b val) s fun r s' => s' = s ∧
        r = if b + i * 8 ≥ n then .done val
          else .yield (val ||| (BitVec.ofBool (f (i * 8 + b))).setWidth 8 <<< b)) :
    Yields (forBreak 8 0 (0#8) body) s fun val s' =>
      val = packByte (fun b => decide (i * 8 + b < n) && f (i * 8 + b)) ∧ s' = s := by
  refine Yields.forBreak
    (fun b val s' => s' = s ∧ (b ≤ n - i * 8) ∧
      val = packByte (fun j => decide (j < b) && f (i * 8 + j)))
    ⟨rfl, by omega, (packByte_below_zero _).symm⟩ ?_ ?_
  · rintro b _ hb val t ⟨rfl, hle, rfl⟩
    apply (hbody b (by omega) _).mono
    rintro r t' ⟨rfl, rfl⟩
    by_cases hend : b + i * 8 ≥ n
    · rw [if_pos hend]
      refine ⟨packByte_congr fun j _ => ?_, rfl⟩
      congr 1
      have : j < b ↔ i * 8 + j < n := by omega
      simp only [this]
    · rw [if_neg hend]
      exact ⟨rfl, by omega, (packByte_below_succ (fun j => f (i * 8 + j)) b).symm⟩
  · rintro val t ⟨rfl, hle, rfl⟩
    refine ⟨packByte_congr fun j hj => ?_, rfl⟩
    have hin : i * 8 + j < n := by omega
    simp [hj, hin]

/-- A bit read answers with the bits its inner loop gathers. -/
theorem yields_bitsPdu {σ : Type} {given : List Byte} {s : Exchange σ} {fc : FunctionCode}
    {f : ℕ → Bool} {n : ℕ} {body : ℕ → ℕ → Byte → PduM σ (ForInStep Byte)}
    (room : 253 ≤ given.length) (h : Wrote given s.tx [fc.code]) (hn : n ≤ maxReadCoils)
    (hbody : ∀ i b, b < 8 → i * 8 + b < n + 8 → ∀ val, ∀ t : Exchange σ, t.env = s.env →
      Yields (body i b val) t fun r t' => t' = t ∧
        r = if b + i * 8 ≥ n then .done val
          else .yield (val ||| (BitVec.ofBool (f (i * 8 + b))).setWidth 8 <<< b)) :
    Yields (do
        txSet 1 (BitVec.ofNat 8 (uint8 ((n + 7) / 8)))
        forRange (uint8 ((n + 7) / 8)) fun i => do
          let val ← forBreak 8 0 (0#8) (body i)
          txSet (2 + i) val
        pure (2 + uint8 ((n + 7) / 8))) s
      fun m s' => m = (bitsPdu fc f n).length ∧ s'.env = s.env ∧
        Wrote given s'.tx (bitsPdu fc f n) := by
  have hlimit : n ≤ 2000 := hn
  have hin := h.length
  rw [uint8_of_lt (by omega), yields_bind, yields_txSet]
  refine ⟨by omega, ?_⟩
  have hcount := h.push room (BitVec.ofNat 8 ((n + 7) / 8)) (by simp)
  rw [yields_bind]
  refine (yields_pushBytes
    (f := fun i => packByte fun b => decide (i * 8 + b < n) && f (i * 8 + b))
    room hcount (by simp) (by omega) ?_).mono ?_
  · intro i hi t henv
    exact yields_gatherByte fun b hb val => hbody i b hb (by omega) val t henv
  · rintro _ s' ⟨henv, hwrote⟩
    rw [yields_pure]
    refine ⟨?_, henv, hwrote⟩
    rw [bitsPdu, List.length_cons, List.length_cons, length_packBits]
    omega

theorem answers_readCoils (direct : cfg.Direct) {start quantity : Word}
    (hfields : rx.length = 5 → start = wordAt rx 1 ∧ quantity = wordAt rx 3) :
    Answers (readBits cfg rx .readCoils start quantity) env FunctionCode.readCoils.code
      (answer hooks FunctionCode.readCoils.code rx env
        (.readCoils <$> parseRead maxReadCoils cfg.maxCoils rx)) := by
  rw [readBits, parseRead, apply_ite (Request.readCoils <$> ·)]
  refine answers_reject Iff.rfl fun hlength => ?_
  obtain ⟨rfl, rfl⟩ := hfields (not_not.mp hlength)
  rw [map_eq_pure_bind]
  refine answers_span fun span hstart hcount => ?_
  intro given tx room hwrote
  simp only [reduceCtorEq, if_false, if_true, ← hstart, ← hcount, direct.uint16_coil]
  refine yields_bitsPdu room hwrote span.le_limit fun i b hb hin val t henv => ?_
  rw [yields_bind, yields_get]
  by_cases hend : b + i * 8 ≥ span.count
  · simp [hend]
  · have haddr := span.uint16_add direct.coils (show i * 8 + b < span.count by omega)
    simp [hend, henv, Nat.add_assoc, haddr, modbusBitRead_eq]

theorem answers_readDiscreteInputs (direct : cfg.Direct) (hbase : cfg.discreteInputOffset = 0)
    {start quantity : Word}
    (hfields : rx.length = 5 → start = wordAt rx 1 ∧ quantity = wordAt rx 3) :
    Answers (readBits cfg rx .readDiscreteInputs start quantity) env
      FunctionCode.readDiscreteInputs.code
      (answer hooks FunctionCode.readDiscreteInputs.code rx env
        (.readDiscreteInputs <$> parseRead maxReadCoils cfg.maxCoils rx)) := by
  rw [readBits, parseRead, apply_ite (Request.readDiscreteInputs <$> ·)]
  refine answers_reject Iff.rfl fun hlength => ?_
  obtain ⟨rfl, rfl⟩ := hfields (not_not.mp hlength)
  rw [map_eq_pure_bind]
  refine answers_span fun span hstart hcount => ?_
  intro given tx room hwrote
  simp only [reduceCtorEq, if_false, if_true, ← hstart, ← hcount, hbase,
    Nat.zero_add]
  -- the inputs are refreshed before the first bit is read
  rw [yields_bind, yields_onEnv, yields_onStore, yields_modify]
  refine yields_bitsPdu room hwrote span.le_limit fun i b hb hin val t henv => ?_
  rw [yields_bind, yields_get]
  by_cases hend : b + i * 8 ≥ span.count
  · simp [hend]
  · have haddr := span.uint16_add direct.coils (show i * 8 + b < span.count by omega)
    simp [hend, henv, Nat.add_assoc, haddr, modbusBitRead_eq, PduEnv.updateStore]

/-- The loop that gathers the exception status, one input after another. -/
theorem statusBits_eq (table : Vector Byte cfg.coilBytes) :
    (List.range 8).foldl (fun (status : Byte) i =>
      if modbusBitRead cfg table (uint16 i) ≠ 0 then status ||| 1#8 <<< i else status) 0 =
      packByte fun i => bitAt table i := by
  have hstep : ∀ n ≤ 8, (List.range n).foldl (fun (status : Byte) i =>
      if modbusBitRead cfg table (uint16 i) ≠ 0 then status ||| 1#8 <<< i else status) 0 =
      packByte fun i => decide (i < n) && bitAt table i := by
    intro n hn
    induction n with
    | zero => exact (packByte_below_zero _).symm
    | succ n ih =>
        rw [List.range_succ, List.foldl_append, ih (by omega), packByte_below_succ,
          List.foldl_cons, List.foldl_nil, uint16_of_lt (by omega), modbusBitRead_eq]
        cases bitAt table n <;> simp
  rw [hstep 8 (Nat.le_refl 8)]
  refine packByte_congr fun i hi => ?_
  rw [decide_eq_true hi, Bool.true_and]

/-- The exception status is the first eight discrete inputs after a refresh. -/
theorem answers_readExceptionStatus (hbase : cfg.discreteInputOffset = 0) :
    Answers (readExceptionStatus cfg rx .readExceptionStatus) env
      FunctionCode.readExceptionStatus.code
      (answer hooks FunctionCode.readExceptionStatus.code rx env
        (if rx.length ≠ 1 then .error .illegalDataValue else .ok .readExceptionStatus)) := by
  rw [readExceptionStatus]
  refine answers_reject Iff.rfl fun _ => ?_
  intro given tx room hwrote
  have hin := hwrote.length
  simp only [yields_bind, yields_onEnv, yields_onStore, yields_modify, yields_get, yields_txSet,
    yields_pure, hbase, Nat.zero_add, List.length_set]
  have hset := (hwrote.set FunctionCode.readExceptionStatus.code (i := 0) (by simp)).push room
    (exceptionStatus (mirrorDiscreteInputs cfg env.store)) (by simp)
  refine ⟨by omega, by omega, rfl, rfl, ?_⟩
  rw [statusBits_eq]
  exact hset

/-! ## Registers -/

/-- A register read answers with the words its loop reads. -/
theorem yields_registersPdu {σ : Type} {given : List Byte} {s : Exchange σ} {fc : FunctionCode}
    {value : ℕ → PduM σ Word} {f : ℕ → Word} {n : ℕ} (room : 253 ≤ given.length)
    (h : Wrote given s.tx [fc.code]) (hn : n ≤ maxReadRegisters)
    (hvalue : ∀ i < n, ∀ t : Exchange σ, t.env = s.env →
      Yields (value i) t fun w t' => w = f i ∧ t' = t) :
    Yields (do
        txSet 1 (BitVec.ofNat 8 (n * 2))
        forRange n fun i => do
          let val ← value i
          txSet (2 + i * 2) (hiByte val)
          txSet (2 + i * 2 + 1) (loByte val)
        pure (2 + n * 2)) s
      fun m s' => m = (registersPdu fc ((List.range n).map f)).length ∧ s'.env = s.env ∧
        Wrote given s'.tx (registersPdu fc ((List.range n).map f)) := by
  have hlimit : n ≤ 125 := hn
  have hin := h.length
  rw [yields_bind, yields_txSet]
  refine ⟨by omega, ?_⟩
  have hcount := h.push room (BitVec.ofNat 8 (n * 2)) (by simp)
  rw [yields_bind]
  refine (yields_pushWords (f := f) room hcount (by simp) (by omega) ?_).mono ?_
  · exact fun i hi t henv => hvalue i hi t henv
  rintro _ s' ⟨henv, hwrote⟩
  rw [yields_pure]
  have hpdu : registersPdu fc ((List.range n).map f) =
      [fc.code] ++ [BitVec.ofNat 8 (n * 2)] ++ bytesOfWords ((List.range n).map f) := by
    simp [registersPdu]
  rw [hpdu]
  refine ⟨?_, henv, hwrote⟩
  simp
  omega

theorem answers_readHoldingRegisters (direct : cfg.Direct) {start quantity : Word}
    (hfields : rx.length = 5 → start = wordAt rx 1 ∧ quantity = wordAt rx 3) :
    Answers (readRegisters cfg rx .readHoldingRegisters start quantity) env
      FunctionCode.readHoldingRegisters.code
      (answer hooks FunctionCode.readHoldingRegisters.code rx env
        (.readHoldingRegisters <$> parseRead maxReadRegisters cfg.maxRegisters rx)) := by
  rw [readRegisters, parseRead, apply_ite (Request.readHoldingRegisters <$> ·)]
  refine answers_reject Iff.rfl fun hlength => ?_
  obtain ⟨rfl, rfl⟩ := hfields (not_not.mp hlength)
  rw [map_eq_pure_bind]
  refine answers_span fun span hstart hcount => ?_
  intro given tx room hwrote
  have hlimit : span.count ≤ 125 := span.le_limit
  have hfits := span.fits
  simp only [reduceCtorEq, if_false, if_true, ← hstart, ← hcount, direct.holdingRegOffset,
    Nat.zero_add]
  rw [uint8_of_lt (by omega)]
  refine yields_registersPdu room hwrote span.le_limit fun i hi t henv => ?_
  rw [yields_onEnv, yields_onStore, yields_holdingReg, henv]
  exact ⟨by omega, rfl, by rw [← henv]⟩

theorem answers_readInputRegisters (direct : cfg.Direct) {start quantity : Word}
    (hfields : rx.length = 5 → start = wordAt rx 1 ∧ quantity = wordAt rx 3) :
    Answers (readRegisters cfg rx .readInputRegisters start quantity) env
      FunctionCode.readInputRegisters.code
      (answer hooks FunctionCode.readInputRegisters.code rx env
        (.readInputRegisters <$> parseRead maxReadRegisters cfg.maxRegisters rx)) := by
  rw [readRegisters, parseRead, apply_ite (Request.readInputRegisters <$> ·)]
  refine answers_reject Iff.rfl fun hlength => ?_
  obtain ⟨rfl, rfl⟩ := hfields (not_not.mp hlength)
  rw [map_eq_pure_bind]
  refine answers_span fun span hstart hcount => ?_
  intro given tx room hwrote
  have hlimit : span.count ≤ 125 := span.le_limit
  have hfits := span.fits
  simp only [reduceCtorEq, if_false, if_true, ← hstart, ← hcount, direct.inputRegOffset,
    Nat.zero_add]
  rw [uint8_of_lt (by omega), yields_bind, yields_onEnv, yields_onStore]
  apply (yields_mirrorAnalogInputs direct env.store).mono
  rintro _ _ rfl
  refine yields_registersPdu room hwrote span.le_limit fun i hi t henv => ?_
  rw [yields_onEnv, yields_onStore, yields_inputReg, henv]
  exact ⟨by omega, rfl, by rw [← henv]⟩

end AutomationBoard.Modbus
