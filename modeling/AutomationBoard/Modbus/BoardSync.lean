/-
# What the board's own sync comes to

With no hooks registered, a write that is carried out drives the outputs from the
first coils and holding registers, and a read of inputs copies them first. So what
the outputs and the inputs hold is said here by the tables, channel by channel.
-/

import AutomationBoard.Modbus.WriteHook
import AutomationBoard.Modbus.Refinement.Tables

namespace AutomationBoard.Modbus

open AutomationBoard.Math AutomationBoard.Program

variable {cfg : Config}

/-! ## The outputs, channel by channel -/

/-- A digital output that the shadow shows as on. -/
def BoardIo.output (io : BoardIo) (i : ℕ) : Bool := io.digitalOutputStates.getLsbD i

/-- A relay that the shadow shows as on. -/
def BoardIo.relay (io : BoardIo) (i : ℕ) : Bool := io.relayStates.getLsbD i

/-- The value that an analog output was given. -/
def BoardIo.analog (io : BoardIo) (i : ℕ) : Word := regAt io.analogOutputs i

/-- The digital outputs as an array. -/
def BoardIo.outputArray (io : BoardIo) (i : Fin 8) : Bool := io.output i

/-- The relays as an array. -/
def BoardIo.relayArray (io : BoardIo) (i : Fin 4) : Bool := io.relay i

/-- The analog outputs as an array. -/
def BoardIo.analogArray (io : BoardIo) (i : Fin aoCount) : Word := io.analog i

section Drivers

variable (io : BoardIo)

/-- A byte with one bit replaced. -/
theorem getLsbD_replaceBit (b : Byte) {i : ℕ} (hi : i < 8) (on : Bool) (j : ℕ) :
    (if (BitVec.ofBool on).setWidth 8 ≠ (0 : Byte) then b ||| 1#8 <<< i
      else b &&& ~~~(1#8 <<< i)).getLsbD j = if j = i then on else b.getLsbD j := by
  cases on with
  | false => rw [if_neg (by decide), getLsbD_clearBit b hi]
  | true => rw [if_pos (by decide), getLsbD_setBit b hi]

/-- A digital output is set or cleared alone. -/
theorem output_digitalOutputWrite (channel : ℕ) (on : Bool) :
    (io.digitalOutputWrite channel ((BitVec.ofBool on).setWidth 8)).outputArray =
      writeAt io.outputArray channel on := by
  funext i
  unfold BoardIo.digitalOutputWrite BoardIo.outputArray BoardIo.output writeAt
  by_cases hchannel : channel ≥ doCount
  · have hne : i.val ≠ channel := by
      have : doCount = 8 := rfl
      omega
    rw [if_pos hchannel, if_neg hne]
  · rw [if_neg hchannel, ← getLsbD_replaceBit _ (Nat.lt_of_not_le hchannel)]
    split_ifs
    · rfl
    · rfl

/-- A relay is set or cleared alone. -/
theorem relay_relaySet (channel : ℕ) (on : Bool) :
    (io.relaySet channel ((BitVec.ofBool on).setWidth 8)).relayArray =
      writeAt io.relayArray channel on := by
  funext i
  unfold BoardIo.relaySet BoardIo.relayArray BoardIo.relay writeAt
  by_cases hchannel : channel ≥ relayCount
  · have hne : i.val ≠ channel := by
      have : relayCount = 4 := rfl
      omega
    rw [if_pos hchannel, if_neg hne]
  · have hbit : channel < 8 := (Nat.lt_of_not_le hchannel).trans (by decide)
    rw [if_neg hchannel, ← getLsbD_replaceBit _ hbit]
    split_ifs
    · rfl
    · rfl

/-- An analog output is given its value alone. -/
theorem analog_analogOutputWriteRaw (channel : ℕ) (value : Word) :
    (io.analogOutputWriteRaw channel value).analogArray =
      writeAt io.analogArray channel value := by
  funext i
  unfold BoardIo.analogOutputWriteRaw BoardIo.analogArray BoardIo.analog writeAt
  by_cases hchannel : channel < aoCount
  · rw [dif_pos hchannel]
    by_cases hi : i.val = channel
    · simp [regAt, hi, hchannel]
    · rw [if_neg hi]
      simp [regAt, Ne.symm hi]
  · have hne : i.val ≠ channel := fun h => hchannel (h ▸ i.isLt)
    rw [dif_neg hchannel, if_neg hne]

end Drivers

/-! ## The outputs after a sync -/

section Driven

variable (coils : Vector Byte cfg.coilBytes) (regs : Vector Word cfg.maxRegisters) (io : BoardIo)

theorem output_drivenOutputs {i : ℕ} (hi : i < doCount) :
    (drivenOutputs coils io doCount).output i = bitAt coils i := by
  have hfold := view_foldl_range output_digitalOutputWrite io 0 8 (bitAt coils)
  simp only [Nat.zero_add, ← modbusBitRead_eq] at hfold
  refine (congrFun hfold ⟨i, hi⟩).trans ?_
  exact if_pos ⟨Nat.zero_le _, hi⟩

theorem relay_drivenRelays {i : ℕ} (hi : i < relayCount) :
    (drivenRelays coils io relayCount).relay i = bitAt coils (8 + i) := by
  have hfold := view_foldl_range relay_relaySet io 0 4 (fun i => bitAt coils (8 + i))
  simp only [Nat.zero_add, ← modbusBitRead_eq] at hfold
  refine (congrFun hfold ⟨i, hi⟩).trans ?_
  exact if_pos ⟨Nat.zero_le _, hi⟩

theorem analog_drivenAnalogs {i : ℕ} (hi : i < aoCount) :
    (drivenAnalogs regs io aoCount).analog i = regAt regs i := by
  have hfold := view_foldl_range analog_analogOutputWriteRaw io 0 aoCount (regAt regs)
  simp only [Nat.zero_add] at hfold
  refine (congrFun hfold ⟨i, hi⟩).trans ?_
  exact if_pos ⟨Nat.zero_le _, hi⟩

/-- Driving the relays leaves the digital outputs alone. -/
theorem digitalOutputStates_drivenRelays (n : ℕ) :
    (drivenRelays coils io n).digitalOutputStates = io.digitalOutputStates := by
  induction n with
  | zero => rfl
  | succ n ih =>
      rw [drivenRelays, List.range_succ, List.foldl_append, ← drivenRelays, ← ih]
      unfold BoardIo.relaySet
      simp only [List.foldl_cons, List.foldl_nil]
      split_ifs <;> rfl

/-- Driving the analog outputs leaves everything else alone. -/
theorem kept_drivenAnalogs (n : ℕ) :
    (drivenAnalogs regs io n).digitalOutputStates = io.digitalOutputStates ∧
      (drivenAnalogs regs io n).relayStates = io.relayStates ∧
      (drivenAnalogs regs io n).digitalInputStates = io.digitalInputStates := by
  induction n with
  | zero => exact ⟨rfl, rfl, rfl⟩
  | succ n ih =>
      rw [drivenAnalogs, List.range_succ, List.foldl_append, ← drivenAnalogs]
      unfold BoardIo.analogOutputWriteRaw
      simp only [List.foldl_cons, List.foldl_nil]
      split_ifs
      · exact ih
      · exact ih

end Driven

/-- The outputs are what the tables say. -/
structure Store.Drives (s : Store cfg) : Prop where
  outputs : ∀ i < doCount, s.io.output i = bitAt s.coilBits i
  relays : ∀ i < relayCount, s.io.relay i = bitAt s.coilBits (8 + i)
  analogs : ∀ i < aoCount, s.io.analog i = regAt s.holdingRegs i

/-- After a sync the outputs are what the tables say. -/
theorem drives_appRegistersSynced (s : Store cfg) : (appRegistersSynced s).Drives where
  outputs i hi := by
    rw [BoardIo.output, appRegistersSynced, (kept_drivenAnalogs _ _ _).1]
    exact (congrArg (·.getLsbD i) (digitalOutputStates_drivenRelays _ _ _)).trans
      (output_drivenOutputs s.coilBits s.io hi)
  relays i hi := by
    rw [BoardIo.relay, appRegistersSynced, (kept_drivenAnalogs _ _ _).2.1]
    exact relay_drivenRelays s.coilBits _ hi
  analogs _ hi := analog_drivenAnalogs s.holdingRegs _ hi

/-- A sync leaves the written tables and the digital inputs alone. -/
theorem kept_appRegistersSynced (s : Store cfg) :
    (appRegistersSynced s).coilBits = s.coilBits ∧
      (appRegistersSynced s).holdingRegs = s.holdingRegs ∧
      (appRegistersSynced s).io.digitalInputStates = s.io.digitalInputStates := by
  refine ⟨rfl, rfl, (kept_drivenAnalogs _ _ _).2.2.trans ?_⟩
  exact (digitalInputStates_drivenRelays _ _ _).trans (digitalInputStates_drivenOutputs _ _ _)

/-! ## Requests -/

/-- A request with which the application is told of a write. -/
def Request.commands (r : Request cfg) : Bool :=
  r.functionCode.writes && r.functionCode != .writeFileRecord

section Requests

variable (rx : List Byte) (env : PduEnv cfg) {r : Request cfg}

/-- A request that commands the outputs stores its values and is followed by a sync. -/
theorem store_execute_of_commands (h : r.commands = true) :
    (execute (.none cfg) rx env r).2.store = appRegistersSynced (r.stored env.store) := by
  cases r with
  | writeSingleCoil | writeSingleRegister | writeMultipleCoils | writeMultipleRegisters
  | maskWriteRegister | readWriteMultipleRegs => rfl
  | _ => cases h

/-- Any other request leaves the coils, the holding registers and the drivers alone. -/
theorem store_execute_of_not_commands (h : r.commands = false) :
    (execute (.none cfg) rx env r).2.store.coilBits = env.store.coilBits ∧
      (execute (.none cfg) rx env r).2.store.holdingRegs = env.store.holdingRegs ∧
      (execute (.none cfg) rx env r).2.store.io = env.store.io := by
  cases r with
  | writeSingleCoil | writeSingleRegister | writeMultipleCoils | writeMultipleRegisters
  | maskWriteRegister | readWriteMultipleRegs => cases h
  | writeFileRecord writes refused => cases refused <;> exact ⟨rfl, rfl, rfl⟩
  | _ => exact ⟨rfl, rfl, rfl⟩

end Requests

/-! ## The inputs -/

/-- A refresh of the inputs. -/
theorem yields_modbusSyncInputs (direct : cfg.Direct) (env : PduEnv cfg) :
    Yields (modbusSyncInputs (.none cfg)) env fun _ env' =>
      env' = { env with
        store := analogInputsMirrored (mirrorDiscreteInputs cfg env.store) } := by
  refine yields_onStore.mpr ?_
  rw [modbusAppSyncInputs, yields_bind, yields_modify]
  apply (yields_mirrorAnalogInputs direct _).mono
  intro _ store hstore
  rw [hstore]

/-- The input tables hold nothing but copies. -/
structure Store.CopiesInputs (s : Store cfg) : Prop where
  discrete : ∀ j, 8 ≤ j → bitAt s.discreteBits j = false
  registers : ∀ j, 4 ≤ j → regAt s.inputRegs j = 0

theorem bitAt_replicate_zero (cfg : Config) (j : ℕ) :
    bitAt (Vector.replicate cfg.coilBytes 0 : Vector Byte cfg.coilBytes) j = false := by
  simp [bitAt]

theorem regAt_replicate_zero (n j : ℕ) : regAt (Vector.replicate n (0 : Word)) j = 0 := by
  rw [regAt, Vector.getElem?_replicate]
  split_ifs
  · rfl
  · rfl

theorem copiesInputs_init (s : Store cfg) : (Store.init cfg s).CopiesInputs where
  discrete j _ := bitAt_replicate_zero cfg j
  registers j _ := regAt_replicate_zero _ j

section Inputs

variable (flat : cfg.Flat)
include flat

/-- The discrete inputs once the debounced inputs are copied. -/
theorem bitAt_mirrorDiscreteInputs (s : Store cfg) {j : ℕ} (hj : j < cfg.maxCoils) :
    bitAt (mirrorDiscreteInputs cfg s).discreteBits j =
      if j < 8 then s.io.digitalInputStates.getLsbD j else bitAt s.discreteBits j := by
  have htables := congrArg Tables.discreteInputs (tables_mirrorDiscreteInputs flat s)
  refine (congrFun htables ⟨j, hj⟩).trans ?_
  simp only [Tables.refreshDiscreteInputs, writeRange, Nat.zero_le, true_and, Nat.zero_add,
    Nat.sub_zero]
  rfl

/-- The input registers once the holding registers are copied. -/
theorem regAt_analogInputsMirrored (s : Store cfg) {j : ℕ} (hj : j < cfg.maxRegisters) :
    regAt (analogInputsMirrored s).inputRegs j =
      if j < 4 then regAt s.holdingRegs (100 + j) else regAt s.inputRegs j := by
  have htables := congrArg Tables.inputRegs (tables_analogInputsMirrored flat s)
  refine (congrFun htables ⟨j, hj⟩).trans ?_
  simp only [Tables.refreshInputRegs]
  split_ifs
  · rfl
  · rfl

theorem Store.CopiesInputs.mirrorDiscreteInputs {s : Store cfg} (h : s.CopiesInputs) :
    (mirrorDiscreteInputs cfg s).CopiesInputs where
  discrete j hj := by
    by_cases hlt : j < cfg.maxCoils
    · rw [bitAt_mirrorDiscreteInputs flat s hlt, if_neg (Nat.not_lt.mpr hj)]
      exact h.discrete j hj
    · exact bitAt_of_not_lt hlt
  registers := h.registers

theorem Store.CopiesInputs.analogInputsMirrored {s : Store cfg} (h : s.CopiesInputs) :
    (analogInputsMirrored s).CopiesInputs where
  discrete := h.discrete
  registers j hj := by
    by_cases hlt : j < cfg.maxRegisters
    · rw [regAt_analogInputsMirrored flat s hlt, if_neg (Nat.not_lt.mpr hj)]
      exact h.registers j hj
    · simp [regAt, hlt]

theorem Store.CopiesInputs.appRegistersSynced {s : Store cfg} (h : s.CopiesInputs) :
    (appRegistersSynced s).CopiesInputs :=
  have hdriven : Store.CopiesInputs { s with
      io := drivenRelays s.coilBits (drivenOutputs s.coilBits s.io doCount) relayCount } :=
    ⟨h.1, h.2⟩
  have hmirrored := (hdriven.mirrorDiscreteInputs flat).analogInputsMirrored flat
  ⟨hmirrored.discrete, hmirrored.registers⟩

/-- A request leaves nothing but copies in the input tables. -/
theorem Store.CopiesInputs.execute {env : PduEnv cfg} (h : env.store.CopiesInputs)
    (rx : List Byte) (r : Request cfg) :
    (Modbus.execute (.none cfg) rx env r).2.store.CopiesInputs := by
  cases r with
  | readDiscreteInputs | readExceptionStatus => exact h.mirrorDiscreteInputs flat
  | readInputRegisters => exact h.analogInputsMirrored flat
  | writeSingleCoil | writeSingleRegister | writeMultipleCoils | writeMultipleRegisters
  | maskWriteRegister | readWriteMultipleRegs =>
      exact Store.CopiesInputs.appRegistersSynced flat ⟨h.1, h.2⟩
  | writeFileRecord writes refused => cases refused <;> exact ⟨h.1, h.2⟩
  | _ => exact h

/-! ## What a client reads of the inputs -/

section Reads

variable {hooks : SyncHooks cfg} {rx : List Byte} {env : PduEnv cfg}

/-- A read of the exception status shows the debounced inputs. -/
theorem pduReply_readExceptionStatus (hcoils : 8 ≤ cfg.maxCoils)
    (hparse : parseRequest cfg rx = .ok .readExceptionStatus) :
    (pduReply hooks rx env).1 =
      [FunctionCode.readExceptionStatus.code, env.store.io.digitalInputStates] := by
  rw [pduReply, hparse]
  refine congrArg (fun status => [_, status]) ?_
  refine Eq.trans (packByte_congr fun i hi => ?_)
    (packByte_getLsbD env.store.io.digitalInputStates)
  exact (bitAt_mirrorDiscreteInputs flat env.store (hi.trans_le hcoils)).trans (if_pos hi)

variable (h : env.store.CopiesInputs)
include h

/-- A read of discrete inputs is answered with the debounced inputs. -/
theorem pduReply_readDiscreteInputs {span : Span maxReadCoils cfg.maxCoils}
    (hparse : parseRequest cfg rx = .ok (.readDiscreteInputs span)) :
    (pduReply hooks rx env).1 = bitsPdu .readDiscreteInputs
      (fun i => env.store.io.digitalInputStates.getLsbD (span.start + i)) span.count := by
  rw [pduReply, hparse]
  refine congrArg (fun bits => _ :: _ :: bits) (packBits_congr fun i hi => ?_)
  have hfits := span.fits
  refine (bitAt_mirrorDiscreteInputs flat env.store (by omega)).trans ?_
  split_ifs with hcopied
  · rfl
  · rw [h.discrete _ (Nat.not_lt.mp hcopied), BitVec.getLsbD_of_ge _ _ (Nat.not_lt.mp hcopied)]

/-- A read of input registers shows the holding registers from 100 on, four of them. -/
theorem pduReply_readInputRegisters {span : Span maxReadRegisters cfg.maxRegisters}
    (hparse : parseRequest cfg rx = .ok (.readInputRegisters span)) :
    (pduReply hooks rx env).1 = registersPdu .readInputRegisters
      ((List.range span.count).map fun i =>
        if span.start + i < 4 then regAt env.store.holdingRegs (100 + (span.start + i)) else 0) := by
  rw [pduReply, hparse]
  refine congrArg (registersPdu .readInputRegisters) (List.map_congr_left fun i hi => ?_)
  have hfits := span.fits
  have hlt := List.mem_range.mp hi
  refine (regAt_analogInputsMirrored flat env.store (by omega)).trans ?_
  split_ifs with hcopied
  · rfl
  · exact h.registers _ (Nat.not_lt.mp hcopied)

end Reads

end Inputs

end AutomationBoard.Modbus
