/-
# Synchronising the tables with the board

After a write the application is told, before an input read the inputs are
refreshed: by a registered hook if there is one, by the board's own functions
otherwise. A hook is any function of its context and the store. The calls of
registered hooks are recorded with the store they saw; this record is an
observation of the model, not a variable of the program.
-/

import AutomationBoard.Modbus.Store
import AutomationBoard.Program.Checked

namespace AutomationBoard.Modbus

open AutomationBoard.Program

/-! ## Hooks -/

/-- `modbus_sync_hooks_t`. A hook is given the registered context. -/
structure SyncHooks (cfg : Config) where
  onRegistersWritten : Option (ℕ → Store cfg → Store cfg)
  onInputsRefresh : Option (ℕ → Store cfg → Store cfg)
  userCtx : ℕ

/-- No hooks are registered at boot. -/
def SyncHooks.none (cfg : Config) : SyncHooks cfg := ⟨.none, .none, 0⟩

/-- Which hook was called. -/
inductive HookKind
  | registersWritten
  | inputsRefresh
  deriving DecidableEq

/-- One call of a registered hook: its context and the store it was given. -/
structure HookCall (cfg : Config) where
  kind : HookKind
  ctx : ℕ
  store : Store cfg

/-- What the PDU handlers work on: the store, and the hook calls made so far. -/
structure PduEnv (cfg : Config) where
  store : Store cfg
  calls : List (HookCall cfg)

variable (cfg : Config)

/-! ## Unchecked register indexing -/

/-- `holding_regs[i]`. -/
def holdingReg (i : ℕ) : Checked Fault (Store cfg) Word := do
  let s ← get
  orFault s.holdingRegs[i]? (.outOfBounds .holdingRegs i)

/-- `input_regs[i]`. -/
def inputReg (i : ℕ) : Checked Fault (Store cfg) Word := do
  let s ← get
  orFault s.inputRegs[i]? (.outOfBounds .inputRegs i)

/-- `input_regs[i] = value`. -/
def setInputReg (i : ℕ) (value : Word) : Checked Fault (Store cfg) PUnit := do
  let s ← get
  if h : i < cfg.maxRegisters then set { s with inputRegs := s.inputRegs.set i value }
  else throw (.outOfBounds .inputRegs i)

/-! ## Board drivers -/

/-- `digital_output_write`. -/
def BoardIo.digitalOutputWrite (io : BoardIo) (channel : ℕ) (state : Byte) : BoardIo :=
  if channel ≥ doCount then io
  else if state ≠ 0 then
    { io with digitalOutputStates := io.digitalOutputStates ||| 1#8 <<< channel }
  else { io with digitalOutputStates := io.digitalOutputStates &&& ~~~(1#8 <<< channel) }

/-- `relay_set`. -/
def BoardIo.relaySet (io : BoardIo) (channel : ℕ) (state : Byte) : BoardIo :=
  if channel ≥ relayCount then io
  else if state ≠ 0 then { io with relayStates := io.relayStates ||| 1#8 <<< channel }
  else { io with relayStates := io.relayStates &&& ~~~(1#8 <<< channel) }

/-- `analog_output_write_raw`. -/
def BoardIo.analogOutputWriteRaw (io : BoardIo) (channel : ℕ) (value : Word) : BoardIo :=
  if h : channel < aoCount then { io with analogOutputs := io.analogOutputs.set channel value }
  else io

/-! ## The board's own sync -/

/-- The loop that copies the debounced inputs into the discrete table. -/
def mirrorDiscreteInputs (s : Store cfg) : Store cfg :=
  let di := s.io.digitalInputStates
  { s with
    discreteBits := (List.range diCount).foldl
      (fun table i =>
        modbusBitWrite cfg table (uint16 (cfg.discreteInputOffset + i)) ((di >>> i) &&& 0x01))
      s.discreteBits }

/-- The loop that copies holding registers 100.. into the input registers. -/
def mirrorAnalogInputs : Checked Fault (Store cfg) PUnit :=
  forRange aiCount fun i => do
    let value ← holdingReg cfg (cfg.holdingRegOffset + 100 + i)
    setInputReg cfg (cfg.inputRegOffset + i) value

/-- `modbus_app_sync_registers`. -/
def modbusAppSyncRegisters : Checked Fault (Store cfg) PUnit := do
  forRange doCount fun i => modify fun s =>
    let state := modbusBitRead cfg s.coilBits (uint16 (cfg.coilOffset + i))
    { s with io := s.io.digitalOutputWrite i state }
  forRange relayCount fun i => modify fun s =>
    let state := modbusBitRead cfg s.coilBits (uint16 (cfg.coilOffset + 8 + i))
    { s with io := s.io.relaySet i state }
  modify (mirrorDiscreteInputs cfg)
  mirrorAnalogInputs cfg
  forRange aoCount fun i => do
    let val ← holdingReg cfg (cfg.holdingRegOffset + i)
    modify fun s => { s with io := s.io.analogOutputWriteRaw i val }

/-- `modbus_app_sync_inputs`. -/
def modbusAppSyncInputs : Checked Fault (Store cfg) PUnit := do
  modify (mirrorDiscreteInputs cfg)
  mirrorAnalogInputs cfg

variable {cfg}

/-- Run a program on the store alone. -/
def onStore {α : Type} (prog : Checked Fault (Store cfg) α) : Checked Fault (PduEnv cfg) α :=
  onPart PduEnv.store (fun store env => { env with store := store }) prog

/-- Call a registered hook and record the call. -/
def PduEnv.callHook (env : PduEnv cfg) (kind : HookKind) (ctx : ℕ)
    (hook : ℕ → Store cfg → Store cfg) : PduEnv cfg where
  store := hook ctx env.store
  calls := env.calls ++ [⟨kind, ctx, env.store⟩]

/-- `modbus_sync_registers`. -/
def modbusSyncRegisters (hooks : SyncHooks cfg) : Checked Fault (PduEnv cfg) PUnit :=
  match hooks.onRegistersWritten with
  | some hook => modify fun env => env.callHook .registersWritten hooks.userCtx hook
  | .none => onStore (modbusAppSyncRegisters cfg)

/-- `modbus_sync_inputs`. -/
def modbusSyncInputs (hooks : SyncHooks cfg) : Checked Fault (PduEnv cfg) PUnit :=
  match hooks.onInputsRefresh with
  | some hook => modify fun env => env.callHook .inputsRefresh hooks.userCtx hook
  | .none => onStore (modbusAppSyncInputs cfg)

/-! ## What the sync does on a flat map -/

/-- The register at an index, zero outside the table. -/
def regAt {n : ℕ} (regs : Vector Word n) (i : ℕ) : Word := regs[i]?.getD 0

@[simp]
theorem yields_holdingReg {i : ℕ} {s : Store cfg} {post : Word → Store cfg → Prop} :
    Yields (holdingReg cfg i) s post ↔
      i < cfg.maxRegisters ∧ post (regAt s.holdingRegs i) s := by
  rw [holdingReg, yields_bind, yields_get, yields_orFault]
  by_cases h : i < cfg.maxRegisters <;> simp [h, regAt]

@[simp]
theorem yields_inputReg {i : ℕ} {s : Store cfg} {post : Word → Store cfg → Prop} :
    Yields (inputReg cfg i) s post ↔
      i < cfg.maxRegisters ∧ post (regAt s.inputRegs i) s := by
  rw [inputReg, yields_bind, yields_get, yields_orFault]
  by_cases h : i < cfg.maxRegisters <;> simp [h, regAt]

@[simp]
theorem yields_setInputReg {i : ℕ} {value : Word} {s : Store cfg}
    {post : PUnit → Store cfg → Prop} :
    Yields (setInputReg cfg i value) s post ↔
      i < cfg.maxRegisters ∧
        post ⟨⟩ { s with inputRegs := modbusRegsWrite cfg s.inputRegs i value } := by
  rw [setInputReg, yields_bind, yields_get]
  by_cases h : i < cfg.maxRegisters <;> simp [h, modbusRegsWrite]

/-- The input registers with the analog inputs copied in. -/
def mirroredInputRegs (s : Store cfg) (n : ℕ) : Vector Word cfg.maxRegisters :=
  (List.range n).foldl
    (fun regs i => modbusRegsWrite cfg regs i (regAt s.holdingRegs (100 + i))) s.inputRegs

/-- The store after `mirrorAnalogInputs`. -/
def analogInputsMirrored (s : Store cfg) : Store cfg :=
  { s with inputRegs := mirroredInputRegs s aiCount }

theorem yields_mirrorAnalogInputs (direct : cfg.Direct) (s : Store cfg) :
    Yields (mirrorAnalogInputs cfg) s fun _ s' => s' = analogInputsMirrored s := by
  refine Yields.forRange (fun i t => t = { s with inputRegs := mirroredInputRegs s i }) rfl ?_
  rintro i hi _ rfl
  have hmirror := direct.mirror
  have hcount : i < 4 := hi
  simp only [yields_bind, yields_holdingReg, yields_setInputReg, direct.holdingRegOffset,
    direct.inputRegOffset, Nat.zero_add]
  refine ⟨by omega, by omega, ?_⟩
  simp only [mirroredInputRegs, List.range_succ, List.foldl_append, List.foldl_cons,
    List.foldl_nil]

/-- The digital outputs driven from the first coils. -/
def drivenOutputs (coils : Vector Byte cfg.coilBytes) (io : BoardIo) (n : ℕ) : BoardIo :=
  (List.range n).foldl (fun io i => io.digitalOutputWrite i (modbusBitRead cfg coils i)) io

/-- The relays driven from coils 8.. -/
def drivenRelays (coils : Vector Byte cfg.coilBytes) (io : BoardIo) (n : ℕ) : BoardIo :=
  (List.range n).foldl (fun io i => io.relaySet i (modbusBitRead cfg coils (8 + i))) io

/-- The analog outputs driven from the first holding registers. -/
def drivenAnalogs (regs : Vector Word cfg.maxRegisters) (io : BoardIo) (n : ℕ) : BoardIo :=
  (List.range n).foldl (fun io i => io.analogOutputWriteRaw i (regAt regs i)) io

/-- The store after `modbus_app_sync_registers`: the outputs follow the coils
and holding registers, and the inputs are mirrored. -/
def appRegistersSynced (s : Store cfg) : Store cfg :=
  let io := drivenRelays s.coilBits (drivenOutputs s.coilBits s.io doCount) relayCount
  let s := analogInputsMirrored (mirrorDiscreteInputs cfg { s with io := io })
  { s with io := drivenAnalogs s.holdingRegs s.io aoCount }

theorem yields_modbusAppSyncRegisters (direct : cfg.Direct) (s : Store cfg) :
    Yields (modbusAppSyncRegisters cfg) s fun _ s' => s' = appRegistersSynced s := by
  have hmirror := direct.mirror
  simp only [modbusAppSyncRegisters, yields_bind, Nat.add_assoc, direct.uint16_coil,
    direct.holdingRegOffset, Nat.zero_add]
  refine (Yields.forRange
    (fun i t => t = { s with io := drivenOutputs s.coilBits s.io i }) rfl ?_).mono ?_
  · rintro i hi _ rfl
    have hcount : i < 8 := hi
    rw [yields_modify, uint16_of_lt (by omega)]
    simp only [drivenOutputs, List.range_succ, List.foldl_append, List.foldl_cons,
      List.foldl_nil]
  rintro _ _ rfl
  refine (Yields.forRange
    (fun i t => t = { s with
      io := drivenRelays s.coilBits (drivenOutputs s.coilBits s.io doCount) i }) rfl ?_).mono ?_
  · rintro i hi _ rfl
    have hcount : i < 4 := hi
    rw [yields_modify, uint16_of_lt (by omega)]
    simp only [drivenRelays, List.range_succ, List.foldl_append, List.foldl_cons,
      List.foldl_nil]
  rintro _ _ rfl
  rw [yields_modify]
  apply (yields_mirrorAnalogInputs direct _).mono
  intro _ t ht
  refine (Yields.forRange
    (fun i t' => t' = { t with io := drivenAnalogs t.holdingRegs t.io i }) rfl ?_).mono ?_
  · rintro i hi _ rfl
    have hcount : i < 2 := hi
    simp only [yields_bind, yields_holdingReg, yields_modify]
    refine ⟨by omega, ?_⟩
    simp only [drivenAnalogs, List.range_succ, List.foldl_append, List.foldl_cons,
      List.foldl_nil]
  · rintro _ _ rfl
    rw [ht]
    rfl

/-- The environment after `modbus_sync_registers`. -/
def registersSynced (hooks : SyncHooks cfg) (env : PduEnv cfg) : PduEnv cfg :=
  match hooks.onRegistersWritten with
  | some hook => env.callHook .registersWritten hooks.userCtx hook
  | .none => { env with store := appRegistersSynced env.store }

@[simp]
theorem yields_onStore {α : Type} {prog : Checked Fault (Store cfg) α} {env : PduEnv cfg}
    {post : α → PduEnv cfg → Prop} :
    Yields (onStore prog) env post ↔
      Yields prog env.store fun a store => post a { env with store := store } :=
  yields_onPart

theorem yields_modbusSyncRegisters (direct : cfg.Direct) (hooks : SyncHooks cfg)
    (env : PduEnv cfg) :
    Yields (modbusSyncRegisters hooks) env fun _ env' => env' = registersSynced hooks env := by
  unfold modbusSyncRegisters registersSynced
  split
  · exact yields_modify.mpr rfl
  · rw [yields_onStore]
    apply (yields_modbusAppSyncRegisters direct env.store).mono
    rintro _ _ rfl
    rfl

end AutomationBoard.Modbus
