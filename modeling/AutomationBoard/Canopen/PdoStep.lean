/-
# What the PDO engine does

However the engine is entered, it keeps its settings, refreshes the input
variables of the default dictionary, and transmits nothing but the two TPDOs with
the payloads of that moment. Each function of the engine is shown to do no more
than that, so what uses the engine needs no other fact about it.
-/

import AutomationBoard.Canopen.SdoStep
import AutomationBoard.Canopen.Pdo

namespace AutomationBoard.Canopen

open AutomationBoard.Program

variable {ω : Type} {app : Application ω}

/-! ## Settings -/

/-- What no function changes in a TPDO. -/
structure TpdoConfig where
  cobId : ℕ
  eventTimerMs : Word
  inhibitTimerMs : Word
  deriving DecidableEq

/-- What no function changes in the engine. -/
structure PdoConfig where
  nodeId : Byte
  od : CanopenOd
  tpdo1 : TpdoConfig
  tpdo2 : TpdoConfig
  vars : AutomationVars
  deriving DecidableEq

def TpdoState.config (tpdo : TpdoState) : TpdoConfig :=
  ⟨tpdo.cobId, tpdo.eventTimerMs, tpdo.inhibitTimerMs⟩

def Pdo.config (pdo : Pdo) : PdoConfig :=
  ⟨pdo.nodeId, pdo.od, pdo.tpdo1.config, pdo.tpdo2.config, pdo.vars⟩

@[simp]
theorem TpdoState.config_cooledDown (tpdo : TpdoState) (deltaMs : Long) :
    (tpdo.cooledDown deltaMs).config = tpdo.config := by
  unfold cooledDown
  split_ifs <;> rfl

@[simp]
theorem TpdoState.config_released (tpdo : TpdoState) : tpdo.released.config = tpdo.config := rfl

/-! ## Input variables -/

/-- The two memories differ in the input variables of the default dictionary at most. -/
def SameOutsideInputs (mem mem' : Mem) : Prop :=
  ∀ p : Ptr, p.block ≠ .obj6000DiState → p.block ≠ .obj6401Ai → mem'.cell p = mem.cell p

namespace SameOutsideInputs

theorem refl (mem : Mem) : SameOutsideInputs mem mem := fun _ _ _ => rfl

theorem trans {mem mem' mem'' : Mem} (h : SameOutsideInputs mem mem')
    (h' : SameOutsideInputs mem' mem'') : SameOutsideInputs mem mem'' := by
  intro p hdi hai
  rw [h' p hdi hai, h p hdi hai]

/-- Ranges in other variables read as before. -/
theorem read_eq {mem mem' : Mem} (h : SameOutsideInputs mem mem') {p : Ptr}
    (hdi : p.block ≠ .obj6000DiState) (hai : p.block ≠ .obj6401Ai) (n : ℕ) :
    mem'.read p n = mem.read p n :=
  Memory.read_congr fun i _ => h (p.add i) hdi hai

/-- A write into an input variable. -/
theorem write (mem : Mem) {p : Ptr} (values : List Byte)
    (hp : p.block = .obj6000DiState ∨ p.block = .obj6401Ai) :
    SameOutsideInputs mem (mem.write p values) := by
  intro q hdi hai
  apply Memory.cell_write_of_not_covers
  rintro ⟨hblock, -, -⟩
  rcases hp with hp | hp
  · exact hdi (hblock.trans hp)
  · exact hai (hblock.trans hp)

end SameOutsideInputs

theorem sameOutsideInputs_setDigitalInputs (inputs : Byte) (mem : Mem) :
    SameOutsideInputs mem (setDigitalInputs canopenDefaultOdGetVars inputs mem) :=
  .write mem [inputs] (.inl rfl)

theorem sameOutsideInputs_setAnalogInput (channel : ℕ) (value : Word) (mem : Mem) :
    SameOutsideInputs mem (setAnalogInput canopenDefaultOdGetVars channel value mem) := by
  unfold setAnalogInput
  split_ifs
  · exact .write mem (wordBytes value) (.inr rfl)
  · exact .refl mem

theorem sameOutsideInputs_setIfSome {α : Type} {set : α → Mem → Mem}
    (hset : ∀ a mem, SameOutsideInputs mem (set a mem)) (value : Option α) (mem : Mem) :
    SameOutsideInputs mem (setIfSome set value mem) := by
  cases value with
  | none => exact .refl mem
  | some a => exact hset a mem

/-- A refresh changes input variables only. -/
theorem sameOutsideInputs_apply (refresh : InputRefresh) (mem : Mem) :
    SameOutsideInputs mem (refresh.apply canopenDefaultOdGetVars mem) := by
  have hchannels : ∀ (channels : List ℕ) (mem : Mem), SameOutsideInputs mem
      (channels.foldl (fun mem i =>
        setIfSome (setAnalogInput canopenDefaultOdGetVars i) (refresh.analog i) mem) mem) := by
    intro channels
    induction channels with
    | nil => exact .refl
    | cons i channels ih =>
        intro mem
        exact (sameOutsideInputs_setIfSome (sameOutsideInputs_setAnalogInput i) _ mem).trans (ih _)
  exact (sameOutsideInputs_setIfSome sameOutsideInputs_setDigitalInputs _ mem).trans
    (hchannels _ _)

/-! ## Activity -/

/-- A call that the engine makes: a refresh, or a TPDO with its payload of that moment. -/
inductive IsPdoCall (config : PdoConfig) : AppCall → Prop
  | syncInputs : IsPdoCall config .syncInputs
  | tpdo1 (ret : ℤ) (mem : Mem) : IsPdoCall config
      (.transmit (dataFrame config.tpdo1.cobId (tpdo1Data config.vars mem)) ret mem)
  | tpdo2 (ret : ℤ) (mem : Mem) : IsPdoCall config
      (.transmit (dataFrame config.tpdo2.cobId (tpdo2Data config.vars mem)) ret mem)

/-- What the engine does to a device. -/
structure PdoActivity (config : PdoConfig) (dev dev' : Device ω) : Prop where
  mem : SameOutsideInputs dev.mem dev'.mem
  calls : ∃ new, dev'.calls = dev.calls ++ new ∧ ∀ call ∈ new, IsPdoCall config call

namespace PdoActivity

variable {config : PdoConfig} {dev dev' dev'' : Device ω}

theorem refl (config : PdoConfig) (dev : Device ω) : PdoActivity config dev dev :=
  ⟨.refl dev.mem, [], (List.append_nil _).symm, fun _ h => absurd h List.not_mem_nil⟩

theorem trans (h : PdoActivity config dev dev') (h' : PdoActivity config dev' dev'') :
    PdoActivity config dev dev'' := by
  obtain ⟨new, hnew, hcalls⟩ := h.calls
  obtain ⟨new', hnew', hcalls'⟩ := h'.calls
  refine ⟨h.mem.trans h'.mem, new ++ new', ?_, ?_⟩
  · rw [hnew', hnew, List.append_assoc]
  · intro call hcall
    exact (List.mem_append.mp hcall).elim (hcalls call) (hcalls' call)

end PdoActivity

/-- A TPDO is sent, or refused while it is inhibited. -/
theorem sendTpdo_activity {config : PdoConfig} {tpdo : TpdoState} {payload : Mem → List Byte}
    (hcall : ∀ ret mem, IsPdoCall config
      (.transmit (dataFrame tpdo.cobId (payload mem)) ret mem))
    (app : Application ω) (dev : Device ω) :
    (sendTpdo app tpdo payload dev).2.1.config = tpdo.config ∧
      PdoActivity config dev (sendTpdo app tpdo payload dev).2.2 := by
  have hsent : PdoActivity config dev
      ((dev.syncInputs app).send app
        (dataFrame tpdo.cobId (payload (dev.syncInputs app).mem))) := by
    refine ⟨sameOutsideInputs_apply _ dev.mem, _, List.append_assoc _ _ _, ?_⟩
    intro call hmem
    rcases List.mem_cons.mp hmem with rfl | hmem
    · exact .syncInputs
    · rw [List.mem_singleton.mp hmem]
      exact hcall _ _
  unfold sendTpdo
  split_ifs with hinhibited
  · exact ⟨rfl, .refl config dev⟩
  · simp only
    split_ifs
    · exact ⟨rfl, hsent⟩
    · exact ⟨rfl, hsent⟩

/-- The event timer counts down, or sends the TPDO. -/
theorem runEventTimer_activity {config : PdoConfig} {tpdo : TpdoState} {payload : Mem → List Byte}
    (hcall : ∀ ret mem, IsPdoCall config
      (.transmit (dataFrame tpdo.cobId (payload mem)) ret mem))
    (app : Application ω) (deltaMs : Long) (dev : Device ω) :
    (runEventTimer app tpdo payload deltaMs dev).1.config = tpdo.config ∧
      PdoActivity config dev (runEventTimer app tpdo payload deltaMs dev).2 := by
  unfold runEventTimer
  split_ifs
  · exact sendTpdo_activity hcall app dev
  · exact ⟨rfl, .refl config dev⟩
  · exact ⟨rfl, .refl config dev⟩

/-- The engine kept its settings and did nothing else to the device. -/
def PdoKept (pdo pdo' : Pdo) (dev dev' : Device ω) : Prop :=
  pdo'.config = pdo.config ∧ PdoActivity pdo.config dev dev'

section Engine

variable (app : Application ω) (pdo : Pdo) (dev : Device ω)

theorem isPdoCall_tpdo1 {pdo : Pdo} {tpdo : TpdoState} (h : tpdo.config = pdo.tpdo1.config)
    (ret : ℤ) (mem : Mem) :
    IsPdoCall pdo.config (.transmit (dataFrame tpdo.cobId (tpdo1Data pdo.vars mem)) ret mem) := by
  rw [show tpdo.cobId = pdo.config.tpdo1.cobId from congrArg TpdoConfig.cobId h]
  exact .tpdo1 ret mem

theorem isPdoCall_tpdo2 {pdo : Pdo} {tpdo : TpdoState} (h : tpdo.config = pdo.tpdo2.config)
    (ret : ℤ) (mem : Mem) :
    IsPdoCall pdo.config (.transmit (dataFrame tpdo.cobId (tpdo2Data pdo.vars mem)) ret mem) := by
  rw [show tpdo.cobId = pdo.config.tpdo2.cobId from congrArg TpdoConfig.cobId h]
  exact .tpdo2 ret mem

theorem canopenPdoSendTpdo1_kept :
    PdoKept pdo (canopenPdoSendTpdo1 app pdo dev).2.1 dev
      (canopenPdoSendTpdo1 app pdo dev).2.2 := by
  obtain ⟨hconfig, hactivity⟩ := sendTpdo_activity (isPdoCall_tpdo1 rfl) app dev
  refine ⟨?_, hactivity⟩
  simp only [Pdo.config, canopenPdoSendTpdo1, hconfig]

theorem canopenPdoSendTpdo2_kept :
    PdoKept pdo (canopenPdoSendTpdo2 app pdo dev).2.1 dev
      (canopenPdoSendTpdo2 app pdo dev).2.2 := by
  obtain ⟨hconfig, hactivity⟩ := sendTpdo_activity (isPdoCall_tpdo2 rfl) app dev
  refine ⟨?_, hactivity⟩
  simp only [Pdo.config, canopenPdoSendTpdo2, hconfig]

theorem canopenPdoProcess_kept (deltaMs : Long) (isOperational : Bool) :
    PdoKept pdo (canopenPdoProcess app pdo deltaMs isOperational dev).1 dev
      (canopenPdoProcess app pdo deltaMs isOperational dev).2 := by
  cases isOperational with
  | false => exact ⟨by simp [Pdo.config, canopenPdoProcess], .refl pdo.config dev⟩
  | true =>
      obtain ⟨hconfig1, hactivity1⟩ := runEventTimer_activity
        (isPdoCall_tpdo1 (pdo.tpdo1.config_cooledDown deltaMs)) app deltaMs dev
      obtain ⟨hconfig2, hactivity2⟩ := runEventTimer_activity
        (isPdoCall_tpdo2 (pdo.tpdo2.config_cooledDown deltaMs)) app deltaMs
        (runEventTimer app (pdo.tpdo1.cooledDown deltaMs) (tpdo1Data pdo.vars) deltaMs dev).2
      refine ⟨?_, hactivity1.trans hactivity2⟩
      rw [TpdoState.config_cooledDown] at hconfig1 hconfig2
      simp only [Pdo.config, canopenPdoProcess, not_true, if_false, hconfig1, hconfig2]

theorem canopenPdoRxSync_kept (isOperational : Bool) :
    PdoKept pdo (canopenPdoRxSync app pdo isOperational dev).1 dev
      (canopenPdoRxSync app pdo isOperational dev).2 := by
  cases isOperational with
  | false => exact ⟨rfl, .refl pdo.config dev⟩
  | true =>
      have h1 := canopenPdoSendTpdo1_kept app
        { pdo with tpdo1 := pdo.tpdo1.released, tpdo2 := pdo.tpdo2.released } dev
      have h2 := canopenPdoSendTpdo2_kept app (canopenPdoSendTpdo1 app
        { pdo with tpdo1 := pdo.tpdo1.released, tpdo2 := pdo.tpdo2.released } dev).2.1
        (canopenPdoSendTpdo1 app
          { pdo with tpdo1 := pdo.tpdo1.released, tpdo2 := pdo.tpdo2.released } dev).2.2
      exact ⟨h2.1.trans h1.1, h1.2.trans (h1.1 ▸ h2.2)⟩

/-- Outside the operational state the engine does nothing to the device. -/
theorem canopenPdoProcess_device (deltaMs : Long) {isOperational : Bool}
    (h : isOperational = false) :
    (canopenPdoProcess app pdo deltaMs isOperational dev).2 = dev := by
  subst h
  rfl

theorem canopenPdoRxSync_device {isOperational : Bool} (h : isOperational = false) :
    (canopenPdoRxSync app pdo isOperational dev).2 = dev := by
  subst h
  rfl

end Engine

end AutomationBoard.Canopen
