/-
# The inputs on both networks

An input of the board can be read over Modbus, over the serial line or the Ethernet
port, and over CANopen, by SDO or from a TPDO. The two stacks keep their own copies,
which the scans, the pump and the TPDO engine refresh in between all requests. In
every run the copies agree with the drivers, and these with the samples of the port.
The analog inputs on Modbus are an exception: a read of input registers answers
with holding registers, which a scan refreshes and a client may write before the next
one.
-/

import AutomationBoard.Board.Firmware
import AutomationBoard.Canopen.InputImage
import AutomationBoard.Modbus.Agreement
import AutomationBoard.Modbus.BoardSync
import AutomationBoard.Modbus.Dispatched
import AutomationBoard.Modbus.FifoReads

namespace AutomationBoard.Board

open AutomationBoard.Canopen hiding Byte Word
open AutomationBoard.Math AutomationBoard.Modbus AutomationBoard.Program

variable {χ : Type}

/-! ## The image and the drivers -/

/-- The image shows the digital inputs and the values of the analog inputs. -/
structure ImageShows (digital : Byte) (mem : Mem) (world : BoardIo × Drivers χ) : Prop where
  states : world.1.digitalInputStates = digital
  digital : imageDigital mem = digital
  analog : ∀ i : Fin 4, imageAnalog mem i = analogInputReadRaw i world.2.ai

/-- An output is not an input. -/
theorem kept_syncAnalogOutput (mem : Mem) (world : BoardIo × Drivers χ) (i : ℕ) :
    (syncAnalogOutput mem world i).1.digitalInputStates = world.1.digitalInputStates ∧
      (syncAnalogOutput mem world i).2.ai = world.2.ai := by
  unfold syncAnalogOutput BoardIo.analogOutputWriteRaw
  simp only
  split_ifs <;> exact ⟨rfl, rfl⟩

theorem kept_canopenAppSyncOutputs (mem : Mem) (world : BoardIo × Drivers χ) :
    (canopenAppSyncOutputs mem world).1.digitalInputStates = world.1.digitalInputStates ∧
      (canopenAppSyncOutputs mem world).2.ai = world.2.ai := by
  have hfold (channels : List ℕ) (w : BoardIo × Drivers χ) :
      (channels.foldl (syncAnalogOutput mem) w).1.digitalInputStates = w.1.digitalInputStates ∧
        (channels.foldl (syncAnalogOutput mem) w).2.ai = w.2.ai := by
    induction channels generalizing w with
    | nil => exact ⟨rfl, rfl⟩
    | cons i channels ih =>
        obtain ⟨hstates, hai⟩ := kept_syncAnalogOutput mem w i
        exact ⟨(ih _).1.trans hstates, (ih _).2.trans hai⟩
  have hdigital : (syncDigitalOutputs mem world).1.digitalInputStates =
      world.1.digitalInputStates ∧ (syncDigitalOutputs mem world).2.ai = world.2.ai := by
    unfold syncDigitalOutputs
    simp only
    split_ifs
    · exact ⟨rfl, rfl⟩
    · exact ⟨rfl, rfl⟩
  exact ⟨(hfold _ _).1.trans hdigital.1, (hfold _ _).2.trans hdigital.2⟩

namespace ImageShows

variable {digital : Byte} {mem : Mem} {world : BoardIo × Drivers χ}
  {canDriverTransmit : CanopenFrame → χ → ℤ × χ}

/-- What is stored elsewhere leaves the inputs shown. -/
theorem of_sameInputs (h : ImageShows digital mem world) {mem' : Mem}
    (hmem : SameInputs mem mem') : ImageShows digital mem' world where
  states := h.states
  digital := hmem.1.trans h.digital
  analog i := (congrFun hmem.2 i).trans (h.analog i)

/-- Driving the outputs leaves the inputs shown. -/
theorem syncOutputs (h : ImageShows digital mem world) (mem' : Mem) :
    ImageShows digital mem (canopenAppSyncOutputs mem' world) where
  states := (kept_canopenAppSyncOutputs mem' world).1.trans h.states
  digital := h.digital
  analog i := (h.analog i).trans (by rw [(kept_canopenAppSyncOutputs mem' world).2])

/-- A refresh converts the analog inputs anew, and shows what it has converted. -/
theorem refresh (h : ImageShows digital mem world) :
    ImageShows digital ((canopenAppSyncInputs world).1.apply canopenDefaultOdGetVars mem)
      (canopenAppSyncInputs world).2 where
  states := h.states
  digital := (imageDigital_fullRefresh _ _ mem).trans h.states
  analog i := (imageAnalog_fullRefresh _ _ mem i).trans (readRaw_analogInputsScanAll _ _ _ i.2).symm

theorem quietTo {dev dev' : Device (BoardIo × Drivers χ)}
    (hquiet : QuietTo (boardApplication canDriverTransmit) dev dev')
    (h : ImageShows digital dev.mem dev.world) : ImageShows digital dev'.mem dev'.world :=
  hquiet.keeps (J := fun mem world => ImageShows digital mem world)
    (fun _ _ _ hshows => ⟨hshows.states, hshows.digital, hshows.analog⟩)
    (fun _ _ hshows => hshows.refresh) h

/-- Whatever a frame or the passing of time does, the image shows the inputs. -/
theorem worldStep {dev dev' : Device (BoardIo × Drivers χ)}
    (hstep : WorldStep (boardApplication canDriverTransmit) canopenDefaultOdGet dev dev')
    (h : ImageShows digital dev.mem dev.world) : ImageShows digital dev'.mem dev'.world := by
  cases hstep with
  | quiet hquiet => exact quietTo hquiet h
  | rpdo1 b =>
      apply ImageShows.syncOutputs
      apply h.of_sameInputs
      exact sameInputs_write (.inl fun heq => by cases heq) fun i => .inl fun heq => by cases heq
  | rpdo2 ao0 ao1 =>
      have hother (mem : Mem) (i : ℕ) (value : Word) : SameInputs mem
          (mem.write (elementAt Variable.obj6411Ao.addr i) (wordBytes value)) :=
        sameInputs_write (.inl fun heq => by cases heq) fun i => .inl fun heq => by cases heq
      exact ((h.of_sameInputs (hother _ 0 ao0)).of_sameInputs (hother _ 1 ao1)).syncOutputs _
  | download index bSubindex src sub object found writable fits response =>
      have hstored : ImageShows digital (dev.mem.write object src) dev.world :=
        h.of_sameInputs (sameInputs_download found writable fits)
      unfold Device.written
      simp only
      split_ifs
      · exact (hstored.syncOutputs _).quietTo (quietTo_send response _)
      · exact hstored.quietTo (quietTo_send response _)

end ImageShows

/-! ## The samples of a run -/

/-- When a scan that was due took place, and what it read from the port. -/
structure Sample where
  now : Long
  port : Long

/-- When the inputs were last scanned: at 0 if they never were. -/
def lastScan (samples : List Sample) : Long := (samples.head?.map Sample.now).getD 0

/-- `(now - last_scan_tick) >= 10`. -/
def ScanDue (samples : List Sample) (now : Long) : Prop := 10 ≤ (now - lastScan samples).toNat

instance (samples : List Sample) (now : Long) : Decidable (ScanDue samples now) :=
  inferInstanceAs (Decidable (_ ≤ _))

/-- An observer of a run, who keeps the samples, the newest first. -/
def noteSample (samples : List Sample) (event : FirmwareEvent) (_ : PUnit) : List Sample :=
  match event with
  | .scan now port _ => if ScanDue samples now then ⟨now, port⟩ :: samples else samples
  | _ => samples

/-- `di_debounce` and `digital_input_states`. -/
def Firmware.digitalInputs (b : Firmware χ) : DigitalInputs :=
  ⟨b.diDebounce, b.io.digitalInputStates⟩

/-! ## The path of the inputs -/

/-- The debouncer has seen the samples, and the copies of the digital inputs are
copies of what it reports. -/
structure DigitalPath (samples : List Sample) (b : Firmware χ) : Prop where
  tick : b.lastScanTick = lastScan samples
  debounced : Debounced (samples.map Sample.port) b.digitalInputs
  digital : imageDigital b.mem = b.io.digitalInputStates
  copies : b.store.CopiesInputs
  hooks : b.slave.hooks = .none boardConfig
  node : b.node.Configured 1 canopenDefaultOdGet

/-- The image shows the values of the analog inputs as well. -/
structure InputPath (samples : List Sample) (b : Firmware χ) : Prop
    extends DigitalPath samples b where
  analog : ∀ i : Fin 4, imageAnalog b.mem i = analogInputReadRaw i b.drivers.ai

namespace InputPath

variable {samples : List Sample} {b : Firmware χ}
  {canDriverTransmit : CanopenFrame → χ → ℤ × χ}

theorem shown (h : InputPath samples b) :
    ImageShows b.io.digitalInputStates b.mem (b.io, b.drivers) := ⟨rfl, h.digital, h.analog⟩

/-- A function of the node that leaves the inputs shown. -/
theorem withSystem (h : InputPath samples b) {s : System (BoardIo × Drivers χ)}
    (hnode : s.node.config = b.node.config)
    (hshown : ImageShows b.io.digitalInputStates s.dev.mem s.dev.world) :
    InputPath samples (b.withSystem s) where
  tick := h.tick
  debounced := by
    have hinputs : (b.withSystem s).digitalInputs = b.digitalInputs :=
      congrArg (DigitalInputs.mk b.diDebounce) hshown.states
    exact hinputs ▸ h.debounced
  digital := hshown.digital.trans hshown.states.symm
  copies := ⟨h.copies.discrete, h.copies.registers⟩
  hooks := h.hooks
  node := h.node.of_config_eq hnode
  analog := hshown.analog

theorem receive (h : InputPath samples b) (frame : CanopenFrame) :
    InputPath samples
      (callNode (boardApplication canDriverTransmit) (.rxFrame frame.cobId (some frame.data)) b) :=
  h.withSystem (config_nodeStep _ _ b.system)
    (h.shown.worldStep (worldStep_rxFrame (s := b.system) _ h.node _ _))

theorem process (h : InputPath samples b) (deltaMs : Long) :
    InputPath samples (callNode (boardApplication canDriverTransmit) (.process deltaMs) b) :=
  h.withSystem (config_nodeStep _ _ b.system)
    (h.shown.quietTo (quietTo_canopenProcess _ deltaMs b.system.unrecorded))

theorem syncOutputs (h : InputPath samples b) :
    InputPath samples (Board.syncOutputs (boardApplication canDriverTransmit) b) :=
  h.withSystem (s := { b.system with dev := b.system.dev.syncOutputs _ }) rfl
    (h.shown.syncOutputs b.mem)

/-- A request that has left the slave as the PDU that reached the dispatcher did. -/
theorem request (h : InputPath samples b) {slave : Slave boardConfig}
    (hhooks : slave.hooks = b.slave.hooks) {pdu : Option (List Byte)}
    (henv : slave.env = b.slave.dispatched pdu) :
    InputPath samples { b with slave := slave } := by
  have hstates : slave.env.store.io.digitalInputStates = b.io.digitalInputStates := by
    rw [henv]
    exact digitalInputStates_dispatched h.hooks pdu
  exact
    { tick := h.tick
      debounced := by
        have hinputs : Firmware.digitalInputs { b with slave := slave } = b.digitalInputs :=
          congrArg (DigitalInputs.mk b.diDebounce) hstates
        exact hinputs ▸ h.debounced
      digital := h.digital.trans hstates.symm
      copies := by
        have hcopies := copiesInputs_dispatched h.hooks Config.boardConfig_flat h.copies pdu
        rw [← henv] at hcopies
        exact hcopies
      hooks := hhooks.trans h.hooks
      node := h.node
      analog := h.analog }

end InputPath

/-! ## A scan -/

section Scan

variable {canDriverTransmit : CanopenFrame → χ → ℤ × χ} (b : Firmware χ)

/-- The board with other variables of the node and other holding registers. -/
def Firmware.handedOver (mem : Mem) (regs : Vector Word boardConfig.maxRegisters) : Firmware χ :=
  { b.updateStore fun store => { store with holdingRegs := regs } with mem := mem }

/-- The body of the publishing loop sets a register and a variable of the node. -/
theorem publishAnalog_handedOver (hvars : b.node.vars = canopenDefaultOdGetVars)
    (aiBuf : ℕ → Word) {i : ℕ} (hi : i < aiCount) (mem : Mem)
    (regs : Vector Word boardConfig.maxRegisters) :
    publishAnalog (boardApplication canDriverTransmit) aiBuf i (b.handedOver mem regs) =
      b.handedOver (setAnalogInput canopenDefaultOdGetVars i (aiBuf i) mem)
        (modbusRegsWrite boardConfig regs (100 + i) (aiBuf i)) := by
  have hcount : i < 4 := hi
  have hchannel : (BitVec.ofNat 8 i).toNat = i := Nat.mod_eq_of_lt (by omega)
  have hwrite : modbusWriteHoldingRegister (b.handedOver mem regs).store
      (boardConfig.holdingRegOffset + 100 + i) (aiBuf i) =
        { (b.handedOver mem regs).store with
          holdingRegs := modbusRegsWrite boardConfig regs (100 + i) (aiBuf i) } := by
    rw [Config.boardConfig_flat.holdingRegOffset, Nat.zero_add]
    exact modbusWriteHoldingRegister_eq Config.boardConfig_flat _ (by omega) _
  have hmem : setAnalogInput (b.handedOver mem regs).node.vars (BitVec.ofNat 8 i).toNat (aiBuf i)
      mem = setAnalogInput canopenDefaultOdGetVars i (aiBuf i) mem :=
    congrArg₂ (fun vars channel => setAnalogInput vars channel (aiBuf i) mem) hvars hchannel
  rw [← hmem]
  exact congrArg (fun store => callNode (boardApplication canDriverTransmit)
    (.setAnalogInput (BitVec.ofNat 8 i) (aiBuf i))
      ((b.handedOver mem regs).updateStore fun _ => store)) hwrite

/-- The loop hands the values of the buffer to both stacks. -/
theorem yields_publishAnalogs (hvars : b.node.vars = canopenDefaultOdGetVars)
    (aiBuf : ℕ → Word) :
    Yields (ε := Fault) (forRange aiCount fun i =>
      modify (publishAnalog (boardApplication canDriverTransmit) aiBuf i)) b fun _ b' =>
        ∃ mem regs, b' = b.handedOver mem regs ∧ imageDigital mem = imageDigital b.mem ∧
          (∀ i : Fin 4, imageAnalog mem i = aiBuf i) ∧
          ∀ i < aiCount, regAt regs (100 + i) = aiBuf i := by
  refine (Yields.forRange (fun n t => ∃ mem regs, t = b.handedOver mem regs ∧
    imageDigital mem = imageDigital b.mem ∧
      (∀ i : Fin 4, i.val < n → imageAnalog mem i = aiBuf i) ∧
        ∀ i < n, regAt regs (100 + i) = aiBuf i) ?_ ?_).mono ?_
  · exact ⟨b.mem, b.store.holdingRegs, rfl, rfl, fun i hi => absurd hi (Nat.not_lt_zero i),
      fun i hi => absurd hi (Nat.not_lt_zero i)⟩
  · rintro n hn t ⟨mem, regs, rfl, hdigital, hanalog, hregs⟩
    rw [yields_modify, publishAnalog_handedOver b hvars aiBuf hn]
    refine ⟨_, _, rfl, ?_, fun i hi => ?_, fun i hi => ?_⟩
    · rw [imageDigital_setAnalogInput, hdigital]
    · rw [imageAnalog_setAnalogInput, writeAt]
      split_ifs with hlast
      · rw [hlast]
      · exact hanalog i (Nat.lt_of_le_of_ne (Nat.le_of_lt_succ hi) hlast)
    · have hcount : i < 4 := (Nat.le_of_lt_succ hi).trans_lt hn
      have hmapped : 100 + i < boardConfig.maxRegisters :=
        (Nat.add_lt_add_left hcount 100).trans (by decide)
      have hwritten := congrFun (regArray_modbusRegsWrite regs (100 + n) (aiBuf n))
        ⟨100 + i, hmapped⟩
      refine hwritten.trans ?_
      rw [writeAt]
      split_ifs with hlast
      · rw [Nat.add_left_cancel hlast]
      · exact hregs i (Nat.lt_of_le_of_ne (Nat.le_of_lt_succ hi) fun h => hlast (h ▸ rfl))
  · rintro - b' ⟨mem, regs, hb', hdigital, hanalog, hregs⟩
    exact ⟨mem, regs, hb', hdigital, fun i => hanalog i i.2, hregs⟩

end Scan

/-- After a scan that was due, the registers from 100 on hold what it converted. -/
def HandsOver (samples : List Sample) (b : Firmware χ) : FirmwareEvent → Prop
  | .scan now _ scan => ScanDue samples now → ∀ i < aiCount,
      regAt b.store.holdingRegs (100 + i) = (scan.adc (adcChannel i)).getD (scan.buffer i)
  | _ => True

section Steps

variable {samples : List Sample} {b : Firmware χ}
  {canDriverTransmit : CanopenFrame → χ → ℤ × χ}

/-- A scan hands the debounced inputs of its sample to the node. -/
theorem DigitalPath.sample (h : DigitalPath samples b) (now port : Long) :
    DigitalPath (⟨now, port⟩ :: samples) (callNode (boardApplication canDriverTransmit)
      (.setDigitalInputs (scanDigital port { b with lastScanTick := now }).io.digitalInputStates)
      (scanDigital port { b with lastScanTick := now })) where
  tick := rfl
  debounced := h.debounced.scan port
  digital := by
    have hset := imageDigital_setDigitalInputs
      (scanDigital port { b with lastScanTick := now }).io.digitalInputStates b.mem
    rw [← h.node.vars_eq] at hset
    exact hset
  copies := ⟨h.copies.discrete, h.copies.registers⟩
  hooks := h.hooks
  node := h.node

/-- Once a scan has handed over the analog inputs, mirroring them shows all inputs. -/
theorem DigitalPath.refreshed (h : DigitalPath samples b) {mem : Mem}
    {regs : Vector Word boardConfig.maxRegisters} (hdigital : imageDigital mem = imageDigital b.mem)
    (hanalog : ∀ i : Fin 4, imageAnalog mem i = analogInputReadRaw i b.drivers.ai) :
    InputPath samples ((b.handedOver mem regs).updateStore fun store =>
      analogInputsMirrored (mirrorDiscreteInputs boardConfig store)) where
  tick := h.tick
  debounced := h.debounced
  digital := hdigital.trans h.digital
  copies := by
    have hcopies : (b.handedOver mem regs).store.CopiesInputs := ⟨h.copies.1, h.copies.2⟩
    exact (hcopies.mirrorDiscreteInputs Config.boardConfig_flat).analogInputsMirrored
      Config.boardConfig_flat
  hooks := h.hooks
  node := h.node
  analog := hanalog

/-- A scan takes its sample into account, and hands over all inputs. -/
theorem InputPath.scan (h : InputPath samples b) (now port : Long) (scan : Scan) :
    Yields (scanInputs (boardApplication canDriverTransmit) now port scan) b fun out b' =>
      InputPath (noteSample samples (.scan now port scan) out) b' ∧
        HandsOver samples b' (.scan now port scan) := by
  simp only [scanInputs, yields_bind, yields_get, h.tick]
  by_cases hdue : ScanDue samples now
  · simp only [noteSample, HandsOver, if_pos hdue]
    rw [if_pos (show 10 ≤ (now - lastScan samples).toNat from hdue)]
    simp only [yields_bind, yields_set, yields_modify, yields_get, yields_onPart]
    have hsampled : DigitalPath (⟨now, port⟩ :: samples)
        (callNode (boardApplication canDriverTransmit) _ _) := h.toDigitalPath.sample now port
    revert hsampled
    generalize callNode _ _ _ = c
    intro hsampled
    have hconverted : DigitalPath (⟨now, port⟩ :: samples) (scanAnalog scan c).2 :=
      { hsampled with }
    have hvalues : ∀ i < aiCount,
        (scanAnalog scan c).1 i = analogInputReadRaw i (scanAnalog scan c).2.drivers.ai :=
      fun i hi => (readRaw_analogInputsScanAll scan.adc scan.buffer c.drivers.ai hi).symm
    apply (yields_publishAnalogs (scanAnalog scan c).2 hsampled.node.vars_eq
      (scanAnalog scan c).1).mono
    rintro - _ ⟨mem, regs, rfl, hdigital, hanalog, hregs⟩
    have hsync := yields_modbusSyncInputs Config.boardConfig_flat.direct
      ((scanAnalog scan c).2.handedOver mem regs).slave.env
    rw [← hsampled.hooks] at hsync
    apply hsync.mono
    rintro - env rfl
    have hrefreshed : InputPath _ (((scanAnalog scan c).2.handedOver mem regs).updateStore _) :=
      hconverted.refreshed hdigital fun i => (hanalog i).trans (hvalues i i.2)
    refine ⟨hrefreshed.process _, fun _ i hi => ?_⟩
    refine (hregs i hi).trans ?_
    exact buffer_analogInputsScanAll scan.adc scan.buffer c.drivers.ai hi
  · simp only [noteSample, HandsOver, if_neg hdue]
    rw [if_neg (show ¬ 10 ≤ (now - lastScan samples).toNat from hdue), yields_pure]
    exact ⟨h, fun hscan => absurd hscan hdue⟩

/-- Every event keeps the path, and a scan hands over what it converted. -/
theorem InputPath.step (h : InputPath samples b) (event : FirmwareEvent) :
    Yields (firmwareStep (boardApplication canDriverTransmit) event) b fun out b' =>
      InputPath (noteSample samples event out) b' ∧ HandsOver samples b' event := by
  cases event with
  | scan now port scan => exact h.scan now port scan
  | receive frame => exact yields_modify.mpr ⟨h.receive frame, trivial⟩
  | syncOutputs => exact yields_modify.mpr ⟨h.syncOutputs, trivial⟩
  | yield now =>
      refine yields_modify.mpr ⟨?_, trivial⟩
      have hpumped : InputPath samples { b with sLastYieldTick := now } := { h with }
      unfold yieldTimers
      simp only
      split_ifs
      · exact hpumped.process _
      · exact hpumped
  | rtu rx =>
      rw [firmwareStep, yields_onPart, yields_bind]
      apply (yields_modbusRtuProcess Config.boardConfig_flat b.slave rx).mono
      intro out slave hslave
      rw [yields_pure, (Prod.mk.inj hslave).2]
      exact ⟨h.request (hooks_slaveStep b.slave rx) (env_slaveStep b.slave rx), trivial⟩
  | tcp txPdu rx =>
      rw [firmwareStep, yields_onPart, yields_bind]
      apply (yields_modbusTcpBuildResponse_env Config.boardConfig_flat b.slave txPdu rx).mono
      rintro out _ rfl
      rw [yields_pure]
      exact ⟨h.request rfl rfl, trivial⟩

end Steps

/-! ## Runs -/

/-- What clients read of the inputs, on either network: a digital input is on exactly if
its pin was low in the last six samples, and FC 0x02, FC 0x07, the object 0x6000 and
TPDO1 show just these inputs. The objects 0x6401 and TPDO2 show what the driver
converted last, and FC 0x04 what the holding registers from 100 on hold. -/
structure ShowsInputs (samples : List Sample) (b : Firmware χ) : Prop where
  debounced : ∀ channel : Byte, channel.toNat < diCount →
    (digitalInputRead channel b.digitalInputs = 1 ↔
      6 ≤ samples.length ∧ ∀ sample ∈ samples.take 6, PinLow channel.toNat sample.port)
  discreteInputs : ∀ (rx : List Byte) (span : Span maxReadCoils boardConfig.maxCoils),
    parseRequest boardConfig rx = .ok (.readDiscreteInputs span) →
      (pduReply b.slave.hooks rx b.slave.env).1 = bitsPdu .readDiscreteInputs
        (fun i => (digitalInputsReadAll b.digitalInputs).getLsbD (span.start + i)) span.count
  exceptionStatus : ∀ rx : List Byte, parseRequest boardConfig rx = .ok .readExceptionStatus →
    (pduReply b.slave.hooks rx b.slave.env).1 =
      [FunctionCode.readExceptionStatus.code, digitalInputsReadAll b.digitalInputs]
  inputRegisters : ∀ (rx : List Byte) (span : Span maxReadRegisters boardConfig.maxRegisters),
    parseRequest boardConfig rx = .ok (.readInputRegisters span) →
      (pduReply b.slave.hooks rx b.slave.env).1 = registersPdu .readInputRegisters
        ((List.range span.count).map fun i =>
          if span.start + i < 4 then regAt b.store.holdingRegs (100 + (span.start + i)) else 0)
  digitalObject : uploadedValue canopenDefaultOdGet b.mem (0x6000, 1) =
    some (.ok [digitalInputsReadAll b.digitalInputs])
  analogObjects : ∀ i : Fin 4,
    uploadedValue canopenDefaultOdGet b.mem (0x6401, BitVec.ofNat 8 (i + 1)) =
      some (.ok (wordBytes (analogInputReadRaw i b.drivers.ai)))
  tpdo1 : tpdo1Data b.node.pdo.vars b.mem = [digitalInputsReadAll b.digitalInputs]
  tpdo2 : tpdo2Data b.node.pdo.vars b.mem =
    (List.finRange 4).flatMap fun i : Fin 4 => wordBytes (analogInputReadRaw i b.drivers.ai)

theorem InputPath.showsInputs {samples : List Sample} {b : Firmware χ}
    (h : InputPath samples b) : ShowsInputs samples b where
  debounced channel hchannel := by
    rw [h.debounced.digitalInputRead_eq_one_iff hchannel, List.length_map, ← List.map_take]
    simp only [List.forall_mem_map]
  discreteInputs rx span hparse :=
    pduReply_readDiscreteInputs Config.boardConfig_flat h.copies hparse
  exceptionStatus rx hparse :=
    pduReply_readExceptionStatus Config.boardConfig_flat (by decide) hparse
  inputRegisters rx span hparse :=
    pduReply_readInputRegisters Config.boardConfig_flat h.copies hparse
  digitalObject := by
    rw [uploadedValue_imageDigital, h.digital]
    rfl
  analogObjects i := by rw [uploadedValue_imageAnalog, h.analog]
  tpdo1 := by
    have hvars : b.node.pdo.vars = canopenDefaultOdGetVars := pdo_vars_eq (s := b.system) h.node
    rw [hvars, tpdo1Data_imageDigital, h.digital]
    rfl
  tpdo2 := by
    have hvars : b.node.pdo.vars = canopenDefaultOdGetVars := pdo_vars_eq (s := b.system) h.node
    rw [hvars, tpdo2Data_imageAnalog]
    simp only [h.analog]

section Runs

variable (canDriverTransmit : CanopenFrame → χ → ℤ × χ) (conversions : ℕ → Scan) (can : χ)

/-- Nothing has been sampled when the main loop begins. -/
theorem inputPath_booted :
    InputPath [] (bootedFirmware canDriverTransmit conversions can) where
  tick := rfl
  debounced := debounced_boot
  digital := rfl
  copies := ⟨(copiesInputs_init (.powerOn boardConfig)).1, (copiesInputs_init (.powerOn _)).2⟩
  hooks := rfl
  node := ⟨config_initialised _ 1 none _, by decide, by decide⟩
  analog i := by
    have hcleared : ∀ i : Fin 4, imageAnalog (canopenDefaultOdUpdateNodeId 1 bootMem) i = 0 := by
      decide
    refine (hcleared i).trans ?_
    unfold analogInputReadRaw
    split_ifs <;> rfl

/-- In every run of the board, whatever the order of scans, CAN frames, timers and
requests, both networks show the debounced inputs, and each of them its copy of the
analog values, which a scan that is due hands over. -/
theorem firmwareRun_published (events : List FirmwareEvent) :
    EveryStep (watched noteSample (firmwareStep (boardApplication canDriverTransmit)))
      (fun s event _ s' => ShowsInputs s'.2 s'.1 ∧ HandsOver s.2 s'.1 event)
      (bootedFirmware canDriverTransmit conversions can, []) events := by
  refine everyStep_of_invariant (I := fun s => InputPath s.2 s.1) ?_
    (inputPath_booted canDriverTransmit conversions can) events
  intro s event h
  rw [yields_watched]
  exact (InputPath.step h event).mono fun out b' hb' => ⟨hb'.1, hb'.1.showsInputs, hb'.2⟩

end Runs

end AutomationBoard.Board
