/-
# The last command

The outputs of the board can be commanded over Modbus and over CANopen. Over Modbus
every write that is carried out drives all outputs from the tables; over CANopen an
output is driven when its variable has changed, and an analog output only if the
value is one for the converter. In every run an output is what the last command that
says anything of it says, whichever network the command came from.
-/

import AutomationBoard.Board.Firmware
import AutomationBoard.Canopen.OutputImage
import AutomationBoard.Modbus.BoardSync
import AutomationBoard.Modbus.Dispatched
import AutomationBoard.Modbus.FifoReads

namespace AutomationBoard.Board

open AutomationBoard.Canopen hiding Byte Word
open AutomationBoard.Math AutomationBoard.Modbus AutomationBoard.Program

variable {χ : Type}

/-! ## Commands over CANopen -/

/-- A value for the converter of an analog output. -/
def DacValue (aoVal : Word) : Prop := 0 ≤ aoVal.toInt ∧ aoVal.toInt ≤ dacResolution

instance (aoVal : Word) : Decidable (DacValue aoVal) := inferInstanceAs (Decidable (_ ∧ _))

/-- `s_last_do` and `s_last_ao` are the outputs in the image. -/
structure Synced (mem : Mem) (world : BoardIo × Drivers χ) : Prop where
  lastDo : world.2.sLastDo = imageOutputs mem
  lastAo : ∀ i < aoCount, world.2.sLastAo i = imageAnalogOutput mem i

/-- The drivers follow a change of the image, from `mem` to `mem'`, and do nothing
else to the outputs. -/
structure Driven (mem mem' : Mem) (io io' : BoardIo) : Prop where
  outputs : io'.digitalOutputStates =
    if imageOutputs mem' = imageOutputs mem then io.digitalOutputStates else imageOutputs mem'
  analogs : ∀ i < aoCount, io'.analog i =
    if imageAnalogOutput mem' i ≠ imageAnalogOutput mem i ∧ DacValue (imageAnalogOutput mem' i)
    then imageAnalogOutput mem' i else io.analog i
  relays : io'.relayStates = io.relayStates

section Sync

variable (mem : Mem) (world : BoardIo × Drivers χ)

/-- The pass of the loop for one analog output reads its value in the image. -/
theorem syncAnalogOutput_eq (i : ℕ) :
    syncAnalogOutput mem world i =
      if imageAnalogOutput mem i = world.2.sLastAo i then world
      else
        (if DacValue (imageAnalogOutput mem i) then
          world.1.analogOutputWriteRaw i (imageAnalogOutput mem i) else world.1,
        { world.2 with
          sLastAo := Function.update world.2.sLastAo i (imageAnalogOutput mem i) }) := by
  by_cases hsame : imageAnalogOutput mem i = world.2.sLastAo i
  · exact (if_neg (not_not_intro hsame)).trans (if_pos hsame).symm
  · rw [if_neg hsame]
    refine (if_pos hsame).trans ?_
    by_cases hvalue : DacValue (imageAnalogOutput mem i)
    · rw [if_pos hvalue]
      exact if_pos hvalue
    · rw [if_neg hvalue]
      exact if_neg hvalue

/-- The pass of the loop for one analog output changes that output only, and drives it
if its value is new and one for the converter. -/
theorem syncAnalogOutput_spec (i : ℕ) {j : ℕ} (hj : j < aoCount) :
    (syncAnalogOutput mem world i).2.sLastAo j =
        (if j = i then imageAnalogOutput mem i else world.2.sLastAo j) ∧
      (syncAnalogOutput mem world i).1.analog j =
        (if j = i ∧ imageAnalogOutput mem i ≠ world.2.sLastAo i ∧
          DacValue (imageAnalogOutput mem i) then imageAnalogOutput mem i else world.1.analog j) := by
  have hwrite := congrFun (analog_analogOutputWriteRaw world.1 i (imageAnalogOutput mem i)) ⟨j, hj⟩
  have hupdate := Function.update_apply world.2.sLastAo i (imageAnalogOutput mem i) j
  simp only [writeAt] at hwrite
  rw [syncAnalogOutput_eq]
  by_cases hsame : imageAnalogOutput mem i = world.2.sLastAo i
  · rw [if_pos hsame]
    refine ⟨?_, (if_neg fun h => h.2.1 hsame).symm⟩
    split_ifs with hij
    · rw [hij, hsame]
    · rfl
  · rw [if_neg hsame]
    by_cases hvalue : DacValue (imageAnalogOutput mem i)
    · simp only [hsame, hvalue, if_true, ne_eq, not_false_eq_true, and_true]
      exact ⟨hupdate, hwrite⟩
    · simp only [hvalue, and_false, if_false, and_true]
      exact hupdate

/-- The loop over the first `n` analog outputs drives those of them that have changed. -/
theorem foldl_syncAnalogOutput (n : ℕ) {j : ℕ} (hj : j < aoCount) :
    ((List.range n).foldl (syncAnalogOutput mem) world).2.sLastAo j =
        (if j < n then imageAnalogOutput mem j else world.2.sLastAo j) ∧
      ((List.range n).foldl (syncAnalogOutput mem) world).1.analog j =
        (if j < n ∧ imageAnalogOutput mem j ≠ world.2.sLastAo j ∧
          DacValue (imageAnalogOutput mem j) then imageAnalogOutput mem j else world.1.analog j) := by
  induction n with
  | zero => exact ⟨rfl, (if_neg fun h => Nat.not_lt_zero j h.1).symm⟩
  | succ n ih =>
      rw [List.range_succ, List.foldl_append, List.foldl_cons, List.foldl_nil]
      obtain ⟨hlast, hanalog⟩ := syncAnalogOutput_spec mem
        ((List.range n).foldl (syncAnalogOutput mem) world) n hj
      rw [hlast, hanalog, ih.1, ih.2]
      rcases Nat.lt_trichotomy j n with hbelow | rfl | habove
      · simp [hbelow, hbelow.ne, Nat.lt_succ_of_lt hbelow]
      · simp [ih.1]
      · simp [habove.ne', Nat.not_lt.mpr habove.le, Nat.not_lt.mpr (Nat.succ_le_of_lt habove)]

/-- The loop over the analog outputs leaves the digital outputs and the relays alone. -/
theorem foldl_syncAnalogOutput_kept (channels : List ℕ) :
    (channels.foldl (syncAnalogOutput mem) world).2.sLastDo = world.2.sLastDo ∧
      (channels.foldl (syncAnalogOutput mem) world).1.digitalOutputStates =
        world.1.digitalOutputStates ∧
      (channels.foldl (syncAnalogOutput mem) world).1.relayStates = world.1.relayStates := by
  induction channels generalizing world with
  | nil => exact ⟨rfl, rfl, rfl⟩
  | cons i channels ih =>
      rw [List.foldl_cons, (ih _).1, (ih _).2.1, (ih _).2.2]
      rw [syncAnalogOutput_eq, BoardIo.analogOutputWriteRaw]
      split_ifs <;> exact ⟨rfl, rfl, rfl⟩

/-- What `canopen_app_sync_outputs` does before its loop: the digital outputs follow the
image. -/
theorem syncDigitalOutputs_spec :
    (syncDigitalOutputs mem world).2.sLastDo = imageOutputs mem ∧
      (syncDigitalOutputs mem world).2.sLastAo = world.2.sLastAo ∧
      (syncDigitalOutputs mem world).1 = { world.1 with
        digitalOutputStates := if imageOutputs mem = world.2.sLastDo
          then world.1.digitalOutputStates else imageOutputs mem } := by
  have heq : syncDigitalOutputs mem world = if imageOutputs mem = world.2.sLastDo then world
      else (digitalOutputsWriteAll (imageOutputs mem) world.1,
        { world.2 with sLastDo := imageOutputs mem }) := ite_not _ _ _
  rw [heq]
  by_cases hsame : imageOutputs mem = world.2.sLastDo
  · rw [if_pos hsame, if_pos hsame]
    exact ⟨hsame.symm, rfl, rfl⟩
  · rw [if_neg hsame, if_neg hsame]
    exact ⟨rfl, rfl, rfl⟩

end Sync

/-- A synchronisation brings the outputs up to date with the image. -/
theorem Synced.drives {mem : Mem} {world : BoardIo × Drivers χ} (h : Synced mem world)
    (mem' : Mem) : Synced mem' (canopenAppSyncOutputs mem' world) ∧
      Driven mem mem' world.1 (canopenAppSyncOutputs mem' world).1 := by
  obtain ⟨hlast, hlastAo, hio⟩ := syncDigitalOutputs_spec mem' world
  obtain ⟨hkept, houtputs, hrelays⟩ := foldl_syncAnalogOutput_kept mem'
    (syncDigitalOutputs mem' world) (List.range aoCount)
  constructor
  · refine ⟨hkept.trans hlast, fun i hi => ?_⟩
    exact (foldl_syncAnalogOutput mem' (syncDigitalOutputs mem' world) aoCount hi).1.trans
      (if_pos hi)
  · refine ⟨houtputs.trans ?_, fun i hi => ?_, hrelays.trans (by rw [hio])⟩
    · rw [hio, ← h.lastDo]
    · refine (foldl_syncAnalogOutput mem' (syncDigitalOutputs mem' world) aoCount hi).2.trans ?_
      simp only [hlastAo, h.lastAo i hi, hio, hi, true_and]
      rfl

/-! ## What a frame commands -/

/-- A part of a run of the node has commanded what the change of the image says. -/
structure Commanded (mem : Mem) (world : BoardIo × Drivers χ) (mem' : Mem)
    (world' : BoardIo × Drivers χ) : Prop where
  synced : Synced mem' world'
  driven : Driven mem mem' world.1 world'.1

namespace Commanded

variable {mem mem' mem'' : Mem} {world world' : BoardIo × Drivers χ}
  {canDriverTransmit : CanopenFrame → χ → ℤ × χ}

theorem refl (h : Synced mem world) : Commanded mem world mem world where
  synced := h
  driven := ⟨(if_pos rfl).symm, fun _ _ => (if_neg fun hne => hne.1 rfl).symm, rfl⟩

/-- What is stored elsewhere commands nothing. -/
theorem of_sameOutputs (h : Commanded mem world mem' world') (hmem : SameOutputs mem' mem'') :
    Commanded mem world mem'' world' where
  synced :=
    ⟨h.synced.lastDo.trans hmem.digital.symm, fun i hi =>
      (h.synced.lastAo i hi).trans (hmem.analog i hi).symm⟩
  driven := by
    refine ⟨?_, fun i hi => ?_, h.driven.relays⟩
    · rw [hmem.digital]
      exact h.driven.outputs
    · rw [hmem.analog i hi]
      exact h.driven.analogs i hi

/-- A transmission or a refresh of the inputs commands nothing. -/
theorem quietTo {dev dev' : Device (BoardIo × Drivers χ)}
    (hquiet : QuietTo (boardApplication canDriverTransmit) dev dev')
    (h : Commanded mem world dev.mem dev.world) : Commanded mem world dev'.mem dev'.world :=
  hquiet.keeps (J := fun mem' world' => Commanded mem world mem' world')
    (fun _ _ _ hcommanded => ⟨⟨hcommanded.synced.1, hcommanded.synced.2⟩, hcommanded.driven⟩)
    (fun mem' world' hcommanded =>
      have hrefreshed : Commanded mem world mem' (canopenAppSyncInputs world').2 :=
        ⟨⟨hcommanded.synced.1, hcommanded.synced.2⟩, hcommanded.driven⟩
      hrefreshed.of_sameOutputs (sameOutsideInputs_apply _ mem').sameOutputs) h

/-- Whatever a frame or the passing of time does, the outputs follow the image. -/
theorem worldStep {dev dev' : Device (BoardIo × Drivers χ)}
    (hstep : WorldStep (boardApplication canDriverTransmit) canopenDefaultOdGet dev dev')
    (h : Synced dev.mem dev.world) : Commanded dev.mem dev.world dev'.mem dev'.world := by
  have hsync (mem' : Mem) :
      Commanded dev.mem dev.world mem' (canopenAppSyncOutputs mem' dev.world) :=
    ⟨(h.drives mem').1, (h.drives mem').2⟩
  cases hstep with
  | quiet hquiet => exact quietTo hquiet (.refl h)
  | rpdo1 b => exact hsync _
  | rpdo2 ao0 ao1 => exact hsync _
  | download index bSubindex src sub object found writable fits response =>
      unfold Device.written
      simp only
      by_cases hindex : index = 0x6200 ∨ index = 0x6411
      · rw [if_pos hindex]
        exact quietTo (quietTo_send response _) (hsync _)
      · rw [if_neg hindex]
        apply quietTo (quietTo_send response _)
        exact (refl h).of_sameOutputs (sameOutputs_download found hindex fits)

end Commanded

/-- The passing of time commands nothing. -/
theorem sameOutputs_of_quietTo {canDriverTransmit : CanopenFrame → χ → ℤ × χ}
    {dev dev' : Device (BoardIo × Drivers χ)}
    (hquiet : QuietTo (boardApplication canDriverTransmit) dev dev') :
    SameOutputs dev.mem dev'.mem :=
  hquiet.keeps (J := fun mem _ => SameOutputs dev.mem mem) (fun _ _ _ hsame => hsame)
    (fun mem _ hsame => hsame.trans (sameOutsideInputs_apply _ mem).sameOutputs)
    ⟨rfl, fun _ _ => rfl⟩

/-! ## The commands of a run -/

/-- A command for outputs: a write over Modbus, with the tables that it has left, or
the value that an output variable of the node was changed to. -/
inductive OutputCommand
  | modbus (store : Store boardConfig)
  | digital (doVal : Byte)
  | analog (channel : ℕ) (aoVal : Word)

namespace OutputCommand

/-- What a command says of a digital output, if anything. -/
def output? (i : ℕ) : OutputCommand → Option Bool
  | modbus store => some (bitAt store.coilBits i)
  | digital doVal => some (doVal.getLsbD i)
  | analog _ _ => none

/-- What a command says of a relay. -/
def relay? (i : ℕ) : OutputCommand → Option Bool
  | modbus store => some (bitAt store.coilBits (8 + i))
  | digital _ | analog _ _ => none

/-- What a command says of an analog output. A value that is not one for the converter
says nothing. -/
def analog? (i : ℕ) : OutputCommand → Option Word
  | modbus store => some (regAt store.holdingRegs i)
  | digital _ => none
  | analog channel aoVal => if channel = i ∧ DacValue aoVal then some aoVal else none

end OutputCommand

/-- What the newest command says that says anything, and `initial` if none does. -/
def lastCommand {α : Type} (view : OutputCommand → Option α) (initial : α)
    (commands : List OutputCommand) : α := (commands.findSome? view).getD initial

/-- The command for the digital outputs, if they have changed in the image. -/
def digitalCommand (mem mem' : Mem) : List OutputCommand :=
  if imageOutputs mem' = imageOutputs mem then [] else [.digital (imageOutputs mem')]

/-- The command for an analog output. -/
def analogCommand (mem mem' : Mem) (i : ℕ) : List OutputCommand :=
  if imageAnalogOutput mem' i = imageAnalogOutput mem i then []
  else [.analog i (imageAnalogOutput mem' i)]

/-- The commands of a frame that has changed the memory of the node. -/
def canopenCommands (mem mem' : Mem) : List OutputCommand :=
  digitalCommand mem mem' ++ (List.range aoCount).flatMap (analogCommand mem mem')

/-- The command of a PDU for the dispatcher, if it is one. -/
def modbusCommands (store : Store boardConfig) (pdu : Option (List Byte)) : List OutputCommand :=
  ((commandOf boardConfig pdu).map fun r => .modbus (r.stored store)).toList

/-- An observer of a run, who keeps the commands, the newest first. -/
def noteCommands (commands : List OutputCommand) (b : Firmware χ) (event : FirmwareEvent)
    (_ : PUnit) (b' : Firmware χ) : List OutputCommand :=
  match event with
  | .receive _ => canopenCommands b.mem b'.mem ++ commands
  | .rtu rx => modbusCommands b.store (rtuPdu b.slave rx) ++ commands
  | .tcp _ rx => modbusCommands b.store (tcpPdu b.slave rx) ++ commands
  | .scan _ _ _ | .syncOutputs | .yield _ => commands

theorem lastCommand_append {α : Type} (view : OutputCommand → Option α) (initial : α)
    (newer commands : List OutputCommand) :
    lastCommand view initial (newer ++ commands) =
      (newer.findSome? view).getD (lastCommand view initial commands) := by
  rw [lastCommand, List.findSome?_append, Option.getD_or]
  rfl

section Canopen

variable {mem mem' : Mem}

theorem canopenCommands_of_sameOutputs (h : SameOutputs mem mem') :
    canopenCommands mem mem' = [] := by
  rw [canopenCommands, digitalCommand, if_pos h.digital, List.nil_append, List.flatMap_eq_nil_iff]
  intro i hi
  exact if_pos (h.analog i (List.mem_range.mp hi))

/-- What a view finds in the commands of a frame. -/
theorem findSome_canopenCommands {α : Type} (view : OutputCommand → Option α) :
    (canopenCommands mem mem').findSome? view =
      ((digitalCommand mem mem').findSome? view).or
        (((analogCommand mem mem' 0).findSome? view).or
          ((analogCommand mem mem' 1).findSome? view)) := by
  have hrange : (List.range aoCount).flatMap (analogCommand mem mem') =
      analogCommand mem mem' 0 ++ (analogCommand mem mem' 1 ++ []) := rfl
  rw [canopenCommands, hrange, List.append_nil, List.findSome?_append, List.findSome?_append]

theorem findSome_digitalCommand {α : Type} (view : OutputCommand → Option α) :
    (digitalCommand mem mem').findSome? view =
      if imageOutputs mem' = imageOutputs mem then none
      else view (.digital (imageOutputs mem')) := by
  unfold digitalCommand
  split_ifs
  · rfl
  · rw [List.findSome?_singleton]

theorem findSome_analogCommand {α : Type} (view : OutputCommand → Option α) (i : ℕ) :
    (analogCommand mem mem' i).findSome? view =
      if imageAnalogOutput mem' i = imageAnalogOutput mem i then none
      else view (.analog i (imageAnalogOutput mem' i)) := by
  unfold analogCommand
  split_ifs
  · rfl
  · rw [List.findSome?_singleton]

variable (mem mem')

theorem findSome_output_canopenCommands (i : ℕ) :
    (canopenCommands mem mem').findSome? (OutputCommand.output? i) =
      if imageOutputs mem' = imageOutputs mem then none
      else some ((imageOutputs mem').getLsbD i) := by
  rw [findSome_canopenCommands, findSome_digitalCommand, findSome_analogCommand,
    findSome_analogCommand]
  simp only [OutputCommand.output?, ite_self, Option.or_none]

theorem findSome_relay_canopenCommands (i : ℕ) :
    (canopenCommands mem mem').findSome? (OutputCommand.relay? i) = none := by
  rw [findSome_canopenCommands, findSome_digitalCommand, findSome_analogCommand,
    findSome_analogCommand]
  simp only [OutputCommand.relay?, ite_self, Option.or_none]

theorem findSome_analog_canopenCommands {i : ℕ} (hi : i < aoCount) :
    (canopenCommands mem mem').findSome? (OutputCommand.analog? i) =
      if imageAnalogOutput mem' i ≠ imageAnalogOutput mem i ∧ DacValue (imageAnalogOutput mem' i)
      then some (imageAnalogOutput mem' i) else none := by
  have hchannel (j : ℕ) : (analogCommand mem mem' j).findSome? (OutputCommand.analog? i) =
      if j = i ∧ imageAnalogOutput mem' j ≠ imageAnalogOutput mem j ∧
        DacValue (imageAnalogOutput mem' j) then some (imageAnalogOutput mem' j) else none := by
    rw [findSome_analogCommand, OutputCommand.analog?]
    by_cases hsame : imageAnalogOutput mem' j = imageAnalogOutput mem j
    · rw [if_pos hsame, if_neg fun h => h.2.1 hsame]
    · rw [if_neg hsame]
      simp only [hsame, ne_eq, not_false_eq_true, true_and]
  have hdigital : (digitalCommand mem mem').findSome? (OutputCommand.analog? i) = none := by
    rw [findSome_digitalCommand]
    exact ite_self none
  rw [findSome_canopenCommands, hdigital, hchannel, hchannel, Option.none_or]
  have hcount : i < 2 := hi
  match i with
  | 0 => simp
  | 1 => simp

end Canopen

/-! ## The path of the outputs -/

/-- Each output is what the last command says that says anything of it. A relay can be
commanded over Modbus only, and is what its coil says. -/
structure FollowsCommands (commands : List OutputCommand) (s : Store boardConfig) : Prop where
  outputs : ∀ i < doCount,
    s.io.output i = lastCommand (OutputCommand.output? i) false commands
  analogs : ∀ i < aoCount, s.io.analog i = lastCommand (OutputCommand.analog? i) 0 commands
  relays : ∀ i < relayCount, s.io.relay i = lastCommand (OutputCommand.relay? i) false commands
  coils : ∀ i < relayCount, s.io.relay i = bitAt s.coilBits (8 + i)

/-- The outputs follow the commands, and the node has none to give that is not yet
carried out. -/
structure OutputPath (commands : List OutputCommand) (b : Firmware χ) : Prop where
  follows : FollowsCommands commands b.store
  synced : Synced b.mem (b.io, b.drivers)
  hooks : b.slave.hooks = .none boardConfig
  node : b.node.Configured 1 canopenDefaultOdGet

namespace OutputPath

variable {commands : List OutputCommand} {b : Firmware χ}
  {canDriverTransmit : CanopenFrame → χ → ℤ × χ}

/-- A function of the node adds the commands that the image has changed by. -/
theorem withSystem (h : OutputPath commands b) {s : System (BoardIo × Drivers χ)}
    (hnode : s.node.config = b.node.config)
    (hcommanded : Commanded b.mem (b.io, b.drivers) s.dev.mem s.dev.world) :
    OutputPath (canopenCommands b.mem s.dev.mem ++ commands) (b.withSystem s) where
  follows := by
    have hrelays : (b.withSystem s).store.io.relayStates = b.store.io.relayStates :=
      hcommanded.driven.relays
    constructor
    case outputs =>
      intro i hi
      rw [lastCommand_append, findSome_output_canopenCommands, ← h.follows.outputs i hi]
      have houtputs : (b.withSystem s).store.io.digitalOutputStates = _ := hcommanded.driven.outputs
      rw [BoardIo.output, houtputs]
      split_ifs
      · rfl
      · rfl
    case analogs =>
      intro i hi
      rw [lastCommand_append, findSome_analog_canopenCommands _ _ hi, ← h.follows.analogs i hi]
      have hanalog : (b.withSystem s).store.io.analog i = _ := hcommanded.driven.analogs i hi
      rw [hanalog]
      split_ifs
      · rfl
      · rfl
    case relays =>
      intro i hi
      rw [lastCommand_append, findSome_relay_canopenCommands, Option.getD_none,
        ← h.follows.relays i hi, BoardIo.relay, hrelays]
      rfl
    case coils =>
      intro i hi
      rw [BoardIo.relay, hrelays]
      exact h.follows.coils i hi
  synced := ⟨hcommanded.synced.lastDo, hcommanded.synced.lastAo⟩
  hooks := h.hooks
  node := h.node.of_config_eq hnode

/-- If the outputs in the image are the same there are none. -/
theorem quiet (h : OutputPath commands b) {s : System (BoardIo × Drivers χ)}
    (hnode : s.node.config = b.node.config)
    (hcommanded : Commanded b.mem (b.io, b.drivers) s.dev.mem s.dev.world)
    (hmem : SameOutputs b.mem s.dev.mem) : OutputPath commands (b.withSystem s) := by
  have hnext := h.withSystem hnode hcommanded
  rwa [canopenCommands_of_sameOutputs hmem, List.nil_append] at hnext

theorem receive (h : OutputPath commands b) (frame : CanopenFrame) :
    OutputPath (canopenCommands b.mem (callNode (boardApplication canDriverTransmit)
        (.rxFrame frame.cobId (some frame.data)) b).mem ++ commands)
      (callNode (boardApplication canDriverTransmit) (.rxFrame frame.cobId (some frame.data)) b) :=
  h.withSystem (config_nodeStep _ _ b.system)
    (Commanded.worldStep (worldStep_rxFrame (s := b.system) _ h.node _ _) h.synced)

theorem process (h : OutputPath commands b) (deltaMs : Long) :
    OutputPath commands (callNode (boardApplication canDriverTransmit) (.process deltaMs) b) :=
  have hquiet := quietTo_canopenProcess (boardApplication canDriverTransmit) deltaMs
    b.system.unrecorded
  h.quiet (config_nodeStep _ _ b.system) (Commanded.quietTo hquiet (.refl h.synced))
    (sameOutputs_of_quietTo hquiet)

theorem syncOutputs (h : OutputPath commands b) :
    OutputPath commands (Board.syncOutputs (boardApplication canDriverTransmit) b) :=
  h.quiet (s := { b.system with dev := b.system.dev.syncOutputs _ }) rfl
    ⟨(h.synced.drives b.mem).1, (h.synced.drives b.mem).2⟩ ⟨rfl, fun _ _ => rfl⟩

/-- An accessor call for inputs. -/
theorem setInputs (h : OutputPath commands b) {input : NodeInput} {mem : Mem}
    (hcall : (nodeStep (boardApplication canDriverTransmit) input b.system).2.dev.view =
      (mem, (b.io, b.drivers)))
    (hmem : SameOutputs b.mem mem) :
    OutputPath commands (callNode (boardApplication canDriverTransmit) input b) := by
  obtain ⟨hmem', hworld⟩ := Prod.mk.inj hcall
  apply h.quiet (config_nodeStep _ _ b.system)
  · rw [hmem', hworld]
    exact (Commanded.refl h.synced).of_sameOutputs hmem
  · rw [hmem']
    exact hmem

theorem setDigitalInputs (h : OutputPath commands b) (inputs : Byte) :
    OutputPath commands
      (callNode (boardApplication canDriverTransmit) (.setDigitalInputs inputs) b) := by
  have hmem := (sameOutsideInputs_setDigitalInputs inputs b.mem).sameOutputs
  rw [← h.node.vars_eq] at hmem
  exact h.setInputs rfl hmem

theorem setAnalogInput (h : OutputPath commands b) (channel : Byte) (value : Word) :
    OutputPath commands
      (callNode (boardApplication canDriverTransmit) (.setAnalogInput channel value) b) := by
  have hmem := (sameOutsideInputs_setAnalogInput channel.toNat value b.mem).sameOutputs
  rw [← h.node.vars_eq] at hmem
  exact h.setInputs rfl hmem

/-- The slave with other tables, but for the coils. -/
theorem updateStore (h : OutputPath commands b) {f : Store boardConfig → Store boardConfig}
    (hcoils : (f b.store).coilBits = b.store.coilBits)
    (houtputs : (f b.store).io.digitalOutputStates = b.io.digitalOutputStates)
    (hrelays : (f b.store).io.relayStates = b.io.relayStates)
    (hanalogs : (f b.store).io.analogOutputs = b.io.analogOutputs) :
    OutputPath commands (b.updateStore f) where
  follows := by
    constructor
    case outputs =>
      exact fun i hi => (congrArg (·.getLsbD i) houtputs).trans (h.follows.outputs i hi)
    case analogs => exact fun i hi => (congrArg (regAt · i) hanalogs).trans (h.follows.analogs i hi)
    case relays => exact fun i hi => (congrArg (·.getLsbD i) hrelays).trans (h.follows.relays i hi)
    case coils =>
      intro i hi
      refine (congrArg (·.getLsbD i) hrelays).trans ((h.follows.coils i hi).trans ?_)
      exact congrArg (bitAt · (8 + i)) hcoils.symm
  synced := ⟨h.synced.lastDo, h.synced.lastAo⟩
  hooks := h.hooks
  node := h.node

/-- A scan commands nothing. -/
theorem scan (h : OutputPath commands b) (now port : Long) (scan : Scan) :
    Yields (scanInputs (boardApplication canDriverTransmit) now port scan) b fun _ b' =>
      OutputPath commands b' := by
  rw [scanInputs, yields_bind, yields_get]
  simp only
  by_cases hdue : 10 ≤ (now - b.lastScanTick).toNat
  · rw [if_pos hdue]
    simp only [yields_bind, yields_set, yields_modify, yields_get, yields_onPart]
    have hsampled : OutputPath commands (scanDigital port { b with lastScanTick := now }) := by
      have hticked : OutputPath commands { b with lastScanTick := now } := { h with }
      have hshadow := hticked.updateStore (f := fun store => { store with
        io := { store.io with digitalInputStates :=
          (digitalInputsScan port ⟨b.diDebounce, b.io.digitalInputStates⟩).digitalInputStates } })
        rfl rfl rfl rfl
      exact { hshadow with }
    have hset : OutputPath commands (callNode (boardApplication canDriverTransmit) _ _) :=
      hsampled.setDigitalInputs
        (scanDigital port { b with lastScanTick := now }).io.digitalInputStates
    revert hset
    generalize callNode _ _ _ = c
    intro hset
    have hconverted : OutputPath commands (scanAnalog scan c).2 :=
      ⟨hset.follows, ⟨hset.synced.lastDo, hset.synced.lastAo⟩, hset.hooks, hset.node⟩
    refine (Yields.forRange (fun _ t => OutputPath commands t) hconverted ?_).mono ?_
    · intro i _ t ht
      rw [yields_modify]
      have hwritten := ht.updateStore (f := fun store => modbusWriteHoldingRegister store
        (boardConfig.holdingRegOffset + 100 + i) ((scanAnalog scan c).1 i)) rfl rfl rfl rfl
      exact hwritten.setAnalogInput _ _
    · intro _ t ht
      have hsync := yields_modbusSyncInputs Config.boardConfig_flat.direct t.slave.env
      rw [← ht.hooks] at hsync
      apply hsync.mono
      rintro - env rfl
      have hmirrored := ht.updateStore (f := fun store =>
        analogInputsMirrored (mirrorDiscreteInputs boardConfig store)) rfl rfl rfl rfl
      exact hmirrored.process _
  · rw [if_neg hdue, yields_pure]
    exact h

/-- A request adds the command that it is. -/
theorem request (h : OutputPath commands b) {slave : Slave boardConfig}
    (hhooks : slave.hooks = b.slave.hooks) {pdu : Option (List Byte)}
    (henv : slave.env = b.slave.dispatched pdu) :
    OutputPath (modbusCommands b.store pdu ++ commands) { b with slave := slave } where
  follows := by
    have hstore : Firmware.store { b with slave := slave } = (b.slave.dispatched pdu).store :=
      congrArg PduEnv.store henv
    rw [hstore]
    cases hcommand : commandOf boardConfig pdu with
    | none =>
        obtain ⟨hcoils, -, hio⟩ := kept_dispatched h.hooks hcommand
        rw [modbusCommands, hcommand]
        exact ⟨hio ▸ h.follows.outputs, hio ▸ h.follows.analogs, hio ▸ h.follows.relays,
          hio ▸ hcoils ▸ h.follows.coils⟩
    | some r =>
        rw [modbusCommands, hcommand, store_dispatched h.hooks hcommand]
        obtain ⟨houtputs, hrelays, hanalogs⟩ := drives_appRegistersSynced (r.stored b.store)
        exact ⟨houtputs, hanalogs, hrelays, hrelays⟩
  synced := ⟨h.synced.lastDo, h.synced.lastAo⟩
  hooks := hhooks.trans h.hooks
  node := h.node

/-- Every event keeps the path, with the commands that it gives. -/
theorem step (h : OutputPath commands b) (event : FirmwareEvent) :
    Yields (firmwareStep (boardApplication canDriverTransmit) event) b fun out b' =>
      OutputPath (noteCommands commands b event out b') b' := by
  cases event with
  | scan now port scan => exact h.scan now port scan
  | receive frame => exact yields_modify.mpr (h.receive frame)
  | syncOutputs => exact yields_modify.mpr h.syncOutputs
  | yield now =>
      refine yields_modify.mpr ?_
      have hpumped : OutputPath commands { b with sLastYieldTick := now } := { h with }
      rw [noteCommands, yieldTimers]
      split_ifs
      · exact hpumped.process _
      · exact hpumped
  | rtu rx =>
      rw [firmwareStep, yields_onPart, yields_bind]
      apply (yields_modbusRtuProcess Config.boardConfig_flat b.slave rx).mono
      intro out slave hslave
      rw [yields_pure, (Prod.mk.inj hslave).2]
      exact h.request (hooks_slaveStep b.slave rx) (env_slaveStep b.slave rx)
  | tcp txPdu rx =>
      rw [firmwareStep, yields_onPart, yields_bind]
      apply (yields_modbusTcpBuildResponse_env Config.boardConfig_flat b.slave txPdu rx).mono
      rintro out _ rfl
      rw [yields_pure]
      refine h.request ?_ ?_
      · rfl
      · rfl

end OutputPath

/-! ## Runs -/

section Runs

variable (canDriverTransmit : CanopenFrame → χ → ℤ × χ) (conversions : ℕ → Scan) (can : χ)

/-- Nothing has been commanded when the main loop begins, and everything is off. -/
theorem outputPath_booted :
    OutputPath [] (bootedFirmware canDriverTransmit conversions can) where
  follows := by
    have hcoils := bitAt_replicate_zero boardConfig
    exact ⟨fun _ _ => BitVec.getLsbD_zero, fun i _ => regAt_replicate_zero aoCount i,
      fun _ _ => BitVec.getLsbD_zero, fun i _ => BitVec.getLsbD_zero.trans (hcoils (8 + i)).symm⟩
  synced := by
    have hcleared : imageOutputs (canopenDefaultOdUpdateNodeId 1 bootMem) = 0 ∧
        ∀ i < aoCount, imageAnalogOutput (canopenDefaultOdUpdateNodeId 1 bootMem) i = 0 := by
      decide
    exact ⟨hcleared.1.symm, fun i hi => (hcleared.2 i hi).symm⟩
  hooks := rfl
  node := ⟨config_initialised _ 1 none _, by decide, by decide⟩

/-- In every run of the board, whatever the order of scans, CAN frames, timers and
requests, each output is what the last command says, from whichever network, and the
relays are what their coils say. -/
theorem firmwareRun_followsCommands (events : List FirmwareEvent) :
    EveryStep (observed noteCommands (firmwareStep (boardApplication canDriverTransmit)))
      (fun _ _ _ s' => FollowsCommands s'.2 s'.1.store)
      (bootedFirmware canDriverTransmit conversions can, []) events := by
  refine everyStep_of_invariant (I := fun s => OutputPath s.2 s.1) ?_
    (outputPath_booted canDriverTransmit conversions can) events
  intro s event h
  rw [yields_observed]
  exact (OutputPath.step h event).mono fun out b' hb' => ⟨hb', hb'.follows⟩

end Runs

end AutomationBoard.Board
