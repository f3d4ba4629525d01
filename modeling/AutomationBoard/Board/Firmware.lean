/-
# The firmware as one system

`main.c`: the slave, the CANopen node and the drivers around them, with everything
that the main loop, the pump and the callbacks do to them. The two stacks share the
driver variables: a scan publishes the inputs to both, and both drive the outputs.
The main loop and the pump are orders of the events below, and any order is allowed.
-/

import AutomationBoard.Board.AnalogInputs
import AutomationBoard.Board.DigitalInputs
import AutomationBoard.Canopen.ApplicationWorld
import AutomationBoard.Modbus.Tcp

namespace AutomationBoard.Board

open AutomationBoard.Canopen hiding Byte Word
open AutomationBoard.Modbus
open AutomationBoard.Program

/-! ## The drivers -/

/-- What the two synchronisation functions of `main.c` keep and use besides the
driver shadows: `ai_raw_values`, `s_last_do` and `s_last_ao`, the conversions that the
coming scans of the analog inputs meet, and the CAN controller. -/
structure Drivers (χ : Type) where
  ai : AnalogInputs
  sLastDo : Byte
  sLastAo : ℕ → Word
  conversions : ℕ → Scan
  can : χ

/-- `digital_outputs_write_all`, on the shadow. -/
def digitalOutputsWriteAll (value : Byte) (io : BoardIo) : BoardIo :=
  { io with digitalOutputStates := value }

section Application

variable {χ : Type}

/-- `canopen_app_sync_inputs`. -/
def canopenAppSyncInputs (world : BoardIo × Drivers χ) :
    InputRefresh × BoardIo × Drivers χ :=
  let scan := world.2.conversions 0
  let r := analogInputsScanAll scan.adc scan.buffer world.2.ai
  (⟨some world.1.digitalInputStates, fun i => some (r.1 i)⟩, world.1,
    { world.2 with ai := r.2, conversions := fun n => world.2.conversions (n + 1) })

/-- `DAC_RESOLUTION`. -/
def dacResolution : ℕ := 4095

/-- The part of `canopen_app_sync_outputs` for an analog output. -/
def syncAnalogOutput (mem : Mem) (world : BoardIo × Drivers χ) (i : ℕ) : BoardIo × Drivers χ :=
  let aoVal := loadWord mem (elementAt canopenDefaultOdGetVars.pAnalogOutputs i)
  if aoVal ≠ world.2.sLastAo i then
    let drivers := { world.2 with sLastAo := Function.update world.2.sLastAo i aoVal }
    if 0 ≤ aoVal.toInt ∧ aoVal.toInt ≤ dacResolution then (world.1.analogOutputWriteRaw i aoVal, drivers)
    else (world.1, drivers)
  else world

/-- The part of `canopen_app_sync_outputs` for the digital outputs. -/
def syncDigitalOutputs (mem : Mem) (world : BoardIo × Drivers χ) : BoardIo × Drivers χ :=
  let doVal := mem.cell canopenDefaultOdGetVars.pDigitalOutputs
  if doVal ≠ world.2.sLastDo then
    (digitalOutputsWriteAll doVal world.1, { world.2 with sLastDo := doVal })
  else world

/-- `canopen_app_sync_outputs`, on a node with the default dictionary. -/
def canopenAppSyncOutputs (mem : Mem) (world : BoardIo × Drivers χ) : BoardIo × Drivers χ :=
  (List.range aoCount).foldl (syncAnalogOutput mem) (syncDigitalOutputs mem world)

/-- What the node calls: `can_driver_transmit`, the two functions above in place of the
weak ones, and no post-write callback. -/
def boardApplication (canDriverTransmit : CanopenFrame → χ → ℤ × χ) :
    Application (BoardIo × Drivers χ) where
  txFunc frame world :=
    let r := canDriverTransmit frame world.2.can
    (r.1, world.1, { world.2 with can := r.2 })
  appSyncInputs := canopenAppSyncInputs
  appSyncOutputs := canopenAppSyncOutputs
  postWriteCb := none

end Application

/-! ## The board -/

/-- The state of the firmware. The driver shadows are the `io` of the slave's store. -/
structure Firmware (χ : Type) where
  slave : Slave boardConfig
  diDebounce : ℕ → Byte
  node : CanopenNode
  mem : Mem
  drivers : Drivers χ
  lastScanTick : Long
  sLastYieldTick : Long

namespace Firmware

variable {χ : Type} (b : Firmware χ)

/-- The tables of the slave. -/
def store : Store boardConfig := b.slave.env.store

/-- The driver shadows. -/
def io : BoardIo := b.store.io

/-- Change the store of the slave. -/
def updateStore (f : Store boardConfig → Store boardConfig) : Firmware χ :=
  { b with slave := { b.slave with env := b.slave.env.updateStore f } }

/-- The node and its device, when one of its functions is called. -/
def system : System (BoardIo × Drivers χ) := ⟨b.node, ⟨b.mem, (b.io, b.drivers), []⟩⟩

/-- The board with what a function of the node has left. -/
def withSystem (s : System (BoardIo × Drivers χ)) : Firmware χ :=
  { b.updateStore fun store => { store with io := s.dev.world.1 } with
    node := s.node
    mem := s.dev.mem
    drivers := s.dev.world.2 }

end Firmware

/-! ## The events -/

/-- What happens in the main loop, in `master_yield_pump` and in the callbacks: the
input block of an iteration, with what the port and the converters read; a frame that
`can_driver_receive` returns; `canopen_app_sync_outputs`; the timers that the pump
serves; and a request that a serial port or the Ethernet port hands over. -/
inductive FirmwareEvent
  | scan (now port : Long) (scan : Scan)
  | receive (frame : CanopenFrame)
  | syncOutputs
  | yield (now : Long)
  | rtu (rx : List Byte)
  | tcp (txPdu : Vector Byte tcpMaxPdu) (rx : List Byte)

section Events

variable {χ : Type} (app : Application (BoardIo × Drivers χ))

/-- A call of a function of the node. -/
def callNode (input : NodeInput) (b : Firmware χ) : Firmware χ :=
  b.withSystem (nodeStep app input b.system).2

/-- `digital_inputs_scan`. -/
def scanDigital (port : Long) (b : Firmware χ) : Firmware χ :=
  let di := digitalInputsScan port ⟨b.diDebounce, b.io.digitalInputStates⟩
  { b.updateStore fun store =>
      { store with io := { store.io with digitalInputStates := di.digitalInputStates } } with
    diDebounce := di.diDebounce }

/-- `analog_inputs_scan_all` in the main loop, with the buffer that it fills. -/
def scanAnalog (scan : Scan) (b : Firmware χ) : (ℕ → Word) × Firmware χ :=
  let r := analogInputsScanAll scan.adc scan.buffer b.drivers.ai
  (r.1, { b with drivers := { b.drivers with ai := r.2 } })

/-- The body of the loop that publishes an analog input. -/
def publishAnalog (aiBuf : ℕ → Word) (i : ℕ) (b : Firmware χ) : Firmware χ :=
  callNode app (.setAnalogInput (BitVec.ofNat 8 i) (aiBuf i))
    (b.updateStore fun store =>
      modbusWriteHoldingRegister store (boardConfig.holdingRegOffset + 100 + i) (aiBuf i))

/-- The input block of the main loop, `if ((now - last_scan_tick) >= 10)`. -/
def scanInputs (now port : Long) (scan : Scan) : Checked Fault (Firmware χ) PUnit := do
  let b ← get
  let deltaMs := now - b.lastScanTick
  if 10 ≤ deltaMs.toNat then do
    set { b with lastScanTick := now }
    modify (scanDigital port)
    modify fun b => callNode app (.setDigitalInputs b.io.digitalInputStates) b
    let (aiBuf, b) := scanAnalog scan (← get)
    set b
    forRange aiCount fun i => modify (publishAnalog app aiBuf i)
    let hooks := (← get).slave.hooks
    onPart (fun b : Firmware χ => b.slave.env)
      (fun env b => { b with slave := { b.slave with env := env } }) (modbusSyncInputs hooks)
    modify (callNode app (.process deltaMs))
  else pure ⟨⟩

/-- The timers in `master_yield_pump`. -/
def yieldTimers (now : Long) (b : Firmware χ) : Firmware χ :=
  let delta := now - b.sLastYieldTick
  let b := { b with sLastYieldTick := now }
  if 0 < delta.toNat then callNode app (.process delta) b else b

/-- `canopen_app_sync_outputs`, called from `main.c`. -/
def syncOutputs (b : Firmware χ) : Firmware χ :=
  b.withSystem { b.system with dev := b.system.dev.syncOutputs app }

/-- One event. -/
def firmwareStep : FirmwareEvent → Checked Fault (Firmware χ) PUnit
  | .scan now port scan => scanInputs app now port scan
  | .receive frame => modify (callNode app (.rxFrame frame.cobId (some frame.data)))
  | .syncOutputs => modify (syncOutputs app)
  | .yield now => modify (yieldTimers app now)
  | .rtu rx => onPart Firmware.slave (fun slave b => { b with slave := slave }) do
      let _ ← modbusRtuProcess rx
  | .tcp txPdu rx => onPart Firmware.slave (fun slave b => { b with slave := slave }) do
      let _ ← modbusTcpBuildResponse txPdu rx

end Events

/-- `modbus_tcp_init`. -/
def modbusTcpInit (unitId : Byte) (s : Slave boardConfig) : Slave boardConfig :=
  { s with tcpUnitId := unitId }

/-- The board when `main` enters its loop: `MODBUS_RTU_ADDRESS`, `MODBUS_SLAVE_ID` and
`CANOPEN_NODE_ID` are 1. -/
def bootedFirmware {χ : Type} (canDriverTransmit : CanopenFrame → χ → ℤ × χ)
    (conversions : ℕ → Scan) (can : χ) : Firmware χ :=
  let slave := modbusTcpInit 1 (modbusRtuInit 1 (Slave.powerOn (.none boardConfig)))
  let drivers : Drivers χ := ⟨.boot, 0, fun _ => 0, conversions, can⟩
  let s := initialised (boardApplication canDriverTransmit) 1 none
    ⟨bootMem, (slave.env.store.io, drivers), []⟩
  Firmware.withSystem ⟨slave, fun _ => 0, s.node, s.dev.mem, drivers, 0, 0⟩ s

end AutomationBoard.Board
