/-
# The PDO engine

`canopen_pdo.c`. The two TPDOs go through the same code with their own state and
payload, so sending, cooling down and the event timer are one definition each,
and each function of the source applies it to its TPDO.
-/

import AutomationBoard.Canopen.Nmt

namespace AutomationBoard.Canopen

open AutomationBoard.Modbus (word loByte hiByte)
open AutomationBoard.Program

/-- `canopen_tpdo_state_t`. -/
structure TpdoState where
  cobId : ℕ
  eventTimerMs : Word
  eventCounterMs : Word
  inhibitTimerMs : Word
  inhibitCounterMs : Word
  deriving DecidableEq

/-- `canopen_pdo_t`. -/
structure Pdo where
  nodeId : Byte
  od : CanopenOd
  tpdo1 : TpdoState
  tpdo2 : TpdoState
  vars : AutomationVars
  deriving DecidableEq

/-- A TPDO as `canopen_pdo_init` sets it up. -/
def tpdoInit (base : ℕ) (nodeId : Byte) : TpdoState where
  cobId := base + nodeId.toNat
  eventTimerMs := 1000
  eventCounterMs := 1000
  inhibitTimerMs := 100
  inhibitCounterMs := 0

/-- `canopen_pdo_init`. -/
def canopenPdoInit (nodeId : Byte) (od : CanopenOd) : Pdo where
  nodeId := nodeId
  od := od
  tpdo1 := tpdoInit cobTpdo1Base nodeId
  tpdo2 := tpdoInit cobTpdo2Base nodeId
  vars := canopenDefaultOdGetVars

/-! ## Inputs and outputs -/

/-- `*vars.p_digital_inputs = inputs`. -/
def setDigitalInputs (vars : AutomationVars) (inputs : Byte) (mem : Mem) : Mem :=
  mem.write vars.pDigitalInputs [inputs]

/-- `vars.p_analog_inputs[channel] = value` for a channel below 4. -/
def setAnalogInput (vars : AutomationVars) (channel : ℕ) (value : Word) (mem : Mem) : Mem :=
  if channel < 4 then mem.write (elementAt vars.pAnalogInputs channel) (wordBytes value) else mem

/-- One accessor call of a refresh, if it makes it. -/
def setIfSome {α : Type} (set : α → Mem → Mem) (value : Option α) (mem : Mem) : Mem :=
  match value with
  | none => mem
  | some a => set a mem

/-- The accessor calls that a refresh makes. -/
def InputRefresh.apply (refresh : InputRefresh) (vars : AutomationVars) (mem : Mem) : Mem :=
  (List.range 4).foldl (fun mem i => setIfSome (setAnalogInput vars i) (refresh.analog i) mem)
    (setIfSome (setDigitalInputs vars) refresh.digital mem)

/-- The payload of TPDO1. -/
def tpdo1Data (vars : AutomationVars) (mem : Mem) : List Byte := [mem.cell vars.pDigitalInputs]

/-- `(uint8_t)(val & 0xFF)` and `(uint8_t)((val >> 8) & 0xFF)` of a signed value. -/
def inputBytes (val : Word) : List Byte :=
  [(val &&& 0xFF).setWidth 8, (val.sshiftRight 8 &&& 0xFF).setWidth 8]

/-- The payload of TPDO2. -/
def tpdo2Data (vars : AutomationVars) (mem : Mem) : List Byte :=
  (List.range 4).flatMap fun i => inputBytes (loadWord mem (elementAt vars.pAnalogInputs i))

/-! ## Transmission -/

section Engine

variable {ω : Type} (app : Application ω)

/-- `canopen_app_sync_inputs()`: the accessors reach the variables of the default
dictionary. -/
def Device.syncInputs (dev : Device ω) : Device ω :=
  let r := app.appSyncInputs dev.world
  { mem := r.1.apply canopenDefaultOdGetVars dev.mem
    world := r.2
    calls := dev.calls ++ [.syncInputs] }

/-- Sending a TPDO: refused while it is inhibited, and inhibited once it is sent. -/
def sendTpdo (tpdo : TpdoState) (payload : Mem → List Byte) (dev : Device ω) :
    Bool × TpdoState × Device ω :=
  if 0 < tpdo.inhibitCounterMs.toNat then (false, tpdo, dev)
  else
    let dev := dev.syncInputs app
    let r := dev.transmit app (dataFrame tpdo.cobId (payload dev.mem))
    if r.1 = 0 then (true, { tpdo with inhibitCounterMs := tpdo.inhibitTimerMs }, r.2)
    else (false, tpdo, r.2)

/-- `canopen_pdo_send_tpdo1`. -/
def canopenPdoSendTpdo1 (pdo : Pdo) (dev : Device ω) : Bool × Pdo × Device ω :=
  let r := sendTpdo app pdo.tpdo1 (tpdo1Data pdo.vars) dev
  (r.1, { pdo with tpdo1 := r.2.1 }, r.2.2)

/-- `canopen_pdo_send_tpdo2`. -/
def canopenPdoSendTpdo2 (pdo : Pdo) (dev : Device ω) : Bool × Pdo × Device ω :=
  let r := sendTpdo app pdo.tpdo2 (tpdo2Data pdo.vars) dev
  (r.1, { pdo with tpdo2 := r.2.1 }, r.2.2)

/-- The inhibit counter of a TPDO after some time. -/
def TpdoState.cooledDown (tpdo : TpdoState) (deltaMs : Long) : TpdoState :=
  if 0 < tpdo.inhibitCounterMs.toNat then
    if tpdo.inhibitCounterMs.toNat ≤ deltaMs.toNat then { tpdo with inhibitCounterMs := 0 }
    else { tpdo with inhibitCounterMs := tpdo.inhibitCounterMs - deltaMs.setWidth 16 }
  else tpdo

/-- The event timer of a TPDO, which sends it when it has run out. -/
def runEventTimer (tpdo : TpdoState) (payload : Mem → List Byte) (deltaMs : Long)
    (dev : Device ω) : TpdoState × Device ω :=
  if 0 < tpdo.eventTimerMs.toNat then
    if tpdo.eventCounterMs.toNat ≤ deltaMs.toNat then
      let r := sendTpdo app tpdo payload dev
      ({ r.2.1 with eventCounterMs := r.2.1.eventTimerMs }, r.2.2)
    else ({ tpdo with eventCounterMs := tpdo.eventCounterMs - deltaMs.setWidth 16 }, dev)
  else (tpdo, dev)

/-- `canopen_pdo_process`. -/
def canopenPdoProcess (pdo : Pdo) (deltaMs : Long) (isOperational : Bool) (dev : Device ω) :
    Pdo × Device ω :=
  let pdo :=
    { pdo with tpdo1 := pdo.tpdo1.cooledDown deltaMs, tpdo2 := pdo.tpdo2.cooledDown deltaMs }
  if ¬ isOperational then (pdo, dev)
  else
    let r1 := runEventTimer app pdo.tpdo1 (tpdo1Data pdo.vars) deltaMs dev
    let r2 := runEventTimer app pdo.tpdo2 (tpdo2Data pdo.vars) deltaMs r1.2
    ({ pdo with tpdo1 := r1.1, tpdo2 := r2.1 }, r2.2)

/-! ## Reception -/

/-- `canopen_pdo_rx_rpdo`. -/
def canopenPdoRxRpdo (pdo : Pdo) (cobId : ℕ) (data : List Byte) (isOperational : Bool)
    (dev : Device ω) : Bool × Device ω :=
  if ¬ isOperational then (false, dev)
  else if cobId = cobRpdo1Base + pdo.nodeId.toNat ∧ 1 ≤ data.length then
    (true, (dev.store pdo.vars.pDigitalOutputs [dataAt data 0]).syncOutputs app)
  else if cobId = cobRpdo2Base + pdo.nodeId.toNat ∧ 4 ≤ data.length then
    let ao0 := word (dataAt data 1) (dataAt data 0)
    let ao1 := word (dataAt data 3) (dataAt data 2)
    let dev := dev.store (elementAt pdo.vars.pAnalogOutputs 0) (wordBytes ao0)
    let dev := dev.store (elementAt pdo.vars.pAnalogOutputs 1) (wordBytes ao1)
    (true, dev.syncOutputs app)
  else (false, dev)

/-- A TPDO that may be sent at once. -/
def TpdoState.released (tpdo : TpdoState) : TpdoState := { tpdo with inhibitCounterMs := 0 }

/-- `canopen_pdo_rx_sync`. -/
def canopenPdoRxSync (pdo : Pdo) (isOperational : Bool) (dev : Device ω) : Pdo × Device ω :=
  if ¬ isOperational then (pdo, dev)
  else
    let pdo := { pdo with tpdo1 := pdo.tpdo1.released, tpdo2 := pdo.tpdo2.released }
    let r1 := canopenPdoSendTpdo1 app pdo dev
    let r2 := canopenPdoSendTpdo2 app r1.2.1 r1.2.2
    (r2.2.1, r2.2.2)

end Engine

end AutomationBoard.Canopen
