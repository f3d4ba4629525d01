/-
# A CANopen node

`canopen.c`: the node context, its initialisation, and every entry point that
the application and the bus can call. A run of a node is a sequence of such
calls; the calls of the application that one of them makes are its output.
-/

import AutomationBoard.Canopen.Pdo
import AutomationBoard.Program.Runs

namespace AutomationBoard.Canopen

open AutomationBoard.Modbus (word)
open AutomationBoard.Program

/-- `canopen_node_t`. -/
structure CanopenNode where
  nodeId : Byte
  od : CanopenOd
  nmt : Nmt
  sdo : SdoServer
  pdo : Pdo
  vars : AutomationVars
  deriving DecidableEq

/-- A node with the variables and the application around it. -/
structure System (ω : Type) where
  node : CanopenNode
  dev : Device ω

/-! ## Initialisation -/

section Node

variable {ω : Type} (app : Application ω)

/-- The configured heartbeat period: `hb_ms` is 1000 before `canopen_od_read`
copies object 0x1017 over it. -/
def configuredHeartbeat (od : CanopenOd) (mem : Mem) : Word :=
  let hbMs := (canopenOdRead od mem 0x1017 0 (wordBytes 1000) 2).2.1
  word (dataAt hbMs 1) (dataAt hbMs 0)

/-- `canopen_init` once its arguments are accepted. The default dictionary, which
a null pointer stands for, takes the node id and cleared process variables. -/
def initialised (nodeId : Byte) (od : Option CanopenOd) (dev : Device ω) : System ω :=
  let mem := match od with
    | none => canopenDefaultOdUpdateNodeId nodeId dev.mem
    | some _ => dev.mem
  let od := od.getD canopenDefaultOdGet
  let r := canopenNmtInit app nodeId (configuredHeartbeat od mem) { dev with mem := mem }
  { node :=
      { nodeId := nodeId
        od := od
        nmt := r.1
        sdo := canopenSdoInit nodeId od
        pdo := canopenPdoInit nodeId od
        vars := canopenDefaultOdGetVars }
    dev := r.2 }

/-- `canopen_init`; `none` is a refusal, which leaves the node alone. -/
def canopenInit (nodeId : Byte) (od : Option CanopenOd) (dev : Device ω) : Option (System ω) :=
  if nodeId.toNat < 1 ∨ 127 < nodeId.toNat then none else some (initialised app nodeId od dev)

/-! ## Entry points -/

/-- `node->nmt.state == NMT_STATE_OPERATIONAL`. -/
def CanopenNode.isOperational (node : CanopenNode) : Bool := node.nmt.state == .operational

/-- `canopen_process`. -/
def canopenProcess (deltaMs : Long) (s : System ω) : System ω :=
  let r := canopenNmtProcess app s.node.nmt deltaMs s.dev
  let node := { s.node with nmt := r.1 }
  let p := canopenPdoProcess app node.pdo deltaMs node.isOperational r.2
  ⟨{ node with pdo := p.1 }, p.2⟩

/-- `CANOPEN_COB_RSDO_BASE + (uint32_t)node->node_id`. -/
def CanopenNode.rsdoCobId (node : CanopenNode) : ℕ := cobRsdoBase + node.nodeId.toNat

/-- `CANOPEN_COB_RPDO1_BASE + (uint32_t)node->node_id`. -/
def CanopenNode.rpdo1CobId (node : CanopenNode) : ℕ := cobRpdo1Base + node.nodeId.toNat

/-- `CANOPEN_COB_RPDO2_BASE + (uint32_t)node->node_id`. -/
def CanopenNode.rpdo2CobId (node : CanopenNode) : ℕ := cobRpdo2Base + node.nodeId.toNat

/-- `canopen_rx_frame` with a payload. -/
def rxPayload (cobId : ℕ) (data : List Byte) (s : System ω) : Bool × System ω :=
  if cobId = cobNmt then
    let r := canopenNmtRxCommand app s.node.nmt data s.dev
    (r.1, ⟨{ s.node with nmt := r.2.1 }, r.2.2⟩)
  else if cobId = cobSync then
    let r := canopenPdoRxSync app s.node.pdo s.node.isOperational s.dev
    (true, ⟨{ s.node with pdo := r.1 }, r.2⟩)
  else if cobId = s.node.rsdoCobId then
    if s.node.nmt.state = .stopped then (false, s)
    else
      let r := canopenSdoRxFrame app s.node.sdo data s.dev
      (r.1, ⟨{ s.node with sdo := r.2.1 }, r.2.2⟩)
  else if cobId = s.node.rpdo1CobId ∨ cobId = s.node.rpdo2CobId then
    let r := canopenPdoRxRpdo app s.node.pdo cobId data s.node.isOperational s.dev
    (r.1, { s with dev := r.2 })
  else (false, s)

/-- `canopen_rx_frame`. A null pointer with a positive length is `none`; with the
length zero it is the empty payload. -/
def canopenRxFrame (cobId : ℕ) (data : Option (List Byte)) (s : System ω) : Bool × System ω :=
  match data with
  | none => (false, s)
  | some data => rxPayload app cobId data s

/-- `canopen_set_digital_inputs`. -/
def canopenSetDigitalInputs (inputs : Byte) (s : System ω) : System ω :=
  { s with dev := { s.dev with mem := setDigitalInputs s.node.vars inputs s.dev.mem } }

/-- `canopen_get_digital_outputs`. -/
def canopenGetDigitalOutputs (s : System ω) : Byte := s.dev.mem.cell s.node.vars.pDigitalOutputs

/-- `canopen_set_analog_input`. -/
def canopenSetAnalogInput (channel : Byte) (value : Word) (s : System ω) : System ω :=
  { s with dev := { s.dev with mem := setAnalogInput s.node.vars channel.toNat value s.dev.mem } }

/-- `canopen_get_analog_output`. -/
def canopenGetAnalogOutput (channel : Byte) (s : System ω) : Word :=
  if channel.toNat < 2 then
    loadWord s.dev.mem (elementAt s.node.vars.pAnalogOutputs channel.toNat)
  else 0

/-- `canopen_trigger_tpdo1`. -/
def canopenTriggerTpdo1 (s : System ω) : System ω :=
  if s.node.isOperational then
    let r := canopenPdoSendTpdo1 app s.node.pdo s.dev
    ⟨{ s.node with pdo := r.2.1 }, r.2.2⟩
  else s

/-- `canopen_trigger_tpdo2`. -/
def canopenTriggerTpdo2 (s : System ω) : System ω :=
  if s.node.isOperational then
    let r := canopenPdoSendTpdo2 app s.node.pdo s.dev
    ⟨{ s.node with pdo := r.2.1 }, r.2.2⟩
  else s

/-- `canopen_set_nmt_state`. -/
def canopenSetNmtState (state : NmtState) (s : System ω) : System ω :=
  { s with node := { s.node with nmt := canopenNmtSetState s.node.nmt state } }

/-! ## Runs -/

/-- A call of an entry point. -/
inductive NodeInput
  | rxFrame (cobId : ℕ) (data : Option (List Byte))
  | process (deltaMs : Long)
  | triggerTpdo1
  | triggerTpdo2
  | setNmtState (state : NmtState)
  | setDigitalInputs (inputs : Byte)
  | setAnalogInput (channel : Byte) (value : Word)

/-- The system before any call is recorded. -/
def System.unrecorded (s : System ω) : System ω := { s with dev := { s.dev with calls := [] } }

/-- The system after a call of an entry point. -/
def enter (input : NodeInput) (s : System ω) : System ω :=
  match input with
  | .rxFrame cobId data => (canopenRxFrame app cobId data s).2
  | .process deltaMs => canopenProcess app deltaMs s
  | .triggerTpdo1 => canopenTriggerTpdo1 app s
  | .triggerTpdo2 => canopenTriggerTpdo2 app s
  | .setNmtState state => canopenSetNmtState state s
  | .setDigitalInputs inputs => canopenSetDigitalInputs inputs s
  | .setAnalogInput channel value => canopenSetAnalogInput channel value s

/-- One call of an entry point: the calls of the application that it makes, and
the system after it. -/
def nodeStep (input : NodeInput) (s : System ω) : List AppCall × System ω :=
  let s' := enter app input s.unrecorded
  (s'.dev.calls, s')

end Node

end AutomationBoard.Canopen
