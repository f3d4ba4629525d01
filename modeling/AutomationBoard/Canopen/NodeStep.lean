/-
# What a call of an entry point does to a node

`NodeStep` lists the ways a call can take: it is ignored, it replaces or restarts
the NMT context, it lets the engines transmit, it reaches the SDO server, it
writes the outputs or the inputs. Every property of runs of a node is proved by
these cases.
-/

import AutomationBoard.Canopen.PdoStep
import AutomationBoard.Canopen.Node

namespace AutomationBoard.Canopen

open AutomationBoard.Modbus (word)
open AutomationBoard.Program

variable {ω : Type} {app : Application ω}

/-! ## Heartbeats -/

/-- The heartbeat producer keeps all but its timer, and transmits nothing or the
state. -/
structure HeartbeatKept (app : Application ω) (nmt nmt' : Nmt) (dev dev' : Device ω) : Prop where
  state : nmt'.state = nmt.state
  nodeId : nmt'.nodeId = nmt.nodeId
  period : nmt'.heartbeatPeriodMs = nmt.heartbeatPeriodMs
  device : dev' = dev ∨ dev' = dev.send app (heartbeatFrame nmt nmt.state.code)

theorem canopenNmtProcess_kept (app : Application ω) (nmt : Nmt) (deltaMs : Long)
    (dev : Device ω) :
    HeartbeatKept app nmt (canopenNmtProcess app nmt deltaMs dev).1 dev
      (canopenNmtProcess app nmt deltaMs dev).2 := by
  unfold canopenNmtProcess
  split_ifs
  · exact ⟨rfl, rfl, rfl, .inl rfl⟩
  · exact ⟨rfl, rfl, rfl, .inr rfl⟩
  · exact ⟨rfl, rfl, rfl, .inl rfl⟩

/-! ## Outputs -/

/-- RPDO1 as it is stored. -/
def storeRpdo1 (pdo : Pdo) (data : List Byte) (dev : Device ω) : Device ω :=
  dev.store pdo.vars.pDigitalOutputs [dataAt data 0]

/-- RPDO2 as it is stored. -/
def storeRpdo2 (pdo : Pdo) (data : List Byte) (dev : Device ω) : Device ω :=
  (dev.store (elementAt pdo.vars.pAnalogOutputs 0)
    (wordBytes (word (dataAt data 1) (dataAt data 0)))).store
    (elementAt pdo.vars.pAnalogOutputs 1) (wordBytes (word (dataAt data 3) (dataAt data 2)))

/-! ## Steps -/

variable (app) in
/-- What a call of an entry point leaves of a system. -/
inductive NodeStep (s : System ω) : NodeInput → System ω → Prop
  | ignored (input : NodeInput) : NodeStep s input s
  | command (data : List Byte) (state : NmtState) :
      NodeStep s (.rxFrame cobNmt (some data))
        { s with node := { s.node with nmt := { s.node.nmt with state := state } } }
  | reset (data : List Byte) :
      NodeStep s (.rxFrame cobNmt (some data))
        ⟨{ s.node with nmt := { s.node.nmt with state := .preOperational }.timerFull },
          s.dev.send app (heartbeatFrame s.node.nmt 0x00)⟩
  | setState (state : NmtState) :
      NodeStep s (.setNmtState state)
        { s with node := { s.node with nmt := { s.node.nmt with state := state } } }
  | engines (input : NodeInput) (nmt : Nmt) (pdo : Pdo) (dev dev' : Device ω)
      (inner : ∀ cobId data, input = .rxFrame cobId data → cobId = cobSync)
      (beat : HeartbeatKept app s.node.nmt nmt s.dev dev)
      (config : pdo.config = s.node.pdo.config)
      (activity : PdoActivity s.node.pdo.config dev dev')
      (operational : s.node.nmt.state = .operational ∨ dev' = dev) :
      NodeStep s input ⟨{ s.node with nmt := nmt, pdo := pdo }, dev'⟩
  | sdo (data : List Byte) (server : SdoServer) (dev : Device ω)
      (running : s.node.nmt.state ≠ .stopped) (length : data.length = 8)
      (step : SdoStep app s.node.sdo data s.dev server dev) :
      NodeStep s (.rxFrame s.node.rsdoCobId (some data)) ⟨{ s.node with sdo := server }, dev⟩
  | rpdo1 (cobId : ℕ) (data : List Byte)
      (operational : s.node.nmt.state = .operational)
      (accepted : cobId = s.node.rpdo1CobId ∨ cobId = s.node.rpdo2CobId)
      (cob : cobId = cobRpdo1Base + s.node.pdo.nodeId.toNat) (length : 1 ≤ data.length) :
      NodeStep s (.rxFrame cobId (some data))
        { s with dev := (storeRpdo1 s.node.pdo data s.dev).syncOutputs app }
  | rpdo2 (cobId : ℕ) (data : List Byte)
      (operational : s.node.nmt.state = .operational)
      (accepted : cobId = s.node.rpdo1CobId ∨ cobId = s.node.rpdo2CobId)
      (cob : cobId = cobRpdo2Base + s.node.pdo.nodeId.toNat) (length : 4 ≤ data.length) :
      NodeStep s (.rxFrame cobId (some data))
        { s with dev := (storeRpdo2 s.node.pdo data s.dev).syncOutputs app }
  | digitalInputs (inputs : Byte) :
      NodeStep s (.setDigitalInputs inputs)
        { s with dev := { s.dev with mem := setDigitalInputs s.node.vars inputs s.dev.mem } }
  | analogInput (channel : Byte) (value : Word) :
      NodeStep s (.setAnalogInput channel value)
        { s with dev :=
          { s.dev with mem := setAnalogInput s.node.vars channel.toNat value s.dev.mem } }

section Cases

variable (app : Application ω) (s : System ω)

theorem CanopenNode.isOperational_eq_true {node : CanopenNode} :
    node.isOperational = true ↔ node.nmt.state = .operational := beq_iff_eq

/-- The engine may have done something only in the operational state. -/
theorem nodeStep_pdo {input : NodeInput} {pdo : Pdo} {dev : Device ω}
    (inner : ∀ cobId data, input = .rxFrame cobId data → cobId = cobSync)
    (kept : PdoKept s.node.pdo pdo s.dev dev)
    (operational : s.node.nmt.state = .operational ∨ dev = s.dev) :
    NodeStep app s input ⟨{ s.node with pdo := pdo }, dev⟩ :=
  .engines input s.node.nmt pdo s.dev dev inner ⟨rfl, rfl, rfl, .inl rfl⟩ kept.1 kept.2 operational

theorem nodeStep_nmt (data : List Byte) :
    NodeStep app s (.rxFrame cobNmt (some data)) (rxPayload app cobNmt data s).2 := by
  rw [rxPayload, if_pos rfl]
  simp only [canopenNmtRxCommand]
  by_cases hlen : data.length < 2
  · rw [if_pos hlen]
    exact .ignored _
  rw [if_neg hlen]
  by_cases htarget : dataAt data 1 ≠ 0 ∧ dataAt data 1 ≠ s.node.nmt.nodeId
  · rw [if_pos htarget]
    exact .ignored _
  rw [if_neg htarget]
  cases NmtCommand.ofByte (dataAt data 0) with
  | none => exact .ignored _
  | some command =>
      cases command with
      | startNode => exact .command data .operational
      | stopNode => exact .command data .stopped
      | enterPreOperational => exact .command data .preOperational
      | resetNode | resetCommunication => exact .reset data

theorem nodeStep_sync (data : List Byte) :
    NodeStep app s (.rxFrame cobSync (some data)) (rxPayload app cobSync data s).2 := by
  rw [rxPayload, if_neg (by decide), if_pos rfl]
  apply nodeStep_pdo
  · intro cobId data' h
    cases h
    rfl
  · exact canopenPdoRxSync_kept app s.node.pdo s.dev s.node.isOperational
  · by_cases hop : s.node.isOperational = true
    · exact .inl (CanopenNode.isOperational_eq_true.mp hop)
    · exact .inr (canopenPdoRxSync_device app s.node.pdo s.dev (Bool.eq_false_iff.mpr hop))

theorem nodeStep_rpdo {cobId : ℕ} (data : List Byte)
    (accepted : cobId = s.node.rpdo1CobId ∨ cobId = s.node.rpdo2CobId) :
    NodeStep app s (.rxFrame cobId (some data)) { s with
      dev := (canopenPdoRxRpdo app s.node.pdo cobId data s.node.isOperational s.dev).2 } := by
  cases hop : s.node.isOperational with
  | false => exact .ignored _
  | true =>
      have hstate := CanopenNode.isOperational_eq_true.mp hop
      rw [canopenPdoRxRpdo, if_neg (by simp)]
      split_ifs with h1 h2
      · exact .rpdo1 cobId data hstate accepted h1.1 h1.2
      · exact .rpdo2 cobId data hstate accepted h2.1 h2.2
      · exact .ignored _

/-- A frame with a payload takes one of the ways. -/
theorem nodeStep_rxPayload (cobId : ℕ) (data : List Byte) :
    NodeStep app s (.rxFrame cobId (some data)) (rxPayload app cobId data s).2 := by
  by_cases hnmt : cobId = cobNmt
  · rw [hnmt]
    exact nodeStep_nmt app s data
  by_cases hsync : cobId = cobSync
  · rw [hsync]
    exact nodeStep_sync app s data
  rw [rxPayload, if_neg hnmt, if_neg hsync]
  by_cases hsdo : cobId = s.node.rsdoCobId
  · rw [if_pos hsdo, hsdo]
    by_cases hstopped : s.node.nmt.state = .stopped
    · rw [if_pos hstopped]
      exact .ignored _
    rw [if_neg hstopped]
    by_cases hlen : data.length = 8
    · exact .sdo data _ _ hstopped hlen (sdoStep_of_length app s.node.sdo s.dev hlen).2
    · rw [canopenSdoRxFrame_of_length_ne hlen]
      exact .ignored _
  rw [if_neg hsdo]
  by_cases hrpdo : cobId = s.node.rpdo1CobId ∨ cobId = s.node.rpdo2CobId
  · rw [if_pos hrpdo]
    exact nodeStep_rpdo app s data hrpdo
  · rw [if_neg hrpdo]
    exact .ignored _

theorem nodeStep_process (deltaMs : Long) :
    NodeStep app s (.process deltaMs) (canopenProcess app deltaMs s) := by
  have hbeat := canopenNmtProcess_kept app s.node.nmt deltaMs s.dev
  have hpdo := canopenPdoProcess_kept app s.node.pdo (canopenNmtProcess app s.node.nmt deltaMs
    s.dev).2 deltaMs (s.node.nmt.state == .operational)
  rw [← hbeat.state] at hpdo
  refine .engines _ _ _ _ _ ?_ hbeat hpdo.1 hpdo.2 ?_
  · intro cobId data h
    cases h
  · cases hop : (canopenNmtProcess app s.node.nmt deltaMs s.dev).1.state == .operational with
    | true => exact .inl (hbeat.state ▸ beq_iff_eq.mp hop)
    | false => exact .inr (canopenPdoProcess_device app s.node.pdo _ deltaMs hop)

theorem nodeStep_trigger1 : NodeStep app s .triggerTpdo1 (canopenTriggerTpdo1 app s) := by
  unfold canopenTriggerTpdo1
  split_ifs with hop
  · apply nodeStep_pdo
    · intro cobId data h
      cases h
    · exact canopenPdoSendTpdo1_kept app s.node.pdo s.dev
    · exact .inl (CanopenNode.isOperational_eq_true.mp hop)
  · exact .ignored _

theorem nodeStep_trigger2 : NodeStep app s .triggerTpdo2 (canopenTriggerTpdo2 app s) := by
  unfold canopenTriggerTpdo2
  split_ifs with hop
  · apply nodeStep_pdo
    · intro cobId data h
      cases h
    · exact canopenPdoSendTpdo2_kept app s.node.pdo s.dev
    · exact .inl (CanopenNode.isOperational_eq_true.mp hop)
  · exact .ignored _

/-- Every call takes one of the ways. -/
theorem nodeStep_enter (input : NodeInput) : NodeStep app s input (enter app input s) := by
  cases input with
  | rxFrame cobId data =>
      cases data with
      | none => exact .ignored _
      | some data => exact nodeStep_rxPayload app s cobId data
  | process deltaMs => exact nodeStep_process app s deltaMs
  | triggerTpdo1 => exact nodeStep_trigger1 app s
  | triggerTpdo2 => exact nodeStep_trigger2 app s
  | setNmtState state => exact .setState state
  | setDigitalInputs inputs => exact .digitalInputs inputs
  | setAnalogInput channel value => exact .analogInput channel value

end Cases

/-! ## Settings -/

/-- What no call of an entry point changes in a node. -/
structure NodeConfig where
  nodeId : Byte
  od : CanopenOd
  nmtNodeId : Byte
  heartbeatPeriodMs : Word
  sdoNodeId : Byte
  sdoOd : CanopenOd
  pdo : PdoConfig
  vars : AutomationVars

def CanopenNode.config (node : CanopenNode) : NodeConfig where
  nodeId := node.nodeId
  od := node.od
  nmtNodeId := node.nmt.nodeId
  heartbeatPeriodMs := node.nmt.heartbeatPeriodMs
  sdoNodeId := node.sdo.nodeId
  sdoOd := node.sdo.od
  pdo := node.pdo.config
  vars := node.vars

/-- The settings of an engine that was initialised with a node id. -/
def tpdoConfig (base : ℕ) (nodeId : Byte) : TpdoConfig := ⟨base + nodeId.toNat, 1000, 100⟩

/-- The settings of a node that was initialised. -/
def nodeConfig (nodeId : Byte) (od : CanopenOd) (heartbeatPeriodMs : Word) : NodeConfig where
  nodeId := nodeId
  od := od
  nmtNodeId := nodeId
  heartbeatPeriodMs := heartbeatPeriodMs
  sdoNodeId := nodeId
  sdoOd := od
  pdo := ⟨nodeId, od, tpdoConfig cobTpdo1Base nodeId, tpdoConfig cobTpdo2Base nodeId,
    canopenDefaultOdGetVars⟩
  vars := canopenDefaultOdGetVars

/-- A frame keeps the identity of the server. -/
theorem SdoStep.config {sdo server : SdoServer} {data : List Byte} {dev dev' : Device ω}
    (h : SdoStep app sdo data dev server dev') :
    server.nodeId = sdo.nodeId ∧ server.od = sdo.od := by
  cases h <;> exact ⟨rfl, rfl⟩

theorem NodeStep.config {s s' : System ω} {input : NodeInput} (h : NodeStep app s input s') :
    s'.node.config = s.node.config := by
  cases h with
  | engines _ nmt pdo dev dev' _ beat config =>
      simp only [CanopenNode.config, beat.nodeId, beat.period, config]
  | sdo data server dev _ _ step =>
      simp only [CanopenNode.config, step.config.1, step.config.2]
  | _ => rfl

/-- A call keeps the settings of the node. -/
@[simp]
theorem config_nodeStep (app : Application ω) (input : NodeInput) (s : System ω) :
    (nodeStep app input s).2.node.config = s.node.config :=
  (nodeStep_enter app s.unrecorded input).config

/-- A node id that `canopen_init` accepts. -/
theorem canopenInit_eq_some {app : Application ω} {nodeId : Byte} {od : Option CanopenOd}
    {dev : Device ω} {s : System ω} (h : canopenInit app nodeId od dev = some s) :
    (1 ≤ nodeId.toNat ∧ nodeId.toNat ≤ 127) ∧ s = initialised app nodeId od dev := by
  unfold canopenInit at h
  split_ifs at h with hrange
  exact ⟨by omega, (Option.some.inj h).symm⟩

theorem config_initialised (app : Application ω) (nodeId : Byte) (od : Option CanopenOd)
    (dev : Device ω) :
    ∃ period, (initialised app nodeId od dev).node.config =
      nodeConfig nodeId (od.getD canopenDefaultOdGet) period := ⟨_, rfl⟩

/-- The node has settings that `canopen_init` gives. -/
structure CanopenNode.Configured (node : CanopenNode) (nodeId : Byte) (od : CanopenOd) : Prop where
  config : ∃ period, node.config = nodeConfig nodeId od period
  low : 1 ≤ nodeId.toNat
  high : nodeId.toNat ≤ 127

namespace CanopenNode.Configured

variable {node : CanopenNode} {nodeId : Byte} {od : CanopenOd}

theorem nodeId_eq (h : node.Configured nodeId od) : node.nodeId = nodeId := by
  obtain ⟨period, hconfig⟩ := h.config
  exact congrArg NodeConfig.nodeId hconfig

theorem od_eq (h : node.Configured nodeId od) : node.od = od := by
  obtain ⟨period, hconfig⟩ := h.config
  exact congrArg NodeConfig.od hconfig

theorem nmtNodeId_eq (h : node.Configured nodeId od) : node.nmt.nodeId = node.nodeId := by
  obtain ⟨period, hconfig⟩ := h.config
  rw [h.nodeId_eq]
  exact congrArg NodeConfig.nmtNodeId hconfig

theorem sdoNodeId_eq (h : node.Configured nodeId od) : node.sdo.nodeId = nodeId := by
  obtain ⟨period, hconfig⟩ := h.config
  exact congrArg NodeConfig.sdoNodeId hconfig

theorem sdoOd_eq (h : node.Configured nodeId od) : node.sdo.od = od := by
  obtain ⟨period, hconfig⟩ := h.config
  exact congrArg NodeConfig.sdoOd hconfig

theorem of_config_eq {node' : CanopenNode} (h : node.Configured nodeId od)
    (heq : node'.config = node.config) : node'.Configured nodeId od :=
  ⟨heq ▸ h.config, h.low, h.high⟩

theorem rsdoCobId_eq (h : node.Configured nodeId od) :
    node.rsdoCobId = cobRsdoBase + nodeId.toNat := by
  rw [rsdoCobId, h.nodeId_eq]

end CanopenNode.Configured

theorem configured_initialised {nodeId : Byte} {od : Option CanopenOd} {dev : Device ω}
    {s : System ω} (h : canopenInit app nodeId od dev = some s) :
    s.node.Configured nodeId (od.getD canopenDefaultOdGet) := by
  obtain ⟨⟨hlow, hhigh⟩, rfl⟩ := canopenInit_eq_some h
  exact ⟨config_initialised app nodeId od dev, hlow, hhigh⟩

end AutomationBoard.Canopen
