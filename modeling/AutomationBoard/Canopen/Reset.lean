/-
# NMT reset commands

A reset command restores the NMT state and the heartbeat timer and sends the
boot-up frame, as `canopen_init` does. The SDO server and the PDO engine keep
what they were at, so a reset leaves the services as `canopen_init` leaves them
exactly if those two had nothing under way.
-/

import AutomationBoard.Canopen.NodeRun

namespace AutomationBoard.Canopen

open AutomationBoard.Program

variable {ω : Type} {app : Application ω}

/-- An NMT Reset Node or Reset Communication command for the node or for all. -/
def IsReset (nodeId : Byte) : NodeInput → Prop
  | .rxFrame cobId (some data) => cobId = cobNmt ∧ 2 ≤ data.length ∧
      (dataAt data 0 = NmtCommand.resetNode.code ∨
        dataAt data 0 = NmtCommand.resetCommunication.code) ∧
      (dataAt data 1 = 0 ∨ dataAt data 1 = nodeId)
  | _ => False

/-- The event and inhibit counters of a TPDO are those `canopen_pdo_init` sets. -/
def TpdoState.CountersInitial (tpdo : TpdoState) : Prop :=
  tpdo.eventCounterMs = 1000 ∧ tpdo.inhibitCounterMs = 0

/-- No transfer is active and the TPDO counters are at their initial values. -/
structure CanopenNode.Idle (node : CanopenNode) : Prop where
  transfer : node.sdo.segActive = false
  tpdo1 : node.pdo.tpdo1.CountersInitial
  tpdo2 : node.pdo.tpdo2.CountersInitial

/-- The communication services are as `canopen_init` leaves them. -/
structure CanopenNode.Fresh (node : CanopenNode) : Prop extends node.Idle where
  state : node.nmt.state = .preOperational
  timer : node.nmt.heartbeatTimerMs = node.nmt.heartbeatPeriodMs

theorem fresh_initialised (app : Application ω) (nodeId : Byte) (od : Option CanopenOd)
    (dev : Device ω) : (initialised app nodeId od dev).node.Fresh :=
  ⟨⟨rfl, ⟨rfl, rfl⟩, ⟨rfl, rfl⟩⟩, rfl, rfl⟩

/-- A reset command sends the boot-up frame and leaves the services fresh. -/
def RestoresServices (s : System ω) (input : NodeInput) (calls : List AppCall) (s' : System ω) :
    Prop :=
  IsReset s.node.nodeId input →
    sentFrames calls = [dataFrame (cobHeartbeatBase + s.node.nodeId.toNat) [0x00]] ∧ s'.node.Fresh

/-- A reset command that is addressed to the node. -/
theorem canopenNmtRxCommand_reset (app : Application ω) {nmt : Nmt} {data : List Byte}
    (dev : Device ω)
    (hlen : 2 ≤ data.length) (htarget : dataAt data 1 = 0 ∨ dataAt data 1 = nmt.nodeId)
    (hcommand : dataAt data 0 = NmtCommand.resetNode.code ∨
      dataAt data 0 = NmtCommand.resetCommunication.code) :
    canopenNmtRxCommand app nmt data dev =
      (true, { nmt with state := .preOperational }.timerFull,
        dev.send app (heartbeatFrame nmt 0x00)) := by
  have htarget' : ¬ (dataAt data 1 ≠ 0 ∧ dataAt data 1 ≠ nmt.nodeId) := by
    rintro ⟨hall, hown⟩
    exact htarget.elim hall hown
  simp only [canopenNmtRxCommand]
  rw [if_neg (Nat.not_lt.mpr hlen), if_neg htarget']
  rcases hcommand with h | h
  · rw [h, NmtCommand.ofByte_code]
    rfl
  · rw [h, NmtCommand.ofByte_code]
    rfl

/-- What a reset command does. -/
theorem nodeStep_reset (app : Application ω) {s : System ω} {nodeId : Byte} {od : CanopenOd}
    (h : s.node.Configured nodeId od) {input : NodeInput} (hreset : IsReset s.node.nodeId input) :
    sentFrames (nodeStep app input s).1 =
        [dataFrame (cobHeartbeatBase + s.node.nodeId.toNat) [0x00]] ∧
      (nodeStep app input s).2.node = { s.node with
        nmt := { s.node.nmt with state := .preOperational }.timerFull } := by
  match input, hreset with
  | .rxFrame cobId (some data), ⟨hcob, hlen, hcommand, htarget⟩ =>
      rw [← h.nmtNodeId_eq] at htarget ⊢
      have hrx : rxPayload app cobId data s.unrecorded =
          (true, ⟨{ s.node with nmt := { s.node.nmt with state := .preOperational }.timerFull },
            s.unrecorded.dev.send app (heartbeatFrame s.node.nmt 0x00)⟩) := by
        have hcommand' := canopenNmtRxCommand_reset app s.unrecorded.dev hlen htarget hcommand
        rw [rxPayload, if_pos hcob]
        exact congrArg (fun r => (r.1, (⟨{ s.node with nmt := r.2.1 }, r.2.2⟩ : System ω)))
          hcommand'
      simp only [nodeStep, enter, canopenRxFrame, hrx]
      exact ⟨rfl, trivial⟩

/-- A reset restores the services exactly if they are idle. -/
theorem restoresServices_iff (app : Application ω) {s : System ω} {nodeId : Byte} {od : CanopenOd}
    (h : s.node.Configured nodeId od) (input : NodeInput) :
    RestoresServices s input (nodeStep app input s).1 (nodeStep app input s).2 ↔
      (IsReset s.node.nodeId input → s.node.Idle) := by
  apply forall_congr'
  intro hreset
  obtain ⟨hsent, hnode⟩ := nodeStep_reset app h hreset
  rw [hnode]
  constructor
  · rintro ⟨-, hfresh⟩
    exact ⟨hfresh.transfer, hfresh.tpdo1, hfresh.tpdo2⟩
  · rintro ⟨htransfer, htpdo1, htpdo2⟩
    exact ⟨hsent, ⟨htransfer, htpdo1, htpdo2⟩, rfl, rfl⟩

/-- In a run of a node every reset restores the services exactly if every reset
finds them idle. -/
theorem nodeRun_restoresServices_iff (app : Application ω) {nodeId : Byte}
    {od : Option CanopenOd} {dev : Device ω} {s : System ω}
    (hinit : canopenInit app nodeId od dev = some s) (inputs : List NodeInput) :
    EveryStep (total (nodeStep app)) RestoresServices s inputs ↔
      EveryStep (total (nodeStep app))
        (fun s input _ _ => IsReset s.node.nodeId input → s.node.Idle) s inputs := by
  apply everyStep_congr (I := fun s => s.node.Configured nodeId (od.getD canopenDefaultOdGet))
  · intro s input h
    exact yields_total.mpr
      ⟨h.of_config_eq (config_nodeStep app input s), restoresServices_iff app h input⟩
  · exact configured_initialised hinit

theorem nodeRun_restoresServices_iff_immediate :
    EveryStep (total (nodeStep weakApplication)) RestoresServices
        (initialised weakApplication 1 none bootDevice) [.rxFrame cobNmt (some [0x82, 0x01])] ↔
      EveryStep (total (nodeStep weakApplication))
        (fun s input _ _ => IsReset s.node.nodeId input → s.node.Idle)
        (initialised weakApplication 1 none bootDevice) [.rxFrame cobNmt (some [0x82, 0x01])] :=
  nodeRun_restoresServices_iff weakApplication
    (show canopenInit weakApplication 1 none bootDevice = some _ from rfl)
    [.rxFrame cobNmt (some [0x82, 0x01])]

/-- A reset leaves the upload of the device name active. -/
theorem not_nodeRun_restoresServices :
    ¬ EveryStep (total (nodeStep weakApplication)) RestoresServices
      (initialised weakApplication 1 none bootDevice)
      [.rxFrame 0x601 (some [0x40, 0x08, 0x10, 0, 0, 0, 0, 0]),
        .rxFrame cobNmt (some [0x81, 0x01])] := by
  rintro ⟨_, _, hfirst, -, _, _, hsecond, hrestores, -⟩
  cases hfirst
  cases hsecond
  have htransfer := (hrestores ⟨rfl, by decide, .inl rfl, .inr rfl⟩).2.transfer
  revert htransfer
  decide

end AutomationBoard.Canopen
