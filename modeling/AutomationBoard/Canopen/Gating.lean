/-
# Services by NMT state

Each service of a node is bound to states: TPDOs and RPDOs to the operational
one, SDO to all but the stopped one, the heartbeat to none. The identifiers of an
initialised node tell the frames apart, so the rule is read off what a call may
transmit and what it may write.
-/

import AutomationBoard.Canopen.Objects

namespace AutomationBoard.Canopen

open AutomationBoard.Program

variable {ω : Type} {app : Application ω}

/-- The digital and the analogue output objects. -/
def outputObjects : List (Word × Byte) := [(0x6200, 1), (0x6411, 1), (0x6411, 2)]

/-- A call keeps the bounds of the services. -/
structure Gated (s : System ω) (input : NodeInput) (calls : List AppCall) (s' : System ω) :
    Prop where
  tpdo : ∀ frame ∈ sentFrames calls,
    (frame.cobId = cobTpdo1Base + s.node.nodeId.toNat ∨
      frame.cobId = cobTpdo2Base + s.node.nodeId.toNat) →
    s.node.nmt.state = .operational ∧ s'.node.nmt.state = .operational
  sdo : ∀ frame ∈ sentFrames calls, frame.cobId = cobTsdoBase + s.node.nodeId.toNat →
    s.node.nmt.state ≠ .stopped ∧ s'.node.nmt.state ≠ .stopped
  outputs : ∀ name ∈ outputObjects,
    objectBytes s'.node.od s'.dev.mem name ≠ objectBytes s.node.od s.dev.mem name →
    (∃ data, (input = .rxFrame (cobRpdo1Base + s.node.nodeId.toNat) (some data) ∨
        input = .rxFrame (cobRpdo2Base + s.node.nodeId.toNat) (some data)) ∧
      s.node.nmt.state = .operational) ∨
    ∃ data, input = .rxFrame (cobRsdoBase + s.node.nodeId.toNat) (some data) ∧
      commandSpecifier data = 1 ∧ s.node.nmt.state ≠ .stopped
  stopped : s.node.nmt.state = .stopped ∨ s'.node.nmt.state = .stopped →
    ∀ frame ∈ sentFrames calls,
      frame = dataFrame (cobHeartbeatBase + s.node.nodeId.toNat) [NmtState.stopped.code] ∨
        frame = dataFrame (cobHeartbeatBase + s.node.nodeId.toNat) [0x00]

section Call

variable {s : System ω} {nodeId : Byte} {od : CanopenOd} {input : NodeInput}

/-- What the identifier of a frame says about the state it is sent in. -/
theorem state_of_cobId (h : s.node.Configured nodeId od) {frame : CanopenFrame}
    (hmay : MaySend s.node.config s.node.nmt.state input frame) :
    ((frame.cobId = cobTpdo1Base + nodeId.toNat ∨ frame.cobId = cobTpdo2Base + nodeId.toNat) →
        s.node.nmt.state = .operational) ∧
      (frame.cobId = cobTsdoBase + nodeId.toNat → s.node.nmt.state ≠ .stopped) ∧
      (s.node.nmt.state = .stopped → frame = dataFrame (cobHeartbeatBase + nodeId.toNat)
          [NmtState.stopped.code] ∨
        frame = dataFrame (cobHeartbeatBase + nodeId.toNat) [0x00]) := by
  obtain ⟨period, hconfig⟩ := h.config
  have hlow := h.low
  have hhigh := h.high
  rw [hconfig] at hmay
  simp only [cobTpdo1Base, cobTpdo2Base, cobTsdoBase, cobHeartbeatBase]
  cases hmay with
  | bootup =>
      refine ⟨fun hid => ?_, fun hid => ?_, fun _ => .inr rfl⟩
      · simp only [dataFrame, nodeConfig, cobHeartbeatBase] at hid
        omega
      · simp only [dataFrame, nodeConfig, cobHeartbeatBase] at hid
        omega
  | heartbeat =>
      refine ⟨fun hid => ?_, fun hid => ?_, fun hstopped => .inl (by rw [hstopped]; rfl)⟩
      · simp only [dataFrame, nodeConfig, cobHeartbeatBase] at hid
        omega
      · simp only [dataFrame, nodeConfig, cobHeartbeatBase] at hid
        omega
  | tpdo1 _ payload operational | tpdo2 _ payload operational =>
      rw [operational]
      exact ⟨fun _ => rfl, fun _ => by decide, fun hstopped => by cases hstopped⟩
  | sdo data payload running =>
      refine ⟨fun hid => ?_, fun _ => running, fun hstopped => absurd hstopped running⟩
      simp only [dataFrame, nodeConfig, cobTsdoBase] at hid
      omega

/-- A call that transmits anything but the boot-up frame keeps the state. -/
theorem state_kept_of_sent (app : Application ω) (h : s.node.Configured nodeId od)
    {frame : CanopenFrame} (hframe : frame ∈ sentFrames (nodeStep app input s).1)
    (hother : frame ≠ dataFrame (cobHeartbeatBase + nodeId.toNat) [0x00]) :
    (nodeStep app input s).2.node.nmt.state = s.node.nmt.state := by
  rcases nodeStep_state_of_sent app input s hframe with hstate | hbootup
  · exact hstate
  · rw [heartbeatFrame, Nmt.cobId, h.nmtNodeId_eq, h.nodeId_eq] at hbootup
    exact absurd hbootup hother

/-- The state is kept by a call that transmits on another identifier than the heartbeat's. -/
theorem state_kept_of_cobId (app : Application ω) (h : s.node.Configured nodeId od)
    {frame : CanopenFrame} (hframe : frame ∈ sentFrames (nodeStep app input s).1)
    (hcob : frame.cobId ≠ cobHeartbeatBase + nodeId.toNat) :
    (nodeStep app input s).2.node.nmt.state = s.node.nmt.state := by
  apply state_kept_of_sent app h hframe
  rintro rfl
  exact hcob rfl

/-- The output objects of the default dictionary change by RPDOs and downloads only. -/
theorem outputs_kept (h : s.node.Configured nodeId canopenDefaultOdGet) {name : Word × Byte}
    (hname : name ∈ outputObjects)
    (hchange : objectBytes canopenDefaultOdGet (nodeStep app input s).2.dev.mem name ≠
      objectBytes canopenDefaultOdGet s.dev.mem name) :
    (∃ data, (input = .rxFrame (cobRpdo1Base + nodeId.toNat) (some data) ∨
        input = .rxFrame (cobRpdo2Base + nodeId.toNat) (some data)) ∧
      s.node.nmt.state = .operational) ∨
    ∃ data, input = .rxFrame (cobRsdoBase + nodeId.toNat) (some data) ∧
      commandSpecifier data = 1 ∧ s.node.nmt.state ≠ .stopped := by
  have hwrite := nodeStep_write app input h
  generalize (nodeStep app input s).2.dev.mem = mem at hwrite hchange
  cases hwrite with
  | inputs _ _ same =>
      simp only [outputObjects, List.mem_cons, List.not_mem_nil, or_false] at hname
      rcases hname with rfl | rfl | rfl
      · exact absurd (same.objectBytes_eq rfl (by decide) (by decide)) hchange
      · exact absurd (same.objectBytes_eq rfl (by decide) (by decide)) hchange
      · exact absurd (same.objectBytes_eq rfl (by decide) (by decide)) hchange
  | download data sub object running length download => exact .inr ⟨data, rfl, download, running⟩
  | rpdo1 data operational => exact .inl ⟨data, .inl rfl, operational⟩
  | rpdo2 data operational => exact .inl ⟨data, .inr rfl, operational⟩

/-- Every call keeps the bounds. -/
theorem gated_nodeStep (app : Application ω) (h : s.node.Configured nodeId canopenDefaultOdGet)
    (input : NodeInput) :
    Gated s input (nodeStep app input s).1 (nodeStep app input s).2 := by
  have hid := h.nodeId_eq
  have hhigh := h.high
  have hod : s.node.od = canopenDefaultOdGet := h.od_eq
  have hod' : (nodeStep app input s).2.node.od = canopenDefaultOdGet :=
    (h.of_config_eq (config_nodeStep app input s)).od_eq
  have hmay : ∀ frame ∈ sentFrames (nodeStep app input s).1, _ := fun frame hframe =>
    state_of_cobId h (nodeStep_maySend app input s hframe)
  refine ⟨?_, ?_, ?_, ?_⟩
  · intro frame hframe hcob
    rw [hid] at hcob
    have hstate := (hmay frame hframe).1 hcob
    have hother : frame.cobId ≠ cobHeartbeatBase + nodeId.toNat := by
      simp only [cobTpdo1Base, cobTpdo2Base, cobHeartbeatBase] at hcob ⊢
      omega
    rw [state_kept_of_cobId app h hframe hother]
    exact ⟨hstate, hstate⟩
  · intro frame hframe hcob
    rw [hid] at hcob
    have hstate := (hmay frame hframe).2.1 hcob
    have hother : frame.cobId ≠ cobHeartbeatBase + nodeId.toNat := by
      simp only [cobTsdoBase, cobHeartbeatBase] at hcob ⊢
      omega
    rw [state_kept_of_cobId app h hframe hother]
    exact ⟨hstate, hstate⟩
  · intro name hname hchange
    rw [hod, hod'] at hchange
    rw [hid]
    exact outputs_kept h hname hchange
  · intro hstopped frame hframe
    rw [hid]
    by_cases hbootup : frame = dataFrame (cobHeartbeatBase + nodeId.toNat) [0x00]
    · exact .inr hbootup
    · rw [state_kept_of_sent app h hframe hbootup, or_self] at hstopped
      exact (hmay frame hframe).2.2 hstopped

end Call

/-- In every run of a node with the default dictionary, every call keeps the bounds. -/
theorem nodeRun_gated (app : Application ω) {nodeId : Byte} {dev : Device ω} {s : System ω}
    (hinit : canopenInit app nodeId none dev = some s) (inputs : List NodeInput) :
    EveryStep (total (nodeStep app)) Gated s inputs := by
  apply everyStep_of_invariant (I := fun s => s.node.Configured nodeId canopenDefaultOdGet)
  · intro s input h
    exact yields_total.mpr
      ⟨h.of_config_eq (config_nodeStep app input s), gated_nodeStep app h input⟩
  · exact configured_initialised hinit

theorem nodeRun_gated_start : EveryStep (total (nodeStep weakApplication)) Gated
    (initialised weakApplication 1 none bootDevice)
    [.rxFrame cobNmt (some [0x01, 0x01]), .rxFrame 0x201 (some [0x05]), .process 1000] :=
  nodeRun_gated weakApplication
    (show canopenInit weakApplication 1 none bootDevice = some _ from rfl) _

end AutomationBoard.Canopen
