/-
# The frames a node may transmit

Each call of an entry point transmits frames of few kinds, and which of them it
may transmit depends on the NMT state it is made in. The identifiers of an
initialised node keep the kinds apart.
-/

import AutomationBoard.Canopen.NodeStep

namespace AutomationBoard.Canopen

variable {ω : Type} {app : Application ω}

/-- A frame that a call may transmit in an NMT state. -/
inductive MaySend (config : NodeConfig) (state : NmtState) : NodeInput → CanopenFrame → Prop
  | bootup (data : List Byte) : MaySend config state (.rxFrame cobNmt (some data))
      (dataFrame (cobHeartbeatBase + config.nmtNodeId.toNat) [0x00])
  | heartbeat (input : NodeInput) : MaySend config state input
      (dataFrame (cobHeartbeatBase + config.nmtNodeId.toNat) [state.code])
  | tpdo1 (input : NodeInput) (payload : List Byte) (operational : state = .operational) :
      MaySend config state input (dataFrame config.pdo.tpdo1.cobId payload)
  | tpdo2 (input : NodeInput) (payload : List Byte) (operational : state = .operational) :
      MaySend config state input (dataFrame config.pdo.tpdo2.cobId payload)
  | sdo (data payload : List Byte) (running : state ≠ .stopped) :
      MaySend config state (.rxFrame (cobRsdoBase + config.nodeId.toNat) (some data))
        (dataFrame (cobTsdoBase + config.sdoNodeId.toNat) payload)

/-- The server transmits on its identifier only. -/
theorem SdoStep.sent {sdo server : SdoServer} {data : List Byte} {dev dev' : Device ω}
    (h : SdoStep app sdo data dev server dev') (hcalls : dev.calls = []) {frame : CanopenFrame}
    (hframe : frame ∈ sentFrames dev'.calls) : ∃ payload, frame = dataFrame sdo.cobId payload := by
  cases h with
  | cancel => simp [hcalls] at hframe
  | refuse index bSubindex e =>
      simp only [canopenSdoSendAbort, Device.calls_send, hcalls, List.nil_append,
        sentFrames_transmit, List.mem_singleton] at hframe
      exact ⟨_, hframe⟩
  | store _ _ sub object =>
      simp only [Device.calls_send, Device.calls_written, hcalls, List.nil_append,
        sentFrames_append, Device.sentFrames_writeCalls, sentFrames_transmit,
        List.mem_singleton] at hframe
      exact ⟨_, hframe⟩
  | mismatch =>
      simp only [canopenSdoSendAbort, Device.calls_send, hcalls, List.nil_append,
        sentFrames_transmit, List.mem_singleton] at hframe
      exact ⟨_, hframe⟩
  | expedite | start | segment =>
      simp only [Device.calls_send, hcalls, List.nil_append, sentFrames_transmit,
        List.mem_singleton] at hframe
      exact ⟨_, hframe⟩

/-- A frame of the engine is one of its TPDOs. -/
theorem IsPdoCall.frame {config : PdoConfig} {call : AppCall} (h : IsPdoCall config call)
    {frame : CanopenFrame} (hframe : call.frame? = some frame) :
    (∃ payload, frame = dataFrame config.tpdo1.cobId payload) ∨
      ∃ payload, frame = dataFrame config.tpdo2.cobId payload := by
  cases h with
  | syncInputs => cases hframe
  | tpdo1 ret mem => exact .inl ⟨_, (Option.some.inj hframe).symm⟩
  | tpdo2 ret mem => exact .inr ⟨_, (Option.some.inj hframe).symm⟩

/-- A call transmits what it may in the state it is made in. -/
theorem NodeStep.maySend {s s' : System ω} {input : NodeInput} (h : NodeStep app s input s')
    (hcalls : s.dev.calls = []) {frame : CanopenFrame} (hframe : frame ∈ sentFrames s'.dev.calls) :
    MaySend s.node.config s.node.nmt.state input frame := by
  cases h with
  | reset data =>
      simp only [Device.calls_send, hcalls, List.nil_append, sentFrames_transmit,
        List.mem_singleton] at hframe
      subst hframe
      exact .bootup data
  | engines _ nmt pdo dev dev' _ beat config activity operational =>
      have hbeat : frame ∈ sentFrames dev.calls →
          MaySend s.node.config s.node.nmt.state input frame := by
        intro hmem
        rcases beat.device with rfl | rfl
        · simp [hcalls] at hmem
        · simp only [Device.calls_send, hcalls, List.nil_append, sentFrames_transmit,
            List.mem_singleton] at hmem
          subst hmem
          exact .heartbeat input
      rcases operational with operational | rfl
      · obtain ⟨new, hnew, hpdo⟩ := activity.calls
        simp only [hnew, sentFrames_append, List.mem_append] at hframe
        rcases hframe with hframe | hframe
        · exact hbeat hframe
        · obtain ⟨call, hcall, hsome⟩ := List.mem_filterMap.mp hframe
          rcases (hpdo call hcall).frame hsome with ⟨payload, rfl⟩ | ⟨payload, rfl⟩
          · exact .tpdo1 input payload operational
          · exact .tpdo2 input payload operational
      · exact hbeat hframe
  | sdo data server dev running length step =>
      obtain ⟨payload, rfl⟩ := step.sent hcalls hframe
      exact .sdo data payload running
  | rpdo1 cobId data =>
      simp [Device.syncOutputs, storeRpdo1, Device.store, hcalls] at hframe
  | rpdo2 cobId data =>
      simp [Device.syncOutputs, storeRpdo2, Device.store, hcalls] at hframe
  | _ => simp [hcalls] at hframe

/-- Only the boot-up frame is transmitted by a call that changes the state. -/
theorem NodeStep.state_of_sent {s s' : System ω} {input : NodeInput} (h : NodeStep app s input s')
    (hcalls : s.dev.calls = []) {frame : CanopenFrame} (hframe : frame ∈ sentFrames s'.dev.calls) :
    s'.node.nmt.state = s.node.nmt.state ∨ frame = heartbeatFrame s.node.nmt 0x00 := by
  cases h with
  | command | setState => simp [hcalls] at hframe
  | reset data =>
      simp only [Device.calls_send, hcalls, List.nil_append, sentFrames_transmit,
        List.mem_singleton] at hframe
      exact .inr hframe
  | engines _ nmt pdo dev dev' _ beat => exact .inl beat.state
  | _ => exact .inl rfl

theorem nodeStep_state_of_sent (app : Application ω) (input : NodeInput) (s : System ω)
    {frame : CanopenFrame} (hframe : frame ∈ sentFrames (nodeStep app input s).1) :
    (nodeStep app input s).2.node.nmt.state = s.node.nmt.state ∨
      frame = heartbeatFrame s.node.nmt 0x00 :=
  (nodeStep_enter app s.unrecorded input).state_of_sent rfl hframe

/-- A call of the application that transmits on neither the heartbeat's nor the
server's identifier comes from the PDO engine. -/
theorem NodeStep.isPdoCall {s s' : System ω} {input : NodeInput} (h : NodeStep app s input s')
    (hcalls : s.dev.calls = []) {frame : CanopenFrame} {ret : ℤ} {mem : Mem}
    (hcall : .transmit frame ret mem ∈ s'.dev.calls)
    (hheartbeat : frame.cobId ≠ cobHeartbeatBase + s.node.nmt.nodeId.toNat)
    (hsdo : frame.cobId ≠ s.node.sdo.cobId) :
    IsPdoCall s.node.pdo.config (.transmit frame ret mem) := by
  have hframe : frame ∈ sentFrames s'.dev.calls := List.mem_filterMap.mpr ⟨_, hcall, rfl⟩
  cases h with
  | reset data =>
      simp only [Device.calls_send, hcalls, List.nil_append, sentFrames_transmit,
        List.mem_singleton] at hframe
      rw [hframe] at hheartbeat
      exact absurd rfl hheartbeat
  | engines _ nmt pdo dev dev' _ beat config activity operational =>
      obtain ⟨new, hnew, hpdo⟩ := activity.calls
      simp only [hnew, List.mem_append] at hcall
      rcases hcall with hcall | hcall
      · have hsent : frame ∈ sentFrames dev.calls := List.mem_filterMap.mpr ⟨_, hcall, rfl⟩
        rcases beat.device with rfl | rfl
        · simp [hcalls] at hsent
        · simp only [Device.calls_send, hcalls, List.nil_append, sentFrames_transmit,
            List.mem_singleton] at hsent
          rw [hsent] at hheartbeat
          exact absurd rfl hheartbeat
      · exact hpdo _ hcall
  | sdo data server dev running length step =>
      obtain ⟨payload, rfl⟩ := step.sent hcalls hframe
      exact absurd rfl hsdo
  | rpdo1 cobId data => simp [Device.syncOutputs, storeRpdo1, Device.store, hcalls] at hcall
  | rpdo2 cobId data => simp [Device.syncOutputs, storeRpdo2, Device.store, hcalls] at hcall
  | _ => simp [hcalls] at hcall

theorem nodeStep_maySend (app : Application ω) (input : NodeInput) (s : System ω)
    {frame : CanopenFrame} (hframe : frame ∈ sentFrames (nodeStep app input s).1) :
    MaySend s.node.config s.node.nmt.state input frame :=
  (nodeStep_enter app s.unrecorded input).maySend rfl hframe

end AutomationBoard.Canopen
