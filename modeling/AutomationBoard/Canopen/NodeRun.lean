/-
# The SDO server among the other services of a node

NMT commands, SYNC, RPDOs, the timers and the local application leave the SDO
server alone and send nothing on its identifier, and an SDO frame outside the
stopped state is a step of the server and nothing else.
-/

import AutomationBoard.Canopen.NodeFrames

namespace AutomationBoard.Canopen

open AutomationBoard.Program

variable {ω : Type} {app : Application ω}

/-! ## Calls one after another -/

/-- The calls of the application in a run, and the system after it. -/
def nodeRun (app : Application ω) : List NodeInput → System ω → List AppCall × System ω
  | [], s => ([], s)
  | input :: inputs, s =>
      let r := nodeStep app input s
      let rest := nodeRun app inputs r.2
      (r.1 ++ rest.1, rest.2)

/-- The frames that an SDO client of the node receives. -/
def clientFrames (nodeId : Byte) (calls : List AppCall) : List CanopenFrame :=
  (sentFrames calls).filter (·.cobId == cobTsdoBase + nodeId.toNat)

@[simp]
theorem clientFrames_append (nodeId : Byte) (calls calls' : List AppCall) :
    clientFrames nodeId (calls ++ calls') =
      clientFrames nodeId calls ++ clientFrames nodeId calls' := by
  simp [clientFrames]

/-- The call hands an SDO frame to a node. -/
def NodeInput.ForSdo (nodeId : Byte) : NodeInput → Prop
  | .rxFrame cobId _ => cobId = cobRsdoBase + nodeId.toNat
  | _ => False

instance (nodeId : Byte) : (input : NodeInput) → Decidable (input.ForSdo nodeId)
  | .rxFrame cobId _ => inferInstanceAs (Decidable (cobId = cobRsdoBase + nodeId.toNat))
  | .process _ | .triggerTpdo1 | .triggerTpdo2 | .setNmtState _ | .setDigitalInputs _
  | .setAnalogInput _ _ => isFalse id

theorem nodeRun_append (inputs inputs' : List NodeInput) (s : System ω) :
    nodeRun app (inputs ++ inputs') s =
      ((nodeRun app inputs s).1 ++ (nodeRun app inputs' (nodeRun app inputs s).2).1,
        (nodeRun app inputs' (nodeRun app inputs s).2).2) := by
  induction inputs generalizing s with
  | nil => rfl
  | cons input inputs ih => simp only [List.cons_append, nodeRun, ih, List.append_assoc]

theorem config_nodeRun (app : Application ω) (inputs : List NodeInput) (s : System ω) :
    (nodeRun app inputs s).2.node.config = s.node.config := by
  induction inputs generalizing s with
  | nil => rfl
  | cons input inputs ih => rw [nodeRun, ih, config_nodeStep]

/-! ## The server -/

/-- Only an SDO frame reaches the server. -/
theorem NodeStep.sdo_eq {s s' : System ω} {input : NodeInput} (h : NodeStep app s input s')
    (hother : ¬ input.ForSdo s.node.nodeId) : s'.node.sdo = s.node.sdo := by
  cases h with
  | sdo data => exact absurd rfl hother
  | _ => rfl

section Services

variable {s : System ω} {nodeId : Byte} {od : CanopenOd}

/-- Another call sends nothing to the client. -/
theorem clientFrames_nodeStep (h : s.node.Configured nodeId od) {input : NodeInput}
    (hother : ¬ input.ForSdo nodeId) : clientFrames nodeId (nodeStep app input s).1 = [] := by
  obtain ⟨period, hconfig⟩ := h.config
  have hlow := h.low
  have hhigh := h.high
  apply List.filter_eq_nil_iff.mpr
  intro frame hframe
  have hmay := nodeStep_maySend app input s hframe
  rw [hconfig] at hmay
  rw [beq_iff_eq]
  cases hmay with
  | bootup | heartbeat | tpdo1 | tpdo2 =>
      simp only [dataFrame, nodeConfig, tpdoConfig, cobHeartbeatBase, cobTpdo1Base, cobTpdo2Base,
        cobTsdoBase]
      omega
  | sdo data => exact absurd rfl hother

/-- Other calls leave the server alone and send nothing to the client. -/
theorem nodeRun_others (app : Application ω) (h : s.node.Configured nodeId od)
    {inputs : List NodeInput}
    (hothers : ∀ input ∈ inputs, ¬ input.ForSdo nodeId) :
    (nodeRun app inputs s).2.node.sdo = s.node.sdo ∧
      clientFrames nodeId (nodeRun app inputs s).1 = [] := by
  induction inputs generalizing s with
  | nil => exact ⟨rfl, rfl⟩
  | cons input inputs ih =>
      rw [List.forall_mem_cons] at hothers
      have hnext : (nodeStep app input s).2.node.Configured nodeId od :=
        h.of_config_eq (config_nodeStep app input s)
      have hsdo : (nodeStep app input s).2.node.sdo = s.node.sdo :=
        (nodeStep_enter app s.unrecorded input).sdo_eq (h.nodeId_eq ▸ hothers.1)
      obtain ⟨hrest, hframes⟩ := ih hnext hothers.2
      simp only [nodeRun, clientFrames_append, hrest, hsdo, hframes,
        clientFrames_nodeStep h hothers.1, List.append_nil, and_self]

/-- An SDO frame goes to the server, outside the stopped state. -/
theorem rxPayload_rsdo (app : Application ω) (h : s.node.Configured nodeId od)
    (data : List Byte) :
    rxPayload app (cobRsdoBase + nodeId.toNat) data s =
      if s.node.nmt.state = .stopped then (false, s)
      else
        ((canopenSdoRxFrame app s.node.sdo data s.dev).1,
          ⟨{ s.node with sdo := (canopenSdoRxFrame app s.node.sdo data s.dev).2.1 },
            (canopenSdoRxFrame app s.node.sdo data s.dev).2.2⟩) := by
  have hnmt : s.node.rsdoCobId ≠ cobNmt := by
    simp only [CanopenNode.rsdoCobId, cobRsdoBase, cobNmt]
    omega
  have hsync : s.node.rsdoCobId ≠ cobSync := by
    simp only [CanopenNode.rsdoCobId, cobRsdoBase, cobSync]
    omega
  rw [← h.rsdoCobId_eq, rxPayload, if_neg hnmt, if_neg hsync, if_pos rfl]

/-- In the stopped state an SDO frame does nothing. -/
theorem nodeStep_rsdo_stopped (app : Application ω) (h : s.node.Configured nodeId od)
    (hstopped : s.node.nmt.state = .stopped) (data : List Byte) :
    nodeStep app (.rxFrame (cobRsdoBase + nodeId.toNat) (some data)) s = ([], s.unrecorded) := by
  have hunrecorded : s.unrecorded.node.Configured nodeId od := h
  have hstopped' : s.unrecorded.node.nmt.state = .stopped := hstopped
  simp only [nodeStep, enter, canopenRxFrame, rxPayload_rsdo app hunrecorded, if_pos hstopped']
  rfl

/-- An SDO frame outside the stopped state is a step of the server. -/
theorem nodeStep_rsdo (app : Application ω) (h : s.node.Configured nodeId od)
    (hrunning : s.node.nmt.state ≠ .stopped) (data : List Byte) :
    (nodeStep app (.rxFrame (cobRsdoBase + nodeId.toNat) (some data)) s).1 =
        (sdoLineStep app data ⟨s.node.sdo, s.dev⟩).1 ∧
      (nodeStep app (.rxFrame (cobRsdoBase + nodeId.toNat) (some data)) s).2.node.sdo =
        (sdoLineStep app data ⟨s.node.sdo, s.dev⟩).2.server ∧
      (nodeStep app (.rxFrame (cobRsdoBase + nodeId.toNat) (some data)) s).2.dev =
        (sdoLineStep app data ⟨s.node.sdo, s.dev⟩).2.dev := by
  have hunrecorded : s.unrecorded.node.Configured nodeId od := h
  have hrunning' : s.unrecorded.node.nmt.state ≠ .stopped := hrunning
  simp only [nodeStep, enter, canopenRxFrame, rxPayload_rsdo app hunrecorded, if_neg hrunning']
  exact ⟨rfl, rfl, rfl⟩

/-- The client receives every frame of the server. -/
theorem clientFrames_rsdo (app : Application ω) (h : s.node.Configured nodeId od)
    (hrunning : s.node.nmt.state ≠ .stopped) {data : List Byte} (hlen : data.length = 8) :
    clientFrames nodeId
        (nodeStep app (.rxFrame (cobRsdoBase + nodeId.toNat) (some data)) s).1 =
      sentFrames (sdoLineStep app data ⟨s.node.sdo, s.dev⟩).1 := by
  obtain ⟨hcalls, -, -⟩ := nodeStep_rsdo app h hrunning data
  rw [hcalls, clientFrames, List.filter_eq_self]
  intro frame hframe
  obtain ⟨payload, rfl⟩ := (sdoStep_of_length app s.node.sdo s.unrecorded.dev hlen).2.sent rfl
    hframe
  rw [beq_iff_eq, ← h.sdoNodeId_eq]
  rfl

end Services

end AutomationBoard.Canopen
