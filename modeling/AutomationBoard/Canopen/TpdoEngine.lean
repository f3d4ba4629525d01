/-
# One TPDO at a time

What a call of an entry point does to one of the two TPDOs: the call prepares it, by
cooling it down or by releasing it, and may come to offer its frame to the
transmitter. The specification of a call says what `tx_func` returned for the TPDO
and which counters it leaves, whatever else the call does.
-/

import AutomationBoard.Canopen.Gating
import AutomationBoard.Program.Timeline

namespace AutomationBoard.Canopen

open AutomationBoard.Program

variable {ω : Type} {app : Application ω}

/-! ## The two TPDOs -/

/-- TPDO1 and TPDO2. -/
inductive TpdoNumber
  | one
  | two
  deriving DecidableEq

/-- `CANOPEN_COB_TPDO1_BASE` or `CANOPEN_COB_TPDO2_BASE`. -/
def TpdoNumber.base : TpdoNumber → ℕ
  | one => cobTpdo1Base
  | two => cobTpdo2Base

/-- The state of a TPDO. -/
def Pdo.tpdo (pdo : Pdo) : TpdoNumber → TpdoState
  | .one => pdo.tpdo1
  | .two => pdo.tpdo2

/-- The payload of a TPDO. -/
def tpdoData (vars : AutomationVars) : TpdoNumber → Mem → List Byte
  | .one => tpdo1Data vars
  | .two => tpdo2Data vars

/-- The call triggers the TPDO. -/
def NodeInput.Triggers (input : NodeInput) : TpdoNumber → Prop
  | .one => input = .triggerTpdo1
  | .two => input = .triggerTpdo2

theorem NodeInput.Triggers.unique {input : NodeInput} {k k' : TpdoNumber} (h : input.Triggers k)
    (h' : input.Triggers k') : k = k' := by
  cases k <;> cases k' <;> cases h <;> cases h' <;> rfl

/-- The call hands over a SYNC frame. -/
def NodeInput.isSync : NodeInput → Bool
  | .rxFrame cobId (some _) => cobId = cobSync
  | _ => false

/-! ## What the transmitter returned -/

/-- What `tx_func` returned in a call of the application for a frame of an identifier. -/
def AppCall.result? (cobId : ℕ) : AppCall → Option ℤ
  | .transmit frame ret _ => if frame.cobId = cobId then some ret else none
  | _ => none

/-- What `tx_func` returned for the frames of an identifier, in order. -/
def results (cobId : ℕ) (calls : List AppCall) : List ℤ := calls.filterMap (AppCall.result? cobId)

section Results

variable {cobId : ℕ}

@[simp]
theorem results_nil : results cobId [] = [] := rfl

@[simp]
theorem results_append (calls calls' : List AppCall) :
    results cobId (calls ++ calls') = results cobId calls ++ results cobId calls' :=
  List.filterMap_append

@[simp]
theorem results_syncInputs : results cobId [.syncInputs] = [] := rfl

theorem results_transmit (frame : CanopenFrame) (ret : ℤ) (mem : Mem) :
    results cobId [.transmit frame ret mem] = if frame.cobId = cobId then [ret] else [] := by
  simp only [results, List.filterMap_cons, List.filterMap_nil, AppCall.result?]
  split_ifs <;> rfl

/-- Frames of other identifiers have no result for this one. -/
theorem results_eq_nil {calls : List AppCall} (h : ∀ frame ∈ sentFrames calls, frame.cobId ≠ cobId) :
    results cobId calls = [] := by
  apply List.filterMap_eq_nil_iff.mpr
  intro call hcall
  cases call with
  | transmit frame ret mem => exact if_neg (h frame (List.mem_filterMap.mpr ⟨_, hcall, rfl⟩))
  | syncInputs | syncOutputs | postWrite => rfl

end Results

/-! ## Offering a frame -/

section Offer

variable (app)

/-- What `tx_func` returns for a TPDO that is to be sent; `none` while it is inhibited. -/
def offer (tpdo : TpdoState) (payload : Mem → List Byte) (dev : Device ω) : Option ℤ :=
  if 0 < tpdo.inhibitCounterMs.toNat then none
  else
    let dev := dev.syncInputs app
    some (dev.transmit app (dataFrame tpdo.cobId (payload dev.mem))).1

/-- A TPDO once it was offered: sent, it is inhibited. -/
def TpdoState.offered (tpdo : TpdoState) (ret : Option ℤ) : TpdoState :=
  if ret = some 0 then { tpdo with inhibitCounterMs := tpdo.inhibitTimerMs } else tpdo

variable (tpdo : TpdoState) (payload : Mem → List Byte) (dev : Device ω) {cobId : ℕ}

theorem results_calls_transmit (cobId : ℕ) (frame : CanopenFrame) :
    results cobId (dev.transmit app frame).2.calls = results cobId dev.calls ++
      if frame.cobId = cobId then [(dev.transmit app frame).1] else [] := by
  simp only [Device.transmit, results_append, results_transmit]

/-- A TPDO that is to be sent is inhibited if `tx_func` accepts it. -/
theorem tpdo_sendTpdo :
    (sendTpdo app tpdo payload dev).2.1 = tpdo.offered (offer app tpdo payload dev) := by
  unfold sendTpdo offer TpdoState.offered
  by_cases hinhibited : 0 < tpdo.inhibitCounterMs.toNat
  · simp [hinhibited]
  · simp only [if_neg hinhibited, Option.some.injEq]
    split_ifs <;> rfl

/-- What `tx_func` returns for any identifier while a TPDO is to be sent. -/
theorem results_sendTpdo :
    results cobId (sendTpdo app tpdo payload dev).2.2.calls = results cobId dev.calls ++
      if tpdo.cobId = cobId then (offer app tpdo payload dev).toList else [] := by
  unfold sendTpdo offer
  by_cases hinhibited : 0 < tpdo.inhibitCounterMs.toNat
  · simp [hinhibited]
  · have hsync : results cobId (dev.syncInputs app).calls = results cobId dev.calls := by
      simp [Device.syncInputs]
    have hsent := results_calls_transmit app (dev.syncInputs app) cobId
      (dataFrame tpdo.cobId (payload (dev.syncInputs app).mem))
    rw [hsync] at hsent
    simp only [if_neg hinhibited]
    by_cases hret : ((dev.syncInputs app).transmit app
        (dataFrame tpdo.cobId (payload (dev.syncInputs app).mem))).1 = 0
    · rw [if_pos hret]
      exact hsent
    · rw [if_neg hret]
      exact hsent

/-- The other TPDO has no part in it. -/
theorem results_sendTpdo_other (hne : tpdo.cobId ≠ cobId) :
    results cobId (sendTpdo app tpdo payload dev).2.2.calls = results cobId dev.calls := by
  rw [results_sendTpdo, if_neg hne, List.append_nil]

theorem results_sendTpdo_self :
    results tpdo.cobId (sendTpdo app tpdo payload dev).2.2.calls =
      results tpdo.cobId dev.calls ++ (offer app tpdo payload dev).toList := by
  rw [results_sendTpdo, if_pos rfl]

/-- The event timer of a TPDO runs out. -/
def TpdoState.Expires (tpdo : TpdoState) (deltaMs : Long) : Prop :=
  0 < tpdo.eventTimerMs.toNat ∧ tpdo.eventCounterMs.toNat ≤ deltaMs.toNat

instance (tpdo : TpdoState) (deltaMs : Long) : Decidable (tpdo.Expires deltaMs) :=
  inferInstanceAs (Decidable (_ ∧ _))

@[simp]
theorem expires_cooledDown (deltaMs deltaMs' : Long) :
    (tpdo.cooledDown deltaMs).Expires deltaMs' ↔ tpdo.Expires deltaMs' := by
  unfold TpdoState.cooledDown
  split_ifs <;> rfl

variable {tpdo}

/-- A TPDO is offered when its event timer runs out. -/
theorem runEventTimer_of_expires {deltaMs : Long} (h : tpdo.Expires deltaMs) :
    (runEventTimer app tpdo payload deltaMs dev).1.inhibitCounterMs =
        (tpdo.offered (offer app tpdo payload dev)).inhibitCounterMs ∧
      (runEventTimer app tpdo payload deltaMs dev).2 = (sendTpdo app tpdo payload dev).2.2 := by
  unfold runEventTimer
  rw [if_pos h.1, if_pos h.2]
  refine ⟨?_, rfl⟩
  rw [← tpdo_sendTpdo]

/-- While its event timer runs a TPDO is not offered. -/
theorem runEventTimer_of_not_expires {deltaMs : Long} (h : ¬ tpdo.Expires deltaMs) :
    (runEventTimer app tpdo payload deltaMs dev).1.inhibitCounterMs = tpdo.inhibitCounterMs ∧
      (runEventTimer app tpdo payload deltaMs dev).2 = dev := by
  unfold runEventTimer
  by_cases htimer : 0 < tpdo.eventTimerMs.toNat
  · rw [if_pos htimer, if_neg fun hover => h ⟨htimer, hover⟩]
    exact ⟨rfl, rfl⟩
  · rw [if_neg htimer]
    exact ⟨rfl, rfl⟩

end Offer

/-! ## The specification -/

/-- A TPDO as a call prepares it. -/
def preparedTpdo (k : TpdoNumber) (input : NodeInput) (node : CanopenNode) : TpdoState :=
  match input with
  | .process deltaMs => (node.pdo.tpdo k).cooledDown deltaMs
  | input =>
      if input.isSync = true ∧ node.isOperational = true then (node.pdo.tpdo k).released
      else node.pdo.tpdo k

/-- Other calls than `canopen_process` prepare a TPDO for a SYNC frame at most. -/
theorem preparedTpdo_eq {k : TpdoNumber} {input : NodeInput} (node : CanopenNode)
    (hprocess : ∀ deltaMs, input ≠ .process deltaMs) :
    preparedTpdo k input node =
      if input.isSync = true ∧ node.isOperational = true then (node.pdo.tpdo k).released
      else node.pdo.tpdo k := by
  cases input with
  | process deltaMs => exact absurd rfl (hprocess deltaMs)
  | _ => rfl

/-- The call comes to offer the TPDO. -/
def Offers (k : TpdoNumber) (input : NodeInput) (node : CanopenNode) : Prop :=
  node.nmt.state = .operational ∧
    match input with
    | .process deltaMs => (node.pdo.tpdo k).Expires deltaMs
    | input => input.isSync = true ∨ input.Triggers k

variable (app) in
/-- The device as a call has it when it comes to the TPDO. -/
def deviceBefore (k : TpdoNumber) (input : NodeInput) (s : System ω) : Device ω :=
  match input, k with
  | .process deltaMs, .one => (canopenNmtProcess app s.node.nmt deltaMs s.dev).2
  | .process deltaMs, .two =>
      (runEventTimer app (s.node.pdo.tpdo1.cooledDown deltaMs) (tpdo1Data s.node.pdo.vars) deltaMs
        (canopenNmtProcess app s.node.nmt deltaMs s.dev).2).2
  | .rxFrame _ _, .two =>
      (sendTpdo app s.node.pdo.tpdo1.released (tpdo1Data s.node.pdo.vars) s.dev).2.2
  | _, _ => s.dev

variable (app) in
/-- What `tx_func` returns for the TPDO if the call offers it; `none` while it is inhibited. -/
def answer (k : TpdoNumber) (input : NodeInput) (s : System ω) : Option ℤ :=
  offer app (preparedTpdo k input s.node) (tpdoData s.node.pdo.vars k) (deviceBefore app k input s)

/-- What a call does to a TPDO: what `tx_func` returned for it, and its inhibit counter. -/
structure TpdoSpec (app : Application ω) (k : TpdoNumber) (input : NodeInput) (s s' : System ω) :
    Prop where
  sent : Offers k input s.node →
    results (s.node.pdo.tpdo k).cobId s'.dev.calls = (answer app k input s).toList ∧
      (s'.node.pdo.tpdo k).inhibitCounterMs =
        ((preparedTpdo k input s.node).offered (answer app k input s)).inhibitCounterMs
  quiet : ¬ Offers k input s.node →
    results (s.node.pdo.tpdo k).cobId s'.dev.calls = [] ∧
      (s'.node.pdo.tpdo k).inhibitCounterMs = (preparedTpdo k input s.node).inhibitCounterMs

/-! ## The entry points of the engine -/

section Engine

variable {s : System ω} {nodeId : Byte} {od : CanopenOd}

/-- The identifier of a TPDO. -/
theorem tpdo_cobId (h : s.node.Configured nodeId od) (k : TpdoNumber) :
    (s.node.pdo.tpdo k).cobId = k.base + nodeId.toNat := by
  cases k with
  | one => exact congrArg (·.tpdo1.cobId) h.pdo_config
  | two => exact congrArg (·.tpdo2.cobId) h.pdo_config

/-- The identifiers of the TPDOs differ. -/
theorem tpdo_cobId_ne (h : s.node.Configured nodeId od) {k k' : TpdoNumber} (hne : k ≠ k') :
    (s.node.pdo.tpdo k).cobId ≠ (s.node.pdo.tpdo k').cobId := by
  have hbase : k.base ≠ k'.base := by
    revert hne
    cases k <;> cases k' <;> decide
  rw [tpdo_cobId h, tpdo_cobId h]
  omega

/-- The heartbeat has another identifier than a TPDO. -/
theorem tpdo_cobId_ne_heartbeat (h : s.node.Configured nodeId od) (k : TpdoNumber) :
    s.node.nmt.cobId ≠ (s.node.pdo.tpdo k).cobId := by
  have hhigh := h.high
  rw [tpdo_cobId h, Nmt.cobId, h.nmtNodeId_eq, h.nodeId_eq]
  cases k with
  | one | two =>
      simp only [TpdoNumber.base, cobTpdo1Base, cobTpdo2Base, cobHeartbeatBase]
      omega

/-- Whatever heartbeat a call sends, it is no TPDO. -/
theorem HeartbeatKept.results_eq (h : s.node.Configured nodeId od) {nmt : Nmt} {dev : Device ω}
    (beat : HeartbeatKept app s.node.nmt nmt s.dev dev) (k : TpdoNumber) :
    results (s.node.pdo.tpdo k).cobId dev.calls = results (s.node.pdo.tpdo k).cobId s.dev.calls := by
  rcases beat.device with rfl | rfl
  · rfl
  · rw [Device.send, results_calls_transmit]
    exact (congrArg _ (if_neg (tpdo_cobId_ne_heartbeat h k))).trans (List.append_nil _)

/-- A call that prepares a TPDO for nothing and leaves it alone. -/
theorem TpdoSpec.of_alone {k : TpdoNumber} {input : NodeInput} {s' : System ω}
    (hoffers : ¬ Offers k input s.node)
    (hresults : results (s.node.pdo.tpdo k).cobId s'.dev.calls = [])
    (hpdo : (s'.node.pdo.tpdo k).inhibitCounterMs = (preparedTpdo k input s.node).inhibitCounterMs) :
    TpdoSpec app k input s s' :=
  ⟨fun h => absurd h hoffers, fun _ => ⟨hresults, hpdo⟩⟩

/-- A trigger prepares nothing. -/
theorem preparedTpdo_trigger {k' : TpdoNumber} {input : NodeInput} (htriggers : input.Triggers k')
    (k : TpdoNumber) (node : CanopenNode) : preparedTpdo k input node = node.pdo.tpdo k := by
  cases k' <;> cases htriggers <;> simp [preparedTpdo, NodeInput.isSync]

/-- A trigger in the operational state offers its TPDO and leaves the other alone. -/
theorem tpdoSpec_of_sent (app : Application ω) (h : s.node.Configured nodeId od)
    (hcalls : s.dev.calls = []) (hop : s.node.nmt.state = .operational) {k' : TpdoNumber}
    {input : NodeInput} (htriggers : input.Triggers k') {s' : System ω}
    (hdev : s'.dev = (sendTpdo app (s.node.pdo.tpdo k') (tpdoData s.node.pdo.vars k') s.dev).2.2)
    (hsent : s'.node.pdo.tpdo k' =
      (sendTpdo app (s.node.pdo.tpdo k') (tpdoData s.node.pdo.vars k') s.dev).2.1)
    (hother : ∀ k ≠ k', s'.node.pdo.tpdo k = s.node.pdo.tpdo k) (k : TpdoNumber) :
    TpdoSpec app k input s s' := by
  have hprepared := preparedTpdo_trigger htriggers k s.node
  have hdevice : deviceBefore app k' input s = s.dev := by
    cases k' <;> cases htriggers <;> rfl
  by_cases hk : k = k'
  · subst hk
    have hoffers : Offers k input s.node := by
      cases k <;> cases htriggers <;> exact ⟨hop, .inr rfl⟩
    refine ⟨fun _ => ?_, fun hnot => absurd hoffers hnot⟩
    rw [answer, hprepared, hdevice, hdev, hsent, results_sendTpdo_self, tpdo_sendTpdo, hcalls]
    exact ⟨List.nil_append _, rfl⟩
  · have hoffers : ¬ Offers k input s.node := by
      rintro ⟨-, hoffered⟩
      have htriggered : input.Triggers k := by
        cases k' <;> cases htriggers <;> exact hoffered.resolve_left Bool.false_ne_true
      exact hk (htriggered.unique htriggers)
    refine .of_alone hoffers ?_ ?_
    · rw [hdev, results_sendTpdo_other app _ _ _ (tpdo_cobId_ne h (Ne.symm hk)), hcalls,
        results_nil]
    · rw [hother k hk, hprepared]

/-- Outside the operational state a trigger does nothing. -/
theorem tpdoSpec_trigger_ignored (hcalls : s.dev.calls = []) (hop : ¬ s.node.isOperational = true)
    {k' : TpdoNumber} {input : NodeInput} (htriggers : input.Triggers k') (k : TpdoNumber) :
    TpdoSpec app k input s s := by
  refine .of_alone (fun hoffers => hop ?_) (by rw [hcalls, results_nil]) ?_
  · exact CanopenNode.isOperational_eq_true.mpr hoffers.1
  · rw [preparedTpdo_trigger htriggers]

theorem tpdoSpec_trigger1 (app : Application ω) (h : s.node.Configured nodeId od)
    (hcalls : s.dev.calls = []) (k : TpdoNumber) :
    TpdoSpec app k .triggerTpdo1 s (canopenTriggerTpdo1 app s) := by
  have htriggers : NodeInput.triggerTpdo1.Triggers .one := rfl
  unfold canopenTriggerTpdo1
  by_cases hop : s.node.isOperational = true
  · rw [if_pos hop]
    apply tpdoSpec_of_sent app h hcalls (CanopenNode.isOperational_eq_true.mp hop) htriggers rfl rfl
    intro k hk
    cases k with
    | one => exact absurd rfl hk
    | two => rfl
  · rw [if_neg hop]
    exact tpdoSpec_trigger_ignored hcalls hop htriggers k

theorem tpdoSpec_trigger2 (app : Application ω) (h : s.node.Configured nodeId od)
    (hcalls : s.dev.calls = []) (k : TpdoNumber) :
    TpdoSpec app k .triggerTpdo2 s (canopenTriggerTpdo2 app s) := by
  have htriggers : NodeInput.triggerTpdo2.Triggers .two := rfl
  unfold canopenTriggerTpdo2
  by_cases hop : s.node.isOperational = true
  · rw [if_pos hop]
    apply tpdoSpec_of_sent app h hcalls (CanopenNode.isOperational_eq_true.mp hop) htriggers rfl rfl
    intro k hk
    cases k with
    | one => rfl
    | two => exact absurd rfl hk
  · rw [if_neg hop]
    exact tpdoSpec_trigger_ignored hcalls hop htriggers k

/-- A SYNC frame releases both TPDOs and offers them, TPDO1 first. -/
theorem tpdoSpec_sync (app : Application ω) (h : s.node.Configured nodeId od)
    (hcalls : s.dev.calls = []) (k : TpdoNumber) (data : List Byte) :
    TpdoSpec app k (.rxFrame cobSync (some data)) s (rxPayload app cobSync data s).2 := by
  have hne : s.node.pdo.tpdo1.cobId ≠ s.node.pdo.tpdo2.cobId :=
    tpdo_cobId_ne h (show TpdoNumber.one ≠ .two by decide)
  have hsync : (NodeInput.rxFrame cobSync (some data)).isSync = true := rfl
  rw [rxPayload, if_neg (by decide), if_pos rfl]
  by_cases hop : s.node.isOperational = true
  · have hoffers : Offers k (.rxFrame cobSync (some data)) s.node :=
      ⟨CanopenNode.isOperational_eq_true.mp hop, .inl hsync⟩
    have hprepared : preparedTpdo k (.rxFrame cobSync (some data)) s.node =
        (s.node.pdo.tpdo k).released := if_pos ⟨hsync, hop⟩
    refine ⟨fun _ => ?_, fun hnot => absurd hoffers hnot⟩
    rw [answer, hprepared, hop]
    have hself1 := results_sendTpdo_self app s.node.pdo.tpdo1.released
      (tpdo1Data s.node.pdo.vars) s.dev
    have hother1 := results_sendTpdo_other app s.node.pdo.tpdo1.released
      (tpdo1Data s.node.pdo.vars) s.dev hne
    cases k with
    | one =>
        constructor
        · rw [hcalls, results_nil, List.nil_append] at hself1
          exact (results_sendTpdo_other app s.node.pdo.tpdo2.released (tpdo2Data s.node.pdo.vars) _
            hne.symm).trans hself1
        · exact congrArg _ (tpdo_sendTpdo app _ _ _)
    | two =>
        constructor
        · have hself := results_sendTpdo_self app s.node.pdo.tpdo2.released
            (tpdo2Data s.node.pdo.vars)
            (sendTpdo app s.node.pdo.tpdo1.released (tpdo1Data s.node.pdo.vars) s.dev).2.2
          rw [show s.node.pdo.tpdo2.released.cobId = s.node.pdo.tpdo2.cobId from rfl, hother1,
            hcalls, results_nil, List.nil_append] at hself
          exact hself
        · exact congrArg _ (tpdo_sendTpdo app _ _ _)
  · have hprepared : preparedTpdo k (.rxFrame cobSync (some data)) s.node = s.node.pdo.tpdo k :=
      if_neg fun hboth => hop hboth.2
    rw [Bool.eq_false_iff.mpr hop]
    refine .of_alone (fun hoffers => hop ?_) ?_ ?_
    · exact CanopenNode.isOperational_eq_true.mpr hoffers.1
    · exact (congrArg _ hcalls).trans results_nil
    · rw [hprepared]
      rfl

@[simp]
theorem cobId_cooledDown (tpdo : TpdoState) (deltaMs : Long) :
    (tpdo.cooledDown deltaMs).cobId = tpdo.cobId :=
  congrArg TpdoConfig.cobId (tpdo.config_cooledDown deltaMs)

/-- What the event timer of a TPDO does in `canopen_process`. -/
theorem runEventTimer_cooledDown (app : Application ω) (tpdo : TpdoState)
    (payload : Mem → List Byte) (deltaMs : Long) (dev : Device ω) :
    (tpdo.Expires deltaMs →
      (runEventTimer app (tpdo.cooledDown deltaMs) payload deltaMs dev).1.inhibitCounterMs =
          ((tpdo.cooledDown deltaMs).offered
            (offer app (tpdo.cooledDown deltaMs) payload dev)).inhibitCounterMs ∧
        results tpdo.cobId
            (runEventTimer app (tpdo.cooledDown deltaMs) payload deltaMs dev).2.calls =
          results tpdo.cobId dev.calls ++
            (offer app (tpdo.cooledDown deltaMs) payload dev).toList) ∧
    (¬ tpdo.Expires deltaMs →
      (runEventTimer app (tpdo.cooledDown deltaMs) payload deltaMs dev).1.inhibitCounterMs =
          (tpdo.cooledDown deltaMs).inhibitCounterMs ∧
        results tpdo.cobId
            (runEventTimer app (tpdo.cooledDown deltaMs) payload deltaMs dev).2.calls =
          results tpdo.cobId dev.calls) := by
  constructor
  · intro hexpires
    obtain ⟨hinhibit, hdev⟩ := runEventTimer_of_expires app payload dev
      ((expires_cooledDown tpdo deltaMs deltaMs).mpr hexpires)
    have hself := results_sendTpdo_self app (tpdo.cooledDown deltaMs) payload dev
    rw [cobId_cooledDown] at hself
    exact ⟨hinhibit, by rw [hdev, hself]⟩
  · intro hexpires
    obtain ⟨hinhibit, hdev⟩ := runEventTimer_of_not_expires app payload dev
      (mt (expires_cooledDown tpdo deltaMs deltaMs).mp hexpires)
    exact ⟨hinhibit, by rw [hdev]⟩

/-- The event timer of the other TPDO has no part in it. -/
theorem results_eventTimer_other (app : Application ω) (tpdo : TpdoState)
    (payload : Mem → List Byte) (deltaMs : Long) (dev : Device ω) {cobId : ℕ}
    (hne : tpdo.cobId ≠ cobId) :
    results cobId (runEventTimer app (tpdo.cooledDown deltaMs) payload deltaMs dev).2.calls =
      results cobId dev.calls := by
  by_cases hexpires : (tpdo.cooledDown deltaMs).Expires deltaMs
  · rw [(runEventTimer_of_expires app payload dev hexpires).2]
    exact results_sendTpdo_other app _ payload dev (by rwa [cobId_cooledDown])
  · rw [(runEventTimer_of_not_expires app payload dev hexpires).2]

/-- `canopen_process` lets the heartbeat producer run and then the engine, in the
state the node had. -/
theorem canopenProcess_eq (app : Application ω) (s : System ω) (deltaMs : Long) :
    canopenProcess app deltaMs s =
      ⟨{ s.node with
          nmt := (canopenNmtProcess app s.node.nmt deltaMs s.dev).1
          pdo := (canopenPdoProcess app s.node.pdo deltaMs s.node.isOperational
            (canopenNmtProcess app s.node.nmt deltaMs s.dev).2).1 },
        (canopenPdoProcess app s.node.pdo deltaMs s.node.isOperational
          (canopenNmtProcess app s.node.nmt deltaMs s.dev).2).2⟩ := by
  have hstate := (canopenNmtProcess_kept app s.node.nmt deltaMs s.dev).state
  simp only [canopenProcess, CanopenNode.isOperational, hstate]

/-- `canopen_process` cools both TPDOs down, and offers those whose event timers run
out, TPDO1 first. -/
theorem tpdoSpec_process (app : Application ω) (h : s.node.Configured nodeId od)
    (hcalls : s.dev.calls = []) (k : TpdoNumber) (deltaMs : Long) :
    TpdoSpec app k (.process deltaMs) s (canopenProcess app deltaMs s) := by
  have hne : s.node.pdo.tpdo1.cobId ≠ s.node.pdo.tpdo2.cobId :=
    tpdo_cobId_ne h (show TpdoNumber.one ≠ .two by decide)
  have hsilent := (canopenNmtProcess_kept app s.node.nmt deltaMs s.dev).results_eq h k
  rw [hcalls, results_nil] at hsilent
  rw [canopenProcess_eq]
  by_cases hop : s.node.isOperational = true
  · have hoffers : Offers k (.process deltaMs) s.node ↔ (s.node.pdo.tpdo k).Expires deltaMs :=
      and_iff_right (CanopenNode.isOperational_eq_true.mp hop)
    rw [hop]
    cases k with
    | one =>
        obtain ⟨hsent, hquiet⟩ := runEventTimer_cooledDown app s.node.pdo.tpdo1
          (tpdo1Data s.node.pdo.vars) deltaMs (canopenNmtProcess app s.node.nmt deltaMs s.dev).2
        have hother := results_eventTimer_other app s.node.pdo.tpdo2 (tpdo2Data s.node.pdo.vars)
          deltaMs (runEventTimer app (s.node.pdo.tpdo1.cooledDown deltaMs)
            (tpdo1Data s.node.pdo.vars) deltaMs
            (canopenNmtProcess app s.node.nmt deltaMs s.dev).2).2 hne.symm
        constructor
        · intro hexpires
          obtain ⟨hinhibit, hresults⟩ := hsent (hoffers.mp hexpires)
          refine ⟨?_, hinhibit⟩
          exact hother.trans (hresults.trans ((congrArg (· ++ _) hsilent).trans (List.nil_append _)))
        · intro hexpires
          obtain ⟨hinhibit, hresults⟩ := hquiet (mt hoffers.mpr hexpires)
          exact ⟨hother.trans (hresults.trans hsilent), hinhibit⟩
    | two =>
        obtain ⟨hsent, hquiet⟩ := runEventTimer_cooledDown app s.node.pdo.tpdo2
          (tpdo2Data s.node.pdo.vars) deltaMs
          (runEventTimer app (s.node.pdo.tpdo1.cooledDown deltaMs) (tpdo1Data s.node.pdo.vars)
            deltaMs (canopenNmtProcess app s.node.nmt deltaMs s.dev).2).2
        have hother := results_eventTimer_other app s.node.pdo.tpdo1 (tpdo1Data s.node.pdo.vars)
          deltaMs (canopenNmtProcess app s.node.nmt deltaMs s.dev).2 hne
        have hbefore := hother.trans hsilent
        constructor
        · intro hexpires
          obtain ⟨hinhibit, hresults⟩ := hsent (hoffers.mp hexpires)
          refine ⟨?_, hinhibit⟩
          exact hresults.trans ((congrArg (· ++ _) hbefore).trans (List.nil_append _))
        · intro hexpires
          obtain ⟨hinhibit, hresults⟩ := hquiet (mt hoffers.mpr hexpires)
          exact ⟨hresults.trans hbefore, hinhibit⟩
  · have hnot : ¬ Offers k (.process deltaMs) s.node := fun hoffers =>
      hop (CanopenNode.isOperational_eq_true.mpr hoffers.1)
    rw [Bool.eq_false_iff.mpr hop]
    refine .of_alone hnot hsilent ?_
    cases k with
    | one | two => rfl

/-- A frame other than SYNC leaves the engine alone. -/
theorem NodeStep.engine_alone (h : s.node.Configured nodeId od) {s' : System ω} {cobId : ℕ}
    {data : Option (List Byte)} (hstep : NodeStep app s (.rxFrame cobId data) s')
    (hcalls : s.dev.calls = []) (hsync : cobId ≠ cobSync) (k : TpdoNumber) :
    s'.node.pdo = s.node.pdo ∧ results (s.node.pdo.tpdo k).cobId s'.dev.calls = [] := by
  refine ⟨?_, results_eq_nil fun frame hframe => ?_⟩
  · cases hstep with
    | engines _ _ _ _ _ inner => exact absurd (inner cobId data rfl) hsync
    | _ => rfl
  · have hhigh := h.high
    have hother : frame.cobId = s.node.nmt.cobId ∨ frame.cobId = s.node.sdo.cobId := by
      cases hstep with
      | reset =>
          simp only [Device.calls_send, hcalls, List.nil_append, sentFrames_transmit,
            List.mem_singleton] at hframe
          exact .inl (congrArg CanopenFrame.cobId hframe)
      | engines _ _ _ _ _ inner => exact absurd (inner cobId data rfl) hsync
      | sdo _ _ _ _ _ step =>
          obtain ⟨payload, rfl⟩ := step.sent hcalls hframe
          exact .inr rfl
      | rpdo1 => simp [Device.syncOutputs, storeRpdo1, Device.store, hcalls] at hframe
      | rpdo2 => simp [Device.syncOutputs, storeRpdo2, Device.store, hcalls] at hframe
      | _ => simp [hcalls] at hframe
    rcases hother with hcob | hcob
    · rw [hcob]
      exact tpdo_cobId_ne_heartbeat h k
    · rw [hcob, tpdo_cobId h, SdoServer.cobId, h.sdoNodeId_eq]
      cases k with
      | one | two =>
          simp only [TpdoNumber.base, cobTpdo1Base, cobTpdo2Base, cobTsdoBase]
          omega

/-- A call that has nothing to do with the engine leaves a TPDO as it is. -/
theorem tpdoSpec_of_pdo_eq {k : TpdoNumber} {input : NodeInput} {s' : System ω}
    (hprocess : ∀ deltaMs, input ≠ .process deltaMs) (hsync : input.isSync = false)
    (htriggers : ¬ input.Triggers k) (hpdo : s'.node.pdo = s.node.pdo)
    (hresults : results (s.node.pdo.tpdo k).cobId s'.dev.calls = []) :
    TpdoSpec app k input s s' := by
  have hoffers : ¬ Offers k input s.node := by
    cases input with
    | process deltaMs => exact absurd rfl (hprocess deltaMs)
    | _ => simp [Offers, hsync, htriggers]
  have hprepared : preparedTpdo k input s.node = s.node.pdo.tpdo k := by
    rw [preparedTpdo_eq s.node hprocess, hsync]
    exact if_neg fun hboth => by cases hboth.1
  exact .of_alone hoffers hresults (by rw [hpdo, hprepared])

theorem not_triggers_rxFrame (k : TpdoNumber) (cobId : ℕ) (data : Option (List Byte)) :
    ¬ (NodeInput.rxFrame cobId data).Triggers k := by
  cases k <;> exact fun h => by cases h

/-- A received frame keeps to the specification. -/
theorem tpdoSpec_rxFrame (app : Application ω) (h : s.node.Configured nodeId od)
    (hcalls : s.dev.calls = []) (k : TpdoNumber) (cobId : ℕ) (data : Option (List Byte)) :
    TpdoSpec app k (.rxFrame cobId data) s (canopenRxFrame app cobId data s).2 := by
  have hprocess : ∀ deltaMs, NodeInput.rxFrame cobId data ≠ .process deltaMs :=
    fun _ heq => by cases heq
  have htriggers := not_triggers_rxFrame k cobId data
  cases data with
  | none => exact tpdoSpec_of_pdo_eq hprocess rfl htriggers rfl (by simp [canopenRxFrame, hcalls])
  | some data =>
      by_cases hsync : cobId = cobSync
      · rw [hsync]
        exact tpdoSpec_sync app h hcalls k data
      · obtain ⟨hpdo, hresults⟩ := (nodeStep_rxPayload app s cobId data).engine_alone h hcalls hsync k
        exact tpdoSpec_of_pdo_eq hprocess (decide_eq_false hsync) htriggers hpdo hresults

/-- Every call keeps to the specification of either TPDO. -/
theorem tpdoSpec_enter (app : Application ω) (h : s.node.Configured nodeId od)
    (hcalls : s.dev.calls = []) (k : TpdoNumber) (input : NodeInput) :
    TpdoSpec app k input s (enter app input s) := by
  have hnone : results (s.node.pdo.tpdo k).cobId s.dev.calls = [] := by rw [hcalls, results_nil]
  cases input with
  | rxFrame cobId data => exact tpdoSpec_rxFrame app h hcalls k cobId data
  | process deltaMs => exact tpdoSpec_process app h hcalls k deltaMs
  | triggerTpdo1 => exact tpdoSpec_trigger1 app h hcalls k
  | triggerTpdo2 => exact tpdoSpec_trigger2 app h hcalls k
  | setNmtState | setDigitalInputs | setAnalogInput =>
      refine tpdoSpec_of_pdo_eq (fun _ heq => by cases heq) rfl ?_ rfl hnone
      cases k <;> exact fun htriggers => by cases htriggers

/-- The specification of a call that is observed. -/
theorem tpdoSpec_nodeStep (app : Application ω) (h : s.node.Configured nodeId od) (k : TpdoNumber)
    (input : NodeInput) : TpdoSpec app k input s.unrecorded (nodeStep app input s).2 :=
  tpdoSpec_enter app (s := s.unrecorded) h rfl k input

end Engine

end AutomationBoard.Canopen
