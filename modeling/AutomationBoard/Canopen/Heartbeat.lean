/-
# Heartbeats on time

`canopen_nmt.c` on its own, from `canopen_nmt_init` on. The producer counts its
timer down and an observer counts the time since the last heartbeat, initialisation
or executed reset up; the two always make up the period, so the producer sends
exactly when the observer says that the period is over.
-/

import AutomationBoard.Canopen.Reset
import AutomationBoard.Program.Timeline

namespace AutomationBoard.Canopen

open AutomationBoard.Program

variable {ω : Type}

/-! ## Calls -/

/-- A call of the NMT module. A null pointer for a command is `none`. -/
inductive NmtInput
  | process (deltaMs : Long)
  | rxCommand (data : Option (List Byte))
  | setState (newState : NmtState)

/-- The context and the device after a call. -/
def nmtEnter (app : Application ω) (input : NmtInput) (nmt : Nmt) (dev : Device ω) :
    Nmt × Device ω :=
  match input with
  | .process deltaMs => canopenNmtProcess app nmt deltaMs dev
  | .rxCommand none => (nmt, dev)
  | .rxCommand (some data) => (canopenNmtRxCommand app nmt data dev).2
  | .setState newState => (canopenNmtSetState nmt newState, dev)

instance (nodeId : Byte) : (input : NodeInput) → Decidable (IsReset nodeId input)
  | .rxFrame _ (some _) => inferInstanceAs (Decidable (_ ∧ _))
  | .rxFrame _ none | .process _ | .triggerTpdo1 | .triggerTpdo2 | .setNmtState _
  | .setDigitalInputs _ | .setAnalogInput _ _ => isFalse id

/-- The call hands over a reset command that the node executes. -/
def NmtInput.ExecutesReset (nodeId : Byte) : NmtInput → Prop
  | .rxCommand (some data) => IsReset nodeId (.rxFrame cobNmt (some data))
  | _ => False

instance (nodeId : Byte) : (input : NmtInput) → Decidable (input.ExecutesReset nodeId)
  | .rxCommand (some data) =>
      inferInstanceAs (Decidable (IsReset nodeId (.rxFrame cobNmt (some data))))
  | .rxCommand none | .process _ | .setState _ => isFalse id

/-! ## The observer -/

/-- The context with the device, and the time that the observer has counted. -/
structure NmtLine (ω : Type) where
  nmt : Nmt
  dev : Device ω
  sinceMs : ℕ

/-- The time after a call: it starts again at a heartbeat and at an executed reset. -/
def observedMs (nodeId : Byte) (input : NmtInput) (calls : List AppCall) (sinceMs : ℕ) : ℕ :=
  match input with
  | .process deltaMs => if sentFrames calls = [] then sinceMs + deltaMs.toNat else 0
  | input => if input.ExecutesReset nodeId then 0 else sinceMs

/-- One call, observed: the calls of the application that it makes, and what it leaves. -/
def nmtStep (app : Application ω) (input : NmtInput) (s : NmtLine ω) :
    List AppCall × NmtLine ω :=
  let r := nmtEnter app input s.nmt { s.dev with calls := [] }
  (r.2.calls, ⟨r.1, r.2, observedMs s.nmt.nodeId input r.2.calls s.sinceMs⟩)

/-- The module as `canopen_nmt_init` leaves it. -/
def nmtStart (app : Application ω) (nodeId : Byte) (periodMs : Word) (dev : Device ω) :
    NmtLine ω :=
  let r := canopenNmtInit app nodeId periodMs dev
  ⟨r.1, r.2, 0⟩

/-- A call of `canopen_nmt_process` sends a heartbeat with the state of the node
exactly if the period is over, and no other call sends one; the timer is lowered
without a wrap, and stays in its range. -/
structure HeartbeatOnTime (nodeId : Byte) (periodMs : Word) (s : NmtLine ω) (input : NmtInput)
    (calls : List AppCall) (s' : NmtLine ω) : Prop where
  beat : ∀ deltaMs, input = .process deltaMs → sentFrames calls =
    if periodMs.toNat ≤ s.sinceMs + deltaMs.toNat then
      [dataFrame (cobHeartbeatBase + nodeId.toNat) [s.nmt.state.code]]
    else []
  others : (∀ deltaMs, input ≠ .process deltaMs) → sentFrames calls =
    if input.ExecutesReset nodeId then [dataFrame (cobHeartbeatBase + nodeId.toNat) [0x00]] else []
  lowered : ∀ deltaMs, input = .process deltaMs → sentFrames calls = [] →
    s'.nmt.heartbeatTimerMs.toNat + deltaMs.toNat = s.nmt.heartbeatTimerMs.toNat
  low : 1 ≤ s'.nmt.heartbeatTimerMs.toNat
  high : s'.nmt.heartbeatTimerMs.toNat ≤ periodMs.toNat

/-! ## What each call does -/

theorem NmtCommand.code_of_ofByte {b : Byte} {command : NmtCommand}
    (h : NmtCommand.ofByte b = some command) : b = command.code := by
  rw [NmtCommand.ofByte] at h
  have hfound := List.find?_some h
  exact (beq_iff_eq.mp hfound).symm

/-- Another command than an executed reset changes the state at most. -/
theorem canopenNmtRxCommand_other (app : Application ω) {nmt : Nmt} {data : List Byte}
    (dev : Device ω) (h : ¬ IsReset nmt.nodeId (.rxFrame cobNmt (some data))) :
    ∃ state, (canopenNmtRxCommand app nmt data dev).2 = ({ nmt with state := state }, dev) := by
  simp only [canopenNmtRxCommand]
  by_cases hlen : data.length < 2
  · rw [if_pos hlen]
    exact ⟨nmt.state, rfl⟩
  rw [if_neg hlen]
  by_cases htarget : dataAt data 1 ≠ 0 ∧ dataAt data 1 ≠ nmt.nodeId
  · rw [if_pos htarget]
    exact ⟨nmt.state, rfl⟩
  rw [if_neg htarget]
  have hnot : ∀ command, NmtCommand.ofByte (dataAt data 0) = some command →
      command ≠ .resetNode ∧ command ≠ .resetCommunication := by
    intro command hcommand
    have hcode := NmtCommand.code_of_ofByte hcommand
    have haddressed : dataAt data 1 = 0 ∨ dataAt data 1 = nmt.nodeId := by
      rw [not_and_or, not_ne_iff, not_ne_iff] at htarget
      exact htarget
    constructor
    · rintro rfl
      exact h ⟨rfl, Nat.not_lt.mp hlen, .inl hcode, haddressed⟩
    · rintro rfl
      exact h ⟨rfl, Nat.not_lt.mp hlen, .inr hcode, haddressed⟩
  cases hcommand : NmtCommand.ofByte (dataAt data 0) with
  | none => exact ⟨nmt.state, rfl⟩
  | some command =>
      cases command with
      | startNode => exact ⟨.operational, rfl⟩
      | stopNode => exact ⟨.stopped, rfl⟩
      | enterPreOperational => exact ⟨.preOperational, rfl⟩
      | resetNode => exact absurd rfl (hnot _ hcommand).1
      | resetCommunication => exact absurd rfl (hnot _ hcommand).2

section Step

variable {app : Application ω} {nodeId : Byte} {periodMs : Word} {s : NmtLine ω}

/-- The timer and the time of the observer make up the period. -/
structure Counting (nodeId : Byte) (periodMs : Word) (s : NmtLine ω) : Prop where
  nodeId_eq : s.nmt.nodeId = nodeId
  period_eq : s.nmt.heartbeatPeriodMs = periodMs
  sum : s.nmt.heartbeatTimerMs.toNat + s.sinceMs = periodMs.toNat
  low : 1 ≤ s.nmt.heartbeatTimerMs.toNat

theorem heartbeatFrame_eq (h : s.nmt.nodeId = nodeId) (payload : Byte) :
    heartbeatFrame s.nmt payload = dataFrame (cobHeartbeatBase + nodeId.toNat) [payload] := by
  rw [heartbeatFrame, Nmt.cobId, h]

theorem Counting.period_ne_zero (h : Counting nodeId periodMs s) :
    s.nmt.heartbeatPeriodMs ≠ 0 := by
  intro hzero
  have hperiod : periodMs.toNat = 0 := by rw [← h.period_eq, hzero]; rfl
  have hsum := h.sum
  have hlow := h.low
  omega

/-- A call that finds the period over. -/
theorem nmtStep_over (app : Application ω) (h : Counting nodeId periodMs s) {deltaMs : Long}
    (hover : s.nmt.heartbeatTimerMs.toNat ≤ deltaMs.toNat) :
    sentFrames (nmtStep app (.process deltaMs) s).1 =
        [dataFrame (cobHeartbeatBase + nodeId.toNat) [s.nmt.state.code]] ∧
      (nmtStep app (.process deltaMs) s).2.nmt = s.nmt.timerFull ∧
      (nmtStep app (.process deltaMs) s).2.sinceMs = 0 := by
  rw [← heartbeatFrame_eq h.nodeId_eq]
  simp only [nmtStep, nmtEnter, canopenNmtProcess, if_neg h.period_ne_zero, if_pos hover,
    Device.calls_send, List.nil_append, sentFrames_transmit, observedMs, List.cons_ne_nil, if_false,
    and_self]

/-- A call that finds the period still running. -/
theorem nmtStep_running (app : Application ω) (h : Counting nodeId periodMs s) {deltaMs : Long}
    (hrunning : deltaMs.toNat < s.nmt.heartbeatTimerMs.toNat) :
    sentFrames (nmtStep app (.process deltaMs) s).1 = [] ∧
      (nmtStep app (.process deltaMs) s).2.nmt =
        { s.nmt with heartbeatTimerMs := s.nmt.heartbeatTimerMs - deltaMs.setWidth 16 } ∧
      (nmtStep app (.process deltaMs) s).2.sinceMs = s.sinceMs + deltaMs.toNat := by
  simp only [nmtStep, nmtEnter, canopenNmtProcess, if_neg h.period_ne_zero,
    if_neg (Nat.not_le.mpr hrunning), sentFrames_nil, observedMs, if_true, and_self]

/-- An executed reset. -/
theorem nmtStep_reset (app : Application ω) (h : Counting nodeId periodMs s) {input : NmtInput}
    (hreset : input.ExecutesReset nodeId) :
    sentFrames (nmtStep app input s).1 = [dataFrame (cobHeartbeatBase + nodeId.toNat) [0x00]] ∧
      (nmtStep app input s).2.nmt = { s.nmt with state := .preOperational }.timerFull ∧
      (nmtStep app input s).2.sinceMs = 0 := by
  match input, hreset with
  | .rxCommand (some data), hreset =>
      obtain ⟨-, hlen, hcommand, htarget⟩ := id hreset
      rw [← h.nodeId_eq] at htarget hreset
      rw [← heartbeatFrame_eq h.nodeId_eq]
      simp only [nmtStep, nmtEnter, canopenNmtRxCommand_reset app _ hlen htarget hcommand,
        Device.calls_send, List.nil_append, sentFrames_transmit, observedMs, if_pos hreset, and_self]

/-- Another call changes the state at most. -/
theorem nmtStep_others (app : Application ω) (h : Counting nodeId periodMs s) {input : NmtInput}
    (hprocess : ∀ deltaMs, input ≠ .process deltaMs) (hreset : ¬ input.ExecutesReset nodeId) :
    sentFrames (nmtStep app input s).1 = [] ∧
      (∃ state, (nmtStep app input s).2.nmt = { s.nmt with state := state }) ∧
      (nmtStep app input s).2.sinceMs = s.sinceMs := by
  rw [← h.nodeId_eq] at hreset
  cases input with
  | process deltaMs => exact absurd rfl (hprocess deltaMs)
  | setState newState =>
      refine ⟨rfl, ⟨newState, rfl⟩, ?_⟩
      simp only [nmtStep, observedMs, if_neg hreset]
  | rxCommand data =>
      cases data with
      | none =>
          refine ⟨rfl, ⟨s.nmt.state, rfl⟩, ?_⟩
          simp only [nmtStep, observedMs, if_neg hreset]
      | some data =>
          obtain ⟨state, hstate⟩ := canopenNmtRxCommand_other app { s.dev with calls := [] } hreset
          simp only [nmtStep, nmtEnter, hstate, sentFrames_nil, observedMs, if_neg hreset, and_true,
            true_and]
          exact ⟨state, rfl⟩

/-- The timer is full and the observer starts again. -/
theorem Counting.restarted (h : Counting nodeId periodMs s) {s' : NmtLine ω}
    (hnodeId : s'.nmt.nodeId = s.nmt.nodeId)
    (hperiod : s'.nmt.heartbeatPeriodMs = s.nmt.heartbeatPeriodMs)
    (htimer : s'.nmt.heartbeatTimerMs = s.nmt.heartbeatPeriodMs) (hsince : s'.sinceMs = 0) :
    Counting nodeId periodMs s' where
  nodeId_eq := hnodeId.trans h.nodeId_eq
  period_eq := hperiod.trans h.period_eq
  sum := by rw [htimer, h.period_eq, hsince, Nat.add_zero]
  low := by
    have hsum := h.sum
    have hlow := h.low
    rw [htimer, h.period_eq]
    omega

/-- Every call keeps the count. -/
theorem counting_nmtStep (app : Application ω) (h : Counting nodeId periodMs s)
    (input : NmtInput) : Counting nodeId periodMs (nmtStep app input s).2 := by
  by_cases hprocess : ∃ deltaMs, input = .process deltaMs
  · obtain ⟨deltaMs, rfl⟩ := hprocess
    by_cases hover : s.nmt.heartbeatTimerMs.toNat ≤ deltaMs.toNat
    · obtain ⟨-, hnmt, hsince⟩ := nmtStep_over app h hover
      exact h.restarted (by rw [hnmt]; rfl) (by rw [hnmt]; rfl) (by rw [hnmt]; rfl) hsince
    · have hrunning := Nat.not_le.mp hover
      obtain ⟨-, hnmt, hsince⟩ := nmtStep_running app h hrunning
      have hlowered := toNat_sub_setWidth hrunning
      have hsum := h.sum
      constructor
      · rw [hnmt, h.nodeId_eq]
      · rw [hnmt, h.period_eq]
      · rw [hnmt, hlowered, hsince]
        omega
      · rw [hnmt, hlowered]
        omega
  · rw [not_exists] at hprocess
    by_cases hreset : input.ExecutesReset nodeId
    · obtain ⟨-, hnmt, hsince⟩ := nmtStep_reset app h hreset
      exact h.restarted (by rw [hnmt]; rfl) (by rw [hnmt]; rfl) (by rw [hnmt]; rfl) hsince
    · obtain ⟨-, ⟨state, hnmt⟩, hsince⟩ := nmtStep_others app h hprocess hreset
      constructor
      · rw [hnmt, h.nodeId_eq]
      · rw [hnmt, h.period_eq]
      · rw [hnmt, hsince, h.sum]
      · rw [hnmt]
        exact h.low

/-- Every call sends what is due. -/
theorem heartbeatOnTime_nmtStep (app : Application ω) (h : Counting nodeId periodMs s)
    (input : NmtInput) :
    HeartbeatOnTime nodeId periodMs s input (nmtStep app input s).1 (nmtStep app input s).2 := by
  have hsum := h.sum
  have hnext := counting_nmtStep app h input
  refine ⟨?_, ?_, ?_, hnext.low, (Nat.le_add_right _ _).trans_eq hnext.sum⟩
  · rintro deltaMs rfl
    by_cases hover : s.nmt.heartbeatTimerMs.toNat ≤ deltaMs.toNat
    · rw [(nmtStep_over app h hover).1, if_pos (by omega)]
    · rw [(nmtStep_running app h (Nat.not_le.mp hover)).1, if_neg (by omega)]
  · intro hprocess
    by_cases hreset : input.ExecutesReset nodeId
    · rw [(nmtStep_reset app h hreset).1, if_pos hreset]
    · rw [(nmtStep_others app h hprocess hreset).1, if_neg hreset]
  · rintro deltaMs rfl hsilent
    by_cases hover : s.nmt.heartbeatTimerMs.toNat ≤ deltaMs.toNat
    · rw [(nmtStep_over app h hover).1] at hsilent
      cases hsilent
    · have hrunning := Nat.not_le.mp hover
      rw [(nmtStep_running app h hrunning).2.1, toNat_sub_setWidth hrunning]
      omega

end Step

theorem counting_nmtStart (app : Application ω) (nodeId : Byte) {periodMs : Word}
    (hperiod : periodMs ≠ 0) (dev : Device ω) :
    Counting nodeId periodMs (nmtStart app nodeId periodMs dev) where
  nodeId_eq := rfl
  period_eq := rfl
  sum := rfl
  low := Nat.pos_of_ne_zero fun hzero => hperiod (BitVec.eq_of_toNat_eq hzero)

/-- In every run from `canopen_nmt_init` on, every call sends what is due. -/
theorem nmtRun_heartbeatOnTime (app : Application ω) (nodeId : Byte) {periodMs : Word}
    (hperiod : periodMs ≠ 0) (dev : Device ω) (inputs : List NmtInput) :
    EveryStep (total (nmtStep app)) (HeartbeatOnTime nodeId periodMs)
      (nmtStart app nodeId periodMs dev) inputs := by
  apply everyStep_of_invariant (I := Counting nodeId periodMs)
  · intro s input h
    exact yields_total.mpr ⟨counting_nmtStep app h input, heartbeatOnTime_nmtStep app h input⟩
  · exact counting_nmtStart app nodeId hperiod dev

theorem nmtRun_heartbeatOnTime_reset :
    EveryStep (total (nmtStep weakApplication)) (HeartbeatOnTime 5 1000)
      (nmtStart weakApplication 5 1000 bootDevice)
      [.process 999, .rxCommand (some [0x81, 0x05]), .process 999, .process 1] :=
  nmtRun_heartbeatOnTime weakApplication 5 (by decide) bootDevice _

end AutomationBoard.Canopen
