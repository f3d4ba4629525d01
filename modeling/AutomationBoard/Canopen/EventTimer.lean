/-
# Expiries of the event timer

`canopen_pdo_process` starts the event timer of a TPDO again whether or not the
frame went out. An expiry that finds the TPDO inhibited, or the transmitter
unwilling, is not remembered: the TPDO goes out at the first call that could send it
exactly if by then the whole event time has passed once more.
-/

import AutomationBoard.Canopen.TpdoEngine

namespace AutomationBoard.Canopen

open AutomationBoard.Program

variable {ω : Type}

/-- A call of `canopen_process` of an operational node, as a moment of a TPDO: some
time has passed; its event timer may expire; the TPDO may be sent, if the inhibit
time has run out and `tx_func` accepts its frame; and it may be transmitted. -/
def eventMoments (app : Application ω) (k : TpdoNumber) (s : System ω) (input : NodeInput)
    (calls : List AppCall) : List Moment :=
  match input with
  | .process deltaMs =>
      if s.node.nmt.state = .operational then
        [{ ms := deltaMs.toNat
           due := (s.node.pdo.tpdo k).Expires deltaMs
           possible := answer app k (.process deltaMs) s.unrecorded = some 0
           done := 0 ∈ results (s.node.pdo.tpdo k).cobId calls }]
      else []
  | _ => []

/-- At a moment at which the TPDO could be sent, it is sent exactly if its timer expires. -/
theorem done_iff_due (app : Application ω) {s : System ω} {nodeId : Byte} {od : CanopenOd}
    (h : s.node.Configured nodeId od) (k : TpdoNumber) (input : NodeInput) :
    ∀ moment ∈ eventMoments app k s input (nodeStep app input s).1, moment.possible = true →
      (moment.done = true ↔ moment.due = true) := by
  cases input with
  | process deltaMs =>
      rw [eventMoments]
      split_ifs with hop
      · intro moment hmem hpossible
        rw [List.mem_singleton] at hmem
        subst hmem
        have haccepted := of_decide_eq_true hpossible
        have hspec := tpdoSpec_nodeStep app h k (.process deltaMs)
        by_cases hexpires : (s.node.pdo.tpdo k).Expires deltaMs
        · obtain ⟨hresults, -⟩ := hspec.sent ⟨hop, hexpires⟩
          rw [haccepted] at hresults
          have hsent : results (s.node.pdo.tpdo k).cobId
              (nodeStep app (.process deltaMs) s).1 = [0] := hresults
          simp [hsent, hexpires]
        · obtain ⟨hresults, -⟩ := hspec.quiet fun hoffers => hexpires hoffers.2
          have hsilent : results (s.node.pdo.tpdo k).cobId
              (nodeStep app (.process deltaMs) s).1 = [] := hresults
          simp [hsilent, hexpires]
      · exact fun moment hmem => absurd hmem List.not_mem_nil
  | _ => exact fun moment hmem => absurd hmem List.not_mem_nil

/-! ## The event counter -/

section Counter

variable (app : Application ω) (tpdo : TpdoState) (payload : Mem → List Byte) (deltaMs : Long)
  (dev : Device ω)

@[simp]
theorem eventCounterMs_sendTpdo :
    (sendTpdo app tpdo payload dev).2.1.eventCounterMs = tpdo.eventCounterMs := by
  unfold sendTpdo
  simp only
  split_ifs <;> rfl

theorem eventTimerMs_sendTpdo :
    (sendTpdo app tpdo payload dev).2.1.eventTimerMs = tpdo.eventTimerMs := by
  unfold sendTpdo
  simp only
  split_ifs <;> rfl

theorem eventCounterMs_cooledDown :
    (tpdo.cooledDown deltaMs).eventCounterMs = tpdo.eventCounterMs := by
  unfold TpdoState.cooledDown
  split_ifs <;> rfl

theorem eventTimerMs_cooledDown : (tpdo.cooledDown deltaMs).eventTimerMs = tpdo.eventTimerMs := by
  unfold TpdoState.cooledDown
  split_ifs <;> rfl

/-- A timer that is on starts again when it expires, and counts down until then. -/
theorem eventCounterMs_runEventTimer (hon : 0 < tpdo.eventTimerMs.toNat) :
    (runEventTimer app (tpdo.cooledDown deltaMs) payload deltaMs dev).1.eventCounterMs.toNat =
      if tpdo.Expires deltaMs then tpdo.eventTimerMs.toNat
      else tpdo.eventCounterMs.toNat - deltaMs.toNat := by
  unfold runEventTimer
  rw [eventTimerMs_cooledDown, eventCounterMs_cooledDown, if_pos hon]
  by_cases hover : tpdo.eventCounterMs.toNat ≤ deltaMs.toNat
  · rw [if_pos hover, if_pos ⟨hon, hover⟩]
    exact congrArg BitVec.toNat
      ((eventTimerMs_sendTpdo _ _ _ _).trans (eventTimerMs_cooledDown tpdo deltaMs))
  · rw [if_neg hover, if_neg fun h => hover h.2]
    exact toNat_sub_setWidth (Nat.not_le.mp hover)

end Counter

section Calls

variable {s : System ω} {nodeId : Byte} {od : CanopenOd}

/-- The event timer of a TPDO is on. -/
theorem eventTimerMs_of_configured (h : s.node.Configured nodeId od) (k : TpdoNumber) :
    (s.node.pdo.tpdo k).eventTimerMs = 1000 := by
  cases k with
  | one => exact congrArg (·.tpdo1.eventTimerMs) h.pdo_config
  | two => exact congrArg (·.tpdo2.eventTimerMs) h.pdo_config

/-- What is left of the event time after a call of `canopen_process`. -/
theorem eventCounterMs_process (app : Application ω) (h : s.node.Configured nodeId od)
    (k : TpdoNumber) (deltaMs : Long) :
    ((canopenProcess app deltaMs s).node.pdo.tpdo k).eventCounterMs.toNat =
      if s.node.nmt.state = .operational then
        if (s.node.pdo.tpdo k).Expires deltaMs then (s.node.pdo.tpdo k).eventTimerMs.toNat
        else (s.node.pdo.tpdo k).eventCounterMs.toNat - deltaMs.toNat
      else (s.node.pdo.tpdo k).eventCounterMs.toNat := by
  have hon : 0 < (s.node.pdo.tpdo k).eventTimerMs.toNat := by
    rw [eventTimerMs_of_configured h]
    decide
  rw [canopenProcess_eq]
  by_cases hop : s.node.isOperational = true
  · rw [if_pos (CanopenNode.isOperational_eq_true.mp hop), hop]
    cases k with
    | one | two => exact eventCounterMs_runEventTimer app _ _ _ _ hon
  · rw [if_neg (mt CanopenNode.isOperational_eq_true.mpr hop), Bool.eq_false_iff.mpr hop]
    cases k with
    | one | two => exact congrArg BitVec.toNat (eventCounterMs_cooledDown _ _)

/-- A received frame leaves the event timers alone. -/
theorem eventCounterMs_rxPayload (app : Application ω) (h : s.node.Configured nodeId od)
    (hcalls : s.dev.calls = []) (k : TpdoNumber) (cobId : ℕ) (data : List Byte) :
    ((rxPayload app cobId data s).2.node.pdo.tpdo k).eventCounterMs =
      (s.node.pdo.tpdo k).eventCounterMs := by
  by_cases hsync : cobId = cobSync
  · rw [hsync, rxPayload, if_neg (by decide), if_pos rfl]
    simp only [canopenPdoRxSync]
    split_ifs
    · cases k with
      | one | two => exact eventCounterMs_sendTpdo _ _ _ _
    · rfl
  · rw [((nodeStep_rxPayload app s cobId data).engine_alone h hcalls hsync k).1]

/-- Only `canopen_process` moves the event timers. -/
theorem eventCounterMs_enter (app : Application ω) (h : s.node.Configured nodeId od)
    (hcalls : s.dev.calls = []) (k : TpdoNumber) {input : NodeInput}
    (hother : ∀ deltaMs, input ≠ .process deltaMs) :
    ((enter app input s).node.pdo.tpdo k).eventCounterMs =
      (s.node.pdo.tpdo k).eventCounterMs := by
  cases input with
  | process deltaMs => exact absurd rfl (hother deltaMs)
  | rxFrame cobId data =>
      cases data with
      | none => rfl
      | some data => exact eventCounterMs_rxPayload app h hcalls k cobId data
  | triggerTpdo1 =>
      simp only [enter, canopenTriggerTpdo1]
      split_ifs
      · cases k with
        | one => exact eventCounterMs_sendTpdo _ _ _ _
        | two => rfl
      · rfl
  | triggerTpdo2 =>
      simp only [enter, canopenTriggerTpdo2]
      split_ifs
      · cases k with
        | one => rfl
        | two => exact eventCounterMs_sendTpdo _ _ _ _
      · rfl
  | setNmtState | setDigitalInputs | setAnalogInput => rfl

/-- The event counter is a timer of the expiries of a TPDO. -/
theorem timed_eventMoments (app : Application ω) (h : s.node.Configured nodeId od)
    (k : TpdoNumber) (input : NodeInput) (later : List Moment)
    (hlater : Timed 1000 ((nodeStep app input s).2.node.pdo.tpdo k).eventCounterMs.toNat later) :
    Timed 1000 (s.node.pdo.tpdo k).eventCounterMs.toNat
      (eventMoments app k s input (nodeStep app input s).1 ++ later) := by
  by_cases hprocess : ∃ deltaMs, input = .process deltaMs
  · obtain ⟨deltaMs, rfl⟩ := hprocess
    have hcounter : ((nodeStep app (.process deltaMs) s).2.node.pdo.tpdo k).eventCounterMs.toNat =
        _ := eventCounterMs_process app (s := s.unrecorded) h k deltaMs
    have htimer := eventTimerMs_of_configured h k
    have hexpires : (s.node.pdo.tpdo k).Expires deltaMs ↔
        (s.node.pdo.tpdo k).eventCounterMs.toNat ≤ deltaMs.toNat :=
      and_iff_right (by rw [htimer]; decide)
    rw [hcounter] at hlater
    rw [eventMoments]
    by_cases hop : s.node.nmt.state = .operational
    · rw [if_pos hop]
      refine ⟨by simpa using hexpires, ?_⟩
      have hleft : (if (s.node.pdo.tpdo k).Expires deltaMs then
          (s.node.pdo.tpdo k).eventTimerMs.toNat
          else (s.node.pdo.tpdo k).eventCounterMs.toNat - deltaMs.toNat) =
          if (s.node.pdo.tpdo k).Expires deltaMs then 1000
          else (s.node.pdo.tpdo k).eventCounterMs.toNat - deltaMs.toNat := by
        rw [htimer]
        rfl
      simpa [show s.unrecorded.node = s.node from rfl, hop, hleft] using hlater
    · rw [if_neg hop]
      simpa [show s.unrecorded.node = s.node from rfl, hop] using hlater
  · have hcounter : ((nodeStep app input s).2.node.pdo.tpdo k).eventCounterMs =
        (s.node.pdo.tpdo k).eventCounterMs :=
      eventCounterMs_enter app (s := s.unrecorded) h rfl k fun deltaMs heq =>
        hprocess ⟨deltaMs, heq⟩
    rw [hcounter] at hlater
    cases input with
    | process deltaMs => exact absurd ⟨deltaMs, rfl⟩ hprocess
    | _ => exact hlater

end Calls

/-! ## Runs -/

/-- In a run, no expiry is lost exactly if the TPDO could be sent in every call in which
its event timer expires, or only after the whole event time has passed once more. -/
theorem nodeRun_prompt_iff (app : Application ω) {s : System ω} {nodeId : Byte} {od : CanopenOd}
    (h : s.node.Configured nodeId od) (k : TpdoNumber) (inputs : List NodeInput) :
    Prompt (seen (nodeStep app) (eventMoments app k) s inputs) ↔
      PeriodPasses (s.node.pdo.tpdo k).eventTimerMs.toNat
        (seen (nodeStep app) (eventMoments app k) s inputs) := by
  have hkept (s : System ω) (input : NodeInput) (h : s.node.Configured nodeId od) :
      (nodeStep app input s).2.node.Configured nodeId od :=
    h.of_config_eq (config_nodeStep app input s)
  rw [eventTimerMs_of_configured h]
  apply prompt_iff_periodPasses
  · exact timed_seen (I := fun s : System ω => s.node.Configured nodeId od)
      (fun s => (s.node.pdo.tpdo k).eventCounterMs.toNat)
      (fun s input h => ⟨hkept s input h, timed_eventMoments app h k input⟩) h inputs
  · apply forall_mem_seen_of_invariant (I := fun s : System ω => s.node.Configured nodeId od)
      (P := fun moment : Moment => moment.possible = true →
        (moment.done = true ↔ moment.due = true))
    · exact fun s input h => ⟨hkept s input h, done_iff_due app h k input⟩
    · exact h

theorem nodeRun_prompt_iff_regular :
    Prompt (seen (nodeStep weakApplication) (eventMoments weakApplication .two)
        (canopenSetNmtState .operational (initialised weakApplication 1 none bootDevice))
        [.process 1000, .process 500, .process 500]) ↔
      PeriodPasses 1000 (seen (nodeStep weakApplication) (eventMoments weakApplication .two)
        (canopenSetNmtState .operational (initialised weakApplication 1 none bootDevice))
        [.process 1000, .process 500, .process 500]) :=
  nodeRun_prompt_iff weakApplication
    (s := canopenSetNmtState .operational (initialised weakApplication 1 none bootDevice))
    ((configured_initialised
      (show canopenInit weakApplication 1 none bootDevice = some _ from rfl)).of_config_eq rfl)
    .two _

/-- An expiry within the inhibit time of a triggered TPDO1 is lost. -/
theorem not_nodeRun_prompt :
    ¬ Prompt (seen (nodeStep weakApplication) (eventMoments weakApplication .one)
      (canopenSetNmtState .operational (initialised weakApplication 1 none bootDevice))
      [.process 950, .triggerTpdo1, .process 60, .process 40]) := by
  have hmoments : seen (nodeStep weakApplication) (eventMoments weakApplication .one)
      (canopenSetNmtState .operational (initialised weakApplication 1 none bootDevice))
      [.process 950, .triggerTpdo1, .process 60, .process 40] =
      [⟨950, false, true, false⟩, ⟨60, true, false, false⟩, ⟨40, false, true, false⟩] := by
    decide
  rw [hmoments]
  intro hprompt
  have hdone : (false : Bool) = true :=
    hprompt [⟨950, false, true, false⟩] ⟨60, true, false, false⟩ [⟨40, false, true, false⟩] rfl rfl
      [⟨60, true, false, false⟩] ⟨40, false, true, false⟩ [] ⟨rfl, rfl, by simp⟩
  cases hdone

end AutomationBoard.Canopen
