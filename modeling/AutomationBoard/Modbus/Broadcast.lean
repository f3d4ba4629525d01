/-
# Broadcasts

No broadcast should be answered. Four of the five places that decide on a
response keep to that. The diagnostics dispatcher does not: it refuses a
malformed broadcast with an exception response, before or without asking whether
the request was a broadcast.
-/

import AutomationBoard.Modbus.Refinement.Rtu

namespace AutomationBoard.Modbus

open AutomationBoard.Program

variable {cfg : Config}

/-- The diagnostics requests that are refused even as a broadcast: too short, or
a broadcast-eligible sub-function with data it does not know. In listen-only mode
only Restart Communications gets that far. -/
def DiagRefused (pdu : List Byte) (listenOnly : Bool) : Prop :=
  if pdu.length < 5 then listenOnly = false
  else
    (wordAt pdu 1 = DiagSub.restartComm.code ∧ wordAt pdu 3 ≠ 0x0000 ∧ wordAt pdu 3 ≠ 0xFF00) ∨
    (listenOnly = false ∧ wordAt pdu 3 ≠ 0x0000 ∧
      (wordAt pdu 1 = DiagSub.forceListenOnly.code ∨ wordAt pdu 1 = DiagSub.clearCounters.code))

/-- A broadcast of a diagnostics request that is refused. -/
def BroadcastRefused (s : Slave cfg) (rx : List Byte) : Prop :=
  lengthValid rx ∧ crcValid rx ∧ byteAt (framePdu rx) 0 = FunctionCode.diagnostics.code ∧
    DiagRefused (framePdu rx) s.listenOnly

/-- Restart Communications answers a broadcast only to refuse its data. -/
theorem diagDispatch_restartComm_eq_nil {pdu : List Byte}
    (hsub : wordAt pdu 1 = DiagSub.restartComm.code) (line : LineState) :
    (diagDispatch pdu true line).1 = [] ↔
      ¬ (wordAt pdu 3 ≠ 0x0000 ∧ wordAt pdu 3 ≠ 0xFF00) := by
  rw [diagDispatch, hsub, DiagSub.ofWord_code]
  simp only
  split_ifs with hdata hlisten
  · exact iff_of_false (modbusDiagException_ne_nil _) (not_not_intro hdata)
  · exact iff_of_true rfl hdata
  · exact iff_of_true rfl hdata

/-- Force Listen Only Mode answers only to refuse its data. -/
theorem diagDispatch_forceListenOnly_eq_nil {pdu : List Byte}
    (hsub : wordAt pdu 1 = DiagSub.forceListenOnly.code) (isBroadcast : Bool) (line : LineState) :
    (diagDispatch pdu isBroadcast line).1 = [] ↔ wordAt pdu 3 = 0x0000 := by
  rw [diagDispatch, hsub, DiagSub.ofWord_code]
  simp only
  split_ifs with hdata
  · exact iff_of_false (modbusDiagException_ne_nil _) hdata
  · exact iff_of_true rfl (not_not.mp hdata)

/-- Clear Counters answers a broadcast only to refuse its data. -/
theorem diagDispatch_clearCounters_eq_nil {pdu : List Byte}
    (hsub : wordAt pdu 1 = DiagSub.clearCounters.code) (line : LineState) :
    (diagDispatch pdu true line).1 = [] ↔ wordAt pdu 3 = 0x0000 := by
  rw [diagDispatch, hsub, DiagSub.ofWord_code]
  simp only
  split_ifs with hdata
  · exact iff_of_false (modbusDiagException_ne_nil _) hdata
  · exact iff_of_true rfl (not_not.mp hdata)

/-- A diagnostics broadcast is silent exactly when it is not refused. -/
theorem modbusDiagProcess_broadcast_eq_nil (pdu : List Byte) (line : LineState) :
    (modbusDiagProcess pdu true line).1 = [] ↔ ¬ DiagRefused pdu line.diag.listenOnly := by
  have hforce : DiagSub.forceListenOnly.code ≠ DiagSub.restartComm.code := by decide
  have hclear : DiagSub.clearCounters.code ≠ DiagSub.restartComm.code := by decide
  unfold modbusDiagProcess DiagRefused
  split_ifs with hlength hlisten hlisten' hdrop
  · simp [hlisten]
  · exact iff_of_false (modbusDiagException_ne_nil _) (by simp [hlisten])
  · refine iff_of_true rfl ?_
    rintro (⟨hrestart, -⟩ | ⟨hoff, -⟩)
    · exact hlisten'.2 hrestart
    · rw [hoff] at hlisten'
      cases hlisten'.1
  · have hno : modbusDiagBroadcastEligible (wordAt pdu 1) = false := by simpa using hdrop
    simp only [modbusDiagBroadcastEligible, Bool.or_eq_false_iff, decide_eq_false_iff_not] at hno
    obtain ⟨⟨hrestart, hforce'⟩, hclear'⟩ := hno
    refine iff_of_true rfl ?_
    rintro (⟨hsub, -⟩ | ⟨-, -, hsub | hsub⟩)
    · exact hrestart hsub
    · exact hforce' hsub
    · exact hclear' hsub
  · by_cases hrestart : wordAt pdu 1 = DiagSub.restartComm.code
    · rw [diagDispatch_restartComm_eq_nil hrestart]
      constructor
      · rintro hdata (⟨-, hbad⟩ | ⟨-, -, hsub | hsub⟩)
        · exact hdata hbad
        · exact hforce (hsub.symm.trans hrestart)
        · exact hclear (hsub.symm.trans hrestart)
      · exact fun hnot hdata => hnot (.inl ⟨hrestart, hdata⟩)
    · have hoff : line.diag.listenOnly = false := by simpa [hrestart] using hlisten'
      have heligible : wordAt pdu 1 = DiagSub.forceListenOnly.code ∨
          wordAt pdu 1 = DiagSub.clearCounters.code := by
        simpa [modbusDiagBroadcastEligible, hrestart, or_iff_not_imp_left] using hdrop
      have hsilent : (diagDispatch pdu true line).1 = [] ↔ wordAt pdu 3 = 0x0000 := by
        rcases heligible with hsub | hsub
        · exact diagDispatch_forceListenOnly_eq_nil hsub true line
        · exact diagDispatch_clearCounters_eq_nil hsub line
      rw [hsilent]
      constructor
      · rintro hdata (⟨hsub, -⟩ | ⟨-, hbad, -⟩)
        · exact hrestart hsub
        · exact hbad hdata
      · intro hnot
        by_contra hdata
        exact hnot (.inr ⟨hoff, hdata, heligible⟩)

/-- Under a broadcast, only the diagnostics dispatcher ever builds a response
that is sent. -/
theorem response_broadcast_eq_nil (s : Slave cfg) (pdu : List Byte) :
    (handleRequest s pdu true).response = [] ↔
      ¬ (byteAt pdu 0 = FunctionCode.diagnostics.code ∧ DiagRefused pdu s.listenOnly) := by
  unfold handleRequest
  simp only
  split_ifs with hdiag hfetch hlisten hid hquiet hlisten' hdrop
  · rw [Handling.response, if_pos rfl, modbusDiagProcess_broadcast_eq_nil]
    simp [hdiag, Slave.listenOnly]
  all_goals
    refine iff_of_true ?_ fun h => hdiag h.1
  · rfl
  · rfl
  · rfl
  · exact absurd (.inr trivial) hquiet
  · rfl
  · rfl
  · rfl

/-- The response to a frame with the broadcast address. -/
theorem tx_slaveStep_broadcast_eq_nil (s : Slave cfg) {rx : List Byte} (haddr : byteAt rx 0 = 0) :
    (slaveStep s rx).1.tx = [] ↔ ¬ BroadcastRefused s rx := by
  cases frameKind s.slaveId rx with
  | malformed hlength =>
      rw [slaveStep_malformed hlength]
      exact iff_of_true rfl fun h => hlength h.1
  | corrupted hlength hcrc =>
      rw [slaveStep_corrupted hlength hcrc]
      exact iff_of_true rfl fun h => hcrc h.2.1
  | foreign hlength hcrc hother => exact absurd haddr hother.2
  | addressed hlength hcrc _ =>
      have hsilent := response_broadcast_eq_nil s.counted (framePdu rx)
      have hrefused : BroadcastRefused s rx ↔
          byteAt (framePdu rx) 0 = FunctionCode.diagnostics.code ∧
            DiagRefused (framePdu rx) s.listenOnly := by
        rw [BroadcastRefused, and_iff_right hlength, and_iff_right hcrc]
      rw [slaveStep_addressed hlength hcrc (.inr haddr), haddr, decide_eq_true rfl, tx_addressedStep,
        hrefused]
      refine Iff.trans ?_ hsilent
      split_ifs with hnone
      · simp [hnone]
      · simp [hnone, rtuFrame]

/-- A slave leaves a broadcast unanswered. -/
def SilentBroadcast (_ : Slave cfg) (rx : List Byte) (out : Outcome) (_ : Slave cfg) : Prop :=
  byteAt rx 0 = 0 → out.tx = []

/-- No broadcast of a run is answered, if and only if none of them is a refused
diagnostics request in the state it meets. -/
theorem everyStep_silentBroadcast_iff (flat : cfg.Flat) (s : Slave cfg)
    (frames : List (List Byte)) :
    EveryStep modbusRtuProcess SilentBroadcast s frames ↔
      EveryStep modbusRtuProcess (fun s rx _ _ => byteAt rx 0 = 0 → ¬ BroadcastRefused s rx)
        s frames := by
  apply everyStep_frames_congr flat
  intro s rx
  exact forall_congr' fun haddr => tx_slaveStep_broadcast_eq_nil s haddr

/-- The broadcasts of a run are left unanswered exactly when none of them is a
refused diagnostics request. -/
theorem runFrames_silentBroadcast_iff (s : Slave boardConfig) (frames : List (List Byte)) :
    EveryStep modbusRtuProcess SilentBroadcast s frames ↔
      EveryStep modbusRtuProcess (fun s rx _ _ => byteAt rx 0 = 0 → ¬ BroadcastRefused s rx)
        s frames :=
  everyStep_silentBroadcast_iff Config.boardConfig_flat s frames

/-- A broadcast diagnostics request without its sub-function is answered. -/
theorem runFrames_broadcast_answered :
    ¬ EveryStep modbusRtuProcess SilentBroadcast
      (modbusRtuInit 1 (Slave.powerOn (SyncHooks.none boardConfig)))
      [[0x00, 0x08, 0x36, 0x40]] := by
  intro hclaim
  rw [everyStep_silentBroadcast_iff Config.boardConfig_flat, everyStep_singleton] at hclaim
  obtain ⟨out, s', -, hnot⟩ := hclaim
  refine hnot rfl ⟨by decide, ?_, rfl, rfl⟩
  rw [crcValid_iff]
  decide +kernel

end AutomationBoard.Modbus
