/-
# Every unicast request is answered

A slave that is not in listen-only mode answers each valid frame for its own id
with one frame the master accepts, whichever dispatcher the request goes to. The
one exception is the request that turns listen-only mode on.
-/

import AutomationBoard.Modbus.Master
import AutomationBoard.Modbus.Refinement.Rtu

namespace AutomationBoard.Modbus

open AutomationBoard.Program

variable {cfg : Config}

/-- Force Listen Only Mode with the data it demands. -/
def ForceListenOnly (pdu : List Byte) : Prop :=
  byteAt pdu 0 = FunctionCode.diagnostics.code ∧ 5 ≤ pdu.length ∧
    wordAt pdu 1 = DiagSub.forceListenOnly.code ∧ wordAt pdu 3 = 0x0000

/-- A response frame to a request: it has the length of a frame, comes from the
slave, is accepted by the master, and repeats the function code or refuses it
with one exception code. -/
structure ResponseFrame (slaveId functionCode : Byte) (tx : List Byte) : Prop where
  length : 5 ≤ tx.length ∧ tx.length ≤ 256
  slaveId_eq : byteAt tx 0 = slaveId
  accepted : ∃ pdu, modbusMasterRtuValidateResponse slaveId tx = (.ok, some pdu)
  code : byteAt tx 1 = functionCode ∨
    byteAt tx 1 = functionCode ||| 0x80 ∧ tx.length = 5 ∧
      1 ≤ (byteAt tx 2).toNat ∧ (byteAt tx 2).toNat ≤ 4

/-- A unicast frame is answered once, or not at all where it turns listen-only
mode on. -/
structure AnsweredOnce (slaveId : Byte) (rx : List Byte) (out : Outcome) : Prop where
  status : out.status = .ok
  silent_iff : out.tx = [] ↔ ForceListenOnly (framePdu rx)
  response : out.tx ≠ [] → ResponseFrame slaveId (byteAt rx 1) out.tx

/-! ## Which requests are silent -/

/-- Outside listen-only mode the diagnostics dispatcher leaves one unicast
sub-function unanswered, where its data are accepted. -/
theorem diagDispatch_unicast_eq_nil {line : LineState} (hactive : line.diag.listenOnly = false)
    {pdu : List Byte} (hlength : 5 ≤ pdu.length) :
    (diagDispatch pdu false line).1 = [] ↔
      wordAt pdu 1 = DiagSub.forceListenOnly.code ∧ wordAt pdu 3 = 0x0000 := by
  have hecho : pdu.take 5 ≠ [] := by
    intro hnil
    have := congrArg List.length hnil
    rw [List.length_take, List.length_nil] at this
    omega
  unfold diagDispatch
  cases hsub : DiagSub.ofWord (wordAt pdu 1) with
  | none =>
      refine iff_of_false (modbusDiagException_ne_nil _) fun h => ?_
      rw [h.1, DiagSub.ofWord_code] at hsub
      cases hsub
  | some sub =>
      have hword : wordAt pdu 1 = sub.code := (DiagSub.ofWord_eq_some.mp hsub).symm
      rw [hword]
      simp only [hactive, Bool.false_eq_true, if_false]
      cases sub with
      | forceListenOnly =>
          simp only
          split_ifs with hdata
          · exact iff_of_false (modbusDiagException_ne_nil _) fun h => hdata h.2
          · exact iff_of_true rfl ⟨trivial, not_not.mp hdata⟩
      | returnQueryData | changeAsciiDelimiter =>
          exact iff_of_false hecho fun h => absurd h.1 (by decide)
      | restartComm | clearCounters | clearOverrun =>
          refine iff_of_false ?_ fun h => absurd h.1 (by decide)
          simp only
          split_ifs
          · exact modbusDiagException_ne_nil _
          · exact hecho
      | _ =>
          refine iff_of_false ?_ fun h => absurd h.1 (by decide)
          simp only
          split_ifs
          · exact modbusDiagException_ne_nil _
          · exact diagValuePdu_ne_nil _ _

theorem modbusDiagProcess_unicast_eq_nil {line : LineState} (hactive : line.diag.listenOnly = false)
    {pdu : List Byte} (hcode : byteAt pdu 0 = FunctionCode.diagnostics.code) :
    (modbusDiagProcess pdu false line).1 = [] ↔ ForceListenOnly pdu := by
  unfold modbusDiagProcess ForceListenOnly
  by_cases hlength : pdu.length < 5
  · rw [if_pos hlength, if_neg (by simp [hactive])]
    exact iff_of_false (modbusDiagException_ne_nil _) fun h => by omega
  · have hfive : 5 ≤ pdu.length := Nat.le_of_not_lt hlength
    rw [if_neg hlength, if_neg (by simp [hactive]), if_neg (by simp),
      diagDispatch_unicast_eq_nil hactive hfive]
    simp [hcode, hfive]

theorem modbusEventProcess_unicast_ne_nil (pdu : List Byte) (event : EventState) (w : Word) :
    modbusEventProcess pdu false event w ≠ [] := by
  unfold modbusEventProcess
  simp only [Bool.false_eq_true, if_false]
  split_ifs <;> exact List.cons_ne_nil _ _

theorem modbusReportServerIdProcess_ne_nil (n : ℕ) : modbusReportServerIdProcess n ≠ [] := by
  unfold modbusReportServerIdProcess
  split_ifs <;> exact List.cons_ne_nil _ _

/-- Outside listen-only mode every unicast request is answered, save Force Listen
Only Mode. -/
theorem response_unicast_eq_nil {s : Slave cfg} (hactive : s.listenOnly = false) (pdu : List Byte) :
    (handleRequest s pdu false).response = [] ↔ ForceListenOnly pdu := by
  by_cases hdiag : byteAt pdu 0 = FunctionCode.diagnostics.code
  · rw [handleRequest, if_pos hdiag]
    exact modbusDiagProcess_unicast_eq_nil hactive hdiag
  · refine iff_of_false ?_ fun h => hdiag h.1
    unfold handleRequest
    simp only [if_neg hdiag, hactive, Bool.false_eq_true, if_false, or_self, broadcastDropped,
      Bool.false_and]
    split_ifs
    · exact modbusEventProcess_unicast_ne_nil _ _ _
    · exact modbusReportServerIdProcess_ne_nil _
    · intro hnil
      have hreply := (replyShape_pduReply s.hooks pdu s.env).two_le_length
      rw [show (pduReply s.hooks pdu s.env).1 = [] from hnil] at hreply
      exact absurd hreply (by decide)

/-! ## What is answered -/

/-- A reply in a frame is a response frame. -/
theorem responseFrame_rtuFrame (slaveId : Byte) {functionCode : Byte} {pdu : List Byte}
    (hshape : ReplyShape functionCode pdu) (hle : pdu.length ≤ 253) :
    ResponseFrame slaveId functionCode (rtuFrame slaveId pdu) := by
  have htwo := hshape.two_le_length
  refine ⟨by rw [length_rtuFrame]; omega, rfl,
    ⟨pdu, modbusMasterRtuValidateResponse_rtuFrame (by omega) hle⟩, ?_⟩
  rw [byteAt_rtuFrame_succ slaveId pdu (i := 0) (by omega),
    byteAt_rtuFrame_succ slaveId pdu (i := 1) (by omega), length_rtuFrame]
  cases hshape with
  | exception e =>
      refine .inr ⟨rfl, rfl, ?_⟩
      rw [show byteAt (exceptionPdu functionCode e) 1 = e.code from rfl]
      cases e <;> decide
  | normal _ hcode => exact .inl hcode

/-- A valid frame for the slave's own id is answered once. -/
theorem answeredOnce_slaveStep (flat : cfg.Flat) {s : Slave cfg} (hactive : s.listenOnly = false)
    {rx : List Byte} (hlength : lengthValid rx) (hcrc : crcValid rx)
    (haddr : byteAt rx 0 = s.slaveId) (hid : s.slaveId ≠ 0) :
    AnsweredOnce s.slaveId rx (slaveStep s rx).1 := by
  have hpdu := framePdu_ne_nil hlength
  have hbroadcast : decide (byteAt rx 0 = 0) = false := by simpa [haddr] using hid
  have hfirst : byteAt (framePdu rx) 0 = byteAt rx 1 := by
    have hlow := hlength.1
    rw [framePdu, byteAt_take (by omega)]
    simp [byteAt]
  rw [slaveStep_addressed hlength hcrc (.inl haddr), hbroadcast, addressedStep_eq]
  have hactive' : s.counted.listenOnly = false := hactive
  have hsilent := response_unicast_eq_nil hactive' (framePdu rx)
  have hbuilds := builds_handleRequest flat s.counted hpdu false
  rw [hfirst] at hbuilds
  generalize handleRequest s.counted (framePdu rx) false = h at hsilent hbuilds ⊢
  refine ⟨rfl, ?_, fun htx => ?_⟩
  · rw [← hsilent]
    by_cases hnone : h.response = []
    · simp [hnone]
    · simp [hnone, rtuFrame]
  · have hsome : h.response ≠ [] := fun hnone => htx (if_pos hnone)
    have hsent : h.response = h.built := h.response_eq_built hsome
    rw [if_neg hsome, hsent]
    rcases hbuilds with hnil | ⟨hshape, hle⟩
    · exact absurd (hsent.trans hnil) hsome
    · exact responseFrame_rtuFrame s.slaveId hshape hle

/-- Outside listen-only mode a valid frame of 4 to 256 bytes for the slave's own
id is answered with one response frame, or turns listen-only mode on. -/
theorem modbusRtuProcess_answeredOnce (s : Slave boardConfig) (rx : List Byte)
    (hactive : s.listenOnly = false) (hlength : lengthValid rx) (hcrc : crcValid rx)
    (haddr : byteAt rx 0 = s.slaveId) (hid : s.slaveId ≠ 0) :
    Yields (modbusRtuProcess rx) s fun out _ => AnsweredOnce s.slaveId rx out := by
  apply (yields_modbusRtuProcess Config.boardConfig_flat s rx).mono
  intro out s' hstep
  have hanswered := answeredOnce_slaveStep Config.boardConfig_flat hactive hlength hcrc haddr hid
  rwa [← hstep] at hanswered

theorem modbusRtuProcess_answeredOnce_exceptionStatus :
    Yields (modbusRtuProcess [0x01, 0x07, 0xA3, 0x00])
      (Slave.powerOn (SyncHooks.none boardConfig))
      fun out _ => AnsweredOnce 0x01 [0x01, 0x07, 0xA3, 0x00] out :=
  modbusRtuProcess_answeredOnce (Slave.powerOn (SyncHooks.none boardConfig))
    [0x01, 0x07, 0xA3, 0x00] rfl (by decide) ((crcValid_iff _).mpr (by decide +kernel)) rfl
    (by decide)

end AutomationBoard.Modbus
