/-
# A master looped back to a slave

The transport of the repository's own tests: what the master sends is handed to
`modbus_rtu_process`, and what the slave answers is what the master receives. A
transaction over it is then one step of the slave and the reading of its answer.
-/

import AutomationBoard.Modbus.LineMessage
import AutomationBoard.Modbus.MasterApi

namespace AutomationBoard.Modbus

open AutomationBoard.Program

variable {cfg : Config}

/-! ## The transport -/

/-- The slave at the other end, and `mock_resp`, the frame it last answered with. -/
structure Loopback (cfg : Config) where
  slave : Slave cfg
  pending : List Byte

/-- `mock_send`: the slave stack is run on the frame. -/
def loopbackSend (adu : List Byte) (world : Loopback cfg) : ModbusStatus × Loopback cfg :=
  match (modbusRtuProcess adu).run world.slave with
  | .ok (out, slave) => (.ok, ⟨slave, out.tx⟩)
  | .error _ => (.error, world)

/-- `mock_recv`. -/
def loopbackRecv (maxLen _timeoutMs : ℕ) (world : Loopback cfg) :
    (ModbusStatus × List Byte) × Loopback cfg :=
  if world.pending.length = 0 ∨ world.pending.length > maxLen then ((.timeout, []), world)
  else ((.ok, world.pending), world)

/-- `mock_flush_rx`. -/
def loopbackFlush (world : Loopback cfg) : Loopback cfg := { world with pending := [] }

/-- `mock_transport`. -/
def loopbackTransport : MasterTransport (Loopback cfg) :=
  ⟨some loopbackSend, some loopbackRecv, some id, some loopbackFlush, none⟩

/-- A master on that transport. -/
def loopbackMaster (timeoutMs : ℕ) : Master (Loopback cfg) := ⟨some loopbackTransport, timeoutMs⟩

/-! ## What comes back -/

/-- Sending is a step of the slave. -/
theorem loopbackSend_eq (flat : cfg.Flat) (adu : List Byte) (world : Loopback cfg) :
    loopbackSend adu world =
      (.ok, ⟨(slaveStep world.slave adu).2, (slaveStep world.slave adu).1.tx⟩) := by
  obtain ⟨out, slave, hrun, hstep⟩ := yields_modbusRtuProcess flat world.slave adu
  rw [loopbackSend, hrun, ← hstep]

/-- The answer of a slave to a frame it is not meant to answer is no answer, and
to any other it is a reply in a frame of its own. -/
inductive AnsweredTo (s : Slave cfg) (slaveId : Byte) (req : List Byte) : List Byte → Prop
  | silent : AnsweredTo s slaveId req []
  | reply (hid : slaveId = s.slaveId) (pdu : List Byte) (hshape : ReplyShape (byteAt req 0) pdu)
      (hle : pdu.length ≤ 253) : AnsweredTo s slaveId req (rtuFrame slaveId pdu)

theorem AnsweredTo.length_le {s : Slave cfg} {slaveId : Byte} {req tx : List Byte}
    (h : AnsweredTo s slaveId req tx) : tx.length ≤ rtuFrameMax := by
  cases h with
  | silent => exact Nat.zero_le _
  | reply _ _ _ hle =>
      rw [length_rtuFrame, rtuFrameMax]
      omega

/-- A frame that fits the buffer is received. -/
theorem loopbackRecv_eq {slave : Slave cfg} {tx : List Byte} (hle : tx.length ≤ rtuFrameMax)
    (timeoutMs : ℕ) :
    loopbackRecv rtuFrameMax timeoutMs ⟨slave, tx⟩ =
      ((if tx = [] then .timeout else .ok, tx), ⟨slave, tx⟩) := by
  unfold loopbackRecv
  by_cases hnone : tx = []
  · subst hnone
    rfl
  · have hroom : ¬ (tx.length = 0 ∨ tx.length > rtuFrameMax) := by
      rintro (hzero | hlong)
      · exact hnone (List.length_eq_zero_iff.mp hzero)
      · exact Nat.not_lt_of_le hle hlong
    rw [if_neg hroom, if_neg hnone]

theorem answeredTo_slaveStep (flat : cfg.Flat) (s : Slave cfg) {slaveId : Byte}
    (hunicast : slaveId ≠ 0) {req : List Byte} (hlow : 1 ≤ req.length) (hhigh : req.length ≤ 253) :
    AnsweredTo s slaveId req (slaveStep s (rtuFrame slaveId req)).1.tx := by
  by_cases hid : slaveId = s.slaveId
  · subst hid
    have hbuilds := builds_handleRequest flat s.counted (List.length_pos_iff.mp hlow) false
    rw [slaveStep_rtuFrame hunicast hlow hhigh, tx_addressedStep]
    generalize handleRequest s.counted req false = h at hbuilds ⊢
    by_cases hnone : h.response = []
    · rw [if_pos hnone]
      exact .silent
    · have hsent := h.response_eq_built hnone
      rw [if_neg hnone, hsent]
      rcases hbuilds with hnil | ⟨hshape, hle⟩
      · exact absurd (hsent.trans hnil) hnone
      · exact .reply rfl _ hshape hle
  · have haddr := byteAt_rtuFrame_zero slaveId req
    rw [slaveStep_foreign (lengthValid_rtuFrame hlow hhigh) (crcValid_rtuFrame slaveId req)
      ⟨by rwa [haddr], by rwa [haddr]⟩]
    exact .silent

theorem clear_exceptionBit {b : Byte} (hmsb : b.msb = false) : (b ||| 0x80) &&& 0x7F = b := by
  revert hmsb
  revert b
  decide

/-- What a transaction makes of the frame that the slave answers with. -/
def Transacted.ofAnswer (tx : List Byte) : Transacted :=
  match answerOf tx with
  | .silent => .plain .timeout
  | .exception code => ⟨.exception, [], code⟩
  | .normal => ⟨.ok, framePdu tx, 0⟩

/-- A reply in a frame is taken for what it is. -/
theorem heard_reply {slaveId functionCode : Byte} (hcode : functionCode.msb = false)
    {reply : List Byte} (hshape : ReplyShape functionCode reply) (hle : reply.length ≤ 253) :
    heard slaveId functionCode (some rtuFrameMax) (rtuFrame slaveId reply) =
      .ofAnswer (rtuFrame slaveId reply) := by
  have htwo := hshape.two_le_length
  have hlength : lengthValid (rtuFrame slaveId reply) := lengthValid_rtuFrame (by omega) hle
  have hfirst := byteAt_rtuFrame_succ slaveId reply (i := 0) (by omega)
  have hsecond := byteAt_rtuFrame_succ slaveId reply (i := 1) (by omega)
  have hsome : rtuFrame slaveId reply ≠ [] := List.cons_ne_nil _ _
  rw [heard, if_neg (not_not_intro hlength), if_neg (not_not_intro (crcValid_rtuFrame slaveId reply)),
    if_neg (not_not_intro (byteAt_rtuFrame_zero slaveId reply)), Transacted.ofAnswer, answerOf,
    if_neg hsome, framePdu_rtuFrame, hfirst, hsecond, length_rtuFrame]
  cases hshape with
  | exception e =>
      have hmarked : (byteAt (exceptionPdu functionCode e) 0).msb = true := msb_or_exceptionBit _
      have hmask : byteAt (exceptionPdu functionCode e) 0 &&& 0x7F = functionCode :=
        clear_exceptionBit hcode
      rw [if_pos hmarked, if_pos ⟨by simp [exceptionPdu], hmask⟩, if_pos hmarked]
  | normal _ hsame hmsb hmore =>
      have hunmarked : ¬ (byteAt reply 0).msb = true := by
        rw [hsame, hmsb]
        exact Bool.false_ne_true
      rw [if_neg hunmarked, if_neg (not_not_intro hsame), if_neg hunmarked]
      exact if_pos (hle.trans (by decide))

/-! ## Transactions -/

/-- The calls of the hooks in a transaction that ends with the given answer. -/
def loopbackCalls (slaveId : Byte) (req : List Byte) (timeoutMs : ℕ) (tx : List Byte) :
    List BusCall :=
  [.flushRx, .delayT35, .send (rtuFrame slaveId req) .ok,
    .recv rtuFrameMax timeoutMs (if tx = [] then .timeout else .ok) tx]

/-- A transaction with one slave is a step of that slave, and its result is the
answer to it. -/
theorem yields_loopbackTransaction (flat : cfg.Flat) {s : Slave cfg} {pending : List Byte}
    {slaveId : Byte} (hunicast : slaveId ≠ 0) {req : List Byte} (hlow : 1 ≤ req.length)
    (hhigh : req.length ≤ 253) (hcode : (byteAt req 0).msb = false) {timeoutMs : ℕ}
    {calls : List BusCall} {post : Transacted → Bus (Loopback cfg) → Prop} :
    Yields (modbusMasterTransaction (some loopbackTransport) slaveId req (some rtuFrameMax)
        timeoutMs) ⟨⟨s, pending⟩, calls⟩ post ↔
      let step := slaveStep s (rtuFrame slaveId req)
      post (.ofAnswer step.1.tx)
        ⟨⟨step.2, step.1.tx⟩, calls ++ loopbackCalls slaveId req timeoutMs step.1.tx⟩ := by
  have hanswered := answeredTo_slaveStep flat s hunicast hlow hhigh
  rw [loopbackTransport, yields_modbusMasterTransaction hlow hhigh]
  simp only [loopbackSend_eq flat, if_neg hunicast, ne_eq, not_true_eq_false, if_false,
    Bus.world_after]
  have hworld : ((⟨⟨s, pending⟩, calls⟩ : Bus (Loopback cfg)).taken id loopbackFlush).world =
      ⟨s, []⟩ := rfl
  simp only [hworld]
  generalize (slaveStep s (rtuFrame slaveId req)).2 = slave
  generalize (slaveStep s (rtuFrame slaveId req)).1.tx = tx at hanswered ⊢
  have hcalls : ((((⟨⟨s, pending⟩, calls⟩ : Bus (Loopback cfg)).taken id loopbackFlush).after
      (.send (rtuFrame slaveId req) .ok) ⟨slave, tx⟩).after
        (.recv rtuFrameMax timeoutMs (if tx = [] then .timeout else .ok) tx) ⟨slave, tx⟩).ended none =
      ⟨⟨slave, tx⟩, calls ++ loopbackCalls slaveId req timeoutMs tx⟩ := by
    simp [Bus.ended, Bus.after, Bus.taken, loopbackCalls]
  simp only [loopbackRecv_eq hanswered.length_le, hcalls]
  cases hanswered with
  | silent => exact Iff.rfl
  | reply hid pdu hshape hle =>
      have hsome : rtuFrame slaveId pdu ≠ [] := List.cons_ne_nil _ _
      rw [if_neg hsome, if_neg (not_not_intro rfl), heard_reply hcode hshape hle]

/-! ## Calls -/

/-- The function code of a call's request. -/
def MasterCall.functionCode : MasterCall → FunctionCode
  | readCoils _ _ _ => .readCoils
  | readDiscreteInputs _ _ _ => .readDiscreteInputs
  | readHoldingRegisters _ _ => .readHoldingRegisters
  | readInputRegisters _ _ => .readInputRegisters
  | writeSingleCoil _ _ => .writeSingleCoil
  | writeSingleRegister _ _ => .writeSingleRegister
  | writeMultipleCoils _ _ _ => .writeMultipleCoils
  | writeMultipleRegisters _ _ _ => .writeMultipleRegisters
  | readExceptionStatus => .readExceptionStatus
  | diagQueryData _ | diagRestartComm _ | diagClearCounters | diagReadCounter _ => .diagnostics
  | getCommEventCounter => .getCommEventCounter
  | getCommEventLog _ _ _ => .getCommEventLog
  | readFileRecord _ _ _ => .readFileRecord
  | writeFileRecord _ _ _ _ => .writeFileRecord
  | readWriteMultipleRegisters _ _ _ _ _ => .readWriteMultipleRegs
  | readDeviceIdentification _ _ => .encapsulatedInterface
  | reportServerId _ _ _ => .reportServerId
  | maskWriteRegister _ _ _ => .maskWriteRegister
  | readFifoQueue _ _ => .readFifoQueue

/-- A request begins with the function code of its call. -/
theorem MasterCall.byteAt_requestPdu {call : MasterCall} (hsome : call.requestPdu ≠ []) :
    byteAt call.requestPdu 0 = call.functionCode.code := by
  cases call with
  | writeMultipleCoils start quantity bits =>
      rw [requestPdu, rtuFrameMax, modbusMasterBuildWriteMultipleCoils_eq] at hsome ⊢
      split_ifs at hsome ⊢
      · rfl
      · exact absurd rfl hsome
  | writeMultipleRegisters start quantity regs =>
      rw [requestPdu, rtuFrameMax, modbusMasterBuildWriteMultipleRegisters_eq] at hsome ⊢
      split_ifs at hsome ⊢
      · rfl
      · exact absurd rfl hsome
  | writeFileRecord fileNumber recordNumber recordLength regs =>
      rw [requestPdu, rtuFrameMax, modbusMasterBuildWriteFileRecord_eq] at hsome ⊢
      split_ifs at hsome ⊢
      · rfl
      · exact absurd rfl hsome
  | readWriteMultipleRegisters readStart readQty writeStart writeQty writeRegs =>
      rw [requestPdu, rtuFrameMax, modbusMasterBuildReadWriteMultipleRegisters_eq] at hsome ⊢
      split_ifs at hsome ⊢
      · rfl
      · exact absurd rfl hsome
  | readFileRecord fileNumber recordNumber recordLength =>
      rw [requestPdu, modbusMasterBuildReadFileRecord] at hsome ⊢
      split_ifs at hsome ⊢
      · exact absurd rfl hsome
      · rfl
  | _ => rfl

/-- A call that is not refused is a step of the slave, and what it makes of the
answer. -/
theorem MasterCall.yields_run_loopback (flat : cfg.Flat) {call : MasterCall} {s : Slave cfg}
    {pending : List Byte} {slaveId : Byte} (hunicast : slaveId ≠ 0) {timeoutMs : ℕ}
    {calls : List BusCall} {post : Reply Delivered → Bus (Loopback cfg) → Prop} :
    Yields (call.run (loopbackMaster timeoutMs) slaveId) ⟨⟨s, pending⟩, calls⟩ post ↔
      if call.refused slaveId ∨ call.requestPdu = [] then post .refused ⟨⟨s, pending⟩, calls⟩
      else
        let step := slaveStep s (rtuFrame slaveId call.requestPdu)
        let t := Transacted.ofAnswer step.1.tx
        let bus : Bus (Loopback cfg) := ⟨⟨step.2, step.1.tx⟩,
          calls ++ loopbackCalls slaveId call.requestPdu timeoutMs step.1.tx⟩
        if t.status ≠ .ok then post ⟨t.status, some t.exceptionCode, none⟩ bus
        else Yields (call.parse slaveId t.resp) bus fun value bus =>
          post (.parsed t.exceptionCode value) bus := by
  rw [run_eq]
  by_cases hrefused : call.refused slaveId = true
  · rw [if_pos hrefused, if_pos (.inl hrefused), yields_pure]
  · rw [if_neg hrefused]
    by_cases hnone : call.requestPdu = []
    · have hzero : call.requestPdu.length = 0 := List.length_eq_zero_iff.mpr hnone
      rw [if_pos (.inr hnone), masterRequest, if_pos hzero, yields_pure]
    · rw [if_neg (not_or.mpr ⟨hrefused, hnone⟩), yields_masterRequest hnone]
      exact yields_loopbackTransaction flat hunicast (List.length_pos_iff.mpr hnone)
        call.length_requestPdu_le (call.byteAt_requestPdu hnone ▸ call.functionCode.msb_code)

/-- An exception that the slave answers a request with reaches the caller,
whatever the call, its arguments and the state of the slave. -/
theorem MasterCall.yields_run_exception (flat : cfg.Flat) {call : MasterCall} {s : Slave cfg}
    {slaveId : Byte} (hunicast : slaveId ≠ 0) (haccepted : call.refused slaveId = false)
    {code : Byte} (hanswered : Yields (modbusRtuProcess (rtuFrame slaveId call.requestPdu)) s
      fun out _ => answerOf out.tx = .exception code)
    (pending : List Byte) (timeoutMs : ℕ) (calls : List BusCall) :
    Yields (call.run (loopbackMaster timeoutMs) slaveId) ⟨⟨s, pending⟩, calls⟩ fun reply _ =>
      reply.status = .exception ∧ reply.exceptionCode = some code := by
  have hanswer : answerOf (slaveStep s (rtuFrame slaveId call.requestPdu)).1.tx =
      .exception code := by
    obtain ⟨out, slave, hrun, hstep⟩ :=
      yields_modbusRtuProcess flat s (rtuFrame slaveId call.requestPdu)
    rw [← hstep]
    exact hanswered.of_run_eq hrun
  have hsome : call.requestPdu ≠ [] := by
    intro hnil
    have hshort : ¬ lengthValid (rtuFrame slaveId []) := fun h => absurd h.1 (by simp [rtuFrame])
    rw [hnil, slaveStep_malformed hshort] at hanswer
    cases hanswer
  have htransacted : Transacted.ofAnswer (slaveStep s (rtuFrame slaveId call.requestPdu)).1.tx =
      ⟨.exception, [], code⟩ := by
    unfold Transacted.ofAnswer
    rw [hanswer]
  have hsent : ¬ (call.refused slaveId = true ∨ call.requestPdu = []) := by simp [haccepted, hsome]
  rw [yields_run_loopback flat hunicast, if_neg hsent]
  simp only [htransacted, ne_eq, reduceCtorEq, not_false_eq_true, if_true, and_self]

end AutomationBoard.Modbus
