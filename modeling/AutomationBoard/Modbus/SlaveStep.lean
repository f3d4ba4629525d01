/-
# The abstract slave

What a slave does with a frame, as a function of its state: the frame is
malformed, corrupted, for somebody else, or addressed to the slave, and only in
the last case is a request handled. Handling builds a PDU, which may or may not
be sent. There is no buffer here; `modbus_rtu_process` is shown to compute this
function.
-/

import AutomationBoard.Modbus.Grammar
import AutomationBoard.Modbus.Rtu

namespace AutomationBoard.Modbus

open AutomationBoard.Math AutomationBoard.Program

variable {cfg : Config}

/-! ## Frames -/

/-- The frame passes the CRC check of the code. -/
def crcValid (rx : List Byte) : Prop := frameCrc rx = crc16 (rx.take (rx.length - 2))

instance (rx : List Byte) : Decidable (crcValid rx) := inferInstanceAs (Decidable (_ = _))

/-- The CRC check without the tables. -/
theorem crcValid_iff (rx : List Byte) :
    crcValid rx ↔ frameCrc rx = digest crcTableUpdate 0xFFFF (rx.take (rx.length - 2)) := by
  rw [crcValid, crc16_eq_digest]

/-- A frame has the length of an RTU frame. -/
def lengthValid (rx : List Byte) : Prop := 4 ≤ rx.length ∧ rx.length ≤ rtuFrameMax

instance (rx : List Byte) : Decidable (lengthValid rx) := inferInstanceAs (Decidable (_ ∧ _))

theorem length_framePdu {rx : List Byte} (h : lengthValid rx) :
    (framePdu rx).length = rx.length - 3 := by
  have hlow := h.1
  rw [framePdu, List.length_take, List.length_drop]
  omega

theorem framePdu_ne_nil {rx : List Byte} (h : lengthValid rx) : framePdu rx ≠ [] := by
  have hlow := h.1
  have hlength := length_framePdu h
  intro hnil
  rw [hnil, List.length_nil] at hlength
  omega

/-! ## Handling a request -/

/-- What handling a request comes to: the PDU that is built, whether it is sent,
and the slave after it. -/
structure Handling (cfg : Config) where
  built : List Byte
  sent : Bool
  slave : Slave cfg

namespace Handling

/-- The PDU that is sent; none is empty. -/
def response (h : Handling cfg) : List Byte := if h.sent then h.built else []

/-- The PDU that is built is an exception response. -/
def isException (h : Handling cfg) : Bool := byteAt h.built 0 &&& 0x80 ≠ 0

/-- What is sent is what was built. -/
theorem response_eq_built (h : Handling cfg) (hsome : h.response ≠ []) : h.response = h.built := by
  rw [response] at hsome ⊢
  split at hsome
  · next hsent => rw [if_pos hsent]
  · exact absurd rfl hsome

/-- Nothing is done and nothing is built. -/
def ignored (s : Slave cfg) : Handling cfg := ⟨[], true, s⟩

end Handling

/-- The four dispatchers. -/
def handleRequest (s : Slave cfg) (pdu : List Byte) (isBroadcast : Bool) : Handling cfg :=
  let fc := byteAt pdu 0
  if fc = FunctionCode.diagnostics.code then
    let r := modbusDiagProcess pdu isBroadcast s.line
    ⟨r.1, true, { s with line := r.2 }⟩
  else if isFetch fc then
    if s.listenOnly then .ignored s
    else
      ⟨modbusEventProcess pdu isBroadcast s.line.event
        (s.line.diag.counterRead .slaveMessageCount), true, s⟩
  else if fc = FunctionCode.reportServerId.code then
    if s.listenOnly ∨ isBroadcast then .ignored s
    else ⟨modbusReportServerIdProcess pdu.length, true, s⟩
  else if s.listenOnly then .ignored s
  else if broadcastDropped pdu isBroadcast then .ignored s
  else
    let r := pduReply s.hooks pdu s.env
    ⟨r.1, !isBroadcast, { s with env := r.2 }⟩

/-- The send event of a response; the fetch commands log none. -/
def noteSent (pdu : List Byte) (h : Handling cfg) (line : LineState) : LineState :=
  if ¬ isFetch (byteAt pdu 0) ∧ h.response ≠ [] then
    { line with event := line.event.noteTx (if h.isException then byteAt h.built 1 else 0) }
  else line

/-- The bookkeeping after a request: its result, the send event, and the
completion that the event counter counts. -/
def bookkeeping (pdu : List Byte) (isBroadcast : Bool) (h : Handling cfg) (line : LineState) :
    LineState :=
  let responded : Bool := h.response ≠ []
  let line := noteSent pdu h (line.noteResult responded (responded && h.isException))
  if ¬ isFetch (byteAt pdu 0) ∧ ¬ h.isException ∧ ¬ resetsEvents pdu ∧ ¬ line.diag.listenOnly ∧
      (responded ∨ (isBroadcast ∧ byteAt h.built 0 ≠ 0)) then
    { line with event := line.event.noteSuccess }
  else line

@[simp]
theorem diag_noteSent (pdu : List Byte) (h : Handling cfg) (line : LineState) :
    (noteSent pdu h line).diag = line.diag := by
  unfold noteSent
  split_ifs <;> rfl

@[simp]
theorem counter_noteSent (pdu : List Byte) (h : Handling cfg) (line : LineState) :
    (noteSent pdu h line).event.counter = line.event.counter := by
  unfold noteSent
  split_ifs <;> rfl

@[simp]
theorem listenOnly_noteResult (line : LineState) (responded isException : Bool) :
    (line.noteResult responded isException).diag.listenOnly = line.diag.listenOnly := by
  unfold LineState.noteResult
  split_ifs <;> rfl

/-- The bookkeeping does not touch the mode. -/
@[simp]
theorem listenOnly_bookkeeping (pdu : List Byte) (isBroadcast : Bool) (h : Handling cfg)
    (line : LineState) :
    (bookkeeping pdu isBroadcast h line).diag.listenOnly = line.diag.listenOnly := by
  unfold bookkeeping
  simp only
  split_ifs <;> simp

/-- A request addressed to the slave: handling, bookkeeping, response frame. -/
def addressedStep (s : Slave cfg) (pdu : List Byte) (isBroadcast : Bool) : Outcome × Slave cfg :=
  let s := s.updateLine LineState.noteBusMessage
  let h := handleRequest (s.updateLine LineState.noteSlaveMessage) pdu isBroadcast
  (⟨.ok, if h.response = [] then [] else rtuFrame s.slaveId h.response⟩,
    h.slave.updateLine (bookkeeping pdu isBroadcast h))

/-- The slave as the dispatchers see it, once the message is counted. -/
def Slave.counted (s : Slave cfg) : Slave cfg :=
  (s.updateLine LineState.noteBusMessage).updateLine LineState.noteSlaveMessage

/-- A request addressed to the slave, by what handling it comes to. -/
theorem addressedStep_eq (s : Slave cfg) (pdu : List Byte) (isBroadcast : Bool) :
    addressedStep s pdu isBroadcast =
      (⟨.ok, if (handleRequest s.counted pdu isBroadcast).response = [] then []
          else rtuFrame s.slaveId (handleRequest s.counted pdu isBroadcast).response⟩,
        (handleRequest s.counted pdu isBroadcast).slave.updateLine
          (bookkeeping pdu isBroadcast (handleRequest s.counted pdu isBroadcast))) := rfl

/-- What is sent is the response, in a frame. -/
theorem tx_addressedStep (s : Slave cfg) (pdu : List Byte) (isBroadcast : Bool) :
    (addressedStep s pdu isBroadcast).1.tx =
      if (handleRequest s.counted pdu isBroadcast).response = [] then []
      else rtuFrame s.slaveId (handleRequest s.counted pdu isBroadcast).response := rfl

/-- A frame received by the slave. -/
def slaveStep (s : Slave cfg) (rx : List Byte) : Outcome × Slave cfg :=
  if ¬ lengthValid rx then (⟨.error, []⟩, s)
  else if ¬ crcValid rx then (⟨.crcError, []⟩, s.updateLine LineState.noteCommError)
  else if byteAt rx 0 ≠ s.slaveId ∧ byteAt rx 0 ≠ 0 then
    (⟨.ok, []⟩, s.updateLine LineState.noteBusMessage)
  else addressedStep s (framePdu rx) (byteAt rx 0 = 0)

/-- The four kinds of frame a slave tells apart. -/
inductive FrameKind (slaveId : Byte) (rx : List Byte) : Prop
  | malformed (hlength : ¬ lengthValid rx)
  | corrupted (hlength : lengthValid rx) (hcrc : ¬ crcValid rx)
  | foreign (hlength : lengthValid rx) (hcrc : crcValid rx)
      (haddr : byteAt rx 0 ≠ slaveId ∧ byteAt rx 0 ≠ 0)
  | addressed (hlength : lengthValid rx) (hcrc : crcValid rx)
      (haddr : byteAt rx 0 = slaveId ∨ byteAt rx 0 = 0)

theorem frameKind (slaveId : Byte) (rx : List Byte) : FrameKind slaveId rx := by
  by_cases hlength : lengthValid rx
  · by_cases hcrc : crcValid rx
    · by_cases haddr : byteAt rx 0 = slaveId ∨ byteAt rx 0 = 0
      · exact .addressed hlength hcrc haddr
      · exact .foreign hlength hcrc (not_or.mp haddr)
    · exact .corrupted hlength hcrc
  · exact .malformed hlength

section Kinds

variable {s : Slave cfg} {rx : List Byte}

theorem slaveStep_malformed (hlength : ¬ lengthValid rx) : slaveStep s rx = (⟨.error, []⟩, s) :=
  if_pos hlength

theorem slaveStep_corrupted (hlength : lengthValid rx) (hcrc : ¬ crcValid rx) :
    slaveStep s rx = (⟨.crcError, []⟩, s.updateLine LineState.noteCommError) := by
  rw [slaveStep, if_neg (not_not_intro hlength), if_pos hcrc]

theorem slaveStep_foreign (hlength : lengthValid rx) (hcrc : crcValid rx)
    (haddr : byteAt rx 0 ≠ s.slaveId ∧ byteAt rx 0 ≠ 0) :
    slaveStep s rx = (⟨.ok, []⟩, s.updateLine LineState.noteBusMessage) := by
  rw [slaveStep, if_neg (not_not_intro hlength), if_neg (not_not_intro hcrc), if_pos haddr]

/-- A valid frame for the slave, by its id or as a broadcast. -/
theorem slaveStep_addressed (hlength : lengthValid rx) (hcrc : crcValid rx)
    (haddr : byteAt rx 0 = s.slaveId ∨ byteAt rx 0 = 0) :
    slaveStep s rx = addressedStep s (framePdu rx) (byteAt rx 0 = 0) := by
  have hforUs : ¬ (byteAt rx 0 ≠ s.slaveId ∧ byteAt rx 0 ≠ 0) := by
    rintro ⟨hother, hnonzero⟩
    exact haddr.elim hother hnonzero
  rw [slaveStep, if_neg (not_not_intro hlength), if_neg (not_not_intro hcrc), if_neg hforUs]

/-- What neither the bookkeeping nor a request touches, a frame leaves alone. -/
theorem slaveStep_unchanged {α : Type*} (view : Slave cfg → α)
    (hline : ∀ t f, view (Slave.updateLine t f) = view t)
    (hhandled : ∀ pdu isBroadcast,
      view (handleRequest s.counted pdu isBroadcast).slave = view s.counted)
    (rx : List Byte) : view (slaveStep s rx).2 = view s := by
  cases frameKind s.slaveId rx with
  | malformed hlength => rw [slaveStep_malformed hlength]
  | corrupted hlength hcrc => rw [slaveStep_corrupted hlength hcrc, hline]
  | foreign hlength hcrc haddr => rw [slaveStep_foreign hlength hcrc haddr, hline]
  | addressed hlength hcrc haddr =>
      rw [slaveStep_addressed hlength hcrc haddr, addressedStep_eq, hline, hhandled, Slave.counted,
        hline, hline]

end Kinds

/-! ## What is built -/

/-- Handling a request under a function code builds nothing, or a reply to it of
at most 253 bytes. -/
def Builds (functionCode : Byte) (built : List Byte) : Prop :=
  built = [] ∨ ReplyShape functionCode built ∧ built.length ≤ 253

theorem Builds.nil (functionCode : Byte) : Builds functionCode [] := .inl rfl

theorem Builds.exception (functionCode : Byte) (e : ExceptionCode) :
    Builds functionCode (exceptionPdu functionCode e) := .inr ⟨.exception e, by simp [exceptionPdu]⟩

/-- A reply that begins with the function code. -/
theorem Builds.normal {fc : FunctionCode} {built : List Byte} (hcode : byteAt built 0 = fc.code)
    (hlow : 2 ≤ built.length) (hhigh : built.length ≤ 253) : Builds fc.code built :=
  .inr ⟨.normal built hcode fc.msb_code hlow, hhigh⟩

/-- The four kinds of reply of the diagnostics dispatcher. -/
inductive DiagReply (pdu : List Byte) : List Byte → Prop
  | silent : DiagReply pdu []
  | refused (e : ExceptionCode) : DiagReply pdu (modbusDiagException e)
  | echo (length : 5 ≤ pdu.length) : DiagReply pdu (pdu.take 5)
  | value (w : Word) : DiagReply pdu (diagValuePdu pdu w)

theorem diagReply_diagDispatch {pdu : List Byte} (hlength : 5 ≤ pdu.length) (isBroadcast : Bool)
    (line : LineState) : DiagReply pdu (diagDispatch pdu isBroadcast line).1 := by
  have hecho : DiagReply pdu (pdu.take 5) := .echo hlength
  unfold diagDispatch
  cases DiagSub.ofWord (wordAt pdu 1) with
  | none => exact .refused _
  | some sub =>
      cases sub with
      | returnQueryData | changeAsciiDelimiter => exact hecho
      | restartComm =>
          simp only
          split_ifs
          · exact .refused _
          · exact .silent
          · exact .silent
          · exact hecho
      | forceListenOnly =>
          simp only
          split_ifs
          · exact .refused _
          · exact .silent
      | clearCounters =>
          simp only
          split_ifs
          · exact .refused _
          · exact .silent
          · exact hecho
      | clearOverrun =>
          simp only
          split_ifs
          · exact .refused _
          · exact hecho
      | _ =>
          simp only
          split_ifs
          · exact .refused _
          · exact .value _

theorem diagReply_modbusDiagProcess (pdu : List Byte) (isBroadcast : Bool) (line : LineState) :
    DiagReply pdu (modbusDiagProcess pdu isBroadcast line).1 := by
  unfold modbusDiagProcess
  split_ifs with hlength hlisten hlisten' hdrop
  · exact .silent
  · exact .refused _
  · exact .silent
  · exact .silent
  · exact diagReply_diagDispatch (by omega) isBroadcast line

/-- Every kind of reply is a reply to the request. -/
theorem DiagReply.builds {pdu built : List Byte} (h : DiagReply pdu built)
    (hcode : byteAt pdu 0 = FunctionCode.diagnostics.code) :
    Builds FunctionCode.diagnostics.code built := by
  cases h with
  | silent => exact .nil _
  | refused e => exact .exception _ e
  | echo hlength =>
      have hfive : (pdu.take 5).length = 5 := by
        rw [List.length_take]
        omega
      exact .normal (by rw [byteAt_take (by decide), hcode]) (by omega) (by omega)
  | value w => exact .normal rfl (by simp [diagValuePdu]) (by simp [diagValuePdu])

theorem builds_modbusEventProcess {fc : FunctionCode} {pdu : List Byte}
    (hcode : byteAt pdu 0 = fc.code) (isBroadcast : Bool) (event : EventState) (w : Word) :
    Builds fc.code (modbusEventProcess pdu isBroadcast event w) := by
  have hcount : event.logCount ≤ 64 := event.logCount_le
  unfold modbusEventProcess
  simp only [hcode]
  split_ifs
  · exact .nil _
  · exact .exception _ _
  · exact .normal rfl (by simp) (by simp)
  · exact .normal rfl (by simp) (by simp; omega)

theorem builds_modbusReportServerIdProcess (n : ℕ) :
    Builds FunctionCode.reportServerId.code (modbusReportServerIdProcess n) := by
  unfold modbusReportServerIdProcess
  split_ifs
  · exact .exception _ _
  · exact .normal rfl (by decide) (by decide)

/-- A reply of the PDU dispatcher fits a frame. -/
theorem length_pduReply_le (flat : cfg.Flat) (hooks : SyncHooks cfg) {rx : List Byte}
    (hrx : rx ≠ []) (env : PduEnv cfg) : (pduReply hooks rx env).1.length ≤ 253 := by
  obtain ⟨r, s', -, h⟩ := yields_modbusPduProcess flat hooks hrx false
    (s := ⟨env, List.replicate 253 0⟩) (by rw [List.length_replicate])
  exact h.2.2.le

/-- Whatever the dispatcher, handling a request builds a reply to it. -/
theorem builds_handleRequest (flat : cfg.Flat) (s : Slave cfg) {pdu : List Byte} (hpdu : pdu ≠ [])
    (isBroadcast : Bool) :
    Builds (byteAt pdu 0) (handleRequest s pdu isBroadcast).built := by
  unfold handleRequest
  simp only
  split_ifs with hdiag hfetch hlisten hid hquiet hlisten' hdrop
  · rw [hdiag]
    exact (diagReply_modbusDiagProcess pdu isBroadcast s.line).builds hdiag
  · exact .nil _
  · rcases Bool.or_eq_true_iff.mp hfetch with hcounter | hlog
    · have hcode : byteAt pdu 0 = FunctionCode.getCommEventCounter.code := by simpa using hcounter
      rw [hcode]
      exact builds_modbusEventProcess hcode _ _ _
    · have hcode : byteAt pdu 0 = FunctionCode.getCommEventLog.code := by simpa using hlog
      rw [hcode]
      exact builds_modbusEventProcess hcode _ _ _
  · exact .nil _
  · rw [hid]
    exact builds_modbusReportServerIdProcess _
  · exact .nil _
  · exact .nil _
  · exact .inr ⟨replyShape_pduReply s.hooks pdu s.env, length_pduReply_le flat s.hooks hpdu s.env⟩

end AutomationBoard.Modbus
