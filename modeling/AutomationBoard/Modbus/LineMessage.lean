/-
# What a message does to the serial-line state

The counters, the mode and the log of a slave are changed from several places of
the code, before and after the dispatcher. What a message does to them is said
once here, by the command in it and the answer to it; no invariant of the line
looks at the code again.
-/

import AutomationBoard.Modbus.Master
import AutomationBoard.Modbus.Refinement.Rtu

namespace AutomationBoard.Modbus

open AutomationBoard.Program

variable {cfg : Config}

/-! ## Answers -/

/-- How a request is answered. -/
inductive Answer
  | silent
  | normal
  | exception (code : Byte)
  deriving DecidableEq

/-- The answer in a response frame; no bytes are no answer. -/
def answerOf (tx : List Byte) : Answer :=
  if tx = [] then .silent
  else if (byteAt tx 1).msb then .exception (byteAt tx 2)
  else .normal

/-! ## Commands -/

/-- The diagnostic commands that change the mode or a statistic. -/
inductive LineCommand
  | restart (clearLog : Bool)
  | forceListenOnly
  | clearCounters
  | clearOverrun
  deriving DecidableEq

namespace LineCommand

/-- The commands that clear the diagnostic counters, and the event counter with
them. -/
def clears : LineCommand → Bool
  | restart _ | clearCounters => true
  | _ => false

/-- The mode after a command. -/
def listenOnly (before : Bool) : LineCommand → Bool
  | restart _ => false
  | forceListenOnly => true
  | _ => before

/-- The effect of a command on the serial-line state. -/
def execute (line : LineState) : LineCommand → LineState
  | restart clearLog =>
      ⟨{ line.diag.clearCounters with listenOnly := false }, line.event.noteRestart clearLog⟩
  | forceListenOnly =>
      ⟨{ line.diag with listenOnly := true }, line.event.push eventEnterListenOnly⟩
  | clearCounters => ⟨line.diag.clearCounters, line.event.clearCounter⟩
  | clearOverrun => { line with diag := { line.diag with charOverrunCount := 0 } }

end LineCommand

/-- The command that a sub-function with its data stands for. Listen-only mode
leaves only the restart, a broadcast all but the last. -/
def LineCommand.ofDiag (listenOnly isBroadcast : Bool) (data : Word) :
    DiagSub → Option LineCommand
  | .restartComm =>
      if data = 0x0000 then some (.restart false)
      else if data = 0xFF00 then some (.restart true)
      else none
  | .forceListenOnly => if ¬ listenOnly ∧ data = 0x0000 then some .forceListenOnly else none
  | .clearCounters => if ¬ listenOnly ∧ data = 0x0000 then some .clearCounters else none
  | .clearOverrun =>
      if ¬ listenOnly ∧ ¬ isBroadcast ∧ data = 0x0000 then some .clearOverrun else none
  | _ => none

/-- The command that a request makes the slave execute, in the mode it is in. -/
def executedCommand (listenOnly isBroadcast : Bool) (pdu : List Byte) : Option LineCommand :=
  if byteAt pdu 0 = FunctionCode.diagnostics.code ∧ 5 ≤ pdu.length then
    (DiagSub.ofWord (wordAt pdu 1)).bind
      (LineCommand.ofDiag listenOnly isBroadcast (wordAt pdu 3))
  else none

/-- The serial-line state after a command, if there is one. -/
def commanded (line : LineState) : Option LineCommand → LineState
  | some command => command.execute line
  | none => line

/-- The request in a PDU is well formed, and nothing in it is refused. -/
def accepted (cfg : Config) (pdu : List Byte) : Bool :=
  match parseRequest cfg pdu with
  | .ok r => r.refusal.isNone
  | .error _ => false

/-- A broadcast request that writes, and that is carried out. -/
def writtenByBroadcast (cfg : Config) (isBroadcast : Bool) (pdu : List Byte) : Bool :=
  isBroadcast && isWrite pdu && accepted cfg pdu

/-- A message that counts as completed: answered normally, or a broadcast write
that was carried out. The fetch commands, the commands that clear the counter
and all that is received in listen-only mode do not count. -/
def completes (cfg : Config) (listenOnly isBroadcast : Bool) (pdu : List Byte) (answer : Answer) :
    Bool :=
  !listenOnly && !isFetch (byteAt pdu 0) &&
    !(executedCommand listenOnly isBroadcast pdu).any LineCommand.clears &&
    (answer = .normal || writtenByBroadcast cfg isBroadcast pdu)

/-! ## What a diagnostic request does -/

/-- The four ways in which a diagnostic request ends: a command is executed and
echoed where an answer is due, the request is refused, it is answered without
an effect, or it is ignored. -/
inductive DiagEffect (line : LineState) (isBroadcast : Bool) (pdu : List Byte) :
    List Byte → LineState → Prop
  | executed (command : LineCommand)
      (hcommand : executedCommand line.diag.listenOnly isBroadcast pdu = some command)
      (hresets : resetsEvents pdu = command.clears) {reply : List Byte} {line' : LineState}
      (hreply : reply = if isBroadcast ∨ line.diag.listenOnly ∨ command = .forceListenOnly then []
        else pdu.take 5)
      (hline : line' = command.execute line) : DiagEffect line isBroadcast pdu reply line'
  | refused (hcommand : executedCommand line.diag.listenOnly isBroadcast pdu = none)
      (e : ExceptionCode) : DiagEffect line isBroadcast pdu (modbusDiagException e) line
  | answered (hcommand : executedCommand line.diag.listenOnly isBroadcast pdu = none)
      (hresets : resetsEvents pdu = false) (hactive : line.diag.listenOnly = false)
      {reply : List Byte} (hcode : byteAt reply 0 = FunctionCode.diagnostics.code) :
      DiagEffect line isBroadcast pdu reply line
  | ignored (hcommand : executedCommand line.diag.listenOnly isBroadcast pdu = none) :
      DiagEffect line isBroadcast pdu [] line

/-- Listen-only mode leaves no command but the restart. -/
theorem executedCommand_listening {pdu : List Byte}
    (hother : wordAt pdu 1 ≠ DiagSub.restartComm.code) (isBroadcast : Bool) :
    executedCommand true isBroadcast pdu = none := by
  rw [executedCommand]
  cases hsub : DiagSub.ofWord (wordAt pdu 1) with
  | none => rw [Option.bind_none, ite_self]
  | some sub =>
      have hword := DiagSub.ofWord_eq_some.mp hsub
      cases sub with
      | restartComm => exact absurd hword.symm hother
      | _ => simp [LineCommand.ofDiag]

/-- A broadcast executes no sub-function that is not eligible for it. -/
theorem executedCommand_ineligible {pdu : List Byte}
    (hnot : ¬ modbusDiagBroadcastEligible (wordAt pdu 1)) (listenOnly : Bool) :
    executedCommand listenOnly true pdu = none := by
  rw [executedCommand]
  cases hsub : DiagSub.ofWord (wordAt pdu 1) with
  | none => rw [Option.bind_none, ite_self]
  | some sub =>
      rw [← DiagSub.ofWord_eq_some.mp hsub] at hnot
      cases sub with
      | restartComm | forceListenOnly | clearCounters => exact absurd (by decide) hnot
      | _ => simp [LineCommand.ofDiag]

/-- The overruns alone are cleared by a unicast request outside listen-only mode. -/
theorem active_of_clearOverrun {listenOnly isBroadcast : Bool} {pdu : List Byte}
    (hcommand : executedCommand listenOnly isBroadcast pdu = some .clearOverrun) :
    listenOnly = false ∧ isBroadcast = false := by
  rw [executedCommand] at hcommand
  split_ifs at hcommand
  obtain ⟨sub, -, hsub⟩ := Option.bind_eq_some_iff.mp hcommand
  cases sub with
  | clearOverrun =>
      rw [LineCommand.ofDiag] at hsub
      split_ifs at hsub with hactive
      exact ⟨Bool.eq_false_of_not_eq_true hactive.1, Bool.eq_false_of_not_eq_true hactive.2.1⟩
  | restartComm | forceListenOnly | clearCounters =>
      rw [LineCommand.ofDiag] at hsub
      split_ifs at hsub <;> simp at hsub
  | _ => cases hsub

section Diagnostics

variable {line : LineState} {isBroadcast : Bool} {pdu : List Byte}
  (hcode : byteAt pdu 0 = FunctionCode.diagnostics.code)
include hcode

theorem executedCommand_eq (hlength : 5 ≤ pdu.length) {sub : DiagSub}
    (hsub : wordAt pdu 1 = sub.code) (listenOnly isBroadcast : Bool) :
    executedCommand listenOnly isBroadcast pdu =
      LineCommand.ofDiag listenOnly isBroadcast (wordAt pdu 3) sub := by
  rw [executedCommand, if_pos ⟨hcode, hlength⟩, hsub, DiagSub.ofWord_code, Option.bind_some]

theorem resetsEvents_eq (hlength : 5 ≤ pdu.length) {sub : DiagSub}
    (hsub : wordAt pdu 1 = sub.code) :
    resetsEvents pdu = (sub = .restartComm || sub = .clearCounters) := by
  have hthree : decide (pdu.length ≥ 3) = true := by
    rw [decide_eq_true_iff]
    omega
  rw [resetsEvents, hcode, hsub, hthree]
  cases sub <;> rfl

/-- A restart is refused for its data or, in either mode, executed. -/
theorem diagEffect_restartComm (hlength : 5 ≤ pdu.length)
    (hsub : wordAt pdu 1 = DiagSub.restartComm.code) :
    DiagEffect line isBroadcast pdu (diagDispatch pdu isBroadcast line).1
      (diagDispatch pdu isBroadcast line).2 := by
  have hcommand := executedCommand_eq hcode hlength hsub line.diag.listenOnly isBroadcast
  have hresets := resetsEvents_eq hcode hlength hsub
  rw [diagDispatch, hsub, DiagSub.ofWord_code]
  by_cases hdata : wordAt pdu 3 ≠ 0x0000 ∧ wordAt pdu 3 ≠ 0xFF00
  · rw [LineCommand.ofDiag, if_neg hdata.1, if_neg hdata.2] at hcommand
    simp only [if_pos hdata]
    exact .refused hcommand _
  · have hrestart : executedCommand line.diag.listenOnly isBroadcast pdu =
        some (.restart (wordAt pdu 3 = 0xFF00)) := by
      rw [hcommand, LineCommand.ofDiag]
      by_cases hzero : wordAt pdu 3 = 0x0000
      · rw [if_pos hzero, hzero]
        rfl
      · have hff : wordAt pdu 3 = 0xFF00 := not_not.mp fun h => hdata ⟨hzero, h⟩
        rw [if_neg hzero, if_pos hff, hff]
        rfl
    simp only [if_neg hdata]
    cases hlisten : line.diag.listenOnly with
    | true => exact .executed _ hrestart hresets (by simp [hlisten]) rfl
    | false =>
        have hsame : { line.diag.clearCounters with listenOnly := false } =
            line.diag.clearCounters := by
          rw [DiagState.clearCounters, hlisten]
        have heffect := DiagEffect.executed _ hrestart hresets rfl rfl
        rw [LineCommand.execute, hsame] at heffect
        cases isBroadcast <;> simpa [hlisten] using heffect

/-- The effect of the `switch`, in a mode and for a destination that let the
request through. -/
theorem diagEffect_diagDispatch (hlength : 5 ≤ pdu.length) {sub : DiagSub}
    (hsub : wordAt pdu 1 = sub.code)
    (hmode : line.diag.listenOnly = true → sub = .restartComm)
    (hto : isBroadcast = true → modbusDiagBroadcastEligible sub.code = true) :
    DiagEffect line isBroadcast pdu (diagDispatch pdu isBroadcast line).1
      (diagDispatch pdu isBroadcast line).2 := by
  have hcommand := executedCommand_eq hcode hlength hsub line.diag.listenOnly isBroadcast
  have hresets := resetsEvents_eq hcode hlength hsub
  have hecho : byteAt (pdu.take 5) 0 = FunctionCode.diagnostics.code := by
    rw [byteAt_take (by decide), hcode]
  by_cases hrestart : sub = .restartComm
  · exact diagEffect_restartComm hcode hlength (hrestart ▸ hsub)
  have hlisten : ¬ line.diag.listenOnly = true := fun h => hrestart (hmode h)
  have hactive := Bool.eq_false_of_not_eq_true hlisten
  rw [diagDispatch, hsub, DiagSub.ofWord_code]
  cases sub with
  | restartComm => exact absurd rfl hrestart
  | forceListenOnly =>
      by_cases hdata : wordAt pdu 3 ≠ 0x0000
      · rw [LineCommand.ofDiag, if_neg fun h => hdata h.2] at hcommand
        simp only [if_pos hdata]
        exact .refused hcommand _
      · rw [LineCommand.ofDiag, if_pos ⟨hlisten, not_not.mp hdata⟩] at hcommand
        simp only [if_neg hdata]
        exact .executed _ hcommand hresets (by simp) rfl
  | clearCounters =>
      by_cases hdata : wordAt pdu 3 ≠ 0x0000
      · rw [LineCommand.ofDiag, if_neg fun h => hdata h.2] at hcommand
        simp only [if_pos hdata]
        exact .refused hcommand _
      · rw [LineCommand.ofDiag, if_pos ⟨hlisten, not_not.mp hdata⟩] at hcommand
        have heffect := DiagEffect.executed _ hcommand hresets rfl rfl
        rw [LineCommand.execute] at heffect
        simp only [if_neg hdata]
        cases isBroadcast <;> simpa [hlisten] using heffect
  | clearOverrun =>
      have hunicast : ¬ isBroadcast = true := fun h => Bool.false_ne_true (hto h)
      by_cases hdata : wordAt pdu 3 ≠ 0x0000
      · rw [LineCommand.ofDiag, if_neg fun h => hdata h.2.2] at hcommand
        simp only [if_pos hdata]
        exact .refused hcommand _
      · rw [LineCommand.ofDiag, if_pos ⟨hlisten, hunicast, not_not.mp hdata⟩] at hcommand
        simp only [if_neg hdata]
        exact .executed _ hcommand hresets (by simp [hlisten, hunicast]) rfl
  | returnQueryData | changeAsciiDelimiter => exact .answered hcommand hresets hactive hecho
  | _ =>
      simp only
      split_ifs
      · exact .refused hcommand _
      · exact .answered hcommand hresets hactive rfl

/-- The effect of `modbus_diag_process`. -/
theorem diagEffect_modbusDiagProcess (line : LineState) (isBroadcast : Bool) :
    DiagEffect line isBroadcast pdu (modbusDiagProcess pdu isBroadcast line).1
      (modbusDiagProcess pdu isBroadcast line).2 := by
  rw [modbusDiagProcess]
  by_cases hlength : 5 ≤ pdu.length
  · rw [if_neg (Nat.not_lt_of_le hlength)]
    by_cases hmode : line.diag.listenOnly ∧ wordAt pdu 1 ≠ DiagSub.restartComm.code
    · rw [if_pos hmode]
      refine .ignored ?_
      rw [hmode.1, executedCommand_listening hmode.2]
    · rw [if_neg hmode]
      by_cases hto : isBroadcast ∧ ¬ modbusDiagBroadcastEligible (wordAt pdu 1)
      · rw [if_pos hto]
        refine .ignored ?_
        rw [hto.1, executedCommand_ineligible hto.2]
      · rw [if_neg hto]
        cases hsub : DiagSub.ofWord (wordAt pdu 1) with
        | none =>
            have hcommand : executedCommand line.diag.listenOnly isBroadcast pdu = none := by
              rw [executedCommand, hsub, Option.bind_none, ite_self]
            rw [diagDispatch, hsub]
            exact .refused hcommand _
        | some sub =>
            have hword := (DiagSub.ofWord_eq_some.mp hsub).symm
            refine diagEffect_diagDispatch hcode hlength hword (fun hlisten => ?_) fun hall => ?_
            · by_contra hother
              refine hmode ⟨hlisten, fun hrestart => hother ?_⟩
              rw [hrestart, DiagSub.ofWord_code] at hsub
              exact (Option.some.inj hsub).symm
            · by_contra hnot
              exact hto ⟨hall, by rwa [hword]⟩
  · have hcommand : executedCommand line.diag.listenOnly isBroadcast pdu = none :=
      if_neg fun h => hlength h.2
    rw [if_pos (Nat.lt_of_not_le hlength)]
    split_ifs
    · exact .ignored hcommand
    · exact .refused hcommand _

end Diagnostics

/-! ## What a request does to the statistics -/

/-- The answer that handling a request comes to. -/
def Handling.answer (h : Handling cfg) : Answer :=
  if h.response = [] then .silent
  else if h.isException then .exception (byteAt h.built 1)
  else .normal

namespace LineState

/-- The result and the send event of an answer. -/
def noteAnswer (line : LineState) (fetch : Bool) : Answer → LineState
  | .silent => line.noteResult false false
  | .normal =>
      let line := line.noteResult true false
      if fetch then line else { line with event := line.event.noteTx 0 }
  | .exception code =>
      let line := line.noteResult true true
      if fetch then line else { line with event := line.event.noteTx code }

/-- The completion of a message, if it is one. -/
def noteCompletion (line : LineState) (completed : Bool) : LineState :=
  if completed then { line with event := line.event.noteSuccess } else line

@[simp]
theorem listenOnly_noteAnswer (line : LineState) (fetch : Bool) (answer : Answer) :
    (line.noteAnswer fetch answer).diag.listenOnly = line.diag.listenOnly := by
  cases answer <;> cases fetch <;> rfl

end LineState

theorem isException_iff (h : Handling cfg) : h.isException = true ↔ (byteAt h.built 0).msb = true := by
  rw [Handling.isException, decide_eq_true_iff, and_exceptionBit_ne_zero]

/-- The bookkeeping after a request, by its answer. -/
theorem noteSent_noteResult (pdu : List Byte) (h : Handling cfg) (line : LineState) :
    noteSent pdu h (line.noteResult (h.response ≠ []) (h.response ≠ [] && h.isException)) =
      line.noteAnswer (isFetch (byteAt pdu 0)) h.answer := by
  unfold noteSent Handling.answer
  by_cases hnone : h.response = []
  · simp [hnone, LineState.noteAnswer]
  · cases hexception : h.isException <;> cases isFetch (byteAt pdu 0) <;>
      simp [hnone, LineState.noteAnswer]

/-- A unicast request is answered with what is built. -/
theorem sent_handleRequest_unicast (s : Slave cfg) (pdu : List Byte) :
    (handleRequest s pdu false).sent = true := by
  unfold handleRequest
  simp only
  split_ifs <;> rfl

/-- A request outside the diagnostics that nothing is done for. -/
theorem answer_ignored (s : Slave cfg) : (Handling.ignored s).answer = .silent := rfl

/-- Only diagnostics requests have commands. -/
theorem executedCommand_of_ne {pdu : List Byte}
    (hother : byteAt pdu 0 ≠ FunctionCode.diagnostics.code) (listenOnly isBroadcast : Bool) :
    executedCommand listenOnly isBroadcast pdu = none := if_neg fun h => hother h.1

theorem resetsEvents_of_ne {pdu : List Byte}
    (hother : byteAt pdu 0 ≠ FunctionCode.diagnostics.code) : resetsEvents pdu = false := by
  simp [resetsEvents, hother]

/-- The serial-line state changes with the command in a request, and with
nothing else that handling the request does. -/
theorem line_handleRequest (s : Slave cfg) (pdu : List Byte) (isBroadcast : Bool) :
    (handleRequest s pdu isBroadcast).slave.line =
      commanded s.line (executedCommand s.listenOnly isBroadcast pdu) := by
  by_cases hdiag : byteAt pdu 0 = FunctionCode.diagnostics.code
  · have heffect := diagEffect_modbusDiagProcess hdiag s.line isBroadcast
    rw [handleRequest, if_pos hdiag]
    show (modbusDiagProcess pdu isBroadcast s.line).2 = _
    rw [Slave.listenOnly]
    generalize modbusDiagProcess pdu isBroadcast s.line = r at heffect ⊢
    obtain ⟨reply, line⟩ := r
    cases heffect with
    | executed command hcommand hresets hreply hline => rw [hcommand, commanded, ← hline]
    | refused hcommand | answered hcommand | ignored hcommand => rw [hcommand, commanded]
  · rw [executedCommand_of_ne hdiag, commanded]
    unfold handleRequest
    simp only [if_neg hdiag]
    split_ifs <;> rfl

/-- The test of the code for a message that completes. -/
def completesInCode (pdu : List Byte) (isBroadcast : Bool) (h : Handling cfg) : Prop :=
  ¬ isFetch (byteAt pdu 0) ∧ ¬ h.isException ∧ ¬ resetsEvents pdu ∧ ¬ h.slave.listenOnly ∧
    (h.response ≠ [] ∨ (isBroadcast ∧ byteAt h.built 0 ≠ 0))

theorem answer_eq_normal (h : Handling cfg) :
    h.answer = .normal ↔ h.response ≠ [] ∧ ¬ h.isException := by
  unfold Handling.answer
  split_ifs with hnone hexception <;> simp [*]

/-- A request that is no write is no broadcast write. -/
theorem writtenByBroadcast_of_not_isWrite {pdu : List Byte} (hread : isWrite pdu = false)
    (isBroadcast : Bool) : writtenByBroadcast cfg isBroadcast pdu = false := by
  rw [writtenByBroadcast, hread, Bool.and_false, Bool.false_and]

/-- A diagnostics request completes in the code when it does for the ledger. -/
theorem completesInCode_diagnostics {s : Slave cfg} {pdu : List Byte}
    (hdiag : byteAt pdu 0 = FunctionCode.diagnostics.code) (isBroadcast : Bool) :
    completesInCode pdu isBroadcast (handleRequest s pdu isBroadcast) ↔
      completes cfg s.listenOnly isBroadcast pdu (handleRequest s pdu isBroadcast).answer := by
  have hfetch : isFetch (byteAt pdu 0) = false := by
    rw [hdiag]
    rfl
  have hwritten : writtenByBroadcast cfg isBroadcast pdu = false := by
    refine writtenByBroadcast_of_not_isWrite ?_ isBroadcast
    rw [isWrite, hdiag]
    rfl
  have heffect := diagEffect_modbusDiagProcess hdiag s.line isBroadcast
  rw [handleRequest, if_pos hdiag, completes, hfetch, hwritten, Bool.or_false, Slave.listenOnly]
  generalize modbusDiagProcess pdu isBroadcast s.line = r at heffect ⊢
  obtain ⟨reply, line⟩ := r
  simp only [Bool.and_eq_true, decide_eq_true_iff, answer_eq_normal, isException_iff,
    completesInCode, hfetch, Handling.response, if_true] at heffect ⊢
  cases heffect with
  | executed command hcommand hresets hreply hline =>
      rw [hcommand, hresets, hline]
      cases command with
      | restart clearLog => simp [LineCommand.clears]
      | clearCounters => simp [LineCommand.clears]
      | forceListenOnly =>
          -- the mode has just begun, and nothing is sent
          simp [hreply, Slave.listenOnly, LineCommand.execute]
      | clearOverrun =>
          obtain ⟨hactive, rfl⟩ := active_of_clearOverrun hcommand
          have hecho : byteAt (pdu.take 5) 0 = 0x08 := by
            rw [byteAt_take (by decide), hdiag]
            rfl
          simp [hreply, hactive, hecho, Slave.listenOnly, LineCommand.execute, LineCommand.clears,
            and_comm]
  | refused hcommand e =>
      have hexception : (byteAt (modbusDiagException e) 0).msb = true := msb_or_exceptionBit _
      simp [hexception]
  | answered hcommand hresets hactive hcode =>
      have hnormal : (byteAt reply 0).msb = false := by
        rw [hcode]
        rfl
      have hsome : reply ≠ [] := by
        rintro rfl
        exact absurd hcode (by decide)
      rw [hcommand]
      simp [hresets, hactive, hnormal, hsome, Slave.listenOnly]
  | ignored hcommand =>
      simp [byteAt]

/-- What is built for a PDU is an exception response unless it is accepted. -/
theorem msb_pduReply (hooks : SyncHooks cfg) (pdu : List Byte) (env : PduEnv cfg) :
    (byteAt (pduReply hooks pdu env).1 0).msb = !accepted cfg pdu := by
  rw [pduReply, accepted]
  cases hparse : parseRequest cfg pdu with
  | error e => exact msb_or_exceptionBit _
  | ok r =>
      obtain ⟨hcode, hlength⟩ := parseRequest_functionCode hparse
      simp only [answer]
      cases hrefusal : r.refusal with
      | none =>
          rw [(execute_normal hooks env hcode hlength hrefusal).1, FunctionCode.msb_code]
          rfl
      | some e =>
          rw [execute_refused hooks env hrefusal]
          exact msb_or_exceptionBit _

/-- What is built for a write begins with a byte other than zero. -/
theorem byteAt_pduReply_ne_zero (hooks : SyncHooks cfg) {pdu : List Byte}
    (hwrite : isWrite pdu = true) (env : PduEnv cfg) : byteAt (pduReply hooks pdu env).1 0 ≠ 0 := by
  intro hzero
  have hshape := replyShape_pduReply hooks pdu env
  generalize (pduReply hooks pdu env).1 = reply at hshape hzero
  cases hshape with
  | exception e =>
      have hmsb : (byteAt (exceptionPdu (byteAt pdu 0) e) 0).msb = true := msb_or_exceptionBit _
      rw [hzero] at hmsb
      cases hmsb
  | normal _ hcode =>
      rw [isWrite, ← hcode, hzero] at hwrite
      cases hwrite

/-- A request of the tables completes in the code when it does for the ledger:
the first byte of what a broadcast leaves in the buffer tells. -/
theorem completesInCode_pduReply {s : Slave cfg} {pdu : List Byte}
    (hother : byteAt pdu 0 ≠ FunctionCode.diagnostics.code)
    (hfetch : isFetch (byteAt pdu 0) = false) (hactive : s.listenOnly = false)
    {isBroadcast : Bool} (hkept : broadcastDropped pdu isBroadcast = false) :
    completesInCode pdu isBroadcast
        ⟨(pduReply s.hooks pdu s.env).1, !isBroadcast,
          { s with env := (pduReply s.hooks pdu s.env).2 }⟩ ↔
      completes cfg s.listenOnly isBroadcast pdu
        (⟨(pduReply s.hooks pdu s.env).1, !isBroadcast,
          { s with env := (pduReply s.hooks pdu s.env).2 }⟩ : Handling cfg).answer := by
  have hsome : (pduReply s.hooks pdu s.env).1 ≠ [] := by
    intro hnil
    have htwo := (replyShape_pduReply s.hooks pdu s.env).two_le_length
    rw [hnil] at htwo
    exact absurd htwo (by decide)
  have hmsb := msb_pduReply s.hooks pdu s.env
  rw [completes, executedCommand_of_ne hother, hfetch, hactive]
  simp only [Bool.and_eq_true, Bool.or_eq_true, decide_eq_true_iff, answer_eq_normal, isException_iff,
    completesInCode, hfetch, Handling.response, resetsEvents_of_ne hother, hmsb]
  have hmode : s.line.diag.listenOnly = false := hactive
  cases isBroadcast with
  | false => simp [writtenByBroadcast, hsome, hmode, Slave.listenOnly]
  | true =>
      have hwrite : isWrite pdu = true := by
        rw [isWrite_eq]
        simpa [broadcastDropped] using hkept
      have hfirst := byteAt_pduReply_ne_zero s.hooks hwrite s.env
      simpa [writtenByBroadcast, hmode, hwrite, Slave.listenOnly] using fun _ => hfirst

/-- An ignored request completes neither in the code nor for the ledger. -/
theorem completesInCode_ignored {s : Slave cfg} {pdu : List Byte} {isBroadcast : Bool}
    (hquiet : s.listenOnly = true ∨ isWrite pdu = false) :
    completesInCode pdu isBroadcast (.ignored s : Handling cfg) ↔
      completes cfg s.listenOnly isBroadcast pdu (.ignored s : Handling cfg).answer := by
  refine iff_of_false ?_ ?_
  · rintro ⟨-, -, -, -, hanswered | ⟨-, hbuilt⟩⟩
    · exact hanswered rfl
    · exact hbuilt rfl
  · rw [answer_ignored, completes]
    rcases hquiet with hlisten | hread
    · simp [hlisten]
    · simp [writtenByBroadcast, hread]

/-- A request completes in the code when it does for the ledger. -/
theorem completesInCode_iff (s : Slave cfg) (pdu : List Byte) (isBroadcast : Bool) :
    completesInCode pdu isBroadcast (handleRequest s pdu isBroadcast) ↔
      completes cfg s.listenOnly isBroadcast pdu (handleRequest s pdu isBroadcast).answer := by
  by_cases hdiag : byteAt pdu 0 = FunctionCode.diagnostics.code
  · exact completesInCode_diagnostics hdiag isBroadcast
  · unfold handleRequest
    simp only [if_neg hdiag]
    split_ifs with hfetch hlisten hid hquiet hlisten' hdrop
    · exact completesInCode_ignored (.inl hlisten)
    · exact iff_of_false (fun h => h.1 hfetch) (by simp [completes, hfetch])
    · have hread : isWrite pdu = false := by
        rw [isWrite, hid]
        rfl
      exact completesInCode_ignored (.inr hread)
    · obtain ⟨hactive, hunicast⟩ := not_or.mp hquiet
      simp [completesInCode, completes, answer_eq_normal, Handling.response, hfetch, hactive, hunicast,
        executedCommand_of_ne hdiag, resetsEvents_of_ne hdiag, writtenByBroadcast, and_comm]
    · exact completesInCode_ignored (.inl hlisten')
    · have hread : isWrite pdu = false := by
        rw [isWrite_eq]
        exact (by simpa [broadcastDropped] using hdrop : _ ∧ _).2
      exact completesInCode_ignored (.inr hread)
    · exact completesInCode_pduReply hdiag (by simpa using hfetch) (by simpa using hlisten')
        (by simpa using hdrop)

/-- What a message does to the serial-line state: it is counted, its command is
executed, its answer is noted, and its completion. -/
def LineState.message (cfg : Config) (line : LineState) (pdu : List Byte) (isBroadcast : Bool)
    (answer : Answer) : LineState :=
  let listenOnly := line.diag.listenOnly
  let line := commanded line.noteBusMessage.noteSlaveMessage
    (executedCommand listenOnly isBroadcast pdu)
  (line.noteAnswer (isFetch (byteAt pdu 0)) answer).noteCompletion
    (completes cfg listenOnly isBroadcast pdu answer)

/-- A fetch of the log outside listen-only mode. -/
theorem handleRequest_getCommEventLog {s : Slave cfg} (hactive : s.listenOnly = false) :
    handleRequest s [FunctionCode.getCommEventLog.code] false =
      ⟨FunctionCode.getCommEventLog.code :: BitVec.ofNat 8 (6 + s.line.event.logCount) ::
        (bytesOfWords [eventStatusReady, s.line.event.counter,
          s.line.diag.counterRead .slaveMessageCount] ++ s.line.event.events), true, s⟩ := by
  rw [handleRequest]
  simp only [hactive]
  rfl

/-- The bookkeeping notes the answer, and the completion if there is one. -/
theorem bookkeeping_eq {pdu : List Byte} {isBroadcast : Bool} {h : Handling cfg} {completed : Bool}
    (hcompletes : completesInCode pdu isBroadcast h ↔ completed = true) :
    bookkeeping pdu isBroadcast h h.slave.line =
      (h.slave.line.noteAnswer (isFetch (byteAt pdu 0)) h.answer).noteCompletion completed := by
  have hmode := LineState.listenOnly_noteAnswer h.slave.line (isFetch (byteAt pdu 0)) h.answer
  unfold bookkeeping LineState.noteCompletion
  simp only [noteSent_noteResult, hmode, decide_eq_true_iff]
  by_cases hcompleted : completed = true
  · rw [if_pos hcompleted]
    exact if_pos (hcompletes.mpr hcompleted)
  · rw [if_neg hcompleted]
    exact if_neg fun hc => hcompleted (hcompletes.mp hc)

theorem line_addressedStep (s : Slave cfg) (pdu : List Byte) (isBroadcast : Bool) :
    (addressedStep s pdu isBroadcast).2.line =
      s.line.message cfg pdu isBroadcast (handleRequest s.counted pdu isBroadcast).answer := by
  have hbook := bookkeeping_eq (completesInCode_iff s.counted pdu isBroadcast)
  rw [line_handleRequest s.counted pdu isBroadcast] at hbook
  exact (congrArg _ (line_handleRequest s.counted pdu isBroadcast)).trans hbook

/-- The observer sees the answer that handling the request came to. -/
theorem answerOf_addressedStep (flat : cfg.Flat) (s : Slave cfg) {pdu : List Byte}
    (hpdu : pdu ≠ []) (isBroadcast : Bool) :
    answerOf (addressedStep s pdu isBroadcast).1.tx =
      (handleRequest s.counted pdu isBroadcast).answer := by
  have hbuilds := builds_handleRequest flat s.counted hpdu isBroadcast
  rw [tx_addressedStep]
  generalize handleRequest s.counted pdu isBroadcast = h at hbuilds ⊢
  rw [Handling.answer]
  by_cases hnone : h.response = []
  · rw [if_pos hnone, if_pos hnone]
    rfl
  · have hsent := h.response_eq_built hnone
    rcases hbuilds with hnil | ⟨hshape, -⟩
    · exact absurd (hsent.trans hnil) hnone
    · have htwo := hshape.two_le_length
      rw [if_neg hnone, if_neg hnone, hsent, answerOf, if_neg (by simp [rtuFrame]),
        byteAt_rtuFrame_succ _ _ (by omega), byteAt_rtuFrame_succ _ _ (by omega)]
      simp only [← isException_iff]

/-- A command that clears the counters is echoed, unless it is a broadcast or is
received in listen-only mode. -/
theorem answer_of_clears {s : Slave cfg} {pdu : List Byte} {isBroadcast : Bool}
    {command : LineCommand}
    (hcommand : executedCommand s.listenOnly isBroadcast pdu = some command)
    (hclears : command.clears = true) :
    (handleRequest s pdu isBroadcast).answer =
      if isBroadcast || s.listenOnly then .silent else .normal := by
  have hdiag : byteAt pdu 0 = FunctionCode.diagnostics.code := by
    by_contra hother
    rw [executedCommand_of_ne hother] at hcommand
    cases hcommand
  have heffect := diagEffect_modbusDiagProcess hdiag s.line isBroadcast
  rw [handleRequest, if_pos hdiag]
  rw [Slave.listenOnly] at hcommand ⊢
  generalize modbusDiagProcess pdu isBroadcast s.line = r at heffect ⊢
  obtain ⟨reply, line⟩ := r
  simp only at heffect ⊢
  cases heffect with
  | executed command' hcommand' hresets hreply hline =>
      obtain rfl : command = command' := Option.some.inj (hcommand.symm.trans hcommand')
      have hforce : command ≠ .forceListenOnly := by
        rintro rfl
        cases hclears
      have hecho : byteAt (pdu.take 5) 0 = 0x08 := by
        rw [byteAt_take (by decide), hdiag]
        rfl
      have hsome : pdu.take 5 ≠ [] := by
        intro hnil
        rw [hnil] at hecho
        cases hecho
      by_cases hsilent : isBroadcast = true ∨ s.line.diag.listenOnly = true
      · rw [hreply, if_pos (hsilent.imp_right .inl), if_pos (by simpa using hsilent)]
        rfl
      · have hdue : ¬ (isBroadcast = true ∨ s.line.diag.listenOnly = true ∨
            command = .forceListenOnly) := fun h =>
          h.elim (fun hb => hsilent (.inl hb)) fun h => h.elim (fun hl => hsilent (.inr hl)) hforce
        rw [hreply, if_neg hdue, if_neg (by simpa using hsilent), answer_eq_normal, isException_iff]
        refine ⟨hsome, ?_⟩
        rw [hecho]
        decide
  | refused hnone | answered hnone | ignored hnone =>
      rw [hcommand] at hnone
      cases hnone

end AutomationBoard.Modbus
