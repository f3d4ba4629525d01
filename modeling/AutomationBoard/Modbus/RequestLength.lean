/-
# The length of a request

Each function code prescribes the length of its requests, some with the help of
a byte count in them. A request of another length should be refused for that,
with exception 03, and never be carried out. Most branches of the dispatchers
test the length first. The diagnostics and the device identification only ask
for enough bytes, and the writes of several elements look at the address range
before they compare the length with the byte count.
-/

import AutomationBoard.Modbus.Broadcast
import AutomationBoard.Modbus.LineMessage
import AutomationBoard.Modbus.ListenOnly

namespace AutomationBoard.Modbus

open AutomationBoard.Program

variable {cfg : Config}

/-! ## The grammar -/

/-- The length that the function code of a PDU prescribes, if it is one of those
the slave implements. -/
def requestLength (pdu : List Byte) : Option ℕ :=
  match FunctionCode.ofByte (byteAt pdu 0) with
  | some .readCoils | some .readDiscreteInputs | some .readHoldingRegisters
  | some .readInputRegisters | some .writeSingleCoil | some .writeSingleRegister
  | some .diagnostics => some 5
  | some .readExceptionStatus | some .getCommEventCounter | some .getCommEventLog
  | some .reportServerId => some 1
  | some .writeMultipleCoils | some .writeMultipleRegisters => some (6 + (byteAt pdu 5).toNat)
  | some .readFileRecord | some .writeFileRecord => some (2 + (byteAt pdu 1).toNat)
  | some .maskWriteRegister => some 7
  | some .readWriteMultipleRegs => some (10 + (byteAt pdu 9).toNat)
  | some .readFifoQueue => some 3
  | some .encapsulatedInterface => if byteAt pdu 1 = 0x0E then some 4 else none
  | none => none

/-- A PDU with one of these function codes is shorter or longer than prescribed. -/
def WrongLength (pdu : List Byte) : Prop := ∃ n, requestLength pdu = some n ∧ pdu.length ≠ n

/-- Nothing is executed: the message is counted and its answer noted, and the
tables, the files, the mode, the statistics and the log are otherwise kept. -/
def NotExecuted (s : Slave cfg) (pdu : List Byte) (answer : Answer) (s' : Slave cfg) : Prop :=
  s' = { s with line := s.counted.line.noteAnswer (isFetch (byteAt pdu 0)) answer }

/-- A request is answered normally or executed only if it has the prescribed
length, and refused for its length if it has not. -/
structure FollowsGrammar (s : Slave cfg) (isBroadcast : Bool) (pdu : List Byte) (answer : Answer)
    (s' : Slave cfg) : Prop where
  normal : answer = .normal → requestLength pdu = some pdu.length
  executed : ¬ NotExecuted s pdu answer s' → requestLength pdu = some pdu.length
  refused : WrongLength pdu →
    answer = if isBroadcast || s.listenOnly then .silent
      else .exception ExceptionCode.illegalDataValue.code

/-! ## The gaps -/

/-- The data words a sub-function takes. -/
def DiagSub.takesData (data : Word) : DiagSub → Bool
  | .returnQueryData | .changeAsciiDelimiter => true
  | .restartComm => data = 0x0000 || data = 0xFF00
  | _ => data = 0x0000

/-- The sub-function of a diagnostics request is known, and refuses its data. -/
def DataRefused (pdu : List Byte) : Prop :=
  ∃ sub, DiagSub.ofWord (wordAt pdu 1) = some sub ∧ sub.takesData (wordAt pdu 3) = false

/-- The quantity of a request is within its limit, and the range outside the
table. -/
def RangeOutside (limit size : ℕ) (pdu : List Byte) : Prop :=
  (1 ≤ (wordAt pdu 3).toNat ∧ (wordAt pdu 3).toNat ≤ limit) ∧
    ¬ (wordAt pdu 1).toNat + (wordAt pdu 3).toNat ≤ size

/-- A request whose length is not tested before something else has decided. -/
def LengthTestedLate (cfg : Config) (pdu : List Byte) : Prop :=
  match FunctionCode.ofByte (byteAt pdu 0) with
  | some .diagnostics => 5 < pdu.length ∧ ¬ DataRefused pdu
  | some .writeMultipleCoils => 6 ≤ pdu.length ∧ RangeOutside maxWriteCoils cfg.maxCoils pdu
  | some .writeMultipleRegisters =>
      6 ≤ pdu.length ∧ RangeOutside maxWriteRegisters cfg.maxRegisters pdu
  | some .encapsulatedInterface =>
      4 < pdu.length ∧ (byteAt pdu 2 = 0x01 ∨ byteAt pdu 2 = 0x02 ∨ byteAt pdu 2 = 0x03 ∨
        byteAt pdu 2 = 0x04)
  | _ => False

/-- The command changes the statistics, the log or the mode that it meets. -/
def LineCommand.Changes (line : LineState) (command : LineCommand) : Prop :=
  command.execute line ≠ line

/-- A request of the wrong length that the slave answers otherwise than by
refusing it for that, or executes. -/
def LengthMissed (s : Slave cfg) (isBroadcast : Bool) (pdu : List Byte) : Prop :=
  WrongLength pdu ∧
    if s.listenOnly then IsRestart pdu
    else if isBroadcast then
      (byteAt pdu 0 = FunctionCode.diagnostics.code ∧ DiagRefused pdu false) ∨
        ∃ command, executedCommand false true pdu = some command ∧
          command.Changes s.counted.line
    else LengthTestedLate cfg pdu

/-! ## Requests of the tables -/

section Tables

variable {pdu : List Byte} {fc : FunctionCode}

/-- A request that parses has the prescribed length, unless it is a device
identification with bytes to spare. -/
theorem requestLength_of_parseRequest {r : Request cfg} (h : parseRequest cfg pdu = .ok r) :
    requestLength pdu = some pdu.length ∨
      r.refusal = none ∧ r.functionCode.writes = false ∧ WrongLength pdu ∧
        LengthTestedLate cfg pdu := by
  unfold parseRequest at h
  cases hcode : FunctionCode.ofByte (byteAt pdu 0) with
  | none =>
      rw [hcode] at h
      cases h
  | some fc =>
      rw [hcode] at h
      simp only [WrongLength, requestLength, LengthTestedLate, hcode]
      cases fc with
      | readCoils | readDiscreteInputs | readHoldingRegisters | readInputRegisters =>
          obtain ⟨span, hspan, rfl⟩ := except_map_eq_ok.mp h
          exact .inl (congrArg some (length_of_parseRead hspan).symm)
      | writeSingleCoil =>
          simp only [parseWriteSingleCoil, except_reject_eq_ok, not_not] at h
          exact .inl (congrArg some h.1.symm)
      | writeSingleRegister =>
          simp only [parseWriteSingleRegister, except_reject_eq_ok, not_not] at h
          exact .inl (congrArg some h.1.symm)
      | readExceptionStatus =>
          simp only [except_reject_eq_ok, not_not] at h
          exact .inl (congrArg some h.1.symm)
      | writeMultipleCoils =>
          simp only [parseWriteMultipleCoils, except_reject_eq_ok, except_bind_eq_ok,
            except_require_eq_ok] at h
          obtain ⟨-, span, -, hdata, -⟩ := h
          exact .inl (congrArg some hdata.2.symm)
      | writeMultipleRegisters =>
          simp only [parseWriteMultipleRegisters, except_reject_eq_ok, except_bind_eq_ok] at h
          obtain ⟨-, span, -, hrest⟩ := h
          split at hrest
          · next hdata => exact .inl (congrArg some hdata.2.symm)
          · cases hrest
      | readFileRecord =>
          simp only [parseReadFileRecord, except_reject_eq_ok] at h
          obtain ⟨-, hrest⟩ := h
          split at hrest
          · next hdata => exact .inl (congrArg some hdata.2.2.2.symm)
          · cases hrest
      | writeFileRecord =>
          simp only [parseWriteFileRecord, except_reject_eq_ok] at h
          obtain ⟨-, hrest⟩ := h
          split at hrest
          · next hdata => exact .inl (congrArg some hdata.2.2.symm)
          · cases hrest
      | maskWriteRegister =>
          simp only [parseMaskWriteRegister, except_reject_eq_ok, not_not] at h
          exact .inl (congrArg some h.1.symm)
      | readFifoQueue =>
          simp only [parseReadFifoQueue, except_reject_eq_ok, not_not] at h
          exact .inl (congrArg some h.1.symm)
      | readWriteMultipleRegs =>
          simp only [parseReadWriteMultipleRegs, except_reject_eq_ok, except_require_eq_ok] at h
          obtain ⟨-, hqty, -⟩ := h
          exact .inl (congrArg some hqty.2.2.2.symm)
      | encapsulatedInterface =>
          simp only [parseReadDeviceId, except_reject_eq_ok, not_not] at h
          obtain ⟨hlength, hmei, hknown, hrest⟩ := h
          have hread : ∃ read, r = .readDeviceId read := by
            split_ifs at hrest <;> cases hrest <;> exact ⟨_, rfl⟩
          obtain ⟨read, rfl⟩ := hread
          rw [if_pos hmei]
          by_cases hfour : pdu.length = 4
          · exact .inl (congrArg some hfour.symm)
          · refine .inr ⟨rfl, rfl, ⟨4, rfl, hfour⟩, by omega, ?_⟩
            by_contra hnone
            push Not at hnone
            exact hknown hnone
      | diagnostics | getCommEventCounter | getCommEventLog | reportServerId => cases h

/-- A write of several elements that has the wrong length is refused for it,
unless its range is refused first. -/
theorem bind_parseSpan_eq_error {limit size : ℕ}
    {next : Span limit size → Except ExceptionCode (Request cfg)}
    (hnext : ∀ span, next span = .error .illegalDataValue) :
    (parseSpan limit size (wordAt pdu 1) (wordAt pdu 3) >>= next) = .error .illegalDataValue ↔
      ¬ RangeOutside limit size pdu := by
  unfold parseSpan RangeOutside
  split_ifs with hcount hfits
  · exact iff_of_true (hnext _) fun h => h.2 hfits
  · exact iff_of_false (fun h => by cases h) (not_not_intro ⟨hcount, hfits⟩)
  · exact iff_of_true rfl fun h => hcount h.1

/-- A request of the tables that has the wrong length is refused for it, unless
its length is tested late. -/
theorem parseRequest_eq_error_iff (hwrong : WrongLength pdu)
    (hdiag : byteAt pdu 0 ≠ FunctionCode.diagnostics.code)
    (hfetch : isFetch (byteAt pdu 0) = false)
    (hid : byteAt pdu 0 ≠ FunctionCode.reportServerId.code) :
    parseRequest cfg pdu = .error .illegalDataValue ↔ ¬ LengthTestedLate cfg pdu := by
  obtain ⟨n, hprescribed, hne⟩ := hwrong
  unfold requestLength at hprescribed
  unfold parseRequest LengthTestedLate
  cases hcode : FunctionCode.ofByte (byteAt pdu 0) with
  | none =>
      rw [hcode] at hprescribed
      cases hprescribed
  | some fc =>
      rw [hcode] at hprescribed
      have hbyte := FunctionCode.ofByte_eq_some.mp hcode
      cases fc with
      | readCoils | readDiscreteInputs | readHoldingRegisters | readInputRegisters =>
          obtain rfl := Option.some.inj hprescribed
          have hread : ∀ limit size, parseRead limit size pdu = .error .illegalDataValue :=
            fun limit size => if_pos hne
          simp only [hread]
          exact iff_of_true rfl id
      | writeSingleCoil | writeSingleRegister | readExceptionStatus | maskWriteRegister
      | readFifoQueue =>
          obtain rfl := Option.some.inj hprescribed
          exact iff_of_true (if_pos hne) id
      | writeMultipleCoils =>
          obtain rfl := Option.some.inj hprescribed
          simp only [parseWriteMultipleCoils]
          by_cases hshort : pdu.length < 6
          · rw [if_pos hshort]
            exact iff_of_true rfl fun h => Nat.not_lt_of_le h.1 hshort
          · rw [if_neg hshort, bind_parseSpan_eq_error fun span => dif_neg fun h => hne h.2,
              and_iff_right (Nat.le_of_not_lt hshort)]
      | writeMultipleRegisters =>
          obtain rfl := Option.some.inj hprescribed
          simp only [parseWriteMultipleRegisters]
          by_cases hshort : pdu.length < 6
          · rw [if_pos hshort]
            exact iff_of_true rfl fun h => Nat.not_lt_of_le h.1 hshort
          · rw [if_neg hshort, bind_parseSpan_eq_error fun span => if_neg fun h => hne h.2,
              and_iff_right (Nat.le_of_not_lt hshort)]
      | readFileRecord =>
          obtain rfl := Option.some.inj hprescribed
          refine iff_of_true ?_ id
          simp only [parseReadFileRecord]
          split_ifs with hshort hdata
          · rfl
          · exact absurd hdata.2.2.2 hne
          · rfl
      | writeFileRecord =>
          obtain rfl := Option.some.inj hprescribed
          refine iff_of_true ?_ id
          simp only [parseWriteFileRecord]
          split_ifs with hshort hdata
          · rfl
          · exact absurd hdata.2.2 hne
          · rfl
      | readWriteMultipleRegs =>
          obtain rfl := Option.some.inj hprescribed
          refine iff_of_true ?_ id
          simp only [parseReadWriteMultipleRegs]
          rw [dif_neg fun h => hne h.2.2.2, ite_self]
      | encapsulatedInterface =>
          simp only at hprescribed
          split_ifs at hprescribed with hmei
          obtain rfl := Option.some.inj hprescribed
          simp only [parseReadDeviceId]
          by_cases hshort : pdu.length < 4
          · rw [if_pos hshort]
            exact iff_of_true rfl fun h => by omega
          · have hlong : 4 < pdu.length := by omega
            rw [if_neg hshort, if_neg (not_not_intro hmei), and_iff_right hlong]
            split_ifs with hunknown
            · refine iff_of_true rfl ?_
              rintro (h | h | h | h)
              · exact hunknown.1 h
              · exact hunknown.2.1 h
              · exact hunknown.2.2.1 h
              · exact hunknown.2.2.2 h
            all_goals
              refine iff_of_false (fun h => by cases h) fun h => hunknown ?_
              push Not at h
              exact h
      | diagnostics => exact absurd hbyte.symm hdiag
      | reportServerId => exact absurd hbyte.symm hid
      | getCommEventCounter | getCommEventLog =>
          rw [← hbyte] at hfetch
          cases hfetch

/-- A write that is accepted has the prescribed length. -/
theorem requestLength_of_accepted (haccepted : accepted cfg pdu = true)
    (hwrite : isWrite pdu = true) : requestLength pdu = some pdu.length := by
  unfold accepted at haccepted
  cases hparse : parseRequest cfg pdu with
  | error e =>
      rw [hparse] at haccepted
      cases haccepted
  | ok r =>
      rcases requestLength_of_parseRequest hparse with hlength | ⟨-, hread, -⟩
      · exact hlength
      · rw [isWrite_of_functionCode (parseRequest_functionCode hparse).1, hread] at hwrite
        cases hwrite

/-- A request without a prescribed length is not accepted. -/
theorem accepted_of_requestLength_eq_none (hnone : requestLength pdu = none) :
    accepted cfg pdu = false := by
  unfold accepted
  cases hparse : parseRequest cfg pdu with
  | error e => rfl
  | ok r =>
      rcases requestLength_of_parseRequest hparse with hlength | ⟨-, -, ⟨n, hsome, -⟩, -⟩
      · rw [hnone] at hlength
        cases hlength
      · rw [hnone] at hsome
        cases hsome

/-- The reply to a request of the wrong length refuses it for that, unless the length is
tested late. -/
theorem pduReply_eq_refusal_iff (hooks : SyncHooks cfg) (env : PduEnv cfg)
    (hwrong : WrongLength pdu) (hdiag : byteAt pdu 0 ≠ FunctionCode.diagnostics.code)
    (hfetch : isFetch (byteAt pdu 0) = false)
    (hid : byteAt pdu 0 ≠ FunctionCode.reportServerId.code) :
    (pduReply hooks pdu env).1 = exceptionPdu (byteAt pdu 0) .illegalDataValue ↔
      ¬ LengthTestedLate cfg pdu := by
  rw [← parseRequest_eq_error_iff hwrong hdiag hfetch hid, pduReply]
  cases hparse : parseRequest cfg pdu with
  | error e =>
      constructor
      · intro hsame
        have hcode : e.code = ExceptionCode.illegalDataValue.code := by
          simpa [answer, exceptionPdu] using hsame
        cases e <;> first | rfl | exact absurd hcode (by decide)
      · rintro ⟨⟩
        rfl
  | ok r =>
      refine iff_of_false ?_ fun h => by cases h
      obtain ⟨hcode, hlength⟩ := parseRequest_functionCode hparse
      rcases requestLength_of_parseRequest hparse with hright | ⟨hrefusal, -⟩
      · obtain ⟨n, hprescribed, hne⟩ := hwrong
        rw [hright] at hprescribed
        exact absurd (Option.some.inj hprescribed) hne
      · intro hsame
        have hfirst := (execute_normal hooks env hcode hlength hrefusal).1
        have hmsb : (byteAt (exceptionPdu (byteAt pdu 0) .illegalDataValue) 0).msb = true :=
          msb_or_exceptionBit _
        rw [← hsame, answer, hfirst, FunctionCode.msb_code] at hmsb
        cases hmsb

end Tables

/-! ## Diagnostics -/

/-- The diagnostics refuse the data of a unicast request with exception 03, and
nothing else once it is long enough. -/
theorem diagDispatch_eq_refusal_iff {pdu : List Byte}
    (hdiag : byteAt pdu 0 = FunctionCode.diagnostics.code) (line : LineState) :
    (diagDispatch pdu false line).1 = modbusDiagException .illegalDataValue ↔ DataRefused pdu := by
  have hecho : pdu.take 5 ≠ modbusDiagException .illegalDataValue := by
    intro h
    have hfirst : byteAt (pdu.take 5) 0 = 0x88 := by
      rw [h]
      rfl
    rw [byteAt_take (by decide), hdiag] at hfirst
    cases hfirst
  have hvalue : ∀ w, diagValuePdu pdu w ≠ modbusDiagException .illegalDataValue := nofun
  unfold diagDispatch DataRefused
  cases hsub : DiagSub.ofWord (wordAt pdu 1) with
  | none =>
      have hfunction : modbusDiagException .illegalFunction ≠
          modbusDiagException .illegalDataValue := by decide
      exact iff_of_false hfunction (by simp)
  | some sub =>
      have hdata : (∃ sub', some sub = some sub' ∧ sub'.takesData (wordAt pdu 3) = false) ↔
          sub.takesData (wordAt pdu 3) = false := by simp
      rw [hdata]
      cases sub with
      | returnQueryData | changeAsciiDelimiter => exact iff_of_false hecho nofun
      | restartComm =>
          simp only [DiagSub.takesData, Bool.or_eq_false_iff, decide_eq_false_iff_not,
            Bool.false_eq_true, if_false]
          split_ifs with hbad hlisten
          · exact iff_of_true rfl hbad
          · exact iff_of_false nofun hbad
          · exact iff_of_false hecho hbad
      | forceListenOnly =>
          simp only [DiagSub.takesData, decide_eq_false_iff_not]
          split_ifs with hbad
          · exact iff_of_true rfl hbad
          · exact iff_of_false nofun hbad
      | clearCounters | clearOverrun =>
          simp only [DiagSub.takesData, decide_eq_false_iff_not, Bool.false_eq_true, if_false]
          split_ifs with hbad
          · exact iff_of_true rfl hbad
          · exact iff_of_false hecho hbad
      | _ =>
          simp only [DiagSub.takesData, decide_eq_false_iff_not]
          split_ifs with hbad
          · exact iff_of_true rfl hbad
          · exact iff_of_false (hvalue _) hbad

/-! ## Answers -/

section Answers

variable {s : Slave cfg} {pdu : List Byte}

theorem answer_eq_silent (h : Handling cfg) : h.answer = .silent ↔ h.response = [] := by
  unfold Handling.answer
  split_ifs with hnone hexception <;> simp [hnone]

/-- What is sent is an exception exactly when that was built. -/
theorem answer_eq_exception_iff {h : Handling cfg} {functionCode : Byte}
    (hbuilds : Builds functionCode h.built) (hsent : h.sent = true) (e : ExceptionCode) :
    h.answer = .exception e.code ↔ h.built = exceptionPdu functionCode e := by
  have hresponse : h.response = h.built := by rw [Handling.response, if_pos hsent]
  unfold Handling.answer
  rw [hresponse]
  generalize hpdu : h.built = built at hbuilds
  have hbit := isException_iff h
  rw [hpdu] at hbit
  rcases hbuilds with rfl | ⟨hshape, -⟩
  · exact iff_of_false (fun h => by cases h) fun h => by cases h
  · cases hshape with
    | exception e' =>
        have hmarked : h.isException = true := hbit.mpr (msb_or_exceptionBit _)
        have hsome : exceptionPdu functionCode e' ≠ [] := List.cons_ne_nil _ _
        rw [if_neg hsome, if_pos hmarked]
        simp [exceptionPdu, byteAt]
    | normal _ hcode hmsb htwo =>
        have hunmarked : ¬ h.isException = true := by
          rw [hbit, hcode, hmsb]
          exact Bool.false_ne_true
        have hsome : built ≠ [] := by
          rintro rfl
          exact absurd htwo (by decide)
        rw [if_neg hsome, if_neg hunmarked]
        refine iff_of_false (fun h => by cases h) ?_
        rintro rfl
        exact hunmarked (hbit.mpr (msb_or_exceptionBit _))

/-- A unicast request of the wrong length is refused for it, unless its length is
tested late. -/
theorem answer_unicast_iff (flat : cfg.Flat) (hactive : s.listenOnly = false) (hpdu : pdu ≠ [])
    (hwrong : WrongLength pdu) :
    (handleRequest s pdu false).answer = .exception ExceptionCode.illegalDataValue.code ↔
      ¬ LengthTestedLate cfg pdu := by
  rw [answer_eq_exception_iff (builds_handleRequest flat s hpdu false)
    (sent_handleRequest_unicast s pdu)]
  have hmode : s.line.diag.listenOnly = false := hactive
  by_cases hdiag : byteAt pdu 0 = FunctionCode.diagnostics.code
  · have hcode : FunctionCode.ofByte (byteAt pdu 0) = some .diagnostics := by
      rw [hdiag, FunctionCode.ofByte_code]
    obtain ⟨n, hprescribed, hne⟩ := hwrong
    simp only [requestLength, hcode, Option.some.injEq] at hprescribed
    rw [handleRequest, if_pos hdiag, hdiag]
    simp only [LengthTestedLate, hcode, modbusDiagProcess, hmode, Bool.false_eq_true, false_and,
      if_false]
    by_cases hshort : pdu.length < 5
    · rw [if_pos hshort]
      exact iff_of_true rfl fun h => by omega
    · have hlong : 5 < pdu.length := by omega
      rw [if_neg hshort, and_iff_right hlong, not_not]
      exact diagDispatch_eq_refusal_iff hdiag s.line
  · by_cases hfetch : isFetch (byteAt pdu 0) = true
    · have hone : pdu.length ≠ 1 ∧ ¬ LengthTestedLate cfg pdu := by
        obtain ⟨n, hprescribed, hne⟩ := hwrong
        rcases Bool.or_eq_true_iff.mp hfetch with hcounter | hlog
        · rw [decide_eq_true_iff] at hcounter
          simp only [requestLength, hcounter, FunctionCode.ofByte_code, Option.some.injEq]
            at hprescribed
          exact ⟨hprescribed ▸ hne, by simp [LengthTestedLate, hcounter]⟩
        · rw [decide_eq_true_iff] at hlog
          simp only [requestLength, hlog, FunctionCode.ofByte_code, Option.some.injEq]
            at hprescribed
          exact ⟨hprescribed ▸ hne, by simp [LengthTestedLate, hlog]⟩
      refine iff_of_true ?_ hone.2
      simp [handleRequest, hdiag, hfetch, hactive, modbusEventProcess, hone.1]
    · by_cases hid : byteAt pdu 0 = FunctionCode.reportServerId.code
      · obtain ⟨n, hprescribed, hne⟩ := hwrong
        simp only [requestLength, hid, FunctionCode.ofByte_code, Option.some.injEq] at hprescribed
        refine iff_of_true ?_ (by simp [LengthTestedLate, hid])
        have hrefused : modbusReportServerIdProcess pdu.length =
            exceptionPdu FunctionCode.reportServerId.code .illegalDataValue :=
          if_pos (hprescribed ▸ hne)
        unfold handleRequest
        simp only [if_neg hdiag, if_neg hfetch, if_pos hid, hactive, Bool.false_eq_true, or_self,
          if_false, hrefused]
        rw [hid]
      · rw [← pduReply_eq_refusal_iff s.hooks s.env hwrong hdiag (by simpa using hfetch) hid]
        simp [handleRequest, hdiag, hfetch, hid, hactive, broadcastDropped]

/-- A request without a prescribed length is not answered normally. -/
theorem answer_ne_normal (hnone : requestLength pdu = none) (isBroadcast : Bool) :
    (handleRequest s pdu isBroadcast).answer ≠ .normal := by
  have hdiag : byteAt pdu 0 ≠ FunctionCode.diagnostics.code := by
    intro h
    simp [requestLength, h] at hnone
  have hid : byteAt pdu 0 ≠ FunctionCode.reportServerId.code := by
    intro h
    simp [requestLength, h] at hnone
  have hfetch : ¬ isFetch (byteAt pdu 0) = true := by
    intro h
    rcases Bool.or_eq_true_iff.mp h with hcounter | hlog
    · simp [requestLength, decide_eq_true_iff.mp hcounter] at hnone
    · simp [requestLength, decide_eq_true_iff.mp hlog] at hnone
  have hbuilt := msb_pduReply s.hooks pdu s.env
  rw [accepted_of_requestLength_eq_none hnone] at hbuilt
  rw [Ne, answer_eq_normal, isException_iff]
  unfold handleRequest
  simp only [if_neg hdiag, if_neg hfetch, if_neg hid]
  split_ifs
  · exact fun h => h.1 rfl
  · exact fun h => h.1 rfl
  · exact fun h => h.2 hbuilt

theorem executedCommand_of_requestLength_eq_none (hnone : requestLength pdu = none)
    (listenOnly isBroadcast : Bool) : executedCommand listenOnly isBroadcast pdu = none := by
  apply executedCommand_of_ne
  intro h
  simp [requestLength, h] at hnone

/-- A request that is refused has no command. -/
theorem executedCommand_of_exception {isBroadcast : Bool} {code : Byte}
    (hrefused : (handleRequest s pdu isBroadcast).answer = .exception code) :
    executedCommand s.listenOnly isBroadcast pdu = none := by
  by_cases hdiag : byteAt pdu 0 = FunctionCode.diagnostics.code
  · have heffect := diagEffect_modbusDiagProcess hdiag s.line isBroadcast
    rw [handleRequest, if_pos hdiag] at hrefused
    rw [Slave.listenOnly]
    generalize modbusDiagProcess pdu isBroadcast s.line = r at heffect hrefused
    obtain ⟨reply, line⟩ := r
    simp only at heffect hrefused
    cases heffect with
    | executed command hcommand hresets hreply hline =>
        have hecho : byteAt (pdu.take 5) 0 = 0x08 := by
          rw [byteAt_take (by decide), hdiag]
          rfl
        have hunmarked : ¬ (byteAt reply 0).msb = true := by
          rw [hreply]
          split_ifs
          · decide
          · rw [hecho]
            decide
        unfold Handling.answer at hrefused
        split_ifs at hrefused with hnone hexception
        exact absurd ((isException_iff _).mp hexception) hunmarked
    | refused hcommand | answered hcommand | ignored hcommand => exact hcommand
  · exact executedCommand_of_ne hdiag _ _

/-- Only a restart is executed in listen-only mode. -/
theorem isRestart_of_executedCommand {isBroadcast : Bool} {command : LineCommand}
    (hcommand : executedCommand true isBroadcast pdu = some command) :
    IsRestart pdu := by
  by_contra hother
  have hnone : executedCommand true isBroadcast pdu = none := by
    by_cases hdiag : byteAt pdu 0 = FunctionCode.diagnostics.code ∧ 5 ≤ pdu.length
    · exact executedCommand_listening (fun hsub => hother ⟨hdiag.1, hdiag.2, hsub⟩) isBroadcast
    · exact if_neg hdiag
  rw [hnone] at hcommand
  cases hcommand

/-- A restart with data it takes is executed in listen-only mode. -/
theorem executedCommand_restart (hrestart : IsRestart pdu) (hdata : restartData (wordAt pdu 3))
    (isBroadcast : Bool) :
    ∃ clearLog, executedCommand true isBroadcast pdu = some (.restart clearLog) := by
  rw [executedCommand_eq hrestart.1 hrestart.2.1 hrestart.2.2, LineCommand.ofDiag]
  rcases hdata with hzero | hff
  · exact ⟨false, if_pos hzero⟩
  · exact ⟨true, by rw [hff]; rfl⟩

/-- Handling a request changes the tables and the serial-line state only. -/
theorem slave_handleRequest (s : Slave cfg) (pdu : List Byte) (isBroadcast : Bool) :
    (handleRequest s pdu isBroadcast).slave =
      { s with
        env := (handleRequest s pdu isBroadcast).slave.env
        line := (handleRequest s pdu isBroadcast).slave.line } := by
  unfold handleRequest
  simp only
  split_ifs <;> rfl

/-- A request that is not of the prescribed length leaves the tables alone, unless
its length is tested late. -/
theorem env_handleRequest_eq (s : Slave cfg) (hlength : requestLength pdu ≠ some pdu.length)
    {isBroadcast : Bool}
    (htested : isBroadcast = true ∨ ¬ (WrongLength pdu ∧ LengthTestedLate cfg pdu)) :
    (handleRequest s pdu isBroadcast).slave.env = s.env := by
  unfold handleRequest
  simp only
  split_ifs with hdiag hfetch hlisten hid hquiet hlisten' hdrop
  all_goals try rfl
  show (pduReply s.hooks pdu s.env).2 = s.env
  rw [pduReply]
  cases hparse : parseRequest cfg pdu with
  | error e => rfl
  | ok r =>
      rcases requestLength_of_parseRequest hparse with hright | ⟨-, hread, hlate⟩
      · exact absurd hright hlength
      · rcases htested with rfl | hnot
        · refine absurd ?_ hdrop
          have hcode := isWrite_of_functionCode (parseRequest_functionCode hparse).1
          rw [broadcastDropped, ← isWrite_eq, hcode, hread]
          rfl
        · exact absurd hlate hnot

/-- A request that is not of the prescribed length completes only if it is
answered normally. -/
theorem completes_eq_false (hlength : requestLength pdu ≠ some pdu.length) {answer : Answer}
    (hanswer : answer ≠ .normal) (listenOnly isBroadcast : Bool) :
    completes cfg listenOnly isBroadcast pdu answer = false := by
  have hwritten : writtenByBroadcast cfg isBroadcast pdu = false := by
    by_contra hcarried
    rw [Bool.not_eq_false, writtenByBroadcast, Bool.and_eq_true, Bool.and_eq_true] at hcarried
    exact hlength (requestLength_of_accepted hcarried.2 hcarried.1.2)
  rw [completes, hwritten, decide_eq_false hanswer, Bool.or_false, Bool.and_false]

/-- A request that is not of the prescribed length and leaves the tables alone is
executed only through its command. -/
theorem notExecuted_addressedStep_iff (s : Slave cfg)
    (hlength : requestLength pdu ≠ some pdu.length) {isBroadcast : Bool}
    (henv : (handleRequest s.counted pdu isBroadcast).slave.env = s.env) {answer : Answer}
    (hanswer : (handleRequest s.counted pdu isBroadcast).answer = answer)
    (hnormal : answer ≠ .normal) :
    NotExecuted s pdu answer (addressedStep s pdu isBroadcast).2 ↔
      (commanded s.counted.line (executedCommand s.listenOnly isBroadcast pdu)).noteAnswer
          (isFetch (byteAt pdu 0)) answer =
        s.counted.line.noteAnswer (isFetch (byteAt pdu 0)) answer := by
  have hslave : (addressedStep s pdu isBroadcast).2 =
      { s with line := (addressedStep s pdu isBroadcast).2.line } := by
    rw [addressedStep_eq, slave_handleRequest, henv]
    rfl
  have hline := line_addressedStep s pdu isBroadcast
  rw [hanswer, LineState.message, completes_eq_false hlength hnormal] at hline
  rw [hslave, hline, NotExecuted]
  constructor
  · exact fun h => congrArg Slave.line h
  · exact fun h => congrArg (fun line => { s with line := line }) h

theorem noteAnswer_silent_inj {line line' : LineState} (fetch : Bool) :
    line.noteAnswer fetch .silent = line'.noteAnswer fetch .silent ↔ line = line' := by
  refine ⟨fun h => ?_, fun h => by rw [h]⟩
  obtain ⟨⟨_, _, _, _, _, _, _, _⟩, event⟩ := line
  obtain ⟨⟨_, _, _, _, _, _, _, _⟩, event'⟩ := line'
  simpa [LineState.noteAnswer, LineState.noteResult] using h

/-- A command changes nothing if there is none, or if it finds everything as it
would leave it. -/
theorem commanded_eq_iff (line : LineState) (command : Option LineCommand) :
    commanded line command = line ↔ ¬ ∃ c, command = some c ∧ c.Changes line := by
  cases command with
  | none => simp [commanded]
  | some command => simp [commanded, LineCommand.Changes]

/-- A silent request of the wrong length is not executed if and only if its
command changes nothing. -/
theorem notExecuted_silent_iff (s : Slave cfg) (hlength : requestLength pdu ≠ some pdu.length)
    {isBroadcast : Bool} (henv : (handleRequest s.counted pdu isBroadcast).slave.env = s.env)
    (hsilent : (handleRequest s.counted pdu isBroadcast).answer = .silent) :
    NotExecuted s pdu .silent (addressedStep s pdu isBroadcast).2 ↔
      ¬ ∃ command, executedCommand s.listenOnly isBroadcast pdu = some command ∧
        command.Changes s.counted.line := by
  rw [notExecuted_addressedStep_iff s hlength henv hsilent (by decide), noteAnswer_silent_inj,
    commanded_eq_iff]

theorem requestLength_ne_of_wrongLength (hwrong : WrongLength pdu) :
    requestLength pdu ≠ some pdu.length := by
  obtain ⟨n, hprescribed, hne⟩ := hwrong
  rw [hprescribed]
  exact fun h => hne (Option.some.inj h).symm

/-- On a request of the wrong length the grammar asks for one answer, and for
nothing to be executed. -/
theorem followsGrammar_of_wrongLength (hwrong : WrongLength pdu) {isBroadcast : Bool}
    {answer : Answer} {s' : Slave cfg} :
    FollowsGrammar s isBroadcast pdu answer s' ↔
      answer = (if isBroadcast || s.listenOnly then .silent
          else .exception ExceptionCode.illegalDataValue.code) ∧ NotExecuted s pdu answer s' := by
  have hlength := requestLength_ne_of_wrongLength hwrong
  constructor
  · exact fun h => ⟨h.refused hwrong, not_not.mp fun hnot => hlength (h.executed hnot)⟩
  · rintro ⟨hanswer, hkept⟩
    refine ⟨fun hnormal => ?_, fun hnot => absurd hkept hnot, fun _ => hanswer⟩
    rw [hnormal] at hanswer
    split_ifs at hanswer

section Wrong

variable (s)
variable (hwrong : WrongLength pdu)
include hwrong

/-- In listen-only mode the grammar is followed on a request of the wrong length
that is no restart. -/
theorem followsGrammar_listening_iff (hlisten : s.listenOnly = true) (isBroadcast : Bool) :
    FollowsGrammar s isBroadcast pdu (handleRequest s.counted pdu isBroadcast).answer
        (addressedStep s pdu isBroadcast).2 ↔ ¬ IsRestart pdu := by
  have hmode : s.counted.listenOnly = true := hlisten
  have handled := handledListening_handleRequest hmode pdu isBroadcast
  have hsilent := handled.silent
  rw [← answer_eq_silent] at hsilent
  rw [followsGrammar_of_wrongLength hwrong, hlisten, Bool.or_true, if_pos rfl]
  constructor
  · rintro ⟨hanswer, hkept⟩ hrestart
    have hdata : restartData (wordAt pdu 3) :=
      not_not.mp fun hbad => hsilent.mp hanswer ⟨hrestart, hbad⟩
    obtain ⟨clearLog, hcommand⟩ := executedCommand_restart hrestart hdata isBroadcast
    rw [hanswer, notExecuted_silent_iff s (requestLength_ne_of_wrongLength hwrong) handled.env_eq
      hanswer, hlisten] at hkept
    refine hkept ⟨_, hcommand, fun hsame => ?_⟩
    -- the restart ends the mode
    have hended : false = s.listenOnly := congrArg (fun line => line.diag.listenOnly) hsame
    exact absurd (hended.trans hlisten) (by decide)
  · intro hother
    have hanswer := hsilent.mpr fun h => hother h.1
    refine ⟨hanswer, ?_⟩
    rw [hanswer, notExecuted_silent_iff s (requestLength_ne_of_wrongLength hwrong) handled.env_eq
      hanswer, hlisten]
    rintro ⟨command, hcommand, -⟩
    exact hother (isRestart_of_executedCommand hcommand)

/-- On a broadcast of the wrong length the grammar is followed if the diagnostics
neither refuse it nor execute it. -/
theorem followsGrammar_broadcast_iff (hactive : s.listenOnly = false) :
    FollowsGrammar s true pdu (handleRequest s.counted pdu true).answer
        (addressedStep s pdu true).2 ↔
      ¬ ((byteAt pdu 0 = FunctionCode.diagnostics.code ∧ DiagRefused pdu false) ∨
        ∃ command, executedCommand false true pdu = some command ∧
          command.Changes s.counted.line) := by
  have hlength := requestLength_ne_of_wrongLength hwrong
  have henv := env_handleRequest_eq s.counted hlength (.inl rfl)
  have hsilent := response_broadcast_eq_nil s.counted pdu
  rw [← answer_eq_silent, show s.counted.listenOnly = false from hactive] at hsilent
  rw [followsGrammar_of_wrongLength hwrong, Bool.true_or, if_pos rfl, not_or, ← hsilent]
  refine and_congr_right fun hanswer => ?_
  rw [hanswer, notExecuted_silent_iff s hlength henv hanswer, hactive]

/-- A unicast request of the wrong length is refused for it and not executed,
unless its length is tested late. -/
theorem followsGrammar_unicast_iff (flat : cfg.Flat) (hactive : s.listenOnly = false)
    (hpdu : pdu ≠ []) :
    FollowsGrammar s false pdu (handleRequest s.counted pdu false).answer
        (addressedStep s pdu false).2 ↔ ¬ LengthTestedLate cfg pdu := by
  have hlength := requestLength_ne_of_wrongLength hwrong
  have hmode : s.counted.listenOnly = false := hactive
  rw [followsGrammar_of_wrongLength hwrong, hactive, ← answer_unicast_iff flat hmode hpdu hwrong]
  refine and_iff_left_of_imp fun hanswer => ?_
  have hrefused : (handleRequest s.counted pdu false).answer =
      .exception ExceptionCode.illegalDataValue.code := hanswer
  have htested := (answer_unicast_iff flat hmode hpdu hwrong).mp hrefused
  have hcommand : executedCommand s.listenOnly false pdu = none :=
    executedCommand_of_exception (s := s.counted) hrefused
  rw [hrefused, notExecuted_addressedStep_iff s hlength
    (env_handleRequest_eq s.counted hlength (.inr fun h => htested h.2)) hrefused (by simp),
    hcommand, commanded]

end Wrong

/-- The slave follows the grammar on a request, if and only if the wrong length
of the request is not missed. -/
theorem followsGrammar_iff (flat : cfg.Flat) (s : Slave cfg) (hpdu : pdu ≠ [])
    (isBroadcast : Bool) :
    FollowsGrammar s isBroadcast pdu (handleRequest s.counted pdu isBroadcast).answer
        (addressedStep s pdu isBroadcast).2 ↔ ¬ LengthMissed s isBroadcast pdu := by
  by_cases hwrong : WrongLength pdu
  · rw [LengthMissed, and_iff_right hwrong]
    cases hmode : s.listenOnly with
    | true => exact followsGrammar_listening_iff s hwrong hmode isBroadcast
    | false =>
        cases isBroadcast with
        | true => exact followsGrammar_broadcast_iff s hwrong hmode
        | false => exact followsGrammar_unicast_iff s hwrong flat hmode hpdu
  · refine iff_of_true ?_ fun h => hwrong h.1
    cases hprescribed : requestLength pdu with
    | some n =>
        have hright : requestLength pdu = some pdu.length := by
          by_contra hne
          exact hwrong ⟨n, hprescribed, fun h => hne (by rw [hprescribed, h])⟩
        exact ⟨fun _ => hright, fun _ => hright, fun h => absurd h hwrong⟩
    | none =>
        have hlength : requestLength pdu ≠ some pdu.length := by simp [hprescribed]
        have hanswer := answer_ne_normal (s := s.counted) hprescribed isBroadcast
        have henv : (handleRequest s.counted pdu isBroadcast).slave.env = s.env :=
          env_handleRequest_eq s.counted hlength (.inr fun h => hwrong h.1)
        have hkept := (notExecuted_addressedStep_iff s hlength henv rfl hanswer).mpr (by
          rw [executedCommand_of_requestLength_eq_none hprescribed, commanded])
        exact ⟨fun h => absurd h hanswer, fun hnot => absurd hkept hnot,
          fun h => absurd h hwrong⟩

end Answers

/-! ## Runs -/

/-- A frame for the slave is handled as the grammar asks. -/
def FrameFollowsGrammar (s : Slave cfg) (rx : List Byte) (out : Outcome) (s' : Slave cfg) : Prop :=
  ForSlave s rx →
    FollowsGrammar s (byteAt rx 0 = 0) (framePdu rx) (answerOf out.tx) s'

/-- The frames of a run are handled as the grammar asks exactly when no frame for
the slave has a wrong length that is missed in the state it meets. -/
theorem everyStep_followsGrammar_iff (flat : cfg.Flat) (s : Slave cfg)
    (frames : List (List Byte)) :
    EveryStep modbusRtuProcess FrameFollowsGrammar s frames ↔
      EveryStep modbusRtuProcess (fun s rx _ _ => ForSlave s rx →
        ¬ LengthMissed s (byteAt rx 0 = 0) (framePdu rx)) s frames := by
  apply everyStep_frames_congr flat
  intro s rx
  apply forall_congr'
  rintro ⟨hlength, hcrc, haddr⟩
  have hpdu := framePdu_ne_nil hlength
  rw [slaveStep_addressed hlength hcrc haddr, answerOf_addressedStep flat s hpdu]
  exact followsGrammar_iff flat s hpdu _

/-- In every run, every frame for the slave is handled as the grammar asks exactly
as long as the slave meets no request of a wrong length that it misses. -/
theorem runFrames_followsGrammar_iff (s : Slave boardConfig) (frames : List (List Byte)) :
    EveryStep modbusRtuProcess FrameFollowsGrammar s frames ↔
      EveryStep modbusRtuProcess (fun s rx _ _ => ForSlave s rx →
        ¬ LengthMissed s (byteAt rx 0 = 0) (framePdu rx)) s frames :=
  everyStep_followsGrammar_iff Config.boardConfig_flat s frames

/-- A query that is one byte too long is echoed. -/
theorem runFrames_longQuery_answered :
    ¬ EveryStep modbusRtuProcess FrameFollowsGrammar
      (modbusRtuInit 1 (Slave.powerOn (SyncHooks.none boardConfig)))
      [[0x01, 0x08, 0x00, 0x00, 0xA5, 0xA5, 0xFF, 0xDE, 0x81]] := by
  have hcrc : crcValid [0x01, 0x08, 0x00, 0x00, 0xA5, 0xA5, 0xFF, 0xDE, 0x81] := by
    rw [crcValid_iff]
    decide +kernel
  intro hclaim
  rw [everyStep_followsGrammar_iff Config.boardConfig_flat, everyStep_singleton] at hclaim
  obtain ⟨out, s', -, hnot⟩ := hclaim
  refine hnot ⟨by decide, hcrc, .inl rfl⟩ ⟨⟨5, by decide, by decide⟩, ?_⟩
  refine ⟨by decide, ?_⟩
  rintro ⟨sub, hsub, hdata⟩
  obtain rfl : .returnQueryData = sub := Option.some.inj hsub
  cases hdata

end AutomationBoard.Modbus
