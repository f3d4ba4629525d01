/-
# The comm event log

The log of 64 bytes against the history of the ledger, which is never cut off.
A push shifts the bytes in place and drops the oldest once the log is full, so
the log holds the most recent part of the history. What the master parses from
the response is that part.
-/

import AutomationBoard.Modbus.LineLedger
import AutomationBoard.Modbus.RoundTrip

namespace AutomationBoard.Modbus

open AutomationBoard.Program

variable {cfg : Config}

/-! ## The log as a list -/

namespace EventState

/-- The shift moves each of the first bytes up by one. -/
theorem getElem_shiftLog (log : Vector Byte eventLogSize) (n : ℕ) {i : ℕ}
    (hi : i < eventLogSize) :
    (shiftLog log n)[i] = if 0 < i ∧ i ≤ n then log[i - 1] else log[i] := by
  induction n generalizing log with
  | zero => rw [shiftLog, if_neg (by omega)]
  | succ n ih =>
      rw [shiftLog, ih]
      by_cases hroom : n + 1 < eventLogSize
      · have hset : ∀ j (hj : j < eventLogSize), j ≠ n + 1 →
            (log.set (n + 1) log[n])[j] = log[j] := fun j hj hne =>
          Vector.getElem_set_ne _ _ (Ne.symm hne)
        simp only [dif_pos hroom]
        rcases Nat.lt_trichotomy i (n + 1) with hlow | rfl | hhigh
        · rw [hset i hi (by omega), hset (i - 1) (by omega) (by omega)]
          simp only [Nat.le_of_lt_succ hlow, Nat.le_of_lt hlow, and_true]
        · simp
        · rw [if_neg (by omega), if_neg (by omega), hset i hi (by omega)]
      · have hall : i ≤ n := by omega
        simp [hroom, hall, Nat.le_succ_of_le hall]

/-- A push puts its event in front, and drops what is then beyond the end. -/
theorem events_push (s : EventState) (eventByte : Byte) :
    (s.push eventByte).events = (eventByte :: s.events).take eventLogSize := by
  have hle := s.logCount_le
  apply List.ext_getElem
  · simp only [length_events, push, List.length_take, List.length_cons]
    split <;> omega
  · intro i hi hi'
    have hcount : i < (s.push eventByte).logCount := by rwa [length_events] at hi
    rw [List.getElem_take]
    cases i with
    | zero => simp [events, push]
    | succ i =>
        simp only [push] at hcount
        simp only [events, push, List.getElem_take, List.getElem_cons_succ, Vector.getElem_toList]
        rw [Vector.getElem_set_ne _ _ (Nat.zero_ne_add_one i), getElem_shiftLog, if_pos]
        · rfl
        · split at hcount <;> split <;> omega

theorem events_cleared (s : EventState) : s.cleared.events = [] := rfl

end EventState

/-- The most recent part of a history grows at its front. -/
theorem take_cons_take (b : Byte) (history : List Byte) :
    (b :: history.take eventLogSize).take eventLogSize = (b :: history).take eventLogSize := by
  rw [eventLogSize, List.take_succ_cons, List.take_succ_cons, List.take_take]
  rfl

/-- The log is the most recent part of the history. -/
def LogFollows (event : EventState) (history : List Byte) : Prop :=
  event.events = history.take eventLogSize

theorem LogFollows.push {event : EventState} {history : List Byte} (h : LogFollows event history)
    (b : Byte) : LogFollows (event.push b) (b :: history) := by
  rw [LogFollows, EventState.events_push, h, take_cons_take]

theorem LogFollows.cleared (event : EventState) : LogFollows event.cleared [] :=
  EventState.events_cleared event

/-- A restart empties the log first if it is asked to. -/
theorem LogFollows.noteRestart {event : EventState} {history : List Byte}
    (h : LogFollows event history) (clearLog : Bool) :
    LogFollows (event.noteRestart clearLog) (0x00 :: if clearLog then [] else history) := by
  cases clearLog with
  | true => exact (LogFollows.cleared event.clearCounter).push eventRestart
  | false =>
      have hcleared : LogFollows event.clearCounter history := h
      exact hcleared.push eventRestart

/-! ## Each message -/

/-- The send event tells the class of the exception code. -/
theorem txEvent_eq (code : Byte) : EventState.txEvent code = 0x40 ||| Ledger.exceptionClass code := by
  revert code
  decide +kernel

theorem logFollows_commanded {line : LineState} {history : List Byte}
    (h : LogFollows line.event history) (command : Option LineCommand) :
    LogFollows (commanded line command).event (Ledger.noteCommand history command) := by
  cases command with
  | none => exact h
  | some command =>
      cases command with
      | restart clearLog => exact h.noteRestart clearLog
      | forceListenOnly => exact h.push eventEnterListenOnly
      | clearCounters | clearOverrun => exact h

theorem logFollows_noteAnswer {line : LineState} {history : List Byte}
    (h : LogFollows line.event history) (fetch : Bool) (answer : Answer) :
    LogFollows (line.noteAnswer fetch answer).event
      (if fetch then history else Ledger.noteAnswer history answer) := by
  cases answer with
  | silent => cases fetch <;> exact h
  | normal =>
      cases fetch with
      | true => exact h
      | false => exact h.push _
  | exception code =>
      cases fetch with
      | true => exact h
      | false =>
          rw [Ledger.noteAnswer, ← txEvent_eq]
          exact h.push _

/-- The log follows the history. -/
theorem follows_history : Follows cfg fun line l => LogFollows line.event l.history where
  start line := (LogFollows.cleared line.event.clearCounter).push eventRestart
  charOverrun line l hmode h := by
    have hbit : (0x92 : Byte) ||| l.listenOnlyBit = eventRx ||| eventRxCommError |||
        eventRxCharOverrun ||| if line.diag.listenOnly then eventRxListenOnly else 0 := by
      rw [Ledger.listenOnlyBit, hmode]
      cases l.listenOnly <;> rfl
    rw [Ledger.charOverrun, hbit]
    exact h.push _
  commError line l hmode h := by
    have hbit : (0x82 : Byte) ||| l.listenOnlyBit = eventRx ||| eventRxCommError |||
        if line.diag.listenOnly then eventRxListenOnly else 0 := by
      rw [Ledger.listenOnlyBit, hmode]
      cases l.listenOnly <;> rfl
    rw [Ledger.commError, hbit]
    exact h.push _
  foreign _ _ h := h
  message line l pdu isBroadcast answer hmode _ h := by
    have hcompletion : ∀ (line : LineState) (completed : Bool),
        (line.noteCompletion completed).event.events = line.event.events := by
      intro line completed
      cases completed <;> rfl
    have hcommand := @logFollows_commanded line.noteBusMessage.noteSlaveMessage _ h
      (executedCommand line.diag.listenOnly isBroadcast pdu)
    have hanswer := logFollows_noteAnswer hcommand (isFetch (byteAt pdu 0)) answer
    rw [hmode] at hanswer
    rw [LineState.message, LogFollows, hcompletion, hmode]
    exact hanswer

/-! ## Fetching the log -/

/-- A PDU that fetches the log, answered with the most recent part of a history
and parsed by the master. -/
def FetchesLog (history : List Byte) (slaveId : Byte) (s : Slave cfg) : Prop :=
  Yields (modbusRtuProcess (rtuFrame slaveId [FunctionCode.getCommEventLog.code])) s fun out _ =>
    ∃ pdu, modbusMasterRtuValidateResponse slaveId out.tx = (.ok, some pdu) ∧
      pdu.drop 8 = history.take eventLogSize ∧
      Yields (modbusMasterParseGetCommEventLog pdu true true 64) () fun log _ =>
        log.map CommEventLog.events = some (history.take eventLogSize)

/-- The response to a fetch of the log. -/
def eventLogPdu (event : EventState) (slaveMessageCount : Word) : List Byte :=
  FunctionCode.getCommEventLog.code :: BitVec.ofNat 8 (6 + event.logCount) ::
    (bytesOfWords [eventStatusReady, event.counter, slaveMessageCount] ++ event.events)

theorem length_eventLogPdu (event : EventState) (w : Word) :
    (eventLogPdu event w).length = 8 + event.logCount := by
  simp [eventLogPdu]
  omega

theorem drop_eventLogPdu (event : EventState) (w : Word) :
    (eventLogPdu event w).drop 8 = event.events := rfl

/-- The master gets the events of the log back. -/
theorem yields_parse_eventLogPdu (event : EventState) (w : Word) :
    Yields (modbusMasterParseGetCommEventLog (eventLogPdu event w) true true 64) ()
      fun log _ => log.map CommEventLog.events = some event.events := by
  have hsize : event.events.length ≤ 64 := event.length_events.trans_le event.logCount_le
  rw [eventLogPdu, ← event.length_events]
  exact (yields_parseGetCommEventLog _ _ _ hsize rfl fun _ => hsize).mpr rfl

theorem fetchesLog_of_logFollows (flat : cfg.Flat) {s : Slave cfg} {history : List Byte}
    (h : LogFollows s.line.event history) {slaveId : Byte} (hid : s.slaveId = slaveId)
    (hnonzero : slaveId ≠ 0) (hactive : s.listenOnly = false) : FetchesLog history slaveId s := by
  obtain rfl := hid
  have hactive' : s.counted.listenOnly = false := hactive
  have hresponse : (handleRequest s.counted [FunctionCode.getCommEventLog.code] false).response =
      eventLogPdu s.line.event (s.counted.line.diag.counterRead .slaveMessageCount) := by
    rw [handleRequest_getCommEventLog hactive']
    rfl
  apply (yields_modbusRtuProcess flat s _).mono
  intro out s' hstep
  rw [slaveStep_rtuFrame hnonzero (by decide) (by decide)] at hstep
  have htx : out.tx = rtuFrame s.slaveId
      (eventLogPdu s.line.event (s.counted.line.diag.counterRead .slaveMessageCount)) := by
    have hout : out = _ := congrArg Prod.fst hstep
    rw [hout, tx_addressedStep, hresponse]
    exact if_neg (List.cons_ne_nil _ _)
  have hle : s.line.event.logCount ≤ 64 := s.line.event.logCount_le
  have hcount := length_eventLogPdu s.line.event
    (s.counted.line.diag.counterRead .slaveMessageCount)
  refine ⟨_, by rw [htx, modbusMasterRtuValidateResponse_rtuFrame (by omega) (by omega)], ?_, ?_⟩
  · rw [drop_eventLogPdu, h]
  · rw [← h]
    exact yields_parse_eventLogPdu _ _

/-! ## Runs -/

/-- After every run of frames and overruns, the log is the most recent part of
what happened. If the slave can be asked, the response to a fetch of the log has
just these events, and the master gets them from it. -/
theorem runLine_eventLog (slaveId : Byte) (s : Slave boardConfig) (inputs : List LineInput) :
    Yields (runAll lineInput inputs) (modbusRtuInit slaveId s) fun outputs s' =>
      s'.line.event.events =
          (Ledger.ofRun boardConfig slaveId inputs outputs).history.take eventLogSize ∧
        (slaveId ≠ 0 → s'.listenOnly = false →
          FetchesLog (Ledger.ofRun boardConfig slaveId inputs outputs).history slaveId s') := by
  apply (follows_history.yields_runAll Config.boardConfig_flat s inputs).mono
  intro outputs s' h
  refine ⟨h.related, fun hnonzero hactive => ?_⟩
  exact fetchesLog_of_logFollows Config.boardConfig_flat h.related h.slaveId_eq hnonzero hactive

end AutomationBoard.Modbus
