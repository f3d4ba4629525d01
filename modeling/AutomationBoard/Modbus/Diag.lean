/-
# Diagnostics

`modbus_diag.c`: the diagnostic counters, the listen-only flag and the
dispatcher of function code 0x08. The dispatcher reads five bytes of a request
it has checked to be that long and writes at most five; it is given here with
the bytes it writes to `tx_pdu`, none where it sends no response.
-/

import AutomationBoard.Modbus.Event

namespace AutomationBoard.Modbus

/-! ## Sub-functions -/

/-- The sub-functions of `modbus_diag.h`. -/
inductive DiagSub
  | returnQueryData
  | restartComm
  | readDiagRegister
  | changeAsciiDelimiter
  | forceListenOnly
  | clearCounters
  | busMessageCount
  | busCommErrorCount
  | slaveExceptionCount
  | slaveMessageCount
  | slaveNoResponseCount
  | slaveNakCount
  | slaveBusyCount
  | busCharOverrunCount
  | clearOverrun
  deriving DecidableEq

namespace DiagSub

/-- The `MODBUS_DIAG_SUB_*` values. -/
def code : DiagSub → Word
  | returnQueryData => 0x0000
  | restartComm => 0x0001
  | readDiagRegister => 0x0002
  | changeAsciiDelimiter => 0x0003
  | forceListenOnly => 0x0004
  | clearCounters => 0x000A
  | busMessageCount => 0x000B
  | busCommErrorCount => 0x000C
  | slaveExceptionCount => 0x000D
  | slaveMessageCount => 0x000E
  | slaveNoResponseCount => 0x000F
  | slaveNakCount => 0x0010
  | slaveBusyCount => 0x0011
  | busCharOverrunCount => 0x0012
  | clearOverrun => 0x0014

/-- Every sub-function once. -/
def all : List DiagSub :=
  [returnQueryData, restartComm, readDiagRegister, changeAsciiDelimiter, forceListenOnly,
    clearCounters, busMessageCount, busCommErrorCount, slaveExceptionCount, slaveMessageCount,
    slaveNoResponseCount, slaveNakCount, slaveBusyCount, busCharOverrunCount, clearOverrun]

/-- The sub-function a `switch` selects; `none` is its `default`. -/
def ofWord (w : Word) : Option DiagSub := all.find? fun f => f.code == w

@[simp]
theorem ofWord_code (f : DiagSub) : ofWord f.code = some f := by
  cases f <;> rfl

theorem ofWord_eq_some {w : Word} {f : DiagSub} : ofWord w = some f ↔ f.code = w := by
  constructor
  · intro h
    simpa using List.find?_some h
  · rintro rfl
    exact ofWord_code f

end DiagSub

/-! ## State -/

/-- The counters of `modbus_diag.c`, its diagnostic register and `s_listen_only`. -/
structure DiagState where
  busMessageCount : Word
  commErrorCount : Word
  exceptionErrorCount : Word
  slaveMessageCount : Word
  slaveNoResponseCount : Word
  charOverrunCount : Word
  diagRegister : Word
  listenOnly : Bool

/-- The serial-line state: diagnostics and events. -/
structure LineState where
  diag : DiagState
  event : EventState

/-- `modbus_diag_clear_counters`. -/
def DiagState.clearCounters (s : DiagState) : DiagState where
  busMessageCount := 0
  commErrorCount := 0
  exceptionErrorCount := 0
  slaveMessageCount := 0
  slaveNoResponseCount := 0
  charOverrunCount := 0
  diagRegister := 0
  listenOnly := s.listenOnly

/-- `modbus_diag_reset`. -/
def DiagState.reset (s : DiagState) : DiagState := { s.clearCounters with listenOnly := false }

/-- `modbus_diag_counter_read`. -/
def DiagState.counterRead (s : DiagState) (subFunction : DiagSub) : Word :=
  match subFunction with
  | .busMessageCount => s.busMessageCount
  | .busCommErrorCount => s.commErrorCount
  | .slaveExceptionCount => s.exceptionErrorCount
  | .slaveMessageCount => s.slaveMessageCount
  | .slaveNoResponseCount => s.slaveNoResponseCount
  | .slaveNakCount => 0
  | .slaveBusyCount => 0
  | .busCharOverrunCount => s.charOverrunCount
  | _ => 0

/-! ## The dispatcher -/

/-- `modbus_diag_exception`. -/
def modbusDiagException (e : ExceptionCode) : List Byte :=
  exceptionPdu FunctionCode.diagnostics.code e

/-- `modbus_diag_broadcast_eligible`. -/
def modbusDiagBroadcastEligible (subFunction : Word) : Bool :=
  subFunction = DiagSub.restartComm.code ||
  subFunction = DiagSub.forceListenOnly.code ||
  subFunction = DiagSub.clearCounters.code

/-- A response that repeats the request's sub-function with a value. -/
def diagValuePdu (rx : List Byte) (value : Word) : List Byte :=
  [FunctionCode.diagnostics.code, byteAt rx 1, byteAt rx 2, hiByte value, loByte value]

theorem modbusDiagException_ne_nil (e : ExceptionCode) : modbusDiagException e ≠ [] :=
  List.cons_ne_nil _ _

theorem diagValuePdu_ne_nil (rx : List Byte) (value : Word) : diagValuePdu rx value ≠ [] :=
  List.cons_ne_nil _ _

/-- The `switch` of `modbus_diag_process`. -/
def diagDispatch (rx : List Byte) (isBroadcast : Bool) (s : LineState) : List Byte × LineState :=
  let data := wordAt rx 3
  match DiagSub.ofWord (wordAt rx 1) with
  | some .returnQueryData => (rx.take 5, s)
  | some .restartComm =>
      if data ≠ 0x0000 ∧ data ≠ 0xFF00 then (modbusDiagException .illegalDataValue, s)
      else
        let cleared : LineState := ⟨s.diag.clearCounters, s.event.noteRestart (data = 0xFF00)⟩
        if s.diag.listenOnly then
          ([], { cleared with diag := { cleared.diag with listenOnly := false } })
        else if isBroadcast then ([], cleared)
        else (rx.take 5, cleared)
  | some .readDiagRegister =>
      if data ≠ 0x0000 then (modbusDiagException .illegalDataValue, s)
      else (diagValuePdu rx s.diag.diagRegister, s)
  | some .changeAsciiDelimiter => (rx.take 5, s)
  | some .forceListenOnly =>
      if data ≠ 0x0000 then (modbusDiagException .illegalDataValue, s)
      else ([], ⟨{ s.diag with listenOnly := true }, s.event.push eventEnterListenOnly⟩)
  | some .clearCounters =>
      if data ≠ 0x0000 then (modbusDiagException .illegalDataValue, s)
      else
        let cleared : LineState := ⟨s.diag.clearCounters, s.event.clearCounter⟩
        if isBroadcast then ([], cleared) else (rx.take 5, cleared)
  | some .clearOverrun =>
      if data ≠ 0x0000 then (modbusDiagException .illegalDataValue, s)
      else (rx.take 5, { s with diag := { s.diag with charOverrunCount := 0 } })
  | some counter =>
      if data ≠ 0x0000 then (modbusDiagException .illegalDataValue, s)
      else (diagValuePdu rx (s.diag.counterRead counter), s)
  | none => (modbusDiagException .illegalFunction, s)

/-- `modbus_diag_process`: the bytes it writes to `tx_pdu`, and the state after it. -/
def modbusDiagProcess (rx : List Byte) (isBroadcast : Bool) (s : LineState) :
    List Byte × LineState :=
  if rx.length < 5 then
    if s.diag.listenOnly then ([], s) else (modbusDiagException .illegalDataValue, s)
  else if s.diag.listenOnly ∧ wordAt rx 1 ≠ DiagSub.restartComm.code then ([], s)
  else if isBroadcast ∧ ¬ modbusDiagBroadcastEligible (wordAt rx 1) then ([], s)
  else diagDispatch rx isBroadcast s

/-! ## Bookkeeping hooks -/

namespace LineState

/-- `modbus_diag_note_bus_message`. -/
def noteBusMessage (s : LineState) : LineState :=
  { s with diag := { s.diag with busMessageCount := s.diag.busMessageCount + 1 } }

/-- `modbus_diag_note_comm_error`. -/
def noteCommError (s : LineState) : LineState where
  diag := { s.diag with commErrorCount := s.diag.commErrorCount + 1 }
  event := s.event.push
    (eventRx ||| eventRxCommError ||| if s.diag.listenOnly then eventRxListenOnly else 0)

/-- `modbus_diag_note_slave_message`. -/
def noteSlaveMessage (s : LineState) : LineState :=
  { s with diag := { s.diag with slaveMessageCount := s.diag.slaveMessageCount + 1 } }

/-- `modbus_diag_note_char_overrun`. -/
def noteCharOverrun (s : LineState) : LineState where
  diag := { s.diag with
    charOverrunCount := s.diag.charOverrunCount + 1
    commErrorCount := s.diag.commErrorCount + 1 }
  event := s.event.push (eventRx ||| eventRxCommError ||| eventRxCharOverrun |||
    if s.diag.listenOnly then eventRxListenOnly else 0)

/-- `modbus_diag_note_result`. -/
def noteResult (s : LineState) (responded isException : Bool) : LineState :=
  if isException then
    { s with diag := { s.diag with exceptionErrorCount := s.diag.exceptionErrorCount + 1 } }
  else if ¬ responded then
    { s with diag := { s.diag with slaveNoResponseCount := s.diag.slaveNoResponseCount + 1 } }
  else s

end LineState

end AutomationBoard.Modbus
