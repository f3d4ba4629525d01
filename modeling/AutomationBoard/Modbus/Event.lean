/-
# The comm event counter and log

`modbus_event.c`. The log is an array of 64 bytes with the number of events in
it; the state carries the bound on that number, so no sequence of pushes can
leave the array.
-/

import AutomationBoard.Modbus.Exchange

namespace AutomationBoard.Modbus

/-- `MODBUS_EVENT_LOG_SIZE`. -/
def eventLogSize : ℕ := 64

/-! ## Event bytes -/

def eventRestart : Byte := 0x00
def eventEnterListenOnly : Byte := 0x04
def eventRx : Byte := 0x80
def eventRxCommError : Byte := 0x02
def eventRxCharOverrun : Byte := 0x10
def eventRxListenOnly : Byte := 0x20
def eventTx : Byte := 0x40
def eventTxReadExc : Byte := 0x01
def eventTxAbortExc : Byte := 0x02
def eventTxBusyExc : Byte := 0x04
def eventTxNakExc : Byte := 0x08

/-- `MODBUS_EVENT_STATUS_READY`. -/
def eventStatusReady : Word := 0x0000

/-! ## State -/

/-- `s_event_counter`, `s_log` and `s_log_count`. -/
structure EventState where
  counter : Word
  log : Vector Byte eventLogSize
  logCount : ℕ
  logCount_le : logCount ≤ eventLogSize

namespace EventState

/-- The loop of `modbus_event_push`: `s_log[i] = s_log[i - 1]` from `n` down to 1. -/
def shiftLog (log : Vector Byte eventLogSize) : ℕ → Vector Byte eventLogSize
  | 0 => log
  | n + 1 =>
      shiftLog (if h : n + 1 < eventLogSize then
        have : n < eventLogSize := by omega
        log.set (n + 1) log[n] else log) n

/-- `modbus_event_push`. -/
def push (s : EventState) (eventByte : Byte) : EventState where
  counter := s.counter
  log :=
    let n := if s.logCount ≥ eventLogSize then eventLogSize - 1 else s.logCount
    (shiftLog s.log n).set 0 eventByte
  logCount := if s.logCount < eventLogSize then s.logCount + 1 else s.logCount
  logCount_le := by
    have := s.logCount_le
    split <;> omega

/-- The log and its count cleared. -/
def cleared (s : EventState) : EventState where
  counter := s.counter
  log := Vector.replicate eventLogSize 0
  logCount := 0
  logCount_le := Nat.zero_le _

/-- `modbus_event_clear_counter`. -/
def clearCounter (s : EventState) : EventState := { s with counter := 0 }

/-- `modbus_event_reset`. -/
def reset (s : EventState) : EventState := s.clearCounter.cleared.push eventRestart

/-- `modbus_event_note_restart`. -/
def noteRestart (s : EventState) (clearLog : Bool) : EventState :=
  (if clearLog then s.clearCounter.cleared else s.clearCounter).push eventRestart

/-- `modbus_event_note_success`. -/
def noteSuccess (s : EventState) : EventState := { s with counter := s.counter + 1 }

/-- The send event of `modbus_event_note_tx`. -/
def txEvent (exceptionCode : Byte) : Byte :=
  if exceptionCode = 1 ∨ exceptionCode = 2 ∨ exceptionCode = 3 then eventTx ||| eventTxReadExc
  else if exceptionCode = 4 then eventTx ||| eventTxAbortExc
  else if exceptionCode = 5 ∨ exceptionCode = 6 then eventTx ||| eventTxBusyExc
  else if exceptionCode = 7 then eventTx ||| eventTxNakExc
  else eventTx

/-- `modbus_event_note_tx`. -/
def noteTx (s : EventState) (exceptionCode : Byte) : EventState := s.push (txEvent exceptionCode)

/-- The events in the log, the most recent first. -/
def events (s : EventState) : List Byte := s.log.toList.take s.logCount

@[simp]
theorem length_events (s : EventState) : s.events.length = s.logCount := by
  rw [events, List.length_take, Vector.length_toList]
  exact Nat.min_eq_left s.logCount_le

@[simp]
theorem counter_push (s : EventState) (eventByte : Byte) :
    (s.push eventByte).counter = s.counter := rfl

@[simp]
theorem counter_cleared (s : EventState) : s.cleared.counter = s.counter := rfl

@[simp]
theorem counter_noteTx (s : EventState) (exceptionCode : Byte) :
    (s.noteTx exceptionCode).counter = s.counter := rfl

@[simp]
theorem counter_noteRestart (s : EventState) (clearLog : Bool) :
    (s.noteRestart clearLog).counter = 0 := by
  cases clearLog <;> rfl

@[simp]
theorem counter_noteSuccess (s : EventState) : s.noteSuccess.counter = s.counter + 1 := rfl

@[simp]
theorem counter_clearCounter (s : EventState) : s.clearCounter.counter = 0 := rfl

end EventState

/-! ## Fetching -/

/-- `modbus_event_process`, with the bytes it writes to `tx_pdu`.
`slaveMessageCount` is the diagnostic counter that the log response reports. -/
def modbusEventProcess (rx : List Byte) (isBroadcast : Bool) (s : EventState)
    (slaveMessageCount : Word) : List Byte :=
  let fc := byteAt rx 0
  if isBroadcast then []
  else if rx.length ≠ 1 then exceptionPdu fc .illegalDataValue
  else if fc = FunctionCode.getCommEventCounter.code then
    fc :: bytesOfWords [eventStatusReady, s.counter]
  else
    fc :: BitVec.ofNat 8 (6 + s.logCount) ::
      (bytesOfWords [eventStatusReady, s.counter, slaveMessageCount] ++ s.events)

end AutomationBoard.Modbus
