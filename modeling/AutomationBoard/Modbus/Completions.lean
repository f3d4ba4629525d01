/-
# The comm event counter

The counter against the completions of the ledger. The code decides after the
fact, from what the dispatchers have left in the response buffer, whether a
message has completed; the ledger decides from the request, its mode and its
answer.
-/

import AutomationBoard.Modbus.LineLedger

namespace AutomationBoard.Modbus

open AutomationBoard.Program

variable {cfg : Config}

/-! ## Each message -/

theorem counter_noteAnswer (line : LineState) (fetch : Bool) (answer : Answer) :
    (line.noteAnswer fetch answer).event.counter = line.event.counter := by
  cases answer <;> cases fetch <;> rfl

theorem counter_noteCompletion (line : LineState) (completed : Bool) :
    (line.noteCompletion completed).event.counter =
      if completed then line.event.counter + 1 else line.event.counter := by
  cases completed <;> rfl

/-- The commands that clear the diagnostic counters clear the event counter. -/
theorem counter_commanded (line : LineState) (command : Option LineCommand) :
    (commanded line command).event.counter =
      if command.any LineCommand.clears then 0 else line.event.counter := by
  cases command with
  | none => rfl
  | some command =>
      cases command with
      | restart clearLog => exact EventState.counter_noteRestart _ clearLog
      | _ => rfl

/-- A message that clears the counter does not complete. -/
theorem completes_of_clears {listenOnly isBroadcast : Bool} {pdu : List Byte}
    (hclears : (executedCommand listenOnly isBroadcast pdu).any LineCommand.clears = true)
    (answer : Answer) : completes cfg listenOnly isBroadcast pdu answer = false := by
  rw [completes, hclears, Bool.not_true, Bool.and_false, Bool.false_and]

/-- The event counter follows the completions. -/
theorem follows_completions :
    Follows cfg fun line l => line.event.counter = BitVec.ofNat 16 l.completions where
  start _ := rfl
  charOverrun _ _ _ h := h
  commError _ _ _ h := h
  foreign _ _ h := h
  message line l pdu isBroadcast answer hmode _ h := by
    rw [LineState.message, counter_noteCompletion, counter_noteAnswer, counter_commanded, hmode,
      Ledger.message]
    by_cases hclears : (executedCommand l.listenOnly isBroadcast pdu).any LineCommand.clears
    · rw [if_pos hclears, completes_of_clears hclears answer]
      simp only [if_pos hclears]
      rfl
    · simp only [if_neg hclears]
      split
      · exact (congrArg (· + 1) h).trans (BitVec.ofNat_add _ 1).symm
      · exact h

/-! ## Runs -/

/-- After every run of frames and overruns, the comm event counter is the number
of messages that completed since it was last reset, modulo 65536. -/
theorem runLine_eventCounter (slaveId : Byte) (s : Slave boardConfig) (inputs : List LineInput) :
    Yields (runAll lineInput inputs) (modbusRtuInit slaveId s) fun outputs s' =>
      s'.line.event.counter =
        BitVec.ofNat 16 (Ledger.ofRun boardConfig slaveId inputs outputs).completions :=
  (follows_completions.yields_runAll Config.boardConfig_flat s inputs).mono fun _ _ h => h.related

end AutomationBoard.Modbus
