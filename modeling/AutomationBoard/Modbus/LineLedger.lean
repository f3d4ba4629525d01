/-
# A ledger of the serial line

An observer who sees what reaches a slave and what it sends can keep count
without the slave's memory: unbounded tallies, and a history of events that is
never cut off. The observer knows the mode from the commands that were executed.
A statistic of the slave follows the ledger in every run if each kind of input
keeps the two in step.
-/

import AutomationBoard.Modbus.LineMessage
import AutomationBoard.Program.Runs

namespace AutomationBoard.Modbus

open AutomationBoard.Program

variable {cfg : Config}

/-! ## The line -/

/-- What reaches a slave: a frame, or a character overrun that the UART reports. -/
inductive LineInput
  | frame (rx : List Byte)
  | charOverrun

/-- The firmware on one input. -/
def lineInput : LineInput → Checked Fault (Slave cfg) Outcome
  | .frame rx => modbusRtuProcess rx
  | .charOverrun => do
      modify fun s => s.updateLine LineState.noteCharOverrun
      pure ⟨.ok, []⟩
/-! ## The ledger -/

/-- Counts since the last command that cleared the counters; the overruns also
since the last command that cleared only these. -/
structure Tally where
  busMessages : ℕ
  commErrors : ℕ
  slaveMessages : ℕ
  normalResponses : ℕ
  exceptionResponses : ℕ
  noResponses : ℕ
  charOverruns : ℕ

/-- Nothing has been counted. -/
def Tally.zero : Tally := ⟨0, 0, 0, 0, 0, 0, 0⟩

/-- A message for the slave, with its answer. -/
def Tally.message (t : Tally) (answer : Answer) : Tally :=
  let t := { t with busMessages := t.busMessages + 1, slaveMessages := t.slaveMessages + 1 }
  match answer with
  | .silent => { t with noResponses := t.noResponses + 1 }
  | .normal => { t with normalResponses := t.normalResponses + 1 }
  | .exception _ => { t with exceptionResponses := t.exceptionResponses + 1 }

/-- What the observer keeps. `clearedSilently` says of the last command that
cleared the counters that it was a broadcast or was received in listen-only
mode. The history has the most recent event first. -/
structure Ledger where
  listenOnly : Bool
  clearedSilently : Bool
  tally : Tally
  completions : ℕ
  history : List Byte

namespace Ledger

/-- The ledger of a slave that has just been initialised. -/
def start : Ledger where
  listenOnly := false
  clearedSilently := false
  tally := .zero
  completions := 0
  history := [0x00]

/-- Bit 5 of a receive event: listen-only mode is on. -/
def listenOnlyBit (l : Ledger) : Byte := if l.listenOnly then 0x20 else 0x00

/-- A character overrun. -/
def charOverrun (l : Ledger) : Ledger :=
  { l with
    tally := { l.tally with
      charOverruns := l.tally.charOverruns + 1
      commErrors := l.tally.commErrors + 1 }
    history := (0x92 ||| l.listenOnlyBit) :: l.history }

/-- A frame with a bad CRC. -/
def commError (l : Ledger) : Ledger :=
  { l with
    tally := { l.tally with commErrors := l.tally.commErrors + 1 }
    history := (0x82 ||| l.listenOnlyBit) :: l.history }

/-- A valid frame for another slave. -/
def foreign (l : Ledger) : Ledger :=
  { l with tally := { l.tally with busMessages := l.tally.busMessages + 1 } }

/-- The bits of a send event that tell the class of an exception. -/
def exceptionClass (code : Byte) : Byte :=
  match code.toNat with
  | 1 | 2 | 3 => 0x01
  | 4 => 0x02
  | 5 | 6 => 0x04
  | 7 => 0x08
  | _ => 0x00

/-- The history with the send event of an answer, if anything was sent. -/
def noteAnswer (history : List Byte) : Answer → List Byte
  | .silent => history
  | .normal => 0x40 :: history
  | .exception code => (0x40 ||| exceptionClass code) :: history

/-- The history with the event of a command. -/
def noteCommand (history : List Byte) : Option LineCommand → List Byte
  | some (.restart clearLog) => 0x00 :: if clearLog then [] else history
  | some .forceListenOnly => 0x04 :: history
  | _ => history

/-- The tally after a message with its answer. A command that clears the
counters is itself not counted. -/
def tallied (t : Tally) (answer : Answer) : Option LineCommand → Tally
  | some .clearOverrun => { t.message answer with charOverruns := 0 }
  | some command => if command.clears then .zero else t.message answer
  | none => t.message answer

/-- A message for the slave, with its answer. -/
def message (cfg : Config) (l : Ledger) (pdu : List Byte) (isBroadcast : Bool) (answer : Answer) :
    Ledger :=
  let command := executedCommand l.listenOnly isBroadcast pdu
  let history := noteCommand l.history command
  { listenOnly := command.elim l.listenOnly (LineCommand.listenOnly l.listenOnly)
    clearedSilently :=
      if command.any LineCommand.clears then isBroadcast || l.listenOnly else l.clearedSilently
    tally := tallied l.tally answer command
    completions :=
      if command.any LineCommand.clears then 0
      else if completes cfg l.listenOnly isBroadcast pdu answer then l.completions + 1
      else l.completions
    history := if isFetch (byteAt pdu 0) then history else noteAnswer history answer }

/-- The ledger after an input and what the slave did with it. -/
def step (cfg : Config) (slaveId : Byte) (l : Ledger) : LineInput → Outcome → Ledger
  | .charOverrun, _ => l.charOverrun
  | .frame rx, out =>
      if ¬ lengthValid rx then l
      else if ¬ crcValid rx then l.commError
      else if byteAt rx 0 ≠ slaveId ∧ byteAt rx 0 ≠ 0 then l.foreign
      else l.message cfg (framePdu rx) (byteAt rx 0 = 0) (answerOf out.tx)

/-- The ledger of a run. -/
def ofRun (cfg : Config) (slaveId : Byte) (inputs : List LineInput) (outputs : List Outcome) :
    Ledger :=
  account (step cfg slaveId) start inputs outputs

/-- The ledger of a run of one input. -/
theorem ofRun_singleton (slaveId : Byte) (i : LineInput) (out : Outcome) :
    ofRun cfg slaveId [i] [out] = step cfg slaveId start i out := rfl

/-- A message with a clearing command is silent where no answer is due. -/
theorem clearedSilently_message {l : Ledger} {pdu : List Byte} {isBroadcast : Bool}
    (hclears : (executedCommand l.listenOnly isBroadcast pdu).any LineCommand.clears = true)
    (answer : Answer) :
    (l.message cfg pdu isBroadcast answer).clearedSilently = (isBroadcast || l.listenOnly) :=
  if_pos hclears

/-- A valid frame for the slave is a message. -/
theorem step_addressed {slaveId : Byte} {rx : List Byte} (hlength : lengthValid rx)
    (hcrc : crcValid rx) (haddr : byteAt rx 0 = slaveId ∨ byteAt rx 0 = 0) (l : Ledger)
    (out : Outcome) :
    l.step cfg slaveId (.frame rx) out =
      l.message cfg (framePdu rx) (byteAt rx 0 = 0) (answerOf out.tx) := by
  have hforUs : ¬ (byteAt rx 0 ≠ slaveId ∧ byteAt rx 0 ≠ 0) := by
    rintro ⟨hother, hnonzero⟩
    exact haddr.elim hother hnonzero
  rw [step, if_neg (not_not_intro hlength), if_neg (not_not_intro hcrc), if_neg hforUs]

end Ledger

/-! ## Statistics that follow the ledger -/

/-- What it takes for a relation between the serial-line state and the ledger to
hold throughout a run: it holds at the start, and is kept by each kind of
input. The two agree on the mode, and a command that clears the counters is
answered exactly where an answer is due. -/
structure Follows (cfg : Config) (R : LineState → Ledger → Prop) : Prop where
  start : ∀ line : LineState, R ⟨line.diag.reset, line.event.reset⟩ .start
  charOverrun : ∀ line l, line.diag.listenOnly = l.listenOnly → R line l →
    R line.noteCharOverrun l.charOverrun
  commError : ∀ line l, line.diag.listenOnly = l.listenOnly → R line l →
    R line.noteCommError l.commError
  foreign : ∀ line l, R line l → R line.noteBusMessage l.foreign
  message : ∀ line l pdu isBroadcast answer, line.diag.listenOnly = l.listenOnly →
    (∀ command, executedCommand l.listenOnly isBroadcast pdu = some command →
      command.clears = true → answer = if isBroadcast || l.listenOnly then .silent else .normal) →
    R line l → R (line.message cfg pdu isBroadcast answer) (l.message cfg pdu isBroadcast answer)

/-- The mode after a message. -/
theorem listenOnly_message (line : LineState) (pdu : List Byte) (isBroadcast : Bool)
    (answer : Answer) :
    (line.message cfg pdu isBroadcast answer).diag.listenOnly =
      (executedCommand line.diag.listenOnly isBroadcast pdu).elim line.diag.listenOnly
        (LineCommand.listenOnly line.diag.listenOnly) := by
  have hcompletion : ∀ (line : LineState) (completed : Bool),
      (line.noteCompletion completed).diag.listenOnly = line.diag.listenOnly := by
    intro line completed
    cases completed <;> rfl
  rw [LineState.message, hcompletion, LineState.listenOnly_noteAnswer]
  cases executedCommand line.diag.listenOnly isBroadcast pdu with
  | none => rfl
  | some command => cases command <;> rfl

/-- The slave on one input. -/
def lineStep (s : Slave cfg) : LineInput → Outcome × Slave cfg
  | .frame rx => slaveStep s rx
  | .charOverrun => (⟨.ok, []⟩, s.updateLine LineState.noteCharOverrun)

theorem yields_lineInput (flat : cfg.Flat) (s : Slave cfg) (i : LineInput) :
    Yields (lineInput i) s fun out s' => (out, s') = lineStep s i := by
  cases i with
  | frame rx => exact yields_modbusRtuProcess flat s rx
  | charOverrun =>
      rw [lineInput, yields_bind, yields_modify, yields_pure]
      rfl

/-- The slave and the observer, in step. -/
structure InStep (R : LineState → Ledger → Prop) (slaveId : Byte) (s : Slave cfg) (l : Ledger) :
    Prop where
  slaveId_eq : s.slaveId = slaveId
  mode : s.listenOnly = l.listenOnly
  related : R s.line l

namespace Follows

variable {R : LineState → Ledger → Prop} {slaveId : Byte}

/-- A statistic that follows the ledger does so on every input. -/
theorem inStep_lineStep (flat : cfg.Flat) (h : Follows cfg R) {s : Slave cfg} {l : Ledger}
    (hs : InStep R slaveId s l) (i : LineInput) :
    InStep R slaveId (lineStep s i).2 (l.step cfg slaveId i (lineStep s i).1) := by
  obtain ⟨hid, hmode, hrelated⟩ := hs
  cases i with
  | charOverrun => exact ⟨hid, hmode, h.charOverrun _ _ hmode hrelated⟩
  | frame rx =>
      rw [lineStep]
      cases frameKind s.slaveId rx with
      | malformed hlength =>
          rw [slaveStep_malformed hlength, Ledger.step, if_pos hlength]
          exact ⟨hid, hmode, hrelated⟩
      | corrupted hlength hcrc =>
          rw [slaveStep_corrupted hlength hcrc, Ledger.step, if_neg (not_not_intro hlength),
            if_pos hcrc]
          exact ⟨hid, hmode, h.commError _ _ hmode hrelated⟩
      | foreign hlength hcrc haddr =>
          rw [slaveStep_foreign hlength hcrc haddr, Ledger.step, if_neg (not_not_intro hlength),
            if_neg (not_not_intro hcrc), if_pos (hid ▸ haddr)]
          exact ⟨hid, hmode, h.foreign _ _ hrelated⟩
      | addressed hlength hcrc haddr =>
          rw [slaveStep_addressed hlength hcrc haddr, Ledger.step_addressed hlength hcrc (hid ▸ haddr),
            answerOf_addressedStep flat s (framePdu_ne_nil hlength)]
          have hline := line_addressedStep s (framePdu rx) (byteAt rx 0 = 0)
          refine ⟨?_, ?_, ?_⟩
          · exact (slaveId_handleRequest s.counted _ _).trans hid
          · rw [Slave.listenOnly, hline, listenOnly_message, ← Slave.listenOnly, hmode]
            rfl
          · rw [hline]
            refine h.message _ _ _ _ _ hmode ?_ hrelated
            intro command hcommand hclears
            rw [← hmode] at hcommand ⊢
            exact answer_of_clears (s := s.counted) hcommand hclears

/-- A statistic that follows the ledger does so in every run from the
initialisation on. -/
theorem yields_runAll (flat : cfg.Flat) (h : Follows cfg R) (s : Slave cfg)
    (inputs : List LineInput) :
    Yields (runAll lineInput inputs) (modbusRtuInit slaveId s) fun outputs s' =>
      InStep R slaveId s' (Ledger.ofRun cfg slaveId inputs outputs) := by
  have hstart : InStep R slaveId (modbusRtuInit slaveId s) .start := ⟨rfl, rfl, h.start s.line⟩
  refine yields_runAll_account ?_ hstart inputs
  intro s l i hs
  apply (yields_lineInput flat s i).mono
  intro out s' hstep
  have hnext := inStep_lineStep flat h hs i
  rwa [← hstep] at hnext

end Follows

end AutomationBoard.Modbus
