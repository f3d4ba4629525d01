/-
# The diagnostic counters

The six counters against the tallies of the ledger. A command that clears them
is dispatched between the places where the code counts its message and where it
counts the result. An echoed command leaves zeros, because an answer has no
counter of its own. A command that is not answered leaves a one behind: the
missing answer of the command itself is counted after the clearing.
-/

import AutomationBoard.Modbus.LineLedger

namespace AutomationBoard.Modbus

open AutomationBoard.Program

variable {cfg : Config}

/-- The six counters are the tallies, modulo 65536, and each message is accounted
for by its answer or the lack of one. -/
structure CountersAgree (d : DiagState) (t : Tally) : Prop where
  busMessages : d.busMessageCount = BitVec.ofNat 16 t.busMessages
  commErrors : d.commErrorCount = BitVec.ofNat 16 t.commErrors
  exceptionResponses : d.exceptionErrorCount = BitVec.ofNat 16 t.exceptionResponses
  slaveMessages : d.slaveMessageCount = BitVec.ofNat 16 t.slaveMessages
  noResponses : d.slaveNoResponseCount = BitVec.ofNat 16 t.noResponses
  charOverruns : d.charOverrunCount = BitVec.ofNat 16 t.charOverruns
  balance : d.slaveMessageCount =
    BitVec.ofNat 16 t.normalResponses + d.exceptionErrorCount + d.slaveNoResponseCount

/-- What the counters are in every run: one more missing answer is counted than
there were, if the last command that cleared the counters was not answered. -/
structure CountersFollow (clearedSilently : Bool) (d : DiagState) (t : Tally) : Prop where
  busMessages : d.busMessageCount = BitVec.ofNat 16 t.busMessages
  commErrors : d.commErrorCount = BitVec.ofNat 16 t.commErrors
  exceptionResponses : d.exceptionErrorCount = BitVec.ofNat 16 t.exceptionResponses
  slaveMessages : d.slaveMessageCount = BitVec.ofNat 16 t.slaveMessages
  noResponses : d.slaveNoResponseCount =
    BitVec.ofNat 16 (t.noResponses + clearedSilently.toNat)
  charOverruns : d.charOverrunCount = BitVec.ofNat 16 t.charOverruns
  balance : t.slaveMessages = t.normalResponses + t.exceptionResponses + t.noResponses

/-! ## Each message -/

/-- A counter moves with its tally. -/
theorem succ_eq_ofNat {w : Word} {n : ℕ} (h : w = BitVec.ofNat 16 n) :
    w + 1 = BitVec.ofNat 16 (n + 1) := by
  rw [h, BitVec.ofNat_add]
  rfl

/-- The counters that a message moves when it is received. -/
def DiagState.noteMessage (d : DiagState) : DiagState :=
  { d with
    busMessageCount := d.busMessageCount + 1
    slaveMessageCount := d.slaveMessageCount + 1 }

/-- The counters that an answer moves. -/
def DiagState.noteAnswer (d : DiagState) : Answer → DiagState
  | .silent => { d with slaveNoResponseCount := d.slaveNoResponseCount + 1 }
  | .normal => d
  | .exception _ => { d with exceptionErrorCount := d.exceptionErrorCount + 1 }

/-- The effect of a command on the counters and the mode. -/
def DiagState.commanded (d : DiagState) : Option LineCommand → DiagState
  | some (.restart _) => { d.clearCounters with listenOnly := false }
  | some .forceListenOnly => { d with listenOnly := true }
  | some .clearCounters => d.clearCounters
  | some .clearOverrun => { d with charOverrunCount := 0 }
  | none => d

theorem diag_message (line : LineState) (pdu : List Byte) (isBroadcast : Bool) (answer : Answer) :
    (line.message cfg pdu isBroadcast answer).diag =
      (line.diag.noteMessage.commanded
        (executedCommand line.diag.listenOnly isBroadcast pdu)).noteAnswer answer := by
  have hcompletion : ∀ (line : LineState) (completed : Bool),
      (line.noteCompletion completed).diag = line.diag := by
    intro line completed
    cases completed <;> rfl
  have hanswer : ∀ (line : LineState) (fetch : Bool),
      (line.noteAnswer fetch answer).diag = line.diag.noteAnswer answer := by
    intro line fetch
    cases answer <;> cases fetch <;> rfl
  rw [LineState.message, hcompletion, hanswer]
  congr 1
  cases executedCommand line.diag.listenOnly isBroadcast pdu with
  | none => rfl
  | some command => cases command <;> rfl

namespace CountersFollow

variable {clearedSilently : Bool} {d : DiagState} {t : Tally}

/-- A message and its answer are counted. -/
theorem message (h : CountersFollow clearedSilently d t) (answer : Answer) :
    CountersFollow clearedSilently (d.noteMessage.noteAnswer answer) (t.message answer) := by
  obtain ⟨hbus, herrors, hexceptions, hslave, hnone, hoverruns, hbalance⟩ := h
  cases answer with
  | silent =>
      have hmissing := (succ_eq_ofNat hnone).trans (by rw [Nat.add_right_comm])
      exact ⟨succ_eq_ofNat hbus, herrors, hexceptions, succ_eq_ofNat hslave, hmissing, hoverruns,
        by simp only [Tally.message]; omega⟩
  | normal =>
      exact ⟨succ_eq_ofNat hbus, herrors, hexceptions, succ_eq_ofNat hslave, hnone, hoverruns,
        by simp only [Tally.message]; omega⟩
  | exception code =>
      exact ⟨succ_eq_ofNat hbus, herrors, succ_eq_ofNat hexceptions, succ_eq_ofNat hslave, hnone,
        hoverruns, by simp only [Tally.message]; omega⟩

/-- Entering listen-only mode moves no counter. -/
theorem message_forceListenOnly (h : CountersFollow clearedSilently d t) (answer : Answer) :
    CountersFollow clearedSilently
      ((d.noteMessage.commanded (some .forceListenOnly)).noteAnswer answer) (t.message answer) := by
  obtain ⟨hbus, herrors, hexceptions, hslave, hnone, hoverruns, hbalance⟩ := h.message answer
  cases answer <;> exact ⟨hbus, herrors, hexceptions, hslave, hnone, hoverruns, hbalance⟩

/-- The overruns alone are cleared. -/
theorem message_clearOverrun (h : CountersFollow clearedSilently d t) (answer : Answer) :
    CountersFollow clearedSilently
      ((d.noteMessage.commanded (some .clearOverrun)).noteAnswer answer)
      { t.message answer with charOverruns := 0 } := by
  obtain ⟨hbus, herrors, hexceptions, hslave, hnone, -, hbalance⟩ := h.message answer
  cases answer <;> exact ⟨hbus, herrors, hexceptions, hslave, hnone, rfl, hbalance⟩

/-- After the counters are cleared, they are zero but for the missing answer of
the command itself. -/
theorem cleared (d : DiagState) (listenOnly silent : Bool) :
    CountersFollow silent
      (DiagState.noteAnswer { d.clearCounters with listenOnly := listenOnly }
        (if silent then .silent else .normal)) .zero := by
  cases silent <;> exact ⟨rfl, rfl, rfl, rfl, rfl, rfl, rfl⟩

/-- The counters agree with the tallies exactly when the last command that
cleared them was answered, if there was one. -/
theorem agree_iff (h : CountersFollow clearedSilently d t) :
    CountersAgree d t ↔ clearedSilently = false := by
  constructor
  · intro hagree
    cases hsilent : clearedSilently with
    | false => rfl
    | true =>
        have hcount := hagree.noResponses.symm.trans h.noResponses
        rw [hsilent] at hcount
        have hnat := congrArg BitVec.toNat hcount
        simp only [BitVec.toNat_ofNat, Bool.toNat_true] at hnat
        omega
  · rintro rfl
    refine ⟨h.busMessages, h.commErrors, h.exceptionResponses, h.slaveMessages, h.noResponses,
      h.charOverruns, ?_⟩
    rw [h.slaveMessages, h.exceptionResponses, h.noResponses, h.balance]
    simp [BitVec.ofNat_add]

end CountersFollow

theorem countersFollow_message {line : LineState} {l : Ledger}
    (hmode : line.diag.listenOnly = l.listenOnly)
    (h : CountersFollow l.clearedSilently line.diag l.tally) (pdu : List Byte) (isBroadcast : Bool)
    {answer : Answer}
    (hanswer : ∀ command, executedCommand l.listenOnly isBroadcast pdu = some command →
      command.clears = true →
        answer = if isBroadcast || l.listenOnly then .silent else .normal) :
    CountersFollow (l.message cfg pdu isBroadcast answer).clearedSilently
      (line.message cfg pdu isBroadcast answer).diag
      (l.message cfg pdu isBroadcast answer).tally := by
  rw [diag_message, hmode, Ledger.message]
  cases hcommand : executedCommand l.listenOnly isBroadcast pdu with
  | none => exact h.message answer
  | some command =>
      cases command with
      | forceListenOnly => exact h.message_forceListenOnly answer
      | clearOverrun => exact h.message_clearOverrun answer
      | restart clearLog =>
          rw [hanswer _ hcommand rfl]
          exact .cleared _ false _
      | clearCounters =>
          rw [hanswer _ hcommand rfl]
          exact .cleared line.diag.noteMessage line.diag.listenOnly (isBroadcast || l.listenOnly)

/-- The counters follow the ledger. -/
theorem follows_counters :
    Follows cfg fun line l => CountersFollow l.clearedSilently line.diag l.tally where
  start _ := ⟨rfl, rfl, rfl, rfl, rfl, rfl, rfl⟩
  charOverrun _ _ _ h :=
    ⟨h.busMessages, succ_eq_ofNat h.commErrors, h.exceptionResponses, h.slaveMessages,
      h.noResponses, succ_eq_ofNat h.charOverruns, h.balance⟩
  commError _ _ _ h :=
    ⟨h.busMessages, succ_eq_ofNat h.commErrors, h.exceptionResponses, h.slaveMessages,
      h.noResponses, h.charOverruns, h.balance⟩
  foreign _ _ h :=
    ⟨succ_eq_ofNat h.busMessages, h.commErrors, h.exceptionResponses, h.slaveMessages,
      h.noResponses, h.charOverruns, h.balance⟩
  message _ _ pdu isBroadcast _ hmode hanswer h :=
    countersFollow_message hmode h pdu isBroadcast hanswer

/-! ## Runs -/

theorem yields_runAll_countersAgree_iff (flat : cfg.Flat) (slaveId : Byte) (s : Slave cfg)
    (inputs : List LineInput) :
    Yields (runAll lineInput inputs) (modbusRtuInit slaveId s) fun outputs s' =>
      CountersAgree s'.line.diag (Ledger.ofRun cfg slaveId inputs outputs).tally ↔
        (Ledger.ofRun cfg slaveId inputs outputs).clearedSilently = false :=
  (follows_counters.yields_runAll flat s inputs).mono fun _ _ h => h.related.agree_iff

/-- After every run of frames and overruns, the counters are what happened since
they were last cleared, if and only if the command that cleared them was
answered. -/
theorem runLine_countersAgree_iff (slaveId : Byte) (s : Slave boardConfig)
    (inputs : List LineInput) :
    Yields (runAll lineInput inputs) (modbusRtuInit slaveId s) fun outputs s' =>
      CountersAgree s'.line.diag (Ledger.ofRun boardConfig slaveId inputs outputs).tally ↔
        (Ledger.ofRun boardConfig slaveId inputs outputs).clearedSilently = false :=
  yields_runAll_countersAgree_iff Config.boardConfig_flat slaveId s inputs

/-- Clear Counters as a broadcast leaves a missing answer behind. -/
theorem runLine_clearedByBroadcast :
    ¬ Yields (runAll lineInput [.frame [0x00, 0x08, 0x00, 0x0A, 0x00, 0x00, 0xB4, 0x80]])
      (modbusRtuInit 1 (Slave.powerOn (SyncHooks.none boardConfig))) fun outputs s' =>
        CountersAgree s'.line.diag (Ledger.ofRun boardConfig 1
          [.frame [0x00, 0x08, 0x00, 0x0A, 0x00, 0x00, 0xB4, 0x80]] outputs).tally := by
  have hcrc : crcValid [0x00, 0x08, 0x00, 0x0A, 0x00, 0x00, 0xB4, 0x80] := by
    rw [crcValid_iff]
    decide +kernel
  have haddr : byteAt [0x00, 0x08, 0x00, 0x0A, 0x00, 0x00, 0xB4, 0x80] 0 = 0 := rfl
  have hclears : (executedCommand Ledger.start.listenOnly true (framePdu [0x00, 0x08, 0x00, 0x0A,
      0x00, 0x00, 0xB4, 0x80])).any LineCommand.clears = true := by
    decide
  have hcleared : ∀ out, (Ledger.ofRun boardConfig 1
      [.frame [0x00, 0x08, 0x00, 0x0A, 0x00, 0x00, 0xB4, 0x80]] [out]).clearedSilently = true := by
    intro out
    rw [Ledger.ofRun_singleton, Ledger.step_addressed (by decide) hcrc (.inr haddr),
      decide_eq_true haddr, Ledger.clearedSilently_message hclears, Bool.true_or]
  have hiff := yields_runAll_countersAgree_iff Config.boardConfig_flat 1
    (Slave.powerOn (SyncHooks.none boardConfig))
    [.frame [0x00, 0x08, 0x00, 0x0A, 0x00, 0x00, 0xB4, 0x80]]
  intro hclaim
  simp only [runAll, yields_bind, yields_pure] at hclaim hiff
  obtain ⟨out, s', hrun, hagree⟩ := hclaim
  have hsilent := (hiff.of_run_eq hrun).mp hagree
  rw [hcleared] at hsilent
  cases hsilent

end AutomationBoard.Modbus
