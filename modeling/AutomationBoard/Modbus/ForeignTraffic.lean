/-
# Foreign traffic

Frames that are malformed, corrupted or for somebody else are counted and
logged, and nothing else. Two slaves that differ only in what such frames leave
behind handle every request alike, so inserting such frames into a run changes
no response, except to the requests that ask for these very numbers.
-/

import AutomationBoard.Modbus.Refinement.Rtu
import AutomationBoard.Program.Runs

namespace AutomationBoard.Modbus

open AutomationBoard.Program

variable {cfg : Config}

/-! ## What foreign frames do not touch -/

/-- The serial-line state without the two counters of foreign traffic and without
the event log. -/
structure LineView where
  exceptionErrorCount : Word
  slaveMessageCount : Word
  slaveNoResponseCount : Word
  charOverrunCount : Word
  diagRegister : Word
  listenOnly : Bool
  eventCounter : Word

/-- What is left of the serial-line state. -/
def LineState.view (line : LineState) : LineView where
  exceptionErrorCount := line.diag.exceptionErrorCount
  slaveMessageCount := line.diag.slaveMessageCount
  slaveNoResponseCount := line.diag.slaveNoResponseCount
  charOverrunCount := line.diag.charOverrunCount
  diagRegister := line.diag.diagRegister
  listenOnly := line.diag.listenOnly
  eventCounter := line.event.counter

/-- Two slaves that differ at most in the bus message counter, the comm-error
counter and the event log. -/
structure SameService (s t : Slave cfg) : Prop where
  slaveId : s.slaveId = t.slaveId
  hooks : s.hooks = t.hooks
  env : s.env = t.env
  view : s.line.view = t.line.view

theorem SameService.refl (s : Slave cfg) : SameService s s := ⟨rfl, rfl, rfl, rfl⟩

/-- A frame the slave with the given id takes no notice of. -/
def Foreign (slaveId : Byte) (rx : List Byte) : Prop :=
  ¬ lengthValid rx ∨ ¬ crcValid rx ∨ (byteAt rx 0 ≠ slaveId ∧ byteAt rx 0 ≠ 0)

/-- The requests that read a counter of foreign traffic or the event log. -/
def readsTraffic (pdu : List Byte) : Prop :=
  (byteAt pdu 0 = FunctionCode.diagnostics.code ∧ 5 ≤ pdu.length ∧ wordAt pdu 3 = 0x0000 ∧
    (wordAt pdu 1 = DiagSub.busMessageCount.code ∨
      wordAt pdu 1 = DiagSub.busCommErrorCount.code)) ∨
  (byteAt pdu 0 = FunctionCode.getCommEventLog.code ∧ pdu.length = 1)

/-- Two PDUs built for one request: the same, or answers to a request that reads
what foreign traffic leaves behind. -/
inductive Alike (pdu : List Byte) : List Byte → List Byte → Prop
  | same (built : List Byte) : Alike pdu built built
  | reads (h : readsTraffic pdu) (fc : Byte) (rest rest' : List Byte) :
      Alike pdu (fc :: rest) (fc :: rest')

theorem Alike.eq {pdu built built' : List Byte} (h : Alike pdu built built')
    (hpdu : ¬ readsTraffic pdu) : built = built' := by
  cases h with
  | same => rfl
  | reads hreads => exact absurd hreads hpdu

theorem Alike.nil_iff {pdu built built' : List Byte} (h : Alike pdu built built') :
    built = [] ↔ built' = [] := by
  cases h with
  | same => rfl
  | reads _ fc rest rest' => exact iff_of_false (List.cons_ne_nil _ _) (List.cons_ne_nil _ _)

theorem Alike.head {pdu built built' : List Byte} (h : Alike pdu built built') :
    byteAt built 0 = byteAt built' 0 := by
  cases h <;> rfl

/-! ## Requests -/

section Line

variable {line line' : LineState} (h : line.view = line'.view)
include h

/-- The diagnostics dispatcher answers alike, and keeps the lines alike. -/
theorem alike_diagDispatch {pdu : List Byte}
    (hcode : byteAt pdu 0 = FunctionCode.diagnostics.code) (hlength : 5 ≤ pdu.length)
    (isBroadcast : Bool) :
    Alike pdu (diagDispatch pdu isBroadcast line).1 (diagDispatch pdu isBroadcast line').1 ∧
      (diagDispatch pdu isBroadcast line).2.view = (diagDispatch pdu isBroadcast line').2.view := by
  obtain ⟨hexception, hmessage, hresponse, hoverrun, hregister, hlisten, hcounter⟩ :=
    LineView.mk.inj h
  unfold diagDispatch
  cases hsub : DiagSub.ofWord (wordAt pdu 1) with
  | none => exact ⟨.same _, h⟩
  | some sub =>
      have hword : wordAt pdu 1 = sub.code := (DiagSub.ofWord_eq_some.mp hsub).symm
      simp only [hlisten]
      cases sub with
      | returnQueryData | changeAsciiDelimiter => exact ⟨.same _, h⟩
      | restartComm | clearCounters =>
          simp only
          split_ifs
          · exact ⟨.same _, h⟩
          all_goals exact ⟨.same _, by simp [LineState.view, DiagState.clearCounters, hlisten]⟩
      | forceListenOnly =>
          simp only
          split_ifs
          · exact ⟨.same _, h⟩
          · exact ⟨.same _, by simp [LineState.view, hexception, hmessage, hresponse, hoverrun,
              hregister, hcounter]⟩
      | clearOverrun =>
          simp only
          split_ifs
          · exact ⟨.same _, h⟩
          · exact ⟨.same _, by simp [LineState.view, hexception, hmessage, hresponse, hregister,
              hcounter]⟩
      | busMessageCount =>
          simp only
          split_ifs with hdata
          · exact ⟨.same _, h⟩
          · exact ⟨.reads (.inl ⟨hcode, hlength, not_not.mp hdata, .inl hword⟩) _ _ _, h⟩
      | busCommErrorCount =>
          simp only
          split_ifs with hdata
          · exact ⟨.same _, h⟩
          · exact ⟨.reads (.inl ⟨hcode, hlength, not_not.mp hdata, .inr hword⟩) _ _ _, h⟩
      | readDiagRegister | slaveExceptionCount | slaveMessageCount | slaveNoResponseCount
      | slaveNakCount | slaveBusyCount | busCharOverrunCount =>
          simp only [DiagState.counterRead, hregister, hexception, hmessage, hresponse, hoverrun]
          split_ifs <;> exact ⟨.same _, h⟩

theorem alike_modbusDiagProcess {pdu : List Byte}
    (hcode : byteAt pdu 0 = FunctionCode.diagnostics.code) (isBroadcast : Bool) :
    Alike pdu (modbusDiagProcess pdu isBroadcast line).1
        (modbusDiagProcess pdu isBroadcast line').1 ∧
      (modbusDiagProcess pdu isBroadcast line).2.view =
        (modbusDiagProcess pdu isBroadcast line').2.view := by
  have hlisten : line.diag.listenOnly = line'.diag.listenOnly := congrArg LineView.listenOnly h
  unfold modbusDiagProcess
  rw [hlisten]
  split_ifs with hlength
  · exact ⟨.same _, h⟩
  · exact ⟨.same _, h⟩
  · exact ⟨.same _, h⟩
  · exact ⟨.same _, h⟩
  · exact alike_diagDispatch h hcode (Nat.le_of_not_lt hlength) isBroadcast

theorem alike_modbusEventProcess (pdu : List Byte) (isBroadcast : Bool)
    (hfetch : isFetch (byteAt pdu 0)) :
    Alike pdu
      (modbusEventProcess pdu isBroadcast line.event (line.diag.counterRead .slaveMessageCount))
      (modbusEventProcess pdu isBroadcast line'.event
        (line'.diag.counterRead .slaveMessageCount)) := by
  have hcounter : line.event.counter = line'.event.counter := congrArg LineView.eventCounter h
  unfold modbusEventProcess
  simp only [hcounter]
  split_ifs with hbroadcast hlength hcode
  · exact .same _
  · exact .same _
  · exact .same _
  · have hlog : byteAt pdu 0 = FunctionCode.getCommEventLog.code := by
      simpa [isFetch, hcode] using hfetch
    exact .reads (.inr ⟨hlog, not_not.mp hlength⟩) _ _ _

/-! ## Bookkeeping -/

theorem view_noteSlaveMessage : line.noteSlaveMessage.view = line'.noteSlaveMessage.view := by
  obtain ⟨hexception, hmessage, hresponse, hoverrun, hregister, hlisten, hcounter⟩ :=
    LineView.mk.inj h
  simp [LineState.view, LineState.noteSlaveMessage, *]

theorem view_noteResult (responded isException : Bool) :
    (line.noteResult responded isException).view =
      (line'.noteResult responded isException).view := by
  obtain ⟨hexception, hmessage, hresponse, hoverrun, hregister, hlisten, hcounter⟩ :=
    LineView.mk.inj h
  unfold LineState.noteResult
  split_ifs
  · simp [LineState.view, *]
  · exact h
  · simp [LineState.view, *]

theorem view_noteSuccess :
    LineState.view { line with event := line.event.noteSuccess } =
      LineState.view { line' with event := line'.event.noteSuccess } := by
  obtain ⟨hexception, hmessage, hresponse, hoverrun, hregister, hlisten, hcounter⟩ :=
    LineView.mk.inj h
  simp [LineState.view, *]

end Line

/-- A send event is logged and not counted. -/
@[simp]
theorem view_noteSent (pdu : List Byte) (h : Handling cfg) (line : LineState) :
    (noteSent pdu h line).view = line.view := by
  rw [LineState.view, diag_noteSent, counter_noteSent, LineState.view]

/-- Two handlings of one request. -/
structure HandledAlike (pdu : List Byte) (h h' : Handling cfg) : Prop where
  built : Alike pdu h.built h'.built
  sent : h.sent = h'.sent
  slave : SameService h.slave h'.slave

theorem HandledAlike.response {pdu : List Byte} {h h' : Handling cfg}
    (alike : HandledAlike pdu h h') : Alike pdu h.response h'.response := by
  rw [Handling.response, Handling.response, alike.sent]
  split
  · exact alike.built
  · exact .same _

/-- The bookkeeping of two handlings keeps the lines alike. -/
theorem view_bookkeeping {pdu : List Byte} {h h' : Handling cfg} (alike : HandledAlike pdu h h')
    (isBroadcast : Bool) {line line' : LineState} (hline : line.view = line'.view) :
    (bookkeeping pdu isBroadcast h line).view = (bookkeeping pdu isBroadcast h' line').view := by
  have hresponded : decide (h.response ≠ []) = decide (h'.response ≠ []) :=
    decide_eq_decide.mpr (not_congr alike.response.nil_iff)
  have hexception : h.isException = h'.isException := by
    rw [Handling.isException, Handling.isException, alike.built.head]
  let responded := decide (h'.response ≠ [])
  have hresult := view_noteResult hline responded (responded && h'.isException)
  have hsent : (noteSent pdu h (line.noteResult responded (responded && h'.isException))).view =
      (noteSent pdu h' (line'.noteResult responded (responded && h'.isException))).view := by
    rw [view_noteSent, view_noteSent, hresult]
  have hlisten : (noteSent pdu h (line.noteResult responded
        (responded && h'.isException))).diag.listenOnly =
      (noteSent pdu h' (line'.noteResult responded
        (responded && h'.isException))).diag.listenOnly :=
    congrArg LineView.listenOnly hsent
  simp only [bookkeeping, hresponded, hexception, alike.built.head]
  rw [hlisten]
  split_ifs
  · exact view_noteSuccess hsent
  · exact hsent

/-- Two slaves that offer the same service handle a request alike. -/
theorem handledAlike_handleRequest {s t : Slave cfg} (hst : SameService s t) (pdu : List Byte)
    (isBroadcast : Bool) :
    HandledAlike pdu (handleRequest s pdu isBroadcast) (handleRequest t pdu isBroadcast) := by
  obtain ⟨hid, hhooks, henv, hview⟩ := hst
  have hlisten : s.listenOnly = t.listenOnly := congrArg LineView.listenOnly hview
  have ignored : HandledAlike pdu (.ignored s) (.ignored t) :=
    ⟨.same _, rfl, hid, hhooks, henv, hview⟩
  unfold handleRequest
  simp only [hlisten]
  split_ifs with hdiag hfetch
  · obtain ⟨hbuilt, hline⟩ := alike_modbusDiagProcess hview hdiag isBroadcast
    exact ⟨hbuilt, rfl, hid, hhooks, henv, hline⟩
  · exact ignored
  · exact ⟨alike_modbusEventProcess hview pdu isBroadcast hfetch, rfl, hid, hhooks, henv, hview⟩
  · exact ignored
  · exact ⟨.same _, rfl, hid, hhooks, henv, hview⟩
  · exact ignored
  · exact ignored
  · rw [hhooks, henv]
    exact ⟨.same _, rfl, hid, rfl, rfl, hview⟩

/-! ## Frames -/

/-- The responses of two slaves to one frame are the same, unless it reads what
foreign traffic leaves behind. -/
def SameResponse (rx : List Byte) (out out' : Outcome) : Prop :=
  ¬ readsTraffic (framePdu rx) → out = out'

theorem SameService.addressedStep {s t : Slave cfg} (hst : SameService s t) (rx : List Byte)
    (isBroadcast : Bool) :
    SameResponse rx (addressedStep s (framePdu rx) isBroadcast).1
        (addressedStep t (framePdu rx) isBroadcast).1 ∧
      SameService (addressedStep s (framePdu rx) isBroadcast).2
        (addressedStep t (framePdu rx) isBroadcast).2 := by
  have hbus : s.line.noteBusMessage.view = t.line.noteBusMessage.view := hst.view
  have hline := view_noteSlaveMessage hbus
  have hcalled : SameService
      ((s.updateLine LineState.noteBusMessage).updateLine LineState.noteSlaveMessage)
      ((t.updateLine LineState.noteBusMessage).updateLine LineState.noteSlaveMessage) :=
    ⟨hst.slaveId, hst.hooks, hst.env, hline⟩
  have handled := handledAlike_handleRequest hcalled (framePdu rx) isBroadcast
  refine ⟨fun hreads => ?_, ?_⟩
  · have hid : (s.updateLine LineState.noteBusMessage).slaveId =
        (t.updateLine LineState.noteBusMessage).slaveId := hst.slaveId
    rw [Modbus.addressedStep, Modbus.addressedStep, handled.response.eq hreads, hid]
  · exact ⟨handled.slave.slaveId, handled.slave.hooks, handled.slave.env,
      view_bookkeeping handled isBroadcast handled.slave.view⟩

/-- What a frame adds to the counters of foreign traffic and to the log is not
served. -/
theorem SameService.updateLine {s t : Slave cfg} (hst : SameService s t)
    {f g : LineState → LineState} (hf : (f s.line).view = s.line.view)
    (hg : (g t.line).view = t.line.view) : SameService (s.updateLine f) (t.updateLine g) :=
  ⟨hst.slaveId, hst.hooks, hst.env, hf.trans (hst.view.trans hg.symm)⟩

/-- A frame keeps two slaves alike. -/
theorem SameService.slaveStep {s t : Slave cfg} (hst : SameService s t) (rx : List Byte) :
    SameResponse rx (slaveStep s rx).1 (slaveStep t rx).1 ∧
      SameService (slaveStep s rx).2 (slaveStep t rx).2 := by
  cases frameKind s.slaveId rx with
  | malformed hlength =>
      rw [slaveStep_malformed hlength, slaveStep_malformed hlength]
      exact ⟨fun _ => rfl, hst⟩
  | corrupted hlength hcrc =>
      rw [slaveStep_corrupted hlength hcrc, slaveStep_corrupted hlength hcrc]
      exact ⟨fun _ => rfl, hst.updateLine rfl rfl⟩
  | foreign hlength hcrc haddr =>
      rw [slaveStep_foreign hlength hcrc haddr, slaveStep_foreign hlength hcrc (hst.slaveId ▸ haddr)]
      exact ⟨fun _ => rfl, hst.updateLine rfl rfl⟩
  | addressed hlength hcrc haddr =>
      rw [slaveStep_addressed hlength hcrc haddr,
        slaveStep_addressed hlength hcrc (hst.slaveId ▸ haddr)]
      exact hst.addressedStep rx _

/-- A foreign frame is not answered, and what it changes is not served. -/
theorem SameService.slaveStep_foreign {s t : Slave cfg} (hst : SameService s t) {rx : List Byte}
    (hforeign : Foreign s.slaveId rx) :
    (Modbus.slaveStep s rx).1.tx = [] ∧ SameService (Modbus.slaveStep s rx).2 t := by
  cases frameKind s.slaveId rx with
  | malformed hlength =>
      rw [slaveStep_malformed hlength]
      exact ⟨rfl, hst⟩
  | corrupted hlength hcrc =>
      rw [slaveStep_corrupted hlength hcrc]
      exact ⟨rfl, hst.updateLine (g := id) rfl rfl⟩
  | foreign hlength hcrc haddr =>
      rw [Modbus.slaveStep_foreign hlength hcrc haddr]
      exact ⟨rfl, hst.updateLine (g := id) rfl rfl⟩
  | addressed hlength hcrc haddr =>
      rcases hforeign with h | h | h
      · exact absurd hlength h
      · exact absurd hcrc h
      · exact (haddr.elim h.1 h.2).elim

/-- Foreign frames inserted into a run are not answered, and what the other
frames meet is the same service. -/
theorem yields_runAll_foreign (flat : cfg.Flat) (s : Slave cfg) (slots : List (Slot (List Byte)))
    (hslots : ∀ rx, .inserted rx ∈ slots → Foreign s.slaveId rx) :
    Yields (runAll modbusRtuProcess (allInputs slots)) s fun outs s' =>
      Yields (runAll modbusRtuProcess (ownInputs slots)) s fun outs' t' =>
        Undisturbed (fun out => out.tx = []) SameResponse slots outs outs' ∧
          SameService s' t' := by
  -- the relation also remembers the slave's id, which is what makes a frame foreign
  have hrun : Yields (runAll modbusRtuProcess (allInputs slots)) s fun outs s' =>
      Yields (runAll modbusRtuProcess (ownInputs slots)) s fun outs' t' =>
        Undisturbed (fun out => out.tx = []) SameResponse slots outs outs' ∧
          SameService s' t' ∧ s'.slaveId = s.slaveId := by
    refine yields_runAll_inserted (R := fun u t => SameService u t ∧ u.slaveId = s.slaveId)
      ?_ ?_ ⟨.refl s, rfl⟩ slots hslots
    · rintro u t rx ⟨hut, hid⟩ hforeign
      apply (yields_modbusRtuProcess flat u rx).mono
      intro out u' hstep
      have hforeign' : Foreign u.slaveId rx := hid ▸ hforeign
      obtain ⟨hsilent, hserved⟩ := hut.slaveStep_foreign hforeign'
      have hid' := slaveId_slaveStep u rx
      rw [← hstep] at hsilent hserved hid'
      exact ⟨hsilent, hserved, hid'.trans hid⟩
    · rintro u t rx ⟨hut, hid⟩
      apply (yields_modbusRtuProcess flat u rx).mono
      intro out u' hstep
      apply (yields_modbusRtuProcess flat t rx).mono
      intro out' t' hstep'
      obtain ⟨hsame, hserved⟩ := hut.slaveStep rx
      have hid' := slaveId_slaveStep u rx
      rw [← hstep, ← hstep'] at hsame hserved
      rw [← hstep] at hid'
      exact ⟨hsame, hserved, hid'.trans hid⟩
  apply hrun.mono
  intro outs s' h
  exact h.mono fun outs' t' hdone => ⟨hdone.1, hdone.2.1⟩

/-- Foreign frames inserted anywhere into a run are not answered. Every other
frame gets the response it gets without them, unless it reads the counters of
foreign traffic or the event log, and the slave ends up offering the same
service. -/
theorem runFrames_foreign (s : Slave boardConfig) (slots : List (Slot (List Byte)))
    (hslots : ∀ rx, .inserted rx ∈ slots → Foreign s.slaveId rx) :
    Yields (runAll modbusRtuProcess (allInputs slots)) s fun outs s' =>
      Yields (runAll modbusRtuProcess (ownInputs slots)) s fun outs' t' =>
        Undisturbed (fun out => out.tx = []) SameResponse slots outs outs' ∧
          SameService s' t' :=
  yields_runAll_foreign Config.boardConfig_flat s slots hslots

theorem runFrames_foreign_shortFrame :
    Yields (runAll modbusRtuProcess (allInputs [.inserted [0x02], .own [0x01, 0x07, 0xA3, 0x00]]))
      (Slave.powerOn (SyncHooks.none boardConfig)) fun outs s' =>
      Yields (runAll modbusRtuProcess
          (ownInputs [.inserted [0x02], .own [0x01, 0x07, 0xA3, 0x00]]))
        (Slave.powerOn (SyncHooks.none boardConfig)) fun outs' t' =>
        Undisturbed (fun out => out.tx = []) SameResponse
            [.inserted [0x02], .own [0x01, 0x07, 0xA3, 0x00]] outs outs' ∧
          SameService s' t' :=
  runFrames_foreign (Slave.powerOn (SyncHooks.none boardConfig))
    [.inserted [0x02], .own [0x01, 0x07, 0xA3, 0x00]] (by
      intro rx hrx
      have hshort : rx = [0x02] := by simpa using hrx
      rw [hshort]
      exact .inl (by decide))

end AutomationBoard.Modbus
