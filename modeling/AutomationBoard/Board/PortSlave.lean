/-
# A port that is a slave

A board that makes no transactions listens, is given a frame, and then either
answers it or listens again. What the port shows tells which of these it does, and
the port cannot be taken for one that makes a transaction.
-/

import AutomationBoard.Board.PortExchange

namespace AutomationBoard.Board

open AutomationBoard.Modbus AutomationBoard.Program AutomationBoard.Serial

variable {cfg : Config}

/-! ## What is noted -/

theorem Quiet.uncollected {outs : List PortOutput} (h : Quiet outs) :
    outs.any PortOutput.isCollected = false := by
  refine List.any_eq_false.mpr fun out hmem => ?_
  have hquiet := h out hmem
  cases out with
  | rests | cleared | started | passed => exact Bool.false_ne_true
  | _ => cases hquiet

section Noted

variable {outs : List PortOutput}

/-- The block after a step that is not a byte. -/
theorem block_note {log : ServiceLog} {p p' : Rs485Port cfg} {event : PortEvent}
    (hop : ∀ b, event.op ≠ .byte b) :
    (log.note p event outs p').block =
      if outs.any PortOutput.isCollected then none else log.block := by
  cases hcase : event.op with
  | byte b => exact absurd hcase (hop b)
  | _ => simp only [ServiceLog.note, ServiceLog.blockAfter, hcase]

theorem block_note_quiet {log : ServiceLog} {p p' : Rs485Port cfg} {event : PortEvent}
    (hop : ∀ b, event.op ≠ .byte b) (houts : outs.any PortOutput.isCollected = false) :
    (log.note p event outs p').block = log.block := by
  rw [block_note hop, houts, if_neg Bool.false_ne_true]

theorem block_note_byte {log : ServiceLog} {p p' : Rs485Port cfg} {event : PortEvent} {b : Byte}
    (hop : event.op = .byte b) :
    (log.note p event outs p').block =
      some (log.block.elim [] Prod.fst ++ [b], event.now) := by
  simp only [ServiceLog.note, ServiceLog.blockAfter, hop]

end Noted

/-! ## Calls and bytes -/

/-- What the beginning of a transaction shows. -/
theorem yields_portStep_transaction {s : Rs485Port cfg} {event : PortEvent} {call : MasterCall}
    (hop : event.op = .transaction call) :
    Yields (portStep event) s fun outs s' =>
      (outs = [] ∨ outs = [.returned (.plain .error)]) ∧ s'.todo = s.todo ∨
        outs = [.called (some (rtuFrame call.slaveId call.reqPdu))] := by
  rw [portStep, yields_bind, yields_get]
  simp only [hop]
  split
  · rw [yields_beginTransaction]
    split_ifs
    · exact .inr rfl
    · exact .inl ⟨.inr rfl, rfl⟩
  · rw [yields_pure]
    exact .inl ⟨.inl rfl, rfl⟩

theorem yields_portStep_byte {s : Rs485Port cfg} {event : PortEvent} {b : Byte}
    (hop : event.op = .byte b) :
    Yields (portStep event) s fun outs s' => outs = [] ∧ s'.todo = s.todo := by
  rw [portStep, yields_bind, yields_get]
  simp only [hop]
  rw [yields_leave]
  exact ⟨rfl, rfl⟩

/-! ## The stages of a slave -/

/-- The main thread has nothing to say. -/
inductive Idles : List PortAction → Prop
  | free : Idles []
  | polling : Idles [.process]
  | letting : Idles [.rxEnable, .rxEnable]
  | released : Idles [.rxEnable]

theorem Idles.receptive {todo : List PortAction} (h : Idles todo) : receptive todo = true := by
  cases h <;> rfl

/-- Where a port stands as a slave. -/
inductive SlaveStage
  | listening
  | delivering (frame : List Byte)
  | answering (tx : List Byte)

/-- What the main thread has to do there. -/
def SlaveStage.At (todo : List PortAction) : SlaveStage → Prop
  | .listening => Idles todo
  | .delivering frame => todo = [.callback frame]
  | .answering tx => Talks tx [] todo ∧ tx ≠ []

/-- What a step of the port shows, and where it stands after it. -/
inductive SlaveTells : SlaveStage → List PortOutput → SlaveStage → Prop
  | quiet {stage : SlaveStage} {outs : List PortOutput} (h : Quiet outs) :
      SlaveTells stage outs stage
  | called : SlaveTells .listening [.called none] .listening
  | collected {frame : List Byte} : SlaveTells .listening [] (.delivering frame)
  | served {frame tx : List Byte} (htx : tx ≠ []) :
      SlaveTells (.delivering frame) [.served frame tx] (.answering tx)
  | ignored {frame : List Byte} : SlaveTells (.delivering frame) [.served frame []] .listening
  | sent {tx : List Byte} : SlaveTells (.answering tx) [.sent tx .ok] .listening

section Slave

variable {now : ℕ} {s : Rs485Port cfg} {stage : SlaveStage} {event : PortEvent}

/-- A step of the main thread takes the slave to its next stage. -/
theorem yields_takeAction_slave (flat : cfg.Flat) (h : stage.At s.todo)
    (hwaiting : ∀ frame, stage = .delivering frame → s.master.waiting = 0)
    {action : PortAction} {rest : List PortAction} (htodo : s.todo = action :: rest) :
    Yields (takeAction now true s rest action) s fun outs s' =>
      ∃ stage' : SlaveStage, SlaveTells stage outs stage' ∧ stage'.At s'.todo := by
  cases stage with
  | listening =>
      have hidles : Idles (action :: rest) := htodo ▸ h
      cases hidles with
      | polling =>
          rw [takeAction, yields_leave]
          cases (s.framer.process now).1 with
          | none => exact ⟨.listening, .quiet .nil, .free⟩
          | some frame => exact ⟨.delivering frame, .collected, rfl⟩
      | letting =>
          rw [takeAction, yields_leave]
          exact ⟨.listening, .quiet .nil, .released⟩
      | released =>
          rw [takeAction, yields_leave]
          exact ⟨.listening, .quiet .nil, .free⟩
  | delivering frame =>
      obtain ⟨rfl, rfl⟩ := List.cons.inj (htodo.symm.trans h)
      have hidle : ¬ modbusMasterRtuIsWaiting s.master ≠ 0 := not_not.mpr (hwaiting frame rfl)
      rw [takeAction, rs485ModbusRxCallback, if_neg hidle, yields_bind]
      apply yields_onSlave_modbusRtuProcess flat
      rw [yields_bind, yields_modify, yields_pure]
      cases htx : (slaveStep s.slave frame).1.tx with
      | nil => exact ⟨.listening, .ignored, .free⟩
      | cons b tx =>
          exact ⟨.answering (b :: tx), .served (List.cons_ne_nil _ _),
            .pauses rfl (.pauses rfl .send), List.cons_ne_nil _ _⟩
  | answering tx =>
      obtain ⟨htalks, htx⟩ := h
      rw [htodo] at htalks
      apply (yields_takeAction_talks htalks htx htodo).mono
      intro outs s' htalked
      cases htalked with
      | still hquiet htalks' _ => exact ⟨.answering tx, .quiet hquiet, htalks', htx⟩
      | sent houts htodo' _ _ =>
          rw [houts]
          exact ⟨.listening, .sent, htodo' ▸ Idles.letting⟩

/-- What happens at a port that makes no transaction. -/
theorem yields_portStep_slave (flat : cfg.Flat) (h : stage.At s.todo)
    (hwaiting : ∀ frame, stage = .delivering frame → s.master.waiting = 0)
    (hcall : ∀ call, event.op ≠ .transaction call) (hok : ∀ halOk, event.op = .step halOk → halOk) :
    Yields (portStep event) s fun outs s' =>
      ∃ stage' : SlaveStage, SlaveTells stage outs stage' ∧ stage'.At s'.todo := by
  rw [portStep, yields_bind, yields_get]
  cases hop : event.op with
  | byte | systick =>
      rw [yields_leave]
      exact ⟨stage, .quiet .nil, h⟩
  | overrun =>
      rw [yields_bind, yields_onSlave_charOverrun, yields_pure]
      exact ⟨stage, .quiet .nil, h⟩
  | rs232 rx =>
      rw [yields_bind]
      apply yields_onSlave_modbusRtuProcess flat
      rw [yields_pure]
      exact ⟨stage, .quiet .nil, h⟩
  | process =>
      dsimp only
      split
      · next htodo =>
          have hlistening : stage = .listening := by
            rw [htodo] at h
            cases stage with
            | listening => rfl
            | delivering => cases h
            | answering => cases h.1
          rw [yields_leave, hlistening]
          exact ⟨.listening, .called, .polling⟩
      · rw [yields_pure]
        exact ⟨stage, .quiet .nil, h⟩
  | transaction call => exact absurd hop (hcall call)
  | step halOk =>
      obtain rfl := hok halOk hop
      dsimp only
      split
      · rw [yields_pure]
        exact ⟨stage, .quiet .nil, h⟩
      · next htodo => exact yields_takeAction_slave flat h hwaiting htodo

/-- What a slave shows is not the beginning of a transaction. -/
theorem SlaveTells.called_not_mem {stage stage' : SlaveStage} {outs : List PortOutput}
    (h : SlaveTells stage outs stage') (adu : List Byte) : .called (some adu) ∉ outs := by
  cases h with
  | quiet h => exact h.not_mem rfl
  | called | collected | served | ignored | sent => simp

theorem PortLog.transacting_note {log : PortLog} {outs : List PortOutput}
    (h : log.transacting = false) (hcalled : ∀ adu, .called (some adu) ∉ outs)
    (event : PortEvent) : (log.note event outs).transacting = false := by
  have hinput : (log.input event).transacting = false := by
    unfold input
    split <;> exact h
  unfold note
  generalize log.input event = noted at hinput
  induction outs generalizing noted with
  | nil => exact hinput
  | cons out outs ih =>
      refine ih (fun adu hmem => hcalled adu (List.mem_cons_of_mem _ hmem)) _ ?_
      cases out with
      | called adu =>
          cases adu with
          | none => rfl
          | some adu => exact absurd List.mem_cons_self (hcalled adu)
      | returned => rfl
      | _ => exact hinput

/-- A board that is the slave, between steps. -/
structure SlaveAt (c d : ℕ) (settings : Dword × Dword × ℕ) (stage : SlaveStage)
    (s : Rs485Port cfg × ServiceLog) : Prop where
  service : InService c d settings s.1 s.2
  stage : stage.At s.1.todo
  transacting : s.2.port.transacting = false
  call : s.2.clock.call = none

/-- A frame that is about to be given away is the block that has come, T3.5 ago. -/
theorem InService.delivering {c d : ℕ} {settings : Dword × Dword × ℕ} {s : Rs485Port cfg}
    {log : ServiceLog} (h : InService c d settings s log) {frame : List Byte}
    (hmem : .callback frame ∈ s.todo) :
    ∃ last, log.block = some (frame, last) ∧ last + settings.2.1.toNat ≤ log.clock.now := by
  cases h.reception with
  | quiet _ _ hnone => exact absurd hmem (hnone frame)
  | arriving _ _ _ _ hlistens => exact absurd hmem (hlistens.callback_not_mem frame)
  | complete _ _ _ hlistens => exact absurd hmem (hlistens.callback_not_mem frame)
  | delivered hblock _ hlast htodo hrest _ =>
      obtain rfl : frame = _ := by
        rcases hrest with rfl | ⟨call, start, rfl⟩ <;> simpa [htodo] using hmem
      exact ⟨_, hblock, hlast⟩

/-- A step of the slave, and what its observer makes of it. -/
structure SlaveAdvances (c d : ℕ) (settings : Dword × Dword × ℕ) (stage : SlaveStage)
    (s : Rs485Port cfg × ServiceLog) (event : PortEvent) (outs : List PortOutput)
    (s' : Rs485Port cfg × ServiceLog) (stage' : SlaveStage) : Prop where
  kept : SlaveAt c d settings stage' s'
  tells : SlaveTells stage outs stage'
  serves : Serves c d settings.2.1.toNat s event outs s'
  log_eq : s'.2 = s.2.note s.1 event outs s'.1
  run_eq : (portStep event).run s.1 = .ok (outs, s'.1)

theorem yields_servingPort_slave {c d : ℕ} {settings : Dword × Dword × ℕ}
    {s : Rs485Port cfg × ServiceLog} (flat : cfg.Flat) (h : SlaveAt c d settings stage s)
    (hshort : settings.1.toNat < settings.2.1.toNat) (hwrap : settings.2.1.toNat ≤ 38500000)
    (hd : d ≤ 2 ^ 31) (hpolite : Polite c d settings.1.toNat settings.2.2 s event [] s)
    (hcall : ∀ call, event.op ≠ .transaction call) (hok : ∀ halOk, event.op = .step halOk → halOk) :
    Yields (servingPort cfg event) s fun outs s' =>
      ∃ stage', SlaveAdvances c d settings stage s event outs s' stage' := by
  obtain ⟨s, log⟩ := s
  have hwaiting : ∀ frame, stage = .delivering frame → s.master.waiting = 0 := by
    rintro frame rfl
    have htodo : s.todo = [.callback frame] := h.stage
    by_contra hbusy
    have htransacting := (h.service.turn.waiting (by simp [htodo])).mp hbusy
    rw [h.transacting] at htransacting
    cases htransacting
  obtain ⟨outs, s', hrun, hkept, hserves⟩ :=
    yields_portStep_inService flat h.service hshort hwrap hd hpolite
  obtain ⟨stage', htells, hstage⟩ :=
    (yields_portStep_slave flat h.stage hwaiting hcall hok).of_run_eq hrun
  rw [servingPort, yields_observed]
  refine ⟨outs, s', hrun, stage', ⟨hkept, hstage, ?_, ?_⟩, htells, hserves, rfl, hrun⟩
  · exact PortLog.transacting_note h.transacting htells.called_not_mem event
  · have hnone := h.call
    simp only [ServiceLog.note, CallClock.note]
    cases hop : event.op with
    | transaction call => exact absurd hop (hcall call)
    | process =>
        simp only [CallClock.begun]
        split_ifs
        · exact hnone
        · rfl
    | _ => exact hnone

end Slave

end AutomationBoard.Board
