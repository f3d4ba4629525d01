/-
# Two boards exchange

Each board does its part if the line is polite and its own main thread gets on. Put
on one line, each is what makes it polite for the other, so nothing is left to
assume but that both main threads get on, that the ticks and the bytes are not late,
and that a transaction has time for the exchange.
-/

import AutomationBoard.Board.LinkCourse

namespace AutomationBoard.Board

open AutomationBoard.Modbus AutomationBoard.Program AutomationBoard.Serial

variable {cfg : Config}

/-! ## One step -/

section Link

variable {c d gap : ℕ} {settings : Dword × Dword × ℕ} {s : Link cfg} {event : LinkEvent}

/-- A port that is in time, on a line that is polite. -/
theorem Timely.polite {t15 size : ℕ} {s : Rs485Port cfg × ServiceLog} {event : PortEvent}
    (h : Timely c d event.now s) (honTime : event.op = .systick → event.now = s.2.clock.tickDue)
    (hroom : event.op.HasRoom d)
    (hline : event.op.Polite t15 size event.now s.1.todo s.2.block) :
    Polite c d t15 size s event [] s :=
  ⟨⟨h.ordered, h.prompt, h.early, honTime, hroom⟩, h.polled, hline⟩

/-- No block has waited for too long. -/
theorem Timely.collected {now : ℕ} {s : Rs485Port cfg × ServiceLog} (h : Timely c d now s)
    (hservice : InService c d settings s.1 s.2) :
    ∀ block ∈ s.2.block, now ≤ block.2 + collectBound c d settings.2.1.toNat := by
  have hscheduled : Scheduled d (s.1, s.2.clock) ⟨now, .overrun⟩ [] (s.1, s.2.clock) :=
    ⟨h.ordered, h.prompt, h.early, by simp, trivial⟩
  exact Reception.collected_le hservice.reception h.polled hscheduled

theorem Talks.owed_ne_nil {data : List Byte} {tail todo : List PortAction}
    (h : Talks data tail todo) : owed todo ≠ [] := by
  induction h with
  | @pauses action rest haction h ih =>
      intro hnil
      exact ih (List.append_eq_nil_iff.mp ((owed_append [action] rest).symm.trans hnil)).2
  | masterSend | send | transmit => exact List.cons_ne_nil _ _

/-- No answer has been due for too long. -/
theorem Timely.answered {now : ℕ} {s : Rs485Port cfg × ServiceLog} {stage : SlaveStage}
    (h : Timely c d now s) (hslave : SlaveAt c d settings stage s) (tx : List Byte)
    (hstage : stage = .answering tx) :
    ∃ last ∈ s.2.served, now ≤ last + answerBound c d settings.2.1.toNat := by
  subst hstage
  have hprompt : s.1.todo ≠ [] →
      (PortEvent.mk now .overrun).now ≤ s.2.clock.stepped + d := h.prompt
  refine hslave.service.answered_le hprompt hslave.call fun hsame => ?_
  have hdue := hslave.service.turn.due_eq
  rw [hsame] at hdue
  exact hslave.stage.1.owed_ne_nil (List.self_eq_append_right.mp hdue)

/-- A master without a transaction has no block on its way. -/
theorem LinkPhase.block_eq_none {t35 : ℕ} {stage : SlaveStage} (h : LinkPhase c d gap t35 s stage)
    (hnone : s.master.2 = .none) : s.master.1.2.block = none := by
  cases h with
  | idle _ hmaster => exact hmaster
  | request hother | requested hother | answering hother | reply hother | replied hother
  | got hother | unanswered hother => cases hnone.symm.trans hother

theorem hasRoom_of_ne {op : PortOp} (h : ∀ call, op ≠ .transaction call) : op.HasRoom d := by
  cases op with
  | transaction call => exact absurd rfl (h call)
  | _ => trivial

/-- A byte comes while the port listens, or within the gap of the one before it. -/
theorem polite_byte {t15 size now moved : ℕ} {b : Byte} {came : List Byte}
    {todo : List PortAction} {block : Option (List Byte × ℕ)}
    (hblock : block = if came = [] then none else some (came, moved))
    (hlistens : block = none → receptive todo = true) (hcarried : now ≤ moved + gap)
    (hgap : gap ≤ t15) (hroom : came.length < size) :
    (PortOp.byte b).Polite t15 size now todo block := by
  by_cases hnil : came = []
  · rw [if_pos hnil] at hblock
    have hreceptive := hlistens hblock
    rw [hblock]
    exact hreceptive
  · rw [if_neg hnil] at hblock
    rw [hblock]
    exact ⟨hcarried.trans (Nat.add_le_add_left hgap moved), hroom⟩

/-- While the slave answers, the master listens. -/
theorem InExchange.receptive {s : (Rs485Port cfg × ServiceLog) × PortExchange}
    {call : MasterCall} {sentAt : ℕ} (h : InExchange c d settings s)
    (hexchange : s.2 = .waiting call sentAt) (hblock : s.1.2.block = none) :
    receptive s.1.1.todo = true := by
  have hexchanging := h.exchanging
  rw [hexchange] at hexchanging
  cases hexchanging with
  | expecting _ h =>
      obtain ⟨start, hexpects, -⟩ := h.course
      generalize s.1.1.todo = todo at hexpects ⊢
      cases hexpects <;> rfl
  | @found _ _ frame _ _ _ htodo =>
      have hmem : .callback frame ∈ s.1.1.todo := by
        rw [htodo]
        exact List.mem_cons_self
      obtain ⟨last, hsome, -⟩ := h.service.delivering hmem
      cases hblock.symm.trans hsome
  | expired htodo =>
      rw [htodo]
      rfl

/-- The line is polite to the slave. -/
theorem LinkPhase.polite_toSlave {t35 : ℕ} {stage : SlaveStage} {b : Byte} {rest : List Byte}
    (h : LinkPhase c d gap t35 s stage) (hset : LinkSettings d gap settings)
    (hslave : SlaveAt c d settings stage s.slave) (hrest : s.request = b :: rest)
    (hcarried : event.now ≤ s.moved + gap) :
    (PortOp.byte b).Polite settings.1.toNat settings.2.2 event.now s.slave.1.todo
      s.slave.2.block := by
  cases h with
  | request _ _ _ _ hblock _ hlength =>
      have hidles : Idles s.slave.1.todo := hslave.stage
      rw [hrest, List.length_cons] at hlength
      refine polite_byte hblock (fun _ => hidles.receptive) hcarried hset.gap_le ?_
      rw [hset.room]
      omega
  | idle _ _ _ hnone | requested _ _ _ _ _ _ _ hnone | answering _ _ _ _ _ _ _ _ hnone
  | reply _ _ _ _ _ _ _ hnone | replied _ _ _ _ _ _ hnone | got _ _ _ _ hnone
  | unanswered _ _ _ hnone => cases hnone.symm.trans hrest

/-- The line is polite to the master. -/
theorem LinkPhase.polite_toMaster {t35 : ℕ} {stage : SlaveStage} {b : Byte} {rest : List Byte}
    (h : LinkPhase c d gap t35 s stage) (hset : LinkSettings d gap settings)
    (hmaster : InExchange c d settings s.master) (hrest : s.reply = b :: rest)
    (hcarried : event.now ≤ s.moved + gap) :
    (PortOp.byte b).Polite settings.1.toNat settings.2.2 event.now s.master.1.1.todo
      s.master.1.2.block := by
  cases h with
  | reply hwaiting _ hblock _ hlength =>
      rw [hrest, List.length_cons] at hlength
      refine polite_byte hblock (hmaster.receptive hwaiting) hcarried hset.gap_le ?_
      rw [hset.room]
      omega
  | idle _ _ _ _ hnone | request _ _ _ _ _ _ _ _ _ hnone | requested _ _ _ _ _ _ _ _ hnone
  | answering _ _ _ _ _ _ _ _ _ hnone | replied _ _ _ _ _ _ _ hnone | got _ _ _ _ _ hnone
  | unanswered _ _ _ _ hnone => cases hnone.symm.trans hrest

/-- What happens at the master keeps the exchange going. -/
theorem yields_linkStep_master (flat : cfg.Flat)
    (hset : LinkSettings d gap settings) (h : InLink c d gap settings s)
    (htimely : LinkTimely c d gap settings.2.1.toNat s event ([], []) s)
    (hop : event.op = .master op) :
    Yields (linkStep event) s fun outs s' =>
      InLink c d gap settings s' ∧ LinkExchanges s event outs s' := by
  obtain ⟨stage, hslave, hphase⟩ := h.course
  have hmasterTimely := htimely.master
  have hslaveTimely := htimely.slave
  have hexpected := htimely.expected
  rw [hop] at hexpected
  obtain ⟨hallowed, hcalls⟩ := hexpected
  have htime : ∀ call, op = .transaction call →
      call.HasTime c d gap settings.2.1.toNat := by
    rintro call rfl
    exact hcalls call rfl
  have hroom : op.HasRoom d := by
    cases op with
    | transaction call => exact (htime call rfl).room
    | _ => trivial
  have hline : op.Polite settings.1.toNat settings.2.2 event.now s.master.1.1.todo
      s.master.1.2.block := by
    cases op with
    | byte => exact hallowed.elim
    | transaction =>
        exact fun hfree => hphase.block_eq_none (h.master.exchanging.eq_none hfree)
    | _ => trivial
  have honTime : op = .systick → event.now = s.master.1.2.clock.tickDue := by
    rintro rfl
    exact hallowed
  have hpolite : Polite c d settings.1.toNat settings.2.2 s.master.1 ⟨event.now, op⟩ []
      s.master.1 := Timely.polite hmasterTimely honTime hroom hline
  obtain ⟨outs, m, hrun, hadv⟩ := yields_exchangingPort flat h.master hset.short hset.wrap
    hset.room.le hset.delay hpolite
  rw [linkStep, yields_bind, yields_get]
  simp only [hop, yields_bind, yields_onPart, yields_modify, yields_pure]
  refine ⟨outs, m, hrun, ?_⟩
  have hmoves : MasterMoves c d gap settings.2.1.toNat s stage event outs m :=
    linkPhase_master flat hset rfl hphase hadv h.master rfl hmasterTimely.ordered hallowed htime
      htimely.carried fun call sentAt hwaiting => hphase.now_le hwaiting htimely.carried
        (hmasterTimely.collected h.master.service) (hslaveTimely.collected hslave.service)
        (hslaveTimely.answered hslave)
  refine ⟨⟨?_, stage, ?_, hmoves.phase⟩, hmoves.shows⟩
  · rw [Link.master_requested]
    exact hadv.kept
  · rw [Link.slave_requested]
    exact hslave

/-- What happens at the slave keeps the exchange going. -/
theorem yields_linkStep_slave (flat : cfg.Flat)
    (hset : LinkSettings d gap settings) (h : InLink c d gap settings s)
    (htimely : LinkTimely c d gap settings.2.1.toNat s event ([], []) s)
    (hop : event.op = .slave op) :
    Yields (linkStep event) s fun outs s' =>
      InLink c d gap settings s' ∧ LinkExchanges s event outs s' := by
  obtain ⟨stage, hslave, hphase⟩ := h.course
  have hslaveTimely := htimely.slave
  have hexpected := htimely.expected
  rw [hop] at hexpected
  obtain ⟨hallowed, hnone⟩ := hexpected
  have hcalls : ∀ call, op ≠ .transaction call := by
    rintro call rfl
    cases hnone
  have hline : op.Polite settings.1.toNat settings.2.2 event.now s.slave.1.todo
      s.slave.2.block := by
    cases op with
    | byte => exact hallowed.elim
    | transaction call => exact absurd rfl (hcalls call)
    | _ => trivial
  have honTime : op = .systick → event.now = s.slave.2.clock.tickDue := by
    rintro rfl
    exact hallowed
  have hok : ∀ halOk, op = .step halOk → halOk := by
    rintro halOk rfl
    exact hallowed
  have hbyte : ∀ b, op ≠ .byte b := by
    rintro b rfl
    exact hallowed
  have hpolite : Polite c d settings.1.toNat settings.2.2 s.slave ⟨event.now, op⟩ []
      s.slave := Timely.polite hslaveTimely honTime (hasRoom_of_ne hcalls) hline
  obtain ⟨outs, p, hrun, stage', hadv⟩ := yields_servingPort_slave flat hslave hset.short
    hset.wrap hset.delay hpolite hcalls hok
  rw [linkStep, yields_bind, yields_get]
  simp only [hop, yields_bind, yields_onPart, yields_modify, yields_pure]
  refine ⟨outs, p, hrun, ?_⟩
  have hnow : p.2.clock.now = event.now := by
    rw [hadv.log_eq]
    exact (CallClock.note_le outs hslave.service.stepped_le hslave.service.began_le
      hslaveTimely.ordered).1
  have hmoves : SlaveMoves c d gap settings.2.1.toNat s event outs p stage' :=
    linkPhase_slave flat hset rfl hphase hadv hnow hbyte htimely.carried
      (hslaveTimely.answered hslave)
  refine ⟨⟨?_, stage', ?_, hmoves.phase⟩, hmoves.shows⟩
  · rw [Link.master_replied]
    exact h.master
  · rw [Link.slave_replied]
    exact hadv.kept

/-- A byte of the request that arrives keeps the exchange going. -/
theorem yields_linkStep_toSlave (flat : cfg.Flat)
    (hset : LinkSettings d gap settings) (h : InLink c d gap settings s)
    (htimely : LinkTimely c d gap settings.2.1.toNat s event ([], []) s)
    (hop : event.op = .toSlave) {b : Byte} {rest : List Byte} (hrest : s.request = b :: rest) :
    Yields (linkStep event) s fun outs s' =>
      InLink c d gap settings s' ∧ LinkExchanges s event outs s' := by
  obtain ⟨stage, hslave, hphase⟩ := h.course
  have hslaveTimely := htimely.slave
  have hcarried := htimely.carried (.inl (hrest ▸ List.cons_ne_nil b rest))
  have hline : (PortOp.byte b).Polite settings.1.toNat settings.2.2 event.now
      s.slave.1.todo s.slave.2.block := hphase.polite_toSlave hset hslave hrest hcarried
  have hpolite : Polite c d settings.1.toNat settings.2.2 s.slave ⟨event.now, .byte b⟩ []
      s.slave := Timely.polite hslaveTimely (by simp) trivial hline
  obtain ⟨outs, p, hrun, stage', hadv⟩ := yields_servingPort_slave flat hslave hset.short
    hset.wrap hset.delay hpolite (by simp) (by simp)
  obtain ⟨rfl, htodo⟩ := (yields_portStep_byte rfl).of_run_eq hadv.run_eq
  rw [linkStep, yields_bind, yields_get]
  simp only [hop, hrest, yields_bind, yields_onPart, yields_modify, yields_pure]
  refine ⟨[], p, hrun, ⟨h.master, stage, ?_, ?_⟩, linkExchanges_nothing⟩
  · exact { hadv.kept with stage := htodo ▸ hslave.stage }
  · refine linkPhase_toSlave hphase hrest hcarried ?_
    rw [hadv.log_eq]
    exact block_note_byte rfl

/-- A byte of the answer that arrives keeps the exchange going. -/
theorem yields_linkStep_toMaster (flat : cfg.Flat)
    (hset : LinkSettings d gap settings) (h : InLink c d gap settings s)
    (htimely : LinkTimely c d gap settings.2.1.toNat s event ([], []) s)
    (hop : event.op = .toMaster) {b : Byte} {rest : List Byte} (hrest : s.reply = b :: rest) :
    Yields (linkStep event) s fun outs s' =>
      InLink c d gap settings s' ∧ LinkExchanges s event outs s' := by
  obtain ⟨stage, hslave, hphase⟩ := h.course
  have hmasterTimely := htimely.master
  have hcarried := htimely.carried (.inr (hrest ▸ List.cons_ne_nil b rest))
  have hline : (PortOp.byte b).Polite settings.1.toNat settings.2.2 event.now
      s.master.1.1.todo s.master.1.2.block :=
    hphase.polite_toMaster hset h.master hrest hcarried
  have hpolite : Polite c d settings.1.toNat settings.2.2 s.master.1
      ⟨event.now, .byte b⟩ [] s.master.1 :=
    Timely.polite hmasterTimely (by simp) trivial hline
  obtain ⟨outs, m, hrun, hadv⟩ := yields_exchangingPort flat h.master hset.short hset.wrap
    hset.room.le hset.delay hpolite
  obtain ⟨rfl, -⟩ := (yields_portStep_byte rfl).of_run_eq hadv.run_eq
  rw [linkStep, yields_bind, yields_get]
  simp only [hop, hrest, yields_bind, yields_onPart, yields_modify, yields_pure]
  refine ⟨[], m, hrun, ⟨hadv.kept, stage, hslave, ?_⟩, linkExchanges_nothing⟩
  refine linkPhase_toMaster hphase hrest hcarried hadv.exchange_eq ?_
  rw [hadv.log_eq]
  exact block_note_byte rfl

/-- Every step of the link keeps the exchange going. -/
theorem yields_linkStep (flat : cfg.Flat)
    (hset : LinkSettings d gap settings) (h : InLink c d gap settings s)
    (htimely : LinkTimely c d gap settings.2.1.toNat s event ([], []) s) :
    Yields (linkStep event) s fun outs s' =>
      InLink c d gap settings s' ∧ LinkExchanges s event outs s' := by
  cases hop : event.op with
  | master op => exact yields_linkStep_master flat hset h htimely hop
  | slave op => exact yields_linkStep_slave flat hset h htimely hop
  | toSlave =>
      cases hrest : s.request with
      | cons b rest => exact yields_linkStep_toSlave flat hset h htimely hop hrest
      | nil =>
          rw [linkStep, yields_bind, yields_get]
          simp only [hop, hrest, yields_pure]
          exact ⟨h, linkExchanges_nothing⟩
  | toMaster =>
      cases hrest : s.reply with
      | cons b rest => exact yields_linkStep_toMaster flat hset h htimely hop hrest
      | nil =>
          rw [linkStep, yields_bind, yields_get]
          simp only [hop, hrest, yields_pure]
          exact ⟨h, linkExchanges_nothing⟩

end Link

/-! ## Runs -/

/-- Two boards after initialisation, with nothing on the line. -/
def linkInit (rxBuffer completedBuffer : ℕ → Byte) (baudrate msTick : Dword)
    (masterSlave slave : Slave cfg) (masterTick slaveTick : Dword) (masterDue slaveDue : ℕ) :
    Link cfg where
  master := ((rs485Init rxBuffer completedBuffer rtuFramerMaxFrame baudrate msTick masterSlave
    masterTick, .start masterDue), .none)
  slave := (rs485Init rxBuffer completedBuffer rtuFramerMaxFrame baudrate msTick slave slaveTick,
    .start slaveDue)
  request := []
  reply := []
  moved := 0
  answer := none

/-- Two boards on one line do for each other what a polite line does: for every
interleaving, each transaction with time for the exchange is served exactly once by
the slave, and returns what the slave has answered. -/
theorem linkRun_exchanges (rxBuffer completedBuffer : ℕ → Byte) (baudrate msTick : Dword)
    (masterSlave slave : Slave boardConfig) (masterTick slaveTick : Dword)
    {masterDue slaveDue : ℕ} (hmasterDue : masterDue ≤ 1000) (hslaveDue : slaveDue ≤ 1000)
    (c : ℕ) {d gap : ℕ} (hd : d ≤ 2 ^ 31) (hgap : gap ≤ (modbusRtuTimeoutsUs baudrate).1.toNat)
    {events : List LinkEvent}
    (htimely : EveryStep linkStep
      (fun s event _ _ => LinkTimely c d gap (modbusRtuTimeoutsUs baudrate).2.toNat s event
        ([], []) s)
      (linkInit rxBuffer completedBuffer baudrate msTick masterSlave slave masterTick slaveTick
        masterDue slaveDue) events) :
    EveryStep linkStep LinkExchanges
      (linkInit rxBuffer completedBuffer baudrate msTick masterSlave slave masterTick slaveTick
        masterDue slaveDue) events := by
  obtain ⟨hshort, -, hhigh⟩ := modbusRtuTimeoutsUs_bounds baudrate
  let settings := (rtuFramerInit rxBuffer completedBuffer rtuFramerMaxFrame baudrate
    msTick).settings
  have hset : LinkSettings d gap settings := ⟨hshort, hhigh, rfl, hd, hgap⟩
  have hmaster := inService_init rxBuffer completedBuffer (show 1 ≤ rtuFramerMaxFrame by decide)
    baudrate msTick masterSlave masterTick c d hmasterDue
  have hslave := inService_init rxBuffer completedBuffer (show 1 ≤ rtuFramerMaxFrame by decide)
    baudrate msTick slave slaveTick c d hslaveDue
  have hinit : InLink c d gap settings (linkInit rxBuffer completedBuffer baudrate msTick
      masterSlave slave masterTick slaveTick masterDue slaveDue) :=
    ⟨⟨hmaster, .none⟩, .listening, ⟨hslave, Idles.free, rfl, rfl⟩,
      .idle (.inl ⟨rfl, .free⟩) rfl rfl rfl rfl⟩
  refine EveryStep.of_invariant (I := InLink c d gap settings) ?_ hinit htimely
  rintro s event hs ⟨_, _, -, hstep⟩
  exact yields_linkStep Config.boardConfig_flat hset hs hstep

/-- Both ticks, at one time. -/
def ticksAt (now : ℕ) : List LinkEvent := [⟨now, .master .systick⟩, ⟨now, .slave .systick⟩]

/-- The main thread of a board, step by step. -/
def stepsAt (side : PortOp → LinkOp) (times : List ℕ) : List LinkEvent :=
  times.map fun now => ⟨now, side (.step true)⟩

/-- Bytes arrive, one every 90 us. -/
def arrivalsAt (op : LinkOp) (start count : ℕ) : List LinkEvent :=
  (List.range count).map fun i => ⟨start + 90 * i, op⟩

/-- Holding register 0 of the slave is read over the line. -/
def linkEvents : List LinkEvent :=
  [⟨100, .master (.transaction ⟨0x01, [0x03, 0x00, 0x00, 0x00, 0x01], some 253, 200⟩)⟩] ++
    stepsAt .master [110, 120, 130, 140] ++ ticksAt 1000 ++
    stepsAt .master [1100, 1900, 1910, 1920, 1930, 1940, 1950] ++ ticksAt 2000 ++
    stepsAt .master [2010, 2020, 2030, 2040, 2050, 2060] ++ arrivalsAt .toSlave 2100 8 ++
    [⟨2800, .slave .process⟩] ++ stepsAt .slave [2810] ++ stepsAt .master [2820, 2830] ++
    ticksAt 3000 ++ stepsAt .master [3800, 3810, 3820] ++ ticksAt 4000 ++
    [⟨4490, .slave .process⟩] ++ stepsAt .slave [4500, 4510, 4520] ++
    stepsAt .master [4700, 4710, 4720] ++ ticksAt 5000 ++ stepsAt .slave [5400] ++
    stepsAt .master [5600, 5610, 5620] ++ ticksAt 6000 ++
    stepsAt .slave [6280, 6290, 6300, 6310, 6320, 6330, 6340, 6350] ++
    arrivalsAt .toMaster 6400 2 ++ stepsAt .master [6500, 6510, 6520] ++
    arrivalsAt .toMaster 6580 5 ++ ticksAt 7000 ++ stepsAt .master [7500, 7510, 7520] ++
    ticksAt 8000 ++ stepsAt .master [8400, 8410, 8420, 8900, 8910, 8920, 8930, 8940]

theorem linkRun_exchanges_read :
    EveryStep linkStep LinkExchanges
      (linkInit (fun _ => 0) (fun _ => 0) 115200 0 (Slave.powerOn (SyncHooks.none boardConfig))
        (Slave.powerOn (SyncHooks.none boardConfig)) 0 0 1000 1000) linkEvents :=
  linkRun_exchanges (fun _ => 0) (fun _ => 0) 115200 0 (Slave.powerOn (SyncHooks.none boardConfig))
    (Slave.powerOn (SyncHooks.none boardConfig)) 0 0 (by decide) (by decide) 3000
    (show 1000 ≤ 2 ^ 31 by decide) (show 200 ≤ _ by decide) (by decide +kernel)

end AutomationBoard.Board
