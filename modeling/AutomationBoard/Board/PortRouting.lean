/-
# Whose frame it is

One receive callback serves the slave and the master of the port. A frame that
is collected goes to the master exactly while a transaction is in progress, and
to the slave otherwise; either way it is a complete block of the bytes that came
since the port last discarded what it had, and in a transaction its request was
sent to the last byte by then. The tables and the mode of the slave are where the
frames that it was given lead them. The overruns of the UARTs only add to counters
and to the event log, and a frame makes the same of the tables whatever these hold.
-/

import AutomationBoard.Board.PortDiscipline
import AutomationBoard.Modbus.Dispatched
import AutomationBoard.Serial.FramingSoundness

namespace AutomationBoard.Board

open AutomationBoard.Modbus AutomationBoard.Program AutomationBoard.Serial

variable {cfg : Config}

/-! ## What is expected of the line -/

/-- A byte that comes is taken whole. -/
def PortIntact (s : Rs485Port cfg × PortLog) (event : PortEvent) (_outs : List PortOutput)
    (_s' : Rs485Port cfg × PortLog) : Prop :=
  match event.op with
  | .byte _ => TakenWhole ⟨s.1.framer, s.2.heard⟩ event.now
  | _ => True

instance (s : Rs485Port cfg × PortLog) (event : PortEvent) (outs : List PortOutput)
    (s' : Rs485Port cfg × PortLog) : Decidable (PortIntact s event outs s') := by
  unfold PortIntact
  split <;> infer_instance

/-! ## What a step does with a frame -/

/-- A frame for the slave comes outside a transaction, and is answered as the
slave answers it; one for the master comes in a transaction, and what the UART was
given last is its request, which was sent whole. Both are complete blocks. The tables
of the slave are where the frames that it was given lead them. -/
structure Routed (t15 t35 : ℕ) (slave : Slave cfg) (s : Rs485Port cfg × PortLog)
    (event : PortEvent) (outs : List PortOutput) (s' : Rs485Port cfg × PortLog) : Prop where
  served : ∀ rx tx, .served rx tx ∈ outs →
    s.2.transacting = false ∧ CompleteBlock t15 t35 s.2.heard event.now rx ∧
      Yields (modbusRtuProcess rx) s.1.slave fun out _ => out.tx = tx
  handed : ∀ rx, .handed rx ∈ outs →
    (∃ adu, s.2.request = some adu ∧ s.2.given.getLast? = some (adu, .ok)) ∧
      s.2.transmitted = s.2.due ∧ CompleteBlock t15 t35 s.2.heard event.now rx
  slave : Yields (runAll modbusRtuProcess s'.2.served) slave fun _ t => SameTables s'.1.slave t

/-- A frame that is about to be given to the callback, if any, is a block. -/
inductive Delivery (block : List Byte → Prop) : List PortAction → Prop
  | none {todo : List PortAction} (h : ∀ data, .callback data ∉ todo) : Delivery block todo
  | one {data : List Byte} {rest : List PortAction} (hblock : block data)
      (h : ∀ data, .callback data ∉ rest) : Delivery block (.callback data :: rest)

theorem Delivery.mono {block block' : List Byte → Prop} {todo : List PortAction}
    (h : Delivery block todo) (himp : ∀ data, block data → block' data) :
    Delivery block' todo := by
  cases h with
  | none hnone => exact .none hnone
  | one hblock hnone => exact .one (himp _ hblock) hnone

/-- No frame is left over once the action is taken. -/
theorem Delivery.rest {block : List Byte → Prop} {action : PortAction} {rest : List PortAction}
    (h : Delivery block (action :: rest)) (data : List Byte) : .callback data ∉ rest := by
  cases h with
  | none hnone => exact fun hmem => hnone data (List.mem_cons_of_mem _ hmem)
  | one hblock hnone => exact hnone data

/-- What holds between steps if all bytes are taken whole: what the engine has is a
block, what it has delivered is one, and the slave's tables are where its frames
lead them. -/
structure HeardAt (t15 t35 now : ℕ) (slave : Slave cfg) (s : Rs485Port cfg) (log : PortLog) :
    Prop where
  framed : Framed t15 t35 log.heard now s.framer
  delivery : Delivery (CompleteBlock t15 t35 log.heard now) s.todo
  slave : SameTables s.slave (log.served.foldl (fun s rx => (slaveStep s rx).2) slave)

theorem HeardAt.later {t15 t35 now now' : ℕ} {slave : Slave cfg} {s : Rs485Port cfg}
    {log : PortLog} (h : HeardAt t15 t35 now slave s log) (hnow : now ≤ now') :
    HeardAt t15 t35 now' slave s log where
  framed := h.framed.later hnow
  delivery := h.delivery.mono fun _ hblock => hblock.later hnow
  slave := h.slave

/-- A run of the slave leads where its steps lead. -/
theorem yields_runAll_frames (flat : cfg.Flat) (s : Slave cfg) (frames : List (List Byte)) :
    Yields (runAll modbusRtuProcess frames) s fun _ s' =>
      s' = frames.foldl (fun s rx => (slaveStep s rx).2) s := by
  induction frames generalizing s with
  | nil => exact yields_pure.mpr rfl
  | cons rx frames ih =>
      simp only [runAll, yields_bind, yields_pure]
      apply (yields_modbusRtuProcess flat s rx).mono
      intro out s' hstep
      rw [List.foldl_cons, ← hstep]
      exact ih s'

/-- The tables are where the frames lead them, by the program. -/
theorem HeardAt.yields_runAll (flat : cfg.Flat) {t15 t35 now : ℕ} {slave : Slave cfg}
    {s : Rs485Port cfg} {log : PortLog} (h : HeardAt t15 t35 now slave s log) :
    Yields (runAll modbusRtuProcess log.served) slave fun _ t => SameTables s.slave t := by
  apply (yields_runAll_frames flat slave log.served).mono
  rintro _ t rfl
  exact h.slave

/-- A frame that the slave is given leads its tables on. -/
theorem HeardAt.served {t15 t35 now : ℕ} {slave : Slave cfg} {s : Rs485Port cfg} {log : PortLog}
    (h : HeardAt t15 t35 now slave s log) (rx : List Byte) :
    SameTables (slaveStep s.slave rx).2
      ((log.served ++ [rx]).foldl (fun s rx => (slaveStep s rx).2) slave) := by
  rw [List.foldl_append]
  exact h.slave.slaveStep rx

section Step

variable {t15 t35 now : ℕ} {slave : Slave cfg} {s : Rs485Port cfg} {log : PortLog}
  {event : PortEvent}

/-- What has been received is discarded, and the engine with it. -/
theorem Framed.discarded {received : List (ℕ × Byte)} {f f' : RtuFramer}
    (h : Framed t15 t35 received now f) (ht15 : f'.t15Us = f.t15Us) (ht35 : f'.t35Us = f.t35Us)
    (hsize : f'.bufferSize = f.bufferSize) (hstate : f'.state = .idle)
    (hready : f'.frameReady = false) : Framed t15 t35 [] now f' :=
  { h.cleared ht15 ht35 hsize hstate hready with
    clock := nofun
    receiving := fun h' => by
      rw [hstate] at h'
      cases h'
    ready := fun h' => by
      rw [hready] at h'
      cases h' }

/-- The invariant after a step, and what the step does with a frame. -/
def Delivered (t15 t35 : ℕ) (slave : Slave cfg) (s : Rs485Port cfg × PortLog) (event : PortEvent)
    (outs : List PortOutput) (s' : Rs485Port cfg × PortLog) : Prop :=
  HeardAt t15 t35 event.now slave s'.1 s'.2 ∧ Routed t15 t35 slave s event outs s'

/-- A step that delivers nothing has nothing to route. -/
theorem HeardAt.quiet (flat : cfg.Flat) {outs : List PortOutput} {s' : Rs485Port cfg}
    {log' : PortLog} (h : HeardAt t15 t35 event.now slave s' log')
    (houts : ∀ rx, .handed rx ∉ outs ∧ ∀ tx, .served rx tx ∉ outs) :
    Delivered t15 t35 slave (s, log) event outs (s', log') := by
  refine ⟨h, fun rx tx hmem => absurd hmem ((houts rx).2 tx),
    fun rx hmem => absurd hmem (houts rx).1, h.yields_runAll flat⟩

/-- The callback gives a frame to the master in a transaction, and otherwise to the
slave. -/
theorem delivered_callback (flat : cfg.Flat) (hturn : InOrderAt t35 event.now s log)
    (h : HeardAt t15 t35 event.now slave s log) {halOk : Bool} (hop : event.op = .step halOk)
    {data : List Byte} {rest : List PortAction} (htodo : s.todo = .callback data :: rest) :
    Yields (rs485ModbusRxCallback data rest s) s fun outs s' =>
      Delivered t15 t35 slave (s, log) event outs (s', log.note event outs) := by
  obtain ⟨hframed, hdelivery, hslave⟩ := id h
  obtain ⟨-, -, hunderway, hwaiting, hdue, -, -⟩ := id hturn
  rw [htodo] at hdelivery hunderway hwaiting hdue
  have hrest := hdelivery.rest
  have hwaits := hwaiting (by simp)
  have hblock : CompleteBlock t15 t35 log.heard event.now data := by
    cases hdelivery with
    | none hnone => exact absurd List.mem_cons_self (hnone data)
    | one hblock => exact hblock
  obtain ⟨howed, hwhole⟩ :
      owed (.callback data :: rest) = [] ∧ (log.transacting = true → log.LastSent) := by
    cases hunderway with
    | planned hplan => exact ⟨hplan.2.1, hplan.2.2.1⟩
  rw [rs485ModbusRxCallback, yields_ite]
  simp only [log.note_step hop]
  split_ifs with hmaster
  · rw [yields_leave]
    have hkept : HeardAt t15 t35 event.now slave
        { s with master := modbusMasterRtuOnFrame s.master data, todo := rest } log :=
      ⟨hframed, .none hrest, hslave⟩
    refine ⟨hkept, ⟨by simp, ?_, hkept.yields_runAll flat⟩⟩
    intro rx hmem
    obtain rfl : rx = data := by simpa using hmem
    have htransacting := hwaits.mp hmaster
    obtain ⟨adu, hrequest, hgiven⟩ := hturn.given_getLast (htodo ▸ howed) htransacting
    obtain ⟨frame, hlast, hok⟩ := hwhole htransacting
    obtain rfl : (adu, s.sendStatus) = frame := Option.some.inj (hgiven.symm.trans hlast)
    refine ⟨⟨adu, hrequest, hok ▸ hgiven⟩, ?_, hblock⟩
    rw [hdue, howed, List.append_nil]
  · rw [yields_bind]
    apply yields_onSlave_modbusRtuProcess flat
    simp only [yields_bind, yields_modify, yields_pure]
    have hkept : HeardAt t15 t35 event.now slave
        { s with
          slave := (slaveStep s.slave data).2
          todo := answerActions (slaveStep s.slave data).1.tx ++ rest }
        { log with
          served := log.served ++ [data]
          due := log.due ++ framesOf (slaveStep s.slave data).1.tx } := by
      refine ⟨hframed, .none ?_, h.served data⟩
      unfold answerActions
      split_ifs <;> simpa using hrest
    refine ⟨hkept, ⟨?_, by simp, hkept.yields_runAll flat⟩⟩
    intro rx tx hmem
    obtain ⟨rfl, rfl⟩ : rx = data ∧ tx = (slaveStep s.slave data).1.tx := by simpa using hmem
    refine ⟨?_, hblock, (yields_modbusRtuProcess flat s.slave rx).mono ?_⟩
    · exact Bool.eq_false_iff.mpr fun htransacting => hmaster (hwaits.mpr htransacting)
    · intro out slave' hstep
      rw [← hstep]

/-- A step of the main thread delivers a frame where it belongs, if any. -/
theorem delivered_step (flat : cfg.Flat) (hturn : InOrderAt t35 event.now s log)
    (h : HeardAt t15 t35 event.now slave s log) {halOk : Bool} (hop : event.op = .step halOk)
    {action : PortAction} {rest : List PortAction} (htodo : s.todo = action :: rest) :
    Yields (takeAction event.now halOk s rest action) s fun outs s' =>
      Delivered t15 t35 slave (s, log) event outs (s', log.note event outs) := by
  obtain ⟨hframed, hdelivery, hslave⟩ := id h
  have hunderway := hturn.underway
  have hwaiting := hturn.waiting
  rw [htodo] at hdelivery hunderway hwaiting
  have hrest := hdelivery.rest
  simp only [log.note_step hop]
  cases action with
  | process =>
      rw [takeAction, yields_leave]
      refine HeardAt.quiet flat ⟨hframed.process.1, ?_, hslave⟩ (by simp)
      cases hframe : (s.framer.process event.now).1 with
      | none => exact .none hrest
      | some data => exact .one (hframed.process.2 data hframe) hrest
  | callback data =>
      have hdelivered := delivered_callback flat hturn h hop htodo
      simp only [log.note_step hop] at hdelivered
      exact hdelivered
  | flushRx =>
      rw [takeAction, yields_leave]
      exact HeardAt.quiet flat
        ⟨Framed.discarded hframed rfl rfl rfl rfl rfl, .none hrest, hslave⟩ (by simp)
  | txBegin =>
      rw [takeAction, yields_leave]
      exact HeardAt.quiet flat
        ⟨Framed.discarded hframed rfl rfl rfl rfl rfl, .none hrest, hslave⟩ (by simp)
  | delayT35 =>
      rw [takeAction, yields_leave]
      exact HeardAt.quiet flat ⟨{ hframed with }, .none (by simpa using hrest), hslave⟩ (by simp)
  | spin start =>
      rw [takeAction, yields_ite, yields_leave, yields_leave]
      split_ifs
      · exact HeardAt.quiet flat ⟨hframed, h.delivery, hslave⟩ (by simp)
      · exact HeardAt.quiet flat ⟨hframed, .none hrest, hslave⟩ (by simp)
  | txEnable | rxEnable =>
      rw [takeAction, yields_leave]
      exact HeardAt.quiet flat ⟨hframed, .none hrest, hslave⟩ (by simp)
  | send data =>
      rw [takeAction, yields_leave, rs485Send]
      split_ifs
      · exact HeardAt.quiet flat ⟨hframed, .none hrest, hslave⟩ (by simp)
      · exact HeardAt.quiet flat ⟨hframed, .none (by simpa using hrest), hslave⟩ (by simp)
  | transmit data =>
      rw [takeAction, yields_leave]
      exact HeardAt.quiet flat ⟨hframed, .none hrest, hslave⟩ (by simp)
  | masterFlush | masterDelayT35 =>
      rw [takeAction, yields_leave]
      exact HeardAt.quiet flat ⟨hframed, .none (by simpa using hrest), hslave⟩ (by simp)
  | masterSend adu =>
      simp only [takeAction, yields_ite, yields_leave]
      split_ifs
      · exact HeardAt.quiet flat ⟨hframed, .none hrest, hslave⟩ (by simp)
      · exact HeardAt.quiet flat ⟨hframed, .none (by simpa using hrest), hslave⟩ (by simp)
  | masterSent call =>
      rw [takeAction, yields_leave]
      refine HeardAt.quiet flat ⟨hframed, .none ?_, hslave⟩ (by simp)
      unfold masterSentActions
      split_ifs <;> simpa using hrest
  | masterRecv call =>
      rw [takeAction, yields_leave]
      exact HeardAt.quiet flat ⟨hframed, .none (by simpa using hrest), hslave⟩ (by simp)
  | masterWait call start =>
      rw [takeAction, yields_leave]
      refine HeardAt.quiet flat ⟨hframed, .none ?_, hslave⟩ (by simp)
      dsimp only
      split_ifs <;> simpa using hrest
  | masterLook call start =>
      rw [takeAction, yields_ite, yields_leave, yields_leave]
      split_ifs
      · exact HeardAt.quiet flat ⟨hframed, .none (by simpa using hrest), hslave⟩ (by simp)
      · exact HeardAt.quiet flat ⟨hframed, .none (by simpa using hrest), hslave⟩ (by simp)
  | masterFrame call frame =>
      cases hunderway with
      | planned hplan =>
          rw [takeAction, yields_masterFrameStep hplan.2.2.1]
          exact HeardAt.quiet flat ⟨hframed, .none hrest, hslave⟩ (by simp)
  | masterEnd status =>
      rw [takeAction, yields_leave]
      exact HeardAt.quiet flat ⟨hframed, .none hrest, hslave⟩ (by simp)

/-- What happens at the port, on bytes that are taken whole. -/
theorem yields_portStep_delivered (flat : cfg.Flat) (hturn : InOrderAt t35 now s log)
    (h : HeardAt t15 t35 now slave s log) (hnow : now ≤ event.now)
    (hintact : PortIntact (s, log) event [] (s, log)) :
    Yields (portStep event) s fun outs s' =>
      Delivered t15 t35 slave (s, log) event outs (s', log.note event outs) := by
  have hturn := hturn.later hnow
  obtain ⟨hframed, hdelivery, hslave⟩ := h.later hnow
  have h := h.later hnow
  rw [portStep, yields_bind, yields_get]
  rw [PortIntact] at hintact
  cases hop : event.op with
  | byte b =>
      simp only [hop] at hintact
      simp only [yields_leave, PortLog.note, PortLog.input, hop, List.foldl_nil]
      refine HeardAt.quiet flat ⟨hframed.onByte b hintact, ?_, hslave⟩ (by simp)
      exact hdelivery.mono fun data hblock => hblock.concat (Nat.le_refl _) b
  | overrun =>
      rw [yields_bind, yields_onSlave_charOverrun, yields_pure]
      simp only [PortLog.note, PortLog.input, hop, List.foldl_nil]
      exact HeardAt.quiet flat
        ⟨hframed, hdelivery, hslave.slaveId, hslave.hooks, hslave.env, hslave.mode⟩ (by simp)
  | systick =>
      simp only [yields_leave, PortLog.note, PortLog.input, hop, List.foldl_nil]
      have htick : Framed t15 t35 log.heard event.now
          { s.framer with msTick := s.framer.msTick + 1 } := { hframed with }
      exact HeardAt.quiet flat ⟨htick.tryCompleteFrame, hdelivery, hslave⟩ (by simp)
  | rs232 rx =>
      rw [yields_bind]
      apply yields_onSlave_modbusRtuProcess flat
      simp only [yields_pure, PortLog.note, PortLog.input, hop, List.foldl_nil]
      exact HeardAt.quiet flat ⟨hframed, hdelivery, h.served rx⟩ (by simp)
  | process =>
      dsimp only
      split
      · next htodo =>
          simp only [yields_leave, PortLog.note, PortLog.input, hop, List.foldl_cons,
            List.foldl_nil, PortLog.output]
          exact HeardAt.quiet flat ⟨hframed, .none (by simp), hslave⟩ (by simp)
      · simp only [yields_pure, PortLog.note, PortLog.input, hop, List.foldl_nil]
        exact HeardAt.quiet flat ⟨hframed, hdelivery, hslave⟩ (by simp)
  | transaction call =>
      dsimp only
      split
      · next htodo =>
          rw [yields_beginTransaction]
          simp only [PortLog.note, PortLog.input, hop, List.foldl_cons, List.foldl_nil,
            PortLog.output]
          split_ifs
          · exact HeardAt.quiet flat
              ⟨hframed, .none (by simp [transactionActions]), hslave⟩ (by simp)
          · exact HeardAt.quiet flat ⟨hframed, hdelivery, hslave⟩ (by simp)
      · simp only [yields_pure, PortLog.note, PortLog.input, hop, List.foldl_nil]
        exact HeardAt.quiet flat ⟨hframed, hdelivery, hslave⟩ (by simp)
  | step halOk =>
      dsimp only
      split
      · rw [yields_pure, log.note_step hop]
        exact HeardAt.quiet flat ⟨hframed, hdelivery, hslave⟩ (by simp)
      · next htodo => exact delivered_step flat hturn h hop htodo

end Step

/-! ## Runs -/

/-- Nothing has been heard of, or given to, a slave after initialisation. -/
theorem heardAt_init (rxBuffer completedBuffer : ℕ → Byte) {bufferSize : ℕ}
    (hsize : 1 ≤ bufferSize) (baudrate msTick : Dword) (slave : Slave cfg) (sysTick : Dword) :
    HeardAt (modbusRtuTimeoutsUs baudrate).1.toNat (modbusRtuTimeoutsUs baudrate).2.toNat 0 slave
      (rs485Init rxBuffer completedBuffer bufferSize baudrate msTick slave sysTick) .start where
  framed := { framed_init rxBuffer completedBuffer hsize baudrate msTick with }
  delivery := .none nofun
  slave := ⟨rfl, rfl, rfl, rfl⟩

/-- In whatever order bytes that are taken whole, overruns, ticks, frames of the
other port, calls and the steps of the main thread come, every frame goes where
it belongs. -/
theorem rs485Run_routed (rxBuffer completedBuffer : ℕ → Byte) {bufferSize : ℕ}
    (hsize : 1 ≤ bufferSize) (baudrate msTick : Dword) (slave : Slave boardConfig)
    (sysTick : Dword) {events : List PortEvent} (hordered : PortInOrder events)
    (hintact : EveryStep (watchedPort boardConfig) PortIntact
      (rs485Init rxBuffer completedBuffer bufferSize baudrate msTick slave sysTick, .start)
      events) :
    EveryStep (watchedPort boardConfig)
      (Routed (modbusRtuTimeoutsUs baudrate).1.toNat (modbusRtuTimeoutsUs baudrate).2.toNat slave)
      (rs485Init rxBuffer completedBuffer bufferSize baudrate msTick slave sysTick, .start)
      events := by
  let t15 := (modbusRtuTimeoutsUs baudrate).1.toNat
  let t35 := (modbusRtuTimeoutsUs baudrate).2.toNat
  refine EveryStep.of_ordered PortEvent.now
    (I := fun bound s => InOrderAt t35 bound s.1 s.2 ∧ HeardAt t15 t35 bound slave s.1 s.2)
    ?_ ⟨inOrderAt_init .., heardAt_init rxBuffer completedBuffer hsize ..⟩ hordered
    (fun _ _ => Nat.zero_le _) hintact
  rintro bound s event ⟨hturn, hheard⟩ hbound ⟨_, _, -, hwhole⟩
  rw [watchedPort, yields_watched]
  have flat := Config.boardConfig_flat
  obtain ⟨outs, s', hrun, hturned⟩ := yields_portStep_turned flat hturn hbound
  have hdelivered := (yields_portStep_delivered flat hturn hheard hbound hwhole).of_run_eq hrun
  exact ⟨outs, s', hrun, ⟨hturned.1, hdelivered.1⟩, hdelivered.2⟩

theorem rs485Run_routed_read :
    EveryStep (watchedPort boardConfig)
      (Routed (modbusRtuTimeoutsUs 115200).1.toNat (modbusRtuTimeoutsUs 115200).2.toNat
        (Slave.powerOn (SyncHooks.none boardConfig))) rs485Port115200 readEvents :=
  rs485Run_routed (fun _ => 0) (fun _ => 0) (by decide) 115200 0
    (Slave.powerOn (SyncHooks.none boardConfig)) 0 (by decide) (by decide +kernel)

end AutomationBoard.Board
