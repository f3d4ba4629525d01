/-
# The discipline of the RS485 port

The line has one driver at a time, so the port may drive it only after a pause,
must let go of it when it has finished, and gives the UART exactly what it was
asked to send. A frame is sent whole only if `HAL_UART_Transmit` reports so; one
that takes longer than its timeout is given up. What the main thread still has to
do is checked as a list: each action says what must hold before it, and what the
rest may rely on. One step of the main thread or of an interrupt keeps the list in
order, in whatever order the steps come.
-/

import AutomationBoard.Board.Rs485Port
import AutomationBoard.Modbus.MultiDrop
import AutomationBoard.Serial.FrameLoss

namespace AutomationBoard.Board

open AutomationBoard.Modbus AutomationBoard.Program AutomationBoard.Serial

variable {cfg : Config}

/-! ## The observer -/

/-- What an observer keeps: when the last delay of the call in progress began, the
request if the call is a transaction, the bytes received since they were last
discarded, the frames that the slave was given, the frames that are due on the line,
and those that were given to the UART, each with the status of its transmission. -/
structure PortLog where
  resting : Option ℕ
  request : Option (List Byte)
  heard : List (ℕ × Byte)
  served : List (List Byte)
  due : List (List Byte)
  given : List (List Byte × Rs485Status)

namespace PortLog

/-- Nothing has been seen. -/
def start : PortLog := ⟨none, none, [], [], [], []⟩

/-- The call in progress is a transaction. -/
def transacting (log : PortLog) : Bool := log.request.isSome

/-- The frames that were given to the UART. -/
def transmitted (log : PortLog) : List (List Byte) := log.given.map Prod.fst

/-- The frames that were sent to their last byte. -/
def sentWhole (log : PortLog) : List (List Byte) :=
  (log.given.filter fun frame => frame.2 = .ok).map Prod.fst

/-- The frame given last was sent to its last byte. -/
def LastSent (log : PortLog) : Prop := ∃ frame ∈ log.given.getLast?, frame.2 = .ok

/-- What happens, noted. -/
def input (log : PortLog) (event : PortEvent) : PortLog :=
  match event.op with
  | .byte b => { log with heard := log.heard ++ [(event.now, b)] }
  | .rs232 rx => { log with served := log.served ++ [rx] }
  | _ => log

/-- What the port does, noted. -/
def output (now : ℕ) (log : PortLog) : PortOutput → PortLog
  | .called adu => { log with resting := none, request := adu, due := log.due ++ adu.toList }
  | .rests => { log with resting := some now }
  | .cleared => { log with heard := [] }
  | .sent data status => { log with given := log.given ++ [(data, status)] }
  | .served rx tx => { log with served := log.served ++ [rx], due := log.due ++ framesOf tx }
  | .returned _ => { log with request := none }
  | _ => log

/-- A step, noted. -/
def note (log : PortLog) (event : PortEvent) (outs : List PortOutput) : PortLog :=
  outs.foldl (output event.now) (log.input event)

/-- A delay of the call in progress has lasted T3.5. -/
def Rested (t35 now : ℕ) (log : PortLog) : Prop := ∃ start ∈ log.resting, start + t35 ≤ now

instance (t35 now : ℕ) (log : PortLog) : Decidable (log.Rested t35 now) :=
  decidable_of_iff (log.resting.any fun start => decide (start + t35 ≤ now)) (by
    simp [Rested, Option.any_eq_true])

theorem note_step (log : PortLog) {event : PortEvent} {halOk : Bool} (hop : event.op = .step halOk)
    (outs : List PortOutput) : log.note event outs = outs.foldl (output event.now) log := by
  rw [note, input, hop]

theorem Rested.later {t35 now now' : ℕ} {log : PortLog} (h : log.Rested t35 now)
    (hnow : now ≤ now') : log.Rested t35 now' := by
  obtain ⟨start, hstart, hle⟩ := h
  exact ⟨start, hstart, hle.trans hnow⟩

end PortLog

/-- The port with an observer beside it. -/
def watchedPort (cfg : Config) : PortEvent → Checked Fault (Rs485Port cfg × PortLog)
    (List PortOutput) := watched PortLog.note portStep

/-! ## Lists of actions -/

/-- The frames that the actions put on the line. -/
def owed (todo : List PortAction) : List (List Byte) := todo.flatMap fun
  | .send data | .transmit data | .masterSend data => [data]
  | _ => []

/-- The actions may be taken one after another, with the driver on or off, a rest
taken or not, in a transaction or not, and the frame given last sent whole or not:
the line is driven after a rest, bytes are sent while it is driven, a response is
waited for once the request was sent whole, and in the end the line is released. -/
def Disciplined : List PortAction → Bool → Prop → Bool → Prop → Prop
  | [], driving, _, transacting, _ => driving = false ∧ transacting = false
  | action :: rest, driving, rested, transacting, whole =>
      match action with
      | .process | .callback _ =>
          driving = false ∧ owed rest = [] ∧ (transacting = true → whole) ∧
            Disciplined rest false False transacting whole
      | .flushRx | .txBegin => Disciplined rest driving rested transacting whole
      | .delayT35 => driving = false ∧ Disciplined rest false True transacting whole
      | .txEnable => rested ∧ Disciplined rest true rested transacting whole
      | .rxEnable => Disciplined rest false rested transacting whole
      | .send data => data ≠ [] ∧ rested ∧ Disciplined rest false rested transacting False
      | .transmit _ => driving = true ∧ rested ∧ Disciplined rest true rested transacting False
      | .masterDelayT35 =>
          driving = false ∧ transacting = true ∧ Disciplined rest false True transacting whole
      | .masterSend adu =>
          adu ≠ [] ∧ rested ∧ transacting = true ∧ Disciplined rest false rested transacting False
      | .masterSent call | .masterFrame call _ =>
          driving = false ∧ transacting = true ∧ call.reqPdu ≠ [] ∧ rest = []
      | .masterRecv call | .masterWait call _ | .masterLook call _ =>
          driving = false ∧ transacting = true ∧ call.reqPdu ≠ [] ∧ whole ∧ rest = []
      | .masterEnd _ => driving = false ∧ transacting = true ∧ rest = []
      | .spin _ | .masterFlush => False

/-- What may be done without a rest may be done after one. Only a transaction asks
whether the last frame was sent whole. -/
theorem Disciplined.mono {todo : List PortAction} {driving transacting : Bool}
    {p q whole whole' : Prop} (h : Disciplined todo driving p transacting whole) (hpq : p → q)
    (hwhole : transacting = true → whole → whole') :
    Disciplined todo driving q transacting whole' := by
  induction todo generalizing driving p q whole whole' with
  | nil => exact h
  | cons action rest ih =>
      cases action with
      | spin | masterFlush => exact h.elim
      | masterSent | masterFrame | masterEnd => exact h
      | masterRecv | masterWait | masterLook =>
          obtain ⟨hdriving, htransacting, hreq, hsent, hrest⟩ := h
          exact ⟨hdriving, htransacting, hreq, hwhole htransacting hsent, hrest⟩
      | process | callback =>
          obtain ⟨hdriving, howed, hsent, hrest⟩ := h
          exact ⟨hdriving, howed, fun htransacting => hwhole htransacting (hsent htransacting),
            ih hrest id hwhole⟩
      | delayT35 => exact ⟨h.1, ih h.2 id hwhole⟩
      | masterDelayT35 => exact ⟨h.1, h.2.1, ih h.2.2 id hwhole⟩
      | flushRx | txBegin | rxEnable => exact ih h hpq hwhole
      | txEnable => exact ⟨hpq h.1, ih h.2 hpq hwhole⟩
      | send data => exact ⟨h.1, hpq h.2.1, ih h.2.2 hpq fun _ => id⟩
      | transmit data => exact ⟨h.1, hpq h.2.1, ih h.2.2 hpq fun _ => id⟩
      | masterSend adu => exact ⟨h.1, hpq h.2.1, h.2.2.1, ih h.2.2.2 hpq fun _ => id⟩

/-- What the main thread has begun: a wait of T3.5, the first step of a
transaction, or neither. -/
inductive Underway (rested : Prop) (resting : Option ℕ) (transacting : Bool) (whole : Prop)
    (driving : Bool) : List PortAction → Prop
  | planned {todo : List PortAction} (h : Disciplined todo driving rested transacting whole) :
      Underway rested resting transacting whole driving todo
  | spinning {start : ℕ} {rest : List PortAction} (hdriving : driving = false)
      (hresting : resting = some start) (h : Disciplined rest false True transacting whole) :
      Underway rested resting transacting whole driving (.spin (RtuFramer.timeUs start) :: rest)
  | flushing {rest : List PortAction} (hdriving : driving = false)
      (htransacting : transacting = true) (h : Disciplined rest false False true whole) :
      Underway rested resting transacting whole driving (.masterFlush :: rest)

theorem Underway.mono {p q whole : Prop} {resting : Option ℕ} {transacting driving : Bool}
    {todo : List PortAction} (h : Underway p resting transacting whole driving todo)
    (hpq : p → q) : Underway q resting transacting whole driving todo := by
  cases h with
  | planned hplan => exact .planned (hplan.mono hpq fun _ => id)
  | spinning hdriving hresting hplan => exact .spinning hdriving hresting hplan
  | flushing hdriving htransacting hplan => exact .flushing hdriving htransacting hplan

/-! ## The invariant -/

/-- What holds of the port between steps. -/
structure InOrderAt (t35 now : ℕ) (s : Rs485Port cfg) (log : PortLog) : Prop where
  t35_eq : s.framer.t35Us.toNat = t35
  resting_le : ∀ start ∈ log.resting, start ≤ now
  underway : Underway (log.Rested t35 now) log.resting log.transacting log.LastSent s.driving s.todo
  waiting : s.todo.head? ≠ some .masterFlush → (s.master.waiting ≠ 0 ↔ log.transacting = true)
  due_eq : log.due = log.transmitted ++ owed s.todo
  requested : ∀ adu ∈ log.request, log.due.getLast? = some adu
  status_eq : ∀ frame ∈ log.given.getLast?, frame.2 = s.sendStatus

theorem t35Us_framerStep (f : RtuFramer) (event : FramerEvent) :
    (framerStep event f).2.t35Us = f.t35Us :=
  congrArg (·.2.1) (f.settings_framerStep event)

/-- A wait that is over has lasted T3.5. -/
theorem rested_of_spun {t35 start now : ℕ} (hle : start ≤ now)
    (hspun : ¬ (RtuFramer.timeUs now - RtuFramer.timeUs start).toNat < t35) :
    start + t35 ≤ now := by
  have := RtuFramer.toNat_elapsed_le hle
  omega

theorem owed_append (as bs : List PortAction) : owed (as ++ bs) = owed as ++ owed bs :=
  List.flatMap_append

theorem owed_answerActions (tx : List Byte) : owed (answerActions tx) = framesOf tx := by
  unfold answerActions framesOf
  split_ifs <;> rfl

/-- Outside a transaction, an answer is sent after a rest of its own. -/
theorem disciplined_answerActions {tx : List Byte} {rest : List PortAction} {transacting : Bool}
    {rested whole : Prop} (houtside : transacting = false)
    (h : Disciplined rest false False transacting whole) :
    Disciplined (answerActions tx ++ rest) false rested transacting whole := by
  unfold answerActions
  split_ifs with hsome
  · have hrest : Disciplined rest false True transacting False :=
      h.mono False.elim fun htransacting => absurd (houtside ▸ htransacting) Bool.false_ne_true
    exact ⟨rfl, trivial, List.length_pos_iff.mp hsome, trivial, hrest⟩
  · exact h.mono False.elim fun _ => id

/-- In a transaction whose request was given to the UART, what was given last is the
request, and its status is the one that the main thread has. -/
theorem InOrderAt.given_getLast {t35 now : ℕ} {s : Rs485Port cfg} {log : PortLog}
    (h : InOrderAt t35 now s log) (howed : owed s.todo = [])
    (htransacting : log.transacting = true) :
    ∃ adu, log.request = some adu ∧ log.given.getLast? = some (adu, s.sendStatus) := by
  obtain ⟨adu, hrequest⟩ := Option.isSome_iff_exists.mp htransacting
  have hlast := h.requested adu hrequest
  rw [h.due_eq, howed, List.append_nil, PortLog.transmitted, List.getLast?_map,
    Option.map_eq_some_iff] at hlast
  obtain ⟨⟨data, status⟩, hgiven, rfl⟩ := hlast
  obtain rfl : status = s.sendStatus := h.status_eq _ hgiven
  exact ⟨data, hrequest, hgiven⟩

/-! ## One step -/

/-- What a step does on the line: the driver goes on after a rest in the call in
progress, and bytes are sent after one and while it is on. -/
structure DrivesRested (t35 : ℕ) (s : Rs485Port cfg × PortLog) (event : PortEvent)
    (outs : List PortOutput) (s' : Rs485Port cfg × PortLog) : Prop where
  drives : s.1.driving = false → s'.1.driving = true → s.2.Rested t35 event.now
  sends : ∀ data status, .sent data status ∈ outs →
    s.1.driving = true ∧ s.2.Rested t35 event.now

/-- The invariant after a step, and what the step does on the line. -/
def Turned (t35 : ℕ) (s : Rs485Port cfg × PortLog) (event : PortEvent) (outs : List PortOutput)
    (s' : Rs485Port cfg × PortLog) : Prop :=
  InOrderAt t35 event.now s'.1 s'.2 ∧ DrivesRested t35 s event outs s'

section Step

variable {t35 now : ℕ} {s : Rs485Port cfg} {log : PortLog} {event : PortEvent}

/-- Time goes on. -/
theorem InOrderAt.later {now' : ℕ} (h : InOrderAt t35 now s log) (hnow : now ≤ now') :
    InOrderAt t35 now' s log :=
  { h with
    resting_le := fun start hstart => (h.resting_le start hstart).trans hnow
    underway := h.underway.mono fun hrested => hrested.later hnow }

/-- A step that neither turns the driver on nor sends anything. -/
theorem DrivesRested.quiet {outs : List PortOutput} {s' : Rs485Port cfg × PortLog}
    (hdriving : s'.1.driving = true → s.driving = true)
    (houts : ∀ data status, .sent data status ∉ outs) :
    DrivesRested t35 (s, log) event outs s' where
  drives hoff hon := by
    rw [hdriving hon] at hoff
    cases hoff
  sends data status hmem := absurd hmem (houts data status)

theorem DrivesRested.still {s' : Rs485Port cfg × PortLog}
    (hdriving : s'.1.driving = true → s.driving = true) :
    DrivesRested t35 (s, log) event [] s' :=
  .quiet hdriving fun _ _ => List.not_mem_nil

/-- An action from a list in order leaves the rest of it in order. -/
theorem turned_takeAction (flat : cfg.Flat) (h : InOrderAt t35 event.now s log) {halOk : Bool}
    (hop : event.op = .step halOk) {action : PortAction} {rest : List PortAction}
    (htodo : s.todo = action :: rest)
    (hplan : Disciplined (action :: rest) s.driving (log.Rested t35 event.now) log.transacting
      log.LastSent) :
    Yields (takeAction event.now halOk s rest action) s fun outs s' =>
      Turned t35 (s, log) event outs (s', log.note event outs) := by
  obtain ⟨ht35, hresting, -, hwaiting, hdue, hrequested, hstatus⟩ := id h
  rw [htodo] at hwaiting hdue
  simp only [Turned, log.note_step hop]
  cases action with
  | spin start => exact hplan.elim
  | masterFlush => exact hplan.elim
  | process =>
      obtain ⟨hdriving, howed, hsent, hrest⟩ := hplan
      simp only [takeAction, yields_leave]
      refine ⟨⟨?_, hresting, .planned ?_, fun _ => hwaiting (by simp), ?_, hrequested, hstatus⟩,
        .still id⟩
      · exact (congrArg BitVec.toNat (t35Us_framerStep s.framer ⟨event.now, .process⟩)).trans ht35
      · cases (s.framer.process event.now).1 with
        | none => exact hdriving ▸ hrest.mono False.elim fun _ => id
        | some data => exact ⟨hdriving, howed, hsent, hrest⟩
      · cases (s.framer.process event.now).1 <;> exact hdue
  | callback data =>
      obtain ⟨hdriving, howed, hsent, hrest⟩ := hplan
      have hwaits := hwaiting (by simp)
      rw [takeAction, rs485ModbusRxCallback, yields_ite]
      split_ifs with hmaster
      · rw [yields_leave]
        refine ⟨⟨ht35, hresting, .planned (hdriving ▸ hrest.mono False.elim fun _ => id),
          fun _ => ?_, hdue, hrequested, hstatus⟩, .quiet id (by simp)⟩
        unfold modbusMasterRtuOnFrame
        split_ifs <;> exact hwaits
      · have houtside : log.transacting = false :=
          Bool.eq_false_iff.mpr fun htransacting => hmaster (hwaits.mpr htransacting)
        rw [yields_bind]
        apply yields_onSlave_modbusRtuProcess flat
        simp only [yields_bind, yields_modify, yields_pure]
        refine ⟨⟨ht35, hresting, .planned ?_, fun _ => hwaits, ?_, ?_, hstatus⟩,
          .quiet id (by simp)⟩
        · exact hdriving ▸ disciplined_answerActions houtside hrest
        · have hdue' : log.due = log.transmitted := by
            rw [hdue, show owed (.callback data :: rest) = owed rest from rfl, howed,
              List.append_nil]
          simp only [List.foldl_cons, List.foldl_nil, PortLog.output, PortLog.transmitted,
            owed_append, owed_answerActions, howed, List.append_nil, hdue']
        · intro adu hrequest
          exact absurd (Option.isSome_of_mem hrequest) (Bool.eq_false_iff.mp houtside)
  | flushRx =>
      rw [takeAction, yields_leave]
      exact ⟨⟨ht35, hresting, .planned hplan, fun _ => hwaiting (by simp), hdue,
        hrequested, hstatus⟩,
        .quiet id (by simp)⟩
  | delayT35 =>
      obtain ⟨hdriving, hrest⟩ := hplan
      rw [takeAction, yields_leave]
      refine ⟨⟨ht35, ?_, .spinning hdriving rfl hrest, fun _ => hwaiting (by simp), hdue,
        hrequested, hstatus⟩,
        .quiet id (by simp)⟩
      intro start hstart
      exact (Option.mem_some_iff.mp hstart).ge
  | txEnable =>
      obtain ⟨hrested, hrest⟩ := hplan
      rw [takeAction, yields_leave]
      exact ⟨⟨ht35, hresting, .planned hrest, fun _ => hwaiting (by simp), hdue,
        hrequested, hstatus⟩,
        fun _ _ => hrested, by simp⟩
  | rxEnable =>
      rw [takeAction, yields_leave]
      exact ⟨⟨ht35, hresting, .planned hplan, fun _ => hwaiting (by simp), hdue,
        hrequested, hstatus⟩,
        .still (absurd · Bool.false_ne_true)⟩
  | send data =>
      obtain ⟨hsome, hrested, hrest⟩ := hplan
      rw [takeAction, yields_leave, rs485Send, if_neg (by simpa using hsome)]
      exact ⟨⟨ht35, hresting, .planned ⟨hrested, rfl, hrested, hrest⟩, fun _ => hwaiting (by simp),
        hdue, hrequested, hstatus⟩, .still id⟩
  | txBegin =>
      rw [takeAction, yields_leave]
      exact ⟨⟨ht35, hresting, .planned hplan, fun _ => hwaiting (by simp), hdue,
        hrequested, hstatus⟩,
        .quiet id (by simp)⟩
  | transmit data =>
      obtain ⟨hdriving, hrested, hrest⟩ := hplan
      simp only [takeAction, yields_leave]
      refine ⟨⟨ht35, hresting, .planned ?_, fun _ => hwaiting (by simp), ?_, hrequested, ?_⟩, ?_⟩
      · exact hdriving ▸ hrest.mono id fun _ => False.elim
      · rw [PortLog.transmitted, List.foldl_cons, List.foldl_nil, PortLog.output, List.map_append,
          List.append_assoc]
        exact hdue
      · simp [PortLog.output]
      · exact ⟨fun hoff _ => absurd hdriving (hoff ▸ Bool.false_ne_true), fun _ _ _ =>
          ⟨hdriving, hrested⟩⟩
  | masterDelayT35 =>
      obtain ⟨hdriving, htransacting, hrest⟩ := hplan
      rw [takeAction, yields_leave]
      exact ⟨⟨ht35, hresting, .planned ⟨hdriving, hrest⟩, fun _ => iff_of_true byte_one_ne_zero
        htransacting, hdue, hrequested, hstatus⟩, .still id⟩
  | masterSend adu =>
      obtain ⟨hsome, hrested, htransacting, hrest⟩ := hplan
      simp only [takeAction, yields_leave, if_neg (show ¬ adu.length = 0 by simpa using hsome)]
      exact ⟨⟨ht35, hresting, .planned ⟨hrested, hsome, hrested, hrest⟩, fun _ => iff_of_true
        byte_one_ne_zero htransacting, hdue, hrequested, hstatus⟩, .still id⟩
  | masterSent call =>
      obtain ⟨hdriving, htransacting, hreq, rfl⟩ := hplan
      rw [takeAction, yields_leave]
      refine ⟨⟨ht35, hresting, .planned ?_, fun _ => hwaiting (by simp), ?_, hrequested, hstatus⟩,
        .still id⟩
      · unfold masterSentActions
        split_ifs with hfailed
        · exact ⟨hdriving, htransacting, rfl⟩
        · exact ⟨hdriving, htransacting, rfl⟩
        · obtain ⟨adu, -, hgiven⟩ := h.given_getLast (htodo ▸ rfl) htransacting
          exact ⟨hdriving, htransacting, hreq, ⟨_, hgiven, not_not.mp hfailed⟩, rfl⟩
      · unfold masterSentActions
        split_ifs <;> exact hdue
  | masterRecv call =>
      obtain ⟨hdriving, htransacting, hreq, hsent, rfl⟩ := hplan
      rw [takeAction, yields_leave]
      exact ⟨⟨ht35, hresting, .planned ⟨hdriving, htransacting, hreq, hsent, rfl⟩, fun _ =>
        iff_of_true (by simp) htransacting, hdue, hrequested, hstatus⟩, .quiet id (by simp)⟩
  | masterWait call start =>
      obtain ⟨hdriving, htransacting, hreq, hsent, rfl⟩ := hplan
      rw [takeAction, yields_leave]
      refine ⟨⟨ht35, hresting, .planned ?_, fun _ => hwaiting (by simp), ?_, hrequested, hstatus⟩,
        .quiet id (by simp)⟩
      · dsimp only
        split_ifs
        · exact ⟨hdriving, rfl, fun _ => hsent, rfl, htransacting, hreq, hsent, rfl⟩
        · exact ⟨hdriving, htransacting, rfl⟩
      · dsimp only
        split_ifs <;> exact hdue
  | masterLook call start =>
      obtain ⟨hdriving, htransacting, hreq, hsent, rfl⟩ := hplan
      rw [takeAction, yields_ite, yields_leave, yields_leave]
      split_ifs
      · exact ⟨⟨ht35, hresting, .planned ⟨hdriving, htransacting, hreq, rfl⟩, fun _ => hwaiting
          (by simp), hdue, hrequested, hstatus⟩, .still id⟩
      · exact ⟨⟨ht35, hresting, .planned ⟨hdriving, htransacting, hreq, hsent, rfl⟩, fun _ =>
          hwaiting (by simp), hdue, hrequested, hstatus⟩, .still id⟩
  | masterFrame call frame =>
      obtain ⟨hdriving, htransacting, hreq, rfl⟩ := hplan
      rw [takeAction, yields_masterFrameStep hreq]
      exact ⟨⟨ht35, hresting, .planned ⟨hdriving, rfl⟩,
        fun _ => by simp [masterRtuEnd, PortLog.output, PortLog.transacting], hdue, by simp
          [PortLog.output], hstatus⟩, .quiet id (by simp)⟩
  | masterEnd status =>
      obtain ⟨hdriving, htransacting, rfl⟩ := hplan
      rw [takeAction, yields_leave]
      exact ⟨⟨ht35, hresting, .planned ⟨hdriving, rfl⟩,
        fun _ => by simp [masterRtuEnd, PortLog.output, PortLog.transacting], hdue, by simp
          [PortLog.output], hstatus⟩, .quiet id (by simp)⟩

/-- A step of the main thread keeps the port in order. -/
theorem turned_step (flat : cfg.Flat) (h : InOrderAt t35 event.now s log) {halOk : Bool}
    (hop : event.op = .step halOk) {action : PortAction} {rest : List PortAction}
    (htodo : s.todo = action :: rest) :
    Yields (takeAction event.now halOk s rest action) s fun outs s' =>
      Turned t35 (s, log) event outs (s', log.note event outs) := by
  have hunderway := h.underway
  rw [htodo] at hunderway
  simp only [Turned, log.note_step hop]
  cases hunderway with
  | planned hplan =>
      have hturned := turned_takeAction flat h hop htodo hplan
      simpa only [Turned, log.note_step hop] using hturned
  | @spinning start _ hdriving hresting hrest =>
      obtain ⟨ht35, hle, -, hwaiting, hdue, hrequested, hstatus⟩ := id h
      rw [htodo] at hwaiting hdue
      rw [takeAction, yields_ite, yields_leave, yields_leave]
      split_ifs with hwaits
      · exact ⟨{ h with }, .still id⟩
      · refine ⟨⟨ht35, hle, .planned ?_, fun _ => hwaiting (by simp), hdue,
        hrequested, hstatus⟩, .still id⟩
        have hrested : log.Rested t35 event.now :=
          ⟨start, hresting, rested_of_spun (hle start hresting) (ht35 ▸ hwaits)⟩
        exact hdriving ▸ hrest.mono (fun _ => hrested) fun _ => id
  | flushing hdriving htransacting hrest =>
      obtain ⟨ht35, hle, -, hwaiting, hdue, hrequested, hstatus⟩ := h
      rw [htodo] at hdue
      rw [takeAction, yields_leave]
      refine ⟨⟨ht35, hle, .planned ?_, fun _ => iff_of_true byte_one_ne_zero htransacting, hdue,
        hrequested, hstatus⟩, .still id⟩
      have hlater : Disciplined rest false (log.Rested t35 event.now) true log.LastSent :=
        hrest.mono False.elim fun _ => id
      rwa [← hdriving, ← htransacting] at hlater

/-- The port is free, and a call may begin. -/
theorem InOrderAt.free (h : InOrderAt t35 now s log) (htodo : s.todo = []) :
    s.driving = false ∧ log.transacting = false ∧ s.master.waiting = 0 ∧
      log.due = log.transmitted := by
  obtain ⟨-, -, hunderway, hwaiting, hdue, -, -⟩ := h
  rw [htodo] at hunderway hwaiting hdue
  cases hunderway with
  | planned hplan =>
      refine ⟨hplan.1, hplan.2, ?_, by simpa [owed] using hdue⟩
      by_contra hwaits
      have := (hwaiting (by simp)).mp hwaits
      rw [hplan.2] at this
      cases this

/-- What was given to the UART was due. -/
theorem InOrderAt.inTurn (h : InOrderAt t35 now s log) : log.transmitted <+: log.due :=
  ⟨owed s.todo, h.due_eq.symm⟩

/-- What happens at the port keeps it in order. -/
theorem yields_portStep_turned (flat : cfg.Flat) (h : InOrderAt t35 now s log)
    (hnow : now ≤ event.now) :
    Yields (portStep event) s fun outs s' =>
      Turned t35 (s, log) event outs (s', log.note event outs) := by
  have hlater := h.later hnow
  rw [portStep, yields_bind, yields_get]
  cases hop : event.op with
  | byte b =>
      simp only [yields_leave, Turned, PortLog.note, PortLog.input, hop, List.foldl_nil]
      refine ⟨{ hlater with t35_eq := ?_ }, .still id⟩
      exact (congrArg BitVec.toNat (t35Us_framerStep s.framer ⟨event.now, .byte b⟩)).trans h.t35_eq
  | overrun =>
      rw [yields_bind, yields_onSlave_charOverrun, yields_pure]
      simp only [Turned, PortLog.note, PortLog.input, hop, List.foldl_nil]
      exact ⟨{ hlater with }, .still id⟩
  | systick =>
      simp only [yields_leave, Turned, PortLog.note, PortLog.input, hop, List.foldl_nil]
      refine ⟨{ hlater with t35_eq := ?_ }, .still id⟩
      exact (congrArg BitVec.toNat (t35Us_framerStep s.framer ⟨event.now, .systick⟩)).trans h.t35_eq
  | rs232 rx =>
      rw [yields_bind]
      apply yields_onSlave_modbusRtuProcess flat
      simp only [yields_pure, Turned, PortLog.note, PortLog.input, hop, List.foldl_nil]
      exact ⟨{ hlater with }, .still id⟩
  | process =>
      dsimp only
      split
      · next htodo =>
          obtain ⟨hdriving, htransacting, hmaster, hdue⟩ := h.free htodo
          simp only [yields_leave, Turned, PortLog.note, PortLog.input, hop, List.foldl_cons,
            List.foldl_nil, PortLog.output]
          refine ⟨⟨h.t35_eq, by simp, .planned ⟨hdriving, rfl, by simp [PortLog.transacting], rfl,
            rfl⟩, fun _ => ?_, ?_, by simp, h.status_eq⟩, .quiet id (by simp)⟩
          · simp [hmaster, PortLog.transacting]
          · simp only [Option.toList_none, List.append_nil, hdue]
            exact (List.append_nil _).symm
      · simp only [yields_pure, Turned, PortLog.note, PortLog.input, hop, List.foldl_nil]
        exact ⟨hlater, .still id⟩
  | transaction call =>
      dsimp only
      split
      · next htodo =>
          obtain ⟨hdriving, htransacting, hmaster, hdue⟩ := h.free htodo
          rw [yields_beginTransaction]
          split_ifs with hsize
          · have hframe : rtuFrame call.slaveId call.reqPdu ≠ [] := by
              apply List.ne_nil_of_length_pos
              rw [length_rtuFrame]
              exact Nat.succ_pos _
            have hreq : call.reqPdu ≠ [] := List.ne_nil_of_length_pos hsize.1
            simp only [Turned, PortLog.note, PortLog.input, hop, List.foldl_cons, List.foldl_nil,
              PortLog.output]
            refine ⟨⟨h.t35_eq, by simp, .flushing hdriving rfl ?_,
              by simp [transactionActions], ?_, by simp, h.status_eq⟩, .quiet id (by simp)⟩
            · exact ⟨rfl, rfl, hframe, trivial, rfl, rfl, rfl, hreq, rfl⟩
            · rw [hdue]
              rfl
          · simp only [Turned, PortLog.note, PortLog.input, hop, List.foldl_cons, List.foldl_nil,
              PortLog.output]
            have hnone : log.request = none := by simpa [PortLog.transacting] using htransacting
            rw [← hnone]
            exact ⟨hlater, .quiet id (by simp)⟩
      · simp only [yields_pure, Turned, PortLog.note, PortLog.input, hop, List.foldl_nil]
        exact ⟨hlater, .still id⟩
  | step halOk =>
      dsimp only
      split
      · rw [yields_pure]
        simp only [Turned, log.note_step hop]
        exact ⟨hlater, .still id⟩
      · next htodo => exact turned_step flat hlater hop htodo

end Step

/-! ## Runs -/

/-- A step of the port: the line is driven after a rest of T3.5 in the same call,
bytes leave while it is driven, what is given to the UART is what was due, in order
and each frame once, and so is what is sent whole. With nothing left to do the line
is free, the master waits for nothing, and every frame due was given to the UART; if
none of them was given up, all of them were sent whole. -/
structure Turnaround (t35 : ℕ) (s : Rs485Port cfg × PortLog) (event : PortEvent)
    (outs : List PortOutput) (s' : Rs485Port cfg × PortLog) : Prop
    extends DrivesRested t35 s event outs s' where
  inTurn : s'.2.transmitted <+: s'.2.due
  whole : s'.2.sentWhole.Sublist s'.2.due
  free : s'.1.todo = [] →
    s'.1.driving = false ∧ s'.1.master.waiting = 0 ∧ s'.2.transmitted = s'.2.due ∧
      ((∀ frame ∈ s'.2.given, frame.2 = .ok) → s'.2.sentWhole = s'.2.due)

/-- The port after its initialisation is in order. -/
theorem inOrderAt_init (rxBuffer completedBuffer : ℕ → Byte) (bufferSize : ℕ)
    (baudrate msTick : Dword) (slave : Slave cfg) (sysTick : Dword) :
    InOrderAt (modbusRtuTimeoutsUs baudrate).2.toNat 0
      (rs485Init rxBuffer completedBuffer bufferSize baudrate msTick slave sysTick) .start where
  t35_eq := rfl
  resting_le start hstart := absurd hstart (Option.not_mem_none start)
  underway := .planned ⟨rfl, rfl⟩
  waiting _ := by simp [rs485Init, PortLog.start, PortLog.transacting]
  due_eq := rfl
  requested adu hadu := absurd hadu (Option.not_mem_none adu)
  status_eq frame hframe := absurd hframe (Option.not_mem_none frame)

/-- The frames sent whole are among those given to the UART. -/
theorem PortLog.sentWhole_sublist (log : PortLog) : log.sentWhole.Sublist log.transmitted :=
  List.filter_sublist.map Prod.fst

/-- If no frame was given up, all that were given were sent whole. -/
theorem PortLog.sentWhole_eq {log : PortLog} (h : ∀ frame ∈ log.given, frame.2 = .ok) :
    log.sentWhole = log.transmitted := by
  rw [sentWhole, List.filter_eq_self.mpr fun frame hframe => decide_eq_true (h frame hframe)]
  rfl

/-- In whatever order bytes, overruns, ticks, calls and the steps of the main
thread come, the port keeps the turnaround of the line. -/
theorem rs485Run_turnaround (rxBuffer completedBuffer : ℕ → Byte) (bufferSize : ℕ)
    (baudrate msTick : Dword) (slave : Slave boardConfig) (sysTick : Dword)
    {events : List PortEvent} (hordered : PortInOrder events) :
    EveryStep (watchedPort boardConfig) (Turnaround (modbusRtuTimeoutsUs baudrate).2.toNat)
      (rs485Init rxBuffer completedBuffer bufferSize baudrate msTick slave sysTick, .start)
      events := by
  apply everyStep_of_ordered PortEvent.now
    (I := fun bound s => InOrderAt (modbusRtuTimeoutsUs baudrate).2.toNat bound s.1 s.2)
    _ (inOrderAt_init ..) hordered fun _ _ => Nat.zero_le _
  intro bound s event hs hbound
  rw [watchedPort, yields_watched]
  apply (yields_portStep_turned Config.boardConfig_flat hs hbound).mono
  intro outs s' hturned
  refine ⟨hturned.1, hturned.2, hturned.1.inTurn,
    (PortLog.sentWhole_sublist _).trans hturned.1.inTurn.sublist, fun htodo => ?_⟩
  obtain ⟨hdriving, -, hwaiting, hdue⟩ := hturned.1.free htodo
  exact ⟨hdriving, hwaiting, hdue.symm, fun hsent => (PortLog.sentWhole_eq hsent).trans hdue.symm⟩

/-- The bytes of a frame, one every 90 us. -/
def bytesAt115200 (start : ℕ) (frame : List Byte) : List PortEvent :=
  (frame.zipIdx start).map fun b => ⟨start + 90 * (b.2 - start), .byte b.1⟩

/-- A slave at 115200 baud. -/
def rs485Port115200 : Rs485Port boardConfig × PortLog :=
  (rs485Init (fun _ => 0) (fun _ => 0) rtuFramerMaxFrame 115200 0
    (Slave.powerOn (SyncHooks.none boardConfig)) 0, .start)

/-- Holding register 0 is read; the response follows a rest of T3.5. -/
def readEvents : List PortEvent :=
  bytesAt115200 100 (rtuFrame 0x01 [0x03, 0x00, 0x00, 0x00, 0x01]) ++
    [⟨1000, .systick⟩, ⟨2000, .systick⟩, ⟨2600, .process⟩, ⟨2610, .step true⟩, ⟨2620, .step true⟩,
      ⟨2630, .step true⟩, ⟨3000, .systick⟩, ⟨3500, .step true⟩, ⟨4000, .systick⟩,
      ⟨4400, .step true⟩, ⟨4410, .step true⟩, ⟨4420, .step true⟩, ⟨4430, .step true⟩,
      ⟨4440, .step true⟩, ⟨5000, .systick⟩, ⟨5100, .step true⟩, ⟨5110, .step true⟩,
      ⟨5120, .step true⟩]

theorem rs485Run_turnaround_read :
    EveryStep (watchedPort boardConfig) (Turnaround (modbusRtuTimeoutsUs 115200).2.toNat)
      rs485Port115200 readEvents :=
  rs485Run_turnaround (fun _ => 0) (fun _ => 0) rtuFramerMaxFrame 115200 0
    (Slave.powerOn (SyncHooks.none boardConfig)) 0 (by decide)

end AutomationBoard.Board
