/-
# Every call at the port returns

The main thread waits in two places, for T3.5 and for a response, and a wait
that did not end would stop the board. If the tick comes every millisecond and
the main thread is never held up for longer than some time in a call, then a
call of `rs485_process` lasts for a few such times and T3.5, and a transaction
for a few more and its timeout. The timeout is compared with a tick counter that
wraps, so it may not be as long as the counter.
-/

import AutomationBoard.Board.PortDiscipline
import AutomationBoard.Board.PortTransaction

namespace AutomationBoard.Board

open AutomationBoard.Modbus AutomationBoard.Program AutomationBoard.Serial

variable {cfg : Config}

/-! ## The clock -/

/-- The time now, when the main thread last got on, when the next tick is due,
when the last call began, and its arguments if it is a transaction. -/
structure CallClock where
  now : ℕ
  stepped : ℕ
  tickDue : ℕ
  began : ℕ
  call : Option MasterCall

namespace CallClock

/-- The first tick is due within a millisecond. -/
def start (tickDue : ℕ) : CallClock := ⟨0, 0, tickDue, 0, none⟩

/-- A call begins, unless it has to wait. -/
def begun (clock : CallClock) (now : ℕ) (call : Option MasterCall) (outs : List PortOutput) :
    CallClock :=
  if outs = [] then { clock with now := now } else ⟨now, now, clock.tickDue, now, call⟩

/-- A step, noted. -/
def note (clock : CallClock) (event : PortEvent) (outs : List PortOutput) : CallClock :=
  match event.op with
  | .step _ => { clock with now := event.now, stepped := event.now }
  | .systick => { clock with now := event.now, tickDue := clock.tickDue + 1000 }
  | .process => clock.begun event.now none outs
  | .transaction call => clock.begun event.now (some call) outs
  | _ => { clock with now := event.now }

end CallClock

/-- The port with its clock beside it. -/
def timedPort (cfg : Config) : PortEvent → Checked Fault (Rs485Port cfg × CallClock)
    (List PortOutput) := watched CallClock.note portStep

/-- The timeout of a transaction is shorter than the tick counter. -/
def PortOp.HasRoom (d : ℕ) : PortOp → Prop
  | .transaction call => 1000 * call.timeoutMs + 5 * d + 2000 ≤ 1000 * 2 ^ 32
  | _ => True

instance (d : ℕ) (op : PortOp) : Decidable (op.HasRoom d) := by
  cases op <;> unfold PortOp.HasRoom <;> infer_instance

/-- Time goes on, the main thread gets on within a time while it is in a call, and
the ticks come when they are due. -/
structure Scheduled (d : ℕ) (s : Rs485Port cfg × CallClock) (event : PortEvent)
    (_outs : List PortOutput) (_s' : Rs485Port cfg × CallClock) : Prop where
  ordered : s.2.now ≤ event.now
  prompt : s.1.todo ≠ [] → event.now ≤ s.2.stepped + d
  early : event.now ≤ s.2.tickDue
  onTime : event.op = .systick → event.now = s.2.tickDue
  room : event.op.HasRoom d

instance (d : ℕ) (s : Rs485Port cfg × CallClock) (event : PortEvent) (outs : List PortOutput)
    (s' : Rs485Port cfg × CallClock) : Decidable (Scheduled d s event outs s') :=
  decidable_of_iff (s.2.now ≤ event.now ∧ (s.1.todo ≠ [] → event.now ≤ s.2.stepped + d) ∧
      event.now ≤ s.2.tickDue ∧ (event.op = .systick → event.now = s.2.tickDue) ∧
      event.op.HasRoom d)
    ⟨fun h => ⟨h.1, h.2.1, h.2.2.1, h.2.2.2.1, h.2.2.2.2⟩,
      fun h => ⟨h.ordered, h.prompt, h.early, h.onTime, h.room⟩⟩

/-- How long a call may last. -/
def callBound (d t35 : ℕ) : Option MasterCall → ℕ
  | none => 11 * d + t35
  | some call => 20 * d + t35 + 1000 * (call.timeoutMs + 1)

/-- A call that is not over has not lasted too long. -/
def InTime (d t35 : ℕ) (s : Rs485Port cfg × CallClock) (event : PortEvent)
    (_outs : List PortOutput) (_s' : Rs485Port cfg × CallClock) : Prop :=
  s.1.todo ≠ [] → event.now ≤ s.2.began + callBound d t35 s.2.call

/-! ## How long actions take -/

/-- An action that takes a bounded time: all but those from the return of `send`
to the end of the transaction. -/
def PortAction.Bounded : PortAction → Bool
  | .process | .callback _ | .flushRx | .delayT35 | .spin _ | .txEnable | .rxEnable | .send _
  | .txBegin | .transmit _ | .masterFlush | .masterDelayT35 | .masterSend _ => true
  | .masterSent _ | .masterRecv _ | .masterWait .. | .masterLook .. | .masterFrame ..
  | .masterEnd _ => false

/-- How long an action may take, with what it leads to. -/
def duration (d t35 : ℕ) : PortAction → ℕ
  | .process => 11 * d + t35
  | .callback _ => 10 * d + t35
  | .delayT35 => 2 * d + t35
  | .send _ => 5 * d
  | .masterFlush => 2 * d
  | .masterDelayT35 => 3 * d + t35
  | .masterSend _ => 8 * d
  | .flushRx | .spin _ | .txEnable | .rxEnable | .txBegin | .transmit _ | .masterSent _
  | .masterRecv _ | .masterWait .. | .masterLook .. | .masterFrame .. | .masterEnd _ => d

/-- How long a list of actions may take. -/
def remaining (d t35 : ℕ) (todo : List PortAction) : ℕ := (todo.map (duration d t35)).sum

/-- The actions are done when they are due, if the main thread gets on in time. -/
inductive DoneBy (d t35 now stepped due : ℕ) : List PortAction → Prop
  | moving {todo : List PortAction} (hmoves : ∀ start, .spin start ∉ todo)
      (h : stepped + remaining d t35 todo ≤ due) : DoneBy d t35 now stepped due todo
  | spinning {start : ℕ} {rest : List PortAction} (hmoves : ∀ start, .spin start ∉ rest)
      (hstart : start ≤ now) (hstepped : stepped ≤ start + t35)
      (h : start + t35 + d + remaining d t35 rest ≤ due) :
      DoneBy d t35 now stepped due (.spin (RtuFramer.timeUs start) :: rest)

@[simp]
theorem remaining_nil (d t35 : ℕ) : remaining d t35 [] = 0 := rfl

@[simp]
theorem remaining_cons (d t35 : ℕ) (action : PortAction) (rest : List PortAction) :
    remaining d t35 (action :: rest) = duration d t35 action + remaining d t35 rest := rfl

theorem remaining_append (d t35 : ℕ) (as bs : List PortAction) :
    remaining d t35 (as ++ bs) = remaining d t35 as + remaining d t35 bs := by
  simp [remaining]

/-- An answer takes less time than the callback. -/
theorem remaining_answerActions_le (d t35 : ℕ) (tx : List Byte) :
    remaining d t35 (answerActions tx) ≤ 9 * d + t35 := by
  unfold answerActions
  split_ifs
  · simp only [remaining_cons, remaining_nil, duration]
    omega
  · exact Nat.zero_le _

section Bounded

variable {d t35 now stepped due : ℕ} {s : Rs485Port cfg}

theorem DoneBy.later {now' : ℕ} {todo : List PortAction} (h : DoneBy d t35 now stepped due todo)
    (hnow : now ≤ now') : DoneBy d t35 now' stepped due todo := by
  cases h with
  | moving hmoves hdue => exact .moving hmoves hdue
  | spinning hmoves hstart hstepped hdue => exact .spinning hmoves (hstart.trans hnow) hstepped hdue

/-- Each action takes some time. -/
theorem le_duration (d t35 : ℕ) (action : PortAction) : d ≤ duration d t35 action := by
  cases action <;> simp only [duration] <;> omega

/-- While there is something to do, it is not due yet. -/
theorem DoneBy.stepped_le {todo : List PortAction} (h : DoneBy d t35 now stepped due todo)
    (htodo : todo ≠ []) : stepped + d ≤ due := by
  cases h with
  | moving hmoves hdue =>
      obtain ⟨action, rest, rfl⟩ := List.exists_cons_of_ne_nil htodo
      have := le_duration d t35 action
      rw [remaining_cons] at hdue
      omega
  | spinning hmoves hstart hstepped hdue => omega

/-- Some actions come in the place of one, which may take them all. -/
theorem DoneBy.replaced {action : PortAction} {rest : List PortAction}
    (h : stepped + remaining d t35 (action :: rest) ≤ due)
    (hmoves : ∀ start, .spin start ∉ action :: rest) (hnow : now ≤ stepped + d)
    {first : List PortAction} (hfirst : ∀ start, .spin start ∉ first)
    (hlonger : d + remaining d t35 first ≤ duration d t35 action) :
    DoneBy d t35 now now due (first ++ rest) := by
  refine .moving ?_ ?_
  · intro start hmem
    rcases List.mem_append.mp hmem with hmem | hmem
    · exact hfirst start hmem
    · exact hmoves start (List.mem_cons_of_mem _ hmem)
  · rw [remaining_append]
    rw [remaining_cons] at h
    omega

/-- A step of an action of bounded time: others may come in its place, and the
list is done when it is due. -/
def StaysDue (d t35 now due : ℕ) (s : Rs485Port cfg) (rest : List PortAction)
    (s' : Rs485Port cfg) : Prop :=
  s'.framer.t35Us = s.framer.t35Us ∧ ∃ first, s'.todo = first ++ rest ∧
    (∀ action ∈ first, action.Bounded = true) ∧ DoneBy d t35 now now due s'.todo

/-- An action that others replace stays due if they take no longer. -/
theorem StaysDue.of_replaced {action : PortAction} {rest : List PortAction}
    (h : stepped + remaining d t35 (action :: rest) ≤ due)
    (hmoves : ∀ start, .spin start ∉ action :: rest) (hnow : now ≤ stepped + d)
    {s' : Rs485Port cfg} (ht35 : s'.framer.t35Us = s.framer.t35Us) (first : List PortAction)
    (htodo : s'.todo = first ++ rest) (hbounded : ∀ a ∈ first, a.Bounded = true)
    (hfirst : ∀ start, .spin start ∉ first)
    (hlonger : d + remaining d t35 first ≤ duration d t35 action) :
    StaysDue d t35 now due s rest s' :=
  ⟨ht35, first, htodo, hbounded, htodo ▸ .replaced h hmoves hnow hfirst hlonger⟩

/-- An action that is over in one step. -/
theorem StaysDue.of_done {action : PortAction} {rest : List PortAction}
    (h : stepped + remaining d t35 (action :: rest) ≤ due)
    (hmoves : ∀ start, .spin start ∉ action :: rest) (hnow : now ≤ stepped + d)
    {s' : Rs485Port cfg} (ht35 : s'.framer.t35Us = s.framer.t35Us) (htodo : s'.todo = rest) :
    StaysDue d t35 now due s rest s' :=
  .of_replaced h hmoves hnow ht35 [] htodo (List.forall_mem_nil _) (fun _ => List.not_mem_nil)
    (le_duration d t35 action)

/-- An action of bounded time leaves what it was due for due. -/
theorem staysDue_takeAction (flat : cfg.Flat) {action : PortAction} {rest : List PortAction}
    (hbounded : action.Bounded = true)
    (h : stepped + remaining d t35 (action :: rest) ≤ due)
    (hmoves : ∀ start, .spin start ∉ action :: rest) (hnow : now ≤ stepped + d) (halOk : Bool) :
    Yields (takeAction now halOk s rest action) s fun _ s' =>
      StaysDue d t35 now due s rest s' := by
  have hreplaced := @StaysDue.of_replaced cfg d t35 now stepped due s action rest h hmoves hnow
  cases action with
  | masterSent | masterRecv | masterWait | masterLook | masterFrame | masterEnd => cases hbounded
  | process =>
      rw [takeAction, yields_leave]
      refine hreplaced (t35Us_framerStep s.framer ⟨now, .process⟩)
        ((s.framer.process now).1.toList.map .callback) rfl ?_ ?_ ?_
      · simp [PortAction.Bounded]
      · simp
      · cases (s.framer.process now).1 <;> simp [duration] <;> omega
  | callback data =>
      rw [takeAction, rs485ModbusRxCallback, yields_ite]
      split_ifs
      · rw [yields_leave]
        exact .of_done h hmoves hnow rfl rfl
      · rw [yields_bind]
        apply yields_onSlave_modbusRtuProcess flat
        simp only [yields_bind, yields_modify, yields_pure]
        refine hreplaced rfl (answerActions _) rfl ?_ ?_ ?_
        · unfold answerActions
          split_ifs <;> simp [PortAction.Bounded]
        · unfold answerActions
          split_ifs <;> simp
        · have := remaining_answerActions_le d t35 (slaveStep s.slave data).1.tx
          simp only [duration]
          omega
  | spin start => exact absurd List.mem_cons_self (hmoves start)
  | delayT35 =>
      rw [takeAction, yields_leave]
      rw [remaining_cons, duration] at h
      refine ⟨rfl, [.spin _], rfl, by simp [PortAction.Bounded],
        .spinning ?_ le_rfl (Nat.le_add_right _ _) ?_⟩
      · exact fun start hmem => hmoves start (List.mem_cons_of_mem _ hmem)
      · omega
  | flushRx | txEnable | rxEnable | txBegin | transmit =>
      rw [takeAction, yields_leave]
      exact .of_done h hmoves hnow rfl rfl
  | send data =>
      rw [takeAction, yields_leave, rs485Send]
      split_ifs
      · exact .of_done h hmoves hnow rfl rfl
      · refine hreplaced rfl [.txBegin, .txEnable, .transmit data, .rxEnable] rfl ?_ ?_ ?_
        · simp [PortAction.Bounded]
        · simp
        · simp [duration]
          omega
  | masterFlush =>
      rw [takeAction, yields_leave]
      refine hreplaced rfl [.flushRx] rfl ?_ ?_ ?_
      · simp [PortAction.Bounded]
      · simp
      · simp [duration]
        omega
  | masterDelayT35 =>
      rw [takeAction, yields_leave]
      refine hreplaced rfl [.delayT35] rfl ?_ ?_ ?_
      · simp [PortAction.Bounded]
      · simp
      · simp [duration]
        omega
  | masterSend adu =>
      simp only [takeAction, yields_ite, yields_leave]
      split_ifs
      · exact .of_done h hmoves hnow rfl rfl
      · refine hreplaced rfl [.txEnable, .send adu, .rxEnable] rfl ?_ ?_ ?_
        · simp [PortAction.Bounded]
        · simp
        · simp [duration]
          omega

/-- One step of a list that is done when it is due. -/
theorem staysDue_step (flat : cfg.Flat) (ht35 : s.framer.t35Us.toNat = t35) {bound : ℕ}
    {action : PortAction} {rest : List PortAction} (htodo : s.todo = action :: rest)
    (hbounded : action.Bounded = true) (h : DoneBy d t35 bound stepped due (action :: rest))
    (hbound : bound ≤ now) (hnow : now ≤ stepped + d) (hwrap : d + t35 < 2 ^ 32) (halOk : Bool) :
    Yields (takeAction now halOk s rest action) s fun _ s' =>
      StaysDue d t35 now due s rest s' := by
  cases h with
  | moving hmoves hdue => exact staysDue_takeAction flat hbounded hdue hmoves hnow halOk
  | @spinning start _ hmoves hstart hstepped hdue =>
      have hstart := hstart.trans hbound
      rw [takeAction, yields_ite, yields_leave, yields_leave]
      split_ifs with hwaits
      · -- The wait goes on, and the clock has not wrapped since it began.
        have helapsed := RtuFramer.toNat_elapsed hstart (by omega)
        refine ⟨rfl, [.spin _], htodo, by simp [PortAction.Bounded], ?_⟩
        rw [htodo]
        exact .spinning hmoves hstart (by omega) hdue
      · refine ⟨rfl, [], rfl, List.forall_mem_nil _, .moving hmoves ?_⟩
        show now + remaining d t35 rest ≤ due
        omega

end Bounded

/-! ## Where a call is -/

/-- Where the wait for a response is, and how long after its end it may be there. -/
inductive LoopStage (call : MasterCall) (start : Dword) : ℕ → List PortAction → Prop
  | wait : LoopStage call start 3 [.masterWait call start]
  | process : LoopStage call start 0 [.process, .masterLook call start]
  | callback {data : List Byte} : LoopStage call start 1 [.callback data, .masterLook call start]
  | look : LoopStage call start 2 [.masterLook call start]

theorem LoopStage.late_le {call : MasterCall} {start : Dword} {late : ℕ} {todo : List PortAction}
    (h : LoopStage call start late todo) : late ≤ 3 := by
  cases h <;> decide

theorem LoopStage.ne_nil {call : MasterCall} {start : Dword} {late : ℕ} {todo : List PortAction}
    (h : LoopStage call start late todo) : todo ≠ [] := by
  cases h <;> exact List.cons_ne_nil _ _

/-- The wait for a response: how many ticks it has lasted, and when the first of
them was due. -/
structure Awaits (d t35 : ℕ) (call : MasterCall) (start : Dword) (first ticks : ℕ)
    (s : Rs485Port cfg) (clock : CallClock) : Prop where
  elapsed : s.sysTick - start = BitVec.ofNat 32 ticks
  ticks_lt : ticks < 2 ^ 32
  tickDue : clock.tickDue = first + 1000 * ticks
  first_le : first ≤ clock.began + 15 * d + t35 + 1000
  waiting : s.master.waiting ≠ 0

/-- When a transaction that began then is over. -/
def callEnd (d t35 began : ℕ) (call : MasterCall) : ℕ :=
  began + 15 * d + t35 + 1000 + 1000 * call.timeoutMs

/-- A transaction with a request, whose timeout is shorter than the tick counter. -/
structure Fits (d : ℕ) (call : MasterCall) : Prop where
  request : call.reqPdu ≠ []
  room : 1000 * call.timeoutMs + 5 * d + 2000 ≤ 1000 * 2 ^ 32

/-- Where a call is, and when what is left of it is due. -/
inductive Pace (d t35 : ℕ) (s : Rs485Port cfg) (clock : CallClock) : Prop
  | idle (htodo : s.todo = [])
  | straight (hcall : clock.call = none) (hbounded : ∀ a ∈ s.todo, a.Bounded = true)
      (hdue : DoneBy d t35 clock.now clock.stepped (clock.began + 11 * d + t35) s.todo)
  | sending {call : MasterCall} {before : List PortAction} (hcall : clock.call = some call)
      (hfits : Fits d call) (htodo : s.todo = before ++ [.masterSent call])
      (hbounded : ∀ a ∈ before, a.Bounded = true)
      (hdue : DoneBy d t35 clock.now clock.stepped (clock.began + 14 * d + t35) s.todo)
  | receiving {call : MasterCall} (hcall : clock.call = some call) (hfits : Fits d call)
      (htodo : s.todo = [.masterRecv call]) (hdue : clock.stepped ≤ clock.began + 14 * d + t35)
  | awaiting {call : MasterCall} {start : Dword} {first ticks late : ℕ}
      (hcall : clock.call = some call) (hfits : Fits d call)
      (h : Awaits d t35 call start first ticks s clock) (hstage : LoopStage call start late s.todo)
      (hdue : clock.stepped ≤ first + 1000 * call.timeoutMs + late * d)
  | ending {call : MasterCall} (hcall : clock.call = some call) (hfits : Fits d call)
      (htodo : (∃ status, s.todo = [.masterEnd status]) ∨
        ∃ frame, s.todo = [.masterFrame call frame])
      (hdue : clock.stepped ≤ callEnd d t35 clock.began call + 4 * d)

/-- What holds of the port and the clock between steps. -/
structure OnSchedule (d t35 : ℕ) (s : Rs485Port cfg) (clock : CallClock) : Prop where
  t35_eq : s.framer.t35Us.toNat = t35
  tickDue_le : clock.tickDue ≤ clock.now + 1000
  pace : Pace d t35 s clock

section Step

variable {d t35 : ℕ} {s : Rs485Port cfg} {clock : CallClock} {event : PortEvent}

/-- While a call is not over, it has not lasted too long. -/
theorem Pace.inTime (h : Pace d t35 s clock) (htodo : s.todo ≠ []) :
    clock.stepped + d ≤ clock.began + callBound d t35 clock.call := by
  cases h with
  | idle hnil => exact absurd hnil htodo
  | straight hcall hbounded hdue =>
      have := hdue.stepped_le htodo
      rw [hcall, callBound]
      omega
  | sending hcall hfits hsplit hbounded hdue =>
      have := hdue.stepped_le htodo
      rw [hcall, callBound]
      omega
  | receiving hcall hfits hsplit hdue =>
      rw [hcall, callBound]
      omega
  | @awaiting call start first ticks late hcall hfits haw hstage hdue =>
      have hlate := Nat.mul_le_mul_right d hstage.late_le
      have := haw.first_le
      rw [hcall, callBound]
      omega
  | ending hcall hfits hsplit hdue =>
      rw [hcall, callBound]
      rw [callEnd] at hdue
      omega

/-- An interrupt leaves the call where it is. -/
theorem Pace.interrupted (h : Pace d t35 s clock) (framer : RtuFramer) (slave : Slave cfg) {now : ℕ}
    (hnow : clock.now ≤ now) :
    Pace d t35 { s with framer := framer, slave := slave } { clock with now := now } := by
  cases h with
  | idle hnil => exact .idle hnil
  | straight hcall hbounded hdue => exact .straight hcall hbounded (hdue.later hnow)
  | sending hcall hfits hsplit hbounded hdue =>
      exact .sending hcall hfits hsplit hbounded (hdue.later hnow)
  | receiving hcall hfits hsplit hdue => exact .receiving hcall hfits hsplit hdue
  | awaiting hcall hfits haw hstage hdue => exact .awaiting hcall hfits { haw with } hstage hdue
  | ending hcall hfits hsplit hdue => exact .ending hcall hfits hsplit hdue

/-- A tick that comes when it is due is counted. -/
theorem Pace.ticked (h : Pace d t35 s clock) (framer : RtuFramer) (hnow : clock.now ≤ clock.tickDue)
    (hprompt : s.todo ≠ [] → clock.tickDue ≤ clock.stepped + d) :
    Pace d t35 { s with sysTick := s.sysTick + 1, framer := framer }
      { clock with now := clock.tickDue, tickDue := clock.tickDue + 1000 } := by
  cases h with
  | idle hnil => exact .idle hnil
  | straight hcall hbounded hdue => exact .straight hcall hbounded (hdue.later hnow)
  | sending hcall hfits hsplit hbounded hdue =>
      exact .sending hcall hfits hsplit hbounded (hdue.later hnow)
  | receiving hcall hfits hsplit hdue => exact .receiving hcall hfits hsplit hdue
  | @awaiting call start first ticks late hcall hfits haw hstage hdue =>
      have hlate := Nat.mul_le_mul_right d hstage.late_le
      have hpromptly := hprompt hstage.ne_nil
      have hroom := hfits.room
      have htickDue := haw.tickDue
      refine .awaiting hcall hfits (?_ : Awaits d t35 call start first (ticks + 1) _ _) hstage hdue
      refine ⟨?_, ?_, ?_, haw.first_le, haw.waiting⟩
      · rw [BitVec.ofNat_add, ← haw.elapsed, BitVec.sub_eq_add_neg, BitVec.sub_eq_add_neg]
        exact add_right_comm _ _ _
      · omega
      · simp only
        omega
  | ending hcall hfits hsplit hdue => exact .ending hcall hfits hsplit hdue

/-- A pass through the wait for a response keeps the call on schedule. -/
theorem onSchedule_awaiting {now : ℕ} (h : OnSchedule d t35 s clock) {action : PortAction}
    {rest : List PortAction} (hnow : clock.now ≤ now) (hprompt : now ≤ clock.stepped + d)
    (hearly : now ≤ clock.tickDue) {call : MasterCall} {start : Dword} {first ticks late : ℕ}
    (hcall : clock.call = some call) (hfits : Fits d call)
    (haw : Awaits d t35 call start first ticks s clock)
    (hstage : LoopStage call start late (action :: rest))
    (hdue : clock.stepped ≤ first + 1000 * call.timeoutMs + late * d) (halOk : Bool) :
    Yields (takeAction now halOk s rest action) s fun _ s' =>
      OnSchedule d t35 s' { clock with now := now, stepped := now } := by
  have hticks : clock.tickDue ≤ now + 1000 := h.tickDue_le.trans (Nat.add_le_add_right hnow 1000)
  have hfirst := haw.first_le
  have htickDue := haw.tickDue
  have hon : ∀ {s' : Rs485Port cfg} {late' : ℕ}, s'.framer.t35Us = s.framer.t35Us →
      s'.sysTick = s.sysTick → s'.master.waiting = s.master.waiting →
      LoopStage call start late' s'.todo → now ≤ first + 1000 * call.timeoutMs + late' * d →
      OnSchedule d t35 s' { clock with now := now, stepped := now } := by
    intro s' late' ht35 hsysTick hwaiting hstage' hdue'
    refine ⟨ht35 ▸ h.t35_eq, hticks, .awaiting hcall hfits ⟨?_, haw.ticks_lt, htickDue, hfirst, ?_⟩
      hstage' hdue'⟩
    · rw [hsysTick]
      exact haw.elapsed
    · rw [hwaiting]
      exact haw.waiting
  cases hstage with
  | wait =>
      have helapsed : (s.sysTick - start).toNat = ticks := by
        rw [haw.elapsed, BitVec.toNat_ofNat, Nat.mod_eq_of_lt haw.ticks_lt]
      rw [takeAction, yields_leave, helapsed]
      by_cases htime : ticks < call.timeoutMs
      · simp only [if_pos htime]
        exact hon rfl rfl rfl .process (by omega)
      · simp only [if_neg htime]
        refine ⟨h.t35_eq, hticks, .ending hcall hfits (.inl ⟨_, rfl⟩) ?_⟩
        simp only [callEnd]
        omega
  | process =>
      rw [takeAction, yields_leave]
      have ht35 := t35Us_framerStep s.framer ⟨now, .process⟩
      cases hframe : (s.framer.process now).1 with
      | none => exact hon ht35 rfl rfl .look (by omega)
      | some data => exact hon ht35 rfl rfl .callback (by omega)
  | callback =>
      rw [takeAction, rs485ModbusRxCallback, modbusMasterRtuIsWaiting, if_pos haw.waiting,
        yields_leave]
      exact hon rfl rfl (waiting_modbusMasterRtuOnFrame _ _) .look (by omega)
  | look =>
      rw [takeAction, yields_ite, yields_leave, yields_leave]
      split_ifs
      · refine ⟨h.t35_eq, hticks, .ending hcall hfits (.inr ⟨_, rfl⟩) ?_⟩
        simp only [callEnd]
        omega
      · exact hon rfl rfl rfl .wait (by omega)

/-- A step of the main thread keeps the call on schedule. -/
theorem onSchedule_takeAction (flat : cfg.Flat) {now : ℕ} (h : OnSchedule d t35 s clock)
    {action : PortAction} {rest : List PortAction} (htodo : s.todo = action :: rest)
    (hnow : clock.now ≤ now) (hprompt : now ≤ clock.stepped + d) (hearly : now ≤ clock.tickDue)
    (hwrap : d + t35 < 2 ^ 32) (halOk : Bool) :
    Yields (takeAction now halOk s rest action) s fun _ s' =>
      OnSchedule d t35 s' { clock with now := now, stepped := now } := by
  have hticks : clock.tickDue ≤ now + 1000 := h.tickDue_le.trans (Nat.add_le_add_right hnow 1000)
  cases h.pace with
  | idle hnil => cases htodo.symm.trans hnil
  | straight hcall hbounded hdue =>
      rw [htodo] at hbounded hdue
      obtain ⟨haction, hrest⟩ := List.forall_mem_cons.mp hbounded
      apply (staysDue_step flat h.t35_eq htodo haction hdue hnow hprompt hwrap halOk).mono
      rintro _ s' ⟨ht35, first, hfirst, hbounded', hdue'⟩
      refine ⟨ht35 ▸ h.t35_eq, hticks, .straight hcall ?_ hdue'⟩
      rw [hfirst]
      exact List.forall_mem_append.mpr ⟨hbounded', hrest⟩
  | @sending call before hcall hfits hsplit hbounded hdue =>
      rcases before with - | ⟨a, before⟩
      · obtain ⟨rfl, rfl⟩ := List.cons.inj (htodo.symm.trans hsplit)
        have hdue := hdue.stepped_le (htodo ▸ List.cons_ne_nil _ _)
        rw [takeAction, yields_leave]
        have hending : ∀ status, Pace d t35
            { s with todo := [.masterEnd status] } { clock with now := now, stepped := now } := by
          intro status
          refine .ending hcall hfits (.inl ⟨status, rfl⟩) ?_
          simp only [callEnd]
          omega
        refine ⟨h.t35_eq, hticks, ?_⟩
        unfold masterSentActions
        split_ifs
        · exact hending .error
        · exact hending .ok
        · exact .receiving hcall hfits rfl (by simp only; omega)
      · obtain ⟨rfl, rfl⟩ := List.cons.inj (htodo.symm.trans hsplit)
        obtain ⟨haction, hrest⟩ := List.forall_mem_cons.mp hbounded
        rw [htodo] at hdue
        apply (staysDue_step flat h.t35_eq htodo haction hdue hnow hprompt hwrap halOk).mono
        rintro _ s' ⟨ht35, first, hfirst, hbounded', hdue'⟩
        exact ⟨ht35 ▸ h.t35_eq, hticks, .sending hcall hfits
          (hfirst.trans (List.append_assoc _ _ _).symm)
          (List.forall_mem_append.mpr ⟨hbounded', hrest⟩) hdue'⟩
  | receiving hcall hfits hsplit hdue =>
      obtain ⟨rfl, rfl⟩ := List.cons.inj (htodo.symm.trans hsplit)
      rw [takeAction, yields_leave]
      have hstarted : clock.tickDue = clock.tickDue + 1000 * 0 := rfl
      refine ⟨h.t35_eq, hticks, .awaiting hcall hfits
        ⟨BitVec.sub_self _, by decide, hstarted, ?_, byte_one_ne_zero⟩ .wait ?_⟩
      · simp only
        omega
      · simp only
        omega
  | awaiting hcall hfits haw hstage hdue =>
      rw [htodo] at hstage
      exact onSchedule_awaiting h hnow hprompt hearly hcall hfits haw hstage hdue halOk
  | ending hcall hfits hsplit hdue =>
      rcases hsplit with ⟨status, hsplit⟩ | ⟨frame, hsplit⟩
      · obtain ⟨rfl, rfl⟩ := List.cons.inj (htodo.symm.trans hsplit)
        rw [takeAction, yields_leave]
        exact ⟨h.t35_eq, hticks, .idle rfl⟩
      · obtain ⟨rfl, rfl⟩ := List.cons.inj (htodo.symm.trans hsplit)
        rw [takeAction, yields_masterFrameStep hfits.request]
        exact ⟨h.t35_eq, hticks, .idle rfl⟩

/-- What happens at the port in time keeps the call on schedule. -/
theorem yields_portStep_onSchedule (flat : cfg.Flat) (hwrap : d + t35 < 2 ^ 32)
    (h : OnSchedule d t35 s clock) (hscheduled : Scheduled d (s, clock) event [] (s, clock)) :
    Yields (portStep event) s fun outs s' => OnSchedule d t35 s' (clock.note event outs) := by
  obtain ⟨hnow, hprompt, hearly, honTime, hroom⟩ := hscheduled
  dsimp only at hnow hprompt hearly honTime
  have hticks : clock.tickDue ≤ event.now + 1000 :=
    h.tickDue_le.trans (Nat.add_le_add_right hnow 1000)
  rw [portStep, yields_bind, yields_get]
  cases hop : event.op with
  | byte b =>
      simp only [yields_leave, CallClock.note, hop]
      refine ⟨?_, hticks, ?_⟩
      · have ht35 := t35Us_framerStep s.framer ⟨event.now, .byte b⟩
        exact (congrArg BitVec.toNat ht35).trans h.t35_eq
      · exact h.pace.interrupted _ _ hnow
  | overrun =>
      rw [yields_bind, yields_onSlave_charOverrun, yields_pure]
      simp only [CallClock.note, hop]
      exact ⟨h.t35_eq, hticks, h.pace.interrupted _ _ hnow⟩
  | systick =>
      have hdue := honTime hop
      simp only [yields_leave, CallClock.note, hop]
      refine ⟨?_, ?_, ?_⟩
      · have ht35 := t35Us_framerStep s.framer ⟨event.now, .systick⟩
        exact (congrArg BitVec.toNat ht35).trans h.t35_eq
      · simp only
        omega
      · rw [hdue] at hnow hprompt ⊢
        exact h.pace.ticked _ hnow hprompt
  | rs232 rx =>
      rw [yields_bind]
      apply yields_onSlave_modbusRtuProcess flat
      simp only [yields_pure, CallClock.note, hop]
      exact ⟨h.t35_eq, hticks, h.pace.interrupted _ _ hnow⟩
  | process =>
      dsimp only
      split
      · next htodo =>
          simp only [yields_leave, CallClock.note, hop, CallClock.begun, List.cons_ne_nil, if_false]
          refine ⟨h.t35_eq, hticks,
            .straight rfl (by simp [PortAction.Bounded]) (.moving (by simp) ?_)⟩
          simp only [remaining_cons, remaining_nil, duration]
          omega
      · simp only [yields_pure, CallClock.note, hop, CallClock.begun, if_true]
        exact ⟨h.t35_eq, hticks, h.pace.interrupted _ _ hnow⟩
  | transaction call =>
      dsimp only
      split
      · next htodo =>
          rw [yields_beginTransaction]
          split_ifs with hsize
          · have hreq : call.reqPdu ≠ [] := List.ne_nil_of_length_pos hsize.1
            rw [hop] at hroom
            simp only [CallClock.note, hop, CallClock.begun, List.cons_ne_nil, if_false]
            have hsplit (adu : List Byte) : transactionActions call adu =
                [PortAction.masterFlush, .masterDelayT35, .masterSend adu] ++
                  [PortAction.masterSent call] := rfl
            refine ⟨h.t35_eq, hticks, .sending rfl ⟨hreq, hroom⟩ (hsplit _)
              (by simp [PortAction.Bounded]) (.moving (by simp [transactionActions]) ?_)⟩
            simp only [transactionActions, remaining_cons, remaining_nil, duration]
            omega
          · simp only [CallClock.note, hop, CallClock.begun, List.cons_ne_nil, if_false]
            exact ⟨h.t35_eq, hticks, .idle htodo⟩
      · simp only [yields_pure, CallClock.note, hop, CallClock.begun, if_true]
        exact ⟨h.t35_eq, hticks, h.pace.interrupted _ _ hnow⟩
  | step halOk =>
      simp only [CallClock.note, hop]
      split
      · next htodo =>
          rw [yields_pure]
          exact ⟨h.t35_eq, hticks, .idle htodo⟩
      · next htodo =>
          have hprompt := hprompt (htodo ▸ List.cons_ne_nil _ _)
          exact onSchedule_takeAction flat h htodo hnow hprompt hearly hwrap halOk

end Step

/-! ## Runs -/

/-- If the ticks come on time and no call is held up for longer than `d`, every
call at the port returns within its bound. -/
theorem rs485Run_returns (rxBuffer completedBuffer : ℕ → Byte) (bufferSize : ℕ)
    (baudrate msTick : Dword) (slave : Slave boardConfig) (sysTick : Dword) {d : ℕ}
    (hd : d ≤ 2 ^ 31) {tickDue : ℕ} (htickDue : tickDue ≤ 1000) {events : List PortEvent}
    (hscheduled : EveryStep (timedPort boardConfig) (Scheduled d)
      (rs485Init rxBuffer completedBuffer bufferSize baudrate msTick slave sysTick, .start tickDue)
      events) :
    EveryStep (timedPort boardConfig) (InTime d (modbusRtuTimeoutsUs baudrate).2.toNat)
      (rs485Init rxBuffer completedBuffer bufferSize baudrate msTick slave sysTick, .start tickDue)
      events := by
  obtain ⟨-, -, hhigh⟩ := modbusRtuTimeoutsUs_bounds baudrate
  have hwrap : d + (modbusRtuTimeoutsUs baudrate).2.toNat < 2 ^ 32 := by omega
  refine EveryStep.of_invariant
    (I := fun s => OnSchedule d (modbusRtuTimeoutsUs baudrate).2.toNat s.1 s.2) ?_
    ⟨rfl, by simpa [CallClock.start] using htickDue, .idle rfl⟩ hscheduled
  rintro s event hs ⟨_, _, -, hstep⟩
  rw [timedPort, yields_watched]
  apply (yields_portStep_onSchedule Config.boardConfig_flat hwrap hs
    ⟨hstep.ordered, hstep.prompt, hstep.early, hstep.onTime, hstep.room⟩).mono
  intro outs s' hkept
  exact ⟨hkept, fun htodo => (hstep.prompt htodo).trans (hs.pace.inTime htodo)⟩

theorem rs485Run_returns_read :
    EveryStep (timedPort boardConfig) (InTime 1000 (modbusRtuTimeoutsUs 115200).2.toNat)
      (rs485Port115200.1, .start 1000) readEvents :=
  rs485Run_returns (fun _ => 0) (fun _ => 0) rtuFramerMaxFrame 115200 0
    (Slave.powerOn (SyncHooks.none boardConfig)) 0 (by decide) (by decide) (by decide +kernel)

end AutomationBoard.Board
