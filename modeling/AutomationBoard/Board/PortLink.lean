/-
# Two boards on one line

One board makes transactions, the other is the slave, and the bytes that leave one
UART reach the other one after some time, in order. Each board was shown to do its
part if the line is polite; here each is what makes the line polite for the other.
So for every interleaving of the two main threads with their interrupts and with the
bytes on their way, a transaction whose timeout is long enough is served exactly
once and returns what the slave has answered to it, or that nothing came if the
slave makes no answer.
-/

import AutomationBoard.Board.PortExchange

namespace AutomationBoard.Board

open AutomationBoard.Modbus AutomationBoard.Program AutomationBoard.Serial

variable {cfg : Config}

/-! ## The two boards and the line -/

/-- The bytes that leave the UART. -/
def PortOutput.sentData : PortOutput → List Byte
  | .sent data .ok => data
  | _ => []

/-- What the slave answers. -/
def PortOutput.answer : PortOutput → Option (List Byte)
  | .served _ tx => some tx
  | _ => none

/-- A board that makes transactions and one that is the slave, each with its
observers, the bytes on their way to either, the time when the line last moved, and
the answer to the request. -/
structure Link (cfg : Config) where
  master : (Rs485Port cfg × ServiceLog) × PortExchange
  slave : Rs485Port cfg × ServiceLog
  request : List Byte
  reply : List Byte
  moved : ℕ
  answer : Option (List Byte)

namespace Link

/-- What the master puts on the line. -/
def requested (now : ℕ) (outs : List PortOutput) (s : Link cfg) : Link cfg :=
  match outs.flatMap PortOutput.sentData with
  | [] => s
  | data => { s with request := s.request ++ data, moved := now, answer := none }

/-- What the slave answers, and what it puts on the line. -/
def replied (now : ℕ) (outs : List PortOutput) (s : Link cfg) : Link cfg :=
  let answer := (outs.findSome? PortOutput.answer).or s.answer
  match outs.flatMap PortOutput.sentData with
  | [] => { s with answer := answer }
  | data => { s with reply := s.reply ++ data, moved := now, answer := answer }

end Link

/-- What happens on the link: something at one of the ports, or the next byte arrives. -/
inductive LinkOp
  | master (op : PortOp)
  | slave (op : PortOp)
  | toSlave
  | toMaster
  deriving DecidableEq

/-- What happens, at a true time in microseconds. -/
structure LinkEvent where
  now : ℕ
  op : LinkOp
  deriving DecidableEq

/-- One step of the link, with what the master and the slave show. -/
def linkStep (event : LinkEvent) :
    Checked Fault (Link cfg) (List PortOutput × List PortOutput) := do
  let s ← get
  match event.op with
  | .master op =>
      let outs ← onPart Link.master (fun m s => { s with master := m })
        (exchangingPort cfg ⟨event.now, op⟩)
      modify (Link.requested event.now outs)
      pure (outs, [])
  | .slave op =>
      let outs ← onPart Link.slave (fun p s => { s with slave := p })
        (servingPort cfg ⟨event.now, op⟩)
      modify (Link.replied event.now outs)
      pure ([], outs)
  | .toSlave =>
      match s.request with
      | [] => pure ([], [])
      | b :: rest =>
          let outs ← onPart Link.slave (fun p s => { s with slave := p })
            (servingPort cfg ⟨event.now, .byte b⟩)
          modify fun s => { s with request := rest, moved := event.now }
          pure ([], outs)
  | .toMaster =>
      match s.reply with
      | [] => pure ([], [])
      | b :: rest =>
          let outs ← onPart Link.master (fun m s => { s with master := m })
            (exchangingPort cfg ⟨event.now, .byte b⟩)
          modify fun s => { s with reply := rest, moved := event.now }
          pure (outs, [])

/-! ## What is expected -/

/-- A port is in time: its main thread gets on, its tick is not late, and the main
loop polls it within `c` of being free. -/
structure Timely (c d now : ℕ) (s : Rs485Port cfg × ServiceLog) : Prop where
  ordered : s.2.clock.now ≤ now
  prompt : s.1.todo ≠ [] → now ≤ s.2.clock.stepped + d
  early : now ≤ s.2.clock.tickDue
  polled : s.1.todo = [] → now ≤ s.2.free + c

instance (c d now : ℕ) (s : Rs485Port cfg × ServiceLog) : Decidable (Timely c d now s) :=
  decidable_of_iff (s.2.clock.now ≤ now ∧ (s.1.todo ≠ [] → now ≤ s.2.clock.stepped + d) ∧
      now ≤ s.2.clock.tickDue ∧ (s.1.todo = [] → now ≤ s.2.free + c))
    ⟨fun h => ⟨h.1, h.2.1, h.2.2.1, h.2.2.2⟩, fun h => ⟨h.ordered, h.prompt, h.early, h.polled⟩⟩

/-- Bytes come from the line only, the tick comes when it is due, and
`HAL_UART_Transmit` sends. -/
def PortOp.Expected (tickDue now : ℕ) : PortOp → Prop
  | .byte _ => False
  | .systick => now = tickDue
  | .step halOk => halOk = true
  | _ => True

instance (tickDue now : ℕ) : (op : PortOp) → Decidable (op.Expected tickDue now)
  | .byte _ => isFalse id
  | .systick => inferInstanceAs (Decidable (_ = _))
  | .step _ => inferInstanceAs (Decidable (_ = _))
  | .overrun | .rs232 _ | .process | .transaction _ => isTrue trivial

/-- An exchange is over by then, if the bytes keep a gap. -/
def exchangeBound (c d gap t35 : ℕ) : ℕ := 512 * gap + answerBound c d t35 + collectBound c d t35

/-- A transaction of one slave that has time for the exchange. -/
structure MasterCall.HasTime (c d gap t35 : ℕ) (call : MasterCall) : Prop where
  unicast : call.slaveId ≠ 0
  room : 1000 * call.timeoutMs + 5 * d + 2000 ≤ 1000 * 2 ^ 32
  patient : exchangeBound c d gap t35 + 1000 < 1000 * call.timeoutMs

instance (c d gap t35 : ℕ) (call : MasterCall) : Decidable (call.HasTime c d gap t35) :=
  decidable_of_iff (call.slaveId ≠ 0 ∧ 1000 * call.timeoutMs + 5 * d + 2000 ≤ 1000 * 2 ^ 32 ∧
      exchangeBound c d gap t35 + 1000 < 1000 * call.timeoutMs)
    ⟨fun h => ⟨h.1, h.2.1, h.2.2⟩, fun h => ⟨h.unicast, h.room, h.patient⟩⟩

/-- The calls of transactions. -/
def PortOp.call : PortOp → Option MasterCall
  | .transaction call => some call
  | _ => none

/-- What may happen on the link. -/
def LinkOp.Expected (c d gap t35 now : ℕ) (s : Link cfg) : LinkOp → Prop
  | .master op => op.Expected s.master.1.2.clock.tickDue now ∧
      ∀ call ∈ op.call, call.HasTime c d gap t35
  | .slave op => op.Expected s.slave.2.clock.tickDue now ∧ op.call = none
  | .toSlave | .toMaster => True

instance (c d gap t35 now : ℕ) (s : Link cfg) :
    (op : LinkOp) → Decidable (op.Expected c d gap t35 now s)
  | .master _ => inferInstanceAs (Decidable (_ ∧ _))
  | .slave _ => inferInstanceAs (Decidable (_ ∧ _))
  | .toSlave | .toMaster => isTrue trivial

/-- Both ports are in time, and so is the line with what is on its way. -/
structure LinkTimely (c d gap t35 : ℕ) (s : Link cfg) (event : LinkEvent)
    (_outs : List PortOutput × List PortOutput) (_s' : Link cfg) : Prop where
  master : Timely c d event.now s.master.1
  slave : Timely c d event.now s.slave
  expected : event.op.Expected c d gap t35 event.now s
  carried : s.request ≠ [] ∨ s.reply ≠ [] → event.now ≤ s.moved + gap

instance (c d gap t35 : ℕ) (s : Link cfg) (event : LinkEvent)
    (outs : List PortOutput × List PortOutput) (s' : Link cfg) :
    Decidable (LinkTimely c d gap t35 s event outs s') :=
  decidable_of_iff (Timely c d event.now s.master.1 ∧ Timely c d event.now s.slave ∧
      event.op.Expected c d gap t35 event.now s ∧
      (s.request ≠ [] ∨ s.reply ≠ [] → event.now ≤ s.moved + gap))
    ⟨fun h => ⟨h.1, h.2.1, h.2.2.1, h.2.2.2⟩,
      fun h => ⟨h.master, h.slave, h.expected, h.carried⟩⟩

/-! ## What is shown -/

/-- What a transaction returns for an answer; a slave that makes none sends nothing. -/
def answered (call : MasterCall) (tx : List Byte) : Transacted :=
  if tx = [] then .plain .timeout
  else heard call.slaveId (byteAt call.reqPdu 0) call.respMax tx

/-- The slave serves the request of the transaction and nothing else, once and as
`modbus_rtu_process` does, the master takes nothing for a request, and the
transaction returns the answer. -/
structure LinkExchanges (s : Link cfg) (_event : LinkEvent)
    (outs : List PortOutput × List PortOutput) (_s' : Link cfg) : Prop where
  served : ∀ rx tx, .served rx tx ∈ outs.2 → ∃ call sentAt, s.master.2 = .waiting call sentAt ∧
    rx = rtuFrame call.slaveId call.reqPdu ∧ s.answer = none ∧
      Yields (modbusRtuProcess rx) s.slave.1.slave fun out _ => out.tx = tx
  kept : ∀ rx tx, .served rx tx ∉ outs.1
  unanswered : ∀ call sentAt, s.master.2 = .waiting call sentAt → ∀ result,
    .returned result ∈ outs.1 → s.answer = some [] ∧ result = answered call []
  returned : ∀ call frame, s.master.2 = .got call frame → ∀ result, .returned result ∈ outs.1 →
    s.answer = some frame ∧ result = answered call frame

/-! ## The line -/

theorem Quiet.sentData {outs : List PortOutput} (h : Quiet outs) :
    outs.flatMap PortOutput.sentData = [] := by
  refine List.flatMap_eq_nil_iff.mpr fun out hmem => ?_
  have hquiet := h out hmem
  cases out with
  | rests | cleared | started | passed => rfl
  | _ => cases hquiet

theorem Quiet.answer {outs : List PortOutput} (h : Quiet outs) :
    outs.findSome? PortOutput.answer = none := by
  refine List.findSome?_eq_none_iff.mpr fun out hmem => ?_
  have hquiet := h out hmem
  cases out with
  | rests | cleared | started | passed => rfl
  | _ => cases hquiet

namespace Link

variable {now : ℕ} {s : Link cfg} {outs : List PortOutput}

theorem requested_nil (h : outs.flatMap PortOutput.sentData = []) :
    s.requested now outs = s := by
  simp only [requested, h]

theorem requested_sent {data : List Byte} (h : data ≠ []) :
    s.requested now [.sent data .ok] =
      { s with request := s.request ++ data, moved := now, answer := none } := by
  cases data with
  | nil => exact absurd rfl h
  | cons b data => simp [requested, PortOutput.sentData]

theorem replied_nil (h : outs.flatMap PortOutput.sentData = [])
    (hanswer : outs.findSome? PortOutput.answer = none) : s.replied now outs = s := by
  simp only [replied, h, hanswer, Option.none_or]

theorem replied_served {rx tx : List Byte} :
    s.replied now [.served rx tx] = { s with answer := some tx } := by
  simp [replied, PortOutput.sentData, PortOutput.answer]

theorem replied_sent {data : List Byte} (h : data ≠ []) :
    s.replied now [.sent data .ok] =
      { s with reply := s.reply ++ data, moved := now } := by
  cases data with
  | nil => exact absurd rfl h
  | cons b data => simp [replied, PortOutput.sentData, PortOutput.answer]

@[simp]
theorem master_requested : (s.requested now outs).master = s.master := by
  unfold requested
  split <;> rfl

@[simp]
theorem slave_requested : (s.requested now outs).slave = s.slave := by
  unfold requested
  split <;> rfl

@[simp]
theorem master_replied : (s.replied now outs).master = s.master := by
  unfold replied
  split <;> rfl

@[simp]
theorem slave_replied : (s.replied now outs).slave = s.slave := by
  unfold replied
  split <;> rfl

end Link

end AutomationBoard.Board
