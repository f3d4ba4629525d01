/-
# What arrives whole is served

The engine keeps one block at a time, and a pause or the beginning of a
transmission discards it. The other side of the line is polite if it begins a
block only while the port listens, keeps its bytes together, and begins the next
one only when the last one has been collected. If the main loop comes back to the
port in time, then every block of a polite line is collected once and whole, by the
slave or by the master, within T3.5, a tick and a few steps of the main thread;
and a request that the slave answers is answered within another T3.5 and a few
more steps.
-/

import AutomationBoard.Board.PortProgress
import AutomationBoard.Serial.Reception

namespace AutomationBoard.Board

open AutomationBoard.Modbus AutomationBoard.Program AutomationBoard.Serial

variable {cfg : Config}

/-! ## What is expected of the line and of the main loop -/

/-- What the main thread does next will not discard what is received: it is free or
polls the port, or has sent the request of a transaction. -/
def receptive : List PortAction → Bool
  | [] | [.process] | [.rxEnable] | [.rxEnable, .rxEnable] => true
  | [.masterSent _] | [.rxEnable, .masterSent _] | [.rxEnable, .rxEnable, .masterSent _] => true
  | [.masterRecv _] | [.masterWait ..] | [.process, .masterLook ..] | [.masterLook ..] => true
  | [.masterFrame ..] | [.masterEnd _] => true
  | _ => false

/-- A frame is given to the slave. -/
def PortOutput.isServed : PortOutput → Bool
  | .served .. => true
  | _ => false

/-- A frame is collected. -/
def PortOutput.isCollected : PortOutput → Bool
  | .served .. | .handed _ => true
  | _ => false

/-- What an observer of the service keeps: the clock of the calls, what happened at
the port, when the main thread was last set free, the block on its way with the
time of its last byte, and that time for the last request of the slave. -/
structure ServiceLog where
  clock : CallClock
  port : PortLog
  free : ℕ
  block : Option (List Byte × ℕ)
  served : Option ℕ

namespace ServiceLog

/-- Nothing has been seen. -/
def start (tickDue : ℕ) : ServiceLog := ⟨.start tickDue, .start, 0, none, none⟩

/-- The block on its way after a step. -/
def blockAfter (log : ServiceLog) (event : PortEvent) (outs : List PortOutput) :
    Option (List Byte × ℕ) :=
  match event.op with
  | .byte b => some ((log.block.elim [] Prod.fst) ++ [b], event.now)
  | _ => if outs.any PortOutput.isCollected then none else log.block

/-- A step, noted. -/
def note (log : ServiceLog) (s : Rs485Port cfg) (event : PortEvent) (outs : List PortOutput)
    (s' : Rs485Port cfg) : ServiceLog where
  clock := log.clock.note event outs
  port := log.port.note event outs
  free := if s.todo ≠ [] ∧ s'.todo = [] then event.now else log.free
  block := log.blockAfter event outs
  served := if outs.any PortOutput.isServed then log.block.map Prod.snd else log.served

end ServiceLog

/-- The port with an observer of its service beside it. -/
def servingPort (cfg : Config) : PortEvent → Checked Fault (Rs485Port cfg × ServiceLog)
    (List PortOutput) := observed ServiceLog.note portStep

/-- A byte opens a block while the port listens, or goes on with it in time, and no
transaction begins while a block is on its way. -/
def PortOp.Polite (t15 size now : ℕ) (todo : List PortAction) (block : Option (List Byte × ℕ)) :
    PortOp → Prop
  | .byte _ => match block with
    | none => receptive todo = true
    | some (bytes, last) => now ≤ last + t15 ∧ bytes.length < size
  | .transaction _ => todo = [] → block = none
  | _ => True

instance (t15 size now : ℕ) (todo : List PortAction) (block : Option (List Byte × ℕ)) :
    (op : PortOp) → Decidable (op.Polite t15 size now todo block)
  | .byte _ => match block with
    | none => inferInstanceAs (Decidable (_ = true))
    | some _ => inferInstanceAs (Decidable (_ ∧ _))
  | .transaction _ => inferInstanceAs (Decidable (_ → _))
  | .overrun | .systick | .rs232 _ | .process | .step _ => isTrue trivial

/-- The main thread gets on and the ticks come on time, the main loop polls the port
within `c` of being free, and the line is polite. -/
structure Polite (c d t15 size : ℕ) (s : Rs485Port cfg × ServiceLog) (event : PortEvent)
    (_outs : List PortOutput) (_s' : Rs485Port cfg × ServiceLog) : Prop where
  scheduled : Scheduled d (s.1, s.2.clock) event [] (s.1, s.2.clock)
  polled : s.1.todo = [] → event.now ≤ s.2.free + c
  line : event.op.Polite t15 size event.now s.1.todo s.2.block

instance (c d t15 size : ℕ) (s : Rs485Port cfg × ServiceLog) (event : PortEvent)
    (outs : List PortOutput) (s' : Rs485Port cfg × ServiceLog) :
    Decidable (Polite c d t15 size s event outs s') :=
  decidable_of_iff (Scheduled d (s.1, s.2.clock) event [] (s.1, s.2.clock) ∧
      (s.1.todo = [] → event.now ≤ s.2.free + c) ∧
      event.op.Polite t15 size event.now s.1.todo s.2.block)
    ⟨fun h => ⟨h.1, h.2.1, h.2.2⟩, fun h => ⟨h.scheduled, h.polled, h.line⟩⟩

/-! ## What the port does about it -/

/-- A block is collected by then. -/
def collectBound (c d t35 : ℕ) : ℕ := t35 + 1000 + c + 8 * d

/-- A request is answered by then. -/
def answerBound (c d t35 : ℕ) : ℕ := 2 * t35 + 1000 + c + 18 * d

/-- A block that is on its way has not been so for too long. What is collected is
the block that came; the slave answers it as it would alone, and an answer that is
due, outside a transaction, has not been so for too long. -/
structure Serves (c d t35 : ℕ) (s : Rs485Port cfg × ServiceLog) (event : PortEvent)
    (outs : List PortOutput) (_s' : Rs485Port cfg × ServiceLog) : Prop where
  collected : ∀ block ∈ s.2.block, event.now ≤ block.2 + collectBound c d t35
  handed : ∀ rx, .handed rx ∈ outs → ∃ last, s.2.block = some (rx, last)
  served : ∀ rx tx, .served rx tx ∈ outs → (∃ last, s.2.block = some (rx, last)) ∧
    Yields (modbusRtuProcess rx) s.1.slave fun out _ => out.tx = tx
  answered : s.2.clock.call = none → s.2.port.transmitted ≠ s.2.port.due →
    ∃ last ∈ s.2.served, event.now ≤ last + answerBound c d t35

/-! ## Listening -/

/-- The main thread looks for a frame next, within some time of its last step, or of
being free. -/
inductive Listens (c d : ℕ) : ℕ → List PortAction → Prop
  | free : Listens c d (c + d) []
  | polling : Listens c d d [.process]
  | looping {call : MasterCall} {start : Dword} :
      Listens c d d [.process, .masterLook call start]
  | ending {status : ModbusStatus} : Listens c d (c + 2 * d) [.masterEnd status]
  | framed {call : MasterCall} {frame : List Byte} :
      Listens c d (c + 2 * d) [.masterFrame call frame]
  | waiting {call : MasterCall} {start : Dword} :
      Listens c d (c + 3 * d) [.masterWait call start]
  | looking {call : MasterCall} {start : Dword} :
      Listens c d (c + 4 * d) [.masterLook call start]
  | receiving {call : MasterCall} : Listens c d (c + 4 * d) [.masterRecv call]
  | sent {call : MasterCall} : Listens c d (c + 5 * d) [.masterSent call]
  | rxEnable {patience : ℕ} {rest : List PortAction} (h : Listens c d patience rest) :
      Listens c d (patience + d) (.rxEnable :: rest)

theorem Listens.le {c d patience : ℕ} {todo : List PortAction} (h : Listens c d patience todo) :
    d ≤ patience := by
  induction h with
  | rxEnable => exact Nat.le_add_left _ _
  | _ => omega

/-- No frame is about to be given away. -/
theorem Listens.callback_not_mem {c d patience : ℕ} {todo : List PortAction}
    (h : Listens c d patience todo) (data : List Byte) : .callback data ∉ todo := by
  induction h with
  | rxEnable h ih => simpa using ih
  | _ => simp

theorem listens_of_receptive (c d : ℕ) {todo : List PortAction} (h : receptive todo = true) :
    ∃ patience ≤ c + 7 * d, Listens c d patience todo := by
  unfold receptive at h
  split at h
  · exact ⟨_, by omega, .free⟩
  · exact ⟨_, by omega, .polling⟩
  · exact ⟨_, by omega, .rxEnable .free⟩
  · exact ⟨_, by omega, .rxEnable (.rxEnable .free)⟩
  · exact ⟨_, by omega, .sent⟩
  · exact ⟨_, by omega, .rxEnable .sent⟩
  · exact ⟨_, by omega, .rxEnable (.rxEnable .sent)⟩
  · exact ⟨_, by omega, .receiving⟩
  · exact ⟨_, by omega, .waiting⟩
  · exact ⟨_, by omega, .looping⟩
  · exact ⟨_, by omega, .looking⟩
  · exact ⟨_, by omega, .framed⟩
  · exact ⟨_, by omega, .ending⟩
  · cases h

/-- A transaction that looks at a frame has a request. -/
def HasRequest (todo : List PortAction) : Prop :=
  ∀ call frame, todo.head? = some (.masterFrame call frame) → call.reqPdu ≠ []

theorem InOrderAt.hasRequest {t35 now : ℕ} {s : Rs485Port cfg} {log : PortLog}
    (h : InOrderAt t35 now s log) : HasRequest s.todo := by
  intro call frame hhead
  have hunderway := h.underway
  obtain ⟨rest, htodo⟩ := List.head?_eq_some_iff.mp hhead
  rw [htodo] at hunderway
  cases hunderway with
  | planned hplan => exact hplan.2.2.1

section Step

variable {c d now : ℕ} {s : Rs485Port cfg} {halOk : Bool} {action : PortAction}
  {rest : List PortAction}

/-- What the action does with the engine. -/
def framerAfter (now : ℕ) (f : RtuFramer) : PortAction → RtuFramer
  | .process => (f.process now).2
  | .flushRx => f.flush
  | .delayT35 => f.delayT35
  | .txBegin => f.txBegin
  | _ => f

/-- Apart from the callback, an action does to the engine what it is for, gives no
frame away, and brings nothing that is to be sent. -/
theorem yields_takeAction_framer (now : ℕ) (halOk : Bool) (htodo : s.todo = action :: rest)
    (hcallback : ∀ data, action ≠ .callback data) (hrequest : HasRequest (action :: rest)) :
    Yields (takeAction now halOk s rest action) s fun outs s' =>
      s'.framer = framerAfter now s.framer action ∧ outs.any PortOutput.isCollected = false ∧
        (owed s.todo = [] → owed s'.todo = []) := by
  rw [htodo]
  cases action with
  | callback data => exact absurd rfl (hcallback data)
  | process =>
      rw [takeAction, yields_leave]
      refine ⟨rfl, rfl, ?_⟩
      cases (s.framer.process now).1 <;> exact id
  | spin start =>
      rw [takeAction, yields_ite, yields_leave, yields_leave]
      split_ifs
      · exact ⟨rfl, rfl, fun h => htodo ▸ h⟩
      · exact ⟨rfl, rfl, id⟩
  | send data =>
      rw [takeAction, yields_leave, rs485Send]
      split_ifs <;> exact ⟨rfl, rfl, fun h => absurd h (List.cons_ne_nil _ _)⟩
  | masterSend adu =>
      rw [takeAction, yields_ite, yields_leave, yields_leave]
      split_ifs <;> exact ⟨rfl, rfl, fun h => absurd h (List.cons_ne_nil _ _)⟩
  | masterSent call =>
      rw [takeAction, yields_leave, masterSentActions]
      split_ifs <;> exact ⟨rfl, rfl, id⟩
  | masterWait call start =>
      rw [takeAction, yields_leave]
      split_ifs <;> exact ⟨rfl, rfl, id⟩
  | masterLook call start =>
      rw [takeAction, yields_ite, yields_leave, yields_leave]
      split_ifs <;> exact ⟨rfl, rfl, id⟩
  | masterFrame call frame =>
      rw [takeAction, yields_masterFrameStep (hrequest call frame rfl)]
      exact ⟨rfl, rfl, id⟩
  | transmit data =>
      rw [takeAction, yields_leave]
      exact ⟨rfl, rfl, fun h => absurd h (List.cons_ne_nil _ _)⟩
  | flushRx | delayT35 | txEnable | rxEnable | txBegin | masterFlush | masterDelayT35
  | masterRecv | masterEnd =>
      rw [takeAction, yields_leave]
      exact ⟨rfl, rfl, id⟩

/-- Without a poll, the main thread comes closer to one. -/
theorem yields_takeAction_listens {patience : ℕ} (h : Listens c d patience (action :: rest))
    (hpolls : action ≠ .process) (hrequest : HasRequest (action :: rest)) :
    Yields (takeAction now halOk s rest action) s fun _ s' =>
      ∃ patience', Listens c d patience' s'.todo ∧ patience' + d ≤ patience := by
  cases h with
  | polling | looping => exact absurd rfl hpolls
  | ending =>
      rw [takeAction, yields_leave]
      exact ⟨_, .free, by omega⟩
  | @framed call frame =>
      rw [takeAction, yields_masterFrameStep (hrequest call frame rfl)]
      exact ⟨_, .free, by omega⟩
  | waiting =>
      rw [takeAction, yields_leave]
      split_ifs
      · exact ⟨_, .looping, by omega⟩
      · exact ⟨_, .ending, by omega⟩
  | looking =>
      rw [takeAction, yields_ite, yields_leave, yields_leave]
      split_ifs
      · exact ⟨_, .framed, by omega⟩
      · exact ⟨_, .waiting, by omega⟩
  | receiving =>
      rw [takeAction, yields_leave]
      exact ⟨_, .waiting, by omega⟩
  | sent =>
      rw [takeAction, yields_leave, masterSentActions]
      split_ifs
      · exact ⟨_, .ending, by omega⟩
      · exact ⟨_, .ending, by omega⟩
      · exact ⟨_, .receiving, by omega⟩
  | rxEnable hrest =>
      rw [takeAction, yields_leave]
      exact ⟨_, hrest, le_rfl⟩

/-- With nothing received and no frame to give away it stays so. -/
theorem yields_takeAction_empty (htodo : s.todo = action :: rest) (hempty : Empty s.framer)
    (hnone : ∀ data, .callback data ∉ s.todo) (hrequest : HasRequest (action :: rest)) :
    Yields (takeAction now halOk s rest action) s fun _ s' =>
      Empty s'.framer ∧ ∀ data, .callback data ∉ s'.todo := by
  have hsame := hnone
  rw [htodo] at hnone
  have hrest : ∀ data, .callback data ∉ rest := fun data hmem =>
    hnone data (List.mem_cons_of_mem _ hmem)
  cases action with
  | callback data => exact absurd List.mem_cons_self (hnone data)
  | process =>
      rw [takeAction, yields_leave, hempty.process_eq]
      exact ⟨hempty, hrest⟩
  | spin start =>
      rw [takeAction, yields_ite, yields_leave, yields_leave]
      split_ifs
      · exact ⟨hempty, hsame⟩
      · exact ⟨hempty, hrest⟩
  | send data =>
      rw [takeAction, yields_leave, rs485Send]
      split_ifs
      · exact ⟨hempty, hrest⟩
      · exact ⟨hempty, by simpa using hrest⟩
  | masterSend adu =>
      rw [takeAction, yields_ite, yields_leave, yields_leave]
      split_ifs
      · exact ⟨hempty, hrest⟩
      · exact ⟨hempty, by simpa using hrest⟩
  | masterSent call =>
      rw [takeAction, yields_leave, masterSentActions]
      split_ifs <;> exact ⟨hempty, by simpa using hrest⟩
  | masterWait call start =>
      rw [takeAction, yields_leave]
      split_ifs <;> exact ⟨hempty, by simpa using hrest⟩
  | masterLook call start =>
      rw [takeAction, yields_ite, yields_leave, yields_leave]
      split_ifs <;> exact ⟨hempty, by simpa using hrest⟩
  | masterFrame call frame =>
      rw [takeAction, yields_masterFrameStep (hrequest call frame rfl)]
      exact ⟨hempty, hrest⟩
  | flushRx | txBegin =>
      rw [takeAction, yields_leave]
      exact ⟨⟨rfl, rfl⟩, hrest⟩
  | delayT35 =>
      rw [takeAction, yields_leave]
      exact ⟨⟨hempty.state, hempty.unready⟩, by simpa using hrest⟩
  | masterFlush | masterDelayT35 | masterRecv =>
      rw [takeAction, yields_leave]
      exact ⟨hempty, by simpa using hrest⟩
  | txEnable | rxEnable | transmit | masterEnd =>
      rw [takeAction, yields_leave]
      exact ⟨hempty, hrest⟩

theorem engine_framerAfter {settings : Dword × Dword × ℕ} {f : RtuFramer}
    (h : Engine settings f) (now : ℕ) (action : PortAction) :
    Engine settings (framerAfter now f action) := by
  cases action with
  | process => exact h.step ⟨now, .process⟩ (by simp)
  | flushRx => exact h.step ⟨now, .flush⟩ (by simp)
  | delayT35 => exact h.step ⟨now, .delayT35⟩ (by simp)
  | txBegin => exact h.step ⟨now, .txBegin⟩ (by simp)
  | _ => exact h

end Step

/-! ## The invariant -/

/-- The time for collecting is counted from here. -/
def ServiceLog.basis (log : ServiceLog) (s : Rs485Port cfg) : ℕ :=
  if s.todo = [] then log.free else log.clock.stepped

/-- Where the reception of a block is. -/
inductive Reception (c d t35 : ℕ) (s : Rs485Port cfg) (log : ServiceLog) : Prop
  | quiet (hblock : log.block = none) (hempty : Empty s.framer)
      (hnone : ∀ data, .callback data ∉ s.todo)
  | arriving {bytes : List Byte} {last patience : ℕ} (hblock : log.block = some (bytes, last))
      (h : Assembling bytes last s.framer) (hlast : last ≤ log.clock.now)
      (htick : log.clock.tickDue ≤ last + t35 + 1000) (hlistens : Listens c d patience s.todo)
      (hpatience : patience ≤ c + 7 * d)
  | complete {bytes : List Byte} {last patience : ℕ} (hblock : log.block = some (bytes, last))
      (h : Holding bytes s.framer) (hlast : last + t35 ≤ log.clock.now)
      (hlistens : Listens c d patience s.todo)
      (hdue : log.basis s + patience ≤ last + t35 + 1000 + c + 7 * d)
  | delivered {bytes : List Byte} {last : ℕ} {rest : List PortAction}
      (hblock : log.block = some (bytes, last)) (hempty : Empty s.framer)
      (hlast : last + t35 ≤ log.clock.now) (htodo : s.todo = .callback bytes :: rest)
      (hrest : rest = [] ∨ ∃ call start, rest = [.masterLook call start])
      (hdue : log.clock.stepped ≤ last + t35 + 1000 + c + 7 * d)

/-- What is owed outside a transaction is the answer to the last request, in a call
that began soon after it. -/
def AnswerDue (c d t35 : ℕ) (s : Rs485Port cfg) (log : ServiceLog) : Prop :=
  log.clock.call = none → owed s.todo ≠ [] →
    ∃ last ∈ log.served, log.clock.began ≤ last + t35 + 1000 + c + 7 * d

/-- What holds of the port and the observer between steps. -/
structure InService (c d : ℕ) (settings : Dword × Dword × ℕ) (s : Rs485Port cfg)
    (log : ServiceLog) : Prop where
  engine : Engine settings s.framer
  turn : InOrderAt settings.2.1.toNat log.clock.now s log.port
  schedule : OnSchedule d settings.2.1.toNat s log.clock
  free_le : log.free ≤ log.clock.now
  stepped_le : log.clock.stepped ≤ log.clock.now
  began_le : log.clock.began ≤ log.clock.stepped
  reception : Reception c d settings.2.1.toNat s log
  answer : AnswerDue c d settings.2.1.toNat s log

section Service

variable {c d : ℕ} {settings : Dword × Dword × ℕ} {s : Rs485Port cfg} {log : ServiceLog}
  {event : PortEvent}

/-- A block that is on its way has not been so for too long. -/
theorem Reception.collected_le {t35 : ℕ} (h : Reception c d t35 s log)
    (hpolled : s.todo = [] → event.now ≤ log.free + c)
    (hscheduled : Scheduled d (s, log.clock) event [] (s, log.clock)) :
    ∀ block ∈ log.block, event.now ≤ block.2 + collectBound c d t35 := by
  obtain ⟨-, hprompt, hearly, -, -⟩ := hscheduled
  dsimp only at hprompt hearly
  unfold collectBound
  intro block hmem
  cases h with
  | quiet hblock =>
      rw [hblock] at hmem
      cases hmem
  | arriving hblock _ _ htick =>
      obtain rfl := Option.some.inj (hblock.symm.trans hmem)
      simp only
      omega
  | @complete bytes last patience hblock _ _ hlistens hdue =>
      obtain rfl := Option.some.inj (hblock.symm.trans hmem)
      have hle := hlistens.le
      unfold ServiceLog.basis at hdue
      split_ifs at hdue with hfree
      · have := hpolled hfree
        rw [hfree] at hlistens
        cases hlistens
        simp only
        omega
      · have := hprompt hfree
        simp only
        omega
  | delivered hblock _ _ htodo _ hdue =>
      obtain rfl := Option.some.inj (hblock.symm.trans hmem)
      have := hprompt (htodo ▸ List.cons_ne_nil _ _)
      simp only
      omega

/-- An answer that is due has not been so for too long. -/
theorem InService.answered_le (h : InService c d settings s log)
    (hprompt : s.todo ≠ [] → event.now ≤ log.clock.stepped + d) (hcall : log.clock.call = none)
    (hdue : log.port.transmitted ≠ log.port.due) :
    ∃ last ∈ log.served, event.now ≤ last + answerBound c d settings.2.1.toNat := by
  have howed : owed s.todo ≠ [] := by
    intro hnil
    rw [h.turn.due_eq, hnil, List.append_nil] at hdue
    exact hdue rfl
  have htodo : s.todo ≠ [] := fun hnil => howed (hnil ▸ rfl)
  obtain ⟨last, hlast, hbegan⟩ := h.answer hcall howed
  have hbound := h.schedule.pace.inTime htodo
  have := hprompt htodo
  rw [hcall, callBound] at hbound
  refine ⟨last, hlast, ?_⟩
  unfold answerBound
  omega

/-! ## One step of the main thread -/

/-- The invariant of the reception after a step, and what the step does with a block. -/
structure Received (c d : ℕ) (settings : Dword × Dword × ℕ) (s : Rs485Port cfg × ServiceLog)
    (event : PortEvent) (outs : List PortOutput) (s' : Rs485Port cfg) : Prop where
  engine : Engine settings s'.framer
  reception : Reception c d settings.2.1.toNat s' (s.2.note s.1 event outs s')
  answer : AnswerDue c d settings.2.1.toNat s' (s.2.note s.1 event outs s')
  handed : ∀ rx, .handed rx ∈ outs → ∃ last, s.2.block = some (rx, last)
  served : ∀ rx tx, .served rx tx ∈ outs → (∃ last, s.2.block = some (rx, last)) ∧
    Yields (modbusRtuProcess rx) s.1.slave fun out _ => out.tx = tx

theorem not_mem_of_uncollected {outs : List PortOutput}
    (h : outs.any PortOutput.isCollected = false) {out : PortOutput}
    (hout : out.isCollected = true) : out ∉ outs :=
  fun hmem => List.any_eq_false.mp h out hmem hout

theorem any_isServed_of_uncollected {outs : List PortOutput}
    (h : outs.any PortOutput.isCollected = false) : outs.any PortOutput.isServed = false := by
  refine List.any_eq_false.mpr fun out hmem => ?_
  have := List.any_eq_false.mp h out hmem
  cases out <;> simp_all [PortOutput.isServed, PortOutput.isCollected]

namespace ServiceLog

variable {s' : Rs485Port cfg} {outs : List PortOutput} {halOk : Bool}

theorem free_note (htodo : s'.todo = s.todo) : (log.note s event outs s').free = log.free :=
  if_neg fun h => h.1 (htodo ▸ h.2)

theorem clock_note_step (hop : event.op = .step halOk) :
    (log.note s event outs s').clock =
      { log.clock with now := event.now, stepped := event.now } := by
  simp only [note, CallClock.note, hop]

theorem block_note_step (hop : event.op = .step halOk)
    (h : outs.any PortOutput.isCollected = false) :
    (log.note s event outs s').block = log.block := by
  simp only [note, blockAfter, hop, h, Bool.false_eq_true, if_false]

theorem served_note (h : outs.any PortOutput.isCollected = false) :
    (log.note s event outs s').served = log.served := by
  simp only [note, any_isServed_of_uncollected h, Bool.false_eq_true, if_false]

theorem basis_note_step (hop : event.op = .step halOk) (htodo : s.todo ≠ []) :
    (log.note s event outs s').basis s' = event.now := by
  rw [basis, clock_note_step hop]
  split_ifs with hfree
  · exact if_pos ⟨htodo, hfree⟩
  · rfl

end ServiceLog

theorem AnswerDue.step {t35 : ℕ} {s' : Rs485Port cfg} {outs : List PortOutput} {halOk : Bool}
    (h : AnswerDue c d t35 s log) (hop : event.op = .step halOk)
    (hcollected : outs.any PortOutput.isCollected = false)
    (howed : owed s.todo = [] → owed s'.todo = []) :
    AnswerDue c d t35 s' (log.note s event outs s') := by
  rw [AnswerDue, ServiceLog.clock_note_step hop, ServiceLog.served_note hcollected]
  exact fun hcall hmore => h hcall fun hnil => hmore (howed hnil)

/-- A poll of the port takes the frame that waits, if any. -/
theorem reception_process {halOk : Bool} {rest : List PortAction}
    (h : InService c d settings s log) (hwrap : settings.2.1.toNat ≤ 38500000)
    (hop : event.op = .step halOk) (htodo : s.todo = .process :: rest)
    (hnow : log.clock.now ≤ event.now) (hprompt : event.now ≤ log.clock.stepped + d)
    (hearly : event.now ≤ log.clock.tickDue) :
    Yields (takeAction event.now halOk s rest .process) s fun outs s' =>
      Reception c d settings.2.1.toNat s' (log.note s event outs s') := by
  have hframer : s.framer.t35Us = settings.2.1 := congrArg (·.2.1) h.engine.settings
  have hpolls {patience : ℕ} (hlistens : Listens c d patience s.todo) :
      rest = [] ∨ ∃ call start, rest = [.masterLook call start] := by
    rw [htodo] at hlistens
    cases hlistens with
    | polling => exact .inl rfl
    | looping => exact .inr ⟨_, _, rfl⟩
  rw [takeAction, yields_leave]
  cases h.reception with
  | quiet hblock hempty hnone =>
      rw [hempty.process_eq]
      refine .quiet ((ServiceLog.block_note_step hop rfl).trans hblock) hempty fun data hmem => ?_
      exact hnone data (htodo ▸ List.mem_cons_of_mem _ hmem)
  | @arriving bytes last patience hblock hassembling hlast htick hlistens hpatience =>
      have hrest := hpolls hlistens
      by_cases hlate : last + s.framer.t35Us.toNat ≤ event.now
      · have hsoon : event.now - last < 2 ^ 32 := by omega
        obtain ⟨hcollected, hempty⟩ := hassembling.process_late h.engine.represented
          h.engine.callback hlate hsoon
        rw [hcollected]
        refine .delivered ((ServiceLog.block_note_step hop rfl).trans hblock) hempty ?_ rfl hrest ?_
        · rw [ServiceLog.clock_note_step hop, ← hframer]
          exact hlate
        · rw [ServiceLog.clock_note_step hop]
          simp only
          omega
      · rw [hassembling.process_early (hlast.trans hnow) (Nat.not_le.mp hlate)]
        have hlistens' : ∃ patience' ≤ c + 7 * d, Listens c d patience' rest := by
          rcases hrest with rfl | ⟨call, start, rfl⟩
          · exact ⟨_, by omega, .free⟩
          · exact ⟨_, by omega, .looking⟩
        obtain ⟨patience', hpatience', hlistens'⟩ := hlistens'
        refine .arriving ((ServiceLog.block_note_step hop rfl).trans hblock) hassembling ?_ ?_
          hlistens' hpatience'
        · rw [ServiceLog.clock_note_step hop]
          exact hlast.trans hnow
        · rw [ServiceLog.clock_note_step hop]
          exact htick
  | @complete bytes last patience hblock hholding hlast hlistens hdue =>
      have hrest := hpolls hlistens
      have hle := hlistens.le
      rw [hholding.process_eq h.engine.represented h.engine.callback]
      rw [ServiceLog.basis, if_neg (htodo ▸ List.cons_ne_nil _ _)] at hdue
      refine .delivered ((ServiceLog.block_note_step hop rfl).trans hblock) hholding.collected ?_
        rfl hrest ?_
      · rw [ServiceLog.clock_note_step hop]
        exact hlast.trans hnow
      · rw [ServiceLog.clock_note_step hop]
        simp only
        omega
  | delivered _ _ _ htodo' =>
      rw [htodo] at htodo'
      cases htodo'

/-- An action that is neither a poll nor the callback leaves the reception as it is. -/
theorem reception_takeAction {halOk : Bool} {action : PortAction} {rest : List PortAction}
    (h : InService c d settings s log) (hop : event.op = .step halOk)
    (htodo : s.todo = action :: rest) (hnow : log.clock.now ≤ event.now)
    (hprompt : event.now ≤ log.clock.stepped + d) (hprocess : action ≠ .process)
    (hcallback : ∀ data, action ≠ .callback data) :
    Yields (takeAction event.now halOk s rest action) s fun outs s' =>
      Reception c d settings.2.1.toNat s' (log.note s event outs s') := by
  have hrequest := htodo ▸ h.turn.hasRequest
  obtain ⟨outs, s', hrun, hframer, hcollected, -⟩ :=
    yields_takeAction_framer event.now halOk htodo hcallback hrequest
  refine ⟨outs, s', hrun, ?_⟩
  have hbusy : s.todo ≠ [] := htodo ▸ List.cons_ne_nil _ _
  have hlistening {patience : ℕ} (hlistens : Listens c d patience s.todo) :
      s'.framer = s.framer ∧
        ∃ patience', Listens c d patience' s'.todo ∧ patience' + d ≤ patience := by
    rw [htodo] at hlistens
    refine ⟨?_, (yields_takeAction_listens hlistens hprocess hrequest).of_run_eq hrun⟩
    rw [hframer]
    cases hlistens with
    | polling | looping => exact absurd rfl hprocess
    | _ => rfl
  cases h.reception with
  | quiet hblock hempty hnone =>
      obtain ⟨hempty', hnone'⟩ :=
        (yields_takeAction_empty htodo hempty hnone hrequest).of_run_eq hrun
      exact .quiet ((ServiceLog.block_note_step hop hcollected).trans hblock) hempty' hnone'
  | arriving hblock hassembling hlast htick hlistens hpatience =>
      obtain ⟨hsame, patience', hlistens', hcloser⟩ := hlistening hlistens
      refine .arriving ((ServiceLog.block_note_step hop hcollected).trans hblock)
        (hsame ▸ hassembling) ?_ ?_ hlistens' (by omega)
      · rw [ServiceLog.clock_note_step hop]
        exact hlast.trans hnow
      · rw [ServiceLog.clock_note_step hop]
        exact htick
  | complete hblock hholding hlast hlistens hdue =>
      obtain ⟨hsame, patience', hlistens', hcloser⟩ := hlistening hlistens
      rw [ServiceLog.basis, if_neg hbusy] at hdue
      refine .complete ((ServiceLog.block_note_step hop hcollected).trans hblock)
        (hsame ▸ hholding) ?_ hlistens' ?_
      · rw [ServiceLog.clock_note_step hop]
        exact hlast.trans hnow
      · rw [ServiceLog.basis_note_step hop hbusy]
        omega
  | delivered _ _ _ htodo' =>
      obtain ⟨rfl, -⟩ := List.cons.inj (htodo.symm.trans htodo')
      exact absurd rfl (hcallback _)

/-- The callback gives the block to the master or to the slave. -/
theorem received_callback (flat : cfg.Flat) {halOk : Bool} {data : List Byte}
    {rest : List PortAction} (h : InService c d settings s log) (hop : event.op = .step halOk)
    (htodo : s.todo = .callback data :: rest) :
    Yields (takeAction event.now halOk s rest (.callback data)) s fun outs s' =>
      Received c d settings (s, log) event outs s' := by
  have hcourse : ∃ last, log.block = some (data, last) ∧ Empty s.framer ∧
      (rest = [] ∨ ∃ call start, rest = [.masterLook call start]) ∧
        log.clock.stepped ≤ last + settings.2.1.toNat + 1000 + c + 7 * d := by
    have hmem : .callback data ∈ s.todo := htodo ▸ List.mem_cons_self
    cases h.reception with
    | quiet _ _ hnone => exact absurd hmem (hnone data)
    | arriving _ _ _ _ hlistens => exact absurd hmem (hlistens.callback_not_mem data)
    | complete _ _ _ hlistens => exact absurd hmem (hlistens.callback_not_mem data)
    | delivered hblock hempty _ htodo' hrest hdue =>
        obtain ⟨hdata, rfl⟩ := List.cons.inj (htodo.symm.trans htodo')
        obtain rfl := PortAction.callback.inj hdata
        exact ⟨_, hblock, hempty, hrest, hdue⟩
  obtain ⟨last, hblock, hempty, hrest, hdue⟩ := hcourse
  have hnone (data : List Byte) : .callback data ∉ rest := by
    rcases hrest with rfl | ⟨call, start, rfl⟩ <;> simp
  have howed : owed rest = [] := by
    rcases hrest with rfl | ⟨call, start, rfl⟩ <;> rfl
  rw [takeAction, rs485ModbusRxCallback, yields_ite]
  split_ifs
  · rw [yields_leave]
    refine ⟨h.engine, .quiet ?_ hempty hnone, ?_, ?_, by simp⟩
    · simp [ServiceLog.note, ServiceLog.blockAfter, hop, PortOutput.isCollected]
    · exact fun _ hmore => absurd howed hmore
    · rintro rx hmem
      obtain rfl : rx = data := by simpa using hmem
      exact ⟨last, hblock⟩
  · rw [yields_bind]
    apply yields_onSlave_modbusRtuProcess flat
    simp only [yields_bind, yields_modify, yields_pure]
    refine ⟨h.engine, .quiet ?_ hempty ?_, ?_, by simp, ?_⟩
    · simp [ServiceLog.note, ServiceLog.blockAfter, hop, PortOutput.isCollected]
    · unfold answerActions
      split_ifs <;> simpa using hnone
    · intro _ _
      refine ⟨last, by simp [ServiceLog.note, PortOutput.isServed, hblock], ?_⟩
      rw [ServiceLog.clock_note_step hop]
      exact h.began_le.trans hdue
    · intro rx tx hmem
      obtain ⟨rfl, rfl⟩ : rx = data ∧ tx = (slaveStep s.slave data).1.tx := by simpa using hmem
      refine ⟨⟨last, hblock⟩, (yields_modbusRtuProcess flat s.slave rx).mono ?_⟩
      intro out slave' hstep
      rw [← hstep]

/-- A step of the main thread keeps the reception in time. -/
theorem received_step (flat : cfg.Flat) {halOk : Bool} {action : PortAction}
    {rest : List PortAction} (h : InService c d settings s log)
    (hwrap : settings.2.1.toNat ≤ 38500000) (hop : event.op = .step halOk)
    (htodo : s.todo = action :: rest) (hnow : log.clock.now ≤ event.now)
    (hprompt : event.now ≤ log.clock.stepped + d) (hearly : event.now ≤ log.clock.tickDue) :
    Yields (takeAction event.now halOk s rest action) s fun outs s' =>
      Received c d settings (s, log) event outs s' := by
  by_cases hcallback : ∃ data, action = .callback data
  · obtain ⟨data, rfl⟩ := hcallback
    exact received_callback flat h hop htodo
  · have hcallback : ∀ data, action ≠ .callback data := fun data heq => hcallback ⟨data, heq⟩
    have hreception : Yields (takeAction event.now halOk s rest action) s fun outs s' =>
        Reception c d settings.2.1.toNat s' (log.note s event outs s') := by
      by_cases hprocess : action = .process
      · subst hprocess
        exact reception_process h hwrap hop htodo hnow hprompt hearly
      · exact reception_takeAction h hop htodo hnow hprompt hprocess hcallback
    obtain ⟨outs, s', hrun, hframer, hcollected, howed⟩ := yields_takeAction_framer
      event.now halOk htodo hcallback (htodo ▸ h.turn.hasRequest)
    exact ⟨outs, s', hrun, hframer ▸ engine_framerAfter h.engine event.now action,
      hreception.of_run_eq hrun, h.answer.step hop hcollected howed,
      fun rx hmem => absurd hmem (not_mem_of_uncollected hcollected rfl),
      fun rx tx hmem => absurd hmem (not_mem_of_uncollected hcollected rfl)⟩

/-! ## One step -/

/-- What comes between two steps of the main thread leaves the time of a block alone. -/
theorem Reception.interrupted {t35 : ℕ} {s' : Rs485Port cfg} {log' : ServiceLog}
    (h : Reception c d t35 s log) (hframer : s'.framer = s.framer) (htodo : s'.todo = s.todo)
    (hblock : log'.block = log.block) (hfree : log'.free = log.free)
    (hstepped : s.todo ≠ [] → log'.clock.stepped = log.clock.stepped)
    (hnow : log.clock.now ≤ log'.clock.now)
    (htick : log'.clock.tickDue = log.clock.tickDue) : Reception c d t35 s' log' := by
  cases h with
  | quiet hnone hempty hcallback =>
      exact .quiet (hblock.trans hnone) (hframer ▸ hempty) (htodo ▸ hcallback)
  | arriving hsome hassembling hlast hdue hlistens hpatience =>
      exact .arriving (hblock.trans hsome) (hframer ▸ hassembling) (hlast.trans hnow)
        (htick ▸ hdue) (htodo ▸ hlistens) hpatience
  | complete hsome hholding hlast hlistens hdue =>
      refine .complete (hblock.trans hsome) (hframer ▸ hholding) (hlast.trans hnow)
        (htodo ▸ hlistens) ?_
      have hbasis : log'.basis s' = log.basis s := by
        rw [ServiceLog.basis, ServiceLog.basis, htodo, hfree]
        split_ifs with hbusy
        · rfl
        · exact hstepped hbusy
      rwa [hbasis]
  | delivered hsome hempty hlast htodo' hrest hdue =>
      exact .delivered (hblock.trans hsome) (hframer ▸ hempty) (hlast.trans hnow)
        (htodo.trans htodo') hrest (hstepped (htodo' ▸ List.cons_ne_nil _ _) ▸ hdue)

theorem AnswerDue.interrupted {t35 : ℕ} {s' : Rs485Port cfg} {log' : ServiceLog}
    (h : AnswerDue c d t35 s log) (htodo : s'.todo = s.todo)
    (hcall : log'.clock.call = log.clock.call) (hbegan : log'.clock.began = log.clock.began)
    (hserved : log'.served = log.served) : AnswerDue c d t35 s' log' := by
  rw [AnswerDue, htodo, hcall, hbegan, hserved]
  exact h

/-- A byte on a polite line opens a block or goes on with it. -/
theorem reception_byte {b : Byte} (h : InService c d settings s log)
    (hshort : settings.1.toNat < settings.2.1.toNat)
    (hpolite : Polite c d settings.1.toNat settings.2.2 (s, log) event [] (s, log))
    (hop : event.op = .byte b) :
    Reception c d settings.2.1.toNat { s with framer := s.framer.onByte event.now b }
      (log.note s event [] { s with framer := s.framer.onByte event.now b }) := by
  have hnow : log.clock.now ≤ event.now := hpolite.scheduled.ordered
  have hclock : (log.note s event [] { s with framer := s.framer.onByte event.now b }).clock =
      { log.clock with now := event.now } := by
    simp only [ServiceLog.note, CallClock.note, hop]
  have ht15 : s.framer.t15Us = settings.1 := congrArg (·.1) h.engine.settings
  have hsize : s.framer.bufferSize = settings.2.2 := congrArg (·.2.2) h.engine.settings
  have htick := h.schedule.tickDue_le
  have hline := hpolite.line
  simp only [hop, PortOp.Polite] at hline
  have hlate {bytes : List Byte} {last : ℕ} (hblock : log.block = some (bytes, last))
      (hlast : last + settings.2.1.toNat ≤ log.clock.now) : False := by
    simp only [hblock] at hline
    omega
  cases h.reception with
  | quiet hblock hempty hnone =>
      simp only [hblock] at hline
      obtain ⟨patience, hpatience, hlistens⟩ := listens_of_receptive c d hline
      have hsome : (log.note s event [] { s with framer := s.framer.onByte event.now b }).block =
          some ([b], event.now) := by
        simp [ServiceLog.note, ServiceLog.blockAfter, hop, hblock]
      refine .arriving hsome (hempty.onByte event.now b) ?_ ?_ hlistens hpatience
      · rw [hclock]
      · rw [hclock]
        simp only
        omega
  | @arriving bytes last patience hblock hassembling hlast _ hlistens hpatience =>
      simp only [hblock] at hline
      obtain ⟨hclose, hroom⟩ := hline
      have hsome : (log.note s event [] { s with framer := s.framer.onByte event.now b }).block =
          some (bytes ++ [b], event.now) := by
        simp [ServiceLog.note, ServiceLog.blockAfter, hop, hblock]
      refine .arriving hsome
        (hassembling.onByte (hlast.trans hnow) (ht15 ▸ hclose) (hsize ▸ hroom)) ?_ ?_ hlistens
        hpatience
      · rw [hclock]
      · rw [hclock]
        simp only
        omega
  | complete hblock _ hlast => exact (hlate hblock hlast).elim
  | delivered hblock _ hlast => exact (hlate hblock hlast).elim

/-- A tick completes a block whose silence is over. -/
theorem reception_systick (h : InService c d settings s log)
    (hwrap : settings.2.1.toNat ≤ 38500000) (hop : event.op = .systick)
    (hscheduled : Scheduled d (s, log.clock) event [] (s, log.clock)) {s' : Rs485Port cfg}
    (hframer : s'.framer = s.framer.onSystick event.now) (htodo : s'.todo = s.todo) :
    Reception c d settings.2.1.toNat s' (log.note s event [] s') := by
  have hnow : log.clock.now ≤ event.now := hscheduled.ordered
  have htick : event.now = log.clock.tickDue := hscheduled.onTime hop
  have ht35 : s.framer.t35Us = settings.2.1 := congrArg (·.2.1) h.engine.settings
  have hclock : (log.note s event [] s').clock =
      { log.clock with now := event.now, tickDue := log.clock.tickDue + 1000 } := by
    simp only [ServiceLog.note, CallClock.note, hop]
  have hsame : (log.note s event [] s').block = log.block := by
    simp [ServiceLog.note, ServiceLog.blockAfter, hop]
  have hbasis : (log.note s event [] s').basis s' = log.basis s := by
    simp only [ServiceLog.basis, ServiceLog.free_note htodo, htodo, hclock]
  have hbasis_le : log.basis s ≤ log.clock.now := by
    rw [ServiceLog.basis]
    split_ifs
    · exact h.free_le
    · exact h.stepped_le
  cases h.reception with
  | quiet hblock hempty hnone =>
      exact .quiet (hsame.trans hblock) (hframer ▸ hempty.onSystick event.now) (htodo ▸ hnone)
  | @arriving bytes last patience hblock hassembling hlast hdue hlistens hpatience =>
      by_cases hlate : last + s.framer.t35Us.toNat ≤ event.now
      · have hsoon : event.now - last < 2 ^ 32 := by omega
        refine .complete (hsame.trans hblock)
          (hframer ▸ hassembling.onSystick_late h.engine.represented hlate hsoon) ?_
          (htodo ▸ hlistens) ?_
        · rw [hclock, ← ht35]
          exact hlate
        · rw [hbasis]
          omega
      · refine .arriving (hsame.trans hblock)
          (hframer ▸ hassembling.onSystick_early (hlast.trans hnow) (Nat.not_le.mp hlate)) ?_ ?_
          (htodo ▸ hlistens) hpatience
        · rw [hclock]
          exact hlast.trans hnow
        · rw [ht35] at hlate
          rw [hclock]
          simp only
          omega
  | complete hblock hholding hlast hlistens hdue =>
      refine .complete (hsame.trans hblock) (hframer ▸ hholding.onSystick event.now) ?_
        (htodo ▸ hlistens) (hbasis ▸ hdue)
      rw [hclock]
      exact hlast.trans hnow
  | delivered hblock hempty hlast htodo' hrest hdue =>
      refine .delivered (hsame.trans hblock) (hframer ▸ hempty.onSystick event.now) ?_
        (htodo.trans htodo') hrest ?_
      · rw [hclock]
        exact hlast.trans hnow
      · rw [hclock]
        exact hdue

/-- A poll by the main loop keeps the reception in time. -/
theorem Reception.polled {t35 : ℕ} {s' : Rs485Port cfg} {outs : List PortOutput}
    (h : Reception c d t35 s log) (hop : event.op = .process) (houts : outs = [.called none])
    (htodo : s.todo = []) (hframer : s'.framer = s.framer) (htodo' : s'.todo = [.process])
    (hnow : log.clock.now ≤ event.now) (hpolled : event.now ≤ log.free + c) :
    Reception c d t35 s' (log.note s event outs s') := by
  have hclock : (log.note s event outs s').clock =
      ⟨event.now, event.now, log.clock.tickDue, event.now, none⟩ := by
    simp [ServiceLog.note, CallClock.note, CallClock.begun, hop, houts]
  have hsame : (log.note s event outs s').block = log.block := by
    simp [ServiceLog.note, ServiceLog.blockAfter, hop, houts, PortOutput.isCollected]
  have hlistens : Listens c d d s'.todo := htodo' ▸ .polling
  cases h with
  | quiet hblock hempty _ =>
      exact .quiet (hsame.trans hblock) (hframer ▸ hempty) (by simp [htodo'])
  | arriving hblock hassembling hlast htick _ _ =>
      refine .arriving (hsame.trans hblock) (hframer ▸ hassembling) ?_ ?_ hlistens (by omega) <;>
        rw [hclock]
      · exact hlast.trans hnow
      · exact htick
  | complete hblock hholding hlast hfree hdue =>
      rw [htodo] at hfree
      cases hfree
      rw [ServiceLog.basis, if_pos htodo] at hdue
      refine .complete (hsame.trans hblock) (hframer ▸ hholding) ?_ hlistens ?_
      · rw [hclock]
        exact hlast.trans hnow
      · rw [ServiceLog.basis, htodo', if_neg (List.cons_ne_nil _ _), hclock]
        simp only
        omega
  | delivered _ _ _ hbusy =>
      rw [htodo] at hbusy
      cases hbusy

/-- A step between those of the main thread gives nothing away. -/
theorem Received.quiet {s' : Rs485Port cfg} {outs : List PortOutput}
    (hcollected : outs.any PortOutput.isCollected = false) (hengine : Engine settings s'.framer)
    (hreception : Reception c d settings.2.1.toNat s' (log.note s event outs s'))
    (hanswer : AnswerDue c d settings.2.1.toNat s' (log.note s event outs s')) :
    Received c d settings (s, log) event outs s' :=
  ⟨hengine, hreception, hanswer, fun _ hmem => absurd hmem (not_mem_of_uncollected hcollected rfl),
    fun _ _ hmem => absurd hmem (not_mem_of_uncollected hcollected rfl)⟩

/-- What happens at the port on a polite line keeps the reception in time. -/
theorem yields_portStep_received (flat : cfg.Flat) (h : InService c d settings s log)
    (hshort : settings.1.toNat < settings.2.1.toNat) (hwrap : settings.2.1.toNat ≤ 38500000)
    (hpolite : Polite c d settings.1.toNat settings.2.2 (s, log) event [] (s, log)) :
    Yields (portStep event) s fun outs s' => Received c d settings (s, log) event outs s' := by
  have hscheduled := hpolite.scheduled
  have hnow : log.clock.now ≤ event.now := hscheduled.ordered
  have hkept {s' : Rs485Port cfg} (hframer : s'.framer = s.framer) (htodo : s'.todo = s.todo)
      (hclock : log.clock.note event [] = { log.clock with now := event.now })
      (hblock : log.blockAfter event [] = log.block) :
      Received c d settings (s, log) event [] s' := by
    have hnoted : (log.note s event [] s').clock = { log.clock with now := event.now } := hclock
    refine .quiet rfl (hframer ▸ h.engine) ?_ ?_
    · refine h.reception.interrupted hframer htodo hblock (ServiceLog.free_note htodo) ?_ ?_ ?_ <;>
        rw [hnoted]
      · exact fun _ => rfl
      · exact hnow
    · refine h.answer.interrupted htodo ?_ ?_ rfl <;> rw [hnoted]
  rw [portStep, yields_bind, yields_get]
  cases hop : event.op with
  | byte b =>
      rw [yields_leave]
      refine .quiet rfl (h.engine.step ⟨event.now, .byte b⟩ (by simp))
        (reception_byte h hshort hpolite hop) ?_
      refine h.answer.interrupted rfl ?_ ?_ rfl <;> simp [ServiceLog.note, CallClock.note, hop]
  | overrun =>
      rw [yields_bind, yields_onSlave_charOverrun, yields_pure]
      exact hkept rfl rfl (by simp [CallClock.note, hop]) (by simp [ServiceLog.blockAfter, hop])
  | systick =>
      rw [yields_leave]
      refine .quiet rfl (h.engine.step ⟨event.now, .systick⟩ (by simp))
        (reception_systick h hwrap hop hscheduled rfl rfl) ?_
      refine h.answer.interrupted rfl ?_ ?_ rfl <;> simp [ServiceLog.note, CallClock.note, hop]
  | rs232 rx =>
      rw [yields_bind]
      apply yields_onSlave_modbusRtuProcess flat
      rw [yields_pure]
      exact hkept rfl rfl (by simp [CallClock.note, hop]) (by simp [ServiceLog.blockAfter, hop])
  | process =>
      dsimp only
      split
      · next htodo =>
          rw [yields_leave]
          exact .quiet rfl h.engine
            (h.reception.polled hop rfl htodo rfl rfl hnow (hpolite.polled htodo))
            fun _ hmore => absurd rfl hmore
      · rw [yields_pure]
        exact hkept rfl rfl (by simp [CallClock.note, CallClock.begun, hop])
          (by simp [ServiceLog.blockAfter, hop])
  | transaction call =>
      dsimp only
      split
      · next htodo =>
          have hblock : log.block = none := by
            have hline := hpolite.line
            simp only [hop, PortOp.Polite] at hline
            exact hline htodo
          obtain ⟨hempty, hnone⟩ : Empty s.framer ∧ ∀ data, .callback data ∉ s.todo := by
            cases h.reception with
            | quiet _ hempty hnone => exact ⟨hempty, hnone⟩
            | arriving hsome | complete hsome | delivered hsome =>
                rw [hblock] at hsome
                cases hsome
          rw [yields_beginTransaction]
          split_ifs
          · refine .quiet rfl h.engine (.quiet ?_ hempty (by simp [transactionActions])) ?_
            · simp [ServiceLog.note, ServiceLog.blockAfter, hop, hblock]
            · intro hcall
              simp [ServiceLog.note, CallClock.note, CallClock.begun, hop] at hcall
          · refine .quiet rfl h.engine (.quiet ?_ hempty hnone) ?_
            · simp [ServiceLog.note, ServiceLog.blockAfter, hop, hblock]
            · intro hcall
              simp [ServiceLog.note, CallClock.note, CallClock.begun, hop] at hcall
      · rw [yields_pure]
        exact hkept rfl rfl (by simp [CallClock.note, CallClock.begun, hop])
          (by simp [ServiceLog.blockAfter, hop])
  | step halOk =>
      dsimp only
      split
      · next htodo =>
          rw [yields_pure]
          refine .quiet rfl h.engine ?_ fun _ hmore => absurd (htodo ▸ rfl) hmore
          refine h.reception.interrupted rfl rfl (ServiceLog.block_note_step hop rfl)
            (ServiceLog.free_note rfl) (absurd htodo) ?_ ?_ <;>
            rw [ServiceLog.clock_note_step hop]
          exact hnow
      · next htodo =>
          exact received_step flat h hwrap hop htodo hnow
            (hscheduled.prompt (htodo ▸ List.cons_ne_nil _ _)) hscheduled.early

/-- The main thread last got on before now, and began its call before that. -/
theorem CallClock.note_le {clock : CallClock} (outs : List PortOutput)
    (hstepped : clock.stepped ≤ clock.now) (hbegan : clock.began ≤ clock.stepped)
    (hnow : clock.now ≤ event.now) :
    (clock.note event outs).now = event.now ∧ (clock.note event outs).stepped ≤ event.now ∧
      (clock.note event outs).began ≤ (clock.note event outs).stepped := by
  cases hop : event.op with
  | step => simp only [note, hop, le_refl, true_and, hbegan.trans (hstepped.trans hnow)]
  | process | transaction =>
      simp only [note, hop, begun]
      split_ifs
      · exact ⟨rfl, hstepped.trans hnow, hbegan⟩
      · exact ⟨rfl, le_rfl, le_rfl⟩
  | byte | overrun | systick | rs232 =>
      simp only [note, hop, true_and]
      exact ⟨hstepped.trans hnow, hbegan⟩

/-- One step keeps the service going. -/
theorem yields_portStep_inService (flat : cfg.Flat) (h : InService c d settings s log)
    (hshort : settings.1.toNat < settings.2.1.toNat) (hwrap : settings.2.1.toNat ≤ 38500000)
    (hd : d ≤ 2 ^ 31)
    (hpolite : Polite c d settings.1.toNat settings.2.2 (s, log) event [] (s, log)) :
    Yields (portStep event) s fun outs s' =>
      InService c d settings s' (log.note s event outs s') ∧
        Serves c d settings.2.1.toNat (s, log) event outs (s', log.note s event outs s') := by
  have hscheduled := hpolite.scheduled
  have hnow : log.clock.now ≤ event.now := hscheduled.ordered
  obtain ⟨outs, s', hrun, hreceived⟩ := yields_portStep_received flat h hshort hwrap hpolite
  have hturned := (yields_portStep_turned flat h.turn hnow).of_run_eq hrun
  have hschedule :=
    (yields_portStep_onSchedule flat (by omega) h.schedule hscheduled).of_run_eq hrun
  obtain ⟨hnoted, hstepped, hbegan⟩ :=
    CallClock.note_le outs h.stepped_le h.began_le hnow
  refine ⟨outs, s', hrun, ?_, ?_⟩
  · exact
      { engine := hreceived.engine
        turn := (show (log.note s event outs s').clock.now = event.now from hnoted) ▸ hturned.1
        schedule := hschedule
        free_le := by
          refine le_of_le_of_eq ?_ hnoted.symm
          simp only [ServiceLog.note]
          split_ifs
          · exact le_rfl
          · exact h.free_le.trans hnow
        stepped_le := hstepped.trans_eq hnoted.symm
        began_le := hbegan
        reception := hreceived.reception
        answer := hreceived.answer }
  · exact
      { collected := h.reception.collected_le hpolite.polled hscheduled
        handed := hreceived.handed
        served := hreceived.served
        answered := h.answered_le hscheduled.prompt }

end Service

/-! ## Runs -/

/-- Nothing has been received after initialisation. -/
theorem inService_init (rxBuffer completedBuffer : ℕ → Byte) {bufferSize : ℕ}
    (hsize : 1 ≤ bufferSize) (baudrate msTick : Dword) (slave : Slave cfg) (sysTick : Dword)
    (c d : ℕ) {tickDue : ℕ} (htickDue : tickDue ≤ 1000) :
    InService c d (rtuFramerInit rxBuffer completedBuffer bufferSize baudrate msTick).settings
      (rs485Init rxBuffer completedBuffer bufferSize baudrate msTick slave sysTick)
      (.start tickDue) where
  engine := ⟨{ represented_init rxBuffer completedBuffer hsize baudrate msTick with }, rfl, rfl⟩
  turn := inOrderAt_init rxBuffer completedBuffer bufferSize baudrate msTick slave sysTick
  schedule := ⟨rfl, htickDue, .idle rfl⟩
  free_le := le_rfl
  stepped_le := le_rfl
  began_le := le_rfl
  reception := .quiet rfl ⟨rfl, rfl⟩ (by simp [rs485Init])
  answer _ howed := absurd rfl howed

/-- If the main loop polls the port in time, every block that comes on a polite line is
collected once and whole within its bound, and every request that the slave
answers is answered within its bound. -/
theorem rs485Run_serves (rxBuffer completedBuffer : ℕ → Byte) {bufferSize : ℕ}
    (hsize : 1 ≤ bufferSize) (baudrate msTick : Dword) (slave : Slave boardConfig)
    (sysTick : Dword) (c : ℕ) {d : ℕ} (hd : d ≤ 2 ^ 31) {tickDue : ℕ} (htickDue : tickDue ≤ 1000)
    {events : List PortEvent}
    (hpolite : EveryStep (servingPort boardConfig)
      (Polite c d (modbusRtuTimeoutsUs baudrate).1.toNat (min bufferSize rtuFramerMaxFrame))
      (rs485Init rxBuffer completedBuffer bufferSize baudrate msTick slave sysTick, .start tickDue)
      events) :
    EveryStep (servingPort boardConfig) (Serves c d (modbusRtuTimeoutsUs baudrate).2.toNat)
      (rs485Init rxBuffer completedBuffer bufferSize baudrate msTick slave sysTick, .start tickDue)
      events := by
  obtain ⟨hshort, -, hhigh⟩ := modbusRtuTimeoutsUs_bounds baudrate
  let settings := (rtuFramerInit rxBuffer completedBuffer bufferSize baudrate msTick).settings
  have hroom : min bufferSize rtuFramerMaxFrame = settings.2.2 := by
    simp only [settings, RtuFramer.settings, rtuFramerInit]
    split_ifs <;> omega
  refine EveryStep.of_invariant (I := fun s => InService c d settings s.1 s.2) ?_
    (inService_init rxBuffer completedBuffer hsize baudrate msTick slave sysTick c d htickDue)
    hpolite
  rintro s event hs ⟨_, _, -, hstep⟩
  rw [servingPort, yields_observed]
  rw [hroom] at hstep
  exact yields_portStep_inService Config.boardConfig_flat hs hshort hhigh hd
    ⟨hstep.scheduled, hstep.polled, hstep.line⟩

theorem rs485Run_serves_read :
    EveryStep (servingPort boardConfig) (Serves 3000 1000 (modbusRtuTimeoutsUs 115200).2.toNat)
      (rs485Port115200.1, .start 1000) readEvents :=
  rs485Run_serves (fun _ => 0) (fun _ => 0) (show 1 ≤ rtuFramerMaxFrame by decide) 115200 0
    (Slave.powerOn (SyncHooks.none boardConfig)) 0 3000 (by decide) (by decide) (by decide +kernel)

end AutomationBoard.Board
