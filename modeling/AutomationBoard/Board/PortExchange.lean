/-
# A response that comes in time is the one returned

A transaction has its timeout, the port is polled from the same wait, and what
comes meanwhile goes through the engine. An observer follows one transaction from
its call to its request, to the block that is handed over and to its result. If the
line is polite and the main thread gets on, the request leaves as it was framed, the
first block that comes is handed to the master and not to the slave, and the
transaction returns what this block means. It returns that nothing came only
if its time is up, and a block that is on its way by then came too late.
-/

import AutomationBoard.Board.PortService

namespace AutomationBoard.Board

open AutomationBoard.Modbus AutomationBoard.Program AutomationBoard.Serial

variable {cfg : Config}

/-! ## What an observer follows -/

/-- A transaction as an observer knows it: its request has not left, or left at some
time and nothing has been handed over for it, or a frame has. A broadcast is done
with its request. -/
inductive PortExchange
  | none
  | pending (call : MasterCall)
  | waiting (call : MasterCall) (sentAt : ℕ)
  | got (call : MasterCall) (frame : List Byte)
  deriving DecidableEq

namespace PortExchange

/-- An output, noted. -/
def output (event : PortEvent) : PortExchange → PortOutput → PortExchange
  | _, .called _ =>
      match event.op with
      | .transaction call => .pending call
      | _ => .none
  | .pending call, .sent _ .ok => if call.slaveId = 0 then .none else .waiting call event.now
  | _, .sent .. => .none
  | .waiting call _, .handed rx => .got call rx
  | _, .returned _ => .none
  | exchange, _ => exchange

/-- A step, noted. -/
def note (exchange : PortExchange) (event : PortEvent) (outs : List PortOutput) : PortExchange :=
  outs.foldl (output event) exchange

end PortExchange

/-- The port with the observers of its service and of its transaction beside it. -/
def exchangingPort (cfg : Config) :
    PortEvent → Checked Fault ((Rs485Port cfg × ServiceLog) × PortExchange) (List PortOutput) :=
  watched PortExchange.note (servingPort cfg)

/-- What is sent is the request. While the master waits for a response no block is
kept for too long, none is taken for a request, and the one that is handed over is
the one that came. The transaction returns what this block means, or that nothing
came: then its time is up, but for a tick, and a block on its way came too late. -/
structure Exchanges (c d t35 : ℕ) (s : (Rs485Port cfg × ServiceLog) × PortExchange)
    (event : PortEvent) (outs : List PortOutput)
    (_s' : (Rs485Port cfg × ServiceLog) × PortExchange) : Prop where
  requested : ∀ call, s.2 = .pending call → ∀ data status, .sent data status ∈ outs →
    data = rtuFrame call.slaveId call.reqPdu
  collected : ∀ call sentAt, s.2 = .waiting call sentAt → ∀ block ∈ s.1.2.block,
    event.now ≤ block.2 + collectBound c d t35
  kept : ∀ call sentAt, s.2 = .waiting call sentAt → ∀ rx tx, .served rx tx ∉ outs
  handed : ∀ call sentAt, s.2 = .waiting call sentAt → ∀ rx, .handed rx ∈ outs →
    ∃ last, s.1.2.block = some (rx, last)
  answered : ∀ call frame, s.2 = .got call frame → ∀ result, .returned result ∈ outs →
    result = heard call.slaveId (byteAt call.reqPdu 0) call.respMax frame
  unanswered : ∀ call sentAt, s.2 = .waiting call sentAt → ∀ result, .returned result ∈ outs →
    result = .plain .timeout ∧ sentAt + 1000 * call.timeoutMs ≤ event.now + 1000 ∧
      ∀ block ∈ s.1.2.block,
        sentAt + 1000 * call.timeoutMs ≤ block.2 + 1000 + collectBound c d t35

/-! ## Outputs that tell nothing -/

/-- The output is about the course of a wait only. -/
def PortOutput.isQuiet : PortOutput → Bool
  | .rests | .cleared | .started _ | .passed _ => true
  | _ => false

/-- All outputs are quiet. -/
def Quiet (outs : List PortOutput) : Prop := ∀ out ∈ outs, out.isQuiet = true

theorem Quiet.nil : Quiet [] := List.forall_mem_nil _

theorem Quiet.singleton {out : PortOutput} (h : out.isQuiet = true) : Quiet [out] :=
  List.forall_mem_singleton.mpr h

theorem Quiet.not_mem {outs : List PortOutput} (h : Quiet outs) {out : PortOutput}
    (hout : out.isQuiet = false) : out ∉ outs := by
  intro hmem
  rw [h out hmem] at hout
  cases hout

theorem PortExchange.note_quiet {outs : List PortOutput} (h : Quiet outs) (exchange : PortExchange)
    (event : PortEvent) : exchange.note event outs = exchange := by
  induction outs with
  | nil => rfl
  | cons out outs ih =>
      obtain ⟨hout, houts⟩ := List.forall_mem_cons.mp h
      have hsame : exchange.output event out = exchange := by
        cases out with
        | rests | cleared | started | passed => cases exchange <;> rfl
        | _ => cases hout
      rw [note, List.foldl_cons, hsame]
      exact ih houts

/-- Only a call begins a transaction. -/
theorem PortExchange.note_none {event : PortEvent} (hop : ∀ call, event.op ≠ .transaction call)
    (outs : List PortOutput) : none.note event outs = .none := by
  induction outs with
  | nil => rfl
  | cons out outs ih =>
      have hsame : none.output event out = .none := by
        cases out with
        | called =>
            cases hcase : event.op with
            | transaction call => exact absurd hcase (hop call)
            | _ => simp only [output, hcase]
        | sent _ status => cases status <;> rfl
        | _ => rfl
      rw [note, List.foldl_cons, hsame]
      exact ih

/-- What a step tells of the exchange, with the next tick due at `tickDue`: nothing,
that the request has left, that a frame is handed over, or the result. -/
def PortExchange.Tells (event : PortEvent) (tickDue : ℕ) (todo todo' : List PortAction) :
    PortExchange → List PortOutput → Prop
  | .none, _ => True
  | .pending call, outs => Quiet outs ∨ ∃ halOk, event.op = .step halOk ∧
      outs = [.sent (rtuFrame call.slaveId call.reqPdu) (if halOk then .ok else .timeout)]
  | .waiting call sentAt, outs => Quiet outs ∨
      (∃ frame, .callback frame ∈ todo ∧ outs = [.handed frame]) ∨
      outs = [.returned (.plain .timeout)] ∧ todo' = [] ∧
        sentAt + 1000 * call.timeoutMs ≤ tickDue
  | .got call frame, outs => Quiet outs ∨
      outs = [.returned (heard call.slaveId (byteAt call.reqPdu 0) call.respMax frame)] ∧
        todo' = []

theorem PortExchange.tells_quiet {outs : List PortOutput} (h : Quiet outs)
    (exchange : PortExchange) (event : PortEvent) (tickDue : ℕ) (todo todo' : List PortAction) :
    exchange.Tells event tickDue todo todo' outs := by
  cases exchange with
  | none => trivial
  | pending | waiting | got => exact .inl h

/-! ## Before the request leaves -/
/-- An action on the way to a transmission. -/
def PortAction.Pauses : PortAction → Bool
  | .masterFlush | .flushRx | .masterDelayT35 | .delayT35 | .spin _ | .txEnable | .txBegin => true
  | _ => false

/-- After some pauses the main thread sends some bytes, lets go of the line and goes
on with the rest. -/
inductive Talks (data : List Byte) (tail : List PortAction) : List PortAction → Prop
  | pauses {action : PortAction} {rest : List PortAction} (haction : action.Pauses = true)
      (h : Talks data tail rest) : Talks data tail (action :: rest)
  | masterSend : Talks data tail (.masterSend data :: tail)
  | send : Talks data tail (.send data :: .rxEnable :: tail)
  | transmit : Talks data tail (.transmit data :: .rxEnable :: .rxEnable :: tail)

/-- The master is armed, or will be by the first action. -/
def Armed (s : Rs485Port cfg) : Prop := s.todo.head? = some .masterFlush ∨ s.master = masterArmed

section Step

variable {now : ℕ} {s : Rs485Port cfg} {action : PortAction} {rest : List PortAction}

/-- A step of a port that talks: it goes on to talk, or the bytes leave. -/
inductive Talked (halOk : Bool) (data : List Byte) (tail : List PortAction) (s : Rs485Port cfg)
    (outs : List PortOutput) (s' : Rs485Port cfg) : Prop
  | still (hquiet : Quiet outs) (htalks : Talks data tail s'.todo)
      (harmed : Armed s → s'.master = masterArmed)
  | sent (houts : outs = [.sent data (if halOk then .ok else .timeout)])
      (htodo : s'.todo = .rxEnable :: .rxEnable :: tail)
      (hstatus : s'.sendStatus = if halOk then .ok else .timeout)
      (hmaster : Armed s → s'.master = masterArmed)

theorem yields_takeAction_talks {halOk : Bool} {data : List Byte} {tail : List PortAction}
    (h : Talks data tail (action :: rest)) (hdata : data ≠ []) (htodo : s.todo = action :: rest) :
    Yields (takeAction now halOk s rest action) s fun outs s' =>
      Talked halOk data tail s outs s' := by
  have hlength : ¬ data.length = 0 := fun hzero => hdata (List.length_eq_zero_iff.mp hzero)
  have harmed {head : PortAction} (hhead : s.todo.head? = some head) (hne : head ≠ .masterFlush)
      (h : Armed s) : s.master = masterArmed := by
    refine h.resolve_left fun hflush => hne ?_
    exact Option.some.inj (hhead.symm.trans hflush)
  have hhead : s.todo.head? = some action := htodo ▸ rfl
  cases h with
  | pauses haction hrest =>
      cases action with
      | masterFlush =>
          rw [takeAction, yields_leave]
          exact .still .nil (.pauses rfl hrest) fun _ => rfl
      | flushRx | txBegin =>
          rw [takeAction, yields_leave]
          exact .still (.singleton rfl) hrest (harmed hhead (by simp))
      | masterDelayT35 =>
          rw [takeAction, yields_leave]
          refine .still .nil (.pauses rfl hrest) fun h => ?_
          rw [harmed hhead (by simp) h]
          rfl
      | delayT35 =>
          rw [takeAction, yields_leave]
          exact .still (.singleton rfl) (.pauses rfl hrest) (harmed hhead (by simp))
      | spin start =>
          rw [takeAction, yields_ite, yields_leave, yields_leave]
          split_ifs
          · exact .still .nil (htodo ▸ .pauses rfl hrest) (harmed hhead (by simp))
          · exact .still .nil hrest (harmed hhead (by simp))
      | txEnable =>
          rw [takeAction, yields_leave]
          exact .still .nil hrest (harmed hhead (by simp))
      | _ => cases haction
  | masterSend =>
      rw [takeAction, if_neg hlength, yields_leave]
      refine .still .nil (.pauses rfl .send) fun h => ?_
      simp only [harmed hhead (by simp) h]
      rfl
  | send =>
      rw [takeAction, yields_leave, rs485Send, if_neg hlength]
      exact .still .nil (.pauses rfl (.pauses rfl .transmit)) (harmed hhead (by simp))
  | transmit =>
      rw [takeAction, yields_leave]
      exact .sent rfl rfl rfl (harmed hhead (by simp))

end Step

/-! ## Looking for the response -/

/-- Where a transaction is once its request has left, with the tick counter at the
beginning of its wait once that has begun. -/
inductive Expects (call : MasterCall) : Option Dword → List PortAction → Prop
  | letting : Expects call none [.rxEnable, .rxEnable, .masterSent call]
  | released : Expects call none [.rxEnable, .masterSent call]
  | sent : Expects call none [.masterSent call]
  | receiving : Expects call none [.masterRecv call]
  | waiting {start : Dword} : Expects call (some start) [.masterWait call start]
  | polling {start : Dword} : Expects call (some start) [.process, .masterLook call start]
  | looking {start : Dword} : Expects call (some start) [.masterLook call start]

/-- The wait began after a time, so the next tick is due as many milliseconds later as
the counter has gone on. -/
def Counts (sentAt tickDue : ℕ) (sysTick start : Dword) : Prop :=
  ∃ ticks, sysTick - start = BitVec.ofNat 32 ticks ∧ sentAt + 1000 * ticks ≤ tickDue

theorem Counts.tick {sentAt tickDue : ℕ} {sysTick start : Dword}
    (h : Counts sentAt tickDue sysTick start) :
    Counts sentAt (tickDue + 1000) (sysTick + 1) start := by
  obtain ⟨ticks, hticks, hdue⟩ := h
  refine ⟨ticks + 1, ?_, by omega⟩
  rw [BitVec.ofNat_add, ← hticks]
  exact (BitVec.sub_add_comm ..).symm

/-- A time that is up has lasted. -/
theorem Counts.elapsed {sentAt tickDue timeoutMs : ℕ} {sysTick start : Dword}
    (h : Counts sentAt tickDue sysTick start) (hup : ¬ (sysTick - start).toNat < timeoutMs) :
    sentAt + 1000 * timeoutMs ≤ tickDue := by
  obtain ⟨ticks, hticks, hdue⟩ := h
  rw [hticks, BitVec.toNat_ofNat] at hup
  have := Nat.mod_le ticks (2 ^ 32)
  omega

/-- A master that looks for a response, and nothing has come for it. -/
structure Expecting (call : MasterCall) (sentAt tickDue : ℕ) (s : Rs485Port cfg) : Prop where
  unicast : call.slaveId ≠ 0
  master : s.master = masterArmed
  sendStatus : s.sendStatus = .ok
  sent_le : sentAt ≤ tickDue
  course : ∃ start, Expects call start s.todo ∧ ∀ t ∈ start, Counts sentAt tickDue s.sysTick t

/-- A master that has its response. -/
inductive Answered (call : MasterCall) (frame : List Byte) (s : Rs485Port cfg) : Prop
  | taken {start : Dword} (htodo : s.todo = [.masterLook call start])
      (hmaster : s.master = ⟨1, 1, frame⟩)
  | framed (htodo : s.todo = [.masterFrame call frame])

/-- A frame as the engine gives it away. -/
def Collectable (frame : List Byte) : Prop := 1 ≤ frame.length ∧ frame.length ≤ rtuFrameMax

/-- How the port stands to what an observer knows of the transaction. -/
inductive Exchanging (tickDue : ℕ) (s : Rs485Port cfg) : PortExchange → Prop
  | none : Exchanging tickDue s .none
  | pending {call : MasterCall}
      (hsize : 1 ≤ call.reqPdu.length ∧ call.reqPdu.length ≤ 253)
      (htalks : Talks (rtuFrame call.slaveId call.reqPdu) [.masterSent call] s.todo)
      (harmed : Armed s) : Exchanging tickDue s (.pending call)
  | expecting {call : MasterCall} {sentAt : ℕ} (hreq : call.reqPdu ≠ [])
      (h : Expecting call sentAt tickDue s) : Exchanging tickDue s (.waiting call sentAt)
  | found {call : MasterCall} {sentAt : ℕ} {frame : List Byte} {start : Dword}
      (hreq : call.reqPdu ≠ []) (hfits : Collectable frame)
      (htodo : s.todo = [.callback frame, .masterLook call start])
      (hmaster : s.master = masterArmed) : Exchanging tickDue s (.waiting call sentAt)
  | expired {call : MasterCall} {sentAt : ℕ} (htodo : s.todo = [.masterEnd .timeout])
      (hdue : sentAt + 1000 * call.timeoutMs ≤ tickDue) :
      Exchanging tickDue s (.waiting call sentAt)
  | got {call : MasterCall} {frame : List Byte} (hreq : call.reqPdu ≠ [])
      (hfits : Collectable frame) (h : Answered call frame s) :
      Exchanging tickDue s (.got call frame)

section Step

variable {sentAt tickDue : ℕ} {s : Rs485Port cfg} {exchange : PortExchange} {event : PortEvent}
  {halOk : Bool} {action : PortAction} {rest : List PortAction} {call : MasterCall}

/-- Quiet outputs tell nothing, and leave the exchange where it was. -/
theorem exchanging_quiet {s' : Rs485Port cfg} {outs : List PortOutput} (houts : Quiet outs)
    (h : Exchanging tickDue s' exchange) :
    exchange.Tells event tickDue s.todo s'.todo outs ∧
      Exchanging tickDue s' (exchange.note event outs) :=
  ⟨exchange.tells_quiet houts event tickDue _ _, (exchange.note_quiet houts event).symm ▸ h⟩

/-- The step of a master whose request has not left. -/
theorem yields_takeAction_pending (hsize : 1 ≤ call.reqPdu.length ∧ call.reqPdu.length ≤ 253)
    (htalks : Talks (rtuFrame call.slaveId call.reqPdu) [.masterSent call] s.todo)
    (harmed : Armed s) (hop : event.op = .step halOk) (htodo : s.todo = action :: rest)
    (hearly : event.now ≤ tickDue) :
    Yields (takeAction event.now halOk s rest action) s fun outs s' =>
      (PortExchange.pending call).Tells event tickDue s.todo s'.todo outs ∧
        Exchanging tickDue s' ((PortExchange.pending call).note event outs) := by
  have hframe : rtuFrame call.slaveId call.reqPdu ≠ [] := by
    refine List.ne_nil_of_length_pos ?_
    rw [length_rtuFrame]
    exact Nat.succ_pos _
  rw [htodo] at htalks
  apply (yields_takeAction_talks htalks hframe htodo).mono
  intro outs s' htalked
  cases htalked with
  | still hquiet htalks' harmed' =>
      exact exchanging_quiet hquiet (.pending hsize htalks' (.inr (harmed' harmed)))
  | sent houts htodo' hstatus hmaster =>
      obtain rfl := houts
      refine ⟨.inr ⟨halOk, hop, rfl⟩, ?_⟩
      cases halOk with
      | true =>
          simp only [PortExchange.note, List.foldl_cons, List.foldl_nil, if_true,
            PortExchange.output]
          split_ifs with hbroadcast
          · exact .none
          · exact .expecting (List.ne_nil_of_length_pos hsize.1) ⟨hbroadcast, hmaster harmed,
              hstatus, hearly, none, htodo' ▸ Expects.letting, by simp⟩
      | false => exact .none

/-- A master that expects a response goes on waiting, or gets a frame, or gives up. -/
theorem yields_takeAction_expects (hreq : call.reqPdu ≠ []) (h : Expecting call sentAt tickDue s)
    (hfits : ∀ frame ∈ (s.framer.process event.now).1, Collectable frame)
    (htodo : s.todo = action :: rest) :
    Yields (takeAction event.now halOk s rest action) s fun outs s' =>
      (PortExchange.waiting call sentAt).Tells event tickDue s.todo s'.todo outs ∧
        Exchanging tickDue s' ((PortExchange.waiting call sentAt).note event outs) := by
  obtain ⟨hunicast, hmaster, hstatus, hsent, start, hexpects, hcounts⟩ := h
  rw [htodo] at hexpects
  cases hexpects with
  | letting =>
      rw [takeAction, yields_leave]
      exact exchanging_quiet .nil
        (.expecting hreq ⟨hunicast, hmaster, hstatus, hsent, _, .released, by simp⟩)
  | released =>
      rw [takeAction, yields_leave]
      exact exchanging_quiet .nil
        (.expecting hreq ⟨hunicast, hmaster, hstatus, hsent, _, .sent, by simp⟩)
  | sent =>
      rw [takeAction, yields_leave, masterSentActions, if_neg (not_not.mpr hstatus),
        if_neg hunicast]
      exact exchanging_quiet .nil
        (.expecting hreq ⟨hunicast, hmaster, hstatus, hsent, _, .receiving, by simp⟩)
  | receiving =>
      have harmed : { s.master with waiting := 1 } = masterArmed := by
        rw [hmaster]
        rfl
      have hbegun : Counts sentAt tickDue s.sysTick s.sysTick := ⟨0, BitVec.sub_self _, hsent⟩
      rw [takeAction, yields_leave]
      exact exchanging_quiet (.singleton rfl) (.expecting hreq
        ⟨hunicast, harmed, hstatus, hsent, _, .waiting, fun t ht => Option.some.inj ht ▸ hbegun⟩)
  | @waiting start =>
      rw [takeAction, yields_leave]
      split_ifs with htime
      · exact exchanging_quiet (.singleton rfl)
          (.expecting hreq ⟨hunicast, hmaster, hstatus, hsent, _, .polling, hcounts⟩)
      · exact exchanging_quiet (.singleton rfl) (.expired rfl ((hcounts start rfl).elapsed htime))
  | @polling start =>
      rw [takeAction, yields_leave]
      cases hframe : (s.framer.process event.now).1 with
      | none =>
          exact exchanging_quiet .nil
            (.expecting hreq ⟨hunicast, hmaster, hstatus, hsent, _, .looking, hcounts⟩)
      | some frame => exact exchanging_quiet .nil (.found hreq (hfits frame hframe) rfl hmaster)
  | @looking start =>
      have hnone : ¬ s.master.frameReady ≠ 0 := by
        rw [hmaster]
        exact not_not.mpr rfl
      rw [takeAction, if_neg hnone, yields_leave]
      exact exchanging_quiet .nil
        (.expecting hreq ⟨hunicast, hmaster, hstatus, hsent, _, .waiting, hcounts⟩)

/-- The frame is handed to the master. -/
theorem yields_takeAction_found {frame : List Byte} {start : Dword} (hreq : call.reqPdu ≠ [])
    (hfits : Collectable frame) (hmaster : s.master = masterArmed)
    (htodo : s.todo = [.callback frame, .masterLook call start]) :
    Yields (takeAction event.now halOk s [.masterLook call start] (.callback frame)) s
      fun outs s' =>
        (PortExchange.waiting call sentAt).Tells event tickDue s.todo s'.todo outs ∧
          Exchanging tickDue s' ((PortExchange.waiting call sentAt).note event outs) := by
  have hwaiting : modbusMasterRtuIsWaiting s.master ≠ 0 := by
    rw [hmaster]
    exact byte_one_ne_zero
  have htaken : modbusMasterRtuOnFrame s.master frame = ⟨1, 1, frame⟩ := by
    have hsome : ¬ (frame.length = 0 ∨ masterArmed.waiting = 0) := by
      rintro (hzero | hidle)
      · exact absurd hfits.1 (by omega)
      · exact byte_one_ne_zero hidle
    rw [hmaster, modbusMasterRtuOnFrame, if_neg hsome, List.take_of_length_le hfits.2]
    rfl
  rw [takeAction, rs485ModbusRxCallback, if_pos hwaiting, yields_leave]
  exact ⟨.inr (.inl ⟨frame, by simp [htodo], rfl⟩), .got hreq hfits (.taken rfl htaken)⟩

/-- The time is up. -/
theorem yields_takeAction_expired (hdue : sentAt + 1000 * call.timeoutMs ≤ tickDue) :
    Yields (takeAction event.now halOk s [] (.masterEnd .timeout)) s fun outs s' =>
      (PortExchange.waiting call sentAt).Tells event tickDue s.todo s'.todo outs ∧
        Exchanging tickDue s' ((PortExchange.waiting call sentAt).note event outs) := by
  rw [takeAction, yields_leave]
  exact ⟨.inr (.inr ⟨rfl, rfl, hdue⟩), .none⟩

/-- The step of a master that has its response: it goes on, or returns what the
response means. -/
theorem yields_takeAction_got {frame : List Byte} (hreq : call.reqPdu ≠ [])
    (hfits : Collectable frame) (h : Answered call frame s) (htodo : s.todo = action :: rest) :
    Yields (takeAction event.now halOk s rest action) s fun outs s' =>
      (PortExchange.got call frame).Tells event tickDue s.todo s'.todo outs ∧
        Exchanging tickDue s' ((PortExchange.got call frame).note event outs) := by
  cases h with
  | taken htodo' hmaster =>
      obtain ⟨rfl, rfl⟩ := List.cons.inj (htodo.symm.trans htodo')
      have hready : s.master.frameReady ≠ 0 := by
        rw [hmaster]
        exact byte_one_ne_zero
      rw [takeAction, if_pos hready, yields_leave, hmaster, List.take_of_length_le hfits.2]
      exact exchanging_quiet .nil (.got hreq hfits (.framed rfl))
  | framed htodo' =>
      obtain ⟨rfl, rfl⟩ := List.cons.inj (htodo.symm.trans htodo')
      rw [takeAction, yields_masterFrameStep hreq]
      exact ⟨.inr ⟨rfl, rfl⟩, .none⟩

/-- A step of the main thread takes the transaction on. -/
theorem exchanging_takeAction (h : Exchanging tickDue s exchange) (hop : event.op = .step halOk)
    (hearly : event.now ≤ tickDue)
    (hfits : ∀ frame ∈ (s.framer.process event.now).1, Collectable frame)
    (htodo : s.todo = action :: rest) {outs : List PortOutput} {s' : Rs485Port cfg}
    (hrun : (takeAction event.now halOk s rest action).run s = .ok (outs, s')) :
    exchange.Tells event tickDue s.todo s'.todo outs ∧
      Exchanging tickDue s' (exchange.note event outs) := by
  cases h with
  | none =>
      have hcalls : ∀ call, event.op ≠ .transaction call := fun call => by simp [hop]
      exact ⟨trivial, (PortExchange.note_none hcalls outs).symm ▸ .none⟩
  | pending hsize htalks harmed =>
      exact (yields_takeAction_pending hsize htalks harmed hop htodo hearly).of_run_eq hrun
  | expecting hreq h => exact (yields_takeAction_expects hreq h hfits htodo).of_run_eq hrun
  | found hreq hframe htodo' hmaster =>
      obtain ⟨rfl, rfl⟩ := List.cons.inj (htodo.symm.trans htodo')
      exact (yields_takeAction_found hreq hframe hmaster htodo').of_run_eq hrun
  | @expired call sentAt htodo' hdue =>
      obtain ⟨rfl, rfl⟩ := List.cons.inj (htodo.symm.trans htodo')
      exact (yields_takeAction_expired hdue).of_run_eq hrun
  | got hreq hframe h => exact (yields_takeAction_got hreq hframe h htodo).of_run_eq hrun

/-- While the main thread is free there is no transaction. -/
theorem Exchanging.eq_none (h : Exchanging tickDue s exchange) (htodo : s.todo = []) :
    exchange = .none := by
  cases h with
  | none => rfl
  | pending _ htalks =>
      rw [htodo] at htalks
      cases htalks
  | expecting _ h =>
      obtain ⟨start, hexpects, -⟩ := h.course
      rw [htodo] at hexpects
      cases hexpects
  | found _ _ hbusy | expired hbusy =>
      rw [htodo] at hbusy
      cases hbusy
  | got _ _ h =>
      cases h with
      | taken hbusy | framed hbusy =>
          rw [htodo] at hbusy
          cases hbusy

/-- An interrupt leaves the exchange where it is. -/
theorem Exchanging.interrupted {tickDue' : ℕ} {s' : Rs485Port cfg}
    (h : Exchanging tickDue s exchange) (htodo : s'.todo = s.todo) (hmaster : s'.master = s.master)
    (hstatus : s'.sendStatus = s.sendStatus) (hdue : tickDue ≤ tickDue')
    (hcounts : ∀ sentAt start, Counts sentAt tickDue s.sysTick start →
      Counts sentAt tickDue' s'.sysTick start) : Exchanging tickDue' s' exchange := by
  cases h with
  | none => exact .none
  | pending hsize htalks harmed =>
      refine .pending hsize (htodo ▸ htalks) ?_
      rw [Armed, htodo, hmaster]
      exact harmed
  | expecting hreq h =>
      obtain ⟨start, hexpects, hcount⟩ := h.course
      exact .expecting hreq ⟨h.unicast, hmaster.trans h.master, hstatus.trans h.sendStatus,
        h.sent_le.trans hdue, start, htodo ▸ hexpects, fun t ht => hcounts _ t (hcount t ht)⟩
  | found hreq hframe htodo' hmaster' =>
      exact .found hreq hframe (htodo.trans htodo') (hmaster.trans hmaster')
  | expired htodo' hpast => exact .expired (htodo.trans htodo') (hpast.trans hdue)
  | got hreq hframe h =>
      refine .got hreq hframe ?_
      cases h with
      | taken htodo' hmaster' => exact .taken (htodo.trans htodo') (hmaster.trans hmaster')
      | framed htodo' => exact .framed (htodo.trans htodo')

/-- What happens at the port tells of the exchange. -/
theorem yields_portStep_exchanging (flat : cfg.Flat) {clock : CallClock}
    (h : Exchanging clock.tickDue s exchange) (hearly : event.now ≤ clock.tickDue)
    (hframes : ∀ frame ∈ (s.framer.process event.now).1, Collectable frame)
    (hruns : Yields (portStep event) s fun _ _ => True) :
    Yields (portStep event) s fun outs s' =>
      exchange.Tells event clock.tickDue s.todo s'.todo outs ∧
        Exchanging (clock.note event outs).tickDue s' (exchange.note event outs) := by
  have hsame {s' : Rs485Port cfg} (htodo : s'.todo = s.todo) (hmaster : s'.master = s.master)
      (hstatus : s'.sendStatus = s.sendStatus) (htick : s'.sysTick = s.sysTick)
      (hdue : (clock.note event []).tickDue = clock.tickDue) :
      exchange.Tells event clock.tickDue s.todo s'.todo [] ∧
        Exchanging (clock.note event []).tickDue s' (exchange.note event []) := by
    refine ⟨exchange.tells_quiet .nil event _ _ _, h.interrupted htodo hmaster hstatus hdue.ge ?_⟩
    intro sentAt start hcounts
    rw [hdue, htick]
    exact hcounts
  rw [portStep, yields_bind, yields_get] at hruns ⊢
  cases hop : event.op with
  | byte b =>
      rw [yields_leave]
      exact hsame rfl rfl rfl rfl (by simp [CallClock.note, hop])
  | overrun =>
      rw [yields_bind, yields_onSlave_charOverrun, yields_pure]
      exact hsame rfl rfl rfl rfl (by simp [CallClock.note, hop])
  | systick =>
      have hdue : (clock.note event []).tickDue = clock.tickDue + 1000 := by
        simp [CallClock.note, hop]
      rw [yields_leave, hdue]
      refine ⟨exchange.tells_quiet .nil event _ _ _,
        h.interrupted rfl rfl rfl (Nat.le_add_right _ _) ?_⟩
      exact fun sentAt start hcounts => hcounts.tick
  | rs232 rx =>
      rw [yields_bind]
      apply yields_onSlave_modbusRtuProcess flat
      rw [yields_pure]
      exact hsame rfl rfl rfl rfl (by simp [CallClock.note, hop])
  | process =>
      dsimp only
      split
      · next htodo =>
          obtain rfl := h.eq_none htodo
          have hnone : PortExchange.none.note event [.called none] = .none := by
            simp [PortExchange.note, PortExchange.output, hop]
          rw [yields_leave, hnone]
          exact ⟨trivial, .none⟩
      · rw [yields_pure]
        exact hsame rfl rfl rfl rfl (by simp [CallClock.note, CallClock.begun, hop])
  | transaction call =>
      dsimp only
      split
      · next htodo =>
          obtain rfl := h.eq_none htodo
          rw [yields_beginTransaction]
          split_ifs with hsize
          · have hpending : PortExchange.none.note event
                [.called (some (rtuFrame call.slaveId call.reqPdu))] = .pending call := by
              simp [PortExchange.note, PortExchange.output, hop]
            rw [hpending]
            exact ⟨trivial, .pending hsize
              (.pauses rfl (.pauses rfl .masterSend)) (.inl rfl)⟩
          · exact ⟨trivial, .none⟩
      · rw [yields_pure]
        exact hsame rfl rfl rfl rfl (by simp [CallClock.note, CallClock.begun, hop])
  | step halOk =>
      simp only [hop] at hruns
      dsimp only
      split
      · rw [yields_pure]
        exact hsame rfl rfl rfl rfl (by simp [CallClock.note, hop])
      · next htodo =>
          rw [htodo] at hruns
          obtain ⟨outs, s', hrun, -⟩ := hruns
          refine ⟨outs, s', hrun, ?_⟩
          have hdue : (clock.note event outs).tickDue = clock.tickDue := by
            simp [CallClock.note, hop]
          exact hdue.symm ▸ exchanging_takeAction h hop hearly hframes htodo hrun

end Step

/-! ## Runs -/

/-- What holds of the port and its observers between steps. -/
structure InExchange (c d : ℕ) (settings : Dword × Dword × ℕ)
    (s : (Rs485Port cfg × ServiceLog) × PortExchange) : Prop where
  service : InService c d settings s.1.1 s.1.2
  exchanging : Exchanging s.1.2.clock.tickDue s.1.1 s.2

/-- A step that keeps the exchange going, and what the observers make of it. -/
structure Advances (c d : ℕ) (settings : Dword × Dword × ℕ)
    (s : (Rs485Port cfg × ServiceLog) × PortExchange) (event : PortEvent) (outs : List PortOutput)
    (s' : (Rs485Port cfg × ServiceLog) × PortExchange) : Prop where
  kept : InExchange c d settings s'
  shows : Exchanges c d settings.2.1.toNat s event outs s'
  tells : s.2.Tells event s.1.2.clock.tickDue s.1.1.todo s'.1.1.todo outs
  log_eq : s'.1.2 = s.1.2.note s.1.1 event outs s'.1.1
  exchange_eq : s'.2 = s.2.note event outs
  run_eq : (portStep event).run s.1.1 = .ok (outs, s'.1.1)

/-- One step keeps the exchange going. -/
theorem yields_exchangingPort {c d : ℕ} {settings : Dword × Dword × ℕ} {event : PortEvent}
    {s : (Rs485Port cfg × ServiceLog) × PortExchange} (flat : cfg.Flat)
    (h : InExchange c d settings s) (hshort : settings.1.toNat < settings.2.1.toNat)
    (hwrap : settings.2.1.toNat ≤ 38500000)
    (hroom : settings.2.2 ≤ rtuFrameMax) (hd : d ≤ 2 ^ 31)
    (hpolite : Polite c d settings.1.toNat settings.2.2 s.1 event [] s.1) :
    Yields (exchangingPort cfg event) s fun outs s' => Advances c d settings s event outs s' := by
  obtain ⟨⟨s, log⟩, exchange⟩ := s
  obtain ⟨hservice, hexchanging⟩ := h
  have hscheduled := hpolite.scheduled
  have hframes : ∀ frame ∈ (s.framer.process event.now).1, Collectable frame := by
    intro frame hframe
    obtain ⟨hsome, hsize⟩ := hservice.engine.represented.length_process hframe
    have hfits : s.framer.bufferSize = settings.2.2 :=
      congrArg (·.2.2) hservice.engine.settings
    exact ⟨hsome, hsize.trans (hfits.trans_le hroom)⟩
  obtain ⟨outs, s', hrun, hkept, hserves⟩ :=
    yields_portStep_inService flat hservice hshort hwrap hd hpolite
  obtain ⟨htells, hstill⟩ := (yields_portStep_exchanging flat hexchanging hscheduled.early hframes
    ⟨outs, s', hrun, trivial⟩).of_run_eq hrun
  have hdue : log.clock.tickDue ≤ log.clock.now + 1000 := hservice.schedule.tickDue_le
  have hnow : log.clock.now ≤ event.now := hscheduled.ordered
  rw [exchangingPort, yields_watched, servingPort, yields_observed]
  refine ⟨outs, s', hrun, ⟨hkept, hstill⟩, ?_, htells, rfl, rfl, hrun⟩
  exact
    { requested := by
        rintro call rfl data status hmem
        rcases htells with hquiet | ⟨halOk, -, houts⟩
        · exact absurd hmem (hquiet.not_mem rfl)
        · rw [houts] at hmem
          exact (PortOutput.sent.inj (List.mem_singleton.mp hmem)).1
      collected := fun _ _ _ => hserves.collected
      kept := by
        rintro call sentAt rfl rx tx
        rcases htells with hquiet | ⟨frame, -, houts⟩ | ⟨houts, -⟩
        · exact hquiet.not_mem rfl
        · simp [houts]
        · simp [houts]
      handed := fun _ _ _ => hserves.handed
      answered := by
        rintro call frame rfl result hmem
        rcases htells with hquiet | ⟨houts, -⟩
        · exact absurd hmem (hquiet.not_mem rfl)
        · rw [houts] at hmem
          exact PortOutput.returned.inj (List.mem_singleton.mp hmem)
      unanswered := by
        rintro call sentAt rfl result hmem
        rcases htells with hquiet | ⟨frame, -, houts⟩ | ⟨houts, -, helapsed⟩
        · exact absurd hmem (hquiet.not_mem rfl)
        · simp [houts] at hmem
        · rw [houts] at hmem
          have hlasted : sentAt + 1000 * call.timeoutMs ≤ event.now + 1000 :=
            helapsed.trans (hdue.trans (Nat.add_le_add_right hnow 1000))
          refine ⟨PortOutput.returned.inj (List.mem_singleton.mp hmem), hlasted, ?_⟩
          intro block hblock
          have hcollected : event.now ≤ block.2 + collectBound c d settings.2.1.toNat :=
            hserves.collected block hblock
          omega }

/-- On a polite line, with the main thread getting on, a transaction sends its request
as it was framed and returns what the first block after it means. It returns that
nothing came only once its time is up, but for a tick, and only if what is on its
way by then came too late to be collected before. -/
theorem rs485Run_exchanges (rxBuffer completedBuffer : ℕ → Byte) {bufferSize : ℕ}
    (hsize : 1 ≤ bufferSize) (baudrate msTick : Dword) (slave : Slave boardConfig)
    (sysTick : Dword) (c : ℕ) {d : ℕ} (hd : d ≤ 2 ^ 31) {tickDue : ℕ} (htickDue : tickDue ≤ 1000)
    {events : List PortEvent}
    (hpolite : EveryStep (exchangingPort boardConfig)
      (fun s event _ _ => Polite c d (modbusRtuTimeoutsUs baudrate).1.toNat
        (min bufferSize rtuFramerMaxFrame) s.1 event [] s.1)
      ((rs485Init rxBuffer completedBuffer bufferSize baudrate msTick slave sysTick,
        .start tickDue), .none) events) :
    EveryStep (exchangingPort boardConfig) (Exchanges c d (modbusRtuTimeoutsUs baudrate).2.toNat)
      ((rs485Init rxBuffer completedBuffer bufferSize baudrate msTick slave sysTick,
        .start tickDue), .none) events := by
  obtain ⟨hshort, -, hhigh⟩ := modbusRtuTimeoutsUs_bounds baudrate
  let settings := (rtuFramerInit rxBuffer completedBuffer bufferSize baudrate msTick).settings
  have hroom : min bufferSize rtuFramerMaxFrame = settings.2.2 := by
    simp only [settings, RtuFramer.settings, rtuFramerInit]
    split_ifs <;> omega
  refine EveryStep.of_invariant (I := InExchange c d settings) ?_
    ⟨inService_init rxBuffer completedBuffer hsize baudrate msTick slave sysTick c d htickDue,
      .none⟩ hpolite
  rintro s event hs ⟨_, _, -, hstep⟩
  rw [hroom] at hstep
  exact (yields_exchangingPort Config.boardConfig_flat hs hshort hhigh
    (hroom ▸ Nat.min_le_right _ _) hd hstep).mono fun _ _ h => ⟨h.kept, h.shows⟩

/-- Holding register 0 of another slave is read; the response comes within a millisecond. -/
def transactionEvents : List PortEvent :=
  [⟨100, .transaction ⟨0x11, [0x03, 0x00, 0x00, 0x00, 0x01], some 253, 20⟩⟩, ⟨110, .step true⟩,
      ⟨120, .step true⟩, ⟨130, .step true⟩, ⟨140, .step true⟩, ⟨1000, .systick⟩,
      ⟨1100, .step true⟩, ⟨1900, .step true⟩, ⟨1910, .step true⟩, ⟨1920, .step true⟩,
      ⟨1930, .step true⟩, ⟨1940, .step true⟩, ⟨1950, .step true⟩, ⟨2000, .systick⟩,
      ⟨2900, .step true⟩, ⟨2910, .step true⟩, ⟨2920, .step true⟩, ⟨2930, .step true⟩,
      ⟨2940, .step true⟩, ⟨3000, .systick⟩, ⟨3100, .step true⟩] ++
    bytesAt115200 3200 (rtuFrame 0x11 [0x03, 0x02, 0x00, 0x05]) ++
    [⟨3800, .step true⟩, ⟨3810, .step true⟩, ⟨4000, .systick⟩, ⟨4700, .step true⟩,
      ⟨5000, .systick⟩, ⟨5600, .step true⟩, ⟨5610, .step true⟩, ⟨5620, .step true⟩,
      ⟨5630, .step true⟩]

theorem rs485Run_exchanges_transaction :
    EveryStep (exchangingPort boardConfig)
      (Exchanges 3000 1000 (modbusRtuTimeoutsUs 115200).2.toNat)
      ((rs485Port115200.1, .start 1000), .none) transactionEvents :=
  rs485Run_exchanges (fun _ => 0) (fun _ => 0) (show 1 ≤ rtuFramerMaxFrame by decide) 115200 0
    (Slave.powerOn (SyncHooks.none boardConfig)) 0 3000 (by decide) (by decide) (by decide +kernel)

end AutomationBoard.Board
