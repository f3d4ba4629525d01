/-
# The course of an exchange

An exchange between the two boards goes through phases, with a bound on the time of
each: the request is on its way, is collected and answered, the answer is on its
way, is collected and returned. A step of the master, of the slave or of the line
stays in the phase or leads to the next one, and no board is given a byte while it
does not listen.
-/

import AutomationBoard.Board.PortLink
import AutomationBoard.Board.PortSlave
import AutomationBoard.Modbus.Loopback

namespace AutomationBoard.Board

open AutomationBoard.Modbus AutomationBoard.Program AutomationBoard.Serial

variable {cfg : Config}

/-! ## The course of an exchange -/

/-- Where an exchange is, with the stage of the slave: there is none, or the request
is on its way, or with the slave; the answer is being sent, or on its way, or with the
master; or the transaction has it; or there will be none. -/
inductive LinkPhase (c d gap t35 : ℕ) (s : Link cfg) : SlaveStage → Prop
  | idle (hexchange : (s.master.2 = .none ∧ Idles s.master.1.1.todo) ∨
        ∃ call : MasterCall, s.master.2 = .pending call ∧ call.HasTime c d gap t35)
      (hmaster : s.master.1.2.block = none) (hslave : s.slave.2.block = none)
      (hrequest : s.request = []) (hreply : s.reply = []) : LinkPhase c d gap t35 s .listening
  | request {call : MasterCall} {sentAt : ℕ} {came : List Byte}
      (hexchange : s.master.2 = .waiting call sentAt) (htime : call.HasTime c d gap t35)
      (hsize : 1 ≤ call.reqPdu.length ∧ call.reqPdu.length ≤ 253)
      (hmaster : s.master.1.2.block = none)
      (hslave : s.slave.2.block = if came = [] then none else some (came, s.moved))
      (hframe : came ++ s.request = rtuFrame call.slaveId call.reqPdu)
      (hlength : came.length + s.request.length ≤ rtuFrameMax)
      (hmoved : s.moved ≤ sentAt + gap * came.length) (hmore : s.request ≠ [])
      (hreply : s.reply = []) (hanswer : s.answer = none) : LinkPhase c d gap t35 s .listening
  | requested {call : MasterCall} {sentAt arrived : ℕ} {stage : SlaveStage}
      (hexchange : s.master.2 = .waiting call sentAt) (htime : call.HasTime c d gap t35)
      (hsize : 1 ≤ call.reqPdu.length ∧ call.reqPdu.length ≤ 253)
      (hmaster : s.master.1.2.block = none)
      (hslave : s.slave.2.block = some (rtuFrame call.slaveId call.reqPdu, arrived))
      (harrived : arrived ≤ sentAt + 256 * gap)
      (hstage : stage = .listening ∨ ∃ frame, stage = .delivering frame)
      (hrequest : s.request = []) (hreply : s.reply = []) (hanswer : s.answer = none) :
      LinkPhase c d gap t35 s stage
  | answering {call : MasterCall} {sentAt arrived : ℕ} {tx : List Byte}
      (hexchange : s.master.2 = .waiting call sentAt) (htime : call.HasTime c d gap t35)
      (hmaster : s.master.1.2.block = none) (hslave : s.slave.2.block = none)
      (hserved : s.slave.2.served = some arrived) (harrived : arrived ≤ sentAt + 256 * gap)
      (hlength : tx.length ≤ rtuFrameMax) (htx : tx ≠ []) (hrequest : s.request = [])
      (hreply : s.reply = []) (hanswer : s.answer = some tx) :
      LinkPhase c d gap t35 s (.answering tx)
  | reply {call : MasterCall} {sentAt : ℕ} {came : List Byte}
      (hexchange : s.master.2 = .waiting call sentAt) (htime : call.HasTime c d gap t35)
      (hmaster : s.master.1.2.block = if came = [] then none else some (came, s.moved))
      (hslave : s.slave.2.block = none)
      (hlength : came.length + s.reply.length ≤ rtuFrameMax)
      (hmoved : s.moved ≤ sentAt + 256 * gap + answerBound c d t35 + gap * came.length)
      (hmore : s.reply ≠ []) (hrequest : s.request = [])
      (hanswer : s.answer = some (came ++ s.reply)) : LinkPhase c d gap t35 s .listening
  | replied {call : MasterCall} {sentAt arrived : ℕ} {tx : List Byte}
      (hexchange : s.master.2 = .waiting call sentAt) (htime : call.HasTime c d gap t35)
      (hmaster : s.master.1.2.block = some (tx, arrived)) (hslave : s.slave.2.block = none)
      (harrived : arrived ≤ sentAt + 512 * gap + answerBound c d t35) (htx : tx ≠ [])
      (hrequest : s.request = []) (hreply : s.reply = []) (hanswer : s.answer = some tx) :
      LinkPhase c d gap t35 s .listening
  | got {call : MasterCall} {tx : List Byte} (hexchange : s.master.2 = .got call tx)
      (hmaster : s.master.1.2.block = none) (hslave : s.slave.2.block = none) (htx : tx ≠ [])
      (hrequest : s.request = []) (hreply : s.reply = []) (hanswer : s.answer = some tx) :
      LinkPhase c d gap t35 s .listening
  | unanswered {call : MasterCall} {sentAt : ℕ} (hexchange : s.master.2 = .waiting call sentAt)
      (hmaster : s.master.1.2.block = none) (hslave : s.slave.2.block = none)
      (hrequest : s.request = []) (hreply : s.reply = []) (hanswer : s.answer = some []) :
      LinkPhase c d gap t35 s .listening

/-- What holds of the link between steps. -/
structure InLink (c d gap : ℕ) (settings : Dword × Dword × ℕ) (s : Link cfg) : Prop where
  master : InExchange c d settings s.master
  course : ∃ stage, SlaveAt c d settings stage s.slave ∧
    LinkPhase c d gap settings.2.1.toNat s stage

namespace LinkPhase

variable {c d gap t35 now : ℕ} {s : Link cfg} {stage : SlaveStage}

/-- A step of the master that shows nothing. -/
theorem master_quiet (h : LinkPhase c d gap t35 s stage)
    {m : (Rs485Port cfg × ServiceLog) × PortExchange} (hexchange : m.2 = s.master.2)
    (hblock : m.1.2.block = s.master.1.2.block)
    (hidles : s.master.2 = .none → Idles s.master.1.1.todo → Idles m.1.1.todo) :
    LinkPhase c d gap t35 { s with master := m } stage := by
  cases h with
  | idle hidle hmaster hslave hrequest hreply =>
      refine .idle ?_ (hblock.trans hmaster) hslave hrequest hreply
      rcases hidle with ⟨hnone, hfree⟩ | ⟨call, hpending, htime⟩
      · exact .inl ⟨hexchange.trans hnone, hidles hnone hfree⟩
      · exact .inr ⟨call, hexchange.trans hpending, htime⟩
  | request hwaiting htime hsize hmaster hslave hframe hlength hmoved hmore hreply hanswer =>
      exact .request (hexchange.trans hwaiting) htime hsize (hblock.trans hmaster) hslave hframe
        hlength hmoved hmore hreply hanswer
  | requested hwaiting htime hsize hmaster hslave harrived hstage hrequest hreply hanswer =>
      exact .requested (hexchange.trans hwaiting) htime hsize (hblock.trans hmaster) hslave harrived
        hstage hrequest hreply hanswer
  | answering hwaiting htime hmaster hslave hserved harrived hlength htx hrequest hreply hanswer =>
      exact .answering (hexchange.trans hwaiting) htime (hblock.trans hmaster) hslave hserved
        harrived hlength htx hrequest hreply hanswer
  | reply hwaiting htime hmaster hslave hlength hmoved hmore hrequest hanswer =>
      exact .reply (hexchange.trans hwaiting) htime (hblock.trans hmaster) hslave hlength hmoved
        hmore hrequest hanswer
  | replied hwaiting htime hmaster hslave harrived htx hrequest hreply hanswer =>
      exact .replied (hexchange.trans hwaiting) htime (hblock.trans hmaster) hslave harrived htx
        hrequest hreply hanswer
  | got hgot hmaster hslave htx hrequest hreply hanswer =>
      exact .got (hexchange.trans hgot) (hblock.trans hmaster) hslave htx hrequest hreply hanswer
  | unanswered hwaiting hmaster hslave hrequest hreply hanswer =>
      exact .unanswered (hexchange.trans hwaiting) (hblock.trans hmaster) hslave hrequest hreply
        hanswer

/-- A step of the slave that shows nothing. -/
theorem slave_quiet (h : LinkPhase c d gap t35 s stage) {p : Rs485Port cfg × ServiceLog}
    (hblock : p.2.block = s.slave.2.block) (hserved : p.2.served = s.slave.2.served) :
    LinkPhase c d gap t35 { s with slave := p } stage := by
  cases h with
  | idle hidle hmaster hslave hrequest hreply =>
      exact .idle hidle hmaster (hblock.trans hslave) hrequest hreply
  | request hwaiting htime hsize hmaster hslave hframe hlength hmoved hmore hreply hanswer =>
      exact .request hwaiting htime hsize hmaster (hblock.trans hslave) hframe hlength hmoved hmore
        hreply hanswer
  | requested hwaiting htime hsize hmaster hslave harrived hstage hrequest hreply hanswer =>
      exact .requested hwaiting htime hsize hmaster (hblock.trans hslave) harrived hstage hrequest
        hreply hanswer
  | answering hwaiting htime hmaster hslave hserved' harrived hlength htx hrequest hreply hanswer =>
      exact .answering hwaiting htime hmaster (hblock.trans hslave) (hserved.trans hserved')
        harrived hlength htx hrequest hreply hanswer
  | reply hwaiting htime hmaster hslave hlength hmoved hmore hrequest hanswer =>
      exact .reply hwaiting htime hmaster (hblock.trans hslave) hlength hmoved hmore hrequest
        hanswer
  | replied hwaiting htime hmaster hslave harrived htx hrequest hreply hanswer =>
      exact .replied hwaiting htime hmaster (hblock.trans hslave) harrived htx hrequest hreply
        hanswer
  | got hgot hmaster hslave htx hrequest hreply hanswer =>
      exact .got hgot hmaster (hblock.trans hslave) htx hrequest hreply hanswer
  | unanswered hwaiting hmaster hslave hrequest hreply hanswer =>
      exact .unanswered hwaiting hmaster (hblock.trans hslave) hrequest hreply hanswer

/-- While an answer may still come, the exchange is not over its bound. -/
theorem now_le (h : LinkPhase c d gap t35 s stage) {call : MasterCall} {sentAt : ℕ}
    (hexchange : s.master.2 = .waiting call sentAt)
    (hcarried : s.request ≠ [] ∨ s.reply ≠ [] → now ≤ s.moved + gap)
    (hmaster : ∀ block ∈ s.master.1.2.block, now ≤ block.2 + collectBound c d t35)
    (hslave : ∀ block ∈ s.slave.2.block, now ≤ block.2 + collectBound c d t35)
    (hserved : ∀ tx, stage = .answering tx →
      ∃ last ∈ s.slave.2.served, now ≤ last + answerBound c d t35) :
    (call.HasTime c d gap t35 ∧ now ≤ sentAt + exchangeBound c d gap t35) ∨
      s.answer = some [] := by
  have hpair {call' : MasterCall} {sentAt' : ℕ} (h : s.master.2 = .waiting call' sentAt') :
      call = call' ∧ sentAt = sentAt' := PortExchange.waiting.inj (hexchange.symm.trans h)
  have hgap {n : ℕ} (hn : n + 1 ≤ rtuFrameMax) : gap * n + gap ≤ 256 * gap := by
    have := Nat.mul_le_mul_left gap hn
    rw [Nat.mul_succ] at this
    unfold rtuFrameMax at this
    omega
  unfold exchangeBound
  cases h with
  | idle hidle =>
      rcases hidle with ⟨hnone, -⟩ | ⟨call', hpending, -⟩
      · cases hexchange.symm.trans hnone
      · cases hexchange.symm.trans hpending
  | @request _ _ came hwaiting htime _ _ _ _ hlength hmoved hmore =>
      obtain ⟨rfl, rfl⟩ := hpair hwaiting
      have hnow := hcarried (.inl hmore)
      have hleft := List.length_pos_iff.mpr hmore
      have := hgap (show came.length + 1 ≤ rtuFrameMax by omega)
      exact .inl ⟨htime, by omega⟩
  | requested hwaiting htime _ _ hblock harrived =>
      obtain ⟨rfl, rfl⟩ := hpair hwaiting
      have hnow := hslave _ hblock
      exact .inl ⟨htime, by simp only at hnow; omega⟩
  | answering hwaiting htime _ _ hlast harrived =>
      obtain ⟨rfl, rfl⟩ := hpair hwaiting
      obtain ⟨last, hmem, hnow⟩ := hserved _ rfl
      obtain rfl := Option.some.inj (hlast.symm.trans hmem)
      exact .inl ⟨htime, by omega⟩
  | @reply _ _ came hwaiting htime _ _ hlength hmoved hmore =>
      obtain ⟨rfl, rfl⟩ := hpair hwaiting
      have hnow := hcarried (.inr hmore)
      have hleft := List.length_pos_iff.mpr hmore
      have := hgap (show came.length + 1 ≤ rtuFrameMax by omega)
      exact .inl ⟨htime, by omega⟩
  | replied hwaiting htime hblock _ harrived =>
      obtain ⟨rfl, rfl⟩ := hpair hwaiting
      have hnow := hmaster _ hblock
      exact .inl ⟨htime, by simp only at hnow; omega⟩
  | got hgot => cases hexchange.symm.trans hgot
  | unanswered _ _ _ _ _ hanswer => exact .inr hanswer

end LinkPhase

/-! ## What the master does -/

/-- What a master without a transaction shows, while nothing comes for it. -/
structure MasterIdles (c d gap t35 : ℕ) (outs : List PortOutput)
    (m : (Rs485Port cfg × ServiceLog) × PortExchange) : Prop where
  exchange : (m.2 = .none ∧ Idles m.1.1.todo) ∨
    ∃ call : MasterCall, m.2 = .pending call ∧ call.HasTime c d gap t35
  unsent : outs.flatMap PortOutput.sentData = []
  uncollected : outs.any PortOutput.isCollected = false

section Link

variable {c d gap : ℕ} {settings : Dword × Dword × ℕ} {s : Link cfg} {event : LinkEvent}
  {outs : List PortOutput} {m : (Rs485Port cfg × ServiceLog) × PortExchange}

/-- A master without a transaction stays idle, or begins one. -/
theorem Advances.idles {event : PortEvent} {s : (Rs485Port cfg × ServiceLog) × PortExchange}
    {gap t35 : ℕ} (flat : cfg.Flat) (h : Advances c d settings s event outs m)
    (hnone : s.2 = .none)
    (hidles : Idles s.1.1.todo) (hblock : s.1.2.block = none)
    (hexpected : event.op.Expected s.1.2.clock.tickDue event.now)
    (htime : ∀ call, event.op = .transaction call → call.HasTime c d gap t35) :
    MasterIdles c d gap t35 outs m := by
  have hbyte : ∀ b, event.op ≠ .byte b := fun b hop => by simp [hop, PortOp.Expected] at hexpected
  have hexchange := h.exchange_eq
  rw [hnone] at hexchange
  by_cases hcall : ∃ call, event.op = .transaction call
  · obtain ⟨call, hop⟩ := hcall
    obtain ⟨rfl | rfl, htodo⟩ | rfl := (yields_portStep_transaction hop).of_run_eq h.run_eq
    · exact ⟨.inl ⟨hexchange, htodo ▸ hidles⟩, rfl, rfl⟩
    · exact ⟨.inl ⟨hexchange, htodo ▸ hidles⟩, rfl, rfl⟩
    · refine ⟨.inr ⟨call, ?_, htime call hop⟩, rfl, rfl⟩
      rw [hexchange]
      simp [PortExchange.note, PortExchange.output, hop]
  · have hcalls : ∀ call, event.op ≠ .transaction call := fun call hop => hcall ⟨call, hop⟩
    have hok : ∀ halOk, event.op = .step halOk → halOk := fun halOk hop => by
      simpa [hop, PortOp.Expected] using hexpected
    have hlistening : SlaveStage.listening.At s.1.1.todo := hidles
    obtain ⟨stage, htells, hstage⟩ := (yields_portStep_slave flat hlistening
      (fun _ hne => by cases hne) hcalls hok).of_run_eq h.run_eq
    rw [PortExchange.note_none hcalls] at hexchange
    cases htells with
    | quiet hquiet => exact ⟨.inl ⟨hexchange, hstage⟩, hquiet.sentData, hquiet.uncollected⟩
    | called => exact ⟨.inl ⟨hexchange, hstage⟩, rfl, rfl⟩
    | @collected frame =>
        have hmem : .callback frame ∈ m.1.1.todo := by
          rw [show m.1.1.todo = [.callback frame] from hstage]
          exact List.mem_singleton_self _
        obtain ⟨last, hsome, -⟩ := h.kept.service.delivering hmem
        rw [h.log_eq, block_note_quiet hbyte rfl, hblock] at hsome
        cases hsome

/-- What the master does while it waits, before its time is up: it goes on, or it is
given the block that has come. -/
theorem Advances.waits {event : PortEvent} {s : (Rs485Port cfg × ServiceLog) × PortExchange}
    {call : MasterCall} {sentAt bound : ℕ} (h : Advances c d settings s event outs m)
    (hservice : InService c d settings s.1.1 s.1.2) (hexchange : s.2 = .waiting call sentAt)
    (hnow : event.now ≤ sentAt + bound) (hpatient : bound + 1000 < 1000 * call.timeoutMs) :
    Quiet outs ∨ ∃ frame last, outs = [.handed frame] ∧ s.1.2.block = some (frame, last) ∧
      last + settings.2.1.toNat ≤ s.1.2.clock.now := by
  have htells := h.tells
  rw [hexchange] at htells
  rcases htells with hquiet | ⟨frame, hmem, houts⟩ | ⟨houts, -⟩
  · exact .inl hquiet
  · obtain ⟨last, hblock, hlast⟩ := hservice.delivering hmem
    exact .inr ⟨frame, last, houts, hblock, hlast⟩
  · have hreturned : .returned (.plain .timeout) ∈ outs := houts ▸ List.mem_singleton_self _
    obtain ⟨-, hup, -⟩ := h.shows.unanswered call sentAt hexchange _ hreturned
    omega

/-- The settings of both ports, with room for any frame, and a gap on the line that
is no longer than T1.5. -/
structure LinkSettings (d gap : ℕ) (settings : Dword × Dword × ℕ) : Prop where
  short : settings.1.toNat < settings.2.1.toNat
  wrap : settings.2.1.toNat ≤ 38500000
  room : settings.2.2 = rtuFrameMax
  delay : d ≤ 2 ^ 31
  gap_le : gap ≤ settings.1.toNat

/-- A step of the master, on the link. -/
structure MasterMoves (c d gap t35 : ℕ) (s : Link cfg) (stage : SlaveStage) (event : LinkEvent)
    (outs : List PortOutput) (m : (Rs485Port cfg × ServiceLog) × PortExchange) : Prop where
  phase : LinkPhase c d gap t35 (Link.requested event.now outs { s with master := m }) stage
  shows : LinkExchanges s event (outs, [])
    (Link.requested event.now outs { s with master := m })

/-- A step of a busy master that shows nothing. -/
theorem linkPhase_master_quiet {t35 : ℕ} {stage : SlaveStage} {event' : PortEvent}
    (hphase : LinkPhase c d gap t35 s stage) (h : Advances c d settings s.master event' outs m)
    (hbyte : ∀ b, event'.op ≠ .byte b) (hbusy : s.master.2 ≠ .none) (hquiet : Quiet outs) :
    MasterMoves c d gap t35 s stage event outs m := by
  constructor
  · rw [Link.requested_nil hquiet.sentData]
    refine hphase.master_quiet (h.exchange_eq.trans (PortExchange.note_quiet hquiet _ _)) ?_
      fun hnone => absurd hnone hbusy
    rw [h.log_eq]
    exact block_note_quiet hbyte hquiet.uncollected
  · exact
      { served := fun _ _ hmem => absurd hmem List.not_mem_nil
        kept := fun _ _ => hquiet.not_mem rfl
        unanswered := fun _ _ _ _ hmem => absurd hmem (hquiet.not_mem rfl)
        returned := fun _ _ _ _ hmem => absurd hmem (hquiet.not_mem rfl) }

/-- A step of the master that is given the block that has come. -/
theorem linkPhase_master_handed {t35 sentAt : ℕ} {call : MasterCall} {tx : List Byte}
    {event' : PortEvent} (h : Advances c d settings s.master event' [.handed tx] m)
    (hbyte : ∀ b, event'.op ≠ .byte b) (hexchange : s.master.2 = .waiting call sentAt)
    (hslave : s.slave.2.block = none) (htx : tx ≠ []) (hrequest : s.request = [])
    (hreply : s.reply = []) (hanswer : s.answer = some tx) :
    MasterMoves c d gap t35 s .listening event [.handed tx] m := by
  constructor
  · rw [Link.requested_nil rfl]
    have hgot : m.2 = .got call tx := by
      rw [h.exchange_eq, hexchange]
      rfl
    refine .got hgot ?_ hslave htx hrequest hreply hanswer
    · rw [h.log_eq, block_note hbyte]
      exact if_pos rfl
  · exact
      { served := fun _ _ hmem => absurd hmem List.not_mem_nil
        kept := by simp
        unanswered := by simp
        returned := by simp }

/-- A master without a transaction leaves the line free, or makes a request. -/
theorem linkPhase_master_idle {t35 : ℕ} {event' : PortEvent}
    (h : Advances c d settings s.master event' outs m) (hbyte : ∀ b, event'.op ≠ .byte b)
    (hnone : s.master.2 = .none) (hidles : MasterIdles c d gap t35 outs m)
    (hmaster : s.master.1.2.block = none) (hslave : s.slave.2.block = none)
    (hrequest : s.request = []) (hreply : s.reply = []) :
    MasterMoves c d gap t35 s .listening event outs m := by
  constructor
  · rw [Link.requested_nil hidles.unsent]
    refine .idle hidles.exchange ?_ hslave hrequest hreply
    rw [h.log_eq]
    exact (block_note_quiet hbyte hidles.uncollected).trans hmaster
  · exact
      { served := fun _ _ hmem => absurd hmem List.not_mem_nil
        kept := fun _ _ => not_mem_of_uncollected hidles.uncollected rfl
        unanswered := fun _ _ hwaiting => by cases hnone.symm.trans hwaiting
        returned := fun _ _ hgot => by cases hnone.symm.trans hgot }

/-- The request leaves. -/
theorem linkPhase_master_sent {t35 : ℕ} {call : MasterCall} {event' : PortEvent}
    (h : Advances c d settings s.master event'
      [.sent (rtuFrame call.slaveId call.reqPdu) .ok] m)
    (hbyte : ∀ b, event'.op ≠ .byte b) (hnow : event'.now = event.now)
    (hservice : InExchange c d settings s.master) (hpending : s.master.2 = .pending call)
    (htime : call.HasTime c d gap t35) (hmaster : s.master.1.2.block = none)
    (hslave : s.slave.2.block = none) (hrequest : s.request = []) (hreply : s.reply = []) :
    MasterMoves c d gap t35 s .listening event
      [.sent (rtuFrame call.slaveId call.reqPdu) .ok] m := by
  have hlength := length_rtuFrame call.slaveId call.reqPdu
  have hframe : rtuFrame call.slaveId call.reqPdu ≠ [] :=
    List.ne_nil_of_length_pos (hlength ▸ Nat.succ_pos _)
  have hwaiting : m.2 = .waiting call event.now := by
    rw [h.exchange_eq, hpending]
    simp only [PortExchange.note, List.foldl_cons, List.foldl_nil, PortExchange.output,
      if_neg htime.unicast, hnow]
  have hsize : 1 ≤ call.reqPdu.length ∧ call.reqPdu.length ≤ 253 := by
    have hpends := hservice.exchanging
    rw [hpending] at hpends
    cases hpends with
    | pending hsize => exact hsize
  have hnothing : s.slave.2.block =
      if ([] : List Byte) = [] then none else some ([], event.now) := by
    rw [if_pos rfl]
    exact hslave
  constructor
  · rw [Link.requested_sent hframe]
    refine .request hwaiting htime hsize ?_ hnothing ?_ ?_ (Nat.le_add_right _ _) ?_ hreply rfl
    · rw [h.log_eq]
      exact (block_note_quiet hbyte rfl).trans hmaster
    · rw [hrequest, List.nil_append, List.nil_append]
    · simp only [hrequest, List.length_nil, List.nil_append, rtuFrameMax]
      omega
    · rw [hrequest, List.nil_append]
      exact hframe
  · exact
      { served := fun _ _ hmem => absurd hmem List.not_mem_nil
        kept := by simp
        unanswered := by simp
        returned := by simp }

/-- The transaction returns. -/
theorem linkPhase_master_returned {t35 : ℕ} {result : Transacted} {event' : PortEvent}
    (h : Advances c d settings s.master event' [.returned result] m)
    (hbyte : ∀ b, event'.op ≠ .byte b) (hnone : m.2 = .none) (htodo : m.1.1.todo = [])
    (hmaster : s.master.1.2.block = none) (hslave : s.slave.2.block = none)
    (hrequest : s.request = []) (hreply : s.reply = [])
    (hunanswered : ∀ call sentAt, s.master.2 = .waiting call sentAt →
      s.answer = some [] ∧ result = answered call [])
    (hreturned : ∀ call frame, s.master.2 = .got call frame →
      s.answer = some frame ∧ result = answered call frame) :
    MasterMoves c d gap t35 s .listening event [.returned result] m := by
  have hresult {result' : Transacted} (hmem : .returned result' ∈ [PortOutput.returned result]) :
      result' = result := PortOutput.returned.inj (List.mem_singleton.mp hmem)
  constructor
  · rw [Link.requested_nil rfl]
    refine .idle (.inl ⟨hnone, htodo ▸ .free⟩) ?_ hslave hrequest hreply
    rw [h.log_eq]
    exact (block_note_quiet hbyte rfl).trans hmaster
  · exact
      { served := fun _ _ hmem => absurd hmem List.not_mem_nil
        kept := by simp
        unanswered := fun call sentAt hwaiting _ hmem =>
          hresult hmem ▸ hunanswered call sentAt hwaiting
        returned := fun call frame hgot _ hmem => hresult hmem ▸ hreturned call frame hgot }

/-- What the master does on the link. -/
theorem linkPhase_master {t35 : ℕ} {stage : SlaveStage} {event' : PortEvent} (flat : cfg.Flat)
    (hset : LinkSettings d gap settings) (ht35 : settings.2.1.toNat = t35)
    (hphase : LinkPhase c d gap t35 s stage) (h : Advances c d settings s.master event' outs m)
    (hservice : InExchange c d settings s.master) (hnow : event'.now = event.now)
    (hordered : s.master.1.2.clock.now ≤ event.now)
    (hexpected : event'.op.Expected s.master.1.2.clock.tickDue event'.now)
    (htime : ∀ call, event'.op = .transaction call → call.HasTime c d gap t35)
    (hcarried : s.request ≠ [] ∨ s.reply ≠ [] → event.now ≤ s.moved + gap)
    (hbound : ∀ call sentAt, s.master.2 = .waiting call sentAt →
      (call.HasTime c d gap t35 ∧ event.now ≤ sentAt + exchangeBound c d gap t35) ∨
        s.answer = some []) :
    MasterMoves c d gap t35 s stage event outs m := by
  have hbyte : ∀ b, event'.op ≠ .byte b := fun b hop => by simp [hop, PortOp.Expected] at hexpected
  have hwaits {call : MasterCall} {sentAt : ℕ} (hexchange : s.master.2 = .waiting call sentAt)
      (hunanswered : s.answer ≠ some []) : Quiet outs ∨ ∃ frame last, outs = [.handed frame] ∧
        s.master.1.2.block = some (frame, last) ∧ last + t35 ≤ event.now := by
    obtain ⟨hpatient, hdue⟩ := (hbound call sentAt hexchange).resolve_right hunanswered
    rcases h.waits hservice.service hexchange (hnow ▸ hdue) hpatient.patient with
      hquiet | ⟨frame, last, houts, hblock, hlast⟩
    · exact .inl hquiet
    · exact .inr ⟨frame, last, houts, hblock, ht35 ▸ hlast.trans hordered⟩
  have hquiet (hbusy : s.master.2 ≠ .none) (houts : Quiet outs) :
      MasterMoves c d gap t35 s stage event outs m :=
    linkPhase_master_quiet hphase h hbyte hbusy houts
  cases hphase with
  | idle hidle hmaster hslave hrequest hreply =>
      rcases hidle with ⟨hnone, hidles⟩ | ⟨call, hpending, hcall⟩
      · exact linkPhase_master_idle h hbyte hnone
          (h.idles flat hnone hidles hmaster hexpected htime) hmaster hslave hrequest hreply
      · have htells := h.tells
        rw [hpending] at htells
        rcases htells with houts | ⟨halOk, hop, rfl⟩
        · exact hquiet (by simp [hpending]) houts
        · obtain rfl : halOk = true := by simpa [hop, PortOp.Expected] using hexpected
          exact linkPhase_master_sent h hbyte hnow hservice hpending hcall hmaster hslave hrequest
            hreply
  | request hwaiting _ _ hmaster _ _ _ _ _ _ hanswer
  | requested hwaiting _ _ hmaster _ _ _ _ _ hanswer =>
      rcases hwaits hwaiting (by simp [hanswer]) with houts | ⟨_, _, -, hblock, -⟩
      · exact hquiet (by simp [hwaiting]) houts
      · cases hmaster.symm.trans hblock
  | answering hwaiting _ hmaster _ _ _ _ htx _ _ hanswer =>
      rcases hwaits hwaiting (by simpa [hanswer] using htx) with houts | ⟨_, _, -, hblock, -⟩
      · exact hquiet (by simp [hwaiting]) houts
      · cases hmaster.symm.trans hblock
  | reply hwaiting _ hmaster _ _ _ hmore _ hanswer =>
      rcases hwaits hwaiting (by simp [hanswer, hmore]) with houts | ⟨_, last, -, hblock, hlast⟩
      · exact hquiet (by simp [hwaiting]) houts
      · -- The bytes keep a gap that is shorter than T3.5, so the block is not over.
        have hgap := hcarried (.inr hmore)
        have hshort := hset.short
        have hgap_le := hset.gap_le
        rw [hblock] at hmaster
        split_ifs at hmaster
        obtain ⟨-, rfl⟩ := Prod.mk.inj (Option.some.inj hmaster)
        omega
  | replied hwaiting _ hmaster hslave harrived htx hrequest hreply hanswer =>
      rcases hwaits hwaiting (by simpa [hanswer] using htx) with
        houts | ⟨frame, last, rfl, hblock, -⟩
      · exact hquiet (by simp [hwaiting]) houts
      · obtain ⟨rfl, -⟩ := Prod.mk.inj (Option.some.inj (hmaster.symm.trans hblock))
        exact linkPhase_master_handed h hbyte hwaiting hslave htx hrequest hreply hanswer
  | @got call tx hgot hmaster hslave htx hrequest hreply hanswer =>
      have htells := h.tells
      rw [hgot] at htells
      rcases htells with houts | ⟨rfl, htodo⟩
      · exact hquiet (by simp [hgot]) houts
      · have hnone : m.2 = .none := by
          rw [h.exchange_eq, hgot]
          rfl
        refine linkPhase_master_returned h hbyte hnone htodo hmaster hslave hrequest hreply
          (fun _ _ hwaiting => by cases hgot.symm.trans hwaiting) fun call' frame hgot' => ?_
        obtain ⟨rfl, rfl⟩ := PortExchange.got.inj (hgot.symm.trans hgot')
        exact ⟨hanswer, (if_neg htx).symm⟩
  | @unanswered call sentAt hwaiting hmaster hslave hrequest hreply hanswer =>
      have htells := h.tells
      rw [hwaiting] at htells
      rcases htells with houts | ⟨frame, -, rfl⟩ | ⟨rfl, htodo, -⟩
      · exact hquiet (by simp [hwaiting]) houts
      · obtain ⟨last, hblock⟩ :=
          h.shows.handed call sentAt hwaiting frame (List.mem_singleton_self _)
        cases hmaster.symm.trans hblock
      · have hnone : m.2 = .none := by
          rw [h.exchange_eq, hwaiting]
          rfl
        exact linkPhase_master_returned h hbyte hnone htodo hmaster hslave hrequest hreply
          (fun _ _ _ => ⟨hanswer, (if_pos rfl).symm⟩)
          fun _ _ hgot => by cases hwaiting.symm.trans hgot

/-! ## What the slave does -/

/-- A step of the slave, on the link. -/
structure SlaveMoves (c d gap t35 : ℕ) (s : Link cfg) (event : LinkEvent)
    (outs : List PortOutput) (p : Rs485Port cfg × ServiceLog) (stage' : SlaveStage) : Prop where
  phase : LinkPhase c d gap t35 (Link.replied event.now outs { s with slave := p }) stage'
  shows : LinkExchanges s event ([], outs) (Link.replied event.now outs { s with slave := p })

/-- What only the slave shows. -/
theorem linkExchanges_slave {s' : Link cfg}
    (hserved : ∀ rx tx, .served rx tx ∈ outs → ∃ call sentAt, s.master.2 = .waiting call sentAt ∧
      rx = rtuFrame call.slaveId call.reqPdu ∧ s.answer = none ∧
        Yields (modbusRtuProcess rx) s.slave.1.slave fun out _ => out.tx = tx) :
    LinkExchanges s event ([], outs) s' where
  served := hserved
  kept _ _ := List.not_mem_nil
  unanswered _ _ _ _ hmem := absurd hmem List.not_mem_nil
  returned _ _ _ _ hmem := absurd hmem List.not_mem_nil

/-- A step of the slave that says nothing. -/
theorem linkPhase_slave_silent {t35 : ℕ} {stage stage' : SlaveStage} {event' : PortEvent}
    {p : Rs485Port cfg × ServiceLog} (hphase : LinkPhase c d gap t35 s stage)
    (h : SlaveAdvances c d settings stage s.slave event' outs p stage')
    (hbyte : ∀ b, event'.op ≠ .byte b) (hunsent : outs.flatMap PortOutput.sentData = [])
    (hanswer : outs.findSome? PortOutput.answer = none)
    (huncollected : outs.any PortOutput.isCollected = false) :
    SlaveMoves c d gap t35 s event outs p stage := by
  constructor
  · rw [Link.replied_nil hunsent hanswer]
    refine hphase.slave_quiet ?_ ?_ <;> rw [h.log_eq]
    · exact block_note_quiet hbyte huncollected
    · exact ServiceLog.served_note huncollected
  · exact linkExchanges_slave fun _ _ hmem => absurd hmem (not_mem_of_uncollected huncollected rfl)

/-- An answer fits into a frame. -/
theorem length_answer (flat : cfg.Flat) {slave : Slave cfg} {call : MasterCall} {tx : List Byte}
    (hunicast : call.slaveId ≠ 0) (hsize : 1 ≤ call.reqPdu.length ∧ call.reqPdu.length ≤ 253)
    (h : Yields (modbusRtuProcess (rtuFrame call.slaveId call.reqPdu)) slave
      fun out _ => out.tx = tx) : tx.length ≤ rtuFrameMax := by
  obtain ⟨out, slave', hrun, rfl⟩ := h
  have hstep := (yields_modbusRtuProcess flat slave _).of_run_eq hrun
  rw [show out = _ from congrArg Prod.fst hstep]
  exact (answeredTo_slaveStep flat slave hunicast hsize.1 hsize.2).length_le

/-- The slave serves the request. -/
theorem linkExchanges_served {rx tx : List Byte} {call : MasterCall} {sentAt : ℕ} {s' : Link cfg}
    (hexchange : s.master.2 = .waiting call sentAt)
    (hframe : rx = rtuFrame call.slaveId call.reqPdu) (hanswer : s.answer = none)
    (h : Yields (modbusRtuProcess rx) s.slave.1.slave fun out _ => out.tx = tx) :
    LinkExchanges s event ([], [.served rx tx]) s' := by
  refine linkExchanges_slave fun rx' tx' hmem => ?_
  obtain ⟨rfl, rfl⟩ := PortOutput.served.inj (List.mem_singleton.mp hmem)
  exact ⟨call, sentAt, hexchange, hframe, hanswer, h⟩

/-- The engine gives the slave a frame. -/
theorem linkPhase_slave_collected {t35 : ℕ} {frame : List Byte} {event' : PortEvent}
    {p : Rs485Port cfg × ServiceLog} (hset : LinkSettings d gap settings)
    (ht35 : settings.2.1.toNat = t35) (hphase : LinkPhase c d gap t35 s .listening)
    (h : SlaveAdvances c d settings .listening s.slave event' [] p (.delivering frame))
    (hnow : p.2.clock.now = event.now) (hbyte : ∀ b, event'.op ≠ .byte b)
    (hcarried : s.request ≠ [] ∨ s.reply ≠ [] → event.now ≤ s.moved + gap) :
    SlaveMoves c d gap t35 s event [] p (.delivering frame) := by
  have hmem : .callback frame ∈ p.1.todo := by
    rw [show p.1.todo = [.callback frame] from h.kept.stage]
    exact List.mem_singleton_self _
  obtain ⟨last, hblock, hlast⟩ := h.kept.service.delivering hmem
  rw [hnow] at hlast
  rw [h.log_eq, block_note_quiet hbyte rfl] at hblock
  have hsilent : SlaveMoves c d gap t35 s event [] p .listening :=
    linkPhase_slave_silent hphase h hbyte rfl rfl rfl
  cases hphase with
  | idle _ _ hslave | reply _ _ _ hslave | replied _ _ _ hslave | got _ _ hslave
  | unanswered _ _ hslave => cases hslave.symm.trans hblock
  | request _ _ _ _ hslave _ _ _ hmore =>
      -- The bytes keep a gap that is shorter than T3.5, so the block is not over.
      have hgap := hcarried (.inl hmore)
      have hshort := hset.short
      have hgap_le := hset.gap_le
      rw [hblock] at hslave
      split_ifs at hslave
      obtain ⟨-, rfl⟩ := Prod.mk.inj (Option.some.inj hslave)
      omega
  | requested hwaiting htime hsize hmaster hslave harrived _ hrequest hreply hanswer =>
      refine ⟨?_, hsilent.shows⟩
      rw [Link.replied_nil rfl rfl]
      refine .requested hwaiting htime hsize hmaster ?_ harrived (.inr ⟨frame, rfl⟩) hrequest
        hreply hanswer
      rw [h.log_eq]
      exact (block_note_quiet hbyte rfl).trans hslave

/-- The answer leaves. -/
theorem linkPhase_slave_sent {t35 : ℕ} {tx : List Byte} {event' : PortEvent}
    {p : Rs485Port cfg × ServiceLog} (hphase : LinkPhase c d gap t35 s (.answering tx))
    (h : SlaveAdvances c d settings (.answering tx) s.slave event' [.sent tx .ok] p .listening)
    (hbyte : ∀ b, event'.op ≠ .byte b)
    (hserved : ∃ last ∈ s.slave.2.served, event.now ≤ last + answerBound c d t35) :
    SlaveMoves c d gap t35 s event [.sent tx .ok] p .listening := by
  obtain ⟨last, hmem, hdue⟩ := hserved
  cases hphase with
  | requested _ _ _ _ _ _ hstage =>
      rcases hstage with hlistens | ⟨frame, hdelivers⟩
      · cases hlistens
      · cases hdelivers
  | answering hwaiting htime hmaster hslave hlast harrived hlength htx hrequest hreply
      hanswer =>
      obtain rfl := Option.some.inj (hlast.symm.trans hmem)
      have hnothing : s.master.1.2.block =
          if ([] : List Byte) = [] then none else some ([], event.now) := by
        rw [if_pos rfl]
        exact hmaster
      refine ⟨?_, linkExchanges_slave (by simp)⟩
      rw [Link.replied_sent htx]
      refine .reply hwaiting htime hnothing ?_ ?_ ?_ ?_ hrequest ?_
      · rw [h.log_eq]
        exact (block_note_quiet hbyte rfl).trans hslave
      · simpa [hreply] using hlength
      · simp only
        omega
      · simpa [hreply] using htx
      · simpa [hreply] using hanswer

/-- What the slave does on the link. -/
theorem linkPhase_slave {t35 : ℕ} {stage stage' : SlaveStage} {event' : PortEvent}
    {p : Rs485Port cfg × ServiceLog} (flat : cfg.Flat) (hset : LinkSettings d gap settings)
    (ht35 : settings.2.1.toNat = t35) (hphase : LinkPhase c d gap t35 s stage)
    (h : SlaveAdvances c d settings stage s.slave event' outs p stage')
    (hnow : p.2.clock.now = event.now) (hbyte : ∀ b, event'.op ≠ .byte b)
    (hcarried : s.request ≠ [] ∨ s.reply ≠ [] → event.now ≤ s.moved + gap)
    (hserved : ∀ tx, stage = .answering tx →
      ∃ last ∈ s.slave.2.served, event.now ≤ last + answerBound c d t35) :
    SlaveMoves c d gap t35 s event outs p stage' := by
  have hserves := h.serves
  have hlog := h.log_eq
  cases h.tells with
  | quiet hquiet =>
      exact linkPhase_slave_silent hphase h hbyte hquiet.sentData hquiet.answer hquiet.uncollected
  | called => exact linkPhase_slave_silent hphase h hbyte rfl rfl rfl
  | @collected frame => exact linkPhase_slave_collected hset ht35 hphase h hnow hbyte hcarried
  | @served frame tx htx =>
      obtain ⟨⟨last, hblock⟩, hyields⟩ := hserves.served frame tx (List.mem_singleton_self _)
      cases hphase with
      | requested hwaiting htime hsize hmaster hslave harrived _ hrequest hreply hanswer =>
          obtain ⟨hframe, rfl⟩ := Prod.mk.inj (Option.some.inj (hblock.symm.trans hslave))
          refine ⟨?_, linkExchanges_served hwaiting hframe hanswer hyields⟩
          rw [Link.replied_served]
          refine .answering hwaiting htime hmaster ?_ ?_ harrived
            (length_answer flat htime.unicast hsize (hframe ▸ hyields)) htx hrequest hreply rfl
          · rw [hlog, block_note hbyte]
            exact if_pos rfl
          · rw [hlog]
            simp [ServiceLog.note, PortOutput.isServed, hslave]
  | @ignored frame =>
      obtain ⟨⟨last, hblock⟩, hyields⟩ := hserves.served frame [] (List.mem_singleton_self _)
      cases hphase with
      | requested hwaiting _ _ hmaster hslave _ _ hrequest hreply hanswer =>
          obtain ⟨hframe, -⟩ := Prod.mk.inj (Option.some.inj (hblock.symm.trans hslave))
          refine ⟨?_, linkExchanges_served hwaiting hframe hanswer hyields⟩
          rw [Link.replied_served]
          refine .unanswered hwaiting hmaster ?_ hrequest hreply rfl
          rw [hlog, block_note hbyte]
          exact if_pos rfl
  | @sent tx => exact linkPhase_slave_sent hphase h hbyte (hserved tx rfl)

/-! ## What the line does -/

/-- A step that shows nothing. -/
theorem linkExchanges_nothing {s' : Link cfg} : LinkExchanges s event ([], []) s' :=
  linkExchanges_slave fun _ _ hmem => absurd hmem List.not_mem_nil

/-- The bytes that have come so far are the block. -/
theorem elim_block {came : List Byte} {last : ℕ} :
    (if came = [] then none else some (came, last) : Option (List Byte × ℕ)).elim [] Prod.fst =
      came := by
  split_ifs with hnil
  · exact hnil.symm
  · rfl

/-- The next byte of the request reaches the slave. -/
theorem linkPhase_toSlave {t35 : ℕ} {stage : SlaveStage} {b : Byte} {rest : List Byte}
    {p : Rs485Port cfg × ServiceLog} (hphase : LinkPhase c d gap t35 s stage)
    (hrest : s.request = b :: rest) (hcarried : event.now ≤ s.moved + gap)
    (hblock : p.2.block = some (s.slave.2.block.elim [] Prod.fst ++ [b], event.now)) :
    LinkPhase c d gap t35 { s with slave := p, request := rest, moved := event.now } stage := by
  cases hphase with
  | @request call sentAt came hwaiting htime hsize hmaster hslave hframe hlength hmoved _ hreply
      hanswer =>
      rw [hslave, elim_block] at hblock
      rw [hrest] at hframe hlength
      rw [List.length_cons] at hlength
      have hmoves : event.now ≤ sentAt + gap * (came ++ [b]).length := by
        rw [List.length_append, List.length_singleton, Nat.mul_succ]
        omega
      cases rest with
      | nil =>
          rw [hframe] at hblock hmoves
          have hle : (rtuFrame call.slaveId call.reqPdu).length ≤ 256 := by
            rw [← hframe, List.length_append, List.length_singleton]
            simpa [rtuFrameMax] using hlength
          have hbound := Nat.mul_le_mul_left gap hle
          refine .requested hwaiting htime hsize hmaster hblock ?_ (.inl rfl) rfl hreply hanswer
          omega
      | cons b' rest =>
          have hcame : p.2.block =
              if came ++ [b] = [] then none else some (came ++ [b], event.now) := by
            rw [hblock, if_neg (by simp)]
          refine .request hwaiting htime hsize hmaster hcame ?_ ?_ hmoves (List.cons_ne_nil _ _)
            hreply hanswer
          · rw [← hframe, List.append_assoc, List.singleton_append]
          · simp only [List.length_append, List.length_cons, List.length_nil] at hlength ⊢
            omega
  | idle _ _ _ hnone | requested _ _ _ _ _ _ _ hnone | answering _ _ _ _ _ _ _ _ hnone
  | reply _ _ _ _ _ _ _ hnone | replied _ _ _ _ _ _ hnone | got _ _ _ _ hnone
  | unanswered _ _ _ hnone => cases hnone.symm.trans hrest

/-- The next byte of the answer reaches the master. -/
theorem linkPhase_toMaster {t35 : ℕ} {stage : SlaveStage} {b : Byte} {rest : List Byte}
    (hphase : LinkPhase c d gap t35 s stage) (hrest : s.reply = b :: rest)
    (hcarried : event.now ≤ s.moved + gap) (hexchange : m.2 = s.master.2)
    (hblock : m.1.2.block = some (s.master.1.2.block.elim [] Prod.fst ++ [b], event.now)) :
    LinkPhase c d gap t35 { s with master := m, reply := rest, moved := event.now } stage := by
  cases hphase with
  | @reply call sentAt came hwaiting htime hmaster hslave hlength hmoved _ hrequest hanswer =>
      rw [hmaster, elim_block] at hblock
      rw [hrest] at hanswer hlength
      rw [List.length_cons] at hlength
      have hmoves : event.now ≤
          sentAt + 256 * gap + answerBound c d t35 + gap * (came ++ [b]).length := by
        rw [List.length_append, List.length_singleton, Nat.mul_succ]
        omega
      cases rest with
      | nil =>
          have hle : (came ++ [b]).length ≤ 256 := by
            rw [List.length_append, List.length_singleton]
            simpa [rtuFrameMax] using hlength
          have hbound := Nat.mul_le_mul_left gap hle
          refine .replied (hexchange.trans hwaiting) htime hblock hslave ?_ (by simp) hrequest rfl
            hanswer
          omega
      | cons b' rest =>
          have hcame : m.1.2.block =
              if came ++ [b] = [] then none else some (came ++ [b], event.now) := by
            rw [hblock, if_neg (by simp)]
          refine .reply (hexchange.trans hwaiting) htime hcame hslave ?_ hmoves
            (List.cons_ne_nil _ _) hrequest ?_
          · simp only [List.length_append, List.length_cons, List.length_nil] at hlength ⊢
            omega
          · rw [hanswer, List.append_assoc, List.singleton_append]
  | idle _ _ _ _ hnone | request _ _ _ _ _ _ _ _ _ hnone | requested _ _ _ _ _ _ _ _ hnone
  | answering _ _ _ _ _ _ _ _ _ hnone | replied _ _ _ _ _ _ _ hnone | got _ _ _ _ _ hnone
  | unanswered _ _ _ _ hnone => cases hnone.symm.trans hrest

end Link

end AutomationBoard.Board
