/-
# Several slaves on one line

Slaves on an RS485 line hear the frames of the master and the responses of each
other. With an id of its own for each of them, a response is foreign to all the
others, so nobody answers it, and what a slave does is what it would do alone
with the master. A frame of the master is answered by one slave at most, other
than the broadcasts that are refused: these everybody answers.
-/

import AutomationBoard.Modbus.Broadcast
import AutomationBoard.Modbus.ForeignTraffic
import AutomationBoard.Modbus.LineLedger
import AutomationBoard.Modbus.Loopback
import AutomationBoard.Program.SharedLine

namespace AutomationBoard.Modbus

open AutomationBoard.Program

variable {cfg : Config}

theorem SameService.trans {s t u : Slave cfg} (hst : SameService s t) (htu : SameService t u) :
    SameService s u :=
  ⟨hst.slaveId.trans htu.slaveId, hst.hooks.trans htu.hooks, hst.env.trans htu.env,
    hst.view.trans htu.view⟩

/-! ## Stations -/

/-- What goes on the line for a response: `if (resp_len > 0)`, the frame. -/
def framesOf (tx : List Byte) : List (List Byte) := if tx.length > 0 then [tx] else []

/-- A slave on the line: `rs485_modbus_rx_callback` without a master, and the
overruns that the UART reports. -/
def rtuStation (cfg : Config) : StationKind (Slave cfg) LineInput (List Byte) where
  step i s := match (lineInput i).run s with
    | .ok (out, s') => (framesOf out.tx, s')
    | .error _ => ([], s)
  hear := .frame

theorem rtuStation_step (flat : cfg.Flat) (i : LineInput) (s : Slave cfg) :
    (rtuStation cfg).step i s = (framesOf (lineStep s i).1.tx, (lineStep s i).2) := by
  obtain ⟨out, s', hrun, hstep⟩ := yields_lineInput flat s i
  simp only [rtuStation, hrun, ← hstep]

theorem framesOf_eq_nil {tx : List Byte} : framesOf tx = [] ↔ tx = [] := by
  cases tx <;> simp [framesOf]

theorem framesOf_of_ne_nil {tx : List Byte} (h : tx ≠ []) : framesOf tx = [tx] :=
  if_pos (List.length_pos_iff.mpr h)

theorem mem_framesOf {tx m : List Byte} : m ∈ framesOf tx ↔ m = tx ∧ tx ≠ [] := by
  cases tx <;> simp [framesOf]

/-! ## What a slave puts on the line -/

/-- A frame around a reply, under the id of the slave that sends it. -/
def IsResponse (slaveId : Byte) (tx : List Byte) : Prop :=
  ∃ pdu, tx = rtuFrame slaveId pdu ∧ 1 ≤ pdu.length ∧ pdu.length ≤ 253

/-- A slave sends responses only. -/
theorem isResponse_slaveStep (flat : cfg.Flat) (s : Slave cfg) (rx : List Byte)
    (hsome : (slaveStep s rx).1.tx ≠ []) : IsResponse s.slaveId (slaveStep s rx).1.tx := by
  cases frameKind s.slaveId rx with
  | malformed hlength =>
      rw [slaveStep_malformed hlength] at hsome
      exact absurd rfl hsome
  | corrupted hlength hcrc =>
      rw [slaveStep_corrupted hlength hcrc] at hsome
      exact absurd rfl hsome
  | foreign hlength hcrc haddr =>
      rw [slaveStep_foreign hlength hcrc haddr] at hsome
      exact absurd rfl hsome
  | addressed hlength hcrc haddr =>
      rw [slaveStep_addressed hlength hcrc haddr, tx_addressedStep] at hsome ⊢
      have hbuilds := builds_handleRequest flat s.counted (framePdu_ne_nil hlength)
        (byteAt rx 0 = 0)
      generalize handleRequest s.counted (framePdu rx) (byteAt rx 0 = 0) = h at hsome hbuilds ⊢
      by_cases hnone : h.response = []
      · rw [if_pos hnone] at hsome
        exact absurd rfl hsome
      · rw [if_neg hnone]
        have hsent := h.response_eq_built hnone
        rw [hsent] at hnone ⊢
        rcases hbuilds with hnil | ⟨-, hle⟩
        · exact absurd hnil hnone
        · exact ⟨_, rfl, List.length_pos_iff.mpr hnone, hle⟩

/-- A slave answers what is addressed to it, and broadcasts that it refuses. -/
theorem addressed_of_tx_ne_nil (s : Slave cfg) {rx : List Byte}
    (hsome : (slaveStep s rx).1.tx ≠ []) :
    byteAt rx 0 = s.slaveId ∨ byteAt rx 0 = 0 ∧ BroadcastRefused s rx := by
  by_cases hbroadcast : byteAt rx 0 = 0
  · right
    refine ⟨hbroadcast, ?_⟩
    by_contra haccepted
    exact hsome ((tx_slaveStep_broadcast_eq_nil s hbroadcast).mpr haccepted)
  · left
    by_contra hother
    exact hsome ((SameService.refl s).slaveStep_foreign (.inr (.inr ⟨hother, hbroadcast⟩))).1

/-- A response is foreign to every other slave. -/
theorem IsResponse.foreign {slaveId otherId : Byte} {tx : List Byte} (h : IsResponse slaveId tx)
    (hunicast : slaveId ≠ 0) (hother : slaveId ≠ otherId) : Foreign otherId tx := by
  obtain ⟨pdu, rfl, -⟩ := h
  exact .inr (.inr ⟨hother, hunicast⟩)

/-! ## The line -/

/-- Every slave has an id of its own, which is not the broadcast address. -/
structure Addressing {κ : Type} (id : κ → Byte) : Prop where
  distinct : Function.Injective id
  unicast : ∀ k, id k ≠ 0

/-- The answers of two slaves to one input are the same, unless it reads what
foreign traffic leaves behind. -/
def SameFrames : LineInput → List (List Byte) → List (List Byte) → Prop
  | .frame rx, answers, answers' => ¬ readsTraffic (framePdu rx) → answers = answers'
  | .charOverrun, answers, answers' => answers = answers'

/-- An input keeps two slaves alike. -/
theorem SameService.lineStep {s t : Slave cfg} (hst : SameService s t) (i : LineInput) :
    SameFrames i (framesOf (lineStep s i).1.tx) (framesOf (lineStep t i).1.tx) ∧
      SameService (lineStep s i).2 (lineStep t i).2 := by
  cases i with
  | frame rx =>
      obtain ⟨hsame, hserved⟩ := hst.slaveStep rx
      exact ⟨fun hreads => by rw [Modbus.lineStep, Modbus.lineStep, hsame hreads], hserved⟩
  | charOverrun =>
      obtain ⟨hid, hhooks, henv, hview⟩ := hst
      obtain ⟨hexception, hmessage, hresponse, hoverrun, hregister, hlisten, hcounter⟩ :=
        LineView.mk.inj hview
      refine ⟨rfl, hid, hhooks, henv, ?_⟩
      simp [Modbus.lineStep, Slave.updateLine, LineState.noteCharOverrun, LineState.view, *]

theorem slaveId_lineStep (s : Slave cfg) (i : LineInput) :
    (lineStep s i).2.slaveId = s.slaveId := by
  cases i with
  | frame rx => exact slaveId_slaveStep s rx
  | charOverrun => rfl

/-- Slaves with ids of their own take no notice of each other. -/
theorem Addressing.separate (flat : cfg.Flat) {κ : Type} {id : κ → Byte} (h : Addressing id) :
    Separate (rtuStation cfg) (fun k s => s.slaveId = id k) (fun k tx => IsResponse (id k) tx)
      (fun _ => SameService) SameFrames where
  keeps := by
    intro k s hid i
    rw [rtuStation_step flat]
    exact (slaveId_lineStep s i).trans hid
  sends := by
    intro k s hid i tx htx
    rw [rtuStation_step flat] at htx
    obtain ⟨rfl, hsome⟩ := mem_framesOf.mp htx
    cases i with
    | frame rx => exact hid ▸ isResponse_slaveStep flat s rx hsome
    | charOverrun => exact absurd rfl hsome
  silent := by
    intro j k s tx hjk htx hid
    have hforeign : Foreign s.slaveId tx :=
      htx.foreign (h.unicast j) (hid ▸ fun heq => hjk (h.distinct heq))
    rw [rtuStation_step flat]
    exact framesOf_eq_nil.mpr ((SameService.refl s).slaveStep_foreign hforeign).1
  unmoved := by
    intro j k s t tx hjk htx hid hst
    have hforeign : Foreign s.slaveId tx :=
      htx.foreign (h.unicast j) (hid ▸ fun heq => hjk (h.distinct heq))
    rw [rtuStation_step flat]
    exact (hst.slaveStep_foreign hforeign).2
  alike := by
    intro k s t _ hst i
    rw [rtuStation_step flat, rtuStation_step flat]
    exact hst.lineStep i

/-- Slaves with their ids, none of which has anything to send. -/
structure Quiet {κ : Type} (id : κ → Byte) (line : Line κ (Slave cfg) (List Byte)) : Prop where
  slaveId : ∀ k, (line.state k).slaveId = id k
  queue : ∀ k, line.queue k = []

theorem Quiet.sound {κ : Type} {id : κ → Byte} {line : Line κ (Slave cfg) (List Byte)}
    (h : Quiet id line) :
    line.Sound (fun k s => s.slaveId = id k) (fun k tx => IsResponse (id k) tx) where
  state := h.slaveId
  queue k tx htx := by
    rw [h.queue k] at htx
    cases htx

section Line

variable {κ : Type} [DecidableEq κ] {id : κ → Byte}

/-- Between two lines, no queue has grown except by one response of a slave that
the frame is addressed to, or that refuses it as a broadcast. -/
def AnsweredBy (id : κ → Byte) (rx : List Byte) (line line' : Line κ (Slave cfg) (List Byte)) :
    Prop :=
  ∀ k, line'.queue k = line.queue k ∨
    ∃ tx, line'.queue k = line.queue k ++ [tx] ∧ IsResponse (id k) tx ∧
      (byteAt rx 0 = id k ∨ byteAt rx 0 = 0 ∧ BroadcastRefused (line.state k) rx)

/-- What is put on the line is answered by nobody if it is a response, by one
slave at most if it is a frame of the master, and by each slave that refuses it if
it is a broadcast. -/
def Orderly (id : κ → Byte) (line : Line κ (Slave cfg) (List Byte)) :
    LineEvent κ LineInput (List Byte) → Prop
  | .sent j tx => IsResponse (id j) tx ∧
      ∀ k, (line.after (rtuStation cfg) (.sent j tx)).queue k =
        if k = j then (line.queue k).tail else line.queue k
  | .outside rx =>
      AnsweredBy id rx line (line.after (rtuStation cfg) (.outside rx)) ∧
        (byteAt rx 0 ≠ 0 → ∃ addressed : Option κ, ∀ k, addressed ≠ some k →
          (line.after (rtuStation cfg) (.outside rx)).queue k = line.queue k)
  | .input k i =>
      ∀ j ≠ k, (line.after (rtuStation cfg) (.input k i)).queue j = line.queue j

theorem queue_after_outside (flat : cfg.Flat) (line : Line κ (Slave cfg) (List Byte))
    (rx : List Byte) (k : κ) :
    (line.after (rtuStation cfg) (.outside rx)).queue k =
      line.queue k ++ framesOf (slaveStep (line.state k) rx).1.tx :=
  congrArg (fun r => line.queue k ++ r.1) (rtuStation_step flat (.frame rx) (line.state k))

/-- A frame of the master is answered by slaves that it is meant for. -/
theorem answeredBy_after (flat : cfg.Flat) {line : Line κ (Slave cfg) (List Byte)}
    (hid : ∀ k, (line.state k).slaveId = id k) (rx : List Byte) :
    AnsweredBy id rx line (line.after (rtuStation cfg) (.outside rx)) := by
  intro k
  rw [queue_after_outside flat, ← hid k]
  by_cases hsilent : (slaveStep (line.state k) rx).1.tx = []
  · left
    rw [framesOf_eq_nil.mpr hsilent, List.append_nil]
  · right
    exact ⟨_, congrArg _ (framesOf_of_ne_nil hsilent), isResponse_slaveStep flat _ rx hsilent,
      addressed_of_tx_ne_nil _ hsilent⟩

/-- Every event of a sound line is orderly. -/
theorem orderly_of_sound (flat : cfg.Flat) (haddressing : Addressing id)
    {line : Line κ (Slave cfg) (List Byte)}
    (h : line.Sound (fun k s => s.slaveId = id k) (fun k tx => IsResponse (id k) tx))
    {e : LineEvent κ LineInput (List Byte)} (hallows : line.Allows e) : Orderly id line e := by
  cases e with
  | input k i =>
      intro j hjk
      apply Line.queue_after_of_slot
      intro slot hslot
      rw [LineEvent.slot, if_neg hjk.symm] at hslot
      cases hslot
  | outside rx =>
      have hanswered := answeredBy_after flat h.state rx
      refine ⟨hanswered, fun hunicast => ?_⟩
      by_cases hsome : ∃ k, byteAt rx 0 = id k
      · obtain ⟨k, hk⟩ := hsome
        refine ⟨some k, fun j hjk => ?_⟩
        rcases hanswered j with hsame | ⟨tx, -, -, haddr | ⟨hzero, -⟩⟩
        · exact hsame
        · exact absurd (congrArg some (haddressing.distinct (hk.symm.trans haddr))) hjk
        · exact absurd hzero hunicast
      · refine ⟨none, fun j _ => ?_⟩
        rcases hanswered j with hsame | ⟨tx, -, -, haddr | ⟨hzero, -⟩⟩
        · exact hsame
        · exact absurd ⟨j, haddr⟩ hsome
        · exact absurd hzero hunicast
  | sent j tx =>
      refine ⟨h.queue j tx (List.mem_of_mem_head? hallows), fun k => ?_⟩
      rw [(haddressing.separate flat).queue_after_sent h hallows, Line.left, LineEvent.message]
      by_cases hjk : k = j
      · rw [if_pos hjk, if_pos hjk.symm]
      · rw [if_neg hjk, if_neg (Ne.symm hjk)]

/-- On a line of slaves with ids of their own, every run is orderly, whatever the
order in which frames of the master, overruns and responses come. -/
theorem multiDrop_orderly (haddressing : Addressing id)
    {line : Line κ (Slave boardConfig) (List Byte)} (hquiet : Quiet id line)
    {events : List (LineEvent κ LineInput (List Byte))}
    (hlegal : line.Legal (rtuStation boardConfig) events) :
    line.EveryEvent (rtuStation boardConfig) (Orderly id) events :=
  (haddressing.separate Config.boardConfig_flat).everyEvent hquiet.sound
    (fun h hallows => orderly_of_sound Config.boardConfig_flat haddressing h hallows) hlegal

/-- Two slaves that have just been initialised. -/
def twoSlaves : Line Bool (Slave boardConfig) (List Byte) where
  state second := modbusRtuInit (if second then 2 else 1)
    (Slave.powerOn (SyncHooks.none boardConfig))
  queue _ := []

theorem addressing_twoSlaves : Addressing fun second : Bool => if second then (2 : Byte) else 1 where
  distinct := by decide
  unicast := by decide

/-- The second slave is asked and answers, then the first one is asked. -/
def twoSlavesEvents : List (LineEvent Bool LineInput (List Byte)) :=
  [.outside (rtuFrame 2 [0x07]), .sent true (rtuFrame 2 [0x07, 0x00]), .input false .charOverrun,
    .outside (rtuFrame 1 [0x07])]

theorem legal_twoSlavesEvents : twoSlaves.Legal (rtuStation boardConfig) twoSlavesEvents := by
  have hanswer : (slaveStep (twoSlaves.state true) (rtuFrame 2 [0x07])).1.tx =
      rtuFrame 2 [0x07, 0x00] := by
    have hid : (twoSlaves.state true).slaveId = 2 := rfl
    have hunicast : (twoSlaves.state true).slaveId ≠ 0 := by decide
    have hlength : 1 ≤ [(0x07 : Byte)].length ∧ [(0x07 : Byte)].length ≤ 253 := by decide
    have hstep := slaveStep_rtuFrame hunicast hlength.1 hlength.2
    rw [hid] at hstep
    rw [hstep]
    rfl
  have hqueue : (twoSlaves.after (rtuStation boardConfig) (.outside (rtuFrame 2 [0x07]))).queue true
      = [rtuFrame 2 [0x07, 0x00]] := by
    have hsome : rtuFrame 2 [0x07, 0x00] ≠ [] := List.cons_ne_nil _ _
    rw [queue_after_outside Config.boardConfig_flat, hanswer, framesOf_of_ne_nil hsome]
    exact List.nil_append _
  refine ⟨trivial, ?_, trivial, trivial, trivial⟩
  rw [Line.Allows, hqueue, List.head?_cons]

theorem quiet_twoSlaves :
    Quiet (fun second : Bool => if second then (2 : Byte) else 1) twoSlaves where
  slaveId _ := rfl
  queue _ := rfl

theorem multiDrop_orderly_twoSlaves :
    twoSlaves.EveryEvent (rtuStation boardConfig)
      (Orderly fun second : Bool => if second then (2 : Byte) else 1) twoSlavesEvents :=
  multiDrop_orderly addressing_twoSlaves quiet_twoSlaves legal_twoSlavesEvents

/-- On a line of slaves with ids of their own, every slave does what it would do
alone with the master: it answers alike, its answers go out in order, and it ends
up offering the same service. -/
theorem multiDrop_alone (haddressing : Addressing id)
    {line : Line κ (Slave boardConfig) (List Byte)} (hquiet : Quiet id line)
    {events : List (LineEvent κ LineInput (List Byte))}
    (hlegal : line.Legal (rtuStation boardConfig) events) (k : κ) :
    Yields (runAll lineInput (ownInputs (slotsOf .frame k events))) (line.state k)
      fun outs t' => SameService ((line.run (rtuStation boardConfig) events).state k) t' ∧
        ∃ answers, Undisturbed (· = []) SameFrames (slotsOf .frame k events) answers
            (outs.map fun out => framesOf out.tx) ∧
          answers.flatten =
            sentBy k events ++ (line.run (rtuStation boardConfig) events).queue k := by
  have hprog : ∀ s i, Yields (lineInput i) s fun out s' =>
      (framesOf out.tx, s') = (rtuStation boardConfig).step i s := by
    intro s i
    apply (yields_lineInput Config.boardConfig_flat s i).mono
    intro out s' hstep
    rw [rtuStation_step Config.boardConfig_flat, ← hstep]
  have hstation := (haddressing.separate Config.boardConfig_flat).yields_station hquiet.sound hlegal
    k (.refl (line.state k))
  rw [yields_runAll_total (f := fun out : Outcome => framesOf out.tx) hprog, hquiet.queue k]
    at hstation
  exact hstation

theorem multiDrop_alone_twoSlaves :
    Yields (runAll lineInput (ownInputs (slotsOf .frame false twoSlavesEvents)))
      (twoSlaves.state false) fun outs t' =>
        SameService ((twoSlaves.run (rtuStation boardConfig) twoSlavesEvents).state false) t' ∧
          ∃ answers, Undisturbed (· = []) SameFrames (slotsOf .frame false twoSlavesEvents) answers
              (outs.map fun out => framesOf out.tx) ∧
            answers.flatten = sentBy false twoSlavesEvents ++
              (twoSlaves.run (rtuStation boardConfig) twoSlavesEvents).queue false :=
  multiDrop_alone addressing_twoSlaves quiet_twoSlaves legal_twoSlavesEvents false

end Line

end AutomationBoard.Modbus
