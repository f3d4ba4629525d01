/-
# A master with several slaves

A master on a line with several slaves, against a master with a line of its own
to each of them. On the shared line everybody hears everything, and the slaves
that have something to send do so one after another. Both kinds of lines are ideal:
nothing is lost or late, and a response is there as soon as the request is out, so
the master that finds none has its timeout at once. The results of a session are
then those on the private lines, apart from requests that read what foreign traffic
leaves behind.
-/

import AutomationBoard.Modbus.MultiDrop

namespace AutomationBoard.Modbus

open AutomationBoard.Program

variable {cfg : Config} {κ : Type} [DecidableEq κ]

/-! ## Two kinds of lines -/

/-- The slaves of a shared line, and what its master has received. -/
structure MultiDrop (κ : Type) (cfg : Config) where
  line : Line κ (Slave cfg) (List Byte)
  pending : List Byte

/-- The slaves at the ends of private lines, and what the master has received. -/
structure Private (κ : Type) (cfg : Config) where
  slave : κ → Slave cfg
  pending : List Byte

/-- What is received of the bytes that have come in. -/
def pendingRecv (maxLen : ℕ) (pending : List Byte) : ModbusStatus × List Byte :=
  if pending.length = 0 ∨ pending.length > maxLen then (.timeout, []) else (.ok, pending)

/-- Each slave in turn sends what it has to send. -/
def respond : List κ → Line κ (Slave cfg) (List Byte) → List Byte × Line κ (Slave cfg) (List Byte)
  | [], line => ([], line)
  | k :: order, line =>
      match line.queue k with
      | [] => respond order line
      | tx :: _ =>
          let r := respond order (line.after (rtuStation cfg) (.sent k tx))
          (tx ++ r.1, r.2)

/-- The transport of a master on an ideal shared line: a request that is sent reaches
every slave, and their responses are there when the master looks for one. -/
def multiDropTransport (order : List κ) : MasterTransport (MultiDrop κ cfg) where
  send := some fun adu world =>
    let r := respond order (world.line.after (rtuStation cfg) (.outside adu))
    (.ok, ⟨r.2, r.1⟩)
  recv := some fun maxLen _ world => (pendingRecv maxLen world.pending, world)
  delayT35 := some id
  flushRx := some fun world => { world with pending := [] }
  onEnd := none

/-- The transport of a master with ideal private lines: a frame goes to its target, or
to everybody, and only the target is heard. -/
def privateTransport (target : Option κ) : MasterTransport (Private κ cfg) where
  send := some fun adu world =>
    match target with
    | some k =>
        let r := loopbackSend adu ⟨world.slave k, []⟩
        (.ok, ⟨Function.update world.slave k r.2.slave, r.2.pending⟩)
    | none => (.ok, ⟨fun k => (loopbackSend adu ⟨world.slave k, []⟩).2.slave, []⟩)
  recv := some fun maxLen _ world => (pendingRecv maxLen world.pending, world)
  delayT35 := some id
  flushRx := some fun world => { world with pending := [] }
  onEnd := none

/-! ## Sessions -/

/-- A request of the master to a slave, or to all of them. -/
structure BusRequest (κ : Type) where
  target : Option κ
  pdu : List Byte
  respMax : Option ℕ
  timeoutMs : ℕ

/-- The address of a request. -/
def BusRequest.address (id : κ → Byte) (r : BusRequest κ) : Byte := r.target.elim 0 id

/-- A transaction on the shared line. -/
def sharedTransaction (id : κ → Byte) (order : List κ) (r : BusRequest κ) :
    Checked Fault (Bus (MultiDrop κ cfg)) Transacted :=
  modbusMasterTransaction (some (multiDropTransport order)) (r.address id) r.pdu r.respMax
    r.timeoutMs

/-- A transaction on the private lines. -/
def privateTransaction (id : κ → Byte) (r : BusRequest κ) :
    Checked Fault (Bus (Private κ cfg)) Transacted :=
  modbusMasterTransaction (some (privateTransport r.target)) (r.address id) r.pdu r.respMax
    r.timeoutMs

/-! ## Responses -/

section Respond

variable {id : κ → Byte} {line : Line κ (Slave cfg) (List Byte)}

/-- The slaves have their ids, and what they have to send are responses of their
own, one each at most. -/
structure Short (id : κ → Byte) (line : Line κ (Slave cfg) (List Byte)) : Prop where
  sound : line.Sound (fun k s => s.slaveId = id k) (fun k tx => IsResponse (id k) tx)
  short : ∀ k, (line.queue k).length ≤ 1

omit [DecidableEq κ] in
theorem Short.queue_eq (h : Short id line) {k : κ} {tx : List Byte} {rest : List (List Byte)}
    (hqueue : line.queue k = tx :: rest) : line.queue k = [tx] := by
  have hone := h.short k
  rw [hqueue, List.length_cons] at hone
  rw [hqueue, List.length_eq_zero_iff.mp (by omega : rest.length = 0)]

variable (flat : cfg.Flat) (haddressing : Addressing id)
include flat haddressing

/-- A slave that sends what it has to send leaves the others as they were. -/
theorem Short.after_sent (h : Short id line) {k : κ} {tx : List Byte}
    (hqueue : line.queue k = [tx]) :
    Short id (line.after (rtuStation cfg) (.sent k tx)) ∧
      (∀ j, (line.after (rtuStation cfg) (.sent k tx)).queue j =
        if j = k then [] else line.queue j) ∧
      ∀ j, SameService ((line.after (rtuStation cfg) (.sent k tx)).state j) (line.state j) := by
  have sep := haddressing.separate flat
  have hallows : line.Allows (.sent k tx : LineEvent κ LineInput (List Byte)) := by
    rw [Line.Allows, hqueue, List.head?_cons]
  have hqueues : ∀ j, (line.after (rtuStation cfg) (.sent k tx)).queue j =
      if j = k then [] else line.queue j := by
    intro j
    rw [((orderly_of_sound flat haddressing h.sound hallows).2 j)]
    by_cases hjk : j = k
    · subst hjk
      rw [if_pos rfl, if_pos rfl, hqueue, List.tail_cons]
    · rw [if_neg hjk, if_neg hjk]
  refine ⟨⟨sep.sound_after h.sound _, fun j => ?_⟩, hqueues, fun j => ?_⟩
  · rw [hqueues j]
    split
    · exact Nat.zero_le _
    · exact h.short j
  · by_cases hjk : k = j
    · have hslot : (LineEvent.sent k tx).slot LineInput.frame j = none := if_pos hjk
      have hstate : (line.after (rtuStation cfg) (.sent k tx)).state j = line.state j := by
        simp only [Line.after, rtuStation, hslot]
      rw [hstate]
      exact .refl _
    · have hslot : (LineEvent.sent k tx).slot LineInput.frame j = some (.inserted (.frame tx)) :=
        if_neg hjk
      have hstate : (line.after (rtuStation cfg) (.sent k tx)).state j =
          ((rtuStation cfg).step (.frame tx) (line.state j)).2 := by
        simp only [Line.after, rtuStation, hslot, Slot.input]
      rw [hstate]
      exact sep.unmoved hjk (h.sound.queue k tx (by rw [hqueue]; exact List.mem_cons_self))
        (h.sound.state j) (.refl _)

/-- Once all slaves have had their turn nobody has anything to send, and everybody
offers the same service. -/
theorem Short.respond (h : Short id line) (order : List κ) :
    Short id (respond order line).2 ∧
      (∀ j, (Modbus.respond order line).2.queue j = if j ∈ order then [] else line.queue j) ∧
      ∀ j, SameService ((Modbus.respond order line).2.state j) (line.state j) := by
  induction order generalizing line with
  | nil => exact ⟨h, fun j => (if_neg List.not_mem_nil).symm, fun j => .refl _⟩
  | cons k order ih =>
      rw [Modbus.respond]
      cases hqueue : line.queue k with
      | nil =>
          obtain ⟨hshort, hqueues, hserved⟩ := ih h
          refine ⟨hshort, fun j => ?_, hserved⟩
          simp only [hqueues j, List.mem_cons]
          by_cases hjk : j = k
          · simp [hjk, hqueue]
          · simp [hjk]
      | cons tx rest =>
          obtain ⟨hsent, hsentQueues, hsentServed⟩ :=
            h.after_sent flat haddressing (h.queue_eq hqueue)
          obtain ⟨hshort, hqueues, hserved⟩ := ih hsent
          refine ⟨hshort, fun j => ?_, fun j => (hserved j).trans (hsentServed j)⟩
          simp only [hqueues j, hsentQueues j, List.mem_cons]
          by_cases hjk : j = k
          · simp [hjk]
          · simp [hjk]

/-- If one slave only has something to send, that is what is received. -/
theorem Short.bytes_respond (h : Short id line) {k : κ} (hothers : ∀ j ≠ k, line.queue j = [])
    (order : List κ) :
    (Modbus.respond order line).1 = if k ∈ order then (line.queue k).flatten else [] := by
  induction order generalizing line with
  | nil => exact (if_neg List.not_mem_nil).symm
  | cons j order ih =>
      rw [Modbus.respond]
      cases hqueue : line.queue j with
      | nil =>
          simp only [ih h hothers, List.mem_cons]
          by_cases hkj : k = j
          · subst hkj
            simp [hqueue]
          · simp [hkj]
      | cons tx rest =>
          have hjk : j = k := by
            by_contra hjk
            rw [hothers j hjk] at hqueue
            cases hqueue
          subst hjk
          have hone := h.queue_eq hqueue
          obtain ⟨hsent, hsentQueues, -⟩ := h.after_sent flat haddressing hone
          have hnone : ∀ i, (line.after (rtuStation cfg) (.sent j tx)).queue i = [] := by
            intro i
            rw [hsentQueues i]
            by_cases hij : i = j
            · exact if_pos hij
            · rw [if_neg hij, hothers i hij]
          simp [ih hsent fun i _ => hnone i, hnone, hone]

end Respond

/-! ## One transaction -/

section Transaction

variable {id : κ → Byte}

/-- The state of a session on the shared line, against one on private lines. -/
structure SameSession (id : κ → Byte) (private' : Bus (Private κ cfg))
    (shared : Bus (MultiDrop κ cfg)) : Prop where
  quiet : Quiet id shared.world.line
  served : ∀ k, SameService (shared.world.line.state k) (private'.world.slave k)

/-- The results of a request are the same, unless it reads what foreign traffic
leaves behind. -/
def SameResult (r : BusRequest κ) (t t' : Transacted) : Prop := ¬ readsTraffic r.pdu → t = t'

/-- What a transaction makes of what it receives. -/
def BusRequest.result (id : κ → Byte) (r : BusRequest κ) (pending : List Byte) : Transacted :=
  if r.address id = 0 then .plain .ok
  else
    let got := pendingRecv rtuFrameMax pending
    if got.1 ≠ .ok then .plain got.1
    else heard (r.address id) (byteAt r.pdu 0) r.respMax got.2

omit [DecidableEq κ] in
/-- The frames of a request to one slave are foreign to the others. -/
theorem foreign_rtuFrame (haddressing : Addressing id) {j k : κ} (hjk : j ≠ k) (pdu : List Byte) :
    Foreign (id j) (rtuFrame (id k) pdu) := by
  refine .inr (.inr ⟨?_, ?_⟩)
  · rw [byteAt_rtuFrame_zero]
    exact fun heq => hjk (haddressing.distinct heq.symm)
  · rw [byteAt_rtuFrame_zero]
    exact haddressing.unicast k

variable (flat : cfg.Flat) (haddressing : Addressing id)
include flat haddressing

/-- A frame of the master leaves each slave with one response at most. -/
theorem Quiet.short_after {line : Line κ (Slave cfg) (List Byte)} (h : Quiet id line)
    (rx : List Byte) : Short id (line.after (rtuStation cfg) (.outside rx)) where
  sound := (haddressing.separate flat).sound_after h.sound _
  short k := by
    rw [queue_after_outside flat, h.queue k, List.nil_append, framesOf]
    split
    · exact Nat.le_refl 1
    · exact Nat.zero_le 1

/-- The states of the slaves once a frame of the master has been answered. -/
theorem Quiet.respond_after {line : Line κ (Slave cfg) (List Byte)} (h : Quiet id line)
    (rx : List Byte) {order : List κ} (horder : ∀ k, k ∈ order) :
    Quiet id (respond order (line.after (rtuStation cfg) (.outside rx))).2 ∧
      ∀ k, SameService
        ((respond order (line.after (rtuStation cfg) (.outside rx))).2.state k)
        (slaveStep (line.state k) rx).2 := by
  obtain ⟨hshort, hqueues, hserved⟩ :=
    (h.short_after flat haddressing rx).respond flat haddressing order
  refine ⟨⟨hshort.sound.state, fun k => ?_⟩, fun k => ?_⟩
  · rw [hqueues k, if_pos (horder k)]
  · have hstate : (line.after (rtuStation cfg) (.outside rx)).state k =
        (slaveStep (line.state k) rx).2 :=
      congrArg Prod.snd (rtuStation_step flat (.frame rx) (line.state k))
    rw [← hstate]
    exact hserved k

/-- What is received after a request to one slave is its response. -/
theorem Quiet.bytes_respond {line : Line κ (Slave cfg) (List Byte)} (h : Quiet id line) (k : κ)
    (pdu : List Byte) {order : List κ} (horder : ∀ k, k ∈ order) :
    (respond order (line.after (rtuStation cfg) (.outside (rtuFrame (id k) pdu)))).1 =
      (slaveStep (line.state k) (rtuFrame (id k) pdu)).1.tx := by
  have hothers : ∀ j ≠ k, (line.after (rtuStation cfg)
      (.outside (rtuFrame (id k) pdu))).queue j = [] := by
    intro j hjk
    have hforeign : Foreign (line.state j).slaveId (rtuFrame (id k) pdu) :=
      h.slaveId j ▸ foreign_rtuFrame haddressing hjk pdu
    rw [queue_after_outside flat, h.queue j, List.nil_append, framesOf_eq_nil]
    exact ((SameService.refl _).slaveStep_foreign hforeign).1
  rw [(h.short_after flat haddressing _).bytes_respond flat haddressing hothers,
    if_pos (horder k), queue_after_outside flat, h.queue k, List.nil_append, framesOf]
  split
  · exact List.flatten_singleton
  · next hnone => exact (List.length_eq_zero_iff.mp (by omega)).symm

omit flat haddressing in
/-- A transaction on the shared line gets what the slaves send in turn. -/
theorem yields_sharedTransaction {r : BusRequest κ} (hlow : 1 ≤ r.pdu.length)
    (hhigh : r.pdu.length ≤ 253) (order : List κ) (bus : Bus (MultiDrop κ cfg)) :
    Yields (sharedTransaction id order r) bus fun t bus' =>
      let out := respond order
        (bus.world.line.after (rtuStation cfg) (.outside (rtuFrame (r.address id) r.pdu)))
      t = r.result id out.1 ∧ bus'.world.line = out.2 := by
  rw [sharedTransaction, multiDropTransport, yields_modbusMasterTransaction hlow hhigh]
  simp only [ne_eq, not_true_eq_false, if_false, Bus.ended, Bus.world_after, Bus.taken, id_eq,
    BusRequest.result]
  split_ifs <;> exact ⟨rfl, trivial⟩

omit haddressing in
/-- A transaction on a private line gets what the slave there answers. -/
theorem yields_privateTransaction {r : BusRequest κ} (hlow : 1 ≤ r.pdu.length)
    (hhigh : r.pdu.length ≤ 253) (bus : Bus (Private κ cfg)) :
    Yields (privateTransaction id r) bus fun t bus' =>
      match r.target with
      | some k =>
          let out := slaveStep (bus.world.slave k) (rtuFrame (id k) r.pdu)
          t = r.result id out.1.tx ∧ bus'.world.slave = Function.update bus.world.slave k out.2
      | none =>
          t = .plain .ok ∧
            bus'.world.slave = fun k => (slaveStep (bus.world.slave k) (rtuFrame 0 r.pdu)).2 := by
  rw [privateTransaction, privateTransport, yields_modbusMasterTransaction hlow hhigh]
  cases htarget : r.target with
  | some k =>
      have haddress : r.address id = id k := by rw [BusRequest.address, htarget]; rfl
      simp only [loopbackSend_eq flat, ne_eq, not_true_eq_false, if_false, Bus.ended,
        Bus.world_after, Bus.taken, id_eq, BusRequest.result, haddress]
      split_ifs <;> exact ⟨rfl, trivial⟩
  | none =>
      have haddress : r.address id = 0 := by rw [BusRequest.address, htarget]; rfl
      simp only [loopbackSend_eq flat, ne_eq, not_true_eq_false, if_false, Bus.ended,
        Bus.world_after, Bus.taken, id_eq, haddress, if_true]
      exact ⟨trivial, trivial⟩

/-- A transaction on the shared line comes to what it comes to on a private one. -/
theorem sameSession_transaction {order : List κ} (horder : ∀ k, k ∈ order) (r : BusRequest κ)
    {private' : Bus (Private κ cfg)} {shared : Bus (MultiDrop κ cfg)}
    (h : SameSession id private' shared) :
    Yields (privateTransaction id r) private' fun t bus =>
      Yields (sharedTransaction id order r) shared fun t' bus' =>
        SameResult r t t' ∧ SameSession id bus bus' := by
  by_cases hsize : 1 ≤ r.pdu.length ∧ r.pdu.length ≤ 253
  · apply (yields_privateTransaction flat hsize.1 hsize.2 private').mono
    intro t bus hprivate
    apply (yields_sharedTransaction hsize.1 hsize.2 order shared).mono
    rintro t' bus' ⟨ht', hline⟩
    obtain ⟨hquiet, hserved⟩ := h.quiet.respond_after flat haddressing
      (rtuFrame (r.address id) r.pdu) horder
    rw [← hline] at hquiet hserved
    cases htarget : r.target with
    | none =>
        simp only [htarget] at hprivate
        obtain ⟨rfl, hslave⟩ := hprivate
        have haddress : r.address id = 0 := by rw [BusRequest.address, htarget]; rfl
        refine ⟨fun _ => ?_, hquiet, fun k => ?_⟩
        · rw [ht', BusRequest.result, if_pos haddress]
        · rw [hslave, ← haddress]
          exact (hserved k).trans ((h.served k).slaveStep _).2
    | some k =>
        simp only [htarget] at hprivate
        obtain ⟨rfl, hslave⟩ := hprivate
        have haddress : r.address id = id k := by rw [BusRequest.address, htarget]; rfl
        rw [haddress] at ht' hserved
        refine ⟨fun hreads => ?_, hquiet, fun j => ?_⟩
        · have hsame := ((h.served k).slaveStep (rtuFrame (id k) r.pdu)).1
          rw [SameResponse, framePdu_rtuFrame] at hsame
          rw [ht', h.quiet.bytes_respond flat haddressing k r.pdu horder, hsame hreads]
        · rw [hslave]
          by_cases hjk : j = k
          · subst hjk
            rw [Function.update_self]
            exact (hserved j).trans ((h.served j).slaveStep _).2
          · rw [Function.update_of_ne hjk]
            have hforeign : Foreign (shared.world.line.state j).slaveId (rtuFrame (id k) r.pdu) :=
              h.quiet.slaveId j ▸ foreign_rtuFrame haddressing hjk r.pdu
            exact (hserved j).trans ((h.served j).slaveStep_foreign hforeign).2
  · have hprivate : Yields (privateTransaction id r) private' fun t bus =>
        t = .plain .error ∧ bus = private' :=
      (yields_modbusMasterTransaction_refused fun hsize' => absurd hsize' hsize).mpr ⟨rfl, rfl⟩
    have hshared : Yields (sharedTransaction id order r) shared fun t bus =>
        t = .plain .error ∧ bus = shared :=
      (yields_modbusMasterTransaction_refused fun hsize' => absurd hsize' hsize).mpr ⟨rfl, rfl⟩
    apply hprivate.mono
    rintro t bus ⟨rfl, rfl⟩
    apply hshared.mono
    rintro t' bus' ⟨rfl, rfl⟩
    exact ⟨fun _ => rfl, h⟩

end Transaction

/-! ## Whole sessions -/

/-- A session of requests to any slaves and of broadcasts, on a line that slaves
with ids of their own share, has the results that it has with a private line to
each slave, apart from requests that read what foreign traffic leaves behind. The
slaves end up offering the same service. -/
theorem multiDrop_session {id : κ → Byte} (haddressing : Addressing id)
    {line : Line κ (Slave boardConfig) (List Byte)} (hquiet : Quiet id line) {order : List κ}
    (horder : ∀ k, k ∈ order) (requests : List (BusRequest κ)) :
    Yields (runAll (privateTransaction id) requests) ⟨⟨line.state, []⟩, []⟩ fun results bus =>
      Yields (runAll (sharedTransaction id order) requests) ⟨⟨line, []⟩, []⟩ fun results' bus' =>
        Agree SameResult requests results results' ∧ SameSession id bus bus' :=
  yields_runAll_agree
    (fun _ _ r h => sameSession_transaction Config.boardConfig_flat haddressing horder r h)
    ⟨hquiet, fun k => .refl (line.state k)⟩ requests

/-- A broadcast and a request to each of two slaves. -/
theorem multiDrop_session_twoSlaves :
    let id := fun second : Bool => if second then (2 : Byte) else 1
    let requests : List (BusRequest Bool) := [⟨none, [0x06, 0x00, 0x04, 0xAB, 0xCD], some 256, 500⟩,
      ⟨some false, [0x03, 0x00, 0x04, 0x00, 0x01], some 256, 500⟩, ⟨some true, [0x07], some 256, 500⟩]
    Yields (runAll (privateTransaction id) requests) ⟨⟨twoSlaves.state, []⟩, []⟩ fun results bus =>
      Yields (runAll (sharedTransaction id [false, true]) requests) ⟨⟨twoSlaves, []⟩, []⟩
        fun results' bus' => Agree SameResult requests results results' ∧ SameSession id bus bus' :=
  multiDrop_session addressing_twoSlaves quiet_twoSlaves (by decide) _

end AutomationBoard.Modbus
