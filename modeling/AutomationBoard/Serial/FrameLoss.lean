/-
# No frame is lost

With a tick every millisecond the end of a block is noticed a millisecond after
T3.5 at the latest. A byte that comes after T3.5 but before that ends the block's
assembly first: `rtu_framer_on_byte` judges the silence by T1.5 alone and starts
afresh. So a block on an idle line is delivered exactly if no byte comes between
T3.5 after its end and the first tick or call of `rtu_framer_process` from then on.
-/

import AutomationBoard.Program.Ticks
import AutomationBoard.Serial.FramerInvariant
import AutomationBoard.Serial.FramingSoundness
import AutomationBoard.Serial.Timeouts

namespace AutomationBoard.Serial

open AutomationBoard.Modbus (Byte)
open AutomationBoard.Program

/-! ## The line -/

/-- The operation is a tick. -/
def FramerEvent.isTick (event : FramerEvent) : Bool := event.op = .systick

/-- The operation looks for silence. -/
def FramerEvent.Polls (event : FramerEvent) : Prop :=
  event.op = .systick ∨ event.op = .process

instance (event : FramerEvent) : Decidable event.Polls := inferInstanceAs (Decidable (_ ∨ _))

/-- The operation leaves the reception alone. -/
def FramerOp.Listens (op : FramerOp) : Prop :=
  op ≠ .flush ∧ op ≠ .txBegin ∧ op ≠ .delayT35

instance (op : FramerOp) : Decidable op.Listens := inferInstanceAs (Decidable (_ ∧ _))

/-- The bytes that operations hand over. -/
def arrivals (events : List FramerEvent) : List (ℕ × Byte) := events.flatMap FramerEvent.arrival

/-- The engine after operations. -/
def framerRun (events : List FramerEvent) (f : RtuFramer) : RtuFramer :=
  events.foldl (fun f event => (framerStep event f).2) f

/-- The engine is initialised at a time and used from then on, with a tick every
1000 microseconds whatever its phase, and without an operation that interferes
with the reception. -/
structure Ticking (start first : ℕ) (events : List FramerEvent) : Prop where
  ordered : InOrder events
  begins : ∀ event ∈ events, start ≤ event.now
  phase : first ≤ start + 1000
  ticks : TicksEvery FramerEvent.now FramerEvent.isTick 1000 first events
  listens : ∀ event ∈ events, event.op.Listens

/-- Operations that bring a block, with no gap longer than the given one: its
bytes, and the time of its last one. -/
inductive BlockArrives (gap first : ℕ) : List FramerEvent → List Byte → ℕ → Prop
  | opened (b : Byte) : BlockArrives gap first [⟨first, .byte b⟩] [b] first
  | next {events : List FramerEvent} {values : List Byte} {last : ℕ}
      (block : BlockArrives gap first events values last) (between : List FramerEvent)
      (quiet : arrivals between = []) (now : ℕ) (b : Byte) (close : now ≤ last + gap) :
      BlockArrives gap first (events ++ between ++ [⟨now, .byte b⟩]) (values ++ [b]) now

/-- No frame waits, and none is being received: the engine is idle, or the line
has been silent for more than T1.5. -/
structure Vacant (f : RtuFramer) (received : List (ℕ × Byte)) (now : ℕ) : Prop where
  unready : f.frameReady = false
  idle : f.state = .idle ∨ SilentFor f.t15Us.toNat received now

/-! ## Delivery -/

/-- The operation collects a frame that waits. -/
def FramerEvent.Collects (event : FramerEvent) (f : RtuFramer) : Prop :=
  match event.op with
  | .process => f.rxCallback = true
  | .read maxLen => maxLen ≠ 0
  | _ => False

instance : (event : FramerEvent) → (f : RtuFramer) → Decidable (event.Collects f)
  | ⟨_, .process⟩, f => inferInstanceAs (Decidable (f.rxCallback = true))
  | ⟨_, .read maxLen⟩, _ => inferInstanceAs (Decidable (maxLen ≠ 0))
  | ⟨_, .byte _⟩, _ | ⟨_, .systick⟩, _ | ⟨_, .setCallback _⟩, _ | ⟨_, .flush⟩, _
  | ⟨_, .txBegin⟩, _ | ⟨_, .delayT35⟩, _ => isFalse id

/-- A frame waits from the first operation on, and the next operation that
collects one hands it over. -/
def ServedNext (frame : List Byte) : RtuFramer → List FramerEvent → Prop
  | _, [] => True
  | f, event :: events =>
      let r := framerStep event f
      if event.Collects f then r.1 = some (event.op.given frame)
      else
        (r.1 = none ∧ r.2.frameReady = true ∧ r.2.completedFrame = frame) ∧
          ServedNext frame r.2 events

/-- The first operation that looks for silence from a time on. -/
structure FirstPoll (due : ℕ) (events waiting : List FramerEvent) (poll : FramerEvent)
    (rest : List FramerEvent) : Prop where
  split : events = waiting ++ poll :: rest
  polls : poll.Polls
  late : due ≤ poll.now
  first : ∀ event ∈ waiting, event.Polls → event.now < due

/-- A block that ended is completed by the first operation that looks for silence
once it is due, which comes within a millisecond, and delivered next. -/
structure Served (due : ℕ) (block : List Byte) (f : RtuFramer) (after : List FramerEvent) :
    Prop where
  polled : (∃ event ∈ after, due + 1000 < event.now) →
    ∃ waiting poll rest, FirstPoll due after waiting poll rest
  delivered : ∀ waiting poll rest, FirstPoll due after waiting poll rest →
    ServedNext block (framerRun waiting f) (poll :: rest)

/-- No byte comes once the block is due before an operation looks for silence. -/
def PolledFirst (due : ℕ) (after : List FramerEvent) : Prop :=
  ∀ waiting poll rest, FirstPoll due after waiting poll rest → arrivals waiting = []

/-! ## Runs -/

section Runs

variable {start first : ℕ} {events events' : List FramerEvent} {f : RtuFramer}

theorem arrivals_append : arrivals (events ++ events') = arrivals events ++ arrivals events' :=
  List.flatMap_append

theorem framerRun_append :
    framerRun (events ++ events') f = framerRun events' (framerRun events f) :=
  List.foldl_append

theorem Ticking.left (h : Ticking start first (events ++ events')) :
    Ticking start first events where
  ordered := (List.pairwise_append.mp h.ordered).1
  begins := fun event hmem => h.begins event (List.mem_append_left _ hmem)
  phase := h.phase
  ticks := (ticksEvery_append.mp h.ticks).1
  listens := fun event hmem => h.listens event (List.mem_append_left _ hmem)

/-- The tick that is due after the operations. -/
def tickDue (first : ℕ) (events : List FramerEvent) : ℕ :=
  nextTick FramerEvent.isTick 1000 first events

/-- The operations so far are not later than the next one, which is not later
than the tick that is due. -/
theorem Ticking.concat {event : FramerEvent} (h : Ticking start first (events ++ [event])) :
    (∀ event' ∈ events, event'.now ≤ event.now) ∧ event.now ≤ tickDue first events := by
  refine ⟨fun event' hmem => ?_, ?_⟩
  · exact (List.pairwise_append.mp h.ordered).2.2 event' hmem event (List.mem_singleton_self _)
  · exact (ticksEvery_append.mp h.ticks).2.1.1

/-- A tick is due a millisecond after the last one at the latest. -/
theorem Ticking.tickDue_le {now : ℕ} (h : Ticking start first events) (hstart : start ≤ now)
    (hnow : ∀ event ∈ events, event.isTick = true → event.now ≤ now) :
    tickDue first events ≤ now + 1000 := by
  apply nextTick_le h.ticks
  · have := h.phase
    omega
  · intro event hmem htick
    have := hnow event hmem htick
    omega

theorem FramerEvent.now_of_mem_arrival {event : FramerEvent} {arrival : ℕ × Byte}
    (h : arrival ∈ event.arrival) : arrival.1 = event.now := by
  obtain ⟨now, op⟩ := event
  cases op with
  | byte b => rw [List.mem_singleton.mp h]
  | _ => cases h

end Runs

namespace RtuFramer

/-- What no operation changes. -/
def settings (f : RtuFramer) : Dword × Dword × ℕ := (f.t15Us, f.t35Us, f.bufferSize)

theorem settings_tryCompleteFrame (f : RtuFramer) (now : ℕ) :
    (f.tryCompleteFrame now).settings = f.settings := by
  simp only [tryCompleteFrame]
  split_ifs <;> rfl

theorem settings_onByte (f : RtuFramer) (now : ℕ) (b : Byte) :
    (f.onByte now b).settings = f.settings := by
  unfold onByte
  split_ifs <;> rfl

theorem settings_framerStep (f : RtuFramer) (event : FramerEvent) :
    (framerStep event f).2.settings = f.settings := by
  obtain ⟨now, op⟩ := event
  cases op with
  | byte b => exact f.settings_onByte now b
  | systick => exact settings_tryCompleteFrame _ now
  | process =>
      have htried := f.settings_tryCompleteFrame now
      simp only [framerStep, RtuFramer.process]
      split_ifs <;> exact htried
  | read maxLen =>
      simp only [framerStep, RtuFramer.read]
      split_ifs <;> rfl
  | _ => rfl

/-- A byte that is being assembled has restarted the timer. -/
theorem onByte_receiving (f : RtuFramer) (now : ℕ) (b : Byte)
    (h : (f.onByte now b).state = .receiving) :
    (f.onByte now b).t35Armed = true ∧ (f.onByte now b).lastByteUs = timeUs now := by
  unfold onByte at h ⊢
  split_ifs at h ⊢ with hdrop
  · rw [hdrop.2] at h
    cases h
  · exact ⟨rfl, rfl⟩
  · exact ⟨rfl, rfl⟩
  · exact ⟨rfl, rfl⟩
  · exact ⟨rfl, rfl⟩

/-- Over less than the clock takes to wrap, it shows the time that has passed. -/
theorem toNat_elapsed {last now : ℕ} (h : last ≤ now) (hwrap : now - last < 2 ^ 32) :
    (timeUs now - timeUs last).toNat = now - last := by
  simp only [timeUs, BitVec.toNat_sub, BitVec.toNat_ofNat]
  omega

end RtuFramer

/-! ## Operations that bring no byte -/

/-- What the two engines have assembled is the same. -/
structure SameAssembly (f f' : RtuFramer) : Prop where
  state : f'.state = f.state
  armed : f'.t35Armed = f.t35Armed
  lastByteUs : f'.lastByteUs = f.lastByteUs
  bytes : bufferBytes f'.rxBuffer f'.rxLen = bufferBytes f.rxBuffer f.rxLen

/-- Apart from looking for silence, an operation without a byte leaves the
assembly alone. -/
theorem sameAssembly_of_quiet {event : FramerEvent} (hquiet : event.arrival = [])
    (hlistens : event.op.Listens) (f : RtuFramer) :
    SameAssembly (event.looked f) (framerStep event f).2 := by
  obtain ⟨now, op⟩ := event
  cases op with
  | byte b => cases hquiet
  | systick =>
      have htick := f.tryCompleteFrame_msTick now (f.msTick + 1)
      simp only [framerStep, RtuFramer.onSystick]
      rw [htick]
      exact ⟨rfl, rfl, rfl, rfl⟩
  | process =>
      simp only [framerStep, RtuFramer.process]
      split_ifs <;> exact ⟨rfl, rfl, rfl, rfl⟩
  | read maxLen =>
      simp only [framerStep, RtuFramer.read]
      split_ifs <;> exact ⟨rfl, rfl, rfl, rfl⟩
  | setCallback isSet => exact ⟨rfl, rfl, rfl, rfl⟩
  | flush => exact absurd rfl hlistens.1
  | txBegin => exact absurd rfl hlistens.2.1
  | delayT35 => exact absurd rfl hlistens.2.2

theorem FramerEvent.looked_of_polls {event : FramerEvent} (h : event.Polls) (f : RtuFramer) :
    event.looked f = f.tryCompleteFrame event.now := by
  obtain ⟨now, op⟩ := event
  rcases h with h | h
  · cases (show op = .systick from h)
    rfl
  · cases (show op = .process from h)
    rfl

/-- Before the silence is long enough there is nothing to complete. -/
theorem FramerEvent.looked_of_not_expired {event : FramerEvent} {f : RtuFramer}
    (h : event.Polls → ¬ f.Expired event.now) : event.looked f = f := by
  by_cases hpolls : event.Polls
  · rw [looked_of_polls hpolls]
    exact RtuFramer.tryCompleteFrame_of_not_expired (h hpolls)
  · obtain ⟨now, op⟩ := event
    cases op with
    | systick => exact absurd (.inl rfl) hpolls
    | process => exact absurd (.inr rfl) hpolls
    | _ => rfl

/-! ## The clock of an assembly -/

/-- An assembly goes on for as long as its bytes keep coming, and not longer than
T3.5 and a tick. -/
structure Paced (settings : Dword × Dword × ℕ) (received : List (ℕ × Byte)) (due : ℕ)
    (f : RtuFramer) : Prop where
  settings : f.settings = settings
  represented : f.Represented
  receiving : f.state = .receiving → f.t35Armed = true ∧ ∃ last ∈ received.getLast?,
    f.lastByteUs = RtuFramer.timeUs last.1 ∧ due ≤ last.1 + f.t35Us.toNat + 1000

/-- The clock shows how long it is since the last byte of an assembly. -/
theorem Paced.elapsed {settings : Dword × Dword × ℕ} {received : List (ℕ × Byte)} {due now : ℕ}
    {f : RtuFramer} (h : Paced settings received due f) (hwrap : f.t35Us.toNat ≤ 38500000)
    (hstate : f.state = .receiving) (hnow : now ≤ due)
    (hclock : ∀ last ∈ received.getLast?, last.1 ≤ now) :
    f.t35Armed = true ∧ ∃ last ∈ received.getLast?, f.lastByteUs = RtuFramer.timeUs last.1 ∧
      (f.elapsedUs now).toNat = now - last.1 ∧ due ≤ last.1 + f.t35Us.toNat + 1000 := by
  obtain ⟨harmed, last, hlast, htime, hdue⟩ := h.receiving hstate
  have hle := hclock last hlast
  refine ⟨harmed, last, hlast, htime, ?_, hdue⟩
  rw [RtuFramer.elapsedUs, htime]
  exact RtuFramer.toNat_elapsed hle (by omega)

section Pace

variable {start first : ℕ} {events : List FramerEvent} {event : FramerEvent} {f : RtuFramer}

/-- The last byte is not later than the next operation. -/
theorem Ticking.clock (h : Ticking start first (events ++ [event])) :
    ∀ last ∈ (arrivals events).getLast?, last.1 ≤ event.now := by
  intro last hlast
  obtain ⟨event', hmem, harrival⟩ := List.mem_flatMap.mp (List.mem_of_getLast? hlast)
  rw [FramerEvent.now_of_mem_arrival harrival]
  exact h.concat.1 event' hmem

/-- With the operation itself a tick is due within a millisecond. -/
theorem Ticking.tickDue_concat_le (h : Ticking start first (events ++ [event])) :
    tickDue first (events ++ [event]) ≤ event.now + 1000 := by
  apply h.tickDue_le
  · exact h.begins event (List.mem_append_right _ (List.mem_singleton_self _))
  · intro event' hmem _
    rcases List.mem_append.mp hmem with hmem | hmem
    · exact h.concat.1 event' hmem
    · rw [List.mem_singleton.mp hmem]

/-- One more operation keeps an assembly within its time. -/
theorem paced_concat (hwrap : f.t35Us.toNat ≤ 38500000)
    (h : Ticking start first (events ++ [event]))
    (hpaced : Paced f.settings (arrivals events) (tickDue first events) (framerRun events f)) :
    Paced f.settings (arrivals (events ++ [event])) (tickDue first (events ++ [event]))
      (framerRun (events ++ [event]) f) := by
  have hstep : framerRun (events ++ [event]) f = (framerStep event (framerRun events f)).2 :=
    framerRun_append
  have hle := h.concat.2
  have hclock := h.clock
  have hdue := h.tickDue_concat_le
  have hlistens : event.op.Listens :=
    h.listens event (List.mem_append_right _ (List.mem_singleton_self _))
  rw [hstep, arrivals_append]
  generalize framerRun events f = g at hpaced ⊢
  have hsettings := (g.settings_framerStep event).trans hpaced.settings
  have ht35 : g.t35Us = f.t35Us := congrArg (·.2.1) hpaced.settings
  have ht35' : (framerStep event g).2.t35Us = f.t35Us := congrArg (·.2.1) hsettings
  refine ⟨hsettings, (framerStep_spec hpaced.represented event).1, fun hstate => ?_⟩
  rw [ht35']
  by_cases hbyte : event.arrival = []
  · have hsame := sameAssembly_of_quiet hbyte hlistens g
    rw [hsame.state] at hstate
    rw [hsame.armed, hsame.lastByteUs, show arrivals [event] = [] by simp [arrivals, hbyte],
      List.append_nil]
    -- An assembly that was completed is not one any more.
    have hgoes : event.Polls → ¬ g.Expired event.now := by
      intro hpolls hexpired
      obtain ⟨-, hreceiving, -⟩ := id hexpired
      rw [FramerEvent.looked_of_polls hpolls, RtuFramer.tryCompleteFrame_of_expired hexpired
        (hpaced.represented.exclusive hreceiving) (hpaced.represented.assembled hreceiving)
        hpaced.represented.rxLen_le] at hstate
      cases hstate
    rw [FramerEvent.looked_of_not_expired hgoes] at hstate ⊢
    obtain ⟨harmed, last, hlast, htime, helapsed, hdue'⟩ :=
      hpaced.elapsed (ht35 ▸ hwrap) hstate hle hclock
    refine ⟨harmed, last, hlast, htime, ?_⟩
    rw [ht35] at hdue'
    by_cases hpolls : event.Polls
    · have hshort : (g.elapsedUs event.now).toNat < g.t35Us.toNat := by
        by_contra hlong
        exact hgoes hpolls ⟨harmed, hstate, Nat.not_lt.mp hlong⟩
      rw [helapsed, ht35] at hshort
      omega
    · have hsameDue : tickDue first (events ++ [event]) = tickDue first events := by
        have htick : event.isTick = false := decide_eq_false fun h => hpolls (.inl h)
        simp [tickDue, nextTick_append, nextTick, htick]
      rw [hsameDue]
      exact hdue'
  · obtain ⟨now, op⟩ := event
    cases op with
    | byte b =>
        obtain ⟨harmed, htime⟩ := g.onByte_receiving now b hstate
        refine ⟨harmed, (now, b), by simp [arrivals, FramerEvent.arrival], htime, ?_⟩
        have : tickDue first (events ++ [⟨now, .byte b⟩]) ≤ now + 1000 := hdue
        omega
    | _ => exact absurd rfl hbyte

/-- From initialisation on, an assembly keeps within its time. -/
theorem paced_framerRun (hrepresented : f.Represented) (hidle : f.state = .idle)
    (hwrap : f.t35Us.toNat ≤ 38500000) (h : Ticking start first events) :
    Paced f.settings (arrivals events) (tickDue first events) (framerRun events f) := by
  induction events using List.reverseRecOn with
  | nil =>
      refine ⟨rfl, hrepresented, fun hstate => ?_⟩
      rw [show f.state = .receiving from hstate] at hidle
      cases hidle
  | append_singleton events event ih => exact paced_concat hwrap h (ih h.left)

end Pace

/-! ## The assembly of a block -/

/-- The bytes so far of a block are assembled, and no frame waits. -/
structure Assembling (block : List Byte) (last : ℕ) (f : RtuFramer) : Prop where
  state : f.state = .receiving
  unready : f.frameReady = false
  armed : f.t35Armed = true
  lastByteUs : f.lastByteUs = RtuFramer.timeUs last
  bytes : bufferBytes f.rxBuffer f.rxLen = block

/-- Where no frame waits, an operation delivers none, and none waits after it. -/
theorem framerStep_unready {f : RtuFramer} (h : f.Represented) {event : FramerEvent}
    (hunready : (event.looked f).frameReady = false) :
    (framerStep event f).1 = none ∧ (framerStep event f).2.frameReady = false := by
  have houtcome := (framerStep_spec h event).2
  generalize (framerStep event f).1 = out at houtcome ⊢
  generalize (framerStep event f).2 = f' at houtcome ⊢
  cases houtcome with
  | kept _ ready => exact ⟨rfl, ready.trans hunready⟩
  | collected _ waiting =>
      rw [hunready] at waiting
      cases waiting
  | discarded _ ready => exact ⟨rfl, ready⟩

/-- Before T3.5 is over, an operation without a byte leaves the assembly alone. -/
theorem Assembling.quietStep {block : List Byte} {last : ℕ} {f : RtuFramer}
    (h : Assembling block last f) (hrepresented : f.Represented) {event : FramerEvent}
    (hquiet : event.arrival = []) (hlistens : event.op.Listens) (hlast : last ≤ event.now)
    (hearly : event.Polls → event.now < last + f.t35Us.toNat) :
    Assembling block last (framerStep event f).2 := by
  have hgoes : event.Polls → ¬ f.Expired event.now := by
    rintro hpolls ⟨-, -, hsilence⟩
    have helapsed := RtuFramer.toNat_elapsed_le hlast
    rw [RtuFramer.elapsedUs, h.lastByteUs] at hsilence
    have := hearly hpolls
    omega
  have hlooked := FramerEvent.looked_of_not_expired hgoes
  have hsame := sameAssembly_of_quiet hquiet hlistens f
  rw [hlooked] at hsame
  exact
    { state := hsame.state.trans h.state
      unready := (framerStep_unready hrepresented (hlooked.symm ▸ h.unready)).2
      armed := hsame.armed.trans h.armed
      lastByteUs := hsame.lastByteUs.trans h.lastByteUs
      bytes := hsame.bytes.trans h.bytes }

/-- Before T3.5 is over, operations without a byte leave the assembly alone. -/
theorem Assembling.quietRun {block : List Byte} {last : ℕ} {f : RtuFramer}
    (h : Assembling block last f) (hrepresented : f.Represented) {events : List FramerEvent}
    (hquiet : arrivals events = []) (hlistens : ∀ event ∈ events, event.op.Listens)
    (hlast : ∀ event ∈ events, last ≤ event.now)
    (hearly : ∀ event ∈ events, event.Polls → event.now < last + f.t35Us.toNat) :
    Assembling block last (framerRun events f) := by
  induction events generalizing f with
  | nil => exact h
  | cons event events ih =>
      obtain ⟨hquiet, hquiet'⟩ := List.append_eq_nil_iff.mp hquiet
      obtain ⟨hlistens, hlistens'⟩ := List.forall_mem_cons.mp hlistens
      obtain ⟨hlast, hlast'⟩ := List.forall_mem_cons.mp hlast
      obtain ⟨hearly, hearly'⟩ := List.forall_mem_cons.mp hearly
      have ht35 : (framerStep event f).2.t35Us = f.t35Us :=
        congrArg (·.2.1) (f.settings_framerStep event)
      exact ih (h.quietStep hrepresented hquiet hlistens hlast hearly)
        (framerStep_spec hrepresented event).1 hquiet' hlistens' hlast' (ht35.symm ▸ hearly')

namespace RtuFramer

variable {f : RtuFramer} {now : ℕ} {b : Byte}

/-- A byte that follows a silence, or finds the engine idle, opens an assembly. -/
theorem onByte_fresh (hunready : f.frameReady = false)
    (hfresh : f.state = .idle ∨ f.t15Us.toNat < (f.elapsedUs now).toNat) :
    f.onByte now b = { f.restart now b with state := .receiving } := by
  unfold onByte
  rw [if_neg (by simp [hunready])]
  by_cases hidle : f.state = .idle
  · rw [if_pos hidle]
  · have hstate : f.state = .receiving := by
      revert hidle
      cases f.state <;> simp
    rw [if_neg hidle, if_pos (hfresh.resolve_left hidle), if_neg (by simp [hunready]), ← hstate]
    rfl

/-- A byte that comes in time and finds room goes on with the assembly. -/
theorem onByte_extend (hstate : f.state = .receiving)
    (hclose : (f.elapsedUs now).toNat ≤ f.t15Us.toNat) (hroom : f.rxLen < f.bufferSize) :
    f.onByte now b = timerStartT35 now
      { f with rxBuffer := Function.update f.rxBuffer f.rxLen b, rxLen := f.rxLen + 1 } := by
  unfold onByte
  rw [if_neg (by simp [hstate]), if_neg (by simp [hstate]), if_neg (Nat.not_lt.mpr hclose),
    if_pos hroom]

end RtuFramer

/-- The last operation of a block brings its last byte. -/
theorem BlockArrives.ends {gap first last : ℕ} {events : List FramerEvent} {values : List Byte}
    (h : BlockArrives gap first events values last) :
    ∃ init b, events = init ++ [⟨last, .byte b⟩] := by
  cases h with
  | opened b => exact ⟨[], b, rfl⟩
  | next block between quiet now b close => exact ⟨_, b, rfl⟩

/-- A byte into a vacant engine is the first of an assembly. -/
theorem assembling_opened {f : RtuFramer} {now : ℕ} {b : Byte} (hunready : f.frameReady = false)
    (hfresh : f.state = .idle ∨ f.t15Us.toNat < (f.elapsedUs now).toNat) :
    Assembling [b] now (f.onByte now b) := by
  rw [RtuFramer.onByte_fresh hunready hfresh]
  exact ⟨rfl, hunready, rfl, rfl, RtuFramer.bufferBytes_update f.rxBuffer 0 b⟩

/-- A byte that comes in time is the next of the assembly. -/
theorem Assembling.onByte {f : RtuFramer} {block : List Byte} {last now : ℕ} {b : Byte}
    (h : Assembling block last f) (hlast : last ≤ now) (hclose : now ≤ last + f.t15Us.toNat)
    (hroom : block.length < f.bufferSize) : Assembling (block ++ [b]) now (f.onByte now b) := by
  have hlength : f.rxLen = block.length := by
    rw [← h.bytes]
    simp [bufferBytes]
  have helapsed : (f.elapsedUs now).toNat ≤ f.t15Us.toNat := by
    have := RtuFramer.toNat_elapsed_le hlast
    rw [RtuFramer.elapsedUs, h.lastByteUs]
    omega
  rw [RtuFramer.onByte_extend h.state helapsed (hlength ▸ hroom)]
  exact ⟨h.state, h.unready, rfl, rfl, h.bytes ▸ RtuFramer.bufferBytes_update f.rxBuffer f.rxLen b⟩

/-- Operations come in the order of their times. -/
theorem Ticking.le_of_mem {start first : ℕ} {events events' : List FramerEvent}
    (h : Ticking start first (events ++ events')) {event event' : FramerEvent}
    (hmem : event ∈ events) (hmem' : event' ∈ events') : event.now ≤ event'.now :=
  (List.pairwise_append.mp h.ordered).2.2 event hmem event' hmem'

/-- A block that arrives on an idle line is assembled. -/
theorem assembling_block {start first opened last : ℕ} {before events : List FramerEvent}
    {values : List Byte} {f : RtuFramer} (hrepresented : f.Represented) (hidle : f.state = .idle)
    (hwrap : f.t35Us.toNat ≤ 38500000) (hshort : f.t15Us.toNat < f.t35Us.toNat)
    (hvacant : Vacant (framerRun before f) (arrivals before) opened)
    (hblock : BlockArrives f.t15Us.toNat opened events values last)
    (hrun : Ticking start first (before ++ events)) (hfits : values.length ≤ f.bufferSize) :
    Assembling values last (framerRun (before ++ events) f) := by
  have hpaced : ∀ {events}, Ticking start first events → Paced f.settings (arrivals events)
      (tickDue first events) (framerRun events f) :=
    fun h => paced_framerRun hrepresented hidle hwrap h
  induction hblock with
  | opened b =>
      have hbefore := hpaced hrun.left
      have ht35 : (framerRun before f).t35Us = f.t35Us := congrArg (·.2.1) hbefore.settings
      rw [framerRun_append]
      apply assembling_opened hvacant.unready
      by_cases hstate : (framerRun before f).state = .idle
      · exact .inl hstate
      have hreceiving : (framerRun before f).state = .receiving := by
        revert hstate
        cases (framerRun before f).state <;> simp
      obtain ⟨-, last, hlast, -, helapsed, -⟩ :=
        hbefore.elapsed (ht35 ▸ hwrap) hreceiving hrun.concat.2 hrun.clock
      have hsilent : last.1 + _ < opened := hvacant.idle.resolve_left hstate last hlast
      rw [helapsed]
      exact .inr (Nat.lt_sub_iff_add_lt'.mpr hsilent)
  | @next events values last block between quiet now b close ih =>
      have hrun' : Ticking start first ((before ++ events ++ between) ++ [⟨now, .byte b⟩]) := by
        simpa only [List.append_assoc] using hrun
      rw [List.length_append, List.length_singleton] at hfits
      have hassembling := ih hrun'.left.left (Nat.le_of_succ_le hfits)
      have hstarted := hpaced hrun'.left.left
      have hpassed := hpaced hrun'.left
      have ht35 : (framerRun (before ++ events) f).t35Us = f.t35Us :=
        congrArg (·.2.1) hstarted.settings
      have ht15 : (framerRun (before ++ events ++ between) f).t15Us = f.t15Us :=
        congrArg (·.1) hpassed.settings
      have hsize : (framerRun (before ++ events ++ between) f).bufferSize = f.bufferSize :=
        congrArg (·.2.2) hpassed.settings
      obtain ⟨init, c, hends⟩ := block.ends
      have hlastMem : ⟨last, .byte c⟩ ∈ before ++ events := by simp [hends]
      have hquiet := hassembling.quietRun hstarted.represented quiet
        (fun event hmem => hrun'.listens event (by simp [hmem]))
        (fun event hmem => hrun'.left.le_of_mem hlastMem hmem)
        (fun event hmem _ => by
          have : event.now ≤ now := hrun'.le_of_mem (List.mem_append_right _ hmem)
            (List.mem_singleton_self _)
          rw [ht35]
          omega)
      rw [← framerRun_append] at hquiet
      have hlast : last ≤ now :=
        hrun'.le_of_mem (List.mem_append_left _ hlastMem) (List.mem_singleton_self _)
      have hstep := hquiet.onByte hlast (ht15 ▸ close) (hsize ▸ hfits) (b := b)
      have hsplit : before ++ (events ++ between ++ [⟨now, .byte b⟩]) =
          (before ++ events ++ between) ++ [⟨now, .byte b⟩] := by simp only [List.append_assoc]
      rw [hsplit, framerRun_append]
      exact hstep

/-! ## Delivery of the block -/

theorem RtuFramer.rxCallback_tryCompleteFrame (f : RtuFramer) (now : ℕ) :
    (f.tryCompleteFrame now).rxCallback = f.rxCallback := by
  simp only [tryCompleteFrame]
  split_ifs <;> rfl

/-- A frame that waits, or that the operation completes, is handed over by the
operation or waits after it. -/
theorem framerStep_ready {f : RtuFramer} {event : FramerEvent} {frame : List Byte}
    (h : (event.looked f).Represented) (hready : (event.looked f).frameReady = true)
    (hframe : (event.looked f).completedFrame = frame) (hlistens : event.op.Listens) :
    if event.Collects f then (framerStep event f).1 = some (event.op.given frame)
    else (framerStep event f).1 = none ∧ (framerStep event f).2.frameReady = true ∧
      (framerStep event f).2.completedFrame = frame := by
  have hsome := h.waiting hready
  obtain ⟨now, op⟩ := event
  subst hframe
  cases op with
  | byte b =>
      obtain ⟨hready', hframe'⟩ := f.onByte_waiting now b
      exact ⟨rfl, hready'.trans hready, hframe'⟩
  | systick =>
      have htick := f.tryCompleteFrame_msTick now (f.msTick + 1)
      refine ⟨rfl, ?_⟩
      simp only [framerStep, RtuFramer.onSystick]
      rw [htick]
      exact ⟨hready, rfl⟩
  | process =>
      have hcallback := f.rxCallback_tryCompleteFrame now
      have hcollects : (f.tryCompleteFrame now).frameReady = true ∧
          0 < (f.tryCompleteFrame now).completedLen := ⟨hready, hsome⟩
      simp only [framerStep, RtuFramer.process]
      rw [hcallback, if_pos hcollects]
      by_cases hset : f.rxCallback = true
      · rw [if_pos (show FramerEvent.Collects ⟨now, .process⟩ f from hset),
          if_neg (not_not.mpr hset)]
        rfl
      · rw [if_neg (show ¬ FramerEvent.Collects ⟨now, .process⟩ f from hset), if_pos hset]
        exact ⟨rfl, hready, rfl⟩
  | read maxLen =>
      have hcollects : f.frameReady = true ∧ 0 < f.completedLen := ⟨hready, hsome⟩
      simp only [framerStep, RtuFramer.read]
      rw [if_pos hcollects, ← take_bufferBytes]
      by_cases hzero : maxLen = 0
      · rw [if_neg (show ¬ FramerEvent.Collects ⟨now, .read maxLen⟩ f from not_not.mpr hzero),
          if_pos hzero]
        exact ⟨rfl, hready, rfl⟩
      · rw [if_pos (show FramerEvent.Collects ⟨now, .read maxLen⟩ f from hzero), if_neg hzero]
        rfl
  | setCallback isSet => exact ⟨rfl, hready, rfl⟩
  | flush => exact absurd rfl hlistens.1
  | txBegin => exact absurd rfl hlistens.2.1
  | delayT35 => exact absurd rfl hlistens.2.2

theorem represented_looked {f : RtuFramer} (h : f.Represented) (event : FramerEvent) :
    (event.looked f).Represented := by
  obtain ⟨now, op⟩ := event
  cases op with
  | systick | process => exact h.tryCompleteFrame now
  | _ => exact h

/-- A frame that waits, or that the first operation completes, is served next. -/
theorem servedNext_of_ready {f : RtuFramer} (h : f.Represented) {event : FramerEvent}
    {events : List FramerEvent} {frame : List Byte} (hready : (event.looked f).frameReady = true)
    (hframe : (event.looked f).completedFrame = frame)
    (hlistens : ∀ event' ∈ event :: events, event'.op.Listens) :
    ServedNext frame f (event :: events) := by
  induction events generalizing f event with
  | nil =>
      have hstep := framerStep_ready (represented_looked h event) hready hframe
        (hlistens event List.mem_cons_self)
      unfold ServedNext
      split_ifs at hstep ⊢
      · exact hstep
      · exact ⟨hstep, trivial⟩
  | cons event' events ih =>
      obtain ⟨hlistens, hlistens'⟩ := List.forall_mem_cons.mp hlistens
      have hstep := framerStep_ready (represented_looked h event) hready hframe hlistens
      unfold ServedNext
      split_ifs at hstep ⊢
      · exact hstep
      · have hrepresented := (framerStep_spec h event).1
        have hlooked := hrepresented.looked_of_ready hstep.2.1 event'
        refine ⟨hstep, ih hrepresented ?_ ?_ hlistens'⟩
        · exact hlooked.symm ▸ hstep.2.1
        · exact hlooked.symm ▸ hstep.2.2

/-- What neither waits nor is completed by the first operation is not served. -/
theorem not_servedNext {f : RtuFramer} (h : f.Represented) {event : FramerEvent}
    {events : List FramerEvent} {frame : List Byte}
    (hunready : (event.looked f).frameReady = false) : ¬ ServedNext frame f (event :: events) := by
  obtain ⟨hnone, hready⟩ := framerStep_unready h hunready
  unfold ServedNext
  simp only [hnone, hready]
  split_ifs <;> simp

/-- A block on an idle line: the engine, initialised, has been used as it should,
and the line is silent for T3.5 after the block. -/
structure BlockOnIdleLine (f : RtuFramer) (start first opened last : ℕ)
    (before during after : List FramerEvent) (block : List Byte) : Prop where
  run : Ticking start first (before ++ during ++ after)
  vacant : Vacant (framerRun before f) (arrivals before) opened
  arrives : BlockArrives f.t15Us.toNat opened during block last
  fits : block.length ≤ f.bufferSize
  silence : ∀ arrival ∈ arrivals after, last + f.t35Us.toNat ≤ arrival.1

/-- The bytes are in the order of their times. -/
theorem InOrder.le_getLast {events : List FramerEvent} (h : InOrder events)
    {arrival last : ℕ × Byte} (hmem : arrival ∈ arrivals events)
    (hlast : last ∈ (arrivals events).getLast?) : arrival.1 ≤ last.1 := by
  have hsorted : (arrivals events).Pairwise fun a b => a.1 ≤ b.1 := by
    refine List.pairwise_flatMap.mpr ⟨fun event _ => ?_, h.imp fun {event event'} hle => ?_⟩
    · apply List.pairwise_of_forall_mem_list
      intro a ha b hb
      rw [FramerEvent.now_of_mem_arrival ha, FramerEvent.now_of_mem_arrival hb]
    · intro a ha b hb
      rw [FramerEvent.now_of_mem_arrival ha, FramerEvent.now_of_mem_arrival hb]
      exact hle
  obtain ⟨init, hinit⟩ := List.getLast?_eq_some_iff.mp hlast
  rw [hinit] at hmem hsorted
  rcases List.mem_append.mp hmem with hmem | hmem
  · exact (List.pairwise_append.mp hsorted).2.2 arrival hmem last (List.mem_singleton_self _)
  · rw [List.mem_singleton.mp hmem]

section Block

variable {f : RtuFramer} {start first opened last : ℕ} {before during after : List FramerEvent}
  {block : List Byte}

theorem BlockOnIdleLine.assembling (h : BlockOnIdleLine f start first opened last before during
    after block) (hrepresented : f.Represented) (hidle : f.state = .idle)
    (hwrap : f.t35Us.toNat ≤ 38500000) (hshort : f.t15Us.toNat < f.t35Us.toNat) :
    Assembling block last (framerRun (before ++ during) f) :=
  assembling_block hrepresented hidle hwrap hshort h.vacant h.arrives h.run.left h.fits

/-- The last byte of the block is the last so far, and no operation so far is
later. -/
theorem BlockOnIdleLine.ended (h : BlockOnIdleLine f start first opened last before during after
    block) : (∃ b, (last, b) ∈ arrivals (before ++ during)) ∧ start ≤ last ∧
      ∀ event ∈ before ++ during, event.now ≤ last := by
  obtain ⟨init, b, hends⟩ := h.arrives.ends
  have hsplit : before ++ during = (before ++ init) ++ [⟨last, .byte b⟩] := by
    rw [hends, List.append_assoc]
  have hrun := h.run.left
  rw [hsplit] at hrun ⊢
  refine ⟨⟨b, ?_⟩, ?_, ?_⟩
  · rw [arrivals_append]
    exact List.mem_append_right _ (List.mem_singleton_self _)
  · exact hrun.begins ⟨last, .byte b⟩ (List.mem_append_right _ (List.mem_singleton_self _))
  · intro event hmem
    rcases List.mem_append.mp hmem with hmem | hmem
    · exact hrun.concat.1 event hmem
    · rw [List.mem_singleton.mp hmem]

/-- Until the block is due, no operation that looks for silence completes one. -/
theorem BlockOnIdleLine.unready (h : BlockOnIdleLine f start first opened last before during after
    block) (hrepresented : f.Represented) (hidle : f.state = .idle)
    (hwrap : f.t35Us.toNat ≤ 38500000) (hshort : f.t15Us.toNat < f.t35Us.toNat)
    {waiting : List FramerEvent} (hrun : Ticking start first (before ++ during ++ waiting))
    (hearly : ∀ event ∈ waiting, event.Polls → event.now < last + f.t35Us.toNat) :
    (framerRun (before ++ during ++ waiting) f).frameReady = false := by
  induction waiting using List.reverseRecOn with
  | nil =>
      rw [List.append_nil]
      exact (h.assembling hrepresented hidle hwrap hshort).unready
  | append_singleton waiting event ih =>
      rw [← List.append_assoc] at hrun ⊢
      have hready := ih hrun.left fun event' hmem => hearly event' (List.mem_append_left _ hmem)
      have hpaced := paced_framerRun hrepresented hidle hwrap hrun.left
      have ht35 : (framerRun (before ++ during ++ waiting) f).t35Us = f.t35Us :=
        congrArg (·.2.1) hpaced.settings
      have hgoes : event.Polls →
          ¬ (framerRun (before ++ during ++ waiting) f).Expired event.now := by
        rintro hpolls ⟨-, hstate, hsilence⟩
        obtain ⟨-, latest, hlatest, -, helapsed, -⟩ :=
          hpaced.elapsed (ht35 ▸ hwrap) hstate hrun.concat.2 hrun.clock
        obtain ⟨⟨b, hb⟩, -, -⟩ := h.ended
        have hreceived : (last, b) ∈ arrivals (before ++ during ++ waiting) := by
          rw [arrivals_append]
          exact List.mem_append_left _ hb
        have hle := hrun.left.ordered.le_getLast hreceived hlatest
        have := hearly event (List.mem_append_right _ (List.mem_singleton_self _)) hpolls
        rw [helapsed, ht35] at hsilence
        simp only at hle
        omega
      rw [← FramerEvent.looked_of_not_expired hgoes] at hready
      rw [framerRun_append]
      exact (framerStep_unready hpaced.represented hready).2

/-- Until the first operation that looks for silence once the block is due, no
tick is due much later. -/
theorem BlockOnIdleLine.tickDue_le (h : BlockOnIdleLine f start first opened last before during
    after block) {waiting : List FramerEvent}
    (hrun : Ticking start first (before ++ during ++ waiting))
    (hearly : ∀ event ∈ waiting, event.Polls → event.now < last + f.t35Us.toNat) :
    tickDue first (before ++ during ++ waiting) ≤ last + f.t35Us.toNat + 1000 := by
  obtain ⟨-, hstart, hbefore⟩ := h.ended
  apply hrun.tickDue_le (by omega)
  intro event hmem htick
  rcases List.mem_append.mp hmem with hmem | hmem
  · exact (hbefore event hmem).trans (Nat.le_add_right _ _)
  · exact (hearly event hmem (.inl (of_decide_eq_true htick))).le

/-- A tick looks for silence within a millisecond. -/
theorem BlockOnIdleLine.exists_firstPoll (h : BlockOnIdleLine f start first opened last before
    during after block)
    (hlate : ∃ event ∈ after, last + f.t35Us.toNat + 1000 < event.now) :
    ∃ waiting poll rest, FirstPoll (last + f.t35Us.toNat) after waiting poll rest := by
  obtain ⟨event, hmem, hevent⟩ := hlate
  have hrun : Ticking start first (before ++ during ++ []) := by simpa using h.run.left
  have hdue := h.tickDue_le hrun nofun
  rw [List.append_nil] at hdue
  obtain ⟨tick, htick, hist, hlater⟩ :=
    exists_tick_of_late (ticksEvery_append.mp h.run.ticks).2 hdue hmem hevent
  have hfound : (after.find? fun event =>
      event.Polls ∧ last + f.t35Us.toNat ≤ event.now).isSome := by
    rw [List.find?_isSome]
    exact ⟨tick, htick, decide_eq_true ⟨.inl (of_decide_eq_true hist), hlater⟩⟩
  obtain ⟨poll, hpoll⟩ := Option.isSome_iff_exists.mp hfound
  obtain ⟨hpolls, waiting, rest, hsplit, hfirst⟩ := List.find?_eq_some_iff_append.mp hpoll
  obtain ⟨hpolls, hlate⟩ := of_decide_eq_true hpolls
  refine ⟨waiting, poll, rest, hsplit, hpolls, hlate, fun event hmem hpolls => ?_⟩
  have := hfirst event hmem
  simp only [hpolls, true_and, Bool.not_eq_true', decide_eq_false_iff_not, Nat.not_le] at this
  exact this

theorem FirstPoll.ticking {due : ℕ} {events waiting rest : List FramerEvent} {poll : FramerEvent}
    (h : FirstPoll due after waiting poll rest) (hrun : Ticking start first (events ++ after)) :
    Ticking start first ((events ++ waiting ++ [poll]) ++ rest) := by
  rw [h.split] at hrun
  simpa only [List.append_assoc, List.singleton_append] using hrun

/-- A block that nothing has interrupted is completed once it is due. -/
theorem Assembling.looked {now : ℕ} {event : FramerEvent} (h : Assembling block last f)
    (hrepresented : f.Represented) (hpolls : event.Polls) (hnow : event.now = now)
    (hdue : last + f.t35Us.toNat ≤ now) (hwrap : now - last < 2 ^ 32) :
    (event.looked f).frameReady = true ∧ (event.looked f).completedFrame = block := by
  have helapsed : (f.elapsedUs event.now).toNat = now - last := by
    rw [RtuFramer.elapsedUs, h.lastByteUs, hnow]
    exact RtuFramer.toNat_elapsed (by omega) hwrap
  have hexpired : f.Expired event.now := ⟨h.armed, h.state, by omega⟩
  rw [FramerEvent.looked_of_polls hpolls, RtuFramer.tryCompleteFrame_of_expired hexpired h.unready
    (hrepresented.assembled h.state) hrepresented.rxLen_le]
  exact ⟨rfl, (RtuFramer.bufferBytes_copyBytes _ _ _).trans h.bytes⟩

/-- A byte that comes before anything looks for the silence starts afresh, and
the tick that follows is too early for it. -/
theorem BlockOnIdleLine.overrun (h : BlockOnIdleLine f start first opened last before during after
    block) (hrepresented : f.Represented) (hidle : f.state = .idle)
    (hwrap : f.t35Us.toNat ≤ 38500000) (hshort : f.t15Us.toNat < f.t35Us.toNat)
    (hlong : 1000 < f.t35Us.toNat) {waiting rest : List FramerEvent} {poll : FramerEvent}
    (hpoll : FirstPoll (last + f.t35Us.toNat) after waiting poll rest)
    (hbyte : arrivals waiting ≠ []) :
    (poll.looked (framerRun (before ++ during ++ waiting) f)).frameReady = false := by
  have hrun := hpoll.ticking h.run
  have hpaced := paced_framerRun hrepresented hidle hwrap hrun.left.left
  have ht35 : (framerRun (before ++ during ++ waiting) f).t35Us = f.t35Us :=
    congrArg (·.2.1) hpaced.settings
  have hready := h.unready hrepresented hidle hwrap hshort hrun.left.left hpoll.first
  have hdue := h.tickDue_le hrun.left.left hpoll.first
  have hgoes : ¬ (framerRun (before ++ during ++ waiting) f).Expired poll.now := by
    rintro ⟨-, hstate, hsilence⟩
    obtain ⟨-, latest, hlatest, -, helapsed, -⟩ :=
      hpaced.elapsed (ht35 ▸ hwrap) hstate hrun.left.concat.2 hrun.left.clock
    obtain ⟨arrival, harrival⟩ := List.exists_mem_of_ne_nil _ hbyte
    have hreceived : arrival ∈ arrivals (before ++ during ++ waiting) := by
      rw [arrivals_append]
      exact List.mem_append_right _ harrival
    have hle := hrun.left.left.ordered.le_getLast hreceived hlatest
    have hlater : last + f.t35Us.toNat ≤ arrival.1 := by
      apply h.silence
      rw [hpoll.split, arrivals_append]
      exact List.mem_append_left _ harrival
    have := hrun.left.concat.2
    rw [helapsed, ht35] at hsilence
    omega
  rw [FramerEvent.looked_of_not_expired fun _ => hgoes]
  exact hready

/-- A block on an idle line is served exactly if no byte comes once it is due
before an operation looks for silence. -/
theorem BlockOnIdleLine.served_iff (h : BlockOnIdleLine f start first opened last before during
    after block) (hrepresented : f.Represented) (hidle : f.state = .idle)
    (hwrap : f.t35Us.toNat ≤ 38500000) (hshort : f.t15Us.toNat < f.t35Us.toNat)
    (hlong : 1000 < f.t35Us.toNat) :
    Served (last + f.t35Us.toNat) block (framerRun (before ++ during) f) after ↔
      PolledFirst (last + f.t35Us.toNat) after := by
  have hpaced : ∀ {events}, Ticking start first events → Paced f.settings (arrivals events)
      (tickDue first events) (framerRun events f) :=
    fun h => paced_framerRun hrepresented hidle hwrap h
  constructor
  · intro hserved waiting poll rest hpoll
    by_contra hbyte
    have hwaited := hpaced (hpoll.ticking h.run).left.left
    have hdelivered := hserved.delivered waiting poll rest hpoll
    rw [← framerRun_append] at hdelivered
    exact not_servedNext hwaited.represented
      (h.overrun hrepresented hidle hwrap hshort hlong hpoll hbyte) hdelivered
  · refine fun hpolled => ⟨h.exists_firstPoll, fun waiting poll rest hpoll => ?_⟩
    have hrun := hpoll.ticking h.run
    have hstarted := hpaced h.run.left
    have hwaited := hpaced hrun.left.left
    have ht35 : (framerRun (before ++ during) f).t35Us = f.t35Us :=
      congrArg (·.2.1) hstarted.settings
    have ht35' : (framerRun (before ++ during ++ waiting) f).t35Us = f.t35Us :=
      congrArg (·.2.1) hwaited.settings
    obtain ⟨⟨b, hb⟩, -, -⟩ := h.ended
    obtain ⟨event, hmem, harrival⟩ := List.mem_flatMap.mp hb
    have hassembling := (h.assembling hrepresented hidle hwrap hshort).quietRun
      hstarted.represented (hpolled waiting poll rest hpoll)
      (fun event' hmem' => hrun.left.left.listens event' (List.mem_append_right _ hmem'))
      (fun event' hmem' => (FramerEvent.now_of_mem_arrival harrival).trans_le
        (hrun.left.left.le_of_mem hmem hmem'))
      (ht35.symm ▸ hpoll.first)
    rw [← framerRun_append] at hassembling ⊢
    have hlate := hpoll.late
    have hsoon := hrun.left.concat.2.trans (h.tickDue_le hrun.left.left hpoll.first)
    obtain ⟨hready, hframe⟩ := hassembling.looked hwaited.represented hpoll.polls rfl
      (ht35'.symm ▸ hlate) (by omega)
    apply servedNext_of_ready hwaited.represented hready hframe
    intro event' hmem'
    apply h.run.listens
    rw [hpoll.split]
    exact List.mem_append_right _ (List.mem_append_right _ hmem')

end Block

/-- From initialisation on: a block on an idle line is served exactly if no byte
comes once it is due before a tick or a call of `rtu_framer_process`. -/
theorem framerRun_served_iff (rxBuffer completedBuffer : ℕ → Byte) {bufferSize : ℕ}
    (hsize : 1 ≤ bufferSize) (baudrate msTick : Dword) {start first opened last : ℕ}
    {before during after : List FramerEvent} {block : List Byte}
    (h : BlockOnIdleLine (rtuFramerInit rxBuffer completedBuffer bufferSize baudrate msTick) start
      first opened last before during after block) :
    Served (last + (modbusRtuTimeoutsUs baudrate).2.toNat) block
        (framerRun (before ++ during)
          (rtuFramerInit rxBuffer completedBuffer bufferSize baudrate msTick)) after ↔
      PolledFirst (last + (modbusRtuTimeoutsUs baudrate).2.toNat) after := by
  obtain ⟨hshort, hlow, hhigh⟩ := modbusRtuTimeoutsUs_bounds baudrate
  exact h.served_iff (represented_init rxBuffer completedBuffer hsize baudrate msTick) rfl hhigh
    hshort (Nat.lt_of_lt_of_le (by decide) hlow)

/-- Ticks one after another. -/
def ticksAt (times : List ℕ) : List FramerEvent := times.map fun now => ⟨now, .systick⟩

theorem framerRun_served_iff_twoBytes :
    Served (1246 + (modbusRtuTimeoutsUs 9600).2.toNat) [1, 2]
        (framerRun ([⟨0, .setCallback true⟩] ++ [⟨100, .byte 1⟩, ⟨1000, .systick⟩, ⟨1246, .byte 2⟩])
          framedLine9600.framer)
        (ticksAt [2000, 3000, 4000, 5000, 6000] ++ [⟨6500, .byte 3⟩, ⟨6600, .process⟩]) ↔
      PolledFirst (1246 + (modbusRtuTimeoutsUs 9600).2.toNat)
        (ticksAt [2000, 3000, 4000, 5000, 6000] ++ [⟨6500, .byte 3⟩, ⟨6600, .process⟩]) := by
  have hblock : BlockOnIdleLine framedLine9600.framer 0 1000 100 1246 [⟨0, .setCallback true⟩]
      [⟨100, .byte 1⟩, ⟨1000, .systick⟩, ⟨1246, .byte 2⟩]
      (ticksAt [2000, 3000, 4000, 5000, 6000] ++ [⟨6500, .byte 3⟩, ⟨6600, .process⟩]) [1, 2] :=
    { run := ⟨by simp [InOrder, ticksAt], by decide, by decide, by decide, by decide⟩
      vacant := ⟨rfl, .inl rfl⟩
      arrives := .next (.opened 1) [⟨1000, .systick⟩] rfl 1246 2 (by decide)
      fits := by decide
      silence := by decide }
  exact framerRun_served_iff (fun _ => 0) (fun _ => 0) (by decide) 9600 0 hblock

/-- The ticks and the byte that come after a byte at 0. -/
def overrunRun : List FramerEvent :=
  ticksAt [1000, 2000, 3000, 4000] ++ [⟨4500, .byte 2⟩] ++ ticksAt [5000, 6000, 7000, 8000, 9000]

/-- Byte 1 is a block on an idle line and followed by more than T3.5 of silence,
and byte 2 makes the engine discard it. -/
theorem not_framerRun_served :
    BlockOnIdleLine framedLine9600.framer 0 1000 0 0 [] [⟨0, .byte 1⟩] overrunRun [1] ∧
      ¬ Served (0 + framedLine9600.framer.t35Us.toNat) [1]
        (framerRun ([] ++ [⟨0, .byte 1⟩]) framedLine9600.framer) overrunRun := by
  constructor
  · exact
      { run := ⟨by simp [InOrder, overrunRun, ticksAt], by decide, by decide, by decide, by decide⟩
        vacant := ⟨rfl, .inl rfl⟩
        arrives := .opened 1
        fits := by decide
        silence := by decide }
  · intro hserved
    have hnext := hserved.delivered (ticksAt [1000, 2000, 3000, 4000] ++ [⟨4500, .byte 2⟩])
      ⟨5000, .systick⟩ (ticksAt [6000, 7000, 8000, 9000])
      ⟨rfl, .inl rfl, by decide, by decide⟩
    obtain ⟨⟨-, hready, -⟩, -⟩ := hnext
    revert hready
    decide

end AutomationBoard.Serial
