/-
# Framing soundness

What the engine has assembled is the block of the received bytes that is still
open, and what waits to be collected is a complete one. A byte that comes while a
frame waits is dropped, and so is one for which the assembly has no room; the
invariant needs that no such byte is missed in a frame.
-/

import AutomationBoard.Program.Blocks
import AutomationBoard.Program.Runs
import AutomationBoard.Serial.RtuFramer

namespace AutomationBoard.Serial

open AutomationBoard.Modbus (Byte)
open AutomationBoard.Program

/-! ## The observer -/

/-- An engine with the bytes that it has been given since its initialisation. -/
structure FramedLine where
  framer : RtuFramer
  received : List (ℕ × Byte)

/-- The byte that an operation hands over. -/
def FramerEvent.arrival (event : FramerEvent) : List (ℕ × Byte) :=
  match event.op with
  | .byte b => [(event.now, b)]
  | _ => []

/-- One operation, observed. -/
def lineStep (event : FramerEvent) (s : FramedLine) : Option (List Byte) × FramedLine :=
  let r := framerStep event s.framer
  (r.1, ⟨r.2, s.received ++ event.arrival⟩)

/-- The buffer of a reader takes the whole frame. -/
def FramerEvent.HasRoom (event : FramerEvent) (f : RtuFramer) : Prop :=
  match event.op with
  | .read maxLen => f.completedLen ≤ maxLen
  | _ => True

/-- A frame that is delivered is a complete block of what was received. -/
def Sound (t15 t35 : ℕ) (s : FramedLine) (event : FramerEvent) (out : Option (List Byte))
    (s' : FramedLine) : Prop :=
  ∀ frame ∈ out, event.HasRoom s.framer →
    CompleteBlock t15 t35 s'.received event.now frame

/-- The operations are in the order of their times. -/
def InOrder (events : List FramerEvent) : Prop := events.Pairwise fun e e' => e.now ≤ e'.now

/-- A byte that opens a frame follows a silence, and one that goes on with a frame
finds room for it. -/
structure TakenWhole (s : FramedLine) (now : ℕ) : Prop where
  opens : s.framer.state = .idle → s.framer.frameReady = false →
    SilentFor s.framer.t15Us.toNat s.received now
  room : s.framer.state = .receiving →
    (s.framer.elapsedUs now).toNat ≤ s.framer.t15Us.toNat → s.framer.rxLen < s.framer.bufferSize

instance (s : FramedLine) (now : ℕ) : Decidable (TakenWhole s now) :=
  decidable_of_iff (_ ∧ _) ⟨fun h => ⟨h.1, h.2⟩, fun h => ⟨h.opens, h.room⟩⟩

/-- The operation is no byte, or the byte is taken whole. -/
def Intact (s : FramedLine) (event : FramerEvent) (_out : Option (List Byte)) (_s' : FramedLine) :
    Prop := event.arrival ≠ [] → TakenWhole s event.now

instance (s : FramedLine) (event : FramerEvent) (out : Option (List Byte)) (s' : FramedLine) :
    Decidable (Intact s event out s') := inferInstanceAs (Decidable (_ → _))

/-! ## Buffers and times -/

namespace RtuFramer

theorem bufferBytes_update (buffer : ℕ → Byte) (len : ℕ) (b : Byte) :
    bufferBytes (Function.update buffer len b) (len + 1) = bufferBytes buffer len ++ [b] := by
  have hbefore : ∀ i ∈ List.range len, Function.update buffer len b i = buffer i := by
    intro i hi
    exact Function.update_of_ne (Nat.ne_of_lt (List.mem_range.mp hi)) _ _
  rw [bufferBytes, List.range_succ, List.map_append, List.map_congr_left hbefore, List.map_cons,
    List.map_nil, Function.update_self, bufferBytes]

theorem bufferBytes_copyBytes (len : ℕ) (source target : ℕ → Byte) :
    bufferBytes (copyBytes len source target) len = bufferBytes source len := by
  apply List.map_congr_left
  intro i hi
  exact if_pos (List.mem_range.mp hi)

/-- The clock wraps, so an elapsed time is never longer than the true one. -/
theorem toNat_elapsed_le {last now : ℕ} (h : last ≤ now) :
    (timeUs now - timeUs last).toNat ≤ now - last := by
  simp only [timeUs, BitVec.toNat_sub, BitVec.toNat_ofNat]
  omega

end RtuFramer

/-! ## The invariant -/

/-- What is assembled is the open block, and what waits is a complete one. -/
structure Framed (t15 t35 : ℕ) (received : List (ℕ × Byte)) (now : ℕ) (f : RtuFramer) : Prop where
  t15_eq : f.t15Us.toNat = t15
  t35_eq : f.t35Us.toNat = t35
  size : 0 < f.bufferSize
  clock : ∀ last ∈ received.getLast?, last.1 ≤ now
  receiving : f.state = .receiving → f.frameReady = false ∧ 0 < f.rxLen ∧
    f.rxLen ≤ f.bufferSize ∧ OpenBlock t15 received (bufferBytes f.rxBuffer f.rxLen) ∧
    ∀ last ∈ received.getLast?, f.lastByteUs = RtuFramer.timeUs last.1
  ready : f.frameReady = true → CompleteBlock t15 t35 received now f.completedFrame

namespace Framed

variable {t15 t35 : ℕ} {received : List (ℕ × Byte)} {now now' : ℕ} {f : RtuFramer}

theorem later (h : Framed t15 t35 received now f) (hnow : now ≤ now') :
    Framed t15 t35 received now' f :=
  { h with
    clock := fun last hlast => (h.clock last hlast).trans hnow
    ready := fun hready => (h.ready hready).later hnow }

/-- What has elapsed on the clock has passed since the last byte. -/
theorem elapsed_le (h : Framed t15 t35 received now f) (hstate : f.state = .receiving)
    {last : ℕ × Byte} (hlast : last ∈ received.getLast?) :
    last.1 + (f.elapsedUs now).toNat ≤ now := by
  obtain ⟨-, -, -, -, htime⟩ := h.receiving hstate
  have hle := RtuFramer.toNat_elapsed_le (h.clock last hlast)
  have := h.clock last hlast
  rw [RtuFramer.elapsedUs, htime last hlast]
  omega

/-- Silence completes the open block. -/
theorem tryCompleteFrame (h : Framed t15 t35 received now f) :
    Framed t15 t35 received now (f.tryCompleteFrame now) := by
  by_cases hexpired : f.Expired now
  swap
  · rw [RtuFramer.tryCompleteFrame_of_not_expired hexpired]
    exact h
  obtain ⟨-, hstate, hsilence⟩ := id hexpired
  obtain ⟨hready, hlen, hfits, hopen, -⟩ := h.receiving hstate
  rw [RtuFramer.tryCompleteFrame_of_expired hexpired hready hlen hfits]
  refine { h with receiving := nofun, ready := fun _ => ?_ }
  simp only [RtuFramer.completedFrame, RtuFramer.bufferBytes_copyBytes]
  apply hopen.complete
  intro last hlast
  have := h.elapsed_le hstate hlast
  rw [← h.t35_eq]
  omega

/-- A frame that is collected waits no more. -/
theorem collected (h : Framed t15 t35 received now f) :
    Framed t15 t35 received now f.collected :=
  { h with
    receiving := fun hstate => ⟨rfl, (h.receiving hstate).2⟩
    ready := nofun }

/-- A byte that follows a silence opens a block. -/
theorem restart (h : Framed t15 t35 received now f) (b : Byte) (hready : f.frameReady = false)
    (hsilent : SilentFor t15 received now) :
    Framed t15 t35 (received ++ [(now, b)]) now { f.restart now b with state := .receiving } where
  t15_eq := h.t15_eq
  t35_eq := h.t35_eq
  size := h.size
  clock := by simp
  receiving _ := by
    refine ⟨hready, Nat.one_pos, h.size, ?_, by simp [RtuFramer.restart, RtuFramer.timerStartT35]⟩
    exact .start hsilent b
  ready h' := by
    rw [show f.frameReady = true from h'] at hready
    cases hready

/-- A byte that comes in time goes on with the block. -/
theorem extend (h : Framed t15 t35 received now f) (b : Byte) (hstate : f.state = .receiving)
    (hroom : f.rxLen < f.bufferSize) :
    Framed t15 t35 (received ++ [(now, b)]) now
      (RtuFramer.timerStartT35 now
        { f with rxBuffer := Function.update f.rxBuffer f.rxLen b, rxLen := f.rxLen + 1 }) where
  t15_eq := h.t15_eq
  t35_eq := h.t35_eq
  size := h.size
  clock := by simp
  receiving _ := by
    obtain ⟨hready, -, -, hopen, -⟩ := h.receiving hstate
    refine ⟨hready, Nat.succ_pos _, hroom, ?_, by simp [RtuFramer.timerStartT35]⟩
    have hbytes := RtuFramer.bufferBytes_update f.rxBuffer f.rxLen b
    exact hbytes ▸ hopen.concat now b
  ready h' := by
    have hready := (h.receiving hstate).1
    rw [show f.frameReady = true from h'] at hready
    cases hready

/-- A byte that is taken whole opens a block or goes on with it. -/
theorem onByte (h : Framed t15 t35 received now f) (b : Byte)
    (hwhole : TakenWhole ⟨f, received⟩ now) :
    Framed t15 t35 (received ++ [(now, b)]) now (f.onByte now b) := by
  have hreceiving : f.state ≠ .idle → f.state = .receiving := by
    cases f.state <;> simp
  simp only [RtuFramer.onByte]
  split_ifs with hdrop hidle hgap hready hroom
  · -- A frame waits, and the byte is not part of it.
    refine { h with clock := by simp, receiving := ?_, ready := ?_ }
    · intro hstate
      rw [hdrop.2] at hstate
      cases hstate
    · exact fun hready => (h.ready hready).concat (Nat.le_refl now) b
  · have hready : f.frameReady = false := by
      simpa [hidle] using hdrop
    exact h.restart b hready (h.t15_eq ▸ hwhole.opens hidle hready)
  · rw [(h.receiving (hreceiving hidle)).1] at hready
    cases hready
  · have hstate := hreceiving hidle
    have hsilent : SilentFor t15 received now := by
      intro last hlast
      have := h.elapsed_le hstate hlast
      rw [← h.t15_eq]
      omega
    have hrestart := h.restart b (h.receiving hstate).1 hsilent
    rwa [← hstate] at hrestart
  · exact h.extend b (hreceiving hidle) hroom
  · exact absurd (hwhole.room (hreceiving hidle) (Nat.not_lt.mp hgap)) hroom

/-- A call of `rtu_framer_process` delivers a complete block, if anything. -/
theorem process (h : Framed t15 t35 received now f) :
    Framed t15 t35 received now (f.process now).2 ∧
      ∀ frame ∈ (f.process now).1, CompleteBlock t15 t35 received now frame := by
  have hpoll := h.tryCompleteFrame
  simp only [RtuFramer.process]
  split_ifs with hcallback hready
  · refine ⟨hpoll.collected, fun frame hframe => ?_⟩
    rw [← Option.some.inj hframe]
    exact hpoll.ready hready.1
  · exact ⟨hpoll, nofun⟩
  · exact ⟨hpoll, nofun⟩

/-- A reader with room for it collects a complete block, if anything. -/
theorem read (h : Framed t15 t35 received now f) (maxLen : ℕ) :
    Framed t15 t35 received now (f.read maxLen).2 ∧
      ∀ frame ∈ (f.read maxLen).1, f.completedLen ≤ maxLen →
        CompleteBlock t15 t35 received now frame := by
  simp only [RtuFramer.read]
  split_ifs with hzero hready hshort
  · exact ⟨h, nofun⟩
  · exact ⟨h.collected, fun frame _ hroom => absurd hshort (Nat.not_lt.mpr hroom)⟩
  · refine ⟨h.collected, fun frame hframe _ => ?_⟩
    rw [← Option.some.inj hframe]
    exact h.ready hready.1
  · exact ⟨h, nofun⟩

/-- The engine with nothing assembled and nothing waiting. -/
theorem cleared (h : Framed t15 t35 received now f) {f' : RtuFramer}
    (ht15 : f'.t15Us = f.t15Us) (ht35 : f'.t35Us = f.t35Us) (hsize : f'.bufferSize = f.bufferSize)
    (hstate : f'.state = .idle) (hready : f'.frameReady = false) :
    Framed t15 t35 received now f' where
  t15_eq := ht15 ▸ h.t15_eq
  t35_eq := ht35 ▸ h.t35_eq
  size := hsize ▸ h.size
  clock := h.clock
  receiving h' := by
    rw [hstate] at h'
    cases h'
  ready h' := by
    rw [hready] at h'
    cases h'

end Framed

/-! ## One operation -/

/-- An operation on bytes that are taken whole keeps the invariant, and what it
delivers is a complete block. -/
theorem framed_lineStep {t15 t35 bound : ℕ} {s : FramedLine} {event : FramerEvent}
    (h : Framed t15 t35 s.received bound s.framer) (hnow : bound ≤ event.now)
    (hwhole : event.arrival ≠ [] → TakenWhole s event.now) :
    Framed t15 t35 (lineStep event s).2.received event.now (lineStep event s).2.framer ∧
      Sound t15 t35 s event (lineStep event s).1 (lineStep event s).2 := by
  have hlater := h.later hnow
  obtain ⟨now, op⟩ := event
  cases op with
  | byte b => exact ⟨hlater.onByte b (hwhole (List.cons_ne_nil _ _)), nofun⟩
  | systick =>
      simp only [lineStep, framerStep, FramerEvent.arrival, List.append_nil]
      have htick : Framed t15 t35 s.received now { s.framer with msTick := s.framer.msTick + 1 } :=
        { hlater with }
      exact ⟨htick.tryCompleteFrame, nofun⟩
  | process =>
      simp only [lineStep, framerStep, FramerEvent.arrival, List.append_nil]
      exact ⟨hlater.process.1, fun frame hframe _ => by simpa using hlater.process.2 frame hframe⟩
  | read maxLen =>
      simp only [lineStep, framerStep, FramerEvent.arrival, List.append_nil]
      exact ⟨(hlater.read maxLen).1, fun frame hframe hroom => by
        simpa using (hlater.read maxLen).2 frame hframe hroom⟩
  | setCallback isSet =>
      simp only [lineStep, framerStep, FramerEvent.arrival, List.append_nil]
      exact ⟨{ hlater with }, nofun⟩
  | flush | txBegin =>
      simp only [lineStep, framerStep, FramerEvent.arrival, List.append_nil]
      exact ⟨hlater.cleared rfl rfl rfl rfl rfl, nofun⟩
  | delayT35 =>
      simp only [lineStep, framerStep, FramerEvent.arrival, List.append_nil]
      exact ⟨{ hlater with }, nofun⟩

/-! ## Runs -/

/-- A run on bytes that are taken whole delivers complete blocks only. -/
theorem framedRun_sound {t15 t35 bound : ℕ} {s : FramedLine}
    (h : Framed t15 t35 s.received bound s.framer) {events : List FramerEvent}
    (hordered : InOrder events) (hbound : ∀ event ∈ events, bound ≤ event.now)
    (hintact : EveryStep (total lineStep) Intact s events) :
    EveryStep (total lineStep) (Sound t15 t35) s events := by
  induction events generalizing s bound with
  | nil => trivial
  | cons event events ih =>
      obtain ⟨hlater, hordered⟩ := List.pairwise_cons.mp hordered
      obtain ⟨hwhole, hrest⟩ := yields_total.mp hintact
      obtain ⟨hframed, hsound⟩ := framed_lineStep h (hbound event List.mem_cons_self) hwhole
      exact yields_total.mpr ⟨hsound, ih hframed hordered hlater hrest⟩

/-- Nothing is assembled and nothing waits after initialisation. -/
theorem framed_init (rxBuffer completedBuffer : ℕ → Byte) {bufferSize : ℕ}
    (hsize : 1 ≤ bufferSize) (baudrate msTick : Dword) :
    Framed (modbusRtuTimeoutsUs baudrate).1.toNat (modbusRtuTimeoutsUs baudrate).2.toNat [] 0
      (rtuFramerInit rxBuffer completedBuffer bufferSize baudrate msTick) where
  t15_eq := rfl
  t35_eq := rfl
  size := one_le_bufferSize_init rxBuffer completedBuffer hsize baudrate msTick
  clock := nofun
  receiving := nofun
  ready := nofun

/-- From initialisation on, a run whose bytes are all taken whole delivers
complete blocks of the received bytes only. -/
theorem framerRun_sound (rxBuffer completedBuffer : ℕ → Byte) {bufferSize : ℕ}
    (hsize : 1 ≤ bufferSize) (baudrate msTick : Dword) {events : List FramerEvent}
    (hordered : InOrder events)
    (hintact : EveryStep (total lineStep) Intact
      ⟨rtuFramerInit rxBuffer completedBuffer bufferSize baudrate msTick, []⟩ events) :
    EveryStep (total lineStep)
      (Sound (modbusRtuTimeoutsUs baudrate).1.toNat (modbusRtuTimeoutsUs baudrate).2.toNat)
      ⟨rtuFramerInit rxBuffer completedBuffer bufferSize baudrate msTick, []⟩ events :=
  framedRun_sound (framed_init rxBuffer completedBuffer hsize baudrate msTick) hordered
    (fun _ _ => Nat.zero_le _) hintact

/-- An engine at 9600 baud, with T1.5 = 1719 and T3.5 = 4011. -/
def framedLine9600 : FramedLine :=
  ⟨rtuFramerInit (fun _ => 0) (fun _ => 0) rtuFramerMaxFrame 9600 0, []⟩

theorem framerRun_sound_twoBytes : EveryStep (total lineStep)
    (Sound (modbusRtuTimeoutsUs 9600).1.toNat (modbusRtuTimeoutsUs 9600).2.toNat) framedLine9600
    [⟨0, .setCallback true⟩, ⟨100, .byte 1⟩, ⟨1246, .byte 2⟩, ⟨6000, .process⟩] :=
  framerRun_sound (fun _ => 0) (fun _ => 0) (by decide) 9600 0 (by simp [InOrder]) (by decide)

/-- Byte 2 is dropped because byte 1 waits, and byte 3 opens a frame in its tail. -/
def tailRun : List FramerEvent :=
  [⟨0, .setCallback true⟩, ⟨0, .byte 1⟩, ⟨5000, .systick⟩, ⟨6200, .byte 2⟩, ⟨6500, .process⟩,
    ⟨7346, .byte 3⟩, ⟨12000, .systick⟩, ⟨12100, .process⟩]

/-- The tail of a block is delivered as a frame. -/
theorem not_framerRun_sound :
    InOrder tailRun ∧ ¬ EveryStep (total lineStep)
      (Sound (modbusRtuTimeoutsUs 9600).1.toNat (modbusRtuTimeoutsUs 9600).2.toNat)
      framedLine9600 tailRun := by
  refine ⟨by simp [InOrder, tailRun], fun hrun => ?_⟩
  simp only [tailRun, EveryStep, yields_total] at hrun
  obtain ⟨-, -, -, -, -, -, -, hlast, -⟩ := hrun
  have hblock : CompleteBlock 1719 4011 [(0, 1), (6200, 2), (7346, 3)] 12100 [(3 : Byte)] :=
    hlast [3] rfl trivial
  obtain ⟨upTo, after, harrivals, ⟨before, first, rest, rfl, hsilent, hvalues⟩, -⟩ := hblock
  have hvalue : first.2 = 3 := (List.cons.inj hvalues).1.symm
  -- Only the last byte has the value, and it follows byte 2 too closely.
  rcases before with _ | ⟨a, _ | ⟨b, _ | ⟨c, before⟩⟩⟩
  · obtain ⟨rfl, -⟩ := List.cons.inj harrivals
    exact absurd hvalue (by decide)
  · simp only [List.cons_append, List.nil_append, List.cons.injEq] at harrivals
    obtain ⟨-, rfl, -⟩ := harrivals
    exact absurd hvalue (by decide)
  · simp only [List.cons_append, List.nil_append, List.cons.injEq] at harrivals
    obtain ⟨-, rfl, rfl, -⟩ := harrivals
    exact absurd (hsilent (6200, 2) rfl) (by decide)
  · simp at harrivals

end AutomationBoard.Serial
