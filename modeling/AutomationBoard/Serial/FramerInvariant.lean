/-
# The engine's representation invariant

A frame is assembled or waits to be collected, never both at once: the assembly
is completed only while nothing waits, and nothing is assembled while something
waits. Every operation keeps this, whatever the times. An observer numbers the
frames as they are completed; a frame that is handed over is the latest of them,
and it is not handed over again.
-/

import AutomationBoard.Program.Runs
import AutomationBoard.Serial.RtuFramer

namespace AutomationBoard.Serial

open AutomationBoard.Modbus (Byte)
open AutomationBoard.Program

namespace RtuFramer

/-- What holds of the engine between operations. -/
structure Represented (f : RtuFramer) : Prop where
  size : 1 ≤ f.bufferSize
  rxLen_le : f.rxLen ≤ f.bufferSize
  completedLen_le : f.completedLen ≤ f.bufferSize
  assembled : f.state = .receiving → 1 ≤ f.rxLen
  exclusive : f.state = .receiving → f.frameReady = false
  waiting : f.frameReady = true → 1 ≤ f.completedLen

/-! ## What each function keeps -/

/-- While a frame waits there is nothing to complete. -/
theorem Represented.not_expired {f : RtuFramer} (h : f.Represented) (hready : f.frameReady = true)
    (now : ℕ) : ¬ f.Expired now := by
  rintro ⟨-, hstate, -⟩
  rw [h.exclusive hstate] at hready
  cases hready

theorem Represented.tryCompleteFrame {f : RtuFramer} (h : f.Represented) (now : ℕ) :
    (f.tryCompleteFrame now).Represented := by
  by_cases hexpired : f.Expired now
  · obtain ⟨-, hstate, -⟩ := id hexpired
    rw [tryCompleteFrame_of_expired hexpired (h.exclusive hstate) (h.assembled hstate) h.rxLen_le]
    exact
      { size := h.size
        rxLen_le := Nat.zero_le _
        completedLen_le := h.rxLen_le
        assembled := nofun
        exclusive := nofun
        waiting := fun _ => h.assembled hstate }
  · rw [tryCompleteFrame_of_not_expired hexpired]
    exact h

/-- A frame that waits goes on to wait. -/
theorem Represented.tryCompleteFrame_of_ready {f : RtuFramer} (h : f.Represented)
    (hready : f.frameReady = true) (now : ℕ) : f.tryCompleteFrame now = f :=
  tryCompleteFrame_of_not_expired (h.not_expired hready now)

theorem Represented.onByte {f : RtuFramer} (h : f.Represented) (now : ℕ) (b : Byte) :
    (f.onByte now b).Represented := by
  have hreceiving : f.state ≠ .idle → f.state = .receiving := by
    cases f.state <;> simp
  unfold RtuFramer.onByte
  split_ifs with hdrop hidle hgap hready hroom
  · exact h
  · have hready : f.frameReady = false := by
      simpa [hidle] using hdrop
    exact { h with rxLen_le := h.size, assembled := fun _ => Nat.le_refl 1,
                   exclusive := fun _ => hready }
  · exact { h with rxLen_le := Nat.zero_le _, assembled := nofun, exclusive := nofun }
  · exact { h with rxLen_le := h.size, assembled := fun _ => Nat.le_refl 1 }
  · exact { h with rxLen_le := hroom, assembled := fun _ => Nat.succ_pos _ }
  · exact { h with }

/-- A byte leaves what waits alone. -/
theorem onByte_waiting (f : RtuFramer) (now : ℕ) (b : Byte) :
    (f.onByte now b).frameReady = f.frameReady ∧
      (f.onByte now b).completedFrame = f.completedFrame := by
  unfold onByte
  split_ifs <;> exact ⟨rfl, rfl⟩

theorem Represented.collected {f : RtuFramer} (h : f.Represented) : f.collected.Represented :=
  { h with completedLen_le := Nat.zero_le _, exclusive := fun _ => rfl, waiting := nofun }

/-- An engine with nothing assembled and nothing waiting. -/
theorem Represented.cleared {f f' : RtuFramer} (h : f.Represented)
    (hsize : f'.bufferSize = f.bufferSize) (hrxLen : f'.rxLen = 0) (hstate : f'.state = .idle)
    (hready : f'.frameReady = false) (hlen : f'.completedLen ≤ f.completedLen) :
    f'.Represented where
  size := hsize ▸ h.size
  rxLen_le := hrxLen ▸ Nat.zero_le _
  completedLen_le := hsize ▸ hlen.trans h.completedLen_le
  assembled h' := by
    rw [hstate] at h'
    cases h'
  exclusive _ := hready
  waiting h' := by
    rw [hready] at h'
    cases h'

end RtuFramer

/-! ## One operation -/

/-- What a reader with that much room is given of a frame, and the callback the
whole of. -/
def FramerOp.given (op : FramerOp) (frame : List Byte) : List Byte :=
  match op with
  | .read maxLen => frame.take maxLen
  | _ => frame

/-- The engine once an operation that looks for silence has done so. -/
def FramerEvent.looked (event : FramerEvent) (f : RtuFramer) : RtuFramer :=
  match event.op with
  | .systick | .process => f.tryCompleteFrame event.now
  | _ => f

/-- The operation makes `rtu_try_complete_frame` or `rtu_framer_on_byte` drop an
assembly because a frame waits. -/
def FramerEvent.Drops (event : FramerEvent) (f : RtuFramer) : Prop :=
  match event.op with
  | .systick | .process => f.Expired event.now ∧ 0 < f.rxLen ∧ f.frameReady = true
  | .byte _ => f.state = .receiving ∧ f.t15Us.toNat < (f.elapsedUs event.now).toNat ∧
      f.frameReady = true
  | _ => False

/-- What an operation does with the frame that waits. -/
inductive Outcome (event : FramerEvent) (f : RtuFramer) : Option (List Byte) → RtuFramer → Prop
  | kept (f' : RtuFramer) (ready : f'.frameReady = (event.looked f).frameReady)
      (frame : f'.completedFrame = (event.looked f).completedFrame) : Outcome event f none f'
  | collected (f' : RtuFramer) (waiting : (event.looked f).frameReady = true)
      (ready : f'.frameReady = false) :
      Outcome event f (some (event.op.given (event.looked f).completedFrame)) f'
  | discarded (f' : RtuFramer) (ready : f'.frameReady = false) : Outcome event f none f'

/-- The tick counter has no part in completing a frame. -/
theorem RtuFramer.tryCompleteFrame_msTick (f : RtuFramer) (now : ℕ) (msTick : Dword) :
    { f with msTick := msTick }.tryCompleteFrame now =
      { f.tryCompleteFrame now with msTick := msTick } := by
  simp only [tryCompleteFrame, elapsedUs]
  split_ifs <;> rfl

/-- The first bytes of a buffer. -/
theorem take_bufferBytes (buffer : ℕ → Byte) (len maxLen : ℕ) :
    (bufferBytes buffer len).take maxLen =
      bufferBytes buffer (if maxLen < len then maxLen else len) := by
  have hmin : min maxLen len = if maxLen < len then maxLen else len := by
    split_ifs with hshort
    · exact Nat.min_eq_left (Nat.le_of_lt hshort)
    · exact Nat.min_eq_right (Nat.not_lt.mp hshort)
  rw [bufferBytes, ← List.map_take, List.take_range, hmin, bufferBytes]

/-- Every operation keeps the invariant and does one of three things with the
frame that waits. -/
theorem framerStep_spec {f : RtuFramer} (h : f.Represented) (event : FramerEvent) :
    (framerStep event f).2.Represented ∧
      Outcome event f (framerStep event f).1 (framerStep event f).2 := by
  obtain ⟨now, op⟩ := event
  cases op with
  | byte b =>
      obtain ⟨hready, hframe⟩ := f.onByte_waiting now b
      exact ⟨h.onByte now b, .kept _ hready hframe⟩
  | systick =>
      have htick := f.tryCompleteFrame_msTick now (f.msTick + 1)
      simp only [framerStep, RtuFramer.onSystick]
      rw [htick]
      exact ⟨{ h.tryCompleteFrame now with }, .kept _ rfl rfl⟩
  | process =>
      have htried := h.tryCompleteFrame now
      simp only [framerStep, RtuFramer.process]
      split_ifs with hcallback hready
      · exact ⟨htried.collected, .collected _ hready.1 rfl⟩
      · exact ⟨htried, .kept _ rfl rfl⟩
      · exact ⟨htried, .kept _ rfl rfl⟩
  | read maxLen =>
      simp only [framerStep, RtuFramer.read]
      rw [← take_bufferBytes]
      split_ifs with hzero hready
      · exact ⟨h, .kept _ rfl rfl⟩
      · exact ⟨h.collected, .collected _ hready.1 rfl⟩
      · exact ⟨h, .kept _ rfl rfl⟩
  | setCallback isSet => exact ⟨{ h with }, .kept _ rfl rfl⟩
  | flush => exact ⟨h.cleared rfl rfl rfl rfl (Nat.zero_le _), .discarded _ rfl⟩
  | txBegin => exact ⟨h.cleared rfl rfl rfl rfl (Nat.le_refl _), .discarded _ rfl⟩
  | delayT35 => exact ⟨{ h with }, .kept _ rfl rfl⟩

/-! ## The ledger of frames -/

/-- An engine with the frames that it has completed, and the numbers of those
that it has handed over. A frame's number is how many were completed with it. -/
structure FrameLedger where
  framer : RtuFramer
  completed : List (List Byte)
  delivered : List ℕ

/-- The frame that an operation completes. -/
def FramerEvent.completes (event : FramerEvent) (f : RtuFramer) : List (List Byte) :=
  if f.frameReady = false ∧ (event.looked f).frameReady = true then
    [(event.looked f).completedFrame]
  else []

/-- One operation, booked. -/
def ledgerStep (event : FramerEvent) (s : FrameLedger) : Option (List Byte) × FrameLedger :=
  let r := framerStep event s.framer
  let completed := s.completed ++ event.completes s.framer
  (r.1, ⟨r.2, completed, if r.1.isSome then s.delivered ++ [completed.length] else s.delivered⟩)

/-- What holds of an operation: the invariant, no assembly dropped for a frame
that waits, no change to a frame that goes on to wait, and a frame that is handed
over is the latest that was completed and was not handed over before. -/
structure WellKept (s : FrameLedger) (event : FramerEvent) (out : Option (List Byte))
    (s' : FrameLedger) : Prop where
  represented : s'.framer.Represented
  undropped : ¬ event.Drops s.framer
  unchanged : s.framer.frameReady = true → s'.framer.frameReady = true →
    s'.framer.completedFrame = s.framer.completedFrame
  latest : ∀ frame ∈ out, ∃ whole, s'.completed.getLast? = some whole ∧
    frame = event.op.given whole
  once : s'.delivered.Nodup

/-- The books are in order: the frame that waits is the latest, and was not
handed over. -/
structure FrameLedger.InOrder (s : FrameLedger) : Prop where
  represented : s.framer.Represented
  latest : s.framer.frameReady = true → s.completed.getLast? = some s.framer.completedFrame
  numbered : ∀ n ∈ s.delivered, n ≤ s.completed.length
  unserved : s.framer.frameReady = true → s.completed.length ∉ s.delivered
  once : s.delivered.Nodup

/-- No assembly is dropped for a frame that waits. -/
theorem RtuFramer.Represented.not_drops {f : RtuFramer} (h : f.Represented) (event : FramerEvent) :
    ¬ event.Drops f := by
  have hnever : f.state = .receiving → f.frameReady = true → False := by
    intro hstate hready
    rw [h.exclusive hstate] at hready
    cases hready
  obtain ⟨now, op⟩ := event
  cases op with
  | byte b => exact fun hdrops => hnever hdrops.1 hdrops.2.2
  | systick | process => exact fun hdrops => hnever hdrops.1.2.1 hdrops.2.2
  | _ => exact id

/-- A frame that waits is not completed again. -/
theorem RtuFramer.Represented.looked_of_ready {f : RtuFramer} (h : f.Represented)
    (hready : f.frameReady = true) (event : FramerEvent) : event.looked f = f := by
  obtain ⟨now, op⟩ := event
  cases op with
  | systick | process => exact h.tryCompleteFrame_of_ready hready now
  | _ => rfl

/-- The books with the frame that an operation completes. -/
theorem FrameLedger.InOrder.looked {s : FrameLedger} (h : s.InOrder) (event : FramerEvent)
    (hready : (event.looked s.framer).frameReady = true) :
    (s.completed ++ event.completes s.framer).getLast? =
        some (event.looked s.framer).completedFrame ∧
      (s.completed ++ event.completes s.framer).length ∉ s.delivered := by
  unfold FramerEvent.completes
  cases hbefore : s.framer.frameReady with
  | true =>
      rw [if_neg (by simp), h.represented.looked_of_ready hbefore, List.append_nil]
      exact ⟨h.latest hbefore, h.unserved hbefore⟩
  | false =>
      rw [if_pos ⟨rfl, hready⟩]
      refine ⟨by simp, fun hserved => ?_⟩
      have := h.numbered _ hserved
      rw [List.length_append, List.length_singleton] at this
      omega

/-- An operation keeps the books in order. -/
theorem inOrder_ledgerStep {s : FrameLedger} (h : s.InOrder) (event : FramerEvent) :
    (ledgerStep event s).2.InOrder ∧
      WellKept s event (ledgerStep event s).1 (ledgerStep event s).2 := by
  obtain ⟨hrepresented, houtcome⟩ := framerStep_spec h.represented event
  have hlooked := h.looked event
  have hlength : ∀ n ∈ s.delivered, n ≤ (s.completed ++ event.completes s.framer).length := by
    intro n hn
    have := h.numbered n hn
    rw [List.length_append]
    omega
  have hundropped := h.represented.not_drops event
  simp only [ledgerStep]
  generalize (framerStep event s.framer).1 = out at houtcome ⊢
  generalize (framerStep event s.framer).2 = f' at hrepresented houtcome ⊢
  cases houtcome with
  | kept _ hready hframe =>
      refine ⟨⟨hrepresented, fun hwaits => ?_, hlength, fun hwaits => ?_, h.once⟩,
        ⟨hrepresented, hundropped, fun hwaits _ => ?_, nofun, h.once⟩⟩
      · rw [hframe]
        exact (hlooked (hready ▸ hwaits)).1
      · exact (hlooked (hready ▸ hwaits)).2
      · rw [hframe, h.represented.looked_of_ready hwaits]
  | collected _ hwaiting hready =>
      obtain ⟨hlast, hnew⟩ := hlooked hwaiting
      have honce : (s.delivered ++ [(s.completed ++ event.completes s.framer).length]).Nodup :=
        (List.concat_eq_append ▸ h.once.concat hnew)
      have hgone : f'.frameReady ≠ true := by simp [hready]
      refine ⟨⟨hrepresented, fun hwaits => absurd hwaits hgone, ?_,
        fun hwaits => absurd hwaits hgone, honce⟩,
        ⟨hrepresented, hundropped, fun _ hwaits => absurd hwaits hgone, ?_, honce⟩⟩
      · intro n hn
        rcases List.mem_append.mp hn with hn | hn
        · exact hlength n hn
        · exact (List.mem_singleton.mp hn).le
      · intro frame hframe
        exact ⟨_, hlast, (Option.some.inj hframe).symm⟩
  | discarded _ hready =>
      have hgone : f'.frameReady ≠ true := by simp [hready]
      exact ⟨⟨hrepresented, fun hwaits => absurd hwaits hgone, hlength,
        fun hwaits => absurd hwaits hgone, h.once⟩,
        ⟨hrepresented, hundropped, fun _ hwaits => absurd hwaits hgone, nofun, h.once⟩⟩

/-! ## Runs -/

/-- The engine is in order after initialisation. -/
theorem represented_init (rxBuffer completedBuffer : ℕ → Byte) {bufferSize : ℕ}
    (hsize : 1 ≤ bufferSize) (baudrate msTick : Dword) :
    (rtuFramerInit rxBuffer completedBuffer bufferSize baudrate msTick).Represented where
  size := one_le_bufferSize_init rxBuffer completedBuffer hsize baudrate msTick
  rxLen_le := Nat.zero_le _
  completedLen_le := Nat.zero_le _
  assembled := nofun
  exclusive := nofun
  waiting := nofun

/-- From initialisation on, every operation of a run, whatever the order and the
times, keeps the invariant and hands a frame over at most once. -/
theorem framerRun_wellKept (rxBuffer completedBuffer : ℕ → Byte) {bufferSize : ℕ}
    (hsize : 1 ≤ bufferSize) (baudrate msTick : Dword) (events : List FramerEvent) :
    EveryStep (total ledgerStep) WellKept
      ⟨rtuFramerInit rxBuffer completedBuffer bufferSize baudrate msTick, [], []⟩ events := by
  apply everyStep_of_invariant (I := FrameLedger.InOrder)
  · intro s event h
    exact yields_total.mpr (inOrder_ledgerStep h event)
  · exact ⟨represented_init rxBuffer completedBuffer hsize baudrate msTick, nofun, nofun, nofun,
      List.nodup_nil⟩

theorem framerRun_wellKept_delay : EveryStep (total ledgerStep) WellKept
    ⟨rtuFramerInit (fun _ => 0) (fun _ => 0) 256 9600 0, [], []⟩
    [⟨0, .setCallback true⟩, ⟨100, .byte 1⟩, ⟨200, .delayT35⟩, ⟨9000, .byte 2⟩, ⟨15000, .systick⟩,
      ⟨15100, .txBegin⟩, ⟨15200, .byte 3⟩, ⟨21000, .process⟩, ⟨21100, .flush⟩] :=
  framerRun_wellKept (fun _ => 0) (fun _ => 0) (by decide) 9600 0 _

end AutomationBoard.Serial
