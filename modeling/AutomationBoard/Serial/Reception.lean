/-
# The reception of one block

Between two blocks the engine is empty. The first byte opens an assembly, silence
turns the assembly into a frame that waits, and `rtu_framer_process` hands the
frame over and leaves the engine empty again. Each operation that looks for
silence is judged by the time since the last byte alone.
-/

import AutomationBoard.Serial.FrameLoss

namespace AutomationBoard.Serial

open AutomationBoard.Modbus (Byte)

/-- Nothing is assembled, and no frame waits. -/
structure Empty (f : RtuFramer) : Prop where
  state : f.state = .idle
  unready : f.frameReady = false

/-- A frame waits to be collected. -/
structure Holding (block : List Byte) (f : RtuFramer) : Prop where
  state : f.state = .idle
  ready : f.frameReady = true
  frame : f.completedFrame = block

/-- An engine with a callback and its settings. -/
structure Engine (settings : Dword × Dword × ℕ) (f : RtuFramer) : Prop where
  represented : f.Represented
  settings : f.settings = settings
  callback : f.rxCallback = true

/-- No operation but the one that sets it changes the callback. -/
theorem rxCallback_framerStep {event : FramerEvent} (hop : ∀ isSet, event.op ≠ .setCallback isSet)
    (f : RtuFramer) : (framerStep event f).2.rxCallback = f.rxCallback := by
  obtain ⟨now, op⟩ := event
  cases op with
  | byte b =>
      simp only [framerStep, RtuFramer.onByte]
      split_ifs <;> rfl
  | systick => exact RtuFramer.rxCallback_tryCompleteFrame _ now
  | process =>
      have htried := f.rxCallback_tryCompleteFrame now
      simp only [framerStep, RtuFramer.process]
      split_ifs <;> exact htried
  | read maxLen =>
      simp only [framerStep, RtuFramer.read]
      split_ifs <;> rfl
  | setCallback isSet => exact absurd rfl (hop isSet)
  | flush | txBegin | delayT35 => rfl

theorem Engine.step {settings : Dword × Dword × ℕ} {f : RtuFramer} (h : Engine settings f)
    (event : FramerEvent) (hop : ∀ isSet, event.op ≠ .setCallback isSet) :
    Engine settings (framerStep event f).2 where
  represented := (framerStep_spec h.represented event).1
  settings := (f.settings_framerStep event).trans h.settings
  callback := (rxCallback_framerStep hop f).trans h.callback

section Operations

variable {f : RtuFramer} {block : List Byte} {last now : ℕ}

/-! ## Operations that complete nothing -/

namespace RtuFramer

theorem not_expired_of_idle (h : f.state = .idle) (now : ℕ) : ¬ f.Expired now := by
  rintro ⟨-, hstate, -⟩
  rw [h] at hstate
  cases hstate

theorem onSystick_of_not_expired (h : ¬ f.Expired now) :
    f.onSystick now = { f with msTick := f.msTick + 1 } := by
  rw [onSystick, tryCompleteFrame_msTick, tryCompleteFrame_of_not_expired h]

theorem process_of_unready (h : ¬ f.Expired now) (hunready : f.frameReady = false) :
    f.process now = (none, f) := by
  simp only [process, tryCompleteFrame_of_not_expired h, hunready, Bool.false_eq_true, false_and,
    if_false, ite_self]

end RtuFramer

/-! ## What is handed over -/

/-- A frame that is handed over has some bytes, and fits into the buffer. -/
theorem RtuFramer.Represented.length_process (h : f.Represented)
    (hblock : (f.process now).1 = some block) : 1 ≤ block.length ∧ block.length ≤ f.bufferSize := by
  have htried := h.tryCompleteFrame now
  have hsize : (f.tryCompleteFrame now).bufferSize = f.bufferSize :=
    congrArg (·.2.2) (f.settings_tryCompleteFrame now)
  simp only [RtuFramer.process] at hblock
  split_ifs at hblock with _ hready
  obtain rfl := Option.some.inj hblock
  have hlength : (f.tryCompleteFrame now).completedFrame.length =
      (f.tryCompleteFrame now).completedLen := by
    simp [RtuFramer.completedFrame, bufferBytes]
  rw [hlength, ← hsize]
  exact ⟨hready.2, htried.completedLen_le⟩

/-! ## An empty engine -/

theorem Empty.process_eq (h : Empty f) (now : ℕ) : f.process now = (none, f) :=
  RtuFramer.process_of_unready (RtuFramer.not_expired_of_idle h.state now) h.unready

theorem Empty.onSystick (h : Empty f) (now : ℕ) : Empty (f.onSystick now) := by
  rw [RtuFramer.onSystick_of_not_expired (RtuFramer.not_expired_of_idle h.state now)]
  exact ⟨h.state, h.unready⟩

theorem Empty.onByte (h : Empty f) (now : ℕ) (b : Byte) : Assembling [b] now (f.onByte now b) :=
  assembling_opened h.unready (.inl h.state)

/-! ## A frame that waits -/

theorem Holding.onSystick (h : Holding block f) (now : ℕ) : Holding block (f.onSystick now) := by
  rw [RtuFramer.onSystick_of_not_expired (RtuFramer.not_expired_of_idle h.state now)]
  exact ⟨h.state, h.ready, h.frame⟩

theorem Holding.process_eq (h : Holding block f) (hrepresented : f.Represented)
    (hcallback : f.rxCallback = true) (now : ℕ) : f.process now = (some block, f.collected) := by
  have hlen : 0 < f.completedLen := hrepresented.waiting h.ready
  have htried := RtuFramer.tryCompleteFrame_of_not_expired
    (RtuFramer.not_expired_of_idle h.state now)
  simp only [RtuFramer.process, htried, hcallback, h.ready, hlen, h.frame, not_true_eq_false,
    if_false, and_self, if_true]

theorem Holding.collected (h : Holding block f) : Empty f.collected := ⟨h.state, rfl⟩

/-! ## An assembly -/

/-- The silence is judged by the time since the last byte. -/
theorem Assembling.elapsed (h : Assembling block last f) (hlast : last ≤ now)
    (hwrap : now - last < 2 ^ 32) : (f.elapsedUs now).toNat = now - last := by
  rw [RtuFramer.elapsedUs, h.lastByteUs]
  exact RtuFramer.toNat_elapsed hlast hwrap

theorem Assembling.not_expired (h : Assembling block last f) (hlast : last ≤ now)
    (hearly : now < last + f.t35Us.toNat) : ¬ f.Expired now := by
  rintro ⟨-, -, hsilence⟩
  have helapsed := RtuFramer.toNat_elapsed_le hlast
  rw [RtuFramer.elapsedUs, h.lastByteUs] at hsilence
  omega

/-- Once the silence is long enough, the assembly is a frame that waits. -/
theorem Assembling.completed (h : Assembling block last f) (hrepresented : f.Represented)
    (hdue : last + f.t35Us.toNat ≤ now) (hwrap : now - last < 2 ^ 32) :
    Holding block (f.tryCompleteFrame now) := by
  have helapsed := h.elapsed (by omega) hwrap
  have hexpired : f.Expired now := ⟨h.armed, h.state, by omega⟩
  rw [RtuFramer.tryCompleteFrame_of_expired hexpired h.unready (hrepresented.assembled h.state)
    hrepresented.rxLen_le]
  exact ⟨rfl, rfl, (RtuFramer.bufferBytes_copyBytes _ _ _).trans h.bytes⟩

theorem Assembling.onSystick_early (h : Assembling block last f) (hlast : last ≤ now)
    (hearly : now < last + f.t35Us.toNat) : Assembling block last (f.onSystick now) := by
  rw [RtuFramer.onSystick_of_not_expired (h.not_expired hlast hearly)]
  exact ⟨h.state, h.unready, h.armed, h.lastByteUs, h.bytes⟩

theorem Assembling.onSystick_late (h : Assembling block last f) (hrepresented : f.Represented)
    (hdue : last + f.t35Us.toNat ≤ now) (hwrap : now - last < 2 ^ 32) :
    Holding block (f.onSystick now) := by
  have hcompleted := h.completed hrepresented hdue hwrap
  rw [RtuFramer.onSystick, f.tryCompleteFrame_msTick]
  exact ⟨hcompleted.state, hcompleted.ready, hcompleted.frame⟩

theorem Assembling.process_early (h : Assembling block last f) (hlast : last ≤ now)
    (hearly : now < last + f.t35Us.toNat) : f.process now = (none, f) :=
  RtuFramer.process_of_unready (h.not_expired hlast hearly) h.unready

theorem Assembling.process_late (h : Assembling block last f) (hrepresented : f.Represented)
    (hcallback : f.rxCallback = true) (hdue : last + f.t35Us.toNat ≤ now)
    (hwrap : now - last < 2 ^ 32) :
    (f.process now).1 = some block ∧ Empty (f.process now).2 := by
  have hcompleted := h.completed hrepresented hdue hwrap
  have hlen := (hrepresented.tryCompleteFrame now).waiting hcompleted.ready
  have hset := (f.rxCallback_tryCompleteFrame now).trans hcallback
  have hprocess : f.process now =
      (some (f.tryCompleteFrame now).completedFrame, (f.tryCompleteFrame now).collected) := by
    simp only [RtuFramer.process]
    rw [if_neg (not_not.mpr hset), if_pos ⟨hcompleted.ready, hlen⟩]
  rw [hprocess, hcompleted.frame]
  exact ⟨rfl, hcompleted.collected⟩

end Operations

end AutomationBoard.Serial
