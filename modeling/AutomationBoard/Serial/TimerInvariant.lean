/-
# The timer of an assembly

The timer runs exactly while a frame is assembled: then the frame is ended by the
first tick or poll after T3.5 of silence, whatever else happens. Every operation
keeps this but `rtu_framer_delay_t35`. It stops the timer as `rtu_framer_flush` and
`rtu_framer_tx_begin` do, but leaves the assembly as it is: a frame that is being
received then waits for another byte.
-/

import AutomationBoard.Program.Runs
import AutomationBoard.Serial.FrameLoss

namespace AutomationBoard.Serial

open AutomationBoard.Modbus (Byte)
open AutomationBoard.Program

/-- An engine with the time at which it was last given a byte. -/
structure TimedFramer where
  framer : RtuFramer
  lastByte : Option ℕ

/-- One operation, observed. -/
def timedFramerStep (event : FramerEvent) (s : TimedFramer) : Option (List Byte) × TimedFramer :=
  let r := framerStep event s.framer
  (r.1, ⟨r.2, match event.op with
    | .byte _ => some event.now
    | _ => s.lastByte⟩)

namespace TimedFramer

/-- The T3.5 timer is armed if and only if the framer is RECEIVING. -/
def TimerRight (s : TimedFramer) : Prop :=
  s.framer.t35Armed = true ↔ s.framer.state = .receiving

/-- The last byte was T3.5 ago or more, as the microsecond clock shows it. -/
def SilentAt (s : TimedFramer) (now : ℕ) : Prop :=
  ∃ last, s.lastByte = some last ∧
    s.framer.t35Us.toNat ≤ (RtuFramer.timeUs now - RtuFramer.timeUs last).toNat

/-- What holds between operations as long as the timer is right. -/
structure Timed (s : TimedFramer) : Prop where
  right : s.TimerRight
  started : s.framer.state = .receiving → ∃ last, s.lastByte = some last ∧
    s.framer.lastByteUs = RtuFramer.timeUs last

end TimedFramer

/-- After the operation the timer is right, and a frame that was being assembled is
ended if the operation is a tick or a poll after T3.5 of silence. -/
structure EndsFrames (s : TimedFramer) (event : FramerEvent) (_ : Option (List Byte))
    (s' : TimedFramer) : Prop where
  right : s'.TimerRight
  ends : event.Polls → s.framer.state = .receiving → s.SilentAt event.now →
    s'.framer.state = .idle

/-- The operation is not a call of `rtu_framer_delay_t35` while a frame is being
assembled. -/
def SparesAssembly (s : TimedFramer) (event : FramerEvent) (_ : Option (List Byte))
    (_ : TimedFramer) : Prop :=
  event.op = .delayT35 → s.framer.state ≠ .receiving

/-! ## One operation -/

namespace RtuFramer

/-- Completing a frame keeps the timer right. -/
theorem armed_tryCompleteFrame {f : RtuFramer} (h : f.t35Armed = true ↔ f.state = .receiving)
    (now : ℕ) :
    (f.tryCompleteFrame now).t35Armed = true ↔ (f.tryCompleteFrame now).state = .receiving := by
  simp only [tryCompleteFrame]
  split_ifs <;> simp_all

/-- An assembly is started or goes on with the timer, or is dropped with it. -/
theorem armed_onByte {f : RtuFramer} (h : f.t35Armed = true ↔ f.state = .receiving) (now : ℕ)
    (b : Byte) : (f.onByte now b).t35Armed = true ↔ (f.onByte now b).state = .receiving := by
  have hreceiving : f.state ≠ .idle → f.state = .receiving := by
    cases f.state <;> simp
  unfold onByte
  split_ifs with hdrop hidle hgap hready hroom
  · exact h
  · exact iff_of_true rfl rfl
  · exact iff_of_false nofun nofun
  · exact iff_of_true rfl (hreceiving hidle)
  · exact iff_of_true rfl (hreceiving hidle)
  · exact iff_of_true rfl (hreceiving hidle)

/-- What is assembled after looking for silence was assembled before. -/
theorem receiving_of_tryCompleteFrame {f : RtuFramer} {now : ℕ}
    (h : (f.tryCompleteFrame now).state = .receiving) :
    f.state = .receiving ∧ (f.tryCompleteFrame now).lastByteUs = f.lastByteUs := by
  by_cases hexpired : f.Expired now
  · simp only [tryCompleteFrame] at h
    split_ifs at h <;> simp_all [Expired]
  · rw [tryCompleteFrame_of_not_expired hexpired] at h ⊢
    exact ⟨h, rfl⟩

/-- Silence ends the assembly. -/
theorem state_tryCompleteFrame_of_expired {f : RtuFramer} {now : ℕ} (h : f.Expired now) :
    (f.tryCompleteFrame now).state = .idle := by
  simp only [tryCompleteFrame]
  rw [if_neg (not_not.mpr h.1)]
  rw [if_pos (show f.t35Armed = true ∧ f.state = .receiving ∧ _ from h)]
  split_ifs <;> rfl

end RtuFramer

/-- The byte that is assembled last is the one that the timer counts from. -/
theorem TimedFramer.Timed.byte {s : TimedFramer} (h : s.Timed) (now : ℕ) (b : Byte) :
    (timedFramerStep ⟨now, .byte b⟩ s).2.Timed where
  right := RtuFramer.armed_onByte h.right now b
  started hstate := ⟨now, rfl, (s.framer.onByte_receiving now b hstate).2⟩

/-- An operation that takes the assembly as looking for silence leaves it keeps the
timer right. -/
theorem TimedFramer.Timed.looked {s s' : TimedFramer} (h : s.Timed) (now : ℕ)
    (hstate : s'.framer.state = (s.framer.tryCompleteFrame now).state)
    (harmed : s'.framer.t35Armed = (s.framer.tryCompleteFrame now).t35Armed)
    (hlast : s'.framer.lastByteUs = (s.framer.tryCompleteFrame now).lastByteUs)
    (hbyte : s'.lastByte = s.lastByte) : s'.Timed where
  right := by
    rw [TimerRight, hstate, harmed]
    exact RtuFramer.armed_tryCompleteFrame h.right now
  started hreceiving := by
    rw [hstate] at hreceiving
    obtain ⟨hbefore, hkept⟩ := RtuFramer.receiving_of_tryCompleteFrame hreceiving
    rw [hlast, hkept, hbyte]
    exact h.started hbefore

/-- An operation that leaves the assembly and the timer alone keeps the timer right. -/
theorem TimedFramer.Timed.same {s s' : TimedFramer} (h : s.Timed)
    (hstate : s'.framer.state = s.framer.state) (harmed : s'.framer.t35Armed = s.framer.t35Armed)
    (hlast : s'.framer.lastByteUs = s.framer.lastByteUs) (hbyte : s'.lastByte = s.lastByte) :
    s'.Timed where
  right := by
    rw [TimerRight, hstate, harmed]
    exact h.right
  started hreceiving := by
    rw [hlast, hbyte]
    exact h.started (hstate ▸ hreceiving)

/-- Without an assembly the timer is stopped. -/
theorem TimedFramer.timed_of_stopped {s : TimedFramer} (hstate : s.framer.state = .idle)
    (harmed : s.framer.t35Armed = false) : s.Timed where
  right := by simp [TimerRight, hstate, harmed]
  started hreceiving := by simp [hstate] at hreceiving

/-- A tick or a poll looks for silence, whatever else it does. -/
theorem timedFramerStep_polls (s : TimedFramer) {event : FramerEvent} (hpolls : event.Polls) :
    (timedFramerStep event s).2.framer.state = (s.framer.tryCompleteFrame event.now).state ∧
      (timedFramerStep event s).2.framer.t35Armed =
        (s.framer.tryCompleteFrame event.now).t35Armed ∧
      (timedFramerStep event s).2.framer.lastByteUs =
        (s.framer.tryCompleteFrame event.now).lastByteUs ∧
      (timedFramerStep event s).2.lastByte = s.lastByte := by
  obtain ⟨now, op⟩ := event
  rcases hpolls with hop | hop
  · cases (show op = .systick from hop)
    have htick := s.framer.tryCompleteFrame_msTick now (s.framer.msTick + 1)
    simp only [timedFramerStep, framerStep, RtuFramer.onSystick, htick]
    trivial
  · cases (show op = .process from hop)
    simp only [timedFramerStep, framerStep, RtuFramer.process]
    split_ifs <;> exact ⟨rfl, rfl, rfl, trivial⟩

/-- Every operation keeps the timer right, if it spares the assembly. -/
theorem TimedFramer.Timed.step {s : TimedFramer} (h : s.Timed) (event : FramerEvent)
    (hspares : event.op = .delayT35 → s.framer.state ≠ .receiving) :
    (timedFramerStep event s).2.Timed := by
  obtain ⟨now, op⟩ := event
  cases op with
  | byte b => exact h.byte now b
  | systick =>
      obtain ⟨hstate, harmed, hlast, hbyte⟩ :=
        timedFramerStep_polls s (show FramerEvent.Polls ⟨now, .systick⟩ from .inl rfl)
      exact h.looked now hstate harmed hlast hbyte
  | process =>
      obtain ⟨hstate, harmed, hlast, hbyte⟩ :=
        timedFramerStep_polls s (show FramerEvent.Polls ⟨now, .process⟩ from .inr rfl)
      exact h.looked now hstate harmed hlast hbyte
  | read maxLen =>
      simp only [timedFramerStep, framerStep, RtuFramer.read]
      split_ifs <;> exact h.same rfl rfl rfl rfl
  | setCallback isSet => exact h.same rfl rfl rfl rfl
  | flush => exact timed_of_stopped rfl rfl
  | txBegin => exact timed_of_stopped rfl rfl
  | delayT35 =>
      have hidle : s.framer.state = .idle := by
        cases hstate : s.framer.state with
        | idle => rfl
        | receiving => exact absurd hstate (hspares rfl)
      exact timed_of_stopped hidle rfl

/-- With the timer right, silence ends the frame that is assembled. -/
theorem TimedFramer.Timed.ends {s : TimedFramer} (h : s.Timed) {event : FramerEvent}
    (hpolls : event.Polls) (hreceiving : s.framer.state = .receiving)
    (hsilent : s.SilentAt event.now) :
    (timedFramerStep event s).2.framer.state = .idle := by
  obtain ⟨last, hlast, hsilence⟩ := hsilent
  obtain ⟨last', hlast', htime⟩ := h.started hreceiving
  rw [hlast] at hlast'
  cases hlast'
  have hexpired : s.framer.Expired event.now := by
    refine ⟨h.right.mpr hreceiving, hreceiving, ?_⟩
    rw [RtuFramer.elapsedUs, htime]
    exact hsilence
  rw [(timedFramerStep_polls s hpolls).1]
  exact RtuFramer.state_tryCompleteFrame_of_expired hexpired

/-- A call of `rtu_framer_delay_t35` strands the frame that is being received. -/
theorem not_timerRight_delayT35 {s : TimedFramer} {event : FramerEvent}
    (hop : event.op = .delayT35) (hreceiving : s.framer.state = .receiving) :
    ¬ (timedFramerStep event s).2.TimerRight := by
  obtain ⟨now, op⟩ := event
  cases (show op = .delayT35 from hop)
  intro hright
  exact absurd (hright.mpr hreceiving) Bool.false_ne_true

/-! ## Runs -/

/-- An engine that has been initialised. -/
def timedFramerInit (rxBuffer completedBuffer : ℕ → Byte) (bufferSize : ℕ)
    (baudrate msTick : Dword) : TimedFramer :=
  ⟨rtuFramerInit rxBuffer completedBuffer bufferSize baudrate msTick, none⟩

/-- In a run from `rtu_framer_init` every operation leaves the timer armed exactly
while a frame is received, and every tick and poll ends a frame after T3.5 of
silence, if and only if `rtu_framer_delay_t35` is not called while a frame is being
received. -/
theorem framerRun_endsFrames_iff (rxBuffer completedBuffer : ℕ → Byte) (bufferSize : ℕ)
    (baudrate msTick : Dword) (events : List FramerEvent) :
    EveryStep (total timedFramerStep) EndsFrames
        (timedFramerInit rxBuffer completedBuffer bufferSize baudrate msTick) events ↔
      EveryStep (total timedFramerStep) SparesAssembly
        (timedFramerInit rxBuffer completedBuffer bufferSize baudrate msTick) events := by
  apply everyStep_congr_while (I := TimedFramer.Timed)
  · intro s event h
    rw [yields_total]
    refine ⟨⟨fun hends hop hreceiving => ?_, fun hspares => ?_⟩, fun hspares => ?_⟩
    · exact not_timerRight_delayT35 hop hreceiving hends.right
    · exact ⟨(h.step event hspares).right, fun hpolls => h.ends hpolls⟩
    · exact h.step event hspares
  · exact TimedFramer.timed_of_stopped rfl rfl

/-- A byte is received and the turnaround delay begins: the frame is stranded. -/
theorem not_framerRun_endsFrames :
    ¬ EveryStep (total timedFramerStep) EndsFrames
      (timedFramerInit (fun _ => 0) (fun _ => 0) 256 115200 0)
      [⟨1000, .byte 0x01⟩, ⟨1100, .delayT35⟩] := by
  simp only [EveryStep, yields_total]
  rintro ⟨-, hdelay, -⟩
  exact not_timerRight_delayT35 rfl rfl hdelay.right

end AutomationBoard.Serial
