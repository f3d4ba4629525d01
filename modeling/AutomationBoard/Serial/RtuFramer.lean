/-
# The RTU framing engine

`rtu_framer.c`. A byte is put into the assembly buffer; an assembly that silence
has ended is copied into a second buffer, where it waits to be collected. Every
operation is given the value of `rtu_time_us` while it runs. It is atomic: the
two critical sections of `rtu_framer_process` with an interrupt between them do
what a tick, that interrupt and a call do one after another.
-/

import AutomationBoard.Modbus.Types

namespace AutomationBoard.Serial

open AutomationBoard.Modbus (Byte)

/-- `uint32_t`. -/
abbrev Dword := BitVec 32

/-! ## Timeouts -/

/-- `MODBUS_RTU_BITS_PER_CHAR`. -/
def rtuBitsPerChar : Dword := 11

/-- `MODBUS_RTU_BAUD_THRESHOLD`. -/
def rtuBaudThreshold : Dword := 19200

/-- `MODBUS_RTU_T15_FIXED_US`. -/
def rtuT15FixedUs : Dword := 750

/-- `MODBUS_RTU_T35_FIXED_US`. -/
def rtuT35FixedUs : Dword := 1750

/-- `modbus_rtu_timeouts_us`: T1.5 and T3.5. -/
def modbusRtuTimeoutsUs (baudrate : Dword) : Dword × Dword :=
  let baudrate := if baudrate = 0 then 9600 else baudrate
  if rtuBaudThreshold.toNat < baudrate.toNat then (rtuT15FixedUs, rtuT35FixedUs)
  else
    let charTimeUs := (rtuBitsPerChar * 1000000 + baudrate - 1) / baudrate
    (charTimeUs * 3 / 2, charTimeUs * 7 / 2)

/-! ## The engine -/

/-- `RTU_FRAMER_MAX_FRAME`. -/
def rtuFramerMaxFrame : ℕ := 256

/-- `rtu_framer_state_t`. -/
inductive RtuFramerState
  | idle
  | receiving
  deriving DecidableEq

/-- `rtu_framer_t`. A buffer is what its cells hold; of the callback it matters
whether there is one. -/
structure RtuFramer where
  rxBuffer : ℕ → Byte
  completedBuffer : ℕ → Byte
  bufferSize : ℕ
  t15Us : Dword
  t35Us : Dword
  rxCallback : Bool
  state : RtuFramerState
  rxLen : ℕ
  frameReady : Bool
  completedLen : ℕ
  msTick : Dword
  lastByteUs : Dword
  t35Armed : Bool

/-- The first cells of a buffer. -/
def bufferBytes (buffer : ℕ → Byte) (len : ℕ) : List Byte := (List.range len).map buffer

/-- `rtu_framer_init`. The buffers and `ms_tick` are what they were. -/
def rtuFramerInit (rxBuffer completedBuffer : ℕ → Byte) (bufferSize : ℕ) (baudrate : Dword)
    (msTick : Dword) : RtuFramer where
  rxBuffer := rxBuffer
  completedBuffer := completedBuffer
  bufferSize := if rtuFramerMaxFrame < bufferSize then rtuFramerMaxFrame else bufferSize
  t15Us := (modbusRtuTimeoutsUs baudrate).1
  t35Us := (modbusRtuTimeoutsUs baudrate).2
  rxCallback := false
  state := .idle
  rxLen := 0
  frameReady := false
  completedLen := 0
  msTick := msTick
  lastByteUs := 0
  t35Armed := false

/-- A buffer with room leaves the engine room. -/
theorem one_le_bufferSize_init (rxBuffer completedBuffer : ℕ → Byte) {bufferSize : ℕ}
    (hsize : 1 ≤ bufferSize) (baudrate msTick : Dword) :
    1 ≤ (rtuFramerInit rxBuffer completedBuffer bufferSize baudrate msTick).bufferSize := by
  simp only [rtuFramerInit]
  split_ifs
  · decide
  · exact hsize

namespace RtuFramer

/-- `rtu_time_us` while an operation runs, in true microseconds. -/
def timeUs (now : ℕ) : Dword := BitVec.ofNat 32 now

/-- `rtu_elapsed_us`. -/
def elapsedUs (now : ℕ) (f : RtuFramer) : Dword := timeUs now - f.lastByteUs

/-- `rtu_timer_start_t35`. -/
def timerStartT35 (now : ℕ) (f : RtuFramer) : RtuFramer :=
  { f with lastByteUs := timeUs now, t35Armed := true }

/-- `rtu_timer_stop`. -/
def timerStop (f : RtuFramer) : RtuFramer := { f with t35Armed := false }

/-- The cells of one buffer over the first cells of another. -/
def copyBytes (len : ℕ) (source target : ℕ → Byte) : ℕ → Byte :=
  fun i => if i < len then source i else target i

/-- `rtu_try_complete_frame`. -/
def tryCompleteFrame (now : ℕ) (f : RtuFramer) : RtuFramer :=
  if ¬ f.t35Armed then f
  else if f.t35Armed ∧ f.state = .receiving ∧ f.t35Us.toNat ≤ (f.elapsedUs now).toNat then
    let len := f.rxLen
    let f := { f with t35Armed := false, rxLen := 0, state := .idle }
    if 0 < len then
      if f.frameReady then f
      else
        let len := if f.bufferSize < len then f.bufferSize else len
        { f with
          completedBuffer := copyBytes len f.rxBuffer f.completedBuffer
          completedLen := len
          frameReady := true }
    else f
  else f

/-- `rtu_reset_frame`. -/
def resetFrame (f : RtuFramer) : RtuFramer :=
  { f with rxLen := 0, state := .idle, t35Armed := false }

/-- `rtu_framer_on_systick`. -/
def onSystick (now : ℕ) (f : RtuFramer) : RtuFramer :=
  tryCompleteFrame now { f with msTick := f.msTick + 1 }

/-- The assembly starts afresh with a byte. -/
def restart (now : ℕ) (byte : Byte) (f : RtuFramer) : RtuFramer :=
  timerStartT35 now { f with rxBuffer := Function.update f.rxBuffer 0 byte, rxLen := 1 }

/-- `rtu_framer_on_byte`. -/
def onByte (now : ℕ) (byte : Byte) (f : RtuFramer) : RtuFramer :=
  if f.frameReady ∧ f.state = .idle then f
  else if f.state = .idle then { f.restart now byte with state := .receiving }
  else if f.t15Us.toNat < (f.elapsedUs now).toNat then
    if f.frameReady then { f with state := .idle, rxLen := 0, t35Armed := false }
    else f.restart now byte
  else if f.rxLen < f.bufferSize then
    timerStartT35 now
      { f with rxBuffer := Function.update f.rxBuffer f.rxLen byte, rxLen := f.rxLen + 1 }
  else timerStartT35 now f

/-- The frame that waits to be collected. -/
def completedFrame (f : RtuFramer) : List Byte := bufferBytes f.completedBuffer f.completedLen

/-- The frame is collected. -/
def collected (f : RtuFramer) : RtuFramer := { f with frameReady := false, completedLen := 0 }

/-- `rtu_framer_process`: the frame that the callback is called with, if it is. -/
def process (now : ℕ) (f : RtuFramer) : Option (List Byte) × RtuFramer :=
  let f := f.tryCompleteFrame now
  if ¬ f.rxCallback then (none, f)
  else if f.frameReady ∧ 0 < f.completedLen then (some f.completedFrame, f.collected)
  else (none, f)

/-- `rtu_framer_read`: the bytes that are copied out. A null buffer is as good as
one without room. -/
def read (maxLen : ℕ) (f : RtuFramer) : Option (List Byte) × RtuFramer :=
  if maxLen = 0 then (none, f)
  else if f.frameReady ∧ 0 < f.completedLen then
    (some (bufferBytes f.completedBuffer
      (if maxLen < f.completedLen then maxLen else f.completedLen)), f.collected)
  else (none, f)

/-- `rtu_framer_flush`. -/
def flush (f : RtuFramer) : RtuFramer :=
  { f.timerStop.resetFrame with frameReady := false, completedLen := 0 }

/-- `rtu_framer_tx_begin`. -/
def txBegin (f : RtuFramer) : RtuFramer := { f.timerStop.resetFrame with frameReady := false }

/-- `rtu_framer_delay_t35`, up to the wait, which changes nothing. -/
def delayT35 (f : RtuFramer) : RtuFramer := f.timerStop

/-! ## What completing a frame does -/

/-- The assembly is ended by silence. -/
def Expired (now : ℕ) (f : RtuFramer) : Prop :=
  f.t35Armed = true ∧ f.state = .receiving ∧ f.t35Us.toNat ≤ (f.elapsedUs now).toNat

instance (now : ℕ) (f : RtuFramer) : Decidable (f.Expired now) :=
  inferInstanceAs (Decidable (_ ∧ _ ∧ _))

theorem tryCompleteFrame_of_not_expired {now : ℕ} {f : RtuFramer} (h : ¬ f.Expired now) :
    f.tryCompleteFrame now = f := by
  simp only [tryCompleteFrame]
  by_cases harmed : f.t35Armed = true
  · rw [if_neg (not_not.mpr harmed)]
    exact if_neg h
  · rw [if_pos harmed]

/-- An assembly that fits waits to be collected, unless a frame waits already. -/
theorem tryCompleteFrame_of_expired {now : ℕ} {f : RtuFramer} (h : f.Expired now)
    (hready : f.frameReady = false) (hlen : 0 < f.rxLen) (hfits : f.rxLen ≤ f.bufferSize) :
    f.tryCompleteFrame now =
      { f with
        completedBuffer := copyBytes f.rxLen f.rxBuffer f.completedBuffer
        completedLen := f.rxLen
        frameReady := true
        t35Armed := false
        rxLen := 0
        state := .idle } := by
  simp only [tryCompleteFrame]
  rw [if_neg (not_not.mpr h.1)]
  refine (if_pos h).trans ?_
  rw [if_pos hlen, if_neg (by simp [hready]), if_neg (Nat.not_lt.mpr hfits)]

end RtuFramer

/-! ## Runs -/

/-- An operation of the engine. -/
inductive FramerOp
  | byte (b : Byte)
  | systick
  | process
  | read (maxLen : ℕ)
  | setCallback (isSet : Bool)
  | flush
  | txBegin
  | delayT35
  deriving DecidableEq

/-- An operation at a true time in microseconds. -/
structure FramerEvent where
  now : ℕ
  op : FramerOp
  deriving DecidableEq

/-- One operation: the frame that it delivers, and the engine after it. -/
def framerStep (event : FramerEvent) (f : RtuFramer) : Option (List Byte) × RtuFramer :=
  match event.op with
  | .byte b => (none, f.onByte event.now b)
  | .systick => (none, f.onSystick event.now)
  | .process => f.process event.now
  | .read maxLen => f.read maxLen
  | .setCallback isSet => (none, { f with rxCallback := isSet })
  | .flush => (none, f.flush)
  | .txBegin => (none, f.txBegin)
  | .delayT35 => (none, f.delayT35)

end AutomationBoard.Serial
