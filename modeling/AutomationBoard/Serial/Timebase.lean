/-
# The microsecond clock

`rtu_time_us` puts a millisecond counter and the down-counter SysTick together, one
read after another. Interrupts are off while it reads, so the handler waits, but the
counter goes on. The handler clears the pending bit when it is entered and advances
the counter of milliseconds later; a USART interrupt may sample the clock in between.
-/

import AutomationBoard.Program.Runs
import AutomationBoard.Serial.RtuFramer
import Mathlib.Data.BitVec
import Mathlib.Tactic.Ring

namespace AutomationBoard.Serial

open AutomationBoard.Program

/-! ## SysTick and its readers -/

/-- How far a call of `rtu_time_us` has read: its local variables so far. In `again`
the pending bit was set, `ms` is advanced and `VAL` is read once more. -/
inductive Reading
  | idle
  | ms (ms : Dword)
  | val (ms val : Dword)
  | load (ms val load : Dword)
  | again (ms load : Dword)
  deriving DecidableEq

/-- The registers of SysTick, the handler between its entry and its increment, the
port's `ms_tick`, and the call of `rtu_time_us` that is under way. -/
structure SysTick where
  load : Dword
  val : Dword
  pending : Bool
  inHandler : Bool
  msTick : Dword
  reading : Reading

/-- What happens: the counter counts, `SysTick_Handler` is entered, it advances
`ms_tick`, or a call of `rtu_time_us` makes its next read. -/
inductive ClockEvent
  | count
  | enterHandler
  | advanceMs
  | read
  deriving DecidableEq

/-- The value that `rtu_time_us` returns. -/
def rtuTimeUs (ms val load : Dword) : Dword := ms * 1000 + (load - val) * 1000 / (load + 1)

namespace SysTick

/-- The counter counts down and is reloaded after 0; its arrival at 0 sets the
pending bit. -/
def count (c : SysTick) : SysTick :=
  let val := if c.val = 0 then c.load else c.val - 1
  { c with val := val, pending := if val = 0 then true else c.pending }

/-- The next read of `rtu_time_us`, and the time it returns with the last one. -/
def read (c : SysTick) : Option Dword × SysTick :=
  match c.reading with
  | .idle => (none, { c with reading := .ms c.msTick })
  | .ms ms => (none, { c with reading := .val ms c.val })
  | .val ms val => (none, { c with reading := .load ms val c.load })
  | .load ms val load =>
      if c.pending then (none, { c with reading := .again (ms + 1) load })
      else (some (rtuTimeUs ms val load), { c with reading := .idle })
  | .again ms load => (some (rtuTimeUs ms c.val load), { c with reading := .idle })

/-- An event can happen: the handler is entered before the counter arrives at 0
again, not while it runs and not while interrupts are off. -/
def Enabled (c : SysTick) : ClockEvent → Prop
  | .count => c.count.val = 0 → c.pending = false
  | .enterHandler => c.pending = true ∧ c.inHandler = false ∧ c.reading = .idle
  | .advanceMs => c.inHandler = true ∧ c.reading = .idle
  | .read => True

instance (c : SysTick) (event : ClockEvent) : Decidable (c.Enabled event) :=
  match event with
  | .count => inferInstanceAs (Decidable (_ → _))
  | .enterHandler => inferInstanceAs (Decidable (_ ∧ _))
  | .advanceMs => inferInstanceAs (Decidable (_ ∧ _))
  | .read => inferInstanceAs (Decidable True)

end SysTick

/-- One event: the time that a call of `rtu_time_us` returns, if it does. -/
def clockStep (event : ClockEvent) (c : SysTick) : Option Dword × SysTick :=
  match event with
  | .count => (none, c.count)
  | .enterHandler => (none, { c with pending := false, inHandler := true })
  | .advanceMs => (none, { c with inHandler := false, msTick := c.msTick + 1 })
  | .read => c.read

/-! ## What an observer sees -/

/-- A sample of the clock: the time returned, and the counts up to its last read of
`VAL`. -/
structure Sample where
  us : Dword
  readAt : ℕ

/-- The clock with the counts so far, those up to the last read of `VAL`, and the
latest sample. -/
structure WatchedClock where
  clock : SysTick
  counts : ℕ
  readAt : ℕ
  latest : Option Sample

/-- The next read of `rtu_time_us` is one of `VAL`. -/
def Reading.readsVal : Reading → Bool
  | .ms _ | .again _ _ => true
  | _ => false

/-- One event, observed. -/
def watchedClockStep (event : ClockEvent) (w : WatchedClock) : Option Dword × WatchedClock :=
  let r := clockStep event w.clock
  let readAt := if event = .read ∧ w.clock.reading.readsVal then w.counts else w.readAt
  (r.1,
    { clock := r.2
      counts := if event = .count then w.counts + 1 else w.counts
      readAt := readAt
      latest := match r.1 with
        | some us => some ⟨us, readAt⟩
        | none => w.latest })

/-- The counts start where the counter is in its cycle. -/
def watchClock (c : SysTick) : WatchedClock :=
  { clock := c, counts := c.load.toNat - c.val.toNat, readAt := 0, latest := none }

/-- The time of a number of counts, in whole microseconds. -/
def countsUs (load : Dword) (counts : ℕ) : ℕ := counts * 1000 / (load.toNat + 1)

/-- A sample is not before the one that it follows. -/
def Forward (w : WatchedClock) (_ : ClockEvent) (out : Option Dword) (_ : WatchedClock) : Prop :=
  ∀ us ∈ out, ∀ earlier ∈ w.latest, (us - earlier.us).toNat < 2 ^ 31

instance (w : WatchedClock) (event : ClockEvent) (out : Option Dword) (w' : WatchedClock) :
    Decidable (Forward w event out w') :=
  Option.decidableForallMem out

/-- The event can happen. -/
def Happens (w : WatchedClock) (event : ClockEvent) (_ : Option Dword) (_ : WatchedClock) : Prop :=
  w.clock.Enabled event

instance (w : WatchedClock) (event : ClockEvent) (out : Option Dword) (w' : WatchedClock) :
    Decidable (Happens w event out w') :=
  inferInstanceAs (Decidable (w.clock.Enabled event))

/-- The `VAL` of the sample that the next read ends. -/
def SysTick.lastVal (c : SysTick) : Option Dword :=
  match c.reading with
  | .load _ val _ => if c.pending then none else some val
  | .again _ _ => some c.val
  | _ => none

/-- A sample that the event ends is in step: it has `VAL` at 0, not yet reloaded, if
and only if the handler is between its entry and its increment. And the time since
the sample before it, modulo 2^32 microseconds, is below 2^31. -/
structure InStep (w : WatchedClock) (event : ClockEvent) (out : Option Dword)
    (w' : WatchedClock) : Prop where
  period : event = .read → ∀ val ∈ w.clock.lastVal, (val = 0 ↔ w.clock.inHandler = true)
  gap : out.isSome = true → ∀ earlier ∈ w.latest,
    (countsUs w.clock.load w'.readAt - countsUs w.clock.load earlier.readAt) % 2 ^ 32 < 2 ^ 31

instance (w : WatchedClock) (event : ClockEvent) (out : Option Dword) (w' : WatchedClock) :
    Decidable (InStep w event out w') :=
  have : Decidable (∀ val ∈ w.clock.lastVal, (val = 0 ↔ w.clock.inHandler = true)) :=
    Option.decidableForallMem _
  decidable_of_iff
    ((event = .read → ∀ val ∈ w.clock.lastVal, (val = 0 ↔ w.clock.inHandler = true)) ∧
      (out.isSome = true → ∀ earlier ∈ w.latest,
        (countsUs w.clock.load w'.readAt - countsUs w.clock.load earlier.readAt) % 2 ^ 32 <
          2 ^ 31))
    ⟨fun h => ⟨h.1, h.2⟩, fun h => ⟨h.period, h.gap⟩⟩

/-! ## The phase of the counter -/

/-- A condition, counted. -/
def flag (b : Bool) : Dword := if b then 1 else 0

@[simp]
theorem flag_true : flag true = 1 := rfl

@[simp]
theorem flag_false : flag false = 0 := rfl

/-- After so many counts, `VAL` is in some period of the counter, and the
milliseconds are those of the arrivals at 0: one a period, and this period's. -/
structure Phase (base load val ms : Dword) (counts : ℕ) : Prop where
  val_le : val.toNat ≤ load.toNat
  period : ∃ n : ℕ, counts = n * (load.toNat + 1) + (load.toNat - val.toNat) ∧
    ms = base + BitVec.ofNat 32 n + flag (val = 0)

section Phase

variable {base load val ms : Dword} {counts : ℕ}

/-- The counter is reloaded. -/
theorem Phase.reload (h : Phase base load 0 ms counts) :
    Phase base load load (ms + flag (load = 0)) (counts + 1) := by
  obtain ⟨-, n, hcounts, hms⟩ := h
  refine ⟨le_rfl, n + 1, ?_, ?_⟩
  · have hzero : (0 : Dword).toNat = 0 := rfl
    rw [hzero] at hcounts
    rw [hcounts, Nat.sub_self, Nat.add_one_mul]
    omega
  · have hone : BitVec.ofNat 32 1 = 1 := rfl
    rw [hms, BitVec.ofNat_add, hone, decide_eq_true rfl, flag_true]
    ring

/-- The counter counts down. -/
theorem Phase.down (h : Phase base load val ms counts) (hval : val ≠ 0) :
    Phase base load (val - 1) (ms + flag (val - 1 = 0)) (counts + 1) := by
  obtain ⟨hle, n, hcounts, hms⟩ := h
  have hpos : val.toNat ≠ 0 := fun h => hval (BitVec.eq_of_toNat_eq h)
  have hpred : (val - 1).toNat = val.toNat - 1 := by
    have hone : (1 : Dword).toNat = 1 := rfl
    exact BitVec.toNat_sub_of_le (BitVec.le_def.mpr (by omega))
  refine ⟨by omega, n, by omega, ?_⟩
  simp only [hms, hval, decide_false, flag_false, add_zero]

/-- With `VAL` in step with the handler, what `rtu_time_us` returns is the time of
the counts, after that of the base. -/
theorem Phase.rtuTimeUs_eq {inHandler : Bool}
    (h : Phase base load val (ms + flag inHandler) counts)
    (hstep : val = 0 ↔ inHandler = true) (hfits : load.toNat * 1000 < 2 ^ 32) :
    rtuTimeUs ms val load = base * 1000 + BitVec.ofNat 32 (countsUs load counts) := by
  obtain ⟨hle, n, hcounts, hms⟩ := h
  have hflag : flag (val = 0) = flag inHandler :=
    congrArg flag (Bool.eq_iff_iff.mpr (decide_eq_true_iff.trans hstep))
  have hms : ms = base + BitVec.ofNat 32 n := add_right_cancel (hms.trans (by rw [hflag]))
  have helapsed : (load - val).toNat = load.toNat - val.toNat :=
    BitVec.toNat_sub_of_le (BitVec.le_def.mpr hle)
  have hpart : (load - val) * 1000 / (load + 1) =
      BitVec.ofNat 32 ((load.toNat - val.toNat) * 1000 / (load.toNat + 1)) := by
    apply BitVec.eq_of_toNat_eq
    have hscaled : ((load - val) * 1000).toNat = (load.toNat - val.toNat) * 1000 := by
      have hthousand : (1000 : Dword).toNat = 1000 := rfl
      rw [BitVec.toNat_mul, helapsed, hthousand]
      omega
    have hnext : (load + 1).toNat = load.toNat + 1 := by
      have hone : (1 : Dword).toNat = 1 := rfl
      rw [BitVec.toNat_add, hone]
      omega
    have hquot := Nat.div_le_self ((load.toNat - val.toNat) * 1000) (load.toNat + 1)
    rw [BitVec.toNat_udiv, hscaled, hnext, BitVec.toNat_ofNat, Nat.mod_eq_of_lt (by omega)]
  have hus : countsUs load counts =
      n * 1000 + (load.toNat - val.toNat) * 1000 / (load.toNat + 1) := by
    have hmul : counts * 1000 =
        (load.toNat - val.toNat) * 1000 + n * 1000 * (load.toNat + 1) := by
      rw [hcounts]
      ring
    rw [countsUs, hmul, Nat.add_mul_div_right _ _ (Nat.succ_pos _), Nat.add_comm]
  have hthousand : BitVec.ofNat 32 1000 = 1000 := rfl
  rw [rtuTimeUs, hpart, hus, hms, BitVec.ofNat_add, BitVec.ofNat_mul, hthousand]
  ring

end Phase

/-! ## The clock in every run -/

/-- The milliseconds that `ms_tick` has or will have: with the pending interrupt's,
and that of the handler that runs. -/
def SysTick.millis (c : SysTick) : Dword := c.msTick + flag c.pending + flag c.inHandler

/-- A `VAL` has been read: without a pending interrupt since, it was in phase with
the milliseconds read before it. -/
structure ValRead (base : Dword) (c : SysTick) (readAt : ℕ) (ms val : Dword) : Prop where
  ms_eq : ms = c.msTick
  phase : c.pending = false → Phase base c.load val (ms + flag c.inHandler) readAt

/-- What `rtu_time_us` has read so far. -/
def ReadSoFar (base : Dword) (c : SysTick) (readAt : ℕ) : Reading → Prop
  | .idle => True
  | .ms ms => ms = c.msTick
  | .val ms val => ValRead base c readAt ms val
  | .load ms val load => ValRead base c readAt ms val ∧ load = c.load
  | .again ms load => ms = c.msTick + 1 ∧ load = c.load ∧ c.pending = true

/-- The observed clock is in phase with a base, the call under way has read what it
should, and the latest sample has the time of its counts. -/
structure Timed (base : Dword) (w : WatchedClock) : Prop where
  fits : w.clock.load.toNat * 1000 < 2 ^ 32
  now : Phase base w.clock.load w.clock.val w.clock.millis w.counts
  soFar : ReadSoFar base w.clock w.readAt w.clock.reading
  readAt_le : w.readAt ≤ w.counts
  latest : ∀ earlier ∈ w.latest, earlier.readAt ≤ w.readAt ∧
    earlier.us = base * 1000 + BitVec.ofNat 32 (countsUs w.clock.load earlier.readAt)

section Step

variable {base : Dword} {c : SysTick} {w : WatchedClock} {event : ClockEvent}

theorem SysTick.pending_count : c.count.pending = (decide (c.count.val = 0) || c.pending) := by
  by_cases hval : (if c.val = 0 then c.load else c.val - 1) = 0 <;> simp [SysTick.count]

theorem SysTick.millis_count (henabled : c.Enabled .count) :
    c.count.millis = c.millis + flag (c.count.val = 0) := by
  have hmillis : c.count.millis = c.msTick + flag c.count.pending + flag c.inHandler := rfl
  rw [hmillis, SysTick.pending_count, SysTick.millis]
  by_cases hzero : c.count.val = 0
  · rw [henabled hzero, decide_eq_true hzero, Bool.true_or, flag_true, flag_false]
    ring
  · rw [decide_eq_false hzero, Bool.false_or, flag_false, add_zero]

theorem Timed.phase_count (h : Timed base w) (henabled : w.clock.Enabled .count) :
    Phase base w.clock.load w.clock.count.val w.clock.count.millis (w.counts + 1) := by
  have hnow := h.now
  rw [SysTick.millis_count henabled]
  simp only [SysTick.count]
  by_cases hval : w.clock.val = 0
  · rw [hval] at hnow
    simpa only [hval, if_pos] using hnow.reload
  · simpa only [hval, if_neg, not_false_eq_true] using hnow.down hval

/-- What has been read stays in order while a pending interrupt stays pending. -/
theorem ReadSoFar.mono {c' : SysTick} {readAt : ℕ} {reading : Reading}
    (h : ReadSoFar base c readAt reading) (hmsTick : c'.msTick = c.msTick)
    (hload : c'.load = c.load) (hinHandler : c'.inHandler = c.inHandler)
    (hpending : c.pending = true → c'.pending = true) :
    ReadSoFar base c' readAt reading := by
  have hval {ms val : Dword} (h : ValRead base c readAt ms val) :
      ValRead base c' readAt ms val := by
    refine ⟨h.ms_eq.trans hmsTick.symm, fun hfalse => ?_⟩
    rw [hload, hinHandler]
    apply h.phase
    rw [← Bool.not_eq_true]
    exact fun htrue => by simp [hpending htrue] at hfalse
  cases reading with
  | idle => trivial
  | ms ms => exact h.trans hmsTick.symm
  | val ms val => exact hval h
  | load ms val load => exact ⟨hval h.1, h.2.trans hload.symm⟩
  | again ms load =>
      obtain ⟨hms, rfl, htrue⟩ := h
      exact ⟨by rw [hms, hmsTick], hload.symm, hpending htrue⟩

/-- A read takes in what it should. -/
theorem Timed.readSoFar_read (h : Timed base w) :
    ReadSoFar base w.clock (watchedClockStep .read w).2.readAt w.clock.read.2.reading := by
  have hsoFar := h.soFar
  cases hreading : w.clock.reading with
  | idle => simp [SysTick.read, hreading, ReadSoFar]
  | ms ms =>
      rw [hreading] at hsoFar
      have hval : ValRead base w.clock w.counts ms w.clock.val := by
        refine ⟨hsoFar, fun hpending => ?_⟩
        have hnow := h.now
        rwa [SysTick.millis, hpending, flag_false, add_zero, ← hsoFar] at hnow
      simpa [SysTick.read, hreading, ReadSoFar, watchedClockStep, Reading.readsVal] using hval
  | val ms val =>
      rw [hreading] at hsoFar
      simpa [SysTick.read, hreading, ReadSoFar, watchedClockStep, Reading.readsVal] using hsoFar
  | load ms val load =>
      rw [hreading] at hsoFar
      obtain ⟨⟨hms, -⟩, hload⟩ := hsoFar
      cases hpending : w.clock.pending <;>
        simp [SysTick.read, hreading, hpending, ReadSoFar, hms, hload]
  | again ms load => simp [SysTick.read, hreading, ReadSoFar]

/-- A sample that is in step has the time of its counts. -/
theorem Timed.sample_eq (h : Timed base w)
    (hperiod : ∀ val ∈ w.clock.lastVal, (val = 0 ↔ w.clock.inHandler = true)) :
    ∀ us ∈ w.clock.read.1,
      us = base * 1000 +
        BitVec.ofNat 32 (countsUs w.clock.load (watchedClockStep .read w).2.readAt) := by
  intro us hus
  have hsoFar := h.soFar
  cases hreading : w.clock.reading with
  | load ms val load =>
      rw [hreading] at hsoFar
      obtain ⟨hval, rfl⟩ := hsoFar
      cases hpending : w.clock.pending with
      | false =>
          obtain rfl : rtuTimeUs ms val w.clock.load = us := by
            simpa [SysTick.read, hreading, hpending] using hus
          have hlast : val ∈ w.clock.lastVal := by simp [SysTick.lastVal, hreading, hpending]
          have hreadAt : (watchedClockStep .read w).2.readAt = w.readAt := by
            simp [watchedClockStep, hreading, Reading.readsVal]
          rw [hreadAt]
          exact (hval.phase hpending).rtuTimeUs_eq (hperiod val hlast) h.fits
      | true => simp [SysTick.read, hreading, hpending] at hus
  | again ms load =>
      rw [hreading] at hsoFar
      obtain ⟨hms, rfl, hpending⟩ := hsoFar
      obtain rfl : rtuTimeUs ms w.clock.val w.clock.load = us := by
        simpa [SysTick.read, hreading] using hus
      have hlast : w.clock.val ∈ w.clock.lastVal := by simp [SysTick.lastVal, hreading]
      have hreadAt : (watchedClockStep .read w).2.readAt = w.counts := by
        simp [watchedClockStep, hreading, Reading.readsVal]
      have hnow := h.now
      rw [SysTick.millis, hpending, flag_true, ← hms] at hnow
      rw [hreadAt]
      exact hnow.rtuTimeUs_eq (hperiod _ hlast) h.fits
  | _ => simp [SysTick.read, hreading] at hus

theorem SysTick.read_eq : c.read.2 = { c with reading := c.read.2.reading } := by
  unfold SysTick.read
  split
  case h_4 => split <;> rfl
  all_goals rfl

/-- Counts that grow by less than half of the clock's range give a time that does
not go back. -/
theorem toNat_sub_countsUs {load : Dword} {earlier later : ℕ} (hle : earlier ≤ later)
    (hgap : (countsUs load later - countsUs load earlier) % 2 ^ 32 < 2 ^ 31) :
    ((base * 1000 + BitVec.ofNat 32 (countsUs load later)) -
      (base * 1000 + BitVec.ofNat 32 (countsUs load earlier))).toNat < 2 ^ 31 := by
  have hmono : countsUs load earlier ≤ countsUs load later :=
    Nat.div_le_div_right (Nat.mul_le_mul_right 1000 hle)
  have hsplit : BitVec.ofNat 32 (countsUs load later) =
      BitVec.ofNat 32 (countsUs load earlier) +
        BitVec.ofNat 32 (countsUs load later - countsUs load earlier) := by
    rw [← BitVec.ofNat_add, Nat.add_sub_cancel' hmono]
  rw [hsplit, ← add_assoc, add_sub_cancel_left, BitVec.toNat_ofNat]
  exact hgap

/-- A read keeps the clock timed, and a sample that it ends is not before the one
that it follows. -/
theorem Timed.read (h : Timed base w)
    (hinStep : InStep w .read w.clock.read.1 (watchedClockStep .read w).2) :
    Timed base (watchedClockStep .read w).2 ∧
      Forward w .read w.clock.read.1 (watchedClockStep .read w).2 := by
  have hclock : (watchedClockStep .read w).2.clock = w.clock.read.2 := rfl
  have hreadAt : w.readAt ≤ (watchedClockStep .read w).2.readAt := by
    simp only [watchedClockStep]
    split
    · exact h.readAt_le
    · exact le_rfl
  have hsample := h.sample_eq (hinStep.period rfl)
  constructor
  · refine ⟨?_, ?_, ?_, ?_, ?_⟩
    · rw [hclock, SysTick.read_eq]
      exact h.fits
    · rw [hclock, SysTick.read_eq]
      exact h.now
    · rw [hclock]
      have hregs := SysTick.read_eq (c := w.clock)
      apply h.readSoFar_read.mono <;> rw [hregs]
      exact id
    · simp only [watchedClockStep]
      split
      · exact le_rfl
      · exact h.readAt_le
    · intro earlier hearlier
      rw [hclock, SysTick.read_eq]
      cases hout : w.clock.read.1 with
      | none =>
          obtain ⟨hle, hus⟩ := h.latest earlier (by
            simpa [watchedClockStep, clockStep, hout] using hearlier)
          exact ⟨hle.trans hreadAt, hus⟩
      | some us =>
          obtain rfl : ⟨us, (watchedClockStep .read w).2.readAt⟩ = earlier := by
            simpa [watchedClockStep, clockStep, hout] using hearlier
          exact ⟨le_rfl, hsample us hout⟩
  · intro us hus earlier hearlier
    obtain ⟨hle, hearlierUs⟩ := h.latest earlier hearlier
    rw [hsample us hus, hearlierUs]
    exact toNat_sub_countsUs (hle.trans hreadAt) (hinStep.gap (Option.isSome_of_mem hus) _ hearlier)

/-- An event that can happen and is in step keeps the clock timed. -/
theorem Timed.step (h : Timed base w) (henabled : w.clock.Enabled event)
    (hinStep : InStep w event (watchedClockStep event w).1 (watchedClockStep event w).2) :
    Timed base (watchedClockStep event w).2 ∧
      Forward w event (watchedClockStep event w).1 (watchedClockStep event w).2 := by
  cases event with
  | count =>
      have hsoFar : ReadSoFar base w.clock.count w.readAt w.clock.reading := by
        apply ReadSoFar.mono h.soFar
        case hpending =>
          intro hpending
          rw [SysTick.pending_count, hpending, Bool.or_true]
        all_goals rfl
      have hreadAt : w.readAt ≤ w.counts + 1 := h.readAt_le.trans (Nat.le_succ _)
      exact ⟨⟨h.fits, h.phase_count henabled, hsoFar, hreadAt, h.latest⟩,
        fun us hus => by cases hus⟩
  | enterHandler =>
      obtain ⟨hpending, hinHandler, hidle⟩ := henabled
      have hmillis : (watchedClockStep .enterHandler w).2.clock.millis = w.clock.millis := by
        simp [watchedClockStep, clockStep, SysTick.millis, hpending, hinHandler]
      refine ⟨⟨h.fits, ?_, ?_, h.readAt_le, h.latest⟩, fun us hus => by cases hus⟩
      · rw [hmillis]
        exact h.now
      · simp [watchedClockStep, clockStep, hidle, ReadSoFar]
  | advanceMs =>
      obtain ⟨hinHandler, hidle⟩ := henabled
      have hmillis : (watchedClockStep .advanceMs w).2.clock.millis = w.clock.millis := by
        simp only [watchedClockStep, clockStep, SysTick.millis, hinHandler, flag_true, flag_false]
        ring
      refine ⟨⟨h.fits, ?_, ?_, h.readAt_le, h.latest⟩, fun us hus => by cases hus⟩
      · rw [hmillis]
        exact h.now
      · simp [watchedClockStep, clockStep, hidle, ReadSoFar]
  | read => exact h.read hinStep

end Step

/-! ## The clock never runs backwards -/

/-- A clock at rest is timed, from a base that is chosen for it. -/
theorem timed_watchClock (c : SysTick) (hval : c.val.toNat ≤ c.load.toNat)
    (hfits : c.load.toNat * 1000 < 2 ^ 32) (hidle : c.reading = .idle) :
    Timed (c.millis - flag (c.val = 0)) (watchClock c) := by
  refine ⟨hfits, ⟨hval, 0, ?_, ?_⟩, ?_, Nat.zero_le _, fun earlier h => by cases h⟩
  · simp [watchClock]
  · have hzero : BitVec.ofNat 32 0 = 0 := rfl
    rw [hzero, add_zero]
    exact (sub_add_cancel c.millis _).symm
  · simp [watchClock, hidle, ReadSoFar]

/-- In every order of counts, handler steps and reads in which every sample is in
step, no sample is before the one that it follows. -/
theorem clockRun_forward (c : SysTick) (hval : c.val.toNat ≤ c.load.toNat)
    (hfits : c.load.toNat * 1000 < 2 ^ 32) (hidle : c.reading = .idle)
    (events : List ClockEvent)
    (hrun : EveryStep (total watchedClockStep)
      (fun w event out w' => Happens w event out w' ∧ InStep w event out w')
      (watchClock c) events) :
    EveryStep (total watchedClockStep) Forward (watchClock c) events := by
  apply hrun.of_invariant (I := Timed (c.millis - flag (c.val = 0))) _
    (timed_watchClock c hval hfits hidle)
  intro w event htimed hboth
  obtain ⟨henabled, hinStep⟩ := yields_total.mp hboth
  exact yields_total.mpr (htimed.step henabled hinStep)

/-- SysTick at 168 MHz, one count before its arrival at 0. -/
def beforeArrival : SysTick where
  load := 167999
  val := 1
  pending := false
  inHandler := false
  msTick := 0
  reading := .idle

/-- A sample with `VAL` still at 0 adds the pending millisecond and the whole period,
1999 microseconds; the sample after the reload has 1000. -/
def samplesAroundReload : List ClockEvent :=
  [.count, .read, .read, .read, .read, .read, .count, .read, .read, .read, .read, .read]

theorem not_clockRun_forward :
    EveryStep (total watchedClockStep) Happens (watchClock beforeArrival) samplesAroundReload ∧
      ¬EveryStep (total watchedClockStep) Forward (watchClock beforeArrival)
        samplesAroundReload := by
  decide +kernel

/-- A sample before the arrival at 0, and one that preempts the handler before it
advances the millisecond. -/
def samplesAroundEntry : List ClockEvent :=
  [.read, .read, .read, .read, .count, .count, .enterHandler, .read, .read, .read, .read]

example :
    EveryStep (total watchedClockStep) Happens (watchClock beforeArrival) samplesAroundEntry ∧
      ¬EveryStep (total watchedClockStep) Forward (watchClock beforeArrival)
        samplesAroundEntry := by
  decide +kernel

/-- Samples before the arrival at 0, with the interrupt pending after the reload, and
after the handler. -/
theorem clockRun_forward_beforeArrival :
    EveryStep (total watchedClockStep) Forward (watchClock beforeArrival)
      [.read, .read, .read, .read, .count, .count, .read, .read, .read, .read, .read,
        .enterHandler, .advanceMs, .count, .read, .read, .read, .read] :=
  clockRun_forward beforeArrival (by decide) (by decide) rfl _ (by decide +kernel)

end AutomationBoard.Serial
