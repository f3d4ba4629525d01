/-
# Periodic ticks among timed events

Some events of a run are ticks that come once in every period, whatever else
comes in between. How long a program can go without a tick follows from the time
at which the next one is due.
-/

import Mathlib.Data.List.Basic

namespace AutomationBoard.Program

universe u

variable {ε : Type u} (time : ε → ℕ) (isTick : ε → Bool) (period : ℕ)

/-- The tick that is due after some events, the next one of which was due at
first. -/
def nextTick : ℕ → List ε → ℕ
  | next, [] => next
  | next, event :: events => nextTick (if isTick event then next + period else next) events

/-- The ticks come when they are due, and nothing comes after a tick that is. -/
def TicksEvery : ℕ → List ε → Prop
  | _, [] => True
  | next, event :: events =>
      (time event ≤ next ∧ (isTick event = true → time event = next)) ∧
        TicksEvery (if isTick event then next + period else next) events

variable {time isTick period} {next bound : ℕ} {events events' : List ε}

instance decidableTicksEvery : (next : ℕ) → (events : List ε) →
    Decidable (TicksEvery time isTick period next events)
  | _, [] => isTrue trivial
  | next, event :: events =>
      have := decidableTicksEvery (if isTick event then next + period else next) events
      inferInstanceAs (Decidable (_ ∧ _))

theorem nextTick_append :
    nextTick isTick period next (events ++ events') =
      nextTick isTick period (nextTick isTick period next events) events' := by
  induction events generalizing next with
  | nil => rfl
  | cons event events ih => exact ih

theorem ticksEvery_append :
    TicksEvery time isTick period next (events ++ events') ↔
      TicksEvery time isTick period next events ∧
        TicksEvery time isTick period (nextTick isTick period next events) events' := by
  induction events generalizing next with
  | nil => exact (and_iff_right trivial).symm
  | cons event events ih =>
      simp only [List.cons_append, TicksEvery, nextTick, ih, and_assoc]

/-- The tick that is due is no later than a period after the ticks so far. -/
theorem nextTick_le (h : TicksEvery time isTick period next events) (hnext : next ≤ bound)
    (hticks : ∀ event ∈ events, isTick event = true → time event + period ≤ bound) :
    nextTick isTick period next events ≤ bound := by
  induction events generalizing next with
  | nil => exact hnext
  | cons event events ih =>
      obtain ⟨⟨-, hdue⟩, hrest⟩ := h
      apply ih hrest
      · split_ifs with htick
        · rw [← hdue htick]
          exact hticks event List.mem_cons_self htick
        · exact hnext
      · exact fun event' hmem => hticks event' (List.mem_cons_of_mem _ hmem)

/-- Before an event that is later than the next tick can be there is a tick. -/
theorem exists_tick_of_late (h : TicksEvery time isTick period next events)
    (hnext : next ≤ bound + period) {late : ε} (hmem : late ∈ events)
    (hlate : bound + period < time late) :
    ∃ tick ∈ events, isTick tick = true ∧ bound ≤ time tick := by
  induction events generalizing next with
  | nil => cases hmem
  | cons event events ih =>
      obtain ⟨⟨hle, hdue⟩, hrest⟩ := h
      by_cases htick : isTick event = true ∧ bound ≤ time event
      · exact ⟨event, List.mem_cons_self, htick⟩
      have hlater : late ∈ events := by
        rcases List.mem_cons.mp hmem with rfl | hmem
        · omega
        · exact hmem
      have hnext' : (if isTick event = true then next + period else next) ≤ bound + period := by
        split_ifs with hthis
        · have := hdue hthis
          have : ¬ bound ≤ time event := fun hbound => htick ⟨hthis, hbound⟩
          omega
        · exact hnext
      obtain ⟨tick, hmem', htick'⟩ := ih hrest hnext' hlater
      exact ⟨tick, List.mem_cons_of_mem _ hmem', htick'⟩

end AutomationBoard.Program
