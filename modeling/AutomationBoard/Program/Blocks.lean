/-
# Blocks of a timed stream

Values arrive one after another, each at its time. A block is a stretch of the
stream that silence sets off: more than a gap before its first value, and at
least a longer silence after its last one. A block that is still open ends where
the stream ends so far.
-/

import Mathlib.Data.List.Basic

namespace AutomationBoard.Program

universe u

variable {β : Type u}

/-- Nothing has arrived yet, or the last arrival is more than the gap ago. -/
def SilentFor (gap : ℕ) (arrivals : List (ℕ × β)) (now : ℕ) : Prop :=
  ∀ last ∈ arrivals.getLast?, last.1 + gap < now

instance (gap : ℕ) (arrivals : List (ℕ × β)) (now : ℕ) : Decidable (SilentFor gap arrivals now) :=
  inferInstanceAs (Decidable (∀ last ∈ arrivals.getLast?, _))

/-- The values are those of the stream since an arrival that followed silence. -/
def OpenBlock (gap : ℕ) (arrivals : List (ℕ × β)) (values : List β) : Prop :=
  ∃ before first rest, arrivals = before ++ first :: rest ∧ SilentFor gap before first.1 ∧
    values = (first :: rest).map Prod.snd

/-- The values are those of a block of the stream that silence has ended. -/
def CompleteBlock (gap silence : ℕ) (arrivals : List (ℕ × β)) (now : ℕ) (values : List β) : Prop :=
  ∃ upTo after, arrivals = upTo ++ after ∧ OpenBlock gap upTo values ∧
    ∀ last ∈ upTo.getLast?, last.1 + silence ≤ now ∧ ∀ next ∈ after, last.1 + silence ≤ next.1

variable {gap silence now now' : ℕ} {arrivals : List (ℕ × β)} {values : List β}

/-- An arrival after silence opens a block. -/
theorem OpenBlock.start (h : SilentFor gap arrivals now) (b : β) :
    OpenBlock gap (arrivals ++ [(now, b)]) [b] :=
  ⟨arrivals, (now, b), [], rfl, h, rfl⟩

/-- The next arrival belongs to the open block. -/
theorem OpenBlock.concat (h : OpenBlock gap arrivals values) (now : ℕ) (b : β) :
    OpenBlock gap (arrivals ++ [(now, b)]) (values ++ [b]) := by
  obtain ⟨before, first, rest, rfl, hsilent, rfl⟩ := h
  refine ⟨before, first, rest ++ [(now, b)], ?_, hsilent, ?_⟩
  · simp
  · simp

/-- Silence after the last arrival completes the open block. -/
theorem OpenBlock.complete (h : OpenBlock gap arrivals values)
    (hsilence : ∀ last ∈ arrivals.getLast?, last.1 + silence ≤ now) :
    CompleteBlock gap silence arrivals now values :=
  ⟨arrivals, [], (List.append_nil arrivals).symm, h,
    fun last hlast => ⟨hsilence last hlast, fun _ hnext => absurd hnext List.not_mem_nil⟩⟩

/-- A complete block stays complete. -/
theorem CompleteBlock.later (h : CompleteBlock gap silence arrivals now values)
    (hnow : now ≤ now') : CompleteBlock gap silence arrivals now' values := by
  obtain ⟨upTo, after, harrivals, hopen, hlast⟩ := h
  exact ⟨upTo, after, harrivals, hopen, fun last hmem =>
    ⟨Nat.le_trans (hlast last hmem).1 hnow, (hlast last hmem).2⟩⟩

/-- What arrives later belongs to another block. -/
theorem CompleteBlock.concat (h : CompleteBlock gap silence arrivals now values)
    (hnow : now ≤ now') (b : β) :
    CompleteBlock gap silence (arrivals ++ [(now', b)]) now' values := by
  obtain ⟨upTo, after, rfl, hopen, hlast⟩ := h
  refine ⟨upTo, after ++ [(now', b)], by simp, hopen, fun last hmem => ⟨?_, ?_⟩⟩
  · exact Nat.le_trans (hlast last hmem).1 hnow
  · intro next hnext
    rcases List.mem_append.mp hnext with hnext | hnext
    · exact (hlast last hmem).2 next hnext
    · rw [List.mem_singleton.mp hnext]
      exact Nat.le_trans (hlast last hmem).1 hnow

end AutomationBoard.Program
