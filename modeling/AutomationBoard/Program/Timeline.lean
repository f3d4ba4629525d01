/-
# Timelines

What is seen of a run, as a list: time that passes and marks that are set, or
moments at which something falls due. Two requirements are put on such lists. Marks
keep a distance in time, which an observer checks that only remembers the time since
the last mark. And what falls due is done at the first moment at which it can be; of
what is only ever done when it falls due, by a timer that starts again each time,
this is a requirement on the times at which it can be.
-/

import AutomationBoard.Program.Runs

namespace AutomationBoard.Program

universe v

/-! ## Countdowns -/

/-- A counter that is lowered by less than it holds loses exactly that, whatever
width the amount has. -/
theorem toNat_sub_setWidth {w w' : ℕ} {counter : BitVec w} {delta : BitVec w'}
    (h : delta.toNat < counter.toNat) :
    (counter - delta.setWidth w).toNat = counter.toNat - delta.toNat := by
  have hcounter := counter.isLt
  have hdelta : (delta.setWidth w).toNat = delta.toNat := by
    rw [BitVec.toNat_setWidth, Nat.mod_eq_of_lt (Nat.lt_trans h hcounter)]
  have hle : delta.setWidth w ≤ counter := by
    rw [BitVec.le_def, hdelta]
    exact Nat.le_of_lt h
  rw [BitVec.toNat_sub_of_le hle, hdelta]

/-! ## What is seen of a run -/

section Seen

variable {σ ι α β : Type v} {step : ι → σ → α × σ} {view : σ → ι → α → List β}

variable (step view) in
/-- What a view of single steps sees of a run. -/
def seen : σ → List ι → List β
  | _, [] => []
  | s, i :: inputs => view s i (step i s).1 ++ seen (step i s).2 inputs

/-- What holds of all that is seen of a step from a state with the invariant holds
of all that is seen of a run. -/
theorem forall_mem_seen_of_invariant {I : σ → Prop} {P : β → Prop}
    (hstep : ∀ s i, I s → I (step i s).2 ∧ ∀ b ∈ view s i (step i s).1, P b) {s : σ} (hs : I s)
    (inputs : List ι) : ∀ b ∈ seen step view s inputs, P b := by
  induction inputs generalizing s with
  | nil => exact fun b hb => absurd hb List.not_mem_nil
  | cons i inputs ih =>
      intro b hb
      rcases List.mem_append.mp hb with hb | hb
      · exact (hstep s i hs).2 b hb
      · exact ih (hstep s i hs).1 b hb

end Seen

/-! ## Distance between marks -/

/-- Time passes, or a mark is set; some marks are exempt. -/
inductive TimelineEvent
  | elapse (ms : ℕ)
  | mark (exempt : Bool)

/-- The time an event takes. -/
def TimelineEvent.time : TimelineEvent → ℕ
  | elapse ms => ms
  | mark _ => 0

/-- The time that passes in a timeline. -/
def elapsed : List TimelineEvent → ℕ
  | [] => 0
  | event :: events => event.time + elapsed events

/-- Between two marks, neither of them exempt and no exempt one between them, the
gap passes at least. -/
def Spaced (gap : ℕ) (events : List TimelineEvent) : Prop :=
  ∀ before between after,
    events = before ++ .mark false :: (between ++ .mark false :: after) →
    .mark true ∉ between → gap ≤ elapsed between

/-- The time since the last mark, for an observer that forgets it at an exempt one. -/
def sinceMark : Option ℕ → TimelineEvent → Option ℕ
  | since, .elapse ms => since.map (· + ms)
  | _, .mark false => some 0
  | _, .mark true => none

/-- The observer does not object: the gap has passed since the last mark it remembers. -/
def Permitted (gap : ℕ) (since : Option ℕ) : TimelineEvent → Prop
  | .mark false => ∀ ms, since = some ms → gap ≤ ms
  | _ => True

/-- The observer objects to no event of a timeline. -/
def AllPermitted (gap : ℕ) : Option ℕ → List TimelineEvent → Prop
  | _, [] => True
  | since, event :: events =>
      Permitted gap since event ∧ AllPermitted gap (sinceMark since event) events

section Spacing

variable {gap : ℕ} {since : Option ℕ} {events events' : List TimelineEvent}

theorem allPermitted_append :
    AllPermitted gap since (events ++ events') ↔
      AllPermitted gap since events ∧ AllPermitted gap (events.foldl sinceMark since) events' := by
  induction events generalizing since with
  | nil => exact (and_iff_right trivial).symm
  | cons event events ih =>
      simp only [List.cons_append, AllPermitted, List.foldl_cons, ih, and_assoc]

/-- Without an exempt mark the observer goes on remembering, and what it remembers
is no more than the time that has passed. -/
theorem exists_foldl_sinceMark (ms : ℕ) (hexempt : .mark true ∉ events) :
    ∃ ms', events.foldl sinceMark (some ms) = some ms' ∧ ms' ≤ ms + elapsed events := by
  induction events generalizing ms with
  | nil => exact ⟨ms, rfl, Nat.le_add_right _ _⟩
  | cons event events ih =>
      rw [List.mem_cons, not_or] at hexempt
      match event, hexempt.1 with
      | .elapse ms'', _ =>
          obtain ⟨ms', hfold, hle⟩ := ih (ms + ms'') hexempt.2
          have htime : elapsed (.elapse ms'' :: events) = ms'' + elapsed events := rfl
          exact ⟨ms', hfold, by omega⟩
      | .mark false, _ =>
          obtain ⟨ms', hfold, hle⟩ := ih 0 hexempt.2
          have htime : elapsed (.mark false :: events) = elapsed events := Nat.zero_add _
          exact ⟨ms', hfold, by omega⟩
      | .mark true, hne => exact absurd rfl hne

/-- Marks to which the observer does not object keep their distance. -/
theorem spaced_of_allPermitted (h : AllPermitted gap since events) : Spaced gap events := by
  intro before between after hsplit hexempt
  rw [hsplit, allPermitted_append] at h
  obtain ⟨-, -, hrest⟩ := h
  rw [allPermitted_append] at hrest
  obtain ⟨-, hsecond, -⟩ := hrest
  obtain ⟨ms, hfold, hle⟩ := exists_foldl_sinceMark 0 hexempt
  calc
    gap ≤ ms := hsecond ms hfold
    _ ≤ elapsed between := Nat.zero_add (elapsed between) ▸ hle

/-- If the state agrees with what the observer remembers, and each step that has the
property keeps it so and sets no mark to which the observer objects, then the marks
of a run keep their distance. -/
theorem allPermitted_seen {σ ι α : Type} {step : ι → σ → α × σ}
    {view : σ → ι → α → List TimelineEvent} {Q : σ → ι → α → σ → Prop} {R : σ → Option ℕ → Prop}
    (hstep : ∀ s since i, R s since → Q s i (step i s).1 (step i s).2 →
      AllPermitted gap since (view s i (step i s).1) ∧
        R (step i s).2 ((view s i (step i s).1).foldl sinceMark since))
    {s : σ} (hs : R s since) {inputs : List ι} (hrun : EveryStep (total step) Q s inputs) :
    AllPermitted gap since (seen step view s inputs) := by
  induction inputs generalizing s since with
  | nil => trivial
  | cons i inputs ih =>
      rw [EveryStep, yields_total] at hrun
      obtain ⟨hpermitted, hnext⟩ := hstep s since i hs hrun.1
      exact allPermitted_append.mpr ⟨hpermitted, ih hnext hrun.2⟩

end Spacing

/-! ## What falls due -/

/-- A moment at which something may fall due, may be possible and may be done, and
the time that has passed since the moment before. -/
structure Moment where
  ms : ℕ
  due : Bool
  possible : Bool
  done : Bool
  deriving DecidableEq

/-- The time that passes up to the last of the moments. -/
def lapse : List Moment → ℕ
  | [] => 0
  | moment :: moments => moment.ms + lapse moments

/-- The first moment of a list at which it is possible. -/
structure FirstPossible (moments waiting : List Moment) (moment : Moment)
    (rest : List Moment) : Prop where
  split : moments = waiting ++ moment :: rest
  possible : moment.possible = true
  first : ∀ earlier ∈ waiting, earlier.possible = false

/-- Whenever something falls due, the first moment from then on at which it is
possible has the property, with the moments until then. -/
def WhenDue (P : List Moment → Moment → Prop) (moments : List Moment) : Prop :=
  ∀ before due after, moments = before ++ due :: after → due.due = true →
    ∀ waiting moment rest, FirstPossible (due :: after) waiting moment rest → P waiting moment

/-- What falls due is done at the first moment from then on at which it is possible. -/
def Prompt : List Moment → Prop := WhenDue fun _ moment => moment.done = true

/-- What falls due is possible at once, or becomes possible only when a period has
passed since it fell due. -/
def PeriodPasses (period : ℕ) : List Moment → Prop :=
  WhenDue fun waiting moment => ∀ due later, waiting = due :: later →
    period ≤ lapse (later ++ [moment])

/-- A timer that has some time left decides what falls due: it does when the time is
over, and the period starts again. -/
def Timed (period : ℕ) : ℕ → List Moment → Prop
  | _, [] => True
  | left, moment :: moments =>
      (moment.due = true ↔ left ≤ moment.ms) ∧
        Timed period (if moment.due = true then period else left - moment.ms) moments

section Due

variable {period left : ℕ} {moments before later rest : List Moment} {moment : Moment}

@[simp]
theorem lapse_cons (moment : Moment) (moments : List Moment) :
    lapse (moment :: moments) = moment.ms + lapse moments := rfl

@[simp]
theorem lapse_nil : lapse [] = 0 := rfl

/-- A timer goes on running after any of the moments. -/
theorem Timed.suffix (h : Timed period left (before ++ moments)) :
    ∃ left', Timed period left' moments := by
  induction before generalizing left with
  | nil => exact ⟨left, h⟩
  | cons moment before ih => exact ih h.2

/-- What falls due again has been given the time that was left. -/
theorem Timed.le_lapse (h : Timed period left (later ++ moment :: rest))
    (hdue : moment.due = true) : left ≤ lapse (later ++ [moment]) := by
  induction later generalizing left with
  | nil => simpa using h.1.mp hdue
  | cons earlier later ih =>
      obtain ⟨hearlier, hrest⟩ := h
      rw [List.cons_append, lapse_cons]
      by_cases hagain : earlier.due = true
      · exact Nat.le_add_right_of_le (hearlier.mp hagain)
      · rw [if_neg hagain] at hrest
        have hleft := ih hrest
        omega

/-- If the time that is left passes, and the period after each time that it falls due
on the way, it falls due in the end. -/
theorem Timed.due_of_le (h : Timed period left (later ++ moment :: rest))
    (hleft : left ≤ lapse (later ++ [moment]))
    (hagain : ∀ between due waiting, later = between ++ due :: waiting → due.due = true →
      period ≤ lapse (waiting ++ [moment])) : moment.due = true := by
  induction later generalizing left with
  | nil => exact h.1.mpr (by simpa using hleft)
  | cons earlier later ih =>
      obtain ⟨hearlier, hrest⟩ := h
      rw [List.cons_append, lapse_cons] at hleft
      refine ih hrest ?_ fun between due waiting hsplit hdue =>
        hagain (earlier :: between) due waiting (by rw [hsplit, List.cons_append]) hdue
      by_cases hover : earlier.due = true
      · rw [if_pos hover]
        exact hagain [] earlier later rfl hover
      · rw [if_neg hover]
        omega

/-- What a timer lets fall due, and what is done exactly when it is due and possible,
is prompt if and only if it is always possible at once or a period later. -/
theorem prompt_iff_periodPasses (htimed : Timed period left moments)
    (hdone : ∀ moment ∈ moments, moment.possible = true →
      (moment.done = true ↔ moment.due = true)) :
    Prompt moments ↔ PeriodPasses period moments := by
  constructor
  · rintro hprompt before due after rfl hdue _ moment rest hfirst due' later rfl
    obtain ⟨rfl, rfl⟩ := List.cons.inj hfirst.split
    have hmoment : moment.done = true := hprompt before due _ rfl hdue _ moment rest hfirst
    rw [hdone moment (by simp) hfirst.possible] at hmoment
    obtain ⟨left', hstarted, hrunning⟩ := htimed.suffix
    rw [if_pos hdue] at hrunning
    exact hrunning.le_lapse hmoment
  · rintro hpasses before due after rfl hdue waiting moment rest hfirst
    have hmem : moment ∈ before ++ due :: after := by
      rw [hfirst.split]
      simp
    refine (hdone moment hmem hfirst.possible).mpr ?_
    cases waiting with
    | nil =>
        obtain ⟨rfl, -⟩ := List.cons.inj hfirst.split
        exact hdue
    | cons due' later =>
        obtain ⟨rfl, rfl⟩ := List.cons.inj hfirst.split
        obtain ⟨left', hstarted, hrunning⟩ := htimed.suffix
        rw [if_pos hdue] at hrunning
        refine hrunning.due_of_le (hpasses before due _ rfl hdue _ moment rest hfirst due later rfl)
          fun between due' waiting hsplit hagain => ?_
        -- the later expiry is put off to the same moment
        subst hsplit
        refine hpasses (before ++ due :: between) due' (waiting ++ moment :: rest) (by simp) hagain
          (due' :: waiting) moment rest ⟨by simp, hfirst.possible, fun earlier hmem => ?_⟩ due'
          waiting rfl
        exact hfirst.first earlier (by simp at hmem ⊢; tauto)

/-- If the time that a state has left agrees with what each step shows, a timer decides
what falls due in a run. -/
theorem timed_seen {σ ι α : Type} {step : ι → σ → α × σ} {view : σ → ι → α → List Moment}
    {I : σ → Prop} (left : σ → ℕ)
    (hstep : ∀ s i, I s → I (step i s).2 ∧ ∀ later, Timed period (left (step i s).2) later →
      Timed period (left s) (view s i (step i s).1 ++ later)) {s : σ} (hs : I s)
    (inputs : List ι) : Timed period (left s) (seen step view s inputs) := by
  induction inputs generalizing s with
  | nil => trivial
  | cons i inputs ih =>
      obtain ⟨hnext, hview⟩ := hstep s i hs
      exact hview _ (ih hnext)

end Due

end AutomationBoard.Program
