/-
# Runs over a sequence of inputs

A program that handles one input is run on one input after another. A property
of single steps is carried over to every step of a run, and a run with inputs
inserted into it is compared with the run without them: both follow from what
one step does, by induction on the inputs.
-/

import AutomationBoard.Program.Checked

namespace AutomationBoard.Program

universe u v

variable {ε : Type u} {σ ι α : Type v} {prog : ι → Checked ε σ α}

/-- The program on one input after another. -/
def runAll (prog : ι → Checked ε σ α) : List ι → Checked ε σ (List α)
  | [] => pure []
  | i :: inputs => do
      let output ← prog i
      let rest ← runAll prog inputs
      pure (output :: rest)

/-! ## Every step of a run -/

/-- Every step of the run finishes, and has the property. A step is the state it
meets, its input, its output and the state it leaves. -/
def EveryStep (prog : ι → Checked ε σ α) (P : σ → ι → α → σ → Prop) : σ → List ι → Prop
  | _, [] => True
  | s, i :: inputs =>
      Yields (prog i) s fun output s' => P s i output s' ∧ EveryStep prog P s' inputs

/-- A property of single steps that can be decided can be decided of a run. -/
instance EveryStep.decidable {P : σ → ι → α → σ → Prop} [∀ s i a s', Decidable (P s i a s')] :
    (s : σ) → (inputs : List ι) → Decidable (EveryStep prog P s inputs)
  | _, [] => isTrue trivial
  | s, i :: inputs =>
      have : ∀ s', Decidable (EveryStep prog P s' inputs) := fun s' =>
        EveryStep.decidable s' inputs
      inferInstanceAs (Decidable (Yields (prog i) s fun output s' =>
        P s i output s' ∧ EveryStep prog P s' inputs))

/-- A run of one step. -/
theorem everyStep_singleton {P : σ → ι → α → σ → Prop} {s : σ} {i : ι} :
    EveryStep prog P s [i] ↔ Yields (prog i) s (P s i) := by
  simp [EveryStep]

/-- A property of every step from a state with the invariant holds in every run. -/
theorem everyStep_of_invariant {I : σ → Prop} {P : σ → ι → α → σ → Prop}
    (hstep : ∀ s i, I s → Yields (prog i) s fun output s' => I s' ∧ P s i output s')
    {s : σ} (hs : I s) (inputs : List ι) : EveryStep prog P s inputs := by
  induction inputs generalizing s with
  | nil => trivial
  | cons i inputs ih =>
      apply (hstep s i hs).mono
      intro output s' h
      exact ⟨h.2, ih h.1⟩

/-- Two properties that agree on every step from a state with the invariant
agree on every run, if the invariant lasts as long as they hold. -/
theorem everyStep_congr_while {I : σ → Prop} {P Q : σ → ι → α → σ → Prop}
    (hstep : ∀ s i, I s → Yields (prog i) s fun output s' =>
      (P s i output s' ↔ Q s i output s') ∧ (Q s i output s' → I s'))
    {s : σ} (hs : I s) (inputs : List ι) :
    EveryStep prog P s inputs ↔ EveryStep prog Q s inputs := by
  induction inputs generalizing s with
  | nil => rfl
  | cons i inputs ih =>
      obtain ⟨output, s', hrun, hiff, hinv⟩ := hstep s i hs
      simp only [EveryStep, Yields.iff_of_run_eq hrun, hiff]
      exact and_congr_right fun hq => ih (hinv hq)

/-- Two properties that agree on every step from a state with the invariant
agree on every run. -/
theorem everyStep_congr {I : σ → Prop} {P Q : σ → ι → α → σ → Prop}
    (hstep : ∀ s i, I s → Yields (prog i) s fun output s' =>
      I s' ∧ (P s i output s' ↔ Q s i output s'))
    {s : σ} (hs : I s) (inputs : List ι) :
    EveryStep prog P s inputs ↔ EveryStep prog Q s inputs := by
  apply everyStep_congr_while (I := I) _ hs
  intro s i hi
  exact (hstep s i hi).mono fun output s' h => ⟨h.2, fun _ => h.1⟩

/-- What a property gives of every step from a state with the invariant, which it
keeps, it gives of every step of a run. -/
theorem EveryStep.of_invariant {I : σ → Prop} {P Q : σ → ι → α → σ → Prop}
    (hstep : ∀ s i, I s → Yields (prog i) s (P s i) →
      Yields (prog i) s fun output s' => I s' ∧ Q s i output s')
    {s : σ} (hs : I s) {inputs : List ι} (h : EveryStep prog P s inputs) :
    EveryStep prog Q s inputs := by
  induction inputs generalizing s with
  | nil => trivial
  | cons i inputs ih =>
      obtain ⟨output, s', hrun, hp, hrest⟩ := h
      have hq := (hstep s i hs ⟨output, s', hrun, hp⟩).of_run_eq hrun
      exact ⟨output, s', hrun, hq.2, ih hq.1 hrest⟩

/-- What a step gives from an invariant that knows the time holds of every step of a run
whose inputs are in the order of their times. -/
theorem everyStep_of_ordered {I : ℕ → σ → Prop} {P : σ → ι → α → σ → Prop} (time : ι → ℕ)
    (hstep : ∀ bound s i, I bound s → bound ≤ time i →
      Yields (prog i) s fun output s' => I (time i) s' ∧ P s i output s')
    {bound : ℕ} {s : σ} (hs : I bound s) {inputs : List ι}
    (hordered : inputs.Pairwise fun i j => time i ≤ time j)
    (hbound : ∀ i ∈ inputs, bound ≤ time i) : EveryStep prog P s inputs := by
  induction inputs generalizing s bound with
  | nil => trivial
  | cons i inputs ih =>
      obtain ⟨hlater, hordered⟩ := List.pairwise_cons.mp hordered
      apply (hstep bound s i hs (hbound i List.mem_cons_self)).mono
      intro output s' h
      exact ⟨h.2, ih h.1 hordered hlater⟩

/-- What a property gives of every step from a state with an invariant that knows
the time. -/
theorem EveryStep.of_ordered {I : ℕ → σ → Prop} {P Q : σ → ι → α → σ → Prop} (time : ι → ℕ)
    (hstep : ∀ bound s i, I bound s → bound ≤ time i → Yields (prog i) s (P s i) →
      Yields (prog i) s fun output s' => I (time i) s' ∧ Q s i output s')
    {bound : ℕ} {s : σ} (hs : I bound s) {inputs : List ι}
    (hordered : inputs.Pairwise fun i j => time i ≤ time j)
    (hbound : ∀ i ∈ inputs, bound ≤ time i) (h : EveryStep prog P s inputs) :
    EveryStep prog Q s inputs := by
  induction inputs generalizing s bound with
  | nil => trivial
  | cons i inputs ih =>
      obtain ⟨hlater, hordered⟩ := List.pairwise_cons.mp hordered
      obtain ⟨output, s', hrun, hp, hrest⟩ := h
      have hq := (hstep bound s i hs (hbound i List.mem_cons_self) ⟨output, s', hrun, hp⟩).of_run_eq
        hrun
      exact ⟨output, s', hrun, hq.2, ih hq.1 hordered hlater hrest⟩

/-! ## Steps without a fault -/

/-- A step function as a program that always finishes. -/
def total (step : ι → σ → α × σ) (i : ι) : Checked Empty σ α := fun s => .ok (step i s)

@[simp]
theorem yields_total {step : ι → σ → α × σ} {i : ι} {s : σ} {post : α → σ → Prop} :
    Yields (total step i) s post ↔ post (step i s).1 (step i s).2 :=
  Yields.iff_of_run_eq rfl

/-- A run of a step function is a run of the program that it describes. -/
theorem yields_runAll_total {β : Type v} {step : ι → σ → β × σ} {f : α → β}
    (hstep : ∀ s i, Yields (prog i) s fun a s' => (f a, s') = step i s) {s : σ} {inputs : List ι}
    {post : List β → σ → Prop} :
    Yields (runAll (total step) inputs) s post ↔
      Yields (runAll prog inputs) s fun outs s' => post (outs.map f) s' := by
  induction inputs generalizing s post with
  | nil => rw [runAll, runAll, yields_pure, yields_pure, List.map_nil]
  | cons i inputs ih =>
      obtain ⟨a, s', hrun, heq⟩ := hstep s i
      simp only [runAll, yields_bind, yields_pure, yields_total, Yields.iff_of_run_eq hrun, ← heq,
        ih, List.map_cons]

/-! ## Inserted inputs -/

/-- An input of a run, or one that is inserted into it. -/
inductive Slot (ι : Type v)
  | own (i : ι)
  | inserted (i : ι)

/-- The inputs of the run with the insertions. -/
def allInputs : List (Slot ι) → List ι
  | [] => []
  | .own i :: slots => i :: allInputs slots
  | .inserted i :: slots => i :: allInputs slots

/-- The inputs of the run without the insertions. -/
def ownInputs : List (Slot ι) → List ι
  | [] => []
  | .own i :: slots => i :: ownInputs slots
  | .inserted _ :: slots => ownInputs slots

/-- The outputs of a run with insertions, against those of the run without:
an insertion gives a silent output, and every other input the same output. -/
inductive Undisturbed (silent : α → Prop) (same : ι → α → α → Prop) :
    List (Slot ι) → List α → List α → Prop
  | nil : Undisturbed silent same [] [] []
  | own {i : ι} {slots : List (Slot ι)} {a b : α} {with' without : List α} (head : same i a b)
      (tail : Undisturbed silent same slots with' without) :
      Undisturbed silent same (.own i :: slots) (a :: with') (b :: without)
  | inserted {i : ι} {slots : List (Slot ι)} {a : α} {with' without : List α} (head : silent a)
      (tail : Undisturbed silent same slots with' without) :
      Undisturbed silent same (.inserted i :: slots) (a :: with') without

/-- Insertions that a relation between the states of the two runs does not notice
are not noticed by the runs. -/
theorem yields_runAll_inserted {R : σ → σ → Prop} {foreign : ι → Prop} {silent : α → Prop}
    {same : ι → α → α → Prop}
    (hforeign : ∀ s t i, R s t → foreign i → Yields (prog i) s fun a s' => silent a ∧ R s' t)
    (hown : ∀ s t i, R s t → Yields (prog i) s fun a s' =>
      Yields (prog i) t fun b t' => same i a b ∧ R s' t')
    {s t : σ} (hst : R s t) (slots : List (Slot ι))
    (hslots : ∀ i, .inserted i ∈ slots → foreign i) :
    Yields (runAll prog (allInputs slots)) s fun outs s' =>
      Yields (runAll prog (ownInputs slots)) t fun outs' t' =>
        Undisturbed silent same slots outs outs' ∧ R s' t' := by
  induction slots generalizing s t with
  | nil => exact yields_pure.mpr (yields_pure.mpr ⟨.nil, hst⟩)
  | cons slot slots ih =>
      have hrest : ∀ i, .inserted i ∈ slots → foreign i := fun i hi =>
        hslots i (List.mem_cons_of_mem _ hi)
      cases slot with
      | own i =>
          simp only [allInputs, ownInputs, runAll, yields_bind, yields_pure]
          obtain ⟨a, s', hs, b, t', ht, hsame, hst'⟩ := hown s t i hst
          obtain ⟨outs, s'', houts, outs', t'', houts', hundisturbed, hst''⟩ := ih hst' hrest
          exact ⟨a, s', hs, outs, s'', houts, b, t', ht, outs', t'', houts',
            .own hsame hundisturbed, hst''⟩
      | inserted i =>
          simp only [allInputs, ownInputs, runAll, yields_bind, yields_pure]
          obtain ⟨a, s', hs, hsilent, hst'⟩ :=
            hforeign s t i hst (hslots i List.mem_cons_self)
          obtain ⟨outs, s'', houts, outs', t'', houts', hundisturbed, hst''⟩ := ih hst' hrest
          exact ⟨a, s', hs, outs, s'', houts, outs', t'', houts',
            .inserted hsilent hundisturbed, hst''⟩

/-! ## Two programs side by side -/

/-- The outputs of two runs over the same inputs, input by input. -/
inductive Agree {β : Type v} (same : ι → α → β → Prop) : List ι → List α → List β → Prop
  | nil : Agree same [] [] []
  | cons {i : ι} {inputs : List ι} {a : α} {b : β} {as : List α} {bs : List β}
      (head : same i a b) (tail : Agree same inputs as bs) :
      Agree same (i :: inputs) (a :: as) (b :: bs)

/-- Two programs that keep a relation between their states do so in every run. -/
theorem yields_runAll_agree {ε' : Type u} {τ β : Type v} {prog' : ι → Checked ε' τ β}
    {R : σ → τ → Prop} {same : ι → α → β → Prop}
    (hstep : ∀ s t i, R s t → Yields (prog i) s fun a s' =>
      Yields (prog' i) t fun b t' => same i a b ∧ R s' t')
    {s : σ} {t : τ} (hst : R s t) (inputs : List ι) :
    Yields (runAll prog inputs) s fun as s' =>
      Yields (runAll prog' inputs) t fun bs t' => Agree same inputs as bs ∧ R s' t' := by
  induction inputs generalizing s t with
  | nil => exact yields_pure.mpr (yields_pure.mpr ⟨.nil, hst⟩)
  | cons i inputs ih =>
      simp only [runAll, yields_bind, yields_pure]
      obtain ⟨a, s', hs, b, t', ht, hsame, hst'⟩ := hstep s t i hst
      obtain ⟨as, s'', has, bs, t'', hbs, hagree, hst''⟩ := ih hst'
      exact ⟨a, s', hs, as, s'', has, b, t', ht, bs, t'', hbs, .cons hsame hagree, hst''⟩

/-! ## Accounts of a run -/

/-- A program with an observer beside it, who sees the states too. -/
def observed {γ : Type v} (note : γ → σ → ι → α → σ → γ) (prog : ι → Checked ε σ α) (i : ι) :
    Checked ε (σ × γ) α :=
  fun s => ((prog i).run s.1).map fun r => (r.1, r.2, note s.2 s.1 i r.1 r.2)

@[simp]
theorem yields_observed {γ : Type v} {note : γ → σ → ι → α → σ → γ} {i : ι} {s : σ × γ}
    {post : α → σ × γ → Prop} :
    Yields (observed note prog i) s post ↔
      Yields (prog i) s.1 fun a s' => post a (s', note s.2 s.1 i a s') := by
  constructor
  · rintro ⟨a, s', hrun, hpost⟩
    obtain ⟨r, hprog, hr⟩ := except_map_eq_ok.mp hrun
    obtain ⟨rfl, rfl⟩ := Prod.mk.inj hr
    exact ⟨r.1, r.2, hprog, hpost⟩
  · rintro ⟨a, s', hprog, hpost⟩
    exact ⟨a, _, except_map_eq_ok.mpr ⟨(a, s'), hprog, rfl⟩, hpost⟩

/-- A program with an observer beside it, who sees its inputs and outputs. -/
def watched {γ : Type v} (note : γ → ι → α → γ) (prog : ι → Checked ε σ α) (i : ι) :
    Checked ε (σ × γ) α := observed (fun g _ i a _ => note g i a) prog i

@[simp]
theorem yields_watched {γ : Type v} {note : γ → ι → α → γ} {i : ι} {s : σ × γ}
    {post : α → σ × γ → Prop} :
    Yields (watched note prog i) s post ↔
      Yields (prog i) s.1 fun a s' => post a (s', note s.2 i a) := yields_observed

/-- What an observer of the inputs and outputs of a run comes to, step by step. -/
def account {γ : Type v} (step : γ → ι → α → γ) : γ → List ι → List α → γ
  | g, i :: inputs, a :: outputs => account step (step g i a) inputs outputs
  | g, _, _ => g

/-- If each step keeps the state in agreement with what the observer comes to,
so does a run. -/
theorem yields_runAll_account {γ : Type v} {step : γ → ι → α → γ} {R : σ → γ → Prop}
    (hstep : ∀ s g i, R s g → Yields (prog i) s fun a s' => R s' (step g i a))
    {s : σ} {g : γ} (hs : R s g) (inputs : List ι) :
    Yields (runAll prog inputs) s fun outputs s' => R s' (account step g inputs outputs) := by
  induction inputs generalizing s g with
  | nil => exact yields_pure.mpr hs
  | cons i inputs ih =>
      simp only [runAll, yields_bind, yields_pure]
      apply (hstep s g i hs).mono
      intro a s' hs'
      exact (ih hs').mono fun outputs s'' h => h

end AutomationBoard.Program
