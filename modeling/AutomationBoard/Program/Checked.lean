/-
# Programs whose memory accesses are checked

A program over a state `σ` either finishes with a value and a new state or stops
with a fault `ε`, which is what an access outside an array becomes. `Yields` is
total correctness for such programs: the run finishes without a fault and its
result satisfies the postcondition. Each construct has one rule, stated as an
equivalence where it can be, so that a straight-line program reduces to its
postcondition by rewriting. Loops have an invariant rule instead.
-/

import Mathlib.Data.List.Basic

namespace AutomationBoard.Program

universe u v

variable {ε : Type u} {σ τ : Type v} {α β : Type v}

/-- A program that reads and writes a state and can stop with a fault. -/
abbrev Checked (ε : Type u) (σ : Type v) (α : Type v) : Type (max u v) :=
  StateT σ (Except ε) α

/-- The program finishes from `s` without a fault, in a result that satisfies
the postcondition. -/
def Yields (prog : Checked ε σ α) (s : σ) (post : α → σ → Prop) : Prop :=
  ∃ a s', prog.run s = .ok (a, s') ∧ post a s'

/-- A run can be computed, and with it what it yields. -/
instance {prog : Checked ε σ α} {s : σ} {post : α → σ → Prop} [∀ a s', Decidable (post a s')] :
    Decidable (Yields prog s post) :=
  match h : prog.run s with
  | .ok (a, s') =>
      decidable_of_iff (post a s')
        ⟨fun hpost => ⟨a, s', h, hpost⟩, by
          rintro ⟨b, t, hrun, hpost⟩
          rw [h] at hrun
          cases hrun
          exact hpost⟩
  | .error e => isFalse (by
      rintro ⟨b, t, hrun, -⟩
      rw [h] at hrun
      cases hrun)

namespace Yields

/-- The rule of consequence. -/
theorem mono {prog : Checked ε σ α} {s : σ} {post weaker : α → σ → Prop}
    (h : Yields prog s post) (himp : ∀ a s', post a s' → weaker a s') :
    Yields prog s weaker := by
  obtain ⟨a, s', hrun, hpost⟩ := h
  exact ⟨a, s', hrun, himp a s' hpost⟩

/-- A program has one run, so any two of its postconditions hold together. -/
theorem of_run_eq {prog : Checked ε σ α} {s s' : σ} {a : α} {post : α → σ → Prop}
    (h : Yields prog s post) (hrun : prog.run s = .ok (a, s')) : post a s' := by
  obtain ⟨b, t, hb, hpost⟩ := h
  rw [hrun] at hb
  cases hb
  exact hpost

/-- What a program yields is decided by its run. -/
theorem iff_of_run_eq {prog : Checked ε σ α} {s s' : σ} {a : α} {post : α → σ → Prop}
    (hrun : prog.run s = .ok (a, s')) : Yields prog s post ↔ post a s' :=
  ⟨fun h => h.of_run_eq hrun, fun h => ⟨a, s', hrun, h⟩⟩

end Yields

/-! ## Fallible computations -/

/-- A computation that goes on after another has ended well when both have. -/
theorem except_bind_eq_ok {x : Except ε α} {f : α → Except ε β} {b : β} :
    x >>= f = .ok b ↔ ∃ a, x = .ok a ∧ f a = .ok b := by
  cases x <;> simp [bind, Except.bind]

theorem except_map_eq_ok {x : Except ε α} {f : α → β} {b : β} :
    f <$> x = .ok b ↔ ∃ a, x = .ok a ∧ f a = b := by
  cases x <;> simp [Functor.map, Except.map]

/-- A check that ends in an error. -/
theorem except_reject_eq_ok {c : Prop} [Decidable c] {e : ε} {x : Except ε α} {a : α} :
    (if c then .error e else x) = .ok a ↔ ¬ c ∧ x = .ok a := by
  split <;> simp [*]

/-- A check whose success the rest relies on. -/
theorem except_require_eq_ok {c : Prop} [Decidable c] {e : ε} {x : c → Except ε α} {a : α} :
    (if h : c then x h else .error e) = .ok a ↔ ∃ h, x h = .ok a := by
  split <;> simp [*]

/-! ## Straight-line programs -/

@[simp]
theorem yields_pure {a : α} {s : σ} {post : α → σ → Prop} :
    Yields (pure a : Checked ε σ α) s post ↔ post a s :=
  Yields.iff_of_run_eq rfl

@[simp]
theorem yields_bind {prog : Checked ε σ α} {next : α → Checked ε σ β} {s : σ}
    {post : β → σ → Prop} :
    Yields (prog >>= next) s post ↔ Yields prog s fun a s' => Yields (next a) s' post := by
  constructor
  · rintro ⟨b, t, hrun, hpost⟩
    rw [StateT.run_bind] at hrun
    cases hprog : prog.run s with
    | error e =>
        rw [hprog] at hrun
        cases hrun
    | ok result =>
        rw [hprog] at hrun
        exact ⟨result.1, result.2, hprog, b, t, hrun, hpost⟩
  · rintro ⟨a, s', hprog, b, t, hnext, hpost⟩
    refine ⟨b, t, ?_, hpost⟩
    rw [StateT.run_bind, hprog]
    exact hnext

@[simp]
theorem yields_map {prog : Checked ε σ α} {f : α → β} {s : σ} {post : β → σ → Prop} :
    Yields (f <$> prog) s post ↔ Yields prog s fun a s' => post (f a) s' := by
  rw [map_eq_pure_bind, yields_bind]
  simp only [yields_pure]

@[simp]
theorem yields_get {s : σ} {post : σ → σ → Prop} :
    Yields (get : Checked ε σ σ) s post ↔ post s s :=
  Yields.iff_of_run_eq rfl

@[simp]
theorem yields_set {s t : σ} {post : PUnit → σ → Prop} :
    Yields (set t : Checked ε σ PUnit) s post ↔ post ⟨⟩ t :=
  Yields.iff_of_run_eq rfl

@[simp]
theorem yields_modify {f : σ → σ} {s : σ} {post : PUnit → σ → Prop} :
    Yields (modify f : Checked ε σ PUnit) s post ↔ post ⟨⟩ (f s) :=
  Yields.iff_of_run_eq rfl

@[simp]
theorem yields_throw {e : ε} {s : σ} {post : α → σ → Prop} :
    Yields (throw e : Checked ε σ α) s post ↔ False := by
  constructor
  · rintro ⟨_, _, hrun, _⟩
    cases hrun
  · exact False.elim

@[simp]
theorem yields_ite {c : Prop} [Decidable c] {yes no : Checked ε σ α} {s : σ}
    {post : α → σ → Prop} :
    Yields (if c then yes else no) s post ↔
      if c then Yields yes s post else Yields no s post := by
  split <;> rfl

/-! ## Checked accesses -/

/-- Read an optional value, stopping with the fault where there is none. -/
def orFault (value : Option α) (fault : ε) : Checked ε σ α :=
  match value with
  | some a => pure a
  | none => throw fault

@[simp]
theorem yields_orFault {value : Option α} {fault : ε} {s : σ} {post : α → σ → Prop} :
    Yields (orFault value fault) s post ↔ ∃ a, value = some a ∧ post a s := by
  cases value <;> simp [orFault]

/-- Run a program on one part of a larger state. -/
def onPart (part : σ → τ) (put : τ → σ → σ) (prog : Checked ε τ α) : Checked ε σ α := do
  let s ← get
  match prog.run (part s) with
  | .ok (a, t) =>
      set (put t s)
      pure a
  | .error e => throw e

@[simp]
theorem yields_onPart {part : σ → τ} {put : τ → σ → σ} {prog : Checked ε τ α} {s : σ}
    {post : α → σ → Prop} :
    Yields (onPart part put prog) s post ↔
      Yields prog (part s) fun a t => post a (put t s) := by
  rw [onPart, yields_bind, yields_get]
  cases hrun : prog.run (part s) with
  | error e =>
      have hstuck : ¬ Yields prog (part s) fun a t => post a (put t s) := by
        rintro ⟨_, _, hok, _⟩
        rw [hrun] at hok
        cases hok
      simp only [yields_throw, hstuck]
  | ok result =>
      obtain ⟨a, t⟩ := result
      simp only [yields_bind, yields_set, yields_pure]
      constructor
      · intro hpost
        exact ⟨a, t, hrun, hpost⟩
      · intro h
        exact h.of_run_eq hrun

/-! ## Loops -/

/-- `for (i = 0; i < n; i++) body(i)`. -/
def forRange : ℕ → (ℕ → Checked ε σ PUnit) → Checked ε σ PUnit
  | 0, _ => pure ⟨⟩
  | n + 1, body => do
      forRange n body
      body n

/-- `for (i = 0; i < n; i++) out[i] = f(i)`, with the values it stores. -/
def mapRange : ℕ → (ℕ → Checked ε σ α) → Checked ε σ (List α)
  | 0, _ => pure []
  | n + 1, f => do
      let out ← mapRange n f
      let a ← f n
      pure (out ++ [a])

/-- `for (i = start; i < start + count; i++)` with a body that updates local
variables and may `break`. -/
def forBreak : ℕ → ℕ → β → (ℕ → β → Checked ε σ (ForInStep β)) → Checked ε σ β
  | 0, _, locals, _ => pure locals
  | count + 1, i, locals, body => do
      match ← body i locals with
      | .done final => pure final
      | .yield next => forBreak count (i + 1) next body

/-- `while (cond) body` with a body that updates local variables and may
`break`. The bound is not part of the program: reaching it is a fault, so a
program that yields a result never does. -/
def whileLoop (diverged : ε) :
    ℕ → β → (β → Bool) → (β → Checked ε σ (ForInStep β)) → Checked ε σ β
  | 0, locals, cond, _ => if cond locals then throw diverged else pure locals
  | bound + 1, locals, cond, body =>
      if cond locals then do
        match ← body locals with
        | .done final => pure final
        | .yield next => whileLoop diverged bound next cond body
      else pure locals

/-- What holds after a pass through a loop body: the postcondition of the loop if
it left with `break`, the given condition if it goes on. -/
def AfterPass (post cont : β → σ → Prop) : ForInStep β → σ → Prop
  | .done final, s => post final s
  | .yield next, s => cont next s

/-- A loop of reads finishes exactly when each of them does. -/
theorem yields_mapRange {f : ℕ → Checked ε σ α} {defined : ℕ → Prop} {g : ℕ → α}
    (hf : ∀ i s (post : α → σ → Prop), Yields (f i) s post ↔ defined i ∧ post (g i) s)
    (n : ℕ) {s : σ} {post : List α → σ → Prop} :
    Yields (mapRange n f) s post ↔ (∀ i < n, defined i) ∧ post ((List.range n).map g) s := by
  induction n generalizing post with
  | zero => simp [mapRange]
  | succ n ih =>
      simp only [mapRange, yields_bind, yields_pure, ih, hf, List.range_succ, List.map_append,
        List.map_cons, List.map_nil]
      constructor
      · rintro ⟨hbelow, hlast, hpost⟩
        refine ⟨fun i hi => ?_, hpost⟩
        rcases Nat.lt_succ_iff_lt_or_eq.mp hi with hlt | rfl
        · exact hbelow i hlt
        · exact hlast
      · rintro ⟨hall, hpost⟩
        exact ⟨fun i hi => hall i (Nat.lt_succ_of_lt hi), hall n (Nat.lt_succ_self n), hpost⟩

namespace Yields

/-- The invariant rule of the counting loop. -/
theorem forRange {body : ℕ → Checked ε σ PUnit} {n : ℕ} {s : σ} (inv : ℕ → σ → Prop)
    (start : inv 0 s)
    (step : ∀ i < n, ∀ t, inv i t → Yields (body i) t fun _ t' => inv (i + 1) t') :
    Yields (Program.forRange n body) s fun _ s' => inv n s' := by
  induction n with
  | zero => exact yields_pure.mpr start
  | succ n ih =>
      rw [Program.forRange, yields_bind]
      apply (ih fun i hi => step i (by omega)).mono
      intro _ t hinv
      exact step n (by omega) t hinv

/-- The invariant rule of the counting loop with `break`: the body either keeps
the invariant for the next index or leaves with the postcondition. -/
theorem forBreak {body : ℕ → β → Checked ε σ (ForInStep β)} {count start : ℕ} {locals : β}
    {s : σ} {post : β → σ → Prop} (inv : ℕ → β → σ → Prop) (entry : inv start locals s)
    (step : ∀ i, start ≤ i → i < start + count → ∀ l t, inv i l t →
      Yields (body i l) t (AfterPass post (inv (i + 1))))
    (exit : ∀ l t, inv (start + count) l t → post l t) :
    Yields (Program.forBreak count start locals body) s post := by
  induction count generalizing start locals s with
  | zero => exact yields_pure.mpr (exit locals s entry)
  | succ count ih =>
      rw [Program.forBreak, yields_bind]
      apply (step start (Nat.le_refl _) (by omega) locals s entry).mono
      intro r t hr
      cases r with
      | done final => exact yields_pure.mpr hr
      | yield next =>
          refine ih hr (fun i hlow hhigh => step i (by omega) (by omega)) ?_
          intro l t' hinv
          exact exit l t' (by rwa [show start + (count + 1) = start + 1 + count by omega])

/-- The rule of the `while` loop: an invariant and a variant that each pass
through the body decreases. A bound of at least the variant is never reached. -/
theorem whileLoop {diverged : ε} {cond : β → Bool} {body : β → Checked ε σ (ForInStep β)}
    {bound : ℕ} {locals : β} {s : σ} {post : β → σ → Prop} (inv : β → σ → Prop)
    (variant : β → ℕ) (entry : inv locals s) (enough : variant locals ≤ bound)
    (positive : ∀ l t, inv l t → cond l = true → 0 < variant l)
    (step : ∀ l t, inv l t → cond l = true →
      Yields (body l) t (AfterPass post fun next t' => inv next t' ∧ variant next < variant l))
    (exit : ∀ l t, inv l t → cond l = false → post l t) :
    Yields (Program.whileLoop diverged bound locals cond body) s post := by
  induction bound generalizing locals s with
  | zero =>
      cases hcond : cond locals with
      | false => simpa [Program.whileLoop, hcond] using exit locals s entry hcond
      | true =>
          have := positive locals s entry hcond
          omega
  | succ bound ih =>
      rw [Program.whileLoop]
      cases hcond : cond locals with
      | false => simpa using exit locals s entry hcond
      | true =>
          rw [if_pos rfl, yields_bind]
          apply (step locals s entry hcond).mono
          intro r t hr
          cases r with
          | done final => exact yields_pure.mpr hr
          | yield next =>
              obtain ⟨hinv, hless⟩ := hr
              exact ih hinv (by omega)

end Yields

end AutomationBoard.Program
