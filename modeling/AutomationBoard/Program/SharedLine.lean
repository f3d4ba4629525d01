/-
# Stations on a shared line

Stations of one kind hear whatever goes over a line, apart from what they send
themselves. What a station has to send waits until it gets its turn, so a run is
any interleaving of inputs to single stations, messages from outside and messages
of the stations. To one station a run is its own run with the messages of the
others inserted. If every station takes no notice of these, it might as well be
alone on the line.
-/

import AutomationBoard.Program.Runs
import Mathlib.Logic.Function.Basic

namespace AutomationBoard.Program

universe u v

variable {κ : Type u} {σ ι μ : Type v}

/-! ## The line -/

/-- What the stations of a line do with an input, which may leave them messages to
send, and the input that a message on the line is to them. -/
structure StationKind (σ ι μ : Type v) where
  step : ι → σ → List μ × σ
  hear : μ → ι

/-- The states of the stations, and the messages that wait to be sent. -/
structure Line (κ : Type u) (σ μ : Type v) where
  state : κ → σ
  queue : κ → List μ

/-- What happens on a line: a single station gets an input, a message comes from
outside, or a station sends a message that waits. -/
inductive LineEvent (κ : Type u) (ι μ : Type v)
  | input (k : κ) (i : ι)
  | outside (m : μ)
  | sent (k : κ) (m : μ)

namespace LineEvent

variable [DecidableEq κ]

/-- What an event is to one station: an input of its own run, a message of another
station, or nothing. -/
def slot (hear : μ → ι) (k : κ) : LineEvent κ ι μ → Option (Slot ι)
  | input j i => if j = k then some (.own i) else none
  | outside m => some (.own (hear m))
  | sent j m => if j = k then none else some (.inserted (hear m))

/-- The message that a station sends in an event. -/
def message (k : κ) : LineEvent κ ι μ → Option μ
  | sent j m => if j = k then some m else none
  | input _ _ | outside _ => none

end LineEvent

/-- The input of a slot. -/
def Slot.input : Slot ι → ι
  | own i | inserted i => i

/-- A run as one station sees it. -/
def slotsOf [DecidableEq κ] (hear : μ → ι) (k : κ) (events : List (LineEvent κ ι μ)) :
    List (Slot ι) := events.filterMap (LineEvent.slot hear k)

/-- The messages that a station sends in a run. -/
def sentBy [DecidableEq κ] (k : κ) (events : List (LineEvent κ ι μ)) : List μ :=
  events.filterMap (LineEvent.message k)

namespace Line

/-- A message is sent in its turn. -/
def Allows (line : Line κ σ μ) : LineEvent κ ι μ → Prop
  | .sent k m => (line.queue k).head? = some m
  | .input _ _ | .outside _ => True

variable [DecidableEq κ] (kind : StationKind σ ι μ)

/-- The messages of a station that still wait once an event has happened. -/
def left (line : Line κ σ μ) (e : LineEvent κ ι μ) (k : κ) : List μ :=
  match e.message k with
  | some _ => (line.queue k).tail
  | none => line.queue k

/-- The line after an event. -/
def after (line : Line κ σ μ) (e : LineEvent κ ι μ) : Line κ σ μ where
  state k := match e.slot kind.hear k with
    | some slot => (kind.step slot.input (line.state k)).2
    | none => line.state k
  queue k := match e.slot kind.hear k with
    | some slot => line.left e k ++ (kind.step slot.input (line.state k)).1
    | none => line.left e k

/-- Every message of a run is sent in its turn. -/
def Legal : Line κ σ μ → List (LineEvent κ ι μ) → Prop
  | _, [] => True
  | line, e :: events => line.Allows e ∧ (line.after kind e).Legal events

/-- Every event of a run has a property, at the line it meets. -/
def EveryEvent (P : Line κ σ μ → LineEvent κ ι μ → Prop) :
    Line κ σ μ → List (LineEvent κ ι μ) → Prop
  | _, [] => True
  | line, e :: events => P line e ∧ EveryEvent P (line.after kind e) events

/-- The line after a run. -/
def run (line : Line κ σ μ) (events : List (LineEvent κ ι μ)) : Line κ σ μ :=
  events.foldl (after kind) line

end Line

/-! ## A run as one station sees it -/

section Station

variable [DecidableEq κ] {kind : StationKind σ ι μ} {line : Line κ σ μ}

/-- Only the sending of a message makes it a message of its station. -/
theorem LineEvent.eq_sent_of_message {e : LineEvent κ ι μ} {k : κ} {m : μ}
    (h : e.message k = some m) : e = .sent k m := by
  cases e with
  | input j i => cases h
  | outside m' => cases h
  | sent j m' =>
      by_cases hjk : j = k
      · subst hjk
        simp only [message, if_true, Option.some.injEq] at h
        rw [h]
      · simp [message, hjk] at h

/-- What a station sends in its turn was at the head of its queue. -/
theorem Line.message_append_left {e : LineEvent κ ι μ} (hallows : line.Allows e) (k : κ) :
    (e.message k).toList ++ line.left e k = line.queue k := by
  rw [left]
  cases hmessage : e.message k with
  | none => rfl
  | some m =>
      rw [LineEvent.eq_sent_of_message hmessage] at hallows
      obtain ⟨rest, hqueue⟩ := List.head?_eq_some_iff.mp hallows
      simp [hqueue]

theorem sentBy_cons (k : κ) (e : LineEvent κ ι μ) (events : List (LineEvent κ ι μ)) :
    sentBy k (e :: events) = (e.message k).toList ++ sentBy k events := by
  rw [sentBy, List.filterMap_cons]
  cases e.message k <;> rfl

@[simp]
theorem allInputs_cons (slot : Slot ι) (slots : List (Slot ι)) :
    allInputs (slot :: slots) = slot.input :: allInputs slots := by
  cases slot <;> rfl

/-- The messages of a run that a station hears, with its own inputs, are a run of
the station, and what it leaves to be sent is sent in order. -/
theorem Line.yields_station {events : List (LineEvent κ ι μ)} (hlegal : line.Legal kind events)
    (k : κ) :
    Yields (runAll (total kind.step) (allInputs (slotsOf kind.hear k events))) (line.state k)
      fun answers s' => s' = (line.run kind events).state k ∧
        line.queue k ++ answers.flatten = sentBy k events ++ (line.run kind events).queue k := by
  induction events generalizing line with
  | nil => exact yields_pure.mpr ⟨rfl, List.append_nil _⟩
  | cons e events ih =>
      obtain ⟨hallows, hrest⟩ := hlegal
      have hqueue := message_append_left hallows k
      have htail := ih hrest
      have hrun : line.run kind (e :: events) = (line.after kind e).run kind events := rfl
      rw [hrun, sentBy_cons, ← hqueue]
      cases hslot : e.slot kind.hear k with
      | none =>
          have hslots : slotsOf kind.hear k (e :: events) = slotsOf kind.hear k events := by
            simp [slotsOf, hslot]
          have hstate : (line.after kind e).state k = line.state k := by simp [after, hslot]
          have hleft : (line.after kind e).queue k = line.left e k := by simp [after, hslot]
          rw [hstate, hleft] at htail
          rw [hslots]
          apply htail.mono
          rintro answers s' ⟨hs', hsent⟩
          exact ⟨hs', by rw [List.append_assoc, hsent, List.append_assoc]⟩
      | some slot =>
          have hslots : slotsOf kind.hear k (e :: events) =
              slot :: slotsOf kind.hear k events := by simp [slotsOf, hslot]
          have hstate : (line.after kind e).state k =
              (kind.step slot.input (line.state k)).2 := by simp [after, hslot]
          have hleft : (line.after kind e).queue k =
              line.left e k ++ (kind.step slot.input (line.state k)).1 := by simp [after, hslot]
          rw [hstate, hleft] at htail
          rw [hslots, allInputs_cons, runAll, yields_bind, yields_total]
          simp only [yields_bind, yields_pure]
          apply htail.mono
          rintro answers s' ⟨hs', hsent⟩
          refine ⟨hs', ?_⟩
          calc (e.message k).toList ++ line.left e k ++
                ((kind.step slot.input (line.state k)).1 :: answers).flatten
              = (e.message k).toList ++ (line.left e k ++
                  (kind.step slot.input (line.state k)).1 ++ answers.flatten) := by
                simp only [List.flatten_cons, List.append_assoc]
            _ = (e.message k).toList ++ sentBy k events ++
                  ((line.after kind e).run kind events).queue k := by
                rw [hsent, List.append_assoc]

end Station

/-! ## Stations that take no notice of each other -/

/-- Each station sends messages of its own only, and the messages of one leave no
trace in another that a relation between their states would show. -/
structure Separate (kind : StationKind σ ι μ) (Inv : κ → σ → Prop) (Own : κ → μ → Prop)
    (R : κ → σ → σ → Prop) (Same : ι → List μ → List μ → Prop) : Prop where
  keeps : ∀ {k s}, Inv k s → ∀ i, Inv k (kind.step i s).2
  sends : ∀ {k s}, Inv k s → ∀ i, ∀ m ∈ (kind.step i s).1, Own k m
  silent : ∀ {j k s m}, j ≠ k → Own j m → Inv k s → (kind.step (kind.hear m) s).1 = []
  unmoved : ∀ {j k s t m}, j ≠ k → Own j m → Inv k s → R k s t →
    R k (kind.step (kind.hear m) s).2 t
  alike : ∀ {k s t}, Inv k s → R k s t → ∀ i,
    Same i (kind.step i s).1 (kind.step i t).1 ∧ R k (kind.step i s).2 (kind.step i t).2

section Separate

variable [DecidableEq κ] {kind : StationKind σ ι μ} {Inv : κ → σ → Prop} {Own : κ → μ → Prop}
  {R : κ → σ → σ → Prop} {Same : ι → List μ → List μ → Prop} {line : Line κ σ μ}

/-- The stations are as they should be, and the messages that wait are their own. -/
structure Line.Sound (Inv : κ → σ → Prop) (Own : κ → μ → Prop) (line : Line κ σ μ) : Prop where
  state : ∀ k, Inv k (line.state k)
  queue : ∀ k, ∀ m ∈ line.queue k, Own k m

theorem Line.mem_queue_of_mem_left {e : LineEvent κ ι μ} {k : κ} {m : μ}
    (h : m ∈ line.left e k) : m ∈ line.queue k := by
  rw [left] at h
  cases hmessage : e.message k with
  | none => rwa [hmessage] at h
  | some m' =>
      rw [hmessage] at h
      exact List.mem_of_mem_tail h

/-- Every event keeps the line sound. -/
theorem Separate.sound_after (sep : Separate kind Inv Own R Same) (h : line.Sound Inv Own)
    (e : LineEvent κ ι μ) : (line.after kind e).Sound Inv Own := by
  constructor
  · intro k
    cases hslot : e.slot kind.hear k with
    | none =>
        simp only [Line.after, hslot]
        exact h.state k
    | some slot =>
        simp only [Line.after, hslot]
        exact sep.keeps (h.state k) _
  · intro k m hm
    cases hslot : e.slot kind.hear k with
    | none =>
        simp only [Line.after, hslot] at hm
        exact h.queue k m (Line.mem_queue_of_mem_left hm)
    | some slot =>
        simp only [Line.after, hslot, List.mem_append] at hm
        rcases hm with hm | hm
        · exact h.queue k m (Line.mem_queue_of_mem_left hm)
        · exact sep.sends (h.state k) _ m hm

theorem Separate.sound_run (sep : Separate kind Inv Own R Same) (h : line.Sound Inv Own)
    (events : List (LineEvent κ ι μ)) : (line.run kind events).Sound Inv Own := by
  induction events generalizing line with
  | nil => exact h
  | cons e events ih => exact ih (sep.sound_after h e)

/-- A property of every event that a sound line allows holds in every run. -/
theorem Separate.everyEvent (sep : Separate kind Inv Own R Same) (h : line.Sound Inv Own)
    {P : Line κ σ μ → LineEvent κ ι μ → Prop}
    (hevent : ∀ {line e}, Line.Sound Inv Own line → line.Allows e → P line e)
    {events : List (LineEvent κ ι μ)} (hlegal : line.Legal kind events) :
    line.EveryEvent kind P events := by
  induction events generalizing line with
  | nil => trivial
  | cons e events ih => exact ⟨hevent h hlegal.1, ih (sep.sound_after h e) hlegal.2⟩

/-- What waits is still there once an event has happened to another station. -/
theorem Line.queue_after_of_slot {e : LineEvent κ ι μ} {k : κ}
    (hslot : ∀ slot, e.slot kind.hear k = some slot →
      (kind.step slot.input (line.state k)).1 = []) :
    (line.after kind e).queue k = line.left e k := by
  cases h : e.slot kind.hear k with
  | none => simp [after, h]
  | some slot => simp [after, h, hslot slot h]

/-- What a station sends, no station answers. -/
theorem Separate.queue_after_sent (sep : Separate kind Inv Own R Same) (h : line.Sound Inv Own)
    {j : κ} {m : μ} (hallows : line.Allows (.sent j m : LineEvent κ ι μ)) (k : κ) :
    (line.after kind (.sent j m)).queue k = line.left (.sent j m : LineEvent κ ι μ) k := by
  apply Line.queue_after_of_slot
  intro slot hslot
  simp only [LineEvent.slot] at hslot
  split at hslot
  · cases hslot
  · next hjk =>
      cases hslot
      exact sep.silent hjk (h.queue j m (List.mem_of_mem_head? hallows)) (h.state k)

/-- What a station sends is its own. -/
theorem Separate.own_of_sent (sep : Separate kind Inv Own R Same) (h : line.Sound Inv Own)
    {events : List (LineEvent κ ι μ)} (hlegal : line.Legal kind events) {k : κ} {m : μ}
    (hsent : .sent k m ∈ events) : Own k m := by
  induction events generalizing line with
  | nil => cases hsent
  | cons e events ih =>
      obtain ⟨hallows, hrest⟩ := hlegal
      rcases List.mem_cons.mp hsent with rfl | hsent
      · exact h.queue k m (List.mem_of_mem_head? hallows)
      · exact ih (sep.sound_after h e) hrest hsent

/-- What is inserted into the run of a station is a message of another. -/
theorem exists_of_inserted_mem_slotsOf {hear : μ → ι} {k : κ} {events : List (LineEvent κ ι μ)}
    {i : ι} (h : .inserted i ∈ slotsOf hear k events) :
    ∃ j m, j ≠ k ∧ i = hear m ∧ .sent j m ∈ events := by
  obtain ⟨e, he, hslot⟩ := List.mem_filterMap.mp h
  cases e with
  | input j i' =>
      simp only [LineEvent.slot] at hslot
      split at hslot <;> cases hslot
  | outside m => cases hslot
  | sent j m =>
      simp only [LineEvent.slot] at hslot
      split at hslot
      · cases hslot
      · next hjk =>
          cases hslot
          exact ⟨j, m, hjk, rfl, he⟩

/-- If nothing that is inserted is answered, and everything else is answered the
same, what is answered in all is the same. -/
theorem Undisturbed.flatten_eq {slots : List (Slot ι)} {answers alone : List (List μ)}
    (h : Undisturbed (· = []) (fun _ => Eq) slots answers alone) :
    answers.flatten = alone.flatten := by
  induction h with
  | nil => rfl
  | own head _ ih => rw [List.flatten_cons, List.flatten_cons, head, ih]
  | inserted head _ ih => rw [List.flatten_cons, head, ih, List.nil_append]

/-- To each station, a run is its run without the others: it answers nothing that
they send, answers everything else alike, and ends up alike. -/
theorem Separate.yields_station (sep : Separate kind Inv Own R Same) (h : line.Sound Inv Own)
    {events : List (LineEvent κ ι μ)} (hlegal : line.Legal kind events) (k : κ) {t : σ}
    (hst : R k (line.state k) t) :
    Yields (runAll (total kind.step) (ownInputs (slotsOf kind.hear k events))) t
      fun alone t' => R k ((line.run kind events).state k) t' ∧ ∃ answers,
        Undisturbed (· = []) Same (slotsOf kind.hear k events) answers alone ∧
        line.queue k ++ answers.flatten = sentBy k events ++ (line.run kind events).queue k := by
  have hforeign : ∀ s t i, (Inv k s ∧ R k s t) → (∃ j m, j ≠ k ∧ i = kind.hear m ∧ Own j m) →
      Yields (total kind.step i) s fun a s' => a = [] ∧ Inv k s' ∧ R k s' t := by
    rintro s t i ⟨hs, hst⟩ ⟨j, m, hjk, rfl, hown⟩
    exact yields_total.mpr ⟨sep.silent hjk hown hs, sep.keeps hs _, sep.unmoved hjk hown hs hst⟩
  have hown : ∀ s t i, (Inv k s ∧ R k s t) → Yields (total kind.step i) s fun a s' =>
      Yields (total kind.step i) t fun b t' => Same i a b ∧ Inv k s' ∧ R k s' t' := by
    rintro s t i ⟨hs, hst⟩
    have halike := sep.alike hs hst i
    exact yields_total.mpr (yields_total.mpr ⟨halike.1, sep.keeps hs i, halike.2⟩)
  have hslots : ∀ i, .inserted i ∈ slotsOf kind.hear k events →
      ∃ j m, j ≠ k ∧ i = kind.hear m ∧ Own j m := by
    intro i hi
    obtain ⟨j, m, hjk, hhear, hsent⟩ := exists_of_inserted_mem_slotsOf hi
    exact ⟨j, m, hjk, hhear, sep.own_of_sent h hlegal hsent⟩
  have hinserted := yields_runAll_inserted hforeign hown ⟨h.state k, hst⟩ _ hslots
  obtain ⟨answers, s', hrun, hs', hqueue⟩ := line.yields_station hlegal k
  apply (hinserted.of_run_eq hrun).mono
  rintro alone t' ⟨hundisturbed, -, hst'⟩
  exact ⟨hs' ▸ hst', answers, hundisturbed, hqueue⟩

end Separate

end AutomationBoard.Program
