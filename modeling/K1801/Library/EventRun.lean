/-! # Runs over events

A machine takes one event after the other. A property that a step keeps just when the event is harmless
in the state before it holds throughout a run just when every event of the run is.
-/

namespace K1801.Library

variable {σ ε : Type} (step : σ → ε → σ)

def runEvents (s : σ) (evs : List ε) : σ := evs.foldl step s

/-- The property in every state that the run passes through. -/
def Throughout (P : σ → Prop) (s : σ) (evs : List ε) : Prop := ∀ pre, pre <+: evs → P (runEvents step s pre)

/-- The condition for every event of the run, in the state that the event finds. -/
def AtEach (C : σ → ε → Prop) (s : σ) (evs : List ε) : Prop :=
  ∀ pre ev, pre ++ [ev] <+: evs → C (runEvents step s pre) ev

variable {step} {P V : σ → Prop} {C : σ → ε → Prop}

theorem throughout_nil {s : σ} : Throughout step P s [] ↔ P s := by
  constructor
  · exact fun h => h [] (List.prefix_refl _)
  · intro h pre hpre
    rw [List.prefix_nil.1 hpre]
    exact h

theorem throughout_cons {s : σ} {ev : ε} {evs : List ε} :
    Throughout step P s (ev :: evs) ↔ P s ∧ Throughout step P (step s ev) evs := by
  constructor
  · intro h
    exact ⟨h [] (List.nil_prefix), fun pre hpre => h (ev :: pre) (List.cons_prefix_cons.2 ⟨rfl, hpre⟩)⟩
  · rintro ⟨hs, hrest⟩ pre hpre
    cases pre with
    | nil => exact hs
    | cons a pre =>
      obtain ⟨rfl, htail⟩ := List.cons_prefix_cons.1 hpre
      exact hrest pre htail

theorem atEach_nil {s : σ} : AtEach step C s [] := by
  intro pre ev hpre
  simp at hpre

theorem atEach_cons {s : σ} {ev : ε} {evs : List ε} :
    AtEach step C s (ev :: evs) ↔ C s ev ∧ AtEach step C (step s ev) evs := by
  constructor
  · intro h
    refine ⟨h [] ev (List.cons_prefix_cons.2 ⟨rfl, List.nil_prefix⟩), fun pre ev' hpre => ?_⟩
    exact h (ev :: pre) ev' (List.cons_prefix_cons.2 ⟨rfl, hpre⟩)
  · rintro ⟨hev, hrest⟩ pre ev' hpre
    cases pre with
    | nil =>
      obtain ⟨rfl, -⟩ := List.cons_prefix_cons.1 hpre
      exact hev
    | cons a pre =>
      obtain ⟨rfl, htail⟩ := List.cons_prefix_cons.1 hpre
      exact hrest pre ev' htail

/-- As long as the events are harmless the invariant `V` holds, and with it the property. -/
theorem throughout_iff_of_invariant (hP : ∀ s, V s → P s) (hgood : ∀ s ev, V s → C s ev → V (step s ev))
    (hbad : ∀ s ev, V s → P (step s ev) → C s ev) {s : σ} (hs : V s) (evs : List ε) :
    Throughout step P s evs ↔ AtEach step C s evs := by
  induction evs generalizing s with
  | nil => exact ⟨fun _ => atEach_nil, fun _ => throughout_nil.2 (hP s hs)⟩
  | cons ev evs ih =>
    rw [throughout_cons, atEach_cons]
    constructor
    · rintro ⟨-, hrest⟩
      have hev := hbad s ev hs (hrest [] List.nil_prefix)
      exact ⟨hev, (ih (hgood s ev hs hev)).1 hrest⟩
    · rintro ⟨hev, hrest⟩
      exact ⟨hP s hs, (ih (hgood s ev hs hev)).2 hrest⟩

/-- The invariant `V` may help to tell which events keep the property. -/
theorem throughout_iff_atEach (hV : ∀ s ev, V s → V (step s ev))
    (hstep : ∀ s ev, V s → P s → (P (step s ev) ↔ C s ev)) {s : σ} (hs : V s) (hP : P s) (evs : List ε) :
    Throughout step P s evs ↔ AtEach step C s evs :=
  throughout_iff_of_invariant (V := fun s => V s ∧ P s) (fun _ h => h.2)
    (fun s ev h hev => ⟨hV s ev h.1, (hstep s ev h.1 h.2).2 hev⟩) (fun s ev h hp => (hstep s ev h.1 h.2).1 hp)
    ⟨hs, hP⟩ evs

/-! ## Machines that may leave the model

After an event without a next state there is nothing more to say about the run.
-/

section Partial

variable {σ ε : Type} {step : σ → ε → Option σ} {P V : σ → Prop} {C : σ → ε → Prop}

def orLeave (step : σ → ε → Option σ) (s : Option σ) (ev : ε) : Option σ := s.bind fun s => step s ev

/-- A condition on the state, if there is one. -/
def Present (P : σ → Prop) (s : Option σ) : Prop := ∀ s', s = some s' → P s'

theorem present_some {s : σ} : Present P (some s) ↔ P s :=
  ⟨fun h => h s rfl, fun h _ hs => Option.some.inj hs ▸ h⟩

theorem present_none : Present P none := fun _ h => nomatch h

theorem throughout_partial_iff (hP : ∀ s, V s → P s) (hgood : ∀ s ev, V s → C s ev → Present V (step s ev))
    (hbad : ∀ s ev, V s → Present P (step s ev) → C s ev) {s : σ} (hs : V s) (evs : List ε) :
    Throughout (orLeave step) (Present P) (some s) evs ↔
      AtEach (orLeave step) (fun s ev => Present (fun s => C s ev) s) (some s) evs := by
  refine throughout_iff_of_invariant (V := Present V) ?_ ?_ ?_ (present_some.2 hs) evs
  · exact fun s h s' hs' => hP s' (h s' hs')
  · intro s ev h hev
    cases s with
    | none => exact present_none
    | some s => exact hgood s ev (h s rfl) (hev s rfl)
  · intro s ev h hp
    cases s with
    | none => exact present_none
    | some s =>
      intro s' hs'
      cases hs'
      exact hbad s ev (h s rfl) hp

/-- What every step keeps holds throughout. -/
theorem throughout_partial (hV : ∀ s ev, V s → Present V (step s ev)) {s : σ} (hs : V s) (evs : List ε) :
    Throughout (orLeave step) (Present V) (some s) evs :=
  (throughout_partial_iff (C := fun _ _ => True) (fun _ h => h) (fun s ev h _ => hV s ev h)
    (fun _ _ _ _ => trivial) hs evs).2 fun _ _ _ _ _ => trivial

theorem Throughout.imp {σ ε : Type} {step : σ → ε → σ} {P Q : σ → Prop} (h : ∀ s, P s → Q s) {s : σ} {evs : List ε}
    (hP : Throughout step P s evs) : Throughout step Q s evs := fun pre hpre => h _ (hP pre hpre)

end Partial

end K1801.Library
