import K1801.Library.Program

/-! # What a program can do

`Within S F` bounds a program from outside: every operation it performs satisfies `S`, and `F`
says how else than by returning it may end, and in which states. The rules follow the way programs
are put together.
-/

namespace K1801.Library

namespace Outcome

variable {ε σ α β : Type}

theorem andThen_eq_done {o : Outcome ε σ α} {k : α → σ → Outcome ε σ β} {b : β} {s : σ} :
    o.andThen k = .done b s ↔ ∃ a s', o = .done a s' ∧ k a s' = .done b s := by
  cases o with
  | done a s' =>
    constructor
    · intro h
      exact ⟨a, s', rfl, h⟩
    · rintro ⟨_, _, ⟨⟩, h⟩
      exact h
  | exit | stuck =>
    constructor
    · intro h
      cases h
    · rintro ⟨_, _, ⟨⟩, _⟩

theorem andThen_eq_stuck {o : Outcome ε σ α} {k : α → σ → Outcome ε σ β} {e : ε} {s : σ} :
    o.andThen k = .stuck e s ↔
      o = .stuck e s ∨ ∃ a s', o = .done a s' ∧ k a s' = .stuck e s := by
  cases o with
  | done a s' =>
    constructor
    · intro h
      exact .inr ⟨a, s', rfl, h⟩
    · rintro (h | ⟨_, _, ⟨⟩, h⟩)
      · cases h
      · exact h
  | exit => simp
  | stuck => simp

theorem andThen_eq_exit {o : Outcome ε σ α} {k : α → σ → Outcome ε σ β} {s : σ} :
    o.andThen k = .exit s ↔ o = .exit s ∨ ∃ a s', o = .done a s' ∧ k a s' = .exit s := by
  cases o with
  | done a s' =>
    constructor
    · intro h
      exact .inr ⟨a, s', rfl, h⟩
    · rintro (h | ⟨_, _, ⟨⟩, h⟩)
      · cases h
      · exact h
  | exit => simp
  | stuck => simp

theorem catchExit_eq_stuck {o : Outcome ε σ Unit} {e : ε} {s : σ} :
    o.catchExit = .stuck e s ↔ o = .stuck e s := by
  cases o <;> simp [catchExit]

end Outcome

namespace Program

variable {ρ ω β ε α γ : Type} {O : Operations ρ ω}

/-- A sequence that returns: its first part returns, and so does the rest from there. -/
theorem bind_done {m : Program O β ε α} {f : α → Program O β ε γ} {s s'' : Traced ρ β ω} {b : γ} :
    (m >>= f).run s = .done b s'' ↔ ∃ a s', m.run s = .done a s' ∧ (f a).run s' = .done b s'' :=
  Outcome.andThen_eq_done

/-- An ending that `F` allows in every state. -/
def Allows (F : Option ε → ρ → Prop) (ending : Option ε) : Prop := ∀ r, F ending r

/-- The program performs only operations of `S`. It leaves the enclosing routine only in states with
    `F none` and gets stuck only in states with `F (some reason)`. -/
structure Within (S : ω → Prop) (F : Option ε → ρ → Prop) (m : Program O β ε α) : Prop where
  ops : ∀ s, ∃ ops, (m.run s).state.log = ops ++ s.log ∧ ∀ op ∈ ops, S op
  leaves : ∀ s s', m.run s = .exit s' → F none s'.core
  stuck : ∀ s e s', m.run s = .stuck e s' → F (some e) s'.core

namespace Within

variable {S T : ω → Prop} {F G : Option ε → ρ → Prop} {m : Program O β ε α} {f : α → Program O β ε γ}

theorem since (h : m.Within S F) (s : Traced ρ β ω) : ∀ op ∈ s.since (m.run s).state, S op := by
  obtain ⟨ops, hlog, hops⟩ := h.ops s
  have hsince : s.since (m.run s).state = ops := by simp [Traced.since, hlog]
  rwa [hsince]

/-- A program along whose operations `P` is kept keeps `P`. -/
theorem preserves {P : ρ → Prop} (h : m.Within S F)
    (step : ∀ op r, S op → O.enabled op r = true → P r → P (O.apply op r))
    (s : Traced ρ β ω) (hs : P s.core) : P (m.run s).state.core :=
  (m.moves s).run.preserves step (h.since s) hs

theorem mono (h : m.Within S F) (hS : ∀ op, S op → T op) (hF : ∀ e r, F e r → G e r) : m.Within T G where
  ops s := by
    obtain ⟨ops, hlog, hops⟩ := h.ops s
    exact ⟨ops, hlog, fun op hop => hS op (hops op hop)⟩
  leaves s s' hs := hF none _ (h.leaves s s' hs)
  stuck s e s' hs := hF (some e) _ (h.stuck s e s' hs)

@[grind ←] theorem pure (a : α) : (Pure.pure a : Program O β ε α).Within S F where
  ops s := ⟨[], rfl, by simp⟩
  leaves s s' h := by cases h
  stuck s e s' h := by cases h

@[grind ←] theorem read (g : Traced ρ β ω → α) : (Program.read g : Program O β ε α).Within S F where
  ops s := ⟨[], rfl, by simp⟩
  leaves s s' h := by cases h
  stuck s e s' h := by cases h

@[grind ←] theorem onBus (g : ρ → β → α × β) : (Program.onBus g : Program O β ε α).Within S F where
  ops s := ⟨[], rfl, by simp⟩
  leaves s s' h := by cases h
  stuck s e s' h := by cases h

@[grind ←] theorem leave (hF : Allows F none) : (Program.leave : Program O β ε α).Within S F where
  ops s := ⟨[], rfl, by simp⟩
  leaves s s' h := hF _
  stuck s e s' h := by cases h

@[grind ←] theorem fail {e : ε} (hF : Allows F (some e)) : (Program.fail e : Program O β ε α).Within S F where
  ops s := ⟨[], rfl, by simp⟩
  leaves s s' h := by cases h
  stuck s e' s' h := by
    cases h
    exact hF _

@[grind ←] theorem perform {op : ω} (hop : S op) : (Program.perform op : Program O β ε Unit).Within S F where
  ops s := by
    rw [run_perform]
    split
    · exact ⟨[op], rfl, by simpa using hop⟩
    · exact ⟨[], rfl, by simp⟩
  leaves s s' h := by
    rw [run_perform] at h
    split at h <;> cases h
  stuck s e s' h := by
    rw [run_perform] at h
    split at h <;> cases h

@[grind ←] theorem bind (hm : m.Within S F) (hf : ∀ a, (f a).Within S F) : (m >>= f).Within S F where
  ops s := by
    obtain ⟨ops, hlog, hops⟩ := hm.ops s
    rw [run_bind]
    cases hrun : m.run s with
    | done a s' =>
      rw [hrun] at hlog
      obtain ⟨ops', hlog', hops'⟩ := (hf a).ops s'
      refine ⟨ops' ++ ops, ?_, ?_⟩
      · rw [Outcome.andThen_done, hlog', List.append_assoc]
        exact congrArg _ hlog
      · intro op hop
        rcases List.mem_append.1 hop with h | h
        · exact hops' op h
        · exact hops op h
    | exit s' =>
      rw [hrun] at hlog
      exact ⟨ops, hlog, hops⟩
    | stuck e s' =>
      rw [hrun] at hlog
      exact ⟨ops, hlog, hops⟩
  leaves s s' h := by
    rw [run_bind] at h
    rcases Outcome.andThen_eq_exit.1 h with h | ⟨a, s₁, _, h⟩
    · exact hm.leaves s s' h
    · exact (hf a).leaves s₁ s' h
  stuck s e s' h := by
    rw [run_bind] at h
    rcases Outcome.andThen_eq_stuck.1 h with h | ⟨a, s₁, _, h⟩
    · exact hm.stuck s e s' h
    · exact (hf a).stuck s₁ e s' h

@[grind ←] theorem map (g : α → γ) (hm : m.Within S F) : (g <$> m).Within S F :=
  bind hm fun a => pure (g a)

theorem ite {c : Prop} [Decidable c] {m n : Program O β ε α} (hm : m.Within S F)
    (hn : n.Within S F) : (if c then m else n).Within S F := by
  split
  · exact hm
  · exact hn

@[grind ←] theorem when {c : Prop} [Decidable c] {m : Program O β ε Unit} (hm : m.Within S F) :
    (Program.when c m).Within S F :=
  ite hm (pure ())

/-- A routine returns where its body leaves. -/
theorem routine {m : Program O β ε Unit} (hm : m.Within S G) (hF : ∀ e r, G (some e) r → F (some e) r) :
    (Program.routine m).Within S F where
  ops s := by
    rw [run_routine, Outcome.state_catchExit]
    exact hm.ops s
  leaves s s' h := by
    rw [run_routine] at h
    cases hrun : m.run s <;> rw [hrun] at h <;> cases h
  stuck s e s' h := hF e _ (hm.stuck s e s' (Outcome.catchExit_eq_stuck.1 h))

end Within

end Program

end K1801.Library
