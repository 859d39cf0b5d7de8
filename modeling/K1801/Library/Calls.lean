import K1801.Library.Effects

/-! # Programs that call a handler

A client is a program over the answers to its calls, whatever these answers are. From a given state it
either returns without a call, or reaches its first call in a state that no answer can have influenced.
The program that is left after that call is its tail.
-/

namespace K1801.Library.Program

variable {ρ ω β ε α γ κ T : Type} {O : Operations ρ ω}

abbrev Handler (O : Operations ρ ω) (β ε T : Type) := T → Program O β ε Unit

abbrev Client (O : Operations ρ ω) (β ε T α : Type) := Handler O β ε T → Program O β ε α

/-- The client returns without a call. -/
def Returns (F : Client O β ε T α) (s : Traced ρ β ω) (a : α) (s' : Traced ρ β ω) : Prop :=
  ∀ h, (F h).run s = .done a s'

/-- The client makes its first call `t` in the state `s₀`. -/
def Calls (F : Client O β ε T α) (s : Traced ρ β ω) (t : T) (s₀ : Traced ρ β ω) (tail : Client O β ε T α) : Prop :=
  ∀ h, (F h).run s = (do h t; tail h).run s₀

section Unique

variable {F : Client O β ε T α} {s s₀ s₀' s' : Traced ρ β ω} {t t' : T} {tail tail' : Client O β ε T α} {a : α}

open Classical in
/-- A handler that tells one call from the others. -/
noncomputable def telling (e : ε) (t : T) : Handler O β ε T := fun t' => if t' = t then fail e else leave

theorem Calls.unique [Inhabited ε] (h : Calls F s t s₀ tail) (h' : Calls F s t' s₀' tail') : t' = t ∧ s₀' = s₀ := by
  have hrun := (h (telling default t)).symm.trans (h' (telling default t))
  simp only [telling, run_bind, if_true, run_fail, Outcome.andThen_stuck] at hrun
  split at hrun
  · next heq =>
    injection hrun with _ hstate
    exact ⟨heq, hstate.symm⟩
  · cases hrun

theorem Calls.not_returns [Inhabited ε] (h : Calls F s t s₀ tail) : ¬ Returns F s a s' := by
  intro hreturns
  have hrun := (h (telling default t)).symm.trans (hreturns (telling default t))
  simp only [telling, run_bind, if_true, run_fail, Outcome.andThen_stuck] at hrun
  cases hrun

end Unique

/-- From `s` the client returns as `ret` says or makes a first call as `call` says. -/
def Settles (F : Client O β ε T α) (s : Traced ρ β ω) (ret : α → Traced ρ β ω → Prop)
    (call : T → Traced ρ β ω → Client O β ε T α → Prop) : Prop :=
  (∃ a s', Returns F s a s' ∧ ret a s') ∨ ∃ t s₀ tail, Calls F s t s₀ tail ∧ call t s₀ tail

namespace Settles

variable {F : Client O β ε T α} {G : α → Client O β ε T γ} {s : Traced ρ β ω}
  {ret : α → Traced ρ β ω → Prop} {call : T → Traced ρ β ω → Client O β ε T α → Prop}
  {ret' : γ → Traced ρ β ω → Prop} {call' : T → Traced ρ β ω → Client O β ε T γ → Prop}

theorem returns {a : α} {s' : Traced ρ β ω} (h : Returns F s a s') (hret : ret a s') : Settles F s ret call :=
  .inl ⟨a, s', h, hret⟩

theorem pure (a : α) (hret : ret a s) : Settles (fun _ : Handler O β ε T => Pure.pure a) s ret call :=
  returns (fun _ => rfl) hret

theorem calls {t : T} {ret : Unit → Traced ρ β ω → Prop} {call : T → Traced ρ β ω → Client O β ε T Unit → Prop}
    (hcall : call t s fun _ => Pure.pure ()) : Settles (fun h : Handler O β ε T => h t) s ret call := by
  refine .inr ⟨t, s, _, fun h => ?_, hcall⟩
  rw [run_bind]
  cases (h t).run s <;> rfl

theorem mono {ret₂ : α → Traced ρ β ω → Prop} {call₂ : T → Traced ρ β ω → Client O β ε T α → Prop}
    (h : Settles F s ret call) (hret : ∀ a s', ret a s' → ret₂ a s')
    (hcall : ∀ t s₀ tail, call t s₀ tail → call₂ t s₀ tail) : Settles F s ret₂ call₂ := by
  rcases h with ⟨a, s', hrun, hholds⟩ | ⟨t, s₀, tail, hrun, hholds⟩
  · exact .inl ⟨a, s', hrun, hret a s' hholds⟩
  · exact .inr ⟨t, s₀, tail, hrun, hcall t s₀ tail hholds⟩

theorem bind (h : Settles F s ret call) (hret : ∀ a s', ret a s' → Settles (G a) s' ret' call')
    (hcall : ∀ t s₀ tail, call t s₀ tail → call' t s₀ fun h => do let a ← tail h; G a h) :
    Settles (fun h => do let a ← F h; G a h) s ret' call' := by
  rcases h with ⟨a, s', hrun, hholds⟩ | ⟨t, s₀, tail, hrun, hholds⟩
  · rcases hret a s' hholds with ⟨b, s'', hrest, hend⟩ | ⟨t, s₀, tail, hrest, hend⟩
    · refine .inl ⟨b, s'', fun h => ?_, hend⟩
      rw [run_bind, hrun h, Outcome.andThen_done, hrest h]
    · refine .inr ⟨t, s₀, tail, fun h => ?_, hend⟩
      rw [run_bind, hrun h, Outcome.andThen_done, hrest h]
  · refine .inr ⟨t, s₀, _, fun h => ?_, hcall t s₀ tail hholds⟩
    rw [run_bind, hrun h, run_bind, run_bind, Outcome.andThen_assoc]
    rfl

/-- What the client did, together with what is said of it. -/
theorem keep (h : Settles F s ret call) :
    Settles F s (fun a s' => Returns F s a s' ∧ ret a s') fun t s₀ tail => Calls F s t s₀ tail ∧ call t s₀ tail := by
  rcases h with ⟨a, s', hrun, hholds⟩ | ⟨t, s₀, tail, hrun, hholds⟩
  · exact .inl ⟨a, s', hrun, hrun, hholds⟩
  · exact .inr ⟨t, s₀, tail, hrun, hrun, hholds⟩

/-- A program that makes no call, before the rest. -/
theorem step {p : Program O β ε α} {a : α} {s' : Traced ρ β ω} (hp : p.run s = .done a s')
    (h : Settles (G a) s' ret' call') : Settles (fun h => do let a ← p; G a h) s ret' call' := by
  have hfirst : Settles (fun _ : Handler O β ε T => p) s (fun b s₁ => b = a ∧ s₁ = s') fun _ _ _ => False :=
    returns (fun _ => hp) ⟨rfl, rfl⟩
  refine hfirst.bind ?_ ?_
  · rintro b s₁ ⟨rfl, rfl⟩
    exact h
  · rintro t s₀ tail ⟨⟩

theorem ite {c : Prop} {dec : Handler O β ε T → Decidable c} {F' : Client O β ε T α} (h : c → Settles F s ret call)
    (h' : ¬ c → Settles F' s ret call) : Settles (fun h => @ite _ c (dec h) (F h) (F' h)) s ret call := by
  by_cases hc : c
  · simpa only [if_pos hc] using h hc
  · simpa only [if_neg hc] using h' hc

/-- The first call is the one that `call` speaks of. -/
theorem of_calls [Inhabited ε] {t : T} {s₀ : Traced ρ β ω} {tail : Client O β ε T α} (h : Settles F s ret call)
    (hcalls : Calls F s t s₀ tail) : ∃ tail', Calls F s t s₀ tail' ∧ call t s₀ tail' := by
  rcases h with ⟨a, s', hrun, -⟩ | ⟨t', s₀', tail', hrun, hholds⟩
  · exact absurd hrun hcalls.not_returns
  · obtain ⟨rfl, rfl⟩ := hcalls.unique hrun
    exact ⟨tail', hrun, hholds⟩

end Settles

end K1801.Library.Program
