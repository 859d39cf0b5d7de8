import K1801.Library.Effects

/-! # Programs that never raise a measure of the bus -/

namespace K1801.Library.Program

variable {ρ ω β ε α γ : Type} {O : Operations ρ ω}

def NeverRaises (μ : β → Nat) (m : Program O β ε α) : Prop := ∀ s, μ (m.run s).state.bus ≤ μ s.bus

namespace NeverRaises

variable {μ : β → Nat} {m n : Program O β ε α} {f : α → Program O β ε γ}

@[grind ←] theorem pure (a : α) : (Pure.pure a : Program O β ε α).NeverRaises μ := fun _ => Nat.le_refl _

@[grind ←] theorem read (g : Traced ρ β ω → α) : (Program.read g : Program O β ε α).NeverRaises μ :=
  fun _ => Nat.le_refl _

@[grind ←] theorem fail (e : ε) : (Program.fail e : Program O β ε α).NeverRaises μ := fun _ => Nat.le_refl _

@[grind ←] theorem perform (op : ω) : (Program.perform op : Program O β ε Unit).NeverRaises μ := by
  intro s
  rw [run_perform]
  split <;> exact Nat.le_refl _

theorem onBus {g : ρ → β → α × β} (h : ∀ r b, μ (g r b).2 ≤ μ b) :
    (Program.onBus g : Program O β ε α).NeverRaises μ := fun s => h s.core s.bus

@[grind ←] theorem bind (hm : m.NeverRaises μ) (hf : ∀ a, (f a).NeverRaises μ) : (m >>= f).NeverRaises μ := by
  intro s
  have hfirst := hm s
  rw [run_bind]
  cases hrun : m.run s with
  | done a s' =>
    rw [hrun] at hfirst
    exact Nat.le_trans (hf a s') hfirst
  | exit s' | stuck e s' =>
    rw [hrun] at hfirst
    exact hfirst

theorem ite {c : Prop} [Decidable c] (hm : m.NeverRaises μ) (hn : n.NeverRaises μ) :
    (if c then m else n).NeverRaises μ := by
  split
  · exact hm
  · exact hn

@[grind ←] theorem when {c : Prop} [Decidable c] {m : Program O β ε Unit} (hm : m.NeverRaises μ) :
    (Program.when c m).NeverRaises μ :=
  ite hm (pure ())

end NeverRaises

end K1801.Library.Program
