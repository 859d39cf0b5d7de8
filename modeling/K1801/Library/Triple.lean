import K1801.Library.Effects

/-! # Triples over logged operations

`Triple A G P Q m` speaks about the runs of `m` whose operations all satisfy `A`. Started where
`P` holds, such a run ends where `Q` holds, however it ends, and its operations satisfy `G`.
-/

namespace K1801.Library

namespace Program

variable {ρ ω β ε α γ : Type} {O : Operations ρ ω}

structure Triple (A G : ω → Prop) (P Q : ρ → Prop) (m : Program O β ε α) : Prop where
  ends : ∀ s : Traced ρ β ω, P s.core → (∀ op ∈ s.since (m.run s).state, A op) → Q (m.run s).state.core
  ops : ∀ s : Traced ρ β ω, P s.core → (∀ op ∈ s.since (m.run s).state, A op) →
    ∀ op ∈ s.since (m.run s).state, G op

namespace Triple

variable {A G : ω → Prop} {P P' Q Q' R : ρ → Prop} {m : Program O β ε α} {f : α → Program O β ε γ}

theorem mono (h : m.Triple A G P Q) (hP : ∀ r, P' r → P r) (hQ : ∀ r, Q r → Q' r) :
    m.Triple A G P' Q' where
  ends s hs hops := hQ _ (h.ends s (hP _ hs) hops)
  ops s hs hops := h.ops s (hP _ hs) hops

theorem absurd (h : ∀ r, ¬ P r) : m.Triple A G P Q where
  ends _ hs _ := False.elim (h _ hs)
  ops _ hs _ := False.elim (h _ hs)

/-- A program that performs only operations of `S` keeps what those keep. -/
theorem of_within {S : ω → Prop} {F : Option ε → ρ → Prop} (h : m.Within S F)
    (step : ∀ op r, S op → A op → O.enabled op r = true → P r → P (O.apply op r) ∧ G op) :
    m.Triple A G P P where
  ends s hs hops := by
    have hboth : ∀ op ∈ s.since (m.run s).state, S op ∧ A op := fun op hop =>
      ⟨h.since s op hop, hops op hop⟩
    exact (m.moves s).run.preserves (fun op r hop ho hr => (step op r hop.1 hop.2 ho hr).1) hboth hs
  ops s hs hops := by
    have hboth : ∀ op ∈ s.since (m.run s).state, S op ∧ A op := fun op hop =>
      ⟨h.since s op hop, hops op hop⟩
    exact (m.moves s).run.log_forall (fun op r hop ho hr => step op r hop.1 hop.2 ho hr) hboth hs

theorem pure (a : α) : (Pure.pure a : Program O β ε α).Triple A G P P where
  ends s hs _ := hs
  ops s hs _ := by simp [Traced.since]

theorem perform {op : ω} (henabled : ∀ r, P r → O.enabled op r = true)
    (hstep : ∀ r, P r → A op → Q (O.apply op r) ∧ G op) :
    (Program.perform op : Program O β ε Unit).Triple A G P Q where
  ends s hs hops := by
    rw [run_perform, if_pos (henabled _ hs)] at hops ⊢
    have hA : A op := hops op (by simp [Traced.since])
    exact (hstep _ hs hA).1
  ops s hs hops := by
    rw [run_perform, if_pos (henabled _ hs)] at hops ⊢
    have hA : A op := hops op (by simp [Traced.since])
    simpa [Traced.since] using (hstep _ hs hA).2

/-- The operations of a sequence are those of its parts. -/
theorem bind (hm : m.Triple A G P Q) (hf : ∀ a, (f a).Triple A G Q R) (hQ : ∀ r, Q r → R r) :
    (m >>= f).Triple A G P R := by
  have hboth (s : Traced ρ β ω) (hs : P s.core)
      (hops : ∀ op ∈ s.since ((m >>= f).run s).state, A op) :
      R ((m >>= f).run s).state.core ∧ ∀ op ∈ s.since ((m >>= f).run s).state, G op := by
    have hmoves := m.moves s
    have hend := hm.ends s hs
    have hlog := hm.ops s hs
    rw [run_bind] at hops ⊢
    cases hrun : m.run s with
    | done a s' =>
      rw [hrun] at hops hmoves hend hlog
      rw [Outcome.andThen_done, hmoves.since_trans ((f a).moves s')] at hops ⊢
      have hfirst := fun op hop => hops op (List.mem_append_right _ hop)
      have hrest := fun op hop => hops op (List.mem_append_left _ hop)
      refine ⟨(hf a).ends s' (hend hfirst) hrest, fun op hop => ?_⟩
      rcases List.mem_append.1 hop with hop | hop
      · exact (hf a).ops s' (hend hfirst) hrest op hop
      · exact hlog hfirst op hop
    | exit | stuck =>
      rw [hrun] at hops hend hlog
      exact ⟨hQ _ (hend hops), hlog hops⟩
  exact ⟨fun s hs hops => (hboth s hs hops).1, fun s hs hops => (hboth s hs hops).2⟩

/-- What follows an observation knows the state that was observed. -/
theorem read {g : Traced ρ β ω → α}
    (h : ∀ s : Traced ρ β ω, P s.core → (f (g s)).Triple A G (· = s.core) Q) :
    (Program.read g >>= f).Triple A G P Q where
  ends s hs hops := (h s hs).ends s rfl hops
  ops s hs hops := (h s hs).ops s rfl hops

theorem ite {c : Prop} [Decidable c] {m n : Program O β ε α} (hm : c → m.Triple A G P Q)
    (hn : ¬ c → n.Triple A G P Q) : (if c then m else n).Triple A G P Q := by
  split
  · rename_i hc
    exact hm hc
  · rename_i hc
    exact hn hc

theorem when {c : Prop} [Decidable c] {m : Program O β ε Unit} (hm : m.Triple A G P P) :
    (Program.when c m).Triple A G P P :=
  ite (fun _ => hm) fun _ => pure ()

theorem routine {m : Program O β ε Unit} (hm : m.Triple A G P Q) :
    (Program.routine m).Triple A G P Q where
  ends s hs hops := by
    rw [run_routine, Outcome.state_catchExit] at hops ⊢
    exact hm.ends s hs hops
  ops s hs hops := by
    rw [run_routine, Outcome.state_catchExit] at hops ⊢
    exact hm.ops s hs hops

end Triple

end Program

end K1801.Library
