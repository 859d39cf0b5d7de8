import Mathlib.Logic.Function.Basic

/-! # Imperative programs over logged operations

The state of a machine is a core and a bus. The core changes only by operations, each
with an enabling condition, and every operation performed is logged. A program carries
the proof that it moves the core along such operations, so an invariant of the
operations is an invariant of every program, and a property of what a run did to the
core is a property of its log.

A program returns a value, leaves the enclosing routine early, or gets stuck because a
resource bound was used up. Bounded recursion makes every program a total function; a
routine that never returns is one that is stuck for every bound.
-/

namespace K1801.Library

/-! ## Outcomes -/

/-- The three ways a run can end. Every one of them carries the state reached. -/
inductive Outcome (ε σ α : Type) where
  | done (value : α) (state : σ)
  | exit (state : σ)
  | stuck (reason : ε) (state : σ)

namespace Outcome

variable {ε σ α β : Type}

def state : Outcome ε σ α → σ
  | done _ s | exit s | stuck _ s => s

@[simp] theorem state_done (a : α) (s : σ) : (done a s : Outcome ε σ α).state = s := rfl
@[simp] theorem state_exit (s : σ) : (exit s : Outcome ε σ α).state = s := rfl
@[simp] theorem state_stuck (e : ε) (s : σ) : (stuck e s : Outcome ε σ α).state = s := rfl

/-- Continue a run that returned; the other two endings propagate. -/
def andThen : Outcome ε σ α → (α → σ → Outcome ε σ β) → Outcome ε σ β
  | done a s, k => k a s
  | exit s, _ => exit s
  | stuck e s, _ => stuck e s

@[simp] theorem andThen_done (a : α) (s : σ) (k : α → σ → Outcome ε σ β) :
    (done a s).andThen k = k a s := rfl
@[simp] theorem andThen_exit (s : σ) (k : α → σ → Outcome ε σ β) :
    (exit s : Outcome ε σ α).andThen k = exit s := rfl
@[simp] theorem andThen_stuck (e : ε) (s : σ) (k : α → σ → Outcome ε σ β) :
    (stuck e s : Outcome ε σ α).andThen k = stuck e s := rfl

theorem andThen_assoc {γ : Type} (o : Outcome ε σ α) (f : α → σ → Outcome ε σ β)
    (g : β → σ → Outcome ε σ γ) :
    (o.andThen f).andThen g = o.andThen fun a s => (f a s).andThen g := by
  cases o <;> rfl

/-- Leaving early counts as returning. -/
def catchExit : Outcome ε σ Unit → Outcome ε σ Unit
  | done _ s | exit s => done () s
  | stuck e s => stuck e s

@[simp] theorem state_catchExit (o : Outcome ε σ Unit) : o.catchExit.state = o.state := by
  cases o <;> rfl

end Outcome

/-! ## Operations -/

/-- What can happen to a core of type `ρ`: operations `ω` and when they may happen. -/
structure Operations (ρ ω : Type) where
  enabled : ω → ρ → Bool
  apply : ω → ρ → ρ

namespace Operations

variable {ρ ω : Type} (O : Operations ρ ω)

/-- A sequence of enabled operations, the latest first. -/
inductive Run : ρ → List ω → ρ → Prop
  | nil (r : ρ) : Run r [] r
  | cons {r r' : ρ} {ops : List ω} (op : ω) :
      Run r ops r' → O.enabled op r' = true → Run r (op :: ops) (O.apply op r')

/-- The state after a list of operations, the latest first. -/
def replay (ops : List ω) (r : ρ) : ρ := ops.foldr O.apply r

@[simp] theorem replay_nil (r : ρ) : O.replay [] r = r := rfl

@[simp] theorem replay_cons (op : ω) (ops : List ω) (r : ρ) :
    O.replay (op :: ops) r = O.apply op (O.replay ops r) := rfl

theorem replay_append (ops ops' : List ω) (r : ρ) :
    O.replay (ops ++ ops') r = O.replay ops (O.replay ops' r) := List.foldr_append

variable {O}

theorem Run.eq_replay {r r' : ρ} {ops : List ω} (h : O.Run r ops r') : r' = O.replay ops r := by
  induction h with
  | nil => rfl
  | cons op _ _ ih => rw [replay_cons, ← ih]

theorem Run.single {op : ω} {r : ρ} (h : O.enabled op r = true) : O.Run r [op] (O.apply op r) :=
  .cons op (.nil r) h

theorem Run.append {r r' r'' : ρ} {ops ops' : List ω} (h : O.Run r ops r')
    (h' : O.Run r' ops' r'') : O.Run r (ops' ++ ops) r'' := by
  induction h' with
  | nil => exact h
  | cons op _ hop ih => exact .cons op ih hop

/-- What every operation satisfying `S` preserves, a run of such operations preserves. -/
theorem Run.preserves {P : ρ → Prop} {S : ω → Prop}
    (step : ∀ op r, S op → O.enabled op r = true → P r → P (O.apply op r))
    {r r' : ρ} {ops : List ω} (h : O.Run r ops r') (hS : ∀ op ∈ ops, S op) (hr : P r) : P r' := by
  induction h with
  | nil => exact hr
  | cons op _ hop ih =>
    have hop' : S op := hS op (by simp)
    exact step op _ hop' hop (ih fun o ho => hS o (by simp [ho]))

theorem Run.invariant {P : ρ → Prop}
    (step : ∀ op r, O.enabled op r = true → P r → P (O.apply op r))
    {r r' : ρ} {ops : List ω} (h : O.Run r ops r') (hr : P r) : P r' :=
  h.preserves (S := fun _ => True) (fun op r _ => step op r) (fun _ _ => trivial) hr

/-- Under an invariant, what every operation satisfies when it happens holds of the whole
    log. The operations a run may use can themselves be restricted to `S`. -/
theorem Run.log_forall {P : ρ → Prop} {S T : ω → Prop}
    (step : ∀ op r, S op → O.enabled op r = true → P r → P (O.apply op r) ∧ T op)
    {r r' : ρ} {ops : List ω} (h : O.Run r ops r') (hS : ∀ op ∈ ops, S op) (hr : P r) :
    ∀ op ∈ ops, T op := by
  induction h with
  | nil => simp
  | cons op hrun hop ih =>
    have hS' : ∀ o ∈ _, S o := fun o ho => hS o (List.mem_cons_of_mem op ho)
    have hP := hrun.preserves (fun op r s e p => (step op r s e p).1) hS' hr
    intro o ho
    rcases List.mem_cons.1 ho with rfl | ho
    · exact (step _ _ (hS o (by simp)) hop hP).2
    · exact ih hS' o ho

end Operations

/-! ## Programs -/

structure Traced (ρ β ω : Type) where
  core : ρ
  bus : β
  log : List ω := []

/-- The operations performed since `s`, the latest first. -/
def Traced.since {ρ β ω : Type} (s s' : Traced ρ β ω) : List ω :=
  s'.log.take (s'.log.length - s.log.length)

variable {ρ ω : Type}

/-- `s'` is reached from `s` by operations on the core, logged on top of `s.log`, and by
    arbitrary changes of the bus. -/
def Moves (O : Operations ρ ω) {β : Type} (s s' : Traced ρ β ω) : Prop :=
  ∃ ops, s'.log = ops ++ s.log ∧ O.Run s.core ops s'.core

namespace Moves

variable {O : Operations ρ ω} {β : Type} {s s' s'' : Traced ρ β ω}

theorem refl (s : Traced ρ β ω) : Moves O s s := ⟨[], rfl, .nil _⟩

theorem trans (h : Moves O s s') (h' : Moves O s' s'') : Moves O s s'' := by
  obtain ⟨ops, hlog, hrun⟩ := h
  obtain ⟨ops', hlog', hrun'⟩ := h'
  exact ⟨ops' ++ ops, by rw [hlog', hlog, List.append_assoc], hrun.append hrun'⟩

/-- The core moves along the operations performed since. -/
theorem run (h : Moves O s s') : O.Run s.core (s.since s') s'.core := by
  obtain ⟨ops, hlog, hrun⟩ := h
  have hsince : s.since s' = ops := by simp [Traced.since, hlog]
  rwa [hsince]

theorem bus (s : Traced ρ β ω) (b : β) : Moves O s { s with bus := b } := ⟨[], rfl, .nil _⟩

theorem log_eq (h : Moves O s s') : s'.log = s.since s' ++ s.log := by
  obtain ⟨ops, hlog, _⟩ := h
  have hsince : s.since s' = ops := by simp [Traced.since, hlog]
  rwa [hsince]

theorem since_trans (h : Moves O s s') (h' : Moves O s' s'') :
    s.since s'' = s'.since s'' ++ s.since s' := by
  have hlog := (h.trans h').log_eq
  rw [h'.log_eq, h.log_eq, ← List.append_assoc] at hlog
  exact (List.append_cancel_right hlog).symm

theorem invariant {P : ρ → Prop}
    (step : ∀ op r, O.enabled op r = true → P r → P (O.apply op r))
    (h : Moves O s s') (hs : P s.core) : P s'.core := by
  obtain ⟨_, _, hrun⟩ := h
  exact hrun.invariant step hs

end Moves

structure Program (O : Operations ρ ω) (β ε α : Type) where
  run : Traced ρ β ω → Outcome ε (Traced ρ β ω) α
  moves : ∀ s, Moves O s (run s).state

namespace Program

variable {O : Operations ρ ω} {β ε α γ : Type}

theorem moves_andThen {s : Traced ρ β ω} {o : Outcome ε (Traced ρ β ω) α}
    (f : α → Program O β ε γ) (h : Moves O s o.state) :
    Moves O s (o.andThen fun a => (f a).run).state := by
  cases o with
  | done a s' => exact h.trans ((f a).moves s')
  | exit => exact h
  | stuck => exact h

instance : Monad (Program O β ε) where
  pure a := ⟨fun s => .done a s, Moves.refl⟩
  bind m f := ⟨fun s => (m.run s).andThen fun a => (f a).run, fun s => moves_andThen f (m.moves s)⟩

/-- Observe the state. -/
def read (f : Traced ρ β ω → α) : Program O β ε α := ⟨fun s => .done (f s) s, Moves.refl⟩

/-- Perform and log an operation; one that is not enabled does not happen. -/
def perform (op : ω) : Program O β ε Unit where
  run s :=
    if O.enabled op s.core then .done () { s with core := O.apply op s.core, log := op :: s.log }
    else .done () s
  moves s := by
    by_cases h : O.enabled op s.core = true
    · simpa [h] using ⟨[op], rfl, .single h⟩
    · simpa [h] using Moves.refl s

/-- Let the bus act. It sees the core and cannot change it. -/
def onBus (f : ρ → β → α × β) : Program O β ε α :=
  ⟨fun s => .done (f s.core s.bus).1 { s with bus := (f s.core s.bus).2 }, fun s => Moves.bus s _⟩

/-- Leave the enclosing routine. -/
def leave : Program O β ε α := ⟨fun s => .exit s, Moves.refl⟩

def fail (e : ε) : Program O β ε α := ⟨fun s => .stuck e s, Moves.refl⟩

/-- Run a program for its effect only when the condition holds. -/
def when (c : Prop) [Decidable c] (m : Program O β ε Unit) : Program O β ε Unit :=
  if c then m else pure ()

/-- The boundary of a routine: leaving early inside it is returning from it. -/
def routine (m : Program O β ε Unit) : Program O β ε Unit :=
  ⟨fun s => (m.run s).catchExit, fun s => by simpa using m.moves s⟩

@[simp] theorem run_pure (a : α) (s : Traced ρ β ω) :
    (pure a : Program O β ε α).run s = .done a s := rfl

@[simp] theorem run_bind (m : Program O β ε α) (f : α → Program O β ε γ) (s : Traced ρ β ω) :
    (m >>= f).run s = (m.run s).andThen fun a => (f a).run := rfl

@[simp] theorem run_read (f : Traced ρ β ω → α) (s : Traced ρ β ω) :
    (read f : Program O β ε α).run s = .done (f s) s := rfl

@[simp] theorem run_onBus (f : ρ → β → α × β) (s : Traced ρ β ω) :
    (onBus f : Program O β ε α).run s =
      .done (f s.core s.bus).1 { s with bus := (f s.core s.bus).2 } := rfl

@[simp] theorem run_leave (s : Traced ρ β ω) : (leave : Program O β ε α).run s = .exit s := rfl

@[simp] theorem run_fail (e : ε) (s : Traced ρ β ω) :
    (fail e : Program O β ε α).run s = .stuck e s := rfl

@[simp] theorem run_ite (c : Prop) [Decidable c] (m n : Program O β ε α) (s : Traced ρ β ω) :
    (if c then m else n).run s = if c then m.run s else n.run s := by
  split <;> rfl

@[simp] theorem run_when (c : Prop) [Decidable c] (m : Program O β ε Unit) (s : Traced ρ β ω) :
    (when c m).run s = if c then m.run s else .done () s := by
  unfold when
  split <;> rfl

theorem run_perform (op : ω) (s : Traced ρ β ω) :
    (perform op : Program O β ε Unit).run s =
      if O.enabled op s.core then .done () { s with core := O.apply op s.core, log := op :: s.log }
      else .done () s := rfl

@[simp] theorem run_routine (m : Program O β ε Unit) (s : Traced ρ β ω) :
    (routine m).run s = (m.run s).catchExit := rfl

/-- An invariant of the operations is an invariant of every program. -/
theorem invariant {P : ρ → Prop}
    (step : ∀ op r, O.enabled op r = true → P r → P (O.apply op r))
    (m : Program O β ε α) (s : Traced ρ β ω) (hs : P s.core) : P (m.run s).state.core :=
  (m.moves s).invariant step hs

end Program

end K1801.Library
