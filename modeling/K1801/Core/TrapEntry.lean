import K1801.Core.Effects
import K1801.Core.Frames

/-! # When a trap entry completes

A trap entry reads the two words of its vector and pushes the old PSW and PC. It completes when
those four accesses answer, and does nothing when an abort is already pending.
-/

namespace K1801.Core

open Library

variable {β α : Type}

/-! ## The abort flag -/

/-- No memory access and no trap entry clears the abort flag. -/
theorem Micro.inTrap_ne_clear {op : Micro} (h : op.inTrap = true) : op ≠ .setAbort false := by
  rintro rfl
  cases h

theorem Micro.fAbort_kept {op : Micro} {r : Regs} (hop : op ≠ .setAbort false)
    (hr : r.fAbort = true) : (op.apply r).fAbort = true := by
  cases op with
  | setAbort v =>
    cases v with
    | true => rfl
    | false => exact absurd rfl hop
  | _ => exact (Micro.fAbort_apply (by simp) r).trans hr

/-- Nothing but a step itself clears the abort flag. -/
abbrev KeepsAbort (p : M β α) : Prop := p.Within (· ≠ .setAbort false) fun _ _ => True

theorem nested_keepsAbort (h : Host β) (n : Nat) :
    (Env.nested h n).Within (· ≠ .setAbort false) fun _ _ => True :=
  .nested h (fun _ hop => Micro.inTrap_ne_clear hop) (fun _ => trivial) n

theorem KeepsAbort.fAbort {p : M β α} (hp : KeepsAbort p) (m : Machine β)
    (hm : m.core.fAbort = true) : (p.run m).state.core.fAbort = true :=
  hp.preserves (P := fun r => r.fAbort = true) (fun _ _ hop _ hr => Micro.fAbort_kept hop hr) m hm

/-! ## Answered accesses -/

/-- The program returns and no abort is pending afterwards. -/
def Answers (p : M β α) (m : Machine β) (a : α) (m' : Machine β) : Prop :=
  p.run m = .done a m' ∧ m'.core.fAbort = false

/-- No abort after a run means none before it. -/
theorem Answers.clear_before {p : M β α} (hp : KeepsAbort p) {m m' : Machine β} {a : α}
    (h : Answers p m a m') : m.core.fAbort = false := by
  by_contra hm
  have hset := hp.fAbort m (by simpa using hm)
  rw [h.1] at hset
  exact absurd (hset.symm.trans h.2) (by decide)

/-- An access whose abort flag is tested at once: the program answers when the access does and
    the rest does. -/
theorem answers_checked {γ : Type} {p : M β α} {x : M β γ} {y : α → M β γ} (hx : KeepsAbort x)
    {m m' : Machine β} {b : γ} :
    Answers (do let a ← p; if ← aborted then x else y a) m b m' ↔
      ∃ a m₁, Answers p m a m₁ ∧ Answers (y a) m₁ b m' := by
  have hguard (a : α) (m₁ : Machine β) :
      (do if ← aborted then x else y a : M β γ).run m₁ =
        if m₁.core.fAbort = true then x.run m₁ else (y a).run m₁ := by
    simp [aborted]
  constructor
  · rintro ⟨hrun, hclear⟩
    obtain ⟨a, m₁, hp, hrest⟩ := Outcome.andThen_eq_done.1 hrun
    rw [hguard] at hrest
    split at hrest
    · rename_i hset
      rw [Answers.clear_before hx ⟨hrest, hclear⟩] at hset
      cases hset
    · rename_i hset
      exact ⟨a, m₁, ⟨hp, Bool.eq_false_iff.2 hset⟩, hrest, hclear⟩
  · rintro ⟨a, m₁, ⟨hp, hm₁⟩, hrest, hclear⟩
    refine ⟨Outcome.andThen_eq_done.2 ⟨a, m₁, hp, ?_⟩, hclear⟩
    rw [hguard, hm₁]
    exact hrest

/-- The state after an operation that happens. -/
def Machine.after (m : Machine β) (op : Micro) : Machine β :=
  { m with core := op.apply m.core, log := op :: m.log }

theorem run_perform_enabled {op : Micro} {m : Machine β} (hop : op.enabled m.core = true) :
    (perform op : M β Unit).run m = .done () (m.after op) := by
  unfold perform
  rw [Program.run_perform, if_pos hop]
  rfl

@[simp] theorem setR_run (i : BitVec 3) (v : Word) (m : Machine β) :
    (setR i v : M β Unit).run m = .done () (m.after (.setR i v)) := rfl

@[simp] theorem getR_run (i : BitVec 3) (m : Machine β) :
    (getR i : M β Word).run m = .done (m.core.r i) m := rfl

/-! ## Vector entry -/

/-- The state in which a vector frame is pushed. -/
def Machine.entered (vec oldPc oldPsw psw : Word) (m : Machine β) : Machine β :=
  (m.after (.enterVector vec oldPsw psw)).after (.vectorPush oldPc oldPsw)

/-- The two vector words and the two words of the frame answer. -/
structure Env.EntryAnswers (e : Env β) (vec oldPc oldPsw : Word) (m : Machine β) (psw pc : Word)
    (m₁ m₂ m₃ m₄ : Machine β) : Prop where
  fetchPsw : Answers (e.coreLoadWordVector (vec + 2)) m psw m₁
  fetchPc : Answers (e.coreLoadWordVector vec) m₁ pc m₂
  pushPsw : Answers (e.pushw oldPsw) (m₂.entered vec oldPc oldPsw psw) () m₃
  pushPc : Answers (e.pushw oldPc) m₃ () m₄

theorem coreTakeVector_answers {e : Env β} {vec oldPc oldPsw : Word} {m m' : Machine β} :
    Answers (e.coreTakeVector vec oldPc oldPsw) m () m' ↔
      ∃ psw pc m₁ m₂ m₃ m₄, e.EntryAnswers vec oldPc oldPsw m psw pc m₁ m₂ m₃ m₄ ∧
        m' = (m₄.after .vectorPushed).after (.setR 7 pc) := by
  have hpure : KeepsAbort (pure () : M β Unit) := .pure ()
  have hpushed : KeepsAbort (perform .vectorPushed : M β Unit) := .perform nofun
  have henter (psw : Word) (m₂ : Machine β) (k : M β Unit) :
      Answers (do perform (.enterVector vec oldPsw psw); perform (.vectorPush oldPc oldPsw); k) m₂ () m' ↔
        Answers k (m₂.entered vec oldPc oldPsw psw) () m' := Iff.rfl
  have hfinish (pc : Word) (m₄ : Machine β) :
      Answers (do perform .vectorPushed; setR 7 pc) m₄ () m' ↔
        m₄.core.fAbort = false ∧ m' = (m₄.after .vectorPushed).after (.setR 7 pc) := by
    constructor
    · rintro ⟨hrun, hclear⟩
      cases hrun
      exact ⟨hclear, rfl⟩
    · rintro ⟨hclear, rfl⟩
      exact ⟨rfl, hclear⟩
  unfold Env.coreTakeVector
  simp only [answers_checked hpure, henter, answers_checked hpushed, hfinish]
  constructor
  · rintro ⟨psw, m₁, hpsw, pc, m₂, hpc, ⟨⟩, m₃, hpush, ⟨⟩, m₄, hpush', -, rfl⟩
    exact ⟨psw, pc, m₁, m₂, m₃, m₄, ⟨hpsw, hpc, hpush, hpush'⟩, rfl⟩
  · rintro ⟨psw, pc, m₁, m₂, m₃, m₄, ⟨hpsw, hpc, hpush, hpush'⟩, rfl⟩
    exact ⟨psw, m₁, hpsw, pc, m₂, hpc, (), m₃, hpush, (), m₄, hpush', hpush'.2, rfl⟩

/-- The entry through `vec` went through: the PSW was loaded from the second word of the vector,
    the PC is the first word, and no abort has taken its place. -/
structure Env.Takes (e : Env β) (vec : Word) (m m' : Machine β) : Prop where
  words : ∃ psw pc m₁ m₂, (e.coreLoadWordVector (vec + 2)).run m = .done psw m₁ ∧
    (e.coreLoadWordVector vec).run m₁ = .done pc m₂ ∧
    .enterVector vec m.core.psw psw ∈ m.since m' ∧ m'.core.r 7 = pc
  clear : m'.core.fAbort = false

theorem Machine.moves_after {m : Machine β} {op : Micro} (hop : op.enabled m.core = true) :
    Moves micro m (m.after op) := ⟨[op], rfl, .single hop⟩

theorem Machine.since_after {m m' : Machine β} {op : Micro} (hop : op.enabled m'.core = true)
    (h : Moves micro m m') : m.since (m'.after op) = op :: m.since m' := by
  rw [h.since_trans (moves_after hop)]
  simp [Traced.since, Machine.after]

theorem Answers.moves {p : M β α} {m m' : Machine β} {a : α} (h : Answers p m a m') :
    Moves micro m m' := by
  have hmoves := p.moves m
  rwa [h.1] at hmoves

theorem takeVectorHere_run (e : Env β) (vec : Word) (m : Machine β) :
    (e.takeVectorHere vec).run m = (e.coreTakeVector vec (m.core.r 7) m.core.psw).run m := rfl

theorem takeVectorHere_returns {h : Host β} {n : Nat} {vec : Word} {m m' : Machine β} :
    ((Env.nested h n).takeVectorHere vec).run m ≠ .exit m' := by
  have hwithin : ((Env.nested h n).takeVectorHere vec).Within (fun _ => True) fun ending _ => ending ≠ none :=
    (Env.Within.nested h (fun _ _ => trivial) (fun _ => by simp) n).takeVectorHere vec
  intro hexit
  exact hwithin.leaves m m' hexit rfl

/-- The four accesses of an entry through `vec` from the current PC and PSW answer. -/
def Env.EntryAnswered (e : Env β) (vec : Word) (m : Machine β) : Prop :=
  ∃ psw pc m₁ m₂ m₃ m₄, e.EntryAnswers vec (m.core.r 7) m.core.psw m psw pc m₁ m₂ m₃ m₄

theorem takeVectorHere_takes {e : Env β} {vec : Word} {m : Machine β} :
    (∃ m', (e.takeVectorHere vec).run m = .done () m' ∧ e.Takes vec m m') ↔
      e.EntryAnswered vec m := by
  rw [takeVectorHere_run]
  constructor
  · rintro ⟨m', hrun, htakes⟩
    obtain ⟨psw, pc, m₁, m₂, m₃, m₄, hentry, -⟩ := coreTakeVector_answers.1 ⟨hrun, htakes.clear⟩
    exact ⟨psw, pc, m₁, m₂, m₃, m₄, hentry⟩
  · rintro ⟨psw, pc, m₁, m₂, m₃, m₄, hentry⟩
    obtain ⟨hrun, hclear⟩ := coreTakeVector_answers.2 ⟨psw, pc, m₁, m₂, m₃, m₄, hentry, rfl⟩
    refine ⟨_, hrun, ⟨psw, pc, m₁, m₂, hentry.fetchPsw.1, hentry.fetchPc.1, ?_, ?_⟩, hclear⟩
    · have hfetch := hentry.fetchPsw.moves.trans hentry.fetchPc.moves
      have hpush := hentry.pushPsw.moves.trans hentry.pushPc.moves
      have henter : Moves micro m₂ (m₂.entered vec (m.core.r 7) m.core.psw psw) :=
        (Machine.moves_after rfl).trans (Machine.moves_after rfl)
      have hpushed := (hfetch.trans henter).trans hpush
      rw [Machine.since_after rfl (hpushed.trans (Machine.moves_after rfl)),
        Machine.since_after rfl hpushed, (hfetch.trans henter).since_trans hpush,
        Machine.entered, Machine.since_after rfl (hfetch.trans (Machine.moves_after rfl)),
        Machine.since_after rfl hfetch]
      simp
    · exact Function.update_self (7 : BitVec 3) pc m₄.core.r

end K1801.Core
