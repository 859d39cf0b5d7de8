import K1801.Core.Quiet
import K1801.Core.AbortAtomicity

/-! # The state in which an instruction is executed

`core_step` clears the abort flag and the mark of an explicit PSW write, and keeps the PSW in
`psw_before`, before it fetches. None of the three has changed when the instruction body starts.
-/

namespace K1801.Core

open Library

variable {β : Type}

/-- What holds when the body of an instruction starts. -/
structure AtInstruction (r : Regs) : Prop where
  clear : r.fAbort = false
  implicitPsw : r.dcj11ExplicitPswWrite = false
  pswBefore : r.pswBefore = r.psw

/-- The fields that `AtInstruction` speaks of. -/
def Regs.atDispatch (r : Regs) : Bool × Bool × Word × Word :=
  (r.fAbort, r.dcj11ExplicitPswWrite, r.pswBefore, r.psw)

theorem AtInstruction.congr {r r' : Regs} (h : AtInstruction r) (heq : r'.atDispatch = r.atDispatch) :
    AtInstruction r' := by
  simp only [Regs.atDispatch, Prod.mk.injEq] at heq
  obtain ⟨habort, hexplicit, hbefore, hpsw⟩ := heq
  exact ⟨habort.trans h.clear, hexplicit.trans h.implicitPsw, by rw [hbefore, hpsw, h.pswBefore]⟩

namespace Env

/-- `core_step` up to the dispatch on the opcode. -/
def stepStart (e : Env β) : M β (Bool × Bool × Word) := do
  let skipTrace := (← regs).fTrap
  perform .stepBegin
  leaveClearingAbort
  let deferHalt ← e.haltAtStart
  e.waitAtStart
  let op ← e.fetch
  return (skipTrace, deferHalt, op)

/-- `core_step` is its start, the instruction and its end. -/
theorem stepBody_run (e : Env β) (k : Nat) (m : Machine β) :
    (e.stepBody k).run m = (e.stepStart.run m).andThen fun (skipTrace, deferHalt, op) => (do
      let l ← e.execute (.decode (← regs).model.isVm2 op)
      e.stepEnd k skipTrace deferHalt l : M β Unit).run := by
  unfold stepBody stepStart
  simp only [Program.run_bind, Outcome.andThen_assoc]
  rfl

theorem takeHalt_never (e : Env β) : NeverReturns e.takeHalt := by
  unfold takeHalt
  refine .bind_right fun _ => .bind_right fun r => .bind_right fun _ => ?_
  exact .ite .leave (.bind_right fun _ => .leave)

theorem haltAtStart_done {e : Env β} {m m' : Machine β} {deferHalt : Bool}
    (h : e.haltAtStart.run m = .done deferHalt m') : m'.core.atDispatch = m.core.atDispatch := by
  unfold haltAtStart at h
  obtain ⟨r, m₀, hread, h⟩ := Program.bind_done.1 h
  cases hread
  simp only [Program.run_ite] at h
  split at h
  · cases h
    rfl
  split at h
  · cases h
    rfl
  split at h
  · cases h
    rfl
  · obtain ⟨⟨⟩, m₁, hhalt, -⟩ := Program.bind_done.1 h
    exact absurd hhalt (takeHalt_never e m () m₁)

theorem waitAtStart_done {e : Env β} {m m' : Machine β} (h : e.waitAtStart.run m = .done () m') :
    m' = m := by
  unfold waitAtStart at h
  obtain ⟨r, m₀, hread, h⟩ := Program.bind_done.1 h
  cases hread
  rw [Program.run_ite] at h
  split at h
  · cases h
    rfl
  · obtain ⟨⟨⟩, m₁, -, h⟩ := Program.bind_done.1 h
    obtain ⟨v, m₂, -, h⟩ := Program.bind_done.1 h
    cases v with
    | none => cases h
    | some v =>
      obtain ⟨r, m₃, -, h⟩ := Program.bind_done.1 h
      split at h
      · cases h
      · obtain ⟨⟨⟩, m₄, -, h⟩ := Program.bind_done.1 h
        obtain ⟨⟨⟩, m₅, -, h⟩ := Program.bind_done.1 h
        cases h

theorem fetch_done {e : Env β} (he : e.TrapsAbort) {m m' : Machine β} {op : Word}
    (h : e.fetch.run m = .done op m') : m'.core.atDispatch = m.core.atDispatch := by
  unfold fetch at h
  obtain ⟨⟨⟩, m₁, hbegin, h⟩ := Program.bind_done.1 h
  cases hbegin
  obtain ⟨pc, m₂, hpc, h⟩ := Program.bind_done.1 h
  cases hpc
  obtain ⟨r, m₃, hmodel, h⟩ := Program.bind_done.1 h
  cases hmodel
  obtain ⟨⟨⟩, m₄, hadvance, h⟩ := Program.bind_done.1 h
  obtain ⟨word, m₅, hload, h⟩ := Program.bind_done.1 h
  obtain ⟨⟨⟩, m₆, hleave, hrest⟩ := Program.bind_done.1 h
  obtain ⟨rfl, hclear⟩ := leaveClearingAbort_done hleave
  have hstart (b : Build) (r : Regs) : ((Micro.fetchBegin b).apply r).atDispatch = r.atDispatch :=
    congrArg (fun r => r.atDispatch) (Regs.exceptMmu_mmuMmr1InstructionStart b { r with instrPc := r.r 7 })
  have hloaded : m₆.core.atDispatch = m₄.core.atDispatch :=
    congrArg (fun r => r.atDispatch) ((Quiet.coreLoadWordEx he _ _ _).keeps _ _ _ ⟨hload, hclear⟩)
  have hadvanced : m₄.core.atDispatch = m.core.atDispatch := by
    rw [Program.run_when] at hadvance
    split at hadvance
    · cases hadvance
      exact hstart _ _
    · cases hadvance
      exact hstart _ _
  rw [← hadvanced, ← hloaded]
  rw [Program.run_bind, run_perform_enabled rfl, Outcome.andThen_done, Program.run_bind,
    run_perform_enabled rfl, Outcome.andThen_done, Program.run_bind, Program.run_when] at hrest
  split at hrest
  · cases hrest
    rfl
  · cases hrest
    rfl

/-- Every instruction of a step starts in such a state. -/
theorem stepStart_atInstruction {e : Env β} (he : e.TrapsAbort) {m m' : Machine β} {x : Bool × Bool × Word}
    (h : e.stepStart.run m = .done x m') : AtInstruction m'.core := by
  unfold stepStart at h
  obtain ⟨r, m₁, hread, h⟩ := Program.bind_done.1 h
  cases hread
  obtain ⟨⟨⟩, m₂, hbegin, h⟩ := Program.bind_done.1 h
  cases hbegin
  obtain ⟨⟨⟩, m₃, hleave, hrest⟩ := Program.bind_done.1 h
  obtain ⟨rfl, hclear⟩ := leaveClearingAbort_done hleave
  obtain ⟨deferHalt, m₄, hhalt, h⟩ := Program.bind_done.1 hrest
  obtain ⟨⟨⟩, m₅, hwait, h⟩ := Program.bind_done.1 h
  obtain ⟨op, m₆, hfetch, h⟩ := Program.bind_done.1 h
  cases h
  rw [waitAtStart_done hwait] at hfetch
  have hbegun : AtInstruction (m.after .stepBegin).core := ⟨hclear, rfl, rfl⟩
  exact (hbegun.congr (haltAtStart_done hhalt)).congr (fetch_done he hfetch)

end Env

end K1801.Core
