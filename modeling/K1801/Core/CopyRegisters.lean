import K1801.Core.AbortAtomicity

/-! # Copy registers of the VM2

CPC and CPSW follow PC and PSW at the end of every step unless both P and H are set. The copy is
made behind `step_end`; a step that returns before it leaves the copies behind.
-/

namespace K1801.Core

open Library

variable {β : Type}

/-- CPC and CPSW are PC and PSW, unless they are locked. -/
def Regs.Tracks (r : Regs) : Prop := r.psw &&& Env.flagHP ≠ Env.flagHP → r.cps = r.psw ∧ r.cpc = r.r 7

/-- What copying and locking depend on. -/
def Regs.tracked (r : Regs) : Model × Word × Word × Word × Word := (r.model, r.psw, r.r 7, r.cps, r.cpc)

theorem Regs.Tracks.congr {r r' : Regs} (h : r.Tracks) (hr : r'.tracked = r.tracked) : r'.Tracks := by
  simp only [tracked, Prod.mk.injEq] at hr
  obtain ⟨-, hpsw, hpc, hcps, hcpc⟩ := hr
  unfold Tracks
  rw [hpsw, hpc, hcps, hcpc]
  exact h

/-! ## Steps that come to their end -/

theorem stepEnd_tracks {e : Env β} {k : Nat} {skipTrace deferHalt : Bool} {l : Locals}
    {m m' : Machine β} (hmodel : m'.core.model.isVm2 = true)
    (hrun : (e.stepEnd k skipTrace deferHalt l).run m = .done () m') : m'.core.Tracks := by
  unfold Env.stepEnd at hrun
  obtain ⟨_, _, _, hrun⟩ := Program.bind_done.1 hrun
  obtain ⟨_, _, _, hrun⟩ := Program.bind_done.1 hrun
  obtain ⟨_, _, _, hrun⟩ := Program.bind_done.1 hrun
  obtain ⟨_, _, _, hrun⟩ := Program.bind_done.1 hrun
  obtain ⟨_, _, _, hrun⟩ := Program.bind_done.1 hrun
  obtain ⟨_, _, _, hrun⟩ := Program.bind_done.1 hrun
  obtain ⟨_, _, _, hrun⟩ := Program.bind_done.1 hrun
  obtain ⟨_, m₁, _, hrun⟩ := Program.bind_done.1 hrun
  obtain ⟨r, (m₂ : Machine β), hread, hrun⟩ := Program.bind_done.1 hrun
  cases hread
  rw [Program.run_when] at hrun
  split at hrun
  · cases hrun
    intro _
    exact ⟨rfl, rfl⟩
  · rename_i hlocked
    cases hrun
    intro hfree
    exact absurd ⟨hmodel, hfree⟩ hlocked

theorem stepBody_tracks {e : Env β} {k : Nat} {m m' : Machine β} (hmodel : m.core.model.isVm2 = true)
    (hrun : (e.stepBody k).run m = .done () m') : m'.core.Tracks := by
  have hkept := Program.model_run (e.stepBody k) m
  rw [hrun] at hkept
  unfold Env.stepBody at hrun
  obtain ⟨_, _, _, hrun⟩ := Program.bind_done.1 hrun
  obtain ⟨_, _, _, hrun⟩ := Program.bind_done.1 hrun
  obtain ⟨_, _, _, hrun⟩ := Program.bind_done.1 hrun
  obtain ⟨_, _, _, hrun⟩ := Program.bind_done.1 hrun
  obtain ⟨_, _, _, hrun⟩ := Program.bind_done.1 hrun
  obtain ⟨_, _, _, hrun⟩ := Program.bind_done.1 hrun
  obtain ⟨_, _, _, hrun⟩ := Program.bind_done.1 hrun
  obtain ⟨l, _, _, hrun⟩ := Program.bind_done.1 hrun
  exact stepEnd_tracks ((congrArg Model.isVm2 hkept).trans hmodel) hrun

/-! ## Steps that execute nothing -/

/-- The registers when a step looks at the halt line and at WAIT. -/
def Regs.stepStart (r : Regs) : Regs :=
  if r.fHaltSignal ∧ r.fStepDeferHalt then (Micro.setDeferHalt false).apply (Micro.stepBegin.apply r)
  else Micro.stepBegin.apply r

/-- The request the interrupt sources answer with. -/
def Host.request (h : Host β) (r : Regs) (bus : β) : Option Word := h.pollIrq.bind fun poll => (poll r bus).1

/-- A step that clears a pending abort, ignores the halt line in HALT mode, or goes on waiting. -/
inductive Idle (h : Host β) (m : Machine β) : Prop
  | aborted : m.core.fAbort = true → Idle h m
  | halted : m.core.fAbort = false → m.core.fHaltSignal = true → m.core.fStepDeferHalt = false →
      flagIsSet m.core.psw flagH = true → Idle h m
  | waits : m.core.fAbort = false → (m.core.fHaltSignal = true → m.core.fStepDeferHalt = true) →
      m.core.fWait = true →
      (∀ v, h.request m.core.stepStart m.bus = some v → irqAccept m.core v = none) → Idle h m

theorem perform_run {op : Micro} {m : Machine β} (hop : ∀ r, op.enabled r = true) :
    (perform op : M β Unit).run m = .done () (m.after op) := run_perform_enabled (hop _)

theorem stepBody_aborted {e : Env β} {k : Nat} {m : Machine β} (habort : m.core.fAbort = true) :
    (e.stepBody k).run m = .exit ((m.after .stepBegin).after (.setAbort false)) := by
  have hbegin : (perform .stepBegin : M β Unit).run m = .done () (m.after .stepBegin) := rfl
  have hclear : (Env.leaveClearingAbort : M β Unit).run (m.after .stepBegin) =
      .exit ((m.after .stepBegin).after (.setAbort false)) := by
    have hset : (m.after .stepBegin).core.fAbort = true := habort
    simp only [Env.leaveClearingAbort, aborted, Program.run_bind, Program.run_read, Outcome.andThen_done,
      Program.run_when, hset, if_true]
    rfl
  unfold Env.stepBody
  simp only [Program.run_bind, regs, Program.run_read, Outcome.andThen_done, hbegin, hclear,
    Outcome.andThen_exit]

/-- A step without a pending abort gets to the halt line. -/
theorem stepBody_started {e : Env β} {k : Nat} {m : Machine β} (habort : m.core.fAbort = false) :
    (e.stepBody k).run m = (do
      let deferHalt ← e.haltAtStart
      e.waitAtStart
      let op ← e.fetch
      let l ← e.execute (.decode (← regs).model.isVm2 op)
      e.stepEnd k m.core.fTrap deferHalt l : M β Unit).run (m.after .stepBegin) := by
  have hbegin : (perform .stepBegin : M β Unit).run m = .done () (m.after .stepBegin) := rfl
  have hclear : (Env.leaveClearingAbort : M β Unit).run (m.after .stepBegin) =
      .done () (m.after .stepBegin) := by
    have hunset : (m.after .stepBegin).core.fAbort = false := habort
    simp only [Env.leaveClearingAbort, aborted, Program.run_bind, Program.run_read, Outcome.andThen_done,
      Program.run_when, hunset]
    rfl
  unfold Env.stepBody
  rw [Program.run_bind, regs, Program.run_read, Outcome.andThen_done, Program.run_bind, hbegin,
    Outcome.andThen_done, Program.run_bind, hclear, Outcome.andThen_done]

theorem haltAtStart_ignored {e : Env β} {m : Machine β} (hmodel : m.core.model.isVm2 = true)
    (hline : m.core.fHaltSignal = true) (hdefer : m.core.fStepDeferHalt = false)
    (hmode : flagIsSet m.core.psw flagH = true) :
    e.haltAtStart.run m = .exit ((m.after (.setHaltSignal false)).after (.setWait false)) := by
  have hvm1 : ¬ (m.core.model = .k1801vm1 ∧ m.core.psw &&& 0o6000 ≠ 0) := by
    rintro ⟨h, -⟩
    rw [h] at hmodel
    cases hmodel
  have htake : e.takeHalt.run m = .exit ((m.after (.setHaltSignal false)).after (.setWait false)) := by
    have hignore : (m.after (.setHaltSignal false)).core.model.isVm2 = true ∧
        flagIsSet (m.after (.setHaltSignal false)).core.psw flagH = true := ⟨hmodel, hmode⟩
    have hsignal : (perform (.setHaltSignal false) : M β Unit).run m =
        .done () (m.after (.setHaltSignal false)) := rfl
    have hwait : (perform (.setWait false) : M β Unit).run (m.after (.setHaltSignal false)) =
        .done () ((m.after (.setHaltSignal false)).after (.setWait false)) := rfl
    unfold Env.takeHalt
    rw [Program.run_bind, hsignal, Outcome.andThen_done, Program.run_bind, regs, Program.run_read,
      Outcome.andThen_done, Program.run_bind, hwait, Outcome.andThen_done, if_pos hignore,
      Program.run_leave]
  unfold Env.haltAtStart
  simp only [Program.run_bind, regs, Program.run_read, Outcome.andThen_done, hline, hdefer, Bool.not_true,
    Bool.false_eq_true, and_false, if_false, if_neg hvm1, htake, Outcome.andThen_exit]

/-- Without the halt line, or with its service put off, the step goes on to WAIT. -/
theorem haltAtStart_passed {e : Env β} {m : Machine β} (hmodel : m.core.model.isVm2 = true)
    (hline : m.core.fHaltSignal = true → m.core.fStepDeferHalt = true) :
    ∃ deferHalt m₁, e.haltAtStart.run m = .done deferHalt m₁ ∧ m₁.bus = m.bus ∧
      m₁.core = if m.core.fHaltSignal ∧ m.core.fStepDeferHalt then (Micro.setDeferHalt false).apply m.core
        else m.core := by
  unfold Env.haltAtStart
  cases hsignal : m.core.fHaltSignal with
  | false =>
    refine ⟨false, m, ?_, rfl, rfl⟩
    simp [regs, hsignal]
  | true =>
    have hdefer := hline hsignal
    have hperform : (perform (.setDeferHalt false) : M β Unit).run m =
        .done () (m.after (.setDeferHalt false)) := rfl
    refine ⟨true, m.after (.setDeferHalt false), ?_, rfl, ?_⟩
    · simp [regs, hsignal, hdefer, hmodel, hperform]
    · rw [if_pos ⟨rfl, hdefer⟩]
      rfl

theorem corePollIrqAny_vm2 {e : Env β} {m : Machine β} (hmodel : m.core.model.isVm2 = true) :
    ∃ m₁, e.corePollIrqAny.run m = .done (e.host.request m.core m.bus) m₁ ∧ m₁.core = m.core := by
  have hnone : dcj11PirqPoll m.core = none := by
    unfold dcj11PirqPoll
    rw [if_pos]
    rintro h
    rw [h] at hmodel
    cases hmodel
  unfold Env.corePollIrqAny Host.request
  rw [Program.run_bind, regs, Program.run_read, Outcome.andThen_done, hnone]
  cases e.host.pollIrq with
  | none => exact ⟨m, rfl, rfl⟩
  | some poll => exact ⟨_, rfl, rfl⟩

theorem waitAtStart_waits {e : Env β} {m : Machine β} (hmodel : m.core.model.isVm2 = true)
    (hwait : m.core.fWait = true)
    (hnone : ∀ v, e.host.request m.core m.bus = some v → irqAccept m.core v = none) :
    ∃ m₁, e.waitAtStart.run m = .exit m₁ ∧ m₁.core = m.core := by
  obtain ⟨m₁, hpoll, hcore⟩ := corePollIrqAny_vm2 (e := e) hmodel
  have htrace : ¬ (m.core.model = .dcj11 ∧ m.core.psw &&& flagT ≠ 0) := by
    rintro ⟨h, -⟩
    rw [h] at hmodel
    cases hmodel
  refine ⟨m₁, ?_, hcore⟩
  unfold Env.waitAtStart
  simp only [Program.run_bind, regs, Program.run_read, Outcome.andThen_done, hwait, Bool.not_true,
    Bool.false_eq_true, if_false, Program.run_when, if_neg htrace, hpoll]
  cases hrequest : e.host.request m.core m.bus with
  | none => rfl
  | some v =>
    rw [Program.run_bind, Program.run_read, Outcome.andThen_done, hcore, hnone v hrequest]
    rfl

/-- An idle step leaves PC, PSW and their copies alone. -/
theorem Idle.kept {h : Host β} {n k : Nat} {m m' : Machine β} (hidle : Idle h m)
    (hmodel : m.core.model.isVm2 = true) (hrun : (coreStep h n k).run m = .done () m') :
    m'.core.tracked = m.core.tracked := by
  have hexit {m₁ : Machine β} (hbody : ((Env.nested h n).stepBody k).run m = .exit m₁) : m' = m₁ := by
    unfold coreStep at hrun
    rw [Program.run_routine, hbody] at hrun
    cases hrun
    rfl
  cases hidle with
  | aborted habort =>
    rw [hexit (stepBody_aborted habort)]
    rfl
  | halted habort hline hdefer hmode =>
    have hbody := stepBody_started (e := Env.nested h n) (k := k) habort
    rw [Program.run_bind, haltAtStart_ignored (m := m.after .stepBegin) hmodel hline hdefer hmode] at hbody
    rw [hexit hbody]
    rfl
  | waits habort hline hwait hnone =>
    have hbody := stepBody_started (e := Env.nested h n) (k := k) habort
    obtain ⟨deferHalt, m₁, hhalt, hbus, hcore⟩ :=
      haltAtStart_passed (e := Env.nested h n) (m := m.after .stepBegin) hmodel hline
    have hstart : m₁.core = m.core.stepStart := hcore
    obtain ⟨htracked, hstill⟩ :
        m.core.stepStart.tracked = m.core.tracked ∧ m.core.stepStart.fWait = true := by
      unfold Regs.stepStart
      split <;> exact ⟨rfl, hwait⟩
    have hpair := htracked
    simp only [Regs.tracked, Prod.mk.injEq] at hpair
    have haccept (v : Word) : irqAccept m.core.stepStart v = irqAccept m.core v := by
      unfold irqAccept
      rw [hpair.1, hpair.2.1]
    have hrefused : ∀ v, (Env.nested h n).host.request m₁.core m₁.bus = some v →
        irqAccept m₁.core v = none := by
      rw [Env.nested_host, hbus, hstart]
      intro v hv
      rw [haccept]
      exact hnone v hv
    obtain ⟨m₂, hwaits, hcore₂⟩ := waitAtStart_waits (e := Env.nested h n) (m := m₁)
      (by rw [hstart, hpair.1]; exact hmodel) (by rw [hstart]; exact hstill) hrefused
    rw [Program.run_bind, hhalt, Outcome.andThen_done, Program.run_bind, hwaits] at hbody
    rw [hexit hbody, hcore₂, hstart]
    exact htracked

/-! ## Runs -/

/-- The step comes to its end, or executes nothing. -/
def StepTracks (h : Host β) (n k : Nat) (m : Machine β) : Prop :=
  (∃ m', ((Env.nested h n).stepBody k).run m = .done () m') ∨ Idle h m

/-- Steps that come to their end or execute nothing, while the halt line goes up and down. -/
inductive TrackedRun (h : Host β) : Machine β → Machine β → Prop
  | refl (m : Machine β) : TrackedRun h m m
  | step {m m' m'' : Machine β} (n k : Nat) : TrackedRun h m m' → StepTracks h n k m' →
      (coreStep h n k).run m' = .done () m'' → TrackedRun h m m''
  | haltLine {m m' : Machine β} (v : Bool) : TrackedRun h m m' →
      TrackedRun h m { m' with core := { m'.core with fHaltSignal := v } }

/-- A state in which no step is idle. -/
def Regs.Fresh (r : Regs) : Prop :=
  r.fAbort = false ∧ r.fWait = false ∧ flagIsSet r.psw flagH = false

theorem StepTracks.tracks {h : Host β} {n k : Nat} {m m' : Machine β} (hstep : StepTracks h n k m)
    (hmodel : m.core.model.isVm2 = true) (hm : m.core.Tracks ∨ m.core.Fresh)
    (hrun : (coreStep h n k).run m = .done () m') : m'.core.Tracks := by
  rcases hstep with ⟨m₁, hbody⟩ | hidle
  · unfold coreStep at hrun
    rw [Program.run_routine, hbody] at hrun
    cases hrun
    exact stepBody_tracks hmodel hbody
  · rcases hm with hm | ⟨habort, hwait, hmode⟩
    · exact hm.congr (hidle.kept hmodel hrun)
    · cases hidle with
      | aborted h => exact absurd (habort.symm.trans h) (by decide)
      | halted _ _ _ h => exact absurd (hmode.symm.trans h) (by decide)
      | waits _ _ h _ => exact absurd (hwait.symm.trans h) (by decide)

theorem TrackedRun.tracks {h : Host β} {m m' : Machine β} (hrun : TrackedRun h m m')
    (hmodel : m.core.model.isVm2 = true) (hm : m.core.Tracks ∨ m.core.Fresh) :
    m'.core.model.isVm2 = true ∧ (m'.core.Tracks ∨ m'.core.Fresh) := by
  induction hrun with
  | refl => exact ⟨hmodel, hm⟩
  | @step m₁ m₂ n k _ hstep hrun ih =>
    have hkept := Program.model_run (coreStep h n k) m₁
    rw [hrun] at hkept
    exact ⟨(congrArg Model.isVm2 hkept).trans ih.1, .inl (hstep.tracks ih.1 ih.2 hrun)⟩
  | haltLine v _ ih => exact ih

theorem coreReset_fresh {h : Host β} {n : Nat} {m m' : Machine β}
    (hreset : coreReset h n m = .done () m') (hmodel : m'.core.model.isVm2 = true) :
    m'.core.Fresh := by
  have hclear : (m.core.coreReset h.build).model.isVm2 = true := by
    rw [← hmodel, model_coreReset hreset]
    unfold Regs.coreReset
    dsimp only
    split <;> rfl
  have hflags : (m.core.coreReset h.build).fAbort = false ∧ (m.core.coreReset h.build).fWait = false := by
    unfold Regs.coreReset
    dsimp only
    split <;> exact ⟨rfl, rfl⟩
  unfold coreReset at hreset
  dsimp only at hreset
  split at hreset
  · rename_i hvm1
    rw [hvm1] at hclear
    cases hclear
  · cases hreset
    have hmode : flagIsSet 0o340 flagH = false := rfl
    exact ⟨hflags.1, hflags.2, hmode⟩

/-- From reset on, after every step of a run whose steps come to their end or execute nothing, the
    copy registers are PC and PSW unless they are locked. -/
theorem copyRegisters_track {h : Host β} {n₀ n k : Nat} {m₀ m m' m'' : Machine β}
    (hreset : coreReset h n₀ m₀ = .done () m) (hmodel : m.core.model.isVm2 = true)
    (hrun : TrackedRun h m m') (hstep : StepTracks h n k m')
    (hlast : (coreStep h n k).run m' = .done () m'') : m''.core.Tracks := by
  obtain ⟨hmodel', hm'⟩ := hrun.tracks hmodel (.inr (coreReset_fresh hreset hmodel))
  exact hstep.tracks hmodel' hm' hlast

/-- A board whose only device asks for service from the third time on that it is polled. The count is
    kept behind the memory. -/
def latecomer : Host Memory :=
  { hwstub false with
    pollIrq := some fun _ mem =>
      if mem 0o200000 < 2 then (none, Function.update mem 0o200000 (mem 0o200000 + 1))
      else (some 0o100, mem) }

/-- `MTPS #0` and `WAIT`; the device's handler is at 04000. -/
def waitProgram : Memory := ((Memory.ofWords 0 [0o106427, 0, 1]).setWord 0o100 0o101 0o4000)

def waitReset : Machine Memory :=
  (coreReset latecomer 1 ⟨{ model := .k1801vm2, r := fun _ => 0o1000 }, waitProgram, []⟩).state

def waitStep (m : Machine Memory) : Machine Memory := ((coreStep latecomer 1 1).run m).state

theorem copyRegisters_track_mtps : (waitStep waitReset).core.Tracks :=
  have hreset : coreReset latecomer 1 ⟨{ model := .k1801vm2, r := fun _ => 0o1000 }, waitProgram, []⟩ =
    .done () waitReset := rfl
  have hlast : (coreStep latecomer 1 1).run waitReset = .done () (waitStep waitReset) := rfl
  copyRegisters_track hreset rfl (.refl _) (.inl ⟨_, rfl⟩) hlast

/-- The interrupt that ends WAIT leaves the copies at the interrupted program. -/
theorem copyRegisters_behind_after_wait :
    coreReset latecomer 1 ⟨{ model := .k1801vm2, r := fun _ => 0o1000 }, waitProgram, []⟩ =
        .done () waitReset ∧
      Steps latecomer waitReset (waitStep (waitStep (waitStep waitReset))) ∧
      (waitStep (waitStep (waitStep waitReset))).core.r 7 = 0o4000 ∧
      ¬ (waitStep (waitStep (waitStep waitReset))).core.Tracks := by
  have h₁ : (coreStep latecomer 1 1).run waitReset = .done () (waitStep waitReset) := rfl
  have h₂ : (coreStep latecomer 1 1).run (waitStep waitReset) =
    .done () (waitStep (waitStep waitReset)) := rfl
  have h₃ : (coreStep latecomer 1 1).run (waitStep (waitStep waitReset)) =
    .done () (waitStep (waitStep (waitStep waitReset))) := rfl
  refine ⟨rfl, .step 1 1 (.step 1 1 (.step 1 1 (.refl _) h₁) h₂) h₃, rfl, fun htracks => ?_⟩
  have hpc := (htracks (by decide)).2
  revert hpc
  decide

end K1801.Core
