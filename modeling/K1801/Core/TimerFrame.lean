import K1801.Core.StepEffects
import K1801.Core.Frames
import K1801.Core.TrapEntry

/-! # The timer within a step

The registers of the 1801VM1 timer change by stores into the register block and by the tick behind
`step_end`. A step that comes to its end ticks once; a step that returns before it does not tick.
-/

namespace K1801.Core

open Library

variable {β α : Type}

namespace Regs

/-- What the timer depends on. -/
def timer (r : Regs) : Model × Word × Word × Word × Bool := (r.model, r.tveLimit, r.tveCount, r.tveCsr, r.tvePending)

theorem timer_eq_iff {r r' : Regs} :
    r'.timer = r.timer ↔ r'.model = r.model ∧ r'.tveLimit = r.tveLimit ∧ r'.tveCount = r.tveCount ∧
      r'.tveCsr = r.tveCsr ∧ r'.tvePending = r.tvePending := by
  simp [timer]

theorem timer_of_exceptMmu {r r' : Regs} (h : r'.exceptMmu = r.exceptMmu) : r'.timer = r.timer :=
  congrArg (fun r => r.timer) h

/-- A tick depends on nothing else. -/
theorem timer_tveTick_congr {r r' : Regs} (h : r'.timer = r.timer) : r'.tveTick.timer = r.tveTick.timer := by
  obtain ⟨hmodel, hlimit, hcount, hcsr, hpending⟩ := timer_eq_iff.1 h
  have hdown : r'.tveCountDown.timer = r.tveCountDown.timer := by
    unfold tveCountDown
    rw [hcount]
    split <;> simp [timer, hmodel, hlimit, hcount, hcsr, hpending]
  obtain ⟨hmodel₁, hlimit₁, hcount₁, hcsr₁, hpending₁⟩ := timer_eq_iff.1 hdown
  have hraise : r'.tveCountDown.tveRaise.timer = r.tveCountDown.tveRaise.timer := by
    unfold tveRaise
    rw [hcsr₁, hpending₁]
    split
    · exact hdown
    · split <;> simp [timer, hmodel₁, hlimit₁, hcount₁, hcsr₁, hpending₁]
  obtain ⟨hmodel₂, hlimit₂, hcount₂, hcsr₂, hpending₂⟩ := timer_eq_iff.1 hraise
  have hreload : r'.tveCountDown.tveRaise.tveReload.timer = r.tveCountDown.tveRaise.tveReload.timer := by
    unfold tveReload
    rw [hcsr₂, hlimit₂]
    split
    · exact hraise
    · simp [timer, hmodel₂, hlimit₂, hpending₂]
  unfold tveTick
  rw [hmodel, hcsr, hcount₁]
  split
  · exact h
  · split
    · exact hdown
    · exact hreload

@[simp] theorem timer_setCc (n z v c : Option Bool) (r : Regs) : (r.setCc n z v c).timer = r.timer := by
  unfold setCc
  split <;> rfl

@[simp] theorem timer_dcj11SpModeInit (r : Regs) : r.dcj11SpModeInit.timer = r.timer := by
  unfold dcj11SpModeInit
  split
  · rfl
  · split <;> rfl

@[simp] theorem timer_dcj11SwitchStackMode (o n : Word) (r : Regs) :
    (r.dcj11SwitchStackMode o n).timer = r.timer := by
  unfold dcj11SwitchStackMode
  split
  · rfl
  · dsimp only
    split
    · rfl
    · exact timer_dcj11SpModeInit r

@[simp] theorem timer_dcj11RegsetInit (r : Regs) : r.dcj11RegsetInit.timer = r.timer := by
  unfold dcj11RegsetInit
  split
  · rfl
  · split <;> rfl

@[simp] theorem timer_dcj11SwitchRegset (o n : Word) (r : Regs) : (r.dcj11SwitchRegset o n).timer = r.timer := by
  unfold dcj11SwitchRegset
  split
  · rfl
  · dsimp only
    split
    · rfl
    · exact timer_dcj11RegsetInit r

@[simp] theorem timer_dcj11SetPsw (psw : Word) (r : Regs) : (r.dcj11SetPsw psw).timer = r.timer := by
  unfold dcj11SetPsw
  dsimp only
  split
  · exact (timer_dcj11SwitchRegset _ _ _).trans (timer_dcj11SwitchStackMode _ _ _)
  · rfl

@[simp] theorem timer_dcj11SetCpuerr (bits : Word) (r : Regs) : (r.dcj11SetCpuerr bits).timer = r.timer := by
  unfold dcj11SetCpuerr
  split <;> rfl

@[simp] theorem timer_dcj11NoteStackReference (addr : Word) (r : Regs) :
    (r.dcj11NoteStackReference addr).timer = r.timer := by
  unfold dcj11NoteStackReference
  dsimp only
  repeat' (first | rfl | exact timer_dcj11SetCpuerr cpuerrYel r | split)

@[simp] theorem timer_dcj11ReadModeReg (mode : BitVec 2) (reg : BitVec 3) (r : Regs) :
    (r.dcj11ReadModeReg mode reg).2.timer = r.timer := by
  unfold dcj11ReadModeReg
  split
  · rfl
  · exact timer_dcj11SpModeInit r

@[simp] theorem timer_dcj11WriteModeReg (mode : BitVec 2) (reg : BitVec 3) (v : Word) (r : Regs) :
    (r.dcj11WriteModeReg mode reg v).timer = r.timer := by
  unfold dcj11WriteModeReg
  split
  · rfl
  · dsimp only
    split <;> exact timer_dcj11SpModeInit r

@[simp] theorem timer_csmEnter (oldSp : Word) (r : Regs) : (r.csmEnter oldSp).timer = r.timer := by
  unfold csmEnter
  dsimp only
  split <;> exact (timer_dcj11SetPsw _ _).trans (timer_dcj11SpModeInit r)

@[simp] theorem timer_redStackRestore (pc psw : Word) (r : Regs) : (r.redStackRestore pc psw).timer = r.timer := by
  unfold redStackRestore
  exact (timer_dcj11SetCpuerr _ _).trans (timer_dcj11SetPsw _ _)

@[simp] theorem timer_emergencyStack (r : Regs) : r.emergencyStack.timer = r.timer := by
  unfold emergencyStack
  dsimp only
  split <;> exact timer_dcj11SpModeInit r

end Regs

/-! ## Stores into the register block -/

/-- The block of the three timer registers. -/
def timerRegister (offset : Word) : Prop := offset = 0o177706 ∨ offset = 0o177710 ∨ offset = 0o177712

instance (offset : Word) : Decidable (timerRegister offset) := inferInstanceAs (Decidable (_ ∨ _))

/-- A store into a register of the timer. -/
def Micro.storesTimer : Micro → Bool
  | regStoreByte _ offset _ | regStoreWord _ offset _ => decide (timerRegister offset)
  | _ => false

theorem timer_dcj11RegBlockStoreWord {r r' : Regs} {offset v : Word}
    (h : dcj11RegBlockStoreWord r offset v = some r') : r'.timer = r.timer := by
  unfold dcj11RegBlockStoreWord at h
  dsimp only at h
  repeat' split at h
  all_goals first
    | cases h; rfl
    | cases h; exact Regs.timer_dcj11SetPsw _ _
    | cases h

theorem timer_dcj11RegBlockStoreByte {r r' : Regs} {offset : Word} {v : Byte}
    (h : dcj11RegBlockStoreByte r offset v = some r') : r'.timer = r.timer := by
  unfold dcj11RegBlockStoreByte at h
  split at h
  · split at h
    · cases h; rfl
    · exact timer_dcj11RegBlockStoreWord h
  · split at h
    · exact timer_dcj11RegBlockStoreWord h
    · obtain ⟨w, _, hw⟩ := Option.bind_eq_some_iff.1 h
      exact timer_dcj11RegBlockStoreWord hw

theorem timer_mmuIoWriteWord {b : Build} {r r' : Regs} {a v : Word} (h : mmuIoWriteWord b r a v = some r') :
    r'.timer = r.timer := by
  unfold mmuIoWriteWord at h
  dsimp only at h
  repeat' split at h
  all_goals first
    | contradiction
    | cases h; rfl

theorem timer_vm1RegBlockStoreWord {r r' : Regs} {offset v : Word} (hoffset : ¬ timerRegister offset)
    (h : vm1RegBlockStoreWord r offset v = some r') : r'.timer = r.timer := by
  have hlimit : offset ≠ 0o177706 := fun heq => hoffset (.inl heq)
  have hcsr : offset ≠ 0o177712 := fun heq => hoffset (.inr (.inr heq))
  unfold vm1RegBlockStoreWord at h
  rw [if_neg hlimit, if_neg hcsr] at h
  repeat' split at h
  all_goals cases h <;> rfl

theorem timer_regBlockStoreWord {b : Build} {r r' : Regs} {offset v : Word} (hoffset : ¬ timerRegister offset)
    (h : regBlockStoreWord b r offset v = some r') : r'.timer = r.timer := by
  unfold regBlockStoreWord at h
  split at h
  · simp only [Option.orElse_eq_orElse, Option.orElse_eq_or, Option.or_eq_some_iff] at h
    rcases h with h | ⟨_, h⟩
    · exact timer_dcj11RegBlockStoreWord h
    · exact timer_mmuIoWriteWord h
  · split at h
    · exact timer_vm1RegBlockStoreWord hoffset h
    · cases h

theorem timer_regBlockStoreByte {b : Build} {r r' : Regs} {offset : Word} {v : Byte}
    (hoffset : ¬ timerRegister offset) (h : regBlockStoreByte b r offset v = some r') : r'.timer = r.timer := by
  unfold regBlockStoreByte at h
  split at h
  · simp only [Option.orElse_eq_orElse, Option.orElse_eq_or, Option.or_eq_some_iff] at h
    rcases h with h | ⟨_, h⟩
    · exact timer_dcj11RegBlockStoreByte h
    · unfold mmuIoWriteByte at h
      dsimp only at h
      split at h
      · cases h
      · exact timer_mmuIoWriteWord h
  · split at h
    · obtain ⟨w, _, hw⟩ := Option.bind_eq_some_iff.1 h
      exact timer_vm1RegBlockStoreWord hoffset hw
    · cases h

/-- Only a tick and a store into a register of the timer change the timer. -/
theorem Micro.timer_apply {op : Micro} (htick : op ≠ tveTick) (hstores : op.storesTimer = false) (r : Regs) :
    (op.apply r).timer = r.timer := by
  cases op with
  | tveTick => exact absurd rfl htick
  | fetchBegin b =>
    have hstart := Regs.timer_of_exceptMmu
      (Regs.exceptMmu_mmuMmr1InstructionStart b { r with instrPc := r.r 7 })
    exact hstart
  | recordDelta | recordFault | noteAccess | translate | translateModeSpace | internalRegWrite =>
    exact Regs.timer_of_exceptMmu (by simp [apply])
  | pdrWritten b apr =>
    simp only [apply]
    split
    · exact Regs.timer_of_exceptMmu (Regs.exceptMmu_mmuNoteWritePdrw b apr r)
    · rfl
  | regStoreByte b a v =>
    cases h : regBlockStoreByte b r a v with
    | none => simp [apply, h]
    | some r' => simpa [apply, h] using timer_regBlockStoreByte (of_decide_eq_false hstores) h
  | regStoreWord b a v =>
    cases h : regBlockStoreWord b r a v with
    | none => simp [apply, h]
    | some r' => simpa [apply, h] using timer_regBlockStoreWord (of_decide_eq_false hstores) h
  | resetState b =>
    simp only [apply, Regs.dcj11ResetInstructionState]
    repeat' (first | rfl | split)
  | vectorPush oldPc oldPsw =>
    simp only [apply]
    split <;> rfl
  | setCc | stackReference | setCpuerr | enterVector | redStackRestore | emergencyStack
  | dcj11Halt | returnPsw | csmEnter | readPrevModeReg | writePrevModeReg => simp [apply]
  | _ => rfl

/-! ## The tick of a step -/

/-- An operation that is not the tick. -/
def Micro.NoTick (op : Micro) : Prop := op ≠ tveTick

/-- A part of a step in which the timer does not tick. -/
structure Unticked (m m' : Machine β) : Prop where
  moves : Moves micro m m'
  ops : ∀ op ∈ m.since m', op.NoTick

namespace Unticked

variable {F : Option Stuck → Regs → Prop} {m m' m'' : Machine β}

theorem of_within {p : M β α} (h : p.Within Micro.NoTick F) {a : α} (hrun : p.run m = .done a m') :
    Unticked m m' := by
  have hstate : (p.run m).state = m' := by rw [hrun]; rfl
  have hmoves := p.moves m
  have hops := h.since m
  rw [hstate] at hmoves hops
  exact ⟨hmoves, hops⟩

theorem trans (h : Unticked m m') (h' : Unticked m' m'') : Unticked m m'' := by
  refine ⟨h.moves.trans h'.moves, fun op hop => ?_⟩
  rw [h.moves.since_trans h'.moves] at hop
  rcases List.mem_append.1 hop with hop | hop
  · exact h'.ops op hop
  · exact h.ops op hop

/-- Without a store into its registers the timer stays as it is. -/
theorem timer (h : Unticked m m') (hstores : ∀ op ∈ m.since m', op.storesTimer = false) :
    m'.core.timer = m.core.timer := by
  have hboth : ∀ op ∈ m.since m', op.NoTick ∧ op.storesTimer = false := fun op hop =>
    ⟨h.ops op hop, hstores op hop⟩
  refine h.moves.run.preserves (P := fun r => r.timer = m.core.timer) (fun op r hop _ hr => ?_) hboth rfl
  exact (Micro.timer_apply hop.1 hop.2 r).trans hr

end Unticked

theorem nested_noTick (h : Host β) (n : Nat) :
    (Env.nested h n).WithinInstr Micro.NoTick fun _ _ => True where
  toWithin := by
    refine .nested h (fun op hop => ?_) (fun _ => trivial) n
    rintro rfl
    cases hop
  instrOps op hop := by
    rintro rfl
    cases hop
  leaves _ := trivial

section Parts

variable (h : Host β) (n : Nat)

/-- How a part of a step may end is left open here. -/
abbrev Silent (p : M β α) : Prop := p.Within Micro.NoTick fun _ _ => True

theorem handleHalt_silent : Silent (Env.nested h n).handleHalt := by
  have he := (nested_noTick h n).toWithin
  have hop {op : Micro} (hne : op ≠ .tveTick) : Silent (perform op : M β Unit) := .perform hne
  unfold Env.handleHalt
  refine .bind (.read _) fun r => .ite ?_ (.ite ?_ ?_)
  · refine .bind (he.coreLoadWord _) fun _ => .bind (he.coreStoreWord _ _) fun _ => ?_
    refine .bind (.read _) fun _ => .ite (.pure _) <| .bind (.read _) fun _ => .bind (he.coreStoreWord _ _) fun _ => ?_
    refine .bind (.read _) fun _ => .ite (.pure _) <| .bind (.read _) fun _ => ?_
    refine .bind (he.coreStoreWord _ _) fun _ => .bind (.read _) fun _ => .ite (.pure _) ?_
    refine .bind (he.coreLoadWordVector _) fun _ => .bind (hop nofun) fun _ => ?_
    refine .bind (.read _) fun _ => .ite (.pure _) <| .bind (he.coreLoadWordVector _) fun _ => hop nofun
  · refine .bind (.read _) fun _ => .bind (hop nofun) fun _ => .bind (he.coreLoadWordVector _) fun _ => ?_
    exact .bind (hop nofun) fun _ => .bind (he.coreLoadWordVector _) fun _ => hop nofun
  · refine .bind (.read _) fun _ => .bind (he.pushw _) fun _ => .bind (.read _) fun _ => ?_
    refine .bind (he.pushw _) fun _ => .bind (he.coreLoadWordVector _) fun _ => ?_
    exact .bind (hop nofun) fun _ => hop nofun

theorem takeHalt_silent : Silent (Env.nested h n).takeHalt := by
  have hop {op : Micro} (hne : op ≠ .tveTick) : Silent (perform op : M β Unit) := .perform hne
  have hleave : Silent (Program.leave : M β Unit) := .leave fun _ => trivial
  unfold Env.takeHalt
  refine .bind (hop nofun) fun _ => .bind (.read _) fun _ => .bind (hop nofun) fun _ => .ite hleave ?_
  exact .bind (handleHalt_silent h n) fun _ => hleave

theorem haltAtStart_silent : Silent (Env.nested h n).haltAtStart := by
  have hop {op : Micro} (hne : op ≠ .tveTick) : Silent (perform op : M β Unit) := .perform hne
  unfold Env.haltAtStart
  refine .bind (.read _) fun _ => .ite (.pure _) <| .ite (.bind (hop nofun) fun _ => .pure _) ?_
  exact .ite (.bind (hop nofun) fun _ => .pure _) <| .bind (takeHalt_silent h n) fun _ => .pure _

theorem returnFromTrap_silent : Silent (Env.nested h n).returnFromTrap := by
  have he := nested_noTick h n
  unfold Env.returnFromTrap
  refine .bind he.toWithin.pullw fun _ => .bind he.toWithin.pullw fun _ => .bind (he.setR 7 _) fun _ => ?_
  exact .perform nofun

theorem execute_silent (i : Instr) : Silent ((Env.nested h n).execute i) := by
  have he := nested_noTick h n
  have hop {op : Micro} (hne : op ≠ .tveTick) : Silent (perform op : M β Unit) := .perform hne
  cases i with
  | halt =>
    refine .bind (.bind (.read _) fun _ => .ite ?_ (handleHalt_silent h n)) fun _ => .pure _
    exact .bind (hop nofun) fun _ => he.toWithin.takeVectorHere _
  | reset =>
    refine .bind (.bind (.read _) fun _ => .ite (.pure _) <| .bind (hop nofun) fun _ => ?_) fun _ => .pure _
    exact .bind (.onBus _) fun _ => hop nofun
  | rti => exact .bind (returnFromTrap_silent h n) fun _ => .bind (.read _) fun _ => .pure _
  | rtt =>
    refine .bind (returnFromTrap_silent h n) fun _ => .bind (.read _) fun _ => .ite (.pure _) ?_
    exact .bind (hop nofun) fun _ => .pure _
  | _ => exact he.execute rfl

/-- What follows the tick at the end of a step. -/
theorem afterTick_silent (k : Nat) (skipTrace deferHalt : Bool) (l : Locals) : Silent (do
    let trace := Env.doTrace skipTrace l (← regs).pswBefore
    Program.when (deferHalt ∧ (← regs).fHaltSignal) (Env.nested h n).takeHalt
    Program.when trace ((Env.nested h n).takeVectorHere 0o14)
    Program.when (← (Env.nested h n).dcj11ServiceStackTrap) Program.leave
    Program.when (!trace ∧ !l.skipIrq) ((Env.nested h n).serviceIrqs k)
    let r ← regs
    Program.when (r.model.isVm2 ∧ r.psw &&& Env.flagHP ≠ Env.flagHP) (perform .saveCopies) : M β Unit) := by
  have he := (nested_noTick h n).toWithin
  refine .bind (.read _) fun _ => .bind (.read _) fun _ => .bind (.when (takeHalt_silent h n)) fun _ => ?_
  refine .bind (.when (he.takeVectorHere _)) fun _ => .bind (he.dcj11ServiceStackTrap fun _ => nofun) fun _ => ?_
  refine .bind (.when (.leave fun _ => trivial)) fun _ => .bind (.when ?_) fun _ => ?_
  · refine .bind (.read _) fun _ => .ite (he.irqLoop (fun _ => trivial) k) ?_
    exact .bind he.serviceIrq fun _ => .pure _
  · exact .bind (.read _) fun _ => .when (.perform nofun)

/-- A step that comes to its end ticks once. -/
theorem stepBody_ticks {k : Nat} {m m' : Machine β} (hrun : ((Env.nested h n).stepBody k).run m = .done () m') :
    ∃ m₁, Unticked m m₁ ∧ Unticked (m₁.after .tveTick) m' := by
  have he := (nested_noTick h n).toWithin
  have hpart {α : Type} {p : M β α} {m m' : Machine β} {a : α} (hrun : p.run m = .done a m') (hp : Silent p) :
      Unticked m m' := .of_within hp hrun
  have hfetches : ∀ op : Micro, op.inFetch = true → op.NoTick := by
    rintro op hop rfl
    cases hop
  unfold Env.stepBody at hrun
  obtain ⟨_, m₁, hstart, hrun⟩ := Program.bind_done.1 hrun
  obtain ⟨_, m₂, hbegin, hrun⟩ := Program.bind_done.1 hrun
  obtain ⟨_, m₃, hclear, hrun⟩ := Program.bind_done.1 hrun
  obtain ⟨deferHalt, m₄, hhalt, hrun⟩ := Program.bind_done.1 hrun
  obtain ⟨_, m₅, hwait, hrun⟩ := Program.bind_done.1 hrun
  obtain ⟨op, m₆, hfetch, hrun⟩ := Program.bind_done.1 hrun
  obtain ⟨_, m₇, hmodel, hrun⟩ := Program.bind_done.1 hrun
  obtain ⟨l, m₈, hexecute, hrun⟩ := Program.bind_done.1 hrun
  have hbefore : Unticked m m₈ :=
    (hpart hstart (.read _)).trans <| (hpart hbegin (.perform nofun)).trans <|
      (hpart hclear (Env.Within.leaveClearingAbort (fun _ => trivial) nofun)).trans <|
      (hpart hhalt (haltAtStart_silent h n)).trans <|
      (hpart hwait (he.waitAtStart (fun _ => trivial) nofun)).trans <|
      (hpart hfetch (he.fetch (fun _ => trivial) hfetches)).trans <|
      (hpart hmodel (.read _)).trans (hpart hexecute (execute_silent h n _))
  unfold Env.stepEnd at hrun
  obtain ⟨_, m₉, htick, hrun⟩ := Program.bind_done.1 hrun
  cases htick
  exact ⟨m₈, hbefore, hpart hrun (afterTick_silent h n k _ deferHalt l)⟩

end Parts

/-- A step that comes to its end and stores into no register of the timer makes one tick of it. -/
theorem stepBody_timer {h : Host β} {n k : Nat} {m m' : Machine β}
    (hrun : ((Env.nested h n).stepBody k).run m = .done () m')
    (hstores : ∀ op ∈ m.since m', op.storesTimer = false) : m'.core.timer = m.core.tveTick.timer := by
  obtain ⟨m₁, hbefore, hafter⟩ := stepBody_ticks h n hrun
  have htick : Moves micro m₁ (m₁.after .tveTick) := ⟨[.tveTick], rfl, .single rfl⟩
  have hsince : m.since m' = (m₁.after .tveTick).since m' ++ m.since (m₁.after .tveTick) :=
    (hbefore.moves.trans htick).since_trans hafter.moves
  have hsplit : m.since (m₁.after .tveTick) = m₁.since (m₁.after .tveTick) ++ m.since m₁ :=
    hbefore.moves.since_trans htick
  have hstart : m₁.core.timer = m.core.timer := hbefore.timer fun op hop =>
    hstores op (by rw [hsince, hsplit]; simp [hop])
  have hend : m'.core.timer = (m₁.after .tveTick).core.timer := hafter.timer fun op hop =>
    hstores op (by rw [hsince]; simp [hop])
  exact hend.trans (Regs.timer_tveTick_congr hstart)

end K1801.Core
