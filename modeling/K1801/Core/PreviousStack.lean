import K1801.Core.Banking
import K1801.Core.CondCodes
import K1801.Core.Dispatch

/-! # The stack pointer of the previous mode

MFPx and MTPx of R6 reach the stack pointer of the previous mode, which is the live SP when the
previous mode is the current one. The slot that the side array has for the current mode is filled
when the mode is left, and read by MFPx while the mode is still there.
-/

namespace K1801.Core

open Library

variable {β : Type}

/-- The previous mode as MFPx and MTPx see it. -/
abbrev Regs.prevMode (r : Regs) : BitVec 2 := dcj11PswPrevModeMxpi r.psw

/-- The stack pointer of a mode. -/
def Regs.archSp (mode : BitVec 2) (r : Regs) : Word :=
  if dcj11PswCurMode r.psw = mode then r.r 6 else if r.spModeInit then r.spMode mode else r.r 6

/-- It is the one of the register file that the core represents. -/
theorem Represents.archSp {r : Regs} {f : RegisterFile} (h : Represents r f) {mode : BitVec 2}
    (hmode : mode ≠ 2) : r.archSp mode = f.sp mode := by
  have hcur : f.mode = dcj11PswCurMode r.psw := by rw [RegisterFile.mode, h.psw]
  unfold Regs.archSp
  rw [← hcur]
  by_cases heq : f.mode = mode
  · rw [if_pos heq, h.sps.live, heq]
  rw [if_neg heq]
  cases hinit : r.spModeInit with
  | true => exact h.sps.saved hinit mode hmode (Ne.symm heq)
  | false =>
    have hshared : f.spsShared = true := by rw [h.sps.flag, hinit]; rfl
    exact h.sps.live.trans (h.sps.shared hshared mode).symm

/-- The slot of the current mode holds another value than the live SP. -/
def Regs.StaleSp (r : Regs) : Prop :=
  r.spModeInit = true ∧ r.spMode (dcj11PswCurMode r.psw) ≠ r.r 6

theorem prevMode_normal (psw : Word) :
    pswModeNormalize (dcj11PswPrevModeMxpi psw) = dcj11PswPrevModeMxpi psw := by
  have hne : dcj11PswPrevModeMxpi psw ≠ 2 := by
    unfold dcj11PswPrevModeMxpi
    dsimp only
    split
    · decide
    · exact pswModeNormalize_ne _
  exact if_neg hne

theorem readModeReg_sp {r : Regs} (hmodel : r.model = .dcj11) (psw : Word) :
    (r.dcj11ReadModeReg (dcj11PswPrevModeMxpi psw) 6).1 =
      if r.spModeInit then r.spMode (dcj11PswPrevModeMxpi psw) else r.r 6 := by
  unfold Regs.dcj11ReadModeReg Regs.dcj11SpModeInit
  rw [if_neg (by simp [hmodel]), if_neg (not_not.2 hmodel), prevMode_normal]
  cases r.spModeInit <;> rfl

/-- MFPx reads the stack pointer of the previous mode unless it looks into the stale slot. -/
theorem readModeReg_archSp_iff {r : Regs} (hmodel : r.model = .dcj11) :
    (r.dcj11ReadModeReg (dcj11PswPrevModeMxpi r.psw) 6).1 = r.archSp (dcj11PswPrevModeMxpi r.psw) ↔
      ¬ (dcj11PswPrevModeMxpi r.psw = dcj11PswCurMode r.psw ∧ r.StaleSp) := by
  rw [readModeReg_sp hmodel, Regs.archSp, Regs.StaleSp]
  by_cases heq : dcj11PswPrevModeMxpi r.psw = dcj11PswCurMode r.psw
  · rw [heq, if_pos rfl]
    cases r.spModeInit <;> simp
  · rw [if_neg (Ne.symm heq)]
    simp [heq]

/-- MTPx writes both places where the stack pointer can be. -/
theorem writeModeReg_sp {r : Regs} (hmodel : r.model = .dcj11) (psw v : Word) :
    let r' := r.dcj11WriteModeReg (dcj11PswPrevModeMxpi psw) 6 v
    r'.psw = r.psw ∧ r'.model = r.model ∧ r'.spModeInit = true ∧
      r'.spMode (dcj11PswPrevModeMxpi psw) = v ∧
      r'.r 6 = if dcj11PswCurMode r.psw = dcj11PswPrevModeMxpi psw then v else r.r 6 := by
  have hinit := SpsHeld.dcj11SpModeInit_init hmodel
  obtain ⟨hr, hpsw, hsame⟩ : r.dcj11SpModeInit.r = r.r ∧ r.dcj11SpModeInit.psw = r.psw ∧
      r.dcj11SpModeInit.model = r.model := by
    unfold Regs.dcj11SpModeInit
    repeat' (first | exact ⟨rfl, rfl, rfl⟩ | split)
  unfold Regs.dcj11WriteModeReg
  rw [if_neg (by simp [hmodel])]
  dsimp only
  rw [prevMode_normal, ← hpsw]
  by_cases heq : dcj11PswCurMode r.dcj11SpModeInit.psw = dcj11PswPrevModeMxpi psw
  · rw [if_pos heq, if_pos heq]
    exact ⟨rfl, hsame, hinit, Function.update_self .., 
      Function.update_self (6 : BitVec 3) v r.dcj11SpModeInit.r⟩
  · rw [if_neg heq, if_neg heq]
    exact ⟨rfl, hsame, hinit, Function.update_self .., congrFun hr 6⟩

/-! ## The instructions -/

section Instructions

variable {e : Env β} {m m₁ : Machine β}

/-- What MFPx does with its operand. -/
def Env.pushResult (e : Env β) (v : Word) : M β Unit := do
  e.pushLogged (pure v)
  if ← aborted then return
  setResult .word ⟨v, some false, none⟩

/-- MFPI SP and MFPD SP push `v`. -/
def Env.MfpPushes (e : Env β) (m : Machine β) (v : Word) : Prop :=
  ∀ dataSpace, ∃ m', (e.mfpOperand 0o6 dataSpace).run m = .done (some v) m' ∧
    (e.mfp 0o6 dataSpace).run m = (e.pushResult v).run m'

theorem decodeData_sp (hclear : m.core.fAbort = false) :
    (e.decodeData 0o6 .word).run m = .done (some ⟨.reg, 6⟩) m := by
  unfold Env.decodeData
  simp only [aborted, Program.run_bind, Program.run_read, Outcome.andThen_done, hclear]
  rfl

theorem mfpOperand_sp (hmodel : m.core.model = .dcj11) (hclear : m.core.fAbort = false)
    (dataSpace : Regs → Bool) :
    (e.mfpOperand 0o6 dataSpace).run m =
      .done (some (m.core.dcj11ReadModeReg (dcj11PswPrevModeMxpi m.core.pswBefore) 6).1)
        (m.after (.readPrevModeReg 6)) := by
  unfold Env.mfpOperand
  simp only [regs, Program.run_bind, Program.run_read, Outcome.andThen_done, hmodel, ne_eq,
    not_true_eq_false, if_false, decodeData_sp hclear]
  rfl

theorem mfp_pushes_iff (hmodel : m.core.model = .dcj11) (hstart : AtInstruction m.core) {v : Word} :
    e.MfpPushes m v ↔ (m.core.dcj11ReadModeReg m.core.prevMode 6).1 = v := by
  have hoperand := mfpOperand_sp (e := e) hmodel hstart.clear
  rw [hstart.pswBefore] at hoperand
  constructor
  · intro h
    obtain ⟨m', hrun, -⟩ := h Env.mfpiDataSpace
    rw [hoperand] at hrun
    cases hrun
    rfl
  · rintro rfl dataSpace
    refine ⟨_, hoperand dataSpace, ?_⟩
    unfold Env.mfp
    rw [Program.run_bind, regs, Program.run_read, Outcome.andThen_done, hmodel,
      if_neg (by decide : ¬ (!Model.dcj11.hasPrevSpaceOps) = true), Program.run_bind,
      hoperand dataSpace, Outcome.andThen_done]
    rfl

theorem mtpStore_sp (hmodel : m.core.model = .dcj11) (dataSpace : Bool) (v : Word) :
    (e.mtpStore ⟨.reg, 6⟩ dataSpace v).run m = .done () (m.after (.writePrevModeReg 6 v)) := by
  unfold Env.mtpStore
  rw [Program.run_bind, regs, Program.run_read, Outcome.andThen_done, if_neg (not_not.2 hmodel)]
  rfl

/-- MTPx SP once its word was popped: the pop steps the SP, the word goes to the previous mode. -/
theorem mtp_run (he : e.TrapsAbort) (hmodel : m.core.model = .dcj11) (hstart : AtInstruction m.core)
    {v : Word} (hpop : Answers (e.coreLoadWord (m.core.r 6)) m v m₁) (dataSpace : Bool) :
    ∃ (m' : Machine β) (r : Regs) (n z : Option Bool), (e.mtp 0o6 dataSpace).run m = .done () m' ∧
      m'.core = (r.dcj11WriteModeReg m.core.prevMode 6 v).setCc n z (some false) none ∧
      r.model = .dcj11 ∧ r.psw = m.core.psw ∧ r.r 6 = m.core.r 6 + 2 := by
  have hloaded : m₁.core.exceptMmu = m.core.exceptMmu :=
    (Quiet.coreLoadWordEx he _ _ _).keeps _ _ _ hpop
  let stepped := m₁.after (.setR 6 (m₁.core.r 6 + 2))
  let logged := stepped.after (.recordDelta e.host.build 6 2)
  have hlogged : logged.core.exceptMmu = stepped.core.exceptMmu :=
    Regs.exceptMmu_mmuMmr1RecordDelta e.host.build 6 2 stepped.core
  have hsame : logged.core.model = .dcj11 :=
    (congrArg (fun r => r.model) hlogged).trans ((congrArg (fun r => r.model) hloaded).trans hmodel)
  have hpsw : logged.core.psw = m.core.psw :=
    (congrArg (fun r => r.psw) hlogged).trans (congrArg (fun r => r.psw) hloaded)
  have hbefore : logged.core.pswBefore = m.core.psw :=
    ((congrArg (fun r => r.pswBefore) hlogged).trans
      (congrArg (fun r => r.pswBefore) hloaded)).trans hstart.pswBefore
  have hsp : logged.core.r 6 = m.core.r 6 + 2 := by
    have hregs : m₁.core.r = m.core.r := congrArg (fun r => r.r) hloaded
    have hkept : logged.core.r 6 = stepped.core.r 6 := congrArg (fun r => r.r 6) hlogged
    rw [hkept, ← hregs]
    exact Function.update_self (6 : BitVec 3) _ m₁.core.r
  refine ⟨(logged.after (.writePrevModeReg 6 v)).after
    (.setCc (some (DataType.word.negative v)) (some (v == 0)) (some false) none), logged.core,
    some (DataType.word.negative v), some (v == 0), ?_, ?_, hsame, hpsw, hsp⟩
  · unfold Env.mtp
    rw [Program.run_bind, regs, Program.run_read, Outcome.andThen_done, hmodel,
      if_neg (by decide : ¬ (!Model.dcj11.hasPrevSpaceOps) = true)]
    dsimp only
    rw [if_neg (by decide : ¬ Model.dcj11 ≠ .dcj11), Program.run_bind, decodeData_sp hstart.clear,
      Outcome.andThen_done]
    dsimp only
    rw [Program.run_bind, getR_run, Outcome.andThen_done, Program.run_bind, hpop.1, Outcome.andThen_done,
      Program.run_bind, aborted, Program.run_read, Outcome.andThen_done, hpop.2,
      if_neg (by decide : ¬ false = true), Program.run_bind, getR_run, Outcome.andThen_done,
      Program.run_bind, setR_run, Outcome.andThen_done, Program.run_bind, Env.recordDelta,
      run_perform_enabled rfl, Outcome.andThen_done, Program.run_bind, mtpStore_sp hsame,
      Outcome.andThen_done, Env.setResult, run_perform_enabled rfl]
  · rw [Regs.prevMode, ← hbefore]
    rfl

theorem mtp_sp (he : e.TrapsAbort) (hmodel : m.core.model = .dcj11) (hstart : AtInstruction m.core)
    {v : Word} (hpop : Answers (e.coreLoadWord (m.core.r 6)) m v m₁) (dataSpace : Bool) :
    ∃ m' : Machine β, (e.mtp 0o6 dataSpace).run m = .done () m' ∧
      m'.core.spModeInit = true ∧ m'.core.spMode m.core.prevMode = v ∧
      m'.core.prevMode = m.core.prevMode ∧
      dcj11PswCurMode m'.core.psw = dcj11PswCurMode m.core.psw ∧
      m'.core.r 6 = if dcj11PswCurMode m.core.psw = m.core.prevMode then v else m.core.r 6 + 2 := by
  obtain ⟨m', r, n, z, hrun, hcore, hsame, hpsw, hsp⟩ := mtp_run he hmodel hstart hpop dataSpace
  obtain ⟨hkept, -, hinit, hslot, hlive⟩ := writeModeReg_sp hsame m.core.psw v
  have hcodes := setCc_other n z (some false) none (r.dcj11WriteModeReg m.core.prevMode 6 v)
  rw [hkept, hpsw, ← hcore] at hcodes
  rw [hpsw, hsp] at hlive
  rw [setCc_fields] at hcore
  refine ⟨m', hrun, ?_, ?_, prevMode_of_other hcodes, curMode_of_other hcodes, ?_⟩
  · rw [hcore]
    exact hinit
  · rw [hcore]
    exact hslot
  · rw [hcore]
    exact hlive

/-- The stack pointer of the previous mode as MFPx and MTPx of R6 are to reach it from `m`. -/
structure Env.ReachesPrevSp (e : Env β) (m : Machine β) : Prop where
  pushes : e.MfpPushes m (m.core.archSp m.core.prevMode)
  sets : ∀ dataSpace v m₁, Answers (e.coreLoadWord (m.core.r 6)) m v m₁ →
    ∃ m', (e.mtp 0o6 dataSpace).run m = .done () m' ∧ m'.core.archSp m.core.prevMode = v
  /-- An MFPx that starts in the same modes and with the same stack pointers as MTPx left gives
      back what MTPx popped. -/
  returns : ∀ dataSpace v m₁ m' m₂, Answers (e.coreLoadWord (m.core.r 6)) m v m₁ →
    (e.mtp 0o6 dataSpace).run m = .done () m' → AtInstruction m₂.core → m₂.core.model = .dcj11 →
    m'.core.SameSps m₂.core → m₂.core.prevMode = m'.core.prevMode → e.MfpPushes m₂ v

theorem mtp_sets (he : e.TrapsAbort) (hmodel : m.core.model = .dcj11) (hstart : AtInstruction m.core)
    {v : Word} (hpop : Answers (e.coreLoadWord (m.core.r 6)) m v m₁) (dataSpace : Bool) :
    ∃ m' : Machine β, (e.mtp 0o6 dataSpace).run m = .done () m' ∧
      m'.core.archSp m.core.prevMode = v := by
  obtain ⟨m', hrun, hinit, hslot, -, hcur, hlive⟩ := mtp_sp he hmodel hstart hpop dataSpace
  refine ⟨m', hrun, ?_⟩
  rw [Regs.archSp, hcur, hlive, hinit, hslot]
  split
  · rfl
  · rfl

theorem mtp_returns (he : e.TrapsAbort) (hmodel : m.core.model = .dcj11) (hstart : AtInstruction m.core)
    {v : Word} (hpop : Answers (e.coreLoadWord (m.core.r 6)) m v m₁) {dataSpace : Bool}
    {m' m₂ : Machine β} (hrun : (e.mtp 0o6 dataSpace).run m = .done () m')
    (hnext : AtInstruction m₂.core) (hmodel₂ : m₂.core.model = .dcj11)
    (hsps : m'.core.SameSps m₂.core) (hprev : m₂.core.prevMode = m'.core.prevMode) :
    e.MfpPushes m₂ v := by
  obtain ⟨m'', hrun', hinit, hslot, hmode, -, -⟩ := mtp_sp he hmodel hstart hpop dataSpace
  obtain ⟨-, rfl⟩ := Outcome.done.inj (hrun'.symm.trans hrun)
  have hsame : m₂.core.prevMode = m.core.prevMode := hprev.trans hmode
  rw [mfp_pushes_iff hmodel₂ hnext, readModeReg_sp hmodel₂, hsps.2.2, hinit, if_pos rfl, hsps.2.1]
  exact (congrArg m''.core.spMode hsame).trans hslot

end Instructions

/-- MFPx and MTPx reach the stack pointer of the previous mode, except an MFPx whose previous mode is
    the current one and which finds a stale slot. -/
theorem reachesPrevSp_iff (h : Host β) (n : Nat) {m : Machine β} (hmodel : m.core.model = .dcj11)
    (hstart : AtInstruction m.core) :
    (Env.nested h n).ReachesPrevSp m ↔
      ¬ (m.core.prevMode = dcj11PswCurMode m.core.psw ∧ m.core.StaleSp) := by
  have he := Env.nested_trapsAbort h n
  rw [← readModeReg_archSp_iff hmodel, ← mfp_pushes_iff hmodel hstart]
  constructor
  · intro hreaches
    exact hreaches.pushes
  · intro hpushes
    exact ⟨hpushes, fun ds v m₁ hpop => mtp_sets he hmodel hstart hpop ds,
      fun ds v m₁ m' m₂ hpop hrun => mtp_returns he hmodel hstart hpop hrun⟩

/-- A J-11 in kernel mode, before anything has told the stack pointers apart. -/
def kernelMachine : Machine Memory where
  core := { model := .dcj11, r := fun i => if i = 6 then 0o1000 else 0 }
  bus := Memory.ofWords 0 []

/-- The next instruction after an MFPI SP. -/
def kernelMachineAfter : Machine Memory :=
  Machine.after (((Env.nested (hwstub false) 1).mfpi 0o6).run kernelMachine).state .stepBegin

theorem reachesPrevSp_iff_kernel :
    (Env.nested (hwstub false) 1).ReachesPrevSp kernelMachine ↔
      ¬ (kernelMachine.core.prevMode = dcj11PswCurMode kernelMachine.core.psw ∧
        kernelMachine.core.StaleSp) :=
  reachesPrevSp_iff _ _ rfl ⟨rfl, rfl, rfl⟩

/-- The second of two MFPI SP in kernel mode pushes the SP from before the first one. -/
theorem second_mfpi_pushes_stale :
    kernelMachineAfter.core.archSp kernelMachineAfter.core.prevMode = 0o776 ∧
      (Env.nested (hwstub false) 1).MfpPushes kernelMachineAfter 0o1000 ∧
      ¬ (Env.nested (hwstub false) 1).ReachesPrevSp kernelMachineAfter := by
  have hstart : AtInstruction kernelMachineAfter.core := ⟨rfl, rfl, rfl⟩
  refine ⟨rfl, (mfp_pushes_iff rfl hstart).2 rfl, fun h => ?_⟩
  exact absurd ((mfp_pushes_iff rfl hstart).1 h.pushes) (by decide)

end K1801.Core
