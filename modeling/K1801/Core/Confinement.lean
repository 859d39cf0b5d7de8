import K1801.Library.Triple
import K1801.Core.AbortAtomicity
import K1801.Core.Banking
import K1801.Core.StepEffects

/-! # User mode on the J-11

What a step in user mode leaves of the protected state: the current mode, the priority, PS<15:11>,
the stack pointers of the other modes and the registers of the other set. Stores into the on-chip
registers, vector entries and the halt line are the ways out.
-/

namespace K1801.Core

open Library

variable {β : Type}

/-- Stores into the on-chip registers, vector entries of traps, interrupts and CSM, and the
    service of the halt line. -/
def Micro.escapes : Micro → Bool
  | regStoreByte _ _ _ | regStoreWord _ _ _ | enterVector _ _ _ | redStackRestore _ _ | emergencyStack
  | csmEnter _ | fisErrorPsw _ | setHaltSignal _ => true
  | _ => false

/-- The effects of HALT, RESET and SPL. -/
def Micro.privileged : Micro → Bool
  | haltPsw _ | dcj11Halt | resetState _ | hostReset _ _ _ | spl _ => true
  | _ => false

namespace Regs

/-- R0..R5 of a register set, live or banked. -/
def setReg (r : Regs) (set : Bool) (i : BitVec 3) : Word :=
  if dcj11PswRegset r.psw = set then r.r i else r.rsetBank set i

/-- The stack pointers of kernel and supervisor mode, unless the step fills the side array. With
    `mtpSp`, that of the previous mode may have been written. -/
structure StacksKept (mtpSp : Prop) (r r' : Regs) : Prop where
  init : r.spModeInit = true → r'.spModeInit = true
  kept : r'.spModeInit = r.spModeInit → ∀ mode, mode ≠ 3 →
    r'.spMode mode = r.spMode mode ∨ mtpSp ∧ dcj11PswPrevModeMxpi r.psw = mode

/-- The state `r'` of a step from `r` is confined to user mode. -/
structure Confined (mtpSp : Prop) (r r' : Regs) : Prop where
  mode : mmuModeFromPsw r'.psw = 3
  priority : r'.psw &&& 0o340 = r.psw &&& 0o340
  /-- PS<15:11> are set but not cleared. -/
  setOnly : r.psw &&& 0o174000 &&& r'.psw = r.psw &&& 0o174000
  stackRegs : StacksKept mtpSp r r'
  otherSet : r'.rsetBankInit = r.rsetBankInit → ∀ i < 6,
    r'.setReg (!dcj11PswRegset r.psw) i = r.setReg (!dcj11PswRegset r.psw) i

end Regs

/-! ## The protected bits of the PSW -/

/-- PS<15:11> and PS<7:5> -/
abbrev pswContext : Word := 0o174340

theorem context_putFlag {f : Word} (hf : f &&& pswContext = 0) (v : Option Bool) (psw : Word) :
    putFlag f v psw &&& pswContext = psw &&& pswContext := by
  cases v with
  | none => rfl
  | some v =>
    cases v with
    | true =>
      have hset : (psw ||| f) &&& pswContext = psw &&& pswContext ||| f &&& pswContext :=
        BitVec.and_or_distrib_right
      rw [hf] at hset
      exact hset.trans BitVec.or_zero
    | false =>
      have hkeep : ~~~f &&& pswContext = pswContext := by
        ext i hi
        have hbit := congrArg (fun v : Word => v[i]) hf
        simp at hbit ⊢
        grind
      have hassoc : (psw &&& ~~~f) &&& pswContext = psw &&& (~~~f &&& pswContext) := BitVec.and_assoc ..
      rw [hkeep] at hassoc
      exact hassoc

theorem context_mtpsPsw {r : Regs} (hmodel : r.model = .dcj11)
    (huser : dcj11KernelPsw r.pswBefore = false) (value : Byte) :
    mtpsPsw r value &&& pswContext = r.psw &&& pswContext := by
  have hprotected : r.model = .dcj11 ∧ (!dcj11KernelPsw r.pswBefore) = true := ⟨hmodel, by simp [huser]⟩
  unfold mtpsPsw
  dsimp only
  rw [if_pos hprotected, BitVec.and_or_distrib_right, BitVec.and_or_distrib_right,
    BitVec.and_or_distrib_right]
  simp only [BitVec.and_assoc]
  have hhigh : (0o177000 : Word) &&& pswContext = 0o174000 := rfl
  have hflags : (flagT ||| flagH) &&& pswContext = 0 := rfl
  have hlow : (0o357 : Word) &&& (0o37 &&& pswContext) = 0 := rfl
  have hipl : (0o340 : Word) &&& pswContext = 0o340 := rfl
  have hsplit : pswContext = 0o174000 ||| 0o340 := rfl
  rw [hhigh, hflags, hlow, hipl, hsplit, BitVec.and_or_distrib_left]
  simp

/-- What lies in the protected bits is the same for two words that agree on them. -/
theorem and_of_context {p q mask : Word} (h : p &&& pswContext = q &&& pswContext)
    (hmask : pswContext &&& mask = mask) : p &&& mask = q &&& mask := by
  rw [← hmask, ← BitVec.and_assoc, ← BitVec.and_assoc, h]

theorem mode_of_context {p q : Word} (h : p &&& pswContext = q &&& pswContext) :
    mmuModeFromPsw p = mmuModeFromPsw q := by
  have hand := congrArg mmuModeFromPsw h
  rw [mmuModeFromPsw_and, mmuModeFromPsw_and, show mmuModeFromPsw pswContext = BitVec.allOnes 2 from rfl,
    BitVec.and_allOnes, BitVec.and_allOnes] at hand
  exact hand

theorem regset_of_context {p q : Word} (h : p &&& pswContext = q &&& pswContext) :
    dcj11PswRegset p = dcj11PswRegset q := by
  have hand := congrArg dcj11PswRegset h
  rw [dcj11PswRegset_and, dcj11PswRegset_and, show dcj11PswRegset pswContext = true from rfl,
    Bool.and_true, Bool.and_true] at hand
  exact hand

/-! ## Within the register set -/

namespace Regs

variable {mtpSp : Prop} {r r' r'' : Regs}

theorem psw_dcj11SpModeInit (r : Regs) : r.dcj11SpModeInit.psw = r.psw := by
  unfold dcj11SpModeInit
  split
  · rfl
  · split <;> rfl

namespace StacksKept

theorem refl (r : Regs) : StacksKept mtpSp r r := ⟨id, fun _ _ _ => .inl rfl⟩

theorem congr (h : StacksKept mtpSp r r') (hsp : r''.spMode = r'.spMode)
    (hinit : r''.spModeInit = r'.spModeInit) : StacksKept mtpSp r r'' := by
  refine ⟨fun hr => hinit.trans (h.init hr), fun hsame mode hmode => ?_⟩
  rw [hsp]
  exact h.kept (hinit.symm.trans hsame) mode hmode

theorem fill (h : StacksKept mtpSp r r') : StacksKept mtpSp r r'.dcj11SpModeInit := by
  unfold dcj11SpModeInit
  split
  · exact h
  · split
    · exact h
    · rename_i hunset
      refine ⟨fun _ => rfl, fun hsame => ?_⟩
      have hset : r.spModeInit = true := hsame.symm
      exact absurd (h.init hset) hunset

end StacksKept

/-- The state of a step from `r` as long as PSW<11> has not changed. -/
structure InContext (mtpSp : Prop) (r r' : Regs) : Prop where
  model : r'.model = .dcj11
  pswBefore : r'.pswBefore = r.psw
  context : r'.psw &&& pswContext = r.psw &&& pswContext
  banks : r'.rsetBank = r.rsetBank
  banksInit : r'.rsetBankInit = r.rsetBankInit
  stackRegs : StacksKept mtpSp r r'

namespace InContext

theorem congr (h : InContext mtpSp r r') (hmodel : r''.model = r'.model)
    (hbefore : r''.pswBefore = r'.pswBefore) (hpsw : r''.psw &&& pswContext = r'.psw &&& pswContext)
    (hbank : r''.rsetBank = r'.rsetBank) (hinit : r''.rsetBankInit = r'.rsetBankInit)
    (hstacks : StacksKept mtpSp r r'') : InContext mtpSp r r'' :=
  ⟨hmodel.trans h.model, hbefore.trans h.pswBefore, hpsw.trans h.context, hbank.trans h.banks,
    hinit.trans h.banksInit, hstacks⟩

theorem editPsw (h : InContext mtpSp r r') {psw : Word}
    (hpsw : psw &&& pswContext = r'.psw &&& pswContext) : InContext mtpSp r { r' with psw := psw } :=
  h.congr rfl rfl hpsw rfl rfl (h.stackRegs.congr rfl rfl)

theorem setCc (h : InContext mtpSp r r') (n z v c : Option Bool) :
    InContext mtpSp r (r'.setCc n z v c) := by
  unfold Regs.setCc
  split
  · exact h
  · refine h.editPsw ?_
    rw [context_putFlag rfl, context_putFlag rfl, context_putFlag rfl, context_putFlag rfl]

theorem fillStacks (h : InContext mtpSp r r') : InContext mtpSp r r'.dcj11SpModeInit := by
  obtain ⟨-, hbank, hinit⟩ := sameSets_dcj11SpModeInit r'
  obtain ⟨hmodel, -, hbefore⟩ := control_eq_iff.1 (control_of_frame (frame_dcj11SpModeInit r'))
  exact h.congr hmodel hbefore (by rw [psw_dcj11SpModeInit]) hbank hinit h.stackRegs.fill

theorem readModeReg (h : InContext mtpSp r r') (mode : BitVec 2) (reg : BitVec 3) :
    InContext mtpSp r (r'.dcj11ReadModeReg mode reg).2 := by
  unfold dcj11ReadModeReg
  split
  · exact h
  · exact h.fillStacks

/-- MTPx writes the stack pointer of one other mode. -/
theorem writeModeSp (h : InContext mtpSp r r') (hsp : mtpSp) (v : Word) :
    InContext mtpSp r { r' with
      spMode := Function.update r'.spMode (dcj11PswPrevModeMxpi r.psw) v } := by
  refine h.congr rfl rfl rfl rfl rfl ⟨h.stackRegs.init, fun hsame mode hmode => ?_⟩
  by_cases hprev : dcj11PswPrevModeMxpi r.psw = mode
  · exact .inr ⟨hsp, hprev⟩
  · have hother := Function.update_of_ne (Ne.symm hprev) v r'.spMode
    exact (h.stackRegs.kept hsame mode hmode).imp_left hother.trans

theorem writePrevModeReg (h : InContext mtpSp r r') (reg : BitVec 3) (hsp : reg = 6 → mtpSp)
    (v : Word) :
    InContext mtpSp r (r'.dcj11WriteModeReg (dcj11PswPrevModeMxpi r.psw) reg v) := by
  have hnorm : pswModeNormalize (dcj11PswPrevModeMxpi r.psw) = dcj11PswPrevModeMxpi r.psw := by
    unfold dcj11PswPrevModeMxpi
    generalize (r.psw >>> 12).setWidth 2 = pm
    revert pm
    decide
  unfold dcj11WriteModeReg
  dsimp only
  rw [hnorm]
  split
  · exact h.congr rfl rfl rfl rfl rfl (h.stackRegs.congr rfl rfl)
  · rename_i hreg
    have hwritten := h.fillStacks.writeModeSp (hsp (by grind)) v
    split
    · exact hwritten.congr rfl rfl rfl rfl rfl (hwritten.stackRegs.congr rfl rfl)
    · exact hwritten

end InContext

end Regs

/-- The operations of a step but its first one and those of HALT, RESET, RTI and RTT. -/
def Micro.ordinary : Micro → Bool
  | stepBegin | dcj11Halt | returnPsw _ | hostReset _ _ _ => false
  | _ => true

/-- No way out of user mode; a write of the previous mode's stack pointer only with `mtpSp`. -/
structure Micro.Allowed (mtpSp : Prop) (op : Micro) : Prop where
  escapes : op.escapes = false
  mtp : ∀ v, op = .writePrevModeReg 6 v → mtpSp

theorem dcj11KernelPsw_user {psw : Word} (huser : mmuModeFromPsw psw = 3) :
    dcj11KernelPsw psw = false := by
  unfold dcj11KernelPsw
  rw [huser]
  rfl

/-- An operation that can happen in user mode keeps the context and has no privileged effect. -/
theorem Regs.InContext.step {mtpSp : Prop} {r r' : Regs} (h : InContext mtpSp r r')
    (huser : mmuModeFromPsw r.psw = 3) {op : Micro} (hord : op.ordinary = true)
    (hop : op.Allowed mtpSp) (henabled : op.enabled r' = true) :
    InContext mtpSp r (op.apply r') ∧ op.privileged = false := by
  have hbefore : dcj11KernelPsw r'.pswBefore = false := by
    rw [h.pswBefore]
    exact dcj11KernelPsw_user huser
  by_cases hfile : op.touchesFile = false
  · obtain ⟨-, hpsw, hbank, hinit, hsp, hspInit⟩ := Regs.file_eq_iff.1 (Micro.file_apply hfile r')
    have hkept : (op.apply r').pswBefore = r'.pswBefore := by
      refine Micro.pswBefore_apply ?_ r'
      rintro rfl
      cases hord
    refine ⟨h.congr (Micro.model_apply op r') hkept (by rw [hpsw]) hbank hinit
      (h.stackRegs.congr hsp hspInit), ?_⟩
    cases op with
    | resetState b =>
      rw [Micro.enabled, h.model, hbefore] at henabled
      cases henabled
    | hostReset => cases hord
    | haltPsw | dcj11Halt | spl => cases hfile
    | _ => rfl
  cases op with
  | setR i v => exact ⟨h.congr rfl rfl rfl rfl rfl (h.stackRegs.congr rfl rfl), rfl⟩
  | setCc n z v c => exact ⟨h.setCc n z v c, rfl⟩
  | mtps value => exact ⟨h.editPsw (context_mtpsPsw h.model hbefore value), rfl⟩
  | readPrevModeReg reg => exact ⟨h.readModeReg _ reg, rfl⟩
  | writePrevModeReg reg v =>
    have hwritten := h.writePrevModeReg reg (fun hreg => hop.mtp v (by rw [hreg])) v
    rw [← h.pswBefore] at hwritten
    exact ⟨hwritten, rfl⟩
  | spl level =>
    rw [Micro.enabled, hbefore] at henabled
    cases henabled
  | haltPsw | loadCopies | clearH | restorePsw | fisPsw =>
    rw [Micro.enabled, h.model] at henabled
    cases henabled
  | returnPsw | dcj11Halt => cases hord
  | regStoreByte | regStoreWord | enterVector | redStackRestore | emergencyStack | csmEnter | fisErrorPsw =>
    cases hop.escapes
  | _ => exact absurd rfl hfile

/-! ## RTI and RTT -/

namespace Regs

variable {mtpSp : Prop} {r r' : Regs}

theorem setReg_live {set : Bool} (h : dcj11PswRegset r.psw = set) (i : BitVec 3) :
    r.setReg set i = r.r i := if_pos h

theorem setReg_banked {set : Bool} (h : dcj11PswRegset r.psw ≠ set) (i : BitVec 3) :
    r.setReg set i = r.rsetBank set i := if_neg h

theorem InContext.confined (h : InContext mtpSp r r') (huser : mmuModeFromPsw r.psw = 3) :
    Confined mtpSp r r' where
  mode := (mode_of_context h.context).trans huser
  priority := and_of_context h.context rfl
  setOnly := by
    have hsame : r'.psw &&& 0o174000 = r.psw &&& 0o174000 := and_of_context h.context rfl
    rw [BitVec.and_assoc, BitVec.and_comm 0o174000, hsame, ← BitVec.and_assoc, BitVec.and_self]
  stackRegs := h.stackRegs
  otherSet _ i _ := by
    have hother : dcj11PswRegset r.psw ≠ !dcj11PswRegset r.psw := by simp
    have hother' : dcj11PswRegset r'.psw ≠ !dcj11PswRegset r.psw := by
      rwa [regset_of_context h.context]
    rw [setReg_banked hother', setReg_banked hother, h.banks]

end Regs

/-- Of the bits of `keep` those of `old` are kept. -/
theorem keep_of_merge (old new keep : Word) :
    ((new &&& ~~~keep) ||| (old &&& keep)) &&& keep = old &&& keep := by
  ext i hi
  simp only [BitVec.getElem_and, BitVec.getElem_or, BitVec.getElem_not]
  cases keep[i] <;> simp

/-- Of the bits of `set` none of `old` is lost. -/
theorem set_of_merge {set keep : Word} (hdisjoint : set &&& keep = 0) (old new : Word) :
    old &&& set &&& ((((new &&& ~~~set) ||| ((new ||| old) &&& set)) &&& ~~~keep) ||| (old &&& keep)) =
      old &&& set := by
  ext i hi
  have hbit := congrArg (fun v : Word => v[i]) hdisjoint
  simp only [BitVec.getElem_and, BitVec.getElem_or, BitVec.getElem_not] at hbit ⊢
  cases hset : set[i] with
  | false => simp
  | true =>
    cases hkeep : keep[i] with
    | false => cases old[i] <;> simp
    | true => simp [hset, hkeep] at hbit

theorem priority_dcj11RtiRttProtectPsw (old new : Word) :
    dcj11RtiRttProtectPsw old new &&& 0o340 = old &&& 0o340 :=
  keep_of_merge old _ 0o340

theorem setOnly_dcj11RtiRttProtectPsw (old new : Word) :
    old &&& 0o174000 &&& dcj11RtiRttProtectPsw old new = old &&& 0o174000 :=
  set_of_merge rfl old new

theorem mode_dcj11RtiRttProtectPsw {old : Word} (huser : mmuModeFromPsw old = 3) (new : Word) :
    mmuModeFromPsw (dcj11RtiRttProtectPsw old new) = 3 := by
  have hset := congrArg mmuModeFromPsw (setOnly_dcj11RtiRttProtectPsw old new)
  rw [mmuModeFromPsw_and, mmuModeFromPsw_and, huser,
    show (3 : BitVec 2) &&& mmuModeFromPsw 0o174000 = BitVec.allOnes 2 from rfl,
    BitVec.allOnes_and] at hset
  exact hset

theorem returnPsw_user {r : Regs} (hmodel : r.model = .dcj11)
    (huser : mmuModeFromPsw r.pswBefore = 3) (popped : Word) :
    returnPsw r popped = dcj11RtiRttProtectPsw r.pswBefore popped := by
  have hvm2 : ¬ r.model.isVm2 = true := by
    rw [hmodel]
    decide
  have hprotected : r.model = .dcj11 ∧ (!dcj11KernelPsw r.pswBefore) = true :=
    ⟨hmodel, by simp [dcj11KernelPsw_user huser]⟩
  unfold returnPsw
  rw [if_neg hvm2, if_pos hprotected]

/-- A PSW of the same mode exchanges at most R0..R5. -/
theorem Regs.dcj11SetPsw_sameMode {r : Regs} (hmodel : r.model = .dcj11) {psw : Word}
    (hmode : mmuModeFromPsw psw = mmuModeFromPsw r.psw) :
    r.dcj11SetPsw psw = { r.dcj11SwitchRegset r.psw psw with psw := psw } := by
  have hstack : r.dcj11SwitchStackMode r.psw psw = r := by
    have hsame : dcj11PswCurMode r.psw = dcj11PswCurMode psw := by
      unfold dcj11PswCurMode
      rw [hmode]
    unfold dcj11SwitchStackMode
    rw [if_neg (not_not_intro hmodel)]
    exact if_pos hsame
  unfold dcj11SetPsw
  dsimp only
  rw [if_pos hmodel, hstack]

theorem Regs.dcj11RegsetInit_init {r : Regs} (hmodel : r.model = .dcj11) :
    r.dcj11RegsetInit.rsetBankInit = true := by
  unfold dcj11RegsetInit
  rw [if_neg (not_not_intro hmodel)]
  split
  · assumption
  · rfl

theorem Regs.dcj11RegsetInit_done {r : Regs} (hinit : r.rsetBankInit = true) :
    r.dcj11RegsetInit = r := by
  simp [dcj11RegsetInit, hinit]

/-- A change of register set brings in the bank of the new one, once the banks are told apart. -/
theorem Regs.dcj11SwitchRegset_other {r : Regs} (hmodel : r.model = .dcj11) {psw : Word}
    (hinit : (r.dcj11SwitchRegset r.psw psw).rsetBankInit = r.rsetBankInit)
    (hother : dcj11PswRegset r.psw ≠ dcj11PswRegset psw) {i : BitVec 3} (hi : i < 6) :
    (r.dcj11SwitchRegset r.psw psw).r i = r.rsetBank (dcj11PswRegset psw) i := by
  unfold dcj11SwitchRegset at hinit ⊢
  dsimp only at hinit ⊢
  rw [if_neg (not_not_intro hmodel), if_neg hother] at hinit ⊢
  have hbanks : r.rsetBankInit = true := hinit.symm.trans (dcj11RegsetInit_init hmodel)
  rw [dcj11RegsetInit_done hbanks]
  exact if_pos hi

/-- RTI and RTT exchange R0..R5 when they set PSW<11>. Nothing else of the protected state is
    reached. -/
theorem Regs.InContext.confined_returnPsw {mtpSp : Prop} {r r' : Regs} (h : InContext mtpSp r r')
    (huser : mmuModeFromPsw r.psw = 3) (popped : Word) :
    Confined mtpSp r ((Micro.returnPsw popped).apply r') := by
  have hbefore : mmuModeFromPsw r'.pswBefore = 3 := by rwa [h.pswBefore]
  have hmode : mmuModeFromPsw (dcj11RtiRttProtectPsw r.psw popped) = mmuModeFromPsw r'.psw := by
    rw [mode_dcj11RtiRttProtectPsw huser, mode_of_context h.context, huser]
  have hset : (Micro.returnPsw popped).apply r' =
      { r'.dcj11SwitchRegset r'.psw (dcj11RtiRttProtectPsw r.psw popped) with
        psw := dcj11RtiRttProtectPsw r.psw popped } := by
    rw [Micro.apply, returnPsw_user h.model hbefore, h.pswBefore, dcj11SetPsw_sameMode h.model hmode]
  obtain ⟨-, hsp, hspInit⟩ :=
    sameSps_dcj11SwitchRegset r'.psw (dcj11RtiRttProtectPsw r.psw popped) r'
  rw [hset]
  refine ⟨mode_dcj11RtiRttProtectPsw huser popped, priority_dcj11RtiRttProtectPsw _ _,
    setOnly_dcj11RtiRttProtectPsw _ _, h.stackRegs.congr hsp hspInit, ?_⟩
  generalize dcj11RtiRttProtectPsw r.psw popped = psw
  intro hinit i hi
  have hold : dcj11PswRegset r.psw ≠ !dcj11PswRegset r.psw := by simp
  rw [setReg_banked hold, ← h.banks]
  by_cases hsame : dcj11PswRegset r'.psw = dcj11PswRegset psw
  · have hswitch : r'.dcj11SwitchRegset r'.psw psw = r' := by
      unfold dcj11SwitchRegset
      rw [if_neg (not_not_intro h.model)]
      exact if_pos hsame
    rw [hswitch]
    refine if_neg ?_
    rwa [← hsame, regset_of_context h.context]
  · have hnew : dcj11PswRegset psw = !dcj11PswRegset r.psw := by
      rw [regset_of_context h.context] at hsame
      exact (Bool.eq_not_of_ne (Ne.symm hsame))
    have hlive := dcj11SwitchRegset_other h.model (hinit.trans h.banksInit.symm) hsame hi
    rw [hnew] at hlive
    exact (if_pos hnew).trans hlive

/-! ## The parts of a step -/

/-- The operations after the instruction. -/
def Micro.inStepEnd : Micro → Bool
  | setTrap _ | tveTick | stackTrap _ | saveCopies => true
  | op => op.inTrap

/-- Once RTI or RTT has loaded the PSW, the step no longer writes R0..R5 or the PSW. -/
theorem Regs.Confined.step {mtpSp : Prop} {r r' : Regs} (h : Confined mtpSp r r') {op : Micro}
    (hend : op.inStepEnd = true) (hop : op.Allowed mtpSp) :
    Confined mtpSp r (op.apply r') ∧ op.privileged = false := by
  by_cases hfile : op.touchesFile = false
  · obtain ⟨hr, hpsw, hbank, hinit, hsp, hspInit⟩ := Regs.file_eq_iff.1 (Micro.file_apply hfile r')
    refine ⟨⟨by rw [hpsw, h.mode], by rw [hpsw, h.priority], by rw [hpsw, h.setOnly],
      h.stackRegs.congr hsp hspInit, fun hsame i hi => ?_⟩, ?_⟩
    · rw [hinit] at hsame
      rw [← h.otherSet hsame i hi]
      unfold setReg
      rw [hr, hpsw, hbank]
    · cases op with
      | haltPsw | dcj11Halt | resetState | hostReset | spl => cases hend
      | _ => rfl
  · cases op with
    | setR i v =>
      refine ⟨⟨h.mode, h.priority, h.setOnly, h.stackRegs.congr rfl rfl, fun hsame j hj => ?_⟩, rfl⟩
      have hi : i = 6 ∨ i = 7 := by simpa [Micro.inStepEnd, Micro.inTrap] using hend
      have hne : j ≠ i := by
        rintro rfl
        rcases hi with rfl | rfl <;> revert hj <;> decide
      have hkept : Function.update r'.r i v j = r'.r j := Function.update_of_ne hne ..
      rw [← h.otherSet hsame j hj]
      unfold setReg
      rw [← hkept]
      rfl
    | regStoreByte | regStoreWord | enterVector | redStackRestore | emergencyStack => cases hop.escapes
    | setCc | haltPsw | dcj11Halt | fisPsw | fisErrorPsw | returnPsw | mtps | spl | csmEnter
    | readPrevModeReg | writePrevModeReg | loadCopies | clearH | restorePsw => cases hend
    | _ => exact absurd rfl hfile

/-- A part of a step, none of its operations privileged. -/
abbrev UserTriple (mtpSp : Prop) (P Q : Regs → Prop) {α : Type} (p : M β α) : Prop :=
  p.Triple (Micro.Allowed mtpSp) (fun op => op.privileged = false) P Q

/-- The halt line is a way out. -/
theorem userTriple_takeHalt {mtpSp : Prop} {P Q : Regs → Prop} (e : Env β) :
    UserTriple mtpSp P Q e.takeHalt := by
  have hhalt : UserTriple mtpSp P (fun _ => False) (perform (.setHaltSignal false) : M β Unit) :=
    .perform (fun _ _ => rfl) fun _ _ hop => by cases hop.escapes
  exact .bind hhalt (fun _ => .absurd fun _ => id) fun _ => False.elim

section

variable {mtpSp : Prop} {r : Regs} {α : Type} {p : M β α} {F : Option Stuck → Regs → Prop}

theorem userTriple_ordinary (huser : mmuModeFromPsw r.psw = 3)
    (hp : p.Within (fun op => op.ordinary = true) F) :
    UserTriple mtpSp (r.InContext mtpSp) (r.InContext mtpSp) p :=
  .of_within hp fun _ _ hord hop henabled hr => hr.step huser hord hop henabled

theorem userTriple_stepEnd (hp : p.Within (fun op => op.inStepEnd = true) F) :
    UserTriple mtpSp (r.Confined mtpSp) (r.Confined mtpSp) p :=
  .of_within hp fun _ _ hend hop _ hr => hr.step hend hop

end

theorem nested_ordinary (h : Host β) (n : Nat) :
    (Env.nested h n).WithinInstr (fun op => op.ordinary = true) fun _ _ => True where
  toWithin := by
    refine .nested h (fun op hop => ?_) (fun _ => trivial) n
    cases op <;> first | rfl | cases hop
  instrOps op hop := by
    cases op <;> first | rfl | cases hop
  leaves _ := trivial

theorem nested_stepEnd (h : Host β) (n : Nat) :
    (Env.nested h n).Within (fun op => op.inStepEnd = true) fun _ _ => True := by
  refine .nested h (fun op hop => ?_) (fun _ => trivial) n
  cases op <;> first | rfl | exact hop

theorem userTriple_afterInstruction {mtpSp : Prop} {r : Regs} (h : Host β) (n k : Nat)
    (skipTrace deferHalt : Bool) (l : Locals) :
    UserTriple mtpSp (r.Confined mtpSp) (r.Confined mtpSp)
      ((Env.nested h n).stepEnd k skipTrace deferHalt l) := by
  have he := nested_stepEnd h n
  have hkeep : ∀ r', r.Confined mtpSp r' → r.Confined mtpSp r' := fun _ => id
  have hend {α : Type} {p : M β α} (hp : p.Within (fun op => op.inStepEnd = true) fun _ _ => True) :
      UserTriple mtpSp (r.Confined mtpSp) (r.Confined mtpSp) p := userTriple_stepEnd hp
  refine .bind (hend (.perform rfl)) (fun _ => .bind (hend (.read _)) (fun _ => ?_) hkeep) hkeep
  refine .bind (hend (.read _)) (fun _ => .bind (.when (userTriple_takeHalt _)) (fun _ => hend ?_) hkeep)
    hkeep
  refine .bind (.when (he.takeVectorHere _)) fun _ => ?_
  refine .bind (he.dcj11ServiceStackTrap fun _ => rfl) fun _ => .bind (.when (.leave fun _ => trivial)) fun _ => ?_
  refine .bind (.when (.bind (.read _) fun _ => .ite (he.irqLoop (fun _ => trivial) k) ?_)) fun _ => ?_
  · exact .bind he.serviceIrq fun _ => .pure _
  · exact .bind (.read _) fun _ => .when (.perform rfl)

section

variable {mtpSp : Prop} {r : Regs} (huser : mmuModeFromPsw r.psw = 3) (h : Host β) (n k : Nat)

include huser

theorem userTriple_haltAtStart :
    UserTriple mtpSp (r.InContext mtpSp) (r.InContext mtpSp) (Env.nested h n).haltAtStart := by
  have hop {op : Micro} (hord : op.ordinary = true) :
      UserTriple mtpSp (r.InContext mtpSp) (r.InContext mtpSp) (perform op : M β Unit) :=
    userTriple_ordinary (F := fun _ _ => True) huser (.perform hord)
  have hkeep : ∀ r', r.InContext mtpSp r' → r.InContext mtpSp r' := fun _ => id
  refine .bind (userTriple_ordinary (F := fun _ _ => True) huser (.read _)) (fun r' => ?_) hkeep
  refine .ite (fun _ => .pure _) fun _ => .ite (fun _ => ?_) fun _ => .ite (fun _ => ?_) fun _ => ?_
  · exact .bind (hop rfl) (fun _ => .pure _) hkeep
  · exact .bind (hop rfl) (fun _ => .pure _) hkeep
  · exact .bind (userTriple_takeHalt _) (fun _ => .pure _) hkeep

/-- HALT traps. -/
theorem userTriple_halt :
    UserTriple mtpSp (r.InContext mtpSp) (r.InContext mtpSp) (Env.nested h n).halt := by
  refine .read fun s hs => .ite (fun _ => ?_) fun hkernel => ?_
  · have htrap : (do perform (.setCpuerr Regs.cpuerrHalt); (Env.nested h n).takeVectorHere 4 : M β Unit).Within
        (fun op => op.ordinary = true) fun _ _ => True :=
      .bind (.perform rfl) fun _ => (nested_ordinary h n).toWithin.takeVectorHere 4
    refine (userTriple_ordinary huser htrap).mono ?_ fun _ => id
    rintro _ rfl
    exact hs
  · rw [hs.pswBefore, dcj11KernelPsw_user huser] at hkernel
    exact absurd ⟨hs.model, rfl⟩ hkernel

/-- RESET does nothing. -/
theorem userTriple_reset :
    UserTriple mtpSp (r.InContext mtpSp) (r.InContext mtpSp) (Env.nested h n).reset := by
  refine .read fun s hs => .ite (fun _ => ?_) fun hkernel => ?_
  · refine Program.Triple.mono (.pure _) ?_ fun _ => id
    rintro _ rfl
    exact hs
  · rw [hs.pswBefore, dcj11KernelPsw_user huser] at hkernel
    exact absurd ⟨hs.model, rfl⟩ hkernel

theorem userTriple_returnFromTrap :
    UserTriple mtpSp (r.InContext mtpSp) (r.Confined mtpSp) (Env.nested h n).returnFromTrap := by
  have he := nested_ordinary h n
  have hconfined : ∀ r', r.InContext mtpSp r' → r.Confined mtpSp r' := fun _ hr => hr.confined huser
  refine .bind (userTriple_ordinary huser he.toWithin.pullw) (fun pc => ?_) hconfined
  refine .bind (userTriple_ordinary huser he.toWithin.pullw) (fun psw => ?_) hconfined
  refine .bind (userTriple_ordinary huser (he.setR 7 pc)) (fun _ => ?_) hconfined
  exact .perform (fun _ _ => rfl) fun _ hr _ => ⟨hr.confined_returnPsw huser psw, rfl⟩

theorem userTriple_execute (i : Instr) :
    UserTriple mtpSp (r.InContext mtpSp) (r.Confined mtpSp) ((Env.nested h n).execute i) := by
  have hconfined : ∀ r', r.InContext mtpSp r' → r.Confined mtpSp r' := fun _ hr => hr.confined huser
  have hkeep : ∀ r', r.Confined mtpSp r' → r.Confined mtpSp r' := fun _ => id
  have hend {α : Type} {p : M β α} (hp : p.Within (fun op => op.inStepEnd = true) fun _ _ => True) :
      UserTriple mtpSp (r.Confined mtpSp) (r.Confined mtpSp) p := userTriple_stepEnd hp
  cases i with
  | halt => exact (Program.Triple.bind (userTriple_halt huser h n) (fun _ => .pure _) fun _ => id).mono (fun _ => id) hconfined
  | reset => exact (Program.Triple.bind (userTriple_reset huser h n) (fun _ => .pure _) fun _ => id).mono (fun _ => id) hconfined
  | rti =>
    refine .bind (userTriple_returnFromTrap huser h n) (fun _ => hend ?_) hkeep
    exact .bind (.read _) fun _ => .pure _
  | rtt =>
    refine .bind (userTriple_returnFromTrap huser h n) (fun _ => hend ?_) hkeep
    exact .bind (.read _) fun _ => .ite (.pure _) (.bind (.perform rfl) fun _ => .pure _)
  | _ => exact (userTriple_ordinary huser ((nested_ordinary h n).execute rfl)).mono (fun _ => id) hconfined

theorem userTriple_stepBody (hmodel : r.model = .dcj11) :
    UserTriple mtpSp (· = r) (r.Confined mtpSp) ((Env.nested h n).stepBody k) := by
  have he := nested_ordinary h n
  have hconfined : ∀ r', r.InContext mtpSp r' → r.Confined mtpSp r' := fun _ hr => hr.confined huser
  have hord {α : Type} {p : M β α} (hp : p.Within (fun op => op.ordinary = true) fun _ _ => True) :
      UserTriple mtpSp (r.InContext mtpSp) (r.InContext mtpSp) p := userTriple_ordinary huser hp
  have hbegin : UserTriple mtpSp (· = r) (r.InContext mtpSp) (perform .stepBegin : M β Unit) := by
    refine .perform (fun _ _ => rfl) fun r' hr _ => ?_
    rw [hr]
    exact ⟨⟨hmodel, rfl, rfl, rfl, rfl, (Regs.StacksKept.refl r).congr rfl rfl⟩, rfl⟩
  have hstart : Program.Within (fun op => op.ordinary = true) (fun _ _ => True)
      (Env.leaveClearingAbort : M β Unit) := Env.Within.leaveClearingAbort (fun _ => trivial) rfl
  refine .read fun s hs => ?_
  rw [hs]
  refine .bind hbegin (fun _ => ?_) hconfined
  refine .bind (hord hstart) (fun _ => ?_) hconfined
  refine .bind (userTriple_haltAtStart huser h n) (fun deferHalt => ?_) hconfined
  refine .bind (hord (he.toWithin.waitAtStart (fun _ => trivial) rfl)) (fun _ => ?_) hconfined
  have hfetch : (Env.nested h n).fetch.Within (fun op => op.ordinary = true) fun _ _ => True := by
    refine he.toWithin.fetch (fun _ => trivial) fun op hop => ?_
    cases op <;> first | rfl | cases hop
  refine .bind (hord hfetch) (fun op => ?_) hconfined
  refine .bind (hord (.read _)) (fun r' => ?_) hconfined
  exact .bind (userTriple_execute huser h n _)
    (fun l => userTriple_afterInstruction h n k r.fTrap deferHalt l) fun _ => id

end

/-- A step in user mode that stores into no on-chip register, enters no vector and does not serve the
    halt line stays confined to user mode. -/
theorem user_step_confined {h : Host β} {n k : Nat} {m m' : Machine β}
    (hmodel : m.core.model = .dcj11) (huser : mmuModeFromPsw m.core.psw = 3)
    (hrun : (coreStep h n k).run m = .done () m') (hops : ∀ op ∈ m.since m', op.escapes = false) :
    m.core.Confined (∃ v, .writePrevModeReg 6 v ∈ m.since m') m'.core ∧
      ∀ op ∈ m.since m', op.privileged = false := by
  have hbody : UserTriple (∃ v, .writePrevModeReg 6 v ∈ m.since m') (· = m.core)
      (m.core.Confined (∃ v, .writePrevModeReg 6 v ∈ m.since m')) ((Env.nested h n).stepBody k) :=
    userTriple_stepBody huser h n k hmodel
  have hstep := hbody.routine
  have hallowed : ∀ op ∈ m.since m',
      op.Allowed (∃ v, .writePrevModeReg 6 v ∈ m.since m') := fun op hop =>
    ⟨hops op hop, fun v hv => ⟨v, hv ▸ hop⟩⟩
  have hends := hstep.ends m rfl
  have hlog := hstep.ops m rfl
  rw [show (Program.routine ((Env.nested h n).stepBody k)).run m = .done () m' from hrun] at hends hlog
  exact ⟨hends hallowed, hlog hallowed⟩

/-- MTPx to a register. -/
def Micro.writesPrevMode : Micro → Bool
  | writePrevModeReg _ _ => true
  | _ => false

/-- A J-11 in user mode about to run one instruction, with 03000 and 04340 on its stack. -/
def userMachine (op : Word) (setsFilled stacksFilled : Bool) : Machine Memory where
  core := {
    model := .dcj11, psw := 0o140000
    r := fun i => if i = 7 then 0o2000 else if i = 6 then 0o1000 else 5
    rsetBankInit := setsFilled, spModeInit := stacksFilled }
  bus := ((Memory.ofWords 0o2000 [op]).setWord 0o1000 0o1001 0o3000).setWord 0o1002 0o1003 0o4340

def userMachineAfter (op : Word) (setsFilled stacksFilled : Bool) : Machine Memory :=
  ((coreStep (hwstub true) 1 1).run (userMachine op setsFilled stacksFilled)).state

/-- RTI that asks for the other register set and for priority 7. -/
theorem user_step_confined_rti :
    (userMachine 0o2 true true).core.Confined
        (∃ v, .writePrevModeReg 6 v ∈ (userMachine 0o2 true true).since (userMachineAfter 0o2 true true))
        (userMachineAfter 0o2 true true).core ∧
      ∀ op ∈ (userMachine 0o2 true true).since (userMachineAfter 0o2 true true), op.privileged = false :=
  have hrun : (coreStep (hwstub true) 1 1).run (userMachine 0o2 true true) =
    .done () (userMachineAfter 0o2 true true) := rfl
  user_step_confined rfl rfl hrun (by decide)

/-- The first change of register set gives the other set the live registers, and the first look at
    the previous stack pointer, here by MFPI, gives kernel mode the live one. -/
theorem first_fill_reaches_other_context :
    ((coreStep (hwstub true) 1 1).run (userMachine 0o2 false true) =
        .done () (userMachineAfter 0o2 false true) ∧
      (∀ op ∈ (userMachine 0o2 false true).since (userMachineAfter 0o2 false true),
        op.escapes = false) ∧
      (userMachineAfter 0o2 false true).core.setReg true 0 ≠
        (userMachine 0o2 false true).core.setReg true 0) ∧
    (coreStep (hwstub true) 1 1).run (userMachine 0o6506 true false) =
        .done () (userMachineAfter 0o6506 true false) ∧
      (∀ op ∈ (userMachine 0o6506 true false).since (userMachineAfter 0o6506 true false),
        op.escapes = false) ∧
      (¬ ∃ v, .writePrevModeReg 6 v ∈
        (userMachine 0o6506 true false).since (userMachineAfter 0o6506 true false)) ∧
      (userMachineAfter 0o6506 true false).core.spMode 0 ≠
        (userMachine 0o6506 true false).core.spMode 0 := by
  refine ⟨⟨rfl, by decide, by decide⟩, rfl, by decide, ?_, by decide⟩
  have hnone : ∀ op ∈ (userMachine 0o6506 true false).since (userMachineAfter 0o6506 true false),
      op.writesPrevMode = false := by decide
  rintro ⟨v, hv⟩
  cases hnone _ hv

end K1801.Core
