import K1801.Core.Frames
import K1801.Core.Hwstub

/-! # Register banking

The architectural register file has two sets of R0..R5 and one SP for each processor mode.
The core keeps the live registers in `Regs.r` and the others in two side arrays. The arrays
are filled from the live registers when they are first needed, so until then a write is
seen in every context.
-/

namespace K1801.Core

open Library

/-! ## The architectural register file -/

/-- `setsShared` and `spsShared` hold until the contexts are told apart for the first time. -/
structure RegisterFile where
  bank : Bool → BitVec 3 → Word
  sp : BitVec 2 → Word
  psw : Word
  setsShared : Bool
  spsShared : Bool

/-- The operations on banked registers. -/
inductive BankOp where
  /-- `dcj11_set_psw`: RTI, RTT, traps and explicit stores. -/
  | setPsw (newPsw : Word)
  | spl (level : BitVec 3)
  | mtps (value : Byte)
  | csm
  | writeReg (i : BitVec 3) (v : Word)
  | readModeSp (mode : BitVec 2)
  | writeModeSp (mode : BitVec 2) (v : Word)
  | emergencyStack

/-- The PSW that CSM leaves. -/
def csmPsw (psw : Word) : Word :=
  dcj11PswSetCurMode (dcj11PswSetPrevMode psw (dcj11PswCurMode psw)) 1 &&& ~~~flagT

def splPsw (psw : Word) (level : BitVec 3) : Word :=
  (psw &&& ~~~(0o340 : Word)) ||| (level.setWidth 16 <<< 5)

namespace RegisterFile

def mode (f : RegisterFile) : BitVec 2 := dcj11PswCurMode f.psw

def set (f : RegisterFile) : Bool := dcj11PswRegset f.psw

/-- R0..R6 as the current context sees them. -/
def read (f : RegisterFile) (i : BitVec 3) : Word := if i = 6 then f.sp f.mode else f.bank f.set i

def setPsw (newPsw : Word) (f : RegisterFile) : RegisterFile :=
  { f with
    psw := newPsw
    setsShared := f.setsShared && f.set == dcj11PswRegset newPsw
    spsShared := f.spsShared && f.mode == dcj11PswCurMode newPsw }

def writeSp (v : Word) (f : RegisterFile) : RegisterFile :=
  { f with sp := if f.spsShared then fun _ => v else Function.update f.sp f.mode v }

def writeSet (i : BitVec 3) (v : Word) (f : RegisterFile) : RegisterFile :=
  { f with
    bank := if f.setsShared then fun set => Function.update (f.bank set) i v
      else Function.update f.bank f.set (Function.update (f.bank f.set) i v) }

def writeModeSp (mode : BitVec 2) (v : Word) (f : RegisterFile) : RegisterFile :=
  { f with sp := Function.update f.sp (pswModeNormalize mode) v, spsShared := false }

def csm (f : RegisterFile) : RegisterFile :=
  { f with
    sp := Function.update f.sp 1 (f.sp f.mode - 6)
    psw := csmPsw f.psw
    spsShared := false }

def step (f : RegisterFile) : BankOp → RegisterFile
  | .setPsw newPsw => f.setPsw newPsw
  | .spl level => f.setPsw (splPsw f.psw level)
  | .mtps value => f.setPsw (mtpsPsw { model := .dcj11, psw := f.psw, pswBefore := f.psw } value)
  | .csm => f.csm
  | .writeReg i v => if i = 6 then f.writeSp v else if i < 6 then f.writeSet i v else f
  | .readModeSp _ => { f with spsShared := false }
  | .writeModeSp mode v => f.writeModeSp mode v
  | .emergencyStack => f.writeModeSp 0 4

/-- Contexts that were never shared: the textbook register file. -/
def Independent (f : RegisterFile) : Prop := f.setsShared = false ∧ f.spsShared = false

end RegisterFile

/-- What the core does. -/
def Regs.bankStep (r : Regs) : BankOp → Regs
  | .setPsw newPsw => r.dcj11SetPsw newPsw
  | .spl level => { r with psw := splPsw r.psw level }
  | .mtps value => { r with psw := mtpsPsw { r with pswBefore := r.psw } value }
  | .csm => { r with pswBefore := r.psw }.csmEnter (r.r 6)
  | .writeReg i v => { r with r := Function.update r.r i v }
  | .readModeSp mode => (r.dcj11ReadModeReg mode 6).2
  | .writeModeSp mode v => r.dcj11WriteModeReg mode 6 v
  | .emergencyStack => r.emergencyStack

/-! ## PSW changes that keep the context -/

theorem mode_splPsw (psw : Word) (level : BitVec 3) :
    mmuModeFromPsw (splPsw psw level) = mmuModeFromPsw psw := by
  have hlevel : mmuModeFromPsw (level.setWidth 16 <<< 5) = 0 := by
    revert level
    decide
  unfold splPsw
  rw [mmuModeFromPsw_or, mmuModeFromPsw_and, hlevel]
  exact (BitVec.or_zero).trans BitVec.and_allOnes

theorem regset_splPsw (psw : Word) (level : BitVec 3) :
    dcj11PswRegset (splPsw psw level) = dcj11PswRegset psw := by
  have hlevel : dcj11PswRegset (level.setWidth 16 <<< 5) = false := by
    revert level
    decide
  unfold splPsw
  rw [dcj11PswRegset_or, dcj11PswRegset_and, hlevel, Bool.or_false]
  exact Bool.and_true _

/-- The low byte that MTPS stores has no mode and no register set. -/
theorem mtps_low (r : Regs) (value : Byte) :
    ∃ low, mtpsPsw r value = (r.psw &&& 0o177000) ||| (r.psw &&& (flagT ||| flagH)) ||| low ∧
      mmuModeFromPsw low = 0 ∧ dcj11PswRegset low = false := by
  have hlow : mmuModeFromPsw (value.setWidth 16 &&& 0o357) = 0 ∧
      dcj11PswRegset (value.setWidth 16 &&& 0o357) = false := by
    rw [mmuModeFromPsw_and, dcj11PswRegset_and]
    exact ⟨BitVec.and_zero, Bool.and_false _⟩
  unfold mtpsPsw
  dsimp only
  refine ⟨_, rfl, ?_⟩
  split
  · rw [mmuModeFromPsw_or, dcj11PswRegset_or, mmuModeFromPsw_and, dcj11PswRegset_and, hlow.1, hlow.2,
      mmuModeFromPsw_and, dcj11PswRegset_and]
    refine ⟨?_, Bool.and_false _⟩
    have hipl : mmuModeFromPsw r.psw &&& mmuModeFromPsw 0o340 = 0 := BitVec.and_zero
    rw [hipl]
    rfl
  · exact hlow

theorem mode_mtpsPsw (r : Regs) (value : Byte) :
    mmuModeFromPsw (mtpsPsw r value) = mmuModeFromPsw r.psw := by
  obtain ⟨low, heq, hmode, -⟩ := mtps_low r value
  have hhigh : mmuModeFromPsw r.psw &&& mmuModeFromPsw 0o177000 = mmuModeFromPsw r.psw :=
    BitVec.and_allOnes
  have hflags : mmuModeFromPsw r.psw &&& mmuModeFromPsw (flagT ||| flagH) = 0 := BitVec.and_zero
  rw [heq, mmuModeFromPsw_or, mmuModeFromPsw_or, hmode, mmuModeFromPsw_and, mmuModeFromPsw_and, hhigh,
    hflags]
  exact (BitVec.or_zero).trans BitVec.or_zero

theorem regset_mtpsPsw (r : Regs) (value : Byte) :
    dcj11PswRegset (mtpsPsw r value) = dcj11PswRegset r.psw := by
  obtain ⟨low, heq, -, hset⟩ := mtps_low r value
  have hhigh : (dcj11PswRegset r.psw && dcj11PswRegset 0o177000) = dcj11PswRegset r.psw :=
    Bool.and_true _
  have hflags : (dcj11PswRegset r.psw && dcj11PswRegset (flagT ||| flagH)) = false := Bool.and_false _
  rw [heq, dcj11PswRegset_or, dcj11PswRegset_or, hset, dcj11PswRegset_and, dcj11PswRegset_and, hhigh,
    hflags]
  simp

theorem mode_csmPsw (psw : Word) : dcj11PswCurMode (csmPsw psw) = 1 := by
  unfold dcj11PswCurMode csmPsw
  rw [mmuModeFromPsw_and, mmuModeFromPsw_setCurMode]
  rfl

theorem regset_csmPsw (psw : Word) : dcj11PswRegset (csmPsw psw) = dcj11PswRegset psw := by
  unfold csmPsw
  rw [dcj11PswRegset_and, dcj11PswRegset_setCurMode, dcj11PswRegset_setPrevMode]
  exact Bool.and_true _

/-! ## The simulation relation -/

/-- How the core holds the stack pointers in a mode. -/
structure SpsHeld (mode : BitVec 2) (r : Regs) (f : RegisterFile) : Prop where
  live : r.r 6 = f.sp mode
  flag : f.spsShared = !r.spModeInit
  shared : f.spsShared = true → ∀ k, f.sp k = f.sp mode
  saved : r.spModeInit = true → ∀ k, k ≠ 2 → k ≠ mode → r.spMode k = f.sp k

/-- How the core holds R0..R5 in a register set. -/
structure SetsHeld (set : Bool) (r : Regs) (f : RegisterFile) : Prop where
  live : ∀ i, i < 6 → r.r i = f.bank set i
  flag : f.setsShared = !r.rsetBankInit
  shared : f.setsShared = true → ∀ i, i < 6 → f.bank (!set) i = f.bank set i
  saved : r.rsetBankInit = true → ∀ i, i < 6 → r.rsetBank (!set) i = f.bank (!set) i

structure Represents (r : Regs) (f : RegisterFile) : Prop where
  model : r.model = .dcj11
  psw : r.psw = f.psw
  sps : SpsHeld f.mode r f
  sets : SetsHeld f.set r f

theorem pswModeNormalize_ne (mode : BitVec 2) : pswModeNormalize mode ≠ 2 := by
  unfold pswModeNormalize
  split
  · decide
  · assumption

theorem dcj11PswCurMode_ne (psw : Word) : dcj11PswCurMode psw ≠ 2 := pswModeNormalize_ne _

/-- R0..R6 agree. -/
theorem Represents.read {r : Regs} {f : RegisterFile} (h : Represents r f) {i : BitVec 3}
    (hi : i ≠ 7) : r.r i = f.read i := by
  unfold RegisterFile.read
  by_cases h6 : i = 6
  · rw [if_pos h6, h6]
    exact h.sps.live
  · rw [if_neg h6]
    exact h.sets.live i (by bv_omega)

/-! ## The two halves of the register file do not meet -/

/-- R0..R5 and their banks -/
def Regs.SameSets (r r' : Regs) : Prop :=
  (∀ i, i < 6 → r'.r i = r.r i) ∧ r'.rsetBank = r.rsetBank ∧ r'.rsetBankInit = r.rsetBankInit

/-- R6 and the stack pointers -/
def Regs.SameSps (r r' : Regs) : Prop :=
  r'.r 6 = r.r 6 ∧ r'.spMode = r.spMode ∧ r'.spModeInit = r.spModeInit

theorem Regs.SameSets.refl (r : Regs) : r.SameSets r := ⟨fun _ _ => rfl, rfl, rfl⟩

theorem Regs.SameSps.refl (r : Regs) : r.SameSps r := ⟨rfl, rfl, rfl⟩

theorem sameSets_dcj11SpModeInit (r : Regs) : r.SameSets r.dcj11SpModeInit := by
  unfold Regs.dcj11SpModeInit
  split
  · exact .refl r
  · split <;> exact .refl _

theorem sameSets_dcj11SwitchStackMode (oldPsw newPsw : Word) (r : Regs) :
    r.SameSets (r.dcj11SwitchStackMode oldPsw newPsw) := by
  unfold Regs.dcj11SwitchStackMode
  split
  · exact .refl r
  · dsimp only
    split
    · exact .refl r
    · obtain ⟨hr, hbank, hinit⟩ := sameSets_dcj11SpModeInit r
      refine ⟨?_, hbank, hinit⟩
      intro i hi
      have hne : i ≠ 6 := by bv_omega
      exact (Function.update_of_ne hne _ r.dcj11SpModeInit.r).trans (hr i hi)

theorem sameSps_dcj11RegsetInit (r : Regs) : r.SameSps r.dcj11RegsetInit := by
  unfold Regs.dcj11RegsetInit
  split
  · exact .refl r
  · split <;> exact .refl _

theorem sameSps_dcj11SwitchRegset (oldPsw newPsw : Word) (r : Regs) :
    r.SameSps (r.dcj11SwitchRegset oldPsw newPsw) := by
  unfold Regs.dcj11SwitchRegset
  split
  · exact .refl r
  · dsimp only
    split
    · exact .refl r
    · exact sameSps_dcj11RegsetInit r

/-! ## Stack pointers -/

namespace SpsHeld

variable {mode : BitVec 2} {r r' : Regs} {f f' : RegisterFile}

theorem congr (h : SpsHeld mode r f) (hr : r.SameSps r') (hsp : f'.sp = f.sp)
    (hs : f'.spsShared = f.spsShared) : SpsHeld mode r' f' where
  live := by rw [hr.1, hsp, h.live]
  flag := by rw [hs, hr.2.2, h.flag]
  shared hsh := by
    rw [hsp]
    exact h.shared (hs ▸ hsh)
  saved hin := by
    rw [hr.2.1, hsp]
    exact h.saved (hr.2.2 ▸ hin)

/-- Telling the stack pointers apart changes none of them. -/
theorem init (h : SpsHeld mode r f) (hmodel : r.model = .dcj11) :
    SpsHeld mode r.dcj11SpModeInit { f with spsShared := false } := by
  unfold Regs.dcj11SpModeInit
  rw [if_neg (not_not.2 hmodel)]
  cases hin : r.spModeInit with
  | true => exact ⟨h.live, by simp [hin], nofun, fun _ => h.saved hin⟩
  | false =>
    have hsh : f.spsShared = true := by rw [h.flag, hin]; rfl
    refine ⟨h.live, rfl, nofun, fun _ k _ _ => ?_⟩
    exact h.live.trans (h.shared hsh k).symm

theorem dcj11SpModeInit_init (hmodel : r.model = .dcj11) : r.dcj11SpModeInit.spModeInit = true := by
  unfold Regs.dcj11SpModeInit
  rw [if_neg (not_not.2 hmodel)]
  cases hin : r.spModeInit <;> simp [hin]

theorem switch (h : SpsHeld mode r f) (hmodel : r.model = .dcj11) {oldPsw : Word} (newPsw : Word)
    (hmode : mode = dcj11PswCurMode oldPsw) :
    SpsHeld (dcj11PswCurMode newPsw) (r.dcj11SwitchStackMode oldPsw newPsw)
      { f with spsShared := f.spsShared && mode == dcj11PswCurMode newPsw } := by
  unfold Regs.dcj11SwitchStackMode
  rw [if_neg (not_not.2 hmodel)]
  dsimp only
  by_cases heq : dcj11PswCurMode oldPsw = dcj11PswCurMode newPsw
  · rw [if_pos heq]
    subst hmode
    rw [heq] at h ⊢
    exact h.congr (.refl r) rfl (by simp)
  · rw [if_neg heq]
    subst hmode
    have hshared : (f.spsShared && dcj11PswCurMode oldPsw == dcj11PswCurMode newPsw) = false := by
      simp [heq]
    rw [hshared]
    have hinit := h.init hmodel
    have hflag := dcj11SpModeInit_init hmodel
    have hnew := hinit.saved hflag _ (dcj11PswCurMode_ne newPsw) (Ne.symm heq)
    refine ⟨?_, by simp [hflag], nofun, ?_⟩
    · have hspilled := Function.update_of_ne (Ne.symm heq) (r.dcj11SpModeInit.r 6)
        r.dcj11SpModeInit.spMode
      exact (Function.update_self 6 _ r.dcj11SpModeInit.r).trans (hspilled.trans hnew)
    · intro _ k hk2 hk
      by_cases hold : k = dcj11PswCurMode oldPsw
      · subst hold
        exact (Function.update_self _ _ r.dcj11SpModeInit.spMode).trans hinit.live
      · exact (Function.update_of_ne hold _ r.dcj11SpModeInit.spMode).trans
          (hinit.saved hflag k hk2 hold)

theorem writeSp (h : SpsHeld f.mode r f) (v : Word) :
    SpsHeld f.mode { r with r := Function.update r.r 6 v } (f.writeSp v) := by
  refine ⟨?_, h.flag, ?_, ?_⟩
  · show Function.update r.r 6 v 6 = (if f.spsShared then fun _ => v else _) f.mode
    split <;> simp
  · intro hsh k
    have hshared : f.spsShared = true := hsh
    simp only [RegisterFile.writeSp, hshared, if_true]
  · intro hin k hk2 hk
    have hsh : f.spsShared = false := by rw [h.flag, hin]; rfl
    show r.spMode k = (if f.spsShared then fun _ => v else _) k
    simp only [hsh, Bool.false_eq_true, if_false]
    rw [Function.update_of_ne hk]
    exact h.saved hin k hk2 hk

end SpsHeld

namespace SetsHeld

variable {set : Bool} {r r' : Regs} {f f' : RegisterFile}

theorem congr (h : SetsHeld set r f) (hr : r.SameSets r') (hbank : f'.bank = f.bank)
    (hs : f'.setsShared = f.setsShared) : SetsHeld set r' f' where
  live i hi := by rw [hr.1 i hi, hbank, h.live i hi]
  flag := by rw [hs, hr.2.2, h.flag]
  shared hsh := by
    rw [hbank]
    exact h.shared (hs ▸ hsh)
  saved hin := by
    rw [hr.2.1, hbank]
    exact h.saved (hr.2.2 ▸ hin)

theorem init (h : SetsHeld set r f) (hmodel : r.model = .dcj11) :
    SetsHeld set r.dcj11RegsetInit { f with setsShared := false } ∧
      r.dcj11RegsetInit.rsetBankInit = true := by
  unfold Regs.dcj11RegsetInit
  rw [if_neg (not_not.2 hmodel)]
  cases hin : r.rsetBankInit with
  | true => exact ⟨⟨h.live, by simp [hin], nofun, fun _ => h.saved hin⟩, by simp [hin]⟩
  | false =>
    have hsh : f.setsShared = true := by rw [h.flag, hin]; rfl
    refine ⟨⟨h.live, rfl, nofun, fun _ i hi => ?_⟩, rfl⟩
    show (if i < 6 then r.r i else r.rsetBank (!set) i) = f.bank (!set) i
    rw [if_pos hi, h.live i hi, h.shared hsh i hi]

theorem switch (h : SetsHeld set r f) (hmodel : r.model = .dcj11) {oldPsw : Word} (newPsw : Word)
    (hset : set = dcj11PswRegset oldPsw) :
    SetsHeld (dcj11PswRegset newPsw) (r.dcj11SwitchRegset oldPsw newPsw)
      { f with setsShared := f.setsShared && set == dcj11PswRegset newPsw } := by
  unfold Regs.dcj11SwitchRegset
  rw [if_neg (not_not.2 hmodel)]
  dsimp only
  by_cases heq : dcj11PswRegset oldPsw = dcj11PswRegset newPsw
  · rw [if_pos heq]
    subst hset
    rw [heq] at h ⊢
    exact h.congr (.refl r) rfl (by simp)
  · rw [if_neg heq]
    subst hset
    have hshared : (f.setsShared && dcj11PswRegset oldPsw == dcj11PswRegset newPsw) = false := by
      simp [heq]
    rw [hshared]
    obtain ⟨hinit, hflag⟩ := h.init hmodel
    have hnew : dcj11PswRegset newPsw = !dcj11PswRegset oldPsw := Bool.eq_not_of_ne (Ne.symm heq)
    have hold : (!dcj11PswRegset newPsw) = dcj11PswRegset oldPsw := by rw [hnew, Bool.not_not]
    refine ⟨?_, by simp [hflag], nofun, ?_⟩
    · intro i hi
      show (if i < 6 then r.dcj11RegsetInit.rsetBank (dcj11PswRegset newPsw) i else _) = _
      rw [if_pos hi, hnew]
      exact hinit.saved hflag i hi
    · intro _ i hi
      simp only [hold, Function.update_self, if_pos hi]
      exact hinit.live i hi

theorem writeSet (h : SetsHeld f.set r f) (i : BitVec 3) (v : Word) :
    SetsHeld f.set { r with r := Function.update r.r i v } (f.writeSet i v) := by
  have hbank : (f.writeSet i v).bank f.set = Function.update (f.bank f.set) i v := by
    unfold RegisterFile.writeSet
    dsimp only
    split
    · rfl
    · exact Function.update_self ..
  refine ⟨?_, h.flag, ?_, ?_⟩
  · intro j hj
    rw [hbank]
    by_cases hji : j = i
    · subst hji
      simp
    · simpa [hji] using h.live j hj
  · intro hsh j hj
    have hall : ∀ s, (f.writeSet i v).bank s = Function.update (f.bank s) i v := by
      intro s
      unfold RegisterFile.writeSet
      rw [if_pos (show f.setsShared = true from hsh)]
    rw [hall, hall]
    by_cases hji : j = i
    · subst hji
      simp
    · simpa [hji] using h.shared hsh j hj
  · intro hin j hj
    have hsh : f.setsShared = false := by rw [h.flag, hin]; rfl
    have hother : (f.writeSet i v).bank (!f.set) = f.bank (!f.set) := by
      unfold RegisterFile.writeSet
      rw [hsh]
      exact Function.update_of_ne (by cases f.set <;> decide) ..
    rw [hother]
    exact h.saved hin j hj

end SetsHeld

/-! ## One operation -/

namespace Represents

variable {r : Regs} {f : RegisterFile}

theorem setPsw (h : Represents r f) (newPsw : Word) :
    Represents (r.dcj11SetPsw newPsw) (f.setPsw newPsw) := by
  have hmode : f.mode = dcj11PswCurMode r.psw := by rw [h.psw]; rfl
  have hset : f.set = dcj11PswRegset r.psw := by rw [h.psw]; rfl
  have hmodel : (r.dcj11SwitchStackMode r.psw newPsw).model = .dcj11 :=
    (Regs.model_of_frame (Regs.frame_dcj11SwitchStackMode ..)).trans h.model
  have hframe : SetsHeld f.set (r.dcj11SwitchStackMode r.psw newPsw) f :=
    h.sets.congr (sameSets_dcj11SwitchStackMode ..) rfl rfl
  unfold Regs.dcj11SetPsw
  dsimp only
  rw [if_pos h.model]
  refine ⟨?_, rfl, ?_, ?_⟩
  · exact (Regs.model_of_frame (Regs.frame_dcj11SwitchRegset ..)).trans hmodel
  · exact (h.sps.switch h.model newPsw hmode).congr (sameSps_dcj11SwitchRegset ..) rfl rfl
  · exact (hframe.switch hmodel newPsw hset).congr (.refl _) rfl rfl

/-- A PSW change that keeps mode and register set. -/
theorem editPsw (h : Represents r f) {newPsw : Word}
    (hmode : dcj11PswCurMode newPsw = dcj11PswCurMode r.psw)
    (hset : dcj11PswRegset newPsw = dcj11PswRegset r.psw) :
    Represents { r with psw := newPsw } (f.setPsw newPsw) := by
  rw [h.psw] at hmode hset
  have hm : (f.setPsw newPsw).mode = f.mode := hmode
  have hs : (f.setPsw newPsw).set = f.set := hset
  refine ⟨h.model, rfl, ?_, ?_⟩
  · rw [hm]
    refine h.sps.congr (.refl _) rfl ?_
    show (f.spsShared && f.mode == dcj11PswCurMode newPsw) = _
    rw [hmode]
    simp [RegisterFile.mode]
  · rw [hs]
    refine h.sets.congr (.refl _) rfl ?_
    show (f.setsShared && f.set == dcj11PswRegset newPsw) = _
    rw [hset]
    simp [RegisterFile.set]

theorem writeReg (h : Represents r f) (i : BitVec 3) (v : Word) :
    Represents { r with r := Function.update r.r i v } (f.step (.writeReg i v)) := by
  have hne {j : BitVec 3} (hj : j ≠ i) : Function.update r.r i v j = r.r j := Function.update_of_ne hj ..
  show Represents _ (if i = 6 then f.writeSp v else if i < 6 then f.writeSet i v else f)
  by_cases h6 : i = 6
  · subst h6
    rw [if_pos rfl]
    refine ⟨h.model, h.psw, h.sps.writeSp v, h.sets.congr ⟨?_, rfl, rfl⟩ rfl rfl⟩
    exact fun j hj => hne (by bv_omega)
  · rw [if_neg h6]
    have hsp : r.SameSps { r with r := Function.update r.r i v } := ⟨hne (Ne.symm h6), rfl, rfl⟩
    by_cases hi : i < 6
    · rw [if_pos hi]
      exact ⟨h.model, h.psw, h.sps.congr hsp rfl rfl, h.sets.writeSet i v⟩
    · rw [if_neg hi]
      refine ⟨h.model, h.psw, h.sps.congr hsp rfl rfl, h.sets.congr ⟨?_, rfl, rfl⟩ rfl rfl⟩
      exact fun j hj => hne (by bv_omega)

theorem spModeInit (h : Represents r f) :
    Represents r.dcj11SpModeInit { f with spsShared := false } := by
  have hpsw : r.dcj11SpModeInit.psw = r.psw := by
    unfold Regs.dcj11SpModeInit
    split
    · rfl
    · split <;> rfl
  refine ⟨?_, hpsw.trans h.psw, h.sps.init h.model, ?_⟩
  · exact (Regs.model_of_frame (Regs.frame_dcj11SpModeInit r)).trans h.model
  · exact h.sets.congr (sameSets_dcj11SpModeInit r) rfl rfl

/-- The SP of one mode, live or not. -/
theorem writeModeSp (h : Represents r f) (mode : BitVec 2) (v : Word) :
    Represents (r.dcj11WriteModeReg mode 6 v) (f.writeModeSp mode v) := by
  have hinit := h.spModeInit
  have hflag := SpsHeld.dcj11SpModeInit_init h.model
  have hmode : f.mode = dcj11PswCurMode r.dcj11SpModeInit.psw := by rw [hinit.psw]; rfl
  unfold Regs.dcj11WriteModeReg
  rw [if_neg (by simp [h.model])]
  dsimp only
  rw [← hmode]
  by_cases hm : f.mode = pswModeNormalize mode
  · rw [if_pos hm]
    have hsaved : ∀ k, k ≠ 2 → k ≠ f.mode → Function.update r.dcj11SpModeInit.spMode
        (pswModeNormalize mode) v k = Function.update f.sp (pswModeNormalize mode) v k := by
      intro k hk2 hk
      rw [← hm, Function.update_of_ne hk, Function.update_of_ne hk]
      exact hinit.sps.saved hflag k hk2 hk
    refine ⟨hinit.model, hinit.psw, ⟨?_, by simp [hflag, RegisterFile.writeModeSp], nofun, fun _ => hsaved⟩,
      hinit.sets.congr ⟨?_, rfl, rfl⟩ rfl rfl⟩
    · show Function.update r.dcj11SpModeInit.r 6 v 6 =
        Function.update f.sp (pswModeNormalize mode) v f.mode
      rw [hm, Function.update_self, Function.update_self]
    · intro i hi
      exact Function.update_of_ne (by bv_omega) _ r.dcj11SpModeInit.r
  · rw [if_neg hm]
    have hlive : r.dcj11SpModeInit.r 6 = Function.update f.sp (pswModeNormalize mode) v f.mode := by
      rw [Function.update_of_ne hm]
      exact hinit.sps.live
    refine ⟨hinit.model, hinit.psw, ⟨hlive, by simp [hflag, RegisterFile.writeModeSp], nofun, ?_⟩,
      hinit.sets.congr (.refl _) rfl rfl⟩
    intro _ k hk2 hk
    by_cases hkm : k = pswModeNormalize mode
    · subst hkm
      exact (Function.update_self _ _ r.dcj11SpModeInit.spMode).trans (Function.update_self _ _ f.sp).symm
    · exact (Function.update_of_ne hkm _ r.dcj11SpModeInit.spMode).trans
        ((hinit.sps.saved hflag k hk2 hk).trans (Function.update_of_ne hkm _ f.sp).symm)

theorem emergencyStack (h : Represents r f) :
    Represents r.emergencyStack (f.writeModeSp 0 4) := by
  have heq : r.emergencyStack = r.dcj11WriteModeReg 0 6 4 := by
    have hsp : ¬ ((6 : BitVec 3) ≠ 6 ∨ r.model ≠ .dcj11) := by simp [h.model]
    unfold Regs.emergencyStack Regs.dcj11WriteModeReg
    rw [if_neg hsp]
    rfl
  rw [heq]
  exact h.writeModeSp 0 4

/-- A cell of `spMode` that belongs to the current mode is not in use. -/
theorem staleSp (h : Represents r f) {k : BitVec 2} (hk : k = f.mode) (v : Word) :
    Represents (r.setSpMode k v) f := by
  refine ⟨h.model, h.psw, ⟨h.sps.live, h.sps.flag, h.sps.shared, ?_⟩, h.sets.congr (.refl _) rfl rfl⟩
  intro hin j hj2 hj
  exact (Function.update_of_ne (hk ▸ hj) _ r.spMode).trans (h.sps.saved hin j hj2 hj)

/-- The cell of another mode. -/
theorem otherSp (h : Represents r f) (hsh : f.spsShared = false) {k : BitVec 2} (hk : k ≠ f.mode)
    (v : Word) : Represents (r.setSpMode k v) { f with sp := Function.update f.sp k v } := by
  have hin : r.spModeInit = true := by
    have hflag := h.sps.flag
    rw [hsh] at hflag
    simpa using hflag.symm
  have hlive : r.r 6 = Function.update f.sp k v f.mode := by
    rw [Function.update_of_ne (Ne.symm hk)]
    exact h.sps.live
  refine ⟨h.model, h.psw, ⟨hlive, h.sps.flag, ?_, ?_⟩, h.sets.congr (.refl _) rfl rfl⟩
  · intro hshared
    rw [show f.spsShared = true from hshared] at hsh
    cases hsh
  · intro _ j hj2 hj
    by_cases hjk : j = k
    · subst hjk
      exact (Function.update_self j v r.spMode).trans (Function.update_self j v f.sp).symm
    · have hsaved := h.sps.saved hin j hj2 hj
      exact (Function.update_of_ne hjk v r.spMode).trans
        (hsaved.trans (Function.update_of_ne hjk v f.sp).symm)

/-- CSM leaves the register set alone, so the sets stay shared if they were. -/
theorem setPsw_csm (f : RegisterFile) (sp : BitVec 2 → Word) :
    RegisterFile.setPsw (csmPsw f.psw) { f with sp := sp, spsShared := false } =
      { f with sp := sp, psw := csmPsw f.psw, spsShared := false } := by
  have hset : (dcj11PswRegset f.psw == dcj11PswRegset (csmPsw f.psw)) = true := by
    rw [regset_csmPsw]
    exact beq_self_eq_true _
  simp [RegisterFile.setPsw, RegisterFile.set, hset]

theorem csm (h : Represents r f) (hbefore : dcj11PswCurMode r.pswBefore = f.mode) :
    Represents (r.csmEnter (r.r 6)) f.csm := by
  have hlive : r.r 6 = f.sp f.mode := h.sps.live
  have hinit := (h.spModeInit).staleSp (k := f.mode) rfl (r.r 6)
  have hpsw : ((r.dcj11SpModeInit.setSpMode f.mode (r.r 6)).setSpMode 1 (r.r 6 - 6)).psw = f.psw :=
    hinit.psw
  have hnew : dcj11PswSetCurMode (dcj11PswSetPrevMode f.psw f.mode) 1 &&& ~~~flagT = csmPsw f.psw := rfl
  unfold Regs.csmEnter
  dsimp only
  rw [hbefore, hpsw, hnew]
  by_cases h1 : f.mode = 1
  · rw [if_pos h1]
    have hentered := (hinit.staleSp (k := 1) h1.symm (r.r 6 - 6)).setPsw (csmPsw f.psw)
    rw [setPsw_csm f f.sp] at hentered
    have hpushed := hentered.writeReg 6 (r.r 6 - 6)
    have hfile : RegisterFile.step { f with sp := f.sp, psw := csmPsw f.psw, spsShared := false }
        (.writeReg 6 (r.r 6 - 6)) = f.csm := by
      show RegisterFile.writeSp _ _ = _
      unfold RegisterFile.writeSp RegisterFile.csm
      simp only [Bool.false_eq_true, if_false, RegisterFile.mode, mode_csmPsw]
      rw [hlive]
      rfl
    rw [hfile] at hpushed
    exact hpushed.staleSp (k := 1) (mode_csmPsw f.psw).symm (r.r 6 - 6)
  · rw [if_neg h1]
    have hentered := (hinit.otherSp rfl (k := 1) (Ne.symm h1) (r.r 6 - 6)).setPsw (csmPsw f.psw)
    rw [setPsw_csm f] at hentered
    have hfile : f.csm = RegisterFile.mk f.bank (Function.update f.sp 1 (r.r 6 - 6)) (csmPsw f.psw)
        f.setsShared false := by
      unfold RegisterFile.csm
      rw [hlive]
    rw [← hfile] at hentered
    exact hentered.staleSp (k := 1) (mode_csmPsw f.psw).symm (r.r 6 - 6)

end Represents

/-- Every operation keeps the representation. -/
theorem Represents.step {r : Regs} {f : RegisterFile} (h : Represents r f) (op : BankOp) :
    Represents (r.bankStep op) (f.step op) := by
  cases op with
  | setPsw newPsw => exact h.setPsw newPsw
  | spl level =>
    have hrep : Represents { r with psw := splPsw r.psw level } (f.setPsw (splPsw r.psw level)) :=
      h.editPsw (congrArg pswModeNormalize (mode_splPsw r.psw level)) (regset_splPsw r.psw level)
    rwa [show f.step (.spl level) = f.setPsw (splPsw r.psw level) by rw [h.psw]; rfl]
  | mtps value =>
    have heq : mtpsPsw { r with pswBefore := r.psw } value =
        mtpsPsw { model := .dcj11, psw := f.psw, pswBefore := f.psw } value := by
      unfold mtpsPsw
      simp only [h.model, h.psw]
    have hmode := congrArg pswModeNormalize (mode_mtpsPsw { r with pswBefore := r.psw } value)
    have hset := regset_mtpsPsw { r with pswBefore := r.psw } value
    rw [heq] at hmode hset
    show Represents { r with psw := mtpsPsw { r with pswBefore := r.psw } value } _
    rw [heq]
    exact h.editPsw hmode hset
  | csm =>
    have hbefore : Represents { r with pswBefore := r.psw } f :=
      ⟨h.model, h.psw, h.sps.congr (.refl r) rfl rfl, h.sets.congr (.refl r) rfl rfl⟩
    exact hbefore.csm (by rw [h.psw]; rfl)
  | writeReg i v => exact h.writeReg i v
  | readModeSp mode =>
    have hread : (r.dcj11ReadModeReg mode 6).2 = r.dcj11SpModeInit := by
      have hsp : ¬ ((6 : BitVec 3) ≠ 6 ∨ r.model ≠ .dcj11) := by simp [h.model]
      unfold Regs.dcj11ReadModeReg
      rw [if_neg hsp]
    show Represents (r.dcj11ReadModeReg mode 6).2 { f with spsShared := false }
    rw [hread]
    exact h.spModeInit
  | writeModeSp mode v => exact h.writeModeSp mode v
  | emergencyStack => exact h.emergencyStack

/-! ## Runs from reset -/

/-- Every context holds the live registers. -/
def RegisterFile.ofLive (r : Regs) : RegisterFile where
  bank := fun _ => r.r
  sp := fun _ => r.r 6
  psw := r.psw
  setsShared := true
  spsShared := true

theorem represents_reset {β : Type} {h : Host β} {n : Nat} {m m' : Machine β}
    (hr : coreReset h n m = .done () m') (hmodel : m'.core.model = .dcj11) :
    Represents m'.core (.ofLive m'.core) := by
  obtain ⟨maint, hitmiss, sel0, ram, hcore⟩ := coreReset_dcj11 hr hmodel
  have hflags : m'.core.spModeInit = false ∧ m'.core.rsetBankInit = false := by
    rw [hcore]
    unfold Regs.coreReset Regs.coreStart
    dsimp only
    split <;> exact ⟨rfl, rfl⟩
  refine ⟨hmodel, rfl, ⟨rfl, ?_, fun _ _ => rfl, ?_⟩, ⟨fun _ _ => rfl, ?_, fun _ _ _ => rfl, ?_⟩⟩
  · rw [hflags.1]
    rfl
  · rw [hflags.1]
    nofun
  · rw [hflags.2]
    rfl
  · rw [hflags.2]
    nofun

theorem Represents.run {r : Regs} {f : RegisterFile} (h : Represents r f) (ops : List BankOp) :
    Represents (ops.foldl Regs.bankStep r) (ops.foldl RegisterFile.step f) := by
  induction ops generalizing r f with
  | nil => exact h
  | cons op ops ih => exact ih (h.step op)

/-- From reset on, R0..R6 are those of the architectural register file whose contexts are
    all filled from the live registers when they are first told apart. -/
theorem registers_from_reset {β : Type} {h : Host β} {n : Nat} {m m' : Machine β}
    (hreset : coreReset h n m = .done () m') (hmodel : m'.core.model = .dcj11)
    (ops : List BankOp) {i : BitVec 3} (hi : i ≠ 7) :
    (ops.foldl Regs.bankStep m'.core).r i =
      (ops.foldl RegisterFile.step (.ofLive m'.core)).read i :=
  ((represents_reset hreset hmodel).run ops).read hi

def bankedMachine : Machine Memory :=
  (coreReset (hwstub true) 1 ⟨{ model := .dcj11 }, fun _ => 0, []⟩).state

/-- A write in set 0 is not seen in set 1 once the sets have been told apart. -/
theorem registers_from_reset_bothSets :
    ([.setPsw 0o4340, .setPsw 0o340, .writeReg 0 5, .setPsw 0o4340].foldl Regs.bankStep
      bankedMachine.core).r 0 =
    ([.setPsw 0o4340, .setPsw 0o340, .writeReg 0 5, .setPsw 0o4340].foldl RegisterFile.step
      (.ofLive bankedMachine.core)).read 0 :=
  have hreset : coreReset (hwstub true) 1 ⟨{ model := .dcj11 }, fun _ => 0, []⟩ =
    .done () bankedMachine := rfl
  registers_from_reset hreset rfl _ (by decide)

/-- No register file with independent contexts explains the first switch of set: it shows in
    set 1 whatever was written in set 0. -/
theorem not_independent_from_reset :
    ¬ ∃ f : RegisterFile, f.Independent ∧ f.psw = bankedMachine.core.psw ∧
      ∀ (ops : List BankOp) (i : BitVec 3), i ≠ 7 →
        (ops.foldl Regs.bankStep bankedMachine.core).r i = (ops.foldl RegisterFile.step f).read i := by
  rintro ⟨f, ⟨hsets, -⟩, hpsw, hall⟩
  have hset : f.set = false := by
    unfold RegisterFile.set
    rw [hpsw]
    rfl
  have hother : ∀ v, ([.writeReg 0 v, .setPsw 0o4340].foldl RegisterFile.step f).read 0 = f.bank true 0 := by
    intro v
    simp only [RegisterFile.set] at hset
    simp [RegisterFile.step, RegisterFile.read, RegisterFile.setPsw, RegisterFile.writeSet,
      RegisterFile.set, hsets, hset]
    rfl
  have h5 : (5 : Word) = f.bank true 0 := (hall [.writeReg 0 5, .setPsw 0o4340] 0 (by decide)).trans (hother 5)
  have h6 : (6 : Word) = f.bank true 0 := (hall [.writeReg 0 6, .setPsw 0o4340] 0 (by decide)).trans (hother 6)
  rw [← h5] at h6
  revert h6
  decide

end K1801.Core
