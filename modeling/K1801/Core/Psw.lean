import K1801.Core.State

/-! # Processor status word and register banking

The live registers are cached in `Regs.r`. A change of processor mode spills R6 to
`spMode`, a change of register set spills R0..R5 to `rsetBank`; both side arrays are
filled from the live registers the first time they are needed.
-/

namespace K1801.Core

/-- `psw_mode_normalize`: mode 2 is folded onto kernel mode. -/
def pswModeNormalize (mode : BitVec 2) : BitVec 2 := if mode = 2 then 0 else mode

/-- `(psw >> 14) & 03`, also `mmu_mode_from_psw` -/
def mmuModeFromPsw (psw : Word) : BitVec 2 := (psw >>> 14).setWidth 2

def dcj11PswCurMode (psw : Word) : BitVec 2 := pswModeNormalize (mmuModeFromPsw psw)

def dcj11KernelPsw (psw : Word) : Bool := pswModeNormalize (mmuModeFromPsw psw) == 0

/-- Previous mode as MFPx and MTPx see it: PM=2 selects the user stack bank. -/
def dcj11PswPrevModeMxpi (psw : Word) : BitVec 2 :=
  let pm := (psw >>> 12).setWidth 2
  if pm = 2 then 3 else pswModeNormalize pm

abbrev pswCmMask : Word := 0o140000
abbrev pswPmMask : Word := 0o30000

def dcj11PswSetCurMode (psw : Word) (mode : BitVec 2) : Word :=
  (psw &&& ~~~pswCmMask) ||| ((pswModeNormalize mode).setWidth 16 <<< 14)

def dcj11PswSetPrevMode (psw : Word) (mode : BitVec 2) : Word :=
  (psw &&& ~~~pswPmMask) ||| ((pswModeNormalize mode).setWidth 16 <<< 12)

def dcj11PswRegset (psw : Word) : Bool := (psw >>> 11) &&& 1 = 1

def flagIsSet (psw f : Word) : Bool := psw &&& f = f

def flagIsClear (psw f : Word) : Bool := psw &&& f = 0

/-! ## Condition codes

`set_flag`, `clear_flag`, `set_flag_if` and the `PSW_SET_*` macros all come down to one
update: each of N, Z, V and C is set, cleared or kept, and after an instruction has
stored to the PSW location on the DCJ11 nothing happens. -/

abbrev ccMask : Word := flagN ||| flagZ ||| flagV ||| flagC

def putFlag (f : Word) (v : Option Bool) (psw : Word) : Word :=
  match v with
  | none => psw
  | some true => psw ||| f
  | some false => psw &&& ~~~f

namespace Regs

def explicitPsw (r : Regs) : Bool := r.model == .dcj11 && r.dcj11ExplicitPswWrite

def setCc (n z v c : Option Bool) (r : Regs) : Regs :=
  if r.explicitPsw then r
  else { r with psw := putFlag flagC c (putFlag flagV v (putFlag flagZ z (putFlag flagN n r.psw))) }

/-! ## Banked registers -/

def dcj11SpModeInit (r : Regs) : Regs :=
  if r.model ≠ .dcj11 then r
  else if r.spModeInit then r
  else { r with spMode := fun _ => r.r 6, spModeInit := true }

def dcj11SwitchStackMode (oldPsw newPsw : Word) (r : Regs) : Regs :=
  if r.model ≠ .dcj11 then r else
    let oldMode := dcj11PswCurMode oldPsw
    let newMode := dcj11PswCurMode newPsw
    if oldMode = newMode then r else
      let r := r.dcj11SpModeInit
      let spMode := Function.update r.spMode oldMode (r.r 6)
      { r with spMode := spMode, r := Function.update r.r 6 (spMode newMode) }

def dcj11RegsetInit (r : Regs) : Regs :=
  if r.model ≠ .dcj11 then r
  else if r.rsetBankInit then r
  else
    { r with
      rsetBank := fun bank i => if i < 6 then r.r i else r.rsetBank bank i
      rsetBankInit := true }

/-- The six copies of the loop are done at once: R0..R5 go to the old bank and come
    from the new one. -/
def dcj11SwitchRegset (oldPsw newPsw : Word) (r : Regs) : Regs :=
  if r.model ≠ .dcj11 then r else
    let oldSel := dcj11PswRegset oldPsw
    let newSel := dcj11PswRegset newPsw
    if oldSel = newSel then r else
      let r := r.dcj11RegsetInit
      { r with
        rsetBank := Function.update r.rsetBank oldSel
          (fun i => if i < 6 then r.r i else r.rsetBank oldSel i)
        r := fun i => if i < 6 then r.rsetBank newSel i else r.r i }

def dcj11SetPsw (newPsw : Word) (r : Regs) : Regs :=
  let oldPsw := r.psw
  let r := if r.model = .dcj11 then
      (r.dcj11SwitchStackMode oldPsw newPsw).dcj11SwitchRegset oldPsw newPsw
    else r
  { r with psw := newPsw }

def dcj11ReadModeReg (mode : BitVec 2) (reg : BitVec 3) (r : Regs) : Word × Regs :=
  if reg ≠ 6 ∨ r.model ≠ .dcj11 then (r.r reg, r)
  else
    let r := r.dcj11SpModeInit
    (r.spMode (pswModeNormalize mode), r)

def dcj11WriteModeReg (mode : BitVec 2) (reg : BitVec 3) (value : Word) (r : Regs) : Regs :=
  if reg ≠ 6 ∨ r.model ≠ .dcj11 then { r with r := Function.update r.r reg value }
  else
    let r := r.dcj11SpModeInit
    let r := { r with spMode := Function.update r.spMode (pswModeNormalize mode) value }
    if dcj11PswCurMode r.psw = pswModeNormalize mode then
      { r with r := Function.update r.r 6 value }
    else r

/-! ## Stack limit and CPU error register -/

abbrev cpuerrRed : Word := 0o4
abbrev cpuerrYel : Word := 0o10
abbrev cpuerrAdr : Word := 0o100
abbrev cpuerrHalt : Word := 0o200
abbrev cpuerrMask : Word := 0o374

def dcj11SetCpuerr (bits : Word) (r : Regs) : Regs :=
  if r.model ≠ .dcj11 then r
  else { r with j11Cpuerr := (r.j11Cpuerr ||| bits) &&& cpuerrMask }

/-- A kernel stack reference below the limit raises the yellow stack trap, which is
    taken at the end of the instruction. -/
def dcj11NoteStackReference (addr : Word) (r : Regs) : Regs :=
  if r.model ≠ .dcj11 then r
  else if r.dcj11StackTrapActive then r
  else if !dcj11KernelPsw r.psw then r
  else
    let limit := r.j11Stklim &&& 0o177776
    let limit := if limit = 0 then 0o400 else limit
    if addr < limit then { r.dcj11SetCpuerr cpuerrYel with dcj11YellowPending := true } else r

end Regs

/-- `dcj11_explicit_psw_write`: a store to the PSW location leaves the T bit alone. -/
def dcj11ExplicitPswWrite (r : Regs) (newPsw : Word) : Word :=
  if r.model = .dcj11 then (newPsw &&& ~~~flagT) ||| (r.psw &&& flagT) else newPsw

def trapPsw (r : Regs) (oldPsw vecPsw : Word) : Word :=
  if r.model.isVm2 then
    if oldPsw &&& flagH ≠ 0 then (oldPsw &&& ~~~(0o777 : Word)) ||| (vecPsw &&& 0o777)
    else (oldPsw &&& ~~~(0o777 : Word)) ||| (vecPsw &&& 0o377)
  else if r.model = .dcj11 then
    dcj11PswSetPrevMode (dcj11PswSetCurMode vecPsw 0) (dcj11PswCurMode oldPsw)
  else vecPsw

/-- Outside kernel mode RTI and RTT can set PS<15:11> but not clear them, and leave
    PS<7:5> alone. -/
def dcj11RtiRttProtectPsw (oldPsw newPsw : Word) : Word :=
  let setOnlyMask : Word := 0o174000
  let keepIplMask : Word := 0o340
  let newPsw := (newPsw &&& ~~~setOnlyMask) ||| ((newPsw ||| oldPsw) &&& setOnlyMask)
  (newPsw &&& ~~~keepIplMask) ||| (oldPsw &&& keepIplMask)

/-- The PSW that RTI and RTT load, given the word popped from the stack. -/
def returnPsw (r : Regs) (popped : Word) : Word :=
  if r.model.isVm2 then
    if r.r 7 < 0o160000 then (popped &&& ~~~flagH) ||| (r.pswBefore &&& flagH) else popped
  else if r.model = .dcj11 ∧ !dcj11KernelPsw r.pswBefore then
    dcj11RtiRttProtectPsw r.pswBefore popped
  else popped

/-- The PSW that MTPS leaves; outside kernel mode PS<7:5> stays. -/
def mtpsPsw (r : Regs) (value : Byte) : Word :=
  let low : Word := value.setWidth 16 &&& 0o357
  let low := if r.model = .dcj11 ∧ !dcj11KernelPsw r.pswBefore then
      (low &&& 0o37) ||| (r.psw &&& 0o340)
    else low
  (r.psw &&& 0o177000) ||| (r.psw &&& (flagT ||| flagH)) ||| low

namespace Regs

def setSpMode (mode : BitVec 2) (v : Word) (r : Regs) : Regs :=
  { r with spMode := Function.update r.spMode mode v }

/-- The mode change of CSM: SP moves to the supervisor stack, below the frame. -/
def csmEnter (oldSp : Word) (r : Regs) : Regs :=
  let oldMode := dcj11PswCurMode r.pswBefore
  let newSp := oldSp - 6
  let r := (r.dcj11SpModeInit.setSpMode oldMode oldSp).setSpMode 1 newSp
  let newPsw := dcj11PswSetCurMode (dcj11PswSetPrevMode r.psw oldMode) 1 &&& ~~~flagT
  let r := r.dcj11SetPsw newPsw
  let r := if oldMode = 1 then { r with r := Function.update r.r 6 newSp } else r
  r.setSpMode 1 newSp

/-- What a red stack abort undoes of the trap entry that faulted. -/
def redStackRestore (oldPc oldPsw : Word) (r : Regs) : Regs :=
  let r := { r with dcj11VectorPushActive := false, dcj11YellowPending := false }
  let r := r.dcj11SetPsw oldPsw
  ({ r with r := Function.update r.r 7 oldPc }).dcj11SetCpuerr cpuerrRed

/-- SP is put at the emergency stack, physical 4 and down. -/
def emergencyStack (r : Regs) : Regs :=
  let r := r.dcj11SpModeInit
  let r := { r with spMode := Function.update r.spMode 0 4 }
  if dcj11PswCurMode r.psw = 0 then { r with r := Function.update r.r 6 4 } else r

end Regs

/-! ## Mode and register set of a PSW -/

theorem dcj11PswRegset_eq (psw : Word) : dcj11PswRegset psw = psw.getLsbD 11 := by
  have hbit : (psw >>> 11) &&& 1 = BitVec.setWidth 16 (BitVec.ofBool (psw.getLsbD 11)) := by
    have hand := BitVec.and_one_eq_setWidth_ofBool_getLsbD (x := psw >>> 11)
    rwa [BitVec.getLsbD_ushiftRight] at hand
  unfold dcj11PswRegset
  rw [hbit]
  cases psw.getLsbD 11 <;> decide

@[simp] theorem dcj11PswRegset_and (x y : Word) :
    dcj11PswRegset (x &&& y) = (dcj11PswRegset x && dcj11PswRegset y) := by
  simp only [dcj11PswRegset_eq, BitVec.getLsbD_and]

@[simp] theorem dcj11PswRegset_or (x y : Word) :
    dcj11PswRegset (x ||| y) = (dcj11PswRegset x || dcj11PswRegset y) := by
  simp only [dcj11PswRegset_eq, BitVec.getLsbD_or]

@[simp] theorem mmuModeFromPsw_and (x y : Word) :
    mmuModeFromPsw (x &&& y) = mmuModeFromPsw x &&& mmuModeFromPsw y := by
  unfold mmuModeFromPsw
  rw [BitVec.ushiftRight_and_distrib, BitVec.setWidth_and]

@[simp] theorem mmuModeFromPsw_or (x y : Word) :
    mmuModeFromPsw (x ||| y) = mmuModeFromPsw x ||| mmuModeFromPsw y := by
  unfold mmuModeFromPsw
  rw [BitVec.ushiftRight_or_distrib, BitVec.setWidth_or]

theorem mmuModeFromPsw_shift (mode : BitVec 2) : mmuModeFromPsw (mode.setWidth 16 <<< 14) = mode := by
  revert mode
  decide

theorem dcj11PswRegset_shift14 (mode : BitVec 2) : dcj11PswRegset (mode.setWidth 16 <<< 14) = false := by
  revert mode
  decide

theorem dcj11PswRegset_shift12 (mode : BitVec 2) : dcj11PswRegset (mode.setWidth 16 <<< 12) = false := by
  revert mode
  decide

theorem mmuModeFromPsw_shift12 (mode : BitVec 2) : mmuModeFromPsw (mode.setWidth 16 <<< 12) = 0 := by
  revert mode
  decide

theorem dcj11PswRegset_setCurMode (psw : Word) (mode : BitVec 2) :
    dcj11PswRegset (dcj11PswSetCurMode psw mode) = dcj11PswRegset psw := by
  unfold dcj11PswSetCurMode
  rw [dcj11PswRegset_or, dcj11PswRegset_and, dcj11PswRegset_shift14, Bool.or_false]
  exact Bool.and_true _

theorem dcj11PswRegset_setPrevMode (psw : Word) (mode : BitVec 2) :
    dcj11PswRegset (dcj11PswSetPrevMode psw mode) = dcj11PswRegset psw := by
  unfold dcj11PswSetPrevMode
  rw [dcj11PswRegset_or, dcj11PswRegset_and, dcj11PswRegset_shift12, Bool.or_false]
  exact Bool.and_true _

theorem mmuModeFromPsw_setCurMode (psw : Word) (mode : BitVec 2) :
    mmuModeFromPsw (dcj11PswSetCurMode psw mode) = pswModeNormalize mode := by
  unfold dcj11PswSetCurMode
  rw [mmuModeFromPsw_or, mmuModeFromPsw_and, mmuModeFromPsw_shift]
  have hcleared : mmuModeFromPsw psw &&& mmuModeFromPsw (~~~pswCmMask) = 0 := BitVec.and_zero
  rw [hcleared]
  exact BitVec.zero_or

end K1801.Core
