import K1801.Core.Alu
import K1801.Core.Fp11

/-! # Instruction execution

`execute` is the body of `core_step` between decoding and the label `step_end`. A
`return 0` in it leaves the step; a `goto step_end` returns the locals that the end of the
step looks at.
-/

namespace K1801.Core

open Library

variable {β : Type}

/-- `trace_override` with its value, `skip_trace` and `skip_irq` -/
structure Locals where
  traceOverride : Option Bool := none
  skipTrace : Bool := false
  skipIrq : Bool := false
  deriving Repr, DecidableEq

namespace Env

/-- The flags of a result: N and Z from its value. -/
def setResult (t : DataType) (res : AluResult) : M β Unit :=
  perform (.setCc (some (t.negative res.value)) (some (res.value == 0)) res.v res.c)

def carry : M β Bool := do return flagIsSet (← regs).psw flagC

def getData (e : Env β) (t : DataType) (o : Operand) : M β Word :=
  match t with
  | .word => e.getWord o
  | .byte => do return (← e.getByte o).setWidth 16

def putData (e : Env β) (t : DataType) (o : Operand) (v : Word) : M β Unit :=
  match t with
  | .word => e.putWord o v
  | .byte => e.putByte o (v.setWidth 8)

/-! ## Program control -/

def ccOp (set : Bool) (mask : Word) : M β Unit :=
  let put (f : Word) : Option Bool := if mask &&& f ≠ 0 then some set else none
  perform (.setCc (put flagN) (put flagZ) (put flagV) (put flagC))

def halt (e : Env β) : M β Unit := do
  let r ← regs
  if r.model = .dcj11 ∧ !dcj11KernelPsw r.pswBefore then
    perform (.setCpuerr Regs.cpuerrHalt)
    e.takeVectorHere 4
  else e.handleHalt

/-- The pops and loads RTI and RTT share. -/
def returnFromTrap (e : Env β) : M β Unit := do
  let poppedPc ← e.pullw
  let poppedPsw ← e.pullw
  setR 7 poppedPc
  perform (.returnPsw poppedPsw)

def rti (e : Env β) : M β Locals := do
  e.returnFromTrap
  let r ← regs
  return { traceOverride := if r.model = .dcj11 then some (r.psw &&& flagT ≠ 0) else none }

def rtt (e : Env β) : M β Locals := do
  e.returnFromTrap
  if (← regs).model = .dcj11 then return { skipTrace := true, traceOverride := some false }
  else
    perform (.setTrap true)
    return { skipTrace := true }

def reset (e : Env β) : M β Unit := do
  let r ← regs
  if r.model = .dcj11 ∧ !dcj11KernelPsw r.pswBefore then return
  perform (.resetState e.host.build)
  e.hostReset

def mfpt (e : Env β) : M β Unit := do
  if (← regs).model ≠ .dcj11 then e.illegalTrap else setR 0 5

def spl (e : Env β) (level : Word) : M β Unit := do
  let r ← regs
  if r.model ≠ .dcj11 then e.illegalTrap
  else Program.when (dcj11KernelPsw r.pswBefore) (perform (.spl level))

/-- The VM2 console instructions trap unless the PSW bits of `mask` are set. -/
def vm2Guarded (e : Env β) (mask : Word) (m : M β Unit) : M β Unit := do
  if flagIsSet (← regs).psw mask then m else e.illegalTrap

abbrev flagHP : Word := flagH ||| flagP

def start (e : Env β) : M β Unit :=
  e.vm2Guarded flagHP do
    perform .loadCopies
    let _ ← e.serviceIrq

def stepInstr (e : Env β) : M β Locals := do
  if flagIsSet (← regs).psw flagHP then
    perform .loadCopies
    perform (.setDeferHalt true)
    return { skipIrq := true }
  else
    e.illegalTrap
    return {}

def rsel (e : Env β) : M β Unit := e.vm2Guarded flagH do setR 0 (← regs).sel0

/-- The load is not checked for an abort. -/
def mfus (e : Env β) : M β Unit :=
  e.vm2Guarded flagH do
    let pswSaved := (← regs).psw
    perform .clearH
    setR 0 (← e.coreLoadWord (← getR 5))
    setR 5 ((← getR 5) + 2)
    perform (.restorePsw pswSaved)

def mtus (e : Env β) : M β Unit :=
  e.vm2Guarded flagH do
    let pswSaved := (← regs).psw
    perform .clearH
    setR 5 ((← getR 5) - 2)
    e.coreStoreWord (← getR 5) (← getR 0)
    leaveIfAborted
    perform (.restorePsw pswSaved)

def rcpc (e : Env β) : M β Unit := e.vm2Guarded flagHP do setR 0 (← regs).cpc

def rcps (e : Env β) : M β Unit := e.vm2Guarded flagHP do setR 0 (← regs).cps

def wcpc (e : Env β) : M β Unit := e.vm2Guarded flagHP do perform (.setCpc (← getR 0))

def wcps (e : Env β) : M β Unit := e.vm2Guarded flagHP do perform (.setCps (← getR 0))

def branchTaken (psw : Word) : Branch → Bool
  | .br => true
  | .bne => flagIsClear psw flagZ
  | .beq => flagIsSet psw flagZ
  | .bpl => flagIsClear psw flagN
  | .bmi => flagIsSet psw flagN
  | .bvc => flagIsClear psw flagV
  | .bvs => flagIsSet psw flagV
  | .bcc => flagIsClear psw flagC
  | .bcs => flagIsSet psw flagC
  | .bge => !(flagIsSet psw flagN ^^ flagIsSet psw flagV)
  | .blt => flagIsSet psw flagN ^^ flagIsSet psw flagV
  | .bgt => !((flagIsSet psw flagN ^^ flagIsSet psw flagV) || flagIsSet psw flagZ)
  | .ble => (flagIsSet psw flagN ^^ flagIsSet psw flagV) || flagIsSet psw flagZ
  | .bhi => flagIsClear psw (flagC ||| flagZ)
  | .blos => !flagIsClear psw (flagC ||| flagZ)

def branch (b : Branch) (offset : Word) : M β Unit := do
  let offset := if offset &&& 0o200 ≠ 0 then offset + 0o177400 else offset
  Program.when (branchTaken (← regs).psw b) (do setR 7 ((← getR 7) + offset * 2))

def rts (e : Env β) (reg : BitVec 3) : M β Unit := do
  setR 7 (← getR reg)
  setR reg (← e.pullw)

def mark (e : Env β) (nn : Word) : M β Unit := do
  setR 6 ((← getR 7) + (nn <<< 1))
  setR 7 (← getR 5)
  setR 5 (← e.pullw)

def sob (reg : BitVec 3) (nn : Word) : M β Unit := do
  setR reg ((← getR reg) - 1)
  Program.when ((← getR reg) ≠ 0) (do setR 7 ((← getR 7) - (nn <<< 1)))

/-- Register mode is illegal for JMP, TSTSET and WRTLCK. -/
def isRegisterMode (dd : Word) : Bool := dd &&& 0o70 = 0

def jmp (e : Env β) (dd : Word) : M β Unit := do
  if isRegisterMode dd then e.trapVector4
  else
    let dst ← e.operand dd .word
    setR 7 dst.offset

/-- Push with the MMR1 entry and stack check of MFPx and JSR; aborts are for the caller. -/
def pushLogged (e : Env β) (v : M β Word) : M β Unit := do
  setR 6 ((← getR 6) - 2)
  e.recordDelta 6 (-2)
  perform (.stackReference (← getR 6))
  e.coreStoreWord (← getR 6) (← v)

def jsr (e : Env β) (reg : BitVec 3) (dd : Word) : M β Unit := do
  let dst ← e.operand dd .word
  if dst.type = .reg then
    if (← regs).model = .dcj11 then e.illegalTrap else e.trapVector4
  else
    e.pushLogged (getR reg)
    if ← aborted then return
    setR reg (← getR 7)
    setR 7 dst.offset

/-! ## Single operand instructions -/

def single (e : Env β) (s : SingleOp) (t : DataType) (dd : Word) : M β Unit := do
  let dst ← e.operand dd t
  match s with
  | .clr => do
    e.putData t dst 0
    setResult t (singleAlu t .clr false 0)
  | .tst => do
    let tmp ← e.getData t dst
    setResult t (singleAlu t .tst false tmp)
  | _ => do
    let tmp ← e.getData t dst
    let c ← carry
    let res := singleAlu t s c tmp
    e.putData t dst res.value
    setResult t res

def swab (e : Env β) (dd : Word) : M β Unit := do
  let dst ← e.operand dd .word
  let tmp ← e.getWord dst
  let tmp := (tmp >>> 8) ||| (tmp <<< 8)
  e.putWord dst tmp
  setResult .byte ⟨tmp &&& 0o377, some false, some false⟩

def sxt (e : Env β) (dd : Word) : M β Unit := do
  let dst ← e.operand dd .word
  let n := flagIsSet (← regs).psw flagN
  e.putWord dst (if n then 0o177777 else 0)
  perform (.setCc none (some !n) (some false) none)

def mfps (e : Env β) (dd : Word) : M β Unit := do
  let dst ← e.operand dd .byte
  let tmp := (← regs).psw &&& 0o377
  e.putByteMovb dst (tmp.setWidth 8)
  setResult .byte ⟨tmp, some false, none⟩

def mtps (e : Env β) (ss : Word) : M β Unit := do
  let src ← e.operand ss .byte
  let tmp ← e.getByte src
  perform (.mtps tmp)

/-- The frame goes to the supervisor D space before the mode changes. -/
def csm (e : Env β) (ss : Word) : M β Unit := do
  let r ← regs
  if r.model ≠ .dcj11 then return ← e.illegalTrap
  let csmEnabled : Bool := e.host.build.enableMmu && r.mmu.ssr3 &&& mmuSsr3Csm ≠ 0
  if !csmEnabled ∨ dcj11PswCurMode r.pswBefore = 0 then return ← e.illegalTrap
  let src ← e.operand ss .word
  let csmArg ← e.getWord src
  let oldSp ← getR 6
  let oldPswStack := (← regs).psw &&& ~~~ccMask
  e.coreStoreWordModeSpace (oldSp - 2) oldPswStack 1 true
  if ← aborted then return
  e.coreStoreWordModeSpace (oldSp - 4) (← getR 7) 1 true
  if ← aborted then return
  e.coreStoreWordModeSpace (oldSp - 6) csmArg 1 true
  if ← aborted then return
  perform (.csmEnter oldSp)
  setR 7 (← e.coreLoadWordModeSpace 0o10 1 false)

def tstset (e : Env β) (dd : Word) : M β Unit := do
  if (← regs).model ≠ .dcj11 ∨ isRegisterMode dd then return ← e.illegalTrap
  let dst ← e.operand dd .word
  let tmp ← e.getWord dst
  setR 0 tmp
  e.putWord dst (tmp ||| 1)
  let r0 ← getR 0
  perform (.setCc (some r0.msb) (some (r0 == 0)) (some false) (some (tmp &&& 1 != 0)))

def wrtlck (e : Env β) (dd : Word) : M β Unit := do
  if (← regs).model ≠ .dcj11 ∨ isRegisterMode dd then return ← e.illegalTrap
  let dst ← e.operand dd .word
  let tmp ← getR 0
  e.putWord dst tmp
  setResult .word ⟨tmp, some false, none⟩

/-! ## Previous-space instructions

On the J-11 an aborted operand decode goes to the end of the step instead of leaving it. -/

/-- MFPI from user to user space reads the D space. -/
def mfpiDataSpace (r : Regs) : Bool :=
  let prev := dcj11PswPrevModeMxpi r.pswBefore
  prev = dcj11PswCurMode r.pswBefore && prev = 3

/-- The operand of MFPx; `none` when its access aborted. -/
def mfpOperand (e : Env β) (ss : Word) (dataSpace : Regs → Bool) : M β (Option Word) := do
  let r ← regs
  if r.model ≠ .dcj11 then
    let src ← e.operand ss .word
    let tmp ← e.getDataWord src
    if ← aborted then return none
    return some tmp
  else
    match ← e.decodeData ss .word with
    | none => return none
    | some src => do
      let prevMode := dcj11PswPrevModeMxpi r.pswBefore
      if src.type = .reg then
        let tmp := ((← regs).dcj11ReadModeReg prevMode (regOf src)).1
        perform (.readPrevModeReg (regOf src))
        return some tmp
      else
        let tmp ← e.coreLoadWordModeSpace src.offset prevMode (dataSpace r)
        if ← aborted then return none
        return some tmp

def mfp (e : Env β) (ss : Word) (dataSpace : Regs → Bool) : M β Unit := do
  if !(← regs).model.hasPrevSpaceOps then return ← e.illegalTrap
  match ← e.mfpOperand ss dataSpace with
  | none => pure ()
  | some tmp => do
    e.pushLogged (pure tmp)
    if ← aborted then return
    setResult .word ⟨tmp, some false, none⟩

def mfpd (e : Env β) (ss : Word) : M β Unit := e.mfp ss fun _ => true

def mfpi (e : Env β) (ss : Word) : M β Unit := e.mfp ss mfpiDataSpace

/-- The store of MTPx. On the J-11 it is not checked for an abort. -/
def mtpStore (e : Env β) (dst : Operand) (dataSpace : Bool) (tmp : Word) : M β Unit := do
  let r ← regs
  if r.model ≠ .dcj11 then e.putWord dst tmp
  else
    let prevMode := dcj11PswPrevModeMxpi r.pswBefore
    if dst.type = .reg then perform (.writePrevModeReg (regOf dst) tmp)
    else e.coreStoreWordModeSpace dst.offset tmp prevMode dataSpace

def mtp (e : Env β) (dd : Word) (dataSpace : Bool) : M β Unit := do
  let model := (← regs).model
  if !model.hasPrevSpaceOps then return ← e.illegalTrap
  let dst? ← if model ≠ .dcj11 then some <$> e.operand dd .word else e.decodeData dd .word
  match dst? with
  | none => pure ()
  | some dst => do
    let tmp ← e.coreLoadWord (← getR 6)
    if ← aborted then return
    setR 6 ((← getR 6) + 2)
    e.recordDelta 6 2
    e.mtpStore dst dataSpace tmp
    setResult .word ⟨tmp, some false, none⟩

def mtpi (e : Env β) (dd : Word) : M β Unit := e.mtp dd false

def mtpd (e : Env β) (dd : Word) : M β Unit := e.mtp dd true

/-! ## Extended instruction set -/

/-- The J-11 leaves the step when a MUL or DIV operand aborts; the other models go on. -/
def leaveIfAbortedDcj11 : M β Unit := do
  if (← regs).model = .dcj11 then leaveIfAborted else pure ()

/-- A register operand: the J-11 reads it after the other operand. -/
def registerOperand {α : Type} (before after : Regs) (f : Regs → α) : α :=
  if after.model = .dcj11 then f after else f before

/-- `(R << 16) | R|1` -/
def registerPair (reg : BitVec 3) (r : Regs) : Dword :=
  ((r.r reg).setWidth 32 <<< 16) ||| (r.r (reg ||| 1)).setWidth 32

def mul (e : Env β) (reg : BitVec 3) (ss : Word) : M β Unit := do
  let before ← regs
  if before.model = .k1801vm1 then return ← e.illegalTrap
  let src ← e.operand ss .word
  let src2 ← e.getDataWord src
  leaveIfAbortedDcj11
  let src1 := registerOperand before (← regs) (·.r reg)
  let prod : Dword := src1.signExtend 32 * src2.signExtend 32
  setR reg ((prod >>> 16).setWidth 16)
  setR (reg ||| 1) (prod.setWidth 16)
  perform (.setCc (some (prod.toInt < 0)) (some (prod == 0)) (some false)
    (some (0o77777 < prod.toInt ∨ prod.toInt < -0o100000)))

def div (e : Env β) (reg : BitVec 3) (ss : Word) : M β Unit := do
  let before ← regs
  if before.model = .k1801vm1 then return ← e.illegalTrap
  let src ← e.operand ss .word
  let divisor ← e.getDataWord src
  leaveIfAbortedDcj11
  let after ← regs
  let isDcj11 : Bool := after.model = .dcj11
  let dividend := registerOperand before after (registerPair reg)
  match divAlu dividend.toInt divisor.toInt with
  | .byZero =>
    perform (.setCc (some (!isDcj11 && (after.r reg).msb)) (some (isDcj11 || after.r reg == 0))
      (some true) (some true))
  | .overflow negative =>
    perform (.setCc (some (isDcj11 && negative)) (some false) (some true) (some false))
  | .quotient q rem => do
    setR reg (BitVec.ofInt 16 q)
    Program.when (isDcj11 ∨ reg &&& 1 = 0) (setR (reg ||| 1) (BitVec.ofInt 16 rem))
    perform (.setCc (some (q < 0)) (some (q == 0)) (some false) (some false))

def ash (e : Env β) (reg : BitVec 3) (ss : Word) : M β Unit := do
  let before ← regs
  if before.model = .k1801vm1 then return ← e.illegalTrap
  let src ← e.operand ss .word
  let shift ← e.getWord src
  let src16 := registerOperand before (← regs) (·.r reg)
  let res := ashAlu src16 (shift &&& 0o77).toNat
  setR reg (res.value.setWidth 16)
  setResult .word ⟨res.value.setWidth 16, some res.v, some res.c⟩

/-- N and Z describe the long result on the J-11 and the stored registers elsewhere. -/
def ashc (e : Env β) (reg : BitVec 3) (ss : Word) : M β Unit := do
  let before ← regs
  if before.model = .k1801vm1 then return ← e.illegalTrap
  let src ← e.operand ss .word
  let shift ← e.getWord src
  let after ← regs
  let pair := registerOperand before after (registerPair reg)
  let res := ashcAlu pair (after.r reg).msb (shift &&& 0o77).toNat
  setR reg ((res.value >>> 16).setWidth 16)
  setR (reg ||| 1) (res.value.setWidth 16)
  let r ← regs
  if r.model = .dcj11 then
    perform (.setCc (some res.value.msb) (some (res.value == 0)) (some res.v) (some res.c))
  else
    perform (.setCc (some (r.r reg).msb) (some (r.r reg ||| r.r (reg ||| 1) == 0)) (some res.v)
      (some res.c))

def xor (e : Env β) (reg : BitVec 3) (dd : Word) : M β Unit := do
  let before ← regs
  let dst ← e.operand dd .word
  let tmp ← e.getWord dst
  let tmp := tmp ^^^ registerOperand before (← regs) (·.r reg)
  e.putWord dst tmp
  setResult .word ⟨tmp, some false, none⟩

/-! ## FIS -/

/-- A FIS operand: two words, checked for an abort after the second. -/
def fisOperand (e : Env β) (addr : Word) : M β Dword := do
  let w0 ← e.coreLoadWord addr
  let w1 ← e.coreLoadWord (addr + 2)
  leaveIfAborted
  return (w0.setWidth 32 <<< 16) ||| w1.setWidth 32

def fis (e : Env β) (f : FisOp) (reg : BitVec 3) : M β Unit := do
  if !(← regs).hasFis then return ← e.handleFis
  let addrB ← getR reg
  let addrA := addrB + 4
  let b := f11ToFloat32 (← e.fisOperand addrB)
  let a := f11ToFloat32 (← e.fisOperand addrA)
  if f = .fdiv ∧ b &&& 0x7FFFFFFF = 0 then return ← e.handleFisError 0o13
  let (res, err) := float32ToF11 (e.host.fis f a b)
  if err ≠ 0 then return ← e.handleFisError err
  e.coreStoreWord addrA ((res >>> 16).setWidth 16)
  leaveIfAborted
  e.coreStoreWord (addrA + 2) (res.setWidth 16)
  leaveIfAborted
  setR reg addrA
  perform (.setCc (some res.msb) (some (res &&& 0x7FFFFFFF == 0)) (some false) (some false))

/-! ## Double operand instructions -/

/-- On the J-11 a register source is read after the destination is decoded. -/
def registerSourceLast (r : Regs) (ss dd : Word) : Bool :=
  r.model = .dcj11 && isRegisterMode ss && !isRegisterMode dd

/-- The value of a register source operand. -/
def sourceRegister (t : DataType) (ss : Word) : M β Word := do
  return (← getR (ss.setWidth 3)) &&& t.mask

/-- Source value and decoded destination, for MOV. -/
def sourceThenDst (e : Env β) (t : DataType) (ss dd : Word) : M β (Word × Operand) := do
  if registerSourceLast (← regs) ss dd then
    let dst ← e.operand dd t
    return (← sourceRegister t ss, dst)
  else
    let src ← e.operand ss t
    let tmp ← e.getData t src
    return (tmp, ← e.operand dd t)

/-- Source value, destination value and decoded destination. -/
def sourceAndDst (e : Env β) (t : DataType) (ss dd : Word) : M β (Word × Word × Operand) := do
  if registerSourceLast (← regs) ss dd then
    let dst ← e.operand dd t
    let tmp1 ← e.getData t dst
    return (← sourceRegister t ss, tmp1, dst)
  else
    let src ← e.operand ss t
    let tmp ← e.getData t src
    let dst ← e.operand dd t
    return (tmp, ← e.getData t dst, dst)

def mov (e : Env β) (t : DataType) (ss dd : Word) : M β Unit := do
  let (tmp, dst) ← e.sourceThenDst t ss dd
  match t with
  | .word => e.putWord dst tmp
  | .byte => e.putByteMovb dst (tmp.setWidth 8)
  setResult t ⟨tmp, some false, none⟩

def double (e : Env β) (d : DoubleOp) (t : DataType) (ss dd : Word) : M β Unit :=
  match d with
  | .mov => e.mov t ss dd
  | .cmp => do
    let (tmp, tmp1, _) ← e.sourceAndDst t ss dd
    setResult t (compareAlu t tmp tmp1)
  | .bit => do
    let (tmp, tmp1, _) ← e.sourceAndDst t ss dd
    setResult t ⟨tmp &&& tmp1, some false, none⟩
  | .bic => do
    let (tmp, tmp1, dst) ← e.sourceAndDst t ss dd
    let res := ~~~tmp &&& tmp1
    e.putData t dst res
    setResult t ⟨res, some false, none⟩
  | .bis => do
    let (tmp, tmp1, dst) ← e.sourceAndDst t ss dd
    let res := tmp ||| tmp1
    e.putData t dst res
    setResult t ⟨res, some false, none⟩

def add (e : Env β) (ss dd : Word) : M β Unit := do
  let (tmp, tmp1, dst) ← e.sourceAndDst .word ss dd
  let res := addAlu tmp tmp1
  e.putWord dst res.value
  setResult .word res

def sub (e : Env β) (ss dd : Word) : M β Unit := do
  let (tmp, tmp1, dst) ← e.sourceAndDst .word ss dd
  let res := subAlu tmp tmp1
  e.putWord dst res.value
  setResult .word res

def fp (e : Env β) (op : Word) : M β Unit := do
  if (← regs).hasFpu then e.fp11 op else e.illegalTrap

/-! ## Dispatch -/

/-- Run an instruction that leaves the locals alone. -/
def plain (m : M β Unit) : M β Locals := do
  m
  return {}

def execute (e : Env β) : Instr → M β Locals
  | .ccOp set mask => plain (ccOp set mask)
  | .halt => plain e.halt
  | .wait => do
    perform (.setWait true)
    return { skipTrace := true }
  | .rti => e.rti
  | .bpt => plain (e.takeVectorHere 0o14)
  | .iot => plain (e.takeVectorHere 0o20)
  | .reset => plain e.reset
  | .rtt => e.rtt
  | .mfpt => plain e.mfpt
  | .spl level => plain (e.spl level)
  | .start => plain e.start
  | .step => e.stepInstr
  | .rsel => plain e.rsel
  | .mfus => plain e.mfus
  | .rcpc => plain e.rcpc
  | .rcps => plain e.rcps
  | .mtus => plain e.mtus
  | .wcpc => plain e.wcpc
  | .wcps => plain e.wcps
  | .branch b offset => plain (branch b offset)
  | .emt => plain (e.takeVectorHere 0o30)
  | .trap => plain (e.takeVectorHere 0o34)
  | .rts reg => plain (e.rts reg)
  | .mark nn => plain (e.mark nn)
  | .sob reg nn => plain (sob reg nn)
  | .jmp dd => plain (e.jmp dd)
  | .single s t dd => plain (e.single s t dd)
  | .swab dd => plain (e.swab dd)
  | .sxt dd => plain (e.sxt dd)
  | .mfps dd => plain (e.mfps dd)
  | .mtps ss => plain (e.mtps ss)
  | .csm ss => plain (e.csm ss)
  | .tstset dd => plain (e.tstset dd)
  | .wrtlck dd => plain (e.wrtlck dd)
  | .mfpd ss => plain (e.mfpd ss)
  | .mfpi ss => plain (e.mfpi ss)
  | .mtpi dd => plain (e.mtpi dd)
  | .mtpd dd => plain (e.mtpd dd)
  | .jsr reg dd => plain (e.jsr reg dd)
  | .mul reg ss => plain (e.mul reg ss)
  | .div reg ss => plain (e.div reg ss)
  | .ash reg ss => plain (e.ash reg ss)
  | .ashc reg ss => plain (e.ashc reg ss)
  | .xor reg dd => plain (e.xor reg dd)
  | .fis f reg => plain (e.fis f reg)
  | .double d t ss dd => plain (e.double d t ss dd)
  | .add ss dd => plain (e.add ss dd)
  | .sub ss dd => plain (e.sub ss dd)
  | .fp11 op => plain (e.fp op)
  | .illegal => plain e.illegalTrap

end Env

end K1801.Core
