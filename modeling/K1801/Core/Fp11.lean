import K1801.Core.Operand

/-! # FP11 floating point

The J-11 collects the autoincrements of R0..R6 and applies them when the instruction has
completed; a floating point exception is taken then too.
-/

namespace K1801.Core

open Library

variable {β : Type}

abbrev fpsEr : Dword := 0x8000
abbrev fpsId : Dword := 0x4000
abbrev fpsIuv : Dword := 0x800
abbrev fpsIu : Dword := 0x400
abbrev fpsIv : Dword := 0x200
abbrev fpsIc : Dword := 0x100
abbrev fpsD : Dword := 0x80
abbrev fpsL : Dword := 0x40
abbrev fpsT : Dword := 0x20
abbrev fpsN : Dword := 0x8
abbrev fpsZ : Dword := 0x4
abbrev fpsV : Dword := 0x2
abbrev fpsC : Dword := 0x1
abbrev fpsCc : Dword := 0xF
abbrev fpsRw : Dword := 0xCFEF

/-- Floating exception codes. -/
inductive Fec where
  | op | dzro | icvt | ovflo | unflo | undfv
  deriving Repr, DecidableEq

def Fec.code : Fec → Dword
  | op => 2
  | dzro => 4
  | icvt => 6
  | ovflo => 8
  | unflo => 10
  | undfv => 12

/-- The FPS bit that enables the exception, when it can be disabled by itself. -/
def Fec.enable : Fec → Option Dword
  | op | dzro => none
  | icvt => some fpsIc
  | ovflo => some fpsIv
  | unflo => some fpsIu
  | undfv => some fpsIuv

abbrev trapFpe : Word := 0o244

abbrev fpSign : Dword := 0x80000000
abbrev fpExp : Dword := 0x7F800000
abbrev fpHb : Dword := 0x800000
abbrev fpFrach : Dword := 0x7FFFFF
abbrev fpBias : Int := 0o200

namespace Fpac

def sign (f : Fpac) : Bool := f.h.msb

/-- `GET_EXP` -/
def exp (f : Fpac) : Nat := ((f.h >>> 23) &&& 0o377).toNat

/-- The pair as one 64-bit quantity. -/
def quad (f : Fpac) : BitVec 64 := (f.h.setWidth 64 <<< 32) ||| f.l.setWidth 64

def ofQuad (q : BitVec 64) : Fpac := ⟨q.setWidth 32, (q >>> 32).setWidth 32⟩

/-- `F_LOAD` -/
def load (qd : Bool) (ac : Fpac) : Fpac := { ac with l := if qd then ac.l else 0 }

/-- `F_STORE` -/
def store (qd : Bool) (sr ac : Fpac) : Fpac := ⟨if qd then sr.l else ac.l, sr.h⟩

/-- `F_GET_FRAC_P`: the fraction with its hidden bit. -/
def frac (f : Fpac) : Fpac := ⟨f.l, (f.h &&& fpFrach) ||| fpHb⟩

def add (x y : Fpac) : Fpac := ofQuad (x.quad + y.quad)

def sub (x y : Fpac) : Fpac := ofQuad (x.quad - y.quad)

def shl (x : Fpac) (n : Nat) : Fpac := ofQuad (x.quad <<< n)

def shr (x : Fpac) (n : Nat) : Fpac := ofQuad (x.quad >>> n)

/-- `F_LT` -/
def lt (x y : Fpac) : Bool := x.quad < y.quad

/-- `F_LT_AP`: compare magnitudes. -/
def ltAp (x y : Fpac) : Bool := lt { x with h := x.h &&& ~~~fpSign } { y with h := y.h &&& ~~~fpSign }

/-- Bit `FP_V_HB + FP_GUARD + i`: 0 is the guarded hidden bit, 1 the carry out of it. -/
def guardedBit (x : Fpac) (i : Nat) : Bool := x.h.getLsbD (26 + i)

def zero : Fpac := {}

end Fpac

/-! ## Normalisation and fraction arithmetic -/

/-- The four steps before the bitwise loop that normalise a fraction after cancellation. -/
def normalizeFast (x : Fpac) (exp : Int) : Fpac × Int :=
  let step (mask : Dword) (n : Nat) (p : Fpac × Int) : Fpac × Int :=
    if p.1.h &&& (mask <<< 3) = 0 then (p.1.shl n, p.2 - n) else p
  step 0x00FC0000 6 (step 0x00FFF000 12 (step 0x00FFFFFF 24 (x, exp)))

/-- The loop that shifts left until the hidden bit is set. A non-zero fraction needs at
    most 63 shifts. -/
def normalizeLoop : Nat → Fpac → Int → Fpac × Int
  | 0, x, exp => (x, exp)
  | n + 1, x, exp => if x.guardedBit 0 then (x, exp) else normalizeLoop n (x.shl 1) (exp - 1)

/-- The shift-and-add loop of `frac_mulfp11` over the low `n` bits of a multiplier word. -/
def fracMulLoop (addMpc : Fpac → Fpac) : Nat → Dword → Fpac → Fpac
  | 0, _, result => result
  | n + 1, mpy, result =>
    let result := if mpy.getLsbD 0 then addMpc result else result
    fracMulLoop addMpc n (mpy >>> 1) (result.shr 1)

def fracMulfp11 (f1 f2 : Fpac) : Fpac :=
  let mpc := f2.shl 3
  if f1.l ||| mpc.l = 0 then
    fracMulLoop (fun r => { r with h := r.h + mpc.h }) 24 f1.h .zero
  else
    let low := if f1.l ≠ 0 then fracMulLoop mpc.add 32 f1.l .zero else .zero
    fracMulLoop mpc.add 24 f1.h low

/-- The division loop: `(i, quotient, dividend)` after it. -/
def fracDivLoop (qd : Bool) (divisor : Fpac) : Nat → Fpac → Fpac → Nat × Fpac
  | 0, quo, _ => (0, quo)
  | i + 1, quo, dividend =>
    if dividend.h ||| dividend.l = 0 then (i + 1, quo)
    else
      let quo := quo.shl 1
      if dividend.lt divisor then fracDivLoop qd divisor i quo (dividend.shl 1)
      else
        let quo := if qd then { quo with l := quo.l ||| 1 } else { quo with h := quo.h ||| 1 }
        fracDivLoop qd divisor i quo ((dividend.sub divisor).shl 1)

/-- The loop of LDCif that brings the sign bit up; answers the shift count too. -/
def ldcLoop : Nat → Dword → Nat → Dword × Nat
  | 0, l, i => (l, i)
  | n + 1, l, i => if l.msb then (l, i) else ldcLoop n (l <<< 1) (i + 1)

/-- `setfcc` -/
def setfcc (oldst : Dword) (result : Fpac) (newV : Dword) : Dword :=
  let st := (oldst &&& ~~~fpsCc) ||| newV
  let st := if result.sign then st ||| fpsN else st
  if result.exp = 0 then st ||| fpsZ else st

namespace Env

def fps : M β Dword := Program.read (·.core.fpu.fps)

def setFps (v : Dword) : M β Unit := perform (.fpu fun u => { u with fps := v })

def getFr (i : BitVec 3) : M β Fpac := Program.read (·.core.fpu.fr i)

def setFr (i : BitVec 3) (v : Fpac) : M β Unit :=
  perform (.fpu fun u => { u with fr := Function.update u.fr i v })

/-- `F_STORE(qdouble, v, FR[i])` -/
def storeFr (qd : Bool) (i : BitVec 3) (v : Fpac) : M β Unit := do
  setFr i (v.store qd (← getFr i))

/-- `fpnotrap`: record an exception; answers whether its interrupt is disabled. -/
def fpnotrap (code : Fec) : M β Bool := do
  match code.enable with
  | some bit =>
    if (← fps) &&& bit = 0 then pure true else do record; pure false
  | none => do record; pure false
where
  record : M β Unit := do
    let r ← regs
    perform (.fpu fun u =>
      let u := { u with
        fps := u.fps ||| fpsEr, fec := code.code, fea := (u.backupPc - 2).setWidth 32 }
      if u.fps &&& fpsId = 0 ∧ !u.trapPending then
        { u with trapPending := true, trapOldPc := r.r 7, trapOldPsw := r.psw }
      else u)

/-! ## Rounding and the four operations -/

/-- `roundfp11`: the rounded number and the overflow flag. -/
def roundfp11 (f : Fpac) : M β (Fpac × Dword) := do
  let outf := f.add ⟨fpSign, 0⟩
  if outf.sign ≠ f.sign then
    let outf := { outf with h := outf.h ^^^ fpSign }
    if ← fpnotrap .ovflo then return (.zero, fpsV) else return (outf, fpsV)
  else return (outf, 0)

/-- `round_and_pack`: `facp` has the sign, `frac` the guarded fraction. -/
def roundAndPack (facp : Fpac) (exp : Int) (frac : Fpac) (rv : Bool) : M β (Fpac × Dword) := do
  let st ← fps
  let (frac, exp) :=
    if rv ∧ st &&& fpsT = 0 then
      let frac := frac.add (if st &&& fpsD ≠ 0 then ⟨4, 0⟩ else ⟨0, 4⟩)
      if frac.guardedBit 1 then (frac.shr 1, exp + 1) else (frac, exp)
    else (frac, exp)
  let frac := frac.shr 3
  let packed : Fpac := ⟨frac.l,
    (facp.h &&& fpSign) ||| (((BitVec.ofInt 32 exp) &&& 0o377) <<< 23) ||| (frac.h &&& fpFrach)⟩
  if 0o377 < exp then
    if ← fpnotrap .ovflo then return (.zero, fpsV) else return (packed, fpsV)
  else if exp ≤ 0 then
    if ← fpnotrap .unflo then return (.zero, 0) else return (packed, 0)
  else return (packed, 0)

def addfp11 (fac fsrc : Fpac) : M β (Fpac × Dword) := do
  let (fac, fsrc) := if fac.ltAp fsrc then (fsrc, fac) else (fac, fsrc)
  if fac.exp = 0 then return (if fsrc.exp ≠ 0 then fsrc else .zero, 0)
  else if fsrc.exp = 0 then return (fac, 0)
  else if 60 ≤ fac.exp - fsrc.exp then return (fac, 0)
  else
    let ediff := fac.exp - fsrc.exp
    let facfrac := fac.frac.shl 3
    let fsrcfrac := (fsrc.frac.shl 3).shr ediff
    if fac.sign ≠ fsrc.sign then
      let diff := facfrac.sub fsrcfrac
      if diff.h ||| diff.l = 0 then return (.zero, 0)
      else
        let (diff, exp) := if ediff ≤ 1 then normalizeFast diff fac.exp else (diff, (fac.exp : Int))
        let (diff, exp) := normalizeLoop 64 diff exp
        roundAndPack fac exp diff true
    else
      let sum := facfrac.add fsrcfrac
      if sum.guardedBit 1 then roundAndPack fac (fac.exp + 1) (sum.shr 1) true
      else roundAndPack fac fac.exp sum true

/-- The product fraction and exponent that MULf and MODf start from. -/
def productFrac (fac fsrc : Fpac) : Fpac × Int :=
  let exp : Int := fac.exp + fsrc.exp - fpBias
  let frac := fracMulfp11 fac.frac fsrc.frac
  if frac.guardedBit 0 then (frac, exp) else (frac.shl 1, exp - 1)

def mulfp11 (fac fsrc : Fpac) : M β (Fpac × Dword) := do
  if fac.exp = 0 ∨ fsrc.exp = 0 then return (.zero, 0)
  else
    let (frac, exp) := productFrac fac fsrc
    roundAndPack { fac with h := fac.h ^^^ fsrc.h } exp frac true

/-- `modfp11`: integer part, fraction part and overflow flag. -/
def modfp11 (fac fsrc : Fpac) : M β (Fpac × Fpac × Dword) := do
  if fac.exp = 0 ∨ fsrc.exp = 0 then return (.zero, .zero, 0)
  else
    let (frac, exp) := productFrac fac fsrc
    let signed : Fpac := { fac with h := fac.h ^^^ fsrc.h }
    let bits : Int := if (← fps) &&& fpsD ≠ 0 then 56 else 24
    if exp ≤ fpBias then
      let (fracp, v) ← roundAndPack signed exp frac true
      return (.zero, fracp, v)
    else if fpBias + bits < exp then
      let (facp, v) ← roundAndPack signed exp frac false
      return (facp, .zero, v)
    else
      let shift := (exp - fpBias).toNat
      let fmask := (⟨0xFFFFFFFF, 0x7FFFFFF⟩ : Fpac).shr shift
      let part : Fpac := ⟨frac.l &&& fmask.l, frac.h &&& fmask.h⟩
      let fracp ← if part.h ||| part.l = 0 then pure .zero
        else do
          let (part, pexp) := normalizeFast (part.shl shift) fpBias
          let (part, pexp) := normalizeLoop 64 part pexp
          let (fracp, _) ← roundAndPack signed pexp part true
          pure fracp
      let whole : Fpac := ⟨frac.l &&& ~~~fmask.l, frac.h &&& ~~~fmask.h⟩
      let (facp, v) ← roundAndPack signed exp whole false
      return (facp, fracp, v)

/-- `divfp11`: the caller has checked the divisor for zero. -/
def divfp11 (fac fsrc : Fpac) : M β (Fpac × Dword) := do
  if fac.exp = 0 then return (.zero, 0)
  else
    let exp : Int := fac.exp - fsrc.exp + fpBias + 1
    let qd : Bool := (← fps) &&& fpsD ≠ 0
    let (i, quo) := fracDivLoop qd (fsrc.frac.shl 3) (26 + if qd then 33 else 1) .zero (fac.frac.shl 3)
    let quo := quo.shl i
    let signed : Fpac := { fac with h := fac.h ^^^ fsrc.h }
    if quo.guardedBit 0 then roundAndPack signed exp quo true
    else roundAndPack signed (exp - 1) (quo.shl 1) true

/-! ## Operand access -/

/-- `LONG` and `QUAD`, and `WORD` for integers -/
inductive FpLen where
  | word | long | quad
  deriving Repr, DecidableEq

def FpLen.bytes : FpLen → Word
  | .word => 2
  | .long => 4
  | .quad => 8

def readW (e : Env β) (addr : Word) : M β Word := do
  if ← aborted then return 0
  e.coreLoadWord addr

def readWI (e : Env β) (addr : Word) : M β Word := do
  if ← aborted then return 0
  e.coreLoadWordIfetch addr

def readFW (e : Env β) (addr spec : Word) : M β Word :=
  if spec = 0o27 then e.readWI addr else e.readW addr

def writeW (e : Env β) (data addr : Word) : M β Unit := do
  if ← aborted then return
  e.coreStoreWord addr data

/-- `fp_reg_change` -/
def fpRegChange (len : Word) (reg : BitVec 3) : M β Unit := do
  if (← regs).model = .dcj11 ∧ reg ≠ 7 then
    perform (.fpu fun u =>
      { u with
        regDelta := Function.update u.regDelta reg (u.regDelta reg + len.setWidth 8)
        regDeltaMask := u.regDeltaMask ||| (1 <<< reg.toNat) })
  else
    let v ← getR reg
    Program.when (reg = 7) (perform (.ifetch v))
    setR reg (v + len)

/-- Modes 1 to 7 of a floating point specifier; `len` is the step of modes 2 and 4. The
    answer is of no use when the abort flag is up. -/
def getea (e : Env β) (spec len : Word) : M β Word := do
  let reg : BitVec 3 := spec.setWidth 3
  let mode : BitVec 3 := (spec >>> 3).setWidth 3
  match mode with
  | 2 => do
    let adr ← getR reg
    fpRegChange len reg
    pure adr
  | 3 => do
    let adr ← getR reg
    fpRegChange 2 reg
    if reg = 7 then e.readWI adr else e.readW adr
  | 4 => do
    let adr := (← getR reg) - len
    fpRegChange (-len) reg
    pure adr
  | 5 => do
    let adr := (← getR reg) - 2
    fpRegChange (-2) reg
    e.readW adr
  | 6 => do
    let pc ← getR 7
    let adr ← e.readWI pc
    if ← aborted then return 0
    perform (.ifetch pc)
    setR 7 (pc + 2)
    pure ((← getR reg) + adr)
  | 7 => do
    let pc ← getR 7
    let adr ← e.readWI pc
    if ← aborted then return 0
    perform (.ifetch pc)
    setR 7 (pc + 2)
    e.readW ((← getR reg) + adr)
  | _ => getR reg

def geteaFW (e : Env β) (spec : Word) : M β Word := e.getea spec 2

/-- An accumulator number above 5 is illegal; immediate operands are one word long. -/
def geteaFP (e : Env β) (spec : Word) (len : FpLen) : M β Word := do
  if spec ≤ 7 then
    if spec < 6 then pure 0
    else do
      let _ ← fpnotrap .op
      perform (.setAbort true)
      pure 0
  else e.getea spec (if spec = 0o27 then 2 else len.bytes)

def readI (e : Env β) (va spec : Word) (len : FpLen) : M β Dword := do
  if len = .word ∨ spec = 0o27 then
    return (← e.readFW va spec).setWidth 32 <<< 16
  else
    let hi ← e.readW va
    if ← aborted then return 0
    return (hi.setWidth 32 <<< 16) ||| (← e.readW (va + 2)).setWidth 32

/-- The sign without an exponent is the undefined variable. -/
def checkDefined (f : Fpac) : M β (Option Fpac) := do
  if f.sign ∧ f.exp = 0 then
    if ← fpnotrap .undfv then return some f else return none
  else return some f

/-- `ReadFP`: `none` when the instruction must do nothing. -/
def readFP (e : Env β) (va spec : Word) (len : FpLen) : M β (Option Fpac) := do
  if ← aborted then return none
  if spec ≤ 7 then return some ((← getFr (spec.setWidth 3)).load (len = .quad))
  else if spec = 0o27 then checkDefined ⟨0, (← e.readWI va).setWidth 32 <<< 16⟩
  else
    let w0 ← e.readW va
    if ← aborted then return none
    let w1 ← e.readW (va + 2)
    if ← aborted then return none
    let h := (w0.setWidth 32 <<< 16) ||| w1.setWidth 32
    if len ≠ .quad then checkDefined ⟨0, h⟩
    else
      let w2 ← e.readW (va + 4)
      if ← aborted then return none
      let w3 ← e.readW (va + 6)
      if ← aborted then return none
      checkDefined ⟨(w2.setWidth 32 <<< 16) ||| w3.setWidth 32, h⟩

def writeI (e : Env β) (data : Dword) (va spec : Word) (len : FpLen) : M β Unit := do
  if ← aborted then return
  if len = .word ∨ spec = 0o27 then e.writeW ((data >>> 16).setWidth 16) va
  else if va &&& 1 ≠ 0 then e.busErrorTrap
  else
    e.writeW ((data >>> 16).setWidth 16) va
    if ← aborted then return
    e.writeW (data.setWidth 16) (va + 2)

def writeFP (e : Env β) (f : Fpac) (va spec : Word) (len : FpLen) : M β Unit := do
  if ← aborted then return
  if spec ≤ 7 then storeFr (len = .quad) (spec.setWidth 3) f
  else if spec = 0o27 then e.writeW ((f.h >>> 16).setWidth 16) va
  else if va &&& 1 ≠ 0 then e.busErrorTrap
  else
    e.writeW ((f.h >>> 16).setWidth 16) va
    if ← aborted then return
    e.writeW (f.h.setWidth 16) (va + 2)
    if ← aborted then return
    if len = .long then return
    e.writeW ((f.l >>> 16).setWidth 16) (va + 4)
    if ← aborted then return
    e.writeW (f.l.setWidth 16) (va + 6)

/-! ## The instructions -/

/-- Integer operand of LDFPS and LDEXP; `none` when its access aborted. -/
def fpWordSource (e : Env β) (spec : Word) : M β (Option Word) := do
  let v ← if spec ≤ 7 then getR (spec.setWidth 3) else do
    let ea ← e.geteaFW spec
    e.readFW ea spec
  if ← aborted then return none
  return some v

/-- A floating operand together with its address. -/
def fpSource (e : Env β) (spec : Word) (len : FpLen) : M β (Option Fpac × Word) := do
  let ea ← e.geteaFP spec len
  let f ← e.readFP ea spec len
  pure (f, ea)

/-- `GET_EXP(x) == 0` makes an operand a clean zero. -/
def cleanZero (f : Fpac) : Fpac := if f.exp = 0 then .zero else f

/-- An accumulator operation whose source is a floating operand. -/
def withSource (e : Env β) (spec : Word) (len : FpLen) (k : Fpac → M β Unit) : M β Unit := do
  let (f, _) ← e.fpSource spec len
  match f with
  | none => pure ()
  | some fsrc => k fsrc

/-- Store a result in an accumulator and set the floating condition codes from it. -/
def finishFp (qd : Bool) (ac : BitVec 3) (f : Fpac) (newV : Dword) : M β Unit := do
  storeFr qd ac f
  setFps (setfcc (← fps) f newV)

/-- ABSf and NEGf. -/
def fpSignOp (e : Env β) (spec : Word) (len : FpLen) (f : Dword → Dword) : M β Unit := do
  let (src, ea) ← e.fpSource spec len
  match src with
  | none => pure ()
  | some fsrc =>
    let res := if fsrc.exp = 0 then .zero else { fsrc with h := f fsrc.h }
    e.writeFP res ea spec len
    setFps (setfcc (← fps) res 0)

/-- IR<11:8> = 0 -/
def fpControl (e : Env β) (ir ac spec : Word) : M β Unit := do
  match ac.toNat with
  | 0 =>
    match ir.toNat with
    | 0o170000 => do
      let st ← fps
      perform (.setCc (some (st &&& fpsN ≠ 0)) (some (st &&& fpsZ ≠ 0)) (some (st &&& fpsV ≠ 0))
        (some (st &&& fpsC ≠ 0)))
    | 0o170001 => do setFps ((← fps) &&& ~~~fpsD)
    | 0o170002 => do setFps ((← fps) &&& ~~~fpsL)
    | 0o170011 => do setFps ((← fps) ||| fpsD)
    | 0o170012 => do setFps ((← fps) ||| fpsL)
    | _ => do
      let _ ← fpnotrap .op
  | 1 => do
    match ← e.fpWordSource spec with
    | none => pure ()
    | some v => setFps (v.setWidth 32 &&& fpsRw)
  | 2 => do
    setFps ((← fps) &&& fpsRw)
    if spec ≤ 7 then setR (spec.setWidth 3) ((← fps).setWidth 16)
    else
      let ea ← e.geteaFW spec
      Program.when (!(← aborted)) (do e.writeW ((← fps).setWidth 16) ea)
  | _ => do
    let u := (← regs).fpu
    if spec ≤ 7 then setR (spec.setWidth 3) (u.fec.setWidth 16)
    else
      let ea ← e.geteaFP spec .long
      let u := (← regs).fpu
      Program.when (!(← aborted)) (e.writeI ((u.fec <<< 16) ||| u.fea) ea spec .long)

/-- IR<11:8> = 1 -/
def fpSingle (e : Env β) (ac spec : Word) (lenf : FpLen) : M β Unit := do
  match ac.toNat with
  | 0 => do
    let ea ← e.geteaFP spec lenf
    e.writeFP .zero ea spec lenf
    setFps (((← fps) &&& ~~~fpsCc) ||| fpsZ)
  | 1 => e.withSource spec lenf fun fsrc => do setFps (setfcc (← fps) fsrc 0)
  | 2 => e.fpSignOp spec lenf (· &&& ~~~fpSign)
  | _ => e.fpSignOp spec lenf (· ^^^ fpSign)

/-- CMPf: the condition codes of `fsrc - fac`. -/
def fpCompare (st : Dword) (fsrc fac : Fpac) : Dword :=
  let cleared := st &&& ~~~fpsCc
  if fsrc = fac then cleared ||| fpsZ
  else
    let n := cleared ||| (if fsrc.sign then fpsN else 0)
    if fsrc.sign = fac.sign ∧ fac.h ≠ 0 ∧ fsrc.lt fac then n ^^^ fpsN else n

def fpLdexp (e : Env β) (ac : BitVec 3) (spec : Word) (qd : Bool) : M β Unit := do
  match ← e.fpWordSource spec with
  | none => pure ()
  | some dst => do
    let fac := (← getFr ac).load qd
    let fac := { fac with
      h := (fac.h &&& ~~~fpExp) ||| (((dst.setWidth 32 + 0o200) &&& 0o377) <<< 23) }
    if 0o177 < dst ∧ dst ≤ 0o177600 then
      if dst < 0o100000 then
        let off ← fpnotrap .ovflo
        finishFp qd ac (if off then .zero else fac) fpsV
      else
        let off ← fpnotrap .unflo
        finishFp qd ac (if off then .zero else fac) 0
    else finishFp qd ac fac 0

def fpStexp (e : Env β) (ac : BitVec 3) (spec : Word) : M β Unit := do
  let dst : Word := BitVec.ofNat 16 (← getFr ac).exp - 0o200
  perform (.setCc (some dst.msb) (some (dst == 0)) (some false) (some false))
  let psw := (← regs).psw
  setFps (((← fps) &&& ~~~fpsCc) ||| (if flagIsSet psw flagN then fpsN else 0) |||
    (if flagIsSet psw flagZ then fpsZ else 0))
  if spec ≤ 7 then setR (spec.setWidth 3) dst
  else
    let ea ← e.geteaFW spec
    e.writeW dst ea

/-- The floating number of a non-zero integer, before rounding. -/
def ldcFloat (l : Dword) (long : Bool) : Fpac :=
  let sign := l.msb
  let (l, i) := ldcLoop 32 (if sign then -l else l) 0
  let exp : Dword := (if long then 0o200 + 32 else 0o200 + 16) - BitVec.ofNat 32 i
  ⟨l <<< 24, (if sign then fpSign else 0) ||| (exp <<< 23) ||| ((l >>> 8) &&& fpFrach)⟩

def fpLdcif (e : Env β) (ac : BitVec 3) (spec : Word) (qd : Bool) : M β Unit := do
  let long : Bool := (← fps) &&& fpsL ≠ 0
  let leni : FpLen := if long then .long else .word
  let l ← if spec ≤ 7 then do pure ((← getR (spec.setWidth 3)).setWidth 32 <<< 16) else do
    let ea ← e.geteaFP spec leni
    e.readI ea spec leni
  if ← (if spec ≤ 7 then pure false else aborted) then return
  if l = 0 then finishFp qd ac .zero 0
  else if (← fps) &&& (fpsD ||| fpsT) = 0 then
    let (fac, _) ← roundfp11 (ldcFloat l long)
    finishFp qd ac fac 0
  else finishFp qd ac (ldcFloat l long) 0

/-- STCfi: the integer, left-justified, and whether the conversion failed. -/
def stcInteger (f : Fpac) (qd long : Bool) : Dword × Bool :=
  let top : Nat := 0o200 + if long then 32 else 16
  if f.exp ≤ 0o200 then (0, false)
  else if top < f.exp then (0, true)
  else
    let l := ((f.frac.load qd).shr (24 + top - f.exp)).l
    let l := if long then l else l &&& 0xFFFF0000
    let limit : Dword := if f.sign then (if long then 0x80000001 else 0x80010000) else 0x80000000
    if limit ≤ l then (0, true) else (if f.sign then -l else l, false)

def fpStcfi (e : Env β) (ac : BitVec 3) (spec : Word) (qd : Bool) : M β Unit := do
  let long : Bool := (← fps) &&& fpsL ≠ 0
  let leni : FpLen := if long then .long else .word
  let (dst, failed) := stcInteger (← getFr ac) qd long
  perform (.setCc (some dst.msb) (some (dst == 0)) (some false) none)
  Program.when failed (do let _ ← fpnotrap .icvt)
  let psw := (← regs).psw
  setFps (((← fps) &&& ~~~fpsCc) ||| (if flagIsSet psw flagN then fpsN else 0) |||
    (if flagIsSet psw flagZ then fpsZ else 0) ||| (if flagIsSet psw flagC then fpsC else 0))
  if spec ≤ 7 then setR (spec.setWidth 3) ((dst >>> 16).setWidth 16)
  else
    let ea ← e.geteaFP spec leni
    e.writeI dst ea spec leni

/-- `switch ((IR >> 8) & 017)` -/
def fpDispatch (e : Env β) (ir : Word) : M β Unit := do
  let ac := (ir >>> 6) &&& 3
  let acr : BitVec 3 := ac.setWidth 3
  let spec := ir &&& 0o77
  let st ← fps
  let qd : Bool := st &&& fpsD ≠ 0
  let lenf : FpLen := if qd then .quad else .long
  let lenOther : FpLen := if qd then .long else .quad
  match ((ir >>> 8) &&& 0o17).toNat with
  | 0o0 => e.fpControl ir ac spec
  | 0o1 => e.fpSingle ac spec lenf
  | 0o5 => e.withSource spec lenf fun fsrc => finishFp qd acr fsrc 0
  | 0o10 => do
    let fac := (← getFr acr).load qd
    let ea ← e.geteaFP spec lenf
    e.writeFP fac ea spec lenf
  | 0o17 => e.withSource spec lenOther fun fsrc => do
    let fsrc := cleanZero fsrc
    if (← fps) &&& (fpsD ||| fpsT) = 0 then
      let (f, v) ← roundfp11 fsrc
      finishFp qd acr f v
    else finishFp qd acr fsrc 0
  | 0o14 => do
    let fac := cleanZero ((← getFr acr).load qd)
    let (fac, v) ← if st &&& (fpsD ||| fpsT) = fpsD then roundfp11 fac else pure (fac, 0)
    let ea ← e.geteaFP spec lenOther
    e.writeFP fac ea spec lenOther
    setFps (setfcc (← fps) fac v)
  | 0o7 => e.withSource spec lenf fun fsrc => do
    let fac := cleanZero ((← getFr acr).load qd)
    let fsrc := cleanZero fsrc
    setFps (fpCompare (← fps) fsrc fac)
    Program.when (fsrc = fac ∧ fsrc = .zero) (storeFr qd acr .zero)
  | 0o15 => e.fpLdexp acr spec qd
  | 0o12 => e.fpStexp acr spec
  | 0o16 => e.fpLdcif acr spec qd
  | 0o13 => e.fpStcfi acr spec qd
  | 0o2 => e.withSource spec lenf fun fsrc => do
    let (f, v) ← mulfp11 ((← getFr acr).load qd) fsrc
    finishFp qd acr f v
  | 0o3 => e.withSource spec lenf fun fsrc => do
    let (whole, frac, v) ← modfp11 ((← getFr acr).load qd) fsrc
    storeFr qd (acr ||| 1) whole
    finishFp qd acr frac v
  | 0o4 => e.withSource spec lenf fun fsrc => do
    let (f, v) ← addfp11 ((← getFr acr).load qd) fsrc
    finishFp qd acr f v
  | 0o6 => e.withSource spec lenf fun fsrc => do
    let fsrc := if fsrc.exp ≠ 0 then { fsrc with h := fsrc.h ^^^ fpSign } else fsrc
    let (f, v) ← addfp11 ((← getFr acr).load qd) fsrc
    finishFp qd acr f v
  | _ => e.withSource spec lenf fun fsrc => do
    if fsrc.exp = 0 then do
      let _ ← fpnotrap .dzro
    else
      let (f, v) ← divfp11 ((← getFr acr).load qd) fsrc
      finishFp qd acr f v

/-- The register changes collected during the instruction. -/
def fpCommit : List (BitVec 3) → M β Unit
  | [] => pure ()
  | i :: is => do
    let u := (← regs).fpu
    Program.when (u.regDeltaMask.getLsbD i.toNat)
      (do setR i ((← getR i) + (u.regDelta i).signExtend 16))
    fpCommit is

def fp11 (e : Env β) (ir : Word) : M β Unit := do
  let r ← regs
  perform (.fpu fun u =>
    { u with
      backupPc := r.r 7, regDeltaMask := 0, regDelta := fun _ => 0
      trapPending := false, trapOldPc := r.r 7, trapOldPsw := r.psw })
  e.fpDispatch ir
  Program.when (!(← aborted)) (fpCommit [0, 1, 2, 3, 4, 5, 6, 7])
  perform (.fpu fun u => { u with regDeltaMask := 0, regDelta := fun _ => 0 })
  let u := (← regs).fpu
  if u.trapPending ∧ !(← aborted) then
    e.coreTakeVector trapFpe u.trapOldPc u.trapOldPsw
    perform (.fpu fun u => { u with trapPending := false })
  else pure ()

end Env

end K1801.Core
