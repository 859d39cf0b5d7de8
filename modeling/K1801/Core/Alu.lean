import K1801.Core.Decode

/-! # Arithmetic of the instruction set

Operands are held in words; a byte operand is a word below 0400. The condition codes of
a result are given per flag, `none` where the instruction keeps the flag.
-/

namespace K1801.Core

namespace DataType

/-- `SIGN` and `SIGN_B` -/
def sign : DataType → Word
  | word => 0o100000
  | byte => 0o200

/-- `NEG_1` and `NEG_1_B` -/
def mask : DataType → Word
  | word => 0o177777
  | byte => 0o377

/-- `MPI` and `MPI_B` -/
def mpi (t : DataType) : Word := t.sign - 1

/-- `CARRY` and `CARRY_B` -/
def carry (t : DataType) : Dword := t.mask.setWidth 32 + 1

def negative (t : DataType) (v : Word) : Bool := v &&& t.sign ≠ 0

end DataType

/-- A result and the flags that do not follow from its sign and zeroness. -/
structure AluResult where
  value : Word
  v : Option Bool
  c : Option Bool
  deriving Repr, DecidableEq

/-- Read-modify-write instructions; `carry` is C before the result is stored. -/
def singleAlu (t : DataType) (s : SingleOp) (carry : Bool) (tmp : Word) : AluResult :=
  match s with
  | .clr => ⟨0, some false, some false⟩
  | .com => ⟨~~~tmp &&& t.mask, some false, some true⟩
  | .inc => ⟨(tmp + 1) &&& t.mask, some (tmp == t.mpi), none⟩
  | .dec => ⟨(tmp - 1) &&& t.mask, some (tmp == t.sign), none⟩
  | .neg =>
    let res := (t.mask - tmp + 1) &&& t.mask
    ⟨res, some (res == t.sign), some (res != 0)⟩
  | .adc =>
    let res := if carry then (tmp + 1) &&& t.mask else tmp
    ⟨res, some (carry && tmp == t.mpi), some (carry && tmp == t.mask)⟩
  | .sbc =>
    let res := if carry then (tmp - 1) &&& t.mask else tmp
    ⟨res, some (carry && tmp == t.sign), some (carry && tmp == 0)⟩
  | .tst => ⟨tmp, some false, some false⟩
  | .asr =>
    let res := (tmp &&& t.sign) ||| (tmp >>> 1)
    let c := tmp &&& 1 != 0
    ⟨res, some (t.negative res ^^ c), some c⟩
  | .asl =>
    let res := (tmp <<< 1) &&& t.mask
    let c := t.negative tmp
    ⟨res, some (t.negative res ^^ c), some c⟩
  | .ror =>
    let res := (tmp >>> 1) ||| (if carry then t.sign else 0)
    let c := tmp &&& 1 != 0
    ⟨res, some (t.negative res ^^ c), some c⟩
  | .rol =>
    let res := ((tmp <<< 1) ||| (if carry then 1 else 0)) &&& t.mask
    let c := t.negative tmp
    ⟨res, some (t.negative res ^^ c), some c⟩

/-- `src - dst` and its flags: CMP. -/
def compareAlu (t : DataType) (src dst : Word) : AluResult :=
  let tmp3 : Dword := src.setWidth 32 + (~~~dst &&& t.mask).setWidth 32 + 1
  let res := tmp3.setWidth 16 &&& t.mask
  ⟨res, some (t.negative src != t.negative dst && t.negative dst == t.negative res),
    some (tmp3 &&& t.carry == 0)⟩

def addAlu (src dst : Word) : AluResult :=
  let tmp3 : Dword := src.setWidth 32 + dst.setWidth 32
  let res := tmp3.setWidth 16
  let neg := DataType.word.negative
  ⟨res, some (neg src == neg dst && neg src != neg res), some (tmp3 &&& DataType.word.carry != 0)⟩

/-- `dst - src`: SUB. -/
def subAlu (src dst : Word) : AluResult :=
  let tmp3 : Dword := dst.setWidth 32 + (~~~src).setWidth 32 + 1
  let res := tmp3.setWidth 16
  let neg := DataType.word.negative
  ⟨res, some (neg src != neg dst && neg src == neg res), some (tmp3 &&& DataType.word.carry == 0)⟩

/-! ## EIS -/

/-- `arith_rshift32` -/
def arithRshift32 (value : Dword) (count : Nat) : Dword :=
  if count = 0 then value
  else if value.msb then (value >>> count) ||| (BitVec.allOnes 32 <<< (32 - count))
  else value >>> count

/-- A shift result with V and C. -/
structure ShiftResult where
  value : Dword
  v : Bool
  c : Bool
  deriving Repr, DecidableEq

/-- ASH on the sign-extended register; `count` is the low six bits of the operand. -/
def ashAlu (src16 : Word) (count : Nat) : ShiftResult :=
  let src : Dword := src16.signExtend 32
  if count = 0 then ⟨src, false, false⟩
  else if count ≤ 15 then
    let dst := src <<< count
    let spill := (src >>> (16 - count)) &&& 0o177777
    ⟨dst, spill != (if dst &&& 0o100000 ≠ 0 then 0o177777 else 0), spill &&& 1 != 0⟩
  else if count ≤ 31 then ⟨0, src != 0, (src <<< (count - 16)) &&& 1 != 0⟩
  else if count = 32 then ⟨if src16.msb then BitVec.allOnes 32 else 0, false, src16.msb⟩
  else ⟨arithRshift32 src (64 - count), false, (src >>> (63 - count)) &&& 1 != 0⟩

/-- ASHC; `sign` is the sign of the high register when the shift starts. -/
def ashcAlu (src : Dword) (sign : Bool) (count : Nat) : ShiftResult :=
  if count = 0 then ⟨src, false, false⟩
  else if count ≤ 31 then
    let dst := src <<< count
    let spill := (src >>> (32 - count)) ||| (if sign then BitVec.allOnes 32 <<< count else 0)
    ⟨dst, spill != (if dst.msb then BitVec.allOnes 32 else 0), spill &&& 1 != 0⟩
  else if count = 32 then ⟨if sign then BitVec.allOnes 32 else 0, false, sign⟩
  else ⟨arithRshift32 src (64 - count), false, (src >>> (63 - count)) &&& 1 != 0⟩

/-- The outcomes of DIV: the flags alone, or quotient and remainder. -/
inductive DivResult where
  | byZero
  | overflow (negative : Bool)
  | quotient (q r : Int)
  deriving Repr, DecidableEq

def divAlu (dividend divisor : Int) : DivResult :=
  if divisor = 0 then .byZero
  else if dividend = -0x80000000 ∧ divisor = -1 then .overflow false
  else
    let q := dividend.tdiv divisor
    if 0o77777 < q ∨ q < -0o100000 then .overflow (q < 0)
    else .quotient q (dividend - divisor * q)

/-! ## FIS number format -/

/-- `f11_to_float32`, on the IEEE bit pattern -/
def f11ToFloat32 (f11 : Dword) : Dword :=
  let sign := f11 &&& 0x80000000
  let exp11 := (f11 >>> 23) &&& 0xFF
  let frac := f11 &&& 0x7FFFFF
  if exp11 = 0 then sign
  else
    let exp32 : Int := exp11.toNat - 2
    if exp32 ≤ 0 then sign
    else if 255 ≤ exp32 then sign ||| ((255 : Dword) <<< 23)
    else sign ||| (BitVec.ofInt 32 exp32 <<< 23) ||| frac

/-- `float32_to_f11`: the pattern and the error code, 0 for none. -/
def float32ToF11 (f32 : Dword) : Dword × Word :=
  let sign := f32 &&& 0x80000000
  let exp32 := (f32 >>> 23) &&& 0xFF
  let frac := f32 &&& 0x7FFFFF
  if exp32 = 0 then (0, 0)
  else
    let exp11 : Int := exp32.toNat + 2
    if 256 ≤ exp11 then (sign ||| ((255 : Dword) <<< 23) ||| frac, 0o2)
    else if exp11 ≤ 0 then (0, 0o12)
    else (sign ||| (BitVec.ofInt 32 exp11 <<< 23) ||| frac, 0)

end K1801.Core
