import K1801.Core.Traps

/-! # Operand decoding

The eight addressing modes, and the accesses through a decoded operand. An aborted
decode or access leaves `core_step` at once, except in the few instructions that test
the abort flag themselves.
-/

namespace K1801.Core

open Library

variable {β : Type}

/-- `TYPE_REG`, `TYPE_MEM` and `TYPE_IFETCH`; `TYPE_ERROR` is the absence of an operand. -/
inductive OperandType where
  | reg | mem | ifetch
  deriving Repr, DecidableEq

/-- `TYPE_WORD` and `TYPE_BYTE` -/
inductive DataType where
  | word | byte
  deriving Repr, DecidableEq

structure Operand where
  type : OperandType
  offset : Word
  deriving Repr, DecidableEq

/-- Autoincrement by one only for byte operands in modes 0, 1, 2 and 4 on R0..R5. -/
def operandStep (reg mode : BitVec 3) (dataType : DataType) : Word :=
  if dataType = .byte ∧ reg ≠ 6 ∧ reg ≠ 7 ∧ mode ≠ 3 ∧ mode ≠ 5 ∧ mode ≠ 6 ∧ mode ≠ 7 then 1 else 2

namespace Env

def recordDelta (e : Env β) (reg : BitVec 3) (delta : Word) : M β Unit :=
  perform (.recordDelta e.host.build reg delta)

/-- `(Rn)+`: the old register value, the register stepped and logged. -/
def autoincrement (e : Env β) (reg : BitVec 3) (step : Word) : M β Word := do
  let v ← getR reg
  Program.when (reg = 7) (perform (.ifetch v))
  setR reg (v + step)
  e.recordDelta reg step
  pure v

/-- `-(Rn)`, with the stack limit check on SP. -/
def autodecrement (e : Env β) (reg : BitVec 3) (step : Word) : M β Word := do
  let v := (← getR reg) - step
  setR reg v
  e.recordDelta reg (-step)
  Program.when (reg = 6) (perform (.stackReference v))
  pure v

/-- The index word at the PC; `none` when its fetch aborted. -/
def indexWord (e : Env β) : M β (Option Word) := do
  let pc ← getR 7
  let tmp ← e.coreLoadWordIfetch pc
  if ← aborted then return none
  perform (.ifetch pc)
  setR 7 ((← getR 7) + 2)
  e.recordDelta 7 2
  return some tmp

/-- A pointer read through memory; `none` when the read aborted. -/
def pointer (load : M β Word) : M β (Option Operand) := do
  let offset ← load
  if ← aborted then return none
  return some ⟨.mem, offset⟩

def decodeData (e : Env β) (data : Word) (dataType : DataType) : M β (Option Operand) := do
  let reg : BitVec 3 := data.setWidth 3
  let mode : BitVec 3 := (data >>> 3).setWidth 3
  let step := operandStep reg mode dataType
  if ← aborted then return none
  match mode with
  | 0 => return some ⟨.reg, reg.setWidth 16⟩
  | 1 => return some ⟨.mem, ← getR reg⟩
  | 2 => do
    let offset ← e.autoincrement reg step
    return some ⟨if reg = 7 then .ifetch else .mem, offset⟩
  | 3 => do
    let offset ← e.autoincrement reg step
    pointer (if reg = 7 then e.coreLoadWordIfetch offset else e.coreLoadWord offset)
  | 4 => return some ⟨.mem, ← e.autodecrement reg step⟩
  | 5 => do
    let offset ← e.autodecrement reg step
    pointer (e.coreLoadWord offset)
  | 6 => do
    match ← e.indexWord with
    | none => return none
    | some tmp => return some ⟨.mem, (← getR reg) + tmp⟩
  | 7 => do
    match ← e.indexWord with
    | none => return none
    | some tmp => pointer (e.coreLoadWord ((← getR reg) + tmp))

def regOf (o : Operand) : BitVec 3 := o.offset.setWidth 3

def getDataByte (e : Env β) (o : Operand) : M β Byte := do
  match o.type with
  | .reg => return (← getR (regOf o)).setWidth 8
  | .ifetch => e.coreLoadByteEx o.offset true false
  | .mem => e.coreLoadByte o.offset

def putDataByte (e : Env β) (o : Operand) (value : Byte) : M β Unit := do
  match o.type with
  | .reg => setR (regOf o) (((← getR (regOf o)) &&& 0o177400) ||| value.setWidth 16)
  | _ => e.coreStoreByte o.offset value

/-- MOVB and MFPS sign-extend into a register. -/
def putDataByteMovb (e : Env β) (o : Operand) (value : Byte) : M β Unit := do
  match o.type with
  | .reg => setR (regOf o) (value.signExtend 16)
  | _ => e.coreStoreByte o.offset value

def getDataWord (e : Env β) (o : Operand) : M β Word := do
  match o.type with
  | .reg => getR (regOf o)
  | .ifetch => e.coreLoadWordIfetch o.offset
  | .mem => e.coreLoadWord o.offset

def putDataWord (e : Env β) (o : Operand) (value : Word) : M β Unit := do
  match o.type with
  | .reg => setR (regOf o) value
  | _ => e.coreStoreWord o.offset value

/-- `if (r->fAbort) return 0;` -/
def leaveIfAborted : M β Unit := do
  if ← aborted then Program.leave
  else pure ()

/-! The access macros of `core_step`: each leaves the step when it aborts. -/

/-- `DECODE_DST`, `DECODE_DSTB`, `DECODE_SRC` and `DECODE_SRCB` -/
def operand (e : Env β) (data : Word) (dataType : DataType) : M β Operand := do
  match ← e.decodeData data dataType with
  | some o => pure o
  | none => Program.leave

/-- `GET_WORD` and `GET_SWORD` -/
def getWord (e : Env β) (o : Operand) : M β Word := do
  let v ← e.getDataWord o
  leaveIfAborted
  pure v

/-- `GET_BYTE` and `GET_SBYTE` -/
def getByte (e : Env β) (o : Operand) : M β Byte := do
  let v ← e.getDataByte o
  leaveIfAborted
  pure v

/-- `PUT_WORD` -/
def putWord (e : Env β) (o : Operand) (v : Word) : M β Unit := do
  e.putDataWord o v
  leaveIfAborted

/-- `PUT_BYTE` -/
def putByte (e : Env β) (o : Operand) (v : Byte) : M β Unit := do
  e.putDataByte o v
  leaveIfAborted

/-- `PUT_BYTE_MOVB` -/
def putByteMovb (e : Env β) (o : Operand) (v : Byte) : M β Unit := do
  e.putDataByteMovb o v
  leaveIfAborted

end Env

end K1801.Core
