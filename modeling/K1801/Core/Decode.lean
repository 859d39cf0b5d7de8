import K1801.Core.Operand

/-! # Instruction decoding

`Instr.decode` follows the order of the tests in `core_step`. Operand specifiers are kept
as the low six bits of the word, or of the word shifted right by six.
-/

namespace K1801.Core

inductive Branch where
  | br | bne | beq | bge | blt | bgt | ble | bpl | bmi | bhi | blos | bvc | bvs | bcc | bcs
  deriving Repr, DecidableEq

/-- Single-operand instructions with a word and a byte form. -/
inductive SingleOp where
  | clr | com | inc | dec | neg | adc | sbc | tst | ror | rol | asr | asl
  deriving Repr, DecidableEq

/-- Double-operand instructions with a word and a byte form. -/
inductive DoubleOp where
  | mov | cmp | bit | bic | bis
  deriving Repr, DecidableEq

inductive Instr where
  | ccOp (set : Bool) (mask : Word)
  | halt | wait | rti | bpt | iot | reset | rtt | mfpt
  | spl (level : Word)
  | start | step | rsel | mfus | rcpc | rcps | mtus | wcpc | wcps
  | branch (b : Branch) (offset : Word)
  | emt | trap
  | rts (reg : BitVec 3)
  | mark (nn : Word)
  | sob (reg : BitVec 3) (nn : Word)
  | jmp (dst : Word)
  | single (s : SingleOp) (type : DataType) (dst : Word)
  | swab (dst : Word) | sxt (dst : Word) | mfps (dst : Word) | mtps (src : Word)
  | csm (src : Word) | tstset (dst : Word) | wrtlck (dst : Word)
  | mfpd (src : Word) | mfpi (src : Word) | mtpi (dst : Word) | mtpd (dst : Word)
  | jsr (reg : BitVec 3) (dst : Word)
  | mul (reg : BitVec 3) (src : Word) | div (reg : BitVec 3) (src : Word)
  | ash (reg : BitVec 3) (src : Word) | ashc (reg : BitVec 3) (src : Word)
  | xor (reg : BitVec 3) (dst : Word)
  | fis (f : FisOp) (reg : BitVec 3)
  | double (d : DoubleOp) (type : DataType) (src dst : Word)
  | add (src dst : Word) | sub (src dst : Word)
  | fp11 (op : Word)
  | illegal
  deriving Repr, DecidableEq

namespace Instr

/-- `switch (op)` -/
def decodeNoOperands (op : Word) : Option Instr :=
  match op.toNat with
  | 0o0 => some halt
  | 0o1 => some wait
  | 0o2 => some rti
  | 0o3 => some bpt
  | 0o4 => some iot
  | 0o5 => some reset
  | 0o6 => some rtt
  | 0o7 => some mfpt
  | _ => none

/-- `if (is_vm2(r)) switch (op)` -/
def decodeVm2 (vm2 : Bool) (op : Word) : Option Instr :=
  if !vm2 then none else
    match op.toNat with
    | 0o12 => some start
    | 0o16 => some step
    | 0o20 => some rsel
    | 0o21 => some mfus
    | 0o22 => some rcpc
    | 0o24 => some rcps
    | 0o31 => some mtus
    | 0o32 => some wcpc
    | 0o34 => some wcps
    | _ => none

/-- `switch (op & 0177400)` -/
def decodeBranch (op : Word) : Option Instr :=
  let branchTo (b : Branch) := some (branch b (op &&& 0o377))
  match (op >>> 8).toNat with
  | 0o1 => branchTo .br
  | 0o2 => branchTo .bne
  | 0o3 => branchTo .beq
  | 0o200 => branchTo .bpl
  | 0o201 => branchTo .bmi
  | 0o204 => branchTo .bvc
  | 0o205 => branchTo .bvs
  | 0o206 => branchTo .bcc
  | 0o207 => branchTo .bcs
  | 0o4 => branchTo .bge
  | 0o5 => branchTo .blt
  | 0o6 => branchTo .bgt
  | 0o7 => branchTo .ble
  | 0o202 => branchTo .bhi
  | 0o203 => branchTo .blos
  | 0o210 => some emt
  | 0o211 => some trap
  | _ => none

/-- `switch ((op & 0177700) >> 6)` -/
def decodeSingle (op : Word) : Option Instr :=
  let dd := op &&& 0o77
  match (op >>> 6).toNat with
  | 0o1 => some (jmp dd)
  | 0o50 => some (single .clr .word dd)
  | 0o1050 => some (single .clr .byte dd)
  | 0o51 => some (single .com .word dd)
  | 0o1051 => some (single .com .byte dd)
  | 0o52 => some (single .inc .word dd)
  | 0o1052 => some (single .inc .byte dd)
  | 0o53 => some (single .dec .word dd)
  | 0o1053 => some (single .dec .byte dd)
  | 0o54 => some (single .neg .word dd)
  | 0o1054 => some (single .neg .byte dd)
  | 0o57 => some (single .tst .word dd)
  | 0o1057 => some (single .tst .byte dd)
  | 0o62 => some (single .asr .word dd)
  | 0o1062 => some (single .asr .byte dd)
  | 0o63 => some (single .asl .word dd)
  | 0o1063 => some (single .asl .byte dd)
  | 0o60 => some (single .ror .word dd)
  | 0o1060 => some (single .ror .byte dd)
  | 0o61 => some (single .rol .word dd)
  | 0o1061 => some (single .rol .byte dd)
  | 0o55 => some (single .adc .word dd)
  | 0o1055 => some (single .adc .byte dd)
  | 0o56 => some (single .sbc .word dd)
  | 0o1056 => some (single .sbc .byte dd)
  | 0o3 => some (swab dd)
  | 0o67 => some (sxt dd)
  | 0o1067 => some (mfps dd)
  | 0o1064 => some (mtps dd)
  | 0o70 => some (csm dd)
  | 0o72 => some (tstset dd)
  | 0o73 => some (wrtlck dd)
  | 0o1065 => some (mfpd dd)
  | 0o65 => some (mfpi dd)
  | 0o66 => some (mtpi dd)
  | 0o1066 => some (mtpd dd)
  | _ => none

/-- `switch ((op & 0177000) >> 9)` -/
def decodeRegister (op : Word) : Option Instr :=
  let reg : BitVec 3 := (op >>> 6).setWidth 3
  let dd := op &&& 0o77
  match (op >>> 9).toNat with
  | 0o4 => some (jsr reg dd)
  | 0o70 => some (mul reg dd)
  | 0o71 => some (div reg dd)
  | 0o72 => some (ash reg dd)
  | 0o73 => some (ashc reg dd)
  | 0o74 => some (xor reg dd)
  | 0o75 =>
    if op &&& 0o177740 = 0o75000 then
      let f : FisOp := match ((op >>> 3) &&& 3).toNat with
        | 0 => .fadd
        | 1 => .fsub
        | 2 => .fmul
        | _ => .fdiv
      some (fis f (op.setWidth 3))
    else none
  | _ => none

/-- `switch ((op & 0170000) >> 12)` -/
def decodeDouble (op : Word) : Option Instr :=
  let ss := (op >>> 6) &&& 0o77
  let dd := op &&& 0o77
  match (op >>> 12).toNat with
  | 0o1 => some (double .mov .word ss dd)
  | 0o11 => some (double .mov .byte ss dd)
  | 0o2 => some (double .cmp .word ss dd)
  | 0o12 => some (double .cmp .byte ss dd)
  | 0o6 => some (add ss dd)
  | 0o16 => some (sub ss dd)
  | 0o3 => some (double .bit .word ss dd)
  | 0o13 => some (double .bit .byte ss dd)
  | 0o4 => some (double .bic .word ss dd)
  | 0o14 => some (double .bic .byte ss dd)
  | 0o5 => some (double .bis .word ss dd)
  | 0o15 => some (double .bis .byte ss dd)
  | 0o17 => some (fp11 op)
  | _ => none

def decode (vm2 : Bool) (op : Word) : Instr :=
  if op &&& 0o177740 = 0o240 then ccOp (op &&& 0o20 ≠ 0) (op &&& 0o17)
  else
    (decodeNoOperands op <|>
      (if op &&& 0o177770 = 0o230 then some (spl (op &&& 0o7)) else none) <|>
      decodeVm2 vm2 op <|>
      decodeBranch op <|>
      (if op &&& 0o177770 = 0o200 then some (rts (op.setWidth 3)) else none) <|>
      (if op &&& 0o177700 = 0o6400 then some (mark (op &&& 0o77)) else none) <|>
      (if op &&& 0o177000 = 0o77000 then some (sob ((op >>> 6).setWidth 3) (op &&& 0o77)) else none) <|>
      decodeSingle op <|>
      decodeRegister op <|>
      decodeDouble op).getD illegal

example : decode false 0o12702 = double .mov .word 0o27 0o2 := by decide

end Instr

end K1801.Core
