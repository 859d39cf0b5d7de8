import K1801.Core.State

/-! # The sequencer of the uJ11

`uj11_microseq`: the address of the next word of microcode, and the link of a call. All updates wait for the same
enable as the microstore.
-/

namespace K1801.Uj11

open Core

/-- A word of microcode. -/
abbrev Uword := BitVec 36

/-- The inputs of a clock of the sequencer beside the word. -/
structure MicroseqIn where
  reset : Bool
  enable : Bool
  ir : Word
  nzvc : BitVec 4
  dispatchAddress : BitVec 10
  faultTarget : BitVec 10
  stepReturn : Bool
  debugPending : Bool
  waitReturn : Bool
  addressOdd : Bool
  byteInstruction : Bool
  selectedA : BitVec 4
  q0 : Bool
  loopZero : Bool
  busError : Bool
  aOne : Bool
  irqPending : Bool
  tracePending : Bool
  faultRedirect : Bool
  faultRepair : Bool
  deriving Repr, DecidableEq

/-- The state of `uj11_microseq`. -/
structure Microseq where
  upc : BitVec 10
  link : BitVec 10
  linkValid : Bool
  deriving Repr, DecidableEq

namespace Uword

variable (w : Uword)

def control : Bool := w.getLsbD 35

def command : BitVec 4 := w.extractLsb' 31 4

def target : BitVec 10 := w.extractLsb' 11 10

/-- The predicate of a conditional jump. -/
def predicate : BitVec 3 := w.extractLsb' 7 3

def inverted : Bool := w.getLsbD 10

def sequencing : BitVec 2 := w.extractLsb' 8 2

def low : BitVec 8 := w.extractLsb' 0 8

end Uword

namespace Microseq

def fetchWord : BitVec 10 := 0x020

def irqWord : BitVec 10 := 0x013

def stop : BitVec 10 := 0x3ff

variable (w : Uword) (i : MicroseqIn) (s : Microseq)

/-- Where an instruction that ends goes on. -/
def fetchAddress : BitVec 10 :=
  if i.debugPending then 0x0c1 else if i.tracePending then 0x024 else if i.irqPending then irqWord else fetchWord

def sequential : BitVec 10 := s.upc + 1

def predicates : BitVec 8 :=
  BitVec.ofBool i.busError ++ BitVec.ofBool i.loopZero ++ BitVec.ofBool i.q0 ++ i.nzvc ++ BitVec.ofBool true

def condition : Bool := (predicates i).getLsbD w.predicate.toNat ^^ w.inverted

/-- The bits that an OR-dispatch adds to its target. -/
def dispatchBits : BitVec 3 :=
  match w.command.toNat with
  | 5 => i.ir.extractLsb' 9 3
  | 6 => i.ir.extractLsb' 3 3
  | 7 => BitVec.ofBool false ++ BitVec.ofBool (i.ir.extractLsb' 3 3 == 0) ++ BitVec.ofBool (i.ir.extractLsb' 9 3 == 0)
  | 8 => BitVec.ofBool false ++ BitVec.ofBool i.addressOdd ++ BitVec.ofBool i.byteInstruction
  | 9 => (0 : BitVec 2) ++ BitVec.ofBool !(i.selectedA.getLsbD 2 && i.selectedA.getLsbD 1)
  | _ => 0

/-- The common target of jumps, dispatches and memory operations. -/
def dispatched : BitVec 10 := w.target.extractLsb' 3 7 ++ (w.target.extractLsb' 0 3 ||| dispatchBits w i)

def controlAddress : BitVec 10 :=
  match w.command.toNat with
  | 1 => if condition w i then dispatched w i else s.sequential
  | 10 => if s.linkValid then stop else dispatched w i
  | 3 => if s.linkValid then s.link else stop
  | 2 | 4 => i.dispatchAddress
  | 13 => s.upc
  | 14 => if i.debugPending || i.tracePending || i.irqPending then fetchAddress i else s.upc
  | _ => dispatched w i

def aluAddress : BitVec 10 :=
  match w.sequencing.toNat with
  | 0 => s.sequential
  | 1 => s.upc.extractLsb' 8 2 ++ w.low
  | 2 => fetchAddress i
  | _ => if i.aOne then fetchAddress i else s.sequential

def nextAddress : BitVec 10 :=
  if i.reset then 0
  else if i.faultRepair then i.faultTarget
  else if i.faultRedirect then (if w.getLsbD 2 then w.target else i.faultTarget)
  else if i.waitReturn then 0x012
  else if i.stepReturn then fetchWord
  else if w.control then controlAddress w i s
  else aluAddress w i s

/-- The state after a clock. -/
def step : Microseq :=
  if i.reset then { upc := 0, link := 0, linkValid := false }
  else if i.enable then
    if i.faultRedirect then { s with upc := nextAddress w i s, linkValid := false }
    else if w.control ∧ w.command = 10 ∧ s.linkValid = false then
      { upc := nextAddress w i s, link := s.sequential, linkValid := true }
    else if w.control ∧ w.command = 3 then { s with upc := nextAddress w i s, linkValid := false }
    else { s with upc := nextAddress w i s }
  else s

end Microseq

end K1801.Uj11
