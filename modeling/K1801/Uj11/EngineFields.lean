import K1801.Uj11.Microseq

/-! # What the engine takes from a word

The fields of `uj11_engine`, each with the commands that it looks at it in. A FETCH adds two to its register by the
fields of the datapath, and no other control word writes a register.
-/

namespace K1801.Uj11

open Core

namespace Uword

variable (w : Uword)

def fetching : Bool := w.control && w.command == 2

def reading : Bool := w.control && w.command == 11

def writing : Bool := w.control && w.command == 12

def memoryOp : Bool := w.fetching || w.reading || w.writing

def aSelect : BitVec 5 := w.extractLsb' 26 5

def bSelect : BitVec 5 := w.extractLsb' 21 5

def pair : BitVec 3 := w.extractLsb' 18 3

def destination : BitVec 3 := if w.control && !w.fetching then 0 else w.extractLsb' 15 3

def flags : BitVec 2 := if w.control then 0 else w.extractLsb' 13 2

def dInput : BitVec 3 := w.extractLsb' 10 3

/-- The D input of the service state. -/
def statusInput : Bool := w.dInput == 0 && w.getLsbD 7 && w.sequencing != 1

/-- The mark of a return from a trap, where an instruction can end. -/
def returnTrace : Bool := w.sequencing.getLsbD 1 && w.getLsbD 0 && w.dInput != 6

def serviceSpace : BitVec 2 := if w.reading || w.writing then w.extractLsb' 7 2 else 0

def service : BitVec 2 := if w.control && w.command == 0 then w.extractLsb' 1 2 else 0

def peripheralReset : Bool := w.control && w.command == 0 && w.getLsbD 0

def byteForced : Bool := w.control && w.getLsbD 6 && !w.fetching

def byteFromIr : Bool := w.control && w.getLsbD 3 && !w.fetching

/-- A fault goes on at the target first. -/
def faultContinues : Bool := w.memoryOp && w.getLsbD 2

def streaming : Bool := w.control && w.getLsbD 5

def paused : Bool := w.control && w.getLsbD 4

end Uword

/-- What a word of microcode has the engine do. -/
inductive Operation
  | alu (operation : BitVec 4) (a b : BitVec 5) (pair destination : BitVec 3) (flags : BitVec 2) (dInput : BitVec 3)
      (immediate : BitVec 8) (status : Bool) (sequencing : BitVec 2) (page : BitVec 8) (trace : Bool)
  | control (command : BitVec 4) (a b : BitVec 5) (pair destination dInput : BitVec 3) (target : BitVec 10)
      (condition : BitVec 3) (inverted byteForced byteFromIr : Bool) (space : BitVec 2)
      (stream faultContinues paused init : Bool) (service : BitVec 2)
  deriving Repr, DecidableEq

namespace Uword

variable (w : Uword)

/-- The fields of an ALU word. The low bits are an immediate or the rest of a page target. -/
def aluOperation : Operation :=
  .alu w.command w.aSelect w.bSelect w.pair w.destination w.flags w.dInput (if w.dInput = 6 then w.low else 0)
    w.statusInput w.sequencing (if w.sequencing = 1 then w.low else 0) w.returnTrace

/-- The fields of a control word. The target of a FETCH is not looked at, and the pair and the D input of no other word
are. -/
def controlOperation : Operation :=
  .control w.command w.aSelect w.bSelect (if w.fetching then w.pair else 0) w.destination
    (if w.fetching then w.dInput else 0) (if w.fetching then 0 else w.target)
    (if w.command = 1 then w.predicate else 0) (w.command == 1 && w.inverted) w.byteForced w.byteFromIr w.serviceSpace
    w.streaming w.faultContinues w.paused w.peripheralReset w.service

/-- What the engine and the sequencer do at a word. -/
def operation : Operation := if w.control then w.controlOperation else w.aluOperation

end Uword

end K1801.Uj11
