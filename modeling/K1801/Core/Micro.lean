import K1801.Library.Program
import K1801.Core.Mmu

/-! # Micro-operations

The core reads and writes `struct _regs` in many places, but each write is one of a few
kinds. `Micro` lists them, `Micro.apply` is what each one does, and `Micro.enabled` is the
condition its place in the source is under. Every routine of the core is a program over
them, and the log of a step lists the operations it performed.
-/

namespace K1801.Core

open Library

inductive Micro where
  /-- A word was taken from the instruction stream. -/
  | ifetch (va : Word)
  | setR (i : BitVec 3) (v : Word)
  | setCc (n z v c : Option Bool)
  | fpu (f : Fpu → Fpu)
  | setTrap (v : Bool)
  | setWait (v : Bool)
  | setAbort (v : Bool)
  | setHaltSignal (v : Bool)
  | setDeferHalt (v : Bool)
  -- one step
  | stepBegin
  | fetchBegin (b : Build)
  | setIr (op : Word)
  | tveTick
  | saveCopies
  -- memory
  | setCpuerr (bits : Word)
  | stackReference (addr : Word)
  | noteAccess (apr : Apr) (isWrite : Bool)
  | translate (b : Build) (va : Word) (isWrite isIfetch forceKernelD : Bool)
  | translateModeSpace (b : Build) (va : Word) (isWrite : Bool) (mode : BitVec 2) (dataSpace : Bool)
  | regStoreByte (b : Build) (offset : Word) (value : Byte)
  | regStoreWord (b : Build) (offset value : Word)
  | internalRegWrite (b : Build) (va : Word) (forceKernelD : Bool)
  | pdrWritten (b : Build) (apr : Apr)
  | recordDelta (b : Build) (reg : BitVec 3) (delta : Word)
  | recordFault (b : Build) (fault : MmuFault) (apr : Apr)
  -- traps and interrupts
  | enterVector (vec oldPsw fetchedPsw : Word)
  | vectorPush (oldPc oldPsw : Word)
  | vectorPushed
  | redStackRestore (oldPc oldPsw : Word)
  | emergencyStack
  | stackTrap (active : Bool)
  | haltPsw (psw : Word)
  | dcj11Halt
  | fisPsw (psw : Word)
  | fisErrorPsw (psw : Word)
  -- instructions
  | returnPsw (popped : Word)
  | mtps (value : Byte)
  | spl (level : Word)
  | csmEnter (oldSp : Word)
  /-- `dcj11_read_mode_reg` and `dcj11_write_mode_reg`, for the previous mode of `psw_before`. -/
  | readPrevModeReg (reg : BitVec 3)
  | writePrevModeReg (reg : BitVec 3) (value : Word)
  | loadCopies
  | clearH
  | restorePsw (psw : Word)
  | setCpc (v : Word)
  | setCps (v : Word)
  | resetState (b : Build)
  | hostReset (j11Maint j11Hitmiss sel0 : Word)

namespace Regs

def tveCountDown (r : Regs) : Regs :=
  if r.tveCount ≠ 0 then { r with tveCount := r.tveCount - 1 } else r

/-- The timer expired with its interrupt enabled: pending, or overrun when it already was. -/
def tveRaise (r : Regs) : Regs :=
  if r.tveCsr &&& 0o4 = 0 then r
  else if r.tvePending then { r with tveCsr := r.tveCsr ||| 0o200 }
  else { r with tvePending := true }

/-- Without the wrap bit the count starts over; one-shot mode stops the timer. -/
def tveReload (r : Regs) : Regs :=
  if r.tveCsr &&& 0o2 ≠ 0 then r
  else
    { r with
      tveCsr := if r.tveCsr &&& 0o10 ≠ 0 then r.tveCsr &&& ~~~(0o20 : Word) else r.tveCsr
      tveCount := if r.tveLimit = 0 then 0o177777 else r.tveLimit }

/-- One tick of the 1801VM1 timer at the end of an instruction. -/
def tveTick (r : Regs) : Regs :=
  if r.model ≠ .k1801vm1 ∨ r.tveCsr &&& 0o20 = 0 then r
  else if r.tveCountDown.tveCount ≠ 0 then r.tveCountDown
  else r.tveCountDown.tveRaise.tveReload

end Regs

namespace Micro

def enabled : Micro → Regs → Bool
  | spl _, r => dcj11KernelPsw r.pswBefore
  | resetState _, r => r.model != .dcj11 || dcj11KernelPsw r.pswBefore
  | loadCopies, r | clearH, r | restorePsw _, r | setCpc _, r | setCps _, r | fisPsw _, r =>
    r.model.isVm2
  | haltPsw _, r => r.model != .dcj11
  | _, _ => true

def apply : Micro → Regs → Regs
  | ifetch _, r => r
  | setR i v, r => { r with r := Function.update r.r i v }
  | setCc n z v c, r => r.setCc n z v c
  | fpu f, r => { r with fpu := f r.fpu }
  | setTrap v, r => { r with fTrap := v }
  | setWait v, r => { r with fWait := v }
  | setAbort v, r => { r with fAbort := v }
  | setHaltSignal v, r => { r with fHaltSignal := v }
  | setDeferHalt v, r => { r with fStepDeferHalt := v }
  | stepBegin, r => { r with pswBefore := r.psw, fTrap := false, dcj11ExplicitPswWrite := false }
  | fetchBegin b, r => { r with instrPc := r.r 7 }.mmuMmr1InstructionStart b
  | setIr op, r => { r with ir := op }
  | tveTick, r => r.tveTick
  | saveCopies, r => { r with cps := r.psw, cpc := r.r 7 }
  | setCpuerr bits, r => r.dcj11SetCpuerr bits
  | stackReference addr, r => r.dcj11NoteStackReference addr
  | noteAccess apr isWrite, r => r.mmuNoteAccess apr isWrite
  | translate b va isWrite isIfetch forceKernelD, r =>
    (translateVaEx b r va isWrite isIfetch forceKernelD).2
  | translateModeSpace b va isWrite mode dataSpace, r =>
    (translateVaModeSpace b r va isWrite mode dataSpace).2
  | regStoreByte b offset value, r => (regBlockStoreByte b r offset value).getD r
  | regStoreWord b offset value, r => (regBlockStoreWord b r offset value).getD r
  | internalRegWrite b va forceKernelD, r => r.mmuNoteInternalRegWrite b va forceKernelD
  | pdrWritten b apr, r => if r.model = .dcj11 then r.mmuNoteWritePdrw b apr else r
  | recordDelta b reg delta, r => r.mmuMmr1RecordDelta b reg delta
  | recordFault b fault apr, r => r.mmuRecordFault b fault apr
  | enterVector _ oldPsw fetchedPsw, r => r.dcj11SetPsw (trapPsw r oldPsw fetchedPsw)
  | vectorPush oldPc oldPsw, r =>
    if r.model = .dcj11 then
      { r with
        dcj11VectorOldPc := oldPc, dcj11VectorOldPsw := oldPsw, dcj11VectorPushActive := true }
    else r
  | vectorPushed, r => { r with dcj11VectorPushActive := false }
  | redStackRestore oldPc oldPsw, r => r.redStackRestore oldPc oldPsw
  | emergencyStack, r => r.emergencyStack
  | stackTrap active, r =>
    { r with
      dcj11StackTrapActive := active
      dcj11YellowPending := if active then false else r.dcj11YellowPending }
  | haltPsw psw, r | fisPsw psw, r | fisErrorPsw psw, r | restorePsw psw, r => { r with psw := psw }
  | dcj11Halt, r => r.dcj11SetPsw 0o340
  | returnPsw popped, r => r.dcj11SetPsw (Core.returnPsw r popped)
  | mtps value, r => { r with psw := mtpsPsw r value }
  | spl level, r => { r with psw := (r.psw &&& ~~~(0o340 : Word)) ||| (level <<< 5) }
  | csmEnter oldSp, r => r.csmEnter oldSp
  | readPrevModeReg reg, r => (r.dcj11ReadModeReg (dcj11PswPrevModeMxpi r.pswBefore) reg).2
  | writePrevModeReg reg value, r =>
    r.dcj11WriteModeReg (dcj11PswPrevModeMxpi r.pswBefore) reg value
  | loadCopies, r => { r with r := Function.update r.r 7 r.cpc, psw := r.cps }
  | clearH, r => { r with psw := r.psw &&& ~~~flagH }
  | setCpc v, r => { r with cpc := v }
  | setCps v, r => { r with cps := v }
  | resetState b, r => { r.dcj11ResetInstructionState b with fWait := false, fHaltSignal := false }
  | hostReset j11Maint j11Hitmiss sel0, r =>
    { r with j11Maint := j11Maint, j11Hitmiss := j11Hitmiss, sel0 := sel0 }

end Micro

/-- The micro-operations as the operations of a machine. -/
abbrev micro : Operations Regs Micro := ⟨Micro.enabled, Micro.apply⟩

abbrev Machine (β : Type) := Traced Regs β Micro

abbrev M (β α : Type) := Program micro β Stuck α

/-- The host together with the two trap entries its callbacks and the memory
    routines re-enter the core through. -/
structure Env (β : Type) where
  host : Host β
  busErrorTrap : M β Unit
  mmuFaultTrap : Word → Word → MmuFault → Apr → M β Unit

variable {β : Type}

def perform (op : Micro) : M β Unit := Program.perform op

def regs : M β Regs := Program.read (·.core)

def aborted : M β Bool := Program.read (·.core.fAbort)

def getR (i : BitVec 3) : M β Word := Program.read (·.core.r i)

def setR (i : BitVec 3) (v : Word) : M β Unit := perform (.setR i v)

end K1801.Core
