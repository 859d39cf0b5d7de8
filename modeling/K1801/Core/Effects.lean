import K1801.Library.Effects
import K1801.Core.Traps

/-! # What memory accesses and trap entries can do

Loads, stores and trap entries call each other, and they use only a small part of the
operations. `Env.Within` says this of the two trap entries an environment provides; the rules
below extend it to every routine of the memory and trap modules.
-/

namespace K1801.Core

open Library

variable {β : Type}

/-- The operations of memory accesses and of trap entries. -/
@[grind] def Micro.inTrap : Micro → Bool
  | setAbort v => v
  | setR i _ => i = 6 || i = 7
  | setCpuerr _ | stackReference _ | noteAccess _ _ | translate _ _ _ _ _
  | translateModeSpace _ _ _ _ _ | regStoreByte _ _ _ | regStoreWord _ _ _
  | internalRegWrite _ _ _ | pdrWritten _ _ | recordFault _ _ _ | enterVector _ _ _
  | vectorPush _ _ | vectorPushed | redStackRestore _ _ | emergencyStack => true
  | _ => false

namespace Env

structure Within (S : Micro → Prop) (F : Option Stuck → Regs → Prop) (e : Env β) : Prop where
  trapOps : ∀ op : Micro, op.inTrap = true → S op
  busErrorTrap : e.busErrorTrap.Within S F
  mmuFaultTrap : ∀ va pc fault apr, (e.mmuFaultTrap va pc fault apr).Within S F

namespace Within

variable {S : Micro → Prop} {F : Option Stuck → Regs → Prop} {e : Env β} {α : Type}

attribute [grind →] busErrorTrap
attribute [grind ←] mmuFaultTrap

/-! ## Memory -/

@[grind ←] theorem regs : (Core.regs : M β Regs).Within S F := .read _

@[grind ←] theorem aborted : (Core.aborted : M β Bool).Within S F := .read _

@[grind ←] theorem getR (i : BitVec 3) : (Core.getR i : M β Word).Within S F := .read _

theorem perform (he : e.Within S F) {op : Micro} (hop : op.inTrap = true) :
    (Core.perform op : M β Unit).Within S F :=
  .perform (he.trapOps op hop)

grind_pattern perform => e.Within S F, (Core.perform op : M β Unit).Within S F

theorem setR (he : e.Within S F) {i : BitVec 3} {v : Word} (hop : (Micro.setR i v).inTrap = true) :
    (Core.setR i v : M β Unit).Within S F :=
  .perform (he.trapOps _ hop)

grind_pattern setR => e.Within S F, (Core.setR i v : M β Unit).Within S F

@[grind ←] theorem nxmTrap (he : e.Within S F) (bits : Word) : (e.nxmTrap bits).Within S F := by
  unfold Env.nxmTrap
  grind

@[grind ←] theorem callback (he : e.Within S F) (f : Regs → β → Reply β α) :
    (e.callback f).Within S F := by
  unfold Env.callback
  grind

@[grind ←] theorem rawLoadBytePhys (he : e.Within S F) (pa : Dword) :
    (e.rawLoadBytePhys pa).Within S F := by
  unfold Env.rawLoadBytePhys Env.rawLoadByte
  grind

@[grind ←] theorem rawStoreBytePhys (he : e.Within S F) (pa : Dword) (v : Byte) :
    (e.rawStoreBytePhys pa v).Within S F := by
  unfold Env.rawStoreBytePhys Env.rawStoreByte
  grind

@[grind ←] theorem rawLoadWordPhys (he : e.Within S F) (pa : Dword) :
    (e.rawLoadWordPhys pa).Within S F := by
  unfold Env.rawLoadWordPhys Env.rawLoadWord
  grind

@[grind ←] theorem rawStoreWordPhys (he : e.Within S F) (pa : Dword) (v : Word) :
    (e.rawStoreWordPhys pa v).Within S F := by
  unfold Env.rawStoreWordPhys Env.rawStoreWord
  grind

@[grind ←] theorem ramByte (i : Nat) : (e.ramByte i).Within S F := .read _

@[grind ←] theorem setRamByte (i : Nat) (v : Byte) : (e.setRamByte i v).Within S F := .onBus _

@[grind ←] theorem ramWord (i : Nat) : (e.ramWord i).Within S F := by
  unfold Env.ramWord
  grind

@[grind ←] theorem setRamWord (i : Nat) (v : Word) : (e.setRamWord i v).Within S F := by
  unfold Env.setRamWord
  grind

@[grind ←] theorem addressError (he : e.Within S F) : e.addressError.Within S F := by
  unfold Env.addressError
  grind

@[grind ←] theorem mmuFault (he : e.Within S F) (va : Word) (f : MmuFault) (apr : Apr) :
    (e.mmuFault va f apr).Within S F := by
  unfold Env.mmuFault
  grind

@[grind ←] theorem translated (he : e.Within S F) {va : Word} {apr : Regs → Apr}
    {tr : Regs → Except MmuFault Dword × Regs} {status : Micro} (hstatus : status.inTrap = true)
    {refused : α} {k : Dword → M β α} (hk : ∀ pa, (k pa).Within S F) :
    (e.translated va apr tr status refused k).Within S F := by
  unfold Env.translated
  grind

@[grind ←] theorem loadWordAt (he : e.Within S F) (isIfetch : Bool) (pa : Dword) :
    (e.loadWordAt isIfetch pa).Within S F := by
  unfold Env.loadWordAt
  grind

@[grind ←] theorem coreLoadByteEx (he : e.Within S F) (offset : Word) (isIfetch fk : Bool) :
    (e.coreLoadByteEx offset isIfetch fk).Within S F := by
  unfold Env.coreLoadByteEx
  grind

@[grind ←] theorem coreStoreByteEx (he : e.Within S F) (offset : Word) (v : Byte) (fk : Bool) :
    (e.coreStoreByteEx offset v fk).Within S F := by
  unfold Env.coreStoreByteEx
  grind

@[grind ←] theorem coreLoadWordEx (he : e.Within S F) (offset : Word) (isIfetch fk : Bool) :
    (e.coreLoadWordEx offset isIfetch fk).Within S F := by
  unfold Env.coreLoadWordEx
  grind

@[grind ←] theorem coreStoreWordEx (he : e.Within S F) (offset v : Word) (fk : Bool) :
    (e.coreStoreWordEx offset v fk).Within S F := by
  unfold Env.coreStoreWordEx
  grind

@[grind ←] theorem coreLoadWordModeSpace (he : e.Within S F) (offset : Word) (mode : BitVec 2)
    (ds : Bool) : (e.coreLoadWordModeSpace offset mode ds).Within S F := by
  unfold Env.coreLoadWordModeSpace
  grind

@[grind ←] theorem coreStoreWordModeSpace (he : e.Within S F) (offset v : Word) (mode : BitVec 2)
    (ds : Bool) : (e.coreStoreWordModeSpace offset v mode ds).Within S F := by
  unfold Env.coreStoreWordModeSpace
  grind

@[grind ←] theorem coreLoadByte (he : e.Within S F) (offset : Word) :
    (e.coreLoadByte offset).Within S F :=
  he.coreLoadByteEx ..

@[grind ←] theorem coreStoreByte (he : e.Within S F) (offset : Word) (v : Byte) :
    (e.coreStoreByte offset v).Within S F :=
  he.coreStoreByteEx ..

@[grind ←] theorem coreLoadWord (he : e.Within S F) (offset : Word) :
    (e.coreLoadWord offset).Within S F :=
  he.coreLoadWordEx ..

@[grind ←] theorem coreLoadWordIfetch (he : e.Within S F) (offset : Word) :
    (e.coreLoadWordIfetch offset).Within S F :=
  he.coreLoadWordEx ..

@[grind ←] theorem coreStoreWord (he : e.Within S F) (offset v : Word) :
    (e.coreStoreWord offset v).Within S F :=
  he.coreStoreWordEx ..

@[grind ←] theorem coreLoadWordVector (he : e.Within S F) (offset : Word) :
    (e.coreLoadWordVector offset).Within S F := by
  unfold Env.coreLoadWordVector
  grind

/-! ## Trap entry -/

@[grind ←] theorem pushw (he : e.Within S F) (v : Word) : (e.pushw v).Within S F := by
  unfold Env.pushw
  grind

@[grind ←] theorem pullw (he : e.Within S F) : e.pullw.Within S F := by
  unfold Env.pullw
  grind

@[grind ←] theorem coreTakeVector (he : e.Within S F) (vec pc psw : Word) :
    (e.coreTakeVector vec pc psw).Within S F := by
  unfold Env.coreTakeVector
  refine .bind (he.coreLoadWordVector _) fun fetchedPsw => .bind (.read _) fun _ => .ite (.pure _) ?_
  refine .bind (he.coreLoadWordVector _) fun newPc => .bind (.read _) fun _ => .ite (.pure _) ?_
  refine .bind (he.perform rfl) fun _ => .bind (he.perform rfl) fun _ => ?_
  grind

@[grind ←] theorem takeVectorHere (he : e.Within S F) (vec : Word) :
    (e.takeVectorHere vec).Within S F := by
  unfold Env.takeVectorHere
  grind

@[grind ←] theorem dcj11TakeRedStackAbort (he : e.Within S F) :
    e.dcj11TakeRedStackAbort.Within S F := by
  unfold Env.dcj11TakeRedStackAbort
  refine .bind (.read _) fun r => .ite (.pure _) <| .bind (he.perform rfl) fun _ => ?_
  refine .bind (he.rawLoadWordPhys _) fun vectorPsw => .bind (.read _) fun _ => .ite (.pure _) ?_
  refine .bind (he.perform rfl) fun _ => .bind (he.perform rfl) fun _ => ?_
  refine .bind (.read _) fun _ => .bind (he.setR rfl) fun _ => ?_
  refine .bind (.read _) fun _ => .bind (he.rawStoreWordPhys _ _) fun _ => ?_
  refine .bind (.read _) fun _ => .ite (.pure _) <| .bind (.read _) fun _ => ?_
  refine .bind (he.setR rfl) fun _ => .bind (.read _) fun _ => ?_
  refine .bind (he.rawStoreWordPhys _ _) fun _ => .bind (.read _) fun _ => .ite (.pure _) ?_
  grind

@[grind ←] theorem busError (he : e.Within S F) : e.busError.Within S F := by
  unfold Env.busError
  grind

@[grind ←] theorem mmuAbort (he : e.Within S F) (va pc : Word) (f : MmuFault) (apr : Apr) :
    (e.mmuAbort va pc f apr).Within S F := by
  unfold Env.mmuAbort
  grind

@[grind ←] theorem dcj11ServiceStackTrap (he : e.Within S F) (hS : ∀ active, S (.stackTrap active)) :
    e.dcj11ServiceStackTrap.Within S F := by
  unfold Env.dcj11ServiceStackTrap
  refine .bind (.read _) fun r => .ite (.pure _) <| .ite (.pure _) ?_
  exact .bind (.perform (hS _)) fun _ => .bind (he.coreTakeVector _ _ _) fun _ =>
    .bind (.perform (hS _)) fun _ => .pure _

/-! ## Interrupts -/

@[grind ←] theorem corePollIrqAny : e.corePollIrqAny.Within S F := by
  unfold Env.corePollIrqAny
  grind

@[grind ←] theorem serviceIrq (he : e.Within S F) : e.serviceIrq.Within S F := by
  unfold Env.serviceIrq
  grind

@[grind ←] theorem irqLoop (he : e.Within S F) (hF : Program.Allows F (some .polling)) (k : Nat) :
    (e.irqLoop k).Within S F := by
  induction k with
  | zero => exact .fail hF
  | succ k ih =>
    unfold Env.irqLoop
    grind

/-- Nesting is the only resource that memory accesses and trap entries use up. -/
theorem nested (h : Host β) (hS : ∀ op : Micro, op.inTrap = true → S op) (hF : Program.Allows F (some .nesting)) (n : Nat) :
    (Env.nested h n).Within S F := by
  induction n with
  | zero => exact ⟨hS, .fail hF, fun _ _ _ _ => .fail hF⟩
  | succ n ih => exact ⟨hS, ih.busError, ih.mmuAbort⟩

end Within
end Env
end K1801.Core
