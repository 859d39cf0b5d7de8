import Mathlib.Data.List.Basic
import K1801.Core.Effects
import K1801.Core.Execute

/-! # What an instruction can do

The operations of the instruction bodies, as far as they are alike. HALT, RESET, RTI and RTT are
the exceptions: only they enter the halt state, reset the board and return from a trap.
-/

namespace K1801.Core

open Library

variable {β : Type}

/-- The operations of all instructions but HALT, RESET, RTI and RTT. -/
@[grind] def Micro.inInstr : Micro → Bool
  | setAbort v => v
  | stepBegin | fetchBegin _ | setIr _ | tveTick | stackTrap _ | setHaltSignal _ | haltPsw _
  | dcj11Halt | returnPsw _ | resetState _ | hostReset _ _ _ => false
  | _ => true

/-- The instructions whose operations are those of `Micro.inInstr`. -/
def Instr.plainOps : Instr → Bool
  | .halt | .reset | .rti | .rtt => false
  | _ => true

namespace Env

structure WithinInstr (S : Micro → Prop) (F : Option Stuck → Regs → Prop) (e : Env β) : Prop where
  toWithin : e.Within S F
  instrOps : ∀ op : Micro, op.inInstr = true → S op
  leaves : Program.Allows F none

namespace WithinInstr

variable {S : Micro → Prop} {F : Option Stuck → Regs → Prop} {e : Env β} {α : Type}

attribute [grind →] toWithin leaves

theorem perform (he : e.WithinInstr S F) {op : Micro} (hop : op.inInstr = true) :
    (Core.perform op : M β Unit).Within S F :=
  .perform (he.instrOps op hop)

grind_pattern perform => e.WithinInstr S F, (Core.perform op : M β Unit).Within S F

theorem setR (he : e.WithinInstr S F) (i : BitVec 3) (v : Word) :
    (Core.setR i v : M β Unit).Within S F :=
  .perform (he.instrOps _ rfl)

grind_pattern setR => e.WithinInstr S F, (Core.setR i v : M β Unit).Within S F

/-! ## Operands -/

@[grind ←] theorem recordDelta (he : e.WithinInstr S F) (reg : BitVec 3) (d : Word) :
    (e.recordDelta reg d).Within S F := he.perform rfl

@[grind ←] theorem autoincrement (he : e.WithinInstr S F) (reg : BitVec 3) (step : Word) :
    (e.autoincrement reg step).Within S F := by
  unfold Env.autoincrement
  grind

@[grind ←] theorem autodecrement (he : e.WithinInstr S F) (reg : BitVec 3) (step : Word) :
    (e.autodecrement reg step).Within S F := by
  unfold Env.autodecrement
  grind

@[grind ←] theorem indexWord (he : e.WithinInstr S F) : e.indexWord.Within S F := by
  unfold Env.indexWord
  grind

@[grind ←] theorem pointer {load : M β Word} (hload : load.Within S F) :
    (Env.pointer load).Within S F := by
  unfold Env.pointer
  grind

@[grind ←] theorem decodeData (he : e.WithinInstr S F) (data : Word) (t : DataType) :
    (e.decodeData data t).Within S F := by
  unfold Env.decodeData
  grind

@[grind ←] theorem getDataByte (he : e.WithinInstr S F) (o : Operand) :
    (e.getDataByte o).Within S F := by
  unfold Env.getDataByte
  grind

@[grind ←] theorem putDataByte (he : e.WithinInstr S F) (o : Operand) (v : Byte) :
    (e.putDataByte o v).Within S F := by
  unfold Env.putDataByte
  grind

@[grind ←] theorem putDataByteMovb (he : e.WithinInstr S F) (o : Operand) (v : Byte) :
    (e.putDataByteMovb o v).Within S F := by
  unfold Env.putDataByteMovb
  grind

@[grind ←] theorem getDataWord (he : e.WithinInstr S F) (o : Operand) :
    (e.getDataWord o).Within S F := by
  unfold Env.getDataWord
  grind

@[grind ←] theorem putDataWord (he : e.WithinInstr S F) (o : Operand) (v : Word) :
    (e.putDataWord o v).Within S F := by
  unfold Env.putDataWord
  grind

@[grind ←] theorem leaveIfAborted (hF : Program.Allows F none) : (Env.leaveIfAborted : M β Unit).Within S F := by
  unfold Env.leaveIfAborted
  grind

@[grind ←] theorem operand (he : e.WithinInstr S F) (data : Word) (t : DataType) :
    (e.operand data t).Within S F := by
  unfold Env.operand
  grind

@[grind ←] theorem getWord (he : e.WithinInstr S F) (o : Operand) : (e.getWord o).Within S F := by
  unfold Env.getWord
  grind

@[grind ←] theorem getByte (he : e.WithinInstr S F) (o : Operand) : (e.getByte o).Within S F := by
  unfold Env.getByte
  grind

@[grind ←] theorem putWord (he : e.WithinInstr S F) (o : Operand) (v : Word) :
    (e.putWord o v).Within S F := by
  unfold Env.putWord
  grind

@[grind ←] theorem putByte (he : e.WithinInstr S F) (o : Operand) (v : Byte) :
    (e.putByte o v).Within S F := by
  unfold Env.putByte
  grind

@[grind ←] theorem putByteMovb (he : e.WithinInstr S F) (o : Operand) (v : Byte) :
    (e.putByteMovb o v).Within S F := by
  unfold Env.putByteMovb
  grind

/-! ## Program control -/

theorem setResult (he : e.WithinInstr S F) (t : DataType) (res : AluResult) :
    (Env.setResult t res : M β Unit).Within S F := he.perform rfl

grind_pattern setResult => e.WithinInstr S F, (Env.setResult t res : M β Unit).Within S F

@[grind ←] theorem carry : (Env.carry : M β Bool).Within S F := by
  unfold Env.carry
  grind

@[grind ←] theorem getData (he : e.WithinInstr S F) (t : DataType) (o : Operand) :
    (e.getData t o).Within S F := by
  unfold Env.getData
  grind

@[grind ←] theorem putData (he : e.WithinInstr S F) (t : DataType) (o : Operand) (v : Word) :
    (e.putData t o v).Within S F := by
  unfold Env.putData
  grind

theorem ccOp (he : e.WithinInstr S F) (set : Bool) (mask : Word) :
    (Env.ccOp set mask : M β Unit).Within S F := he.perform rfl

grind_pattern ccOp => e.WithinInstr S F, (Env.ccOp set mask : M β Unit).Within S F

@[grind ←] theorem illegalTrap (he : e.WithinInstr S F) :
    e.illegalTrap.Within S F := by
  unfold Env.illegalTrap
  grind

@[grind ←] theorem trapVector4 (he : e.WithinInstr S F) :
    e.trapVector4.Within S F := by
  unfold Env.trapVector4
  grind

@[grind ←] theorem mfpt (he : e.WithinInstr S F) :
    e.mfpt.Within S F := by
  unfold Env.mfpt
  grind

@[grind ←] theorem spl (he : e.WithinInstr S F) (level : Word) :
    (e.spl level).Within S F := by
  unfold Env.spl
  grind

@[grind ←] theorem vm2Guarded (he : e.WithinInstr S F) (mask : Word) {m : M β Unit}
    (hm : m.Within S F) : (e.vm2Guarded mask m).Within S F := by
  unfold Env.vm2Guarded
  grind

@[grind ←] theorem start (he : e.WithinInstr S F) :
    e.start.Within S F := by
  unfold Env.start
  grind

@[grind ←] theorem stepInstr (he : e.WithinInstr S F) :
    e.stepInstr.Within S F := by
  unfold Env.stepInstr
  grind

@[grind ←] theorem rsel (he : e.WithinInstr S F) :
    e.rsel.Within S F := by
  unfold Env.rsel
  grind

@[grind ←] theorem mfus (he : e.WithinInstr S F) :
    e.mfus.Within S F := by
  unfold Env.mfus
  refine he.vm2Guarded _ (.bind (.read _) fun _ => .bind (he.perform rfl) fun _ => ?_)
  grind

@[grind ←] theorem mtus (he : e.WithinInstr S F) :
    e.mtus.Within S F := by
  unfold Env.mtus
  refine he.vm2Guarded _ (.bind (.read _) fun _ => .bind (he.perform rfl) fun _ => ?_)
  grind

@[grind ←] theorem rcpc (he : e.WithinInstr S F) :
    e.rcpc.Within S F := by
  unfold Env.rcpc
  grind

@[grind ←] theorem rcps (he : e.WithinInstr S F) :
    e.rcps.Within S F := by
  unfold Env.rcps
  grind

@[grind ←] theorem wcpc (he : e.WithinInstr S F) :
    e.wcpc.Within S F := by
  unfold Env.wcpc
  grind

@[grind ←] theorem wcps (he : e.WithinInstr S F) :
    e.wcps.Within S F := by
  unfold Env.wcps
  grind

theorem branch (he : e.WithinInstr S F) (b : Branch) (offset : Word) :
    (Env.branch b offset : M β Unit).Within S F := by
  unfold Env.branch
  grind

grind_pattern branch => e.WithinInstr S F, (Env.branch b offset : M β Unit).Within S F

@[grind ←] theorem rts (he : e.WithinInstr S F) (reg : BitVec 3) :
    (e.rts reg).Within S F := by
  unfold Env.rts
  grind

@[grind ←] theorem mark (he : e.WithinInstr S F) (nn : Word) :
    (e.mark nn).Within S F := by
  unfold Env.mark
  grind

theorem sob (he : e.WithinInstr S F) (reg : BitVec 3) (nn : Word) :
    (Env.sob reg nn : M β Unit).Within S F := by
  unfold Env.sob
  grind

grind_pattern sob => e.WithinInstr S F, (Env.sob reg nn : M β Unit).Within S F

@[grind ←] theorem jmp (he : e.WithinInstr S F) (dd : Word) :
    (e.jmp dd).Within S F := by
  unfold Env.jmp
  grind

@[grind ←] theorem pushLogged (he : e.WithinInstr S F) {v : M β Word} (hv : v.Within S F) :
    (e.pushLogged v).Within S F := by
  unfold Env.pushLogged
  grind

@[grind ←] theorem jsr (he : e.WithinInstr S F) (reg : BitVec 3) (dd : Word) :
    (e.jsr reg dd).Within S F := by
  unfold Env.jsr
  grind

@[grind ←] theorem single (he : e.WithinInstr S F) (op : SingleOp) (t : DataType) (dd : Word) :
    (e.single op t dd).Within S F := by
  unfold Env.single
  grind

@[grind ←] theorem swab (he : e.WithinInstr S F) (dd : Word) :
    (e.swab dd).Within S F := by
  unfold Env.swab
  grind

@[grind ←] theorem sxt (he : e.WithinInstr S F) (dd : Word) :
    (e.sxt dd).Within S F := by
  unfold Env.sxt
  grind

@[grind ←] theorem mfps (he : e.WithinInstr S F) (dd : Word) :
    (e.mfps dd).Within S F := by
  unfold Env.mfps
  grind

@[grind ←] theorem mtps (he : e.WithinInstr S F) (ss : Word) :
    (e.mtps ss).Within S F := by
  unfold Env.mtps
  grind

@[grind ←] theorem csm (he : e.WithinInstr S F) (ss : Word) :
    (e.csm ss).Within S F := by
  unfold Env.csm
  refine .bind (.read _) fun r => .ite (he.illegalTrap) <| .ite (he.illegalTrap) ?_
  refine .bind (he.operand _ _) fun src => .bind (he.getWord _) fun _ => .bind (.read _) fun _ => ?_
  refine .bind (.read _) fun _ => .bind (he.toWithin.coreStoreWordModeSpace _ _ _ _) fun _ => ?_
  refine .bind (.read _) fun _ => .ite (.pure _) <| .bind (.read _) fun _ => ?_
  refine .bind (he.toWithin.coreStoreWordModeSpace _ _ _ _) fun _ => .bind (.read _) fun _ => ?_
  grind

@[grind ←] theorem tstset (he : e.WithinInstr S F) (dd : Word) :
    (e.tstset dd).Within S F := by
  unfold Env.tstset
  grind

@[grind ←] theorem wrtlck (he : e.WithinInstr S F) (dd : Word) :
    (e.wrtlck dd).Within S F := by
  unfold Env.wrtlck
  grind

@[grind ←] theorem mfpOperand (he : e.WithinInstr S F) (ss : Word) (ds : Regs → Bool) :
    (e.mfpOperand ss ds).Within S F := by
  unfold Env.mfpOperand
  grind

@[grind ←] theorem mfp (he : e.WithinInstr S F) (ss : Word) (ds : Regs → Bool) :
    (e.mfp ss ds).Within S F := by
  unfold Env.mfp
  grind

@[grind ←] theorem mtpStore (he : e.WithinInstr S F) (dst : Operand) (ds : Bool) (tmp : Word) :
    (e.mtpStore dst ds tmp).Within S F := by
  unfold Env.mtpStore
  grind

@[grind ←] theorem mtp (he : e.WithinInstr S F) (dd : Word) (ds : Bool) :
    (e.mtp dd ds).Within S F := by
  unfold Env.mtp
  refine .bind (.read _) fun r => .ite he.illegalTrap ?_
  dsimp only
  refine .ite (.bind (.map _ (he.operand _ _)) fun dst => ?_) (.bind (he.decodeData _ _) fun dst => ?_)
  all_goals
    cases dst with
    | none => exact .pure _
    | some dst =>
      refine .bind (.read _) fun _ => .bind (he.toWithin.coreLoadWord _) fun _ => ?_
      grind

@[grind ←] theorem mfpd (he : e.WithinInstr S F) (ss : Word) : (e.mfpd ss).Within S F := he.mfp ..

@[grind ←] theorem mfpi (he : e.WithinInstr S F) (ss : Word) : (e.mfpi ss).Within S F := he.mfp ..

@[grind ←] theorem mtpi (he : e.WithinInstr S F) (dd : Word) : (e.mtpi dd).Within S F := he.mtp ..

@[grind ←] theorem mtpd (he : e.WithinInstr S F) (dd : Word) : (e.mtpd dd).Within S F := he.mtp ..

@[grind ←] theorem leaveIfAbortedDcj11 (hF : Program.Allows F none) :
    (Env.leaveIfAbortedDcj11 : M β Unit).Within S F := by
  unfold Env.leaveIfAbortedDcj11
  grind

@[grind ←] theorem mul (he : e.WithinInstr S F) (reg : BitVec 3) (ss : Word) :
    (e.mul reg ss).Within S F := by
  unfold Env.mul
  refine .bind (.read _) fun before => .ite (he.illegalTrap) (.bind (he.operand _ _) fun _ => ?_)
  grind

@[grind ←] theorem div (he : e.WithinInstr S F) (reg : BitVec 3) (ss : Word) :
    (e.div reg ss).Within S F := by
  unfold Env.div
  refine .bind (.read _) fun before => .ite (he.illegalTrap) (.bind (he.operand _ _) fun _ => ?_)
  refine .bind (he.getDataWord _) fun _ => .bind (leaveIfAbortedDcj11 he.leaves) fun _ => ?_
  refine .bind (.read _) fun after => ?_
  grind

@[grind ←] theorem ash (he : e.WithinInstr S F) (reg : BitVec 3) (ss : Word) :
    (e.ash reg ss).Within S F := by
  unfold Env.ash
  grind

@[grind ←] theorem ashc (he : e.WithinInstr S F) (reg : BitVec 3) (ss : Word) :
    (e.ashc reg ss).Within S F := by
  unfold Env.ashc
  refine .bind (.read _) fun before => .ite (he.illegalTrap) (.bind (he.operand _ _) fun _ => ?_)
  grind

@[grind ←] theorem xor (he : e.WithinInstr S F) (reg : BitVec 3) (dd : Word) :
    (e.xor reg dd).Within S F := by
  unfold Env.xor
  grind

@[grind ←] theorem handleFis (he : e.WithinInstr S F) :
    e.handleFis.Within S F := by
  unfold Env.handleFis
  grind

@[grind ←] theorem handleFisError (he : e.WithinInstr S F) (error : Word) :
    (e.handleFisError error).Within S F := by
  unfold Env.handleFisError
  grind

@[grind ←] theorem fisOperand (he : e.WithinInstr S F) (addr : Word) :
    (e.fisOperand addr).Within S F := by
  unfold Env.fisOperand
  grind

@[grind ←] theorem fis (he : e.WithinInstr S F) (f : FisOp) (reg : BitVec 3) :
    (e.fis f reg).Within S F := by
  unfold Env.fis
  refine .bind (.read _) fun r => .ite he.handleFis <| .bind (.read _) fun _ => ?_
  refine .bind (he.fisOperand _) fun b => .bind (he.fisOperand _) fun a => ?_
  grind

@[grind ←] theorem sourceRegister (t : DataType) (ss : Word) :
    (Env.sourceRegister t ss : M β Word).Within S F := by
  unfold Env.sourceRegister
  grind

@[grind ←] theorem sourceThenDst (he : e.WithinInstr S F) (t : DataType) (ss dd : Word) :
    (e.sourceThenDst t ss dd).Within S F := by
  unfold Env.sourceThenDst
  grind

@[grind ←] theorem sourceAndDst (he : e.WithinInstr S F) (t : DataType) (ss dd : Word) :
    (e.sourceAndDst t ss dd).Within S F := by
  unfold Env.sourceAndDst
  grind

@[grind ←] theorem mov (he : e.WithinInstr S F) (t : DataType) (ss dd : Word) :
    (e.mov t ss dd).Within S F := by
  unfold Env.mov
  grind

@[grind ←] theorem double (he : e.WithinInstr S F) (d : DoubleOp) (t : DataType) (ss dd : Word) :
    (e.double d t ss dd).Within S F := by
  unfold Env.double
  grind

@[grind ←] theorem add (he : e.WithinInstr S F) (ss dd : Word) :
    (e.add ss dd).Within S F := by
  unfold Env.add
  grind

@[grind ←] theorem sub (he : e.WithinInstr S F) (ss dd : Word) :
    (e.sub ss dd).Within S F := by
  unfold Env.sub
  grind

/-! ## Floating point -/

@[grind ←] theorem fps : (Env.fps : M β Dword).Within S F := .read _

@[grind ←] theorem getFr (i : BitVec 3) : (Env.getFr i : M β Fpac).Within S F := .read _

theorem setFps (he : e.WithinInstr S F) (v : Dword) :
    (Env.setFps v : M β Unit).Within S F := by
  unfold Env.setFps
  grind

grind_pattern setFps => e.WithinInstr S F, (Env.setFps v : M β Unit).Within S F

theorem setFr (he : e.WithinInstr S F) (i : BitVec 3) (v : Fpac) :
    (Env.setFr i v : M β Unit).Within S F := by
  unfold Env.setFr
  grind

grind_pattern setFr => e.WithinInstr S F, (Env.setFr i v : M β Unit).Within S F

theorem storeFr (he : e.WithinInstr S F) (qd : Bool) (i : BitVec 3) (v : Fpac) :
    (Env.storeFr qd i v : M β Unit).Within S F := by
  unfold Env.storeFr
  grind

grind_pattern storeFr => e.WithinInstr S F, (Env.storeFr qd i v : M β Unit).Within S F

theorem fpnotrap (he : e.WithinInstr S F) (code : Fec) :
    (Env.fpnotrap code : M β Bool).Within S F := by
  unfold Env.fpnotrap Env.fpnotrap.record
  grind

grind_pattern fpnotrap => e.WithinInstr S F, (Env.fpnotrap code : M β Bool).Within S F

theorem roundfp11 (he : e.WithinInstr S F) (f : Fpac) :
    (Env.roundfp11 f : M β (Fpac × Dword)).Within S F := by
  unfold Env.roundfp11
  exact .ite (.bind (he.fpnotrap _) fun _ => .ite (.pure _) (.pure _)) (.pure _)

grind_pattern roundfp11 => e.WithinInstr S F, (Env.roundfp11 f : M β (Fpac × Dword)).Within S F

theorem roundAndPack (he : e.WithinInstr S F) (f : Fpac) (exp : Int) (frac : Fpac) (rv : Bool) :
    (Env.roundAndPack f exp frac rv : M β (Fpac × Dword)).Within S F := by
  unfold Env.roundAndPack
  refine .bind (.read _) fun st => .ite (.bind (he.fpnotrap _) fun _ => .ite (.pure _) (.pure _)) ?_
  exact .ite (.bind (he.fpnotrap _) fun _ => .ite (.pure _) (.pure _)) (.pure _)

theorem addfp11 (he : e.WithinInstr S F) (x y : Fpac) :
    (Env.addfp11 x y : M β (Fpac × Dword)).Within S F := by
  unfold Env.addfp11
  refine .ite (.pure _) <| .ite (.pure _) <| .ite (.pure _) <| .ite (.ite (.pure _) ?_) ?_
  · exact he.roundAndPack _ _ _ _
  · exact .ite (he.roundAndPack _ _ _ _) (he.roundAndPack _ _ _ _)

grind_pattern addfp11 => e.WithinInstr S F, (Env.addfp11 x y : M β (Fpac × Dword)).Within S F

theorem mulfp11 (he : e.WithinInstr S F) (x y : Fpac) :
    (Env.mulfp11 x y : M β (Fpac × Dword)).Within S F := by
  unfold Env.mulfp11
  exact .ite (.pure _) (he.roundAndPack _ _ _ _)

grind_pattern mulfp11 => e.WithinInstr S F, (Env.mulfp11 x y : M β (Fpac × Dword)).Within S F

theorem modfp11 (he : e.WithinInstr S F) (x y : Fpac) :
    (Env.modfp11 x y : M β (Fpac × Fpac × Dword)).Within S F := by
  unfold Env.modfp11
  generalize productFrac x y = p
  refine .ite (.pure _) <| .bind (.read _) fun _ => .ite ?_ (.ite ?_ ?_)
  · exact .bind (he.roundAndPack _ _ _ _) fun _ => .pure _
  · exact .bind (he.roundAndPack _ _ _ _) fun _ => .pure _
  · dsimp only
    refine .ite ?_ ?_
    · exact .bind (.pure _) fun _ => .bind (he.roundAndPack _ _ _ _) fun _ => .pure _
    · refine .bind (he.roundAndPack _ _ _ _) fun _ => .bind (.pure _) fun _ => ?_
      exact .bind (he.roundAndPack _ _ _ _) fun _ => .pure _

grind_pattern modfp11 => e.WithinInstr S F, (Env.modfp11 x y : M β (Fpac × Fpac × Dword)).Within S F

theorem divfp11 (he : e.WithinInstr S F) (x y : Fpac) :
    (Env.divfp11 x y : M β (Fpac × Dword)).Within S F := by
  unfold Env.divfp11
  refine .ite (.pure _) <| .bind (.read _) fun _ => ?_
  exact .ite (he.roundAndPack _ _ _ _) (he.roundAndPack _ _ _ _)

grind_pattern divfp11 => e.WithinInstr S F, (Env.divfp11 x y : M β (Fpac × Dword)).Within S F

@[grind ←] theorem readW (he : e.WithinInstr S F) (addr : Word) :
    (e.readW addr).Within S F := by
  unfold Env.readW
  grind

@[grind ←] theorem readWI (he : e.WithinInstr S F) (addr : Word) :
    (e.readWI addr).Within S F := by
  unfold Env.readWI
  grind

@[grind ←] theorem readFW (he : e.WithinInstr S F) (addr spec : Word) :
    (e.readFW addr spec).Within S F := by
  unfold Env.readFW
  grind

@[grind ←] theorem writeW (he : e.WithinInstr S F) (data addr : Word) :
    (e.writeW data addr).Within S F := by
  unfold Env.writeW
  grind

theorem fpRegChange (he : e.WithinInstr S F) (len : Word) (reg : BitVec 3) :
    (Env.fpRegChange len reg : M β Unit).Within S F := by
  unfold Env.fpRegChange
  grind

grind_pattern fpRegChange => e.WithinInstr S F, (Env.fpRegChange len reg : M β Unit).Within S F

@[grind ←] theorem getea (he : e.WithinInstr S F) (spec len : Word) :
    (e.getea spec len).Within S F := by
  have hchange (len : Word) (reg : BitVec 3) := he.fpRegChange len reg
  have hindex (k : Word → M β Word) (hk : ∀ adr, (k adr).Within S F) :
      (do
        let pc ← Core.getR 7
        let adr ← e.readWI pc
        if ← Core.aborted then return 0
        Core.perform (.ifetch pc)
        Core.setR 7 (pc + 2)
        k adr : M β Word).Within S F := by
    refine .bind (.read _) fun _ => .bind (he.readWI _) fun _ => .bind (.read _) fun _ => ?_
    exact .ite (.pure _) (.bind (he.perform rfl) fun _ => .bind (he.setR _ _) fun _ => hk _)
  unfold Env.getea
  dsimp only
  split
  · exact .bind (.read _) fun _ => .bind (hchange _ _) fun _ => .pure _
  · exact .bind (.read _) fun _ => .bind (hchange _ _) fun _ => .ite (he.readWI _) (he.readW _)
  · exact .bind (.read _) fun _ => .bind (hchange _ _) fun _ => .pure _
  · exact .bind (.read _) fun _ => .bind (hchange _ _) fun _ => he.readW _
  · exact hindex _ fun _ => .bind (.read _) fun _ => .pure _
  · exact hindex _ fun _ => .bind (.read _) fun _ => he.readW _
  · exact .read _

@[grind ←] theorem geteaFW (he : e.WithinInstr S F) (spec : Word) :
    (e.geteaFW spec).Within S F := by
  unfold Env.geteaFW
  grind

@[grind ←] theorem geteaFP (he : e.WithinInstr S F) (spec : Word) (len : FpLen) :
    (e.geteaFP spec len).Within S F := by
  unfold Env.geteaFP
  grind

@[grind ←] theorem readI (he : e.WithinInstr S F) (va spec : Word) (len : FpLen) :
    (e.readI va spec len).Within S F := by
  unfold Env.readI
  grind

theorem checkDefined (he : e.WithinInstr S F) (f : Fpac) :
    (Env.checkDefined f : M β (Option Fpac)).Within S F := by
  unfold Env.checkDefined
  grind

grind_pattern checkDefined => e.WithinInstr S F, (Env.checkDefined f : M β (Option Fpac)).Within S F

@[grind ←] theorem readFP (he : e.WithinInstr S F) (va spec : Word) (len : FpLen) :
    (e.readFP va spec len).Within S F := by
  unfold Env.readFP
  refine .bind (.read _) fun _ => .ite (.pure _) <| .ite (.bind (.read _) fun _ => .pure _) <| .ite ?_ ?_
  · grind
  · refine .bind (he.readW _) fun _ => .bind (.read _) fun _ => .ite (.pure _) ?_
    refine .bind (he.readW _) fun _ => .bind (.read _) fun _ => .ite (.pure _) ?_
    grind

@[grind ←] theorem writeI (he : e.WithinInstr S F) (data : Dword) (va spec : Word) (len : FpLen) :
    (e.writeI data va spec len).Within S F := by
  unfold Env.writeI
  grind

@[grind ←] theorem writeFP (he : e.WithinInstr S F) (f : Fpac) (va spec : Word) (len : FpLen) :
    (e.writeFP f va spec len).Within S F := by
  unfold Env.writeFP
  grind

@[grind ←] theorem fpWordSource (he : e.WithinInstr S F) (spec : Word) :
    (e.fpWordSource spec).Within S F := by
  unfold Env.fpWordSource
  grind

@[grind ←] theorem fpSource (he : e.WithinInstr S F) (spec : Word) (len : FpLen) :
    (e.fpSource spec len).Within S F := by
  unfold Env.fpSource
  grind

@[grind ←] theorem withSource (he : e.WithinInstr S F) (spec : Word) (len : FpLen) {k : Fpac → M β Unit}
    (hk : ∀ f, (k f).Within S F) : (e.withSource spec len k).Within S F := by
  unfold Env.withSource
  grind

theorem finishFp (he : e.WithinInstr S F) (qd : Bool) (ac : BitVec 3) (f : Fpac) (newV : Dword) :
    (Env.finishFp qd ac f newV : M β Unit).Within S F := by
  unfold Env.finishFp
  grind

grind_pattern finishFp => e.WithinInstr S F, (Env.finishFp qd ac f newV : M β Unit).Within S F

@[grind ←] theorem fpSignOp (he : e.WithinInstr S F) (spec : Word) (len : FpLen) (f : Dword → Dword) :
    (e.fpSignOp spec len f).Within S F := by
  unfold Env.fpSignOp
  grind

@[grind ←] theorem fpControl (he : e.WithinInstr S F) (ir ac spec : Word) :
    (e.fpControl ir ac spec).Within S F := by
  unfold Env.fpControl
  grind

@[grind ←] theorem fpSingle (he : e.WithinInstr S F) (ac spec : Word) (len : FpLen) :
    (e.fpSingle ac spec len).Within S F := by
  unfold Env.fpSingle
  grind

@[grind ←] theorem fpLdexp (he : e.WithinInstr S F) (ac : BitVec 3) (spec : Word) (qd : Bool) :
    (e.fpLdexp ac spec qd).Within S F := by
  unfold Env.fpLdexp
  grind

@[grind ←] theorem fpStexp (he : e.WithinInstr S F) (ac : BitVec 3) (spec : Word) :
    (e.fpStexp ac spec).Within S F := by
  unfold Env.fpStexp
  grind

@[grind ←] theorem fpLdcif (he : e.WithinInstr S F) (ac : BitVec 3) (spec : Word) (qd : Bool) :
    (e.fpLdcif ac spec qd).Within S F := by
  unfold Env.fpLdcif
  grind

@[grind ←] theorem fpStcfi (he : e.WithinInstr S F) (ac : BitVec 3) (spec : Word) (qd : Bool) :
    (e.fpStcfi ac spec qd).Within S F := by
  unfold Env.fpStcfi
  refine .bind (.read _) fun _ => .bind (.read _) fun _ => .bind (he.perform rfl) fun _ => ?_
  refine .bind (.when (.bind (he.fpnotrap _) fun _ => .pure _)) fun _ => ?_
  refine .bind (.read _) fun _ => .bind (.read _) fun _ => .bind (he.setFps _) fun _ => ?_
  grind

@[grind ←] theorem fpDispatch (he : e.WithinInstr S F) (ir : Word) :
    (e.fpDispatch ir).Within S F := by
  have hround (f : Fpac) := he.roundfp11 f
  have hfinish (qd : Bool) (ac : BitVec 3) (f : Fpac) (v : Dword) := he.finishFp qd ac f v
  have hstore (qd : Bool) (ac : BitVec 3) (f : Fpac) := he.storeFr qd ac f
  unfold Env.fpDispatch
  refine .bind (.read _) fun st => ?_
  dsimp only
  split
  · exact he.fpControl _ _ _
  · exact he.fpSingle _ _ _
  · exact he.withSource _ _ fun _ => hfinish _ _ _ _
  · exact .bind (.read _) fun _ => .bind (he.geteaFP _ _) fun _ => he.writeFP _ _ _ _
  · refine he.withSource _ _ fun _ => .bind (.read _) fun _ => .ite ?_ (hfinish _ _ _ _)
    exact .bind (hround _) fun _ => hfinish _ _ _ _
  · refine .bind (.read _) fun _ => .ite (.bind (hround _) fun _ => ?_) (.bind (.pure _) fun _ => ?_)
    all_goals
      refine .bind (he.geteaFP _ _) fun _ => .bind (he.writeFP _ _ _ _) fun _ => ?_
      exact .bind (.read _) fun _ => he.setFps _
  · refine he.withSource _ _ fun _ => .bind (.read _) fun _ => .bind (.read _) fun _ => ?_
    exact .bind (he.setFps _) fun _ => .when (hstore _ _ _)
  · exact he.fpLdexp _ _ _
  · exact he.fpStexp _ _
  · exact he.fpLdcif _ _ _
  · exact he.fpStcfi _ _ _
  · refine he.withSource _ _ fun _ => .bind (.read _) fun _ => .bind (he.mulfp11 _ _) fun _ => ?_
    exact hfinish _ _ _ _
  · refine he.withSource _ _ fun _ => .bind (.read _) fun _ => .bind (he.modfp11 _ _) fun _ => ?_
    exact .bind (hstore _ _ _) fun _ => hfinish _ _ _ _
  · refine he.withSource _ _ fun _ => .bind (.read _) fun _ => .bind (he.addfp11 _ _) fun _ => ?_
    exact hfinish _ _ _ _
  · refine he.withSource _ _ fun _ => .bind (.read _) fun _ => .bind (he.addfp11 _ _) fun _ => ?_
    exact hfinish _ _ _ _
  · refine he.withSource _ _ fun _ => .ite (.bind (he.fpnotrap _) fun _ => .pure _) ?_
    exact .bind (.read _) fun _ => .bind (he.divfp11 _ _) fun _ => hfinish _ _ _ _

theorem fpCommit (he : e.WithinInstr S F) (is : List (BitVec 3)) :
    (Env.fpCommit is : M β Unit).Within S F := by
  induction is with
  | nil => exact .pure _
  | cons i is ih =>
    unfold Env.fpCommit
    grind

grind_pattern fpCommit => e.WithinInstr S F, (Env.fpCommit is : M β Unit).Within S F

@[grind ←] theorem fp11 (he : e.WithinInstr S F) (ir : Word) :
    (e.fp11 ir).Within S F := by
  unfold Env.fp11
  refine .bind (.read _) fun _ => .bind (he.perform rfl) fun _ => .bind (he.fpDispatch _) fun _ => ?_
  refine .bind (.read _) fun _ => .bind (.when (he.fpCommit _)) fun _ => .bind (he.perform rfl) fun _ => ?_
  grind

@[grind ←] theorem fp (he : e.WithinInstr S F) (ir : Word) :
    (e.fp ir).Within S F := by
  unfold Env.fp
  grind

/-! ## Dispatch -/

theorem execute (he : e.WithinInstr S F) {i : Instr} (hi : i.plainOps = true) :
    (e.execute i).Within S F := by
  cases i <;> simp only [Env.execute, Env.plain, Instr.plainOps] at hi ⊢ <;> grind

end WithinInstr
end Env
end K1801.Core
