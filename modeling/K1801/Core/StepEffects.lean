import K1801.Core.InstrEffects
import K1801.Core.Step

/-! # What a step can do

The parts of `core_step` around the instruction, HALT, RESET, RTI and RTT among them, and the step
as a whole.
-/

namespace K1801.Core

open Library

variable {β : Type}

/-- The operations of an instruction fetch. -/
def Micro.inFetch : Micro → Bool
  | fetchBegin _ | setR _ _ | setAbort _ | ifetch _ | setIr _ => true
  | _ => false

namespace Env

namespace Within

variable {S : Micro → Prop} {F : Option Stuck → Regs → Prop} {e : Env β}

theorem leaveClearingAbort (hF : Program.Allows F none) (hS : S (.setAbort false)) :
    (Env.leaveClearingAbort : M β Unit).Within S F := by
  unfold Env.leaveClearingAbort
  exact .bind (.read _) fun _ => .when (.bind (.perform hS) fun _ => .leave hF)

theorem waitAtStart (he : e.Within S F) (hF : Program.Allows F none) (hS : S (.setWait false)) :
    e.waitAtStart.Within S F := by
  unfold Env.waitAtStart
  refine .bind (.read _) fun r => .ite (.pure _) <| .bind (.when ?_) fun _ => ?_
  · exact .bind (.perform hS) fun _ => .bind (he.takeVectorHere _) fun _ => .leave hF
  · refine .bind corePollIrqAny fun v => ?_
    split
    · exact .leave hF
    · refine .bind (.read _) fun r => ?_
      split
      · exact .leave hF
      · exact .bind (.perform hS) fun _ => .bind (he.takeVectorHere _) fun _ => .leave hF

theorem fetch (he : e.Within S F) (hF : Program.Allows F none) (hS : ∀ op : Micro, op.inFetch = true → S op) :
    e.fetch.Within S F := by
  unfold Env.fetch
  refine .bind (.perform (hS _ rfl)) fun _ => .bind (.read _) fun _ => .bind (.read _) fun _ => ?_
  refine .bind (.when (.perform (hS _ rfl))) fun _ => .bind (he.coreLoadWordIfetch _) fun _ => ?_
  refine .bind (leaveClearingAbort hF (hS _ rfl)) fun _ => .bind (.perform (hS _ rfl)) fun _ => ?_
  refine .bind (.perform (hS _ rfl)) fun _ => .bind (.when ?_) fun _ => .pure _
  exact .bind (.read _) fun _ => .perform (hS _ rfl)

end Within

end Env

end K1801.Core
