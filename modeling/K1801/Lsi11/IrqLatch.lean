/-! # The interrupt latch

The DONE and IE bits of a device, its latched request, and whether a completion may latch one.
-/

namespace K1801.Lsi11

/-- `irq_latch_t` -/
structure IrqLatch where
  done : Bool := false
  ie : Bool := false
  irqReq : Bool := false
  irqArmed : Bool := false
  deriving Repr, DecidableEq

namespace IrqLatch

/-- `irq_latch_reset` -/
def reset : IrqLatch := { irqArmed := true }

/-- A device event sets DONE once. -/
def eventSetDone (l : IrqLatch) : IrqLatch :=
  if l.done then l
  else if l.ie && l.irqArmed then { l with done := true, irqReq := true, irqArmed := false }
  else { l with done := true }

/-- The acknowledge of the processor leaves DONE alone. -/
def ack (l : IrqLatch) : IrqLatch := { l with irqReq := false }

def swClearDone (l : IrqLatch) : IrqLatch := { l with done := false, irqReq := false, irqArmed := true }

/-- IE alone never raises a request. -/
def setIe (l : IrqLatch) (ie : Bool) : IrqLatch := { l with ie := ie }

section Fields

variable (l : IrqLatch)

@[simp] theorem eventSetDone_done : l.eventSetDone.done = true := by
  unfold eventSetDone
  cases hd : l.done
  · cases l.ie && l.irqArmed <;> rfl
  · exact hd

@[simp] theorem eventSetDone_ie : l.eventSetDone.ie = l.ie := by
  unfold eventSetDone
  cases l.done
  · cases l.ie && l.irqArmed <;> rfl
  · rfl

@[simp] theorem swClearDone_done : l.swClearDone.done = false := rfl

@[simp] theorem swClearDone_ie : l.swClearDone.ie = l.ie := rfl

@[simp] theorem setIe_done (ie : Bool) : (l.setIe ie).done = l.done := rfl

@[simp] theorem setIe_ie (ie : Bool) : (l.setIe ie).ie = ie := rfl

@[simp] theorem ack_done : l.ack.done = l.done := rfl

@[simp] theorem ack_ie : l.ack.ie = l.ie := rfl

end Fields

end IrqLatch

end K1801.Lsi11
