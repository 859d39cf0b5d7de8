import K1801.Core.Memory

/-! # Trap and interrupt entry

Vector fetches and stack pushes go through the same memory routines as operands, so
a trap entry can itself be interrupted by another one. `Env.nested` ties that knot: in
`nested h n` at most `n` trap entries can be open at once.
-/

namespace K1801.Core

open Library

variable {β : Type}

namespace Env

def pushw (e : Env β) (v : Word) : M β Unit := do
  setR 6 ((← getR 6) - 2)
  perform (.stackReference (← getR 6))
  e.coreStoreWord (← getR 6) v

/-- The pop itself does not look at the abort flag. -/
def pullw (e : Env β) : M β Word := do
  let v ← e.coreLoadWord (← getR 6)
  setR 6 ((← getR 6) + 2)
  pure v

def coreTakeVector (e : Env β) (vec oldPc oldPsw : Word) : M β Unit := do
  let fetchedPsw ← e.coreLoadWordVector (vec + 2)
  if ← aborted then return
  let newPc ← e.coreLoadWordVector vec
  if ← aborted then return
  perform (.enterVector vec oldPsw fetchedPsw)
  perform (.vectorPush oldPc oldPsw)
  e.pushw oldPsw
  if ← aborted then return ← perform .vectorPushed
  e.pushw oldPc
  if ← aborted then return ← perform .vectorPushed
  perform .vectorPushed
  setR 7 newPc

/-- A fault while a vector frame is pushed is a red stack abort: the frame goes to the
    emergency stack at physical 2 and 0. Answers whether it was taken. -/
def dcj11TakeRedStackAbort (e : Env β) : M β Bool := do
  let r ← regs
  if r.model ≠ .dcj11 ∨ !r.dcj11VectorPushActive then return false
  let oldPsw := r.dcj11VectorOldPsw
  let oldPc := r.dcj11VectorOldPc
  perform (.redStackRestore oldPc oldPsw)
  let vectorPsw ← e.rawLoadWordPhys 6
  if ← aborted then return true
  perform (.enterVector 4 oldPsw vectorPsw)
  perform .emergencyStack
  setR 6 ((← getR 6) - 2)
  e.rawStoreWordPhys ((← getR 6).setWidth 32) oldPsw
  if ← aborted then return true
  setR 6 ((← getR 6) - 2)
  e.rawStoreWordPhys ((← getR 6).setWidth 32) oldPc
  if ← aborted then return true
  let newPc ← e.rawLoadWordPhys 4
  Program.when (!(← aborted)) (setR 7 newPc)
  perform (.setAbort true)
  return true

/-- `bus_error_trap`, also `core_bus_error_trap` -/
def busError (e : Env β) : M β Unit := do
  let r ← regs
  if ← e.dcj11TakeRedStackAbort then return
  let vec := if r.model = .k1801vm1 ∧ (← regs).psw &&& 0o6000 ≠ 0 then 0o160002 else 0o4
  e.coreTakeVector vec (r.r 7) r.psw
  perform (.setAbort true)

/-- `mmu_fault_trap` -/
def mmuAbort (e : Env β) (_va pc : Word) (fault : MmuFault) (apr : Apr) : M β Unit := do
  let r ← regs
  if ← e.dcj11TakeRedStackAbort then return
  perform (.recordFault e.host.build fault apr)
  e.coreTakeVector mmuTrapVector pc r.psw
  perform (.setAbort true)

/-- The core with room for `n` nested trap entries. -/
def nested (h : Host β) : Nat → Env β
  | 0 =>
    { host := h
      busErrorTrap := Program.fail .nesting
      mmuFaultTrap := fun _ _ _ _ => Program.fail .nesting }
  | n + 1 =>
    { host := h
      busErrorTrap := (nested h n).busError
      mmuFaultTrap := (nested h n).mmuAbort }

@[simp] theorem nested_host (h : Host β) (n : Nat) : (nested h n).host = h := by
  cases n <;> rfl

@[simp] theorem nested_busErrorTrap (h : Host β) (n : Nat) :
    (nested h (n + 1)).busErrorTrap = (nested h n).busError := rfl

@[simp] theorem nested_mmuFaultTrap (h : Host β) (n : Nat) :
    (nested h (n + 1)).mmuFaultTrap = (nested h n).mmuAbort := rfl

/-! ## Traps raised by instructions -/

def takeVectorHere (e : Env β) (vec : Word) : M β Unit := do
  let r ← regs
  e.coreTakeVector vec (r.r 7) r.psw

def illegalTrap (e : Env β) : M β Unit := e.takeVectorHere 0o10

def trapVector4 (e : Env β) : M β Unit := e.takeVectorHere 0o4

/-- `dcj11_service_stack_trap`: answers whether a pending yellow trap was taken. -/
def dcj11ServiceStackTrap (e : Env β) : M β Bool := do
  let r ← regs
  if r.model ≠ .dcj11 then return false
  if !r.dcj11YellowPending ∨ r.dcj11StackTrapActive then return false
  perform (.stackTrap true)
  e.coreTakeVector 0o4 (r.r 7) r.psw
  perform (.stackTrap false)
  return true

/-- The `reset` callback of the host. -/
def hostReset (e : Env β) : M β Unit := do
  let (maint, hitmiss, sel0) ← Program.onBus fun r bus =>
    let reply := e.host.reset r bus
    ((reply.j11Maint, reply.j11Hitmiss, reply.sel0), reply.bus)
  perform (.hostReset maint hitmiss sel0)

def handleHalt (e : Env β) : M β Unit := do
  let model := (← regs).model
  if model = .k1801vm1 then
    e.coreStoreWord 0o177716 ((← e.coreLoadWord 0o177716) ||| 0o10)
    if ← aborted then return
    e.coreStoreWord 0o177676 (← regs).psw
    if ← aborted then return
    e.coreStoreWord 0o177674 (← getR 7)
    if ← aborted then return
    setR 7 (← e.coreLoadWordVector 0o160002)
    if ← aborted then return
    perform (.haltPsw (← e.coreLoadWordVector 0o160004))
  else if model.isVm2 then
    let vec := ((← regs).sel0 &&& 0o177400) ||| 0o170
    perform .saveCopies
    setR 7 ((← e.coreLoadWordVector vec) &&& 0o177776)
    perform (.haltPsw (← e.coreLoadWordVector (vec + 2)))
  else
    e.pushw (← regs).psw
    e.pushw (← getR 7)
    setR 7 ((← e.coreLoadWordVector 4) &&& 0o177776)
    perform .dcj11Halt

/-! ## FIS entry -/

def handleFis (e : Env β) : M β Unit := do
  let r ← regs
  if !r.model.isVm2 ∨ r.sel0 &&& 0o200 ≠ 0 then return ← e.illegalTrap
  let vec := (r.sel0 &&& 0o177400) ||| 0o10
  perform .saveCopies
  setR 7 ((← e.coreLoadWordVector vec) &&& 0o177776)
  perform (.fisPsw (← e.coreLoadWordVector (vec + 2)))

def handleFisError (e : Env β) (error : Word) : M β Unit := do
  e.pushw error
  e.pushw (← getR 7)
  setR 7 (← e.coreLoadWordVector 0o244)
  perform (.fisErrorPsw (← e.coreLoadWordVector 0o246))

end Env

/-! ## Interrupt acceptance -/

/-- `irq_accept`: the vector, when the PSW does not mask the request. -/
def irqAccept (r : Regs) (irqVector : Word) : Option Word :=
  let vec := if r.model = .k1801vm1 then irqVector else irqVector &&& 0o777
  let pri := (irqVector >>> 9) &&& 0o7
  let pswPri := (r.psw >>> 5) &&& 0o7
  if r.model = .k1801vm1 then
    if r.psw &&& 0o1000 ≠ 0 then none
    else if vec = 0o160002 ∧ r.psw &&& 0o2000 ≠ 0 then none
    else if vec ≠ 0o160002 ∧ flagIsSet r.psw flagP then none
    else some (vec &&& 0o177776)
  else if r.model.isVm2 then
    if r.psw &&& flagP ≠ 0 then none else some (irqVector &&& 0o177776)
  else if pri ≠ 0 ∧ pri ≤ pswPri then none
  else some (vec &&& 0o17776)

def dcj11PirqPoll (r : Regs) : Option Word :=
  if r.model ≠ .dcj11 then none
  else
    let level := dcj11PirqHighestLevel r.j11Pirq
    if level = 0 then none
    else if level ≤ ((r.psw >>> 5) &&& 0o7).toNat then none
    else some (0o240 ||| ((BitVec.ofNat 16 level &&& 0o7) <<< 9))

namespace Env

def corePollIrqAny (e : Env β) : M β (Option Word) := do
  match dcj11PirqPoll (← regs) with
  | some v => pure (some v)
  | none =>
    match e.host.pollIrq with
    | none => pure none
    | some poll => Program.onBus poll

/-- Poll once and enter the vector of an accepted request. Answers whether a vector was
    entered. -/
def serviceIrq (e : Env β) : M β Bool := do
  match ← e.corePollIrqAny with
  | none => pure false
  | some irqVector =>
    match irqAccept (← regs) irqVector with
    | none => pure false
    | some vec => do
      e.takeVectorHere vec
      pure true

/-- The J-11 keeps dispatching until nothing is pending, a request is refused or an entry
    aborts. -/
def irqLoop (e : Env β) : Nat → M β Unit
  | 0 => Program.fail .polling
  | k + 1 => do
    if !(← e.serviceIrq) then return
    if ← aborted then return
    e.irqLoop k

end Env

end K1801.Core
