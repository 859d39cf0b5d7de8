import K1801.Core.Execute

/-! # The step function

`coreStep` is `core_step`: service of the halt line and of WAIT, fetch, execution, and the
end of the step with the timer, trace trap, stack trap and interrupts. `Reachable` collects
the states of the emulator's runs.
-/

namespace K1801.Core

open Library

variable {β : Type}

namespace Env

/-- The halt line is taken: the VM2 ignores it in HALT mode. -/
def takeHalt (e : Env β) : M β Unit := do
  perform (.setHaltSignal false)
  let r ← regs
  perform (.setWait false)
  if r.model.isVm2 ∧ flagIsSet r.psw flagH then Program.leave
  else
    e.handleHalt
    Program.leave

/-- The halt line at the start of a step; answers `defer_halt`. -/
def haltAtStart (e : Env β) : M β Bool := do
  let r ← regs
  if !r.fHaltSignal then return false
  if r.model.isVm2 ∧ r.fStepDeferHalt then
    perform (.setDeferHalt false)
    return true
  if r.model = .k1801vm1 ∧ r.psw &&& 0o6000 ≠ 0 then
    perform (.setHaltSignal false)
    return false
  e.takeHalt
  return false

/-- A waiting processor runs nothing until a trace trap or an accepted request. -/
def waitAtStart (e : Env β) : M β Unit := do
  let r ← regs
  if !r.fWait then return
  Program.when (r.model = .dcj11 ∧ r.psw &&& flagT ≠ 0) (do
    perform (.setWait false)
    e.takeVectorHere 0o14
    Program.leave)
  match ← e.corePollIrqAny with
  | none => Program.leave
  | some irqVector =>
    match irqAccept (← regs) irqVector with
    | none => Program.leave
    | some vec => do
      perform (.setWait false)
      e.takeVectorHere vec
      Program.leave

/-- An abort that nothing more is to follow: clear it and leave the step. -/
def leaveClearingAbort : M β Unit := do
  Program.when (← aborted) (do
    perform (.setAbort false)
    Program.leave)

/-- The opcode. All models but the J-11 advance the PC even when the fetch aborts. -/
def fetch (e : Env β) : M β Word := do
  perform (.fetchBegin e.host.build)
  let fetchPc ← getR 7
  let isDcj11 : Bool := (← regs).model = .dcj11
  Program.when (!isDcj11) (setR 7 (fetchPc + 2))
  let op ← e.coreLoadWordIfetch fetchPc
  leaveClearingAbort
  perform (.ifetch fetchPc)
  perform (.setIr op)
  Program.when isDcj11 (do setR 7 ((← getR 7) + 2))
  return op

/-- `do_trace` -/
def doTrace (skipTrace : Bool) (l : Locals) (pswBefore : Word) : Bool :=
  match l.traceOverride with
  | some v => v
  | none => !(skipTrace || l.skipTrace) && pswBefore &&& flagT ≠ 0

/-- Interrupts at the end of an instruction. -/
def serviceIrqs (e : Env β) (k : Nat) : M β Unit := do
  if (← regs).model = .dcj11 then e.irqLoop k
  else do let _ ← e.serviceIrq

/-- Everything from the label `step_end` on. -/
def stepEnd (e : Env β) (k : Nat) (skipTrace deferHalt : Bool) (l : Locals) : M β Unit := do
  perform .tveTick
  let trace := doTrace skipTrace l (← regs).pswBefore
  Program.when (deferHalt ∧ (← regs).fHaltSignal) e.takeHalt
  Program.when trace (e.takeVectorHere 0o14)
  Program.when (← e.dcj11ServiceStackTrap) Program.leave
  Program.when (!trace ∧ !l.skipIrq) (e.serviceIrqs k)
  let r ← regs
  Program.when (r.model.isVm2 ∧ r.psw &&& flagHP ≠ flagHP) (perform .saveCopies)

def stepBody (e : Env β) (k : Nat) : M β Unit := do
  let skipTrace := (← regs).fTrap
  perform .stepBegin
  leaveClearingAbort
  let deferHalt ← e.haltAtStart
  e.waitAtStart
  let op ← e.fetch
  let l ← e.execute (.decode (← regs).model.isVm2 op)
  e.stepEnd k skipTrace deferHalt l

end Env

/-- `core_step` with room for `n` nested traps and `k` interrupt dispatches. -/
def coreStep (h : Host β) (n k : Nat) : M β Unit := Program.routine ((Env.nested h n).stepBody k)

/-! ## Reset -/

/-- The fields `core_reset` clears before it calls the reset callback. -/
def Regs.coreReset (b : Build) (r : Regs) : Regs :=
  let r := { r with
    spMode := fun _ => 0, spModeInit := false
    rsetBank := fun bank i => if i < 6 then 0 else r.rsetBank bank i, rsetBankInit := false
    dcj11YellowPending := false, dcj11StackTrapActive := false, dcj11ExplicitPswWrite := false
    dcj11VectorPushActive := false, dcj11VectorOldPc := 0, dcj11VectorOldPsw := 0, ir := 0
    j11Memerr := 0, j11Ccr := 0, j11Maint := 0, j11Hitmiss := 0, j11Cpuerr := 0, j11Pirq := 0
    j11Stklim := 0o400
    fWait := false, fTrap := false, fAbort := false, fHaltSignal := false, fStepDeferHalt := false
    fpu := { r.fpu with
      regDeltaMask := 0, regDelta := fun _ => 0, trapPending := false
      trapOldPc := 0, trapOldPsw := 0, backupPc := 0 } }
  if b.enableMmu then
    { r with mmu := { r.mmu with
      ssr0 := 0, ssr1 := 0, ssr2 := 0, ssr3 := 0, par := fun _ => 0, pdr := fun _ => 0 }
      }.mmuTlbFlushAll
  else r

/-- The last assignments of `core_reset`: start address, PSW and the direct RAM path. -/
def Regs.coreStart (pc : Word) (ramFast : Bool) (r : Regs) : Regs :=
  { r with
    r := Function.update r.r 7 pc, psw := 0o340
    ramFast := ramFast, ramFastSize := if ramFast then r.ramFastSize else 0 }

/-- `core_reset`. A reset starts a new log. The start address of a 1801VM1 is read through
    the bus. -/
def coreReset (h : Host β) (n : Nat) (m : Machine β) : Outcome Stuck (Machine β) Unit :=
  let r := m.core.coreReset h.build
  let reply := h.reset r m.bus
  let r := { r with
    j11Maint := reply.j11Maint, j11Hitmiss := reply.j11Hitmiss, sel0 := reply.sel0 }
  if r.model = .k1801vm1 then
    let r := { r with
      tveCsr := 0o177400, tveLimit := 0, tveCount := 0, tvePending := false, vm1RapPresent := true }
    (((Env.nested h n).coreLoadWord 0o177716).run ⟨r, reply.bus, []⟩).andThen fun v m =>
      .done () { m with core := m.core.coreStart (v &&& 0o177400) (h.ramptr m.bus) }
  else
    let pc := if r.model.isVm2 then r.sel0 &&& 0o177400 else 0
    .done () ⟨r.coreStart pc (h.ramptr reply.bus), reply.bus, []⟩

/-! ## Runs -/

/-- An access to memory from outside the processor's own instructions. -/
inductive MemoryAccess where
  | loadByte (va : Word)
  | loadWord (va : Word)
  | storeByte (va : Word) (value : Byte)
  | storeWord (va value : Word)
  | loadWordModeSpace (va : Word) (mode : BitVec 2) (dataSpace : Bool)
  | storeWordModeSpace (va value : Word) (mode : BitVec 2) (dataSpace : Bool)

def MemoryAccess.run (e : Env β) : MemoryAccess → M β Unit
  | loadByte va => do let _ ← e.coreLoadByte va
  | loadWord va => do let _ ← e.coreLoadWord va
  | storeByte va value => e.coreStoreByte va value
  | storeWord va value => e.coreStoreWord va value
  | loadWordModeSpace va mode dataSpace => do let _ ← e.coreLoadWordModeSpace va mode dataSpace
  | storeWordModeSpace va value mode dataSpace => e.coreStoreWordModeSpace va value mode dataSpace

/-- The states reached from a reset by steps and by memory accesses between them. -/
inductive Reachable (h : Host β) : Machine β → Prop
  | reset {m m' : Machine β} (n : Nat) : coreReset h n m = .done () m' → Reachable h m'
  | step {m m' : Machine β} (n k : Nat) :
      Reachable h m → (coreStep h n k).run m = .done () m' → Reachable h m'
  | access {m m' : Machine β} (n : Nat) (a : MemoryAccess) :
      Reachable h m → (a.run (Env.nested h n)).run m = .done () m' → Reachable h m'

/-- What reset establishes and every operation preserves holds of every reachable state. -/
theorem Reachable.invariant {h : Host β} {P : Regs → Prop}
    (reset : ∀ n m m', coreReset h n m = .done () m' → P m'.core)
    (step : ∀ op r, micro.enabled op r = true → P r → P (micro.apply op r))
    {m : Machine β} (hm : Reachable h m) : P m.core := by
  have run {p : M β Unit} {m m' : Machine β} (hp : p.run m = .done () m') (hm : P m.core) :
      P m'.core := by
    have hcore : P (p.run m).state.core := p.invariant step m hm
    rwa [hp] at hcore
  induction hm with
  | reset n hr => exact reset n _ _ hr
  | step n k _ hs ih => exact run hs ih
  | access n a _ ha ih => exact run ha ih

/-- A run of `core_step`. -/
inductive Steps (h : Host β) : Machine β → Machine β → Prop
  | refl (m : Machine β) : Steps h m m
  | step {m m' m'' : Machine β} (n k : Nat) :
      Steps h m m' → (coreStep h n k).run m' = .done () m'' → Steps h m m''

theorem Steps.moves {h : Host β} {m m' : Machine β} (hs : Steps h m m') : Moves micro m m' := by
  induction hs with
  | refl => exact .refl _
  | @step m₁ m₂ n k _ hstep ih =>
    have hmoves : Moves micro m₁ ((coreStep h n k).run m₁).state := (coreStep h n k).moves m₁
    rw [hstep] at hmoves
    exact ih.trans hmoves

end K1801.Core
