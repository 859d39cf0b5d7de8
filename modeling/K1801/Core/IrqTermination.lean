import K1801.Library.BusMeasure
import K1801.Core.Hwstub
import K1801.Core.TrapEntry
import Mathlib.Logic.Relation

/-! # The end of the interrupt loop

A finite set of requests at the bus is used up by the dispatches that take one. A request in PIRQ stays,
so the loop ends when the processor priority masks it after it has been dispatched.
-/

namespace K1801.Core

open Library

variable {β : Type}

/-- The requests at the bus: polling takes one of them whenever it grants, and nothing that a dispatch
    does at the bus adds one. -/
structure FiniteRequests (h : Host β) (pending : β → Nat) : Prop where
  loadWord : ∀ r a b, pending (h.loadWord r a b).bus ≤ pending b
  storeWord : ∀ r a v b, pending (h.storeWord r a v b).bus ≤ pending b
  loadWordPa : ∀ f, h.loadWordPa = some f → ∀ r a b, pending (f r a b).bus ≤ pending b
  storeWordPa : ∀ f, h.storeWordPa = some f → ∀ r a v b, pending (f r a v b).bus ≤ pending b
  setRam : ∀ b i v, pending (h.setRam b i v) ≤ pending b
  granted : ∀ poll, h.pollIrq = some poll → ∀ r b, (poll r b).1 ≠ none → pending (poll r b).2 < pending b
  refused : ∀ poll, h.pollIrq = some poll → ∀ r b, (poll r b).1 = none → pending (poll r b).2 ≤ pending b

namespace Env

/-- The environment adds no request. -/
structure AddsNone (pending : β → Nat) (e : Env β) : Prop where
  requests : FiniteRequests e.host pending
  busErrorTrap : e.busErrorTrap.NeverRaises pending
  mmuFaultTrap : ∀ va pc fault apr, (e.mmuFaultTrap va pc fault apr).NeverRaises pending

namespace AddsNone

variable {pending : β → Nat} {e : Env β} {α : Type}

attribute [grind →] busErrorTrap
attribute [grind ←] mmuFaultTrap

@[grind ←] theorem regs : (Core.regs : M β Regs).NeverRaises pending := .read _

@[grind ←] theorem aborted : (Core.aborted : M β Bool).NeverRaises pending := .read _

@[grind ←] theorem getR (i : BitVec 3) : (Core.getR i : M β Word).NeverRaises pending := .read _

@[grind ←] theorem perform (op : Micro) : (Core.perform op : M β Unit).NeverRaises pending := .perform _

@[grind ←] theorem setR (i : BitVec 3) (v : Word) : (Core.setR i v : M β Unit).NeverRaises pending := .perform _

@[grind ←] theorem nxmTrap (he : e.AddsNone pending) (bits : Word) : (e.nxmTrap bits).NeverRaises pending := by
  unfold Env.nxmTrap
  grind

theorem callback (he : e.AddsNone pending) {f : Regs → β → Reply β α}
    (hf : ∀ r b, pending (f r b).bus ≤ pending b) : (e.callback f).NeverRaises pending := by
  unfold Env.callback
  refine .bind (.onBus hf) fun x => ?_
  grind

@[grind ←] theorem rawLoadWord (he : e.AddsNone pending) (a : Word) : (e.rawLoadWord a).NeverRaises pending :=
  he.callback fun r b => he.requests.loadWord r a b

@[grind ←] theorem rawStoreWord (he : e.AddsNone pending) (a v : Word) :
    (e.rawStoreWord a v).NeverRaises pending :=
  he.callback fun r b => he.requests.storeWord r a v b

@[grind ←] theorem rawLoadWordPhys (he : e.AddsNone pending) (pa : Dword) :
    (e.rawLoadWordPhys pa).NeverRaises pending := by
  unfold Env.rawLoadWordPhys
  refine .bind (.read _) fun r => ?_
  split
  · exact .pure _
  · refine .ite (he.rawLoadWord _) ?_
    split
    · next f hf => exact he.callback fun r b => he.requests.loadWordPa f hf r pa b
    · exact he.rawLoadWord _

@[grind ←] theorem rawStoreWordPhys (he : e.AddsNone pending) (pa : Dword) (v : Word) :
    (e.rawStoreWordPhys pa v).NeverRaises pending := by
  unfold Env.rawStoreWordPhys
  refine .bind (.read _) fun r => ?_
  split
  · exact .perform _
  · refine .ite (he.rawStoreWord _ _) ?_
    split
    · next f hf => exact he.callback fun r b => he.requests.storeWordPa f hf r pa v b
    · exact he.rawStoreWord _ _

@[grind ←] theorem ramWord (i : Nat) : (e.ramWord i).NeverRaises pending :=
  .bind (.read _) fun _ => .bind (.read _) fun _ => .pure _

@[grind ←] theorem setRamWord (he : e.AddsNone pending) (i : Nat) (v : Word) :
    (e.setRamWord i v).NeverRaises pending :=
  .bind (.onBus fun _ b => he.requests.setRam b _ _) fun _ => .onBus fun _ b => he.requests.setRam b _ _

@[grind ←] theorem addressError (he : e.AddsNone pending) : e.addressError.NeverRaises pending := by
  unfold Env.addressError
  grind

@[grind ←] theorem mmuFault (he : e.AddsNone pending) (va : Word) (f : MmuFault) (apr : Apr) :
    (e.mmuFault va f apr).NeverRaises pending := by
  unfold Env.mmuFault
  grind

@[grind ←] theorem translated (he : e.AddsNone pending) {va : Word} {apr : Regs → Apr}
    {tr : Regs → Except MmuFault Dword × Regs} {status : Micro} {refused : α} {k : Dword → M β α}
    (hk : ∀ pa, (k pa).NeverRaises pending) : (e.translated va apr tr status refused k).NeverRaises pending := by
  unfold Env.translated
  grind

@[grind ←] theorem coreStoreWord (he : e.AddsNone pending) (offset v : Word) :
    (e.coreStoreWord offset v).NeverRaises pending := by
  unfold Env.coreStoreWord Env.coreStoreWordEx
  grind

@[grind ←] theorem coreLoadWordModeSpace (he : e.AddsNone pending) (offset : Word) (mode : BitVec 2)
    (ds : Bool) : (e.coreLoadWordModeSpace offset mode ds).NeverRaises pending := by
  unfold Env.coreLoadWordModeSpace
  grind

@[grind ←] theorem coreLoadWordVector (he : e.AddsNone pending) (offset : Word) :
    (e.coreLoadWordVector offset).NeverRaises pending := by
  unfold Env.coreLoadWordVector
  grind

@[grind ←] theorem pushw (he : e.AddsNone pending) (v : Word) : (e.pushw v).NeverRaises pending := by
  unfold Env.pushw
  grind

@[grind ←] theorem coreTakeVector (he : e.AddsNone pending) (vec pc psw : Word) :
    (e.coreTakeVector vec pc psw).NeverRaises pending := by
  unfold Env.coreTakeVector
  refine .bind (he.coreLoadWordVector _) fun fetchedPsw => .bind (.read _) fun _ => .ite (.pure _) ?_
  refine .bind (he.coreLoadWordVector _) fun newPc => .bind (.read _) fun _ => .ite (.pure _) ?_
  refine .bind (.perform _) fun _ => .bind (.perform _) fun _ => ?_
  grind

@[grind ←] theorem takeVectorHere (he : e.AddsNone pending) (vec : Word) :
    (e.takeVectorHere vec).NeverRaises pending := by
  unfold Env.takeVectorHere
  grind

@[grind ←] theorem dcj11TakeRedStackAbort (he : e.AddsNone pending) :
    e.dcj11TakeRedStackAbort.NeverRaises pending := by
  unfold Env.dcj11TakeRedStackAbort
  refine .bind (.read _) fun r => .ite (.pure _) <| .bind (.perform _) fun _ => ?_
  refine .bind (he.rawLoadWordPhys _) fun vectorPsw => .bind (.read _) fun _ => .ite (.pure _) ?_
  refine .bind (.perform _) fun _ => .bind (.perform _) fun _ => ?_
  refine .bind (.read _) fun _ => .bind (.perform _) fun _ => ?_
  refine .bind (.read _) fun _ => .bind (he.rawStoreWordPhys _ _) fun _ => ?_
  refine .bind (.read _) fun _ => .ite (.pure _) <| .bind (.read _) fun _ => ?_
  refine .bind (.perform _) fun _ => .bind (.read _) fun _ => ?_
  refine .bind (he.rawStoreWordPhys _ _) fun _ => .bind (.read _) fun _ => .ite (.pure _) ?_
  grind

@[grind ←] theorem busError (he : e.AddsNone pending) : e.busError.NeverRaises pending := by
  unfold Env.busError
  grind

@[grind ←] theorem mmuAbort (he : e.AddsNone pending) (va pc : Word) (f : MmuFault) (apr : Apr) :
    (e.mmuAbort va pc f apr).NeverRaises pending := by
  unfold Env.mmuAbort
  grind

theorem nested {h : Host β} (hh : FiniteRequests h pending) (n : Nat) : (Env.nested h n).AddsNone pending := by
  induction n with
  | zero => exact ⟨hh, .fail _, fun _ _ _ _ => .fail _⟩
  | succ n ih => exact ⟨hh, ih.busError, ih.mmuAbort⟩

end AddsNone

/-- One turn of the loop dispatches a request and the loop goes on. -/
def Dispatches (e : Env β) (m m' : Machine β) : Prop := Answers e.serviceIrq m true m'

/-- Whenever a request of PIRQ has been dispatched, the processor priority masks what PIRQ requests. -/
def MasksPirq (e : Env β) (m : Machine β) : Prop :=
  ∀ m₁ m₂, Relation.ReflTransGen e.Dispatches m m₁ → e.Dispatches m₁ m₂ →
    dcj11PirqPoll m₁.core ≠ none → dcj11PirqPoll m₂.core = none

end Env

section Rounds

variable {pending : β → Nat} {e : Env β} {m m' : Machine β}

/-- Two for each request at the bus, and one for an unmasked PIRQ. -/
def turnsLeft (pending : β → Nat) (m : Machine β) : Nat :=
  2 * pending m.bus + if dcj11PirqPoll m.core = none then 0 else 1

theorem dispatches_decreases (he : e.AddsNone pending)
    (hmask : dcj11PirqPoll m.core ≠ none → dcj11PirqPoll m'.core = none) (h : e.Dispatches m m') :
    turnsLeft pending m' < turnsLeft pending m := by
  obtain ⟨hrun, -⟩ := h
  obtain ⟨request, m₁, hpoll, hrest⟩ := Program.bind_done.1 hrun
  cases request with
  | none => cases hrest
  | some irqVector =>
    obtain ⟨r, m₀, hregs, hrest⟩ := Program.bind_done.1 hrest
    cases hregs
    dsimp only at hrest
    split at hrest
    · cases hrest
    · next vec hvec =>
      obtain ⟨⟨⟩, m₂, htake, hlast⟩ := Program.bind_done.1 hrest
      cases hlast
      have hbus := he.takeVectorHere vec m₁
      rw [htake] at hbus
      unfold Env.corePollIrqAny at hpoll
      rw [Program.run_bind, regs, Program.run_read, Outcome.andThen_done] at hpoll
      unfold turnsLeft
      change pending m'.bus ≤ pending m₁.bus at hbus
      cases hpirq : dcj11PirqPoll m.core with
      | some v =>
        rw [hpirq] at hpoll
        cases hpoll
        rw [hmask (by rw [hpirq]; nofun), if_pos rfl, if_neg (by nofun)]
        omega
      | none =>
        rw [hpirq] at hpoll
        dsimp only at hpoll
        split at hpoll
        · cases hpoll
        · next poll hhost =>
          injection hpoll with hgrant hmachine
          have hless := he.requests.granted poll hhost m.core m.bus (by rw [hgrant]; nofun)
          rw [← hmachine] at hbus
          change pending m'.bus ≤ pending (poll m.core m.bus).2 at hbus
          split <;> split <;> omega

theorem Env.MasksPirq.next (hmask : e.MasksPirq m) (h : e.Dispatches m m') : e.MasksPirq m' :=
  fun m₁ m₂ hreach => hmask m₁ m₂ (hreach.head h)

/-- The loop ends after its last dispatch; only a dispatch whose trap entries nest without end keeps it
    from returning. -/
theorem irqLoop_ends (he : e.AddsNone pending)
    (hnest : e.Within (fun _ => True) fun ending _ => ending = some .nesting) (k : Nat) (hmask : e.MasksPirq m)
    (hk : turnsLeft pending m < k) :
    (∃ m', (e.irqLoop k).run m = .done () m') ∨ ∃ m', (e.irqLoop k).run m = .stuck .nesting m' := by
  induction k generalizing m with
  | zero => omega
  | succ k ih =>
    unfold Env.irqLoop
    rw [Program.run_bind]
    cases hrun : e.serviceIrq.run m with
    | exit m₁ => cases hnest.serviceIrq.leaves _ _ hrun
    | stuck reason m₁ =>
      cases hnest.serviceIrq.stuck _ _ _ hrun
      exact .inr ⟨m₁, rfl⟩
    | done dispatched m₁ =>
      rw [Outcome.andThen_done]
      cases dispatched with
      | false => exact .inl ⟨m₁, rfl⟩
      | true =>
        rw [if_neg (by decide), Program.run_bind, aborted, Program.run_read, Outcome.andThen_done]
        cases habort : m₁.core.fAbort with
        | true => exact .inl ⟨m₁, rfl⟩
        | false =>
          have hdispatch : e.Dispatches m m₁ := ⟨hrun, habort⟩
          have hless := dispatches_decreases he (hmask m m₁ .refl hdispatch) hdispatch
          rw [if_neg (by decide)]
          exact ih (hmask.next hdispatch) (by omega)

end Rounds

/-- A request of level 1 in PIRQ whose vector enters priority 7. -/
def maskedMachine : Machine Memory where
  core := { model := .dcj11, j11Pirq := 0o1000, r := fun i => if i = 6 then 0o1000 else 0 }
  bus := Memory.ofWords 0o240 [0, 0o340]

/-- After its one dispatch. -/
def servedMachine : Machine Memory := ((Env.nested (hwstub false) 1).serviceIrq.run maskedMachine).state

theorem maskedMachine_served {m : Machine Memory} (h : (Env.nested (hwstub false) 1).Dispatches maskedMachine m) :
    m = servedMachine := by
  have hrun : (Env.nested (hwstub false) 1).serviceIrq.run maskedMachine = .done true servedMachine := rfl
  exact (Outcome.done.inj (h.1.symm.trans hrun)).2

theorem servedMachine_last {m : Machine Memory} : ¬ (Env.nested (hwstub false) 1).Dispatches servedMachine m := by
  rintro ⟨hrun, -⟩
  have hlast : (Env.nested (hwstub false) 1).serviceIrq.run servedMachine = .done false servedMachine := rfl
  exact absurd (Outcome.done.inj (hrun.symm.trans hlast)).1 (by decide)

end K1801.Core
