import K1801.Lsi11.IrqPriority
import K1801.Core.TrapEntry

/-! # Delivery of an acknowledged interrupt

`irq_poll` clears a device's request when it grants it, and the core then accepts the request a
second time and enters its vector. The two acceptances agree; the entry itself can fail.
-/

namespace K1801.Lsi11

open Core Library

variable {δ : Type}

/-! ## The vector word -/

theorem and_eq_self {v mask : Word} (h : v &&& ~~~mask = 0) : v &&& mask = v := by
  have hcover : mask ||| ~~~mask = BitVec.allOnes 16 := BitVec.or_not_self mask
  calc v &&& mask = (v &&& mask) ||| (v &&& ~~~mask) := by rw [h]; exact BitVec.or_zero.symm
    _ = v &&& (mask ||| ~~~mask) := BitVec.and_or_distrib_left.symm
    _ = v := by rw [hcover, BitVec.and_allOnes]

/-- The vector field of a request on a J-11. -/
theorem vectorField (v : Word) (pri : BitVec 3) :
    ((v ||| (pri.setWidth 16 <<< 9)) &&& 0o777) &&& 0o17776 = v &&& 0o776 := by
  have hpri : ∀ p : BitVec 3, (p.setWidth 16 <<< 9) &&& (0o776 : Word) = 0 := by decide
  have hmask : (0o777 : Word) &&& 0o17776 = 0o776 := rfl
  rw [BitVec.and_assoc, hmask, BitVec.and_or_distrib_right, hpri]
  exact BitVec.or_zero

theorem high_bits_zero {v : Word} (h : v < 0o1000) : v >>> 9 = 0 := by
  have hlt : v.toNat < 0o1000 := h
  apply BitVec.eq_of_toNat_eq
  rw [BitVec.toNat_ushiftRight, Nat.shiftRight_eq_div_pow]
  exact Nat.div_eq_of_lt hlt

/-- An even vector survives the nine-bit field exactly when it is below 01000. -/
theorem vectorField_eq_self {v : Word} (heven : v &&& 1 = 0) : v &&& 0o776 = v ↔ v < 0o1000 := by
  constructor
  · intro h
    have hle : (v &&& 0o776).toNat ≤ 0o776 := by
      rw [BitVec.toNat_and]
      exact Nat.and_le_right
    rw [h] at hle
    exact Nat.lt_of_le_of_lt hle (by decide)
  · intro h
    have hlt : v.toNat < 0o1000 := h
    have hlow : v &&& 0o777 = v := by
      apply BitVec.eq_of_toNat_eq
      rw [BitVec.toNat_and]
      exact (Nat.and_two_pow_sub_one_eq_mod v.toNat 9).trans (Nat.mod_eq_of_lt hlt)
    have hmask : (0o777 : Word) &&& 0o177776 = 0o776 := rfl
    rw [← hmask, ← BitVec.and_assoc, hlow]
    exact and_eq_self heven

/-- The priority field of a request with a nine-bit vector. -/
theorem priorityField {v : Word} (h : v < 0o1000) (pri : BitVec 3) :
    ((v ||| (pri.setWidth 16 <<< 9)) >>> 9) &&& 0o7 = pri.setWidth 16 := by
  have hpri : ∀ p : BitVec 3, ((p.setWidth 16 <<< 9) >>> 9) &&& (0o7 : Word) = p.setWidth 16 := by decide
  have hzero : (0 : Word) ||| (pri.setWidth 16 <<< 9) >>> 9 = (pri.setWidth 16 <<< 9) >>> 9 := BitVec.zero_or
  rw [BitVec.ushiftRight_or_distrib, high_bits_zero h, hzero, hpri]

theorem pswPri_setWidth (r : Regs) : (r.psw >>> 5) &&& 0o7 = (pswPri r).setWidth 16 := by
  apply BitVec.eq_of_toNat_eq
  rw [← pswPri_toNat, BitVec.toNat_setWidth]
  omega

/-! ## The second acceptance -/

/-- `irq_accept` returns the vector of a granted source, except that a J-11 keeps only nine bits
    of it. -/
theorem irqAccept_granted {table : IrqTable δ} {r : Regs} {d : δ} {s : IrqSource δ}
    (hgrant : irqGrant table r d = some s) (heven : s.vector &&& 1 = 0) :
    irqAccept r (encodeVec r s.vector s.priority) = some s.vector ↔
      (r.model = .dcj11 → s.vector < 0o1000) := by
  obtain ⟨-, hcand, hfree, -⟩ := irqGrant_some hgrant
  have hself : s.vector &&& 0o177776 = s.vector := and_eq_self heven
  cases hmodel : r.model with
  | k1801vm1 =>
    simp only [irqRefused, hmodel] at hfree
    have h10 : r.psw &&& 0o1000 = 0 := by
      by_contra h
      rw [if_pos h] at hfree
      cases hfree
    rw [if_neg (not_not.2 h10)] at hfree
    suffices h : (s.vector = 0o160002 → r.psw &&& 0o2000 = 0) ∧
        (¬ s.vector = 0o160002 → flagIsSet r.psw flagP = false) by
      simpa [irqAccept, encodeVec, hmodel] using ⟨h10, h.1, h.2, hself⟩
    constructor
    · intro hv
      rw [if_pos hv] at hfree
      simpa using hfree
    · intro hv
      rw [if_neg hv] at hfree
      have hclear : r.psw &&& flagP = 0 := by simpa using hfree
      unfold flagIsSet
      rw [hclear]
      rfl
  | k1801vm2 | k1806vm2 =>
    simp only [irqRefused, hmodel] at hfree
    have hclear : r.psw &&& flagP = 0 := by simpa using hfree
    simpa [irqAccept, encodeVec, hmodel, Model.isVm2] using ⟨hclear, hself⟩
  | dcj11 =>
    have hmasked := ((candidate_dcj11 hmodel).1 hcand).2
    suffices h : (((s.vector ||| (s.priority.setWidth 16 <<< 9)) >>> 9) &&& 0o7 ≠ 0 →
          (r.psw >>> 5) &&& (0o7 : Word) <
            ((s.vector ||| (s.priority.setWidth 16 <<< 9)) >>> 9) &&& 0o7) ∧
        s.vector &&& 0o776 = s.vector ↔ s.vector < 0o1000 by
      rw [← vectorField s.vector s.priority] at h
      simpa [irqAccept, encodeVec, hmodel, Model.isVm2] using h
    rw [vectorField_eq_self heven]
    refine ⟨fun h => h.2, fun h => ⟨fun hne => ?_, h⟩⟩
    rw [priorityField h] at hne ⊢
    rw [pswPri_setWidth]
    rcases levelMasked_false.1 hmasked with h0 | hlt
    · rw [h0] at hne
      exact absurd rfl hne
    · rw [BitVec.lt_def, BitVec.toNat_setWidth, BitVec.toNat_setWidth]
      omega

/-! ## Polling points -/

/-- Where a step polls for requests: at the end of an instruction, and while it waits. -/
inductive PollPoint where
  | instructionEnd
  | waiting
  deriving Repr, DecidableEq

namespace PollPoint

def service (e : Env δ) : PollPoint → M δ Unit
  | instructionEnd => do let _ ← e.serviceIrq
  | waiting => e.waitAtStart

/-- The poll takes place: a waiting J-11 takes its trace trap first. -/
def Polls (r : Regs) : PollPoint → Prop
  | instructionEnd => True
  | waiting => r.fWait = true ∧ ¬ (r.model = .dcj11 ∧ r.psw &&& flagT ≠ 0)

/-- The state in which the vector of an accepted source is entered. -/
def entry (m : Machine δ) (s : IrqSource δ) : PollPoint → Machine δ
  | instructionEnd => { m with bus := s.ack m.bus }
  | waiting => Machine.after { m with bus := s.ack m.bus } (.setWait false)

end PollPoint

/-- `irq_poll` is asked, and acknowledges `s`. -/
def Acknowledges (table : IrqTable δ) (m : Machine δ) (s : IrqSource δ) : Prop :=
  dcj11PirqPoll m.core = none ∧ irqGrant table m.core m.bus = some s

/-- The core accepts `s` and the service ends in its vector. -/
structure Delivers (e : Env δ) (point : PollPoint) (m : Machine δ) (s : IrqSource δ) : Prop where
  accepted : irqAccept m.core (encodeVec m.core s.vector s.priority) = some s.vector
  taken : ∃ m', (Program.routine (point.service e)).run m = .done () m' ∧
    e.Takes s.vector (point.entry m s) m'

theorem service_run {h : Host δ} {table : IrqTable δ} {n : Nat} {m : Machine δ} {s : IrqSource δ}
    {point : PollPoint} (hpolls : point.Polls m.core) (hack : Acknowledges table m s)
    (haccept : irqAccept m.core (encodeVec m.core s.vector s.priority) = some s.vector) (m' : Machine δ) :
    (Program.routine (point.service (Env.nested (withIrq h table) n))).run m = .done () m' ↔
      ((Env.nested (withIrq h table) n).takeVectorHere s.vector).run (point.entry m s) =
        .done () m' := by
  have hpoll : (Env.nested (withIrq h table) n).corePollIrqAny.run m =
      .done (some (encodeVec m.core s.vector s.priority)) { m with bus := s.ack m.bus } := by
    have hreq : polledRequest table m.core m.bus = some (.external s) := by
      unfold polledRequest
      rw [hack.1, hack.2]
      rfl
    rw [corePollIrqAny_run, hreq]
    rfl
  have hnoexit (m₁ m₂ : Machine δ) :
      ((Env.nested (withIrq h table) n).takeVectorHere s.vector).run m₁ ≠ .exit m₂ :=
    takeVectorHere_returns
  cases point with
  | instructionEnd =>
    simp only [PollPoint.service, Env.serviceIrq, Program.run_routine, Program.run_bind, hpoll,
      Outcome.andThen_done, regs, Program.run_read, haccept, PollPoint.entry]
    generalize ho : ((Env.nested (withIrq h table) n).takeVectorHere s.vector).run _ = o
    cases o with
    | done => rfl
    | exit => exact absurd ho (hnoexit _ _)
    | stuck => simp [Outcome.catchExit]
  | waiting =>
    obtain ⟨hwait, htrace⟩ := hpolls
    have hclear (m₁ : Machine δ) :
        (perform (.setWait false) : M δ Unit).run m₁ = .done () (m₁.after (.setWait false)) :=
      run_perform_enabled rfl
    simp only [PollPoint.service, Env.waitAtStart, Program.run_routine, Program.run_bind,
      Outcome.andThen_done, regs, Program.run_read, PollPoint.entry, hwait, htrace, Bool.not_true,
      Bool.false_eq_true, if_false, Program.run_when, hpoll, haccept, hclear]
    generalize ho : ((Env.nested (withIrq h table) n).takeVectorHere s.vector).run _ = o
    cases o with
    | done => rfl
    | exit => exact absurd ho (hnoexit _ _)
    | stuck => simp [Outcome.catchExit]

/-! ## Delivery -/

/-- An acknowledged source is delivered exactly when its vector fits a J-11's vector field and the
    entry through it is answered, which takes that no abort is pending. -/
theorem acknowledged_delivered_iff {h : Host δ} {table : IrqTable δ} {n : Nat} {m : Machine δ}
    {s : IrqSource δ} {point : PollPoint} (hpolls : point.Polls m.core) (hack : Acknowledges table m s)
    (heven : ∀ s ∈ table.sources, s.vector &&& 1 = 0) :
    Delivers (Env.nested (withIrq h table) n) point m s ↔
      (m.core.model = .dcj11 → s.vector < 0o1000) ∧ m.core.fAbort = false ∧
        (Env.nested (withIrq h table) n).EntryAnswered s.vector (point.entry m s) := by
  have hvector := irqAccept_granted hack.2 (heven s (irqGrant_some hack.2).1)
  constructor
  · rintro ⟨haccept, m', hrun, htakes⟩
    have hentry := takeVectorHere_takes.1 ⟨m', (service_run hpolls hack haccept m').1 hrun, htakes⟩
    obtain ⟨psw, pc, m₁, m₂, m₃, m₄, hfetch, -⟩ := id hentry
    have hclear := hfetch.clear_before ((nested_keepsAbort _ n).coreLoadWordVector _)
    refine ⟨hvector.1 haccept, ?_, hentry⟩
    cases point <;> exact hclear
  · rintro ⟨hfits, -, hentry⟩
    have haccept := hvector.2 hfits
    obtain ⟨m', hrun, htakes⟩ := takeVectorHere_takes.2 hentry
    exact ⟨haccept, m', (service_run hpolls hack haccept m').2 hrun, htakes⟩

/-- A device that keeps its request in a cell of memory no instruction reaches. -/
def requestCell : Nat := 0o200000

def lineSource : IrqSource Memory where
  vector := 0o100
  priority := 4
  pending mem := mem requestCell ≠ 0
  ack mem := Function.update mem requestCell 0

def lineTable : IrqTable Memory := ⟨[lineSource], by decide⟩

/-- An idle J-11 with the device's request up. -/
def requestMachine : Machine Memory :=
  ⟨{ model := .dcj11, r := fun _ => 0o2000 }, Function.update (fun _ => 0) requestCell 1, []⟩

theorem acknowledged_delivered_iff_idle :
    Delivers (Env.nested (withIrq (hwstub true) lineTable) 1) .instructionEnd requestMachine lineSource ↔
      (Model.dcj11 = .dcj11 → (0o100 : Word) < 0o1000) ∧ false = false ∧
        (Env.nested (withIrq (hwstub true) lineTable) 1).EntryAnswered 0o100
          (PollPoint.instructionEnd.entry requestMachine lineSource) :=
  acknowledged_delivered_iff trivial ⟨rfl, rfl⟩ (by decide)

/-- The same J-11 about to run `RTS PC` with an odd stack pointer. -/
def rtsMachine : Machine Memory where
  core := { model := .dcj11, r := fun i => if i = 6 then 0o1001 else 0o2000 }
  bus := Function.update (Memory.ofWords 0o2000 [0o207]) requestCell 1

/-- What the step of `rtsMachine` ends in. -/
def rtsMachineAfter : Machine Memory :=
  ((coreStep (withIrq (hwstub true) lineTable) 3 2).run rtsMachine).state

def rtsAborted : Machine Memory :=
  (((Env.nested (withIrq (hwstub true) lineTable) 3).rts 7).run rtsMachine).state

def entersVector (vec : Word) : Micro → Bool
  | .enterVector v _ _ => v = vec
  | _ => false

/-- The pop of `RTS` aborts, the step goes on to poll, and the request is cleared without any entry
    through its vector. -/
theorem request_lost_after_aborted_rts :
    (coreStep (withIrq (hwstub true) lineTable) 3 2).run rtsMachine = .done () rtsMachineAfter ∧
    rtsMachine.bus requestCell = 1 ∧ rtsMachineAfter.bus requestCell = 0 ∧
    (∀ op ∈ rtsMachineAfter.log, entersVector lineSource.vector op = false) ∧
    Acknowledges lineTable rtsAborted lineSource ∧
    ¬ Delivers (Env.nested (withIrq (hwstub true) lineTable) 3) .instructionEnd rtsAborted lineSource := by
  refine ⟨rfl, rfl, rfl, by decide, ⟨rfl, rfl⟩, ?_⟩
  rintro ⟨-, m', hrun, htakes⟩
  have hclear := htakes.clear
  cases hrun
  cases hclear

end K1801.Lsi11
