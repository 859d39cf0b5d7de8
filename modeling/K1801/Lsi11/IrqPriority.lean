import K1801.Lsi11.Irq
import K1801.Core.Hwstub

/-! # Which request is dispatched

The core asks its own PIRQ register before it asks the board. Each of the two answers with
its highest ready request, so the answer is the highest of all unless the board holds a
source above every ready PIRQ level.
-/

namespace K1801.Lsi11

open Core Library

variable {δ : Type}

inductive Request (δ : Type) where
  | pirq (level : BitVec 3)
  | external (source : IrqSource δ)

namespace Request

def priority : Request δ → BitVec 3
  | pirq level => level
  | external s => s.priority

/-- The value handed to `irq_accept`. -/
def irqVector (r : Regs) : Request δ → Word
  | pirq level => 0o240 ||| (level.setWidth 16 <<< 9)
  | external s => encodeVec r s.vector s.priority

def ack : Request δ → δ → δ
  | pirq _, d => d
  | external s, d => s.ack d

/-- Pending, and not held back by PSW<7:5>. -/
def Ready (table : IrqTable δ) (r : Regs) (d : δ) : Request δ → Prop
  | pirq level => pirqRequested r.j11Pirq level ∧ levelMasked r level = false
  | external s => s ∈ table.sources ∧ s.pending d = true ∧ levelMasked r s.priority = false

/-- Ready, and nothing that is ready has a higher priority. -/
def Highest (table : IrqTable δ) (r : Regs) (d : δ) (req : Request δ) : Prop :=
  req.Ready table r d ∧ ∀ other : Request δ, other.Ready table r d → other.priority ≤ req.priority

end Request

/-- The request that `core_poll_irq_any` answers with. -/
def polledRequest (table : IrqTable δ) (r : Regs) (d : δ) : Option (Request δ) :=
  match dcj11PirqPoll r with
  | some _ => some (.pirq (BitVec.ofNat 3 (dcj11PirqHighestLevel r.j11Pirq)))
  | none => (irqGrant table r d).map .external

/-- A PIRQ level is ready, and a source above every ready level is ready too. -/
def SourceAbovePirq (table : IrqTable δ) (r : Regs) (d : δ) : Prop :=
  (∃ level, (Request.pirq level).Ready table r d) ∧
    ∃ s, (Request.external s).Ready table r d ∧
      ∀ level, (Request.pirq level).Ready table r d → level < s.priority

/-! ## PIRQ -/

theorem pswPri_toNat (r : Regs) : (pswPri r).toNat = ((r.psw >>> 5) &&& 0o7).toNat := by
  unfold pswPri
  rw [BitVec.toNat_setWidth, BitVec.toNat_and]
  exact (Nat.and_two_pow_sub_one_eq_mod _ 3).symm

theorem levelMasked_false {r : Regs} {level : BitVec 3} :
    levelMasked r level = false ↔ level = 0 ∨ (pswPri r).toNat < level.toNat := by
  simp only [levelMasked, Bool.and_eq_false_iff, decide_eq_false_iff_not, not_not, BitVec.le_def,
    not_le]

theorem dcj11PirqPoll_some {r : Regs} {v : Word} (h : dcj11PirqPoll r = some v) :
    let level := BitVec.ofNat 3 (dcj11PirqHighestLevel r.j11Pirq)
    pirqRequested r.j11Pirq level ∧ levelMasked r level = false ∧
      v = 0o240 ||| (level.setWidth 16 <<< 9) := by
  intro level
  unfold dcj11PirqPoll at h
  dsimp only at h
  split at h
  · cases h
  split at h
  · cases h
  split at h
  · cases h
  rename_i hne hgt
  cases h
  obtain ⟨hle, hreq⟩ := dcj11PirqHighestLevel_requested hne
  have hlevel : level.toNat = dcj11PirqHighestLevel r.j11Pirq := by
    show (BitVec.ofNat 3 _).toNat = _
    rw [BitVec.toNat_ofNat]
    omega
  refine ⟨hreq, levelMasked_false.2 (.inr ?_), ?_⟩
  · rw [hlevel, pswPri_toNat]
    omega
  · have hfield : BitVec.ofNat 16 (dcj11PirqHighestLevel r.j11Pirq) &&& 0o7 = level.setWidth 16 := by
      apply BitVec.eq_of_toNat_eq
      rw [BitVec.toNat_and, BitVec.toNat_setWidth, hlevel, BitVec.toNat_ofNat]
      have hand := Nat.and_two_pow_sub_one_eq_mod (dcj11PirqHighestLevel r.j11Pirq % 2 ^ 16) 3
      exact hand.trans (by omega)
    rw [hfield]

/-- PIRQ answers with its highest level. -/
theorem le_polledLevel {r : Regs} {level : BitVec 3}
    (hreq : pirqRequested r.j11Pirq level) :
    level ≤ BitVec.ofNat 3 (dcj11PirqHighestLevel r.j11Pirq) := by
  have hle := le_dcj11PirqHighestLevel hreq
  have hpos : level.toNat ≠ 0 := fun h0 => hreq.1 (BitVec.eq_of_toNat_eq h0)
  have hne : dcj11PirqHighestLevel r.j11Pirq ≠ 0 := by omega
  have hle7 := (dcj11PirqHighestLevel_requested hne).1
  rw [BitVec.le_def, BitVec.toNat_ofNat]
  omega

/-- The core asks the board only when no PIRQ level is ready. -/
theorem dcj11PirqPoll_none {r : Regs} (hmodel : r.model = .dcj11) (h : dcj11PirqPoll r = none)
    {level : BitVec 3} (hreq : pirqRequested r.j11Pirq level) : levelMasked r level = true := by
  have hle := le_dcj11PirqHighestLevel hreq
  have hpos : level.toNat ≠ 0 := fun h0 => hreq.1 (BitVec.eq_of_toNat_eq h0)
  unfold dcj11PirqPoll at h
  dsimp only at h
  rw [if_neg (not_not.2 hmodel), if_neg (by omega)] at h
  split at h
  · rename_i hmask
    rw [← pswPri_toNat] at hmask
    by_contra hfree
    rcases levelMasked_false.1 (Bool.eq_false_iff.2 hfree) with h0 | hlt
    · exact hreq.1 h0
    · omega
  · cases h

/-! ## Dispatch -/

theorem corePollIrqAny_run (h : Host δ) (table : IrqTable δ) (n : Nat) (m : Machine δ) :
    (Env.nested (withIrq h table) n).corePollIrqAny.run m =
      .done ((polledRequest table m.core m.bus).map (·.irqVector m.core))
        { m with bus := (polledRequest table m.core m.bus).elim m.bus (·.ack m.bus) } := by
  unfold Env.corePollIrqAny polledRequest
  rw [Env.nested_host]
  simp only [Program.run_bind, regs, Program.run_read, Outcome.andThen_done]
  cases hpirq : dcj11PirqPoll m.core with
  | some v =>
    obtain ⟨-, -, hv⟩ := dcj11PirqPoll_some hpirq
    rw [hv]
    rfl
  | none =>
    simp only [withIrq, Program.run_onBus, irqPoll]
    cases irqGrant table m.core m.bus <;> rfl

theorem candidate_dcj11 {r : Regs} (hmodel : r.model = .dcj11) {d : δ} {s : IrqSource δ} :
    s.candidate r d = true ↔ s.pending d = true ∧ levelMasked r s.priority = false := by
  simp [IrqSource.candidate, hmodel]

/-- The dispatched request is the highest ready one exactly when no ready source outranks
    the ready PIRQ levels. -/
theorem dispatched_highest_iff {h : Host δ} {table : IrqTable δ} {n : Nat} {m m' : Machine δ}
    {v : Word} (hmodel : m.core.model = .dcj11)
    (hpoll : (Env.nested (withIrq h table) n).corePollIrqAny.run m = .done (some v) m') :
    ∃ req : Request δ, polledRequest table m.core m.bus = some req ∧ v = req.irqVector m.core ∧
      m' = { m with bus := req.ack m.bus } ∧
      (req.Highest table m.core m.bus ↔ ¬ SourceAbovePirq table m.core m.bus) := by
  rw [corePollIrqAny_run] at hpoll
  cases hreq : polledRequest table m.core m.bus with
  | none =>
    rw [hreq] at hpoll
    cases hpoll
  | some req =>
    rw [hreq] at hpoll
    cases hpoll
    refine ⟨req, rfl, rfl, rfl, ?_⟩
    unfold polledRequest at hreq
    cases hpirq : dcj11PirqPoll m.core with
    | some v =>
      rw [hpirq] at hreq
      cases hreq
      obtain ⟨hpend, hfree, -⟩ := dcj11PirqPoll_some hpirq
      have hready : (Request.pirq (BitVec.ofNat 3 (dcj11PirqHighestLevel m.core.j11Pirq))).Ready
          table m.core m.bus := ⟨hpend, hfree⟩
      constructor
      · rintro ⟨-, hmax⟩ ⟨-, s, hs, habove⟩
        exact absurd (hmax (.external s) hs) (BitVec.not_le.2 (habove _ hready))
      · intro hnone
        refine ⟨hready, ?_⟩
        rintro (level | s) hother
        · exact le_polledLevel hother.1
        · by_contra hgt
          refine hnone ⟨⟨_, hready⟩, s, hother, fun level hlevel => ?_⟩
          exact Nat.lt_of_le_of_lt (le_polledLevel hlevel.1) (BitVec.not_le.1 hgt)
    | none =>
      rw [hpirq] at hreq
      obtain ⟨s, hgrant, rfl⟩ := Option.map_eq_some_iff.1 hreq
      obtain ⟨hmem, hcand, -, hmax⟩ := irqGrant_some hgrant
      obtain ⟨hpend, hfree⟩ := (candidate_dcj11 hmodel).1 hcand
      have hquiet : ∀ level, ¬ (Request.pirq level).Ready table m.core m.bus := by
        rintro level ⟨hlevel, hunmasked⟩
        rw [dcj11PirqPoll_none hmodel hpirq hlevel] at hunmasked
        cases hunmasked
      constructor
      · rintro - ⟨⟨level, hlevel⟩, -⟩
        exact hquiet level hlevel
      · intro _
        refine ⟨⟨hmem, hpend, hfree⟩, ?_⟩
        rintro (level | s') hother
        · exact absurd hother (hquiet level)
        · exact hmax s' hother.1 ((candidate_dcj11 hmodel).2 hother.2)

/-- One source that always requests at the highest level. -/
def urgentTable : IrqTable Memory := ⟨[⟨0o100, 7, fun _ => true, id⟩], by decide⟩

/-- A J-11 at priority 0 with a request at PIRQ level 1. -/
def pirqMachine : Machine Memory := ⟨{ model := .dcj11, j11Pirq := 0o1000 }, fun _ => 0, []⟩

theorem dispatched_highest_iff_noSources :
    ∃ req : Request Memory, polledRequest ⟨[], by decide⟩ pirqMachine.core pirqMachine.bus = some req ∧
      0o1240 = req.irqVector pirqMachine.core ∧
      pirqMachine = { pirqMachine with bus := req.ack pirqMachine.bus } ∧
      (req.Highest ⟨[], by decide⟩ pirqMachine.core pirqMachine.bus ↔
        ¬ SourceAbovePirq ⟨[], by decide⟩ pirqMachine.core pirqMachine.bus) :=
  dispatched_highest_iff (h := hwstub true) (n := 0) rfl rfl

/-- PIRQ level 1 is dispatched while a source of priority 7 waits. -/
theorem pirq1_before_source7 :
    (Env.nested (withIrq (hwstub true) urgentTable) 0).corePollIrqAny.run pirqMachine =
      .done (some 0o1240) pirqMachine ∧
    polledRequest urgentTable pirqMachine.core pirqMachine.bus = some (.pirq 1) ∧
    ¬ (Request.pirq 1).Highest urgentTable pirqMachine.core pirqMachine.bus := by
  refine ⟨rfl, rfl, ?_⟩
  rintro ⟨-, hmax⟩
  have hready : (Request.external ⟨0o100, 7, fun _ => true, id⟩).Ready urgentTable pirqMachine.core
      pirqMachine.bus := ⟨List.mem_singleton.2 rfl, rfl, rfl⟩
  have hle := hmax _ hready
  revert hle
  decide

end K1801.Lsi11
