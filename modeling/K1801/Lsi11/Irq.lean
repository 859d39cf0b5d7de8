import K1801.Library.Best
import K1801.Core.Traps
import Mathlib.Data.Nat.Basic

/-! # The interrupt sources of the board

`irqPoll` is the `poll_irq` callback. It chooses among the pending sources and clears the
request of the one it grants.
-/

namespace K1801.Lsi11

open Core Library

/-- `irq_source_t`; the priority is 0..7. -/
structure IrqSource (δ : Type) where
  vector : Word
  priority : BitVec 3
  pending : δ → Bool
  ack : δ → δ

/-- `g_irq`, in the order of registration. -/
structure IrqTable (δ : Type) where
  sources : List (IrqSource δ)
  fits : sources.length ≤ 32

variable {δ : Type}

/-- `(psw >> 5) & 07` -/
def pswPri (r : Regs) : BitVec 3 := (r.psw >>> 5).setWidth 3

/-- A level that PSW<7:5> holds back; priority 0 is never held back. -/
def levelMasked (r : Regs) (level : BitVec 3) : Bool := level ≠ 0 && level ≤ pswPri r

def encodeVec (r : Regs) (v : Word) (pri : BitVec 3) : Word :=
  if r.model = .dcj11 then v ||| (pri.setWidth 16 <<< 9) else v

/-- A source that takes part in the choice. -/
def IrqSource.candidate (r : Regs) (d : δ) (s : IrqSource δ) : Bool :=
  s.pending d && !(r.model == .dcj11 && levelMasked r s.priority)

def IrqSource.rank (s : IrqSource δ) : Nat := s.priority.toNat

/-- The loop of `irq_poll`: the first pending source of the highest priority. -/
def irqSelect (table : IrqTable δ) (r : Regs) (d : δ) : Option (IrqSource δ) :=
  bestOf (IrqSource.candidate r d) IrqSource.rank table.sources

/-- The mask rules of the other models, applied after the choice. -/
def irqRefused (r : Regs) (v : Word) : Bool :=
  match r.model with
  | .k1801vm1 =>
    if r.psw &&& 0o1000 ≠ 0 then true
    else if v = 0o160002 then r.psw &&& 0o2000 ≠ 0
    else r.psw &&& 0o200 ≠ 0
  | .k1801vm2 | .k1806vm2 => r.psw &&& 0o200 ≠ 0
  | .dcj11 => false

/-- The source that `irq_poll` acknowledges. -/
def irqGrant (table : IrqTable δ) (r : Regs) (d : δ) : Option (IrqSource δ) :=
  (irqSelect table r d).filter fun s => !irqRefused r s.vector

def irqPoll (table : IrqTable δ) (r : Regs) (d : δ) : Option Word × δ :=
  match irqGrant table r d with
  | none => (none, d)
  | some s => (some (encodeVec r s.vector s.priority), s.ack d)

/-- A host whose interrupt requests come from the table. -/
def withIrq (h : Host δ) (table : IrqTable δ) : Host δ := { h with pollIrq := some (irqPoll table) }

/-! ## The granted source -/

theorem irqGrant_some {table : IrqTable δ} {r : Regs} {d : δ} {s : IrqSource δ}
    (h : irqGrant table r d = some s) :
    s ∈ table.sources ∧ s.candidate r d = true ∧ irqRefused r s.vector = false ∧
      ∀ s' ∈ table.sources, s'.candidate r d = true → s'.rank ≤ s.rank := by
  obtain ⟨hsel, hnot⟩ := Option.filter_eq_some_iff.1 h
  have hbest : IsBest (IrqSource.candidate r d) IrqSource.rank table.sources (irqSelect table r d) :=
    isBest_bestOf ..
  rw [hsel] at hbest
  cases hbest with
  | some hmem hok hmax => exact ⟨hmem, hok, by simpa using hnot, hmax⟩

theorem irqGrant_dcj11 {table : IrqTable δ} {r : Regs} (hmodel : r.model = .dcj11) (d : δ) :
    irqGrant table r d = irqSelect table r d := by
  have hnot : ∀ v, irqRefused r v = false := by
    intro v
    unfold irqRefused
    rw [hmodel]
  unfold irqGrant
  cases irqSelect table r d with
  | none => rfl
  | some s => simp [hnot]

/-! ## Software requests -/

/-- The request bit of a level 1..7 is set. -/
def pirqRequested (pirq : Word) (level : BitVec 3) : Prop :=
  level ≠ 0 ∧ pirq.getLsbD (8 + level.toNat) = true

theorem pirq_testBit (pirq : Word) (i : Nat) :
    (pirq &&& dcj11PirqRw).toNat.testBit i = (pirq.getLsbD i && decide (9 ≤ i)) := by
  have hmask : ∀ j : Fin 16, dcj11PirqRw.getLsbD j = decide (9 ≤ j.val) := by decide
  show (pirq &&& dcj11PirqRw).getLsbD i = _
  rw [BitVec.getLsbD_and]
  by_cases hi : i < 16
  · rw [hmask ⟨i, hi⟩]
  · rw [BitVec.getLsbD_of_ge pirq i (by omega), Bool.false_and, Bool.false_and]

theorem le_dcj11PirqHighestLevel {pirq : Word} {level : BitVec 3} (h : pirqRequested pirq level) :
    level.toNat ≤ dcj11PirqHighestLevel pirq := by
  have hpos : level.toNat ≠ 0 := fun h0 => h.1 (BitVec.eq_of_toNat_eq h0)
  have hbit : (pirq &&& dcj11PirqRw).toNat.testBit (8 + level.toNat) = true := by
    rw [pirq_testBit, h.2, decide_eq_true (by omega)]
    rfl
  have hge := Nat.ge_two_pow_of_testBit hbit
  have hne : pirq &&& dcj11PirqRw ≠ 0 := by
    intro h0
    rw [h0] at hge
    exact absurd hge (Nat.not_le.2 (Nat.two_pow_pos _))
  have hlog : 8 + level.toNat ≤ (pirq &&& dcj11PirqRw).toNat.log2 :=
    (Nat.le_log2 fun h0 => hne (BitVec.eq_of_toNat_eq h0)).2 hge
  unfold dcj11PirqHighestLevel
  dsimp only
  rw [if_neg hne]
  omega

theorem dcj11PirqHighestLevel_requested {pirq : Word} (h : dcj11PirqHighestLevel pirq ≠ 0) :
    dcj11PirqHighestLevel pirq ≤ 7 ∧
      pirqRequested pirq (BitVec.ofNat 3 (dcj11PirqHighestLevel pirq)) := by
  unfold dcj11PirqHighestLevel at h ⊢
  dsimp only at h ⊢
  split at h
  · exact absurd rfl h
  · rename_i hne
    rw [if_neg hne]
    have hne' : (pirq &&& dcj11PirqRw).toNat ≠ 0 := fun h0 => hne (BitVec.eq_of_toNat_eq h0)
    have hbit := Nat.testBit_log2 hne'
    have hlt := (Nat.log2_lt hne').2 (pirq &&& dcj11PirqRw).isLt
    rw [pirq_testBit, Bool.and_eq_true, decide_eq_true_eq] at hbit
    have hlevel : (BitVec.ofNat 3 ((pirq &&& dcj11PirqRw).toNat.log2 - 8)).toNat =
        (pirq &&& dcj11PirqRw).toNat.log2 - 8 := by
      rw [BitVec.toNat_ofNat]
      omega
    refine ⟨by omega, ?_, ?_⟩
    · intro h0
      rw [h0] at hlevel
      exact h hlevel.symm
    · rw [hlevel, show 8 + ((pirq &&& dcj11PirqRw).toNat.log2 - 8) = (pirq &&& dcj11PirqRw).toNat.log2
        by omega]
      exact hbit.1

end K1801.Lsi11
