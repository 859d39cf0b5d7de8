import Mathlib.Logic.Function.Iterate
import Mathlib.Data.Nat.Basic

/-! # Arithmetic shifts one bit at a time

A shift by several places is that many shifts by one place. Each of them gives up one bit and may
change the sign, and both are remembered.
-/

namespace K1801.Library

/-- A word under shift: whether its sign has changed on the way, and the last bit it gave up. -/
structure Shift (w : Nat) where
  value : BitVec w
  signChanged : Bool := false
  lastOut : Bool := false
  deriving Repr, DecidableEq

namespace Shift

variable {w : Nat}

def left (s : Shift w) : Shift w :=
  ⟨s.value <<< 1, s.signChanged || (s.value <<< 1).msb != s.value.msb, s.value.msb⟩

def right (s : Shift w) : Shift w :=
  ⟨s.value.sshiftRight 1, s.signChanged || (s.value.sshiftRight 1).msb != s.value.msb,
    s.value.getLsbD 0⟩

@[simp] theorem left_value (s : Shift w) : s.left.value = s.value <<< 1 := rfl

@[simp] theorem left_signChanged (s : Shift w) :
    s.left.signChanged = (s.signChanged || (s.value <<< 1).msb != s.value.msb) := rfl

@[simp] theorem left_lastOut (s : Shift w) : s.left.lastOut = s.value.msb := rfl

@[simp] theorem right_value (s : Shift w) : s.right.value = s.value.sshiftRight 1 := rfl

@[simp] theorem right_signChanged (s : Shift w) : s.right.signChanged = s.signChanged := by
  unfold right
  dsimp only
  rw [BitVec.msb_sshiftRight, bne_self_eq_false, Bool.or_false]

@[simp] theorem right_lastOut (s : Shift w) : s.right.lastOut = s.value.getLsbD 0 := rfl

/-- The arithmetic shift by a signed count: to the left when it is positive. -/
def arith (x : BitVec w) (n : Int) : Shift w :=
  if 0 ≤ n then left^[n.toNat] ⟨x, false, false⟩ else right^[(-n).toNat] ⟨x, false, false⟩

theorem arith_left (x : BitVec w) (k : Nat) : arith x k = left^[k] ⟨x, false, false⟩ := by
  unfold arith
  rw [if_pos (Int.natCast_nonneg k), Int.toNat_natCast]

theorem arith_right (x : BitVec w) {k : Nat} (hk : 0 < k) :
    arith x (-k) = right^[k] ⟨x, false, false⟩ := by
  unfold arith
  rw [if_neg (by omega), Int.neg_neg, Int.toNat_natCast]

/-! ## To the left -/

theorem iterate_left_value (x : BitVec w) (k : Nat) :
    (left^[k] (⟨x, false, false⟩ : Shift w)).value = x <<< k := by
  induction k with
  | zero => simp
  | succ k ih =>
    rw [Function.iterate_succ_apply', BitVec.shiftLeft_add, ← ih, left_value]

/-- The sign is kept as long as the bits that reach the sign position equal it. -/
theorem iterate_left_signChanged (x : BitVec w) (k : Nat) :
    (left^[k] (⟨x, false, false⟩ : Shift w)).signChanged = false ↔ ∀ j ≤ k, x.getMsbD j = x.msb := by
  induction k with
  | zero =>
    constructor
    · intro _ j hj
      rw [Nat.le_zero.1 hj]
      rfl
    · intro _
      rfl
  | succ k ih =>
    have hstep : (left^[k + 1] (⟨x, false, false⟩ : Shift w)).signChanged =
        ((left^[k] (⟨x, false, false⟩ : Shift w)).signChanged || x.getMsbD (k + 1) != x.getMsbD k) := by
      rw [Function.iterate_succ_apply', left_signChanged, iterate_left_value, ← BitVec.shiftLeft_add, BitVec.msb_shiftLeft, BitVec.msb_shiftLeft]
    rw [hstep, Bool.or_eq_false_iff, ih, bne_eq_false_iff_eq]
    constructor
    · rintro ⟨hkept, hnext⟩ j hj
      rcases Nat.le_succ_iff.1 hj with hle | rfl
      · exact hkept j hle
      · rw [hnext]
        exact hkept k (Nat.le_refl k)
    · intro hkept
      refine ⟨fun j hj => hkept j (Nat.le_succ_of_le hj), ?_⟩
      rw [hkept (k + 1) (Nat.le_refl _), hkept k (Nat.le_succ k)]

theorem iterate_left_lastOut (x : BitVec w) {k : Nat} (hk : 0 < k) :
    (left^[k] (⟨x, false, false⟩ : Shift w)).lastOut = x.getMsbD (k - 1) := by
  cases k with
  | zero => cases hk
  | succ k =>
    rw [Function.iterate_succ_apply', Nat.add_sub_cancel, left_lastOut, iterate_left_value,
      BitVec.msb_shiftLeft]

/-! ## To the right -/

theorem iterate_right_value (x : BitVec w) (k : Nat) :
    (right^[k] (⟨x, false, false⟩ : Shift w)).value = x.sshiftRight k := by
  induction k with
  | zero => simp
  | succ k ih =>
    rw [Function.iterate_succ_apply', BitVec.sshiftRight_add, ← ih, right_value]

theorem iterate_right_signChanged (x : BitVec w) (k : Nat) :
    (right^[k] (⟨x, false, false⟩ : Shift w)).signChanged = false := by
  induction k with
  | zero => rfl
  | succ k ih => rw [Function.iterate_succ_apply', right_signChanged, ih]

theorem iterate_right_lastOut (x : BitVec w) {k : Nat} (hk : 0 < k) :
    (right^[k] (⟨x, false, false⟩ : Shift w)).lastOut = (x.sshiftRight (k - 1)).getLsbD 0 := by
  cases k with
  | zero => cases hk
  | succ k =>
    rw [Function.iterate_succ_apply', Nat.add_sub_cancel, right_lastOut, iterate_right_value]

/-! ## Shifts done at once -/

theorem getLsbD_fill (b : Bool) {i : Nat} (hi : i < w) :
    (if b then BitVec.allOnes w else 0).getLsbD i = b := by
  cases b with
  | false => simp
  | true => simp [hi]

theorem getLsbD_fillAbove (b : Bool) (k : Nat) {i : Nat} (hi : i < w) :
    (if b then BitVec.allOnes w <<< k else 0).getLsbD i = (b && decide (k ≤ i)) := by
  cases b with
  | false => simp
  | true =>
    rw [if_pos rfl, BitVec.getLsbD_shiftLeft]
    by_cases hin : k ≤ i
    · simp [hi, hin, show i - k < w by omega]
    · simp [hin, show i < k by omega]

/-- The bits given up by a left shift are all copies of the sign the result has, exactly when the
    sign never changed. -/
theorem spill_eq_fill_iff {x : BitVec w} {k : Nat} (hk : k < w) :
    x.sshiftRight (w - k) = (if (x <<< k).msb then BitVec.allOnes w else 0) ↔
      ∀ j ≤ k, x.getMsbD j = x.msb := by
  rw [BitVec.msb_shiftLeft]
  constructor
  · intro heq
    have hbit : ∀ j ≤ k, x.getMsbD j = x.getMsbD k := by
      intro j hj
      rcases Nat.lt_or_eq_of_le hj with hlt | rfl
      · have hi := congrArg (BitVec.getLsbD · (k - 1 - j)) heq
        rw [getLsbD_fill _ (by omega), BitVec.getLsbD_sshiftRight, if_pos (by omega)] at hi
        rw [← hi, BitVec.getMsbD_eq_getLsbD]
        have hidx : w - k + (k - 1 - j) = w - 1 - j := by omega
        have hdone : ¬ w ≤ k - 1 - j := by omega
        simp [hidx, hdone, show j < w by omega]
      · rfl
    intro j hj
    rw [hbit j hj, ← hbit 0 (Nat.zero_le k)]
    rfl
  · intro hsame
    apply BitVec.eq_of_getLsbD_eq
    intro i hi
    rw [getLsbD_fill _ hi, hsame k (Nat.le_refl k), BitVec.getLsbD_sshiftRight]
    by_cases hin : w - k + i < w
    · rw [if_pos hin, ← hsame (k - 1 - i) (by omega), BitVec.getMsbD_eq_getLsbD]
      have hidx : w - 1 - (k - 1 - i) = w - k + i := by omega
      simp [hidx, show ¬ w ≤ i by omega, show k - 1 - i < w by omega]
    · rw [if_neg hin]
      simp [show ¬ w ≤ i by omega]

/-- A logical shift with the sign put into the freed places is an arithmetic shift. -/
theorem ushiftRight_or_fill {x : BitVec w} {k : Nat} (hk : k ≤ w) :
    (x >>> k) ||| (if x.msb then BitVec.allOnes w <<< (w - k) else 0) = x.sshiftRight k := by
  apply BitVec.eq_of_getLsbD_eq
  intro i hi
  rw [BitVec.getLsbD_or, BitVec.getLsbD_ushiftRight, BitVec.getLsbD_sshiftRight,
    getLsbD_fillAbove _ _ hi]
  by_cases hin : k + i < w
  · simp [hin, show ¬ w ≤ i by omega, show ¬ w - k ≤ i by omega]
  · simp [hin, show ¬ w ≤ i by omega, show w - k ≤ i by omega, show w ≤ k + i by omega]

end Shift

end K1801.Library
