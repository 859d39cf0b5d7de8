import K1801.Core.Psw
import Mathlib.Tactic.SplitIfs

/-! # Reading the condition codes

The four flags of a PSW as booleans, and what an update of them leaves.
-/

namespace K1801.Core

structure CondCodes where
  n : Bool
  z : Bool
  v : Bool
  c : Bool
  deriving Repr, DecidableEq

def condCodes (psw : Word) : CondCodes :=
  ⟨flagIsSet psw flagN, flagIsSet psw flagZ, flagIsSet psw flagV, flagIsSet psw flagC⟩

theorem and_twoPow_ne_zero {w : Nat} (x : BitVec w) {i : Nat} (hi : i < w) :
    x &&& BitVec.twoPow w i ≠ 0 ↔ x.toNat / 2 ^ i % 2 = 1 := by
  have hne : BitVec.twoPow w i ≠ 0 := by
    intro hzero
    have hone := congrArg (fun x => x.getLsbD i) hzero
    simp [hi] at hone
  rw [BitVec.and_twoPow, ← decide_eq_true_iff (p := x.toNat / 2 ^ i % 2 = 1),
    ← Nat.testBit_eq_decide_div_mod_eq, BitVec.testBit_toNat]
  cases x.getLsbD i with
  | true => simpa using hne
  | false => simp

theorem flagIsSet_twoPow (psw : Word) (i : Nat) (hi : i < 16) :
    flagIsSet psw (BitVec.twoPow 16 i) = psw.getLsbD i := by
  unfold flagIsSet
  rw [BitVec.and_twoPow]
  cases hbit : psw.getLsbD i with
  | true => simp
  | false =>
    rw [if_neg (by decide), decide_eq_false_iff_not]
    intro hzero
    have hone := congrArg (fun x => x.getLsbD i) hzero
    simp [hi] at hone

theorem putFlag_bit (i j : Nat) (hj : j < 16) (v : Option Bool) (psw : Word) :
    (putFlag (BitVec.twoPow 16 i) v psw).getLsbD j = if j = i then v.getD (psw.getLsbD j) else psw.getLsbD j := by
  unfold putFlag
  cases v with
  | none => simp
  | some v =>
    cases v with
    | true =>
      by_cases heq : j = i
      · subst heq
        simp [hj]
      · simp [heq, Ne.symm heq]
    | false =>
      by_cases heq : j = i
      · subst heq
        simp [hj]
      · simp [heq, hj]

theorem putFlags_bit (n z v c : Option Bool) (psw : Word) (j : Nat) (hj : j < 16) :
    (putFlag flagC c (putFlag flagV v (putFlag flagZ z (putFlag flagN n psw)))).getLsbD j =
      if j = 0 then c.getD (psw.getLsbD j)
      else if j = 1 then v.getD (psw.getLsbD j)
      else if j = 2 then z.getD (psw.getLsbD j)
      else if j = 3 then n.getD (psw.getLsbD j)
      else psw.getLsbD j := by
  have hc : flagC = BitVec.twoPow 16 0 := by decide
  have hv : flagV = BitVec.twoPow 16 1 := by decide
  have hz : flagZ = BitVec.twoPow 16 2 := by decide
  have hn : flagN = BitVec.twoPow 16 3 := by decide
  rw [hc, hv, hz, hn]
  simp only [putFlag_bit _ _ hj]
  split_ifs <;> first | rfl | omega

theorem condCodes_bits (psw : Word) :
    condCodes psw = ⟨psw.getLsbD 3, psw.getLsbD 2, psw.getLsbD 1, psw.getLsbD 0⟩ := by
  have hc : flagC = BitVec.twoPow 16 0 := by decide
  have hv : flagV = BitVec.twoPow 16 1 := by decide
  have hz : flagZ = BitVec.twoPow 16 2 := by decide
  have hn : flagN = BitVec.twoPow 16 3 := by decide
  unfold condCodes
  rw [hc, hv, hz, hn]
  simp only [flagIsSet_twoPow _ _ (show 3 < 16 by decide), flagIsSet_twoPow _ _ (show 2 < 16 by decide),
    flagIsSet_twoPow _ _ (show 1 < 16 by decide), flagIsSet_twoPow _ _ (show 0 < 16 by decide)]

/-- An update sets, clears or keeps each flag. -/
theorem condCodes_setCc {r : Regs} (h : r.explicitPsw = false) (n z v c : Option Bool) :
    condCodes (r.setCc n z v c).psw =
      ⟨n.getD (condCodes r.psw).n, z.getD (condCodes r.psw).z, v.getD (condCodes r.psw).v,
        c.getD (condCodes r.psw).c⟩ := by
  unfold Regs.setCc
  rw [h, if_neg (by decide)]
  simp only [condCodes_bits, putFlags_bit _ _ _ _ _ _ (show 3 < 16 by decide),
    putFlags_bit _ _ _ _ _ _ (show 2 < 16 by decide), putFlags_bit _ _ _ _ _ _ (show 1 < 16 by decide),
    putFlags_bit _ _ _ _ _ _ (show 0 < 16 by decide)]
  rfl

/-- The other bits of the PSW stay. -/
theorem setCc_other (n z v c : Option Bool) (r : Regs) :
    (r.setCc n z v c).psw &&& ~~~ccMask = r.psw &&& ~~~ccMask := by
  unfold Regs.setCc
  split
  · rfl
  · apply BitVec.eq_of_getLsbD_eq
    intro j hj
    rw [BitVec.getLsbD_and, BitVec.getLsbD_and, putFlags_bit _ _ _ _ _ _ hj]
    have hmask : ∀ j : Fin 16, (~~~ccMask).getLsbD j.val = decide (4 ≤ j.val) := by decide
    rw [hmask ⟨j, hj⟩]
    by_cases hhigh : 4 ≤ j
    · rw [if_neg (by omega), if_neg (by omega), if_neg (by omega), if_neg (by omega)]
    · simp [hhigh]

theorem shifted_of_other {psw psw' : Word} (h : psw' &&& ~~~ccMask = psw &&& ~~~ccMask) {i : Nat}
    (hi : 4 ≤ i) : psw' >>> i = psw >>> i := by
  apply BitVec.eq_of_getLsbD_eq
  intro j hj
  rw [BitVec.getLsbD_ushiftRight, BitVec.getLsbD_ushiftRight]
  by_cases hin : i + j < 16
  · have hbit := congrArg (fun x => x.getLsbD (i + j)) h
    have hmask : ∀ k : Fin 16, 4 ≤ k.val → (~~~ccMask).getLsbD k.val = true := by decide
    simpa [hmask ⟨i + j, hin⟩ (by simp; omega)] using hbit
  · rw [BitVec.getLsbD_of_ge _ _ (by omega), BitVec.getLsbD_of_ge _ _ (by omega)]

theorem curMode_of_other {psw psw' : Word} (h : psw' &&& ~~~ccMask = psw &&& ~~~ccMask) :
    dcj11PswCurMode psw' = dcj11PswCurMode psw := by
  rw [dcj11PswCurMode, dcj11PswCurMode, mmuModeFromPsw, mmuModeFromPsw,
    shifted_of_other h (by decide : 4 ≤ 14)]

theorem prevMode_of_other {psw psw' : Word} (h : psw' &&& ~~~ccMask = psw &&& ~~~ccMask) :
    dcj11PswPrevModeMxpi psw' = dcj11PswPrevModeMxpi psw := by
  rw [dcj11PswPrevModeMxpi, dcj11PswPrevModeMxpi, shifted_of_other h (by decide : 4 ≤ 12)]

/-- The condition codes are all that is updated. -/
theorem setCc_fields (n z v c : Option Bool) (r : Regs) :
    r.setCc n z v c = { r with psw := (r.setCc n z v c).psw } := by
  unfold Regs.setCc
  split <;> rfl

end K1801.Core
