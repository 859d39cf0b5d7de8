import K1801.Library.Wraparound
import K1801.Core.ExplicitPsw

/-! # Exactness of the integer instructions

The results and condition codes of the integer instructions against unbounded arithmetic on the
operands.
-/

namespace K1801.Core

open Library Library.Wrap

/-! ## Bit patterns as numbers -/

/-- The least pattern with the sign set. -/
def DataType.half : DataType → Nat
  | word => 0o100000
  | byte => 0o200

section Patterns

variable {t : DataType} {x y : Word}

theorem toNat_sign (t : DataType) : t.sign.toNat = t.half := by cases t <;> rfl

theorem toNat_mask (t : DataType) : t.mask.toNat = 2 * t.half - 1 := by cases t <;> rfl

theorem toNat_mpi (t : DataType) : t.mpi.toNat = t.half - 1 := by cases t <;> rfl

theorem half_pos (t : DataType) : 0 < t.half := by cases t <;> decide

theorem half_le (t : DataType) : t.half ≤ 0o100000 := by cases t <;> decide

theorem toNat_and_mask (t : DataType) (x : Word) : (x &&& t.mask).toNat = x.toNat % (2 * t.half) := by
  have hx := x.isLt
  rw [BitVec.toNat_and, toNat_mask]
  cases t with
  | word => exact Nat.and_two_pow_sub_one_eq_mod x.toNat 16
  | byte => exact Nat.and_two_pow_sub_one_eq_mod x.toNat 8

theorem negative_iff (hx : x.toNat < 2 * t.half) : t.negative x = true ↔ t.half ≤ x.toNat := by
  unfold DataType.negative
  rw [decide_eq_true_iff]
  cases t with
  | word =>
    have hsign : DataType.word.sign = BitVec.twoPow 16 15 := by decide
    rw [hsign, and_twoPow_ne_zero x (by decide)]
    simp only [DataType.half] at hx ⊢
    omega
  | byte =>
    have hsign : DataType.byte.sign = BitVec.twoPow 16 7 := by decide
    rw [hsign, and_twoPow_ne_zero x (by decide)]
    simp only [DataType.half] at hx ⊢
    omega

theorem negative_eq (hx : x.toNat < 2 * t.half) : t.negative x = decide (t.half ≤ x.toNat) := by
  rw [Bool.eq_iff_iff, negative_iff hx, decide_eq_true_iff]

theorem low_bit (x : Word) : (x &&& 1 != 0) = decide (x.toNat % 2 = 1) := by
  have hbit := and_twoPow_ne_zero x (show 0 < 16 by decide)
  rw [Nat.pow_zero, Nat.div_one] at hbit
  rw [Bool.eq_iff_iff, bne_iff_ne, decide_eq_true_iff, ← hbit]
  rfl

theorem beq_eq (x y : Word) : (x == y) = decide (x.toNat = y.toNat) := by
  rw [Bool.eq_iff_iff, beq_iff_eq, decide_eq_true_iff, BitVec.toNat_eq]

end Patterns

/-! ## The instructions in unbounded arithmetic -/

/-- A result before it is wrapped, and the condition codes that do not follow from its sign. -/
structure Exact where
  value : Int
  v : Option Bool
  c : Option Bool

/-- The single-operand instructions on the pattern `x`, for patterns below `2 * h`. -/
def SingleOp.exact (h : Nat) (carry : Bool) (x : Nat) (s : SingleOp) : Exact :=
  let cin : Int := if carry then 1 else 0
  let shifted (value : Int) (c : Bool) : Exact := ⟨value, some (decide (h ≤ wrap h value) ^^ c), some c⟩
  match s with
  | .clr => ⟨0, some false, some false⟩
  | .com => ⟨2 * h - 1 - x, some false, some true⟩
  | .inc => ⟨x + 1, some (decide (Overflows h (signed h x + 1))), none⟩
  | .dec => ⟨x - 1, some (decide (Overflows h (signed h x - 1))), none⟩
  | .neg => ⟨-x, some (decide (Overflows h (-signed h x))), some (decide (Carries h (-x)))⟩
  | .adc => ⟨x + cin, some (decide (Overflows h (signed h x + cin))), some (decide (Carries h (x + cin)))⟩
  | .sbc => ⟨x - cin, some (decide (Overflows h (signed h x - cin))), some (decide (Carries h (x - cin)))⟩
  | .tst => ⟨x, some false, some false⟩
  | .asl => ⟨2 * x, some (decide (Overflows h (2 * signed h x))), some (decide (Carries h (2 * x)))⟩
  | .rol =>
    ⟨2 * x + cin, some (decide (Overflows h (2 * signed h x + cin))), some (decide (Carries h (2 * x + cin)))⟩
  | .asr => shifted (signed h x / 2) (decide (x % 2 = 1))
  | .ror => shifted ((x + 2 * h * cin) / 2) (decide (x % 2 = 1))

/-- The result is the exact one wrapped, and so are V and C. -/
structure AluResult.IsExact (h : Nat) (e : Exact) (res : AluResult) : Prop where
  value : res.value.toNat = wrap h e.value
  v : res.v = e.v
  c : res.c = e.c

section Single

variable {t : DataType} {x : Word}

theorem shiftLeft_or (x : Word) (c : Bool) :
    ((x <<< 1) ||| (if c then 1 else 0)).toNat = (2 * x.toNat + if c then 1 else 0) % 65536 := by
  have hdisjoint : (x <<< 1) &&& (if c then 1 else 0) = 0 := by
    have hlow : ((x <<< 1) &&& 1) = 0 := by
      apply BitVec.eq_of_getLsbD_eq
      intro i hi
      cases i <;> simp
    cases c with
    | true => exact hlow
    | false => exact BitVec.and_zero
  rw [← BitVec.add_eq_or_of_and_eq_zero _ _ hdisjoint, BitVec.toNat_add, BitVec.toNat_shiftLeft,
    Nat.shiftLeft_eq]
  cases c <;> simp <;> omega

theorem shiftRight_or (hx : x.toNat < 2 * t.half) (c : Bool) :
    ((x >>> 1) ||| (if c then t.sign else 0)).toNat = x.toNat / 2 + if c then t.half else 0 := by
  have hdisjoint : (x >>> 1) &&& (if c then t.sign else 0) = 0 := by
    have hlow : (x >>> 1) &&& t.sign = 0 := by
      have hsmall : (x >>> 1).toNat < t.half := by
        rw [BitVec.toNat_ushiftRight, Nat.shiftRight_eq_div_pow]
        omega
      by_contra hset
      have hnegative := (negative_iff (t := t) (by omega)).1 (decide_eq_true hset)
      omega
    cases c with
    | true => exact hlow
    | false => exact BitVec.and_zero
  rw [← BitVec.add_eq_or_of_and_eq_zero _ _ hdisjoint, BitVec.toNat_add, BitVec.toNat_ushiftRight]
  have hhalf := half_le t
  cases c with
  | true =>
    rw [if_pos rfl, if_pos rfl, toNat_sign, Nat.shiftRight_eq_div_pow]
    omega
  | false =>
    rw [if_neg (by decide), if_neg (by decide), Nat.shiftRight_eq_div_pow]
    simp
    omega

theorem sign_part (t : DataType) (x : Word) : x &&& t.sign = if t.negative x then t.sign else 0 := by
  obtain ⟨i, hi, hsign⟩ : ∃ i, i < 16 ∧ t.sign = BitVec.twoPow 16 i := by
    cases t with
    | word => exact ⟨15, by decide, by decide⟩
    | byte => exact ⟨7, by decide, by decide⟩
  unfold DataType.negative
  rw [hsign, BitVec.and_twoPow]
  cases hbit : x.getLsbD i <;> simp

/-- The value of every single-operand instruction. -/
theorem single_value (hx : x.toNat < 2 * t.half) (carry : Bool) (s : SingleOp) :
    (singleAlu t s carry x).value.toNat = wrap t.half (s.exact t.half carry x.toNat).value := by
  have hword := x.isLt
  cases s with
  | clr => rfl
  | tst => exact (wrap_of_lt hx).symm
  | com =>
    simp only [singleAlu, SingleOp.exact, toNat_and_mask, BitVec.toNat_not, wrap]
    cases t <;> simp only [DataType.half] at * <;> omega
  | inc =>
    simp only [singleAlu, SingleOp.exact, toNat_and_mask, BitVec.toNat_add, wrap]
    cases t <;> simp [DataType.half] at * <;> omega
  | dec =>
    simp only [singleAlu, SingleOp.exact, toNat_and_mask, BitVec.toNat_sub, wrap]
    cases t <;> simp [DataType.half] at * <;> omega
  | neg =>
    simp only [singleAlu, SingleOp.exact, toNat_and_mask, BitVec.toNat_sub, BitVec.toNat_add, toNat_mask, wrap]
    cases t <;> simp [DataType.half] at * <;> omega
  | adc =>
    simp only [singleAlu, SingleOp.exact, wrap]
    cases carry with
    | true =>
      rw [if_pos rfl, if_pos rfl, toNat_and_mask, BitVec.toNat_add]
      cases t <;> simp [DataType.half] at * <;> omega
    | false =>
      rw [if_neg (by decide), if_neg (by decide), Int.add_zero]
      exact (wrap_of_lt hx).symm
  | sbc =>
    simp only [singleAlu, SingleOp.exact, wrap]
    cases carry with
    | true =>
      rw [if_pos rfl, if_pos rfl, toNat_and_mask, BitVec.toNat_sub]
      cases t <;> simp [DataType.half] at * <;> omega
    | false =>
      rw [if_neg (by decide), if_neg (by decide), Int.sub_zero]
      exact (wrap_of_lt hx).symm
  | asl =>
    simp only [singleAlu, SingleOp.exact, toNat_and_mask, BitVec.toNat_shiftLeft, Nat.shiftLeft_eq, wrap]
    cases t <;> simp [DataType.half] at * <;> omega
  | rol =>
    simp only [singleAlu, SingleOp.exact, toNat_and_mask, shiftLeft_or, wrap]
    cases carry <;> cases t <;> simp [DataType.half] at * <;> omega
  | asr =>
    simp only [singleAlu, SingleOp.exact, sign_part]
    rw [BitVec.or_comm, shiftRight_or hx, negative_eq hx]
    by_cases hneg : x.toNat < t.half
    · rw [signed, if_pos hneg, if_neg (by simpa using hneg)]
      cases t <;> simp only [DataType.half, wrap] at * <;> omega
    · rw [signed, if_neg hneg, if_pos (by simpa using hneg)]
      cases t <;> simp only [DataType.half, wrap] at * <;> omega
  | ror =>
    simp only [singleAlu, SingleOp.exact, shiftRight_or hx, wrap]
    cases carry <;> cases t <;> simp [DataType.half] at * <;> omega

theorem singleAlu_lt (hx : x.toNat < 2 * t.half) (carry : Bool) (s : SingleOp) :
    (singleAlu t s carry x).value.toNat < 2 * t.half := by
  rw [single_value hx]
  exact wrap_lt (half_pos t)

/-- The result of NEG, spelled as the other operands' patterns are. -/
theorem neg_value (hx : x.toNat < 2 * t.half) :
    ((t.mask - x + 1) &&& t.mask).toNat = if x.toNat = 0 then 0 else 2 * t.half - x.toNat := by
  have hvalue := single_value hx false .neg
  simp only [singleAlu, SingleOp.exact] at hvalue
  rw [hvalue, wrap_neg hx]

theorem some_decide {p q : Prop} [Decidable p] [Decidable q] (h : p ↔ q) :
    some (decide p) = some (decide q) := congrArg some (decide_eq_decide.2 h)

theorem xor_decide (p q : Prop) [Decidable p] [Decidable q] :
    (decide p ^^ decide q) = decide (¬ (p ↔ q)) := by
  by_cases hp : p <;> by_cases hq : q <;> simp [hp, hq]

/-- C of every single-operand instruction. -/
theorem single_c (hx : x.toNat < 2 * t.half) (carry : Bool) (s : SingleOp) :
    (singleAlu t s carry x).c = (s.exact t.half carry x.toNat).c := by
  cases s with
  | clr | com | inc | dec | tst => rfl
  | neg =>
    simp only [singleAlu, SingleOp.exact, bne, beq_eq, neg_value hx, ← decide_not]
    refine some_decide ?_
    unfold Carries
    rw [show (0 : Word).toNat = 0 from rfl]
    split_ifs <;> omega
  | adc =>
    simp only [singleAlu, SingleOp.exact, beq_eq, toNat_mask]
    cases carry with
    | true =>
      rw [Bool.true_and]
      refine some_decide ?_
      unfold Carries
      rw [if_pos rfl]
      omega
    | false =>
      rw [Bool.false_and, if_neg (by decide), Int.add_zero, decide_eq_false (not_carries hx)]
  | sbc =>
    simp only [singleAlu, SingleOp.exact, beq_eq]
    cases carry with
    | true =>
      rw [Bool.true_and]
      refine some_decide ?_
      unfold Carries
      rw [if_pos rfl, show (0 : Word).toNat = 0 from rfl]
      omega
    | false =>
      rw [Bool.false_and, if_neg (by decide), Int.sub_zero, decide_eq_false (not_carries hx)]
  | asl =>
    simp only [singleAlu, SingleOp.exact, negative_eq hx]
    refine some_decide ?_
    unfold Carries
    omega
  | rol =>
    simp only [singleAlu, SingleOp.exact, negative_eq hx]
    refine some_decide ?_
    unfold Carries
    split_ifs <;> omega
  | asr | ror => simp only [singleAlu, SingleOp.exact, low_bit]

/-- V of every single-operand instruction. -/
theorem single_v (hx : x.toNat < 2 * t.half) (carry : Bool) (s : SingleOp) :
    (singleAlu t s carry x).v = (s.exact t.half carry x.toNat).v := by
  have hpos := half_pos t
  have hvalue := single_value hx carry s
  have hsmall := singleAlu_lt hx carry s
  cases s with
  | clr | com | tst => rfl
  | inc =>
    simp only [singleAlu, SingleOp.exact, beq_eq, toNat_mpi]
    refine some_decide ?_
    unfold Overflows signed
    split_ifs <;> omega
  | dec =>
    simp only [singleAlu, SingleOp.exact, beq_eq, toNat_sign]
    refine some_decide ?_
    unfold Overflows signed
    split_ifs <;> omega
  | neg =>
    simp only [singleAlu, SingleOp.exact, beq_eq, toNat_sign, neg_value hx]
    refine some_decide ?_
    unfold Overflows signed
    split_ifs <;> omega
  | adc =>
    simp only [singleAlu, SingleOp.exact, beq_eq, toNat_mpi]
    cases carry with
    | true =>
      rw [Bool.true_and]
      refine some_decide ?_
      unfold Overflows signed
      rw [if_pos rfl]
      split_ifs <;> omega
    | false =>
      rw [Bool.false_and, if_neg (by decide), Int.add_zero, decide_eq_false (not_overflows hx)]
  | sbc =>
    simp only [singleAlu, SingleOp.exact, beq_eq, toNat_sign]
    cases carry with
    | true =>
      rw [Bool.true_and]
      refine some_decide ?_
      unfold Overflows signed
      rw [if_pos rfl]
      split_ifs <;> omega
    | false =>
      rw [Bool.false_and, if_neg (by decide), Int.sub_zero, decide_eq_false (not_overflows hx)]
  | asl =>
    simp only [singleAlu, SingleOp.exact] at hvalue hsmall ⊢
    have hdouble := overflows_double_iff hx (b := 0) (by decide)
    simp only [Int.natCast_zero, Int.add_zero] at hdouble
    rw [negative_eq hsmall, negative_eq hx, hvalue, xor_decide]
    exact some_decide hdouble.symm
  | rol =>
    simp only [singleAlu, SingleOp.exact] at hvalue hsmall ⊢
    have hdouble := overflows_double_iff hx (b := if carry then 1 else 0) (by split_ifs <;> decide)
    have hcast : ((if carry then 1 else 0 : Nat) : Int) = if carry then 1 else 0 := by cases carry <;> rfl
    rw [hcast] at hdouble
    rw [negative_eq hsmall, negative_eq hx, hvalue, xor_decide]
    exact some_decide hdouble.symm
  | asr | ror =>
    simp only [singleAlu, SingleOp.exact, low_bit] at hvalue hsmall ⊢
    rw [negative_eq hsmall, hvalue]

theorem singleAlu_exact (hx : x.toNat < 2 * t.half) (carry : Bool) (s : SingleOp) :
    (singleAlu t s carry x).IsExact t.half (s.exact t.half carry x.toNat) :=
  ⟨single_value hx carry s, single_v hx carry s, single_c hx carry s⟩

end Single

/-! ## Two operands -/

section Double

variable {t : DataType} {src dst : Word}

def Exact.sum (h x y : Nat) : Exact :=
  ⟨x + y, some (decide (Overflows h (signed h x + signed h y))), some (decide (Carries h (x + y)))⟩

def Exact.difference (h x y : Nat) : Exact :=
  ⟨x - y, some (decide (Overflows h (signed h x - signed h y))), some (decide (Carries h (x - y)))⟩

theorem carry_bit {x : Dword} (hx : x.toNat < 4 * t.half) :
    (x &&& t.carry != 0) = decide (2 * t.half ≤ x.toNat) := by
  rw [Bool.eq_iff_iff, bne_iff_ne, decide_eq_true_iff]
  cases t with
  | word =>
    have hcarry : DataType.word.carry = BitVec.twoPow 32 16 := by decide
    rw [hcarry, and_twoPow_ne_zero x (by decide)]
    simp only [DataType.half] at hx ⊢
    omega
  | byte =>
    have hcarry : DataType.byte.carry = BitVec.twoPow 32 8 := by decide
    rw [hcarry, and_twoPow_ne_zero x (by decide)]
    simp only [DataType.half] at hx ⊢
    omega

theorem carry_clear {x : Dword} (hx : x.toNat < 4 * t.half) :
    (x &&& t.carry == 0) = decide (x.toNat < 2 * t.half) := by
  have hnot : (x &&& t.carry == 0) = !(x &&& t.carry != 0) := (Bool.not_not _).symm
  rw [hnot, carry_bit hx, ← decide_not]
  exact decide_eq_decide.2 Nat.not_le

theorem same_and_changed (p q r : Prop) [Decidable p] [Decidable q] [Decidable r] :
    (decide p == decide q && decide p != decide r) = decide ((p ↔ q) ∧ ¬ (p ↔ r)) := by
  by_cases hp : p <;> by_cases hq : q <;> by_cases hr : r <;> simp [hp, hq, hr]

theorem other_and_same (p q r : Prop) [Decidable p] [Decidable q] [Decidable r] :
    (decide p != decide q && decide q == decide r) = decide (¬ (p ↔ q) ∧ (q ↔ r)) := by
  by_cases hp : p <;> by_cases hq : q <;> by_cases hr : r <;> simp [hp, hq, hr]

theorem not_small (hx : src.toNat < 2 * t.half) :
    (~~~src &&& t.mask).toNat = 2 * t.half - 1 - src.toNat := by
  have hword := src.isLt
  rw [toNat_and_mask, BitVec.toNat_not]
  cases t <;> simp only [DataType.half] at * <;> omega

theorem addAlu_exact (src dst : Word) :
    (addAlu src dst).IsExact DataType.word.half (.sum DataType.word.half src.toNat dst.toNat) := by
  have hsrc : src.toNat < 2 * DataType.word.half := src.isLt
  have hdst : dst.toNat < 2 * DataType.word.half := dst.isLt
  have hsum : (src.setWidth 32 + dst.setWidth 32 : Dword).toNat = src.toNat + dst.toNat := by
    simp only [BitVec.toNat_add, BitVec.toNat_setWidth, DataType.half] at *
    omega
  have hvalue : (addAlu src dst).value.toNat = wrap DataType.word.half (src.toNat + dst.toNat) := by
    rw [wrap_add hsrc hdst]
    simp only [addAlu, BitVec.toNat_setWidth, hsum]
    split_ifs with hlt <;> simp only [DataType.half] at hlt ⊢ <;> omega
  have hneg : DataType.word.negative (addAlu src dst).value = _ :=
    negative_eq (addAlu src dst).value.isLt
  rw [hvalue] at hneg
  refine ⟨hvalue, ?_, ?_⟩
  · change some (DataType.word.negative src == DataType.word.negative dst &&
      DataType.word.negative src != DataType.word.negative (addAlu src dst).value) = _
    rw [hneg, negative_eq hsrc, negative_eq hdst, same_and_changed]
    exact some_decide (overflows_add_iff hsrc hdst).symm
  · change some (_ &&& DataType.word.carry != 0) = _
    rw [carry_bit (by omega), hsum]
    refine some_decide ?_
    unfold Carries
    omega

theorem compareAlu_exact (hsrc : src.toNat < 2 * t.half) (hdst : dst.toNat < 2 * t.half) :
    (compareAlu t src dst).IsExact t.half (.difference t.half src.toNat dst.toNat) := by
  have hhalf := half_le t
  have hsum : (src.setWidth 32 + (~~~dst &&& t.mask).setWidth 32 + 1 : Dword).toNat =
      src.toNat + 2 * t.half - dst.toNat := by
    have hnot := not_small hdst
    simp only [BitVec.toNat_add, BitVec.toNat_setWidth, hnot]
    cases t <;> simp [DataType.half] at * <;> omega
  have hvalue : (compareAlu t src dst).value.toNat = wrap t.half (src.toNat - dst.toNat) := by
    simp only [compareAlu, toNat_and_mask, BitVec.toNat_setWidth, hsum]
    rw [wrap_sub hsrc hdst]
    cases t <;> simp [DataType.half] at * <;> split_ifs <;> omega
  have hsmall : (compareAlu t src dst).value.toNat < 2 * t.half := by
    rw [hvalue]
    exact wrap_lt (half_pos t)
  have hneg := negative_eq hsmall
  rw [hvalue] at hneg
  refine ⟨hvalue, ?_, ?_⟩
  · change some (t.negative src != t.negative dst &&
      t.negative dst == t.negative (compareAlu t src dst).value) = _
    rw [hneg, negative_eq hsrc, negative_eq hdst, other_and_same]
    exact some_decide (overflows_sub_iff hsrc hdst).symm
  · change some (_ &&& t.carry == 0) = _
    rw [carry_clear (by omega), hsum]
    refine some_decide ?_
    unfold Carries
    omega

theorem subAlu_eq (src dst : Word) : subAlu src dst = compareAlu .word dst src := by
  have hmask (x : Word) : x &&& DataType.word.mask = x := BitVec.and_allOnes
  have hsame (p q r : Bool) : (p != q && p == r) = (q != p && p == r) := by
    cases p <;> cases q <;> rfl
  unfold subAlu compareAlu
  dsimp only
  rw [hmask, hmask, hsame]

end Double

end K1801.Core
