import K1801.Core.State
import K1801.Library.Wraparound
import Mathlib.Tactic.IntervalCases

/-! # The arithmetic unit of the uJ11

One carry chain serves sums and differences of words and bytes; Boolean operations are a table of truth values, and
shifts are wired.
-/

namespace K1801.Uj11

open Core Library

/-- The inputs of `uj11_alu`. -/
structure Alu where
  a : Word
  b : Word
  operation : BitVec 4
  carry : Bool
  byteMode : Bool
  deriving Repr, DecidableEq

/-- One bit on every line of a word. -/
def spread (bit : Bool) : Word := if bit then ~~~0 else 0

def booleanTruth (op : BitVec 4) : BitVec 4 :=
  match op.toNat with
  | 0 => 0b1100
  | 1 => 0b1010
  | 6 => 0b1000
  | 7 => 0b1110
  | 8 => 0b0110
  | 9 => 0b0100
  | 10 => 0b0011
  | _ => 0

namespace Alu

def subtract (i : Alu) : Bool := i.operation.getLsbD 2

def carryIn (i : Alu) : Bool := (i.operation.getLsbD 0 && i.carry) ^^ i.subtract

def arithmeticB (i : Alu) : Word := i.b ^^^ spread i.subtract

def sum (i : Alu) : BitVec 17 :=
  i.a.setWidth 17 + i.arithmeticB.setWidth 17 + (BitVec.ofBool i.carryIn).setWidth 17

def carry8 (i : Alu) : Bool := i.sum.getLsbD 8 ^^ i.a.getLsbD 8 ^^ i.arithmeticB.getLsbD 8

def arithmetic (i : Alu) : Bool := i.operation >>> 1 == 1 || i.operation >>> 1 == 2

def left (i : Alu) : Bool := i.operation == 11 || i.operation == 14

def right (i : Alu) : Bool := i.operation == 12 || i.operation == 13 || i.operation == 15

def truth (i : Alu) : BitVec 4 := booleanTruth i.operation

/-- Each bit of A selects by B among the four truth values. -/
def logicValue (i : Alu) : Word :=
  (i.a &&& ((i.b &&& spread (i.truth.getLsbD 3)) ||| (~~~i.b &&& spread (i.truth.getLsbD 2)))) |||
    (~~~i.a &&& ((i.b &&& spread (i.truth.getLsbD 1)) ||| (~~~i.b &&& spread (i.truth.getLsbD 0))))

def leftValue (i : Alu) : Word := i.a.extractLsb' 0 15 ++ BitVec.ofBool (i.carry && i.operation == 14)

def rightSign (i : Alu) : Bool := (i.operation == 13 && i.a.getLsbD 15) || (i.operation == 15 && i.carry)

def rightByte (i : Alu) : Bool := (i.operation == 13 && i.a.getLsbD 7) || (i.operation == 15 && i.carry)

def rightValue (i : Alu) : Word :=
  BitVec.ofBool i.rightSign ++ i.a.extractLsb' 9 7 ++
    BitVec.ofBool (if i.byteMode then i.rightByte else i.a.getLsbD 8) ++ i.a.extractLsb' 1 7

def result (i : Alu) : Word :=
  if i.arithmetic then i.sum.setWidth 16
  else if i.left then i.leftValue
  else if i.right then i.rightValue
  else i.logicValue

def sa (i : Alu) : Bool := if i.byteMode then i.a.getLsbD 7 else i.a.getLsbD 15

def sb (i : Alu) : Bool := if i.byteMode then i.arithmeticB.getLsbD 7 else i.arithmeticB.getLsbD 15

def ss (i : Alu) : Bool := if i.byteMode then i.sum.getLsbD 7 else i.sum.getLsbD 15

def n (i : Alu) : Bool := if i.byteMode then i.result.getLsbD 7 else i.result.getLsbD 15

def c (i : Alu) : Bool :=
  (i.arithmetic && ((if i.byteMode then i.carry8 else i.sum.getLsbD 16) ^^ i.subtract)) ||
    (i.left && i.sa) || (i.right && i.a.getLsbD 0) || i.operation == 10

def v (i : Alu) : Bool :=
  if i.left || i.right then i.n ^^ i.c else i.arithmetic && !(i.sa ^^ i.sb) && (i.sa ^^ i.ss)

def z (i : Alu) : Bool := i.result.extractLsb' 0 8 == 0 && (i.byteMode || i.result.extractLsb' 8 8 == 0)

def nzvc (i : Alu) : BitVec 4 := BitVec.ofBool i.n ++ BitVec.ofBool i.z ++ BitVec.ofBool i.v ++ BitVec.ofBool i.c

end Alu

/-! ## What the operations mean -/

/-- A result at a width, with its flags. -/
structure Flagged where
  value : Nat
  n : Bool
  z : Bool
  v : Bool
  c : Bool
  deriving Repr, DecidableEq

namespace Flagged

/-- N and Z of a pattern below `2 * h`. -/
def ofPattern (h value : Nat) (v c : Bool) : Flagged :=
  { value := value, n := h ≤ value, z := value = 0, v := v, c := c }

/-- A sum or a difference, from its unsigned and its signed reading. -/
def ofSum (h : Nat) (unsigned signed : Int) : Flagged :=
  ofPattern h (Wrap.wrap h unsigned) (decide (Wrap.Overflows h signed)) (decide (Wrap.Carries h unsigned))

/-- A shift that gives up a bit: V is N xor C. -/
def ofShift (h value : Nat) (out : Bool) : Flagged :=
  ofPattern h value (decide (h ≤ value) ^^ out) out

/-- A Boolean operation, at the width of the patterns. -/
def ofWord (h : Nat) (value : Word) (c : Bool) : Flagged := ofPattern h (value.toNat % (2 * h)) false c

end Flagged

namespace Alu

/-- Half of the patterns of the width. -/
def half (i : Alu) : Nat := if i.byteMode then 128 else 32768

/-- The pattern of A at the width. -/
def lhs (i : Alu) : Nat := i.a.toNat % (2 * i.half)

/-- The pattern of B at the width. -/
def rhs (i : Alu) : Nat := i.b.toNat % (2 * i.half)

/-- The sixteen operations, over the integers. -/
def exact (i : Alu) : Flagged :=
  let h := i.half
  let x := i.lhs
  let y := i.rhs
  let k := i.carry.toNat
  match i.operation.toNat with
  | 0 => .ofWord h i.a false
  | 1 => .ofWord h i.b false
  | 2 => .ofSum h (x + y) (Wrap.signed h x + Wrap.signed h y)
  | 3 => .ofSum h (x + y + k) (Wrap.signed h x + Wrap.signed h y + k)
  | 4 => .ofSum h (x - y) (Wrap.signed h x - Wrap.signed h y)
  | 5 => .ofSum h (x - y - k) (Wrap.signed h x - Wrap.signed h y - k)
  | 6 => .ofWord h (i.a &&& i.b) false
  | 7 => .ofWord h (i.a ||| i.b) false
  | 8 => .ofWord h (i.a ^^^ i.b) false
  | 9 => .ofWord h (i.a &&& ~~~i.b) false
  | 10 => .ofWord h (~~~i.a) true
  | 11 => .ofShift h (Wrap.wrap h (2 * x)) (h ≤ x)
  | 12 => .ofShift h (x / 2) (x % 2 = 1)
  | 13 => .ofShift h (Wrap.wrap h (Wrap.signed h x / 2)) (x % 2 = 1)
  | 14 => .ofShift h (Wrap.wrap h (2 * x + k)) (h ≤ x)
  | _ => .ofShift h (x / 2 + k * h) (x % 2 = 1)

/-- The outputs, read at the width. -/
def outcome (i : Alu) : Flagged :=
  { value := i.result.toNat % (2 * i.half), n := i.n, z := i.z, v := i.v, c := i.c }

/-! ## Signs and carries -/

theorem sign8 (x : Word) : x.getLsbD 7 = decide (128 ≤ x.toNat % (2 * 128)) := by
  rw [BitVec.getLsbD, Nat.testBit_eq_decide_div_mod_eq]
  exact decide_eq_decide.mpr (by omega)

theorem sign16 (x : Word) : x.getLsbD 15 = decide (32768 ≤ x.toNat % (2 * 32768)) := by
  have hx := x.isLt
  rw [BitVec.getLsbD, Nat.testBit_eq_decide_div_mod_eq]
  exact decide_eq_decide.mpr (by omega)

/-- The top bit at the width is the sign of the pattern. -/
theorem sign_eq (i : Alu) (x : Word) :
    (if i.byteMode then x.getLsbD 7 else x.getLsbD 15) = decide (i.half ≤ x.toNat % (2 * i.half)) := by
  unfold half
  cases i.byteMode with
  | true => exact sign8 x
  | false => exact sign16 x

theorem n_eq (i : Alu) : i.n = decide (i.half ≤ i.result.toNat % (2 * i.half)) := i.sign_eq i.result

theorem z_eq (i : Alu) : i.z = decide (i.result.toNat % (2 * i.half) = 0) := by
  have hx := i.result.isLt
  have hlow : (i.result.extractLsb' 0 8 == 0) = decide (i.result.toNat % 256 = 0) := by
    show decide (i.result.extractLsb' 0 8 = 0) = _
    exact decide_eq_decide.mpr (by rw [← BitVec.toNat_inj, BitVec.extractLsb'_toNat]; simp)
  have hhigh : (i.result.extractLsb' 8 8 == 0) = decide (i.result.toNat / 256 = 0) := by
    show decide (i.result.extractLsb' 8 8 = 0) = _
    refine decide_eq_decide.mpr ?_
    rw [← BitVec.toNat_inj, BitVec.extractLsb'_toNat, Nat.shiftRight_eq_div_pow]
    show i.result.toNat / 256 % 256 = 0 ↔ _
    omega
  unfold z half
  rw [hlow, hhigh]
  cases i.byteMode with
  | true => exact Bool.and_true _
  | false =>
    rw [Bool.false_or, ← Bool.decide_and]
    exact decide_eq_decide.mpr (by simp only [Bool.false_eq_true, if_false]; omega)

/-- N and Z follow from the result. -/
theorem outcome_eq (i : Alu) :
    i.outcome = Flagged.ofPattern i.half (i.result.toNat % (2 * i.half)) i.v i.c := by
  unfold outcome Flagged.ofPattern
  rw [n_eq, z_eq]

/-- The second pattern of the carry chain. -/
def chainRhs (i : Alu) : Nat := if i.subtract then 2 * i.half - 1 - i.rhs else i.rhs

theorem arithmeticB_toNat (i : Alu) :
    i.arithmeticB.toNat = if i.subtract then 65535 - i.b.toNat else i.b.toNat := by
  unfold arithmeticB spread
  split
  · rw [show (~~~0 : Word) = BitVec.allOnes 16 from rfl, BitVec.xor_allOnes, BitVec.toNat_not]
  · rw [show (0 : Word) = 0#16 from rfl, BitVec.xor_zero]

theorem arithmeticB_low (i : Alu) : i.arithmeticB.toNat % (2 * i.half) = i.chainRhs := by
  have hb := i.b.isLt
  unfold chainRhs rhs half
  rw [arithmeticB_toNat]
  cases i.byteMode <;> split <;> simp only [Bool.false_eq_true, if_false, if_true] <;> omega

theorem sum_toNat (i : Alu) : i.sum.toNat = i.a.toNat + i.arithmeticB.toNat + i.carryIn.toNat := by
  have ha := i.a.isLt
  have hb := i.arithmeticB.isLt
  have hc := i.carryIn.toNat_le
  unfold sum
  rw [BitVec.toNat_add, BitVec.toNat_add, BitVec.toNat_setWidth, BitVec.toNat_setWidth, BitVec.toNat_setWidth,
    BitVec.toNat_ofBool]
  omega

theorem sum_low (i : Alu) :
    (i.sum.setWidth 16).toNat % (2 * i.half) = (i.lhs + i.chainRhs + i.carryIn.toNat) % (2 * i.half) := by
  rw [← arithmeticB_low, BitVec.toNat_setWidth, sum_toNat]
  unfold lhs half
  cases i.byteMode <;> simp only [Bool.false_eq_true, if_false, if_true] <;> omega

theorem xor_odd (p q : Nat) : (decide (p % 2 = 1) ^^ decide (q % 2 = 1)) = decide ((p + q) % 2 = 1) := by
  rcases Nat.mod_two_eq_zero_or_one p with hp | hp <;> rcases Nat.mod_two_eq_zero_or_one q with hq | hq
  all_goals
    rw [Nat.add_mod, hp, hq]
    rfl

/-- The carry of the width leaves the chain. -/
theorem chain_carry (i : Alu) :
    (if i.byteMode then i.carry8 else i.sum.getLsbD 16) =
      decide (2 * i.half ≤ i.lhs + i.chainRhs + i.carryIn.toNat) := by
  have ha := i.a.isLt
  have hb := i.arithmeticB.isLt
  rw [← arithmeticB_low]
  unfold carry8 lhs half BitVec.getLsbD
  rw [Nat.testBit_eq_decide_div_mod_eq, Nat.testBit_eq_decide_div_mod_eq, Nat.testBit_eq_decide_div_mod_eq,
    Nat.testBit_eq_decide_div_mod_eq, xor_odd, xor_odd, sum_toNat]
  have hc := i.carryIn.toNat_le
  cases i.byteMode <;> simp only [Bool.false_eq_true, if_false, if_true] <;>
    exact decide_eq_decide.mpr (by omega)

theorem lhs_lt (i : Alu) : i.lhs < 2 * i.half := by
  refine Nat.mod_lt _ ?_
  unfold half
  split <;> decide

theorem rhs_lt (i : Alu) : i.rhs < 2 * i.half := by
  refine Nat.mod_lt _ ?_
  unfold half
  split <;> decide

theorem sa_eq (i : Alu) : i.sa = decide (i.half ≤ i.lhs) := i.sign_eq i.a

theorem sb_eq (i : Alu) : i.sb = decide (i.half ≤ i.chainRhs) := by
  rw [← arithmeticB_low]
  exact i.sign_eq i.arithmeticB

theorem ss_eq (i : Alu) :
    i.ss = decide (i.half ≤ (i.lhs + i.chainRhs + i.carryIn.toNat) % (2 * i.half)) := by
  rw [← sum_low, ← sign_eq]
  unfold ss
  rw [BitVec.getLsbD_setWidth, BitVec.getLsbD_setWidth]
  rfl

/-! ## Sums and differences -/

/-- The path that the operation takes, and whether it is the complement. -/
structure Path (i : Alu) (arithmetic left right com : Bool) : Prop where
  arithmetic : i.arithmetic = arithmetic
  left : i.left = left
  right : i.right = right
  com : (i.operation == 10) = com

theorem path_of {i : Alu} {op : BitVec 4} (h : i.operation = op) {arithmetic left right com : Bool}
    (hop : (op >>> 1 == 1 || op >>> 1 == 2) = arithmetic ∧ (op == 11 || op == 14) = left ∧
      (op == 12 || op == 13 || op == 15) = right ∧ (op == 10) = com) :
    i.Path arithmetic left right com := by
  subst h
  exact ⟨hop.1, hop.2.1, hop.2.2.1, hop.2.2.2⟩

abbrev IsSum (i : Alu) : Prop := i.Path true false false false

theorem IsSum.value {i : Alu} (h : i.IsSum) :
    i.result.toNat % (2 * i.half) = (i.lhs + i.chainRhs + i.carryIn.toNat) % (2 * i.half) := by
  unfold result
  rw [if_pos h.arithmetic]
  exact i.sum_low

theorem IsSum.c {i : Alu} (h : i.IsSum) :
    i.c = (decide (2 * i.half ≤ i.lhs + i.chainRhs + i.carryIn.toNat) ^^ i.subtract) := by
  unfold Alu.c
  rw [h.arithmetic, h.left, h.right, h.com, chain_carry]
  simp only [Bool.true_and, Bool.false_and, Bool.or_false]

theorem IsSum.v {i : Alu} (h : i.IsSum) :
    i.v = decide ((i.half ≤ i.lhs ↔ i.half ≤ i.chainRhs) ∧
      ¬ (i.half ≤ i.lhs ↔ i.half ≤ (i.lhs + i.chainRhs + i.carryIn.toNat) % (2 * i.half))) := by
  unfold Alu.v
  rw [h.arithmetic, h.left, h.right, sa_eq, sb_eq, ss_eq]
  by_cases ha : i.half ≤ i.lhs <;> by_cases hb : i.half ≤ i.chainRhs <;>
    by_cases hs : i.half ≤ (i.lhs + i.chainRhs + i.carryIn.toNat) % (2 * i.half) <;>
    simp only [ha, hb, hs] <;> rfl

/-- Without complement, the chain adds. -/
theorem IsSum.add {i : Alu} (h : i.IsSum) (hs : i.subtract = false) :
    i.outcome = Flagged.ofSum i.half (i.lhs + i.rhs + i.carryIn.toNat)
      (Wrap.signed i.half i.lhs + Wrap.signed i.half i.rhs + i.carryIn.toNat) := by
  have hcarry : i.carryIn.toNat < 2 := by have := i.carryIn.toNat_le; omega
  have hrhs : i.chainRhs = i.rhs := by
    unfold chainRhs
    rw [hs]
    rfl
  rw [outcome_eq, h.value, h.v, h.c, hs, Bool.xor_false, hrhs]
  unfold Flagged.ofSum
  rw [Wrap.adder_value]
  congr 1
  · exact decide_eq_decide.mpr (Wrap.adder_overflows i.lhs_lt i.rhs_lt hcarry).symm
  · exact decide_eq_decide.mpr (Wrap.adder_carries _).symm

/-- With complement, the chain subtracts, and its carry in is the absence of a borrow. -/
theorem IsSum.sub {i : Alu} (h : i.IsSum) (hs : i.subtract = true) {b : Nat} (hb : b < 2)
    (hborrow : i.carryIn.toNat = 1 - b) :
    i.outcome = Flagged.ofSum i.half (i.lhs - i.rhs - b)
      (Wrap.signed i.half i.lhs - Wrap.signed i.half i.rhs - b) := by
  have hrhs : i.chainRhs = 2 * i.half - 1 - i.rhs := by
    unfold chainRhs
    rw [hs]
    rfl
  rw [outcome_eq, h.value, h.v, h.c, hs, Bool.xor_true, hrhs, hborrow]
  unfold Flagged.ofSum
  rw [Wrap.subtracter_value i.rhs_lt hb]
  congr 1
  · exact decide_eq_decide.mpr (Wrap.subtracter_overflows i.lhs_lt i.rhs_lt hb).symm
  · rw [← decide_not]
    exact decide_eq_decide.mpr (Wrap.subtracter_carries i.lhs_lt i.rhs_lt hb).symm

/-! ## Shifts -/

theorem toNat_append {m k : Nat} (x : BitVec m) (y : BitVec k) : (x ++ y).toNat = x.toNat * 2 ^ k + y.toNat := by
  rw [BitVec.toNat_append, ← Nat.shiftLeft_add_eq_or_of_lt y.isLt, Nat.shiftLeft_eq]

theorem toNat_extract (x : Word) (start len : Nat) :
    (x.extractLsb' start len).toNat = x.toNat / 2 ^ start % 2 ^ len := by
  rw [BitVec.extractLsb'_toNat, Nat.shiftRight_eq_div_pow]

theorem leftValue_toNat (i : Alu) :
    i.leftValue.toNat = i.a.toNat % 32768 * 2 + (i.carry && i.operation == 14).toNat := by
  unfold leftValue
  rw [toNat_append, toNat_extract, BitVec.toNat_ofBool]
  omega

theorem rightValue_toNat (i : Alu) :
    i.rightValue.toNat = (i.rightSign.toNat * 128 + i.a.toNat / 512 % 128) * 256 +
      (if i.byteMode then i.rightByte else i.a.getLsbD 8).toNat * 128 + i.a.toNat / 2 % 128 := by
  unfold rightValue
  rw [toNat_append, toNat_append, toNat_append, toNat_extract, toNat_extract, BitVec.toNat_ofBool, BitVec.toNat_ofBool]
  omega

/-- A left shift doubles, and gives up the sign. -/
theorem outcome_left {i : Alu} (h : i.Path false true false false) {b : Nat} (hb : (i.carry && i.operation == 14).toNat = b) :
    i.outcome = Flagged.ofShift i.half (Wrap.wrap i.half (2 * i.lhs + b)) (i.half ≤ i.lhs) := by
  obtain ⟨ha, hl, hr, hc⟩ := h
  have hbit : b < 2 := by have := (i.carry && i.operation == 14).toNat_le; omega
  have hcarry : i.c = decide (i.half ≤ i.lhs) := by
    unfold Alu.c
    rw [ha, hl, hr, hc, sa_eq]
    simp only [Bool.true_and, Bool.false_and, Bool.or_false, Bool.false_or]
  have hvalue : i.result.toNat % (2 * i.half) = Wrap.wrap i.half (2 * i.lhs + b) := by
    have hnat : (2 * (i.lhs : Int) + b) = ((2 * i.lhs + b : Nat) : Int) := by omega
    rw [hnat, Wrap.wrap_natCast]
    unfold result
    rw [if_neg (by rw [ha]; decide), if_pos hl, leftValue_toNat, hb]
    unfold lhs half
    cases i.byteMode <;> simp only [Bool.false_eq_true, if_false, if_true] <;> omega
  rw [outcome_eq, hvalue]
  unfold Flagged.ofShift Alu.v
  rw [n_eq, hvalue, hcarry, hl]
  rfl

/-- A right shift halves, takes a new sign, and gives up the low bit. -/
theorem outcome_right {i : Alu} (h : i.Path false false true false) {b : Nat}
    (hb : (if i.byteMode then i.rightByte else i.rightSign).toNat = b) :
    i.outcome = Flagged.ofShift i.half (i.lhs / 2 + b * i.half) (i.lhs % 2 = 1) := by
  obtain ⟨ha, hl, hr, hc⟩ := h
  have hlow : i.a.getLsbD 0 = decide (i.lhs % 2 = 1) := by
    rw [BitVec.getLsbD, Nat.testBit_eq_decide_div_mod_eq]
    refine decide_eq_decide.mpr ?_
    unfold lhs half
    cases i.byteMode <;> simp only [Bool.false_eq_true, if_false, if_true] <;> omega
  have hcarry : i.c = decide (i.lhs % 2 = 1) := by
    unfold Alu.c
    rw [ha, hl, hr, hc, hlow]
    simp only [Bool.true_and, Bool.false_and, Bool.or_false, Bool.false_or]
  have hbit8 : (i.a.getLsbD 8).toNat = i.a.toNat / 256 % 2 := by
    rw [BitVec.getLsbD, Nat.testBit_eq_decide_div_mod_eq]
    rcases Nat.mod_two_eq_zero_or_one (i.a.toNat / 2 ^ 8) with h | h
    · rw [h]
      exact h.symm
    · rw [h]
      exact h.symm
  have hvalue : i.result.toNat % (2 * i.half) = i.lhs / 2 + b * i.half := by
    have hsmall := i.a.isLt
    have hbit := Bool.toNat_le (if i.byteMode then i.rightByte else i.rightSign)
    have hbyte := i.rightByte.toNat_le
    have hsign := i.rightSign.toNat_le
    unfold result
    rw [if_neg (by rw [ha]; decide), if_neg (by rw [hl]; decide), if_pos hr, rightValue_toNat]
    unfold lhs half
    revert hb hbit
    cases i.byteMode <;> simp only [Bool.false_eq_true, if_false, if_true] <;> intro hb hbit
    · rw [hbit8]
      omega
    · omega
  rw [outcome_eq, hvalue]
  unfold Flagged.ofShift Alu.v
  rw [n_eq, hvalue, hcarry, hr, Bool.or_true]
  rfl

/-! ## Boolean operations -/

theorem result_logic {i : Alu} {com : Bool} (h : i.Path false false false com) : i.result = i.logicValue := by
  unfold result
  rw [if_neg (by rw [h.arithmetic]; decide), if_neg (by rw [h.left]; decide), if_neg (by rw [h.right]; decide)]

/-- The table of truth values works on every bit. -/
theorem outcome_logic {i : Alu} {com : Bool} (h : i.Path false false false com) {value : Word}
    (hvalue : i.logicValue = value) : i.outcome = Flagged.ofWord i.half value com := by
  obtain ⟨ha, hl, hr, hc⟩ := h
  have hcarry : i.c = com := by
    unfold Alu.c
    rw [ha, hl, hr, hc]
    simp only [Bool.false_and, Bool.false_or]
  have hover : i.v = false := by
    unfold Alu.v
    rw [ha, hl, hr]
    simp only [Bool.false_and, Bool.or_false, Bool.false_eq_true, if_false]
  rw [outcome_eq, result_logic ⟨ha, hl, hr, hc⟩, hvalue, hover, hcarry]
  rfl

theorem mux_bit (i : Alu) {k : Nat} (hk : k < 16) :
    i.logicValue.getLsbD k =
      if i.a.getLsbD k then (if i.b.getLsbD k then i.truth.getLsbD 3 else i.truth.getLsbD 2)
      else if i.b.getLsbD k then i.truth.getLsbD 1 else i.truth.getLsbD 0 := by
  have hspread (bit : Bool) : (spread bit).getLsbD k = bit := by
    unfold spread
    split
    · rename_i hbit
      rw [hbit, BitVec.getLsbD_not]
      simp [hk]
    · rename_i hbit
      simp [hbit]
  unfold logicValue
  simp only [BitVec.getLsbD_or, BitVec.getLsbD_and, BitVec.getLsbD_not, hspread, hk, decide_true, Bool.true_and]
  cases i.a.getLsbD k <;> cases i.b.getLsbD k <;> simp

/-- The value of a Boolean operation, from its truth values. -/
theorem logicValue_eq {i : Alu} {op : BitVec 4} (h : i.operation = op) {value : Word}
    (hbits : ∀ k < 16, value.getLsbD k =
      if i.a.getLsbD k then
        (if i.b.getLsbD k then (booleanTruth op).getLsbD 3 else (booleanTruth op).getLsbD 2)
      else if i.b.getLsbD k then (booleanTruth op).getLsbD 1 else (booleanTruth op).getLsbD 0) :
    i.logicValue = value := by
  subst h
  apply BitVec.eq_of_getLsbD_eq
  intro k hk
  rw [i.mux_bit hk, hbits k hk]
  rfl

theorem logicValue_passA {i : Alu} (h : i.operation = 0) : i.logicValue = i.a := by
  refine logicValue_eq h fun k hk => ?_
  cases i.a.getLsbD k <;> cases i.b.getLsbD k <;> decide

theorem logicValue_passB {i : Alu} (h : i.operation = 1) : i.logicValue = i.b := by
  refine logicValue_eq h fun k hk => ?_
  cases i.a.getLsbD k <;> cases i.b.getLsbD k <;> decide

theorem subtract_of {i : Alu} {op : BitVec 4} (h : i.operation = op) : i.subtract = op.getLsbD 2 := by
  subst h
  rfl

theorem carryIn_of {i : Alu} {op : BitVec 4} (h : i.operation = op) :
    i.carryIn = ((op.getLsbD 0 && i.carry) ^^ op.getLsbD 2) := by
  subst h
  rfl

/-- The sign that a right shift takes. -/
theorem rightSign_of {i : Alu} {op : BitVec 4} (h : i.operation = op) :
    (if i.byteMode then i.rightByte else i.rightSign) =
      (op == 13 && decide (i.half ≤ i.lhs) || op == 15 && i.carry) := by
  subst h
  rw [← sa_eq]
  unfold rightByte rightSign sa
  cases i.byteMode <;> rfl

theorem signed_half (i : Alu) :
    Wrap.wrap i.half (Wrap.signed i.half i.lhs / 2) = i.lhs / 2 + (decide (i.half ≤ i.lhs)).toNat * i.half := by
  have hlt := i.lhs_lt
  have hpos : i.half % 2 = 0 := by
    unfold half
    split <;> rfl
  unfold Wrap.signed
  split
  · rename_i hlow
    have hnat : (i.lhs : Int) / 2 = ((i.lhs / 2 : Nat) : Int) := by omega
    rw [hnat, Wrap.wrap_of_lt (by omega), decide_eq_false (by omega)]
    simp
  · rename_i hhigh
    have hnat : ((i.lhs : Int) - 2 * i.half) / 2 = ((i.lhs / 2 + i.half : Nat) : Int) - 2 * i.half := by omega
    rw [hnat, decide_eq_true (by omega), Bool.toNat_true, Nat.one_mul]
    unfold Wrap.wrap
    rw [Int.sub_emod_right]
    exact Wrap.wrap_of_lt (by omega)

/-- Every operation gives its exact result and flags at both widths. -/
theorem outcome_exact (i : Alu) : i.outcome = i.exact := by
  have hlt := i.operation.isLt
  have hop : i.operation = BitVec.ofNat 4 i.operation.toNat := (BitVec.ofNat_toNat 4 i.operation).symm
  unfold exact
  generalize i.operation.toNat = code at hlt hop
  interval_cases code
  · exact outcome_logic (path_of hop (by decide)) (logicValue_passA hop)
  · exact outcome_logic (path_of hop (by decide)) (logicValue_passB hop)
  · have hsum := IsSum.add (path_of hop (by decide)) (subtract_of hop)
    have hcarry : i.carryIn.toNat = 0 := by
      rw [carryIn_of hop]
      cases i.carry <;> decide
    rw [hcarry, Int.natCast_zero, Int.add_zero, Int.add_zero] at hsum
    exact hsum
  · have hsum := IsSum.add (path_of hop (by decide)) (subtract_of hop)
    have hcarry : i.carryIn.toNat = i.carry.toNat := by
      rw [carryIn_of hop]
      cases i.carry <;> decide
    rw [hcarry] at hsum
    exact hsum
  · have hcarry : i.carryIn.toNat = 1 - 0 := by
      rw [carryIn_of hop]
      cases i.carry <;> decide
    have hsum := IsSum.sub (path_of hop (by decide)) (subtract_of hop) (by decide) hcarry
    rw [Int.natCast_zero, Int.sub_zero, Int.sub_zero] at hsum
    exact hsum
  · have hcarry : i.carryIn.toNat = 1 - i.carry.toNat := by
      rw [carryIn_of hop]
      cases i.carry <;> decide
    exact IsSum.sub (path_of hop (by decide)) (subtract_of hop) (by cases i.carry <;> decide) hcarry
  · refine outcome_logic (path_of hop (by decide)) (logicValue_eq hop fun k hk => ?_)
    rw [BitVec.getLsbD_and]
    cases i.a.getLsbD k <;> cases i.b.getLsbD k <;> decide
  · refine outcome_logic (path_of hop (by decide)) (logicValue_eq hop fun k hk => ?_)
    rw [BitVec.getLsbD_or]
    cases i.a.getLsbD k <;> cases i.b.getLsbD k <;> decide
  · refine outcome_logic (path_of hop (by decide)) (logicValue_eq hop fun k hk => ?_)
    rw [BitVec.getLsbD_xor]
    cases i.a.getLsbD k <;> cases i.b.getLsbD k <;> decide
  · refine outcome_logic (path_of hop (by decide)) (logicValue_eq hop fun k hk => ?_)
    rw [BitVec.getLsbD_and, BitVec.getLsbD_not, decide_eq_true hk]
    cases i.a.getLsbD k <;> cases i.b.getLsbD k <;> decide
  · refine outcome_logic (path_of hop (by decide)) (logicValue_eq hop fun k hk => ?_)
    rw [BitVec.getLsbD_not, decide_eq_true hk]
    cases i.a.getLsbD k <;> cases i.b.getLsbD k <;> decide
  · have hbit : (i.carry && i.operation == 14).toNat = 0 := by
      rw [hop]
      cases i.carry <;> decide
    have hshift := outcome_left (path_of hop (by decide)) hbit
    rw [Int.natCast_zero, Int.add_zero] at hshift
    exact hshift
  · have hbit : (if i.byteMode then i.rightByte else i.rightSign).toNat = 0 := by
      rw [rightSign_of hop]
      cases decide (i.half ≤ i.lhs) <;> cases i.carry <;> decide
    have hshift := outcome_right (path_of hop (by decide)) hbit
    rw [Nat.zero_mul, Nat.add_zero] at hshift
    exact hshift
  · have hbit : (if i.byteMode then i.rightByte else i.rightSign).toNat = (decide (i.half ≤ i.lhs)).toNat := by
      rw [rightSign_of hop]
      cases decide (i.half ≤ i.lhs) <;> cases i.carry <;> decide
    have hshift := outcome_right (path_of hop (by decide)) hbit
    rw [← signed_half] at hshift
    exact hshift
  · have hbit : (i.carry && i.operation == 14).toNat = i.carry.toNat := by
      rw [hop]
      cases i.carry <;> decide
    exact outcome_left (path_of hop (by decide)) hbit
  · have hbit : (if i.byteMode then i.rightByte else i.rightSign).toNat = i.carry.toNat := by
      rw [rightSign_of hop]
      cases decide (i.half ≤ i.lhs) <;> cases i.carry <;> decide
    exact outcome_right (path_of hop (by decide)) hbit

end Alu

end K1801.Uj11
