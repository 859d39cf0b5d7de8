import K1801.Library.ArithShift
import K1801.Core.CondCodes
import K1801.Core.Dispatch
import K1801.Core.Hwstub

/-! # Extended instruction set

What MUL, DIV, ASH and ASHC are to compute, in integers and one-bit shifts, and where the code
computes it.
-/

namespace K1801.Core

open Library
open Env (registerPair registerOperand)

/-! ## Shifts -/

/-- The signed six-bit count of ASH and ASHC. -/
def shiftCount (v : Word) : Int := (v.setWidth 6).toInt

theorem shiftCount_eq (v : Word) :
    shiftCount v = if (v &&& 0o77).toNat < 32 then ((v &&& 0o77).toNat : Int)
      else -((64 - (v &&& 0o77).toNat : Nat) : Int) := by
  have hlow : (v &&& 0o77).toNat = v.toNat % 64 := Nat.and_two_pow_sub_one_eq_mod v.toNat 6
  unfold shiftCount
  rw [hlow, BitVec.toInt_eq_toNat_cond, BitVec.toNat_setWidth]
  omega

theorem shiftCount_lt (v : Word) : (v &&& 0o77).toNat < 64 := by
  have hlow : (v &&& 0o77).toNat = v.toNat % 64 := Nat.and_two_pow_sub_one_eq_mod v.toNat 6
  omega

/-- The flags and the value of a shift, as the instruction gives them. -/
def ShiftExact (w : Nat) (res : ShiftResult) (s : Shift w) : Prop :=
  res.value.setWidth w = s.value ∧ res.v = s.signChanged ∧ res.c = s.lastOut

theorem arithRshift32_eq (x : Dword) {k : Nat} (hk : k ≤ 32) : arithRshift32 x k = x.sshiftRight k := by
  unfold arithRshift32
  by_cases hz : k = 0
  · rw [if_pos hz, hz, BitVec.sshiftRight_zero]
  · rw [if_neg hz, ← Shift.ushiftRight_or_fill hk]
    cases x.msb with
    | true => rfl
    | false => simp

theorem and_one_ne_zero (x : Dword) : (x &&& 1 != 0) = x.getLsbD 0 := by
  have hand := BitVec.and_one_eq_setWidth_ofBool_getLsbD (x := x)
  rw [show (1 : Dword) = 1#32 from rfl, hand]
  cases x.getLsbD 0 <;> decide

/-- The last bit of a left shift that stays in the word. -/
theorem getLsbD_spill {w : Nat} (x : BitVec w) {c : Nat} (hpos : 0 < c) (hc : c ≤ w) :
    (x.sshiftRight (w - c)).getLsbD 0 = x.getMsbD (c - 1) := by
  rw [BitVec.getLsbD_sshiftRight, BitVec.getMsbD_eq_getLsbD]
  have hidx : w - 1 - (c - 1) = w - c := by omega
  simp [hidx, show ¬ w ≤ 0 by omega, show w - c < w by omega, show c - 1 < w by omega]

/-- Whether the bits given up differ from the fill tells whether the sign changed. -/
theorem spill_ne_fill {w : Nat} (x : BitVec w) {c : Nat} (hc : c < w) :
    (x.sshiftRight (w - c) != (if (x <<< c).msb then BitVec.allOnes w else 0)) =
      (Shift.arith x c).signChanged := by
  rw [Shift.arith_left]
  cases hs : (Shift.left^[c] ⟨x, false, false⟩).signChanged with
  | false =>
    rw [bne_eq_false_iff_eq, Shift.spill_eq_fill_iff hc]
    exact (Shift.iterate_left_signChanged x c).1 hs
  | true =>
    rw [bne_iff_ne]
    intro heq
    have hkept := (Shift.iterate_left_signChanged x c).2 ((Shift.spill_eq_fill_iff hc).1 heq)
    rw [hs] at hkept
    cases hkept

theorem ashc_left (x : Dword) {c : Nat} (hpos : 0 < c) (hc : c ≤ 31) :
    ShiftExact 32 (ashcAlu x x.msb c) (Shift.arith x c) := by
  have hspill : (x >>> (32 - c)) ||| (if x.msb then BitVec.allOnes 32 <<< c else 0) =
      x.sshiftRight (32 - c) := by
    rw [← Shift.ushiftRight_or_fill (show 32 - c ≤ 32 by omega), show 32 - (32 - c) = c by omega]
  unfold ashcAlu
  rw [if_neg (by omega), if_pos hc]
  dsimp only
  rw [hspill]
  refine ⟨?_, ?_, ?_⟩
  · rw [Shift.arith_left, Shift.iterate_left_value]
    exact BitVec.setWidth_eq _
  · exact spill_ne_fill x (by omega)
  · rw [and_one_ne_zero, getLsbD_spill x hpos (by omega), Shift.arith_left,
      Shift.iterate_left_lastOut x hpos]

theorem sshiftRight_fill {w k : Nat} (x : BitVec w) (hk : w ≤ k) :
    x.sshiftRight k = if x.msb then BitVec.allOnes w else 0 := by
  apply BitVec.eq_of_getLsbD_eq
  intro i hi
  rw [BitVec.getLsbD_sshiftRight, if_neg (by omega)]
  cases x.msb <;> simp [hi, show ¬ w ≤ i by omega]

theorem ashc_right (x : Dword) {c : Nat} (hc : 32 ≤ c) (hc' : c < 64) :
    ShiftExact 32 (ashcAlu x x.msb c) (Shift.arith x (-((64 - c : Nat) : Int))) := by
  have hpos : 0 < 64 - c := by omega
  unfold ashcAlu ShiftExact
  rw [if_neg (by omega), if_neg (by omega), Shift.arith_right x hpos, Shift.iterate_right_value,
    Shift.iterate_right_signChanged, Shift.iterate_right_lastOut x hpos]
  by_cases h32 : c = 32
  · subst h32
    rw [if_pos rfl]
    refine ⟨?_, rfl, ?_⟩
    · exact (BitVec.setWidth_eq _).trans (sshiftRight_fill x (Nat.le_refl 32)).symm
    · rw [BitVec.getLsbD_sshiftRight]
      rfl
  · rw [if_neg h32]
    refine ⟨?_, rfl, ?_⟩
    · dsimp only
      rw [arithRshift32_eq x (by omega)]
      exact BitVec.setWidth_eq _
    · dsimp only
      rw [and_one_ne_zero, BitVec.getLsbD_ushiftRight, BitVec.getLsbD_sshiftRight]
      have hidx : 64 - c - 1 = 63 - c := by omega
      simp [hidx, show 63 - c < 32 by omega]

/-- ASHC shifts exactly when it goes by the sign of what it shifts. -/
theorem ashc_exact (x : Dword) (v : Word) :
    ShiftExact 32 (ashcAlu x x.msb (v &&& 0o77).toNat) (Shift.arith x (shiftCount v)) := by
  rw [shiftCount_eq]
  have hlt := shiftCount_lt v
  by_cases hleft : (v &&& 0o77).toNat < 32
  · rw [if_pos hleft]
    by_cases hz : (v &&& 0o77).toNat = 0
    · rw [hz]
      exact ⟨BitVec.setWidth_eq _, rfl, rfl⟩
    · exact ashc_left x (by omega) (by omega)
  · rw [if_neg hleft]
    exact ashc_right x (by omega) hlt

/-! ### The short shift -/

theorem ash_value (x : Word) (c : Nat) : ((x.signExtend 32) <<< c).setWidth 16 = x <<< c := by
  apply BitVec.eq_of_getLsbD_eq
  intro i hi
  rw [BitVec.getLsbD_setWidth, BitVec.getLsbD_shiftLeft, BitVec.getLsbD_shiftLeft]
  by_cases hin : i < c
  · simp [hin]
  · simp [hin, hi, BitVec.getElem_signExtend, show i < 32 by omega, show i - c < 32 by omega,
      show i - c < 16 by omega]

theorem ash_spill (x : Word) {c : Nat} (hc : c ≤ 15) :
    ((x.signExtend 32) >>> (16 - c)) &&& 0o177777 = (x.sshiftRight (16 - c)).setWidth 32 := by
  apply BitVec.eq_of_getLsbD_eq
  intro i hi
  have hmask : (0o177777 : Dword).getLsbD i = decide (i < 16) := by
    have hall : ∀ j : Fin 32, (0o177777 : Dword).getLsbD j.val = decide (j.val < 16) := by decide
    exact hall ⟨i, hi⟩
  rw [BitVec.getLsbD_and, hmask, BitVec.getLsbD_ushiftRight, BitVec.getLsbD_setWidth,
    BitVec.getLsbD_sshiftRight, BitVec.getLsbD_signExtend]
  by_cases hin : i < 16
  · simp [hin, hi, show 16 - c + i < 32 by omega, show ¬ 16 ≤ i by omega]
  · simp [hin, show 16 ≤ i by omega]

theorem ash_fill (x : Word) (c : Nat) :
    (if ((x.signExtend 32) <<< c) &&& 0o100000 ≠ 0 then (0o177777 : Dword) else 0) =
      (if (x <<< c).msb then BitVec.allOnes 16 else 0).setWidth 32 := by
  have hbit : ((x.signExtend 32) <<< c).getLsbD 15 = (x <<< c).msb := by
    rw [← ash_value, BitVec.msb_eq_getLsbD_last, BitVec.getLsbD_setWidth]
    simp
  have hmask : (0o100000 : Dword) = BitVec.twoPow 32 15 := by decide
  rw [hmask, BitVec.and_twoPow, hbit]
  cases (x <<< c).msb <;> decide

theorem setWidth_bne (x y : Word) : (x.setWidth 32 != y.setWidth 32) = (x != y) := by
  by_cases h : x = y
  · rw [h, bne_self_eq_false, bne_self_eq_false]
  · rw [bne_iff_ne.2 h, bne_iff_ne]
    intro heq
    have hback := congrArg (BitVec.setWidth 16) heq
    rw [BitVec.setWidth_setWidth_of_le _ (by omega), BitVec.setWidth_setWidth_of_le _ (by omega),
      BitVec.setWidth_eq, BitVec.setWidth_eq] at hback
    exact h hback

theorem ash_left (x : Word) {c : Nat} (hpos : 0 < c) (hc : c ≤ 15) :
    ShiftExact 16 (ashAlu x c) (Shift.arith x c) := by
  unfold ashAlu
  dsimp only
  rw [if_neg (by omega), if_pos hc, ash_spill x hc, ash_fill x c]
  refine ⟨?_, ?_, ?_⟩
  · rw [Shift.arith_left, Shift.iterate_left_value]
    exact ash_value x c
  · rw [← spill_ne_fill x (show c < 16 by omega)]
    exact setWidth_bne _ _
  · dsimp only
    rw [and_one_ne_zero, BitVec.getLsbD_setWidth, getLsbD_spill x hpos (by omega), Shift.arith_left,
      Shift.iterate_left_lastOut x hpos]
    rfl

/-- A word shifted out of its place loses its sign unless it is zero. -/
theorem signChanged_out {w : Nat} (x : BitVec w) {c : Nat} (hc : w ≤ c) :
    (Shift.arith x c).signChanged = (x != 0) := by
  rw [Shift.arith_left]
  have hgone : x.getMsbD c = false := BitVec.getMsbD_of_ge x c hc
  by_cases hz : x = 0
  · rw [hz, bne_self_eq_false, Shift.iterate_left_signChanged]
    intro j _
    simp
  · rw [bne_iff_ne.2 hz]
    by_contra hkept
    have hall := (Shift.iterate_left_signChanged x c).1 (Bool.eq_false_iff.2 hkept)
    apply hz
    apply BitVec.eq_of_getMsbD_eq
    intro i hi
    rw [hall i (by omega), ← hall c (Nat.le_refl c), hgone]
    simp

theorem signExtend_bne_zero (x : Word) : (x.signExtend 32 != 0) = (x != 0) := by
  by_cases hz : x = 0
  · rw [hz]
    rfl
  · rw [bne_iff_ne.2 hz, bne_iff_ne]
    intro heq
    have hback := congrArg (BitVec.setWidth 16) heq
    have hshift := ash_value x 0
    rw [BitVec.shiftLeft_zero, BitVec.shiftLeft_zero] at hshift
    rw [hshift] at hback
    exact hz hback

theorem ash_out (x : Word) {c : Nat} (hlow : 16 ≤ c) (hc : c ≤ 31) :
    ShiftExact 16 (ashAlu x c) (Shift.arith x c) := by
  unfold ashAlu
  dsimp only
  rw [if_neg (by omega), if_neg (by omega), if_pos hc]
  refine ⟨?_, ?_, ?_⟩
  · rw [Shift.arith_left, Shift.iterate_left_value, BitVec.shiftLeft_eq_zero hlow]
    rfl
  · rw [signChanged_out x hlow]
    exact signExtend_bne_zero x
  · dsimp only
    rw [and_one_ne_zero, Shift.arith_left, Shift.iterate_left_lastOut x (by omega),
      BitVec.getLsbD_shiftLeft]
    by_cases h16 : c = 16
    · subst h16
      rw [BitVec.getMsbD_eq_getLsbD, BitVec.getLsbD_signExtend]
      simp
    · rw [BitVec.getMsbD_of_ge x (c - 1) (by omega)]
      simp [show 0 < c - 16 by omega]

theorem setWidth_sshiftRight (x : Word) (k : Nat) :
    ((x.signExtend 32).sshiftRight k).setWidth 16 = x.sshiftRight k := by
  apply BitVec.eq_of_getLsbD_eq
  intro i hi
  rw [BitVec.getLsbD_setWidth, BitVec.getLsbD_sshiftRight, BitVec.getLsbD_sshiftRight,
    BitVec.msb_signExtend, BitVec.getLsbD_signExtend]
  by_cases hin : k + i < 16
  · simp [hi, hin, show ¬ 32 ≤ i by omega, show ¬ 16 ≤ i by omega, show k + i < 32 by omega]
  · by_cases hext : k + i < 32
    · simp [hi, hin, hext, show ¬ 32 ≤ i by omega, show ¬ 16 ≤ i by omega]
    · simp [hi, hin, hext, show ¬ 32 ≤ i by omega, show ¬ 16 ≤ i by omega]

theorem ash_right (x : Word) {c : Nat} (hc : 32 ≤ c) (hc' : c < 64) :
    ShiftExact 16 (ashAlu x c) (Shift.arith x (-((64 - c : Nat) : Int))) := by
  have hpos : 0 < 64 - c := by omega
  unfold ashAlu ShiftExact
  dsimp only
  rw [if_neg (by omega), if_neg (by omega), if_neg (by omega), Shift.arith_right x hpos,
    Shift.iterate_right_value, Shift.iterate_right_signChanged, Shift.iterate_right_lastOut x hpos]
  by_cases h32 : c = 32
  · subst h32
    rw [if_pos rfl]
    refine ⟨?_, rfl, ?_⟩
    · rw [sshiftRight_fill x (by decide)]
      cases x.msb <;> rfl
    · rw [BitVec.getLsbD_sshiftRight]
      rfl
  · rw [if_neg h32]
    refine ⟨?_, rfl, ?_⟩
    · dsimp only
      rw [arithRshift32_eq _ (by omega)]
      exact setWidth_sshiftRight x _
    · dsimp only
      rw [and_one_ne_zero, BitVec.getLsbD_ushiftRight, BitVec.getLsbD_sshiftRight,
        BitVec.getLsbD_signExtend]
      have hidx : 64 - c - 1 = 63 - c := by omega
      simp [hidx, show 63 - c < 32 by omega]

/-- ASH is the arithmetic shift of the register. -/
theorem ash_exact (x v : Word) :
    ShiftExact 16 (ashAlu x (v &&& 0o77).toNat) (Shift.arith x (shiftCount v)) := by
  rw [shiftCount_eq]
  have hlt := shiftCount_lt v
  by_cases hleft : (v &&& 0o77).toNat < 32
  · rw [if_pos hleft]
    by_cases hz : (v &&& 0o77).toNat = 0
    · rw [hz]
      refine ⟨?_, rfl, rfl⟩
      have hshift := ash_value x 0
      rwa [BitVec.shiftLeft_zero, BitVec.shiftLeft_zero] at hshift
    · by_cases hshort : (v &&& 0o77).toNat ≤ 15
      · exact ash_left x (by omega) hshort
      · exact ash_out x (by omega) (by omega)
  · rw [if_neg hleft]
    exact ash_right x (by omega) hlt

/-- Under a wrong sign the bits given up by a left shift are never all alike. -/
theorem wrongSign_spill {x : Dword} {sign : Bool} (hsign : sign ≠ x.msb) {c : Nat} (hpos : 0 < c) (hc : c ≤ 31)
    (fill : Bool) :
    ((x >>> (32 - c)) ||| (if sign then BitVec.allOnes 32 <<< c else 0) !=
      (if fill then BitVec.allOnes 32 else 0)) = true := by
  have htop : ((x >>> (32 - c)) ||| (if sign then BitVec.allOnes 32 <<< c else 0)).getLsbD 31 = sign := by
    rw [BitVec.getLsbD_or, BitVec.getLsbD_ushiftRight, Shift.getLsbD_fillAbove _ _ (by decide),
      BitVec.getLsbD_of_ge x _ (by omega), decide_eq_true hc, Bool.false_or, Bool.and_true]
  have hlow : ((x >>> (32 - c)) ||| (if sign then BitVec.allOnes 32 <<< c else 0)).getLsbD (c - 1) =
      x.msb := by
    rw [BitVec.getLsbD_or, BitVec.getLsbD_ushiftRight, Shift.getLsbD_fillAbove _ _ (by omega),
      BitVec.msb_eq_getLsbD_last, show 32 - c + (c - 1) = 31 by omega,
      decide_eq_false (show ¬ c ≤ c - 1 by omega), Bool.and_false, Bool.or_false]
  rw [bne_iff_ne]
  intro heq
  apply hsign
  rw [← htop, ← hlow, heq, Shift.getLsbD_fill fill (by decide), Shift.getLsbD_fill fill (by omega)]

theorem spill_lowBit (x : Dword) (sign : Bool) {c : Nat} (hpos : 0 < c) (hc : c ≤ 31) :
    ((x >>> (32 - c)) ||| (if sign then BitVec.allOnes 32 <<< c else 0)).getLsbD 0 = x.getMsbD (c - 1) := by
  rw [BitVec.getLsbD_or, BitVec.getLsbD_ushiftRight, BitVec.getMsbD_eq_getLsbD,
    Shift.getLsbD_fillAbove _ _ (by decide), decide_eq_false (show ¬ c ≤ 0 by omega), Bool.and_false,
    Bool.or_false, show 32 - 1 - (c - 1) = 32 - c by omega, decide_eq_true (show c - 1 < 32 by omega)]
  rfl

/-- The long shifts that come out right under a wrong sign: those that do not look at it, and
    the shifts to the left that overflow. -/
def SignFree (x : Dword) (v : Word) : Prop :=
  shiftCount v = 0 ∨ (shiftCount v < 0 ∧ -32 < shiftCount v) ∨
    (Shift.arith x (shiftCount v)).signChanged = true

theorem ashc_leftWrong {x : Dword} {sign : Bool} (hsign : sign ≠ x.msb) {c : Nat} (hpos : 0 < c)
    (hc : c ≤ 31) : ashcAlu x sign c = ⟨x <<< c, true, x.getMsbD (c - 1)⟩ := by
  unfold ashcAlu
  rw [if_neg (by omega), if_pos hc]
  dsimp only
  rw [wrongSign_spill hsign hpos hc, and_one_ne_zero, spill_lowBit x sign hpos hc]

theorem ashc_signFree {x : Dword} {sign : Bool} (hsign : sign ≠ x.msb) {v : Word} (hfree : SignFree x v) :
    ShiftExact 32 (ashcAlu x sign (v &&& 0o77).toNat) (Shift.arith x (shiftCount v)) := by
  have hexact := ashc_exact x v
  have hcount := shiftCount_eq v
  have hlt := shiftCount_lt v
  by_cases hz : (v &&& 0o77).toNat = 0
  · rw [hz] at hexact ⊢
    exact hexact
  by_cases hleft : (v &&& 0o77).toNat ≤ 31
  · rw [if_pos (by omega)] at hcount
    rcases hfree with h0 | ⟨hneg, -⟩ | hv
    · omega
    · omega
    · rw [hcount, Shift.arith_left] at hv ⊢
      rw [ashc_leftWrong hsign (by omega) hleft]
      refine ⟨?_, hv.symm, ?_⟩
      · rw [Shift.iterate_left_value]
        exact BitVec.setWidth_eq _
      · rw [Shift.iterate_left_lastOut x (by omega)]
  · rw [if_neg (by omega)] at hcount
    have h32 : (v &&& 0o77).toNat ≠ 32 := by
      intro h32
      rw [h32] at hcount
      rcases hfree with h0 | ⟨-, hlow⟩ | hv
      · omega
      · omega
      · rw [hcount, Shift.arith_right x (by decide), Shift.iterate_right_signChanged] at hv
        cases hv
    have hsame : ashcAlu x sign (v &&& 0o77).toNat = ashcAlu x x.msb (v &&& 0o77).toNat := by
      unfold ashcAlu
      rw [if_neg hz, if_neg hleft, if_neg h32, if_neg hz, if_neg hleft, if_neg h32]
    rw [hsame]
    exact hexact

/-- Its low word and V are enough to tell that a long shift did not depend on the wrong sign. -/
theorem signFree_of_low {x : Dword} {sign : Bool} (hsign : sign ≠ x.msb) {v : Word}
    (hlow : (ashcAlu x sign (v &&& 0o77).toNat).value.setWidth 16 =
      (Shift.arith x (shiftCount v)).value.setWidth 16)
    (hv : (ashcAlu x sign (v &&& 0o77).toNat).v = (Shift.arith x (shiftCount v)).signChanged) :
    SignFree x v := by
  have hcount := shiftCount_eq v
  have hlt := shiftCount_lt v
  by_cases hz : (v &&& 0o77).toNat = 0
  · rw [if_pos (by omega)] at hcount
    exact .inl (by omega)
  by_cases hleft : (v &&& 0o77).toNat ≤ 31
  · rw [ashc_leftWrong hsign (by omega) hleft] at hv
    exact .inr (.inr hv.symm)
  · rw [if_neg (by omega)] at hcount
    by_cases h32 : (v &&& 0o77).toNat = 32
    · exfalso
      rw [h32] at hcount hlow
      rw [hcount, Shift.arith_right x (by decide), Shift.iterate_right_value,
        sshiftRight_fill x (by decide)] at hlow
      change (if sign then BitVec.allOnes 32 else 0).setWidth 16 = _ at hlow
      revert hlow hsign
      cases sign <;> cases x.msb <;> decide
    · exact .inr (.inl (by omega))

/-! ## The instructions -/

inductive EisOp where
  | mul | div | ash | ashc
  deriving Repr, DecidableEq

def EisOp.instr (op : EisOp) (reg : BitVec 3) (ss : Word) : Instr :=
  match op with
  | mul => .mul reg ss
  | div => .div reg ss
  | ash => .ash reg ss
  | ashc => .ashc reg ss

def FitsWord (i : Int) : Prop := -0o100000 ≤ i ∧ i ≤ 0o77777

/-- The product is in the register pair, its low word in an odd register. -/
structure MulExact (reg : BitVec 3) (v : Word) (src r' : Regs) : Prop where
  low : r'.r (reg ||| 1) = BitVec.ofInt 16 ((src.r reg).toInt * v.toInt)
  pair : reg &&& 1 = 0 → (registerPair reg r').toInt = (src.r reg).toInt * v.toInt
  carry : (condCodes r'.psw).c = true ↔ ¬ FitsWord ((src.r reg).toInt * v.toInt)

/-- Quotient and remainder of truncated division. -/
structure IsDivision (dividend divisor q rem : Int) : Prop where
  value : q * divisor + rem = dividend
  small : rem.natAbs < divisor.natAbs
  sign : rem = 0 ∨ rem.sign = dividend.sign

/-- Of an odd register the J-11 keeps the remainder, the other models the quotient. -/
def DivStored (reg : BitVec 3) (q rem : Int) (r' : Regs) : Prop :=
  if reg &&& 1 = 0 then (r'.r reg).toInt = q ∧ (r'.r (reg ||| 1)).toInt = rem
  else (r'.r reg).toInt = if r'.model = .dcj11 then rem else q

/-- The division, or V and the registers left alone. -/
inductive DivExact (reg : BitVec 3) (v : Word) (src after r' : Regs) : Prop
  | done {q rem : Int} : IsDivision (registerPair reg src).toInt v.toInt q rem → FitsWord q →
      (condCodes r'.psw).v = false → DivStored reg q rem r' → DivExact reg v src after r'
  | refused : (v = 0 ∨ ∀ q rem, IsDivision (registerPair reg src).toInt v.toInt q rem → ¬ FitsWord q) →
      (condCodes r'.psw).v = true → r'.r = after.r → DivExact reg v src after r'

structure AshExact (reg : BitVec 3) (v : Word) (src r' : Regs) : Prop where
  value : r'.r reg = (Shift.arith (src.r reg) (shiftCount v)).value
  overflow : (condCodes r'.psw).v = (Shift.arith (src.r reg) (shiftCount v)).signChanged
  carry : (condCodes r'.psw).c = (Shift.arith (src.r reg) (shiftCount v)).lastOut

/-- The pair is shifted as one word of 32 bits, and its low word is in an odd register. -/
structure AshcExact (reg : BitVec 3) (v : Word) (src r' : Regs) : Prop where
  low : r'.r (reg ||| 1) = (Shift.arith (registerPair reg src) (shiftCount v)).value.setWidth 16
  pair : reg &&& 1 = 0 → registerPair reg r' = (Shift.arith (registerPair reg src) (shiftCount v)).value
  overflow : (condCodes r'.psw).v = (Shift.arith (registerPair reg src) (shiftCount v)).signChanged
  carry : (condCodes r'.psw).c = (Shift.arith (registerPair reg src) (shiftCount v)).lastOut

/-- What the instruction is to leave: `v` is its operand, `src` holds the registers it works on and
    `after` those that the operand access left. -/
def EisOp.Exact (op : EisOp) (reg : BitVec 3) (v : Word) (src after r' : Regs) : Prop :=
  match op with
  | mul => MulExact reg v src r'
  | div => DivExact reg v src after r'
  | ash => AshExact reg v src r'
  | ashc => AshcExact reg v src r'

/-- ASHC takes the pair before the operand access and its sign after it, except on the J-11. The
    sign matters when the access turns it over. -/
def AshcSignLost (op : EisOp) (reg : BitVec 3) (ss v : Word) (r : Regs) : Prop :=
  op = .ashc ∧ r.model ≠ .dcj11 ∧ (operandStepped ss .word r.r reg).msb ≠ (r.r reg).msb ∧
    ¬ SignFree (registerPair reg r) v

/-! ## The operand access -/

variable {β : Type}

/-- The access to the operand that MUL, DIV, ASH and ASHC start with. -/
def Env.readOperand (e : Env β) (ss : Word) : M β Word := do
  let src ← e.operand ss .word
  e.getDataWord src

theorem Quiet.readOperand {e : Env β} (he : e.TrapsAbort) (ss : Word) :
    Quiet Regs.exceptOperand (e.readOperand ss) :=
  (Quiet.operand he ss .word).bind fun src => (Quiet.getDataWord he src).load

theorem RegSteps.readOperand {e : Env β} (he : e.TrapsAbort) (ss : Word) :
    RegSteps (operandStepped ss .word) (e.readOperand ss) :=
  (RegSteps.operand he ss .word).bind fun src => .of_quiet (Quiet.getDataWord he src)

theorem leaveIfAbortedDcj11_clear {m : Machine β} (h : m.core.fAbort = false) :
    (Env.leaveIfAbortedDcj11 : M β Unit).run m = .done () m := by
  unfold Env.leaveIfAbortedDcj11
  simp only [Program.run_bind, regs, Program.run_read, Outcome.andThen_done, Program.run_ite,
    leaveIfAborted_clear h, Program.run_pure, ite_self]

def Regs.withReg (reg : BitVec 3) (v : Word) (r : Regs) : Regs := { r with r := Function.update r.r reg v }

/-- The core after both registers and the flags are written. -/
def Regs.withPair (reg : BitVec 3) (hi lo : Word) (n z : Option Bool) (v c : Bool) (r : Regs) : Regs :=
  ((r.withReg reg hi).withReg (reg ||| 1) lo).setCc n z (some v) (some c)

section Runs

variable {e : Env β} {reg : BitVec 3} {ss v : Word} {m m₁ : Machine β}

theorem setCc_run (n z vf c : Option Bool) :
    (perform (.setCc n z vf c) : M β Unit).run m = .done () (m.after (.setCc n z vf c)) := rfl

theorem core_withPair (hi lo : Word) (n z : Option Bool) (v c : Bool) :
    (((m₁.after (.setR reg hi)).after (.setR (reg ||| 1) lo)).after (.setCc n z (some v) (some c))).core =
      m₁.core.withPair reg hi lo n z v c := rfl

theorem mul_run (hmodel : m.core.model ≠ .k1801vm1) (h : Answers (e.readOperand ss) m v m₁) :
    ∃ m', (e.mul reg ss).run m = .done () m' ∧
      let prod : Dword := (registerOperand m.core m₁.core (·.r reg)).signExtend 32 * v.signExtend 32
      m'.core = m₁.core.withPair reg ((prod >>> 16).setWidth 16) (prod.setWidth 16)
        (some (prod.toInt < 0)) (some (prod == 0)) false
        (decide (0o77777 < prod.toInt ∨ prod.toInt < -0o100000)) := by
  obtain ⟨hrun, hclear⟩ := h
  obtain ⟨src, m₀, hoperand, hget⟩ := Program.bind_done.1 hrun
  unfold Env.mul
  simp only [Program.run_bind, regs, Program.run_read, Outcome.andThen_done,
    if_neg hmodel, hoperand, hget, leaveIfAbortedDcj11_clear hclear, setR_run,
    setCc_run]
  exact ⟨_, rfl, core_withPair ..⟩

theorem div_run (hmodel : m.core.model ≠ .k1801vm1) (h : Answers (e.readOperand ss) m v m₁) :
    ∃ m', (e.div reg ss).run m = .done () m' ∧
      match divAlu (registerOperand m.core m₁.core (registerPair reg)).toInt v.toInt with
      | .byZero => ∃ n z, m'.core = m₁.core.setCc n z (some true) (some true)
      | .overflow _ => ∃ n z, m'.core = m₁.core.setCc n z (some true) (some false)
      | .quotient q rem => m'.core =
          if m₁.core.model = .dcj11 ∨ reg &&& 1 = 0 then
            m₁.core.withPair reg (BitVec.ofInt 16 q) (BitVec.ofInt 16 rem) (some (q < 0)) (some (q == 0))
              false false
          else
            (m₁.core.withReg reg (BitVec.ofInt 16 q)).setCc
              (some (q < 0)) (some (q == 0)) (some false) (some false) := by
  obtain ⟨hrun, hclear⟩ := h
  obtain ⟨src, m₀, hoperand, hget⟩ := Program.bind_done.1 hrun
  unfold Env.div
  simp only [Program.run_bind, regs, Program.run_read, Outcome.andThen_done,
    if_neg hmodel, hoperand, hget, leaveIfAbortedDcj11_clear hclear]
  cases divAlu (registerOperand m.core m₁.core (registerPair reg)).toInt v.toInt with
  | byZero => exact ⟨_, rfl, _, _, rfl⟩
  | overflow negative => exact ⟨_, rfl, _, _, rfl⟩
  | quotient q rem =>
    simp only [Program.run_bind, setR_run, Outcome.andThen_done, Program.run_when,
      decide_eq_true_eq]
    by_cases hboth : m₁.core.model = .dcj11 ∨ reg &&& 1 = 0
    · rw [if_pos hboth, Outcome.andThen_done, run_perform_enabled rfl]
      refine ⟨_, rfl, ?_⟩
      rw [if_pos hboth]
      exact core_withPair ..
    · rw [if_neg hboth, Outcome.andThen_done, run_perform_enabled rfl]
      refine ⟨_, rfl, ?_⟩
      rw [if_neg hboth]
      rfl

theorem ash_run (hmodel : m.core.model ≠ .k1801vm1) (h : Answers (e.readOperand ss) m v m₁) :
    ∃ m', (e.ash reg ss).run m = .done () m' ∧
      let res := ashAlu (registerOperand m.core m₁.core (·.r reg)) (v &&& 0o77).toNat
      ∃ n z, m'.core = (m₁.core.withReg reg (res.value.setWidth 16)).setCc n z
        (some res.v) (some res.c) := by
  obtain ⟨hrun, hclear⟩ := h
  obtain ⟨src, m₀, hoperand, hget⟩ := Program.bind_done.1 hrun
  unfold Env.ash Env.getWord
  simp only [Program.run_bind, regs, Program.run_read, Outcome.andThen_done, if_neg hmodel, hoperand, hget,
    leaveIfAborted_clear hclear, Program.run_pure, setR_run]
  exact ⟨_, rfl, _, _, rfl⟩

theorem ashc_run (hmodel : m.core.model ≠ .k1801vm1) (h : Answers (e.readOperand ss) m v m₁) :
    ∃ m', (e.ashc reg ss).run m = .done () m' ∧
      let res := ashcAlu (registerOperand m.core m₁.core (registerPair reg)) (m₁.core.r reg).msb
        (v &&& 0o77).toNat
      ∃ n z, m'.core = m₁.core.withPair reg ((res.value >>> 16).setWidth 16) (res.value.setWidth 16) n z
        res.v res.c := by
  obtain ⟨hrun, hclear⟩ := h
  obtain ⟨src, m₀, hoperand, hget⟩ := Program.bind_done.1 hrun
  unfold Env.ashc Env.getWord
  simp only [Program.run_bind, regs, Program.run_read, Outcome.andThen_done, if_neg hmodel, hoperand, hget,
    leaveIfAborted_clear hclear, Program.run_pure, setR_run, Program.run_ite]
  split
  · exact ⟨_, rfl, _, _, core_withPair ..⟩
  · exact ⟨_, rfl, _, _, core_withPair ..⟩

end Runs

/-! ## Exactness -/

section Exactness

variable {reg : BitVec 3} {v : Word} {r src : Regs}

@[simp] theorem setCc_r (n z v c : Option Bool) (r : Regs) : (r.setCc n z v c).r = r.r := by
  unfold Regs.setCc
  split <;> rfl

@[simp] theorem setCc_model (n z v c : Option Bool) (r : Regs) : (r.setCc n z v c).model = r.model := by
  unfold Regs.setCc
  split <;> rfl

theorem evenReg_ne : ∀ reg : BitVec 3, reg &&& 1 = 0 → reg ≠ reg ||| 1 := by decide

theorem oddReg_eq : ∀ reg : BitVec 3, reg &&& 1 ≠ 0 → reg ||| 1 = reg := by decide

section Pair

variable (hi lo : Word) (n z : Option Bool) (vf cf : Bool) (r : Regs)

theorem withPair_low (reg : BitVec 3) : (r.withPair reg hi lo n z vf cf).r (reg ||| 1) = lo := by
  unfold Regs.withPair
  rw [setCc_r]
  exact Function.update_self _ _ _

theorem withPair_high {reg : BitVec 3} (heven : reg &&& 1 = 0) :
    (r.withPair reg hi lo n z vf cf).r reg = hi := by
  unfold Regs.withPair
  rw [setCc_r]
  show Function.update (Function.update r.r reg hi) (reg ||| 1) lo reg = hi
  rw [Function.update_of_ne (evenReg_ne reg heven), Function.update_self]

theorem withPair_flags {r : Regs} (h : r.explicitPsw = false) (reg : BitVec 3) :
    (condCodes (r.withPair reg hi lo n z vf cf).psw).v = vf ∧
      (condCodes (r.withPair reg hi lo n z vf cf).psw).c = cf := by
  have hsame : ((r.withReg reg hi).withReg (reg ||| 1) lo).explicitPsw = false := h
  unfold Regs.withPair
  rw [condCodes_setCc hsame]
  exact ⟨rfl, rfl⟩

end Pair

theorem pair_of_halves (x : Dword) :
    (((x >>> 16).setWidth 16).setWidth 32 <<< 16) ||| (x.setWidth 16).setWidth 32 = x := by
  apply BitVec.eq_of_getLsbD_eq
  intro i hi
  rw [BitVec.getLsbD_or, BitVec.getLsbD_shiftLeft, BitVec.getLsbD_setWidth, BitVec.getLsbD_setWidth,
    BitVec.getLsbD_setWidth, BitVec.getLsbD_setWidth, BitVec.getLsbD_ushiftRight]
  by_cases hlow : i < 16
  · simp [hlow, hi]
  · simp [hlow, hi, show 16 + (i - 16) = i by omega, show i - 16 < 16 by omega, show i - 16 < 32 by omega]

theorem withPair_pair {reg : BitVec 3} (heven : reg &&& 1 = 0) (x : Dword) (n z : Option Bool) (vf cf : Bool)
    (r : Regs) :
    registerPair reg (r.withPair reg ((x >>> 16).setWidth 16) (x.setWidth 16) n z vf cf) = x := by
  unfold registerPair
  rw [withPair_high _ _ _ _ _ _ _ heven, withPair_low]
  exact pair_of_halves x

/-! ### Product -/

theorem product_toInt (a b : Word) : (a.signExtend 32 * b.signExtend 32 : Dword).toInt = a.toInt * b.toInt := by
  have ha := BitVec.le_two_mul_toInt (x := a)
  have ha' := BitVec.two_mul_toInt_lt (x := a)
  have hb := BitVec.le_two_mul_toInt (x := b)
  have hb' := BitVec.two_mul_toInt_lt (x := b)
  rw [BitVec.toInt_mul, BitVec.toInt_signExtend_of_le (by decide), BitVec.toInt_signExtend_of_le (by decide)]
  have hbound : (a.toInt * b.toInt).natAbs ≤ 2 ^ 15 * 2 ^ 15 := by
    rw [Int.natAbs_mul]
    exact Nat.mul_le_mul (by omega) (by omega)
  exact Int.bmod_eq_of_le (by omega) (by omega)

theorem low_ofInt (x : Dword) : x.setWidth 16 = BitVec.ofInt 16 x.toInt := by
  apply BitVec.eq_of_toNat_eq
  rw [BitVec.toNat_setWidth, BitVec.toNat_ofInt, BitVec.toInt_eq_toNat_cond]
  have hlt := x.isLt
  split <;> omega

theorem mul_exact {r : Regs} (h : r.explicitPsw = false) (reg : BitVec 3) (v : Word) (src : Regs)
    (n z : Option Bool) :
    let prod : Dword := (src.r reg).signExtend 32 * v.signExtend 32
    MulExact reg v src (r.withPair reg ((prod >>> 16).setWidth 16) (prod.setWidth 16) n z false
      (decide (0o77777 < prod.toInt ∨ prod.toInt < -0o100000))) := by
  intro prod
  have hprod : prod.toInt = (src.r reg).toInt * v.toInt := product_toInt _ _
  refine ⟨?_, ?_, ?_⟩
  · rw [withPair_low, ← hprod]
    exact low_ofInt prod
  · intro heven
    rw [withPair_pair heven, hprod]
  · rw [(withPair_flags _ _ n z false _ h reg).2, decide_eq_true_eq, ← hprod]
    unfold FitsWord
    omega

/-! ### Quotient -/

theorem isDivision_iff {a b q rem : Int} (hb : b ≠ 0) :
    IsDivision a b q rem ↔ a.tdiv b = q ∧ a.tmod b = rem := by
  rcases Int.lt_trichotomy a 0 with hneg | rfl | hpos
  · rw [Int.tdiv_tmod_unique' (Int.le_of_lt hneg) hb]
    constructor
    · rintro ⟨hvalue, hsmall, hsign⟩
      have hle : rem ≤ 0 := by
        rcases hsign with h0 | hs
        · omega
        · rw [Int.sign_eq_neg_one_of_neg hneg] at hs
          exact Int.le_of_lt (Int.sign_eq_neg_one_iff_neg.1 hs)
      refine ⟨?_, by omega, hle⟩
      rw [Int.add_comm, Int.mul_comm]
      exact hvalue
    · rintro ⟨hvalue, hlow, hle⟩
      refine ⟨?_, by omega, ?_⟩
      · rw [Int.add_comm, Int.mul_comm]
        exact hvalue
      · rw [Int.sign_eq_neg_one_of_neg hneg]
        rcases Int.lt_or_eq_of_le hle with hlt | h0
        · exact .inr (Int.sign_eq_neg_one_of_neg hlt)
        · exact .inl h0
  · rw [Int.zero_tdiv, Int.zero_tmod]
    constructor
    · rintro ⟨hvalue, hsmall, hsign⟩
      have hrem : rem = 0 := by
        rcases hsign with h0 | hs
        · exact h0
        · exact Int.sign_eq_zero_iff_zero.1 hs
      rw [hrem, Int.add_zero] at hvalue
      exact ⟨((Int.mul_eq_zero.1 hvalue).resolve_right hb).symm, hrem.symm⟩
    · rintro ⟨rfl, rfl⟩
      exact ⟨by omega, by omega, .inl rfl⟩
  · rw [Int.tdiv_tmod_unique (Int.le_of_lt hpos) hb]
    constructor
    · rintro ⟨hvalue, hsmall, hsign⟩
      have hle : 0 ≤ rem := by
        rcases hsign with h0 | hs
        · omega
        · rw [Int.sign_eq_one_of_pos hpos] at hs
          exact Int.le_of_lt (Int.sign_eq_one_iff_pos.1 hs)
      refine ⟨?_, hle, by omega⟩
      rw [Int.add_comm, Int.mul_comm]
      exact hvalue
    · rintro ⟨hvalue, hle, hlt⟩
      refine ⟨?_, by omega, ?_⟩
      · rw [Int.add_comm, Int.mul_comm]
        exact hvalue
      · rw [Int.sign_eq_one_of_pos hpos]
        rcases Int.lt_or_eq_of_le hle with hgt | h0
        · exact .inr (Int.sign_eq_one_of_pos hgt)
        · exact .inl h0.symm

/-- The three outcomes of DIV, each with what makes it right. -/
theorem divAlu_cases (a b : Int) :
    (divAlu a b = .byZero ∧ b = 0) ∨
      (∃ neg, divAlu a b = .overflow neg ∧ ∀ q rem, IsDivision a b q rem → ¬ FitsWord q) ∨
      ∃ q rem, divAlu a b = .quotient q rem ∧ IsDivision a b q rem ∧ FitsWord q := by
  unfold divAlu
  by_cases hz : b = 0
  · rw [if_pos hz]
    exact .inl ⟨rfl, hz⟩
  · rw [if_neg hz]
    by_cases hmin : a = -0x80000000 ∧ b = -1
    · rw [if_pos hmin]
      refine .inr (.inl ⟨false, rfl, ?_⟩)
      intro q rem hdiv
      obtain ⟨hq, -⟩ := (isDivision_iff hz).1 hdiv
      obtain ⟨rfl, rfl⟩ := hmin
      rw [← hq]
      unfold FitsWord
      decide
    · rw [if_neg hmin]
      dsimp only
      by_cases hover : 0o77777 < a.tdiv b ∨ a.tdiv b < -0o100000
      · rw [if_pos hover]
        refine .inr (.inl ⟨_, rfl, ?_⟩)
        intro q rem hdiv
        obtain ⟨hq, -⟩ := (isDivision_iff hz).1 hdiv
        rw [← hq]
        unfold FitsWord
        omega
      · rw [if_neg hover]
        refine .inr (.inr ⟨_, _, rfl, (isDivision_iff hz).2 ⟨rfl, Int.tmod_def a b⟩, ?_⟩)
        unfold FitsWord
        omega

theorem toInt_ofInt_word {i : Int} (h : FitsWord i) : (BitVec.ofInt 16 i).toInt = i := by
  rw [BitVec.toInt_ofInt]
  exact Int.bmod_eq_of_le h.1 (Int.lt_add_one_of_le h.2)

/-- A remainder is smaller than a divisor of one word. -/
theorem IsDivision.rem_fits {a q rem : Int} {v : Word} (h : IsDivision a v.toInt q rem) : FitsWord rem := by
  have hsmall := h.small
  have hlow := BitVec.le_two_mul_toInt (x := v)
  have hhigh := BitVec.two_mul_toInt_lt (x := v)
  unfold FitsWord
  omega

theorem condCodes_v {r : Regs} (h : r.explicitPsw = false) (n z : Option Bool) (v c : Bool) :
    (condCodes (r.setCc n z (some v) (some c)).psw).v = v := by
  rw [condCodes_setCc h]
  rfl

theorem condCodes_c {r : Regs} (h : r.explicitPsw = false) (n z : Option Bool) (v c : Bool) :
    (condCodes (r.setCc n z (some v) (some c)).psw).c = c := by
  rw [condCodes_setCc h]
  rfl

theorem withPair_model (hi lo : Word) (n z : Option Bool) (vf cf : Bool) (r : Regs) :
    (r.withPair reg hi lo n z vf cf).model = r.model := setCc_model ..

theorem div_stored {r : Regs} {a q rem : Int} (hdiv : IsDivision a v.toInt q rem) (hq : FitsWord q)
    (n z : Option Bool) :
    DivStored reg q rem (if r.model = .dcj11 ∨ reg &&& 1 = 0 then
      r.withPair reg (BitVec.ofInt 16 q) (BitVec.ofInt 16 rem) n z false false
    else (r.withReg reg (BitVec.ofInt 16 q)).setCc n z (some false) (some false)) := by
  have hrem := toInt_ofInt_word hdiv.rem_fits
  unfold DivStored
  by_cases heven : reg &&& 1 = 0
  · rw [if_pos heven, if_pos (.inr heven), withPair_high _ _ _ _ _ _ _ heven, withPair_low]
    exact ⟨toInt_ofInt_word hq, hrem⟩
  · rw [if_neg heven]
    by_cases hj11 : r.model = .dcj11
    · have hodd := withPair_low (BitVec.ofInt 16 q) (BitVec.ofInt 16 rem) n z false false r reg
      rw [oddReg_eq reg heven] at hodd
      rw [if_pos (.inl hj11), hodd, withPair_model, if_pos hj11]
      exact hrem
    · have hreg : (r.withReg reg (BitVec.ofInt 16 q)).r reg = BitVec.ofInt 16 q := Function.update_self ..
      have hmodel : (r.withReg reg (BitVec.ofInt 16 q)).model = r.model := rfl
      rw [if_neg (not_or.2 ⟨hj11, heven⟩), setCc_r, setCc_model, hmodel, if_neg hj11, hreg]
      exact toInt_ofInt_word hq

theorem ashc_stored {r : Regs} (h : r.explicitPsw = false) (reg : BitVec 3) (v : Word) (src : Regs)
    (res : ShiftResult) (n z : Option Bool) :
    AshcExact reg v src (r.withPair reg ((res.value >>> 16).setWidth 16) (res.value.setWidth 16) n z res.v res.c) ↔
      res.value.setWidth 16 = (Shift.arith (registerPair reg src) (shiftCount v)).value.setWidth 16 ∧
        (reg &&& 1 = 0 → res.value = (Shift.arith (registerPair reg src) (shiftCount v)).value) ∧
        res.v = (Shift.arith (registerPair reg src) (shiftCount v)).signChanged ∧
        res.c = (Shift.arith (registerPair reg src) (shiftCount v)).lastOut := by
  obtain ⟨hv, hc⟩ := withPair_flags ((res.value >>> 16).setWidth 16) (res.value.setWidth 16) n z res.v res.c h reg
  constructor
  · rintro ⟨hlow, hpair, hover, hcarry⟩
    rw [withPair_low] at hlow
    rw [hv] at hover
    rw [hc] at hcarry
    refine ⟨hlow, ?_, hover, hcarry⟩
    intro heven
    rw [← hpair heven, withPair_pair heven]
  · rintro ⟨hlow, hpair, hover, hcarry⟩
    refine ⟨?_, ?_, hv.trans hover, hc.trans hcarry⟩
    · rw [withPair_low, hlow]
    · intro heven
      rw [withPair_pair heven, hpair heven]

end Exactness

/-! ## The instructions are exact -/

section Instructions

variable {e : Env β} {reg : BitVec 3} {ss v : Word} {m m₁ : Machine β}

/-- The registers an instruction works on: the J-11 takes them after the operand access. -/
def eisSource (before after : Regs) : Regs := if before.model = .dcj11 then after else before

theorem registerOperand_eq {α : Type} {before after : Regs} (h : after.model = before.model) (f : Regs → α) :
    registerOperand before after f = f (eisSource before after) := by
  unfold registerOperand eisSource
  rw [h]
  split <;> rfl

theorem mul_isExact (hmodel : m.core.model ≠ .k1801vm1) (hsame : m₁.core.model = m.core.model)
    (hflags : m₁.core.explicitPsw = false) (h : Answers (e.readOperand ss) m v m₁) :
    ∃ m', (e.mul reg ss).run m = .done () m' ∧ MulExact reg v (eisSource m.core m₁.core) m'.core := by
  obtain ⟨m', hrun, hcore⟩ := mul_run hmodel h
  refine ⟨m', hrun, ?_⟩
  rw [registerOperand_eq hsame] at hcore
  dsimp only at hcore
  rw [hcore]
  exact mul_exact hflags reg v _ _ _

theorem div_isExact (hmodel : m.core.model ≠ .k1801vm1) (hsame : m₁.core.model = m.core.model)
    (hflags : m₁.core.explicitPsw = false) (h : Answers (e.readOperand ss) m v m₁) :
    ∃ m', (e.div reg ss).run m = .done () m' ∧
      DivExact reg v (eisSource m.core m₁.core) m₁.core m'.core := by
  obtain ⟨m', hrun, hcore⟩ := div_run hmodel h
  refine ⟨m', hrun, ?_⟩
  rw [registerOperand_eq hsame] at hcore
  rcases divAlu_cases (registerPair reg (eisSource m.core m₁.core)).toInt v.toInt with
    ⟨hz, hv⟩ | ⟨neg, hover, hnone⟩ | ⟨q, rem, hquot, hdiv, hq⟩
  · rw [hz] at hcore
    obtain ⟨n, z, hcore⟩ := hcore
    have hzero : v = 0 := BitVec.eq_of_toInt_eq (hv.trans rfl)
    rw [hcore]
    exact .refused (.inl hzero) (condCodes_v hflags n z _ _) (setCc_r ..)
  · rw [hover] at hcore
    obtain ⟨n, z, hcore⟩ := hcore
    rw [hcore]
    exact .refused (.inr hnone) (condCodes_v hflags n z _ _) (setCc_r ..)
  · rw [hquot] at hcore
    dsimp only at hcore
    rw [hcore]
    refine .done hdiv hq ?_ (div_stored hdiv hq _ _)
    split
    · exact (withPair_flags _ _ _ _ _ _ hflags reg).1
    · have hflags' (x : Word) : (m₁.core.withReg reg x).explicitPsw = false := hflags
      exact condCodes_v (hflags' _) _ _ _ _

theorem ash_isExact (hmodel : m.core.model ≠ .k1801vm1) (hsame : m₁.core.model = m.core.model)
    (hflags : m₁.core.explicitPsw = false) (h : Answers (e.readOperand ss) m v m₁) :
    ∃ m', (e.ash reg ss).run m = .done () m' ∧ AshExact reg v (eisSource m.core m₁.core) m'.core := by
  obtain ⟨m', hrun, n, z, hcore⟩ := ash_run hmodel h
  refine ⟨m', hrun, ?_⟩
  rw [registerOperand_eq hsame] at hcore
  obtain ⟨hvalue, hv, hc⟩ := ash_exact ((eisSource m.core m₁.core).r reg) v
  rw [hcore]
  have hflags' (x : Word) : (m₁.core.withReg reg x).explicitPsw = false := hflags
  refine ⟨?_, (condCodes_v (hflags' _) n z _ _).trans hv, (condCodes_c (hflags' _) n z _ _).trans hc⟩
  rw [setCc_r]
  exact (Function.update_self reg _ m₁.core.r).trans hvalue

/-- The sign of the pair, before the operand access and after it. -/
theorem registerPair_msb (reg : BitVec 3) (r : Regs) : (registerPair reg r).msb = (r.r reg).msb := by
  unfold registerPair
  rw [BitVec.msb_eq_getLsbD_last, BitVec.msb_eq_getLsbD_last, BitVec.getLsbD_or, BitVec.getLsbD_shiftLeft,
    BitVec.getLsbD_setWidth, BitVec.getLsbD_setWidth, BitVec.getLsbD_of_ge _ _ (show 16 ≤ 32 - 1 by decide)]
  simp

theorem ashc_isExact_iff (hmodel : m.core.model ≠ .k1801vm1) (hsame : m₁.core.model = m.core.model)
    (hflags : m₁.core.explicitPsw = false) (hregs : m₁.core.r = operandStepped ss .word m.core.r)
    (h : Answers (e.readOperand ss) m v m₁) :
    ∃ m', (e.ashc reg ss).run m = .done () m' ∧
      (AshcExact reg v (eisSource m.core m₁.core) m'.core ↔ ¬ AshcSignLost .ashc reg ss v m.core) := by
  obtain ⟨m', hrun, n, z, hcore⟩ := ashc_run hmodel h
  refine ⟨m', hrun, ?_⟩
  rw [registerOperand_eq hsame] at hcore
  rw [hcore, ashc_stored hflags]
  by_cases hsign : (m₁.core.r reg).msb = (registerPair reg (eisSource m.core m₁.core)).msb
  · have hexact := ashc_exact (registerPair reg (eisSource m.core m₁.core)) v
    rw [← hsign] at hexact
    obtain ⟨hvalue, hv, hc⟩ := hexact
    rw [BitVec.setWidth_eq] at hvalue
    refine iff_of_true ⟨by rw [hvalue], fun _ => hvalue, hv, hc⟩ ?_
    rintro ⟨-, hj11, hturned, -⟩
    apply hturned
    rw [← hregs, hsign, registerPair_msb, eisSource, if_neg hj11]
  · have hj11 : m.core.model ≠ .dcj11 := by
      intro hj11
      apply hsign
      rw [registerPair_msb, eisSource, if_pos hj11]
    rw [eisSource, if_neg hj11] at hsign ⊢
    have hturned : (operandStepped ss .word m.core.r reg).msb ≠ (m.core.r reg).msb := by
      rw [← hregs, ← registerPair_msb reg m.core]
      exact hsign
    constructor
    · rintro ⟨hlow, -, hv, -⟩ ⟨-, -, -, hdepends⟩
      exact hdepends (signFree_of_low hsign hlow hv)
    · intro hlost
      have hfree : SignFree (registerPair reg m.core) v := by
        by_contra hdepends
        exact hlost ⟨rfl, hj11, hturned, hdepends⟩
      obtain ⟨hvalue, hv, hc⟩ := ashc_signFree hsign hfree
      rw [BitVec.setWidth_eq] at hvalue
      exact ⟨by rw [hvalue], fun _ => hvalue, hv, hc⟩

end Instructions

/-- MUL, DIV, ASH and ASHC compute what they are to compute, except an ASHC that goes by the wrong
    sign. -/
theorem eis_exact_iff {h : Host β} {n : Nat} {op : EisOp} {reg : BitVec 3} {ss v : Word}
    {m m₁ : Machine β} (hmodel : m.core.model ≠ .k1801vm1) (hstart : AtInstruction m.core)
    (hoperand : Answers ((Env.nested h n).readOperand ss) m v m₁) :
    ∃ m', ((Env.nested h n).execute (op.instr reg ss)).run m = .done {} m' ∧
      (op.Exact reg v (eisSource m.core m₁.core) m₁.core m'.core ↔ ¬ AshcSignLost op reg ss v m.core) := by
  have he := Env.nested_trapsAbort h n
  have hkept := (Quiet.readOperand he ss).keeps _ _ _ hoperand
  have hregs := (RegSteps.readOperand he ss).steps _ _ _ hoperand
  have hsame : m₁.core.model = m.core.model := congrArg (fun r => r.model) hkept
  have hflags : m₁.core.explicitPsw = false := by
    have hexplicit : m₁.core.explicitPsw = m.core.explicitPsw := congrArg (fun r => r.explicitPsw) hkept
    rw [hexplicit, Regs.explicitPsw, hstart.implicitPsw, Bool.and_false]
  have hplain {p : M β Unit} {m' : Machine β} (hp : p.run m = .done () m') :
      (Env.plain p).run m = .done {} m' := by
    unfold Env.plain
    rw [Program.run_bind, hp]
    rfl
  have hother (hne : op ≠ .ashc) : ¬ AshcSignLost op reg ss v m.core := fun hlost => hne hlost.1
  cases op with
  | mul =>
    obtain ⟨m', hrun, hexact⟩ := mul_isExact hmodel hsame hflags hoperand
    exact ⟨m', hplain hrun, iff_of_true hexact (hother nofun)⟩
  | div =>
    obtain ⟨m', hrun, hexact⟩ := div_isExact hmodel hsame hflags hoperand
    exact ⟨m', hplain hrun, iff_of_true hexact (hother nofun)⟩
  | ash =>
    obtain ⟨m', hrun, hexact⟩ := ash_isExact hmodel hsame hflags hoperand
    exact ⟨m', hplain hrun, iff_of_true hexact (hother nofun)⟩
  | ashc =>
    obtain ⟨m', hrun, hiff⟩ := ashc_isExact_iff hmodel hsame hflags hregs hoperand
    exact ⟨m', hplain hrun, hiff⟩

/-- A VM2 with 077776 in R0 and a count of -32 there. -/
def turningMachine : Machine Memory where
  core := { model := .k1801vm2, r := fun i => if i = 0 then 0o77776 else 0 }
  bus := Memory.ofWords 0o77776 [0o40]

def turningMachineRead : Machine Memory :=
  (((Env.nested (hwstub false) 1).readOperand 0o20).run turningMachine).state

def turningMachineAfter : Machine Memory :=
  (((Env.nested (hwstub false) 1).execute (.ashc 0 0o20)).run turningMachine).state

theorem eis_exact_iff_ash :
    ∃ m', ((Env.nested (hwstub false) 1).execute (EisOp.ash.instr 0 0o20)).run turningMachine = .done {} m' ∧
      (EisOp.ash.Exact 0 0o40 (eisSource turningMachine.core turningMachineRead.core) turningMachineRead.core
        m'.core ↔ ¬ AshcSignLost .ash 0 0o20 0o40 turningMachine.core) :=
  eis_exact_iff (by decide) ⟨rfl, rfl, rfl⟩ ⟨rfl, rfl⟩

/-- `ASHC (R0)+, R0` on that machine: R0 turns negative as it is stepped, and the positive pair is
    shifted out to -1. -/
theorem ashc_takes_stepped_sign :
    ((Env.nested (hwstub false) 1).execute (EisOp.ashc.instr 0 0o20)).run turningMachine =
      .done {} turningMachineAfter ∧
    ¬ EisOp.ashc.Exact 0 0o40 (eisSource turningMachine.core turningMachineRead.core)
      turningMachineRead.core turningMachineAfter.core := by
  refine ⟨rfl, ?_⟩
  rintro ⟨hlow, -⟩
  have hleft : turningMachineAfter.core.r (0 ||| 1) = 0o177777 := rfl
  have hright : (Shift.arith (registerPair 0 (eisSource turningMachine.core turningMachineRead.core))
      (shiftCount 0o40)).value.setWidth 16 = 0 := by decide +kernel
  rw [hleft, hright] at hlow
  cases hlow

end K1801.Core
