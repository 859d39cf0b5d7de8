import K1801.Uj11.Alu

/-! # The datapath of the uJ11

Sixteen registers and Q around the arithmetic unit. A word of microcode selects the pair of operands and what becomes
of the result.
-/

namespace K1801.Uj11

open Core Library

/-- The state of `uj11_datapath`. -/
structure Datapath where
  words : BitVec 4 → Word
  q : Word

/-- The inputs of a clock. -/
structure DatapathIn where
  reset : Bool
  enable : Bool
  a : BitVec 4
  b : BitVec 4
  operation : BitVec 4
  pair : BitVec 3
  destination : BitVec 3
  d : Word
  carry : Bool
  byteMode : Bool
  deriving Repr, DecidableEq

namespace Datapath

def lhsSelect (pair : BitVec 3) : BitVec 2 :=
  BitVec.ofBool (pair.getLsbD 2 && (pair.getLsbD 1 == pair.getLsbD 0)) ++
    BitVec.ofBool ((pair.getLsbD 1 && pair.getLsbD 0) || (pair.getLsbD 2 && (pair.getLsbD 1 || pair.getLsbD 0)))

def rhsSelect (pair : BitVec 3) : BitVec 2 :=
  BitVec.ofBool (pair.getLsbD 1 && (pair.getLsbD 2 || !pair.getLsbD 0)) ++
    BitVec.ofBool ((pair.getLsbD 0 && !pair.getLsbD 1) || (pair.getLsbD 2 && pair.getLsbD 1))

variable (i : DatapathIn) (s : Datapath)

def readA : Word := s.words i.a

def readB : Word := s.words i.b

def lhs : Word :=
  if (lhsSelect i.pair).getLsbD 1 then (if (lhsSelect i.pair).getLsbD 0 then s.readB i else 0)
  else if (lhsSelect i.pair).getLsbD 0 then i.d else s.readA i

def rhs : Word :=
  if (rhsSelect i.pair).getLsbD 1 then (if (rhsSelect i.pair).getLsbD 0 then s.readA i else i.d)
  else if (rhsSelect i.pair).getLsbD 0 then s.q else s.readB i

/-- The arithmetic unit on the selected pair. -/
def alu : Alu :=
  { a := s.lhs i, b := s.rhs i, operation := i.operation, carry := i.carry, byteMode := i.byteMode }

def result : Word := (s.alu i).result

def keepHigh : Bool := i.byteMode && i.destination == 5

def signHigh : Bool := i.byteMode && i.destination == 6

def shifted : Word :=
  if i.destination = 3 then (s.result i).extractLsb' 0 15 ++ BitVec.ofBool (s.q.getLsbD 15)
  else if i.destination = 4 then BitVec.ofBool ((s.result i).getLsbD 15) ++ (s.result i).extractLsb' 1 15
  else s.result i

def writeback : Word :=
  (if keepHigh i then (s.readB i).extractLsb' 8 8
    else if signHigh i then (if (s.result i).getLsbD 7 then ~~~(0 : Byte) else 0)
    else (s.shifted i).extractLsb' 8 8) ++ (s.shifted i).extractLsb' 0 8

def rfWrite : Bool :=
  i.enable && !i.reset &&
    (i.destination == 1 || i.destination == 3 || i.destination == 4 || i.destination == 5 || i.destination == 6)

/-- The state after a clock. -/
def step : Datapath :=
  { words := if rfWrite i then fun k => if k = i.b then s.writeback i else s.words k else s.words
    q :=
      if i.reset then 0
      else if i.enable then
        match i.destination.toNat with
        | 2 => s.result i
        | 3 => s.q.extractLsb' 0 15 ++ BitVec.ofBool false
        | 4 => BitVec.ofBool ((s.result i).getLsbD 0) ++ s.q.extractLsb' 1 15
        | _ => s.q
      else s.q }

/-! ## Operands -/

/-- The eight pairs of operands. -/
def operands (i : DatapathIn) (s : Datapath) : Word × Word :=
  match i.pair.toNat with
  | 0 => (s.readA i, s.readB i)
  | 1 => (s.readA i, s.q)
  | 2 => (s.readA i, i.d)
  | 3 => (i.d, s.readB i)
  | 4 => (0, s.readB i)
  | 5 => (i.d, s.q)
  | 6 => (i.d, s.readA i)
  | _ => (s.readB i, s.readA i)

theorem operands_eq : (s.lhs i, s.rhs i) = operands i s := by
  have hlt := i.pair.isLt
  have hpair : i.pair = BitVec.ofNat 3 i.pair.toNat := (BitVec.ofNat_toNat 3 i.pair).symm
  unfold operands lhs rhs
  generalize i.pair.toNat = code at hlt hpair
  rw [hpair]
  interval_cases code <;> rfl

/-! ## What is written -/

variable {i : DatapathIn} {s : Datapath}

theorem halves (x : Word) : x.extractLsb' 8 8 ++ x.extractLsb' 0 8 = x := by
  apply BitVec.eq_of_toNat_eq
  have hx := x.isLt
  rw [Alu.toNat_append, Alu.toNat_extract, Alu.toNat_extract]
  omega

theorem top_bit (x : Word) : (x.getLsbD 15).toNat = x.toNat / 32768 := by
  have hx := x.isLt
  rw [Alu.sign16]
  by_cases h : 32768 ≤ x.toNat % (2 * 32768)
  · rw [decide_eq_true h, Bool.toNat_true]
    omega
  · rw [decide_eq_false h, Bool.toNat_false]
    omega

theorem low_bit (x : Word) : (x.getLsbD 0).toNat = x.toNat % 2 := by
  rw [BitVec.getLsbD, Nat.testBit_eq_decide_div_mod_eq, Nat.pow_zero, Nat.div_one]
  rcases Nat.mod_two_eq_zero_or_one x.toNat with h | h <;> rw [h] <;> rfl

/-- A clock that is neither a reset nor a stall. -/
def Runs (i : DatapathIn) : Prop := i.reset = false ∧ i.enable = true

instance (i : DatapathIn) : Decidable (Runs i) := inferInstanceAs (Decidable (_ ∧ _))

theorem step_word (h : Runs i)
    (hdest : (i.destination == 1 || i.destination == 3 || i.destination == 4 || i.destination == 5 ||
      i.destination == 6) = true) : (s.step i).words i.b = s.writeback i := by
  have hwrite : rfWrite i = true := by
    unfold rfWrite
    rw [h.1, h.2, hdest]
    rfl
  unfold step
  dsimp only
  rw [if_pos hwrite]
  exact if_pos rfl

/-- A byte operand keeps the upper byte of its register. -/
theorem step_operand (h : Runs i) (hbyte : i.byteMode = true) (hdest : i.destination = 5) :
    (s.step i).words i.b = (s.readB i).extractLsb' 8 8 ++ (s.result i).extractLsb' 0 8 := by
  rw [step_word h (by rw [hdest]; decide)]
  have hkeep : keepHigh i = true := by
    unfold keepHigh
    rw [hbyte, hdest]
    rfl
  unfold writeback shifted
  rw [if_pos hkeep, hdest]
  rfl

/-- A moved byte extends its sign. -/
theorem step_mov (h : Runs i) (hbyte : i.byteMode = true) (hdest : i.destination = 6) :
    (s.step i).words i.b = ((s.result i).extractLsb' 0 8).signExtend 16 := by
  rw [step_word h (by rw [hdest]; decide)]
  have hkeep : keepHigh i = false := by
    unfold keepHigh
    rw [hdest]
    exact Bool.and_false _
  have hsign : signHigh i = true := by
    unfold signHigh
    rw [hbyte, hdest]
    rfl
  have hshift : s.shifted i = s.result i := by
    unfold shifted
    rw [hdest]
    rfl
  unfold writeback
  rw [if_neg (by rw [hkeep]; decide), if_pos hsign, hshift]
  generalize s.result i = r
  have hmsb : (r.extractLsb' 0 8).msb = r.getLsbD 7 := by
    rw [BitVec.msb_eq_getLsbD_last, BitVec.getLsbD_extractLsb']
    rfl
  apply BitVec.eq_of_getLsbD_eq
  intro k hk
  rw [BitVec.getLsbD_append, BitVec.getLsbD_signExtend, decide_eq_true hk, Bool.true_and, hmsb]
  by_cases hlow : k < 8
  · rw [if_pos hlow, if_pos hlow]
  · rw [if_neg hlow, if_neg hlow]
    cases r.getLsbD 7 with
    | true =>
      rw [if_pos rfl, BitVec.getLsbD_not, decide_eq_true (show k - 8 < 8 by omega)]
      simp
    | false => simp

/-- A destination that is neither a byte nor a long shift takes the result whole. -/
theorem step_result (h : Runs i)
    (hdest : i.destination = 1 ∨ i.byteMode = false ∧ (i.destination = 5 ∨ i.destination = 6)) :
    (s.step i).words i.b = s.result i := by
  have hkeep : keepHigh i = false := by
    unfold keepHigh
    rcases hdest with hdest | ⟨hbyte, -⟩
    · rw [hdest]
      exact Bool.and_false _
    · rw [hbyte]
      rfl
  have hsign : signHigh i = false := by
    unfold signHigh
    rcases hdest with hdest | ⟨hbyte, -⟩
    · rw [hdest]
      exact Bool.and_false _
    · rw [hbyte]
      rfl
  have hword : i.destination = 1 ∨ i.destination = 5 ∨ i.destination = 6 := hdest.imp id And.right
  have hshift : s.shifted i = s.result i := by
    unfold shifted
    rcases hword with hword | hword | hword <;> rw [hword] <;> rfl
  rw [step_word h (by rcases hword with hword | hword | hword <;> rw [hword] <;> decide)]
  unfold writeback
  rw [if_neg (by rw [hkeep]; decide), if_neg (by rw [hsign]; decide), hshift]
  exact halves _

/-- A left shift moves the result and Q as one number of 32 bits. -/
theorem step_left (h : Runs i) (hdest : i.destination = 3) :
    (s.step i).words i.b ++ (s.step i).q = (s.result i ++ s.q) <<< 1 := by
  have hword : s.writeback i = (s.result i).extractLsb' 0 15 ++ BitVec.ofBool (s.q.getLsbD 15) := by
    unfold writeback keepHigh signHigh shifted
    rw [hdest]
    exact (congrArg (· ++ _) (by cases i.byteMode <;> rfl)).trans (halves _)
  have hq : (s.step i).q = s.q.extractLsb' 0 15 ++ BitVec.ofBool false := by
    unfold step
    dsimp only
    rw [h.1, h.2, hdest]
    rfl
  rw [step_word h (by rw [hdest]; decide), hword, hq]
  apply BitVec.eq_of_toNat_eq
  have hr := (s.result i).isLt
  have hs := s.q.isLt
  rw [BitVec.toNat_shiftLeft, Alu.toNat_append, Alu.toNat_append, Alu.toNat_append, Alu.toNat_append,
    Alu.toNat_extract, Alu.toNat_extract, BitVec.toNat_ofBool, BitVec.toNat_ofBool, top_bit, Nat.shiftLeft_eq]
  simp only [Bool.toNat_false]
  omega

/-- A right shift moves the result and Q as one number of 32 bits, with its sign. -/
theorem step_right (h : Runs i) (hdest : i.destination = 4) :
    (s.step i).words i.b ++ (s.step i).q = (s.result i ++ s.q).sshiftRight 1 := by
  have hword : s.writeback i = BitVec.ofBool ((s.result i).getLsbD 15) ++ (s.result i).extractLsb' 1 15 := by
    unfold writeback keepHigh signHigh shifted
    rw [hdest]
    exact (congrArg (· ++ _) (by cases i.byteMode <;> rfl)).trans (halves _)
  have hq : (s.step i).q = BitVec.ofBool ((s.result i).getLsbD 0) ++ s.q.extractLsb' 1 15 := by
    unfold step
    dsimp only
    rw [h.1, h.2, hdest]
    rfl
  rw [step_word h (by rw [hdest]; decide), hword, hq]
  apply BitVec.eq_of_toNat_eq
  have hr := (s.result i).isLt
  have hs := s.q.isLt
  rw [BitVec.toNat_sshiftRight, BitVec.msb_eq_decide, Alu.toNat_append, Alu.toNat_append, Alu.toNat_append,
    Alu.toNat_append, Alu.toNat_extract, Alu.toNat_extract, BitVec.toNat_ofBool, BitVec.toNat_ofBool, top_bit, low_bit,
    Nat.shiftRight_eq_div_pow, Nat.shiftRight_eq_div_pow]
  simp only [decide_eq_true_eq]
  split <;> omega

/-- The arithmetic unit passes the register that is written. -/
def PassesB (i : DatapathIn) (s : Datapath) : Prop :=
  i.operation = 1 ∧ s.rhs i = s.readB i ∨ i.operation = 0 ∧ s.lhs i = s.readB i

theorem result_pass (h : PassesB i s) : s.result i = s.readB i := by
  rcases h with ⟨hop, hrhs⟩ | ⟨hop, hlhs⟩
  · have hpath : (s.alu i).Path false false false false := Alu.path_of hop (by decide)
    exact ((Alu.result_logic hpath).trans (Alu.logicValue_passB hop)).trans hrhs
  · have hpath : (s.alu i).Path false false false false := Alu.path_of hop (by decide)
    exact ((Alu.result_logic hpath).trans (Alu.logicValue_passA hop)).trans hlhs

/-- The unit is exact in every operation, and the datapath writes bytes, moved bytes and long shifts as documented. -/
theorem step_exact (u : Alu) (h : Runs i) :
    u.outcome = u.exact ∧ (s.lhs i, s.rhs i) = operands i s ∧ (PassesB i s → s.result i = s.readB i) ∧
      (i.destination = 1 ∨ i.byteMode = false ∧ (i.destination = 5 ∨ i.destination = 6) →
        (s.step i).words i.b = s.result i) ∧
      (i.byteMode = true → i.destination = 5 →
        (s.step i).words i.b = (s.readB i).extractLsb' 8 8 ++ (s.result i).extractLsb' 0 8) ∧
      (i.byteMode = true → i.destination = 6 →
        (s.step i).words i.b = ((s.result i).extractLsb' 0 8).signExtend 16) ∧
      (i.destination = 3 → (s.step i).words i.b ++ (s.step i).q = (s.result i ++ s.q) <<< 1) ∧
      (i.destination = 4 → (s.step i).words i.b ++ (s.step i).q = (s.result i ++ s.q).sshiftRight 1) :=
  ⟨u.outcome_exact, operands_eq i s, result_pass, step_result h, step_operand h, step_mov h, step_left h, step_right h⟩

theorem step_exact_shift :
    let i : DatapathIn := ⟨false, true, 0, 1, 1, 0, 4, 0, false, false⟩
    let s : Datapath := ⟨fun _ => 0x8001, 0xA5A5⟩
    (s.step i).words i.b ++ (s.step i).q = (s.result i ++ s.q).sshiftRight 1 :=
  (step_exact ⟨0, 0, 0, false, false⟩ ⟨rfl, rfl⟩).2.2.2.2.2.2.2 rfl

end Datapath

end K1801.Uj11
