import Mathlib.Tactic.SplitIfs

/-! # Wrap-around arithmetic

Patterns below `2 * h` stand for the numbers from 0 on, or from `-h` to `h - 1` when they are read
with a sign. A result of unbounded arithmetic is wrapped to a pattern; it carries when the unsigned
reading cannot hold it, and overflows when the signed one cannot.
-/

namespace K1801.Library.Wrap

variable {h x y : Nat}

/-- The signed reading of a pattern. -/
def signed (h x : Nat) : Int := if x < h then x else x - 2 * h

/-- The pattern of an integer. -/
def wrap (h : Nat) (i : Int) : Nat := (i % (2 * h)).toNat

def Carries (h : Nat) (i : Int) : Prop := i < 0 ∨ 2 * h ≤ i

def Overflows (h : Nat) (i : Int) : Prop := i < -h ∨ (h : Int) ≤ i

instance (h : Nat) (i : Int) : Decidable (Carries h i) := inferInstanceAs (Decidable (_ ∨ _))

instance (h : Nat) (i : Int) : Decidable (Overflows h i) := inferInstanceAs (Decidable (_ ∨ _))

theorem not_carries (hx : x < 2 * h) : ¬ Carries h x := by
  unfold Carries
  omega

theorem not_overflows (hx : x < 2 * h) : ¬ Overflows h (signed h x) := by
  unfold Overflows signed
  split_ifs <;> omega

theorem wrap_lt (hpos : 0 < h) {i : Int} : wrap h i < 2 * h := by
  unfold wrap
  have hlt := Int.emod_lt_of_pos i (by omega : 0 < 2 * (h : Int))
  omega

theorem wrap_of_lt (hx : x < 2 * h) : wrap h x = x := by
  unfold wrap
  rw [Int.emod_eq_of_lt (by omega) (by omega), Int.toNat_natCast]

/-- A pattern has the same wrap in both readings. -/
theorem wrap_signed (hx : x < 2 * h) : wrap h (signed h x) = x := by
  unfold signed
  split_ifs with hneg
  · exact wrap_of_lt hx
  · unfold wrap
    rw [Int.sub_emod_right]
    exact wrap_of_lt hx

theorem wrap_add (hx : x < 2 * h) (hy : y < 2 * h) :
    wrap h (x + y) = if x + y < 2 * h then x + y else x + y - 2 * h := by
  split_ifs with hsum
  · exact wrap_of_lt hsum
  · have heq : ((x : Int) + y) = ((x + y - 2 * h : Nat) : Int) + 2 * h := by omega
    unfold wrap
    rw [heq, Int.add_emod_right]
    exact wrap_of_lt (by omega)

theorem wrap_sub (hx : x < 2 * h) (hy : y < 2 * h) :
    wrap h (x - y) = if y ≤ x then x - y else x + 2 * h - y := by
  split_ifs with hle
  · rw [← Int.ofNat_sub hle]
    exact wrap_of_lt (by omega)
  · have heq : ((x : Int) - y) = ((x + 2 * h - y : Nat) : Int) - 2 * h := by omega
    unfold wrap
    rw [heq, Int.sub_emod_right]
    exact wrap_of_lt (by omega)

theorem wrap_neg (hx : x < 2 * h) : wrap h (-x) = if x = 0 then 0 else 2 * h - x := by
  have hsub := wrap_sub (x := 0) (by omega) hx
  rw [Int.natCast_zero, Int.zero_sub] at hsub
  rw [hsub]
  split_ifs <;> omega

/-- A sum overflows when its sign is not the one that its two terms share. -/
theorem overflows_add_iff (hx : x < 2 * h) (hy : y < 2 * h) :
    Overflows h (signed h x + signed h y) ↔
      (h ≤ x ↔ h ≤ y) ∧ ¬ (h ≤ x ↔ h ≤ wrap h (x + y)) := by
  rw [wrap_add hx hy]
  unfold Overflows signed
  split_ifs <;> omega

/-- A difference overflows when its terms have different signs and it has the second one's. -/
theorem overflows_sub_iff (hx : x < 2 * h) (hy : y < 2 * h) :
    Overflows h (signed h x - signed h y) ↔
      ¬ (h ≤ x ↔ h ≤ y) ∧ (h ≤ y ↔ h ≤ wrap h (x - y)) := by
  rw [wrap_sub hx hy]
  unfold Overflows signed
  split_ifs <;> omega

/-- A doubled number overflows when the doubling changes its sign. -/
theorem overflows_double_iff (hx : x < 2 * h) {b : Nat} (hb : b < 2) :
    Overflows h (2 * signed h x + b) ↔ ¬ (h ≤ wrap h (2 * x + b) ↔ h ≤ x) := by
  have hwrap : wrap h (2 * x + b) = if x < h then 2 * x + b else 2 * x + b - 2 * h := by
    split_ifs with hlt
    · exact wrap_of_lt (x := 2 * x + b) (by omega)
    · have heq : (2 * (x : Int) + b) = ((2 * x + b - 2 * h : Nat) : Int) + 2 * h := by omega
      unfold wrap
      rw [heq, Int.add_emod_right]
      exact wrap_of_lt (by omega)
  rw [hwrap]
  unfold Overflows signed
  split_ifs <;> omega

/-! ## Adders with a carry -/

theorem sum_mod {b : Nat} (hx : x < 2 * h) (hy : y < 2 * h) (hb : b < 2) :
    (x + y + b) % (2 * h) = if x + y + b < 2 * h then x + y + b else x + y + b - 2 * h := by
  split_ifs with hlt
  · exact Nat.mod_eq_of_lt hlt
  · rw [Nat.mod_eq_sub_mod (by omega), Nat.mod_eq_of_lt (by omega)]

theorem wrap_natCast (n : Nat) : wrap h n = n % (2 * h) := by
  have hturn : 2 * (h : Int) = ((2 * h : Nat) : Int) := by omega
  unfold wrap
  rw [hturn, ← Int.natCast_emod, Int.toNat_natCast]

theorem adder_value (b : Nat) : wrap h (x + y + b) = (x + y + b) % (2 * h) := by
  have heq : ((x : Int) + y + b) = ((x + y + b : Nat) : Int) := by omega
  rw [heq]
  exact wrap_natCast _

theorem adder_carries (b : Nat) : Carries h (x + y + b) ↔ 2 * h ≤ x + y + b := by
  unfold Carries
  omega

/-- A sum with a carry overflows when its sign is not the one that its two terms share. -/
theorem adder_overflows {b : Nat} (hx : x < 2 * h) (hy : y < 2 * h) (hb : b < 2) :
    Overflows h (signed h x + signed h y + b) ↔ (h ≤ x ↔ h ≤ y) ∧ ¬ (h ≤ x ↔ h ≤ (x + y + b) % (2 * h)) := by
  rw [sum_mod hx hy hb]
  unfold Overflows signed
  split_ifs <;> omega

/-- The signed reading of a complement. -/
theorem signed_complement (hy : y < 2 * h) : signed h (2 * h - 1 - y) = -signed h y - 1 := by
  unfold signed
  split_ifs <;> omega

/-- The difference with a borrow is the sum with the complement, but for one full turn. -/
theorem subtracter_value {b : Nat} (hy : y < 2 * h) (hb : b < 2) :
    wrap h (x - y - b) = (x + (2 * h - 1 - y) + (1 - b)) % (2 * h) := by
  have heq : ((x : Int) - y - b) = ((x + (2 * h - 1 - y) + (1 - b) : Nat) : Int) - 2 * h := by omega
  unfold wrap
  rw [heq, Int.sub_emod_right]
  exact wrap_natCast _

theorem subtracter_carries {b : Nat} (hx : x < 2 * h) (hy : y < 2 * h) (hb : b < 2) :
    Carries h (x - y - b) ↔ ¬ 2 * h ≤ x + (2 * h - 1 - y) + (1 - b) := by
  unfold Carries
  omega

theorem subtracter_overflows {b : Nat} (hx : x < 2 * h) (hy : y < 2 * h) (hb : b < 2) :
    Overflows h (signed h x - signed h y - b) ↔
      (h ≤ x ↔ h ≤ 2 * h - 1 - y) ∧ ¬ (h ≤ x ↔ h ≤ (x + (2 * h - 1 - y) + (1 - b)) % (2 * h)) := by
  have heq : signed h x - signed h y - b = signed h x + signed h (2 * h - 1 - y) + ((1 - b : Nat) : Int) := by
    rw [signed_complement hy]
    omega
  rw [heq]
  exact adder_overflows hx (by omega) (by omega)

end K1801.Library.Wrap
