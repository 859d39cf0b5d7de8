import Mathlib.Algebra.GroupWithZero.Nat

/-! # Addresses in two registers

An address of more than 16 bits is kept as its low word and its extension bits. Stepping to the next word adds 2 to
the low word and carries into the extension when the low word wraps.
-/

namespace K1801.Library

namespace SplitAddress

variable {k : Nat}

def low (a : BitVec (16 + k)) : BitVec 16 := a.setWidth 16

def ext (a : BitVec (16 + k)) : BitVec 8 := (a >>> 16).setWidth 8

/-- The address of word `j` of a run of words; a fixed address stays. -/
def nth (a : BitVec (16 + k)) (fixed : Bool) (j : Nat) : BitVec (16 + k) :=
  if fixed then a else a + BitVec.ofNat (16 + k) (2 * j)

theorem nth_zero (a : BitVec (16 + k)) (fixed : Bool) : nth a fixed 0 = a := by
  unfold nth
  split
  · rfl
  · exact BitVec.add_zero a

theorem nth_succ (a : BitVec (16 + k)) (fixed : Bool) (j : Nat) :
    nth a fixed (j + 1) = if fixed then nth a fixed j else nth a fixed j + 2 := by
  unfold nth
  cases fixed with
  | true => rfl
  | false =>
    show a + BitVec.ofNat (16 + k) (2 * j + 2) = a + BitVec.ofNat (16 + k) (2 * j) + 2
    rw [BitVec.ofNat_add, ← BitVec.add_assoc]
    rfl

/-! ## The two registers as numbers -/

theorem two_pow_split : 2 ^ (16 + k) = 65536 * 2 ^ k := Nat.pow_add 2 16 k

theorem low_toNat (a : BitVec (16 + k)) : (low a).toNat = a.toNat % 65536 := BitVec.toNat_setWidth 16 a

theorem ext_toNat (hk : k ≤ 8) (a : BitVec (16 + k)) : (ext a).toNat = a.toNat / 65536 := by
  have hle : 2 ^ k ≤ 2 ^ 8 := Nat.pow_le_pow_right (by decide) hk
  have hlt := a.isLt
  rw [two_pow_split] at hlt
  unfold ext
  rw [BitVec.toNat_setWidth, BitVec.toNat_ushiftRight, Nat.shiftRight_eq_div_pow]
  exact Nat.mod_eq_of_lt (by omega)

theorem add_two_toNat (a : BitVec (16 + k)) : (a + 2).toNat = (a.toNat + 2) % (65536 * 2 ^ k) := by
  have hle : 65536 * 1 ≤ 65536 * 2 ^ k := Nat.mul_le_mul_left 65536 (Nat.two_pow_pos k)
  have htwo : (2 : BitVec (16 + k)).toNat = 2 := by
    show 2 % 2 ^ (16 + k) = 2
    rw [two_pow_split]
    exact Nat.mod_eq_of_lt (by omega)
  rw [BitVec.toNat_add, htwo, two_pow_split]

theorem low_add_two (a : BitVec (16 + k)) : low (a + 2) = low a + 2 := by
  apply BitVec.eq_of_toNat_eq
  rw [BitVec.toNat_add, low_toNat, low_toNat, add_two_toNat, Nat.mod_mul_right_mod]
  show _ = (a.toNat % 65536 + 2) % 65536
  omega

/-- The low word wraps when the extension takes a carry. -/
theorem ext_add_two (hk : k ≤ 8) (a : BitVec (16 + k)) : (ext (a + 2)).toNat =
    if low a + 2 < low a then ((ext a).toNat + 1) % 2 ^ k else (ext a).toNat := by
  have hlt := a.isLt
  rw [two_pow_split] at hlt
  have hext : a.toNat / 65536 < 2 ^ k := Nat.div_lt_of_lt_mul hlt
  have hwrap : low a + 2 < low a ↔ 65536 ≤ a.toNat % 65536 + 2 := by
    rw [BitVec.lt_def, BitVec.toNat_add, low_toNat]
    show (a.toNat % 65536 + 2) % 65536 < a.toNat % 65536 ↔ _
    omega
  rw [ext_toNat hk, ext_toNat hk, add_two_toNat, Nat.mod_mul_right_div_self]
  by_cases hcarry : low a + 2 < low a
  · have hover := hwrap.1 hcarry
    rw [if_pos hcarry, show (a.toNat + 2) / 65536 = a.toNat / 65536 + 1 by omega]
  · have hunder : ¬ 65536 ≤ a.toNat % 65536 + 2 := fun h => hcarry (hwrap.2 h)
    rw [if_neg hcarry, show (a.toNat + 2) / 65536 = a.toNat / 65536 by omega]
    exact Nat.mod_eq_of_lt hext

end SplitAddress

end K1801.Library
