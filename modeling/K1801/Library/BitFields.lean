import Mathlib.Data.Nat.Bitwise

/-! # Fields of a word

A word put together from shifted fields that do not overlap gives each of them back.
-/

namespace K1801.Library

/-- The `width` bits of a number from `low` on. -/
def fieldAt (low width n : Nat) : Nat := (n >>> low) % 2 ^ width

variable {low width n v s : Nat}

theorem fieldAt_or (low width m n : Nat) : fieldAt low width (m ||| n) = fieldAt low width m ||| fieldAt low width n := by
  unfold fieldAt
  rw [Nat.shiftRight_or_distrib, Nat.or_mod_two_pow]

theorem fieldAt_lt (low width n : Nat) : fieldAt low width n < 2 ^ width := Nat.mod_lt _ (Nat.two_pow_pos width)

/-- The field itself. -/
theorem fieldAt_same (hv : v < 2 ^ width) : fieldAt low width (v <<< low) = v := by
  unfold fieldAt
  rw [Nat.shiftLeft_shiftRight, Nat.mod_eq_of_lt hv]

theorem fieldAt_zero (hv : v < 2 ^ width) : fieldAt 0 width v = v := Nat.mod_eq_of_lt hv

/-- A field above. -/
theorem fieldAt_above (hs : low + width ≤ s) : fieldAt low width (v <<< s) = 0 := by
  have hsplit : v <<< s = (v <<< (s - (low + width)) <<< width) <<< low := by
    rw [← Nat.shiftLeft_add, ← Nat.shiftLeft_add]
    congr 1
    omega
  unfold fieldAt
  rw [hsplit, Nat.shiftLeft_shiftRight, Nat.shiftLeft_eq _ width]
  exact Nat.mul_mod_left _ _

/-- A field below. -/
theorem fieldAt_below (hn : n < 2 ^ low) : fieldAt low width n = 0 := by
  unfold fieldAt
  rw [Nat.shiftRight_eq_div_pow, Nat.div_eq_of_lt hn]
  exact Nat.zero_mod _

theorem extract_ofNat {m : Nat} (low width n : Nat) (hwidth : low + width ≤ m) :
    (BitVec.ofNat m n).extractLsb' low width = BitVec.ofNat width (fieldAt low width n) := by
  apply BitVec.eq_of_getLsbD_eq
  intro i hi
  unfold fieldAt
  rw [BitVec.getLsbD_extractLsb', BitVec.getLsbD_ofNat, BitVec.getLsbD_ofNat, Nat.testBit_mod_two_pow,
    Nat.testBit_shiftRight]
  have hin : low + i < m := by omega
  simp [hi, hin]

theorem getLsbD_ofNat_field {m : Nat} (k n : Nat) (hk : k < m) :
    (BitVec.ofNat m n).getLsbD k = decide (fieldAt k 1 n = 1) := by
  unfold fieldAt
  rw [BitVec.getLsbD_ofNat, decide_eq_true hk, Bool.true_and, Nat.testBit_eq_decide_div_mod_eq,
    Nat.shiftRight_eq_div_pow, Nat.pow_one]

theorem ofNat_inj {m k : Nat} (hn : n < 2 ^ m) (hk : k < 2 ^ m) : BitVec.ofNat m n = BitVec.ofNat m k ↔ n = k := by
  constructor
  · intro h
    have hvalue := congrArg BitVec.toNat h
    rwa [BitVec.toNat_ofNat, BitVec.toNat_ofNat, Nat.mod_eq_of_lt hn, Nat.mod_eq_of_lt hk] at hvalue
  · rintro rfl
    rfl

/-! ## Packed fields -/

/-- A value in its place. -/
structure Packed where
  low : Nat
  width : Nat
  value : Nat

def pack (ps : List Packed) : Nat := ps.foldr (fun p n => p.value <<< p.low ||| n) 0

theorem pack_nil : pack [] = 0 := rfl

theorem pack_cons (low width value : Nat) (ps : List Packed) :
    pack (⟨low, width, value⟩ :: ps) = value <<< low ||| pack ps := rfl

def Packed.Apart (p q : Packed) : Prop := p.low + p.width ≤ q.low ∨ q.low + q.width ≤ p.low

instance (p q : Packed) : Decidable (p.Apart q) := inferInstanceAs (Decidable (_ ∨ _))

theorem shiftLeft_lt (hv : v < 2 ^ width) (hs : s + width ≤ low) : v <<< s < 2 ^ low := by
  rw [Nat.shiftLeft_eq]
  calc v * 2 ^ s < 2 ^ width * 2 ^ s := Nat.mul_lt_mul_of_pos_right hv (Nat.two_pow_pos s)
    _ = 2 ^ (s + width) := by rw [← Nat.pow_add, Nat.add_comm]
    _ ≤ 2 ^ low := Nat.pow_le_pow_right (by decide) hs

theorem fieldAt_apart {p q : Packed} (hfits : q.value < 2 ^ q.width) (happart : p.Apart q) :
    fieldAt p.low p.width (q.value <<< q.low) = 0 := by
  rcases happart with habove | hbelow
  · exact fieldAt_above habove
  · exact fieldAt_below (shiftLeft_lt hfits hbelow)

theorem fieldAt_pack_apart {ps : List Packed} {p : Packed} (hfits : ∀ q ∈ ps, q.value < 2 ^ q.width)
    (happart : ∀ q ∈ ps, p.Apart q) : fieldAt p.low p.width (pack ps) = 0 := by
  induction ps with
  | nil => exact fieldAt_below (Nat.two_pow_pos _)
  | cons q ps ih =>
    have hrest := ih (fun r hr => hfits r (List.mem_cons_of_mem _ hr)) fun r hr => happart r (List.mem_cons_of_mem _ hr)
    have hfirst := fieldAt_apart (hfits q List.mem_cons_self) (happart q List.mem_cons_self)
    change fieldAt _ _ (_ ||| pack ps) = 0
    rw [fieldAt_or, hfirst, hrest]
    rfl

/-- Each field of a packed word is what was put there. -/
theorem fieldAt_pack {ps : List Packed} {p : Packed} (hfits : ∀ q ∈ ps, q.value < 2 ^ q.width)
    (happart : ps.Pairwise Packed.Apart) (hp : p ∈ ps) : fieldAt p.low p.width (pack ps) = p.value := by
  induction ps with
  | nil => cases hp
  | cons q ps ih =>
    obtain ⟨hq, happart⟩ := List.pairwise_cons.mp happart
    have hrest : ∀ r ∈ ps, r.value < 2 ^ r.width := fun r hr => hfits r (List.mem_cons_of_mem _ hr)
    change fieldAt _ _ (_ ||| pack ps) = _
    rw [fieldAt_or]
    rcases List.mem_cons.mp hp with rfl | hp
    · rw [fieldAt_same (hfits p List.mem_cons_self), fieldAt_pack_apart hrest hq, Nat.or_zero]
    · have hswap : p.Apart q := (hq p hp).symm
      rw [fieldAt_apart (hfits q List.mem_cons_self) hswap, ih hrest happart hp, Nat.zero_or]

theorem pack_lt {ps : List Packed} {n : Nat} (hfits : ∀ q ∈ ps, q.value < 2 ^ q.width)
    (hwidth : ∀ q ∈ ps, q.low + q.width ≤ n) : pack ps < 2 ^ n := by
  induction ps with
  | nil => exact Nat.two_pow_pos n
  | cons q ps ih =>
    exact Nat.or_lt_two_pow (shiftLeft_lt (hfits q List.mem_cons_self) (hwidth q List.mem_cons_self))
      (ih (fun r hr => hfits r (List.mem_cons_of_mem _ hr)) fun r hr => hwidth r (List.mem_cons_of_mem _ hr))

end K1801.Library
