import Mathlib.Tactic.SplitIfs
import K1801.Core.Alu

/-! # FIS number formats

A PDP-11 F number and an IEEE single share their layout (a sign bit, eight exponent bits and
23 fraction bits under a hidden one) and differ in the exponent bias and in the patterns with
exponent zero. Magnitudes are counted in units of 2^-151, the last bit of the least F number.
-/

namespace K1801.Core

/-- The three fields that both formats have. -/
structure Packed where
  sign : BitVec 1
  exp : BitVec 8
  frac : BitVec 23
  deriving DecidableEq

def Packed.bits (p : Packed) : Dword := p.sign ++ p.exp ++ p.frac

def Packed.ofBits (x : Dword) : Packed :=
  ⟨x.extractLsb' 31 1, x.extractLsb' 23 8, x.extractLsb' 0 23⟩

theorem Packed.bits_ofBits (x : Dword) : (Packed.ofBits x).bits = x := by
  apply BitVec.eq_of_getLsbD_eq
  intro i hi
  simp only [Packed.bits, Packed.ofBits, BitVec.getLsbD_append, BitVec.getLsbD_extractLsb']
  rcases Nat.lt_or_ge i 23 with hfrac | hfrac
  · simp [hfrac]
  rcases Nat.lt_or_ge i 31 with hexp | hexp
  · have : i - 23 < 8 := by omega
    simp [Nat.not_lt.2 hfrac, this, Nat.add_sub_cancel' hfrac]
  · obtain rfl : i = 31 := by omega
    simp

theorem Packed.ofBits_bits (p : Packed) : Packed.ofBits p.bits = p := by
  obtain ⟨s, e, f⟩ := p
  simp only [Packed.ofBits, Packed.bits, Packed.mk.injEq]
  refine ⟨?_, ?_, ?_⟩ <;> apply BitVec.eq_of_getLsbD_eq <;> intro i hi <;>
    simp only [BitVec.getLsbD_extractLsb', BitVec.getLsbD_append, hi]
  · obtain rfl : i = 0 := by omega
    simp
  · have h₁ : ¬ 23 + i < 23 := by omega
    simp [h₁, Nat.add_sub_cancel_left, hi]
  · simp [hi]

/-! ## The fields the converters read -/

theorem getLsbD_signMask : ∀ i < 32, (0x80000000 : Dword).getLsbD i = decide (31 ≤ i) := by decide

theorem getLsbD_fracMask : ∀ i < 32, (0x7FFFFF : Dword).getLsbD i = decide (i < 23) := by decide

theorem getLsbD_expMask : ∀ i < 32, (0xFF : Dword).getLsbD i = decide (i < 8) := by decide

theorem getLsbD_bits (p : Packed) (i : Nat) :
    p.bits.getLsbD i =
      if i < 23 then p.frac.getLsbD i
      else if i < 31 then p.exp.getLsbD (i - 23)
      else p.sign.getLsbD (i - 31) := by
  simp only [Packed.bits, BitVec.getLsbD_append]
  split_ifs with hfrac hexp hexp' hexp'
  · rfl
  · rfl
  · omega
  · omega
  · congr 1

theorem sign_field (p : Packed) : p.bits &&& 0x80000000 = (⟨p.sign, 0, 0⟩ : Packed).bits := by
  apply BitVec.eq_of_getLsbD_eq
  intro i hi
  simp only [BitVec.getLsbD_and, getLsbD_bits, getLsbD_signMask i hi]
  split_ifs <;> simp <;> omega

theorem exp_field (p : Packed) : (p.bits >>> 23) &&& 0xFF = p.exp.setWidth 32 := by
  apply BitVec.eq_of_getLsbD_eq
  intro i hi
  simp only [BitVec.getLsbD_and, BitVec.getLsbD_ushiftRight, getLsbD_bits, getLsbD_expMask i hi,
    BitVec.getLsbD_setWidth, hi]
  rcases Nat.lt_or_ge i 8 with hexp | hexp
  · simp [hexp, show 23 + i < 31 by omega]
  · simp [Nat.not_lt.2 hexp, BitVec.getLsbD_of_ge _ _ hexp]

theorem frac_field (p : Packed) : p.bits &&& 0x7FFFFF = (⟨0, 0, p.frac⟩ : Packed).bits := by
  apply BitVec.eq_of_getLsbD_eq
  intro i hi
  simp only [BitVec.getLsbD_and, getLsbD_bits, getLsbD_fracMask i hi]
  split_ifs <;> simp_all

theorem exp_placed (e : BitVec 8) : e.setWidth 32 <<< 23 = (⟨0, e, 0⟩ : Packed).bits := by
  apply BitVec.eq_of_getLsbD_eq
  intro i hi
  simp only [BitVec.getLsbD_shiftLeft, BitVec.getLsbD_setWidth, getLsbD_bits, hi]
  split_ifs with hfrac hexp
  · simp [hfrac]
  · simp [Nat.not_lt.1 hfrac, show i - 23 < 32 by omega]
  · simp [BitVec.getLsbD_of_ge e (i - 23) (by omega)]

theorem fields_joined (s : BitVec 1) (e : BitVec 8) (f : BitVec 23) :
    (⟨s, 0, 0⟩ : Packed).bits ||| (⟨0, e, 0⟩ : Packed).bits ||| (⟨0, 0, f⟩ : Packed).bits =
      (⟨s, e, f⟩ : Packed).bits := by
  apply BitVec.eq_of_getLsbD_eq
  intro i hi
  simp only [BitVec.getLsbD_or, getLsbD_bits]
  split_ifs <;> simp

/-! ## The converters on fields -/

theorem exp_wide (e : BitVec 8) : (e.setWidth 32).toNat = e.toNat := by
  simp
  omega

theorem exp_wide_zero (e : BitVec 8) : e.setWidth 32 = (0 : Dword) ↔ e.toNat = 0 := by
  rw [BitVec.toNat_eq, exp_wide]
  rfl

theorem f11ToFloat32_bits (p : Packed) :
    f11ToFloat32 p.bits =
      if p.exp.toNat ≤ 2 then (⟨p.sign, 0, 0⟩ : Packed).bits
      else (⟨p.sign, p.exp - 2, p.frac⟩ : Packed).bits := by
  have hexp := p.exp.isLt
  have htop : ¬ (255 : Int) ≤ p.exp.toNat - 2 := by omega
  unfold f11ToFloat32
  simp only [sign_field, exp_field, frac_field, exp_wide, exp_wide_zero, htop, if_false]
  by_cases hlow : p.exp.toNat ≤ 2
  · have : (p.exp.toNat : Int) - 2 ≤ 0 := by omega
    rw [if_pos hlow, if_pos this, ite_self]
  · have hplaced : BitVec.ofInt 32 (p.exp.toNat - 2) = (p.exp - 2).setWidth 32 := by
      apply BitVec.eq_of_toNat_eq
      simp [BitVec.toNat_sub]
      omega
    rw [if_neg hlow, if_neg (by omega), if_neg (by omega), hplaced, exp_placed, fields_joined]

theorem float32ToF11_bits (p : Packed) :
    float32ToF11 p.bits =
      if p.exp.toNat = 0 then (0, 0)
      else if 254 ≤ p.exp.toNat then ((⟨p.sign, 255, p.frac⟩ : Packed).bits, 0o2)
      else ((⟨p.sign, p.exp + 2, p.frac⟩ : Packed).bits, 0) := by
  have hlow : ¬ (p.exp.toNat + 2 : Int) ≤ 0 := by omega
  have hplaced : (255 : Dword) = (255 : BitVec 8).setWidth 32 := by decide
  unfold float32ToF11
  simp only [sign_field, exp_field, frac_field, exp_wide, exp_wide_zero, hlow, if_false]
  by_cases hzero : p.exp.toNat = 0
  · rw [if_pos hzero, if_pos hzero]
  rw [if_neg hzero, if_neg hzero]
  by_cases hhigh : 254 ≤ p.exp.toNat
  · rw [if_pos hhigh, if_pos (by omega), hplaced, exp_placed, fields_joined]
  · have hadded : BitVec.ofInt 32 (p.exp.toNat + 2) = (p.exp + 2).setWidth 32 := by
      apply BitVec.eq_of_toNat_eq
      simp
      omega
    rw [if_neg hhigh, if_neg (by omega), hadded, exp_placed, fields_joined]

/-! ## Magnitudes -/

/-- The magnitude of an F number; exponent zero is zero. -/
def fMagnitude (p : Packed) : Nat :=
  if p.exp.toNat = 0 then 0 else (2 ^ 23 + p.frac.toNat) * 2 ^ (p.exp.toNat - 1)

/-- The magnitude of a finite IEEE single. -/
def finiteMagnitude (p : Packed) : Nat :=
  if p.exp.toNat = 0 then 4 * p.frac.toNat else (2 ^ 23 + p.frac.toNat) * 2 ^ (p.exp.toNat + 1)

/-- The magnitude of an IEEE single; with exponent 255 there is none, and it is above every number. -/
def ieeeMagnitude (p : Packed) : Option Nat :=
  if p.exp.toNat = 255 then none else some (finiteMagnitude p)

/-- Larger than every F number. -/
def AboveF (p : Packed) : Prop :=
  ∀ n, ieeeMagnitude p = some n → ∀ q : Packed, q.exp ≠ 0 → fMagnitude q < n

/-- Smaller than every F number but not zero. -/
def BelowF (p : Packed) : Prop :=
  ∃ n, ieeeMagnitude p = some n ∧ n ≠ 0 ∧ ∀ q : Packed, q.exp ≠ 0 → n < fMagnitude q

theorem exp_ne_zero {q : Packed} : q.exp ≠ 0 ↔ 0 < q.exp.toNat := by
  rw [Nat.pos_iff_ne_zero, ne_eq, BitVec.toNat_eq]
  rfl

theorem fMagnitude_min {q : Packed} (h : q.exp ≠ 0) : 2 ^ 23 ≤ fMagnitude q := by
  have hpos := exp_ne_zero.1 h
  rw [fMagnitude, if_neg (by omega)]
  calc 2 ^ 23 ≤ 2 ^ 23 + q.frac.toNat := Nat.le_add_right ..
    _ ≤ (2 ^ 23 + q.frac.toNat) * 2 ^ (q.exp.toNat - 1) := Nat.le_mul_of_pos_right _ (Nat.two_pow_pos _)

theorem fMagnitude_max (q : Packed) : fMagnitude q ≤ (2 ^ 24 - 1) * 2 ^ 254 := by
  have hexp := q.exp.isLt
  have hfrac := q.frac.isLt
  rw [fMagnitude]
  split_ifs
  · exact Nat.zero_le _
  · exact Nat.mul_le_mul (by omega) (Nat.pow_le_pow_right (by decide) (by omega))

/-- The least and the greatest F number. -/
def leastF : Packed := ⟨0, 1, 0⟩
def greatestF : Packed := ⟨0, 255, BitVec.allOnes 23⟩

theorem fMagnitude_leastF : fMagnitude leastF = 2 ^ 23 := by decide

theorem fMagnitude_greatestF : fMagnitude greatestF = (2 ^ 24 - 1) * 2 ^ 254 := by decide

theorem finiteMagnitude_le {p : Packed} (h : p.exp.toNat < 254) :
    finiteMagnitude p ≤ (2 ^ 24 - 1) * 2 ^ 254 := by
  have hfrac := p.frac.isLt
  rw [finiteMagnitude]
  split_ifs
  · omega
  · exact Nat.mul_le_mul (by omega) (Nat.pow_le_pow_right (by decide) (by omega))

theorem lt_finiteMagnitude {p : Packed} (h : 254 ≤ p.exp.toNat) :
    (2 ^ 24 - 1) * 2 ^ 254 < finiteMagnitude p := by
  rw [finiteMagnitude, if_neg (by omega)]
  calc (2 ^ 24 - 1) * 2 ^ 254 < 2 ^ 23 * 2 ^ 255 := by decide
    _ ≤ (2 ^ 23 + p.frac.toNat) * 2 ^ (p.exp.toNat + 1) :=
      Nat.mul_le_mul (Nat.le_add_right ..) (Nat.pow_le_pow_right (by decide) (by omega))

theorem finiteMagnitude_normal {p : Packed} (h : p.exp.toNat ≠ 0) : 2 ^ 23 ≤ finiteMagnitude p := by
  rw [finiteMagnitude, if_neg h]
  exact Nat.le_trans (Nat.le_add_right ..) (Nat.le_mul_of_pos_right _ (Nat.two_pow_pos _))

theorem aboveF_iff (p : Packed) : AboveF p ↔ 254 ≤ p.exp.toNat := by
  constructor
  · intro h
    by_contra hlow
    have hgreatest := h _ (if_neg (by omega)) greatestF (by decide)
    rw [fMagnitude_greatestF] at hgreatest
    exact absurd hgreatest (Nat.not_lt.2 (finiteMagnitude_le (by omega)))
  · intro h n hn q _
    rw [ieeeMagnitude] at hn
    split_ifs at hn
    obtain rfl := Option.some.inj hn
    exact Nat.lt_of_le_of_lt (fMagnitude_max q) (lt_finiteMagnitude h)

theorem belowF_iff (p : Packed) : BelowF p ↔ p.exp = 0 ∧ p.frac ≠ 0 ∧ p.frac.toNat < 2 ^ 21 := by
  have hzero : p.frac ≠ 0 ↔ 0 < p.frac.toNat := by
    rw [Nat.pos_iff_ne_zero, ne_eq, BitVec.toNat_eq]
    rfl
  rw [hzero]
  constructor
  · rintro ⟨n, hn, hne, hbelow⟩
    have hleast := hbelow leastF (by decide)
    rw [fMagnitude_leastF] at hleast
    rw [ieeeMagnitude] at hn
    split_ifs at hn
    obtain rfl := Option.some.inj hn
    have hexp : p.exp.toNat = 0 := by
      by_contra hnormal
      have := finiteMagnitude_normal hnormal
      omega
    rw [finiteMagnitude, if_pos hexp] at hleast hne
    exact ⟨BitVec.eq_of_toNat_eq hexp, by omega, by omega⟩
  · rintro ⟨hexp, hpos, hsmall⟩
    refine ⟨4 * p.frac.toNat, by simp [ieeeMagnitude, finiteMagnitude, hexp], by omega, fun q hq => ?_⟩
    have := fMagnitude_min hq
    omega

/-! ## Conversions -/

/-- A finite single that is not denormal and not above the range keeps its magnitude. -/
theorem float32ToF11_exact {p : Packed} (hlow : 0 < p.exp.toNat) (hhigh : p.exp.toNat < 254) :
    ∃ q : Packed, float32ToF11 p.bits = (q.bits, 0) ∧ q.sign = p.sign ∧
      ieeeMagnitude p = some (fMagnitude q) := by
  refine ⟨⟨p.sign, p.exp + 2, p.frac⟩, ?_, rfl, ?_⟩
  · rw [float32ToF11_bits, if_neg (by omega), if_neg (by omega)]
  · have hexp : (p.exp + 2).toNat = p.exp.toNat + 2 := by
      rw [BitVec.toNat_add]
      exact Nat.mod_eq_of_lt (by simp; omega)
    rw [ieeeMagnitude, if_neg (by omega), finiteMagnitude, if_neg (by omega), fMagnitude, hexp,
      if_neg (by omega)]
    rfl

/-- The code for an underflow is never given. -/
theorem underflow_never_reported (i : Dword) : (float32ToF11 i).2 ≠ 0o12 := by
  rw [← Packed.bits_ofBits i, float32ToF11_bits]
  split_ifs <;> simp

/-- Going to the host's format and back changes nothing and reports nothing. -/
def RoundTrips (f : Dword) : Prop :=
  (Packed.ofBits f).exp ≠ 0 → float32ToF11 (f11ToFloat32 f) = (f, 0)

/-- The errors that a back-conversion has to report. -/
def ReportsRange (i : Dword) : Prop :=
  (AboveF (Packed.ofBits i) → (float32ToF11 i).2 = 0o2) ∧
    (BelowF (Packed.ofBits i) → (float32ToF11 i).2 = 0o12)

theorem roundTrip_low {p : Packed} (h : p.exp.toNat ≤ 2) :
    float32ToF11 (f11ToFloat32 p.bits) = (0, 0) := by
  rw [f11ToFloat32_bits, if_pos h, float32ToF11_bits]
  rfl

theorem roundTrip_high {p : Packed} (h : 2 < p.exp.toNat) :
    float32ToF11 (f11ToFloat32 p.bits) = (p.bits, 0) := by
  have hexp := p.exp.isLt
  have hsub : (p.exp - 2).toNat = p.exp.toNat - 2 := by
    rw [BitVec.toNat_sub]
    simp
    omega
  rw [f11ToFloat32_bits, if_neg (by omega), float32ToF11_bits]
  simp only [hsub]
  rw [if_neg (by omega), if_neg (by omega), BitVec.sub_add_cancel]

theorem roundTrips_iff (f : Dword) :
    RoundTrips f ↔ (Packed.ofBits f).exp ≠ 1 ∧ (Packed.ofBits f).exp ≠ 2 := by
  rw [RoundTrips, ← Packed.bits_ofBits f, Packed.ofBits_bits]
  generalize Packed.ofBits f = p
  constructor
  · intro h
    by_contra hlow
    have hle : p.exp.toNat ≤ 2 := by
      rcases Decidable.not_and_iff_not_or_not.1 hlow with hone | htwo
      · simp [Decidable.not_not.1 hone]
      · simp [Decidable.not_not.1 htwo]
    have hne : p.exp ≠ 0 := by
      rintro hzero
      simp [hzero] at hlow
    have hbits : p.bits = (⟨0, 0, 0⟩ : Packed).bits :=
      congrArg Prod.fst ((h hne).symm.trans (roundTrip_low hle))
    have := congrArg Packed.ofBits hbits
    rw [Packed.ofBits_bits, Packed.ofBits_bits] at this
    exact hne (congrArg Packed.exp this)
  · rintro ⟨hone, htwo⟩ hzero
    refine roundTrip_high ?_
    have h₀ := exp_ne_zero.1 hzero
    have h₁ : p.exp.toNat ≠ 1 := fun h => hone (BitVec.eq_of_toNat_eq h)
    have h₂ : p.exp.toNat ≠ 2 := fun h => htwo (BitVec.eq_of_toNat_eq h)
    omega

theorem reportsRange_iff (i : Dword) :
    ReportsRange i ↔ ¬ BelowF (Packed.ofBits i) := by
  rw [ReportsRange, aboveF_iff]
  constructor
  · rintro ⟨_, hbelow⟩ h
    exact underflow_never_reported i (hbelow h)
  · intro h
    refine ⟨fun habove => ?_, fun hbelow => absurd hbelow h⟩
    rw [← Packed.bits_ofBits i, float32ToF11_bits, if_neg (by omega), if_pos habove]

/-- The two lowest F exponents are lost on the way to the host, and the denormals under the
least F number come back as zero without an error; nothing else fails. -/
theorem fis_conversion_iff (f i : Dword) :
    RoundTrips f ∧ ReportsRange i ↔
      ((Packed.ofBits f).exp ≠ 1 ∧ (Packed.ofBits f).exp ≠ 2) ∧
      ¬((Packed.ofBits i).exp = 0 ∧ (Packed.ofBits i).frac ≠ 0 ∧
        (Packed.ofBits i).frac.toNat < 2 ^ 21) := by
  rw [roundTrips_iff, reportsRange_iff, belowF_iff]

/-- The least F number becomes zero, and so does the least single. -/
theorem least_numbers_vanish :
    ¬ RoundTrips 0x00800000 ∧ ¬ ReportsRange 1 ∧
      float32ToF11 (f11ToFloat32 0x00800000) = (0, 0) ∧ float32ToF11 1 = (0, 0) := by
  refine ⟨fun h => ?_, fun h => ?_, by decide, by decide⟩
  · exact absurd (h (by decide)) (by decide)
  · exact absurd (h.2 ((belowF_iff _).2 (by decide))) (by decide)

end K1801.Core
