import K1801.Core.Mmu
import Mathlib.Tactic.SplitIfs

/-! # Byte and word views of the on-chip registers

A byte access reads the register as a word, or stores it back with one byte replaced. The J-11 and its MMU drop
bit 0 of the address first. The 1801VM1 block does not, so that it decodes no odd address.
-/

namespace K1801.Core

/-- The loads at both bytes of the register at `a` give its word, low byte first. -/
def LoadsAgree (b : Build) (r : Regs) (a : Word) : Prop :=
  ∃ lo hi, regBlockLoadByte b r a = some lo ∧ regBlockLoadByte b r (a + 1) = some hi ∧
    regBlockLoadWord b r a = some (hi ++ lo)

/-- A byte store at `off` is the word store of the old value with that byte replaced. -/
def StoresAgree (b : Build) (r : Regs) (a off : Word) : Prop :=
  ∀ old v, regBlockLoadWord b r a = some old →
    regBlockStoreByte b r off v = regBlockStoreWord b r a (withByte old off v)

/-- The registers that take any value as a whole: not the constants, the read-only registers, those that any
    write clears, and PIRQ with its computed low byte. -/
def takesWord (m : Model) (a : Word) : Bool :=
  match m with
  | .k1801vm1 => a = 0o177706
  | .dcj11 =>
    a = dcj11RegCcr || a = dcj11RegStklim || a = dcj11RegPsw || a = mmuSsr0Addr || a = mmuSsr3Addr ||
      a = mmuSsr3Alt || (mmuDecodeParpdr a).isSome
  | _ => false

/-- Plain registers; a store to the PSW location also switches the register banks. -/
def plainReg (m : Model) (a : Word) : Bool := takesWord m a && !(m == .dcj11 && a == dcj11RegPsw)

/-- MMR3 answers at two addresses, and the store to a PAR clears the status bits of the paired PDR. -/
def StoreReaches (a c : Word) : Prop :=
  c = a ∨ ((a = mmuSsr3Addr ∨ a = mmuSsr3Alt) ∧ (c = mmuSsr3Addr ∨ c = mmuSsr3Alt)) ∨
    ∃ apr, mmuDecodeParpdr a = some (apr, true) ∧ mmuDecodeParpdr c = some (apr, false)

/-- The processor registers and the registers of the block that a store to `a` has to leave alone. -/
def OthersKept (b : Build) (r r' : Regs) (a : Word) : Prop :=
  r'.r = r.r ∧ r'.psw = r.psw ∧ ∀ c, c &&& 1 = 0 → ¬ StoreReaches a c →
    regBlockLoadWord b r' c = regBlockLoadWord b r c

/-- The byte and word views of the block agree in state `r`. -/
structure RegisterViewsAgree (b : Build) (r : Regs) : Prop where
  loads : ∀ a, a &&& 1 = 0 → (regBlockLoadWord b r a).isSome → LoadsAgree b r a
  stores : ∀ a, a &&& 1 = 0 → takesWord r.model a → StoresAgree b r a a ∧ StoresAgree b r a (a + 1)
  others : ∀ a v off r', a &&& 1 = 0 → plainReg r.model a → off = a ∨ off = a + 1 →
    regBlockStoreByte b r off v = some r' → OthersKept b r r' a

/-! ## Even and odd addresses -/

theorem even_mask {a : Word} (h : a &&& 1 = 0) : a &&& 0o177776 = a := by
  have hsplit : a = (a &&& 0o177776) ||| (a &&& 1) := by
    rw [← BitVec.and_or_distrib_left]
    exact (BitVec.and_allOnes).symm
  rw [h] at hsplit
  exact (hsplit.trans BitVec.or_zero).symm

theorem odd_eq_or {a : Word} (h : a &&& 1 = 0) : a + 1 = a ||| 1 :=
  BitVec.add_eq_or_of_and_eq_zero a 1 h

theorem odd_mask {a : Word} (h : a &&& 1 = 0) : (a + 1) &&& 0o177776 = a := by
  rw [odd_eq_or h, BitVec.and_or_distrib_right, even_mask h]
  exact BitVec.or_zero

theorem odd_bit {a : Word} (h : a &&& 1 = 0) : (a + 1) &&& 1 = 1 := by
  rw [odd_eq_or h, BitVec.and_or_distrib_right, h]
  rfl

theorem byteOf_even {a : Word} (h : a &&& 1 = 0) (w : Word) : byteOf w a = w.setWidth 8 := by
  unfold byteOf
  rw [if_neg (not_not_intro h)]

theorem byteOf_odd {a : Word} (h : a &&& 1 = 0) (w : Word) : byteOf w (a + 1) = (w >>> 8).setWidth 8 := by
  unfold byteOf
  rw [odd_bit h, if_pos (by decide)]

theorem bytes_append (w : Word) : (w >>> 8).setWidth 8 ++ w.setWidth 8 = w := by
  apply BitVec.eq_of_getLsbD_eq
  intro i hi
  rw [BitVec.getLsbD_append]
  by_cases hlow : i < 8
  · simp [hlow]
  · have hback : 8 + (i - 8) = i := by omega
    have hhigh : i - 8 < 8 := by omega
    simp [hlow, hback, hhigh]

theorem mask_mask (a : Word) : (a &&& 0o177776) &&& 0o177776 = a &&& 0o177776 := by
  rw [BitVec.and_assoc]
  rfl

/-! ## The J-11 and its MMU -/

variable {b : Build} {r : Regs} {a : Word}

theorem dcj11RegBlockLoadWord_mask (r : Regs) (off : Word) :
    dcj11RegBlockLoadWord r (off &&& 0o177776) = dcj11RegBlockLoadWord r off := by
  unfold dcj11RegBlockLoadWord
  rw [mask_mask]

theorem dcj11RegBlockStoreWord_mask (r : Regs) (off v : Word) :
    dcj11RegBlockStoreWord r (off &&& 0o177776) v = dcj11RegBlockStoreWord r off v := by
  unfold dcj11RegBlockStoreWord
  rw [mask_mask]

theorem mmuIoReadWord_mask (b : Build) (r : Regs) (off : Word) :
    mmuIoReadWord b r (off &&& 0o177776) = mmuIoReadWord b r off := by
  unfold mmuIoReadWord
  rw [mask_mask]

/-- A byte load takes its byte out of the word at the even address. -/
theorem regBlockLoadByte_dcj11 (hmodel : r.model = .dcj11) (off : Word) :
    regBlockLoadByte b r off = (regBlockLoadWord b r (off &&& 0o177776)).map (byteOf · off) := by
  unfold regBlockLoadByte regBlockLoadWord dcj11RegBlockLoadByte mmuIoReadByte
  rw [if_pos hmodel, if_pos hmodel, dcj11RegBlockLoadWord_mask]
  cases dcj11RegBlockLoadWord r off <;> rfl

theorem loadsAgree_dcj11 (hmodel : r.model = .dcj11) (heven : a &&& 1 = 0)
    (hload : (regBlockLoadWord b r a).isSome) : LoadsAgree b r a := by
  obtain ⟨w, hw⟩ := Option.isSome_iff_exists.1 hload
  refine ⟨w.setWidth 8, (w >>> 8).setWidth 8, ?_, ?_, ?_⟩
  · rw [regBlockLoadByte_dcj11 hmodel, even_mask heven, hw, Option.map_some, byteOf_even heven]
  · rw [regBlockLoadByte_dcj11 hmodel, odd_mask heven, hw, Option.map_some, byteOf_odd heven]
  · rw [hw, bytes_append]

/-- Loads and stores of the J-11 block decode the same addresses. -/
theorem dcj11RegBlockStoreWord_none {off : Word} (h : dcj11RegBlockLoadWord r off = none) (v : Word) :
    dcj11RegBlockStoreWord r off v = none := by
  unfold dcj11RegBlockLoadWord at h
  unfold dcj11RegBlockStoreWord
  dsimp only at h ⊢
  split_ifs at h ⊢
  rfl

theorem dcj11RegBlockStoreWord_isSome {off : Word} (h : (dcj11RegBlockLoadWord r off).isSome) (v : Word) :
    (dcj11RegBlockStoreWord r off v).isSome := by
  unfold dcj11RegBlockLoadWord at h
  unfold dcj11RegBlockStoreWord
  dsimp only at h ⊢
  split_ifs at h ⊢ <;> first | rfl | exact h

theorem dcj11RegBlockStoreByte_none {off : Word} (h : dcj11RegBlockLoadWord r off = none) (v : Byte) :
    dcj11RegBlockStoreByte r off v = none := by
  have hword := dcj11RegBlockStoreWord_none h
  unfold dcj11RegBlockStoreByte
  split_ifs with hpirq hlow hclear
  · rw [← dcj11RegBlockLoadWord_mask, hpirq] at h
    cases h
  · rw [← dcj11RegBlockLoadWord_mask, hpirq] at h
    cases h
  · exact hword 0
  · rw [h]
    rfl

theorem mmuIsRegAddress_of_read {w : Word} (h : mmuIoReadWord b r a = some w) :
    mmuIsRegAddress b (a &&& 0o177776) = true := by
  unfold mmuIoReadWord at h
  unfold mmuIsRegAddress
  rw [mask_mask]
  dsimp only at h ⊢
  cases hdec : mmuDecodeParpdr (a &&& 0o177776) with
  | some named => split_ifs <;> simp_all
  | none =>
    rw [hdec] at h
    split_ifs at h ⊢ <;> simp_all

theorem mmuDecodeParpdr_mask (a : Word) : mmuDecodeParpdr (a &&& 0o177776) = mmuDecodeParpdr a := by
  unfold mmuDecodeParpdr
  rw [mask_mask]

/-- Page registers lie outside the J-11 block. -/
theorem dcj11RegBlockLoadWord_apr (h : (mmuDecodeParpdr a).isSome) : dcj11RegBlockLoadWord r a = none := by
  rw [← mmuDecodeParpdr_mask] at h
  unfold dcj11RegBlockLoadWord
  dsimp only
  split_ifs with h1 h2 h3 h4 h5 h6 h7 h8
  all_goals first
    | rfl
    | (simp only [*] at h; revert h; decide)

/-- Off the J-11 block a byte store is an MMU store of the whole register. -/
theorem storesAgree_mmu (hmodel : r.model = .dcj11) (houtside : dcj11RegBlockLoadWord r a = none) {off : Word}
    (hoff : off &&& 0o177776 = a) : StoresAgree b r a off := by
  intro old v hload
  have houtside' : dcj11RegBlockLoadWord r off = none := by
    rw [← dcj11RegBlockLoadWord_mask, hoff]
    exact houtside
  unfold regBlockLoadWord at hload
  unfold regBlockStoreByte regBlockStoreWord
  rw [if_pos hmodel, houtside] at hload
  rw [if_pos hmodel, if_pos hmodel, dcj11RegBlockStoreByte_none houtside', dcj11RegBlockStoreWord_none houtside]
  have hread : mmuIoReadWord b r a = some old := hload
  have heven : a &&& 0o177776 = a := by rw [← hoff, mask_mask]
  have hnamed : mmuIsRegAddress b a = true := by
    rw [← heven]
    exact mmuIsRegAddress_of_read hread
  show mmuIoWriteByte b r off v = mmuIoWriteWord b r a (withByte old off v)
  unfold mmuIoWriteByte
  dsimp only
  rw [hoff, hread, hnamed, hmodel]
  rfl

/-- In the J-11 block a byte store rewrites the whole register, except where the low byte of PIRQ ignores it and
    where any write clears the register. -/
theorem storesAgree_block (hmodel : r.model = .dcj11) {off : Word} (hoff : off &&& 0o177776 = a)
    (hpirq : a ≠ dcj11RegPirq) (hinside : (dcj11RegBlockLoadWord r a).isSome)
    (hclear : ¬ (off = dcj11RegMemerr ∨ off = dcj11RegHitmiss ∨ off = dcj11RegCpuerr ∨ off = dcj11RegMaint)) :
    StoresAgree b r a off := by
  intro old v hload
  obtain ⟨w, hw⟩ := Option.isSome_iff_exists.1 hinside
  have hold : w = old := by
    unfold regBlockLoadWord at hload
    rw [if_pos hmodel, hw] at hload
    exact Option.some.inj hload
  subst hold
  have hbyte : dcj11RegBlockStoreByte r off v = dcj11RegBlockStoreWord r a (withByte w off v) := by
    unfold dcj11RegBlockStoreByte
    rw [hoff, if_neg hpirq, if_neg hclear, ← dcj11RegBlockLoadWord_mask, hoff, hw]
    show dcj11RegBlockStoreWord r off (withByte w off v) = _
    rw [← dcj11RegBlockStoreWord_mask r off, hoff]
  obtain ⟨r', hr'⟩ := Option.isSome_iff_exists.1 (dcj11RegBlockStoreWord_isSome hinside (withByte w off v))
  unfold regBlockStoreByte regBlockStoreWord
  rw [if_pos hmodel, if_pos hmodel, hbyte, hr']
  rfl

theorem takesWord_dcj11 (h : takesWord .dcj11 a) :
    (a = dcj11RegCcr ∨ a = dcj11RegStklim ∨ a = dcj11RegPsw) ∨
      (a = mmuSsr0Addr ∨ a = mmuSsr3Addr ∨ a = mmuSsr3Alt) ∨ (mmuDecodeParpdr a).isSome := by
  simpa only [takesWord, Bool.or_eq_true, decide_eq_true_eq, or_assoc] using h

theorem storesAgree_dcj11 (hmodel : r.model = .dcj11) (heven : a &&& 1 = 0) (htakes : takesWord .dcj11 a) :
    StoresAgree b r a a ∧ StoresAgree b r a (a + 1) := by
  have hmmu (houtside : dcj11RegBlockLoadWord r a = none) : StoresAgree b r a a ∧ StoresAgree b r a (a + 1) :=
    ⟨storesAgree_mmu hmodel houtside (even_mask heven), storesAgree_mmu hmodel houtside (odd_mask heven)⟩
  rcases takesWord_dcj11 htakes with (rfl | rfl | rfl) | (rfl | rfl | rfl) | hapr
  · exact ⟨storesAgree_block hmodel rfl (by decide) rfl (by decide),
      storesAgree_block hmodel rfl (by decide) rfl (by decide)⟩
  · exact ⟨storesAgree_block hmodel rfl (by decide) rfl (by decide),
      storesAgree_block hmodel rfl (by decide) rfl (by decide)⟩
  · exact ⟨storesAgree_block hmodel rfl (by decide) rfl (by decide),
      storesAgree_block hmodel rfl (by decide) rfl (by decide)⟩
  · exact hmmu rfl
  · exact hmmu rfl
  · exact hmmu rfl
  · exact hmmu (dcj11RegBlockLoadWord_apr hapr)

/-! ## What a store leaves alone -/

/-- The address of a page register. -/
def aprAddr (named : Apr × Bool) : Word :=
  let base : Word :=
    if named.1.mode = 1 then (if named.2 then 0o172240 else 0o172200)
    else if named.1.mode = 0 then (if named.2 then 0o172340 else 0o172300)
    else if named.2 then 0o177640 else 0o177600
  base + (if named.1.space then 0o20 else 0) + (named.1.seg.setWidth 16 <<< 1)

theorem mmuDec_addr {base : Word} {mode : BitVec 2} {space isPar : Bool} {named : Apr × Bool}
    (h : mmuDec a base mode space isPar = some named) :
    named.1.mode = mode ∧ named.1.space = space ∧ named.2 = isPar ∧
      a = base + (named.1.seg.setWidth 16 <<< 1) := by
  unfold mmuDec at h
  split_ifs at h with hin
  obtain ⟨hlow, hhigh, heven⟩ := hin
  cases h
  refine ⟨rfl, rfl, rfl, ?_⟩
  have hle : (a - base).toNat ≤ 0o16 := by bv_omega
  have hbit : (a - base).toNat % 2 = 0 := by
    have hand := congrArg BitVec.toNat heven
    rwa [BitVec.toNat_and, show (1 : Word).toNat = 1 from rfl, Nat.and_one_is_mod] at hand
  have hdiff : a - base = (((a - base) >>> 1).setWidth 3 : BitVec 3).setWidth 16 <<< 1 := by
    generalize a - base = d at hle hbit ⊢
    apply BitVec.eq_of_toNat_eq
    simp only [BitVec.toNat_shiftLeft, BitVec.toNat_setWidth, BitVec.toNat_ushiftRight, Nat.shiftLeft_eq,
      Nat.shiftRight_eq_div_pow]
    omega
  rw [← hdiff]
  bv_omega

/-- A page register has one address. -/
theorem mmuDecodeParpdr_addr (heven : a &&& 1 = 0) {named : Apr × Bool} (h : mmuDecodeParpdr a = some named) :
    a = aprAddr named := by
  unfold mmuDecodeParpdr at h
  rw [even_mask heven] at h
  simp only [Option.orElse_eq_orElse, Option.orElse_eq_or, Option.or_eq_some_iff] at h
  rcases h with h | ⟨-, h | ⟨-, h | ⟨-, h | ⟨-, h | ⟨-, h | ⟨-, h | ⟨-, h | ⟨-, h | ⟨-, h | ⟨-, h |
    ⟨-, h⟩⟩⟩⟩⟩⟩⟩⟩⟩⟩⟩
  all_goals
    obtain ⟨hmode, hspace, hpar, haddr⟩ := mmuDec_addr h
    unfold aprAddr
    rw [hmode, hspace, hpar]
    exact haddr

/-- What a store to an MMU register can change. -/
structure MmuWritten (m m' : Mmu) (a : Word) : Prop where
  ssr0 : a ≠ mmuSsr0Addr → m'.ssr0 = m.ssr0
  ssr1 : m'.ssr1 = m.ssr1
  ssr2 : m'.ssr2 = m.ssr2
  ssr3 : ¬ (a = mmuSsr3Addr ∨ a = mmuSsr3Alt) → m'.ssr3 = m.ssr3
  par : ∀ apr, mmuDecodeParpdr a ≠ some (apr, true) → m'.par apr = m.par apr
  pdr : ∀ apr, mmuDecodeParpdr a ≠ some (apr, true) → mmuDecodeParpdr a ≠ some (apr, false) →
    m'.pdr apr = m.pdr apr

theorem mmuWritten_refl (m : Mmu) (a : Word) : MmuWritten m m a :=
  ⟨fun _ => rfl, rfl, rfl, fun _ => rfl, fun _ _ => rfl, fun _ _ _ => rfl⟩

theorem mmuIoWriteWord_written {r' : Regs} {v : Word} (heven : a &&& 1 = 0)
    (h : mmuIoWriteWord b r a v = some r') : ∃ m, r' = { r with mmu := m } ∧ MmuWritten r.mmu m a := by
  have hkept : ∃ m, r = { r with mmu := m } ∧ MmuWritten r.mmu m a := ⟨r.mmu, rfl, mmuWritten_refl _ _⟩
  unfold mmuIoWriteWord at h
  rw [even_mask heven] at h
  dsimp only at h
  split_ifs at h with hoff hmodel hssr0 hmmu htoggle hssr1 hssr2 hssr3
  · cases h
    exact hkept
  · cases h
    refine ⟨_, rfl, ?_⟩
    exact ⟨fun hne => absurd hssr0 hne, rfl, rfl, fun _ => rfl, fun _ _ => rfl, fun _ _ _ => rfl⟩
  · cases h
    refine ⟨_, rfl, ?_⟩
    exact ⟨fun hne => absurd hssr0 hne, rfl, rfl, fun _ => rfl, fun _ _ => rfl, fun _ _ _ => rfl⟩
  · cases h
    exact hkept
  · cases h
    exact hkept
  · cases h
    exact hkept
  · cases h
    refine ⟨_, rfl, ?_⟩
    exact ⟨fun _ => rfl, rfl, rfl, fun hne => absurd hssr3 hne, fun _ _ => rfl, fun _ _ _ => rfl⟩
  · split at h
    · cases h
      exact hkept
    · cases h
  · split at h
    · rename_i apr isPar hdec
      split_ifs at h with hpar
      · cases h
        refine ⟨_, rfl, ?_⟩
        have hnamed (apr' : Apr) (hne : mmuDecodeParpdr a ≠ some (apr', true)) : apr' ≠ apr := by
          rintro rfl
          rw [hdec, hpar] at hne
          exact hne rfl
        exact ⟨fun _ => rfl, rfl, rfl, fun _ => rfl, fun apr' hne => Function.update_of_ne (hnamed apr' hne) _ _,
          fun apr' hne _ => Function.update_of_ne (hnamed apr' hne) _ _⟩
      · cases h
        refine ⟨_, rfl, ?_⟩
        have hnamed (apr' : Apr) (hne : mmuDecodeParpdr a ≠ some (apr', false)) : apr' ≠ apr := by
          rintro rfl
          rw [hdec, Bool.eq_false_iff.2 hpar] at hne
          exact hne rfl
        exact ⟨fun _ => rfl, rfl, rfl, fun _ => rfl, fun _ _ => rfl,
          fun apr' _ hne => Function.update_of_ne (hnamed apr' hne) _ _⟩
    · cases h

/-- A load elsewhere does not see the store. -/
theorem mmuIoReadWord_written {m : Mmu} {c : Word} (heven : a &&& 1 = 0) (hceven : c &&& 1 = 0)
    (hwritten : MmuWritten r.mmu m a) (hother : ¬ StoreReaches a c) :
    mmuIoReadWord b { r with mmu := m } c = mmuIoReadWord b r c := by
  have hne : c ≠ a := fun hc => hother (Or.inl hc)
  have hssr3 : ¬ ((a = mmuSsr3Addr ∨ a = mmuSsr3Alt) ∧ (c = mmuSsr3Addr ∨ c = mmuSsr3Alt)) :=
    fun hboth => hother (Or.inr (Or.inl hboth))
  have hpair (apr : Apr) : ¬ (mmuDecodeParpdr a = some (apr, true) ∧ mmuDecodeParpdr c = some (apr, false)) :=
    fun hboth => hother (Or.inr (Or.inr ⟨apr, hboth⟩))
  unfold mmuIoReadWord
  rw [even_mask hceven]
  dsimp only
  split_ifs with hoff hmodel h0 hmmu h1 hmmu1 h2 hmmu2 h3
  all_goals try rfl
  · rw [hwritten.ssr0 fun ha => hne (h0.trans ha.symm)]
  · unfold mmuSsr1Visible
    dsimp only
    rw [hwritten.ssr1]
  · rw [hwritten.ssr2]
  · rw [hwritten.ssr3 fun ha => hssr3 ⟨ha, h3⟩]
  · cases hc : mmuDecodeParpdr c with
    | none => rfl
    | some named =>
      obtain ⟨apr, isPar⟩ := named
      have hapart (isPar' : Bool) (hsame : isPar' = isPar) : mmuDecodeParpdr a ≠ some (apr, isPar') := by
        rintro ha
        subst hsame
        exact hne ((mmuDecodeParpdr_addr hceven hc).trans (mmuDecodeParpdr_addr heven ha).symm)
      cases isPar with
      | true =>
        show some (m.par apr &&& mmuParJMask) = _
        rw [hwritten.par apr (hapart true rfl)]
        rfl
      | false =>
        have hpar : mmuDecodeParpdr a ≠ some (apr, true) := fun ha => hpair apr ⟨ha, hc⟩
        show some (m.pdr apr &&& mmuPdrJMask) = _
        rw [hwritten.pdr apr hpar (hapart false rfl)]
        rfl

theorem dcj11RegBlockLoadWord_ccr {c v : Word} (heven : c &&& 1 = 0) (hne : c ≠ dcj11RegCcr) :
    dcj11RegBlockLoadWord { r with j11Ccr := v } c = dcj11RegBlockLoadWord r c := by
  unfold dcj11RegBlockLoadWord
  rw [even_mask heven]
  dsimp only
  rw [if_neg hne, if_neg hne]

theorem dcj11RegBlockLoadWord_stklim {c v : Word} (heven : c &&& 1 = 0) (hne : c ≠ dcj11RegStklim) :
    dcj11RegBlockLoadWord { r with j11Stklim := v } c = dcj11RegBlockLoadWord r c := by
  unfold dcj11RegBlockLoadWord
  rw [even_mask heven]
  dsimp only
  rw [if_neg hne, if_neg hne]

theorem othersKept_mmu {r' : Regs} {v : Word} (hmodel : r.model = .dcj11) (heven : a &&& 1 = 0)
    (houtside : dcj11RegBlockLoadWord r a = none) (h : regBlockStoreWord b r a v = some r') :
    OthersKept b r r' a := by
  unfold regBlockStoreWord at h
  rw [if_pos hmodel, dcj11RegBlockStoreWord_none houtside] at h
  obtain ⟨m, rfl, hwritten⟩ := mmuIoWriteWord_written heven (h : mmuIoWriteWord b r a v = some r')
  refine ⟨rfl, rfl, fun c hceven hother => ?_⟩
  unfold regBlockLoadWord
  rw [mmuIoReadWord_written heven hceven hwritten hother]
  rfl

/-- A word store to a plain register of the J-11 leaves the others alone. -/
theorem othersKept_dcj11 {r' : Regs} {v : Word} (hmodel : r.model = .dcj11) (heven : a &&& 1 = 0)
    (hplain : plainReg .dcj11 a) (h : regBlockStoreWord b r a v = some r') : OthersKept b r r' a := by
  simp only [plainReg, Bool.and_eq_true, Bool.not_eq_true', Bool.and_eq_false_iff] at hplain
  obtain ⟨htakes, hpsw⟩ := hplain
  have hblock (houtside : dcj11RegBlockLoadWord r a = none) : OthersKept b r r' a :=
    othersKept_mmu hmodel heven houtside h
  rcases takesWord_dcj11 htakes with (rfl | rfl | rfl) | (rfl | rfl | rfl) | hapr
  · unfold regBlockStoreWord at h
    rw [if_pos hmodel] at h
    cases h
    refine ⟨rfl, rfl, fun c hceven hother => ?_⟩
    unfold regBlockLoadWord
    rw [dcj11RegBlockLoadWord_ccr hceven fun hc => hother (Or.inl hc)]
    rfl
  · unfold regBlockStoreWord at h
    rw [if_pos hmodel] at h
    cases h
    refine ⟨rfl, rfl, fun c hceven hother => ?_⟩
    unfold regBlockLoadWord
    rw [dcj11RegBlockLoadWord_stklim hceven fun hc => hother (Or.inl hc)]
    rfl
  · exact absurd hpsw (by decide)
  · exact hblock rfl
  · exact hblock rfl
  · exact hblock rfl
  · exact hblock (dcj11RegBlockLoadWord_apr hapr)

/-- A byte store that is decoded is some word store. -/
theorem regBlockStoreByte_word {r' : Regs} {v : Byte} {off : Word} (hmodel : r.model = .dcj11)
    (heven : a &&& 1 = 0) (hplain : plainReg .dcj11 a) (hoff : off = a ∨ off = a + 1)
    (h : regBlockStoreByte b r off v = some r') : ∃ w, regBlockStoreWord b r a w = some r' := by
  simp only [plainReg, Bool.and_eq_true] at hplain
  obtain ⟨hlow, hhigh⟩ := storesAgree_dcj11 (b := b) hmodel heven hplain.1
  have hagree : StoresAgree b r a off := by
    rcases hoff with rfl | rfl
    · exact hlow
    · exact hhigh
  cases hload : regBlockLoadWord b r a with
  | some old => exact ⟨_, (hagree old v hload).symm.trans h⟩
  | none =>
    have hmask : off &&& 0o177776 = a := by
      rcases hoff with rfl | rfl
      · exact even_mask heven
      · exact odd_mask heven
    have houtside : dcj11RegBlockLoadWord r a = none := by
      unfold regBlockLoadWord at hload
      rw [if_pos hmodel] at hload
      cases hblock : dcj11RegBlockLoadWord r a with
      | none => rfl
      | some w =>
        rw [hblock] at hload
        cases hload
    have houtside' : dcj11RegBlockLoadWord r off = none := by
      rw [← dcj11RegBlockLoadWord_mask, hmask]
      exact houtside
    unfold regBlockStoreByte at h
    rw [if_pos hmodel, dcj11RegBlockStoreByte_none houtside'] at h
    have hmmu : mmuIoWriteByte b r off v = some r' := h
    unfold mmuIoWriteByte at hmmu
    dsimp only at hmmu
    rw [hmask] at hmmu
    split_ifs at hmmu
    refine ⟨withByte ((mmuIoReadWord b r a).getD 0) off v, ?_⟩
    unfold regBlockStoreWord
    rw [if_pos hmodel, dcj11RegBlockStoreWord_none houtside]
    exact hmmu

/-! ## The verdict -/

theorem registerViewsAgree_dcj11 (hmodel : r.model = .dcj11) : RegisterViewsAgree b r where
  loads a heven hload := loadsAgree_dcj11 hmodel heven hload
  stores a heven htakes := by
    rw [hmodel] at htakes
    exact storesAgree_dcj11 hmodel heven htakes
  others a v off r' heven hplain hoff hstore := by
    rw [hmodel] at hplain
    obtain ⟨w, hword⟩ := regBlockStoreByte_word hmodel heven hplain hoff hstore
    exact othersKept_dcj11 hmodel heven hplain hword

/-- The 1801VM2 has no registers on the chip. -/
theorem registerViewsAgree_vm2 (hvm1 : r.model ≠ .k1801vm1) (hdcj11 : r.model ≠ .dcj11) :
    RegisterViewsAgree b r where
  loads a _ hload := by
    unfold regBlockLoadWord at hload
    rw [if_neg hdcj11, if_neg hvm1] at hload
    cases hload
  stores a _ htakes := by
    cases hmodel : r.model <;> simp_all [takesWord]
  others a v off r' _ hplain _ _ := by
    cases hmodel : r.model <;> simp_all [plainReg, takesWord]

/-- The timer limit is a word of the 1801VM1 whose high byte cannot be loaded. -/
theorem timer_high_byte (hmodel : r.model = .k1801vm1) :
    regBlockLoadWord b r 0o177706 = some r.tveLimit ∧ regBlockLoadByte b r 0o177707 = none := by
  unfold regBlockLoadWord regBlockLoadByte
  rw [hmodel]
  exact ⟨rfl, rfl⟩

/-- The byte and word views agree on every model but the 1801VM1. -/
theorem registerViewsAgree_iff (b : Build) (r : Regs) : RegisterViewsAgree b r ↔ r.model ≠ .k1801vm1 := by
  constructor
  · intro hagree hmodel
    obtain ⟨hword, hbyte⟩ := timer_high_byte (b := b) hmodel
    obtain ⟨lo, hi, -, hhigh, -⟩ := hagree.loads 0o177706 rfl (by rw [hword]; rfl)
    rw [show (0o177706 : Word) + 1 = 0o177707 from rfl, hbyte] at hhigh
    cases hhigh
  · intro hvm1
    by_cases hdcj11 : r.model = .dcj11
    · exact registerViewsAgree_dcj11 hdcj11
    · exact registerViewsAgree_vm2 hvm1 hdcj11

/-- The byte at 0177707 of an 1801VM1 is not decoded, and a byte store there is not either. -/
theorem vm1_views_differ :
    regBlockLoadWord ⟨false, false⟩ { model := .k1801vm1, tveLimit := 0o123456 } 0o177706 = some 0o123456 ∧
      regBlockLoadByte ⟨false, false⟩ { model := .k1801vm1, tveLimit := 0o123456 } 0o177707 = none ∧
      regBlockStoreByte ⟨false, false⟩ { model := .k1801vm1, tveLimit := 0o123456 } 0o177707 0 = none ∧
      ¬ RegisterViewsAgree ⟨false, false⟩ { model := .k1801vm1, tveLimit := 0o123456 } := by
  refine ⟨rfl, rfl, rfl, ?_⟩
  intro hagree
  obtain ⟨lo, hi, -, hhigh, -⟩ := hagree.loads 0o177706 rfl rfl
  cases hhigh

end K1801.Core
