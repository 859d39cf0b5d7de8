import K1801.Core.TlbCoherence
import K1801.Core.Hwstub

/-! # The direct RAM path and the full translation

In every reachable state, an access that the translation cache serves is one that the full
translation allows, with the same status bits and at the same physical address. The cache
does not look at the 18-bit I/O page, so the two differ for the accesses that land there.
-/

namespace K1801.Core

open Library

/-! ## Masks and fields as numbers -/

theorem toNat_and_low {w : Nat} (x : BitVec w) {mask : BitVec w} {k : Nat}
    (hmask : mask.toNat = 2 ^ k - 1) : (x &&& mask).toNat = x.toNat % 2 ^ k := by
  rw [BitVec.toNat_and, hmask, Nat.and_two_pow_sub_one_eq_mod]

theorem toNat_shiftLeft_or {a b k : Nat} (hb : b < 2 ^ k) : a <<< k ||| b = a * 2 ^ k + b := by
  rw [← Nat.shiftLeft_add_eq_or_of_lt hb, Nat.shiftLeft_eq]

theorem pdrLen_lt (pdr : Word) : (pdrLen pdr).toNat < 128 := by
  unfold pdrLen
  rw [toNat_and_low _ (k := 7) rfl]
  omega

theorem toNat_pageOffset (va : Word) : (va &&& 0o17777).toNat = va.toNat % 8192 :=
  toNat_and_low va (k := 13) rfl

theorem toNat_block (va : Word) : ((va >>> 6) &&& 0o177).toNat = va.toNat % 8192 / 64 := by
  rw [toNat_and_low _ (k := 7) rfl, BitVec.toNat_ushiftRight, Nat.shiftRight_eq_div_pow]
  omega

theorem toNat_pdrLen_shift (pdr : Word) : (pdrLen pdr <<< 6).toNat = (pdrLen pdr).toNat * 64 := by
  have hlt := pdrLen_lt pdr
  rw [BitVec.toNat_shiftLeft, Nat.shiftLeft_eq]
  omega

theorem toNat_pageMax_up (pdr : Word) :
    ((pdrLen pdr <<< 6) ||| 0x3F).toNat = (pdrLen pdr).toNat * 64 + 63 := by
  have hlt := pdrLen_lt pdr
  rw [BitVec.toNat_or, toNat_pdrLen_shift]
  have hor := toNat_shiftLeft_or (a := (pdrLen pdr).toNat) (b := 63) (k := 6) (by decide)
  rw [Nat.shiftLeft_eq] at hor
  exact hor

/-! ## The physical address of a page -/

/-- The size of the physical address space that relocation reaches. -/
def physSize (ssr3 : Word) : Nat := if ssr3 &&& mmuSsr3M22e ≠ 0 then 2 ^ 22 else 2 ^ 18

theorem toNat_mmuPhysFinalize (pa : Dword) (ssr3 : Word) :
    (mmuPhysFinalize pa ssr3).toNat = pa.toNat % physSize ssr3 := by
  unfold mmuPhysFinalize physSize
  split
  · exact toNat_and_low pa (k := 22) rfl
  · exact toNat_and_low pa (k := 18) rfl

/-- `par << 6` and an offset within the page, in the physical address space. -/
def pageAddress (r : Regs) (apr : Apr) (po : Nat) : Nat :=
  ((r.mmu.par apr).toNat * 64 + po) % physSize r.mmu.ssr3

theorem mmuParJMask_and (par : Word) : par &&& mmuParJMask = par := BitVec.and_allOnes

theorem toNat_segBase (par : Word) :
    ((par &&& mmuParJMask).setWidth 32 <<< 6 : Dword).toNat = par.toNat * 64 := by
  have hlt := par.isLt
  rw [mmuParJMask_and, BitVec.toNat_shiftLeft, BitVec.toNat_setWidth, Nat.shiftLeft_eq]
  omega

theorem mmuPhysIsIopage_false {pa : Dword} (h : (!mmuPhysIsIopage pa) = true) :
    pa.toNat < 0o17760000 ∨ 0o17777777 < pa.toNat := by
  by_contra hcon
  have hio : mmuPhysIsIopage pa = true := decide_eq_true (by
    constructor
    · show 0o17760000 ≤ pa.toNat
      omega
    · show pa.toNat ≤ 0o17777777
      omega)
  rw [hio] at h
  cases h

/-- The RAM offset of a cached page: the page does not wrap, and with 22-bit mapping it
    ends below the I/O page. -/
theorem mmuTlbHostBase_some {r : Regs} {apr : Apr} {p : Nat} (h : mmuTlbHostBase r apr = some p) :
    p = (r.mmu.par apr).toNat * 64 % physSize r.mmu.ssr3 ∧ p + 8191 < physSize r.mmu.ssr3 ∧
      (r.mmu.ssr3 &&& mmuSsr3M22e ≠ 0 → p + 8191 < 0o17760000) := by
  have hpar := (r.mmu.par apr).isLt
  unfold mmuTlbHostBase at h
  dsimp only at h
  split at h
  · rename_i hlin
    obtain ⟨-, hle, hdiff, -, hlast, -⟩ := hlin
    cases h
    have hbase := toNat_segBase (r.mmu.par apr)
    have hend : ((r.mmu.par apr &&& mmuParJMask).setWidth 32 <<< 6 + 0o17777 : Dword).toNat =
        (r.mmu.par apr).toNat * 64 + 8191 := by
      rw [BitVec.toNat_add, hbase]
      show ((r.mmu.par apr).toNat * 64 + 8191) % 2 ^ 32 = _
      omega
    have hdiff' := congrArg BitVec.toNat hdiff
    rw [BitVec.toNat_sub_of_le hle, toNat_mmuPhysFinalize, toNat_mmuPhysFinalize, hbase, hend] at hdiff'
    have hdiff'' : ((r.mmu.par apr).toNat * 64 + 8191) % physSize r.mmu.ssr3 -
        (r.mmu.par apr).toNat * 64 % physSize r.mmu.ssr3 = 8191 := hdiff'
    have hpos : 0 < physSize r.mmu.ssr3 := by
      unfold physSize
      split <;> decide
    have hlt := Nat.mod_lt ((r.mmu.par apr).toNat * 64 + 8191) hpos
    rw [toNat_mmuPhysFinalize, hbase]
    refine ⟨rfl, by omega, ?_⟩
    intro hm
    have hio := mmuPhysIsIopage_false hlast
    rw [toNat_mmuPhysFinalize, hend] at hio
    have hsize : physSize r.mmu.ssr3 = 2 ^ 22 := if_pos hm
    rw [hsize] at hio hlt hdiff'' ⊢
    omega
  · cases h

/-- Offsets of a page that does not wrap simply add. -/
theorem pageAddress_linear {r : Regs} {apr : Apr} {po : Nat} (hpo : po < 8192)
    (h : (r.mmu.par apr).toNat * 64 % physSize r.mmu.ssr3 + 8191 < physSize r.mmu.ssr3) :
    (r.mmu.par apr).toNat * 64 % physSize r.mmu.ssr3 + po = pageAddress r apr po := by
  have hpo' : po % physSize r.mmu.ssr3 = po := Nat.mod_eq_of_lt (by omega)
  unfold pageAddress
  rw [Nat.add_mod _ po, hpo', Nat.mod_eq_of_lt (a := _ + po) (by omega)]

/-! ## The two checks of one access -/

theorem relocated_toNat (par va : Word) :
    ((((par &&& mmuParJMask) + ((va >>> 6) &&& 0o177)) &&& mmuParJMask).setWidth 32 <<< 6 |||
        (va &&& 0o77).setWidth 32 : Dword).toNat =
      (par.toNat * 64 + va.toNat % 8192) % 2 ^ 22 := by
  have hblock := toNat_block va
  have hlow : (va &&& 0o77).toNat = va.toNat % 64 := toNat_and_low va (k := 6) rfl
  rw [mmuParJMask_and, mmuParJMask_and, BitVec.toNat_or, BitVec.toNat_shiftLeft,
    BitVec.toNat_setWidth, BitVec.toNat_setWidth, BitVec.toNat_add, hblock, hlow,
    Nat.mod_eq_of_lt (a := (par.toNat + va.toNat % 8192 / 64) % 2 ^ 16) (by omega),
    Nat.mod_eq_of_lt (a := va.toNat % 64) (by omega)]
  have hshift : ((par.toNat + va.toNat % 8192 / 64) % 2 ^ 16) <<< 6 % 2 ^ 32 =
      ((par.toNat + va.toNat % 8192 / 64) % 2 ^ 16) <<< 6 := by
    rw [Nat.shiftLeft_eq]
    omega
  rw [hshift, toNat_shiftLeft_or (by omega)]
  omega

theorem physSize_dvd (ssr3 : Word) : physSize ssr3 ∣ 2 ^ 22 := by
  unfold physSize
  split <;> decide

/-- An access that passes the length and access checks is relocated to its page address. -/
theorem mmuRelocate_ok {b : Build} {r : Regs} {apr : Apr} {va : Word} {w : Bool}
    (hmin : (pageMin (r.mmu.pdr apr &&& mmuPdrJMask)).toNat ≤ va.toNat % 8192)
    (hmax : va.toNat % 8192 ≤ (pageMax (r.mmu.pdr apr &&& mmuPdrJMask)).toNat)
    (hread : mmuAcfReadOk (r.mmu.pdr apr &&& mmuPdrJMask) = true)
    (hwrite : w = true → mmuAcfWriteOk (r.mmu.pdr apr &&& mmuPdrJMask) = true) :
    ∃ pa, mmuRelocate b r apr va w = (.ok pa, r.mmuNoteAccess apr w) ∧
      pa.toNat = pageAddress r apr (va.toNat % 8192) := by
  have hlen : ¬ ((pdrEd (r.mmu.pdr apr &&& mmuPdrJMask) = 0 ∧
        pdrLen (r.mmu.pdr apr &&& mmuPdrJMask) < (va >>> 6) &&& 0o177) ∨
      (pdrEd (r.mmu.pdr apr &&& mmuPdrJMask) ≠ 0 ∧
        (va >>> 6) &&& 0o177 < pdrLen (r.mmu.pdr apr &&& mmuPdrJMask))) := by
    simp only [BitVec.lt_def, toNat_block]
    rintro (⟨hed, hlt⟩ | ⟨hed, hlt⟩)
    · rw [pageMax, if_neg (not_not.2 hed), toNat_pageMax_up] at hmax
      omega
    · rw [pageMin, if_pos hed, toNat_pdrLen_shift] at hmin
      omega
  have hprotect : ¬ (w = true ∧ (!mmuAcfWriteOk (r.mmu.pdr apr &&& mmuPdrJMask)) = true) := by
    rintro ⟨hw, hno⟩
    rw [hwrite hw] at hno
    cases hno
  have hresident : ¬ ((!w) = true ∧ (!mmuAcfReadOk (r.mmu.pdr apr &&& mmuPdrJMask)) = true) := by
    rintro ⟨-, hno⟩
    rw [hread] at hno
    cases hno
  unfold mmuRelocate
  dsimp only
  rw [if_neg hlen, if_neg hprotect, if_neg hresident]
  refine ⟨_, rfl, ?_⟩
  rw [toNat_mmuPhysFinalize, relocated_toNat, Nat.mod_mod_of_dvd _ (physSize_dvd _)]
  rfl

/-- What a hit of the cache says. -/
theorem mmuTlbPtr_some {r : Regs} {apr : Apr} {po width : Word} {w : Bool} {p : Nat}
    (h : mmuTlbPtr r apr po width w = some p) :
    ∃ base, (r.mmu.tlb apr).hostBase = some base ∧ p = base + po.toNat ∧
      (r.mmu.tlb apr).validMin ≤ po ∧ po + width - 1 ≤ (r.mmu.tlb apr).validMax ∧
      (w = true → (r.mmu.tlb apr).writeAllowed = true) := by
  unfold mmuTlbPtr at h
  dsimp only at h
  split at h
  · cases h
  · rename_i base hbase
    split at h
    · cases h
    · rename_i hrange
      split at h
      · cases h
      · rename_i hflag
        obtain ⟨hmin, hmax⟩ := not_or.1 hrange
        cases h
        refine ⟨base, hbase, rfl, BitVec.not_lt.1 hmin, BitVec.not_lt.1 hmax, ?_⟩
        intro hw
        simpa [TlbEntry.writeAllowed, hw] using hflag

inductive AccessWidth where
  | byte
  | word
  deriving DecidableEq

def AccessWidth.bytes : AccessWidth → Word
  | byte => 1
  | word => 2

theorem lastByte_toNat {po : Word} (hpo : po.toNat < 8192) (w : AccessWidth) :
    po.toNat ≤ (po + w.bytes - 1).toNat := by
  cases w with
  | byte =>
    have heq : po + AccessWidth.byte.bytes - 1 = po := BitVec.add_sub_cancel po 1
    exact Nat.le_of_eq (congrArg BitVec.toNat heq.symm)
  | word =>
    have heq : po + AccessWidth.word.bytes - 1 = po + 1 := by
      unfold AccessWidth.bytes
      bv_omega
    rw [heq]
    bv_omega

namespace TlbInvariant

variable {r : Regs} {apr : Apr} {va : Word} {width : AccessWidth} {w : Bool} {p : Nat}

/-- What the page registers say about an access that the cache serves. -/
theorem hit_checks (hi : TlbInvariant r)
    (hp : mmuTlbPtr r apr (va &&& 0o17777) width.bytes w = some p) :
    let pdr := r.mmu.pdr apr &&& mmuPdrJMask
    (pageMin pdr).toNat ≤ va.toNat % 8192 ∧ va.toNat % 8192 ≤ (pageMax pdr).toNat ∧
      mmuAcfReadOk pdr = true ∧ (w = true → mmuAcfWriteOk pdr = true) ∧
      ∃ base, mmuTlbHostBase r apr = some base ∧ p = base + va.toNat % 8192 := by
  intro pdr
  obtain ⟨base, hbase, hpbase, hmin, hmax, hflag⟩ := mmuTlbPtr_some hp
  obtain ⟨hfresh, hmaxEq, hminEq, hflagEq⟩ := hi.coherent apr base hbase
  have hread : mmuAcfReadOk pdr = true := by
    by_contra hno
    rw [mmuTlbEntry_unreadable (Bool.eq_false_iff.2 hno)] at hfresh
    cases hfresh
  obtain ⟨hhost, hpmin, hpmax, hpw⟩ := mmuTlbEntry_readable hread
  rw [hminEq, hpmin, BitVec.le_def, toNat_pageOffset] at hmin
  rw [hmaxEq, hpmax, BitVec.le_def] at hmax
  have hpo : (va &&& 0o17777).toNat < 8192 := by
    rw [toNat_pageOffset]
    omega
  have hlast := lastByte_toNat hpo width
  rw [toNat_pageOffset] at hlast
  refine ⟨hmin, Nat.le_trans hlast hmax, hread, ?_, base, hhost ▸ hfresh, ?_⟩
  · intro hw
    have hwritten := hflagEq (hflag hw)
    rw [hpw, pageWritten, Bool.and_eq_true] at hwritten
    exact hwritten.2
  · rw [hpbase, toNat_pageOffset]

theorem hit_mode (hi : TlbInvariant r)
    (hp : mmuTlbPtr r apr (va &&& 0o17777) width.bytes w = some p) : apr.mode ≠ 2 := by
  intro h2
  obtain ⟨-, -, hread, -⟩ := hi.hit_checks hp
  have hmasked : r.mmu.pdr apr &&& mmuPdrJMask &&& 0o6 = 0 := by
    rw [BitVec.and_assoc]
    exact hi.reserved apr h2
  rw [mmuAcfReadOk, hmasked] at hread
  cases hread

/-- Where a served access lies. -/
theorem hit_address (hi : TlbInvariant r)
    (hp : mmuTlbPtr r apr (va &&& 0o17777) width.bytes w = some p) :
    p = pageAddress r apr (va.toNat % 8192) ∧ p < physSize r.mmu.ssr3 ∧
      (r.mmu.ssr3 &&& mmuSsr3M22e ≠ 0 → p < 0o17760000) := by
  obtain ⟨-, -, -, -, base, hbase, rfl⟩ := hi.hit_checks hp
  obtain ⟨rfl, hfit, hio⟩ := mmuTlbHostBase_some hbase
  refine ⟨pageAddress_linear (by omega) hfit, by omega, ?_⟩
  intro hm
  have hbelow := hio hm
  omega

theorem hit_relocate (hi : TlbInvariant r) (b : Build)
    (hp : mmuTlbPtr r apr (va &&& 0o17777) width.bytes w = some p) :
    ∃ pa, Core.mmuRelocate b r apr va w = (.ok pa, r.mmuNoteAccess apr w) ∧ pa.toNat = p := by
  obtain ⟨hmin, hmax, hread, hwrite, -⟩ := hi.hit_checks hp
  obtain ⟨pa, hpa, haddr⟩ := mmuRelocate_ok (b := b) hmin hmax hread hwrite
  exact ⟨pa, hpa, haddr.trans (hi.hit_address hp).1.symm⟩

end TlbInvariant

/-! ## Reset -/

theorem TlbInvariant.of_cleared {r : Regs} (hpdr : ∀ apr, r.mmu.pdr apr = 0)
    (htlb : ∀ apr, (r.mmu.tlb apr).hostBase = none) : TlbInvariant r where
  coherent apr := TlbEntry.serves_of_none (htlb apr)
  reserved apr _ := by
    rw [hpdr]
    rfl

theorem tlbInvariant_coreReset {β : Type} {h : Host β} {n : Nat} {m m' : Machine β}
    (hr : coreReset h n m = .done () m') (hmmu : h.build.enableMmu = true)
    (hmodel : m'.core.model = .dcj11) : TlbInvariant m'.core := by
  obtain ⟨maint, hitmiss, sel0, ram, hcore⟩ := coreReset_dcj11 hr hmodel
  rw [hcore]
  unfold Regs.coreReset
  dsimp only
  rw [if_pos hmmu]
  have hacf : mmuAcfReadOk (0 &&& mmuPdrJMask) = false := by decide
  exact .of_cleared (fun _ => rfl) (fun _ => mmuTlbEntry_unreadable hacf)

/-- In every reachable state of an MMU build of a J-11 the cache is coherent. -/
theorem Reachable.tlbInvariant {β : Type} {h : Host β} {m : Machine β} (hm : Reachable h m)
    (hmmu : h.build.enableMmu = true) : m.core.model = .dcj11 → TlbInvariant m.core := by
  refine hm.invariant (P := fun r => r.model = .dcj11 → TlbInvariant r) ?_ ?_
  · intro n m m' hr hmodel
    exact tlbInvariant_coreReset hr hmmu hmodel
  · intro op r _ hi hmodel
    exact (hi (by rwa [← Micro.model_apply op r])).apply op

/-! ## Accesses -/

/-- The space a data access goes to: that of the current mode, or a space of another mode. -/
inductive AccessSpace where
  | current
  | ofMode (mode : BitVec 2) (dataSpace : Bool)

structure Access where
  space : AccessSpace
  va : Word
  width : AccessWidth
  isWrite : Bool

namespace Access

def apr (r : Regs) (a : Access) : Apr :=
  match a.space with
  | .current => currentApr r a.va false false
  | .ofMode mode dataSpace => modeSpaceApr r a.va mode dataSpace

/-- The full translation of the access. -/
def translate (b : Build) (r : Regs) (a : Access) : Except MmuFault Dword × Regs :=
  match a.space with
  | .current => translateVaEx b r a.va a.isWrite false false
  | .ofMode mode dataSpace => translateVaModeSpace b r a.va a.isWrite mode dataSpace

/-- The RAM offset of the access on the direct path, when it is taken. -/
def direct {β : Type} (e : Env β) (r : Regs) (a : Access) : Option Nat :=
  e.tlbPtr r (a.apr r) a.va a.width.bytes a.isWrite

/-- The full translation succeeds, leaves the state that the direct path leaves, gives the
    address that `p` denotes, and that address is in RAM. -/
def Refines (b : Build) (r : Regs) (a : Access) (p : Nat) : Prop :=
  ∃ pa, a.translate b r = (.ok pa, r.mmuNoteAccess (a.apr r) a.isWrite) ∧ pa.toNat = p ∧
    dcj11IoAliasOffset b r pa = none

/-- With 18-bit mapping the access lands in the I/O page. -/
def InIoPage18 (r : Regs) (a : Access) : Prop :=
  r.mmu.ssr3 &&& mmuSsr3M22e = 0 ∧ 0o760000 ≤ pageAddress r (a.apr r) (a.va.toNat % 8192)

instance (r : Regs) (a : Access) : Decidable (a.InIoPage18 r) := inferInstanceAs (Decidable (_ ∧ _))

theorem apr_mode_ne (r : Regs) (mode : BitVec 2) (ds : Bool) (va : Word) :
    (modeSpaceApr r va mode ds).mode ≠ 2 := by
  unfold modeSpaceApr pswModeNormalize
  dsimp only
  split
  · decide
  · assumption

theorem translate_eq {b : Build} {r : Regs} {a : Access} (hr : relocating b r = true)
    (hmode : (a.apr r).mode ≠ 2) : a.translate b r = mmuRelocate b r (a.apr r) a.va a.isWrite := by
  have hnot : ¬ (!relocating b r) = true := by
    rw [hr]
    decide
  cases hspace : a.space with
  | current =>
    simp only [apr, hspace] at hmode ⊢
    simp only [translate, hspace, translateVaEx]
    rw [if_neg hnot, if_neg hmode]
  | ofMode mode ds =>
    simp only [apr, translate, hspace, translateVaModeSpace]
    exact if_neg hnot

/-- A hit is an access the full translation allows, at the address the pointer denotes. -/
theorem direct_translate {β : Type} {e : Env β} {r : Regs} (hi : TlbInvariant r) {a : Access} {p : Nat}
    (hp : a.direct e r = some p) :
    ∃ pa, a.translate e.host.build r = (.ok pa, r.mmuNoteAccess (a.apr r) a.isWrite) ∧
      pa.toNat = p := by
  unfold direct Env.tlbPtr at hp
  split at hp
  · rename_i hreloc
    obtain ⟨pa, hpa, haddr⟩ := hi.hit_relocate e.host.build hp
    exact ⟨pa, (translate_eq hreloc (hi.hit_mode hp)).trans hpa, haddr⟩
  · cases hp

/-- The alias window of an address below the end of the physical address space. -/
theorem alias_none_iff {b : Build} {r : Regs} {pa : Dword} (hr : relocating b r = true)
    (hlt : pa.toNat < physSize r.mmu.ssr3)
    (hio : r.mmu.ssr3 &&& mmuSsr3M22e ≠ 0 → pa.toNat < 0o17760000) :
    dcj11IoAliasOffset b r pa = none ↔
      ¬ (r.mmu.ssr3 &&& mmuSsr3M22e = 0 ∧ 0o760000 ≤ pa.toNat) := by
  have hnot : ¬ (!relocating b r) = true := by
    rw [hr]
    decide
  unfold dcj11IoAliasOffset
  rw [if_neg hnot]
  by_cases hm : r.mmu.ssr3 &&& mmuSsr3M22e = 0
  · have hsize : physSize r.mmu.ssr3 = 2 ^ 18 := if_neg (not_not.2 hm)
    rw [hsize] at hlt
    rw [if_neg (not_not.2 hm)]
    have hwindow : (0o760000 ≤ pa ∧ pa ≤ 0o777777) ↔ 0o760000 ≤ pa.toNat := by
      constructor
      · exact fun h => h.1
      · intro h
        refine ⟨h, ?_⟩
        show pa.toNat ≤ 0o777777
        omega
    by_cases hge : 0o760000 ≤ pa.toNat
    · rw [if_pos (hwindow.2 hge)]
      exact iff_of_false nofun (fun hout => hout ⟨hm, hge⟩)
    · rw [if_neg (mt hwindow.1 hge)]
      exact iff_of_true rfl (fun hin => hge hin.2)
  · rw [if_pos hm, if_pos (.inl (show pa.toNat < 0o17760000 from hio hm))]
    exact iff_of_true rfl (fun hin => hm hin.1)

end Access

/-- In every reachable state, an access on the direct path refines the full translation
    exactly when it does not land in the 18-bit I/O page. -/
theorem direct_refines_iff {β : Type} {e : Env β} {m : Machine β} (hm : Reachable e.host m)
    {a : Access} {p : Nat} (hp : a.direct e m.core = some p) :
    a.Refines e.host.build m.core p ↔ ¬ a.InIoPage18 m.core := by
  have hreloc : relocating e.host.build m.core = true := by
    by_contra hno
    simp [Access.direct, Env.tlbPtr, hno] at hp
  have hparts : (e.host.build.enableMmu = true ∧ m.core.model = .dcj11) ∧
      mmuEnabled m.core = true := by
    simpa [relocating] using hreloc
  have hi : TlbInvariant m.core := hm.tlbInvariant hparts.1.1 hparts.1.2
  obtain ⟨pa, htr, hpa⟩ := Access.direct_translate hi hp
  rw [Access.direct, Env.tlbPtr, if_pos hreloc] at hp
  obtain ⟨hpage, hlt, hio⟩ := hi.hit_address hp
  have halias := Access.alias_none_iff hreloc (hpa ▸ hlt) (hpa ▸ hio)
  rw [hpa, hpage] at halias
  constructor
  · rintro ⟨pa', htr', -, hnone⟩
    rw [htr] at htr'
    cases htr'
    exact halias.1 hnone
  · intro hout
    exact ⟨pa, htr, hpa, halias.2 hout⟩

/-- A J-11 with four megabytes of RAM. -/
def poweredMachine : Machine Memory := ⟨{ model := .dcj11, ramFastSize := 0x400000 }, fun _ => 0, []⟩

def resetMachine : Machine Memory := (coreReset (hwstub true) 1 poweredMachine).state

def stored (m : Machine Memory) (va value : Word) : Machine Memory :=
  (((MemoryAccess.storeWord va value).run (Env.nested (hwstub true) 1)).run m).state

def describedMachine : Machine Memory := stored resetMachine 0o172316 0o77406

def mappedMachine : Machine Memory := stored describedMachine 0o172356 0o7500

/-- Kernel page 7 is mapped at 0750000, relocation is on and the mapping is 18-bit. -/
def straddlingMachine : Machine Memory := stored mappedMachine mmuSsr0Addr 1

theorem reachable_straddlingMachine : Reachable (hwstub true) straddlingMachine := by
  have hreset : Reachable (hwstub true) resetMachine := .reset (m := poweredMachine) 1 rfl
  have hpdr : Reachable (hwstub true) describedMachine :=
    .access 1 (.storeWord 0o172316 0o77406) hreset rfl
  have hpar : Reachable (hwstub true) mappedMachine := .access 1 (.storeWord 0o172356 0o7500) hpdr rfl
  exact .access 1 (.storeWord mmuSsr0Addr 1) hpar rfl

def wordRead (va : Word) : Access := ⟨.current, va, .word, false⟩

/-- A word below the I/O page is read alike on both paths. -/
theorem direct_refines_iff_750000 :
    (wordRead 0o160000).Refines (hwstub true).build straddlingMachine.core 0o750000 ↔
      ¬ (wordRead 0o160000).InIoPage18 straddlingMachine.core :=
  direct_refines_iff (e := Env.nested (hwstub true) 1) reachable_straddlingMachine rfl

/-- The word of the I/O page at 0760000 is read from RAM. -/
theorem ioPage18_not_refined :
    Reachable (hwstub true) straddlingMachine ∧
    (wordRead 0o170000).direct (Env.nested (hwstub true) 1) straddlingMachine.core = some 0o760000 ∧
    ¬ (wordRead 0o170000).Refines (hwstub true).build straddlingMachine.core 0o760000 := by
  refine ⟨reachable_straddlingMachine, rfl, ?_⟩
  rintro ⟨pa, -, hpa, hnone⟩
  have hpa' : pa = 0o760000 := BitVec.eq_of_toNat_eq hpa
  subst hpa'
  have hwindow : dcj11IoAliasOffset (hwstub true).build straddlingMachine.core 0o760000 =
      some 0o160000 := rfl
  rw [hwindow] at hnone
  cases hnone

end K1801.Core
