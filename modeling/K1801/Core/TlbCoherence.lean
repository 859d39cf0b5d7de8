import K1801.Core.FaultLatch

/-! # Coherence of the translation cache

An entry of the cache may differ from what `mmuTlbEntry` computes from the page registers
in one way: it may lack the write flag that a page has earned since. Every operation keeps
it so.
-/

namespace K1801.Core

open Library

/-! ## Bit fields -/

theorem and_of_or_disjoint {w : Nat} (x : BitVec w) {c m : BitVec w} (h : c &&& m = 0) :
    (x ||| c) &&& m = x &&& m := by
  rw [BitVec.and_or_distrib_right, h]
  exact BitVec.or_zero

theorem field_of_or_disjoint {w : Nat} (x : BitVec w) {c j m : BitVec w} {k : Nat}
    (h : ((c &&& j) >>> k) &&& m = 0) :
    (((x ||| c) &&& j) >>> k) &&& m = ((x &&& j) >>> k) &&& m := by
  rw [BitVec.and_or_distrib_right, BitVec.ushiftRight_or_distrib, and_of_or_disjoint _ h]

/-- The status bits of a PDR, the only ones that accesses change. -/
def IsStatus (bits : Word) : Prop := bits = mmuPdrA ∨ bits = mmuPdrW ∨ bits = mmuPdrA ||| mmuPdrW

/-! ## Entries -/

namespace TlbEntry

def validMin (e : TlbEntry) : Word := e.validMinFlags &&& mmuTlbValidMinMask

def writeAllowed (e : TlbEntry) : Bool := e.validMinFlags &&& mmuTlbWriteAllowed ≠ 0

/-- `e` may be used in place of `fresh`. -/
def Serves (e fresh : TlbEntry) : Prop :=
  ∀ p, e.hostBase = some p →
    fresh.hostBase = some p ∧ e.validMax = fresh.validMax ∧ e.validMin = fresh.validMin ∧
      (e.writeAllowed = true → fresh.writeAllowed = true)

theorem Serves.refl (e : TlbEntry) : e.Serves e := fun _ h => ⟨h, rfl, rfl, id⟩

theorem Serves.trans {e f g : TlbEntry} (h : e.Serves f) (h' : f.Serves g) : e.Serves g := by
  intro p hp
  obtain ⟨hf, hmax, hmin, hw⟩ := h p hp
  obtain ⟨hg, hmax', hmin', hw'⟩ := h' p hf
  exact ⟨hg, hmax.trans hmax', hmin.trans hmin', fun he => hw' (hw he)⟩

theorem serves_of_none {e fresh : TlbEntry} (h : e.hostBase = none) : e.Serves fresh := by
  intro p hp
  rw [h] at hp
  cases hp

end TlbEntry

/-! ## PDR fields and status bits -/

theorem pdr_acf_or_status (x : Word) {bits : Word} (hb : IsStatus bits) :
    ((x ||| bits) &&& mmuPdrJMask) &&& 0o6 = (x &&& mmuPdrJMask) &&& 0o6 := by
  rw [BitVec.and_assoc, BitVec.and_assoc]
  rcases hb with rfl | rfl | rfl <;> exact and_of_or_disjoint x (by decide)

theorem pdrEd_or_status (x : Word) {bits : Word} (hb : IsStatus bits) :
    pdrEd ((x ||| bits) &&& mmuPdrJMask) = pdrEd (x &&& mmuPdrJMask) := by
  rcases hb with rfl | rfl | rfl <;> exact field_of_or_disjoint x (by decide)

theorem pdrLen_or_status (x : Word) {bits : Word} (hb : IsStatus bits) :
    pdrLen ((x ||| bits) &&& mmuPdrJMask) = pdrLen (x &&& mmuPdrJMask) := by
  rcases hb with rfl | rfl | rfl <;> exact field_of_or_disjoint x (by decide)

theorem mmuAcfReadOk_or_status (x : Word) {bits : Word} (hb : IsStatus bits) :
    mmuAcfReadOk ((x ||| bits) &&& mmuPdrJMask) = mmuAcfReadOk (x &&& mmuPdrJMask) := by
  simp only [mmuAcfReadOk, pdr_acf_or_status x hb]

theorem mmuAcfWriteOk_or_status (x : Word) {bits : Word} (hb : IsStatus bits) :
    mmuAcfWriteOk ((x ||| bits) &&& mmuPdrJMask) = mmuAcfWriteOk (x &&& mmuPdrJMask) := by
  simp only [mmuAcfWriteOk, pdr_acf_or_status x hb]

/-- Or-ing cannot clear a written bit. -/
theorem pdrW_or {x : Word} (bits : Word) (h : (x &&& mmuPdrJMask) &&& mmuPdrW ≠ 0) :
    ((x ||| bits) &&& mmuPdrJMask) &&& mmuPdrW ≠ 0 := by
  intro h0
  rw [BitVec.and_or_distrib_right, BitVec.and_or_distrib_right] at h0
  exact h (BitVec.or_eq_zero_iff.1 h0).1

/-! ## The fields of an entry -/

theorem pdrLen_window (x : Word) : (pdrLen x <<< 6) &&& mmuTlbValidMinMask = pdrLen x <<< 6 := by
  unfold pdrLen
  rw [BitVec.shiftLeft_and_distrib, BitVec.and_assoc]
  rfl

theorem pdrLen_flag (x : Word) : (pdrLen x <<< 6) &&& mmuTlbWriteAllowed = 0 := by
  unfold pdrLen
  rw [BitVec.shiftLeft_and_distrib, BitVec.and_assoc]
  exact BitVec.and_zero

/-- The lowest legal offset of a page. -/
def pageMin (pdr : Word) : Word := if pdrEd pdr ≠ 0 then pdrLen pdr <<< 6 else 0

/-- The highest legal offset of a page. -/
def pageMax (pdr : Word) : Word := if pdrEd pdr ≠ 0 then 0x1FFF else (pdrLen pdr <<< 6) ||| 0x3F

/-- The page may be written without going through translation. -/
def pageWritten (pdr : Word) : Bool := pdr &&& mmuPdrW ≠ 0 && mmuAcfWriteOk pdr

theorem pageMin_window (pdr : Word) : pageMin pdr &&& mmuTlbValidMinMask = pageMin pdr := by
  unfold pageMin
  split
  · exact pdrLen_window pdr
  · rfl

theorem pageMin_flag (pdr : Word) : pageMin pdr &&& mmuTlbWriteAllowed = 0 := by
  unfold pageMin
  split
  · exact pdrLen_flag pdr
  · rfl

theorem mmuTlbEntry_eq (r : Regs) (apr : Apr) :
    let pdr := r.mmu.pdr apr &&& mmuPdrJMask
    mmuTlbEntry r apr = if mmuAcfReadOk pdr then
      { hostBase := mmuTlbHostBase r apr
        validMinFlags := pageMin pdr ||| (if pageWritten pdr then mmuTlbWriteAllowed else 0)
        validMax := pageMax pdr } else {} := by
  intro pdr
  unfold mmuTlbEntry pageMin pageMax pageWritten
  cases h : mmuAcfReadOk pdr <;>
    simp only [pdr, h, Bool.not_false, Bool.not_true, Bool.false_eq_true, if_true, if_false,
      decide_eq_true_eq, Bool.and_eq_true]

theorem mmuTlbEntry_unreadable {r : Regs} {apr : Apr}
    (h : mmuAcfReadOk (r.mmu.pdr apr &&& mmuPdrJMask) = false) :
    (mmuTlbEntry r apr).hostBase = none := by
  rw [mmuTlbEntry_eq, h]
  rfl

/-- What a computed entry says when the page is readable. -/
theorem mmuTlbEntry_readable {r : Regs} {apr : Apr}
    (h : mmuAcfReadOk (r.mmu.pdr apr &&& mmuPdrJMask) = true) :
    let pdr := r.mmu.pdr apr &&& mmuPdrJMask
    (mmuTlbEntry r apr).hostBase = mmuTlbHostBase r apr ∧
      (mmuTlbEntry r apr).validMin = pageMin pdr ∧
      (mmuTlbEntry r apr).validMax = pageMax pdr ∧
      (mmuTlbEntry r apr).writeAllowed = pageWritten pdr := by
  intro pdr
  have hpdr : mmuAcfReadOk pdr = true := h
  rw [mmuTlbEntry_eq, if_pos hpdr]
  refine ⟨rfl, ?_, rfl, ?_⟩
  · show (pageMin pdr ||| _) &&& mmuTlbValidMinMask = _
    rw [and_of_or_disjoint _ (by split <;> decide), pageMin_window]
  · show decide ((pageMin pdr ||| _) &&& mmuTlbWriteAllowed ≠ 0) = _
    rw [BitVec.and_or_distrib_right, pageMin_flag]
    cases pageWritten pdr <;> decide

/-! ## What an entry depends on -/

theorem mmuTlbHostBase_congr {r r' : Regs} {apr : Apr} (hpar : r'.mmu.par apr = r.mmu.par apr)
    (hssr3 : r'.mmu.ssr3 = r.mmu.ssr3) (hram : r'.ramFast = r.ramFast)
    (hsize : r'.ramFastSize = r.ramFastSize) : mmuTlbHostBase r' apr = mmuTlbHostBase r apr := by
  unfold mmuTlbHostBase
  rw [hpar, hssr3, hram, hsize]

theorem mmuTlbEntry_congr {r r' : Regs} {apr : Apr} (hpar : r'.mmu.par apr = r.mmu.par apr)
    (hpdr : r'.mmu.pdr apr = r.mmu.pdr apr) (hssr3 : r'.mmu.ssr3 = r.mmu.ssr3)
    (hram : r'.ramFast = r.ramFast) (hsize : r'.ramFastSize = r.ramFastSize) :
    mmuTlbEntry r' apr = mmuTlbEntry r apr := by
  rw [mmuTlbEntry_eq, mmuTlbEntry_eq, hpdr, mmuTlbHostBase_congr hpar hssr3 hram hsize]

/-- A status bit set in a PDR can only add the write flag to a computed entry. -/
theorem mmuTlbEntry_serves_setPdr (r : Regs) (apr apr' : Apr) {bits : Word} (hb : IsStatus bits) :
    (mmuTlbEntry r apr').Serves (mmuTlbEntry (r.setPdr apr (r.mmu.pdr apr ||| bits)) apr') := by
  by_cases ha : apr' = apr
  · subst ha
    have hpdr : (r.setPdr apr' (r.mmu.pdr apr' ||| bits)).mmu.pdr apr' = r.mmu.pdr apr' ||| bits :=
      Function.update_self ..
    cases hread : mmuAcfReadOk (r.mmu.pdr apr' &&& mmuPdrJMask) with
    | false => exact TlbEntry.serves_of_none (mmuTlbEntry_unreadable hread)
    | true =>
      intro p hp
      have hread' := hread
      rw [← mmuAcfReadOk_or_status (r.mmu.pdr apr') hb, ← hpdr] at hread'
      obtain ⟨hbase, hmin, hmax, hw⟩ := mmuTlbEntry_readable hread
      obtain ⟨hbase', hmin', hmax', hw'⟩ := mmuTlbEntry_readable hread'
      rw [hpdr] at hmin' hmax' hw'
      refine ⟨?_, ?_, ?_, ?_⟩
      · rw [hbase', ← hp, hbase]
        exact mmuTlbHostBase_congr rfl rfl rfl rfl
      · rw [hmax, hmax', pageMax, pageMax, pdrEd_or_status _ hb, pdrLen_or_status _ hb]
      · rw [hmin, hmin', pageMin, pageMin, pdrEd_or_status _ hb, pdrLen_or_status _ hb]
      · rw [hw, hw', pageWritten, pageWritten, mmuAcfWriteOk_or_status _ hb]
        intro h
        simp only [Bool.and_eq_true, decide_eq_true_eq] at h ⊢
        exact ⟨pdrW_or bits h.1, h.2⟩
  · have hpdr : (r.setPdr apr (r.mmu.pdr apr ||| bits)).mmu.pdr apr' = r.mmu.pdr apr' :=
      Function.update_of_ne ha ..
    have heq : mmuTlbEntry (r.setPdr apr (r.mmu.pdr apr ||| bits)) apr' = mmuTlbEntry r apr' :=
      mmuTlbEntry_congr rfl hpdr rfl rfl rfl
    rw [heq]
    exact .refl _

/-! ## The invariant -/

/-- Every cached entry may be used in place of the entry its page registers give, and the
    page registers of the reserved mode allow nothing. -/
structure TlbInvariant (r : Regs) : Prop where
  coherent : ∀ apr, (r.mmu.tlb apr).Serves (mmuTlbEntry r apr)
  reserved : ∀ apr : Apr, apr.mode = 2 → r.mmu.pdr apr &&& 0o6 = 0

namespace TlbInvariant

variable {r r' : Regs}

theorem congr (hi : TlbInvariant r) (htlb : r'.mmu.tlb = r.mmu.tlb) (hpar : r'.mmu.par = r.mmu.par)
    (hpdr : r'.mmu.pdr = r.mmu.pdr) (hssr3 : r'.mmu.ssr3 = r.mmu.ssr3)
    (hram : r'.ramFast = r.ramFast) (hsize : r'.ramFastSize = r.ramFastSize) :
    TlbInvariant r' where
  coherent apr := by
    rw [htlb, mmuTlbEntry_congr (congrFun hpar apr) (congrFun hpdr apr) hssr3 hram hsize]
    exact hi.coherent apr
  reserved apr ha := by
    rw [hpdr]
    exact hi.reserved apr ha

theorem of_memory (hi : TlbInvariant r) (h : r'.memory = r.memory) : TlbInvariant r' := by
  obtain ⟨-, hmmu, hram, hsize⟩ := Regs.memory_eq_iff.1 h
  exact hi.congr (by rw [hmmu]) (by rw [hmmu]) (by rw [hmmu]) (by rw [hmmu]) hram hsize

/-- Setting status bits of one PDR. -/
theorem status (hi : TlbInvariant r) (apr : Apr) {bits : Word} (hb : IsStatus bits) :
    TlbInvariant (r.setPdr apr (r.mmu.pdr apr ||| bits)) where
  coherent apr' := (hi.coherent apr').trans (mmuTlbEntry_serves_setPdr r apr apr' hb)
  reserved apr' ha := by
    by_cases h : apr' = apr
    · subst h
      have hpdr : (r.setPdr apr' (r.mmu.pdr apr' ||| bits)).mmu.pdr apr' = r.mmu.pdr apr' ||| bits :=
        Function.update_self ..
      rw [hpdr, and_of_or_disjoint _ (by rcases hb with rfl | rfl | rfl <;> decide)]
      exact hi.reserved apr' ha
    · have hpdr : (r.setPdr apr (r.mmu.pdr apr ||| bits)).mmu.pdr apr' = r.mmu.pdr apr' :=
        Function.update_of_ne h ..
      rw [hpdr]
      exact hi.reserved apr' ha

/-- Rebuilding every entry. -/
theorem flush (hres : ∀ apr : Apr, apr.mode = 2 → r.mmu.pdr apr &&& 0o6 = 0) :
    TlbInvariant r.mmuTlbFlushAll where
  coherent apr := by
    have heq : mmuTlbEntry r.mmuTlbFlushAll apr = mmuTlbEntry r apr :=
      mmuTlbEntry_congr rfl rfl rfl rfl rfl
    rw [heq]
    exact .refl _
  reserved := hres

/-- Rebuilding the entry of the one page whose registers changed. -/
theorem update (hi : TlbInvariant r) {apr : Apr} (hmode : apr.mode ≠ 2)
    (htlb : r'.mmu.tlb = r.mmu.tlb)
    (hother : ∀ a, a ≠ apr → r'.mmu.par a = r.mmu.par a ∧ r'.mmu.pdr a = r.mmu.pdr a)
    (hssr3 : r'.mmu.ssr3 = r.mmu.ssr3) (hram : r'.ramFast = r.ramFast)
    (hsize : r'.ramFastSize = r.ramFastSize) : TlbInvariant (r'.mmuTlbUpdate apr) where
  coherent a := by
    have heq : mmuTlbEntry (r'.mmuTlbUpdate apr) a = mmuTlbEntry r' a :=
      mmuTlbEntry_congr rfl rfl rfl rfl rfl
    rw [heq]
    by_cases h : a = apr
    · subst h
      have hself : (r'.mmuTlbUpdate a).mmu.tlb a = mmuTlbEntry r' a := Function.update_self ..
      rw [hself]
      exact .refl _
    · have hne : (r'.mmuTlbUpdate apr).mmu.tlb a = r'.mmu.tlb a := Function.update_of_ne h ..
      rw [hne, htlb, mmuTlbEntry_congr (hother a h).1 (hother a h).2 hssr3 hram hsize]
      exact hi.coherent a
  reserved a ha := by
    have hne : a ≠ apr := by
      rintro rfl
      exact hmode ha
    show r'.mmu.pdr a &&& 0o6 = 0
    rw [(hother a hne).2]
    exact hi.reserved a ha

/-! ## Status updates of the translation routines -/

theorem mmuNoteAccess (hi : TlbInvariant r) (apr : Apr) (w : Bool) :
    TlbInvariant (r.mmuNoteAccess apr w) := by
  unfold Regs.mmuNoteAccess
  cases w
  · exact hi.status apr (.inl rfl)
  · exact hi.status apr (.inr (.inr rfl))

theorem mmuNoteWritePdrw (hi : TlbInvariant r) (b : Build) (apr : Apr) :
    TlbInvariant (r.mmuNoteWritePdrw b apr) := by
  unfold Regs.mmuNoteWritePdrw
  split
  · exact hi
  · split
    · exact hi
    · split
      · exact hi
      · exact hi.status _ (.inr (.inl rfl))

theorem mmuNoteInternalRegWrite (hi : TlbInvariant r) (b : Build) (va : Word) (fk : Bool) :
    TlbInvariant (r.mmuNoteInternalRegWrite b va fk) := by
  unfold Regs.mmuNoteInternalRegWrite
  split
  · exact hi
  · split
    · exact hi
    · split
      · exact hi
      · exact hi.mmuNoteWritePdrw b _

theorem mmuRelocate (hi : TlbInvariant r) (b : Build) (apr : Apr) (va : Word) (w : Bool) :
    TlbInvariant (mmuRelocate b r apr va w).2 := by
  have hrefused : TlbInvariant (if w then r.mmuNoteWritePdrw b apr else r) := by
    cases w
    · exact hi
    · exact hi.mmuNoteWritePdrw b apr
  unfold Core.mmuRelocate
  dsimp only
  split
  · exact hrefused
  · split
    · exact hrefused
    · split
      · exact hrefused
      · exact hi.mmuNoteAccess apr w

theorem translateVaEx (hi : TlbInvariant r) (b : Build) (va : Word) (w i k : Bool) :
    TlbInvariant (translateVaEx b r va w i k).2 := by
  unfold Core.translateVaEx
  dsimp only
  split
  · exact hi
  · split
    · cases w
      · exact hi
      · exact hi.mmuNoteWritePdrw b _
    · exact hi.mmuRelocate b _ va w

theorem translateVaModeSpace (hi : TlbInvariant r) (b : Build) (va : Word) (w : Bool)
    (mode : BitVec 2) (ds : Bool) : TlbInvariant (translateVaModeSpace b r va w mode ds).2 := by
  unfold Core.translateVaModeSpace
  split
  · exact hi
  · exact hi.mmuRelocate b _ va w

end TlbInvariant

/-! ## Register stores -/

theorem mmuDec_mode {a base : Word} {mode : BitVec 2} {space isPar isPar' : Bool} {apr : Apr}
    (h : mmuDec a base mode space isPar = some (apr, isPar')) : apr.mode = mode := by
  unfold mmuDec at h
  split at h
  · cases h
    rfl
  · cases h

/-- No page register of the reserved mode is addressable. -/
theorem mmuDecodeParpdr_mode {a : Word} {apr : Apr} {isPar : Bool}
    (h : mmuDecodeParpdr a = some (apr, isPar)) : apr.mode ≠ 2 := by
  unfold mmuDecodeParpdr at h
  simp only [Option.orElse_eq_orElse, Option.orElse_eq_or, Option.or_eq_some_iff] at h
  rcases h with h | ⟨-, h | ⟨-, h | ⟨-, h | ⟨-, h | ⟨-, h | ⟨-, h | ⟨-, h | ⟨-, h | ⟨-, h | ⟨-, h |
    ⟨-, h⟩⟩⟩⟩⟩⟩⟩⟩⟩⟩⟩
  all_goals
    rw [mmuDec_mode h]
    decide

namespace TlbInvariant

variable {r r' : Regs}

theorem mmuIoWriteWord (hi : TlbInvariant r) {b : Build} {a v : Word}
    (h : mmuIoWriteWord b r a v = some r') : TlbInvariant r' := by
  unfold Core.mmuIoWriteWord at h
  dsimp only at h
  split at h
  · cases h
  split at h
  · cases h
  split at h
  · split at h
    · cases h
      exact hi
    · split at h <;> cases h
      · exact .flush hi.reserved
      · exact hi.congr rfl rfl rfl rfl rfl rfl
  split at h
  · cases h
    exact hi
  split at h
  · cases h
    exact hi
  split at h
  · split at h <;> cases h
    · exact hi
    · exact .flush hi.reserved
  split at h
  · rename_i apr isPar hdec
    have hmode := mmuDecodeParpdr_mode hdec
    split at h
    · cases h
      exact hi
    · split at h <;> cases h
      · refine hi.update hmode rfl ?_ rfl rfl rfl
        intro a ha
        exact ⟨Function.update_of_ne ha .., Function.update_of_ne ha ..⟩
      · refine hi.update hmode rfl ?_ rfl rfl rfl
        intro a ha
        exact ⟨rfl, Function.update_of_ne ha ..⟩
  · cases h

theorem mmuIoWriteByte (hi : TlbInvariant r) {b : Build} {a : Word} {v : Byte}
    (h : mmuIoWriteByte b r a v = some r') : TlbInvariant r' := by
  unfold Core.mmuIoWriteByte at h
  dsimp only at h
  split at h
  · cases h
  · exact hi.mmuIoWriteWord h

theorem regBlockStoreWord (hi : TlbInvariant r) {b : Build} {a v : Word}
    (h : regBlockStoreWord b r a v = some r') : TlbInvariant r' := by
  unfold Core.regBlockStoreWord at h
  split at h
  · simp only [Option.orElse_eq_orElse, Option.orElse_eq_or, Option.or_eq_some_iff] at h
    rcases h with h | ⟨_, h⟩
    · exact hi.of_memory (Regs.memory_of_frame (frame_dcj11RegBlockStoreWord h))
    · exact hi.mmuIoWriteWord h
  · split at h
    · exact hi.of_memory (Regs.memory_of_frame (frame_vm1RegBlockStoreWord h))
    · cases h

theorem regBlockStoreByte (hi : TlbInvariant r) {b : Build} {a : Word} {v : Byte}
    (h : regBlockStoreByte b r a v = some r') : TlbInvariant r' := by
  unfold Core.regBlockStoreByte at h
  split at h
  · simp only [Option.orElse_eq_orElse, Option.orElse_eq_or, Option.or_eq_some_iff] at h
    rcases h with h | ⟨_, h⟩
    · exact hi.of_memory (Regs.memory_of_frame (frame_dcj11RegBlockStoreByte h))
    · exact hi.mmuIoWriteByte h
  · split at h
    · exact hi.of_memory (Regs.memory_of_frame (frame_vm1RegBlockStoreByte h))
    · cases h

theorem dcj11ResetInstructionState (hi : TlbInvariant r) (b : Build) :
    TlbInvariant (r.dcj11ResetInstructionState b) := by
  unfold Regs.dcj11ResetInstructionState
  split
  · exact hi
  · dsimp only
    split
    · exact .flush hi.reserved
    · exact hi.congr rfl rfl rfl rfl rfl rfl

/-- Every operation keeps the cache coherent. -/
theorem apply (hi : TlbInvariant r) (op : Micro) : TlbInvariant (op.apply r) := by
  by_cases ht : op.touchesMemory = false
  · exact hi.of_memory (Micro.memory_apply ht r)
  cases op with
  | fetchBegin b =>
    simp only [Micro.apply, Regs.mmuMmr1InstructionStart]
    repeat' (first | exact hi.congr rfl rfl rfl rfl rfl rfl | split)
  | recordDelta b reg d =>
    simp only [Micro.apply, Regs.mmuMmr1RecordDelta]
    repeat' (first | exact hi.congr rfl rfl rfl rfl rfl rfl | split)
  | recordFault b f apr =>
    simp only [Micro.apply, Regs.mmuRecordFault]
    repeat' (first | exact hi.congr rfl rfl rfl rfl rfl rfl | split)
  | noteAccess apr w => exact hi.mmuNoteAccess apr w
  | translate b va w i k => exact hi.translateVaEx b va w i k
  | translateModeSpace b va w mode ds => exact hi.translateVaModeSpace b va w mode ds
  | internalRegWrite b va k => exact hi.mmuNoteInternalRegWrite b va k
  | pdrWritten b apr =>
    simp only [Micro.apply]
    split
    · exact hi.mmuNoteWritePdrw b apr
    · exact hi
  | regStoreByte b a v =>
    cases h : Core.regBlockStoreByte b r a v with
    | none => simpa only [Micro.apply, h, Option.getD_none] using hi
    | some r' => simpa only [Micro.apply, h, Option.getD_some] using hi.regBlockStoreByte h
  | regStoreWord b a v =>
    cases h : Core.regBlockStoreWord b r a v with
    | none => simpa only [Micro.apply, h, Option.getD_none] using hi
    | some r' => simpa only [Micro.apply, h, Option.getD_some] using hi.regBlockStoreWord h
  | resetState b => exact (hi.dcj11ResetInstructionState b).congr rfl rfl rfl rfl rfl rfl
  | _ => exact absurd rfl ht

end TlbInvariant

end K1801.Core
