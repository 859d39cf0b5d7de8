import K1801.Core.Frames
import K1801.Core.Hwstub

/-! # First-fault latch

Once MMR0<15:13> holds a fault, MMR0, MMR1 and MMR2 stay as they are until software stores
to MMR0 or a RESET clears it.
-/

namespace K1801.Core

open Library

namespace Regs

/-- `mmu_ssr0`, `mmu_ssr1` and `mmu_ssr2` -/
def faultLatch (r : Regs) : Word × Word × Word := (r.mmu.ssr0, r.mmu.ssr1, r.mmu.ssr2)

/-- Any of MMR0<15:13> is set. -/
def frozen (r : Regs) : Prop := r.mmu.ssr0 &&& mmuSsr0Freeze ≠ 0

instance (r : Regs) : Decidable r.frozen := inferInstanceAs (Decidable (_ ≠ _))

theorem faultLatch_of_memory {r r' : Regs} (h : r'.memory = r.memory) :
    r'.faultLatch = r.faultLatch := by
  have hmmu : r'.mmu = r.mmu := (memory_eq_iff.1 h).2.1
  simp [faultLatch, hmmu]

/-! ## Status bits and the translation cache are outside the latch -/

@[simp] theorem faultLatch_setPdr (apr : Apr) (v : Word) (r : Regs) :
    (r.setPdr apr v).faultLatch = r.faultLatch := rfl

@[simp] theorem faultLatch_mmuTlbUpdate (apr : Apr) (r : Regs) :
    (r.mmuTlbUpdate apr).faultLatch = r.faultLatch := rfl

@[simp] theorem faultLatch_mmuTlbFlushAll (r : Regs) :
    r.mmuTlbFlushAll.faultLatch = r.faultLatch := rfl

@[simp] theorem faultLatch_mmuNoteAccess (apr : Apr) (w : Bool) (r : Regs) :
    (r.mmuNoteAccess apr w).faultLatch = r.faultLatch := rfl

@[simp] theorem faultLatch_mmuNoteWritePdrw (b : Build) (apr : Apr) (r : Regs) :
    (r.mmuNoteWritePdrw b apr).faultLatch = r.faultLatch := by
  unfold mmuNoteWritePdrw
  repeat' (first | rfl | split)

@[simp] theorem faultLatch_mmuNoteInternalRegWrite (b : Build) (va : Word) (fk : Bool) (r : Regs) :
    (r.mmuNoteInternalRegWrite b va fk).faultLatch = r.faultLatch := by
  unfold mmuNoteInternalRegWrite
  repeat' (first | rfl | exact faultLatch_mmuNoteWritePdrw _ _ _ | split)

@[simp] theorem faultLatch_mmuRelocate (b : Build) (r : Regs) (apr : Apr) (va : Word) (w : Bool) :
    (mmuRelocate b r apr va w).2.faultLatch = r.faultLatch := by
  unfold mmuRelocate
  dsimp only
  repeat' (first | rfl | exact faultLatch_mmuNoteWritePdrw _ _ _ | split)

@[simp] theorem faultLatch_translateVaEx (b : Build) (r : Regs) (va : Word) (w i k : Bool) :
    (translateVaEx b r va w i k).2.faultLatch = r.faultLatch := by
  unfold translateVaEx
  dsimp only
  repeat' (first | rfl | exact faultLatch_mmuNoteWritePdrw _ _ _
                 | exact faultLatch_mmuRelocate _ _ _ _ _ | split)

@[simp] theorem faultLatch_translateVaModeSpace (b : Build) (r : Regs) (va : Word) (w : Bool)
    (mode : BitVec 2) (ds : Bool) :
    (translateVaModeSpace b r va w mode ds).2.faultLatch = r.faultLatch := by
  unfold translateVaModeSpace
  split
  · rfl
  · exact faultLatch_mmuRelocate _ _ _ _ _

/-! ## The updates that honour the freeze -/

theorem mmuMmr1InstructionStart_frozen (b : Build) {r : Regs} (h : r.frozen) :
    r.mmuMmr1InstructionStart b = r := by
  unfold mmuMmr1InstructionStart
  split
  · rfl
  · split
    · rfl
    · exact if_pos h

theorem mmuMmr1RecordDelta_frozen (b : Build) (reg : BitVec 3) (d : Word) {r : Regs} (h : r.frozen) :
    r.mmuMmr1RecordDelta b reg d = r := by
  unfold mmuMmr1RecordDelta
  split
  · rfl
  · split
    · rfl
    · exact if_pos h

theorem mmuRecordFault_frozen (b : Build) (f : MmuFault) (apr : Apr) {r : Regs} (h : r.frozen) :
    r.mmuRecordFault b f apr = r := by
  unfold mmuRecordFault
  split
  · rfl
  · split
    · rfl
    · exact if_pos h

end Regs

/-! ## Stores into the register block -/

theorem faultLatch_mmuIoWriteWord {b : Build} {r r' : Regs} {a v : Word}
    (h : mmuIoWriteWord b r a v = some r') (ha : a &&& 0o177776 ≠ mmuSsr0Addr) :
    r'.faultLatch = r.faultLatch := by
  unfold mmuIoWriteWord at h
  dsimp only at h
  repeat' split at h
  all_goals first
    | contradiction
    | cases h; rfl

theorem word_address_idem (a : Word) : a &&& 0o177776 &&& 0o177776 = a &&& 0o177776 := by
  rw [BitVec.and_assoc, BitVec.and_self]

theorem faultLatch_mmuIoWriteByte {b : Build} {r r' : Regs} {a : Word} {v : Byte}
    (h : mmuIoWriteByte b r a v = some r') (ha : a &&& 0o177776 ≠ mmuSsr0Addr) :
    r'.faultLatch = r.faultLatch := by
  unfold mmuIoWriteByte at h
  dsimp only at h
  split at h
  · cases h
  · exact faultLatch_mmuIoWriteWord h (by rwa [word_address_idem])

theorem faultLatch_regBlockStoreWord {b : Build} {r r' : Regs} {a v : Word}
    (h : regBlockStoreWord b r a v = some r') (ha : a &&& 0o177776 ≠ mmuSsr0Addr) :
    r'.faultLatch = r.faultLatch := by
  unfold regBlockStoreWord at h
  split at h
  · simp only [Option.orElse_eq_orElse, Option.orElse_eq_or, Option.or_eq_some_iff] at h
    rcases h with h | ⟨_, h⟩
    · exact Regs.faultLatch_of_memory (Regs.memory_of_frame (frame_dcj11RegBlockStoreWord h))
    · exact faultLatch_mmuIoWriteWord h ha
  · split at h
    · exact Regs.faultLatch_of_memory (Regs.memory_of_frame (frame_vm1RegBlockStoreWord h))
    · cases h

theorem faultLatch_regBlockStoreByte {b : Build} {r r' : Regs} {a : Word} {v : Byte}
    (h : regBlockStoreByte b r a v = some r') (ha : a &&& 0o177776 ≠ mmuSsr0Addr) :
    r'.faultLatch = r.faultLatch := by
  unfold regBlockStoreByte at h
  split at h
  · simp only [Option.orElse_eq_orElse, Option.orElse_eq_or, Option.or_eq_some_iff] at h
    rcases h with h | ⟨_, h⟩
    · exact Regs.faultLatch_of_memory (Regs.memory_of_frame (frame_dcj11RegBlockStoreByte h))
    · exact faultLatch_mmuIoWriteByte h ha
  · split at h
    · exact Regs.faultLatch_of_memory (Regs.memory_of_frame (frame_vm1RegBlockStoreByte h))
    · cases h

/-! ## The latch over a run -/

/-- The operations that may end a freeze: a store to MMR0, and RESET. -/
def Micro.clearsLatch : Micro → Bool
  | regStoreByte _ offset _ => offset &&& 0o177776 = mmuSsr0Addr
  | regStoreWord _ offset _ => offset &&& 0o177776 = mmuSsr0Addr
  | resetState _ => true
  | _ => false

theorem Micro.faultLatch_apply {op : Micro} {r : Regs} (hop : op.clearsLatch = false)
    (hr : r.frozen) : (op.apply r).faultLatch = r.faultLatch := by
  by_cases ht : op.touchesMemory = false
  · exact Regs.faultLatch_of_memory (memory_apply ht r)
  · cases op with
    | fetchBegin b =>
      have hr' : { r with instrPc := r.r 7 }.frozen := hr
      simp only [apply, Regs.mmuMmr1InstructionStart_frozen b hr']
      rfl
    | recordDelta b reg d => simp only [apply, Regs.mmuMmr1RecordDelta_frozen b reg d hr]
    | recordFault b f apr => simp only [apply, Regs.mmuRecordFault_frozen b f apr hr]
    | regStoreByte b a v =>
      have ha : a &&& 0o177776 ≠ mmuSsr0Addr := by simpa [clearsLatch] using hop
      cases h : regBlockStoreByte b r a v with
      | none => simp [apply, h]
      | some r' => simpa [apply, h] using faultLatch_regBlockStoreByte h ha
    | regStoreWord b a v =>
      have ha : a &&& 0o177776 ≠ mmuSsr0Addr := by simpa [clearsLatch] using hop
      cases h : regBlockStoreWord b r a v with
      | none => simp [apply, h]
      | some r' => simpa [apply, h] using faultLatch_regBlockStoreWord h ha
    | resetState => cases hop
    | pdrWritten b apr =>
      simp only [apply]
      split
      · exact Regs.faultLatch_mmuNoteWritePdrw b apr r
      · rfl
    | noteAccess | translate | translateModeSpace | internalRegWrite => simp [apply]
    | _ => exact absurd rfl ht

theorem Operations.Run.faultLatch {r r' : Regs} {ops : List Micro} (h : micro.Run r ops r')
    (hops : ∀ op ∈ ops, op.clearsLatch = false) (hr : r.frozen) :
    r'.faultLatch = r.faultLatch := by
  refine h.preserves (P := fun s => s.faultLatch = r.faultLatch)
    (S := fun op => op.clearsLatch = false) ?_ hops rfl
  intro op s hop _ hs
  have hfrozen : s.frozen := by
    have h0 : s.mmu.ssr0 = r.mmu.ssr0 := congrArg Prod.fst hs
    simpa [Regs.frozen, h0] using hr
  exact (Micro.faultLatch_apply hop hfrozen).trans hs

/-- Through any run of steps without a store to MMR0 and without RESET, a latched fault
    keeps MMR0, MMR1 and MMR2 as they are. -/
theorem firstFault_kept {β : Type} {h : Host β} {m m' : Machine β} (hsteps : Steps h m m')
    (hops : ∀ op ∈ m.since m', op.clearsLatch = false) (hfrozen : m.core.frozen) :
    m'.core.mmu.ssr0 = m.core.mmu.ssr0 ∧ m'.core.mmu.ssr1 = m.core.mmu.ssr1 ∧
      m'.core.mmu.ssr2 = m.core.mmu.ssr2 := by
  have hlatch := Operations.Run.faultLatch hsteps.moves.run hops hfrozen
  simpa [Regs.faultLatch] using hlatch

/-- A machine with a non-resident fault latched, about to run `MOV (R1)+,R0`. -/
def latchedMachine : Machine Memory where
  core := { model := .dcj11, r := fun _ => 0o1000, mmu := { ssr0 := 0o100000, ssr1 := 0o21, ssr2 := 0o500 } }
  bus := .ofWords 0o1000 [0o12100]

def latchedMachineAfter : Machine Memory := ((coreStep (hwstub true) 1 1).run latchedMachine).state

theorem firstFault_kept_movAutoincrement :
    latchedMachineAfter.core.mmu.ssr0 = 0o100000 ∧ latchedMachineAfter.core.mmu.ssr1 = 0o21 ∧
      latchedMachineAfter.core.mmu.ssr2 = 0o500 :=
  have hstep : (coreStep (hwstub true) 1 1).run latchedMachine = .done () latchedMachineAfter := rfl
  firstFault_kept (.step 1 1 (.refl latchedMachine) hstep) (by decide) (by decide)

end K1801.Core
