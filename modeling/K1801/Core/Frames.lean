import K1801.Core.Step

/-! # What an operation leaves alone

Most operations concern the register file, the PSW or the trap state and leave memory
management alone. The model never changes at all.
-/

namespace K1801.Core

open Library

namespace Regs

/-- What relocation and the direct RAM path depend on. -/
def memory (r : Regs) : Model × Mmu × Bool × Nat := (r.model, r.mmu, r.ramFast, r.ramFastSize)

theorem memory_eq_iff {r r' : Regs} :
    r'.memory = r.memory ↔
      r'.model = r.model ∧ r'.mmu = r.mmu ∧ r'.ramFast = r.ramFast ∧
        r'.ramFastSize = r.ramFastSize := by
  simp [memory]

/-- What each of a few dedicated operations writes and nothing else. -/
def control (r : Regs) : Model × Bool × Word := (r.model, r.fAbort, r.pswBefore)

theorem control_eq_iff {r r' : Regs} :
    r'.control = r.control ↔
      r'.model = r.model ∧ r'.fAbort = r.fAbort ∧ r'.pswBefore = r.pswBefore := by
  simp [control]

/-- The fields that the banked registers, the PSW and the timer have nothing to do with. -/
def frame (r : Regs) : (Model × Bool × Word) × (Model × Mmu × Bool × Nat) := (r.control, r.memory)

theorem memory_of_frame {r r' : Regs} (h : r'.frame = r.frame) : r'.memory = r.memory :=
  congrArg Prod.snd h

theorem control_of_frame {r r' : Regs} (h : r'.frame = r.frame) : r'.control = r.control :=
  congrArg Prod.fst h

@[simp] theorem frame_setCc (n z v c : Option Bool) (r : Regs) :
    (r.setCc n z v c).frame = r.frame := by
  unfold setCc
  split <;> rfl

@[simp] theorem frame_dcj11SpModeInit (r : Regs) : r.dcj11SpModeInit.frame = r.frame := by
  unfold dcj11SpModeInit
  split
  · rfl
  · split <;> rfl

@[simp] theorem frame_dcj11SwitchStackMode (o n : Word) (r : Regs) :
    (r.dcj11SwitchStackMode o n).frame = r.frame := by
  unfold dcj11SwitchStackMode
  split
  · rfl
  · dsimp only
    split
    · rfl
    · exact frame_dcj11SpModeInit r

@[simp] theorem frame_dcj11RegsetInit (r : Regs) : r.dcj11RegsetInit.frame = r.frame := by
  unfold dcj11RegsetInit
  split
  · rfl
  · split <;> rfl

@[simp] theorem frame_dcj11SwitchRegset (o n : Word) (r : Regs) :
    (r.dcj11SwitchRegset o n).frame = r.frame := by
  unfold dcj11SwitchRegset
  split
  · rfl
  · dsimp only
    split
    · rfl
    · exact frame_dcj11RegsetInit r

@[simp] theorem frame_dcj11SetPsw (psw : Word) (r : Regs) :
    (r.dcj11SetPsw psw).frame = r.frame := by
  unfold dcj11SetPsw
  dsimp only
  split
  · exact (frame_dcj11SwitchRegset _ _ _).trans (frame_dcj11SwitchStackMode _ _ _)
  · rfl

@[simp] theorem frame_dcj11SetCpuerr (bits : Word) (r : Regs) :
    (r.dcj11SetCpuerr bits).frame = r.frame := by
  unfold dcj11SetCpuerr
  split <;> rfl

@[simp] theorem frame_dcj11NoteStackReference (addr : Word) (r : Regs) :
    (r.dcj11NoteStackReference addr).frame = r.frame := by
  unfold dcj11NoteStackReference
  dsimp only
  repeat' (first | rfl | exact frame_dcj11SetCpuerr cpuerrYel r | split)

@[simp] theorem frame_dcj11ReadModeReg (mode : BitVec 2) (reg : BitVec 3) (r : Regs) :
    (r.dcj11ReadModeReg mode reg).2.frame = r.frame := by
  unfold dcj11ReadModeReg
  split
  · rfl
  · exact frame_dcj11SpModeInit r

@[simp] theorem frame_dcj11WriteModeReg (mode : BitVec 2) (reg : BitVec 3) (v : Word) (r : Regs) :
    (r.dcj11WriteModeReg mode reg v).frame = r.frame := by
  unfold dcj11WriteModeReg
  split
  · rfl
  · dsimp only
    split <;> exact frame_dcj11SpModeInit r

@[simp] theorem frame_csmEnter (oldSp : Word) (r : Regs) : (r.csmEnter oldSp).frame = r.frame := by
  unfold csmEnter
  dsimp only
  split <;> exact (frame_dcj11SetPsw _ _).trans (frame_dcj11SpModeInit r)

@[simp] theorem frame_redStackRestore (pc psw : Word) (r : Regs) :
    (r.redStackRestore pc psw).frame = r.frame := by
  unfold redStackRestore
  exact (frame_dcj11SetCpuerr _ _).trans (frame_dcj11SetPsw _ _)

@[simp] theorem frame_emergencyStack (r : Regs) : r.emergencyStack.frame = r.frame := by
  unfold emergencyStack
  dsimp only
  split <;> exact frame_dcj11SpModeInit r

@[simp] theorem frame_tveCountDown (r : Regs) : r.tveCountDown.frame = r.frame := by
  unfold tveCountDown
  split <;> rfl

@[simp] theorem frame_tveRaise (r : Regs) : r.tveRaise.frame = r.frame := by
  unfold tveRaise
  split
  · rfl
  · split <;> rfl

@[simp] theorem frame_tveReload (r : Regs) : r.tveReload.frame = r.frame := by
  unfold tveReload
  split <;> rfl

@[simp] theorem frame_tveTick (r : Regs) : r.tveTick.frame = r.frame := by
  unfold tveTick
  split
  · rfl
  · split <;> simp

end Regs

/-- The operations that reach relocation state: MMR updates, status bits, and stores into
    the on-chip register block. -/
def Micro.touchesMemory : Micro → Bool
  | fetchBegin _ | noteAccess _ _ | translate _ _ _ _ _ | translateModeSpace _ _ _ _ _
  | regStoreByte _ _ _ | regStoreWord _ _ _ | internalRegWrite _ _ _ | pdrWritten _ _
  | recordDelta _ _ _ | recordFault _ _ _ | resetState _ => true
  | _ => false

/-- The operations that write a field of `Regs.control`. -/
def Micro.setsControl : Micro → Bool
  | setAbort _ | stepBegin => true
  | _ => false

theorem Micro.frame_apply {op : Micro} (h : op.touchesMemory = false) (hc : op.setsControl = false)
    (r : Regs) : (op.apply r).frame = r.frame := by
  cases op with
  | fetchBegin | noteAccess | translate | translateModeSpace | regStoreByte | regStoreWord
  | internalRegWrite | pdrWritten | recordDelta | recordFault | resetState => cases h
  | setAbort | stepBegin => cases hc
  | vectorPush oldPc oldPsw =>
    simp only [apply]
    split <;> rfl
  | setCc | stackReference | setCpuerr | tveTick | enterVector | redStackRestore | emergencyStack
  | dcj11Halt | returnPsw | csmEnter | readPrevModeReg | writePrevModeReg => simp [apply]
  | _ => rfl

theorem Micro.memory_apply {op : Micro} (h : op.touchesMemory = false) (r : Regs) :
    (op.apply r).memory = r.memory := by
  by_cases hc : op.setsControl = false
  · exact Regs.memory_of_frame (frame_apply h hc r)
  · cases op with
    | setAbort | stepBegin => rfl
    | _ => exact absurd rfl hc

/-! ## Stores into the register block -/

theorem frame_dcj11RegBlockStoreWord {r r' : Regs} {offset v : Word}
    (h : dcj11RegBlockStoreWord r offset v = some r') : r'.frame = r.frame := by
  unfold dcj11RegBlockStoreWord at h
  dsimp only at h
  repeat' split at h
  all_goals first
    | cases h; rfl
    | cases h; exact Regs.frame_dcj11SetPsw _ _
    | cases h

theorem frame_dcj11RegBlockStoreByte {r r' : Regs} {offset : Word} {v : Byte}
    (h : dcj11RegBlockStoreByte r offset v = some r') : r'.frame = r.frame := by
  unfold dcj11RegBlockStoreByte at h
  split at h
  · split at h
    · cases h; rfl
    · exact frame_dcj11RegBlockStoreWord h
  · split at h
    · exact frame_dcj11RegBlockStoreWord h
    · obtain ⟨w, _, hw⟩ := Option.bind_eq_some_iff.1 h
      exact frame_dcj11RegBlockStoreWord hw

theorem frame_vm1RegBlockStoreWord {r r' : Regs} {offset v : Word}
    (h : vm1RegBlockStoreWord r offset v = some r') : r'.frame = r.frame := by
  unfold vm1RegBlockStoreWord at h
  repeat' split at h
  all_goals cases h <;> rfl

theorem frame_vm1RegBlockStoreByte {r r' : Regs} {offset : Word} {v : Byte}
    (h : vm1RegBlockStoreByte r offset v = some r') : r'.frame = r.frame := by
  obtain ⟨w, _, hw⟩ := Option.bind_eq_some_iff.1 h
  exact frame_vm1RegBlockStoreWord hw

/-! ## Model, abort flag and the PSW the step began with -/

theorem control_mmuIoWriteWord {b : Build} {r r' : Regs} {a v : Word}
    (h : mmuIoWriteWord b r a v = some r') : r'.control = r.control := by
  unfold mmuIoWriteWord at h
  dsimp only at h
  repeat' split at h
  all_goals first
    | contradiction
    | cases h; rfl

theorem control_mmuIoWriteByte {b : Build} {r r' : Regs} {a : Word} {v : Byte}
    (h : mmuIoWriteByte b r a v = some r') : r'.control = r.control := by
  unfold mmuIoWriteByte at h
  dsimp only at h
  split at h
  · cases h
  · exact control_mmuIoWriteWord h

theorem control_regBlockStoreWord {b : Build} {r r' : Regs} {a v : Word}
    (h : regBlockStoreWord b r a v = some r') : r'.control = r.control := by
  unfold regBlockStoreWord at h
  split at h
  · simp only [Option.orElse_eq_orElse, Option.orElse_eq_or, Option.or_eq_some_iff] at h
    rcases h with h | ⟨_, h⟩
    · exact Regs.control_of_frame (frame_dcj11RegBlockStoreWord h)
    · exact control_mmuIoWriteWord h
  · split at h
    · exact Regs.control_of_frame (frame_vm1RegBlockStoreWord h)
    · cases h

theorem control_regBlockStoreByte {b : Build} {r r' : Regs} {a : Word} {v : Byte}
    (h : regBlockStoreByte b r a v = some r') : r'.control = r.control := by
  unfold regBlockStoreByte at h
  split at h
  · simp only [Option.orElse_eq_orElse, Option.orElse_eq_or, Option.or_eq_some_iff] at h
    rcases h with h | ⟨_, h⟩
    · exact Regs.control_of_frame (frame_dcj11RegBlockStoreByte h)
    · exact control_mmuIoWriteByte h
  · split at h
    · exact Regs.control_of_frame (frame_vm1RegBlockStoreByte h)
    · cases h

namespace Regs

/-- Everything but memory management. -/
def exceptMmu (r : Regs) : Regs := { r with mmu := {} }

theorem control_of_exceptMmu {r r' : Regs} (h : r'.exceptMmu = r.exceptMmu) :
    r'.control = r.control :=
  congrArg (fun r => r.control) h

@[simp] theorem exceptMmu_mmuNoteAccess (apr : Apr) (w : Bool) (r : Regs) :
    (r.mmuNoteAccess apr w).exceptMmu = r.exceptMmu := rfl

@[simp] theorem exceptMmu_mmuNoteWritePdrw (b : Build) (apr : Apr) (r : Regs) :
    (r.mmuNoteWritePdrw b apr).exceptMmu = r.exceptMmu := by
  unfold mmuNoteWritePdrw
  repeat' (first | rfl | split)

@[simp] theorem exceptMmu_mmuNoteInternalRegWrite (b : Build) (va : Word) (fk : Bool) (r : Regs) :
    (r.mmuNoteInternalRegWrite b va fk).exceptMmu = r.exceptMmu := by
  unfold mmuNoteInternalRegWrite
  repeat' (first | rfl | exact exceptMmu_mmuNoteWritePdrw _ _ _ | split)

@[simp] theorem exceptMmu_mmuRelocate (b : Build) (r : Regs) (apr : Apr) (va : Word) (w : Bool) :
    (mmuRelocate b r apr va w).2.exceptMmu = r.exceptMmu := by
  unfold mmuRelocate
  dsimp only
  repeat' (first | rfl | exact exceptMmu_mmuNoteWritePdrw _ _ _ | split)

@[simp] theorem exceptMmu_translateVaEx (b : Build) (r : Regs) (va : Word) (w i k : Bool) :
    (translateVaEx b r va w i k).2.exceptMmu = r.exceptMmu := by
  unfold translateVaEx
  dsimp only
  repeat' (first | rfl | exact exceptMmu_mmuNoteWritePdrw _ _ _ | exact exceptMmu_mmuRelocate _ _ _ _ _
                 | split)

@[simp] theorem exceptMmu_translateVaModeSpace (b : Build) (r : Regs) (va : Word) (w : Bool)
    (mode : BitVec 2) (ds : Bool) :
    (translateVaModeSpace b r va w mode ds).2.exceptMmu = r.exceptMmu := by
  unfold translateVaModeSpace
  split
  · rfl
  · exact exceptMmu_mmuRelocate _ _ _ _ _

@[simp] theorem exceptMmu_mmuMmr1InstructionStart (b : Build) (r : Regs) :
    (r.mmuMmr1InstructionStart b).exceptMmu = r.exceptMmu := by
  unfold mmuMmr1InstructionStart
  repeat' (first | rfl | split)

@[simp] theorem exceptMmu_mmuMmr1RecordDelta (b : Build) (reg : BitVec 3) (d : Word) (r : Regs) :
    (r.mmuMmr1RecordDelta b reg d).exceptMmu = r.exceptMmu := by
  unfold mmuMmr1RecordDelta
  repeat' (first | rfl | split)

@[simp] theorem exceptMmu_mmuRecordFault (b : Build) (f : MmuFault) (apr : Apr) (r : Regs) :
    (r.mmuRecordFault b f apr).exceptMmu = r.exceptMmu := by
  unfold mmuRecordFault
  repeat' (first | rfl | split)

theorem model_of_frame {r r' : Regs} (h : r'.frame = r.frame) : r'.model = r.model :=
  (control_eq_iff.1 (control_of_frame h)).1

end Regs

theorem Micro.control_apply {op : Micro} (hc : op.setsControl = false) (r : Regs) :
    (op.apply r).control = r.control := by
  by_cases ht : op.touchesMemory = false
  · exact Regs.control_of_frame (frame_apply ht hc r)
  cases op with
  | fetchBegin b =>
    have hstart := Regs.control_of_exceptMmu
      (Regs.exceptMmu_mmuMmr1InstructionStart b { r with instrPc := r.r 7 })
    exact hstart
  | recordDelta | recordFault | noteAccess | translate | translateModeSpace | internalRegWrite =>
    exact Regs.control_of_exceptMmu (by simp [apply])
  | pdrWritten b apr =>
    simp only [apply]
    split
    · exact Regs.control_of_exceptMmu (Regs.exceptMmu_mmuNoteWritePdrw b apr r)
    · rfl
  | regStoreByte b a v =>
    cases h : regBlockStoreByte b r a v with
    | none => simp [apply, h]
    | some r' => simpa [apply, h] using control_regBlockStoreByte h
  | regStoreWord b a v =>
    cases h : regBlockStoreWord b r a v with
    | none => simp [apply, h]
    | some r' => simpa [apply, h] using control_regBlockStoreWord h
  | resetState b =>
    simp only [apply, Regs.dcj11ResetInstructionState]
    repeat' (first | rfl | split)
  | _ => exact absurd rfl ht

/-- No operation changes the model. -/
theorem Micro.model_apply (op : Micro) (r : Regs) : (op.apply r).model = r.model := by
  by_cases hc : op.setsControl = false
  · exact (Regs.control_eq_iff.1 (control_apply hc r)).1
  · cases op with
    | setAbort | stepBegin => rfl
    | _ => exact absurd rfl hc

/-- Only `setAbort` changes the abort flag. -/
theorem Micro.fAbort_apply {op : Micro} (hop : ∀ v, op ≠ setAbort v) (r : Regs) :
    (op.apply r).fAbort = r.fAbort := by
  by_cases hc : op.setsControl = false
  · exact (Regs.control_eq_iff.1 (control_apply hc r)).2.1
  · cases op with
    | setAbort v => exact absurd rfl (hop v)
    | stepBegin => rfl
    | _ => exact absurd rfl hc

/-- Only the beginning of a step changes the saved PSW. -/
theorem Micro.pswBefore_apply {op : Micro} (hop : op ≠ stepBegin) (r : Regs) :
    (op.apply r).pswBefore = r.pswBefore := by
  by_cases hc : op.setsControl = false
  · exact (Regs.control_eq_iff.1 (control_apply hc r)).2.2
  · cases op with
    | setAbort v => rfl
    | stepBegin => exact absurd rfl hop
    | _ => exact absurd rfl hc

/-! ## The register file -/

namespace Regs

/-- The general registers, the PSW and the side arrays of banked registers. -/
def file (r : Regs) : ((BitVec 3 → Word) × Word) × ((Bool → BitVec 3 → Word) × Bool) ×
    ((BitVec 2 → Word) × Bool) :=
  ((r.r, r.psw), (r.rsetBank, r.rsetBankInit), (r.spMode, r.spModeInit))

theorem file_eq_iff {r r' : Regs} :
    r'.file = r.file ↔ r'.r = r.r ∧ r'.psw = r.psw ∧ r'.rsetBank = r.rsetBank ∧
      r'.rsetBankInit = r.rsetBankInit ∧ r'.spMode = r.spMode ∧ r'.spModeInit = r.spModeInit := by
  simp [file, and_assoc]

theorem file_of_exceptMmu {r r' : Regs} (h : r'.exceptMmu = r.exceptMmu) : r'.file = r.file :=
  congrArg (fun r => r.file) h

@[simp] theorem file_dcj11SetCpuerr (bits : Word) (r : Regs) :
    (r.dcj11SetCpuerr bits).file = r.file := by
  unfold dcj11SetCpuerr
  split <;> rfl

@[simp] theorem file_dcj11NoteStackReference (addr : Word) (r : Regs) :
    (r.dcj11NoteStackReference addr).file = r.file := by
  unfold dcj11NoteStackReference
  dsimp only
  repeat' (first | rfl | exact file_dcj11SetCpuerr cpuerrYel r | split)

@[simp] theorem file_tveCountDown (r : Regs) : r.tveCountDown.file = r.file := by
  unfold tveCountDown
  split <;> rfl

@[simp] theorem file_tveRaise (r : Regs) : r.tveRaise.file = r.file := by
  unfold tveRaise
  split
  · rfl
  · split <;> rfl

@[simp] theorem file_tveReload (r : Regs) : r.tveReload.file = r.file := by
  unfold tveReload
  split <;> rfl

@[simp] theorem file_tveTick (r : Regs) : r.tveTick.file = r.file := by
  unfold tveTick
  split
  · rfl
  · split <;> simp

end Regs

/-- The operations that reach the register file. -/
def Micro.touchesFile : Micro → Bool
  | setR _ _ | setCc _ _ _ _ | regStoreByte _ _ _ | regStoreWord _ _ _ | enterVector _ _ _
  | redStackRestore _ _ | emergencyStack | haltPsw _ | dcj11Halt | fisPsw _ | fisErrorPsw _
  | returnPsw _ | mtps _ | spl _ | csmEnter _ | readPrevModeReg _ | writePrevModeReg _ _ | loadCopies
  | clearH | restorePsw _ => true
  | _ => false

theorem Micro.file_apply {op : Micro} (h : op.touchesFile = false) (r : Regs) :
    (op.apply r).file = r.file := by
  cases op with
  | fetchBegin b =>
    have hstart := Regs.file_of_exceptMmu
      (Regs.exceptMmu_mmuMmr1InstructionStart b { r with instrPc := r.r 7 })
    exact hstart
  | recordDelta | recordFault | noteAccess | translate | translateModeSpace | internalRegWrite =>
    exact Regs.file_of_exceptMmu (by simp [apply])
  | pdrWritten b apr =>
    simp only [apply]
    split
    · exact Regs.file_of_exceptMmu (Regs.exceptMmu_mmuNoteWritePdrw b apr r)
    · rfl
  | resetState b =>
    simp only [apply, Regs.dcj11ResetInstructionState]
    repeat' (first | rfl | split)
  | vectorPush =>
    simp only [apply]
    split <;> rfl
  | setCpuerr | stackReference | tveTick => simp [apply]
  | setR | setCc | regStoreByte | regStoreWord | enterVector | redStackRestore | emergencyStack | haltPsw
  | dcj11Halt | fisPsw | fisErrorPsw | returnPsw | mtps | spl | csmEnter | readPrevModeReg
  | writePrevModeReg | loadCopies | clearH | restorePsw => cases h
  | _ => rfl

/-! ## Reset -/

/-- A program keeps the model. -/
theorem Program.model_run {β α : Type} (m : M β α) (s : Machine β) :
    (m.run s).state.core.model = s.core.model :=
  m.invariant (P := fun r => r.model = s.core.model)
    (fun op r _ hr => (Micro.model_apply op r).trans hr) s rfl

theorem model_coreReset {β : Type} {h : Host β} {n : Nat} {m m' : Machine β}
    (hr : coreReset h n m = .done () m') : m'.core.model = m.core.model := by
  have hclear : (m.core.coreReset h.build).model = m.core.model := by
    unfold Regs.coreReset
    dsimp only
    split <;> rfl
  unfold coreReset at hr
  dsimp only at hr
  split at hr
  · generalize hload : Program.run _ _ = o at hr
    have hmodel := congrArg (fun o => o.state.core.model) hload
    rw [Program.model_run] at hmodel
    cases o with
    | done v s =>
      cases hr
      exact hmodel.symm.trans hclear
    | exit | stuck => cases hr
  · cases hr
    exact hclear

/-- What reset leaves of a J-11. -/
theorem coreReset_dcj11 {β : Type} {h : Host β} {n : Nat} {m m' : Machine β}
    (hr : coreReset h n m = .done () m') (hmodel : m'.core.model = .dcj11) :
    ∃ maint hitmiss sel0 ram, m'.core = Regs.coreStart 0 ram
      { m.core.coreReset h.build with j11Maint := maint, j11Hitmiss := hitmiss, sel0 := sel0 } := by
  have hclear : (m.core.coreReset h.build).model = .dcj11 := by
    rw [← hmodel, model_coreReset hr]
    unfold Regs.coreReset
    dsimp only
    split <;> rfl
  unfold coreReset at hr
  dsimp only at hr
  split at hr
  · rename_i hvm1
    rw [hclear] at hvm1
    cases hvm1
  · have hvm2 : ¬ (m.core.coreReset h.build).model.isVm2 = true := by
      rw [hclear]
      decide
    rw [if_neg hvm2] at hr
    cases hr
    exact ⟨_, _, _, _, rfl⟩

end K1801.Core
