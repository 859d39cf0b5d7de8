import K1801.Library.Calls
import K1801.Core.TrapEntry

/-! # Refused accesses

A memory access that is refused enters a trap and does nothing after it. So an access either answers,
whatever the traps are, or comes to a trap in a state in which nothing but the status of the MMU and the
CPU error register has changed.
-/

namespace K1801.Core

open Library

variable {β α γ : Type}

inductive Trap where
  | bus
  | mmu (va pc : Word) (fault : MmuFault) (apr : Apr)

def Trap.enter (e : Env β) : Trap → M β Unit
  | bus => e.busErrorTrap
  | mmu va pc fault apr => e.mmuFaultTrap va pc fault apr

namespace Env

/-- The core with these routines behind its traps. -/
def answering (h : Host β) (traps : Trap → M β Unit) : Env β where
  host := h
  busErrorTrap := traps .bus
  mmuFaultTrap va pc fault apr := traps (.mmu va pc fault apr)

theorem nested_answering (h : Host β) (n : Nat) : nested h n = answering h fun t => t.enter (nested h n) := by
  cases n <;> rfl

@[simp] theorem answering_host (h : Host β) (traps : Trap → M β Unit) : (answering h traps).host = h := rfl

end Env

instance : Inhabited Stuck := ⟨.nesting⟩

/-- A routine of the core over what its traps do. -/
abbrev Routine (β α : Type) := (Trap → M β Unit) → M β α

/-- What accesses change on the way: the status bits of the pages and the causes of CPU errors. -/
def Regs.sansStatus (r : Regs) : Regs :=
  { r with j11Cpuerr := 0, dcj11YellowPending := false, mmu.pdr := fun _ => 0 }

/-- The access is refused, with the core at `s` but for its status, and only its value is left to answer. -/
def Refuses (s : Regs) (_ : Trap) (m₀ : Machine β) (tail : Routine β α) : Prop :=
  m₀.core.sansStatus = s ∧ ∃ a, tail = fun _ => pure a

/-- The access answers or is refused, and either way leaves the core at `s` but for its status. -/
abbrev Loads (s : Regs) (F : Routine β α) (m : Machine β) : Prop :=
  Program.Settles F m (fun _ m' => m'.core.sansStatus = s) (Refuses s)

/-- The access answers without an abort, or is refused with the core at `s` but for its status. -/
abbrev Stores (s : Regs) (F : Routine β α) (m : Machine β) : Prop :=
  Program.Settles F m (fun _ m' => m'.core.fAbort = s.fAbort) (Refuses s)

section Status

variable {r : Regs}

@[simp] theorem sansStatus_mmuNoteAccess (apr : Apr) (w : Bool) :
    (r.mmuNoteAccess apr w).sansStatus = r.sansStatus := rfl

@[simp] theorem sansStatus_mmuNoteWritePdrw (b : Build) (apr : Apr) :
    (r.mmuNoteWritePdrw b apr).sansStatus = r.sansStatus := by
  unfold Regs.mmuNoteWritePdrw
  repeat' (first | rfl | split)

@[simp] theorem sansStatus_mmuRelocate (b : Build) (apr : Apr) (va : Word) (w : Bool) :
    (mmuRelocate b r apr va w).2.sansStatus = r.sansStatus := by
  unfold mmuRelocate
  dsimp only
  repeat' (first | rfl | exact sansStatus_mmuNoteWritePdrw _ _ | split)

@[simp] theorem sansStatus_translateVaEx (b : Build) (va : Word) (w i k : Bool) :
    (translateVaEx b r va w i k).2.sansStatus = r.sansStatus := by
  unfold translateVaEx
  dsimp only
  repeat' (first | rfl | exact sansStatus_mmuNoteWritePdrw _ _ | exact sansStatus_mmuRelocate _ _ _ _ | split)

@[simp] theorem sansStatus_translateVaModeSpace (b : Build) (va : Word) (w : Bool) (mode : BitVec 2) (ds : Bool) :
    (translateVaModeSpace b r va w mode ds).2.sansStatus = r.sansStatus := by
  unfold translateVaModeSpace
  split
  · rfl
  · exact sansStatus_mmuRelocate _ _ _ _

@[simp] theorem sansStatus_setCpuerr (bits : Word) : (r.dcj11SetCpuerr bits).sansStatus = r.sansStatus := by
  unfold Regs.dcj11SetCpuerr
  split <;> rfl

@[simp] theorem sansStatus_stackReference (addr : Word) :
    (r.dcj11NoteStackReference addr).sansStatus = r.sansStatus := by
  unfold Regs.dcj11NoteStackReference
  dsimp only
  repeat' (first | rfl | exact sansStatus_setCpuerr _ | split)

end Status

section Access

variable {h : Host β} {s : Regs} {m : Machine β} {ret : α → Machine β → Prop}

theorem trap_settles (t : Trap) {ret : Unit → Machine β → Prop} (hm : m.core.sansStatus = s) :
    Program.Settles (fun traps : Trap → M β Unit => traps t) m ret (Refuses s) :=
  .calls ⟨hm, (), rfl⟩

/-- A routine that only has its value to answer after its trap, and then a value made from it. -/
theorem Settles.value {F : Routine β γ} (g : γ → α)
    (hF : Program.Settles F m (fun a m₁ => ret (g a) m₁) (Refuses s)) :
    Program.Settles (fun traps => do let a ← F traps; pure (g a)) m ret (Refuses s) := by
  refine hF.bind (fun a m₁ ha => .pure _ ha) ?_
  rintro t m₀ tail ⟨hm₀, a, rfl⟩
  exact ⟨hm₀, g a, rfl⟩

/-- A status operation, before the rest. -/
theorem Settles.status {op : Micro} {F : Routine β α} (hop : op.enabled m.core = true)
    (hkeep : (op.apply m.core).sansStatus = m.core.sansStatus) (hm : m.core.sansStatus = s)
    (hF : ∀ m' : Machine β, m'.core.sansStatus = s → Program.Settles F m' ret (Refuses s)) :
    Program.Settles (fun traps => do perform op; F traps) m ret (Refuses s) :=
  .step (run_perform_enabled hop) (hF (Machine.after m op) (hkeep.trans hm))

theorem addressError_settles {ret : Unit → Machine β → Prop} (hm : m.core.sansStatus = s) :
    Program.Settles (fun traps => (Env.answering h traps).addressError) m ret (Refuses s) :=
  Settles.status rfl (sansStatus_setCpuerr _) hm fun _ hset => trap_settles .bus hset

theorem addressError_value (a : α) (hm : m.core.sansStatus = s) :
    Program.Settles (fun traps => do (Env.answering h traps).addressError; pure a) m ret (Refuses s) :=
  Settles.value (fun _ => a) (addressError_settles hm)

theorem nxmTrap_settles (bits : Word) (a : α) (hm : m.core.sansStatus = s) :
    Program.Settles (fun traps => do (Env.answering h traps).nxmTrap bits; pure a) m ret (Refuses s) :=
  Settles.value (fun _ => a) (Settles.status rfl (sansStatus_setCpuerr _) hm fun _ hset => trap_settles .bus hset)

theorem callback_settles (f : Regs → β → Reply β α) (hm : m.core.sansStatus = s) :
    Loads s (fun traps => (Env.answering h traps).callback f) m := by
  unfold Env.callback
  refine .step (Program.run_onBus _ _) ?_
  dsimp only
  cases (f m.core m.bus).nxm with
  | none => exact .pure _ hm
  | some bits => exact nxmTrap_settles bits _ hm

theorem rawLoadBytePhys_settles (pa : Dword) (hm : m.core.sansStatus = s) :
    Loads s (fun traps => (Env.answering h traps).rawLoadBytePhys pa) m := by
  unfold Env.rawLoadBytePhys Env.rawLoadByte
  refine .step (Program.run_read _ _) ?_
  simp only [Env.physRegLoadByte, Env.answering_host]
  split
  · exact .pure _ hm
  · refine .ite (fun _ => callback_settles _ hm) fun _ => ?_
    split
    · exact callback_settles _ hm
    · exact callback_settles _ hm

theorem rawLoadWordPhys_settles (pa : Dword) (hm : m.core.sansStatus = s) :
    Loads s (fun traps => (Env.answering h traps).rawLoadWordPhys pa) m := by
  unfold Env.rawLoadWordPhys Env.rawLoadWord
  refine .step (Program.run_read _ _) ?_
  simp only [Env.physRegLoadWord, Env.answering_host]
  split
  · exact .pure _ hm
  · refine .ite (fun _ => callback_settles _ hm) fun _ => ?_
    split
    · exact callback_settles _ hm
    · exact callback_settles _ hm

theorem fAbort_of_sansStatus {r : Regs} (hr : r.sansStatus = s) : r.fAbort = s.fAbort := by
  rw [← hr]
  rfl

theorem fAbort_after {op : Micro} (hop : ∀ v, op ≠ .setAbort v) (hm : m.core.fAbort = s.fAbort) :
    (Machine.after m op).core.fAbort = s.fAbort :=
  (Micro.fAbort_apply hop _).trans hm

theorem Loads.stores {F : Routine β α} (hF : Loads s F m) : Stores s F m :=
  hF.mono (fun _ _ => fAbort_of_sansStatus) fun _ _ _ => id

theorem rawStoreBytePhys_settles (pa : Dword) (v : Byte) (hm : m.core.sansStatus = s) :
    Stores s (fun traps => (Env.answering h traps).rawStoreBytePhys pa v) m := by
  unfold Env.rawStoreBytePhys Env.rawStoreByte
  refine .step (Program.run_read _ _) ?_
  simp only [Env.physRegStoreByte, Env.answering_host]
  split
  · exact .returns (fun _ => run_perform_enabled rfl) (fAbort_after nofun (fAbort_of_sansStatus hm))
  · refine .ite (fun _ => (callback_settles _ hm).stores) fun _ => ?_
    split
    · exact (callback_settles _ hm).stores
    · exact (callback_settles _ hm).stores

theorem rawStoreWordPhys_settles (pa : Dword) (v : Word) (hm : m.core.sansStatus = s) :
    Stores s (fun traps => (Env.answering h traps).rawStoreWordPhys pa v) m := by
  unfold Env.rawStoreWordPhys Env.rawStoreWord
  refine .step (Program.run_read _ _) ?_
  simp only [Env.physRegStoreWord, Env.answering_host]
  split
  · exact .returns (fun _ => run_perform_enabled rfl) (fAbort_after nofun (fAbort_of_sansStatus hm))
  · refine .ite (fun _ => (callback_settles _ hm).stores) fun _ => ?_
    split
    · exact (callback_settles _ hm).stores
    · exact (callback_settles _ hm).stores

theorem translated_settles {va : Word} {apr : Regs → Apr} {tr : Regs → Except MmuFault Dword × Regs} {status : Micro}
    {refused : α} {k : (Trap → M β Unit) → Dword → M β α} (hop : status.enabled m.core = true)
    (hkeep : (status.apply m.core).sansStatus = m.core.sansStatus) (hm : m.core.sansStatus = s)
    (hk : ∀ (m' : Machine β) pa, m'.core.sansStatus = s → Program.Settles (fun traps => k traps pa) m' ret (Refuses s)) :
    Program.Settles (fun traps => (Env.answering h traps).translated va apr tr status refused (k traps)) m ret
      (Refuses s) := by
  unfold Env.translated
  refine .step (Program.run_read _ _) (Settles.status hop hkeep hm fun m' hm' => ?_)
  split
  · exact hk m' _ hm'
  · exact Settles.value (fun _ => refused) (.step (Program.run_read _ _) (trap_settles (.mmu _ _ _ _) hm'))

theorem ramByte_settles (i : Nat) (hm : m.core.sansStatus = s) :
    Program.Settles (fun traps => (Env.answering h traps).ramByte i) m (fun _ m' => m'.core.sansStatus = s)
      fun _ _ _ => False :=
  .returns (a := h.ram m.bus i) (fun _ => rfl) hm

theorem ramByte_loads (i : Nat) (hm : m.core.sansStatus = s) :
    Loads s (fun traps => (Env.answering h traps).ramByte i) m :=
  (ramByte_settles i hm).mono (fun _ _ => id) fun _ _ _ => False.elim

theorem ramWord_loads (i : Nat) (hm : m.core.sansStatus = s) :
    Loads s (fun traps => (Env.answering h traps).ramWord i) m := by
  unfold Env.ramWord
  refine (ramByte_settles i hm).bind (fun lo m₁ h₁ => ?_) fun _ _ _ => False.elim
  refine (ramByte_settles (i + 1) h₁).bind (fun hi m₂ h₂ => ?_) fun _ _ _ => False.elim
  exact .pure _ h₂

theorem setRamByte_settles (i : Nat) (v : Byte) (hm : m.core.sansStatus = s) :
    Program.Settles (fun traps => (Env.answering h traps).setRamByte i v) m (fun _ m' => m'.core.sansStatus = s)
      fun _ _ _ => False :=
  .inl ⟨(), { m with bus := h.setRam m.bus i v }, fun _ => rfl, hm⟩

theorem setRamByte_stores (i : Nat) (v : Byte) (hm : m.core.sansStatus = s) :
    Stores s (fun traps => (Env.answering h traps).setRamByte i v) m :=
  (setRamByte_settles i v hm).mono (fun _ _ => fAbort_of_sansStatus) fun _ _ _ => False.elim

theorem setRamWord_stores (i : Nat) (v : Word) (hm : m.core.sansStatus = s) :
    Stores s (fun traps => (Env.answering h traps).setRamWord i v) m := by
  unfold Env.setRamWord
  exact (setRamByte_settles i _ hm).bind (fun _ _ h₁ => setRamByte_stores (i + 1) _ h₁) fun _ _ _ => False.elim

/-- What depends on the host alone is the same whatever the traps are. -/
theorem host_only {κ : Type} (f : Env β → κ) (hf : ∀ traps, f (Env.answering h traps) = f (Env.nested h 0)) :
    ∃ o, ∀ traps, f (Env.answering h traps) = o := ⟨_, hf⟩

theorem coreLoadWordEx_settles (offset : Word) (isIfetch fk : Bool) (hm : m.core.sansStatus = s) :
    Loads s (fun traps => (Env.answering h traps).coreLoadWordEx offset isIfetch fk) m := by
  obtain ⟨direct, hdirect⟩ := host_only (h := h) (·.directRam m.core offset 2) fun _ => rfl
  obtain ⟨ptr, hptr⟩ :=
    host_only (h := h) (·.tlbPtr m.core (currentApr m.core offset false false) offset 2 false) fun _ => rfl
  obtain ⟨reg, hreg⟩ := host_only (h := h) (·.vaRegLoadWord m.core offset) fun _ => rfl
  unfold Env.coreLoadWordEx
  refine .step (Program.run_read _ _) ?_
  simp only [hdirect, hptr, hreg, Env.answering_host]
  split
  · exact addressError_value 0 hm
  split
  · exact ramWord_loads _ hm
  split
  · exact Settles.status rfl rfl hm fun _ hnoted => ramWord_loads _ hnoted
  split
  · split
    · exact addressError_value 0 hm
    · exact .pure _ hm
  · refine translated_settles ?_ ?_ hm fun m' pa hm' => ?_
    · rfl
    · exact sansStatus_translateVaEx _ _ _ _ _
    unfold Env.loadWordAt
    refine .step (Program.run_read _ _) ?_
    simp only [Env.answering_host]
    split
    · exact .ite (fun _ => addressError_value 0 hm') fun _ => rawLoadWordPhys_settles pa hm'
    · exact rawLoadWordPhys_settles pa hm'

theorem coreLoadByteEx_settles (offset : Word) (isIfetch fk : Bool) (hm : m.core.sansStatus = s) :
    Loads s (fun traps => (Env.answering h traps).coreLoadByteEx offset isIfetch fk) m := by
  obtain ⟨direct, hdirect⟩ := host_only (h := h) (·.directRam m.core offset 1) fun _ => rfl
  obtain ⟨ptr, hptr⟩ :=
    host_only (h := h) (·.tlbPtr m.core (currentApr m.core offset false false) offset 1 false) fun _ => rfl
  obtain ⟨reg, hreg⟩ := host_only (h := h) (·.vaRegLoadByte m.core offset) fun _ => rfl
  unfold Env.coreLoadByteEx
  refine .step (Program.run_read _ _) ?_
  simp only [hdirect, hptr, hreg, Env.answering_host]
  split
  · exact ramByte_loads _ hm
  split
  · exact Settles.status rfl rfl hm fun _ hnoted => ramByte_loads _ hnoted
  split
  · exact .pure _ hm
  · refine translated_settles ?_ ?_ hm fun _ _ hm' => rawLoadBytePhys_settles _ hm'
    · rfl
    · exact sansStatus_translateVaEx _ _ _ _ _

theorem coreStoreWordEx_settles (offset v : Word) (fk : Bool) (hm : m.core.sansStatus = s) :
    Stores s (fun traps => (Env.answering h traps).coreStoreWordEx offset v fk) m := by
  obtain ⟨direct, hdirect⟩ := host_only (h := h) (·.directRam m.core offset 2) fun _ => rfl
  obtain ⟨ptr, hptr⟩ :=
    host_only (h := h) (·.tlbPtr m.core (currentApr m.core offset false false) offset 2 true) fun _ => rfl
  obtain ⟨reg, hreg⟩ := host_only (h := h) (·.vaRegStoreWord m.core offset v) fun _ => rfl
  unfold Env.coreStoreWordEx
  refine .step (Program.run_read _ _) ?_
  simp only [hdirect, hptr, hreg, Env.answering_host]
  split
  · exact addressError_settles hm
  split
  · exact setRamWord_stores _ _ hm
  split
  · exact Settles.status rfl rfl hm fun _ hnoted => setRamWord_stores _ _ hnoted
  split
  · refine .step (run_perform_enabled rfl) (.returns (fun _ => run_perform_enabled rfl) ?_)
    refine fAbort_after ?_ (fAbort_after ?_ (fAbort_of_sansStatus hm))
    · nofun
    · nofun
  · refine translated_settles ?_ ?_ hm fun m' pa hm' => rawStoreWordPhys_settles pa v hm'
    · rfl
    · exact sansStatus_translateVaEx _ _ _ _ _

theorem coreStoreByteEx_settles (offset : Word) (v : Byte) (fk : Bool) (hm : m.core.sansStatus = s) :
    Stores s (fun traps => (Env.answering h traps).coreStoreByteEx offset v fk) m := by
  obtain ⟨direct, hdirect⟩ := host_only (h := h) (·.directRam m.core offset 1) fun _ => rfl
  obtain ⟨ptr, hptr⟩ :=
    host_only (h := h) (·.tlbPtr m.core (currentApr m.core offset false false) offset 1 true) fun _ => rfl
  obtain ⟨reg, hreg⟩ := host_only (h := h) (·.vaRegStoreByte m.core offset v) fun _ => rfl
  unfold Env.coreStoreByteEx
  refine .step (Program.run_read _ _) ?_
  simp only [hdirect, hptr, hreg, Env.answering_host]
  split
  · exact setRamByte_stores _ _ hm
  split
  · exact Settles.status rfl rfl hm fun _ hnoted => setRamByte_stores _ _ hnoted
  split
  · refine .step (run_perform_enabled rfl) (.returns (fun _ => run_perform_enabled rfl) ?_)
    refine fAbort_after ?_ (fAbort_after ?_ (fAbort_of_sansStatus hm))
    · nofun
    · nofun
  · refine translated_settles ?_ ?_ hm fun m' pa hm' => rawStoreBytePhys_settles pa v hm'
    · rfl
    · exact sansStatus_translateVaEx _ _ _ _ _

theorem coreLoadWordModeSpace_settles (offset : Word) (mode : BitVec 2) (ds : Bool) (hm : m.core.sansStatus = s) :
    Loads s (fun traps => (Env.answering h traps).coreLoadWordModeSpace offset mode ds) m := by
  obtain ⟨ptr, hptr⟩ :=
    host_only (h := h) (·.tlbPtr m.core (modeSpaceApr m.core offset mode ds) offset 2 false) fun _ => rfl
  obtain ⟨reg, hreg⟩ := host_only (h := h) (·.vaRegLoadWord m.core offset) fun _ => rfl
  unfold Env.coreLoadWordModeSpace
  refine .step (Program.run_read _ _) ?_
  simp only [hptr, hreg, Env.answering_host]
  split
  · exact addressError_value 0 hm
  split
  · exact Settles.status rfl rfl hm fun _ hnoted => ramWord_loads _ hnoted
  split
  · exact .pure _ hm
  · refine translated_settles ?_ ?_ hm fun m' pa hm' => rawLoadWordPhys_settles pa hm'
    · rfl
    · exact sansStatus_translateVaModeSpace _ _ _ _ _

theorem coreStoreWordModeSpace_settles (offset v : Word) (mode : BitVec 2) (ds : Bool)
    (hm : m.core.sansStatus = s) :
    Stores s (fun traps => (Env.answering h traps).coreStoreWordModeSpace offset v mode ds) m := by
  obtain ⟨ptr, hptr⟩ :=
    host_only (h := h) (·.tlbPtr m.core (modeSpaceApr m.core offset mode ds) offset 2 true) fun _ => rfl
  obtain ⟨reg, hreg⟩ := host_only (h := h) (·.vaRegStoreWord m.core offset v) fun _ => rfl
  unfold Env.coreStoreWordModeSpace
  refine .step (Program.run_read _ _) ?_
  simp only [hptr, hreg, Env.answering_host]
  split
  · exact addressError_settles hm
  split
  · exact Settles.status rfl rfl hm fun _ hnoted => setRamWord_stores _ _ hnoted
  split
  · refine .step (run_perform_enabled rfl) (.returns (fun _ => run_perform_enabled rfl) ?_)
    refine fAbort_after ?_ (fAbort_after ?_ (fAbort_of_sansStatus hm))
    · nofun
    · nofun
  · refine translated_settles ?_ ?_ hm fun m' pa hm' => rawStoreWordPhys_settles pa v hm'
    · rfl
    · exact sansStatus_translateVaModeSpace _ _ _ _ _

end Access

end K1801.Core
