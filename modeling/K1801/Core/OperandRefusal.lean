import K1801.Core.Dispatch
import K1801.Core.Refusal

/-! # Refused operands

Decoding an operand steps its register, or the PC past an index word, and enters the step in MMR1. An
access on the way is refused before or after that step, never between its two halves.
-/

namespace K1801.Core

open Library

variable {β α γ : Type}

/-- A register step with its entry in MMR1. -/
def Regs.stepReg (b : Build) (reg : BitVec 3) (d : Word) (r : Regs) : Regs :=
  { r with r := Function.update r.r reg (r.r reg + d) }.mmuMmr1RecordDelta b reg d

/-- The core after an operand is decoded. -/
def operandEffect (b : Build) (data : Word) (t : DataType) (r : Regs) : Regs :=
  let reg : BitVec 3 := data.setWidth 3
  let mode : BitVec 3 := (data >>> 3).setWidth 3
  let step := operandStep reg mode t
  match mode with
  | 0 | 1 => r
  | 2 | 3 => r.stepReg b reg step
  | 4 | 5 => r.stepReg b reg (-step)
  | 6 | 7 => r.stepReg b 7 2

/-- MMR1 after a step is recorded. -/
def mmr1After (b : Build) (reg : BitVec 3) (d : Word) (model : Model) (ssr0 ssr1 : Word) : Word :=
  let entry := ((d &&& 0o37) <<< 3) ||| reg.setWidth 16
  if !b.enableMmu then ssr1
  else if model ≠ .dcj11 then ssr1
  else if ssr0 &&& mmuSsr0Freeze ≠ 0 then ssr1
  else if ssr1 &&& 0o377 = 0 then entry
  else if ssr1 &&& 0o177400 = 0 then ssr1 ||| (entry <<< 8)
  else ssr1

theorem mmuMmr1RecordDelta_eq (b : Build) (reg : BitVec 3) (d : Word) (r : Regs) :
    r.mmuMmr1RecordDelta b reg d =
      { r with mmu.ssr1 := mmr1After b reg d r.model r.mmu.ssr0 r.mmu.ssr1 } := by
  unfold Regs.mmuMmr1RecordDelta mmr1After
  dsimp only
  by_cases hmmu : (!b.enableMmu) = true
  · rw [if_pos hmmu, if_pos hmmu]
  by_cases hmodel : r.model ≠ .dcj11
  · rw [if_neg hmmu, if_neg hmmu, if_pos hmodel, if_pos hmodel]
  by_cases hfrozen : r.mmu.ssr0 &&& mmuSsr0Freeze ≠ 0
  · rw [if_neg hmmu, if_neg hmmu, if_neg hmodel, if_neg hmodel, if_pos hfrozen, if_pos hfrozen]
  rw [if_neg hmmu, if_neg hmmu, if_neg hmodel, if_neg hmodel, if_neg hfrozen, if_neg hfrozen]
  by_cases hfirst : r.mmu.ssr1 &&& 0o377 = 0
  · rw [if_pos hfirst, if_pos hfirst]
  rw [if_neg hfirst, if_neg hfirst]
  by_cases hsecond : r.mmu.ssr1 &&& 0o177400 = 0
  · rw [if_pos hsecond, if_pos hsecond]
  · rw [if_neg hsecond, if_neg hsecond]

theorem stepReg_eq (b : Build) (reg : BitVec 3) (d : Word) (r : Regs) :
    r.stepReg b reg d = { r with
      r := Function.update r.r reg (r.r reg + d)
      mmu.ssr1 := mmr1After b reg d r.model r.mmu.ssr0 r.mmu.ssr1 } :=
  mmuMmr1RecordDelta_eq b reg d _

theorem sansStatus_stepReg (b : Build) (reg : BitVec 3) (d : Word) (r : Regs) :
    (r.stepReg b reg d).sansStatus = r.sansStatus.stepReg b reg d := by
  rw [stepReg_eq, stepReg_eq]
  rfl

theorem fAbort_stepReg (b : Build) (reg : BitVec 3) (d : Word) (r : Regs) :
    (r.stepReg b reg d).fAbort = r.fAbort := by
  rw [stepReg_eq]

theorem fAbort_operandEffect (b : Build) (data : Word) (t : DataType) (r : Regs) :
    (operandEffect b data t r).fAbort = r.fAbort := by
  unfold operandEffect
  dsimp only
  split <;> first | rfl | exact fAbort_stepReg _ _ _ _

/-! ## Decoding -/

/-- After its trap the decoder finds the abort and answers that there is no operand. -/
def Misses {δ : Type} (tail : Routine β (Option δ)) : Prop :=
  ∀ traps (m : Machine β), m.core.fAbort = true → (tail traps).run m = .done none m

/-- After its trap the routine finds the abort and leaves the step. -/
def Quits (tail : Routine β α) : Prop :=
  ∀ traps (m : Machine β), m.core.fAbort = true → (tail traps).run m = .exit m

section Decode

variable {h : Host β} {s : Regs} {m : Machine β}

theorem aborted_clear (hclear : s.fAbort = false) (hm : m.core.sansStatus = s) :
    (aborted : M β Bool).run m = .done false m := by
  rw [aborted, Program.run_read, fAbort_of_sansStatus hm, hclear]

/-- A register step before the rest. -/
theorem stepReg_settles {F : Routine β α} {ret : α → Machine β → Prop}
    {call : Trap → Machine β → Routine β α → Prop} {reg : BitVec 3} {d v : Word} (hv : v = m.core.r reg + d)
    (hm : m.core.sansStatus = s)
    (hF : ∀ m' : Machine β, m'.core.sansStatus = s.stepReg h.build reg d → Program.Settles F m' ret call) :
    Program.Settles (fun traps => do
      setR reg v
      perform (.recordDelta h.build reg d)
      F traps) m ret call := by
  refine .step (setR_run _ _ _) (.step (run_perform_enabled rfl) (hF _ ?_))
  rw [← hm, ← sansStatus_stepReg, hv]
  rfl

theorem autoincrement_settles (reg : BitVec 3) (step : Word) (hm : m.core.sansStatus = s) :
    Program.Settles (fun traps => (Env.answering h traps).autoincrement reg step) m
      (fun _ m' => m'.core.sansStatus = s.stepReg h.build reg step) fun _ _ _ => False := by
  unfold Env.autoincrement Env.recordDelta
  refine .step (getR_run _ _) ?_
  by_cases hreg : reg = 7
  · simp only [Program.when, if_pos hreg, Env.answering_host]
    exact .step (run_perform_enabled rfl) (stepReg_settles rfl hm fun m' hm' => .pure _ hm')
  · simp only [Program.when, if_neg hreg, Env.answering_host]
    exact .step (Program.run_pure _ _) (stepReg_settles rfl hm fun m' hm' => .pure _ hm')

theorem autodecrement_settles (reg : BitVec 3) (step : Word) (hm : m.core.sansStatus = s) :
    Program.Settles (fun traps => (Env.answering h traps).autodecrement reg step) m
      (fun _ m' => m'.core.sansStatus = s.stepReg h.build reg (-step)) fun _ _ _ => False := by
  unfold Env.autodecrement Env.recordDelta
  refine .step (getR_run _ _) ?_
  simp only [Env.answering_host]
  refine stepReg_settles (BitVec.sub_eq_add_neg _ _) hm fun m' hm' => ?_
  by_cases hreg : reg = 6
  · simp only [Program.when, if_pos hreg]
    exact .step (run_perform_enabled rfl) (.pure _ ((sansStatus_stackReference _).trans hm'))
  · simp only [Program.when, if_neg hreg]
    exact .step (Program.run_pure _ _) (.pure _ hm')

/-- A pointer through memory. -/
theorem pointer_settles {F : Routine β Word} (hclear : s.fAbort = false) (hF : Loads s F m) :
    Program.Settles (fun traps => Env.pointer (F traps)) m
      (fun o m' => o.isSome = true ∧ m'.core.sansStatus = s) fun _ m₀ tail => m₀.core.sansStatus = s ∧ Misses tail := by
  unfold Env.pointer
  refine hF.bind (fun offset m' hm' => ?_) ?_
  · exact .step (aborted_clear hclear hm') (.pure _ ⟨rfl, hm'⟩)
  · rintro t m₀ tail ⟨hm₀, v, rfl⟩
    refine ⟨hm₀, fun traps m₁ hset => ?_⟩
    simp only [Program.run_bind, Program.run_pure, Outcome.andThen_done, aborted, Program.run_read, hset, if_true]

theorem indexWord_settles (hclear : s.fAbort = false) (hm : m.core.sansStatus = s) :
    Program.Settles (fun traps => (Env.answering h traps).indexWord) m
      (fun o m' => o.isSome = true ∧ m'.core.sansStatus = s.stepReg h.build 7 2)
      fun _ m₀ tail => m₀.core.sansStatus = s ∧ Misses tail := by
  unfold Env.indexWord Env.recordDelta
  refine .step (getR_run _ _) ((coreLoadWordEx_settles _ _ _ hm).bind (fun tmp m' hm' => ?_) ?_)
  · refine .step (aborted_clear hclear hm') (.step (run_perform_enabled rfl) (.step (getR_run _ _) ?_))
    exact stepReg_settles rfl hm' fun m₁ hm₁ => .pure _ ⟨rfl, hm₁⟩
  · rintro t m₀ tail ⟨hm₀, v, rfl⟩
    refine ⟨hm₀, fun traps m₁ hset => ?_⟩
    simp only [Program.run_bind, Program.run_pure, Outcome.andThen_done, aborted, Program.run_read, hset, if_true]

/-- The register was stepped and then a pointer was refused. -/
theorem steppedPointer_settles {s₁ : Regs} {F : Routine β Word} {G : Word → Routine β Word}
    (hclear : s₁.fAbort = false)
    (hF : Program.Settles F m (fun _ m' => m'.core.sansStatus = s₁) fun _ _ _ => False)
    (hG : ∀ v (m' : Machine β), m'.core.sansStatus = s₁ → Loads s₁ (G v) m') :
    Program.Settles (fun traps => do let v ← F traps; Env.pointer (G v traps)) m
      (fun o m' => o.isSome = true ∧ m'.core.sansStatus = s₁)
      fun _ m₀ tail => (m₀.core.sansStatus = s ∨ m₀.core.sansStatus = s₁) ∧ Misses tail := by
  refine hF.bind (fun v m' hm' => ?_) fun _ _ _ => False.elim
  exact (pointer_settles hclear (hG v m' hm')).mono (fun _ _ => id) fun _ _ _ hcall => ⟨.inr hcall.1, hcall.2⟩

/-- The operand of an index word. -/
theorem indexed_settles {s₁ : Regs} {F : Routine β (Option Word)} {G : Word → Routine β (Option Operand)}
    (hF : Program.Settles F m (fun o m' => o.isSome = true ∧ m'.core.sansStatus = s₁)
      fun _ m₀ tail => m₀.core.sansStatus = s ∧ Misses tail)
    (hG : ∀ v (m' : Machine β), m'.core.sansStatus = s₁ →
      Program.Settles (G v) m' (fun o m' => o.isSome = true ∧ m'.core.sansStatus = s₁)
        fun _ m₀ tail => m₀.core.sansStatus = s₁ ∧ Misses tail) :
    Program.Settles (fun traps => do
      match ← F traps with
      | none => pure none
      | some tmp => G tmp traps) m
      (fun o m' => o.isSome = true ∧ m'.core.sansStatus = s₁)
      fun _ m₀ tail => (m₀.core.sansStatus = s ∨ m₀.core.sansStatus = s₁) ∧ Misses tail := by
  refine hF.bind (fun o m' ⟨hsome, hm'⟩ => ?_) ?_
  · cases o with
    | none => cases hsome
    | some tmp =>
      exact (hG tmp m' hm').mono (fun _ _ => id) fun _ _ _ hcall => ⟨.inr hcall.1, hcall.2⟩
  · rintro t m₀ tail ⟨hm₀, hmiss⟩
    refine ⟨.inl hm₀, fun traps m₁ hset => ?_⟩
    rw [Program.run_bind, hmiss traps m₁ hset]
    rfl

theorem decodeData_settles (data : Word) (t : DataType) (hclear : s.fAbort = false) (hm : m.core.sansStatus = s) :
    Program.Settles (fun traps => (Env.answering h traps).decodeData data t) m
      (fun o m' => o.isSome = true ∧ m'.core.sansStatus = operandEffect h.build data t s)
      fun _ m₀ tail => (m₀.core.sansStatus = s ∨ m₀.core.sansStatus = operandEffect h.build data t s) ∧
        Misses tail := by
  have hafter := (fAbort_operandEffect h.build data t s).trans hclear
  unfold operandEffect at hafter ⊢
  unfold Env.decodeData
  dsimp only at hafter ⊢
  refine .step (aborted_clear hclear hm) ?_
  simp only [Bool.false_eq_true, if_false]
  generalize (data >>> 3).setWidth 3 = mode at hafter ⊢
  split
  · exact .pure _ ⟨rfl, hm⟩
  · exact .step (getR_run _ _) (.pure _ ⟨rfl, hm⟩)
  · exact (autoincrement_settles _ _ hm).bind (fun _ _ hm' => .pure _ ⟨rfl, hm'⟩) fun _ _ _ => False.elim
  · exact steppedPointer_settles hafter (autoincrement_settles _ _ hm) fun v m' hm' =>
      .ite (fun _ => coreLoadWordEx_settles _ _ _ hm') fun _ => coreLoadWordEx_settles _ _ _ hm'
  · exact (autodecrement_settles _ _ hm).bind (fun _ _ hm' => .pure _ ⟨rfl, hm'⟩) fun _ _ _ => False.elim
  · exact steppedPointer_settles hafter (autodecrement_settles _ _ hm) fun v m' hm' =>
      coreLoadWordEx_settles _ _ _ hm'
  · exact indexed_settles (indexWord_settles hclear hm) fun v m' hm' =>
      .step (getR_run _ _) (.pure _ ⟨rfl, hm'⟩)
  · exact indexed_settles (indexWord_settles hclear hm) fun v m' hm' =>
      .step (getR_run _ _) (pointer_settles hafter (coreLoadWordEx_settles _ _ _ hm'))

/-! ## The access macros -/

/-- The program leaves the step at a refused access, with the core at `s` but for its status. -/
def QuitsAt (s : Regs) (_ : Trap) (m₀ : Machine β) (tail : Routine β α) : Prop :=
  m₀.core.sansStatus = s ∧ Quits tail

theorem Quits.bind {tail : Routine β α} (htail : Quits tail) (G : α → Routine β γ) :
    Quits (fun traps => do let a ← tail traps; G a traps) := by
  intro traps m hset
  rw [Program.run_bind, htail traps m hset]
  rfl

theorem leaveIfAborted_quits (v : α) : Quits (fun _ => do Env.leaveIfAborted; pure v : Routine β α) := by
  intro traps m hset
  simp only [Env.leaveIfAborted, aborted, Program.run_bind, Program.run_read, Outcome.andThen_done, hset, if_true]
  rfl

theorem operand_settles (data : Word) (t : DataType) (hclear : s.fAbort = false) (hm : m.core.sansStatus = s) :
    Program.Settles (fun traps => (Env.answering h traps).operand data t) m
      (fun _ m' => m'.core.sansStatus = operandEffect h.build data t s)
      fun _ m₀ tail => (m₀.core.sansStatus = s ∨ m₀.core.sansStatus = operandEffect h.build data t s) ∧ Quits tail := by
  unfold Env.operand
  refine (decodeData_settles data t hclear hm).bind (fun o m' ⟨hsome, hm'⟩ => ?_) ?_
  · cases o with
    | none => cases hsome
    | some o => exact .pure _ hm'
  · rintro t m₀ tail ⟨hm₀, hmiss⟩
    refine ⟨hm₀, fun traps m₁ hset => ?_⟩
    rw [Program.run_bind, hmiss traps m₁ hset]
    rfl

theorem getDataWord_settles (o : Operand) (hm : m.core.sansStatus = s) :
    Loads s (fun traps => (Env.answering h traps).getDataWord o) m := by
  unfold Env.getDataWord
  split
  · exact .returns (fun _ => getR_run _ _) hm
  · exact coreLoadWordEx_settles _ _ _ hm
  · exact coreLoadWordEx_settles _ _ _ hm

theorem getDataByte_settles (o : Operand) (hm : m.core.sansStatus = s) :
    Loads s (fun traps => (Env.answering h traps).getDataByte o) m := by
  unfold Env.getDataByte
  split
  · exact .step (getR_run _ _) (.pure _ hm)
  · exact coreLoadByteEx_settles _ _ _ hm
  · exact coreLoadByteEx_settles _ _ _ hm

/-- A load whose abort flag is tested at once. -/
theorem checkedLoad_settles {F : Routine β α} (hclear : s.fAbort = false) (hF : Loads s F m) :
    Program.Settles (fun traps => do let v ← F traps; Env.leaveIfAborted; pure v) m
      (fun _ m' => m'.core.sansStatus = s) (QuitsAt s) := by
  refine hF.bind (fun v m' hm' => ?_) ?_
  · exact .step (leaveIfAborted_clear ((fAbort_of_sansStatus hm').trans hclear)) (.pure _ hm')
  · rintro t m₀ tail ⟨hm₀, v, rfl⟩
    exact ⟨hm₀, leaveIfAborted_quits v⟩

theorem getWord_settles (o : Operand) (hclear : s.fAbort = false) (hm : m.core.sansStatus = s) :
    Program.Settles (fun traps => (Env.answering h traps).getWord o) m
      (fun _ m' => m'.core.sansStatus = s) (QuitsAt s) :=
  checkedLoad_settles hclear (getDataWord_settles o hm)

theorem getByte_settles (o : Operand) (hclear : s.fAbort = false) (hm : m.core.sansStatus = s) :
    Program.Settles (fun traps => (Env.answering h traps).getByte o) m
      (fun _ m' => m'.core.sansStatus = s) (QuitsAt s) :=
  checkedLoad_settles hclear (getDataByte_settles o hm)

/-- A store whose abort flag is tested at once. -/
theorem checkedStore_settles {F : Routine β Unit} (hclear : s.fAbort = false) (hF : Stores s F m) :
    Program.Settles (fun traps => do F traps; Env.leaveIfAborted) m
      (fun _ m' => m'.core.fAbort = false) (QuitsAt s) := by
  refine hF.bind (fun v m' hm' => ?_) ?_
  · have hno : m'.core.fAbort = false := hm'.trans hclear
    exact .returns (fun _ => leaveIfAborted_clear hno) hno
  · rintro t m₀ tail ⟨hm₀, v, rfl⟩
    refine ⟨hm₀, fun traps m₁ hset => ?_⟩
    simp only [Program.run_bind, Program.run_pure, Outcome.andThen_done, Env.leaveIfAborted, aborted, Program.run_read,
      hset, if_true]
    rfl

theorem setR_stores (i : BitVec 3) (v : Word) (hm : m.core.sansStatus = s) :
    Stores s (fun _ => setR i v) m :=
  .returns (fun _ => setR_run i v m) (fAbort_after (by nofun) (fAbort_of_sansStatus hm))

theorem putWord_settles (o : Operand) (v : Word) (hclear : s.fAbort = false) (hm : m.core.sansStatus = s) :
    Program.Settles (fun traps => (Env.answering h traps).putWord o v) m
      (fun _ m' => m'.core.fAbort = false) (QuitsAt s) := by
  refine checkedStore_settles hclear ?_
  unfold Env.putDataWord
  split
  · exact setR_stores _ _ hm
  · exact coreStoreWordEx_settles _ _ _ hm

theorem putByte_settles (o : Operand) (v : Byte) (hclear : s.fAbort = false) (hm : m.core.sansStatus = s) :
    Program.Settles (fun traps => (Env.answering h traps).putByte o v) m
      (fun _ m' => m'.core.fAbort = false) (QuitsAt s) := by
  refine checkedStore_settles hclear ?_
  unfold Env.putDataByte
  split
  · exact .step (getR_run _ _) (setR_stores _ _ hm)
  · exact coreStoreByteEx_settles _ _ _ hm

theorem putByteMovb_settles (o : Operand) (v : Byte) (hclear : s.fAbort = false) (hm : m.core.sansStatus = s) :
    Program.Settles (fun traps => (Env.answering h traps).putByteMovb o v) m
      (fun _ m' => m'.core.fAbort = false) (QuitsAt s) := by
  refine checkedStore_settles hclear ?_
  unfold Env.putDataByteMovb
  split
  · exact setR_stores _ _ hm
  · exact coreStoreByteEx_settles _ _ _ hm

end Decode

end K1801.Core
