import K1801.Core.Quiet
import Mathlib.Tactic.SplitIfs

/-! # Where a store goes

A store ends in memory or in an on-chip register. One to the PSW of the J-11 leaves the stored
value there, with the T bit as it was; any other leaves the PSW and the general registers alone.
-/

namespace K1801.Core

open Library

variable {β : Type}

/-! ## The register block -/

/-- What a store can change through the PSW only. -/
def Regs.seen (r : Regs) : Model × (BitVec 3 → Word) × Word × Word × Bool :=
  (r.model, r.r, r.psw, r.pswBefore, r.dcj11ExplicitPswWrite)

theorem Regs.seen_of_exceptMmu {r r' : Regs} (h : r'.exceptMmu = r.exceptMmu) :
    r'.seen = r.seen :=
  congrArg (fun r => r.seen) h

theorem seen_dcj11RegBlockStoreWord {r r' : Regs} {offset v : Word}
    (h : dcj11RegBlockStoreWord r offset v = some r') (hne : offset &&& 0o177776 ≠ dcj11RegPsw) :
    r'.seen = r.seen := by
  unfold dcj11RegBlockStoreWord at h
  dsimp only at h
  rw [if_neg hne] at h
  repeat' split at h
  all_goals first
    | cases h; rfl
    | cases h

theorem seen_dcj11RegBlockStoreByte {r r' : Regs} {offset : Word} {v : Byte}
    (h : dcj11RegBlockStoreByte r offset v = some r') (hne : offset &&& 0o177776 ≠ dcj11RegPsw) :
    r'.seen = r.seen := by
  unfold dcj11RegBlockStoreByte at h
  split at h
  · split at h
    · cases h
      rfl
    · exact seen_dcj11RegBlockStoreWord h (by decide)
  · split at h
    · exact seen_dcj11RegBlockStoreWord h hne
    · obtain ⟨w, -, hw⟩ := Option.bind_eq_some_iff.1 h
      exact seen_dcj11RegBlockStoreWord hw hne

theorem seen_vm1RegBlockStoreWord {r r' : Regs} {offset v : Word}
    (h : vm1RegBlockStoreWord r offset v = some r') : r'.seen = r.seen := by
  unfold vm1RegBlockStoreWord at h
  repeat' split at h
  all_goals cases h <;> rfl

theorem seen_mmuIoWriteWord {b : Build} {r r' : Regs} {a v : Word}
    (h : mmuIoWriteWord b r a v = some r') : r'.seen = r.seen := by
  unfold mmuIoWriteWord at h
  dsimp only at h
  repeat' split at h
  all_goals first
    | contradiction
    | cases h; rfl

theorem seen_mmuIoWriteByte {b : Build} {r r' : Regs} {a : Word} {v : Byte}
    (h : mmuIoWriteByte b r a v = some r') : r'.seen = r.seen := by
  unfold mmuIoWriteByte at h
  dsimp only at h
  split at h
  · cases h
  · exact seen_mmuIoWriteWord h

/-- The J-11 decodes its PSW here. -/
def HitsPsw (offset : Word) (r : Regs) : Prop :=
  r.model = .dcj11 ∧ offset &&& 0o177776 = dcj11RegPsw

theorem seen_regBlockStoreWord {b : Build} {r r' : Regs} {a v : Word}
    (h : regBlockStoreWord b r a v = some r') (hne : ¬ HitsPsw a r) : r'.seen = r.seen := by
  unfold regBlockStoreWord at h
  split at h
  · rename_i hmodel
    simp only [Option.orElse_eq_orElse, Option.orElse_eq_or, Option.or_eq_some_iff] at h
    rcases h with h | ⟨-, h⟩
    · exact seen_dcj11RegBlockStoreWord h fun hpsw => hne ⟨hmodel, hpsw⟩
    · exact seen_mmuIoWriteWord h
  · split at h
    · exact seen_vm1RegBlockStoreWord h
    · cases h

theorem seen_regBlockStoreByte {b : Build} {r r' : Regs} {a : Word} {v : Byte}
    (h : regBlockStoreByte b r a v = some r') (hne : ¬ HitsPsw a r) : r'.seen = r.seen := by
  unfold regBlockStoreByte at h
  split at h
  · rename_i hmodel
    simp only [Option.orElse_eq_orElse, Option.orElse_eq_or, Option.or_eq_some_iff] at h
    rcases h with h | ⟨-, h⟩
    · exact seen_dcj11RegBlockStoreByte h fun hpsw => hne ⟨hmodel, hpsw⟩
    · exact seen_mmuIoWriteByte h
  · split at h
    · obtain ⟨w, -, hw⟩ := Option.bind_eq_some_iff.1 h
      exact seen_vm1RegBlockStoreWord hw
    · cases h

/-- The PSW has taken `v`, the T bit apart, and the condition codes are closed. -/
structure PswStored (v : Word) (r r' : Regs) : Prop where
  model : r'.model = .dcj11
  psw : r'.psw = (v &&& ~~~flagT) ||| (r.psw &&& flagT)
  explicit : r'.dcj11ExplicitPswWrite = true
  abort : r'.fAbort = r.fAbort
  pswBefore : r'.pswBefore = r.pswBefore

/-- What the core has after a store to the PSW. -/
def storePsw (v : Word) (r : Regs) : Regs :=
  { r.dcj11SetPsw (dcj11ExplicitPswWrite r v) with dcj11ExplicitPswWrite := true }

theorem pswStored_storePsw {r : Regs} (hmodel : r.model = .dcj11) (v : Word) :
    PswStored v r (storePsw v r) := by
  have hcontrol := Regs.control_of_frame (Regs.frame_dcj11SetPsw (dcj11ExplicitPswWrite r v) r)
  obtain ⟨hsame, habort, hbefore⟩ := Regs.control_eq_iff.1 hcontrol
  refine ⟨hsame.trans hmodel, ?_, rfl, habort, hbefore⟩
  have hpsw : (storePsw v r).psw = dcj11ExplicitPswWrite r v := rfl
  rw [hpsw, dcj11ExplicitPswWrite, if_pos hmodel]

theorem dcj11RegBlockStoreWord_psw (r : Regs) {a : Word} (v : Word)
    (h : a &&& 0o177776 = dcj11RegPsw) : dcj11RegBlockStoreWord r a v = some (storePsw v r) := by
  unfold dcj11RegBlockStoreWord
  rw [h]
  rfl

theorem dcj11RegBlockStoreByte_psw (r : Regs) {a : Word} (v : Byte)
    (h : a &&& 0o177776 = dcj11RegPsw) :
    dcj11RegBlockStoreByte r a v = some (storePsw (withByte r.psw a v) r) := by
  have hread : dcj11RegBlockLoadWord r a = some r.psw := by
    unfold dcj11RegBlockLoadWord
    rw [h]
    rfl
  have hbyte : ¬ (a = dcj11RegMemerr ∨ a = dcj11RegHitmiss ∨ a = dcj11RegCpuerr ∨ a = dcj11RegMaint) := by
    rintro (rfl | rfl | rfl | rfl) <;> exact absurd h (by decide)
  unfold dcj11RegBlockStoreByte
  rw [if_neg (by rw [h]; decide), if_neg hbyte, hread]
  exact dcj11RegBlockStoreWord_psw r _ h

theorem regBlockStoreWord_psw (b : Build) {r : Regs} {a : Word} (v : Word) (h : HitsPsw a r) :
    regBlockStoreWord b r a v = some (storePsw v r) := by
  unfold regBlockStoreWord
  rw [if_pos h.1, dcj11RegBlockStoreWord_psw r v h.2]
  rfl

theorem regBlockStoreByte_psw (b : Build) {r : Regs} {a : Word} (v : Byte) (h : HitsPsw a r) :
    regBlockStoreByte b r a v = some (storePsw (withByte r.psw a v) r) := by
  unfold regBlockStoreByte
  rw [if_pos h.1, dcj11RegBlockStoreByte_psw r v h.2]
  rfl

namespace PswStored

variable {v : Word} {r r' r'' : Regs}

theorem after (h : PswStored v r r') (heq : r''.exceptMmu = r'.exceptMmu) : PswStored v r r'' where
  model := (congrArg (fun r => r.model) heq).trans h.model
  psw := (congrArg (fun r => r.psw) heq).trans h.psw
  explicit := (congrArg (fun r => r.dcj11ExplicitPswWrite) heq).trans h.explicit
  abort := (congrArg (fun r => r.fAbort) heq).trans h.abort
  pswBefore := (congrArg (fun r => r.pswBefore) heq).trans h.pswBefore

theorem before (h : PswStored v r' r'') (heq : r'.exceptMmu = r.exceptMmu) : PswStored v r r'' where
  model := h.model
  psw := by rw [h.psw, show r'.psw = r.psw from congrArg (fun r => r.psw) heq]
  explicit := h.explicit
  abort := h.abort.trans (congrArg (fun r => r.fAbort) heq)
  pswBefore := h.pswBefore.trans (congrArg (fun r => r.pswBefore) heq)

end PswStored

/-! ## Routes -/

namespace Env

/-- The offset at which the register block sees a store that does not go straight to memory;
    `tr` is its translation. -/
def decodedAt (e : Env β) (r : Regs) (offset : Word) (tr : Except MmuFault Dword × Regs) : Option Word :=
  if e.vaDecodesRegs r then some offset
  else match tr.1 with
    | .ok pa => dcj11IoAliasOffset e.host.build tr.2 pa
    | .error _ => none

/-- Where the register block sees `core_store_word`. -/
def wordTarget (e : Env β) (r : Regs) (offset : Word) : Option Word :=
  if r.model = .dcj11 ∧ offset &&& 1 ≠ 0 then none
  else if e.directRam r offset 2 then none
  else if (e.tlbPtr r (currentApr r offset false false) offset 2 true).isSome then none
  else e.decodedAt r offset (translateVaEx e.host.build r offset true false false)

/-- Where the register block sees `core_store_byte`. -/
def byteTarget (e : Env β) (r : Regs) (offset : Word) : Option Word :=
  if e.directRam r offset 1 then none
  else if (e.tlbPtr r (currentApr r offset false false) offset 1 true).isSome then none
  else e.decodedAt r offset (translateVaEx e.host.build r offset true false false)

/-- Where the register block sees `core_store_word_mode_space`. -/
def modeTarget (e : Env β) (r : Regs) (offset : Word) (mode : BitVec 2) (dataSpace : Bool) :
    Option Word :=
  if r.model = .dcj11 ∧ offset &&& 1 ≠ 0 then none
  else if (e.tlbPtr r (modeSpaceApr r offset mode dataSpace) offset 2 true).isSome then none
  else e.decodedAt r offset (translateVaModeSpace e.host.build r offset true mode dataSpace)

end Env

/-- The store that the register block sees there is one to the PSW. -/
def TargetsPsw (target : Option Word) (r : Regs) : Prop := ∃ a, target = some a ∧ HitsPsw a r

section Runs

variable {e : Env β} {m m' : Machine β} {α : Type}

theorem translated_run {va : Word} {apr : Regs → Apr} {tr : Regs → Except MmuFault Dword × Regs}
    {op : Micro} (hop : op.enabled m.core = true) {refused : α} {k : Dword → M β α} {pa : Dword}
    (h : (tr m.core).1 = .ok pa) :
    (e.translated va apr tr op refused k).run m = (k pa).run (m.after op) := by
  unfold Env.translated
  rw [Program.run_bind, regs, Program.run_read, Outcome.andThen_done, Program.run_bind,
    run_perform_enabled hop, Outcome.andThen_done, h]

theorem translated_answers (he : e.TrapsAbort) {va : Word} {apr : Regs → Apr}
    {tr : Regs → Except MmuFault Dword × Regs} {op : Micro} (hop : op.enabled m.core = true)
    {refused : α} {k : Dword → M β α} {a : α} (h : Answers (e.translated va apr tr op refused k) m a m') :
    ∃ pa, (tr m.core).1 = .ok pa ∧ Answers (k pa) (m.after op) a m' := by
  cases htr : (tr m.core).1 with
  | ok pa =>
    refine ⟨pa, rfl, ?_, h.2⟩
    rw [← translated_run hop htr]
    exact h.1
  | error fault =>
    have hnever : NeverAnswers (do e.mmuFault va fault (apr m.core); Pure.pure refused : M β α) :=
      .bind_left (.bind_right fun _ => he.mmuFaultTrap _ _ _ _) fun _ => .pure _
    obtain ⟨hrun, hclear⟩ := h
    unfold Env.translated at hrun
    rw [Program.run_bind, regs, Program.run_read, Outcome.andThen_done, Program.run_bind,
      run_perform_enabled hop, Outcome.andThen_done, htr] at hrun
    exact absurd ⟨hrun, hclear⟩ (hnever _ a m')

/-! ## Physical stores -/

theorem rawStoreWordPhys_psw {pa : Dword} {a : Word} (v : Word)
    (halias : dcj11IoAliasOffset e.host.build m.core pa = some a) (hhit : HitsPsw a m.core) :
    ∃ m', (e.rawStoreWordPhys pa v).run m = .done () m' ∧ PswStored v m.core m'.core := by
  have hstore := regBlockStoreWord_psw e.host.build v hhit
  have hreg : e.physRegStoreWord m.core pa v = some a := by
    simp [Env.physRegStoreWord, halias, hstore]
  refine ⟨m.after (.regStoreWord e.host.build a v), ?_, ?_⟩
  · unfold Env.rawStoreWordPhys
    rw [Program.run_bind, regs, Program.run_read, Outcome.andThen_done, hreg]
    exact run_perform_enabled rfl
  · have hcore : (m.after (.regStoreWord e.host.build a v)).core = storePsw v m.core := by
      simp [Machine.after, Micro.apply, hstore]
    rw [hcore]
    exact pswStored_storePsw hhit.1 v

theorem rawStoreBytePhys_psw {pa : Dword} {a : Word} (v : Byte)
    (halias : dcj11IoAliasOffset e.host.build m.core pa = some a) (hhit : HitsPsw a m.core) :
    ∃ m', (e.rawStoreBytePhys pa v).run m = .done () m' ∧
      PswStored (withByte m.core.psw a v) m.core m'.core := by
  have hstore := regBlockStoreByte_psw e.host.build v hhit
  have hreg : e.physRegStoreByte m.core pa v = some a := by
    simp [Env.physRegStoreByte, halias, hstore]
  refine ⟨m.after (.regStoreByte e.host.build a v), ?_, ?_⟩
  · unfold Env.rawStoreBytePhys
    rw [Program.run_bind, regs, Program.run_read, Outcome.andThen_done, hreg]
    exact run_perform_enabled rfl
  · have hcore : (m.after (.regStoreByte e.host.build a v)).core =
        storePsw (withByte m.core.psw a v) m.core := by
      simp [Machine.after, Micro.apply, hstore]
    rw [hcore]
    exact pswStored_storePsw hhit.1 _

theorem seen_regStoreWord {b : Build} {r : Regs} {a v : Word} (hne : ¬ HitsPsw a r) :
    ((Micro.regStoreWord b a v).apply r).seen = r.seen := by
  simp only [Micro.apply]
  cases h : regBlockStoreWord b r a v with
  | none => rfl
  | some r' => exact seen_regBlockStoreWord h hne

theorem seen_regStoreByte {b : Build} {r : Regs} {a : Word} {v : Byte} (hne : ¬ HitsPsw a r) :
    ((Micro.regStoreByte b a v).apply r).seen = r.seen := by
  simp only [Micro.apply]
  cases h : regBlockStoreByte b r a v with
  | none => rfl
  | some r' => exact seen_regBlockStoreByte h hne

theorem Quiet.setRamByte {κ : Type} {f : Regs → κ} (i : Nat) (v : Byte) : Quiet f (e.setRamByte i v) := .onBus _

theorem Quiet.setRamWord {κ : Type} {f : Regs → κ} (i : Nat) (v : Word) : Quiet f (e.setRamWord i v) :=
  .bind (.setRamByte _ _) fun _ => .setRamByte _ _

theorem rawStoreWordPhys_seen (he : e.TrapsAbort) {pa : Dword} {v : Word}
    (h : Answers (e.rawStoreWordPhys pa v) m () m')
    (hne : ¬ TargetsPsw (dcj11IoAliasOffset e.host.build m.core pa) m.core) :
    m'.core.seen = m.core.seen := by
  obtain ⟨hrun, hclear⟩ := h
  unfold Env.rawStoreWordPhys at hrun
  rw [Program.run_bind, regs, Program.run_read, Outcome.andThen_done] at hrun
  cases hreg : e.physRegStoreWord m.core pa v with
  | some a =>
    rw [hreg] at hrun
    cases hrun
    unfold Env.physRegStoreWord at hreg
    obtain ⟨a', halias, hreg⟩ := Option.bind_eq_some_iff.1 hreg
    obtain ⟨r', -, hreg⟩ := Option.bind_eq_some_iff.1 hreg
    cases hreg
    exact seen_regStoreWord fun hhit => hne ⟨a, halias, hhit⟩
  | none =>
    rw [hreg] at hrun
    refine Quiet.keeps ?_ _ _ _ ⟨hrun, hclear⟩
    refine .ite (.callback he _) ?_
    split
    · exact .callback he _
    · exact .callback he _

theorem rawStoreBytePhys_seen (he : e.TrapsAbort) {pa : Dword} {v : Byte}
    (h : Answers (e.rawStoreBytePhys pa v) m () m')
    (hne : ¬ TargetsPsw (dcj11IoAliasOffset e.host.build m.core pa) m.core) :
    m'.core.seen = m.core.seen := by
  obtain ⟨hrun, hclear⟩ := h
  unfold Env.rawStoreBytePhys at hrun
  rw [Program.run_bind, regs, Program.run_read, Outcome.andThen_done] at hrun
  cases hreg : e.physRegStoreByte m.core pa v with
  | some a =>
    rw [hreg] at hrun
    cases hrun
    unfold Env.physRegStoreByte at hreg
    obtain ⟨a', halias, hreg⟩ := Option.bind_eq_some_iff.1 hreg
    obtain ⟨r', -, hreg⟩ := Option.bind_eq_some_iff.1 hreg
    cases hreg
    exact seen_regStoreByte fun hhit => hne ⟨a, halias, hhit⟩
  | none =>
    rw [hreg] at hrun
    refine Quiet.keeps ?_ _ _ _ ⟨hrun, hclear⟩
    refine .ite (.callback he _) ?_
    split
    · exact .callback he _
    · exact .callback he _

/-! ## The three stores

Each goes to memory directly, to the register block, or on through its translation. -/

/-- The last two of the three ways. -/
def storeThrough (decoded : Option Regs) (store post : Micro) (walk : M β Unit) : M β Unit :=
  match decoded with
  | some _ => do
    perform store
    perform post
  | none => walk

/-- Operations behind a store into the register block. -/
def Micro.isPost : Micro → Bool
  | internalRegWrite _ _ _ | pdrWritten _ _ => true
  | _ => false

theorem Micro.exceptMmu_post {op : Micro} (hop : op.isPost = true) (r : Regs) :
    (op.apply r).exceptMmu = r.exceptMmu := by
  cases op with
  | internalRegWrite => simp [apply]
  | pdrWritten b apr =>
    simp only [apply]
    split
    · exact Regs.exceptMmu_mmuNoteWritePdrw b apr r
    · rfl
  | _ => cases hop

theorem Micro.post_enabled {op : Micro} (hop : op.isPost = true) (r : Regs) : op.enabled r = true := by
  cases op with
  | internalRegWrite | pdrWritten => rfl
  | _ => cases hop

section Through

variable {offset : Word} {decoded : Option Regs} {store post status : Micro} {apr : Regs → Apr}
  {tr : Regs → Except MmuFault Dword × Regs} {k : Dword → M β Unit}

theorem storeThrough_psw (val : Word → Word → Word) {a : Word} (hstore : ∀ r, store.enabled r = true)
    (hpost : post.isPost = true) (hstatus : status.enabled m.core = true)
    (htr : status.apply m.core = (tr m.core).2) (hkeep : (tr m.core).2.exceptMmu = m.core.exceptMmu)
    (hnone : e.vaDecodesRegs m.core = false → decoded = none)
    (hblock : e.vaDecodesRegs m.core = true → HitsPsw offset m.core →
      decoded.isSome = true ∧ store.apply m.core = storePsw (val m.core.psw offset) m.core)
    (hphys : ∀ (m : Machine β) pa, dcj11IoAliasOffset e.host.build m.core pa = some a → HitsPsw a m.core →
      ∃ m', (k pa).run m = .done () m' ∧ PswStored (val m.core.psw a) m.core m'.core)
    (hat : e.decodedAt m.core offset (tr m.core) = some a) (hhit : HitsPsw a m.core) :
    ∃ m', (storeThrough decoded store post (e.translated offset apr tr status () k)).run m = .done () m' ∧
      PswStored (val m.core.psw a) m.core m'.core := by
  unfold Env.decodedAt at hat
  cases hva : e.vaDecodesRegs m.core with
  | true =>
    rw [hva, if_pos rfl] at hat
    obtain rfl := Option.some.inj hat
    obtain ⟨hsome, happly⟩ := hblock hva hhit
    obtain ⟨r', rfl⟩ := Option.isSome_iff_exists.1 hsome
    refine ⟨(m.after store).after post, ?_, ?_⟩
    · unfold storeThrough
      rw [Program.run_bind, run_perform_enabled (hstore _), Outcome.andThen_done]
      exact run_perform_enabled (Micro.post_enabled hpost _)
    · have hstored := pswStored_storePsw hhit.1 (val m.core.psw offset)
      rw [← happly] at hstored
      exact hstored.after (Micro.exceptMmu_post hpost _)
  | false =>
    rw [hva, if_neg (by decide)] at hat
    cases hpa : (tr m.core).1 with
    | error fault =>
      rw [hpa] at hat
      cases hat
    | ok pa =>
      rw [hpa] at hat
      have hcore : (m.after status).core = (tr m.core).2 := htr
      have hsame : (m.after status).core.exceptMmu = m.core.exceptMmu := hcore ▸ hkeep
      have hmodel : (m.after status).core.model = m.core.model := congrArg (fun r => r.model) hsame
      have hpsw : (m.after status).core.psw = m.core.psw := congrArg (fun r => r.psw) hsame
      obtain ⟨m', hrun, hstored⟩ := hphys (m.after status) pa (hcore ▸ hat) ⟨hmodel.trans hhit.1, hhit.2⟩
      refine ⟨m', ?_, hpsw ▸ hstored.before hsame⟩
      rw [hnone hva, storeThrough, translated_run hstatus hpa, hrun]

theorem storeThrough_seen (he : e.TrapsAbort) (hstore : ∀ r, store.enabled r = true)
    (hpost : post.isPost = true) (hstatus : status.enabled m.core = true)
    (htr : status.apply m.core = (tr m.core).2) (hkeep : (tr m.core).2.exceptMmu = m.core.exceptMmu)
    (hnone : e.vaDecodesRegs m.core = false → decoded = none)
    (hoff : e.vaDecodesRegs m.core = true → (tr m.core).2 = m.core)
    (hblock : ¬ HitsPsw offset m.core → (store.apply m.core).seen = m.core.seen)
    (hphys : ∀ (m m' : Machine β) pa, Answers (k pa) m () m' →
      ¬ TargetsPsw (dcj11IoAliasOffset e.host.build m.core pa) m.core → m'.core.seen = m.core.seen)
    (hne : ¬ TargetsPsw (e.decodedAt m.core offset (tr m.core)) m.core)
    (h : Answers (storeThrough decoded store post (e.translated offset apr tr status () k)) m () m') :
    m'.core.seen = m.core.seen := by
  have hcore : (m.after status).core = (tr m.core).2 := htr
  have hsame : (m.after status).core.exceptMmu = m.core.exceptMmu := hcore ▸ hkeep
  have hmodel : (m.after status).core.model = m.core.model := congrArg (fun r => r.model) hsame
  cases decoded with
  | some r' =>
    cases hva : e.vaDecodesRegs m.core with
    | false => cases hnone hva
    | true =>
      rw [Env.decodedAt, hva, if_pos rfl] at hne
      have hmiss : ¬ HitsPsw offset m.core := fun hhit => hne ⟨offset, rfl, hhit⟩
      obtain ⟨hrun, -⟩ := h
      unfold storeThrough at hrun
      rw [Program.run_bind, run_perform_enabled (hstore _), Outcome.andThen_done,
        run_perform_enabled (Micro.post_enabled hpost _)] at hrun
      cases hrun
      exact (Regs.seen_of_exceptMmu (Micro.exceptMmu_post hpost _)).trans (hblock hmiss)
  | none =>
    obtain ⟨pa, hpa, hrest⟩ := translated_answers he hstatus h
    rw [hphys _ _ pa hrest ?_]
    · exact Regs.seen_of_exceptMmu hsame
    · rintro ⟨a, halias, hhit⟩
      refine hne ⟨a, ?_, hmodel ▸ hhit.1, hhit.2⟩
      cases hva : e.vaDecodesRegs m.core with
      | true =>
        rw [hcore, hoff hva] at halias
        unfold dcj11IoAliasOffset at halias
        rw [if_pos (by simpa [Env.vaDecodesRegs] using hva)] at halias
        cases halias
      | false =>
        rw [Env.decodedAt, hva, if_neg (by decide), hpa]
        exact hcore ▸ halias

end Through

theorem vaRegStoreWord_hidden {offset v : Word} (h : e.vaDecodesRegs m.core = false) :
    e.vaRegStoreWord m.core offset v = none := by
  unfold Env.vaRegStoreWord
  rw [h, if_neg (by decide)]

theorem vaRegStoreByte_hidden {offset : Word} {v : Byte} (h : e.vaDecodesRegs m.core = false) :
    e.vaRegStoreByte m.core offset v = none := by
  unfold Env.vaRegStoreByte
  rw [h, if_neg (by decide)]

theorem vaRegStoreWord_psw {offset v : Word} (h : e.vaDecodesRegs m.core = true)
    (hhit : HitsPsw offset m.core) : (e.vaRegStoreWord m.core offset v).isSome = true ∧
      (Micro.regStoreWord e.host.build offset v).apply m.core = storePsw v m.core := by
  have hstore := regBlockStoreWord_psw e.host.build v hhit
  unfold Env.vaRegStoreWord
  rw [h, if_pos rfl, hstore]
  exact ⟨rfl, by simp [Micro.apply, hstore]⟩

theorem vaRegStoreByte_psw {offset : Word} {v : Byte} (h : e.vaDecodesRegs m.core = true)
    (hhit : HitsPsw offset m.core) : (e.vaRegStoreByte m.core offset v).isSome = true ∧
      (Micro.regStoreByte e.host.build offset v).apply m.core =
        storePsw (withByte m.core.psw offset v) m.core := by
  have hstore := regBlockStoreByte_psw e.host.build v hhit
  unfold Env.vaRegStoreByte
  rw [h, if_pos rfl, hstore]
  exact ⟨rfl, by simp [Micro.apply, hstore]⟩

theorem translateVaEx_off {offset : Word} {w i k : Bool} (h : e.vaDecodesRegs m.core = true) :
    (translateVaEx e.host.build m.core offset w i k).2 = m.core := by
  unfold translateVaEx
  rw [if_pos (by simpa [Env.vaDecodesRegs] using h)]

theorem translateVaModeSpace_off {offset : Word} {w ds : Bool} {mode : BitVec 2}
    (h : e.vaDecodesRegs m.core = true) :
    (translateVaModeSpace e.host.build m.core offset w mode ds).2 = m.core := by
  unfold translateVaModeSpace
  rw [if_pos (by simpa [Env.vaDecodesRegs] using h)]

/-- `core_store_word` once the fast paths are out. -/
theorem coreStoreWord_through {offset v : Word} (hodd : ¬ (m.core.model = .dcj11 ∧ offset &&& 1 ≠ 0))
    (hram : ¬ e.directRam m.core offset 2 = true)
    (htlb : e.tlbPtr m.core (currentApr m.core offset false false) offset 2 true = none) :
    (e.coreStoreWord offset v).run m =
      (storeThrough (e.vaRegStoreWord m.core offset v) (.regStoreWord e.host.build offset v)
        (.internalRegWrite e.host.build offset false)
        (e.translated offset (currentApr · offset false false)
          (translateVaEx e.host.build · offset true false false)
          (.translate e.host.build offset true false false) () (e.rawStoreWordPhys · v))).run m := by
  unfold Env.coreStoreWord Env.coreStoreWordEx
  rw [Program.run_bind, regs, Program.run_read, Outcome.andThen_done, if_neg hodd, if_neg hram]
  dsimp only
  rw [htlb]
  rfl

theorem coreStoreWord_psw {offset v : Word} (h : TargetsPsw (e.wordTarget m.core offset) m.core) :
    ∃ m', (e.coreStoreWord offset v).run m = .done () m' ∧ PswStored v m.core m'.core := by
  obtain ⟨a, hat, hhit⟩ := h
  unfold Env.wordTarget at hat
  split_ifs at hat with hodd hram htlb
  rw [coreStoreWord_through hodd hram (Option.not_isSome_iff_eq_none.1 htlb)]
  exact storeThrough_psw (fun _ _ => v) (fun _ => rfl) rfl rfl rfl (Regs.exceptMmu_translateVaEx ..)
    vaRegStoreWord_hidden vaRegStoreWord_psw (fun m pa => rawStoreWordPhys_psw v) hat hhit

theorem Quiet.directStore {p : M β Unit} {apr : Apr} (h : ∀ {κ : Type} {f : Regs → κ}, Quiet f p) :
    Quiet Regs.seen (do Core.perform (.noteAccess apr true); p : M β Unit) :=
  ((Quiet.status rfl).comp fun _ _ => Regs.seen_of_exceptMmu).bind fun _ => h

theorem addressError_never (he : e.TrapsAbort) : NeverAnswers e.addressError := .bind_right fun _ => he.busErrorTrap

theorem coreStoreWord_seen (he : e.TrapsAbort) {offset v : Word}
    (hne : ¬ TargetsPsw (e.wordTarget m.core offset) m.core)
    (h : Answers (e.coreStoreWord offset v) m () m') : m'.core.seen = m.core.seen := by
  by_cases hodd : m.core.model = .dcj11 ∧ offset &&& 1 ≠ 0
  · have hnever : NeverAnswers e.addressError := addressError_never he
    obtain ⟨hrun, hclear⟩ := h
    unfold Env.coreStoreWord Env.coreStoreWordEx at hrun
    rw [Program.run_bind, regs, Program.run_read, Outcome.andThen_done, if_pos hodd] at hrun
    exact absurd ⟨hrun, hclear⟩ (hnever m () m')
  by_cases hram : e.directRam m.core offset 2 = true
  · obtain ⟨hrun, hclear⟩ := h
    unfold Env.coreStoreWord Env.coreStoreWordEx at hrun
    rw [Program.run_bind, regs, Program.run_read, Outcome.andThen_done, if_neg hodd, if_pos hram] at hrun
    exact (Quiet.setRamWord _ _).keeps _ _ _ ⟨hrun, hclear⟩
  cases htlb : e.tlbPtr m.core (currentApr m.core offset false false) offset 2 true with
  | some p =>
    obtain ⟨hrun, hclear⟩ := h
    unfold Env.coreStoreWord Env.coreStoreWordEx at hrun
    rw [Program.run_bind, regs, Program.run_read, Outcome.andThen_done, if_neg hodd, if_neg hram] at hrun
    dsimp only at hrun
    rw [htlb] at hrun
    exact (Quiet.directStore (.setRamWord p v)).keeps _ _ _ ⟨hrun, hclear⟩
  | none =>
    rw [Env.wordTarget, if_neg hodd, if_neg hram, htlb, Option.isSome_none, if_neg (by decide)] at hne
    obtain ⟨hrun, hclear⟩ := h
    rw [coreStoreWord_through hodd hram htlb] at hrun
    exact storeThrough_seen he (fun _ => rfl) rfl rfl rfl (Regs.exceptMmu_translateVaEx ..)
      vaRegStoreWord_hidden translateVaEx_off seen_regStoreWord
      (fun m m' pa ha hna => rawStoreWordPhys_seen he ha hna) hne ⟨hrun, hclear⟩

/-- `core_store_byte` once the fast paths are out. -/
theorem coreStoreByte_through {offset : Word} {v : Byte} (hram : ¬ e.directRam m.core offset 1 = true)
    (htlb : e.tlbPtr m.core (currentApr m.core offset false false) offset 1 true = none) :
    (e.coreStoreByte offset v).run m =
      (storeThrough (e.vaRegStoreByte m.core offset v) (.regStoreByte e.host.build offset v)
        (.internalRegWrite e.host.build offset false)
        (e.translated offset (currentApr · offset false false)
          (translateVaEx e.host.build · offset true false false)
          (.translate e.host.build offset true false false) () (e.rawStoreBytePhys · v))).run m := by
  unfold Env.coreStoreByte Env.coreStoreByteEx
  rw [Program.run_bind, regs, Program.run_read, Outcome.andThen_done, if_neg hram]
  dsimp only
  rw [htlb]
  rfl

theorem coreStoreByte_psw {offset a : Word} {v : Byte} (hat : e.byteTarget m.core offset = some a)
    (hhit : HitsPsw a m.core) :
    ∃ m', (e.coreStoreByte offset v).run m = .done () m' ∧
      PswStored (withByte m.core.psw a v) m.core m'.core := by
  unfold Env.byteTarget at hat
  split_ifs at hat with hram htlb
  rw [coreStoreByte_through hram (Option.not_isSome_iff_eq_none.1 htlb)]
  exact storeThrough_psw (fun psw a => withByte psw a v) (fun _ => rfl) rfl rfl rfl
    (Regs.exceptMmu_translateVaEx ..) vaRegStoreByte_hidden vaRegStoreByte_psw
    (fun m pa => rawStoreBytePhys_psw v) hat hhit

theorem coreStoreByte_seen (he : e.TrapsAbort) {offset : Word} {v : Byte}
    (hne : ¬ TargetsPsw (e.byteTarget m.core offset) m.core)
    (h : Answers (e.coreStoreByte offset v) m () m') : m'.core.seen = m.core.seen := by
  by_cases hram : e.directRam m.core offset 1 = true
  · obtain ⟨hrun, hclear⟩ := h
    unfold Env.coreStoreByte Env.coreStoreByteEx at hrun
    rw [Program.run_bind, regs, Program.run_read, Outcome.andThen_done, if_pos hram] at hrun
    exact (Quiet.setRamByte _ _).keeps _ _ _ ⟨hrun, hclear⟩
  cases htlb : e.tlbPtr m.core (currentApr m.core offset false false) offset 1 true with
  | some p =>
    obtain ⟨hrun, hclear⟩ := h
    unfold Env.coreStoreByte Env.coreStoreByteEx at hrun
    rw [Program.run_bind, regs, Program.run_read, Outcome.andThen_done, if_neg hram] at hrun
    dsimp only at hrun
    rw [htlb] at hrun
    exact (Quiet.directStore (.setRamByte p v)).keeps _ _ _ ⟨hrun, hclear⟩
  | none =>
    rw [Env.byteTarget, if_neg hram, htlb, Option.isSome_none, if_neg (by decide)] at hne
    obtain ⟨hrun, hclear⟩ := h
    rw [coreStoreByte_through hram htlb] at hrun
    exact storeThrough_seen he (fun _ => rfl) rfl rfl rfl (Regs.exceptMmu_translateVaEx ..)
      vaRegStoreByte_hidden translateVaEx_off seen_regStoreByte
      (fun m m' pa ha hna => rawStoreBytePhys_seen he ha hna) hne ⟨hrun, hclear⟩

/-- `core_store_word_mode_space` once the fast path is out. -/
theorem coreStoreWordModeSpace_through {offset v : Word} {mode : BitVec 2} {dataSpace : Bool}
    (hodd : ¬ (m.core.model = .dcj11 ∧ offset &&& 1 ≠ 0))
    (htlb : e.tlbPtr m.core (modeSpaceApr m.core offset mode dataSpace) offset 2 true = none) :
    (e.coreStoreWordModeSpace offset v mode dataSpace).run m =
      (storeThrough (e.vaRegStoreWord m.core offset v) (.regStoreWord e.host.build offset v)
        (.pdrWritten e.host.build ⟨mode, dataSpace, segOf offset⟩)
        (e.translated offset (modeSpaceApr · offset mode dataSpace)
          (translateVaModeSpace e.host.build · offset true mode dataSpace)
          (.translateModeSpace e.host.build offset true mode dataSpace) ()
          (e.rawStoreWordPhys · v))).run m := by
  unfold Env.coreStoreWordModeSpace
  rw [Program.run_bind, regs, Program.run_read, Outcome.andThen_done, if_neg hodd]
  dsimp only
  rw [htlb]
  rfl

theorem coreStoreWordModeSpace_psw {offset v : Word} {mode : BitVec 2} {dataSpace : Bool}
    (h : TargetsPsw (e.modeTarget m.core offset mode dataSpace) m.core) :
    ∃ m', (e.coreStoreWordModeSpace offset v mode dataSpace).run m = .done () m' ∧
      PswStored v m.core m'.core := by
  obtain ⟨a, hat, hhit⟩ := h
  unfold Env.modeTarget at hat
  split_ifs at hat with hodd htlb
  rw [coreStoreWordModeSpace_through hodd (Option.not_isSome_iff_eq_none.1 htlb)]
  exact storeThrough_psw (fun _ _ => v) (fun _ => rfl) rfl rfl rfl
    (Regs.exceptMmu_translateVaModeSpace ..) vaRegStoreWord_hidden vaRegStoreWord_psw
    (fun m pa => rawStoreWordPhys_psw v) hat hhit

theorem coreStoreWordModeSpace_seen (he : e.TrapsAbort) {offset v : Word} {mode : BitVec 2}
    {dataSpace : Bool} (hne : ¬ TargetsPsw (e.modeTarget m.core offset mode dataSpace) m.core)
    (h : Answers (e.coreStoreWordModeSpace offset v mode dataSpace) m () m') :
    m'.core.seen = m.core.seen := by
  by_cases hodd : m.core.model = .dcj11 ∧ offset &&& 1 ≠ 0
  · have hnever : NeverAnswers e.addressError := addressError_never he
    obtain ⟨hrun, hclear⟩ := h
    unfold Env.coreStoreWordModeSpace at hrun
    rw [Program.run_bind, regs, Program.run_read, Outcome.andThen_done, if_pos hodd] at hrun
    exact absurd ⟨hrun, hclear⟩ (hnever m () m')
  cases htlb : e.tlbPtr m.core (modeSpaceApr m.core offset mode dataSpace) offset 2 true with
  | some p =>
    obtain ⟨hrun, hclear⟩ := h
    unfold Env.coreStoreWordModeSpace at hrun
    rw [Program.run_bind, regs, Program.run_read, Outcome.andThen_done, if_neg hodd] at hrun
    dsimp only at hrun
    rw [htlb] at hrun
    exact (Quiet.directStore (.setRamWord p v)).keeps _ _ _ ⟨hrun, hclear⟩
  | none =>
    rw [Env.modeTarget, if_neg hodd, htlb, Option.isSome_none, if_neg (by decide)] at hne
    obtain ⟨hrun, hclear⟩ := h
    rw [coreStoreWordModeSpace_through hodd htlb] at hrun
    exact storeThrough_seen he (fun _ => rfl) rfl rfl rfl (Regs.exceptMmu_translateVaModeSpace ..)
      vaRegStoreWord_hidden translateVaModeSpace_off seen_regStoreWord
      (fun m m' pa ha hna => rawStoreWordPhys_seen he ha hna) hne ⟨hrun, hclear⟩

end Runs

end K1801.Core
