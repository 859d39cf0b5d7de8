import K1801.Core.InstrEffects
import K1801.Core.TrapEntry

/-! # Accesses that are not refused

A refused access enters a trap and sets the abort flag. So an access after which no abort is
pending has entered no trap, and of the core it has changed the status of memory management only.
-/

namespace K1801.Core

open Library

variable {β α γ κ : Type}

/-! ## Runs without an abort -/

/-- The program leaves its routine or gets stuck. -/
def NeverReturns (p : M β α) : Prop := ∀ m a m', p.run m ≠ .done a m'

namespace NeverReturns

theorem leave : NeverReturns (Program.leave : M β α) := by
  intro m a m' hrun
  cases hrun

theorem bind_right {p : M β α} {q : α → M β γ} (hq : ∀ a, NeverReturns (q a)) :
    NeverReturns (p >>= q) := by
  intro m b m' hrun
  obtain ⟨a, m₁, -, hrest⟩ := Program.bind_done.1 hrun
  exact hq a m₁ b m' hrest

theorem ite {c : Prop} [Decidable c] {p q : M β α} (hp : NeverReturns p) (hq : NeverReturns q) :
    NeverReturns (if c then p else q) := by
  split
  · exact hp
  · exact hq

end NeverReturns

/-- The program never returns without an abort. -/
def NeverAnswers (p : M β α) : Prop := ∀ m a m', ¬ Answers p m a m'

/-- The runs that return without an abort keep what `f` reads. -/
structure Quiet (f : Regs → κ) (p : M β α) : Prop where
  keepsAbort : KeepsAbort p
  keeps : ∀ m a m', Answers p m a m' → f m'.core = f m.core

/-- Without an abort at the end of a sequence there was none in between. -/
theorem answers_bind {p : M β α} {q : α → M β γ} (hq : ∀ a, KeepsAbort (q a)) {m m' : Machine β}
    {b : γ} :
    Answers (p >>= q) m b m' ↔ ∃ a m₁, Answers p m a m₁ ∧ Answers (q a) m₁ b m' := by
  constructor
  · rintro ⟨hrun, hclear⟩
    obtain ⟨a, m₁, hp, hrest⟩ := Program.bind_done.1 hrun
    have hanswers : Answers (q a) m₁ b m' := ⟨hrest, hclear⟩
    exact ⟨a, m₁, ⟨hp, hanswers.clear_before (hq a)⟩, hanswers⟩
  · rintro ⟨a, m₁, hp, hrest⟩
    exact ⟨Program.bind_done.2 ⟨a, m₁, hp.1, hrest.1⟩, hrest.2⟩

theorem leaveIfAborted_clear {m : Machine β} (h : m.core.fAbort = false) :
    (Env.leaveIfAborted : M β Unit).run m = .done () m := by
  simp [Env.leaveIfAborted, aborted, h]

theorem leaveIfAborted_done {m m' : Machine β} (h : (Env.leaveIfAborted : M β Unit).run m = .done () m') :
    m' = m ∧ m.core.fAbort = false := by
  cases hflag : m.core.fAbort with
  | false =>
    rw [leaveIfAborted_clear hflag] at h
    cases h
    exact ⟨rfl, rfl⟩
  | true =>
    simp [Env.leaveIfAborted, aborted, hflag] at h

namespace NeverAnswers

theorem fail (e : Stuck) : NeverAnswers (Program.fail e : M β α) := by
  rintro m a m' ⟨hrun, -⟩
  cases hrun

theorem leave : NeverAnswers (Program.leave : M β α) := by
  rintro m a m' ⟨hrun, -⟩
  cases hrun

theorem bind_left {p : M β α} {q : α → M β γ} (hp : NeverAnswers p) (hq : ∀ a, KeepsAbort (q a)) :
    NeverAnswers (p >>= q) := by
  intro m b m' h
  obtain ⟨a, m₁, hfirst, -⟩ := (answers_bind hq).1 h
  exact hp m a m₁ hfirst

theorem bind_right {p : M β α} {q : α → M β γ} (hq : ∀ a, NeverAnswers (q a)) :
    NeverAnswers (p >>= q) := by
  rintro m b m' ⟨hrun, hclear⟩
  obtain ⟨a, m₁, -, hrest⟩ := Program.bind_done.1 hrun
  exact hq a m₁ b m' ⟨hrest, hclear⟩

theorem ite {c : Prop} [Decidable c] {p q : M β α} (hp : NeverAnswers p) (hq : NeverAnswers q) :
    NeverAnswers (if c then p else q) := by
  split
  · exact hp
  · exact hq

theorem setAbort : NeverAnswers (perform (.setAbort true) : M β Unit) := by
  rintro m a m' ⟨hrun, hclear⟩
  rw [run_perform_enabled rfl] at hrun
  cases hrun
  cases hclear

/-- Behind a test of the abort flag. -/
theorem guard {x y : M β α} (hx : KeepsAbort x) (hy : NeverAnswers y) :
    NeverAnswers (do if ← aborted then x else y : M β α) := by
  rintro m b m' ⟨hrun, hclear⟩
  simp only [aborted, Program.run_bind, Program.run_read, Outcome.andThen_done, Program.run_ite] at hrun
  split at hrun
  · rename_i hset
    have hanswers : Answers x m b m' := ⟨hrun, hclear⟩
    rw [hanswers.clear_before hx] at hset
    cases hset
  · exact hy m b m' ⟨hrun, hclear⟩

end NeverAnswers

namespace Quiet

variable {f : Regs → κ}

theorem of_never {p : M β α} (hk : KeepsAbort p) (h : NeverAnswers p) : Quiet f p :=
  ⟨hk, fun m a m' ha => absurd ha (h m a m')⟩

theorem pure (a : α) : Quiet f (Pure.pure a : M β α) := by
  refine ⟨.pure a, ?_⟩
  rintro m b m' ⟨hrun, -⟩
  cases hrun
  rfl

theorem read (g : Machine β → α) : Quiet f (Program.read g : M β α) := by
  refine ⟨.read g, ?_⟩
  rintro m b m' ⟨hrun, -⟩
  cases hrun
  rfl

theorem onBus (g : Regs → β → α × β) : Quiet f (Program.onBus g : M β α) := by
  refine ⟨.onBus g, ?_⟩
  rintro m b m' ⟨hrun, -⟩
  cases hrun
  rfl

theorem perform {op : Micro} (hop : op ≠ .setAbort false) (hkeep : ∀ r, f (op.apply r) = f r) :
    Quiet f (Core.perform op : M β Unit) := by
  refine ⟨.perform hop, ?_⟩
  rintro m b m' ⟨hrun, -⟩
  unfold Core.perform at hrun
  rw [Program.run_perform] at hrun
  split at hrun
  · cases hrun
    exact hkeep _
  · cases hrun
    rfl

theorem bind {p : M β α} {q : α → M β γ} (hp : Quiet f p) (hq : ∀ a, Quiet f (q a)) :
    Quiet f (p >>= q) := by
  refine ⟨hp.keepsAbort.bind fun a => (hq a).keepsAbort, ?_⟩
  intro m b m' h
  obtain ⟨a, m₁, hfirst, hrest⟩ := (answers_bind fun a => (hq a).keepsAbort).1 h
  exact ((hq a).keeps m₁ b m' hrest).trans (hp.keeps m a m₁ hfirst)

theorem ite {c : Prop} [Decidable c] {p q : M β α} (hp : Quiet f p) (hq : Quiet f q) :
    Quiet f (if c then p else q) := by
  split
  · exact hp
  · exact hq

theorem when {c : Prop} [Decidable c] {p : M β Unit} (hp : Quiet f p) :
    Quiet f (Program.when c p) := ite hp (pure ())

/-- What depends on `f` only is kept too. -/
theorem comp {p : M β α} {δ : Type} {g : Regs → δ} (h : Quiet f p)
    (hg : ∀ r r', f r' = f r → g r' = g r) : Quiet g p :=
  ⟨h.keepsAbort, fun m a m' ha => hg _ _ (h.keeps m a m' ha)⟩

end Quiet

/-! ## Traps -/

/-- A red stack abort is taken or not; taken, it leaves an abort behind. -/
theorem redStack_answers {e : Env β} {m m' : Machine β}
    {taken : Bool} (h : Answers e.dcj11TakeRedStackAbort m taken m') : taken = false ∧ m' = m := by
  have hpure : KeepsAbort (pure true : M β Bool) := .pure true
  have htail (pc psw : Word) : NeverAnswers (do
      perform (.redStackRestore pc psw)
      let vectorPsw ← e.rawLoadWordPhys 6
      if ← aborted then return true
      perform (.enterVector 4 psw vectorPsw)
      perform .emergencyStack
      setR 6 ((← getR 6) - 2)
      e.rawStoreWordPhys ((← getR 6).setWidth 32) psw
      if ← aborted then return true
      setR 6 ((← getR 6) - 2)
      e.rawStoreWordPhys ((← getR 6).setWidth 32) pc
      if ← aborted then return true
      let newPc ← e.rawLoadWordPhys 4
      Program.when (!(← aborted)) (setR 7 newPc)
      perform (.setAbort true)
      return true : M β Bool) := by
    refine .bind_right fun _ => .bind_right fun _ => .guard hpure ?_
    refine .bind_right fun _ => .bind_right fun _ => .bind_right fun _ => .bind_right fun _ => ?_
    refine .bind_right fun _ => .bind_right fun _ => .guard hpure ?_
    refine .bind_right fun _ => .bind_right fun _ => .bind_right fun _ => .bind_right fun _ => .guard hpure ?_
    refine .bind_right fun _ => .bind_right fun _ => .bind_right fun _ => ?_
    exact .bind_left .setAbort fun _ => hpure
  unfold Env.dcj11TakeRedStackAbort at h
  obtain ⟨hrun, hclear⟩ := h
  obtain ⟨r, m₁, hread, hrun⟩ := Program.bind_done.1 hrun
  cases hread
  rw [Program.run_ite] at hrun
  split at hrun
  · cases hrun
    exact ⟨rfl, rfl⟩
  · exact absurd (And.intro hrun hclear) (htail _ _ m taken m')

/-- What a trap does after the red stack abort was not taken. -/
theorem never_after_redStack {e : Env β} {k : M β Unit} (hk : NeverAnswers k) :
    NeverAnswers (do if ← e.dcj11TakeRedStackAbort then return else k : M β Unit) := by
  rintro m b m' ⟨hrun, hclear⟩
  obtain ⟨taken, m₁, hred, hrest⟩ := Program.bind_done.1 hrun
  cases taken with
  | true =>
    cases hrest
    exact absurd (redStack_answers ⟨hred, hclear⟩).1 (by decide)
  | false => exact hk m₁ b m' ⟨hrest, hclear⟩

theorem busError_never (e : Env β) : NeverAnswers e.busError := by
  unfold Env.busError
  refine .bind_right fun r => never_after_redStack ?_
  exact .bind_right fun _ => .bind_right fun _ => .setAbort

theorem mmuAbort_never (e : Env β) (va pc : Word) (fault : MmuFault) (apr : Apr) :
    NeverAnswers (e.mmuAbort va pc fault apr) := by
  unfold Env.mmuAbort
  refine .bind_right fun r => never_after_redStack ?_
  exact .bind_right fun _ => .bind_right fun _ => .setAbort

/-- The operations that record the use of a page. -/
def Micro.isStatus : Micro → Bool
  | noteAccess _ _ | translate _ _ _ _ _ | translateModeSpace _ _ _ _ _ => true
  | _ => false

theorem Micro.exceptMmu_status {op : Micro} (hop : op.isStatus = true) (r : Regs) :
    (op.apply r).exceptMmu = r.exceptMmu := by
  cases op with
  | noteAccess | translate | translateModeSpace => simp [apply]
  | _ => cases hop

namespace Env

/-- The traps of the environment leave an abort behind, and only a step clears it. -/
structure TrapsAbort (e : Env β) : Prop where
  within : e.Within (· ≠ .setAbort false) fun _ _ => True
  busErrorTrap : NeverAnswers e.busErrorTrap
  mmuFaultTrap : ∀ va pc fault apr, NeverAnswers (e.mmuFaultTrap va pc fault apr)

theorem nested_trapsAbort (h : Host β) (n : Nat) : (nested h n).TrapsAbort := by
  have hwithin := nested_keepsAbort h n
  cases n with
  | zero => exact ⟨hwithin, .fail _, fun _ _ _ _ => .fail _⟩
  | succ n => exact ⟨hwithin, busError_never _, fun va pc fault apr => mmuAbort_never _ va pc fault apr⟩

end Env

/-! ## Loads -/

namespace Quiet

variable {e : Env β}

theorem regs {f : Regs → κ} : Quiet f (Core.regs : M β Regs) := .read _

theorem aborted {f : Regs → κ} : Quiet f (Core.aborted : M β Bool) := .read _

theorem getR {f : Regs → κ} (i : BitVec 3) : Quiet f (Core.getR i : M β Word) := .read _

theorem callback {f : Regs → κ} (he : e.TrapsAbort) (g : Regs → β → Reply β α) : Quiet f (e.callback g) := by
  unfold Env.callback
  refine .bind (.onBus _) fun (value, nxm) => ?_
  cases nxm with
  | none => exact .pure _
  | some bits =>
    refine .of_never ?_ ?_
    · exact (he.within.nxmTrap _).bind fun _ => .pure _
    · exact .bind_left (.bind_right fun _ => he.busErrorTrap) fun _ => .pure _

theorem addressError {f : Regs → κ} (he : e.TrapsAbort) : Quiet f e.addressError :=
  .of_never he.within.addressError (.bind_right fun _ => he.busErrorTrap)

theorem status {op : Micro} (hop : op.isStatus = true) :
    Quiet Regs.exceptMmu (Core.perform op : M β Unit) := by
  refine .perform ?_ (Micro.exceptMmu_status hop)
  rintro rfl
  cases hop

theorem translated (he : e.TrapsAbort) {va : Word} {apr : Regs → Apr}
    {tr : Regs → Except MmuFault Dword × Regs} {op : Micro} (hop : op.isStatus = true) {refused : α}
    {k : Dword → M β α} (hk : ∀ pa, Quiet Regs.exceptMmu (k pa)) :
    Quiet Regs.exceptMmu (e.translated va apr tr op refused k) := by
  unfold Env.translated
  refine .bind .regs fun r => .bind (status hop) fun _ => ?_
  split
  · exact hk _
  · refine .of_never ?_ ?_
    · exact (he.within.mmuFault _ _ _).bind fun _ => .pure _
    · refine .bind_left (.bind_right fun _ => he.mmuFaultTrap _ _ _ _) fun _ => .pure _

theorem ramWord {f : Regs → κ} (i : Nat) : Quiet f (e.ramWord i) :=
  .bind (.read _) fun _ => .bind (.read _) fun _ => .pure _

theorem rawLoadWordPhys {f : Regs → κ} (he : e.TrapsAbort) (pa : Dword) : Quiet f (e.rawLoadWordPhys pa) := by
  unfold Env.rawLoadWordPhys
  refine .bind .regs fun r => ?_
  split
  · exact .pure _
  · refine .ite (callback he _) ?_
    split
    · exact callback he _
    · exact callback he _

theorem rawLoadBytePhys {f : Regs → κ} (he : e.TrapsAbort) (pa : Dword) : Quiet f (e.rawLoadBytePhys pa) := by
  unfold Env.rawLoadBytePhys
  refine .bind .regs fun r => ?_
  split
  · exact .pure _
  · refine .ite (callback he _) ?_
    split
    · exact callback he _
    · exact callback he _

theorem loadWordAt {f : Regs → κ} (he : e.TrapsAbort) (isIfetch : Bool) (pa : Dword) :
    Quiet f (e.loadWordAt isIfetch pa) := by
  unfold Env.loadWordAt
  refine .bind .regs fun r => ?_
  split
  · refine .ite (.bind (addressError he) fun _ => .pure _) (rawLoadWordPhys he pa)
  · exact rawLoadWordPhys he pa

theorem coreLoadWordEx (he : e.TrapsAbort) (offset : Word) (isIfetch fk : Bool) :
    Quiet Regs.exceptMmu (e.coreLoadWordEx offset isIfetch fk) := by
  unfold Env.coreLoadWordEx
  dsimp only
  refine .bind .regs fun r => .ite (.bind (addressError he) fun _ => .pure _) <| .ite (ramWord _) ?_
  split
  · exact .bind (status rfl) fun _ => ramWord _
  · split
    · exact .ite (.bind (addressError he) fun _ => .pure _) (.pure _)
    · exact translated he rfl fun pa => loadWordAt he isIfetch pa

theorem coreLoadByteEx (he : e.TrapsAbort) (offset : Word) (isIfetch fk : Bool) :
    Quiet Regs.exceptMmu (e.coreLoadByteEx offset isIfetch fk) := by
  unfold Env.coreLoadByteEx
  dsimp only
  refine .bind .regs fun r => .ite (.read _) ?_
  split
  · exact .bind (status rfl) fun _ => .read _
  · split
    · exact .pure _
    · exact translated he rfl fun pa => rawLoadBytePhys he pa

theorem coreLoadWordModeSpace (he : e.TrapsAbort) (offset : Word) (mode : BitVec 2) (ds : Bool) :
    Quiet Regs.exceptMmu (e.coreLoadWordModeSpace offset mode ds) := by
  unfold Env.coreLoadWordModeSpace
  dsimp only
  refine .bind .regs fun r => .ite (.bind (addressError he) fun _ => .pure _) ?_
  split
  · exact .bind (status rfl) fun _ => ramWord _
  · split
    · exact .pure _
    · exact translated he rfl fun pa => rawLoadWordPhys he pa

theorem getDataWord (he : e.TrapsAbort) (o : Operand) : Quiet Regs.exceptMmu (e.getDataWord o) := by
  unfold Env.getDataWord
  split
  · exact .getR _
  · exact coreLoadWordEx he _ _ _
  · exact coreLoadWordEx he _ _ _

theorem getDataByte (he : e.TrapsAbort) (o : Operand) : Quiet Regs.exceptMmu (e.getDataByte o) := by
  unfold Env.getDataByte
  split
  · exact .bind (.getR _) fun _ => .pure _
  · exact coreLoadByteEx he _ _ _
  · exact coreLoadByteEx he _ _ _

end Quiet

/-! ## Operands -/

/-- Everything that decoding an operand leaves alone. -/
def Regs.exceptOperand (r : Regs) : Regs :=
  { r with r := fun _ => 0, mmu := {}, j11Cpuerr := 0, dcj11YellowPending := false }

theorem Regs.exceptOperand_of_exceptMmu {r r' : Regs} (h : r'.exceptMmu = r.exceptMmu) :
    r'.exceptOperand = r.exceptOperand :=
  congrArg (fun r => r.exceptOperand) h

/-- The operations of an operand decode besides its loads. -/
def Micro.isDecode : Micro → Bool
  | ifetch _ | setR _ _ | recordDelta _ _ _ | stackReference _ => true
  | _ => false

theorem Micro.exceptOperand_decode {op : Micro} (hop : op.isDecode = true) (r : Regs) :
    (op.apply r).exceptOperand = r.exceptOperand := by
  cases op with
  | ifetch | setR => rfl
  | recordDelta b reg d =>
    exact Regs.exceptOperand_of_exceptMmu (Regs.exceptMmu_mmuMmr1RecordDelta b reg d r)
  | stackReference addr =>
    simp only [apply]
    unfold Regs.dcj11NoteStackReference Regs.dcj11SetCpuerr
    dsimp only
    repeat' (first | rfl | split)
  | _ => cases hop

namespace Quiet

variable {e : Env β}

theorem decode {op : Micro} (hop : op.isDecode = true) :
    Quiet Regs.exceptOperand (Core.perform op : M β Unit) := by
  refine .perform ?_ (Micro.exceptOperand_decode hop)
  rintro rfl
  cases hop

theorem load {p : M β α} (h : Quiet Regs.exceptMmu p) : Quiet Regs.exceptOperand p :=
  h.comp fun _ _ => Regs.exceptOperand_of_exceptMmu

theorem pointer {p : M β Word} (h : Quiet Regs.exceptMmu p) : Quiet Regs.exceptOperand (Env.pointer p) :=
  .bind h.load fun _ => .bind .aborted fun _ => .ite (.pure _) (.pure _)

theorem autoincrement (reg : BitVec 3) (step : Word) :
    Quiet Regs.exceptOperand (e.autoincrement reg step) :=
  .bind (.getR _) fun _ => .bind (.when (decode rfl)) fun _ => .bind (decode rfl) fun _ =>
    .bind (decode rfl) fun _ => .pure _

theorem autodecrement (reg : BitVec 3) (step : Word) :
    Quiet Regs.exceptOperand (e.autodecrement reg step) :=
  .bind (.getR _) fun _ => .bind (decode rfl) fun _ => .bind (decode rfl) fun _ =>
    .bind (.when (decode rfl)) fun _ => .pure _

theorem indexWord (he : e.TrapsAbort) : Quiet Regs.exceptOperand e.indexWord := by
  unfold Env.indexWord
  refine .bind (.getR _) fun pc => .bind (coreLoadWordEx he _ _ _).load fun _ => .bind .aborted fun _ => ?_
  refine .ite (.pure _) <| .bind (decode rfl) fun _ => .bind (.getR _) fun _ => ?_
  exact .bind (decode rfl) fun _ => .bind (decode rfl) fun _ => .pure _

theorem decodeData (he : e.TrapsAbort) (data : Word) (t : DataType) :
    Quiet Regs.exceptOperand (e.decodeData data t) := by
  unfold Env.decodeData
  dsimp only
  refine .bind .aborted fun _ => .ite (.pure _) ?_
  split
  · exact .pure _
  · exact .bind (.getR _) fun _ => .pure _
  · exact .bind (autoincrement _ _) fun _ => .pure _
  · refine .bind (autoincrement _ _) fun _ => pointer ?_
    exact .ite (coreLoadWordEx he _ _ _) (coreLoadWordEx he _ _ _)
  · exact .bind (autodecrement _ _) fun _ => .pure _
  · exact .bind (autodecrement _ _) fun _ => pointer (coreLoadWordEx he _ _ _)
  · refine .bind (indexWord he) fun tmp => ?_
    split
    · exact .pure _
    · exact .bind (.getR _) fun _ => .pure _
  · refine .bind (indexWord he) fun tmp => ?_
    split
    · exact .pure _
    · exact .bind (.getR _) fun _ => pointer (coreLoadWordEx he _ _ _)

theorem operand (he : e.TrapsAbort) (data : Word) (t : DataType) :
    Quiet Regs.exceptOperand (e.operand data t) := by
  unfold Env.operand
  refine .bind (decodeData he data t) fun o => ?_
  split
  · exact .pure _
  · exact .of_never (.leave fun _ => trivial) .leave

end Quiet

/-- The general registers after an operand is decoded: its register stepped, or the PC moved past an
    index word. -/
def operandStepped (data : Word) (t : DataType) (r : BitVec 3 → Word) : BitVec 3 → Word :=
  let reg : BitVec 3 := data.setWidth 3
  let mode : BitVec 3 := (data >>> 3).setWidth 3
  let step := operandStep reg mode t
  match mode with
  | 0 | 1 => r
  | 2 | 3 => Function.update r reg (r reg + step)
  | 4 | 5 => Function.update r reg (r reg - step)
  | 6 | 7 => Function.update r 7 (r 7 + 2)

section Stepped

variable {e : Env β}

/-- The abort-free runs of the program change the general registers by `g`. -/
structure RegSteps (g : (BitVec 3 → Word) → BitVec 3 → Word) (p : M β α) : Prop where
  keepsAbort : KeepsAbort p
  steps : ∀ m a m', Answers p m a m' → m'.core.r = g m.core.r

namespace RegSteps

variable {g g' : (BitVec 3 → Word) → BitVec 3 → Word}

theorem of_quiet {p : M β α} (h : Quiet Regs.exceptMmu p) : RegSteps id p :=
  ⟨h.keepsAbort, fun m a m' ha => congrArg (fun r => r.r) (h.keeps m a m' ha)⟩

theorem of_never {p : M β α} (hk : KeepsAbort p) (h : NeverAnswers p) : RegSteps g p :=
  ⟨hk, fun m a m' ha => absurd ha (h m a m')⟩

theorem pure (a : α) : RegSteps id (Pure.pure a : M β α) := of_quiet (.pure a)

theorem read (f : Machine β → α) : RegSteps id (Program.read f : M β α) := of_quiet (.read f)

theorem bind {p : M β α} {q : α → M β γ} (hp : RegSteps g p) (hq : ∀ a, RegSteps g' (q a)) :
    RegSteps (g' ∘ g) (p >>= q) := by
  refine ⟨hp.keepsAbort.bind fun a => (hq a).keepsAbort, ?_⟩
  intro m b m' h
  obtain ⟨a, m₁, hfirst, hrest⟩ := (answers_bind fun a => (hq a).keepsAbort).1 h
  rw [(hq a).steps m₁ b m' hrest, hp.steps m a m₁ hfirst]
  rfl

theorem guard {x y : M β α} (hx : KeepsAbort x) (hy : RegSteps g y) :
    RegSteps g (do if ← Core.aborted then x else y : M β α) := by
  refine ⟨.bind (.read _) fun _ => .ite hx hy.keepsAbort, ?_⟩
  rintro m b m' ⟨hrun, hclear⟩
  simp only [Core.aborted, Program.run_bind, Program.run_read, Outcome.andThen_done,
    Program.run_ite] at hrun
  split at hrun
  · rename_i hset
    have hanswers : Answers x m b m' := ⟨hrun, hclear⟩
    rw [hanswers.clear_before hx] at hset
    cases hset
  · exact hy.steps m b m' ⟨hrun, hclear⟩

theorem recordDelta_r (b : Build) (reg : BitVec 3) (d : Word) (r : Regs) :
    ((Micro.recordDelta b reg d).apply r).r = r.r :=
  congrArg (fun r => r.r) (Regs.exceptMmu_mmuMmr1RecordDelta b reg d r)

theorem autoincrement (reg : BitVec 3) (step : Word) :
    RegSteps (fun r => Function.update r reg (r reg + step)) (e.autoincrement reg step) := by
  refine ⟨(Quiet.autoincrement reg step).keepsAbort, ?_⟩
  rintro m v m' ⟨hrun, -⟩
  unfold Env.autoincrement at hrun
  rw [Program.run_bind, getR_run, Outcome.andThen_done, Program.run_bind, Program.run_when] at hrun
  split at hrun
  · cases hrun
    exact recordDelta_r _ _ _ _
  · cases hrun
    exact recordDelta_r _ _ _ _

theorem stackReference_r (addr : Word) (r : Regs) : (r.dcj11NoteStackReference addr).r = r.r := by
  unfold Regs.dcj11NoteStackReference Regs.dcj11SetCpuerr
  dsimp only
  repeat' (first | rfl | split)

theorem autodecrement (reg : BitVec 3) (step : Word) :
    RegSteps (fun r => Function.update r reg (r reg - step)) (e.autodecrement reg step) := by
  refine ⟨(Quiet.autodecrement reg step).keepsAbort, ?_⟩
  rintro m v m' ⟨hrun, -⟩
  unfold Env.autodecrement at hrun
  obtain ⟨v₀, m₀, hget, hrun⟩ := Program.bind_done.1 hrun
  cases hget
  obtain ⟨⟨⟩, m₁, hset, hrun⟩ := Program.bind_done.1 hrun
  cases hset
  obtain ⟨⟨⟩, m₂, hrec, hrun⟩ := Program.bind_done.1 hrun
  cases hrec
  obtain ⟨⟨⟩, m₃, hnote, hrun⟩ := Program.bind_done.1 hrun
  cases hrun
  rw [Program.run_when] at hnote
  split at hnote
  · cases hnote
    exact (stackReference_r _ _).trans (recordDelta_r _ _ _ _)
  · cases hnote
    exact recordDelta_r _ _ _ _

theorem pointer {p : M β Word} (h : Quiet Regs.exceptMmu p) : RegSteps id (Env.pointer p) :=
  (of_quiet h).bind fun _ => .guard (.pure _) (.pure _)

theorem indexWord (he : e.TrapsAbort) :
    RegSteps (fun r => Function.update r 7 (r 7 + 2)) e.indexWord := by
  have hpast (pc tmp : Word) : RegSteps (fun r => Function.update r 7 (r 7 + 2)) (do
      perform (.ifetch pc)
      setR 7 ((← getR 7) + 2)
      e.recordDelta 7 2
      return some tmp : M β (Option Word)) := by
    refine ⟨?_, ?_⟩
    · exact .bind (.perform nofun) fun _ => .bind (.read _) fun _ => .bind (.perform nofun) fun _ =>
        .bind (.perform nofun) fun _ => .pure _
    · rintro m o m' ⟨hrun, -⟩
      cases hrun
      exact recordDelta_r e.host.build 7 2 _
  exact (read _).bind fun pc => (of_quiet (.coreLoadWordEx he _ _ _)).bind fun tmp =>
    .guard (.pure _) (hpast pc tmp)

/-- What follows an index word, when there is one. -/
theorem indexed {k : Word → M β (Option Operand)} (hk : ∀ tmp, RegSteps id (k tmp)) (tmp : Option Word) :
    RegSteps id (match tmp with
      | none => Pure.pure none
      | some tmp => k tmp) := by
  cases tmp with
  | none => exact pure _
  | some tmp => exact hk tmp

theorem decodeData (he : e.TrapsAbort) (data : Word) (t : DataType) :
    RegSteps (operandStepped data t) (e.decodeData data t) := by
  unfold Env.decodeData operandStepped
  dsimp only
  generalize (data >>> 3).setWidth 3 = mode
  refine .guard (.pure _) ?_
  split
  · exact pure _
  · exact (read _).bind fun _ => pure _
  · exact (autoincrement _ _).bind fun _ => pure _
  · refine (autoincrement _ _).bind fun _ => pointer ?_
    exact .ite (.coreLoadWordEx he _ _ _) (.coreLoadWordEx he _ _ _)
  · exact (autodecrement _ _).bind fun _ => pure _
  · exact (autodecrement _ _).bind fun _ => pointer (.coreLoadWordEx he _ _ _)
  · exact (indexWord he).bind (indexed fun _ => (read _).bind fun _ => pure _)
  · exact (indexWord he).bind (indexed fun _ =>
      (read _).bind fun _ => pointer (.coreLoadWordEx he _ _ _))

theorem operand (he : e.TrapsAbort) (data : Word) (t : DataType) :
    RegSteps (operandStepped data t) (e.operand data t) := by
  have hsteps : RegSteps (id ∘ operandStepped data t) (e.operand data t) := by
    refine (decodeData he data t).bind fun o => ?_
    cases o with
    | some o => exact pure o
    | none => exact of_never (.leave fun _ => trivial) .leave
  exact hsteps

end RegSteps

end Stepped

end K1801.Core
