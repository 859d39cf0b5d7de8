import K1801.Core.OperandRefusal

/-! # Refused operands of instructions

Most instructions leave the step at the first access that is refused, having only stepped the registers
of the operands decoded so far.
-/

namespace K1801.Core

open Library

variable {β α γ : Type}

/-- The instruction leaves the step at a refused access, with the core in one of these states but for its
    status. -/
def QuitsIn (L : List Regs) (_ : Trap) (m₀ : Machine β) (tail : Routine β α) : Prop :=
  m₀.core.sansStatus ∈ L ∧ Quits tail

/-- The instruction ends or leaves the step at a refused access. -/
abbrev QuittingIn (L : List Regs) (F : Routine β α) (m : Machine β) : Prop :=
  Program.Settles F m (fun _ _ => True) (QuitsIn L)

section Quitting

variable {h : Host β} {s : Regs} {m : Machine β} {L : List Regs} {t : DataType}

theorem Settles.thenQuits {F : Routine β α} {G : α → Routine β γ} {ret : α → Machine β → Prop}
    {ret' : γ → Machine β → Prop} (hF : Program.Settles F m ret (QuitsIn L))
    (hG : ∀ a m', ret a m' → Program.Settles (G a) m' ret' (QuitsIn L)) :
    Program.Settles (fun traps => do let a ← F traps; G a traps) m ret' (QuitsIn L) :=
  hF.bind hG fun _ _ _ ⟨hin, hquits⟩ => ⟨hin, hquits.bind _⟩

theorem operand_in (data : Word) (hclear : s.fAbort = false) (hs : s ∈ L)
    (heffect : operandEffect h.build data t s ∈ L) (hm : m.core.sansStatus = s) :
    Program.Settles (fun traps => (Env.answering h traps).operand data t) m
      (fun _ m' => m'.core.sansStatus = operandEffect h.build data t s) (QuitsIn L) := by
  refine (operand_settles data t hclear hm).mono (fun _ _ => id) ?_
  rintro _ m₀ tail ⟨hm₀ | hm₀, hquits⟩
  · exact ⟨hm₀ ▸ hs, hquits⟩
  · exact ⟨hm₀ ▸ heffect, hquits⟩

theorem QuitsAt.quitsIn (hs : s ∈ L) {t : Trap} {m₀ : Machine β} {tail : Routine β α} (hat : QuitsAt s t m₀ tail) :
    QuitsIn L t m₀ tail :=
  ⟨hat.1 ▸ hs, hat.2⟩

theorem getData_in (o : Operand) (hclear : s.fAbort = false) (hs : s ∈ L) (hm : m.core.sansStatus = s) :
    Program.Settles (fun traps => (Env.answering h traps).getData t o) m
      (fun _ m' => m'.core.sansStatus = s) (QuitsIn L) := by
  cases t with
  | word => exact (getWord_settles o hclear hm).mono (fun _ _ => id) fun _ _ _ => QuitsAt.quitsIn hs
  | byte =>
    refine Settles.thenQuits ?_ fun v m' hm' => .pure _ hm'
    exact (getByte_settles o hclear hm).mono (fun _ _ => id) fun _ _ _ => QuitsAt.quitsIn hs

theorem putData_in (o : Operand) (v : Word) (hclear : s.fAbort = false) (hs : s ∈ L) (hm : m.core.sansStatus = s) :
    QuittingIn L (fun traps => (Env.answering h traps).putData t o v) m := by
  cases t with
  | word => exact (putWord_settles o v hclear hm).mono (fun _ _ _ => trivial) fun _ _ _ => QuitsAt.quitsIn hs
  | byte => exact (putByte_settles o _ hclear hm).mono (fun _ _ _ => trivial) fun _ _ _ => QuitsAt.quitsIn hs

theorem putByteMovb_in (o : Operand) (v : Byte) (hclear : s.fAbort = false) (hs : s ∈ L)
    (hm : m.core.sansStatus = s) : QuittingIn L (fun traps => (Env.answering h traps).putByteMovb o v) m :=
  (putByteMovb_settles o v hclear hm).mono (fun _ _ _ => trivial) fun _ _ _ => QuitsAt.quitsIn hs

/-- A result: its value stored, its condition codes set. -/
theorem result_in (o : Operand) (v : Word) (t' : DataType) (res : AluResult) (hclear : s.fAbort = false) (hs : s ∈ L)
    (hm : m.core.sansStatus = s) :
    QuittingIn L (fun traps => do (Env.answering h traps).putData t o v; Env.setResult t' res) m :=
  Settles.thenQuits (putData_in o v hclear hs hm) fun _ _ _ => .returns (fun _ => run_perform_enabled rfl) trivial

/-- The states of an instruction with one operand. -/
def oneOperand (b : Build) (data : Word) (t : DataType) (s : Regs) : List Regs := [s, operandEffect b data t s]

theorem single_quits (o : SingleOp) (dd : Word) (hclear : s.fAbort = false) (hm : m.core.sansStatus = s) :
    QuittingIn (oneOperand h.build dd t s) (fun traps => (Env.answering h traps).single o t dd) m := by
  have hafter := (fAbort_operandEffect h.build dd t s).trans hclear
  unfold Env.single
  refine Settles.thenQuits (operand_in dd hclear (.head _) (.tail _ (.head _)) hm) fun dst m₁ hm₁ => ?_
  split
  · exact result_in dst 0 t _ hafter (.tail _ (.head _)) hm₁
  · refine Settles.thenQuits (getData_in dst hafter (.tail _ (.head _)) hm₁) fun v m₂ hm₂ => ?_
    exact .returns (fun _ => run_perform_enabled rfl) trivial
  · refine Settles.thenQuits (getData_in dst hafter (.tail _ (.head _)) hm₁) fun v m₂ hm₂ => ?_
    refine .step rfl ?_
    exact result_in dst _ t _ hafter (.tail _ (.head _)) hm₂

theorem operandEffect_register (b : Build) {data : Word} (hmode : Env.isRegisterMode data = true) (t : DataType)
    (s : Regs) : operandEffect b data t s = s := by
  have hzero : (data >>> 3).setWidth 3 = (0 : BitVec 3) := by
    have hmask : data &&& 0o70 = 0 := of_decide_eq_true hmode
    have hshift := congrArg (fun x : Word => (x >>> 3).setWidth 3) hmask
    rw [BitVec.ushiftRight_and_distrib, BitVec.setWidth_and] at hshift
    change (data >>> 3).setWidth 3 &&& BitVec.allOnes 3 = 0 at hshift
    rwa [BitVec.and_allOnes] at hshift
  unfold operandEffect
  rw [hzero]
  rfl

theorem registerSourceLast_mode {r : Regs} {ss dd : Word} (hlast : Env.registerSourceLast r ss dd = true) :
    Env.isRegisterMode ss = true := by
  unfold Env.registerSourceLast at hlast
  simp only [Bool.and_eq_true] at hlast
  exact hlast.1.2

/-- The states of an instruction with a source and a destination. -/
def twoOperands (b : Build) (ss dd : Word) (t : DataType) (s : Regs) : List Regs :=
  [s, operandEffect b ss t s, operandEffect b dd t (operandEffect b ss t s)]

theorem sourceAndDst_quits (ss dd : Word) (hclear : s.fAbort = false) (hm : m.core.sansStatus = s) :
    Program.Settles (fun traps => (Env.answering h traps).sourceAndDst t ss dd) m
      (fun _ m' => m'.core.sansStatus = operandEffect h.build dd t (operandEffect h.build ss t s))
      (QuitsIn (twoOperands h.build ss dd t s)) := by
  have hsrc := (fAbort_operandEffect h.build ss t s).trans hclear
  have hdst := (fAbort_operandEffect h.build dd t (operandEffect h.build ss t s)).trans hsrc
  unfold Env.sourceAndDst
  refine .step rfl ?_
  cases hlast : Env.registerSourceLast m.core ss dd with
  | true =>
    have hsame := operandEffect_register h.build (registerSourceLast_mode hlast) t s
    simp only [if_true]
    rw [hsame] at hdst
    rw [twoOperands, hsame]
    refine Settles.thenQuits (operand_in dd hclear (.head _) (.tail _ (.tail _ (.head _))) hm) fun dst m₁ hm₁ => ?_
    refine Settles.thenQuits (getData_in dst hdst (.tail _ (.tail _ (.head _))) hm₁) fun v m₂ hm₂ => ?_
    exact .step rfl (.pure _ hm₂)
  | false =>
    simp only [Bool.false_eq_true, if_false]
    refine Settles.thenQuits (operand_in ss hclear (.head _) (.tail _ (.head _)) hm) fun src m₁ hm₁ => ?_
    refine Settles.thenQuits (getData_in src hsrc (.tail _ (.head _)) hm₁) fun v m₂ hm₂ => ?_
    refine Settles.thenQuits (operand_in dd hsrc (.tail _ (.head _)) (.tail _ (.tail _ (.head _))) hm₂)
      fun dst m₃ hm₃ => ?_
    refine Settles.thenQuits (getData_in dst hdst (.tail _ (.tail _ (.head _))) hm₃) fun v' m₄ hm₄ => ?_
    exact .pure _ hm₄

theorem mov_quits (ss dd : Word) (hclear : s.fAbort = false) (hm : m.core.sansStatus = s) :
    QuittingIn (twoOperands h.build ss dd t s) (fun traps => (Env.answering h traps).mov t ss dd) m := by
  have hsrc := (fAbort_operandEffect h.build ss t s).trans hclear
  have hdst := (fAbort_operandEffect h.build dd t (operandEffect h.build ss t s)).trans hsrc
  have hfetch : Program.Settles (fun traps => (Env.answering h traps).sourceThenDst t ss dd) m
      (fun _ m' => m'.core.sansStatus = operandEffect h.build dd t (operandEffect h.build ss t s))
      (QuitsIn (twoOperands h.build ss dd t s)) := by
    unfold Env.sourceThenDst
    refine .step rfl ?_
    cases hlast : Env.registerSourceLast m.core ss dd with
    | true =>
      have hsame := operandEffect_register h.build (registerSourceLast_mode hlast) t s
      simp only [if_true]
      rw [twoOperands, hsame]
      refine Settles.thenQuits (operand_in dd hclear (.head _) (.tail _ (.tail _ (.head _))) hm) fun dst m₁ hm₁ => ?_
      exact .step rfl (.pure _ hm₁)
    | false =>
      simp only [Bool.false_eq_true, if_false]
      refine Settles.thenQuits (operand_in ss hclear (.head _) (.tail _ (.head _)) hm) fun src m₁ hm₁ => ?_
      refine Settles.thenQuits (getData_in src hsrc (.tail _ (.head _)) hm₁) fun v m₂ hm₂ => ?_
      refine Settles.thenQuits (operand_in dd hsrc (.tail _ (.head _)) (.tail _ (.tail _ (.head _))) hm₂)
        fun dst m₃ hm₃ => ?_
      exact .pure _ hm₃
  unfold Env.mov
  refine Settles.thenQuits hfetch fun ⟨v, dst⟩ m₁ hm₁ => ?_
  cases t with
  | word => exact result_in (t := .word) dst v .word _ hdst (.tail _ (.tail _ (.head _))) hm₁
  | byte =>
    exact Settles.thenQuits (putByteMovb_in dst _ hdst (.tail _ (.tail _ (.head _))) hm₁)
      fun _ _ _ => .returns (fun _ => run_perform_enabled rfl) trivial

theorem double_quits (d : DoubleOp) (ss dd : Word) (hclear : s.fAbort = false) (hm : m.core.sansStatus = s) :
    QuittingIn (twoOperands h.build ss dd t s) (fun traps => (Env.answering h traps).double d t ss dd) m := by
  have hsrc := (fAbort_operandEffect h.build ss t s).trans hclear
  have hdst := (fAbort_operandEffect h.build dd t (operandEffect h.build ss t s)).trans hsrc
  have hfetch := sourceAndDst_quits (t := t) (h := h) ss dd hclear hm
  cases d with
  | mov => exact mov_quits ss dd hclear hm
  | cmp | bit => exact Settles.thenQuits hfetch fun _ _ _ => .returns (fun _ => run_perform_enabled rfl) trivial
  | bic | bis =>
    exact Settles.thenQuits hfetch fun _ m₁ hm₁ => result_in _ _ t _ hdst (.tail _ (.tail _ (.head _))) hm₁

theorem add_quits (ss dd : Word) (hclear : s.fAbort = false) (hm : m.core.sansStatus = s) :
    QuittingIn (twoOperands h.build ss dd .word s) (fun traps => (Env.answering h traps).add ss dd) m := by
  have hsrc := (fAbort_operandEffect h.build ss .word s).trans hclear
  have hdst := (fAbort_operandEffect h.build dd .word (operandEffect h.build ss .word s)).trans hsrc
  exact Settles.thenQuits (sourceAndDst_quits ss dd hclear hm) fun _ m₁ hm₁ =>
    result_in (t := .word) _ _ .word _ hdst (.tail _ (.tail _ (.head _))) hm₁

theorem sub_quits (ss dd : Word) (hclear : s.fAbort = false) (hm : m.core.sansStatus = s) :
    QuittingIn (twoOperands h.build ss dd .word s) (fun traps => (Env.answering h traps).sub ss dd) m := by
  have hsrc := (fAbort_operandEffect h.build ss .word s).trans hclear
  have hdst := (fAbort_operandEffect h.build dd .word (operandEffect h.build ss .word s)).trans hsrc
  exact Settles.thenQuits (sourceAndDst_quits ss dd hclear hm) fun _ m₁ hm₁ =>
    result_in (t := .word) _ _ .word _ hdst (.tail _ (.tail _ (.head _))) hm₁

section OneOperand

variable (hclear : s.fAbort = false) (hm : m.core.sansStatus = s)
include hclear hm

theorem swab_quits (dd : Word) :
    QuittingIn (oneOperand h.build dd .word s) (fun traps => (Env.answering h traps).swab dd) m := by
  have hafter := (fAbort_operandEffect h.build dd .word s).trans hclear
  refine Settles.thenQuits (operand_in dd hclear (.head _) (.tail _ (.head _)) hm) fun dst m₁ hm₁ => ?_
  refine Settles.thenQuits (getData_in (t := .word) dst hafter (.tail _ (.head _)) hm₁) fun v m₂ hm₂ => ?_
  exact result_in (t := .word) dst _ .byte _ hafter (.tail _ (.head _)) hm₂

theorem sxt_quits (dd : Word) :
    QuittingIn (oneOperand h.build dd .word s) (fun traps => (Env.answering h traps).sxt dd) m := by
  have hafter := (fAbort_operandEffect h.build dd .word s).trans hclear
  refine Settles.thenQuits (operand_in dd hclear (.head _) (.tail _ (.head _)) hm) fun dst m₁ hm₁ => ?_
  refine .step rfl (Settles.thenQuits (putData_in (t := .word) dst _ hafter (.tail _ (.head _)) hm₁) ?_)
  exact fun _ _ _ => .returns (fun _ => run_perform_enabled rfl) trivial

theorem mfps_quits (dd : Word) :
    QuittingIn (oneOperand h.build dd .byte s) (fun traps => (Env.answering h traps).mfps dd) m := by
  have hafter := (fAbort_operandEffect h.build dd .byte s).trans hclear
  refine Settles.thenQuits (operand_in dd hclear (.head _) (.tail _ (.head _)) hm) fun dst m₁ hm₁ => ?_
  refine .step rfl (Settles.thenQuits (putByteMovb_in dst _ hafter (.tail _ (.head _)) hm₁) ?_)
  exact fun _ _ _ => .returns (fun _ => run_perform_enabled rfl) trivial

theorem mtps_quits (ss : Word) :
    QuittingIn (oneOperand h.build ss .byte s) (fun traps => (Env.answering h traps).mtps ss) m := by
  have hafter := (fAbort_operandEffect h.build ss .byte s).trans hclear
  refine Settles.thenQuits (operand_in ss hclear (.head _) (.tail _ (.head _)) hm) fun src m₁ hm₁ => ?_
  have hget := (getByte_settles (h := h) src hafter hm₁).mono (fun _ _ => id)
    fun _ _ _ => QuitsAt.quitsIn (L := oneOperand h.build ss .byte s) (.tail _ (.head _))
  exact Settles.thenQuits hget fun _ _ _ => .returns (fun _ => run_perform_enabled rfl) trivial

theorem xor_quits (reg : BitVec 3) (dd : Word) :
    QuittingIn (oneOperand h.build dd .word s) (fun traps => (Env.answering h traps).xor reg dd) m := by
  have hafter := (fAbort_operandEffect h.build dd .word s).trans hclear
  refine .step rfl (Settles.thenQuits (operand_in dd hclear (.head _) (.tail _ (.head _)) hm) fun dst m₁ hm₁ => ?_)
  refine Settles.thenQuits (getData_in (t := .word) dst hafter (.tail _ (.head _)) hm₁) fun v m₂ hm₂ => ?_
  exact .step rfl (result_in (t := .word) dst _ .word _ hafter (.tail _ (.head _)) hm₂)

end OneOperand

end Quitting

/-! ## What follows the trap -/

/-- The operations that write the general registers or the PSW. -/
def Micro.writesVisible : Micro → Bool
  | setR _ _ | setCc _ _ _ _ | regStoreByte _ _ _ | regStoreWord _ _ _ | enterVector _ _ _ | redStackRestore _ _
  | emergencyStack | haltPsw _ | dcj11Halt | fisPsw _ | fisErrorPsw _ | returnPsw _ | mtps _ | spl _ | csmEnter _
  | writePrevModeReg _ _ | loadCopies | clearH | restorePsw _ | resetState _ => true
  | _ => false

/-- After its trap the instruction leaves the step. -/
def Leaves (model : Model) (tail : Routine β α) : Prop :=
  ∀ traps (m : Machine β), m.core.fAbort = true → m.core.model = model → (tail traps).run m = .exit m

/-- After its trap the instruction does nothing and goes to the end of the step. -/
def Ends (model : Model) (tail : Routine β α) : Prop :=
  ∀ traps (m : Machine β), m.core.fAbort = true → m.core.model = model → ∃ a, (tail traps).run m = .done a m

/-- After its trap the instruction writes registers or the PSW. -/
def Spoils (model : Model) (tail : Routine β α) : Prop :=
  ∀ traps (m : Machine β), m.core.fAbort = true → m.core.model = model →
    ∃ a m', (tail traps).run m = .done a m' ∧ ∃ op ∈ m.since m', op.writesVisible = true

theorem Quits.leaves {tail : Routine β α} (h : Quits tail) (model : Model) : Leaves model tail :=
  fun traps m hset _ => h traps m hset

/-- An operand is decoded without a trap. -/
def Decodes (h : Host β) (data : Word) (m : Machine β) : Prop :=
  ∃ o m', Program.Returns (fun traps => (Env.answering h traps).operand data .word) m o m'

section Eis

variable {h : Host β} {s : Regs} {m : Machine β}

end Eis

end K1801.Core
