import K1801.Core.Dispatch
import K1801.Core.Stores

/-! # Instructions that leave a result

These instructions fetch their operands, compute a value and condition codes from them, store the
value and set the condition codes last. TST, CMP and BIT store nothing. TSTSET takes its condition
codes from R0, which a store to the PSW may have exchanged for that of the other register set.
-/

namespace K1801.Core

open Library

variable {β : Type}

inductive ResultOp where
  | single (s : SingleOp) (t : DataType) (dd : Word)
  | swab (dd : Word)
  | sxt (dd : Word)
  | mfps (dd : Word)
  | xor (reg : BitVec 3) (dd : Word)
  | double (d : DoubleOp) (t : DataType) (ss dd : Word)
  | add (ss dd : Word)
  | sub (ss dd : Word)
  | mtp (dataSpace : Bool) (dd : Word)
  | tstset (dd : Word)
  | wrtlck (dd : Word)
  deriving DecidableEq

/-- The destination with the values of the operands. -/
structure Fetched where
  dst : Operand
  src : Word := 0
  val : Word := 0
  deriving DecidableEq

/-- An update of the condition codes. -/
structure CcUpdate where
  n : Option Bool
  z : Option Bool
  v : Option Bool
  c : Option Bool
  deriving DecidableEq

def CcUpdate.micro (u : CcUpdate) : Micro := .setCc u.n u.z u.v u.c

def AluResult.codes (t : DataType) (res : AluResult) : CcUpdate :=
  ⟨some (t.negative res.value), some (res.value == 0), res.v, res.c⟩

namespace ResultOp

def instr : ResultOp → Instr
  | single s t dd => .single s t dd
  | swab dd => .swab dd
  | sxt dd => .sxt dd
  | mfps dd => .mfps dd
  | xor reg dd => .xor reg dd
  | double d t ss dd => .double d t ss dd
  | add ss dd => .add ss dd
  | sub ss dd => .sub ss dd
  | mtp false dd => .mtpi dd
  | mtp true dd => .mtpd dd
  | tstset dd => .tstset dd
  | wrtlck dd => .wrtlck dd

/-- Byte instructions store a byte in memory. -/
def type : ResultOp → DataType
  | single _ t _ | double _ t _ _ => t
  | mfps _ => .byte
  | _ => .word

/-- Instructions that this module takes on the J-11 only. -/
def dcj11Only : ResultOp → Bool
  | mtp _ _ | tstset _ | wrtlck _ => true
  | _ => false

def stores : ResultOp → Bool
  | single .tst _ _ | double .cmp _ _ _ | double .bit _ _ _ => false
  | _ => true

def fetch (e : Env β) : ResultOp → M β Fetched
  | single s t dd => do
    let dst ← e.operand dd t
    if s = .clr then return { dst }
    return { dst, val := ← e.getData t dst }
  | swab dd => do
    let dst ← e.operand dd .word
    return { dst, val := ← e.getWord dst }
  | sxt dd => do return { dst := ← e.operand dd .word }
  | mfps dd => do return { dst := ← e.operand dd .byte }
  | xor reg dd => do
    let before ← regs
    let dst ← e.operand dd .word
    let val ← e.getWord dst
    return { dst, val, src := Env.registerOperand before (← regs) (·.r reg) }
  | double .mov t ss dd => do
    let (src, dst) ← e.sourceThenDst t ss dd
    return { dst, src }
  | double _ t ss dd => do
    let (src, val, dst) ← e.sourceAndDst t ss dd
    return { dst, src, val }
  | add ss dd | sub ss dd => do
    let (src, val, dst) ← e.sourceAndDst .word ss dd
    return { dst, src, val }
  | mtp _ dd => do
    match ← e.decodeData dd .word with
    | none => Program.leave
    | some dst => do
      let src ← e.coreLoadWord (← getR 6)
      Env.leaveIfAborted
      setR 6 ((← getR 6) + 2)
      e.recordDelta 6 2
      return { dst, src }
  | tstset dd => do
    if Env.isRegisterMode dd then Program.leave
    else
      let dst ← e.operand dd .word
      let val ← e.getWord dst
      setR 0 val
      return { dst, val }
  | wrtlck dd => do
    if Env.isRegisterMode dd then Program.leave
    else
      let dst ← e.operand dd .word
      return { dst, src := ← getR 0 }

/-- The value and the condition codes. -/
def compute (psw : Word) (f : Fetched) : ResultOp → Word × CcUpdate
  | single s t _ =>
    let res := singleAlu t s (flagIsSet psw flagC) f.val
    (res.value, res.codes t)
  | swab _ =>
    let tmp := (f.val >>> 8) ||| (f.val <<< 8)
    (tmp, AluResult.codes .byte ⟨tmp &&& 0o377, some false, some false⟩)
  | sxt _ =>
    let n := flagIsSet psw flagN
    (if n then 0o177777 else 0, ⟨none, some !n, some false, none⟩)
  | mfps _ =>
    let tmp := psw &&& 0o377
    (tmp, AluResult.codes .byte ⟨tmp, some false, none⟩)
  | xor _ _ =>
    let tmp := f.val ^^^ f.src
    (tmp, AluResult.codes .word ⟨tmp, some false, none⟩)
  | double .mov t _ _ => (f.src, AluResult.codes t ⟨f.src, some false, none⟩)
  | double .cmp t _ _ => ((compareAlu t f.src f.val).value, (compareAlu t f.src f.val).codes t)
  | double .bit t _ _ => (f.src &&& f.val, AluResult.codes t ⟨f.src &&& f.val, some false, none⟩)
  | double .bic t _ _ => (~~~f.src &&& f.val, AluResult.codes t ⟨~~~f.src &&& f.val, some false, none⟩)
  | double .bis t _ _ => (f.src ||| f.val, AluResult.codes t ⟨f.src ||| f.val, some false, none⟩)
  | add _ _ => ((addAlu f.src f.val).value, (addAlu f.src f.val).codes .word)
  | sub _ _ => ((subAlu f.src f.val).value, (subAlu f.src f.val).codes .word)
  | mtp _ _ | wrtlck _ => (f.src, AluResult.codes .word ⟨f.src, some false, none⟩)
  | tstset _ => (f.val ||| 1, ⟨some f.val.msb, some (f.val == 0), some false, some (f.val &&& 1 != 0)⟩)

/-- The condition codes that are set once the store has left `r0` in R0. -/
def codes (r0 : Word) (u : CcUpdate) : ResultOp → CcUpdate
  | tstset _ => ⟨some r0.msb, some (r0 == 0), u.v, u.c⟩
  | _ => u

/-- Only MTPx goes on after a store that was refused. -/
def store (e : Env β) (dst : Operand) (v : Word) : ResultOp → M β Unit
  | single .tst _ _ | double .cmp _ _ _ | double .bit _ _ _ => pure ()
  | single _ t _ | double .bic t _ _ | double .bis t _ _ => e.putData t dst v
  | mfps _ | double .mov .byte _ _ => e.putByteMovb dst (v.setWidth 8)
  | mtp dataSpace _ => e.mtpStore dst dataSpace v
  | _ => e.putWord dst v

/-- What follows the operands. -/
def finish (e : Env β) (f : Fetched) (res : Word × CcUpdate) (op : ResultOp) : M β Locals := do
  op.store e f.dst res.1
  perform (op.codes (← getR 0) res.2).micro
  return {}

variable {e : Env β} {m m₁ : Machine β} {f : Fetched}

theorem run_of_body {p : M β Unit} {op : ResultOp} {res : Word × CcUpdate}
    (h : p.run m = (do op.store e f.dst res.1; perform (op.codes (← getR 0) res.2).micro : M β Unit).run m₁) :
    (Env.plain p).run m = (op.finish e f res).run m₁ := by
  unfold Env.plain finish
  rw [Program.run_bind, h, Program.run_bind, Outcome.andThen_assoc]
  rfl

theorem single_run {s : SingleOp} {t : DataType} {dd : Word}
    (h : Answers ((single s t dd).fetch e) m f m₁) :
    (e.single s t dd).run m = (do
      (single s t dd).store e f.dst ((single s t dd).compute m₁.core.psw f).1
      let r0 ← getR 0
      perform ((single s t dd).codes r0 ((single s t dd).compute m₁.core.psw f).2).micro : M β Unit).run m₁ := by
  obtain ⟨hrun, hclear⟩ := h
  obtain ⟨dst, m₀, hdst, hrun⟩ := Program.bind_done.1 hrun
  unfold Env.single
  rw [Program.run_bind, hdst, Outcome.andThen_done]
  by_cases hclr : s = .clr
  · subst hclr
    cases hrun
    rfl
  · rw [if_neg hclr] at hrun
    obtain ⟨val, m₂, hval, hrun⟩ := Program.bind_done.1 hrun
    cases hrun
    cases s with
    | clr => exact absurd rfl hclr
    | tst =>
      rw [Program.run_bind, hval, Outcome.andThen_done]
      rfl
    | _ =>
      rw [Program.run_bind, hval, Outcome.andThen_done, Program.run_bind]
      rfl

theorem double_run {d : DoubleOp} {t : DataType} {ss dd : Word}
    (h : Answers ((double d t ss dd).fetch e) m f m₁) :
    (e.double d t ss dd).run m = (do
      (double d t ss dd).store e f.dst ((double d t ss dd).compute m₁.core.psw f).1
      let r0 ← getR 0
      perform ((double d t ss dd).codes r0 ((double d t ss dd).compute m₁.core.psw f).2).micro : M β Unit).run m₁ := by
  obtain ⟨hrun, hclear⟩ := h
  cases d with
  | mov =>
    obtain ⟨x, m₀, hfetch, hrun⟩ := Program.bind_done.1 hrun
    cases hrun
    unfold Env.double Env.mov
    rw [Program.run_bind, hfetch]
    cases t with
    | word => rfl
    | byte => rfl
  | _ =>
    obtain ⟨x, m₀, hfetch, hrun⟩ := Program.bind_done.1 hrun
    cases hrun
    unfold Env.double
    dsimp only
    rw [Program.run_bind, hfetch]
    rfl

theorem mtp_fetched {ds : Bool} {dd : Word} (hmodel : m.core.model = .dcj11)
    (h : Answers ((mtp ds dd).fetch e) m f m₁) :
    (e.mtp dd ds).run m = (do
      (mtp ds dd).store e f.dst ((mtp ds dd).compute m₁.core.psw f).1
      let r0 ← getR 0
      perform ((mtp ds dd).codes r0 ((mtp ds dd).compute m₁.core.psw f).2).micro : M β Unit).run m₁ := by
  obtain ⟨hrun, hclear⟩ := h
  obtain ⟨dst, m₀, hdst, hrun⟩ := Program.bind_done.1 hrun
  unfold Env.mtp
  rw [Program.run_bind, regs, Program.run_read, Outcome.andThen_done, hmodel,
    if_neg (by decide : ¬ (!Model.dcj11.hasPrevSpaceOps) = true)]
  dsimp only
  rw [if_neg (by decide : ¬ Model.dcj11 ≠ .dcj11), Program.run_bind, hdst, Outcome.andThen_done]
  cases dst with
  | none => cases hrun
  | some dst =>
    obtain ⟨sp, m₂, hsp, hrun⟩ := Program.bind_done.1 hrun
    cases hsp
    obtain ⟨src, m₃, hpop, hrest⟩ := Program.bind_done.1 hrun
    obtain ⟨⟨⟩, m₄, hleave, hlast⟩ := Program.bind_done.1 hrest
    obtain ⟨rfl, hpopped⟩ := leaveIfAborted_done hleave
    cases hlast
    dsimp only
    rw [Program.run_bind, getR_run, Outcome.andThen_done, Program.run_bind, hpop, Outcome.andThen_done,
      Program.run_bind, aborted, Program.run_read, Outcome.andThen_done, hpopped,
      if_neg (by decide : ¬ false = true)]
    rfl

/-- TSTSET and WRTLCK have no register form. -/
theorem answers_memoryMode {dd : Word} {p : M β Fetched}
    (h : Answers (if Env.isRegisterMode dd then Program.leave else p) m f m₁) :
    Env.isRegisterMode dd = false ∧ Answers p m f m₁ := by
  cases hmode : Env.isRegisterMode dd with
  | false =>
    rw [hmode, if_neg (by decide)] at h
    exact ⟨rfl, h⟩
  | true =>
    rw [hmode, if_pos rfl] at h
    cases h.1

/-- After its operands the instruction computes from them and finishes. -/
theorem execute_run {op : ResultOp} (hmodel : op.dcj11Only = true → m.core.model = .dcj11)
    (h : Answers (op.fetch e) m f m₁) :
    (e.execute op.instr).run m = (op.finish e f (op.compute m₁.core.psw f)).run m₁ := by
  cases op with
  | single s t dd => exact run_of_body (single_run h)
  | double d t ss dd => exact run_of_body (double_run h)
  | mtp ds dd =>
    cases ds with
    | false => exact run_of_body (mtp_fetched (hmodel rfl) h)
    | true => exact run_of_body (mtp_fetched (hmodel rfl) h)
  | swab dd =>
    obtain ⟨dst, m₀, hdst, hrun⟩ := Program.bind_done.1 h.1
    obtain ⟨val, m₂, hval, hrun⟩ := Program.bind_done.1 hrun
    cases hrun
    refine run_of_body ?_
    unfold Env.swab
    rw [Program.run_bind, hdst, Outcome.andThen_done, Program.run_bind, hval]
    rfl
  | sxt dd =>
    obtain ⟨dst, m₀, hdst, hrun⟩ := Program.bind_done.1 h.1
    cases hrun
    refine run_of_body ?_
    unfold Env.sxt
    rw [Program.run_bind, hdst]
    rfl
  | mfps dd =>
    obtain ⟨dst, m₀, hdst, hrun⟩ := Program.bind_done.1 h.1
    cases hrun
    refine run_of_body ?_
    unfold Env.mfps
    rw [Program.run_bind, hdst]
    rfl
  | xor reg dd =>
    obtain ⟨before, m₀, hbefore, hrun⟩ := Program.bind_done.1 h.1
    cases hbefore
    obtain ⟨dst, m₂, hdst, hrun⟩ := Program.bind_done.1 hrun
    obtain ⟨val, m₃, hval, hrun⟩ := Program.bind_done.1 hrun
    cases hrun
    refine run_of_body ?_
    unfold Env.xor
    rw [Program.run_bind, regs, Program.run_read, Outcome.andThen_done, Program.run_bind, hdst,
      Outcome.andThen_done, Program.run_bind, hval]
    rfl
  | add ss dd =>
    obtain ⟨x, m₀, hfetch, hrun⟩ := Program.bind_done.1 h.1
    cases hrun
    refine run_of_body ?_
    unfold Env.add
    rw [Program.run_bind, hfetch]
    rfl
  | sub ss dd =>
    obtain ⟨x, m₀, hfetch, hrun⟩ := Program.bind_done.1 h.1
    cases hrun
    refine run_of_body ?_
    unfold Env.sub
    rw [Program.run_bind, hfetch]
    rfl
  | tstset dd =>
    obtain ⟨hmode, hrun⟩ := answers_memoryMode h
    obtain ⟨dst, m₀, hdst, hrest⟩ := Program.bind_done.1 hrun.1
    obtain ⟨val, m₂, hval, hlast⟩ := Program.bind_done.1 hrest
    cases hlast
    refine run_of_body ?_
    unfold Env.tstset
    rw [Program.run_bind, regs, Program.run_read, Outcome.andThen_done,
      if_neg (by simp [hmodel rfl, hmode]), Program.run_bind, hdst, Outcome.andThen_done,
      Program.run_bind, hval]
    rfl
  | wrtlck dd =>
    obtain ⟨hmode, hrun⟩ := answers_memoryMode h
    obtain ⟨dst, m₀, hdst, hlast⟩ := Program.bind_done.1 hrun.1
    cases hlast
    refine run_of_body ?_
    unfold Env.wrtlck
    rw [Program.run_bind, regs, Program.run_read, Outcome.andThen_done,
      if_neg (by simp [hmodel rfl, hmode]), Program.run_bind, hdst]
    rfl

/-! ## Fetching leaves the PSW alone -/

section FetchQuiet

theorem quiet_leave {α κ : Type} {g : Regs → κ} : Quiet g (Program.leave : M β α) :=
  .of_never (.leave fun _ => trivial) .leave

theorem quiet_leaveIfAborted {κ : Type} {g : Regs → κ} : Quiet g (Env.leaveIfAborted : M β Unit) :=
  .bind .aborted fun _ => .ite quiet_leave (.pure _)

theorem quiet_getData (he : e.TrapsAbort) (t : DataType) (o : Operand) :
    Quiet Regs.exceptOperand (e.getData t o) := by
  have hword : Quiet Regs.exceptOperand (e.getWord o) :=
    (Quiet.getDataWord he o).load.bind fun _ => quiet_leaveIfAborted.bind fun _ => .pure _
  have hbyte : Quiet Regs.exceptOperand (e.getByte o) :=
    (Quiet.getDataByte he o).load.bind fun _ => quiet_leaveIfAborted.bind fun _ => .pure _
  cases t with
  | word => exact hword
  | byte => exact hbyte.bind fun _ => .pure _

theorem quiet_sourceThenDst (he : e.TrapsAbort) (t : DataType) (ss dd : Word) :
    Quiet Regs.exceptOperand (e.sourceThenDst t ss dd) := by
  unfold Env.sourceThenDst
  refine .bind .regs fun r => .ite ?_ ?_
  · exact (Quiet.operand he dd t).bind fun _ => .bind (.bind (.getR _) fun _ => .pure _) fun _ => .pure _
  · exact (Quiet.operand he ss t).bind fun _ => (quiet_getData he t _).bind fun _ =>
      (Quiet.operand he dd t).bind fun _ => .pure _

theorem quiet_sourceAndDst (he : e.TrapsAbort) (t : DataType) (ss dd : Word) :
    Quiet Regs.exceptOperand (e.sourceAndDst t ss dd) := by
  unfold Env.sourceAndDst
  refine .bind .regs fun r => .ite ?_ ?_
  · exact (Quiet.operand he dd t).bind fun _ => (quiet_getData he t _).bind fun _ =>
      .bind (.bind (.getR _) fun _ => .pure _) fun _ => .pure _
  · exact (Quiet.operand he ss t).bind fun _ => (quiet_getData he t _).bind fun _ =>
      (Quiet.operand he dd t).bind fun _ => (quiet_getData he t _).bind fun _ => .pure _

theorem quiet_fetch (he : e.TrapsAbort) (op : ResultOp) : Quiet Regs.exceptOperand (op.fetch e) := by
  cases op with
  | single s t dd =>
    exact (Quiet.operand he dd t).bind fun _ =>
      .ite (.pure _) ((quiet_getData he t _).bind fun _ => .pure _)
  | swab dd => exact (Quiet.operand he dd .word).bind fun _ => (quiet_getData he .word _).bind fun _ => .pure _
  | sxt dd => exact (Quiet.operand he dd .word).bind fun _ => .pure _
  | mfps dd => exact (Quiet.operand he dd .byte).bind fun _ => .pure _
  | xor reg dd =>
    exact Quiet.regs.bind fun _ => (Quiet.operand he dd .word).bind fun _ =>
      (quiet_getData he .word _).bind fun _ => Quiet.regs.bind fun _ => .pure _
  | double d t ss dd =>
    cases d with
    | mov => exact (quiet_sourceThenDst he t ss dd).bind fun _ => .pure _
    | _ => exact (quiet_sourceAndDst he t ss dd).bind fun _ => .pure _
  | add ss dd | sub ss dd => exact (quiet_sourceAndDst he .word ss dd).bind fun _ => .pure _
  | mtp ds dd =>
    refine (Quiet.decodeData he dd .word).bind fun dst => ?_
    cases dst with
    | none => exact quiet_leave
    | some dst =>
      exact (Quiet.getR _).bind fun _ => (Quiet.coreLoadWordEx he _ _ _).load.bind fun _ =>
        quiet_leaveIfAborted.bind fun _ => (Quiet.getR _).bind fun _ =>
        (Quiet.decode rfl).bind fun _ => (Quiet.decode rfl).bind fun _ => .pure _
  | tstset dd =>
    exact .ite quiet_leave ((Quiet.operand he dd .word).bind fun _ =>
      (quiet_getData he .word _).bind fun _ => (Quiet.decode rfl).bind fun _ => .pure _)
  | wrtlck dd =>
    exact .ite quiet_leave ((Quiet.operand he dd .word).bind fun _ => (Quiet.getR _).bind fun _ => .pure _)

end FetchQuiet

/-! ## The store -/

section Puts

variable {m' : Machine β} {dst : Operand}

theorem putWord_mem (hmem : dst.type ≠ .reg) (v : Word) :
    (e.putWord dst v).run m = ((e.coreStoreWord dst.offset v).run m).andThen fun _ => Env.leaveIfAborted.run := by
  unfold Env.putWord Env.putDataWord
  cases htype : dst.type with
  | reg => exact absurd htype hmem
  | mem | ifetch => rw [Program.run_bind]

theorem putByte_mem (hmem : dst.type ≠ .reg) (v : Byte) :
    (e.putByte dst v).run m = ((e.coreStoreByte dst.offset v).run m).andThen fun _ => Env.leaveIfAborted.run := by
  unfold Env.putByte Env.putDataByte
  cases htype : dst.type with
  | reg => exact absurd htype hmem
  | mem | ifetch => rw [Program.run_bind]

theorem putByteMovb_mem (hmem : dst.type ≠ .reg) (v : Byte) :
    (e.putByteMovb dst v).run m = (e.putByte dst v).run m := by
  unfold Env.putByteMovb Env.putByte Env.putDataByteMovb Env.putDataByte
  cases htype : dst.type with
  | reg => exact absurd htype hmem
  | mem | ifetch => rfl

theorem andThen_leaveIfAborted {p : M β Unit} (h : p.run m = .done () m') (hclear : m'.core.fAbort = false) :
    ((p.run m).andThen fun _ => Env.leaveIfAborted.run) = .done () m' := by
  rw [h]
  exact leaveIfAborted_clear hclear

theorem answers_leaveIfAborted {p : M β Unit}
    (h : ((p.run m).andThen fun _ => Env.leaveIfAborted.run) = .done () m') : Answers p m () m' := by
  obtain ⟨⟨⟩, m₂, hp, hleave⟩ := Outcome.andThen_eq_done.1 h
  obtain ⟨rfl, hclear⟩ := leaveIfAborted_done hleave
  exact ⟨hp, hclear⟩

theorem putWord_psw (hclear : m.core.fAbort = false) (hmem : dst.type ≠ .reg) {v : Word}
    (h : TargetsPsw (e.wordTarget m.core dst.offset) m.core) :
    ∃ m', (e.putWord dst v).run m = .done () m' ∧ PswStored v m.core m'.core := by
  obtain ⟨m', hrun, hstored⟩ := coreStoreWord_psw h
  rw [putWord_mem hmem]
  exact ⟨m', andThen_leaveIfAborted hrun (hstored.abort.trans hclear), hstored⟩

theorem putByte_psw (hclear : m.core.fAbort = false) (hmem : dst.type ≠ .reg) {v : Byte} {a : Word}
    (hat : e.byteTarget m.core dst.offset = some a) (hhit : HitsPsw a m.core) :
    ∃ m', (e.putByte dst v).run m = .done () m' ∧ PswStored (withByte m.core.psw a v) m.core m'.core := by
  obtain ⟨m', hrun, hstored⟩ := coreStoreByte_psw hat hhit
  rw [putByte_mem hmem]
  exact ⟨m', andThen_leaveIfAborted hrun (hstored.abort.trans hclear), hstored⟩

theorem putWord_seen (he : e.TrapsAbort) (hmem : dst.type ≠ .reg) {v : Word}
    (hne : ¬ TargetsPsw (e.wordTarget m.core dst.offset) m.core)
    (h : (e.putWord dst v).run m = .done () m') : m'.core.seen = m.core.seen := by
  rw [putWord_mem hmem] at h
  exact coreStoreWord_seen he hne (answers_leaveIfAborted h)

theorem putByte_seen (he : e.TrapsAbort) (hmem : dst.type ≠ .reg) {v : Byte}
    (hne : ¬ TargetsPsw (e.byteTarget m.core dst.offset) m.core)
    (h : (e.putByte dst v).run m = .done () m') : m'.core.seen = m.core.seen := by
  rw [putByte_mem hmem] at h
  exact coreStoreByte_seen he hne (answers_leaveIfAborted h)

end Puts

/-- Where the register block sees the store. -/
def target (e : Env β) (r : Regs) (dst : Operand) (op : ResultOp) : Option Word :=
  match op, op.type with
  | mtp dataSpace _, _ => e.modeTarget r dst.offset (dcj11PswPrevModeMxpi r.pswBefore) dataSpace
  | _, .byte => e.byteTarget r dst.offset
  | _, .word => e.wordTarget r dst.offset

/-- The word that a store of `v` leaves at `a`, which held `old`. -/
def stored (old a v : Word) (op : ResultOp) : Word :=
  match op.type with
  | .byte => withByte old a (v.setWidth 8)
  | .word => v

/-- A result in memory is put as a byte or as a word. -/
structure PutsByte (e : Env β) (dst : Operand) (op : ResultOp) : Prop where
  type : op.type = .byte
  store : ∀ v (m : Machine β), (op.store e dst v).run m = (e.putByte dst (v.setWidth 8)).run m
  target : ∀ r, op.target e r dst = e.byteTarget r dst.offset

structure PutsWord (e : Env β) (dst : Operand) (op : ResultOp) : Prop where
  type : op.type = .word
  store : ∀ v (m : Machine β), (op.store e dst v).run m = (e.putWord dst v).run m
  target : ∀ r, op.target e r dst = e.wordTarget r dst.offset

variable {dst : Operand} {v a : Word} {op : ResultOp}

theorem store_cases (e : Env β) (hmem : dst.type ≠ .reg) (hstores : op.stores = true) :
    (∃ ds dd, op = mtp ds dd) ∨ op.PutsByte e dst ∨ op.PutsWord e dst := by
  cases op with
  | mtp ds dd => exact .inl ⟨ds, dd, rfl⟩
  | single s t dd =>
    cases t with
    | word => cases s with
      | tst => cases hstores
      | _ => exact .inr (.inr ⟨rfl, fun _ _ => rfl, fun _ => rfl⟩)
    | byte => cases s with
      | tst => cases hstores
      | _ => exact .inr (.inl ⟨rfl, fun _ _ => rfl, fun _ => rfl⟩)
  | double d t ss dd =>
    cases t with
    | word => cases d with
      | cmp | bit => cases hstores
      | _ => exact .inr (.inr ⟨rfl, fun _ _ => rfl, fun _ => rfl⟩)
    | byte => cases d with
      | cmp | bit => cases hstores
      | mov => exact .inr (.inl ⟨rfl, fun _ _ => putByteMovb_mem hmem _, fun _ => rfl⟩)
      | _ => exact .inr (.inl ⟨rfl, fun _ _ => rfl, fun _ => rfl⟩)
  | mfps dd => exact .inr (.inl ⟨rfl, fun _ _ => putByteMovb_mem hmem _, fun _ => rfl⟩)
  | _ => exact .inr (.inr ⟨rfl, fun _ _ => rfl, fun _ => rfl⟩)

theorem store_nothing (hstores : op.stores = false) : op.store e dst v = pure () := by
  cases op with
  | single s t dd => cases s <;> first | rfl | cases hstores
  | double d t ss dd => cases d <;> first | rfl | cases hstores
  | _ => cases hstores

theorem mtpStore_mem (hmodel : m.core.model = .dcj11) (hmem : dst.type ≠ .reg) (ds : Bool) :
    (e.mtpStore dst ds v).run m =
      (e.coreStoreWordModeSpace dst.offset v (dcj11PswPrevModeMxpi m.core.pswBefore) ds).run m := by
  unfold Env.mtpStore
  rw [Program.run_bind, regs, Program.run_read, Outcome.andThen_done, if_neg (by simp [hmodel]),
    if_neg hmem]

/-- A store that the register block sees at the PSW leaves its value there. -/
theorem store_psw (hclear : m.core.fAbort = false) (hmem : dst.type ≠ .reg) (hstores : op.stores = true)
    (hat : op.target e m.core dst = some a) (hhit : HitsPsw a m.core) :
    ∃ m', (op.store e dst v).run m = .done () m' ∧ PswStored (op.stored m.core.psw a v) m.core m'.core := by
  rcases store_cases e hmem hstores with ⟨ds, dd, rfl⟩ | hput | hput
  · obtain ⟨m', hrun, hstored⟩ := coreStoreWordModeSpace_psw (v := v) ⟨a, hat, hhit⟩
    exact ⟨m', (mtpStore_mem hhit.1 hmem ds).trans hrun, hstored⟩
  · rw [hput.target] at hat
    obtain ⟨m', hrun, hstored⟩ := putByte_psw (v := v.setWidth 8) hclear hmem hat hhit
    refine ⟨m', (hput.store v m).trans hrun, ?_⟩
    rw [stored, hput.type]
    exact hstored
  · rw [hput.target] at hat
    obtain ⟨m', hrun, hstored⟩ := putWord_psw (v := v) hclear hmem ⟨a, hat, hhit⟩
    refine ⟨m', (hput.store v m).trans hrun, ?_⟩
    rw [stored, hput.type]
    exact hstored

/-- A store to anything else in memory leaves the PSW and the general registers alone. -/
theorem store_seen (he : e.TrapsAbort) (hmodel : op.dcj11Only = true → m.core.model = .dcj11)
    (hmem : dst.type ≠ .reg) {m' : Machine β} (hne : ¬ TargetsPsw (op.target e m.core dst) m.core)
    (h : Answers (op.store e dst v) m () m') : m'.core.seen = m.core.seen := by
  cases hstores : op.stores with
  | false =>
    rw [store_nothing hstores] at h
    cases h.1
    rfl
  | true =>
    rcases store_cases e hmem hstores with ⟨ds, dd, rfl⟩ | hput | hput
    · have hsame : Answers (e.coreStoreWordModeSpace dst.offset v (dcj11PswPrevModeMxpi m.core.pswBefore) ds)
          m () m' := ⟨(mtpStore_mem (hmodel rfl) hmem ds).symm.trans h.1, h.2⟩
      exact coreStoreWordModeSpace_seen he hne hsame
    · rw [hput.target] at hne
      exact putByte_seen he hmem hne ((hput.store v m).symm.trans h.1)
    · rw [hput.target] at hne
      exact putWord_seen he hmem hne ((hput.store v m).symm.trans h.1)

end ResultOp

end K1801.Core
