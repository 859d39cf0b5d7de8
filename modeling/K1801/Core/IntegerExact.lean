import K1801.Core.AluExact
import Mathlib.Data.Nat.Bitwise

/-! # The integer instructions

What each integer instruction leaves, given the values of its operands: the exact result of
unbounded arithmetic wrapped to the width of the instruction, and the condition codes that go with it.
-/

namespace K1801.Core

open Library Library.Wrap

variable {β : Type}

/-- The condition codes of an exact result. -/
def Exact.codes (h : Nat) (e : Exact) : CcUpdate :=
  ⟨some (decide (h ≤ wrap h e.value)), some (decide (wrap h e.value = 0)), e.v, e.c⟩

namespace ResultOp

/-- The exact result of an integer instruction and its condition codes. SWAB takes them from the low
    byte of its result, SXT from N. -/
def exact (cc : CondCodes) (f : Fetched) (op : ResultOp) : Option (Int × CcUpdate) :=
  let h := op.type.half
  let src := f.src.toNat
  let dst := f.val.toNat
  let result (e : Exact) : Option (Int × CcUpdate) := some (e.value, e.codes h)
  match op with
  | single s _ _ => result (s.exact h cc.c dst)
  | swab _ =>
    some (0o400 * (dst % 0o400 : Nat) + (dst / 0o400 : Nat), Exact.codes 0o200 ⟨(dst / 0o400 : Nat), some false, some false⟩)
  | sxt _ => some (if cc.n then -1 else 0, ⟨none, some !cc.n, some false, none⟩)
  | xor _ _ => result ⟨(dst ^^^ src : Nat), some false, none⟩
  | double .mov _ _ _ => result ⟨src, some false, none⟩
  | double .cmp _ _ _ => result (.difference h src dst)
  | double .bit _ _ _ => result ⟨(src &&& dst : Nat), some false, none⟩
  | double .bic _ _ _ => result ⟨dst.ldiff src, some false, none⟩
  | double .bis _ _ _ => result ⟨(src ||| dst : Nat), some false, none⟩
  | add _ _ => result (.sum h src dst)
  | sub _ _ => result (.difference h dst src)
  | _ => none

variable {e : Env β} {m m₁ : Machine β} {f : Fetched} {op : ResultOp}

/-! ## Operands -/

section Operands

variable {t : DataType} {o : Operand} {v : Word}

theorem byte_lt (b : Byte) : (b.setWidth 16).toNat < 2 * DataType.byte.half := by
  rw [BitVec.toNat_setWidth]
  exact Nat.lt_of_le_of_lt (Nat.mod_le _ _) b.isLt

theorem getData_lt (h : (e.getData t o).run m = .done v m₁) : v.toNat < 2 * t.half := by
  cases t with
  | word => exact v.isLt
  | byte =>
    obtain ⟨b, m₂, hbyte, hlast⟩ := Program.bind_done.1 h
    cases hlast
    exact byte_lt b

theorem masked_lt (t : DataType) (x : Word) : (x &&& t.mask).toNat < 2 * t.half := by
  rw [toNat_and_mask]
  exact Nat.mod_lt _ (Nat.mul_pos (by decide) (half_pos t))

theorem sourceThenDst_lt {ss dd : Word} {x : Word × Operand}
    (h : (e.sourceThenDst t ss dd).run m = .done x m₁) : x.1.toNat < 2 * t.half := by
  unfold Env.sourceThenDst at h
  rw [Program.run_bind, regs, Program.run_read, Outcome.andThen_done] at h
  split at h
  · obtain ⟨dst, m₂, hdst, h⟩ := Program.bind_done.1 h
    cases h
    exact masked_lt t _
  · obtain ⟨src, m₂, hsrc, h⟩ := Program.bind_done.1 h
    obtain ⟨tmp, m₃, htmp, h⟩ := Program.bind_done.1 h
    obtain ⟨dst, m₄, hdst, h⟩ := Program.bind_done.1 h
    cases h
    exact getData_lt htmp

theorem sourceAndDst_lt {ss dd : Word} {x : Word × Word × Operand}
    (h : (e.sourceAndDst t ss dd).run m = .done x m₁) :
    x.1.toNat < 2 * t.half ∧ x.2.1.toNat < 2 * t.half := by
  unfold Env.sourceAndDst at h
  rw [Program.run_bind, regs, Program.run_read, Outcome.andThen_done] at h
  split at h
  · obtain ⟨dst, m₂, hdst, h⟩ := Program.bind_done.1 h
    obtain ⟨tmp, m₃, htmp, h⟩ := Program.bind_done.1 h
    cases h
    exact ⟨masked_lt t _, getData_lt htmp⟩
  · obtain ⟨src, m₂, hsrc, h⟩ := Program.bind_done.1 h
    obtain ⟨tmp, m₃, htmp, h⟩ := Program.bind_done.1 h
    obtain ⟨dst, m₄, hdst, h⟩ := Program.bind_done.1 h
    obtain ⟨tmp₁, m₅, htmp₁, h⟩ := Program.bind_done.1 h
    cases h
    exact ⟨getData_lt htmp, getData_lt htmp₁⟩

theorem zero_lt (t : DataType) : (0 : Word).toNat < 2 * t.half := by cases t <;> decide

/-- The operands are patterns of the width of the instruction. -/
theorem fetch_lt (h : (op.fetch e).run m = .done f m₁) :
    f.src.toNat < 2 * op.type.half ∧ f.val.toNat < 2 * op.type.half := by
  have hword (x : Word) : x.toNat < 2 * DataType.word.half := x.isLt
  cases op with
  | single s t dd =>
    obtain ⟨dst, m₂, hdst, h⟩ := Program.bind_done.1 h
    split at h
    · cases h
      exact ⟨zero_lt t, zero_lt t⟩
    · obtain ⟨val, m₃, hval, h⟩ := Program.bind_done.1 h
      cases h
      exact ⟨zero_lt t, getData_lt hval⟩
  | double d t ss dd =>
    cases d with
    | mov =>
      obtain ⟨x, m₂, hx, h⟩ := Program.bind_done.1 h
      cases h
      exact ⟨sourceThenDst_lt hx, zero_lt t⟩
    | _ =>
      obtain ⟨x, m₂, hx, h⟩ := Program.bind_done.1 h
      cases h
      exact sourceAndDst_lt hx
  | mfps dd =>
    obtain ⟨dst, m₂, hdst, h⟩ := Program.bind_done.1 h
    cases h
    exact ⟨zero_lt .byte, zero_lt .byte⟩
  | _ => exact ⟨hword _, hword _⟩

end Operands

/-! ## Results -/

theorem codes_exact {t : DataType} {res : AluResult} {x : Exact} (h : res.IsExact t.half x) :
    res.codes t = x.codes t.half := by
  have hsmall : res.value.toNat < 2 * t.half := by
    rw [h.value]
    exact wrap_lt (half_pos t)
  unfold AluResult.codes Exact.codes
  rw [negative_eq hsmall, beq_eq, h.value, h.v, h.c]
  rfl

/-- A bitwise result. -/
theorem bitwise_exact {t : DataType} {w : Word} {n : Nat} (hw : w.toNat = n) (hn : n < 2 * t.half) :
    AluResult.IsExact t.half ⟨n, some false, none⟩ ⟨w, some false, none⟩ :=
  ⟨hw.trans (wrap_of_lt hn).symm, rfl, rfl⟩

theorem two_half (t : DataType) : ∃ i, 2 * t.half = 2 ^ i := by
  cases t with
  | word => exact ⟨16, rfl⟩
  | byte => exact ⟨8, rfl⟩

theorem swapped_toNat (x : Word) :
    ((x >>> 8) ||| (x <<< 8)).toNat = 0o400 * (x.toNat % 0o400) + x.toNat / 0o400 := by
  have hx := x.isLt
  have hhigh : x.toNat / 0o400 < 2 ^ 8 := by omega
  have hlow : x.toNat <<< 8 % 2 ^ 16 = (x.toNat % 0o400) <<< 8 := by
    rw [Nat.shiftLeft_eq, Nat.shiftLeft_eq]
    omega
  rw [BitVec.toNat_or, BitVec.toNat_ushiftRight, BitVec.toNat_shiftLeft, hlow, Nat.or_comm,
    Nat.shiftRight_eq_div_pow]
  refine (Nat.shiftLeft_add_eq_or_of_lt hhigh _).symm.trans ?_
  rw [Nat.shiftLeft_eq]
  omega

theorem cleared_toNat (x y : Word) : (~~~x &&& y).toNat = y.toNat.ldiff x.toNat := by
  refine Nat.eq_of_testBit_eq fun i => ?_
  rw [BitVec.testBit_toNat, Nat.testBit_ldiff, BitVec.testBit_toNat, BitVec.testBit_toNat,
    BitVec.getLsbD_and, BitVec.getLsbD_not]
  cases hy : y.getLsbD i with
  | true => simp [BitVec.lt_of_getLsbD hy]
  | false => simp

theorem compute_exact {psw : Word} {x : Int × CcUpdate} (hsrc : f.src.toNat < 2 * op.type.half)
    (hval : f.val.toNat < 2 * op.type.half) (h : op.exact (condCodes psw) f = some x) :
    (op.compute psw f).1.toNat = wrap op.type.half x.1 ∧ (op.compute psw f).2 = x.2 := by
  cases op with
  | single s t dd =>
    cases h
    have hexact := singleAlu_exact hval (flagIsSet psw flagC) s
    exact ⟨hexact.value, codes_exact hexact⟩
  | swab dd =>
    cases h
    have hx := f.val.isLt
    have hlow : (((f.val >>> 8) ||| (f.val <<< 8)) &&& DataType.byte.mask).toNat = f.val.toNat / 0o400 := by
      rw [toNat_and_mask, swapped_toNat]
      simp only [DataType.half]
      omega
    have hexact := bitwise_exact (t := .byte) hlow (by simp only [DataType.half]; omega)
    refine ⟨?_, codes_exact (t := .byte) ⟨hexact.value, rfl, rfl⟩⟩
    refine (swapped_toNat f.val).trans (wrap_of_lt ?_).symm
    change 0o400 * (f.val.toNat % 0o400) + f.val.toNat / 0o400 < 65536
    omega
  | sxt dd =>
    cases h
    refine ⟨?_, rfl⟩
    change BitVec.toNat (if flagIsSet psw flagN then 0o177777 else 0) =
      wrap DataType.word.half (if flagIsSet psw flagN then -1 else 0)
    cases flagIsSet psw flagN <;> rfl
  | xor reg dd =>
    cases h
    have hexact := bitwise_exact (t := .word) (BitVec.toNat_xor f.val f.src) (f.val ^^^ f.src).isLt
    exact ⟨hexact.value, codes_exact hexact⟩
  | double d t ss dd =>
    cases d with
    | mov =>
      cases h
      have hexact := bitwise_exact rfl hsrc
      exact ⟨hexact.value, codes_exact hexact⟩
    | cmp =>
      cases h
      have hexact := compareAlu_exact hsrc hval
      exact ⟨hexact.value, codes_exact hexact⟩
    | bit =>
      cases h
      have hexact := bitwise_exact (BitVec.toNat_and f.src f.val) (Nat.lt_of_le_of_lt Nat.and_le_left hsrc)
      exact ⟨hexact.value, codes_exact hexact⟩
    | bic =>
      cases h
      have hcleared := cleared_toNat f.src f.val
      have hle : (~~~f.src &&& f.val).toNat ≤ f.val.toNat := by
        rw [BitVec.toNat_and]
        exact Nat.and_le_right
      have hexact := bitwise_exact hcleared (hcleared ▸ Nat.lt_of_le_of_lt hle hval)
      exact ⟨hexact.value, codes_exact hexact⟩
    | bis =>
      cases h
      obtain ⟨i, hi⟩ := two_half t
      have hor : f.src.toNat ||| f.val.toNat < 2 * t.half := by
        rw [hi]
        exact Nat.or_lt_two_pow (hi ▸ hsrc) (hi ▸ hval)
      have hexact := bitwise_exact (BitVec.toNat_or f.src f.val) hor
      exact ⟨hexact.value, codes_exact hexact⟩
  | add ss dd =>
    cases h
    have hexact := addAlu_exact f.src f.val
    exact ⟨hexact.value, codes_exact hexact⟩
  | sub ss dd =>
    cases h
    have hexact := compareAlu_exact hval hsrc
    rw [compute, subAlu_eq]
    exact ⟨hexact.value, codes_exact hexact⟩
  | _ => cases h

end ResultOp

/-! ## Where the result goes -/

/-- What storing the byte `v` at `offset` does to the bus: a register of the register block takes it, or
    one byte of RAM, or the host in one write of a byte. -/
inductive Env.BytePut (e : Env β) (m : Machine β) (offset : Word) (v : Byte) : β → Prop
  | register {a : Word} (hat : e.byteTarget m.core offset = some a) {r : Regs}
      (htaken : (regBlockStoreByte e.host.build r a v).isSome = true) : BytePut e m offset v m.bus
  | ram (i : Nat) : BytePut e m offset v (e.host.setRam m.bus i v)
  | host (r : Regs) (addr : Word) : BytePut e m offset v (e.host.storeByte r addr v m.bus).bus
  | hostPa {f : Regs → Dword → Byte → β → Reply β Unit} (hf : e.host.storeBytePa = some f) (r : Regs)
      (pa : Dword) : BytePut e m offset v (f r pa v m.bus).bus

section BytePuts

variable {e : Env β} {m m' : Machine β} {offset : Word} {v : Byte}

theorem callback_bus (he : e.TrapsAbort) {α : Type} {f : Regs → β → Reply β α} {a : α}
    (h : Answers (e.callback f) m a m') : m'.bus = (f m.core m.bus).bus := by
  obtain ⟨hrun, hclear⟩ := h
  obtain ⟨⟨value, nxm⟩, m₂, hreply, hrest⟩ := Program.bind_done.1 hrun
  cases nxm with
  | none =>
    cases hrest
    injection hreply with _ hmachine
    rw [← hmachine]
  | some bits =>
    have hnever : NeverAnswers (do e.nxmTrap bits; Pure.pure value : M β α) :=
      .bind_left (.bind_right fun _ => he.busErrorTrap) fun _ => .pure _
    exact absurd ⟨hrest, hclear⟩ (hnever _ a m')

theorem rawStoreBytePhys_put (he : e.TrapsAbort) {pa : Dword} (h : Answers (e.rawStoreBytePhys pa v) m () m') :
    (∃ a, dcj11IoAliasOffset e.host.build m.core pa = some a ∧
      (regBlockStoreByte e.host.build m.core a v).isSome = true ∧ m'.bus = m.bus) ∨
    (∃ r addr, m'.bus = (e.host.storeByte r addr v m.bus).bus) ∨
    ∃ f r pa, e.host.storeBytePa = some f ∧ m'.bus = (f r pa v m.bus).bus := by
  obtain ⟨hrun, hclear⟩ := h
  unfold Env.rawStoreBytePhys at hrun
  rw [Program.run_bind, regs, Program.run_read, Outcome.andThen_done] at hrun
  cases hreg : e.physRegStoreByte m.core pa v with
  | some a =>
    rw [hreg] at hrun
    cases hrun
    unfold Env.physRegStoreByte at hreg
    obtain ⟨a', halias, hreg⟩ := Option.bind_eq_some_iff.1 hreg
    obtain ⟨r', hstore, hreg⟩ := Option.bind_eq_some_iff.1 hreg
    cases hreg
    exact .inl ⟨a, halias, by rw [hstore]; rfl, rfl⟩
  | none =>
    rw [hreg] at hrun
    dsimp only at hrun
    split at hrun
    · exact .inr (.inl ⟨_, _, callback_bus he ⟨hrun, hclear⟩⟩)
    · split at hrun
      · next f hf => exact .inr (.inr ⟨f, _, pa, hf, callback_bus he ⟨hrun, hclear⟩⟩)
      · exact .inr (.inl ⟨_, _, callback_bus he ⟨hrun, hclear⟩⟩)

theorem coreStoreByte_put (he : e.TrapsAbort) (h : Answers (e.coreStoreByte offset v) m () m') :
    e.BytePut m offset v m'.bus := by
  by_cases hram : e.directRam m.core offset 1 = true
  · obtain ⟨hrun, -⟩ := h
    unfold Env.coreStoreByte Env.coreStoreByteEx at hrun
    rw [Program.run_bind, regs, Program.run_read, Outcome.andThen_done, if_pos hram] at hrun
    cases hrun
    exact .ram _
  cases htlb : e.tlbPtr m.core (currentApr m.core offset false false) offset 1 true with
  | some p =>
    obtain ⟨hrun, -⟩ := h
    unfold Env.coreStoreByte Env.coreStoreByteEx at hrun
    rw [Program.run_bind, regs, Program.run_read, Outcome.andThen_done, if_neg hram] at hrun
    dsimp only at hrun
    rw [htlb] at hrun
    cases hrun
    exact .ram p
  | none =>
    have htarget : e.byteTarget m.core offset =
        e.decodedAt m.core offset (translateVaEx e.host.build m.core offset true false false) := by
      rw [Env.byteTarget, if_neg hram, htlb, Option.isSome_none, if_neg (by decide)]
    obtain ⟨hrun, hclear⟩ := h
    rw [coreStoreByte_through hram htlb] at hrun
    cases hdecoded : e.vaRegStoreByte m.core offset v with
    | some r' =>
      rw [hdecoded] at hrun
      cases hrun
      have hva : e.vaDecodesRegs m.core = true := by
        by_contra hhidden
        rw [vaRegStoreByte_hidden (Bool.eq_false_iff.2 hhidden)] at hdecoded
        cases hdecoded
      unfold Env.vaRegStoreByte at hdecoded
      rw [if_pos hva] at hdecoded
      refine .register (htarget.trans ?_) (Option.isSome_of_eq_some hdecoded)
      rw [Env.decodedAt, if_pos hva]
    | none =>
      rw [hdecoded] at hrun
      obtain ⟨pa, hpa, hrest⟩ : ∃ pa, (translateVaEx e.host.build m.core offset true false false).1 = .ok pa ∧
          Answers (e.rawStoreBytePhys pa v)
            (Machine.after m (.translate e.host.build offset true false false)) () m' :=
        translated_answers he rfl ⟨hrun, hclear⟩
      rcases rawStoreBytePhys_put he hrest with ⟨a, halias, htaken, hbus⟩ | ⟨r, addr, hbus⟩ | ⟨f, r, pa, hf, hbus⟩
      · rw [hbus]
        refine .register (htarget.trans ?_) htaken
        cases hva : e.vaDecodesRegs m.core with
        | true =>
          change dcj11IoAliasOffset e.host.build (translateVaEx e.host.build m.core offset true false false).2 pa =
            some a at halias
          rw [translateVaEx_off hva] at halias
          unfold dcj11IoAliasOffset at halias
          rw [if_pos (by simpa [Env.vaDecodesRegs] using hva)] at halias
          cases halias
        | false =>
          rw [Env.decodedAt, hva, if_neg (by decide), hpa]
          exact halias
      · rw [hbus]
        exact .host r addr
      · rw [hbus]
        exact .hostPa hf r pa

end BytePuts

/-- What a register that held `old` holds after it has taken the result `w`: MOVB fills it with the sign,
    the other byte instructions keep its high byte. -/
def ResultOp.inRegister (old w : Word) (op : ResultOp) : Word :=
  match op, op.type with
  | double .mov _ _ _, .byte => (w.setWidth 8).signExtend 16
  | _, .byte => old.extractLsb' 8 8 ++ w.setWidth 8
  | _, .word => w

/-- The result `w` has gone where the instruction puts it, and nowhere else. -/
inductive ResultOp.Leaves (e : Env β) (dst : Operand) (w : Word) (m m' : Machine β) (op : ResultOp) : Prop
  | nowhere (hstores : op.stores = false) (same : m' = m)
  | register (hstores : op.stores = true) (hreg : dst.type = .reg)
      (set : m' = Machine.after m (.setR (Env.regOf dst) (op.inRegister (m.core.r (Env.regOf dst)) w)))
  | word (hstores : op.stores = true) (hmem : dst.type ≠ .reg) (htype : op.type = .word)
      (run : (e.coreStoreWord dst.offset w).run m = .done () m')
  | byte (hstores : op.stores = true) (hmem : dst.type ≠ .reg) (htype : op.type = .byte)
      (run : (e.coreStoreByte dst.offset (w.setWidth 8)).run m = .done () m')
      (put : e.BytePut m dst.offset (w.setWidth 8) m'.bus)

section Leaves

variable {e : Env β} {m m' : Machine β} {dst : Operand} {w : Word} {op : ResultOp}

theorem exact_dcj11Only (honly : op.dcj11Only = true) {x : Int × CcUpdate} {cc : CondCodes} {f : Fetched} :
    op.exact cc f ≠ some x := by
  cases op with
  | mtp | tstset | wrtlck => nofun
  | _ => cases honly

theorem codes_of_exact {x : Int × CcUpdate} {cc : CondCodes} {f : Fetched} (hop : op.exact cc f = some x)
    (r0 : Word) (u : CcUpdate) : op.codes r0 u = u := by
  cases op with
  | tstset => cases hop
  | _ => rfl

theorem high_byte (old : Word) (b : Byte) :
    (old &&& 0o177400) ||| b.setWidth 16 = old.extractLsb' 8 8 ++ b := by
  have hmask : (0o177400 : Word) = BitVec.allOnes 16 <<< 8 := by decide
  refine BitVec.eq_of_getLsbD_eq fun i hi => ?_
  rw [hmask, BitVec.getLsbD_or, BitVec.getLsbD_and, BitVec.getLsbD_shiftLeft, BitVec.getLsbD_allOnes,
    BitVec.getLsbD_setWidth, BitVec.getLsbD_append, BitVec.getLsbD_extractLsb']
  by_cases hlow : i < 8
  · simp [hlow, hi]
  · have hhigh : 8 + (i - 8) = i := by omega
    simp [hlow, hi, hhigh, BitVec.getLsbD_of_ge b i (by omega), show i - 8 < 8 by omega,
      show i - 8 < 16 by omega]

theorem putWord_reg (hreg : dst.type = .reg) (h : Answers (e.putWord dst w) m () m') :
    m' = Machine.after m (.setR (Env.regOf dst) w) := by
  obtain ⟨hrun, -⟩ := h
  unfold Env.putWord Env.putDataWord at hrun
  rw [hreg] at hrun
  obtain ⟨⟨⟩, m₂, hset, hleave⟩ := Program.bind_done.1 hrun
  cases hset
  exact (leaveIfAborted_done hleave).1

theorem putByte_reg (hreg : dst.type = .reg) {b : Byte} (h : Answers (e.putByte dst b) m () m') :
    m' = Machine.after m (.setR (Env.regOf dst) ((m.core.r (Env.regOf dst)).extractLsb' 8 8 ++ b)) := by
  obtain ⟨hrun, -⟩ := h
  unfold Env.putByte Env.putDataByte at hrun
  rw [hreg] at hrun
  obtain ⟨⟨⟩, m₂, hset, hleave⟩ := Program.bind_done.1 hrun
  cases hset
  rw [← high_byte]
  exact (leaveIfAborted_done hleave).1

theorem putByteMovb_reg (hreg : dst.type = .reg) {b : Byte} (h : Answers (e.putByteMovb dst b) m () m') :
    m' = Machine.after m (.setR (Env.regOf dst) (b.signExtend 16)) := by
  obtain ⟨hrun, -⟩ := h
  unfold Env.putByteMovb Env.putDataByteMovb at hrun
  rw [hreg] at hrun
  obtain ⟨⟨⟩, m₂, hset, hleave⟩ := Program.bind_done.1 hrun
  cases hset
  exact (leaveIfAborted_done hleave).1

theorem set_of_store (hreg : dst.type = .reg) {x : Int × CcUpdate} {cc : CondCodes} {f : Fetched}
    (hop : op.exact cc f = some x) (hstores : op.stores = true) (h : Answers (op.store e dst w) m () m') :
    m' = Machine.after m (.setR (Env.regOf dst) (op.inRegister (m.core.r (Env.regOf dst)) w)) := by
  cases op with
  | mfps | mtp | tstset | wrtlck => cases hop
  | single s t dd =>
    cases t with
    | word =>
      cases s with
      | tst => cases hstores
      | _ => exact putWord_reg hreg h
    | byte =>
      cases s with
      | tst => cases hstores
      | _ => exact putByte_reg hreg h
  | double d t ss dd =>
    cases t with
    | word =>
      cases d with
      | cmp | bit => cases hstores
      | _ => exact putWord_reg hreg h
    | byte =>
      cases d with
      | cmp | bit => cases hstores
      | mov => exact putByteMovb_reg hreg h
      | _ => exact putByte_reg hreg h
  | _ => exact putWord_reg hreg h

theorem leaves_of_store (he : e.TrapsAbort) {x : Int × CcUpdate} {cc : CondCodes} {f : Fetched}
    (hop : op.exact cc f = some x) (h : Answers (op.store e dst w) m () m') : op.Leaves e dst w m m' := by
  cases hstores : op.stores with
  | false =>
    rw [ResultOp.store_nothing hstores] at h
    cases h.1
    exact .nowhere hstores rfl
  | true =>
    by_cases hreg : dst.type = .reg
    · exact .register hstores hreg (set_of_store hreg hop hstores h)
    rcases ResultOp.store_cases e hreg hstores with ⟨ds, dd, rfl⟩ | hput | hput
    · cases hop
    · have hrun := (hput.store w m).symm.trans h.1
      rw [ResultOp.putByte_mem hreg] at hrun
      have hanswers := ResultOp.answers_leaveIfAborted hrun
      exact .byte hstores hreg hput.type hanswers.1 (coreStoreByte_put he hanswers)
    · have hrun := (hput.store w m).symm.trans h.1
      rw [ResultOp.putWord_mem hreg] at hrun
      exact .word hstores hreg hput.type (ResultOp.answers_leaveIfAborted hrun).1

/-- A result that goes to a register or nowhere leaves the PSW alone, and so does one that goes to memory
    but not to the PSW. -/
theorem psw_of_store (he : e.TrapsAbort) {x : Int × CcUpdate} {cc : CondCodes} {f : Fetched}
    (hop : op.exact cc f = some x) (h : Answers (op.store e dst w) m () m')
    (hne : op.stores = true → dst.type ≠ .reg → ¬ TargetsPsw (op.target e m.core dst) m.core) :
    m'.core.psw = m.core.psw ∧ m'.core.dcj11ExplicitPswWrite = m.core.dcj11ExplicitPswWrite := by
  cases hstores : op.stores with
  | false =>
    rw [ResultOp.store_nothing hstores] at h
    cases h.1
    exact ⟨rfl, rfl⟩
  | true =>
    by_cases hreg : dst.type = .reg
    · rw [set_of_store hreg hop hstores h]
      exact ⟨rfl, rfl⟩
    · have hseen := ResultOp.store_seen he (fun honly => absurd hop (exact_dcj11Only honly)) hreg
        (hne hstores hreg) h
      simp only [Regs.seen, Prod.mk.injEq] at hseen
      exact ⟨hseen.2.2.1, hseen.2.2.2.2⟩

end Leaves

/-- An integer instruction whose operands are fetched and whose result is stored leaves the exact result,
    wrapped to its width, and the condition codes of unbounded arithmetic. Only a J-11 store to the PSW
    takes their place. -/
theorem integer_alu_exact (h : Host β) (n : Nat) {op : ResultOp} {m m₁ m₂ : Machine β} {f : Fetched}
    {x : Int × CcUpdate} (hstart : AtInstruction m.core) (hop : op.exact (condCodes m.core.psw) f = some x)
    (hfetch : Answers (op.fetch (Env.nested h n)) m f m₁)
    (hstore : Answers (op.store (Env.nested h n) f.dst (op.compute m.core.psw f).1) m₁ () m₂) :
    let e := Env.nested h n
    let hitsPsw := fun a => op.stores = true ∧ f.dst.type ≠ .reg ∧ op.target e m₁.core f.dst = some a ∧
      HitsPsw a m₁.core
    ∃ (w : Word) (m' : Machine β), w.toNat = wrap op.type.half x.1 ∧ op.Leaves e f.dst w m₁ m₂ ∧
      (e.execute op.instr).run m = .done {} m' ∧ m'.bus = m₂.bus ∧ m'.core.r = m₂.core.r ∧
      ((¬ ∃ a, hitsPsw a) → condCodes m'.core.psw = x.2.apply (condCodes m.core.psw) ∧
        m'.core.psw &&& ~~~ccMask = m.core.psw &&& ~~~ccMask) ∧
      ∀ a, hitsPsw a → m'.core.psw = (op.stored m.core.psw a w &&& ~~~flagT) ||| (m.core.psw &&& flagT) := by
  intro e hitsPsw
  have he := Env.nested_trapsAbort h n
  obtain ⟨hsame, hpsw, -, hexplicit⟩ := fetch_kept he hfetch
  obtain ⟨hsrc, hval⟩ := ResultOp.fetch_lt hfetch.1
  obtain ⟨hvalue, hcodes⟩ := ResultOp.compute_exact hsrc hval hop
  have hexecute := ResultOp.execute_run (fun honly => absurd hop (exact_dcj11Only honly)) hfetch
  rw [hpsw] at hexecute
  have hupdate : op.codes (m₂.core.r 0) (op.compute m.core.psw f).2 = x.2 :=
    (codes_of_exact hop _ _).trans hcodes
  have hrun := hexecute.trans (finish_run hstore.1)
  rw [hupdate] at hrun
  have hregs : (Machine.after m₂ x.2.micro).core.r = m₂.core.r :=
    congrArg (fun r => r.r) (setCc_fields x.2.n x.2.z x.2.v x.2.c m₂.core)
  refine ⟨_, _, hvalue, leaves_of_store he hop hstore, hrun, rfl, hregs, fun hmiss => ?_, ?_⟩
  · obtain ⟨hpsw₂, hexplicit₂⟩ := psw_of_store he hop hstore
      (fun hstores hmem ⟨a, hat, hhit⟩ => hmiss ⟨a, hstores, hmem, hat, hhit⟩)
    obtain ⟨hset, hrest⟩ := codes_open (hexplicit₂.trans (hexplicit.trans hstart.implicitPsw)) x.2
    rw [hset, hrest, hpsw₂, hpsw]
    exact ⟨rfl, rfl⟩
  · rintro a ⟨hstores, hmem, hat, hhit⟩
    obtain ⟨m₂', hstored, hin⟩ := ResultOp.store_psw (v := (op.compute m.core.psw f).1) hfetch.2 hmem hstores hat hhit
    obtain rfl : m₂ = m₂' := by
      have hboth := hstore.1.symm.trans hstored
      injection hboth
    rw [codes_after_psw hin.model hin.explicit, hin.psw, hpsw]

/-- R1 points at the odd byte of a word of ones, and C is set. -/
def onesMachine : Machine Memory where
  core := { model := .dcj11, psw := 1, pswBefore := 1, r := fun i => if i = 1 then 0o1001 else 0 }
  bus := Memory.ofWords 0o1000 [0o177777]

/-- The same after the byte has been read and after it has been written. -/
def onesRead : Machine Memory :=
  Machine.after onesMachine (.translate (hwstub false).build 0o1001 false false false)

def onesWritten : Machine Memory :=
  { Machine.after onesRead (.translate (hwstub false).build 0o1001 true false false) with
    bus := Function.update onesMachine.bus 0o1001 0 }

/-- `ADCB (R1)` carries out of the byte it clears and keeps the byte below. -/
theorem integer_alu_exact_adcb : ∃ m' : Machine Memory,
    ((Env.nested (hwstub false) 1).execute (.single .adc .byte 0o11)).run onesMachine = .done {} m' ∧
      m'.bus 0o1000 = 0o377 ∧ m'.bus 0o1001 = 0 ∧ condCodes m'.core.psw = ⟨false, true, false, true⟩ := by
  have hfetch : Answers ((ResultOp.single .adc .byte 0o11).fetch (Env.nested (hwstub false) 1)) onesMachine
      ⟨⟨.mem, 0o1001⟩, 0, 0o377⟩ onesRead := ⟨rfl, rfl⟩
  have hstore : Answers ((ResultOp.single .adc .byte 0o11).store (Env.nested (hwstub false) 1) ⟨.mem, 0o1001⟩
      ((ResultOp.single .adc .byte 0o11).compute onesMachine.core.psw ⟨⟨.mem, 0o1001⟩, 0, 0o377⟩).1)
      onesRead () onesWritten := ⟨rfl, rfl⟩
  have htarget : (ResultOp.single .adc .byte 0o11).target (Env.nested (hwstub false) 1) onesRead.core
      ⟨.mem, 0o1001⟩ = some 0o1001 := rfl
  obtain ⟨w, m', -, -, hrun, hbus, -, hflags, -⟩ :=
    integer_alu_exact (hwstub false) 1 ⟨rfl, rfl, rfl⟩ rfl hfetch hstore
  have hcodes := hflags fun ⟨a, _, _, hat, hhit⟩ => by
    obtain rfl := Option.some.inj (htarget.symm.trans hat)
    exact absurd hhit.2 (by decide)
  refine ⟨m', hrun, ?_, ?_, hcodes.1.trans (by decide)⟩
  · rw [hbus]
    rfl
  · rw [hbus]
    rfl

end K1801.Core
