import Mathlib.Tactic.IntervalCases
import K1801.Lsi11.LatchEffects
import K1801.Lsi11.Rh11

/-! # What the RH11 takes from its registers

A byte written to a register acts on the latch of the controller by a few calls, accepts a command, or ends the one
that is pending. What a poll would carry out is the order that the registers hold.
-/

namespace K1801.Lsi11

open Core Library

/-- What a poll carries out. -/
structure RhOrder where
  fnc : Word
  unit : BitVec 3
  bai : Word
  wc : Word
  ba : Word
  ext : Byte
  dc : Word
  da : Word
  deriving Repr, DecidableEq

namespace Rh11

def order (rh : Rh11) : RhOrder where
  fnc := rh.rhcs1 &&& rhcs1FuncMask
  unit := rh.selectedDrive
  bai := rh.rhcs2 &&& rhcs2Bai
  wc := rh.rhwc
  ba := rh.rhba
  ext := rh.dmaExtGet
  dc := rh.rhdc
  da := rh.rhda

def go (rh : Rh11) : Bool := rh.rhcs1 &&& rhcs1Go ≠ 0

/-- The low byte of RHCS1. -/
def isCs1Low (addr : Word) : Bool := addr &&& 0o177776 = rhcs1Reg && addr &&& 1 = 0

/-- The high byte of RHCS1. -/
def isCs1High (addr : Word) : Bool := addr &&& 0o177776 = rhcs1Reg && addr &&& 1 ≠ 0

/-- The byte starts a command. -/
def accepts (addr : Word) (b : Byte) (rh : Rh11) : Bool :=
  isCs1Low addr && b.setWidth 16 &&& rhcs1Go ≠ 0 && !rh.go && rh.l.done

/-- The byte asks for a command while one is pending. -/
def aborts (addr : Word) (b : Byte) (rh : Rh11) : Bool :=
  isCs1Low addr && b.setWidth 16 &&& rhcs1Go ≠ 0 && rh.go && !rh.l.done

/-- The byte clears the controller. -/
def clears (addr : Word) (b : Byte) (rh : Rh11) : Bool :=
  (isCs1High addr && (b.setWidth 16 : Word) <<< 8 &&& rhcs1CerrCclr ≠ 0) ||
    (addr &&& 0o177776 = rhcs2Reg && addr &&& 1 = 0 && b.setWidth 16 &&& rhcs2Sclr ≠ 0 && !rh.go)

def storeEffect (addr : Word) (b : Byte) (rh : Rh11) : LatchEffect :=
  if isCs1Low addr then
    .calls (some (b.setWidth 16 &&& rhcs1Ie ≠ 0))
      (rh.rhcs1 &&& rhcs1Ie = 0 && b.setWidth 16 &&& rhcs1Ie ≠ 0 && b.setWidth 16 &&& rhcs1Rdy ≠ 0)
      (rh.accepts addr b) (rh.aborts addr b)
  else if rh.clears addr b then .reset true
  else if addr &&& 0o177776 = rhmr3Reg ∧ addr &&& 1 = 0 ∧ rh.mode = .rh70 ∧ rh.go = false then
    .calls (some (b.setWidth 16 &&& rhcs1Ie ≠ 0)) false false false
  else .none

/-! ## Status -/

abbrev cs1Base : Word := rhcs1Rdy ||| rhcs1Ie ||| rhcs1CerrCclr

/-- Bits put in again. -/
theorem merge_bits (w s : Word) {k : Word} (hs : s &&& k = s) :
    (((w &&& ~~~k) ||| s) &&& ~~~k) ||| s = (w &&& ~~~k) ||| s := by
  rw [← hs]
  apply BitVec.eq_of_getLsbD_eq
  intro i hi
  simp only [BitVec.getLsbD_and, BitVec.getLsbD_or, BitVec.getLsbD_not, hi, decide_true, Bool.true_and]
  cases k.getLsbD i <;> simp

/-- Bits that a merge leaves alone. -/
theorem merge_other (w s : Word) {k m : Word} (hs : s &&& m = 0) (hk : ~~~k &&& m = m) :
    ((w &&& ~~~k) ||| s) &&& m = w &&& m := by
  have hzero : ∀ x : Word, x ||| 0 = x := fun x => BitVec.or_zero
  rw [BitVec.and_comm, BitVec.and_or_distrib_left, BitVec.and_comm m s, hs, hzero, BitVec.and_comm, BitVec.and_assoc,
    hk]

theorem cs1Status_form (rh : Rh11) : ∃ c : Word, (c = 0 ∨ c = rhcs1CerrCclr) ∧
    rh.cs1Status = (if rh.l.done then rhcs1Rdy else 0) ||| (if rh.l.ie then rhcs1Ie else 0) ||| c := by
  refine ⟨_, ?_, rfl⟩
  split
  · exact Or.inr rfl
  · exact Or.inl rfl

/-- Status bits only. -/
theorem cs1Status_bits (rh : Rh11) : rh.cs1Status &&& cs1Base = rh.cs1Status := by
  obtain ⟨c, hc, hform⟩ := rh.cs1Status_form
  rw [hform]
  cases rh.l.done <;> cases rh.l.ie <;> rcases hc with rfl | rfl <;> decide

/-- The status is up to date. -/
def Synced (rh : Rh11) : Prop := rh.syncStatus = rh

theorem synced_syncStatus (rh : Rh11) : rh.syncStatus.Synced := by
  have hie : (if rh.l.ie then rhcs1Ie else 0) &&& rhcs1Ie = if rh.l.ie then rhcs1Ie else 0 := by
    split <;> decide
  have hdrdy : (if rh.driveFp.isSome then rhdsDrdy else 0) &&& rhdsDrdy = if rh.driveFp.isSome then rhdsDrdy else 0 := by
    split <;> decide
  have hcs1 := merge_bits rh.rhcs1 rh.cs1Status rh.cs1Status_bits
  have hmr3 := merge_bits rh.rhmr3 _ hie
  have hds := merge_bits rh.rhds _ hdrdy
  unfold Synced syncStatus
  cases hmode : rh.mode with
  | rh11 =>
    show ({ rh with
      rhcs1 := (((rh.rhcs1 &&& ~~~cs1Base) ||| rh.cs1Status) &&& ~~~cs1Base) ||| rh.cs1Status
      rhds := (((rh.rhds &&& ~~~rhdsDrdy) ||| if rh.driveFp.isSome then rhdsDrdy else 0) &&& ~~~rhdsDrdy) |||
        if rh.driveFp.isSome then rhdsDrdy else 0
      mode := .rh11 } : Rh11) = _
    rw [hcs1, hds]
  | rh70 =>
    show ({ rh with
      rhcs1 := (((rh.rhcs1 &&& ~~~cs1Base) ||| rh.cs1Status) &&& ~~~cs1Base) ||| rh.cs1Status
      rhmr3 := (((rh.rhmr3 &&& ~~~rhcs1Ie) ||| if rh.l.ie then rhcs1Ie else 0) &&& ~~~rhcs1Ie) |||
        if rh.l.ie then rhcs1Ie else 0
      rhds := (((rh.rhds &&& ~~~rhdsDrdy) ||| if rh.driveFp.isSome then rhdsDrdy else 0) &&& ~~~rhdsDrdy) |||
        if rh.driveFp.isSome then rhdsDrdy else 0
      mode := .rh70 } : Rh11) = _
    rw [hcs1, hmr3, hds]

/-- Bits of RHCS1 that are not status stay. -/
theorem syncStatus_cs1 (rh : Rh11) {k : Word} (hk : ~~~cs1Base &&& k = k) :
    rh.syncStatus.rhcs1 &&& k = rh.rhcs1 &&& k := by
  have hstatus : rh.cs1Status &&& k = 0 := by
    rw [← cs1Status_bits, BitVec.and_assoc, ← hk, ← BitVec.and_assoc cs1Base, BitVec.and_not_self]
    simp
  exact merge_other _ _ hstatus hk

theorem go_syncStatus (rh : Rh11) : rh.syncStatus.go = rh.go := by
  unfold go
  rw [rh.syncStatus_cs1 (by decide)]

@[simp] theorem syncStatus_l (rh : Rh11) : rh.syncStatus.l = rh.l := rfl

theorem order_syncStatus (rh : Rh11) : rh.syncStatus.order = rh.order := by
  have hext : rh.syncStatus.dmaExtGet = rh.dmaExtGet := by
    unfold dmaExtGet
    have hbits : rh.syncStatus.cs1BaExtGet = rh.cs1BaExtGet := by
      unfold cs1BaExtGet
      rw [rh.syncStatus_cs1 (by decide)]
    have hmode : rh.syncStatus.mode = rh.mode := rfl
    have hrhmr2 : rh.syncStatus.rhmr2 = rh.rhmr2 := rfl
    simp only [dmaExtGet, hmode, hrhmr2, hbits]
  unfold order
  rw [rh.syncStatus_cs1 (by decide), hext]
  rfl

theorem Synced.ie {rh : Rh11} (h : rh.Synced) : rh.rhcs1 &&& rhcs1Ie ≠ 0 ↔ rh.l.ie = true := by
  have hbit : rh.syncStatus.rhcs1 &&& rhcs1Ie = rh.cs1Status &&& rhcs1Ie := by
    show ((rh.rhcs1 &&& ~~~cs1Base) ||| rh.cs1Status) &&& rhcs1Ie = _
    apply BitVec.eq_of_getLsbD_eq
    intro i hi
    simp only [BitVec.getLsbD_and, BitVec.getLsbD_or, BitVec.getLsbD_not]
    interval_cases i <;> simp
  rw [h] at hbit
  obtain ⟨c, hc, hform⟩ := rh.cs1Status_form
  rw [hbit, hform]
  cases rh.l.done <;> cases rh.l.ie <;> rcases hc with rfl | rfl <;> decide

theorem finishCommand_go (rh : Rh11) : rh.finishCommand.go = false := by
  unfold finishCommand
  rw [go_syncStatus]
  refine decide_eq_false fun h => h ?_
  show rh.rhcs1 &&& ~~~rhcs1Go &&& rhcs1Go = 0
  rw [BitVec.and_assoc]
  exact BitVec.and_zero

theorem controllerClear_go (rh : Rh11) : rh.controllerClear.go = false := by
  unfold controllerClear
  rw [go_syncStatus]
  refine decide_eq_false fun h => h ?_
  show rh.rhcs1 &&& ~~~(rhcs1Go ||| rhcs1BaExtMask) &&& rhcs1Go = 0
  rw [BitVec.and_assoc]
  exact BitVec.and_zero

theorem reset_go (rh : Rh11) : rh.reset.go = false := by
  unfold reset
  rw [go_syncStatus]
  show decide ((0 : Word) &&& rhcs1Go ≠ 0) = false
  decide

theorem setCs2Error_go (bit : Word) (rh : Rh11) : (rh.setCs2Error bit).go = rh.go := go_syncStatus _

/-! ## Extension bits -/

theorem cs1BaExtSet_l (ext : Byte) (rh : Rh11) : (rh.cs1BaExtSet ext).l = rh.l := by
  unfold cs1BaExtSet
  cases rh.mode <;> rfl

theorem cs1BaExtSet_cs1 (ext : Byte) (rh : Rh11) {k : Word} (hk : ~~~rhcs1BaExtMask &&& k = k) :
    (rh.cs1BaExtSet ext).rhcs1 &&& k = rh.rhcs1 &&& k := by
  have hform : (rh.cs1BaExtSet ext).rhcs1 = (rh.rhcs1 &&& ~~~rhcs1BaExtMask) ||| ((ext.setWidth 16 &&& 3) <<< 8) := by
    unfold cs1BaExtSet
    cases rh.mode <;> rfl
  have hbits : ((ext.setWidth 16 &&& 3) <<< 8 : Word) &&& k = 0 := by
    have hmask : ((ext.setWidth 16 &&& 3) <<< 8 : Word) &&& ~~~rhcs1BaExtMask = 0 := by
      apply BitVec.eq_of_getLsbD_eq
      intro i hi
      simp only [BitVec.getLsbD_and, BitVec.getLsbD_not, BitVec.getLsbD_shiftLeft]
      interval_cases i <;> simp
    rw [← hk, ← BitVec.and_assoc, hmask]
    exact BitVec.zero_and
  rw [hform]
  exact merge_other _ _ hbits hk

theorem cs1BaExtSet_go (ext : Byte) (rh : Rh11) : (rh.cs1BaExtSet ext).go = rh.go := by
  unfold go
  rw [rh.cs1BaExtSet_cs1 ext (by decide)]

theorem cs1BaExtSet_ext (ext : Byte) (rh : Rh11) :
    (rh.cs1BaExtSet ext).dmaExtGet = (rh.dmaExtGet &&& ~~~(3 : Byte)) ||| (ext &&& 3) := by
  have hbits : ∀ w : Word, ((((w &&& ~~~rhcs1BaExtMask) ||| ((ext.setWidth 16 &&& 3) <<< 8)) &&& rhcs1BaExtMask) >>>
      8).setWidth 8 = ((((w &&& rhcs1BaExtMask) >>> 8).setWidth 8 : Byte) &&& ~~~(3 : Byte)) ||| (ext &&& 3) := by
    intro w
    apply BitVec.eq_of_getLsbD_eq
    intro i hi
    simp only [BitVec.getLsbD_and, BitVec.getLsbD_or, BitVec.getLsbD_not, BitVec.getLsbD_shiftLeft,
      BitVec.getLsbD_ushiftRight, BitVec.getLsbD_setWidth]
    interval_cases i <;> simp
  have hbits' : ∀ w : Word, (((w &&& ~~~(3 : Word)) ||| (ext.setWidth 16 &&& 3)) &&& rhbaeImp).setWidth 8 =
      (((w &&& rhbaeImp).setWidth 8 : Byte) &&& ~~~(3 : Byte)) ||| (ext &&& 3) := by
    intro w
    apply BitVec.eq_of_getLsbD_eq
    intro i hi
    simp only [BitVec.getLsbD_and, BitVec.getLsbD_or, BitVec.getLsbD_not, BitVec.getLsbD_setWidth]
    interval_cases i <;> simp
  cases rh with
  | mk _ _ _ _ _ _ _ _ _ _ _ _ _ _ _ _ _ mode =>
    cases mode with
    | rh11 => exact hbits _
    | rh70 => exact hbits' _

theorem order_cs1BaExtSet (ext : Byte) (rh : Rh11) : (rh.cs1BaExtSet ext).order =
    { rh.order with ext := (rh.dmaExtGet &&& ~~~(3 : Byte)) ||| (ext &&& 3) } := by
  unfold order
  rw [cs1BaExtSet_ext, rh.cs1BaExtSet_cs1 ext (by decide)]
  unfold cs1BaExtSet
  cases rh.mode <;> rfl

/-- The extension stays when its low two bits do. -/
theorem ext_kept_iff (x e : Byte) : (x &&& ~~~(3 : Byte)) ||| (e &&& 3) = x ↔ e &&& 3 = x &&& 3 := by
  constructor
  · intro h
    rw [← h]
    apply BitVec.eq_of_getLsbD_eq
    intro i hi
    simp only [BitVec.getLsbD_and, BitVec.getLsbD_or, BitVec.getLsbD_not]
    interval_cases i <;> simp
  · intro h
    rw [h]
    apply BitVec.eq_of_getLsbD_eq
    intro i hi
    simp only [BitVec.getLsbD_and, BitVec.getLsbD_or, BitVec.getLsbD_not]
    interval_cases i <;> simp

/-! ## The low byte of RHCS1 -/

theorem loadCs1_eq (b : Byte) (rh : Rh11) : rh.loadCs1 b =
    { rh with
      rhcs1 := (rh.rhcs1 &&& ~~~(rhcs1FuncMask ||| rhcs1Ie)) ||| (b.setWidth 16 &&& (rhcs1FuncMask ||| rhcs1Ie))
      l := (rh.l.setIe (b.setWidth 16 &&& rhcs1Ie ≠ 0)).raiseIf
        (rh.rhcs1 &&& rhcs1Ie = 0 && b.setWidth 16 &&& rhcs1Ie ≠ 0 && b.setWidth 16 &&& rhcs1Rdy ≠ 0) } := by
  have hie : ∀ w v : Word, ((w &&& ~~~(rhcs1FuncMask ||| rhcs1Ie)) ||| (v &&& (rhcs1FuncMask ||| rhcs1Ie))) &&&
      rhcs1Ie = v &&& rhcs1Ie := by
    intro w v
    apply BitVec.eq_of_getLsbD_eq
    intro i hi
    simp only [BitVec.getLsbD_and, BitVec.getLsbD_or, BitVec.getLsbD_not]
    interval_cases i <;> simp
  unfold loadCs1
  dsimp only
  rw [hie, IrqLatch.setIe_ie]
  by_cases hold : rh.rhcs1 &&& rhcs1Ie = 0
  · by_cases hraise : (decide (b.setWidth 16 &&& rhcs1Ie ≠ 0) && decide (b.setWidth 16 &&& rhcs1Rdy ≠ 0)) = true
    · simp only [hold, Bool.true_and, hraise, ne_eq, not_true, decide_false, Bool.not_false, if_true, decide_true,
        IrqLatch.raiseIf]
      rfl
    · simp only [hold, Bool.true_and, hraise, ne_eq, not_true, decide_false, Bool.not_false, decide_true,
        IrqLatch.raiseIf]
      rfl
  · simp only [hold, ne_eq, not_false_eq_true, decide_true, Bool.not_true, Bool.false_and, decide_false,
      IrqLatch.raiseIf]
    rfl

theorem loadCs1_cs1 (b : Byte) (rh : Rh11) {k : Word} (hk : ~~~(rhcs1FuncMask ||| rhcs1Ie) &&& k = k) :
    (rh.loadCs1 b).rhcs1 &&& k = rh.rhcs1 &&& k := by
  have hbits : ∀ v m : Word, (v &&& m) &&& ~~~m = 0 := by
    intro v m
    rw [BitVec.and_assoc, BitVec.and_not_self]
    simp
  rw [loadCs1_eq]
  refine merge_other _ _ ?_ hk
  rw [← hk, ← BitVec.and_assoc, hbits]
  exact BitVec.zero_and

theorem loadCs1_fnc (b : Byte) (rh : Rh11) : (rh.loadCs1 b).rhcs1 &&& rhcs1FuncMask = b.setWidth 16 &&& rhcs1FuncMask := by
  rw [loadCs1_eq]
  show ((rh.rhcs1 &&& ~~~(rhcs1FuncMask ||| rhcs1Ie)) ||| (_ &&& (rhcs1FuncMask ||| rhcs1Ie))) &&& rhcs1FuncMask = _
  apply BitVec.eq_of_getLsbD_eq
  intro i hi
  simp only [BitVec.getLsbD_and, BitVec.getLsbD_or, BitVec.getLsbD_not]
  interval_cases i <;> simp

theorem loadCs1_l (b : Byte) (rh : Rh11) : (rh.loadCs1 b).l = (rh.l.setIe (b.setWidth 16 &&& rhcs1Ie ≠ 0)).raiseIf
    (rh.rhcs1 &&& rhcs1Ie = 0 && b.setWidth 16 &&& rhcs1Ie ≠ 0 && b.setWidth 16 &&& rhcs1Rdy ≠ 0) := by
  rw [loadCs1_eq]

theorem loadCs1_done (b : Byte) (rh : Rh11) : (rh.loadCs1 b).l.done = rh.l.done := by
  rw [loadCs1_l, IrqLatch.raiseIf_done, IrqLatch.setIe_done]

theorem loadCs1_go (b : Byte) (rh : Rh11) : (rh.loadCs1 b).go = rh.go := by
  unfold go
  rw [rh.loadCs1_cs1 b (by decide)]

theorem order_loadCs1 (b : Byte) (rh : Rh11) :
    (rh.loadCs1 b).order = { rh.order with fnc := b.setWidth 16 &&& rhcs1FuncMask } := by
  have hext : (rh.loadCs1 b).dmaExtGet = rh.dmaExtGet := by
    have hcs1 := rh.loadCs1_cs1 b (k := rhcs1BaExtMask) (by decide)
    rw [loadCs1_eq] at hcs1 ⊢
    cases rh with
    | mk _ _ _ _ _ _ _ _ _ _ _ _ _ _ _ _ _ mode =>
      cases mode with
      | rh11 => exact congrArg (fun w : Word => (w >>> 8).setWidth 8) hcs1
      | rh70 => rfl
  unfold order
  rw [loadCs1_fnc, hext, loadCs1_eq]
  rfl

/-- The four ways a low byte of RHCS1 goes. -/
theorem writeCs1Low_cases (b : Byte) (rh : Rh11) :
    (b.setWidth 16 &&& rhcs1Go ≠ 0 ∧ rh.go = true ∧ rh.l.done = false ∧
        rh.writeCs1Low b = ((rh.loadCs1 b).setCs2Error rhcs2Pge).finishCommand) ∨
      (b.setWidth 16 &&& rhcs1Go ≠ 0 ∧ rh.go = false ∧ rh.l.done = true ∧ ∃ rh' : Rh11,
          rh.writeCs1Low b = rh'.syncStatus ∧ rh'.l = (rh.loadCs1 b).l.swClearDone ∧
            rh'.rhcs1 = (rh.loadCs1 b).rhcs1 ||| rhcs1Go) ∨
      ((b.setWidth 16 &&& rhcs1Go = 0 ∨ (rh.go = true ∧ rh.l.done = true)) ∧
        rh.writeCs1Low b = (rh.loadCs1 b).syncStatus) ∨
      (b.setWidth 16 &&& rhcs1Go ≠ 0 ∧ rh.go = false ∧ rh.l.done = false ∧
        rh.writeCs1Low b = ((rh.loadCs1 b).setCs2Error rhcs2Pge).syncStatus) := by
  have hgo : rh.go = true ↔ rh.rhcs1 &&& rhcs1Go ≠ 0 := decide_eq_true_iff
  unfold writeCs1Low
  dsimp only
  rw [loadCs1_done]
  by_cases hv : b.setWidth 16 &&& rhcs1Go = 0
  · rw [if_neg fun h => h.1 hv, if_neg fun h => h.1 hv]
    exact Or.inr (Or.inr (Or.inl ⟨Or.inl hv, rfl⟩))
  · cases hold : rh.go with
    | true =>
      have hold' := hgo.1 hold
      cases hdone : rh.l.done with
      | false =>
        rw [if_pos ⟨hv, hold', rfl⟩]
        exact Or.inl ⟨hv, rfl, rfl, rfl⟩
      | true =>
        rw [if_neg fun h => absurd h.2.2 (by decide), if_neg fun h => h.2 hold']
        exact Or.inr (Or.inr (Or.inl ⟨Or.inr ⟨rfl, rfl⟩, rfl⟩))
    | false =>
      have hold' : ¬ rh.rhcs1 &&& rhcs1Go ≠ 0 := fun h => absurd (hold.symm.trans (hgo.2 h)) (by decide)
      rw [if_neg fun h => hold' h.2.1, if_pos ⟨hv, hold'⟩]
      cases hdone : rh.l.done with
      | false =>
        rw [if_pos (by decide)]
        exact Or.inr (Or.inr (Or.inr ⟨hv, rfl, rfl, rfl⟩))
      | true =>
        rw [if_neg (by decide)]
        exact Or.inr (Or.inl ⟨hv, rfl, rfl, _, rfl, rfl, rfl⟩)

/-! ## Bytes -/

theorem isCs1Low_iff {addr : Word} : isCs1Low addr = true ↔ addr &&& 0o177776 = rhcs1Reg ∧ addr &&& 1 = 0 := by
  unfold isCs1Low
  rw [Bool.and_eq_true, decide_eq_true_eq, decide_eq_true_eq]

theorem isCs1High_iff {addr : Word} : isCs1High addr = true ↔ addr &&& 0o177776 = rhcs1Reg ∧ addr &&& 1 ≠ 0 := by
  unfold isCs1High
  rw [Bool.and_eq_true, decide_eq_true_eq, decide_eq_true_eq]

/-- A byte of RHCS1. -/
theorem write8_cs1 (rh : Rh11) {addr : Word} (b : Byte) (hbase : addr &&& 0o177776 = rhcs1Reg) :
    rh.write8 addr b = if addr &&& 1 ≠ 0 then rh.writeCs1High b else rh.writeCs1Low b := by
  unfold write8
  dsimp only
  rw [hbase, if_neg (by rintro (h | h | h | h | ⟨h | h, -⟩) <;> exact absurd h (by decide)), if_pos rfl]

/-- A byte of another register while a command is pending. -/
theorem write8_refused (rh : Rh11) {addr : Word} (b : Byte) (hcs1 : addr &&& 0o177776 ≠ rhcs1Reg)
    (hgo : rh.go = true) : rh.write8 addr b = rh ∨ rh.write8 addr b = rh.setCs2Error rhcs2Pge := by
  have hgo' : rh.rhcs1 &&& rhcs1Go ≠ 0 := of_decide_eq_true hgo
  unfold write8
  dsimp only
  rw [if_neg hcs1, if_pos hgo']
  split
  · exact Or.inl rfl
  · split
    · exact Or.inl rfl
    · exact Or.inr rfl

/-- The registers without calls leave latch and GO alone. -/
theorem write8_keeps (rh : Rh11) {addr : Word} (b : Byte) (hcs1 : addr &&& 0o177776 ≠ rhcs1Reg)
    (hcs2 : ¬ (addr &&& 0o177776 = rhcs2Reg ∧ addr &&& 1 = 0))
    (hmr3 : ¬ (addr &&& 0o177776 = rhmr3Reg ∧ addr &&& 1 = 0 ∧ rh.mode = .rh70)) :
    (rh.write8 addr b).l = rh.l ∧ (rh.write8 addr b).go = rh.go := by
  let Keeps : Rh11 → Prop := fun x => x.l = rh.l ∧ x.go = rh.go
  have hset : ∀ (rh' : Rh11) (ext : Byte), Keeps rh' → Keeps (rh'.cs1BaExtSet ext) := fun rh' ext h =>
    ⟨(rh'.cs1BaExtSet_l ext).trans h.1, (rh'.cs1BaExtSet_go ext).trans h.2⟩
  have hsync : ∀ rh' : Rh11, Keeps rh' → Keeps rh'.syncStatus := fun rh' h => ⟨h.1, rh'.go_syncStatus.trans h.2⟩
  show Keeps (rh.write8 addr b)
  unfold write8
  dsimp only
  refine iteInduction (motive := Keeps) (fun _ => ⟨rfl, rfl⟩) fun hro => ?_
  refine iteInduction (motive := Keeps) (fun h => absurd h hcs1) fun _ => ?_
  refine iteInduction (motive := Keeps) (fun _ => ⟨rfl, rfl⟩) fun hblock => ?_
  refine iteInduction (motive := Keeps) (fun _ => ⟨rfl, setCs2Error_go _ rh⟩) fun _ => ?_
  refine iteInduction (motive := Keeps) (fun _ => ⟨rfl, rfl⟩) fun hwc => ?_
  refine iteInduction (motive := Keeps) (fun _ => ⟨rfl, rfl⟩) fun hba => ?_
  refine iteInduction (motive := Keeps) (fun _ => ⟨rfl, rfl⟩) fun hda => ?_
  refine iteInduction (motive := Keeps) (fun h2 => iteInduction (motive := Keeps) (fun _ => ⟨rfl, rfl⟩) fun heven =>
    absurd ⟨h2, Decidable.not_not.1 heven⟩ hcs2) fun h2 => ?_
  refine iteInduction (motive := Keeps) (fun _ => ⟨rfl, rfl⟩) fun has => ?_
  refine iteInduction (motive := Keeps) (fun _ => ⟨rfl, rfl⟩) fun hdc => ?_
  refine iteInduction (motive := Keeps) (fun _ => hset _ _ ⟨rfl, rfl⟩) fun hspr => ?_
  refine iteInduction (motive := Keeps) (fun _ => ⟨rfl, rfl⟩) fun hdb => ?_
  refine iteInduction (motive := Keeps) (fun _ => ⟨rfl, rfl⟩) fun hmr => ?_
  refine iteInduction (motive := Keeps) (fun _ => iteInduction (motive := Keeps) (fun _ => ⟨rfl, rfl⟩) fun _ =>
    hsync _ (hset _ _ ⟨rfl, rfl⟩)) fun hmr2 => ?_
  refine iteInduction (motive := Keeps) (fun h3 => ?_) fun _ => ⟨rfl, rfl⟩
  refine iteInduction (motive := Keeps) (fun _ => ⟨rfl, rfl⟩) fun heven => ?_
  have hmode : rh.mode = .rh70 := by
    cases hmode : rh.mode with
    | rh70 => rfl
    | rh11 => exact absurd (Or.inr (Or.inr (Or.inr (Or.inr ⟨Or.inr h3, hmode⟩)))) hro
  exact absurd ⟨h3, Decidable.not_not.1 heven, hmode⟩ hmr3

theorem write8_cs2 (rh : Rh11) {addr : Word} (b : Byte) (hbase : addr &&& 0o177776 = rhcs2Reg)
    (heven : addr &&& 1 = 0) (hgo : rh.go = false) : rh.write8 addr b = rh.writeCs2 b := by
  have hgo' : ¬ rh.rhcs1 &&& rhcs1Go ≠ 0 := of_decide_eq_false hgo
  unfold write8
  dsimp only
  rw [hbase, if_neg (by rintro (h | h | h | h | ⟨h | h, -⟩) <;> exact absurd h (by decide)), if_neg (by decide),
    if_neg (by decide), if_neg hgo', if_neg (by decide), if_neg (by decide), if_neg (by decide), if_pos rfl,
    if_neg fun h => h heven]

theorem write8_mr3 (rh : Rh11) {addr : Word} (b : Byte) (hbase : addr &&& 0o177776 = rhmr3Reg)
    (heven : addr &&& 1 = 0) (hmode : rh.mode = .rh70) (hgo : rh.go = false) : rh.write8 addr b = rh.writeMr3 b := by
  have hgo' : ¬ rh.rhcs1 &&& rhcs1Go ≠ 0 := of_decide_eq_false hgo
  have hro : ¬ (rhmr3Reg = rhdsReg ∨ rhmr3Reg = rherReg ∨ rhmr3Reg = rhec1Reg ∨ rhmr3Reg = rhec2Reg ∨
      ((rhmr3Reg = rhmr2Reg ∨ rhmr3Reg = rhmr3Reg) ∧ rh.mode = .rh11)) := by
    rintro (h | h | h | h | ⟨-, h⟩)
    · exact absurd h (by decide)
    · exact absurd h (by decide)
    · exact absurd h (by decide)
    · exact absurd h (by decide)
    · exact absurd (hmode.symm.trans h) (by decide)
  unfold write8
  dsimp only
  rw [hbase, if_neg hro, if_neg (by decide), if_neg (by decide), if_neg hgo', if_neg (by decide), if_neg (by decide),
    if_neg (by decide), if_neg (by decide), if_neg (by decide), if_neg (by decide), if_neg (by decide),
    if_neg (by decide), if_neg (by decide), if_neg (by decide), if_pos rfl, if_neg fun h => h heven]

theorem writeCs2_effect (rh : Rh11) (b : Byte) :
    (b.setWidth 16 &&& rhcs2Sclr ≠ 0 ∧ rh.writeCs2 b = { rh with
        rhcs2 := (rh.rhcs2 &&& ~~~rhcs2RwMask) ||| (b.setWidth 16 &&& rhcs2RwMask) }.reset) ∨
      (b.setWidth 16 &&& rhcs2Sclr = 0 ∧ (rh.writeCs2 b).l = rh.l ∧ (rh.writeCs2 b).go = rh.go) := by
  have hsclr : ((rh.rhcs2 &&& ~~~rhcs2RwMask) ||| (b.setWidth 16 &&& rhcs2RwMask)) &&& rhcs2Sclr =
      b.setWidth 16 &&& rhcs2Sclr := by
    apply BitVec.eq_of_getLsbD_eq
    intro i hi
    simp only [BitVec.getLsbD_and, BitVec.getLsbD_or, BitVec.getLsbD_not]
    interval_cases i <;> simp
  unfold writeCs2
  dsimp only
  rw [hsclr]
  by_cases hb : b.setWidth 16 &&& rhcs2Sclr = 0
  · rw [if_neg fun h => h hb]
    exact Or.inr ⟨hb, rfl, go_syncStatus _⟩
  · rw [if_pos hb]
    exact Or.inl ⟨hb, rfl⟩

theorem writeMr3_effect (rh : Rh11) (b : Byte) :
    (rh.writeMr3 b).l = rh.l.setIe (b.setWidth 16 &&& rhcs1Ie ≠ 0) ∧ (rh.writeMr3 b).go = rh.go := by
  have hie : ((rh.rhmr3 &&& ~~~(0o177 : Word)) ||| (((rh.rhmr3 &&& 0o177400) ||| b.setWidth 16) &&& 0o177)) &&&
      rhcs1Ie = b.setWidth 16 &&& rhcs1Ie := by
    apply BitVec.eq_of_getLsbD_eq
    intro i hi
    simp only [BitVec.getLsbD_and, BitVec.getLsbD_or, BitVec.getLsbD_not]
    interval_cases i <;> simp
  refine ⟨?_, go_syncStatus _⟩
  show rh.l.setIe (((rh.rhmr3 &&& ~~~(0o177 : Word)) |||
    (((rh.rhmr3 &&& 0o177400) ||| b.setWidth 16) &&& 0o177)) &&& rhcs1Ie ≠ 0) = _
  rw [hie]

theorem writeCs1High_cases (rh : Rh11) (b : Byte) :
    ((b.setWidth 16 : Word) <<< 8 &&& rhcs1CerrCclr ≠ 0 ∧ rh.writeCs1High b = rh.controllerClear) ∨
      ((b.setWidth 16 : Word) <<< 8 &&& rhcs1CerrCclr = 0 ∧
        rh.writeCs1High b = (rh.cs1BaExtSet (b &&& 3)).syncStatus) := by
  unfold writeCs1High
  by_cases hb : (b.setWidth 16 : Word) <<< 8 &&& rhcs1CerrCclr = 0
  · rw [if_neg fun h => h hb]
    exact Or.inr ⟨hb, rfl⟩
  · rw [if_pos hb]
    exact Or.inl ⟨hb, rfl⟩

/-! ## GO and the latch -/

theorem not_low {addr : Word} (h : addr &&& 0o177776 ≠ rhcs1Reg) : isCs1Low addr = false :=
  Bool.eq_false_iff.2 fun hl => h (isCs1Low_iff.1 hl).1

theorem not_high {addr : Word} (h : addr &&& 0o177776 ≠ rhcs1Reg) : isCs1High addr = false :=
  Bool.eq_false_iff.2 fun hl => h (isCs1High_iff.1 hl).1

/-- GO and the latch after the low byte of RHCS1. -/
theorem write8_cs1Low (rh : Rh11) {addr : Word} (b : Byte) (hlow : isCs1Low addr = true) :
    (rh.write8 addr b).go = (rh.accepts addr b || (rh.go && !rh.aborts addr b)) ∧
      (rh.write8 addr b).l = (rh.storeEffect addr b).apply rh.l := by
  obtain ⟨hbase, heven⟩ := isCs1Low_iff.1 hlow
  rw [rh.write8_cs1 b hbase, if_neg fun h => h heven]
  unfold storeEffect
  rw [if_pos hlow]
  unfold accepts aborts
  rw [hlow]
  show _ ∧ _ = IrqLatch.doneIf _ (IrqLatch.clearIf _ ((rh.l.setIe _).raiseIf _))
  rw [← loadCs1_l]
  rcases rh.writeCs1Low_cases b with
    ⟨hv, hg, hd, heq⟩ | ⟨hv, hg, hd, rh', heq, hl, hcs1⟩ | ⟨hcase, heq⟩ | ⟨hv, hg, hd, heq⟩
  · rw [heq, finishCommand_go, hg, hd, decide_eq_true hv]
    exact ⟨rfl, rfl⟩
  · have hon : rh'.go = true := by
      refine decide_eq_true fun hz => ?_
      rw [hcs1] at hz
      have hbit := congrArg (fun w => w.getLsbD 0) hz
      simp at hbit
    rw [heq, go_syncStatus, hon, syncStatus_l, hl, hg, hd, decide_eq_true hv]
    exact ⟨rfl, rfl⟩
  · rw [heq, go_syncStatus, loadCs1_go, syncStatus_l]
    rcases hcase with hv | ⟨hg, hd⟩
    · rw [decide_eq_false fun h => h hv]
      cases rh.go <;> exact ⟨rfl, rfl⟩
    · rw [hg, hd]
      cases decide (b.setWidth 16 &&& rhcs1Go ≠ 0) <;> exact ⟨rfl, rfl⟩
  · rw [heq, go_syncStatus, setCs2Error_go, loadCs1_go, hg, hd, decide_eq_true hv]
    exact ⟨rfl, rfl⟩

theorem quiet_bytes (rh : Rh11) {addr : Word} (b : Byte) (hlow : isCs1Low addr = false) :
    rh.accepts addr b = false ∧ rh.aborts addr b = false := by
  unfold accepts aborts
  rw [hlow]
  exact ⟨rfl, rfl⟩

theorem clears_other (rh : Rh11) {addr : Word} (b : Byte) (hcs1 : addr &&& 0o177776 ≠ rhcs1Reg) :
    rh.clears addr b =
      (addr &&& 0o177776 = rhcs2Reg && addr &&& 1 = 0 && b.setWidth 16 &&& rhcs2Sclr ≠ 0 && !rh.go) := by
  unfold clears
  rw [not_high hcs1]
  rfl

theorem storeEffect_other (rh : Rh11) {addr : Word} (b : Byte) (hlow : isCs1Low addr = false) :
    rh.storeEffect addr b = if rh.clears addr b then .reset true
      else if addr &&& 0o177776 = rhmr3Reg ∧ addr &&& 1 = 0 ∧ rh.mode = .rh70 ∧ rh.go = false then
        .calls (some (b.setWidth 16 &&& rhcs1Ie ≠ 0)) false false false
      else .none := by
  unfold storeEffect
  rw [hlow, if_neg (by decide)]

/-- GO and the latch after the high byte of RHCS1. -/
theorem write8_cs1High (rh : Rh11) {addr : Word} (b : Byte) (hhigh : isCs1High addr = true) :
    (rh.write8 addr b).go = (rh.go && !rh.clears addr b) ∧
      (rh.write8 addr b).l = (rh.storeEffect addr b).apply rh.l := by
  obtain ⟨hbase, hodd⟩ := isCs1High_iff.1 hhigh
  have hlow : isCs1Low addr = false := Bool.eq_false_iff.2 fun hl => hodd (isCs1Low_iff.1 hl).2
  rw [rh.write8_cs1 b hbase, if_pos hodd, rh.storeEffect_other b hlow]
  unfold clears
  rw [hhigh]
  rcases rh.writeCs1High_cases b with ⟨hb, heq⟩ | ⟨hb, heq⟩
  · rw [heq, controllerClear_go, decide_eq_true hb, if_pos (by rfl)]
    refine ⟨?_, rfl⟩
    cases rh.go <;> rfl
  · have hcs2 : ¬ addr &&& 0o177776 = rhcs2Reg := fun h => absurd (hbase.symm.trans h) (by decide)
    rw [heq, go_syncStatus, cs1BaExtSet_go, syncStatus_l, cs1BaExtSet_l, decide_eq_false fun h => h hb,
      decide_eq_false hcs2, if_neg (by simp), if_neg fun h => hodd h.2.1]
    refine ⟨?_, rfl⟩
    cases rh.go <;> rfl

/-- GO and the latch after a byte of another register. -/
theorem write8_other (rh : Rh11) {addr : Word} (b : Byte) (hcs1 : addr &&& 0o177776 ≠ rhcs1Reg) :
    (rh.write8 addr b).go = rh.go ∧ (rh.write8 addr b).l = (rh.storeEffect addr b).apply rh.l := by
  rw [rh.storeEffect_other b (not_low hcs1), rh.clears_other b hcs1]
  cases hgo : rh.go with
  | true =>
    rw [if_neg (by simp), if_neg fun h => absurd h.2.2.2 (by decide)]
    rcases rh.write8_refused b hcs1 hgo with heq | heq
    · rw [heq]
      exact ⟨hgo, rfl⟩
    · rw [heq, setCs2Error_go]
      exact ⟨hgo, rfl⟩
  | false =>
    by_cases h2 : addr &&& 0o177776 = rhcs2Reg ∧ addr &&& 1 = 0
    · rw [rh.write8_cs2 b h2.1 h2.2 hgo, decide_eq_true h2.1, decide_eq_true h2.2]
      rcases rh.writeCs2_effect b with ⟨hb, heq⟩ | ⟨hb, hl, hkeep⟩
      · rw [heq, reset_go, decide_eq_true hb, if_pos (by decide)]
        exact ⟨rfl, rfl⟩
      · have h3 : ¬ (addr &&& 0o177776 = rhmr3Reg ∧ addr &&& 1 = 0 ∧ rh.mode = .rh70 ∧ false = false) := fun h =>
          absurd (h2.1.symm.trans h.1) (by decide)
        rw [hl, hkeep, decide_eq_false fun h => h hb, if_neg (by decide), if_neg h3]
        exact ⟨hgo, rfl⟩
    · rw [if_neg (by
        intro h
        simp only [Bool.and_eq_true, decide_eq_true_eq] at h
        exact h2 h.1.1)]
      by_cases h3 : addr &&& 0o177776 = rhmr3Reg ∧ addr &&& 1 = 0 ∧ rh.mode = .rh70
      · obtain ⟨hl, hkeep⟩ := rh.writeMr3_effect b
        rw [rh.write8_mr3 b h3.1 h3.2.1 h3.2.2 hgo, if_pos ⟨h3.1, h3.2.1, h3.2.2, rfl⟩, hl, hkeep]
        exact ⟨hgo, rfl⟩
      · obtain ⟨hl, hkeep⟩ := rh.write8_keeps b hcs1 h2 h3
        rw [if_neg fun h => h3 ⟨h.1, h.2.1, h.2.2.1⟩, hl, hkeep]
        exact ⟨hgo, rfl⟩

theorem clears_low (rh : Rh11) {addr : Word} (b : Byte) (hlow : isCs1Low addr = true) : rh.clears addr b = false := by
  obtain ⟨hbase, heven⟩ := isCs1Low_iff.1 hlow
  have hhigh : isCs1High addr = false := Bool.eq_false_iff.2 fun hh => (isCs1High_iff.1 hh).2 heven
  have hcs2 : ¬ addr &&& 0o177776 = rhcs2Reg := fun h => absurd (hbase.symm.trans h) (by decide)
  unfold clears
  rw [hhigh, decide_eq_false hcs2]
  rfl

/-- The three kinds of bytes. -/
theorem byte_kinds (addr : Word) :
    isCs1Low addr = true ∨ isCs1High addr = true ∨ addr &&& 0o177776 ≠ rhcs1Reg := by
  by_cases hbase : addr &&& 0o177776 = rhcs1Reg
  · by_cases heven : addr &&& 1 = 0
    · exact Or.inl (isCs1Low_iff.2 ⟨hbase, heven⟩)
    · exact Or.inr (Or.inl (isCs1High_iff.2 ⟨hbase, heven⟩))
  · exact Or.inr (Or.inr hbase)

/-- GO after a byte. -/
theorem write8_go (rh : Rh11) (addr : Word) (b : Byte) :
    (rh.write8 addr b).go = (rh.accepts addr b || (rh.go && !rh.aborts addr b && !rh.clears addr b)) := by
  rcases byte_kinds addr with hlow | hhigh | hcs1
  · rw [(rh.write8_cs1Low b hlow).1, rh.clears_low b hlow]
    cases rh.accepts addr b <;> cases rh.go <;> cases rh.aborts addr b <;> rfl
  · have hlow : isCs1Low addr = false := Bool.eq_false_iff.2 fun hl => (isCs1High_iff.1 hhigh).2 (isCs1Low_iff.1 hl).2
    obtain ⟨haccepts, haborts⟩ := rh.quiet_bytes b hlow
    rw [(rh.write8_cs1High b hhigh).1, haccepts, haborts]
    cases rh.go <;> rfl
  · obtain ⟨haccepts, haborts⟩ := rh.quiet_bytes b (not_low hcs1)
    rw [(rh.write8_other b hcs1).1, haccepts, haborts, rh.clears_other b hcs1]
    cases rh.go <;> simp

/-- A byte makes the calls of its effect. -/
theorem write8_l (rh : Rh11) (addr : Word) (b : Byte) : (rh.write8 addr b).l = (rh.storeEffect addr b).apply rh.l := by
  rcases byte_kinds addr with hlow | hhigh | hcs1
  · exact (rh.write8_cs1Low b hlow).2
  · exact (rh.write8_cs1High b hhigh).2
  · exact (rh.write8_other b hcs1).2

end Rh11

end K1801.Lsi11
