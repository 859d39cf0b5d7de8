import K1801.Lsi11.LatchEffects
import K1801.Lsi11.XpStatus

/-! # What the XP takes from its registers

A byte written to a register acts on the latch of the controller by a few calls, accepts a command or aborts the one
that is pending. What a poll would carry out is the order that the registers hold.
-/

namespace K1801.Lsi11

open Core Library

/-- What a poll carries out. -/
structure XpOrder where
  fnc : Word
  unit : BitVec 3
  uai : Word
  wc : Word
  ba : Word
  bae : Word
  dc : Word
  da : Word
  deriving Repr, DecidableEq

namespace Xp

def order (xp : Xp) : XpOrder where
  fnc := xp.xpcs1 &&& xpcs1FncMask
  unit := xp.selectedUnit
  uai := xp.xpcs2 &&& xpcs2Uai
  wc := xp.xpwc
  ba := xp.xpba
  bae := xp.xpbae
  dc := xp.drive.xpdc
  da := xp.drive.xpda

def go (xp : Xp) : Bool := xp.xpcs1 &&& xpcs1Go ≠ 0

/-- The low byte of XPCS1. -/
def isCs1Low (addr : Word) : Bool := addr &&& 0o177776 = xpcs1Reg && addr &&& 1 = 0

/-- The byte starts a command. -/
def accepts (addr : Word) (b : Byte) (xp : Xp) : Bool :=
  isCs1Low addr && b.setWidth 16 &&& xpcs1Go ≠ 0 && !xp.go &&
    !(xpfXfer ≤ (b.setWidth 16 &&& xpcs1FncMask) >>> 1 && !xp.l.done)

/-- The byte asks for a command while one is pending. -/
def aborts (addr : Word) (b : Byte) (xp : Xp) : Bool :=
  isCs1Low addr && b.setWidth 16 &&& xpcs1Go ≠ 0 && xp.go && !xp.l.done

/-- The byte clears the controller. -/
def clears (addr : Word) (b : Byte) (xp : Xp) : Bool :=
  addr &&& 0o177776 = xpcs2Reg && addr &&& 1 = 0 && b.setWidth 16 &&& xpcs2Clr ≠ 0 && !xp.go

def storeEffect (addr : Word) (b : Byte) (xp : Xp) : LatchEffect :=
  if isCs1Low addr then
    .calls (some (b.setWidth 16 &&& xpcs1Ie ≠ 0))
      (xp.xpcs1 &&& xpcs1Ie = 0 && b.setWidth 16 &&& xpcs1Ie ≠ 0 && xp.xpcs1 &&& xpcs1Done ≠ 0)
      (xp.accepts addr b) (xp.aborts addr b)
  else if xp.clears addr b then .reset true
  else if addr &&& 0o177776 = xpcs3Reg ∧ addr &&& 1 = 0 ∧ xp.go = false then
    .calls (some (b.setWidth 16 &&& xpcs1Ie ≠ 0)) false false false
  else .none

/-! ## Order and status -/

theorem unit_kept (w : Word) : (w ||| (xpcs2Ir ||| xpcs2Or)) &&& xpcs2UnitMask = w &&& xpcs2UnitMask := by
  apply BitVec.eq_of_getLsbD_eq
  intro i hi
  simp only [BitVec.getLsbD_and, BitVec.getLsbD_or]
  interval_cases i <;> simp

theorem uai_kept (w : Word) : (w ||| (xpcs2Ir ||| xpcs2Or)) &&& xpcs2Uai = w &&& xpcs2Uai := by
  apply BitVec.eq_of_getLsbD_eq
  intro i hi
  simp only [BitVec.getLsbD_and, BitVec.getLsbD_or]
  interval_cases i <;> simp

theorem syncStatus_unit (xp : Xp) : xp.syncStatus.selectedUnit = xp.selectedUnit :=
  congrArg (fun w : Word => w.setWidth 3) (unit_kept xp.xpcs2)

theorem order_syncStatus (xp : Xp) : xp.syncStatus.order = xp.order := by
  unfold order drive
  rw [syncStatus_fnc, syncStatus_unit, show xp.syncStatus.xpcs2 &&& xpcs2Uai = _ from uai_kept xp.xpcs2]
  rfl

theorem go_syncStatus (xp : Xp) : xp.syncStatus.go = xp.go := by
  unfold go
  rw [syncStatus_go]

/-- Error bits of XPCS2 do not change the order. -/
theorem order_xpcs2 (xp : Xp) {w : Word} (hunit : w &&& xpcs2UnitMask = xp.xpcs2 &&& xpcs2UnitMask)
    (huai : w &&& xpcs2Uai = xp.xpcs2 &&& xpcs2Uai) : ({ xp with xpcs2 := w } : Xp).order = xp.order := by
  have hsel : ({ xp with xpcs2 := w } : Xp).selectedUnit = xp.selectedUnit :=
    congrArg (fun w : Word => w.setWidth 3) hunit
  unfold order drive
  rw [hsel]
  show XpOrder.mk _ _ (w &&& xpcs2Uai) _ _ _ _ _ = _
  rw [huai]

theorem order_clearErrors (xp : Xp) : xp.clearErrors.order = xp.order := by
  have hbits : ∀ w k : Word, ~~~xpcs2ErrMask &&& k = k → (w &&& ~~~xpcs2ErrMask) &&& k = w &&& k := by
    intro w k hk
    rw [BitVec.and_assoc, hk]
  exact order_xpcs2 { xp with xpcs3 := xp.xpcs3 &&& ~~~xpcs3ErrMask } (hbits _ _ (by decide)) (hbits _ _ (by decide))

theorem order_setCs2Error (xp : Xp) {bit : Word} (hunit : bit &&& xpcs2UnitMask = 0) (huai : bit &&& xpcs2Uai = 0) :
    (xp.setCs2Error bit).order = xp.order := by
  have hbits : ∀ w k : Word, bit &&& k = 0 → (w ||| bit) &&& k = w &&& k := by
    intro w k hk
    rw [BitVec.and_comm, BitVec.and_or_distrib_left, BitVec.and_comm k bit, hk]
    exact BitVec.or_zero.trans (BitVec.and_comm k w)
  unfold setCs2Error
  rw [order_syncStatus]
  exact order_xpcs2 xp (hbits _ _ hunit) (hbits _ _ huai)

/-! ## Loading XPCS1 -/

/-- The extension bits of XPCS1 taken over when the controller is ready. -/
def takeUae (uae : Word) (xp : Xp) : Xp :=
  if xp.xpcs1 &&& xpcs1Done ≠ 0 then xp.baeSyncFromCs1Uae uae else xp

/-- The function and IE of a byte for XPCS1. -/
def takeFunction (low : Word) (xp : Xp) : Word :=
  (xp.xpcs1 &&& ~~~(xpcs1FncMask ||| xpcs1Ie)) ||| (low &&& (xpcs1FncMask ||| xpcs1Ie))

theorem takeUae_cs1 (uae : Word) (xp : Xp) {k : Word} (hk : ~~~xpcs1Uae &&& k = k) :
    (xp.takeUae uae).xpcs1 &&& k = xp.xpcs1 &&& k := by
  have hbits : ∀ w u : Word, ((w &&& ~~~xpcs1Uae) ||| ((u &&& 3) <<< 8)) &&& ~~~xpcs1Uae = w &&& ~~~xpcs1Uae := by
    intro w u
    apply BitVec.eq_of_getLsbD_eq
    intro i hi
    simp only [BitVec.getLsbD_and, BitVec.getLsbD_or, BitVec.getLsbD_not, BitVec.getLsbD_shiftLeft]
    interval_cases i <;> simp
  unfold takeUae
  split
  · show ((xp.xpcs1 &&& ~~~xpcs1Uae) ||| (((_ : Word) &&& 3) <<< 8)) &&& k = _
    rw [← hk, ← BitVec.and_assoc, hbits, BitVec.and_assoc]
  · rfl

theorem takeFunction_bits (low : Word) (xp : Xp) {k : Word} (hk : ~~~(xpcs1FncMask ||| xpcs1Ie) &&& k = k) :
    xp.takeFunction low &&& k = xp.xpcs1 &&& k := by
  have hbits : ∀ w v m : Word, ((w &&& ~~~m) ||| (v &&& m)) &&& ~~~m = w &&& ~~~m := by
    intro w v m
    apply BitVec.eq_of_getLsbD_eq
    intro i hi
    simp only [BitVec.getLsbD_and, BitVec.getLsbD_or, BitVec.getLsbD_not, hi, decide_true, Bool.true_and]
    cases m.getLsbD i <;> simp
  unfold takeFunction
  rw [← hk, ← BitVec.and_assoc, hbits, BitVec.and_assoc]

theorem takeFunction_taken (low : Word) (xp : Xp) {k : Word} (hk : (xpcs1FncMask ||| xpcs1Ie) &&& k = k) :
    xp.takeFunction low &&& k = low &&& k := by
  have hbits : ∀ w v m : Word, ((w &&& ~~~m) ||| (v &&& m)) &&& m = v &&& m := by
    intro w v m
    apply BitVec.eq_of_getLsbD_eq
    intro i hi
    simp only [BitVec.getLsbD_and, BitVec.getLsbD_or, BitVec.getLsbD_not, hi, decide_true, Bool.true_and]
    cases m.getLsbD i <;> simp
  unfold takeFunction
  rw [← hk, ← BitVec.and_assoc, hbits, BitVec.and_assoc]

/-- The state after TRE and the extension bits of a word. -/
def beforeFunction (v : Word) (xp : Xp) : Xp :=
  (if v &&& 0o177400 &&& xpcs1Tre ≠ 0 then xp.clearErrors else xp).takeUae (v &&& 0o177400 &&& xpcs1Uae)

theorem beforeFunction_l (v : Word) (xp : Xp) : (xp.beforeFunction v).l = xp.l := by
  unfold beforeFunction takeUae
  split
  · split <;> rfl
  · split <;> rfl

theorem beforeFunction_cs1 (v : Word) (xp : Xp) {k : Word} (hk : ~~~xpcs1Uae &&& k = k) :
    (xp.beforeFunction v).xpcs1 &&& k = xp.xpcs1 &&& k := by
  unfold beforeFunction
  rw [takeUae_cs1 _ _ hk]
  split <;> rfl

theorem loadCs1_eq (v : Word) (xp : Xp) : xp.loadCs1 v =
    { xp.beforeFunction v with
      xpcs1 := (xp.beforeFunction v).takeFunction (v &&& 0o377)
      l := (xp.l.setIe (v &&& xpcs1Ie ≠ 0)).raiseIf
        (xp.xpcs1 &&& xpcs1Ie = 0 && v &&& xpcs1Ie ≠ 0 && xp.xpcs1 &&& xpcs1Done ≠ 0) } := by
  have hie : (xp.beforeFunction v).takeFunction (v &&& 0o377) &&& xpcs1Ie = v &&& xpcs1Ie := by
    rw [takeFunction_taken _ _ (by decide), BitVec.and_assoc]
    rfl
  have hdone : (xp.beforeFunction v).takeFunction (v &&& 0o377) &&& xpcs1Done = xp.xpcs1 &&& xpcs1Done := by
    rw [takeFunction_bits _ _ (by decide), beforeFunction_cs1 _ _ (by decide)]
  have hform : xp.loadCs1 v =
      if (!decide (xp.xpcs1 &&& xpcs1Ie ≠ 0) &&
          decide ((xp.beforeFunction v).takeFunction (v &&& 0o377) &&& xpcs1Ie ≠ 0) &&
          decide ((xp.beforeFunction v).takeFunction (v &&& 0o377) &&& xpcs1Done ≠ 0)) = true
      then { xp.beforeFunction v with
        xpcs1 := (xp.beforeFunction v).takeFunction (v &&& 0o377)
        l := { (xp.beforeFunction v).l.setIe ((xp.beforeFunction v).takeFunction (v &&& 0o377) &&& xpcs1Ie ≠ 0) with
          irqReq := true } }
      else { xp.beforeFunction v with
        xpcs1 := (xp.beforeFunction v).takeFunction (v &&& 0o377)
        l := (xp.beforeFunction v).l.setIe ((xp.beforeFunction v).takeFunction (v &&& 0o377) &&& xpcs1Ie ≠ 0) } := rfl
  rw [hform, hie, hdone, beforeFunction_l]
  unfold IrqLatch.raiseIf
  by_cases hold : xp.xpcs1 &&& xpcs1Ie = 0
  · by_cases hraise : (decide (v &&& xpcs1Ie ≠ 0) && decide (xp.xpcs1 &&& xpcs1Done ≠ 0)) = true
    · simp only [hold, Bool.true_and, hraise, ne_eq, not_true, decide_false, Bool.not_false, if_true, decide_true]
    · simp only [hold, Bool.true_and, hraise, ne_eq, not_true, decide_false, Bool.not_false, decide_true]
      rfl
  · simp only [hold, ne_eq, not_false_eq_true, decide_true, Bool.not_true, Bool.false_and, decide_false]
    rfl

theorem loadCs1_bits (v : Word) (xp : Xp) {k : Word} (huae : ~~~xpcs1Uae &&& k = k)
    (hfnc : ~~~(xpcs1FncMask ||| xpcs1Ie) &&& k = k) : (xp.loadCs1 v).xpcs1 &&& k = xp.xpcs1 &&& k := by
  rw [loadCs1_eq]
  exact (takeFunction_bits _ _ hfnc).trans (beforeFunction_cs1 _ _ huae)

theorem loadCs1_go (v : Word) (xp : Xp) : (xp.loadCs1 v).go = xp.go := by
  unfold go
  rw [loadCs1_bits v xp (by decide) (by decide)]

theorem loadCs1_fnc (v : Word) (xp : Xp) : (xp.loadCs1 v).xpcs1 &&& xpcs1FncMask = v &&& xpcs1FncMask := by
  rw [loadCs1_eq]
  show (xp.beforeFunction v).takeFunction (v &&& 0o377) &&& xpcs1FncMask = _
  rw [takeFunction_taken _ _ (by decide), BitVec.and_assoc]
  rfl

theorem loadCs1_l (v : Word) (xp : Xp) : (xp.loadCs1 v).l = (xp.l.setIe (v &&& xpcs1Ie ≠ 0)).raiseIf
    (xp.xpcs1 &&& xpcs1Ie = 0 && v &&& xpcs1Ie ≠ 0 && xp.xpcs1 &&& xpcs1Done ≠ 0) := by
  rw [loadCs1_eq]

theorem loadCs1_done (v : Word) (xp : Xp) : (xp.loadCs1 v).l.done = xp.l.done := by
  rw [loadCs1_l]
  unfold IrqLatch.raiseIf
  split <;> rfl

/-! ## Writing XPCS1 -/

/-- The four ways a word for XPCS1 goes. -/
theorem writeCs1_cases (v : Word) (xp : Xp) :
    (v &&& xpcs1Go ≠ 0 ∧ xp.go = true ∧ xp.l.done = false ∧
        xp.writeCs1 v = ((xp.loadCs1 v).setCs2Error xpcs2Pge).finishCommand) ∨
      (v &&& xpcs1Go ≠ 0 ∧ xp.go = false ∧
        (xpfXfer ≤ (v &&& xpcs1FncMask) >>> 1 && !xp.l.done) = false ∧ ∃ xp' : Xp,
          xp.writeCs1 v = xp'.syncStatus ∧ xp'.l = (xp.loadCs1 v).l.swClearDone ∧
            xp'.xpcs1 = (xp.loadCs1 v).xpcs1 ||| xpcs1Go) ∨
      ((v &&& xpcs1Go = 0 ∨ (xp.go = true ∧ xp.l.done = true)) ∧ xp.writeCs1 v = (xp.loadCs1 v).syncStatus) ∨
      (v &&& xpcs1Go ≠ 0 ∧ xp.go = false ∧ (xpfXfer ≤ (v &&& xpcs1FncMask) >>> 1 && !xp.l.done) = true ∧
        xp.writeCs1 v = ((xp.loadCs1 v).setCs2Error xpcs2Pge).syncStatus) := by
  have hgobit : v &&& 0o377 &&& xpcs1Go = v &&& xpcs1Go := by
    rw [BitVec.and_assoc]
    rfl
  have hfncbit : v &&& 0o377 &&& xpcs1FncMask = v &&& xpcs1FncMask := by
    rw [BitVec.and_assoc]
    rfl
  have hgo : xp.go = true ↔ xp.xpcs1 &&& xpcs1Go ≠ 0 := decide_eq_true_iff
  unfold writeCs1
  dsimp only
  rw [hgobit, hfncbit, loadCs1_done]
  by_cases hv : v &&& xpcs1Go = 0
  · rw [if_neg fun h => h.1 hv, if_neg fun h => h.1 hv]
    exact Or.inr (Or.inr (Or.inl ⟨Or.inl hv, rfl⟩))
  · cases hold : xp.go with
    | true =>
      have hold' := hgo.1 hold
      cases hdone : xp.l.done with
      | false =>
        rw [if_pos ⟨hv, hold', rfl⟩]
        exact Or.inl ⟨hv, rfl, rfl, rfl⟩
      | true =>
        rw [if_neg fun h => absurd h.2.2 (by decide), if_neg fun h => h.2 hold']
        exact Or.inr (Or.inr (Or.inl ⟨Or.inr ⟨rfl, rfl⟩, rfl⟩))
    | false =>
      have hold' : ¬ xp.xpcs1 &&& xpcs1Go ≠ 0 := fun h => absurd (hold.symm.trans (hgo.2 h)) (by decide)
      rw [if_neg fun h => hold' h.2.1, if_pos ⟨hv, hold'⟩]
      cases hbusy : (decide (xpfXfer ≤ (v &&& xpcs1FncMask) >>> 1) && !xp.l.done) with
      | true =>
        rw [if_pos rfl]
        exact Or.inr (Or.inr (Or.inr ⟨hv, rfl, rfl, rfl⟩))
      | false =>
        rw [if_neg (by decide)]
        refine Or.inr (Or.inl ⟨hv, rfl, rfl, _, rfl, ?_, ?_⟩)
        · split <;> rfl
        · split <;> rfl

theorem finishCommand_go (xp : Xp) : xp.finishCommand.go = false := by
  unfold finishCommand
  rw [go_syncStatus]
  refine decide_eq_false fun h => h ?_
  show xp.xpcs1 &&& ~~~xpcs1Go &&& xpcs1Go = 0
  rw [BitVec.and_assoc]
  exact BitVec.and_zero

theorem finishCommand_l (xp : Xp) : xp.finishCommand.l = xp.l.eventSetDone := rfl

theorem setCs2Error_go (bit : Word) (xp : Xp) : (xp.setCs2Error bit).go = xp.go := go_syncStatus _

theorem setEr1_go (unit : BitVec 3) (bit : Word) (xp : Xp) : (xp.setEr1 unit bit).go = xp.go := go_syncStatus _

/-! ## Writing the other registers -/

theorem controllerClear_go (xp : Xp) : xp.controllerClear.go = false := by
  unfold controllerClear
  rw [go_syncStatus]
  refine decide_eq_false fun h => h ?_
  show xp.xpcs1 &&& ~~~(xpcs1Go ||| xpcs1FncMask ||| xpcs1Uae) &&& xpcs1Go = 0
  rw [BitVec.and_assoc]
  exact BitVec.and_zero

theorem controllerClear_l (xp : Xp) : xp.controllerClear.l = IrqLatch.reset.eventSetDone := rfl

theorem writeCs2_keeps (v : Word) (xp : Xp) (hclr : v &&& xpcs2Clr = 0) :
    (xp.writeCs2 v).l = xp.l ∧ (xp.writeCs2 v).go = xp.go := by
  unfold writeCs2
  rw [if_neg fun h => h hclr]
  exact ⟨rfl, go_syncStatus _⟩

theorem writeCs3_effect (v : Word) (xp : Xp) :
    (xp.writeCs3 v).l = xp.l.setIe (v &&& xpcs1Ie ≠ 0) ∧ (xp.writeCs3 v).go = xp.go := by
  have hie : ((xp.xpcs3 &&& ~~~xpcs3RwMask) ||| (v &&& xpcs3RwMask)) &&& xpcs1Ie = v &&& xpcs1Ie := by
    apply BitVec.eq_of_getLsbD_eq
    intro i hi
    simp only [BitVec.getLsbD_and, BitVec.getLsbD_or, BitVec.getLsbD_not]
    interval_cases i <;> simp
  refine ⟨?_, go_syncStatus _⟩
  show xp.l.setIe (((xp.xpcs3 &&& ~~~xpcs3RwMask) ||| (v &&& xpcs3RwMask)) &&& xpcs1Ie ≠ 0) = _
  rw [hie]

/-- The other registers leave latch and GO alone. -/
theorem write16_keeps {base : Word} (heven : base &&& 0o177776 = base) (h1 : base ≠ xpcs1Reg) (h2 : base ≠ xpcs2Reg)
    (h3 : base ≠ xpcs3Reg) (v : Word) (xp : Xp) :
    (xp.write16 base v).l = xp.l ∧ (xp.write16 base v).go = xp.go := by
  have huae : ({ xp with xpbae := v &&& xpBaeImp } : Xp).cs1UaeSyncFromBae.go = xp.go := by
    have hbits : ((xp.xpcs1 &&& ~~~xpcs1Uae) ||| (((v &&& xpBaeImp) &&& 3) <<< 8)) &&& xpcs1Go =
        xp.xpcs1 &&& xpcs1Go := by
      apply BitVec.eq_of_getLsbD_eq
      intro i hi
      simp only [BitVec.getLsbD_and, BitVec.getLsbD_or, BitVec.getLsbD_not, BitVec.getLsbD_shiftLeft]
      interval_cases i <;> simp
    exact congrArg (fun w => decide (w ≠ 0)) hbits
  unfold write16
  dsimp only
  rw [heven, if_neg h1, if_neg h2, if_neg h3]
  split_ifs
  · exact ⟨rfl, rfl⟩
  · exact ⟨rfl, rfl⟩
  · exact ⟨rfl, rfl⟩
  · exact ⟨rfl, go_syncStatus _⟩
  · exact ⟨rfl, rfl⟩
  · exact ⟨rfl, rfl⟩
  · exact ⟨rfl, rfl⟩
  · exact ⟨rfl, rfl⟩
  · exact ⟨rfl, (go_syncStatus _).trans huae⟩
  · exact ⟨rfl, rfl⟩

/-! ## Bytes -/

/-- A byte of a register other than XPCS1. -/
theorem Synced.write8_other {xp : Xp} (h : xp.Synced) {addr : Word} (b : Byte)
    (hro : isReadOnly (addr &&& 0o177776) = false) (hcs1 : addr &&& 0o177776 ≠ xpcs1Reg) : xp.write8 addr b =
      if xp.go = true then xp.setCs2Error xpcs2Pge
      else if (addr &&& 0o177776 = xpbaeReg ∨ addr &&& 0o177776 = xpcs3Reg) ∧ addr &&& 1 ≠ 0 then xp
      else xp.write16 (addr &&& 0o177776) (withByteAt addr (xp.read16 (addr &&& 0o177776)).1 b) := by
  have hread := h.read16 (addr &&& 0o177776)
  unfold write8
  dsimp only
  rw [if_neg (by rw [hro]; decide), if_neg hcs1, hread]
  unfold go
  simp only [decide_eq_true_eq]

/-- A low byte put into a word. -/
theorem lowByte_bits (w : Word) (b : Byte) {k : Word} (hk : 0o377 &&& k = k) :
    ((w &&& 0o177400) ||| b.setWidth 16) &&& k = b.setWidth 16 &&& k := by
  have hbits : ((w &&& 0o177400) ||| b.setWidth 16) &&& 0o377 = b.setWidth 16 &&& 0o377 := by
    apply BitVec.eq_of_getLsbD_eq
    intro i hi
    simp only [BitVec.getLsbD_and, BitVec.getLsbD_or]
    interval_cases i <;> simp
  rw [← hk, ← BitVec.and_assoc, hbits, BitVec.and_assoc]

theorem isReadOnly_cs1 : isReadOnly xpcs1Reg = false := by decide

theorem isCs1Low_iff {addr : Word} : isCs1Low addr = true ↔ addr &&& 0o177776 = xpcs1Reg ∧ addr &&& 1 = 0 := by
  unfold isCs1Low
  rw [Bool.and_eq_true, decide_eq_true_eq, decide_eq_true_eq]

/-- A byte of XPCS1. -/
theorem write8_cs1 (xp : Xp) {addr : Word} (b : Byte) (hbase : addr &&& 0o177776 = xpcs1Reg) :
    xp.write8 addr b = if addr &&& 1 ≠ 0 then xp.writeCs1High b
      else xp.writeCs1 ((xp.xpcs1 &&& 0o177400) ||| b.setWidth 16) := by
  unfold write8
  dsimp only
  rw [hbase, if_neg (by rw [isReadOnly_cs1]; decide), if_pos rfl]
  rfl

theorem writeCs1High_keeps (b : Byte) (xp : Xp) : (xp.writeCs1High b).l = xp.l ∧ (xp.writeCs1High b).go = xp.go := by
  have hform : xp.writeCs1High b =
      ((if b.setWidth 16 <<< 8 &&& xpcs1Tre ≠ 0 then xp.clearErrors else xp).takeUae
        (b.setWidth 16 <<< 8 &&& xpcs1Uae)).syncStatus := rfl
  have hcs1 : ∀ x : Xp, ((x.takeUae (b.setWidth 16 <<< 8 &&& xpcs1Uae)).l = x.l) ∧
      (x.takeUae (b.setWidth 16 <<< 8 &&& xpcs1Uae)).go = x.go := by
    intro x
    refine ⟨?_, ?_⟩
    · unfold takeUae
      split <;> rfl
    · unfold go
      rw [takeUae_cs1 _ _ (by decide)]
  rw [hform, go_syncStatus]
  refine ⟨(hcs1 _).1.trans ?_, (hcs1 _).2.trans ?_⟩
  · split <;> rfl
  · split <;> rfl

theorem write8_readOnly (xp : Xp) {addr : Word} (b : Byte) (hro : isReadOnly (addr &&& 0o177776) = true) :
    xp.write8 addr b = xp := by
  unfold write8
  dsimp only
  rw [if_pos hro]

/-- A byte of a register other than XPCS1 that is not taken over as a register write. -/
theorem Synced.write8_refused {xp : Xp} (h : xp.Synced) {addr : Word} (b : Byte)
    (hcs1 : addr &&& 0o177776 ≠ xpcs1Reg) (hgo : xp.go = true) :
    xp.write8 addr b = xp ∨ xp.write8 addr b = xp.setCs2Error xpcs2Pge := by
  cases hro : isReadOnly (addr &&& 0o177776) with
  | true => exact Or.inl (xp.write8_readOnly b hro)
  | false =>
    rw [h.write8_other b hro hcs1, if_pos hgo]
    exact Or.inr rfl

/-- The low byte of a register, as it reaches the register write. -/
theorem lowByteAt_bits {addr : Word} (heven : addr &&& 1 = 0) (old : Word) (b : Byte) {k : Word}
    (hk : 0o377 &&& k = k) : withByteAt addr old b &&& k = b.setWidth 16 &&& k := by
  unfold withByteAt
  rw [if_neg fun h => h heven]
  exact lowByte_bits old b hk

/-- XPCS2 reads without CLR. -/
theorem read16_cs2 (xp : Xp) : (xp.read16 xpcs2Reg).1 &&& xpcs2Clr = 0 := by
  show ((xp.syncStatus.xpcs2 &&& ~~~xpcs2Clr) ||| xpcs2Ir ||| xpcs2Or) &&& xpcs2Clr = 0
  apply BitVec.eq_of_getLsbD_eq
  intro i hi
  simp only [BitVec.getLsbD_and, BitVec.getLsbD_or, BitVec.getLsbD_not]
  interval_cases i <;> simp

/-- A high byte leaves the low half of a word. -/
theorem highByteAt_bits {addr : Word} (hodd : addr &&& 1 ≠ 0) (old : Word) (b : Byte) {k : Word}
    (hk : 0o377 &&& k = k) : withByteAt addr old b &&& k = old &&& k := by
  have hbits : ((old &&& 0o377) ||| (b.setWidth 16 <<< 8)) &&& 0o377 = old &&& 0o377 := by
    apply BitVec.eq_of_getLsbD_eq
    intro i hi
    simp only [BitVec.getLsbD_and, BitVec.getLsbD_or, BitVec.getLsbD_shiftLeft]
    interval_cases i <;> simp
  unfold withByteAt
  rw [if_pos hodd, ← hk, ← BitVec.and_assoc, hbits, BitVec.and_assoc]

/-- Only XPCS1, XPCS2 and XPCS3 make calls, with their low bytes. -/
theorem storeEffect_none (xp : Xp) {addr : Word} (b : Byte) (hlow : isCs1Low addr = false)
    (h2 : ¬ (addr &&& 0o177776 = xpcs2Reg ∧ addr &&& 1 = 0)) (h3 : ¬ (addr &&& 0o177776 = xpcs3Reg ∧ addr &&& 1 = 0)) :
    xp.storeEffect addr b = .none := by
  have hclears : xp.clears addr b = false := by
    unfold clears
    by_cases hbase : addr &&& 0o177776 = xpcs2Reg
    · rw [decide_eq_false fun heven : addr &&& 1 = 0 => h2 ⟨hbase, heven⟩]
      simp
    · rw [decide_eq_false hbase]
      rfl
  unfold storeEffect
  rw [hlow, hclears, if_neg (by decide), if_neg (by decide), if_neg fun h => h3 ⟨h.1, h.2.1⟩]

/-- A register written with the controller ready: the latch follows the effect and GO stays off. -/
theorem write16_taken (xp : Xp) {addr : Word} (b : Byte) (hcs1 : addr &&& 0o177776 ≠ xpcs1Reg)
    (hhalf : ¬ ((addr &&& 0o177776 = xpbaeReg ∨ addr &&& 0o177776 = xpcs3Reg) ∧ addr &&& 1 ≠ 0))
    (hgo : xp.go = false) :
    (xp.write16 (addr &&& 0o177776) (withByteAt addr (xp.read16 (addr &&& 0o177776)).1 b)).l =
        (xp.storeEffect addr b).apply xp.l ∧
      (xp.write16 (addr &&& 0o177776) (withByteAt addr (xp.read16 (addr &&& 0o177776)).1 b)).go = false := by
  have hlow : isCs1Low addr = false := Bool.eq_false_iff.2 fun hl => hcs1 (isCs1Low_iff.1 hl).1
  have hcall : xp.storeEffect addr b = if xp.clears addr b then .reset true
      else if addr &&& 0o177776 = xpcs3Reg ∧ addr &&& 1 = 0 ∧ xp.go = false then
        .calls (some (b.setWidth 16 &&& xpcs1Ie ≠ 0)) false false false
      else .none := by
    unfold storeEffect
    rw [hlow, if_neg (by decide)]
  rw [hcall]
  by_cases h2 : addr &&& 0o177776 = xpcs2Reg
  · have hform : ∀ v, xp.write16 xpcs2Reg v = xp.writeCs2 v := fun _ => rfl
    have h3 : ¬ (addr &&& 0o177776 = xpcs3Reg ∧ addr &&& 1 = 0 ∧ xp.go = false) := fun h => by
      rw [h2] at h
      exact absurd h.1 (by decide)
    rw [if_neg h3, h2, hform]
    unfold clears
    rw [decide_eq_true h2, hgo]
    by_cases heven : addr &&& 1 = 0
    · have hclr := lowByteAt_bits heven (xp.read16 xpcs2Reg).1 b (k := xpcs2Clr) (by decide)
      rw [decide_eq_true heven, ← hclr]
      by_cases hv : withByteAt addr (xp.read16 xpcs2Reg).1 b &&& xpcs2Clr = 0
      · rw [decide_eq_false fun h => h hv, if_neg (by decide)]
        exact ⟨(writeCs2_keeps _ xp hv).1, (writeCs2_keeps _ xp hv).2.trans hgo⟩
      · have hclear : xp.writeCs2 (withByteAt addr (xp.read16 xpcs2Reg).1 b) = xp.controllerClear := by
          unfold writeCs2
          rw [if_pos hv]
        rw [decide_eq_true hv, if_pos (by decide), hclear]
        exact ⟨rfl, controllerClear_go xp⟩
    · have hv : withByteAt addr (xp.read16 xpcs2Reg).1 b &&& xpcs2Clr = 0 :=
        (highByteAt_bits heven _ b (by decide)).trans (read16_cs2 xp)
      rw [decide_eq_false heven, if_neg (by simp)]
      exact ⟨(writeCs2_keeps _ xp hv).1, (writeCs2_keeps _ xp hv).2.trans hgo⟩
  · have hclears : xp.clears addr b = false := by
      unfold clears
      rw [decide_eq_false h2]
      rfl
    rw [hclears, if_neg (by decide)]
    by_cases h3 : addr &&& 0o177776 = xpcs3Reg
    · have heven : addr &&& 1 = 0 := Decidable.not_not.1 fun hodd => hhalf ⟨Or.inr h3, hodd⟩
      have hform : ∀ v, xp.write16 xpcs3Reg v = xp.writeCs3 v := fun _ => rfl
      have hie := lowByteAt_bits heven (xp.read16 xpcs3Reg).1 b (k := xpcs1Ie) (by decide)
      rw [if_pos ⟨h3, heven, hgo⟩, h3, hform, ← hie]
      exact ⟨(writeCs3_effect _ xp).1, (writeCs3_effect _ xp).2.trans hgo⟩
    · have hbase : addr &&& 0o177776 &&& 0o177776 = addr &&& 0o177776 := by
        rw [BitVec.and_assoc]
        rfl
      obtain ⟨hl, hkeep⟩ := write16_keeps hbase hcs1 h2 h3 (withByteAt addr (xp.read16 (addr &&& 0o177776)).1 b) xp
      rw [if_neg fun h => h3 h.1]
      exact ⟨hl, hkeep.trans hgo⟩

/-! ## GO -/

/-- GO goes on with an accepted command and off with an aborted one. -/
theorem write8_cs1_go (xp : Xp) {addr : Word} (b : Byte) (hlow : isCs1Low addr = true) :
    (xp.write8 addr b).go = (xp.accepts addr b || (xp.go && !xp.aborts addr b)) := by
  obtain ⟨hbase, heven⟩ := isCs1Low_iff.1 hlow
  have hgo := lowByte_bits xp.xpcs1 b (k := xpcs1Go) (by decide)
  have hfnc := lowByte_bits xp.xpcs1 b (k := xpcs1FncMask) (by decide)
  rw [xp.write8_cs1 b hbase, if_neg fun h => h heven]
  unfold accepts aborts
  rw [hlow, ← hgo, ← hfnc]
  generalize (xp.xpcs1 &&& 0o177400) ||| b.setWidth 16 = v
  rcases writeCs1_cases v xp with
    ⟨hv, hg, hd, heq⟩ | ⟨hv, hg, hbusy, xp', heq, -, hcs1⟩ | ⟨hcase, heq⟩ | ⟨hv, hg, hbusy, heq⟩
  · rw [heq, finishCommand_go, hg, hd, decide_eq_true hv]
    rfl
  · have hon : xp'.go = true := by
      refine decide_eq_true fun hz => ?_
      rw [hcs1] at hz
      have hbit := congrArg (fun w => w.getLsbD 0) hz
      simp at hbit
    rw [heq, go_syncStatus, hon, hg, hbusy, decide_eq_true hv]
    rfl
  · rw [heq, go_syncStatus, loadCs1_go]
    rcases hcase with hv | ⟨hg, hd⟩
    · rw [decide_eq_false fun h => h hv]
      cases xp.go <;> rfl
    · rw [hg, hd]
      cases decide (v &&& xpcs1Go ≠ 0) <;> rfl
  · rw [heq, go_syncStatus, setCs2Error_go, loadCs1_go, hg, hbusy]
    cases decide (v &&& xpcs1Go ≠ 0) <;> rfl

/-- The other registers leave GO alone. -/
theorem Synced.write8_other_go {xp : Xp} (h : xp.Synced) {addr : Word} (b : Byte) (hlow : isCs1Low addr = false) :
    (xp.write8 addr b).go = xp.go := by
  by_cases hbase : addr &&& 0o177776 = xpcs1Reg
  · have hodd : addr &&& 1 ≠ 0 := fun heven => by
      rw [isCs1Low_iff.2 ⟨hbase, heven⟩] at hlow
      exact absurd hlow (by decide)
    rw [xp.write8_cs1 b hbase, if_pos hodd]
    exact (writeCs1High_keeps b xp).2
  · cases hro : isReadOnly (addr &&& 0o177776) with
    | true => rw [xp.write8_readOnly b hro]
    | false =>
      rw [h.write8_other b hro hbase]
      cases hgo : xp.go with
      | true =>
        rw [if_pos rfl, setCs2Error_go]
        exact hgo
      | false =>
        rw [if_neg (by decide)]
        split
        · exact hgo
        · next hhalf => exact (write16_taken xp b hbase hhalf hgo).2

/-- GO after a byte. -/
theorem Synced.write8_go {xp : Xp} (h : xp.Synced) (addr : Word) (b : Byte) :
    (xp.write8 addr b).go = (xp.accepts addr b || (xp.go && !xp.aborts addr b)) := by
  cases hlow : isCs1Low addr with
  | true => exact xp.write8_cs1_go b hlow
  | false =>
    rw [h.write8_other_go b hlow]
    unfold accepts aborts
    rw [hlow]
    simp

/-! ## The latch -/

theorem write8_cs1_l (xp : Xp) {addr : Word} (b : Byte) (hlow : isCs1Low addr = true) :
    (xp.write8 addr b).l = (xp.storeEffect addr b).apply xp.l := by
  obtain ⟨hbase, heven⟩ := isCs1Low_iff.1 hlow
  have hgo := lowByte_bits xp.xpcs1 b (k := xpcs1Go) (by decide)
  have hfnc := lowByte_bits xp.xpcs1 b (k := xpcs1FncMask) (by decide)
  have hie := lowByte_bits xp.xpcs1 b (k := xpcs1Ie) (by decide)
  rw [xp.write8_cs1 b hbase, if_neg fun h => h heven]
  unfold storeEffect
  rw [if_pos hlow]
  unfold accepts aborts
  rw [hlow, ← hgo, ← hfnc, ← hie]
  generalize (xp.xpcs1 &&& 0o177400) ||| b.setWidth 16 = v
  show _ = IrqLatch.doneIf _ (IrqLatch.clearIf _ ((xp.l.setIe _).raiseIf _))
  rw [← loadCs1_l]
  rcases writeCs1_cases v xp with
    ⟨hv, hg, hd, heq⟩ | ⟨hv, hg, hbusy, xp', heq, hl, -⟩ | ⟨hcase, heq⟩ | ⟨hv, hg, hbusy, heq⟩
  · rw [heq, hg, hd, decide_eq_true hv]
    rfl
  · rw [heq, syncStatus_l, hl, hg, hbusy, decide_eq_true hv]
    rfl
  · rw [heq, syncStatus_l]
    rcases hcase with hv | ⟨hg, hd⟩
    · rw [decide_eq_false fun h => h hv]
      rfl
    · rw [hg, hd]
      cases decide (v &&& xpcs1Go ≠ 0) <;> rfl
  · rw [heq, hg, hbusy, decide_eq_true hv]
    rfl

/-- A byte makes the calls of its effect. -/
theorem Synced.write8_l {xp : Xp} (h : xp.Synced) (addr : Word) (b : Byte) :
    (xp.write8 addr b).l = (xp.storeEffect addr b).apply xp.l := by
  cases hlow : isCs1Low addr with
  | true => exact xp.write8_cs1_l b hlow
  | false =>
    have hquiet : ∀ hg : xp.go = true, (xp.storeEffect addr b).apply xp.l = xp.l := by
      intro hg
      unfold storeEffect clears
      rw [hlow, hg, if_neg (by decide), if_neg (by simp), if_neg (by simp)]
      rfl
    by_cases hbase : addr &&& 0o177776 = xpcs1Reg
    · have hodd : addr &&& 1 ≠ 0 := fun heven => by
        rw [isCs1Low_iff.2 ⟨hbase, heven⟩] at hlow
        exact absurd hlow (by decide)
      have hnone := xp.storeEffect_none b hlow (fun h => hodd h.2) fun h => hodd h.2
      rw [xp.write8_cs1 b hbase, if_pos hodd, hnone]
      exact (writeCs1High_keeps b xp).1
    · cases hgo : xp.go with
      | true =>
        rw [hquiet hgo]
        rcases h.write8_refused b hbase hgo with heq | heq
        · rw [heq]
        · rw [heq]
          rfl
      | false =>
        cases hro : isReadOnly (addr &&& 0o177776) with
        | true =>
          have h2 : addr &&& 0o177776 ≠ xpcs2Reg := fun heq => by
            rw [heq] at hro
            exact absurd hro (by decide)
          have h3 : addr &&& 0o177776 ≠ xpcs3Reg := fun heq => by
            rw [heq] at hro
            exact absurd hro (by decide)
          rw [xp.write8_readOnly b hro, xp.storeEffect_none b hlow (fun h => h2 h.1) fun h => h3 h.1]
          rfl
        | false =>
          rw [h.write8_other b hro hbase, if_neg (by rw [hgo]; decide)]
          split
          · next hhalf =>
            rw [xp.storeEffect_none b hlow (fun h => hhalf.2 h.2) fun h => hhalf.2 h.2]
            rfl
          · next hhalf => exact (write16_taken xp b hbase hhalf hgo).1

end Xp

end K1801.Lsi11
