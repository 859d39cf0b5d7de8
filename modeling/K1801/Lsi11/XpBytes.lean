import K1801.Lsi11.XpCommand

/-! # Words stored byte by byte in the XP

The bus stores a word as two bytes. Every byte is put into what the register reads as, so that the registers whose
bits mean something else when written (XPAS, CLR and TRE) and the store that starts a command see more than the word.
-/

namespace K1801.Lsi11

open Core Library

namespace Xp

/-- `bus_write16` at a register. -/
def storeWord (base v : Word) (xp : Xp) : Xp :=
  (xp.write8 base (v.setWidth 8)).write8 (base + 1) ((v >>> 8).setWidth 8)

/-! ## Bytes of a word -/

theorem odd_succ {base : Word} (heven : base &&& 1 = 0) :
    (base + 1) &&& 0o177776 = base &&& 0o177776 ∧ (base + 1) &&& 1 ≠ 0 := by
  rw [BitVec.add_eq_or_of_and_eq_zero base 1 heven]
  constructor
  · apply BitVec.eq_of_getLsbD_eq
    intro i hi
    simp only [BitVec.getLsbD_and, BitVec.getLsbD_or]
    interval_cases i <;> simp
  · intro h
    have hbit := congrArg (fun w : Word => w.getLsbD 0) h
    simp at hbit

/-- A word put together from its bytes; what the register reads as shows in neither half. -/
theorem halves {base : Word} (heven : base &&& 1 = 0) (old m v : Word) :
    withByteAt (base + 1) (withByteAt base old (v.setWidth 8) &&& m) ((v >>> 8).setWidth 8) &&& m = v &&& m := by
  unfold withByteAt
  rw [if_pos (odd_succ heven).2, if_neg fun h => h heven]
  apply BitVec.eq_of_getLsbD_eq
  intro i hi
  simp only [BitVec.getLsbD_and, BitVec.getLsbD_or, BitVec.getLsbD_shiftLeft, BitVec.getLsbD_setWidth,
    BitVec.getLsbD_ushiftRight]
  interval_cases i <;> simp

/-- The low byte put into a word without the bits of a mask that lies in the high byte. -/
theorem lowHalf {base : Word} (heven : base &&& 1 = 0) (old v : Word) {k : Word} (hk : 0o377 &&& k = k) :
    withByteAt base old (v.setWidth 8) &&& k = v &&& k := by
  rw [lowByteAt_bits heven old _ hk]
  rw [← hk, ← BitVec.and_assoc, ← BitVec.and_assoc]
  congr 1
  apply BitVec.eq_of_getLsbD_eq
  intro i hi
  simp only [BitVec.getLsbD_and, BitVec.getLsbD_setWidth]
  interval_cases i <;> simp

/-! ## Two bytes in an idle controller -/

section Idle

variable {xp : Xp} {base : Word}

/-- A register that takes both bytes. -/
theorem storeWord_taken (h : xp.Synced) (hgo : xp.go = false) (hbase : base &&& 0o177776 = base)
    (heven : base &&& 1 = 0) (hcs1 : base ≠ xpcs1Reg) (hro : isReadOnly base = false) (v : Word) :
    xp.storeWord base v =
      if base = xpbaeReg ∨ base = xpcs3Reg then
        xp.write16 base (withByteAt base (xp.read16 base).1 (v.setWidth 8))
      else
        (xp.write16 base (withByteAt base (xp.read16 base).1 (v.setWidth 8))).write16 base
          (withByteAt (base + 1)
            ((xp.write16 base (withByteAt base (xp.read16 base).1 (v.setWidth 8))).read16 base).1
            ((v >>> 8).setWidth 8)) := by
  obtain ⟨hbase', hodd⟩ := odd_succ heven
  rw [hbase] at hbase'
  have hfirst : xp.write8 base (v.setWidth 8) =
      xp.write16 base (withByteAt base (xp.read16 base).1 (v.setWidth 8)) := by
    have hro' : isReadOnly (base &&& 0o177776) = false := by
      rw [hbase]
      exact hro
    have hcs1' : base &&& 0o177776 ≠ xpcs1Reg := by
      rw [hbase]
      exact hcs1
    rw [h.write8_other _ hro' hcs1', if_neg (by rw [hgo]; decide), if_neg fun hhalf => hhalf.2 heven, hbase]
  have hidle : (xp.write8 base (v.setWidth 8)).go = false := by
    have hlow : isCs1Low base = false := Bool.eq_false_iff.2 fun hl => hcs1 (hbase ▸ (isCs1Low_iff.1 hl).1)
    rw [h.write8_other_go _ hlow]
    exact hgo
  have hsynced := h.write8 base (v.setWidth 8)
  unfold storeWord
  rw [← hfirst]
  generalize xp.write8 base (v.setWidth 8) = xp' at hidle hsynced
  have hro' : isReadOnly ((base + 1) &&& 0o177776) = false := by
    rw [hbase']
    exact hro
  have hcs1' : (base + 1) &&& 0o177776 ≠ xpcs1Reg := by
    rw [hbase']
    exact hcs1
  rw [hsynced.write8_other _ hro' hcs1', if_neg (by rw [hidle]; decide), hbase']
  by_cases hhalf : base = xpbaeReg ∨ base = xpcs3Reg
  · rw [if_pos ⟨hhalf, hodd⟩, if_pos hhalf]
  · rw [if_neg fun hh => hhalf hh.1, if_neg hhalf]

end Idle

/-! ## Plain registers -/

theorem and_all (w : Word) : w &&& 0o177777 = w := BitVec.and_allOnes

/-- A register that reads back what was written, under a mask. -/
theorem storeWord_plain {xp : Xp} (h : xp.Synced) (hgo : xp.go = false) {base : Word}
    (hbase : base &&& 0o177776 = base) (heven : base &&& 1 = 0) (hcs1 : base ≠ xpcs1Reg)
    (hro : isReadOnly base = false) (hhalf : ¬ (base = xpbaeReg ∨ base = xpcs3Reg)) (get : Xp → Word)
    (put : Word → Xp → Xp) (m : Word) (hwrite : ∀ (xp : Xp) w, xp.write16 base w = put (w &&& m) xp)
    (hread : ∀ xp : Xp, xp.Synced → (xp.read16 base).1 = get xp &&& m) (hget : ∀ w xp, get (put w xp) = w)
    (hput : ∀ w w' xp, put w' (put w xp) = put w' xp) (v : Word) : xp.storeWord base v = xp.write16 base v := by
  have hback : ∀ w : Word, w &&& m &&& m = w &&& m := fun w => by rw [BitVec.and_assoc, BitVec.and_self]
  have hsynced := h.write16 base (withByteAt base (xp.read16 base).1 (v.setWidth 8))
  rw [storeWord_taken h hgo hbase heven hcs1 hro, if_neg hhalf, hread _ hsynced, hwrite, hwrite, hget, hput, hback,
    halves heven, hwrite]

/-- A register of the selected drive. -/
theorem storeWord_drive {xp : Xp} (h : xp.Synced) (hgo : xp.go = false) {base : Word}
    (hbase : base &&& 0o177776 = base) (heven : base &&& 1 = 0) (hcs1 : base ≠ xpcs1Reg)
    (hro : isReadOnly base = false) (hhalf : ¬ (base = xpbaeReg ∨ base = xpcs3Reg)) (get : XpDrive → Word)
    (put : Word → XpDrive → XpDrive) (m : Word)
    (hwrite : ∀ (xp : Xp) w, xp.write16 base w = xp.modify xp.selectedUnit (put (w &&& m)))
    (hread : ∀ xp : Xp, xp.Synced → (xp.read16 base).1 = get xp.drive &&& m) (hget : ∀ w d, get (put w d) = w)
    (hput : ∀ w w' d, put w' (put w d) = put w' d) (v : Word) : xp.storeWord base v = xp.write16 base v := by
  refine storeWord_plain h hgo hbase heven hcs1 hro hhalf (fun xp => get xp.drive)
    (fun w xp => xp.modify xp.selectedUnit (put w)) m hwrite hread ?_ ?_ v
  · intro w xp
    show get ((Function.update xp.drives xp.selectedUnit (put w (xp.drives xp.selectedUnit))) xp.selectedUnit) = w
    rw [Function.update_self, hget]
  · intro w w' xp
    show ({ xp with drives := Function.update (Function.update xp.drives xp.selectedUnit
      (put w (xp.drives xp.selectedUnit))) xp.selectedUnit (put w' ((Function.update xp.drives xp.selectedUnit
        (put w (xp.drives xp.selectedUnit))) xp.selectedUnit)) } : Xp) = _
    rw [Function.update_self, Function.update_idem, hput]
    rfl

section Registers

variable {xp : Xp} (h : xp.Synced) (hgo : xp.go = false) (v : Word)

include h hgo

theorem storeWord_wc : xp.storeWord xpwcReg v = xp.write16 xpwcReg v :=
  storeWord_plain h hgo rfl rfl (by decide) (by decide) (by decide) Xp.xpwc (fun w xp => { xp with xpwc := w }) 0o177777
    (fun xp w => by rw [and_all]; rfl) (fun xp _ => (and_all _).symm) (fun _ _ => rfl) (fun _ _ _ => rfl) v

theorem storeWord_ba : xp.storeWord xpbaReg v = xp.write16 xpbaReg v :=
  storeWord_plain h hgo rfl rfl (by decide) (by decide) (by decide) Xp.xpba (fun w xp => { xp with xpba := w }) 0o177776
    (fun _ _ => rfl) (fun _ _ => rfl) (fun _ _ => rfl) (fun _ _ _ => rfl) v

theorem storeWord_db : xp.storeWord xpdbReg v = xp.write16 xpdbReg v :=
  storeWord_plain h hgo rfl rfl (by decide) (by decide) (by decide) Xp.xpdb (fun w xp => { xp with xpdb := w }) 0o177777
    (fun xp w => by rw [and_all]; rfl) (fun xp _ => (and_all _).symm) (fun _ _ => rfl) (fun _ _ _ => rfl) v

theorem storeWord_da : xp.storeWord xpdaReg v = xp.write16 xpdaReg v :=
  storeWord_drive h hgo rfl rfl (by decide) (by decide) (by decide) XpDrive.xpda (fun w d => { d with xpda := w })
    (xpdaSecMask ||| xpdaSfMask) (fun _ _ => rfl)
    (fun xp h => by
      show xp.syncStatus.drive.xpda &&& (xpdaSecMask ||| xpdaSfMask) = _
      rw [h])
    (fun _ _ => rfl) (fun _ _ _ => rfl) v

theorem storeWord_mr : xp.storeWord xpmrReg v = xp.write16 xpmrReg v :=
  storeWord_drive h hgo rfl rfl (by decide) (by decide) (by decide) XpDrive.xpmr (fun w d => { d with xpmr := w })
    0o177777 (fun xp w => by rw [and_all]; rfl)
    (fun xp h => by
      show xp.syncStatus.drive.xpmr = _
      rw [h, and_all])
    (fun _ _ => rfl) (fun _ _ _ => rfl) v

theorem storeWord_of : xp.storeWord xpofReg v = xp.write16 xpofReg v :=
  storeWord_drive h hgo rfl rfl (by decide) (by decide) (by decide) XpDrive.xpof (fun w d => { d with xpof := w })
    (~~~xpofMbz) (fun _ _ => rfl)
    (fun xp h => by
      show xp.syncStatus.drive.xpof &&& ~~~xpofMbz = _
      rw [h])
    (fun _ _ => rfl) (fun _ _ _ => rfl) v

theorem storeWord_dc : xp.storeWord xpdcReg v = xp.write16 xpdcReg v :=
  storeWord_drive h hgo rfl rfl (by decide) (by decide) (by decide) XpDrive.xpdc (fun w d => { d with xpdc := w })
    xpdcCylMask (fun _ _ => rfl)
    (fun xp h => by
      show xp.syncStatus.drive.xpdc &&& xpdcCylMask = _
      rw [h])
    (fun _ _ => rfl) (fun _ _ _ => rfl) v

theorem storeWord_bae : xp.storeWord xpbaeReg v = xp.write16 xpbaeReg v := by
  have hwrite : ∀ w : Word, xp.write16 xpbaeReg w = ({ xp with xpbae := w &&& xpBaeImp } : Xp).cs1UaeSyncFromBae.syncStatus :=
    fun _ => rfl
  rw [storeWord_taken h hgo rfl rfl (by decide) (by decide), if_pos (Or.inl rfl), hwrite, hwrite,
    lowHalf rfl _ v (by decide)]

theorem storeWord_cs3 : xp.storeWord xpcs3Reg v = xp.write16 xpcs3Reg v := by
  have hwrite : ∀ w : Word, xp.write16 xpcs3Reg w = ({ xp with
      xpcs3 := (xp.xpcs3 &&& ~~~xpcs3RwMask) ||| (w &&& xpcs3RwMask)
      l := xp.l.setIe (((xp.xpcs3 &&& ~~~xpcs3RwMask) ||| (w &&& xpcs3RwMask)) &&& xpcs1Ie ≠ 0) } : Xp).syncStatus :=
    fun _ => rfl
  rw [storeWord_taken h hgo rfl rfl (by decide) (by decide), if_pos (Or.inr rfl), hwrite, hwrite,
    lowHalf rfl _ v (by decide)]

end Registers

/-! ## XPAS -/

/-- The attentions that a mask clears. -/
def clearAttentions (mask : Word) (xp : Xp) : Xp :=
  { xp with drives := fun u =>
      if mask.getLsbD u.toNat then { xp.drives u with xpds := (xp.drives u).xpds &&& ~~~xpdsAta } else xp.drives u }

def attention (xp : Xp) (u : BitVec 3) : Bool := (xp.drives u).xpds &&& xpdsAta ≠ 0

theorem raw_clearAttentions (mask : Word) (xp : Xp) : (xp.clearAttentions mask).raw = xp.raw.clearAttentions mask := by
  have hdrives : (fun u => ((xp.clearAttentions mask).drives u).raw) = (xp.raw.clearAttentions mask).drives := by
    funext u
    show (if mask.getLsbD u.toNat then { xp.drives u with xpds := (xp.drives u).xpds &&& ~~~xpdsAta }
      else xp.drives u).raw = if mask.getLsbD u.toNat then
        { (xp.drives u).raw with xpds := (xp.drives u).raw.xpds &&& ~~~xpdsAta } else (xp.drives u).raw
    split
    · unfold XpDrive.raw
      congr 1
      show (xp.drives u).xpds &&& ~~~xpdsAta &&& _ = (xp.drives u).xpds &&& _ &&& ~~~xpdsAta
      rw [BitVec.and_assoc, BitVec.and_assoc, BitVec.and_comm (~~~xpdsAta)]
    · rfl
  show ({ xp.raw with drives := fun u => ((xp.clearAttentions mask).drives u).raw } : Xp) = _
  rw [hdrives]
  rfl

/-- Bit `u` of the summary is the attention of drive `u`. -/
theorem attentionSummary_bit (xp : Xp) (u : BitVec 3) : xp.attentionSummary.getLsbD u.toNat = xp.attention u := by
  have hfold : ∀ n ≤ 8, ((List.range n).foldl (fun as u => if (xp.drives (BitVec.ofNat 3 u)).xpds &&& xpdsAta ≠ 0
      then as ||| BitVec.twoPow 16 u else as) (0 : Word)).getLsbD u.toNat = (decide (u.toNat < n) && xp.attention u) := by
    intro n
    induction n with
    | zero => intro _; simp
    | succ n ih =>
      intro hn
      rw [List.range_succ, List.foldl_append]
      simp only [List.foldl_cons, List.foldl_nil]
      have hother : ∀ w : Word, (w ||| BitVec.twoPow 16 n).getLsbD u.toNat =
          (w.getLsbD u.toNat || decide (n = u.toNat)) := by
        intro w
        have hlt := u.isLt
        rw [BitVec.getLsbD_or, BitVec.getLsbD_twoPow, decide_eq_true (by omega), Bool.true_and]
      by_cases hlast : u.toNat = n
      · subst hlast
        have hdrive : (xp.drives (BitVec.ofNat 3 u.toNat)).xpds &&& xpdsAta ≠ 0 ↔ xp.attention u = true := by
          rw [BitVec.ofNat_toNat, BitVec.setWidth_eq]
          exact (decide_eq_true_iff).symm
        split
        · rename_i ha
          rw [hother, hdrive.1 ha]
          simp
        · rename_i ha
          rw [ih (by omega), Bool.eq_false_iff.2 fun ha' => ha (hdrive.2 ha')]
          simp
      · have hlt : decide (u.toNat < n + 1) = decide (u.toNat < n) := by
          apply decide_eq_decide.2
          omega
        rw [hlt, ← ih (by omega)]
        split
        · rw [hother, decide_eq_false (fun h => hlast h.symm), Bool.or_false]
        · rfl
  rw [attentionSummary, hfold 8 (Nat.le_refl _), decide_eq_true (by omega), Bool.true_and]

theorem attention_raw (xp : Xp) (u : BitVec 3) : xp.raw.attention u = xp.attention u := by
  show decide ((xp.drives u).xpds &&& (xpdsVv ||| xpdsLst ||| xpdsAta) &&& xpdsAta ≠ 0) = _
  rw [BitVec.and_assoc]
  rfl

theorem attention_syncStatus (xp : Xp) (u : BitVec 3) : xp.syncStatus.attention u = xp.attention u := by
  rw [← attention_raw, raw_syncStatus, attention_raw]

theorem attention_cleared (mask : Word) (xp : Xp) (u : BitVec 3) :
    (xp.clearAttentions mask).attention u = (xp.attention u && !mask.getLsbD u.toNat) := by
  show decide ((if mask.getLsbD u.toNat then { xp.drives u with xpds := (xp.drives u).xpds &&& ~~~xpdsAta }
    else xp.drives u).xpds &&& xpdsAta ≠ 0) = _
  cases mask.getLsbD u.toNat with
  | true =>
    rw [if_pos rfl, Bool.not_true, Bool.and_false]
    refine decide_eq_false fun h => h ?_
    show (xp.drives u).xpds &&& ~~~xpdsAta &&& xpdsAta = 0
    rw [BitVec.and_assoc]
    exact BitVec.and_zero
  | false =>
    rw [if_neg (by decide), Bool.not_false, Bool.and_true]
    rfl

/-- Clearing no more than the attentions that are there. -/
theorem clearAttentions_eq_iff {xp : Xp} {m m' : Word} : xp.clearAttentions m = xp.clearAttentions m' ↔
    ∀ u, xp.attention u = true → m.getLsbD u.toNat = m'.getLsbD u.toNat := by
  have hclear : ∀ u, xp.attention u = false → (xp.drives u).xpds &&& ~~~xpdsAta = (xp.drives u).xpds := by
    intro u hu
    have hbit : (xp.drives u).xpds &&& xpdsAta = 0 := by
      refine Decidable.not_not.1 fun hne => ?_
      exact absurd (hu.symm.trans (decide_eq_true hne)) (by decide)
    apply BitVec.eq_of_getLsbD_eq
    intro i hi
    have hi' := congrArg (fun w : Word => w.getLsbD i) hbit
    simp only [BitVec.getLsbD_and] at hi' ⊢
    rw [BitVec.getLsbD_not, decide_eq_true hi]
    cases hx : (xp.drives u).xpds.getLsbD i with
    | false => rfl
    | true =>
      rw [hx] at hi'
      cases ha : BitVec.getLsbD xpdsAta i with
      | false => rfl
      | true =>
        rw [ha] at hi'
        simp at hi'
  constructor
  · intro h u hu
    have hatt : (xp.clearAttentions m).attention u = (xp.clearAttentions m').attention u := by rw [h]
    rw [attention_cleared, attention_cleared, hu, Bool.true_and, Bool.true_and] at hatt
    exact Bool.not_inj hatt
  · intro h
    unfold clearAttentions
    congr 1
    funext u
    cases hu : xp.attention u with
    | true => rw [h u hu]
    | false =>
      rw [hclear u hu]
      split <;> split <;> rfl

theorem clearAttentions_twice (xp : Xp) (m m' : Word) :
    (xp.clearAttentions m).clearAttentions m' = xp.clearAttentions (m ||| m') := by
  unfold clearAttentions
  congr 1
  funext u
  dsimp only
  rw [BitVec.getLsbD_or]
  cases m.getLsbD u.toNat with
  | false => rfl
  | true =>
    rw [Bool.true_or, if_pos rfl]
    cases m'.getLsbD u.toNat with
    | false => rfl
    | true =>
      rw [if_pos rfl]
      show ({ xp.drives u with xpds := (xp.drives u).xpds &&& ~~~xpdsAta &&& ~~~xpdsAta } : XpDrive) = _
      rw [BitVec.and_assoc, BitVec.and_self]

/-- The second byte clears the attentions that the first has left. -/
theorem storeWord_as {xp : Xp} (h : xp.Synced) (hgo : xp.go = false) (v : Word) :
    xp.storeWord xpasReg v = xp.write16 xpasReg v ↔ ∀ u, xp.attention u = true → v.getLsbD u.toNat = true := by
  have hwrite : ∀ (xp : Xp) w, xp.write16 xpasReg w = (xp.clearAttentions w).syncStatus := fun _ _ => rfl
  rw [storeWord_taken h hgo rfl rfl (by decide) (by decide), if_neg (by decide), hwrite, hwrite]
  generalize hfirst : withByteAt xpasReg (xp.read16 xpasReg).1 (v.setWidth 8) = v1
  have hlow : ∀ u : BitVec 3, v1.getLsbD u.toNat = v.getLsbD u.toNat := by
    intro u
    have hu := u.isLt
    rw [← hfirst]
    unfold withByteAt
    rw [if_neg (by decide), BitVec.getLsbD_or, BitVec.getLsbD_and, BitVec.getLsbD_setWidth, BitVec.getLsbD_setWidth]
    generalize u.toNat = i at hu
    interval_cases i <;> simp
  generalize hsecond : withByteAt (xpasReg + 1) ((xp.clearAttentions v1).syncStatus.read16 xpasReg).1
    ((v >>> 8).setWidth 8) = v2
  have hrest : ∀ u : BitVec 3, v2.getLsbD u.toNat = (xp.attention u && !v.getLsbD u.toNat) := by
    intro u
    have hu := u.isLt
    have hread : ((xp.clearAttentions v1).syncStatus.read16 xpasReg).1.getLsbD u.toNat =
        (xp.attention u && !v.getLsbD u.toNat) := by
      show (xp.clearAttentions v1).syncStatus.syncStatus.attentionSummary.getLsbD u.toNat = _
      rw [attentionSummary_bit, attention_syncStatus, attention_syncStatus, attention_cleared, hlow]
    rw [← hread, ← hsecond]
    unfold withByteAt
    rw [if_pos (by decide), BitVec.getLsbD_or, BitVec.getLsbD_and, BitVec.getLsbD_shiftLeft, BitVec.getLsbD_setWidth]
    generalize u.toNat = i at hu
    interval_cases i <;> simp
  rw [hwrite, syncStatus_eq_iff, raw_clearAttentions, raw_syncStatus, raw_clearAttentions, raw_clearAttentions,
    clearAttentions_twice, clearAttentions_eq_iff]
  refine forall_congr' fun u => ?_
  rw [attention_raw, BitVec.getLsbD_or, hlow, hrest]
  cases xp.attention u <;> cases v.getLsbD u.toNat <;> simp

/-! ## XPCS2 -/

theorem raw_withCs2 (xp : Xp) (w : Word) : ({ xp with xpcs2 := w } : Xp).raw =
    { xp.raw with xpcs2 := w ||| (xpcs2Ir ||| xpcs2Or) } := rfl

/-- The bits of a word without CLR. -/
def loadCs2 (v : Word) (xp : Xp) : Xp :=
  { xp with xpcs2 := ((xp.xpcs2 &&& ~~~xpcs2RwMask) ||| (v &&& xpcs2RwMask)) ||| (xpcs2Ir ||| xpcs2Or) }

theorem writeCs2_eq (v : Word) (xp : Xp) :
    xp.writeCs2 v = if v &&& xpcs2Clr ≠ 0 then xp.controllerClear else (xp.loadCs2 v).syncStatus := rfl

theorem raw_loadCs2 (v : Word) (xp : Xp) : (xp.loadCs2 v).raw = { xp.raw with
    xpcs2 := ((xp.xpcs2 &&& ~~~xpcs2RwMask) ||| (v &&& xpcs2RwMask)) ||| (xpcs2Ir ||| xpcs2Or) } := by
  show ({ xp.raw with xpcs2 := _ ||| (xpcs2Ir ||| xpcs2Or) ||| (xpcs2Ir ||| xpcs2Or) } : Xp) = _
  rw [BitVec.or_assoc, BitVec.or_self]

/-- XPCS2 read, with a high byte put in. -/
theorem cs2_second (c lo v : Word) (hlo : lo &&& 0o37 = v &&& 0o37) :
    ((((c &&& ~~~xpcs2RwMask) ||| (lo &&& xpcs2RwMask)) ||| (xpcs2Ir ||| xpcs2Or)) &&& ~~~xpcs2RwMask) |||
      ((((((((c &&& ~~~xpcs2RwMask) ||| (lo &&& xpcs2RwMask)) ||| (xpcs2Ir ||| xpcs2Or)) |||
        (xpcs2Ir ||| xpcs2Or)) &&& ~~~xpcs2Clr) ||| xpcs2Ir ||| xpcs2Or) &&& 0o377 |||
        (((v >>> 8).setWidth 8).setWidth 16 <<< 8)) &&& xpcs2RwMask) ||| (xpcs2Ir ||| xpcs2Or) =
    ((c &&& ~~~xpcs2RwMask) ||| (v &&& xpcs2RwMask)) ||| (xpcs2Ir ||| xpcs2Or) := by
  have hbit : ∀ i < 5, lo.getLsbD i = v.getLsbD i := by
    intro i hi
    have hi' := congrArg (fun w : Word => w.getLsbD i) hlo
    simp only [BitVec.getLsbD_and] at hi'
    interval_cases i <;> simpa using hi'
  have h0 := hbit 0 (by decide)
  have h1 := hbit 1 (by decide)
  have h2 := hbit 2 (by decide)
  have h3 := hbit 3 (by decide)
  have h4 := hbit 4 (by decide)
  simp only [BitVec.getLsbD_eq_getElem, Nat.reduceLT] at h0 h1 h2 h3 h4
  apply BitVec.eq_of_getLsbD_eq
  intro i hi
  simp only [BitVec.getLsbD_and, BitVec.getLsbD_or, BitVec.getLsbD_not, BitVec.getLsbD_shiftLeft,
    BitVec.getLsbD_setWidth, BitVec.getLsbD_ushiftRight]
  interval_cases i <;> simp [h0, h1, h2, h3, h4]

theorem cs2_after_clear (c v : Word) :
    ((((c &&& xpcs2UnitMask) ||| (xpcs2Ir ||| xpcs2Or)) &&& ~~~xpcs2RwMask) |||
        ((((((((c &&& xpcs2UnitMask) ||| (xpcs2Ir ||| xpcs2Or)) ||| (xpcs2Ir ||| xpcs2Or)) &&& ~~~xpcs2Clr) |||
          xpcs2Ir ||| xpcs2Or) &&& 0o377) ||| (((v >>> 8).setWidth 8).setWidth 16 <<< 8)) &&& xpcs2RwMask)) |||
      (xpcs2Ir ||| xpcs2Or) =
    ((c &&& xpcs2UnitMask) ||| (xpcs2Ir ||| xpcs2Or)) ||| (v &&& (xpcs2Mxf ||| xpcs2Pe)) := by
  apply BitVec.eq_of_getLsbD_eq
  intro i hi
  simp only [BitVec.getLsbD_and, BitVec.getLsbD_or, BitVec.getLsbD_not, BitVec.getLsbD_shiftLeft,
    BitVec.getLsbD_setWidth, BitVec.getLsbD_ushiftRight]
  interval_cases i <;> simp

theorem cs2_set_nothing (c v : Word) :
    ((c &&& xpcs2UnitMask) ||| (xpcs2Ir ||| xpcs2Or)) ||| (v &&& (xpcs2Mxf ||| xpcs2Pe)) =
      (c &&& xpcs2UnitMask) ||| (xpcs2Ir ||| xpcs2Or) ↔ v &&& (xpcs2Mxf ||| xpcs2Pe) = 0 := by
  constructor
  · intro h
    apply BitVec.eq_of_getLsbD_eq
    intro i hi
    have hi' := congrArg (fun w : Word => w.getLsbD i) h
    simp only [BitVec.getLsbD_and, BitVec.getLsbD_or] at hi' ⊢
    interval_cases i <;> simp at hi' ⊢ <;> exact hi'
  · intro h
    rw [h]
    exact BitVec.or_zero

/-- The high byte sets MXF and PE after the low byte has cleared the controller. -/
theorem storeWord_cs2 {xp : Xp} (h : xp.Synced) (hgo : xp.go = false) (v : Word) :
    xp.storeWord xpcs2Reg v = xp.write16 xpcs2Reg v ↔ v &&& xpcs2Clr = 0 ∨ v &&& (xpcs2Mxf ||| xpcs2Pe) = 0 := by
  have hwrite : ∀ (xp : Xp) w, xp.write16 xpcs2Reg w = xp.writeCs2 w := fun _ _ => rfl
  have hread : ∀ xp : Xp, (xp.read16 xpcs2Reg).1 =
      ((xp.xpcs2 ||| (xpcs2Ir ||| xpcs2Or)) &&& ~~~xpcs2Clr) ||| xpcs2Ir ||| xpcs2Or := fun _ => rfl
  rw [storeWord_taken h hgo rfl rfl (by decide) (by decide), if_neg (by decide), hwrite, hwrite, hwrite]
  have hfirst : ∀ k : Word, 0o377 &&& k = k →
      withByteAt xpcs2Reg (xp.read16 xpcs2Reg).1 (v.setWidth 8) &&& k = v &&& k := fun k hk => lowHalf rfl _ _ hk
  generalize withByteAt xpcs2Reg (xp.read16 xpcs2Reg).1 (v.setWidth 8) = v1 at hfirst
  have hsecond : ∀ x : Xp, withByteAt (xpcs2Reg + 1) (x.read16 xpcs2Reg).1 ((v >>> 8).setWidth 8) &&& xpcs2Clr = 0 := by
    intro x
    rw [highByteAt_bits (by decide) _ _ (by decide)]
    exact read16_cs2 x
  have hform : ∀ x : Xp, withByteAt (xpcs2Reg + 1) (x.read16 xpcs2Reg).1 ((v >>> 8).setWidth 8) =
      ((x.read16 xpcs2Reg).1 &&& 0o377) ||| (((v >>> 8).setWidth 8).setWidth 16 <<< 8) := fun x => if_pos (by decide)
  rw [writeCs2_eq (withByteAt _ _ _), if_neg fun hne => hne (hsecond _), writeCs2_eq v1, writeCs2_eq v,
    hfirst _ (by decide), hform, hread]
  by_cases hclr : v &&& xpcs2Clr = 0
  · rw [if_neg fun hne => hne hclr, if_neg fun hne => hne hclr]
    refine iff_of_true ?_ (Or.inl hclr)
    have hcs2 : (xp.loadCs2 v1).syncStatus.xpcs2 =
        ((xp.xpcs2 &&& ~~~xpcs2RwMask) ||| (v1 &&& xpcs2RwMask)) ||| (xpcs2Ir ||| xpcs2Or) := by
      show ((xp.xpcs2 &&& ~~~xpcs2RwMask) ||| (v1 &&& xpcs2RwMask)) ||| (xpcs2Ir ||| xpcs2Or) |||
        (xpcs2Ir ||| xpcs2Or) = _
      rw [BitVec.or_assoc, BitVec.or_self]
    rw [syncStatus_eq_iff, raw_loadCs2, raw_loadCs2, raw_syncStatus, raw_loadCs2, hcs2]
    have hcs2 := cs2_second xp.xpcs2 v1 v (hfirst _ (by decide))
    exact congrArg (fun w : Word => ({ xp.raw with xpcs2 := w } : Xp)) hcs2
  · rw [if_pos hclr, if_pos hclr]
    have hcs2 : xp.controllerClear.xpcs2 = (xp.xpcs2 &&& xpcs2UnitMask) ||| (xpcs2Ir ||| xpcs2Or) := rfl
    have hsynced : xp.controllerClear.Synced := synced_syncStatus _
    rw [hcs2]
    generalize xp.controllerClear = cleared at hcs2 hsynced
    have hself : cleared.raw = { cleared.raw with xpcs2 := (xp.xpcs2 &&& xpcs2UnitMask) ||| (xpcs2Ir ||| xpcs2Or) } := by
      have hraw : cleared.raw.xpcs2 = (xp.xpcs2 &&& xpcs2UnitMask) ||| (xpcs2Ir ||| xpcs2Or) := by
        show cleared.xpcs2 ||| (xpcs2Ir ||| xpcs2Or) = _
        rw [hcs2, BitVec.or_assoc, BitVec.or_self]
      rw [← hraw]
    constructor
    · intro hsame
      refine Or.inr ((cs2_set_nothing xp.xpcs2 v).1 ?_)
      rw [← cs2_after_clear]
      have hsame' := congrArg Xp.xpcs2 (syncStatus_eq_iff.1 (hsame.trans hsynced.symm))
      rw [raw_loadCs2, hself, hcs2] at hsame'
      exact hsame'
    · intro hset
      have hset' := hset.resolve_left hclr
      refine Eq.trans (syncStatus_eq_iff.2 ?_) hsynced
      rw [raw_loadCs2, hcs2, cs2_after_clear, hset']
      exact Eq.trans (congrArg (fun w : Word => ({ cleared.raw with xpcs2 := w } : Xp)) BitVec.or_zero) hself.symm

/-! ## XPCS1 -/

/-- A word that starts a transfer. -/
def startsTransfer (v : Word) : Bool := v &&& xpcs1Go ≠ 0 && xpfXfer ≤ (v &&& xpcs1FncMask) >>> 1

/-- The low two bits of the extension replaced by those of a word. -/
def uaeOf (v bae : Word) : Word := (bae &&& ~~~(3 : Word)) ||| ((v >>> 8) &&& 3)

/-- The latch after a word for XPCS1 in a ready controller. -/
def cs1Latch (v : Word) (xp : Xp) : IrqLatch :=
  let l := (xp.l.setIe (v &&& xpcs1Ie ≠ 0)).raiseIf (xp.xpcs1 &&& xpcs1Ie = 0 && v &&& xpcs1Ie ≠ 0)
  if v &&& xpcs1Go ≠ 0 then l.swClearDone else l

/-- A word for XPCS1 taken by a ready controller, up to the status: whether the errors are cleared and what the
extension becomes. -/
def takeCs1 (clear : Bool) (bae v : Word) (xp : Xp) : Xp :=
  { xp with
    xpcs1 := (xp.xpcs1 &&& ~~~xpcs1FncMask) ||| (v &&& (xpcs1FncMask ||| xpcs1Go)), xpbae := bae
    xpcs2 := if clear then xp.xpcs2 &&& ~~~xpcs2ErrMask else xp.xpcs2
    xpcs3 := if clear then xp.xpcs3 &&& ~~~xpcs3ErrMask else xp.xpcs3
    l := xp.cs1Latch v }

theorem cs1_taken {b c : Word} (v : Word) (hb : b &&& ~~~cs1Derived = c &&& ~~~cs1Derived) :
    (((b &&& ~~~(xpcs1FncMask ||| xpcs1Ie)) ||| (v &&& 0o377 &&& (xpcs1FncMask ||| xpcs1Ie))) ||| (v &&& xpcs1Go)) &&&
      ~~~cs1Derived = ((c &&& ~~~xpcs1FncMask) ||| (v &&& (xpcs1FncMask ||| xpcs1Go))) &&& ~~~cs1Derived := by
  have hform : ∀ w : Word, (((w &&& ~~~(xpcs1FncMask ||| xpcs1Ie)) |||
      (v &&& 0o377 &&& (xpcs1FncMask ||| xpcs1Ie))) ||| (v &&& xpcs1Go)) &&& ~~~cs1Derived =
        (((w &&& ~~~cs1Derived) &&& ~~~xpcs1FncMask) ||| (v &&& (xpcs1FncMask ||| xpcs1Go))) &&& ~~~cs1Derived := by
    intro w
    apply BitVec.eq_of_getLsbD_eq
    intro i hi
    simp only [BitVec.getLsbD_and, BitVec.getLsbD_or, BitVec.getLsbD_not]
    interval_cases i <;> simp
  rw [hform, hb, ← hform]
  apply BitVec.eq_of_getLsbD_eq
  intro i hi
  simp only [BitVec.getLsbD_and, BitVec.getLsbD_or, BitVec.getLsbD_not]
  interval_cases i <;> simp

theorem raw_takeCs1 (clear : Bool) (bae v : Word) (xp : Xp) : (xp.takeCs1 clear bae v).raw =
    { (if clear then xp.clearErrors else xp).raw with
      xpcs1 := ((xp.xpcs1 &&& ~~~xpcs1FncMask) ||| (v &&& (xpcs1FncMask ||| xpcs1Go))) &&& ~~~cs1Derived
      xpbae := bae, l := xp.cs1Latch v } := by
  cases clear <;> rfl

theorem raw_clearErrors (xp : Xp) : xp.clearErrors.raw = xp.raw.clearErrors := by
  have hcs2 : (xp.xpcs2 &&& ~~~xpcs2ErrMask) ||| (xpcs2Ir ||| xpcs2Or) =
      (xp.xpcs2 ||| (xpcs2Ir ||| xpcs2Or)) &&& ~~~xpcs2ErrMask := by
    apply BitVec.eq_of_getLsbD_eq
    intro i hi
    simp only [BitVec.getLsbD_and, BitVec.getLsbD_or, BitVec.getLsbD_not]
    interval_cases i <;> simp
  have hcs3 : xp.xpcs3 &&& ~~~xpcs3ErrMask &&& ~~~xpcs1Ie = xp.xpcs3 &&& ~~~xpcs1Ie &&& ~~~xpcs3ErrMask := by
    rw [BitVec.and_assoc, BitVec.and_assoc, BitVec.and_comm (~~~xpcs3ErrMask)]
  unfold clearErrors raw
  dsimp only
  rw [hcs2, hcs3]

theorem clearErrors_twice (xp : Xp) : xp.clearErrors.clearErrors = xp.clearErrors := by
  unfold clearErrors
  dsimp only
  rw [BitVec.and_assoc, BitVec.and_self, BitVec.and_assoc, BitVec.and_self]

theorem raw_takeUae (uae : Word) {xp : Xp} (hdone : xp.xpcs1 &&& xpcs1Done ≠ 0) :
    (xp.takeUae uae).raw = { xp.raw with xpbae := (xp.xpbae &&& ~~~(3 : Word)) ||| ((uae >>> 8) &&& 3) } := by
  have hcs1 : ∀ c u : Word, ((c &&& ~~~xpcs1Uae) ||| ((u &&& 3) <<< 8)) &&& ~~~cs1Derived = c &&& ~~~cs1Derived := by
    intro c u
    apply BitVec.eq_of_getLsbD_eq
    intro i hi
    simp only [BitVec.getLsbD_and, BitVec.getLsbD_or, BitVec.getLsbD_not, BitVec.getLsbD_shiftLeft]
    interval_cases i <;> simp
  unfold takeUae
  rw [if_pos hdone]
  have hcs1' := hcs1 xp.xpcs1 ((xp.xpbae &&& ~~~(3 : Word)) ||| ((uae >>> 8) &&& 3))
  exact congrArg (fun w : Word => ({ xp.raw with
    xpcs1 := w, xpbae := (xp.xpbae &&& ~~~(3 : Word)) ||| ((uae >>> 8) &&& 3) } : Xp)) hcs1'

theorem uae_high (v : Word) : ((v &&& 0o177400 &&& xpcs1Uae) >>> 8) &&& (3 : Word) = (v >>> 8) &&& 3 := by
  apply BitVec.eq_of_getLsbD_eq
  intro i hi
  simp only [BitVec.getLsbD_and, BitVec.getLsbD_ushiftRight]
  interval_cases i <;> simp

theorem go_bit {v : Word} (hv : v &&& xpcs1Go ≠ 0) : v &&& xpcs1Go = xpcs1Go := by
  have hform : v &&& xpcs1Go = (BitVec.ofBool (v.getLsbD 0)).setWidth 16 := BitVec.and_one_eq_setWidth_ofBool_getLsbD
  cases hbit : v.getLsbD 0 with
  | true =>
    rw [hform, hbit]
    rfl
  | false =>
    refine absurd (hform.trans ?_) hv
    rw [hbit]
    rfl

/-- A ready controller takes a word for XPCS1. -/
theorem writeCs1_idle {xp : Xp} (h : xp.Synced) (hgo : xp.go = false) (hdone : xp.l.done = true) (v : Word) :
    xp.writeCs1 v =
      (xp.takeCs1 (v &&& xpcs1Tre ≠ 0 || startsTransfer v) (uaeOf v xp.xpbae) v).syncStatus := by
  have hdone' := h.done.2 hdone
  have hold : ¬ xp.xpcs1 &&& xpcs1Go ≠ 0 := of_decide_eq_false hgo
  have htre : v &&& 0o177400 &&& xpcs1Tre = v &&& xpcs1Tre := by
    rw [BitVec.and_assoc]
    rfl
  have hbefore : (xp.beforeFunction v).raw =
      { (if v &&& xpcs1Tre ≠ 0 then xp.clearErrors else xp).raw with xpbae := uaeOf v xp.xpbae } := by
    have hbit : (if v &&& xpcs1Tre ≠ 0 then xp.clearErrors else xp).xpcs1 = xp.xpcs1 := by
      split <;> rfl
    have hbae : (if v &&& xpcs1Tre ≠ 0 then xp.clearErrors else xp).xpbae = xp.xpbae := by
      split <;> rfl
    unfold beforeFunction
    rw [htre, raw_takeUae _ (by rw [hbit]; exact hdone'), uae_high, hbae]
    rfl
  have hcs1 := cs1_taken v (b := (xp.beforeFunction v).xpcs1) (c := xp.xpcs1) (xp.beforeFunction_cs1 v (by decide))
  have hclear : (if (decide (v &&& xpcs1Tre ≠ 0) || startsTransfer v) = true then xp.clearErrors else xp).raw =
      if startsTransfer v then (if v &&& xpcs1Tre ≠ 0 then xp.clearErrors else xp).raw.clearErrors
      else (if v &&& xpcs1Tre ≠ 0 then xp.clearErrors else xp).raw := by
    by_cases htre' : v &&& xpcs1Tre ≠ 0
    · rw [if_pos htre', decide_eq_true htre', Bool.true_or, if_pos rfl, raw_clearErrors, clearErrors_twice, ite_self]
    · rw [if_neg htre', decide_eq_false htre', Bool.false_or]
      split
      · rw [raw_clearErrors]
      · rfl
  have hload : ∀ l : IrqLatch, ({ xp.loadCs1 v with l := l, xpcs1 := (xp.loadCs1 v).xpcs1 ||| (v &&& xpcs1Go) } : Xp).raw =
      { (if v &&& xpcs1Tre ≠ 0 then xp.clearErrors else xp).raw with
        xpcs1 := ((xp.xpcs1 &&& ~~~xpcs1FncMask) ||| (v &&& (xpcs1FncMask ||| xpcs1Go))) &&& ~~~cs1Derived
        xpbae := uaeOf v xp.xpbae, l := l } := by
    intro l
    rw [loadCs1_eq, ← hcs1]
    show ({ (xp.beforeFunction v).raw with
      xpcs1 := ((xp.beforeFunction v).takeFunction (v &&& 0o377) ||| (v &&& xpcs1Go)) &&& ~~~cs1Derived, l := l } : Xp) = _
    rw [hbefore]
    rfl
  have hlatch : xp.cs1Latch v = if v &&& xpcs1Go ≠ 0 then (xp.loadCs1 v).l.swClearDone else (xp.loadCs1 v).l := by
    rw [loadCs1_l, decide_eq_true hdone', Bool.and_true]
    rfl
  have hgobit : v &&& 0o377 &&& xpcs1Go = v &&& xpcs1Go := by
    rw [BitVec.and_assoc]
    rfl
  have hfncbit : v &&& 0o377 &&& xpcs1FncMask = v &&& xpcs1FncMask := by
    rw [BitVec.and_assoc]
    rfl
  unfold writeCs1
  dsimp only
  rw [hgobit, hfncbit, if_neg fun hh => hold hh.2.1]
  by_cases hv : v &&& xpcs1Go = 0
  · have hquiet : startsTransfer v = false := by
      unfold startsTransfer
      rw [decide_eq_false fun hne => hne hv, Bool.false_and]
    rw [if_neg fun hh => hh.1 hv, syncStatus_eq_iff, raw_takeCs1, hclear, hquiet, if_neg (by decide), hlatch,
      if_neg (c := v &&& xpcs1Go ≠ 0) fun hne => hne hv]
    refine Eq.trans ?_ (hload (xp.loadCs1 v).l)
    rw [hv]
    show (xp.loadCs1 v).raw = ({ xp.loadCs1 v with xpcs1 := (xp.loadCs1 v).xpcs1 ||| 0 } : Xp).raw
    exact congrArg (fun w : Word => ({ xp.loadCs1 v with xpcs1 := w } : Xp).raw) BitVec.or_zero.symm
  · have hstarts : startsTransfer v = decide (xpfXfer ≤ (v &&& xpcs1FncMask) >>> 1) := by
      unfold startsTransfer
      rw [decide_eq_true hv, Bool.true_and]
    rw [if_pos ⟨hv, hold⟩, loadCs1_done, hdone, Bool.not_true, Bool.and_false, if_neg (by decide), syncStatus_eq_iff,
      raw_takeCs1, hclear, hlatch, if_pos hv, hstarts]
    have hgoset := hload (xp.loadCs1 v).l.swClearDone
    rw [go_bit hv] at hgoset
    cases decide (xpfXfer ≤ (v &&& xpcs1FncMask) >>> 1) with
    | false =>
      rw [if_neg (by decide), if_neg (by decide)]
      exact hgoset
    | true =>
      rw [if_pos rfl, if_pos rfl, raw_clearErrors]
      exact congrArg Xp.clearErrors hgoset

/-- Only the low byte of a word counts. -/
theorem takeCs1_low {v v' : Word} (hlow : ∀ k : Word, 0o377 &&& k = k → v' &&& k = v &&& k) (clear : Bool) (bae : Word)
    (xp : Xp) : xp.takeCs1 clear bae v' = xp.takeCs1 clear bae v := by
  unfold takeCs1 cs1Latch
  rw [hlow _ (by decide), hlow _ (by decide), hlow _ (by decide)]

theorem clearErrors_takeCs1 (clear : Bool) (bae v : Word) (xp : Xp) :
    (xp.takeCs1 clear bae v).raw.clearErrors = (xp.takeCs1 true bae v).raw := by
  rw [← raw_clearErrors]
  congr 1
  unfold takeCs1 clearErrors
  cases clear with
  | false => rfl
  | true =>
    dsimp only
    rw [if_pos rfl, if_pos rfl, BitVec.and_assoc, BitVec.and_self, BitVec.and_assoc, BitVec.and_self]

theorem or_status_and_not (w : Word) :
    ((w &&& ~~~xpcs2ErrMask) ||| (xpcs2Ir ||| xpcs2Or)) = w ||| (xpcs2Ir ||| xpcs2Or) ↔ w &&& xpcs2ErrMask = 0 := by
  constructor
  · intro h
    apply BitVec.eq_of_getLsbD_eq
    intro i hi
    have hi' := congrArg (fun w : Word => w.getLsbD i) h
    simp only [BitVec.getLsbD_and, BitVec.getLsbD_or, BitVec.getLsbD_not] at hi' ⊢
    interval_cases i <;> simp at hi' ⊢ <;> exact hi'
  · intro h
    have hkeep : w &&& ~~~xpcs2ErrMask = (w &&& ~~~xpcs2ErrMask) ||| (w &&& xpcs2ErrMask) := by
      rw [h]
      exact BitVec.or_zero.symm
    have hsplit : (w &&& ~~~xpcs2ErrMask) ||| (w &&& xpcs2ErrMask) = w := by
      apply BitVec.eq_of_getLsbD_eq
      intro i hi
      simp only [BitVec.getLsbD_and, BitVec.getLsbD_or, BitVec.getLsbD_not]
      interval_cases i <;> simp
    rw [hkeep, hsplit]

theorem and_not_status (w : Word) :
    w &&& ~~~xpcs3ErrMask &&& ~~~xpcs1Ie = w &&& ~~~xpcs1Ie ↔ w &&& xpcs3ErrMask = 0 := by
  constructor
  · intro h
    apply BitVec.eq_of_getLsbD_eq
    intro i hi
    have hi' := congrArg (fun w : Word => w.getLsbD i) h
    simp only [BitVec.getLsbD_and, BitVec.getLsbD_not] at hi' ⊢
    interval_cases i <;> simp at hi' ⊢ <;> exact hi'
  · intro h
    have hsplit : (w &&& ~~~xpcs3ErrMask) ||| (w &&& xpcs3ErrMask) = w := by
      apply BitVec.eq_of_getLsbD_eq
      intro i hi
      simp only [BitVec.getLsbD_and, BitVec.getLsbD_or, BitVec.getLsbD_not]
      interval_cases i <;> simp
    rw [h] at hsplit
    rw [show w &&& ~~~xpcs3ErrMask = w from BitVec.or_zero.symm.trans hsplit]

/-- No error that XPCS1 could clear. -/
def errorFree (xp : Xp) : Prop := xp.xpcs2 &&& xpcs2ErrMask = 0 ∧ xp.xpcs3 &&& xpcs3ErrMask = 0

theorem takeCs1_eq_iff {xp : Xp} {c c' : Bool} {b b' v : Word} :
    (xp.takeCs1 c b v).raw = (xp.takeCs1 c' b' v).raw ↔ b = b' ∧ (c = c' ∨ xp.errorFree) := by
  have hcs2 : ∀ (c : Bool) (b : Word), (xp.takeCs1 c b v).raw.xpcs2 =
      (if c then xp.xpcs2 &&& ~~~xpcs2ErrMask else xp.xpcs2) ||| (xpcs2Ir ||| xpcs2Or) := fun _ _ => rfl
  have hcs3 : ∀ (c : Bool) (b : Word), (xp.takeCs1 c b v).raw.xpcs3 =
      (if c then xp.xpcs3 &&& ~~~xpcs3ErrMask else xp.xpcs3) &&& ~~~xpcs1Ie := fun _ _ => rfl
  constructor
  · intro h
    refine ⟨congrArg Xp.xpbae h, ?_⟩
    have h2 := congrArg Xp.xpcs2 h
    have h3 := congrArg Xp.xpcs3 h
    rw [hcs2, hcs2] at h2
    rw [hcs3, hcs3] at h3
    cases c with
    | false =>
      cases c' with
      | false => exact Or.inl rfl
      | true => exact Or.inr ⟨(or_status_and_not _).1 h2.symm, (and_not_status _).1 h3.symm⟩
    | true =>
      cases c' with
      | false => exact Or.inr ⟨(or_status_and_not _).1 h2, (and_not_status _).1 h3⟩
      | true => exact Or.inl rfl
  · rintro ⟨rfl, rfl | ⟨h2, h3⟩⟩
    · rfl
    · have hclean : ∀ c : Bool, (xp.takeCs1 c b v).raw = { (xp.takeCs1 false b v).raw with
          xpcs2 := (if c then xp.xpcs2 &&& ~~~xpcs2ErrMask else xp.xpcs2) ||| (xpcs2Ir ||| xpcs2Or)
          xpcs3 := (if c then xp.xpcs3 &&& ~~~xpcs3ErrMask else xp.xpcs3) &&& ~~~xpcs1Ie } := fun c => by
        cases c <;> rfl
      have hsame : ∀ c : Bool, (xp.takeCs1 c b v).raw = (xp.takeCs1 false b v).raw := by
        intro c
        rw [hclean]
        cases c with
        | false => rfl
        | true =>
          rw [if_pos rfl, if_pos rfl, (or_status_and_not _).2 h2, (and_not_status _).2 h3]
          rfl
      rw [hsame c, hsame c']

theorem uaeOf_same {v v' : Word} (h : (v' >>> 8) &&& (3 : Word) = (v >>> 8) &&& 3) (bae : Word) : uaeOf v' bae = uaeOf v bae :=
  congrArg (fun w : Word => (bae &&& ~~~(3 : Word)) ||| w) h

theorem uaeOf_eq_iff (v bae : Word) : uaeOf v bae = bae ↔ (v >>> 8) &&& (3 : Word) = bae &&& 3 := by
  unfold uaeOf
  constructor
  · intro h
    have hbits : ∀ a b : Word, ((a &&& ~~~(3 : Word)) ||| (b &&& 3)) &&& 3 = b &&& 3 := by
      intro a b
      apply BitVec.eq_of_getLsbD_eq
      intro i hi
      simp only [BitVec.getLsbD_and, BitVec.getLsbD_or, BitVec.getLsbD_not]
      interval_cases i <;> simp
    rw [← hbits bae (v >>> 8), h]
  · intro h
    rw [h]
    apply BitVec.eq_of_getLsbD_eq
    intro i hi
    simp only [BitVec.getLsbD_and, BitVec.getLsbD_or, BitVec.getLsbD_not]
    interval_cases i <;> simp

/-- What a word for XPCS1 and its two bytes agree on: GO closes the extension to the high byte, and TRE as it reads
goes back into the register with the low byte. -/
def Cs1Safe (v : Word) (xp : Xp) : Prop :=
  (v &&& xpcs1Go = 0 ∨ (v >>> 8) &&& (3 : Word) = xp.xpbae &&& 3) ∧
    (xp.xpcs1 &&& xpcs1Tre = 0 ∨ v &&& xpcs1Tre ≠ 0 ∨ startsTransfer v = true ∨ xp.errorFree)

theorem or_either_iff (a b c : Bool) : (a || (b || c)) = (a || c) ↔ b = false ∨ a = true ∨ c = true := by
  cases a <;> cases b <;> cases c <;> decide

theorem storeWord_cs1 {xp : Xp} (h : xp.Synced) (hgo : xp.go = false) (hdone : xp.l.done = true) (v : Word) :
    xp.storeWord xpcs1Reg v = xp.write16 xpcs1Reg v ↔ xp.Cs1Safe v := by
  have hword : xp.write16 xpcs1Reg v = xp.writeCs1 v := rfl
  have hfirst : xp.write8 xpcs1Reg (v.setWidth 8) = xp.writeCs1 ((xp.xpcs1 &&& 0o177400) ||| (v.setWidth 8).setWidth 16) :=
    (xp.write8_cs1 _ (by decide)).trans (if_neg (by decide))
  have hsecond : ∀ x : Xp, x.write8 (xpcs1Reg + 1) ((v >>> 8).setWidth 8) = x.writeCs1High ((v >>> 8).setWidth 8) :=
    fun x => (x.write8_cs1 _ (by decide)).trans (if_pos (by decide))
  unfold storeWord
  rw [hword, hfirst, hsecond]
  have hlow : ∀ k : Word, 0o377 &&& k = k →
      ((xp.xpcs1 &&& 0o177400) ||| (v.setWidth 8).setWidth 16) &&& k = v &&& k := by
    intro k hk
    rw [← lowHalf (show xpcs1Reg &&& 1 = 0 from rfl) xp.xpcs1 v hk]
    exact congrArg (· &&& k) (if_neg (by decide)).symm
  have htre : ((xp.xpcs1 &&& 0o177400) ||| (v.setWidth 8).setWidth 16) &&& xpcs1Tre = xp.xpcs1 &&& xpcs1Tre := by
    apply BitVec.eq_of_getLsbD_eq
    intro i hi
    simp only [BitVec.getLsbD_and, BitVec.getLsbD_or, BitVec.getLsbD_setWidth]
    interval_cases i <;> simp
  have huae : uaeOf ((xp.xpcs1 &&& 0o177400) ||| (v.setWidth 8).setWidth 16) xp.xpbae = xp.xpbae := by
    have hext : ((xp.xpcs1 &&& 0o177400) ||| (v.setWidth 8).setWidth 16) >>> 8 &&& (3 : Word) =
        (xp.xpcs1 &&& xpcs1Uae) >>> 8 := by
      apply BitVec.eq_of_getLsbD_eq
      intro i hi
      simp only [BitVec.getLsbD_and, BitVec.getLsbD_or, BitVec.getLsbD_setWidth, BitVec.getLsbD_ushiftRight]
      interval_cases i <;> simp
    rw [uaeOf_eq_iff, hext, h.uae]
    apply BitVec.eq_of_getLsbD_eq
    intro i hi
    simp only [BitVec.getLsbD_and, BitVec.getLsbD_shiftLeft, BitVec.getLsbD_ushiftRight]
    interval_cases i <;> simp
  generalize (xp.xpcs1 &&& 0o177400) ||| (v.setWidth 8).setWidth 16 = v1 at hlow htre huae
  have hstarts : startsTransfer v1 = startsTransfer v := by
    unfold startsTransfer
    rw [hlow _ (by decide), hlow _ (by decide)]
  rw [writeCs1_idle h hgo hdone, writeCs1_idle h hgo hdone, takeCs1_low hlow, htre, huae, hstarts]
  have hhigh : ∀ k : Word, 0o177400 &&& k = k → (((v >>> 8).setWidth 8).setWidth 16 <<< 8 : Word) &&& k = v &&& k := by
    intro k hk
    rw [← hk, ← BitVec.and_assoc, ← BitVec.and_assoc]
    congr 1
    apply BitVec.eq_of_getLsbD_eq
    intro i hi
    simp only [BitVec.getLsbD_and, BitVec.getLsbD_setWidth, BitVec.getLsbD_shiftLeft, BitVec.getLsbD_ushiftRight]
    interval_cases i <;> simp
  have hform : ∀ x : Xp, x.writeCs1High ((v >>> 8).setWidth 8) =
      ((if v &&& xpcs1Tre ≠ 0 then x.clearErrors else x).takeUae (v &&& xpcs1Uae)).syncStatus := by
    intro x
    rw [← hhigh xpcs1Tre (by decide), ← hhigh xpcs1Uae (by decide)]
    rfl
  rw [hform]
  generalize htaken : (xp.takeCs1 (decide (xp.xpcs1 &&& xpcs1Tre ≠ 0) || startsTransfer v) xp.xpbae v).syncStatus = y
  have hy : y.Synced := htaken ▸ synced_syncStatus _
  have hyl : y.l = xp.cs1Latch v := by
    rw [← htaken]
    rfl
  have hraw : (if v &&& xpcs1Tre ≠ 0 then y.clearErrors else y).raw = (xp.takeCs1 (decide (v &&& xpcs1Tre ≠ 0) ||
      (decide (xp.xpcs1 &&& xpcs1Tre ≠ 0) || startsTransfer v)) xp.xpbae v).raw := by
    by_cases ht : v &&& xpcs1Tre ≠ 0
    · rw [if_pos ht, raw_clearErrors, ← htaken, raw_syncStatus, clearErrors_takeCs1, decide_eq_true ht, Bool.true_or]
    · rw [if_neg ht, ← htaken, raw_syncStatus, decide_eq_false ht, Bool.false_or]
  have hycs1 : (if v &&& xpcs1Tre ≠ 0 then y.clearErrors else y).xpcs1 = y.xpcs1 := by
    split <;> rfl
  generalize (if v &&& xpcs1Tre ≠ 0 then y.clearErrors else y) = z at hraw hycs1
  have hclear : ((decide (v &&& xpcs1Tre ≠ 0) || (decide (xp.xpcs1 &&& xpcs1Tre ≠ 0) || startsTransfer v)) =
      (decide (v &&& xpcs1Tre ≠ 0) || startsTransfer v)) ↔
        (xp.xpcs1 &&& xpcs1Tre = 0 ∨ v &&& xpcs1Tre ≠ 0 ∨ startsTransfer v = true) := by
    rw [or_either_iff, decide_eq_false_iff_not, decide_eq_true_iff, not_ne_iff]
  have hlatch : (xp.cs1Latch v).done = decide (v &&& xpcs1Go = 0) := by
    unfold cs1Latch IrqLatch.raiseIf
    by_cases hv : v &&& xpcs1Go = 0
    · rw [if_neg fun hne => hne hv, decide_eq_true hv]
      split <;> exact hdone
    · rw [if_pos hv, decide_eq_false hv]
      rfl
  unfold Cs1Safe
  by_cases hv : v &&& xpcs1Go = 0
  · have hready : z.xpcs1 &&& xpcs1Done ≠ 0 := by
      rw [hycs1, hy.done, hyl, hlatch]
      exact decide_eq_true hv
    have hbae : z.raw.xpbae = (xp.takeCs1 _ xp.xpbae v).raw.xpbae := congrArg Xp.xpbae hraw
    replace hbae : z.xpbae = xp.xpbae := hbae
    have hext : ((v &&& xpcs1Uae) >>> 8) &&& (3 : Word) = (v >>> 8) &&& 3 := by
      rw [← uae_high v, BitVec.and_assoc]
      rfl
    have hz : (z.takeUae (v &&& xpcs1Uae)).raw = (xp.takeCs1 (decide (v &&& xpcs1Tre ≠ 0) ||
        (decide (xp.xpcs1 &&& xpcs1Tre ≠ 0) || startsTransfer v)) (uaeOf v xp.xpbae) v).raw := by
      rw [raw_takeUae _ hready, hraw, hbae, hext]
      rfl
    rw [syncStatus_eq_iff, hz, takeCs1_eq_iff, hclear, or_assoc, or_assoc]
    exact ⟨fun hh => ⟨Or.inl hv, hh.2⟩, fun hh => ⟨rfl, hh.2⟩⟩
  · have hbusy : z.xpcs1 &&& xpcs1Done = 0 := by
      rw [hycs1]
      refine Decidable.not_not.1 fun hne => ?_
      have hdone' := hy.done.1 hne
      rw [hyl, hlatch] at hdone'
      exact hv (of_decide_eq_true hdone')
    rw [takeUae_busy _ hbusy, syncStatus_eq_iff, hraw, takeCs1_eq_iff, hclear, or_assoc, or_assoc, eq_comm, uaeOf_eq_iff]
    exact ⟨fun hh => ⟨Or.inr hh.1, hh.2⟩, fun hh => ⟨hh.1.resolve_left hv, hh.2⟩⟩

/-! ## Every register -/

/-- The states of a controller in a running machine. An image that does not open ends the machine. -/
inductive Reachable : Xp → Prop where
  | reset (xp : Xp) : Reachable xp.reset
  | write8 {xp : Xp} (addr : Word) (b : Byte) : Reachable xp → Reachable (xp.write8 addr b)
  | read8 {xp : Xp} (addr : Word) : Reachable xp → Reachable (xp.read8 addr).2
  | poll {δ : Type} {xp xp' : Xp} {bus bus' : Bus δ} : Reachable xp → xp.poll bus = some (xp', bus') → Reachable xp'
  | irqAck {xp : Xp} : Reachable xp → Reachable xp.irqAck
  | openImage {xp : Xp} (unit : BitVec 3) (image : DiskImage) (ro : Bool) :
      Reachable xp → Reachable (xp.openImageUnit unit (some (image, ro)))
  | closeImage {xp : Xp} : Reachable xp → Reachable xp.closeImage

theorem Matched.syncStatus {xp xp' : Xp} (h : xp.Matched) (hcs1 : xp'.xpcs1 = xp.xpcs1) (hl : xp'.l = xp.l) :
    xp'.syncStatus.Matched := by
  refine ⟨synced_syncStatus _, ?_⟩
  rw [go_syncStatus, syncStatus_l, hl, ← h.go]
  exact congrArg (fun w : Word => decide (w &&& xpcs1Go ≠ 0)) hcs1

theorem Reachable.matched {xp : Xp} (h : Reachable xp) : xp.Matched := by
  induction h with
  | reset xp => exact matched_reset xp
  | write8 addr b _ ih => exact ih.write8 addr b
  | read8 addr _ ih =>
    rw [ih.synced.read8]
    exact ih
  | poll _ hpoll ih =>
    rcases poll_cases hpoll with ⟨-, rfl⟩ | ⟨-, hended⟩
    · exact ih
    · refine ⟨hended.synced, ?_⟩
      rw [hended.go, hended.latch, IrqLatch.eventSetDone_done]
      rfl
  | irqAck _ ih => exact ⟨ih.synced.irqAck, ih.go⟩
  | openImage unit image ro _ ih => exact ih.syncStatus rfl rfl
  | closeImage _ ih => exact ih.syncStatus rfl rfl

/-- A register whose bytes are stored without a word store. -/
theorem storeWord_unlisted {xp : Xp} (h : xp.Synced) (hgo : xp.go = false) {base : Word} (hbase : base &&& 0o177776 = base)
    (heven : base &&& 1 = 0) (hcs1 : base ≠ xpcs1Reg) (hhalf : ¬ (base = xpbaeReg ∨ base = xpcs3Reg))
    (hwrite : ∀ (xp : Xp) w, xp.write16 base w = xp) (v : Word) : xp.storeWord base v = xp.write16 base v := by
  cases hro : isReadOnly base with
  | true =>
    unfold storeWord
    have hodd : (base + 1) &&& 0o177776 = base := (odd_succ heven).1.trans hbase
    rw [write8_readOnly _ _ (hodd.symm ▸ hro), write8_readOnly _ _ (hbase.symm ▸ hro), hwrite]
  | false => rw [storeWord_taken h hgo hbase heven hcs1 hro, if_neg hhalf, hwrite, hwrite, hwrite]

/-- When the two bytes of a word do what the word does. -/
structure SplitSafe (base v : Word) (xp : Xp) : Prop where
  attentions : base = xpasReg → ∀ u, xp.attention u = true → v.getLsbD u.toNat = true
  clear : base = xpcs2Reg → v &&& xpcs2Clr = 0 ∨ v &&& (xpcs2Mxf ||| xpcs2Pe) = 0
  command : base = xpcs1Reg → xp.Cs1Safe v

/-- In a controller without a command, the two bytes of a word leave the state that the word leaves exactly when an
attention store covers all attentions, a clearing store sets no error, and a store to XPCS1 with GO keeps the extension
and does not leave an error standing that it reads back. -/
theorem storeWord_iff {xp : Xp} (h : Reachable xp) (hidle : xp.go = false) {base : Word} (heven : base &&& 1 = 0)
    (v : Word) : xp.storeWord base v = xp.write16 base v ↔ xp.SplitSafe base v := by
  have hs := h.matched.synced
  have hdone : xp.l.done = true := by
    have hgo := h.matched.go
    rw [hidle] at hgo
    exact Bool.not_eq_false' .. ▸ hgo.symm
  have hbase : base &&& 0o177776 = base := by
    apply BitVec.eq_of_getLsbD_eq
    intro i hi
    have hbit := congrArg (fun w : Word => w.getLsbD 0) heven
    simp only [BitVec.getLsbD_and] at hbit ⊢
    interval_cases i <;> simp at hbit ⊢
    exact hbit
  by_cases hcs1 : base = xpcs1Reg
  · subst hcs1
    rw [storeWord_cs1 hs hidle hdone]
    exact ⟨fun hc => ⟨fun hne => absurd hne (by decide), fun hne => absurd hne (by decide), fun _ => hc⟩,
      fun hc => hc.command rfl⟩
  by_cases hcs2 : base = xpcs2Reg
  · subst hcs2
    rw [storeWord_cs2 hs hidle]
    exact ⟨fun hc => ⟨fun hne => absurd hne (by decide), fun _ => hc, fun hne => absurd hne (by decide)⟩,
      fun hc => hc.clear rfl⟩
  by_cases has : base = xpasReg
  · subst has
    rw [storeWord_as hs hidle]
    exact ⟨fun hc => ⟨fun _ => hc, fun hne => absurd hne (by decide), fun hne => absurd hne (by decide)⟩,
      fun hc => hc.attentions rfl⟩
  refine iff_of_true ?_ ⟨fun hne => absurd hne has, fun hne => absurd hne hcs2, fun hne => absurd hne hcs1⟩
  by_cases hwc : base = xpwcReg
  · exact hwc ▸ storeWord_wc hs hidle v
  by_cases hba : base = xpbaReg
  · exact hba ▸ storeWord_ba hs hidle v
  by_cases hda : base = xpdaReg
  · exact hda ▸ storeWord_da hs hidle v
  by_cases hdb : base = xpdbReg
  · exact hdb ▸ storeWord_db hs hidle v
  by_cases hmr : base = xpmrReg
  · exact hmr ▸ storeWord_mr hs hidle v
  by_cases hof : base = xpofReg
  · exact hof ▸ storeWord_of hs hidle v
  by_cases hdc : base = xpdcReg
  · exact hdc ▸ storeWord_dc hs hidle v
  by_cases hbae : base = xpbaeReg
  · exact hbae ▸ storeWord_bae hs hidle v
  by_cases hcs3 : base = xpcs3Reg
  · exact hcs3 ▸ storeWord_cs3 hs hidle v
  refine storeWord_unlisted hs hidle hbase heven hcs1 (fun hh => hh.elim hbae hcs3) (fun xp w => ?_) v
  unfold write16
  dsimp only
  rw [hbase, if_neg hcs1, if_neg hwc, if_neg hba, if_neg hda, if_neg hcs2, if_neg has, if_neg hdb, if_neg hmr,
    if_neg hof, if_neg hdc, if_neg hbae, if_neg hcs3]

/-- A read of disk into memory past the first 64K words: the extension in the word that starts it is lost. -/
theorem storeWord_extension : ∃ xp : Xp, Reachable xp ∧ xp.go = false ∧
    xp.storeWord xpcs1Reg 0o471 ≠ xp.write16 xpcs1Reg 0o471 := by
  refine ⟨reset {}, .reset {}, by decide +kernel, fun h => ?_⟩
  have hbae := congrArg Xp.xpbae h
  revert hbae
  decide +kernel

/-- A read of disk into the first 64K words. -/
theorem storeWord_first64K : (reset {}).storeWord xpcs1Reg 0o71 = (reset {}).write16 xpcs1Reg 0o71 :=
  (storeWord_iff (.reset {}) (by decide +kernel) (by decide) _).2
    ⟨fun h => absurd h (by decide), fun h => absurd h (by decide),
      fun _ => ⟨Or.inr (by decide +kernel), Or.inr (Or.inr (Or.inl (by decide)))⟩⟩

end Xp

end K1801.Lsi11
