import Mathlib.Tactic.IntervalCases
import Mathlib.Tactic.SplitIfs
import K1801.Lsi11.Xp

/-! # The status registers of the XP

Bits of XPCS1, XPCS2, XPCS3 and of the drive status are worked out again whenever the status is brought up to date.
What they are worked out from is the raw state: two states have the same status exactly when their raw states are the
same.
-/

namespace K1801.Lsi11

open Core Library

namespace XpDrive

/-- The drive without the status bits that are worked out. -/
def raw (d : XpDrive) : XpDrive := { d with xpds := d.xpds &&& (xpdsVv ||| xpdsLst ||| xpdsAta) }

theorem updateStatus_raw (attached : Bool) (d : XpDrive) : d.raw.updateStatus attached = d.updateStatus attached := by
  unfold raw updateStatus
  congr 1
  show _ ||| _ ||| (d.xpds &&& _ &&& _) ||| _ = _
  rw [BitVec.and_assoc, BitVec.and_self]
  rfl

theorem raw_updateStatus (attached : Bool) (d : XpDrive) : (d.updateStatus attached).raw = d.raw := by
  have hbits : ∀ a b : Word, (a = 0 ∨ a = xpdsMol ||| xpdsRdy) → (b = 0 ∨ b = xpdsErr) →
      (xpdsDpr ||| a ||| (d.xpds &&& (xpdsVv ||| xpdsLst ||| xpdsAta)) ||| b) &&& (xpdsVv ||| xpdsLst ||| xpdsAta) =
        d.xpds &&& (xpdsVv ||| xpdsLst ||| xpdsAta) := by
    intro a b ha hb
    apply BitVec.eq_of_getLsbD_eq
    intro i hi
    rcases ha with rfl | rfl
    · rcases hb with rfl | rfl
      · interval_cases i <;> simp
      · interval_cases i <;> simp
    · rcases hb with rfl | rfl
      · interval_cases i <;> simp
      · interval_cases i <;> simp
  unfold raw updateStatus
  congr 1
  apply hbits
  · cases attached with
    | true => exact Or.inr rfl
    | false => exact Or.inl rfl
  · cases d.hasError with
    | true => exact Or.inr rfl
    | false => exact Or.inl rfl

end XpDrive

namespace Xp

/-- The bits of XPCS1 that are worked out. -/
abbrev cs1Derived : Word := xpcs1Done ||| xpcs1Ie ||| xpcs1Tre ||| xpcs1Sc ||| xpcs1Dva ||| xpcs1Uae

/-- The state without what is worked out from it. -/
def raw (xp : Xp) : Xp :=
  { xp with
    xpcs1 := xp.xpcs1 &&& ~~~cs1Derived, xpcs2 := xp.xpcs2 ||| (xpcs2Ir ||| xpcs2Or), xpcs3 := xp.xpcs3 &&& ~~~xpcs1Ie
    drives := fun u => (xp.drives u).raw }

/-- The drives and XPCS2 up to date. -/
def refreshed (xp : Xp) : Xp := { xp with xpcs2 := xp.xpcs2 ||| (xpcs2Ir ||| xpcs2Or) }.updateAllDriveStatus

def cs1Base : Word := xpcs1Done ||| xpcs1Ie ||| xpcs1Tre ||| xpcs1Sc ||| xpcs1Dva

theorem syncStatus_eq (xp : Xp) : xp.syncStatus =
    { xp.refreshed with
      xpcs1 := (((xp.xpcs1 &&& ~~~cs1Base) ||| xp.refreshed.cs1Status) &&& ~~~xpcs1Uae) ||| ((xp.xpbae &&& 3) <<< 8)
      xpcs3 := (xp.xpcs3 &&& ~~~xpcs1Ie) |||
        (((xp.xpcs1 &&& ~~~cs1Base) ||| xp.refreshed.cs1Status) &&& xpcs1Ie) } := rfl

theorem refreshed_raw (xp : Xp) : xp.raw.refreshed =
    { xp.refreshed with xpcs1 := xp.xpcs1 &&& ~~~cs1Derived, xpcs3 := xp.xpcs3 &&& ~~~xpcs1Ie } := by
  have hcs2 : xp.raw.refreshed.xpcs2 = xp.refreshed.xpcs2 := by
    show xp.xpcs2 ||| (xpcs2Ir ||| xpcs2Or) ||| (xpcs2Ir ||| xpcs2Or) = xp.xpcs2 ||| (xpcs2Ir ||| xpcs2Or)
    rw [BitVec.or_assoc, BitVec.or_self]
  have hdrives : xp.raw.refreshed.drives = xp.refreshed.drives := funext fun u => XpDrive.updateStatus_raw _ _
  show ({ xp.raw.refreshed with xpcs2 := xp.raw.refreshed.xpcs2, drives := xp.raw.refreshed.drives } : Xp) = _
  rw [hcs2, hdrives]
  rfl

/-- The derived bits do not count. -/
theorem cs1_bits (c u s : Word) : (((c &&& ~~~cs1Derived &&& ~~~cs1Base) ||| s) &&& ~~~xpcs1Uae) ||| ((u &&& 3) <<< 8) =
    (((c &&& ~~~cs1Base) ||| s) &&& ~~~xpcs1Uae) ||| ((u &&& 3) <<< 8) := by
  apply BitVec.eq_of_getLsbD_eq
  intro i hi
  simp only [BitVec.getLsbD_and, BitVec.getLsbD_or, BitVec.getLsbD_not, BitVec.getLsbD_shiftLeft, cs1Base]
  interval_cases i <;> simp

theorem cs3_bits (c d s : Word) : (d &&& ~~~xpcs1Ie &&& ~~~xpcs1Ie) |||
      (((c &&& ~~~cs1Derived &&& ~~~cs1Base) ||| s) &&& xpcs1Ie) =
    (d &&& ~~~xpcs1Ie) ||| (((c &&& ~~~cs1Base) ||| s) &&& xpcs1Ie) := by
  apply BitVec.eq_of_getLsbD_eq
  intro i hi
  simp only [BitVec.getLsbD_and, BitVec.getLsbD_or, BitVec.getLsbD_not, cs1Base]
  interval_cases i <;> simp

theorem syncStatus_raw (xp : Xp) : xp.raw.syncStatus = xp.syncStatus := by
  rw [syncStatus_eq, syncStatus_eq, refreshed_raw]
  show ({ xp.refreshed with
    xpcs1 := (((xp.xpcs1 &&& ~~~cs1Derived &&& ~~~cs1Base) ||| xp.refreshed.cs1Status) &&& ~~~xpcs1Uae) |||
      ((xp.xpbae &&& 3) <<< 8)
    xpcs3 := (xp.xpcs3 &&& ~~~xpcs1Ie &&& ~~~xpcs1Ie) |||
      (((xp.xpcs1 &&& ~~~cs1Derived &&& ~~~cs1Base) ||| xp.refreshed.cs1Status) &&& xpcs1Ie) } : Xp) = _
  rw [cs1_bits, cs3_bits]

theorem cs1_underived (c u s : Word) :
    ((((c &&& ~~~cs1Base) ||| (s &&& cs1Base)) &&& ~~~xpcs1Uae) ||| ((u &&& 3) <<< 8)) &&& ~~~cs1Derived =
      c &&& ~~~cs1Derived := by
  apply BitVec.eq_of_getLsbD_eq
  intro i hi
  simp only [BitVec.getLsbD_and, BitVec.getLsbD_or, BitVec.getLsbD_not, BitVec.getLsbD_shiftLeft, cs1Base]
  interval_cases i <;> simp

theorem cs1Status_form (xp : Xp) : ∃ c : Word, (c = 0 ∨ c = xpcs1Sc ∨ c = xpcs1Tre ||| xpcs1Sc) ∧
    xp.cs1Status = (if xp.l.done then xpcs1Done else 0) ||| (if xp.l.ie then xpcs1Ie else 0) ||| xpcs1Dva ||| c := by
  refine ⟨_, ?_, rfl⟩
  split_ifs
  · exact Or.inr (Or.inr rfl)
  · exact Or.inr (Or.inl rfl)
  · exact Or.inl rfl

/-- Status bits only. -/
theorem cs1Status_bits (xp : Xp) : xp.cs1Status &&& cs1Base = xp.cs1Status := by
  obtain ⟨c, hc, hform⟩ := xp.cs1Status_form
  rw [hform]
  cases xp.l.done <;> cases xp.l.ie <;> rcases hc with rfl | rfl | rfl <;> decide

theorem raw_syncStatus (xp : Xp) : xp.syncStatus.raw = xp.raw := by
  have hcs1 : xp.syncStatus.xpcs1 &&& ~~~cs1Derived = xp.xpcs1 &&& ~~~cs1Derived := by
    show ((((xp.xpcs1 &&& ~~~cs1Base) ||| xp.refreshed.cs1Status) &&& ~~~xpcs1Uae) |||
      ((xp.xpbae &&& 3) <<< 8)) &&& ~~~cs1Derived = _
    rw [← cs1Status_bits xp.refreshed]
    exact cs1_underived _ _ _
  have hcs2 : xp.syncStatus.xpcs2 ||| (xpcs2Ir ||| xpcs2Or) = xp.xpcs2 ||| (xpcs2Ir ||| xpcs2Or) := by
    show xp.xpcs2 ||| (xpcs2Ir ||| xpcs2Or) ||| (xpcs2Ir ||| xpcs2Or) = _
    rw [BitVec.or_assoc, BitVec.or_self]
  have hcs3 : xp.syncStatus.xpcs3 &&& ~~~xpcs1Ie = xp.xpcs3 &&& ~~~xpcs1Ie := by
    show ((xp.xpcs3 &&& ~~~xpcs1Ie) |||
      (((xp.xpcs1 &&& ~~~cs1Base) ||| xp.refreshed.cs1Status) &&& xpcs1Ie)) &&& ~~~xpcs1Ie = _
    apply BitVec.eq_of_getLsbD_eq
    intro i hi
    simp only [BitVec.getLsbD_and, BitVec.getLsbD_or, BitVec.getLsbD_not]
    interval_cases i <;> simp
  have hdrives : (fun u => (xp.syncStatus.drives u).raw) = fun u => (xp.drives u).raw :=
    funext fun u => XpDrive.raw_updateStatus _ _
  unfold raw
  rw [hcs1, hcs2, hcs3, hdrives]
  rfl

/-- Bringing the status up to date sees and keeps exactly the raw state. -/
theorem syncStatus_eq_iff {xp xp' : Xp} : xp.syncStatus = xp'.syncStatus ↔ xp.raw = xp'.raw := by
  constructor
  · intro h
    rw [← raw_syncStatus xp, h, raw_syncStatus]
  · intro h
    rw [← syncStatus_raw xp, h, syncStatus_raw]

/-! ## States that are up to date -/

/-- The status is up to date. -/
def Synced (xp : Xp) : Prop := xp.syncStatus = xp

theorem synced_syncStatus (xp : Xp) : xp.syncStatus.Synced := syncStatus_eq_iff.2 (raw_syncStatus xp)

/-- Bits of XPCS1 that are not worked out stay. -/
theorem syncStatus_cs1 (xp : Xp) {k : Word} (hk : ~~~cs1Derived &&& k = k) :
    xp.syncStatus.xpcs1 &&& k = xp.xpcs1 &&& k := by
  have hraw : xp.syncStatus.xpcs1 &&& ~~~cs1Derived = xp.xpcs1 &&& ~~~cs1Derived :=
    congrArg Xp.xpcs1 (raw_syncStatus xp)
  rw [← hk, ← BitVec.and_assoc, hraw, BitVec.and_assoc]

@[simp] theorem syncStatus_go (xp : Xp) : xp.syncStatus.xpcs1 &&& xpcs1Go = xp.xpcs1 &&& xpcs1Go :=
  xp.syncStatus_cs1 (by decide)

@[simp] theorem syncStatus_fnc (xp : Xp) : xp.syncStatus.xpcs1 &&& xpcs1FncMask = xp.xpcs1 &&& xpcs1FncMask :=
  xp.syncStatus_cs1 (by decide)

@[simp] theorem syncStatus_l (xp : Xp) : xp.syncStatus.l = xp.l := rfl

@[simp] theorem syncStatus_fp (xp : Xp) : xp.syncStatus.fp = xp.fp := rfl

/-- A bit of the status word. -/
theorem syncStatus_status (xp : Xp) {k : Word} (hk : cs1Base &&& k = k) (huae : xpcs1Uae &&& k = 0) :
    xp.syncStatus.xpcs1 &&& k = xp.refreshed.cs1Status &&& k := by
  show ((((xp.xpcs1 &&& ~~~cs1Base) ||| xp.refreshed.cs1Status) &&& ~~~xpcs1Uae) ||| ((xp.xpbae &&& 3) <<< 8)) &&& k = _
  have hbits : ∀ c s u : Word, ((((c &&& ~~~cs1Base) ||| s) &&& ~~~xpcs1Uae) ||| ((u &&& 3) <<< 8)) &&&
      (cs1Base &&& ~~~xpcs1Uae) = s &&& (cs1Base &&& ~~~xpcs1Uae) := by
    intro c s u
    apply BitVec.eq_of_getLsbD_eq
    intro i hi
    simp only [BitVec.getLsbD_and, BitVec.getLsbD_or, BitVec.getLsbD_not, BitVec.getLsbD_shiftLeft, cs1Base]
    interval_cases i <;> simp
  have hmask : (cs1Base &&& ~~~xpcs1Uae) &&& k = k := by
    rw [show cs1Base &&& ~~~xpcs1Uae = cs1Base from by decide]
    exact hk
  rw [← hmask, ← BitVec.and_assoc, hbits, BitVec.and_assoc]

theorem syncStatus_done (xp : Xp) : xp.syncStatus.xpcs1 &&& xpcs1Done ≠ 0 ↔ xp.l.done = true := by
  obtain ⟨c, hc, hform⟩ := xp.refreshed.cs1Status_form
  rw [xp.syncStatus_status (by decide) (by decide), hform, show xp.refreshed.l = xp.l from rfl]
  cases xp.l.done <;> cases xp.l.ie <;> rcases hc with rfl | rfl | rfl <;> decide

theorem syncStatus_ie (xp : Xp) : xp.syncStatus.xpcs1 &&& xpcs1Ie ≠ 0 ↔ xp.l.ie = true := by
  obtain ⟨c, hc, hform⟩ := xp.refreshed.cs1Status_form
  rw [xp.syncStatus_status (by decide) (by decide), hform, show xp.refreshed.l = xp.l from rfl]
  cases xp.l.done <;> cases xp.l.ie <;> rcases hc with rfl | rfl | rfl <;> decide

/-- Merging bits in again changes nothing. -/
theorem merge_again (d x k : Word) : (((d &&& ~~~k) ||| (x &&& k)) &&& ~~~k) ||| (x &&& k) =
    (d &&& ~~~k) ||| (x &&& k) := by
  apply BitVec.eq_of_getLsbD_eq
  intro i hi
  simp only [BitVec.getLsbD_and, BitVec.getLsbD_or, BitVec.getLsbD_not, hi, decide_true, Bool.true_and]
  cases k.getLsbD i <;> simp

section Synced

variable {xp : Xp} (h : xp.Synced)

include h

theorem Synced.done : xp.xpcs1 &&& xpcs1Done ≠ 0 ↔ xp.l.done = true := by
  have hbit := syncStatus_done xp
  rw [h] at hbit
  exact hbit

theorem Synced.ie : xp.xpcs1 &&& xpcs1Ie ≠ 0 ↔ xp.l.ie = true := by
  have hbit := syncStatus_ie xp
  rw [h] at hbit
  exact hbit

theorem Synced.uae : (xp.xpcs1 &&& xpcs1Uae) = (xp.xpbae &&& 3) <<< 8 := by
  have hcs1 : xp.syncStatus.xpcs1 &&& xpcs1Uae = (xp.xpbae &&& 3) <<< 8 := by
    show ((((xp.xpcs1 &&& ~~~cs1Base) ||| xp.refreshed.cs1Status) &&& ~~~xpcs1Uae) |||
      ((xp.xpbae &&& 3) <<< 8)) &&& xpcs1Uae = _
    apply BitVec.eq_of_getLsbD_eq
    intro i hi
    simp only [BitVec.getLsbD_and, BitVec.getLsbD_or, BitVec.getLsbD_not, BitVec.getLsbD_shiftLeft]
    interval_cases i <;> simp
  rw [h] at hcs1
  exact hcs1

theorem Synced.cs2 : xp.xpcs2 ||| (xpcs2Ir ||| xpcs2Or) = xp.xpcs2 := congrArg Xp.xpcs2 h

theorem Synced.cs3 : (xp.xpcs3 &&& ~~~xpcs1Ie) ||| (xp.xpcs1 &&& xpcs1Ie) = xp.xpcs3 := by
  have hie : ∀ x u : Word, ((x &&& ~~~xpcs1Uae) ||| ((u &&& 3) <<< 8)) &&& xpcs1Ie = x &&& xpcs1Ie := by
    intro x u
    apply BitVec.eq_of_getLsbD_eq
    intro i hi
    simp only [BitVec.getLsbD_and, BitVec.getLsbD_or, BitVec.getLsbD_not, BitVec.getLsbD_shiftLeft]
    interval_cases i <;> simp
  have hcs3 : (xp.syncStatus.xpcs3 &&& ~~~xpcs1Ie) ||| (xp.syncStatus.xpcs1 &&& xpcs1Ie) = xp.syncStatus.xpcs3 := by
    rw [show xp.syncStatus.xpcs1 &&& xpcs1Ie = _ from hie _ _]
    exact merge_again _ _ _
  rw [h] at hcs3
  exact hcs3

/-- Reading a register changes nothing. -/
theorem Synced.read16 (addr : Word) : (xp.read16 addr).2 = xp := by
  unfold Xp.read16
  dsimp only
  rw [h]
  by_cases hbase : addr &&& 0o177776 = xpcs3Reg
  · rw [if_pos hbase]
    show ({ xp with xpcs3 := (xp.xpcs3 &&& ~~~xpcs1Ie) ||| (xp.xpcs1 &&& xpcs1Ie) } : Xp) = xp
    rw [h.cs3]
  · rw [if_neg hbase]

end Synced

/-! ## Changes that the status does not see -/

theorem syncStatus_modify (xp : Xp) (unit : BitVec 3) {f : XpDrive → XpDrive}
    (hupdate : ∀ a d, (f d).updateStatus a = f (d.updateStatus a)) (herr : ∀ d, (f d).hasError = d.hasError)
    (hds : ∀ d, (f d).xpds = d.xpds) : (xp.modify unit f).syncStatus = xp.syncStatus.modify unit f := by
  have hdrives : (xp.modify unit f).refreshed.drives = Function.update xp.refreshed.drives unit
      (f (xp.refreshed.drives unit)) := by
    funext u
    show (Function.update xp.drives unit (f (xp.drives unit)) u).updateStatus (xp.fp u).isSome = _
    by_cases hu : u = unit
    · rw [hu, Function.update_self, Function.update_self, hupdate]
      rfl
    · rw [Function.update_of_ne hu, Function.update_of_ne hu]
      rfl
  have hdrive : ((xp.modify unit f).refreshed.drive).hasError = xp.refreshed.drive.hasError ∧
      ((xp.modify unit f).refreshed.drive).xpds = xp.refreshed.drive.xpds := by
    unfold drive
    rw [hdrives, show (xp.modify unit f).refreshed.selectedUnit = xp.refreshed.selectedUnit from rfl]
    by_cases hu : xp.refreshed.selectedUnit = unit
    · rw [hu, Function.update_self]
      exact ⟨herr _, hds _⟩
    · rw [Function.update_of_ne hu]
      exact ⟨rfl, rfl⟩
  have hstatus : (xp.modify unit f).refreshed.cs1Status = xp.refreshed.cs1Status := by
    unfold cs1Status
    dsimp only
    rw [hdrive.1, hdrive.2]
    rfl
  rw [syncStatus_eq, syncStatus_eq, hstatus]
  show ({ xp.refreshed with
    xpcs1 := _, xpcs3 := _, drives := (xp.modify unit f).refreshed.drives } : Xp) = _
  rw [hdrives]
  rfl

theorem Synced.modify {xp : Xp} (h : xp.Synced) (unit : BitVec 3) {f : XpDrive → XpDrive}
    (hupdate : ∀ a d, (f d).updateStatus a = f (d.updateStatus a)) (herr : ∀ d, (f d).hasError = d.hasError)
    (hds : ∀ d, (f d).xpds = d.xpds) : (xp.modify unit f).Synced := by
  unfold Synced
  rw [syncStatus_modify xp unit hupdate herr hds, h]

end Xp

end K1801.Lsi11
