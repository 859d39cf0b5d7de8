import K1801.Mk90.Rtc
import Mathlib.Logic.Function.Iterate
import Mathlib.Tactic.IntervalCases

/-! # BCD and binary time on the MK-90

The BCD cascade compares with octal limits, and so follows the binary one only between the first rollovers.
-/

namespace K1801.Mk90

open Core

/-! ## Two decimal digits in a byte -/

/-- The BCD byte of a number below 100. -/
def bcdOf (v : Byte) : Byte := BitVec.ofNat 8 (v.toNat / 10 * 16 + v.toNat % 10)

/-- The number of a BCD byte. -/
def bcdValue (v : Byte) : Byte := BitVec.ofNat 8 (v.toNat / 16 * 10 + v.toNat % 16)

/-- Both digits are decimal. -/
def IsBcd (v : Byte) : Prop := v.toNat / 16 ≤ 9 ∧ v.toNat % 16 ≤ 9

instance (v : Byte) : Decidable (IsBcd v) := inferInstanceAs (Decidable (_ ∧ _))

theorem toNat_bcdOf {v : Byte} (h : v.toNat < 160) : (bcdOf v).toNat = v.toNat / 10 * 16 + v.toNat % 10 := by
  rw [bcdOf, BitVec.toNat_ofNat, Nat.mod_eq_of_lt (by omega)]

theorem toNat_bcdValue (v : Byte) : (bcdValue v).toNat = v.toNat / 16 * 10 + v.toNat % 16 := by
  have hv := v.isLt
  rw [bcdValue, BitVec.toNat_ofNat, Nat.mod_eq_of_lt (by omega)]

theorem bcdOf_bcdValue (v : Byte) (h : IsBcd v) : bcdOf (bcdValue v) = v := by
  obtain ⟨htens, hones⟩ := h
  have hvalue := toNat_bcdValue v
  apply BitVec.eq_of_toNat_eq
  rw [toNat_bcdOf (by omega), hvalue]
  omega

theorem bcdValue_bcdOf (v : Byte) (h : v.toNat < 160) : bcdValue (bcdOf v) = v := by
  apply BitVec.eq_of_toNat_eq
  rw [toNat_bcdValue, toNat_bcdOf h]
  omega

theorem isBcd_bcdOf (v : Byte) (h : v.toNat < 100) : IsBcd (bcdOf v) := by
  rw [IsBcd, toNat_bcdOf (by omega)]
  omega

theorem toNat_inc {v : Byte} (h : v.toNat < 255) : (v + 1).toNat = v.toNat + 1 := by
  rw [BitVec.toNat_add, show (1 : Byte).toNat = 1 from rfl, Nat.mod_eq_of_lt (by omega)]

/-- The BCD increment counts in decimal. -/
theorem rtcBcdInc_bcdOf : ∀ v : Byte, v.toNat < 99 → rtcBcdInc (bcdOf v) = bcdOf (v + 1) := by
  decide +kernel

theorem toNat_rtcBcdInc {v : Byte} (h : v.toNat < 99) :
    (rtcBcdInc (bcdOf v)).toNat = (v.toNat + 1) / 10 * 16 + (v.toNat + 1) % 10 := by
  rw [rtcBcdInc_bcdOf v h, toNat_bcdOf (by rw [toNat_inc (by omega)]; omega), toNat_inc (by omega)]

/-- A BCD field of a minute or an hour rolls over at 30. -/
theorem rtcBcdInc_sixty (v : Byte) (h : v.toNat < 60) : rtcBcdInc (bcdOf v) < 0o60 ↔ v.toNat < 29 := by
  rw [BitVec.lt_def, toNat_rtcBcdInc (by omega), show (0o60 : Byte).toNat = 48 from rfl]
  omega

/-- A BCD hour rolls over at 14. -/
theorem rtcBcdInc_midnight (v : Byte) (h : v.toNat < 24) : rtcBcdInc (bcdOf v) < 0o24 ↔ v.toNat < 13 := by
  rw [BitVec.lt_def, toNat_rtcBcdInc (by omega), show (0o24 : Byte).toNat = 20 from rfl]
  omega

theorem rtcBcdInc_week (v : Byte) (h : 1 ≤ v.toNat ∧ v.toNat ≤ 7) :
    (if 7 < rtcBcdInc (bcdOf v) then (1 : Byte) else rtcBcdInc (bcdOf v)) =
      bcdOf (if 7 < v + 1 then 1 else v + 1) := by
  have hinc := toNat_inc (v := v) (by omega)
  have hsame : 7 < rtcBcdInc (bcdOf v) ↔ 7 < v + 1 := by
    rw [BitVec.lt_def, BitVec.lt_def, toNat_rtcBcdInc (by omega), hinc, show (7 : Byte).toNat = 7 from rfl]
    omega
  rw [rtcBcdInc_bcdOf v (by omega)] at hsame ⊢
  by_cases hlate : 7 < v + 1
  · rw [if_pos (hsame.mpr hlate), if_pos hlate]
    rfl
  · rw [if_neg (mt hsame.mp hlate), if_neg hlate]

/-- A BCD day rolls over at 20, in every month. -/
theorem rtcBcdInc_day (m v : Byte) (h : v.toNat ≤ 31) :
    (rtcBcdInc (bcdOf v)).toNat ≤ rtcDays (bcdOf m) ↔ v.toNat < 19 := by
  have hdays : 28 ≤ rtcDays (bcdOf m) ∧ rtcDays (bcdOf m) ≤ 31 := by
    unfold rtcDays
    split <;> omega
  rw [toNat_rtcBcdInc (by omega)]
  omega

/-- A BCD month rolls over at 10. -/
theorem rtcBcdInc_month (v : Byte) (h : v.toNat ≤ 12) : rtcBcdInc (bcdOf v) ≤ 0o12 ↔ v.toNat < 9 := by
  rw [BitVec.le_def, toNat_rtcBcdInc (by omega), show (0o12 : Byte).toNat = 10 from rfl]
  omega

/-- A BCD year rolls over at 64. -/
theorem rtcBcdInc_year (v : Byte) (h : v.toNat < 100) : rtcBcdInc (bcdOf v) ≤ 0o143 ↔ v.toNat < 63 := by
  rw [BitVec.le_def, show (0o143 : Byte).toNat = 99 from rfl]
  by_cases hlast : v.toNat = 99
  · have hv : v = 99 := BitVec.eq_of_toNat_eq hlast
    rw [hv]
    decide
  · rw [toNat_rtcBcdInc (by omega)]
    omega

theorem binaryInc_sixty (v : Byte) (h : v.toNat < 60) : v + 1 < 60 ↔ v.toNat < 59 := by
  rw [BitVec.lt_def, toNat_inc (by omega), show (60 : Byte).toNat = 60 from rfl]
  omega

theorem binaryInc_midnight (v : Byte) (h : v.toNat < 24) : v + 1 < 24 ↔ v.toNat < 23 := by
  rw [BitVec.lt_def, toNat_inc (by omega), show (24 : Byte).toNat = 24 from rfl]
  omega

theorem binaryInc_month (v : Byte) (h : v.toNat ≤ 12) : v + 1 ≤ 12 ↔ v.toNat < 12 := by
  rw [BitVec.le_def, toNat_inc (by omega), show (12 : Byte).toNat = 12 from rfl]
  omega

theorem binaryInc_year (v : Byte) (h : v.toNat < 100) : v + 1 ≤ 99 ↔ v.toNat < 99 := by
  rw [BitVec.le_def, toNat_inc (by omega), show (99 : Byte).toNat = 99 from rfl]
  omega

theorem inc_ne_zero {v : Byte} (h : v.toNat < 255) : v + 1 ≠ 0 := by
  intro h0
  have hv := congrArg BitVec.toNat h0
  rw [toNat_inc h] at hv
  cases hv

theorem inc_ne_one {v : Byte} (h : 0 < v.toNat) (h' : v.toNat < 255) : v + 1 ≠ 1 := by
  intro h0
  have hv := congrArg BitVec.toNat h0
  rw [toNat_inc h', show (1 : Byte).toNat = 1 from rfl] at hv
  omega

namespace RtcClock

/-! ## Valid time -/

/-- A time and a date in numbers. -/
structure Valid (c : RtcClock) : Prop where
  seconds : c.seconds.toNat < 60
  minutes : c.minutes.toNat < 60
  hours : c.hours.toNat < 24
  weekday : 1 ≤ c.weekday.toNat ∧ c.weekday.toNat ≤ 7
  month : 1 ≤ c.month.toNat ∧ c.month.toNat ≤ 12
  day : 1 ≤ c.day.toNat ∧ c.day.toNat ≤ rtcDays c.month
  year : c.year.toNat < 100

instance (c : RtcClock) : Decidable c.Valid :=
  decidable_of_iff (c.seconds.toNat < 60 ∧ c.minutes.toNat < 60 ∧ c.hours.toNat < 24 ∧
    (1 ≤ c.weekday.toNat ∧ c.weekday.toNat ≤ 7) ∧ (1 ≤ c.month.toNat ∧ c.month.toNat ≤ 12) ∧
    (1 ≤ c.day.toNat ∧ c.day.toNat ≤ rtcDays c.month) ∧ c.year.toNat < 100)
    ⟨fun ⟨hs, hm, hh, hw, hmo, hd, hy⟩ => ⟨hs, hm, hh, hw, hmo, hd, hy⟩,
      fun ⟨hs, hm, hh, hw, hmo, hd, hy⟩ => ⟨hs, hm, hh, hw, hmo, hd, hy⟩⟩

/-- Every register changed alike. -/
def map (f : Byte → Byte) (c : RtcClock) : RtcClock :=
  { seconds := f c.seconds, minutes := f c.minutes, hours := f c.hours, weekday := f c.weekday, day := f c.day,
    month := f c.month, year := f c.year }

/-- The numbers of a BCD clock. -/
def decoded (c : RtcClock) : RtcClock := c.map bcdValue

/-- The BCD clock of the numbers. -/
def encoded (c : RtcClock) : RtcClock := c.map bcdOf

/-- A property of every register. -/
def All (P : Byte → Prop) (c : RtcClock) : Prop :=
  P c.seconds ∧ P c.minutes ∧ P c.hours ∧ P c.weekday ∧ P c.day ∧ P c.month ∧ P c.year

/-- A valid time and date in BCD. -/
def ValidBcd (c : RtcClock) : Prop := c.All IsBcd ∧ c.decoded.Valid

instance (c : RtcClock) : Decidable c.ValidBcd :=
  inferInstanceAs (Decidable ((_ ∧ _ ∧ _ ∧ _ ∧ _ ∧ _ ∧ _) ∧ c.decoded.Valid))

theorem rtcDays_le (month : Byte) : rtcDays month ≤ 31 := by
  unfold rtcDays
  split <;> omega

theorem All.imp {P Q : Byte → Prop} {c : RtcClock} (h : c.All P) (hpq : ∀ v, P v → Q v) : c.All Q := by
  obtain ⟨hs, hm, hh, hw, hd, hmo, hy⟩ := h
  exact ⟨hpq _ hs, hpq _ hm, hpq _ hh, hpq _ hw, hpq _ hd, hpq _ hmo, hpq _ hy⟩

theorem encoded_decoded {c : RtcClock} (h : c.All IsBcd) : c.decoded.encoded = c := by
  obtain ⟨hs, hm, hh, hw, hd, hmo, hy⟩ := h
  simp only [encoded, decoded, map, bcdOf_bcdValue _ hs, bcdOf_bcdValue _ hm, bcdOf_bcdValue _ hh,
    bcdOf_bcdValue _ hw, bcdOf_bcdValue _ hd, bcdOf_bcdValue _ hmo, bcdOf_bcdValue _ hy]

theorem Valid.below {c : RtcClock} (h : c.Valid) : c.All (fun v => v.toNat < 100) := by
  have hdays := rtcDays_le c.month
  obtain ⟨hs, hm, hh, hw, hmo, hd, hy⟩ := h
  exact ⟨by omega, by omega, by omega, by omega, by omega, by omega, hy⟩

theorem decoded_encoded {c : RtcClock} (h : c.All (fun v => v.toNat < 160)) : c.encoded.decoded = c := by
  obtain ⟨hs, hm, hh, hw, hd, hmo, hy⟩ := h
  simp only [encoded, decoded, map, bcdValue_bcdOf _ hs, bcdValue_bcdOf _ hm, bcdValue_bcdOf _ hh,
    bcdValue_bcdOf _ hw, bcdValue_bcdOf _ hd, bcdValue_bcdOf _ hmo, bcdValue_bcdOf _ hy]

theorem Valid.decoded_encoded {c : RtcClock} (h : c.Valid) : c.encoded.decoded = c :=
  RtcClock.decoded_encoded (h.below.imp fun v hv => Nat.lt_trans hv (by decide))

theorem validBcd_encoded {c : RtcClock} (h : c.Valid) : c.encoded.ValidBcd := by
  obtain ⟨hs, hm, hh, hw, hd, hmo, hy⟩ := h.below
  refine ⟨⟨isBcd_bcdOf _ hs, isBcd_bcdOf _ hm, isBcd_bcdOf _ hh, isBcd_bcdOf _ hw, isBcd_bcdOf _ hd,
    isBcd_bcdOf _ hmo, isBcd_bcdOf _ hy⟩, ?_⟩
  rw [h.decoded_encoded]
  exact h

/-- A clock is the encoding of a valid one if it is valid BCD of that time. -/
theorem eq_encoded_iff {b c : RtcClock} (hb : b.Valid) : c = b.encoded ↔ c.ValidBcd ∧ c.decoded = b := by
  constructor
  · intro h
    subst h
    exact ⟨validBcd_encoded hb, hb.decoded_encoded⟩
  · intro h
    rw [← h.2, encoded_decoded h.1.1]

/-! ## The cascade -/

section
variable {mode : Mode} {c : RtcClock}

theorem tick_second (h : mode.inc c.seconds < mode.minute) :
    c.tick mode = { c with seconds := mode.inc c.seconds } := if_pos h

theorem tick_minute (hs : ¬ mode.inc c.seconds < mode.minute) (h : mode.inc c.minutes < mode.hour) :
    c.tick mode = { c with seconds := 0, minutes := mode.inc c.minutes } :=
  (if_neg hs).trans (if_pos h)

theorem tick_hour (hs : ¬ mode.inc c.seconds < mode.minute) (hm : ¬ mode.inc c.minutes < mode.hour)
    (h : mode.inc c.hours < mode.midnight) :
    c.tick mode = { c with seconds := 0, minutes := 0, hours := mode.inc c.hours } :=
  (if_neg hs).trans ((if_neg hm).trans (if_pos h))

/-- The weekday after midnight. -/
def nextWeekday (mode : Mode) (c : RtcClock) : Byte := if 7 < mode.inc c.weekday then 1 else mode.inc c.weekday

/-- The seconds, the minutes and the hours are full. -/
def LastSecond (mode : Mode) (c : RtcClock) : Prop :=
  ¬ mode.inc c.seconds < mode.minute ∧ ¬ mode.inc c.minutes < mode.hour ∧ ¬ mode.inc c.hours < mode.midnight

theorem tick_day (ht : c.LastSecond mode) (h : (mode.inc c.day).toNat ≤ rtcDays c.month) :
    c.tick mode =
      { c with seconds := 0, minutes := 0, hours := 0, weekday := c.nextWeekday mode, day := mode.inc c.day } :=
  (if_neg ht.1).trans ((if_neg ht.2.1).trans ((if_neg ht.2.2).trans (if_pos h)))

theorem tick_month (ht : c.LastSecond mode) (hd : ¬ (mode.inc c.day).toNat ≤ rtcDays c.month)
    (h : mode.inc c.month ≤ mode.lastMonth) :
    c.tick mode =
      { c with
        seconds := 0, minutes := 0, hours := 0, weekday := c.nextWeekday mode, day := 1, month := mode.inc c.month } :=
  (if_neg ht.1).trans ((if_neg ht.2.1).trans ((if_neg ht.2.2).trans ((if_neg hd).trans (if_pos h))))

theorem tick_year (ht : c.LastSecond mode) (hd : ¬ (mode.inc c.day).toNat ≤ rtcDays c.month)
    (hm : ¬ mode.inc c.month ≤ mode.lastMonth) (h : mode.inc c.year ≤ mode.lastYear) :
    c.tick mode =
      { c with
        seconds := 0, minutes := 0, hours := 0, weekday := c.nextWeekday mode, day := 1, month := 1,
        year := mode.inc c.year } :=
  (if_neg ht.1).trans ((if_neg ht.2.1).trans
    ((if_neg ht.2.2).trans ((if_neg hd).trans ((if_neg hm).trans (if_pos h)))))

theorem tick_century (ht : c.LastSecond mode) (hd : ¬ (mode.inc c.day).toNat ≤ rtcDays c.month)
    (hm : ¬ mode.inc c.month ≤ mode.lastMonth) (h : ¬ mode.inc c.year ≤ mode.lastYear) :
    c.tick mode =
      { c with
        seconds := 0, minutes := 0, hours := 0, weekday := c.nextWeekday mode, day := 1, month := 1, year := 0 } :=
  (if_neg ht.1).trans ((if_neg ht.2.1).trans
    ((if_neg ht.2.2).trans ((if_neg hd).trans ((if_neg hm).trans (if_neg h)))))

end

/-! ## How far a second carries -/

/-- The field in which the carry of a second ends. -/
inductive Carry where
  | second
  | minute
  | hour
  | day
  | month
  | year
  | century
  deriving Repr, DecidableEq

/-- The numbers after a carry as far as a field. -/
def carried (c : RtcClock) : Carry → RtcClock
  | .second => { c with seconds := c.seconds + 1 }
  | .minute => { c with seconds := 0, minutes := c.minutes + 1 }
  | .hour => { c with seconds := 0, minutes := 0, hours := c.hours + 1 }
  | .day => { c with seconds := 0, minutes := 0, hours := 0, weekday := c.nextWeekday binary, day := c.day + 1 }
  | .month =>
    { c with
      seconds := 0, minutes := 0, hours := 0, weekday := c.nextWeekday binary, day := 1, month := c.month + 1 }
  | .year =>
    { c with
      seconds := 0, minutes := 0, hours := 0, weekday := c.nextWeekday binary, day := 1, month := 1,
      year := c.year + 1 }
  | .century =>
    { c with
      seconds := 0, minutes := 0, hours := 0, weekday := c.nextWeekday binary, day := 1, month := 1, year := 0 }

/-- The carry of a cascade that counts each field up to a last value. -/
def carryAt (second minute hour day month year : Nat) (c : RtcClock) : Carry :=
  if c.seconds.toNat < second then .second
  else if c.minutes.toNat < minute then .minute
  else if c.hours.toNat < hour then .hour
  else if c.day.toNat < day then .day
  else if c.month.toNat < month then .month
  else if c.year.toNat < year then .year
  else .century

/-- The carry of the calendar. -/
def carry (c : RtcClock) : Carry := c.carryAt 59 59 23 (rtcDays c.month) 12 99

/-- The carry of the octal limits. -/
def octalCarry (c : RtcClock) : Carry := c.carryAt 29 29 13 19 9 63

/-- Different carries give different times. -/
theorem carried_injective {c : RtcClock} (h : c.Valid) {k l : Carry} (he : c.carried k = c.carried l) :
    k = l := by
  have hdays := rtcDays_le c.month
  have hday := h.day
  have hmonth := h.month
  have hs : c.seconds + 1 ≠ 0 := inc_ne_zero (by have := h.seconds; omega)
  have hm : c.minutes + 1 ≠ 0 := inc_ne_zero (by have := h.minutes; omega)
  have hh : c.hours + 1 ≠ 0 := inc_ne_zero (by have := h.hours; omega)
  have hd : c.day + 1 ≠ 1 := inc_ne_one (by omega) (by omega)
  have hmo : c.month + 1 ≠ 1 := inc_ne_one (by omega) (by omega)
  have hy : c.year + 1 ≠ 0 := inc_ne_zero (by have := h.year; omega)
  have es := congrArg seconds he
  have em := congrArg minutes he
  have eh := congrArg hours he
  have ed := congrArg day he
  have emo := congrArg month he
  have ey := congrArg year he
  cases k <;> cases l
  all_goals first
    | rfl
    | exact absurd es hs
    | exact absurd es.symm hs
    | exact absurd em hm
    | exact absurd em.symm hm
    | exact absurd eh hh
    | exact absurd eh.symm hh
    | exact absurd ed hd
    | exact absurd ed.symm hd
    | exact absurd emo hmo
    | exact absurd emo.symm hmo
    | exact absurd ey hy
    | exact absurd ey.symm hy

theorem nextWeekday_valid (v : Byte) (h : 1 ≤ v.toNat ∧ v.toNat ≤ 7) :
    1 ≤ (if 7 < v + 1 then (1 : Byte) else v + 1).toNat ∧ (if 7 < v + 1 then (1 : Byte) else v + 1).toNat ≤ 7 := by
  have hinc := toNat_inc (v := v) (by omega)
  split
  · decide
  · rename_i hlate
    rw [BitVec.lt_def, hinc, show (7 : Byte).toNat = 7 from rfl] at hlate
    omega

theorem carried_below {c : RtcClock} (h : c.Valid) (k : Carry) : (c.carried k).All (fun v => v.toNat < 160) := by
  obtain ⟨hs, hm, hh, hw, hd, hmo, hy⟩ := h.below.imp fun v hv => Nat.lt_trans hv (show 100 < 160 by decide)
  have hnext (v : Byte) (hv : v.toNat < 100) : (v + 1).toNat < 160 := by
    rw [toNat_inc (by omega)]
    omega
  have h0 : (0 : Byte).toNat < 160 := by decide
  have h1 : (1 : Byte).toNat < 160 := by decide
  have hweek : (c.nextWeekday binary).toNat < 160 := by
    have := (nextWeekday_valid _ h.weekday).2
    exact Nat.lt_of_le_of_lt this (by decide)
  have hb := h.below
  cases k with
  | second => exact ⟨hnext _ hb.1, hm, hh, hw, hd, hmo, hy⟩
  | minute => exact ⟨h0, hnext _ hb.2.1, hh, hw, hd, hmo, hy⟩
  | hour => exact ⟨h0, h0, hnext _ hb.2.2.1, hw, hd, hmo, hy⟩
  | day => exact ⟨h0, h0, h0, hweek, hnext _ hb.2.2.2.2.1, hmo, hy⟩
  | month => exact ⟨h0, h0, h0, hweek, h1, hnext _ hb.2.2.2.2.2.1, hy⟩
  | year => exact ⟨h0, h0, h0, hweek, h1, h1, hnext _ hb.2.2.2.2.2.2⟩
  | century => exact ⟨h0, h0, h0, hweek, h1, h1, h0⟩

/-- A cascade on encoded fields carries as its limits say. -/
theorem tick_map {mode : Mode} {e : Byte → Byte} {c : RtcClock} {second minute hour day month year : Nat}
    (hzero : e 0 = 0) (hone : e 1 = 1) (hinc : ∀ v : Byte, v.toNat < 99 → mode.inc (e v) = e (v + 1))
    (hs : mode.inc (e c.seconds) < mode.minute ↔ c.seconds.toNat < second)
    (hm : mode.inc (e c.minutes) < mode.hour ↔ c.minutes.toNat < minute)
    (hh : mode.inc (e c.hours) < mode.midnight ↔ c.hours.toNat < hour)
    (hw : (c.map e).nextWeekday mode = e (c.nextWeekday binary))
    (hd : (mode.inc (e c.day)).toNat ≤ rtcDays (e c.month) ↔ c.day.toNat < day)
    (hmo : mode.inc (e c.month) ≤ mode.lastMonth ↔ c.month.toNat < month)
    (hy : mode.inc (e c.year) ≤ mode.lastYear ↔ c.year.toNat < year)
    (hv : c.Valid) (hyear : year ≤ 99) :
    (c.map e).tick mode = (c.carried (c.carryAt second minute hour day month year)).map e := by
  have hdays := rtcDays_le c.month
  obtain ⟨vs, vm, vh, vw, vmo, vd, vy⟩ := hv
  unfold carryAt
  by_cases h1 : c.seconds.toNat < second
  · rw [if_pos h1, tick_second (hs.mpr h1)]
    simp only [map, carried, hinc _ (show c.seconds.toNat < 99 by omega)]
  rw [if_neg h1]
  have n1 := mt hs.mp h1
  by_cases h2 : c.minutes.toNat < minute
  · rw [if_pos h2, tick_minute n1 (hm.mpr h2)]
    simp only [map, carried, hzero, hinc _ (show c.minutes.toNat < 99 by omega)]
  rw [if_neg h2]
  have n2 := mt hm.mp h2
  by_cases h3 : c.hours.toNat < hour
  · rw [if_pos h3, tick_hour n1 n2 (hh.mpr h3)]
    simp only [map, carried, hzero, hinc _ (show c.hours.toNat < 99 by omega)]
  rw [if_neg h3]
  have ht : (c.map e).LastSecond mode := ⟨n1, n2, mt hh.mp h3⟩
  by_cases h4 : c.day.toNat < day
  · rw [if_pos h4, tick_day ht (hd.mpr h4), hw]
    simp only [map, carried, hzero, hinc _ (show c.day.toNat < 99 by omega)]
  rw [if_neg h4]
  have n4 := mt hd.mp h4
  by_cases h5 : c.month.toNat < month
  · rw [if_pos h5, tick_month ht n4 (hmo.mpr h5), hw]
    simp only [map, carried, hzero, hone, hinc _ (show c.month.toNat < 99 by omega)]
  rw [if_neg h5]
  have n5 := mt hmo.mp h5
  by_cases h6 : c.year.toNat < year
  · rw [if_pos h6, tick_year ht n4 n5 (hy.mpr h6), hw]
    simp only [map, carried, hzero, hone, hinc _ (show c.year.toNat < 99 by omega)]
  · rw [if_neg h6, tick_century ht n4 n5 (mt hy.mp h6), hw]
    simp only [map, carried, hzero, hone]

/-- Binary time carries as the calendar does. -/
theorem tick_binary {c : RtcClock} (h : c.Valid) : c.tick binary = c.carried c.carry := by
  have hdays := rtcDays_le c.month
  have hd : (c.day + 1).toNat ≤ rtcDays c.month ↔ c.day.toNat < rtcDays c.month := by
    rw [toNat_inc (by have := h.day; omega)]
    exact Nat.lt_iff_add_one_le.symm
  exact @tick_map binary id c _ _ _ _ _ _ rfl rfl (fun _ _ => rfl) (binaryInc_sixty _ h.seconds)
    (binaryInc_sixty _ h.minutes) (binaryInc_midnight _ h.hours) rfl hd (binaryInc_month _ h.month.2)
    (binaryInc_year _ h.year) h (Nat.le_refl 99)

/-- BCD time carries as the octal limits do. -/
theorem tick_bcd {c : RtcClock} (h : c.Valid) : c.encoded.tick bcd = (c.carried c.octalCarry).encoded := by
  have hdays := rtcDays_le c.month
  exact @tick_map bcd bcdOf c _ _ _ _ _ _ rfl rfl rtcBcdInc_bcdOf (rtcBcdInc_sixty _ h.seconds)
    (rtcBcdInc_sixty _ h.minutes) (rtcBcdInc_midnight _ h.hours) (rtcBcdInc_week _ h.weekday)
    (rtcBcdInc_day _ _ (by have := h.day; omega)) (rtcBcdInc_month _ h.month.2) (rtcBcdInc_year _ h.year) h
    (by decide)

theorem le_rtcDays (month : Byte) : 28 ≤ rtcDays month := by
  unfold rtcDays
  split <;> omega

/-- The next second of a valid time is valid. -/
theorem Valid.carried {c : RtcClock} (h : c.Valid) : (c.carried c.carry).Valid := by
  have hdays := rtcDays_le c.month
  have hw := nextWeekday_valid _ h.weekday
  obtain ⟨vs, vm, vh, vw, vmo, vd, vy⟩ := h
  have hsi := @toNat_inc c.seconds (by omega)
  have hmi := @toNat_inc c.minutes (by omega)
  have hhi := @toNat_inc c.hours (by omega)
  have hdi := @toNat_inc c.day (by omega)
  have hmoi := @toNat_inc c.month (by omega)
  have hyi := @toNat_inc c.year (by omega)
  have z60 : (0 : Byte).toNat < 60 := by decide
  have z24 : (0 : Byte).toNat < 24 := by decide
  have hjan : 1 ≤ (1 : Byte).toNat ∧ (1 : Byte).toNat ≤ 12 := by decide
  have hfirst (month : Byte) : 1 ≤ (1 : Byte).toNat ∧ (1 : Byte).toNat ≤ rtcDays month := by
    have := le_rtcDays month
    exact ⟨Nat.le_refl 1, by show 1 ≤ _; omega⟩
  unfold carry carryAt
  split
  · exact ⟨by show (c.seconds + 1).toNat < 60; omega, vm, vh, vw, vmo, vd, vy⟩
  split
  · exact ⟨z60, by show (c.minutes + 1).toNat < 60; omega, vh, vw, vmo, vd, vy⟩
  split
  · exact ⟨z60, z60, by show (c.hours + 1).toNat < 24; omega, vw, vmo, vd, vy⟩
  split
  · have hd : 1 ≤ (c.day + 1).toNat ∧ (c.day + 1).toNat ≤ rtcDays c.month := by omega
    exact ⟨z60, z60, z24, hw, vmo, hd, vy⟩
  split
  · have hm : 1 ≤ (c.month + 1).toNat ∧ (c.month + 1).toNat ≤ 12 := by omega
    exact ⟨z60, z60, z24, hw, hm, hfirst _, vy⟩
  split
  · exact ⟨z60, z60, z24, hw, hjan, hfirst _, by show (c.year + 1).toNat < 100; omega⟩
  · exact ⟨z60, z60, z24, hw, hjan, hfirst _, (by decide : (0 : Byte).toNat < 100)⟩

/-! ## The order of the calendar -/

/-- The days of a year before a month. -/
def monthStart : Nat → Nat
  | 1 => 0
  | 2 => 31
  | 3 => 59
  | 4 => 90
  | 5 => 120
  | 6 => 151
  | 7 => 181
  | 8 => 212
  | 9 => 243
  | 10 => 273
  | 11 => 304
  | 12 => 334
  | _ => 365

/-- The seconds of a hundred years. -/
def century : Nat := 100 * 365 * 24 * 60 * 60

/-- The seconds since the start of the century. -/
def ordinal (c : RtcClock) : Nat :=
  (((c.year.toNat * 365 + monthStart c.month.toNat + (c.day.toNat - 1)) * 24 + c.hours.toNat) * 60 +
    c.minutes.toNat) * 60 + c.seconds.toNat

theorem monthStart_succ : ∀ m : Byte, 1 ≤ m.toNat ∧ m.toNat ≤ 12 →
    monthStart (m.toNat + 1) = monthStart m.toNat + rtcDays m ∧
      (m.toNat < 12 → monthStart m.toNat + rtcDays m ≤ 334) ∧
      (m.toNat = 12 → monthStart m.toNat = 334 ∧ rtcDays m = 31) := by
  decide +kernel

/-- A second moves a valid time on by one. -/
theorem ordinal_carried {c : RtcClock} (h : c.Valid) :
    (c.carried c.carry).ordinal = (c.ordinal + 1) % century := by
  have hdays := rtcDays_le c.month
  obtain ⟨hstart, hnovember, hdecember⟩ := monthStart_succ _ h.month
  obtain ⟨vs, vm, vh, vw, vmo, vd, vy⟩ := h
  have hsi := @toNat_inc c.seconds (by omega)
  have hmi := @toNat_inc c.minutes (by omega)
  have hhi := @toNat_inc c.hours (by omega)
  have hdi := @toNat_inc c.day (by omega)
  have hmoi := @toNat_inc c.month (by omega)
  have hyi := @toNat_inc c.year (by omega)
  have h0 : (0 : Byte).toNat = 0 := rfl
  have h1 : (1 : Byte).toNat = 1 := rfl
  have hfirst : monthStart 1 = 0 := rfl
  unfold carry carryAt century
  split
  · simp only [RtcClock.carried, ordinal, hsi]
    omega
  split
  · simp only [RtcClock.carried, ordinal, hmi, h0]
    omega
  split
  · simp only [RtcClock.carried, ordinal, hhi, h0]
    omega
  split
  · simp only [RtcClock.carried, ordinal, hdi, h0]
    omega
  split
  · simp only [RtcClock.carried, ordinal, hmoi, h0, h1, hstart]
    omega
  split
  · simp only [RtcClock.carried, ordinal, hyi, h0, h1, hfirst]
    omega
  · simp only [RtcClock.carried, ordinal, h0, h1, hfirst]
    omega

/-- A valid time is in the century. -/
theorem Valid.ordinal_lt {c : RtcClock} (h : c.Valid) : c.ordinal < century := by
  obtain ⟨hstart, hnovember, hdecember⟩ := monthStart_succ _ h.month
  obtain ⟨vs, vm, vh, vw, vmo, vd, vy⟩ := h
  unfold ordinal century
  omega

/-! ## Where the limits agree -/

/-- The octal limits carry the last second of a minute as the calendar does. -/
def CarriesAlike (c : RtcClock) : Prop :=
  c.minutes.toNat ≤ 28 ∨ c.minutes.toNat = 59 ∧ (c.hours.toNat ≤ 12 ∨ c.hours.toNat = 23 ∧
    (c.day.toNat ≤ 18 ∨ c.day.toNat = rtcDays c.month ∧
      (c.month.toNat ≤ 8 ∨ c.month.toNat = 12 ∧ (c.year.toNat ≤ 62 ∨ c.year.toNat = 99))))

instance (c : RtcClock) : Decidable c.CarriesAlike :=
  inferInstanceAs (Decidable (_ ∨ _ ∧ (_ ∨ _ ∧ (_ ∨ _ ∧ (_ ∨ _ ∧ (_ ∨ _))))))

theorem octalCarry_iff {c : RtcClock} (h : c.Valid) :
    c.octalCarry = c.carry ↔ c.seconds.toNat ≤ 28 ∨ c.seconds.toNat = 59 ∧ c.CarriesAlike := by
  have hdays := le_rtcDays c.month
  obtain ⟨vs, vm, vh, vw, vmo, vd, vy⟩ := h
  unfold octalCarry carry carryAt CarriesAlike
  repeat' split
  all_goals simp only [reduceCtorEq, true_iff, false_iff]
  all_goals omega

theorem Valid.next {c : RtcClock} (h : c.Valid) : (c.tick binary).Valid := by
  rw [tick_binary h]
  exact h.carried

/-! ## Runs -/

theorem Valid.ticks {c : RtcClock} (h : c.Valid) (n : Nat) : ((tick binary)^[n] c).Valid := by
  induction n with
  | zero => exact h
  | succ n ih =>
    rw [Function.iterate_succ_apply']
    exact ih.next

/-- Binary time goes through the calendar in order. -/
theorem ordinal_ticks {c : RtcClock} (h : c.Valid) (n : Nat) :
    ((tick binary)^[n] c).ordinal = (c.ordinal + n) % century := by
  induction n with
  | zero => exact (Nat.mod_eq_of_lt h.ordinal_lt).symm
  | succ n ih =>
    rw [Function.iterate_succ_apply', tick_binary (h.ticks n), ordinal_carried (h.ticks n), ih, Nat.mod_add_mod]
    rfl

/-- One second agrees when the carries do. -/
theorem tick_encoded_iff {c : RtcClock} (h : c.Valid) :
    c.encoded.tick bcd = (c.tick binary).encoded ↔ c.octalCarry = c.carry := by
  rw [tick_bcd h, tick_binary h]
  constructor
  · intro he
    have hback := congrArg decoded he
    rw [decoded_encoded (carried_below h _), decoded_encoded (carried_below h _)] at hback
    exact carried_injective h hback
  · intro he
    rw [he]

/-- The first second on which the carries differ ends the agreement. -/
theorem ticks_encoded_iff {c : RtcClock} (h : c.Valid) (n : Nat) :
    (∀ k ≤ n, (tick bcd)^[k] c.encoded = ((tick binary)^[k] c).encoded) ↔
      ∀ k < n, ((tick binary)^[k] c).octalCarry = ((tick binary)^[k] c).carry := by
  constructor
  · intro hall k hk
    have hnow := hall k (by omega)
    have hnext := hall (k + 1) hk
    rw [Function.iterate_succ_apply', Function.iterate_succ_apply', hnow] at hnext
    exact (tick_encoded_iff (h.ticks k)).mp hnext
  · intro hall k hk
    induction k with
    | zero => rfl
    | succ k ih =>
      rw [Function.iterate_succ_apply', Function.iterate_succ_apply', ih (by omega)]
      exact (tick_encoded_iff (h.ticks k)).mpr (hall k hk)

/-- The seconds count on within a minute. -/
theorem seconds_ticks {c : RtcClock} (h : c.Valid) {k : Nat} (hk : c.seconds.toNat + k ≤ 59) :
    ((tick binary)^[k] c).seconds.toNat = c.seconds.toNat + k := by
  induction k with
  | zero => rfl
  | succ k ih =>
    have hk' := ih (by omega)
    have hcarry : ((tick binary)^[k] c).carry = .second := if_pos (by omega)
    rw [Function.iterate_succ_apply', tick_binary (h.ticks k), hcarry]
    show (((tick binary)^[k] c).seconds + 1).toNat = _
    rw [toNat_inc (by omega), hk']
    rfl

/-- The last second of a minute is followed by second 0. -/
theorem seconds_carried {c : RtcClock} (h : c.seconds.toNat = 59) : (c.carried c.carry).seconds = 0 := by
  unfold carry carryAt
  rw [if_neg (by omega)]
  repeat' split
  all_goals rfl

/-- How long the carries agree. -/
theorem carries_agree_iff {c : RtcClock} (h : c.Valid) (n : Nat) :
    (∀ k < n, ((tick binary)^[k] c).octalCarry = ((tick binary)^[k] c).carry) ↔
      n = 0 ∨ c.seconds.toNat + n ≤ 29 ∨ c.seconds.toNat = 59 ∧ c.CarriesAlike ∧ n ≤ 30 := by
  have hat (k : Nat) := octalCarry_iff (h.ticks k)
  have hnext {k : Nat} (h59 : c.seconds.toNat = 59) (hk : k ≤ 59) :
      ((tick binary)^[k + 1] c).seconds.toNat = k := by
    have hzero : (c.tick binary).seconds = 0 := by
      rw [tick_binary h]
      exact seconds_carried h59
    have hz : (c.tick binary).seconds.toNat = 0 := by rw [hzero]; rfl
    rw [Function.iterate_succ_apply, seconds_ticks h.next (by omega), hz, Nat.zero_add]
  constructor
  · intro hall
    rcases Nat.eq_zero_or_pos n with hn | hn
    · exact .inl hn
    rcases (hat 0).mp (hall 0 hn) with hlow | ⟨h59, halike⟩
    · refine .inr (.inl (Nat.le_of_not_lt fun hlong => ?_))
      have hsec : c.seconds.toNat ≤ 28 := hlow
      have h29 := seconds_ticks h (show c.seconds.toNat + (29 - c.seconds.toNat) ≤ 59 by omega)
      rcases (hat _).mp (hall (29 - c.seconds.toNat) (by omega)) with hl | hl <;> omega
    · refine .inr (.inr ⟨h59, halike, Nat.le_of_not_lt fun hlong => ?_⟩)
      have h29 : ((tick binary)^[30] c).seconds.toNat = 29 := hnext h59 (by omega)
      rcases (hat _).mp (hall 30 hlong) with hl | hl <;> omega
  · intro hcond k hk
    rcases hcond with hn | hlow | ⟨h59, halike, h30⟩
    · omega
    · exact (hat k).mpr (.inl (by rw [seconds_ticks h (by omega)]; omega))
    · cases k with
      | zero => exact (hat 0).mpr (.inr ⟨h59, halike⟩)
      | succ k => exact (hat (k + 1)).mpr (.inl (by rw [hnext h59 (by omega)]; omega))

end RtcClock

namespace Mk90Rtc

/-- Register B selects binary, and the time is in numbers. -/
def inBinary (rtc : Mk90Rtc) : Mk90Rtc := { rtc with regB := rtc.regB ||| 0o4, clock := rtc.clock.decoded }

/-- The clock after a number of updates. -/
def secondsLater (n : Nat) (rtc : Mk90Rtc) : Mk90Rtc := (repeated updateSecond n rtc).1

theorem flagIrq_clock (rtc : Mk90Rtc) : rtc.flagIrq.1.clock = rtc.clock ∧ rtc.flagIrq.1.regB = rtc.regB := by
  unfold flagIrq
  split <;> exact ⟨rfl, rfl⟩

/-- An update moves the time, and keeps register B. -/
theorem updateSecond_clock {rtc : Mk90Rtc} (h : rtc.held = false) :
    rtc.updateSecond.1.clock = rtc.clock.tick (if rtc.inBcd then RtcClock.bcd else RtcClock.binary) ∧
      rtc.updateSecond.1.regB = rtc.regB := by
  unfold updateSecond checkAlarm
  rw [h]
  exact flagIrq_clock _

/-- Updates move the time in the mode of register B. -/
theorem secondsLater_clock {rtc : Mk90Rtc} (h : rtc.held = false) (n : Nat) :
    (rtc.secondsLater n).clock =
      (RtcClock.tick (if rtc.inBcd then RtcClock.bcd else RtcClock.binary))^[n] rtc.clock := by
  induction n generalizing rtc with
  | zero => rfl
  | succ n ih =>
    obtain ⟨hclock, hb⟩ := updateSecond_clock h
    have hheld : rtc.updateSecond.1.held = false := by rw [held, hb]; exact h
    have hmode : rtc.updateSecond.1.inBcd = rtc.inBcd := by rw [inBcd, hb]; rfl
    have htail := ih hheld
    rw [hclock, hmode] at htail
    exact htail

theorem inBinary_held {rtc : Mk90Rtc} (h : rtc.held = false) : rtc.inBinary.held = false := by
  have hbit : ∀ b : Byte, decide (b &&& 0o200 ≠ 0) = false → decide ((b ||| 0o4) &&& 0o200 ≠ 0) = false := by
    decide +kernel
  exact hbit rtc.regB h

theorem inBinary_inBcd (rtc : Mk90Rtc) : rtc.inBinary.inBcd = false := by
  have hbit : ∀ b : Byte, decide ((b ||| 0o4) &&& 0o4 = 0) = false := by decide +kernel
  exact hbit rtc.regB

/-- The last second of a century, in BCD. -/
def lastOfCentury : Mk90Rtc :=
  { clock :=
      { seconds := 0x59, minutes := 0x59, hours := 0x23, weekday := 7, day := 0x31, month := 0x12, year := 0x99 } }

/-- 29 seconds after midnight, in BCD. -/
def halfMinute : Mk90Rtc :=
  { clock := { seconds := 0x29, minutes := 0, hours := 0, weekday := 1, day := 1, month := 1, year := 0 } }

theorem repeated_clock {step : Mk90Rtc → Mk90Rtc × List RtcSignal} (hstep : ∀ rtc, (step rtc).1.clock = rtc.clock)
    (n : Nat) (rtc : Mk90Rtc) : (repeated step n rtc).1.clock = rtc.clock := by
  induction n generalizing rtc with
  | zero => rfl
  | succ n ih => exact (ih (step rtc).1).trans (hstep rtc)

theorem periodicTick_clock (rtc : Mk90Rtc) : rtc.periodicTick.1.clock = rtc.clock := by
  unfold periodicTick
  dsimp only
  split <;> rfl

theorem flagIrq_accum (rtc : Mk90Rtc) (s p : Dword) :
    { rtc with secondAccumMs := s, periodicAccumMs := p }.flagIrq.1 =
      { rtc.flagIrq.1 with secondAccumMs := s, periodicAccumMs := p } := by
  unfold flagIrq
  dsimp only
  split <;> rfl

theorem checkAlarm_accum (rtc : Mk90Rtc) (s p : Dword) :
    { rtc with secondAccumMs := s, periodicAccumMs := p }.checkAlarm.1 =
      { rtc.checkAlarm.1 with secondAccumMs := s, periodicAccumMs := p } := by
  let flagged : Mk90Rtc := { rtc with
    regC := (if rtc.secondsAlarm = rtc.clock.seconds ∧ rtc.minutesAlarm = rtc.clock.minutes ∧
      rtc.hoursAlarm = rtc.clock.hours then rtc.regC ||| 0o40 else rtc.regC &&& ~~~(0o40 : Byte)) ||| 0o20 }
  exact flagIrq_accum flagged s p

/-- An update leaves the gathered milliseconds alone. -/
theorem updateSecond_accum (rtc : Mk90Rtc) (s p : Dword) :
    { rtc with secondAccumMs := s, periodicAccumMs := p }.updateSecond.1 =
      { rtc.updateSecond.1 with secondAccumMs := s, periodicAccumMs := p } := by
  unfold updateSecond
  by_cases h : rtc.held
  · rw [if_pos h]
    exact congrArg Prod.fst (if_pos h)
  · rw [if_neg h]
    let next : Mk90Rtc := { rtc with
      clock := rtc.clock.tick (if rtc.inBcd then RtcClock.bcd else RtcClock.binary) }
    exact (congrArg Prod.fst (if_neg h)).trans (checkAlarm_accum next s p)

theorem secondsLater_accum (n : Nat) (rtc : Mk90Rtc) (s p : Dword) :
    { rtc with secondAccumMs := s, periodicAccumMs := p }.secondsLater n =
      { rtc.secondsLater n with secondAccumMs := s, periodicAccumMs := p } := by
  induction n generalizing rtc with
  | zero => rfl
  | succ n ih =>
    show secondsLater n ({ rtc with secondAccumMs := s, periodicAccumMs := p }.updateSecond.1) = _
    rw [updateSecond_accum]
    exact ih _

/-- The time moves by the whole seconds that have gathered. -/
theorem tickMs_clock (elapsedMs : Dword) (rtc : Mk90Rtc) :
    (rtc.tickMs elapsedMs).1.clock = (rtc.secondsLater ((rtc.secondAccumMs + elapsedMs).toNat / 1000)).clock := by
  have hseconds := congrArg clock (secondsLater_accum ((rtc.secondAccumMs + elapsedMs).toNat / 1000) rtc
    (BitVec.ofNat 32 ((rtc.secondAccumMs + elapsedMs).toNat % 1000)) (rtc.periodicAccumMs + elapsedMs))
  refine Eq.trans ?_ hseconds
  unfold tickMs
  dsimp only
  split
  · rfl
  · exact repeated_clock periodicTick_clock _ _

end Mk90Rtc

end K1801.Mk90
