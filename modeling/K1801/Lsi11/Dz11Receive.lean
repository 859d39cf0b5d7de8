import K1801.Lsi11.Dz11
import Mathlib.Tactic.SplitIfs

/-! # What the DZ11 receives

The characters of a line are on their way in its connection, wait in the silo, or have been returned
through RBUF. A poll takes up to 64 of them from a line whenever the silo is not full, and drops those
that do not fit.
-/

namespace K1801.Lsi11

open Core Library

namespace Dz11

/-! ## Characters on their way -/

def lineOf (v : Word) : DzLine := (v >>> 8).setWidth 3

def charOf (v : Word) : Byte := v.setWidth 8

/-- The characters of a line that wait in the silo. -/
def waiting (dz : Dz11) (line : DzLine) : List Byte :=
  (dz.silo.items.filter fun v => lineOf v == line).map charOf

/-- The characters that the line has not received. -/
def unread (dz : Dz11) (line : DzLine) : List Byte := ((dz.lineFd line).map (·.unread)).getD []

def held (dz : Dz11) (line : DzLine) : List Byte := dz.waiting line ++ dz.unread line

/-- What receiving reads and writes; the registers and the transmit interrupt are the rest. -/
def rx (dz : Dz11) : BoundedQueue Word dzSiloAlm × (DzLine → Bool) × Bool × (DzLine → Option DzSocket) :=
  (dz.silo, dz.lineRcve, dz.eightBit, dz.lineFd)

section Frames

variable {dz dz' : Dz11}

theorem held_of_rx (h : dz'.rx = dz.rx) (line : DzLine) : dz'.held line = dz.held line := by
  have hsilo : dz'.silo = dz.silo := congrArg (fun x => x.1) h
  have hfd : dz'.lineFd = dz.lineFd := congrArg (fun x => x.2.2.2) h
  unfold held waiting unread
  rw [hsilo, hfd]

theorem rx_updateReceiveFlags (dz : Dz11) : dz.updateReceiveFlags.rx = dz.rx := by
  unfold updateReceiveFlags
  dsimp only
  split_ifs <;> rfl

theorem rx_updateTransmitFlags (dz : Dz11) : dz.updateTransmitFlags.rx = dz.rx := by
  unfold updateTransmitFlags
  cases dz.findNextTxLine dz.csrTline with
  | none =>
    dsimp only
    split_ifs <;> rfl
  | some next =>
    dsimp only
    split_ifs <;> rfl

theorem rx_refreshMsr (dz : Dz11) : dz.refreshMsr.rx = dz.rx := rfl

end Frames

/-! ## One batch -/

section Batch

variable {dz : Dz11} {line : DzLine}

/-- The word that RBUF returns names the line, the character and its own validity. -/
theorem rbufWord_fields (line : DzLine) (c : Byte) :
    lineOf (rbufWord line c) = line ∧ charOf (rbufWord line c) = c ∧ rbufWord line c &&& rbufValid ≠ 0 := by
  revert line c
  decide +kernel

/-- The words `ws` have gone into the silo, and nothing else of the receiver has changed. -/
structure Stores (dz : Dz11) (ws : List Word) (dz' : Dz11) : Prop where
  items : dz'.silo.items = dz.silo.items ++ ws
  lineRcve : dz'.lineRcve = dz.lineRcve
  eightBit : dz'.eightBit = dz.eightBit
  lineFd : dz'.lineFd = dz.lineFd

theorem Stores.trans {dz₁ dz₂ dz₃ : Dz11} {ws ws' : List Word} (h : Stores dz₁ ws dz₂)
    (h' : Stores dz₂ ws' dz₃) : Stores dz₁ (ws ++ ws') dz₃ where
  items := by rw [h'.items, h.items, List.append_assoc]
  lineRcve := h'.lineRcve.trans h.lineRcve
  eightBit := h'.eightBit.trans h.eightBit
  lineFd := h'.lineFd.trans h.lineFd

theorem Stores.maskChar {dz dz' : Dz11} {ws : List Word} (h : Stores dz ws dz') : dz'.maskChar = dz.maskChar := by
  funext v
  unfold Dz11.maskChar
  rw [h.eightBit]

theorem siloPush_stores (h : dz.silo.full = false) (v : Word) : Stores dz [v] (dz.siloPush v) := by
  have hrx : (dz.siloPush v).rx = (dz.silo.push v, dz.lineRcve, dz.eightBit, dz.lineFd) := by
    unfold siloPush
    rw [if_neg (by rw [h]; decide), rx_updateReceiveFlags]
    rfl
  have hsilo : (dz.siloPush v).silo = dz.silo.push v := congrArg (fun x => x.1) hrx
  refine ⟨?_, congrArg (fun x => x.2.1) hrx, congrArg (fun x => x.2.2.1) hrx, congrArg (fun x => x.2.2.2) hrx⟩
  rw [hsilo, BoundedQueue.items_push h]

/-- The silo takes what fits of a batch. -/
theorem storeBatch_stores (line : DzLine) (cs : List Byte) (dz : Dz11) :
    Stores dz ((cs.take dz.silo.room).map fun c => rbufWord line (dz.maskChar c)) (storeBatch line cs dz) := by
  induction cs generalizing dz with
  | nil => exact ⟨by simp [storeBatch], rfl, rfl, rfl⟩
  | cons c cs ih =>
    unfold storeBatch
    cases hfull : dz.silo.full with
    | true =>
      rw [if_pos rfl, BoundedQueue.room_of_full hfull]
      exact ⟨by simp, rfl, rfl, rfl⟩
    | false =>
      rw [if_neg (by decide)]
      have hpush := siloPush_stores hfull (rbufWord line (dz.maskChar c))
      have hroom : dz.silo.room = (dz.siloPush (rbufWord line (dz.maskChar c))).silo.room + 1 := by
        have hlt := BoundedQueue.length_lt hfull
        unfold BoundedQueue.room
        rw [BoundedQueue.length, BoundedQueue.length, hpush.items, List.length_append, List.length_singleton]
        omega
      have hrest := hpush.trans (ih (dz.siloPush (rbufWord line (dz.maskChar c))))
      rw [hpush.maskChar] at hrest
      rw [hroom, List.take_succ_cons, List.map_cons]
      exact hrest

theorem waiting_of_items {dz dz' : Dz11} {cs : List Byte}
    (h : dz'.silo.items = dz.silo.items ++ cs.map (rbufWord line)) (l : DzLine) :
    dz'.waiting l = dz.waiting l ++ if l = line then cs else [] := by
  unfold waiting
  rw [h, List.filter_append, List.map_append]
  congr 1
  rw [List.filter_map, List.map_map]
  have hchar : charOf ∘ rbufWord line = id := funext fun c => (rbufWord_fields line c).2.1
  have hline : ((fun v => lineOf v == l) ∘ rbufWord line) = fun _ => line == l :=
    funext fun c => congrArg (· == l) (rbufWord_fields line c).1
  rw [hchar, hline, List.map_id]
  by_cases hl : l = line
  · rw [if_pos hl, hl]
    simp
  · rw [if_neg hl]
    simp [Ne.symm hl]

/-- A line with the connection `fd` has been polled. -/
structure Receives (dz : Dz11) (line : DzLine) (fd : DzSocket) (dz' : Dz11) : Prop where
  items : dz'.silo.items =
    dz.silo.items ++ (((fd.unread.take dzBatch).take dz.silo.room).map dz.maskChar).map (rbufWord line)
  lineRcve : dz'.lineRcve = dz.lineRcve
  eightBit : dz'.eightBit = dz.eightBit
  others : ∀ l, l ≠ line → dz'.lineFd l = dz.lineFd l
  unread : dz'.unread line = fd.unread.drop dzBatch

theorem receiveLine_receives {fd : DzSocket} (hfd : dz.lineFd line = some fd) :
    Receives dz line fd (dz.receiveLine line fd) := by
  unfold receiveLine
  by_cases hempty : fd.unread = []
  · rw [if_pos hempty]
    cases fd.closed with
    | true =>
      refine ⟨by simp [disconnectLine, hempty], rfl, rfl, fun l hl => Function.update_of_ne hl _ _, ?_⟩
      simp [disconnectLine, Dz11.unread, hempty]
    | false => exact ⟨by simp [hempty], rfl, rfl, fun _ _ => rfl, by simp [Dz11.unread, hempty, hfd]⟩
  · rw [if_neg hempty]
    have hstores := storeBatch_stores line (fd.unread.take dzBatch)
      { dz with lineFd := Function.update dz.lineFd line (some { fd with unread := fd.unread.drop dzBatch }) }
    refine ⟨?_, hstores.lineRcve, hstores.eightBit, fun l hl => ?_, ?_⟩
    · rw [hstores.items, List.map_map]
      rfl
    · rw [hstores.lineFd]
      exact Function.update_of_ne hl _ _
    · unfold Dz11.unread
      rw [hstores.lineFd]
      simp

theorem map_take_append_iff {f : Byte → Byte} {n : Nat} {l rest : List Byte} :
    (l.take n).map f ++ rest = l ++ rest ↔ l.length ≤ n ∧ ∀ c ∈ l, f c = c := by
  rw [List.append_cancel_right_eq]
  constructor
  · intro h
    have hlen := congrArg List.length h
    rw [List.length_map, List.length_take] at hlen
    have hle : l.length ≤ n := by omega
    rw [List.take_of_length_le hle] at h
    exact ⟨hle, fun c hc => List.map_inj_left.1 (h.trans (List.map_id l).symm) c hc⟩
  · rintro ⟨hle, hsame⟩
    rw [List.take_of_length_le hle, List.map_congr_left hsame]
    exact List.map_id l

section Receives

variable {fd : DzSocket} {dz' : Dz11}

theorem Receives.held_other (h : Receives dz line fd dz') {l : DzLine} (hl : l ≠ line) :
    dz'.held l = dz.held l := by
  unfold held
  rw [waiting_of_items h.items, if_neg hl, List.append_nil]
  unfold Dz11.unread
  rw [h.others l hl]

/-- The line keeps its characters when the batch fits and the mask leaves it alone. -/
theorem Receives.held_iff (h : Receives dz line fd dz') (hfd : dz.lineFd line = some fd) :
    dz'.held line = dz.held line ↔
      (fd.unread.take dzBatch).length ≤ dz.silo.room ∧ ∀ c ∈ fd.unread.take dzBatch, dz.maskChar c = c := by
  have hbefore : dz.unread line = fd.unread.take dzBatch ++ fd.unread.drop dzBatch := by
    rw [List.take_append_drop]
    unfold Dz11.unread
    rw [hfd]
    rfl
  unfold held
  rw [waiting_of_items h.items, if_pos rfl, h.unread, hbefore, List.append_assoc, List.append_cancel_left_eq]
  exact map_take_append_iff

theorem Receives.maskChar (h : Receives dz line fd dz') : dz'.maskChar = dz.maskChar := by
  funext v
  unfold Dz11.maskChar
  rw [h.eightBit]

theorem Receives.length (h : Receives dz line fd dz') (hfits : (fd.unread.take dzBatch).length ≤ dz.silo.room) :
    dz'.silo.length = dz.silo.length + (fd.unread.take dzBatch).length := by
  unfold BoundedQueue.length
  rw [h.items, List.length_append, List.length_map, List.length_map, List.take_of_length_le hfits]

end Receives

end Batch

/-! ## A whole poll -/

/-- What `recv` takes from a line when its turn comes. -/
def batch (dz : Dz11) (line : DzLine) : List Byte :=
  if dz.lineRcve line then (dz.unread line).take dzBatch else []

/-- Every batch that the lines have ready fits: `n` words wait in the silo when the first line has its turn,
    and once the silo is full no line has one. -/
def BatchesFit (dz : Dz11) : Nat → List DzLine → Prop
  | _, [] => True
  | n, line :: lines =>
    dzSiloAlm ≤ n ∨ (n + (dz.batch line).length ≤ dzSiloAlm ∧ (∀ c ∈ dz.batch line, dz.maskChar c = c) ∧
      BatchesFit dz (n + (dz.batch line).length) lines)

section Poll

variable {dz dz' : Dz11} {line : DzLine}

theorem batchesFit_congr {lines : List DzLine} (hbatch : ∀ l ∈ lines, dz'.batch l = dz.batch l)
    (hmask : dz'.maskChar = dz.maskChar) (n : Nat) : dz'.BatchesFit n lines ↔ dz.BatchesFit n lines := by
  induction lines generalizing n with
  | nil => exact Iff.rfl
  | cons line lines ih =>
    unfold BatchesFit
    rw [hbatch line (List.mem_cons_self ..), hmask]
    rw [ih fun l hl => hbatch l (List.mem_cons_of_mem _ hl)]

theorem batchesFit_full {n : Nat} (h : dzSiloAlm ≤ n) (lines : List DzLine) : dz.BatchesFit n lines := by
  cases lines with
  | nil => trivial
  | cons line lines => exact .inl h

/-- A line that is passed over. -/
theorem batchesFit_idle (h : dz.batch line = []) (n : Nat) (lines : List DzLine) :
    dz.BatchesFit n (line :: lines) ↔ dz.BatchesFit n lines := by
  constructor
  · rintro (hfull | ⟨-, -, hrest⟩)
    · exact batchesFit_full hfull lines
    · rw [h] at hrest
      exact hrest
  · intro hrest
    by_cases hfull : dzSiloAlm ≤ n
    · exact .inl hfull
    · rw [← Nat.add_zero n] at hrest
      refine .inr ?_
      rw [h]
      exact ⟨by simp; omega, nofun, hrest⟩

theorem pollReceiveLines_other {lines : List DzLine} (hline : line ∉ lines) (dz : Dz11) :
    (pollReceiveLines lines dz).held line = dz.held line := by
  induction lines generalizing dz with
  | nil => rfl
  | cons l lines ih =>
    have hrest := ih (List.not_mem_of_not_mem_cons hline)
    unfold pollReceiveLines
    cases hfd : dz.lineFd l with
    | none => exact hrest dz
    | some fd =>
      dsimp only
      split_ifs with hoff hfull
      · exact hrest dz
      · rfl
      · exact (hrest _).trans ((receiveLine_receives hfd).held_other (List.ne_of_not_mem_cons hline))

/-- A poll keeps the characters of every line just when the batches fit. -/
theorem pollReceiveLines_iff {lines : List DzLine} (hnodup : lines.Nodup) (dz : Dz11) :
    (∀ line, (pollReceiveLines lines dz).held line = dz.held line) ↔ dz.BatchesFit dz.silo.length lines := by
  induction lines generalizing dz with
  | nil => exact ⟨fun _ => trivial, fun _ _ => rfl⟩
  | cons l lines ih =>
    obtain ⟨hl, hrest⟩ := List.nodup_cons.1 hnodup
    unfold pollReceiveLines
    cases hfd : dz.lineFd l with
    | none =>
      have hidle : dz.batch l = [] := by simp [batch, unread, hfd]
      rw [batchesFit_idle hidle]
      exact ih hrest dz
    | some fd =>
      dsimp only
      split_ifs with hoff hfull
      · have hidle : dz.batch l = [] := by
          unfold batch
          rw [if_neg (by simpa using hoff)]
        rw [batchesFit_idle hidle]
        exact ih hrest dz
      · exact ⟨fun _ => batchesFit_full (of_decide_eq_true hfull) _, fun _ _ => rfl⟩
      · have hreceives := receiveLine_receives hfd
        have hbatch : dz.batch l = fd.unread.take dzBatch := by
          unfold batch unread
          rw [if_pos (by simpa using hoff), hfd]
          rfl
        have hroom : ∀ k, k ≤ dz.silo.room ↔ dz.silo.length + k ≤ dzSiloAlm := by
          have hlt := BoundedQueue.length_lt (Bool.eq_false_iff.2 hfull)
          intro k
          unfold BoundedQueue.room BoundedQueue.length
          omega
        have hcongr (n : Nat) : (dz.receiveLine l fd).BatchesFit n lines ↔ dz.BatchesFit n lines := by
          refine batchesFit_congr (fun k hk => ?_) hreceives.maskChar n
          have hne : k ≠ l := fun heq => hl (heq ▸ hk)
          unfold batch unread
          rw [hreceives.lineRcve, hreceives.others k hne]
        have hfits := hreceives.held_iff hfd
        rw [← hbatch, hroom] at hfits
        have hlength := hreceives.length
        rw [← hbatch, hroom] at hlength
        have hkeeps (hline : (dz.receiveLine l fd).held l = dz.held l) (k : DzLine) :
            (dz.receiveLine l fd).held k = dz.held k := by
          by_cases hk : k = l
          · rw [hk, hline]
          · exact hreceives.held_other hk
        constructor
        · intro hall
          have hline : (dz.receiveLine l fd).held l = dz.held l :=
            (pollReceiveLines_other hl _).symm.trans (hall l)
          obtain ⟨hle, hpass⟩ := hfits.1 hline
          have hrest' := (ih hrest _).1 fun k => (hall k).trans (hkeeps hline k).symm
          rw [hlength hle, hcongr] at hrest'
          exact .inr ⟨hle, hpass, hrest'⟩
        · rintro (hfull' | ⟨hle, hpass, hrest'⟩)
          · exact absurd (decide_eq_true hfull') hfull
          · have hline := hfits.2 ⟨hle, hpass⟩
            rw [← hcongr, ← hlength hle] at hrest'
            exact fun k => ((ih hrest _).2 hrest' k).trans (hkeeps hline k)

end Poll

end Dz11

end K1801.Lsi11
