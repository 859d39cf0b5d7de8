import Mathlib.Tactic.SplitIfs
import K1801.Library.ByteFile
import K1801.Lsi11.Dma

/-! # The tape backend of the TQ11

A unit keeps its position twice, in the cursor of its file and in `tapePos`. The routines below move
both as the driver does, so that a short read leaves them apart.
-/

namespace K1801.Lsi11

open Core Library

abbrev tqIoChunk : Nat := 256
abbrev tqTapTmk : Dword := 0
abbrev tqTapEom : Dword := 0xFFFFFFFF
abbrev tqTapMaxLen : Dword := 0x00FFFFFF

/-- `tq_tap_status_t` -/
inductive TqTapStatus where
  | ok
  | mark
  | bot
  | eomStatus
  | ioErr
  | invRl
  | wrpStatus
  deriving Repr, DecidableEq

/-- `tq_unit_t` -/
structure TqUnit where
  fp : Option (ByteFile Byte)
  readOnly : Bool
  online : Bool
  swWriteProtect : Bool
  unaPending : Bool
  tapePos : Dword
  deriving DecidableEq

/-! ## Words -/

def tqTapSeek (pos : Dword) (u : TqUnit) : Option TqUnit :=
  u.fp.map fun f => { u with fp := some (f.seek pos.toNat), tapePos := pos }

/-- `emu_fread` of `n` bytes. Only a full read counts in `tapePos`. -/
def tqTapFread (n : Nat) (u : TqUnit) : Option (List Byte) × TqUnit :=
  match u.fp with
  | none => (none, u)
  | some f =>
    let (data, f) := f.read n
    if data.length = n then
      (some data, { u with fp := some f, tapePos := u.tapePos + BitVec.ofNat 32 n })
    else (none, { u with fp := some f })

def tqTapFwrite (data : List Byte) (u : TqUnit) : TqUnit :=
  { u with fp := u.fp.map (ByteFile.write 0 data), tapePos := u.tapePos + BitVec.ofNat 32 data.length }

def fromLe32 : List Byte → Dword
  | [b0, b1, b2, b3] =>
    b0.setWidth 32 ||| (b1.setWidth 32 <<< 8) ||| (b2.setWidth 32 <<< 16) ||| (b3.setWidth 32 <<< 24)
  | _ => 0

def tqTapReadU32 (u : TqUnit) : Option Dword × TqUnit :=
  let (data, u) := tqTapFread 4 u
  (data.map fromLe32, u)

def tqTapWriteU32 (v : Dword) (u : TqUnit) : TqUnit := tqTapFwrite (le32 v) u

def tqTapPadded (len : Dword) : Dword := (len + 1) &&& ~~~(1 : Dword)

/-! ## Reading forward -/

/-- `tq_tap_sink_fn`: takes data at an offset and answers 0, or what stops further delivery. -/
abbrev TqTapSink (σ : Type) := σ → Nat → List Byte → Int × σ

/-- The data of a record in chunks: whether all of it was there, the last answer of the sink. -/
def tqTapStreamData {σ : Type} (sink : Option (TqTapSink σ)) (maxLen dataLen : Nat) :
    Nat → Nat → Int → σ → TqUnit → Bool × Int × σ × TqUnit
  | 0, _, rc, s, u => (true, rc, s, u)
  | chunks + 1, offset, rc, s, u =>
    let chunkLen := min (dataLen - offset) tqIoChunk
    match tqTapFread chunkLen u with
    | (none, u) => (false, rc, s, u)
    | (some chunk, u) =>
      let deliverLen := min chunkLen (maxLen - offset)
      let (rc, s) := match sink with
        | some sink => if deliverLen ≠ 0 ∧ rc = 0 then sink s offset (chunk.take deliverLen) else (rc, s)
        | none => (rc, s)
      tqTapStreamData sink maxLen dataLen chunks (offset + chunkLen) rc s u

structure TqTapRead (σ : Type) where
  status : TqTapStatus
  recLen : Nat
  xferLen : Nat
  sinkResult : Int
  sink : σ
  unit : TqUnit

/-- The rest of `tq_tap_read_forward_stream` once the length word is read: data, pad byte, trailing word. -/
def tqTapReadBody {σ : Type} (maxLen : Nat) (sink : Option (TqTapSink σ)) (s : σ) (mark : Dword)
    (u : TqUnit) : TqTapRead σ :=
  let dataLen := mark.toNat
  match tqTapStreamData sink maxLen dataLen ((dataLen + 255) / tqIoChunk) 0 0 s u with
  | (false, rc, s, u) => ⟨.ioErr, dataLen, 0, rc, s, u⟩
  | (true, rc, s, u) =>
    match tqTapFread ((tqTapPadded mark).toNat - dataLen) u with
    | (none, u) => ⟨.ioErr, dataLen, 0, rc, s, u⟩
    | (some _, u) =>
      match tqTapReadU32 u with
      | (none, u) => ⟨.ioErr, dataLen, 0, rc, s, u⟩
      | (some trailer, u) =>
        if trailer ≠ mark then ⟨.invRl, dataLen, 0, rc, s, u⟩
        else ⟨.ok, dataLen, min dataLen maxLen, rc, s, u⟩

def tqTapReadForwardStream {σ : Type} (maxLen : Nat) (sink : Option (TqTapSink σ)) (s : σ) (u : TqUnit) :
    TqTapRead σ :=
  match tqTapReadU32 u with
  | (none, u) => ⟨.eomStatus, 0, 0, 0, s, u⟩
  | (some mark, u) =>
    if mark = tqTapTmk then ⟨.mark, 0, 0, 0, s, u⟩
    else if mark = tqTapEom ∨ mark > tqTapMaxLen then ⟨.invRl, 0, 0, 0, s, u⟩
    else tqTapReadBody maxLen sink s mark u

/-- `memcpy` to the offset -/
def tqTapBufferSink : TqTapSink (List Byte) := fun buf offset data =>
  (0, buf.take offset ++ data ++ buf.drop (offset + data.length))

def tqTapReadForward (buf : Option (List Byte)) (maxLen : Nat) (u : TqUnit) : TqTapRead (List Byte) :=
  tqTapReadForwardStream maxLen (buf.map fun _ => tqTapBufferSink) (buf.getD []) u

/-! ## Looking back -/

structure TqTapPeek where
  status : TqTapStatus
  mark : Dword
  start : Dword
  recLen : Nat
  unit : TqUnit

/-- The rest of `tq_tap_peek_prev` once the word before the position is read. -/
def tqTapPeekObject (word : Dword) (u : TqUnit) : TqTapPeek :=
  if word = tqTapTmk then
    match tqTapSeek u.tapePos u with
    | none => ⟨.ioErr, word, u.tapePos - 4, 0, u⟩
    | some u' => ⟨.mark, word, u.tapePos - 4, 0, u'⟩
  else if word = tqTapEom ∨ word > tqTapMaxLen then ⟨.invRl, 0, u.tapePos, 0, u⟩
  else if u.tapePos < 8 + tqTapPadded word then ⟨.invRl, 0, u.tapePos, 0, u⟩
  else
    match tqTapSeek u.tapePos u with
    | none => ⟨.ioErr, word, u.tapePos - 4 - tqTapPadded word - 4, word.toNat, u⟩
    | some u' => ⟨.ok, word, u.tapePos - 4 - tqTapPadded word - 4, word.toNat, u'⟩

def tqTapPeekPrev (u : TqUnit) : TqTapPeek :=
  if u.fp.isNone then ⟨.eomStatus, 0, u.tapePos, 0, u⟩
  else if u.tapePos < 4 then ⟨.bot, 0, u.tapePos, 0, u⟩
  else
    match tqTapSeek (u.tapePos - 4) u with
    | none => ⟨.ioErr, 0, u.tapePos, 0, u⟩
    | some u₁ =>
      match tqTapReadU32 u₁ with
      | (none, u₂) => ⟨.ioErr, 0, u.tapePos, 0, u₂⟩
      | (some word, u₂) => tqTapPeekObject word u₂

/-! ## Writing -/

/-- The zero byte behind a record of odd length. -/
def tqTapPad (len : Dword) : List Byte := List.replicate ((tqTapPadded len).toNat - len.toNat) 0

def tqTapWriteRecord (buf : List Byte) (len : Dword) (u : TqUnit) : TqTapStatus × TqUnit :=
  if u.fp.isNone then (.eomStatus, u)
  else if u.readOnly then (.wrpStatus, u)
  else if len > tqTapMaxLen then (.invRl, u)
  else (.ok, tqTapWriteU32 len (tqTapFwrite (tqTapPad len) (tqTapFwrite (buf.take len.toNat) (tqTapWriteU32 len u))))

/-- The chunks of a record from host memory: whether the transfers all succeeded. -/
def tqTapWriteChunks {σ : Type} (dma : Dma σ) (s : σ) (addr : Dword) (len : Nat) :
    Nat → Nat → TqUnit → Bool × TqUnit
  | 0, _, u => (true, u)
  | chunks + 1, offset, u =>
    let chunkLen := min (len - offset) tqIoChunk
    match dma.readBytes s (addr + BitVec.ofNat 32 offset) chunkLen with
    | none => (false, u)
    | some chunk => tqTapWriteChunks dma s addr len chunks (offset + chunkLen) (tqTapFwrite chunk u)

/-- The status, `dma_error` and the unit. -/
def tqTapWriteRecordDma {σ : Type} (dma : Dma σ) (s : σ) (addr len : Dword) (u : TqUnit) :
    TqTapStatus × Bool × TqUnit :=
  if u.fp.isNone then (.eomStatus, false, u)
  else if u.readOnly then (.wrpStatus, false, u)
  else if len > tqTapMaxLen then (.invRl, false, u)
  else if !dma.readableRange s addr len.toNat then (.ioErr, true, u)
  else
    match tqTapWriteChunks dma s addr len.toNat ((len.toNat + 255) / tqIoChunk) 0 (tqTapWriteU32 len u) with
    | (false, u) => (.ioErr, true, u)
    | (true, u) => (.ok, false, tqTapWriteU32 len (tqTapFwrite (tqTapPad len) u))

def tqTapWriteMark (u : TqUnit) : TqTapStatus × TqUnit :=
  if u.fp.isNone then (.eomStatus, u)
  else if u.readOnly then (.wrpStatus, u)
  else (.ok, tqTapWriteU32 tqTapTmk u)

/-! ## Spacing -/

def tqTapRewind (u : TqUnit) : TqTapStatus × TqUnit :=
  if u.fp.isNone then (.eomStatus, u)
  else match tqTapSeek 0 u with
    | none => (.ioErr, u)
    | some u => (.ok, u)

/-- The status, the records passed and the unit. A mark that is met is passed too. -/
def tqTapSpaceForwardRecords : Nat → TqUnit → TqTapStatus × Nat × TqUnit
  | 0, u => (.ok, 0, u)
  | count + 1, u =>
    let r := tqTapReadForward none 0 u
    if r.status = .ok then
      let (st, skipped, u) := tqTapSpaceForwardRecords count r.unit
      (st, skipped + 1, u)
    else (r.status, 0, r.unit)

def tqTapSpaceReverseRecords (count : Nat) (u : TqUnit) : TqTapStatus × Nat × TqUnit :=
  loop 0 count u
where
  loop (done : Nat) : Nat → TqUnit → TqTapStatus × Nat × TqUnit
    | 0, u => (.ok, done, u)
    | left + 1, u =>
      let r := tqTapPeekPrev u
      match r.status with
      | .ok =>
        match tqTapSeek r.start r.unit with
        | none => (.ioErr, 0, r.unit)
        | some u => loop (done + 1) left u
      | .mark =>
        match tqTapSeek r.start r.unit with
        | none => (.ioErr, 0, r.unit)
        | some u => (.mark, done, u)
      | st => (st, done, r.unit)

namespace TqUnit

/-- What lies behind the cursor. -/
def remaining (u : TqUnit) : Nat :=
  match u.fp with
  | none => 0
  | some f => f.bytes.length - f.cursor

end TqUnit

theorem tqTapFread_remaining (n : Nat) (u : TqUnit) :
    (tqTapFread n u).2.remaining ≤ u.remaining ∧
      ((tqTapFread n u).1.isSome → (tqTapFread n u).2.remaining + n = u.remaining) := by
  cases hfp : u.fp with
  | none => simp [tqTapFread, hfp]
  | some f =>
    have hremaining : u.remaining = f.bytes.length - f.cursor := by simp only [TqUnit.remaining, hfp]
    have hlength : (f.read n).1.length = min n (f.bytes.length - f.cursor) := by
      simp only [ByteFile.read, List.length_take, List.length_drop]
    have hcursor : (f.read n).2.cursor = f.cursor + (f.read n).1.length := rfl
    simp only [tqTapFread, hfp]
    rw [hremaining]
    split
    · simp only [TqUnit.remaining, ByteFile.read_bytes]
      exact ⟨by omega, fun _ => by omega⟩
    · simp only [TqUnit.remaining, ByteFile.read_bytes]
      exact ⟨by omega, fun h => absurd h (by simp)⟩

theorem tqTapReadU32_remaining (u : TqUnit) :
    (tqTapReadU32 u).2.remaining ≤ u.remaining ∧
      ((tqTapReadU32 u).1.isSome → (tqTapReadU32 u).2.remaining + 4 = u.remaining) := by
  have h := tqTapFread_remaining 4 u
  simpa [tqTapReadU32] using h

theorem tqTapStreamData_remaining {σ : Type} (sink : Option (TqTapSink σ)) (maxLen dataLen chunks offset : Nat)
    (rc : Int) (s : σ) (u : TqUnit) :
    (tqTapStreamData sink maxLen dataLen chunks offset rc s u).2.2.2.remaining ≤ u.remaining := by
  induction chunks generalizing offset rc s u with
  | zero => exact Nat.le_refl _
  | succ chunks ih =>
    have hread := (tqTapFread_remaining (min (dataLen - offset) tqIoChunk) u).1
    unfold tqTapStreamData
    simp only
    split
    · rename_i hnone
      rw [hnone] at hread
      exact hread
    · rename_i hsome
      rw [hsome] at hread
      exact Nat.le_trans (ih ..) hread

theorem tqTapReadBody_remaining {σ : Type} (maxLen : Nat) (sink : Option (TqTapSink σ)) (s : σ)
    (mark : Dword) (u : TqUnit) : (tqTapReadBody maxLen sink s mark u).unit.remaining ≤ u.remaining := by
  unfold tqTapReadBody
  have hdata := tqTapStreamData_remaining sink maxLen mark.toNat ((mark.toNat + 255) / tqIoChunk) 0 0 s u
  simp only
  split
  · rename_i hstream
    rw [hstream] at hdata
    exact hdata
  · rename_i u₁ hstream
    rw [hstream] at hdata
    have hpad := (tqTapFread_remaining ((tqTapPadded mark).toNat - mark.toNat) u₁).1
    split
    · rename_i hread
      rw [hread] at hpad
      exact Nat.le_trans hpad hdata
    · rename_i u₂ hread
      rw [hread] at hpad
      have hword := (tqTapReadU32_remaining u₂).1
      split
      · rename_i htrailer
        rw [htrailer] at hword
        exact Nat.le_trans hword (Nat.le_trans hpad hdata)
      · rename_i htrailer
        rw [htrailer] at hword
        split <;> exact Nat.le_trans hword (Nat.le_trans hpad hdata)

/-- A forward motion that passes an object consumes its length word. -/
theorem tqTapReadForwardStream_remaining {σ : Type} (maxLen : Nat) (sink : Option (TqTapSink σ)) (s : σ)
    (u : TqUnit) (h : (tqTapReadForwardStream maxLen sink s u).status = .ok ∨
      (tqTapReadForwardStream maxLen sink s u).status = .mark) :
    (tqTapReadForwardStream maxLen sink s u).unit.remaining < u.remaining := by
  have hword := (tqTapReadU32_remaining u).2
  unfold tqTapReadForwardStream at h ⊢
  cases hread : tqTapReadU32 u with
  | mk word u₁ =>
    cases word with
    | none => simp [hread] at h
    | some mark =>
      simp only [hread] at h hword ⊢
      have hpassed := hword rfl
      have hbody := tqTapReadBody_remaining maxLen sink s mark u₁
      split_ifs
      · change u₁.remaining < u.remaining
        omega
      · change u₁.remaining < u.remaining
        omega
      · omega

def tqTapSpaceForwardMarks (count : Nat) (u : TqUnit) : TqTapStatus × Nat × TqUnit :=
  loop count 0 u
where
  loop (count marks : Nat) (u : TqUnit) : TqTapStatus × Nat × TqUnit :=
    if marks < count then
      if hok : (tqTapReadForward none 0 u).status = .ok then loop count marks (tqTapReadForward none 0 u).unit
      else if hmark : (tqTapReadForward none 0 u).status = .mark then
        loop count (marks + 1) (tqTapReadForward none 0 u).unit
      else ((tqTapReadForward none 0 u).status, marks, (tqTapReadForward none 0 u).unit)
    else (.ok, marks, u)
  termination_by u.remaining
  decreasing_by
    · exact tqTapReadForwardStream_remaining 0 _ _ u (.inl hok)
    · exact tqTapReadForwardStream_remaining 0 _ _ u (.inr hmark)

theorem tqTapFread_tapePos {n : Nat} {u u' : TqUnit} {data : List Byte} (h : tqTapFread n u = (some data, u')) :
    u'.tapePos = u.tapePos + BitVec.ofNat 32 n := by
  cases hfp : u.fp with
  | none => simp [tqTapFread, hfp] at h
  | some f =>
    simp only [tqTapFread, hfp] at h
    split at h
    · cases h
      rfl
    · cases h

theorem tqTapReadU32_tapePos {u u' : TqUnit} {word : Dword} (h : tqTapReadU32 u = (some word, u')) :
    u'.tapePos = u.tapePos + 4 := by
  unfold tqTapReadU32 at h
  cases hread : tqTapFread 4 u with
  | mk data u₁ =>
    rw [hread] at h
    cases data with
    | none => cases h
    | some data =>
      cases h
      exact tqTapFread_tapePos hread

theorem tqTapSeek_tapePos {pos : Dword} {u u' : TqUnit} (h : tqTapSeek pos u = some u') : u'.tapePos = pos := by
  unfold tqTapSeek at h
  cases hfp : u.fp with
  | none => rw [hfp] at h; cases h
  | some f => rw [hfp] at h; cases h; rfl

theorem tqTapPadded_eq (len : Dword) : tqTapPadded len = ((len + 1) >>> 1) <<< 1 := by
  unfold tqTapPadded
  ext i hi
  cases i with
  | zero => simp
  | succ i =>
    have hbit : (~~~(1#32))[i + 1] = true := by
      rw [BitVec.getElem_not, BitVec.getElem_one]
      simp
    rw [BitVec.getElem_and, show (~~~(1 : Dword))[i + 1] = true from hbit, BitVec.getElem_shiftLeft,
      BitVec.getElem_ushiftRight]
    simp [Nat.add_comm 1 i, BitVec.getLsbD_eq_getElem hi]

theorem tqTapPadded_toNat {len : Dword} (h : len ≤ tqTapMaxLen) :
    (tqTapPadded len).toNat = (len.toNat + 1) / 2 * 2 := by
  have hlen : len.toNat ≤ 0xFFFFFF := BitVec.le_def.1 h
  have hsum : (len + 1).toNat = len.toNat + 1 := by
    rw [BitVec.toNat_add]
    exact Nat.mod_eq_of_lt (Nat.lt_of_le_of_lt (Nat.add_le_add_right hlen 1) (by decide))
  rw [tqTapPadded_eq, BitVec.toNat_shiftLeft, BitVec.toNat_ushiftRight, hsum, Nat.shiftRight_eq_div_pow,
    Nat.shiftLeft_eq]
  omega

/-- Where a record that ends at `pos` starts. -/
theorem recordStart_toNat {pos len : Dword} (hlen : len ≤ tqTapMaxLen) (hroom : ¬ pos < 8 + tqTapPadded len) :
    8 + (len.toNat + 1) / 2 * 2 ≤ pos.toNat ∧
      (pos - 4 - tqTapPadded len - 4).toNat = pos.toNat - (8 + (len.toNat + 1) / 2 * 2) := by
  have hpadded := tqTapPadded_toNat hlen
  have hmax : len.toNat ≤ 0xFFFFFF := BitVec.le_def.1 hlen
  have hsum : (8 + tqTapPadded len : Dword).toNat = 8 + (len.toNat + 1) / 2 * 2 := by
    rw [BitVec.toNat_add, hpadded]
    exact Nat.mod_eq_of_lt (by change 8 + _ < _; omega)
  have hle : 8 + (len.toNat + 1) / 2 * 2 ≤ pos.toNat := hsum ▸ BitVec.le_def.1 (BitVec.not_lt.1 hroom)
  have h4 : (pos - 4).toNat = pos.toNat - 4 :=
    BitVec.toNat_sub_of_le (BitVec.le_def.2 (by change 4 ≤ pos.toNat; omega))
  have hp : (pos - 4 - tqTapPadded len).toNat = pos.toNat - 4 - (len.toNat + 1) / 2 * 2 := by
    rw [BitVec.toNat_sub_of_le (BitVec.le_def.2 (by omega)), h4, hpadded]
  refine ⟨hle, ?_⟩
  rw [BitVec.toNat_sub_of_le (BitVec.le_def.2 (by rw [hp]; change 4 ≤ _; omega)), hp]
  change _ - 4 = _
  omega

theorem tqTapPeekObject_back {word : Dword} {u : TqUnit} (hback : 4 ≤ u.tapePos.toNat)
    (h : (tqTapPeekObject word u).status = .ok ∨ (tqTapPeekObject word u).status = .mark) :
    (tqTapPeekObject word u).start.toNat < u.tapePos.toNat := by
  have hfour : (u.tapePos - 4).toNat = u.tapePos.toNat - 4 := BitVec.toNat_sub_of_le (BitVec.le_def.2 hback)
  unfold tqTapPeekObject at h ⊢
  split_ifs at h ⊢ with hmark hlen hshort
  · split <;> simp only <;> omega
  · exact h.elim nofun nofun
  · exact h.elim nofun nofun
  · have hstart := recordStart_toNat (BitVec.not_lt.1 (not_or.1 hlen).2) hshort
    split <;> simp only <;> omega

/-- An object found behind the position starts below it. -/
theorem tqTapPeekPrev_back {u : TqUnit} (h : (tqTapPeekPrev u).status = .ok ∨ (tqTapPeekPrev u).status = .mark) :
    (tqTapPeekPrev u).start.toNat < u.tapePos.toNat := by
  unfold tqTapPeekPrev at h ⊢
  cases hfp : u.fp with
  | none => simp [hfp] at h
  | some f =>
    simp only [hfp, Option.isNone_some, Bool.false_eq_true, if_false] at h ⊢
    by_cases hbot : u.tapePos < 4
    · simp only [if_pos hbot] at h
      exact h.elim nofun nofun
    · have hback : 4 ≤ u.tapePos.toNat := BitVec.le_def.1 (BitVec.not_lt.1 hbot)
      simp only [if_neg hbot] at h ⊢
      cases hseek : tqTapSeek (u.tapePos - 4) u with
      | none =>
        simp only [hseek] at h
        exact h.elim nofun nofun
      | some u₁ =>
        cases hread : tqTapReadU32 u₁ with
        | mk word u₂ =>
          cases word with
          | none =>
            simp only [hseek, hread] at h
            exact h.elim nofun nofun
          | some word =>
            have hpos : u₂.tapePos = u.tapePos := by
              rw [tqTapReadU32_tapePos hread, tqTapSeek_tapePos hseek, BitVec.sub_add_cancel]
            simp only [hseek, hread] at h ⊢
            rw [← hpos] at hback ⊢
            exact tqTapPeekObject_back hback h

def tqTapSpaceReverseMarks (count : Nat) (u : TqUnit) : TqTapStatus × Nat × TqUnit :=
  loop count 0 u
where
  loop (count done : Nat) (u : TqUnit) : TqTapStatus × Nat × TqUnit :=
    if done < count then
      if _hok : (tqTapPeekPrev u).status = .ok then
        match _hseek : tqTapSeek (tqTapPeekPrev u).start (tqTapPeekPrev u).unit with
        | none => (.ioErr, 0, (tqTapPeekPrev u).unit)
        | some u' => loop count done u'
      else if _hmark : (tqTapPeekPrev u).status = .mark then
        match _hseek : tqTapSeek (tqTapPeekPrev u).start (tqTapPeekPrev u).unit with
        | none => (.ioErr, 0, (tqTapPeekPrev u).unit)
        | some u' => loop count (done + 1) u'
      else ((tqTapPeekPrev u).status, done, (tqTapPeekPrev u).unit)
    else (.ok, done, u)
  termination_by u.tapePos.toNat
  decreasing_by
    · rw [tqTapSeek_tapePos _hseek]
      exact tqTapPeekPrev_back (.inl _hok)
    · rw [tqTapSeek_tapePos _hseek]
      exact tqTapPeekPrev_back (.inr _hmark)

end K1801.Lsi11
