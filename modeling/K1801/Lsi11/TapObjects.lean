import Mathlib.Data.List.Induction
import K1801.Lsi11.Tap

/-! # Objects of a tape

A tape that stands between `left` and `right` moves over the objects to either side of it.
-/

namespace K1801.Lsi11

open Core Library

/-- A record the driver can write: one byte up to the longest record. -/
structure TapRecord where
  data : List Byte
  nonempty : 0 < data.length
  fits : data.length ≤ tqTapMaxLen.toNat

inductive TapObject where
  | record (r : TapRecord)
  | mark

namespace TapRecord

def len (r : TapRecord) : Dword := BitVec.ofNat 32 r.data.length

def encode (r : TapRecord) : List Byte := le32 r.len ++ r.data ++ tqTapPad r.len ++ le32 r.len

@[simp] theorem len_toNat (r : TapRecord) : r.len.toNat = r.data.length := by
  have hfits : r.data.length ≤ 0xFFFFFF := r.fits
  exact BitVec.toNat_ofNat .. ▸ Nat.mod_eq_of_lt (by omega)

theorem len_le (r : TapRecord) : r.len ≤ tqTapMaxLen := BitVec.le_def.2 (r.len_toNat ▸ r.fits)

theorem len_ne_mark (r : TapRecord) : r.len ≠ tqTapTmk := by
  intro h
  have hzero : r.data.length = 0 := by rw [← len_toNat, h]; rfl
  exact Nat.ne_of_gt r.nonempty hzero

theorem len_valid (r : TapRecord) : ¬ (r.len = tqTapEom ∨ r.len > tqTapMaxLen) := by
  rintro (h | h)
  · exact absurd (h ▸ r.len_le) (by decide)
  · exact BitVec.not_lt.2 r.len_le h

theorem pad_length (r : TapRecord) :
    (tqTapPad r.len).length = (r.data.length + 1) / 2 * 2 - r.data.length := by
  rw [tqTapPad, List.length_replicate, tqTapPadded_toNat r.len_le, len_toNat]

theorem encode_length (r : TapRecord) : r.encode.length = 8 + (r.data.length + 1) / 2 * 2 := by
  have hpad := r.pad_length
  simp only [encode, List.length_append, hpad, le32, List.length_cons, List.length_nil]
  omega

end TapRecord

namespace TapObject

def encode : TapObject → List Byte
  | record r => r.encode
  | mark => le32 tqTapTmk

/-- What a motion over the object answers. -/
def status : TapObject → TqTapStatus
  | record _ => .ok
  | mark => .mark

def data : TapObject → List Byte
  | record r => r.data
  | mark => []

/-- How many records a motion over the object counts. -/
def records : TapObject → Nat
  | record _ => 1
  | mark => 0

def encodeAll (os : List TapObject) : List Byte := os.flatMap encode

@[simp] theorem encodeAll_nil : encodeAll [] = [] := rfl

@[simp] theorem encodeAll_cons (o : TapObject) (os : List TapObject) :
    encodeAll (o :: os) = o.encode ++ encodeAll os := rfl

@[simp] theorem encodeAll_append (os os' : List TapObject) :
    encodeAll (os ++ os') = encodeAll os ++ encodeAll os' := by
  simp only [encodeAll, List.flatMap_append]

/-- The word a reverse motion finds. -/
def trailer : TapObject → Dword
  | record r => r.len
  | mark => tqTapTmk

def front : TapObject → List Byte
  | record r => le32 r.len ++ r.data ++ tqTapPad r.len
  | mark => []

theorem encode_eq (o : TapObject) : o.encode = o.front ++ le32 o.trailer := by
  cases o <;> rfl

theorem four_le_encode (o : TapObject) : 4 ≤ o.encode.length := by
  cases o with
  | record r => exact r.encode_length ▸ by omega
  | mark => exact Nat.le_refl 4

end TapObject

/-! ## Words at the position -/

theorem fromLe32_le32 (w : Dword) : fromLe32 (le32 w) = w := by
  apply BitVec.eq_of_getLsbD_eq
  intro i hi
  simp only [le32, fromLe32]
  by_cases h8 : i < 8
  · simp [hi, h8, show i < 16 by omega, show i < 24 by omega]
  · by_cases h16 : i < 16
    · simp [hi, h8, h16, show i < 24 by omega, show i - 8 < 8 by omega, show i - 8 < 32 by omega,
        show 8 + (i - 8) = i by omega]
    · by_cases h24 : i < 24
      · simp [hi, h8, h16, h24, show ¬ i - 8 < 8 by omega, show i - 16 < 8 by omega,
          show i - 16 < 32 by omega, show 16 + (i - 16) = i by omega]
      · simp [hi, h8, h16, h24, show ¬ i - 8 < 8 by omega, show ¬ i - 16 < 8 by omega,
          show i - 24 < 8 by omega, show i - 24 < 32 by omega, show 24 + (i - 24) = i by omega]

namespace TqUnit

/-- The unit with its position, in both places, between `left` and `right`. -/
def stand (u : TqUnit) (left right : List Byte) : TqUnit :=
  { u with fp := some ⟨left ++ right, left.length⟩, tapePos := BitVec.ofNat 32 left.length }

variable (u : TqUnit) (left right : List Byte)

@[simp] theorem stand_fp : (u.stand left right).fp = some ⟨left ++ right, left.length⟩ := rfl

@[simp] theorem stand_readOnly : (u.stand left right).readOnly = u.readOnly := rfl

@[simp] theorem stand_tapePos : (u.stand left right).tapePos = BitVec.ofNat 32 left.length := rfl

/-- The same place described by other bytes. -/
theorem stand_congr {left' right' : List Byte} (hleft : left = left') (hright : right = right') :
    u.stand left right = u.stand left' right' := by rw [hleft, hright]

end TqUnit

section Stand

variable (u : TqUnit) (left right : List Byte)

theorem tqTapFread_stand (data : List Byte) {n : Nat} (hlen : data.length = n) :
    tqTapFread n (u.stand left (data ++ right)) = (some data, u.stand (left ++ data) right) := by
  have hread : ByteFile.read data.length ⟨left ++ (data ++ right), left.length⟩ = _ :=
    ByteFile.read_append (List.append_assoc ..).symm rfl
  subst hlen
  simp only [tqTapFread, TqUnit.stand_fp, hread, if_true]
  simp only [TqUnit.stand, List.append_assoc, List.length_append, BitVec.ofNat_add]

theorem tqTapFwrite_stand (data : List Byte) :
    tqTapFwrite data (u.stand left right) = u.stand (left ++ data) (right.drop data.length) := by
  have hwrite : ByteFile.write (0 : Byte) data ⟨left ++ right, left.length⟩ = _ :=
    ByteFile.write_append rfl rfl
  simp only [tqTapFwrite, TqUnit.stand_fp, Option.map_some, hwrite]
  simp only [TqUnit.stand, List.length_append, BitVec.ofNat_add]

theorem tqTapReadU32_stand (w : Dword) :
    tqTapReadU32 (u.stand left (le32 w ++ right)) = (some w, u.stand (left ++ le32 w) right) := by
  simp only [tqTapReadU32, tqTapFread_stand u left right (le32 w) (n := 4) rfl, Option.map_some, fromLe32_le32]

/-- The position is a number of 32 bits, the cursor is not. -/
theorem tqTapSeek_stand {x y : List Byte} {pos : Dword} (hbytes : x ++ y = left ++ right)
    (hpos : pos.toNat = left.length) : tqTapSeek pos (u.stand x y) = some (u.stand left right) := by
  have hofNat : pos = BitVec.ofNat 32 left.length := by rw [← hpos, BitVec.ofNat_toNat, BitVec.setWidth_eq]
  simp only [tqTapSeek, TqUnit.stand_fp, Option.map_some, ByteFile.seek, hbytes, hpos]
  rw [hofNat]
  rfl

/-! ## Reading forward -/

/-- The data of a record is passed whatever the sink does with it. -/
theorem tqTapStreamData_stand {σ : Type} (sink : Option (TqTapSink σ)) (maxLen dataLen chunks offset : Nat)
    (rc : Int) (s : σ) (data : List Byte) (hlen : data.length = dataLen - offset)
    (hchunks : chunks = (data.length + 255) / tqIoChunk) :
    ∃ rc' s', tqTapStreamData sink maxLen dataLen chunks offset rc s (u.stand left (data ++ right)) =
      (true, rc', s', u.stand (left ++ data) right) := by
  induction chunks generalizing offset rc s left data with
  | zero =>
    have hnil : data = [] := List.eq_nil_of_length_eq_zero (by simp only [tqIoChunk] at hchunks; omega)
    subst hnil
    exact ⟨rc, s, by simp only [tqTapStreamData, List.append_nil, List.nil_append]⟩
  | succ chunks ih =>
    simp only [tqIoChunk] at hchunks
    have htake : (data.take (min (dataLen - offset) tqIoChunk)).length = min (dataLen - offset) tqIoChunk := by
      rw [List.length_take, hlen]
      omega
    have hread := tqTapFread_stand u left (data.drop (min (dataLen - offset) tqIoChunk) ++ right) _ htake
    rw [← List.append_assoc, List.take_append_drop] at hread
    have hrest : (data.drop (min (dataLen - offset) tqIoChunk)).length =
        dataLen - (offset + min (dataLen - offset) tqIoChunk) := by
      rw [List.length_drop, hlen]
      omega
    have hleft : ∀ chunkLen, left ++ data.take chunkLen ++ data.drop chunkLen = left ++ data := by
      intro chunkLen
      rw [List.append_assoc, List.take_append_drop]
    simp only [tqTapStreamData, hread]
    obtain ⟨rc', s', hih⟩ := ih (left ++ data.take (min (dataLen - offset) tqIoChunk)) _ _ _ _ hrest
      (by rw [hrest]; simp only [tqIoChunk]; omega)
    rw [hih, hleft]
    exact ⟨rc', s', rfl⟩

/-- A buffer that has room for the record holds its data from the offset on. -/
theorem tqTapStreamData_buffer (maxLen dataLen chunks offset : Nat) (buf : List Byte) (data : List Byte)
    (hlen : data.length = dataLen - offset) (hchunks : chunks = (data.length + 255) / tqIoChunk)
    (hmax : dataLen ≤ maxLen) (hbuf : dataLen ≤ buf.length) (hoffset : offset ≤ dataLen) :
    tqTapStreamData (some tqTapBufferSink) maxLen dataLen chunks offset 0 buf (u.stand left (data ++ right)) =
      (true, 0, buf.take offset ++ data ++ buf.drop (offset + data.length), u.stand (left ++ data) right) := by
  induction chunks generalizing offset buf left data with
  | zero =>
    have hnil : data = [] := List.eq_nil_of_length_eq_zero (by simp only [tqIoChunk] at hchunks; omega)
    subst hnil
    simp only [tqTapStreamData, List.append_nil, List.nil_append, List.length_nil, Nat.add_zero,
      List.take_append_drop]
  | succ chunks ih =>
    simp only [tqIoChunk] at hchunks
    obtain ⟨n, hn⟩ : ∃ n, n = min (dataLen - offset) tqIoChunk := ⟨_, rfl⟩
    have hpos : n ≠ 0 := by simp only [hn, tqIoChunk]; omega
    have hfull : min n (maxLen - offset) = n := by omega
    have htake : (data.take n).length = n := by
      rw [List.length_take, hlen]
      omega
    have hread := tqTapFread_stand u left (data.drop n ++ right) _ htake
    rw [← List.append_assoc, List.take_append_drop] at hread
    obtain ⟨buf', hbuf'⟩ : ∃ buf', buf' = buf.take offset ++ data.take n ++ buf.drop (offset + n) := ⟨_, rfl⟩
    have hfront : (buf.take offset ++ data.take n).length = offset + n := by
      rw [List.length_append, List.length_take, htake]
      omega
    have hlen' : buf'.length = buf.length := by
      rw [hbuf', List.length_append, hfront, List.length_drop]
      omega
    have htakeBuf : buf'.take (offset + n) = buf.take offset ++ data.take n := by
      rw [hbuf', ← hfront, List.take_left]
    have hdropBuf : ∀ m, buf'.drop (offset + n + m) = buf.drop (offset + n + m) := by
      intro m
      rw [hbuf', ← List.drop_drop, ← hfront, List.drop_left, List.drop_drop]
    have hrest : (data.drop n).length = dataLen - (offset + n) := by
      rw [List.length_drop, hlen]
      omega
    have hih := ih (left ++ data.take n) (offset + n) buf' (data.drop n) hrest
      (by rw [hrest]; simp only [tqIoChunk] at hn ⊢; omega) (by omega) (by omega)
    simp only [tqTapStreamData, ← hn, hread, hfull, hpos, ne_eq, not_false_eq_true, and_self, if_true,
      tqTapBufferSink, List.take_take, Nat.min_self, htake, ← hbuf', hih]
    have hend : offset + n + (data.drop n).length = offset + data.length := by
      rw [hrest]
      omega
    rw [htakeBuf, hdropBuf, hend]
    simp only [List.append_assoc]
    rw [← List.append_assoc (data.take n), List.take_append_drop]

theorem tqTapReadBody_stand {σ : Type} (r : TapRecord) (maxLen : Nat) (sink : Option (TqTapSink σ)) (s : σ)
    {rc : Int} {s' : σ}
    (hdata : tqTapStreamData sink maxLen r.data.length ((r.data.length + 255) / tqIoChunk) 0 0 s
        (u.stand (left ++ le32 r.len) (r.data ++ (tqTapPad r.len ++ le32 r.len ++ right))) =
      (true, rc, s', u.stand (left ++ le32 r.len ++ r.data) (tqTapPad r.len ++ le32 r.len ++ right))) :
    tqTapReadBody maxLen sink s r.len
        (u.stand (left ++ le32 r.len) (r.data ++ (tqTapPad r.len ++ le32 r.len ++ right))) =
      ⟨.ok, r.data.length, min r.data.length maxLen, rc, s', u.stand (left ++ r.encode) right⟩ := by
  have hpad := tqTapFread_stand u (left ++ le32 r.len ++ r.data) (le32 r.len ++ right)
    (tqTapPad r.len) (n := (tqTapPadded r.len).toNat - r.data.length)
    (by rw [tqTapPad, List.length_replicate, r.len_toNat])
  have htrailer := tqTapReadU32_stand u (left ++ le32 r.len ++ r.data ++ tqTapPad r.len) right r.len
  simp only [← List.append_assoc] at hdata hpad htrailer ⊢
  simp only [tqTapReadBody, TapRecord.len_toNat, hdata, hpad, htrailer, TapRecord.encode, ← List.append_assoc]
  exact if_neg fun h => h rfl

/-- A forward motion passes the object ahead. -/
theorem tqTapReadForwardStream_stand {σ : Type} (o : TapObject) (maxLen : Nat) (sink : Option (TqTapSink σ))
    (s : σ) : ∃ rc s', tqTapReadForwardStream maxLen sink s (u.stand left (o.encode ++ right)) =
      ⟨o.status, o.data.length, min o.data.length maxLen, rc, s', u.stand (left ++ o.encode) right⟩ := by
  cases o with
  | mark =>
    refine ⟨0, s, ?_⟩
    simp only [tqTapReadForwardStream, TapObject.encode, tqTapReadU32_stand, if_true]
    simp [TapObject.status, TapObject.data]
  | record r =>
    obtain ⟨rc, s', hdata⟩ := tqTapStreamData_stand u (left ++ le32 r.len) (tqTapPad r.len ++ le32 r.len ++ right)
      sink maxLen r.data.length ((r.data.length + 255) / tqIoChunk) 0 0 s r.data rfl rfl
    refine ⟨rc, s', ?_⟩
    have hbody := tqTapReadBody_stand u left right r maxLen sink s hdata
    have hword := tqTapReadU32_stand u left (r.data ++ (tqTapPad r.len ++ le32 r.len ++ right)) r.len
    have hsplit : (TapObject.record r).encode ++ right =
        le32 r.len ++ (r.data ++ (tqTapPad r.len ++ le32 r.len ++ right)) := by
      simp only [TapObject.encode, TapRecord.encode, List.append_assoc]
    rw [hsplit]
    simp only [tqTapReadForwardStream, hword, if_neg r.len_ne_mark, if_neg r.len_valid, hbody]
    rfl

/-- A buffer with room for the object holds its data in front. -/
theorem tqTapReadForward_buffer (o : TapObject) (buf : List Byte) (hbuf : o.data.length ≤ buf.length) :
    tqTapReadForward (some buf) buf.length (u.stand left (o.encode ++ right)) =
      ⟨o.status, o.data.length, o.data.length, 0, o.data ++ buf.drop o.data.length,
        u.stand (left ++ o.encode) right⟩ := by
  cases o with
  | mark =>
    simp only [tqTapReadForward, tqTapReadForwardStream, TapObject.encode, tqTapReadU32_stand, if_true]
    rfl
  | record r =>
    have hmin : min r.data.length buf.length = r.data.length := Nat.min_eq_left hbuf
    have hdata := tqTapStreamData_buffer u (left ++ le32 r.len) (tqTapPad r.len ++ le32 r.len ++ right)
      buf.length r.data.length ((r.data.length + 255) / tqIoChunk) 0 buf r.data rfl rfl hbuf hbuf (Nat.zero_le _)
    have hbody := tqTapReadBody_stand u left right r buf.length _ buf hdata
    have hword := tqTapReadU32_stand u left (r.data ++ (tqTapPad r.len ++ le32 r.len ++ right)) r.len
    have hsplit : (TapObject.record r).encode ++ right =
        le32 r.len ++ (r.data ++ (tqTapPad r.len ++ le32 r.len ++ right)) := by
      simp only [TapObject.encode, TapRecord.encode, List.append_assoc]
    rw [hsplit]
    simp only [tqTapReadForward, Option.map_some, Option.getD_some, tqTapReadForwardStream, hword,
      if_neg r.len_ne_mark, if_neg r.len_valid, hbody, hmin, List.take_zero, List.nil_append,
      Nat.zero_add]
    rfl

/-- At the end of the image a forward motion leaves the unit where it is. -/
theorem tqTapReadForwardStream_end {σ : Type} (maxLen : Nat) (sink : Option (TqTapSink σ)) (s : σ) :
    tqTapReadForwardStream maxLen sink s (u.stand left []) = ⟨.eomStatus, 0, 0, 0, s, u.stand left []⟩ := by
  have hread : tqTapFread 4 (u.stand left []) = (none, u.stand left []) := by
    have hend := ByteFile.read_end (f := (⟨left ++ [], left.length⟩ : ByteFile Byte)) (by simp) 4
    simp only [tqTapFread, TqUnit.stand_fp, hend]
    simp [TqUnit.stand]
  simp only [tqTapReadForwardStream, tqTapReadU32, hread, Option.map_none]

/-! ## Looking back -/

theorem ofNat_toNat_of_lt {n : Nat} (h : n < 2 ^ 32) : (BitVec.ofNat 32 n).toNat = n :=
  BitVec.toNat_ofNat .. ▸ Nat.mod_eq_of_lt h

theorem ofNat_add_sub (m n : Nat) : BitVec.ofNat 32 (m + n) - BitVec.ofNat 32 n = BitVec.ofNat 32 m := by
  rw [BitVec.ofNat_add, BitVec.add_sub_cancel]

theorem tqTapPeekObject_stand (o : TapObject) (hpos : (left ++ o.encode).length < 2 ^ 32) :
    ∃ mark, tqTapPeekObject o.trailer (u.stand (left ++ o.encode) right) =
      ⟨o.status, mark, BitVec.ofNat 32 left.length, o.data.length, u.stand (left ++ o.encode) right⟩ := by
  have hposNat := ofNat_toNat_of_lt hpos
  have hseek := tqTapSeek_stand u (left ++ o.encode) right rfl hposNat
  cases o with
  | mark =>
    have hstart : BitVec.ofNat 32 (left ++ TapObject.mark.encode).length - 4 = BitVec.ofNat 32 left.length := by
      rw [List.length_append]
      exact ofNat_add_sub left.length 4
    refine ⟨tqTapTmk, ?_⟩
    simp only [tqTapPeekObject, TapObject.trailer, if_true, TqUnit.stand_tapePos, hseek, hstart]
    rfl
  | record r =>
    have hlength : (left ++ (TapObject.record r).encode).length =
        left.length + (8 + (r.data.length + 1) / 2 * 2) := by
      rw [List.length_append, TapObject.encode, r.encode_length]
    have hroom : ¬ BitVec.ofNat 32 (left ++ (TapObject.record r).encode).length < 8 + tqTapPadded r.len := by
      rw [BitVec.lt_def, BitVec.toNat_add, tqTapPadded_toNat r.len_le, r.len_toNat, hposNat, hlength]
      exact Nat.not_lt.2 (Nat.le_trans (Nat.mod_le _ _) (Nat.le_add_left _ _))
    have hstart : BitVec.ofNat 32 (left ++ (TapObject.record r).encode).length - 4 - tqTapPadded r.len - 4 =
        BitVec.ofNat 32 left.length := by
      apply BitVec.eq_of_toNat_eq
      rw [(recordStart_toNat r.len_le hroom).2, r.len_toNat, hposNat, ofNat_toNat_of_lt (by omega), hlength,
        Nat.add_sub_cancel]
    refine ⟨r.len, ?_⟩
    simp only [tqTapPeekObject, TapObject.trailer, if_neg r.len_ne_mark, if_neg r.len_valid,
      TqUnit.stand_tapePos, if_neg hroom, hseek, hstart, r.len_toNat]
    rfl

/-- The object behind the position is found, and the position kept. -/
theorem tqTapPeekPrev_stand (o : TapObject) (hpos : (left ++ o.encode).length < 2 ^ 32) :
    ∃ mark, tqTapPeekPrev (u.stand (left ++ o.encode) right) =
      ⟨o.status, mark, BitVec.ofNat 32 left.length, o.data.length, u.stand (left ++ o.encode) right⟩ := by
  obtain ⟨mark, hobject⟩ := tqTapPeekObject_stand u left right o hpos
  have hsplit : left ++ o.encode = left ++ o.front ++ le32 o.trailer := by
    rw [o.encode_eq, List.append_assoc]
  have hlength : (left ++ o.encode).length = (left ++ o.front).length + 4 := by
    rw [hsplit, List.length_append, le32]
    rfl
  have hword : BitVec.ofNat 32 (left ++ o.encode).length - 4 = BitVec.ofNat 32 (left ++ o.front).length := by
    rw [hlength]
    exact ofNat_add_sub _ 4
  have hback : ¬ BitVec.ofNat 32 (left ++ o.encode).length < 4 := by
    rw [BitVec.lt_def, ofNat_toNat_of_lt hpos, hlength]
    exact Nat.not_lt.2 (Nat.le_add_left _ _)
  have hseek := tqTapSeek_stand u (left ++ o.front) (le32 o.trailer ++ right) (x := left ++ o.encode) (y := right)
    (by rw [hsplit, List.append_assoc]) (ofNat_toNat_of_lt (n := (left ++ o.front).length) (by omega))
  have hread := tqTapReadU32_stand u (left ++ o.front) right o.trailer
  rw [← hsplit] at hread
  refine ⟨mark, ?_⟩
  unfold tqTapPeekPrev
  rw [if_neg (by simp), TqUnit.stand_tapePos, if_neg hback, hword, hseek]
  simp only [hread, hobject]

theorem tqTapPeekPrev_start : tqTapPeekPrev (u.stand [] right) = ⟨.bot, 0, 0, 0, u.stand [] right⟩ := rfl

/-! ## Writing -/

theorem tqTapWriteU32_stand (w : Dword) :
    tqTapWriteU32 w (u.stand left right) = u.stand (left ++ le32 w) (right.drop 4) :=
  tqTapFwrite_stand u left right (le32 w)

theorem tqTapWriteRecord_stand (r : TapRecord) (hwrite : u.readOnly = false) :
    tqTapWriteRecord r.data r.len (u.stand left right) =
      (.ok, u.stand (left ++ r.encode) (right.drop r.encode.length)) := by
  have hfits : ¬ r.len > tqTapMaxLen := BitVec.not_lt.2 r.len_le
  have hlen : r.encode.length = 4 + r.data.length + (tqTapPad r.len).length + 4 := by
    simp only [TapRecord.encode, List.length_append, le32, List.length_cons, List.length_nil]
  simp only [tqTapWriteRecord, TqUnit.stand_fp, Option.isNone_some, Bool.false_eq_true, if_false,
    TqUnit.stand_readOnly, hwrite, if_neg hfits, r.len_toNat, List.take_length, tqTapWriteU32_stand,
    tqTapFwrite_stand, List.drop_drop, hlen]
  simp only [TapRecord.encode, ← List.append_assoc]

/-- The record is fetched from host memory chunk by chunk. -/
theorem tqTapWriteChunks_stand {σ : Type} (dma : Dma σ) (s : σ) (addr : Dword) (len chunks offset : Nat)
    {data : List Byte}
    (hdata : dma.readBytes s (addr + BitVec.ofNat 32 offset) (len - offset) = some data)
    (hchunks : chunks = (len - offset + 255) / tqIoChunk) :
    tqTapWriteChunks dma s addr len chunks offset (u.stand left right) =
      (true, u.stand (left ++ data) (right.drop data.length)) := by
  have hlen := dma.readBytes_length hdata
  induction chunks generalizing offset left right data with
  | zero =>
    have hnil : data = [] := List.eq_nil_of_length_eq_zero (by simp only [tqIoChunk] at hchunks; omega)
    subst hnil
    simp only [tqTapWriteChunks, List.append_nil, List.length_nil, List.drop_zero]
  | succ chunks ih =>
    simp only [tqIoChunk] at hchunks
    have hparts : len - offset =
        min (len - offset) tqIoChunk + (len - (offset + min (len - offset) tqIoChunk)) := by omega
    rw [hparts, dma.readBytes_append] at hdata
    simp only [Option.bind_eq_some_iff, Option.map_eq_some_iff] at hdata
    obtain ⟨chunk, hchunk, rest, hrest, rfl⟩ := hdata
    rw [BitVec.add_assoc, ← BitVec.ofNat_add] at hrest
    simp only [tqTapWriteChunks, hchunk, tqTapFwrite_stand]
    rw [ih _ _ _ hrest (by simp only [tqIoChunk]; omega) (dma.readBytes_length hrest)]
    simp only [List.append_assoc, List.drop_drop, List.length_append]

theorem tqTapWriteRecordDma_stand {σ : Type} (dma : Dma σ) (s : σ) (addr : Dword) (r : TapRecord)
    (hwrite : u.readOnly = false) (hdata : dma.readBytes s addr r.data.length = some r.data) :
    tqTapWriteRecordDma dma s addr r.len (u.stand left right) =
      (.ok, false, u.stand (left ++ r.encode) (right.drop r.encode.length)) := by
  have hfits : ¬ r.len > tqTapMaxLen := BitVec.not_lt.2 r.len_le
  have hreadable : dma.readableRange s addr r.data.length = true := by rw [dma.readableRange_eq, hdata]; rfl
  have hlen : r.encode.length = 4 + r.data.length + (tqTapPad r.len).length + 4 := by
    simp only [TapRecord.encode, List.length_append, le32, List.length_cons, List.length_nil]
  have hchunks := tqTapWriteChunks_stand u (left ++ le32 r.len) (right.drop 4) dma s addr r.data.length
    ((r.data.length + 255) / tqIoChunk) 0 (by rw [BitVec.add_zero]; exact hdata) rfl
  simp only [tqTapWriteRecordDma, TqUnit.stand_fp, Option.isNone_some, Bool.false_eq_true, if_false,
    TqUnit.stand_readOnly, hwrite, if_neg hfits, r.len_toNat, hreadable, Bool.not_true, tqTapWriteU32_stand,
    hchunks, tqTapFwrite_stand, List.drop_drop, hlen]
  simp only [TapRecord.encode, ← List.append_assoc]

theorem tqTapWriteMark_stand (hwrite : u.readOnly = false) :
    tqTapWriteMark (u.stand left right) =
      (.ok, u.stand (left ++ TapObject.mark.encode) (right.drop TapObject.mark.encode.length)) := by
  simp only [tqTapWriteMark, TqUnit.stand_fp, Option.isNone_some, Bool.false_eq_true, if_false,
    TqUnit.stand_readOnly, hwrite, tqTapWriteU32_stand, TapObject.encode]
  rfl

/-! ## Spacing -/

theorem tqTapRewind_stand : tqTapRewind (u.stand left right) = (.ok, u.stand [] (left ++ right)) := rfl

theorem tqTapSpaceForwardRecords_one (o : TapObject) :
    tqTapSpaceForwardRecords 1 (u.stand left (o.encode ++ right)) =
      (o.status, o.records, u.stand (left ++ o.encode) right) := by
  obtain ⟨rc, s', hread⟩ := tqTapReadForwardStream_stand u left right o 0 none ([] : List Byte)
  have hforward : tqTapReadForward none 0 (u.stand left (o.encode ++ right)) = _ := hread
  simp only [tqTapSpaceForwardRecords, hforward]
  cases o <;> rfl

theorem tqTapSpaceReverseRecords_one (o : TapObject) (hpos : (left ++ o.encode).length < 2 ^ 32) :
    tqTapSpaceReverseRecords 1 (u.stand (left ++ o.encode) right) =
      (o.status, o.records, u.stand left (o.encode ++ right)) := by
  obtain ⟨mark, hpeek⟩ := tqTapPeekPrev_stand u left right o hpos
  have hseek := tqTapSeek_stand u left (o.encode ++ right) (x := left ++ o.encode) (y := right)
    (List.append_assoc ..) (ofNat_toNat_of_lt (n := left.length) (by rw [List.length_append] at hpos; omega))
  simp only [tqTapSpaceReverseRecords, tqTapSpaceReverseRecords.loop, hpeek]
  cases o <;> simp only [TapObject.status, hseek] <;> rfl

theorem tqTapSpaceForwardRecords_records (rs : List TapRecord) :
    tqTapSpaceForwardRecords rs.length
        (u.stand left (TapObject.encodeAll (rs.map TapObject.record) ++ right)) =
      (.ok, rs.length, u.stand (left ++ TapObject.encodeAll (rs.map TapObject.record)) right) := by
  induction rs generalizing left with
  | nil => simp only [List.length_nil, tqTapSpaceForwardRecords, List.map_nil, TapObject.encodeAll_nil,
      List.nil_append, List.append_nil]
  | cons r rs ih =>
    obtain ⟨rc, s', hread⟩ := tqTapReadForwardStream_stand u left
      (TapObject.encodeAll (rs.map TapObject.record) ++ right) (.record r) 0 none ([] : List Byte)
    have hforward : tqTapReadForward none 0 (u.stand left _) = _ := hread
    have hrest := ih (left ++ (TapObject.record r).encode)
    simp only [List.length_cons, List.map_cons, TapObject.encodeAll_cons, List.append_assoc,
      tqTapSpaceForwardRecords] at hrest ⊢
    simp only [hforward, TapObject.status, if_true, hrest]

theorem tqTapSpaceReverseRecords_loop_records (rs : List TapRecord) (done : Nat)
    (hpos : (left ++ TapObject.encodeAll (rs.map TapObject.record)).length < 2 ^ 32) :
    tqTapSpaceReverseRecords.loop done rs.length
        (u.stand (left ++ TapObject.encodeAll (rs.map TapObject.record)) right) =
      (.ok, done + rs.length, u.stand left (TapObject.encodeAll (rs.map TapObject.record) ++ right)) := by
  induction rs using List.reverseRecOn generalizing right done with
  | nil => simp only [List.length_nil, tqTapSpaceReverseRecords.loop, List.map_nil, TapObject.encodeAll_nil,
      List.nil_append, List.append_nil, Nat.add_zero]
  | append_singleton rs r ih =>
    simp only [List.map_append, List.map_cons, List.map_nil, TapObject.encodeAll_append, TapObject.encodeAll_cons,
      TapObject.encodeAll_nil, List.append_nil, ← List.append_assoc] at hpos ⊢
    obtain ⟨mark, hpeek⟩ := tqTapPeekPrev_stand u (left ++ TapObject.encodeAll (rs.map TapObject.record)) right
      (.record r) hpos
    rw [List.length_append] at hpos
    have hseek := tqTapSeek_stand u (left ++ TapObject.encodeAll (rs.map TapObject.record))
      ((TapObject.record r).encode ++ right) (List.append_assoc ..)
      (ofNat_toNat_of_lt (n := (left ++ TapObject.encodeAll (rs.map TapObject.record)).length) (by omega))
    have hrest := ih ((TapObject.record r).encode ++ right) (done + 1) (by omega)
    rw [List.length_append, List.length_singleton, tqTapSpaceReverseRecords.loop]
    simp only [hpeek, TapObject.status, hseek, hrest]
    rw [Nat.add_assoc done, Nat.add_comm 1, List.append_assoc]

theorem tqTapSpaceReverseRecords_records (rs : List TapRecord)
    (hpos : (left ++ TapObject.encodeAll (rs.map TapObject.record)).length < 2 ^ 32) :
    tqTapSpaceReverseRecords rs.length
        (u.stand (left ++ TapObject.encodeAll (rs.map TapObject.record)) right) =
      (.ok, rs.length, u.stand left (TapObject.encodeAll (rs.map TapObject.record) ++ right)) := by
  rw [tqTapSpaceReverseRecords, tqTapSpaceReverseRecords_loop_records u left right rs 0 hpos, Nat.zero_add]

theorem tqTapSpaceForwardMarks_loop_marks (n marks : Nat) :
    tqTapSpaceForwardMarks.loop (marks + n) marks
        (u.stand left (TapObject.encodeAll (List.replicate n TapObject.mark) ++ right)) =
      (.ok, marks + n, u.stand (left ++ TapObject.encodeAll (List.replicate n TapObject.mark)) right) := by
  induction n generalizing left marks with
  | zero =>
    rw [tqTapSpaceForwardMarks.loop, Nat.add_zero, if_neg (Nat.lt_irrefl _), List.replicate_zero, TapObject.encodeAll_nil,
      List.append_nil, List.nil_append]
  | succ n ih =>
    obtain ⟨rc, s', hread⟩ := tqTapReadForwardStream_stand u left
      (TapObject.encodeAll (List.replicate n TapObject.mark) ++ right) .mark 0 none ([] : List Byte)
    have hforward : tqTapReadForward none 0 (u.stand left _) = _ := hread
    have hrest := ih (left ++ TapObject.mark.encode) (marks + 1)
    rw [Nat.add_right_comm, Nat.add_assoc] at hrest
    rw [tqTapSpaceForwardMarks.loop, if_pos (by omega), List.replicate_succ, TapObject.encodeAll_cons,
      List.append_assoc, hforward]
    simp only [TapObject.status, reduceCtorEq, dite_true, dite_false, hrest, List.append_assoc]

theorem tqTapSpaceForwardMarks_marks (n : Nat) :
    tqTapSpaceForwardMarks n
        (u.stand left (TapObject.encodeAll (List.replicate n TapObject.mark) ++ right)) =
      (.ok, n, u.stand (left ++ TapObject.encodeAll (List.replicate n TapObject.mark)) right) := by
  have h := tqTapSpaceForwardMarks_loop_marks u left right n 0
  rw [Nat.zero_add] at h
  exact h

theorem tqTapSpaceReverseMarks_loop_marks (n done : Nat)
    (hpos : (left ++ TapObject.encodeAll (List.replicate n TapObject.mark)).length < 2 ^ 32) :
    tqTapSpaceReverseMarks.loop (done + n) done
        (u.stand (left ++ TapObject.encodeAll (List.replicate n TapObject.mark)) right) =
      (.ok, done + n, u.stand left (TapObject.encodeAll (List.replicate n TapObject.mark) ++ right)) := by
  induction n generalizing right done with
  | zero =>
    rw [tqTapSpaceReverseMarks.loop, Nat.add_zero, if_neg (Nat.lt_irrefl _), List.replicate_zero, TapObject.encodeAll_nil,
      List.append_nil, List.nil_append]
  | succ n ih =>
    have hsplit : TapObject.encodeAll (List.replicate (n + 1) TapObject.mark) =
        TapObject.encodeAll (List.replicate n TapObject.mark) ++ TapObject.mark.encode := by
      rw [List.replicate_succ', TapObject.encodeAll_append, TapObject.encodeAll_cons, TapObject.encodeAll_nil,
        List.append_nil]
    rw [hsplit, ← List.append_assoc] at hpos ⊢
    obtain ⟨mark, hpeek⟩ := tqTapPeekPrev_stand u (left ++ TapObject.encodeAll (List.replicate n TapObject.mark))
      right .mark hpos
    rw [List.length_append] at hpos
    have hseek := tqTapSeek_stand u (left ++ TapObject.encodeAll (List.replicate n TapObject.mark))
      (TapObject.mark.encode ++ right) (List.append_assoc ..)
      (ofNat_toNat_of_lt (n := (left ++ TapObject.encodeAll (List.replicate n TapObject.mark)).length) (by omega))
    have hrest := ih (TapObject.mark.encode ++ right) (done + 1) (by omega)
    rw [Nat.add_right_comm, Nat.add_assoc] at hrest
    rw [tqTapSpaceReverseMarks.loop, if_pos (by omega)]
    simp only [hpeek, TapObject.status, reduceCtorEq, dite_true, dite_false]
    split
    · rename_i hnone
      rw [hpeek, hseek] at hnone
      cases hnone
    · rename_i u' hsome
      rw [hpeek, hseek] at hsome
      cases hsome
      rw [hrest, List.append_assoc]

theorem tqTapSpaceReverseMarks_marks (n : Nat)
    (hpos : (left ++ TapObject.encodeAll (List.replicate n TapObject.mark)).length < 2 ^ 32) :
    tqTapSpaceReverseMarks n
        (u.stand (left ++ TapObject.encodeAll (List.replicate n TapObject.mark)) right) =
      (.ok, n, u.stand left (TapObject.encodeAll (List.replicate n TapObject.mark) ++ right)) := by
  have h := tqTapSpaceReverseMarks_loop_marks u left right n 0 hpos
  rw [Nat.zero_add] at h
  exact h

end Stand

end K1801.Lsi11
