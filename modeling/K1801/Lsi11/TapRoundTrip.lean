import Mathlib.Data.List.Induction
import K1801.Lsi11.TapObjects

/-! # Reading back what was written

The driver never shortens an image. What it reads behind the objects it wrote is the end of the recorded data
only where the image held nothing more. Behind four gigabytes `tapePos` wraps, and reverse motion with it.
-/

namespace K1801.Lsi11

open Core Library TapObject

section

variable {σ : Type} (dma : Dma σ)

/-- A run of the routines that write, with the objects they wrote. -/
inductive TapWritten : TqUnit → List TapObject → TqUnit → Prop
  | none (u : TqUnit) : TapWritten u [] u
  | record {u u₁ u₂ : TqUnit} {r : TapRecord} {os : List TapObject}
      (hwrite : tqTapWriteRecord r.data r.len u = (.ok, u₁)) (hrest : TapWritten u₁ os u₂) :
      TapWritten u (.record r :: os) u₂
  | recordDma {u u₁ u₂ : TqUnit} {s : σ} {addr : Dword} {r : TapRecord} {os : List TapObject}
      (hmemory : dma.readBytes s addr r.data.length = some r.data)
      (hwrite : tqTapWriteRecordDma dma s addr r.len u = (.ok, false, u₁)) (hrest : TapWritten u₁ os u₂) :
      TapWritten u (.record r :: os) u₂
  | mark {u u₁ u₂ : TqUnit} {os : List TapObject} (hwrite : tqTapWriteMark u = (.ok, u₁))
      (hrest : TapWritten u₁ os u₂) : TapWritten u (.mark :: os) u₂

/-- Forward motion `n` times into one buffer: what each answers and delivers. -/
def tapReadObjects (buf : List Byte) : Nat → TqUnit → List (TqTapStatus × List Byte) × TqUnit
  | 0, u => ([], u)
  | n + 1, u =>
    let r := tqTapReadForward (some buf) buf.length u
    let (rest, u) := tapReadObjects buf n r.unit
    ((r.status, r.sink.take r.xferLen) :: rest, u)

/-- A motion over one object `n` times. -/
def tapSpaceObjects (space : TqUnit → TqTapStatus × Nat × TqUnit) : Nat → TqUnit → List TqTapStatus × TqUnit
  | 0, u => ([], u)
  | n + 1, u =>
    let (st, _, u) := space u
    let (rest, u) := tapSpaceObjects space n u
    (st :: rest, u)

/-- The tape behind the `n`th object from the beginning. -/
def tapBoundary (buf : List Byte) (n : Nat) (u : TqUnit) : TqUnit := (tapReadObjects buf n (tqTapRewind u).2).2

/-- What was written from `u` on is read back, then the end of the recorded data; from any boundary, spacing
over objects one way and back the other returns to it. -/
structure TapRoundTrips (u : TqUnit) (os : List TapObject) (buf : List Byte) : Prop where
  written : ∃ u', TapWritten dma u os u'
  readBack : ∀ u', TapWritten dma u os u' →
    (tapReadObjects buf os.length (tqTapRewind u').2).1 = os.map fun o => (o.status, o.data)
  ends : ∀ u', TapWritten dma u os u' →
    (tqTapReadForward (some buf) buf.length (tapBoundary buf os.length u')).status = .eomStatus
  spaced : ∀ u', TapWritten dma u os u' → ∀ before passed after, os = before ++ passed ++ after →
    tapSpaceObjects (tqTapSpaceForwardRecords 1) passed.length (tapBoundary buf before.length u') =
        (passed.map status, tapBoundary buf (before ++ passed).length u') ∧
      tapSpaceObjects (tqTapSpaceReverseRecords 1) passed.length
          (tapBoundary buf (before ++ passed).length u') =
        ((passed.map status).reverse, tapBoundary buf before.length u')
  records : ∀ u', TapWritten dma u os u' → ∀ (before : List TapObject) (rs : List TapRecord) after,
      os = before ++ rs.map record ++ after →
    tqTapSpaceForwardRecords rs.length (tapBoundary buf before.length u') =
        (.ok, rs.length, tapBoundary buf (before ++ rs.map record).length u') ∧
      tqTapSpaceReverseRecords rs.length (tapBoundary buf (before ++ rs.map record).length u') =
        (.ok, rs.length, tapBoundary buf before.length u')
  marks : ∀ u', TapWritten dma u os u' → ∀ before n after, os = before ++ List.replicate n mark ++ after →
    tqTapSpaceForwardMarks n (tapBoundary buf before.length u') =
        (.ok, n, tapBoundary buf (before ++ List.replicate n mark).length u') ∧
      tqTapSpaceReverseMarks n (tapBoundary buf (before ++ List.replicate n mark).length u') =
        (.ok, n, tapBoundary buf before.length u')

/-! ## Step and run lemmas -/

theorem tapWritten_stand {u u' : TqUnit} {os : List TapObject} {left right : List Byte}
    (hwrite : u.readOnly = false) (h : TapWritten dma (u.stand left right) os u') :
    u' = u.stand (left ++ encodeAll os) (right.drop (encodeAll os).length) := by
  generalize hu₀ : u.stand left right = u₀ at h
  induction h generalizing left right with
  | none =>
    subst hu₀
    simp only [encodeAll_nil, List.append_nil, List.length_nil, List.drop_zero]
  | @record _ _ _ r os hrecord _ ih =>
    subst hu₀
    rw [tqTapWriteRecord_stand u left right r hwrite] at hrecord
    cases hrecord
    rw [ih rfl, encodeAll_cons, List.append_assoc, List.drop_drop, List.length_append]
    rfl
  | @recordDma _ _ _ s addr r os hmemory hrecord _ ih =>
    subst hu₀
    rw [tqTapWriteRecordDma_stand u left right dma s addr r hwrite hmemory] at hrecord
    cases hrecord
    rw [ih rfl, encodeAll_cons, List.append_assoc, List.drop_drop, List.length_append]
    rfl
  | mark hmark _ ih =>
    subst hu₀
    rw [tqTapWriteMark_stand u left right hwrite] at hmark
    cases hmark
    rw [ih rfl, encodeAll_cons, List.append_assoc, List.drop_drop, List.length_append]

theorem tapWritten_exists (u : TqUnit) (os : List TapObject) (left right : List Byte)
    (hwrite : u.readOnly = false) : ∃ u', TapWritten dma (u.stand left right) os u' := by
  induction os generalizing left right with
  | nil => exact ⟨_, .none _⟩
  | cons o os ih =>
    obtain ⟨u', hrest⟩ := ih (left ++ o.encode) (right.drop o.encode.length)
    cases o with
    | record r => exact ⟨u', .record (tqTapWriteRecord_stand u left right r hwrite) hrest⟩
    | mark => exact ⟨u', .mark (tqTapWriteMark_stand u left right hwrite) hrest⟩

theorem tapReadObjects_stand (u : TqUnit) (os : List TapObject) (buf left right : List Byte)
    (hbuf : ∀ o ∈ os, o.data.length ≤ buf.length) :
    tapReadObjects buf os.length (u.stand left (encodeAll os ++ right)) =
      (os.map fun o => (o.status, o.data), u.stand (left ++ encodeAll os) right) := by
  induction os generalizing left with
  | nil => simp only [List.length_nil, tapReadObjects, encodeAll_nil, List.nil_append, List.append_nil,
      List.map_nil]
  | cons o os ih =>
    have hread := tqTapReadForward_buffer u left (encodeAll os ++ right) o buf (hbuf o (List.mem_cons_self ..))
    have hrest := ih (left ++ o.encode) fun o' ho' => hbuf o' (List.mem_cons_of_mem _ ho')
    simp only [List.length_cons, tapReadObjects, encodeAll_cons, List.append_assoc] at hrest ⊢
    simp only [hread, hrest, List.take_left, List.map_cons]

theorem tapSpaceObjects_forward (u : TqUnit) (os : List TapObject) (left right : List Byte) :
    tapSpaceObjects (tqTapSpaceForwardRecords 1) os.length (u.stand left (encodeAll os ++ right)) =
      (os.map status, u.stand (left ++ encodeAll os) right) := by
  induction os generalizing left with
  | nil => simp only [List.length_nil, tapSpaceObjects, encodeAll_nil, List.nil_append, List.append_nil,
      List.map_nil]
  | cons o os ih =>
    have hone := tqTapSpaceForwardRecords_one u left (encodeAll os ++ right) o
    have hrest := ih (left ++ o.encode)
    simp only [List.length_cons, tapSpaceObjects, encodeAll_cons, List.append_assoc] at hrest ⊢
    simp only [hone, hrest, List.map_cons]

theorem tapSpaceObjects_reverse (u : TqUnit) (os : List TapObject) (left right : List Byte)
    (hpos : (left ++ encodeAll os).length < 2 ^ 32) :
    tapSpaceObjects (tqTapSpaceReverseRecords 1) os.length (u.stand (left ++ encodeAll os) right) =
      ((os.map status).reverse, u.stand left (encodeAll os ++ right)) := by
  induction os using List.reverseRecOn generalizing right with
  | nil => simp only [List.length_nil, tapSpaceObjects, encodeAll_nil, List.nil_append, List.append_nil,
      List.map_nil, List.reverse_nil]
  | append_singleton os o ih =>
    rw [encodeAll_append, encodeAll_cons, encodeAll_nil, List.append_nil] at hpos ⊢
    rw [← List.append_assoc] at hpos ⊢
    have hone := tqTapSpaceReverseRecords_one u (left ++ encodeAll os) right o hpos
    have hrest := ih (o.encode ++ right) (by rw [List.length_append] at hpos; omega)
    simp only [List.length_append, List.length_cons, List.length_nil, Nat.zero_add, tapSpaceObjects, hone, hrest]
    simp only [List.map_append, List.map_cons, List.map_nil, List.reverse_append, List.reverse_cons,
      List.reverse_nil, List.nil_append, List.cons_append, List.append_assoc]

end

theorem tapBoundary_stand (u : TqUnit) (before rest : List TapObject) (buf right : List Byte)
    (hbuf : ∀ o ∈ before, o.data.length ≤ buf.length) :
    tapBoundary buf before.length (u.stand (encodeAll (before ++ rest)) right) =
      u.stand (encodeAll before) (encodeAll rest ++ right) := by
  rw [tapBoundary, tqTapRewind_stand, encodeAll_append, List.append_assoc,
    tapReadObjects_stand u before buf [] _ hbuf, List.nil_append]

/-- A unit at the beginning of its tape. -/
structure TqUnit.AtStart (u : TqUnit) (image : List Byte) : Prop where
  fp : u.fp = some ⟨image, 0⟩
  tapePos : u.tapePos = 0
  writable : u.readOnly = false

theorem TqUnit.AtStart.stand_eq {u : TqUnit} {image : List Byte} (h : u.AtStart image) : u = u.stand [] image := by
  obtain ⟨fp, readOnly, online, swWriteProtect, unaPending, tapePos⟩ := u
  obtain ⟨rfl, rfl, -⟩ := h
  rfl

/-- What is written over an image that holds nothing beyond it, on less than four gigabytes, makes the round
trip. -/
theorem tapRoundTrips {σ : Type} (dma : Dma σ) {u : TqUnit} {image buf : List Byte} {os : List TapObject}
    (hstart : u.AtStart image) (hover : image.length ≤ (encodeAll os).length)
    (hsize : (encodeAll os).length < 2 ^ 32) (hbuf : ∀ o ∈ os, o.data.length ≤ buf.length) :
    TapRoundTrips dma u os buf := by
  have hu := hstart.stand_eq
  have hwritten : ∀ u', TapWritten dma u os u' → u' = u.stand (encodeAll os) [] := by
    intro u' h
    rw [hu] at h
    rw [tapWritten_stand dma hstart.writable h, List.drop_eq_nil_of_le hover, List.nil_append]
  have hrewind : (tqTapRewind (u.stand (encodeAll os) [])).2 = u.stand [] (encodeAll os) := by
    rw [tqTapRewind_stand, List.append_nil]
  have hboundary : ∀ before rest, os = before ++ rest → ∀ u', TapWritten dma u os u' →
      tapBoundary buf before.length u' = u.stand (encodeAll before) (encodeAll rest) := by
    rintro before rest hos u' h
    rw [hwritten u' h, hos,
      tapBoundary_stand u before rest buf [] fun o ho => hbuf o (hos ▸ List.mem_append_left _ ho),
      List.append_nil]
  have hspan : ∀ before passed after, os = before ++ passed ++ after → ∀ u', TapWritten dma u os u' →
      tapBoundary buf before.length u' = u.stand (encodeAll before) (encodeAll passed ++ encodeAll after) ∧
        tapBoundary buf (before ++ passed).length u' =
          u.stand (encodeAll before ++ encodeAll passed) (encodeAll after) ∧
        (encodeAll before ++ encodeAll passed).length < 2 ^ 32 := by
    rintro before passed after hos u' h
    have hassoc : os = before ++ (passed ++ after) := by rw [hos, List.append_assoc]
    rw [hboundary before (passed ++ after) hassoc u' h, hboundary (before ++ passed) after hos u' h,
      encodeAll_append, encodeAll_append]
    refine ⟨rfl, rfl, ?_⟩
    rw [hos, encodeAll_append, encodeAll_append, List.length_append] at hsize
    omega
  constructor
  · rw [hu]
    exact tapWritten_exists dma u os [] image hstart.writable
  · intro u' h
    have hread := tapReadObjects_stand u os buf [] [] hbuf
    rw [List.append_nil] at hread
    rw [hwritten u' h, hrewind, hread]
  · intro u' h
    rw [hboundary os [] (List.append_nil os).symm u' h]
    exact congrArg TqTapRead.status (tqTapReadForwardStream_end u (encodeAll os) buf.length _ _)
  · rintro u' h before passed after hos
    obtain ⟨hfrom, hto, hpos⟩ := hspan before passed after hos u' h
    rw [hfrom, hto]
    exact ⟨tapSpaceObjects_forward u passed _ _, tapSpaceObjects_reverse u passed _ _ hpos⟩
  · rintro u' h before rs after hos
    obtain ⟨hfrom, hto, hpos⟩ := hspan before (rs.map record) after hos u' h
    rw [hfrom, hto]
    exact ⟨tqTapSpaceForwardRecords_records u _ _ rs, tqTapSpaceReverseRecords_records u _ _ rs hpos⟩
  · rintro u' h before n after hos
    obtain ⟨hfrom, hto, hpos⟩ := hspan before (List.replicate n mark) after hos u' h
    rw [hfrom, hto]
    exact ⟨tqTapSpaceForwardMarks_marks u _ _ n, tqTapSpaceReverseMarks_marks u _ _ n hpos⟩

/-! ## Where the round trip breaks -/

/-- A writable unit at the beginning of `image`. -/
def loadedUnit (image : List Byte) : TqUnit := ⟨some ⟨image, 0⟩, false, true, false, false, 0⟩

theorem loadedUnit_atStart (image : List Byte) : (loadedUnit image).AtStart image := ⟨rfl, rfl, rfl⟩

/-- A controller with nothing to read from memory. -/
def noDma : Dma Unit := ⟨fun _ _ => false, fun _ _ => 0, fun s _ _ => s, fun _ _ _ _ => rfl⟩

/-- A record of zeros. -/
def zeroRecord (n : Nat) (hpos : 0 < n) (hfits : n ≤ tqTapMaxLen.toNat) : TapRecord :=
  ⟨List.replicate n 0, by rw [List.length_replicate]; exact hpos, by rw [List.length_replicate]; exact hfits⟩

theorem encodeAll_replicate_length (n : Nat) (r : TapRecord) :
    (encodeAll (List.replicate n (record r))).length = n * (8 + (r.data.length + 1) / 2 * 2) := by
  induction n with
  | zero => simp only [List.replicate_zero, encodeAll_nil, List.length_nil, Nat.zero_mul]
  | succ n ih =>
    rw [List.replicate_succ, encodeAll_cons, List.length_append, ih, TapObject.encode, r.encode_length,
      Nat.succ_mul, Nat.add_comm]

/-- Behind four gigabytes and a little more reverse motion finds a word inside the first record. -/
theorem wrapped_reverse (u : TqUnit) (r : TapRecord) (os : List TapObject) {n : Nat} {front tail left : List Byte}
    (hleft : left = encodeAll (.record r :: os)) (hdata : r.data = front ++ le32 tqTapTmk ++ tail)
    (hfront : front.length = n) (hwrap : left.length = 2 ^ 32 + (n + 8)) (hn : n + 8 < 2 ^ 32) :
    (tqTapSpaceReverseRecords 1 (u.stand left [])).1 = .mark := by
  have hpos : BitVec.ofNat 32 left.length = BitVec.ofNat 32 (n + 4 + 4) := by
    rw [hwrap]
    apply BitVec.eq_of_toNat_eq
    rw [BitVec.toNat_ofNat, BitVec.toNat_ofNat, Nat.add_mod_left]
  have hword : BitVec.ofNat 32 left.length - 4 = BitVec.ofNat 32 (n + 4) := hpos ▸ ofNat_add_sub (n + 4) 4
  have hback : ¬ BitVec.ofNat 32 left.length < 4 := by
    rw [hpos, BitVec.lt_def, ofNat_toNat_of_lt hn]
    exact Nat.not_lt.2 (Nat.le_add_left _ _)
  obtain ⟨behind, hbehind⟩ : ∃ behind, behind = tail ++ tqTapPad r.len ++ le32 r.len ++ encodeAll os := ⟨_, rfl⟩
  have hsplit : left ++ [] = le32 r.len ++ front ++ (le32 tqTapTmk ++ behind) := by
    rw [hbehind, hleft, encodeAll_cons, TapObject.encode, TapRecord.encode, hdata]
    simp only [List.append_assoc, List.append_nil]
  have hlength : (le32 r.len ++ front).length = n + 4 := by
    rw [List.length_append, hfront, Nat.add_comm]
    rfl
  have hseek : tqTapSeek (BitVec.ofNat 32 (n + 4)) (u.stand left []) = _ :=
    tqTapSeek_stand u _ _ hsplit (by rw [hlength]; exact ofNat_toNat_of_lt (by omega))
  have hread := tqTapReadU32_stand u (le32 r.len ++ front) behind tqTapTmk
  obtain ⟨word, hobject⟩ := tqTapPeekObject_stand u (le32 r.len ++ front) behind .mark
    (by rw [List.length_append, hlength]; exact hn)
  have hpeek : tqTapPeekPrev (u.stand left []) =
      ⟨.mark, word, BitVec.ofNat 32 (le32 r.len ++ front).length, 0,
        u.stand (le32 r.len ++ front ++ le32 tqTapTmk) behind⟩ := by
    unfold tqTapPeekPrev
    rw [if_neg (by simp), TqUnit.stand_tapePos, if_neg hback, hword, hseek]
    simp only [hread]
    exact hobject
  have hreturn := tqTapSeek_stand u (le32 r.len ++ front) (le32 tqTapTmk ++ behind) (List.append_assoc ..)
    (ofNat_toNat_of_lt (n := (le32 r.len ++ front).length) (by omega))
  simp only [tqTapSpaceReverseRecords, tqTapSpaceReverseRecords.loop, hpeek, hreturn]

/-- On 256 records of the greatest length, with a zero word where `tapePos` wraps to. -/
theorem wrapped_not_roundTrips (r : TapRecord) {front tail buf : List Byte}
    (hdata : r.data = front ++ le32 tqTapTmk ++ tail) (hfront : front.length = 2040)
    (hlong : r.data.length = 0xFFFFFF) (hbuf : buf.length = 0xFFFFFF) :
    ¬ TapRoundTrips noDma (loadedUnit []) (List.replicate 256 (.record r)) buf := by
  intro h
  obtain ⟨u', hwritten⟩ := h.written
  have hend : u' = (loadedUnit []).stand (encodeAll (List.replicate 256 (record r) ++ [])) [] := by
    have hstart := hwritten
    rw [(loadedUnit_atStart []).stand_eq] at hstart
    rw [tapWritten_stand noDma rfl hstart, List.nil_append, List.append_nil, List.drop_nil]
  have hos : List.replicate 256 (record r) = List.replicate 255 (record r) ++ [record r] ++ [] := by
    rw [List.append_nil, ← List.replicate_succ']
  have hspaced := (h.spaced u' hwritten _ _ _ hos).2
  have hboundary := tapBoundary_stand (loadedUnit []) (List.replicate 256 (record r)) [] buf [] (by
    intro o ho
    have hdata : o.data.length = 16777215 := by
      rw [List.eq_of_mem_replicate ho, TapObject.data, hlong]
    exact Nat.le_of_eq (hdata.trans hbuf.symm))
  rw [← List.replicate_succ', hend, hboundary] at hspaced
  have hmark := wrapped_reverse (loadedUnit []) r (List.replicate 255 (record r))
    (List.replicate_succ ▸ rfl : encodeAll (List.replicate 256 (record r)) = _) hdata hfront
    ((encodeAll_replicate_length 256 r).trans (congrArg (fun n => 256 * (8 + (n + 1) / 2 * 2)) hlong)) (by decide)
  have hstatus := congrArg Prod.fst hspaced
  simp only [encodeAll_nil, List.append_nil, List.length_singleton, tapSpaceObjects, hmark, List.map_cons,
    List.map_nil, List.reverse_singleton, status] at hstatus
  exact absurd hstatus (by decide)

theorem zeros_split (m n k : Nat) :
    List.replicate (m + n + k) (0 : Byte) = List.replicate m 0 ++ List.replicate n 0 ++ List.replicate k 0 := by
  rw [List.replicate_append_replicate, List.replicate_append_replicate]

/-- Two marks stand behind the mark written: they are read as well. On 256 records of the greatest length
reverse motion starts from inside the first one and finds a mark there. -/
theorem tapRoundTrip_fails :
    ¬ TapRoundTrips noDma (loadedUnit (le32 0 ++ le32 0)) [.mark] [] ∧
      ¬ TapRoundTrips noDma (loadedUnit [])
        (List.replicate 256 (.record (zeroRecord (2040 + 4 + 16775171) (by decide) (by decide))))
        (List.replicate 0xFFFFFF 0) := by
  constructor
  · intro h
    exact absurd (h.ends _ (.mark rfl (.none _))) (by decide)
  · exact wrapped_not_roundTrips _ (zeros_split 2040 4 16775171) List.length_replicate List.length_replicate
      List.length_replicate

theorem tapRoundTrips_mixed :
    TapRoundTrips noDma (loadedUnit [])
      [.record (zeroRecord 3 (by decide) (by decide)), .mark, .record (zeroRecord 2 (by decide) (by decide))]
      (List.replicate 3 0) :=
  tapRoundTrips noDma (loadedUnit_atStart []) (Nat.zero_le _) (by decide) (by decide)

end K1801.Lsi11
