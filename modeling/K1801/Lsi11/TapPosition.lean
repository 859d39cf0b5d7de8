import K1801.Lsi11.TapObjects
import K1801.Lsi11.Tq11

/-! # The two positions of a unit

Every motion over objects keeps `tapePos` and the cursor together and on a boundary between objects. A motion
that meets a short read, a word that is no length or a trailing word that differs does not.
-/

namespace K1801.Lsi11

open Core Library

/-! ## What lies ahead -/

/-- Forward motion over `n` records meets objects only, up to a mark or the end of the image. -/
inductive RecordsAhead : Nat → List Byte → Prop
  | stop (right : List Byte) : RecordsAhead 0 right
  | eot (n : Nat) : RecordsAhead (n + 1) []
  | mark (n : Nat) (right : List Byte) : RecordsAhead (n + 1) (TapObject.mark.encode ++ right)
  | record {n : Nat} (r : TapRecord) {right : List Byte} (h : RecordsAhead n right) :
      RecordsAhead (n + 1) ((TapObject.record r).encode ++ right)

/-- Forward motion over `n` marks meets objects only, up to the end of the image. -/
inductive MarksAhead : Nat → List Byte → Prop
  | stop (right : List Byte) : MarksAhead 0 right
  | eot (n : Nat) : MarksAhead (n + 1) []
  | mark {n : Nat} {right : List Byte} (h : MarksAhead n right) :
      MarksAhead (n + 1) (TapObject.mark.encode ++ right)
  | record {n : Nat} (r : TapRecord) {right : List Byte} (h : MarksAhead (n + 1) right) :
      MarksAhead (n + 1) ((TapObject.record r).encode ++ right)

namespace TqUnit

/-- `u'` is the unit at another boundary of the same image. -/
def MovedTo (u u' : TqUnit) (image : List Byte) : Prop :=
  ∃ os rest, u' = u.stand (TapObject.encodeAll os) rest ∧ TapObject.encodeAll os ++ rest = image

/-- The unit stands at a boundary of the image in its file. -/
def Placed (u : TqUnit) : Prop :=
  ∃ os rest, u.fp = some ⟨TapObject.encodeAll os ++ rest, (TapObject.encodeAll os).length⟩ ∧
    u.tapePos = BitVec.ofNat 32 (TapObject.encodeAll os).length

theorem Placed.stand_eq {u : TqUnit} (h : u.Placed) : ∃ os rest, u = u.stand (TapObject.encodeAll os) rest := by
  obtain ⟨fp, readOnly, online, swWriteProtect, unaPending, tapePos⟩ := u
  obtain ⟨os, rest, rfl, rfl⟩ := h
  exact ⟨os, rest, rfl⟩

/-- An image below four gigabytes; a unit that is online stands at a boundary. -/
structure Kept (u : TqUnit) : Prop where
  size : ∀ f, u.fp = some f → f.bytes.length < 2 ^ 32
  placed : u.online = true → ∀ f, u.fp = some f → u.Placed

theorem kept_of_stand {u : TqUnit} {os : List TapObject} {rest : List Byte}
    (hsize : (TapObject.encodeAll os ++ rest).length < 2 ^ 32) : (u.stand (TapObject.encodeAll os) rest).Kept where
  size := by
    intro f hf
    cases hf
    exact hsize
  placed _ _ _ := ⟨os, rest, rfl, rfl⟩

theorem MovedTo.kept {u u' : TqUnit} {image : List Byte} (h : u.MovedTo u' image)
    (hsize : image.length < 2 ^ 32) : u'.Kept := by
  obtain ⟨os, rest, rfl, rfl⟩ := h
  exact kept_of_stand hsize

end TqUnit

section Motion

variable (u : TqUnit)

theorem TqUnit.MovedTo.refl (os : List TapObject) (rest : List Byte) :
    u.MovedTo (u.stand (TapObject.encodeAll os) rest) (TapObject.encodeAll os ++ rest) := ⟨os, rest, rfl, rfl⟩

theorem encodeAll_snoc (os : List TapObject) (o : TapObject) :
    TapObject.encodeAll (os ++ [o]) = TapObject.encodeAll os ++ o.encode := by
  rw [TapObject.encodeAll_append, TapObject.encodeAll_cons, TapObject.encodeAll_nil, List.append_nil]

/-- A forward motion over one object, and the image as it lies then. -/
theorem readForward_object {σ : Type} (maxLen : Nat) (sink : Option (TqTapSink σ)) (s : σ) (os : List TapObject)
    (o : TapObject) (right : List Byte) :
    (tqTapReadForwardStream maxLen sink s (u.stand (TapObject.encodeAll os) (o.encode ++ right))).status = o.status ∧
      (tqTapReadForwardStream maxLen sink s (u.stand (TapObject.encodeAll os) (o.encode ++ right))).unit =
        u.stand (TapObject.encodeAll (os ++ [o])) right := by
  obtain ⟨rc, s', hread⟩ := tqTapReadForwardStream_stand u (TapObject.encodeAll os) right o maxLen sink s
  rw [hread, encodeAll_snoc]
  exact ⟨rfl, rfl⟩

theorem image_snoc (os : List TapObject) (o : TapObject) (right : List Byte) :
    TapObject.encodeAll os ++ (o.encode ++ right) = TapObject.encodeAll (os ++ [o]) ++ right := by
  rw [encodeAll_snoc, List.append_assoc]

theorem readForward_movedTo {σ : Type} (maxLen : Nat) (sink : Option (TqTapSink σ)) (s : σ) (os : List TapObject)
    {rest : List Byte} (h : RecordsAhead 1 rest) :
    u.MovedTo (tqTapReadForwardStream maxLen sink s (u.stand (TapObject.encodeAll os) rest)).unit
      (TapObject.encodeAll os ++ rest) := by
  cases h with
  | eot =>
    rw [tqTapReadForwardStream_end]
    exact .refl u os []
  | mark =>
    rw [(readForward_object u maxLen sink s os .mark _).2, image_snoc]
    exact .refl u _ _
  | record r =>
    rw [(readForward_object u maxLen sink s os (.record r) _).2, image_snoc]
    exact .refl u _ _

theorem spaceForwardRecords_movedTo (os : List TapObject) {n : Nat} {rest : List Byte} (h : RecordsAhead n rest) :
    u.MovedTo (tqTapSpaceForwardRecords n (u.stand (TapObject.encodeAll os) rest)).2.2
      (TapObject.encodeAll os ++ rest) := by
  induction h generalizing os with
  | stop => exact .refl u os _
  | eot n =>
    have hend := tqTapReadForwardStream_end u (TapObject.encodeAll os) 0 none ([] : List Byte)
    have hforward : tqTapReadForward none 0 (u.stand (TapObject.encodeAll os) []) = _ := hend
    simp only [tqTapSpaceForwardRecords, hforward]
    exact .refl u os []
  | mark n right =>
    obtain ⟨hstatus, hunit⟩ := readForward_object u 0 none ([] : List Byte) os .mark right
    change (tqTapReadForward none 0 _).status = _ at hstatus
    change (tqTapReadForward none 0 _).unit = _ at hunit
    rw [tqTapSpaceForwardRecords, hstatus, hunit, image_snoc]
    exact .refl u _ _
  | record r _ ih =>
    obtain ⟨hstatus, hunit⟩ := readForward_object u 0 none ([] : List Byte) os (.record r) _
    change (tqTapReadForward none 0 _).status = _ at hstatus
    change (tqTapReadForward none 0 _).unit = _ at hunit
    rw [tqTapSpaceForwardRecords, hstatus, hunit, image_snoc]
    exact ih _

theorem spaceForwardMarks_loop_movedTo (os : List TapObject) {n count marks : Nat} {rest : List Byte}
    (h : MarksAhead n rest) (hcount : count = marks + n) :
    u.MovedTo (tqTapSpaceForwardMarks.loop count marks (u.stand (TapObject.encodeAll os) rest)).2.2
      (TapObject.encodeAll os ++ rest) := by
  induction h generalizing os marks with
  | stop =>
    rw [tqTapSpaceForwardMarks.loop, if_neg (by omega)]
    exact .refl u os _
  | eot n =>
    have hend := tqTapReadForwardStream_end u (TapObject.encodeAll os) 0 none ([] : List Byte)
    have hforward : tqTapReadForward none 0 (u.stand (TapObject.encodeAll os) []) = _ := hend
    rw [tqTapSpaceForwardMarks.loop, if_pos (by omega), hforward]
    simp only [reduceCtorEq, dite_false]
    exact .refl u os []
  | mark _ ih =>
    obtain ⟨hstatus, hunit⟩ := readForward_object u 0 none ([] : List Byte) os .mark _
    change (tqTapReadForward none 0 _).status = _ at hstatus
    change (tqTapReadForward none 0 _).unit = _ at hunit
    rw [tqTapSpaceForwardMarks.loop, if_pos (by omega), hstatus, hunit, image_snoc]
    simp only [TapObject.status, reduceCtorEq]
    exact ih _ (by omega)
  | record r _ ih =>
    obtain ⟨hstatus, hunit⟩ := readForward_object u 0 none ([] : List Byte) os (.record r) _
    change (tqTapReadForward none 0 _).status = _ at hstatus
    change (tqTapReadForward none 0 _).unit = _ at hunit
    rw [tqTapSpaceForwardMarks.loop, if_pos (by omega), hstatus, hunit, image_snoc]
    simp only [TapObject.status]
    exact ih _ hcount

/-- Behind an object reverse motion goes before it. -/
theorem peekPrev_object (os : List TapObject) (o : TapObject) (right : List Byte)
    (hsize : (TapObject.encodeAll (os ++ [o])).length < 2 ^ 32) :
    (tqTapPeekPrev (u.stand (TapObject.encodeAll (os ++ [o])) right)).status = o.status ∧
      tqTapSeek (tqTapPeekPrev (u.stand (TapObject.encodeAll (os ++ [o])) right)).start
          (tqTapPeekPrev (u.stand (TapObject.encodeAll (os ++ [o])) right)).unit =
        some (u.stand (TapObject.encodeAll os) (o.encode ++ right)) := by
  rw [encodeAll_snoc] at hsize ⊢
  obtain ⟨mark, hpeek⟩ := tqTapPeekPrev_stand u (TapObject.encodeAll os) right o hsize
  rw [hpeek]
  rw [List.length_append] at hsize
  exact ⟨rfl, tqTapSeek_stand u _ _ (List.append_assoc ..) (ofNat_toNat_of_lt (by omega))⟩

theorem spaceReverseRecords_movedTo (os : List TapObject) (n done : Nat) (rest : List Byte)
    (hsize : (TapObject.encodeAll os).length < 2 ^ 32) :
    u.MovedTo (tqTapSpaceReverseRecords.loop done n (u.stand (TapObject.encodeAll os) rest)).2.2
      (TapObject.encodeAll os ++ rest) := by
  induction n generalizing os done rest with
  | zero => exact .refl u os rest
  | succ n ih =>
    rw [tqTapSpaceReverseRecords.loop]
    rcases List.eq_nil_or_concat' os with rfl | ⟨os, o, rfl⟩
    · exact .refl u [] rest
    · obtain ⟨hstatus, hseek⟩ := peekPrev_object u os o rest hsize
      have hless : (TapObject.encodeAll os).length < 2 ^ 32 := by
        rw [encodeAll_snoc, List.length_append] at hsize
        omega
      rw [← image_snoc]
      cases o with
      | record r =>
        simp only [hstatus, TapObject.status, hseek]
        exact ih _ _ _ hless
      | mark =>
        simp only [hstatus, TapObject.status, hseek]
        exact .refl u os _

theorem spaceReverseMarks_movedTo (os : List TapObject) (count done : Nat) (rest : List Byte)
    (hsize : (TapObject.encodeAll os).length < 2 ^ 32) :
    u.MovedTo (tqTapSpaceReverseMarks.loop count done (u.stand (TapObject.encodeAll os) rest)).2.2
      (TapObject.encodeAll os ++ rest) := by
  induction os using List.reverseRecOn generalizing done rest with
  | nil =>
    rw [tqTapSpaceReverseMarks.loop]
    split
    · exact .refl u [] rest
    · exact .refl u [] rest
  | append_singleton os o ih =>
    obtain ⟨hstatus, hseek⟩ := peekPrev_object u os o rest hsize
    have hless : (TapObject.encodeAll os).length < 2 ^ 32 := by
      rw [encodeAll_snoc, List.length_append] at hsize
      omega
    rw [tqTapSpaceReverseMarks.loop]
    by_cases hdone : done < count
    · rw [if_pos hdone, ← image_snoc]
      cases o with
      | record r =>
        change _ = TqTapStatus.ok at hstatus
        rw [dif_pos hstatus]
        split
        · rename_i hnone
          rw [hseek] at hnone
          cases hnone
        · rename_i hsome
          rw [hseek] at hsome
          cases hsome
          exact ih _ _ hless
      | mark =>
        change _ = TqTapStatus.mark at hstatus
        rw [dif_neg (by rw [hstatus]; nofun), dif_pos hstatus]
        split
        · rename_i hnone
          rw [hseek] at hnone
          cases hnone
        · rename_i hsome
          rw [hseek] at hsome
          cases hsome
          exact ih _ _ hless
    · rw [if_neg hdone]
      exact .refl u _ rest

/-! ## Writing and rewinding -/

theorem rewind_kept {u : TqUnit} (hsize : ∀ f, u.fp = some f → f.bytes.length < 2 ^ 32) :
    (tqTapRewind u).2.Kept := by
  obtain ⟨fp, readOnly, online, swWriteProtect, unaPending, tapePos⟩ := u
  cases fp with
  | none => exact ⟨nofun, nofun⟩
  | some f =>
    exact ⟨fun _ hf => by cases hf; exact hsize f rfl, fun _ _ hf => ⟨[], f.bytes, rfl, rfl⟩⟩

/-- What is written at a boundary leaves the unit behind it. -/
theorem written_kept (os : List TapObject) (o : TapObject) (rest : List Byte)
    (hsize : (TapObject.encodeAll os ++ rest).length < 2 ^ 32)
    (hroom : (TapObject.encodeAll os).length + o.encode.length < 2 ^ 32) :
    (u.stand (TapObject.encodeAll os ++ o.encode) (rest.drop o.encode.length)).Kept := by
  rw [← encodeAll_snoc]
  refine TqUnit.kept_of_stand ?_
  rw [encodeAll_snoc]
  simp only [List.length_append, List.length_drop] at hsize ⊢
  omega

theorem writeMark_kept (os : List TapObject) (rest : List Byte)
    (hsize : (TapObject.encodeAll os ++ rest).length < 2 ^ 32) (hwrite : u.readOnly = false)
    (hroom : (TapObject.encodeAll os).length + 4 < 2 ^ 32) :
    (tqTapWriteMark (u.stand (TapObject.encodeAll os) rest)).2.Kept := by
  rw [tqTapWriteMark_stand u _ _ hwrite]
  exact written_kept u os .mark rest hsize hroom

theorem writeRecordDma_kept {σ : Type} (dma : Dma σ) (s : σ) (addr len : Dword) (os : List TapObject)
    (rest : List Byte) (hsize : (TapObject.encodeAll os ++ rest).length < 2 ^ 32) (hpos : len ≠ 0)
    (hroom : u.readOnly = false → dma.readableRange s addr len.toNat = true →
      (TapObject.encodeAll os).length + (8 + (len.toNat + 1) / 2 * 2) < 2 ^ 32) :
    (tqTapWriteRecordDma dma s addr len (u.stand (TapObject.encodeAll os) rest)).2.2.Kept := by
  have hkept := TqUnit.kept_of_stand (u := u) hsize
  by_cases hwrite : u.readOnly = true
  · simp only [tqTapWriteRecordDma, TqUnit.stand_fp, Option.isNone_some, Bool.false_eq_true, if_false,
      TqUnit.stand_readOnly, hwrite, if_true]
    exact hkept
  · rw [Bool.not_eq_true] at hwrite
    by_cases hfits : len > tqTapMaxLen
    · simp only [tqTapWriteRecordDma, TqUnit.stand_fp, Option.isNone_some, Bool.false_eq_true, if_false,
        TqUnit.stand_readOnly, hwrite, if_pos hfits]
      exact hkept
    · cases hdata : dma.readBytes s addr len.toNat with
      | none =>
        have hreadable : dma.readableRange s addr len.toNat = false := by rw [dma.readableRange_eq, hdata]; rfl
        simp only [tqTapWriteRecordDma, TqUnit.stand_fp, Option.isNone_some, Bool.false_eq_true, if_false,
          TqUnit.stand_readOnly, hwrite, if_neg hfits, hreadable, Bool.not_false, if_true]
        exact hkept
      | some data =>
        have hlen := dma.readBytes_length hdata
        have hreadable : dma.readableRange s addr len.toNat = true := by rw [dma.readableRange_eq, hdata]; rfl
        have hnonzero : 0 < len.toNat := Nat.pos_of_ne_zero fun h => hpos (BitVec.eq_of_toNat_eq h)
        obtain ⟨r, hr⟩ : ∃ r : TapRecord, r.data = data :=
          ⟨⟨data, hlen ▸ hnonzero, hlen ▸ BitVec.le_def.1 (BitVec.not_lt.1 hfits)⟩, rfl⟩
        have hrlen : r.len = len := BitVec.eq_of_toNat_eq (by rw [r.len_toNat, hr, hlen])
        have hwritten := tqTapWriteRecordDma_stand u (TapObject.encodeAll os) rest dma s addr r hwrite
          (by rw [hr, hlen]; exact hdata)
        rw [hrlen] at hwritten
        rw [hwritten]
        refine written_kept u os (.record r) rest hsize ?_
        rw [TapObject.encode, r.encode_length, hr, hlen]
        exact hroom hwrite hreadable

end Motion

end K1801.Lsi11
