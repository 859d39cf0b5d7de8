import Mathlib.Tactic.Ring
import K1801.Tools.Rt11Calls

/-! # The directory of an RT-11 volume

What a change of some blocks leaves of the directory, and how the entries written to a segment are read again.
-/

namespace K1801.Tools

open Core Library

/-! ## Changes of an image -/

/-- `img'` differs from `img` at most in the touched blocks of the volume. -/
structure Rt11Image.Changed (img img' : Rt11Image) (touched : Nat → Prop) : Prop where
  geometry : img' = { img with blocks := img'.blocks }
  kept : ∀ b, (∀ r, touched r → b ≠ img.baseBlock + r) → img'.blocks b = img.blocks b

namespace Rt11Image.Changed

variable {img img' img'' : Rt11Image} {touched touched' : Nat → Prop}

theorem refl (img : Rt11Image) (touched : Nat → Prop) : img.Changed img touched := ⟨rfl, fun _ _ => rfl⟩

theorem volumeBlocks (h : img.Changed img' touched) : img'.volumeBlocks = img.volumeBlocks := by
  rw [h.geometry]

theorem baseBlock (h : img.Changed img' touched) : img'.baseBlock = img.baseBlock := by
  rw [h.geometry]

theorem trans (h : img.Changed img' touched) (h' : img'.Changed img'' touched) : img.Changed img'' touched := by
  refine ⟨?_, ?_⟩
  · rw [h'.geometry, h.geometry]
  · intro b hb
    rw [h'.kept b (by rw [h.baseBlock]; exact hb), h.kept b hb]

theorem mono (h : img.Changed img' touched) (hle : ∀ b, touched b → touched' b) : img.Changed img' touched' :=
  ⟨h.geometry, fun b hb => h.kept b fun r hr => hb r (hle r hr)⟩

theorem block (h : img.Changed img' touched) {r : Nat} (hr : ¬touched r) :
    img'.blocks (img'.baseBlock + r) = img.blocks (img.baseBlock + r) := by
  rw [h.baseBlock]
  refine h.kept _ fun r' hr' heq => hr ?_
  rw [Nat.add_left_cancel heq]
  exact hr'

theorem seek (h : img.Changed img' touched) (b : Nat) : rt11Seek img' b = rt11Seek img b := by
  rw [h.geometry]
  rfl

end Rt11Image.Changed

theorem rt11Seek_of_lt {img : Rt11Image} {b : Nat} (h : b < img.volumeBlocks) :
    rt11Seek img b = .ok (img.baseBlock + b) := by
  have hfits := img.fits
  rw [rt11Seek, if_neg (by omega), if_neg (by omega)]

theorem rt11Seek_ok {img : Rt11Image} {b abs : Nat} (h : rt11Seek img b = .ok abs) :
    b < img.volumeBlocks ∧ abs = img.baseBlock + b := by
  unfold rt11Seek at h
  split_ifs at h
  cases h
  exact ⟨by omega, rfl⟩

@[simp] theorem Rt11Image.put_blocks (img : Rt11Image) (abs : Nat) (buf : Block) :
    (img.put abs buf).blocks = Function.update img.blocks abs buf := rfl

theorem Rt11Image.changed_put (img : Rt11Image) (b : Nat) (buf : Block) :
    img.Changed (img.put (img.baseBlock + b) buf) (· = b) :=
  ⟨rfl, fun _ ha => Function.update_of_ne (ha b rfl) _ _⟩

theorem rt11WriteBlock_changed {img img' : Rt11Image} {b : Nat} {buf : Block} {r : Except Errno Unit}
    (h : rt11WriteBlock img b buf = (r, img')) : img.Changed img' (· = b) := by
  unfold rt11WriteBlock at h
  split at h
  · cases h
    exact .refl _ _
  · rename_i hseek
    obtain ⟨_, rfl⟩ := rt11Seek_ok hseek
    cases h
    exact img.changed_put b buf

/-! ## Segments -/

/-- The blocks of a segment. -/
def Rt11Segment.place (s : Rt11Segment) : Extent := ⟨s.segBlock, rt11DirSegmentBlocks⟩

theorem has_first {b : Nat} : Extent.Has ⟨b, rt11DirSegmentBlocks⟩ b :=
  ⟨Nat.le_refl _, Nat.lt_add_of_pos_right Nat.zero_lt_two⟩

theorem has_second {b : Nat} : Extent.Has ⟨b, rt11DirSegmentBlocks⟩ (b + 1) :=
  ⟨Nat.le_succ _, Nat.add_lt_add_left Nat.one_lt_two _⟩

theorem rt11ReadSegment_of_le {img : Rt11Image} {b : Nat} (h : b + 2 ≤ img.volumeBlocks) :
    rt11ReadSegment img b =
      .ok (rt11SegWords (img.blocks (img.baseBlock + b)) (img.blocks (img.baseBlock + b + 1))) := by
  rw [rt11ReadSegment, if_neg (by change ¬img.volumeBlocks < b + 2; omega), rt11Seek_of_lt (by omega)]

theorem rt11ReadSegment_ok {img : Rt11Image} {b : Nat} {buf : SegBuf} (h : rt11ReadSegment img b = .ok buf) :
    b + 2 ≤ img.volumeBlocks := by
  unfold rt11ReadSegment at h
  split at h
  · cases h
  · rename_i hle
    exact Nat.le_of_not_lt hle

theorem rt11ReadSegment_frame {img img' : Rt11Image} {touched : Nat → Prop} (hc : img.Changed img' touched)
    {b : Nat} {buf : SegBuf} (h : rt11ReadSegment img b = .ok buf) (h0 : ¬touched b) (h1 : ¬touched (b + 1)) :
    rt11ReadSegment img' b = .ok buf := by
  have hle := rt11ReadSegment_ok h
  rw [rt11ReadSegment_of_le hle] at h
  rw [rt11ReadSegment_of_le (by rw [hc.volumeBlocks]; exact hle), Nat.add_assoc, hc.block h0, hc.block h1,
    ← Nat.add_assoc]
  exact h

theorem rt11LoadSegment_ok {img : Rt11Image} {dirStart n : Nat} {s : Rt11Segment}
    (h : rt11LoadSegment img dirStart n = .ok s) :
    rt11ReadSegment img s.segBlock = .ok s.buf ∧ s.segNum = n ∧ s.segBlock = rt11SegmentBlock dirStart n ∧
      s.hdr = rt11ParseSegmentHeader s.buf := by
  unfold rt11LoadSegment at h
  split at h
  · cases h
  · rename_i hread
    cases h
    exact ⟨hread, rfl, rfl, rfl⟩

theorem rt11LoadSegment_frame {img img' : Rt11Image} {touched : Nat → Prop} (hc : img.Changed img' touched)
    {dirStart n : Nat} {s : Rt11Segment} (h : rt11LoadSegment img dirStart n = .ok s)
    (hfree : ∀ b, s.place.Has b → ¬touched b) : rt11LoadSegment img' dirStart n = .ok s := by
  obtain ⟨hread, hnum, hblock, hhdr⟩ := rt11LoadSegment_ok h
  have h0 : s.place.Has s.segBlock := has_first
  have h1 : s.place.Has (s.segBlock + 1) := has_second
  have hread' := rt11ReadSegment_frame hc hread (hfree _ h0) (hfree _ h1)
  rw [rt11LoadSegment, ← hblock, hread']
  change Except.ok (Rt11Segment.mk n s.buf (rt11ParseSegmentHeader s.buf) s.segBlock) = _
  rw [← hnum, ← hhdr]

/-- What a written segment reads as: its 512 words. -/
def rt11Stored (buf : SegBuf) : SegBuf := fun w => if w < 512 then buf w else 0

theorem rt11SegWords_split (buf : SegBuf) : rt11SegWords (fun i => buf i) (fun i => buf (256 + i)) = rt11Stored buf := by
  funext w
  unfold rt11SegWords rt11Stored
  by_cases hlo : w < 256
  · rw [dif_pos hlo, if_pos (by omega)]
  · rw [dif_neg hlo]
    by_cases hhi : w - 256 < 256
    · rw [dif_pos hhi, if_pos (by omega)]
      exact congrArg buf (by change 256 + (w - 256) = w; omega)
    · rw [dif_neg hhi, if_neg (by omega)]

theorem rt11WriteSegment_of_le {img : Rt11Image} {b : Nat} (buf : SegBuf) (h : b + 2 ≤ img.volumeBlocks) :
    ∃ img', rt11WriteSegment img b buf = (.ok (), img') ∧ img.Changed img' (Extent.Has ⟨b, rt11DirSegmentBlocks⟩) ∧
      rt11ReadSegment img' b = .ok (rt11Stored buf) := by
  have hwrite : rt11WriteSegment img b buf = (.ok (), (img.put (img.baseBlock + b) fun i => buf i).put
      (img.baseBlock + b + 1) fun i => buf (256 + i)) := by
    rw [rt11WriteSegment, if_neg (by change ¬img.volumeBlocks < b + 2; omega), rt11Seek_of_lt (by omega)]
  refine ⟨_, hwrite, ?_, ?_⟩
  · refine ⟨rfl, fun a ha => ?_⟩
    rw [Rt11Image.put_blocks, Function.update_of_ne (by rw [Nat.add_assoc]; exact ha _ has_second),
      Rt11Image.put_blocks, Function.update_of_ne (ha _ has_first)]
  · rw [rt11ReadSegment_of_le (by exact h), ← rt11SegWords_split]
    change Except.ok (rt11SegWords (Function.update (Function.update img.blocks _ _) _ _ (img.baseBlock + b))
      (Function.update (Function.update img.blocks _ _) _ _ (img.baseBlock + b + 1))) = _
    rw [Function.update_self, Function.update_of_ne (by omega), Function.update_self]

theorem rt11WriteSegment_ok {img img' : Rt11Image} {b : Nat} {buf : SegBuf}
    (h : rt11WriteSegment img b buf = (.ok (), img')) : img.Changed img' (Extent.Has ⟨b, rt11DirSegmentBlocks⟩) ∧
      rt11ReadSegment img' b = .ok (rt11Stored buf) := by
  have hle : b + 2 ≤ img.volumeBlocks := by
    unfold rt11WriteSegment at h
    split at h
    · cases h
    · rename_i hle
      exact Nat.le_of_not_lt hle
  obtain ⟨img'', hwrite, hc, hread⟩ := rt11WriteSegment_of_le buf hle
  rw [h] at hwrite
  cases hwrite
  exact ⟨hc, hread⟩

theorem rt11WriteSegment_error {img img' : Rt11Image} {b : Nat} {buf : SegBuf} {e : Errno}
    (h : rt11WriteSegment img b buf = (.error e, img')) : img' = img := by
  unfold rt11WriteSegment at h
  split at h
  · cases h
    rfl
  · split at h
    · cases h
      rfl
    · cases h

/-! ## Entries -/

theorem rt11SetWords_apply (base : Nat) (vs : List Word) (seg : SegBuf) (w : Nat) :
    rt11SetWords base vs seg w = if base ≤ w ∧ w < base + vs.length then vs.getD (w - base) 0 else seg w := by
  induction vs generalizing base seg with
  | nil => rw [rt11SetWords, List.length_nil, if_neg (by omega)]
  | cons v vs ih =>
    rw [rt11SetWords, ih, List.length_cons]
    by_cases hw : w = base
    · subst hw
      rw [if_neg (by omega), if_pos (by omega), Nat.sub_self, Function.update_self, List.getD_cons_zero]
    · by_cases hin : base + 1 ≤ w ∧ w < base + 1 + vs.length
      · obtain ⟨k, rfl⟩ : ∃ k, w = base + 1 + k := ⟨w - (base + 1), by omega⟩
        rw [if_pos hin, if_pos (by omega), Nat.add_sub_cancel_left, Nat.add_assoc, Nat.add_sub_cancel_left,
          Nat.add_comm 1 k, List.getD_cons_succ]
      · rw [if_neg hin, if_neg (by omega), Function.update_of_ne hw]

theorem rt11SetWords_before {base : Nat} {vs : List Word} {seg : SegBuf} {w : Nat} (h : w < base) :
    rt11SetWords base vs seg w = seg w := by
  rw [rt11SetWords_apply, if_neg (by omega)]

theorem rt11WriteEntries_before {entryWords i : Nat} (es : List Rt11Entry) (seg : SegBuf) {w : Nat}
    (h : w < 5 + i * entryWords) : rt11WriteEntries entryWords i es seg w = seg w := by
  induction es generalizing i seg with
  | nil => rfl
  | cons e es ih =>
    rw [rt11WriteEntries, ih _ (by rw [Nat.add_mul]; omega), rt11WriteEntry, rt11SetWords_before h]

theorem rt11Row_moved {seg seg' : SegBuf} {entryWords i j : Nat} (hwords : 7 ≤ entryWords)
    (h : ∀ k, k < entryWords → seg' (5 + j * entryWords + k) = seg (5 + i * entryWords + k)) :
    rt11Row seg' entryWords j = rt11Row seg entryWords i := by
  have hextra : ((List.range (entryWords - 7)).map fun e => seg' (5 + j * entryWords + 7 + e)) =
      (List.range (entryWords - 7)).map fun e => seg (5 + i * entryWords + 7 + e) := by
    refine List.map_congr_left fun e he => ?_
    rw [Nat.add_assoc (5 + j * entryWords) 7 e, Nat.add_assoc (5 + i * entryWords) 7 e]
    exact h (7 + e) (by rw [List.mem_range] at he; omega)
  have hstatus := h 0 (by omega)
  rw [Nat.add_zero, Nat.add_zero] at hstatus
  simp only [rt11Row]
  rw [hextra, hstatus, h 1 (by omega), h 2 (by omega), h 3 (by omega), h 4 (by omega), h 5 (by omega),
    h 6 (by omega)]

theorem rt11Row_congr {seg seg' : SegBuf} {entryWords i : Nat} (hwords : 7 ≤ entryWords)
    (h : ∀ w, 5 + i * entryWords ≤ w → w < 5 + (i + 1) * entryWords → seg' w = seg w) :
    rt11Row seg' entryWords i = rt11Row seg entryWords i := by
  rw [Nat.add_mul, Nat.one_mul] at h
  exact rt11Row_moved hwords fun k hk => h _ (Nat.le_add_right _ _) (by omega)

theorem rt11Row_extra_length (seg : SegBuf) (entryWords i : Nat) :
    (rt11Row seg entryWords i).extra.length = entryWords - 7 := by
  rw [rt11Row, List.length_map, List.length_range]

/-- An entry with the words the layout gives it. -/
def Rt11Entry.Fits (e : Rt11Entry) (entryWords : Nat) : Prop := e.extra.length + 7 = entryWords

theorem Rt11Entry.fits_blank (status length : Word) {entryWords : Nat} (h : 7 ≤ entryWords) :
    (Rt11Entry.blank status length entryWords).Fits entryWords := by
  rw [Rt11Entry.Fits, Rt11Entry.blank, List.length_replicate, Nat.sub_add_cancel h]

theorem rt11FileEntry_fits (name : Rt11Name) (needed : Nat) (date : Word) {entryWords : Nat} (h : 7 ≤ entryWords) :
    (rt11FileEntry name needed date entryWords).Fits entryWords :=
  Rt11Entry.fits_blank rt11EPerm (BitVec.ofNat 16 needed) h

theorem Rt11Entry.Fits.words_length {e : Rt11Entry} {entryWords : Nat} (h : e.Fits entryWords) :
    e.words.length = entryWords := by
  rw [Rt11Entry.words, List.length_append, ← h, Nat.add_comm]
  rfl

theorem rt11Row_write {entryWords i : Nat} {e : Rt11Entry} (he : e.Fits entryWords) (seg : SegBuf) :
    rt11Row (rt11WriteEntry entryWords i e seg) entryWords i = e := by
  have hlen := he.words_length
  have hat : ∀ k, k < entryWords →
      rt11WriteEntry entryWords i e seg (5 + i * entryWords + k) = e.words.getD k 0 := by
    intro k hk
    rw [rt11WriteEntry, rt11SetWords_apply, if_pos (by omega), Nat.add_sub_cancel_left]
  have hextra : ((List.range (entryWords - 7)).map fun k =>
      rt11WriteEntry entryWords i e seg (5 + i * entryWords + 7 + k)) = e.extra := by
    refine List.ext_getElem ?_ ?_
    · rw [List.length_map, List.length_range, ← he, Nat.add_sub_cancel]
    · intro k hk hk'
      have hget : e.words.getD (7 + k) 0 = e.extra[k] := by
        rw [Nat.add_comm 7 k]
        change e.extra.getD k 0 = _
        rw [List.getD_eq_getElem?_getD, List.getElem?_eq_getElem hk', Option.getD_some]
      rw [List.getElem_map, List.getElem_range, Nat.add_assoc _ 7 k, hat _ (by rw [← he]; omega), hget]
  have hseven : 7 ≤ entryWords := by rw [← he]; omega
  simp only [rt11Row]
  rw [hextra, hat 1 (by omega), hat 2 (by omega), hat 3 (by omega), hat 4 (by omega), hat 5 (by omega),
    hat 6 (by omega)]
  have hstatus := hat 0 (by omega)
  rw [Nat.add_zero] at hstatus
  rw [hstatus]
  rfl

/-! ### The loop over the entries -/

theorem rt11Scan_congr {seg seg' : SegBuf} {entryWords n i : Nat} (hwords : 7 ≤ entryWords)
    (h : ∀ w, w < 5 + (i + n) * entryWords → seg' w = seg w) :
    rt11Scan seg' entryWords n i = rt11Scan seg entryWords n i := by
  induction n generalizing i with
  | zero => rfl
  | succ n ih =>
    have hrow : rt11Row seg' entryWords i = rt11Row seg entryWords i := by
      refine rt11Row_congr hwords fun w _ hw => h w (Nat.lt_of_lt_of_le hw ?_)
      exact Nat.add_le_add_left (Nat.mul_le_mul_right _ (by omega)) _
    have hrest : rt11Scan seg' entryWords n (i + 1) = rt11Scan seg entryWords n (i + 1) :=
      ih fun w hw => h w (by rw [show i + (n + 1) = i + 1 + n by omega]; exact hw)
    rw [rt11Scan, hrow, hrest, rt11Scan]

/-- Written entries are read again, up to the end mark. -/
theorem rt11Scan_write {entryWords n i : Nat} {es : List Rt11Entry} {eos : Rt11Entry} (seg : SegBuf)
    (hfit : ∀ e ∈ es, e.Fits entryWords ∧ e.isEos = false) (hmark : eos.Fits entryWords ∧ eos.isEos = true)
    (hroom : es.length < n) :
    rt11Scan (rt11WriteEntries entryWords i (es ++ [eos]) seg) entryWords n i = ⟨es, some eos⟩ := by
  induction es generalizing n i seg with
  | nil =>
    cases n with
    | zero => cases hroom
    | succ n =>
      rw [List.nil_append, rt11WriteEntries, rt11WriteEntries, rt11Scan, rt11Row_write hmark.1, if_pos hmark.2]
  | cons e es ih =>
    cases n with
    | zero => cases hroom
    | succ n =>
      have he := hfit e (List.mem_cons_self ..)
      have hrow : rt11Row (rt11WriteEntries entryWords i (e :: es ++ [eos]) seg) entryWords i = e := by
        rw [List.cons_append, rt11WriteEntries, rt11Row_congr (by rw [← he.1]; omega)
          fun w _ hw => rt11WriteEntries_before _ _ hw, rt11Row_write he.1]
      have hrest := ih (rt11WriteEntry entryWords i e seg) (i := i + 1)
        (fun e' he' => hfit e' (List.mem_cons_of_mem _ he')) (Nat.lt_of_succ_lt_succ hroom)
      rw [rt11Scan, hrow, he.2, List.cons_append, rt11WriteEntries, hrest]
      rfl

theorem rt11Scan_length (seg : SegBuf) (entryWords n i : Nat) :
    (rt11Scan seg entryWords n i).entries.length ≤ n ∧
      ((rt11Scan seg entryWords n i).eos ≠ none → (rt11Scan seg entryWords n i).entries.length < n) := by
  induction n generalizing i with
  | zero => exact ⟨Nat.le_refl _, fun h => absurd rfl h⟩
  | succ n ih =>
    rw [rt11Scan]
    split
    · exact ⟨Nat.zero_le _, fun _ => Nat.succ_pos _⟩
    · exact ⟨Nat.succ_le_succ (ih (i + 1)).1, fun h => Nat.succ_lt_succ ((ih (i + 1)).2 h)⟩

theorem rt11Scan_entries (seg : SegBuf) {entryWords : Nat} (hwords : 7 ≤ entryWords) (n i : Nat) :
    ∀ e ∈ (rt11Scan seg entryWords n i).entries, e.Fits entryWords ∧ e.isEos = false := by
  induction n generalizing i with
  | zero =>
    intro e he
    cases he
  | succ n ih =>
    intro e he
    rw [rt11Scan] at he
    split at he
    · cases he
    · rename_i heos
      cases he with
      | head =>
        refine ⟨?_, Bool.eq_false_iff.2 heos⟩
        rw [Rt11Entry.Fits, rt11Row_extra_length, Nat.sub_add_cancel hwords]
      | tail _ he => exact ih (i + 1) e he

theorem rt11Scan_eos (seg : SegBuf) {entryWords : Nat} (hwords : 7 ≤ entryWords) (n i : Nat) :
    ∀ e, (rt11Scan seg entryWords n i).eos = some e → e.Fits entryWords ∧ e.isEos = true := by
  induction n generalizing i with
  | zero =>
    intro e he
    cases he
  | succ n ih =>
    intro e he
    rw [rt11Scan] at he
    split at he
    · rename_i heos
      cases he
      refine ⟨?_, heos⟩
      rw [Rt11Entry.Fits, rt11Row_extra_length, Nat.sub_add_cancel hwords]
    · exact ih (i + 1) e he

theorem rt11EntryLayout_ok {hdr : Rt11DirsegHdr} {layout : Rt11Layout} (h : rt11EntryLayout hdr = .ok layout) :
    7 ≤ layout.entryWords ∧ 5 + layout.maxEntries * layout.entryWords ≤ 512 := by
  unfold rt11EntryLayout at h
  split at h
  · cases h
  · simp only [] at h
    split at h
    · cases h
    · cases h
      have hdiv := Nat.div_mul_le_self 507 (7 + hdr.extraBytes.toNat / 2)
      exact ⟨Nat.le_add_right _ _, Nat.add_le_add_left hdiv 5⟩

theorem rt11Scan_stored {hdr : Rt11DirsegHdr} {layout : Rt11Layout} (h : rt11EntryLayout hdr = .ok layout)
    (buf : SegBuf) : rt11Scan (rt11Stored buf) layout.entryWords layout.maxEntries 0 =
      rt11Scan buf layout.entryWords layout.maxEntries 0 := by
  obtain ⟨hwords, hend⟩ := rt11EntryLayout_ok h
  refine rt11Scan_congr hwords fun w hw => ?_
  rw [Nat.zero_add] at hw
  rw [rt11Stored, if_pos (by omega)]

/-! ### Areas -/

theorem rt11TotalLen_append (es es' : List Rt11Entry) :
    rt11TotalLen (es ++ es') = rt11TotalLen es + rt11TotalLen es' := by
  rw [rt11TotalLen, List.map_append, List.sum_append]
  rfl

theorem rt11TotalLen_filter (es : List Rt11Entry) (p : Rt11Entry → Bool) :
    rt11TotalLen (es.filter p) + rt11TotalLen (es.filter fun e => !p e) = rt11TotalLen es := by
  induction es with
  | nil => rfl
  | cons e es ih =>
    have hcons : ∀ (e : Rt11Entry) (es : List Rt11Entry), rt11TotalLen (e :: es) = e.length.toNat + rt11TotalLen es :=
      fun e es => rfl
    cases h : p e with
    | true =>
      rw [List.filter_cons_of_pos h, List.filter_cons_of_neg (by rw [h]; decide), hcons, hcons]
      omega
    | false =>
      rw [List.filter_cons_of_neg (by rw [h]; decide), List.filter_cons_of_pos (by rw [h]; rfl), hcons, hcons]
      omega

theorem rt11Place_append (start : Nat) (es es' : List Rt11Entry) :
    rt11Place start (es ++ es') = rt11Place start es ++ rt11Place (start + rt11TotalLen es) es' := by
  induction es generalizing start with
  | nil => rfl
  | cons e es ih =>
    have hcons : start + e.length.toNat + rt11TotalLen es = start + rt11TotalLen (e :: es) := Nat.add_assoc _ _ _
    rw [List.cons_append, rt11Place, ih, rt11Place, hcons]
    rfl

theorem rt11Place_entries (start : Nat) (es : List Rt11Entry) : (rt11Place start es).map Prod.fst = es := by
  induction es generalizing start with
  | nil => rfl
  | cons e es ih => rw [rt11Place, List.map_cons, ih]

theorem rt11Place_areas (start : Nat) (es : List Rt11Entry) :
    (rt11Place start es).map Prod.snd = Extent.consecutive start (es.map fun e => e.length.toNat) := by
  induction es generalizing start with
  | nil => rfl
  | cons e es ih => rw [rt11Place, List.map_cons, ih, List.map_cons, Extent.consecutive_cons]

theorem rt11Place_len {start : Nat} {es : List Rt11Entry} {p : Rt11Entry × Extent} (h : p ∈ rt11Place start es) :
    p.1 ∈ es ∧ p.2.len = p.1.length.toNat := by
  induction es generalizing start with
  | nil => cases h
  | cons e es ih =>
    cases h with
    | head => exact ⟨List.mem_cons_self .., rfl⟩
    | tail _ h => exact ⟨List.mem_cons_of_mem _ (ih h).1, (ih h).2⟩

/-! ## Chains of segments -/

/-- The entries of a segment up to its end mark, none if the layout is refused. -/
def Rt11Segment.listing (s : Rt11Segment) : Rt11Scan :=
  match rt11EntryLayout s.hdr with
  | .ok layout => s.scan layout
  | .error _ => ⟨[], none⟩

/-- The entries of a segment with their areas. -/
def Rt11Segment.areas (s : Rt11Segment) : List (Rt11Entry × Extent) :=
  rt11Place s.hdr.dataStartBlock.toNat s.listing.entries

theorem Rt11Segment.listing_eq {s : Rt11Segment} {layout : Rt11Layout} (h : rt11EntryLayout s.hdr = .ok layout) :
    s.scan layout = s.listing := by
  rw [Rt11Segment.listing, h]

theorem Rt11Segment.areas_eq {s : Rt11Segment} {layout : Rt11Layout} (h : rt11EntryLayout s.hdr = .ok layout) :
    s.placed layout = s.areas := by
  rw [Rt11Segment.areas, ← Rt11Segment.listing_eq h]
  rfl

/-- The length at the end mark. -/
def Rt11Scan.eosLen (scan : Rt11Scan) : Nat := (scan.eos.map fun e => e.length.toNat).getD 0

/-- The data area of a segment. -/
def Rt11Segment.area (s : Rt11Segment) : Extent :=
  ⟨s.hdr.dataStartBlock.toNat, rt11TotalLen s.listing.entries + s.listing.eosLen⟩

/-- The segments from `segNum` on to the end of the chain. -/
def Rt11Chain (img : Rt11Image) (dirStart : Nat) : Nat → List Rt11Segment → Prop
  | segNum, [] => segNum = 0
  | segNum, s :: chain => segNum ≠ 0 ∧ rt11LoadSegment img dirStart segNum = .ok s ∧
      Rt11Chain img dirStart s.hdr.nextSegment.toNat chain

theorem Rt11Chain.unique {img : Rt11Image} {dirStart segNum : Nat} {chain chain' : List Rt11Segment}
    (h : Rt11Chain img dirStart segNum chain) (h' : Rt11Chain img dirStart segNum chain') : chain = chain' := by
  induction chain generalizing segNum chain' with
  | nil =>
    cases chain' with
    | nil => rfl
    | cons s' chain' => exact absurd h h'.1
  | cons s chain ih =>
    cases chain' with
    | nil => exact absurd h' h.1
    | cons s' chain' =>
      have hload := h.2.1
      rw [h'.2.1] at hload
      cases hload
      rw [ih h.2.2 h'.2.2]

/-- The blocks the directory accounts for. -/
def rt11Occupied (chain : List Rt11Segment) : List Extent := chain.flatMap fun s => [s.place, s.area]

theorem Rt11Chain.frame {img img' : Rt11Image} {touched : Nat → Prop} (hc : img.Changed img' touched)
    {dirStart segNum : Nat} {chain : List Rt11Segment} (h : Rt11Chain img dirStart segNum chain)
    (hfree : ∀ s ∈ chain, ∀ b, s.place.Has b → ¬touched b) : Rt11Chain img' dirStart segNum chain := by
  induction chain generalizing segNum with
  | nil => exact h
  | cons s chain ih =>
    refine ⟨h.1, ?_, ?_⟩
    · exact rt11LoadSegment_frame hc h.2.1 (hfree s (List.mem_cons_self ..))
    · exact ih h.2.2 fun s' hs' => hfree s' (List.mem_cons_of_mem _ hs')

/-! ### The walk -/

section Walk

variable {γ α : Type} {visit : Rt11Segment → γ → Rt11Image → Rt11Result (γ ⊕ α)} {walk : Rt11Walk} {g : γ}
  {img : Rt11Image}

theorem rt11WalkLoop_nil (h : walk.nextSeg = 0) : rt11WalkLoop visit walk g img = (.ok (.inl (g, walk)), img) := by
  have hnext : rt11WalkNext img walk = .ok none := by
    rw [rt11WalkNext, if_pos h]
  rw [rt11WalkLoop]
  split
  · rename_i hn
    rw [hnext] at hn
    cases hn
  · rfl
  · rename_i hn
    rw [hnext] at hn
    cases hn

theorem rt11WalkLoop_cons {s : Rt11Segment} (h : walk.nextSeg ≠ 0)
    (hload : rt11LoadSegment img walk.dirStart walk.nextSeg = .ok s) :
    rt11WalkLoop visit walk g img =
      match visit s g img with
      | (.error e, img) => (.error e, img)
      | (.ok (.inr a), img) => (.ok (.inr a), img)
      | (.ok (.inl g), img) => rt11WalkLoop visit (walk.advance s.hdr) g img := by
  have hnext : rt11WalkNext img walk = .ok (some (s, walk.advance s.hdr)) := by
    rw [rt11WalkNext, if_neg h, hload]
  rw [rt11WalkLoop]
  split
  · rename_i hn
    rw [hnext] at hn
    cases hn
  · rename_i hn
    rw [hnext] at hn
    cases hn
  · rename_i hn
    rw [hnext] at hn
    cases hn
    rfl

theorem rt11WalkLoop_refused {e : Errno} (h : walk.nextSeg ≠ 0)
    (hload : rt11LoadSegment img walk.dirStart walk.nextSeg = .error e) :
    rt11WalkLoop visit walk g img = (.error e, img) := by
  have hnext : rt11WalkNext img walk = .error e := by
    rw [rt11WalkNext, if_neg h, hload]
  rw [rt11WalkLoop]
  split
  · rename_i hn
    rw [hnext] at hn
    cases hn
    rfl
  · rename_i hn
    rw [hnext] at hn
    cases hn
  · rename_i hn
    rw [hnext] at hn
    cases hn

/-- The walk over a directory of one segment. -/
theorem rt11WalkLoop_single {dirStart : Nat} {s : Rt11Segment} (visit : Rt11Segment → γ → Rt11Image →
    Rt11Result (γ ⊕ α)) (g : γ) (hload : rt11LoadSegment img dirStart 1 = .ok s) (hlast : s.hdr.nextSegment = 0) :
    ∃ walk : Rt11Walk, walk.looped = false ∧ rt11WalkLoop visit (rt11WalkReset dirStart) g img =
      match visit s g img with
      | (.error e, img) => (.error e, img)
      | (.ok (.inr a), img) => (.ok (.inr a), img)
      | (.ok (.inl g), img) => (.ok (.inl (g, walk)), img) := by
  have htotal : ¬0 + 1 > max s.hdr.totalSegments.toNat 1 + 4 := by omega
  have hend : (rt11WalkReset dirStart).advance s.hdr = ⟨dirStart, 0, max s.hdr.totalSegments.toNat 1, 1, false⟩ := by
    simp only [Rt11Walk.advance, rt11WalkReset, hlast, if_true]
    rw [if_neg htotal, decide_eq_false htotal]
    rfl
  have hnext : (rt11WalkReset dirStart).nextSeg ≠ 0 := Nat.one_ne_zero
  have hloop := @rt11WalkLoop_cons γ α visit _ g img s hnext hload
  rw [hend] at hloop
  refine ⟨⟨dirStart, 0, max s.hdr.totalSegments.toNat 1, 1, false⟩, rfl, ?_⟩
  rw [hloop]
  rcases visit s g img with ⟨e | ⟨g' | a⟩, img'⟩
  · rfl
  · exact rt11WalkLoop_nil rfl
  · rfl

end Walk

end K1801.Tools
