import Mathlib.Data.List.Forall2
import K1801.Tools.Rt11Fsck

/-! # Squeezing an RT-11 volume -/

namespace K1801.Tools

open Core Library

/-! ## Moving blocks -/

theorem rt11CopyUp_ok {img img' : Rt11Image} {src dst n : Nat} (h : rt11CopyUp img src dst n = (.ok (), img')) :
    img' = { img with
      blocks := Extent.copyUp img.blocks (img.baseBlock + src) (img.baseBlock + dst) n } := by
  induction n generalizing img' with
  | zero =>
    cases h
    rfl
  | succ n ih =>
    rw [rt11CopyUp] at h
    rcases hn : rt11CopyUp img src dst n with ⟨r, img₁⟩
    rw [hn] at h
    cases r with
    | error e => cases h
    | ok u =>
      have hfirst := ih hn
      simp only [rt11ReadBlock, rt11WriteBlock] at h
      rcases hread : rt11Seek img₁ (src + n) with e | abs
      · rw [hread] at h
        cases h
      · obtain ⟨_, rfl⟩ := rt11Seek_ok hread
        rcases hwrite : rt11Seek img₁ (dst + n) with e | abs
        · rw [hread, hwrite] at h
          cases h
        · obtain ⟨_, rfl⟩ := rt11Seek_ok hwrite
          rw [hread, hwrite] at h
          cases h
          rw [hfirst, Extent.copyUp]
          simp only [Rt11Image.put, Nat.add_assoc]

theorem rt11CopyUp_changed (img : Rt11Image) (src dst n : Nat) :
    img.Changed (rt11CopyUp img src dst n).2 (Extent.Has ⟨dst, n⟩) := by
  induction n with
  | zero => exact .refl _ _
  | succ n ih =>
    have hfirst : img.Changed (rt11CopyUp img src dst n).2 (Extent.Has ⟨dst, n + 1⟩) :=
      ih.mono fun b hb => ⟨hb.1, Nat.lt_succ_of_lt hb.2⟩
    rw [rt11CopyUp]
    rcases hn : rt11CopyUp img src dst n with ⟨r, img₁⟩
    rw [hn] at hfirst
    cases r with
    | error e => exact hfirst
    | ok u =>
      simp only []
      cases rt11ReadBlock img₁ (src + n) with
      | error e => exact hfirst
      | ok buf =>
        have hlast : img₁.Changed (rt11WriteBlock img₁ (dst + n) buf).2 (· = dst + n) :=
          rt11WriteBlock_changed rfl
        exact hfirst.trans (hlast.mono fun b hb => by
          subst hb
          exact ⟨Nat.le_add_right _ _, Nat.lt_succ_self _⟩)

theorem rt11MoveBlocks_ok {img img' : Rt11Image} {src dst n : Nat} (hdown : dst ≤ src)
    (h : rt11MoveBlocks img src dst n = (.ok (), img')) :
    img' = { img with
      blocks := Extent.copyUp img.blocks (img.baseBlock + src) (img.baseBlock + dst) n } := by
  unfold rt11MoveBlocks at h
  split_ifs at h with hstay hout hlow
  · cases h
    cases hstay with
    | inl hzero =>
      rw [hzero]
      rfl
    | inr hsame => rw [hsame, Extent.copyUp_self]
  · cases h
  · exact rt11CopyUp_ok h
  · exact absurd (Nat.le_antisymm hdown (Nat.le_of_not_lt hlow)) fun heq => hstay (.inr heq.symm)

theorem rt11MoveBlocks_changed (img : Rt11Image) {src dst : Nat} (hdown : dst ≤ src) (n : Nat) :
    img.Changed (rt11MoveBlocks img src dst n).2 (Extent.Has ⟨dst, n⟩) := by
  unfold rt11MoveBlocks
  split_ifs with hstay hout hlow
  · exact .refl _ _
  · exact .refl _ _
  · exact rt11CopyUp_changed img src dst n
  · exact absurd (Nat.le_antisymm hdown (Nat.le_of_not_lt hlow)) fun heq => hstay (.inr heq.symm)

theorem rt11MoveFiles_ok {files : List (Rt11Entry × Extent)} {pos stop : Nat} {img img' : Rt11Image}
    (hord : Extent.Ordered pos (files.map Prod.snd)) (h : rt11MoveFiles files pos img = (.ok stop, img')) :
    img' = { img with
      blocks := Extent.compact ((files.map Prod.snd).map (Extent.shift img.baseBlock)) (img.baseBlock + pos)
        img.blocks } := by
  induction files generalizing pos img with
  | nil =>
    cases h
    rfl
  | cons f files ih =>
    obtain ⟨e, area⟩ := f
    have hnext : Extent.Ordered (pos + area.len) (files.map Prod.snd) :=
      hord.2.mono (Nat.add_le_add_right hord.1 _)
    rw [List.map_cons, List.map_cons, Extent.compact, Extent.shift_len, Nat.add_assoc]
    rw [rt11MoveFiles] at h
    split_ifs at h with hzero hmove
    · rw [hzero] at hnext ⊢
      exact ih hnext h
    · rcases hm : rt11MoveBlocks img area.start pos area.len with ⟨r, img₁⟩
      rw [hm] at h
      cases r with
      | error e => cases h
      | ok u =>
        have hmoved := rt11MoveBlocks_ok hord.1 hm
        have hrest := ih hnext h
        rw [hmoved] at hrest
        exact hrest
    · rw [Decidable.not_not] at hmove
      have hrest := ih hnext h
      rw [← hmove, Extent.shift, Extent.copyUp_self, hmove]
      exact hrest

theorem rt11MoveFiles_changed {files : List (Rt11Entry × Extent)} {pos : Nat} (img : Rt11Image)
    (hord : Extent.Ordered pos (files.map Prod.snd)) :
    img.Changed (rt11MoveFiles files pos img).2
      (Extent.Has ⟨pos, (files.map fun f => f.2.len).sum⟩) := by
  induction files generalizing pos img with
  | nil => exact .refl _ _
  | cons f files ih =>
    obtain ⟨e, area⟩ := f
    have hnext : Extent.Ordered (pos + area.len) (files.map Prod.snd) :=
      hord.2.mono (Nat.add_le_add_right hord.1 _)
    have hrest : ∀ img : Rt11Image, img.Changed (rt11MoveFiles files (pos + area.len) img).2
        (Extent.Has ⟨pos, (((e, area) :: files).map fun f => f.2.len).sum⟩) := by
      intro img
      refine (ih img hnext).mono fun b hb => ?_
      simp only [Extent.Has, Extent.stop, List.map_cons, List.sum_cons] at hb ⊢
      omega
    rw [rt11MoveFiles]
    split_ifs with hzero hmove
    · rw [hzero] at hrest
      exact hrest img
    · have hfirst := rt11MoveBlocks_changed img hord.1 area.len
      rcases hm : rt11MoveBlocks img area.start pos area.len with ⟨r, img₁⟩
      rw [hm] at hfirst
      have hmoved : img.Changed img₁ (Extent.Has ⟨pos, (((e, area) :: files).map fun f => f.2.len).sum⟩) := by
        refine hfirst.mono fun b hb => ?_
        simp only [Extent.Has, Extent.stop, List.map_cons, List.sum_cons] at hb ⊢
        omega
      cases r with
      | error e => exact hmoved
      | ok u => exact hmoved.trans (hrest img₁)
    · exact hrest img

/-! ## What a segment holds -/

def Rt11Image.contents (img : Rt11Image) (area : Extent) : List Block :=
  Extent.contents img.blocks (Extent.shift img.baseBlock area)

theorem Rt11Image.Changed.contents {img img' : Rt11Image} {touched : Nat → Prop} (h : img.Changed img' touched)
    {area : Extent} (hfree : ∀ b, area.Has b → ¬touched b) : img'.contents area = img.contents area := by
  refine Extent.contents_congr rfl fun i hi => ?_
  have hblock := h.block (hfree (area.start + i) ⟨Nat.le_add_right _ _, Nat.add_lt_add_left hi _⟩)
  rw [← Nat.add_assoc, ← Nat.add_assoc] at hblock
  exact hblock

/-- The files of a segment, with what they hold. -/
def Rt11Segment.files (s : Rt11Segment) (img : Rt11Image) : List (Rt11Entry × List Block) :=
  (s.areas.filter fun p => p.1.isFile).map fun p => (p.1, img.contents p.2)

/-- The free space of a segment: its empty areas and what the end mark counts. -/
def Rt11Scan.freeLen (scan : Rt11Scan) : Nat :=
  rt11TotalLen (scan.entries.filter Rt11Entry.isEmpty) + scan.eosLen

structure Rt11Segment.WellFormed (s : Rt11Segment) : Prop where
  layout : ∃ layout, rt11EntryLayout s.hdr = .ok layout
  mark : s.listing.eos ≠ none
  kinds : ∀ e ∈ s.listing.entries, e.isFile = !e.isEmpty

/-- `s'` in `img'` stands where `s` stands in `img`, with the same files in the same order. -/
structure Rt11Segment.Kept (s : Rt11Segment) (img img' : Rt11Image) (s' : Rt11Segment) : Prop where
  number : s'.segNum = s.segNum
  place : s'.place = s.place
  header : s'.hdr = s.hdr
  area : s'.area = s.area
  files : s'.files img' = s.files img

/-- The free space of `s` is one empty area behind the files of `s'`. -/
structure Rt11Segment.Gathered (s s' : Rt11Segment) : Prop where
  entries : ∃ free, s'.listing.entries = s.listing.entries.filter Rt11Entry.isFile ++ free ∧ free.length ≤ 1 ∧
    (∀ e ∈ free, e.isEmpty = true ∧ e.isFile = false) ∧ rt11TotalLen free = s.listing.freeLen
  mark : s'.listing.eos ≠ none
  markLen : s'.listing.eosLen = 0

theorem rt11Areas_files (s : Rt11Segment) :
    (s.areas.filter fun p => p.1.isFile).map Prod.fst = s.listing.entries.filter Rt11Entry.isFile := by
  have hentries : s.areas.map Prod.fst = s.listing.entries := rt11Place_entries _ _
  rw [← hentries, List.filter_map]
  rfl

theorem rt11Areas_ordered (s : Rt11Segment) :
    Extent.Ordered s.hdr.dataStartBlock.toNat ((s.areas.filter fun p => p.1.isFile).map Prod.snd) := by
  have hsub : ((s.areas.filter fun p => p.1.isFile).map Prod.snd).Sublist
      (Extent.consecutive s.hdr.dataStartBlock.toNat (s.listing.entries.map fun e => e.length.toNat)) := by
    rw [← rt11Place_areas]
    exact List.Sublist.map _ List.filter_sublist
  exact Extent.ordered_sublist hsub

/-- The lengths of files with the areas of a segment. -/
theorem rt11Areas_len (s : Rt11Segment) : ∀ p ∈ s.areas.filter fun p => p.1.isFile, p.2.len = p.1.length.toNat :=
  fun _ hp => (rt11Place_len (List.mem_of_mem_filter hp)).2

theorem rt11Place_filter (start : Nat) {files free : List Rt11Entry} (hfiles : ∀ e ∈ files, e.isFile = true)
    (hfree : ∀ e ∈ free, e.isFile = false) :
    (rt11Place start (files ++ free)).filter (fun p => p.1.isFile) = rt11Place start files := by
  rw [rt11Place_append, List.filter_append, List.filter_eq_self.2, List.filter_eq_nil_iff.2, List.append_nil]
  · intro p hp
    rw [hfree _ (rt11Place_len hp).1]
    decide
  · exact fun p hp => hfiles _ (rt11Place_len hp).1

/-- Files laid out one after the other hold what they held. -/
theorem rt11Compact_files {img img' : Rt11Image} {start : Nat} {files : List (Rt11Entry × Extent)}
    (hlen : ∀ p ∈ files, p.2.len = p.1.length.toNat) (hord : Extent.Ordered start (files.map Prod.snd))
    (h : img' = { img with
      blocks := Extent.compact ((files.map Prod.snd).map (Extent.shift img.baseBlock)) (img.baseBlock + start)
        img.blocks }) :
    (rt11Place start (files.map Prod.fst)).map (fun p => (p.1, img'.contents p.2)) =
      files.map fun p => (p.1, img.contents p.2) := by
  have hblocks : img'.blocks = Extent.compact ((files.map Prod.snd).map (Extent.shift img.baseBlock))
      (img.baseBlock + start) img.blocks := by rw [h]
  have hbase : img'.baseBlock = img.baseBlock := by rw [h]
  have hlens : ((files.map Prod.snd).map (Extent.shift img.baseBlock)).map Extent.len =
      (files.map Prod.fst).map fun e => e.length.toNat := by
    rw [List.map_map, List.map_map, List.map_map]
    exact List.map_congr_left fun p hp => hlen p hp
  have hcompact := Extent.compact_contents _ img.blocks (hord.shift img.baseBlock)
  rw [← hblocks, Extent.compacted, hlens, ← Extent.consecutive_shift, ← rt11Place_areas, List.map_map, List.map_map,
    List.map_map, List.map_map] at hcompact
  have hcontents : (rt11Place start (files.map Prod.fst)).map (fun p => img'.contents p.2) =
      files.map fun p => img.contents p.2 := by
    simp only [Rt11Image.contents, hbase]
    exact hcompact
  have hentries : (rt11Place start (files.map Prod.fst)).map (fun p => p.1) = files.map fun p => p.1 :=
    rt11Place_entries _ _
  rw [← List.zip_map', hcontents, hentries, List.zip_map']

/-! ## One segment -/

/-- The empty area that a squeezed segment gets, if any blocks are left. -/
def rt11FreeEntry (layout : Rt11Layout) (remaining : Nat) : List Rt11Entry :=
  if 0 < remaining then [.blank rt11EMpty (BitVec.ofNat 16 remaining) layout.entryWords] else []

theorem Rt11Entry.blank_empty (length : Word) (entryWords : Nat) :
    (Rt11Entry.blank rt11EMpty length entryWords).isEmpty = true ∧
      (Rt11Entry.blank rt11EMpty length entryWords).isFile = false ∧
      (Rt11Entry.blank rt11EMpty length entryWords).isEos = false := by
  have hempty : rt11EMpty &&& rt11EMpty ≠ 0 := by decide
  have hfile : ¬rt11EMpty &&& (rt11EPerm ||| rt11ETent) ≠ 0 := by decide
  have heos : ¬rt11EMpty &&& rt11EEos ≠ 0 := by decide
  exact ⟨decide_eq_true hempty, decide_eq_false hfile, decide_eq_false heos⟩

theorem Rt11Entry.blank_eos (length : Word) (entryWords : Nat) :
    (Rt11Entry.blank rt11EEos length entryWords).isEos = true := by
  have heos : rt11EEos &&& rt11EEos ≠ 0 := by decide
  exact decide_eq_true heos

theorem rt11FreeEntry_spec (layout : Rt11Layout) {remaining : Nat} (h : remaining ≤ 0xFFFF) :
    (rt11FreeEntry layout remaining).length ≤ 1 ∧ rt11TotalLen (rt11FreeEntry layout remaining) = remaining ∧
      ∀ e ∈ rt11FreeEntry layout remaining, e.isEmpty = true ∧ e.isFile = false ∧ e.isEos = false := by
  unfold rt11FreeEntry
  split
  · refine ⟨Nat.le_refl _, ?_, ?_⟩
    · exact Nat.mod_eq_of_lt (Nat.lt_succ_of_le h)
    · intro e he
      rw [List.mem_singleton.1 he]
      exact Rt11Entry.blank_empty _ _
  · refine ⟨Nat.zero_le _, ?_, ?_⟩
    · change 0 = remaining
      omega
    · intro e he
      cases he

theorem rt11SqueezedBuf_header (layout : Rt11Layout) (files : List Rt11Entry) (remaining : Nat) (seg : SegBuf) :
    rt11ParseSegmentHeader (rt11Stored (rt11SqueezedBuf layout files remaining seg)) = rt11ParseSegmentHeader seg := by
  have hat : ∀ w, w < 5 → rt11Stored (rt11SqueezedBuf layout files remaining seg) w = seg w := by
    intro w hw
    rw [rt11Stored, if_pos (by omega), rt11SqueezedBuf, rt11WriteEntries_before _ _ (by omega), if_pos hw]
  unfold rt11ParseSegmentHeader
  rw [hat 0 (by decide), hat 1 (by decide), hat 2 (by decide), hat 3 (by decide), hat 4 (by decide)]

theorem rt11SqueezedBuf_scan {hdr : Rt11DirsegHdr} {layout : Rt11Layout} (hl : rt11EntryLayout hdr = .ok layout)
    {files : List Rt11Entry} {remaining : Nat} (seg : SegBuf) (hrem : remaining ≤ 0xFFFF)
    (hfit : ∀ e ∈ files, e.Fits layout.entryWords ∧ e.isEos = false)
    (hroom : files.length + (rt11FreeEntry layout remaining).length < layout.maxEntries) :
    rt11Scan (rt11Stored (rt11SqueezedBuf layout files remaining seg)) layout.entryWords layout.maxEntries 0 =
      ⟨files ++ rt11FreeEntry layout remaining, some (.blank rt11EEos 0 layout.entryWords)⟩ := by
  have hwords := (rt11EntryLayout_ok hl).1
  rw [rt11Scan_stored hl]
  refine rt11Scan_write _ ?_ ⟨Rt11Entry.fits_blank _ _ hwords, Rt11Entry.blank_eos _ _⟩
    (by rw [List.length_append]; exact hroom)
  intro e he
  cases List.mem_append.1 he with
  | inl he => exact hfit e he
  | inr he =>
    refine ⟨?_, ((rt11FreeEntry_spec layout hrem).2.2 e he).2.2⟩
    split at he
    · rw [List.mem_singleton.1 he]
      exact Rt11Entry.fits_blank _ _ hwords
    · cases he

/-- What a squeezed segment is: as it was if it had no empty area, otherwise with its free space gathered. -/
structure Rt11Segment.Outcome (s : Rt11Segment) (img img' : Rt11Image) (s' : Rt11Segment) : Prop where
  kept : s.Kept img img' s'
  gathered : s.listing.entries.any Rt11Entry.isEmpty = true → s.Gathered s'
  untouched : s.listing.entries.any Rt11Entry.isEmpty = false → s' = s

theorem rt11WriteSegment_load {img img' img'' : Rt11Image} {dirStart n : Nat} {s : Rt11Segment} {buf : SegBuf}
    (hload : rt11LoadSegment img dirStart n = .ok s) (h : rt11WriteSegment img' s.segBlock buf = (.ok (), img'')) :
    rt11LoadSegment img'' dirStart n =
      .ok ⟨s.segNum, rt11Stored buf, rt11ParseSegmentHeader (rt11Stored buf), s.segBlock⟩ := by
  obtain ⟨_, hnum, hblock, _⟩ := rt11LoadSegment_ok hload
  rw [rt11LoadSegment, ← hblock, (rt11WriteSegment_ok h).2, hnum]

theorem Rt11Scan.totalLen_eq {scan : Rt11Scan} (hkinds : ∀ e ∈ scan.entries, e.isFile = !e.isEmpty) :
    rt11TotalLen scan.entries + scan.eosLen =
      rt11TotalLen (scan.entries.filter Rt11Entry.isFile) + scan.freeLen := by
  have hrest : (scan.entries.filter fun e => !e.isFile) = scan.entries.filter Rt11Entry.isEmpty := by
    refine List.filter_congr fun e he => ?_
    rw [hkinds e he, Bool.not_not]
  have hsplit := rt11TotalLen_filter scan.entries Rt11Entry.isFile
  rw [hrest] at hsplit
  rw [Rt11Scan.freeLen]
  omega

/-- The steps of a squeeze that had something to gather. -/
theorem rt11SqueezeSegment_steps {img img' : Rt11Image} {dirStart n : Nat} {s : Rt11Segment} {layout : Rt11Layout}
    (hload : rt11LoadSegment img dirStart n = .ok s) (hl : rt11EntryLayout s.hdr = .ok layout)
    (hkinds : ∀ e ∈ s.listing.entries, e.isFile = !e.isEmpty) (hmark : s.listing.eos ≠ none)
    (hempty : s.listing.entries.any Rt11Entry.isEmpty = true)
    (h : rt11SqueezeSegment img dirStart n = (.ok (), img')) :
    ∃ stop img₁, rt11MoveFiles (s.areas.filter fun p => p.1.isFile) s.hdr.dataStartBlock.toNat img = (.ok stop, img₁) ∧
      s.listing.freeLen ≤ 0xFFFF ∧
      rt11WriteSegment img₁ s.segBlock (rt11SqueezedBuf layout (s.listing.entries.filter Rt11Entry.isFile)
        s.listing.freeLen s.buf) = (.ok (), img') := by
  obtain ⟨eos, heos⟩ := Option.ne_none_iff_exists'.1 hmark
  have heosLen : s.listing.eosLen = eos.length.toNat := by
    rw [Rt11Scan.eosLen, heos]
    rfl
  have htotal := Rt11Scan.totalLen_eq hkinds
  rw [heosLen] at htotal
  rw [rt11SqueezeSegment, hload] at h
  simp only [hl, Rt11Segment.listing_eq hl, Rt11Segment.areas_eq hl, heos, hempty, rt11Areas_files] at h
  split at h
  · cases h
  · rw [if_neg (by decide)] at h
    rcases hm : rt11MoveFiles (s.areas.filter fun p => p.1.isFile) s.hdr.dataStartBlock.toNat img with ⟨r, img₁⟩
    rw [hm] at h
    cases r with
    | error e => cases h
    | ok stop =>
      simp only [] at h
      rw [htotal, Nat.add_sub_cancel_left, if_neg (by omega)] at h
      split_ifs at h with hlong hfull
      · cases h
      · cases h
      · exact ⟨stop, img₁, rfl, Nat.le_of_not_lt hlong, h⟩

theorem Rt11Segment.room {s : Rt11Segment} {layout : Rt11Layout} (hl : rt11EntryLayout s.hdr = .ok layout)
    (hmark : s.listing.eos ≠ none) : s.listing.entries.length < layout.maxEntries := by
  rw [← Rt11Segment.listing_eq hl] at hmark ⊢
  exact (rt11Scan_length s.buf layout.entryWords layout.maxEntries 0).2 hmark

theorem rt11Files_shorter {es : List Rt11Entry} (hkinds : ∀ e ∈ es, e.isFile = !e.isEmpty)
    (hempty : es.any Rt11Entry.isEmpty = true) : (es.filter Rt11Entry.isFile).length < es.length := by
  obtain ⟨e, he, hin⟩ := List.any_eq_true.1 hempty
  refine List.length_filter_lt_length_iff_exists.2 ⟨e, he, ?_⟩
  rw [hkinds e he, hin]
  decide

theorem rt11Files_area (s : Rt11Segment) {p : Rt11Entry × Extent}
    (h : p ∈ rt11Place s.hdr.dataStartBlock.toNat (s.listing.entries.filter Rt11Entry.isFile)) {b : Nat}
    (hb : p.2.Has b) : s.area.Has b := by
  have hmem := List.mem_map_of_mem (f := Prod.snd) h
  rw [rt11Place_areas] at hmem
  have hwithin := Extent.consecutive_within hmem
  have htotal := rt11TotalLen_filter s.listing.entries Rt11Entry.isFile
  have hlen : p.2.stop ≤ s.hdr.dataStartBlock.toNat + rt11TotalLen (s.listing.entries.filter Rt11Entry.isFile) :=
    hwithin.2
  refine ⟨Nat.le_trans hwithin.1 hb.1, ?_⟩
  change b < s.hdr.dataStartBlock.toNat + (rt11TotalLen s.listing.entries + s.listing.eosLen)
  have hstop := hb.2
  omega

/-- The segment that a squeeze writes. -/
def Rt11Segment.squeezed (s : Rt11Segment) (layout : Rt11Layout) : Rt11Segment :=
  let buf := rt11Stored (rt11SqueezedBuf layout (s.listing.entries.filter Rt11Entry.isFile) s.listing.freeLen s.buf)
  ⟨s.segNum, buf, rt11ParseSegmentHeader buf, s.segBlock⟩

section Squeezed

variable {img img₁ : Rt11Image} {s : Rt11Segment} {layout : Rt11Layout}

theorem Rt11Segment.squeezed_header (layout : Rt11Layout) (hhdr : s.hdr = rt11ParseSegmentHeader s.buf) :
    (s.squeezed layout).hdr = s.hdr := by
  rw [hhdr]
  exact rt11SqueezedBuf_header _ _ _ _

theorem Rt11Segment.squeezed_listing (hhdr : s.hdr = rt11ParseSegmentHeader s.buf)
    (hl : rt11EntryLayout s.hdr = .ok layout) (hwf : s.WellFormed)
    (hempty : s.listing.entries.any Rt11Entry.isEmpty = true) (hrem : s.listing.freeLen ≤ 0xFFFF) :
    (s.squeezed layout).listing =
      ⟨s.listing.entries.filter Rt11Entry.isFile ++ rt11FreeEntry layout s.listing.freeLen,
        some (.blank rt11EEos 0 layout.entryWords)⟩ := by
  rw [← Rt11Segment.listing_eq (by rw [squeezed_header layout hhdr]; exact hl)]
  refine rt11SqueezedBuf_scan hl s.buf hrem ?_ ?_
  · intro e he
    rw [← Rt11Segment.listing_eq hl] at he
    exact rt11Scan_entries s.buf (rt11EntryLayout_ok hl).1 _ _ e (List.mem_of_mem_filter he)
  · have hroom := Rt11Segment.room hl hwf.mark
    have hshort := rt11Files_shorter hwf.kinds hempty
    have hone := (rt11FreeEntry_spec layout hrem).1
    omega

theorem Rt11Segment.squeezed_gathered (hhdr : s.hdr = rt11ParseSegmentHeader s.buf)
    (hl : rt11EntryLayout s.hdr = .ok layout) (hwf : s.WellFormed)
    (hempty : s.listing.entries.any Rt11Entry.isEmpty = true) (hrem : s.listing.freeLen ≤ 0xFFFF) :
    s.Gathered (s.squeezed layout) := by
  have hlisting := squeezed_listing hhdr hl hwf hempty hrem
  have hspec := rt11FreeEntry_spec layout hrem
  refine ⟨?_, ?_, ?_⟩
  · rw [hlisting]
    exact ⟨_, rfl, hspec.1, fun e he => ⟨(hspec.2.2 e he).1, (hspec.2.2 e he).2.1⟩, hspec.2.1⟩
  · rw [hlisting]
    exact Option.some_ne_none _
  · rw [hlisting]
    rfl

theorem Rt11Segment.squeezed_areas (hhdr : s.hdr = rt11ParseSegmentHeader s.buf)
    (hl : rt11EntryLayout s.hdr = .ok layout) (hwf : s.WellFormed)
    (hempty : s.listing.entries.any Rt11Entry.isEmpty = true) (hrem : s.listing.freeLen ≤ 0xFFFF) :
    ((s.squeezed layout).areas.filter fun p => p.1.isFile) =
      rt11Place s.hdr.dataStartBlock.toNat (s.listing.entries.filter Rt11Entry.isFile) := by
  rw [Rt11Segment.areas, squeezed_listing hhdr hl hwf hempty hrem, squeezed_header layout hhdr]
  exact rt11Place_filter _ (fun e he => (List.mem_filter.1 he).2)
    fun e he => ((rt11FreeEntry_spec layout hrem).2.2 e he).2.1

theorem Rt11Segment.squeezed_area (hhdr : s.hdr = rt11ParseSegmentHeader s.buf)
    (hl : rt11EntryLayout s.hdr = .ok layout) (hwf : s.WellFormed)
    (hempty : s.listing.entries.any Rt11Entry.isEmpty = true) (hrem : s.listing.freeLen ≤ 0xFFFF) :
    (s.squeezed layout).area = s.area := by
  have htotal := Rt11Scan.totalLen_eq hwf.kinds
  rw [Rt11Segment.area, squeezed_listing hhdr hl hwf hempty hrem, squeezed_header layout hhdr, Rt11Segment.area,
    htotal, rt11TotalLen_append, (rt11FreeEntry_spec layout hrem).2.1]
  rfl

/-- The files move inside the data area. -/
theorem rt11MoveFiles_area (s : Rt11Segment) (img : Rt11Image) :
    img.Changed (rt11MoveFiles (s.areas.filter fun p => p.1.isFile) s.hdr.dataStartBlock.toNat img).2 s.area.Has := by
  have hsum : ((s.areas.filter fun p => p.1.isFile).map fun p => p.2.len).sum =
      rt11TotalLen (s.listing.entries.filter Rt11Entry.isFile) := by
    rw [← rt11Areas_files, rt11TotalLen, List.map_map]
    exact congrArg _ (List.map_congr_left fun p hp => rt11Areas_len s p hp)
  have hsplit := rt11TotalLen_filter s.listing.entries Rt11Entry.isFile
  have hchanged := rt11MoveFiles_changed img (rt11Areas_ordered s)
  rw [hsum] at hchanged
  refine hchanged.mono fun b hb => ⟨hb.1, ?_⟩
  have hstop : b < s.hdr.dataStartBlock.toNat + rt11TotalLen (s.listing.entries.filter Rt11Entry.isFile) := hb.2
  change b < s.hdr.dataStartBlock.toNat + (rt11TotalLen s.listing.entries + s.listing.eosLen)
  omega

end Squeezed

theorem rt11SqueezeSegment_empty {img img' : Rt11Image} {dirStart n : Nat} {s : Rt11Segment}
    (hload : rt11LoadSegment img dirStart n = .ok s) (hwf : s.WellFormed)
    (hempty : s.listing.entries.any Rt11Entry.isEmpty = false)
    (h : rt11SqueezeSegment img dirStart n = (.ok (), img')) : img' = img := by
  obtain ⟨layout, hl⟩ := hwf.layout
  obtain ⟨eos, heos⟩ := Option.ne_none_iff_exists'.1 hwf.mark
  rw [rt11SqueezeSegment, hload] at h
  simp only [hl, Rt11Segment.listing_eq hl, heos, hempty] at h
  split at h
  · cases h
  · rw [if_pos (by decide)] at h
    cases h
    rfl

/-- A squeeze that fails has at most moved files inside the data area. -/
theorem rt11SqueezeSegment_error {img img' : Rt11Image} {dirStart n : Nat} {s : Rt11Segment} {e : Errno}
    (hload : rt11LoadSegment img dirStart n = .ok s) (h : rt11SqueezeSegment img dirStart n = (.error e, img')) :
    img.Changed img' s.area.Has := by
  rw [rt11SqueezeSegment, hload] at h
  rcases hl : rt11EntryLayout s.hdr with e' | layout
  · simp only [hl] at h
    cases h
    exact .refl _ _
  · simp only [hl, Rt11Segment.listing_eq hl, Rt11Segment.areas_eq hl] at h
    have hmoved := rt11MoveFiles_area s img
    rcases heos : s.listing.eos with _ | eos
    · simp only [heos] at h
      cases h
      exact .refl _ _
    · rcases hm : rt11MoveFiles (s.areas.filter fun p => p.1.isFile) s.hdr.dataStartBlock.toNat img with ⟨r, img₁⟩
      rw [hm] at hmoved
      simp only [heos, hm] at h
      cases r with
      | error e' =>
        simp only [] at h
        split_ifs at h
        · cases h
          exact .refl _ _
        · cases h
        · cases h
          exact hmoved
      | ok stop =>
        simp only [] at h
        split_ifs at h
        · cases h
          exact .refl _ _
        · cases h
        · cases h
          exact hmoved
        · cases h
          exact hmoved
        · cases h
          exact hmoved
        · rw [rt11WriteSegment_error h]
          exact hmoved

theorem rt11SqueezeSegment_ok {img img' : Rt11Image} {dirStart n : Nat} {s : Rt11Segment}
    (hload : rt11LoadSegment img dirStart n = .ok s) (hwf : s.WellFormed) (hapart : s.place.Apart s.area)
    (h : rt11SqueezeSegment img dirStart n = (.ok (), img')) :
    img.Changed img' (fun b => s.place.Has b ∨ s.area.Has b) ∧
      ∃ s', rt11LoadSegment img' dirStart n = .ok s' ∧ s.Outcome img img' s' := by
  cases hempty : s.listing.entries.any Rt11Entry.isEmpty with
  | false =>
    have hsame := rt11SqueezeSegment_empty hload hwf hempty h
    subst hsame
    have hnone : s.listing.entries.any Rt11Entry.isEmpty = true → s.Gathered s := by
      intro htrue
      rw [hempty] at htrue
      cases htrue
    exact ⟨.refl _ _, s, hload, ⟨rfl, rfl, rfl, rfl, rfl⟩, hnone, fun _ => rfl⟩
  | true =>
    obtain ⟨layout, hl⟩ := hwf.layout
    obtain ⟨stop, img₁, hmove, hrem, hwrite⟩ := rt11SqueezeSegment_steps hload hl hwf.kinds hwf.mark hempty h
    have hhdr := (rt11LoadSegment_ok hload).2.2.2
    have hdata : img.Changed img₁ s.area.Has := by
      have hchanged := rt11MoveFiles_area s img
      rw [hmove] at hchanged
      exact hchanged
    have hdir : img₁.Changed img' s.place.Has := (rt11WriteSegment_ok hwrite).1
    have hfiles : (s.squeezed layout).files img' = s.files img := by
      have hord := rt11Areas_ordered s
      rw [Rt11Segment.files, Rt11Segment.files, Rt11Segment.squeezed_areas hhdr hl hwf hempty hrem,
        ← rt11Compact_files (rt11Areas_len s) hord (rt11MoveFiles_ok hord hmove), rt11Areas_files]
      refine List.map_congr_left fun p hp => ?_
      rw [hdir.contents fun b hb hin => hapart b hin (rt11Files_area s hp hb)]
    have hsome : s.listing.entries.any Rt11Entry.isEmpty = false → s.squeezed layout = s := by
      intro hfalse
      rw [hempty] at hfalse
      cases hfalse
    refine ⟨(hdata.mono fun b hb => .inr hb).trans (hdir.mono fun b hb => .inl hb), s.squeezed layout,
      rt11WriteSegment_load hload hwrite, ⟨rfl, rfl, Rt11Segment.squeezed_header layout hhdr, ?_, hfiles⟩, ?_, hsome⟩
    · exact Rt11Segment.squeezed_area hhdr hl hwf hempty hrem
    · exact fun _ => Rt11Segment.squeezed_gathered hhdr hl hwf hempty hrem

/-! ## The chain -/

theorem Rt11Segment.areas_within {s : Rt11Segment} {p : Rt11Entry × Extent} (h : p ∈ s.areas) {b : Nat}
    (hb : p.2.Has b) : s.area.Has b := by
  have hmem := List.mem_map_of_mem (f := Prod.snd) h
  rw [Rt11Segment.areas, rt11Place_areas] at hmem
  have hwithin := Extent.consecutive_within hmem
  have hstop : p.2.stop ≤ s.hdr.dataStartBlock.toNat + rt11TotalLen s.listing.entries := hwithin.2
  refine ⟨Nat.le_trans hwithin.1 hb.1, Nat.lt_of_lt_of_le hb.2 ?_⟩
  change _ ≤ s.hdr.dataStartBlock.toNat + (rt11TotalLen s.listing.entries + s.listing.eosLen)
  omega

theorem Rt11Segment.files_frame {img img' : Rt11Image} {touched : Nat → Prop} (hc : img.Changed img' touched)
    {s : Rt11Segment} (hfree : ∀ b, s.area.Has b → ¬touched b) : s.files img' = s.files img := by
  refine List.map_congr_left fun p hp => ?_
  rw [hc.contents fun b hb => hfree b (areas_within (List.mem_of_mem_filter hp) hb)]

theorem rt11Occupied_mem {chain : List Rt11Segment} {s : Rt11Segment} (h : s ∈ chain) :
    s.place ∈ rt11Occupied chain ∧ s.area ∈ rt11Occupied chain :=
  ⟨List.mem_flatMap.2 ⟨s, h, List.mem_cons_self ..⟩,
    List.mem_flatMap.2 ⟨s, h, List.mem_cons_of_mem _ (List.mem_cons_self ..)⟩⟩

theorem rt11Occupied_cons {s : Rt11Segment} {chain : List Rt11Segment}
    (h : (rt11Occupied (s :: chain)).Pairwise Extent.Apart) :
    s.place.Apart s.area ∧ (∀ e ∈ rt11Occupied chain, s.place.Apart e ∧ s.area.Apart e) ∧
      (rt11Occupied chain).Pairwise Extent.Apart := by
  have hcons : rt11Occupied (s :: chain) = s.place :: s.area :: rt11Occupied chain := rfl
  rw [hcons, List.pairwise_cons, List.pairwise_cons] at h
  exact ⟨h.1 _ (List.mem_cons_self ..),
    fun e he => ⟨h.1 e (List.mem_cons_of_mem _ he), h.2.1 e he⟩, h.2.2⟩

theorem Rt11Walk.advance_ok {walk : Rt11Walk} {hdr : Rt11DirsegHdr} (h : (walk.advance hdr).looped = false) :
    (walk.advance hdr).nextSeg = hdr.nextSegment.toNat := by
  simp only [Rt11Walk.advance, Bool.or_eq_false_iff, decide_eq_false_iff_not] at h ⊢
  rw [if_neg h.1]

theorem Rt11Walk.advance_looped {walk : Rt11Walk} {hdr : Rt11DirsegHdr} (h : (walk.advance hdr).looped = true)
    (hwalk : walk.looped = false) : (walk.advance hdr).nextSeg = 0 := by
  simp only [Rt11Walk.advance, Bool.or_eq_true, hwalk, Bool.false_eq_true, or_false, decide_eq_true_eq] at h ⊢
  rw [if_pos h]

theorem rt11SqueezeLoop_ok {dirStart : Nat} {chain : List Rt11Segment} {walk walk' : Rt11Walk}
    {img img' : Rt11Image} (hchain : Rt11Chain img dirStart walk.nextSeg chain) (hdir : walk.dirStart = dirStart)
    (hwalk : walk.looped = false) (hwf : ∀ s ∈ chain, s.WellFormed)
    (hapart : (rt11Occupied chain).Pairwise Extent.Apart)
    (h : rt11WalkLoop (rt11SqueezeVisit dirStart) walk () img = (.ok (.inl ((), walk')), img'))
    (hdone : walk'.looped = false) :
    img.Changed img' (fun b => ∃ e ∈ rt11Occupied chain, e.Has b) ∧
      ∃ chain', Rt11Chain img' dirStart walk.nextSeg chain' ∧
        List.Forall₂ (fun s s' => s.Outcome img img' s') chain chain' := by
  induction chain generalizing walk img with
  | nil =>
    rw [rt11WalkLoop_nil hchain] at h
    cases h
    exact ⟨.refl _ _, [], hchain, .nil⟩
  | cons s chain ih =>
    obtain ⟨hnext, hload, htail⟩ := hchain
    obtain ⟨hself, hrest, hpair⟩ := rt11Occupied_cons hapart
    have hnum := (rt11LoadSegment_ok hload).2.1
    rw [rt11WalkLoop_cons hnext (by rw [hdir]; exact hload), rt11SqueezeVisit] at h
    rcases hs : rt11SqueezeSegment img dirStart s.segNum with ⟨r, img₁⟩
    rw [hs] at h
    cases r with
    | error e => cases h
    | ok u =>
      simp only [] at h
      rw [hnum] at hs
      obtain ⟨hchanged, s', hload', hout⟩ := rt11SqueezeSegment_ok hload (hwf s (List.mem_cons_self ..)) hself hs
      cases hloop : (walk.advance s.hdr).looped with
      | true =>
        rw [rt11WalkLoop_nil (Rt11Walk.advance_looped hloop hwalk)] at h
        cases h
        rw [hloop] at hdone
        cases hdone
      | false =>
        have hadvance := Rt11Walk.advance_ok hloop
        have htail₁ : Rt11Chain img₁ dirStart (walk.advance s.hdr).nextSeg chain := by
          rw [hadvance]
          refine htail.frame hchanged fun c hc b hb htouched => ?_
          have hc' := hrest _ (rt11Occupied_mem hc).1
          exact htouched.elim (fun hin => hc'.1 b hin hb) fun hin => hc'.2 b hin hb
        obtain ⟨hchanged', chain', hlinked, houts⟩ := ih htail₁ hdir hloop
          (fun c hc => hwf c (List.mem_cons_of_mem _ hc)) hpair h
        have hkept : ∀ b, s.place.Has b ∨ s.area.Has b → ¬∃ e ∈ rt11Occupied chain, e.Has b := by
          rintro b hb ⟨e, he, hin⟩
          exact hb.elim (fun hb => (hrest e he).1 b hb hin) fun hb => (hrest e he).2 b hb hin
        have hfiles : s'.files img' = s'.files img₁ := by
          refine Rt11Segment.files_frame hchanged' fun b hb => hkept b (.inr ?_)
          rw [← hout.kept.area]
          exact hb
        refine ⟨?_, s' :: chain', ⟨hnext, ?_, ?_⟩, .cons ?_ ?_⟩
        · refine (hchanged.mono ?_).trans (hchanged'.mono ?_)
          · intro b hb
            have hs' := rt11Occupied_mem (List.mem_cons_self (a := s) (l := chain))
            exact hb.elim (fun hb => ⟨_, hs'.1, hb⟩) fun hb => ⟨_, hs'.2, hb⟩
          · rintro b ⟨e, he, hb⟩
            exact ⟨e, List.mem_append_right _ he, hb⟩
        · refine rt11LoadSegment_frame hchanged' hload' fun b hb => hkept b (.inl ?_)
          rw [← hout.kept.place]
          exact hb
        · rw [hout.kept.header, ← hadvance]
          exact hlinked
        · exact ⟨⟨hout.kept.number, hout.kept.place, hout.kept.header, hout.kept.area, hfiles.trans hout.kept.files⟩,
            hout.gathered, hout.untouched⟩
        · have hsame : ∀ c ∈ chain, c.files img₁ = c.files img := by
            intro c hc
            refine Rt11Segment.files_frame hchanged fun b hb htouched => ?_
            have hc' := hrest _ (rt11Occupied_mem hc).2
            exact htouched.elim (fun hin => hc'.1 b hin hb) fun hin => hc'.2 b hin hb
          refine ((List.forall₂_and_left _ _).2 ⟨hsame, houts⟩).imp fun c c' hc => ?_
          have hfiles' := hc.2.kept.files.trans hc.1
          exact ⟨⟨hc.2.kept.number, hc.2.kept.place, hc.2.kept.header, hc.2.kept.area, hfiles'⟩,
            hc.2.gathered, hc.2.untouched⟩

/-! ## The whole volume -/

/-- A well-formed directory: a chain of well-formed segments, with every block of the home block, the segments
and their data areas used once. -/
structure Rt11Directory (img : Rt11Image) (dirStart : Nat) (chain : List Rt11Segment) : Prop where
  home : rt11ReadHome img = .ok dirStart
  linked : Rt11Chain img dirStart 1 chain
  segments : ∀ s ∈ chain, s.WellFormed
  apart : (⟨1, 1⟩ :: rt11Occupied chain).Pairwise Extent.Apart

/-- Every file is kept, the free space of every segment is gathered behind its files, and only the segments and
their data areas change. -/
structure Rt11Squeezed (img img' : Rt11Image) (dirStart : Nat) (chain : List Rt11Segment) : Prop where
  home : rt11ReadHome img' = .ok dirStart
  segments : ∃ chain', Rt11Chain img' dirStart 1 chain' ∧
    List.Forall₂ (fun s s' => s.Kept img img' s' ∧ s.Gathered s') chain chain'
  outside : img.Changed img' fun b => ∃ e ∈ rt11Occupied chain, e.Has b

theorem rt11ReadHome_frame {img img' : Rt11Image} {touched : Nat → Prop} (hc : img.Changed img' touched)
    (hfree : ¬touched 1) : rt11ReadHome img' = rt11ReadHome img := by
  rw [rt11ReadHome, rt11ReadHome, rt11ReadBlock, rt11ReadBlock, hc.seek]
  rcases hseek : rt11Seek img 1 with e | abs
  · rfl
  · obtain ⟨_, rfl⟩ := rt11Seek_ok hseek
    have hblock := hc.block hfree
    rw [hc.baseBlock] at hblock
    simp only [hblock]

theorem rt11Squeeze_ok {img img' : Rt11Image} {dirStart : Nat} {chain : List Rt11Segment}
    (hdir : Rt11Directory img dirStart chain) (h : rt11Squeeze img = (.ok (), img')) :
    rt11ReadHome img' = .ok dirStart ∧ img.Changed img' (fun b => ∃ e ∈ rt11Occupied chain, e.Has b) ∧
      ∃ chain', Rt11Chain img' dirStart 1 chain' ∧ List.Forall₂ (fun s s' => s.Outcome img img' s') chain chain' := by
  obtain ⟨hhome, hpair⟩ := List.pairwise_cons.1 hdir.apart
  have hwalk : rt11WalkBegin img = .ok (rt11WalkReset dirStart) := by
    rw [rt11WalkBegin, hdir.home]
  rw [rt11Squeeze, hwalk] at h
  rcases hl : rt11WalkLoop (rt11SqueezeVisit (rt11WalkReset dirStart).dirStart) (rt11WalkReset dirStart) () img with
    ⟨r, img₁⟩
  simp only [hl] at h
  rcases r with e | ⟨⟨_, walk⟩ | b⟩
  · cases h
  · simp only [] at h
    split at h
    · cases h
    · rename_i hlooped
      cases h
      obtain ⟨hchanged, hchain⟩ := rt11SqueezeLoop_ok hdir.linked rfl rfl hdir.segments hpair hl
        (Bool.eq_false_iff.2 hlooped)
      refine ⟨?_, hchanged, hchain⟩
      rw [rt11ReadHome_frame hchanged, hdir.home]
      rintro ⟨e, he, hin⟩
      exact hhome e he 1 ⟨Nat.le_refl _, Nat.lt_succ_self _⟩ hin
  · cases b

/-- On a directory of one segment the walk squeezes that segment. -/
theorem rt11Squeeze_single {img : Rt11Image} {dirStart : Nat} {s : Rt11Segment}
    (hhome : rt11ReadHome img = .ok dirStart) (hload : rt11LoadSegment img dirStart 1 = .ok s)
    (hlast : s.hdr.nextSegment = 0) : rt11Squeeze img = rt11SqueezeSegment img dirStart 1 := by
  have hwalk : rt11WalkBegin img = .ok (rt11WalkReset dirStart) := by
    rw [rt11WalkBegin, hhome]
  obtain ⟨walk, hdone, hloop⟩ := rt11WalkLoop_single (rt11SqueezeVisit dirStart) () hload hlast
  rw [rt11Squeeze, hwalk]
  dsimp only
  rw [show (rt11WalkReset dirStart).dirStart = dirStart from rfl, hloop, rt11SqueezeVisit, (rt11LoadSegment_ok hload).2.1]
  rcases rt11SqueezeSegment img dirStart 1 with ⟨e | ⟨⟨⟩⟩, img'⟩
  · rfl
  · simp only [hdone]
    rfl

/-- A segment without empty areas is gathered as it is if its end mark counts nothing. -/
theorem rt11Gathered_self {s : Rt11Segment} (hwf : s.WellFormed)
    (hempty : s.listing.entries.any Rt11Entry.isEmpty = false) : s.Gathered s ↔ s.listing.eosLen = 0 := by
  have hnone : ∀ e ∈ s.listing.entries, e.isEmpty = false := by
    intro e he
    rw [List.any_eq_false] at hempty
    exact Bool.eq_false_iff.2 (hempty e he)
  have hfiles : s.listing.entries.filter Rt11Entry.isFile = s.listing.entries := by
    refine List.filter_eq_self.2 fun e he => ?_
    rw [hwf.kinds e he, hnone e he]
    rfl
  have hfree : s.listing.freeLen = s.listing.eosLen := by
    have hnil : s.listing.entries.filter Rt11Entry.isEmpty = [] :=
      List.filter_eq_nil_iff.2 fun e he => Bool.eq_false_iff.1 (hnone e he)
    rw [Rt11Scan.freeLen, hnil]
    exact Nat.zero_add _
  constructor
  · exact fun h => h.markLen
  · intro hlen
    refine ⟨⟨[], ?_, Nat.zero_le _, List.forall_mem_nil _, ?_⟩, hwf.mark, hlen⟩
    · rw [hfiles, List.append_nil]
    · rw [hfree, hlen]
      rfl

/-- A squeeze that succeeds does what it is for exactly if every segment has an empty area or an end mark that
counts nothing. -/
theorem squeeze_keeps_files {img img' : Rt11Image} {dirStart : Nat} {chain : List Rt11Segment}
    (hdir : Rt11Directory img dirStart chain) (h : rt11Squeeze img = (.ok (), img')) :
    Rt11Squeezed img img' dirStart chain ↔
      ∀ s ∈ chain, s.listing.entries.any Rt11Entry.isEmpty = true ∨ s.listing.eosLen = 0 := by
  obtain ⟨hhome, hchanged, chain', hlinked, houts⟩ := rt11Squeeze_ok hdir h
  constructor
  · intro hdone
    obtain ⟨chain'', hlinked', hgathered⟩ := hdone.segments
    have hsame := hlinked'.unique hlinked
    subst hsame
    have hall := (List.forall₂_and_left _ _).2 ⟨hdir.segments, hgathered⟩
    have hmarks : List.Forall₂ (fun s _ =>
        (s.listing.entries.any Rt11Entry.isEmpty = true ∨ s.listing.eosLen = 0) ∧ True) chain chain'' := by
      refine hall.mp (fun s s' hs hout => ⟨?_, trivial⟩) houts
      cases hempty : s.listing.entries.any Rt11Entry.isEmpty with
      | true => exact .inl rfl
      | false =>
        have hself := hs.2.2
        rw [hout.untouched hempty, rt11Gathered_self hs.1 hempty] at hself
        exact .inr hself
    exact ((List.forall₂_and_left _ _).1 hmarks).1
  · intro hcond
    refine ⟨hhome, ⟨chain', hlinked, ?_⟩, hchanged⟩
    have hall : ∀ s ∈ chain, s.WellFormed ∧
        (s.listing.entries.any Rt11Entry.isEmpty = true ∨ s.listing.eosLen = 0) :=
      fun s hs => ⟨hdir.segments s hs, hcond s hs⟩
    refine ((List.forall₂_and_left _ _).2 ⟨hall, houts⟩).imp fun s s' hs => ⟨hs.2.kept, ?_⟩
    cases hempty : s.listing.entries.any Rt11Entry.isEmpty with
    | true => exact hs.2.gathered hempty
    | false =>
      rw [hs.2.untouched hempty, rt11Gathered_self hs.1.1 hempty]
      exact hs.1.2.resolve_left (by rw [hempty]; decide)

/-! ### Two volumes -/

/-- A volume of 16 blocks whose only segment, in blocks 6 and 7, holds these words. -/
def rt11Sample (words : List Word) : Rt11Image where
  blocks b := if b = 6 then fun i => words.getD i 0 else fun _ => if b < 8 then 0 else BitVec.ofNat 16 b
  totalBlocks := 16
  baseBlock := 0
  partitionBlocks := 16
  volumeBlocks := 16
  partitionNumber := 0
  fits := Nat.le_refl _
  usable := by decide

/-- One file of two blocks from block 8 on, and an end mark that counts the other six. -/
def rt11MarkedWords : List Word := [1, 0, 1, 0, 8, rt11EPerm, 1, 2, 3, 2, 0, 0, rt11EEos, 0, 0, 0, 6, 0, 0]

/-- A hole of three blocks between two files. -/
def rt11HoleWords : List Word :=
  [1, 0, 1, 0, 8, rt11EPerm, 1, 2, 3, 2, 0, 0, rt11EMpty, 0, 0, 0, 3, 0, 0, rt11EPerm ||| rt11EProt, 4, 5, 6, 3, 0, 0,
    rt11EEos, 0, 0, 0, 0, 0, 0]

def rt11SampleSegment (words : List Word) : Rt11Segment :=
  let buf := rt11SegWords (fun i => words.getD i 0) fun _ => 0
  ⟨1, buf, rt11ParseSegmentHeader buf, 6⟩

theorem rt11Sample_home (words : List Word) : rt11ReadHome (rt11Sample words) = .ok 6 := rfl

theorem rt11Sample_load (words : List Word) :
    rt11LoadSegment (rt11Sample words) 6 1 = .ok (rt11SampleSegment words) := rfl

theorem rt11MarkedListing : (rt11SampleSegment rt11MarkedWords).listing =
    ⟨[⟨rt11EPerm, ⟨1, 2, 3⟩, 2, 0, 0, []⟩], some ⟨rt11EEos, ⟨0, 0, 0⟩, 6, 0, 0, []⟩⟩ := rfl

theorem rt11HoleListing : (rt11SampleSegment rt11HoleWords).listing =
    ⟨[⟨rt11EPerm, ⟨1, 2, 3⟩, 2, 0, 0, []⟩, ⟨rt11EMpty, ⟨0, 0, 0⟩, 3, 0, 0, []⟩,
      ⟨rt11EPerm ||| rt11EProt, ⟨4, 5, 6⟩, 3, 0, 0, []⟩], some ⟨rt11EEos, ⟨0, 0, 0⟩, 0, 0, 0, []⟩⟩ := rfl

/-- The directory of one segment in blocks 6 and 7 with the data behind it. -/
theorem rt11Sample_directory {words : List Word} (hlast : (rt11SampleSegment words).hdr.nextSegment = 0)
    (hstart : (rt11SampleSegment words).hdr.dataStartBlock = 8) (hwf : (rt11SampleSegment words).WellFormed) :
    Rt11Directory (rt11Sample words) 6 [rt11SampleSegment words] := by
  have hone : ∀ s, s ∈ [rt11SampleSegment words] → s = rt11SampleSegment words := fun s hs => List.mem_singleton.1 hs
  refine ⟨rt11Sample_home words, ⟨Nat.one_ne_zero, rt11Sample_load words, ?_⟩, ?_, ?_⟩
  · rw [hlast]
    rfl
  · intro s hs
    rw [hone s hs]
    exact hwf
  · have harea : (rt11SampleSegment words).area.start = 8 := by
      rw [Rt11Segment.area, hstart]
      rfl
    have hplace : (rt11SampleSegment words).place = ⟨6, 2⟩ := rfl
    change List.Pairwise Extent.Apart
      [⟨1, 1⟩, (rt11SampleSegment words).place, (rt11SampleSegment words).area]
    rw [hplace, List.pairwise_cons, List.pairwise_cons, List.pairwise_cons]
    refine ⟨?_, ?_, List.forall_mem_nil _, .nil⟩
    · intro e he
      rcases List.mem_cons.1 he with he | he
      · rw [he]
        exact Extent.apart_of_le (by decide)
      · rw [List.mem_singleton.1 he]
        exact Extent.apart_of_le (by rw [harea]; decide)
    · intro e he
      rw [List.mem_singleton.1 he]
      exact Extent.apart_of_le (by rw [harea]; decide)

theorem rt11Marked_wellFormed : (rt11SampleSegment rt11MarkedWords).WellFormed := by
  refine ⟨⟨⟨7, 72⟩, rfl⟩, ?_, ?_⟩
  · rw [rt11MarkedListing]
    exact Option.some_ne_none _
  · rw [rt11MarkedListing]
    decide

theorem rt11Hole_wellFormed : (rt11SampleSegment rt11HoleWords).WellFormed := by
  refine ⟨⟨⟨7, 72⟩, rfl⟩, ?_, ?_⟩
  · rw [rt11HoleListing]
    exact Option.some_ne_none _
  · rw [rt11HoleListing]
    decide

theorem squeeze_keeps_files_hole : ∃ img', rt11Squeeze (rt11Sample rt11HoleWords) = (.ok (), img') ∧
    Rt11Squeezed (rt11Sample rt11HoleWords) img' 6 [rt11SampleSegment rt11HoleWords] := by
  have hdone : rt11Squeeze (rt11Sample rt11HoleWords) =
      (.ok (), (rt11SqueezeSegment (rt11Sample rt11HoleWords) 6 1).2) := by
    rw [rt11Squeeze_single (rt11Sample_home _) (rt11Sample_load _) rfl]
    rfl
  refine ⟨_, hdone, (squeeze_keeps_files (rt11Sample_directory rfl rfl rt11Hole_wellFormed) hdone).2 ?_⟩
  intro s hs
  rw [List.mem_singleton.1 hs, rt11HoleListing]
  decide

/-- The check finds nothing wrong with the volume, and the squeeze leaves the six free blocks with the end mark. -/
theorem squeeze_leaves_mark : Rt11Directory (rt11Sample rt11MarkedWords) 6 [rt11SampleSegment rt11MarkedWords] ∧
    rt11Fsck (rt11Sample rt11MarkedWords) false = (.ok [], rt11Sample rt11MarkedWords) ∧
    rt11Squeeze (rt11Sample rt11MarkedWords) = (.ok (), rt11Sample rt11MarkedWords) ∧
    ¬Rt11Squeezed (rt11Sample rt11MarkedWords) (rt11Sample rt11MarkedWords) 6 [rt11SampleSegment rt11MarkedWords] := by
  refine ⟨rt11Sample_directory rfl rfl rt11Marked_wellFormed, ?_, ?_, ?_⟩
  · rw [rt11Fsck_single (rt11Sample_home _) (rt11Sample_load _) rfl (by decide)]
    rfl
  · rw [rt11Squeeze_single (rt11Sample_home _) (rt11Sample_load _) rfl]
    rfl
  · intro h
    obtain ⟨chain, hlinked, hall⟩ := h.segments
    have hsame := hlinked.unique (rt11Sample_directory rfl rfl rt11Marked_wellFormed).linked
    rw [hsame] at hall
    cases hall with
    | cons hone _ =>
      have hlen := hone.2.markLen
      rw [rt11MarkedListing] at hlen
      exact absurd hlen (by decide)

end K1801.Tools
