import K1801.Tools.Rt11Entries
import K1801.Tools.Rt11Squeeze

/-! # Consistency of RT-11 volumes

`rt11_mkfs` makes directories of one segment, and no call links another one. What every call keeps is stated of
that segment.
-/

namespace K1801.Tools

open Core Library

/-! ## Calls -/

inductive Rt11Call where
  | add (file : List Byte) (name : Rt11Name) (date : Word)
  | remove (name : Rt11Name) (force : Bool)
  | setProtect (name : Rt11Name) (protect : Bool)
  | squeeze

def Rt11Call.run : Rt11Call → Rt11Image → Rt11Result Unit
  | .add file name date, img => rt11AddFile img file name date
  | .remove name force, img => rt11RemoveFile img name force
  | .setProtect name protect, img => rt11SetProtect img name protect
  | .squeeze, img => rt11Squeeze img

/-! ## The invariant -/

/-- The only segment of a directory, with entries that fill the volume. -/
structure Rt11Segment.Sound (s : Rt11Segment) (volumeBlocks : Nat) : Prop where
  last : s.hdr.nextSegment = 0
  extra : s.hdr.extraBytes = 0
  start : 8 ≤ s.hdr.dataStartBlock.toNat
  room : s.hdr.dataStartBlock.toNat < volumeBlocks
  mark : ∃ eos, s.listing.eos = some eos ∧ eos.length = 0
  entries : Rt11Sound (volumeBlocks - s.hdr.dataStartBlock.toNat) s.listing.entries

theorem Rt11Segment.Sound.layout {s : Rt11Segment} {volumeBlocks : Nat} (h : s.Sound volumeBlocks) :
    rt11EntryLayout s.hdr = .ok ⟨7, 72⟩ := by
  rw [rt11EntryLayout, h.extra]
  rfl

theorem Rt11Segment.Sound.eosLen {s : Rt11Segment} {volumeBlocks : Nat} (h : s.Sound volumeBlocks) :
    s.listing.eosLen = 0 := by
  obtain ⟨eos, heos, hlen⟩ := h.mark
  rw [Rt11Scan.eosLen, heos]
  change eos.length.toNat = 0
  rw [hlen]
  rfl

theorem Rt11Segment.Sound.area {s : Rt11Segment} {volumeBlocks : Nat} (h : s.Sound volumeBlocks) :
    s.area = ⟨s.hdr.dataStartBlock.toNat, volumeBlocks - s.hdr.dataStartBlock.toNat⟩ := by
  rw [Rt11Segment.area, h.eosLen, h.entries.total, Nat.add_zero]

/-- A volume with a sound directory in its first segment. -/
structure Rt11Good (img : Rt11Image) (s : Rt11Segment) : Prop where
  home : rt11ReadHome img = .ok rt11DirStartBlock
  load : rt11LoadSegment img rt11DirStartBlock 1 = .ok s
  sound : s.Sound img.volumeBlocks

namespace Rt11Good

variable {img img' : Rt11Image} {s : Rt11Segment}

theorem blocks (h : Rt11Good img s) : 8 ≤ img.volumeBlocks :=
  Nat.le_of_lt (Nat.lt_of_le_of_lt h.sound.start h.sound.room)

theorem segNum (h : Rt11Good img s) : s.segNum = 1 := (rt11LoadSegment_ok h.load).2.1

theorem place (h : Rt11Good img s) : s.place = ⟨6, 2⟩ := by
  rw [Rt11Segment.place, (rt11LoadSegment_ok h.load).2.2.1]
  rfl

theorem segBlock (h : Rt11Good img s) : s.segBlock = 6 := (rt11LoadSegment_ok h.load).2.2.1

theorem walk (h : Rt11Good img s) : rt11WalkBegin img = .ok (rt11WalkReset rt11DirStartBlock) := by
  rw [rt11WalkBegin, h.home]

/-- Only the first eight blocks of the volume matter. -/
theorem frame (h : Rt11Good img s) (hvolume : img'.volumeBlocks = img.volumeBlocks)
    (hblocks : ∀ r, r < 8 → img'.blocks (img'.baseBlock + r) = img.blocks (img.baseBlock + r)) : Rt11Good img' s := by
  have hle := h.blocks
  have hhome : rt11ReadHome img' = rt11ReadHome img := by
    simp only [rt11ReadHome, rt11ReadBlock]
    rw [rt11Seek_of_lt (by omega), rt11Seek_of_lt (by omega)]
    simp only [hblocks 1 (by decide)]
  have hread : rt11ReadSegment img' 6 = rt11ReadSegment img 6 := by
    rw [rt11ReadSegment_of_le (by omega), rt11ReadSegment_of_le (by omega), hblocks 6 (by decide), Nat.add_assoc,
      Nat.add_assoc, hblocks 7 (by decide)]
  refine ⟨hhome.trans h.home, ?_, ?_⟩
  · have hload := h.load
    have hblock : rt11SegmentBlock 6 1 = 6 := rfl
    rw [rt11LoadSegment, hblock] at hload ⊢
    rw [hread]
    exact hload
  · rw [hvolume]
    exact h.sound

theorem frame_data (h : Rt11Good img s) {touched : Nat → Prop} (hc : img.Changed img' touched)
    (hdata : ∀ b, touched b → 8 ≤ b) : Rt11Good img' s :=
  h.frame hc.volumeBlocks fun r hr => hc.block fun hin => absurd (hdata r hin) (Nat.not_le_of_lt hr)

end Rt11Good

/-- A directory written to the first segment. -/
theorem rt11WriteSegment_good {img : Rt11Image} {buf : SegBuf} {es : List Rt11Entry} {eos : Rt11Entry}
    (hhome : rt11ReadHome img = .ok rt11DirStartBlock) (hlast : (rt11ParseSegmentHeader buf).nextSegment = 0)
    (hextra : (rt11ParseSegmentHeader buf).extraBytes = 0)
    (hstart : 8 ≤ (rt11ParseSegmentHeader buf).dataStartBlock.toNat)
    (hroom : (rt11ParseSegmentHeader buf).dataStartBlock.toNat < img.volumeBlocks)
    (hscan : rt11Scan buf 7 72 0 = ⟨es, some eos⟩) (heos : eos.length = 0)
    (hsound : Rt11Sound (img.volumeBlocks - (rt11ParseSegmentHeader buf).dataStartBlock.toNat) es) :
    ∃ img' s, rt11WriteSegment img rt11DirStartBlock buf = (.ok (), img') ∧
      img.Changed img' (Extent.Has ⟨rt11DirStartBlock, rt11DirSegmentBlocks⟩) ∧ Rt11Good img' s := by
  obtain ⟨img', hwrite, hchanged, hread⟩ := rt11WriteSegment_of_le (b := rt11DirStartBlock) buf
    (show 6 + 2 ≤ img.volumeBlocks by omega)
  have hhdr : rt11ParseSegmentHeader (rt11Stored buf) = rt11ParseSegmentHeader buf := rfl
  have hload : rt11LoadSegment img' rt11DirStartBlock 1 =
      .ok ⟨1, rt11Stored buf, rt11ParseSegmentHeader (rt11Stored buf), rt11DirStartBlock⟩ := by
    have hblock : rt11SegmentBlock rt11DirStartBlock 1 = rt11DirStartBlock := rfl
    rw [rt11LoadSegment, hblock, hread]
  have hlayout : rt11EntryLayout (rt11ParseSegmentHeader (rt11Stored buf)) = .ok ⟨7, 72⟩ := by
    rw [rt11EntryLayout, hhdr, hextra]
    rfl
  have hlisting : Rt11Segment.listing
      ⟨1, rt11Stored buf, rt11ParseSegmentHeader (rt11Stored buf), rt11DirStartBlock⟩ = ⟨es, some eos⟩ := by
    rw [← Rt11Segment.listing_eq hlayout]
    exact (rt11Scan_stored hlayout buf).trans hscan
  refine ⟨img', _, hwrite, hchanged, ⟨?_, hload, ⟨hlast, hextra, hstart, ?_, ?_, ?_⟩⟩⟩
  · have hone : ¬Extent.Has ⟨rt11DirStartBlock, rt11DirSegmentBlocks⟩ 1 := fun hin => absurd hin.1 (by decide)
    rw [rt11ReadHome_frame hchanged hone, hhome]
  · rw [hchanged.volumeBlocks]
    exact hroom
  · rw [hlisting]
    exact ⟨eos, rfl, heos⟩
  · rw [hlisting, hchanged.volumeBlocks]
    exact hsound

/-! ## What a call keeps -/

structure Rt11Keeps (img img' : Rt11Image) : Prop where
  good : ∃ s, Rt11Good img' s
  inside : img.Changed img' (· < img.volumeBlocks)

theorem Rt11Good.keeps {img : Rt11Image} {s : Rt11Segment} (h : Rt11Good img s) : Rt11Keeps img img :=
  ⟨⟨s, h⟩, .refl _ _⟩

/-- The image behind a call that visits the only segment. -/
theorem rt11Settle_single {γ : Type} {img : Rt11Image} {s : Rt11Segment} (h : Rt11Good img s) (e : Errno)
    (visit : Rt11Segment → γ → Rt11Image → Rt11Result (γ ⊕ Unit)) (g : γ) :
    (rt11Settle e (rt11WalkLoop visit (rt11WalkReset rt11DirStartBlock) g img)).2 = (visit s g img).2 := by
  obtain ⟨walk, _, hloop⟩ := rt11WalkLoop_single visit g h.load h.sound.last
  rw [hloop]
  rcases visit s g img with ⟨e | ⟨g' | a⟩, img'⟩
  · rfl
  · rfl
  · rfl

theorem rt11Listing_scan {img : Rt11Image} {s : Rt11Segment} (h : Rt11Good img s) :
    ∃ eos, rt11Scan s.buf 7 72 0 = ⟨s.listing.entries, some eos⟩ ∧ eos.length = 0 := by
  obtain ⟨eos, heos, hlen⟩ := h.sound.mark
  have hlisting := Rt11Segment.listing_eq h.sound.layout
  refine ⟨eos, ?_, hlen⟩
  rw [← heos]
  exact hlisting

/-- A segment with one entry edited, written over the old one. -/
theorem Rt11Good.store {img img₁ : Rt11Image} {s : Rt11Segment} (h : Rt11Good img s) (h₁ : Rt11Good img₁ s)
    (hdata : img.Changed img₁ (· < img.volumeBlocks)) {buf : SegBuf} {es : List Rt11Entry} {eos : Rt11Entry}
    (hhdr : ∀ w, w < 5 → buf w = s.buf w) (hscan : rt11Scan buf 7 72 0 = ⟨es, some eos⟩) (heos : eos.length = 0)
    (hsound : Rt11Sound (img.volumeBlocks - s.hdr.dataStartBlock.toNat) es) :
    ∃ img', rt11WriteSegment img₁ s.segBlock buf = (.ok (), img') ∧ Rt11Keeps img img' := by
  have hsame : rt11ParseSegmentHeader buf = s.hdr := by
    rw [(rt11LoadSegment_ok h.load).2.2.2, rt11ParseSegmentHeader, hhdr 0 (by decide), hhdr 1 (by decide),
      hhdr 2 (by decide), hhdr 3 (by decide), hhdr 4 (by decide)]
    rfl
  have hvolume := hdata.volumeBlocks
  obtain ⟨img', s', hwrite, hchanged, hgood⟩ := rt11WriteSegment_good h₁.home (by rw [hsame]; exact h.sound.last)
    (by rw [hsame]; exact h.sound.extra) (by rw [hsame]; exact h.sound.start)
    (by rw [hsame, hvolume]; exact h.sound.room) hscan heos (by rw [hsame, hvolume]; exact hsound)
  refine ⟨img', by rw [h.segBlock]; exact hwrite, ⟨s', hgood⟩, hdata.trans (hchanged.mono fun b hb => ?_)⟩
  have hle := h.blocks
  have hstop : b < 6 + 2 := hb.2
  omega

/-! ### Removing and protecting -/

theorem zipIdx_split {α : Type} {l : List α} {a : α} {i : Nat} (h : (a, i) ∈ l.zipIdx) :
    ∃ pre post, l = pre ++ a :: post ∧ pre.length = i := by
  rw [List.mk_mem_zipIdx_iff_getElem?, List.getElem?_eq_some_iff] at h
  obtain ⟨hi, ha⟩ := h
  refine ⟨l.take i, l.drop (i + 1), ?_, List.length_take_of_le (Nat.le_of_lt hi)⟩
  rw [← ha, List.getElem_cons_drop, List.take_append_drop]

/-- An edit of one row. -/
structure Rt11RowEdit (buf buf' : SegBuf) (i : Nat) (e' : Rt11Entry) : Prop where
  header : ∀ w, w < 5 → buf' w = buf w
  row : rt11Row buf' 7 i = e'
  others : ∀ j, j ≠ i → rt11Row buf' 7 j = rt11Row buf 7 j

theorem rt11RowEdit_write {buf : SegBuf} (i : Nat) {e : Rt11Entry} (he : e.Fits 7) :
    Rt11RowEdit buf (rt11WriteEntry 7 i e buf) i e :=
  ⟨fun _ hw => rt11SetWords_before (by omega), rt11Row_write he buf, fun _ hj => rt11Row_write_other he buf hj⟩

theorem rt11RowEdit_status (buf : SegBuf) (i : Nat) (status : Word) :
    Rt11RowEdit buf (Function.update buf (5 + i * 7) status) i { rt11Row buf 7 i with status := status } := by
  refine ⟨fun w hw => Function.update_of_ne (by omega) _ _, ?_, fun j hj => ?_⟩
  · rw [rt11Row_status (Nat.le_refl _), if_pos rfl]
  · rw [rt11Row_status (Nat.le_refl _), if_neg hj]

theorem rt11ChangeVisit_keeps {img : Rt11Image} {s : Rt11Segment} (h : Rt11Good img s) (name : Rt11Name)
    {change : Nat → Rt11Layout → Rt11Entry → Except Errno (SegBuf → SegBuf)}
    (hchange : ∀ pre e post edit, s.listing.entries = pre ++ e :: post → e.isFile = true →
      change pre.length ⟨7, 72⟩ e = .ok edit → ∃ e', Rt11RowEdit s.buf (edit s.buf) pre.length e' ∧
        e'.isEos = false ∧ Rt11Sound (img.volumeBlocks - s.hdr.dataStartBlock.toNat) (pre ++ ([e'] ++ post))) :
    Rt11Keeps img (rt11ChangeVisit name change s () img).2 := by
  obtain ⟨eos, hscan, heos⟩ := rt11Listing_scan h
  rw [rt11ChangeVisit, h.sound.layout]
  simp only [Rt11Segment.listing_eq h.sound.layout]
  rcases hfind : s.listing.entries.zipIdx.find? (fun p => p.1.isFile && p.1.name = name) with _ | ⟨e, i⟩
  · simp only [hfind]
    exact h.keeps
  · have hmem := List.mem_of_find?_eq_some hfind
    have hfile := List.find?_some hfind
    rw [Bool.and_eq_true] at hfile
    obtain ⟨pre, post, hentries, hi⟩ := zipIdx_split hmem
    subst hi
    simp only [hfind]
    rcases hch : change pre.length ⟨7, 72⟩ e with err | edit
    · exact h.keeps
    · obtain ⟨e', hedit, hlive, hsound⟩ := hchange pre e post edit hentries hfile.1 hch
      rw [hentries] at hscan
      have hroom := (rt11Scan_length s.buf 7 72 0).2 (by rw [hscan]; exact Option.some_ne_none _)
      rw [hscan, List.length_append, List.length_cons] at hroom
      have hscan' : rt11Scan (edit s.buf) 7 72 0 = ⟨pre ++ ([e'] ++ post), some eos⟩ := by
        refine rt11Scan_edit (Nat.le_refl _) hscan ?_ ?_ ?_ ?_ ?_
        · exact fun j hj => hedit.others j (Nat.ne_of_lt hj)
        · intro k hk
          have hzero : k = 0 := Nat.lt_one_iff.1 hk
          subst hzero
          exact hedit.row
        · exact fun k _ => hedit.others _ (by rw [List.length_singleton]; omega)
        · intro e'' he''
          rw [List.mem_singleton.1 he'']
          exact hlive
        · rw [List.length_singleton]
          omega
      obtain ⟨img', hwrite, hkeeps⟩ := h.store h (.refl _ _) hedit.header hscan' heos hsound
      simp only [hwrite]
      exact hkeeps

theorem Rt11Entry.plain_blank (length : Word) (entryWords : Nat) : (Rt11Entry.blank rt11EMpty length entryWords).Plain := by
  have htent : ¬rt11EMpty &&& rt11ETent ≠ 0 := by decide
  refine ⟨?_, decide_eq_false htent⟩
  rw [(blank_empty length entryWords).1, (blank_empty length entryWords).2.1]
  rfl

/-- The protection bit says nothing of what an entry is. -/
theorem rt11Prot_kinds (status kind : Word) (h : rt11EProt &&& kind = 0#16)
    (h' : ~~~rt11EProt &&& kind = kind) :
    (status ||| rt11EProt) &&& kind = status &&& kind ∧ (status &&& ~~~rt11EProt) &&& kind = status &&& kind := by
  refine ⟨?_, ?_⟩
  · rw [BitVec.and_or_distrib_right, h, BitVec.or_zero]
  · rw [BitVec.and_assoc, h']

theorem Rt11Entry.protect_kinds (e : Rt11Entry) (protect : Bool) :
    let e' := { e with status := if protect then e.status ||| rt11EProt else e.status &&& ~~~rt11EProt }
    e'.isFile = e.isFile ∧ e'.isEmpty = e.isEmpty ∧ e'.isTent = e.isTent ∧ e'.isEos = e.isEos := by
  have hfile := rt11Prot_kinds e.status (rt11EPerm ||| rt11ETent) (by decide) (by decide)
  have hempty := rt11Prot_kinds e.status rt11EMpty (by decide) (by decide)
  have htent := rt11Prot_kinds e.status rt11ETent (by decide) (by decide)
  have heos := rt11Prot_kinds e.status rt11EEos (by decide) (by decide)
  cases protect with
  | true =>
    simp only [if_true, isFile, isEmpty, isTent, isEos, hfile.1, hempty.1, htent.1, heos.1, and_self]
  | false =>
    simp only [Bool.false_eq_true, if_false, isFile, isEmpty, isTent, isEos, hfile.2, hempty.2, htent.2, heos.2,
      and_self]

theorem rt11RemoveFile_keeps {img : Rt11Image} {s : Rt11Segment} (h : Rt11Good img s) (name : Rt11Name)
    (force : Bool) : Rt11Keeps img (rt11RemoveFile img name force).2 := by
  simp only [rt11RemoveFile, h.walk]
  rw [rt11Settle_single h]
  refine rt11ChangeVisit_keeps h name ?_
  intro pre e post edit hentries hfile hedit
  split_ifs at hedit
  cases hedit
  refine ⟨_, rt11RowEdit_write _ (Rt11Entry.fits_blank _ _ (Nat.le_refl _)), (Rt11Entry.blank_empty _ _).2.2, ?_⟩
  have hsound := h.sound.entries
  rw [hentries] at hsound
  exact hsound.clear hfile (Rt11Entry.plain_blank _ _) (Rt11Entry.blank_empty _ _).2.1 rfl

theorem rt11SetProtect_keeps {img : Rt11Image} {s : Rt11Segment} (h : Rt11Good img s) (name : Rt11Name)
    (protect : Bool) : Rt11Keeps img (rt11SetProtect img name protect).2 := by
  simp only [rt11SetProtect, h.walk]
  rw [rt11Settle_single h]
  refine rt11ChangeVisit_keeps h name ?_
  intro pre e post edit hentries hfile hedit
  split at hedit
  · cases hedit
  cases hedit
  obtain ⟨eos, hscan, _⟩ := rt11Listing_scan h
  have hrow := (rt11Scan_rows hscan).1 pre.length (by rw [hentries, List.length_append, List.length_cons]; omega)
  simp only [hentries, Nat.zero_add, List.getElem_append_right (Nat.le_refl _), Nat.sub_self,
    List.getElem_cons_zero] at hrow
  obtain ⟨hfile', hempty', htent', heos'⟩ := e.protect_kinds protect
  have hedit := rt11RowEdit_status s.buf pre.length
    (if protect then e.status ||| rt11EProt else e.status &&& ~~~rt11EProt)
  rw [hrow] at hedit
  have hin : e ∈ s.listing.entries := by
    rw [hentries]
    exact List.mem_append_right _ (List.mem_cons_self ..)
  have hlive : e.isEos = false := by
    have hall := rt11Scan_entries s.buf (Nat.le_refl 7) 72 0
    rw [hscan] at hall
    exact (hall e hin).2
  have hplain := h.sound.entries.plain e hin
  have hsound := h.sound.entries
  rw [hentries] at hsound
  refine ⟨_, hedit, heos'.trans hlive, hsound.restatus hfile ⟨?_, htent'.trans hplain.permanent⟩ (hfile'.trans hfile)
    rfl rfl⟩
  exact hfile'.trans (hplain.kind.trans (congrArg _ hempty'.symm))

/-! ### Adding -/

theorem rt11SegmentFiles_entries {img : Rt11Image} {s : Rt11Segment} (h : Rt11Good img s) :
    (rt11SegmentFiles s ⟨7, 72⟩).map (fun d => (d.entry, d.area)) = s.areas.filter fun p => p.1.isFile := by
  have hzip : s.areas.zipIdx.map Prod.fst = s.areas := List.zipIdx_map_fst 0 s.areas
  rw [rt11SegmentFiles, Rt11Segment.areas_eq h.sound.layout, List.map_map, ← hzip, List.filter_map, hzip]
  rfl

theorem rt11FindFile_new {img : Rt11Image} {s : Rt11Segment} (h : Rt11Good img s) {name : Rt11Name} {e : Errno}
    (hfind : rt11FindFile img name = .error e) : name ∉ rt11Names s.listing.entries := by
  intro hin
  obtain ⟨f, hf, hname⟩ := List.mem_map.1 hin
  have hentries := congrArg (List.map Prod.fst) (rt11SegmentFiles_entries h)
  rw [rt11Areas_files, List.map_map] at hentries
  rw [← hentries] at hf
  obtain ⟨d, hd, hdf⟩ := List.mem_map.1 hf
  have hsome : (rt11SegmentFiles s ⟨7, 72⟩).find? (fun d => d.entry.name = name) ≠ none := by
    intro hnone
    refine absurd (decide_eq_true ?_) (List.find?_eq_none.1 hnone d hd)
    rw [← hname, ← hdf]
    rfl
  obtain ⟨d', hd'⟩ := Option.ne_none_iff_exists'.1 hsome
  obtain ⟨walk, _, hloop⟩ := rt11WalkLoop_single (rt11FindVisit name) () h.load h.sound.last
  have hvisit : rt11FindVisit name s () img = (.ok (.inr d'), img) := by
    rw [rt11FindVisit, h.sound.layout]
    simp only [hd']
  rw [hvisit] at hloop
  simp only [rt11FindFile, h.walk, hloop] at hfind
  cases hfind

theorem rt11Place_split {start i : Nat} {es : List Rt11Entry} {e : Rt11Entry} {area : Extent}
    (h : ((e, area), i) ∈ (rt11Place start es).zipIdx) :
    ∃ pre post, es = pre ++ e :: post ∧ pre.length = i ∧ area = ⟨start + rt11TotalLen pre, e.length.toNat⟩ := by
  obtain ⟨pre, post, hplace, hi⟩ := zipIdx_split h
  induction es generalizing start i pre with
  | nil =>
    cases pre with
    | nil => cases hplace
    | cons p pre => cases hplace
  | cons e' es ih =>
    rw [rt11Place] at hplace
    cases pre with
    | nil =>
      rw [List.nil_append, List.cons.injEq, Prod.mk.injEq] at hplace
      obtain ⟨⟨he, harea⟩, _⟩ := hplace
      subst he
      exact ⟨[], es, rfl, hi, harea.symm⟩
    | cons p pre =>
      rw [List.cons_append, List.cons.injEq] at hplace
      have hmem : ((e, area), pre.length) ∈ (rt11Place (start + e'.length.toNat) es).zipIdx := by
        rw [List.mk_mem_zipIdx_iff_getElem?, hplace.2, List.getElem?_append_right (Nat.le_refl _), Nat.sub_self]
        rfl
      obtain ⟨pre', post', hes, hlen, harea⟩ := ih hmem pre hplace.2 rfl
      refine ⟨e' :: pre', post', by rw [hes]; rfl, ?_, ?_⟩
      · rw [← hi, List.length_cons, List.length_cons, hlen]
      · rw [harea]
        exact congrArg (fun n => Extent.mk n e.length.toNat) (Nat.add_assoc _ _ _)

theorem Rt11Image.changed_putData (img : Rt11Image) (b count : Nat) (data : Nat → Block) :
    img.Changed (img.putData (img.baseBlock + b) count data) (Extent.Has ⟨b, count⟩) := by
  refine ⟨rfl, fun a ha => if_neg ?_⟩
  rintro ⟨hlo, hhi⟩
  exact ha (a - img.baseBlock) ⟨by change b ≤ _; omega, by change _ < b + count; omega⟩ (by omega)

theorem rt11NeededBlocks_pos (file : List Byte) : 0 < rt11NeededBlocks file :=
  Nat.lt_of_lt_of_le Nat.one_pos (Nat.le_max_right _ _)

theorem rt11FileEntry_kinds (name : Rt11Name) (needed : Nat) (date : Word) (entryWords : Nat) :
    (rt11FileEntry name needed date entryWords).Plain ∧ (rt11FileEntry name needed date entryWords).isFile = true ∧
      (rt11FileEntry name needed date entryWords).isEos = false := by
  have hfile : rt11EPerm &&& (rt11EPerm ||| rt11ETent) ≠ 0 := by decide
  have hempty : ¬rt11EPerm &&& rt11EMpty ≠ 0 := by decide
  have htent : ¬rt11EPerm &&& rt11ETent ≠ 0 := by decide
  have heos : ¬rt11EPerm &&& rt11EEos ≠ 0 := by decide
  have hisEmpty : (rt11FileEntry name needed date entryWords).isEmpty = false := decide_eq_false hempty
  refine ⟨⟨?_, decide_eq_false htent⟩, decide_eq_true hfile, decide_eq_false heos⟩
  rw [hisEmpty]
  exact decide_eq_true hfile

/-- What is left of the candidate, as the entries behind the file. -/
def rt11Rest (remaining : Nat) : List Rt11Entry :=
  if 0 < remaining then [.blank rt11EMpty (BitVec.ofNat 16 remaining) 7] else []

theorem rt11Split_scan {layout : Rt11Layout} (hwords : 7 ≤ layout.entryWords) {buf buf' : SegBuf}
    {pre post : List Rt11Entry} {e eos file : Rt11Entry} {remaining : Nat}
    (hscan : rt11Scan buf layout.entryWords layout.maxEntries 0 = ⟨pre ++ e :: post, some eos⟩)
    (hfile : file.Fits layout.entryWords ∧ file.isEos = false)
    (h : rt11Split layout ⟨pre ++ e :: post, some eos⟩ pre.length file remaining buf = some buf') :
    (∀ w, w < 5 → buf' w = buf w) ∧ rt11Scan buf' layout.entryWords layout.maxEntries 0 =
      ⟨pre ++ (file :: rt11FreeEntry layout remaining ++ post), some eos⟩ := by
  have hroom := (rt11Scan_length buf layout.entryWords layout.maxEntries 0).2
    (by rw [hscan]; exact Option.some_ne_none _)
  rw [hscan, List.length_append, List.length_cons] at hroom
  unfold rt11Split at h
  unfold rt11FreeEntry
  split at h
  · rename_i hrem
    rw [if_pos hrem]
    simp only [] at h
    split at h
    · cases h
    · rename_i seg hinsert
      cases h
      have hrest : (Rt11Entry.blank rt11EMpty (BitVec.ofNat 16 remaining) layout.entryWords).Fits layout.entryWords :=
        Rt11Entry.fits_blank _ _ hwords
      obtain ⟨hlow, hhigh⟩ := rt11Row_insert hwords hinsert
      obtain ⟨hlast, hhdr⟩ := rt11InsertEntry_some hinsert
      rw [List.length_append, List.length_cons] at hlast
      refine ⟨fun w hw => ?_, rt11Scan_edit hwords hscan ?_ ?_ ?_ ?_ ?_⟩
      · rw [rt11WriteEntry, rt11SetWords_before (by omega), rt11WriteEntry, rt11SetWords_before (by omega), hhdr w hw]
      · intro j hj
        rw [rt11Row_write_other hfile.1 _ (Nat.ne_of_lt hj), rt11Row_write_other hrest _ (by omega),
          hlow j (by omega)]
      · intro k hk
        cases k with
        | zero => exact rt11Row_write hfile.1 _
        | succ k =>
          have hzero : k = 0 := Nat.lt_one_iff.1 (Nat.lt_of_succ_lt_succ hk)
          subst hzero
          rw [rt11Row_write_other hfile.1 _ (by omega)]
          exact rt11Row_write hrest _
      · intro k hk
        rw [rt11Row_write_other hfile.1 _ (by rw [List.length_cons]; omega),
          rt11Row_write_other hrest _ (by rw [List.length_cons, List.length_singleton]; omega), List.length_cons,
          List.length_singleton]
        have hrow := hhigh (pre.length + 1 + k) (by omega) (by rw [List.length_append, List.length_cons]; omega)
        rw [← hrow]
        exact congrArg _ (by omega)
      · intro e' he'
        rcases List.mem_cons.1 he' with he' | he'
        · rw [he']
          exact hfile.2
        · rw [List.mem_singleton.1 he']
          exact (Rt11Entry.blank_empty _ _).2.2
      · rw [List.length_cons, List.length_singleton]
        omega
  · rename_i hrem
    rw [if_neg hrem]
    cases h
    refine ⟨fun w hw => rt11SetWords_before (by omega), rt11Scan_edit hwords hscan ?_ ?_ ?_ ?_ ?_⟩
    · exact fun j hj => rt11Row_write_other hfile.1 _ (Nat.ne_of_lt hj)
    · intro k hk
      have hzero : k = 0 := Nat.lt_one_iff.1 hk
      subst hzero
      exact rt11Row_write hfile.1 _
    · intro k _
      rw [rt11Row_write_other hfile.1 _ (by rw [List.length_singleton]; omega)]
      rfl
    · intro e' he'
      rw [List.mem_singleton.1 he']
      exact hfile.2
    · rw [List.length_singleton]
      omega

theorem rt11Rest_kinds (remaining : Nat) : ∀ e ∈ rt11Rest remaining, e.Plain ∧ e.isFile = false := by
  intro e he
  unfold rt11Rest at he
  split at he
  · rw [List.mem_singleton.1 he]
    exact ⟨Rt11Entry.plain_blank _ _, (Rt11Entry.blank_empty _ _).2.1⟩
  · cases he

theorem rt11Rest_len {remaining : Nat} (h : remaining ≤ 0xFFFF) : rt11TotalLen (rt11Rest remaining) = remaining :=
  (rt11FreeEntry_spec ⟨7, 72⟩ h).2.1

theorem rt11AddVisit_keeps {img : Rt11Image} {s : Rt11Segment} (h : Rt11Good img s) (file : List Byte)
    {name : Rt11Name} (date : Word) (hnew : name ∉ rt11Names s.listing.entries) :
    Rt11Keeps img (rt11AddVisit file name date s () img).2 := by
  obtain ⟨eos, hscan, heos⟩ := rt11Listing_scan h
  rw [rt11AddVisit, h.sound.layout]
  simp only [Rt11Segment.areas_eq h.sound.layout, Rt11Segment.listing_eq h.sound.layout]
  rcases hcand : rt11Candidate s.areas (rt11NeededBlocks file) with _ | ⟨⟨e, area⟩, i⟩
  · exact h.keeps
  · have hmem := List.mem_of_find?_eq_some hcand
    have hfits := List.find?_some hcand
    rw [Bool.and_eq_true, decide_eq_true_eq] at hfits
    obtain ⟨pre, post, hentries, hi, harea⟩ := rt11Place_split hmem
    subst hi harea
    obtain ⟨hempty, hneeded⟩ := hfits
    simp only [] at hempty hneeded
    have htotal := h.sound.entries.total
    have hcons : rt11TotalLen (e :: post) = e.length.toNat + rt11TotalLen post := rfl
    rw [hentries, rt11TotalLen_append, hcons] at htotal
    have hroom := h.sound.room
    have hstart := h.sound.start
    have hlong := e.length.isLt
    have hpos := rt11NeededBlocks_pos file
    simp only []
    rw [if_neg (by omega), rt11Seek_of_lt (by omega)]
    simp only []
    have hput := img.changed_putData (s.hdr.dataStartBlock.toNat + rt11TotalLen pre) (rt11NeededBlocks file)
      (rt11HostBlock file)
    have hput₁ : Rt11Good (img.putData (img.baseBlock + (s.hdr.dataStartBlock.toNat + rt11TotalLen pre))
        (rt11NeededBlocks file) (rt11HostBlock file)) s :=
      h.frame_data hput fun b hb => Nat.le_trans hstart (Nat.le_trans (Nat.le_add_right _ _) hb.1)
    have hinside : img.Changed _ (· < img.volumeBlocks) := hput.mono fun b hb => by
      have hstop : b < s.hdr.dataStartBlock.toNat + rt11TotalLen pre + rt11NeededBlocks file := hb.2
      omega
    have hlisting : s.listing = ⟨pre ++ e :: post, some eos⟩ := by
      have hsame := Rt11Segment.listing_eq h.sound.layout
      rw [← hsame, ← hentries]
      exact hscan
    rw [hlisting]
    rcases hsplit : rt11Split ⟨7, 72⟩ ⟨pre ++ e :: post, some eos⟩ pre.length
        (rt11FileEntry name (rt11NeededBlocks file) date 7) (e.length.toNat - rt11NeededBlocks file) s.buf with _ | buf
    · exact ⟨⟨s, hput₁⟩, hinside⟩
    · have hkinds := rt11FileEntry_kinds name (rt11NeededBlocks file) date 7
      have hfit : (rt11FileEntry name (rt11NeededBlocks file) date 7).Fits 7 := rfl
      rw [hentries] at hscan hnew
      obtain ⟨hhdr, hscan'⟩ := rt11Split_scan (Nat.le_refl 7) hscan ⟨hfit, hkinds.2.2⟩ hsplit
      have hlen : rt11TotalLen (rt11FileEntry name (rt11NeededBlocks file) date 7 ::
          rt11Rest (e.length.toNat - rt11NeededBlocks file)) = e.length.toNat := by
        change (BitVec.ofNat 16 (rt11NeededBlocks file)).toNat + rt11TotalLen (rt11Rest _) = _
        rw [rt11Rest_len (by omega), BitVec.toNat_ofNat, Nat.mod_eq_of_lt (by omega)]
        omega
      have hsound := h.sound.entries
      rw [hentries] at hsound
      obtain ⟨img', hwrite, hkeeps⟩ := h.store hput₁ hinside hhdr hscan' heos
        (hsound.fill hempty hkinds.1 hkinds.2.1 hnew (rt11Rest_kinds _) hlen)
      simp only [hwrite]
      exact hkeeps

theorem rt11AddFile_keeps {img : Rt11Image} {s : Rt11Segment} (h : Rt11Good img s) (file : List Byte)
    (name : Rt11Name) (date : Word) : Rt11Keeps img (rt11AddFile img file name date).2 := by
  rw [rt11AddFile]
  rcases hfind : rt11FindFile img name with e | d
  · simp only [h.walk]
    rw [rt11Settle_single h]
    exact rt11AddVisit_keeps h file date (rt11FindFile_new h hfind)
  · exact h.keeps

/-! ### Squeezing -/

theorem Rt11Entry.tent_file {e : Rt11Entry} (h : e.isFile = false) : e.isTent = false := by
  have hmask : (rt11EPerm ||| rt11ETent) &&& rt11ETent = rt11ETent := by decide
  have hnone : e.status &&& (rt11EPerm ||| rt11ETent) = 0 := Decidable.not_not.1 (of_decide_eq_false h)
  have htent : e.status &&& rt11ETent = 0 := by
    rw [← hmask, ← BitVec.and_assoc, hnone]
    decide
  exact decide_eq_false fun hne => hne htent

theorem Rt11Good.wellFormed {img : Rt11Image} {s : Rt11Segment} (h : Rt11Good img s) : s.WellFormed := by
  obtain ⟨eos, heos, _⟩ := h.sound.mark
  refine ⟨⟨_, h.sound.layout⟩, ?_, fun e he => (h.sound.entries.plain e he).kind⟩
  rw [heos]
  exact Option.some_ne_none _

theorem Rt11Good.occupied {img : Rt11Image} {s : Rt11Segment} (h : Rt11Good img s) {b : Nat}
    (hb : s.place.Has b ∨ s.area.Has b) : 6 ≤ b ∧ b < img.volumeBlocks := by
  have hroom := h.sound.room
  have hstart := h.sound.start
  rw [h.place, h.sound.area] at hb
  simp only [Extent.Has, Extent.stop] at hb
  omega

theorem Rt11Good.apart {img : Rt11Image} {s : Rt11Segment} (h : Rt11Good img s) : s.place.Apart s.area := by
  intro b hb hb'
  have hstart := h.sound.start
  rw [h.place] at hb
  rw [h.sound.area] at hb'
  simp only [Extent.Has, Extent.stop] at hb hb'
  omega

theorem Rt11Segment.Gathered.sound {s s' : Rt11Segment} {volumeBlocks : Nat} (h : s.Gathered s')
    (hhdr : s'.hdr = s.hdr) (hsound : s.Sound volumeBlocks) : s'.Sound volumeBlocks := by
  obtain ⟨free, hentries, _, hfree, hlen⟩ := h.entries
  have hplain : ∀ e ∈ free, e.Plain ∧ e.isFile = false := by
    intro e he
    have hkind := hfree e he
    refine ⟨⟨?_, Rt11Entry.tent_file hkind.2⟩, hkind.2⟩
    rw [hkind.1, hkind.2]
    rfl
  have htotal : rt11TotalLen s.listing.entries + s.listing.eosLen =
      rt11TotalLen (s.listing.entries.filter Rt11Entry.isFile) + s.listing.freeLen :=
    Rt11Scan.totalLen_eq fun e he => (hsound.entries.plain e he).kind
  rw [hsound.eosLen, hsound.entries.total] at htotal
  refine ⟨?_, ?_, ?_, ?_, ?_, ?_⟩
  · rw [hhdr]
    exact hsound.last
  · rw [hhdr]
    exact hsound.extra
  · rw [hhdr]
    exact hsound.start
  · rw [hhdr]
    exact hsound.room
  · obtain ⟨eos, heos⟩ := Option.ne_none_iff_exists'.1 h.mark
    have hzero := h.markLen
    rw [Rt11Scan.eosLen, heos] at hzero
    exact ⟨eos, heos, BitVec.eq_of_toNat_eq hzero⟩
  · rw [hhdr, hentries]
    refine hsound.entries.gather hplain ?_
    rw [rt11TotalLen_append, hlen]
    omega

theorem rt11Squeeze_keeps {img : Rt11Image} {s : Rt11Segment} (h : Rt11Good img s) :
    Rt11Keeps img (rt11Squeeze img).2 := by
  rw [rt11Squeeze_single h.home h.load h.sound.last]
  rcases hs : rt11SqueezeSegment img rt11DirStartBlock 1 with ⟨e | u, img'⟩
  · have hchanged := rt11SqueezeSegment_error h.load hs
    refine ⟨⟨s, h.frame_data hchanged ?_⟩, hchanged.mono fun b hb => (h.occupied (.inr hb)).2⟩
    intro b hb
    have hstart := h.sound.start
    rw [h.sound.area] at hb
    exact Nat.le_trans hstart hb.1
  · obtain ⟨hchanged, s', hload, hout⟩ := rt11SqueezeSegment_ok h.load h.wellFormed h.apart hs
    have hhome : rt11ReadHome img' = .ok rt11DirStartBlock := by
      have hone : ¬(s.place.Has 1 ∨ s.area.Has 1) := fun hin => absurd (h.occupied hin).1 (by decide)
      rw [rt11ReadHome_frame hchanged hone, h.home]
    have hsound : s'.Sound img.volumeBlocks := by
      cases hempty : s.listing.entries.any Rt11Entry.isEmpty with
      | true => exact (hout.gathered hempty).sound hout.kept.header h.sound
      | false =>
        rw [hout.untouched hempty]
        exact h.sound
    refine ⟨⟨s', hhome, hload, ?_⟩, hchanged.mono fun b hb => (h.occupied hb).2⟩
    rw [hchanged.volumeBlocks]
    exact hsound

theorem Rt11Call.run_keeps {img : Rt11Image} {s : Rt11Segment} (h : Rt11Good img s) (c : Rt11Call) :
    Rt11Keeps img (c.run img).2 := by
  cases c with
  | add file name date => exact rt11AddFile_keeps h file name date
  | remove name force => exact rt11RemoveFile_keeps h name force
  | setProtect name protect => exact rt11SetProtect_keeps h name protect
  | squeeze => exact rt11Squeeze_keeps h

end K1801.Tools
