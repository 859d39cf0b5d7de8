import K1801.Tools.Rt11Add

/-! # A squeeze that fails

The moves of a segment are made before the checks that may refuse it, and its directory is rewritten after them.
What is lost is what the moves of a refused segment have overwritten.
-/

namespace K1801.Tools

open Core Library

/-! ## The moves -/

/-- Where areas go that are put one behind the other from `pos` on: the moves up to the first one that does not lie
in the volume. -/
def rt11Targets (volumeBlocks : Nat) : List Extent → Nat → List Extent
  | [], _ => []
  | area :: rest, pos =>
    if area.len = 0 then rt11Targets volumeBlocks rest pos
    else if area.start ≠ pos then
      if volumeBlocks < area.start + area.len ∨ volumeBlocks < pos + area.len then []
      else ⟨pos, area.len⟩ :: rt11Targets volumeBlocks rest (pos + area.len)
    else rt11Targets volumeBlocks rest (pos + area.len)

/-- Every one of the moves lies in the volume. -/
def rt11MovesFit (volumeBlocks : Nat) : List Extent → Nat → Bool
  | [], _ => true
  | area :: rest, pos =>
    (area.len = 0 ∨ area.start = pos ∨ area.start + area.len ≤ volumeBlocks ∧ pos + area.len ≤ volumeBlocks) &&
      rt11MovesFit volumeBlocks rest (pos + area.len)

theorem rt11CopyUp_fits {img : Rt11Image} {src dst n : Nat} (hsrc : src + n ≤ img.volumeBlocks)
    (hdst : dst + n ≤ img.volumeBlocks) : ∃ img', rt11CopyUp img src dst n = (.ok (), img') := by
  induction n with
  | zero => exact ⟨img, rfl⟩
  | succ n ih =>
    obtain ⟨img₁, hn⟩ := ih (by omega) (by omega)
    have hvolume : img₁.volumeBlocks = img.volumeBlocks := by rw [rt11CopyUp_ok hn]
    rw [rt11CopyUp, hn]
    simp only [rt11ReadBlock, rt11WriteBlock, rt11Seek_of_lt (show src + n < img₁.volumeBlocks by omega),
      rt11Seek_of_lt (show dst + n < img₁.volumeBlocks by omega)]
    exact ⟨_, rfl⟩

theorem rt11MoveBlocks_outside {img : Rt11Image} {src dst n : Nat} (hn : n ≠ 0) (hmove : src ≠ dst)
    (hout : img.volumeBlocks < src + n ∨ img.volumeBlocks < dst + n) :
    rt11MoveBlocks img src dst n = (.error .einval, img) := by
  rw [rt11MoveBlocks, if_neg (not_or.2 ⟨hn, hmove⟩), if_pos hout]

theorem rt11MoveBlocks_fits {img : Rt11Image} {src dst n : Nat} (hdown : dst ≤ src) (hmove : src ≠ dst)
    (hin : ¬(img.volumeBlocks < src + n ∨ img.volumeBlocks < dst + n)) :
    ∃ img', rt11MoveBlocks img src dst n = (.ok (), img') := by
  unfold rt11MoveBlocks
  split_ifs with hstay hlow
  · exact ⟨img, rfl⟩
  · exact rt11CopyUp_fits (by omega) (by omega)
  · exact absurd (Nat.le_antisymm (Nat.le_of_not_lt hlow) hdown) hmove

theorem rt11MoveFiles_targets {files : List (Rt11Entry × Extent)} {pos : Nat} (img : Rt11Image)
    (hord : Extent.Ordered pos (files.map Prod.snd)) :
    img.Changed (rt11MoveFiles files pos img).2
      fun b => ∃ t ∈ rt11Targets img.volumeBlocks (files.map Prod.snd) pos, t.Has b := by
  induction files generalizing pos img with
  | nil => exact .refl _ _
  | cons f files ih =>
    obtain ⟨e, area⟩ := f
    have hnext : Extent.Ordered (pos + area.len) (files.map Prod.snd) :=
      hord.2.mono (Nat.add_le_add_right hord.1 _)
    rw [rt11MoveFiles, List.map_cons, rt11Targets]
    by_cases hzero : area.len = 0
    · rw [hzero] at hnext
      rw [if_pos hzero, if_pos hzero]
      exact ih img hnext
    · by_cases hmove : area.start ≠ pos
      · rw [if_neg hzero, if_neg hzero, if_pos hmove, if_pos hmove]
        by_cases hout : img.volumeBlocks < area.start + area.len ∨ img.volumeBlocks < pos + area.len
        · rw [if_pos hout, rt11MoveBlocks_outside hzero hmove hout]
          exact .refl _ _
        · rw [if_neg hout]
          have hfirst := rt11MoveBlocks_changed img hord.1 area.len
          obtain ⟨img₁, hm⟩ := rt11MoveBlocks_fits hord.1 hmove hout
          rw [hm] at hfirst ⊢
          have hrest := ih img₁ hnext
          rw [hfirst.volumeBlocks] at hrest
          refine (hfirst.mono ?_).trans (hrest.mono ?_)
          · intro b hb
            exact ⟨_, List.mem_cons_self .., hb⟩
          · rintro b ⟨t, ht, hb⟩
            exact ⟨t, List.mem_cons_of_mem _ ht, hb⟩
      · rw [if_neg hzero, if_neg hzero, if_neg hmove, if_neg hmove]
        exact ih img hnext

theorem rt11MoveFiles_fits {files : List (Rt11Entry × Extent)} {pos : Nat} (img : Rt11Image)
    (hord : Extent.Ordered pos (files.map Prod.snd)) :
    (∃ stop img', rt11MoveFiles files pos img = (.ok stop, img')) ↔
      rt11MovesFit img.volumeBlocks (files.map Prod.snd) pos = true := by
  induction files generalizing pos img with
  | nil => exact ⟨fun _ => rfl, fun _ => ⟨pos, img, rfl⟩⟩
  | cons f files ih =>
    obtain ⟨e, area⟩ := f
    have hnext : Extent.Ordered (pos + area.len) (files.map Prod.snd) :=
      hord.2.mono (Nat.add_le_add_right hord.1 _)
    rw [rt11MoveFiles, List.map_cons, rt11MovesFit, Bool.and_eq_true, decide_eq_true_eq]
    dsimp only
    by_cases hzero : area.len = 0
    · have hrest := ih img hnext
      rw [hzero] at hrest ⊢
      rw [if_pos rfl]
      exact hrest.trans ⟨fun h => ⟨.inl rfl, h⟩, fun h => h.2⟩
    · by_cases hmove : area.start ≠ pos
      · rw [if_neg hzero, if_pos hmove]
        by_cases hout : img.volumeBlocks < area.start + area.len ∨ img.volumeBlocks < pos + area.len
        · rw [rt11MoveBlocks_outside hzero hmove hout]
          constructor
          · rintro ⟨stop, img', ⟨⟩⟩
          · intro h
            omega
        · have hfirst := rt11MoveBlocks_changed img hord.1 area.len
          obtain ⟨img₁, hm⟩ := rt11MoveBlocks_fits hord.1 hmove hout
          rw [hm] at hfirst ⊢
          have hrest := ih img₁ hnext
          rw [hfirst.volumeBlocks] at hrest
          exact hrest.trans ⟨fun h => ⟨.inr (.inr (by omega)), h⟩, fun h => h.2⟩
      · rw [if_neg hzero, if_neg hmove]
        exact (ih img hnext).trans ⟨fun h => ⟨.inr (.inl (Decidable.not_not.1 hmove)), h⟩, fun h => h.2⟩

/-- Where the files go, each one not behind where it was, in its own blocks or in those of a move. -/
theorem rt11Targets_packed {volumeBlocks pos : Nat} {areas : List Extent} (hord : Extent.Ordered pos areas)
    (hfit : rt11MovesFit volumeBlocks areas pos = true) :
    List.Forall₂ (fun area packed => packed.len = area.len ∧ packed.start ≤ area.start ∧
      ∀ b, packed.Has b → area.Has b ∨ ∃ t ∈ rt11Targets volumeBlocks areas pos, t.Has b)
      areas (Extent.compacted areas pos) := by
  induction areas generalizing pos with
  | nil => exact .nil
  | cons area areas ih =>
    rw [rt11MovesFit, Bool.and_eq_true, decide_eq_true_eq] at hfit
    have hnext : Extent.Ordered (pos + area.len) areas := hord.2.mono (Nat.add_le_add_right hord.1 _)
    have hrest := ih hnext hfit.2
    have hcons : Extent.compacted (area :: areas) pos = ⟨pos, area.len⟩ :: Extent.compacted areas (pos + area.len) :=
      Extent.consecutive_cons _ _ _
    have hlater : ∀ t, t ∈ rt11Targets volumeBlocks areas (pos + area.len) →
        t ∈ rt11Targets volumeBlocks (area :: areas) pos := by
      intro t ht
      rw [rt11Targets]
      split_ifs with hzero hmove hout
      · rw [hzero] at ht
        exact ht
      · omega
      · exact List.mem_cons_of_mem _ ht
      · exact ht
    rw [hcons]
    refine .cons ⟨rfl, hord.1, fun b hb => ?_⟩ (hrest.imp fun a p h => ⟨h.1, h.2.1, fun b hb => ?_⟩)
    · have hlen : b < pos + area.len := hb.2
      have hlow : pos ≤ b := hb.1
      by_cases hmove : area.start = pos
      · refine .inl ⟨?_, ?_⟩
        · rw [hmove]
          exact hlow
        · rw [Extent.stop, hmove]
          exact hlen
      · refine .inr ⟨⟨pos, area.len⟩, ?_, hb⟩
        rw [rt11Targets, if_neg (by omega), if_pos hmove, if_neg (by omega)]
        exact List.mem_cons_self ..
    · rcases h.2.2 b hb with hown | ⟨t, ht, hin⟩
      · exact .inl hown
      · exact .inr ⟨t, hlater t ht, hin⟩

/-- What is packed stays where it is. -/
theorem rt11Targets_settled (volumeBlocks pos : Nat) (areas : List Extent) :
    rt11Targets volumeBlocks (Extent.compacted areas pos) pos = [] ∧
      rt11MovesFit volumeBlocks (Extent.compacted areas pos) pos = true := by
  induction areas generalizing pos with
  | nil => exact ⟨rfl, rfl⟩
  | cons area areas ih =>
    have hcons : Extent.compacted (area :: areas) pos = ⟨pos, area.len⟩ :: Extent.compacted areas (pos + area.len) :=
      Extent.consecutive_cons _ _ _
    have hrest := ih (pos + area.len)
    rw [hcons, rt11Targets, rt11MovesFit, hrest.2, Bool.and_true]
    refine ⟨?_, decide_eq_true (.inr (.inl rfl))⟩
    split_ifs with hzero hmove
    · change area.len = 0 at hzero
      rw [hzero] at hrest ⊢
      exact hrest.1
    · exact absurd rfl hmove
    · exact absurd rfl hmove
    · exact hrest.1

/-! ## One segment -/

namespace Rt11Segment

/-- The files of a segment with their areas. -/
def placedFiles (s : Rt11Segment) : List (Rt11Entry × Extent) := s.areas.filter fun p => p.1.isFile

def fileAreas (s : Rt11Segment) : List Extent := s.placedFiles.map Prod.snd

/-- The blocks of the data area that no file takes. -/
def remaining (s : Rt11Segment) : Nat :=
  rt11TotalLen s.listing.entries + s.listing.eosLen - rt11TotalLen (s.listing.entries.filter Rt11Entry.isFile)

/-- The segment is one that the squeeze moves files of. -/
def squeezable (s : Rt11Segment) : Bool :=
  s.listing.eos.isSome && !s.listing.entries.any Rt11Entry.isTent && s.listing.entries.any Rt11Entry.isEmpty

/-- What the moves and the checks behind them ask for. -/
def accepted (s : Rt11Segment) (volumeBlocks : Nat) : Bool :=
  rt11MovesFit volumeBlocks s.fileAreas s.hdr.dataStartBlock.toNat && s.remaining ≤ 0xFFFF &&
    !(0 < s.remaining ∧ s.maxEntries ≤ s.fileAreas.length + 1)

/-- Where the squeeze of the segment moves files. -/
def targets (s : Rt11Segment) (volumeBlocks : Nat) : List Extent :=
  if s.squeezable then rt11Targets volumeBlocks s.fileAreas s.hdr.dataStartBlock.toNat else []

/-- The squeeze answers an error at this segment. -/
def refused (s : Rt11Segment) (volumeBlocks : Nat) : Bool :=
  s.listing.eos.isNone || s.listing.entries.any Rt11Entry.isTent || s.squeezable && !s.accepted volumeBlocks

/-- The squeeze writes the directory of this segment. -/
def rewritten (s : Rt11Segment) (volumeBlocks : Nat) : Bool := s.squeezable && s.accepted volumeBlocks

/-- The segment with its files one behind the other. -/
def packed (s : Rt11Segment) (layout : Rt11Layout) : Rt11Segment :=
  let buf := rt11Stored (rt11SqueezedBuf layout (s.listing.entries.filter Rt11Entry.isFile) s.remaining s.buf)
  ⟨s.segNum, buf, rt11ParseSegmentHeader buf, s.segBlock⟩

theorem placedFiles_entries (s : Rt11Segment) :
    s.placedFiles.map Prod.fst = s.listing.entries.filter Rt11Entry.isFile := rt11Areas_files s

theorem fileAreas_ordered (s : Rt11Segment) : Extent.Ordered s.hdr.dataStartBlock.toNat s.fileAreas :=
  rt11Areas_ordered s

theorem fileAreas_length (s : Rt11Segment) :
    s.fileAreas.length = (s.listing.entries.filter Rt11Entry.isFile).length := by
  rw [← placedFiles_entries, fileAreas, List.length_map, List.length_map]

theorem listing_refused {s : Rt11Segment} {e : Errno} (h : rt11EntryLayout s.hdr = .error e) :
    s.listing = ⟨[], none⟩ := by
  rw [listing, h]

end Rt11Segment

/-- What the squeeze of one segment does. -/
inductive Rt11SqueezeStep (img : Rt11Image) (s : Rt11Segment) : Except Errno Unit → Rt11Image → Prop
  | refused {e : Errno} {img' : Rt11Image} (hrefused : s.refused img.volumeBlocks = true)
      (hmoved : img.Changed img' fun b => ∃ t ∈ s.targets img.volumeBlocks, t.Has b) :
      Rt11SqueezeStep img s (.error e) img'
  | skipped (hrefused : s.refused img.volumeBlocks = false) (hskip : s.squeezable = false) :
      Rt11SqueezeStep img s (.ok ()) img
  | rewritten {img₁ img' : Rt11Image} {layout : Rt11Layout} {stop : Nat}
      (hrefused : s.refused img.volumeBlocks = false) (hrewritten : s.rewritten img.volumeBlocks = true)
      (hlayout : rt11EntryLayout s.hdr = .ok layout)
      (hmoves : rt11MoveFiles s.placedFiles s.hdr.dataStartBlock.toNat img = (.ok stop, img₁))
      (hwrite : rt11WriteSegment img₁ s.segBlock (rt11SqueezedBuf layout
        (s.listing.entries.filter Rt11Entry.isFile) s.remaining s.buf) = (.ok (), img')) :
      Rt11SqueezeStep img s (.ok ()) img'

section Step

variable {img : Rt11Image} {dirStart n : Nat} {s : Rt11Segment}

/-- What is done with a segment that has files to move. -/
theorem rt11SqueezeSegment_moves {layout : Rt11Layout} (hload : rt11LoadSegment img dirStart n = .ok s)
    (hl : rt11EntryLayout s.hdr = .ok layout) (h : s.squeezable = true) :
    rt11SqueezeSegment img dirStart n =
      match rt11MoveFiles s.placedFiles s.hdr.dataStartBlock.toNat img with
      | (.error e, img) => (.error e, img)
      | (.ok _, img) =>
        if 0xFFFF < s.remaining then (.error .erange, img)
        else if 0 < s.remaining ∧ s.maxEntries ≤ s.fileAreas.length + 1 then (.error .enospc, img)
        else
          rt11WriteSegment img s.segBlock
            (rt11SqueezedBuf layout (s.listing.entries.filter Rt11Entry.isFile) s.remaining s.buf) := by
  rw [Rt11Segment.squeezable, Bool.and_eq_true, Bool.and_eq_true, Option.isSome_iff_exists, Bool.not_eq_true'] at h
  obtain ⟨⟨⟨eos, heos⟩, htent⟩, hempty⟩ := h
  have heosLen : eos.length.toNat = s.listing.eosLen := by
    rw [Rt11Scan.eosLen, heos]
    rfl
  have hfiles := rt11TotalLen_filter s.listing.entries Rt11Entry.isFile
  have hcount : s.fileAreas.length = s.placedFiles.length := List.length_map ..
  have hplaced : (s.areas.filter fun p => p.1.isFile) = s.placedFiles := rfl
  rw [rt11SqueezeSegment, hload]
  dsimp only
  rw [hl]
  dsimp only
  rw [Rt11Segment.listing_eq hl, Rt11Segment.areas_eq hl, heos, htent, hempty, Rt11Segment.maxEntries_eq hl,
    rt11Areas_files, hplaced, ← hcount]
  dsimp only
  rw [if_neg (by decide), if_neg (by decide)]
  rcases rt11MoveFiles s.placedFiles s.hdr.dataStartBlock.toNat img with ⟨e | stop, img₁⟩
  · rfl
  · dsimp only
    rw [heosLen, if_neg (by omega), ← Rt11Segment.remaining]

theorem Rt11Segment.refused_of_squeezable (h : s.squeezable = true) (volumeBlocks : Nat) :
    s.refused volumeBlocks = !s.accepted volumeBlocks := by
  have hspec := h
  rw [squeezable, Bool.and_eq_true, Bool.and_eq_true, Option.isSome_iff_exists, Bool.not_eq_true'] at hspec
  obtain ⟨⟨⟨eos, heos⟩, htent⟩, _⟩ := hspec
  rw [refused, heos, htent, h]
  rfl

theorem rt11SqueezeStep_moves {layout : Rt11Layout} (hload : rt11LoadSegment img dirStart n = .ok s)
    (hl : rt11EntryLayout s.hdr = .ok layout) (h : s.squeezable = true) :
    Rt11SqueezeStep img s (rt11SqueezeSegment img dirStart n).1 (rt11SqueezeSegment img dirStart n).2 := by
  have hrefused := Rt11Segment.refused_of_squeezable h img.volumeBlocks
  have htargets : s.targets img.volumeBlocks =
      rt11Targets img.volumeBlocks s.fileAreas s.hdr.dataStartBlock.toNat := if_pos h
  have hmoved := rt11MoveFiles_targets img s.fileAreas_ordered
  have hfits := rt11MoveFiles_fits img s.fileAreas_ordered
  rw [rt11SqueezeSegment_moves hload hl h]
  rcases hm : rt11MoveFiles s.placedFiles s.hdr.dataStartBlock.toNat img with ⟨e | stop, img₁⟩
  · rw [hm] at hmoved hfits
    refine .refused ?_ (by rw [htargets]; exact hmoved)
    have hnot : rt11MovesFit img.volumeBlocks s.fileAreas s.hdr.dataStartBlock.toNat = false := by
      refine Bool.eq_false_iff.2 fun hfit => ?_
      obtain ⟨stop, img', heq⟩ := hfits.2 hfit
      cases heq
    rw [hrefused, Rt11Segment.accepted, hnot]
    rfl
  · rw [hm] at hmoved
    have hfit : rt11MovesFit img.volumeBlocks s.fileAreas s.hdr.dataStartBlock.toNat = true :=
      hfits.1 ⟨stop, img₁, hm⟩
    dsimp only
    by_cases hlong : 0xFFFF < s.remaining
    · rw [if_pos hlong]
      refine .refused ?_ (by rw [htargets]; exact hmoved)
      rw [hrefused, Rt11Segment.accepted, decide_eq_false (Nat.not_le.2 hlong), Bool.and_false]
      rfl
    · rw [if_neg hlong]
      by_cases hfull : 0 < s.remaining ∧ s.maxEntries ≤ s.fileAreas.length + 1
      · rw [if_pos hfull]
        refine .refused ?_ (by rw [htargets]; exact hmoved)
        rw [hrefused, Rt11Segment.accepted, decide_eq_true hfull, Bool.not_true, Bool.and_false]
        rfl
      · rw [if_neg hfull]
        have haccepted : s.accepted img.volumeBlocks = true := by
          rw [Rt11Segment.accepted, hfit, decide_eq_true (Nat.le_of_not_lt hlong), decide_eq_false hfull]
          rfl
        have hin : s.segBlock + 2 ≤ img₁.volumeBlocks := by
          rw [hmoved.volumeBlocks]
          exact rt11ReadSegment_ok (rt11LoadSegment_ok hload).1
        obtain ⟨img', hwrite, _⟩ := rt11WriteSegment_of_le
          (rt11SqueezedBuf layout (s.listing.entries.filter Rt11Entry.isFile) s.remaining s.buf) hin
        rw [hwrite]
        refine .rewritten ?_ ?_ hl hm hwrite
        · rw [hrefused, haccepted]
          rfl
        · rw [Rt11Segment.rewritten, h, haccepted]
          rfl

theorem rt11SqueezeSegment_step (hload : rt11LoadSegment img dirStart n = .ok s) :
    Rt11SqueezeStep img s (rt11SqueezeSegment img dirStart n).1 (rt11SqueezeSegment img dirStart n).2 := by
  rcases hl : rt11EntryLayout s.hdr with e | layout
  · rw [rt11SqueezeSegment, hload]
    dsimp only
    rw [hl]
    refine .refused ?_ (.refl _ _)
    rw [Rt11Segment.refused, Rt11Segment.listing_refused hl]
    rfl
  · cases hsqueezable : s.squeezable with
    | true => exact rt11SqueezeStep_moves hload hl hsqueezable
    | false =>
      rw [rt11SqueezeSegment, hload]
      dsimp only
      rw [hl]
      dsimp only
      rw [Rt11Segment.listing_eq hl]
      rcases heos : s.listing.eos with _ | eos
      · refine .refused ?_ (.refl _ _)
        rw [Rt11Segment.refused, heos]
        rfl
      · dsimp only
        cases htent : s.listing.entries.any Rt11Entry.isTent with
        | true =>
          rw [if_pos rfl]
          refine .refused ?_ (.refl _ _)
          rw [Rt11Segment.refused, htent, Bool.or_true, Bool.true_or]
        | false =>
          have hnone : s.listing.entries.any Rt11Entry.isEmpty = false := by
            rw [Rt11Segment.squeezable, heos, htent] at hsqueezable
            exact hsqueezable
          rw [if_neg (by decide), hnone, if_pos (by decide)]
          refine .skipped ?_ hsqueezable
          rw [Rt11Segment.refused, heos, htent, hsqueezable]
          rfl

end Step

/-! ### The segment that is written -/

namespace Rt11Segment

variable {s : Rt11Segment} {layout : Rt11Layout} {volumeBlocks : Nat}

theorem rewritten_spec (h : s.rewritten volumeBlocks = true) :
    s.listing.eos ≠ none ∧ s.listing.entries.any Rt11Entry.isTent = false ∧
      rt11MovesFit volumeBlocks s.fileAreas s.hdr.dataStartBlock.toNat = true ∧ s.remaining ≤ 0xFFFF ∧
      ¬(0 < s.remaining ∧ s.maxEntries ≤ s.fileAreas.length + 1) := by
  simp only [rewritten, squeezable, accepted, Bool.and_eq_true, Option.isSome_iff_ne_none, Bool.not_eq_true',
    decide_eq_true_eq, decide_eq_false_iff_not] at h
  exact ⟨h.1.1.1, h.1.1.2, h.2.1.1, h.2.1.2, h.2.2⟩

theorem rewritten_passed (h : s.rewritten volumeBlocks = true) : s.refused volumeBlocks = false := by
  rw [rewritten, Bool.and_eq_true] at h
  rw [refused_of_squeezable h.1, h.2]
  rfl

theorem packed_header (layout : Rt11Layout) (hhdr : s.hdr = rt11ParseSegmentHeader s.buf) :
    (s.packed layout).hdr = s.hdr := by
  rw [hhdr]
  exact rt11SqueezedBuf_header _ _ _ _

theorem packed_listing (hhdr : s.hdr = rt11ParseSegmentHeader s.buf) (hl : rt11EntryLayout s.hdr = .ok layout)
    (h : s.rewritten volumeBlocks = true) :
    (s.packed layout).listing = ⟨s.listing.entries.filter Rt11Entry.isFile ++ rt11FreeEntry layout s.remaining,
      some (.blank rt11EEos 0 layout.entryWords)⟩ := by
  obtain ⟨hmark, _, _, hrem, hfull⟩ := rewritten_spec h
  rw [← listing_eq (by rw [packed_header layout hhdr]; exact hl)]
  refine rt11SqueezedBuf_scan hl s.buf hrem ?_ ?_
  · intro e he
    rw [← listing_eq hl] at he
    exact rt11Scan_entries s.buf (rt11EntryLayout_ok hl).1 _ _ e (List.mem_of_mem_filter he)
  · have hroom := room hl hmark
    have hfew := List.length_filter_le Rt11Entry.isFile s.listing.entries
    rw [← maxEntries_eq hl, fileAreas_length] at hfull
    by_cases hleft : 0 < s.remaining
    · rw [rt11FreeEntry, if_pos hleft, List.length_singleton]
      omega
    · rw [rt11FreeEntry, if_neg hleft, List.length_nil]
      omega

theorem packed_files (hhdr : s.hdr = rt11ParseSegmentHeader s.buf) (hl : rt11EntryLayout s.hdr = .ok layout)
    (h : s.rewritten volumeBlocks = true) :
    (s.packed layout).placedFiles =
      rt11Place s.hdr.dataStartBlock.toNat (s.listing.entries.filter Rt11Entry.isFile) := by
  rw [placedFiles, areas, packed_listing hhdr hl h, packed_header layout hhdr]
  exact rt11Place_filter _ (fun e he => (List.mem_filter.1 he).2)
    fun e he => ((rt11FreeEntry_spec layout (rewritten_spec h).2.2.2.1).2.2 e he).2.1

theorem packed_areas (hhdr : s.hdr = rt11ParseSegmentHeader s.buf) (hl : rt11EntryLayout s.hdr = .ok layout)
    (h : s.rewritten volumeBlocks = true) :
    (s.packed layout).fileAreas = Extent.compacted s.fileAreas s.hdr.dataStartBlock.toNat := by
  have hlens : s.fileAreas.map Extent.len =
      (s.listing.entries.filter Rt11Entry.isFile).map fun e => e.length.toNat := by
    rw [← placedFiles_entries, fileAreas, List.map_map, List.map_map]
    exact List.map_congr_left fun p hp => rt11Areas_len s p hp
  rw [fileAreas, packed_files hhdr hl h, rt11Place_areas, Extent.compacted, hlens]

theorem packed_remaining (hhdr : s.hdr = rt11ParseSegmentHeader s.buf) (hl : rt11EntryLayout s.hdr = .ok layout)
    (h : s.rewritten volumeBlocks = true) : (s.packed layout).remaining = s.remaining := by
  have hspec := rt11FreeEntry_spec layout (rewritten_spec h).2.2.2.1
  have hnone : (rt11FreeEntry layout s.remaining).filter Rt11Entry.isFile = [] :=
    List.filter_eq_nil_iff.2 fun e he => Bool.eq_false_iff.1 (hspec.2.2 e he).2.1
  have hfiles : (s.listing.entries.filter Rt11Entry.isFile ++ rt11FreeEntry layout s.remaining).filter
      Rt11Entry.isFile = s.listing.entries.filter Rt11Entry.isFile := by
    rw [List.filter_append, hnone, List.append_nil, List.filter_filter]
    simp only [Bool.and_self]
  have heos : (s.packed layout).listing.eosLen = 0 := by
    rw [packed_listing hhdr hl h]
    rfl
  rw [remaining, heos, packed_listing hhdr hl h]
  dsimp only
  rw [hfiles, rt11TotalLen_append, hspec.2.1]
  omega

/-- Nothing of a written segment moves again, and no check refuses it. -/
theorem packed_settled (hhdr : s.hdr = rt11ParseSegmentHeader s.buf) (hl : rt11EntryLayout s.hdr = .ok layout)
    (h : s.rewritten volumeBlocks = true) :
    (s.packed layout).targets volumeBlocks = [] ∧ (s.packed layout).refused volumeBlocks = false := by
  obtain ⟨_, htent, _, hrem, hfull⟩ := rewritten_spec h
  have hsettled := rt11Targets_settled volumeBlocks s.hdr.dataStartBlock.toNat s.fileAreas
  have haccepted : (s.packed layout).accepted volumeBlocks = true := by
    have hmax : (s.packed layout).maxEntries = s.maxEntries := by
      rw [maxEntries, packed_header layout hhdr, maxEntries]
    have hcount : (s.packed layout).fileAreas.length = s.fileAreas.length := by
      rw [packed_areas hhdr hl h, Extent.compacted, Extent.consecutive_length, List.length_map]
    rw [accepted, packed_remaining hhdr hl h, packed_header layout hhdr, hmax, hcount, packed_areas hhdr hl h,
      hsettled.2, decide_eq_true hrem, decide_eq_false hfull]
    rfl
  have hnoTent : (s.packed layout).listing.entries.any Rt11Entry.isTent = false := by
    rw [packed_listing hhdr hl h, List.any_append, Bool.or_eq_false_iff]
    constructor
    · rw [List.any_eq_false] at htent ⊢
      exact fun e he => htent e (List.mem_of_mem_filter he)
    · rw [List.any_eq_false]
      intro e he
      unfold rt11FreeEntry at he
      split at he
      · rw [List.mem_singleton.1 he]
        have hblank : ¬rt11EMpty &&& rt11ETent ≠ 0 := by decide
        exact Bool.eq_false_iff.1 (decide_eq_false hblank)
      · cases he
  constructor
  · rw [targets, packed_areas hhdr hl h, packed_header layout hhdr, hsettled.1]
    split <;> rfl
  · rw [refused, haccepted, hnoTent, packed_listing hhdr hl h, Bool.not_true, Bool.and_false]
    rfl

end Rt11Segment

/-! ### The files that are kept -/

theorem forall₂_trans {α : Type} {R S T : α → α → Prop} (h : ∀ a b c, R a b → S b c → T a c) {l l' l'' : List α}
    (hl : List.Forall₂ R l l') (hl' : List.Forall₂ S l' l'') : List.Forall₂ T l l'' := by
  induction hl generalizing l'' with
  | nil =>
    cases hl'
    exact .nil
  | cons hr _ ih =>
    cases hl' with
    | cons hs hrest => exact .cons (h _ _ _ hr hs) (ih hrest)

theorem forall₂_mem_right {α β : Type} {R : α → β → Prop} {l : List α} {l' : List β} (h : List.Forall₂ R l l')
    {b : β} (hb : b ∈ l') : ∃ a ∈ l, R a b := by
  induction h with
  | nil => cases hb
  | cons hr _ ih =>
    rcases List.mem_cons.1 hb with rfl | hb
    · exact ⟨_, List.mem_cons_self .., hr⟩
    · obtain ⟨a, ha, hab⟩ := ih hb
      exact ⟨a, List.mem_cons_of_mem _ ha, hab⟩

/-- The file `p'` of `img'` is the file `p` of `img`: not behind where it was, in its own blocks or those of moves. -/
structure Rt11FileKept (img img' : Rt11Image) (moves : List Extent) (p p' : Rt11Entry × Extent) : Prop where
  entry : p'.1 = p.1
  len : p'.2.len = p.2.len
  start : p'.2.start ≤ p.2.start
  contents : img'.contents p'.2 = img.contents p.2
  blocks : ∀ b, p'.2.Has b → p.2.Has b ∨ ∃ t ∈ moves, t.Has b

namespace Rt11FileKept

variable {img img' img'' : Rt11Image} {moves moves' : List Extent} {p p' p'' : Rt11Entry × Extent}

theorem trans (h : Rt11FileKept img img' moves p p') (h' : Rt11FileKept img' img'' moves' p' p'')
    (hmoves : ∀ t ∈ moves', t ∈ moves) : Rt11FileKept img img'' moves p p'' := by
  refine ⟨h'.entry.trans h.entry, h'.len.trans h.len, Nat.le_trans h'.start h.start,
    h'.contents.trans h.contents, fun b hb => ?_⟩
  rcases h'.blocks b hb with hown | ⟨t, ht, hin⟩
  · exact h.blocks b hown
  · exact .inr ⟨t, hmoves t ht, hin⟩

theorem frame {touched : Nat → Prop} (hc : img.Changed img' touched) (moves : List Extent)
    (hfree : ∀ b, p.2.Has b → ¬touched b) : Rt11FileKept img img' moves p p :=
  ⟨rfl, rfl, Nat.le_refl _, hc.contents hfree, fun _ hb => .inl hb⟩

/-- A file that could be read reads the same. -/
theorem extract {segment segment' index index' : Nat} (h : Rt11FileKept img img' moves p p')
    (hvolume : img'.volumeBlocks = img.volumeBlocks) {bytes : List Byte}
    (hread : rt11ExtractFile img ⟨p.1, p.2, segment, index⟩ = .ok bytes) :
    rt11ExtractFile img' ⟨p'.1, p'.2, segment', index'⟩ = .ok bytes := by
  have hin : p.2.start + p.2.len ≤ img.volumeBlocks := by
    unfold rt11ExtractFile at hread
    split at hread
    · cases hread
    · rename_i hin
      exact Nat.le_of_not_lt hin
  have hstart := h.start
  have hlen := h.len
  rw [rt11ExtractFile_ok hin] at hread
  rw [rt11ExtractFile_ok (by rw [hvolume]; change p'.2.start + p'.2.len ≤ _; omega), h.contents]
  exact hread

end Rt11FileKept

theorem Rt11Segment.packed_kept {img img₁ img' : Rt11Image} {s : Rt11Segment} {layout : Rt11Layout} {stop : Nat}
    (hhdr : s.hdr = rt11ParseSegmentHeader s.buf) (hl : rt11EntryLayout s.hdr = .ok layout)
    (h : s.rewritten img.volumeBlocks = true)
    (hmoves : rt11MoveFiles s.placedFiles s.hdr.dataStartBlock.toNat img = (.ok stop, img₁))
    (hdir : img₁.Changed img' s.place.Has)
    (hapart : ∀ e ∈ s.fileAreas ++ s.targets img.volumeBlocks, s.place.Apart e) :
    List.Forall₂ (Rt11FileKept img img' (s.targets img.volumeBlocks)) s.placedFiles (s.packed layout).placedFiles := by
  obtain ⟨hmark, htent, hfit, _, _⟩ := rewritten_spec h
  have htargets : s.targets img.volumeBlocks =
      rt11Targets img.volumeBlocks s.fileAreas s.hdr.dataStartBlock.toNat := by
    rw [rewritten, Bool.and_eq_true] at h
    exact if_pos h.1
  have hareas := rt11Targets_packed s.fileAreas_ordered hfit
  rw [← htargets, ← packed_areas hhdr hl h, fileAreas, fileAreas, List.forall₂_map_left_iff,
    List.forall₂_map_right_iff] at hareas
  have hblocks : ∀ p ∈ (s.packed layout).placedFiles, ∀ b, p.2.Has b → ¬s.place.Has b := by
    intro p hp b hb hin
    obtain ⟨q, hq, _, _, hwhere⟩ := forall₂_mem_right hareas hp
    rcases hwhere b hb with hown | ⟨t, ht, hint⟩
    · exact hapart q.2 (List.mem_append_left _ (List.mem_map_of_mem hq)) b hin hown
    · exact hapart t (List.mem_append_right _ ht) b hin hint
  have hcontents : (s.packed layout).placedFiles.map (fun p => (p.1, img'.contents p.2)) =
      s.placedFiles.map fun p => (p.1, img.contents p.2) := by
    have hcompact := rt11Compact_files (rt11Areas_len s) s.fileAreas_ordered
      (rt11MoveFiles_ok s.fileAreas_ordered hmoves)
    rw [rt11Areas_files, ← packed_files hhdr hl h] at hcompact
    refine Eq.trans (List.map_congr_left fun p hp => ?_) hcompact
    rw [hdir.contents fun b hb => hblocks p hp b hb]
  have hsame := hcontents.symm
  rw [← List.forall₂_eq_eq_eq, List.forall₂_map_left_iff, List.forall₂_map_right_iff] at hsame
  refine hareas.mp (fun p p' harea hsame => ?_) hsame
  obtain ⟨hentry, hkept⟩ := Prod.mk.inj hsame
  exact ⟨hentry.symm, harea.1, harea.2.1, hkept.symm, harea.2.2⟩

/-! ## The walk -/

/-- The numbers of the segments that the directory leads to. -/
inductive Rt11Linked (img : Rt11Image) (dirStart : Nat) : Nat → Prop
  | first : Rt11Linked img dirStart 1
  | next {n : Nat} {s : Rt11Segment} (hn : Rt11Linked img dirStart n) (hload : rt11LoadSegment img dirStart n = .ok s)
      (hnext : s.hdr.nextSegment.toNat ≠ 0) : Rt11Linked img dirStart s.hdr.nextSegment.toNat

/-- The states that a squeeze of `img` walks through, up to the first segment that is refused. -/
inductive Rt11SqueezeWalk (img : Rt11Image) (dirStart : Nat) : Rt11Walk → Prop
  | start : Rt11SqueezeWalk img dirStart (rt11WalkReset dirStart)
  | next {walk : Rt11Walk} {s : Rt11Segment} (hwalk : Rt11SqueezeWalk img dirStart walk) (hgoing : walk.nextSeg ≠ 0)
      (hload : rt11LoadSegment img dirStart walk.nextSeg = .ok s) (hpassed : s.refused img.volumeBlocks = false) :
      Rt11SqueezeWalk img dirStart (walk.advance s.hdr)

/-- The squeeze of `img` comes to this segment. -/
def Rt11Segment.Visited (s : Rt11Segment) (img : Rt11Image) (dirStart : Nat) : Prop :=
  ∃ walk : Rt11Walk, Rt11SqueezeWalk img dirStart walk ∧ walk.nextSeg ≠ 0 ∧
    rt11LoadSegment img dirStart walk.nextSeg = .ok s

/-- What the squeeze of the segment writes: where files move, and the directory if no check refuses it. -/
def Rt11Segment.written (s : Rt11Segment) (volumeBlocks : Nat) : List Extent :=
  s.targets volumeBlocks ++ if s.rewritten volumeBlocks then [s.place] else []

/-- No move overwrites what has to be read afterwards. -/
structure Rt11SqueezeSafe (img : Rt11Image) (dirStart : Nat) : Prop where
  home : ∀ s : Rt11Segment, s.Visited img dirStart → ∀ t ∈ s.written img.volumeBlocks, t.Apart ⟨1, 1⟩
  /-- The moves of a segment that is refused spare its directory and its files. -/
  refused : ∀ s : Rt11Segment, s.Visited img dirStart → s.refused img.volumeBlocks = true →
    ∀ t ∈ s.targets img.volumeBlocks, ∀ e ∈ s.place :: s.fileAreas, t.Apart e
  directory : ∀ s : Rt11Segment, s.Visited img dirStart → s.rewritten img.volumeBlocks = true →
    ∀ e ∈ s.fileAreas ++ s.targets img.volumeBlocks, s.place.Apart e
  others : ∀ s : Rt11Segment, s.Visited img dirStart → ∀ n c, Rt11Linked img dirStart n → n ≠ s.segNum →
    rt11LoadSegment img dirStart n = .ok c →
    ∀ t ∈ s.written img.volumeBlocks, ∀ e ∈ c.place :: c.fileAreas, t.Apart e
  moves : ∀ s c : Rt11Segment, s.Visited img dirStart → c.Visited img dirStart → c.segNum ≠ s.segNum →
    ∀ t ∈ s.written img.volumeBlocks, ∀ e ∈ c.targets img.volumeBlocks, t.Apart e

/-- The directory of `img'` leads to the same files as that of `img`, and what could be read of a file reads the
same. -/
def Rt11FilesSurvive (img img' : Rt11Image) : Prop :=
  ∀ dirStart, rt11ReadHome img = .ok dirStart → rt11ReadHome img' = .ok dirStart ∧
    ∀ n s, Rt11Linked img dirStart n → rt11LoadSegment img dirStart n = .ok s →
      ∃ s', rt11LoadSegment img' dirStart n = .ok s' ∧ s'.hdr = s.hdr ∧
        List.Forall₂ (fun d d' : Rt11Dirent => d'.entry = d.entry ∧
          ∀ bytes, rt11ExtractFile img d = .ok bytes → rt11ExtractFile img' d' = .ok bytes) s.dirents s'.dirents

section Walk

variable {img₀ img img' : Rt11Image} {dirStart : Nat}

theorem Rt11Linked.ne_zero {n : Nat} (h : Rt11Linked img₀ dirStart n) : n ≠ 0 := by
  cases h with
  | first => exact Nat.one_ne_zero
  | next _ _ hnext => exact hnext

theorem Rt11Walk.advance_next {walk : Rt11Walk} {hdr : Rt11DirsegHdr} (h : (walk.advance hdr).nextSeg ≠ 0) :
    (walk.advance hdr).nextSeg = hdr.nextSegment.toNat := by
  simp only [Rt11Walk.advance] at h ⊢
  split_ifs at h ⊢
  all_goals first | rfl | exact absurd rfl h

theorem Rt11SqueezeWalk.linked {walk : Rt11Walk} (h : Rt11SqueezeWalk img₀ dirStart walk) (hgoing : walk.nextSeg ≠ 0) :
    Rt11Linked img₀ dirStart walk.nextSeg := by
  induction h with
  | start => exact .first
  | next hwalk hfrom hload hpassed ih =>
    have hnext := Rt11Walk.advance_next hgoing
    rw [hnext] at hgoing ⊢
    exact .next (ih hfrom) hload hgoing

theorem Rt11SqueezeWalk.start_eq {walk : Rt11Walk} (h : Rt11SqueezeWalk img₀ dirStart walk) :
    walk.dirStart = dirStart := by
  induction h with
  | start => rfl
  | next _ _ _ _ ih => exact ih

/-- What stands in the place of the segment `s` of `img₀` while the squeeze goes on. -/
structure Rt11SegmentStands (img₀ img : Rt11Image) (dirStart n : Nat) (s s' : Rt11Segment) : Prop where
  load : rt11LoadSegment img dirStart n = .ok s'
  header : s'.hdr = s.hdr
  files : List.Forall₂ (Rt11FileKept img₀ img (s.targets img₀.volumeBlocks)) s.placedFiles s'.placedFiles
  state : s' = s ∨ s.Visited img₀ dirStart ∧ s.rewritten img₀.volumeBlocks = true ∧
    s'.targets img₀.volumeBlocks = [] ∧ s'.refused img₀.volumeBlocks = false

/-- What holds of the image while the squeeze goes on. -/
structure Rt11SqueezeInv (img₀ img : Rt11Image) (dirStart : Nat) : Prop where
  changed : img₀.Changed img fun _ => True
  home : rt11ReadHome img = .ok dirStart
  segments : ∀ n s, Rt11Linked img₀ dirStart n → rt11LoadSegment img₀ dirStart n = .ok s →
    ∃ s', Rt11SegmentStands img₀ img dirStart n s s'

namespace Rt11SegmentStands

variable {n : Nat} {s s' : Rt11Segment}

theorem place (h : Rt11SegmentStands img₀ img dirStart n s s') (hload : rt11LoadSegment img₀ dirStart n = .ok s) :
    s'.place = s.place := by
  rw [Rt11Segment.place, Rt11Segment.place, (rt11LoadSegment_ok h.load).2.2.1, (rt11LoadSegment_ok hload).2.2.1]

theorem frame (h : Rt11SegmentStands img₀ img dirStart n s s') {touched : Nat → Prop} (hc : img.Changed img' touched)
    (hplace : ∀ b, s'.place.Has b → ¬touched b) (hfiles : ∀ p ∈ s'.placedFiles, ∀ b, p.2.Has b → ¬touched b) :
    Rt11SegmentStands img₀ img' dirStart n s s' := by
  have hkept : List.Forall₂ (Rt11FileKept img img' []) s'.placedFiles s'.placedFiles :=
    List.forall₂_same.2 fun p hp => .frame hc _ (hfiles p hp)
  refine ⟨rt11LoadSegment_frame hc h.load hplace, h.header, ?_, h.state⟩
  exact forall₂_trans (fun _ _ _ h h' => h.trans h' (List.forall_mem_nil _)) h.files hkept

/-- The blocks of its files: those that they had, and those of its moves once the squeeze has come to it. -/
theorem blocks (h : Rt11SegmentStands img₀ img dirStart n s s') {p : Rt11Entry × Extent} (hp : p ∈ s'.placedFiles)
    {b : Nat} (hb : p.2.Has b) : (∃ e ∈ s.fileAreas, e.Has b) ∨
      s.Visited img₀ dirStart ∧ ∃ t ∈ s.targets img₀.volumeBlocks, t.Has b := by
  rcases h.state with rfl | ⟨hvisited, _⟩
  · exact .inl ⟨p.2, List.mem_map_of_mem hp, hb⟩
  · obtain ⟨q, hq, hkept⟩ := forall₂_mem_right h.files hp
    rcases hkept.blocks b hb with hown | hmoved
    · exact .inl ⟨q.2, List.mem_map_of_mem hq, hown⟩
    · exact .inr ⟨hvisited, hmoved⟩

theorem targets (h : Rt11SegmentStands img₀ img dirStart n s s') {t : Extent}
    (ht : t ∈ s'.targets img₀.volumeBlocks) : t ∈ s.targets img₀.volumeBlocks := by
  rcases h.state with rfl | ⟨_, _, hnone, _⟩
  · exact ht
  · rw [hnone] at ht
    cases ht

theorem rewritten (h : Rt11SegmentStands img₀ img dirStart n s s') (hs' : s'.rewritten img₀.volumeBlocks = true) :
    s.rewritten img₀.volumeBlocks = true := by
  rcases h.state with rfl | ⟨_, hs, _⟩
  · exact hs'
  · exact hs

end Rt11SegmentStands

/-- The segments apart from the one that the squeeze works on stay. -/
theorem Rt11SqueezeInv.others (hsafe : Rt11SqueezeSafe img₀ dirStart) (hinv : Rt11SqueezeInv img₀ img dirStart)
    {s : Rt11Segment} (hvisited : s.Visited img₀ dirStart) {touched : Nat → Prop} (hc : img.Changed img' touched)
    (hwritten : ∀ b, touched b → ∃ t ∈ s.written img₀.volumeBlocks, t.Has b) :
    ∀ n c, Rt11Linked img₀ dirStart n → rt11LoadSegment img₀ dirStart n = .ok c → n ≠ s.segNum →
      ∃ c', Rt11SegmentStands img₀ img' dirStart n c c' := by
  intro n c hn hload hne
  obtain ⟨c', hstands⟩ := hinv.segments n c hn hload
  have hapart := hsafe.others s hvisited n c hn hne hload
  refine ⟨c', hstands.frame hc ?_ ?_⟩
  · intro b hb htouched
    obtain ⟨t, ht, hin⟩ := hwritten b htouched
    rw [hstands.place hload] at hb
    exact hapart t ht _ (List.mem_cons_self ..) b hin hb
  · intro p hp b hb htouched
    obtain ⟨t, ht, hin⟩ := hwritten b htouched
    rcases hstands.blocks hp hb with ⟨e, he, hown⟩ | ⟨hcvisited, e, he, hmoved⟩
    · exact hapart t ht e (List.mem_cons_of_mem _ he) b hin hown
    · have hnum : c.segNum ≠ s.segNum := by
        rw [(rt11LoadSegment_ok hload).2.1]
        exact hne
      exact hsafe.moves s c hvisited hcvisited hnum t ht e he b hin hmoved

theorem Rt11SqueezeInv.home_frame (hsafe : Rt11SqueezeSafe img₀ dirStart) (hinv : Rt11SqueezeInv img₀ img dirStart)
    {s : Rt11Segment} (hvisited : s.Visited img₀ dirStart) {touched : Nat → Prop} (hc : img.Changed img' touched)
    (hwritten : ∀ b, touched b → ∃ t ∈ s.written img₀.volumeBlocks, t.Has b) : rt11ReadHome img' = .ok dirStart := by
  rw [rt11ReadHome_frame hc, hinv.home]
  intro htouched
  obtain ⟨t, ht, hin⟩ := hwritten 1 htouched
  exact hsafe.home s hvisited t ht 1 hin ⟨Nat.le_refl _, Nat.lt_succ_self _⟩

/-- One turn of the squeeze, at the segment that stands for `s`. -/
theorem Rt11SqueezeInv.step (hsafe : Rt11SqueezeSafe img₀ dirStart) (hinv : Rt11SqueezeInv img₀ img dirStart)
    {n : Nat} {s s' : Rt11Segment} (hvisited : s.Visited img₀ dirStart)
    (hload : rt11LoadSegment img₀ dirStart n = .ok s) (hstands : Rt11SegmentStands img₀ img dirStart n s s')
    {r : Except Errno Unit} (hstep : Rt11SqueezeStep img s' r img') :
    Rt11SqueezeInv img₀ img' dirStart ∧ (r = .ok () → s.refused img₀.volumeBlocks = false) := by
  have hvolume : img.volumeBlocks = img₀.volumeBlocks := hinv.changed.volumeBlocks
  have hnum : s.segNum = n := (rt11LoadSegment_ok hload).2.1
  have hplace := hstands.place hload
  have hmoves : ∀ b, (∃ t ∈ s'.targets img₀.volumeBlocks, t.Has b) → ∃ t ∈ s.written img₀.volumeBlocks, t.Has b := by
    rintro b ⟨t, ht, hb⟩
    exact ⟨t, List.mem_append_left _ (hstands.targets ht), hb⟩
  cases hstep with
  | refused hrefused hmoved =>
    rw [hvolume] at hrefused hmoved
    have hsame : s' = s := by
      rcases hstands.state with hsame | ⟨_, _, _, hpassed⟩
      · exact hsame
      · rw [hpassed] at hrefused
        cases hrefused
    subst hsame
    have hapart := hsafe.refused s' hvisited hrefused
    have hothers := hinv.others hsafe hvisited hmoved hmoves
    refine ⟨⟨hinv.changed.trans (hmoved.mono fun _ _ => trivial), hinv.home_frame hsafe hvisited hmoved hmoves, ?_⟩,
      fun h => by cases h⟩
    intro m c hm hc
    by_cases hmn : m = n
    · subst hmn
      rw [hload] at hc
      cases hc
      refine ⟨s', hstands.frame hmoved ?_ ?_⟩
      · rintro b hb ⟨t, ht, hin⟩
        exact hapart t ht _ (List.mem_cons_self ..) b hin hb
      · rintro p hp b hb ⟨t, ht, hin⟩
        exact hapart t ht p.2 (List.mem_cons_of_mem _ (List.mem_map_of_mem hp)) b hin hb
    · exact hothers m c hm hc (by rw [hnum]; exact hmn)
  | skipped hrefused hskip =>
    refine ⟨hinv, fun _ => ?_⟩
    rcases hstands.state with hsame | ⟨_, hrewritten, _⟩
    · rw [← hsame, ← hvolume]
      exact hrefused
    · exact Rt11Segment.rewritten_passed hrewritten
  | @rewritten img₁ _ layout stop hrefused hrewritten hlayout hmove hwrite =>
    have hhdr := (rt11LoadSegment_ok hstands.load).2.2.2
    have hrewritten' := hrewritten
    rw [hvolume] at hrewritten'
    have hrewritten₀ := hstands.rewritten hrewritten'
    have hdirectory := hsafe.directory s hvisited hrewritten₀
    have hdir : img₁.Changed img' s'.place.Has := (rt11WriteSegment_ok hwrite).1
    have hmoved := rt11MoveFiles_targets img s'.fileAreas_ordered
    have hsqueezable : s'.squeezable = true := by
      rw [Rt11Segment.rewritten, Bool.and_eq_true] at hrewritten
      exact hrewritten.1
    have htargets : s'.targets img.volumeBlocks =
        rt11Targets img.volumeBlocks s'.fileAreas s'.hdr.dataStartBlock.toNat := if_pos hsqueezable
    rw [hmove] at hmoved
    change img.Changed img₁ fun b => ∃ t ∈ rt11Targets img.volumeBlocks s'.fileAreas _, t.Has b at hmoved
    rw [← htargets, hvolume] at hmoved
    have hchanged : img.Changed img' fun b =>
        (∃ t ∈ s'.targets img₀.volumeBlocks, t.Has b) ∨ s'.place.Has b :=
      (hmoved.mono fun b hb => .inl hb).trans (hdir.mono fun b hb => .inr hb)
    have hwritten : ∀ b, (∃ t ∈ s'.targets img₀.volumeBlocks, t.Has b) ∨ s'.place.Has b →
        ∃ t ∈ s.written img₀.volumeBlocks, t.Has b := by
      rintro b (hb | hb)
      · exact hmoves b hb
      · refine ⟨s.place, List.mem_append_right _ ?_, by rw [← hplace]; exact hb⟩
        rw [if_pos hrewritten₀]
        exact List.mem_singleton_self _
    have hothers := hinv.others hsafe hvisited hchanged hwritten
    refine ⟨⟨hinv.changed.trans (hchanged.mono fun _ _ => trivial),
      hinv.home_frame hsafe hvisited hchanged hwritten, ?_⟩, fun _ => Rt11Segment.rewritten_passed hrewritten₀⟩
    intro m c hm hc
    by_cases hmn : m = n
    · subst hmn
      rw [hload] at hc
      cases hc
      have hapart : ∀ e ∈ s'.fileAreas ++ s'.targets img.volumeBlocks, s'.place.Apart e := by
        intro e he b hb hin
        rw [hplace] at hb
        rcases List.mem_append.1 he with he | he
        · obtain ⟨p, hp, rfl⟩ := List.mem_map.1 he
          rcases hstands.blocks hp hin with ⟨a, ha, hown⟩ | ⟨_, t, ht, hmoved⟩
          · exact hdirectory a (List.mem_append_left _ ha) b hb hown
          · exact hdirectory t (List.mem_append_right _ ht) b hb hmoved
        · rw [hvolume] at he
          exact hdirectory e (List.mem_append_right _ (hstands.targets he)) b hb hin
      have hkept := Rt11Segment.packed_kept hhdr hlayout hrewritten hmove hdir hapart
      rw [hvolume] at hkept
      have hsettled := Rt11Segment.packed_settled hhdr hlayout hrewritten'
      refine ⟨s'.packed layout, rt11WriteSegment_load hstands.load hwrite, ?_, ?_,
        .inr ⟨hvisited, hrewritten₀, hsettled⟩⟩
      · rw [Rt11Segment.packed_header layout hhdr, hstands.header]
      · exact forall₂_trans (fun _ _ _ h h' => h.trans h' fun t ht => hstands.targets ht) hstands.files hkept
    · exact hothers m c hm hc (by rw [hnum]; exact hmn)

theorem Rt11Image.Changed.load {touched : Nat → Prop} (hc : img₀.Changed img touched) {n : Nat} {s' : Rt11Segment}
    (h : rt11LoadSegment img dirStart n = .ok s') : ∃ s, rt11LoadSegment img₀ dirStart n = .ok s := by
  obtain ⟨hread, _, hblock, _⟩ := rt11LoadSegment_ok h
  have hin := rt11ReadSegment_ok hread
  rw [hc.volumeBlocks, hblock] at hin
  rw [rt11LoadSegment, rt11ReadSegment_of_le hin]
  exact ⟨_, rfl⟩

theorem rt11SqueezeLoop_inv (hsafe : Rt11SqueezeSafe img₀ dirStart) {walk : Rt11Walk}
    (hwalk : Rt11SqueezeWalk img₀ dirStart walk) (hinv : Rt11SqueezeInv img₀ img dirStart) :
    Rt11SqueezeInv img₀ (rt11WalkLoop (rt11SqueezeVisit dirStart) walk () img).2 dirStart := by
  induction hleft : walk.left using Nat.strong_induction_on generalizing walk img with
  | _ left ih =>
    by_cases hgoing : walk.nextSeg = 0
    · rw [rt11WalkLoop_nil hgoing]
      exact hinv
    · rcases hload' : rt11LoadSegment img dirStart walk.nextSeg with e | s'
      · rw [rt11WalkLoop_refused hgoing (by rw [hwalk.start_eq]; exact hload')]
        exact hinv
      · obtain ⟨s, hload⟩ := hinv.changed.load hload'
        obtain ⟨c, hstands⟩ := hinv.segments _ _ (hwalk.linked hgoing) hload
        have hsame := hstands.load
        rw [hload'] at hsame
        cases hsame
        have hvisited : s.Visited img₀ dirStart := ⟨walk, hwalk, hgoing, hload⟩
        obtain ⟨hinv', hpassed⟩ := hinv.step hsafe hvisited hload hstands (rt11SqueezeSegment_step hload')
        have hleft' := walk.advance_left s'.hdr hgoing
        rw [rt11WalkLoop_cons hgoing (by rw [hwalk.start_eq]; exact hload'), rt11SqueezeVisit,
          (rt11LoadSegment_ok hload').2.1]
        rcases hsqueeze : rt11SqueezeSegment img dirStart walk.nextSeg with ⟨e | ⟨⟨⟩⟩, img'⟩
        · rw [hsqueeze] at hinv'
          exact hinv'
        · rw [hsqueeze] at hinv' hpassed
          refine ih _ (by rw [← hleft]; exact hleft') ?_ hinv' rfl
          rw [hstands.header]
          exact .next hwalk hgoing hload (hpassed rfl)

theorem Rt11SqueezeInv.start (h : rt11ReadHome img₀ = .ok dirStart) : Rt11SqueezeInv img₀ img₀ dirStart := by
  refine ⟨.refl _ _, h, fun n s hn hload => ⟨s, hload, rfl, ?_, .inl rfl⟩⟩
  exact List.forall₂_same.2 fun p _ => .frame (.refl _ fun _ => False) _ fun _ _ => id

end Walk

/-! ## The whole volume -/

theorem Rt11Segment.dirents_files (s : Rt11Segment) :
    s.dirents.map (fun d => (d.entry, d.area)) = s.placedFiles := by
  have hzip : s.areas.zipIdx.map Prod.fst = s.areas := List.zipIdx_map_fst _ _
  rw [dirents, List.map_map, placedFiles]
  conv_rhs => rw [← hzip, List.filter_map]
  rfl

theorem Rt11SqueezeInv.survive {img img' : Rt11Image}
    (h : ∀ dirStart, rt11ReadHome img = .ok dirStart → Rt11SqueezeInv img img' dirStart) :
    Rt11FilesSurvive img img' := by
  intro dirStart hhome
  have hinv := h dirStart hhome
  refine ⟨hinv.home, fun n s hn hload => ?_⟩
  obtain ⟨s', hstands⟩ := hinv.segments n s hn hload
  have hfiles := hstands.files
  rw [← Rt11Segment.dirents_files, ← Rt11Segment.dirents_files, List.forall₂_map_left_iff,
    List.forall₂_map_right_iff] at hfiles
  refine ⟨s', hstands.load, hstands.header, hfiles.imp fun d d' hkept => ⟨hkept.entry, fun bytes hread => ?_⟩⟩
  exact hkept.extract hinv.changed.volumeBlocks hread

/-- A free block, a file of two blocks behind it, and a file that ends outside the volume. -/
def rt11BrokenWords : List Word :=
  [1, 0, 1, 0, 8, rt11EMpty, 0, 0, 0, 1, 0, 0, rt11EPerm, 1, 2, 3, 2, 0, 0, rt11EPerm, 4, 5, 6, 6, 0, 0,
    rt11EEos, 0, 0, 0, 0, 0, 0]

/-- A free block and a file that ends outside the volume. -/
def rt11OutsideWords : List Word :=
  [1, 0, 1, 0, 8, rt11EMpty, 0, 0, 0, 2, 0, 0, rt11EPerm, 1, 2, 3, 2, 0, 0, rt11EPerm, 4, 5, 6, 6, 0, 0,
    rt11EEos, 0, 0, 0, 0, 0, 0]

theorem rt11Sample_linked {words : List Word} (hlast : (rt11SampleSegment words).hdr.nextSegment = 0) {n : Nat}
    (h : Rt11Linked (rt11Sample words) 6 n) : n = 1 := by
  induction h with
  | first => rfl
  | next _ hload hnext ih =>
    subst ih
    rw [rt11Sample_load] at hload
    cases hload
    rw [hlast] at hnext
    exact absurd rfl hnext

theorem rt11Sample_visited {words : List Word} (hlast : (rt11SampleSegment words).hdr.nextSegment = 0)
    {s : Rt11Segment} (h : s.Visited (rt11Sample words) 6) : s = rt11SampleSegment words := by
  obtain ⟨walk, hwalk, hgoing, hload⟩ := h
  rw [rt11Sample_linked hlast (hwalk.linked hgoing), rt11Sample_load] at hload
  cases hload
  rfl

theorem rt11Outside_safe : Rt11SqueezeSafe (rt11Sample rt11OutsideWords) 6 := by
  have hlast : (rt11SampleSegment rt11OutsideWords).hdr.nextSegment = 0 := rfl
  have hmoves : (rt11SampleSegment rt11OutsideWords).targets 16 = [⟨8, 2⟩] := by decide +kernel
  have hrewritten : (rt11SampleSegment rt11OutsideWords).rewritten 16 = false := by decide +kernel
  have hfiles : (rt11SampleSegment rt11OutsideWords).fileAreas = [⟨10, 2⟩, ⟨12, 6⟩] := by decide +kernel
  have hplace : (rt11SampleSegment rt11OutsideWords).place = ⟨6, 2⟩ := rfl
  have hwritten : (rt11SampleSegment rt11OutsideWords).written 16 = [⟨8, 2⟩] := by
    rw [Rt11Segment.written, hmoves, hrewritten]
    rfl
  refine ⟨?_, ?_, ?_, ?_, ?_⟩
  · intro s hs t ht
    rw [rt11Sample_visited hlast hs] at ht
    change t ∈ (rt11SampleSegment rt11OutsideWords).written 16 at ht
    rw [hwritten, List.mem_singleton] at ht
    subst ht
    exact (Extent.apart_of_le (by decide)).symm
  · intro s hs _ t ht e he
    rw [rt11Sample_visited hlast hs] at ht he
    change t ∈ (rt11SampleSegment rt11OutsideWords).targets 16 at ht
    rw [hmoves, List.mem_singleton] at ht
    rw [hplace, hfiles, List.mem_cons, List.mem_cons, List.mem_singleton] at he
    subst ht
    rcases he with rfl | rfl | rfl
    · exact (Extent.apart_of_le (by decide)).symm
    · exact Extent.apart_of_le (by decide)
    · exact Extent.apart_of_le (by decide)
  · intro s hs h
    rw [rt11Sample_visited hlast hs] at h
    change (rt11SampleSegment rt11OutsideWords).rewritten 16 = true at h
    rw [hrewritten] at h
    cases h
  · intro s hs n c hn hne
    rw [rt11Sample_visited hlast hs, rt11Sample_linked hlast hn] at hne
    exact absurd rfl hne
  · intro s c hs hc hne
    rw [rt11Sample_visited hlast hs, rt11Sample_visited hlast hc] at hne
    exact absurd rfl hne

theorem rt11FilesSurvive_lost {img img' : Rt11Image} {dirStart : Nat} {s : Rt11Segment} {d : Rt11Dirent}
    {bytes : List Byte} {rest : List Rt11Dirent} (hhome : rt11ReadHome img = .ok dirStart)
    (hload : rt11LoadSegment img dirStart 1 = .ok s) (hload' : rt11LoadSegment img' dirStart 1 = .ok s)
    (hfiles : s.dirents = d :: rest) (hread : rt11ExtractFile img d = .ok bytes)
    (hlost : rt11ExtractFile img' d ≠ .ok bytes) : ¬Rt11FilesSurvive img img' := by
  intro h
  obtain ⟨_, hsegments⟩ := h dirStart hhome
  obtain ⟨s', hs', _, hall⟩ := hsegments 1 s .first hload
  rw [hload'] at hs'
  cases hs'
  rw [hfiles] at hall
  cases hall with
  | cons hd _ => exact hlost (hd.2 bytes hread)

end K1801.Tools
