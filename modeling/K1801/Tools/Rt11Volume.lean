import K1801.Tools.Rt11Consistency
import K1801.Tools.Rt11Mkfs

/-! # RT-11 volumes from their making on

What `rt11_mkfs` makes is sound, and every sequence of calls on its partitions keeps it so.
-/

namespace K1801.Tools

open Core Library

/-! ## Partitions -/

/-- The volume of a partition. -/
def rt11Volume (img : Rt11Image) (p : Nat) : Rt11Image := (rt11SetPartition img p).2

/-- A call on the volume of a partition. -/
def rt11CallOn (img : Rt11Image) (c : Nat × Rt11Call) : Rt11Image := (c.2.run (rt11Volume img c.1)).2

/-- A partition of the file. -/
def Rt11Partition (totalBlocks p : Nat) : Prop := p < rt11PartitionMax ∧ p * rt11PartitionBlocks < totalBlocks

/-- The blocks of its volume. -/
def rt11VolumeBlocks (totalBlocks p : Nat) : Nat := min (totalBlocks - p * 65536) 65535

section Partition

variable {img : Rt11Image} {p : Nat}

theorem rt11SetPartition_ok (h : Rt11Partition img.totalBlocks p) :
    rt11SetPartition img p = (.ok (), rt11Volume img p) ∧ (rt11Volume img p).blocks = img.blocks ∧
      (rt11Volume img p).totalBlocks = img.totalBlocks ∧ (rt11Volume img p).baseBlock = p * 65536 ∧
      (rt11Volume img p).volumeBlocks = rt11VolumeBlocks img.totalBlocks p := by
  have hmax : ¬rt11PartitionMax ≤ p := Nat.not_le_of_lt h.1
  have hbase : ¬img.totalBlocks ≤ p * rt11PartitionBlocks := Nat.not_le_of_lt h.2
  rw [rt11Volume, rt11SetPartition, if_neg hmax]
  simp only []
  rw [dif_neg hbase]
  refine ⟨rfl, rfl, rfl, rfl, ?_⟩
  change (if 65536 ≤ min (img.totalBlocks - p * 65536) 65536 then 65535
    else min (img.totalBlocks - p * 65536) 65536) = min (img.totalBlocks - p * 65536) 65535
  split <;> omega

theorem rt11SetPartition_partition {img' : Rt11Image} (h : rt11SetPartition img p = (.ok (), img')) :
    Rt11Partition img.totalBlocks p ∧ img' = rt11Volume img p := by
  refine ⟨?_, by rw [rt11Volume, h]⟩
  unfold rt11SetPartition at h
  split at h
  · cases h
  · rename_i hmax
    simp only [] at h
    split at h
    · cases h
    · rename_i hbase
      exact ⟨Nat.lt_of_not_le hmax, Nat.lt_of_not_le hbase⟩

end Partition

/-! ## Sound files -/

/-- Every partition below `n` holds a sound directory. -/
structure Rt11Made (n totalBlocks : Nat) (img : Rt11Image) : Prop where
  total : img.totalBlocks = totalBlocks
  partitions : ∀ p, p < n → Rt11Partition totalBlocks p ∧ ∃ s, Rt11Good (rt11Volume img p) s

/-- A change inside the volume of one partition leaves the others as they are. -/
theorem rt11Volume_other {img img' : Rt11Image} {q : Nat} (hq : Rt11Partition img.totalBlocks q)
    (hc : (rt11Volume img q).Changed img' (· < (rt11Volume img q).volumeBlocks)) {p : Nat}
    (hp : Rt11Partition img.totalBlocks p) (hne : p ≠ q) {s : Rt11Segment} (hgood : Rt11Good (rt11Volume img p) s) :
    Rt11Good (rt11Volume img' p) s := by
  obtain ⟨_, hblocks, htotal, hbase, hvolume⟩ := rt11SetPartition_ok hq
  have htotal' : img'.totalBlocks = img.totalBlocks := by
    rw [hc.geometry]
    exact htotal
  have hp' : Rt11Partition img'.totalBlocks p := by
    rw [htotal']
    exact hp
  obtain ⟨_, hblocks', _, hbase', hvolume'⟩ := rt11SetPartition_ok hp'
  obtain ⟨_, hblocks'', _, hbase'', hvolume''⟩ := rt11SetPartition_ok hp
  refine hgood.frame (by rw [hvolume', hvolume'', htotal']) fun r hr => ?_
  rw [hblocks', hblocks'', hbase', hbase'', ← hblocks]
  refine hc.kept _ fun a ha heq => hne ?_
  rw [hbase] at heq
  rw [hvolume] at ha
  have hlt : a < 65535 := Nat.lt_of_lt_of_le ha (Nat.min_le_right _ _)
  omega

theorem rt11Volume_same {img img' : Rt11Image} {q : Nat} (hq : Rt11Partition img.totalBlocks q)
    (hc : (rt11Volume img q).Changed img' (· < (rt11Volume img q).volumeBlocks)) {s : Rt11Segment}
    (hgood : Rt11Good img' s) : Rt11Good (rt11Volume img' q) s := by
  obtain ⟨_, _, htotal, hbase, hvolume⟩ := rt11SetPartition_ok hq
  have htotal' : img'.totalBlocks = img.totalBlocks := by
    rw [hc.geometry]
    exact htotal
  have hq' : Rt11Partition img'.totalBlocks q := by
    rw [htotal']
    exact hq
  obtain ⟨_, hblocks', _, hbase', hvolume'⟩ := rt11SetPartition_ok hq'
  refine hgood.frame (by rw [hvolume', htotal', hc.volumeBlocks, hvolume]) fun r _ => ?_
  rw [hblocks', hbase', hc.baseBlock, hbase]

theorem Rt11Made.change {n totalBlocks : Nat} {img img' : Rt11Image} (h : Rt11Made n totalBlocks img) {q : Nat}
    (hq : Rt11Partition totalBlocks q) (hkeeps : Rt11Keeps (rt11Volume img q) img') :
    Rt11Made n totalBlocks img' := by
  rw [← h.total] at hq
  have htotal' : img'.totalBlocks = totalBlocks := by
    rw [hkeeps.inside.geometry, ← h.total]
    exact (rt11SetPartition_ok hq).2.2.1
  refine ⟨htotal', fun p hp => ?_⟩
  obtain ⟨hpart, s, hgood⟩ := h.partitions p hp
  refine ⟨hpart, ?_⟩
  by_cases heq : p = q
  · subst heq
    obtain ⟨s', hgood'⟩ := hkeeps.good
    exact ⟨s', rt11Volume_same hq hkeeps.inside hgood'⟩
  · rw [← h.total] at hpart
    exact ⟨s, rt11Volume_other hq hkeeps.inside hpart heq hgood⟩

theorem Rt11Made.call {n totalBlocks : Nat} {img : Rt11Image} (h : Rt11Made n totalBlocks img)
    {c : Nat × Rt11Call} (hc : c.1 < n) : Rt11Made n totalBlocks (rt11CallOn img c) := by
  obtain ⟨hpart, s, hgood⟩ := h.partitions c.1 hc
  exact h.change hpart (Rt11Call.run_keeps hgood c.2)

theorem Rt11Made.run {n totalBlocks : Nat} {img : Rt11Image} (h : Rt11Made n totalBlocks img)
    {calls : List (Nat × Rt11Call)} (hcalls : ∀ c ∈ calls, c.1 < n) :
    Rt11Made n totalBlocks (calls.foldl rt11CallOn img) := by
  induction calls generalizing img with
  | nil => exact h
  | cons c calls ih =>
    exact ih (h.call (hcalls c (List.mem_cons_self ..))) fun c' hc' => hcalls c' (List.mem_cons_of_mem _ hc')

/-! ## The home block -/

theorem rt11GetWord_put_self (i : Nat) (val : Word) (buf : BlockBytes) :
    rt11GetWord (rt11PutWord i val buf) i = val := by
  simp only [rt11GetWord, rt11PutWord]
  rw [Function.update_self, Function.update_of_ne (by omega), Function.update_self]
  refine BitVec.eq_of_getLsbD_eq fun k hk => ?_
  rw [BitVec.getLsbD_or, BitVec.getLsbD_setWidth, BitVec.getLsbD_setWidth, BitVec.getLsbD_shiftLeft,
    BitVec.getLsbD_setWidth, BitVec.getLsbD_setWidth, BitVec.getLsbD_ushiftRight]
  by_cases hlow : k < 8
  · simp only [hk, hlow, decide_true, Bool.true_and, Bool.not_true, Bool.false_and, Bool.or_false]
  · have hsame : 8 + (k - 8) = k := by omega
    have hhigh : k - 8 < 8 := by omega
    have hwide : k - 8 < 16 := by omega
    simp only [hk, hlow, hhigh, hwide, hsame, decide_true, decide_false, Bool.true_and, Bool.false_and, Bool.not_false,
      Bool.and_false, Bool.false_or]

theorem rt11GetWord_put_other {i j : Nat} (hne : i ≠ j) (val : Word) (buf : BlockBytes) :
    rt11GetWord (rt11PutWord i val buf) j = rt11GetWord buf j := by
  simp only [rt11GetWord, rt11PutWord]
  rw [Function.update_of_ne (by omega), Function.update_of_ne (by omega), Function.update_of_ne (by omega),
    Function.update_of_ne (by omega)]

theorem rt11GetWord_ascii {off j : Nat} (hne : j * 2 + 1 < off ∨ off + rt11HomeFieldLen ≤ j * 2) (text : List Byte)
    (buf : BlockBytes) : rt11GetWord (rt11HomeSetAscii off text buf) j = rt11GetWord buf j := by
  simp only [rt11GetWord, rt11HomeSetAscii]
  rw [if_neg (by omega), if_neg (by omega)]

theorem rt11HomeBlock_dirStart (opts : Rt11MkfsOpts) : rt11HomeBlock opts 0o352 = 6 := by
  change rt11GetWord (rt11PutWord 255 _ (rt11HomeFields opts)) 234 = 6
  rw [rt11GetWord_put_other (by decide), rt11HomeFields]
  rw [rt11GetWord_put_other (by decide), rt11GetWord_ascii (by decide), rt11GetWord_ascii (by decide),
    rt11GetWord_ascii (by decide), rt11GetWord_put_other (by decide)]
  exact rt11GetWord_put_self _ _ _

/-! ## Making -/

theorem rt11TotalSegments_ok {opts : Rt11MkfsOpts} {volumeBlocks totalSegments : Nat}
    (h : rt11TotalSegments opts volumeBlocks = .ok totalSegments) : 0 < totalSegments := by
  obtain ⟨fit, hfit⟩ : ∃ fit, fit = (volumeBlocks - rt11DirStartBlock - 1) / rt11DirSegmentBlocks := ⟨_, rfl⟩
  obtain ⟨maxSegments, hmax⟩ : ∃ maxSegments, maxSegments = if fit = 0 then 1 else fit := ⟨_, rfl⟩
  have hpos : 0 < maxSegments := by
    rw [hmax]
    split <;> omega
  rw [rt11TotalSegments, ← hfit] at h
  simp only [← hmax] at h
  split at h
  · rename_i hsegs
    split at h
    · cases h
    · cases h
      exact Nat.pos_of_ne_zero fun hzero => hsegs (BitVec.eq_of_toNat_eq hzero)
  · cases h
    have hsmall : 16 ≤ rt11DefaultSegments volumeBlocks := by
      unfold rt11DefaultSegments
      split
      · exact Nat.le_refl _
      · decide
    change 0 < min (min (rt11DefaultSegments volumeBlocks) 31) maxSegments
    omega

theorem rt11FirstSegment_word (totalSegments dataStart dataBlocks : Nat) {w : Nat} (hw : w < 5) :
    rt11FirstSegment totalSegments dataStart dataBlocks w =
      [BitVec.ofNat 16 totalSegments, 0, 1, 0, BitVec.ofNat 16 dataStart].getD w 0 := by
  rw [rt11FirstSegment, rt11WriteEntries_before _ _ (by omega), rt11SetWords_apply,
    if_pos ⟨Nat.zero_le _, by rw [Nat.zero_add]; exact hw⟩, Nat.sub_zero]

theorem rt11FirstSegment_header (totalSegments dataStart dataBlocks : Nat) :
    rt11ParseSegmentHeader (rt11FirstSegment totalSegments dataStart dataBlocks) =
      ⟨BitVec.ofNat 16 totalSegments, 0, 1, 0, BitVec.ofNat 16 dataStart⟩ := by
  unfold rt11ParseSegmentHeader
  rw [rt11FirstSegment_word _ _ _ (by decide), rt11FirstSegment_word _ _ _ (by decide),
    rt11FirstSegment_word _ _ _ (by decide), rt11FirstSegment_word _ _ _ (by decide),
    rt11FirstSegment_word _ _ _ (by decide)]
  rfl

theorem rt11FirstSegment_scan (totalSegments dataStart dataBlocks : Nat) :
    rt11Scan (rt11FirstSegment totalSegments dataStart dataBlocks) 7 72 0 =
      ⟨[.blank rt11EMpty (BitVec.ofNat 16 dataBlocks) 7], some (.blank rt11EEos 0 7)⟩ := by
  have hfit : ∀ e ∈ [Rt11Entry.blank rt11EMpty (BitVec.ofNat 16 dataBlocks) 7], e.Fits 7 ∧ e.isEos = false := by
    intro e he
    rw [List.mem_singleton.1 he]
    exact ⟨Rt11Entry.fits_blank _ _ (Nat.le_refl _), (Rt11Entry.blank_empty _ _).2.2⟩
  exact rt11Scan_write _ hfit ⟨Rt11Entry.fits_blank _ _ (Nat.le_refl _), Rt11Entry.blank_eos _ _⟩
    (by rw [List.length_singleton]; decide)

theorem rt11Sound_first {dataBlocks : Nat} (h : dataBlocks ≤ 0xFFFF) :
    Rt11Sound dataBlocks [.blank rt11EMpty (BitVec.ofNat 16 dataBlocks) 7] := by
  refine ⟨Nat.mod_eq_of_lt (Nat.lt_succ_of_le h), ?_, ?_⟩
  · intro e he
    rw [List.mem_singleton.1 he]
    exact Rt11Entry.plain_blank _ _
  · rw [rt11Names_empty (Rt11Entry.blank_empty _ _).2.1]
    exact List.nodup_nil

/-- The home block and the first segment of a volume. -/
theorem rt11Format_keeps {v : Rt11Image} {opts : Rt11MkfsOpts} {totalSegments : Nat} (hsegs : 0 < totalSegments)
    (hroom : 6 + totalSegments * 2 < v.volumeBlocks) {v₁ v₂ : Rt11Image}
    (hhome : rt11WriteBlock v 1 (rt11HomeBlock opts) = (.ok (), v₁))
    (hseg : rt11WriteSegment v₁ rt11DirStartBlock (rt11FirstSegment totalSegments (6 + totalSegments * 2)
      (v.volumeBlocks - (6 + totalSegments * 2))) = (.ok (), v₂)) : Rt11Keeps v v₂ := by
  have husable : v.volumeBlocks ≤ 65535 := v.usable
  have hchanged := rt11WriteBlock_changed hhome
  have hread : rt11ReadHome v₁ = .ok rt11DirStartBlock := by
    have hblock : v₁.blocks (v₁.baseBlock + 1) = rt11HomeBlock opts := by
      rw [rt11WriteBlock, rt11Seek_of_lt (by omega)] at hhome
      cases hhome
      exact Function.update_self ..
    rw [rt11ReadHome, rt11ReadBlock, rt11Seek_of_lt (by rw [hchanged.volumeBlocks]; omega)]
    simp only [hblock]
    rw [rt11HomeBlock_dirStart]
    rfl
  have hhdr := rt11FirstSegment_header totalSegments (6 + totalSegments * 2) (v.volumeBlocks - (6 + totalSegments * 2))
  have hstart : (BitVec.ofNat 16 (6 + totalSegments * 2)).toNat = 6 + totalSegments * 2 :=
    Nat.mod_eq_of_lt (by omega)
  have hfirst : Rt11Sound (v₁.volumeBlocks - (BitVec.ofNat 16 (6 + totalSegments * 2)).toNat)
      [.blank rt11EMpty (BitVec.ofNat 16 (v.volumeBlocks - (6 + totalSegments * 2))) 7] := by
    rw [hstart, hchanged.volumeBlocks]
    exact rt11Sound_first (by omega)
  have hin : (BitVec.ofNat 16 (6 + totalSegments * 2)).toNat < v₁.volumeBlocks := by
    rw [hstart, hchanged.volumeBlocks]
    exact hroom
  obtain ⟨v₂', s, hwrite, hchanged', hgood⟩ := rt11WriteSegment_good hread (by rw [hhdr]) (by rw [hhdr])
    (by rw [hhdr]; change 8 ≤ (BitVec.ofNat 16 _).toNat; omega) (by rw [hhdr]; exact hin)
    (rt11FirstSegment_scan _ _ _) rfl (by rw [hhdr]; exact hfirst)
  rw [hseg] at hwrite
  cases hwrite
  refine ⟨⟨s, hgood⟩, (hchanged.mono fun b hb => ?_).trans (hchanged'.mono fun b hb => ?_)⟩
  · rw [hb]
    omega
  · have hstop : b < 6 + 2 := hb.2
    omega

theorem rt11MkfsPartition_made {opts : Rt11MkfsOpts} {totalBlocks p usable : Nat} {img img' : Rt11Image}
    (hmade : Rt11Made p totalBlocks img) (h : rt11MkfsPartition opts totalBlocks p img = (.ok usable, img')) :
    Rt11Made (p + 1) totalBlocks img' := by
  simp only [rt11MkfsPartition] at h
  split at h
  · cases h
  · rcases hset : rt11SetPartition img p with ⟨e | u, v⟩
    · rw [hset] at h
      cases h
    · obtain ⟨hpart, rfl⟩ := rt11SetPartition_partition hset
      simp only [hset] at h
      split at h
      · cases h
      · rcases hsegs : rt11TotalSegments opts (rt11Volume img p).volumeBlocks with e | totalSegments
        · rw [hsegs] at h
          cases h
        · simp only [hsegs] at h
          split at h
          · cases h
          · rename_i hroom
            rcases hhome : rt11WriteBlock (rt11Volume img p) 1 (rt11HomeBlock opts) with ⟨e | u, v₁⟩
            · rw [hhome] at h
              cases h
            · simp only [hhome] at h
              split at h
              · cases h
              · rcases hseg : rt11WriteSegment v₁ rt11DirStartBlock (rt11FirstSegment totalSegments
                  (6 + totalSegments * 2) ((rt11Volume img p).volumeBlocks - (6 + totalSegments * 2))) with
                  ⟨e | u, v₂⟩
                · rw [hseg] at h
                  cases h
                · rw [hseg] at h
                  cases h
                  have hkeeps := rt11Format_keeps (rt11TotalSegments_ok hsegs) (Nat.lt_of_not_le hroom) hhome hseg
                  have hpart' := hpart
                  rw [hmade.total] at hpart'
                  have hold := hmade.change hpart' hkeeps
                  refine ⟨hold.total, fun q hq => ?_⟩
                  rcases Nat.lt_succ_iff_lt_or_eq.1 hq with hlt | heq
                  · exact hold.partitions q hlt
                  · subst heq
                    obtain ⟨s, hgood⟩ := hkeeps.good
                    exact ⟨hpart', s, rt11Volume_same hpart hkeeps.inside hgood⟩

theorem rt11MkfsPartitions_made {opts : Rt11MkfsOpts} {totalBlocks n usable : Nat} {img img' : Rt11Image}
    (htotal : img.totalBlocks = totalBlocks) (h : rt11MkfsPartitions opts totalBlocks n img = (.ok usable, img')) :
    Rt11Made n totalBlocks img' := by
  induction n generalizing usable img' with
  | zero =>
    cases h
    exact ⟨htotal, fun p hp => absurd hp (Nat.not_lt_zero _)⟩
  | succ n ih =>
    rw [rt11MkfsPartitions] at h
    rcases hfirst : rt11MkfsPartitions opts totalBlocks n img with ⟨e | u, img₁⟩
    · rw [hfirst] at h
      cases h
    · simp only [hfirst] at h
      rcases hlast : rt11MkfsPartition opts totalBlocks n img₁ with ⟨e | u', img₂⟩
      · rw [hlast] at h
        cases h
      · rw [hlast] at h
        cases h
        exact rt11MkfsPartition_made (ih hfirst) hlast

theorem rt11Mkfs_made {totalBlocks : BitVec 32} {opts : Rt11MkfsOpts} {img : Rt11Image} {usable : Nat}
    (h : rt11Mkfs totalBlocks opts = .ok (img, usable)) :
    Rt11Made (rt11Partitions totalBlocks) totalBlocks.toNat img := by
  unfold rt11Mkfs at h
  split_ifs at h
  rcases hopen : rt11OpenImage (fun _ _ => 0) totalBlocks.toNat with ⟨e | u, img₀⟩
  · rw [hopen] at h
    cases h
  · simp only [hopen] at h
    rcases hparts : rt11MkfsPartitions opts totalBlocks.toNat (rt11Partitions totalBlocks) img₀ with ⟨e | u', img₁⟩
    · rw [hparts] at h
      cases h
    · rw [hparts] at h
      cases h
      obtain ⟨hpart, rfl⟩ := rt11SetPartition_partition hopen
      exact rt11MkfsPartitions_made (rt11SetPartition_ok hpart).2.2.1 hparts

/-! ## Consistency -/

/-- The end mark of a segment lies inside its 512 words. -/
def Rt11Segment.Ends (s : Rt11Segment) : Prop :=
  ∃ layout i, rt11EntryLayout s.hdr = .ok layout ∧ (rt11Row s.buf layout.entryWords i).isEos = true ∧
    5 + (i + 1) * layout.entryWords ≤ 512 ∧ i = s.listing.entries.length

/-- A volume with this directory and these files, as the calls read them. -/
structure Rt11Consistent (img : Rt11Image) (dirStart : Nat) (first : Rt11Segment) (rest : List Rt11Segment)
    (files : List Rt11Dirent) : Prop where
  home : rt11ReadHome img = .ok dirStart
  linked : Rt11Chain img dirStart 1 (first :: rest)
  ends : ∀ s ∈ first :: rest, s.Ends
  lengths : first.hdr.dataStartBlock.toNat + ((first :: rest).map fun s => s.area.len).sum = img.volumeBlocks
  listed : rt11ReadDirectory img = .ok files
  apart : files.Pairwise fun d d' => d.area.Apart d'.area
  inside : ∀ d ∈ files, first.hdr.dataStartBlock.toNat ≤ d.area.start ∧ d.area.stop ≤ img.volumeBlocks
  names : (files.map fun d => d.entry.name).Nodup
  clean : ∀ repair, rt11Fsck img repair = (.ok [], img)

section Good

variable {img : Rt11Image} {s : Rt11Segment}

theorem Rt11Good.ends (h : Rt11Good img s) : s.Ends := by
  obtain ⟨eos, hscan, _⟩ := rt11Listing_scan h
  have hmark := rt11Scan_eos s.buf (Nat.le_refl 7) 72 0
  have hlength := (rt11Scan_length s.buf 7 72 0).2
  rw [hscan] at hmark hlength
  have hend := (rt11Scan_rows hscan).2
  rw [Nat.zero_add] at hend
  refine ⟨_, s.listing.entries.length, h.sound.layout, ?_, ?_, rfl⟩
  · simp only [hend]
    exact (hmark eos rfl).2
  · have hroom := hlength (Option.some_ne_none _)
    change 5 + (s.listing.entries.length + 1) * 7 ≤ 512
    have hsame : Rt11Scan.entries ⟨s.listing.entries, some eos⟩ = s.listing.entries := rfl
    rw [hsame] at hroom
    omega

theorem Rt11Good.listed (h : Rt11Good img s) : rt11ReadDirectory img = .ok (rt11SegmentFiles s ⟨7, 72⟩) := by
  obtain ⟨walk, _, hloop⟩ := rt11WalkLoop_single rt11ReadDirVisit [] h.load h.sound.last
  have hvisit : rt11ReadDirVisit s [] img = (.ok (.inl (rt11SegmentFiles s ⟨7, 72⟩)), img) := by
    rw [rt11ReadDirVisit, h.sound.layout]
    rfl
  rw [hvisit] at hloop
  rw [rt11ReadDirectory, h.home]
  simp only [rt11ReadDirEntries, hloop]

theorem Rt11Good.areas_ordered (h : Rt11Good img s) :
    ((rt11SegmentFiles s ⟨7, 72⟩).map fun d => d.area).Sublist
      (Extent.consecutive s.hdr.dataStartBlock.toNat (s.listing.entries.map fun e => e.length.toNat)) := by
  have hfiles := congrArg (List.map Prod.snd) (rt11SegmentFiles_entries h)
  rw [List.map_map] at hfiles
  have hsub : ((s.areas.filter fun p => p.1.isFile).map Prod.snd).Sublist (s.areas.map Prod.snd) :=
    List.Sublist.map _ List.filter_sublist
  rw [← hfiles, Rt11Segment.areas, rt11Place_areas] at hsub
  exact hsub

theorem Rt11Good.apart_files (h : Rt11Good img s) :
    (rt11SegmentFiles s ⟨7, 72⟩).Pairwise fun d d' => d.area.Apart d'.area := by
  have hpair := (Extent.consecutive_pairwise _ _).sublist h.areas_ordered
  rw [List.pairwise_map] at hpair
  refine hpair.imp fun hle b hb hb' => ?_
  exact absurd (Nat.lt_of_lt_of_le hb.2 (Nat.le_trans hle hb'.1)) (Nat.lt_irrefl b)

theorem Rt11Good.inside (h : Rt11Good img s) : ∀ d ∈ rt11SegmentFiles s ⟨7, 72⟩,
    s.hdr.dataStartBlock.toNat ≤ d.area.start ∧ d.area.stop ≤ img.volumeBlocks := by
  intro d hd
  have hin := h.areas_ordered.subset (List.mem_map_of_mem hd)
  have hwithin := Extent.consecutive_within hin
  have hroom := h.sound.room
  have htotal : (s.listing.entries.map fun e => e.length.toNat).sum =
      img.volumeBlocks - s.hdr.dataStartBlock.toNat := h.sound.entries.total
  exact ⟨hwithin.1, by omega⟩

theorem Rt11Good.names (h : Rt11Good img s) :
    ((rt11SegmentFiles s ⟨7, 72⟩).map fun d => d.entry.name).Nodup := by
  have hfiles := congrArg (List.map Prod.fst) (rt11SegmentFiles_entries h)
  rw [rt11Areas_files, List.map_map] at hfiles
  have hnames := h.sound.entries.names
  rw [rt11Names, ← hfiles, List.map_map] at hnames
  exact hnames

theorem Rt11Good.clean (h : Rt11Good img s) (repair : Bool) : rt11Fsck img repair = (.ok [], img) := by
  obtain ⟨eos, heos, hlen⟩ := h.sound.mark
  have hroom := h.sound.room
  rw [rt11Fsck_single h.home h.load h.sound.last (Nat.le_of_lt hroom), rt11FsckSegment, h.load]
  simp only [h.sound.layout, Rt11Segment.listing_eq h.sound.layout, heos]
  rw [if_neg (by omega), h.sound.entries.total, if_neg (Nat.lt_irrefl _), if_pos (by rw [hlen]; rfl)]

theorem Rt11Good.consistent (h : Rt11Good img s) :
    Rt11Consistent img rt11DirStartBlock s [] (rt11SegmentFiles s ⟨7, 72⟩) := by
  have hlast : Rt11Chain img rt11DirStartBlock s.hdr.nextSegment.toNat [] := by
    rw [h.sound.last]
    rfl
  have hroom := h.sound.room
  refine ⟨h.home, ⟨Nat.one_ne_zero, h.load, hlast⟩, ?_, ?_, h.listed, h.apart_files, h.inside, h.names, h.clean⟩
  · intro c hc
    rw [List.mem_singleton.1 hc]
    exact h.ends
  · change s.hdr.dataStartBlock.toNat + (s.area.len + 0) = img.volumeBlocks
    rw [h.sound.area]
    change s.hdr.dataStartBlock.toNat + (img.volumeBlocks - s.hdr.dataStartBlock.toNat + 0) = img.volumeBlocks
    omega

end Good

/-- Every partition that `rt11_mkfs` makes is consistent after any calls on its partitions, failed ones included. -/
theorem rt11_consistent {totalBlocks : BitVec 32} {opts : Rt11MkfsOpts} {img : Rt11Image} {usable : Nat}
    (h : rt11Mkfs totalBlocks opts = .ok (img, usable)) {calls : List (Nat × Rt11Call)}
    (hcalls : ∀ c ∈ calls, c.1 < rt11Partitions totalBlocks) {p : Nat} (hp : p < rt11Partitions totalBlocks) :
    ∃ dirStart first rest files,
      Rt11Consistent (rt11Volume (calls.foldl rt11CallOn img) p) dirStart first rest files := by
  obtain ⟨_, s, hgood⟩ := ((rt11Mkfs_made h).run hcalls).partitions p hp
  exact ⟨_, _, _, _, hgood.consistent⟩

theorem rt11_consistent_add : ∃ img usable, rt11Mkfs 16 ⟨none, none, none, 1⟩ = .ok (img, usable) ∧
    ∃ dirStart first rest files, Rt11Consistent (rt11Volume
      ([(0, .add [1, 2, 3] ⟨1, 2, 3⟩ 0), (0, .setProtect ⟨1, 2, 3⟩ true), (0, .squeeze)].foldl rt11CallOn img) 0)
      dirStart first rest files := by
  have hmade : (rt11Mkfs 16 ⟨none, none, none, 1⟩).toOption.isSome = true := by decide +kernel
  rcases hmkfs : rt11Mkfs 16 ⟨none, none, none, 1⟩ with e | ⟨img, usable⟩
  · rw [hmkfs] at hmade
    cases hmade
  · exact ⟨img, usable, rfl, rt11_consistent hmkfs (by decide) (by decide)⟩

end K1801.Tools
