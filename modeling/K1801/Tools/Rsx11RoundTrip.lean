import K1801.Library.Checks
import K1801.Tools.Rsx11Headers

/-! # Headers that are built and read back

An extent is cut into pieces of at most 256 blocks; reading a header gives the pieces, and with them the same blocks.
-/

namespace K1801.Tools.Rsx11

open Core Library Buffer

/-! ## Pieces of extents -/

theorem flatMap_pieces (n : Nat) {lbn blocks : Nat} (h : (blocks + 255) / 256 = n) :
    (List.range n).flatMap (fun k => List.range' (lbn + 256 * k) (min (blocks - 256 * k) 256)) =
      List.range' lbn blocks := by
  induction n generalizing lbn blocks with
  | zero =>
    have hzero : blocks = 0 := by omega
    rw [hzero]
    rfl
  | succ n ih =>
    have hrest := @ih (lbn + 256) (blocks - 256) (by omega)
    have hshift : (fun k => List.range' (lbn + 256 + 256 * k) (min (blocks - 256 - 256 * k) 256)) =
        fun k => List.range' (lbn + 256 * (k + 1)) (min (blocks - 256 * (k + 1)) 256) := by
      funext k
      have hlbn : lbn + 256 + 256 * k = lbn + 256 * (k + 1) := by omega
      have hleft : blocks - 256 - 256 * k = blocks - 256 * (k + 1) := by omega
      rw [hlbn, hleft]
    rw [hshift] at hrest
    rw [List.range_succ_eq_map, List.flatMap_cons, List.flatMap_map, hrest]
    by_cases hle : blocks ≤ 256
    · have hnone : blocks - 256 = 0 := by omega
      have hmin : min (blocks - 256 * 0) 256 = blocks := by omega
      rw [hnone, hmin, List.range'_zero, List.append_nil]
      rfl
    · have hmin : min (blocks - 256 * 0) 256 = 256 := by omega
      have hsum : 256 + (blocks - 256) = blocks := by omega
      have happend := @List.range'_append lbn 256 (blocks - 256) 1
      rw [Nat.one_mul, hsum] at happend
      rw [hmin]
      exact happend

theorem splitExtent_lbns (e : RsxExtent) : (splitExtent e).flatMap RsxExtent.lbns = e.lbns := by
  unfold splitExtent
  rw [List.flatMap_map]
  exact flatMap_pieces _ rfl

/-- The pieces are the same blocks. -/
theorem mapPieces_lbns (extents : List RsxExtent) :
    (mapPieces extents).flatMap RsxExtent.lbns = extents.flatMap RsxExtent.lbns := by
  unfold mapPieces
  rw [List.flatMap_assoc]
  congr 1
  funext e
  exact splitExtent_lbns e

theorem splitExtent_fits {e piece : RsxExtent} (h : e.lbn + e.blocks ≤ 16777216) (hp : piece ∈ splitExtent e) :
    piece.Fits := by
  unfold splitExtent at hp
  obtain ⟨k, hk, rfl⟩ := List.mem_map.1 hp
  rw [List.mem_range] at hk
  refine ⟨?_, ?_, ?_⟩
  · change e.lbn + 256 * k < 16777216
    omega
  · change 0 < min (e.blocks - 256 * k) 256
    omega
  · change min (e.blocks - 256 * k) 256 ≤ 256
    omega

theorem mapPieces_fits {extents : List RsxExtent} (h : ∀ e ∈ extents, e.lbn + e.blocks ≤ 16777216) :
    ∀ piece ∈ mapPieces extents, piece.Fits := by
  intro piece hp
  obtain ⟨e, he, hpe⟩ := List.mem_flatMap.1 hp
  exact splitExtent_fits (h e he) hpe

theorem sum_blocks (extents : List RsxExtent) :
    (extents.map RsxExtent.blocks).sum = (extents.flatMap RsxExtent.lbns).length := by
  rw [List.length_flatMap]
  congr 1
  exact List.map_congr_left fun e _ => List.length_range'.symm

theorem mapPieces_blocks (extents : List RsxExtent) :
    ((mapPieces extents).map RsxExtent.blocks).sum = (extents.map RsxExtent.blocks).sum := by
  rw [sum_blocks, sum_blocks, mapPieces_lbns]

/-- Every pointer stands for at most 256 blocks. -/
theorem sum_blocks_le (extents : List RsxExtent) :
    (extents.map RsxExtent.blocks).sum ≤ 256 * (extents.map fun e => headerMapPointerCount e.blocks).sum := by
  induction extents with
  | nil => exact Nat.le_refl 0
  | cons e rest ih =>
    rw [List.map_cons, List.map_cons, List.sum_cons, List.sum_cons]
    unfold headerMapPointerCount at ih ⊢
    omega

/-! ## Building succeeds -/

/-- A name that stands in `n` characters. Blanks at the end are the field's, not the name's. -/
structure Rad50Name (n : Nat) (s : List Char) : Prop where
  length : s.length ≤ n
  chars : ∀ c ∈ s, (rad50EncodeChar c).isSome ∧ c ≠ '\x00'
  last : s.getLast? ≠ some ' '

theorem Rad50Name.no_nul {n : Nat} {s : List Char} (h : Rad50Name n s) : '\x00' ∉ s := fun hmem =>
  (h.chars _ hmem).2 rfl

theorem padded_code {n : Nat} {s : List Char} (h : Rad50Name n s) (i : Nat) :
    ∃ v, rad50EncodeChar (padded s i) = some v := by
  unfold padded
  by_cases hlt : i < s.length
  · rw [List.getD_eq_getElem _ _ hlt]
    exact Option.isSome_iff_exists.1 (h.chars _ (List.getElem_mem hlt)).1
  · rw [List.getD_eq_default _ _ (Nat.le_of_not_lt hlt)]
    exact ⟨0, rfl⟩

theorem rad50EncodeWord_ok {n : Nat} {s : List Char} (h : Rad50Name n s) (i j k : Nat) :
    ∃ w, rad50EncodeWord (padded s i) (padded s j) (padded s k) = .ok w := by
  obtain ⟨v0, h0⟩ := padded_code h i
  obtain ⟨v1, h1⟩ := padded_code h j
  obtain ⟨v2, h2⟩ := padded_code h k
  unfold rad50EncodeWord
  rw [h0, h1, h2]
  exact ⟨_, rfl⟩

theorem rad50EncodeName3_ok {n : Nat} {s : List Char} (h : Rad50Name n s) (hn : n ≤ 9) (dst : Buffer) (off : Nat) :
    ∃ buf, rad50EncodeName3 s dst off = .ok buf := by
  obtain ⟨w0, h0⟩ := rad50EncodeWord_ok h 0 1 2
  obtain ⟨w1, h1⟩ := rad50EncodeWord_ok h 3 4 5
  obtain ⟨w2, h2⟩ := rad50EncodeWord_ok h 6 7 8
  have hlen := h.length
  unfold rad50EncodeName3
  rw [if_neg (by omega), h0, h1, h2]
  exact ⟨_, rfl⟩

/-- A list of extents that fits in one header. -/
structure ExtentsFit (extents : List RsxExtent) : Prop where
  blocks : ∀ e ∈ extents, e.blocks ≠ 0
  lbns : ∀ e ∈ extents, e.lbn + e.blocks ≤ 16777216
  count : (extents.map fun e => headerMapPointerCount e.blocks).sum ≤ 102

theorem buildFileHeaderExtents_ok {fnum seq uic prot version fileBytes : Nat} {name ext : List Char}
    {extents : List RsxExtent} (hname : Rad50Name 9 name) (hext : Rad50Name 3 ext) (hfit : ExtentsFit extents)
    (hsize : extents = [] → fileBytes = 0) :
    ∃ block, buildFileHeaderExtents fnum seq uic prot name ext version extents fileBytes = .ok block := by
  obtain ⟨named, hnamed⟩ := rad50EncodeName3_ok hname (Nat.le_refl 9) (headerStart fnum seq uic prot) (2 * idofWords)
  obtain ⟨typed, htyped⟩ := rad50EncodeName3_ok hext (by decide) named (2 * idofWords + 6)
  have hzero : 0 ∉ extents.map RsxExtent.blocks := by
    intro hmem
    obtain ⟨e, he, hblocks⟩ := List.mem_map.1 hmem
    exact hfit.blocks e he hblocks
  have hnone : ¬((extents.map fun e => headerMapPointerCount e.blocks).sum = 0 ∧
      (extents ≠ [] ∨ fileBytes ≠ 0)) := by
    rintro ⟨hsum, hsome⟩
    cases extents with
    | nil => exact hsome.elim (· rfl) (· (hsize rfl))
    | cons e rest =>
      have hblocks := hfit.blocks e List.mem_cons_self
      rw [List.map_cons, List.sum_cons] at hsum
      unfold headerMapPointerCount at hsum
      omega
  have hmany : ¬rsx11MapMaxWords < 2 * (extents.map fun e => headerMapPointerCount e.blocks).sum := by
    have hmax : rsx11MapMaxWords = 204 := rfl
    have hcount := hfit.count
    omega
  unfold buildFileHeaderExtents
  rw [hnamed]
  change ∃ block, (rad50EncodeName3 ext named (2 * idofWords + 6) >>= _) = .ok block
  rw [htyped]
  dsimp only [bind, Except.bind]
  rw [if_neg hzero, if_neg hnone, if_neg hmany]
  exact ⟨_, rfl⟩

/-! ## Reading gives back what was built -/

/-- A header that says what a header was built from. -/
structure ReadsBack (hdr : RsxHeader) (fid : RsxFid) (segment : Nat) (next : RsxFid) (name ext : List Char)
    (version fileBytes : Nat) (extents : List RsxExtent) : Prop where
  fid : hdr.fid = fid
  segment : hdr.segmentNumber = segment
  next : hdr.nextFid = next
  name : hdr.name = name
  ext : hdr.ext = ext
  version : hdr.version = version
  size : hdr.sizeBytes = fileBytes
  blocks : hdr.lbns = extents.flatMap RsxExtent.lbns

/-- No size is read where no block ends the file. -/
theorem fcsSizeBytes_empty {buf : Buffer} {hibk ffby allocBytes : Nat} {next : RsxFid}
    (h : HeaderFcs buf hibk 0 ffby) : fcsSizeBytes buf allocBytes next = 0 := by
  have he : getHiword32 buf (hdrOffUfat + fcsOffEfbk) = 0 := h.efbk
  unfold fcsSizeBytes
  rw [he]
  simp

/-- The size of a file comes back where the blocks hold it, or where the header goes on in another. -/
theorem fcsSizeBytes_built {buf : Buffer} {total fileBytes allocBytes : Nat} {next : RsxFid}
    (h : HeaderFcs buf total (endBlock total fileBytes) (lastBytes total fileBytes)) (htotal : total < 4294967296)
    (hsome : total = 0 → fileBytes = 0) (hend : fileBytes ≤ 512 * 4294967295)
    (hfits : fileBytes ≤ allocBytes ∨ next ≠ .null) : fcsSizeBytes buf allocBytes next = fileBytes := by
  by_cases hzero : fileBytes = 0
  · subst hzero
    have hnone : endBlock total 0 = 0 := by
      unfold endBlock
      split_ifs <;> rfl
    rw [hnone] at h
    exact fcsSizeBytes_empty h
  · have hpos : total ≠ 0 := fun htotal => hzero (hsome htotal)
    have hwhole : 512 * (endBlock total fileBytes - 1) + lastBytes total fileBytes = fileBytes := by
      unfold endBlock lastBytes
      rw [if_neg hpos]
      split_ifs <;> omega
    have hlast : 0 < lastBytes total fileBytes ∧ lastBytes total fileBytes ≤ 512 := by
      unfold lastBytes
      split_ifs <;> omega
    have hblock : 0 < endBlock total fileBytes ∧ endBlock total fileBytes < 4294967296 := by
      unfold endBlock
      rw [if_neg hpos]
      omega
    rw [← hwhole] at hfits
    exact (fcsSizeBytes_of h (Nat.pos_of_ne_zero hpos) htotal hblock.1 hblock.2 hlast.1 hlast.2 hfits).trans hwhole

/-- A header built from a name, extents that fit in it and a size that is believed is read as what it was built
    from. -/
theorem header_round_trip {fid next : RsxFid} {segment uic prot version fileBytes : Nat} {name ext : List Char}
    {extents : List RsxExtent} (hnum : fid.num ≠ 0 ∧ fid.num < 65536) (hseq : fid.seq ≠ 0 ∧ fid.seq < 65536)
    (hrvn : fid.rvn = 0) (hsegment : segment < 256)
    (hnext : next.num < 65536 ∧ next.seq < 65536 ∧ next.rvn < 256) (hname : Rad50Name 9 name)
    (hnonempty : name ≠ []) (hext : Rad50Name 3 ext) (hversion : version ≠ 0 ∧ version < 65536)
    (hfit : ExtentsFit extents)
    (hsize : fileBytes ≤ 512 * (extents.map RsxExtent.blocks).sum ∨
      next ≠ .null ∧ extents ≠ [] ∧ fileBytes ≤ 512 * 4294967295) (raw : Nat) :
    ∃ block hdr,
      buildFileHeaderChainSegment fid.num fid.seq uic prot name ext version extents fileBytes segment next =
        .ok block ∧ headerChecksum block = getLe16 block 510 ∧ parseHeaderCandidate block raw = some hdr ∧
      ReadsBack hdr fid segment next name ext version fileBytes extents := by
  have hle := sum_blocks_le extents
  have hcount := hfit.count
  have hsome : (extents.map RsxExtent.blocks).sum = 0 → fileBytes = 0 := by
    intro hzero
    rcases hsize with hsize | ⟨-, hne, -⟩
    · omega
    · cases extents with
      | nil => exact absurd rfl hne
      | cons e rest =>
        have hblocks := hfit.blocks e List.mem_cons_self
        rw [List.map_cons, List.sum_cons] at hzero
        omega
  obtain ⟨base, hbase⟩ := @buildFileHeaderExtents_ok fid.num fid.seq uic prot version fileBytes name ext extents
    hname hext hfit (fun hnil => hsome (by rw [hnil]; rfl))
  have hbuild : ∃ block, buildFileHeaderChainSegment fid.num fid.seq uic prot name ext version extents fileBytes
      segment next = .ok block := by
    unfold buildFileHeaderChainSegment
    rw [hbase]
    exact ⟨_, rfl⟩
  obtain ⟨block, hblock⟩ := hbuild
  have hspec := buildFileHeaderChainSegment_spec hblock hnum.2 hseq.2 hversion.2 hname.no_nul hext.no_nul hext.length
    (mapPieces_fits hfit.lbns) hsegment hnext.1 hnext.2.1 hnext.2.2
  have hfid : (⟨fid.num, fid.seq, 0⟩ : RsxFid) = fid := by rw [← hrvn]
  rw [hfid, trimRight_of_last hname.last, trimRight_of_last hext.last] at hspec
  have hparsed := parseHeaderCandidate_fields hspec.fields hspec.sum hrvn hnum.1 hseq.1 hnonempty hversion.1
    hspec.count raw
  have hbytes : fcsSizeBytes block (512 * ((mapPieces extents).map RsxExtent.blocks).sum) next = fileBytes := by
    rw [mapPieces_blocks]
    exact fcsSizeBytes_built hspec.fcs (by omega) hsome (by omega) (hsize.imp id And.left)
  refine ⟨block, _, hblock, hspec.sum, hparsed, ?_⟩
  exact {
    fid := rfl
    segment := rfl
    next := rfl
    name := rfl
    ext := rfl
    version := rfl
    size := hbytes
    blocks := mapPieces_lbns extents }

/-- A file of two extents, 300 blocks in three pieces, with more to come in another header. -/
theorem header_round_trip_example : ∃ block hdr,
    buildFileHeaderChainSegment 5 1 0o401 0 "A.B".toList "C".toList 7 [⟨100, 299⟩, ⟨70000, 1⟩] 200001 2 ⟨9, 3, 0⟩ =
      .ok block ∧ headerChecksum block = getLe16 block 510 ∧ parseHeaderCandidate block 512 = some hdr ∧
    ReadsBack hdr ⟨5, 1, 0⟩ 2 ⟨9, 3, 0⟩ "A.B".toList "C".toList 7 200001 [⟨100, 299⟩, ⟨70000, 1⟩] :=
  @header_round_trip ⟨5, 1, 0⟩ ⟨9, 3, 0⟩ 2 0o401 0 7 200001 _ _ _ (by decide) (by decide) rfl (by decide)
    (by decide)
    ⟨by decide, by decide, by decide⟩ (by decide) ⟨by decide, by decide, by decide⟩ (by decide)
    ⟨by decide, by decide, by decide⟩ (.inr ⟨by decide, by decide, by decide⟩) 512

/-- A size that the extents do not hold is not believed where no header goes on with the file. -/
theorem header_size_not_believed : ¬ ∀ (fid next : RsxFid) (segment uic prot version fileBytes raw : Nat)
    (name ext : List Char) (extents : List RsxExtent) (block : Buffer) (hdr : RsxHeader),
    fid.num ≠ 0 ∧ fid.num < 65536 → fid.seq ≠ 0 ∧ fid.seq < 65536 → fid.rvn = 0 → segment < 256 →
    next.num < 65536 ∧ next.seq < 65536 ∧ next.rvn < 256 → Rad50Name 9 name → name ≠ [] → Rad50Name 3 ext →
    version ≠ 0 ∧ version < 65536 → ExtentsFit extents →
    buildFileHeaderChainSegment fid.num fid.seq uic prot name ext version extents fileBytes segment next = .ok block →
    parseHeaderCandidate block raw = some hdr →
    ReadsBack hdr fid segment next name ext version fileBytes extents := by
  intro h
  have hread : ((buildFileHeaderChainSegment 5 1 0 0 "A".toList [] 1 [⟨100, 1⟩] 513 0 .null).toOption.bind
      fun block => (parseHeaderCandidate block 0).map RsxHeader.sizeBytes) = some 0 := by decide +kernel
  obtain ⟨block, hblock, hmap⟩ := Option.bind_eq_some_iff.1 hread
  obtain ⟨hdr, hhdr, hzero⟩ := Option.map_eq_some_iff.1 hmap
  have hbuilt : buildFileHeaderChainSegment 5 1 0 0 "A".toList [] 1 [⟨100, 1⟩] 513 0 .null = .ok block :=
    ok_of_toOption hblock
  have hback := h ⟨5, 1, 0⟩ .null 0 0 0 1 513 0 "A".toList [] [⟨100, 1⟩] block hdr (by decide) (by decide)
    rfl (by decide) (by decide) ⟨by decide, by decide, by decide⟩ (by decide) ⟨by decide, by decide, by decide⟩
    (by decide) ⟨by decide, by decide, by decide⟩ hbuilt hhdr
  exact absurd (hzero.symm.trans hback.size) (by decide)

end K1801.Tools.Rsx11
