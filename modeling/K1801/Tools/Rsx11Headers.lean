import Mathlib.Data.List.GetD
import K1801.Tools.Rsx11Update

/-! # The headers and records of an ODS-1 volume

What is built is read back: names through RADIX-50, the map pointers, the size.
-/

namespace K1801.Tools.Rsx11

open Core Library Buffer

/-! ## Names -/

theorem rad50Char_letter : ∀ n < 26, rad50Char (n + 1) = Char.ofNat (65 + n) := by decide

theorem rad50Char_digit : ∀ n < 10, rad50Char (n + 30) = Char.ofNat (48 + n) := by decide

theorem rad50EncodeChar_decode {c : Char} {v : Nat} (h : rad50EncodeChar c = some v) (hc : c ≠ '\x00') :
    v < 40 ∧ rad50Char v = c := by
  unfold rad50EncodeChar at h
  split_ifs at h with hblank hletter hdollar hdot hpercent hdigit
  · cases h
    have heq : c = ' ' := hblank.resolve_right hc
    rw [heq]
    decide
  · cases h
    have hlow : 65 ≤ c.toNat := hletter.1
    have hhigh : c.toNat ≤ 90 := hletter.2
    have hA : 'A'.toNat = 65 := rfl
    have hback : 65 + (c.toNat - 65) = c.toNat := by omega
    rw [hA, rad50Char_letter _ (by omega), hback, Char.ofNat_toNat]
    exact ⟨by omega, rfl⟩
  · cases h
    rw [hdollar]
    decide
  · cases h
    rw [hdot]
    decide
  · cases h
    rw [hpercent]
    decide
  · cases h
    have hlow : 48 ≤ c.toNat := hdigit.1
    have hhigh : c.toNat ≤ 57 := hdigit.2
    have h0 : '0'.toNat = 48 := rfl
    have hback : 48 + (c.toNat - 48) = c.toNat := by omega
    rw [h0, rad50Char_digit _ (by omega), hback, Char.ofNat_toNat]
    exact ⟨by omega, rfl⟩

theorem rad50EncodeWord_decode {c0 c1 c2 : Char} {w : Nat} (h : rad50EncodeWord c0 c1 c2 = .ok w)
    (h0 : c0 ≠ '\x00') (h1 : c1 ≠ '\x00') (h2 : c2 ≠ '\x00') : w < 65536 ∧ rad50DecodeWord w = [c0, c1, c2] := by
  unfold rad50EncodeWord at h
  cases he0 : rad50EncodeChar c0 with
  | none =>
    rw [he0] at h
    cases h
  | some v0 =>
    cases he1 : rad50EncodeChar c1 with
    | none =>
      rw [he0, he1] at h
      cases h
    | some v1 =>
      cases he2 : rad50EncodeChar c2 with
      | none =>
        rw [he0, he1, he2] at h
        cases h
      | some v2 =>
        rw [he0, he1, he2] at h
        cases h
        obtain ⟨hlt0, hd0⟩ := rad50EncodeChar_decode he0 h0
        obtain ⟨hlt1, hd1⟩ := rad50EncodeChar_decode he1 h1
        obtain ⟨hlt2, hd2⟩ := rad50EncodeChar_decode he2 h2
        have hfirst : (v0 * 1600 + v1 * 40 + v2) / 1600 = v0 := by omega
        have hsecond : (v0 * 1600 + v1 * 40 + v2) % 1600 / 40 = v1 := by omega
        have hthird : (v0 * 1600 + v1 * 40 + v2) % 1600 % 40 = v2 := by omega
        unfold rad50DecodeWord
        rw [hfirst, hsecond, hthird, hd0, hd1, hd2]
        exact ⟨by omega, rfl⟩

theorem trimRight_blanks (s : List Char) (n : Nat) : trimRight (s ++ List.replicate n ' ') = trimRight s := by
  induction n with
  | zero => rw [List.replicate_zero, List.append_nil]
  | succ n ih =>
    rw [List.replicate_succ', ← List.append_assoc]
    unfold trimRight
    rw [List.rdropWhile_concat_pos _ _ _ (by decide)]
    exact ih

theorem trimRight_of_last {s : List Char} (h : s.getLast? ≠ some ' ') : trimRight s = s := by
  unfold trimRight
  rcases List.eq_nil_or_concat s with hs | ⟨l, c, hs⟩
  · rw [hs]
    rfl
  · rw [List.concat_eq_append] at hs
    subst hs
    rw [List.getLast?_concat] at h
    exact List.rdropWhile_concat_neg _ _ _ (by simpa using fun hc : c = ' ' => h (by rw [hc]))

/-- The characters of a string in a field of `n`. -/
theorem map_padded {s : List Char} {n : Nat} (h : s.length ≤ n) :
    (List.range n).map (padded s) = s ++ List.replicate (n - s.length) ' ' := by
  apply List.ext_getElem
  · rw [List.length_map, List.length_range, List.length_append, List.length_replicate]
    omega
  · intro i hi hi'
    rw [List.getElem_map, List.getElem_range]
    unfold padded
    by_cases hlt : i < s.length
    · rw [List.getElem_append_left hlt, List.getD_eq_getElem _ _ hlt]
    · rw [List.getElem_append_right (Nat.le_of_not_lt hlt), List.getElem_replicate,
        List.getD_eq_default _ _ (Nat.le_of_not_lt hlt)]

theorem padded_ne {s : List Char} (h : '\x00' ∉ s) (i : Nat) : padded s i ≠ '\x00' := by
  unfold padded
  by_cases hlt : i < s.length
  · rw [List.getD_eq_getElem _ _ hlt]
    intro hc
    exact h (hc ▸ List.getElem_mem hlt)
  · rw [List.getD_eq_default _ _ (Nat.le_of_not_lt hlt)]
    decide

theorem bind_eq_ok {α β : Type} {x : Except RsxErrno α} {f : α → Except RsxErrno β} {b : β}
    (h : x >>= f = .ok b) : ∃ a, x = .ok a ∧ f a = .ok b := by
  cases x with
  | error e => cases h
  | ok a => exact ⟨a, rfl, h⟩

/-- What `rad50_encode_name3` writes: six bytes that decode to the name without its trailing blanks. -/
theorem rad50EncodeName3_spec {src : List Char} {dst buf : Buffer} {off : Nat}
    (h : rad50EncodeName3 src dst off = .ok buf) (hnul : '\x00' ∉ src) :
    (∀ i, i < off ∨ off + 6 ≤ i → buf i = dst i) ∧ rad50DecodeName3 buf off = trimRight src ∧
      (src.length ≤ 3 → rad50DecodeExt buf off = trimRight src) := by
  unfold rad50EncodeName3 at h
  by_cases hlen : 9 < src.length
  · rw [if_pos hlen] at h
    cases h
  rw [if_neg hlen] at h
  obtain ⟨w0, hw0, h⟩ := bind_eq_ok h
  obtain ⟨w1, hw1, h⟩ := bind_eq_ok h
  obtain ⟨w2, hw2, h⟩ := bind_eq_ok h
  cases h
  have hne := padded_ne hnul
  obtain ⟨hlt0, hd0⟩ := rad50EncodeWord_decode hw0 (hne 0) (hne 1) (hne 2)
  obtain ⟨hlt1, hd1⟩ := rad50EncodeWord_decode hw1 (hne 3) (hne 4) (hne 5)
  obtain ⟨hlt2, hd2⟩ := rad50EncodeWord_decode hw2 (hne 6) (hne 7) (hne 8)
  have hfirst : getLe16 (putLe16 (putLe16 (putLe16 dst off w0) (off + 2) w1) (off + 4) w2) off = w0 := by
    rw [getLe16_putLe16_ne _ _ (by omega), getLe16_putLe16_ne _ _ (by omega), getLe16_putLe16,
      Nat.mod_eq_of_lt hlt0]
  refine ⟨?_, ?_, ?_⟩
  · intro i hi
    rw [putLe16_ne _ _ (by omega), putLe16_ne _ _ (by omega), putLe16_ne _ _ (by omega)]
  · unfold rad50DecodeName3
    rw [hfirst, getLe16_putLe16_ne _ _ (by omega), getLe16_putLe16, getLe16_putLe16, Nat.mod_eq_of_lt hlt1,
      Nat.mod_eq_of_lt hlt2, hd0, hd1, hd2, ← trimRight_blanks src (9 - src.length), ← map_padded (by omega)]
    rfl
  · intro hshort
    unfold rad50DecodeExt
    rw [hfirst, hd0, ← trimRight_blanks src (3 - src.length), ← map_padded hshort]
    rfl

/-! ## Map pointers -/

/-- An extent that a map pointer can hold. -/
structure RsxExtent.Fits (e : RsxExtent) : Prop where
  lbn : e.lbn < 16777216
  pos : 0 < e.blocks
  le : e.blocks ≤ 256

theorem splitExtent_small {e : RsxExtent} (h : e.Fits) : splitExtent e = [e] := by
  have hcount : (e.blocks + 255) / 256 = 1 := by
    have hpos := h.pos
    have hle := h.le
    omega
  have hmin : min (e.blocks - 256 * 0) 256 = e.blocks := by
    have hle := h.le
    omega
  unfold splitExtent
  rw [hcount]
  change [RsxExtent.mk (e.lbn + 256 * 0) (min (e.blocks - 256 * 0) 256)] = [e]
  rw [hmin]
  rfl

theorem putPointer_outside (buf : Buffer) {off i : Nat} (e : RsxExtent) (h : i < off ∨ off + 4 ≤ i) :
    putPointer buf off e i = buf i := by
  unfold putPointer
  rw [putLe16_ne _ _ (by omega), put_ne _ _ (by omega), put_ne _ _ (by omega)]

theorem putPointers_outside (es : List RsxExtent) (buf : Buffer) {off i : Nat}
    (h : i < off ∨ off + 4 * es.length ≤ i) : putPointers buf off es i = buf i := by
  induction es generalizing buf off with
  | nil => rfl
  | cons e rest ih =>
    rw [List.length_cons] at h
    exact (ih _ (by omega)).trans (putPointer_outside buf e (by omega))

/-- The pointer at an offset. -/
def pointerAt (buf : Buffer) (off : Nat) : RsxExtent :=
  ⟨(buf off).toNat * 65536 + getLe16 buf (off + 2), (buf (off + 1)).toNat + 1⟩

theorem mapPointer_eq (buf : Buffer) (map i : Nat) : mapPointer buf map i = pointerAt buf (map + 10 + 4 * i) := rfl

theorem pointerAt_congr {buf buf' : Buffer} {off : Nat} (h : ∀ i, off ≤ i → i < off + 4 → buf' i = buf i) :
    pointerAt buf' off = pointerAt buf off := by
  unfold pointerAt getLe16
  rw [h off (by omega) (by omega), h (off + 1) (by omega) (by omega), h (off + 2) (by omega) (by omega),
    h (off + 2 + 1) (by omega) (by omega)]

theorem pointerAt_putPointer (buf : Buffer) (off : Nat) {e : RsxExtent} (h : e.Fits) :
    pointerAt (putPointer buf off e) off = e := by
  have hlbn := h.lbn
  have hpos := h.pos
  have hle := h.le
  unfold pointerAt putPointer
  rw [getLe16_putLe16, putLe16_ne _ _ (by omega), putLe16_ne _ _ (by omega), put_ne _ _ (by omega), put_same, put_same,
    BitVec.toNat_ofNat, BitVec.toNat_ofNat]
  have hl : e.lbn / 65536 % 2 ^ 8 * 65536 + e.lbn % 65536 = e.lbn := by omega
  have hb : (e.blocks - 1) % 2 ^ 8 + 1 = e.blocks := by omega
  rw [hl, hb]

theorem pointerAt_putPointers (es : List RsxExtent) (hes : ∀ e ∈ es, e.Fits) (buf : Buffer) (off : Nat) {i : Nat}
    (hi : i < es.length) : pointerAt (putPointers buf off es) (off + 4 * i) = es[i] := by
  induction es generalizing buf off i with
  | nil => cases hi
  | cons e rest ih =>
    cases i with
    | zero =>
      have hsame : pointerAt (putPointers (putPointer buf off e) (off + 4) rest) off =
          pointerAt (putPointer buf off e) off :=
        pointerAt_congr fun j _ hj => putPointers_outside rest _ (by omega)
      exact hsame.trans (pointerAt_putPointer buf off (hes e List.mem_cons_self))
    | succ i =>
      rw [List.length_cons] at hi
      have hoff : off + 4 * (i + 1) = off + 4 + 4 * i := by omega
      rw [hoff]
      exact ih (fun e' he' => hes e' (List.mem_cons_of_mem e he')) _ _ (Nat.lt_of_succ_lt_succ hi)

/-! ## Headers -/

/-- What a header says, its file attributes and its checksum left aside. -/
structure HeaderFields (buf : Buffer) (fid : RsxFid) (segment : Nat) (next : RsxFid) (name ext : List Char)
    (version : Nat) (extents : List RsxExtent) : Prop where
  idof : (buf 0).toNat = 23
  mpof : (buf 1).toNat = 46
  num : getLe16 buf 2 = fid.num
  seq : getLe16 buf 4 = fid.seq
  level : getLe16 buf 6 = 0o401
  name : rad50DecodeName3 buf 46 = name
  ext : rad50DecodeExt buf 52 = ext
  version : getLe16 buf 54 = version
  segment : (buf 92).toNat = segment
  next : (⟨getLe16 buf 94, getLe16 buf 96, (buf 93).toNat⟩ : RsxFid) = next
  ctsz : (buf 98).toNat = 1
  lbsz : (buf 99).toNat = 3
  used : (buf 100).toNat = 2 * extents.length
  room : (buf 101).toNat = 204
  pointers : (List.range extents.length).map (mapPointer buf 92) = extents

theorem headerChecksum_putChecksum (buf : Buffer) :
    headerChecksum (putChecksum buf) = headerChecksum buf :=
  sum16_congr fun i hi => putLe16_ne buf _ (by omega)

theorem getLe16_putChecksum (buf : Buffer) : getLe16 (putChecksum buf) 510 = headerChecksum (putChecksum buf) := by
  rw [headerChecksum_putChecksum]
  unfold putChecksum
  rw [getLe16_putLe16]
  exact Nat.mod_eq_of_lt (sum16_lt buf 255)

/-- A header is read as what it says. -/
theorem parseHeaderCandidate_fields {buf : Buffer} {fid next : RsxFid} {segment version : Nat} {name ext : List Char}
    {extents : List RsxExtent} (h : HeaderFields buf fid segment next name ext version extents)
    (hsum : headerChecksum buf = getLe16 buf 510) (hrvn : fid.rvn = 0) (hnum : fid.num ≠ 0) (hseq : fid.seq ≠ 0)
    (hname : name ≠ []) (hversion : version ≠ 0) (hlen : extents.length ≤ 102) (raw : Nat) :
    parseHeaderCandidate buf raw = some {
      rawOffset := raw, fid, segmentNumber := segment, nextFid := next, headerFids := [fid], name, ext, version
      sizeBytes := fcsSizeBytes buf (512 * (extents.map RsxExtent.blocks).sum) next, extents } := by
  have hfid : (⟨getLe16 buf 2, getLe16 buf 4, 0⟩ : RsxFid) = fid := by rw [h.num, h.seq, ← hrvn]
  have hcount : 2 * extents.length / 2 = extents.length := by omega
  have heven : 2 * extents.length % 2 = 0 := by omega
  unfold parseHeaderCandidate
  simp only [h.idof, h.mpof, h.used, h.name, h.ext, h.version, h.level, h.ctsz, h.lbsz, h.room, h.segment, h.next,
    h.pointers, hfid, hcount, heven, Nat.reduceMul, Nat.reduceAdd]
  rw [if_neg (not_not_intro hsum), if_neg (by decide), if_neg (by decide), if_neg (by rw [h.num, h.seq]; omega),
    if_neg (by decide), if_neg (by decide), if_neg (by omega), if_neg (by omega),
    if_neg (not_or.mpr ⟨hname, hversion⟩)]

/-- The fields lie outside the file attributes and the checksum. -/
theorem HeaderFields.congr {buf buf' : Buffer} {fid next : RsxFid} {segment version : Nat} {name ext : List Char}
    {extents : List RsxExtent} (h : HeaderFields buf fid segment next name ext version extents)
    (hlen : extents.length ≤ 102) (hlow : ∀ i < 14, buf' i = buf i)
    (hhigh : ∀ i, 28 ≤ i → i < 510 → buf' i = buf i) :
    HeaderFields buf' fid segment next name ext version extents := by
  have hname : rad50DecodeName3 buf' 46 = rad50DecodeName3 buf 46 := by
    unfold rad50DecodeName3 getLe16
    simp only [Nat.reduceAdd, hhigh 46 (by omega) (by omega), hhigh 47 (by omega) (by omega),
      hhigh 48 (by omega) (by omega), hhigh 49 (by omega) (by omega), hhigh 50 (by omega) (by omega),
      hhigh 51 (by omega) (by omega)]
  have hext : rad50DecodeExt buf' 52 = rad50DecodeExt buf 52 := by
    unfold rad50DecodeExt
    rw [getLe16_congr (hhigh 52 (by omega) (by omega)) (hhigh 53 (by omega) (by omega))]
  have hpointers : (List.range extents.length).map (mapPointer buf' 92) =
      (List.range extents.length).map (mapPointer buf 92) := by
    apply List.map_congr_left
    intro i hi
    rw [List.mem_range] at hi
    rw [mapPointer_eq, mapPointer_eq]
    exact pointerAt_congr fun j hj hj' => hhigh j (by omega) (by omega)
  exact {
    idof := (congrArg BitVec.toNat (hlow 0 (by omega))).trans h.idof
    mpof := (congrArg BitVec.toNat (hlow 1 (by omega))).trans h.mpof
    num := (getLe16_congr (hlow 2 (by omega)) (hlow 3 (by omega))).trans h.num
    seq := (getLe16_congr (hlow 4 (by omega)) (hlow 5 (by omega))).trans h.seq
    level := (getLe16_congr (hlow 6 (by omega)) (hlow 7 (by omega))).trans h.level
    name := hname.trans h.name
    ext := hext.trans h.ext
    version := (getLe16_congr (hhigh 54 (by omega) (by omega)) (hhigh 55 (by omega) (by omega))).trans h.version
    segment := (congrArg BitVec.toNat (hhigh 92 (by omega) (by omega))).trans h.segment
    next := by
      rw [getLe16_congr (hhigh 94 (by omega) (by omega)) (hhigh 95 (by omega) (by omega)),
        getLe16_congr (hhigh 96 (by omega) (by omega)) (hhigh 97 (by omega) (by omega)),
        hhigh 93 (by omega) (by omega)]
      exact h.next
    ctsz := (congrArg BitVec.toNat (hhigh 98 (by omega) (by omega))).trans h.ctsz
    lbsz := (congrArg BitVec.toNat (hhigh 99 (by omega) (by omega))).trans h.lbsz
    used := (congrArg BitVec.toNat (hhigh 100 (by omega) (by omega))).trans h.used
    room := (congrArg BitVec.toNat (hhigh 101 (by omega) (by omega))).trans h.room
    pointers := hpointers.trans h.pointers }

/-! ## Building headers -/

theorem headerStart_num (fnum seq uic prot : Nat) : getLe16 (headerStart fnum seq uic prot) 2 = fnum % 65536 := by
  unfold headerStart
  iterate 5 rw [getLe16_putLe16_ne _ _ (by decide)]
  exact getLe16_putLe16 _ _ _

theorem headerStart_seq (fnum seq uic prot : Nat) : getLe16 (headerStart fnum seq uic prot) 4 = seq % 65536 := by
  unfold headerStart
  iterate 4 rw [getLe16_putLe16_ne _ _ (by decide)]
  exact getLe16_putLe16 _ _ _

theorem headerStart_level (fnum seq uic prot : Nat) : getLe16 (headerStart fnum seq uic prot) 6 = 0o401 := by
  unfold headerStart
  iterate 3 rw [getLe16_putLe16_ne _ _ (by decide)]
  exact getLe16_putLe16 _ _ _

theorem headerStart_beyond (fnum seq uic prot : Nat) {i : Nat} (h : 14 ≤ i) :
    headerStart fnum seq uic prot i = 0#8 := by
  unfold headerStart
  iterate 6 rw [putLe16_ne _ _ (by omega)]
  rw [put_ne _ _ (by omega), put_ne _ _ (by omega), zero_apply]

theorem headerStart_low (fnum seq uic prot : Nat) :
    headerStart fnum seq uic prot 0 = 23#8 ∧ headerStart fnum seq uic prot 1 = 46#8 := by
  unfold headerStart
  constructor
  · iterate 6 rw [putLe16_ne _ _ (by decide)]
    rw [put_ne _ _ (by decide), put_same]
  · iterate 6 rw [putLe16_ne _ _ (by decide)]
    rw [put_same]

theorem putFcs_outside (buf : Buffer) (rtyp rsiz hibk efbk ffby : Nat) {i : Nat} (h : i < 15 ∨ 28 ≤ i) :
    putFcs buf rtyp rsiz hibk efbk ffby i = buf i := by
  unfold putFcs putHiword32
  simp only [hdrOffUfat, fcsOffRtyp, fcsOffRsiz, fcsOffHibk, fcsOffEfbk, fcsOffFfby, Nat.reduceAdd]
  iterate 6 rw [putLe16_ne _ _ (by omega)]
  exact put_ne _ _ (by omega)

theorem putFcs_fields (buf : Buffer) (rtyp rsiz hibk efbk ffby : Nat) :
    getHiword32 (putFcs buf rtyp rsiz hibk efbk ffby) 18 = hibk % 4294967296 ∧
    getHiword32 (putFcs buf rtyp rsiz hibk efbk ffby) 22 = efbk % 4294967296 ∧
    getLe16 (putFcs buf rtyp rsiz hibk efbk ffby) 26 = ffby % 65536 := by
  have hkeep : ∀ (buf : Buffer) (off off' v : Nat), off' + 4 ≤ off →
      getHiword32 (putHiword32 buf off v) off' = getHiword32 buf off' := by
    intro buf off off' v h
    unfold getHiword32 putHiword32
    iterate 4 rw [getLe16_putLe16_ne _ _ (by omega)]
  have hlast : ∀ (buf : Buffer) (off off' v : Nat), off' + 4 ≤ off →
      getHiword32 (putLe16 buf off v) off' = getHiword32 buf off' := by
    intro buf off off' v h
    unfold getHiword32
    iterate 2 rw [getLe16_putLe16_ne _ _ (by omega)]
  unfold putFcs
  refine ⟨?_, ?_, getLe16_putLe16 _ _ _⟩
  · rw [hlast _ _ _ _ (by decide), hkeep _ _ _ _ (by decide)]
    exact getHiword32_putHiword32 _ _ _
  · rw [hlast _ _ _ _ (by decide)]
    exact getHiword32_putHiword32 _ _ _

theorem putMapStart_outside (buf : Buffer) (words : Nat) {i : Nat} (h : i < 98 ∨ 102 ≤ i) :
    putMapStart buf 92 words i = buf i := by
  unfold putMapStart
  rw [put_ne _ _ (by omega), put_ne _ _ (by omega), put_ne _ _ (by omega), put_ne _ _ (by omega)]

theorem putMapStart_fields (buf : Buffer) {words : Nat} (h : words < 256) :
    (putMapStart buf 92 words 98).toNat = 1 ∧ (putMapStart buf 92 words 99).toNat = 3 ∧
    (putMapStart buf 92 words 100).toNat = words ∧ (putMapStart buf 92 words 101).toNat = 204 := by
  unfold putMapStart
  refine ⟨?_, ?_, ?_, ?_⟩
  · rw [put_ne _ _ (by decide), put_ne _ _ (by decide), put_ne _ _ (by decide), put_same]
    rfl
  · rw [put_ne _ _ (by decide), put_ne _ _ (by decide), put_same]
    rfl
  · rw [put_ne _ _ (by decide), put_same, BitVec.toNat_ofNat]
    exact Nat.mod_eq_of_lt h
  · rw [put_same]
    rfl

/-- The pieces of the extents. -/
def mapPieces (extents : List RsxExtent) : List RsxExtent := extents.flatMap splitExtent

theorem mapPieces_length (extents : List RsxExtent) :
    (mapPieces extents).length = (extents.map fun e => headerMapPointerCount e.blocks).sum := by
  unfold mapPieces
  rw [List.length_flatMap]
  congr 1
  apply List.map_congr_left
  intro e _
  unfold splitExtent headerMapPointerCount
  rw [List.length_map, List.length_range]

theorem mapPieces_small {extents : List RsxExtent} (h : ∀ e ∈ extents, e.Fits) : mapPieces extents = extents := by
  induction extents with
  | nil => rfl
  | cons e rest ih =>
    unfold mapPieces at ih ⊢
    rw [List.flatMap_cons, splitExtent_small (h e List.mem_cons_self),
      ih fun e' he' => h e' (List.mem_cons_of_mem e he')]
    rfl

/-- The file attributes of a header. -/
structure HeaderFcs (buf : Buffer) (hibk efbk ffby : Nat) : Prop where
  hibk : getHiword32 buf 18 = hibk % 4294967296
  efbk : getHiword32 buf 22 = efbk % 4294967296
  ffby : getLe16 buf 26 = ffby % 65536

theorem HeaderFcs.congr {buf buf' : Buffer} {hibk efbk ffby : Nat} (h : HeaderFcs buf hibk efbk ffby)
    (hsame : ∀ i, 18 ≤ i → i < 28 → buf' i = buf i) : HeaderFcs buf' hibk efbk ffby := by
  have hword : ∀ off, 18 ≤ off → off < 27 → getLe16 buf' off = getLe16 buf off := fun off hlow hhigh =>
    getLe16_congr (hsame off hlow (by omega)) (hsame (off + 1) (by omega) (by omega))
  constructor
  · rw [← h.hibk]
    unfold getHiword32
    rw [hword 18 (by omega) (by omega), hword (18 + 2) (by omega) (by omega)]
  · rw [← h.efbk]
    unfold getHiword32
    rw [hword 22 (by omega) (by omega), hword (22 + 2) (by omega) (by omega)]
  · rw [← h.ffby, hword 26 (by omega) (by omega)]

def lastBytes (totalBlocks fileBytes : Nat) : Nat :=
  if totalBlocks ≠ 0 ∧ fileBytes % 512 = 0 then 512 else fileBytes % 512

def endBlock (totalBlocks fileBytes : Nat) : Nat := if totalBlocks = 0 then 0 else (fileBytes + 512 - 1) / 512

/-- What `build_file_header_extents` builds. -/
structure BuiltHeader (buf : Buffer) (fid : RsxFid) (segment : Nat) (next : RsxFid) (name ext : List Char)
    (version : Nat) (extents : List RsxExtent) (hibk efbk ffby : Nat) : Prop where
  fields : HeaderFields buf fid segment next name ext version extents
  fcs : HeaderFcs buf hibk efbk ffby
  sum : headerChecksum buf = getLe16 buf 510
  count : extents.length ≤ 102

/-- A header is read from a whole block. -/
theorem BuiltHeader.cut {buf : Buffer} {fid next : RsxFid} {segment version hibk efbk ffby : Nat}
    {name ext : List Char} {extents : List RsxExtent}
    (h : BuiltHeader buf fid segment next name ext version extents hibk efbk ffby) :
    BuiltHeader (cut 512 buf) fid segment next name ext version extents hibk efbk ffby where
  fields := h.fields.congr h.count (fun i hi => cut_lt buf (by omega)) fun i _ hi => cut_lt buf (by omega)
  fcs := h.fcs.congr fun i _ hi => cut_lt buf (by omega)
  sum := by
    rw [getLe16_cut buf (by decide), ← h.sum]
    exact sum16_congr fun i hi => cut_lt buf (by omega)
  count := h.count

theorem buildFileHeaderExtents_spec {fnum seq uic prot version fileBytes : Nat} {name ext : List Char}
    {extents : List RsxExtent} {block : Buffer}
    (h : buildFileHeaderExtents fnum seq uic prot name ext version extents fileBytes = .ok block)
    (hfnum : fnum < 65536) (hseq : seq < 65536) (hversion : version < 65536) (hname : '\x00' ∉ name)
    (hext : '\x00' ∉ ext) (hshort : ext.length ≤ 3) (hfits : ∀ e ∈ mapPieces extents, e.Fits) :
    BuiltHeader block ⟨fnum, seq, 0⟩ 0 .null (trimRight name) (trimRight ext) version (mapPieces extents)
      (extents.map RsxExtent.blocks).sum (endBlock (extents.map RsxExtent.blocks).sum fileBytes)
      (lastBytes (extents.map RsxExtent.blocks).sum fileBytes) := by
  unfold buildFileHeaderExtents at h
  obtain ⟨named, hnamed, h⟩ := bind_eq_ok h
  obtain ⟨typed, htyped, h⟩ := bind_eq_ok h
  by_cases hzero : 0 ∈ extents.map RsxExtent.blocks
  · rw [if_pos hzero] at h
    cases h
  rw [if_neg hzero] at h
  by_cases hnone : (extents.map fun e => headerMapPointerCount e.blocks).sum = 0 ∧ (extents ≠ [] ∨ fileBytes ≠ 0)
  · rw [if_pos hnone] at h
    cases h
  rw [if_neg hnone] at h
  by_cases hmany : rsx11MapMaxWords < 2 * (extents.map fun e => headerMapPointerCount e.blocks).sum
  · rw [if_pos hmany] at h
    cases h
  rw [if_neg hmany] at h
  change rad50EncodeName3 name (headerStart fnum seq uic prot) 46 = .ok named at hnamed
  change rad50EncodeName3 ext named 52 = .ok typed at htyped
  obtain ⟨hnameKept, hnameRead, -⟩ := rad50EncodeName3_spec hnamed hname
  obtain ⟨hextKept, -, hextRead⟩ := rad50EncodeName3_spec htyped hext
  rw [← mapPieces_length] at h hmany
  have hcount : (mapPieces extents).length ≤ 102 := by
    have hmax : rsx11MapMaxWords = 204 := rfl
    omega
  have hblock := (Except.ok.inj h).symm
  change block = putChecksum (putPointers (putMapStart (putFcs (putLe16 typed 54 version) 1 512 _ _ _) 92 _) 102
    (mapPieces extents)) at hblock
  -- the layers that lie over the name and over the words before it
  have hunder : ∀ i, i < 15 ∨ 28 ≤ i ∧ i < 98 → block i = putLe16 typed 54 version i := by
    intro i hi
    rw [hblock]
    unfold putChecksum
    rw [putLe16_ne _ _ (by omega), putPointers_outside _ _ (by omega), putMapStart_outside _ _ (by omega),
      putFcs_outside _ _ _ _ _ _ (by omega)]
  have hstart : ∀ i, i < 15 → block i = headerStart fnum seq uic prot i := by
    intro i hi
    rw [hunder i (by omega), putLe16_ne _ _ (by omega), hextKept i (by omega), hnameKept i (by omega)]
  have hwords : ∀ off, off < 14 → getLe16 block off = getLe16 (headerStart fnum seq uic prot) off := fun off hoff =>
    getLe16_congr (hstart off (by omega)) (hstart (off + 1) (by omega))
  have hseg : ∀ i, 92 ≤ i → i < 98 → block i = 0#8 := by
    intro i hlow hhigh
    rw [hunder i (by omega), putLe16_ne _ _ (by omega), hextKept i (by omega), hnameKept i (by omega),
      headerStart_beyond _ _ _ _ (by omega)]
  have hover : ∀ i, 98 ≤ i → i < 102 → block i = putMapStart
      (putFcs (putLe16 typed 54 version) 1 512 (extents.map RsxExtent.blocks).sum
        (endBlock (extents.map RsxExtent.blocks).sum fileBytes)
        (lastBytes (extents.map RsxExtent.blocks).sum fileBytes)) 92 (2 * (mapPieces extents).length) i := by
    intro i hlow hhigh
    rw [hblock]
    unfold putChecksum
    rw [putLe16_ne _ _ (by omega), putPointers_outside _ _ (by omega)]
    rfl
  obtain ⟨h98, h99, h100, h101⟩ := putMapStart_fields
    (putFcs (putLe16 typed 54 version) 1 512 (extents.map RsxExtent.blocks).sum
      (endBlock (extents.map RsxExtent.blocks).sum fileBytes)
      (lastBytes (extents.map RsxExtent.blocks).sum fileBytes))
    (show 2 * (mapPieces extents).length < 256 by omega)
  refine { fields := ?_, fcs := ?_, sum := ?_, count := hcount }
  · exact {
      idof := by rw [hstart 0 (by decide), (headerStart_low _ _ _ _).1]; rfl
      mpof := by rw [hstart 1 (by decide), (headerStart_low _ _ _ _).2]; rfl
      num := by rw [hwords 2 (by decide), headerStart_num, Nat.mod_eq_of_lt hfnum]
      seq := by rw [hwords 4 (by decide), headerStart_seq, Nat.mod_eq_of_lt hseq]
      level := by rw [hwords 6 (by decide), headerStart_level]
      name := by
        have hsame : ∀ i, 46 ≤ i → i < 52 → block i = named i := by
          intro i hlow hhigh
          rw [hunder i (by omega), putLe16_ne _ _ (by omega), hextKept i (by omega)]
        rw [← hnameRead]
        unfold rad50DecodeName3
        rw [getLe16_congr (hsame 46 (by decide) (by decide)) (hsame 47 (by decide) (by decide)),
          getLe16_congr (hsame 48 (by decide) (by decide)) (hsame 49 (by decide) (by decide)),
          getLe16_congr (hsame 50 (by decide) (by decide)) (hsame 51 (by decide) (by decide))]
      ext := by
        rw [← hextRead hshort]
        unfold rad50DecodeExt
        rw [getLe16_congr
          ((hunder 52 (by decide)).trans (putLe16_ne _ _ (by decide)))
          ((hunder 53 (by decide)).trans (putLe16_ne _ _ (by decide)))]
      version := by
        rw [getLe16_congr (hunder 54 (by decide)) (hunder 55 (by decide)), getLe16_putLe16, Nat.mod_eq_of_lt hversion]
      segment := by rw [hseg 92 (by decide) (by decide)]; rfl
      next := by
        unfold getLe16
        rw [hseg 93 (by decide) (by decide), hseg 94 (by decide) (by decide), hseg (94 + 1) (by decide) (by decide),
          hseg 96 (by decide) (by decide), hseg (96 + 1) (by decide) (by decide)]
        rfl
      ctsz := by rw [hover 98 (by decide) (by decide), h98]
      lbsz := by rw [hover 99 (by decide) (by decide), h99]
      used := by rw [hover 100 (by decide) (by decide), h100]
      room := by rw [hover 101 (by decide) (by decide), h101]
      pointers := by
        apply List.ext_getElem
        · rw [List.length_map, List.length_range]
        · intro i hi hi'
          rw [List.getElem_map, List.getElem_range, mapPointer_eq, hblock]
          have hsame : ∀ buf : Buffer, pointerAt (putChecksum buf) (92 + 10 + 4 * i) =
              pointerAt buf (92 + 10 + 4 * i) := fun buf =>
            pointerAt_congr fun j _ hj => putLe16_ne _ _ (by omega)
          rw [hsame]
          exact pointerAt_putPointers (mapPieces extents) hfits _ 102 hi' }
  · obtain ⟨hh, he, hf⟩ := putFcs_fields (putLe16 typed 54 version) 1 512 (extents.map RsxExtent.blocks).sum
      (endBlock (extents.map RsxExtent.blocks).sum fileBytes)
      (lastBytes (extents.map RsxExtent.blocks).sum fileBytes)
    refine HeaderFcs.congr ⟨hh, he, hf⟩ ?_
    intro i hlow hhigh
    rw [hblock]
    unfold putChecksum
    rw [putLe16_ne _ _ (by omega), putPointers_outside _ _ (by omega), putMapStart_outside _ _ (by omega)]
    rfl
  · rw [hblock, getLe16_putChecksum]

/-- A file's first header, or its only one. -/
theorem buildFileHeader_some {fnum seq uic prot version lbn blocks fileBytes : Nat} {name ext : List Char}
    (h : blocks ≠ 0) : buildFileHeader fnum seq uic prot name ext version lbn blocks fileBytes =
      buildFileHeaderExtents fnum seq uic prot name ext version [⟨lbn, blocks⟩] fileBytes :=
  if_neg fun hz => h hz.1

theorem buildFileHeaderChainSegment_spec {fnum seq uic prot version fileBytes segment : Nat} {name ext : List Char}
    {extents : List RsxExtent} {next : RsxFid} {block : Buffer}
    (h : buildFileHeaderChainSegment fnum seq uic prot name ext version extents fileBytes segment next = .ok block)
    (hfnum : fnum < 65536) (hseq : seq < 65536) (hversion : version < 65536) (hname : '\x00' ∉ name)
    (hext : '\x00' ∉ ext) (hshort : ext.length ≤ 3) (hfits : ∀ e ∈ mapPieces extents, e.Fits)
    (hsegment : segment < 256) (hnum : next.num < 65536) (hnseq : next.seq < 65536) (hrvn : next.rvn < 256) :
    BuiltHeader block ⟨fnum, seq, 0⟩ segment next (trimRight name) (trimRight ext) version (mapPieces extents)
      (extents.map RsxExtent.blocks).sum (endBlock (extents.map RsxExtent.blocks).sum fileBytes)
      (lastBytes (extents.map RsxExtent.blocks).sum fileBytes) := by
  unfold buildFileHeaderChainSegment at h
  obtain ⟨base, hbase, h⟩ := bind_eq_ok h
  have hbuilt := buildFileHeaderExtents_spec hbase hfnum hseq hversion hname hext hshort hfits
  have hold := hbuilt.fields
  have hblock := (Except.ok.inj h).symm
  rw [hold.mpof] at hblock
  change block = putChecksum (putLe16 (putLe16 (put (put base 92 _) 93 _) 94 _) 96 _) at hblock
  have hsame : ∀ i, i < 92 ∨ 98 ≤ i ∧ i < 510 → block i = base i := by
    intro i hi
    rw [hblock]
    unfold putChecksum
    rw [putLe16_ne _ _ (by omega), putLe16_ne _ _ (by omega), putLe16_ne _ _ (by omega), put_ne _ _ (by omega),
      put_ne _ _ (by omega)]
  have hword : ∀ off, off < 91 → getLe16 block off = getLe16 base off := fun off hoff =>
    getLe16_congr (hsame off (by omega)) (hsame (off + 1) (by omega))
  have hbyte : ∀ i, i < 92 ∨ 98 ≤ i ∧ i < 510 → (block i).toNat = (base i).toNat := fun i hi => by rw [hsame i hi]
  refine { fields := ?_, fcs := ?_, sum := ?_, count := hbuilt.count }
  · exact {
      idof := (hbyte 0 (by decide)).trans hold.idof
      mpof := (hbyte 1 (by decide)).trans hold.mpof
      num := (hword 2 (by decide)).trans hold.num
      seq := (hword 4 (by decide)).trans hold.seq
      level := (hword 6 (by decide)).trans hold.level
      name := by
        rw [← hold.name]
        unfold rad50DecodeName3
        rw [hword 46 (by decide), hword (46 + 2) (by decide), hword (46 + 4) (by decide)]
      ext := by
        rw [← hold.ext]
        unfold rad50DecodeExt
        rw [hword 52 (by decide)]
      version := (hword 54 (by decide)).trans hold.version
      segment := by
        rw [hblock]
        unfold putChecksum
        rw [putLe16_ne _ _ (by decide), putLe16_ne _ _ (by decide), putLe16_ne _ _ (by decide), put_ne _ _ (by decide),
          put_same, BitVec.toNat_ofNat]
        exact Nat.mod_eq_of_lt hsegment
      next := by
        rw [hblock]
        unfold putChecksum
        rw [getLe16_putLe16_ne _ _ (by decide), getLe16_putLe16_ne _ _ (by decide), getLe16_putLe16,
          getLe16_putLe16_ne _ _ (by decide), getLe16_putLe16, putLe16_ne _ _ (by decide), putLe16_ne _ _ (by decide),
          putLe16_ne _ _ (by decide), put_same, BitVec.toNat_ofNat, Nat.mod_eq_of_lt hnum, Nat.mod_eq_of_lt hnseq,
          Nat.mod_eq_of_lt hrvn]
      ctsz := (hbyte 98 (by decide)).trans hold.ctsz
      lbsz := (hbyte 99 (by decide)).trans hold.lbsz
      used := (hbyte 100 (by decide)).trans hold.used
      room := (hbyte 101 (by decide)).trans hold.room
      pointers := by
        conv => rhs; rw [← hold.pointers]
        apply List.map_congr_left
        intro i hi
        have hcount := hbuilt.count
        rw [List.mem_range] at hi
        rw [mapPointer_eq, mapPointer_eq]
        exact pointerAt_congr fun j hj hj' => hsame j (by omega) }
  · exact hbuilt.fcs.congr fun i _ hi => hsame i (by omega)
  · rw [hblock, getLe16_putChecksum]

theorem buildDirectoryHeader_spec {fnum seq uic lbn : Nat} {dirName : List Char} {block : Buffer}
    (h : buildDirectoryHeader fnum seq uic dirName lbn = .ok block) (hfnum : fnum < 65536) (hseq : seq < 65536)
    (hname : '\x00' ∉ dirName) (hlbn : lbn < 16777216) :
    BuiltHeader block ⟨fnum, seq, 0⟩ 0 .null (trimRight dirName) "DIR".toList 1 [⟨lbn, 1⟩] 1 2 0 := by
  unfold buildDirectoryHeader at h
  obtain ⟨base, hbase, h⟩ := bind_eq_ok h
  rw [buildFileHeader_some (by decide)] at hbase
  have hfits : ∀ e ∈ [RsxExtent.mk lbn 1], e.Fits := by
    intro e he
    rw [List.mem_singleton] at he
    subst he
    exact ⟨hlbn, Nat.one_pos, Nat.le_of_ble_eq_true rfl⟩
  have hpieces := mapPieces_small hfits
  have hbuilt := buildFileHeaderExtents_spec hbase hfnum hseq (by decide) hname (by decide) (by decide)
    (by rw [hpieces]; exact hfits)
  rw [hpieces] at hbuilt
  have hblock := (Except.ok.inj h).symm
  simp only [hdrOffUfat, fcsOffRatt, fcsOffRtyp, fcsOffRsiz, fcsOffEfbk, fcsOffFfby, Nat.reduceAdd] at hblock
  have hsame : ∀ i, i < 14 ∨ 18 ≤ i ∧ i < 22 ∨ 28 ≤ i ∧ i < 510 → block i = base i := by
    intro i hi
    rw [hblock]
    unfold putChecksum putHiword32
    rw [putLe16_ne _ _ (by omega), putLe16_ne _ _ (by omega), putLe16_ne _ _ (by omega), putLe16_ne _ _ (by omega),
      putLe16_ne _ _ (by omega), put_ne _ _ (by omega), put_ne _ _ (by omega)]
  refine { fields := hbuilt.fields.congr hbuilt.count (fun i hi => hsame i (by omega)) fun i hi hi' =>
             hsame i (by omega), fcs := ?_, sum := ?_, count := hbuilt.count }
  · refine ⟨?_, ?_, ?_⟩
    · have hhibk := hbuilt.fcs.hibk
      have hword : ∀ off, 18 ≤ off → off < 21 → getLe16 block off = getLe16 base off := fun off hlow hhigh =>
        getLe16_congr (hsame off (by omega)) (hsame (off + 1) (by omega))
      unfold getHiword32 at hhibk ⊢
      rw [hword 18 (by decide) (by decide), hword (18 + 2) (by decide) (by decide), hhibk]
      rfl
    · have hefbk : ∀ buf : Buffer, getHiword32 (putChecksum (putLe16 (putHiword32 buf 22 2) 26 0)) 22 = 2 := by
        intro buf
        unfold getHiword32 putChecksum putHiword32
        rw [getLe16_putLe16_ne _ _ (by decide), getLe16_putLe16_ne _ _ (by decide), getLe16_putLe16_ne _ _ (by decide),
          getLe16_putLe16, getLe16_putLe16_ne _ _ (by decide), getLe16_putLe16_ne _ _ (by decide), getLe16_putLe16]
      rw [hblock, hefbk]
    · rw [hblock]
      unfold putChecksum
      rw [getLe16_putLe16_ne _ _ (by decide), getLe16_putLe16]
  · rw [hblock, getLe16_putChecksum]

/-! ## Rewriting the size of a directory -/

/-- The header that a block is taken for. -/
def headerOf (buf : Buffer) (raw : Nat) : RsxHeader :=
  let map := 2 * (buf 1).toNat
  let ident := 2 * (buf 0).toNat
  let nextFid : RsxFid := ⟨getLe16 buf (map + 2), getLe16 buf (map + 4), (buf (map + 1)).toNat⟩
  let extents := (List.range ((buf (map + 8)).toNat / 2)).map (mapPointer buf map)
  { rawOffset := raw
    fid := ⟨getLe16 buf 2, getLe16 buf 4, 0⟩
    segmentNumber := (buf map).toNat
    nextFid
    headerFids := [⟨getLe16 buf 2, getLe16 buf 4, 0⟩]
    name := rad50DecodeName3 buf ident
    ext := rad50DecodeExt buf (ident + 6)
    version := getLe16 buf (ident + 8)
    sizeBytes := fcsSizeBytes buf (512 * (extents.map RsxExtent.blocks).sum) nextFid
    extents }

/-- The checks of `parse_header_candidate`. -/
structure HeaderValid (buf : Buffer) : Prop where
  sum : headerChecksum buf = getLe16 buf 510
  identLow : 10 ≤ (buf 0).toNat
  identHigh : (buf 0).toNat ≤ 40
  mapHigh : (buf 1).toNat ≤ 80
  level : getLe16 buf 6 = 0o401
  fid : getLe16 buf 2 ≠ 0 ∧ getLe16 buf 4 ≠ 0
  ident : 2 * (buf 0).toNat + 10 ≤ 2 * (buf 1).toNat
  format : (buf (2 * (buf 1).toNat + 6)).toNat = 1 ∧ (buf (2 * (buf 1).toNat + 7)).toNat = 3
  words : (buf (2 * (buf 1).toNat + 8)).toNat % 2 = 0 ∧
    (buf (2 * (buf 1).toNat + 8)).toNat ≤ (buf (2 * (buf 1).toNat + 9)).toNat
  room : 2 * (buf 1).toNat + 10 + 4 * ((buf (2 * (buf 1).toNat + 8)).toNat / 2) ≤ 512
  name : rad50DecodeName3 buf (2 * (buf 0).toNat) ≠ []
  version : getLe16 buf (2 * (buf 0).toNat + 8) ≠ 0

theorem parseHeaderCandidate_some {buf : Buffer} {raw : Nat} {hdr : RsxHeader}
    (h : parseHeaderCandidate buf raw = some hdr) : HeaderValid buf ∧ hdr = headerOf buf raw := by
  unfold parseHeaderCandidate at h
  dsimp only at h
  split_ifs at h with h1 h2 h3 h4 h5 h6 h7 h8 h9
  obtain ⟨hname, hversion⟩ := not_or.mp h9
  refine ⟨⟨not_not.mp h1, by omega, by omega, by omega, not_not.mp h3, by omega, by omega, by omega, by omega,
    by omega, hname, hversion⟩, (Option.some.inj h).symm⟩

theorem parseHeaderCandidate_valid {buf : Buffer} (h : HeaderValid buf) (raw : Nat) :
    parseHeaderCandidate buf raw = some (headerOf buf raw) := by
  obtain ⟨hsum, hlow, hhigh, hmap, hlevel, hfid, hident, hformat, hwords, hroom, hname, hversion⟩ := h
  unfold parseHeaderCandidate
  dsimp only
  rw [if_neg (not_not_intro hsum), if_neg (by omega), if_neg (not_not_intro hlevel), if_neg (by omega),
    if_neg (by omega), if_neg (by omega), if_neg (by omega), if_neg (by omega),
    if_neg (not_or.mpr ⟨hname, hversion⟩)]
  rfl

/-- A header whose name and map lie apart from the file attributes and the checksum. -/
structure HeaderPlain (buf : Buffer) : Prop where
  ident : 28 ≤ 2 * (buf 0).toNat
  map : 2 * (buf 1).toNat + 10 + 4 * ((buf (2 * (buf 1).toNat + 8)).toNat / 2) ≤ 510

section Resize

variable {buf buf' : Buffer} (hvalid : HeaderValid buf) (hplain : HeaderPlain buf)
  (hsame : ∀ i, i < 18 ∨ 28 ≤ i ∧ i < 510 → buf' i = buf i)
include hvalid hplain hsame

theorem headerOf_resized (raw : Nat) : headerOf buf' raw =
    { headerOf buf raw with sizeBytes := (headerOf buf' raw).sizeBytes } := by
  have hword : ∀ off, off < 17 ∨ 28 ≤ off ∧ off < 509 → getLe16 buf' off = getLe16 buf off := fun off hoff =>
    getLe16_congr (hsame off (by omega)) (hsame (off + 1) (by omega))
  have hhigh := hvalid.identHigh
  have hmap := hvalid.mapHigh
  have hident := hvalid.ident
  have hlow := hplain.ident
  have hroom := hplain.map
  have hname : rad50DecodeName3 buf' (2 * (buf 0).toNat) = rad50DecodeName3 buf (2 * (buf 0).toNat) := by
    unfold rad50DecodeName3
    rw [hword _ (by omega), hword (2 * (buf 0).toNat + 2) (by omega), hword (2 * (buf 0).toNat + 4) (by omega)]
  have hext : rad50DecodeExt buf' (2 * (buf 0).toNat + 6) = rad50DecodeExt buf (2 * (buf 0).toNat + 6) := by
    unfold rad50DecodeExt
    rw [hword _ (by omega)]
  have hpointers : (List.range ((buf (2 * (buf 1).toNat + 8)).toNat / 2)).map (mapPointer buf' (2 * (buf 1).toNat)) =
      (List.range ((buf (2 * (buf 1).toNat + 8)).toNat / 2)).map (mapPointer buf (2 * (buf 1).toNat)) := by
    apply List.map_congr_left
    intro i hi
    rw [List.mem_range] at hi
    rw [mapPointer_eq, mapPointer_eq]
    exact pointerAt_congr fun j hj hj' => hsame j (by omega)
  unfold headerOf
  simp only [hsame 0 (by decide), hsame 1 (by decide), hword 2 (by decide), hword 4 (by decide), hname, hext,
    hsame (2 * (buf 1).toNat + 8) (by omega), hpointers, hword (2 * (buf 0).toNat + 8) (by omega),
    hsame (2 * (buf 1).toNat) (by omega), hsame (2 * (buf 1).toNat + 1) (by omega),
    hword (2 * (buf 1).toNat + 2) (by omega), hword (2 * (buf 1).toNat + 4) (by omega)]

theorem HeaderValid.resized (hsum : headerChecksum buf' = getLe16 buf' 510) : HeaderValid buf' := by
  have hword : ∀ off, off < 17 ∨ 28 ≤ off ∧ off < 509 → getLe16 buf' off = getLe16 buf off := fun off hoff =>
    getLe16_congr (hsame off (by omega)) (hsame (off + 1) (by omega))
  have hhigh := hvalid.identHigh
  have hmap := hvalid.mapHigh
  have hident := hvalid.ident
  have hlow := hplain.ident
  have hname : rad50DecodeName3 buf' (2 * (buf 0).toNat) = rad50DecodeName3 buf (2 * (buf 0).toNat) := by
    unfold rad50DecodeName3
    rw [hword _ (by omega), hword (2 * (buf 0).toNat + 2) (by omega), hword (2 * (buf 0).toNat + 4) (by omega)]
  have h0 := hsame 0 (by decide)
  have h1 := hsame 1 (by decide)
  exact {
    sum := hsum
    identLow := by rw [h0]; exact hvalid.identLow
    identHigh := by rw [h0]; exact hhigh
    mapHigh := by rw [h1]; exact hmap
    level := by rw [hword 6 (by decide)]; exact hvalid.level
    fid := by rw [hword 2 (by decide), hword 4 (by decide)]; exact hvalid.fid
    ident := by rw [h0, h1]; exact hident
    format := by rw [h1, hsame _ (by omega), hsame (2 * (buf 1).toNat + 7) (by omega)]; exact hvalid.format
    words := by rw [h1, hsame _ (by omega), hsame (2 * (buf 1).toNat + 9) (by omega)]; exact hvalid.words
    room := by rw [h1, hsame _ (by omega)]; exact hvalid.room
    name := by rw [h0, hname]; exact hvalid.name
    version := by rw [h0, hword _ (by omega)]; exact hvalid.version }

end Resize

theorem updateHeaderSizeFields_outside (buf : Buffer) (alloc size : Nat) {i : Nat} (h : i < 18 ∨ 28 ≤ i ∧ i < 510) :
    updateHeaderSizeFields buf alloc size i = buf i := by
  unfold updateHeaderSizeFields putChecksum putHiword32
  simp only [hdrOffUfat, fcsOffHibk, fcsOffEfbk, fcsOffFfby, Nat.reduceAdd]
  rw [putLe16_ne _ _ (by omega), putLe16_ne _ _ (by omega), putLe16_ne _ _ (by omega), putLe16_ne _ _ (by omega),
    putLe16_ne _ _ (by omega), putLe16_ne _ _ (by omega)]

theorem updateHeaderSizeFields_fcs (buf : Buffer) (alloc size : Nat) :
    HeaderFcs (updateHeaderSizeFields buf alloc size) alloc ((size + 512 - 1) / 512)
      (if (size + 512 - 1) / 512 ≠ 0 ∧ size % 512 = 0 then 512 else size % 512) := by
  have hfields := putFcs_fields
  have hkeep : ∀ (buf : Buffer) (off off' v : Nat), off' + 4 ≤ off →
      getHiword32 (putHiword32 buf off v) off' = getHiword32 buf off' := by
    intro buf off off' v h
    unfold getHiword32 putHiword32
    iterate 4 rw [getLe16_putLe16_ne _ _ (by omega)]
  have hlast : ∀ (buf : Buffer) (off off' v : Nat), off' + 4 ≤ off →
      getHiword32 (putLe16 buf off v) off' = getHiword32 buf off' := by
    intro buf off off' v h
    unfold getHiword32
    iterate 2 rw [getLe16_putLe16_ne _ _ (by omega)]
  unfold updateHeaderSizeFields putChecksum
  simp only [hdrOffUfat, fcsOffHibk, fcsOffEfbk, fcsOffFfby, Nat.reduceAdd]
  refine ⟨?_, ?_, ?_⟩
  · rw [hlast _ _ _ _ (by decide), hlast _ _ _ _ (by decide), hkeep _ _ _ _ (by decide), getHiword32_putHiword32]
  · rw [hlast _ _ _ _ (by decide), hlast _ _ _ _ (by decide), getHiword32_putHiword32]
  · rw [getLe16_putLe16_ne _ _ (by decide), getLe16_putLe16]

/-- The size that the attributes of a non-empty file give. -/
theorem fcsSizeBytes_of {buf : Buffer} {hibk efbk ffby allocBytes : Nat} {next : RsxFid}
    (h : HeaderFcs buf hibk efbk ffby) (hhibk : 0 < hibk) (hhibk' : hibk < 4294967296) (hefbk : 0 < efbk)
    (hefbk' : efbk < 4294967296) (hffby : 0 < ffby) (hffby' : ffby ≤ 512)
    (hfits : 512 * (efbk - 1) + ffby ≤ allocBytes ∨ next ≠ .null) :
    fcsSizeBytes buf allocBytes next = 512 * (efbk - 1) + ffby := by
  have hh : getHiword32 buf (hdrOffUfat + fcsOffHibk) = hibk := h.hibk.trans (Nat.mod_eq_of_lt hhibk')
  have he : getHiword32 buf (hdrOffUfat + fcsOffEfbk) = efbk := h.efbk.trans (Nat.mod_eq_of_lt hefbk')
  have hf : getLe16 buf (hdrOffUfat + fcsOffFfby) = ffby := h.ffby.trans (Nat.mod_eq_of_lt (by omega))
  unfold fcsSizeBytes
  rw [hh, he, hf]
  simp only [if_pos (And.intro hhibk (And.intro hefbk hffby')), if_pos hfits]
  rw [if_neg (by omega)]

/-- `update_header_size_fields` changes the size of a header and nothing else that is read. -/
theorem parseHeaderCandidate_resized {buf : Buffer} {raw alloc size : Nat} {hdr : RsxHeader}
    (h : parseHeaderCandidate buf raw = some hdr) (hplain : HeaderPlain buf) (halloc : 0 < alloc)
    (halloc' : alloc < 4294967296) (hsize : 0 < size) (hfits : size ≤ 512 * alloc)
    (hown : size ≤ 512 * (hdr.extents.map RsxExtent.blocks).sum ∨ hdr.nextFid ≠ .null) :
    parseHeaderCandidate (updateHeaderSizeFields buf alloc size) raw = some { hdr with sizeBytes := size } := by
  obtain ⟨hvalid, heq⟩ := parseHeaderCandidate_some h
  have hsame : ∀ i, i < 18 ∨ 28 ≤ i ∧ i < 510 → updateHeaderSizeFields buf alloc size i = buf i := fun i hi =>
    updateHeaderSizeFields_outside buf alloc size hi
  have hsum : headerChecksum (updateHeaderSizeFields buf alloc size) =
      getLe16 (updateHeaderSizeFields buf alloc size) 510 := (getLe16_putChecksum _).symm
  have hnew := headerOf_resized hvalid hplain hsame raw
  have hbytes : (headerOf (updateHeaderSizeFields buf alloc size) raw).sizeBytes = size := by
    have hextents := congrArg RsxHeader.extents hnew
    have hnext := congrArg RsxHeader.nextFid hnew
    have hfcs := updateHeaderSizeFields_fcs buf alloc size
    have hown' : 512 * ((size + 512 - 1) / 512 - 1) +
        (if (size + 512 - 1) / 512 ≠ 0 ∧ size % 512 = 0 then 512 else size % 512) = size := by
      split_ifs <;> omega
    have hval := fcsSizeBytes_of hfcs halloc halloc' (by omega) (by omega) (by split_ifs <;> omega)
      (by split_ifs <;> omega) (hown'.symm ▸ hown)
    rw [hown', heq] at hval
    refine Eq.trans ?_ hval
    change fcsSizeBytes _
      (512 * ((headerOf (updateHeaderSizeFields buf alloc size) raw).extents.map RsxExtent.blocks).sum)
      (headerOf (updateHeaderSizeFields buf alloc size) raw).nextFid = _
    rw [hextents, hnext]
  rw [parseHeaderCandidate_valid (hvalid.resized hplain hsame hsum), hnew, hbytes, heq]

/-! ## Directory records -/

/-- A record that was built names the file. -/
theorem buildDirRecord_spec {fid : RsxFid} {name ext : List Char} {version : Nat} {rec_ : Buffer}
    (h : buildDirRecord fid name ext version = .ok rec_) (hnum : fid.num < 65536) (hseq : fid.seq < 65536)
    (hrvn : fid.rvn < 65536) (hversion : version < 65536) (hname : '\x00' ∉ name) (hext : '\x00' ∉ ext) :
    ext.length ≤ 3 ∧ decodeDirRecordLoose rec_ = ⟨fid, trimRight name, trimRight ext, version⟩ ∧
      cut 16 rec_ = rec_ := by
  unfold buildDirRecord at h
  by_cases hlen : 3 < ext.length
  · rw [if_pos hlen] at h
    cases h
  rw [if_neg hlen] at h
  obtain ⟨named, hnamed, h⟩ := bind_eq_ok h
  obtain ⟨extword, hextword, h⟩ := bind_eq_ok h
  have hrec := (Except.ok.inj h).symm
  obtain ⟨hkept, hread, -⟩ := rad50EncodeName3_spec hnamed hname
  have hne := padded_ne hext
  obtain ⟨hlt, hdecoded⟩ := rad50EncodeWord_decode hextword (hne 0) (hne 1) (hne 2)
  have hstart : ∀ i, i < 12 → rec_ i = named i := by
    intro i hi
    rw [hrec, putLe16_ne _ _ (by omega), putLe16_ne _ _ (by omega)]
  have hfid : ∀ off, off < 5 → getLe16 rec_ off =
      getLe16 (putLe16 (putLe16 (putLe16 zero 0 fid.num) 2 fid.seq) 4 fid.rvn) off := by
    intro off hoff
    exact getLe16_congr ((hstart off (by omega)).trans (hkept off (by omega)))
      ((hstart (off + 1) (by omega)).trans (hkept (off + 1) (by omega)))
  have h0 : getLe16 rec_ 0 = fid.num := by
    rw [hfid 0 (by decide), getLe16_putLe16_ne _ _ (by decide), getLe16_putLe16_ne _ _ (by decide), getLe16_putLe16,
      Nat.mod_eq_of_lt hnum]
  have h2 : getLe16 rec_ 2 = fid.seq := by
    rw [hfid 2 (by decide), getLe16_putLe16_ne _ _ (by decide), getLe16_putLe16, Nat.mod_eq_of_lt hseq]
  have h4 : getLe16 rec_ 4 = fid.rvn := by
    rw [hfid 4 (by decide), getLe16_putLe16, Nat.mod_eq_of_lt hrvn]
  have hnameRead : rad50DecodeName3 rec_ 6 = trimRight name := by
    rw [← hread]
    unfold rad50DecodeName3
    rw [getLe16_congr (hstart 6 (by decide)) (hstart 7 (by decide)),
      getLe16_congr (hstart 8 (by decide)) (hstart 9 (by decide)),
      getLe16_congr (hstart 10 (by decide)) (hstart 11 (by decide))]
  have hextRead : rad50DecodeExt rec_ 12 = trimRight ext := by
    unfold rad50DecodeExt
    rw [hrec, getLe16_putLe16_ne _ _ (by decide), getLe16_putLe16, Nat.mod_eq_of_lt hlt, hdecoded,
      ← trimRight_blanks ext (3 - ext.length), ← map_padded (by omega)]
    rfl
  have hversionRead : getLe16 rec_ 14 = version := by
    rw [hrec, getLe16_putLe16, Nat.mod_eq_of_lt hversion]
  refine ⟨by omega, ?_, ?_⟩
  · unfold decodeDirRecordLoose
    rw [h0, h2, h4, hnameRead, hextRead, hversionRead]
  · funext i
    by_cases hi : i < 16
    · exact cut_lt rec_ hi
    · rw [cut_ge rec_ (by omega), hrec, putLe16_ne _ _ (by omega), putLe16_ne _ _ (by omega), hkept i (by omega),
        putLe16_ne _ _ (by omega), putLe16_ne _ _ (by omega), putLe16_ne _ _ (by omega), zero_apply]

/-- A record with a file number is not an empty one. -/
theorem decodeDirRecord_some {rec_ : Buffer} (hnum : getLe16 rec_ 0 ≠ 0) (hname : rad50DecodeName3 rec_ 6 ≠ [])
    (hversion : getLe16 rec_ 14 ≠ 0) : decodeDirRecord rec_ = some (decodeDirRecordLoose rec_) := by
  have hfull : dirRecordIsEmpty rec_ = false := by
    unfold dirRecordIsEmpty
    rw [List.all_eq_false]
    by_contra hall
    apply hnum
    unfold getLe16
    have hzero : ∀ i < 16, rec_ i = 0#8 := by
      intro i hi
      by_contra hne
      exact hall ⟨i, List.mem_range.mpr hi, by simpa using hne⟩
    rw [hzero 0 (by decide), hzero (0 + 1) (by decide)]
    rfl
  unfold decodeDirRecord
  rw [hfull, if_neg Bool.false_ne_true]
  exact if_neg (by rintro (h | h | h); exacts [hnum h, hname h, hversion h])

theorem decodeDirRecord_free {rec_ : Buffer} (hnum : getLe16 rec_ 0 = 0) : decodeDirRecord rec_ = none := by
  unfold decodeDirRecord
  split
  · rfl
  · exact if_pos (Or.inl hnum)

end K1801.Tools.Rsx11
