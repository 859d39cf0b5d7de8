import K1801.Library.Access
import K1801.Library.Checks
import K1801.Tools.Rsx11Directory
import K1801.Tools.Rsx11Mkfs

/-! # Walks over any ODS-1 image

The same calls with a check at every access to a block, a buffer or an array of a header, and with the loop of the
home block on its 32-bit counter.
-/

namespace K1801.Tools.Rsx11

open Core Library Buffer

abbrev RsxChecked (α : Type) : Type := Checked RsxErrno α

def homeBlockLooksValidChecked (img : RsxImage) (block : Buffer) : RsxChecked Bool := do
  let chk1 ← le16At 512 block homeOffChk1
  let sum1 ← sum16At 512 block (homeOffChk1 / 2)
  let chk2 ← le16At 512 block homeOffChk2
  let sum2 ← sum16At 512 block 255
  let ibsz ← le16At 512 block homeOffIbsz
  let iblb ← hiword32At 512 block homeOffIblb
  let vlev ← le16At 512 block homeOffVlev
  let indf ← accessed 512 homeOffIndf 12 ((List.range 12).map fun i => block (homeOffIndf + i))
  return chk1 = sum1 && chk2 = sum2 && ibsz ≠ 0 && iblb ≠ 0 && vlev = 0o401 && indf = files11Id &&
    512 * iblb < img.sizeBytes && 512 * ibsz ≤ img.sizeBytes && 512 * (iblb + ibsz) ≤ img.sizeBytes

/-- One round of the loop over the copies of the home block. -/
def homeRound (img : RsxImage) (lbn : BitVec 32) : RsxChecked (Option Buffer) :=
  if lbn.toNat < img.totalBlocks then do
    let block ← settled (readHomeCandidate img lbn.toNat)
    let valid ← homeBlockLooksValidChecked img block
    return if valid then some block else none
  else settled (.error .einval)

def findHomeCopyChecked (fuel : Nat) (img : RsxImage) : RsxChecked Buffer :=
  rounds (homeRound img) (· + 256#32) fuel 256#32

def findHomeChecked (fuel : Nat) (img : RsxImage) : RsxChecked Buffer :=
  match readHomeCandidate img rsx11HomeBlock with
  | .ok block => do
    let valid ← homeBlockLooksValidChecked img block
    if valid then return block else findHomeCopyChecked fuel img
  | .error _ => findHomeCopyChecked fuel img

def decodeHomeChecked (block : Buffer) : RsxChecked RsxHome := do
  let ibsz ← le16At 512 block homeOffIbsz
  let iblb ← hiword32At 512 block homeOffIblb
  let fmax ← le16At 512 block homeOffFmax
  let vlev ← le16At 512 block homeOffVlev
  let vown ← le16At 512 block homeOffVown
  let dfpr ← le16At 512 block homeOffDfpr
  return { ibsz, iblb, fmax, vlev, vown, dfpr }

def rsx11ReadHomeChecked (fuel : Nat) (img : RsxImage) : RsxChecked RsxHome := do
  let block ← findHomeChecked fuel img
  decodeHomeChecked block

/-! ## Headers -/

def rad50DecodeName3Checked (size : Nat) (buf : Buffer) (off : Nat) : RsxChecked (List Char) := do
  let w0 ← le16At size buf off
  let w1 ← le16At size buf (off + 2)
  let w2 ← le16At size buf (off + 4)
  return trimRight (rad50DecodeWord w0 ++ rad50DecodeWord w1 ++ rad50DecodeWord w2)

/-- With room for three characters the second word is read and left. -/
def rad50DecodeExtChecked (size : Nat) (buf : Buffer) (off : Nat) : RsxChecked (List Char) := do
  let w0 ← le16At size buf off
  let _ ← le16At size buf (off + 2)
  return trimRight (rad50DecodeWord w0)

def mapPointersChecked (buf : Buffer) (map : Nat) : List Nat → RsxChecked (List RsxExtent)
  | [] => return []
  | i :: rest => do
    let high ← byteAt 512 buf (map + 10 + 4 * i)
    let low ← le16At 512 buf (map + 10 + 4 * i + 2)
    let count ← byteAt 512 buf (map + 10 + 4 * i + 1)
    let extents ← mapPointersChecked buf map rest
    return ⟨high.toNat * 65536 + low, count.toNat + 1⟩ :: extents

def fcsSizeBytesChecked (buf : Buffer) (allocBytes : Nat) (nextFid : RsxFid) : RsxChecked Nat := do
  let hibk ← hiword32At 512 buf (hdrOffUfat + fcsOffHibk)
  let efbk ← hiword32At 512 buf (hdrOffUfat + fcsOffEfbk)
  let ffby ← le16At 512 buf (hdrOffUfat + fcsOffFfby)
  let fits (size : Nat) : Nat := if size ≤ allocBytes ∨ nextFid ≠ .null then size else 0
  let size := if 0 < hibk ∧ 0 < efbk ∧ ffby ≤ 512 then fits (512 * (efbk - 1) + ffby) else 0
  return if size = 0 ∧ 0 < allocBytes ∧ ffby = 0 ∧ 0 < efbk then fits (512 * (efbk - 1)) else size

/-- What `parse_header_candidate` reads behind its checks. -/
def parseHeaderFields (buf : Buffer) (rawOff ident map ptrCount : Nat) : RsxChecked (Option RsxHeader) := do
  let num ← le16At 512 buf 2
  let seq ← le16At 512 buf 4
  let segmentNumber ← byteAt 512 buf map
  let nextRvn ← byteAt 512 buf (map + 1)
  let nextNum ← le16At 512 buf (map + 2)
  let nextSeq ← le16At 512 buf (map + 4)
  let nextFid : RsxFid := ⟨nextNum, nextSeq, nextRvn.toNat⟩
  let headerFids ← accessed rsx11MaxHeaderSegments 0 1 [(⟨num, seq, 0⟩ : RsxFid)]
  let name ← rad50DecodeName3Checked 512 buf ident
  let ext ← rad50DecodeExtChecked 512 buf (ident + 6)
  let version ← le16At 512 buf (ident + 8)
  if name = [] ∨ version = 0 then return none
  else do
    let pointers ← mapPointersChecked buf map (List.range ptrCount)
    let extents ← accessed rsx11MaxExtents 0 pointers.length pointers
    let sizeBytes ← fcsSizeBytesChecked buf (512 * (extents.map RsxExtent.blocks).sum) nextFid
    return some { rawOffset := rawOff, fid := ⟨num, seq, 0⟩, segmentNumber := segmentNumber.toNat, nextFid, headerFids,
                  name, ext, version, sizeBytes, extents }

def parseHeaderCandidateChecked (buf : Buffer) (rawOff : Nat) : RsxChecked (Option RsxHeader) := do
  let sum ← sum16At 512 buf 255
  let stored ← le16At 512 buf 510
  if sum ≠ stored then return none
  else do
    let idof ← byteAt 512 buf 0
    let mpof ← byteAt 512 buf 1
    if idof.toNat < 10 ∨ 40 < idof.toNat ∨ mpof.toNat ≤ idof.toNat ∨ 80 < mpof.toNat then return none
    else if 512 < 2 * mpof.toNat + 10 then return none
    else do
      let ident := 2 * idof.toNat
      let map := 2 * mpof.toNat
      let level ← le16At 512 buf 6
      if level ≠ 0o401 then return none
      else do
        let num ← le16At 512 buf 2
        let seq ← le16At 512 buf 4
        if num = 0 ∨ seq = 0 then return none
        else if map < ident + 10 then return none
        else do
          let countSize ← byteAt 512 buf (map + 6)
          let lbnSize ← byteAt 512 buf (map + 7)
          if countSize.toNat ≠ 1 ∨ lbnSize.toNat ≠ 3 then return none
          else do
            let ptrWords ← byteAt 512 buf (map + 8)
            let maxWords ← byteAt 512 buf (map + 9)
            if ptrWords.toNat % 2 ≠ 0 ∨ maxWords.toNat < ptrWords.toNat then return none
            else if rsx11MaxExtents < ptrWords.toNat / 2 then return none
            else if 512 < map + 10 + 4 * (ptrWords.toNat / 2) then return none
            else parseHeaderFields buf rawOff ident map (ptrWords.toNat / 2)

def appendHeaderSegmentChecked (dst seg : RsxHeader) : RsxChecked RsxHeader :=
  if rsx11MaxHeaderSegments ≤ dst.headerFids.length ∨ rsx11MaxExtents < dst.extents.length + seg.extents.length then
    settled (.error .efbig)
  else if seg.fid ∈ dst.headerFids then settled (.error .eloop)
  else if seg.segmentNumber ≠ 0 ∧ 0 < dst.headerFids.length ∧ seg.segmentNumber ≤ dst.segmentNumber then
    settled (.error .einval)
  else do
    let extents ← accessed rsx11MaxExtents dst.extents.length seg.extents.length (dst.extents ++ seg.extents)
    let headerFids ← accessed rsx11MaxHeaderSegments dst.headerFids.length 1 (dst.headerFids ++ [seg.fid])
    return { dst with
      extents
      segmentNumber := seg.segmentNumber
      nextFid := seg.nextFid
      sizeBytes := if dst.sizeBytes = 0 ∧ seg.sizeBytes ≠ 0 then seg.sizeBytes else dst.sizeBytes
      headerFids }

def readHeaderAtLbnChecked (img : RsxImage) (lbn fnum : Nat) : RsxChecked RsxHeader := do
  let block ← settled (readBlock img lbn)
  match ← parseHeaderCandidateChecked block (512 * lbn) with
  | none => settled (.error .enoent)
  | some hdr => if hdr.fid.num ≠ fnum then settled (.error .enoent) else settled (.ok hdr)

def followChainChecked (readSeg : RsxHeader → RsxFid → RsxChecked RsxHeader) :
    Nat → RsxHeader → RsxChecked RsxHeader
  | fuel, hdr =>
    if hdr.nextFid = .null then settled (.ok hdr)
    else match fuel with
      | 0 => settled (.error .eloop)
      | fuel + 1 => do
        let seg ← readSeg hdr hdr.nextFid
        if seg.fid ≠ hdr.nextFid then settled (.error .enoent)
        else do
          let hdr' ← appendHeaderSegmentChecked hdr seg
          followChainChecked readSeg fuel hdr'

def readIndexHeaderChecked (img : RsxImage) (home : RsxHome) : RsxChecked RsxHeader := do
  let block ← settled (readBlock img (directSlotLbn home 1))
  match ← parseHeaderCandidateChecked block (512 * directSlotLbn home 1) with
  | none => settled (.error .einval)
  | some hdr => if hdr.fid.num ≠ 1 ∨ hdr.fid.seq ≠ 1 then settled (.error .einval) else settled (.ok hdr)

def readIndexSegmentChecked (img : RsxImage) (home : RsxHome) (indexHdr : RsxHeader) (next : RsxFid) :
    RsxChecked RsxHeader := do
  let lbn ← settled (mapVbnToLbn indexHdr (slotVbn home next.num))
  readHeaderAtLbnChecked img lbn next.num

def readIndexChainChecked (img : RsxImage) (home : RsxHome) : RsxChecked RsxHeader := do
  let indexHdr ← readIndexHeaderChecked img home
  followChainChecked (readIndexSegmentChecked img home) (rsx11MaxHeaderSegments - 1) indexHdr

def headerSlotLbnChecked (img : RsxImage) (home : RsxHome) (fnum : Nat) : RsxChecked Nat :=
  if fnum = 0 then settled (.error .enoent)
  else if fnum ≤ 16 then settled (.ok (directSlotLbn home fnum))
  else do
    let indexHdr ← readIndexChainChecked img home
    settled (mapVbnToLbn indexHdr (slotVbn home fnum))

def readHeaderSlotChecked (img : RsxImage) (home : RsxHome) (fnum : Nat) : RsxChecked RsxHeader := do
  let lbn ← headerSlotLbnChecked img home fnum
  readHeaderAtLbnChecked img lbn fnum

def readFileChainChecked (img : RsxImage) (home : RsxHome) (fid : RsxFid) : RsxChecked RsxHeader := do
  let hdr ← readHeaderSlotChecked img home fid.num
  if hdr.fid ≠ fid then settled (.error .enoent)
  else do
    let chain ← followChainChecked (fun _ next => readHeaderSlotChecked img home next.num)
      (rsx11MaxHeaderSegments - 1) hdr
    return { chain with nextFid := .null }

def lookupHeaderChecked (fuel : Nat) (img : RsxImage) (fid : RsxFid) : RsxChecked RsxHeader := do
  let home ← rsx11ReadHomeChecked fuel img
  readFileChainChecked img home fid

/-! ## Directories -/

def dirRecordIsEmptyChecked (rec_ : Buffer) : RsxChecked Bool :=
  accessed 16 0 16 (dirRecordIsEmpty rec_)

def decodeDirRecordChecked (rec_ : Buffer) : RsxChecked (Option RsxDirRecord) := do
  let empty ← dirRecordIsEmptyChecked rec_
  if empty then return none
  else do
    let num ← le16At 16 rec_ 0
    let seq ← le16At 16 rec_ 2
    let rvn ← le16At 16 rec_ 4
    let name ← rad50DecodeName3Checked 16 rec_ 6
    let ext ← le16At 16 rec_ 12
    let version ← le16At 16 rec_ 14
    return if num = 0 ∨ name = [] ∨ version = 0 then none
      else some ⟨⟨num, seq, rvn⟩, name, trimRight (rad50DecodeWord ext), version⟩

def walkRecordsChecked (dir : RsxDir) (block : Buffer) (base : Nat) :
    List Nat → List RsxDirent → RsxChecked (List RsxDirent)
  | [], out => return out
  | k :: rest, out => do
    let rec_ ← accessed 512 (16 * k) 16 (cut 16 (drop (16 * k) block))
    match ← decodeDirRecordChecked rec_ with
    | none => walkRecordsChecked dir block base rest out
    | some r => walkRecordsChecked dir block base rest (out ++ [dirRecordEntry dir (base + 16 * k) r])

def walkBlocksChecked (img : RsxImage) (dir : RsxDir) :
    List Nat → Nat → List RsxDirent → RsxChecked (List RsxDirent)
  | [], _, out => return out
  | lbn :: rest, remaining, out =>
    if remaining = 0 then return out
    else do
      let block ← settled (readBlock img lbn)
      let blockBytes := min remaining 512
      let out ← walkRecordsChecked dir block (512 * lbn) (List.range (blockBytes / 16)) out
      walkBlocksChecked img dir rest (remaining - blockBytes) out

def readDirRecordsRawChecked (img : RsxImage) (hdr : RsxHeader) (dir : RsxDir) : RsxChecked (List RsxDirent) :=
  walkBlocksChecked img dir hdr.lbns
    (if hdr.sizeBytes = 0 then 512 * headerTotalBlocks hdr else hdr.sizeBytes) []

section Listing

variable (lookup : RsxFid → RsxChecked RsxHeader)

/-- The loop of `read_dir_file`, which leaves out the records whose file is not there. -/
def presentEntries : List RsxDirent → RsxChecked (List RsxDirent)
  | [] => return []
  | ent :: rest => do
    let found ← attempt (lookup ent.fid)
    let rest ← presentEntries rest
    return if found.toOption.isSome then ent :: rest else rest

def readDirFileChecked (img : RsxImage) (hdr : RsxHeader) (dir : RsxDir) : RsxChecked (List RsxDirent) := do
  let raw ← readDirRecordsRawChecked img hdr dir
  presentEntries lookup raw

def readSubdirectoriesChecked (img : RsxImage) : List RsxDirent → RsxChecked (List RsxDirent)
  | [] => return []
  | ent :: rest =>
    match subdirectory ent with
    | none => readSubdirectoriesChecked img rest
    | some dir => do
      match ← attempt (lookup ent.fid) with
      | .error _ => readSubdirectoriesChecked img rest
      | .ok hdr => do
        let here ← readDirFileChecked lookup img hdr dir
        let there ← readSubdirectoriesChecked img rest
        return here ++ there

def readDirectoryChecked (img : RsxImage) : RsxChecked (List RsxDirent) := do
  let mfdHdr ← lookup mfdFid
  let mfdEntries ← readDirFileChecked lookup img mfdHdr .mfd
  let rest ← readSubdirectoriesChecked lookup img mfdEntries
  return mfdEntries ++ rest

end Listing

def rsx11ReadDirectoryChecked (fuel : Nat) (img : RsxImage) : RsxChecked (List RsxDirent) :=
  readDirectoryChecked (lookupHeaderChecked fuel img) img

/-! ## Bitmaps -/

def loadIndexBitmapChecked (img : RsxImage) (home : RsxHome) : RsxChecked Buffer :=
  let size := 512 * home.ibsz
  if size = 0 then settled (.error .einval)
  else do
    let bitmap ← settled (readAt img (512 * home.iblb) size)
    accessed size 0 size bitmap

/-- The loop of `read_header_data` into a buffer of `size` bytes. -/
def readBlocksChecked (img : RsxImage) (size : Nat) : List Nat → Nat → Nat → Buffer → RsxChecked Buffer
  | [], pos, len, buf => if pos = len then return buf else settled (.error .eio)
  | lbn :: rest, pos, len, buf =>
    if len ≤ pos then if pos = len then return buf else settled (.error .eio)
    else do
      let chunk := min (len - pos) 512
      let block ← settled (readAt img (512 * lbn) chunk)
      let buf ← accessed size pos chunk (paste buf pos chunk block)
      readBlocksChecked img size rest (pos + chunk) len buf

def loadStorageBitmapChecked (fuel : Nat) (img : RsxImage) : RsxChecked (Buffer × Nat × RsxHeader × Nat) := do
  let hdr ← lookupHeaderChecked fuel img ⟨2, 2, 0⟩
  let size := 512 * headerTotalBlocks hdr
  let data ← readBlocksChecked img size hdr.lbns 0 size zero
  let bitmapBlocks ← byteAt size data 3
  let unitOff := 4 + 4 * bitmapBlocks.toNat
  if size < 2 * 512 ∨ 512 < unitOff + 4 then settled (.error .einval)
  else do
    let unitBlocks ← hiword32At size data unitOff
    return (data, size, hdr, unitBlocks)

/-! ## The home block -/

variable {img : RsxImage}

theorem homeBlockLooksValidChecked_eq (img : RsxImage) (block : Buffer) :
    homeBlockLooksValidChecked img block = settled (.ok (homeBlockLooksValid img block)) := by
  unfold homeBlockLooksValidChecked
  rw [le16At_within block (by decide), settled_bind, sum16At_within block (by decide), settled_bind,
    le16At_within block (by decide), settled_bind, sum16At_within block (by decide), settled_bind,
    le16At_within block (by decide), settled_bind, hiword32At_within block (by decide), settled_bind,
    le16At_within block (by decide), settled_bind, accessed_within (by decide), settled_bind]
  rfl

theorem decodeHomeChecked_eq (block : Buffer) : decodeHomeChecked block = settled (.ok (decodeHome block)) := by
  unfold decodeHomeChecked
  rw [le16At_within block (by decide), settled_bind, hiword32At_within block (by decide), settled_bind,
    le16At_within block (by decide), settled_bind, le16At_within block (by decide), settled_bind,
    le16At_within block (by decide), settled_bind, le16At_within block (by decide), settled_bind]
  rfl

/-- What a round says without its checks. -/
def homeRoundResult (img : RsxImage) (lbn : BitVec 32) : Except RsxErrno (Option Buffer) :=
  if lbn.toNat < img.totalBlocks then
    (readHomeCandidate img lbn.toNat).map fun block => if homeBlockLooksValid img block then some block else none
  else .error .einval

theorem homeRound_eq (img : RsxImage) (lbn : BitVec 32) :
    homeRound img lbn = settled (homeRoundResult img lbn) := by
  unfold homeRound homeRoundResult
  by_cases h : lbn.toNat < img.totalBlocks
  · rw [if_pos h, if_pos h]
    cases readHomeCandidate img lbn.toNat with
    | error e => rfl
    | ok block =>
      rw [settled_bind, homeBlockLooksValidChecked_eq, settled_bind]
      rfl
  · rw [if_neg h, if_neg h]

/-- The copies of the home block lie behind one another, and behind the last comes block 0. -/
theorem homeCopy_position (n : Nat) :
    ((fun lbn : BitVec 32 => lbn + 256#32)^[n] 256#32).toNat = 256 * ((n + 1) % 16777216) := by
  induction n with
  | zero => rfl
  | succ n ih =>
    rw [Function.iterate_succ_apply', BitVec.toNat_add, ih]
    change (256 * ((n + 1) % 16777216) + 256) % 4294967296 = 256 * ((n + 1 + 1) % 16777216)
    omega

/-- A block that ends the search: it cannot be read, or it is a home block. -/
def HomeCopyAt (img : RsxImage) (lbn : Nat) : Prop :=
  ∀ block, readHomeCandidate img lbn = .ok block → homeBlockLooksValid img block = true

theorem homeRoundResult_stops (img : RsxImage) (lbn : BitVec 32) :
    homeRoundResult img lbn ≠ .ok none ↔ img.totalBlocks ≤ lbn.toNat ∨ HomeCopyAt img lbn.toNat := by
  unfold homeRoundResult HomeCopyAt
  by_cases h : lbn.toNat < img.totalBlocks
  · have hin : ¬ img.totalBlocks ≤ lbn.toNat := by omega
    rw [if_pos h]
    cases readHomeCandidate img lbn.toNat with
    | error e =>
      constructor
      · rintro -
        right
        rintro _ ⟨⟩
      · rintro - ⟨⟩
    | ok block =>
      cases hvalid : homeBlockLooksValid img block with
      | true =>
        constructor
        · rintro -
          right
          rintro _ ⟨⟩
          exact hvalid
        · rintro -
          simp only [Except.map, hvalid, if_true]
          rintro ⟨⟩
      | false =>
        constructor
        · intro hne
          refine absurd ?_ hne
          simp only [Except.map, hvalid, Bool.false_eq_true, if_false]
        · rintro (hout | hcopy)
          · exact absurd hout hin
          · have htrue := hcopy block rfl
            rw [hvalid] at htrue
            cases htrue
  · rw [if_neg h]
    constructor
    · rintro -
      exact Or.inl (Nat.le_of_not_lt h)
    · rintro - ⟨⟩

/-- The search for the home block ends: the image has no block behind the last place of a copy, or a block that the
search tests ends it. -/
def HomeSearchEnds (img : RsxImage) : Prop :=
  img.totalBlocks ≤ 4294967040 ∨
    (∃ block, readHomeCandidate img rsx11HomeBlock = .ok block ∧ homeBlockLooksValid img block = true) ∨
    ∃ k < 16777216, HomeCopyAt img (256 * k)

theorem findHomeCopyChecked_end (img : RsxImage) :
    (∃ fuel, Answers (findHomeCopyChecked fuel img)) ↔
      img.totalBlocks ≤ 4294967040 ∨ ∃ k < 16777216, HomeCopyAt img (256 * k) := by
  unfold findHomeCopyChecked
  rw [rounds_end (homeRound_eq img)]
  simp only [homeRoundResult_stops, homeCopy_position]
  constructor
  · rintro ⟨n, hlast | hcopy⟩
    · left
      omega
    · exact Or.inr ⟨(n + 1) % 16777216, Nat.mod_lt _ (by decide), hcopy⟩
  · rintro (hsize | ⟨k, hk, hcopy⟩)
    · exact ⟨16777214, Or.inl hsize⟩
    · refine ⟨k + 16777215, Or.inr ?_⟩
      have hmod : (k + 16777215 + 1) % 16777216 = k := by omega
      rw [hmod]
      exact hcopy

theorem findHomeChecked_end (img : RsxImage) :
    (∃ fuel, Answers (findHomeChecked fuel img)) ↔ HomeSearchEnds img := by
  have hcopies := findHomeCopyChecked_end img
  unfold findHomeChecked HomeSearchEnds
  cases hread : readHomeCandidate img rsx11HomeBlock with
  | error e =>
    dsimp only
    rw [hcopies]
    constructor
    · rintro (hsize | hcopy)
      · exact Or.inl hsize
      · exact Or.inr (Or.inr hcopy)
    · rintro (hsize | ⟨_, ⟨⟩, _⟩ | hcopy)
      · exact Or.inl hsize
      · exact Or.inr hcopy
  | ok block =>
    dsimp only
    simp only [homeBlockLooksValidChecked_eq, settled_bind]
    cases hvalid : homeBlockLooksValid img block with
    | true =>
      constructor
      · rintro -
        exact Or.inr (Or.inl ⟨block, rfl, hvalid⟩)
      · rintro -
        exact ⟨0, answers_settled (.ok block)⟩
    | false =>
      simp only [Bool.false_eq_true, if_false]
      rw [hcopies]
      constructor
      · rintro (hsize | hcopy)
        · exact Or.inl hsize
        · exact Or.inr (Or.inr hcopy)
      · rintro (hsize | ⟨_, ⟨⟩, htrue⟩ | hcopy)
        · exact Or.inl hsize
        · rw [hvalid] at htrue
          cases htrue
        · exact Or.inr hcopy

/-! ## Headers are parsed inside their blocks -/

theorem rad50DecodeName3Checked_eq {size off : Nat} (buf : Buffer) (h : off + 6 ≤ size) :
    rad50DecodeName3Checked size buf off = settled (.ok (rad50DecodeName3 buf off)) := by
  unfold rad50DecodeName3Checked
  rw [le16At_within buf (by omega), settled_bind, le16At_within buf (by omega), settled_bind,
    le16At_within buf (by omega), settled_bind]
  rfl

theorem rad50DecodeExtChecked_eq {size off : Nat} (buf : Buffer) (h : off + 4 ≤ size) :
    rad50DecodeExtChecked size buf off = settled (.ok (rad50DecodeExt buf off)) := by
  unfold rad50DecodeExtChecked
  rw [le16At_within buf (by omega), settled_bind, le16At_within buf (by omega), settled_bind]
  rfl

theorem mapPointersChecked_eq (buf : Buffer) {map : Nat} {is : List Nat} (h : ∀ i ∈ is, map + 10 + 4 * i + 4 ≤ 512) :
    mapPointersChecked buf map is = settled (.ok (is.map (mapPointer buf map))) := by
  induction is with
  | nil => rfl
  | cons i is ih =>
    have hi := h i List.mem_cons_self
    rw [mapPointersChecked, byteAt_within buf (by omega), settled_bind, le16At_within buf (by omega), settled_bind,
      byteAt_within buf (by omega), settled_bind, ih fun j hj => h j (List.mem_cons_of_mem i hj)]
    rfl

theorem fcsSizeBytesChecked_eq (buf : Buffer) (allocBytes : Nat) (nextFid : RsxFid) :
    fcsSizeBytesChecked buf allocBytes nextFid = settled (.ok (fcsSizeBytes buf allocBytes nextFid)) := by
  unfold fcsSizeBytesChecked
  rw [hiword32At_within buf (by decide), settled_bind, hiword32At_within buf (by decide), settled_bind,
    le16At_within buf (by decide), settled_bind]
  rfl

/-- The header that the fields give. -/
def headerOfFields (buf : Buffer) (rawOff ident map ptrCount : Nat) : Option RsxHeader :=
  let nextFid : RsxFid := ⟨getLe16 buf (map + 2), getLe16 buf (map + 4), (buf (map + 1)).toNat⟩
  let extents := (List.range ptrCount).map (mapPointer buf map)
  if rad50DecodeName3 buf ident = [] ∨ getLe16 buf (ident + 8) = 0 then none
  else some {
    rawOffset := rawOff
    fid := ⟨getLe16 buf 2, getLe16 buf 4, 0⟩
    segmentNumber := (buf map).toNat
    nextFid
    headerFids := [⟨getLe16 buf 2, getLe16 buf 4, 0⟩]
    name := rad50DecodeName3 buf ident
    ext := rad50DecodeExt buf (ident + 6)
    version := getLe16 buf (ident + 8)
    sizeBytes := fcsSizeBytes buf (512 * (extents.map RsxExtent.blocks).sum) nextFid
    extents }

theorem parseHeaderFields_eq (buf : Buffer) (rawOff : Nat) {ident map ptrCount : Nat} (hident : ident + 10 ≤ map)
    (hmap : map + 10 + 4 * ptrCount ≤ 512) :
    parseHeaderFields buf rawOff ident map ptrCount =
      settled (.ok (headerOfFields buf rawOff ident map ptrCount)) := by
  have hpointers : mapPointersChecked buf map (List.range ptrCount) =
      settled (.ok ((List.range ptrCount).map (mapPointer buf map))) := by
    apply mapPointersChecked_eq
    intro i hi
    rw [List.mem_range] at hi
    omega
  have hlength : 0 + ((List.range ptrCount).map (mapPointer buf map)).length ≤ rsx11MaxExtents := by
    rw [List.length_map, List.length_range]
    unfold rsx11MaxExtents
    omega
  unfold parseHeaderFields headerOfFields
  rw [le16At_within buf (by decide), settled_bind, le16At_within buf (by decide), settled_bind,
    byteAt_within buf (by omega), settled_bind, byteAt_within buf (by omega), settled_bind,
    le16At_within buf (by omega), settled_bind, le16At_within buf (by omega), settled_bind]
  dsimp only
  rw [accessed_within (by decide), settled_bind, rad50DecodeName3Checked_eq buf (by omega), settled_bind,
    rad50DecodeExtChecked_eq buf (by omega), settled_bind, le16At_within buf (by omega), settled_bind]
  by_cases hname : rad50DecodeName3 buf ident = [] ∨ getLe16 buf (ident + 8) = 0
  · rw [if_pos hname, if_pos hname]
    rfl
  · rw [if_neg hname, if_neg hname, hpointers, settled_bind, accessed_within hlength, settled_bind,
      fcsSizeBytesChecked_eq, settled_bind]
    rfl

theorem parseHeaderCandidateChecked_eq (buf : Buffer) (rawOff : Nat) :
    parseHeaderCandidateChecked buf rawOff = settled (.ok (parseHeaderCandidate buf rawOff)) := by
  unfold parseHeaderCandidateChecked parseHeaderCandidate
  rw [sum16At_within buf (by decide), settled_bind, le16At_within buf (by decide), settled_bind]
  dsimp only
  by_cases hsum : headerChecksum buf ≠ getLe16 buf 510
  · rw [if_pos hsum]
    exact if_pos hsum
  refine (if_neg hsum).trans ?_
  rw [if_neg hsum, byteAt_within buf (by decide), settled_bind, byteAt_within buf (by decide), settled_bind]
  by_cases hoffsets : (buf 0).toNat < 10 ∨ 40 < (buf 0).toNat ∨ (buf 1).toNat ≤ (buf 0).toNat ∨ 80 < (buf 1).toNat
  · rw [if_pos hoffsets, if_pos hoffsets]
    rfl
  rw [if_neg hoffsets, if_neg hoffsets, if_neg (by omega), le16At_within buf (by decide), settled_bind]
  by_cases hlevel : getLe16 buf 6 ≠ 0o401
  · rw [if_pos hlevel, if_pos hlevel]
    rfl
  rw [if_neg hlevel, if_neg hlevel, le16At_within buf (by decide), settled_bind, le16At_within buf (by decide),
    settled_bind]
  by_cases hfid : getLe16 buf 2 = 0 ∨ getLe16 buf 4 = 0
  · rw [if_pos hfid, if_pos hfid]
    rfl
  rw [if_neg hfid, if_neg hfid]
  by_cases hident : 2 * (buf 1).toNat < 2 * (buf 0).toNat + 10
  · rw [if_pos hident, if_pos hident]
    rfl
  rw [if_neg hident, if_neg hident, byteAt_within buf (by omega), settled_bind, byteAt_within buf (by omega),
    settled_bind]
  by_cases hsizes : (buf (2 * (buf 1).toNat + 6)).toNat ≠ 1 ∨ (buf (2 * (buf 1).toNat + 7)).toNat ≠ 3
  · rw [if_pos hsizes, if_pos hsizes]
    rfl
  rw [if_neg hsizes, if_neg hsizes, byteAt_within buf (by omega), settled_bind, byteAt_within buf (by omega),
    settled_bind]
  by_cases hwords : (buf (2 * (buf 1).toNat + 8)).toNat % 2 ≠ 0 ∨
      (buf (2 * (buf 1).toNat + 9)).toNat < (buf (2 * (buf 1).toNat + 8)).toNat
  · rw [if_pos hwords, if_pos hwords]
    rfl
  have hbyte := (buf (2 * (buf 1).toNat + 8)).isLt
  have hroom : ¬ rsx11MaxExtents < (buf (2 * (buf 1).toNat + 8)).toNat / 2 := by
    unfold rsx11MaxExtents
    omega
  rw [if_neg hwords, if_neg hwords, if_neg hroom]
  by_cases hend : 512 < 2 * (buf 1).toNat + 10 + 4 * ((buf (2 * (buf 1).toNat + 8)).toNat / 2)
  · rw [if_pos hend, if_pos hend]
    rfl
  rw [if_neg hend, if_neg hend, parseHeaderFields_eq buf rawOff (by omega) (by omega)]
  rfl

/-! ## Chains -/

theorem appendHeaderSegmentChecked_eq (dst seg : RsxHeader) :
    appendHeaderSegmentChecked dst seg = settled (appendHeaderSegment dst seg) := by
  unfold appendHeaderSegmentChecked appendHeaderSegment
  by_cases hroom : rsx11MaxHeaderSegments ≤ dst.headerFids.length ∨
      rsx11MaxExtents < dst.extents.length + seg.extents.length
  · rw [if_pos hroom, if_pos hroom]
  rw [if_neg hroom, if_neg hroom]
  by_cases hloop : seg.fid ∈ dst.headerFids
  · rw [if_pos hloop, if_pos hloop]
  rw [if_neg hloop, if_neg hloop]
  by_cases horder : seg.segmentNumber ≠ 0 ∧ 0 < dst.headerFids.length ∧ seg.segmentNumber ≤ dst.segmentNumber
  · rw [if_pos horder, if_pos horder]
  rw [if_neg horder, if_neg horder, accessed_within (by omega), settled_bind, accessed_within (by omega),
    settled_bind]
  rfl

theorem readHeaderAtLbnChecked_eq (img : RsxImage) (lbn fnum : Nat) :
    readHeaderAtLbnChecked img lbn fnum = settled (readHeaderAtLbn img lbn fnum) := by
  apply settled_bind_settled
  intro block _
  rw [parseHeaderCandidateChecked_eq, settled_bind]
  cases parseHeaderCandidate block (512 * lbn) with
  | none => rfl
  | some hdr =>
    dsimp only
    split <;> rfl

theorem followChainChecked_eq {readSeg : RsxHeader → RsxFid → RsxChecked RsxHeader}
    {plain : RsxHeader → RsxFid → Except RsxErrno RsxHeader} (h : ∀ hdr fid, readSeg hdr fid = settled (plain hdr fid))
    (fuel : Nat) (hdr : RsxHeader) :
    followChainChecked readSeg fuel hdr = settled (followChain plain fuel hdr) := by
  induction fuel generalizing hdr with
  | zero =>
    rw [followChainChecked, followChain]
    split <;> rfl
  | succ fuel ih =>
    rw [followChainChecked, followChain]
    by_cases hnull : hdr.nextFid = .null
    · rw [if_pos hnull, if_pos hnull]
    rw [if_neg hnull, if_neg hnull, h]
    apply settled_bind_settled
    intro seg _
    by_cases hfid : seg.fid ≠ hdr.nextFid
    · rw [if_pos hfid, if_pos hfid]
    rw [if_neg hfid, if_neg hfid, appendHeaderSegmentChecked_eq]
    exact settled_bind_settled fun hdr' _ => ih hdr'

theorem readIndexHeaderChecked_eq (img : RsxImage) (home : RsxHome) :
    readIndexHeaderChecked img home = settled (readIndexHeader img home) := by
  apply settled_bind_settled
  intro block _
  rw [parseHeaderCandidateChecked_eq, settled_bind]
  cases parseHeaderCandidate block (512 * directSlotLbn home 1) with
  | none => rfl
  | some hdr =>
    dsimp only
    split <;> rfl

theorem readIndexSegmentChecked_eq (img : RsxImage) (home : RsxHome) (hdr : RsxHeader) (next : RsxFid) :
    readIndexSegmentChecked img home hdr next = settled (readIndexSegment img home hdr next) :=
  settled_bind_settled fun lbn _ => readHeaderAtLbnChecked_eq img lbn next.num

theorem readIndexChainChecked_eq (img : RsxImage) (home : RsxHome) :
    readIndexChainChecked img home = settled (readIndexChain img home) := by
  unfold readIndexChainChecked
  rw [readIndexHeaderChecked_eq]
  exact settled_bind_settled fun hdr _ => followChainChecked_eq (readIndexSegmentChecked_eq img home) _ hdr

theorem headerSlotLbnChecked_eq (img : RsxImage) (home : RsxHome) (fnum : Nat) :
    headerSlotLbnChecked img home fnum = settled (headerSlotLbn img home fnum) := by
  unfold headerSlotLbnChecked headerSlotLbn
  by_cases hzero : fnum = 0
  · rw [if_pos hzero, if_pos hzero]
  rw [if_neg hzero, if_neg hzero]
  by_cases hdirect : fnum ≤ 16
  · rw [if_pos hdirect, if_pos hdirect]
  rw [if_neg hdirect, if_neg hdirect, readIndexChainChecked_eq]
  exact settled_bind_settled fun hdr _ => rfl

theorem readHeaderSlotChecked_eq (img : RsxImage) (home : RsxHome) (fnum : Nat) :
    readHeaderSlotChecked img home fnum = settled (readHeaderSlot img home fnum) := by
  unfold readHeaderSlotChecked
  rw [headerSlotLbnChecked_eq]
  exact settled_bind_settled fun lbn _ => readHeaderAtLbnChecked_eq img lbn fnum

/-- A chain is followed inside the blocks of its headers and the arrays of the first, and ends. -/
theorem readFileChainChecked_eq (img : RsxImage) (home : RsxHome) (fid : RsxFid) :
    readFileChainChecked img home fid = settled (readFileChain img home fid) := by
  unfold readFileChainChecked
  rw [readHeaderSlotChecked_eq]
  apply settled_bind_settled
  intro hdr _
  by_cases hfid : hdr.fid ≠ fid
  · rw [if_pos hfid, if_pos hfid]
  rw [if_neg hfid, if_neg hfid, followChainChecked_eq fun _ next => readHeaderSlotChecked_eq img home next.num]
  exact settled_bind_settled fun chain _ => rfl

/-! ## Directories are read inside their blocks -/

theorem decodeDirRecordChecked_eq (rec_ : Buffer) :
    decodeDirRecordChecked rec_ = settled (.ok (decodeDirRecord rec_)) := by
  unfold decodeDirRecordChecked dirRecordIsEmptyChecked decodeDirRecord
  rw [accessed_within (by decide), settled_bind]
  by_cases hempty : dirRecordIsEmpty rec_ = true
  · rw [if_pos hempty, if_pos hempty]
    rfl
  rw [if_neg hempty, if_neg hempty, le16At_within rec_ (by decide), settled_bind, le16At_within rec_ (by decide),
    settled_bind, le16At_within rec_ (by decide), settled_bind, rad50DecodeName3Checked_eq rec_ (by decide),
    settled_bind, le16At_within rec_ (by decide), settled_bind, le16At_within rec_ (by decide), settled_bind]
  rfl

theorem walkRecordsChecked_eq (dir : RsxDir) (block : Buffer) (base : Nat) {ks : List Nat}
    (h : ∀ k ∈ ks, 16 * k + 16 ≤ 512) (out : List RsxDirent) :
    walkRecordsChecked dir block base ks out =
      settled (.ok (walkRecords (collectDirRecord dir) block base ks out)) := by
  induction ks generalizing out with
  | nil => rfl
  | cons k ks ih =>
    have hrest := @ih fun j hj => h j (List.mem_cons_of_mem k hj)
    rw [walkRecordsChecked, accessed_within (h k List.mem_cons_self), settled_bind, decodeDirRecordChecked_eq,
      settled_bind, walkRecords, collectDirRecord]
    cases decodeDirRecord (cut 16 (drop (16 * k) block)) with
    | none => exact hrest out
    | some r => exact hrest _

theorem walkBlocksChecked_eq (img : RsxImage) (dir : RsxDir) (lbns : List Nat) (remaining : Nat)
    (out : List RsxDirent) :
    walkBlocksChecked img dir lbns remaining out =
      settled ((walkBlocks (fun _ => img) (collectDirRecord dir) lbns remaining out).1.map fun _ =>
        (walkBlocks (fun _ => img) (collectDirRecord dir) lbns remaining out).2) := by
  induction lbns generalizing remaining out with
  | nil => rfl
  | cons lbn rest ih =>
    rw [walkBlocksChecked, walkBlocks]
    by_cases hdone : remaining = 0
    · rw [if_pos hdone, if_pos hdone]
      rfl
    rw [if_neg hdone, if_neg hdone]
    cases readBlock img lbn with
    | error e => rfl
    | ok block =>
      have hinside : ∀ k ∈ List.range (min remaining 512 / 16), 16 * k + 16 ≤ 512 := by
        intro k hk
        rw [List.mem_range] at hk
        omega
      rw [settled_bind]
      dsimp only
      rw [walkRecordsChecked_eq dir block _ hinside, settled_bind]
      exact ih _ _

theorem readDirRecordsRawChecked_eq (img : RsxImage) (hdr : RsxHeader) (dir : RsxDir) :
    readDirRecordsRawChecked img hdr dir = settled (readDirRecordsRaw img hdr dir) := by
  unfold readDirRecordsRawChecked readDirRecordsRaw walkDirRecords
  rw [walkBlocksChecked_eq]
  rcases walkBlocks (fun _ => img) (collectDirRecord dir) hdr.lbns
    (if hdr.sizeBytes = 0 then 512 * headerTotalBlocks hdr else hdr.sizeBytes) [] with ⟨e | ⟨⟩, out⟩
  · rfl
  · rfl

section Listing

variable {lookup : RsxFid → RsxChecked RsxHeader} (hlookup : ∀ fid, Answers (lookup fid))
include hlookup

theorem presentEntries_answers (raw : List RsxDirent) : Answers (presentEntries lookup raw) := by
  induction raw with
  | nil => exact answers_settled (.ok [])
  | cons ent rest ih =>
    obtain ⟨found, hfound⟩ := hlookup ent.fid
    rw [presentEntries, hfound, attempt_settled, settled_bind]
    exact answers_bind ih fun _ _ => answers_settled (.ok _)

theorem readDirFileChecked_answers (img : RsxImage) (hdr : RsxHeader) (dir : RsxDir) :
    Answers (readDirFileChecked lookup img hdr dir) := by
  unfold readDirFileChecked
  rw [readDirRecordsRawChecked_eq]
  exact answers_bind (answers_settled _) fun raw _ => presentEntries_answers hlookup raw

theorem readSubdirectoriesChecked_answers (img : RsxImage) (entries : List RsxDirent) :
    Answers (readSubdirectoriesChecked lookup img entries) := by
  induction entries with
  | nil => exact answers_settled (.ok [])
  | cons ent rest ih =>
    rw [readSubdirectoriesChecked]
    cases subdirectory ent with
    | none => exact ih
    | some dir =>
      obtain ⟨found, hfound⟩ := hlookup ent.fid
      dsimp only
      rw [hfound, attempt_settled, settled_bind]
      cases found with
      | error e => exact ih
      | ok hdr =>
        apply answers_bind (readDirFileChecked_answers hlookup img hdr dir)
        intro here _
        exact answers_bind ih fun _ _ => answers_settled (.ok _)

theorem readDirectoryChecked_answers (img : RsxImage) : Answers (readDirectoryChecked lookup img) := by
  apply answers_bind (hlookup mfdFid)
  intro mfdHdr _
  apply answers_bind (readDirFileChecked_answers hlookup img mfdHdr .mfd)
  intro mfdEntries _
  exact answers_bind (readSubdirectoriesChecked_answers hlookup img mfdEntries) fun _ _ => answers_settled (.ok _)

end Listing

/-! ## Bitmaps -/

theorem loadIndexBitmapChecked_eq (img : RsxImage) (home : RsxHome) :
    loadIndexBitmapChecked img home = settled (loadIndexBitmap img home) := by
  unfold loadIndexBitmapChecked loadIndexBitmap
  by_cases hzero : home.ibsz = 0
  · rw [if_pos hzero, hzero]
    rfl
  dsimp only
  rw [if_neg hzero, if_neg (by omega)]
  cases readAt img (512 * home.iblb) (512 * home.ibsz) with
  | error e => rfl
  | ok bitmap =>
    rw [settled_bind, accessed_within (by omega)]

theorem readBlocksChecked_eq (img : RsxImage) (lbns : List Nat) {pos len : Nat} (h : pos ≤ len) (buf : Buffer) :
    readBlocksChecked img len lbns pos len buf = settled (readBlocksLoop img lbns pos len buf) := by
  induction lbns generalizing pos buf with
  | nil =>
    rw [readBlocksChecked, readBlocksLoop]
    split <;> rfl
  | cons lbn rest ih =>
    rw [readBlocksChecked, readBlocksLoop]
    by_cases hdone : len ≤ pos
    · rw [if_pos hdone, if_pos hdone]
      split <;> rfl
    rw [if_neg hdone, if_neg hdone]
    dsimp only
    cases readAt img (512 * lbn) (min (len - pos) 512) with
    | error e => rfl
    | ok block =>
      rw [settled_bind, accessed_within (by omega), settled_bind, ih (by omega)]

/-- What `load_storage_bitmap` does behind the lookup. -/
theorem loadStorageBitmapChecked_answers {fuel : Nat} {hdr : RsxHeader}
    (h : lookupHeaderChecked fuel img ⟨2, 2, 0⟩ = settled (.ok hdr)) :
    Answers (loadStorageBitmapChecked fuel img) ↔ hdr.lbns ≠ [] := by
  have hblocks : hdr.lbns ≠ [] ↔ 0 < headerTotalBlocks hdr := by
    rw [← lbns_length, List.length_pos_iff]
  unfold loadStorageBitmapChecked
  rw [h, settled_bind, hblocks]
  dsimp only
  rw [readBlocksChecked_eq img hdr.lbns (Nat.zero_le _)]
  constructor
  · intro hanswers
    by_contra hnone
    have hzero : headerTotalBlocks hdr = 0 := by omega
    have hlbns : hdr.lbns = [] := by
      rw [← List.length_eq_zero_iff, lbns_length, hzero]
    rw [hzero, hlbns] at hanswers
    exact not_answers_none hanswers
  · intro hsome
    apply answers_bind (answers_settled _)
    intro data _
    rw [byteAt_within data (by omega), settled_bind]
    split
    · exact answers_settled _
    · rw [hiword32At_within data (by omega), settled_bind]
      exact answers_settled (.ok _)

/-! ## Every image -/

theorem rsx11ReadHomeChecked_answers {fuel : Nat} (h : Answers (findHomeChecked fuel img)) :
    Answers (rsx11ReadHomeChecked fuel img) := by
  apply answers_bind h
  intro block _
  rw [decodeHomeChecked_eq]
  exact answers_settled _

theorem findHomeChecked_answers {fuel : Nat} (h : Answers (rsx11ReadHomeChecked fuel img)) :
    Answers (findHomeChecked fuel img) := by
  unfold rsx11ReadHomeChecked at h
  generalize findHomeChecked fuel img = x at h ⊢
  cases hx : x.run with
  | none =>
    have hmk : x = ExceptT.mk none := hx
    rw [hmk] at h
    exact absurd h not_answers_none
  | some y => exact ⟨y, hx⟩

theorem lookupHeaderChecked_answers {fuel : Nat} (h : Answers (rsx11ReadHomeChecked fuel img)) (fid : RsxFid) :
    Answers (lookupHeaderChecked fuel img fid) := by
  apply answers_bind h
  intro home _
  rw [readFileChainChecked_eq]
  exact answers_settled _

/-- All the numbers of rounds that suffice find one home block. -/
theorem findHomeChecked_unique {fuel fuel' : Nat} (h : Answers (findHomeChecked fuel img))
    (h' : Answers (findHomeChecked fuel' img)) : findHomeChecked fuel img = findHomeChecked fuel' img := by
  unfold findHomeChecked at *
  cases hread : readHomeCandidate img rsx11HomeBlock with
  | error e =>
    rw [hread] at h h'
    exact rounds_unique (homeRound_eq img) h h'
  | ok block =>
    rw [hread] at h h'
    dsimp only at h h' ⊢
    rw [homeBlockLooksValidChecked_eq, settled_bind] at h h' ⊢
    rw [settled_bind]
    cases hvalid : homeBlockLooksValid img block with
    | true => rfl
    | false =>
      rw [hvalid] at h h'
      exact rounds_unique (homeRound_eq img) h h'

/-- Opening, lookups, the listing and both bitmaps end, and stay inside what they have read. -/
def TraversalsBounded (img : RsxImage) : Prop :=
  ∃ fuel, Answers (rsx11ReadHomeChecked fuel img) ∧ (∀ fid, Answers (lookupHeaderChecked fuel img fid)) ∧
    Answers (rsx11ReadDirectoryChecked fuel img) ∧ (∀ home, Answers (loadIndexBitmapChecked img home)) ∧
    Answers (loadStorageBitmapChecked fuel img)

/-- The home block that the search comes to. -/
def HomeFound (img : RsxImage) (home : RsxHome) : Prop :=
  ∃ fuel, rsx11ReadHomeChecked fuel img = settled (.ok home)

/-- The chain of the storage bitmap, where it can be read, maps a block. -/
def StorageBitmapMapped (img : RsxImage) : Prop :=
  ∀ home hdr, HomeFound img home → readFileChain img home ⟨2, 2, 0⟩ = .ok hdr → hdr.lbns ≠ []

theorem lookupHeaderChecked_found {fuel : Nat} {home : RsxHome}
    (h : rsx11ReadHomeChecked fuel img = settled (.ok home)) (fid : RsxFid) :
    lookupHeaderChecked fuel img fid = settled (readFileChain img home fid) := by
  unfold lookupHeaderChecked
  rw [h, settled_bind, readFileChainChecked_eq]

theorem rsx11ReadHomeChecked_found {fuel : Nat} (h : Answers (rsx11ReadHomeChecked fuel img)) {home : RsxHome}
    (hhome : HomeFound img home) : rsx11ReadHomeChecked fuel img = settled (.ok home) := by
  obtain ⟨fuel', hfuel'⟩ := hhome
  have hsame := findHomeChecked_unique (findHomeChecked_answers h) (findHomeChecked_answers ⟨_, hfuel'⟩)
  unfold rsx11ReadHomeChecked at hfuel' ⊢
  rw [hsame, hfuel']

theorem traversals_bounded_iff (img : RsxImage) :
    TraversalsBounded img ↔ HomeSearchEnds img ∧ StorageBitmapMapped img := by
  constructor
  · rintro ⟨fuel, hhome, -, -, -, hbitmap⟩
    refine ⟨(findHomeChecked_end img).mp ⟨fuel, findHomeChecked_answers hhome⟩, ?_⟩
    intro home hdr hfound hchain
    have hread := rsx11ReadHomeChecked_found hhome hfound
    have hlookup := lookupHeaderChecked_found hread ⟨2, 2, 0⟩
    rw [hchain] at hlookup
    exact (loadStorageBitmapChecked_answers hlookup).mp hbitmap
  · rintro ⟨hsearch, hmapped⟩
    obtain ⟨fuel, hfind⟩ := (findHomeChecked_end img).mpr hsearch
    have hhome := rsx11ReadHomeChecked_answers hfind
    have hlookup := fun fid => lookupHeaderChecked_answers hhome fid
    refine ⟨fuel, hhome, hlookup, readDirectoryChecked_answers hlookup img, ?_, ?_⟩
    · intro home
      rw [loadIndexBitmapChecked_eq]
      exact answers_settled _
    · obtain ⟨found, hfound⟩ := hlookup ⟨2, 2, 0⟩
      cases found with
      | error e =>
        unfold loadStorageBitmapChecked
        rw [hfound]
        exact answers_settled (.error e)
      | ok hdr =>
        apply (loadStorageBitmapChecked_answers hfound).mpr
        obtain ⟨home, hread⟩ := hhome
        cases home with
        | error e =>
          unfold lookupHeaderChecked at hfound
          rw [hread] at hfound
          cases hfound
        | ok home =>
          rw [lookupHeaderChecked_found hread] at hfound
          have hchain : readFileChain img home ⟨2, 2, 0⟩ = .ok hdr := Option.some.inj hfound
          exact hmapped home hdr ⟨fuel, hread⟩ hchain

/-- A home block in its place, and a chain of the storage bitmap without a block. -/
theorem not_bounded_of_unmapped
    (h : (((readHomeCandidate img rsx11HomeBlock).toOption.filter (homeBlockLooksValid img)).bind fun block =>
      (readFileChain img (decodeHome block) ⟨2, 2, 0⟩).toOption.map RsxHeader.lbns) = some []) :
    ¬ TraversalsBounded img := by
  rintro ⟨fuel, -, -, -, -, hbitmap⟩
  obtain ⟨block, hblock, hlbns⟩ := Option.bind_eq_some_iff.mp h
  obtain ⟨hread, hvalid⟩ := Option.filter_eq_some_iff.mp hblock
  obtain ⟨hdr, hchain, hnone⟩ := Option.map_eq_some_iff.mp hlbns
  have hhome : rsx11ReadHomeChecked fuel img = settled (.ok (decodeHome block)) := by
    unfold rsx11ReadHomeChecked findHomeChecked
    rw [ok_of_toOption hread]
    dsimp only
    rw [homeBlockLooksValidChecked_eq, settled_bind, if_pos hvalid]
    exact decodeHomeChecked_eq block
  have hlookup := lookupHeaderChecked_found hhome ⟨2, 2, 0⟩
  rw [ok_of_toOption hchain] at hlookup
  exact (loadStorageBitmapChecked_answers hlookup).mp hbitmap hnone

/-- Five blocks: the home block, and in the slot of the storage bitmap a header without pointers. -/
def unmappedBitmapFile : DiskFile :=
  let home := buildHomeBlock 1 2 16 "EMPTY".toList zero
  let header := (buildFileHeaderExtents 2 2 0o401 0o160000 "BITMAP".toList "SYS".toList 1 [] 0).toOption.getD zero
  ((DiskFile.blank 2560).writeAt 512 512 home).writeAt 2048 512 header

def unmappedBitmapImage : RsxImage := ⟨unmappedBitmapFile, 2560⟩

theorem storage_bitmap_read_outside : ¬ TraversalsBounded unmappedBitmapImage :=
  not_bounded_of_unmapped (by decide +kernel)

end K1801.Tools.Rsx11
