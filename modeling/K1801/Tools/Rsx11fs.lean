import Mathlib.Data.List.DropRight
import K1801.Core.State
import K1801.Library.DiskFile

/-! # ODS-1 volumes

The home block says where the index file lies. The index file holds a bitmap of the file numbers and a header for
each of them; a header names the extents of its file and, where they do not fit, the header that goes on with them.
Directories are files of records of 16 bytes.
-/

namespace K1801.Tools.Rsx11

open Core Library Buffer

/-- What `errno` says after a call that failed. -/
inductive RsxErrno where
  | einval
  | eio
  | enoent
  | efbig
  | eloop
  | enospc
  | eexist
  | eisdir
  | ebusy
  | enotempty
  | eoverflow
  | enametoolong
  deriving Repr, DecidableEq

abbrev rsx11HomeBlock : Nat := 1
abbrev rsx11MaxExtents : Nat := 1024
abbrev rsx11MaxHeaderSegments : Nat := 64
abbrev rsx11MapMaxWords : Nat := 0xcc

/-- `rsx11_image_t`: the size is the one at opening. -/
structure RsxImage where
  file : DiskFile
  sizeBytes : Nat

def RsxImage.totalBlocks (img : RsxImage) : Nat := img.sizeBytes / 512 % 4294967296

def readAt (img : RsxImage) (off len : Nat) : Except RsxErrno Buffer :=
  match img.file.readAt off len with
  | some buf => .ok buf
  | none => .error .eio

def writeAt (img : RsxImage) (off len : Nat) (buf : Buffer) : RsxImage :=
  { img with file := img.file.writeAt off len buf }

/-- `rsx11_fid_t` -/
structure RsxFid where
  num : Nat
  seq : Nat
  rvn : Nat
  deriving Repr, DecidableEq

/-- `fid_is_null` is equality with it. -/
abbrev RsxFid.null : RsxFid := ⟨0, 0, 0⟩

/-- `rsx11_extent_t` -/
structure RsxExtent where
  lbn : Nat
  blocks : Nat
  deriving Repr, DecidableEq

def RsxExtent.lbns (e : RsxExtent) : List Nat := List.range' e.lbn e.blocks

/-- `rsx11_file_header_t` -/
structure RsxHeader where
  rawOffset : Nat
  fid : RsxFid
  segmentNumber : Nat
  nextFid : RsxFid
  headerFids : List RsxFid
  name : List Char
  ext : List Char
  version : Nat
  sizeBytes : Nat
  extents : List RsxExtent
  deriving Repr, DecidableEq

/-- The blocks of the file, in the order of its bytes. -/
def RsxHeader.lbns (hdr : RsxHeader) : List Nat := hdr.extents.flatMap RsxExtent.lbns

/-- `rsx11_home_t`, less the fields that only the listing of a volume shows. -/
structure RsxHome where
  ibsz : Nat
  iblb : Nat
  fmax : Nat
  vlev : Nat
  vown : Nat
  dfpr : Nat
  deriving Repr, DecidableEq

/-! ## RADIX-50 -/

def rad50Table : List Char := " ABCDEFGHIJKLMNOPQRSTUVWXYZ$.%0123456789".toList

def rad50Char (c : Nat) : Char := rad50Table.getD (if c < 40 then c else 0) ' '

def rad50DecodeWord (word : Nat) : List Char :=
  [rad50Char (word / 1600), rad50Char (word % 1600 / 40), rad50Char (word % 1600 % 40)]

def trimRight (s : List Char) : List Char := s.rdropWhile (· = ' ')

/-- `rad50_decode_name3` with room for nine characters. -/
def rad50DecodeName3 (buf : Buffer) (off : Nat) : List Char :=
  trimRight (rad50DecodeWord (getLe16 buf off) ++ rad50DecodeWord (getLe16 buf (off + 2)) ++
    rad50DecodeWord (getLe16 buf (off + 4)))

/-- The type of a file, one word. -/
def rad50DecodeExt (buf : Buffer) (off : Nat) : List Char := trimRight (rad50DecodeWord (getLe16 buf off))

def rad50EncodeChar (c : Char) : Option Nat :=
  if c = ' ' ∨ c = '\x00' then some 0
  else if 'A' ≤ c ∧ c ≤ 'Z' then some (c.toNat - 'A'.toNat + 1)
  else if c = '$' then some 27
  else if c = '.' then some 28
  else if c = '%' then some 29
  else if '0' ≤ c ∧ c ≤ '9' then some (c.toNat - '0'.toNat + 30)
  else none

def rad50EncodeWord (c0 c1 c2 : Char) : Except RsxErrno Nat :=
  match rad50EncodeChar c0, rad50EncodeChar c1, rad50EncodeChar c2 with
  | some v0, some v1, some v2 => .ok (v0 * 1600 + v1 * 40 + v2)
  | _, _, _ => .error .einval

/-- Character `i` of a string that is filled with blanks. -/
def padded (src : List Char) (i : Nat) : Char := src.getD i ' '

def rad50EncodeName3 (src : List Char) (dst : Buffer) (off : Nat) : Except RsxErrno Buffer :=
  if 9 < src.length then .error .enametoolong
  else do
    let w0 ← rad50EncodeWord (padded src 0) (padded src 1) (padded src 2)
    let w1 ← rad50EncodeWord (padded src 3) (padded src 4) (padded src 5)
    let w2 ← rad50EncodeWord (padded src 6) (padded src 7) (padded src 8)
    return putLe16 (putLe16 (putLe16 dst off w0) (off + 2) w1) (off + 4) w2

/-! ## The home block -/

def headerChecksum (buf : Buffer) : Nat := sum16 buf 255

def checksumWords (buf : Buffer) (count : Nat) : Nat := sum16 buf count

abbrev homeOffIbsz : Nat := 0
abbrev homeOffIblb : Nat := 2
abbrev homeOffFmax : Nat := 6
abbrev homeOffSbcl : Nat := 8
abbrev homeOffDvty : Nat := 10
abbrev homeOffVlev : Nat := 12
abbrev homeOffVnam : Nat := 14
abbrev homeOffVown : Nat := 30
abbrev homeOffVpro : Nat := 32
abbrev homeOffVcha : Nat := 34
abbrev homeOffDfpr : Nat := 36
abbrev homeOffWisz : Nat := 44
abbrev homeOffFiex : Nat := 45
abbrev homeOffLruc : Nat := 46
abbrev homeOffChk1 : Nat := 58
abbrev homeOffVdat : Nat := 60
abbrev homeOffIndn : Nat := 472
abbrev homeOffIndo : Nat := 484
abbrev homeOffIndf : Nat := 496
abbrev homeOffChk2 : Nat := 510

def asciiBytes (s : List Char) : List Byte := s.map fun c => BitVec.ofNat 8 c.toNat

def files11Id : List Byte := asciiBytes "DECFILE11A  ".toList

def homeBlockLooksValid (img : RsxImage) (block : Buffer) : Bool :=
  let ibsz := getLe16 block homeOffIbsz
  let iblb := getHiword32 block homeOffIblb
  getLe16 block homeOffChk1 = checksumWords block (homeOffChk1 / 2) &&
  getLe16 block homeOffChk2 = headerChecksum block &&
  ibsz ≠ 0 && iblb ≠ 0 && getLe16 block homeOffVlev = 0o401 &&
  (List.range 12).map (fun i => block (homeOffIndf + i)) = files11Id &&
  512 * iblb < img.sizeBytes &&
  512 * ibsz ≤ img.sizeBytes &&
  512 * (iblb + ibsz) ≤ img.sizeBytes

/-- A block that lies inside the image. -/
def readBlock (img : RsxImage) (lbn : Nat) : Except RsxErrno Buffer :=
  if img.sizeBytes < 512 * (lbn + 1) then .error .eio
  else readAt img (512 * lbn) 512

def readHomeCandidate (img : RsxImage) (lbn : Nat) : Except RsxErrno Buffer := readBlock img lbn

/-- The blocks where a copy of the home block may lie. -/
def homeCopies (img : RsxImage) : List Nat := (List.range' 1 ((img.totalBlocks - 1) / 256)).map (256 * ·)

def findHomeCopy (img : RsxImage) : List Nat → Except RsxErrno Buffer
  | [] => .error .einval
  | lbn :: rest => do
    let block ← readHomeCandidate img lbn
    if homeBlockLooksValid img block then return block else findHomeCopy img rest

def findHome (img : RsxImage) : Except RsxErrno Buffer :=
  match readHomeCandidate img rsx11HomeBlock with
  | .ok block => if homeBlockLooksValid img block then .ok block else findHomeCopy img (homeCopies img)
  | .error _ => findHomeCopy img (homeCopies img)

def decodeHome (block : Buffer) : RsxHome where
  ibsz := getLe16 block homeOffIbsz
  iblb := getHiword32 block homeOffIblb
  fmax := getLe16 block homeOffFmax
  vlev := getLe16 block homeOffVlev
  vown := getLe16 block homeOffVown
  dfpr := getLe16 block homeOffDfpr

def rsx11ReadHome (img : RsxImage) : Except RsxErrno RsxHome := do
  let block ← findHome img
  return decodeHome block

/-! ## File headers -/

abbrev hdrOffUfat : Nat := 14
abbrev fcsOffRatt : Nat := 0
abbrev fcsOffRtyp : Nat := 1
abbrev fcsOffRsiz : Nat := 2
abbrev fcsOffHibk : Nat := 4
abbrev fcsOffEfbk : Nat := 8
abbrev fcsOffFfby : Nat := 12

/-- Pointer `i` of the map at `map`. -/
def mapPointer (buf : Buffer) (map i : Nat) : RsxExtent where
  lbn := (buf (map + 10 + 4 * i)).toNat * 65536 + getLe16 buf (map + 10 + 4 * i + 2)
  blocks := (buf (map + 10 + 4 * i + 1)).toNat + 1

/-- The size that the file attributes give, 0 where they are not to be believed. -/
def fcsSizeBytes (buf : Buffer) (allocBytes : Nat) (nextFid : RsxFid) : Nat :=
  let hibk := getHiword32 buf (hdrOffUfat + fcsOffHibk)
  let efbk := getHiword32 buf (hdrOffUfat + fcsOffEfbk)
  let ffby := getLe16 buf (hdrOffUfat + fcsOffFfby)
  let fits (size : Nat) : Nat := if size ≤ allocBytes ∨ nextFid ≠ .null then size else 0
  let size := if 0 < hibk ∧ 0 < efbk ∧ ffby ≤ 512 then fits (512 * (efbk - 1) + ffby) else 0
  if size = 0 ∧ 0 < allocBytes ∧ ffby = 0 ∧ 0 < efbk then fits (512 * (efbk - 1)) else size

/-- `parse_header_candidate` on a whole block. -/
def parseHeaderCandidate (buf : Buffer) (rawOff : Nat) : Option RsxHeader :=
  let idof := (buf 0).toNat
  let mpof := (buf 1).toNat
  let ident := 2 * idof
  let map := 2 * mpof
  let ptrWords := (buf (map + 8)).toNat
  let ptrCount := ptrWords / 2
  let nextFid : RsxFid := ⟨getLe16 buf (map + 2), getLe16 buf (map + 4), (buf (map + 1)).toNat⟩
  let extents := (List.range ptrCount).map (mapPointer buf map)
  let name := rad50DecodeName3 buf ident
  let version := getLe16 buf (ident + 8)
  if headerChecksum buf ≠ getLe16 buf 510 then none
  else if idof < 10 ∨ 40 < idof ∨ mpof ≤ idof ∨ 80 < mpof then none
  else if getLe16 buf 6 ≠ 0o401 then none
  else if getLe16 buf 2 = 0 ∨ getLe16 buf 4 = 0 then none
  else if map < ident + 10 then none
  else if (buf (map + 6)).toNat ≠ 1 ∨ (buf (map + 7)).toNat ≠ 3 then none
  else if ptrWords % 2 ≠ 0 ∨ (buf (map + 9)).toNat < ptrWords then none
  else if 512 < map + 10 + 4 * ptrCount then none
  else if name = [] ∨ version = 0 then none
  else some {
    rawOffset := rawOff
    fid := ⟨getLe16 buf 2, getLe16 buf 4, 0⟩
    segmentNumber := (buf map).toNat
    nextFid
    headerFids := [⟨getLe16 buf 2, getLe16 buf 4, 0⟩]
    name
    ext := rad50DecodeExt buf (ident + 6)
    version
    sizeBytes := fcsSizeBytes buf (512 * (extents.map RsxExtent.blocks).sum) nextFid
    extents }

def headerTotalBlocks (hdr : RsxHeader) : Nat := (hdr.extents.map RsxExtent.blocks).sum

def appendHeaderSegment (dst seg : RsxHeader) : Except RsxErrno RsxHeader :=
  if rsx11MaxHeaderSegments ≤ dst.headerFids.length ∨ rsx11MaxExtents < dst.extents.length + seg.extents.length then
    .error .efbig
  else if seg.fid ∈ dst.headerFids then .error .eloop
  else if seg.segmentNumber ≠ 0 ∧ 0 < dst.headerFids.length ∧ seg.segmentNumber ≤ dst.segmentNumber then
    .error .einval
  else .ok { dst with
    extents := dst.extents ++ seg.extents
    segmentNumber := seg.segmentNumber
    nextFid := seg.nextFid
    sizeBytes := if dst.sizeBytes = 0 ∧ seg.sizeBytes ≠ 0 then seg.sizeBytes else dst.sizeBytes
    headerFids := dst.headerFids ++ [seg.fid] }

def mapVbnLoop : List RsxExtent → Nat → Nat → Except RsxErrno Nat
  | [], _, _ => .error .enoent
  | e :: rest, vbn, curVbn =>
    if curVbn ≤ vbn ∧ vbn < curVbn + e.blocks then .ok (e.lbn + (vbn - curVbn))
    else mapVbnLoop rest vbn (curVbn + e.blocks)

def mapVbnToLbn (hdr : RsxHeader) (vbn : Nat) : Except RsxErrno Nat :=
  if vbn = 0 then .error .einval else mapVbnLoop hdr.extents vbn 1

def readHeaderAtLbn (img : RsxImage) (lbn fnum : Nat) : Except RsxErrno RsxHeader := do
  let block ← readBlock img lbn
  match parseHeaderCandidate block (512 * lbn) with
  | none => .error .enoent
  | some hdr => if hdr.fid.num ≠ fnum then .error .enoent else .ok hdr

/-- The loop over the headers that go on with `hdr`; at most `fuel` of them. -/
def followChain (readSeg : RsxHeader → RsxFid → Except RsxErrno RsxHeader) :
    Nat → RsxHeader → Except RsxErrno RsxHeader
  | fuel, hdr =>
    if hdr.nextFid = .null then .ok hdr
    else match fuel with
      | 0 => .error .eloop
      | fuel + 1 => do
        let seg ← readSeg hdr hdr.nextFid
        if seg.fid ≠ hdr.nextFid then .error .enoent
        else
          let hdr' ← appendHeaderSegment hdr seg
          followChain readSeg fuel hdr'

/-- Where the first sixteen headers lie. -/
def directSlotLbn (home : RsxHome) (fnum : Nat) : Nat := (home.iblb + home.ibsz + fnum - 1) % 4294967296

def slotVbn (home : RsxHome) (fnum : Nat) : Nat := 2 + home.ibsz + fnum

/-- The header of the index file, from slot 1. -/
def readIndexHeader (img : RsxImage) (home : RsxHome) : Except RsxErrno RsxHeader := do
  let block ← readBlock img (directSlotLbn home 1)
  match parseHeaderCandidate block (512 * directSlotLbn home 1) with
  | none => .error .einval
  | some hdr => if hdr.fid.num ≠ 1 ∨ hdr.fid.seq ≠ 1 then .error .einval else .ok hdr

/-- A segment of the index file, which the part read so far maps. -/
def readIndexSegment (img : RsxImage) (home : RsxHome) (indexHdr : RsxHeader) (next : RsxFid) :
    Except RsxErrno RsxHeader := do
  let lbn ← mapVbnToLbn indexHdr (slotVbn home next.num)
  readHeaderAtLbn img lbn next.num

def readIndexChain (img : RsxImage) (home : RsxHome) : Except RsxErrno RsxHeader := do
  let indexHdr ← readIndexHeader img home
  followChain (readIndexSegment img home) (rsx11MaxHeaderSegments - 1) indexHdr

def headerSlotLbn (img : RsxImage) (home : RsxHome) (fnum : Nat) : Except RsxErrno Nat :=
  if fnum = 0 then .error .enoent
  else if fnum ≤ 16 then .ok (directSlotLbn home fnum)
  else do
    let indexHdr ← readIndexChain img home
    mapVbnToLbn indexHdr (slotVbn home fnum)

def readHeaderSlotBlock (img : RsxImage) (home : RsxHome) (fnum : Nat) : Except RsxErrno Buffer := do
  let lbn ← headerSlotLbn img home fnum
  readBlock img lbn

def readHeaderSlot (img : RsxImage) (home : RsxHome) (fnum : Nat) : Except RsxErrno RsxHeader := do
  let lbn ← headerSlotLbn img home fnum
  readHeaderAtLbn img lbn fnum

def readFileChain (img : RsxImage) (home : RsxHome) (fid : RsxFid) : Except RsxErrno RsxHeader := do
  let hdr ← readHeaderSlot img home fid.num
  if hdr.fid ≠ fid then .error .enoent
  else
    let chain ← followChain (fun _ next => readHeaderSlot img home next.num) (rsx11MaxHeaderSegments - 1) hdr
    return { chain with nextFid := .null }

/-- `lookup_header`. The cache only remembers answers; `rsx11Fsck`, which writes between lookups, models it. -/
def lookupHeader (img : RsxImage) (fid : RsxFid) : Except RsxErrno RsxHeader := do
  let home ← rsx11ReadHome img
  readFileChain img home fid

/-! ## Bitmaps -/

def loadIndexBitmap (img : RsxImage) (home : RsxHome) : Except RsxErrno Buffer :=
  if home.ibsz = 0 then .error .einval
  else readAt img (512 * home.iblb) (512 * home.ibsz)

def indexBitmapTest (bitmap : Buffer) (size fnum : Nat) : Bool :=
  fnum ≠ 0 && (fnum - 1) / 8 < size && bit bitmap (fnum - 1)

def indexBitmapSet (bitmap : Buffer) (size fnum : Nat) (inUse : Bool) : Buffer :=
  if fnum = 0 ∨ size ≤ (fnum - 1) / 8 then bitmap else setBit bitmap (fnum - 1) inUse

def storageBitmapIsFree (data : Buffer) (size blockno : Nat) : Bool :=
  512 + blockno / 8 < size && bit (drop 512 data) blockno

def storageBitmapSetFree (data : Buffer) (size blockno : Nat) (isFree : Bool) : Buffer :=
  if size ≤ 512 + blockno / 8 then data else setBit data (8 * 512 + blockno) isFree

/-! ## The bytes of a file -/

/-- The loop of `read_header_data` over the blocks of a file. -/
def readBlocksLoop (img : RsxImage) : List Nat → Nat → Nat → Buffer → Except RsxErrno Buffer
  | [], pos, len, buf => if pos = len then .ok buf else .error .eio
  | lbn :: rest, pos, len, buf =>
    if len ≤ pos then if pos = len then .ok buf else .error .eio
    else
      let chunk := min (len - pos) 512
      match readAt img (512 * lbn) chunk with
      | .error e => .error e
      | .ok block => readBlocksLoop img rest (pos + chunk) len (paste buf pos chunk block)

def readHeaderData (img : RsxImage) (hdr : RsxHeader) (len : Nat) : Except RsxErrno Buffer :=
  readBlocksLoop img hdr.lbns 0 len Buffer.zero

def writeBlocksLoop (img : RsxImage) : List Nat → Nat → Nat → Buffer → RsxImage
  | [], _, _, _ => img
  | lbn :: rest, pos, len, buf =>
    if len ≤ pos then img
    else
      let chunk := min (len - pos) 512
      writeBlocksLoop (writeAt img (512 * lbn) chunk (drop pos buf)) rest (pos + chunk) len buf

/-- `write_header_data`. The callers write as many bytes as they read, so that the blocks suffice. -/
def writeHeaderData (img : RsxImage) (hdr : RsxHeader) (buf : Buffer) (len : Nat) : RsxImage :=
  writeBlocksLoop img hdr.lbns 0 len buf

/-- The loop of `extract_header_to_path`: the bytes written to the host file. -/
def extractLoop (img : RsxImage) : List Nat → Nat → List Byte → Except RsxErrno (List Byte)
  | [], _, out => .ok out
  | lbn :: rest, remaining, out =>
    if remaining = 0 then .ok out
    else do
      let block ← readBlock img lbn
      let toWrite := min remaining 512
      extractLoop img rest (remaining - toWrite) (out ++ (List.range toWrite).map block)

def extractHeader (img : RsxImage) (hdr : RsxHeader) : Except RsxErrno (List Byte) :=
  extractLoop img hdr.lbns (if hdr.sizeBytes = 0 then 512 * headerTotalBlocks hdr else hdr.sizeBytes) []

/-- `load_storage_bitmap`: the bytes, their number, the header and the number of blocks of the unit. -/
def loadStorageBitmap (img : RsxImage) : Except RsxErrno (Buffer × Nat × RsxHeader × Nat) := do
  let hdr ← lookupHeader img ⟨2, 2, 0⟩
  let size := 512 * headerTotalBlocks hdr
  let data ← readHeaderData img hdr size
  let unitOff := 4 + 4 * (data 3).toNat
  if size < 2 * 512 ∨ 512 < unitOff + 4 then .error .einval
  else return (data, size, hdr, getHiword32 data unitOff)

end K1801.Tools.Rsx11
