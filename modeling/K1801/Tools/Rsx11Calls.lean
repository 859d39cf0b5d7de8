import K1801.Library.Checks
import K1801.Tools.Rsx11fs

/-! # The calls on an ODS-1 volume -/

namespace K1801.Tools.Rsx11

open Core Library Buffer

/-- A string of C, which ends at its first zero byte. -/
structure CString where
  chars : List Char
  noNul : '\x00' ∉ chars

/-! ## Building blocks -/

/-- An extent in pieces of at most 256 blocks, which is what a pointer holds. -/
def splitExtent (e : RsxExtent) : List RsxExtent :=
  (List.range ((e.blocks + 255) / 256)).map fun k => ⟨e.lbn + 256 * k, min (e.blocks - 256 * k) 256⟩

def headerMapPointerCount (blocks : Nat) : Nat := (blocks + 255) / 256

def putPointer (block : Buffer) (off : Nat) (e : RsxExtent) : Buffer :=
  putLe16 (put (put block off (BitVec.ofNat 8 (e.lbn / 65536))) (off + 1) (BitVec.ofNat 8 (e.blocks - 1)))
    (off + 2) e.lbn

def putPointers (block : Buffer) (off : Nat) : List RsxExtent → Buffer
  | [] => block
  | e :: rest => putPointers (putPointer block off e) (off + 4) rest

abbrev idofWords : Nat := 23
abbrev mpofWords : Nat := 46

def putChecksum (block : Buffer) : Buffer := putLe16 block 510 (headerChecksum block)

/-- What a header says before its name. -/
def headerStart (fnum seq ownerUic prot : Nat) : Buffer :=
  putLe16 (putLe16 (putLe16 (putLe16 (putLe16 (putLe16 (put (put zero 0 (BitVec.ofNat 8 idofWords)) 1
    (BitVec.ofNat 8 mpofWords)) 2 fnum) 4 seq) 6 0o401) 8 ownerUic) 10 prot) 12 0

def putFcs (block : Buffer) (rtyp rsiz hibk efbk ffby : Nat) : Buffer :=
  putLe16 (putHiword32 (putHiword32 (putLe16 (put block (hdrOffUfat + fcsOffRtyp) (BitVec.ofNat 8 rtyp))
    (hdrOffUfat + fcsOffRsiz) rsiz) (hdrOffUfat + fcsOffHibk) hibk) (hdrOffUfat + fcsOffEfbk) efbk)
    (hdrOffUfat + fcsOffFfby) ffby

def putMapStart (block : Buffer) (map ptrWords : Nat) : Buffer :=
  put (put (put (put block (map + 6) 1#8) (map + 7) 3#8) (map + 8) (BitVec.ofNat 8 ptrWords))
    (map + 9) (BitVec.ofNat 8 rsx11MapMaxWords)

def buildFileHeaderExtents (fnum seq ownerUic prot : Nat) (name ext : List Char) (version : Nat)
    (extents : List RsxExtent) (fileBytes : Nat) : Except RsxErrno Buffer := do
  let block ← rad50EncodeName3 name (headerStart fnum seq ownerUic prot) (2 * idofWords)
  let block ← rad50EncodeName3 ext block (2 * idofWords + 6)
  let block := putLe16 block (2 * idofWords + 8) version
  let totalBlocks := (extents.map RsxExtent.blocks).sum
  let ptrCount := (extents.map fun e => headerMapPointerCount e.blocks).sum
  if 0 ∈ extents.map RsxExtent.blocks then .error .einval
  else if ptrCount = 0 ∧ (extents ≠ [] ∨ fileBytes ≠ 0) then .error .einval
  else if rsx11MapMaxWords < 2 * ptrCount then .error .efbig
  else
    let ffby := if totalBlocks ≠ 0 ∧ fileBytes % 512 = 0 then 512 else fileBytes % 512
    let efbk := if totalBlocks = 0 then 0 else (fileBytes + 512 - 1) / 512
    let block := putFcs block 1 512 totalBlocks efbk ffby
    let block := putMapStart block (2 * mpofWords) (2 * ptrCount)
    let block := putPointers block (2 * mpofWords + 10) (extents.flatMap splitExtent)
    return putChecksum block

/-- `build_file_header_chain_segment`; a null `nextFid` leaves the fields zero. -/
def buildFileHeaderChainSegment (fnum seq ownerUic prot : Nat) (name ext : List Char) (version : Nat)
    (extents : List RsxExtent) (fileBytes segmentNumber : Nat) (nextFid : RsxFid) : Except RsxErrno Buffer := do
  let block ← buildFileHeaderExtents fnum seq ownerUic prot name ext version extents fileBytes
  let map := 2 * (block 1).toNat
  let block := put block map (BitVec.ofNat 8 segmentNumber)
  let block := putLe16 (putLe16 (put block (map + 1) (BitVec.ofNat 8 nextFid.rvn)) (map + 2) nextFid.num)
    (map + 4) nextFid.seq
  return putChecksum block

def buildFileHeader (fnum seq ownerUic prot : Nat) (name ext : List Char) (version startLbn blocks fileBytes : Nat) :
    Except RsxErrno Buffer :=
  if blocks = 0 ∧ fileBytes = 0 then buildFileHeaderExtents fnum seq ownerUic prot name ext version [] 0
  else buildFileHeaderExtents fnum seq ownerUic prot name ext version [⟨startLbn, blocks⟩] fileBytes

def buildDirectoryHeader (fnum seq uic : Nat) (dirName : List Char) (startLbn : Nat) : Except RsxErrno Buffer := do
  let block ← buildFileHeader fnum seq uic 0o160000 dirName "DIR".toList 1 startLbn 1 512
  let block := put (put block (hdrOffUfat + fcsOffRatt) 1#8) (hdrOffUfat + fcsOffRtyp) 0#8
  let block := putLe16 (putHiword32 (putLe16 block (hdrOffUfat + fcsOffRsiz) 16) (hdrOffUfat + fcsOffEfbk) 2)
    (hdrOffUfat + fcsOffFfby) 0
  return putChecksum block

def updateHeaderSizeFields (block : Buffer) (allocBlocks sizeBytes : Nat) : Buffer :=
  let efbk := (sizeBytes + 512 - 1) / 512
  let ffby := if efbk ≠ 0 ∧ sizeBytes % 512 = 0 then 512 else sizeBytes % 512
  putChecksum (putLe16 (putHiword32 (putHiword32 block (hdrOffUfat + fcsOffHibk) allocBlocks)
    (hdrOffUfat + fcsOffEfbk) efbk) (hdrOffUfat + fcsOffFfby) ffby)

def buildDirRecord (fid : RsxFid) (name ext : List Char) (version : Nat) : Except RsxErrno Buffer :=
  if 3 < ext.length then .error .enametoolong
  else do
    let rec_ := putLe16 (putLe16 (putLe16 zero 0 fid.num) 2 fid.seq) 4 fid.rvn
    let rec_ ← rad50EncodeName3 name rec_ 6
    let extword ← rad50EncodeWord (padded ext 0) (padded ext 1) (padded ext 2)
    return putLe16 (putLe16 rec_ 12 extword) 14 version

/-! ## Directories -/

/-- The directory argument of the calls, and what the listing calls a directory. -/
inductive RsxDir where
  | mfd
  | uic (group user : Nat)
  deriving Repr, DecidableEq

def octalDigit (n : Nat) : Char := Char.ofNat (48 + n % 8)

def octal3 (n : Nat) : List Char := [octalDigit (n / 64), octalDigit (n / 8), octalDigit n]

def formatDirNameFromUic (group user : Nat) : List Char := octal3 group ++ octal3 user

def octalValue (s : List Char) : Nat := s.foldl (fun n c => 8 * n + (c.toNat - '0'.toNat)) 0

/-- `format_uic`: six octal digits name the directory of a UIC. -/
def formatUic (name : List Char) : Option RsxDir :=
  if name.length = 6 ∧ ∀ c ∈ name, '0' ≤ c ∧ c ≤ '7' then
    some (.uic (octalValue (name.take 3)) (octalValue (name.drop 3)))
  else none

/-- `parse_uic_word` on `[group,user]`. -/
def parseUicWord (group user : Nat) : Except RsxErrno Nat :=
  if 0o377 < group ∨ 0o377 < user then .error .einval else .ok (256 * group + user)

/-- `rsx11_dir_record_t` -/
structure RsxDirRecord where
  fid : RsxFid
  name : List Char
  ext : List Char
  version : Nat
  deriving Repr, DecidableEq

/-- `rsx11_dirent_t`, less the number of blocks, which only the listing shows. -/
structure RsxDirent where
  dir : RsxDir
  name : List Char
  ext : List Char
  version : Nat
  fid : RsxFid
  rawOffset : Nat
  deriving Repr, DecidableEq

def dirRecordIsEmpty (rec_ : Buffer) : Bool := (List.range 16).all fun i => rec_ i = 0#8

def decodeDirRecordLoose (rec_ : Buffer) : RsxDirRecord where
  fid := ⟨getLe16 rec_ 0, getLe16 rec_ 2, getLe16 rec_ 4⟩
  name := rad50DecodeName3 rec_ 6
  ext := rad50DecodeExt rec_ 12
  version := getLe16 rec_ 14

def decodeDirRecord (rec_ : Buffer) : Option RsxDirRecord :=
  if dirRecordIsEmpty rec_ then none
  else
    let r := decodeDirRecordLoose rec_
    if r.fid.num = 0 ∨ r.name = [] ∨ r.version = 0 then none else some r

def dirRecordEntry (dir : RsxDir) (rawOffset : Nat) (r : RsxDirRecord) : RsxDirent :=
  ⟨dir, r.name, r.ext, r.version, r.fid, rawOffset⟩

section Walk

variable {σ : Type} (image : σ → RsxImage) (cb : Buffer → Nat → σ → σ)

/-- The records of one block. -/
def walkRecords (block : Buffer) (base : Nat) : List Nat → σ → σ
  | [], s => s
  | k :: rest, s => walkRecords block base rest (cb (cut 16 (drop (16 * k) block)) (base + 16 * k) s)

/-- The loop of `walk_dir_records` over the blocks of a directory. -/
def walkBlocks : List Nat → Nat → σ → Except RsxErrno Unit × σ
  | [], _, s => (.ok (), s)
  | lbn :: rest, remaining, s =>
    if remaining = 0 then (.ok (), s)
    else match readBlock (image s) lbn with
      | .error e => (.error e, s)
      | .ok block =>
        let blockBytes := min remaining 512
        walkBlocks rest (remaining - blockBytes)
          (walkRecords cb block (512 * lbn) (List.range (blockBytes / 16)) s)

def walkDirRecords (hdr : RsxHeader) (s : σ) : Except RsxErrno Unit × σ :=
  walkBlocks image cb hdr.lbns
    (if hdr.sizeBytes = 0 then 512 * headerTotalBlocks hdr else hdr.sizeBytes) s

end Walk

def collectDirRecord (dir : RsxDir) (rec_ : Buffer) (rawOffset : Nat) (out : List RsxDirent) : List RsxDirent :=
  match decodeDirRecord rec_ with
  | none => out
  | some r => out ++ [dirRecordEntry dir rawOffset r]

def readDirRecordsRaw (img : RsxImage) (hdr : RsxHeader) (dir : RsxDir) : Except RsxErrno (List RsxDirent) :=
  match walkDirRecords (fun _ => img) (collectDirRecord dir) hdr [] with
  | (.error e, _) => .error e
  | (.ok (), out) => .ok out

/-- `read_dir_file`: the records whose file is there. -/
def readDirFile (img : RsxImage) (hdr : RsxHeader) (dir : RsxDir) : Except RsxErrno (List RsxDirent) := do
  let raw ← readDirRecordsRaw img hdr dir
  return raw.filter fun ent => (lookupHeader img ent.fid).toOption.isSome

abbrev mfdFid : RsxFid := ⟨4, 4, 0⟩

/-- The directory that an entry of the MFD stands for. -/
def subdirectory (ent : RsxDirent) : Option RsxDir :=
  if ent.ext ≠ "DIR".toList ∨ ent.name = "000000".toList then none else formatUic ent.name

def readSubdirectories (img : RsxImage) : List RsxDirent → Except RsxErrno (List RsxDirent)
  | [] => .ok []
  | ent :: rest =>
    match subdirectory ent, lookupHeader img ent.fid with
    | some dir, .ok hdr => do
      let here ← readDirFile img hdr dir
      let there ← readSubdirectories img rest
      return here ++ there
    | _, _ => readSubdirectories img rest

def rsx11ReadDirectory (img : RsxImage) : Except RsxErrno (List RsxDirent) := do
  let mfdHdr ← lookupHeader img mfdFid
  let mfdEntries ← readDirFile img mfdHdr .mfd
  let rest ← readSubdirectories img mfdEntries
  return mfdEntries ++ rest

/-- The entry of the MFD for a directory. -/
def findDirEntry (dirName : List Char) (mfdEntries : List RsxDirent) : Option RsxDirent :=
  mfdEntries.find? fun ent => ent.ext = "DIR".toList && ent.name = dirName

/-- `find_directory_header`: the header and the entries. -/
def findDirectoryHeader (img : RsxImage) (dir : RsxDir) : Except RsxErrno (RsxHeader × List RsxDirent) := do
  let mfdHdr ← lookupHeader img mfdFid
  match dir with
  | .mfd =>
    let entries ← readDirFile img mfdHdr .mfd
    return (mfdHdr, entries)
  | .uic group user =>
    let _ ← parseUicWord group user
    let mfdEntries ← readDirFile img mfdHdr .mfd
    match findDirEntry (formatDirNameFromUic group user) mfdEntries with
    | none => .error .enoent
    | some ent =>
      let hdr ← lookupHeader img ent.fid
      let entries ← readDirFile img hdr dir
      return (hdr, entries)

/-- `read_directory_storage`: the bytes, how many are allocated, how many belong to the directory. -/
def readDirectoryStorage (img : RsxImage) (hdr : RsxHeader) : Except RsxErrno (Buffer × Nat × Nat) :=
  let allocBytes := 512 * headerTotalBlocks hdr
  let logicalBytes := if hdr.sizeBytes ≠ 0 then hdr.sizeBytes else allocBytes
  if allocBytes < logicalBytes ∨ logicalBytes % 16 ≠ 0 then .error .einval
  else do
    let data ← readHeaderData img hdr allocBytes
    return (data, allocBytes, logicalBytes)

/-- `find_directory_slot`: the offset, and whether the directory grows. -/
def findDirectorySlot (data : Buffer) (allocBytes logicalBytes : Nat) : Except RsxErrno (Nat × Bool) :=
  match (List.range (logicalBytes / 16)).find? fun k => getLe16 data (16 * k) = 0 with
  | some k => .ok (16 * k, false)
  | none => if allocBytes < logicalBytes + 16 then .error .enospc else .ok (logicalBytes, true)

def isDirectoryEmpty (data : Buffer) (logicalBytes : Nat) : Bool :=
  (List.range (logicalBytes / 16)).all fun k => getLe16 data (16 * k) = 0

/-! ## Allocation -/

/-- `find_free_file_number`. The number wraps behind 65535, and bit 0 is never set. -/
def findFreeFileNumber (home : RsxHome) (bitmap : Buffer) (size : Nat) : Except RsxErrno Nat :=
  match (List.range' 1 home.fmax ++ if home.fmax = 65535 then [0] else []).find? fun fnum =>
      !indexBitmapTest bitmap size fnum with
  | some fnum => .ok fnum
  | none => .error .enospc

def readSlotSequence (img : RsxImage) (home : RsxHome) (fnum : Nat) : Except RsxErrno Nat := do
  let block ← readHeaderSlotBlock img home fnum
  return getLe16 block 4

def nextSequence (seq : Nat) : Nat := if seq = 0xffff then 1 else seq + 1

def findFreeBlocksLoop (isFree : Nat → Bool) (needed : Nat) : Nat → Nat → Nat → Nat → Except RsxErrno Nat
  | 0, _, _, _ => .error .enospc
  | n + 1, b, start, run =>
    if isFree b then
      let start := if run = 0 then b else start
      if needed ≤ run + 1 then .ok start else findFreeBlocksLoop isFree needed n (b + 1) start (run + 1)
    else findFreeBlocksLoop isFree needed n (b + 1) start 0

def findFreeBlocks (data : Buffer) (size unitBlocks needed : Nat) : Except RsxErrno Nat :=
  findFreeBlocksLoop (storageBitmapIsFree data size) needed unitBlocks 0 0 0

/-- The variables of the loop of `allocate_file_extents`. -/
structure AllocState where
  extents : List RsxExtent
  runStart : Nat
  runBlocks : Nat
  needed : Nat

/-- What happens at the end of a run of free blocks. -/
def closeRun (st : AllocState) : Except RsxErrno AllocState :=
  let take := min st.runBlocks st.needed
  let chunks := splitExtent ⟨st.runStart, take⟩
  if rsx11MaxExtents < st.extents.length + chunks.length then .error .efbig
  else .ok { st with extents := st.extents ++ chunks, needed := st.needed - take, runBlocks := 0 }

def allocateLoop (isFree : Nat → Bool) : Nat → Nat → AllocState → Except RsxErrno (List RsxExtent)
  | 0, _, st =>
    if st.runBlocks = 0 then .error .enospc
    else do
      let st ← closeRun st
      if st.needed = 0 then return st.extents else .error .enospc
  | n + 1, b, st =>
    if isFree b then
      allocateLoop isFree n (b + 1)
        { st with runStart := if st.runBlocks = 0 then b else st.runStart, runBlocks := st.runBlocks + 1 }
    else if st.runBlocks = 0 then allocateLoop isFree n (b + 1) st
    else do
      let st ← closeRun st
      if st.needed = 0 then return st.extents else allocateLoop isFree n (b + 1) st

def allocateFileExtents (data : Buffer) (size unitBlocks needed : Nat) : Except RsxErrno (List RsxExtent) :=
  if needed = 0 then .ok []
  else allocateLoop (storageBitmapIsFree data size) unitBlocks 0 ⟨[], 0, 0, needed⟩

def headerSegmentCountForExtents (extents : List RsxExtent) : Except RsxErrno Nat :=
  let ptrCount := (extents.map fun e => headerMapPointerCount e.blocks).sum
  if ptrCount = 0 then .ok 1
  else
    let count := (ptrCount + rsx11MapMaxWords / 2 - 1) / (rsx11MapMaxWords / 2)
    if rsx11MaxHeaderSegments < count then .error .efbig else .ok count

/-- Marks blocks in the storage bitmap. -/
def setBlocksFree (data : Buffer) (size : Nat) (lbns : List Nat) (isFree : Bool) : Buffer :=
  lbns.foldl (fun data b => storageBitmapSetFree data size b isFree) data

def setFilesUsed (bitmap : Buffer) (size : Nat) (fnums : List Nat) (inUse : Bool) : Buffer :=
  fnums.foldl (fun bitmap fnum => indexBitmapSet bitmap size fnum inUse) bitmap

def releaseExtents (size unitBlocks : Nat) : List RsxExtent → Buffer → Except RsxErrno Unit × Buffer
  | [], storage => (.ok (), storage)
  | e :: rest, storage =>
    if e.blocks = 0 then releaseExtents size unitBlocks rest storage
    else if unitBlocks < e.lbn + e.blocks then (.error .eio, storage)
    else releaseExtents size unitBlocks rest (setBlocksFree storage size e.lbns true)

/-- `release_header_chain_allocation`: the index bitmap and the storage bitmap it leaves. -/
def releaseHeaderChainAllocation (hdr : RsxHeader) (index : Buffer) (indexSize : Nat) (storage : Buffer)
    (storageSize unitBlocks : Nat) : Except RsxErrno Unit × Buffer × Buffer :=
  match releaseExtents storageSize unitBlocks hdr.extents storage with
  | (.error e, storage) => (.error e, index, storage)
  | (.ok (), storage) => (.ok (), setFilesUsed index indexSize (hdr.headerFids.map RsxFid.num) false, storage)

def writeHeaderSlot (img : RsxImage) (home : RsxHome) (fnum : Nat) (block : Buffer) : Except RsxErrno RsxImage :=
  if fnum = 0 then .error .einval
  else do
    let lbn ← headerSlotLbn img home fnum
    return writeAt img (512 * lbn) 512 block

def writeIndexBitmap (img : RsxImage) (home : RsxHome) (bitmap : Buffer) : RsxImage :=
  writeAt img (512 * home.iblb) (512 * home.ibsz) bitmap

def indexSizeBytes (home : RsxHome) : Nat := 512 * home.ibsz

end K1801.Tools.Rsx11
