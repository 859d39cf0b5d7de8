import K1801.Tools.Rsx11Calls

/-! # Changing an ODS-1 volume

Each call first reads what it needs and builds the new blocks, and then writes them.
-/

namespace K1801.Tools.Rsx11

open Core Library Buffer

/-- What a call answers, and the image it leaves. -/
abbrev RsxResult (α : Type) := Except RsxErrno α × RsxImage

/-- Goes on with what was read, or fails with the image as it is. -/
def RsxResult.after {α β : Type} (img : RsxImage) (x : Except RsxErrno α) (f : α → RsxResult β) : RsxResult β :=
  match x with
  | .error e => (.error e, img)
  | .ok a => f a

/-- The bitmaps of a volume as `load_allocation_state` reads them. -/
structure RsxAllocation where
  index : Buffer
  storage : Buffer
  storageSize : Nat
  bitmapHdr : RsxHeader
  unitBlocks : Nat

def loadAllocationState (img : RsxImage) (home : RsxHome) : Except RsxErrno RsxAllocation := do
  let index ← loadIndexBitmap img home
  let (storage, storageSize, bitmapHdr, unitBlocks) ← loadStorageBitmap img
  return { index, storage, storageSize, bitmapHdr, unitBlocks }

def writeAllocation (img : RsxImage) (home : RsxHome) (a : RsxAllocation) : RsxImage :=
  writeIndexBitmap (writeHeaderData img a.bitmapHdr a.storage a.storageSize) home a.index

/-! ## Adding a file -/

/-- The version of the new file among the entries of its directory. -/
def chooseVersion (haveVersion : Bool) (name ext : List Char) : List RsxDirent → Nat → Except RsxErrno Nat
  | [], version => if version ≠ 0 then .ok version else if haveVersion then .error .einval else .ok 1
  | ent :: rest, version =>
    if ent.name = name ∧ ent.ext = ext then
      if haveVersion then
        if ent.version = version then .error .eexist else chooseVersion haveVersion name ext rest version
      else if version ≤ ent.version then
        if ent.version = 0xffff then .error .eoverflow
        else chooseVersion haveVersion name ext rest (ent.version + 1)
      else chooseVersion haveVersion name ext rest version
    else chooseVersion haveVersion name ext rest version

/-- Free file numbers with their new sequence numbers, and the bitmap where they are taken. -/
def takeFileNumbers (img : RsxImage) (home : RsxHome) : Nat → Buffer →
    Except RsxErrno (List (Nat × Nat) × Buffer)
  | 0, bitmap => .ok ([], bitmap)
  | n + 1, bitmap => do
    let fnum ← findFreeFileNumber home bitmap (indexSizeBytes home)
    let seq ← readSlotSequence img home fnum
    let (rest, bitmap) ← takeFileNumbers img home n (indexBitmapSet bitmap (indexSizeBytes home) fnum true)
    return ((fnum, nextSequence seq) :: rest, bitmap)

/-- The header that goes on where this one ends. -/
def nextOf : List (Nat × Nat) → RsxFid
  | [] => .null
  | (fnum, seq) :: _ => ⟨fnum, seq, 0⟩

def buildHeaders (ownerUic prot : Nat) (name ext : List Char) (version : Nat) :
    List (Nat × Nat) → Nat → List RsxExtent → Nat → Except RsxErrno (List Buffer)
  | [], _, _, _ => .ok []
  | (fnum, seq) :: rest, segment, extents, fileBytes => do
    let block ← buildFileHeaderChainSegment fnum seq ownerUic prot name ext version
      (extents.take (rsx11MapMaxWords / 2)) fileBytes segment (nextOf rest)
    let blocks ← buildHeaders ownerUic prot name ext version rest (segment + 1)
      (extents.drop (rsx11MapMaxWords / 2)) 0
    return block :: blocks

/-- What `rsx11_add_file` writes once nothing can go wrong any more. -/
structure RsxAddPlan where
  home : RsxHome
  allocation : RsxAllocation
  extents : List RsxExtent
  fids : List (Nat × Nat)
  headers : List Buffer
  dirHdr : RsxHeader
  dirData : Buffer
  dirAllocBytes : Nat
  dirHdrBlock : Option Buffer
  version : Nat

def addPlan (img : RsxImage) (host : List Byte) (dir : RsxDir) (name ext : List Char) (haveVersion : Bool)
    (version : Nat) : Except RsxErrno RsxAddPlan := do
  if name = [] then throw .einval
  let blocks := (host.length + 512 - 1) / 512 % 4294967296
  let home ← rsx11ReadHome img
  let ownerUic ← match dir with
    | .mfd => .ok home.vown
    | .uic group user => parseUicWord group user
  let (dirHdr, dirEntries) ← findDirectoryHeader img dir
  let version ← chooseVersion haveVersion name ext dirEntries version
  let (dirData, dirAllocBytes, dirLogicalBytes) ← readDirectoryStorage img dirHdr
  let (dirSlot, appendSlot) ← findDirectorySlot dirData dirAllocBytes dirLogicalBytes
  let index ← loadIndexBitmap img home
  let fnum ← findFreeFileNumber home index (indexSizeBytes home)
  let _ ← readSlotSequence img home fnum
  let (storage, storageSize, bitmapHdr, unitBlocks) ← loadStorageBitmap img
  let extents ← allocateFileExtents storage storageSize unitBlocks blocks
  let headerCount ← headerSegmentCountForExtents extents
  let (fids, index) ← takeFileNumbers img home headerCount index
  if extents.any fun e => e.blocks = 0 || img.sizeBytes < 512 * (e.lbn + e.blocks) then throw .enospc
  let storage := setBlocksFree storage storageSize (extents.flatMap RsxExtent.lbns) false
  let headers ← buildHeaders ownerUic home.dfpr name ext version fids 0 extents host.length
  let dirRec ← buildDirRecord (nextOf fids) name ext version
  let dirHdrBlock ←
    if appendSlot then do
      let block ← readAt img dirHdr.rawOffset 512
      .ok (some (updateHeaderSizeFields block (headerTotalBlocks dirHdr) (dirLogicalBytes + 16)))
    else .ok none
  return {
    home, allocation := { index, storage, storageSize, bitmapHdr, unitBlocks }, extents, fids, headers, dirHdr,
    dirData := paste dirData dirSlot 16 dirRec, dirAllocBytes, dirHdrBlock, version }

/-- The blocks of the host file, the last one filled with zeros. -/
def writeFileBlocks (img : RsxImage) : List Nat → List Byte → RsxImage
  | [], _ => img
  | lbn :: rest, host =>
    writeFileBlocks (writeAt img (512 * lbn) 512 (ofList host)) rest
      (host.drop 512)

def writeHeaderSlots (img : RsxImage) (home : RsxHome) : List ((Nat × Nat) × Buffer) → RsxResult Unit
  | [] => (.ok (), img)
  | ((fnum, _), block) :: rest =>
    RsxResult.after img (writeHeaderSlot img home fnum block) fun img => writeHeaderSlots img home rest

def writeDirHeader (img : RsxImage) (hdr : RsxHeader) : Option Buffer → RsxImage
  | none => img
  | some block => writeAt img hdr.rawOffset 512 block

def addWrite (img : RsxImage) (host : List Byte) (p : RsxAddPlan) : RsxResult Unit :=
  let lbns := p.extents.flatMap RsxExtent.lbns
  let img := writeFileBlocks img lbns host
  if 512 * lbns.length < host.length then (.error .eio, img)
  else match writeHeaderSlots img p.home (p.fids.zip p.headers) with
    | (.error e, img) => (.error e, img)
    | (.ok (), img) =>
      let img := writeAllocation img p.home p.allocation
      let img := writeHeaderData img p.dirHdr p.dirData p.dirAllocBytes
      (.ok (), writeDirHeader img p.dirHdr p.dirHdrBlock)

/-- `rsx11_add_file` with the bytes of the host file: the file identification and the version of the new file. -/
def rsx11AddFile (img : RsxImage) (host : List Byte) (dir : RsxDir) (name ext : CString) (haveVersion : Bool)
    (version : Word) : RsxResult (RsxFid × Nat) :=
  RsxResult.after img (addPlan img host dir name.chars ext.chars haveVersion version.toNat) fun p =>
    match addWrite img host p with
    | (.error e, img) => (.error e, img)
    | (.ok (), img) => (.ok (nextOf p.fids, p.version), img)

/-! ## Removing a file -/

def clearRecord (img : RsxImage) (rawOffset : Nat) : RsxImage := writeAt img rawOffset 16 zero

/-- What the removal of the last link gives back. -/
def releasePlan (home : RsxHome) (hdr : RsxHeader) (a : RsxAllocation) :
    Except RsxErrno RsxAllocation :=
  match releaseHeaderChainAllocation hdr a.index (indexSizeBytes home) a.storage a.storageSize a.unitBlocks with
  | (.error e, _) => .error e
  | (.ok (), index, storage) => .ok { a with index, storage }

/-- The checks of `rsx11_remove_entry`, and the bitmaps to write where the entry is the last link. -/
def removePlan (img : RsxImage) (ent : RsxDirent) : Except RsxErrno (Option (RsxHome × RsxAllocation)) := do
  if ent.ext = "DIR".toList then throw .eisdir
  if img.sizeBytes < ent.rawOffset + 16 then throw .eio
  let rec_ ← readAt img ent.rawOffset 16
  if getLe16 rec_ 0 ≠ ent.fid.num ∨ getLe16 rec_ 2 ≠ ent.fid.seq ∨ getLe16 rec_ 14 ≠ ent.version then
    throw .enoent
  let list ← rsx11ReadDirectory img
  let refs := list.countP fun e => e.fid = ent.fid
  if refs = 0 then throw .enoent
  if refs = 1 then do
    let home ← rsx11ReadHome img
    let hdr ← lookupHeader img ent.fid
    let (storage, storageSize, bitmapHdr, unitBlocks) ← loadStorageBitmap img
    let index ← loadIndexBitmap img home
    let a ← releasePlan home hdr { index, storage, storageSize, bitmapHdr, unitBlocks }
    return some (home, a)
  else return none

def rsx11RemoveEntry (img : RsxImage) (ent : RsxDirent) : RsxResult Unit :=
  RsxResult.after img (removePlan img ent) fun
    | none => (.ok (), clearRecord img ent.rawOffset)
    | some (home, a) => (.ok (), writeAllocation (clearRecord img ent.rawOffset) home a)

/-! ## Directories -/

/-- What `rsx11_make_directory` writes. -/
structure RsxMakePlan where
  home : RsxHome
  allocation : RsxAllocation
  fnum : Nat
  header : Buffer
  startLbn : Nat
  mfdHdr : RsxHeader
  mfdData : Buffer
  mfdAllocBytes : Nat
  mfdHdrBlock : Option Buffer

/-- The UIC of a directory that a call makes or removes. -/
def userDirectory (dir : RsxDir) : Except RsxErrno (Nat × List Char) :=
  match dir with
  | .mfd => .error .einval
  | .uic group user =>
    match parseUicWord group user with
    | .error e => .error e
    | .ok uic => if uic = 0 then .error .einval else .ok (uic, formatDirNameFromUic group user)

def makePlan (img : RsxImage) (dir : RsxDir) : Except RsxErrno RsxMakePlan := do
  let (uic, dirName) ← userDirectory dir
  let home ← rsx11ReadHome img
  let (mfdHdr, mfdEntries) ← findDirectoryHeader img .mfd
  if (findDirEntry dirName mfdEntries).isSome then throw .eexist
  let (mfdData, mfdAllocBytes, mfdLogicalBytes) ← readDirectoryStorage img mfdHdr
  let (mfdSlot, appendSlot) ← findDirectorySlot mfdData mfdAllocBytes mfdLogicalBytes
  let a ← loadAllocationState img home
  let fnum ← findFreeFileNumber home a.index (indexSizeBytes home)
  let oldSeq ← readSlotSequence img home fnum
  let seq := nextSequence oldSeq
  let startLbn ← findFreeBlocks a.storage a.storageSize a.unitBlocks 1
  if img.sizeBytes < 512 * (startLbn + 1) then throw .enospc
  let header ← buildDirectoryHeader fnum seq uic dirName startLbn
  let dirRec ← buildDirRecord ⟨fnum, seq, 0⟩ dirName "DIR".toList 1
  let mfdHdrBlock ←
    if appendSlot then do
      let block ← readAt img mfdHdr.rawOffset 512
      .ok (some (updateHeaderSizeFields block (headerTotalBlocks mfdHdr) (mfdLogicalBytes + 16)))
    else .ok none
  let allocation := { a with
    index := indexBitmapSet a.index (indexSizeBytes home) fnum true
    storage := storageBitmapSetFree a.storage a.storageSize startLbn false }
  return {
    home, allocation, fnum, header, startLbn, mfdHdr, mfdData := paste mfdData mfdSlot 16 dirRec,
    mfdAllocBytes, mfdHdrBlock }

def rsx11MakeDirectory (img : RsxImage) (dir : RsxDir) : RsxResult Unit :=
  RsxResult.after img (makePlan img dir) fun p =>
    let img := writeAt img (512 * p.startLbn) 512 zero
    RsxResult.after img (writeHeaderSlot img p.home p.fnum p.header) fun img =>
      let img := writeAllocation img p.home p.allocation
      let img := writeHeaderData img p.mfdHdr p.mfdData p.mfdAllocBytes
      (.ok (), writeDirHeader img p.mfdHdr p.mfdHdrBlock)

/-- The entry that `rsx11_remove_directory` clears and the bitmaps it writes. -/
def removeDirectoryPlan (img : RsxImage) (dir : RsxDir) : Except RsxErrno (RsxDirent × RsxHome × RsxAllocation) := do
  let (_, dirName) ← userDirectory dir
  let home ← rsx11ReadHome img
  let (_, mfdEntries) ← findDirectoryHeader img .mfd
  match findDirEntry dirName mfdEntries with
  | none => throw .enoent
  | some target =>
    let dirHdr ← lookupHeader img target.fid
    let (dirData, _, dirLogicalBytes) ← readDirectoryStorage img dirHdr
    if isDirectoryEmpty dirData dirLogicalBytes = false then throw .enotempty
    let allEntries ← rsx11ReadDirectory img
    if allEntries.countP (fun e => e.fid = target.fid) ≠ 1 then throw .ebusy
    let a ← loadAllocationState img home
    let a ← releasePlan home dirHdr a
    return (target, home, a)

def rsx11RemoveDirectory (img : RsxImage) (dir : RsxDir) : RsxResult Unit :=
  RsxResult.after img (removeDirectoryPlan img dir) fun (target, home, a) =>
    (.ok (), writeAllocation (clearRecord img target.rawOffset) home a)

/-! ## Extracting files -/

/-- What `rsx11_extract_selected` writes for one entry: nothing for a directory and for a file that is not there. -/
def extractEntry (img : RsxImage) (ent : RsxDirent) : Except RsxErrno (Option (List Byte)) :=
  if ent.ext = "DIR".toList then .ok none
  else match lookupHeader img ent.fid with
    | .error _ => .ok none
    | .ok hdr => (extractHeader img hdr).map some

end K1801.Tools.Rsx11
