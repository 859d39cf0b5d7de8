import K1801.Tools.Rsx11Update

/-! # Checking an ODS-1 volume

`rsx11_fsck` reads the bitmaps, walks the directories and compares what it finds. With `repair` it clears or rewrites
directory records on its way and writes the bitmaps at the end.
-/

namespace K1801.Tools.Rsx11

open Core Library Buffer

/-- What `rsx11_fsck` prints, with the entry it is about. -/
inductive RsxIssue where
  | invalidFid
  | malformed
  | missingHeader
  | rvnDisagrees
  | nonPrimarySegment
  | inconsistentChain
  | disagreesWithHeader
  | duplicate
  | headersMarkedFree (count : Nat)
  | extentOutsideImage
  | blocksMarkedFree (count : Nat)
  | slotInvalid (fnum : Nat)
  | orphanInconsistent (fid : RsxFid)
  | orphan (fid : RsxFid)
  | cannotRemoveRecord
  | cannotRewriteRecord
  | cannotFreeSegment
  | cannotFreeChain
  deriving Repr, DecidableEq

/-- `rsx11_fsck_report_t`, with the lines printed. -/
structure RsxFsckReport where
  checked : Nat
  issues : Nat
  repaired : Nat
  fatal : Nat
  findings : List (Option RsxDirent × RsxIssue)
  deriving Repr, DecidableEq

/-- The header cache: the home block and the headers found so far. -/
structure RsxCache where
  home : Option RsxHome
  items : List RsxHeader

/-- `lookup_header` with the cache. -/
def cachedLookup (img : RsxImage) (cache : RsxCache) (fid : RsxFid) : Except RsxErrno RsxHeader × RsxCache :=
  match cache.items.find? fun hdr => hdr.fid = fid with
  | some hdr => (.ok hdr, cache)
  | none =>
    match (match cache.home with
      | some home => Except.ok home
      | none => rsx11ReadHome img) with
    | .error e => (.error e, cache)
    | .ok home =>
      match readFileChain img home fid with
      | .error e => (.error e, { cache with home := some home })
      | .ok hdr => (.ok hdr, ⟨some home, cache.items ++ [hdr]⟩)

/-- The variables of `rsx11_fsck` that change. -/
structure FsckState where
  img : RsxImage
  cache : RsxCache
  report : RsxFsckReport
  index : Buffer
  storage : Buffer
  indexDirty : Bool
  storageDirty : Bool
  seenSeq : Nat → Nat
  predSeq : Nat → Nat

namespace FsckState

def check (st : FsckState) : FsckState :=
  { st with report := { st.report with checked := st.report.checked + 1 } }

/-- `fsck_issue` -/
def issue (st : FsckState) (ent : Option RsxDirent) (what : RsxIssue) : FsckState :=
  { st with report := { st.report with
      issues := st.report.issues + 1, findings := st.report.findings ++ [(ent, what)] } }

def countFatal (st : FsckState) : FsckState :=
  { st with report := { st.report with fatal := st.report.fatal + 1 } }

def countRepaired (st : FsckState) : FsckState :=
  { st with report := { st.report with repaired := st.report.repaired + 1 } }

/-- `fsck_fatal` -/
def fatalIssue (st : FsckState) (ent : Option RsxDirent) (what : RsxIssue) : FsckState :=
  st.countFatal.issue ent what

end FsckState

/-- `fsck_clear_dir_record` -/
def fsckClearDirRecord (img : RsxImage) (ent : RsxDirent) : Option RsxImage :=
  if img.sizeBytes < ent.rawOffset + 16 then none else some (clearRecord img ent.rawOffset)

/-- `fsck_rewrite_dir_record` -/
def fsckRewriteDirRecord (img : RsxImage) (ent : RsxDirent) (hdr : RsxHeader) : Option RsxImage :=
  if img.sizeBytes < ent.rawOffset + 16 then none
  else match buildDirRecord hdr.fid hdr.name hdr.ext hdr.version with
    | .error _ => none
    | .ok rec_ => some (writeAt img ent.rawOffset 16 rec_)

/-- An issue with a directory record that a repair removes. -/
def dropRecord (repair : Bool) (ent : RsxDirent) (what : RsxIssue) (st : FsckState) : FsckState :=
  let st := st.issue (some ent) what
  if repair then
    match fsckClearDirRecord st.img ent with
    | none => st.fatalIssue (some ent) .cannotRemoveRecord
    | some img => { st with img }.countRepaired
  else st.countFatal

/-- An issue with a directory record that a repair rewrites from the header: the entry, unless that fails. -/
def rewriteRecord (repair : Bool) (ent : RsxDirent) (hdr : RsxHeader) (what : RsxIssue) (st : FsckState) :
    Option RsxDirent × FsckState :=
  let st := st.issue (some ent) what
  if repair then
    match fsckRewriteDirRecord st.img ent hdr with
    | none => (none, st.fatalIssue (some ent) .cannotRewriteRecord)
    | some img =>
      (some { ent with fid := hdr.fid, name := hdr.name, ext := hdr.ext, version := hdr.version },
        { st with img }.countRepaired)
  else (some ent, st.countFatal)

/-! ## The directories -/

/-- The entries met so far go with the state of the walk. -/
abbrev FsckWalk := FsckState × List RsxDirent

def fsckDirRecord (repair : Bool) (dir : RsxDir) (rec_ : Buffer) (rawOffset : Nat) (w : FsckWalk) : FsckWalk :=
  if dirRecordIsEmpty rec_ then w
  else
    let r := decodeDirRecordLoose rec_
    let ent := dirRecordEntry dir rawOffset r
    if r.fid.num = 0 ∨ r.name = [] ∨ r.version = 0 then
      (dropRecord repair ent (if r.fid.num = 0 then .invalidFid else .malformed) w.1.check, w.2)
    else (w.1, w.2 ++ [ent])

def fsckScanDirectory (repair : Bool) (hdr : RsxHeader) (dir : RsxDir) (st : FsckState) :
    Except RsxErrno (List RsxDirent) × FsckState :=
  match walkDirRecords (fun w : FsckWalk => w.1.img) (fsckDirRecord repair dir) hdr (st, []) with
  | (.error e, w) => (.error e, w.1)
  | (.ok (), w) => (.ok w.2, w.1)

/-- The directories that the MFD names; one that cannot be read is left out. -/
def fsckSubdirectories (repair : Bool) : List RsxDirent → FsckState → List RsxDirent × FsckState
  | [], st => ([], st)
  | ent :: rest, st =>
    match subdirectory ent with
    | none => fsckSubdirectories repair rest st
    | some dir =>
      let (found, cache) := cachedLookup st.img st.cache ent.fid
      let st := { st with cache }
      match found with
      | .error _ => fsckSubdirectories repair rest st
      | .ok hdr =>
        let (here, st) := fsckScanDirectory repair hdr dir st
        let (there, st) := fsckSubdirectories repair rest st
        match here with
        | .error _ => (there, st)
        | .ok entries => (entries ++ there, st)

def collectReachableEntries (repair : Bool) (st : FsckState) : Except RsxErrno (List RsxDirent) × FsckState :=
  let (found, cache) := cachedLookup st.img st.cache mfdFid
  let st := { st with cache }
  match found with
  | .error e => (.error e, st)
  | .ok mfdHdr =>
    match fsckScanDirectory repair mfdHdr .mfd st with
    | (.error e, st) => (.error e, st)
    | (.ok mfdEntries, st) =>
      let (rest, st) := fsckSubdirectories repair mfdEntries st
      (.ok (mfdEntries ++ rest), st)

/-! ## The entries -/

/-- What `rsx11_fsck` knows of the volume before it looks at the entries. -/
structure FsckVolume where
  home : RsxHome
  storageSize : Nat
  unitBlocks : Nat

/-- The slot that an entry names. -/
def entrySlot (img : RsxImage) (home : RsxHome) (ent : RsxDirent) : Option RsxHeader :=
  match readHeaderSlot img home ent.fid.num with
  | .error _ => none
  | .ok hdr => if hdr.fid.num = ent.fid.num ∧ hdr.fid.seq = ent.fid.seq then some hdr else none

def markSeen (fmax : Nat) (fids : List RsxFid) (seen : Nat → Nat) : Nat → Nat :=
  fids.foldl (fun seen fid => if fid.num ≤ fmax then Function.update seen fid.num fid.seq else seen) seen

/-- An extent that `rsx11_fsck` takes to lie on the volume. -/
def extentInside (img : RsxImage) (v : FsckVolume) (e : RsxExtent) : Bool :=
  e.blocks ≠ 0 && e.lbn + e.blocks ≤ v.unitBlocks && 512 * (e.lbn + e.blocks) ≤ img.sizeBytes

/-- The check of the header slots of a file against the index bitmap. -/
def checkHeaders (repair : Bool) (v : FsckVolume) (ent : RsxDirent) (hdr : RsxHeader) (st : FsckState) : FsckState :=
  let size := indexSizeBytes v.home
  let nums := hdr.headerFids.map RsxFid.num
  let missing := nums.countP fun n => !indexBitmapTest st.index size n
  if missing = 0 then st
  else
    let st := st.issue (some ent) (.headersMarkedFree missing)
    if repair then { st with index := setFilesUsed st.index size nums true, indexDirty := true }.countRepaired else st

/-- The check of the blocks of a file against the storage bitmap, up to an extent outside the image. -/
def checkExtents (repair : Bool) (v : FsckVolume) (ent : RsxDirent) (hdr : RsxHeader) (st : FsckState) : FsckState :=
  let inside := hdr.extents.takeWhile (extentInside st.img v)
  let lbns := inside.flatMap RsxExtent.lbns
  let missing := lbns.countP (storageBitmapIsFree st.storage v.storageSize)
  let st := if inside.length < hdr.extents.length then st.fatalIssue (some ent) .extentOutsideImage else st
  if missing = 0 then st
  else
    let st := st.issue (some ent) (.blocksMarkedFree missing)
    if repair then
      { st with storage := setBlocksFree st.storage v.storageSize lbns false, storageDirty := true }.countRepaired
    else st

/-- `fsck_dirent_same_record` -/
def sameRecord (a b : RsxDirent) : Bool :=
  a.dir = b.dir && a.name = b.name && a.ext = b.ext && a.version = b.version && a.fid = b.fid

/-- What is checked of an entry whose header chain is there. -/
def checkFile (repair : Bool) (v : FsckVolume) (earlier : List RsxDirent) (ent : RsxDirent) (hdr : RsxHeader)
    (st : FsckState) : FsckState :=
  if earlier.any (sameRecord · ent) then dropRecord repair ent .duplicate st
  else if st.seenSeq ent.fid.num = ent.fid.seq then st
  else
    let st := { st with seenSeq := markSeen v.home.fmax hdr.headerFids st.seenSeq }
    checkExtents repair v ent hdr (checkHeaders repair v ent hdr st)

/-- The checks from the header chain on; the entry as a repair leaves it. -/
def checkChain (repair : Bool) (v : FsckVolume) (earlier : List RsxDirent) (ent : RsxDirent) (lookupFid : RsxFid)
    (st : FsckState) : RsxDirent × FsckState :=
  let (found, cache) := cachedLookup st.img st.cache lookupFid
  let st := { st with cache }
  match found with
  | .error _ => (ent, dropRecord repair ent .inconsistentChain st)
  | .ok hdr =>
    if ent.name = hdr.name ∧ ent.ext = hdr.ext ∧ ent.version = hdr.version then
      (ent, checkFile repair v earlier ent hdr st)
    else match rewriteRecord repair ent hdr .disagreesWithHeader st with
      | (none, st) => (ent, st)
      | (some ent, st) => (ent, checkFile repair v earlier ent hdr st)

/-- One round of the loop over the entries. -/
def checkEntry (repair : Bool) (v : FsckVolume) (earlier : List RsxDirent) (ent : RsxDirent) (st : FsckState) :
    RsxDirent × FsckState :=
  let st := st.check
  if ent.fid.num = 0 ∨ v.home.fmax < ent.fid.num then (ent, dropRecord repair ent .invalidFid st)
  else match entrySlot st.img v.home ent with
    | none => (ent, dropRecord repair ent .missingHeader st)
    | some slotHdr =>
      let (fixed, st) := if slotHdr.fid = ent.fid then (some ent, st)
        else rewriteRecord repair ent slotHdr .rvnDisagrees st
      match fixed with
      | none => (ent, st)
      | some ent =>
        if slotHdr.segmentNumber ≠ 0 then (ent, dropRecord repair ent .nonPrimarySegment st)
        else checkChain repair v earlier ent slotHdr.fid st

def checkEntries (repair : Bool) (v : FsckVolume) : List RsxDirent → List RsxDirent → FsckState → FsckState
  | _, [], st => st
  | earlier, ent :: rest, st =>
    let (ent, st) := checkEntry repair v earlier ent st
    checkEntries repair v (earlier ++ [ent]) rest st

/-! ## The index file -/

/-- Notes which headers other headers go on with. -/
def predecessors (img : RsxImage) (home : RsxHome) (index : Buffer) : List Nat → (Nat → Nat) → (Nat → Nat)
  | [], pred => pred
  | n :: rest, pred =>
    let pred := if indexBitmapTest index (indexSizeBytes home) n then
        match readHeaderSlot img home n with
        | .error _ => pred
        | .ok hdr =>
          if hdr.nextFid ≠ .null ∧ hdr.nextFid.num ≤ home.fmax then
            Function.update pred hdr.nextFid.num hdr.nextFid.seq
          else pred
      else pred
    predecessors img home index rest pred

/-- Gives back what an orphan header holds. -/
def releaseOrphan (v : FsckVolume) (hdr : RsxHeader) (cannot : RsxIssue) (st : FsckState) : FsckState :=
  match releaseHeaderChainAllocation hdr st.index (indexSizeBytes v.home) st.storage v.storageSize v.unitBlocks with
  | (.error _, index, storage) => { st with index, storage }.fatalIssue none cannot
  | (.ok (), index, storage) => { st with index, storage, indexDirty := true, storageDirty := true }.countRepaired

/-- One round of the loop over the file numbers. -/
def checkSlot (repair : Bool) (v : FsckVolume) (n : Nat) (st : FsckState) : FsckState :=
  if indexBitmapTest st.index (indexSizeBytes v.home) n = false then st
  else
    let st := st.check
    match readHeaderSlot st.img v.home n with
    | .error _ =>
      let st := st.issue none (.slotInvalid n)
      if repair then
        { st with index := indexBitmapSet st.index (indexSizeBytes v.home) n false, indexDirty := true }.countRepaired
      else st.countFatal
    | .ok hdr =>
      if st.seenSeq n = hdr.fid.seq then st
      else if hdr.segmentNumber ≠ 0 ∧ st.predSeq n = hdr.fid.seq then st
      else
        let (found, cache) := cachedLookup st.img st.cache hdr.fid
        let st := { st with cache }
        match found with
        | .error _ =>
          let st := st.issue none (.orphanInconsistent hdr.fid)
          if repair then
            let predSeq := if hdr.nextFid ≠ .null ∧ hdr.nextFid.num ≤ v.home.fmax then
                Function.update st.predSeq hdr.nextFid.num 0
              else st.predSeq
            releaseOrphan v hdr .cannotFreeSegment { st with predSeq }
          else st.countFatal
        | .ok chainHdr =>
          let st := { st with seenSeq := markSeen v.home.fmax chainHdr.headerFids st.seenSeq }
          let st := st.issue none (.orphan chainHdr.fid)
          if repair then releaseOrphan v chainHdr .cannotFreeChain st else st

def checkSlots (repair : Bool) (v : FsckVolume) (nums : List Nat) (st : FsckState) : FsckState :=
  nums.foldl (fun st n => checkSlot repair v n st) st

def writeRepairs (repair : Bool) (home : RsxHome) (bitmapHdr : RsxHeader) (storageSize : Nat) (st : FsckState) :
    RsxImage :=
  let img := if repair ∧ st.indexDirty then writeIndexBitmap st.img home st.index else st.img
  if repair ∧ st.storageDirty then writeHeaderData img bitmapHdr st.storage storageSize else img

def emptyReport : RsxFsckReport := ⟨0, 0, 0, 0, []⟩

def rsx11Fsck (img : RsxImage) (repair : Bool) : RsxResult RsxFsckReport :=
  RsxResult.after img (rsx11ReadHome img) fun home =>
    if home.vlev ≠ 0o401 then (.error .einval, img)
    else RsxResult.after img (loadAllocationState img home) fun a =>
      let st : FsckState := {
        img, cache := ⟨some home, [a.bitmapHdr]⟩, report := emptyReport, index := a.index, storage := a.storage,
        indexDirty := false, storageDirty := false, seenSeq := fun _ => 0, predSeq := fun _ => 0 }
      match collectReachableEntries repair st with
      | (.error e, st) => (.error e, st.img)
      | (.ok entries, st) =>
        let v : FsckVolume := ⟨home, a.storageSize, a.unitBlocks⟩
        let st := { st with predSeq := predecessors st.img home st.index (List.range' 1 home.fmax) st.predSeq }
        let st := checkEntries repair v [] entries st
        let st := checkSlots repair v (List.range' 1 home.fmax) st
        (.ok st.report, writeRepairs repair home a.bitmapHdr a.storageSize st)

end K1801.Tools.Rsx11
