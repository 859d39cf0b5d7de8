import K1801.Tools.Rsx11Update

/-! # Making an ODS-1 volume -/

namespace K1801.Tools.Rsx11

open Core Library Buffer

def toUpper (c : Char) : Byte := BitVec.ofNat 8 c.toUpper.toNat

/-- `copy_upper_zero_padded`, `copy_upper_space_padded` -/
def copyUpper (dst : Buffer) (off len : Nat) (fill : Byte) (src : List Char) : Buffer :=
  paste dst off len fun i => (src.map toUpper).getD i fill

/-- `build_home_block`; `created` is the date of `format_volume_date`. -/
def buildHomeBlock (ibsz iblb fmax : Nat) (label : List Char) (created : Buffer) : Buffer :=
  let block := putLe16 (putHiword32 (putLe16 zero homeOffIbsz ibsz) homeOffIblb iblb) homeOffFmax fmax
  let block := putLe16 (putLe16 (putLe16 block homeOffSbcl 1) homeOffDvty 0) homeOffVlev 0o401
  let block := copyUpper block homeOffVnam 12 0 label
  let block := putLe16 (putLe16 (putLe16 block homeOffVown 0o401) homeOffVpro 0) homeOffVcha 0o30
  let block := putLe16 block homeOffDfpr 0o160000
  let block := put (put (put block homeOffWisz 7) homeOffFiex 5) homeOffLruc 3
  let block := paste block homeOffVdat 14 created
  let block := copyUpper block homeOffIndn 12 0x20 label
  let block := paste block homeOffIndo 12 (ofList (asciiBytes "[001,001]   ".toList))
  let block := paste block homeOffIndf 12 (ofList files11Id)
  let block := putLe16 block homeOffChk1 (checksumWords block (homeOffChk1 / 2))
  putLe16 block homeOffChk2 (headerChecksum block)

def defaultFmaxForBlocks (totalBlocks : Nat) : Nat := min (max (totalBlocks / 16) 16) 1024

def initStorageBitmap (size totalBlocks : Nat) : Buffer :=
  if size < 2 * 512 then zero
  else
    paste (put zero 3 (BitVec.ofNat 8 ((totalBlocks + 4095) / 4096))) 512 (size - 512)
      fun _ => 0xff#8

/-- The free blocks that bitmap block `i` shows. -/
def countFree (data : Buffer) (size totalBlocks i : Nat) : Nat :=
  (List.range' (4096 * i) (min (4096 * i + 4096) totalBlocks - 4096 * i)).countP (storageBitmapIsFree data size)

/-- The loop of `update_storage_bitmap_control`, which counts in the bitmap that it does not change. -/
def putFreeCounts (data : Buffer) (size totalBlocks : Nat) : Nat → Buffer
  | 0 => data
  | n + 1 =>
    putLe16 (putLe16 (putFreeCounts data size totalBlocks n) (4 + 4 * n) (countFree data size totalBlocks n))
      (4 + 4 * n + 2) 0

def updateStorageBitmapControl (data : Buffer) (size totalBlocks : Nat) : Buffer :=
  let bitmapBlocks := (data 3).toNat
  let unitOff := 4 + 4 * bitmapBlocks
  if size < 512 ∨ 512 < unitOff + 4 then data
  else putHiword32 (putFreeCounts data size totalBlocks bitmapBlocks) unitOff totalBlocks

abbrev badblkBlocks : Nat := 20

/-- Where `rsx11_mkfs` puts the parts of the volume. -/
structure MkfsLayout where
  blocks : Nat
  bitmapTotalBlocks : Nat
  fmax : Nat
  iblb : Nat
  dataStart : Nat

/-- The checks of `rsx11_mkfs` on `uint32_t` numbers. -/
def mkfsLayout (blocks : Nat) (label : List Char) : Except RsxErrno MkfsLayout :=
  if blocks = 0 then .error .einval
  else if 12 < label.length then .error .enametoolong
  else
    let bitmapDataBlocks := (blocks + 4095) % 4294967296 / 4096
    if bitmapDataBlocks = 0 ∨ 255 < bitmapDataBlocks then .error .efbig
    else
      let bitmapTotalBlocks := 1 + bitmapDataBlocks
      let fmax := defaultFmaxForBlocks blocks
      let iblb := (blocks + 1) % 4294967296 / 2
      let sysDataBlocks := bitmapTotalBlocks + badblkBlocks + 1
      if blocks < iblb + 1 + fmax + sysDataBlocks + 16 then .error .enospc
      else .ok { blocks, bitmapTotalBlocks, fmax, iblb, dataStart := iblb + 1 + fmax }

def MkfsLayout.home (l : MkfsLayout) : RsxHome := ⟨1, l.iblb, 0, 0, 0, 0⟩

def MkfsLayout.indexExtents (l : MkfsLayout) : List RsxExtent := [⟨0, 2⟩, ⟨l.iblb, 1 + l.fmax⟩]

/-- `rsx11_mkfs_file_t` -/
structure RsxMkfsFile where
  name : List Char
  ext : List Char
  fid : RsxFid
  startLbn : Nat
  blocks : Nat

def MkfsLayout.indexFile (l : MkfsLayout) : RsxMkfsFile :=
  ⟨"INDEXF".toList, "SYS".toList, ⟨1, 1, 0⟩, 0, 2 + 1 + l.fmax⟩

def MkfsLayout.bitmapFile (l : MkfsLayout) : RsxMkfsFile :=
  ⟨"BITMAP".toList, "SYS".toList, ⟨2, 2, 0⟩, l.dataStart + 1, l.bitmapTotalBlocks⟩

def MkfsLayout.badblkFile (l : MkfsLayout) : RsxMkfsFile :=
  ⟨"BADBLK".toList, "SYS".toList, ⟨3, 3, 0⟩, l.blocks - badblkBlocks, badblkBlocks⟩

def MkfsLayout.mfdFile (l : MkfsLayout) : RsxMkfsFile :=
  ⟨"000000".toList, "DIR".toList, ⟨4, 4, 0⟩, l.dataStart, 1⟩

def corimgFile : RsxMkfsFile := ⟨"CORIMG".toList, "SYS".toList, ⟨5, 5, 0⟩, 0, 0⟩

def MkfsLayout.files (l : MkfsLayout) : List RsxMkfsFile :=
  [l.indexFile, l.bitmapFile, l.badblkFile, l.mfdFile, corimgFile]

def sysHeader (f : RsxMkfsFile) : Except RsxErrno Buffer :=
  buildFileHeader f.fid.num f.fid.seq 0o401 0o160000 f.name f.ext 1 f.startLbn f.blocks (512 * f.blocks)

def MkfsLayout.indexHeader (l : MkfsLayout) : Except RsxErrno Buffer :=
  buildFileHeaderExtents 1 1 0o401 0o160000 l.indexFile.name l.indexFile.ext 1 l.indexExtents
    (512 * l.indexFile.blocks)

def MkfsLayout.mfdHeader (l : MkfsLayout) : Except RsxErrno Buffer :=
  buildDirectoryHeader 4 4 0o401 l.mfdFile.name l.mfdFile.startLbn

def corimgHeader : Except RsxErrno Buffer :=
  buildFileHeaderExtents 5 5 0o401 0o160000 corimgFile.name corimgFile.ext 1 [] 0

def buildMfd : List RsxMkfsFile → Nat → Buffer → Except RsxErrno Buffer
  | [], _, block => .ok block
  | f :: rest, off, block => do
    let rec_ ← buildDirRecord f.fid f.name f.ext 1
    buildMfd rest (off + 16) (paste block off 16 rec_)

def MkfsLayout.storageBitmap (l : MkfsLayout) : Buffer :=
  let size := 512 * l.bitmapTotalBlocks
  let data := initStorageBitmap size l.blocks
  let data := setBlocksFree data size (l.indexExtents.flatMap RsxExtent.lbns) false
  let data := setBlocksFree data size (List.range' l.bitmapFile.startLbn l.bitmapFile.blocks) false
  let data := setBlocksFree data size (List.range' l.badblkFile.startLbn l.badblkFile.blocks) false
  let data := setBlocksFree data size (List.range' l.mfdFile.startLbn l.mfdFile.blocks) false
  updateStorageBitmapControl data size l.blocks

def MkfsLayout.indexBitmap (l : MkfsLayout) : Buffer :=
  setFilesUsed zero 512 (l.files.map fun f => f.fid.num) true

/-- `rsx11_mkfs`: the image on a new file. -/
def rsx11Mkfs (blocks : BitVec 32) (label : Option CString) (created : Buffer) : Except RsxErrno RsxImage := do
  let volumeLabel := match label with
    | none => "RSXVOL".toList
    | some label => if label.chars = [] then "RSXVOL".toList else label.chars
  let l ← mkfsLayout blocks.toNat volumeLabel
  let img : RsxImage := ⟨DiskFile.blank (512 * l.blocks), 512 * l.blocks⟩
  let img := writeAt img (512 * rsx11HomeBlock) 512
    (buildHomeBlock 1 l.iblb l.fmax volumeLabel created)
  let header ← l.indexHeader
  let img ← writeHeaderSlot img l.home 1 header
  let header ← sysHeader l.bitmapFile
  let img ← writeHeaderSlot img l.home 2 header
  let header ← sysHeader l.badblkFile
  let img ← writeHeaderSlot img l.home 3 header
  let header ← l.mfdHeader
  let img ← writeHeaderSlot img l.home 4 header
  let header ← corimgHeader
  let img ← writeHeaderSlot img l.home 5 header
  let mfd ← buildMfd l.files 0 zero
  let img := writeAt img (512 * l.mfdFile.startLbn) 512 mfd
  let img := writeAt img (512 * l.bitmapFile.startLbn) (512 * l.bitmapTotalBlocks)
    l.storageBitmap
  return writeAt img (512 * l.iblb) 512 l.indexBitmap

end K1801.Tools.Rsx11
