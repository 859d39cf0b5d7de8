import K1801.Tools.Rt11fs

/-! # Making an RT-11 volume -/

namespace K1801.Tools

open Core

/-! ## Partitions -/

/-- `rt11_set_partition`: the volume that the other calls work on. -/
def rt11SetPartition (img : Rt11Image) (partition : Nat) : Rt11Result Unit :=
  if rt11PartitionMax ≤ partition then (.error .einval, img)
  else
    let base := partition * rt11PartitionBlocks
    if h : img.totalBlocks ≤ base then (.error .einval, img)
    else
      let partBlocks := min (img.totalBlocks - base) rt11PartitionBlocks
      (.ok (), {
        blocks := img.blocks
        totalBlocks := img.totalBlocks
        baseBlock := base
        partitionBlocks := partBlocks
        volumeBlocks := if rt11PartitionBlocks ≤ partBlocks then rt11PartitionUsable else partBlocks
        partitionNumber := partition
        fits := by
          change base + (if 65536 ≤ min (img.totalBlocks - base) 65536 then 65535
            else min (img.totalBlocks - base) 65536) ≤ img.totalBlocks
          split <;> omega
        usable := by
          change (if 65536 ≤ min (img.totalBlocks - base) 65536 then 65535
            else min (img.totalBlocks - base) 65536) ≤ 65535
          split <;> omega })

/-- `rt11_open_image` on a file of whole blocks. -/
def rt11OpenImage (blocks : Nat → Block) (totalBlocks : Nat) : Rt11Result Unit :=
  rt11SetPartition ⟨blocks, totalBlocks, 0, 0, 0, 0, Nat.zero_le _, Nat.zero_le _⟩ 0

/-! ## The home block -/

/-- `rt11_rad50_val` -/
def rt11Rad50Val (ch : Char) : Option Nat :=
  if ch = ' ' then some 0
  else if 'A' ≤ ch ∧ ch ≤ 'Z' then some (ch.toNat - 'A'.toNat + 1)
  else if '0' ≤ ch ∧ ch ≤ '9' then some (ch.toNat - '0'.toNat + 30)
  else if ch = '$' then some 27
  else if ch = '.' then some 28
  else if ch = '?' then some 29
  else none

/-- `rt11_rad50_encode3` -/
def rt11Rad50Encode3 (c0 c1 c2 : Char) : Word :=
  BitVec.ofNat 16 ((rt11Rad50Val c0).getD 0 * 1600 + (rt11Rad50Val c1).getD 0 * 40 + (rt11Rad50Val c2).getD 0)

abbrev rt11HomeClusterOff : Nat := 0o722
abbrev rt11HomeDirStartOff : Nat := 0o724
abbrev rt11HomeSysverOff : Nat := 0o726
abbrev rt11HomeVolidOff : Nat := 0o730
abbrev rt11HomeOwnerOff : Nat := 0o744
abbrev rt11HomeSysidOff : Nat := 0o760
abbrev rt11HomeCksumOff : Nat := 0o776
abbrev rt11HomeFieldLen : Nat := 12

/-- The bytes of a block. -/
abbrev BlockBytes := Nat → Byte

def rt11PutWord (wordIndex : Nat) (val : Word) (buf : BlockBytes) : BlockBytes :=
  let off := wordIndex * 2
  Function.update (Function.update buf off (val.setWidth 8)) (off + 1) ((val >>> 8).setWidth 8)

def rt11GetWord (buf : BlockBytes) (wordIndex : Nat) : Word :=
  let off := wordIndex * 2
  (buf off).setWidth 16 ||| ((buf (off + 1)).setWidth 16 <<< 8)

/-- A text up to its end, filled with spaces. -/
def rt11HomeSetAscii (off : Nat) (text : List Byte) (buf : BlockBytes) : BlockBytes := fun i =>
  if off ≤ i ∧ i < off + rt11HomeFieldLen then (text.takeWhile (· ≠ 0)).getD (i - off) 0x20 else buf i

/-- `rt11_mkfs_opts_t` -/
structure Rt11MkfsOpts where
  volid : Option (List Byte)
  owner : Option (List Byte)
  sysid : Option (List Byte)
  segments : Word

/-- The texts of `"RT11A"` and `"DECRT11A"`. -/
def rt11DefaultVolid : List Byte := [0x52, 0x54, 0x31, 0x31, 0x41]

def rt11DefaultSysid : List Byte := [0x44, 0x45, 0x43, 0x52, 0x54, 0x31, 0x31, 0x41]

def rt11HomeFields (opts : Rt11MkfsOpts) : BlockBytes :=
  let home := rt11PutWord (rt11HomeClusterOff / 2) 1 fun _ => 0
  let home := rt11PutWord (rt11HomeDirStartOff / 2) (BitVec.ofNat 16 rt11DirStartBlock) home
  let home := rt11PutWord (rt11HomeSysverOff / 2) (rt11Rad50Encode3 'V' '3' 'A') home
  let home := rt11HomeSetAscii rt11HomeVolidOff (opts.volid.getD rt11DefaultVolid) home
  let home := rt11HomeSetAscii rt11HomeOwnerOff (opts.owner.getD []) home
  let home := rt11HomeSetAscii rt11HomeSysidOff (opts.sysid.getD rt11DefaultSysid) home
  rt11PutWord (rt11HomeCksumOff / 2) 0 home

/-- The sum of the words but for the checksum itself. -/
def rt11HomeSum (home : BlockBytes) : Word :=
  (((List.range 256).filter (· ≠ rt11HomeCksumOff / 2)).map (rt11GetWord home)).sum

def rt11HomeBlock (opts : Rt11MkfsOpts) : Block :=
  let home := rt11HomeFields opts
  let home := rt11PutWord (rt11HomeCksumOff / 2) (rt11HomeSum home) home
  fun w => rt11GetWord home w

/-! ## The first segment -/

def rt11DefaultSegments (totalBlocks : Nat) : Nat :=
  if totalBlocks ≤ rt11SegmentsThreshold then rt11SegmentsSmall else rt11SegmentsMax

/-- How many segments the directory reserves. -/
def rt11TotalSegments (opts : Rt11MkfsOpts) (volumeBlocks : Nat) : Except Errno Nat :=
  let fit := (volumeBlocks - rt11DirStartBlock - 1) / rt11DirSegmentBlocks
  let maxSegments := if fit = 0 then 1 else fit
  if opts.segments ≠ 0 then
    if maxSegments < opts.segments.toNat then .error .enospc else .ok opts.segments.toNat
  else .ok (min (min (rt11DefaultSegments volumeBlocks) rt11SegmentsMax) maxSegments)

/-- One empty area and the end mark. -/
def rt11FirstSegment (totalSegments dataStart dataBlocks : Nat) : SegBuf :=
  rt11WriteEntries 7 0 [.blank rt11EMpty (BitVec.ofNat 16 dataBlocks) 7, .blank rt11EEos 0 7]
    (rt11SetWords 0 [BitVec.ofNat 16 totalSegments, 0, 1, 0, BitVec.ofNat 16 dataStart] fun _ => 0)

/-- A pass of the loop over the partitions; the blocks it makes usable. -/
def rt11MkfsPartition (opts : Rt11MkfsOpts) (totalBlocks p : Nat) (img : Rt11Image) : Rt11Result Nat :=
  let partBlocks := min (totalBlocks - p * rt11PartitionBlocks) rt11PartitionBlocks
  if partBlocks < rt11DirStartBlock + rt11DirSegmentBlocks then (.error .enospc, img)
  else
    match rt11SetPartition img p with
    | (.error e, img) => (.error e, img)
    | (.ok _, img) =>
      if img.volumeBlocks ≤ rt11DirStartBlock + rt11DirSegmentBlocks then (.error .enospc, img)
      else
        match rt11TotalSegments opts img.volumeBlocks with
        | .error e => (.error e, img)
        | .ok totalSegments =>
          let dataStart := rt11DirStartBlock + totalSegments * rt11DirSegmentBlocks
          if img.volumeBlocks ≤ dataStart then (.error .enospc, img)
          else
            let dataBlocks := img.volumeBlocks - dataStart
            match rt11WriteBlock img 1 (rt11HomeBlock opts) with
            | (.error e, img) => (.error e, img)
            | (.ok _, img) =>
              if 0xFFFF < dataBlocks then (.error .erange, img)
              else
                match rt11WriteSegment img rt11DirStartBlock
                    (rt11FirstSegment totalSegments dataStart dataBlocks) with
                | (.error e, img) => (.error e, img)
                | (.ok _, img) => (.ok dataBlocks, img)

/-- The partitions below `n`, the lowest first. -/
def rt11MkfsPartitions (opts : Rt11MkfsOpts) (totalBlocks : Nat) : Nat → Rt11Image → Rt11Result Nat
  | 0, img => (.ok 0, img)
  | n + 1, img =>
    match rt11MkfsPartitions opts totalBlocks n img with
    | (.error e, img) => (.error e, img)
    | (.ok usable, img) =>
      match rt11MkfsPartition opts totalBlocks n img with
      | (.error e, img) => (.error e, img)
      | (.ok dataBlocks, img) => (.ok (usable + dataBlocks), img)

/-- How many partitions `rt11_mkfs` makes; the sum is one of 32 bits. -/
def rt11Partitions (totalBlocks : BitVec 32) : Nat :=
  let partitions := (totalBlocks.toNat + rt11PartitionBlocks - 1) % 2 ^ 32 / rt11PartitionBlocks
  if partitions = 0 then 1 else partitions

/-- `rt11_mkfs`: the image at the end and the blocks for files. -/
def rt11Mkfs (totalBlocks : BitVec 32) (opts : Rt11MkfsOpts) : Except Errno (Rt11Image × Nat) :=
  if totalBlocks.toNat < rt11DirStartBlock + rt11DirSegmentBlocks then .error .einval
  else if rt11SegmentsMax < opts.segments.toNat then .error .erange
  else if rt11PartitionMax < rt11Partitions totalBlocks then .error .erange
  else
    match rt11OpenImage (fun _ _ => 0) totalBlocks.toNat with
    | (.error e, _) => .error e
    | (.ok _, img) =>
      match rt11MkfsPartitions opts totalBlocks.toNat (rt11Partitions totalBlocks) img with
      | (.error e, _) => .error e
      | (.ok usable, img) => .ok (img, usable)

end K1801.Tools
