import Mathlib.Data.BitVec
import Mathlib.Logic.Function.Basic
import Mathlib.Tactic.SplitIfs
import K1801.Core.State
import K1801.Library.Extents

/-! # RT-11 volumes

The directory of an RT-11 volume is a chain of segments of two blocks. An entry records a length only: where an
area lies is the sum of the lengths before it. Blocks are 256 little-endian words.
-/

namespace K1801.Tools

open Core Library

/-- What `errno` says after a call that failed. -/
inductive Errno where
  | einval
  | enotsup
  | enospc
  | erange
  | enoent
  | eacces
  | eexist
  deriving Repr, DecidableEq

abbrev Block := Fin 256 → Word

/-- The words of a directory segment. -/
abbrev SegBuf := Nat → Word

abbrev rt11DirStartBlock : Nat := 6
abbrev rt11DirSegmentBlocks : Nat := 2
abbrev rt11PartitionBlocks : Nat := 65536
abbrev rt11PartitionUsable : Nat := 65535
abbrev rt11PartitionMax : Nat := 256
abbrev rt11SegmentsMax : Nat := 31
abbrev rt11SegmentsSmall : Nat := 16
abbrev rt11SegmentsThreshold : Nat := 10000

abbrev rt11ETent : Word := 0o400
abbrev rt11EMpty : Word := 0o1000
abbrev rt11EPerm : Word := 0o2000
abbrev rt11EEos : Word := 0o4000
abbrev rt11EProt : Word := 0o100000

/-- `rt11_image_t` with the file behind it. `rt11_set_partition` keeps the volume inside the file. -/
structure Rt11Image where
  blocks : Nat → Block
  totalBlocks : Nat
  baseBlock : Nat
  partitionBlocks : Nat
  volumeBlocks : Nat
  partitionNumber : Nat
  fits : baseBlock + volumeBlocks ≤ totalBlocks
  usable : volumeBlocks ≤ rt11PartitionUsable

/-- What a call answers, and the image it leaves. -/
abbrev Rt11Result (α : Type) := Except Errno α × Rt11Image

/-! ## Blocks -/

def rt11Seek (img : Rt11Image) (block : Nat) : Except Errno Nat :=
  if img.volumeBlocks ≤ block then .error .einval
  else if img.totalBlocks ≤ img.baseBlock + block then .error .einval
  else .ok (img.baseBlock + block)

def Rt11Image.put (img : Rt11Image) (abs : Nat) (buf : Block) : Rt11Image :=
  { img with blocks := Function.update img.blocks abs buf }

def rt11ReadBlock (img : Rt11Image) (block : Nat) : Except Errno Block :=
  match rt11Seek img block with
  | .error e => .error e
  | .ok abs => .ok (img.blocks abs)

def rt11WriteBlock (img : Rt11Image) (block : Nat) (buf : Block) : Rt11Result Unit :=
  match rt11Seek img block with
  | .error e => (.error e, img)
  | .ok abs => (.ok (), img.put abs buf)

def rt11SegWords (lo hi : Block) : SegBuf := fun w =>
  if h : w < 256 then lo ⟨w, h⟩ else if h : w - 256 < 256 then hi ⟨w - 256, h⟩ else 0

def rt11ReadSegment (img : Rt11Image) (startBlock : Nat) : Except Errno SegBuf :=
  if img.volumeBlocks < startBlock + rt11DirSegmentBlocks then .error .einval
  else
    match rt11Seek img startBlock with
    | .error e => .error e
    | .ok abs => .ok (rt11SegWords (img.blocks abs) (img.blocks (abs + 1)))

def rt11WriteSegment (img : Rt11Image) (startBlock : Nat) (seg : SegBuf) : Rt11Result Unit :=
  if img.volumeBlocks < startBlock + rt11DirSegmentBlocks then (.error .einval, img)
  else
    match rt11Seek img startBlock with
    | .error e => (.error e, img)
    | .ok abs => (.ok (), (img.put abs fun i => seg i).put (abs + 1) fun i => seg (256 + i))

/-- The copy of `count` blocks from the lowest on. -/
def rt11CopyUp (img : Rt11Image) (src dst : Nat) : Nat → Rt11Result Unit
  | 0 => (.ok (), img)
  | n + 1 =>
    match rt11CopyUp img src dst n with
    | (.error e, img) => (.error e, img)
    | (.ok _, img) =>
      match rt11ReadBlock img (src + n) with
      | .error e => (.error e, img)
      | .ok buf => rt11WriteBlock img (dst + n) buf

/-- The copy of `count` blocks from the highest on. -/
def rt11CopyDown (src dst : Nat) : Nat → Rt11Image → Rt11Result Unit
  | 0, img => (.ok (), img)
  | n + 1, img =>
    match rt11ReadBlock img (src + n) with
    | .error e => (.error e, img)
    | .ok buf =>
      match rt11WriteBlock img (dst + n) buf with
      | (.error e, img) => (.error e, img)
      | (.ok _, img) => rt11CopyDown src dst n img

def rt11MoveBlocks (img : Rt11Image) (src dst count : Nat) : Rt11Result Unit :=
  if count = 0 ∨ src = dst then (.ok (), img)
  else if img.volumeBlocks < src + count ∨ img.volumeBlocks < dst + count then (.error .einval, img)
  else if dst < src then rt11CopyUp img src dst count
  else rt11CopyDown src dst count img

/-! ## Segments -/

/-- `rt11_dirseg_hdr_t` -/
structure Rt11DirsegHdr where
  totalSegments : Word
  nextSegment : Word
  highestSegment : Word
  extraBytes : Word
  dataStartBlock : Word
  deriving Repr, DecidableEq

def rt11ParseSegmentHeader (seg : SegBuf) : Rt11DirsegHdr := ⟨seg 0, seg 1, seg 2, seg 3, seg 4⟩

def rt11SegmentBlock (dirStart segNum : Nat) : Nat := dirStart + (segNum - 1) * rt11DirSegmentBlocks

/-- A segment as the walk meets it. -/
structure Rt11Segment where
  segNum : Nat
  buf : SegBuf
  hdr : Rt11DirsegHdr
  segBlock : Nat

def rt11LoadSegment (img : Rt11Image) (dirStart segNum : Nat) : Except Errno Rt11Segment :=
  match rt11ReadSegment img (rt11SegmentBlock dirStart segNum) with
  | .error e => .error e
  | .ok seg => .ok ⟨segNum, seg, rt11ParseSegmentHeader seg, rt11SegmentBlock dirStart segNum⟩

/-- `rt11_entry_layout`: the words of an entry and how many entries a segment holds. -/
structure Rt11Layout where
  entryWords : Nat
  maxEntries : Nat
  deriving Repr, DecidableEq

def rt11EntryLayout (hdr : Rt11DirsegHdr) : Except Errno Rt11Layout :=
  if hdr.extraBytes.toNat % 2 ≠ 0 then .error .einval
  else
    let entryWords := 7 + hdr.extraBytes.toNat / 2
    if 507 / entryWords = 0 then .error .einval else .ok ⟨entryWords, 507 / entryWords⟩

structure Rt11Name where
  name0 : Word
  name1 : Word
  ext : Word
  deriving Repr, DecidableEq

structure Rt11Entry where
  status : Word
  name : Rt11Name
  length : Word
  job : Word
  date : Word
  extra : List Word
  deriving Repr, DecidableEq

namespace Rt11Entry

def isEos (e : Rt11Entry) : Bool := e.status &&& rt11EEos ≠ 0

def isEmpty (e : Rt11Entry) : Bool := e.status &&& rt11EMpty ≠ 0

def isTent (e : Rt11Entry) : Bool := e.status &&& rt11ETent ≠ 0

def isFile (e : Rt11Entry) : Bool := e.status &&& (rt11EPerm ||| rt11ETent) ≠ 0

def words (e : Rt11Entry) : List Word :=
  [e.status, e.name.name0, e.name.name1, e.name.ext, e.length, e.job, e.date] ++ e.extra

/-- `rt11_write_entry` without a name clears the rest of the entry. -/
def blank (status length : Word) (entryWords : Nat) : Rt11Entry :=
  ⟨status, ⟨0, 0, 0⟩, length, 0, 0, List.replicate (entryWords - 7) 0⟩

end Rt11Entry

/-- The entry at an index. -/
def rt11Row (seg : SegBuf) (entryWords i : Nat) : Rt11Entry :=
  let base := 5 + i * entryWords
  ⟨seg base, ⟨seg (base + 1), seg (base + 2), seg (base + 3)⟩, seg (base + 4), seg (base + 5), seg (base + 6),
    (List.range (entryWords - 7)).map fun e => seg (base + 7 + e)⟩

/-- The entries up to the end of the segment, and the entry that marks it. -/
structure Rt11Scan where
  entries : List Rt11Entry
  eos : Option Rt11Entry

/-- The loop over the entries, for `n` of them from index `i` on. -/
def rt11Scan (seg : SegBuf) (entryWords : Nat) : Nat → Nat → Rt11Scan
  | 0, _ => ⟨[], none⟩
  | n + 1, i =>
    let e := rt11Row seg entryWords i
    if e.isEos then ⟨[], some e⟩
    else
      let rest := rt11Scan seg entryWords n (i + 1)
      ⟨e :: rest.entries, rest.eos⟩

/-- Every entry with the area it stands for, the first at `start`. -/
def rt11Place (start : Nat) : List Rt11Entry → List (Rt11Entry × Extent)
  | [] => []
  | e :: es => (e, ⟨start, e.length.toNat⟩) :: rt11Place (start + e.length.toNat) es

/-- `rt11_set_word` for the words of a list, from `base` on. -/
def rt11SetWords (base : Nat) : List Word → SegBuf → SegBuf
  | [], seg => seg
  | v :: vs, seg => rt11SetWords (base + 1) vs (Function.update seg base v)

def rt11WriteEntry (entryWords i : Nat) (e : Rt11Entry) (seg : SegBuf) : SegBuf :=
  rt11SetWords (5 + i * entryWords) e.words seg

/-- Entries written from index `i` on. -/
def rt11WriteEntries (entryWords : Nat) : Nat → List Rt11Entry → SegBuf → SegBuf
  | _, [], seg => seg
  | i, e :: es, seg => rt11WriteEntries entryWords (i + 1) es (rt11WriteEntry entryWords i e seg)

/-! ## The walk over the directory -/

def rt11ReadHome (img : Rt11Image) : Except Errno Nat :=
  match rt11ReadBlock img 1 with
  | .error e => .error e
  | .ok buf => .ok (if buf 0o352 = 0 then rt11DirStartBlock else (buf 0o352).toNat)

/-- The bytes of a block, the low byte of a word first. -/
def rt11BlockBytes (b : Block) : List Byte :=
  (List.range 512).map fun j => (b (Fin.ofNat 256 (j / 2)) >>> (8 * (j % 2))).setWidth 8

/-- `rt11_walk_state_t` -/
structure Rt11Walk where
  dirStart : Nat
  nextSeg : Nat
  totalSegments : Nat
  guard : Nat
  looped : Bool

def rt11WalkReset (dirStart : Nat) : Rt11Walk := ⟨dirStart, 1, 0, 0, false⟩

def rt11WalkBegin (img : Rt11Image) : Except Errno Rt11Walk :=
  match rt11ReadHome img with
  | .error e => .error e
  | .ok dirStart => .ok (rt11WalkReset dirStart)

/-- The state behind a segment. More segments than the directory has, and four, are a loop. -/
def Rt11Walk.advance (walk : Rt11Walk) (hdr : Rt11DirsegHdr) : Rt11Walk :=
  let total := if walk.totalSegments = 0 then max hdr.totalSegments.toNat 1 else walk.totalSegments
  let looped := walk.guard + 1 > total + 4
  ⟨walk.dirStart, if looped then 0 else hdr.nextSegment.toNat, total, walk.guard + 1, looped || walk.looped⟩

/-- `rt11_walk_next`; `none` at the end of the chain. -/
def rt11WalkNext (img : Rt11Image) (walk : Rt11Walk) : Except Errno (Option (Rt11Segment × Rt11Walk)) :=
  if walk.nextSeg = 0 then .ok none
  else
    match rt11LoadSegment img walk.dirStart walk.nextSeg with
    | .error e => .error e
    | .ok seg => .ok (some (seg, walk.advance seg.hdr))

/-- How far a walk can go on. -/
def Rt11Walk.left (walk : Rt11Walk) : Nat :=
  if walk.nextSeg = 0 then 0
  else if walk.totalSegments = 0 then 65542
  else walk.totalSegments + 5 - walk.guard + 1

theorem Rt11Walk.advance_left (walk : Rt11Walk) (hdr : Rt11DirsegHdr) (h : walk.nextSeg ≠ 0) :
    (walk.advance hdr).left < walk.left := by
  have hword := hdr.totalSegments.isLt
  obtain ⟨total, htotal⟩ : ∃ total,
      total = if walk.totalSegments = 0 then max hdr.totalSegments.toNat 1 else walk.totalSegments := ⟨_, rfl⟩
  have hpos : total ≠ 0 := by
    rw [htotal]
    split <;> omega
  have hbound : total + 5 - walk.guard + 1 ≤ walk.left := by
    rw [htotal, Rt11Walk.left, if_neg h]
    split <;> omega
  have hnext : (walk.advance hdr).left ≤
      if walk.guard + 1 > total + 4 then 0 else total + 5 - (walk.guard + 1) + 1 := by
    simp only [Rt11Walk.advance, Rt11Walk.left, ← htotal, hpos, if_false]
    split_ifs <;> omega
  split at hnext <;> omega

theorem rt11WalkNext_left {img : Rt11Image} {walk walk' : Rt11Walk} {seg : Rt11Segment}
    (h : rt11WalkNext img walk = .ok (some (seg, walk'))) : walk'.left < walk.left := by
  unfold rt11WalkNext at h
  split at h
  · cases h
  · rename_i hnext
    split at h
    · cases h
    · cases h
      exact walk.advance_left _ hnext

/-- The loop of every routine that walks the directory: `visit` is its body, which changes what the routine
collects and may end the loop with an answer. -/
def rt11WalkLoop {γ α : Type} (visit : Rt11Segment → γ → Rt11Image → Rt11Result (γ ⊕ α)) (walk : Rt11Walk) (g : γ)
    (img : Rt11Image) : Rt11Result ((γ × Rt11Walk) ⊕ α) :=
  match _hnext : rt11WalkNext img walk with
  | .error e => (.error e, img)
  | .ok none => (.ok (.inl (g, walk)), img)
  | .ok (some (seg, walk')) =>
    match visit seg g img with
    | (.error e, img) => (.error e, img)
    | (.ok (.inr a), img) => (.ok (.inr a), img)
    | (.ok (.inl g), img) => rt11WalkLoop visit walk' g img
termination_by walk.left
decreasing_by exact rt11WalkNext_left _hnext

end K1801.Tools
