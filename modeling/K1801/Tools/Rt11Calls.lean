import K1801.Tools.Rt11fs

/-! # The calls on RT-11 volumes

Each call walks the directory, changes one segment at a time and answers at the first segment that decides.
-/

namespace K1801.Tools

open Core Library

/-! ## Looking up -/

/-- The entries of a segment with their areas, `none` for the end mark if the loop runs out of entries. -/
def Rt11Segment.scan (seg : Rt11Segment) (layout : Rt11Layout) : Rt11Scan :=
  rt11Scan seg.buf layout.entryWords layout.maxEntries 0

def Rt11Segment.placed (seg : Rt11Segment) (layout : Rt11Layout) : List (Rt11Entry × Extent) :=
  rt11Place seg.hdr.dataStartBlock.toNat (seg.scan layout).entries

/-- A file of the directory: its entry, its blocks, the segment and index of the entry. -/
structure Rt11Dirent where
  entry : Rt11Entry
  area : Extent
  segment : Nat
  entryIndex : Nat

def rt11SegmentFiles (seg : Rt11Segment) (layout : Rt11Layout) : List Rt11Dirent :=
  (((seg.placed layout).zipIdx).filter fun p => p.1.1.isFile).map fun p => ⟨p.1.1, p.1.2, seg.segNum, p.2⟩

def rt11ReadDirVisit (seg : Rt11Segment) (list : List Rt11Dirent) (img : Rt11Image) :
    Rt11Result (List Rt11Dirent ⊕ Empty) :=
  match rt11EntryLayout seg.hdr with
  | .error e => (.error e, img)
  | .ok layout => (.ok (.inl (list ++ rt11SegmentFiles seg layout)), img)

def rt11ReadDirEntries (img : Rt11Image) (dirStart : Nat) : Except Errno (List Rt11Dirent) :=
  match rt11WalkLoop rt11ReadDirVisit (rt11WalkReset dirStart) [] img with
  | (.error e, _) => .error e
  | (.ok (.inl (list, _)), _) => .ok list

def rt11ReadDirectory (img : Rt11Image) : Except Errno (List Rt11Dirent) :=
  match rt11ReadHome img with
  | .error e => .error e
  | .ok dirStart => rt11ReadDirEntries img dirStart

def rt11FindVisit (name : Rt11Name) (seg : Rt11Segment) (_ : Unit) (img : Rt11Image) :
    Rt11Result (Unit ⊕ Rt11Dirent) :=
  match rt11EntryLayout seg.hdr with
  | .error e => (.error e, img)
  | .ok layout =>
    match (rt11SegmentFiles seg layout).find? fun d => d.entry.name = name with
    | some d => (.ok (.inr d), img)
    | none => (.ok (.inl ()), img)

def rt11FindFile (img : Rt11Image) (name : Rt11Name) : Except Errno Rt11Dirent :=
  match rt11WalkBegin img with
  | .error e => .error e
  | .ok walk =>
    match rt11WalkLoop (rt11FindVisit name) walk () img with
    | (.error e, _) => .error e
    | (.ok (.inr d), _) => .ok d
    | (.ok (.inl _), _) => .error .enoent

/-! ## Adding -/

/-- The entries from `insertIndex` to the end mark move up by one; the gap is cleared. -/
def rt11InsertEntry (entryWords maxEntries insertIndex eosIndex : Nat) (seg : SegBuf) : Option SegBuf :=
  if maxEntries - 1 ≤ eosIndex then none
  else if eosIndex + 1 < insertIndex then none
  else
    let src := 5 + insertIndex * entryWords
    let stop := 5 + (eosIndex + 1) * entryWords
    some fun w =>
      if src ≤ w ∧ w < src + entryWords then 0
      else if src + entryWords ≤ w ∧ w < stop + entryWords then seg (w - entryWords)
      else seg w

/-- A block of a host file, filled with zeros behind its end. -/
def rt11HostBlock (file : List Byte) (i : Nat) : Block := fun w =>
  (file.getD (512 * i + 2 * w) 0).setWidth 16 ||| ((file.getD (512 * i + 2 * w + 1) 0).setWidth 16 <<< 8)

def rt11NeededBlocks (file : List Byte) : Nat := max ((file.length + 511) / 512 % 2 ^ 32) 1

/-- `fwrite` of blocks one after the other, from where the file stands. -/
def Rt11Image.putData (img : Rt11Image) (abs count : Nat) (data : Nat → Block) : Rt11Image :=
  { img with blocks := fun b => if abs ≤ b ∧ b < abs + count then data (b - abs) else img.blocks b }

/-- The first empty area that takes the file, with its index. -/
def rt11Candidate (placed : List (Rt11Entry × Extent)) (needed : Nat) : Option ((Rt11Entry × Extent) × Nat) :=
  placed.zipIdx.find? fun p => p.1.1.isEmpty && needed ≤ p.1.1.length.toNat

/-- What the candidate becomes: the file, and an empty area for what is left. -/
def rt11Split (layout : Rt11Layout) (scan : Rt11Scan) (index : Nat) (file : Rt11Entry) (remaining : Nat)
    (seg : SegBuf) : Option SegBuf :=
  if 0 < remaining then
    match scan.eos with
    | none => none
    | some _ =>
      match rt11InsertEntry layout.entryWords layout.maxEntries (index + 1) scan.entries.length seg with
      | none => none
      | some seg =>
        let rest := Rt11Entry.blank rt11EMpty (BitVec.ofNat 16 remaining) layout.entryWords
        some (rt11WriteEntry layout.entryWords index file (rt11WriteEntry layout.entryWords (index + 1) rest seg))
  else some (rt11WriteEntry layout.entryWords index file seg)

/-- `rt11_write_entry` of a permanent file. -/
def rt11FileEntry (name : Rt11Name) (needed : Nat) (date : Word) (entryWords : Nat) : Rt11Entry :=
  { Rt11Entry.blank rt11EPerm (BitVec.ofNat 16 needed) entryWords with name := name, date := date }

def rt11AddVisit (file : List Byte) (name : Rt11Name) (date : Word) (seg : Rt11Segment) (_ : Unit)
    (img : Rt11Image) : Rt11Result (Unit ⊕ Unit) :=
  match rt11EntryLayout seg.hdr with
  | .error e => (.error e, img)
  | .ok layout =>
    let needed := rt11NeededBlocks file
    match rt11Candidate (seg.placed layout) needed with
    | none => (.ok (.inl ()), img)
    | some ((entry, area), index) =>
      if img.volumeBlocks < area.start + needed then (.error .enospc, img)
      else
        match rt11Seek img area.start with
        | .error e => (.error e, img)
        | .ok abs =>
          let img := img.putData abs needed (rt11HostBlock file)
          match rt11Split layout (seg.scan layout) index (rt11FileEntry name needed date layout.entryWords)
              (entry.length.toNat - needed) seg.buf with
          | none => (.error .enospc, img)
          | some buf =>
            match rt11WriteSegment img seg.segBlock buf with
            | (.error e, img) => (.error e, img)
            | (.ok _, img) => (.ok (.inr ()), img)

/-- What a call that changes one segment answers at the end of the walk. -/
def rt11Settle {γ : Type} (none : Errno) : Rt11Result ((γ × Rt11Walk) ⊕ Unit) → Rt11Result Unit
  | (.error e, img) => (.error e, img)
  | (.ok (.inr _), img) => (.ok (), img)
  | (.ok (.inl _), img) => (.error none, img)

/-- `rt11_date_now` is the parameter `date`. -/
def rt11AddFile (img : Rt11Image) (file : List Byte) (name : Rt11Name) (date : Word) : Rt11Result Unit :=
  match rt11FindFile img name with
  | .ok _ => (.error .eexist, img)
  | .error _ =>
    match rt11WalkBegin img with
    | .error e => (.error e, img)
    | .ok walk => rt11Settle .enospc (rt11WalkLoop (rt11AddVisit file name date) walk () img)

/-! ## Removing and protecting -/

/-- The body of the calls that change the first entry with a name. -/
def rt11ChangeVisit (name : Rt11Name) (change : Nat → Rt11Layout → Rt11Entry → Except Errno (SegBuf → SegBuf))
    (seg : Rt11Segment) (_ : Unit) (img : Rt11Image) : Rt11Result (Unit ⊕ Unit) :=
  match rt11EntryLayout seg.hdr with
  | .error e => (.error e, img)
  | .ok layout =>
    match (seg.scan layout).entries.zipIdx.find? fun p => p.1.isFile && p.1.name = name with
    | none => (.ok (.inl ()), img)
    | some (entry, index) =>
      match change index layout entry with
      | .error e => (.error e, img)
      | .ok edit =>
        match rt11WriteSegment img seg.segBlock (edit seg.buf) with
        | (.error e, img) => (.error e, img)
        | (.ok _, img) => (.ok (.inr ()), img)

def rt11RemoveFile (img : Rt11Image) (name : Rt11Name) (force : Bool) : Rt11Result Unit :=
  match rt11WalkBegin img with
  | .error e => (.error e, img)
  | .ok walk =>
    let remove (index : Nat) (layout : Rt11Layout) (entry : Rt11Entry) : Except Errno (SegBuf → SegBuf) :=
      if entry.status &&& rt11EProt ≠ 0 ∧ !force then .error .eacces
      else .ok (rt11WriteEntry layout.entryWords index (.blank rt11EMpty entry.length layout.entryWords))
    rt11Settle .enoent (rt11WalkLoop (rt11ChangeVisit name remove) walk () img)

def rt11SetProtect (img : Rt11Image) (name : Rt11Name) (protect : Bool) : Rt11Result Unit :=
  match rt11WalkBegin img with
  | .error e => (.error e, img)
  | .ok walk =>
    let set (index : Nat) (layout : Rt11Layout) (entry : Rt11Entry) : Except Errno (SegBuf → SegBuf) :=
      if protect ∧ entry.status &&& rt11EPerm = 0 then .error .einval
      else
        let status := if protect then entry.status ||| rt11EProt else entry.status &&& ~~~rt11EProt
        .ok fun seg => Function.update seg (5 + index * layout.entryWords) status
    rt11Settle .enoent (rt11WalkLoop (rt11ChangeVisit name set) walk () img)

/-! ## Squeezing -/

/-- The move of every file to the end of the one before; where the next one would go. -/
def rt11MoveFiles : List (Rt11Entry × Extent) → Nat → Rt11Image → Rt11Result Nat
  | [], newBlock, img => (.ok newBlock, img)
  | (_, area) :: rest, newBlock, img =>
    if area.len = 0 then rt11MoveFiles rest newBlock img
    else if area.start ≠ newBlock then
      match rt11MoveBlocks img area.start newBlock area.len with
      | (.error e, img) => (.error e, img)
      | (.ok _, img) => rt11MoveFiles rest (newBlock + area.len) img
    else rt11MoveFiles rest (newBlock + area.len) img

/-- What the lengths of entries add up to. -/
def rt11TotalLen (entries : List Rt11Entry) : Nat := (entries.map fun e => e.length.toNat).sum

/-- The segment with the files, one empty area for the rest and the end mark. -/
def rt11SqueezedBuf (layout : Rt11Layout) (files : List Rt11Entry) (remaining : Nat) (seg : SegBuf) : SegBuf :=
  let free := if 0 < remaining then [Rt11Entry.blank rt11EMpty (BitVec.ofNat 16 remaining) layout.entryWords] else []
  rt11WriteEntries layout.entryWords 0 (files ++ free ++ [Rt11Entry.blank rt11EEos 0 layout.entryWords])
    fun w => if w < 5 then seg w else 0

def rt11SqueezeSegment (img : Rt11Image) (dirStart segNum : Nat) : Rt11Result Unit :=
  match rt11LoadSegment img dirStart segNum with
  | .error e => (.error e, img)
  | .ok seg =>
    match rt11EntryLayout seg.hdr with
    | .error e => (.error e, img)
    | .ok layout =>
      let scan := seg.scan layout
      match scan.eos with
      | none => (.error .einval, img)
      | some eos =>
        if scan.entries.any Rt11Entry.isTent then (.error .enotsup, img)
        else if !scan.entries.any Rt11Entry.isEmpty then (.ok (), img)
        else
          let files := (seg.placed layout).filter fun p => p.1.isFile
          match rt11MoveFiles files seg.hdr.dataStartBlock.toNat img with
          | (.error e, img) => (.error e, img)
          | (.ok _, img) =>
            let totalLen := rt11TotalLen scan.entries + eos.length.toNat
            let sumFiles := rt11TotalLen (files.map Prod.fst)
            if totalLen < sumFiles then (.error .einval, img)
            else
              let remaining := totalLen - sumFiles
              if 0xFFFF < remaining then (.error .erange, img)
              else if 0 < remaining ∧ layout.maxEntries ≤ files.length + 1 then (.error .enospc, img)
              else
                rt11WriteSegment img seg.segBlock
                  (rt11SqueezedBuf layout (files.map Prod.fst) remaining seg.buf)

def rt11SqueezeVisit (dirStart : Nat) (seg : Rt11Segment) (_ : Unit) (img : Rt11Image) : Rt11Result (Unit ⊕ Empty) :=
  match rt11SqueezeSegment img dirStart seg.segNum with
  | (.error e, img) => (.error e, img)
  | (.ok _, img) => (.ok (.inl ()), img)

def rt11Squeeze (img : Rt11Image) : Rt11Result Unit :=
  match rt11WalkBegin img with
  | .error e => (.error e, img)
  | .ok walk =>
    match rt11WalkLoop (rt11SqueezeVisit walk.dirStart) walk () img with
    | (.error e, img) => (.error e, img)
    | (.ok (.inl (_, walk)), img) => if walk.looped then (.error .einval, img) else (.ok (), img)

end K1801.Tools
