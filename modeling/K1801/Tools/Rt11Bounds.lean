import K1801.Tools.Rt11Entries
import K1801.Tools.Rt11Fsck
import K1801.Tools.Rt11Squeeze

/-! # Walks over any directory

The same calls with a check at every access to the words of a segment, and with a limit on the segments that a walk
visits. Neither ever refuses, whatever the image holds.
-/

namespace K1801.Tools

open Core Library

/-- The words of a segment of 1024 bytes. -/
abbrev rt11SegmentWords : Nat := 512

/-- `rt11_get_word` inside a segment. -/
def rt11GetWordChecked (seg : SegBuf) (w : Nat) : Option Word :=
  if w < rt11SegmentWords then some (seg w) else none

/-- `rt11_set_word` inside a segment. -/
def rt11SetWordChecked (w : Nat) (v : Word) (seg : SegBuf) : Option SegBuf :=
  if w < rt11SegmentWords then some (Function.update seg w v) else none

def rt11RowChecked (seg : SegBuf) (entryWords i : Nat) : Option Rt11Entry := do
  let base := 5 + i * entryWords
  let status ← rt11GetWordChecked seg base
  let name0 ← rt11GetWordChecked seg (base + 1)
  let name1 ← rt11GetWordChecked seg (base + 2)
  let ext ← rt11GetWordChecked seg (base + 3)
  let length ← rt11GetWordChecked seg (base + 4)
  let job ← rt11GetWordChecked seg (base + 5)
  let date ← rt11GetWordChecked seg (base + 6)
  let extra ← (List.range (entryWords - 7)).mapM fun e => rt11GetWordChecked seg (base + 7 + e)
  some ⟨status, ⟨name0, name1, ext⟩, length, job, date, extra⟩

def rt11ScanChecked (seg : SegBuf) (entryWords : Nat) : Nat → Nat → Option Rt11Scan
  | 0, _ => some ⟨[], none⟩
  | n + 1, i => do
    let e ← rt11RowChecked seg entryWords i
    if e.isEos then some ⟨[], some e⟩
    else
      let rest ← rt11ScanChecked seg entryWords n (i + 1)
      some ⟨e :: rest.entries, rest.eos⟩

def rt11SetWordsChecked (base : Nat) : List Word → SegBuf → Option SegBuf
  | [], seg => some seg
  | v :: vs, seg => (rt11SetWordChecked base v seg).bind (rt11SetWordsChecked (base + 1) vs)

def rt11WriteEntryChecked (entryWords i : Nat) (e : Rt11Entry) (seg : SegBuf) : Option SegBuf :=
  rt11SetWordsChecked (5 + i * entryWords) e.words seg

def rt11WriteEntriesChecked (entryWords : Nat) : Nat → List Rt11Entry → SegBuf → Option SegBuf
  | _, [], seg => some seg
  | i, e :: es, seg =>
    (rt11WriteEntryChecked entryWords i e seg).bind (rt11WriteEntriesChecked entryWords (i + 1) es)

/-- The entries that move up, and the gap that is cleared, end inside the segment. -/
def rt11InsertEntryChecked (entryWords maxEntries insertIndex eosIndex : Nat) (seg : SegBuf) :
    Option (Option SegBuf) :=
  match rt11InsertEntry entryWords maxEntries insertIndex eosIndex seg with
  | none => some none
  | some seg' =>
    if 5 + (eosIndex + 2) * entryWords ≤ rt11SegmentWords ∧ 5 + (insertIndex + 1) * entryWords ≤ rt11SegmentWords then
      some (some seg')
    else none

/-! ## The operations never refuse -/

theorem rt11GetWordChecked_eq (seg : SegBuf) {w : Nat} (h : w < rt11SegmentWords) :
    rt11GetWordChecked seg w = some (seg w) := if_pos h

theorem rt11SetWordChecked_eq (v : Word) (seg : SegBuf) {w : Nat} (h : w < rt11SegmentWords) :
    rt11SetWordChecked w v seg = some (Function.update seg w v) := if_pos h

/-- An entry ends before the next one. -/
theorem rt11Entry_end {entryWords i n : Nat} (h : i < n) (hend : 5 + n * entryWords ≤ rt11SegmentWords) :
    5 + i * entryWords + entryWords ≤ rt11SegmentWords := by
  have hle := Nat.mul_le_mul_right entryWords (Nat.succ_le_of_lt h)
  rw [Nat.succ_eq_add_one, Nat.add_mul, Nat.one_mul] at hle
  omega

theorem mapM_some {α β : Type} {f : α → Option β} {g : α → β} {l : List α} (h : ∀ a ∈ l, f a = some (g a)) :
    l.mapM f = some (l.map g) := by
  induction l with
  | nil => rfl
  | cons a l ih =>
    rw [List.mapM_cons, h a List.mem_cons_self, ih fun b hb => h b (List.mem_cons_of_mem a hb)]
    rfl

theorem rt11RowChecked_eq (seg : SegBuf) {entryWords i : Nat} (hwords : 7 ≤ entryWords)
    (hend : 5 + i * entryWords + entryWords ≤ rt11SegmentWords) :
    rt11RowChecked seg entryWords i = some (rt11Row seg entryWords i) := by
  have hget : ∀ k, k < entryWords → rt11GetWordChecked seg (5 + i * entryWords + k) =
      some (seg (5 + i * entryWords + k)) := fun k hk => rt11GetWordChecked_eq seg (by omega)
  have hextra : ((List.range (entryWords - 7)).mapM fun e => rt11GetWordChecked seg (5 + i * entryWords + 7 + e)) =
      some ((List.range (entryWords - 7)).map fun e => seg (5 + i * entryWords + 7 + e)) := by
    apply mapM_some
    intro e he
    rw [List.mem_range] at he
    exact rt11GetWordChecked_eq seg (by omega)
  have hstatus := hget 0 (by omega)
  rw [Nat.add_zero] at hstatus
  unfold rt11RowChecked
  dsimp only
  rw [hstatus, hget 1 (by omega), hget 2 (by omega), hget 3 (by omega), hget 4 (by omega), hget 5 (by omega),
    hget 6 (by omega), hextra]
  rfl

theorem rt11ScanChecked_eq (seg : SegBuf) {entryWords : Nat} (hwords : 7 ≤ entryWords) (n : Nat) {i : Nat}
    (hend : 5 + (i + n) * entryWords ≤ rt11SegmentWords) :
    rt11ScanChecked seg entryWords n i = some (rt11Scan seg entryWords n i) := by
  induction n generalizing i with
  | zero => rfl
  | succ n ih =>
    have hsum : i + (n + 1) = i + 1 + n := by omega
    rw [rt11ScanChecked, rt11RowChecked_eq seg hwords (rt11Entry_end (by omega) hend), ih (hsum ▸ hend), rt11Scan]
    dsimp only [Option.bind_eq_bind, Option.bind_some]
    split <;> rfl

theorem rt11SetWordsChecked_eq {base : Nat} (vs : List Word) (seg : SegBuf)
    (h : base + vs.length ≤ rt11SegmentWords) :
    rt11SetWordsChecked base vs seg = some (rt11SetWords base vs seg) := by
  induction vs generalizing base seg with
  | nil => rfl
  | cons v vs ih =>
    rw [List.length_cons] at h
    rw [rt11SetWordsChecked, rt11SetWordChecked_eq v seg (by omega), Option.bind_some, ih _ (by omega)]
    rfl

theorem rt11WriteEntryChecked_eq {entryWords i n : Nat} {e : Rt11Entry} (he : e.Fits entryWords) (hi : i < n)
    (hend : 5 + n * entryWords ≤ rt11SegmentWords) (seg : SegBuf) :
    rt11WriteEntryChecked entryWords i e seg = some (rt11WriteEntry entryWords i e seg) := by
  have hstop := rt11Entry_end hi hend
  exact rt11SetWordsChecked_eq _ _ (by rw [he.words_length]; exact hstop)

theorem rt11WriteEntriesChecked_eq {entryWords i n : Nat} {es : List Rt11Entry} (hes : ∀ e ∈ es, e.Fits entryWords)
    (hi : i + es.length ≤ n) (hend : 5 + n * entryWords ≤ rt11SegmentWords) (seg : SegBuf) :
    rt11WriteEntriesChecked entryWords i es seg = some (rt11WriteEntries entryWords i es seg) := by
  induction es generalizing i seg with
  | nil => rfl
  | cons e es ih =>
    rw [List.length_cons] at hi
    rw [rt11WriteEntriesChecked, rt11WriteEntryChecked_eq (hes e List.mem_cons_self) (by omega) hend,
      Option.bind_some, ih (fun e' he' => hes e' (List.mem_cons_of_mem e he')) (by omega)]
    rfl

theorem rt11InsertEntryChecked_eq {entryWords maxEntries insertIndex eosIndex : Nat}
    (hend : 5 + maxEntries * entryWords ≤ rt11SegmentWords) (seg : SegBuf) :
    rt11InsertEntryChecked entryWords maxEntries insertIndex eosIndex seg =
      some (rt11InsertEntry entryWords maxEntries insertIndex eosIndex seg) := by
  unfold rt11InsertEntryChecked
  cases hinsert : rt11InsertEntry entryWords maxEntries insertIndex eosIndex seg with
  | none => rfl
  | some seg' =>
    have hinside : eosIndex + 2 ≤ maxEntries ∧ insertIndex + 1 ≤ maxEntries := by
      unfold rt11InsertEntry at hinsert
      split_ifs at hinsert
      omega
    have heos := Nat.mul_le_mul_right entryWords hinside.1
    have hins := Nat.mul_le_mul_right entryWords hinside.2
    exact if_pos ⟨by omega, by omega⟩

/-! ## The walk -/

/-- No walk visits more segments. -/
abbrev rt11WalkLimit : Nat := 65542

/-- The loop over the segments for `fuel` rounds; the body may refuse an access. -/
def rt11WalkRounds {γ α : Type} (visit : Rt11Segment → γ → Rt11Image → Option (Rt11Result (γ ⊕ α))) :
    Nat → Rt11Walk → γ → Rt11Image → Option (Rt11Result ((γ × Rt11Walk) ⊕ α))
  | 0, _, _, _ => none
  | fuel + 1, walk, g, img =>
    match rt11WalkNext img walk with
    | .error e => some (.error e, img)
    | .ok none => some (.ok (.inl (g, walk)), img)
    | .ok (some (seg, walk')) =>
      match visit seg g img with
      | none => none
      | some (.error e, img) => some (.error e, img)
      | some (.ok (.inr a), img) => some (.ok (.inr a), img)
      | some (.ok (.inl g), img) => rt11WalkRounds visit fuel walk' g img

def rt11WalkChecked {γ α : Type} (visit : Rt11Segment → γ → Rt11Image → Option (Rt11Result (γ ⊕ α)))
    (walk : Rt11Walk) (g : γ) (img : Rt11Image) : Option (Rt11Result ((γ × Rt11Walk) ⊕ α)) :=
  rt11WalkRounds visit (rt11WalkLimit + 1) walk g img

section Rounds

variable {γ α : Type} {checked : Rt11Segment → γ → Rt11Image → Option (Rt11Result (γ ⊕ α))}
  {visit : Rt11Segment → γ → Rt11Image → Rt11Result (γ ⊕ α)}
  (h : ∀ seg g img, checked seg g img = some (visit seg g img))
include h

/-- The segments that are left bound the rounds. -/
theorem rt11WalkRounds_eq (fuel : Nat) {walk : Rt11Walk} (hfuel : walk.left < fuel) (g : γ) (img : Rt11Image) :
    rt11WalkRounds checked fuel walk g img = some (rt11WalkLoop visit walk g img) := by
  induction fuel generalizing walk g img with
  | zero => cases hfuel
  | succ fuel ih =>
    rw [rt11WalkRounds, rt11WalkLoop]
    split
    · rename_i hn
      rw [hn]
    · rename_i hn
      rw [hn]
    · rename_i seg walk' hn
      have hless := rt11WalkNext_left hn
      rw [hn]
      dsimp only
      rw [h]
      rcases visit seg g img with ⟨e | ⟨g' | a⟩, img'⟩
      · rfl
      · exact ih (by omega) g' img'
      · rfl

theorem rt11WalkChecked_eq {walk : Rt11Walk} (hleft : walk.left ≤ rt11WalkLimit) (g : γ) (img : Rt11Image) :
    rt11WalkChecked checked walk g img = some (rt11WalkLoop visit walk g img) :=
  rt11WalkRounds_eq h _ (Nat.lt_succ_of_le hleft) g img

end Rounds

theorem rt11WalkReset_left (dirStart : Nat) : (rt11WalkReset dirStart).left ≤ rt11WalkLimit := Nat.le_refl _

theorem rt11WalkBegin_left {img : Rt11Image} {walk : Rt11Walk} (h : rt11WalkBegin img = .ok walk) :
    walk.left ≤ rt11WalkLimit := by
  unfold rt11WalkBegin at h
  split at h
  · cases h
  · cases h
    exact rt11WalkReset_left _

/-! ## The calls with their checks -/

def rt11FilesOf (seg : Rt11Segment) (scan : Rt11Scan) : List Rt11Dirent :=
  (((rt11Place seg.hdr.dataStartBlock.toNat scan.entries).zipIdx).filter fun p => p.1.1.isFile).map fun p =>
    ⟨p.1.1, p.1.2, seg.segNum, p.2⟩

def Rt11Segment.scanChecked (seg : Rt11Segment) (layout : Rt11Layout) : Option Rt11Scan :=
  rt11ScanChecked seg.buf layout.entryWords layout.maxEntries 0

def rt11ReadDirChecked (seg : Rt11Segment) (list : List Rt11Dirent) (img : Rt11Image) :
    Option (Rt11Result (List Rt11Dirent ⊕ Empty)) :=
  match rt11EntryLayout seg.hdr with
  | .error e => some (.error e, img)
  | .ok layout => do
    let scan ← seg.scanChecked layout
    some (.ok (.inl (list ++ rt11FilesOf seg scan)), img)

def rt11ReadDirectoryChecked (img : Rt11Image) : Option (Except Errno (List Rt11Dirent)) :=
  match rt11ReadHome img with
  | .error e => some (.error e)
  | .ok dirStart => do
    match ← rt11WalkChecked rt11ReadDirChecked (rt11WalkReset dirStart) [] img with
    | (.error e, _) => some (.error e)
    | (.ok (.inl (list, _)), _) => some (.ok list)

def rt11FindChecked (name : Rt11Name) (seg : Rt11Segment) (_ : Unit) (img : Rt11Image) :
    Option (Rt11Result (Unit ⊕ Rt11Dirent)) :=
  match rt11EntryLayout seg.hdr with
  | .error e => some (.error e, img)
  | .ok layout => do
    let scan ← seg.scanChecked layout
    match (rt11FilesOf seg scan).find? fun d => d.entry.name = name with
    | some d => some (.ok (.inr d), img)
    | none => some (.ok (.inl ()), img)

def rt11FindFileChecked (img : Rt11Image) (name : Rt11Name) : Option (Except Errno Rt11Dirent) :=
  match rt11WalkBegin img with
  | .error e => some (.error e)
  | .ok walk => do
    match ← rt11WalkChecked (rt11FindChecked name) walk () img with
    | (.error e, _) => some (.error e)
    | (.ok (.inr d), _) => some (.ok d)
    | (.ok (.inl _), _) => some (.error .enoent)

def rt11SplitChecked (layout : Rt11Layout) (scan : Rt11Scan) (index : Nat) (file : Rt11Entry) (remaining : Nat)
    (seg : SegBuf) : Option (Option SegBuf) :=
  if 0 < remaining then
    match scan.eos with
    | none => some none
    | some _ => do
      match ← rt11InsertEntryChecked layout.entryWords layout.maxEntries (index + 1) scan.entries.length seg with
      | none => some none
      | some seg => do
        let rest := Rt11Entry.blank rt11EMpty (BitVec.ofNat 16 remaining) layout.entryWords
        let seg ← rt11WriteEntryChecked layout.entryWords (index + 1) rest seg
        let seg ← rt11WriteEntryChecked layout.entryWords index file seg
        some (some seg)
  else (rt11WriteEntryChecked layout.entryWords index file seg).map some

def rt11AddChecked (file : List Byte) (name : Rt11Name) (date : Word) (seg : Rt11Segment) (_ : Unit)
    (img : Rt11Image) : Option (Rt11Result (Unit ⊕ Unit)) :=
  match rt11EntryLayout seg.hdr with
  | .error e => some (.error e, img)
  | .ok layout => do
    let scan ← seg.scanChecked layout
    let needed := rt11NeededBlocks file
    match rt11Candidate (rt11Place seg.hdr.dataStartBlock.toNat scan.entries) needed with
    | none => some (.ok (.inl ()), img)
    | some ((entry, area), index) =>
      if img.volumeBlocks < area.start + needed then some (.error .enospc, img)
      else
        match rt11Seek img area.start with
        | .error e => some (.error e, img)
        | .ok abs => do
          let img := img.putData abs needed (rt11HostBlock file)
          match ← rt11SplitChecked layout scan index (rt11FileEntry name needed date layout.entryWords)
              (entry.length.toNat - needed) seg.buf with
          | none => some (.error .enospc, img)
          | some buf =>
            match rt11WriteSegment img seg.segBlock buf with
            | (.error e, img) => some (.error e, img)
            | (.ok _, img) => some (.ok (.inr ()), img)

def rt11AddFileChecked (img : Rt11Image) (file : List Byte) (name : Rt11Name) (date : Word) :
    Option (Rt11Result Unit) := do
  match ← rt11FindFileChecked img name with
  | .ok _ => some (.error .eexist, img)
  | .error _ =>
    match rt11WalkBegin img with
    | .error e => some (.error e, img)
    | .ok walk => (rt11WalkChecked (rt11AddChecked file name date) walk () img).map (rt11Settle .enospc)

def rt11ChangeChecked (name : Rt11Name)
    (change : Nat → Rt11Layout → Rt11Entry → Except Errno (SegBuf → Option SegBuf)) (seg : Rt11Segment) (_ : Unit)
    (img : Rt11Image) : Option (Rt11Result (Unit ⊕ Unit)) :=
  match rt11EntryLayout seg.hdr with
  | .error e => some (.error e, img)
  | .ok layout => do
    let scan ← seg.scanChecked layout
    match scan.entries.zipIdx.find? fun p => p.1.isFile && p.1.name = name with
    | none => some (.ok (.inl ()), img)
    | some (entry, index) =>
      match change index layout entry with
      | .error e => some (.error e, img)
      | .ok edit => do
        let buf ← edit seg.buf
        match rt11WriteSegment img seg.segBlock buf with
        | (.error e, img) => some (.error e, img)
        | (.ok _, img) => some (.ok (.inr ()), img)

def rt11RemoveFileChecked (img : Rt11Image) (name : Rt11Name) (force : Bool) : Option (Rt11Result Unit) :=
  match rt11WalkBegin img with
  | .error e => some (.error e, img)
  | .ok walk =>
    let remove (index : Nat) (layout : Rt11Layout) (entry : Rt11Entry) :
        Except Errno (SegBuf → Option SegBuf) :=
      if entry.status &&& rt11EProt ≠ 0 ∧ !force then .error .eacces
      else .ok (rt11WriteEntryChecked layout.entryWords index (.blank rt11EMpty entry.length layout.entryWords))
    (rt11WalkChecked (rt11ChangeChecked name remove) walk () img).map (rt11Settle .enoent)

def rt11SetProtectChecked (img : Rt11Image) (name : Rt11Name) (protect : Bool) : Option (Rt11Result Unit) :=
  match rt11WalkBegin img with
  | .error e => some (.error e, img)
  | .ok walk =>
    let set (index : Nat) (layout : Rt11Layout) (entry : Rt11Entry) : Except Errno (SegBuf → Option SegBuf) :=
      if protect ∧ entry.status &&& rt11EPerm = 0 then .error .einval
      else
        let status := if protect then entry.status ||| rt11EProt else entry.status &&& ~~~rt11EProt
        .ok (rt11SetWordChecked (5 + index * layout.entryWords) status)
    (rt11WalkChecked (rt11ChangeChecked name set) walk () img).map (rt11Settle .enoent)

def rt11SqueezedBufChecked (layout : Rt11Layout) (files : List Rt11Entry) (remaining : Nat) (seg : SegBuf) :
    Option SegBuf :=
  let free := if 0 < remaining then [Rt11Entry.blank rt11EMpty (BitVec.ofNat 16 remaining) layout.entryWords] else []
  rt11WriteEntriesChecked layout.entryWords 0 (files ++ free ++ [Rt11Entry.blank rt11EEos 0 layout.entryWords])
    fun w => if w < 5 then seg w else 0

def rt11SqueezeSegmentChecked (img : Rt11Image) (dirStart segNum : Nat) : Option (Rt11Result Unit) :=
  match rt11LoadSegment img dirStart segNum with
  | .error e => some (.error e, img)
  | .ok seg =>
    match rt11EntryLayout seg.hdr with
    | .error e => some (.error e, img)
    | .ok layout => do
      let scan ← seg.scanChecked layout
      match scan.eos with
      | none => some (.error .einval, img)
      | some eos =>
        if scan.entries.any Rt11Entry.isTent then some (.error .enotsup, img)
        else if !scan.entries.any Rt11Entry.isEmpty then some (.ok (), img)
        else
          let files := (rt11Place seg.hdr.dataStartBlock.toNat scan.entries).filter fun p => p.1.isFile
          match rt11MoveFiles files seg.hdr.dataStartBlock.toNat img with
          | (.error e, img) => some (.error e, img)
          | (.ok _, img) =>
            let totalLen := rt11TotalLen scan.entries + eos.length.toNat
            let sumFiles := rt11TotalLen (files.map Prod.fst)
            if totalLen < sumFiles then some (.error .einval, img)
            else
              let remaining := totalLen - sumFiles
              if 0xFFFF < remaining then some (.error .erange, img)
              else if 0 < remaining ∧ layout.maxEntries ≤ files.length + 1 then some (.error .enospc, img)
              else do
                let buf ← rt11SqueezedBufChecked layout (files.map Prod.fst) remaining seg.buf
                some (rt11WriteSegment img seg.segBlock buf)

def rt11SqueezeVisitChecked (dirStart : Nat) (seg : Rt11Segment) (_ : Unit) (img : Rt11Image) :
    Option (Rt11Result (Unit ⊕ Empty)) := do
  match ← rt11SqueezeSegmentChecked img dirStart seg.segNum with
  | (.error e, img) => some (.error e, img)
  | (.ok _, img) => some (.ok (.inl ()), img)

def rt11SqueezeChecked (img : Rt11Image) : Option (Rt11Result Unit) :=
  match rt11WalkBegin img with
  | .error e => some (.error e, img)
  | .ok walk => do
    match ← rt11WalkChecked (rt11SqueezeVisitChecked walk.dirStart) walk () img with
    | (.error e, img) => some (.error e, img)
    | (.ok (.inl (_, walk)), img) => some (if walk.looped then (.error .einval, img) else (.ok (), img))

def rt11FsckSegmentChecked (img : Rt11Image) (dirStart segNum expectedLen : Nat) (repair : Bool) :
    Option (Rt11Result (List Rt11Finding)) :=
  match rt11LoadSegment img dirStart segNum with
  | .error e => some (.error e, img)
  | .ok seg =>
    match rt11EntryLayout seg.hdr with
    | .error _ => some (.ok [.invalidEntrySize segNum], img)
    | .ok layout => do
      let scan ← seg.scanChecked layout
      match scan.eos with
      | none => some (.ok [.missingEos segNum], img)
      | some eos =>
        let sum := rt11TotalLen scan.entries
        if expectedLen = 0 then some (.ok [], img)
        else if expectedLen < sum then some (.ok [.lengthsExceed segNum], img)
        else if sum + eos.length.toNat = expectedLen then some (.ok [], img)
        else
          let newLen := expectedLen - sum
          if repair ∧ newLen ≤ 0xFFFF then do
            let eosWord := 5 + scan.entries.length * layout.entryWords
            let buf ← rt11SetWordChecked (eosWord + 4) (BitVec.ofNat 16 newLen) seg.buf
            match rt11WriteSegment img seg.segBlock buf with
            | (.error e, img) => some (.error e, img)
            | (.ok _, img) => some (.ok [.fixedEos segNum eos.length.toNat newLen], img)
          else some (.ok [.eosMismatch segNum sum eos.length.toNat expectedLen], img)

/-- The check of one segment against the start of the next one. -/
def rt11FsckOneChecked (dirStart : Nat) (repair : Bool) (segNum dataStart : Nat) (rest : List (Nat × Nat))
    (img : Rt11Image) : Option (Rt11Result (List Rt11Finding)) :=
  match rt11ExpectedLen img segNum dataStart rest with
  | .error finding => some (.ok [finding], img)
  | .ok expectedLen => rt11FsckSegmentChecked img dirStart segNum expectedLen repair

def rt11FsckSegmentsChecked (dirStart : Nat) (repair : Bool) :
    List (Nat × Nat) → Rt11Image → Option (Rt11Result (List Rt11Finding))
  | [], img => some (.ok [], img)
  | (segNum, dataStart) :: rest, img => do
    match ← rt11FsckOneChecked dirStart repair segNum dataStart rest img with
    | (.error e, img) => some (.error e, img)
    | (.ok found, img) => do
      match ← rt11FsckSegmentsChecked dirStart repair rest img with
      | (.error e, img) => some (.error e, img)
      | (.ok found', img) => some (.ok (found ++ found'), img)

def rt11FsckChecked (img : Rt11Image) (repair : Bool) : Option (Rt11Result (List Rt11Finding)) :=
  match rt11WalkBegin img with
  | .error e => some (.error e, img)
  | .ok walk => do
    match ← rt11WalkChecked (fun seg segs img => some (rt11FsckVisit seg segs img)) walk [] img with
    | (.error e, img) => some (.error e, img)
    | (.ok (.inl (segs, last)), img) => do
      match ← rt11FsckSegmentsChecked walk.dirStart repair segs img with
      | (.error e, img) => some (.error e, img)
      | (.ok found, img) => some (.ok ((if last.looped then [.chainLoop] else []) ++ found), img)

/-! ## No check ever refuses -/

theorem Rt11Segment.scanChecked_eq (seg : Rt11Segment) {layout : Rt11Layout}
    (h : rt11EntryLayout seg.hdr = .ok layout) : seg.scanChecked layout = some (seg.scan layout) := by
  obtain ⟨hwords, hend⟩ := rt11EntryLayout_ok h
  exact rt11ScanChecked_eq seg.buf hwords _ (by rwa [Nat.zero_add])

/-- The entries of a segment are fewer than it has room for where an end mark follows them. -/
theorem Rt11Segment.scan_room (seg : Rt11Segment) (layout : Rt11Layout) :
    (seg.scan layout).entries.length ≤ layout.maxEntries ∧
      ((seg.scan layout).eos ≠ none → (seg.scan layout).entries.length < layout.maxEntries) :=
  rt11Scan_length _ _ _ _

theorem find?_zipIdx_lt {α : Type} {l : List α} {p : α × Nat → Bool} {a : α} {i : Nat}
    (h : l.zipIdx.find? p = some (a, i)) : i < l.length := by
  have hmem := List.mem_of_find?_eq_some h
  have hlt := (List.mem_zipIdx hmem).2.1
  omega

theorem rt11ReadDirChecked_eq (seg : Rt11Segment) (list : List Rt11Dirent) (img : Rt11Image) :
    rt11ReadDirChecked seg list img = some (rt11ReadDirVisit seg list img) := by
  unfold rt11ReadDirChecked rt11ReadDirVisit
  cases hlayout : rt11EntryLayout seg.hdr with
  | error e => rfl
  | ok layout =>
    dsimp only
    rw [seg.scanChecked_eq hlayout]
    rfl

theorem rt11FindChecked_eq (name : Rt11Name) (seg : Rt11Segment) (u : Unit) (img : Rt11Image) :
    rt11FindChecked name seg u img = some (rt11FindVisit name seg u img) := by
  unfold rt11FindChecked rt11FindVisit
  cases hlayout : rt11EntryLayout seg.hdr with
  | error e => rfl
  | ok layout =>
    have hfiles : rt11SegmentFiles seg layout = rt11FilesOf seg (seg.scan layout) := rfl
    dsimp only
    rw [seg.scanChecked_eq hlayout, hfiles]
    dsimp only [Option.bind_eq_bind, Option.bind_some]
    cases (rt11FilesOf seg (seg.scan layout)).find? fun d => d.entry.name = name with
    | none => rfl
    | some d => rfl

theorem rt11SplitChecked_eq {layout : Rt11Layout} {scan : Rt11Scan} {index : Nat} {file : Rt11Entry}
    (hwords : 7 ≤ layout.entryWords) (hend : 5 + layout.maxEntries * layout.entryWords ≤ rt11SegmentWords)
    (hindex : index < layout.maxEntries) (hfile : file.Fits layout.entryWords) (remaining : Nat) (seg : SegBuf) :
    rt11SplitChecked layout scan index file remaining seg =
      some (rt11Split layout scan index file remaining seg) := by
  unfold rt11SplitChecked rt11Split
  by_cases hrem : 0 < remaining
  · rw [if_pos hrem, if_pos hrem]
    cases scan.eos with
    | none => rfl
    | some eos =>
      dsimp only
      rw [rt11InsertEntryChecked_eq hend]
      dsimp only [Option.bind_eq_bind, Option.bind_some]
      cases hinsert : rt11InsertEntry layout.entryWords layout.maxEntries (index + 1) scan.entries.length seg with
      | none => rfl
      | some seg' =>
        have hnext : index + 1 < layout.maxEntries := by
          unfold rt11InsertEntry at hinsert
          split_ifs at hinsert
          omega
        dsimp only
        rw [rt11WriteEntryChecked_eq (Rt11Entry.fits_blank _ _ hwords) hnext hend, Option.bind_some,
          rt11WriteEntryChecked_eq hfile hindex hend, Option.bind_some]
  · rw [if_neg hrem, if_neg hrem, rt11WriteEntryChecked_eq hfile hindex hend]
    rfl

theorem rt11AddChecked_eq (file : List Byte) (name : Rt11Name) (date : Word) (seg : Rt11Segment) (u : Unit)
    (img : Rt11Image) : rt11AddChecked file name date seg u img = some (rt11AddVisit file name date seg u img) := by
  unfold rt11AddChecked rt11AddVisit
  cases hlayout : rt11EntryLayout seg.hdr with
  | error e => rfl
  | ok layout =>
    obtain ⟨hwords, hend⟩ := rt11EntryLayout_ok hlayout
    have hplaced : seg.placed layout = rt11Place seg.hdr.dataStartBlock.toNat (seg.scan layout).entries := rfl
    dsimp only
    rw [seg.scanChecked_eq hlayout, hplaced]
    dsimp only [Option.bind_eq_bind, Option.bind_some]
    cases hcandidate : rt11Candidate (rt11Place seg.hdr.dataStartBlock.toNat (seg.scan layout).entries)
        (rt11NeededBlocks file) with
    | none => rfl
    | some found =>
      obtain ⟨⟨entry, area⟩, index⟩ := found
      have hindex : index < layout.maxEntries := by
        have hlt := find?_zipIdx_lt hcandidate
        have hlen := congrArg List.length (rt11Place_entries seg.hdr.dataStartBlock.toNat (seg.scan layout).entries)
        rw [List.length_map] at hlen
        have hroom := (seg.scan_room layout).1
        omega
      dsimp only
      by_cases hspace : img.volumeBlocks < area.start + rt11NeededBlocks file
      · rw [if_pos hspace, if_pos hspace]
      · rw [if_neg hspace, if_neg hspace]
        cases rt11Seek img area.start with
        | error e => rfl
        | ok abs =>
          dsimp only
          rw [rt11SplitChecked_eq hwords hend hindex (rt11FileEntry_fits _ _ _ hwords)]
          dsimp only [Option.bind_some]
          cases rt11Split layout (seg.scan layout) index (rt11FileEntry name (rt11NeededBlocks file) date
              layout.entryWords) (entry.length.toNat - rt11NeededBlocks file) seg.buf with
          | none => rfl
          | some buf =>
            dsimp only
            rcases rt11WriteSegment (img.putData abs (rt11NeededBlocks file) (rt11HostBlock file))
              seg.segBlock buf with ⟨e | _, img'⟩
            · rfl
            · rfl

/-- An edit whose accesses stay inside the segment. -/
def rt11EditChecked (checked : Except Errno (SegBuf → Option SegBuf))
    (edit : Except Errno (SegBuf → SegBuf)) : Prop :=
  match edit with
  | .error e => checked = .error e
  | .ok f => ∃ g, checked = .ok g ∧ ∀ seg, g seg = some (f seg)

theorem rt11ChangeChecked_eq (name : Rt11Name)
    {checked : Nat → Rt11Layout → Rt11Entry → Except Errno (SegBuf → Option SegBuf)}
    {change : Nat → Rt11Layout → Rt11Entry → Except Errno (SegBuf → SegBuf)}
    (h : ∀ index layout entry, 7 ≤ layout.entryWords →
      5 + layout.maxEntries * layout.entryWords ≤ rt11SegmentWords → index < layout.maxEntries →
      rt11EditChecked (checked index layout entry) (change index layout entry))
    (seg : Rt11Segment) (u : Unit) (img : Rt11Image) :
    rt11ChangeChecked name checked seg u img = some (rt11ChangeVisit name change seg u img) := by
  unfold rt11ChangeChecked rt11ChangeVisit
  cases hlayout : rt11EntryLayout seg.hdr with
  | error e => rfl
  | ok layout =>
    obtain ⟨hwords, hend⟩ := rt11EntryLayout_ok hlayout
    dsimp only
    rw [seg.scanChecked_eq hlayout]
    dsimp only [Option.bind_eq_bind, Option.bind_some]
    cases hfind : (seg.scan layout).entries.zipIdx.find? fun p => p.1.isFile && p.1.name = name with
    | none => rfl
    | some found =>
      obtain ⟨entry, index⟩ := found
      have hindex : index < layout.maxEntries :=
        Nat.lt_of_lt_of_le (find?_zipIdx_lt hfind) (seg.scan_room layout).1
      have hedit := h index layout entry hwords hend hindex
      dsimp only
      cases hchange : change index layout entry with
      | error e =>
        rw [hchange] at hedit
        rw [show checked index layout entry = .error e from hedit]
      | ok f =>
        rw [hchange] at hedit
        obtain ⟨g, hg, hsame⟩ := hedit
        rw [hg]
        dsimp only
        rw [hsame]
        dsimp only [Option.bind_some]
        rcases rt11WriteSegment img seg.segBlock (f seg.buf) with ⟨e | _, img'⟩
        · rfl
        · rfl

theorem rt11SqueezedBufChecked_eq {layout : Rt11Layout} {files : List Rt11Entry} {remaining : Nat}
    (hwords : 7 ≤ layout.entryWords) (hend : 5 + layout.maxEntries * layout.entryWords ≤ rt11SegmentWords)
    (hfiles : ∀ e ∈ files, e.Fits layout.entryWords) (hlen : files.length < layout.maxEntries)
    (hroom : ¬(0 < remaining ∧ layout.maxEntries ≤ files.length + 1)) (seg : SegBuf) :
    rt11SqueezedBufChecked layout files remaining seg = some (rt11SqueezedBuf layout files remaining seg) := by
  unfold rt11SqueezedBufChecked rt11SqueezedBuf
  dsimp only
  apply rt11WriteEntriesChecked_eq (n := layout.maxEntries) _ _ hend
  · intro e he
    rw [List.mem_append, List.mem_append, List.mem_singleton] at he
    rcases he with (he | he) | he
    · exact hfiles e he
    · split_ifs at he
      · rw [List.mem_singleton] at he
        rw [he]
        exact Rt11Entry.fits_blank _ _ hwords
      · cases he
    · rw [he]
      exact Rt11Entry.fits_blank _ _ hwords
  · rw [List.length_append, List.length_append, List.length_singleton]
    split_ifs with hrem
    · rw [List.length_singleton]
      omega
    · rw [List.length_nil]
      omega

theorem rt11SqueezeSegmentChecked_eq (img : Rt11Image) (dirStart segNum : Nat) :
    rt11SqueezeSegmentChecked img dirStart segNum = some (rt11SqueezeSegment img dirStart segNum) := by
  unfold rt11SqueezeSegmentChecked rt11SqueezeSegment
  cases rt11LoadSegment img dirStart segNum with
  | error e => rfl
  | ok seg =>
    dsimp only
    cases hlayout : rt11EntryLayout seg.hdr with
    | error e => rfl
    | ok layout =>
      obtain ⟨hwords, hend⟩ := rt11EntryLayout_ok hlayout
      have hplaced : seg.placed layout = rt11Place seg.hdr.dataStartBlock.toNat (seg.scan layout).entries := rfl
      dsimp only
      rw [seg.scanChecked_eq hlayout, hplaced]
      dsimp only [Option.bind_eq_bind, Option.bind_some]
      cases heos : (seg.scan layout).eos with
      | none => rfl
      | some eos =>
        have hroom := (seg.scan_room layout).2 (by rw [heos]; nofun)
        have hfiles : ∀ e ∈ ((rt11Place seg.hdr.dataStartBlock.toNat (seg.scan layout).entries).filter
            fun p => p.1.isFile).map Prod.fst, e.Fits layout.entryWords := by
          intro e he
          obtain ⟨p, hp, rfl⟩ := List.mem_map.1 he
          have hmem := List.mem_map_of_mem (f := Prod.fst) (List.mem_of_mem_filter hp)
          rw [rt11Place_entries] at hmem
          exact (rt11Scan_entries seg.buf hwords _ _ _ hmem).1
        have hlen : (((rt11Place seg.hdr.dataStartBlock.toNat (seg.scan layout).entries).filter
            fun p => p.1.isFile).map Prod.fst).length < layout.maxEntries := by
          have hle := List.length_filter_le (fun p : Rt11Entry × Extent => p.1.isFile)
            (rt11Place seg.hdr.dataStartBlock.toNat (seg.scan layout).entries)
          have hall := congrArg List.length
            (rt11Place_entries seg.hdr.dataStartBlock.toNat (seg.scan layout).entries)
          rw [List.length_map] at hall ⊢
          omega
        dsimp only
        by_cases htent : (seg.scan layout).entries.any Rt11Entry.isTent = true
        · rw [if_pos htent, if_pos htent]
        · rw [if_neg htent, if_neg htent]
          by_cases hempty : (!(seg.scan layout).entries.any Rt11Entry.isEmpty) = true
          · rw [if_pos hempty, if_pos hempty]
          · rw [if_neg hempty, if_neg hempty]
            generalize (rt11Place seg.hdr.dataStartBlock.toNat (seg.scan layout).entries).filter
              (fun p => p.1.isFile) = files at hfiles hlen ⊢
            rcases rt11MoveFiles files seg.hdr.dataStartBlock.toNat img with ⟨e | _, img'⟩
            · rfl
            · dsimp only
              split_ifs with hless hbig hmany
              · rfl
              · rfl
              · rfl
              · rw [rt11SqueezedBufChecked_eq hwords hend hfiles hlen (by rwa [List.length_map])]
                rfl

theorem rt11SqueezeVisitChecked_eq (dirStart : Nat) (seg : Rt11Segment) (u : Unit) (img : Rt11Image) :
    rt11SqueezeVisitChecked dirStart seg u img = some (rt11SqueezeVisit dirStart seg u img) := by
  unfold rt11SqueezeVisitChecked rt11SqueezeVisit
  rw [rt11SqueezeSegmentChecked_eq]
  dsimp only [Option.bind_eq_bind, Option.bind_some]
  rcases rt11SqueezeSegment img dirStart seg.segNum with ⟨e | _, img'⟩
  · rfl
  · rfl

theorem rt11FsckSegmentChecked_eq (img : Rt11Image) (dirStart segNum expectedLen : Nat) (repair : Bool) :
    rt11FsckSegmentChecked img dirStart segNum expectedLen repair =
      some (rt11FsckSegment img dirStart segNum expectedLen repair) := by
  unfold rt11FsckSegmentChecked rt11FsckSegment
  cases rt11LoadSegment img dirStart segNum with
  | error e => rfl
  | ok seg =>
    dsimp only
    cases hlayout : rt11EntryLayout seg.hdr with
    | error e => rfl
    | ok layout =>
      obtain ⟨hwords, hend⟩ := rt11EntryLayout_ok hlayout
      dsimp only
      rw [seg.scanChecked_eq hlayout]
      dsimp only [Option.bind_eq_bind, Option.bind_some]
      cases heos : (seg.scan layout).eos with
      | none => rfl
      | some eos =>
        have hroom := (seg.scan_room layout).2 (by rw [heos]; nofun)
        have hstop := rt11Entry_end hroom hend
        dsimp only
        split_ifs with hzero hless hsame hrepair
        · rfl
        · rfl
        · rfl
        · rw [rt11SetWordChecked_eq _ _ (by omega), Option.bind_some]
          rcases rt11WriteSegment img seg.segBlock (Function.update seg.buf
              (5 + (seg.scan layout).entries.length * layout.entryWords + 4)
              (BitVec.ofNat 16 (expectedLen - rt11TotalLen (seg.scan layout).entries))) with ⟨e | _, img'⟩
          · rfl
          · rfl
        · rfl

theorem rt11FsckSegmentsChecked_eq (dirStart : Nat) (repair : Bool) (segs : List (Nat × Nat)) (img : Rt11Image) :
    rt11FsckSegmentsChecked dirStart repair segs img = some (rt11FsckSegments dirStart repair segs img) := by
  induction segs generalizing img with
  | nil => rfl
  | cons seg rest ih =>
    obtain ⟨segNum, dataStart⟩ := seg
    unfold rt11FsckSegmentsChecked rt11FsckSegments
    dsimp only
    cases hexpected : rt11ExpectedLen img segNum dataStart rest with
    | error finding =>
      have hone : rt11FsckOneChecked dirStart repair segNum dataStart rest img = some (.ok [finding], img) := by
        unfold rt11FsckOneChecked
        rw [hexpected]
      rw [hone]
      dsimp only [Option.bind_eq_bind, Option.bind_some]
      rw [ih img]
      dsimp only [Option.bind_some]
      rcases rt11FsckSegments dirStart repair rest img with ⟨e | found', img'⟩
      · rfl
      · rfl
    | ok expectedLen =>
      have hone : rt11FsckOneChecked dirStart repair segNum dataStart rest img =
          some (rt11FsckSegment img dirStart segNum expectedLen repair) := by
        unfold rt11FsckOneChecked
        rw [hexpected]
        exact rt11FsckSegmentChecked_eq img dirStart segNum expectedLen repair
      rw [hone]
      dsimp only [Option.bind_eq_bind, Option.bind_some]
      rcases rt11FsckSegment img dirStart segNum expectedLen repair with ⟨e | found, img'⟩
      · rfl
      · dsimp only
        rw [ih img']
        dsimp only [Option.bind_some]
        rcases rt11FsckSegments dirStart repair rest img' with ⟨e | found', img''⟩
        · rfl
        · rfl

/-! ## The calls -/

theorem rt11FindFileChecked_eq (img : Rt11Image) (name : Rt11Name) :
    rt11FindFileChecked img name = some (rt11FindFile img name) := by
  unfold rt11FindFileChecked rt11FindFile
  cases hwalk : rt11WalkBegin img with
  | error e => rfl
  | ok walk =>
    dsimp only
    rw [rt11WalkChecked_eq (rt11FindChecked_eq name) (rt11WalkBegin_left hwalk)]
    dsimp only [Option.bind_eq_bind, Option.bind_some]
    rcases rt11WalkLoop (rt11FindVisit name) walk () img with ⟨e | ⟨g | d⟩, img'⟩
    · rfl
    · rfl
    · rfl

/-- Every call ends within the limit on the segments of a walk, and every access to an entry lies inside its
    segment, whatever the image holds: with both checked, no call refuses. -/
theorem rt11_walks_bounded (img : Rt11Image) :
    rt11ReadDirectoryChecked img = some (rt11ReadDirectory img) ∧
    (∀ name, rt11FindFileChecked img name = some (rt11FindFile img name)) ∧
    (∀ file name date, rt11AddFileChecked img file name date = some (rt11AddFile img file name date)) ∧
    (∀ name force, rt11RemoveFileChecked img name force = some (rt11RemoveFile img name force)) ∧
    (∀ name protect, rt11SetProtectChecked img name protect = some (rt11SetProtect img name protect)) ∧
    rt11SqueezeChecked img = some (rt11Squeeze img) ∧
    (∀ repair, rt11FsckChecked img repair = some (rt11Fsck img repair)) := by
  refine ⟨?_, rt11FindFileChecked_eq img, ?_, ?_, ?_, ?_, ?_⟩
  · unfold rt11ReadDirectoryChecked rt11ReadDirectory rt11ReadDirEntries
    cases rt11ReadHome img with
    | error e => rfl
    | ok dirStart =>
      dsimp only
      rw [rt11WalkChecked_eq rt11ReadDirChecked_eq (rt11WalkReset_left dirStart)]
      dsimp only [Option.bind_eq_bind, Option.bind_some]
      rcases rt11WalkLoop rt11ReadDirVisit (rt11WalkReset dirStart) [] img with ⟨e | ⟨⟨list, walk⟩ | a⟩, img'⟩
      · rfl
      · rfl
      · exact a.elim
  · intro file name date
    unfold rt11AddFileChecked rt11AddFile
    rw [rt11FindFileChecked_eq]
    dsimp only [Option.bind_eq_bind, Option.bind_some]
    cases rt11FindFile img name with
    | ok d => rfl
    | error e =>
      cases hwalk : rt11WalkBegin img with
      | error e => rfl
      | ok walk =>
        dsimp only
        rw [rt11WalkChecked_eq (rt11AddChecked_eq file name date) (rt11WalkBegin_left hwalk)]
        rfl
  · intro name force
    unfold rt11RemoveFileChecked rt11RemoveFile
    cases hwalk : rt11WalkBegin img with
    | error e => rfl
    | ok walk =>
      dsimp only
      rw [rt11WalkChecked_eq (rt11ChangeChecked_eq name ?_) (rt11WalkBegin_left hwalk)]
      · rfl
      · intro index layout entry hwords hend hindex
        unfold rt11EditChecked
        by_cases hprot : entry.status &&& rt11EProt ≠ 0 ∧ !force
        · rw [if_pos hprot, if_pos hprot]
        · rw [if_neg hprot, if_neg hprot]
          exact ⟨_, rfl, fun seg => rt11WriteEntryChecked_eq (Rt11Entry.fits_blank _ _ hwords) hindex hend seg⟩
  · intro name protect
    unfold rt11SetProtectChecked rt11SetProtect
    cases hwalk : rt11WalkBegin img with
    | error e => rfl
    | ok walk =>
      dsimp only
      rw [rt11WalkChecked_eq (rt11ChangeChecked_eq name ?_) (rt11WalkBegin_left hwalk)]
      · rfl
      · intro index layout entry hwords hend hindex
        have hstop := rt11Entry_end hindex hend
        unfold rt11EditChecked
        by_cases hperm : protect ∧ entry.status &&& rt11EPerm = 0
        · rw [if_pos hperm, if_pos hperm]
        · rw [if_neg hperm, if_neg hperm]
          exact ⟨_, rfl, fun seg => rt11SetWordChecked_eq _ seg (by omega)⟩
  · unfold rt11SqueezeChecked rt11Squeeze
    cases hwalk : rt11WalkBegin img with
    | error e => rfl
    | ok walk =>
      dsimp only
      rw [rt11WalkChecked_eq (rt11SqueezeVisitChecked_eq walk.dirStart) (rt11WalkBegin_left hwalk)]
      dsimp only [Option.bind_eq_bind, Option.bind_some]
      rcases rt11WalkLoop (rt11SqueezeVisit walk.dirStart) walk () img with ⟨e | ⟨⟨g, walk'⟩ | a⟩, img'⟩
      · rfl
      · rfl
      · exact a.elim
  · intro repair
    unfold rt11FsckChecked rt11Fsck
    cases hwalk : rt11WalkBegin img with
    | error e => rfl
    | ok walk =>
      dsimp only
      rw [rt11WalkChecked_eq (fun _ _ _ => rfl) (rt11WalkBegin_left hwalk)]
      dsimp only [Option.bind_eq_bind, Option.bind_some]
      rcases rt11WalkLoop rt11FsckVisit walk [] img with ⟨e | ⟨⟨segs, last⟩ | a⟩, img'⟩
      · rfl
      · dsimp only
        rw [rt11FsckSegmentsChecked_eq]
        dsimp only [Option.bind_eq_bind, Option.bind_some]
        rcases rt11FsckSegments walk.dirStart repair segs img' with ⟨e | found, img''⟩
        · rfl
        · rfl
      · exact a.elim

end K1801.Tools
