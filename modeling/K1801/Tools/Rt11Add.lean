import K1801.Tools.Rt11Consistency

/-! # Adding a file to an RT-11 volume

The first empty area that takes the file becomes the file and an empty area for the rest. Nothing else of the
directory changes, and no block of another file.
-/

namespace K1801.Tools

open Core Library

/-! ## Reading a file back -/

/-- The loop of `rt11_extract_file`: what it writes to the host file. -/
def rt11ExtractLoop (img : Rt11Image) : Nat → Nat → Except Errno (List Byte)
  | _, 0 => .ok []
  | b, n + 1 =>
    match rt11ReadBlock img b with
    | .error e => .error e
    | .ok buf =>
      match rt11ExtractLoop img (b + 1) n with
      | .error e => .error e
      | .ok rest => .ok (rt11BlockBytes buf ++ rest)

def rt11ExtractFile (img : Rt11Image) (ent : Rt11Dirent) : Except Errno (List Byte) :=
  if img.volumeBlocks < ent.area.start + ent.area.len then .error .einval
  else rt11ExtractLoop img ent.area.start ent.area.len

/-- A host file filled with zeros to whole blocks, and to one at least. -/
def rt11Padded (file : List Byte) : List Byte :=
  file ++ List.replicate (512 * max ((file.length + 511) / 512) 1 - file.length) 0

theorem low_byte (lo hi : Byte) :
    ((lo.setWidth 16 ||| hi.setWidth 16 <<< 8) >>> 0).setWidth 8 = lo := by
  refine BitVec.eq_of_getLsbD_eq fun k hk => ?_
  simp only [BitVec.ushiftRight_zero, BitVec.getLsbD_setWidth, BitVec.getLsbD_or, BitVec.getLsbD_shiftLeft, hk,
    decide_true, Bool.true_and, Bool.not_true, Bool.false_and, Bool.and_false, Bool.or_false]
  have hwide : k < 16 := by omega
  rw [decide_eq_true hwide, Bool.true_and]

theorem high_byte (lo hi : Byte) :
    ((lo.setWidth 16 ||| hi.setWidth 16 <<< 8) >>> 8).setWidth 8 = hi := by
  refine BitVec.eq_of_getLsbD_eq fun k hk => ?_
  have hlow : lo.getLsbD (8 + k) = false := BitVec.getLsbD_of_ge _ _ (Nat.le_add_right 8 k)
  have hwide : 8 + k < 16 := by omega
  have hwide' : k < 16 := by omega
  simp only [BitVec.getLsbD_setWidth, BitVec.getLsbD_ushiftRight, BitVec.getLsbD_or, BitVec.getLsbD_shiftLeft, hk,
    hlow, hwide, hwide', decide_true, Bool.true_and, Bool.false_or, Bool.and_false, Nat.add_sub_cancel_left]
  rw [decide_eq_false (by omega), Bool.not_false, Bool.true_and]

theorem rt11HostBlock_bytes (file : List Byte) (i : Nat) :
    rt11BlockBytes (rt11HostBlock file i) = (List.range 512).map fun j => file.getD (512 * i + j) 0 := by
  refine List.map_congr_left fun j hj => ?_
  rw [List.mem_range] at hj
  have hword : (Fin.ofNat 256 (j / 2)).val = j / 2 := Nat.mod_eq_of_lt (by omega)
  unfold rt11HostBlock
  rw [hword]
  rcases Nat.mod_two_eq_zero_or_one j with heven | hodd
  · rw [heven, Nat.mul_zero, low_byte]
    congr 1
    omega
  · rw [hodd, Nat.mul_one, high_byte]
    congr 1
    omega

/-- Rows of `m` values each, one after the other. -/
theorem flatMap_rows {α : Type} (f : Nat → α) (m k : Nat) :
    ((List.range k).flatMap fun i => (List.range m).map fun j => f (m * i + j)) = (List.range (m * k)).map f := by
  induction k with
  | zero => rfl
  | succ k ih =>
    rw [List.range_succ, List.flatMap_append, ih, Nat.mul_succ, List.range_add, List.map_append, List.map_map,
      List.flatMap_singleton]
    rfl

theorem getD_range {α : Type} (l : List α) (d : α) {n : Nat} (h : l.length ≤ n) :
    (List.range n).map (fun i => l.getD i d) = l ++ List.replicate (n - l.length) d := by
  apply List.ext_getElem
  · rw [List.length_map, List.length_range, List.length_append, List.length_replicate]
    omega
  · intro i _ _
    rw [List.getElem_map, List.getElem_range]
    by_cases hi : i < l.length
    · rw [List.getElem_append_left hi, List.getD_eq_getElem?_getD, List.getElem?_eq_getElem hi, Option.getD_some]
    · rw [List.getElem_append_right (Nat.le_of_not_lt hi), List.getElem_replicate, List.getD_eq_getElem?_getD,
        List.getElem?_eq_none (Nat.le_of_not_lt hi), Option.getD_none]

theorem rt11HostBlocks_bytes {file : List Byte} {k : Nat} (h : file.length ≤ 512 * k) :
    ((List.range k).map (rt11HostBlock file)).flatMap rt11BlockBytes =
      file ++ List.replicate (512 * k - file.length) 0 := by
  rw [List.flatMap_map]
  simp only [rt11HostBlock_bytes]
  rw [flatMap_rows (fun i => file.getD i 0), getD_range file 0 h]

theorem rt11ExtractLoop_ok {img : Rt11Image} {b n : Nat} (h : b + n ≤ img.volumeBlocks) :
    rt11ExtractLoop img b n = .ok ((img.contents ⟨b, n⟩).flatMap rt11BlockBytes) := by
  induction n generalizing b with
  | zero => rfl
  | succ n ih =>
    have hcontents : img.contents ⟨b, n + 1⟩ = img.blocks (img.baseBlock + b) :: img.contents ⟨b + 1, n⟩ := by
      unfold Rt11Image.contents Extent.contents Extent.shift
      rw [List.range_succ_eq_map, List.map_cons, List.map_map]
      refine congrArg _ (List.map_congr_left fun i _ => ?_)
      exact congrArg img.blocks (by change img.baseBlock + b + (i + 1) = img.baseBlock + (b + 1) + i; omega)
    rw [rt11ExtractLoop, rt11ReadBlock, rt11Seek_of_lt (by omega), ih (by omega), hcontents]
    rfl

theorem rt11ExtractFile_ok {img : Rt11Image} {ent : Rt11Dirent} (h : ent.area.start + ent.area.len ≤ img.volumeBlocks) :
    rt11ExtractFile img ent = .ok ((img.contents ent.area).flatMap rt11BlockBytes) := by
  rw [rt11ExtractFile, if_neg (Nat.not_lt.2 h), rt11ExtractLoop_ok h]

theorem Rt11Image.putData_contents (img : Rt11Image) (b n : Nat) (data : Nat → Block) :
    (img.putData (img.baseBlock + b) n data).contents ⟨b, n⟩ = (List.range n).map data := by
  refine List.map_congr_left fun i hi => ?_
  have hin : i < n := List.mem_range.1 hi
  change (if img.baseBlock + b ≤ img.baseBlock + b + i ∧ img.baseBlock + b + i < img.baseBlock + b + n
    then data (img.baseBlock + b + i - (img.baseBlock + b)) else _) = data i
  rw [if_pos (by omega), Nat.add_sub_cancel_left]

/-! ## Walks over a whole chain -/

/-- A well-formed directory whose segments are counted in the first one. -/
structure Rt11Listed (img : Rt11Image) (dirStart : Nat) (chain : List Rt11Segment) : Prop where
  directory : Rt11Directory img dirStart chain
  counted : ∀ s ∈ chain.head?, chain.length ≤ s.hdr.totalSegments.toNat

/-- The walk does not take the rest of the chain for a loop. -/
structure Rt11Walk.Reaches (walk : Rt11Walk) (img : Rt11Image) (dirStart : Nat) (chain : List Rt11Segment) : Prop where
  start : walk.dirStart = dirStart
  linked : Rt11Chain img dirStart walk.nextSeg chain
  going : walk.looped = false
  room : ∀ s ∈ chain.head?, walk.guard + chain.length ≤
    (if walk.totalSegments = 0 then max s.hdr.totalSegments.toNat 1 else walk.totalSegments) + 4

theorem Rt11Listed.reaches {img : Rt11Image} {dirStart : Nat} {chain : List Rt11Segment}
    (h : Rt11Listed img dirStart chain) : (rt11WalkReset dirStart).Reaches img dirStart chain := by
  refine ⟨rfl, h.directory.linked, rfl, fun s hs => ?_⟩
  have hcount := h.counted s hs
  change 0 + chain.length ≤ max s.hdr.totalSegments.toNat 1 + 4
  omega

theorem Rt11Walk.Reaches.advance {walk : Rt11Walk} {img : Rt11Image} {dirStart : Nat} {s : Rt11Segment}
    {chain : List Rt11Segment} (h : walk.Reaches img dirStart (s :: chain)) :
    (walk.advance s.hdr).Reaches img dirStart chain := by
  obtain ⟨total, htotal⟩ : ∃ total,
      total = if walk.totalSegments = 0 then max s.hdr.totalSegments.toNat 1 else walk.totalSegments := ⟨_, rfl⟩
  have hroom := h.room s rfl
  rw [← htotal, List.length_cons] at hroom
  have hpos : total ≠ 0 := by
    rw [htotal]
    split <;> omega
  have hgoing : ¬ walk.guard + 1 > total + 4 := by omega
  have hadvance : walk.advance s.hdr = ⟨walk.dirStart, s.hdr.nextSegment.toNat, total, walk.guard + 1, false⟩ := by
    unfold Rt11Walk.advance
    simp only [← htotal]
    rw [if_neg hgoing, h.going, decide_eq_false hgoing]
    rfl
  rw [hadvance]
  refine ⟨h.start, h.linked.2.2, rfl, fun c hc => ?_⟩
  change walk.guard + 1 + chain.length ≤ (if total = 0 then max c.hdr.totalSegments.toNat 1 else total) + 4
  rw [if_neg hpos]
  omega

section Walk

variable {γ α : Type} {visit : Rt11Segment → γ → Rt11Image → Rt11Result (γ ⊕ α)} {walk : Rt11Walk} {g : γ}
  {img : Rt11Image} {dirStart : Nat}

/-- Segments that the body passes by. -/
theorem rt11WalkLoop_skip {pre rest : List Rt11Segment} (h : walk.Reaches img dirStart (pre ++ rest))
    (hpass : ∀ s ∈ pre, visit s g img = (.ok (.inl g), img)) :
    ∃ walk' : Rt11Walk, walk'.Reaches img dirStart rest ∧
      rt11WalkLoop visit walk g img = rt11WalkLoop visit walk' g img := by
  induction pre generalizing walk with
  | nil => exact ⟨walk, h, rfl⟩
  | cons s pre ih =>
    obtain ⟨hnext, hload, _⟩ := h.linked
    obtain ⟨walk', hreaches, hloop⟩ := ih h.advance fun c hc => hpass c (List.mem_cons_of_mem _ hc)
    refine ⟨walk', hreaches, ?_⟩
    rw [rt11WalkLoop_cons hnext (by rw [h.start]; exact hload), hpass s (List.mem_cons_self ..)]
    exact hloop

/-- Every segment is passed by. -/
theorem rt11WalkLoop_passed {chain : List Rt11Segment} (h : walk.Reaches img dirStart chain)
    (hpass : ∀ s ∈ chain, visit s g img = (.ok (.inl g), img)) :
    ∃ walk' : Rt11Walk, walk'.looped = false ∧ rt11WalkLoop visit walk g img = (.ok (.inl (g, walk')), img) := by
  rw [← List.append_nil chain] at h
  obtain ⟨walk', hreaches, hloop⟩ := rt11WalkLoop_skip h hpass
  exact ⟨walk', hreaches.going, hloop.trans (rt11WalkLoop_nil hreaches.linked)⟩

/-- The first segment that is not passed by. -/
theorem rt11WalkLoop_first {pre post : List Rt11Segment} {s : Rt11Segment}
    (h : walk.Reaches img dirStart (pre ++ s :: post)) (hpass : ∀ c ∈ pre, visit c g img = (.ok (.inl g), img)) :
    ∃ walk' : Rt11Walk, walk'.Reaches img dirStart (s :: post) ∧ rt11WalkLoop visit walk g img =
      match visit s g img with
      | (.error e, img) => (.error e, img)
      | (.ok (.inr a), img) => (.ok (.inr a), img)
      | (.ok (.inl g), img) => rt11WalkLoop visit (walk'.advance s.hdr) g img := by
  obtain ⟨walk', hreaches, hloop⟩ := rt11WalkLoop_skip h hpass
  refine ⟨walk', hreaches, ?_⟩
  obtain ⟨hnext, hload, _⟩ := hreaches.linked
  refine (hloop.trans (rt11WalkLoop_cons hnext (by rw [hreaches.start]; exact hload))).trans ?_
  rcases visit s g img with ⟨e | ⟨g' | a⟩, img'⟩ <;> rfl

end Walk

/-! ### Finding -/

/-- The files of a segment as the calls list them. -/
def Rt11Segment.dirents (s : Rt11Segment) : List Rt11Dirent :=
  ((s.areas.zipIdx).filter fun p => p.1.1.isFile).map fun p => ⟨p.1.1, p.1.2, s.segNum, p.2⟩

/-- The file with this name. -/
def Rt11Segment.named (s : Rt11Segment) (name : Rt11Name) : Option Rt11Dirent :=
  s.dirents.find? fun d => d.entry.name = name

theorem Rt11Segment.dirents_eq {s : Rt11Segment} {layout : Rt11Layout} (h : rt11EntryLayout s.hdr = .ok layout) :
    rt11SegmentFiles s layout = s.dirents := by
  rw [rt11SegmentFiles, Rt11Segment.areas_eq h]
  rfl

theorem rt11FindVisit_eq {s : Rt11Segment} (hwf : s.WellFormed) (name : Rt11Name) (img : Rt11Image) :
    rt11FindVisit name s () img =
      match s.named name with
      | some d => (.ok (.inr d), img)
      | none => (.ok (.inl ()), img) := by
  obtain ⟨layout, hl⟩ := hwf.layout
  rw [rt11FindVisit, hl]
  simp only [Rt11Segment.dirents_eq hl]
  unfold Rt11Segment.named
  cases s.dirents.find? fun d => d.entry.name = name with
  | none => rfl
  | some d => rfl

section Listed

variable {img : Rt11Image} {dirStart : Nat} {chain : List Rt11Segment}

theorem Rt11Listed.walk (h : Rt11Listed img dirStart chain) :
    rt11WalkBegin img = .ok (rt11WalkReset dirStart) := by
  rw [rt11WalkBegin, h.directory.home]

theorem Rt11Listed.find_missing (h : Rt11Listed img dirStart chain) {name : Rt11Name}
    (hnone : ∀ s ∈ chain, s.named name = none) : rt11FindFile img name = .error .enoent := by
  have hpass : ∀ s ∈ chain, rt11FindVisit name s () img = (.ok (.inl ()), img) := by
    intro s hs
    rw [rt11FindVisit_eq (h.directory.segments s hs), hnone s hs]
  obtain ⟨walk', _, hloop⟩ := rt11WalkLoop_passed h.reaches hpass
  simp only [rt11FindFile, h.walk, hloop]

theorem Rt11Listed.find_first {pre post : List Rt11Segment} {s : Rt11Segment}
    (h : Rt11Listed img dirStart (pre ++ s :: post)) {name : Rt11Name} {d : Rt11Dirent}
    (hnone : ∀ c ∈ pre, c.named name = none) (hd : s.named name = some d) : rt11FindFile img name = .ok d := by
  have hpass : ∀ c ∈ pre, rt11FindVisit name c () img = (.ok (.inl ()), img) := by
    intro c hc
    rw [rt11FindVisit_eq (h.directory.segments c (List.mem_append_left _ hc)), hnone c hc]
  obtain ⟨walk', _, hloop⟩ := rt11WalkLoop_first h.reaches hpass
  rw [rt11FindVisit_eq (h.directory.segments s (List.mem_append_right _ (List.mem_cons_self ..))), hd] at hloop
  simp only [rt11FindFile, h.walk, hloop]

/-- A name that a file of the directory has. -/
def rt11Taken (chain : List Rt11Segment) (name : Rt11Name) : Prop := ∃ s ∈ chain, s.named name ≠ none

theorem Rt11Listed.find_taken (h : Rt11Listed img dirStart chain) {name : Rt11Name} (htaken : rt11Taken chain name) :
    ∃ d, rt11FindFile img name = .ok d := by
  obtain ⟨s, hs, hsome⟩ := htaken
  obtain ⟨d, hd⟩ := Option.ne_none_iff_exists'.1 hsome
  have hfirst : chain.findSome? (fun c => c.named name) ≠ none := by
    rw [Ne, List.findSome?_eq_none_iff]
    exact fun hall => hsome (hall s hs)
  obtain ⟨d', hd'⟩ := Option.ne_none_iff_exists'.1 hfirst
  obtain ⟨pre, c, post, rfl, hc, hpre⟩ := List.findSome?_eq_some_iff.1 hd'
  exact ⟨d', h.find_first hpre hc⟩

end Listed

/-! ## The candidate -/

/-- How many entries a segment holds. -/
def Rt11Segment.maxEntries (s : Rt11Segment) : Nat := 507 / (7 + s.hdr.extraBytes.toNat / 2)

theorem Rt11Segment.maxEntries_eq {s : Rt11Segment} {layout : Rt11Layout} (h : rt11EntryLayout s.hdr = .ok layout) :
    layout.maxEntries = s.maxEntries := by
  unfold rt11EntryLayout at h
  split at h
  · cases h
  · simp only [] at h
    split at h
    · cases h
    · cases h
      rfl

/-- What `rt11_add_file` does with the candidate of a segment. -/
def rt11Fill (img : Rt11Image) (s : Rt11Segment) (layout : Rt11Layout) (hole : Rt11Entry) (area : Extent) (index : Nat)
    (file : List Byte) (name : Rt11Name) (date : Word) : Rt11Result Unit :=
  let needed := rt11NeededBlocks file
  let img' := img.putData (img.baseBlock + area.start) needed (rt11HostBlock file)
  if img.volumeBlocks < area.start + needed then (.error .enospc, img)
  else
    match rt11Split layout s.listing index (rt11FileEntry name needed date layout.entryWords)
        (hole.length.toNat - needed) s.buf with
    | none => (.error .enospc, img')
    | some buf => rt11WriteSegment img' s.segBlock buf

/-- An empty area of a segment that takes the file. -/
structure Rt11Segment.Candidate (s : Rt11Segment) (needed : Nat) (hole : Rt11Entry) (area : Extent)
    (pre post : List Rt11Entry) : Prop where
  entries : s.listing.entries = pre ++ hole :: post
  area : area = ⟨s.hdr.dataStartBlock.toNat + rt11TotalLen pre, hole.length.toNat⟩
  empty : hole.isEmpty = true
  fits : needed ≤ hole.length.toNat

theorem rt11Candidate_split {s : Rt11Segment} {needed i : Nat} {hole : Rt11Entry} {area : Extent}
    (h : rt11Candidate s.areas needed = some ((hole, area), i)) :
    ∃ pre post, s.Candidate needed hole area pre post ∧ pre.length = i := by
  have hmem := List.mem_of_find?_eq_some h
  have hfits := List.find?_some h
  rw [Bool.and_eq_true, decide_eq_true_eq] at hfits
  obtain ⟨pre, post, hentries, hi, harea⟩ := rt11Place_split hmem
  exact ⟨pre, post, ⟨hentries, harea, hfits.1, hfits.2⟩, hi⟩

theorem rt11Place_middle (start : Nat) (pre post : List Rt11Entry) (e : Rt11Entry) :
    rt11Place start (pre ++ e :: post) = rt11Place start pre ++
      (e, ⟨start + rt11TotalLen pre, e.length.toNat⟩) ::
        rt11Place (start + rt11TotalLen pre + e.length.toNat) post := by
  rw [rt11Place_append, rt11Place]

theorem Rt11Segment.Candidate.areas {s : Rt11Segment} {needed : Nat} {hole : Rt11Entry} {area : Extent}
    {pre post : List Rt11Entry} (h : s.Candidate needed hole area pre post) :
    s.areas = rt11Place s.hdr.dataStartBlock.toNat pre ++ (hole, area) ::
      rt11Place (area.start + hole.length.toNat) post := by
  rw [Rt11Segment.areas, h.entries, rt11Place_middle, h.area]

theorem rt11Split_room (layout : Rt11Layout) (pre post : List Rt11Entry) (e eos file : Rt11Entry) (remaining : Nat)
    (buf : SegBuf) :
    (rt11Split layout ⟨pre ++ e :: post, some eos⟩ pre.length file remaining buf).isSome = true ↔
      remaining = 0 ∨ (pre ++ e :: post).length + 1 < layout.maxEntries := by
  have hinside : ¬ (pre ++ e :: post).length + 1 < pre.length + 1 := by
    rw [List.length_append]
    omega
  unfold rt11Split
  by_cases hrem : 0 < remaining
  · rw [if_pos hrem]
    dsimp only
    unfold rt11InsertEntry
    by_cases hfull : layout.maxEntries - 1 ≤ (pre ++ e :: post).length
    · rw [if_pos hfull]
      constructor
      · rintro ⟨⟩
      · omega
    · rw [if_neg hfull, if_neg hinside]
      constructor
      · rintro -
        omega
      · rintro -
        rfl
  · rw [if_neg hrem]
    constructor
    · rintro -
      exact Or.inl (by omega)
    · rintro -
      rfl

section Apart

variable {img : Rt11Image} {dirStart : Nat} {pre post : List Rt11Segment} {s : Rt11Segment}

theorem Extent.Apart.inside {e e' f : Extent} (h : e.Apart e') (hin : ∀ b, f.Has b → e'.Has b) : e.Apart f :=
  fun b hb hf => h b hb (hin b hf)

/-- A part of the data area of a segment lies outside everything that the rest of the directory uses. -/
theorem Rt11Directory.apart_from (h : Rt11Directory img dirStart (pre ++ s :: post)) {area : Extent}
    (hin : ∀ b, area.Has b → s.area.Has b) :
    Extent.Apart ⟨1, 1⟩ area ∧ s.place.Apart area ∧
      ∀ c, c ∈ pre ∨ c ∈ post → c.place.Apart area ∧ c.area.Apart area := by
  obtain ⟨hhome, hpair⟩ := List.pairwise_cons.1 h.apart
  have hocc : rt11Occupied (pre ++ s :: post) = rt11Occupied pre ++ s.place :: s.area :: rt11Occupied post := by
    unfold rt11Occupied
    rw [List.flatMap_append, List.flatMap_cons]
    rfl
  rw [hocc] at hpair hhome
  obtain ⟨_, hmid, hcross⟩ := List.pairwise_append.1 hpair
  obtain ⟨hplace, harea⟩ := List.pairwise_cons.1 hmid
  obtain ⟨harea, _⟩ := List.pairwise_cons.1 harea
  have hmine : s.area ∈ s.place :: s.area :: rt11Occupied post := List.mem_cons_of_mem _ (List.mem_cons_self ..)
  refine ⟨?_, ?_, ?_⟩
  · exact Extent.Apart.inside (hhome _ (List.mem_append_right _ hmine)) hin
  · exact Extent.Apart.inside (hplace _ (List.mem_cons_self ..)) hin
  · rintro c (hc | hc)
    · obtain ⟨hp, ha⟩ := rt11Occupied_mem hc
      exact ⟨Extent.Apart.inside (hcross _ hp _ hmine) hin, Extent.Apart.inside (hcross _ ha _ hmine) hin⟩
    · obtain ⟨hp, ha⟩ := rt11Occupied_mem hc
      exact ⟨fun b hb hf => harea _ hp b (hin b hf) hb, fun b hb hf => harea _ ha b (hin b hf) hb⟩

/-- The areas of one segment have no block in common. -/
theorem Rt11Segment.areas_apart {before after : List (Rt11Entry × Extent)} {q : Rt11Entry × Extent}
    (h : s.areas = before ++ q :: after) : ∀ p, p ∈ before ∨ p ∈ after → p.2.Apart q.2 := by
  have hpair : (s.areas.map Prod.snd).Pairwise fun e e' => e.stop ≤ e'.start := by
    rw [Rt11Segment.areas, rt11Place_areas]
    exact Extent.consecutive_pairwise _ _
  rw [h, List.map_append, List.map_cons] at hpair
  obtain ⟨_, hmid, hcross⟩ := List.pairwise_append.1 hpair
  obtain ⟨hafter, _⟩ := List.pairwise_cons.1 hmid
  rintro p (hp | hp)
  · exact Extent.apart_of_le (hcross p.2 (List.mem_map_of_mem hp) q.2 (List.mem_cons_self ..))
  · exact (Extent.apart_of_le (hafter p.2 (List.mem_map_of_mem hp))).symm

/-- No file has a block of an empty area. -/
theorem Rt11Directory.files_apart (h : Rt11Directory img dirStart (pre ++ s :: post))
    {before after : List (Rt11Entry × Extent)} {hole : Rt11Entry} {area : Extent}
    (hareas : s.areas = before ++ (hole, area) :: after) (hempty : hole.isFile = false) :
    ∀ c ∈ pre ++ s :: post, ∀ p ∈ c.areas, p.1.isFile = true → p.2.Apart area := by
  have hmem : (hole, area) ∈ s.areas := by
    rw [hareas]
    exact List.mem_append_right _ (List.mem_cons_self ..)
  have hin : ∀ b, area.Has b → s.area.Has b := fun b hb => Rt11Segment.areas_within hmem hb
  obtain ⟨_, _, hothers⟩ := h.apart_from hin
  have hother : ∀ c, c ∈ pre ∨ c ∈ post → ∀ p ∈ c.areas, p.2.Apart area := by
    intro c hc p hp b hb hf
    exact (hothers c hc).2 b (Rt11Segment.areas_within hp hb) hf
  intro c hc p hp hfile
  rcases List.mem_append.1 hc with hc | hc
  · exact hother c (Or.inl hc) p hp
  · rcases List.mem_cons.1 hc with rfl | hc
    · have hsplit := Rt11Segment.areas_apart hareas
      rw [hareas] at hp
      rcases List.mem_append.1 hp with hp | hp
      · exact hsplit p (Or.inl hp)
      · rcases List.mem_cons.1 hp with rfl | hp
        · rw [hempty] at hfile
          cases hfile
        · exact hsplit p (Or.inr hp)
    · exact hother c (Or.inr hc) p hp

end Apart

/-! ## What an addition leaves -/

/-- The directory and the contents of every file are as they were. -/
structure Rt11Kept (img img' : Rt11Image) (dirStart : Nat) (chain : List Rt11Segment) : Prop where
  listed : Rt11Listed img' dirStart chain
  contents : ∀ c ∈ chain, ∀ p ∈ c.areas, p.1.isFile = true → img'.contents p.2 = img.contents p.2

/-- `s'` stands where `s` stood, with one empty area split into a file and an empty area for the rest. -/
structure Rt11Segment.Split (s s' : Rt11Segment) (d : Rt11Dirent) : Prop where
  number : s'.segNum = s.segNum
  place : s'.place = s.place
  header : s'.hdr = s.hdr
  areas : ∃ before hole area rest after, s.areas = before ++ (hole, area) :: after ∧
    s'.areas = before ++ (d.entry, d.area) :: (rest ++ after) ∧ hole.isEmpty = true ∧ d.entry.isFile = true ∧
    d.area.start = area.start ∧ rest.length ≤ 1 ∧ (∀ p ∈ rest, p.1.isEmpty = true) ∧
    d.area.len + (rest.map fun p => p.2.len).sum = area.len

/-- The file is found under its name and reads back padded, an empty area is split for it, and the other files are
where they were with what they held. -/
structure Rt11Added (img img' : Rt11Image) (dirStart : Nat) (chain : List Rt11Segment) (file : List Byte)
    (name : Rt11Name) : Prop where
  found : ∃ d, rt11FindFile img' name = .ok d ∧ rt11ExtractFile img' d = .ok (rt11Padded file) ∧
    ∃ pre s s' post, chain = pre ++ s :: post ∧ Rt11Listed img' dirStart (pre ++ s' :: post) ∧ s.Split s' d
  contents : ∀ c ∈ chain, ∀ p ∈ c.areas, p.1.isFile = true → img'.contents p.2 = img.contents p.2

theorem Rt11Listed.kept_self {img : Rt11Image} {dirStart : Nat} {chain : List Rt11Segment}
    (h : Rt11Listed img dirStart chain) : Rt11Kept img img dirStart chain := ⟨h, fun _ _ _ _ _ => rfl⟩

theorem Rt11Chain.replace {img img' : Rt11Image} {dirStart segNum : Nat} {pre post : List Rt11Segment}
    {s s' : Rt11Segment} (h : Rt11Chain img dirStart segNum (pre ++ s :: post))
    (hothers : ∀ c, c ∈ pre ∨ c ∈ post → ∀ n, rt11LoadSegment img dirStart n = .ok c →
      rt11LoadSegment img' dirStart n = .ok c)
    (hs : ∀ n, rt11LoadSegment img dirStart n = .ok s → rt11LoadSegment img' dirStart n = .ok s')
    (hhdr : s'.hdr = s.hdr) : Rt11Chain img' dirStart segNum (pre ++ s' :: post) := by
  have htail : ∀ {chain : List Rt11Segment} {n : Nat}, (∀ c ∈ chain, c ∈ post) → Rt11Chain img dirStart n chain →
      Rt11Chain img' dirStart n chain := by
    intro chain
    induction chain with
    | nil => exact fun _ h => h
    | cons c chain ih =>
      intro n hin h
      exact ⟨h.1, hothers c (Or.inr (hin c (List.mem_cons_self ..))) n h.2.1,
        ih (fun c' hc' => hin c' (List.mem_cons_of_mem _ hc')) h.2.2⟩
  induction pre generalizing segNum with
  | nil =>
    obtain ⟨hnum, hload, hlinked⟩ := h
    refine ⟨hnum, hs segNum hload, ?_⟩
    rw [hhdr]
    exact htail (fun c hc => hc) hlinked
  | cons c pre ih =>
    obtain ⟨hnum, hload, hlinked⟩ := h
    refine ⟨hnum, hothers c (Or.inl (List.mem_cons_self ..)) segNum hload, ?_⟩
    exact ih hlinked fun c' hc' => hothers c' (hc'.imp (List.mem_cons_of_mem _) id)

section Fill

variable {img img' : Rt11Image} {dirStart : Nat} {pre post : List Rt11Segment} {s : Rt11Segment}
  {layout : Rt11Layout} {hole : Rt11Entry} {area : Extent} {before after : List Rt11Entry} {file : List Byte}
  {name : Rt11Name} {date : Word}

theorem Rt11Segment.Candidate.not_file (hc : s.Candidate (rt11NeededBlocks file) hole area before after)
    (hwf : s.WellFormed) : hole.isFile = false := by
  have hmem : hole ∈ s.listing.entries := by
    rw [hc.entries]
    exact List.mem_append_right _ (List.mem_cons_self ..)
  rw [hwf.kinds hole hmem, hc.empty]
  rfl

theorem Rt11Segment.Candidate.needed_within (hc : s.Candidate (rt11NeededBlocks file) hole area before after) :
    ∀ b, Extent.Has ⟨area.start, rt11NeededBlocks file⟩ b → area.Has b := by
  intro b hb
  have hfits := hc.fits
  have hstop : b < area.start + rt11NeededBlocks file := hb.2
  have hlen : area.len = hole.length.toNat := by
    rw [hc.area]
  exact ⟨hb.1, by unfold Extent.stop; omega⟩

/-- A change of the candidate's blocks alone. -/
theorem Rt11Listed.kept (h : Rt11Listed img dirStart (pre ++ s :: post))
    (hc : s.Candidate (rt11NeededBlocks file) hole area before after) (hchanged : img.Changed img' area.Has) :
    Rt11Kept img img' dirStart (pre ++ s :: post) := by
  have hmem : s ∈ pre ++ s :: post := List.mem_append_right _ (List.mem_cons_self ..)
  have hnot := hc.not_file (h.directory.segments s hmem)
  have hin : ∀ b, area.Has b → s.area.Has b := by
    intro b hb
    refine Rt11Segment.areas_within (p := (hole, area)) ?_ hb
    rw [hc.areas]
    exact List.mem_append_right _ (List.mem_cons_self ..)
  obtain ⟨hhome, hplace, hothers⟩ := h.directory.apart_from hin
  have hone : ¬ area.Has 1 := hhome 1 ⟨Nat.le_refl _, Nat.lt_succ_self _⟩
  refine ⟨⟨⟨?_, ?_, h.directory.segments, h.directory.apart⟩, h.counted⟩, ?_⟩
  · rw [rt11ReadHome_frame hchanged hone, h.directory.home]
  · refine h.directory.linked.frame hchanged fun c hc' b hb => ?_
    rcases List.mem_append.1 hc' with hc' | hc'
    · exact (hothers c (Or.inl hc')).1 b hb
    · rcases List.mem_cons.1 hc' with rfl | hc'
      · exact hplace b hb
      · exact (hothers c (Or.inr hc')).1 b hb
  · exact fun c hc' p hp hfile => hchanged.contents (h.directory.files_apart hc.areas hnot c hc' p hp hfile)

theorem rt11Fill_error (h : Rt11Listed img dirStart (pre ++ s :: post))
    (hc : s.Candidate (rt11NeededBlocks file) hole area before after) {e : Errno}
    (hfill : rt11Fill img s layout hole area before.length file name date = (.error e, img')) :
    Rt11Kept img img' dirStart (pre ++ s :: post) := by
  have hput : img.Changed (img.putData (img.baseBlock + area.start) (rt11NeededBlocks file) (rt11HostBlock file))
      area.Has := (img.changed_putData area.start _ _).mono hc.needed_within
  unfold rt11Fill at hfill
  dsimp only at hfill
  split at hfill
  · cases hfill
    exact h.kept_self
  · split at hfill
    · cases hfill
      exact h.kept hc hput
    · rw [rt11WriteSegment_error hfill]
      exact h.kept hc hput

/-- The segment as it is written and read again. -/
def Rt11Segment.stored (s : Rt11Segment) (buf : SegBuf) : Rt11Segment :=
  ⟨s.segNum, rt11Stored buf, rt11ParseSegmentHeader (rt11Stored buf), s.segBlock⟩

theorem Rt11Chain.load {chain : List Rt11Segment} {segNum : Nat} (h : Rt11Chain img dirStart segNum chain) :
    ∀ c ∈ chain, ∃ n, rt11LoadSegment img dirStart n = .ok c := by
  induction chain generalizing segNum with
  | nil =>
    intro c hc
    cases hc
  | cons c' chain ih =>
    intro c hc
    rcases List.mem_cons.1 hc with rfl | hc
    · exact ⟨segNum, h.2.1⟩
    · exact ih h.2.2 c hc

/-- The entries behind the candidate, with the file and the rest in its place. -/
def rt11FilledEntries (layout : Rt11Layout) (hole : Rt11Entry) (file : List Byte) (name : Rt11Name) (date : Word) :
    List Rt11Entry :=
  rt11FileEntry name (rt11NeededBlocks file) date layout.entryWords ::
    rt11FreeEntry layout (hole.length.toNat - rt11NeededBlocks file)

theorem Rt11Segment.stored_listing {buf : SegBuf} (hhdr : s.hdr = rt11ParseSegmentHeader s.buf)
    (hl : rt11EntryLayout s.hdr = .ok layout) (hwf : s.WellFormed)
    (hc : s.Candidate (rt11NeededBlocks file) hole area before after)
    (hsplit : rt11Split layout s.listing before.length (rt11FileEntry name (rt11NeededBlocks file) date layout.entryWords)
      (hole.length.toNat - rt11NeededBlocks file) s.buf = some buf) :
    (s.stored buf).hdr = s.hdr ∧ (s.stored buf).listing =
      ⟨before ++ (rt11FilledEntries layout hole file name date ++ after), s.listing.eos⟩ := by
  have hwords := (rt11EntryLayout_ok hl).1
  obtain ⟨eos, heos⟩ := Option.ne_none_iff_exists'.1 hwf.mark
  have hlisting : s.listing = ⟨before ++ hole :: after, some eos⟩ := by
    rw [← hc.entries, ← heos]
  have hscan : rt11Scan s.buf layout.entryWords layout.maxEntries 0 = ⟨before ++ hole :: after, some eos⟩ := by
    rw [← hlisting]
    exact Rt11Segment.listing_eq hl
  have hkinds := rt11FileEntry_kinds name (rt11NeededBlocks file) date layout.entryWords
  rw [hlisting] at hsplit
  obtain ⟨hsame, hscan'⟩ := rt11Split_scan hwords hscan ⟨rt11FileEntry_fits _ _ _ hwords, hkinds.2.2⟩ hsplit
  have hstored : (s.stored buf).hdr = s.hdr := by
    have hat : ∀ w, w < 5 → rt11Stored buf w = s.buf w := by
      intro w hw
      rw [rt11Stored, if_pos (by omega), hsame w hw]
    rw [hhdr]
    change rt11ParseSegmentHeader (rt11Stored buf) = _
    unfold rt11ParseSegmentHeader
    rw [hat 0 (by decide), hat 1 (by decide), hat 2 (by decide), hat 3 (by decide), hat 4 (by decide)]
  refine ⟨hstored, ?_⟩
  have hl' : rt11EntryLayout (s.stored buf).hdr = .ok layout := by
    rw [hstored]
    exact hl
  rw [← Rt11Segment.listing_eq hl', heos]
  exact (rt11Scan_stored hl' buf).trans hscan'

/-- The lengths of the new entries. -/
theorem rt11FilledEntries_len (hc : s.Candidate (rt11NeededBlocks file) hole area before after) (layout : Rt11Layout)
    (name : Rt11Name) (date : Word) :
    (rt11FileEntry name (rt11NeededBlocks file) date layout.entryWords).length.toNat = rt11NeededBlocks file ∧
      rt11NeededBlocks file + rt11TotalLen (rt11FreeEntry layout (hole.length.toNat - rt11NeededBlocks file)) =
        hole.length.toNat := by
  have hfits := hc.fits
  have hword := hole.length.isLt
  have hfree := (rt11FreeEntry_spec layout (show hole.length.toNat - rt11NeededBlocks file ≤ 0xFFFF by omega)).2.1
  refine ⟨?_, ?_⟩
  · change (BitVec.ofNat 16 (rt11NeededBlocks file)).toNat = _
    rw [BitVec.toNat_ofNat, Nat.mod_eq_of_lt (by omega)]
  · rw [hfree]
    omega

theorem Rt11Segment.stored_areas {buf : SegBuf} (hc : s.Candidate (rt11NeededBlocks file) hole area before after)
    (hhdr : (s.stored buf).hdr = s.hdr) (hlisting : (s.stored buf).listing =
      ⟨before ++ (rt11FilledEntries layout hole file name date ++ after), s.listing.eos⟩) :
    (s.stored buf).areas = rt11Place s.hdr.dataStartBlock.toNat before ++
      (rt11FileEntry name (rt11NeededBlocks file) date layout.entryWords, ⟨area.start, rt11NeededBlocks file⟩) ::
        (rt11Place (area.start + rt11NeededBlocks file)
          (rt11FreeEntry layout (hole.length.toNat - rt11NeededBlocks file)) ++
        rt11Place (area.start + hole.length.toNat) after) := by
  obtain ⟨hfile, htotal⟩ := rt11FilledEntries_len hc layout name date
  have hstart : s.hdr.dataStartBlock.toNat + rt11TotalLen before = area.start := by
    rw [hc.area]
  rw [Rt11Segment.areas, hhdr, hlisting]
  change rt11Place s.hdr.dataStartBlock.toNat (before ++ rt11FileEntry name (rt11NeededBlocks file) date
    layout.entryWords :: (rt11FreeEntry layout (hole.length.toNat - rt11NeededBlocks file) ++ after)) = _
  rw [rt11Place_middle, rt11Place_append, hfile, hstart, Nat.add_assoc area.start, htotal]

theorem Rt11Segment.stored_area {buf : SegBuf} (hc : s.Candidate (rt11NeededBlocks file) hole area before after)
    (hhdr : (s.stored buf).hdr = s.hdr) (hlisting : (s.stored buf).listing =
      ⟨before ++ (rt11FilledEntries layout hole file name date ++ after), s.listing.eos⟩) :
    (s.stored buf).area = s.area := by
  obtain ⟨hfile, htotal⟩ := rt11FilledEntries_len hc layout name date
  have hfilled : rt11TotalLen (rt11FilledEntries layout hole file name date) = hole.length.toNat := by
    change BitVec.toNat _ + rt11TotalLen _ = _
    rw [hfile, htotal]
  have hhole : rt11TotalLen (hole :: after) = hole.length.toNat + rt11TotalLen after := rfl
  unfold Rt11Segment.area Rt11Scan.eosLen
  rw [hhdr, hlisting, hc.entries, rt11TotalLen_append, rt11TotalLen_append, hfilled, rt11TotalLen_append, hhole]

theorem Rt11Segment.stored_wellFormed {buf : SegBuf} (hl : rt11EntryLayout s.hdr = .ok layout) (hwf : s.WellFormed)
    (hc : s.Candidate (rt11NeededBlocks file) hole area before after) (hhdr : (s.stored buf).hdr = s.hdr)
    (hlisting : (s.stored buf).listing =
      ⟨before ++ (rt11FilledEntries layout hole file name date ++ after), s.listing.eos⟩) :
    (s.stored buf).WellFormed := by
  have hword := hole.length.isLt
  have hfree := (rt11FreeEntry_spec layout (show hole.length.toNat - rt11NeededBlocks file ≤ 0xFFFF by omega)).2.2
  refine ⟨⟨layout, by rw [hhdr]; exact hl⟩, by rw [hlisting]; exact hwf.mark, ?_⟩
  intro e he
  rw [hlisting] at he
  have hold : e ∈ before ∨ e ∈ after → e.isFile = !e.isEmpty := by
    intro hin
    refine hwf.kinds e ?_
    rw [hc.entries]
    exact hin.elim (List.mem_append_left _) fun hin => List.mem_append_right _ (List.mem_cons_of_mem _ hin)
  rcases List.mem_append.1 he with he | he
  · exact hold (Or.inl he)
  · rcases List.mem_append.1 he with he | he
    · rcases List.mem_cons.1 he with rfl | he
      · exact (rt11FileEntry_kinds name _ date layout.entryWords).1.kind
      · obtain ⟨hempty, hfile, _⟩ := hfree e he
        rw [hempty, hfile]
        rfl
    · exact hold (Or.inr he)

/-! ### Names -/

theorem Rt11Segment.named_eq (s : Rt11Segment) (name : Rt11Name) : s.named name =
    (s.areas.zipIdx.find? fun p => p.1.1.isFile && decide (p.1.1.name = name)).map fun p =>
      ⟨p.1.1, p.1.2, s.segNum, p.2⟩ := by
  unfold Rt11Segment.named Rt11Segment.dirents
  rw [List.find?_map, List.find?_filter]
  congr 2
  funext p
  rw [Bool.decide_and, Bool.decide_eq_true, Bool.decide_eq_true]
  rfl

theorem Rt11Segment.named_none (h : s.named name = none) :
    ∀ p ∈ s.areas, p.1.isFile = true → p.1.name ≠ name := by
  rw [Rt11Segment.named_eq, Option.map_eq_none_iff, List.find?_eq_none] at h
  intro p hp hfile hname
  obtain ⟨i, hi⟩ := List.mem_iff_getElem?.1 hp
  have hnot := h (p, i) (List.mk_mem_zipIdx_iff_getElem?.2 hi)
  rw [hfile, decide_eq_true hname] at hnot
  exact hnot rfl

theorem Rt11Segment.named_split {before after : List (Rt11Entry × Extent)} {q : Rt11Entry × Extent}
    (h : s.areas = before ++ q :: after) (hfile : q.1.isFile = true)
    (hbefore : ∀ p ∈ before, p.1.isFile = true → p.1.name ≠ q.1.name) :
    s.named q.1.name = some ⟨q.1, q.2, s.segNum, before.length⟩ := by
  have hnone : before.zipIdx.find? (fun p => p.1.1.isFile && decide (p.1.1.name = q.1.name)) = none := by
    rw [List.find?_eq_none]
    rintro ⟨p, i⟩ hp hfound
    rw [Bool.and_eq_true, decide_eq_true_eq] at hfound
    exact hbefore p (List.fst_mem_of_mem_zipIdx hp) hfound.1 hfound.2
  rw [Rt11Segment.named_eq, h, List.zipIdx_append, List.find?_append, hnone, Option.none_or, List.zipIdx_cons,
    List.find?_cons_of_pos]
  · rw [Nat.zero_add]
    rfl
  · rw [hfile, decide_eq_true rfl]
    rfl

/-! ### The write -/

/-- Where the file is behind a successful write. -/
def rt11NewDirent (s : Rt11Segment) (layout : Rt11Layout) (area : Extent) (index : Nat) (file : List Byte)
    (name : Rt11Name) (date : Word) : Rt11Dirent :=
  ⟨rt11FileEntry name (rt11NeededBlocks file) date layout.entryWords, ⟨area.start, rt11NeededBlocks file⟩, s.segNum,
    index⟩

theorem Rt11Listed.occupied_stored (hlisted : Rt11Listed img dirStart (pre ++ s :: post)) {s' : Rt11Segment}
    (hplace : s'.place = s.place) (harea : s'.area = s.area) :
    (⟨1, 1⟩ :: rt11Occupied (pre ++ s' :: post)).Pairwise Extent.Apart := by
  have hsame : rt11Occupied (pre ++ s' :: post) = rt11Occupied (pre ++ s :: post) := by
    unfold rt11Occupied
    rw [List.flatMap_append, List.flatMap_append, List.flatMap_cons, List.flatMap_cons, hplace, harea]
  rw [hsame]
  exact hlisted.directory.apart

/-- The directory that the write leaves. -/
theorem rt11Fill_listed (h : Rt11Listed img dirStart (pre ++ s :: post)) (hl : rt11EntryLayout s.hdr = .ok layout)
    (hc : s.Candidate (rt11NeededBlocks file) hole area before after) {buf : SegBuf} {img₁ : Rt11Image}
    (hhdr : (s.stored buf).hdr = s.hdr) (hlisting : (s.stored buf).listing =
      ⟨before ++ (rt11FilledEntries layout hole file name date ++ after), s.listing.eos⟩)
    (hput : img.Changed img₁ area.Has) (hwrite : rt11WriteSegment img₁ s.segBlock buf = (.ok (), img')) :
    Rt11Listed img' dirStart (pre ++ s.stored buf :: post) := by
  have hmem : s ∈ pre ++ s :: post := List.mem_append_right _ (List.mem_cons_self ..)
  have hkept := h.kept hc hput
  have hchanged := (rt11WriteSegment_ok hwrite).1
  obtain ⟨hhome, hpair⟩ := List.pairwise_cons.1 h.directory.apart
  have hplace : s.place ∈ rt11Occupied (pre ++ s :: post) := (rt11Occupied_mem hmem).1
  have hocc : rt11Occupied (pre ++ s :: post) = rt11Occupied pre ++ s.place :: s.area :: rt11Occupied post := by
    unfold rt11Occupied
    rw [List.flatMap_append, List.flatMap_cons]
    rfl
  have hothers : ∀ c, c ∈ pre ∨ c ∈ post → ∀ b, c.place.Has b → ¬ s.place.Has b := by
    rw [hocc] at hpair
    obtain ⟨_, hmid, hcross⟩ := List.pairwise_append.1 hpair
    obtain ⟨hmine, _⟩ := List.pairwise_cons.1 hmid
    rintro c (hc' | hc') b hb hs
    · exact hcross _ (rt11Occupied_mem hc').1 _ (List.mem_cons_self ..) b hb hs
    · exact hmine _ (List.mem_cons_of_mem _ (rt11Occupied_mem hc').1) b hs hb
  have hone : ¬ s.place.Has 1 := hhome _ hplace 1 ⟨Nat.le_refl _, Nat.lt_succ_self _⟩
  have harea := Rt11Segment.stored_area hc hhdr hlisting
  refine ⟨⟨?_, ?_, ?_, h.occupied_stored rfl harea⟩, ?_⟩
  · rw [rt11ReadHome_frame hchanged hone, hkept.listed.directory.home]
  · refine hkept.listed.directory.linked.replace ?_ ?_ hhdr
    · exact fun c hc' n hload => rt11LoadSegment_frame hchanged hload (hothers c hc')
    · intro n hload
      exact rt11WriteSegment_load hload hwrite
  · intro c hc'
    rcases List.mem_append.1 hc' with hc' | hc'
    · exact h.directory.segments c (List.mem_append_left _ hc')
    · rcases List.mem_cons.1 hc' with rfl | hc'
      · exact Rt11Segment.stored_wellFormed hl (h.directory.segments s hmem) hc hhdr hlisting
      · exact h.directory.segments c (List.mem_append_right _ (List.mem_cons_of_mem _ hc'))
  · intro c hc'
    cases pre with
    | nil =>
      cases hc'
      have hcount := h.counted s rfl
      rw [hhdr]
      exact hcount
    | cons c' pre =>
      cases hc'
      have hcount := h.counted c rfl
      rw [List.length_append, List.length_cons] at hcount ⊢
      exact hcount

theorem Rt11Segment.stored_split {buf : SegBuf} (hc : s.Candidate (rt11NeededBlocks file) hole area before after)
    (hhdr : (s.stored buf).hdr = s.hdr) (hlisting : (s.stored buf).listing =
      ⟨before ++ (rt11FilledEntries layout hole file name date ++ after), s.listing.eos⟩) :
    s.Split (s.stored buf) (rt11NewDirent s layout area before.length file name date) := by
  have hword := hole.length.isLt
  obtain ⟨_, htotal⟩ := rt11FilledEntries_len hc layout name date
  obtain ⟨hshort, _, hkinds⟩ :=
    rt11FreeEntry_spec layout (show hole.length.toNat - rt11NeededBlocks file ≤ 0xFFFF by omega)
  refine ⟨rfl, rfl, hhdr, ?_⟩
  refine ⟨_, hole, area, _, _, hc.areas, Rt11Segment.stored_areas hc hhdr hlisting, hc.empty,
    (rt11FileEntry_kinds name _ date layout.entryWords).2.1, rfl, ?_, ?_, ?_⟩
  · have hlen := congrArg List.length (rt11Place_entries (area.start + rt11NeededBlocks file)
      (rt11FreeEntry layout (hole.length.toNat - rt11NeededBlocks file)))
    rw [List.length_map] at hlen
    rw [hlen]
    exact hshort
  · exact fun p hp => (hkinds _ (rt11Place_len hp).1).1
  · have hsum : ((rt11Place (area.start + rt11NeededBlocks file)
        (rt11FreeEntry layout (hole.length.toNat - rt11NeededBlocks file))).map fun p => p.2.len).sum =
        rt11TotalLen (rt11FreeEntry layout (hole.length.toNat - rt11NeededBlocks file)) := by
      rw [rt11TotalLen, ← rt11Place_entries (area.start + rt11NeededBlocks file)
        (rt11FreeEntry layout (hole.length.toNat - rt11NeededBlocks file)), List.map_map]
      rw [rt11Place_entries]
      exact congrArg _ (List.map_congr_left fun p hp => (rt11Place_len hp).2)
    have hlen : area.len = hole.length.toNat := by
      rw [hc.area]
    rw [hsum, hlen]
    exact htotal

/-- The volume behind a call that succeeds, whatever the size of the file. -/
structure Rt11Filled (img img' : Rt11Image) (dirStart : Nat) (chain : List Rt11Segment) (file : List Byte)
    (name : Rt11Name) : Prop where
  found : ∃ d, rt11FindFile img' name = .ok d ∧ rt11ExtractFile img' d =
      .ok (((List.range (rt11NeededBlocks file)).map (rt11HostBlock file)).flatMap rt11BlockBytes) ∧
    ∃ pre s s' post, chain = pre ++ s :: post ∧ Rt11Listed img' dirStart (pre ++ s' :: post) ∧ s.Split s' d
  contents : ∀ c ∈ chain, ∀ p ∈ c.areas, p.1.isFile = true → img'.contents p.2 = img.contents p.2

theorem rt11Fill_ok (h : Rt11Listed img dirStart (pre ++ s :: post)) (hl : rt11EntryLayout s.hdr = .ok layout)
    (hc : s.Candidate (rt11NeededBlocks file) hole area before after) (hnew : ¬ rt11Taken (pre ++ s :: post) name)
    (hfill : rt11Fill img s layout hole area before.length file name date = (.ok (), img')) :
    Rt11Filled img img' dirStart (pre ++ s :: post) file name := by
  have hmem : s ∈ pre ++ s :: post := List.mem_append_right _ (List.mem_cons_self ..)
  have hwf := h.directory.segments s hmem
  have hnone : ∀ c ∈ pre ++ s :: post, c.named name = none := by
    intro c hin
    by_contra hsome
    exact hnew ⟨c, hin, hsome⟩
  have hput : img.Changed (img.putData (img.baseBlock + area.start) (rt11NeededBlocks file) (rt11HostBlock file))
      area.Has := (img.changed_putData area.start _ _).mono hc.needed_within
  unfold rt11Fill at hfill
  dsimp only at hfill
  split at hfill
  · cases hfill
  rename_i hvolume
  split at hfill
  · cases hfill
  rename_i buf hsplit
  obtain ⟨n, hload⟩ := h.directory.linked.load s hmem
  obtain ⟨hhdr, hlisting⟩ := Rt11Segment.stored_listing (rt11LoadSegment_ok hload).2.2.2 hl hwf hc hsplit
  have hlisted := rt11Fill_listed h hl hc hhdr hlisting hput hfill
  have hareas := Rt11Segment.stored_areas hc hhdr hlisting
  have hchanged := (rt11WriteSegment_ok hfill).1
  have hkept := h.kept hc hput
  have hplaceApart : ∀ b, s.area.Has b → ¬ s.place.Has b := by
    obtain ⟨_, hplace, _⟩ := h.directory.apart_from (fun b hb => hb)
    exact fun b hb hp => hplace b hp hb
  have hareaIn : ∀ b, area.Has b → s.area.Has b := by
    intro b hb
    refine Rt11Segment.areas_within (p := (hole, area)) ?_ hb
    rw [hc.areas]
    exact List.mem_append_right _ (List.mem_cons_self ..)
  have hotherPlace : ∀ c, c ∈ pre ∨ c ∈ post → ∀ b, c.area.Has b → ¬ s.place.Has b := by
    obtain ⟨_, hpair⟩ := List.pairwise_cons.1 h.directory.apart
    have hocc : rt11Occupied (pre ++ s :: post) = rt11Occupied pre ++ s.place :: s.area :: rt11Occupied post := by
      unfold rt11Occupied
      rw [List.flatMap_append, List.flatMap_cons]
      rfl
    rw [hocc] at hpair
    obtain ⟨_, hmid, hcross⟩ := List.pairwise_append.1 hpair
    obtain ⟨hmine, _⟩ := List.pairwise_cons.1 hmid
    rintro c (hin | hin) b hb hs
    · exact hcross _ (rt11Occupied_mem hin).2 _ (List.mem_cons_self ..) b hb hs
    · exact hmine _ (List.mem_cons_of_mem _ (rt11Occupied_mem hin).2) b hs hb
  refine ⟨⟨rt11NewDirent s layout area before.length file name date, ?_, ?_, pre, s, s.stored buf, post, rfl, hlisted,
    Rt11Segment.stored_split hc hhdr hlisting⟩, ?_⟩
  · have hfirst : ∀ p ∈ rt11Place s.hdr.dataStartBlock.toNat before, p.1.isFile = true →
        p.1.name ≠ (rt11FileEntry name (rt11NeededBlocks file) date layout.entryWords).name := by
      intro p hp hfile
      refine Rt11Segment.named_none (hnone s hmem) p ?_ hfile
      rw [hc.areas]
      exact List.mem_append_left _ hp
    have hnamed := Rt11Segment.named_split hareas
      (rt11FileEntry_kinds name (rt11NeededBlocks file) date layout.entryWords).2.1 hfirst
    have hindex := congrArg List.length (rt11Place_entries s.hdr.dataStartBlock.toNat before)
    rw [List.length_map] at hindex
    rw [hindex] at hnamed
    exact hlisted.find_first (fun c hin => hnone c (List.mem_append_left _ hin)) hnamed
  · have hin : area.start + rt11NeededBlocks file ≤ img'.volumeBlocks := by
      rw [hchanged.volumeBlocks, hput.volumeBlocks]
      omega
    have hsame : img'.contents ⟨area.start, rt11NeededBlocks file⟩ =
        (List.range (rt11NeededBlocks file)).map (rt11HostBlock file) := by
      rw [hchanged.contents fun b hb => hplaceApart b (hareaIn b (hc.needed_within b hb)),
        Rt11Image.putData_contents]
    rw [rt11ExtractFile_ok hin]
    change Except.ok ((img'.contents ⟨area.start, rt11NeededBlocks file⟩).flatMap rt11BlockBytes) = _
    rw [hsame]
  · intro c hin p hp hfile
    rw [← hkept.contents c hin p hp hfile]
    refine hchanged.contents fun b hb => ?_
    have hb' := Rt11Segment.areas_within hp hb
    rcases List.mem_append.1 hin with hin | hin
    · exact hotherPlace c (Or.inl hin) b hb'
    · rcases List.mem_cons.1 hin with rfl | hin
      · exact hplaceApart b hb'
      · exact hotherPlace c (Or.inr hin) b hb'

/-- When the write goes through. -/
theorem rt11Fill_room (h : Rt11Listed img dirStart (pre ++ s :: post)) (hl : rt11EntryLayout s.hdr = .ok layout)
    (hc : s.Candidate (rt11NeededBlocks file) hole area before after) :
    (∃ img', rt11Fill img s layout hole area before.length file name date = (.ok (), img')) ↔
      area.start + rt11NeededBlocks file ≤ img.volumeBlocks ∧
        (hole.length.toNat = rt11NeededBlocks file ∨ s.listing.entries.length + 1 < s.maxEntries) := by
  have hmem : s ∈ pre ++ s :: post := List.mem_append_right _ (List.mem_cons_self ..)
  have hfits := hc.fits
  obtain ⟨n, hload⟩ := h.directory.linked.load s hmem
  obtain ⟨eos, heos⟩ := Option.ne_none_iff_exists'.1 (h.directory.segments s hmem).mark
  have hlisting : s.listing = ⟨before ++ hole :: after, some eos⟩ := by
    rw [← hc.entries, ← heos]
  have hroom := rt11Split_room layout before after hole eos
    (rt11FileEntry name (rt11NeededBlocks file) date layout.entryWords) (hole.length.toNat - rt11NeededBlocks file) s.buf
  have hexact : hole.length.toNat - rt11NeededBlocks file = 0 ↔ hole.length.toNat = rt11NeededBlocks file := by omega
  rw [← hlisting, hexact, Rt11Segment.maxEntries_eq hl, ← hc.entries] at hroom
  unfold rt11Fill
  dsimp only
  by_cases hvolume : img.volumeBlocks < area.start + rt11NeededBlocks file
  · rw [if_pos hvolume]
    constructor
    · rintro ⟨_, ⟨⟩⟩
    · omega
  · rw [if_neg hvolume, ← hroom]
    cases rt11Split layout s.listing before.length (rt11FileEntry name (rt11NeededBlocks file) date layout.entryWords)
        (hole.length.toNat - rt11NeededBlocks file) s.buf with
    | none =>
      constructor
      · rintro ⟨_, ⟨⟩⟩
      · rintro ⟨_, ⟨⟩⟩
    | some buf =>
      have hput := img.changed_putData area.start (rt11NeededBlocks file) (rt11HostBlock file)
      have hle := rt11ReadSegment_ok (rt11LoadSegment_ok hload).1
      rw [← hput.volumeBlocks] at hle
      obtain ⟨img', hwrite, _⟩ := rt11WriteSegment_of_le buf hle
      constructor
      · rintro -
        exact ⟨Nat.le_of_not_lt hvolume, rfl⟩
      · rintro -
        exact ⟨img', hwrite⟩

end Fill

/-! ## The whole call -/

section Call

variable {img : Rt11Image} {dirStart : Nat} {chain pre post : List Rt11Segment} {s : Rt11Segment}
  {layout : Rt11Layout} {hole : Rt11Entry} {area : Extent} {i : Nat} {file : List Byte} {name : Rt11Name} {date : Word}

theorem rt11AddVisit_none (hwf : s.WellFormed) (hnone : rt11Candidate s.areas (rt11NeededBlocks file) = none)
    (img : Rt11Image) : rt11AddVisit file name date s () img = (.ok (.inl ()), img) := by
  obtain ⟨layout, hl⟩ := hwf.layout
  rw [rt11AddVisit, hl]
  simp only [Rt11Segment.areas_eq hl, hnone]

theorem rt11AddVisit_some (hl : rt11EntryLayout s.hdr = .ok layout)
    (hcand : rt11Candidate s.areas (rt11NeededBlocks file) = some ((hole, area), i)) (img : Rt11Image) :
    rt11AddVisit file name date s () img =
      ((rt11Fill img s layout hole area i file name date).1.map Sum.inr,
        (rt11Fill img s layout hole area i file name date).2) := by
  have hpos := rt11NeededBlocks_pos file
  rw [rt11AddVisit, hl]
  simp only [Rt11Segment.areas_eq hl, Rt11Segment.listing_eq hl, hcand]
  unfold rt11Fill
  by_cases hvolume : img.volumeBlocks < area.start + rt11NeededBlocks file
  · rw [if_pos hvolume]
    simp only [if_pos hvolume]
    rfl
  · rw [if_neg hvolume, rt11Seek_of_lt (by omega)]
    simp only [if_neg hvolume]
    cases rt11Split layout s.listing i (rt11FileEntry name (rt11NeededBlocks file) date layout.entryWords)
        (hole.length.toNat - rt11NeededBlocks file) s.buf with
    | none => rfl
    | some buf =>
      dsimp only
      rcases rt11WriteSegment (img.putData (img.baseBlock + area.start) (rt11NeededBlocks file) (rt11HostBlock file))
        s.segBlock buf with ⟨e | _, img'⟩ <;> rfl

theorem rt11AddFile_taken (h : Rt11Listed img dirStart chain) (htaken : rt11Taken chain name) :
    rt11AddFile img file name date = (.error .eexist, img) := by
  obtain ⟨d, hd⟩ := h.find_taken htaken
  rw [rt11AddFile, hd]

theorem Rt11Listed.find_new (h : Rt11Listed img dirStart chain) (hnew : ¬ rt11Taken chain name) :
    rt11FindFile img name = .error .enoent := by
  refine h.find_missing fun c hc => ?_
  by_contra hsome
  exact hnew ⟨c, hc, hsome⟩

theorem rt11AddFile_full (h : Rt11Listed img dirStart chain) (hnew : ¬ rt11Taken chain name)
    (hnone : ∀ c ∈ chain, rt11Candidate c.areas (rt11NeededBlocks file) = none) :
    rt11AddFile img file name date = (.error .enospc, img) := by
  have hpass : ∀ c ∈ chain, rt11AddVisit file name date c () img = (.ok (.inl ()), img) :=
    fun c hc => rt11AddVisit_none (h.directory.segments c hc) (hnone c hc) img
  obtain ⟨walk', _, hloop⟩ := rt11WalkLoop_passed h.reaches hpass
  rw [rt11AddFile, h.find_new hnew]
  simp only [h.walk, hloop]
  rfl

theorem rt11AddFile_first (h : Rt11Listed img dirStart (pre ++ s :: post)) (hnew : ¬ rt11Taken (pre ++ s :: post) name)
    (hnone : ∀ c ∈ pre, rt11Candidate c.areas (rt11NeededBlocks file) = none)
    (hcand : rt11Candidate s.areas (rt11NeededBlocks file) = some ((hole, area), i))
    (hl : rt11EntryLayout s.hdr = .ok layout) :
    rt11AddFile img file name date = rt11Fill img s layout hole area i file name date := by
  have hpass : ∀ c ∈ pre, rt11AddVisit file name date c () img = (.ok (.inl ()), img) :=
    fun c hc => rt11AddVisit_none (h.directory.segments c (List.mem_append_left _ hc)) (hnone c hc) img
  obtain ⟨walk', _, hloop⟩ := rt11WalkLoop_first h.reaches hpass
  rw [rt11AddVisit_some hl hcand] at hloop
  rw [rt11AddFile, h.find_new hnew]
  simp only [h.walk, hloop]
  rcases rt11Fill img s layout hole area i file name date with ⟨e | ⟨⟩, img'⟩ <;> rfl

/-- The first empty area that takes the file lies in the volume, and its segment has room for an entry more if the
file leaves a rest. -/
def rt11Takes (img : Rt11Image) (chain : List Rt11Segment) (needed : Nat) : Bool :=
  match chain.findSome? fun s => (rt11Candidate s.areas needed).map fun c => (s, c.1) with
  | none => false
  | some (s, hole, area) =>
    decide (area.start + needed ≤ img.volumeBlocks) &&
      (decide (hole.length.toNat = needed) || decide (s.listing.entries.length + 1 < s.maxEntries))

/-- An addition is exact: it leaves the file and all that was there, or it fails and leaves all that was there. -/
def Rt11AddExact (img : Rt11Image) (dirStart : Nat) (chain : List Rt11Segment) (file : List Byte) (name : Rt11Name)
    (date : Word) : Prop :=
  match rt11AddFile img file name date with
  | (.ok (), img') => Rt11Added img img' dirStart chain file name
  | (.error _, img') => Rt11Kept img img' dirStart chain

/-- The blocks written are the padded file exactly if their count fits 32 bits. -/
theorem rt11Filled_bytes (hfits : rt11NeededBlocks file ≤ 65535) :
    ((List.range (rt11NeededBlocks file)).map (rt11HostBlock file)).flatMap rt11BlockBytes = rt11Padded file ↔
      (file.length + 511) / 512 < 4294967296 := by
  have hneeded : rt11NeededBlocks file = max ((file.length + 511) / 512 % 4294967296) 1 := rfl
  constructor
  · intro hsame
    by_contra hlong
    have hlength := congrArg List.length hsame
    rw [List.flatMap_map] at hlength
    simp only [rt11HostBlock_bytes] at hlength
    rw [flatMap_rows (fun i => file.getD i 0), List.length_map, List.length_range, rt11Padded, List.length_append,
      List.length_replicate] at hlength
    omega
  · intro hshort
    rw [Nat.mod_eq_of_lt hshort] at hneeded
    rw [rt11HostBlocks_bytes (by omega), hneeded]
    rfl

theorem Rt11Filled.added_iff {img' : Rt11Image} (h : Rt11Filled img img' dirStart chain file name)
    (hfits : rt11NeededBlocks file ≤ 65535) :
    Rt11Added img img' dirStart chain file name ↔ (file.length + 511) / 512 < 4294967296 := by
  rw [← rt11Filled_bytes hfits]
  obtain ⟨d, hfind, hextract, hsplit⟩ := h.found
  constructor
  · intro hadded
    obtain ⟨d', hfind', hextract', _⟩ := hadded.found
    rw [hfind] at hfind'
    cases hfind'
    rw [hextract] at hextract'
    exact Except.ok.inj hextract'
  · intro hsame
    rw [hsame] at hextract
    exact ⟨⟨d, hfind, hextract, hsplit⟩, h.contents⟩

/-- A call either fails and leaves all that was there, or fills the first empty area that takes the file. -/
theorem rt11AddFile_outcome (h : Rt11Listed img dirStart chain) (file : List Byte) (name : Rt11Name) (date : Word) :
    (∃ e img', rt11AddFile img file name date = (.error e, img') ∧ Rt11Kept img img' dirStart chain ∧
      (rt11Taken chain name ∨ rt11Takes img chain (rt11NeededBlocks file) = false)) ∨
    ∃ img', rt11AddFile img file name date = (.ok (), img') ∧ Rt11Filled img img' dirStart chain file name ∧
      rt11NeededBlocks file ≤ 65535 ∧ ¬ rt11Taken chain name ∧ rt11Takes img chain (rt11NeededBlocks file) = true := by
  by_cases htaken : rt11Taken chain name
  · exact Or.inl ⟨_, _, rt11AddFile_taken h htaken, h.kept_self, Or.inl htaken⟩
  · cases hfirst : chain.findSome? fun s => (rt11Candidate s.areas (rt11NeededBlocks file)).map fun c => (s, c.1) with
    | none =>
      have hnone : ∀ c ∈ chain, rt11Candidate c.areas (rt11NeededBlocks file) = none := by
        intro c hc
        exact Option.map_eq_none_iff.1 (List.findSome?_eq_none_iff.1 hfirst c hc)
      have hfalse : rt11Takes img chain (rt11NeededBlocks file) = false := by
        rw [rt11Takes, hfirst]
      exact Or.inl ⟨_, _, rt11AddFile_full h htaken hnone, h.kept_self, Or.inr hfalse⟩
    | some found =>
      obtain ⟨pre, s, post, rfl, hs, hpre⟩ := List.findSome?_eq_some_iff.1 hfirst
      obtain ⟨⟨⟨hole, area⟩, i⟩, hcand, rfl⟩ := Option.map_eq_some_iff.1 hs
      obtain ⟨before, after, hc, rfl⟩ := rt11Candidate_split hcand
      have hmem : s ∈ pre ++ s :: post := List.mem_append_right _ (List.mem_cons_self ..)
      obtain ⟨layout, hl⟩ := (h.directory.segments s hmem).layout
      have hadd : rt11AddFile img file name date = rt11Fill img s layout hole area before.length file name date :=
        rt11AddFile_first h htaken (fun c hc' => Option.map_eq_none_iff.1 (hpre c hc')) hcand hl
      have htakes : rt11Takes img (pre ++ s :: post) (rt11NeededBlocks file) = true ↔
          ∃ img', rt11Fill img s layout hole area before.length file name date = (.ok (), img') := by
        rw [rt11Fill_room h hl hc, rt11Takes, hfirst]
        simp only [Bool.and_eq_true, Bool.or_eq_true, decide_eq_true_eq]
      have hfits := hc.fits
      have hword := hole.length.isLt
      rcases hfill : rt11Fill img s layout hole area before.length file name date with ⟨e | ⟨⟩, img'⟩
      · have hfalse : rt11Takes img (pre ++ s :: post) (rt11NeededBlocks file) = false := by
          rw [Bool.eq_false_iff]
          intro htrue
          obtain ⟨img'', hok⟩ := htakes.1 htrue
          rw [hfill] at hok
          cases hok
        exact Or.inl ⟨e, img', hadd.trans hfill, rt11Fill_error h hc hfill, Or.inr hfalse⟩
      · exact Or.inr ⟨img', hadd.trans hfill, rt11Fill_ok h hl hc htaken hfill, by omega, htaken,
          htakes.2 ⟨img', hfill⟩⟩

/-- An addition is exact unless it takes a file of more blocks than 32 bits count. -/
theorem add_file_exact_iff (h : Rt11Listed img dirStart chain) (file : List Byte) (name : Rt11Name) (date : Word) :
    Rt11AddExact img dirStart chain file name date ↔ (file.length + 511) / 512 < 4294967296 ∨
      rt11Taken chain name ∨ rt11Takes img chain (rt11NeededBlocks file) = false := by
  unfold Rt11AddExact
  rcases rt11AddFile_outcome h file name date with ⟨e, img', hadd, hkept, hrefused⟩ |
    ⟨img', hadd, hfilled, hfits, hnew, htakes⟩
  · rw [hadd]
    exact ⟨fun _ => Or.inr hrefused, fun _ => hkept⟩
  · rw [hadd]
    refine (hfilled.added_iff hfits).trans ⟨Or.inl, ?_⟩
    rintro (hshort | htaken | hfalse)
    · exact hshort
    · exact absurd htaken hnew
    · rw [htakes] at hfalse
      cases hfalse

end Call

/-! ### An empty volume -/

/-- An empty area of eight blocks. -/
def rt11FreeWords : List Word := [1, 0, 1, 0, 8, rt11EMpty, 0, 0, 0, 8, 0, 0, rt11EEos, 0, 0, 0, 0, 0, 0]

theorem rt11FreeListing : (rt11SampleSegment rt11FreeWords).listing =
    ⟨[⟨rt11EMpty, ⟨0, 0, 0⟩, 8, 0, 0, []⟩], some ⟨rt11EEos, ⟨0, 0, 0⟩, 0, 0, 0, []⟩⟩ := rfl

theorem rt11Free_listed : Rt11Listed (rt11Sample rt11FreeWords) 6 [rt11SampleSegment rt11FreeWords] := by
  refine ⟨rt11Sample_directory rfl rfl ⟨⟨⟨7, 72⟩, rfl⟩, ?_, ?_⟩, ?_⟩
  · rw [rt11FreeListing]
    exact Option.some_ne_none _
  · rw [rt11FreeListing]
    decide
  · intro s hs
    cases hs
    decide

theorem add_file_exact_three :
    Rt11AddExact (rt11Sample rt11FreeWords) 6 [rt11SampleSegment rt11FreeWords] [1, 2, 3] ⟨1, 2, 3⟩ 0 :=
  (add_file_exact_iff rt11Free_listed [1, 2, 3] ⟨1, 2, 3⟩ 0).2 (Or.inl (by decide))

/-- A file of 2^32 + 1 blocks on the empty volume is stored as one block. -/
theorem rt11Long_truncated {file : List Byte} (hlen : file.length = 2199023256064) :
    ¬ Rt11AddExact (rt11Sample rt11FreeWords) 6 [rt11SampleSegment rt11FreeWords] file ⟨1, 2, 3⟩ 0 := by
  have hneeded : rt11NeededBlocks file = 1 := by
    unfold rt11NeededBlocks
    rw [hlen]
    decide
  have htakes : rt11Takes (rt11Sample rt11FreeWords) [rt11SampleSegment rt11FreeWords] 1 = true := rfl
  have hnew : ¬ rt11Taken [rt11SampleSegment rt11FreeWords] ⟨1, 2, 3⟩ := by
    rintro ⟨s, hs, hsome⟩
    rw [List.mem_singleton.1 hs] at hsome
    exact hsome rfl
  unfold Rt11AddExact
  rcases rt11AddFile_outcome rt11Free_listed file ⟨1, 2, 3⟩ 0 with ⟨e, img', _, _, htaken | hfalse⟩ |
    ⟨img', hadd, hfilled, hfits, _, _⟩
  · exact absurd htaken hnew
  · rw [hneeded, htakes] at hfalse
    cases hfalse
  · rw [hadd]
    intro hadded
    have hshort := (hfilled.added_iff hfits).1 hadded
    rw [hlen] at hshort
    exact absurd hshort (by decide)

theorem add_stores_one_block : Rt11Listed (rt11Sample rt11FreeWords) 6 [rt11SampleSegment rt11FreeWords] ∧
    ¬ Rt11AddExact (rt11Sample rt11FreeWords) 6 [rt11SampleSegment rt11FreeWords]
      (List.replicate 2199023256064 1) ⟨1, 2, 3⟩ 0 :=
  ⟨rt11Free_listed, rt11Long_truncated List.length_replicate⟩

end K1801.Tools
