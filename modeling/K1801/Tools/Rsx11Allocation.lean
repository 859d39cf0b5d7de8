import K1801.Library.Checks
import K1801.Library.Runs
import K1801.Tools.Rsx11RoundTrip

/-! # Allocating blocks

The allocation takes the first free blocks, run by run, and cuts the runs into pieces of at most 256 blocks.
-/

namespace K1801.Tools.Rsx11

open Core Library Buffer

/-! ## The loop -/

/-- The loop of `allocate_file_extents` from block `b` on, whose counter has 32 bits, for `fuel` rounds. -/
def extentsLoop (isFree : Nat → Bool) (unitBlocks : Nat) : Nat → BitVec 32 → AllocState →
    Option (Except RsxErrno (List RsxExtent))
  | 0, _, _ => none
  | fuel + 1, b, st =>
    if b.toNat ≤ unitBlocks then
      if b.toNat < unitBlocks ∧ isFree b.toNat then
        extentsLoop isFree unitBlocks fuel (b + 1)
          { st with runStart := if st.runBlocks = 0 then b.toNat else st.runStart, runBlocks := st.runBlocks + 1 }
      else if st.runBlocks = 0 then extentsLoop isFree unitBlocks fuel (b + 1) st
      else match closeRun st with
        | .error e => some (.error e)
        | .ok st =>
          if st.needed = 0 then some (.ok st.extents) else extentsLoop isFree unitBlocks fuel (b + 1) st
    else some (.error .enospc)

/-- Short of the largest unit the counter does not wrap, and the loop ends. -/
theorem extentsLoop_eq (isFree : Nat → Bool) {unitBlocks : Nat} (hunit : unitBlocks < 4294967295) (n : Nat) {b : Nat}
    (hb : b + n = unitBlocks) {fuel : Nat} (hfuel : n + 2 ≤ fuel) (st : AllocState) :
    extentsLoop isFree unitBlocks fuel (BitVec.ofNat 32 b) st = some (allocateLoop isFree n b st) := by
  induction n generalizing b fuel st with
  | zero =>
    obtain ⟨fuel, rfl⟩ : ∃ k, fuel = k + 2 := ⟨fuel - 2, by omega⟩
    have hval : (BitVec.ofNat 32 b).toNat = b := by
      rw [BitVec.toNat_ofNat]
      exact Nat.mod_eq_of_lt (by omega)
    have hnext : (BitVec.ofNat 32 b + 1).toNat = b + 1 := by
      rw [BitVec.toNat_add, hval]
      exact Nat.mod_eq_of_lt (show b + 1 < 4294967296 by omega)
    have hout : ∀ st, extentsLoop isFree unitBlocks (fuel + 1) (BitVec.ofNat 32 b + 1) st =
        some (.error .enospc) := by
      intro st
      unfold extentsLoop
      rw [hnext, if_neg (by omega)]
    unfold extentsLoop allocateLoop
    rw [hval, if_pos (by omega), if_neg (fun h => absurd h.1 (by omega))]
    by_cases hrun : st.runBlocks = 0
    · rw [if_pos hrun, if_pos hrun, hout]
    · rw [if_neg hrun, if_neg hrun]
      cases closeRun st with
      | error e => rfl
      | ok st' =>
        by_cases hdone : st'.needed = 0
        · exact (if_pos hdone).trans (congrArg some (if_pos hdone).symm)
        · exact (if_neg hdone).trans ((hout st').trans (congrArg some (if_neg hdone).symm))
  | succ n ih =>
    obtain ⟨fuel, rfl⟩ : ∃ k, fuel = k + 1 := ⟨fuel - 1, by omega⟩
    have hval : (BitVec.ofNat 32 b).toNat = b := by
      rw [BitVec.toNat_ofNat]
      exact Nat.mod_eq_of_lt (by omega)
    have hnext : BitVec.ofNat 32 b + 1 = BitVec.ofNat 32 (b + 1) := (BitVec.ofNat_add _ _).symm
    have hgo : ∀ st, extentsLoop isFree unitBlocks fuel (BitVec.ofNat 32 b + 1) st =
        some (allocateLoop isFree n (b + 1) st) := fun st => by
      rw [hnext]
      exact ih (by omega) (by omega) st
    unfold extentsLoop allocateLoop
    rw [hval, if_pos (by omega)]
    cases hfree : isFree b with
    | true => rw [if_pos ⟨by omega, rfl⟩, if_pos rfl, hgo]
    | false =>
      rw [if_neg (fun h => Bool.false_ne_true h.2), if_neg Bool.false_ne_true]
      by_cases hrun : st.runBlocks = 0
      · rw [if_pos hrun, if_pos hrun, hgo]
      · rw [if_neg hrun, if_neg hrun]
        cases closeRun st with
        | error e => rfl
        | ok st' =>
          by_cases hdone : st'.needed = 0
          · exact (if_pos hdone).trans (congrArg some (if_pos hdone).symm)
          · exact (if_neg hdone).trans ((hgo st').trans (congrArg some (if_neg hdone).symm))

/-! ## First fit -/

def ofRun (e : Extent) : RsxExtent := ⟨e.start, e.len⟩

/-- The extents that hold the blocks of a list. -/
def piecesOf (blocks : List Nat) : List RsxExtent := mapPieces ((runs blocks).map ofRun)

/-- What first fit answers for `count` blocks of the free ones. -/
def firstFit (count : Nat) (free : List Nat) : Except RsxErrno (List RsxExtent) :=
  if rsx11MaxExtents < (piecesOf (free.take count)).length then .error .efbig
  else if free.length < count then .error .enospc
  else .ok (piecesOf (free.take count))

theorem piecesOf_lbns (blocks : List Nat) : (piecesOf blocks).flatMap RsxExtent.lbns = blocks := by
  unfold piecesOf
  rw [mapPieces_lbns, List.flatMap_map]
  exact runs_blocks blocks

theorem piecesOf_append {l m : List Nat} (h : ∀ x ∈ l, ∀ y ∈ m.head?, x + 1 ≠ y) :
    piecesOf (l ++ m) = piecesOf l ++ piecesOf m := by
  unfold piecesOf mapPieces
  rw [runs_append h, List.map_append, List.flatMap_append]

theorem piecesOf_range' (start : Nat) {n : Nat} (h : n ≠ 0) :
    piecesOf (List.range' start n) = splitExtent ⟨start, n⟩ := by
  unfold piecesOf mapPieces
  rw [runs_range' start h]
  exact List.append_nil _

theorem splitExtent_size {e piece : RsxExtent} (hp : piece ∈ splitExtent e) :
    0 < piece.blocks ∧ piece.blocks ≤ 256 := by
  unfold splitExtent at hp
  obtain ⟨k, hk, rfl⟩ := List.mem_map.1 hp
  rw [List.mem_range] at hk
  change 0 < min (e.blocks - 256 * k) 256 ∧ min (e.blocks - 256 * k) 256 ≤ 256
  omega

theorem piecesOf_size {blocks : List Nat} {piece : RsxExtent} (hp : piece ∈ piecesOf blocks) :
    0 < piece.blocks ∧ piece.blocks ≤ 256 := by
  obtain ⟨e, -, hpe⟩ := List.mem_flatMap.1 hp
  exact splitExtent_size hpe

theorem firstFit_settled {count : Nat} {taken free : List Nat} (h : free.take count = taken)
    (hlen : taken.length = count) :
    firstFit count free =
      if rsx11MaxExtents < (piecesOf taken).length then .error .efbig else .ok (piecesOf taken) := by
  have henough : ¬free.length < count := by
    have hmin := congrArg List.length h
    rw [List.length_take] at hmin
    omega
  unfold firstFit
  rw [h, if_neg henough]

theorem firstFit_short {count : Nat} {free : List Nat} (h : free.length < count) :
    firstFit count free =
      if rsx11MaxExtents < (piecesOf free).length then .error .efbig else .error .enospc := by
  unfold firstFit
  rw [List.take_of_length_le (Nat.le_of_lt h), if_pos h]

/-- Where the extents so far come from. -/
structure AllocatedSoFar (st : AllocState) (closed : List Nat) (b : Nat) : Prop where
  extents : st.extents = piecesOf closed
  room : ¬rsx11MaxExtents < (piecesOf closed).length
  run : st.runBlocks ≠ 0 → st.runStart + st.runBlocks = b
  gap : ∀ x ∈ closed, x + 1 < if st.runBlocks = 0 then b else st.runStart
  needed : st.needed ≠ 0

section Loop

variable {st : AllocState} {closed : List Nat} {b : Nat} (h : AllocatedSoFar st closed b)
include h

theorem closeRun_spec (hrun : st.runBlocks ≠ 0) :
    closeRun st =
      if rsx11MaxExtents < (piecesOf (closed ++ List.range' st.runStart (min st.runBlocks st.needed))).length then
        .error .efbig
      else .ok ⟨piecesOf (closed ++ List.range' st.runStart (min st.runBlocks st.needed)), st.runStart, 0,
        st.needed - min st.runBlocks st.needed⟩ := by
  have hneed := h.needed
  have hgap := h.gap
  rw [if_neg hrun] at hgap
  have htake : min st.runBlocks st.needed ≠ 0 := by omega
  have hpieces : piecesOf (closed ++ List.range' st.runStart (min st.runBlocks st.needed)) =
      st.extents ++ splitExtent ⟨st.runStart, min st.runBlocks st.needed⟩ := by
    rw [h.extents, ← piecesOf_range' _ htake]
    apply piecesOf_append
    intro x hx y hy
    rw [List.head?_range', if_neg htake, Option.mem_some_iff] at hy
    have hlt := hgap x hx
    omega
  unfold closeRun
  rw [hpieces, List.length_append]

/-- Closing a run either settles the request or leaves the rest of it for the blocks behind. -/
theorem close_firstFit (hrun : st.runBlocks ≠ 0) {later : List Nat} (hlater : ∀ y ∈ later, b < y)
    {rest : AllocState → Except RsxErrno (List RsxExtent)}
    (hrest : ¬rsx11MaxExtents < (piecesOf (closed ++ List.range' st.runStart st.runBlocks)).length →
      st.runBlocks < st.needed →
      rest ⟨piecesOf (closed ++ List.range' st.runStart st.runBlocks), st.runStart, 0, st.needed - st.runBlocks⟩ =
        firstFit (closed.length + st.needed) (closed ++ List.range' st.runStart st.runBlocks ++ later)) :
    (closeRun st >>= fun st => if st.needed = 0 then .ok st.extents else rest st) =
      firstFit (closed.length + st.needed) (closed ++ List.range' st.runStart st.runBlocks ++ later) := by
  have hend := h.run hrun
  have hgap := h.gap
  rw [if_neg hrun] at hgap
  rw [closeRun_spec h hrun]
  by_cases henough : st.needed ≤ st.runBlocks
  · have htaken : (closed ++ List.range' st.runStart st.runBlocks ++ later).take (closed.length + st.needed) =
        closed ++ List.range' st.runStart st.needed := by
      rw [List.append_assoc, List.take_length_add_append, List.take_append_of_le_length
        (by rw [List.length_range']; exact henough), List.take_range'_of_length_ge henough]
    rw [firstFit_settled htaken (by rw [List.length_append, List.length_range']), Nat.min_eq_right henough]
    by_cases hmany : rsx11MaxExtents < (piecesOf (closed ++ List.range' st.runStart st.needed)).length
    · rw [if_pos hmany, if_pos hmany]
      rfl
    · rw [if_neg hmany, if_neg hmany]
      exact if_pos (Nat.sub_self _)
  · rw [Nat.min_eq_left (by omega)]
    by_cases hmany : rsx11MaxExtents < (piecesOf (closed ++ List.range' st.runStart st.runBlocks)).length
    · rw [if_pos hmany]
      have htaken : (closed ++ List.range' st.runStart st.runBlocks ++ later).take (closed.length + st.needed) =
          closed ++ List.range' st.runStart st.runBlocks ++ later.take (st.needed - st.runBlocks) := by
        rw [List.take_append, List.take_of_length_le (by rw [List.length_append, List.length_range']; omega),
          List.length_append, List.length_range']
        congr 2
        omega
      have happend : piecesOf (closed ++ List.range' st.runStart st.runBlocks ++
            later.take (st.needed - st.runBlocks)) =
          piecesOf (closed ++ List.range' st.runStart st.runBlocks) ++
            piecesOf (later.take (st.needed - st.runBlocks)) := by
        apply piecesOf_append
        intro x hx y hy
        have hy' := hlater y (List.mem_of_mem_take (List.mem_of_mem_head? hy))
        rw [List.mem_append, List.mem_range'_1] at hx
        rcases hx with hx | hx
        · have hlt := hgap x hx
          omega
        · omega
      unfold firstFit
      rw [htaken, happend, List.length_append, if_pos (Nat.lt_of_lt_of_le hmany (Nat.le_add_right _ _))]
      rfl
    · rw [if_neg hmany, ← hrest hmany (by omega)]
      exact if_neg (show st.needed - st.runBlocks ≠ 0 by omega)

end Loop

/-- The loop answers what first fit does. -/
theorem allocateLoop_firstFit (isFree : Nat → Bool) (n : Nat) {b : Nat} {st : AllocState} {closed : List Nat}
    (h : AllocatedSoFar st closed b) :
    allocateLoop isFree n b st = firstFit (closed.length + st.needed)
      (closed ++ List.range' st.runStart st.runBlocks ++ (List.range' b n).filter isFree) := by
  induction n generalizing b st closed with
  | zero =>
    have hneed := h.needed
    unfold allocateLoop
    by_cases hrun : st.runBlocks = 0
    · rw [if_pos hrun, hrun, List.range'_zero, List.range'_zero, List.filter_nil, List.append_nil, List.append_nil,
        firstFit_short (by omega), if_neg h.room]
    · rw [if_neg hrun]
      refine close_firstFit h hrun (fun y hy => by cases hy) fun hroom hless => ?_
      rw [List.range'_zero, List.filter_nil, List.append_nil,
        firstFit_short (by rw [List.length_append, List.length_range']; omega), if_neg hroom]
  | succ n ih =>
    have hneed := h.needed
    have hgap := h.gap
    unfold allocateLoop
    rw [List.range'_succ]
    cases hfree : isFree b with
    | true =>
      have hrun' : List.range' st.runStart st.runBlocks ++ [b] = List.range'
          (if st.runBlocks = 0 then b else st.runStart) (st.runBlocks + 1) := by
        by_cases hrun : st.runBlocks = 0
        · rw [if_pos hrun, hrun]
          rfl
        · rw [if_neg hrun, List.range'_concat, Nat.one_mul, h.run hrun]
      have hnext : AllocatedSoFar { st with
          runStart := if st.runBlocks = 0 then b else st.runStart
          runBlocks := st.runBlocks + 1 } closed (b + 1) := by
        refine ⟨h.extents, h.room, fun _ => ?_, ?_, hneed⟩
        · change (if st.runBlocks = 0 then b else st.runStart) + (st.runBlocks + 1) = b + 1
          by_cases hrun : st.runBlocks = 0
          · rw [if_pos hrun, hrun]
          · rw [if_neg hrun, ← h.run hrun]
            rfl
        · rw [if_neg (Nat.succ_ne_zero st.runBlocks)]
          exact hgap
      rw [if_pos rfl, List.filter_cons_of_pos hfree, ih hnext, ← hrun', List.append_assoc, List.append_assoc,
        List.append_assoc]
      rfl
    | false =>
      rw [if_neg Bool.false_ne_true, List.filter_cons_of_neg (by rw [hfree]; exact Bool.false_ne_true)]
      by_cases hrun : st.runBlocks = 0
      · rw [if_pos hrun]
        refine ih ⟨h.extents, h.room, fun hne => absurd hrun hne, ?_, hneed⟩
        rw [if_pos hrun] at hgap ⊢
        exact fun x hx => Nat.lt_succ_of_lt (hgap x hx)
      · rw [if_neg hrun]
        rw [if_neg hrun] at hgap
        have hend := h.run hrun
        refine close_firstFit h hrun ?_ fun hroom hless => ?_
        · intro y hy
          have hmem := List.mem_of_mem_filter hy
          rw [List.mem_range'_1] at hmem
          omega
        · have hnext : AllocatedSoFar ⟨piecesOf (closed ++ List.range' st.runStart st.runBlocks), st.runStart, 0,
              st.needed - st.runBlocks⟩ (closed ++ List.range' st.runStart st.runBlocks) (b + 1) := by
            refine ⟨rfl, hroom, fun hne => absurd rfl hne, ?_, show st.needed - st.runBlocks ≠ 0 by omega⟩
            intro x hx
            rw [if_pos rfl]
            rw [List.mem_append, List.mem_range'_1] at hx
            rcases hx with hx | hx
            · have hlt := hgap x hx
              omega
            · omega
          have hcount : closed.length + st.runBlocks + (st.needed - st.runBlocks) = closed.length + st.needed := by
            omega
          rw [ih hnext, List.range'_zero, List.append_nil, List.length_append, List.length_range', hcount]

/-- The free blocks of the unit. -/
def freeBlocks (data : Buffer) (size unitBlocks : Nat) : List Nat :=
  (List.range unitBlocks).filter (storageBitmapIsFree data size)

theorem allocateFileExtents_firstFit (data : Buffer) (size unitBlocks needed : Nat) :
    allocateFileExtents data size unitBlocks needed = firstFit needed (freeBlocks data size unitBlocks) := by
  unfold allocateFileExtents freeBlocks
  by_cases hzero : needed = 0
  · rw [if_pos hzero, hzero]
    rfl
  · have hstart : AllocatedSoFar ⟨[], 0, 0, needed⟩ [] 0 :=
      ⟨rfl, by decide, fun hne => absurd rfl hne, fun _ hx => absurd hx List.not_mem_nil, hzero⟩
    rw [if_neg hzero, allocateLoop_firstFit _ _ hstart, List.length_nil, Nat.zero_add, List.range_eq_range']
    rfl

/-! ## Marking the blocks -/

theorem storageBitmapIsFree_inside {data : Buffer} {size b : Nat} (h : storageBitmapIsFree data size b = true) :
    512 + b / 8 < size ∧ bit data (4096 + b) = true := by
  unfold storageBitmapIsFree at h
  obtain ⟨hsize, hbit⟩ := Bool.and_eq_true_iff.1 h
  refine ⟨of_decide_eq_true hsize, ?_⟩
  unfold bit at hbit ⊢
  have hbyte : (4096 + b) / 8 = 512 + b / 8 := by omega
  have hoff : (4096 + b) % 8 = b % 8 := by omega
  rw [hbyte, hoff]
  exact hbit

theorem setBlocksFree_bit {size : Nat} {lbns : List Nat} (h : ∀ b ∈ lbns, 512 + b / 8 < size) (data : Buffer)
    (isFree : Bool) (j : Nat) :
    bit (setBlocksFree data size lbns isFree) j =
      if 4096 ≤ j ∧ j - 4096 ∈ lbns then isFree else bit data j := by
  unfold setBlocksFree
  induction lbns generalizing data with
  | nil => exact (if_neg fun hj => by cases hj.2).symm
  | cons b rest ih =>
    rw [List.foldl_cons, ih fun b' hb' => h b' (List.mem_cons_of_mem b hb')]
    have hin := h b List.mem_cons_self
    by_cases hrest : 4096 ≤ j ∧ j - 4096 ∈ rest
    · rw [if_pos hrest, if_pos ⟨hrest.1, List.mem_cons_of_mem b hrest.2⟩]
    · rw [if_neg hrest]
      unfold storageBitmapSetFree
      rw [if_neg (Nat.not_le.2 hin), bit_setBit]
      by_cases hb : j = 8 * 512 + b
      · rw [if_pos hb, if_pos ⟨by omega, List.mem_cons.2 (.inl (by omega))⟩]
      · rw [if_neg hb, if_neg]
        rintro ⟨hle, hmem⟩
        rcases List.mem_cons.1 hmem with heq | hmem
        · omega
        · exact hrest ⟨hle, hmem⟩

/-- What an allocation is for: the blocks of the extents, in ascending order, were free blocks of the unit, there are
    as many as asked for, and marking them changes their bits and no others. -/
structure Allocated (data : Buffer) (size unitBlocks needed : Nat) (extents : List RsxExtent) : Prop where
  ascending : (extents.flatMap RsxExtent.lbns).Pairwise (· < ·)
  sizes : ∀ e ∈ extents, 1 ≤ e.blocks ∧ e.blocks ≤ 256
  free : ∀ b ∈ extents.flatMap RsxExtent.lbns, b < unitBlocks ∧ storageBitmapIsFree data size b = true
  total : (extents.map RsxExtent.blocks).sum = needed
  used : ∀ b ∈ extents.flatMap RsxExtent.lbns,
    storageBitmapIsFree (setBlocksFree data size (extents.flatMap RsxExtent.lbns) false) size b = false
  kept : ∀ j, ¬(4096 ≤ j ∧ j - 4096 ∈ extents.flatMap RsxExtent.lbns) →
    bit (setBlocksFree data size (extents.flatMap RsxExtent.lbns) false) j = bit data j

theorem firstFit_allocated {data : Buffer} {size unitBlocks needed : Nat} {extents : List RsxExtent}
    (h : firstFit needed (freeBlocks data size unitBlocks) = .ok extents) :
    Allocated data size unitBlocks needed extents := by
  unfold firstFit at h
  split_ifs at h with hmany hshort
  have hextents := (Except.ok.inj h).symm
  have hlbns : extents.flatMap RsxExtent.lbns = (freeBlocks data size unitBlocks).take needed := by
    rw [hextents, piecesOf_lbns]
  have hfree : ∀ b ∈ extents.flatMap RsxExtent.lbns, b < unitBlocks ∧ storageBitmapIsFree data size b = true := by
    intro b hb
    rw [hlbns] at hb
    obtain ⟨hrange, hbit⟩ := List.mem_filter.1 (List.mem_of_mem_take hb)
    exact ⟨List.mem_range.1 hrange, hbit⟩
  have hinside : ∀ b ∈ extents.flatMap RsxExtent.lbns, 512 + b / 8 < size := fun b hb =>
    (storageBitmapIsFree_inside (hfree b hb).2).1
  refine { ascending := ?_, sizes := ?_, free := hfree, total := ?_, used := ?_, kept := ?_ }
  · rw [hlbns]
    exact (List.pairwise_lt_range.filter _).sublist (List.take_sublist _ _)
  · intro e he
    rw [hextents] at he
    exact piecesOf_size he
  · rw [sum_blocks, hlbns, List.length_take]
    omega
  · intro b hb
    rw [Bool.eq_false_iff]
    intro hset
    have hbit := (storageBitmapIsFree_inside hset).2
    rw [setBlocksFree_bit hinside, if_pos ⟨Nat.le_add_right _ _, by rwa [Nat.add_sub_cancel_left]⟩] at hbit
    cases hbit
  · intro j hj
    rw [setBlocksFree_bit hinside, if_neg hj]

/-- Over a unit short of the largest one the loop ends. What it answers on success is an allocation, which the caller
    marks; it fails when fewer blocks are free than asked for, and else only when they need too many extents. -/
theorem allocate_file_extents_sound {unitBlocks : Nat} (hunit : unitBlocks < 4294967295) (data : Buffer)
    (size needed : Nat) :
    (needed ≠ 0 → ∀ fuel, unitBlocks + 2 ≤ fuel →
      extentsLoop (storageBitmapIsFree data size) unitBlocks fuel 0 ⟨[], 0, 0, needed⟩ =
        some (allocateFileExtents data size unitBlocks needed)) ∧
    (∀ extents, allocateFileExtents data size unitBlocks needed = .ok extents →
      Allocated data size unitBlocks needed extents) ∧
    (∀ e, allocateFileExtents data size unitBlocks needed = .error e →
      e = .enospc ∧ (freeBlocks data size unitBlocks).length < needed ∨
      e = .efbig ∧ rsx11MaxExtents < (piecesOf ((freeBlocks data size unitBlocks).take needed)).length) ∧
    ((freeBlocks data size unitBlocks).length < needed →
      ∃ e, allocateFileExtents data size unitBlocks needed = .error e) := by
  refine ⟨?_, ?_, ?_, ?_⟩
  · intro hneeded fuel hfuel
    unfold allocateFileExtents
    rw [if_neg hneeded]
    exact extentsLoop_eq _ hunit unitBlocks (Nat.zero_add _) hfuel _
  · intro extents h
    rw [allocateFileExtents_firstFit] at h
    exact firstFit_allocated h
  · intro e h
    rw [allocateFileExtents_firstFit] at h
    unfold firstFit at h
    split_ifs at h with hmany hshort
    · exact .inr ⟨(Except.error.inj h).symm, hmany⟩
    · exact .inl ⟨(Except.error.inj h).symm, hshort⟩
  · intro hshort
    rw [allocateFileExtents_firstFit, firstFit_short hshort]
    by_cases hmany : rsx11MaxExtents < (piecesOf (freeBlocks data size unitBlocks)).length
    · exact ⟨_, if_pos hmany⟩
    · exact ⟨_, if_neg hmany⟩

/-- One block of two. -/
theorem allocate_one_block : Allocated (put zero 512 2#8) 1024 2 1 [⟨1, 1⟩] :=
  (allocate_file_extents_sound (by decide) (put zero 512 2#8) 1024 1).2.1 _ (by rfl)

/-- The bitmap is only read: a block that was taken is free until the caller marks it. -/
theorem allocation_marks_nothing : ¬ ∀ (data : Buffer) (size unitBlocks needed : Nat) (extents : List RsxExtent),
    allocateFileExtents data size unitBlocks needed = .ok extents →
    ∀ b ∈ extents.flatMap RsxExtent.lbns, storageBitmapIsFree data size b = false := by
  intro h
  have hused := h (put zero 512 2#8) 1024 2 1 [⟨1, 1⟩] (by rfl) 1 (by decide)
  exact absurd hused (by decide)

end K1801.Tools.Rsx11
