import K1801.Tools.Rt11Directory

/-! # Checking an RT-11 volume -/

namespace K1801.Tools

open Core Library

/-- What `rt11_fsck` prints, with the segment it is about. -/
inductive Rt11Finding where
  | chainLoop
  | dataStartDecreases (segNum dataStart next : Nat)
  | dataStartBeyond (segNum : Nat)
  | invalidEntrySize (segNum : Nat)
  | missingEos (segNum : Nat)
  | lengthsExceed (segNum : Nat)
  | eosMismatch (segNum sum eosLen expected : Nat)
  | fixedEos (segNum eosLen newLen : Nat)
  deriving Repr, DecidableEq

/-- The findings counted as errors; a repaired end mark counts as a fix. -/
def Rt11Finding.isError : Rt11Finding → Bool
  | .fixedEos .. => false
  | _ => true

def rt11FsckSegment (img : Rt11Image) (dirStart segNum expectedLen : Nat) (repair : Bool) :
    Rt11Result (List Rt11Finding) :=
  match rt11LoadSegment img dirStart segNum with
  | .error e => (.error e, img)
  | .ok seg =>
    match rt11EntryLayout seg.hdr with
    | .error _ => (.ok [.invalidEntrySize segNum], img)
    | .ok layout =>
      let scan := seg.scan layout
      match scan.eos with
      | none => (.ok [.missingEos segNum], img)
      | some eos =>
        let sum := rt11TotalLen scan.entries
        if expectedLen = 0 then (.ok [], img)
        else if expectedLen < sum then (.ok [.lengthsExceed segNum], img)
        else if sum + eos.length.toNat = expectedLen then (.ok [], img)
        else
          let newLen := expectedLen - sum
          if repair ∧ newLen ≤ 0xFFFF then
            let eosWord := 5 + scan.entries.length * layout.entryWords
            match rt11WriteSegment img seg.segBlock
                (Function.update seg.buf (eosWord + 4) (BitVec.ofNat 16 newLen)) with
            | (.error e, img) => (.error e, img)
            | (.ok _, img) => (.ok [.fixedEos segNum eos.length.toNat newLen], img)
          else (.ok [.eosMismatch segNum sum eos.length.toNat expectedLen], img)

/-- What a segment has room for: up to the data of the next one, the last up to the end of the volume. -/
def rt11ExpectedLen (img : Rt11Image) (segNum dataStart : Nat) (rest : List (Nat × Nat)) : Except Rt11Finding Nat :=
  match rest with
  | (_, next) :: _ =>
    if next < dataStart then .error (.dataStartDecreases segNum dataStart next) else .ok (next - dataStart)
  | [] =>
    if img.volumeBlocks < dataStart then .error (.dataStartBeyond segNum) else .ok (img.volumeBlocks - dataStart)

/-- The check of the segments that the walk met, each with its number and where its data start. -/
def rt11FsckSegments (dirStart : Nat) (repair : Bool) :
    List (Nat × Nat) → Rt11Image → Rt11Result (List Rt11Finding)
  | [], img => (.ok [], img)
  | (segNum, dataStart) :: rest, img =>
    let checked : Rt11Result (List Rt11Finding) :=
      match rt11ExpectedLen img segNum dataStart rest with
      | .error finding => (.ok [finding], img)
      | .ok expectedLen => rt11FsckSegment img dirStart segNum expectedLen repair
    match checked with
    | (.error e, img) => (.error e, img)
    | (.ok found, img) =>
      match rt11FsckSegments dirStart repair rest img with
      | (.error e, img) => (.error e, img)
      | (.ok found', img) => (.ok (found ++ found'), img)

def rt11FsckVisit (seg : Rt11Segment) (segs : List (Nat × Nat)) (img : Rt11Image) :
    Rt11Result (List (Nat × Nat) ⊕ Empty) :=
  (.ok (.inl (segs ++ [(seg.segNum, seg.hdr.dataStartBlock.toNat)])), img)

def rt11Fsck (img : Rt11Image) (repair : Bool) : Rt11Result (List Rt11Finding) :=
  match rt11WalkBegin img with
  | .error e => (.error e, img)
  | .ok walk =>
    match rt11WalkLoop rt11FsckVisit walk [] img with
    | (.error e, img) => (.error e, img)
    | (.ok (.inl (segs, last)), img) =>
      match rt11FsckSegments walk.dirStart repair segs img with
      | (.error e, img) => (.error e, img)
      | (.ok found, img) => (.ok ((if last.looped then [.chainLoop] else []) ++ found), img)

/-- On a directory of one segment that segment is checked against the rest of the volume. -/
theorem rt11Fsck_single {img : Rt11Image} {dirStart : Nat} {s : Rt11Segment}
    (hhome : rt11ReadHome img = .ok dirStart) (hload : rt11LoadSegment img dirStart 1 = .ok s)
    (hlast : s.hdr.nextSegment = 0) (hstart : s.hdr.dataStartBlock.toNat ≤ img.volumeBlocks) (repair : Bool) :
    rt11Fsck img repair =
      rt11FsckSegment img dirStart 1 (img.volumeBlocks - s.hdr.dataStartBlock.toNat) repair := by
  have hwalk : rt11WalkBegin img = .ok (rt11WalkReset dirStart) := by
    rw [rt11WalkBegin, hhome]
  obtain ⟨walk, hdone, hloop⟩ := rt11WalkLoop_single rt11FsckVisit [] hload hlast
  have hsegs : rt11WalkLoop rt11FsckVisit (rt11WalkReset dirStart) [] img =
      (.ok (.inl ([(1, s.hdr.dataStartBlock.toNat)], walk)), img) := by
    rw [hloop, rt11FsckVisit, (rt11LoadSegment_ok hload).2.1]
    rfl
  have hexpected : rt11ExpectedLen img 1 s.hdr.dataStartBlock.toNat [] =
      .ok (img.volumeBlocks - s.hdr.dataStartBlock.toNat) := if_neg (Nat.not_lt_of_le hstart)
  rw [rt11Fsck, hwalk]
  simp only [hsegs, rt11FsckSegments, hexpected, hdone, Bool.false_eq_true, if_false]
  rw [show (rt11WalkReset dirStart).dirStart = dirStart from rfl]
  rcases rt11FsckSegment img dirStart 1 (img.volumeBlocks - s.hdr.dataStartBlock.toNat) repair with ⟨e | found, img'⟩
  · rfl
  · simp only [List.append_nil, List.nil_append]

end K1801.Tools
