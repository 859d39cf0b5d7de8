import Mathlib.Data.List.Nodup
import K1801.Tools.Rsx11Calls

/-! # The blocks of an ODS-1 volume

What the loops over the blocks of a file read and write, and what a write leaves alone.
-/

namespace K1801.Tools.Rsx11

open Core Library Buffer

def RsxImage.block (img : RsxImage) (b : Nat) : Buffer := img.file.block 512 b

/-- The block lies in the host file. -/
def RsxImage.Holds (img : RsxImage) (b : Nat) : Prop := 512 * b + 512 ≤ img.file.length

/-- Only the blocks of `touched` differ. -/
structure RsxImage.Changed (img img' : RsxImage) (touched : Nat → Prop) : Prop where
  sizeBytes : img'.sizeBytes = img.sizeBytes
  length : img'.file.length = img.file.length
  block : ∀ b, ¬touched b → img'.block b = img.block b

namespace RsxImage.Changed

variable {img img' img'' : RsxImage} {touched touched' : Nat → Prop}

theorem refl (img : RsxImage) (touched : Nat → Prop) : img.Changed img touched := ⟨rfl, rfl, fun _ _ => rfl⟩

theorem trans (h : img.Changed img' touched) (h' : img'.Changed img'' touched) : img.Changed img'' touched :=
  ⟨h'.sizeBytes.trans h.sizeBytes, h'.length.trans h.length, fun b hb => (h'.block b hb).trans (h.block b hb)⟩

theorem mono (h : img.Changed img' touched) (hle : ∀ b, touched b → touched' b) : img.Changed img' touched' :=
  ⟨h.sizeBytes, h.length, fun b hb => h.block b fun hr => hb (hle b hr)⟩

theorem holds (h : img.Changed img' touched) (b : Nat) : img'.Holds b ↔ img.Holds b := by
  unfold RsxImage.Holds
  rw [h.length]

end RsxImage.Changed

variable {img img' : RsxImage}

theorem cut_block (img : RsxImage) (b : Nat) : cut 512 (img.block b) = img.block b :=
  DiskFile.cut_block img.file

theorem readAt_block {b : Nat} (h : img.Holds b) :
    readAt img (512 * b) 512 = .ok (img.block b) := by
  unfold readAt
  rw [DiskFile.readAt_block img.file h]
  rfl

theorem readBlock_ok {b : Nat} (h : img.Holds b) (hsize : 512 * (b + 1) ≤ img.sizeBytes) :
    readBlock img b = .ok (img.block b) := by
  unfold readBlock
  rw [if_neg (Nat.not_lt.mpr hsize), readAt_block h]

theorem readBlock_eq_ok {b : Nat} {buf : Buffer} (h : readBlock img b = .ok buf) :
    512 * (b + 1) ≤ img.sizeBytes ∧ img.Holds b ∧ buf = img.block b := by
  unfold readBlock at h
  by_cases hsize : img.sizeBytes < 512 * (b + 1)
  · rw [if_pos hsize] at h
    cases h
  · rw [if_neg hsize] at h
    unfold readAt at h
    cases hread : img.file.readAt (512 * b) 512 with
    | none =>
      rw [hread] at h
      cases h
    | some buf' =>
      rw [hread] at h
      cases h
      obtain ⟨hfits, hbuf⟩ := DiskFile.readAt_eq_some hread
      exact ⟨Nat.le_of_not_lt hsize, hfits, hbuf⟩

theorem readBlock_congr (hsize : img'.sizeBytes = img.sizeBytes) (hlen : img'.file.length = img.file.length) {b : Nat}
    (h : img'.block b = img.block b) : readBlock img' b = readBlock img b := by
  have hread : readAt img' (512 * b) 512 = readAt img (512 * b) 512 := by
    by_cases hin : img.Holds b
    · have hin' : img'.Holds b := by
        unfold RsxImage.Holds
        rw [hlen]
        exact hin
      rw [readAt_block hin, readAt_block hin', h]
    · unfold readAt DiskFile.readAt
      have hin' : ¬512 * b + 512 ≤ img'.file.length := by
        rw [hlen]
        exact hin
      rw [if_neg (show ¬512 * b + 512 ≤ img.file.length from hin), if_neg hin']
  unfold readBlock
  rw [hsize, hread]

theorem RsxImage.Changed.readBlock {touched : Nat → Prop} (h : img.Changed img' touched) {b : Nat} (hb : ¬touched b) :
    Rsx11.readBlock img' b = Rsx11.readBlock img b :=
  readBlock_congr h.sizeBytes h.length (h.block b hb)

/-! ## Single writes -/

theorem changed_writeAt {off n : Nat} (buf : Buffer) (h : off + n ≤ img.file.length) {touched : Nat → Prop}
    (ht : ∀ b, ¬touched b → off + n ≤ 512 * b ∨ 512 * b + 512 ≤ off) :
    img.Changed (writeAt img off n buf) touched :=
  ⟨rfl, DiskFile.writeAt_length buf h, fun b hb => DiskFile.block_writeAt_outside buf (ht b hb)⟩

theorem changed_writeBlock {lbn : Nat} (buf : Buffer) (h : img.Holds lbn) :
    img.Changed (writeAt img (512 * lbn) 512 buf) (· = lbn) :=
  changed_writeAt buf h fun _ hb => DiskFile.blocks_apart 512 (Ne.symm hb)

theorem block_writeBlock (img : RsxImage) (lbn : Nat) (buf : Buffer) :
    (writeAt img (512 * lbn) 512 buf).block lbn = cut 512 buf :=
  DiskFile.block_writeAt_same img.file buf

/-! ## The bytes of a file -/

/-- The bytes of the blocks, one block after the other. -/
def fileData (img : RsxImage) (lbns : List Nat) : Buffer := fun i =>
  match lbns[i / 512]? with
  | some b => img.block b (i % 512)
  | none => 0#8

theorem fileData_nil (img : RsxImage) : fileData img [] = zero := rfl

theorem fileData_cons (img : RsxImage) (b : Nat) (rest : List Nat) (i : Nat) :
    fileData img (b :: rest) i =
      if i < 512 then img.block b i else fileData img rest (i - 512) := by
  unfold fileData
  by_cases hi : i < 512
  · have hdiv : i / 512 = 0 := Nat.div_eq_of_lt hi
    rw [if_pos hi, hdiv, List.getElem?_cons_zero, Nat.mod_eq_of_lt hi]
  · have hdiv : i / 512 = (i - 512) / 512 + 1 := by omega
    have hmod : i % 512 = (i - 512) % 512 := by omega
    rw [if_neg hi, hdiv, List.getElem?_cons_succ, hmod]

theorem fileData_beyond (img : RsxImage) {lbns : List Nat} {i : Nat} (h : 512 * lbns.length ≤ i) :
    fileData img lbns i = 0#8 := by
  unfold fileData
  rw [List.getElem?_eq_none (by omega)]

theorem fileData_congr {lbns : List Nat} (h : ∀ b ∈ lbns, img'.block b = img.block b) :
    fileData img' lbns = fileData img lbns := by
  funext i
  unfold fileData
  cases hb : lbns[i / 512]? with
  | none => rfl
  | some b =>
    change img'.block b _ = img.block b _
    rw [h b (List.mem_of_getElem? hb)]

theorem RsxImage.Changed.fileData {touched : Nat → Prop} (h : img.Changed img' touched) {lbns : List Nat}
    (hl : ∀ b ∈ lbns, ¬touched b) : Rsx11.fileData img' lbns = Rsx11.fileData img lbns :=
  fileData_congr fun b hb => h.block b (hl b hb)

theorem readBlocksLoop_ok {lbns : List Nat} (h : ∀ b ∈ lbns, img.Holds b) (pos : Nat) (buf : Buffer) :
    readBlocksLoop img lbns pos (pos + 512 * lbns.length) buf =
      .ok (paste buf pos (512 * lbns.length) (fileData img lbns)) := by
  induction lbns generalizing pos buf with
  | nil =>
    have hpaste : paste buf pos 0 (fileData img []) = buf := by
      funext i
      rw [paste_outside _ _ (by omega)]
    simp only [readBlocksLoop, List.length_nil, Nat.mul_zero, Nat.add_zero, if_pos, hpaste]
  | cons b rest ih =>
    have hlen : pos + 512 * (b :: rest).length =
        pos + 512 + 512 * rest.length := by
      rw [List.length_cons]
      omega
    have hchunk : min (pos + 512 + 512 * rest.length - pos) 512 =
        512 := by omega
    rw [hlen]
    unfold readBlocksLoop
    rw [if_neg (by omega), hchunk]
    simp only [readAt_block (h b List.mem_cons_self)]
    rw [ih (fun b' hb' => h b' (List.mem_cons_of_mem b hb'))]
    congr 1
    funext i
    rw [List.length_cons]
    unfold paste
    rw [fileData_cons]
    have hgap : i - pos - 512 = i - (pos + 512) := by omega
    rw [hgap]
    split_ifs <;> first | rfl | omega

theorem readHeaderData_ok {hdr : RsxHeader} (h : ∀ b ∈ hdr.lbns, img.Holds b) :
    readHeaderData img hdr (512 * hdr.lbns.length) = .ok (fileData img hdr.lbns) := by
  have hloop := readBlocksLoop_ok h 0 zero
  rw [Nat.zero_add] at hloop
  unfold readHeaderData
  rw [hloop]
  congr 1
  funext i
  by_cases hi : i < 512 * hdr.lbns.length
  · rw [paste_inside _ _ (Nat.zero_le i) (by omega), Nat.sub_zero]
  · rw [paste_outside _ _ (by omega), fileData_beyond img (by omega), zero_apply]

/-- What `write_header_data` leaves: the blocks of the file hold the bytes, the others what they held. -/
theorem writeBlocksLoop_spec {lbns : List Nat} (hnd : lbns.Nodup) (h : ∀ b ∈ lbns, img.Holds b) (pos : Nat)
    (buf : Buffer) :
    img.Changed (writeBlocksLoop img lbns pos (pos + 512 * lbns.length) buf) (· ∈ lbns) ∧
    ∀ k b, lbns[k]? = some b →
      (writeBlocksLoop img lbns pos (pos + 512 * lbns.length) buf).block b =
        cut 512 (drop (pos + 512 * k) buf) := by
  induction lbns generalizing img pos with
  | nil => exact ⟨RsxImage.Changed.refl _ _, fun k b hb => by cases hb⟩
  | cons b rest ih =>
    have hlen : pos + 512 * (b :: rest).length =
        pos + 512 + 512 * rest.length := by
      rw [List.length_cons]
      omega
    have hchunk : min (pos + 512 + 512 * rest.length - pos) 512 =
        512 := by omega
    rw [hlen]
    unfold writeBlocksLoop
    rw [if_neg (by omega), hchunk]
    have hfirst : img.Changed (writeAt img (512 * b) 512 (drop pos buf)) (· = b) :=
      changed_writeBlock (drop pos buf) (h b List.mem_cons_self)
    obtain ⟨hb, hrest⟩ := List.nodup_cons.mp hnd
    obtain ⟨hchanged, hblocks⟩ := @ih (writeAt img (512 * b) 512 (drop pos buf)) hrest
      (fun b' hb' => (hfirst.holds b').mpr (h b' (List.mem_cons_of_mem b hb'))) (pos + 512)
    constructor
    · refine RsxImage.Changed.trans (hfirst.mono ?_) (hchanged.mono ?_)
      · intro b' hb'
        rw [hb']
        exact List.mem_cons_self
      · intro b' hb'
        exact List.mem_cons_of_mem b hb'
    · intro k b' hk
      cases k with
      | zero =>
        rw [List.getElem?_cons_zero] at hk
        cases hk
        rw [hchanged.block b hb, block_writeBlock, Nat.mul_zero, Nat.add_zero]
      | succ k =>
        rw [List.getElem?_cons_succ] at hk
        have hoff : pos + 512 * (k + 1) = pos + 512 + 512 * k := by rw [Nat.mul_succ, Nat.add_assoc, Nat.add_comm 512]
        rw [hblocks k b' hk, hoff]

section Write

variable {hdr : RsxHeader} (hnd : hdr.lbns.Nodup) (h : ∀ b ∈ hdr.lbns, img.Holds b) (buf : Buffer)
include hnd h

theorem writeHeaderData_changed :
    img.Changed (writeHeaderData img hdr buf (512 * hdr.lbns.length)) (· ∈ hdr.lbns) := by
  have hspec := (writeBlocksLoop_spec hnd h 0 buf).1
  rw [Nat.zero_add] at hspec
  exact hspec

theorem fileData_writeHeaderData :
    fileData (writeHeaderData img hdr buf (512 * hdr.lbns.length)) hdr.lbns =
      cut (512 * hdr.lbns.length) buf := by
  have hspec := (writeBlocksLoop_spec hnd h 0 buf).2
  rw [Nat.zero_add] at hspec
  funext i
  unfold fileData
  cases hb : hdr.lbns[i / 512]? with
  | none =>
    have hge := List.getElem?_eq_none_iff.mp hb
    rw [cut_ge buf (by omega)]
  | some b =>
    obtain ⟨hlt, -⟩ := List.getElem?_eq_some_iff.mp hb
    change (writeHeaderData img hdr buf _).block b (i % 512) = _
    have hblock : (writeHeaderData img hdr buf (512 * hdr.lbns.length)).block b = _ := hspec _ b hb
    rw [hblock, cut_lt _ (Nat.mod_lt i (by decide)), drop_apply, cut_lt buf (by omega)]
    congr 1
    omega

end Write

/-- What `extract_header_to_path` writes. -/
theorem extractLoop_ok {lbns : List Nat} (h : ∀ b ∈ lbns, img.Holds b ∧ 512 * (b + 1) ≤ img.sizeBytes)
    {remaining : Nat} (hr : remaining ≤ 512 * lbns.length) (out : List Byte) :
    extractLoop img lbns remaining out = .ok (out ++ (List.range remaining).map (fileData img lbns)) := by
  induction lbns generalizing remaining out with
  | nil =>
    rw [List.length_nil] at hr
    have hzero : remaining = 0 := by omega
    subst hzero
    rw [extractLoop, List.range_zero, List.map_nil, List.append_nil]
  | cons b rest ih =>
    unfold extractLoop
    by_cases hz : remaining = 0
    · rw [if_pos hz, hz, List.range_zero, List.map_nil, List.append_nil]
    · obtain ⟨hin, hsize⟩ := h b List.mem_cons_self
      rw [if_neg hz, readBlock_ok hin hsize]
      change extractLoop img rest (remaining - min remaining 512) _ = _
      rw [List.length_cons] at hr
      rw [ih (fun b' hb' => h b' (List.mem_cons_of_mem b hb')) (by omega), List.append_assoc]
      have hsplit : remaining = min remaining 512 + (remaining - min remaining 512) := by omega
      congr 2
      conv => rhs; rw [hsplit, List.range_add, List.map_append, List.map_map]
      congr 1
      · apply List.map_congr_left
        intro i hi
        rw [List.mem_range] at hi
        rw [fileData_cons, if_pos (by omega)]
      · apply List.map_congr_left
        intro i hi
        rw [List.mem_range] at hi
        have hmin : min remaining 512 = 512 := by omega
        rw [Function.comp_apply, hmin, fileData_cons, if_neg (Nat.not_lt.mpr (Nat.le_add_right 512 i)),
          Nat.add_sub_cancel_left]

end K1801.Tools.Rsx11
