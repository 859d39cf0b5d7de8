import K1801.Tools.Rsx11Blocks

/-! # The directories of an ODS-1 volume

A directory is a sequence of records; a walk visits them in order. Entering a file fills a record that named none.
-/

namespace K1801.Tools.Rsx11

open Core Library Buffer

variable {img img' : RsxImage}

/-- Record `k` of a directory. -/
def record (data : Buffer) (k : Nat) : Buffer := cut 16 (drop (16 * k) data)

/-- Where record `k` lies in the image. -/
def recordOffset (lbns : List Nat) (k : Nat) : Nat := 512 * lbns.getD (k / 32) 0 + 16 * (k % 32)

/-- How many bytes of the file the walk reads. -/
def dirBytes (hdr : RsxHeader) : Nat := if hdr.sizeBytes = 0 then 512 * headerTotalBlocks hdr else hdr.sizeBytes

theorem lbns_length (hdr : RsxHeader) : hdr.lbns.length = headerTotalBlocks hdr := by
  unfold RsxHeader.lbns headerTotalBlocks
  rw [List.length_flatMap]
  congr 1
  apply List.map_congr_left
  intro e _
  exact List.length_range'

section Walk

variable {σ : Type} (image : σ → RsxImage) (cb : Buffer → Nat → σ → σ)

/-- The records from number `k` on. -/
def visitRecords (lbns : List Nat) (data : Buffer) (count : Nat) (s : σ) : σ :=
  (List.range count).foldl (fun s k => cb (record data k) (recordOffset lbns k) s) s

theorem walkRecords_eq (block : Buffer) (base : Nat) (ks : List Nat) (s : σ) :
    walkRecords cb block base ks s = ks.foldl (fun s k => cb (record block k) (base + 16 * k) s) s := by
  induction ks generalizing s with
  | nil => rfl
  | cons k rest ih => exact ih _

theorem record_first (img : RsxImage) (b : Nat) (rest : List Nat) {k : Nat} (h : k < 32) :
    record (fileData img (b :: rest)) k = record (img.block b) k := by
  apply cut_congr
  intro i hi
  rw [drop_apply, drop_apply, fileData_cons, if_pos (by omega)]

theorem record_rest (img : RsxImage) (b : Nat) (rest : List Nat) (k : Nat) :
    record (fileData img (b :: rest)) (32 + k) = record (fileData img rest) k := by
  apply cut_congr
  intro i hi
  rw [drop_apply, drop_apply, fileData_cons, if_neg (by omega)]
  have hoff : 16 * (32 + k) + i = 512 + (16 * k + i) := by omega
  rw [hoff, Nat.add_sub_cancel_left]

theorem recordOffset_first (b : Nat) (rest : List Nat) {k : Nat} (h : k < 32) :
    recordOffset (b :: rest) k = 512 * b + 16 * k := by
  unfold recordOffset
  rw [Nat.div_eq_of_lt h, Nat.mod_eq_of_lt h, List.getD_cons_zero]

theorem recordOffset_rest (b : Nat) (rest : List Nat) (k : Nat) :
    recordOffset (b :: rest) (32 + k) = recordOffset rest k := by
  unfold recordOffset
  have hdiv : (32 + k) / 32 = k / 32 + 1 := by omega
  have hmod : (32 + k) % 32 = k % 32 := by omega
  rw [hdiv, hmod, List.getD_cons_succ]

theorem visitRecords_cons (b : Nat) (rest : List Nat) (n : Nat) (s : σ) :
    visitRecords cb (b :: rest) (fileData img (b :: rest)) (32 + n) s =
      visitRecords cb rest (fileData img rest) n
        (walkRecords cb (img.block b) (512 * b) (List.range 32) s) := by
  unfold visitRecords
  rw [walkRecords_eq, List.range_add, List.foldl_append, List.foldl_map]
  have hfirst : (List.range 32).foldl
      (fun s k => cb (record (fileData img (b :: rest)) k) (recordOffset (b :: rest) k) s) s =
      (List.range 32).foldl (fun s k => cb (record (img.block b) k) (512 * b + 16 * k) s) s := by
    apply List.foldl_ext
    intro s k hk
    rw [List.mem_range] at hk
    rw [record_first img b rest hk, recordOffset_first b rest hk]
  rw [hfirst]
  apply List.foldl_ext
  intro s k _
  rw [record_rest, recordOffset_rest]

theorem visitRecords_short (b : Nat) (rest : List Nat) {n : Nat} (h : n ≤ 32) (s : σ) :
    visitRecords cb (b :: rest) (fileData img (b :: rest)) n s =
      walkRecords cb (img.block b) (512 * b) (List.range n) s := by
  unfold visitRecords
  rw [walkRecords_eq]
  apply List.foldl_ext
  intro s k hk
  rw [List.mem_range] at hk
  rw [record_first img b rest (by omega), recordOffset_first b rest (by omega)]

/-- A walk whose visits leave the image alone. -/
theorem walkBlocks_ok (hcb : ∀ r off s, image s = img → image (cb r off s) = img) {lbns : List Nat}
    (h : ∀ b ∈ lbns, img.Holds b ∧ 512 * (b + 1) ≤ img.sizeBytes) {remaining : Nat}
    (hr : remaining ≤ 512 * lbns.length) {s : σ} (hs : image s = img) :
    walkBlocks image cb lbns remaining s =
      (.ok (), visitRecords cb lbns (fileData img lbns) (remaining / 16) s) := by
  induction lbns generalizing remaining s with
  | nil =>
    rw [List.length_nil] at hr
    have hzero : remaining = 0 := by omega
    subst hzero
    rfl
  | cons b rest ih =>
    unfold walkBlocks
    by_cases hz : remaining = 0
    · rw [if_pos hz, hz]
      rfl
    · obtain ⟨hin, hsize⟩ := h b List.mem_cons_self
      rw [if_neg hz, hs, readBlock_ok hin hsize]
      have hvisit : ∀ ks s, image s = img → image (walkRecords cb (img.block b) (512 * b) ks s) = img := by
        intro ks
        induction ks with
        | nil => exact fun s hs => hs
        | cons k ks ihk => exact fun s hs => ihk _ (hcb _ _ _ hs)
      rw [List.length_cons] at hr
      have hrest := @ih (fun b' hb' => h b' (List.mem_cons_of_mem b hb')) (remaining - min remaining 512)
        (by omega) _ (hvisit (List.range (min remaining 512 / 16)) s hs)
      refine hrest.trans ?_
      congr 1
      by_cases hlong : 512 ≤ remaining
      · have hmin : min remaining 512 = 512 := by omega
        have hcount : remaining / 16 = 32 + (remaining - 512) / 16 := by omega
        rw [hmin, hcount, visitRecords_cons]
      · have hmin : min remaining 512 = remaining := by omega
        rw [hmin, Nat.sub_self, visitRecords_short cb b rest (by omega)]
        rfl

end Walk

/-- The entries of a directory of `count` records. -/
def dirEntries (dir : RsxDir) (lbns : List Nat) (data : Buffer) (count : Nat) : List RsxDirent :=
  (List.range count).filterMap fun k =>
    (decodeDirRecord (record data k)).map (dirRecordEntry dir (recordOffset lbns k))

theorem visitRecords_collect (dir : RsxDir) (lbns : List Nat) (data : Buffer) (count : Nat) :
    visitRecords (collectDirRecord dir) lbns data count [] = dirEntries dir lbns data count := by
  have hfold : ∀ (ks : List Nat) (out : List RsxDirent),
      ks.foldl (fun s k => collectDirRecord dir (record data k) (recordOffset lbns k) s) out =
        out ++ ks.filterMap fun k =>
          (decodeDirRecord (record data k)).map (dirRecordEntry dir (recordOffset lbns k)) := by
    intro ks
    induction ks with
    | nil => exact fun out => (List.append_nil out).symm
    | cons k ks ih =>
      intro out
      rw [List.foldl_cons, ih]
      unfold collectDirRecord
      cases hrec : decodeDirRecord (record data k) with
      | none => rw [List.filterMap_cons_none (by rw [hrec]; rfl)]
      | some r =>
        rw [List.filterMap_cons_some (by rw [hrec]; rfl), List.append_assoc, List.singleton_append]
  exact hfold (List.range count) []

/-- A directory whose blocks lie in the image and suffice for its size. -/
structure DirReadable (img : RsxImage) (hdr : RsxHeader) : Prop where
  inside : ∀ b ∈ hdr.lbns, img.Holds b ∧ 512 * (b + 1) ≤ img.sizeBytes
  fits : dirBytes hdr ≤ 512 * hdr.lbns.length

def RsxHeader.entries (hdr : RsxHeader) (img : RsxImage) (dir : RsxDir) : List RsxDirent :=
  dirEntries dir hdr.lbns (fileData img hdr.lbns) (dirBytes hdr / 16)

theorem readDirRecordsRaw_ok {hdr : RsxHeader} (h : DirReadable img hdr) (dir : RsxDir) :
    readDirRecordsRaw img hdr dir = .ok (hdr.entries img dir) := by
  have hwalk : walkBlocks (fun _ => img) (collectDirRecord dir) hdr.lbns (dirBytes hdr) [] =
      (.ok (), visitRecords (collectDirRecord dir) hdr.lbns (fileData img hdr.lbns) (dirBytes hdr / 16) []) :=
    walkBlocks_ok (fun _ => img) (collectDirRecord dir) (fun _ _ _ _ => rfl) h.inside h.fits rfl
  rw [visitRecords_collect] at hwalk
  rw [readDirRecordsRaw, show walkDirRecords (fun _ => img) (collectDirRecord dir) hdr [] = _ from hwalk]
  rfl

end K1801.Tools.Rsx11
