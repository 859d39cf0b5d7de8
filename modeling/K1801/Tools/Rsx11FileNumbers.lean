import Mathlib.Data.List.Nodup
import K1801.Library.Checks
import K1801.Tools.Rsx11Mkfs

/-! # Free file numbers

The home block gives the largest file number and the length of the index bitmap apart from each other. A number behind
the bitmap tests as free, and marking it changes nothing.
-/

namespace K1801.Tools.Rsx11

open Core Library Buffer

/-! ## The scan -/

/-- The loop of `find_free_file_number`, whose counter has 16 bits, for `fuel` rounds. -/
def fileNumberLoop (home : RsxHome) (bitmap : Buffer) (size : Nat) : Nat → Word → Option (Except RsxErrno Nat)
  | 0, _ => none
  | fuel + 1, fnum =>
    if fnum.toNat ≤ home.fmax then
      if indexBitmapTest bitmap size fnum.toNat then fileNumberLoop home bitmap size fuel (fnum + 1)
      else some (.ok fnum.toNat)
    else some (.error .enospc)

/-- The numbers that the scan tests from `fnum` on. -/
def scanFrom (home : RsxHome) (fnum : Nat) : List Nat :=
  List.range' fnum (home.fmax + 1 - fnum) ++ if home.fmax = 65535 then [0] else []

theorem fileNumberLoop_scan {home : RsxHome} (hmax : home.fmax < 65536) (bitmap : Buffer) (size fuel : Nat)
    {fnum : Nat} (hpos : fnum ≠ 0) (hle : fnum ≤ home.fmax + 1) (hword : fnum < 65536)
    (hfuel : home.fmax + 2 - fnum ≤ fuel) :
    fileNumberLoop home bitmap size fuel (BitVec.ofNat 16 fnum) =
      some (match (scanFrom home fnum).find? fun fnum => !indexBitmapTest bitmap size fnum with
        | some fnum => .ok fnum
        | none => .error .enospc) := by
  induction fuel generalizing fnum with
  | zero => omega
  | succ fuel ih =>
    have hval : (BitVec.ofNat 16 fnum).toNat = fnum := by
      rw [BitVec.toNat_ofNat]
      exact Nat.mod_eq_of_lt hword
    unfold fileNumberLoop
    rw [hval]
    by_cases hin : fnum ≤ home.fmax
    · have hscan : scanFrom home fnum = fnum :: scanFrom home (fnum + 1) := by
        have hlen : home.fmax + 1 - fnum = home.fmax + 1 - (fnum + 1) + 1 := by omega
        unfold scanFrom
        rw [hlen, List.range'_succ]
        rfl
      rw [if_pos hin, hscan]
      cases htest : indexBitmapTest bitmap size fnum with
      | false =>
        rw [if_neg Bool.false_ne_true, List.find?_cons_of_pos (by rw [htest]; rfl)]
      | true =>
        rw [if_pos rfl, List.find?_cons_of_neg (by rw [htest]; decide)]
        have hnext : BitVec.ofNat 16 fnum + 1 = BitVec.ofNat 16 (fnum + 1) := (BitVec.ofNat_add _ _).symm
        rw [hnext]
        by_cases hlast : fnum = 65535
        · have hfmax : home.fmax = 65535 := by omega
          have hfuel' : ∃ rest, fuel = rest + 1 := ⟨fuel - 1, by omega⟩
          obtain ⟨rest, rfl⟩ := hfuel'
          subst hlast
          have hempty : scanFrom home (65535 + 1) = [0] := by
            unfold scanFrom
            rw [hfmax]
            rfl
          have hzero : indexBitmapTest bitmap size 0 = false := rfl
          rw [hempty, List.find?_cons_of_pos (by rw [hzero]; rfl)]
          unfold fileNumberLoop
          exact (if_pos (Nat.zero_le _)).trans (if_neg Bool.false_ne_true)
        · exact ih (by omega) (by omega) (by omega) (by omega)
    · have hempty : scanFrom home fnum = [] := by
        have hlen : home.fmax + 1 - fnum = 0 := by omega
        unfold scanFrom
        rw [hlen, if_neg (by omega)]
        rfl
      rw [if_neg hin, hempty]
      rfl

/-- The scan ends after 65536 rounds at the latest. -/
theorem fileNumberLoop_ends {home : RsxHome} (hmax : home.fmax < 65536) (bitmap : Buffer) (size : Nat) {fuel : Nat}
    (hfuel : 65536 ≤ fuel) :
    fileNumberLoop home bitmap size fuel 1 = some (findFreeFileNumber home bitmap size) :=
  @fileNumberLoop_scan home hmax bitmap size fuel 1 Nat.one_ne_zero (by omega) (by decide) (by omega)

/-! ## What the scan finds -/

/-- The file numbers up to the maximum that have a bit in the bitmap. -/
def lastNumber (home : RsxHome) : Nat := min home.fmax (8 * indexSizeBytes home)

/-- The ones among them that are free. -/
def clearNumbers (home : RsxHome) (bitmap : Buffer) : List Nat :=
  (List.range' 1 (lastNumber home)).filter fun fnum => !bit bitmap (fnum - 1)

/-- The numbers end before the bitmap does, and before the counter wraps. -/
def NumbersEnd (home : RsxHome) : Prop := home.fmax ≤ 8 * indexSizeBytes home ∧ home.fmax ≠ 65535

/-- A number that may be given to a file. -/
structure FreeNumber (home : RsxHome) (bitmap : Buffer) (fnum : Nat) : Prop where
  pos : 1 ≤ fnum
  le : fnum ≤ home.fmax
  inside : (fnum - 1) / 8 < indexSizeBytes home
  clear : bit bitmap (fnum - 1) = false

theorem mem_clearNumbers {home : RsxHome} {bitmap : Buffer} {fnum : Nat} :
    fnum ∈ clearNumbers home bitmap ↔ FreeNumber home bitmap fnum := by
  unfold clearNumbers lastNumber
  rw [List.mem_filter, List.mem_range'_1, Bool.not_eq_true']
  constructor
  · rintro ⟨⟨hpos, hlt⟩, hclear⟩
    exact ⟨hpos, by omega, by omega, hclear⟩
  · rintro ⟨hpos, hle, hinside, hclear⟩
    exact ⟨⟨hpos, by omega⟩, hclear⟩

theorem clearNumbers_nodup (home : RsxHome) (bitmap : Buffer) : (clearNumbers home bitmap).Nodup :=
  List.Nodup.filter _ (List.nodup_range')

theorem indexBitmapTest_inside {home : RsxHome} {bitmap : Buffer} {fnum : Nat} (hpos : 1 ≤ fnum)
    (hle : fnum ≤ 8 * indexSizeBytes home) :
    indexBitmapTest bitmap (indexSizeBytes home) fnum = bit bitmap (fnum - 1) := by
  unfold indexBitmapTest
  rw [decide_eq_true (show fnum ≠ 0 by omega), decide_eq_true (show (fnum - 1) / 8 < indexSizeBytes home by omega)]
  rfl

/-- The first free number, or the first number behind the bitmap, or the zero behind 65535. -/
theorem findFreeFileNumber_spec (home : RsxHome) (bitmap : Buffer) :
    findFreeFileNumber home bitmap (indexSizeBytes home) =
      match (clearNumbers home bitmap).head? with
      | some fnum => .ok fnum
      | none =>
        if 8 * indexSizeBytes home < home.fmax then .ok (8 * indexSizeBytes home + 1)
        else if home.fmax = 65535 then .ok 0
        else .error .enospc := by
  have hsplit : List.range' 1 home.fmax = List.range' 1 (lastNumber home) ++
      List.range' (1 + lastNumber home) (home.fmax - lastNumber home) := by
    have hle : lastNumber home ≤ home.fmax := Nat.min_le_left _ _
    have happend := @List.range'_append 1 (lastNumber home) (home.fmax - lastNumber home) 1
    rw [Nat.one_mul, Nat.add_sub_cancel' hle] at happend
    exact happend.symm
  have hinside : (List.range' 1 (lastNumber home)).find?
      (fun fnum => !indexBitmapTest bitmap (indexSizeBytes home) fnum) = (clearNumbers home bitmap).head? := by
    have hle : lastNumber home ≤ 8 * indexSizeBytes home := Nat.min_le_right _ _
    unfold clearNumbers
    rw [← List.head?_filter]
    congr 1
    apply List.filter_congr
    intro fnum hmem
    rw [List.mem_range'_1] at hmem
    rw [indexBitmapTest_inside (by omega) (by omega)]
  unfold findFreeFileNumber
  rw [hsplit, List.append_assoc, List.find?_append, hinside]
  cases hhead : (clearNumbers home bitmap).head? with
  | some fnum => rfl
  | none =>
    rw [Option.none_or]
    by_cases hover : 8 * indexSizeBytes home < home.fmax
    · have hlast : lastNumber home = 8 * indexSizeBytes home := Nat.min_eq_right hover.le
      have hrest : home.fmax - 8 * indexSizeBytes home = home.fmax - 8 * indexSizeBytes home - 1 + 1 := by omega
      have htest : indexBitmapTest bitmap (indexSizeBytes home) (1 + 8 * indexSizeBytes home) = false := by
        unfold indexBitmapTest
        rw [decide_eq_false (show ¬(1 + 8 * indexSizeBytes home - 1) / 8 < indexSizeBytes home by omega),
          Bool.and_false, Bool.false_and]
      rw [hlast, hrest, List.range'_succ, List.cons_append,
        List.find?_cons_of_pos (by rw [htest]; rfl), if_pos hover, Nat.add_comm]
    · have hlast : lastNumber home = home.fmax := Nat.min_eq_left (Nat.le_of_not_lt hover)
      rw [hlast, Nat.sub_self, List.range'_zero, List.nil_append, if_neg hover]
      by_cases hwrap : home.fmax = 65535
      · rw [if_pos hwrap, if_pos hwrap]
        rfl
      · rw [if_neg hwrap, if_neg hwrap]
        rfl

/-! ## Taking several numbers -/

/-- The bitmap after `n` numbers were found and marked. -/
def takenBitmap (home : RsxHome) : Nat → Buffer → Buffer
  | 0, bitmap => bitmap
  | n + 1, bitmap =>
    match findFreeFileNumber home bitmap (indexSizeBytes home) with
    | .error _ => bitmap
    | .ok fnum => takenBitmap home n (indexBitmapSet bitmap (indexSizeBytes home) fnum true)

theorem clearNumbers_set {home : RsxHome} {bitmap : Buffer} {fnum : Nat} (hpos : 1 ≤ fnum)
    (hin : (fnum - 1) / 8 < indexSizeBytes home) :
    clearNumbers home (indexBitmapSet bitmap (indexSizeBytes home) fnum true) =
      (clearNumbers home bitmap).filter (· ≠ fnum) := by
  unfold clearNumbers indexBitmapSet
  rw [if_neg (by omega), List.filter_filter]
  apply List.filter_congr
  intro other hmem
  rw [List.mem_range'_1] at hmem
  rw [bit_setBit]
  by_cases hsame : other = fnum
  · rw [if_pos (by rw [hsame])]
    simp [hsame]
  · rw [if_neg (by omega)]
    simp [hsame]

/-- The first free number is no longer free once it is marked, and the others stay. -/
theorem clearNumbers_take {home : RsxHome} {bitmap : Buffer} {fnum : Nat} {rest : List Nat}
    (h : clearNumbers home bitmap = fnum :: rest) :
    clearNumbers home (indexBitmapSet bitmap (indexSizeBytes home) fnum true) = rest := by
  have hfree : FreeNumber home bitmap fnum := mem_clearNumbers.1 (h ▸ List.mem_cons_self)
  have hnodup := clearNumbers_nodup home bitmap
  rw [h, List.nodup_cons] at hnodup
  rw [clearNumbers_set hfree.pos hfree.inside, h, List.filter_cons_of_neg (by simp)]
  rw [List.filter_eq_self]
  intro other hother
  exact decide_eq_true fun heq => hnodup.1 (heq ▸ hother)

theorem findFree_cons {home : RsxHome} {bitmap : Buffer} {fnum : Nat} {rest : List Nat}
    (h : clearNumbers home bitmap = fnum :: rest) :
    findFreeFileNumber home bitmap (indexSizeBytes home) = .ok fnum := by
  rw [findFreeFileNumber_spec, h]
  rfl

theorem clearNumbers_taken {home : RsxHome} (n : Nat) {bitmap : Buffer} (h : n ≤ (clearNumbers home bitmap).length) :
    clearNumbers home (takenBitmap home n bitmap) = (clearNumbers home bitmap).drop n := by
  induction n generalizing bitmap with
  | zero => rfl
  | succ n ih =>
    cases hclear : clearNumbers home bitmap with
    | nil =>
      rw [hclear] at h
      cases h
    | cons fnum rest =>
      rw [hclear, List.length_cons] at h
      have hrest := clearNumbers_take hclear
      unfold takenBitmap
      rw [findFree_cons hclear]
      change clearNumbers home (takenBitmap home n _) = rest.drop n
      rw [ih (by rw [hrest]; omega), hrest]

/-- With every number in use the scan fails, or answers a number that may not be given to a file. -/
theorem findFree_full {home : RsxHome} {bitmap : Buffer} (h : clearNumbers home bitmap = []) :
    (∀ fnum, findFreeFileNumber home bitmap (indexSizeBytes home) = .ok fnum → FreeNumber home bitmap fnum) ↔
      NumbersEnd home := by
  have hspec := findFreeFileNumber_spec home bitmap
  rw [h] at hspec
  change _ = if _ then _ else _ at hspec
  have hnone : ∀ fnum, ¬FreeNumber home bitmap fnum := by
    intro fnum hfree
    have hmem := mem_clearNumbers.2 hfree
    rw [h] at hmem
    cases hmem
  constructor
  · intro hall
    by_cases hover : 8 * indexSizeBytes home < home.fmax
    · rw [if_pos hover] at hspec
      exact absurd (hall _ hspec) (hnone _)
    · rw [if_neg hover] at hspec
      refine ⟨Nat.le_of_not_lt hover, fun hwrap => ?_⟩
      rw [if_pos hwrap] at hspec
      exact absurd (hall _ hspec) (hnone _)
  · rintro ⟨hover, hwrap⟩ fnum hok
    rw [hspec, if_neg (Nat.not_lt.2 hover), if_neg hwrap] at hok
    cases hok

theorem findFree_free {home : RsxHome} {bitmap : Buffer} (h : clearNumbers home bitmap ≠ [] ∨ NumbersEnd home)
    {fnum : Nat} (hok : findFreeFileNumber home bitmap (indexSizeBytes home) = .ok fnum) :
    FreeNumber home bitmap fnum := by
  cases hclear : clearNumbers home bitmap with
  | nil => exact (findFree_full hclear).2 (h.resolve_left fun hne => hne hclear) fnum hok
  | cons first rest =>
    have hfirst := findFree_cons hclear
    rw [hok] at hfirst
    cases hfirst
    exact mem_clearNumbers.1 (hclear ▸ List.mem_cons_self)

/-- While free numbers are left, or none is answered that is not free, the numbers taken are the first free ones. -/
theorem takeFileNumbers_clear {img : RsxImage} {home : RsxHome} (n : Nat) {bitmap bitmap' : Buffer}
    {fids : List (Nat × Nat)} (h : takeFileNumbers img home n bitmap = .ok (fids, bitmap'))
    (hfree : n ≤ (clearNumbers home bitmap).length ∨ NumbersEnd home) :
    fids.map Prod.fst = (clearNumbers home bitmap).take n := by
  induction n generalizing bitmap bitmap' fids with
  | zero =>
    cases h
    rfl
  | succ n ih =>
    unfold takeFileNumbers at h
    obtain ⟨fnum, hfnum, h⟩ := bind_ok.1 h
    obtain ⟨seq, -, h⟩ := bind_ok.1 h
    obtain ⟨⟨rest, bitmap''⟩, hrest, h⟩ := bind_ok.1 h
    cases h
    cases hclear : clearNumbers home bitmap with
    | nil =>
      rw [hclear] at hfree
      have hgood := (findFree_full hclear).2 (hfree.resolve_left (Nat.not_succ_le_zero n)) fnum hfnum
      have hmem := mem_clearNumbers.2 hgood
      rw [hclear] at hmem
      cases hmem
    | cons first others =>
      have hfirst := findFree_cons hclear
      rw [hfnum] at hfirst
      cases hfirst
      have hothers := clearNumbers_take hclear
      have hih := ih hrest (by
        rw [hothers]
        rw [hclear, List.length_cons] at hfree
        exact hfree.imp_left Nat.le_of_succ_le_succ)
      rw [hothers] at hih
      change fnum :: rest.map Prod.fst = _
      rw [hih, List.take_succ_cons]

/-- What a file of `n` headers is promised: the scan ends, each number found on the way is free, and the numbers
    collected are distinct. -/
structure NumbersSound (img : RsxImage) (home : RsxHome) (bitmap : Buffer) (n : Nat) : Prop where
  ends : ∀ k < n, ∃ r, ∀ fuel, 65536 ≤ fuel →
    fileNumberLoop home (takenBitmap home k bitmap) (indexSizeBytes home) fuel 1 = some r
  free : ∀ k < n, ∀ fnum,
    findFreeFileNumber home (takenBitmap home k bitmap) (indexSizeBytes home) = .ok fnum →
    FreeNumber home (takenBitmap home k bitmap) fnum
  distinct : ∀ fids bitmap', takeFileNumbers img home n bitmap = .ok (fids, bitmap') → (fids.map Prod.fst).Nodup

/-- The numbers are sound exactly when enough of them are free, or the scan cannot leave the bitmap. -/
theorem file_numbers_sound_iff {home : RsxHome} (hmax : home.fmax < 65536) (img : RsxImage) (bitmap : Buffer)
    (n : Nat) :
    NumbersSound img home bitmap n ↔ n ≤ (clearNumbers home bitmap).length ∨ NumbersEnd home := by
  constructor
  · intro h
    by_cases henough : n ≤ (clearNumbers home bitmap).length
    · exact .inl henough
    · right
      have hempty : clearNumbers home (takenBitmap home (clearNumbers home bitmap).length bitmap) = [] := by
        rw [clearNumbers_taken _ (Nat.le_refl _), List.drop_length]
      exact (findFree_full hempty).1 (h.free _ (Nat.lt_of_not_le henough))
  · intro henough
    refine ⟨fun k _ => ⟨_, fun fuel hfuel => fileNumberLoop_ends hmax _ _ hfuel⟩, ?_, ?_⟩
    · intro k hk fnum hok
      refine findFree_free ?_ hok
      rcases henough with henough | hend
      · left
        rw [clearNumbers_taken k (by omega)]
        exact List.ne_nil_of_length_pos (by rw [List.length_drop]; omega)
      · exact .inr hend
    · intro fids bitmap' hok
      rw [takeFileNumbers_clear n hok henough]
      exact (clearNumbers_nodup home bitmap).sublist (List.take_sublist _ _)

/-- Three free numbers of a hundred. -/
theorem file_numbers_sound_hundred : NumbersSound ⟨DiskFile.blank 0, 0⟩ ⟨1, 2, 100, 0, 0, 0⟩ zero 3 :=
  (file_numbers_sound_iff (by decide) _ _ 3).2 (.inr ⟨by decide, by decide⟩)

/-- A volume of 4097 files whose index bitmap has one block and no free bit. -/
def fullVolume : RsxImage where
  file := ((DiskFile.blank 2048).writeAt 512 512 (buildHomeBlock 1 2 4097 "FULL".toList zero)).writeAt 1024 512
    fun _ => 0xff#8
  sizeBytes := 2048

/-- On the full volume the scan answers a number that the bitmap does not hold. -/
theorem file_numbers_leave_bitmap : ¬ ∀ (img : RsxImage) (home : RsxHome) (bitmap : Buffer),
    rsx11ReadHome img = .ok home → loadIndexBitmap img home = .ok bitmap → NumbersSound img home bitmap 1 := by
  intro h
  have hread : rsx11ReadHome fullVolume = .ok ⟨1, 2, 4097, 0o401, 0o401, 0o160000⟩ :=
    ok_of_toOption (by decide +kernel)
  have hsound := h fullVolume _ _ hread rfl
  have hbits : ∀ i, i / 8 < 512 → bit (cut 512 (drop 1024 fullVolume.file.bytes)) i = true := by
    intro i hi
    have hbyte : cut 512 (drop 1024 fullVolume.file.bytes) (i / 8) = 0xff#8 := by
      unfold fullVolume
      rw [cut_lt _ hi, drop_apply, DiskFile.writeAt_bytes, paste_inside _ _ (by omega) (by omega)]
    have hlt : i % 8 < 8 := Nat.mod_lt _ (by decide)
    unfold bit
    rw [hbyte]
    generalize i % 8 = j at hlt ⊢
    decide +revert
  have hempty : clearNumbers ⟨1, 2, 4097, 0o401, 0o401, 0o160000⟩ (cut 512 (drop 1024 fullVolume.file.bytes)) =
      [] := by
    rw [List.eq_nil_iff_forall_not_mem]
    intro fnum hmem
    have hfree := mem_clearNumbers.1 hmem
    have hset := hbits (fnum - 1) hfree.inside
    rw [hfree.clear] at hset
    cases hset
  have hend := (findFree_full hempty).1 (hsound.free 0 Nat.one_pos)
  exact absurd hend.1 (by decide)

end K1801.Tools.Rsx11
