import K1801.Library.Checks
import K1801.Uj11.ModuleImage
import Mathlib.Tactic.Ring

/-! # What the parts of a module file say

The checks of `pack` and `decode` as propositions, slices of a file, and the places a list of relocations names.
-/

namespace K1801.Uj11.ModuleImage

open Library

/-! ## Checks -/

theorem raiseIf_ok {c : Prop} [Decidable c] {message : String} {u : Unit} :
    raiseIf c message = .ok u ↔ ¬ c := by
  unfold raiseIf
  split <;> simp_all

/-- The executable module pools. -/
def InPools (base words : Int) : Prop :=
  base % 2 = 0 ∧ 0 < words ∧ words < 32768 ∧ 0o6000 ≤ base ∧ base + words * 2 ≤ 0o160000 ∧
    (base < 0o10000 → base + words * 2 ≤ 0o7000)

theorem bounds_ok {base words finish : Int} :
    bounds base words = .ok finish ↔ InPools base words ∧ finish = base + words * 2 := by
  simp only [bounds, bind_ok, raiseIf_ok, pure_ok, exists_and_left, InPools]
  grind

theorem checksum_ok {data : List Byte} {sum : Int} :
    checksum data = .ok sum ↔ data.length % 2 = 0 ∧ sum = (wordsOf data).sum % 65536 := by
  simp only [checksum, bind_ok, raiseIf_ok, pure_ok, exists_and_left]
  grind

theorem structPack_ok {ws : List Int} {data : List Byte} :
    structPack ws = .ok data ↔ (∀ w ∈ ws, FitsWord w) ∧ data = bytesOf ws := by
  unfold structPack
  split
  · rename_i hfits
    constructor
    · intro h
      cases h
      exact ⟨hfits, rfl⟩
    · rintro ⟨-, rfl⟩
      rfl
  · rename_i hfits
    constructor
    · intro h
      cases h
    · rintro ⟨h, -⟩
      exact absurd h hfits

/-! ## Slices -/

theorem slice_length (data : List Byte) (first last : Int) :
    (slice data first last).length = min last.toNat data.length - first.toNat := by
  unfold slice
  rw [List.length_drop, List.length_take]

/-- The middle of three parts. -/
theorem slice_middle {front middle back : List Byte} {first last : Int} (hfirst : first = front.length)
    (hlast : last = front.length + middle.length) : slice (front ++ (middle ++ back)) first last = middle := by
  have hto : last.toNat = front.length + middle.length := by omega
  have hfrom : first.toNat = front.length := by omega
  unfold slice
  rw [hto, hfrom, ← List.append_assoc, ← List.length_append, List.take_left, List.drop_left]

theorem slice_append (data : List Byte) {first middle last : Int} (h : first ≤ middle) (h' : middle ≤ last) :
    slice data first middle ++ slice data middle last = slice data first last := by
  have hfirst : first.toNat ≤ middle.toNat := by omega
  have hlast : middle.toNat ≤ last.toNat := by omega
  unfold slice
  have hshort : data.take middle.toNat = (data.take last.toNat).take middle.toNat := by
    rw [List.take_take, Nat.min_eq_left hlast]
  rw [hshort]
  generalize data.take last.toNat = front
  by_cases hlong : first.toNat ≤ front.length
  · rw [← List.drop_append_of_le_length (by rw [List.length_take]; omega), List.take_append_drop]
  · rw [List.drop_eq_nil_of_le (by rw [List.length_take]; omega), List.drop_eq_nil_of_le (by omega),
      List.drop_eq_nil_of_le (by omega)]
    rfl

theorem slice_all (data : List Byte) {first last : Int} (hfirst : first = 0) (hlast : (data.length : Int) ≤ last) :
    slice data first last = data := by
  have hto : data.length ≤ last.toNat := by omega
  unfold slice
  rw [hfirst, List.take_of_length_le hto]
  rfl

theorem anyByte_false {data : List Byte} : anyByte data = false ↔ data = List.replicate data.length 0#8 := by
  unfold anyByte
  rw [List.any_eq_false]
  constructor
  · intro h
    exact List.eq_replicate_of_mem fun b hb => by simpa using h b hb
  · intro h b hb
    rw [h] at hb
    have hzero := List.eq_of_mem_replicate hb
    simp [hzero]

theorem zeros_length (n : Int) : (zeros n).length = n.toNat := List.length_replicate

theorem anyByte_zeros (n : Int) : anyByte (zeros n) = false := by
  unfold zeros
  rw [anyByte_false, List.length_replicate]

theorem padding_length (n : Nat) : ((padding n).length : Int) = -(n : Int) % 512 := by
  unfold padding
  rw [zeros_length]
  omega

/-- A file whose unused bytes are zero is determined by the rest. -/
theorem slice_zeros {data : List Byte} {first last : Int} (hquiet : anyByte (slice data first last) = false)
    (hfirst : 0 ≤ first) (hlast : last ≤ data.length) : slice data first last = zeros (last - first) := by
  have hlength := slice_length data first last
  have hreplicate := anyByte_false.1 hquiet
  unfold zeros
  rw [hreplicate, hlength]
  congr 1
  omega

/-! ## Places -/

/-- The places of a list of relocations: unique, in order, inside the image, and with its words. -/
def PlacesFrom (image : List Byte) : Int → List (Int × Int) → Prop
  | _, [] => True
  | previous, (offset, original) :: rest =>
    (FitsWord offset ∧ FitsWord original) ∧
      (previous < offset % 0o100000 ∧ 2 * (offset % 0o100000) + 2 ≤ image.length) ∧
      fromBytes (slice image (2 * (offset % 0o100000)) (2 * (offset % 0o100000) + 2)) = original ∧
      PlacesFrom image (offset % 0o100000) rest

theorem validateFrom_ok {image : List Byte} {previous : Int} {pairs : List (Int × Int)} {u : Unit} :
    validateFrom image previous pairs = .ok u ↔ PlacesFrom image previous pairs := by
  induction pairs generalizing previous with
  | nil => simp [validateFrom, PlacesFrom]
  | cons pair rest ih =>
    obtain ⟨offset, original⟩ := pair
    simp only [validateFrom, PlacesFrom, bind_ok, raiseIf_ok, exists_const, ih, FitsWord]
    grind

/-- There are no more places than words behind the last one. -/
theorem PlacesFrom.count {image : List Byte} {previous : Int} {pairs : List (Int × Int)} (hprevious : -1 ≤ previous)
    (hroom : 2 * (previous + 1) ≤ image.length) (h : PlacesFrom image previous pairs) :
    2 * (previous + 1 + pairs.length) ≤ image.length := by
  induction pairs generalizing previous with
  | nil => simpa using hroom
  | cons pair rest ih =>
    obtain ⟨-, ⟨hlater, hinside⟩, -, hrest⟩ := h
    have hcount := ih (by omega) (by omega) hrest
    rw [List.length_cons]
    push_cast
    omega

theorem PlacesFrom.fits {image : List Byte} {previous : Int} {pairs : List (Int × Int)}
    (h : PlacesFrom image previous pairs) : ∀ w ∈ pairs.flatMap fun pair => [pair.1, pair.2], FitsWord w := by
  induction pairs generalizing previous with
  | nil => simp
  | cons pair rest ih =>
    obtain ⟨⟨hoffset, horiginal⟩, -, -, hrest⟩ := h
    intro w hw
    rw [List.flatMap_cons] at hw
    rcases List.mem_append.1 hw with hw | hw
    · rcases List.mem_pair.1 hw with rfl | rfl
      · exact hoffset
      · exact horiginal
    · exact ih hrest w hw

theorem pairsOf_flatMap (pairs : List (Int × Int)) : pairsOf (pairs.flatMap fun pair => [pair.1, pair.2]) = pairs := by
  induction pairs with
  | nil => rfl
  | cons pair rest ih =>
    show pair :: pairsOf (rest.flatMap fun pair => [pair.1, pair.2]) = _
    rw [ih]

theorem flatMap_pairsOf : ∀ {ws : List Int}, ws.length % 2 = 0 →
    ((pairsOf ws).flatMap fun pair => [pair.1, pair.2]) = ws
  | [], _ => rfl
  | [_], h => by cases h
  | a :: b :: rest, h => by
    have heven : rest.length % 2 = 0 := by
      simp only [List.length_cons] at h
      omega
    show a :: b :: ((pairsOf rest).flatMap fun pair => [pair.1, pair.2]) = _
    rw [flatMap_pairsOf heven]

end K1801.Uj11.ModuleImage
