import Mathlib.Data.List.DropRight
import Mathlib.Data.List.GetD

/-! # Fields filled with blanks

A string in a field of fixed length is followed by blanks; reading the field trims them again.
-/

namespace K1801.Library

variable {α : Type} [DecidableEq α] {blank : α}

/-- Character `i` of a string that is followed by blanks. -/
def paddedAt (blank : α) (s : List α) (i : Nat) : α := s.getD i blank

def trimBlanks (blank : α) (s : List α) : List α := s.rdropWhile (· = blank)

/-- The characters of a string in a field of `n`. -/
theorem map_paddedAt {s : List α} {n : Nat} (h : s.length ≤ n) :
    (List.range n).map (paddedAt blank s) = s ++ List.replicate (n - s.length) blank := by
  apply List.ext_getElem
  · rw [List.length_map, List.length_range, List.length_append, List.length_replicate]
    omega
  · intro i hi hi'
    rw [List.getElem_map, List.getElem_range]
    unfold paddedAt
    by_cases hlt : i < s.length
    · rw [List.getElem_append_left hlt, List.getD_eq_getElem _ _ hlt]
    · rw [List.getElem_append_right (Nat.le_of_not_lt hlt), List.getElem_replicate,
        List.getD_eq_default _ _ (Nat.le_of_not_lt hlt)]

theorem paddedAt_forall {P : α → Prop} {s : List α} (hs : ∀ c ∈ s, P c) (hblank : P blank) (i : Nat) :
    P (paddedAt blank s i) := by
  unfold paddedAt
  by_cases hlt : i < s.length
  · rw [List.getD_eq_getElem _ _ hlt]
    exact hs _ (List.getElem_mem hlt)
  · rw [List.getD_eq_default _ _ (Nat.le_of_not_lt hlt)]
    exact hblank

theorem trimBlanks_append_blanks (s : List α) (n : Nat) :
    trimBlanks blank (s ++ List.replicate n blank) = trimBlanks blank s := by
  induction n with
  | zero => rw [List.replicate_zero, List.append_nil]
  | succ n ih =>
    rw [List.replicate_succ', ← List.append_assoc]
    unfold trimBlanks
    rw [List.rdropWhile_concat_pos (fun c => decide (c = blank)) _ _ (decide_eq_true rfl)]
    exact ih

theorem trimBlanks_of_last {s : List α} (h : s.getLast? ≠ some blank) : trimBlanks blank s = s := by
  unfold trimBlanks
  rcases List.eq_nil_or_concat s with hs | ⟨l, c, hs⟩
  · rw [hs]
    rfl
  · rw [List.concat_eq_append] at hs
    subst hs
    rw [List.getLast?_concat] at h
    exact List.rdropWhile_concat_neg _ _ _ fun hc => h (congrArg some (of_decide_eq_true hc))

/-- A string without blanks comes back from its field. -/
theorem trimBlanks_field {s : List α} {n : Nat} (h : s.length ≤ n) (hs : blank ∉ s) :
    trimBlanks blank ((List.range n).map (paddedAt blank s)) = s := by
  rw [map_paddedAt h, trimBlanks_append_blanks]
  refine trimBlanks_of_last fun hlast => hs ?_
  exact List.mem_of_getLast? hlast

end K1801.Library
