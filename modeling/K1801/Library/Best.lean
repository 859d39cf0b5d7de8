import Mathlib.Data.List.Induction
import Mathlib.Order.Lattice

/-! # Selection of the best candidate

A scan that keeps the first acceptable candidate of the highest rank.
-/

namespace K1801.Library

variable {α κ : Type} [LinearOrder κ]

/-- One step of the scan: a candidate replaces the best so far only by a higher rank. -/
def improve (ok : α → Bool) (rank : α → κ) (best : Option α) (x : α) : Option α :=
  if ok x then
    match best with
    | none => some x
    | some b => if rank b < rank x then some x else some b
  else best

def bestOf (ok : α → Bool) (rank : α → κ) (xs : List α) : Option α :=
  xs.foldl (improve ok rank) none

/-- The scan of `xs` ended with this candidate. -/
inductive IsBest (ok : α → Bool) (rank : α → κ) (xs : List α) : Option α → Prop
  | none : (∀ x ∈ xs, ok x = false) → IsBest ok rank xs none
  | some {y : α} : y ∈ xs → ok y = true → (∀ x ∈ xs, ok x = true → rank x ≤ rank y) →
      IsBest ok rank xs (some y)

namespace IsBest

variable {ok : α → Bool} {rank : α → κ} {xs ys : List α} {best : Option α} {x y : α}

theorem skip (h : IsBest ok rank xs best) (hx : ok x = false) : IsBest ok rank (xs ++ [x]) best := by
  cases h with
  | none hall =>
    refine .none fun z hz => ?_
    rcases List.mem_append.1 hz with hz | hz
    · exact hall z hz
    · rwa [List.mem_singleton.1 hz]
  | some hmem hok hmax =>
    refine .some (List.mem_append_left _ hmem) hok fun z hz hzok => ?_
    rcases List.mem_append.1 hz with hz | hz
    · exact hmax z hz hzok
    · rw [List.mem_singleton.1 hz, hx] at hzok
      cases hzok

/-- The new candidate is the best when it outranks all that came before. -/
theorem take (hx : ok x = true) (hmax : ∀ z ∈ xs, ok z = true → rank z ≤ rank x) :
    IsBest ok rank (xs ++ [x]) (Option.some x) := by
  refine .some (List.mem_append_right _ (List.mem_singleton.2 rfl)) hx fun z hz hzok => ?_
  rcases List.mem_append.1 hz with hz | hz
  · exact hmax z hz hzok
  · rw [List.mem_singleton.1 hz]

theorem keep (hmem : y ∈ xs) (hok : ok y = true) (hmax : ∀ z ∈ xs, ok z = true → rank z ≤ rank y)
    (hle : rank x ≤ rank y) : IsBest ok rank (xs ++ [x]) (Option.some y) := by
  refine .some (List.mem_append_left _ hmem) hok fun z hz hzok => ?_
  rcases List.mem_append.1 hz with hz | hz
  · exact hmax z hz hzok
  · rwa [List.mem_singleton.1 hz]

theorem step (h : IsBest ok rank xs best) (x : α) :
    IsBest ok rank (xs ++ [x]) (improve ok rank best x) := by
  unfold improve
  cases hx : ok x with
  | false => exact h.skip hx
  | true =>
    cases h with
    | none hall => exact .take hx fun z hz hzok => absurd (hall z hz) (by simp [hzok])
    | @some b hmem hok hmax =>
      by_cases hlt : rank b < rank x
      · simpa [hlt] using take hx fun z hz hzok => le_trans (hmax z hz hzok) (le_of_lt hlt)
      · simpa [hlt] using keep hmem hok hmax (not_lt.1 hlt)

theorem foldl (h : IsBest ok rank xs best) :
    IsBest ok rank (xs ++ ys) (ys.foldl (improve ok rank) best) := by
  induction ys generalizing xs best with
  | nil => simpa using h
  | cons y ys ih => simpa using ih (h.step y)

end IsBest

theorem isBest_bestOf (ok : α → Bool) (rank : α → κ) (xs : List α) :
    IsBest ok rank xs (bestOf ok rank xs) := by
  have hempty : IsBest ok rank [] none := .none nofun
  exact hempty.foldl

theorem bestOf_append (ok : α → Bool) (rank : α → κ) (xs : List α) (x : α) :
    bestOf ok rank (xs ++ [x]) = improve ok rank (bestOf ok rank xs) x := by
  unfold bestOf
  rw [List.foldl_append]
  rfl

/-- The best candidate outranks every candidate before it, and none after it outranks it. -/
structure FirstBest (ok : α → Bool) (rank : α → κ) (before : List α) (y : α) (after : List α) : Prop where
  accepted : ok y = true
  above : ∀ x ∈ before, ok x = true → rank x < rank y
  atLeast : ∀ x ∈ after, ok x = true → rank x ≤ rank y

namespace FirstBest

variable {ok : α → Bool} {rank : α → κ} {before after : List α} {y : α}

theorem snoc (h : FirstBest ok rank before y after) {x : α} (hx : ok x = true → rank x ≤ rank y) :
    FirstBest ok rank before y (after ++ [x]) := by
  refine ⟨h.accepted, h.above, ?_⟩
  intro z hz hok
  rcases List.mem_append.1 hz with hz | hz
  · exact h.atLeast z hz hok
  · rw [List.mem_singleton.1 hz] at hok ⊢
    exact hx hok

end FirstBest

theorem bestOf_first {ok : α → Bool} {rank : α → κ} {xs : List α} {y : α}
    (h : bestOf ok rank xs = some y) :
    ∃ before after, xs = before ++ y :: after ∧ FirstBest ok rank before y after := by
  induction xs using List.reverseRecOn generalizing y with
  | nil => cases h
  | append_singleton xs x ih =>
    have hbest : IsBest ok rank xs (bestOf ok rank xs) := isBest_bestOf ok rank xs
    rw [bestOf_append] at h
    unfold improve at h
    cases hx : ok x with
    | false =>
      rw [hx] at h
      obtain ⟨before, after, rfl, hfirst⟩ := ih h
      refine ⟨before, after ++ [x], by simp, hfirst.snoc ?_⟩
      intro hok
      rw [hx] at hok
      cases hok
    | true =>
      rw [hx] at h
      cases hb : bestOf ok rank xs with
      | none =>
        rw [hb] at h hbest
        cases h
        cases hbest with
        | none hall =>
          refine ⟨xs, [], rfl, hx, ?_, nofun⟩
          intro z hz hok
          rw [hall z hz] at hok
          cases hok
      | some b =>
        rw [hb] at h hbest
        dsimp only at h
        by_cases hlt : rank b < rank x
        · rw [if_pos rfl, if_pos hlt] at h
          cases h
          cases hbest with
          | some hmem hok hmax =>
            exact ⟨xs, [], rfl, hx, fun z hz hzok => lt_of_le_of_lt (hmax z hz hzok) hlt, nofun⟩
        · rw [if_pos rfl, if_neg hlt] at h
          cases h
          obtain ⟨before, after, rfl, hfirst⟩ := ih hb
          exact ⟨before, after ++ [x], by simp, hfirst.snoc fun _ => not_lt.1 hlt⟩

end K1801.Library
