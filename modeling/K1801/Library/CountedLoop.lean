/-! # Loops that count and may break off

A loop runs while its guard holds. Its body ends with a turn that goes on or with one that breaks off, and may also
leave the model. The invariant of the rules carries the number of turns made so far.
-/

namespace K1801.Library

/-- How the body of a loop ends. -/
inductive Turn (σ : Type) where
  | more (s : σ)
  | stop (s : σ)

/-- At most `fuel` turns, while `guard` holds. -/
def turns {σ : Type} (guard : σ → Bool) (body : σ → Option (Turn σ)) : Nat → σ → Option σ
  | 0, s => some s
  | fuel + 1, s =>
    if guard s then
      match body s with
      | none => none
      | some (.stop s) => some s
      | some (.more s) => turns guard body fuel s
    else some s

section Rules

variable {σ : Type} {guard : σ → Bool} {body : σ → Option (Turn σ)}

/-- What a turn leaves: the invariant of the next one, or the condition at the end. -/
def Turn.Leaves (Inv Post : σ → Prop) : Turn σ → Prop
  | .more s => Inv s
  | .stop s => Post s

theorem Turn.Leaves.imp {I P I' P' : σ → Prop} {t : Turn σ} (h : t.Leaves I P) (hmore : ∀ s, I s → I' s)
    (hstop : ∀ s, P s → P' s) : t.Leaves I' P' := by
  cases t with
  | more s => exact hmore s h
  | stop s => exact hstop s h

theorem turns_done {fuel : Nat} {s : σ} (h : guard s = false) : turns guard body fuel s = some s := by
  cases fuel with
  | zero => rfl
  | succ fuel =>
    unfold turns
    rw [h]
    rfl

theorem turns_more {fuel : Nat} {s s' : σ} (h : guard s = true) (hbody : body s = some (.more s')) :
    turns guard body (fuel + 1) s = turns guard body fuel s' := by
  rw [turns, if_pos h, hbody]

theorem turns_stop {fuel : Nat} {s s' : σ} (h : guard s = true) (hbody : body s = some (.stop s')) :
    turns guard body (fuel + 1) s = some s' := by
  rw [turns, if_pos h, hbody]

theorem turns_left {fuel : Nat} {s : σ} (h : guard s = true) (hbody : body s = none) :
    turns guard body (fuel + 1) s = none := by
  rw [turns, if_pos h, hbody]

/-- A loop of at most `n` turns ends where its guard fails or a turn breaks off. -/
theorem turns_rule (Inv : Nat → σ → Prop) {Post : σ → Prop} {n : Nat} (hbound : ∀ m s, Inv m s → guard s = true → m < n)
    (hdone : ∀ m s, Inv m s → guard s = false → Post s)
    (hturn : ∀ m s, Inv m s → guard s = true → ∃ t, body s = some t ∧ t.Leaves (Inv (m + 1)) Post)
    {fuel m : Nat} {s : σ} (hfuel : n ≤ fuel + m) (h : Inv m s) :
    ∃ s', turns guard body fuel s = some s' ∧ Post s' := by
  induction fuel generalizing m s with
  | zero =>
    cases hguard : guard s with
    | false => exact ⟨s, rfl, hdone m s h hguard⟩
    | true =>
      have hlt := hbound m s h hguard
      omega
  | succ fuel ih =>
    cases hguard : guard s with
    | false => exact ⟨s, turns_done hguard, hdone m s h hguard⟩
    | true =>
      obtain ⟨t, hbody, ht⟩ := hturn m s h hguard
      cases t with
      | more s' =>
        rw [turns_more hguard hbody]
        exact ih (by omega) ht
      | stop s' => exact ⟨s', turns_stop hguard hbody, ht⟩

/-- What every turn keeps, the loop keeps. -/
theorem turns_keeps (Inv : σ → Prop) (hturn : ∀ s t, Inv s → body s = some t → t.Leaves Inv Inv) {fuel : Nat}
    {s s' : σ} (hs : Inv s) (h : turns guard body fuel s = some s') : Inv s' := by
  induction fuel generalizing s with
  | zero =>
    cases h
    exact hs
  | succ fuel ih =>
    rw [turns] at h
    split at h
    · split at h
      · exact absurd h nofun
      · next hbody =>
        cases h
        exact hturn _ _ hs hbody
      · next hbody => exact ih (hturn _ _ hs hbody) h
    · cases h
      exact hs

/-- A loop whose turn number `j` leaves the model does so as a whole. -/
theorem turns_none (Inv : Nat → σ → Prop) {j : Nat} (hguard : ∀ m s, m ≤ j → Inv m s → guard s = true)
    (hmore : ∀ m s, m < j → Inv m s → ∃ s', body s = some (.more s') ∧ Inv (m + 1) s')
    (hleave : ∀ s, Inv j s → body s = none)
    {fuel m : Nat} {s : σ} (hm : m ≤ j) (hfuel : j < fuel + m) (h : Inv m s) : turns guard body fuel s = none := by
  induction fuel generalizing m s with
  | zero => omega
  | succ fuel ih =>
    by_cases hlast : m = j
    · rw [hlast] at h
      exact turns_left (hguard j s (Nat.le_refl j) h) (hleave s h)
    · obtain ⟨s', hbody, hnext⟩ := hmore m s (by omega) h
      rw [turns_more (hguard m s hm h) hbody]
      exact ih (by omega) (by omega) hnext

end Rules

end K1801.Library
