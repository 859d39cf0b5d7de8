import Mathlib.Algebra.GroupWithZero.Nat
import Mathlib.Logic.Function.Basic

/-! # Rings of slots that change hands

Two parties share a ring of `n` slots. One hands slots over in turn, the other gives them back in turn, and the owner
of a slot is written in the slot alone: neither party sees the other's place in the ring.
-/

namespace K1801.Library

section SlotRing

variable {n : Nat} [NeZero n]

/-- The slot of the `k`-th turn. -/
def slotOf (n : Nat) [NeZero n] (k : Nat) : Fin n := Fin.ofNat n k

/-- Turns less than a round apart use different slots. -/
theorem slotOf_inj {j k : Nat} (hjk : j < k + n) (hkj : k < j + n) (h : slotOf n j = slotOf n k) : j = k := by
  have hmod : j % n = k % n := congrArg Fin.val h
  rcases Nat.le_total j k with hle | hle
  · have hzero := Nat.sub_mod_eq_zero_of_mod_eq hmod.symm
    rw [Nat.mod_eq_of_lt (by omega)] at hzero
    omega
  · have hzero := Nat.sub_mod_eq_zero_of_mod_eq hmod
    rw [Nat.mod_eq_of_lt (by omega)] at hzero
    omega

theorem slotOf_add (k : Nat) : slotOf n (k + n) = slotOf n k := Fin.ext (Nat.add_mod_right k n)

/-- Of the slots handed over so far, those from turn `back` on are still out. -/
structure SlotRing (owned : Fin n → Bool) (back given : Nat) : Prop where
  le : back ≤ given
  room : given ≤ back + n
  out : ∀ j, back ≤ j → j < given → owned (slotOf n j) = true
  home : ∀ j, given ≤ j → j < back + n → owned (slotOf n j) = false

namespace SlotRing

variable {owned : Fin n → Bool} {back given : Nat}

theorem empty (h : ∀ i, owned i = false) : SlotRing owned 0 0 where
  le := Nat.le_refl 0
  room := Nat.zero_le _
  out j _ hj := absurd hj (Nat.not_lt_zero j)
  home j _ _ := h (slotOf n j)

/-- The party that gives slots back looks at the next one to learn whether any is out. -/
theorem owned_back (h : SlotRing owned back given) : owned (slotOf n back) = true ↔ back < given := by
  have hn := Nat.pos_of_neZero n
  have hle := h.le
  constructor
  · intro hown
    by_contra hge
    have hhome := h.home back (by omega) (by omega)
    rw [hhome] at hown
    cases hown
  · exact h.out back (Nat.le_refl _)

/-- The party that hands slots over looks at the next one to learn whether there is room. -/
theorem owned_given (h : SlotRing owned back given) : owned (slotOf n given) = false ↔ given < back + n := by
  have hn := Nat.pos_of_neZero n
  have hle := h.le
  have hroom := h.room
  constructor
  · intro hown
    by_contra hge
    have hfull : given = back + n := by omega
    rw [hfull, slotOf_add, (owned_back h).2 (by omega)] at hown
    cases hown
  · exact h.home given (Nat.le_refl _)

theorem give (h : SlotRing owned back given) (hroom : given < back + n) :
    SlotRing (Function.update owned (slotOf n given) true) back (given + 1) where
  le := Nat.le_succ_of_le h.le
  room := hroom
  out j hb hj := by
    by_cases hlast : j = given
    · rw [hlast, Function.update_self]
    · have hle := h.le
      rw [Function.update_of_ne fun heq => hlast (slotOf_inj (by omega) (by omega) heq)]
      exact h.out j hb (by omega)
  home j hg hj := by
    rw [Function.update_of_ne fun heq => by
      have hle := h.le
      have hsame := slotOf_inj (by omega) (by omega) heq
      omega]
    exact h.home j (by omega) hj

theorem giveBack (h : SlotRing owned back given) (hout : back < given) :
    SlotRing (Function.update owned (slotOf n back) false) (back + 1) given where
  le := hout
  room := by
    have hroom := h.room
    omega
  out j hb hj := by
    rw [Function.update_of_ne fun heq => by
      have hroom := h.room
      have hsame := slotOf_inj (by omega) (by omega) heq
      omega]
    exact h.out j (by omega) hj
  home j hg hj := by
    by_cases hlast : j = back + n
    · rw [hlast, slotOf_add, Function.update_self]
    · have hn := Nat.pos_of_neZero n
      rw [Function.update_of_ne fun heq => by
        have hsame := slotOf_inj (by omega) (by omega) heq
        omega]
      exact h.home j hg (by omega)

end SlotRing

end SlotRing

end K1801.Library
