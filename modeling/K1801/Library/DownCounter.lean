/-! # Counters that count down and start over

`left i` is the number of steps from the `i`-th state of a run to the next expiry, zero when the counter has
stopped. The step on which it expires loads it anew, with zero to stop it.
-/

namespace K1801.Library

/-- Along the `n` steps of a run the counter goes down by one, and the step on which it expires loads it. -/
structure CountsDown (load : Nat) (left : Nat → Nat) (n : Nat) : Prop where
  down : ∀ i < n, left i ≠ 1 → left (i + 1) = left i - 1
  load : ∀ i < n, left i = 1 → left (i + 1) = load

/-- A counter that does not expire has only gone down. -/
theorem left_of_silent {left : Nat → Nat} {n : Nat} (hdown : ∀ i < n, left i ≠ 1 → left (i + 1) = left i - 1)
    {i j : Nat} (hij : i + j ≤ n) (hsilent : ∀ k < j, left (i + k) ≠ 1) : left (i + j) = left i - j := by
  induction j with
  | zero => rfl
  | succ j ih =>
    have hbefore := ih (by omega) fun k hk => hsilent k (by omega)
    have hnext := hdown (i + j) (by omega) (hsilent j (by omega))
    rw [← Nat.add_assoc, hnext, hbefore]
    omega

/-- A running counter expires within the steps it has left. -/
theorem expires_within {left : Nat → Nat} {n : Nat} (hdown : ∀ i < n, left i ≠ 1 → left (i + 1) = left i - 1)
    (hrunning : left 0 ≠ 0) (hlong : left 0 ≤ n) : ∃ i < n, left i = 1 := by
  by_cases hsilent : ∀ k < left 0 - 1, left k ≠ 1
  · have hleft := left_of_silent hdown (i := 0) (j := left 0 - 1) (by omega) fun k hk => by
      rw [Nat.zero_add]
      exact hsilent k hk
    rw [Nat.zero_add] at hleft
    exact ⟨left 0 - 1, by omega, by omega⟩
  · obtain ⟨k, hk⟩ := Classical.not_forall.1 hsilent
    obtain ⟨hlt, hexpires⟩ := Classical.not_imp.1 hk
    exact ⟨k, by omega, Decidable.not_not.1 hexpires⟩

namespace CountsDown

variable {load n : Nat} {left : Nat → Nat}

theorem left_sub (h : CountsDown load left n) {i j : Nat} (hj : j < left i) (hij : i + j ≤ n) :
    left (i + j) = left i - j := by
  induction j with
  | zero => rfl
  | succ j ih =>
    have hbefore := ih (by omega) (by omega)
    rw [← Nat.add_assoc, h.down (i + j) (by omega) (by omega), hbefore]
    omega

theorem stopped (h : CountsDown load left n) {i j : Nat} (hi : left i = 0) (hij : i + j ≤ n) :
    left (i + j) = 0 := by
  induction j with
  | zero => exact hi
  | succ j ih =>
    have hbefore := ih (by omega)
    rw [← Nat.add_assoc, h.down (i + j) (by omega) (by omega), hbefore]

/-- Between two expiries the counter makes as many steps as it was loaded with. -/
theorem spaced (h : CountsDown load left n) {i j : Nat} (hi : left i = 1) (hij : i < j) (hjn : j ≤ n)
    (hj : j < i + load) : left j ≠ 1 := by
  have hloaded := h.load i (by omega) hi
  have hleft := h.left_sub (i := i + 1) (j := j - (i + 1)) (by omega) (by omega)
  have hsum : i + 1 + (j - (i + 1)) = j := by omega
  rw [hsum] at hleft
  omega

theorem again (h : CountsDown load left n) {i : Nat} (hi : left i = 1) (hload : load ≠ 0) (hn : i + load ≤ n) :
    left (i + load) = 1 := by
  have hloaded := h.load i (by omega) hi
  have hleft := h.left_sub (i := i + 1) (j := load - 1) (by omega) (by omega)
  have hsum : i + 1 + (load - 1) = i + load := by omega
  rw [hsum] at hleft
  omega

/-- A counter that its expiry stops expires once. -/
theorem once (h : CountsDown 0 left n) {i j : Nat} (hi : left i = 1) (hij : i < j) (hjn : j ≤ n) : left j ≠ 1 := by
  have hstopped := h.load i (by omega) hi
  have hleft := h.stopped (i := i + 1) (j := j - (i + 1)) hstopped (by omega)
  have hsum : i + 1 + (j - (i + 1)) = j := by omega
  rw [hsum] at hleft
  omega

end CountsDown

end K1801.Library
