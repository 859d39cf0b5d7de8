import K1801.Library.Buffer

/-! # Words in a byte buffer

Little-endian words of 16 bits, and runs of them stored at a sequence of offsets.
-/

namespace K1801.Library

namespace Buffer

def word (buf : Buffer) (off : Nat) : BitVec 16 :=
  (buf off).setWidth 16 ||| ((buf (off + 1)).setWidth 16 <<< 8)

def putWord (buf : Buffer) (off : Nat) (w : BitVec 16) : Buffer :=
  put (put buf off (w.setWidth 8)) (off + 1) ((w >>> 8).setWidth 8)

/-- The first `n` words stored one after the other, each at its own offset. -/
def scatter (buf : Buffer) (off : Nat → Nat) (w : Nat → BitVec 16) : Nat → Buffer
  | 0 => buf
  | n + 1 => putWord (scatter buf off w n) (off n) (w n)

theorem word_congr {buf buf' : Buffer} {off : Nat} (h : buf off = buf' off) (h' : buf (off + 1) = buf' (off + 1)) :
    word buf off = word buf' off := by
  unfold word
  rw [h, h']

theorem putWord_apply (buf : Buffer) (off : Nat) (w : BitVec 16) (i : Nat) : putWord buf off w i =
    if i = off + 1 then (w >>> 8).setWidth 8 else if i = off then w.setWidth 8 else buf i := by
  unfold putWord
  rw [put_apply, put_apply]

theorem putWord_outside (buf : Buffer) {off i : Nat} (w : BitVec 16) (h : i < off ∨ off + 2 ≤ i) :
    putWord buf off w i = buf i := by
  rw [putWord_apply, if_neg (by omega), if_neg (by omega)]

theorem bytes_or (w : BitVec 16) :
    (w.setWidth 8).setWidth 16 ||| (((w >>> 8).setWidth 8).setWidth 16 <<< 8) = w := by
  apply BitVec.eq_of_getLsbD_eq
  intro i hi
  rw [BitVec.getLsbD_or, BitVec.getLsbD_shiftLeft]
  by_cases hlow : i < 8
  · simp [hlow, hi]
  · have hback : 8 + (i - 8) = i := by omega
    have hhigh : i - 8 < 8 := by omega
    simp [hlow, hback, hhigh, hi, show i - 8 < 16 by omega]

@[simp] theorem word_putWord (buf : Buffer) (off : Nat) (w : BitVec 16) : word (putWord buf off w) off = w := by
  unfold word
  rw [putWord_apply, if_neg (by omega), if_pos rfl, putWord_apply, if_pos rfl, bytes_or]

theorem word_putWord_apart (buf : Buffer) {off off' : Nat} (w : BitVec 16) (h : off' + 2 ≤ off ∨ off + 2 ≤ off') :
    word (putWord buf off w) off' = word buf off' :=
  word_congr (putWord_outside buf w (by omega)) (putWord_outside buf w (by omega))

section Scatter

variable {buf : Buffer} {off : Nat → Nat} {w : Nat → BitVec 16} {n : Nat}

/-- Cells that no stored word covers keep their value. -/
theorem scatter_outside {i : Nat} (h : ∀ j < n, i < off j ∨ off j + 2 ≤ i) : scatter buf off w n i = buf i := by
  induction n with
  | zero => rfl
  | succ n ih =>
    unfold scatter
    rw [putWord_outside _ _ (h n (Nat.lt_succ_self n)), ih fun j hj => h j (Nat.lt_succ_of_lt hj)]

theorem word_scatter_outside {off' : Nat} (h : ∀ j < n, off' + 2 ≤ off j ∨ off j + 2 ≤ off') :
    word (scatter buf off w n) off' = word buf off' :=
  word_congr (scatter_outside fun j hj => by have := h j hj; omega)
    (scatter_outside fun j hj => by have := h j hj; omega)

/-- Where the offsets keep apart, every word is found again. -/
theorem word_scatter {i : Nat} (happart : ∀ j k, j < n → k < n → j ≠ k → off j + 2 ≤ off k ∨ off k + 2 ≤ off j)
    (hi : i < n) : word (scatter buf off w n) (off i) = w i := by
  induction n with
  | zero => exact absurd hi (Nat.not_lt_zero i)
  | succ n ih =>
    unfold scatter
    by_cases hlast : i = n
    · rw [hlast, word_putWord]
    · have hne := happart i n hi (Nat.lt_succ_self n) hlast
      rw [word_putWord_apart _ _ (by omega),
        ih (fun j k hj hk => happart j k (Nat.lt_succ_of_lt hj) (Nat.lt_succ_of_lt hk)) (by omega)]

theorem scatter_congr {w' : Nat → BitVec 16} {off' : Nat → Nat} (hw : ∀ j < n, w j = w' j)
    (hoff : ∀ j < n, off j = off' j) : scatter buf off w n = scatter buf off' w' n := by
  induction n with
  | zero => rfl
  | succ n ih =>
    unfold scatter
    rw [ih (fun j hj => hw j (Nat.lt_succ_of_lt hj)) fun j hj => hoff j (Nat.lt_succ_of_lt hj),
      hw n (Nat.lt_succ_self n), hoff n (Nat.lt_succ_self n)]

end Scatter

end Buffer

end K1801.Library
