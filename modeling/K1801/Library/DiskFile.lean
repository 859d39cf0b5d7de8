import K1801.Library.Buffer

/-! # Files read and written at offsets

A file has bytes up to its length and nothing behind it. A read answers all the bytes it was asked for or fails; a
write extends the file where it ends. A file of whole blocks is a store of numbered blocks.
-/

namespace K1801.Library

structure DiskFile where
  bytes : Buffer
  length : Nat
  beyond : ∀ i, length ≤ i → bytes i = 0#8

namespace DiskFile

/-- A file of zeros. -/
def blank (length : Nat) : DiskFile := ⟨Buffer.zero, length, fun _ _ => rfl⟩

def readAt (f : DiskFile) (off n : Nat) : Option Buffer :=
  if off + n ≤ f.length then some (Buffer.cut n (Buffer.drop off f.bytes)) else none

def writeAt (f : DiskFile) (off n : Nat) (src : Buffer) : DiskFile where
  bytes := Buffer.paste f.bytes off n src
  length := max f.length (off + n)
  beyond i hi := by
    rw [Buffer.paste_outside _ _ (Or.inr (by omega))]
    exact f.beyond i (by omega)

/-- Block `b` of a file of blocks of `size` bytes. -/
def block (f : DiskFile) (size b : Nat) : Buffer := Buffer.cut size (Buffer.drop (size * b) f.bytes)

theorem blocks_apart (size : Nat) {b b' : Nat} (h : b ≠ b') :
    size * b + size ≤ size * b' ∨ size * b' + size ≤ size * b := by
  rcases Nat.lt_or_gt_of_ne h with h | h
  · exact Or.inl (Nat.mul_le_mul_left size h)
  · exact Or.inr (Nat.mul_le_mul_left size h)

variable {f f' : DiskFile} {size b : Nat}

theorem block_apply (f : DiskFile) {i : Nat} (h : i < size) : f.block size b i = f.bytes (size * b + i) :=
  Buffer.cut_lt _ h

theorem block_beyond (f : DiskFile) {i : Nat} (h : size ≤ i) : f.block size b i = 0#8 := Buffer.cut_ge _ h

@[simp] theorem cut_block (f : DiskFile) : Buffer.cut size (f.block size b) = f.block size b := Buffer.cut_cut _ _

theorem blank_block (length : Nat) : (blank length).block size b = Buffer.zero := by
  funext i
  by_cases hi : i < size
  · exact block_apply (blank length) hi
  · exact block_beyond (blank length) (Nat.le_of_not_lt hi)

/-! ## Reads -/

theorem readAt_block (f : DiskFile) (h : size * b + size ≤ f.length) :
    f.readAt (size * b) size = some (f.block size b) := if_pos h

theorem readAt_eq_some {off n : Nat} {buf : Buffer} (h : f.readAt off n = some buf) :
    off + n ≤ f.length ∧ buf = Buffer.cut n (Buffer.drop off f.bytes) := by
  unfold readAt at h
  by_cases hfits : off + n ≤ f.length
  · rw [if_pos hfits] at h
    exact ⟨hfits, (Option.some.inj h).symm⟩
  · rw [if_neg hfits] at h
    cases h

/-- A read sees only the bytes it returns. -/
theorem readAt_congr {off n : Nat} (hlen : f'.length = f.length)
    (h : ∀ i, off ≤ i → i < off + n → f'.bytes i = f.bytes i) : f'.readAt off n = f.readAt off n := by
  have hcut : Buffer.cut n (Buffer.drop off f'.bytes) = Buffer.cut n (Buffer.drop off f.bytes) :=
    Buffer.cut_congr fun i hi => h (off + i) (by omega) (by omega)
  unfold readAt
  rw [hlen, hcut]

/-- Part of a block. -/
theorem readAt_within {off n : Nat} (hsize : off + n ≤ size) (h : size * b + off + n ≤ f.length) :
    f.readAt (size * b + off) n = some (Buffer.cut n (Buffer.drop off (f.block size b))) := by
  unfold readAt
  rw [if_pos h]
  congr 1
  apply Buffer.cut_congr
  intro i hi
  rw [Buffer.drop_apply, Buffer.drop_apply, block_apply f (by omega), Nat.add_assoc]

/-! ## Writes -/

theorem writeAt_length {off n : Nat} (src : Buffer) (h : off + n ≤ f.length) :
    (f.writeAt off n src).length = f.length := Nat.max_eq_left h

theorem writeAt_bytes (f : DiskFile) (off n : Nat) (src : Buffer) :
    (f.writeAt off n src).bytes = Buffer.paste f.bytes off n src := rfl

theorem block_writeAt_outside {off n : Nat} (src : Buffer) (h : off + n ≤ size * b ∨ size * b + size ≤ off) :
    (f.writeAt off n src).block size b = f.block size b := by
  apply Buffer.cut_congr
  intro i hi
  rw [Buffer.drop_apply, Buffer.drop_apply, writeAt_bytes, Buffer.paste_outside _ _ (by omega)]

theorem block_writeAt_ne (src : Buffer) {b' : Nat} (h : b ≠ b') :
    (f.writeAt (size * b') size src).block size b = f.block size b :=
  block_writeAt_outside src (blocks_apart size h.symm)

theorem block_writeAt_same (f : DiskFile) (src : Buffer) :
    (f.writeAt (size * b) size src).block size b = Buffer.cut size src := by
  apply Buffer.cut_congr
  intro i hi
  rw [Buffer.drop_apply, writeAt_bytes, Buffer.paste_inside _ _ (Nat.le_add_right _ _) (by omega),
    Nat.add_sub_cancel_left]

/-- A write into part of a block. -/
theorem block_writeAt_within {off n : Nat} (src : Buffer) (h : off + n ≤ size) :
    (f.writeAt (size * b + off) n src).block size b = Buffer.paste (f.block size b) off n src := by
  funext i
  by_cases hi : i < size
  · rw [block_apply _ hi, writeAt_bytes]
    unfold Buffer.paste
    by_cases hin : off ≤ i ∧ i < off + n
    · rw [if_pos (by omega), if_pos hin]
      congr 1
      omega
    · rw [if_neg (by omega), if_neg hin, block_apply f hi]
  · rw [block_beyond _ (Nat.le_of_not_lt hi), Buffer.paste_outside _ _ (by omega),
      block_beyond _ (Nat.le_of_not_lt hi)]

/-- A run of blocks written at once. -/
theorem block_writeAt_run {b' n : Nat} (src : Buffer) (h : b' ≤ b) (h' : b < b' + n) :
    (f.writeAt (size * b') (size * n) src).block size b = Buffer.cut size (Buffer.drop (size * (b - b')) src) := by
  apply Buffer.cut_congr
  intro i hi
  have hstart : size * b = size * b' + size * (b - b') := by
    rw [← Nat.mul_add, Nat.add_sub_cancel' h]
  have hstop : size * (b - b') + size ≤ size * n := Nat.mul_le_mul_left size (by omega : b - b' + 1 ≤ n)
  rw [Buffer.drop_apply, Buffer.drop_apply, writeAt_bytes, Buffer.paste_inside _ _ (by omega) (by omega)]
  congr 1
  omega

theorem block_writeAt_run_outside {b' n : Nat} (src : Buffer) (h : b < b' ∨ b' + n ≤ b) :
    (f.writeAt (size * b') (size * n) src).block size b = f.block size b := by
  apply block_writeAt_outside
  rcases h with h | h
  · exact Or.inr (Nat.mul_le_mul_left size h)
  · left
    rw [← Nat.mul_add]
    exact Nat.mul_le_mul_left size h

end DiskFile

end K1801.Library
