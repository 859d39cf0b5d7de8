import K1801.Library.WordBuffer

/-! # Words moved between two buffers

A transfer takes words from a disk to memory or from memory to a disk, one after the other, each at its own place on
both sides.
-/

namespace K1801.Library

inductive Direction where
  | toMemory
  | toDisk
  deriving Repr, DecidableEq

structure Sides where
  memory : Buffer
  disk : Buffer

namespace Sides

/-- Move the word between place `m` of memory and place `d` of the disk. -/
def moveWord (dir : Direction) (m d : Nat) (s : Sides) : Sides :=
  match dir with
  | .toMemory => { s with memory := s.memory.putWord m (s.disk.word d) }
  | .toDisk => { s with disk := s.disk.putWord d (s.memory.word m) }

/-- The first `n` words moved. -/
def moved (dir : Direction) (m d : Nat → Nat) (s : Sides) : Nat → Sides
  | 0 => s
  | n + 1 => (moved dir m d s n).moveWord dir (m n) (d n)

variable {dir : Direction} {m d : Nat → Nat} {s : Sides} {n : Nat}

theorem moved_toMemory : s.moved .toMemory m d n =
    { s with memory := s.memory.scatter m (fun j => s.disk.word (d j)) n } := by
  induction n with
  | zero => rfl
  | succ n ih =>
    unfold moved
    rw [ih]
    rfl

theorem moved_toDisk : s.moved .toDisk m d n =
    { s with disk := s.disk.scatter d (fun j => s.memory.word (m j)) n } := by
  induction n with
  | zero => rfl
  | succ n ih =>
    unfold moved
    rw [ih]
    rfl

/-- Memory outside the words of the transfer is unchanged. -/
theorem moved_memory_outside {i : Nat} (h : ∀ j < n, i < m j ∨ m j + 2 ≤ i) :
    (s.moved dir m d n).memory i = s.memory i := by
  cases dir with
  | toMemory =>
    rw [moved_toMemory]
    exact Buffer.scatter_outside h
  | toDisk => rw [moved_toDisk]

/-- The disk outside the words of the transfer is unchanged. -/
theorem moved_disk_outside {i : Nat} (h : ∀ j < n, i < d j ∨ d j + 2 ≤ i) :
    (s.moved dir m d n).disk i = s.disk i := by
  cases dir with
  | toMemory => rw [moved_toMemory]
  | toDisk =>
    rw [moved_toDisk]
    exact Buffer.scatter_outside h

theorem moved_congr {m' d' : Nat → Nat} (hm : ∀ j < n, m j = m' j) (hd : ∀ j < n, d j = d' j) :
    s.moved dir m d n = s.moved dir m' d' n := by
  induction n with
  | zero => rfl
  | succ n ih =>
    unfold moved
    rw [ih (fun j hj => hm j (Nat.lt_succ_of_lt hj)) fun j hj => hd j (Nat.lt_succ_of_lt hj),
      hm n (Nat.lt_succ_self n), hd n (Nat.lt_succ_self n)]

end Sides

end K1801.Library
