import Mathlib.Data.List.Basic

/-! # Files with a cursor

A file is a list of cells and a cursor. A read returns what is there, which may be less than was
asked for, and moves over it; a write replaces cells from the cursor on and extends the file where it
ends. A write behind the end fills the gap.
-/

namespace K1801.Library

structure ByteFile (α : Type) where
  bytes : List α
  cursor : Nat
  deriving DecidableEq, Repr

namespace ByteFile

variable {α : Type}

def read (n : Nat) (f : ByteFile α) : List α × ByteFile α :=
  ((f.bytes.drop f.cursor).take n, { f with cursor := f.cursor + ((f.bytes.drop f.cursor).take n).length })

/-- The cells before the cursor, with the gap of a cursor behind the end filled. -/
def before (fill : α) (f : ByteFile α) : List α :=
  f.bytes.take f.cursor ++ List.replicate (f.cursor - f.bytes.length) fill

def write (fill : α) (data : List α) (f : ByteFile α) : ByteFile α where
  bytes := f.before fill ++ data ++ f.bytes.drop (f.cursor + data.length)
  cursor := f.cursor + data.length

def seek (pos : Nat) (f : ByteFile α) : ByteFile α := { f with cursor := pos }

@[simp] theorem seek_bytes (pos : Nat) (f : ByteFile α) : (f.seek pos).bytes = f.bytes := rfl

@[simp] theorem seek_cursor (pos : Nat) (f : ByteFile α) : (f.seek pos).cursor = pos := rfl

@[simp] theorem read_bytes (n : Nat) (f : ByteFile α) : (f.read n).2.bytes = f.bytes := rfl

@[simp] theorem write_cursor (fill : α) (data : List α) (f : ByteFile α) :
    (f.write fill data).cursor = f.cursor + data.length := rfl

/-- What lies at the cursor is read. -/
theorem read_append {f : ByteFile α} {left data right : List α} (hbytes : f.bytes = left ++ data ++ right)
    (hcursor : f.cursor = left.length) :
    f.read data.length = (data, { f with cursor := f.cursor + data.length }) := by
  have hrest : f.bytes.drop f.cursor = data ++ right := by
    rw [hbytes, hcursor, List.append_assoc, List.drop_left]
  unfold read
  rw [hrest, List.take_left]

/-- At the end there is nothing to read. -/
theorem read_end {f : ByteFile α} (hcursor : f.cursor = f.bytes.length) (n : Nat) : f.read n = ([], f) := by
  have hrest : f.bytes.drop f.cursor = [] := by rw [hcursor, List.drop_length]
  unfold read
  rw [hrest, List.take_nil]
  rfl

/-- A write replaces the cells behind the cursor. -/
theorem write_append {fill : α} {f : ByteFile α} {left right data : List α}
    (hbytes : f.bytes = left ++ right) (hcursor : f.cursor = left.length) :
    f.write fill data = ⟨left ++ data ++ right.drop data.length, f.cursor + data.length⟩ := by
  have hbefore : f.before fill = left := by
    unfold before
    rw [hbytes, hcursor, List.take_left, List.length_append, Nat.sub_eq_zero_of_le (by omega)]
    simp
  have hafter : f.bytes.drop (f.cursor + data.length) = right.drop data.length := by
    rw [hbytes, hcursor, List.drop_append, List.drop_eq_nil_of_le (by omega)]
    simp
  unfold write
  rw [hbefore, hafter]

end ByteFile

end K1801.Library
