import Mathlib.Logic.Function.Basic

/-! # Bounded queues

A queue with room for `cap` items. What is pushed into a full queue is lost.
-/

namespace K1801.Library

structure BoundedQueue (α : Type) (cap : Nat) where
  items : List α
  bounded : items.length ≤ cap

namespace BoundedQueue

variable {α : Type} {cap : Nat}

instance : Inhabited (BoundedQueue α cap) := ⟨⟨[], Nat.zero_le _⟩⟩

def empty : BoundedQueue α cap := default

def length (q : BoundedQueue α cap) : Nat := q.items.length

def full (q : BoundedQueue α cap) : Bool := cap ≤ q.length

/-- The items that still fit. -/
def room (q : BoundedQueue α cap) : Nat := cap - q.length

def push (q : BoundedQueue α cap) (v : α) : BoundedQueue α cap :=
  if h : q.items.length < cap then ⟨q.items ++ [v], by rw [List.length_append]; exact h⟩ else q

/-- The queue without its oldest item. -/
def pop (q : BoundedQueue α cap) : BoundedQueue α cap :=
  ⟨q.items.tail, Nat.le_trans (by simp) q.bounded⟩

@[simp] theorem items_empty : (empty : BoundedQueue α cap).items = [] := rfl

@[simp] theorem items_pop (q : BoundedQueue α cap) : q.pop.items = q.items.tail := rfl

theorem length_lt {q : BoundedQueue α cap} (h : q.full = false) : q.items.length < cap :=
  Nat.lt_of_not_le (of_decide_eq_false h)

theorem room_of_full {q : BoundedQueue α cap} (h : q.full = true) : q.room = 0 :=
  Nat.sub_eq_zero_of_le (of_decide_eq_true h)

theorem items_push {q : BoundedQueue α cap} (h : q.full = false) (v : α) :
    (q.push v).items = q.items ++ [v] := by
  unfold push
  rw [dif_pos (length_lt h)]

end BoundedQueue

end K1801.Library
