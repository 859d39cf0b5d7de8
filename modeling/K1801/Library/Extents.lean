import Mathlib.Algebra.GroupWithZero.Nat
import Mathlib.Data.List.Basic
import Mathlib.Logic.Function.Basic

/-! # Extents laid out one after the other

A list of lengths places extents on a store of numbered blocks. Moving extents down in order, each to the end
of the one before, keeps what they hold.
-/

namespace K1801.Library

structure Extent where
  start : Nat
  len : Nat
  deriving DecidableEq, Repr

namespace Extent

def stop (e : Extent) : Nat := e.start + e.len

def Has (e : Extent) (b : Nat) : Prop := e.start ≤ b ∧ b < e.stop

/-- No block in common. -/
def Apart (e e' : Extent) : Prop := ∀ b, e.Has b → ¬e'.Has b

theorem Apart.symm {e e' : Extent} (h : e.Apart e') : e'.Apart e := fun b hb hin => h b hin hb

theorem apart_of_le {e e' : Extent} (h : e.stop ≤ e'.start) : e.Apart e' :=
  fun _ hb hin => absurd (Nat.lt_of_lt_of_le hb.2 (Nat.le_trans h hin.1)) (Nat.lt_irrefl _)

/-- The extent on a store that begins at `base`. -/
def shift (base : Nat) (e : Extent) : Extent := ⟨base + e.start, e.len⟩

@[simp] theorem shift_len (base : Nat) (e : Extent) : (shift base e).len = e.len := rfl

/-- Extents of the given lengths, the first at `start`. -/
def consecutive (start : Nat) : List Nat → List Extent
  | [] => []
  | n :: ns => ⟨start, n⟩ :: consecutive (start + n) ns

@[simp] theorem consecutive_nil (start : Nat) : consecutive start [] = [] := rfl

@[simp] theorem consecutive_cons (start n : Nat) (ns : List Nat) :
    consecutive start (n :: ns) = ⟨start, n⟩ :: consecutive (start + n) ns := rfl

@[simp] theorem consecutive_length (start : Nat) (ns : List Nat) : (consecutive start ns).length = ns.length := by
  induction ns generalizing start with
  | nil => rfl
  | cons n ns ih => rw [consecutive_cons, List.length_cons, List.length_cons, ih]

theorem consecutive_append (start : Nat) (ns ns' : List Nat) :
    consecutive start (ns ++ ns') = consecutive start ns ++ consecutive (start + ns.sum) ns' := by
  induction ns generalizing start with
  | nil => rfl
  | cons n ns ih =>
    rw [List.cons_append, consecutive_cons, consecutive_cons, ih, List.sum_cons, Nat.add_assoc, List.cons_append]

theorem consecutive_within {start : Nat} {ns : List Nat} {e : Extent} (h : e ∈ consecutive start ns) :
    start ≤ e.start ∧ e.stop ≤ start + ns.sum := by
  induction ns generalizing start with
  | nil => cases h
  | cons n ns ih =>
    rw [consecutive_cons, List.mem_cons] at h
    rw [List.sum_cons]
    cases h with
    | inl h =>
      subst h
      exact ⟨Nat.le_refl _, Nat.add_le_add_left (Nat.le_add_right _ _) _⟩
    | inr h =>
      have hrest := ih h
      exact ⟨by omega, by omega⟩

theorem consecutive_pairwise (start : Nat) (ns : List Nat) :
    (consecutive start ns).Pairwise fun e e' => e.stop ≤ e'.start := by
  induction ns generalizing start with
  | nil => exact .nil
  | cons n ns ih =>
    rw [consecutive_cons, List.pairwise_cons]
    exact ⟨fun e he => (consecutive_within he).1, ih _⟩

theorem consecutive_shift (base start : Nat) (ns : List Nat) :
    (consecutive start ns).map (shift base) = consecutive (base + start) ns := by
  induction ns generalizing start with
  | nil => rfl
  | cons n ns ih =>
    rw [consecutive_cons, List.map_cons, ih, consecutive_cons, ← Nat.add_assoc]
    rfl

/-- The extents follow each other from `pos` on, with gaps between them. -/
def Ordered : Nat → List Extent → Prop
  | _, [] => True
  | pos, e :: es => pos ≤ e.start ∧ Ordered e.stop es

theorem Ordered.mono {pos pos' : Nat} {es : List Extent} (h : Ordered pos es) (hpos : pos' ≤ pos) :
    Ordered pos' es := by
  cases es with
  | nil => trivial
  | cons e es => exact ⟨Nat.le_trans hpos h.1, h.2⟩

theorem Ordered.le_start {pos : Nat} {es : List Extent} (h : Ordered pos es) {e : Extent} (he : e ∈ es) :
    pos ≤ e.start := by
  induction es generalizing pos with
  | nil => cases he
  | cons e' es ih =>
    cases he with
    | head => exact h.1
    | tail _ he => exact Nat.le_trans h.1 (Nat.le_trans (Nat.le_add_right _ _) (ih h.2 he))

theorem Ordered.shift {pos : Nat} {es : List Extent} (h : Ordered pos es) (base : Nat) :
    Ordered (base + pos) (es.map (shift base)) := by
  induction es generalizing pos with
  | nil => trivial
  | cons e es ih =>
    have hrest := ih h.2
    exact ⟨Nat.add_le_add_left h.1 _, hrest.mono (Nat.le_of_eq (Nat.add_assoc _ _ _))⟩

/-- Some of the extents laid out one after the other. -/
theorem ordered_sublist {start : Nat} {ns : List Nat} {es : List Extent}
    (h : es.Sublist (consecutive start ns)) : Ordered start es := by
  induction ns generalizing start es with
  | nil =>
    cases h
    trivial
  | cons n ns ih =>
    rw [consecutive_cons] at h
    cases h with
    | cons _ h => exact (ih h).mono (Nat.le_add_right _ _)
    | cons_cons _ h => exact ⟨Nat.le_refl _, ih h⟩

section Store

variable {β : Type}

/-- What the extent holds. -/
def contents (store : Nat → β) (e : Extent) : List β := (List.range e.len).map fun i => store (e.start + i)

theorem contents_congr {store store' : Nat → β} {e e' : Extent} (hlen : e'.len = e.len)
    (h : ∀ i, i < e.len → store' (e'.start + i) = store (e.start + i)) : e'.contents store' = e.contents store := by
  unfold contents
  rw [hlen]
  exact List.map_congr_left fun i hi => h i (List.mem_range.1 hi)

/-- Copies `n` blocks one at a time, the lowest first. -/
def copyUp (store : Nat → β) (src dst : Nat) : Nat → Nat → β
  | 0 => store
  | n + 1 =>
    let store' := copyUp store src dst n
    Function.update store' (dst + n) (store' (src + n))

/-- Downwards, the blocks arrive as they were: none is overwritten before it is read. -/
theorem copyUp_apply (store : Nat → β) {src dst : Nat} (hdown : dst ≤ src) (n a : Nat) :
    copyUp store src dst n a = if dst ≤ a ∧ a < dst + n then store (src + (a - dst)) else store a := by
  induction n generalizing a with
  | zero => rw [copyUp, if_neg (by omega)]
  | succ n ih =>
    rw [copyUp]
    by_cases ha : a = dst + n
    · subst ha
      rw [Function.update_self, ih, if_neg (by omega), if_pos (by omega), Nat.add_sub_cancel_left]
    · rw [Function.update_of_ne ha, ih]
      by_cases hin : dst ≤ a ∧ a < dst + n
      · rw [if_pos hin, if_pos (by omega)]
      · rw [if_neg hin, if_neg (by omega)]

theorem copyUp_self (store : Nat → β) (src n : Nat) : copyUp store src src n = store := by
  funext a
  rw [copyUp_apply store (Nat.le_refl _)]
  by_cases ha : src ≤ a ∧ a < src + n
  · rw [if_pos ha, Nat.add_sub_cancel' ha.1]
  · rw [if_neg ha]

/-- Every extent is copied to the end of the one before, the first to `pos`. -/
def compact : List Extent → Nat → (Nat → β) → Nat → β
  | [], _, store => store
  | e :: es, pos, store => compact es (pos + e.len) (copyUp store e.start pos e.len)

/-- Where the extents are then. -/
def compacted (es : List Extent) (pos : Nat) : List Extent := consecutive pos (es.map len)

theorem compact_outside (es : List Extent) {pos : Nat} (store : Nat → β) (h : Ordered pos es) {a : Nat}
    (ha : a < pos ∨ pos + (es.map len).sum ≤ a) : compact es pos store a = store a := by
  induction es generalizing pos store with
  | nil => rfl
  | cons e es ih =>
    rw [List.map_cons, List.sum_cons] at ha
    have hnext : Ordered (pos + e.len) es := h.2.mono (Nat.add_le_add_right h.1 _)
    rw [compact, ih _ hnext (by omega), copyUp_apply store h.1, if_neg (by omega)]

theorem compact_contents (es : List Extent) {pos : Nat} (store : Nat → β) (h : Ordered pos es) :
    (compacted es pos).map (contents (compact es pos store)) = es.map (contents store) := by
  induction es generalizing pos store with
  | nil => rfl
  | cons e es ih =>
    have hnext : Ordered (pos + e.len) es := h.2.mono (Nat.add_le_add_right h.1 _)
    have hfirst : contents (compact (e :: es) pos store) ⟨pos, e.len⟩ = contents store e := by
      refine contents_congr rfl fun i hi => ?_
      rw [compact, compact_outside es _ hnext (.inl (by change pos + i < pos + e.len; omega)),
        copyUp_apply store h.1, if_pos (by change pos ≤ pos + i ∧ pos + i < pos + e.len; omega)]
      rw [Nat.add_sub_cancel_left]
    have hrest := ih (copyUp store e.start pos e.len) hnext
    have hkept : es.map (contents (copyUp store e.start pos e.len)) = es.map (contents store) := by
      refine List.map_congr_left fun e' he' => contents_congr rfl fun i _ => ?_
      have hbehind : e.start + e.len ≤ e'.start := h.2.le_start he'
      have hpos := h.1
      rw [copyUp_apply store h.1, if_neg (by omega)]
    rw [hkept] at hrest
    rw [compacted, List.map_cons, consecutive_cons, List.map_cons, List.map_cons, hfirst]
    exact congrArg _ hrest

end Store

end Extent

end K1801.Library
