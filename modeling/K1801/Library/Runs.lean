import K1801.Library.Extents

/-! # Runs of consecutive numbers

A list of numbers read as the extents that its neighbours form.
-/

namespace K1801.Library

namespace Extent

def blocks (e : Extent) : List Nat := List.range' e.start e.len

end Extent

open Extent

/-- Puts a number before extents; the first of them grows where the number is next to it. -/
def pushRun (b : Nat) : List Extent → List Extent
  | [] => [⟨b, 1⟩]
  | e :: es => if e.start = b + 1 then ⟨b, e.len + 1⟩ :: es else ⟨b, 1⟩ :: e :: es

theorem pushRun_cons (b : Nat) (e : Extent) (es : List Extent) :
    pushRun b (e :: es) = if e.start = b + 1 then ⟨b, e.len + 1⟩ :: es else ⟨b, 1⟩ :: e :: es := rfl

def runs (l : List Nat) : List Extent := l.foldr pushRun []

@[simp] theorem runs_nil : runs [] = [] := rfl

theorem runs_cons (b : Nat) (l : List Nat) : runs (b :: l) = pushRun b (runs l) := rfl

/-- The runs of a list are the list. -/
theorem runs_blocks (l : List Nat) : (runs l).flatMap blocks = l := by
  induction l with
  | nil => rfl
  | cons b l ih =>
    rw [runs_cons]
    cases hruns : runs l with
    | nil =>
      rw [hruns] at ih
      rw [← ih]
      rfl
    | cons e es =>
      rw [hruns, List.flatMap_cons] at ih
      rw [pushRun_cons]
      by_cases hnext : e.start = b + 1
      · rw [if_pos hnext, List.flatMap_cons, ← ih]
        unfold blocks
        rw [List.range'_succ, hnext, List.cons_append]
      · rw [if_neg hnext, List.flatMap_cons, List.flatMap_cons, ih]
        rfl

theorem runs_head (b : Nat) (l : List Nat) : ∃ n es, runs (b :: l) = ⟨b, n⟩ :: es := by
  rw [runs_cons]
  cases runs l with
  | nil => exact ⟨1, [], rfl⟩
  | cons e es =>
    unfold pushRun
    by_cases hnext : e.start = b + 1
    · exact ⟨e.len + 1, es, if_pos hnext⟩
    · exact ⟨1, e :: es, if_neg hnext⟩

/-- Lists that do not touch have the runs of both. -/
theorem runs_append {l m : List Nat} (h : ∀ x ∈ l, ∀ y ∈ m.head?, x + 1 ≠ y) : runs (l ++ m) = runs l ++ runs m := by
  induction l with
  | nil => rfl
  | cons a l ih =>
    have hrest := ih fun x hx => h x (List.mem_cons_of_mem a hx)
    rw [List.cons_append, runs_cons, hrest, runs_cons]
    cases hruns : runs l with
    | cons e es =>
      rw [List.cons_append, pushRun_cons, pushRun_cons]
      by_cases hnext : e.start = a + 1
      · rw [if_pos hnext, if_pos hnext, List.cons_append]
      · rw [if_neg hnext, if_neg hnext, List.cons_append, List.cons_append]
    | nil =>
      cases m with
      | nil => rfl
      | cons y m =>
        obtain ⟨n, es, hhead⟩ := runs_head y m
        have hapart := h a List.mem_cons_self y rfl
        rw [hhead, List.nil_append]
        exact if_neg (Ne.symm hapart)

theorem runs_range' (start : Nat) {n : Nat} (h : n ≠ 0) : runs (List.range' start n) = [⟨start, n⟩] := by
  induction n generalizing start with
  | zero => exact absurd rfl h
  | succ n ih =>
    rw [List.range'_succ, runs_cons]
    cases n with
    | zero => rfl
    | succ n =>
      rw [ih (start + 1) (Nat.succ_ne_zero n)]
      exact if_pos rfl

end K1801.Library
