import K1801.Library.Buffer
import Mathlib.Logic.Function.Iterate

/-! # Accesses that are checked

A computation either answers, with a value or an error of its own, or goes wrong: it leaves a buffer or does not end.
Going wrong is `none`.
-/

namespace K1801.Library

/-- A computation that may also go wrong. -/
abbrev Checked (ε α : Type) : Type := ExceptT ε Option α

variable {ε α β σ : Type}

/-- A computation that does not go wrong. -/
def settled (x : Except ε α) : Checked ε α := ExceptT.mk (some x)

/-- An access to `n` places from `off` on, of `size` places. -/
def accessed (size off n : Nat) (a : α) : Checked ε α :=
  if off + n ≤ size then settled (.ok a) else ExceptT.mk none

/-- The computation answers. -/
def Answers (x : Checked ε α) : Prop := ∃ y, x = settled y

@[simp] theorem settled_bind (a : α) (f : α → Checked ε β) : (settled (.ok a) >>= f) = f a := rfl

@[simp] theorem settled_error_bind (e : ε) (f : α → Checked ε β) :
    (settled (.error e) >>= f) = settled (.error e) := rfl

theorem pure_settled (a : α) : (pure a : Checked ε α) = settled (.ok a) := rfl

theorem accessed_within {size off n : Nat} (h : off + n ≤ size) (a : α) :
    (accessed size off n a : Checked ε α) = settled (.ok a) := if_pos h

theorem accessed_outside {size off n : Nat} (h : size < off + n) (a : α) :
    (accessed size off n a : Checked ε α) = ExceptT.mk none := if_neg (Nat.not_le.mpr h)

/-- A step whose rest does not go wrong. -/
theorem settled_bind_settled {x : Except ε α} {f : α → Checked ε β} {g : α → Except ε β}
    (h : ∀ a, x = .ok a → f a = settled (g a)) : (settled x >>= f) = settled (x >>= g) := by
  cases x with
  | error e => rfl
  | ok a => exact h a rfl

/-- The result of a computation, which a caller looks at. -/
def attempt (x : Checked ε α) : Checked ε (Except ε α) := ExceptT.mk (x.run.map Except.ok)

@[simp] theorem attempt_settled (x : Except ε α) : attempt (settled x) = settled (.ok x) := rfl

theorem answers_settled (x : Except ε α) : Answers (settled x) := ⟨x, rfl⟩

theorem answers_bind {x : Checked ε α} {f : α → Checked ε β} (hx : Answers x)
    (hf : ∀ a, x = settled (.ok a) → Answers (f a)) : Answers (x >>= f) := by
  obtain ⟨y, rfl⟩ := hx
  cases y with
  | error e => exact answers_settled _
  | ok a => exact hf a rfl

theorem not_answers_none : ¬ Answers (ExceptT.mk none : Checked ε α) := by
  rintro ⟨y, h⟩
  cases h

theorem answers_accessed {size off n : Nat} (a : α) :
    Answers (accessed size off n a : Checked ε α) ↔ off + n ≤ size := by
  constructor
  · intro h
    by_contra hout
    rw [accessed_outside (by omega)] at h
    exact not_answers_none h
  · intro h
    rw [accessed_within h]
    exact answers_settled _

/-! ## Buffers of `size` bytes -/

section Buffers

open Buffer

def byteAt (size : Nat) (buf : Buffer) (off : Nat) : Checked ε (BitVec 8) := accessed size off 1 (buf off)

def le16At (size : Nat) (buf : Buffer) (off : Nat) : Checked ε Nat := accessed size off 2 (getLe16 buf off)

def hiword32At (size : Nat) (buf : Buffer) (off : Nat) : Checked ε Nat := accessed size off 4 (getHiword32 buf off)

def sum16At (size : Nat) (buf : Buffer) : Nat → Checked ε Nat
  | 0 => pure 0
  | n + 1 => do
    let sum ← sum16At size buf n
    let word ← le16At size buf (2 * n)
    return (sum + word) % 65536

variable {size off : Nat} (buf : Buffer)

theorem byteAt_within (h : off < size) : (byteAt size buf off : Checked ε _) = settled (.ok (buf off)) :=
  accessed_within h _

theorem le16At_within (h : off + 2 ≤ size) : (le16At size buf off : Checked ε _) = settled (.ok (getLe16 buf off)) :=
  accessed_within h _

theorem hiword32At_within (h : off + 4 ≤ size) :
    (hiword32At size buf off : Checked ε _) = settled (.ok (getHiword32 buf off)) :=
  accessed_within h _

theorem sum16At_within {n : Nat} (h : 2 * n ≤ size) :
    (sum16At size buf n : Checked ε _) = settled (.ok (sum16 buf n)) := by
  induction n with
  | zero => rfl
  | succ n ih =>
    rw [sum16At, ih (by omega), settled_bind, le16At_within buf (by omega), settled_bind]
    rfl

end Buffers

/-! ## Loops without a bound -/

section Loops

variable (body : σ → Checked ε (Option α)) (next : σ → σ)

/-- The loop goes on until its body answers with a value or an error; at most `fuel` rounds. -/
def rounds : Nat → σ → Checked ε α
  | 0, _ => ExceptT.mk none
  | fuel + 1, s => do
    match ← body s with
    | some a => return a
    | none => rounds fuel (next s)

variable {body next} {b : σ → Except ε (Option α)} (hbody : ∀ s, body s = settled (b s))
include hbody

theorem rounds_next {fuel : Nat} {s : σ} (h : b s = .ok none) :
    rounds body next (fuel + 1) s = rounds body next fuel (next s) := by
  rw [rounds, hbody, h]
  rfl

theorem rounds_stop {fuel : Nat} {s : σ} (h : b s ≠ .ok none) : Answers (rounds body next (fuel + 1) s) := by
  rw [rounds, hbody]
  cases hb : b s with
  | error e => exact answers_settled _
  | ok r =>
    cases r with
    | none => exact absurd hb h
    | some a => exact answers_settled _

theorem rounds_stopped {fuel : Nat} {s : σ} (h : Answers (rounds body next fuel s)) :
    ∃ n, b (next^[n] s) ≠ .ok none := by
  induction fuel generalizing s with
  | zero => exact absurd h not_answers_none
  | succ fuel ih =>
    by_cases hs : b s = .ok none
    · rw [rounds_next hbody hs] at h
      obtain ⟨n, hn⟩ := ih h
      exact ⟨n + 1, hn⟩
    · exact ⟨0, hs⟩

theorem rounds_answer {n : Nat} {s : σ} (h : b (next^[n] s) ≠ .ok none) {fuel : Nat} (hfuel : n < fuel) :
    Answers (rounds body next fuel s) := by
  obtain ⟨fuel, rfl⟩ : ∃ k, fuel = k + 1 := ⟨fuel - 1, by omega⟩
  induction n generalizing s fuel with
  | zero => exact rounds_stop hbody h
  | succ n ih =>
    by_cases hs : b s = .ok none
    · obtain ⟨fuel, rfl⟩ : ∃ k, fuel = k + 1 := ⟨fuel - 1, by omega⟩
      rw [rounds_next hbody hs]
      exact ih h fuel (by omega)
    · exact rounds_stop hbody hs

/-- All the numbers of rounds that suffice give one answer. -/
theorem rounds_unique {fuel fuel' : Nat} {s : σ} (h : Answers (rounds body next fuel s))
    (h' : Answers (rounds body next fuel' s)) : rounds body next fuel s = rounds body next fuel' s := by
  induction fuel generalizing fuel' s with
  | zero => exact absurd h not_answers_none
  | succ fuel ih =>
    cases fuel' with
    | zero => exact absurd h' not_answers_none
    | succ fuel' =>
      by_cases hs : b s = .ok none
      · rw [rounds_next hbody hs] at h h' ⊢
        rw [rounds_next hbody hs]
        exact ih h h'
      · rw [rounds, rounds, hbody]
        cases hb : b s with
        | error e => rfl
        | ok r =>
          cases r with
          | none => exact absurd hb hs
          | some a => rfl

/-- The loop ends if and only if it comes to a state that stops it. -/
theorem rounds_end {s : σ} :
    (∃ fuel, Answers (rounds body next fuel s)) ↔ ∃ n, b (next^[n] s) ≠ .ok none := by
  constructor
  · rintro ⟨fuel, h⟩
    exact rounds_stopped hbody h
  · rintro ⟨n, hn⟩
    exact ⟨n + 1, rounds_answer hbody hn (Nat.lt_succ_self n)⟩

end Loops

end K1801.Library
