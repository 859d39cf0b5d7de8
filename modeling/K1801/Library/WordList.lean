import Mathlib.Data.List.Basic
import Mathlib.Algebra.Order.Ring.Int
import Mathlib.Algebra.BigOperators.Group.List.Basic

/-! # Lists of words as lists of bytes

Little-endian words of 16 bits, as integers, and the bytes they are written as. Writing and reading are inverse to
each other on words in range and on an even number of bytes.
-/

namespace K1801.Library

/-- A number that fits in a word. -/
def FitsWord (w : Int) : Prop := 0 ≤ w ∧ w < 65536

instance (w : Int) : Decidable (FitsWord w) := inferInstanceAs (Decidable (_ ∧ _))

def wordBytes (w : Int) : List (BitVec 8) := [BitVec.ofInt 8 w, BitVec.ofInt 8 (w / 256)]

def bytesOf (ws : List Int) : List (BitVec 8) := ws.flatMap wordBytes

/-- The words that pairs of bytes stand for. A last byte without a partner is dropped. -/
def wordsOf : List (BitVec 8) → List Int
  | lo :: hi :: rest => (lo.toNat + 256 * hi.toNat) :: wordsOf rest
  | _ => []

@[simp] theorem bytesOf_nil : bytesOf [] = [] := rfl

@[simp] theorem bytesOf_cons (w : Int) (ws : List Int) : bytesOf (w :: ws) = wordBytes w ++ bytesOf ws := rfl

theorem bytesOf_append (ws ws' : List Int) : bytesOf (ws ++ ws') = bytesOf ws ++ bytesOf ws' :=
  List.flatMap_append

theorem bytesOf_length (ws : List Int) : (bytesOf ws).length = 2 * ws.length := by
  induction ws with
  | nil => rfl
  | cons w ws ih =>
    rw [bytesOf_cons, List.length_append, ih, List.length_cons]
    show 2 + 2 * ws.length = _
    omega

theorem wordsOf_length : ∀ bs : List (BitVec 8), (wordsOf bs).length = bs.length / 2
  | [] => rfl
  | [_] => by simp [wordsOf]
  | _ :: _ :: rest => by
    have ih := wordsOf_length rest
    simp only [wordsOf, List.length_cons, ih]
    omega

theorem wordsOf_fits : ∀ (bs : List (BitVec 8)), ∀ w ∈ wordsOf bs, FitsWord w
  | [], _, hw => by cases hw
  | [_], _, hw => by cases hw
  | lo :: hi :: rest, w, hw => by
    rcases List.mem_cons.1 hw with rfl | hw
    · have hlo := lo.isLt
      have hhi := hi.isLt
      exact ⟨by omega, by omega⟩
    · exact wordsOf_fits rest w hw

theorem wordBytes_toNat {w : Int} (hw : FitsWord w) :
    ((BitVec.ofInt 8 w).toNat + 256 * (BitVec.ofInt 8 (w / 256)).toNat : Int) = w := by
  obtain ⟨hlow, hhigh⟩ := hw
  rw [BitVec.toNat_ofInt, BitVec.toNat_ofInt]
  omega

/-- Words in range are read back. -/
theorem wordsOf_bytesOf {ws : List Int} (hws : ∀ w ∈ ws, FitsWord w) : wordsOf (bytesOf ws) = ws := by
  induction ws with
  | nil => rfl
  | cons w ws ih =>
    have htail := ih fun v hv => hws v (List.mem_cons_of_mem w hv)
    have hhead := wordBytes_toNat (hws w (by simp))
    show _ :: wordsOf (bytesOf ws) = _
    rw [hhead, htail]

theorem ofInt_low {lo hi : BitVec 8} : BitVec.ofInt 8 (lo.toNat + 256 * hi.toNat) = lo := by
  apply BitVec.eq_of_toNat_eq
  have hlo := lo.isLt
  rw [BitVec.toNat_ofInt]
  omega

theorem ofInt_high {lo hi : BitVec 8} : BitVec.ofInt 8 ((lo.toNat + 256 * hi.toNat) / 256) = hi := by
  apply BitVec.eq_of_toNat_eq
  have hlo := lo.isLt
  have hhi := hi.isLt
  rw [BitVec.toNat_ofInt]
  omega

/-- An even number of bytes is the words read from it. -/
theorem bytesOf_wordsOf : ∀ {bs : List (BitVec 8)}, bs.length % 2 = 0 → bytesOf (wordsOf bs) = bs
  | [], _ => rfl
  | [_], h => by cases h
  | lo :: hi :: rest, h => by
    have heven : rest.length % 2 = 0 := by
      simp only [List.length_cons] at h
      omega
    show wordBytes _ ++ bytesOf (wordsOf rest) = _
    rw [bytesOf_wordsOf heven, wordBytes, ofInt_low, ofInt_high]
    rfl

theorem wordsOf_append : ∀ {bs : List (BitVec 8)}, bs.length % 2 = 0 → ∀ bs',
    wordsOf (bs ++ bs') = wordsOf bs ++ wordsOf bs'
  | [], _, _ => rfl
  | [_], h, _ => by cases h
  | lo :: hi :: rest, h, bs' => by
    have heven : rest.length % 2 = 0 := by
      simp only [List.length_cons] at h
      omega
    show _ :: wordsOf (rest ++ bs') = _
    rw [wordsOf_append heven bs']
    rfl

theorem wordsOf_zeros (n : Nat) : wordsOf (List.replicate (2 * n) 0#8) = List.replicate n 0 := by
  induction n with
  | zero => rfl
  | succ n ih =>
    have hsum : 2 * (n + 1) = 2 * n + 1 + 1 := by omega
    rw [hsum, List.replicate_succ, List.replicate_succ, List.replicate_succ]
    show _ :: wordsOf (List.replicate (2 * n) 0#8) = _
    rw [ih]
    rfl

theorem bytesOf_zeros (n : Nat) : bytesOf (List.replicate n 0) = List.replicate (2 * n) 0#8 := by
  rw [← wordsOf_zeros, bytesOf_wordsOf (by rw [List.length_replicate]; omega)]

/-- A word put into its two bytes. -/
theorem wordsOf_set : ∀ (bs : List (BitVec 8)) (i : Nat) (lo hi : BitVec 8), 2 * i + 2 ≤ bs.length →
    wordsOf ((bs.set (2 * i) lo).set (2 * i + 1) hi) = (wordsOf bs).set i (lo.toNat + 256 * hi.toNat : Int)
  | [], _, _, _, h => by simp at h
  | [_], _, _, _, h => by
    simp only [List.length_cons, List.length_nil] at h
    omega
  | _ :: _ :: _, 0, _, _, _ => rfl
  | b :: b' :: rest, i + 1, lo, hi, h => by
    have hnext := wordsOf_set rest i lo hi (by
      simp only [List.length_cons] at h
      omega)
    have hlow : 2 * (i + 1) = 2 * i + 1 + 1 := by omega
    rw [hlow]
    exact congrArg (_ :: ·) hnext

/-- The bytes of one word. -/
theorem wordsOf_getElem? : ∀ (bs : List (BitVec 8)) (i : Nat) {lo hi : BitVec 8}, bs[2 * i]? = some lo →
    bs[2 * i + 1]? = some hi → (wordsOf bs)[i]? = some (lo.toNat + 256 * hi.toNat : Int)
  | [], i, _, _, hlo, _ => by simp at hlo
  | [_], i, _, _, _, hhi => by simp at hhi
  | b :: b' :: rest, 0, _, _, hlo, hhi => by
    cases hlo
    cases hhi
    rfl
  | b :: b' :: rest, i + 1, _, _, hlo, hhi => by
    have hlow : 2 * (i + 1) = 2 * i + 1 + 1 := by omega
    rw [hlow] at hlo hhi
    exact wordsOf_getElem? rest i hlo hhi

end K1801.Library
