import Mathlib.Logic.Function.Basic
import Mathlib.Data.List.Basic

/-! # Byte buffers

A buffer gives a byte for every offset. Words are little-endian, bit `i` is bit `i % 8` of byte `i / 8`.
-/

namespace K1801.Library

abbrev Buffer := Nat → BitVec 8

namespace Buffer

def zero : Buffer := fun _ => 0#8

def put (buf : Buffer) (off : Nat) (v : BitVec 8) : Buffer := Function.update buf off v

/-- The first `n` bytes, zeros behind them. -/
def cut (n : Nat) (buf : Buffer) : Buffer := fun i => if i < n then buf i else 0#8

/-- `n` bytes of another buffer copied to `off`. -/
def paste (buf : Buffer) (off n : Nat) (src : Buffer) : Buffer :=
  fun i => if off ≤ i ∧ i < off + n then src (i - off) else buf i

/-- The buffer from `off` on. -/
def drop (off : Nat) (buf : Buffer) : Buffer := fun i => buf (off + i)

def ofList (bytes : List (BitVec 8)) : Buffer := fun i => bytes.getD i 0#8

@[simp] theorem zero_apply (i : Nat) : zero i = 0#8 := rfl

theorem put_apply (buf : Buffer) (off : Nat) (v : BitVec 8) (i : Nat) :
    put buf off v i = if i = off then v else buf i := Function.update_apply buf off v i

@[simp] theorem put_same (buf : Buffer) (off : Nat) (v : BitVec 8) : put buf off v off = v := by
  rw [put_apply, if_pos rfl]

theorem put_ne (buf : Buffer) {off i : Nat} (v : BitVec 8) (h : i ≠ off) : put buf off v i = buf i := by
  rw [put_apply, if_neg h]

theorem cut_lt {n i : Nat} (buf : Buffer) (h : i < n) : cut n buf i = buf i := if_pos h

theorem cut_ge {n i : Nat} (buf : Buffer) (h : n ≤ i) : cut n buf i = 0#8 := if_neg (Nat.not_lt.mpr h)

theorem cut_congr {n : Nat} {buf buf' : Buffer} (h : ∀ i < n, buf i = buf' i) : cut n buf = cut n buf' := by
  funext i
  by_cases hi : i < n
  · rw [cut_lt buf hi, cut_lt buf' hi, h i hi]
  · rw [cut_ge buf (Nat.le_of_not_lt hi), cut_ge buf' (Nat.le_of_not_lt hi)]

@[simp] theorem cut_cut (n : Nat) (buf : Buffer) : cut n (cut n buf) = cut n buf :=
  cut_congr fun _ hi => cut_lt buf hi

theorem paste_inside {off n i : Nat} (buf src : Buffer) (h : off ≤ i) (h' : i < off + n) :
    paste buf off n src i = src (i - off) := if_pos ⟨h, h'⟩

theorem paste_outside {off n i : Nat} (buf src : Buffer) (h : i < off ∨ off + n ≤ i) :
    paste buf off n src i = buf i := if_neg (by omega)

@[simp] theorem drop_apply (off : Nat) (buf : Buffer) (i : Nat) : drop off buf i = buf (off + i) := rfl

/-! ## Words -/

def getLe16 (buf : Buffer) (off : Nat) : Nat := (buf off).toNat + 256 * (buf (off + 1)).toNat

/-- Two words, the high one first. -/
def getHiword32 (buf : Buffer) (off : Nat) : Nat := getLe16 buf off * 65536 + getLe16 buf (off + 2)

def putLe16 (buf : Buffer) (off v : Nat) : Buffer :=
  put (put buf off (BitVec.ofNat 8 v)) (off + 1) (BitVec.ofNat 8 (v / 256))

def putHiword32 (buf : Buffer) (off v : Nat) : Buffer :=
  putLe16 (putLe16 buf off (v / 65536)) (off + 2) v

theorem getLe16_lt (buf : Buffer) (off : Nat) : getLe16 buf off < 65536 := by
  have hlow := (buf off).isLt
  have hhigh := (buf (off + 1)).isLt
  unfold getLe16
  omega

theorem getLe16_congr {buf buf' : Buffer} {off : Nat} (h : buf off = buf' off)
    (h' : buf (off + 1) = buf' (off + 1)) : getLe16 buf off = getLe16 buf' off := by
  unfold getLe16
  rw [h, h']

theorem putLe16_apply (buf : Buffer) (off v i : Nat) : putLe16 buf off v i =
    if i = off + 1 then BitVec.ofNat 8 (v / 256) else if i = off then BitVec.ofNat 8 v else buf i := by
  unfold putLe16
  rw [put_apply, put_apply]

theorem putLe16_ne (buf : Buffer) {off i : Nat} (v : Nat) (h : i < off ∨ off + 2 ≤ i) :
    putLe16 buf off v i = buf i := by
  rw [putLe16_apply, if_neg (by omega), if_neg (by omega)]

theorem getLe16_putLe16 (buf : Buffer) (off v : Nat) : getLe16 (putLe16 buf off v) off = v % 65536 := by
  unfold getLe16
  rw [putLe16_apply, if_neg (by omega), if_pos rfl, putLe16_apply, if_pos rfl, BitVec.toNat_ofNat,
    BitVec.toNat_ofNat]
  omega

theorem getLe16_putLe16_ne (buf : Buffer) {off off' : Nat} (v : Nat) (h : off' + 2 ≤ off ∨ off + 2 ≤ off') :
    getLe16 (putLe16 buf off v) off' = getLe16 buf off' :=
  getLe16_congr (putLe16_ne buf v (by omega)) (putLe16_ne buf v (by omega))

theorem getLe16_put_ne (buf : Buffer) {off off' : Nat} (v : BitVec 8) (h : off' + 2 ≤ off ∨ off < off') :
    getLe16 (put buf off v) off' = getLe16 buf off' :=
  getLe16_congr (put_ne buf v (by omega)) (put_ne buf v (by omega))

theorem getLe16_cut {n off : Nat} (buf : Buffer) (h : off + 2 ≤ n) :
    getLe16 (cut n buf) off = getLe16 buf off :=
  getLe16_congr (cut_lt buf (by omega)) (cut_lt buf (by omega))

theorem getHiword32_putHiword32 (buf : Buffer) (off v : Nat) :
    getHiword32 (putHiword32 buf off v) off = v % 4294967296 := by
  unfold getHiword32 putHiword32
  rw [getLe16_putLe16, getLe16_putLe16_ne _ _ (by omega), getLe16_putLe16]
  omega

/-- The sum of the first words, on 16 bits. -/
def sum16 (buf : Buffer) : Nat → Nat
  | 0 => 0
  | n + 1 => (sum16 buf n + getLe16 buf (2 * n)) % 65536

theorem sum16_lt (buf : Buffer) (n : Nat) : sum16 buf n < 65536 := by
  cases n with
  | zero => exact Nat.zero_lt_succ _
  | succ n => exact Nat.mod_lt _ (by decide)

theorem sum16_congr {buf buf' : Buffer} {n : Nat} (h : ∀ i < 2 * n, buf i = buf' i) :
    sum16 buf n = sum16 buf' n := by
  induction n with
  | zero => rfl
  | succ n ih =>
    have hword := getLe16_congr (h (2 * n) (by omega)) (h (2 * n + 1) (by omega))
    unfold sum16
    rw [ih fun i hi => h i (by omega), hword]

/-! ## Bits -/

def bit (buf : Buffer) (i : Nat) : Bool := (buf (i / 8)).getLsbD (i % 8)

def setBit (buf : Buffer) (i : Nat) (v : Bool) : Buffer :=
  put buf (i / 8) (if v then buf (i / 8) ||| 1#8 <<< (i % 8) else buf (i / 8) &&& ~~~(1#8 <<< (i % 8)))

theorem getLsbD_mask {i j : Nat} (hj : j < 8) : (1#8 <<< i).getLsbD j = decide (j = i) := by
  rw [BitVec.getLsbD_shiftLeft, BitVec.getLsbD_one]
  by_cases hij : j = i
  · subst hij
    simp [hj]
  · by_cases hlt : j < i
    · simp [hlt, hij]
    · have hne : j - i ≠ 0 := by omega
      simp [hlt, hij, hne]

theorem bit_setBit (buf : Buffer) (i j : Nat) (v : Bool) :
    bit (setBit buf i v) j = if j = i then v else bit buf j := by
  have hlt : j % 8 < 8 := Nat.mod_lt _ (by decide)
  have hmask := getLsbD_mask (i := i % 8) hlt
  unfold bit setBit
  rw [put_apply]
  by_cases hbyte : j / 8 = i / 8
  · have hij : j % 8 = i % 8 ↔ j = i := by omega
    rw [if_pos hbyte, hbyte]
    cases v with
    | true =>
      rw [if_pos rfl, BitVec.getLsbD_or, hmask]
      by_cases h : j = i <;> simp [h, hij]
    | false =>
      rw [if_neg Bool.false_ne_true, BitVec.getLsbD_and, BitVec.getLsbD_not, hmask, decide_eq_true hlt]
      by_cases h : j = i <;> simp [h, hij]
  · have hij : j ≠ i := fun h => hbyte (by rw [h])
    rw [if_neg hbyte, if_neg hij]

theorem setBit_ne (buf : Buffer) {i off : Nat} (v : Bool) (h : off ≠ i / 8) : setBit buf i v off = buf off :=
  put_ne buf _ h

end Buffer

end K1801.Library
