import Mathlib.Tactic.IntervalCases
import K1801.Bk.Tape

/-! # The tape format of the BK-0010

A recording that the encoder makes is read back as it was written, for every length of the synchronizing pulse that
lets the strobes of a marker be told from the others.
-/

namespace K1801.Bk

open Core

/-! ## Strobes -/

/-- A strobe that is no glitch. -/
structure Strobe where
  val : Bool
  len : Nat
  long : 1 < len
  short : len ≤ 32767

def Strobe.word (s : Strobe) : Word := BitVec.ofNat 16 (s.len + if s.val then 32768 else 0)

def strobeBytes (ss : List Strobe) : List Byte := ss.flatMap fun s => tapeStrobe s.val s.len

@[simp] theorem strobeBytes_nil : strobeBytes [] = [] := rfl

@[simp] theorem strobeBytes_cons (s : Strobe) (ss : List Strobe) :
    strobeBytes (s :: ss) = tapeStrobe s.val s.len ++ strobeBytes ss := rfl

@[simp] theorem strobeBytes_append (ss ts : List Strobe) : strobeBytes (ss ++ ts) = strobeBytes ss ++ strobeBytes ts :=
  List.flatMap_append

section Word

variable (val : Bool) {n : Nat} (h : n ≤ 32767)
include h

theorem strobe_toNat : (BitVec.ofNat 16 (n + if val then 32768 else 0)).toNat = n + if val then 32768 else 0 := by
  rw [BitVec.toNat_ofNat, Nat.mod_eq_of_lt]
  split <;> omega

theorem strobeLen_ofNat : strobeLen (BitVec.ofNat 16 (n + if val then 32768 else 0)) = n := by
  rw [strobeLen, BitVec.toNat_and, show (0x7fff : Word).toNat = 2 ^ 15 - 1 from rfl, Nat.and_two_pow_sub_one_eq_mod,
    strobe_toNat val h]
  split <;> omega

theorem strobeVal_ofNat : strobeVal (BitVec.ofNat 16 (n + if val then 32768 else 0)) = val := by
  rw [strobeVal, BitVec.getLsbD, Nat.testBit_eq_decide_div_mod_eq, strobe_toNat val h]
  cases val
  · rw [if_neg (by decide), Nat.add_zero, Nat.div_eq_of_lt (by omega)]
    rfl
  · rw [if_pos rfl, show n + 32768 = n + 2 ^ 15 * 1 from rfl, Nat.add_mul_div_left _ _ (by decide),
      Nat.div_eq_of_lt (by omega)]
    rfl

end Word

theorem strobeLen_word (s : Strobe) : strobeLen s.word = s.len := strobeLen_ofNat s.val s.short

theorem strobeVal_word (s : Strobe) : strobeVal s.word = s.val := strobeVal_ofNat s.val s.short

/-- The two bytes of a strobe make its word again. -/
theorem strobe_halves (val : Bool) (chunk : Word) (h : chunk.getLsbD 15 = false) :
    (((chunk >>> 8 &&& 0x7f).setWidth 8 ||| (if val then 0x80 else 0) : Byte).setWidth 16 <<< 8 |||
      ((chunk &&& 0xff).setWidth 8 : Byte).setWidth 16 : Word) = chunk ||| (if val then 0x8000 else 0) := by
  have htop : chunk[15] = false := h
  apply BitVec.eq_of_getLsbD_eq
  intro i hi
  cases val <;> interval_cases i <;> simp [htop]

theorem tapeRawNextWord_bytes (val : Bool) {n : Nat} (h : n ≤ 32767) (data : List Byte) (old : Word) :
    tapeRawNextWord ⟨tapeStrobe val n ++ data, old⟩ =
      some (BitVec.ofNat 16 (n + if val then 32768 else 0), ⟨data, old⟩) := by
  have htop : (BitVec.ofNat 16 n).getLsbD 15 = false := by
    rw [BitVec.getLsbD_ofNat, Nat.testBit_lt_two_pow (by omega), Bool.and_false]
  have hword : BitVec.ofNat 16 n ||| (if val then 0x8000 else 0) =
      BitVec.ofNat 16 (n + if val then 32768 else 0) := by
    cases val
    · exact BitVec.or_zero
    · have hsum : 2 ^ 15 * 1 + n = 2 ^ 15 * 1 ||| n := Nat.two_pow_add_eq_or_of_lt (by omega) 1
      rw [if_pos rfl, if_pos rfl, Nat.add_comm, show 32768 + n = 2 ^ 15 * 1 ||| n from hsum, Nat.or_comm]
      exact BitVec.ofNat_or.symm
  simp only [tapeStrobe, tapeRawNextWord, List.cons_append, List.nil_append, Option.some.injEq, Prod.mk.injEq, and_true]
  rw [strobe_halves val _ htop, hword]

theorem tapeRawNextWord_strobe (s : Strobe) (data : List Byte) (old : Word) :
    tapeRawNextWord ⟨tapeStrobe s.val s.len ++ data, old⟩ = some (s.word, ⟨data, old⟩) :=
  tapeRawNextWord_bytes s.val s.short data old

/-- The reader that has taken the first strobe of some in front of a tail. -/
def reader (tail : List Byte) : List Strobe → TapeRawReader
  | [] => ⟨tail, 0⟩
  | s :: ss => ⟨strobeBytes ss ++ tail, s.word⟩

variable {tail : List Byte}

theorem getStrobe_word (old : Word) (s : Strobe) (data : List Byte) :
    tapeRawGetStrobe ⟨tapeStrobe s.val s.len ++ data, old⟩ =
      some ((strobeLen old, strobeVal old), ⟨data, s.word⟩) := by
  have hnext := tapeRawNextWord_strobe s data old
  unfold tapeRawGetStrobe
  split
  · rename_i hnone
    rw [hnext] at hnone
    cases hnone
  · rename_i c r₁ hsome
    rw [hnext] at hsome
    cases hsome
    exact if_pos (by rw [strobeLen_word]; exact s.long)

/-- A glitch in front of a strobe. -/
theorem getStrobe_glitch (old : Word) (val : Bool) (s : Strobe) (data : List Byte) :
    tapeRawGetStrobe ⟨tapeStrobe val 1 ++ (tapeStrobe s.val s.len ++ data), old⟩ =
      tapeRawGetStrobe ⟨data, old + 1 + (s.word &&& 0x7fff)⟩ := by
  have hnext := tapeRawNextWord_bytes val (n := 1) (by decide) (tapeStrobe s.val s.len ++ data) old
  have hnext' := tapeRawNextWord_strobe s data old
  have hshort : ¬ 1 < strobeLen (BitVec.ofNat 16 (1 + if val then 32768 else 0)) := by
    cases val <;> decide
  rw [tapeRawGetStrobe]
  split
  · rename_i hnone
    rw [hnext] at hnone
    cases hnone
  · rename_i c r₁ hsome
    rw [hnext] at hsome
    cases hsome
    rw [if_neg hshort]
    split
    · rename_i hnone
      rw [hnext'] at hnone
      cases hnone
    · rename_i hsome
      rw [hnext'] at hsome
      cases hsome
      rfl

/-- A strobe is given out when the next one can be looked at. -/
theorem getStrobe_reader (tail : List Byte) (s : Strobe) {ss : List Strobe} (hss : ss ≠ []) :
    tapeRawGetStrobe (reader tail (s :: ss)) = some ((s.len, s.val), reader tail ss) := by
  obtain ⟨s', ss, rfl⟩ := List.exists_cons_of_ne_nil hss
  rw [reader, strobeBytes_cons, List.append_assoc, getStrobe_word, strobeLen_word, strobeVal_word]
  rfl

theorem skipTo_same (s : Strobe) {ss : List Strobe} (hss : ss ≠ []) :
    tapeSkipTo s.val (reader tail (s :: ss)) = some (s.len, reader tail ss) := by
  unfold tapeSkipTo
  split
  · rename_i hnone
    rw [getStrobe_reader tail s hss] at hnone
    cases hnone
  · rename_i hsome
    rw [getStrobe_reader tail s hss] at hsome
    cases hsome
    exact if_pos rfl

theorem skipTo_other {polarity : Bool} (s : Strobe) {ss : List Strobe} (hss : ss ≠ []) (h : s.val ≠ polarity) :
    tapeSkipTo polarity (reader tail (s :: ss)) = tapeSkipTo polarity (reader tail ss) := by
  rw [tapeSkipTo]
  split
  · rename_i hnone
    rw [getStrobe_reader tail s hss] at hnone
    cases hnone
  · rename_i hsome
    rw [getStrobe_reader tail s hss] at hsome
    cases hsome
    exact if_neg h

/-- Two readers that go on with the same strobe of a polarity. -/
def Agree (polarity : Bool) (r r' : TapeRawReader) : Prop := tapeSkipTo polarity r = tapeSkipTo polarity r'

theorem Agree.readBit {polarity : Bool} {r r' : TapeRawReader} (h : Agree polarity r r') :
    tapeReadBitRaw polarity r = tapeReadBitRaw polarity r' := by
  unfold tapeReadBitRaw
  rw [h]

theorem Agree.skipToMarker {polarity : Bool} {threshold : Nat} {r r' : TapeRawReader} (h : Agree polarity r r') :
    tapeSkipToMarker polarity threshold r = tapeSkipToMarker polarity threshold r' := by
  rw [tapeSkipToMarker, tapeSkipToMarker, h]

theorem readBit_reader (tail : List Byte) (a b c d : Strobe) {ss : List Strobe} (hss : ss ≠ []) :
    tapeReadBitRaw a.val (reader tail (a :: b :: c :: d :: ss)) =
      some (max a.len c.len + max b.len d.len, reader tail ss) := by
  unfold tapeReadBitRaw
  simp only [skipTo_same a (List.cons_ne_nil _ _), getStrobe_reader tail b (List.cons_ne_nil _ _),
    getStrobe_reader tail c (List.cons_ne_nil _ _), getStrobe_reader tail d hss, Option.bind_eq_bind, Option.bind_some,
    Option.pure_def]

/-! ## Pulses -/

/-- A pulse length for which the strobes of the format are no glitches and a marker can be told. -/
structure Synch where
  ticks : Nat
  low : 2 ≤ ticks
  high : ticks ≤ 10922
  whole : ticks ≠ 8192

namespace Synch

variable (p : Synch)

def pulse (long val : Bool) : Strobe where
  val := val
  len := if long then 2 * p.ticks else p.ticks
  long := by
    have hlow := p.low
    split <;> omega
  short := by
    have hhigh := p.high
    split <;> omega

/-- The pulse that synchronizes. -/
def gap : List Strobe := [p.pulse false true, p.pulse false false]

def bit (b : Bool) : List Strobe := [p.pulse b true, p.pulse b false] ++ p.gap

/-- One level of a marker, in one strobe or in two. -/
def wide (val : Bool) : List Strobe :=
  if h : 4 * p.ticks ≤ 32767 then
    [⟨val, 4 * p.ticks, by have := p.low; omega, h⟩]
  else
    [⟨val, 32767, by decide, by decide⟩,
      ⟨val, 4 * p.ticks - 32767, by have := p.whole; omega, by have := p.high; omega⟩]

def marker : List Strobe := p.wide true ++ p.wide false ++ p.bit true

/-- `n` bits from bit `i` on. -/
def bits {w : Nat} (v : BitVec w) (i n : Nat) : List Strobe := (List.range' i n).flatMap fun j => p.bit (v.getLsbD j)

def bytes (bs : List Byte) : List Strobe := bs.flatMap fun b => p.bits b 0 8

theorem bytes_append (bs cs : List Byte) : p.bytes (bs ++ cs) = p.bytes bs ++ p.bytes cs := List.flatMap_append

/-- Strobes of a tune, from a level on. -/
def alternate : Bool → Nat → List Strobe
  | _, 0 => []
  | val, n + 1 => p.pulse false val :: alternate (!val) n

theorem alternate_even (n : Nat) : (List.replicate n p.gap).flatten = p.alternate true (2 * n) := by
  induction n with
  | zero => rfl
  | succ n ih =>
    rw [List.replicate_succ, List.flatten_cons, ih]
    rfl

end Synch

/-! ## What the encoder writes -/

theorem tapeAppend_one (val : Bool) {n : Nat} (hpos : 0 < n) (h : n ≤ 32767) : tapeAppend val n = tapeStrobe val n := by
  rw [tapeAppend, dif_neg (by omega), Nat.min_eq_left h]
  dsimp only
  rw [Nat.sub_self, tapeAppend, dif_pos rfl, List.append_nil]

theorem tapeAppend_two (val : Bool) {n : Nat} (hlong : 32767 < n) (h : n ≤ 65534) :
    tapeAppend val n = tapeStrobe val 32767 ++ tapeStrobe val (n - 32767) := by
  rw [tapeAppend, dif_neg (by omega), Nat.min_eq_right (by omega)]
  dsimp only
  rw [tapeAppend_one val (by omega) (by omega)]

section Encode

variable {tapeSynch : Nat} {p : Synch}

theorem tapeInAppend_ticks (h : tapeSynch % 2 ^ 16 = p.ticks) (val : Bool) {n : Nat} (hn : n ≤ 4) :
    tapeInAppend tapeSynch val n = tapeAppend val (n * p.ticks) := by
  have hhigh := p.high
  have hfits : n * p.ticks < 2 ^ 16 :=
    Nat.lt_of_le_of_lt (Nat.mul_le_mul hn hhigh) (by decide)
  rw [tapeInAppend, Nat.mul_mod, h, Nat.mod_mul_mod, Nat.mod_eq_of_lt hfits]

theorem tapeInAppend_pulse (h : tapeSynch % 2 ^ 16 = p.ticks) (val long : Bool) :
    tapeInAppend tapeSynch val (if long then 2 else 1) = strobeBytes [p.pulse long val] := by
  have hlow := p.low
  have hhigh := p.high
  rw [strobeBytes_cons, strobeBytes_nil, List.append_nil]
  cases long
  · rw [if_neg (by decide), tapeInAppend_ticks h val (by decide), Nat.one_mul, tapeAppend_one val (by omega) (by omega)]
    rfl
  · rw [if_pos rfl, tapeInAppend_ticks h val (by decide), tapeAppend_one val (by omega) (by omega)]
    rfl

theorem tapePutSi_gap (h : tapeSynch % 2 ^ 16 = p.ticks) : tapePutSi tapeSynch = strobeBytes p.gap := by
  have hhigh := tapeInAppend_pulse h true false
  have hlow := tapeInAppend_pulse h false false
  rw [if_neg (by decide)] at hhigh hlow
  rw [tapePutSi, hhigh, hlow, ← strobeBytes_append]
  rfl

theorem tapePutBit (h : tapeSynch % 2 ^ 16 = p.ticks) (b : Bool) :
    (if b then tapePut1 tapeSynch else tapePut0 tapeSynch) = strobeBytes (p.bit b) := by
  have hhigh := tapeInAppend_pulse h true b
  have hlow := tapeInAppend_pulse h false b
  cases b
  · rw [if_neg (by decide)] at hhigh hlow ⊢
    rw [tapePut0, hhigh, hlow, tapePutSi_gap h, ← strobeBytes_append, ← strobeBytes_append]
    rfl
  · rw [if_pos rfl] at hhigh hlow ⊢
    rw [tapePut1, hhigh, hlow, tapePutSi_gap h, ← strobeBytes_append, ← strobeBytes_append]
    rfl

theorem tapeInAppend_wide (h : tapeSynch % 2 ^ 16 = p.ticks) (val : Bool) :
    tapeInAppend tapeSynch val 4 = strobeBytes (p.wide val) := by
  have hlow := p.low
  have hhigh := p.high
  rw [tapeInAppend_ticks h val (by decide)]
  unfold Synch.wide
  split
  · rename_i hone
    rw [tapeAppend_one val (by omega) hone, strobeBytes_cons, strobeBytes_nil, List.append_nil]
  · rw [tapeAppend_two val (by omega) (by omega), strobeBytes_cons, strobeBytes_cons, strobeBytes_nil, List.append_nil]

theorem tapePutTune_alternate (h : tapeSynch % 2 ^ 16 = p.ticks) (n : Nat) :
    tapePutTune tapeSynch n = strobeBytes (p.alternate true (2 * n)) := by
  rw [← p.alternate_even, tapePutTune, tapePutSi_gap h]
  induction n with
  | zero => rfl
  | succ n ih => rw [List.replicate_succ, List.flatten_cons, ih, List.replicate_succ, List.flatten_cons, strobeBytes_append]

theorem tapePutMarker_strobes (h : tapeSynch % 2 ^ 16 = p.ticks) :
    tapePutMarker tapeSynch = strobeBytes (p.alternate true 16 ++ p.marker) := by
  have hone : tapePut1 tapeSynch = strobeBytes (p.bit true) := tapePutBit h true
  rw [tapePutMarker, tapePutTune_alternate h, tapePutOutm, tapeInAppend_wide h, tapeInAppend_wide h, hone,
    ← strobeBytes_append, ← strobeBytes_append, ← strobeBytes_append, List.append_assoc]
  rfl

theorem tapePutBits (h : tapeSynch % 2 ^ 16 = p.ticks) {w : Nat} (v : BitVec w) (l : List Nat) :
    (l.flatMap fun j => if v.getLsbD j then tapePut1 tapeSynch else tapePut0 tapeSynch) =
      strobeBytes (l.flatMap fun j => p.bit (v.getLsbD j)) := by
  induction l with
  | nil => rfl
  | cons j l ih => rw [List.flatMap_cons, List.flatMap_cons, ih, tapePutBit h, strobeBytes_append]

theorem tapePutByte_strobes (h : tapeSynch % 2 ^ 16 = p.ticks) (b : Byte) :
    tapePutByte tapeSynch b = strobeBytes (p.bits b 0 8) := by
  rw [tapePutByte, tapePutBits h, Synch.bits, List.range_eq_range']

theorem tapePutWord_strobes (h : tapeSynch % 2 ^ 16 = p.ticks) (v : Word) :
    tapePutWord tapeSynch v = strobeBytes (p.bits v 0 16) := by
  have hlow : p.bits (v.setWidth 8) 0 8 = p.bits v 0 8 := by
    refine List.flatMap_congr fun j hj => ?_
    rw [BitVec.getLsbD_setWidth, decide_eq_true (by rw [List.mem_range'_1] at hj; omega), Bool.true_and]
  have hhigh : p.bits ((v >>> 8).setWidth 8) 0 8 = p.bits v 8 8 := by
    unfold Synch.bits
    rw [show List.range' 8 8 = (List.range' 0 8).map (8 + ·) from rfl, List.flatMap_map]
    refine List.flatMap_congr fun j hj => ?_
    rw [BitVec.getLsbD_setWidth, decide_eq_true (by rw [List.mem_range'_1] at hj; omega), Bool.true_and,
      BitVec.getLsbD_ushiftRight]
  rw [tapePutWord, tapePutByte_strobes h, tapePutByte_strobes h, hlow, hhigh, ← strobeBytes_append]
  unfold Synch.bits
  rw [← List.flatMap_append]
  rfl

theorem tapePutArray_strobes (h : tapeSynch % 2 ^ 16 = p.ticks) (bs : List Byte) :
    tapePutArray tapeSynch bs = strobeBytes (p.bytes bs) := by
  unfold tapePutArray Synch.bytes
  induction bs with
  | nil => rfl
  | cons b bs ih => rw [List.flatMap_cons, List.flatMap_cons, ih, tapePutByte_strobes h, strobeBytes_append]

end Encode

/-! ## What the decoder reads -/

namespace Synch

variable (p : Synch)

/-- Where bits are read from behind a marker: at once, or from the gap of the bit before. -/
def lead : List Strobe := if 4 * p.ticks ≤ 32767 then [] else p.gap

theorem max_pulse (long val val' : Bool) :
    max (p.pulse long val).len (p.pulse false val').len = if long then 2 * p.ticks else p.ticks := by
  cases long
  · exact Nat.max_self _
  · exact Nat.max_eq_left (Nat.le_mul_of_pos_left p.ticks (by decide))

theorem readBit_bit (b : Bool) {ss : List Strobe} (hss : ss ≠ []) :
    tapeReadBitRaw true (reader tail (p.lead ++ (p.bit b ++ ss))) =
      some (if b then 4 * p.ticks else 2 * p.ticks, reader tail (p.lead ++ ss)) := by
  have hvalue : (if b then 2 * p.ticks else p.ticks) + (if b then 2 * p.ticks else p.ticks) =
      if b then 4 * p.ticks else 2 * p.ticks := by
    split <;> omega
  unfold lead
  split
  · refine (readBit_reader tail (p.pulse b true) (p.pulse b false) (p.pulse false true) (p.pulse false false) hss).trans ?_
    rw [max_pulse, max_pulse, hvalue]
    rfl
  · have hgap : p.gap ++ ss ≠ [] := List.append_ne_nil_of_left_ne_nil (List.cons_ne_nil _ _) _
    refine (readBit_reader tail (p.pulse false true) (p.pulse false false) (p.pulse b true) (p.pulse b false) hgap).trans ?_
    rw [Nat.max_comm, max_pulse, Nat.max_comm, max_pulse, hvalue]

/-- A long pulse is over the threshold and a short one is not. -/
theorem readBits_bits {w : Nat} (v : BitVec w) {n i : Nat} (hw : i + n = w) {b : BitVec w}
    (hb : ∀ j, b.getLsbD j = (decide (j < i) && v.getLsbD j)) {ss : List Strobe} (hss : ss ≠ []) {r : TapeRawReader}
    (hr : Agree true r (reader tail (p.lead ++ (p.bits v i n ++ ss)))) :
    ∃ r', tapeReadBits true (3 * p.ticks) n i b r = some (v, r') ∧ Agree true r' (reader tail (p.lead ++ ss)) := by
  have hlow := p.low
  induction n generalizing i b r with
  | zero =>
    have hv : b = v := by
      apply BitVec.eq_of_getLsbD_eq
      intro j hj
      rw [hb, decide_eq_true (by omega), Bool.true_and]
    rw [hv]
    exact ⟨r, rfl, hr⟩
  | succ n ih =>
    have hsplit : p.bits v i (n + 1) ++ ss = p.bit (v.getLsbD i) ++ (p.bits v (i + 1) n ++ ss) := by
      rw [bits, List.range'_succ, List.flatMap_cons, List.append_assoc]
      rfl
    have hrest : p.bits v (i + 1) n ++ ss ≠ [] := List.append_ne_nil_of_right_ne_nil _ hss
    have hread := hr.readBit
    rw [hsplit, p.readBit_bit _ hrest] at hread
    have hover : 3 * p.ticks < (if v.getLsbD i then 4 * p.ticks else 2 * p.ticks) ↔ v.getLsbD i = true := by
      split <;> simp_all <;> omega
    have hbits (j : Nat) : (if v.getLsbD i = true then b ||| 1#w <<< i else b).getLsbD j =
        (decide (j < i + 1) && v.getLsbD j) := by
      have hone : (1#w <<< i).getLsbD j = decide (i = j) := by
        rw [show 1#w <<< i = BitVec.twoPow w i from rfl, BitVec.getLsbD_twoPow, decide_eq_true (by omega), Bool.true_and]
      by_cases hj : i = j
      · subst hj
        cases hv : v.getLsbD i <;> simp [hb, hv, hone]
      · have hlt : j < i + 1 ↔ j < i := by omega
        split <;> simp [hb, hone, hj, hlt]
    obtain ⟨r', hbits', hagree⟩ := ih (by omega) hbits (r := reader tail (p.lead ++ (p.bits v (i + 1) n ++ ss))) rfl
    refine ⟨r', ?_, hagree⟩
    rw [tapeReadBits, hread]
    simp only [Option.bind_eq_bind, Option.bind_some, hover]
    exact hbits'

theorem readBytes_bytes (bs : List Byte) {ss : List Strobe} (hss : ss ≠ []) {r : TapeRawReader}
    (hr : Agree true r (reader tail (p.lead ++ (p.bytes bs ++ ss)))) :
    ∃ r', tapeReadBytes true (3 * p.ticks) bs.length r = some (bs, r') ∧ Agree true r' (reader tail (p.lead ++ ss)) := by
  induction bs generalizing r with
  | nil => exact ⟨r, rfl, hr⟩
  | cons b bs ih =>
    have hrest : p.bytes bs ++ ss ≠ [] := List.append_ne_nil_of_right_ne_nil _ hss
    rw [bytes, List.flatMap_cons, List.append_assoc] at hr
    obtain ⟨r₁, hfirst, hagree⟩ := p.readBits_bits b (n := 8) (i := 0) rfl (b := 0#8) (by simp) hrest hr
    obtain ⟨r', hbytes, hlast⟩ := ih hagree
    refine ⟨r', ?_, hlast⟩
    rw [List.length_cons, tapeReadBytes, hfirst]
    simp only [Option.bind_eq_bind, Option.bind_some, hbytes, Option.pure_def]

/-! ### Markers -/

theorem wide_cases :
    (p.lead = [] ∧ ∀ val, ∃ a, p.wide val = [a] ∧ a.val = val ∧ a.len = 4 * p.ticks) ∨
      (p.lead = p.gap ∧ 32767 < 4 * p.ticks ∧
        ∀ val, ∃ a b, p.wide val = [a, b] ∧ a.val = val ∧ b.val = val ∧ a.len = 32767) := by
  unfold wide lead
  split
  · exact .inl ⟨rfl, fun _ => ⟨_, rfl, rfl, rfl⟩⟩
  · rename_i hwide
    exact .inr ⟨rfl, Nat.lt_of_not_le hwide, fun _ => ⟨_, _, rfl, rfl, rfl, rfl⟩⟩

/-- The first strobe of a marker, and what follows it. -/
theorem marker_split (tail : List Byte) : ∃ (m : Strobe) (after : List Strobe), p.marker = m :: after ∧ m.val = true ∧
    3 * p.ticks ≤ m.len ∧ m.len ≤ 6 * p.ticks ∧ ∀ ss : List Strobe, ss ≠ [] →
      ∃ v r, tapeReadBitRaw true (reader tail (after ++ ss)) = some (v, r) ∧ Agree true r (reader tail (p.lead ++ ss)) := by
  have hhigh := p.high
  rcases p.wide_cases with ⟨hlead, hwide⟩ | ⟨hlead, hlong, hwide⟩
  · obtain ⟨a, ha, haval, halen⟩ := hwide true
    obtain ⟨c, hc, hcval, -⟩ := hwide false
    refine ⟨a, c :: p.bit true, by rw [marker, ha, hc]; rfl, haval, by omega, by omega, fun ss hss => ?_⟩
    have hskip : Agree true (reader tail (c :: (p.bit true ++ ss))) (reader tail (p.bit true ++ ss)) :=
      skipTo_other c (List.append_ne_nil_of_right_ne_nil _ hss) (by rw [hcval]; decide)
    rw [hlead]
    exact ⟨_, _, hskip.readBit.trans
      (readBit_reader tail (p.pulse true true) (p.pulse true false) (p.pulse false true) (p.pulse false false) hss), rfl⟩
  · obtain ⟨a, b, hab, haval, hbval, halen⟩ := hwide true
    obtain ⟨c, d, hcd, -⟩ := hwide false
    refine ⟨a, b :: c :: d :: p.bit true, by rw [marker, hab, hcd]; rfl, haval, by omega, by omega, fun ss hss => ?_⟩
    have hread := readBit_reader tail b c d (p.pulse true true) (List.cons_ne_nil (p.pulse true false) (p.gap ++ ss))
    rw [hbval] at hread
    rw [hlead]
    exact ⟨_, _, hread, skipTo_other _ (List.append_ne_nil_of_right_ne_nil _ hss) Bool.false_ne_true⟩

theorem skipToMarker_reader {threshold : Nat} {pre : List Strobe} (hpre : ∀ s ∈ pre, s.len < threshold) {m : Strobe}
    (hval : m.val = true) (hlen : threshold ≤ m.len) {ss : List Strobe} (hss : ss ≠ []) :
    tapeSkipToMarker true threshold (reader tail (pre ++ m :: ss)) = some (m.len, reader tail ss) := by
  induction pre with
  | nil =>
    have hskip : tapeSkipTo true (reader tail (m :: ss)) = some (m.len, reader tail ss) := hval ▸ skipTo_same m hss
    rw [List.nil_append, tapeSkipToMarker]
    split
    · rename_i hnone
      rw [hskip] at hnone
      cases hnone
    · rename_i hsome
      rw [hskip] at hsome
      cases hsome
      exact if_neg (Nat.not_lt.2 hlen)
  | cons s pre ih =>
    have hrest : pre ++ m :: ss ≠ [] := List.append_ne_nil_of_right_ne_nil _ (List.cons_ne_nil _ _)
    have htail := ih fun s' hs' => hpre s' (List.mem_cons_of_mem _ hs')
    by_cases hs : s.val = true
    · have hskip : tapeSkipTo true (reader tail (s :: (pre ++ m :: ss))) = some (s.len, reader tail (pre ++ m :: ss)) :=
        hs ▸ skipTo_same s hrest
      rw [List.cons_append, tapeSkipToMarker]
      split
      · rename_i hnone
        rw [hskip] at hnone
        cases hnone
      · rename_i hsome
        rw [hskip] at hsome
        cases hsome
        rw [if_pos (hpre s List.mem_cons_self), htail]
    · have hagree : Agree true (reader tail (s :: (pre ++ m :: ss))) (reader tail (pre ++ m :: ss)) := skipTo_other s hrest hs
      rw [List.cons_append, hagree.skipToMarker, htail]

@[simp] theorem pulse_len (val : Bool) : (p.pulse false val).len = p.ticks := rfl

theorem alternate_len (val : Bool) (n : Nat) : ∀ s ∈ p.alternate val n, s.len = p.ticks := by
  induction n generalizing val with
  | zero => exact fun _ h => absurd h List.not_mem_nil
  | succ n ih =>
    intro s hs
    cases List.mem_cons.1 hs with
    | inl h => rw [h]; rfl
    | inr h => exact ih _ s h

theorem alternate_length (val : Bool) (n : Nat) : (p.alternate val n).length = n := by
  induction n generalizing val with
  | zero => rfl
  | succ n ih => rw [alternate, List.length_cons, ih]

theorem lead_len : ∀ s ∈ p.lead, s.len = p.ticks := by
  unfold lead
  split
  · exact fun _ h => absurd h List.not_mem_nil
  · exact p.alternate_len true 2

/-- An array behind its marker. -/
theorem readArray_bytes (bs : List Byte) {ss : List Strobe} (hss : ss ≠ []) {r : TapeRawReader}
    (hr : Agree true r (reader tail (p.lead ++ (p.alternate true 16 ++ (p.marker ++ (p.bytes bs ++ ss)))))) :
    ∃ r', tapeReadArrayRaw true (3 * p.ticks) bs.length r = some (bs, r') ∧ Agree true r' (reader tail (p.lead ++ ss)) := by
  have hlow := p.low
  obtain ⟨m, after, hmarker, hval, hlong, hshort, hbit⟩ := p.marker_split tail
  have hrest : p.bytes bs ++ ss ≠ [] := List.append_ne_nil_of_right_ne_nil _ hss
  obtain ⟨v, r₁, hread, hagree⟩ := hbit _ hrest
  have hpre : ∀ s ∈ p.lead ++ p.alternate true 16, s.len < 3 * p.ticks := by
    intro s hs
    have hlen : s.len = p.ticks := (List.mem_append.1 hs).elim (p.lead_len s) (p.alternate_len true 16 s)
    omega
  have hskip : tapeSkipToMarker true (3 * p.ticks) r = _ := hr.skipToMarker
  rw [hmarker, List.cons_append, ← List.append_assoc,
    skipToMarker_reader hpre hval hlong (List.append_ne_nil_of_right_ne_nil _ hrest)] at hskip
  obtain ⟨r', hbytes, hlast⟩ := p.readBytes_bytes bs hss hagree
  refine ⟨r', ?_, hlast⟩
  unfold tapeReadArrayRaw
  simp only [hskip, hread, hbytes, Option.bind_eq_bind, Option.bind_some]
  exact if_neg (by omega)

/-! ### The header -/

theorem findTune_step {r r' : TapeRawReader} {len : Nat} {val : Bool} (h : tapeRawGetStrobe r = some ((len, val), r'))
    (cnt strobeLen : Nat) : tapeFindTune cnt strobeLen r =
      if len + 150 < strobeLen then tapeFindTune 0 0 r'
      else if 0o4000 < cnt + 1 then some (val, r') else tapeFindTune (cnt + 1) len r' := by
  rw [tapeFindTune]
  split
  · rename_i hnone
    rw [h] at hnone
    cases hnone
  · rename_i hsome
    rw [h] at hsome
    cases hsome
    by_cases hshort : len + 150 < strobeLen
    · simp only [if_pos hshort]
      rfl
    · simp only [if_neg hshort]

/-- The loop ends within the tune, with the level of the strobe that it saw last. -/
theorem findTune_alternate {ss : List Strobe} (hss : ss ≠ []) (k : Nat) {cnt strobeLen n : Nat} (hcnt : cnt + k = 2048)
    (hlen : strobeLen ≤ p.ticks + 150) (hn : k < n) (val : Bool) :
    ∃ val', tapeFindTune cnt strobeLen (reader tail (p.alternate val n ++ ss)) =
      some (val', reader tail (p.alternate (!val') (n - (k + 1)) ++ ss)) := by
  induction k generalizing cnt strobeLen n val with
  | zero =>
    obtain ⟨n, rfl⟩ := Nat.exists_eq_add_one_of_ne_zero (Nat.ne_of_gt hn)
    have hstrobe := getStrobe_reader tail (p.pulse false val) (List.append_ne_nil_of_right_ne_nil (p.alternate (!val) n) hss)
    refine ⟨val, ?_⟩
    rw [alternate, List.cons_append, findTune_step hstrobe, pulse_len, if_neg (Nat.not_lt.2 hlen), if_pos (by omega)]
    rfl
  | succ k ih =>
    obtain ⟨n, rfl⟩ := Nat.exists_eq_add_one_of_ne_zero (Nat.ne_of_gt (Nat.lt_of_le_of_lt (Nat.zero_le _) hn))
    have hstrobe := getStrobe_reader tail (p.pulse false val) (List.append_ne_nil_of_right_ne_nil (p.alternate (!val) n) hss)
    have hcnt' : cnt + 1 + k = 2048 := by omega
    obtain ⟨val', htail⟩ := ih hcnt' (Nat.le_add_right p.ticks 150) (Nat.lt_of_succ_lt_succ hn) (!val)
    refine ⟨val', ?_⟩
    rw [alternate, List.cons_append, findTune_step hstrobe, pulse_len, if_neg (Nat.not_lt.2 hlen), if_neg (by omega)]
    refine htail.trans ?_
    rw [Nat.add_sub_add_right]

theorem findTune_within {ss : List Strobe} (hss : ss ≠ []) {cnt n : Nat} (strobeLen : Nat) (hcnt : cnt ≤ 1000)
    (hn : 2050 ≤ n) (val : Bool) :
    ∃ val' m, n ≤ m + 2050 ∧ tapeFindTune cnt strobeLen (reader tail (p.alternate val n ++ ss)) =
      some (val', reader tail (p.alternate (!val') m ++ ss)) := by
  obtain ⟨n, rfl⟩ := Nat.exists_eq_add_one_of_ne_zero (show n ≠ 0 by omega)
  have hstrobe := getStrobe_reader tail (p.pulse false val) (List.append_ne_nil_of_right_ne_nil (p.alternate (!val) n) hss)
  rw [alternate, List.cons_append, findTune_step hstrobe]
  split
  · obtain ⟨val', htail⟩ := p.findTune_alternate hss 2048 (Nat.zero_add 2048) (Nat.zero_le _)
      (Nat.lt_of_succ_lt_succ hn) (!val)
    exact ⟨val', _, by omega, htail⟩
  · rw [if_neg (by omega)]
    have hcnt' : cnt + 1 + (2048 - (cnt + 1)) = 2048 := by omega
    have hn' : 2048 - (cnt + 1) < n := by omega
    obtain ⟨val', htail⟩ := p.findTune_alternate hss _ hcnt' (Nat.le_add_right p.ticks 150) hn' (!val)
    exact ⟨val', _, by omega, htail⟩

theorem findTune_behind (tail : List Byte) (pre : List Strobe) {ss : List Strobe} (hss : ss ≠ []) {cnt n : Nat} (strobeLen : Nat)
    (hcnt : cnt + pre.length ≤ 1000) (hn : 2050 ≤ n) (val : Bool) :
    ∃ val' m, n ≤ m + 2050 ∧ tapeFindTune cnt strobeLen (reader tail (pre ++ (p.alternate val n ++ ss))) =
      some (val', reader tail (p.alternate (!val') m ++ ss)) := by
  induction pre generalizing cnt strobeLen with
  | nil => exact p.findTune_within hss strobeLen hcnt hn val
  | cons s pre ih =>
    have hrest : pre ++ (p.alternate val n ++ ss) ≠ [] :=
      List.append_ne_nil_of_right_ne_nil _ (List.append_ne_nil_of_right_ne_nil _ hss)
    rw [List.length_cons] at hcnt
    rw [List.cons_append, findTune_step (getStrobe_reader tail s hrest)]
    split
    · exact ih 0 (by omega)
    · rw [if_neg (by omega)]
      exact ih s.len (by omega)

theorem findTune_first (s : Strobe) (data : List Byte) :
    tapeFindTune 0 0 ⟨tapeStrobe s.val s.len ++ data, 0⟩ = tapeFindTune 1 0 ⟨data, s.word⟩ := by
  have hlen : strobeLen 0 = 0 := by decide
  rw [findTune_step (getStrobe_word 0 s data), hlen, if_neg (by decide), if_neg (by decide)]

theorem findTune_congr {r r' : TapeRawReader} (h : tapeRawGetStrobe r = tapeRawGetStrobe r') (cnt strobeLen : Nat) :
    tapeFindTune cnt strobeLen r = tapeFindTune cnt strobeLen r' := by
  rw [tapeFindTune, tapeFindTune, h]

/-- The first strobe makes a glitch: it ends with a tick of its own, and takes the first strobe of the tune along. -/
theorem findTune_glitch (hticks : p.ticks = 4096) (n : Nat) (ss : List Strobe) :
    tapeFindTune 0 0
        ⟨tapeStrobe true 32767 ++ (tapeStrobe true 1 ++ (strobeBytes (p.alternate true (n + 1) ++ ss) ++ tail)), 0⟩ =
      tapeFindTune 1 0 (reader tail ([p.pulse false false] ++ (p.alternate false n ++ ss))) := by
  have hword : (Strobe.word ⟨true, 32767, by decide, by decide⟩) + 1 + ((p.pulse false true).word &&& 0x7fff) =
      (p.pulse false false).word := by
    simp only [Strobe.word, pulse, hticks]
    decide
  refine (findTune_first ⟨true, 32767, by decide, by decide⟩ _).trans (findTune_congr ?_ 1 0)
  refine (getStrobe_glitch _ true (p.pulse false true) (strobeBytes (p.alternate false n ++ ss) ++ tail)).trans ?_
  rw [hword]
  rfl

/-- The tune is found behind the first strobes, whatever their lengths are. -/
theorem findTune_start (tail : List Byte) {tapeSynch : Nat} (h : tapeSynch % 2 ^ 16 = p.ticks) {ss : List Strobe} (hss : ss ≠ []) :
    ∃ val m, 6000 ≤ m ∧
      tapeFindTune 0 0 ⟨tapePutInm tapeSynch ++ (strobeBytes (p.alternate true 8192 ++ ss) ++ tail), 0⟩ =
        some (val, reader tail (p.alternate (!val) m ++ ss)) := by
  have hlow := p.low
  have hhigh := p.high
  have hwhole := p.whole
  have hduration : tapePutInm tapeSynch = tapeAppend true (8 * p.ticks % 2 ^ 16) := by
    rw [tapePutInm, tapeInAppend, Nat.mul_mod, h, Nat.mod_mul_mod]
  have hplain (s : Strobe) (pre : List Strobe) (hpre : pre.length ≤ 1)
      (hbytes : tapePutInm tapeSynch = strobeBytes (s :: pre)) :
      ∃ val m, 6000 ≤ m ∧
        tapeFindTune 0 0 ⟨tapePutInm tapeSynch ++ (strobeBytes (p.alternate true 8192 ++ ss) ++ tail), 0⟩ =
          some (val, reader tail (p.alternate (!val) m ++ ss)) := by
    have hcnt : 1 + (s :: pre).length ≤ 1000 := by
      rw [List.length_cons]
      omega
    obtain ⟨val, m, hm, htail⟩ := p.findTune_behind tail (s :: pre) hss 0 hcnt (show 2050 ≤ 8192 by decide) true
    refine ⟨val, m, by omega, ?_⟩
    rw [hbytes, strobeBytes_cons, List.append_assoc, findTune_first, ← List.append_assoc, ← strobeBytes_append]
    exact htail
  by_cases hone : 8 * p.ticks ≤ 32767
  · refine hplain ⟨true, 8 * p.ticks, by omega, hone⟩ [] (Nat.zero_le _) ?_
    rw [hduration, Nat.mod_eq_of_lt (by omega), tapeAppend_one true (by omega) hone, strobeBytes_cons, strobeBytes_nil,
      List.append_nil]
  by_cases hlate : 8192 < p.ticks
  · have hmod : 8 * p.ticks % 2 ^ 16 = 8 * p.ticks - 65536 := by omega
    refine hplain ⟨true, 8 * p.ticks - 65536, by omega, by omega⟩ [] (Nat.zero_le _) ?_
    rw [hduration, hmod, tapeAppend_one true (by omega) (by omega), strobeBytes_cons, strobeBytes_nil, List.append_nil]
  have hmod : 8 * p.ticks % 2 ^ 16 = 8 * p.ticks := by omega
  rw [hmod, tapeAppend_two true (by omega) (by omega)] at hduration
  by_cases hglitch : p.ticks = 4096
  · have hcnt : 1 + [p.pulse false false].length ≤ 1000 := by
      rw [List.length_singleton]
      omega
    obtain ⟨val, m, hm, htail⟩ := p.findTune_behind tail [p.pulse false false] hss 0 hcnt
      (show 2050 ≤ 8191 by decide) false
    refine ⟨val, m, by omega, ?_⟩
    rw [hduration, hglitch, List.append_assoc]
    exact (p.findTune_glitch hglitch 8191 ss).trans htail
  · refine hplain ⟨true, 32767, by decide, by decide⟩ [⟨true, 8 * p.ticks - 32767, by omega, by omega⟩] (Nat.le_refl _) ?_
    rw [hduration, strobeBytes_cons, strobeBytes_cons, strobeBytes_nil, List.append_nil]

theorem readBit_alternate (val : Bool) (n : Nat) {ss : List Strobe} (hss : ss ≠ []) :
    tapeReadBitRaw val (reader tail (p.alternate val (n + 4) ++ ss)) =
      some (2 * p.ticks, reader tail (p.alternate val n ++ ss)) := by
  have hrest : p.alternate val n ++ ss ≠ [] := List.append_ne_nil_of_right_ne_nil _ hss
  have hsplit : p.alternate val (n + 4) = p.pulse false val :: p.pulse false (!val) :: p.pulse false val ::
      p.pulse false (!val) :: p.alternate val n := by
    simp only [alternate, Bool.not_not]
  rw [hsplit]
  refine (readBit_reader tail (p.pulse false val) (p.pulse false (!val)) (p.pulse false val) (p.pulse false (!val))
    hrest).trans ?_
  rw [max_pulse, max_pulse, if_neg (by decide), ← Nat.two_mul]

theorem sumBits_alternate (val : Bool) (k n : Nat) {ss : List Strobe} (hss : ss ≠ []) {r : TapeRawReader}
    (hr : Agree val r (reader tail (p.alternate val (n + 4 * (k + 1)) ++ ss))) :
    tapeSumBits val (k + 1) r = some ((k + 1) * (2 * p.ticks), reader tail (p.alternate val n ++ ss)) := by
  induction k generalizing r with
  | zero =>
    have hread := hr.readBit.trans (p.readBit_alternate val n hss)
    rw [tapeSumBits, hread]
    simp only [tapeSumBits, Option.bind_eq_bind, Option.bind_some, Option.pure_def, Nat.add_zero, Nat.zero_add,
      Nat.one_mul]
  | succ k ih =>
    have hread := hr.readBit.trans (p.readBit_alternate val (n + 4 * (k + 1)) hss)
    rw [tapeSumBits, hread]
    simp only [Option.bind_eq_bind, Option.bind_some, Option.pure_def, ih rfl]
    rw [Nat.add_comm, ← Nat.succ_mul]

end Synch

theorem findMarker_reader (tail : List Byte) {threshold : Nat} {pre : List Strobe} (hpre : ∀ s ∈ pre, s.len < threshold) {m : Strobe}
    (hlen : threshold ≤ m.len) {ss : List Strobe} (hss : ss ≠ []) (num : Nat) :
    tapeFindMarker threshold num (reader tail (pre ++ m :: ss)) =
      some ((num + pre.length + 1, m.len, m.val), reader tail ss) := by
  induction pre generalizing num with
  | nil =>
    have hstrobe := getStrobe_reader tail m hss
    rw [List.nil_append, tapeFindMarker]
    split
    · rename_i hnone
      rw [hstrobe] at hnone
      cases hnone
    · rename_i hsome
      rw [hstrobe] at hsome
      cases hsome
      exact if_neg (Nat.not_lt.2 hlen)
  | cons s pre ih =>
    have hrest : pre ++ m :: ss ≠ [] := List.append_ne_nil_of_right_ne_nil _ (List.cons_ne_nil _ _)
    have hstrobe := getStrobe_reader tail s hrest
    rw [List.cons_append, tapeFindMarker]
    split
    · rename_i hnone
      rw [hstrobe] at hnone
      cases hnone
    · rename_i hsome
      rw [hstrobe] at hsome
      cases hsome
      rw [if_pos (hpre s List.mem_cons_self), ih (fun s' hs' => hpre s' (List.mem_cons_of_mem _ hs')),
        List.length_cons, Nat.add_right_comm num 1]
      rfl

/-- The header of a recording gives the polarity, and a threshold between the pulses. -/
theorem Synch.findHeader (p : Synch) (tail : List Byte) {tapeSynch : Nat} (h : tapeSynch % 2 ^ 16 = p.ticks) {ss : List Strobe}
    (hss : ss ≠ []) :
    ∃ r, tapeFindHeader ⟨tapePutInm tapeSynch ++ (strobeBytes (p.alternate true 8192 ++ (p.marker ++ ss)) ++ tail), 0⟩ =
      some ((true, 3 * p.ticks), r) ∧ Agree true r (reader tail (p.lead ++ ss)) := by
  have hlow := p.low
  obtain ⟨m, after, hmarker, hval, hlong, hshort, hbit⟩ := p.marker_split tail
  obtain ⟨v, r, hread, hagree⟩ := hbit ss hss
  have hrest : p.marker ++ ss ≠ [] := List.append_ne_nil_of_right_ne_nil _ hss
  obtain ⟨val, n, hn, htune⟩ := p.findTune_start tail h hrest
  obtain ⟨n, rfl⟩ := Nat.exists_eq_add_of_le (show 513 ≤ n by omega)
  have hskip : Agree val (reader tail (p.alternate (!val) (513 + n) ++ (p.marker ++ ss)))
      (reader tail (p.alternate val (n + 4 * (127 + 1)) ++ (p.marker ++ ss))) := by
    rw [show 513 + n = n + 4 * (127 + 1) + 1 from by omega, alternate, List.cons_append, Bool.not_not]
    exact skipTo_other _ (List.append_ne_nil_of_right_ne_nil _ hrest) (Bool.not_ne_self val)
  have hsum : tapeSumBits val 0o200 _ = _ := p.sumBits_alternate val 127 n hrest hskip
  have hthreshold : (127 + 1) * (2 * p.ticks) / 2 ^ 7 + (127 + 1) * (2 * p.ticks) / 2 ^ 7 / 2 = 3 * p.ticks := by omega
  have hpre : ∀ s ∈ p.alternate val n, s.len < 3 * p.ticks := by
    intro s hs
    rw [p.alternate_len val n s hs]
    omega
  have hrest' : after ++ ss ≠ [] := List.append_ne_nil_of_right_ne_nil _ hss
  have hfind := findMarker_reader tail hpre hlong hrest' 0
  rw [← List.cons_append, ← hmarker, p.alternate_length, hval] at hfind
  refine ⟨r, ?_, hagree⟩
  unfold tapeFindHeader
  rw [htune]
  simp only [hsum, hthreshold, hfind, hread, Option.bind_eq_bind, Option.bind_some]
  exact if_neg (by omega)

/-! ## A recording -/

theorem tapePutWord_bytes (tapeSynch : Nat) (lo hi : Byte) :
    tapePutWord tapeSynch (lo.setWidth 16 ||| hi.setWidth 16 <<< 8) = tapePutArray tapeSynch [lo, hi] := by
  have hlo : (lo.setWidth 16 ||| hi.setWidth 16 <<< 8 : Word).setWidth 8 = lo := by
    apply BitVec.eq_of_getLsbD_eq
    intro i hi
    interval_cases i <;> simp
  have hhi : ((lo.setWidth 16 ||| hi.setWidth 16 <<< 8 : Word) >>> 8).setWidth 8 = hi := by
    apply BitVec.eq_of_getLsbD_eq
    intro i hi
    interval_cases i <;> simp
  rw [tapePutWord, hlo, hhi, tapePutArray, List.flatMap_cons, List.flatMap_singleton]

theorem tapePutArray_append (tapeSynch : Nat) (bs cs : List Byte) :
    tapePutArray tapeSynch (bs ++ cs) = tapePutArray tapeSynch bs ++ tapePutArray tapeSynch cs := List.flatMap_append

theorem tapeNameField_length (pad : Byte) (name : List Byte) : (tapeNameField pad name).length = 16 := by
  rw [tapeNameField, List.length_append, List.length_take, List.length_replicate]
  omega

theorem tapeHeaderName_length (padSpace : Bool) (nameRaw : List Byte) (name : Option (List Byte)) :
    (tapeHeaderName padSpace nameRaw name).length = 16 := by
  unfold tapeHeaderName
  split
  · exact tapeNameField_length 0 nameRaw
  · split
    · exact tapeNameField_length _ _
    · exact tapeNameField_length 0 []

theorem tapePutInm_strobe {p : Synch} {tapeSynch : Nat} (h : tapeSynch % 2 ^ 16 = p.ticks) :
    ∃ (s : Strobe) (tail : List Byte), tapePutInm tapeSynch = strobeBytes [s] ++ tail := by
  have hlow := p.low
  have hhigh := p.high
  have hwhole := p.whole
  have hpos : 2 ≤ 8 * p.ticks % 2 ^ 16 := by omega
  rw [tapePutInm, tapeInAppend, Nat.mul_mod, h, Nat.mod_mul_mod, tapeAppend, dif_neg (by omega)]
  refine ⟨⟨true, min (8 * p.ticks % 2 ^ 16) 32767, by omega, by omega⟩,
    tapeAppend true (8 * p.ticks % 2 ^ 16 - min (8 * p.ticks % 2 ^ 16) 32767), ?_⟩
  rw [strobeBytes_cons, strobeBytes_nil, List.append_nil]

/-- Everything that the encoder writes, in strobes. The last one is the first of the end tune. -/
theorem tapeEncode_strobes (p : Synch) {tapeSynch : Nat} (h : tapeSynch % 2 ^ 16 = p.ticks) (padSpace : Bool)
    (a₀ a₁ l₀ l₁ : Byte) (rest nameRaw : List Byte) (name : Option (List Byte)) {len : Nat}
    (hlen : len = (l₀.setWidth 16 ||| l₁.setWidth 16 <<< 8 : Word).toNat) (hrest : len ≤ rest.length) :
    ∃ (s : Strobe) (tail : List Byte),
      tapeEncodeBinToRaw tapeSynch padSpace (a₀ :: a₁ :: l₀ :: l₁ :: rest) nameRaw name =
        some (tapePutInm tapeSynch ++ (strobeBytes (p.alternate true 8192 ++ (p.marker ++ (p.alternate true 16 ++
          (p.marker ++ (p.bytes ([a₀, a₁, l₀, l₁] ++ tapeHeaderName padSpace nameRaw name) ++ (p.alternate true 16 ++
          (p.marker ++ (p.bytes (rest.take len) ++
          (p.bits (tapeChecksum (rest.take len)) 0 16 ++ [s]))))))))) ++ tail)) := by
  obtain ⟨s, after, hend⟩ := tapePutInm_strobe h
  have hone : tapePut1 tapeSynch = strobeBytes (p.bit true) := tapePutBit h true
  refine ⟨s, after ++ (tapePutTune tapeSynch 0o400 ++ (tapePutOutm tapeSynch ++ tapePut1 tapeSynch)), ?_⟩
  have hsplit : [a₀, a₁, l₀, l₁] ++ tapeHeaderName padSpace nameRaw name =
      [a₀, a₁] ++ ([l₀, l₁] ++ tapeHeaderName padSpace nameRaw name) := rfl
  subst hlen
  refine (if_neg (Nat.not_lt.2 hrest)).trans ?_
  rw [hsplit, tapePutWord_bytes, tapePutWord_bytes]
  simp only [Nat.reduceMul, hend, hone, tapePutOutm, tapePutMarker_strobes h, tapePutTune_alternate h,
    tapeInAppend_wide h, tapePutArray_strobes h, tapePutWord_strobes h, Synch.bytes_append, Synch.marker,
    strobeBytes_append, List.append_assoc]

theorem strobeBytes_length (ss : List Strobe) : (strobeBytes ss).length = 2 * ss.length := by
  induction ss with
  | nil => rfl
  | cons s ss ih =>
    rw [strobeBytes_cons, List.length_append, ih, List.length_cons, Nat.mul_succ, Nat.add_comm]
    rfl

theorem tapeLen_toNat (lo hi : Byte) :
    (lo.setWidth 16 ||| hi.setWidth 16 <<< 8 : Word).toNat = lo.toNat + 2 ^ 8 * hi.toNat := by
  have hlow : lo.toNat < 2 ^ 8 := lo.isLt
  have hhigh : hi.toNat < 2 ^ 8 := hi.isLt
  have hlow' : lo.toNat % 2 ^ 16 = lo.toNat := Nat.mod_eq_of_lt (by omega)
  have hhigh' : (hi.toNat % 2 ^ 16) <<< 8 % 2 ^ 16 = 2 ^ 8 * hi.toNat := by
    rw [Nat.shiftLeft_eq]
    omega
  rw [BitVec.toNat_or, BitVec.toNat_shiftLeft, BitVec.toNat_setWidth, BitVec.toNat_setWidth, hlow', hhigh', Nat.or_comm,
    ← Nat.two_pow_add_eq_or_of_lt hlow, Nat.add_comm]

/-- The decoder on the strobes of a header with a name of 16 bytes, and of a payload. -/
theorem tapeDecode_strobes (p : Synch) {tapeSynch : Nat} (h : tapeSynch % 2 ^ 16 = p.ticks) (a₀ a₁ l₀ l₁ : Byte)
    {name payload : List Byte} (hname : name.length = 16) (hlen : payload.length = l₀.toNat + 2 ^ 8 * l₁.toNat)
    (s : Strobe) (tail : List Byte) (nameSize nameRawSize : Nat) :
    bkTapeDecodeRawToBin (tapePutInm tapeSynch ++ (strobeBytes (p.alternate true 8192 ++ (p.marker ++
      (p.alternate true 16 ++ (p.marker ++ (p.bytes ([a₀, a₁, l₀, l₁] ++ name) ++ (p.alternate true 16 ++
      (p.marker ++ (p.bytes payload ++ (p.bits (tapeChecksum payload) 0 16 ++ [s]))))))))) ++ tail)) nameSize nameRawSize =
      some ⟨[a₀, a₁, l₀, l₁] ++ payload, tapeNameOut ([a₀, a₁, l₀, l₁] ++ name) nameSize,
        tapeNameRaw ([a₀, a₁, l₀, l₁] ++ name) nameRawSize⟩ := by
  have hs : [s] ≠ [] := List.cons_ne_nil s []
  have hsum : p.bits (tapeChecksum payload) 0 16 ++ [s] ≠ [] := List.append_ne_nil_of_right_ne_nil _ hs
  have hpayload : p.alternate true 16 ++ (p.marker ++ (p.bytes payload ++ _)) ≠ [] :=
    List.append_ne_nil_of_right_ne_nil _ (List.append_ne_nil_of_right_ne_nil _
      (List.append_ne_nil_of_right_ne_nil _ hsum))
  have hheader : p.alternate true 16 ++ (p.marker ++ (p.bytes ([a₀, a₁, l₀, l₁] ++ name) ++ _)) ≠ [] :=
    List.append_ne_nil_of_right_ne_nil _ (List.append_ne_nil_of_right_ne_nil _
      (List.append_ne_nil_of_right_ne_nil _ hpayload))
  obtain ⟨r₁, hfind, hagree₁⟩ := p.findHeader tail h hheader
  obtain ⟨r₂, hread₁, hagree₂⟩ := p.readArray_bytes _ hpayload hagree₁
  obtain ⟨r₃, hread₂, hagree₃⟩ := p.readArray_bytes _ hsum hagree₂
  obtain ⟨r₄, hread₃, -⟩ := p.readBits_bits (tapeChecksum payload) (Nat.zero_add 16) (b := 0#16) (by simp) hs hagree₃
  have hcount : ([a₀, a₁, l₀, l₁] ++ name).length = 0o24 := by
    rw [List.length_append, hname]
    rfl
  have hword : (l₁.setWidth 16 <<< 8 ||| l₀.setWidth 16 : Word).toNat = payload.length := by
    rw [BitVec.or_comm, tapeLen_toNat, hlen]
  rw [hcount] at hread₁
  refine (if_neg ?_).trans ?_
  · rw [List.length_append, List.length_append, strobeBytes_length, List.length_append, p.alternate_length]
    omega
  · rw [hfind]
    simp only [Option.bind_eq_bind, Option.bind_some, hread₁]
    have hword' : ((([a₀, a₁, l₀, l₁] ++ name).getD 3 0).setWidth 16 <<< 8 |||
        (([a₀, a₁, l₀, l₁] ++ name).getD 2 0).setWidth 16 : Word).toNat = payload.length := hword
    simp only [hword', hread₂, Option.bind_some, hread₃]
    exact if_neg fun hne => hne rfl

/-- What the encoder makes of a program is decoded again: its bytes, and its name as far as it fits. -/
theorem bkTape_decode_encode {tapeSynch : Nat} (hlow : 2 ≤ tapeSynch % 2 ^ 16) (hhigh : tapeSynch % 2 ^ 16 ≤ 10922)
    (hwhole : tapeSynch % 2 ^ 16 ≠ 8192) (padSpace : Bool) (a₀ a₁ l₀ l₁ : Byte) (rest nameRaw : List Byte)
    (name : Option (List Byte)) (hrest : l₀.toNat + 2 ^ 8 * l₁.toNat ≤ rest.length) (nameSize nameRawSize : Nat) :
    ∃ raw, tapeEncodeBinToRaw tapeSynch padSpace (a₀ :: a₁ :: l₀ :: l₁ :: rest) nameRaw name = some raw ∧
      bkTapeDecodeRawToBin raw nameSize nameRawSize =
        some
          { data := a₀ :: a₁ :: l₀ :: l₁ :: rest.take (l₀.toNat + 2 ^ 8 * l₁.toNat)
            nameOut := ((tapeHeaderName padSpace nameRaw name).take (min (nameSize - 1) 16)).rdropWhile
              fun c => c = 0x20 ∨ c = 0
            nameRaw := (tapeHeaderName padSpace nameRaw name).take (min nameRawSize 16) ++
              List.replicate (nameRawSize - 16) 0 } := by
  obtain ⟨p, hp⟩ : ∃ p : Synch, tapeSynch % 2 ^ 16 = p.ticks := ⟨⟨_, hlow, hhigh, hwhole⟩, rfl⟩
  have hlen := tapeLen_toNat l₀ l₁
  obtain ⟨s, tail, hraw⟩ := tapeEncode_strobes p hp padSpace a₀ a₁ l₀ l₁ rest nameRaw name hlen.symm hrest
  have hpayload : (rest.take (l₀.toNat + 2 ^ 8 * l₁.toNat)).length = l₀.toNat + 2 ^ 8 * l₁.toNat := by
    rw [List.length_take, Nat.min_eq_left hrest]
  exact ⟨_, hraw, tapeDecode_strobes p hp a₀ a₁ l₀ l₁ (tapeHeaderName_length padSpace nameRaw name) hpayload s tail
    nameSize nameRawSize⟩

/-- One byte for address 0o1000, in a recording with a synchronizing pulse of 25 ticks. -/
theorem bkTape_decode_one :
    ∃ raw, tapeEncodeBinToRaw 25 true [0, 2, 1, 0, 0x55] [] (some [0x41]) = some raw ∧
      bkTapeDecodeRawToBin raw 17 16 =
        some ⟨[0, 2, 1, 0, 0x55], [0x41], 0x41 :: List.replicate 15 0x20⟩ :=
  bkTape_decode_encode (by decide) (by decide) (by decide) true 0 2 1 0 [0x55] [] (some [0x41]) (by decide) 17 16

end K1801.Bk
