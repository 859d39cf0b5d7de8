import Mathlib.Data.List.Nodup
import K1801.Tools.Rt11Directory

/-! # Editing the entries of a segment

The rows of a segment decide what the loop over its entries meets; each edit changes few of them.
-/

namespace K1801.Tools

open Core Library

/-! ## Rows and the loop -/

theorem rt11Scan_of_rows {seg : SegBuf} {entryWords n i : Nat} {es : List Rt11Entry} {eos : Rt11Entry}
    (hrows : ∀ j (h : j < es.length), rt11Row seg entryWords (i + j) = es[j]) (hlive : ∀ e ∈ es, e.isEos = false)
    (hend : rt11Row seg entryWords (i + es.length) = eos) (hmark : eos.isEos = true) (hroom : es.length < n) :
    rt11Scan seg entryWords n i = ⟨es, some eos⟩ := by
  induction es generalizing n i with
  | nil =>
    cases n with
    | zero => cases hroom
    | succ n =>
      have hrow : rt11Row seg entryWords i = eos := hend
      rw [rt11Scan, hrow, if_pos hmark]
  | cons e es ih =>
    cases n with
    | zero => cases hroom
    | succ n =>
      have hrow : rt11Row seg entryWords i = e := hrows 0 (Nat.succ_pos _)
      have hrest := ih (n := n) (i := i + 1)
        (fun j hj => by rw [Nat.add_right_comm]; exact hrows (j + 1) (Nat.succ_lt_succ hj))
        (fun e' he' => hlive e' (List.mem_cons_of_mem _ he'))
        (by rw [Nat.add_right_comm]; exact hend) (Nat.lt_of_succ_lt_succ hroom)
      rw [rt11Scan, hrow, hlive e (List.mem_cons_self ..), hrest]
      rfl

theorem rt11Scan_rows {seg : SegBuf} {entryWords n i : Nat} {es : List Rt11Entry} {eos : Rt11Entry}
    (h : rt11Scan seg entryWords n i = ⟨es, some eos⟩) :
    (∀ j (hj : j < es.length), rt11Row seg entryWords (i + j) = es[j]) ∧
      rt11Row seg entryWords (i + es.length) = eos := by
  induction n generalizing i es with
  | zero => cases h
  | succ n ih =>
    rw [rt11Scan] at h
    split at h
    · cases h
      exact ⟨fun j hj => absurd hj (Nat.not_lt_zero _), rfl⟩
    · rcases hrest : rt11Scan seg entryWords n (i + 1) with ⟨es', eos'⟩
      simp only [hrest] at h
      cases h
      obtain ⟨hrows, hend⟩ := ih hrest
      refine ⟨fun j hj => ?_, ?_⟩
      · cases j with
        | zero => rfl
        | succ j =>
          rw [← Nat.add_assoc, Nat.add_right_comm]
          exact hrows j (Nat.lt_of_succ_lt_succ hj)
      · rw [List.length_cons, ← Nat.add_assoc, Nat.add_right_comm]
        exact hend

/-! ## Edits -/

theorem rt11Row_write_other {entryWords i j : Nat} {e : Rt11Entry} (he : e.Fits entryWords) (seg : SegBuf)
    (hne : j ≠ i) : rt11Row (rt11WriteEntry entryWords i e seg) entryWords j = rt11Row seg entryWords j := by
  have hseven : 7 ≤ entryWords := by rw [← he]; omega
  refine rt11Row_congr hseven fun w hlo hhi => ?_
  rw [rt11WriteEntry, rt11SetWords_apply, he.words_length, if_neg ?_]
  rintro ⟨hlo', hhi'⟩
  rcases Nat.lt_or_gt_of_ne hne with hlt | hgt
  · have hle := Nat.mul_le_mul_right entryWords (Nat.succ_le_of_lt hlt)
    rw [Nat.succ_eq_add_one] at hle
    omega
  · have hle := Nat.mul_le_mul_right entryWords (Nat.succ_le_of_lt hgt)
    rw [Nat.succ_eq_add_one, Nat.add_mul, Nat.one_mul] at hle
    omega

/-- The status of an entry rewritten in its place. -/
theorem rt11Row_status {entryWords i : Nat} (hwords : 7 ≤ entryWords) (seg : SegBuf) (status : Word) (j : Nat) :
    rt11Row (Function.update seg (5 + i * entryWords) status) entryWords j =
      if j = i then { rt11Row seg entryWords i with status := status } else rt11Row seg entryWords j := by
  split
  · rename_i hj
    subst hj
    have hat : ∀ k, 0 < k → Function.update seg (5 + j * entryWords) status (5 + j * entryWords + k) =
        seg (5 + j * entryWords + k) := fun k hk => Function.update_of_ne (by omega) _ _
    have hextra : ((List.range (entryWords - 7)).map fun e =>
        Function.update seg (5 + j * entryWords) status (5 + j * entryWords + 7 + e)) =
        (List.range (entryWords - 7)).map fun e => seg (5 + j * entryWords + 7 + e) := by
      refine List.map_congr_left fun e _ => ?_
      rw [Nat.add_assoc _ 7 e]
      exact hat _ (by omega)
    simp only [rt11Row]
    rw [hextra, hat 1 (by decide), hat 2 (by decide), hat 3 (by decide), hat 4 (by decide), hat 5 (by decide),
      hat 6 (by decide), Function.update_self]
  · rename_i hne
    refine rt11Row_congr hwords fun w hlo hhi => Function.update_of_ne ?_ _ _
    rcases Nat.lt_or_gt_of_ne hne with hlt | hgt
    · have hle := Nat.mul_le_mul_right entryWords (Nat.succ_le_of_lt hlt)
      rw [Nat.succ_eq_add_one] at hle
      omega
    · have hle := Nat.mul_le_mul_right entryWords (Nat.succ_le_of_lt hgt)
      rw [Nat.succ_eq_add_one, Nat.add_mul, Nat.one_mul] at hle
      omega

/-- The rows behind an inserted one are the old rows, one further. -/
theorem rt11Row_insert {entryWords maxEntries index last : Nat} {seg seg' : SegBuf} (hwords : 7 ≤ entryWords)
    (h : rt11InsertEntry entryWords maxEntries index last seg = some seg') :
    (∀ j, j < index → rt11Row seg' entryWords j = rt11Row seg entryWords j) ∧
      (∀ j, index ≤ j → j ≤ last → rt11Row seg' entryWords (j + 1) = rt11Row seg entryWords j) := by
  unfold rt11InsertEntry at h
  split_ifs at h
  cases h
  have hmul : ∀ a b, a ≤ b → a * entryWords ≤ b * entryWords := fun a b => Nat.mul_le_mul_right entryWords
  have hsucc : ∀ a, (a + 1) * entryWords = a * entryWords + entryWords := fun a => by rw [Nat.add_mul, Nat.one_mul]
  refine ⟨fun j hj => ?_, fun j hlo hhi => ?_⟩
  · refine rt11Row_congr hwords fun w _ hw => ?_
    have hle := hmul _ _ (Nat.succ_le_of_lt hj)
    rw [Nat.succ_eq_add_one] at hle
    rw [if_neg (by omega), if_neg (by omega)]
  · refine rt11Row_moved hwords fun k hk => ?_
    have hle := hmul _ _ hlo
    have hle' := hmul _ _ hhi
    have hj := hsucc j
    have hlast := hsucc last
    rw [if_neg (by omega), if_pos (by omega)]
    exact congrArg seg (by omega)

theorem rt11InsertEntry_some {entryWords maxEntries index last : Nat} {seg seg' : SegBuf}
    (h : rt11InsertEntry entryWords maxEntries index last seg = some seg') :
    last + 1 < maxEntries ∧ ∀ w, w < 5 → seg' w = seg w := by
  unfold rt11InsertEntry at h
  split_ifs at h
  cases h
  exact ⟨by omega, fun w hw => (if_neg (by omega)).trans (if_neg (by omega))⟩

/-- One entry replaced by the entries of `mid`; the rows behind it move along. -/
theorem rt11Scan_edit {seg seg' : SegBuf} {entryWords n : Nat} {pre mid post : List Rt11Entry} {e eos : Rt11Entry}
    (hwords : 7 ≤ entryWords) (h : rt11Scan seg entryWords n 0 = ⟨pre ++ e :: post, some eos⟩)
    (hbefore : ∀ j, j < pre.length → rt11Row seg' entryWords j = rt11Row seg entryWords j)
    (hmid : ∀ k (hk : k < mid.length), rt11Row seg' entryWords (pre.length + k) = mid[k])
    (hafter : ∀ k, k ≤ post.length →
      rt11Row seg' entryWords (pre.length + mid.length + k) = rt11Row seg entryWords (pre.length + 1 + k))
    (hlive : ∀ e ∈ mid, e.isEos = false) (hroom : pre.length + mid.length + post.length < n) :
    rt11Scan seg' entryWords n 0 = ⟨pre ++ (mid ++ post), some eos⟩ := by
  obtain ⟨hrows, hend⟩ := rt11Scan_rows h
  have hold : ∀ e' ∈ pre ++ e :: post, e'.isEos = false := by
    intro e' he'
    have hin := rt11Scan_entries seg hwords n 0
    rw [h] at hin
    exact (hin e' he').2
  refine rt11Scan_of_rows ?_ ?_ ?_ ?_ ?_
  · intro j hj
    rw [Nat.zero_add]
    rw [List.length_append, List.length_append] at hj
    by_cases hpre : j < pre.length
    · have hrow := hrows j (by rw [List.length_append]; omega)
      rw [Nat.zero_add, List.getElem_append_left hpre] at hrow
      rw [List.getElem_append_left hpre, hbefore j hpre, hrow]
    · rw [List.getElem_append_right (Nat.le_of_not_lt hpre)]
      by_cases hin : j - pre.length < mid.length
      · rw [List.getElem_append_left hin, ← hmid _ hin, Nat.add_sub_cancel' (Nat.le_of_not_lt hpre)]
      · rw [List.getElem_append_right (Nat.le_of_not_lt hin)]
        obtain ⟨k, rfl⟩ : ∃ k, j = pre.length + mid.length + k := ⟨j - (pre.length + mid.length), by omega⟩
        have hrow := hrows (pre.length + 1 + k) (by rw [List.length_append, List.length_cons]; omega)
        rw [Nat.zero_add, List.getElem_append_right (by omega)] at hrow
        have hk : pre.length + 1 + k - pre.length = k + 1 := by omega
        have hk' : pre.length + mid.length + k - pre.length - mid.length = k := by omega
        simp only [hk, List.getElem_cons_succ] at hrow
        simp only [hk']
        rw [hafter k (by omega), hrow]
  · intro e' he'
    rcases List.mem_append.1 he' with he' | he'
    · exact hold e' (List.mem_append_left _ he')
    · rcases List.mem_append.1 he' with he' | he'
      · exact hlive e' he'
      · exact hold e' (List.mem_append_right _ (List.mem_cons_of_mem _ he'))
  · rw [List.length_append, List.length_cons] at hend
    rw [List.length_append, List.length_append, Nat.zero_add, ← Nat.add_assoc, hafter _ (Nat.le_refl _), ← hend]
    exact congrArg _ (by omega)
  · have hin := rt11Scan_eos seg hwords n 0
    rw [h] at hin
    exact (hin eos rfl).2
  · rw [List.length_append, List.length_append]
    omega

/-! ## Sound entries -/

/-- The names of the files. -/
def rt11Names (es : List Rt11Entry) : List Rt11Name := (es.filter Rt11Entry.isFile).map Rt11Entry.name

theorem rt11Names_append (es es' : List Rt11Entry) : rt11Names (es ++ es') = rt11Names es ++ rt11Names es' := by
  rw [rt11Names, List.filter_append, List.map_append]
  rfl

theorem rt11Names_file {e : Rt11Entry} (h : e.isFile = true) (es : List Rt11Entry) :
    rt11Names (e :: es) = e.name :: rt11Names es := by
  rw [rt11Names, List.filter_cons_of_pos h]
  rfl

theorem rt11Names_empty {e : Rt11Entry} (h : e.isFile = false) (es : List Rt11Entry) :
    rt11Names (e :: es) = rt11Names es := by
  rw [rt11Names, List.filter_cons_of_neg (by rw [h]; decide)]
  rfl

/-- A permanent file or an empty area. -/
structure Rt11Entry.Plain (e : Rt11Entry) : Prop where
  kind : e.isFile = !e.isEmpty
  permanent : e.isTent = false

/-- Entries that fill `dataLen` blocks with files of different names and empty areas. -/
structure Rt11Sound (dataLen : Nat) (es : List Rt11Entry) : Prop where
  total : rt11TotalLen es = dataLen
  plain : ∀ e ∈ es, e.Plain
  names : (rt11Names es).Nodup

theorem Rt11Sound.edit {dataLen : Nat} {pre mid post : List Rt11Entry} {e : Rt11Entry}
    (h : Rt11Sound dataLen (pre ++ e :: post)) (hlen : rt11TotalLen mid = e.length.toNat)
    (hplain : ∀ e ∈ mid, e.Plain) (hnames : (rt11Names (pre ++ (mid ++ post))).Nodup) :
    Rt11Sound dataLen (pre ++ (mid ++ post)) := by
  refine ⟨?_, ?_, hnames⟩
  · have htotal := h.total
    have hcons : rt11TotalLen (e :: post) = e.length.toNat + rt11TotalLen post := rfl
    rw [rt11TotalLen_append, hcons] at htotal
    rw [rt11TotalLen_append, rt11TotalLen_append, hlen]
    exact htotal
  · intro e' he'
    rcases List.mem_append.1 he' with he' | he'
    · exact h.plain e' (List.mem_append_left _ he')
    · rcases List.mem_append.1 he' with he' | he'
      · exact hplain e' he'
      · exact h.plain e' (List.mem_append_right _ (List.mem_cons_of_mem _ he'))

/-- An empty area taken by a file with a new name. -/
theorem Rt11Sound.fill {dataLen : Nat} {pre post : List Rt11Entry} {e file : Rt11Entry} {rest : List Rt11Entry}
    (h : Rt11Sound dataLen (pre ++ e :: post)) (hempty : e.isEmpty = true) (hfile : file.Plain)
    (hisFile : file.isFile = true) (hnew : file.name ∉ rt11Names (pre ++ e :: post))
    (hrest : ∀ e ∈ rest, e.Plain ∧ e.isFile = false) (hlen : rt11TotalLen (file :: rest) = e.length.toNat) :
    Rt11Sound dataLen (pre ++ (file :: rest ++ post)) := by
  have hold : e.isFile = false := by
    rw [(h.plain e (List.mem_append_right _ (List.mem_cons_self ..))).kind, hempty]
    rfl
  have hrestNames : rt11Names rest = [] := by
    rw [rt11Names, List.map_eq_nil_iff, List.filter_eq_nil_iff]
    intro e' he'
    rw [(hrest e' he').2]
    decide
  have hnames := h.names
  rw [rt11Names_append, rt11Names_empty hold] at hnames hnew
  refine h.edit hlen ?_ ?_
  · intro e' he'
    cases he' with
    | head => exact hfile
    | tail _ he' => exact (hrest e' he').1
  · rw [rt11Names_append, List.cons_append, rt11Names_file hisFile, rt11Names_append, hrestNames, List.nil_append]
    exact List.nodup_middle.2 (List.nodup_cons.2 ⟨hnew, hnames⟩)

/-- A file that becomes an empty area of the same length. -/
theorem Rt11Sound.clear {dataLen : Nat} {pre post : List Rt11Entry} {e free : Rt11Entry}
    (h : Rt11Sound dataLen (pre ++ e :: post)) (hfile : e.isFile = true) (hplain : free.Plain)
    (hfree : free.isFile = false) (hlen : free.length = e.length) : Rt11Sound dataLen (pre ++ ([free] ++ post)) := by
  have hnames := h.names
  rw [rt11Names_append, rt11Names_file hfile] at hnames
  refine h.edit (by rw [← hlen]; exact Nat.add_zero _) ?_ ?_
  · intro e' he'
    rw [List.mem_singleton.1 he']
    exact hplain
  · rw [rt11Names_append, List.singleton_append, rt11Names_empty hfree]
    exact (List.nodup_cons.1 (List.nodup_middle.1 hnames)).2

/-- A file under another status. -/
theorem Rt11Sound.restatus {dataLen : Nat} {pre post : List Rt11Entry} {e e' : Rt11Entry}
    (h : Rt11Sound dataLen (pre ++ e :: post)) (hfile : e.isFile = true) (hplain : e'.Plain)
    (hfile' : e'.isFile = true) (hname : e'.name = e.name) (hlen : e'.length = e.length) :
    Rt11Sound dataLen (pre ++ ([e'] ++ post)) := by
  have hnames := h.names
  rw [rt11Names_append, rt11Names_file hfile] at hnames
  refine h.edit (by rw [← hlen]; exact Nat.add_zero _) ?_ ?_
  · intro e'' he''
    rw [List.mem_singleton.1 he'']
    exact hplain
  · rw [rt11Names_append, List.singleton_append, rt11Names_file hfile', hname]
    exact hnames

/-- The files in order with the free space behind them. -/
theorem Rt11Sound.gather {dataLen : Nat} {es free : List Rt11Entry} (h : Rt11Sound dataLen es)
    (hfree : ∀ e ∈ free, e.Plain ∧ e.isFile = false)
    (hlen : rt11TotalLen (es.filter Rt11Entry.isFile ++ free) = dataLen) :
    Rt11Sound dataLen (es.filter Rt11Entry.isFile ++ free) := by
  refine ⟨hlen, ?_, ?_⟩
  · intro e he
    rcases List.mem_append.1 he with he | he
    · exact h.plain e (List.mem_of_mem_filter he)
    · exact (hfree e he).1
  · have hnone : rt11Names free = [] := by
      rw [rt11Names, List.map_eq_nil_iff, List.filter_eq_nil_iff]
      intro e he
      rw [(hfree e he).2]
      decide
    have hfiles : rt11Names (es.filter Rt11Entry.isFile) = rt11Names es := by
      rw [rt11Names, List.filter_filter, rt11Names]
      simp only [Bool.and_self]
    rw [rt11Names_append, hnone, List.append_nil, hfiles]
    exact h.names

end K1801.Tools
