import K1801.Uj11.EngineFields
import K1801.Uj11.MicrocodeClosure

/-! # The word format

What a line of microcode denotes by the description of the format, and that the engine takes exactly this from the word
that the line is assembled to.
-/

namespace K1801.Uj11.Microasm

open Library Microseq

/-! ## The documented codes -/

def opCodes : List (String × BitVec 4) :=
  [("PASSA", 0), ("PASSB", 1), ("ADD", 2), ("ADC", 3), ("SUB", 4), ("SBC", 5), ("AND", 6), ("OR", 7), ("XOR", 8),
    ("BIC", 9), ("NOTA", 10), ("LSL", 11), ("LSR", 12), ("ASR", 13), ("ROL", 14), ("ROR", 15)]

def commandCodes : List (String × BitVec 4) :=
  [("JUMP", 0), ("CJUMP", 1), ("FETCH", 2), ("RETURN", 3), ("DISPATCH", 4), ("OR_MS", 5), ("OR_MD", 6), ("OR_RR", 7),
    ("OR_BT", 8), ("OR_R67", 9), ("CALL", 10), ("READ", 11), ("WRITE", 12), ("STOP", 13), ("WAIT", 14), ("TRAP", 15)]

def selectorCodes : List (String × BitVec 5) :=
  [("R0", 0), ("R1", 1), ("R2", 2), ("R3", 3), ("R4", 4), ("R5", 5), ("R6", 6), ("R7", 7), ("T0", 8), ("T1", 9),
    ("T2", 10), ("T3", 11), ("T4", 12), ("T5", 13), ("T6", 14), ("T7", 15), ("RS", 16), ("RD", 17), ("RS1", 18),
    ("RD1", 19)]

def pairCodes : List (String × BitVec 3) :=
  [("AB", 0), ("AQ", 1), ("AD", 2), ("DB", 3), ("ZB", 4), ("ZQ", 5), ("DA", 6), ("BA", 7), ("DQ", 5)]

def destinationCodes : List (String × BitVec 3) :=
  [("NONE", 0), ("RF", 1), ("Q", 2), ("RFQ_L", 3), ("RFQ_R", 4), ("OPERAND", 5), ("MOV", 6)]

def flagCodes : List (String × BitVec 2) := [("KEEP", 0), ("NZV", 1), ("NZVC", 2), ("LOAD", 3)]

def dCodes : List (String × BitVec 3) :=
  [("ZERO", 0), ("ONE", 1), ("TWO", 2), ("STEP", 3), ("MDR", 4), ("DISP", 5), ("IMM", 6), ("PSW", 7), ("STATUS", 0)]

def sequencingCodes : List (String × BitVec 2) := [("NEXT", 0), ("PAGE", 1), ("FETCH", 2), ("FETCH_A1", 3)]

/-- The predicate, and whether it is inverted. -/
def conditionCodes : List (String × (BitVec 3 × Bool)) :=
  [("ALWAYS", 0, false), ("C", 1, false), ("V", 2, false), ("Z", 3, false), ("N", 4, false), ("Q0", 5, false),
    ("LOOPZ", 6, false), ("ERROR", 7, false), ("NOT_ALWAYS", 0, true), ("NOT_C", 1, true), ("NOT_V", 2, true),
    ("NOT_Z", 3, true), ("NOT_N", 4, true), ("NOT_Q0", 5, true), ("NOT_LOOPZ", 6, true), ("NOT_ERROR", 7, true)]

def spaceCodes : List (String × BitVec 2) := [("ACTIVE", 0), ("GUEST", 1), ("UPPER", 2), ("LOWER", 3)]

def serviceCodes : List (String × BitVec 2) := [("NONE", 0), ("ENTER", 1), ("LEAVE", 2), ("CONFIG", 3)]

/-! ## What a line denotes -/

section

variable (t : Text)

def codeOf {α : Type} (codes : List (String × α)) (name : String) : Option α := codes.lookup (t.upper name)

/-- A field of a line, or its default. -/
def Fields.value {α : Type} (f : Fields) (key : String) (default : α) (meaning : String → Option α) : Option α :=
  match f.lookup key with
  | some text => meaning text
  | none => some default

/-- A number or a label. -/
def numberOf (labels : Option Labels) (text : String) : Option Nat :=
  match number t text labels with
  | .ok value => some value.toNat
  | .error _ => none

def bitOf (text : String) : Option Bool := (numberOf t none text).map (· == 1)

def denoteAlu (op : String) (f : Fields) (labels : Labels) : Option Operation := do
  let operation ← codeOf t opCodes op
  let a ← f.value "a" 0 (codeOf t selectorCodes)
  let b ← f.value "b" 0 (codeOf t selectorCodes)
  let pair ← f.value "pair" 0 (codeOf t pairCodes)
  let destination ← f.value "dst" 0 (codeOf t destinationCodes)
  let flags ← f.value "flags" 0 (codeOf t flagCodes)
  let dInput ← f.value "d" 0 (codeOf t dCodes)
  let status ← f.value "d" false fun text => some (decide (t.upper text = "STATUS"))
  let immediate ← f.value "imm" 0 fun text => (numberOf t (some labels) text).map (BitVec.ofNat 8)
  let sequencing ← f.value "seq" 0 (codeOf t sequencingCodes)
  let page ← f.value "next" 0 fun text => (numberOf t (some labels) text).map (BitVec.ofNat 8)
  return .alu operation a b pair destination flags dInput immediate status sequencing page (f.has "trace")

/-- The pair, the destination and the D input of a control line. -/
def datapathOf (cmd : String) : BitVec 3 × BitVec 3 × BitVec 3 := if cmd = "FETCH" then (2, 1, 2) else (0, 0, 0)

def denoteControl (cmd : String) (f : Fields) (labels : Labels) : Option Operation := do
  let command ← codeOf t commandCodes cmd
  let a ← f.value "a" (if cmd = "FETCH" then 7 else 0) (codeOf t selectorCodes)
  let b ← f.value "b" (if cmd = "FETCH" then 7 else 0) (codeOf t selectorCodes)
  let target ← f.value "target" 0 fun text => (numberOf t (some labels) text).map (BitVec.ofNat 10)
  let condition ← f.value "cond" (0, false) (codeOf t conditionCodes)
  let byteForced ← f.value "byte" false fun text => if t.upper text = "IR" then some false else bitOf t text
  let byteFromIr ← f.value "byte" false fun text => some (decide (t.upper text = "IR"))
  let space ← f.value "space" 0 (codeOf t spaceCodes)
  let stream ← f.value "stream" false (bitOf t)
  let faultContinues ← f.value "fault_inc" false (bitOf t)
  let prefetch ← f.value "prefetch" true (bitOf t)
  let init ← f.value "init" false (bitOf t)
  let service ← f.value "service" 0 (codeOf t serviceCodes)
  return .control command a b (datapathOf cmd).1 (datapathOf cmd).2.1 (datapathOf cmd).2.2 target condition.1 condition.2
    byteForced byteFromIr space stream faultContinues (!prefetch) init service

/-- The operation that a line stands for. -/
def denote (line : String) (labels : Labels) : Option Operation :=
  if commandOf t line = "ALU" then
    (fields t (argsOf t line) aluFields).toOption.bind fun f => denoteAlu t ((headOf t line).getD 1 "") f labels
  else
    (fields t (argsOf t line) (allowedOf (commandOf t line))).toOption.bind fun f =>
      denoteControl t (commandOf t line) f labels

/-- The full address that a line with `seq=PAGE` names. -/
def pageTarget (line : String) (labels : Labels) : Option Nat :=
  if commandOf t line = "ALU" then
    (fields t (argsOf t line) aluFields).toOption.bind fun f => (f.lookup "next").bind (numberOf t (some labels))
  else none

end

variable {t : Text} {f : Fields} {labels : Labels} {addr : Nat} {edges : List Nat}

/-! ## Defaults -/

theorem upper_ascii_text {s : String} (h : ∀ c ∈ s.toList, c.toNat < 128 ∧ c.toUpper = c) : t.upper s = s := by
  refine upper_of_fixed fun c hc => ?_
  obtain ⟨hascii, hupper⟩ := h c hc
  rw [t.upper_ascii c hascii, hupper]

/-- A digit is a number, unless it is a label. -/
theorem number_digit {c : Char} {table : Option Labels} (hdigit : c.isDigit = true) (hascii : c.toNat < 128)
    (hupper : c.toUpper = c) (hlabels : table.bind (List.lookup (String.singleton c)) = none) :
    number t (String.singleton c) table = .ok (c.toNat - '0'.toNat : Nat) := by
  have hspace : t.isSpace c = false := t.space_ascii c hascii (by simp [Char.isAlphanum, hdigit])
  have hstrip : t.strip (String.singleton c) = String.singleton c := by
    simp [Text.strip, String.toList_singleton, hspace, List.rdropWhile]
  have hfixed : t.upper (String.singleton c) = String.singleton c := upper_ascii_text (by simp [hascii, hupper])
  have hdollar : c ≠ '$' := by
    rintro rfl
    exact absurd hdigit (by decide)
  simp only [number, hstrip, hfixed, hlabels, String.toList_singleton]
  split
  · rename_i value hvalue
    split at hvalue
    · rename_i digits hlist
      exact absurd (List.cons.inj hlist).1 hdollar
    · rw [t.int_digit c hdigit] at hvalue
      rw [← Option.some.inj hvalue]
  · rename_i hvalue
    split at hvalue
    · rename_i digits hlist
      exact absurd (List.cons.inj hlist).1 hdollar
    · rw [t.int_digit c hdigit] at hvalue
      cases hvalue

theorem number_zero : number t "0" none = .ok 0 := number_digit (c := '0') (by decide) (by decide) (by decide) rfl

theorem number_one : number t "1" none = .ok 1 := number_digit (c := '1') (by decide) (by decide) (by decide) rfl

/-- The names of a table of labels are names. -/
def Named (labels : Labels) : Prop := ∀ p ∈ labels, isName p.1 = true

theorem placeLine_named {lineno : Nat} {text : String} {s s' : Layout} (h : placeLine t lineno text s = .ok s')
    (hs : Named s.labels) : Named s'.labels := by
  rcases (placeLine_ok h).2 with hsame | ⟨name, value, hname, hadded⟩
  · rw [hsame]
    exact hs
  · rw [hadded]
    intro p hp
    rcases List.mem_append.mp hp with hp | hp
    · exact hs p hp
    · rw [List.mem_singleton.mp hp]
      exact hname

theorem placeLines_named {lineno : Nat} {lines : List String} {s s' : Layout}
    (h : placeLines t lineno lines s = .ok s') (hs : Named s.labels) : Named s'.labels := by
  induction lines generalizing lineno s with
  | nil =>
    cases h
    exact hs
  | cons raw lines ih =>
    simp only [placeLines, bind_ok, atLine_ok] at h
    obtain ⟨s₁, hline, h⟩ := h
    exact ih h (placeLine_named hline hs)

/-- So are those of the table that an accepted source is encoded with. -/
theorem layout_named {source : String} {s : Layout} (h : layout t source = .ok s) : Named s.labels := by
  simp only [layout, bind_ok, pure_ok] at h
  obtain ⟨s₁, hlines, -, -, rfl⟩ := h
  exact placeLines_named hlines fun _ h => by cases h

theorem number_zero_labels (hlabels : Named labels) : number t "0" (some labels) = .ok 0 := by
  refine number_digit (c := '0') (by decide) (by decide) (by decide) ?_
  cases hlookup : labels.lookup "0" with
  | none => exact hlookup
  | some value =>
    obtain ⟨before, after, rfl, -⟩ := List.lookup_eq_some_iff.mp hlookup
    have hname : isName "0" = true := hlabels ("0", value) (by simp)
    exact absurd hname (by decide)

theorem lookup_map {α : Type} (code : Nat → α) (table : Table) (name : String) :
    (table.map fun p => (p.1, code p.2)).lookup name = (table.lookup name).map code := by
  induction table with
  | nil => rfl
  | cons p table ih =>
    rw [List.map_cons, List.lookup_cons, List.lookup_cons]
    split
    · rfl
    · exact ih

/-- A field from a table means what the description says. -/
theorem value_enum {α : Type} {codes : List (String × α)} {table : Table} (code : Nat → α)
    (hcodes : codes = table.map fun p => (p.1, code p.2)) {key default : String} {d n : Nat}
    (hdefault : table.lookup default = some d) (hfixed : ∀ c ∈ default.toList, c.toNat < 128 ∧ c.toUpper = c)
    (h : enum t (f.get key default) table = .ok n) : f.value key (code d) (codeOf t codes) = some (code n) := by
  have hlookup := enum_ok.mp h
  unfold Fields.get at hlookup
  unfold Fields.value
  cases hkey : f.lookup key with
  | some text =>
    rw [hkey] at hlookup
    change codeOf t codes text = _
    rw [codeOf, hcodes, lookup_map, show table.lookup (t.upper text) = some n from hlookup]
    rfl
  | none =>
    rw [hkey] at hlookup
    have hsame : table.lookup (t.upper default) = some n := hlookup
    rw [upper_ascii_text hfixed, hdefault] at hsame
    rw [Option.some.inj hsame]

theorem value_number {α : Type} (code : Nat → α) {table : Option Labels} {key default : String} {d n : Nat}
    (hdefault : number t default table = .ok (d : Int)) (h : number t (f.get key default) table = .ok (n : Int)) :
    (f.value key (code d) fun text => (numberOf t table text).map code) = some (code n) := by
  unfold Fields.get at h
  unfold Fields.value
  cases hkey : f.lookup key with
  | some text =>
    rw [hkey] at h
    change (numberOf t table text).map code = _
    rw [numberOf, show number t text table = .ok (n : Int) from h]
    rfl
  | none =>
    rw [hkey] at h
    have hsame : (d : Int) = n := Except.ok.inj (hdefault.symm.trans h)
    rw [show d = n by omega]

theorem value_bit {key default : String} {d n : Nat} (hdefault : number t default none = .ok (d : Int))
    (h : bit t f key default = .ok n) : f.value key (d == 1) (bitOf t) = some (n == 1) :=
  value_number (· == 1) hdefault (bit_ok.mp h).1

theorem value_absent {α : Type} {key : String} {default : α} {meaning : String → Option α} (h : f.has key = false) :
    f.value key default meaning = some default := by
  rw [Fields.has, Option.isSome_eq_false_iff, Option.isNone_iff_eq_none] at h
  rw [Fields.value, h]

theorem value_given {α : Type} (code : Nat → α) {table : Option Labels} {key default : String} {d : α} {n : Nat}
    (hgiven : f.has key = true) (h : number t (f.get key default) table = .ok (n : Int)) :
    (f.value key d fun text => (numberOf t table text).map code) = some (code n) := by
  unfold Fields.get at h
  unfold Fields.value
  cases hkey : f.lookup key with
  | some text =>
    rw [hkey] at h
    change (numberOf t table text).map code = _
    rw [numberOf, show number t text table = .ok (n : Int) from h]
    rfl
  | none =>
    rw [Fields.has, hkey] at hgiven
    cases hgiven

/-- A field compared with one of its values. -/
theorem value_test {key default name : String} (hdefault : t.upper default ≠ name) :
    f.value key false (fun text => some (decide (t.upper text = name))) =
      some (decide (t.upper (f.get key default) = name)) := by
  unfold Fields.value Fields.get
  cases f.lookup key with
  | some text => rfl
  | none => exact congrArg some (decide_eq_false hdefault).symm

/-! ## ALU lines -/

section

variable {din seq low : Nat}

theorem AluContext.immediate (h : AluContext t f addr labels din seq low edges) :
    (f.value "imm" 0 fun text => (numberOf t (some labels) text).map (BitVec.ofNat 8)) =
      some (if din = 6 then BitVec.ofNat 8 low else 0) := by
  cases h with
  | imm _ _ _ hsix hgiven _ hvalue =>
    rw [value_given _ hgiven hvalue, if_pos hsix]
  | page _ _ hne habsent => rw [value_absent habsent, if_neg hne]
  | status _ _ hne habsent => rw [value_absent habsent, if_neg hne]
  | trace hne habsent => rw [value_absent habsent, if_neg hne]
  | plain _ _ hne habsent => rw [value_absent habsent, if_neg hne]

theorem AluContext.page_bits (h : AluContext t f addr labels din seq low edges) (hnext : seq ≠ 1 → f.has "next" = false) :
    (f.value "next" 0 fun text => (numberOf t (some labels) text).map (BitVec.ofNat 8)) =
      some (if seq = 1 then BitVec.ofNat 8 low else 0) := by
  cases h with
  | page target hgiven _ _ _ _ hvalue =>
    have hlow : BitVec.ofNat 8 (target &&& 255) = BitVec.ofNat 8 target := by
      rw [show target &&& 255 = target % 2 ^ 8 from Nat.and_two_pow_sub_one_eq_mod _ 8]
      apply BitVec.eq_of_toNat_eq
      rw [BitVec.toNat_ofNat, BitVec.toNat_ofNat, Nat.mod_mod]
    rw [value_given _ hgiven hvalue, if_pos rfl, hlow]
  | imm _ _ hne => rw [value_absent (hnext hne), if_neg hne]
  | status _ hseq => rw [value_absent (hnext (by omega)), if_neg (by omega)]
  | trace => rw [value_absent (hnext (by decide)), if_neg (by decide)]
  | plain _ hne => rw [value_absent (hnext hne), if_neg hne]

theorem AluContext.status_mark (h : AluContext t f addr labels din seq low edges)
    (hdin : t.upper (f.get "d" "ZERO") = "STATUS" → din = 0) :
    (decide (din = 0) && (BitVec.ofNat 8 low).getLsbD 7 && decide (seq ≠ 1)) =
      decide (t.upper (f.get "d" "ZERO") = "STATUS") := by
  cases h with
  | imm _ _ _ hsix =>
    have hother : t.upper (f.get "d" "ZERO") ≠ "STATUS" := fun hstatus => by
      have hzero := hdin hstatus
      omega
    rw [decide_eq_false hother, decide_eq_false (by omega : ¬ din = 0)]
    rfl
  | page target _ _ _ hother => rw [decide_eq_false hother, show decide (1 ≠ 1) = false by decide, Bool.and_false]
  | status _ hseq _ _ hstatus =>
    rw [decide_eq_true hstatus, decide_eq_true (hdin hstatus), decide_eq_true (by omega : seq ≠ 1)]
    decide
  | trace _ _ hother =>
    rw [decide_eq_false hother, show (BitVec.ofNat 8 1).getLsbD 7 = false by decide, Bool.and_false, Bool.false_and]
  | plain _ _ _ _ hother =>
    rw [decide_eq_false hother, show (BitVec.ofNat 8 0).getLsbD 7 = false by decide, Bool.and_false, Bool.false_and]

theorem AluContext.trace_mark (h : AluContext t f addr labels din seq low edges) :
    ((BitVec.ofNat 2 seq).getLsbD 1 && (BitVec.ofNat 8 low).getLsbD 0 && decide (din ≠ 6)) = f.has "trace" := by
  cases h with
  | imm _ _ _ hsix _ hquiet => rw [hquiet, decide_eq_false (not_not.mpr hsix), Bool.and_false]
  | page target _ _ _ _ hquiet =>
    rw [hquiet, show (BitVec.ofNat 2 1).getLsbD 1 = false by decide, Bool.false_and, Bool.false_and]
  | status _ _ _ _ _ hquiet =>
    rw [hquiet, show (BitVec.ofNat 8 128).getLsbD 0 = false by decide, Bool.and_false, Bool.false_and]
  | trace hne _ _ htraced =>
    rw [htraced, decide_eq_true hne]
    decide
  | plain _ _ _ _ _ hquiet =>
    rw [hquiet, show (BitVec.ofNat 8 0).getLsbD 0 = false by decide, Bool.and_false, Bool.false_and]

end

theorem low_bit (w : Uword) {k : Nat} (hk : k < 8) : w.low.getLsbD k = w.getLsbD k := by
  rw [Uword.low, BitVec.getLsbD_extractLsb', decide_eq_true hk, Bool.true_and, Nat.zero_add]

/-- The fields that the engine takes from an assembled ALU word. -/
theorem AluValues.Fits.operation {v : AluValues} (h : v.Fits) :
    v.uword.operation = .alu (BitVec.ofNat 4 v.op) (BitVec.ofNat 5 v.a) (BitVec.ofNat 5 v.b) (BitVec.ofNat 3 v.pair)
      (BitVec.ofNat 3 v.dst) (BitVec.ofNat 2 v.flags) (BitVec.ofNat 3 v.din)
      (if v.din = 6 then BitVec.ofNat 8 v.low else 0)
      (decide (v.din = 0) && (BitVec.ofNat 8 v.low).getLsbD 7 && decide (v.seq ≠ 1)) (BitVec.ofNat 2 v.seq)
      (if v.seq = 1 then BitVec.ofNat 8 v.low else 0)
      ((BitVec.ofNat 2 v.seq).getLsbD 1 && (BitVec.ofNat 8 v.low).getLsbD 0 && decide (v.din ≠ 6)) := by
  have hcontrol := h.control
  have hop : v.uword.command = BitVec.ofNat 4 v.op := h.extract ⟨31, 4, v.op⟩ (by simp [AluValues.parts]) (by simp)
  have ha : v.uword.aSelect = BitVec.ofNat 5 v.a := h.extract ⟨26, 5, v.a⟩ (by simp [AluValues.parts]) (by simp)
  have hb : v.uword.bSelect = BitVec.ofNat 5 v.b := h.extract ⟨21, 5, v.b⟩ (by simp [AluValues.parts]) (by simp)
  have hpair : v.uword.pair = BitVec.ofNat 3 v.pair := h.extract ⟨18, 3, v.pair⟩ (by simp [AluValues.parts]) (by simp)
  have hd : v.uword.dInput = BitVec.ofNat 3 v.din := h.extract ⟨10, 3, v.din⟩ (by simp [AluValues.parts]) (by simp)
  have hdst : v.uword.destination = BitVec.ofNat 3 v.dst := by
    rw [Uword.destination, hcontrol]
    exact h.extract ⟨15, 3, v.dst⟩ (by simp [AluValues.parts]) (by simp)
  have hflags : v.uword.flags = BitVec.ofNat 2 v.flags := by
    rw [Uword.flags, hcontrol]
    exact h.extract ⟨13, 2, v.flags⟩ (by simp [AluValues.parts]) (by simp)
  have hzero : (v.uword.dInput == 0) = decide (v.din = 0) := by
    rw [hd, Bool.eq_iff_iff, beq_iff_eq, decide_eq_true_iff]
    exact ofNat_inj h.din (by decide)
  have hsix : (v.uword.dInput != 6) = decide (v.din ≠ 6) := by
    rw [hd, Bool.eq_iff_iff, bne_iff_ne, decide_eq_true_iff]
    exact not_congr (ofNat_inj h.din (by decide))
  have hpage : (v.uword.sequencing != 1) = decide (v.seq ≠ 1) := by
    rw [h.sequencing, Bool.eq_iff_iff, bne_iff_ne, decide_eq_true_iff]
    exact not_congr (ofNat_inj h.seq (by decide))
  have himm : (if v.uword.dInput = 6 then v.uword.low else 0) = if v.din = 6 then BitVec.ofNat 8 v.low else 0 := by
    rw [h.lowBits, hd]
    exact if_congr (ofNat_inj h.din (by decide)) rfl rfl
  have hnext : (if v.uword.sequencing = 1 then v.uword.low else 0) =
      if v.seq = 1 then BitVec.ofNat 8 v.low else 0 := by
    rw [h.lowBits, h.sequencing]
    exact if_congr (ofNat_inj h.seq (by decide)) rfl rfl
  have hstatus : v.uword.statusInput =
      (decide (v.din = 0) && (BitVec.ofNat 8 v.low).getLsbD 7 && decide (v.seq ≠ 1)) := by
    rw [Uword.statusInput, hzero, hpage, ← low_bit _ (by decide), h.lowBits]
  have htrace : v.uword.returnTrace =
      ((BitVec.ofNat 2 v.seq).getLsbD 1 && (BitVec.ofNat 8 v.low).getLsbD 0 && decide (v.din ≠ 6)) := by
    rw [Uword.returnTrace, hsix, ← low_bit _ (by decide), h.lowBits, h.sequencing]
  rw [Uword.operation, hcontrol, if_neg (by decide), Uword.aluOperation, hop, ha, hb, hpair, hdst, hflags, himm, hnext,
    hstatus, htrace, hd, h.sequencing]

theorem AluLine.denotes {op : String} {v : AluValues} (h : AluLine t op f addr labels v edges) :
    denoteAlu t op f labels = some v.uword.operation := by
  have hfits := h.fits
  have hop : codeOf t opCodes op = some (BitVec.ofNat 4 v.op) := by
    rw [codeOf, show opCodes = ops.map fun p => (p.1, BitVec.ofNat 4 p.2) by decide, lookup_map, enum_ok.mp h.op]
    rfl
  have ha : f.value "a" 0 (codeOf t selectorCodes) = some (BitVec.ofNat 5 v.a) :=
    value_enum (d := 0) (BitVec.ofNat 5) (by decide) rfl (by decide) h.a
  have hb : f.value "b" 0 (codeOf t selectorCodes) = some (BitVec.ofNat 5 v.b) :=
    value_enum (d := 0) (BitVec.ofNat 5) (by decide) rfl (by decide) h.b
  have hpair : f.value "pair" 0 (codeOf t pairCodes) = some (BitVec.ofNat 3 v.pair) :=
    value_enum (d := 0) (BitVec.ofNat 3) (by decide) rfl (by decide) h.pair
  have hdst : f.value "dst" 0 (codeOf t destinationCodes) = some (BitVec.ofNat 3 v.dst) :=
    value_enum (d := 0) (BitVec.ofNat 3) (by decide) rfl (by decide) h.dst
  have hflags : f.value "flags" 0 (codeOf t flagCodes) = some (BitVec.ofNat 2 v.flags) :=
    value_enum (d := 0) (BitVec.ofNat 2) (by decide) rfl (by decide) h.flags
  have hd : f.value "d" 0 (codeOf t dCodes) = some (BitVec.ofNat 3 v.din) :=
    value_enum (d := 0) (BitVec.ofNat 3) (by decide) rfl (by decide) h.din
  have hseq : f.value "seq" 0 (codeOf t sequencingCodes) = some (BitVec.ofNat 2 v.seq) :=
    value_enum (d := 0) (BitVec.ofNat 2) (by decide) rfl (by decide) h.seq
  have hstatusZero : t.upper (f.get "d" "ZERO") = "STATUS" → v.din = 0 := by
    intro hstatus
    have hdin := enum_ok.mp h.din
    rw [hstatus] at hdin
    exact (Option.some.inj hdin).symm
  have hzero : t.upper "ZERO" ≠ "STATUS" := by
    rw [upper_ascii_text (by decide)]
    decide
  have hstatus := @value_test t f "d" "ZERO" "STATUS" hzero
  simp only [denoteAlu, hop, ha, hb, hpair, hdst, hflags, hd, hseq, hstatus, h.context.immediate,
    h.context.page_bits h.next, Option.bind_eq_bind, Option.bind_some, Option.pure_def]
  rw [hfits.operation, h.context.trace_mark, h.context.status_mark hstatusZero]
/-! ## Control lines -/

theorem command_named {cmd name : String} {n code : Nat} (hname : (name, code) ∈ commands)
    (h : commands.lookup cmd = some n) : n = code ↔ cmd = name := by
  have hinj : ∀ p ∈ commands, ∀ q ∈ commands, p.2 = q.2 ↔ p.1 = q.1 := by decide
  exact hinj (cmd, n) (lookup_mem h) (name, code) hname

/-- The commands that take a field. -/
theorem allowed_commands {cmd : String} {n : Nat} (h : commands.lookup cmd = some n) :
    ("cond" ∈ allowedOf cmd → cmd = "CJUMP") ∧ ("space" ∈ allowedOf cmd → cmd = "READ" ∨ cmd = "WRITE") ∧
      ("byte" ∈ allowedOf cmd → cmd = "READ" ∨ cmd = "WRITE") ∧ ("fault_inc" ∈ allowedOf cmd → cmd = "READ") ∧
      ("service" ∈ allowedOf cmd → cmd = "JUMP") ∧ ("init" ∈ allowedOf cmd → cmd = "JUMP") := by
  have hall : ∀ p ∈ commands, ("cond" ∈ allowedOf p.1 → p.1 = "CJUMP") ∧
      ("space" ∈ allowedOf p.1 → p.1 = "READ" ∨ p.1 = "WRITE") ∧
      ("byte" ∈ allowedOf p.1 → p.1 = "READ" ∨ p.1 = "WRITE") ∧ ("fault_inc" ∈ allowedOf p.1 → p.1 = "READ") ∧
      ("service" ∈ allowedOf p.1 → p.1 = "JUMP") ∧ ("init" ∈ allowedOf p.1 → p.1 = "JUMP") := by
    decide
  exact hall (cmd, n) (lookup_mem h)

theorem enum_default {table : Table} {key default : String} {d n : Nat} (habsent : f.has key = false)
    (hfixed : ∀ c ∈ default.toList, c.toNat < 128 ∧ c.toUpper = c) (hdefault : table.lookup default = some d)
    (h : enum t (f.get key default) table = .ok n) : n = d := by
  rw [Fields.get_absent habsent, enum_ok, upper_ascii_text hfixed, hdefault] at h
  exact (Option.some.inj h).symm

theorem bit_default {key : String} {n : Nat} (habsent : f.has key = false) (h : bit t f key "0" = .ok n) : n = 0 := by
  have hvalue := (bit_ok.mp h).1
  rw [Fields.get_absent habsent, number_zero] at hvalue
  have hzero : (0 : Int) = n := Except.ok.inj hvalue
  omega

theorem extract_shorter {n : Nat} (w : BitVec n) (low : Nat) {a b : Nat} (hab : a ≤ b) :
    w.extractLsb' low a = (w.extractLsb' low b).setWidth a := by
  apply BitVec.eq_of_getLsbD_eq
  intro i hi
  have hib : i < b := by omega
  simp [hi, hib]

theorem extract_bit {n : Nat} (w : BitVec n) (low : Nat) {b k : Nat} (hk : k < b) :
    w.getLsbD (low + k) = (w.extractLsb' low b).getLsbD k := by
  rw [BitVec.getLsbD_extractLsb', decide_eq_true hk, Bool.true_and]

section

variable {cmd : String} {v : ControlValues}

namespace ControlValues

/-- The place of the condition and of the space. -/
theorem Fits.shared (h : v.Fits) : (v.uword cmd).extractLsb' 7 4 = BitVec.ofNat 4 (v.cond ||| v.space) :=
  h.extract ⟨7, 4, v.cond ||| v.space⟩ (by simp [ControlValues.parts]) (by simp)

/-- The place of the service and of `fault_inc`. -/
theorem Fits.services (h : v.Fits) :
    (v.uword cmd).extractLsb' 1 2 = BitVec.ofNat 2 (v.faultInc <<< 1 ||| v.service) :=
  h.extract ⟨1, 2, v.faultInc <<< 1 ||| v.service⟩ (by simp [ControlValues.parts]) (by simp)

theorem Fits.predicate (h : v.Fits) : (v.uword cmd).predicate = BitVec.ofNat 3 (v.cond ||| v.space) := by
  rw [Uword.predicate, extract_shorter _ 7 (by decide : 3 ≤ 4), h.shared, BitVec.setWidth_ofNat_of_le (by decide)]

theorem Fits.inverted (h : v.Fits) :
    (v.uword cmd).inverted = (BitVec.ofNat 4 (v.cond ||| v.space)).getLsbD 3 := by
  have hshared : (v.uword cmd).extractLsb' 7 4 = _ := h.shared
  rw [← hshared, ← extract_bit _ 7 (by decide)]
  rfl

end ControlValues

/-- Each command has its code. -/
theorem ControlLine.command_is (h : ControlLine t cmd f addr labels v edges) (hcmd : t.upper cmd = cmd) {name : String}
    {code : Nat} (hname : (name, code) ∈ commands) :
    (v.uword cmd).command = BitVec.ofNat 4 code ↔ cmd = name := by
  have hlt : code < 16 := by
    have hall : ∀ p ∈ commands, p.2 < 16 := by decide
    exact hall _ hname
  have hlookup : commands.lookup cmd = some v.command := hcmd ▸ enum_ok.mp h.command
  rw [h.fits.commandBits, ofNat_inj h.fits.command hlt]
  exact command_named hname hlookup

theorem ControlLine.condition (h : ControlLine t cmd f addr labels v edges) (hcmd : t.upper cmd = cmd)
    (hgiven : ∀ key, f.has key = true → key ∈ allowedOf cmd) :
    f.value "cond" (0, false) (codeOf t conditionCodes) =
      some (if (v.uword cmd).command = 1 then (v.uword cmd).predicate else 0,
        (v.uword cmd).command == 1 && (v.uword cmd).inverted) := by
  have hlookup : commands.lookup cmd = some v.command := hcmd ▸ enum_ok.mp h.command
  obtain ⟨hcond, hspace, -⟩ := allowed_commands hlookup
  have hcommand : (v.uword cmd).command = 1 ↔ cmd = "CJUMP" := h.command_is hcmd (by decide)
  by_cases hjump : cmd = "CJUMP"
  · have hnone : f.has "space" = false := by
      rw [Bool.eq_false_iff]
      intro hhas
      rcases hspace (hgiven _ hhas) with hread | hwrite
      · exact absurd (hjump.symm.trans hread) (by decide)
      · exact absurd (hjump.symm.trans hwrite) (by decide)
    have hactive : v.space = 0 := enum_default hnone (by decide) rfl h.space
    have hbit : ∀ c < 16, (BitVec.ofNat 4 c).getLsbD 3 = decide (8 ≤ c) := by decide
    rw [if_pos (hcommand.mpr hjump), hcommand.mpr hjump, h.fits.predicate, h.fits.inverted, hactive, Nat.or_zero,
      hbit _ h.fits.cond]
    exact value_enum (d := 0) (fun n => (BitVec.ofNat 3 n, decide (8 ≤ n))) (by decide) rfl (by decide) h.cond
  · have hnone : f.has "cond" = false := by
      rw [Bool.eq_false_iff]
      exact fun hhas => hjump (hcond (hgiven _ hhas))
    have hother : ¬ (v.uword cmd).command = 1 := fun hone => hjump (hcommand.mp hone)
    rw [if_neg hother, beq_eq_false_iff_ne.mpr hother, value_absent hnone]
    rfl

theorem absent_of {key : String} (hgiven : ∀ key, f.has key = true → key ∈ allowedOf cmd) (hnot : key ∉ allowedOf cmd) :
    f.has key = false := by
  rw [Bool.eq_false_iff]
  exact fun hhas => hnot (hgiven _ hhas)

theorem bool_of_iff {α : Type} [DecidableEq α] {a b : α} {p : Prop} [Decidable p] (h : a = b ↔ p) :
    (a == b) = decide p := by
  rw [Bool.eq_iff_iff, beq_iff_eq, decide_eq_true_iff]
  exact h

theorem ControlLine.fetching (h : ControlLine t cmd f addr labels v edges) (hcmd : t.upper cmd = cmd) :
    (v.uword cmd).fetching = decide (cmd = "FETCH") := by
  rw [Uword.fetching, h.fits.control, Bool.true_and]
  exact bool_of_iff (h.command_is hcmd (by decide))

theorem ControlLine.reading (h : ControlLine t cmd f addr labels v edges) (hcmd : t.upper cmd = cmd) :
    (v.uword cmd).reading = decide (cmd = "READ") := by
  rw [Uword.reading, h.fits.control, Bool.true_and]
  exact bool_of_iff (h.command_is hcmd (by decide))

theorem ControlLine.writing (h : ControlLine t cmd f addr labels v edges) (hcmd : t.upper cmd = cmd) :
    (v.uword cmd).writing = decide (cmd = "WRITE") := by
  rw [Uword.writing, h.fits.control, Bool.true_and]
  exact bool_of_iff (h.command_is hcmd (by decide))

theorem ControlLine.jumping (h : ControlLine t cmd f addr labels v edges) (hcmd : t.upper cmd = cmd) :
    ((v.uword cmd).control && (v.uword cmd).command == 0) = decide (cmd = "JUMP") := by
  rw [h.fits.control, Bool.true_and]
  exact bool_of_iff (h.command_is hcmd (by decide))

theorem ControlLine.space_value (h : ControlLine t cmd f addr labels v edges) (hcmd : t.upper cmd = cmd)
    (hgiven : ∀ key, f.has key = true → key ∈ allowedOf cmd) :
    f.value "space" 0 (codeOf t spaceCodes) = some (v.uword cmd).serviceSpace := by
  have hlookup : commands.lookup cmd = some v.command := hcmd ▸ enum_ok.mp h.command
  obtain ⟨hcond, hspace, -⟩ := allowed_commands hlookup
  rw [Uword.serviceSpace, h.reading hcmd, h.writing hcmd]
  by_cases hmemory : cmd = "READ" ∨ cmd = "WRITE"
  · have hnone : f.has "cond" = false := absent_of hgiven fun hin => by
      rcases hmemory with hread | hwrite
      · exact absurd ((hcond hin).symm.trans hread) (by decide)
      · exact absurd ((hcond hin).symm.trans hwrite) (by decide)
    have halways : v.cond = 0 := enum_default hnone (by decide) rfl h.cond
    rw [if_pos (by simpa using hmemory), extract_shorter _ 7 (by decide : 2 ≤ 4), h.fits.shared, halways, Nat.zero_or,
      BitVec.setWidth_ofNat_of_le (by decide)]
    exact value_enum (d := 0) (BitVec.ofNat 2) (by decide) rfl (by decide) h.space
  · have hnone : f.has "space" = false := absent_of hgiven fun hin => hmemory (hspace hin)
    rw [if_neg (by simpa using hmemory), value_absent hnone]

theorem ControlLine.service_value (h : ControlLine t cmd f addr labels v edges) (hcmd : t.upper cmd = cmd)
    (hgiven : ∀ key, f.has key = true → key ∈ allowedOf cmd) :
    f.value "service" 0 (codeOf t serviceCodes) = some (v.uword cmd).service := by
  have hlookup : commands.lookup cmd = some v.command := hcmd ▸ enum_ok.mp h.command
  obtain ⟨-, -, -, hfault, hservice, -⟩ := allowed_commands hlookup
  rw [Uword.service, h.jumping hcmd]
  by_cases hjump : cmd = "JUMP"
  · have hnone : f.has "fault_inc" = false := absent_of hgiven fun hin =>
      absurd ((hfault hin).symm.trans hjump) (by decide)
    rw [if_pos (by simpa using hjump), h.fits.services, bit_default hnone h.faultInc, Nat.zero_shiftLeft, Nat.zero_or]
    exact value_enum (d := 0) (BitVec.ofNat 2) (by decide) rfl (by decide) h.service
  · have hnone : f.has "service" = false := absent_of hgiven fun hin => hjump (hservice hin)
    rw [if_neg (by simpa using hjump), value_absent hnone]

/-- A field of one bit. -/
theorem ControlLine.bit_field (h : ControlLine t cmd f addr labels v edges) (low : Nat) {n : Nat}
    (hin : ⟨low, 1, n⟩ ∈ v.parts cmd) (hlow : low < 36) : (v.uword cmd).getLsbD low = (n == 1) := by
  rw [h.fits.bit ⟨low, 1, n⟩ hin rfl hlow]
  exact (bool_of_iff Iff.rfl).symm

theorem ControlLine.init_value (h : ControlLine t cmd f addr labels v edges) (hcmd : t.upper cmd = cmd)
    (hgiven : ∀ key, f.has key = true → key ∈ allowedOf cmd) :
    f.value "init" false (bitOf t) = some (v.uword cmd).peripheralReset := by
  have hlookup : commands.lookup cmd = some v.command := hcmd ▸ enum_ok.mp h.command
  obtain ⟨-, -, -, -, -, hinit⟩ := allowed_commands hlookup
  rw [Uword.peripheralReset, h.jumping hcmd, h.bit_field (n := v.init) 0 (by simp [ControlValues.parts]) (by decide)]
  by_cases hjump : cmd = "JUMP"
  · rw [decide_eq_true hjump, Bool.true_and]
    exact value_bit (d := 0) number_zero h.init
  · have hnone : f.has "init" = false := absent_of hgiven fun hin => hjump (hinit hin)
    rw [decide_eq_false hjump, Bool.false_and, value_absent hnone]

theorem ControlLine.fault_value (h : ControlLine t cmd f addr labels v edges) (hcmd : t.upper cmd = cmd)
    (hgiven : ∀ key, f.has key = true → key ∈ allowedOf cmd) :
    f.value "fault_inc" false (bitOf t) = some (v.uword cmd).faultContinues := by
  have hlookup : commands.lookup cmd = some v.command := hcmd ▸ enum_ok.mp h.command
  obtain ⟨-, -, -, hfault, hservice, -⟩ := allowed_commands hlookup
  have hplace : (v.uword cmd).getLsbD 2 = (BitVec.ofNat 2 (v.faultInc <<< 1 ||| v.service)).getLsbD 1 := by
    have hservices : (v.uword cmd).extractLsb' 1 2 = _ := h.fits.services
    rw [← hservices, ← extract_bit _ 1 (by decide)]
  have hjump : (v.uword cmd).memoryOp = true → cmd ≠ "JUMP" := by
    rw [Uword.memoryOp, h.fetching hcmd, h.reading hcmd, h.writing hcmd]
    rintro hmemory rfl
    exact absurd hmemory (by decide)
  rw [Uword.faultContinues, hplace]
  cases hmemory : (v.uword cmd).memoryOp with
  | false =>
    have hnone : f.has "fault_inc" = false := absent_of hgiven fun hin => by
      rw [Uword.memoryOp, h.reading hcmd, decide_eq_true (hfault hin), Bool.or_true, Bool.true_or] at hmemory
      cases hmemory
    rw [value_absent hnone, Bool.false_and]
  | true =>
    have hnone : f.has "service" = false := absent_of hgiven fun hin => hjump hmemory (hservice hin)
    have hzero : v.service = 0 := enum_default hnone (by decide) rfl h.service
    have hbit : ∀ n < 2, (BitVec.ofNat 2 (n <<< 1 ||| 0)).getLsbD 1 = (n == 1) := by decide
    rw [hzero, hbit _ h.fits.faultInc, Bool.true_and]
    exact value_bit (d := 0) number_zero h.faultInc

theorem byte_default (t : Text) : t.upper "0" ≠ "IR" := by
  rw [upper_ascii_text (by decide)]
  decide

theorem ControlLine.byte_ir (h : ControlLine t cmd f addr labels v edges) (hcmd : t.upper cmd = cmd)
    (hgiven : ∀ key, f.has key = true → key ∈ allowedOf cmd) :
    f.value "byte" false (fun text => some (decide (t.upper text = "IR"))) = some (v.uword cmd).byteFromIr := by
  have hlookup : commands.lookup cmd = some v.command := hcmd ▸ enum_ok.mp h.command
  obtain ⟨-, -, hbyte, -⟩ := allowed_commands hlookup
  rw [Uword.byteFromIr, h.fits.control, h.fetching hcmd,
    h.bit_field (n := v.byteAuto.toNat) 3 (by simp [ControlValues.parts]) (by decide)]
  by_cases hfetch : cmd = "FETCH"
  · have hnone : f.has "byte" = false := absent_of hgiven fun hin => by
      rcases hbyte hin with hread | hwrite
      · exact absurd (hfetch.symm.trans hread) (by decide)
      · exact absurd (hfetch.symm.trans hwrite) (by decide)
    rw [value_absent hnone, decide_eq_true hfetch, Bool.not_true, Bool.and_false]
  · rw [value_test (byte_default t), decide_eq_false hfetch, ← h.byteAuto, byteIr]
    cases decide (t.upper (f.get "byte" "0") = "IR") <;> rfl

theorem ControlLine.byte_forced (h : ControlLine t cmd f addr labels v edges) (hcmd : t.upper cmd = cmd)
    (hgiven : ∀ key, f.has key = true → key ∈ allowedOf cmd) :
    (f.value "byte" false fun text => if t.upper text = "IR" then some false else bitOf t text) =
      some (v.uword cmd).byteForced := by
  have hlookup : commands.lookup cmd = some v.command := hcmd ▸ enum_ok.mp h.command
  obtain ⟨-, -, hbyte, -⟩ := allowed_commands hlookup
  have hgot := h.byteFixed
  rw [Uword.byteForced, h.fits.control, h.fetching hcmd,
    h.bit_field (n := v.byteFixed) 6 (by simp [ControlValues.parts]) (by decide)]
  cases hhas : f.has "byte" with
  | false =>
    have hir : byteIr t f = false := by
      rw [byteIr, Fields.get_absent hhas]
      exact decide_eq_false (byte_default t)
    rw [byteGiven, hir] at hgot
    rw [value_absent hhas, bit_default hhas hgot]
    rfl
  | true =>
    have hfetch : cmd ≠ "FETCH" := by
      rintro rfl
      rcases hbyte (hgiven _ hhas) with hread | hwrite
      · exact absurd hread (by decide)
      · exact absurd hwrite (by decide)
    rw [decide_eq_false hfetch, Bool.not_false, Bool.and_true, Bool.true_and]
    unfold byteGiven byteIr at hgot
    unfold Fields.value
    unfold Fields.has at hhas
    cases hkey : f.lookup "byte" with
    | none =>
      rw [hkey] at hhas
      cases hhas
    | some text =>
      have hget : f.get "byte" "0" = text := by rw [Fields.get, hkey]; rfl
      rw [hget] at hgot
      change (if t.upper text = "IR" then some false else bitOf t text) = _
      by_cases hir : t.upper text = "IR"
      · rw [if_pos (decide_eq_true hir)] at hgot
        rw [if_pos hir, ← pure_ok.mp hgot]
        rfl
      · rw [if_neg (by simpa using hir)] at hgot
        have hvalue := (bit_ok.mp hgot).1
        rw [hget] at hvalue
        rw [if_neg hir, bitOf, numberOf, hvalue]
        rfl

theorem ControlLine.target_value (h : ControlLine t cmd f addr labels v edges) (hcmd : t.upper cmd = cmd)
    (hgiven : ∀ key, f.has key = true → key ∈ allowedOf cmd) (hlabels : Named labels) :
    (f.value "target" 0 fun text => (numberOf t (some labels) text).map (BitVec.ofNat 10)) =
      some (if (v.uword cmd).fetching then 0 else (v.uword cmd).target) := by
  rw [h.fetching hcmd]
  by_cases hfetch : cmd = "FETCH"
  · have hnone : f.has "target" = false := absent_of hgiven (by rw [hfetch]; decide)
    rw [value_absent hnone, decide_eq_true hfetch]
    rfl
  · rw [decide_eq_false hfetch, h.fits.targetBits, ControlValues.targetField, if_neg hfetch]
    exact value_number (d := 0) _ (number_zero_labels hlabels) (controlNext_ok h.next).1

/-- What a FETCH has in the place of a target. -/
theorem ControlLine.fetch_fields (h : ControlLine t cmd f addr labels v edges)
    (hgiven : ∀ key, f.has key = true → key ∈ allowedOf cmd) (hlabels : Named labels) (hfetch : cmd = "FETCH") :
    (v.uword cmd).pair = 2 ∧ (v.uword cmd).extractLsb' 15 3 = 1 ∧ (v.uword cmd).dInput = 2 := by
  have hnone : ∀ key, key ∉ ["prefetch"] → f.has key = false := fun key hkey =>
    absent_of hgiven (by rw [hfetch]; exact hkey)
  have htarget : v.target = 0 := by
    have hvalue := (controlNext_ok h.next).1
    rw [Fields.get_absent (hnone "target" (by decide)), number_zero_labels hlabels] at hvalue
    have hzero : (0 : Int) = v.target := Except.ok.inj hvalue
    omega
  have hcond : v.cond = 0 := enum_default (hnone "cond" (by decide)) (by decide) rfl h.cond
  have hspace : v.space = 0 := enum_default (hnone "space" (by decide)) (by decide) rfl h.space
  have hfield : (v.uword cmd).extractLsb' 11 10 = 0x111 := by
    have hbits : (v.uword cmd).extractLsb' 11 10 = _ := h.fits.targetBits
    rw [hbits, ControlValues.targetField, if_pos hfetch, htarget]
    rfl
  have hshared : (v.uword cmd).extractLsb' 7 4 = 0 := by
    rw [h.fits.shared, hcond, hspace]
    rfl
  have hhigh {k : Nat} (hk : k < 10) : (v.uword cmd).getLsbD (11 + k) = (0x111 : BitVec 10).getLsbD k := by
    rw [extract_bit _ 11 hk, hfield]
  have hten : (v.uword cmd).getLsbD 10 = false := by
    have hplace := extract_bit (v.uword cmd) 7 (by decide : 3 < 4)
    rw [hshared] at hplace
    exact hplace
  refine ⟨?_, ?_, ?_⟩
  · apply BitVec.eq_of_getLsbD_eq
    intro i hi
    rw [Uword.pair, BitVec.getLsbD_extractLsb', decide_eq_true hi, Bool.true_and, show 18 + i = 11 + (7 + i) by omega,
      hhigh (by omega)]
    exact (by decide : ∀ i < 3, (0x111 : BitVec 10).getLsbD (7 + i) = (2 : BitVec 3).getLsbD i) i hi
  · apply BitVec.eq_of_getLsbD_eq
    intro i hi
    rw [BitVec.getLsbD_extractLsb', decide_eq_true hi, Bool.true_and, show 15 + i = 11 + (4 + i) by omega,
      hhigh (by omega)]
    exact (by decide : ∀ i < 3, (0x111 : BitVec 10).getLsbD (4 + i) = (1 : BitVec 3).getLsbD i) i hi
  · apply BitVec.eq_of_getLsbD_eq
    intro i hi
    rw [Uword.dInput, BitVec.getLsbD_extractLsb', decide_eq_true hi, Bool.true_and]
    obtain rfl | rfl | rfl : i = 0 ∨ i = 1 ∨ i = 2 := by omega
    · exact hten
    · exact hhigh (by decide : 0 < 10)
    · exact hhigh (by decide : 1 < 10)

theorem ControlLine.datapath (h : ControlLine t cmd f addr labels v edges) (hcmd : t.upper cmd = cmd)
    (hgiven : ∀ key, f.has key = true → key ∈ allowedOf cmd) (hlabels : Named labels) :
    datapathOf cmd = (if (v.uword cmd).fetching then (v.uword cmd).pair else 0, (v.uword cmd).destination,
      if (v.uword cmd).fetching then (v.uword cmd).dInput else 0) := by
  rw [Uword.destination, h.fits.control, h.fetching hcmd, datapathOf]
  by_cases hfetch : cmd = "FETCH"
  · obtain ⟨hpair, hdst, hd⟩ := h.fetch_fields hgiven hlabels hfetch
    rw [hpair, hdst, hd, decide_eq_true hfetch, if_pos hfetch]
    rfl
  · rw [decide_eq_false hfetch, if_neg hfetch]
    rfl

theorem ControlLine.selectors (h : ControlLine t cmd f addr labels v edges) :
    f.value "a" (if cmd = "FETCH" then 7 else 0) (codeOf t selectorCodes) = some (v.uword cmd).aSelect ∧
      f.value "b" (if cmd = "FETCH" then 7 else 0) (codeOf t selectorCodes) = some (v.uword cmd).bSelect := by
  have hcodes : selectorCodes = registers.map fun p => (p.1, BitVec.ofNat 5 p.2) := by decide
  have ha : (v.uword cmd).aSelect = BitVec.ofNat 5 v.a :=
    h.fits.extract ⟨26, 5, v.a⟩ (by simp [ControlValues.parts]) (by simp)
  have hb : (v.uword cmd).bSelect = BitVec.ofNat 5 v.b :=
    h.fits.extract ⟨21, 5, v.b⟩ (by simp [ControlValues.parts]) (by simp)
  have hga := h.a
  have hgb := h.b
  rw [ha, hb]
  unfold defaultOf at hga hgb
  split at hga
  · rename_i hfetch
    rw [if_pos hfetch] at hgb ⊢
    exact ⟨value_enum (d := 7) _ hcodes rfl (by decide) hga, value_enum (d := 7) _ hcodes rfl (by decide) hgb⟩
  · rename_i hfetch
    rw [if_neg hfetch] at hgb ⊢
    exact ⟨value_enum (d := 0) _ hcodes rfl (by decide) hga, value_enum (d := 0) _ hcodes rfl (by decide) hgb⟩

theorem ControlLine.prefetch_value (h : ControlLine t cmd f addr labels v edges) :
    f.value "prefetch" true (bitOf t) = some (!(v.uword cmd).paused) := by
  have hpause : ∀ n < 2, (1 - n == 1) = !(n == 1) := by decide
  rw [Uword.paused, h.fits.control, h.bit_field (n := 1 - v.prefetch) 4 (by simp [ControlValues.parts]) (by decide),
    Bool.true_and, hpause _ h.fits.prefetch, Bool.not_not]
  exact value_bit (d := 1) number_one h.prefetch

theorem ControlLine.stream_value (h : ControlLine t cmd f addr labels v edges) :
    f.value "stream" false (bitOf t) = some (v.uword cmd).streaming := by
  rw [Uword.streaming, h.fits.control, h.bit_field (n := v.stream) 5 (by simp [ControlValues.parts]) (by decide),
    Bool.true_and]
  exact value_bit (d := 0) number_zero h.stream

theorem ControlLine.denotes (h : ControlLine t cmd f addr labels v edges) (hcmd : t.upper cmd = cmd)
    (hgiven : ∀ key, f.has key = true → key ∈ allowedOf cmd) (hlabels : Named labels) :
    denoteControl t cmd f labels = some (v.uword cmd).operation := by
  have hcommand : codeOf t commandCodes cmd = some (v.uword cmd).command := by
    rw [codeOf, show commandCodes = commands.map fun p => (p.1, BitVec.ofNat 4 p.2) by decide, lookup_map,
      enum_ok.mp h.command, h.fits.commandBits]
    rfl
  obtain ⟨ha, hb⟩ := h.selectors
  have hpath := h.datapath hcmd hgiven hlabels
  simp only [denoteControl, hcommand, ha, hb, h.target_value hcmd hgiven hlabels, h.condition hcmd hgiven,
    h.byte_forced hcmd hgiven, h.byte_ir hcmd hgiven, h.space_value hcmd hgiven, h.stream_value,
    h.fault_value hcmd hgiven, h.prefetch_value, h.init_value hcmd hgiven, h.service_value hcmd hgiven, hpath,
    Option.bind_eq_bind, Option.bind_some, Option.pure_def, Bool.not_not]
  rw [Uword.operation, h.fits.control, if_pos rfl, Uword.controlOperation]

end

/-! ## Accepted lines -/

variable {line : String} {word : Nat}

theorem denote_alu (halu : commandOf t line = "ALU") (hf : fields t (argsOf t line) aluFields = .ok f) :
    denote t line labels = denoteAlu t ((headOf t line).getD 1 "") f labels := by
  rw [denote, if_pos halu, hf, Except.toOption, Option.bind_some]

theorem denote_control (hcontrol : commandOf t line ≠ "ALU")
    (hf : fields t (argsOf t line) (allowedOf (commandOf t line)) = .ok f) :
    denote t line labels = denoteControl t (commandOf t line) f labels := by
  rw [denote, if_neg hcontrol, hf, Except.toOption, Option.bind_some]

theorem encode_denotes (hlabels : Named labels) (h : encode t line addr labels = .ok (word, edges)) :
    denote t line labels = some (Uword.operation (BitVec.ofNat 36 word)) := by
  rcases encode_ok h with ⟨halu, -, f, v, hf, hword, hline⟩ | ⟨hcontrol, hlength, f, v, hf, hword, hline⟩
  · rw [denote_alu halu hf, hline.denotes, hword, AluValues.uword]
  · rw [denote_control hcontrol hf, hline.denotes (upper_command hlength) (fields_allowed hf) hlabels, hword,
      ControlValues.uword]

theorem encode_lt (h : encode t line addr labels = .ok (word, edges)) : word < 2 ^ 36 := by
  rcases encode_ok h with ⟨-, -, f, v, -, hword, hline⟩ | ⟨-, -, f, v, -, hword, hline⟩
  · rw [hword]
    exact hline.fits.word_lt
  · rw [hword]
    exact hline.fits.word_lt

theorem AluContext.page_edge {din seq low : Nat} (h : AluContext t f addr labels din seq low edges) (hseq : seq = 1) :
    ∃ target : Nat, number t (f.get "next" "") (some labels) = .ok (target : Int) ∧ edges = [target] := by
  cases h with
  | page target _ _ _ _ _ hvalue => exact ⟨target, hvalue, rfl⟩
  | imm _ _ hne => exact absurd hseq hne
  | status _ hother => omega
  | trace => omega
  | plain _ hne => exact absurd hseq hne

/-- A page target is the full address that the line names. -/
theorem page_exact {i : MicroseqIn} {m : Microseq} {target : Nat}
    (h : encode t line addr labels = .ok (word, edges)) (htarget : pageTarget t line labels = some target)
    (hquiet : Quiet i) (hupc : m.upc.toNat = addr) : (nextAddress (BitVec.ofNat 36 word) i m).toNat = target := by
  unfold pageTarget at htarget
  rcases encode_ok h with ⟨halu, -, f, v, hf, hword, hline⟩ | ⟨hcontrol, -, -⟩
  · rw [if_pos halu, hf] at htarget
    have hnamed : (f.lookup "next").bind (numberOf t (some labels)) = some target := htarget
    cases hkey : f.lookup "next" with
    | none =>
      rw [hkey] at hnamed
      cases hnamed
    | some text =>
      have hgiven : f.has "next" = true := by rw [Fields.has, hkey]; rfl
      have hget : f.get "next" "" = text := by rw [Fields.get, hkey]; rfl
      have hpage : v.seq = 1 := Decidable.not_not.mp fun hne => by
        rw [hline.next hne] at hgiven
        cases hgiven
      obtain ⟨value, hvalue, rfl⟩ := hline.context.page_edge hpage
      rw [hkey] at hnamed
      have hsame : numberOf t (some labels) text = some target := hnamed
      rw [hget] at hvalue
      rw [numberOf, hvalue] at hsame
      rw [hword, ← Option.some.inj hsame]
      exact List.mem_singleton.mp (hline.goesOn hquiet hupc)
  · rw [if_neg hcontrol] at htarget
    cases htarget

def readLine : String := "read, target=$21, a=RS, byte=IR, fault_inc=1"

end K1801.Uj11.Microasm
