import K1801.Library.BitFields
import K1801.Library.Checks
import K1801.Uj11.Microasm

/-! # Accepted lines of microcode

What the checks of `encode` say: the values of the fields of a line that it accepts, and their bounds.
-/

namespace K1801.Uj11.Microasm

open Library

variable {t : Text} {f : Fields} {labels : Labels} {addr : Nat} {edges : List Nat}

theorem raiseIf_ok {c : Prop} [Decidable c] {message : String} {u : Unit} : raiseIf c message = .ok u ↔ ¬ c := by
  unfold raiseIf
  split <;> simp_all

theorem enum_ok {value : String} {table : Table} {code : Nat} :
    enum t value table = .ok code ↔ table.lookup (t.upper value) = some code := by
  unfold enum
  cases table.lookup (t.upper value) <;> simp

theorem bounded_ok {value : Int} {bits n : Nat} {name : String} :
    bounded value bits name = .ok n ↔ value = n ∧ n < 2 ^ bits := by
  unfold bounded
  rw [Nat.one_shiftLeft]
  split
  · rename_i hrange
    have hcast : (2 ^ bits : Nat) = (2 : Int) ^ bits := by push_cast; rfl
    simp only [Except.ok.injEq]
    omega
  · rename_i hrange
    have hcast : (2 ^ bits : Nat) = (2 : Int) ^ bits := by push_cast; rfl
    simp only [reduceCtorEq, false_iff]
    omega

theorem lookup_mem {table : Table} {name : String} {code : Nat} (h : table.lookup name = some code) :
    (name, code) ∈ table := by
  obtain ⟨before, after, rfl, -⟩ := List.lookup_eq_some_iff.mp h
  simp

theorem enum_lt {value : String} {table : Table} {code bound : Nat} (htable : ∀ p ∈ table, p.2 < bound)
    (h : enum t value table = .ok code) : code < bound :=
  htable _ (lookup_mem (enum_ok.mp h))

theorem bit_ok {key default : String} {n : Nat} :
    bit t f key default = .ok n ↔ number t (f.get key default) none = .ok (n : Int) ∧ n < 2 := by
  simp only [bit, bind_ok, bounded_ok]
  grind

/-! ## Fields -/

theorem Fields.has_append (f : Fields) (key value other : String) :
    Fields.has (f ++ [(key, value)]) other = (f.has other || other == key) := by
  unfold Fields.has
  rw [List.lookup_append]
  cases f.lookup other with
  | some v => rfl
  | none => cases hkey : other == key <;> simp [List.lookup_cons, hkey]

theorem fieldsFrom_allowed {allowed parts : List String} {f g : Fields} (h : fieldsFrom t allowed parts f = .ok g)
    (hf : ∀ key, f.has key = true → key ∈ allowed) : ∀ key, g.has key = true → key ∈ allowed := by
  induction parts generalizing f with
  | nil =>
    cases h
    exact hf
  | cons part parts ih =>
    simp only [fieldsFrom, bind_ok, raiseIf_ok] at h
    obtain ⟨-, -, -, hallowed, -, -, -, -, h⟩ := h
    refine ih h fun key hkey => ?_
    rw [Fields.has_append, Bool.or_eq_true, beq_iff_eq] at hkey
    rcases hkey with hkey | rfl
    · exact hf key hkey
    · exact not_not.mp hallowed

/-- Only the fields of its command stand in a line. -/
theorem fields_allowed {allowed parts : List String} (h : fields t parts allowed = .ok f) :
    ∀ key, f.has key = true → key ∈ allowed :=
  fieldsFrom_allowed h (by simp [Fields.has])

theorem Fields.get_absent {key default : String} (h : f.has key = false) : f.get key default = default := by
  unfold Fields.get
  rw [Fields.has, Option.isSome_eq_false_iff, Option.isNone_iff_eq_none] at h
  rw [h]
  rfl

/-! ## ALU lines -/

/-- Where an ALU word goes on unless it names a page target. -/
def aluEdges (seq addr : Nat) : List Nat :=
  (if seq = 2 then fetchAddress else (addr + 1) &&& 1023) :: if seq = 3 then [fetchAddress] else []

/-- The low bits of an ALU word and where it goes on, by its sequencing and its D input. -/
inductive AluContext (t : Text) (f : Fields) (addr : Nat) (labels : Labels) (din : Nat) : Nat → Nat → List Nat → Prop
  | page (target : Nat) (hnext : f.has "next" = true) (hdin : din ≠ 6) (himm : f.has "imm" = false)
      (hstatus : t.upper (f.get "d" "ZERO") ≠ "STATUS") (htrace : f.has "trace" = false)
      (hvalue : number t (f.get "next" "") (some labels) = .ok (target : Int)) (hlt : target < 1024)
      (hpage : target >>> 8 = addr >>> 8) : AluContext t f addr labels din 1 (target &&& 255) [target]
  | imm (seq n : Nat) (hseq : seq ≠ 1) (hdin : din = 6) (hgiven : f.has "imm" = true)
      (htrace : f.has "trace" = false) (hvalue : number t (f.get "imm" "") (some labels) = .ok (n : Int))
      (hlt : n < 256) : AluContext t f addr labels din seq n (aluEdges seq addr)
  | status (seq : Nat) (hseq : seq = 0 ∨ seq = 2) (hdin : din ≠ 6) (himm : f.has "imm" = false)
      (hstatus : t.upper (f.get "d" "ZERO") = "STATUS") (htrace : f.has "trace" = false) :
      AluContext t f addr labels din seq 128 (aluEdges seq addr)
  | trace (hdin : din ≠ 6) (himm : f.has "imm" = false) (hstatus : t.upper (f.get "d" "ZERO") ≠ "STATUS")
      (htrace : f.has "trace" = true) (hreturn : t.upper (f.get "trace" "") = "RETURN")
      (hflags : t.upper (f.get "flags" "KEEP") = "KEEP") : AluContext t f addr labels din 2 1 (aluEdges 2 addr)
  | plain (seq : Nat) (hseq : seq ≠ 1) (hdin : din ≠ 6) (himm : f.has "imm" = false)
      (hstatus : t.upper (f.get "d" "ZERO") ≠ "STATUS") (htrace : f.has "trace" = false) :
      AluContext t f addr labels din seq 0 (aluEdges seq addr)

/-- The values of the fields of an ALU word. -/
structure AluValues where
  op : Nat
  a : Nat
  b : Nat
  pair : Nat
  dst : Nat
  flags : Nat
  din : Nat
  seq : Nat
  low : Nat

def AluValues.word (v : AluValues) : Nat := aluWord v.op v.a v.b v.pair v.dst v.flags v.din v.seq v.low

/-- A line `alu op` with these fields has these values. -/
structure AluLine (t : Text) (op : String) (f : Fields) (addr : Nat) (labels : Labels) (v : AluValues)
    (edges : List Nat) : Prop where
  op : enum t op ops = .ok v.op
  a : enum t (f.get "a" "R0") registers = .ok v.a
  b : enum t (f.get "b" "R0") registers = .ok v.b
  pair : enum t (f.get "pair" "AB") pairs = .ok v.pair
  dst : enum t (f.get "dst" "NONE") dests = .ok v.dst
  flags : enum t (f.get "flags" "KEEP") Microasm.flags = .ok v.flags
  din : enum t (f.get "d" "ZERO") dinput = .ok v.din
  seq : enum t (f.get "seq" "NEXT") seqs = .ok v.seq
  next : v.seq ≠ 1 → f.has "next" = false
  context : AluContext t f addr labels v.din v.seq v.low edges

theorem aluNext_page {din low : Nat} (h : aluNext t f 1 din addr labels = .ok (low, edges)) :
    ∃ target : Nat, f.has "next" = true ∧ f.has "imm" = false ∧ din ≠ 6 ∧
      number t (f.get "next" "") (some labels) = .ok (target : Int) ∧ target < 1024 ∧ target >>> 8 = addr >>> 8 ∧
      low = target &&& 255 ∧ edges = [target] := by
  simp only [aluNext, if_true, bind_ok, raiseIf_ok, bounded_ok, pure_ok, Prod.mk.injEq] at h
  obtain ⟨-, hfields, value, hvalue, target, ⟨rfl, hlt⟩, -, hpage, rfl, rfl⟩ := h
  refine ⟨target, ?_, ?_, ?_, hvalue, hlt, ?_, rfl, rfl⟩
  · grind
  · grind
  · grind
  · exact not_not.mp hpage

theorem aluNext_plain {seq din low : Nat} (hseq : seq ≠ 1) (h : aluNext t f seq din addr labels = .ok (low, edges)) :
    f.has "next" = false ∧ low = 0 ∧ edges = aluEdges seq addr := by
  simp only [aluNext, if_neg hseq, bind_ok, raiseIf_ok, pure_ok, Prod.mk.injEq] at h
  obtain ⟨-, habsent, rfl, rfl⟩ := h
  exact ⟨by simpa using habsent, rfl, rfl⟩

theorem aluImmediate_given {low n : Nat} (h : aluImmediate t f 6 low labels = .ok n) :
    f.has "imm" = true ∧ number t (f.get "imm" "") (some labels) = .ok (n : Int) ∧ n < 256 := by
  simp only [aluImmediate, if_true, bind_ok, raiseIf_ok, bounded_ok] at h
  obtain ⟨-, hgiven, value, hvalue, rfl, hlt⟩ := h
  exact ⟨by simpa using hgiven, hvalue, hlt⟩

theorem aluImmediate_absent {din low n : Nat} (hdin : din ≠ 6) (h : aluImmediate t f din low labels = .ok n) :
    f.has "imm" = false ∧ n = low := by
  simp only [aluImmediate, if_neg hdin, bind_ok, raiseIf_ok, pure_ok] at h
  obtain ⟨-, habsent, rfl⟩ := h
  exact ⟨by simpa using habsent, rfl⟩

theorem aluStatus_ok {seq low n : Nat} (h : aluStatus t f seq low = .ok n) :
    (t.upper (f.get "d" "ZERO") = "STATUS" ∧ (seq = 0 ∨ seq = 2) ∧ f.has "trace" = false ∧ n = 128) ∨
      (t.upper (f.get "d" "ZERO") ≠ "STATUS" ∧ n = low) := by
  unfold aluStatus at h
  split at h
  · rename_i hstatus
    simp only [bind_ok, raiseIf_ok, pure_ok] at h
    obtain ⟨-, hallowed, rfl⟩ := h
    exact .inl ⟨hstatus, by grind, by grind, rfl⟩
  · rename_i hstatus
    exact .inr ⟨hstatus, (pure_ok.mp h).symm⟩

theorem aluTrace_ok {seq din low n : Nat} (h : aluTrace t f seq din low = .ok n) :
    (f.has "trace" = true ∧ t.upper (f.get "trace" "") = "RETURN" ∧ seq = 2 ∧ din ≠ 6 ∧
        t.upper (f.get "flags" "KEEP") = "KEEP" ∧ n = 1) ∨
      (f.has "trace" = false ∧ n = low) := by
  unfold aluTrace at h
  split at h
  · rename_i htrace
    simp only [bind_ok, raiseIf_ok, pure_ok, enum_ok] at h
    obtain ⟨code, hcode, -, hallowed, rfl⟩ := h
    have hname := lookup_mem hcode
    refine .inl ⟨htrace, ?_, ?_, ?_, ?_, rfl⟩
    all_goals grind
  · rename_i htrace
    exact .inr ⟨by simpa using htrace, (pure_ok.mp h).symm⟩

theorem aluContext_of {seq din low₀ low₁ low₂ low₃ : Nat}
    (hdin : t.upper (f.get "d" "ZERO") = "STATUS" → din ≠ 6)
    (hnext : aluNext t f seq din addr labels = .ok (low₀, edges))
    (himm : aluImmediate t f din low₀ labels = .ok low₁) (hstatus : aluStatus t f seq low₁ = .ok low₂)
    (htrace : aluTrace t f seq din low₂ = .ok low₃) : AluContext t f addr labels din seq low₃ edges := by
  rcases aluStatus_ok hstatus with ⟨hgiven, hseq, hquiet, rfl⟩ | ⟨hother, rfl⟩
  · have hne := hdin hgiven
    obtain ⟨-, -, rfl⟩ := aluNext_plain (by omega) hnext
    rcases aluTrace_ok htrace with ⟨htraced, -⟩ | ⟨-, rfl⟩
    · exact absurd (hquiet.symm.trans htraced) (by decide)
    · exact .status seq hseq hne (aluImmediate_absent hne himm).1 hgiven hquiet
  · rcases aluTrace_ok htrace with ⟨htraced, hreturn, rfl, hne, hflags, rfl⟩ | ⟨hquiet, rfl⟩
    · obtain ⟨-, -, rfl⟩ := aluNext_plain (by decide) hnext
      exact .trace hne (aluImmediate_absent hne himm).1 hother htraced hreturn hflags
    · by_cases hpaged : seq = 1
      · subst hpaged
        obtain ⟨target, hgiven, habsent, hne, hvalue, hlt, hpage, rfl, rfl⟩ := aluNext_page hnext
        obtain ⟨-, rfl⟩ := aluImmediate_absent hne himm
        exact .page target hgiven hne habsent hother hquiet hvalue hlt hpage
      · obtain ⟨-, rfl, rfl⟩ := aluNext_plain hpaged hnext
        by_cases hsix : din = 6
        · subst hsix
          obtain ⟨hgiven, hvalue, hlt⟩ := aluImmediate_given himm
          exact .imm seq _ hpaged rfl hgiven hquiet hvalue hlt
        · obtain ⟨habsent, rfl⟩ := aluImmediate_absent hsix himm
          exact .plain seq hpaged hsix habsent hother hquiet

/-- An accepted ALU line. -/
theorem encodeAlu_ok {headparts args : List String} {word : Nat}
    (h : encodeAlu t headparts args addr labels = .ok (word, edges)) :
    ∃ f v, headparts.length = 2 ∧ fields t args aluFields = .ok f ∧ word = AluValues.word v ∧
      AluLine t (headparts.getD 1 "") f addr labels v edges := by
  simp only [encodeAlu, bind_ok, raiseIf_ok, pure_ok, Prod.mk.injEq] at h
  obtain ⟨-, hlength, f, hf, seq, hseq, din, hdin, -, hzq, ⟨low₀, edges₀⟩, hnext, low₁, himm, low₂, hstatus, low,
    htrace, op, hop, a, ha, b, hb, pair, hpair, dst, hdst, flag, hflag, rfl, rfl⟩ := h
  have hsix : t.upper (f.get "d" "ZERO") = "STATUS" → din ≠ 6 := by
    intro hstatus
    rw [enum_ok, hstatus] at hdin
    exact (Option.some.inj hdin) ▸ by decide
  exact ⟨f, ⟨op, a, b, pair, dst, flag, din, seq, low⟩, not_not.mp hlength, hf, rfl, hop, ha, hb, hpair, hdst, hflag,
    hdin, hseq, fun hpage => (aluNext_plain hpage hnext).1, aluContext_of hsix hnext himm hstatus htrace⟩

/-! ## Control lines -/

/-- The values of the fields of a control word. -/
structure ControlValues where
  command : Nat
  target : Nat
  cond : Nat
  a : Nat
  b : Nat
  byteFixed : Nat
  byteAuto : Bool
  stream : Nat
  faultInc : Nat
  prefetch : Nat
  init : Nat
  space : Nat
  service : Nat

def ControlValues.word (cmd : String) (v : ControlValues) : Nat :=
  let word := controlWord v.command v.target v.cond v.a v.b v.byteFixed v.byteAuto.toNat v.stream v.faultInc v.prefetch
    v.init v.space v.service
  if cmd = "FETCH" then word ||| fetchFields else word

/-- The selector that a control line leaves out. -/
def defaultOf (cmd : String) : String := if cmd = "FETCH" then "R7" else "R0"

/-- A line of a command with these fields has these values. -/
structure ControlLine (t : Text) (cmd : String) (f : Fields) (addr : Nat) (labels : Labels) (v : ControlValues)
    (edges : List Nat) : Prop where
  command : enum t cmd commands = .ok v.command
  init : bit t f "init" "0" = .ok v.init
  byteAuto : byteIr t f = v.byteAuto
  byteFixed : byteGiven t f = .ok v.byteFixed
  stream : bit t f "stream" "0" = .ok v.stream
  faultInc : bit t f "fault_inc" "0" = .ok v.faultInc
  space : enum t (f.get "space" "ACTIVE") spaces = .ok v.space
  service : enum t (f.get "service" "NONE") services = .ok v.service
  next : controlNext t f cmd addr labels = .ok (v.target, edges)
  cond : enum t (f.get "cond" "ALWAYS") conds = .ok v.cond
  a : enum t (f.get "a" (defaultOf cmd)) registers = .ok v.a
  b : enum t (f.get "b" (defaultOf cmd)) registers = .ok v.b
  prefetch : bit t f "prefetch" "1" = .ok v.prefetch

/-- An accepted control line. -/
theorem encodeControl_ok {headparts args : List String} {word : Nat}
    (h : encodeControl t headparts args addr labels = .ok (word, edges)) :
    ∃ f v, headparts.length = 1 ∧ fields t args (allowedOf (headparts.getD 0 "")) = .ok f ∧
      word = ControlValues.word (headparts.getD 0 "") v ∧
      ControlLine t (headparts.getD 0 "") f addr labels v edges := by
  simp only [encodeControl, bind_ok, raiseIf_ok, pure_ok, Prod.mk.injEq] at h
  obtain ⟨-, hlength, ci, hci, f, hf, init, hinit, -, -, byteFixed, hbyte, stream, hstream, faultInc, hfault, space,
    hspace, service, hservice, -, -, -, -, -, -, ⟨target, edges'⟩, hnext, cond, hcond, a, ha, b, hb, prefetch, hprefetch,
    rfl, rfl⟩ := h
  exact ⟨f, ⟨ci, target, cond, a, b, byteFixed, byteIr t f, stream, faultInc, prefetch, init, space, service⟩,
    not_not.mp hlength, hf, rfl, hci, hinit, rfl, hbyte, hstream, hfault, hspace, hservice, hnext, hcond, ha, hb,
    hprefetch⟩

/-! ## Lines -/

/-- The words before the fields of a line, in upper case. -/
def headOf (t : Text) (line : String) : List String := t.words (t.upper (((Text.split ',' line).map t.strip).headD ""))

def argsOf (t : Text) (line : String) : List String := ((Text.split ',' line).map t.strip).tail

def commandOf (t : Text) (line : String) : String := (headOf t line).headD ""

theorem encode_ok {line : String} {word : Nat} (h : encode t line addr labels = .ok (word, edges)) :
    (commandOf t line = "ALU" ∧ (headOf t line).length = 2 ∧
        ∃ f v, fields t (argsOf t line) aluFields = .ok f ∧ word = AluValues.word v ∧
          AluLine t ((headOf t line).getD 1 "") f addr labels v edges) ∨
      (commandOf t line ≠ "ALU" ∧ (headOf t line).length = 1 ∧
        ∃ f v, fields t (argsOf t line) (allowedOf (commandOf t line)) = .ok f ∧
          word = ControlValues.word (commandOf t line) v ∧
          ControlLine t (commandOf t line) f addr labels v edges) := by
  simp only [encode, bind_ok, raiseIf_ok] at h
  obtain ⟨-, hne, h⟩ := h
  split at h
  · rename_i halu
    obtain ⟨f, v, hlength, hf, hword, hline⟩ := encodeAlu_ok h
    exact .inl ⟨halu, hlength, f, v, hf, hword, hline⟩
  · rename_i hcontrol
    obtain ⟨f, v, hlength, hf, hword, hline⟩ := encodeControl_ok h
    have hhead : (headOf t line).getD 0 "" = commandOf t line := by
      unfold commandOf
      cases headOf t line <;> rfl
    exact .inr ⟨hcontrol, hlength, f, v, hhead ▸ hf, hhead ▸ hword, hhead ▸ hline⟩

theorem mem_of_mem_splitOnP {α : Type} {p : α → Bool} {xs part : List α} (hpart : part ∈ xs.splitOnP p) {x : α}
    (hx : x ∈ part) : x ∈ xs := by
  induction xs generalizing part with
  | nil =>
    rw [List.splitOnP_nil, List.mem_singleton] at hpart
    exact hpart ▸ hx
  | cons y ys ih =>
    rw [List.splitOnP_cons_eq_if_modifyHead] at hpart
    split at hpart
    · rcases List.mem_cons.mp hpart with rfl | hpart
      · cases hx
      · exact List.mem_cons_of_mem _ (ih hpart hx)
    · cases hsplit : ys.splitOnP p with
      | nil => exact absurd hsplit (List.splitOnP_ne_nil p ys)
      | cons first rest =>
        rw [hsplit] at hpart ih
        rcases List.mem_cons.mp hpart with rfl | hpart
        · rcases List.mem_cons.mp hx with rfl | hx
          · exact List.mem_cons_self
          · exact List.mem_cons_of_mem _ (ih List.mem_cons_self hx)
        · exact List.mem_cons_of_mem _ (ih (List.mem_cons_of_mem _ hpart) hx)

theorem upper_of_fixed {s : String} (h : ∀ c ∈ s.toList, t.upperChar c = [c]) : t.upper s = s := by
  have hchars : s.toList.flatMap t.upperChar = s.toList := by
    generalize s.toList = cs at h
    induction cs with
    | nil => rfl
    | cons c cs ih =>
      rw [List.flatMap_cons, h c List.mem_cons_self, ih fun d hd => h d (List.mem_cons_of_mem _ hd)]
      rfl
  unfold Text.upper
  rw [hchars, String.ofList_toList]

/-- The words before the fields are in upper case. -/
theorem upper_head {line w : String} (hw : w ∈ headOf t line) : t.upper w = w := by
  unfold headOf Text.words at hw
  obtain ⟨part, hpart, rfl⟩ := List.mem_map.mp hw
  refine upper_of_fixed fun c hc => ?_
  rw [String.toList_ofList] at hc
  have hmem := mem_of_mem_splitOnP (List.mem_filter.mp hpart).1 hc
  rw [Text.upper, String.toList_ofList] at hmem
  obtain ⟨d, -, hd⟩ := List.mem_flatMap.mp hmem
  exact t.upper_fixed d c hd

theorem upper_command {line : String} (hlength : (headOf t line).length = 1) :
    t.upper (commandOf t line) = commandOf t line := by
  obtain ⟨w, hw⟩ := List.length_eq_one_iff.mp hlength
  refine @upper_head t line _ ?_
  rw [commandOf, hw]
  exact List.mem_singleton_self w

end K1801.Uj11.Microasm
