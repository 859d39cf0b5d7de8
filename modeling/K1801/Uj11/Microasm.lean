import Mathlib.Data.List.DropRight
import Mathlib.Data.List.Sort
import Mathlib.Data.List.SplitOn
import Mathlib.Data.Nat.Bitwise

/-! # The microassembler

`uj11asm.py`: one microinstruction a line, encoded into 36 bits together with the addresses that control may go on
to. An `AssemblyError` is an error with its message. Of Python's text functions those that depend on Unicode are
parameters.
-/

namespace K1801.Uj11.Microasm

abbrev Checked := Except String

def raiseIf (c : Prop) [Decidable c] (message : String) : Checked Unit := if c then .error message else .ok ()

/-! ## Python's text functions -/

/-- `str.upper`, `str.lower`, `str.isspace`, `str.splitlines` and `int`. A letter in upper case stays as it is, a
character of ASCII has its upper case in ASCII, no space is a letter or a digit, and a digit is read as itself. -/
structure Text where
  upperChar : Char → List Char
  upper_fixed : ∀ c, ∀ d ∈ upperChar c, upperChar d = [d]
  upper_ascii : ∀ c : Char, c.toNat < 128 → upperChar c = [c.toUpper]
  lower : String → String
  isSpace : Char → Bool
  space_ascii : ∀ c : Char, c.toNat < 128 → c.isAlphanum = true → isSpace c = false
  splitlines : String → List String
  int : String → Nat → Option Int
  int_digit : ∀ c : Char, c.isDigit = true → int (String.singleton c) 0 = some (c.toNat - '0'.toNat : Nat)

namespace Text

variable (t : Text)

def upper (s : String) : String := String.ofList (s.toList.flatMap t.upperChar)

def strip (s : String) : String := String.ofList ((s.toList.dropWhile t.isSpace).rdropWhile t.isSpace)

/-- `s.split()` -/
def words (s : String) : List String :=
  ((s.toList.splitOnP t.isSpace).filter (· ≠ [])).map String.ofList

/-- `s.split(c)` -/
def split (c : Char) (s : String) : List String := (s.toList.splitOnP (· == c)).map String.ofList

/-- `s.split(c, 1)` -/
def splitOnce (c : Char) (s : String) : String × String :=
  (String.ofList (s.toList.takeWhile (· != c)), String.ofList (s.toList.dropWhile (· != c)).tail)

def contains (c : Char) (s : String) : Bool := s.toList.contains c

end Text

/-! ### Sources in ASCII -/

def digitOf (c : Char) : Nat := if c.isDigit then c.toNat - 48 else if c.isUpper then c.toNat - 55 else 36

def digitsOf (base : Nat) (cs : List Char) : Option Int :=
  if cs ≠ [] ∧ cs.all (digitOf · < base) = true then some (cs.foldl (fun n c => n * base + digitOf c) 0 : Nat) else none

/-- A numeral without a sign, in upper case. -/
def asciiInt (s : String) (base : Nat) : Option Int :=
  if base = 0 then
    match s.toList with
    | '0' :: 'X' :: digits => digitsOf 16 digits
    | '0' :: 'O' :: digits => digitsOf 8 digits
    | '0' :: 'B' :: digits => digitsOf 2 digits
    | '0' :: d :: digits => if (d :: digits).all (· == '0') = true then some 0 else none
    | digits => digitsOf 10 digits
  else digitsOf base s.toList

def asciiSpace (c : Char) : Bool := (9 ≤ c.toNat && c.toNat ≤ 13) || (28 ≤ c.toNat && c.toNat ≤ 32)

def asciiLines (s : String) : List String :=
  let lines := s.toList.splitOnP (· == '\n')
  (if lines.getLast? = some [] then lines.dropLast else lines).map String.ofList

theorem toUpper_twice (c : Char) : c.toUpper.toUpper = c.toUpper := by
  by_cases h : 'a'.val ≤ c.val ∧ c.val ≤ 'z'.val
  · obtain ⟨valid, hup⟩ : ∃ valid, c.toUpper = ⟨c.val + ('A'.val - 'a'.val), valid⟩ := ⟨_, dif_pos h⟩
    have hout : ¬ ('a'.val ≤ c.toUpper.val ∧ c.toUpper.val ≤ 'z'.val) := by
      rw [hup]
      have hlow := UInt32.le_iff_toNat_le.mp h.1
      have hhigh := UInt32.le_iff_toNat_le.mp h.2
      rw [UInt32.le_iff_toNat_le, UInt32.le_iff_toNat_le, UInt32.toNat_add]
      simp at *
      omega
    exact dif_neg hout
  · have hsame : c.toUpper = c := dif_neg h
    rw [hsame, hsame]

theorem asciiSpace_alphanum {c : Char} (h : c.isAlphanum = true) : asciiSpace c = false := by
  change (decide (65 ≤ c.val ∧ c.val ≤ 90) || decide (97 ≤ c.val) && decide (c.val ≤ 122) ||
    decide (48 ≤ c.val) && decide (c.val ≤ 57)) = true at h
  simp only [Bool.or_eq_true, Bool.and_eq_true, decide_eq_true_eq, UInt32.le_iff_toNat_le] at h
  have hvalue : c.toNat = c.val.toNat := rfl
  simp [asciiSpace] at h ⊢
  omega

theorem digitsOf_digit {c : Char} (h : c.isDigit = true) : digitsOf 10 [c] = some (c.toNat - '0'.toNat : Nat) := by
  have hlt : c.toNat - 48 < 10 := by
    simp only [Char.isDigit, Bool.and_eq_true, decide_eq_true_eq, UInt32.le_iff_toNat_le] at h
    have hvalue : c.toNat = c.val.toNat := rfl
    simp at h
    omega
  simp [digitsOf, digitOf, h, hlt]

theorem asciiInt_digit {c : Char} (h : c.isDigit = true) :
    asciiInt (String.singleton c) 0 = some (c.toNat - '0'.toNat : Nat) := by
  rw [← digitsOf_digit h, asciiInt, if_pos rfl, String.toList_singleton]
  split <;> simp_all

/-- Text of ASCII characters. -/
def asciiText : Text where
  upperChar c := [c.toUpper]
  upper_fixed c d hd := by
    rw [List.mem_singleton.mp hd, toUpper_twice]
  upper_ascii _ _ := rfl
  lower s := String.ofList (s.toList.map Char.toLower)
  isSpace := asciiSpace
  space_ascii _ _ halnum := asciiSpace_alphanum halnum
  splitlines := asciiLines
  int := asciiInt
  int_digit _ hdigit := asciiInt_digit hdigit

/-! ## Tables -/

abbrev Table := List (String × Nat)

def enumerate (names : List String) : Table := names.zipIdx

def ops : Table :=
  enumerate ["PASSA", "PASSB", "ADD", "ADC", "SUB", "SBC", "AND", "OR", "XOR", "BIC", "NOTA", "LSL", "LSR", "ASR",
    "ROL", "ROR"]

def commands : Table :=
  enumerate ["JUMP", "CJUMP", "FETCH", "RETURN", "DISPATCH", "OR_MS", "OR_MD", "OR_RR", "OR_BT", "OR_R67", "CALL",
    "READ", "WRITE", "STOP", "WAIT", "TRAP"]

def pairs : Table := enumerate ["AB", "AQ", "AD", "DB", "ZB", "ZQ", "DA", "BA"] ++ [("DQ", 5)]

def dests : Table := enumerate ["NONE", "RF", "Q", "RFQ_L", "RFQ_R", "OPERAND", "MOV"]

def flags : Table := enumerate ["KEEP", "NZV", "NZVC", "LOAD"]

def dinput : Table := enumerate ["ZERO", "ONE", "TWO", "STEP", "MDR", "DISP", "IMM", "PSW"] ++ [("STATUS", 0)]

def seqs : Table := enumerate ["NEXT", "PAGE", "FETCH", "FETCH_A1"]

def conds : Table :=
  enumerate ["ALWAYS", "C", "V", "Z", "N", "Q0", "LOOPZ", "ERROR", "NOT_ALWAYS", "NOT_C", "NOT_V", "NOT_Z", "NOT_N",
    "NOT_Q0", "NOT_LOOPZ", "NOT_ERROR"]

def registers : Table :=
  enumerate ["R0", "R1", "R2", "R3", "R4", "R5", "R6", "R7", "T0", "T1", "T2", "T3", "T4", "T5", "T6", "T7", "RS",
    "RD", "RS1", "RD1"]

def spaces : Table := enumerate ["ACTIVE", "GUEST", "UPPER", "LOWER"]

def services : Table := enumerate ["NONE", "ENTER", "LEAVE", "CONFIG"]

def masks : Table := [("OR_MS", 7), ("OR_MD", 7), ("OR_RR", 3), ("OR_BT", 3), ("OR_R67", 1)]

abbrev fetchAddress : Nat := 0x020

def stopWord : Nat := 1 <<< 35 ||| 13 <<< 31

abbrev Labels := List (String × Int)

/-! ## Fields -/

def hexDigits (width n : Nat) : String :=
  let digits := Nat.toDigits 16 n
  String.ofList (List.replicate (width - digits.length) '0' ++ digits)

section

variable (t : Text)

def number (s : String) (labels : Option Labels) : Checked Int :=
  let s := t.upper (t.strip s)
  match labels.bind (List.lookup s) with
  | some value => .ok value
  | none =>
    let value := match s.toList with
      | '$' :: digits => t.int (String.ofList digits) 16
      | _ => t.int s 0
    match value with
    | some value => .ok value
    | none => .error ("unknown symbol or number: " ++ s)

def enum (value : String) (table : Table) : Checked Nat :=
  match table.lookup (t.upper value) with
  | some code => .ok code
  | none => .error ("invalid value " ++ value ++ "; expected " ++ ", ".intercalate (table.map Prod.fst))

def bounded (value : Int) (bits : Nat) (name : String) : Checked Nat :=
  if 0 ≤ value ∧ value < 1 <<< bits then .ok value.toNat
  else .error (name ++ " outside " ++ toString bits ++ "-bit range: " ++ toString value)

abbrev Fields := List (String × String)

/-- `f.get(key, default)` -/
def Fields.get (f : Fields) (key default : String) : String := (f.lookup key).getD default

def Fields.has (f : Fields) (key : String) : Bool := (f.lookup key).isSome

def fieldsFrom (allowed : List String) : List String → Fields → Checked Fields
  | [], result => .ok result
  | part :: parts, result => do
    raiseIf (Text.contains '=' part = false) ("expected field=value: " ++ part)
    let (key, value) := Text.splitOnce '=' part
    let key := t.lower (t.strip key)
    let value := t.strip value
    raiseIf (key ∉ allowed) ("unknown field " ++ key)
    raiseIf (result.has key = true) ("duplicate/conflicting field " ++ key)
    raiseIf (value = "") ("empty field " ++ key)
    fieldsFrom allowed parts (result ++ [(key, value)])

def fields (parts allowed : List String) : Checked Fields := fieldsFrom t allowed parts []

/-! ## ALU words -/

/-- The sequencing: the low bits of a page target, and where control goes on. -/
def aluNext (f : Fields) (seq din addr : Nat) (labels : Labels) : Checked (Nat × List Nat) := do
  if seq = 1 then
    raiseIf (f.has "next" = false ∨ f.has "imm" = true ∨ din = 6) "PAGE needs next and conflicts with IMM"
    let target ← bounded (← number t (f.get "next" "") (some labels)) 10 "next"
    raiseIf (target >>> 8 ≠ addr >>> 8) "PAGE target crosses page; use control JUMP"
    return (target &&& 255, [target])
  else
    raiseIf (f.has "next" = true) "next field requires seq=PAGE"
    return (0, (if seq = 2 then fetchAddress else (addr + 1) &&& 1023) :: if seq = 3 then [fetchAddress] else [])

def aluImmediate (f : Fields) (din low : Nat) (labels : Labels) : Checked Nat := do
  if din = 6 then
    raiseIf (f.has "imm" = false) "d=IMM requires imm"
    bounded (← number t (f.get "imm" "") (some labels)) 8 "imm"
  else
    raiseIf (f.has "imm" = true) "imm requires d=IMM"
    return low

def aluStatus (f : Fields) (seq low : Nat) : Checked Nat := do
  if t.upper (f.get "d" "ZERO") = "STATUS" then
    raiseIf (¬ (seq = 0 ∨ seq = 2) ∨ f.has "trace" = true) "STATUS conflicts with PAGE, FETCH_A1 and trace"
    return 128
  else return low

def aluTrace (f : Fields) (seq din low : Nat) : Checked Nat := do
  if f.has "trace" = true then
    let _ ← enum t (f.get "trace" "") [("RETURN", 1)]
    raiseIf (seq ≠ 2 ∨ din = 6 ∨ t.upper (f.get "flags" "KEEP") ≠ "KEEP")
      "trace=RETURN requires seq=FETCH, flags=KEEP and non-IMM input"
    return 1
  else return low

def aluWord (op a b pair dst flag din seq low : Nat) : Nat :=
  op <<< 31 ||| a <<< 26 ||| b <<< 21 ||| pair <<< 18 ||| dst <<< 15 ||| flag <<< 13 ||| din <<< 10 ||| seq <<< 8 ||| low

def aluFields : List String := ["a", "b", "pair", "dst", "flags", "d", "seq", "next", "imm", "trace"]

def encodeAlu (headparts args : List String) (addr : Nat) (labels : Labels) : Checked (Nat × List Nat) := do
  raiseIf (headparts.length ≠ 2) "expected alu OP, field=value"
  let f ← fields t args aluFields
  let seq ← enum t (f.get "seq" "NEXT") seqs
  let din ← enum t (f.get "d" "ZERO") dinput
  raiseIf (t.upper (f.get "pair" "AB") = "ZQ" ∧ t.upper (f.get "d" "ZERO") ≠ "ZERO")
    "ZQ requires d=ZERO; use DQ for a D/Q operation"
  let (low, edges) ← aluNext t f seq din addr labels
  let low ← aluImmediate t f din low labels
  let low ← aluStatus t f seq low
  let low ← aluTrace t f seq din low
  let op ← enum t (headparts.getD 1 "") ops
  let a ← enum t (f.get "a" "R0") registers
  let b ← enum t (f.get "b" "R0") registers
  let pair ← enum t (f.get "pair" "AB") pairs
  let dst ← enum t (f.get "dst" "NONE") dests
  let flag ← enum t (f.get "flags" "KEEP") flags
  return (aluWord op a b pair dst flag din seq low, edges)

/-! ## Control words -/

/-- The fields that a command takes. -/
def allowedOf (cmd : String) : List String :=
  ["prefetch"] ++
  (if cmd ∈ ["JUMP", "CJUMP", "CALL", "READ", "WRITE", "TRAP"] ∨ (masks.lookup cmd).isSome then ["target"] else []) ++
  (if cmd = "CJUMP" then ["cond"] else []) ++
  (if cmd = "JUMP" then ["init", "service", "a"] else []) ++
  (if cmd ∈ ["READ", "WRITE"] then ["a", "b", "byte", "space"] else []) ++
  (if cmd = "READ" then ["stream", "fault_inc"] else []) ++
  (if cmd = "OR_R67" then ["a"] else [])

/-- A field of one bit. -/
def bit (f : Fields) (key default : String) : Checked Nat := do
  bounded (← number t (f.get key default) none) 1 key

def checkInit (f : Fields) (init : Nat) : Checked Unit := do
  if init ≠ 0 then
    raiseIf ((← bit t f "prefetch" "1") ≠ 0) "init requires prefetch=0"

def checkService (f : Fields) (init service : Nat) : Checked Unit := do
  if service ≠ 0 then
    raiseIf (init ≠ 0 ∨ (← bit t f "prefetch" "1") ≠ 0) "service requires init=0 and prefetch=0"

def byteIr (f : Fields) : Bool := decide (t.upper (f.get "byte" "0") = "IR")

def byteGiven (f : Fields) : Checked Nat := if byteIr t f then pure 0 else bit t f "byte" "0"

/-- Where control goes on from a target: to all that an OR-dispatch makes of it. -/
def targetEdges (f : Fields) (cmd : String) (target : Nat) : Checked (List Nat) :=
  match masks.lookup cmd with
  | some mask => do
    raiseIf (target &&& mask ≠ 0) (cmd ++ " target overlaps OR bits 0x" ++ hexDigits 1 mask)
    return (List.range (mask + 1)).map (target ||| ·)
  | none => return if f.has "target" = true then [target] else []

/-- The target, where control goes on, and the continuation of a branch not taken or of a call. -/
def controlNext (f : Fields) (cmd : String) (addr : Nat) (labels : Labels) : Checked (Nat × List Nat) := do
  raiseIf ("target" ∈ allowedOf cmd ∧ f.has "target" = false) (cmd ++ " requires target")
  raiseIf (cmd = "CJUMP" ∧ f.has "cond" = false) "CJUMP requires cond"
  let target ← bounded (← number t (f.get "target" "0") (some labels)) 10 "target"
  let edges ← targetEdges f cmd target
  return (target, edges ++ if cmd ∈ ["CJUMP", "CALL"] then [(addr + 1) &&& 1023] else [])

def controlWord (ci target cond a b byteFixed byteAuto stream faultInc prefetch init space service : Nat) : Nat :=
  1 <<< 35 ||| ci <<< 31 ||| target <<< 11 ||| cond <<< 7 ||| a <<< 26 ||| b <<< 21 ||| byteFixed <<< 6 |||
    byteAuto <<< 3 ||| stream <<< 5 ||| faultInc <<< 2 ||| (1 - prefetch) <<< 4 ||| init ||| space <<< 7 ||| service <<< 1

/-- `AD`, `RF` and `TWO` in a FETCH -/
def fetchFields : Nat := 2 <<< 18 ||| 1 <<< 15 ||| 2 <<< 10

def encodeControl (headparts args : List String) (addr : Nat) (labels : Labels) : Checked (Nat × List Nat) := do
  raiseIf (headparts.length ≠ 1) "expected COMMAND, field=value"
  let cmd := headparts.getD 0 ""
  let ci ← enum t cmd commands
  let f ← fields t args (allowedOf cmd)
  let init ← bit t f "init" "0"
  checkInit t f init
  let byteFixed ← byteGiven t f
  let stream ← bit t f "stream" "0"
  let faultInc ← bit t f "fault_inc" "0"
  let space ← enum t (f.get "space" "ACTIVE") spaces
  let service ← enum t (f.get "service" "NONE") services
  raiseIf (space ≠ 0 ∧ (stream ≠ 0 ∨ byteFixed ≠ 0 ∨ byteIr t f = true))
    "special space requires a word, non-stream access"
  checkService t f init service
  raiseIf (stream ≠ 0 ∧ (t.upper (f.get "a" "R0") ∉ ["R7", "RS", "RD"] ∨ byteFixed ≠ 0))
    "stream READ requires a=R7/RS/RD and byte=0/IR"
  let (target, edges) ← controlNext t f cmd addr labels
  let default := if cmd = "FETCH" then "R7" else "R0"
  let cond ← enum t (f.get "cond" "ALWAYS") conds
  let a ← enum t (f.get "a" default) registers
  let b ← enum t (f.get "b" default) registers
  let prefetch ← bit t f "prefetch" "1"
  let word := controlWord ci target cond a b byteFixed (byteIr t f).toNat stream faultInc prefetch init space service
  return (if cmd = "FETCH" then word ||| fetchFields else word, edges)

def encode (line : String) (addr : Nat) (labels : Labels) : Checked (Nat × List Nat) := do
  let parts := (Text.split ',' line).map t.strip
  let headparts := t.words (t.upper (parts.headD ""))
  raiseIf (headparts = []) "missing instruction before fields"
  if headparts.headD "" = "ALU" then encodeAlu t headparts parts.tail addr labels
  else encodeControl t headparts parts.tail addr labels

/-! ## Programs -/

/-- The microinstructions of a source, by address, each with its line. -/
abbrev Instructions := List (Nat × Nat × String)

def Instructions.has (is : Instructions) (addr : Nat) : Bool := is.any (·.1 == addr)

/-- The first pass: the labels and instructions so far and the address of the next one. -/
structure Layout where
  labels : Labels := []
  instructions : Instructions := []
  addr : Nat := 0
  deriving Repr

/-- `re.fullmatch(r'[A-Z_][A-Z_0-9]*', name)` -/
def isName (name : String) : Bool :=
  let letter (c : Char) : Bool := ('A' ≤ c && c ≤ 'Z') || c == '_'
  match name.toList with
  | [] => false
  | c :: rest => letter c && rest.all fun c => letter c || c.isDigit

/-- The label in front of an instruction, if there is one, and the rest of the line. -/
def placeLabel (text : String) (s : Layout) : Checked (String × Layout) := do
  if Text.contains ':' text = true then
    let (name, text) := Text.splitOnce ':' text
    let name := t.upper (t.strip name)
    raiseIf (isName name = false ∨ (s.labels.lookup name).isSome = true) ("invalid or duplicate label " ++ name)
    let _ ← bounded s.addr 10 "label address"
    return (t.strip text, { s with labels := s.labels ++ [(name, (s.addr : Int))] })
  else return (text, s)

/-- One line without its comment. -/
def placeLine (lineno : Nat) (text : String) (s : Layout) : Checked Layout := do
  if text = "" then return s
  let (text, s) ← placeLabel t text s
  if text = "" then return s
  if (t.lower text).toList.take 5 = ".org ".toList then
    let origin ← bounded (← number t (String.ofList (text.toList.drop 5)) (some s.labels)) 10 "origin"
    return { s with addr := origin }
  let _ ← bounded s.addr 10 "microaddress"
  raiseIf (s.instructions.has s.addr = true) ("overlap at " ++ hexDigits 3 s.addr)
  return { s with instructions := s.instructions ++ [(s.addr, lineno, text)], addr := s.addr + 1 }

/-- An error with the number of its line. -/
def atLine {α : Type} (lineno : Nat) : Checked α → Checked α
  | .ok a => .ok a
  | .error message => .error ("line " ++ toString lineno ++ ": " ++ message)

def placeLines : Nat → List String → Layout → Checked Layout
  | _, [], s => .ok s
  | lineno, raw :: rest, s => do
    let text := t.strip ((Text.split ';' raw).headD "")
    let s ← atLine lineno (placeLine t lineno text s)
    placeLines (lineno + 1) rest s

def layout (source : String) : Checked Layout := do
  let s ← placeLines t 1 (t.splitlines source) {}
  raiseIf (s.instructions = []) "empty microcode"
  return s

/-- One microinstruction of the second pass: its word, and all it goes on to is assembled. -/
def assembleOne (s : Layout) (addr lineno : Nat) (text : String) : Checked Nat :=
  atLine lineno do
    let (word, edges) ← encode t text addr s.labels
    match edges.find? fun target => !s.instructions.has target with
    | some target => .error ("control flow to unassembled address " ++ hexDigits 3 target)
    | none => bounded word 36 "microinstruction"

def assembleWords (s : Layout) : Instructions → List Nat → Checked (List Nat)
  | [], image => .ok image
  | (addr, lineno, text) :: rest, image => do
    let word ← assembleOne t s addr lineno text
    assembleWords s rest (image.set addr word)

/-- The instructions in the order of their addresses. -/
def byAddress (is : Instructions) : Instructions := is.insertionSort fun i j => i.1 ≤ j.1

/-- The continuation of a READ with `fault_inc`: one addition of a step to the same register. -/
def isRepair (a c : Nat) : Bool :=
  c >>> 35 == 0 && c >>> 31 &&& 15 == 2 && c >>> 26 &&& 31 == a && c >>> 21 &&& 31 == a && c >>> 18 &&& 7 == 2 &&
    c >>> 15 &&& 7 == 1 && c >>> 13 &&& 3 == 0 && (c >>> 10 &&& 7 == 2 || c >>> 10 &&& 7 == 3) && c &&& 1023 == 0

def checkRepairs (image : List Nat) : Instructions → Checked Unit
  | [] => .ok ()
  | (addr, _, _) :: rest => do
    let w := image.getD addr 0
    raiseIf (w >>> 35 ≠ 0 ∧ w >>> 31 &&& 15 = 11 ∧ w &&& 4 ≠ 0 ∧
        isRepair (w >>> 26 &&& 31) (image.getD (w >>> 11 &&& 1023) 0) = false)
      ("fault_inc at " ++ hexDigits 3 addr ++
        " needs a same-register ADD STEP/TWO continuation without flags or sequencing")
    checkRepairs image rest

/-- The listing, with the words of the image. -/
def listing (image : List Nat) (is : Instructions) : String :=
  "\n".intercalate (is.map fun (addr, lineno, text) =>
    let line := toString lineno
    hexDigits 3 addr ++ " " ++ hexDigits 9 (image.getD addr 0) ++ " " ++
      String.ofList (List.replicate (4 - line.length) ' ') ++ line ++ "  " ++ text) ++ "\n"

structure Assembly where
  image : List Nat
  listing : String
  labels : Labels
  deriving Repr

def assemble (source : String) : Checked Assembly := do
  let s ← layout t source
  let image ← assembleWords t s (byAddress s.instructions) (List.replicate 1024 stopWord)
  checkRepairs image s.instructions
  return { image := image, listing := listing image (byAddress s.instructions), labels := s.labels }

end

end K1801.Uj11.Microasm
