import K1801.Uj11.MicroasmLines
import K1801.Uj11.Microseq

/-! # The fields of an assembled word

The values that the microassembler puts into a word are those that the fields of the word hold.
-/

namespace K1801.Uj11.Microasm

open Library

variable {t : Text} {f : Fields} {labels : Labels} {addr : Nat} {edges : List Nat}

/-! ## ALU words -/

structure AluValues.Fits (v : AluValues) : Prop where
  op : v.op < 16
  a : v.a < 32
  b : v.b < 32
  pair : v.pair < 8
  dst : v.dst < 8
  flags : v.flags < 4
  din : v.din < 8
  seq : v.seq < 4
  low : v.low < 256

theorem AluContext.low_lt {din seq low : Nat} (h : AluContext t f addr labels din seq low edges) : low < 256 := by
  cases h with
  | page target => exact Nat.lt_succ_of_le Nat.and_le_right
  | imm _ _ _ _ _ _ _ hlt => exact hlt
  | status => decide
  | trace => decide
  | plain => decide

theorem AluLine.fits {op : String} {v : AluValues} (h : AluLine t op f addr labels v edges) : v.Fits where
  op := enum_lt (by decide) h.op
  a := enum_lt (by decide) h.a
  b := enum_lt (by decide) h.b
  pair := enum_lt (by decide) h.pair
  dst := enum_lt (by decide) h.dst
  flags := enum_lt (by decide) h.flags
  din := enum_lt (by decide) h.din
  seq := enum_lt (by decide) h.seq
  low := h.context.low_lt

namespace AluValues

variable {v : AluValues}

def parts (v : AluValues) : List Packed :=
  [⟨31, 4, v.op⟩, ⟨26, 5, v.a⟩, ⟨21, 5, v.b⟩, ⟨18, 3, v.pair⟩, ⟨15, 3, v.dst⟩, ⟨13, 2, v.flags⟩, ⟨10, 3, v.din⟩,
    ⟨8, 2, v.seq⟩, ⟨0, 8, v.low⟩]

theorem word_eq_pack (v : AluValues) : v.word = pack v.parts := by
  simp [word, aluWord, parts, pack, Nat.or_assoc]

theorem Fits.parts (h : v.Fits) : ∀ p ∈ v.parts, p.value < 2 ^ p.width := by
  obtain ⟨hop, ha, hb, hpair, hdst, hflags, hdin, hseq, hlow⟩ := h
  simp [AluValues.parts, *]

theorem parts_apart (v : AluValues) : v.parts.Pairwise Packed.Apart := by
  simp [parts, Packed.Apart]

theorem Fits.field (h : v.Fits) {p : Packed} (hp : p ∈ v.parts) : fieldAt p.low p.width v.word = p.value := by
  rw [word_eq_pack]
  exact fieldAt_pack h.parts v.parts_apart hp

theorem Fits.word_lt (h : v.Fits) : v.word < 2 ^ 36 := by
  rw [word_eq_pack]
  exact pack_lt h.parts (by simp [AluValues.parts])

/-- The word in the microstore. -/
def uword (v : AluValues) : Uword := BitVec.ofNat 36 v.word

theorem Fits.extract (h : v.Fits) (p : Packed) (hp : p ∈ v.parts) (hwidth : p.low + p.width ≤ 36) :
    v.uword.extractLsb' p.low p.width = BitVec.ofNat p.width p.value := by
  rw [uword, extract_ofNat p.low p.width v.word hwidth, h.field hp]

theorem Fits.control (h : v.Fits) : v.uword.control = false := by
  have happart : fieldAt 35 1 v.word = 0 := by
    rw [word_eq_pack]
    exact fieldAt_pack_apart (p := ⟨35, 1, 0⟩) h.parts (by simp [AluValues.parts, Packed.Apart])
  rw [Uword.control, uword, getLsbD_ofNat_field 35 _ (by decide), happart]
  rfl

theorem Fits.sequencing (h : v.Fits) : v.uword.sequencing = BitVec.ofNat 2 v.seq :=
  h.extract ⟨8, 2, v.seq⟩ (by simp [AluValues.parts]) (by simp)

theorem Fits.lowBits (h : v.Fits) : v.uword.low = BitVec.ofNat 8 v.low :=
  h.extract ⟨0, 8, v.low⟩ (by simp [AluValues.parts]) (by simp)

end AluValues

/-! ## Control words -/

structure ControlValues.Fits (v : ControlValues) : Prop where
  command : v.command < 16
  target : v.target < 1024
  cond : v.cond < 16
  a : v.a < 32
  b : v.b < 32
  byteFixed : v.byteFixed < 2
  stream : v.stream < 2
  faultInc : v.faultInc < 2
  prefetch : v.prefetch < 2
  init : v.init < 2
  space : v.space < 4
  service : v.service < 4

theorem controlNext_ok {cmd : String} {target : Nat} (h : controlNext t f cmd addr labels = .ok (target, edges)) :
    number t (f.get "target" "0") (some labels) = .ok (target : Int) ∧ target < 1024 ∧
      ("target" ∈ allowedOf cmd → f.has "target" = true) ∧ (cmd = "CJUMP" → f.has "cond" = true) ∧
      ∃ targets, targetEdges f cmd target = .ok targets ∧
        edges = targets ++ if cmd ∈ ["CJUMP", "CALL"] then [(addr + 1) &&& 1023] else [] := by
  simp only [controlNext, bind_ok, raiseIf_ok, bounded_ok, pure_ok, Prod.mk.injEq] at h
  obtain ⟨-, htarget, -, hcond, value, hvalue, target, ⟨rfl, hlt⟩, targets, htargets, rfl, rfl⟩ := h
  refine ⟨hvalue, hlt, ?_, ?_, targets, htargets, rfl⟩
  · grind
  · grind

theorem byteGiven_lt {n : Nat} (h : byteGiven t f = .ok n) : n < 2 := by
  unfold byteGiven at h
  split at h
  · exact (pure_ok.mp h) ▸ by decide
  · exact (bit_ok.mp h).2

theorem ControlLine.fits {cmd : String} {v : ControlValues} (h : ControlLine t cmd f addr labels v edges) : v.Fits where
  command := enum_lt (by decide) h.command
  target := (controlNext_ok h.next).2.1
  cond := enum_lt (by decide) h.cond
  a := enum_lt (by decide) h.a
  b := enum_lt (by decide) h.b
  byteFixed := byteGiven_lt h.byteFixed
  stream := (bit_ok.mp h.stream).2
  faultInc := (bit_ok.mp h.faultInc).2
  prefetch := (bit_ok.mp h.prefetch).2
  init := (bit_ok.mp h.init).2
  space := enum_lt (by decide) h.space
  service := enum_lt (by decide) h.service

namespace ControlValues

variable {cmd : String} {v : ControlValues}

/-- The target, or what a FETCH has in its place. -/
def targetField (cmd : String) (v : ControlValues) : Nat := if cmd = "FETCH" then v.target ||| 0x111 else v.target

/-- Two of the places are shared: the condition with the space, the service with `fault_inc`. -/
def parts (cmd : String) (v : ControlValues) : List Packed :=
  [⟨35, 1, 1⟩, ⟨31, 4, v.command⟩, ⟨26, 5, v.a⟩, ⟨21, 5, v.b⟩, ⟨11, 10, v.targetField cmd⟩, ⟨7, 4, v.cond ||| v.space⟩,
    ⟨6, 1, v.byteFixed⟩, ⟨5, 1, v.stream⟩, ⟨4, 1, 1 - v.prefetch⟩, ⟨3, 1, v.byteAuto.toNat⟩,
    ⟨1, 2, v.faultInc <<< 1 ||| v.service⟩, ⟨0, 1, v.init⟩]

theorem or_reorder (top command target cond a b byteFixed byteAuto stream fault pause init space service fetched : Nat) :
    top ||| command ||| target ||| cond ||| a ||| b ||| byteFixed ||| byteAuto ||| stream ||| fault ||| pause ||| init |||
        space ||| service ||| fetched =
      top ||| (command ||| (a ||| (b ||| (target ||| fetched ||| (cond ||| space ||| (byteFixed ||| (stream |||
        (pause ||| (byteAuto ||| (fault ||| service ||| init)))))))))) := by
  ac_rfl

theorem word_eq_pack (cmd : String) (v : ControlValues) : v.word cmd = pack (v.parts cmd) := by
  have hcond : (v.cond ||| v.space) <<< 7 = v.cond <<< 7 ||| v.space <<< 7 := Nat.shiftLeft_or_distrib
  have hfault : (v.faultInc <<< 1 ||| v.service) <<< 1 = v.faultInc <<< 2 ||| v.service <<< 1 := by
    rw [Nat.shiftLeft_or_distrib, ← Nat.shiftLeft_add]
  have htarget : v.targetField cmd <<< 11 = v.target <<< 11 ||| if cmd = "FETCH" then fetchFields else 0 := by
    have hfields : 0x111 <<< 11 = fetchFields := by decide
    unfold targetField
    split
    · rw [Nat.shiftLeft_or_distrib, hfields]
    · rw [Nat.or_zero]
  have hword : v.word cmd = controlWord v.command v.target v.cond v.a v.b v.byteFixed v.byteAuto.toNat v.stream
      v.faultInc v.prefetch v.init v.space v.service ||| if cmd = "FETCH" then fetchFields else 0 := by
    unfold word
    split
    · rfl
    · rw [Nat.or_zero]
  rw [hword, parts]
  iterate 12 rw [pack_cons]
  rw [pack_nil, hcond, hfault, htarget, Nat.or_zero, Nat.shiftLeft_zero, controlWord]
  exact or_reorder ..

theorem Fits.parts (h : v.Fits) : ∀ p ∈ v.parts cmd, p.value < 2 ^ p.width := by
  obtain ⟨hcommand, htarget, hcond, ha, hb, hbyte, hstream, hfault, hprefetch, hinit, hspace, hservice⟩ := h
  have hshared : v.cond ||| v.space < 2 ^ 4 := Nat.or_lt_two_pow hcond (by omega)
  have hservices : v.faultInc <<< 1 ||| v.service < 2 ^ 2 := Nat.or_lt_two_pow (by rw [Nat.shiftLeft_eq]; omega) hservice
  have hfield : v.targetField cmd < 2 ^ 10 := by
    unfold targetField
    split
    · exact Nat.or_lt_two_pow htarget (by decide)
    · exact htarget
  have hauto : v.byteAuto.toNat < 2 := by cases v.byteAuto <;> decide
  have hpause : 1 - v.prefetch < 2 := by omega
  simp only [ControlValues.parts, List.forall_mem_cons]
  exact ⟨by decide, hcommand, ha, hb, hfield, hshared, hbyte, hstream, hpause, hauto, hservices, hinit, nofun⟩

theorem parts_apart (cmd : String) (v : ControlValues) : (v.parts cmd).Pairwise Packed.Apart := by
  simp [parts, Packed.Apart]

theorem Fits.field (h : v.Fits) {p : Packed} (hp : p ∈ v.parts cmd) : fieldAt p.low p.width (v.word cmd) = p.value := by
  rw [word_eq_pack]
  exact fieldAt_pack h.parts (v.parts_apart cmd) hp

theorem Fits.word_lt (h : v.Fits) : v.word cmd < 2 ^ 36 := by
  rw [word_eq_pack]
  exact pack_lt h.parts (by simp [ControlValues.parts])

/-- The word in the microstore. -/
def uword (cmd : String) (v : ControlValues) : Uword := BitVec.ofNat 36 (v.word cmd)

theorem Fits.extract (h : v.Fits) (p : Packed) (hp : p ∈ v.parts cmd) (hwidth : p.low + p.width ≤ 36) :
    (v.uword cmd).extractLsb' p.low p.width = BitVec.ofNat p.width p.value := by
  rw [uword, extract_ofNat p.low p.width (v.word cmd) hwidth, h.field hp]

theorem Fits.bit (h : v.Fits) (p : Packed) (hp : p ∈ v.parts cmd) (hwidth : p.width = 1) (hlow : p.low < 36) :
    (v.uword cmd).getLsbD p.low = decide (p.value = 1) := by
  rw [uword, getLsbD_ofNat_field p.low (v.word cmd) hlow, ← hwidth, h.field hp]

theorem Fits.control (h : v.Fits) : (v.uword cmd).control = true :=
  h.bit ⟨35, 1, 1⟩ (by simp [ControlValues.parts]) rfl (by decide)

theorem Fits.commandBits (h : v.Fits) : (v.uword cmd).command = BitVec.ofNat 4 v.command :=
  h.extract ⟨31, 4, v.command⟩ (by simp [ControlValues.parts]) (by simp)

theorem Fits.targetBits (h : v.Fits) : (v.uword cmd).target = BitVec.ofNat 10 (v.targetField cmd) :=
  h.extract ⟨11, 10, v.targetField cmd⟩ (by simp [ControlValues.parts]) (by simp)

end ControlValues

end K1801.Uj11.Microasm
