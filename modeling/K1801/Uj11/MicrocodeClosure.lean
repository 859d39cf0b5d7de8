import K1801.Uj11.WordFields

/-! # Control stays in assembled microcode

Wherever a word of an accepted source goes on to, the source has a word there.
-/

namespace K1801.Uj11

open Library

namespace Microseq

/-- No reset, no fault, no interrupt, trace or debug request, and no return from a service. -/
structure Quiet (i : MicroseqIn) : Prop where
  reset : i.reset = false
  stepReturn : i.stepReturn = false
  debugPending : i.debugPending = false
  waitReturn : i.waitReturn = false
  irqPending : i.irqPending = false
  tracePending : i.tracePending = false
  faultRedirect : i.faultRedirect = false
  faultRepair : i.faultRepair = false

variable {w : Uword} {i : MicroseqIn} {s : Microseq}

theorem fetchAddress_quiet (h : Quiet i) : fetchAddress i = fetchWord := by
  simp [fetchAddress, h.debugPending, h.tracePending, h.irqPending]

theorem nextAddress_quiet (h : Quiet i) :
    nextAddress w i s = if w.control then controlAddress w i s else aluAddress w i s := by
  simp [nextAddress, h.reset, h.faultRepair, h.faultRedirect, h.waitReturn, h.stepReturn]

theorem dispatched_toNat : (dispatched w i).toNat = w.target.toNat ||| (dispatchBits w i).toNat := by
  have hbits : dispatched w i = w.target ||| (dispatchBits w i).setWidth 10 := by
    apply BitVec.eq_of_getLsbD_eq
    intro k hk
    unfold dispatched
    rw [BitVec.getLsbD_append]
    by_cases hlow : k < 3
    · simp [hlow, hk]
    · have hsub : k - 3 < 7 := by omega
      have hadd : 3 + (k - 3) = k := by omega
      have hhigh : (dispatchBits w i).getLsbD k = false := BitVec.getLsbD_of_ge _ k (by omega)
      simp [hlow, hk, hsub, hadd, hhigh]
  rw [hbits, BitVec.toNat_or, BitVec.toNat_setWidth]
  have hlt := (dispatchBits w i).isLt
  rw [Nat.mod_eq_of_lt (by omega)]

/-- Words that go on at the opcode entry. -/
def Dispatches (w : Uword) : Prop := w.control = true ∧ (w.command = 2 ∨ w.command = 4)

def Calls (w : Uword) : Prop := w.control = true ∧ w.command = 10

def Returns (w : Uword) : Prop := w.control = true ∧ w.command = 3

/-- No call inside a call, and no return without one. -/
def Unnested (w : Uword) (s : Microseq) : Prop := (Calls w → s.linkValid = false) ∧ (Returns w → s.linkValid = true)

end Microseq

namespace Microasm

open Microseq

variable {t : Text} {f : Fields} {labels : Labels} {edges : List Nat}

/-! ## The second pass -/

/-- The word at an address is that of a line whose control stays among the instructions. -/
def Placed (t : Text) (s : Layout) (addr word : Nat) : Prop :=
  ∃ text edges, encode t text addr s.labels = .ok (word, edges) ∧ ∀ e ∈ edges, s.instructions.has e = true

theorem atLine_ok {α : Type} {lineno : Nat} {x : Checked α} {a : α} : atLine lineno x = .ok a ↔ x = .ok a := by
  cases x <;> simp [atLine]

theorem assembleOne_ok {s : Layout} {addr lineno word : Nat} {text : String}
    (h : assembleOne t s addr lineno text = .ok word) : Placed t s addr word := by
  rw [assembleOne, atLine_ok] at h
  simp only [bind_ok] at h
  obtain ⟨⟨word', edges⟩, hencode, h⟩ := h
  cases hfind : edges.find? fun target => !s.instructions.has target with
  | some target =>
    rw [hfind] at h
    cases h
  | none =>
    rw [hfind] at h
    have hword : (word' : Int) = word := (bounded_ok.mp h).1
    have hsame : word' = word := by omega
    refine ⟨text, edges, hsame ▸ hencode, fun e he => ?_⟩
    simpa using List.find?_eq_none.mp hfind e he

theorem assembleWords_ok {s : Layout} {is : Instructions} {image image' : List Nat}
    (h : assembleWords t s is image = .ok image') (hroom : ∀ j ∈ is, j.1 < image.length) :
    ∀ addr, Placed t s addr (image.getD addr 0) ∨ is.has addr = true → Placed t s addr (image'.getD addr 0) := by
  induction is generalizing image with
  | nil =>
    cases h
    rintro addr (hplaced | habsent)
    · exact hplaced
    · cases habsent
  | cons j is ih =>
    obtain ⟨at_, lineno, text⟩ := j
    simp only [assembleWords, bind_ok] at h
    obtain ⟨word, hone, h⟩ := h
    have hin : at_ < image.length := hroom _ List.mem_cons_self
    have hrest := ih h fun j hj => by
      rw [List.length_set]
      exact hroom j (List.mem_cons_of_mem _ hj)
    intro addr hcase
    apply hrest
    by_cases hsame : at_ = addr
    · subst hsame
      left
      rw [List.getD_eq_getElem _ _ (by rw [List.length_set]; exact hin), List.getElem_set_self]
      exact assembleOne_ok hone
    · rcases hcase with hplaced | hhas
      · left
        rw [List.getD_eq_getElem?_getD, List.getElem?_set_ne hsame, ← List.getD_eq_getElem?_getD]
        exact hplaced
      · right
        rw [Instructions.has, List.any_cons, beq_eq_false_iff_ne.mpr hsame, Bool.false_or] at hhas
        exact hhas

/-! ## The first pass -/

theorem placeLabel_ok {text rest : String} {s s' : Layout} (h : placeLabel t text s = .ok (rest, s')) :
    s'.instructions = s.instructions ∧ s'.addr = s.addr ∧
      (s'.labels = s.labels ∨ ∃ name value, isName name = true ∧ s'.labels = s.labels ++ [(name, value)]) := by
  unfold placeLabel at h
  split at h
  · simp only [bind_ok, pure_ok, raiseIf_ok, Prod.mk.injEq] at h
    obtain ⟨-, hname, -, -, -, rfl⟩ := h
    exact ⟨rfl, rfl, .inr ⟨_, _, by simpa using fun hother => hname (.inl hother), rfl⟩⟩
  · simp only [pure_ok, Prod.mk.injEq] at h
    obtain ⟨-, rfl⟩ := h
    exact ⟨rfl, rfl, .inl rfl⟩

/-- What a line adds: a label, an instruction, or both. -/
theorem placeLine_ok {lineno : Nat} {text : String} {s s' : Layout} (h : placeLine t lineno text s = .ok s') :
    (s'.instructions = s.instructions ∨
        s.addr < 1024 ∧ ∃ text, s'.instructions = s.instructions ++ [(s.addr, lineno, text)]) ∧
      (s'.labels = s.labels ∨ ∃ name value, isName name = true ∧ s'.labels = s.labels ++ [(name, value)]) := by
  unfold placeLine at h
  split at h
  · rw [← pure_ok.mp h]
    exact ⟨.inl rfl, .inl rfl⟩
  · rw [bind_ok] at h
    obtain ⟨⟨rest, s₁⟩, hlabel, h⟩ := h
    obtain ⟨hsame, haddr, hlabels⟩ := placeLabel_ok hlabel
    simp only at h
    split at h
    · rw [← pure_ok.mp h]
      exact ⟨.inl hsame, hlabels⟩
    · split at h
      · simp only [bind_ok, pure_ok] at h
        obtain ⟨-, -, -, -, rfl⟩ := h
        exact ⟨.inl hsame, hlabels⟩
      · simp only [bind_ok, pure_ok, bounded_ok] at h
        obtain ⟨n, ⟨hn, hlt⟩, -, -, rfl⟩ := h
        refine ⟨.inr ⟨by omega, rest, ?_⟩, hlabels⟩
        change s₁.instructions ++ [(s₁.addr, lineno, rest)] = _
        rw [hsame, haddr]

def InStore (s : Layout) : Prop := ∀ j ∈ s.instructions, j.1 < 1024

theorem placeLine_inStore {lineno : Nat} {text : String} {s s' : Layout} (h : placeLine t lineno text s = .ok s')
    (hs : InStore s) : InStore s' := by
  unfold InStore
  rcases (placeLine_ok h).1 with hsame | ⟨hlt, text, hadded⟩
  · rw [hsame]
    exact hs
  · rw [hadded]
    intro j hj
    rcases List.mem_append.mp hj with hj | hj
    · exact hs j hj
    · rw [List.mem_singleton.mp hj]
      exact hlt

theorem placeLines_inStore {lineno : Nat} {lines : List String} {s s' : Layout}
    (h : placeLines t lineno lines s = .ok s') (hs : InStore s) : InStore s' := by
  induction lines generalizing lineno s with
  | nil =>
    cases h
    exact hs
  | cons raw lines ih =>
    simp only [placeLines, bind_ok, atLine_ok] at h
    obtain ⟨s₁, hline, h⟩ := h
    exact ih h (placeLine_inStore hline hs)

theorem layout_inStore {source : String} {s : Layout} (h : layout t source = .ok s) : InStore s := by
  simp only [layout, bind_ok, pure_ok] at h
  obtain ⟨s₁, hlines, -, -, rfl⟩ := h
  exact placeLines_inStore hlines fun _ h => by cases h

/-- An accepted source has an instruction at this address. -/
def Assembled (t : Text) (source : String) (addr : BitVec 10) : Prop :=
  ∃ s, layout t source = .ok s ∧ s.instructions.has addr.toNat = true

/-- The word that the microstore gives for an address. -/
def wordAt (image : List Nat) (addr : BitVec 10) : Uword := BitVec.ofNat 36 (image.getD addr.toNat 0)

theorem assemble_placed {source : String} {result : Assembly} (h : assemble t source = .ok result) :
    ∃ s, layout t source = .ok s ∧ InStore s ∧
      ∀ addr, s.instructions.has addr = true → Placed t s addr (result.image.getD addr 0) := by
  simp only [assemble, bind_ok, pure_ok] at h
  obtain ⟨s, hlayout, image, hwords, -, -, rfl⟩ := h
  have hstore := layout_inStore hlayout
  have hperm : (byAddress s.instructions).Perm s.instructions := List.perm_insertionSort _ _
  refine ⟨s, hlayout, hstore, fun addr hhas => ?_⟩
  refine assembleWords_ok hwords (fun j hj => ?_) addr (.inr ?_)
  · rw [List.length_replicate]
    exact hstore j (hperm.mem_iff.mp hj)
  · unfold Instructions.has at hhas ⊢
    rw [hperm.any_eq]
    exact hhas

/-! ## Where a word goes on -/

variable {i : MicroseqIn} {m : Microseq} {w : Uword}

theorem sequential_toNat (m : Microseq) : m.sequential.toNat = (m.upc.toNat + 1) &&& 1023 := by
  have hmod : (m.upc.toNat + 1) &&& 1023 = (m.upc.toNat + 1) % 1024 := Nat.and_two_pow_sub_one_eq_mod _ 10
  rw [hmod, Microseq.sequential, BitVec.toNat_add]
  rfl

theorem aluAddress_edges {seq : Nat} (hquiet : Quiet i) (hseq : w.sequencing.toNat = seq) (hlt : seq < 4)
    (hpage : seq ≠ 1) : (aluAddress w i m).toNat ∈ aluEdges seq m.upc.toNat := by
  unfold aluAddress aluEdges
  rw [hseq, fetchAddress_quiet hquiet, ← sequential_toNat]
  match seq with
  | 0 => exact List.mem_cons_self
  | 1 => exact absurd rfl hpage
  | 2 => exact List.mem_cons_self
  | 3 =>
    cases i.aOne with
    | true => exact List.mem_cons_of_mem _ List.mem_cons_self
    | false => exact List.mem_cons_self

theorem aluAddress_page {target : Nat} (hseq : w.sequencing.toNat = 1) (hlow : w.low = BitVec.ofNat 8 (target &&& 255))
    (hlt : target < 1024) (hpage : target >>> 8 = m.upc.toNat >>> 8) : (aluAddress w i m).toNat = target := by
  have hmask : target &&& 255 = target % 256 := Nat.and_two_pow_sub_one_eq_mod _ 8
  have hupc := m.upc.isLt
  simp only [Nat.shiftRight_eq_div_pow] at hpage
  unfold aluAddress
  rw [hseq]
  change (m.upc.extractLsb' 8 2 ++ w.low).toNat = target
  rw [hlow, hmask, BitVec.toNat_append, BitVec.toNat_ofNat, BitVec.extractLsb'_toNat, Nat.shiftRight_eq_div_pow,
    ← Nat.shiftLeft_add_eq_or_of_lt (Nat.mod_lt _ (by decide)), Nat.shiftLeft_eq]
  omega

theorem AluLine.goesOn {op : String} {addr : Nat} {v : AluValues} (h : AluLine t op f addr labels v edges)
    (hquiet : Quiet i) (hupc : m.upc.toNat = addr) : (nextAddress v.uword i m).toNat ∈ edges := by
  have hfits := h.fits
  have hseq : v.uword.sequencing.toNat = v.seq := by
    rw [hfits.sequencing, BitVec.toNat_ofNat, Nat.mod_eq_of_lt hfits.seq]
  have hlow := hfits.lowBits
  rw [nextAddress_quiet hquiet, hfits.control, if_neg (by decide)]
  obtain ⟨-, -, -, -, -, -, -, -, -, hcontext⟩ := h
  subst hupc
  generalize hs : v.seq = seq at hcontext hseq
  generalize hl : v.low = low at hcontext hlow
  have hlt : seq < 4 := hs ▸ hfits.seq
  cases hcontext with
  | page target _ _ _ _ _ _ hbound hpage =>
    rw [aluAddress_page hseq hlow hbound hpage]
    exact List.mem_singleton_self target
  | imm _ _ hne => exact aluAddress_edges hquiet hseq hlt hne
  | status _ hne => exact aluAddress_edges hquiet hseq hlt (by omega)
  | trace => exact aluAddress_edges hquiet hseq hlt (by decide)
  | plain _ hne => exact aluAddress_edges hquiet hseq hlt hne

theorem ControlLine.targetBits {cmd : String} {addr : Nat} {v : ControlValues}
    (h : ControlLine t cmd f addr labels v edges) (hcmd : cmd ≠ "FETCH") : (v.uword cmd).target.toNat = v.target := by
  rw [h.fits.targetBits, ControlValues.targetField, if_neg hcmd, BitVec.toNat_ofNat, Nat.mod_eq_of_lt h.fits.target]

theorem ControlLine.target_edge {cmd : String} {addr : Nat} {v : ControlValues}
    (h : ControlLine t cmd f addr labels v edges) (hmask : masks.lookup cmd = none)
    (hallowed : "target" ∈ allowedOf cmd) : v.target ∈ edges := by
  obtain ⟨-, -, hgiven, -, targets, htargets, rfl⟩ := controlNext_ok h.next
  rw [targetEdges, hmask, if_pos (hgiven hallowed)] at htargets
  rw [← pure_ok.mp htargets]
  exact List.mem_append_left _ (List.mem_singleton_self _)

theorem ControlLine.mask_edges {cmd : String} {addr mask : Nat} {v : ControlValues}
    (h : ControlLine t cmd f addr labels v edges) (hmask : masks.lookup cmd = some mask) :
    ∀ k ≤ mask, v.target ||| k ∈ edges := by
  obtain ⟨-, -, -, -, targets, htargets, rfl⟩ := controlNext_ok h.next
  simp only [targetEdges, hmask, bind_ok, pure_ok] at htargets
  obtain ⟨-, -, rfl⟩ := htargets
  intro k hk
  exact List.mem_append_left _ (List.mem_map.mpr ⟨k, List.mem_range.mpr (by omega), rfl⟩)

theorem ControlLine.sequential_edge {cmd : String} {addr : Nat} {v : ControlValues}
    (h : ControlLine t cmd f addr labels v edges) (hcmd : cmd ∈ ["CJUMP", "CALL"]) : (addr + 1) &&& 1023 ∈ edges := by
  obtain ⟨-, -, -, -, targets, -, rfl⟩ := controlNext_ok h.next
  rw [if_pos hcmd]
  exact List.mem_append_right _ (List.mem_singleton_self _)

theorem dispatched_plain (hcommand : w.command.toNat < 5 ∨ 10 ≤ w.command.toNat) :
    (dispatched w i).toNat = w.target.toNat := by
  have hnone : dispatchBits w i = 0 := by
    unfold dispatchBits
    split <;> first | omega | rfl
  rw [dispatched_toNat, hnone]
  exact Nat.or_zero _

/-- An OR-dispatch adds bits of its mask only. -/
theorem dispatchBits_le {cmd : String} {ci mask : Nat} (hcommand : commands.lookup cmd = some ci)
    (hmask : masks.lookup cmd = some mask) (hci : w.command.toNat = ci) : (dispatchBits w i).toNat ≤ mask := by
  have hpair : ∀ x y, (BitVec.ofBool false ++ BitVec.ofBool x ++ BitVec.ofBool y).toNat ≤ 3 := by decide
  have hone : ∀ x, ((0 : BitVec 2) ++ BitVec.ofBool x).toNat ≤ 1 := by decide
  have hseven : ∀ x : BitVec 3, x.toNat ≤ 7 := fun x => Nat.le_of_lt_succ x.isLt
  have hmem := lookup_mem hmask
  simp only [masks, List.mem_cons, Prod.mk.injEq, List.not_mem_nil, or_false] at hmem
  rcases hmem with ⟨rfl, rfl⟩ | ⟨rfl, rfl⟩ | ⟨rfl, rfl⟩ | ⟨rfl, rfl⟩ | ⟨rfl, rfl⟩
  · exact hseven _
  · exact hseven _
  · obtain rfl : 7 = ci := Option.some.inj hcommand
    rw [dispatchBits, hci]
    exact hpair _ _
  · obtain rfl : 8 = ci := Option.some.inj hcommand
    rw [dispatchBits, hci]
    exact hpair _ _
  · obtain rfl : 9 = ci := Option.some.inj hcommand
    rw [dispatchBits, hci]
    exact hone _

theorem controlAddress_mask (hcommand : 5 ≤ w.command.toNat) (hlt : w.command.toNat < 10) :
    controlAddress w i m = dispatched w i := by
  unfold controlAddress
  split <;> first | omega | rfl

theorem ControlLine.goesOn {cmd : String} {addr : Nat} {v : ControlValues}
    (h : ControlLine t cmd f addr labels v edges) (hcmd : t.upper cmd = cmd) (hquiet : Quiet i)
    (hnested : Unnested (v.uword cmd) m) (hgo : ¬ Dispatches (v.uword cmd)) (hupc : m.upc.toNat = addr) :
    (nextAddress (v.uword cmd) i m).toNat ∈ edges ∨ nextAddress (v.uword cmd) i m = m.upc ∨
      (m.linkValid = true ∧ nextAddress (v.uword cmd) i m = m.link) := by
  have hcommand : (v.uword cmd).command = BitVec.ofNat 4 v.command := h.fits.commandBits
  have hvalue : (v.uword cmd).command.toNat = v.command := by
    rw [hcommand, BitVec.toNat_ofNat, Nat.mod_eq_of_lt h.fits.command]
  have hcontrol : (v.uword cmd).control = true := h.fits.control
  have hlookup : commands.lookup cmd = some v.command := hcmd ▸ enum_ok.mp h.command
  rw [nextAddress_quiet hquiet, hcontrol, if_pos rfl]
  subst hupc
  have htarget (hmask : masks.lookup cmd = none) (hallowed : "target" ∈ allowedOf cmd) (hne : cmd ≠ "FETCH")
      (hbits : v.command < 5 ∨ 10 ≤ v.command) : (dispatched (v.uword cmd) i).toNat ∈ edges := by
    rw [dispatched_plain (hvalue ▸ hbits), h.targetBits hne]
    exact h.target_edge hmask hallowed
  have hdispatch {mask : Nat} (hmask : masks.lookup cmd = some mask) (hne : cmd ≠ "FETCH") (hlow : 5 ≤ v.command)
      (hhigh : v.command < 10) : (controlAddress (v.uword cmd) i m).toNat ∈ edges := by
    rw [controlAddress_mask (hvalue ▸ hlow) (hvalue ▸ hhigh), dispatched_toNat, h.targetBits hne]
    exact h.mask_edges hmask _ (dispatchBits_le hlookup hmask hvalue)
  have hcode {n : Nat} (hn : v.command = n) : (v.uword cmd).command = BitVec.ofNat 4 n := hn ▸ hcommand
  have hmem := lookup_mem hlookup
  simp only [commands, enumerate, List.zipIdx_cons, List.zipIdx_nil, List.mem_cons, Prod.mk.injEq, List.not_mem_nil,
    or_false, Nat.zero_add, Nat.reduceAdd] at hmem
  rcases hmem with ⟨rfl, hci⟩ | ⟨rfl, hci⟩ | ⟨rfl, hci⟩ | ⟨rfl, hci⟩ | ⟨rfl, hci⟩ | ⟨rfl, hci⟩ | ⟨rfl, hci⟩ | ⟨rfl, hci⟩ |
    ⟨rfl, hci⟩ | ⟨rfl, hci⟩ | ⟨rfl, hci⟩ | ⟨rfl, hci⟩ | ⟨rfl, hci⟩ | ⟨rfl, hci⟩ | ⟨rfl, hci⟩ | ⟨rfl, hci⟩
  · rw [controlAddress, hvalue, hci]
    exact .inl (htarget (by decide) (by decide) (by decide) (by omega))
  · rw [controlAddress, hvalue, hci]
    left
    change (if condition _ i then dispatched _ i else m.sequential).toNat ∈ edges
    split
    · exact htarget (by decide) (by decide) (by decide) (by omega)
    · rw [sequential_toNat]
      exact h.sequential_edge (by decide)
  · exact absurd ⟨hcontrol, .inl (hcode hci)⟩ hgo
  · have hvalid : m.linkValid = true := hnested.2 ⟨hcontrol, hcode hci⟩
    rw [controlAddress, hvalue, hci]
    exact .inr (.inr ⟨hvalid, if_pos hvalid⟩)
  · exact absurd ⟨hcontrol, .inr (hcode hci)⟩ hgo
  · exact .inl (hdispatch rfl (by decide) (by omega) (by omega))
  · exact .inl (hdispatch rfl (by decide) (by omega) (by omega))
  · exact .inl (hdispatch rfl (by decide) (by omega) (by omega))
  · exact .inl (hdispatch rfl (by decide) (by omega) (by omega))
  · exact .inl (hdispatch rfl (by decide) (by omega) (by omega))
  · have hvalid : m.linkValid = false := hnested.1 ⟨hcontrol, hcode hci⟩
    rw [controlAddress, hvalue, hci]
    change (if m.linkValid = true then stop else dispatched _ i).toNat ∈ edges ∨ _
    rw [hvalid]
    exact .inl (htarget (by decide) (by decide) (by decide) (by omega))
  · rw [controlAddress, hvalue, hci]
    exact .inl (htarget (by decide) (by decide) (by decide) (by omega))
  · rw [controlAddress, hvalue, hci]
    exact .inl (htarget (by decide) (by decide) (by decide) (by omega))
  · rw [controlAddress, hvalue, hci]
    exact .inr (.inl rfl)
  · rw [controlAddress, hvalue, hci]
    refine .inr (.inl ?_)
    change (if i.debugPending || i.tracePending || i.irqPending then _ else _) = _
    rw [hquiet.debugPending, hquiet.tracePending, hquiet.irqPending]
    rfl
  · rw [controlAddress, hvalue, hci]
    exact .inl (htarget (by decide) (by decide) (by decide) (by omega))

/-! ## Runs -/

variable {source : String} {result : Assembly}

/-- From an assembled word control goes to an assembled one. -/
theorem next_closed (h : assemble t source = .ok result) (hupc : Assembled t source m.upc)
    (hlink : m.linkValid = true → Assembled t source m.link) (hquiet : Quiet i)
    (hnested : Unnested (wordAt result.image m.upc) m) (hgo : ¬ Dispatches (wordAt result.image m.upc)) :
    Assembled t source (nextAddress (wordAt result.image m.upc) i m) := by
  obtain ⟨s, hlayout, -, hplaced⟩ := assemble_placed h
  obtain ⟨s', hlayout', hhas⟩ := hupc
  obtain rfl : s = s' := Except.ok.inj (hlayout.symm.trans hlayout')
  obtain ⟨text, edges, hencode, hedges⟩ := hplaced _ hhas
  rcases encode_ok hencode with ⟨-, -, f, v, -, hword, hline⟩ | ⟨-, hlength, f, v, -, hword, hline⟩
  · have huword : wordAt result.image m.upc = v.uword := by
      rw [wordAt, hword, AluValues.uword]
    rw [huword]
    exact ⟨s, hlayout, hedges _ (hline.goesOn hquiet rfl)⟩
  · have huword : wordAt result.image m.upc = v.uword (commandOf t text) := by
      rw [wordAt, hword, ControlValues.uword]
    rw [huword] at hnested hgo ⊢
    rcases hline.goesOn (upper_command hlength) hquiet hnested hgo rfl with hedge | hsame | ⟨hvalid, hback⟩
    · exact ⟨s, hlayout, hedges _ hedge⟩
    · rw [hsame]
      exact ⟨s, hlayout, hhas⟩
    · rw [hback]
      exact hlink hvalid

theorem call_named {cmd : String} (h : commands.lookup cmd = some 10) : cmd ∈ ["CJUMP", "CALL"] := by
  have hnames : ∀ p ∈ commands, p.2 = 10 → p.1 ∈ ["CJUMP", "CALL"] := by decide
  exact hnames (cmd, 10) (lookup_mem h) rfl

/-- The word after a call is assembled. -/
theorem call_continues (h : assemble t source = .ok result) (hupc : Assembled t source m.upc)
    (hcall : Calls (wordAt result.image m.upc)) : Assembled t source m.sequential := by
  obtain ⟨s, hlayout, -, hplaced⟩ := assemble_placed h
  obtain ⟨s', hlayout', hhas⟩ := hupc
  obtain rfl : s = s' := Except.ok.inj (hlayout.symm.trans hlayout')
  obtain ⟨text, edges, hencode, hedges⟩ := hplaced _ hhas
  refine ⟨s, hlayout, hedges _ ?_⟩
  rw [sequential_toNat]
  rcases encode_ok hencode with ⟨-, -, f, v, -, hword, hline⟩ | ⟨-, hlength, f, v, -, hword, hline⟩
  · have huword : wordAt result.image m.upc = v.uword := by
      rw [wordAt, hword, AluValues.uword]
    rw [huword, Calls, hline.fits.control] at hcall
    exact absurd hcall.1 (by decide)
  · have huword : wordAt result.image m.upc = v.uword (commandOf t text) := by
      rw [wordAt, hword, ControlValues.uword]
    have hcode : v.command = 10 := by
      have hbits : (v.uword (commandOf t text)).command = _ := hline.fits.commandBits
      rw [← huword, hcall.2] at hbits
      have hvalue := congrArg BitVec.toNat hbits
      rw [BitVec.toNat_ofNat, Nat.mod_eq_of_lt hline.fits.command] at hvalue
      exact hvalue.symm
    have hcommand := enum_ok.mp hline.command
    rw [upper_command hlength, hcode] at hcommand
    exact hline.sequential_edge (call_named hcommand)

/-- A state that the sequencer reaches. Calls do not nest, nothing redirects control, and an opcode goes to an
assembled entry. -/
inductive Reached (image : List Nat) (assembled : BitVec 10 → Prop) (start : Microseq) : Microseq → Prop
  | start : Reached image assembled start start
  | step {m : Microseq} (i : MicroseqIn) (hreached : Reached image assembled start m) (hquiet : Quiet i)
      (hnested : Unnested (wordAt image m.upc) m)
      (hentry : Dispatches (wordAt image m.upc) → assembled i.dispatchAddress) :
      Reached image assembled start (m.step (wordAt image m.upc) i)

/-- The word to go on with, and the one to return to, are assembled. -/
def Closed (t : Text) (source : String) (m : Microseq) : Prop :=
  Assembled t source m.upc ∧ (m.linkValid = true → Assembled t source m.link)

theorem dispatches_next (hquiet : Quiet i) (hgo : Dispatches w) : nextAddress w i m = i.dispatchAddress := by
  rw [nextAddress_quiet hquiet, hgo.1, if_pos rfl, controlAddress]
  rcases hgo.2 with hfetch | hdispatch
  · rw [hfetch]
    rfl
  · rw [hdispatch]
    rfl

theorem step_closed (h : assemble t source = .ok result) (hm : Closed t source m) (hquiet : Quiet i)
    (hnested : Unnested (wordAt result.image m.upc) m)
    (hentry : Dispatches (wordAt result.image m.upc) → Assembled t source i.dispatchAddress) :
    Closed t source (m.step (wordAt result.image m.upc) i) := by
  obtain ⟨hupc, hlink⟩ := hm
  have hnext : Assembled t source (nextAddress (wordAt result.image m.upc) i m) := by
    by_cases hgo : Dispatches (wordAt result.image m.upc)
    · rw [dispatches_next hquiet hgo]
      exact hentry hgo
    · exact next_closed h hupc hlink hquiet hnested hgo
  unfold Microseq.step
  rw [if_neg (by rw [hquiet.reset]; decide)]
  cases i.enable with
  | false => exact ⟨hupc, hlink⟩
  | true =>
    rw [if_pos rfl, if_neg (by rw [hquiet.faultRedirect]; decide)]
    split
    · rename_i hcall
      exact ⟨hnext, fun _ => call_continues h hupc ⟨hcall.1, hcall.2.1⟩⟩
    · split
      · exact ⟨hnext, nofun⟩
      · exact ⟨hnext, hlink⟩

theorem reached_closed {start : Microseq} (h : assemble t source = .ok result) (hstart : Closed t source start)
    (hreached : Reached result.image (Assembled t source) start m) : Closed t source m := by
  induction hreached with
  | start => exact hstart
  | step i _ hquiet hnested hentry ih => exact step_closed h ih hquiet hnested hentry

/-- Assembled microcode never falls into unassembled store. A run may begin at any assembled word, inside a call or
not. -/
theorem microcode_closed {start : Microseq} (h : assemble t source = .ok result)
    (hstart : Assembled t source start.upc)
    (hcalled : start.linkValid = true → ∃ call : Microseq, Assembled t source call.upc ∧
      Calls (wordAt result.image call.upc) ∧ start.link = call.sequential)
    (hreached : Reached result.image (Assembled t source) start m) :
    Assembled t source m.upc ∧ ∀ i, Quiet i → Unnested (wordAt result.image m.upc) m →
      ¬ Dispatches (wordAt result.image m.upc) →
        Assembled t source (nextAddress (wordAt result.image m.upc) i m) := by
  have hclosed : Closed t source start := by
    refine ⟨hstart, fun hvalid => ?_⟩
    obtain ⟨call, hcall, hcalls, hlink⟩ := hcalled hvalid
    rw [hlink]
    exact call_continues h hcall hcalls
  obtain ⟨hupc, hlink⟩ := reached_closed h hclosed hreached
  exact ⟨hupc, fun i hquiet hnested hgo => next_closed h hupc hlink hquiet hnested hgo⟩

def callSource : String := "A: call, target=B\n jump, target=A\nB: return"

def quietInput : MicroseqIn where
  reset := false
  enable := true
  ir := 0
  nzvc := 0
  dispatchAddress := 0
  faultTarget := 0
  stepReturn := false
  debugPending := false
  waitReturn := false
  addressOdd := false
  byteInstruction := false
  selectedA := 0
  q0 := false
  loopZero := false
  busError := false
  aOne := false
  irqPending := false
  tracePending := false
  faultRedirect := false
  faultRepair := false

theorem callSource_assembled :
    ∃ result, assemble asciiText callSource = .ok result ∧ wordAt result.image 0 = 0xd00001000 := by
  have hword : (assemble asciiText callSource).toOption.map (fun result => result.image.getD 0 0) =
      some 0xd00001000 := by
    decide +kernel
  cases hresult : assemble asciiText callSource with
  | error message =>
    rw [hresult] at hword
    cases hword
  | ok result =>
    rw [hresult] at hword
    exact ⟨result, rfl, congrArg (BitVec.ofNat 36) (Option.some.inj hword)⟩

theorem microcode_closed_call : ∃ result, assemble asciiText callSource = .ok result ∧
    Assembled asciiText callSource (nextAddress (wordAt result.image 0) quietInput ⟨0, 0, false⟩) := by
  obtain ⟨result, hresult, hword⟩ := callSource_assembled
  have hstart : Assembled asciiText callSource 0 := by
    have hlayout : ((layout asciiText callSource).toOption.map fun s => s.instructions.has 0) = some true := by
      decide +kernel
    cases hs : layout asciiText callSource with
    | error message =>
      rw [hs] at hlayout
      cases hlayout
    | ok s =>
      rw [hs] at hlayout
      exact ⟨s, hs, Option.some.inj hlayout⟩
  let start : Microseq := ⟨0, 0, false⟩
  have hrun := @microcode_closed asciiText start callSource result start hresult hstart nofun .start
  refine ⟨result, hresult, hrun.2 quietInput ⟨rfl, rfl, rfl, rfl, rfl, rfl, rfl, rfl⟩ ?_ ?_⟩
  · change Unnested (wordAt result.image 0) _
    rw [hword]
    exact ⟨fun _ => rfl, fun hreturn => absurd hreturn.2 (by decide)⟩
  · change ¬ Dispatches (wordAt result.image 0)
    rw [hword]
    rintro ⟨-, hfetch | hdispatch⟩
    · exact absurd hfetch (by decide)
    · exact absurd hdispatch (by decide)

end Microasm

end K1801.Uj11
