import K1801.Core.CondCodes
import K1801.Core.Hwstub
import K1801.Core.Stores

/-! # An interrupt loop that does not end

A board of zero words and words with bit 9 set in turn, on which a request of PIRQ level 1 is entered
with priority 0: its dispatches push what the memory and the registers hold already, through the whole
address space and around again.
-/

namespace K1801.Core

open Library

/-- Bit 9 is a request of level 1 in PIRQ and nothing in the PSW. -/
abbrev spinWord : Word := 0o1000

/-- What the word at an even address holds: the PSW of a frame, or its PC. -/
def spinAt (offset : Word) : Word := if offset &&& 2 = 0 then 0 else spinWord

def spinMemory : Memory := fun i => if i % 4 = 3 then 2 else 0

structure SpinRegs (r : Regs) : Prop where
  model : r.model = .dcj11
  psw : r.psw = spinWord
  pirq : r.j11Pirq = spinWord
  pc : r.r 7 = 0
  clear : r.fAbort = false
  slow : r.ramFast = false

structure Spins (m : Machine Memory) : Prop where
  core : SpinRegs m.core
  bus : m.bus = spinMemory

section Memory

variable {offset : Word}

theorem even_iff (offset : Word) : offset &&& 1 = 0 ↔ offset.toNat % 2 = 0 := by
  have hbit : offset &&& 1 ≠ 0 ↔ offset.toNat / 2 ^ 0 % 2 = 1 := and_twoPow_ne_zero offset (show 0 < 16 by decide)
  rw [Nat.pow_zero, Nat.div_one] at hbit
  rw [← not_iff_not, ← ne_eq, hbit]
  omega

theorem spinAt_eq (offset : Word) : spinAt offset = if offset.toNat / 2 % 2 = 1 then spinWord else 0 := by
  have hbit : offset &&& 2 ≠ 0 ↔ offset.toNat / 2 % 2 = 1 := and_twoPow_ne_zero offset (show 1 < 16 by decide)
  unfold spinAt
  by_cases h : offset &&& 2 = 0
  · rw [if_pos h, if_neg fun hset => hbit.2 hset h]
  · rw [if_neg h, if_pos (hbit.1 h)]

theorem spinMemory_bytes (heven : offset &&& 1 = 0) :
    spinMemory offset.toNat = (spinAt offset).setWidth 8 ∧
      spinMemory (offset + 1).toNat = ((spinAt offset) >>> 8).setWidth 8 := by
  have hmod := (even_iff offset).1 heven
  have hlt := offset.isLt
  have hnext : (offset + 1).toNat = offset.toNat + 1 := by
    have hone : (1 : Word).toNat = 1 := rfl
    rw [BitVec.toNat_add, hone]
    omega
  rw [hnext, spinAt_eq]
  unfold spinMemory
  by_cases hbit : offset.toNat / 2 % 2 = 1
  · rw [if_pos hbit, if_neg (by omega), if_pos (by omega)]
    exact ⟨rfl, rfl⟩
  · rw [if_neg hbit, if_neg (by omega), if_neg (by omega)]
    exact ⟨rfl, rfl⟩

theorem spinMemory_word (heven : offset &&& 1 = 0) :
    spinMemory.word offset.toNat (offset + 1).toNat = spinAt offset := by
  obtain ⟨hlow, hhigh⟩ := spinMemory_bytes heven
  unfold Memory.word
  rw [hlow, hhigh]
  unfold spinAt
  split <;> decide

theorem spinMemory_setWord (heven : offset &&& 1 = 0) :
    spinMemory.setWord offset.toNat (offset + 1).toNat (spinAt offset) = spinMemory := by
  obtain ⟨hlow, hhigh⟩ := spinMemory_bytes heven
  unfold Memory.setWord
  rw [← hlow, ← hhigh, Function.update_eq_self, Function.update_eq_self]

end Memory

section Registers

variable {r r' : Regs}

theorem SpinRegs.setPsw (h : SpinRegs r) : r.dcj11SetPsw spinWord = r := by
  have hstack : r.dcj11SwitchStackMode spinWord spinWord = r := by simp [Regs.dcj11SwitchStackMode]
  have hset : r.dcj11SwitchRegset spinWord spinWord = r := by simp [Regs.dcj11SwitchRegset]
  unfold Regs.dcj11SetPsw
  dsimp only
  rw [if_pos h.model, h.psw, hstack, hset, ← h.psw]

theorem spinAt_of_masked {offset a : Word} (h : offset &&& 0o177776 = a) (ha : a &&& 2 ≠ 0) :
    spinAt offset = spinWord := by
  have hbit : offset &&& 2 = a &&& 2 := by
    rw [← h, BitVec.and_assoc]
    rfl
  unfold spinAt
  rw [hbit, if_neg ha]

theorem mmuIoWriteWord_off {b : Build} (hoff : b.enableMmu = false) {a v : Word}
    (h : mmuIoWriteWord b r a v = some r') : r' = r := by
  unfold mmuIoWriteWord at h
  dsimp only at h
  rw [hoff] at h
  repeat' split at h
  all_goals first
    | contradiction
    | exact (Option.some.inj h).symm

/-- A register that takes the word of its address keeps the registers spinning. -/
theorem SpinRegs.regStore (h : SpinRegs r) {b : Build} (hoff : b.enableMmu = false) {offset : Word}
    (hstore : regBlockStoreWord b r offset (spinAt offset) = some r') : SpinRegs r' ∧ r'.r = r.r := by
  unfold regBlockStoreWord at hstore
  rw [if_pos h.model] at hstore
  simp only [Option.orElse_eq_orElse, Option.orElse_eq_or, Option.or_eq_some_iff] at hstore
  rcases hstore with hown | ⟨-, hmmu⟩
  · unfold dcj11RegBlockStoreWord at hown
    dsimp only at hown
    split_ifs at hown with hmemerr hccr hmaint hhitmiss hcpuerr hpirq hstklim hpsw
    · cases hown
      exact ⟨⟨h.model, h.psw, h.pirq, h.pc, h.clear, h.slow⟩, rfl⟩
    · cases hown
      exact ⟨⟨h.model, h.psw, h.pirq, h.pc, h.clear, h.slow⟩, rfl⟩
    · cases hown
      exact ⟨h, rfl⟩
    · cases hown
      exact ⟨h, rfl⟩
    · cases hown
      exact ⟨⟨h.model, h.psw, h.pirq, h.pc, h.clear, h.slow⟩, rfl⟩
    · rw [spinAt_of_masked hpirq (by decide)] at hown
      cases hown
      exact ⟨⟨h.model, h.psw, rfl, h.pc, h.clear, h.slow⟩, rfl⟩
    · cases hown
      exact ⟨⟨h.model, h.psw, h.pirq, h.pc, h.clear, h.slow⟩, rfl⟩
    · have hvalue : dcj11ExplicitPswWrite r spinWord = spinWord := by
        unfold dcj11ExplicitPswWrite
        rw [if_pos h.model, h.psw]
        decide
      rw [spinAt_of_masked hpsw (by decide), hvalue, h.setPsw] at hown
      cases hown
      exact ⟨⟨h.model, h.psw, h.pirq, h.pc, h.clear, h.slow⟩, rfl⟩
  · rw [mmuIoWriteWord_off hoff hmmu]
    exact ⟨h, rfl⟩

end Registers

section Dispatch

variable {n : Nat} {m : Machine Memory}

theorem relocating_hwstub (r : Regs) : relocating (hwstub false).build r = false := rfl

theorem dcj11IoAliasOffset_hwstub (r : Regs) (pa : Dword) : dcj11IoAliasOffset (hwstub false).build r pa = none := rfl

theorem word_le_last (a : Word) : (a.setWidth 32 : Dword) ≤ 0o177777 := by
  rw [BitVec.le_def, BitVec.toNat_setWidth]
  have ha := a.isLt
  have hlast : (0o177777 : Dword).toNat = 65535 := rfl
  omega

theorem same_word (a : Word) : (a.setWidth 32 : Dword).setWidth 16 = a := by
  rw [BitVec.setWidth_setWidth_of_le a (by decide), BitVec.setWidth_eq]

/-- A word of a vector. -/
theorem Spins.load (h : Spins m) {offset : Word} (heven : offset &&& 1 = 0)
    (hmask : offset &&& 0o177776 = offset) :
    ((Env.nested (hwstub false) n).coreLoadWordVector offset).run m = .done (spinAt offset) m := by
  have hreg : (Env.nested (hwstub false) n).physRegLoadWord m.core (offset.setWidth 32) = none := by
    unfold Env.physRegLoadWord
    rw [Env.nested_host]
    rfl
  have hraw : ((Env.nested (hwstub false) n).rawLoadWord offset).run m =
      .done (m.bus.word offset.toNat (offset + 1).toNat) m := by
    unfold Env.rawLoadWord Env.callback
    rw [Env.nested_host]
    rfl
  unfold Env.coreLoadWordVector
  dsimp only
  rw [hmask, Program.run_bind, regs, Program.run_read, Outcome.andThen_done, Env.nested_host,
    if_neg (by simp [hwstub])]
  unfold Env.rawLoadWordPhys
  rw [Program.run_bind, regs, Program.run_read, Outcome.andThen_done, hreg]
  dsimp only
  rw [if_pos (word_le_last offset), same_word, hraw, h.bus, spinMemory_word heven]

/-- A store that goes to memory. -/
theorem Spins.rawStore (h : Spins m) {offset : Word} (heven : offset &&& 1 = 0) :
    ((Env.nested (hwstub false) n).rawStoreWordPhys (offset.setWidth 32) (spinAt offset)).run m = .done () m := by
  have hreg : (Env.nested (hwstub false) n).physRegStoreWord m.core (offset.setWidth 32) (spinAt offset) = none := by
    unfold Env.physRegStoreWord
    rw [Env.nested_host]
    rfl
  have hraw : ((Env.nested (hwstub false) n).rawStoreWord offset (spinAt offset)).run m =
      .done () { m with bus := m.bus.setWord offset.toNat (offset + 1).toNat (spinAt offset) } := by
    unfold Env.rawStoreWord Env.callback
    rw [Env.nested_host]
    rfl
  unfold Env.rawStoreWordPhys
  rw [Program.run_bind, regs, Program.run_read, Outcome.andThen_done, hreg]
  dsimp only
  rw [if_pos (word_le_last offset), same_word, hraw, h.bus, spinMemory_setWord heven, ← h.bus]

theorem Spins.store (h : Spins m) {offset : Word} (heven : offset &&& 1 = 0) :
    ∃ m', ((Env.nested (hwstub false) n).coreStoreWord offset (spinAt offset)).run m = .done () m' ∧ Spins m' ∧
      m'.core.r = m.core.r := by
  have hodd : ¬ (m.core.model = .dcj11 ∧ offset &&& 1 ≠ 0) := fun hboth => hboth.2 heven
  have hram : ¬ (Env.nested (hwstub false) n).directRam m.core offset 2 = true := by
    simp [Env.directRam, h.core.slow]
  have htlb : (Env.nested (hwstub false) n).tlbPtr m.core (currentApr m.core offset false false) offset 2 true =
      none := by
    unfold Env.tlbPtr
    rw [Env.nested_host, relocating_hwstub, if_neg (by decide)]
  have hreg : (Env.nested (hwstub false) n).vaRegStoreWord m.core offset (spinAt offset) =
      regBlockStoreWord (hwstub false).build m.core offset (spinAt offset) := by
    unfold Env.vaRegStoreWord Env.vaDecodesRegs
    rw [Env.nested_host, relocating_hwstub, if_pos (by decide)]
  rw [coreStoreWord_through hodd hram htlb, hreg, Env.nested_host]
  cases hstore : regBlockStoreWord (hwstub false).build m.core offset (spinAt offset) with
  | some r' =>
    obtain ⟨hregs, hr⟩ := h.core.regStore rfl hstore
    have hcore : (Micro.regStoreWord (hwstub false).build offset (spinAt offset)).apply m.core = r' := by
      change (regBlockStoreWord (hwstub false).build m.core offset (spinAt offset)).getD m.core = r'
      rw [hstore]
      rfl
    refine ⟨((m.after (.regStoreWord (hwstub false).build offset (spinAt offset))).after
      (.internalRegWrite (hwstub false).build offset false)), rfl, ⟨?_, h.bus⟩, ?_⟩
    · change SpinRegs ((Micro.regStoreWord (hwstub false).build offset (spinAt offset)).apply m.core)
      rw [hcore]
      exact hregs
    · change ((Micro.regStoreWord (hwstub false).build offset (spinAt offset)).apply m.core).r = m.core.r
      rw [hcore]
      exact hr
  | none =>
    have hspins : Spins (Machine.after m (.translate (hwstub false).build offset true false false)) := ⟨h.core, h.bus⟩
    refine ⟨_, ?_, hspins, rfl⟩
    unfold storeThrough
    dsimp only
    exact hspins.rawStore heven

theorem Spins.setR (h : Spins m) {i : BitVec 3} (hi : i ≠ 7) (v : Word) :
    Spins (Machine.after m (.setR i v)) :=
  ⟨⟨h.core.model, h.core.psw, h.core.pirq, (Function.update_of_ne hi.symm _ _).trans h.core.pc, h.core.clear,
    h.core.slow⟩, h.bus⟩

theorem SpinRegs.stackReference {r : Regs} (h : SpinRegs r) (addr : Word) :
    SpinRegs (r.dcj11NoteStackReference addr) ∧ (r.dcj11NoteStackReference addr).r = r.r := by
  unfold Regs.dcj11NoteStackReference
  rw [if_neg (by simp [h.model])]
  have hset : SpinRegs { r.dcj11SetCpuerr Regs.cpuerrYel with dcj11YellowPending := true } ∧
      (r.dcj11SetCpuerr Regs.cpuerrYel).r = r.r := by
    unfold Regs.dcj11SetCpuerr
    rw [if_neg (by simp [h.model])]
    exact ⟨⟨h.model, h.psw, h.pirq, h.pc, h.clear, h.slow⟩, rfl⟩
  dsimp only
  generalize (if r.j11Stklim &&& 0o177776 = 0 then (0o400 : Word) else r.j11Stklim &&& 0o177776) = limit
  split
  · exact ⟨h, rfl⟩
  · split
    · exact ⟨h, rfl⟩
    · split
      · exact hset
      · exact ⟨h, rfl⟩

theorem Spins.push (h : Spins m) {sp : Word} (hsp : m.core.r 6 - 2 = sp) (heven : sp &&& 1 = 0) :
    ∃ m', ((Env.nested (hwstub false) n).pushw (spinAt sp)).run m = .done () m' ∧ Spins m' ∧ m'.core.r 6 = sp := by
  have hset := h.setR (i := 6) (by decide) sp
  have hr : (Machine.after m (.setR 6 sp)).core.r 6 = sp :=
    (Function.update_self (6 : BitVec 3) sp m.core.r :)
  obtain ⟨hregs, hkept⟩ := hset.core.stackReference sp
  have hnoted : Spins (Machine.after (Machine.after m (.setR 6 sp)) (.stackReference sp)) := ⟨hregs, hset.bus⟩
  obtain ⟨m', hrun, hspins, hsame⟩ := hnoted.store (n := n) heven
  have hnow : (Machine.after (Machine.after m (.setR 6 sp)) (.stackReference sp)).core.r 6 = sp :=
    (congrFun hkept 6).trans hr
  refine ⟨m', ?_, hspins, (congrFun hsame 6).trans hnow⟩
  unfold Env.pushw
  rw [Program.run_bind, getR_run, Outcome.andThen_done, hsp, Program.run_bind, setR_run, Outcome.andThen_done,
    Program.run_bind, getR_run, Outcome.andThen_done, hr, Program.run_bind, run_perform_enabled rfl,
    Outcome.andThen_done, Program.run_bind, getR_run, Outcome.andThen_done, hnow, hrun]

/-- The stack pointer is at the end of a frame. -/
def Aligned (m : Machine Memory) : Prop := (m.core.r 6).toNat % 4 = 0

theorem Aligned.frame {sp : Word} (h : sp.toNat % 4 = 0) :
    (sp - 2) &&& 1 = 0 ∧ spinAt (sp - 2) = spinWord ∧ (sp - 2 - 2) &&& 1 = 0 ∧ spinAt (sp - 2 - 2) = 0 ∧
      (sp - 2 - 2).toNat % 4 = 0 := by
  have hlt := sp.isLt
  have htwo : (2 : Word).toNat = 2 := rfl
  simp only [even_iff, spinAt_eq, BitVec.toNat_sub, htwo]
  refine ⟨by omega, if_pos (by omega), by omega, if_neg (by omega), by omega⟩

theorem Spins.entered (h : Spins m) (vec oldPc : Word) :
    Spins (m.entered vec oldPc spinWord spinWord) ∧
      (m.entered vec oldPc spinWord spinWord).core.r = m.core.r := by
  have hpsw : trapPsw m.core spinWord spinWord = spinWord := by
    unfold trapPsw
    rw [if_neg (by rw [h.core.model]; decide), if_pos h.core.model]
    decide
  have hcore : (m.entered vec oldPc spinWord spinWord).core = { m.core with
      dcj11VectorOldPc := oldPc, dcj11VectorOldPsw := spinWord, dcj11VectorPushActive := true } := by
    unfold Machine.entered Machine.after
    dsimp only [Micro.apply]
    rw [hpsw, h.core.setPsw, if_pos h.core.model]
  refine ⟨⟨?_, h.bus⟩, ?_⟩
  · rw [hcore]
    exact ⟨h.core.model, h.core.psw, h.core.pirq, h.core.pc, h.core.clear, h.core.slow⟩
  · rw [hcore]

theorem Spins.takeVector (h : Spins m) (hsp : Aligned m) :
    ∃ m', ((Env.nested (hwstub false) n).takeVectorHere 0o240).run m = .done () m' ∧ Spins m' ∧ Aligned m' := by
  obtain ⟨hevenPsw, hwordPsw, hevenPc, hwordPc, haligned⟩ := Aligned.frame hsp
  have hloadPsw : ((Env.nested (hwstub false) n).coreLoadWordVector 0o242).run m = .done spinWord m :=
    h.load (show (0o242 : Word) &&& 1 = 0 from rfl) rfl
  have hloadPc : ((Env.nested (hwstub false) n).coreLoadWordVector 0o240).run m = .done 0 m :=
    h.load (show (0o240 : Word) &&& 1 = 0 from rfl) rfl
  obtain ⟨hentered, hregs⟩ := h.entered 0o240 0
  obtain ⟨m₁, hpushPsw, h₁, hsp₁⟩ := hentered.push (n := n) (congrArg (· - 2) (congrFun hregs 6)) hevenPsw
  obtain ⟨m₂, hpushPc, h₂, hsp₂⟩ := h₁.push (n := n) (congrArg (· - 2) hsp₁) hevenPc
  rw [hwordPsw] at hpushPsw
  rw [hwordPc] at hpushPc
  have hanswers : (Env.nested (hwstub false) n).EntryAnswers 0o240 0 spinWord m spinWord 0 m m m₁ m₂ :=
    ⟨⟨hloadPsw, h.core.clear⟩, ⟨hloadPc, h.core.clear⟩, ⟨hpushPsw, h₁.core.clear⟩, ⟨hpushPc, h₂.core.clear⟩⟩
  obtain ⟨hrun, -⟩ := coreTakeVector_answers.2 ⟨_, _, _, _, _, _, hanswers, rfl⟩
  refine ⟨(Machine.after m₂ .vectorPushed).after (.setR 7 0), ?_, ⟨⟨h₂.core.model, h₂.core.psw, h₂.core.pirq,
    Function.update_self (7 : BitVec 3) 0 m₂.core.r, h₂.core.clear, h₂.core.slow⟩, h₂.bus⟩, ?_⟩
  · rw [takeVectorHere_run, h.core.pc, h.core.psw]
    exact hrun
  · have hkept : (Function.update m₂.core.r 7 0) 6 = m₂.core.r 6 := Function.update_of_ne (by decide) _ _
    change ((Function.update m₂.core.r 7 0) 6).toNat % 4 = 0
    rw [hkept, hsp₂]
    exact haligned

/-- Polling finds the request of PIRQ, and it is accepted. -/
theorem serviceIrq_pirq {e : Env Memory} (hmodel : m.core.model = .dcj11) (hpirq : m.core.j11Pirq = spinWord)
    (hpsw : m.core.psw = spinWord) : e.serviceIrq.run m = (do e.takeVectorHere 0o240; pure true).run m := by
  have hpoll : dcj11PirqPoll m.core = some 0o1240 := by
    unfold dcj11PirqPoll
    rw [if_neg (by simp [hmodel]), hpirq, hpsw]
    decide
  have haccept : irqAccept m.core 0o1240 = some 0o240 := by
    unfold irqAccept
    dsimp only
    rw [hmodel, hpsw]
    decide
  unfold Env.serviceIrq Env.corePollIrqAny
  rw [Program.run_bind, Program.run_bind, regs, Program.run_read, Outcome.andThen_done, hpoll]
  dsimp only
  rw [Program.run_pure, Outcome.andThen_done, Program.run_bind, Program.run_read, Outcome.andThen_done, haccept]

theorem Spins.serviceIrq (h : Spins m) (hsp : Aligned m) :
    ∃ m', (Env.nested (hwstub false) n).serviceIrq.run m = .done true m' ∧ Spins m' ∧ Aligned m' := by
  obtain ⟨m', hrun, hspins, haligned⟩ := h.takeVector (n := n) hsp
  refine ⟨m', ?_, hspins, haligned⟩
  rw [serviceIrq_pirq h.core.model h.core.pirq h.core.psw, Program.run_bind, hrun, Outcome.andThen_done,
    Program.run_pure]

theorem Spins.irqLoop (h : Spins m) (hsp : Aligned m) (k : Nat) :
    ∃ m', ((Env.nested (hwstub false) n).irqLoop k).run m = .stuck .polling m' := by
  induction k generalizing m with
  | zero => exact ⟨m, rfl⟩
  | succ k ih =>
    obtain ⟨m₁, hrun, hspins, haligned⟩ := h.serviceIrq (n := n) hsp
    unfold Env.irqLoop
    rw [Program.run_bind, hrun, Outcome.andThen_done, if_neg (by decide), Program.run_bind, aborted,
      Program.run_read, Outcome.andThen_done, hspins.core.clear, if_neg (by decide)]
    exact ih hspins haligned

end Dispatch

/-! ## Vectors that are not mapped

With the MMU on and no kernel page resident the words of the MMU vector cannot be read either, so the
entry for the abort aborts in turn.
-/

section Unmapped

variable {n : Nat} {m : Machine Memory} {offset : Word}

structure Unmapped (r : Regs) : Prop where
  model : r.model = .dcj11
  enabled : mmuEnabled r = true
  space : r.mmu.ssr3 = 0
  page : r.mmu.pdr ⟨0, false, 0⟩ = 0
  uncached : (r.mmu.tlb ⟨0, false, 0⟩).hostBase = none
  idle : r.dcj11VectorPushActive = false

theorem Unmapped.relocating {r : Regs} (h : Unmapped r) : relocating (hwstub true).build r = true := by
  have hmmu : (hwstub true).build.enableMmu = true := rfl
  unfold Core.relocating
  rw [hmmu, h.model, h.enabled]
  rfl

theorem Unmapped.recordFault {r : Regs} (h : Unmapped r) (fault : MmuFault) (apr : Apr) :
    Unmapped (r.mmuRecordFault (hwstub true).build fault apr) := by
  unfold Regs.mmuRecordFault
  split
  · exact h
  · split
    · exact h
    · split
      · exact h
      · refine ⟨h.model, ?_, h.space, h.page, h.uncached, h.idle⟩
        have hbit : mmuFaultToSsr0Bits fault &&& mmuSsr0Enable = 0 := by cases fault <;> decide
        have henabled := h.enabled
        unfold mmuEnabled at henabled ⊢
        dsimp only
        rw [BitVec.and_assoc, show mmuSsr0JMask &&& mmuSsr0Enable = mmuSsr0Enable by decide,
          BitVec.and_or_distrib_right, BitVec.and_or_distrib_right, hbit, BitVec.and_assoc, BitVec.and_assoc,
          BitVec.and_self, show mmuSsr0PageMask &&& mmuSsr0Enable = 0 by decide]
        simpa using henabled

theorem Unmapped.translate {r : Regs} (h : Unmapped r) (hoffset : offset = 0o242 ∨ offset = 0o252) :
    modeSpaceApr r offset 0 true = ⟨0, false, 0⟩ ∧
      translateVaModeSpace (hwstub true).build r offset false 0 true = (.error .length, r) := by
  have hapr : modeSpaceApr r offset 0 true = ⟨0, false, 0⟩ := by
    unfold modeSpaceApr mmuSplitEnabled
    rw [h.space]
    rcases hoffset with rfl | rfl <;> decide
  refine ⟨hapr, ?_⟩
  unfold translateVaModeSpace
  rw [h.relocating, hapr, if_neg (by decide)]
  unfold mmuRelocate
  dsimp only
  rw [h.page]
  rcases hoffset with rfl | rfl <;> rfl

/-- The word is refused as the page is too short for it. -/
theorem Unmapped.refused (h : Unmapped m.core) (hoffset : offset = 0o242 ∨ offset = 0o252) :
    ∃ m₁, ((Env.nested (hwstub true) n).coreLoadWordVector offset).run m =
        (do (Env.nested (hwstub true) n).mmuFaultTrap offset (m.core.r 7) .length ⟨0, false, 0⟩; pure 0).run m₁ ∧
      Unmapped m₁.core := by
  obtain ⟨hapr, htranslate⟩ := h.translate hoffset
  have heven : offset &&& 1 = 0 ∧ offset &&& 0o177776 = offset := by rcases hoffset with rfl | rfl <;> decide
  have hodd : ¬ (m.core.model = .dcj11 ∧ offset &&& 1 ≠ 0) := fun hboth => hboth.2 heven.1
  have htlb : (Env.nested (hwstub true) n).tlbPtr m.core ⟨0, false, 0⟩ offset 2 false = none := by
    unfold Env.tlbPtr mmuTlbPtr
    dsimp only
    rw [h.uncached]
    exact ite_self _
  have hreg : (Env.nested (hwstub true) n).vaRegLoadWord m.core offset = none := by
    unfold Env.vaRegLoadWord Env.vaDecodesRegs
    rw [Env.nested_host, h.relocating]
    rfl
  have hcore : (Micro.translateModeSpace (hwstub true).build offset false 0 true).apply m.core = m.core :=
    congrArg Prod.snd htranslate
  refine ⟨Machine.after m (.translateModeSpace (hwstub true).build offset false 0 true), ?_, ?_⟩
  · unfold Env.coreLoadWordVector
    dsimp only
    rw [heven.2, Program.run_bind, regs, Program.run_read, Outcome.andThen_done, Env.nested_host,
      if_pos ⟨rfl, h.model⟩]
    unfold Env.coreLoadWordModeSpace
    rw [Program.run_bind, regs, Program.run_read, Outcome.andThen_done, if_neg hodd]
    dsimp only
    rw [hapr, htlb, hreg]
    dsimp only
    unfold Env.translated Env.mmuFault
    rw [Program.run_bind, regs, Program.run_read, Outcome.andThen_done, Program.run_bind, run_perform_enabled rfl,
      Outcome.andThen_done, Env.nested_host]
    dsimp only
    rw [htranslate, hapr]
    dsimp only
    rw [Program.run_bind, Program.run_bind, getR_run, Outcome.andThen_done, Program.run_bind]
    unfold Machine.after
    rw [hcore]
  · unfold Machine.after
    rw [hcore]
    exact h

theorem Unmapped.load (h : Unmapped m.core) (hoffset : offset = 0o242 ∨ offset = 0o252) :
    ∃ m', ((Env.nested (hwstub true) n).coreLoadWordVector offset).run m = .stuck .nesting m' := by
  induction n generalizing m offset with
  | zero =>
    obtain ⟨m₁, hrun, -⟩ := h.refused (n := 0) hoffset
    exact ⟨m₁, hrun⟩
  | succ n ih =>
    obtain ⟨m₁, hrun, h₁⟩ := h.refused (n := n + 1) hoffset
    have hrecorded := h₁.recordFault .length ⟨0, false, 0⟩
    obtain ⟨m', hstuck⟩ := ih (m := Machine.after m₁ (.recordFault (hwstub true).build .length ⟨0, false, 0⟩))
      hrecorded (.inr rfl)
    refine ⟨m', hrun.trans ?_⟩
    rw [Env.nested_mmuFaultTrap]
    unfold Env.mmuAbort Env.dcj11TakeRedStackAbort
    rw [Program.run_bind, Program.run_bind, regs, Program.run_read, Outcome.andThen_done, Program.run_bind,
      Program.run_bind, Program.run_read, Outcome.andThen_done, if_pos (.inr (by rw [h₁.idle]; rfl)),
      Program.run_pure, Outcome.andThen_done, if_neg (by decide), Program.run_bind, Env.nested_host,
      run_perform_enabled rfl, Outcome.andThen_done, Program.run_bind]
    unfold Env.coreTakeVector
    rw [Program.run_bind]
    change (((((Env.nested (hwstub true) n).coreLoadWordVector 0o252).run _).andThen _).andThen _).andThen _ = _
    rw [hstuck]
    rfl

theorem Unmapped.irqLoop (h : Unmapped m.core) (hpirq : m.core.j11Pirq = spinWord) (hpsw : m.core.psw = spinWord)
    (k : Nat) : ∃ m', ((Env.nested (hwstub true) n).irqLoop (k + 1)).run m = .stuck .nesting m' := by
  obtain ⟨m', hstuck⟩ := h.load (n := n) (show (0o242 : Word) = 0o242 ∨ (0o242 : Word) = 0o252 from .inl rfl)
  have htake : ((Env.nested (hwstub true) n).takeVectorHere 0o240).run m = .stuck .nesting m' := by
    rw [takeVectorHere_run]
    unfold Env.coreTakeVector
    rw [Program.run_bind]
    change (((Env.nested (hwstub true) n).coreLoadWordVector 0o242).run m).andThen _ = _
    rw [hstuck]
    rfl
  refine ⟨m', ?_⟩
  unfold Env.irqLoop
  rw [Program.run_bind, serviceIrq_pirq h.model hpirq hpsw, Program.run_bind, htake]
  rfl

end Unmapped

/-- A J-11 in kernel mode at priority 0, with a request of level 1 in PIRQ. -/
def spinMachine : Machine Memory where
  core := { model := .dcj11, psw := spinWord, j11Pirq := spinWord, r := fun i => if i = 6 then 0o1000 else 0 }
  bus := spinMemory

/-- The same J-11 with the MMU on and no page resident. -/
def unmappedMachine : Machine Memory where
  core := { spinMachine.core with mmu := { ssr0 := mmuSsr0Enable } }
  bus := spinMemory

end K1801.Core
