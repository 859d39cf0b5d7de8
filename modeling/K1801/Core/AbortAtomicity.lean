import K1801.Core.TrapEntry
import K1801.Core.Hwstub

/-! # Control transfers after an aborted load

RTS, RTI, RTT, MARK and MFUS load their new register values from memory and do not look at the
abort flag. What they write after an aborted load lands on top of the trap entry.
-/

namespace K1801.Core

open Library

variable {β α : Type}

/-! ## The abort flag and the log -/

def Micro.aborts : Micro → Bool
  | setAbort v => v
  | _ => false

theorem Micro.fAbort_of_not_aborts {op : Micro} {r : Regs} (hop : op.aborts = false)
    (hr : r.fAbort = false) : (op.apply r).fAbort = false := by
  cases op with
  | setAbort v => exact hop
  | _ => exact (Micro.fAbort_apply (by simp) r).trans hr

theorem Micro.fAbort_of_aborts {op : Micro} (hop : op.aborts = true) (r : Regs) :
    (op.apply r).fAbort = true := by
  cases op with
  | setAbort v => exact hop
  | _ => cases hop

/-- An abort that was not there before is in the log. -/
theorem abort_logged {r r' : Regs} {ops : List Micro} (h : micro.Run r ops r')
    (hr : r.fAbort = false) (hr' : r'.fAbort = true) : ∃ op ∈ ops, op.aborts = true := by
  by_contra hnone
  have hclear : r'.fAbort = false := by
    refine h.preserves (P := fun r => r.fAbort = false) (S := fun op => op.aborts = false) ?_ ?_ hr
    · intro op s hop _ hs
      exact Micro.fAbort_of_not_aborts hop hs
    · intro op hop
      by_contra hop'
      exact hnone ⟨op, hop, by simpa using hop'⟩
  exact absurd (hr'.symm.trans hclear) (by decide)

/-- Where nothing clears the flag, a logged abort is still pending at the end. -/
theorem abort_pending {r r' : Regs} {ops : List Micro} (h : micro.Run r ops r')
    (hops : ∀ op ∈ ops, op ≠ .setAbort false) (habort : ∃ op ∈ ops, op.aborts = true) :
    r'.fAbort = true := by
  induction h with
  | nil => simp at habort
  | @cons _ ops op hrun _ ih =>
    by_cases hop : op.aborts = true
    · exact Micro.fAbort_of_aborts hop _
    · obtain ⟨o, ho, haborts⟩ := habort
      have hold : o ∈ ops := by
        rcases List.mem_cons.1 ho with rfl | ho
        · exact absurd haborts hop
        · exact ho
      have hset := ih (fun o ho => hops o (by simp [ho])) ⟨o, hold, haborts⟩
      exact Micro.fAbort_kept (hops op (by simp)) hset

/-! ## Atomicity -/

/-- The general registers and the PSW. -/
def Regs.visible (r : Regs) : (BitVec 3 → Word) × Word := (r.r, r.psw)

/-- From the first abort on, the operations leave the registers and the PSW alone: at every later
    moment they are what they are at the end. -/
def AbortAtomic (r : Regs) (ops : List Micro) : Prop :=
  ∀ newer older, ops = newer ++ older → (∃ op ∈ older, op.aborts = true) →
    (micro.replay ops r).visible = (micro.replay older r).visible

theorem AbortAtomic.of_no_abort {r r' : Regs} {ops : List Micro} (h : micro.Run r ops r')
    (hops : ∀ op ∈ ops, op ≠ .setAbort false) (hr' : r'.fAbort = false) : AbortAtomic r ops := by
  rintro newer older rfl ⟨op, hop, haborts⟩
  have hset := abort_pending h hops ⟨op, List.mem_append_right newer hop, haborts⟩
  exact absurd (hset.symm.trans hr') (by decide)

/-- An operation that changes a register after an abort breaks atomicity, whatever follows. -/
theorem AbortAtomic.not_of_change {m m₁ m' : Machine β} {op : Micro} (h : Moves micro m m₁)
    (h' : Moves micro (m₁.after op) m') (hop : op.enabled m₁.core = true)
    (hm : m.core.fAbort = false) (hm₁ : m₁.core.fAbort = true)
    (hchange : (op.apply m₁.core).visible ≠ m₁.core.visible) : ¬ AbortAtomic m.core (m.since m') := by
  intro hatomic
  have hmid : m₁.core = micro.replay (m.since m₁) m.core := h.run.eq_replay
  have hlog : m.since m' = ((m₁.after op).since m' ++ [op]) ++ m.since m₁ := by
    rw [(h.trans (Machine.moves_after hop)).since_trans h', Machine.since_after hop h]
    simp
  have hbefore := hatomic _ _ hlog (abort_logged h.run hm hm₁)
  have hafter := hatomic ((m₁.after op).since m') (op :: m.since m₁) (by simp [hlog])
    ((abort_logged h.run hm hm₁).imp fun _ => .imp_left (List.mem_cons_of_mem _))
  rw [Operations.replay_cons, ← hmid] at hafter
  rw [← hmid] at hbefore
  exact hchange (hafter.symm.trans hbefore)

/-! ## Pops -/

theorem pullw_done {e : Env β} {m m₁ : Machine β} {v : Word} (h : e.pullw.run m = .done v m₁) :
    ∃ m₀ : Machine β, (e.coreLoadWord (m.core.r 6)).run m = .done v m₀ ∧
      m₁ = m₀.after (.setR 6 (m₀.core.r 6 + 2)) := by
  obtain ⟨v', m₀, hload, h⟩ := Outcome.andThen_eq_done.1 h
  cases h
  exact ⟨m₀, hload, rfl⟩

theorem setR_changes {r : Regs} {i : BitVec 3} {v : Word} (hv : v ≠ r.r i) :
    ((Micro.setR i v).apply r).visible ≠ r.visible := by
  intro h
  have hi : Function.update r.r i v i = r.r i := congrFun (congrArg Prod.fst h) i
  rw [Function.update_self] at hi
  exact hv hi

theorem add_two_ne (v : Word) : v + 2 ≠ v := by
  intro h
  simp at h

/-- A pop that aborts still moves SP. -/
theorem pullw_breaks {e : Env β} {m₀ m m₁ m' : Machine β} {v : Word} (h₀ : Moves micro m₀ m)
    (hclear : m₀.core.fAbort = false) (hpull : e.pullw.run m = .done v m₁)
    (habort : m₁.core.fAbort = true) (h' : Moves micro m₁ m') :
    ¬ AbortAtomic m₀.core (m₀.since m') := by
  obtain ⟨m₂, hload, rfl⟩ := pullw_done hpull
  have hmoves : Moves micro m m₂ := by
    have := (e.coreLoadWord (m.core.r 6)).moves m
    rwa [hload] at this
  exact AbortAtomic.not_of_change (h₀.trans hmoves) h' rfl hclear habort (setR_changes (add_two_ne _))

/-! ## The five instructions -/

/-- The instructions that load a register from memory without a test of the abort flag. -/
def Instr.loadsUnchecked : Instr → Bool
  | .rts _ | .rti | .rtt | .mark _ | .mfus => true
  | _ => false

namespace Env

/-- The loads of one of these instructions answer, each in the state it is made in. -/
def LoadsAnswer (e : Env β) (m : Machine β) : Instr → Prop
  | .rts reg => ∃ v m₁, Answers e.pullw (m.after (.setR 7 (m.core.r reg))) v m₁
  | .rti | .rtt => ∃ pc psw m₁ m₂, Answers e.pullw m pc m₁ ∧ Answers e.pullw m₁ psw m₂
  | .mark nn => ∃ v m₁, Answers e.pullw
      ((m.after (.setR 6 (m.core.r 7 + (nn <<< 1)))).after (.setR 7 (m.core.r 5))) v m₁
  | .mfus => ∃ v m₁, Answers (e.coreLoadWord (m.core.r 5)) (m.after .clearH) v m₁
  | _ => True

end Env

/-- What is shown of each instruction: its loads answer and no abort is pending after it, or one
    does not and what follows is not atomic. -/
def Decided (e : Env β) (i : Instr) (m m' : Machine β) : Prop :=
  (e.LoadsAnswer m i ∧ m'.core.fAbort = false) ∨
    (¬ e.LoadsAnswer m i ∧ ¬ AbortAtomic m.core (m.since m'))

theorem moves_of_done {p : M β α} {m m' : Machine β} {a : α} (h : p.run m = .done a m') :
    Moves micro m m' := by
  have hmoves := p.moves m
  rwa [h] at hmoves

theorem not_answers_of_abort {p : M β α} {m m' : Machine β} {a : α} (h : p.run m = .done a m')
    (habort : m'.core.fAbort = true) : ¬ ∃ a m', Answers p m a m' := by
  rintro ⟨a', m₁, hrun, hclear⟩
  rw [h] at hrun
  cases hrun
  exact absurd (habort.symm.trans hclear) (by decide)

theorem rts_decided {e : Env β} {reg : BitVec 3} {m m' : Machine β} (hclear : m.core.fAbort = false)
    (hrun : (e.rts reg).run m = .done () m') : Decided e (.rts reg) m m' := by
  obtain ⟨v, m₁, hpull, h⟩ := Outcome.andThen_eq_done.1
    (show (e.pullw.run (m.after (.setR 7 (m.core.r reg)))).andThen (fun v => (setR reg v : M β Unit).run) =
      .done () m' from hrun)
  rw [setR_run] at h
  cases h
  by_cases habort : m₁.core.fAbort = true
  · exact .inr ⟨not_answers_of_abort hpull habort, pullw_breaks (Machine.moves_after rfl) hclear hpull
      habort (Machine.moves_after rfl)⟩
  · have hanswer : m₁.core.fAbort = false := Bool.eq_false_iff.2 habort
    exact .inl ⟨⟨v, m₁, hpull, hanswer⟩, hanswer⟩

theorem mark_decided {e : Env β} {nn : Word} {m m' : Machine β} (hclear : m.core.fAbort = false)
    (hrun : (e.mark nn).run m = .done () m') : Decided e (.mark nn) m m' := by
  have hstart : Moves micro m
      ((m.after (.setR 6 (m.core.r 7 + (nn <<< 1)))).after (.setR 7 (m.core.r 5))) :=
    (Machine.moves_after rfl).trans (Machine.moves_after rfl)
  obtain ⟨v, m₁, hpull, h⟩ := Outcome.andThen_eq_done.1
    (show (e.pullw.run ((m.after (.setR 6 (m.core.r 7 + (nn <<< 1)))).after (.setR 7 (m.core.r 5)))).andThen
      (fun v => (setR 5 v : M β Unit).run) = .done () m' from hrun)
  rw [setR_run] at h
  cases h
  by_cases habort : m₁.core.fAbort = true
  · exact .inr ⟨not_answers_of_abort hpull habort, pullw_breaks hstart hclear hpull habort
      (Machine.moves_after rfl)⟩
  · have hanswer : m₁.core.fAbort = false := Bool.eq_false_iff.2 habort
    exact .inl ⟨⟨v, m₁, hpull, hanswer⟩, hanswer⟩

/-- RTI and RTT: a second pop follows an aborted first one. -/
theorem returnFromTrap_decided {e : Env β} {m m₃ m' : Machine β} (hclear : m.core.fAbort = false)
    (hrun : e.returnFromTrap.run m = .done () m₃) (htail : Moves micro m₃ m')
    (hflag : m'.core.fAbort = m₃.core.fAbort) : Decided e .rti m m' := by
  obtain ⟨pc, (m₁ : Machine β), hpc, h⟩ := Outcome.andThen_eq_done.1 hrun
  obtain ⟨psw, (m₂ : Machine β), hpsw, h⟩ := Outcome.andThen_eq_done.1 h
  have hend : m₃ = (m₂.after (.setR 7 pc)).after (.returnPsw psw) := by
    cases h
    rfl
  have hrest : Moves micro m₂ m' := by
    rw [hend] at htail
    exact ((Machine.moves_after rfl).trans (Machine.moves_after rfl)).trans htail
  by_cases hfirst : m₁.core.fAbort = true
  · refine .inr ⟨?_, pullw_breaks (.refl m) hclear hpc hfirst ((moves_of_done hpsw).trans hrest)⟩
    rintro ⟨_, _, _, _, hanswer, _⟩
    exact not_answers_of_abort hpc hfirst ⟨_, _, hanswer⟩
  have hanswer : Answers e.pullw m pc m₁ := ⟨hpc, Bool.eq_false_iff.2 hfirst⟩
  by_cases hsecond : m₂.core.fAbort = true
  · refine .inr ⟨?_, pullw_breaks (moves_of_done hpc) hclear hpsw hsecond hrest⟩
    rintro ⟨_, _, _, _, hanswer', hanswer₂⟩
    have hsame := hanswer.1.symm.trans hanswer'.1
    cases hsame
    exact not_answers_of_abort hpsw hsecond ⟨_, _, hanswer₂⟩
  · have hanswer₂ : m₂.core.fAbort = false := Bool.eq_false_iff.2 hsecond
    have hother : ∀ v, Micro.returnPsw psw ≠ .setAbort v := nofun
    refine .inl ⟨⟨pc, psw, m₁, m₂, hanswer, hpsw, hanswer₂⟩, ?_⟩
    rw [hflag, hend]
    exact (Micro.fAbort_apply hother _).trans hanswer₂

/-- MFUS advances R5 after an aborted load. -/
theorem mfus_decided {e : Env β} {m m' : Machine β} (hclear : m.core.fAbort = false)
    (hmodel : m.core.model.isVm2 = true) (hlegal : flagIsSet m.core.psw flagH = true)
    (hrun : e.mfus.run m = .done () m') : Decided e .mfus m m' := by
  have hbody : e.mfus.run m = ((e.coreLoadWord (m.core.r 5)).run (m.after .clearH)).andThen
      (fun v => (do setR 0 v; setR 5 ((← getR 5) + 2); perform (.restorePsw m.core.psw) : M β Unit).run) := by
    have hclearH : (perform .clearH : M β Unit).run m = .done () (m.after .clearH) :=
      run_perform_enabled hmodel
    simp only [Env.mfus, Env.vm2Guarded, Program.run_bind, regs, Program.run_read, Outcome.andThen_done,
      hlegal, if_true, hclearH]
    rfl
  rw [hbody] at hrun
  obtain ⟨v, (m₁ : Machine β), hload, h⟩ := Outcome.andThen_eq_done.1 hrun
  have hmodel₁ : m₁.core.model.isVm2 = true := by
    have hkept := Program.model_run (e.coreLoadWord (m.core.r 5)) (m.after .clearH)
    rw [hload] at hkept
    rw [show m₁.core.model = m.core.model from hkept]
    exact hmodel
  have hend : m' = ((m₁.after (.setR 0 v)).after (.setR 5 ((m₁.after (.setR 0 v)).core.r 5 + 2))).after
      (.restorePsw m.core.psw) := by
    have hrestore : (perform (.restorePsw m.core.psw) : M β Unit).run
        ((m₁.after (.setR 0 v)).after (.setR 5 ((m₁.after (.setR 0 v)).core.r 5 + 2))) =
          .done () (((m₁.after (.setR 0 v)).after (.setR 5 ((m₁.after (.setR 0 v)).core.r 5 + 2))).after
            (.restorePsw m.core.psw)) := run_perform_enabled hmodel₁
    simp only [Program.run_bind, setR_run, Outcome.andThen_done, getR_run] at h
    rw [hrestore] at h
    cases h
    rfl
  have hclearH : Moves micro m (m.after .clearH) := ⟨[.clearH], rfl, .single hmodel⟩
  have hstart : Moves micro m (m₁.after (.setR 0 v)) :=
    (hclearH.trans (moves_of_done hload)).trans (Machine.moves_after rfl)
  by_cases habort : m₁.core.fAbort = true
  · refine .inr ⟨not_answers_of_abort hload habort, ?_⟩
    have hrest : Moves micro ((m₁.after (.setR 0 v)).after
        (.setR 5 ((m₁.after (.setR 0 v)).core.r 5 + 2))) m' := by
      rw [hend]
      exact ⟨[.restorePsw m.core.psw], rfl, .single hmodel₁⟩
    exact AbortAtomic.not_of_change hstart hrest rfl hclear habort (setR_changes (add_two_ne _))
  · have hanswer : m₁.core.fAbort = false := Bool.eq_false_iff.2 habort
    rw [hend]
    exact .inl ⟨⟨v, m₁, hload, hanswer⟩, hanswer⟩

/-- None of the five clears the abort flag. -/
theorem execute_keepsAbort (h : Host β) (n : Nat) {i : Instr} (hi : i.loadsUnchecked = true) :
    KeepsAbort ((Env.nested h n).execute i) := by
  have he := nested_keepsAbort h n
  have hset (i : BitVec 3) (v : Word) : KeepsAbort (setR i v : M β Unit) := .perform nofun
  have hreturn : KeepsAbort (Env.nested h n).returnFromTrap :=
    .bind he.pullw fun _ => .bind he.pullw fun _ => .bind (hset _ _) fun _ => .perform nofun
  cases i with
  | rts reg =>
    exact .bind (.bind (.read _) fun _ => .bind (hset _ _) fun _ => .bind he.pullw fun _ => hset _ _)
      fun _ => .pure _
  | rti => exact .bind hreturn fun _ => .bind (.read _) fun _ => .pure _
  | rtt =>
    refine .bind hreturn fun _ => .bind (.read _) fun _ => .ite (.pure _) ?_
    exact .bind (.perform nofun) fun _ => .pure _
  | mark nn =>
    refine .bind (.bind (.read _) fun _ => .bind (hset _ _) fun _ => ?_) fun _ => .pure _
    exact .bind (.read _) fun _ => .bind (hset _ _) fun _ => .bind he.pullw fun _ => hset _ _
  | mfus =>
    refine .bind (.bind (.read _) fun _ => .ite ?_ (he.takeVectorHere _)) fun _ => .pure _
    refine .bind (.read _) fun _ => .bind (.perform nofun) fun _ => .bind (.read _) fun _ => ?_
    refine .bind (he.coreLoadWord _) fun _ => .bind (hset _ _) fun _ => .bind (.read _) fun _ => ?_
    exact .bind (hset _ _) fun _ => .perform nofun
  | _ => cases hi

theorem execute_decided {e : Env β} {i : Instr} (hi : i.loadsUnchecked = true) {m m' : Machine β}
    {l : Locals} (hlegal : i = .mfus → m.core.model.isVm2 = true ∧ flagIsSet m.core.psw flagH = true)
    (hclear : m.core.fAbort = false) (hrun : (e.execute i).run m = .done l m') : Decided e i m m' := by
  cases i with
  | rts reg =>
    obtain ⟨⟨⟩, m₁, hbody, h⟩ := Outcome.andThen_eq_done.1 hrun
    cases h
    exact rts_decided hclear hbody
  | mark nn =>
    obtain ⟨⟨⟩, m₁, hbody, h⟩ := Outcome.andThen_eq_done.1 hrun
    cases h
    exact mark_decided hclear hbody
  | mfus =>
    obtain ⟨⟨⟩, m₁, hbody, h⟩ := Outcome.andThen_eq_done.1 hrun
    cases h
    exact mfus_decided hclear (hlegal rfl).1 (hlegal rfl).2 hbody
  | rti =>
    obtain ⟨⟨⟩, m₁, hbody, h⟩ := Outcome.andThen_eq_done.1 hrun
    cases h
    exact returnFromTrap_decided hclear hbody (.refl _) rfl
  | rtt =>
    obtain ⟨⟨⟩, (m₁ : Machine β), hbody, h⟩ := Outcome.andThen_eq_done.1 hrun
    simp only [Program.run_bind, regs, Program.run_read, Outcome.andThen_done, Program.run_ite] at h
    split at h
    · cases h
      exact returnFromTrap_decided hclear hbody (.refl _) rfl
    · rw [run_perform_enabled rfl, Outcome.andThen_done] at h
      cases h
      exact returnFromTrap_decided hclear hbody (Machine.moves_after rfl) rfl
  | _ => cases hi

theorem leaveClearingAbort_done {m m' : Machine β}
    (h : (Env.leaveClearingAbort : M β Unit).run m = .done () m') : m' = m ∧ m.core.fAbort = false := by
  cases hflag : m.core.fAbort with
  | false =>
    simp [Env.leaveClearingAbort, aborted, hflag] at h
    exact ⟨h.symm, rfl⟩
  | true =>
    have hclear : (perform (.setAbort false) : M β Unit).run m = .done () (m.after (.setAbort false)) :=
      run_perform_enabled rfl
    simp [Env.leaveClearingAbort, aborted, hflag, hclear] at h

/-- The instructions of a step start without a pending abort. -/
theorem fetch_clear {e : Env β} {m m' : Machine β} {op : Word} (hrun : e.fetch.run m = .done op m') :
    m'.core.fAbort = false := by
  unfold Env.fetch at hrun
  obtain ⟨_, _, _, h⟩ := Program.bind_done.1 hrun
  obtain ⟨pc, _, _, h⟩ := Program.bind_done.1 h
  obtain ⟨_, _, _, h⟩ := Program.bind_done.1 h
  obtain ⟨_, _, _, h⟩ := Program.bind_done.1 h
  obtain ⟨_, _, _, h⟩ := Program.bind_done.1 h
  obtain ⟨_, (m₁ : Machine β), hleave, hrest⟩ := Program.bind_done.1 h
  obtain ⟨rfl, hclear⟩ := leaveClearingAbort_done hleave
  rw [Program.run_bind, run_perform_enabled rfl, Outcome.andThen_done, Program.run_bind,
    run_perform_enabled rfl, Outcome.andThen_done, Program.run_bind, Program.run_when] at hrest
  split at hrest
  · cases hrest
    exact hclear
  · cases hrest
    exact hclear

/-- What one of the five instructions does after an aborted load leaves the registers and the PSW
    alone exactly when no load of it aborts. -/
theorem abortAtomic_iff_loadsAnswer {h : Host β} {n : Nat} {i : Instr} (hi : i.loadsUnchecked = true)
    {m m' : Machine β} {l : Locals}
    (hlegal : i = .mfus → m.core.model.isVm2 = true ∧ flagIsSet m.core.psw flagH = true)
    (hclear : m.core.fAbort = false) (hrun : ((Env.nested h n).execute i).run m = .done l m') :
    AbortAtomic m.core (m.since m') ↔ (Env.nested h n).LoadsAnswer m i := by
  rcases execute_decided hi hlegal hclear hrun with ⟨hloads, hend⟩ | ⟨hloads, hnot⟩
  · have hops := (execute_keepsAbort h n hi).since m
    have hmoves := ((Env.nested h n).execute i).moves m
    rw [hrun] at hops hmoves
    exact iff_of_true (.of_no_abort hmoves.run hops hend) hloads
  · exact iff_of_false hnot hloads

/-- A J-11 about to run `RTS PC`; the bus error vector leads to 03000. -/
def rtsPcMachine (sp pc : Word) : Machine Memory where
  core := { model := .dcj11, r := fun i => if i = 6 then sp else pc }
  bus := (Memory.ofWords 0o2000 [0o207]).setWord 4 5 0o3000

/-- After the instruction itself. -/
def rtsPcReturned : Machine Memory :=
  (((Env.nested (hwstub true) 1).execute (.rts 7)).run (rtsPcMachine 0o1000 0o2002)).state

theorem abortAtomic_iff_loadsAnswer_rtsPc :
    AbortAtomic (rtsPcMachine 0o1000 0o2002).core ((rtsPcMachine 0o1000 0o2002).since rtsPcReturned) ↔
      (Env.nested (hwstub true) 1).LoadsAnswer (rtsPcMachine 0o1000 0o2002) (.rts 7) :=
  have hrun : ((Env.nested (hwstub true) 1).execute (.rts 7)).run (rtsPcMachine 0o1000 0o2002) =
    .done {} rtsPcReturned := rfl
  abortAtomic_iff_loadsAnswer rfl nofun rfl hrun

def rtsPcOddStack : Machine Memory := rtsPcMachine 0o1001 0o2000

def rtsPcOddStackAfter : Machine Memory := ((coreStep (hwstub true) 3 1).run rtsPcOddStack).state

/-- The pop of `RTS PC` aborts on an odd SP. The step ends with PC and SP of neither the bus error
    vector nor its frame. -/
theorem rts_overwrites_trap_entry :
    (coreStep (hwstub true) 3 1).run rtsPcOddStack = .done () rtsPcOddStackAfter ∧
    rtsPcOddStack.bus.word 4 5 = 0o3000 ∧ rtsPcOddStackAfter.core.r 7 = 0 ∧
    rtsPcOddStackAfter.core.r 6 = 2 ∧
    ¬ AbortAtomic rtsPcOddStack.core (rtsPcOddStack.since rtsPcOddStackAfter) := by
  refine ⟨rfl, rfl, rfl, rfl, fun h => ?_⟩
  -- the log is cut right after the bus error trap has set the abort flag
  have hatomic := h (rtsPcOddStackAfter.log.take 3) (rtsPcOddStackAfter.log.drop 3) rfl
    ⟨.setAbort true, .head _, rfl⟩
  have hpc := congrFun (congrArg Prod.fst hatomic) 7
  exact absurd hpc (by decide)

end K1801.Core
