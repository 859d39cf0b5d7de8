import K1801.Lsi11.Irq
import K1801.Core.Hwstub

/-! # What a masked source hides

On a VM1 the mask is applied to the source that the scan chose, so a masked source of a high
priority can hide a source that the mask lets through. The other models do not mix the two.
-/

namespace K1801.Lsi11

open Core Library

variable {δ : Type}

/-- The mask rules of the model let the source through. -/
def IrqSource.acceptable (r : Regs) (s : IrqSource δ) : Bool :=
  !(r.model == .dcj11 && levelMasked r s.priority) && !irqRefused r s.vector

/-- `irq_poll` answered with the best acceptable request, if there is one, and cleared only it. -/
inductive PollComplete (table : IrqTable δ) (r : Regs) (d : δ) : Option Word × δ → Prop
  | quiet : (∀ s ∈ table.sources, s.pending d = true → s.acceptable r = false) →
      PollComplete table r d (none, d)
  | granted {s : IrqSource δ} : s ∈ table.sources → s.pending d = true → s.acceptable r = true →
      (∀ s' ∈ table.sources, s'.pending d = true → s'.acceptable r = true → s'.priority ≤ s.priority) →
      PollComplete table r d (some (encodeVec r s.vector s.priority), s.ack d)

/-- A source that the mask lets through. -/
def IrqSource.Deliverable (r : Regs) (d : δ) (s : IrqSource δ) : Prop :=
  s.pending d = true ∧ s.acceptable r = true

/-- On a VM1, some request is deliverable and a masked one outranks all the deliverable ones:
    by its priority, or by its place in the table among those of its own priority. -/
def MaskedOutranks (table : IrqTable δ) (r : Regs) (d : δ) : Prop :=
  r.model = .k1801vm1 ∧ (∃ s ∈ table.sources, s.Deliverable r d) ∧
    ∃ before masked after, table.sources = before ++ masked :: after ∧
      masked.pending d = true ∧ masked.acceptable r = false ∧
      (∀ s ∈ before, s.Deliverable r d → s.priority < masked.priority) ∧
      ∀ s ∈ after, s.Deliverable r d → s.priority ≤ masked.priority

/-! ## Each model -/

theorem acceptable_dcj11 {r : Regs} (hmodel : r.model = .dcj11) (s : IrqSource δ) :
    s.acceptable r = !levelMasked r s.priority := by
  simp [IrqSource.acceptable, irqRefused, hmodel]

theorem acceptable_of_ne {r : Regs} (hmodel : r.model ≠ .dcj11) (s : IrqSource δ) :
    s.acceptable r = !irqRefused r s.vector := by
  simp [IrqSource.acceptable, hmodel]

theorem candidate_of_ne {r : Regs} (hmodel : r.model ≠ .dcj11) (d : δ) (s : IrqSource δ) :
    s.candidate r d = s.pending d := by
  simp [IrqSource.candidate, hmodel]

/-- Outside the VM1 the mask does not look at the vector. -/
theorem irqRefused_const {r : Regs} (hmodel : r.model ≠ .k1801vm1) (v w : Word) :
    irqRefused r v = irqRefused r w := by
  unfold irqRefused
  cases hm : r.model with
  | k1801vm1 => exact absurd hm hmodel
  | k1801vm2 => rfl
  | k1806vm2 => rfl
  | dcj11 => rfl

/-- A deliverable source takes part in the choice, on every model. -/
theorem IrqSource.Deliverable.candidate {r : Regs} {d : δ} {s : IrqSource δ} (h : s.Deliverable r d) :
    s.candidate r d = true := by
  obtain ⟨hpend, hacc⟩ := h
  unfold IrqSource.acceptable at hacc
  unfold IrqSource.candidate
  rw [Bool.and_eq_true] at hacc
  rw [hpend, hacc.1]
  rfl

/-! ## The answer -/

theorem irqPoll_of_grant {table : IrqTable δ} {r : Regs} {d : δ} {s : IrqSource δ}
    (h : irqGrant table r d = some s) :
    irqPoll table r d = (some (encodeVec r s.vector s.priority), s.ack d) := by
  unfold irqPoll
  rw [h]

/-- A granted source is the best deliverable one. -/
theorem pollComplete_of_grant {table : IrqTable δ} {r : Regs} {d : δ} {s : IrqSource δ}
    (h : irqGrant table r d = some s) : PollComplete table r d (irqPoll table r d) := by
  obtain ⟨hmem, hcand, hnot, hmax⟩ := irqGrant_some h
  rw [irqPoll_of_grant h]
  unfold IrqSource.candidate at hcand
  rw [Bool.and_eq_true] at hcand
  have hacc : s.acceptable r = true := by
    unfold IrqSource.acceptable
    rw [hcand.2, hnot]
    rfl
  refine .granted hmem hcand.1 hacc ?_
  intro s' hmem' hpend' hacc'
  have hdel : s'.Deliverable r d := ⟨hpend', hacc'⟩
  exact hmax s' hmem' hdel.candidate

/-- Without a grant, the answer is right exactly when nothing is deliverable. -/
theorem pollComplete_of_none {table : IrqTable δ} {r : Regs} {d : δ} (h : irqGrant table r d = none) :
    PollComplete table r d (irqPoll table r d) ↔ ∀ s ∈ table.sources, ¬ s.Deliverable r d := by
  unfold irqPoll
  rw [h]
  constructor
  · intro hc
    generalize ho : ((none, d) : Option Word × δ) = out at hc
    cases hc with
    | quiet hquiet =>
      intro s hmem hdel
      have hno := hquiet s hmem hdel.1
      rw [hdel.2] at hno
      cases hno
    | granted => cases ho
  · intro hnone
    refine .quiet ?_
    intro s hmem hpend
    exact Bool.eq_false_iff.2 fun hacc => hnone s hmem ⟨hpend, hacc⟩

/-- A masked source at the head of the choice, on a VM1, hides every deliverable one. -/
theorem maskedOutranks_iff {table : IrqTable δ} {r : Regs} {d : δ} (hmodel : r.model = .k1801vm1) :
    MaskedOutranks table r d ↔
      irqGrant table r d = none ∧ ∃ s ∈ table.sources, s.Deliverable r d := by
  have hne : r.model ≠ .dcj11 := by
    rw [hmodel]
    decide
  constructor
  · rintro ⟨-, hex, before, masked, after, hsplit, hpend, hmask, hbefore, hafter⟩
    refine ⟨?_, hex⟩
    cases hg : irqGrant table r d with
    | none => rfl
    | some y =>
      exfalso
      obtain ⟨hsel, hnot⟩ := Option.filter_eq_some_iff.1 hg
      obtain ⟨before', after', hsplit', hfirst⟩ := bestOf_first hsel
      have hydel : y.Deliverable r d := by
        refine ⟨?_, ?_⟩
        · have hcand := hfirst.accepted
          rwa [candidate_of_ne hne] at hcand
        · rw [acceptable_of_ne hne]
          exact hnot
      have hmcand : masked.candidate r d = true := by
        rw [candidate_of_ne hne]
        exact hpend
      have hym : y ≠ masked := by
        rintro rfl
        rw [hydel.2] at hmask
        cases hmask
      rw [hsplit] at hsplit'
      -- either the chosen source stands before the masked one, or it stands behind it
      rcases List.append_eq_append_iff.1 hsplit' with ⟨mid, hb, hm⟩ | ⟨mid, hb, hm⟩
      · cases mid with
        | nil =>
          rw [List.nil_append] at hm
          exact hym (List.cons.inj hm).1.symm
        | cons z mid =>
          rw [List.cons_append] at hm
          obtain ⟨hz, hrest⟩ := List.cons.inj hm
          have hlt : masked.rank < y.rank := by
            refine hfirst.above masked ?_ hmcand
            rw [hb, ← hz]
            simp
          have hle := hafter y (by rw [hrest]; simp) hydel
          exact absurd hlt (Nat.not_lt.2 hle)
      · cases mid with
        | nil =>
          rw [List.nil_append] at hm
          exact hym (List.cons.inj hm).1
        | cons z mid =>
          rw [List.cons_append] at hm
          obtain ⟨hz, hrest⟩ := List.cons.inj hm
          have hlt := hbefore y (by rw [hb, hz]; simp) hydel
          have hle : masked.rank ≤ y.rank := hfirst.atLeast masked (by rw [hrest]; simp) hmcand
          exact absurd hlt (Nat.not_lt.2 hle)
  · rintro ⟨hnone, s, hmem, hdel⟩
    refine ⟨hmodel, ⟨s, hmem, hdel⟩, ?_⟩
    cases hsel : irqSelect table r d with
    | none =>
      exfalso
      have hbest : IsBest (IrqSource.candidate r d) IrqSource.rank table.sources (irqSelect table r d) :=
        isBest_bestOf ..
      rw [hsel] at hbest
      cases hbest with
      | none hall =>
        have hcand := hdel.candidate
        rw [hall s hmem] at hcand
        cases hcand
    | some y =>
      obtain ⟨before, after, hsplit, hfirst⟩ := bestOf_first hsel
      refine ⟨before, y, after, hsplit, ?_, ?_, ?_, ?_⟩
      · have hcand := hfirst.accepted
        rwa [candidate_of_ne hne] at hcand
      · unfold irqGrant at hnone
        rw [hsel] at hnone
        rw [acceptable_of_ne hne]
        by_contra hacc
        rw [Bool.not_eq_false] at hacc
        simp [Option.filter, hacc] at hnone
      · intro s' hs' hdel'
        exact hfirst.above s' hs' hdel'.candidate
      · intro s' hs' hdel'
        exact hfirst.atLeast s' hs' hdel'.candidate

/-- Outside the VM1 a poll without a grant leaves nothing deliverable. -/
theorem not_deliverable_of_none {table : IrqTable δ} {r : Regs} {d : δ} (hmodel : r.model ≠ .k1801vm1)
    (h : irqGrant table r d = none) : ∀ s ∈ table.sources, ¬ s.Deliverable r d := by
  intro s hmem hdel
  have hbest : IsBest (IrqSource.candidate r d) IrqSource.rank table.sources (irqSelect table r d) :=
    isBest_bestOf ..
  cases hsel : irqSelect table r d with
  | none =>
    rw [hsel] at hbest
    cases hbest with
    | none hall =>
      have hcand := hdel.candidate
      rw [hall s hmem] at hcand
      cases hcand
  | some y =>
    have hacc := hdel.2
    unfold IrqSource.acceptable at hacc
    rw [Bool.and_eq_true, irqRefused_const hmodel s.vector y.vector] at hacc
    unfold irqGrant at h
    rw [hsel] at h
    simp [Option.filter, hacc.2] at h

/-- The poll is complete exactly when no masked source outranks the deliverable ones. -/
theorem irqPoll_complete_iff (table : IrqTable δ) (r : Regs) (d : δ) :
    PollComplete table r d (irqPoll table r d) ↔ ¬ MaskedOutranks table r d := by
  cases hg : irqGrant table r d with
  | some s =>
    have hcomplete := pollComplete_of_grant hg
    refine ⟨fun _ hout => ?_, fun _ => hcomplete⟩
    have hnone := ((maskedOutranks_iff hout.1).1 hout).1
    rw [hg] at hnone
    cases hnone
  | none =>
    rw [pollComplete_of_none hg]
    by_cases hmodel : r.model = .k1801vm1
    · rw [maskedOutranks_iff hmodel]
      constructor
      · rintro hno ⟨-, s, hmem, hdel⟩
        exact hno s hmem hdel
      · intro hno s hmem hdel
        exact hno ⟨hg, s, hmem, hdel⟩
    · refine ⟨fun _ hout => hmodel hout.1, fun _ => not_deliverable_of_none hmodel hg⟩

/-- A console receiver, and a source whose vector has a mask bit of its own. -/
def mixedTable : IrqTable Memory :=
  ⟨[⟨0o60, 5, fun _ => true, id⟩, ⟨0o160002, 4, fun _ => true, id⟩], by decide⟩

/-- PSW bit 7 masks the receiver only, and nothing is delivered. -/
theorem receiver_hides_source :
    ¬ PollComplete mixedTable { model := .k1801vm1, psw := 0o200 } (fun _ => 0)
      (irqPoll mixedTable { model := .k1801vm1, psw := 0o200 } fun _ => 0) := by
  intro h
  have hpoll : irqPoll mixedTable { model := .k1801vm1, psw := 0o200 } (fun _ => 0) =
      (none, fun _ => 0) := rfl
  rw [hpoll] at h
  cases h with
  | quiet hquiet =>
    have hmasked := hquiet ⟨0o160002, 4, fun _ => true, id⟩ (by simp [mixedTable]) rfl
    revert hmasked
    decide

end K1801.Lsi11
