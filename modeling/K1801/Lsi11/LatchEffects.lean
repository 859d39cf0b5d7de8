import K1801.Lsi11.IrqLatch

/-! # What an access does to an interrupt latch

Every register access, event and reset of a device makes a few calls of the latch primitives, always in the same
order. A request is in order while DONE and IE are set. The count of acknowledged requests starts again when DONE is
cleared, and an interrupt enable that was turned off and on again is remembered.
-/

namespace K1801.Lsi11

/-- The calls of one access: IE is set, a request is raised, DONE is cleared, DONE is set. -/
inductive LatchEffect where
  | calls (ie : Option Bool) (raise clear done : Bool)
  | ack
  | reset (done : Bool)
  deriving Repr, DecidableEq

/-- The acknowledged requests since DONE was cleared, and what became of IE since. -/
structure Acks where
  acked : Nat := 0
  fell : Bool := false
  toggled : Bool := false
  deriving Repr, DecidableEq

namespace IrqLatch

def raiseIf (raise : Bool) (l : IrqLatch) : IrqLatch := if raise then { l with irqReq := true } else l

def setIeTo (ie : Option Bool) (l : IrqLatch) : IrqLatch :=
  match ie with
  | none => l
  | some v => l.setIe v

def clearIf (clear : Bool) (l : IrqLatch) : IrqLatch := if clear then l.swClearDone else l

def doneIf (done : Bool) (l : IrqLatch) : IrqLatch := if done then l.eventSetDone else l

section Fields

variable (l : IrqLatch)

@[simp] theorem raiseIf_done (raise : Bool) : (l.raiseIf raise).done = l.done := by
  cases raise <;> rfl

@[simp] theorem setIeTo_done (ie : Option Bool) : (l.setIeTo ie).done = l.done := by
  cases ie <;> rfl

@[simp] theorem clearIf_done (clear : Bool) : (l.clearIf clear).done = (l.done && !clear) := by
  cases clear
  · exact (Bool.and_true _).symm
  · exact (Bool.and_false _).symm

@[simp] theorem doneIf_done (done : Bool) : (l.doneIf done).done = (l.done || done) := by
  cases done
  · exact (Bool.or_false _).symm
  · exact (l.eventSetDone_done).trans (Bool.or_true _).symm

end Fields

/-- A request stands only while DONE and IE are set. -/
def Orderly (l : IrqLatch) : Prop := l.irqReq = true → l.done = true ∧ l.ie = true

end IrqLatch

namespace LatchEffect

/-- Nothing is called. -/
def none : LatchEffect := .calls Option.none false false false

def apply (eff : LatchEffect) (l : IrqLatch) : IrqLatch :=
  match eff with
  | .calls ie raise clear done => (((l.setIeTo ie).raiseIf raise).clearIf clear).doneIf done
  | .ack => l.ack
  | .reset done => IrqLatch.reset.doneIf done

/-- The count after the calls made in state `l`. -/
def count (eff : LatchEffect) (l : IrqLatch) (g : Acks) : Acks :=
  match eff with
  | .calls ie _ clear _ =>
    if clear then {}
    else match ie with
      | Option.none => g
      | some v => { g with fell := g.fell || (l.ie && !v), toggled := g.toggled || (!l.ie && v && g.fell) }
  | .ack => if l.irqReq then { g with acked := g.acked + 1 } else g
  | .reset _ => {}

/-- A request is raised only when IE is turned on. -/
def Rising (eff : LatchEffect) (l : IrqLatch) : Prop :=
  match eff with
  | .calls ie raise _ _ => raise = true → ie = some true ∧ l.ie = false
  | _ => True

/-- IE is not turned off over a standing request, and no request is raised without DONE. -/
def Quiet (eff : LatchEffect) (l : IrqLatch) : Prop :=
  match eff with
  | .calls ie raise clear done =>
    (ie = some false → l.irqReq = true → clear = true) ∧
      (raise = true → l.done = true ∨ clear = true ∨ done = true)
  | _ => True

end LatchEffect

/-- At most one request was acknowledged, unless IE was turned off and on again. -/
def Acks.AtMostOne (g : Acks) : Prop := g.toggled = true ∨ g.acked ≤ 1

/-- The count and the latch belong together. -/
structure Tracked (l : IrqLatch) (g : Acks) : Prop where
  orderly : l.Orderly
  cleared : l.done = false → g.acked = 0 ∧ l.irqArmed = true
  off : l.ie = false → g.fell = false → g.acked = 0
  once : g.toggled = true ∨ g.acked + (if l.irqReq then 1 else 0) ≤ 1

theorem Tracked.atMostOne {l : IrqLatch} {g : Acks} (h : Tracked l g) : g.AtMostOne :=
  h.once.imp id fun hle => by omega

section Tracking

variable {l : IrqLatch} {g : Acks}

/-- A latch whose DONE was just cleared. -/
theorem tracked_cleared (ie : Bool) : Tracked { ie := ie, irqArmed := true } {} where
  orderly h := absurd (show false = true from h) (by decide)
  cleared _ := ⟨rfl, rfl⟩
  off _ _ := rfl
  once := Or.inr (Nat.zero_le 1)

theorem Tracked.doneIf (h : Tracked l g) (done : Bool) : Tracked (l.doneIf done) g := by
  cases done with
  | false => exact h
  | true =>
    show Tracked l.eventSetDone g
    unfold IrqLatch.eventSetDone
    cases hdone : l.done with
    | true => exact h
    | false =>
      obtain ⟨hacked, harmed⟩ := h.cleared hdone
      have hreq : l.irqReq = false := by
        cases hr : l.irqReq with
        | false => rfl
        | true => exact absurd (hdone.symm.trans (h.orderly hr).1) (by decide)
      cases hie : l.ie with
      | true =>
        rw [harmed]
        exact
          { orderly := fun _ => ⟨rfl, rfl⟩
            cleared := fun hc => absurd (show true = false from hc) (by decide)
            off := fun _ _ => hacked
            once := Or.inr (by rw [hacked]; exact Nat.le_refl 1) }
      | false =>
        exact
          { orderly := fun hr => absurd (hreq.symm.trans hr) (by decide)
            cleared := fun hc => absurd (show true = false from hc) (by decide)
            off := fun _ _ => hacked
            once := h.once }

theorem Tracked.ack (h : Tracked l g) : Tracked l.ack (LatchEffect.count .ack l g) := by
  unfold LatchEffect.count
  cases hreq : l.irqReq with
  | false =>
    have hsame : l.ack = l := by
      unfold IrqLatch.ack
      rw [← hreq]
    rw [hsame]
    exact h
  | true =>
    obtain ⟨hdone, hie⟩ := h.orderly hreq
    exact
      { orderly := fun hr => absurd (show false = true from hr) (by decide)
        cleared := fun hc => absurd (hdone.symm.trans hc) (by decide)
        off := fun ho => absurd (hie.symm.trans ho) (by decide)
        once := by
          have hone := h.once
          rw [hreq] at hone
          exact hone }

/-- IE set, over no request if it is turned off. -/
theorem Tracked.setIe (h : Tracked l g) {v : Bool} (hoff : v = false → l.irqReq = false) :
    Tracked (l.setIe v) { g with fell := g.fell || (l.ie && !v), toggled := g.toggled || (!l.ie && v && g.fell) } where
  orderly hr := by
    obtain ⟨hdone, -⟩ := h.orderly hr
    cases v with
    | true => exact ⟨hdone, rfl⟩
    | false => exact absurd ((hoff rfl).symm.trans hr) (by decide)
  cleared := h.cleared
  off hv hfell := by
    have hv' : v = false := hv
    rw [hv'] at hfell
    have hboth : g.fell = false ∧ l.ie = false := by
      cases hf : g.fell <;> cases hl : l.ie <;> simp_all
    exact h.off hboth.2 hboth.1
  once := by
    rcases h.once with ht | hle
    · exact Or.inl (by rw [ht]; rfl)
    · exact Or.inr hle

/-- IE turned on over DONE, with a request. -/
theorem Tracked.enable (h : Tracked l g) (hie : l.ie = false) (hdone : l.done = true) :
    Tracked ((l.setIe true).raiseIf true)
      { g with fell := g.fell || (l.ie && !true), toggled := g.toggled || (!l.ie && true && g.fell) } where
  orderly _ := ⟨hdone, rfl⟩
  cleared hc := absurd (hdone.symm.trans hc) (by decide)
  off ho := absurd (show true = false from ho) (by decide)
  once := by
    cases hf : g.fell with
    | true => exact Or.inl (by simp [hie])
    | false => exact Or.inr (by rw [h.off hie hf]; exact Nat.le_refl 1)

/-- A quiet access keeps latch and count together. -/
theorem Tracked.apply (h : Tracked l g) {eff : LatchEffect} (hrise : eff.Rising l) (hquiet : eff.Quiet l) :
    Tracked (eff.apply l) (eff.count l g) := by
  cases eff with
  | ack => exact h.ack
  | reset done => exact (tracked_cleared false).doneIf done
  | calls ie raise clear done =>
    obtain ⟨hoff, hon⟩ := hquiet
    cases clear with
    | true => exact (tracked_cleared _).doneIf done
    | false =>
      cases ie with
      | none =>
        cases raise with
        | true => exact absurd (hrise rfl).1 (by decide)
        | false => exact h.doneIf done
      | some v =>
        cases raise with
        | false =>
          refine (h.setIe fun hv => ?_).doneIf done
          cases hreq : l.irqReq with
          | false => rfl
          | true => exact absurd (hoff (by rw [hv]) hreq) (by decide)
        | true =>
          obtain ⟨hv, hie⟩ := hrise rfl
          cases hv
          cases hdone : l.done with
          | true => exact (h.enable hie hdone).doneIf done
          | false =>
            have hlater : done = true := by
              rcases hon rfl with hd | hc | hd
              · exact absurd (hdone.symm.trans hd) (by decide)
              · exact absurd (show false = true from hc) (by decide)
              · exact hd
            have hsame : ((l.setIe true).raiseIf true).eventSetDone = (l.setIe true).eventSetDone := by
              show IrqLatch.eventSetDone { done := l.done, ie := true, irqReq := true, irqArmed := l.irqArmed } =
                IrqLatch.eventSetDone { done := l.done, ie := true, irqReq := l.irqReq, irqArmed := l.irqArmed }
              rw [hdone, (h.cleared hdone).2]
              rfl
            rw [hlater]
            show Tracked ((l.setIe true).raiseIf true).eventSetDone _
            rw [hsame]
            exact (h.setIe fun hv => absurd (show true = false from hv) (by decide)).doneIf true

/-- An access after which a request stands in order was quiet. -/
theorem Tracked.quiet (h : Tracked l g) {eff : LatchEffect} (hrise : eff.Rising l) (hafter : (eff.apply l).Orderly) :
    eff.Quiet l := by
  cases eff with
  | ack => trivial
  | reset done => trivial
  | calls ie raise clear done =>
    cases clear with
    | true => exact ⟨fun _ _ => rfl, fun _ => Or.inr (Or.inl rfl)⟩
    | false =>
      cases raise with
      | false =>
        refine ⟨fun hv hreq => ?_, fun hr => absurd (show false = true from hr) (by decide)⟩
        rw [hv] at hafter
        have hdone := (h.orderly hreq).1
        have hkept : LatchEffect.apply (.calls (some false) false false done) l = l.setIe false := by
          show (l.setIe false).doneIf done = l.setIe false
          cases done with
          | false => rfl
          | true =>
            show (l.setIe false).eventSetDone = l.setIe false
            unfold IrqLatch.eventSetDone
            rw [IrqLatch.setIe_done, hdone]
            rfl
        rw [hkept] at hafter
        exact absurd (show false = true from (hafter hreq).2) (by decide)
      | true =>
        obtain ⟨hv, hie⟩ := hrise rfl
        cases hv
        refine ⟨fun hv => absurd hv (by decide), fun _ => ?_⟩
        cases hdone : l.done with
        | true => exact Or.inl rfl
        | false =>
          cases done with
          | true => exact Or.inr (Or.inr rfl)
          | false => exact absurd (hdone.symm.trans (hafter rfl).1) (by decide)

end Tracking

end K1801.Lsi11
