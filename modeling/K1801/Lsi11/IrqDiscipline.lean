import K1801.Library.EventRun
import K1801.Lsi11.Dl11
import K1801.Lsi11.LatchEffects

/-! # Interrupt requests of the devices with a latch

A device is described by the calls that each of its events makes of its latch. In a run that starts with a reset a
request stands only while DONE and IE are set, and DONE gives at most one interrupt, as long as every event is quiet:
it does not turn IE off over a standing request, and it does not request an interrupt without DONE.
-/

namespace K1801.Lsi11

open Core Library

/-- A device with one of its latches, and the calls that an event makes of it. -/
structure IrqDevice (σ ε : Type) where
  step : σ → ε → Option σ
  latch : σ → IrqLatch
  effect : σ → ε → LatchEffect

structure IrqSession (σ : Type) where
  device : σ
  acks : Acks := {}

namespace IrqDevice

variable {σ ε : Type} (d : IrqDevice σ ε)

/-- The device after an event, and the count of acknowledged requests. -/
def follow (s : IrqSession σ) (ev : ε) : Option (IrqSession σ) :=
  (d.step s.device ev).map fun device =>
    { device := device, acks := (d.effect s.device ev).count (d.latch s.device) s.acks }

/-- A request stands only while DONE and IE are set, and at most one was acknowledged since DONE was cleared, unless IE
was turned off and on again. -/
structure Disciplined (s : IrqSession σ) : Prop where
  orderly : (d.latch s.device).Orderly
  atMostOne : s.acks.AtMostOne

/-- The event does not turn IE off over a standing request, and requests no interrupt without DONE. -/
def Quiet (s : IrqSession σ) (ev : ε) : Prop := (d.effect s.device ev).Quiet (d.latch s.device)

/-- The effects are those of the steps. -/
structure Rules (Valid : σ → Prop) : Prop where
  latch : ∀ s ev s', Valid s → d.step s ev = some s' → d.latch s' = (d.effect s ev).apply (d.latch s)
  valid : ∀ s ev s', Valid s → d.step s ev = some s' → Valid s'
  rising : ∀ s ev, Valid s → (d.effect s ev).Rising (d.latch s)
  leaves : ∀ s ev, Valid s → d.step s ev = none → (d.effect s ev).Quiet (d.latch s)

variable {d} {Valid : σ → Prop}

/-- A run of a device keeps the discipline just when its events are quiet. -/
theorem throughout_disciplined_iff (hrules : d.Rules Valid) {s : IrqSession σ} (hvalid : Valid s.device)
    (htracked : Tracked (d.latch s.device) s.acks) (evs : List ε) :
    Throughout (orLeave d.follow) (Present d.Disciplined) (some s) evs ↔
      AtEach (orLeave d.follow) (fun s ev => Present (fun s => d.Quiet s ev) s) (some s) evs := by
  refine throughout_partial_iff (V := fun s => Valid s.device ∧ Tracked (d.latch s.device) s.acks)
    (fun s h => ⟨h.2.orderly, h.2.atMostOne⟩) ?_ ?_ ⟨hvalid, htracked⟩ evs
  · rintro s ev ⟨hvalid, htracked⟩ hquiet s' hs'
    obtain ⟨device, hstep, rfl⟩ := Option.map_eq_some_iff.1 hs'
    refine ⟨hrules.valid _ _ _ hvalid hstep, ?_⟩
    show Tracked (d.latch device) _
    rw [hrules.latch _ _ _ hvalid hstep]
    exact htracked.apply (hrules.rising _ _ hvalid) hquiet
  · rintro s ev ⟨hvalid, htracked⟩ hafter
    cases hstep : d.step s.device ev with
    | none => exact hrules.leaves _ _ hvalid hstep
    | some device =>
      have hfollow : d.follow s ev =
          some { device := device, acks := (d.effect s.device ev).count (d.latch s.device) s.acks } := by
        unfold follow
        rw [hstep]
        rfl
      have horderly : (d.latch device).Orderly := (hafter _ hfollow).orderly
      rw [hrules.latch _ _ _ hvalid hstep] at horderly
      exact htracked.quiet (hrules.rising _ _ hvalid) horderly

/-- A latch just reset. -/
theorem tracked_reset (done : Bool) : Tracked (IrqLatch.reset.doneIf done) {} := (tracked_cleared false).doneIf done

end IrqDevice

/-! ## DL11 and LP11 -/

inductive Dl11Event where
  | read8 (addr : Word)
  | write8 (addr : Word) (v : Byte)
  | poll (input : Int)
  | reset
  | rxIrqAck
  | txIrqAck

namespace Dl11

def step (dl : Dl11) : Dl11Event → Option Dl11
  | .read8 addr => some (dl.read8 addr).2
  | .write8 addr v => some (dl.write8 addr v)
  | .poll input => some (dl.poll input)
  | .reset => some dl.reset
  | .rxIrqAck => some dl.rxIrqAck
  | .txIrqAck => some dl.txIrqAck

/-- IE of a status register, with the request over DONE. -/
def ieEffect (v : Byte) (l : IrqLatch) (clear : Bool) : LatchEffect :=
  .calls (some (v &&& csrIe ≠ 0)) (v &&& csrIe ≠ 0 && !l.ie && l.done) clear false

def rxWrite (addr : Word) (v : Byte) (dl : Dl11) : LatchEffect :=
  if norm addr = dl11Rcsr then ieEffect v dl.rx (v &&& rcsrRe ≠ 0)
  else .calls none false (norm addr = dl11Rbuf) false

def txWrite (addr : Word) (v : Byte) (dl : Dl11) : LatchEffect :=
  if norm addr = dl11Tcsr then ieEffect v dl.tx false
  else .calls none false (norm addr = dl11Tbuf) (norm addr = dl11Tbuf)

def rxEffect (dl : Dl11) : Dl11Event → LatchEffect
  | .read8 addr => .calls none false (norm addr = dl11Rbuf) false
  | .write8 addr v => dl.rxWrite addr v
  | .poll input => .calls none false false (0 < input)
  | .reset => .reset false
  | .rxIrqAck => .ack
  | .txIrqAck => .none

def txEffect (dl : Dl11) : Dl11Event → LatchEffect
  | .write8 addr v => dl.txWrite addr v
  | .reset => .reset true
  | .txIrqAck => .ack
  | _ => .none

/-- The receiver. -/
def receiver : IrqDevice Dl11 Dl11Event := ⟨step, Dl11.rx, rxEffect⟩

/-- The transmitter. -/
def transmitter : IrqDevice Dl11 Dl11Event := ⟨step, Dl11.tx, txEffect⟩

theorem ieEffect_apply (v : Byte) (l : IrqLatch) (clear : Bool) :
    (ieEffect v l clear).apply l = (writeIe v l).clearIf clear := by
  show ((l.setIe _).raiseIf _).clearIf clear = _
  congr 1
  unfold writeIe
  by_cases hv : v &&& csrIe = 0
  · rw [if_neg fun h => h hv, decide_eq_false fun h => h hv]
    rfl
  · rw [if_pos hv, decide_eq_true hv, Bool.true_and]
    cases hraise : !l.ie && l.done <;> rfl

theorem ieEffect_rising (v : Byte) (l : IrqLatch) (clear : Bool) : (ieEffect v l clear).Rising l := by
  intro hraise
  simp only [Bool.and_eq_true, Bool.not_eq_true'] at hraise
  exact ⟨congrArg some hraise.1.1, hraise.1.2⟩

/-- An event without a change of IE. -/
theorem calls_rising (l : IrqLatch) (ie : Option Bool) (clear done : Bool) :
    (LatchEffect.calls ie false clear done).Rising l := fun h => absurd (show false = true from h) (by decide)

theorem rx_latch (dl : Dl11) (ev : Dl11Event) (dl' : Dl11) (h : dl.step ev = some dl') :
    dl'.rx = (dl.rxEffect ev).apply dl.rx := by
  cases ev with
  | read8 addr =>
    cases h
    show (dl.read8 addr).2.rx = (LatchEffect.calls none false (norm addr = dl11Rbuf) false).apply dl.rx
    unfold read8
    dsimp only
    by_cases hcsr : norm addr = dl11Rcsr
    · rw [if_pos hcsr, hcsr]
      rfl
    · rw [if_neg hcsr]
      by_cases hbuf : norm addr = dl11Rbuf
      · rw [if_pos hbuf, decide_eq_true hbuf]
        rfl
      · rw [if_neg hbuf, decide_eq_false hbuf]
        split <;> rfl
  | write8 addr v =>
    cases h
    show (dl.write8 addr v).rx = (dl.rxWrite addr v).apply dl.rx
    unfold write8 rxWrite
    dsimp only
    by_cases hcsr : norm addr = dl11Rcsr
    · rw [if_pos hcsr, if_pos hcsr, ieEffect_apply]
      by_cases hre : v &&& rcsrRe = 0
      · rw [if_neg fun h => h hre, decide_eq_false fun h => h hre]
        rfl
      · rw [if_pos hre, decide_eq_true hre]
        rfl
    · rw [if_neg hcsr, if_neg hcsr]
      by_cases hbuf : norm addr = dl11Rbuf
      · rw [if_pos hbuf, decide_eq_true hbuf]
        rfl
      · rw [if_neg hbuf, decide_eq_false hbuf]
        split
        · rfl
        · split <;> rfl
  | poll input =>
    cases h
    show (dl.poll input).rx = dl.rx.doneIf (0 < input)
    unfold poll
    by_cases hinput : input ≤ 0
    · rw [if_pos hinput, decide_eq_false (p := 0 < input) (by omega), ite_self]
      rfl
    · rw [if_neg hinput, decide_eq_true (p := 0 < input) (by omega)]
      show _ = dl.rx.eventSetDone
      cases hdone : dl.rx.done with
      | true =>
        unfold IrqLatch.eventSetDone
        rw [if_pos rfl, if_pos hdone]
      | false => rfl
  | reset =>
    cases h
    rfl
  | rxIrqAck =>
    cases h
    rfl
  | txIrqAck =>
    cases h
    rfl

theorem tx_latch (dl : Dl11) (ev : Dl11Event) (dl' : Dl11) (h : dl.step ev = some dl') :
    dl'.tx = (dl.txEffect ev).apply dl.tx := by
  cases ev with
  | read8 addr =>
    cases h
    unfold read8
    dsimp only
    split
    · rfl
    · split
      · rfl
      · split <;> rfl
  | write8 addr v =>
    cases h
    show (dl.write8 addr v).tx = (dl.txWrite addr v).apply dl.tx
    unfold write8 txWrite
    dsimp only
    by_cases hcsr : norm addr = dl11Tcsr
    · rw [hcsr, if_neg (by decide), if_neg (by decide), if_pos rfl, if_pos rfl, ieEffect_apply]
      rfl
    · rw [if_neg hcsr, if_neg hcsr]
      by_cases hbuf : norm addr = dl11Tbuf
      · rw [hbuf, if_neg (by decide), if_neg (by decide), if_pos rfl]
        rfl
      · rw [if_neg hbuf, decide_eq_false hbuf]
        split
        · rfl
        · split <;> rfl
  | poll input =>
    cases h
    unfold poll
    split
    · rfl
    · split <;> rfl
  | reset =>
    cases h
    rfl
  | rxIrqAck =>
    cases h
    rfl
  | txIrqAck =>
    cases h
    rfl

theorem step_present (dl : Dl11) (ev : Dl11Event) : dl.step ev ≠ none := by
  cases ev <;> exact fun h => nomatch h

theorem receiver_rules : receiver.Rules fun _ => True where
  latch dl ev dl' _ h := rx_latch dl ev dl' h
  valid _ _ _ _ _ := trivial
  rising dl ev _ := by
    show (dl.rxEffect ev).Rising dl.rx
    cases ev with
    | read8 addr => exact calls_rising _ _ _ _
    | write8 addr v =>
      show (dl.rxWrite addr v).Rising dl.rx
      unfold rxWrite
      split
      · exact ieEffect_rising _ _ _
      · exact calls_rising _ _ _ _
    | poll input => exact calls_rising _ _ _ _
    | reset => trivial
    | rxIrqAck => trivial
    | txIrqAck => exact calls_rising _ _ _ _
  leaves dl ev _ h := absurd h (dl.step_present ev)

theorem transmitter_rules : transmitter.Rules fun _ => True where
  latch dl ev dl' _ h := tx_latch dl ev dl' h
  valid _ _ _ _ _ := trivial
  rising dl ev _ := by
    show (dl.txEffect ev).Rising dl.tx
    cases ev with
    | read8 addr => exact calls_rising _ _ _ _
    | write8 addr v =>
      show (dl.txWrite addr v).Rising dl.tx
      unfold txWrite
      split
      · exact ieEffect_rising _ _ _
      · exact calls_rising _ _ _ _
    | poll input => exact calls_rising _ _ _ _
    | reset => trivial
    | rxIrqAck => exact calls_rising _ _ _ _
    | txIrqAck => trivial
  leaves dl ev _ h := absurd h (dl.step_present ev)

theorem receiver_disciplined_iff (dl : Dl11) (evs : List Dl11Event) :
    Throughout (orLeave receiver.follow) (Present receiver.Disciplined) (some ⟨dl.reset, {}⟩) evs ↔
      AtEach (orLeave receiver.follow) (fun s ev => Present (fun s => receiver.Quiet s ev) s)
        (some ⟨dl.reset, {}⟩) evs :=
  IrqDevice.throughout_disciplined_iff (s := ⟨dl.reset, {}⟩) receiver_rules trivial (IrqDevice.tracked_reset false) evs

theorem transmitter_disciplined_iff (dl : Dl11) (evs : List Dl11Event) :
    Throughout (orLeave transmitter.follow) (Present transmitter.Disciplined) (some ⟨dl.reset, {}⟩) evs ↔
      AtEach (orLeave transmitter.follow) (fun s ev => Present (fun s => transmitter.Quiet s ev) s)
        (some ⟨dl.reset, {}⟩) evs :=
  IrqDevice.throughout_disciplined_iff (s := ⟨dl.reset, {}⟩) transmitter_rules trivial (IrqDevice.tracked_reset true) evs

end Dl11

inductive Lp11Event where
  | read8 (addr : Word)
  | write8 (addr : Word) (v : Byte)
  | reset
  | irqAck

namespace Lp11

def step (lp : Lp11) : Lp11Event → Option Lp11
  | .read8 _ => some lp
  | .write8 addr v => some (lp.write8 addr v)
  | .reset => some lp.reset
  | .irqAck => some lp.irqAck

def writeEffect (addr : Word) (v : Byte) (lp : Lp11) : LatchEffect :=
  if addr = lp11Csr then Dl11.ieEffect v lp.l false else .calls none false (addr = lp11Dbr) (addr = lp11Dbr)

def effect (lp : Lp11) : Lp11Event → LatchEffect
  | .write8 addr v => lp.writeEffect addr v
  | .reset => .reset true
  | .irqAck => .ack
  | .read8 _ => .none

def device : IrqDevice Lp11 Lp11Event := ⟨step, Lp11.l, effect⟩

theorem write8_l (lp : Lp11) (addr : Word) (v : Byte) :
    (lp.write8 addr v).l = (lp.writeEffect addr v).apply lp.l := by
  unfold write8 writeEffect
  by_cases hcsr : addr = lp11Csr
  · rw [if_pos hcsr, if_pos hcsr]
    show (if _ then _ else _ : IrqLatch) = (lp.l.setIe _).raiseIf _
    cases decide (v &&& csrIe ≠ 0) <;> cases lp.l.ie <;> cases hdone : lp.l.done <;> simp [IrqLatch.raiseIf, hdone]
  · rw [if_neg hcsr, if_neg hcsr]
    by_cases hdbr : addr = lp11Dbr
    · rw [if_pos hdbr, decide_eq_true hdbr]
      rfl
    · rw [if_neg hdbr, decide_eq_false hdbr]
      rfl

theorem device_rules : device.Rules fun _ => True where
  latch lp ev lp' _ h := by
    cases ev with
    | read8 addr =>
      cases h
      rfl
    | write8 addr v =>
      cases h
      exact lp.write8_l addr v
    | reset =>
      cases h
      rfl
    | irqAck =>
      cases h
      rfl
  valid _ _ _ _ _ := trivial
  rising lp ev _ := by
    show (lp.effect ev).Rising lp.l
    cases ev with
    | read8 addr => exact Dl11.calls_rising _ _ _ _
    | write8 addr v =>
      show (lp.writeEffect addr v).Rising lp.l
      unfold writeEffect
      split
      · exact Dl11.ieEffect_rising _ _ _
      · exact Dl11.calls_rising _ _ _ _
    | reset => trivial
    | irqAck => trivial
  leaves lp ev _ h := by
    cases ev <;> exact nomatch h

theorem disciplined_iff (lp : Lp11) (evs : List Lp11Event) :
    Throughout (orLeave device.follow) (Present device.Disciplined) (some ⟨lp.reset, {}⟩) evs ↔
      AtEach (orLeave device.follow) (fun s ev => Present (fun s => device.Quiet s ev) s) (some ⟨lp.reset, {}⟩) evs :=
  IrqDevice.throughout_disciplined_iff (s := ⟨lp.reset, {}⟩) device_rules trivial (IrqDevice.tracked_reset true) evs

end Lp11

/-! ## Disk controllers -/

/-- What happens to a disk controller; `around` is what a poll finds, and `now` the time of the host. -/
inductive DiskEvent (ε : Type) where
  | read8 (addr : Word)
  | write8 (now : Nat) (addr : Word) (b : Byte)
  | poll (around : ε)
  | reset
  | irqAck

/-- A disk controller: its functions, the calls that a byte makes of the latch, and whether a poll ends a command. -/
structure DiskController (σ ε : Type) where
  read8 : Word → σ → Byte × σ
  write8 : Nat → Word → Byte → σ → σ
  poll : ε → σ → Option σ
  reset : σ → σ
  irqAck : σ → σ
  latch : σ → IrqLatch
  writeEffect : Word → Byte → σ → LatchEffect
  pending : ε → σ → Bool

namespace DiskController

variable {σ ε : Type} (c : DiskController σ ε)

def step (s : σ) : DiskEvent ε → Option σ
  | .read8 addr => some (c.read8 addr s).2
  | .write8 now addr b => some (c.write8 now addr b s)
  | .poll around => c.poll around s
  | .reset => some (c.reset s)
  | .irqAck => some (c.irqAck s)

/-- A poll sets DONE when it ends a command. -/
def effect (s : σ) : DiskEvent ε → LatchEffect
  | .read8 _ => .none
  | .write8 _ addr b => c.writeEffect addr b s
  | .poll around => .calls none false false (c.pending around s)
  | .reset => .reset true
  | .irqAck => .ack

def device : IrqDevice σ (DiskEvent ε) := ⟨c.step, c.latch, c.effect⟩

/-- What is shown of each controller. -/
structure Follows (Valid : σ → Prop) : Prop where
  read_latch : ∀ addr s, c.latch (c.read8 addr s).2 = c.latch s
  read_valid : ∀ addr s, Valid s → Valid (c.read8 addr s).2
  write_latch : ∀ now addr b s, Valid s → c.latch (c.write8 now addr b s) = (c.writeEffect addr b s).apply (c.latch s)
  write_valid : ∀ now addr b s, Valid s → Valid (c.write8 now addr b s)
  write_rising : ∀ addr b s, Valid s → (c.writeEffect addr b s).Rising (c.latch s)
  poll_latch : ∀ around s s', c.poll around s = some s' → c.latch s' = (c.latch s).doneIf (c.pending around s)
  poll_valid : ∀ around s s', Valid s → c.poll around s = some s' → Valid s'
  reset_latch : ∀ s, c.latch (c.reset s) = IrqLatch.reset.eventSetDone
  reset_valid : ∀ s, Valid (c.reset s)
  ack_latch : ∀ s, c.latch (c.irqAck s) = (c.latch s).ack
  ack_valid : ∀ s, Valid s → Valid (c.irqAck s)

variable {c} {Valid : σ → Prop}

theorem device_rules (h : c.Follows Valid) : c.device.Rules Valid where
  latch s ev s' hs hstep := by
    cases ev with
    | read8 addr =>
      cases hstep
      exact h.read_latch addr s
    | write8 now addr b =>
      cases hstep
      exact h.write_latch now addr b s hs
    | poll around => exact h.poll_latch around s s' hstep
    | reset =>
      cases hstep
      exact h.reset_latch s
    | irqAck =>
      cases hstep
      exact h.ack_latch s
  valid s ev s' hs hstep := by
    cases ev with
    | read8 addr =>
      cases hstep
      exact h.read_valid addr s hs
    | write8 now addr b =>
      cases hstep
      exact h.write_valid now addr b s hs
    | poll around => exact h.poll_valid around s s' hs hstep
    | reset =>
      cases hstep
      exact h.reset_valid s
    | irqAck =>
      cases hstep
      exact h.ack_valid s hs
  rising s ev hs := by
    cases ev with
    | read8 addr => exact Dl11.calls_rising _ _ _ _
    | write8 now addr b => exact h.write_rising addr b s hs
    | poll around => exact Dl11.calls_rising _ _ _ _
    | reset => trivial
    | irqAck => trivial
  leaves s ev hs hnone := by
    cases ev with
    | poll around =>
      exact ⟨fun hoff => absurd (show (none : Option Bool) = some false from hoff) (by decide),
        fun hraise => absurd (show false = true from hraise) (by decide)⟩
    | read8 addr => exact nomatch hnone
    | write8 now addr b => exact nomatch hnone
    | reset => exact nomatch hnone
    | irqAck => exact nomatch hnone

theorem disciplined_iff (h : c.Follows Valid) (s : σ) (evs : List (DiskEvent ε)) :
    Throughout (orLeave c.device.follow) (Present c.device.Disciplined) (some ⟨c.reset s, {}⟩) evs ↔
      AtEach (orLeave c.device.follow) (fun s ev => Present (fun s => c.device.Quiet s ev) s)
        (some ⟨c.reset s, {}⟩) evs := by
  refine IrqDevice.throughout_disciplined_iff (device_rules h) (h.reset_valid s) ?_ evs
  show Tracked (c.latch (c.reset s)) {}
  rw [h.reset_latch]
  exact IrqDevice.tracked_reset true

end DiskController

end K1801.Lsi11
