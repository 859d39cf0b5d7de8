import K1801.Core.State
import K1801.Library.EventRun
import K1801.Lsi11.IrqLatch

/-! # Commands that a write marks and a poll carries out

A controller takes a command with a register write, keeps it pending and carries it out at a later poll. A session
counts the commands that were taken and the times that DONE came on, and remembers what the registers ordered when the
pending command was taken. What a poll finds around the controller (memory, the map of it) comes with the poll.
-/

namespace K1801.Lsi11

open Core Library

/-- A controller with the order that its registers hold. -/
structure Controller (σ ω ε : Type) where
  write8 : Word → Byte → σ → σ
  read8 : Word → σ → Byte × σ
  irqAck : σ → σ
  poll : σ → ε → Option σ
  latch : σ → IrqLatch
  go : σ → Bool
  order : σ → ω
  /-- The byte asks for a command that the controller takes. -/
  accepts : Word → Byte → σ → Bool

inductive ControllerEvent (ε : Type) where
  | write8 (addr : Word) (b : Byte)
  | read8 (addr : Word)
  | irqAck
  | poll (around : ε)

structure CommandSession (σ ω : Type) where
  device : σ
  accepted : Nat := 0
  completed : Nat := 0
  latched : Option ω := none
  /-- The last event was a poll. -/
  polled : Bool := false

namespace CommandSession

variable {σ ω ε : Type} (c : Controller σ ω ε)

/-- The session after an event that left the controller in state `d`. -/
def follow (s : CommandSession σ ω) (d : σ) (taken : Bool) : CommandSession σ ω where
  device := d
  accepted := s.accepted + taken.toNat
  completed := s.completed + (!(c.latch s.device).done && (c.latch d).done).toNat
  latched := if taken then some (c.order d) else s.latched

def step (s : CommandSession σ ω) : ControllerEvent ε → Option (CommandSession σ ω)
  | .write8 addr b => some (s.follow c (c.write8 addr b s.device) (c.accepts addr b s.device))
  | .read8 addr => some (s.follow c (c.read8 addr s.device).2 false)
  | .irqAck => some (s.follow c (c.irqAck s.device) false)
  | .poll around => (c.poll s.device around).map fun d => { s.follow c d false with polled := true }

/-- GO is set exactly while DONE is clear, every command taken was completed once or is the pending one, and a poll
leaves none pending. -/
structure Sound (s : CommandSession σ ω) : Prop where
  matched : c.go s.device = !(c.latch s.device).done
  once : s.accepted = s.completed + (c.go s.device).toNat
  polled : s.polled = true → c.go s.device = false

/-- What a poll would carry out is what the registers ordered when the command was taken. -/
def Faithful (s : CommandSession σ ω) : Prop :=
  c.go s.device = true → s.latched = some (c.order s.device)

/-- What is shown of a controller: its registers keep to `Valid`, and a byte changes the order of a pending command just
when it `disturbs` it. -/
structure Rules (Valid : σ → Prop) (disturbs : Word → Byte → σ → Bool) : Prop where
  write_valid : ∀ addr b s, Valid s → Valid (c.write8 addr b s)
  accepts : ∀ addr b s, Valid s → c.accepts addr b s = (!c.go s && c.go (c.write8 addr b s))
  order : ∀ addr b s, Valid s → c.go s = true → c.go (c.write8 addr b s) = true →
    (c.order (c.write8 addr b s) = c.order s ↔ disturbs addr b s = false)
  pending : ∀ addr b s, Valid s → disturbs addr b s = true → c.go s = true ∧ c.go (c.write8 addr b s) = true
  read_same : ∀ addr s, Valid s → (c.read8 addr s).2 = s
  ack_valid : ∀ s, Valid s → Valid (c.irqAck s)
  ack_go : ∀ s, c.go (c.irqAck s) = c.go s
  ack_order : ∀ s, c.order (c.irqAck s) = c.order s
  poll : ∀ s around d, Valid s → c.poll s around = some d → (c.go s = false ∧ d = s) ∨ (Valid d ∧ c.go d = false)
  matched : ∀ s, Valid s → c.go s = !(c.latch s).done

/-- The event is not a byte that changes the order of a pending command. -/
def Undisturbed (disturbs : Word → Byte → σ → Bool) (s : CommandSession σ ω) : ControllerEvent ε → Prop
  | .write8 addr b => disturbs addr b s.device = false
  | _ => True

/-- A session that holds all that is claimed. -/
structure Latched (s : CommandSession σ ω) : Prop extends Sound c s where
  faithful : Faithful c s

variable {c} {Valid : σ → Prop} {disturbs : Word → Byte → σ → Bool}

section Follow

variable (hrules : Rules c Valid disturbs) {s : CommandSession σ ω}

include hrules

/-- A controller that stays as it is, but for its request. -/
theorem Latched.same {d : σ} (h : Latched c s) (hvalid : Valid s.device) (hd : Valid d)
    (hgo : c.go d = c.go s.device) (horder : c.order d = c.order s.device) : Latched c (s.follow c d false) where
  matched := hrules.matched d hd
  once := by
    have hdone : (c.latch d).done = (c.latch s.device).done := by
      have h1 := hrules.matched d hd
      have h2 := hrules.matched s.device hvalid
      rw [hgo, h2] at h1
      exact (Bool.not_inj h1).symm
    show s.accepted + 0 = s.completed + (!(c.latch s.device).done && (c.latch d).done).toNat + (c.go d).toNat
    rw [hdone, hgo, Bool.not_and_self]
    exact h.once
  polled hp := absurd (show false = true from hp) (by decide)
  faithful hpending := by
    have hlatched := h.faithful (hgo.symm.trans hpending)
    show s.latched = some (c.order d)
    rw [horder]
    exact hlatched

/-- A byte that does not disturb the pending command. -/
theorem Latched.write8 (h : Latched c s) (hvalid : Valid s.device) {addr : Word} {b : Byte}
    (hquiet : disturbs addr b s.device = false) :
    Latched c (s.follow c (c.write8 addr b s.device) (c.accepts addr b s.device)) where
  matched := hrules.matched _ (hrules.write_valid addr b _ hvalid)
  once := by
    have hold := hrules.matched _ hvalid
    have hnew := hrules.matched _ (hrules.write_valid addr b _ hvalid)
    have honce := h.once
    show s.accepted + (c.accepts addr b s.device).toNat = s.completed +
      (!(c.latch s.device).done && (c.latch (c.write8 addr b s.device)).done).toNat +
        (c.go (c.write8 addr b s.device)).toNat
    rw [hrules.accepts addr b _ hvalid, ← hold]
    rw [show (c.latch (c.write8 addr b s.device)).done = !c.go (c.write8 addr b s.device) by rw [hnew, Bool.not_not]]
    revert honce
    cases c.go s.device <;> cases c.go (c.write8 addr b s.device) <;> simp <;> omega
  polled hp := absurd (show false = true from hp) (by decide)
  faithful hpending := by
    have hpending' : c.go (c.write8 addr b s.device) = true := hpending
    show (if c.accepts addr b s.device then some (c.order _) else s.latched) = some (c.order _)
    have haccepts := hrules.accepts addr b _ hvalid
    rw [hpending', Bool.and_true] at haccepts
    rw [haccepts]
    cases hgo : c.go s.device with
    | false => rfl
    | true =>
      have hsame := (hrules.order addr b _ hvalid hgo hpending').2 hquiet
      show s.latched = some (c.order (c.write8 addr b s.device))
      rw [hsame]
      exact h.faithful hgo

/-- A byte that disturbs the pending command leaves it with another order. -/
theorem quiet_of_faithful (h : Latched c s) (hvalid : Valid s.device) {addr : Word} {b : Byte}
    (hafter : Faithful c (s.follow c (c.write8 addr b s.device) (c.accepts addr b s.device))) :
    disturbs addr b s.device = false := by
  cases hdis : disturbs addr b s.device with
  | false => rfl
  | true =>
    obtain ⟨hgo, hpending⟩ := hrules.pending addr b _ hvalid hdis
    have haccepts := hrules.accepts addr b _ hvalid
    rw [hgo] at haccepts
    have hlatched : (if c.accepts addr b s.device then some (c.order (c.write8 addr b s.device)) else s.latched) =
        some (c.order (c.write8 addr b s.device)) := hafter hpending
    rw [haccepts] at hlatched
    have hsame : c.order (c.write8 addr b s.device) = c.order s.device :=
      Option.some.inj (hlatched.symm.trans (h.faithful hgo))
    exact absurd (hdis.symm.trans ((hrules.order addr b _ hvalid hgo hpending).1 hsame)) (by decide)

/-- A poll completes the pending command. -/
theorem Latched.poll (h : Latched c s) (hvalid : Valid s.device) {around : ε} {d : σ}
    (hpoll : c.poll s.device around = some d) :
    Valid d ∧ Latched c { s.follow c d false with polled := true } := by
  rcases hrules.poll _ around d hvalid hpoll with ⟨hgo, hsame⟩ | ⟨hr, hgo⟩
  · rw [hsame]
    exact ⟨hvalid,
      { matched := h.matched
        once := by
          show s.accepted + 0 = s.completed + (!(c.latch s.device).done && (c.latch s.device).done).toNat + _
          rw [Bool.not_and_self]
          exact h.once
        polled := fun _ => hgo
        faithful := h.faithful }⟩
  · have hnew := hrules.matched _ hr
    have hdone : (c.latch d).done = true := by
      rw [hgo] at hnew
      exact Bool.not_inj hnew.symm
    exact ⟨hr,
      { matched := hnew
        once := by
          have honce := h.once
          rw [hrules.matched _ hvalid] at honce
          show s.accepted + 0 = s.completed + (!(c.latch s.device).done && (c.latch d).done).toNat + (c.go d).toNat
          rw [hdone, hgo, Bool.and_true]
          exact honce
        polled := fun _ => hgo
        faithful := fun hpending => absurd (hgo.symm.trans hpending) (by decide) }⟩

end Follow

/-- A run of a controller keeps its latch just when no byte disturbs a pending command. -/
theorem throughout_latched_iff (hrules : Rules c Valid disturbs) {s : CommandSession σ ω} (hvalid : Valid s.device)
    (h : Latched c s) (evs : List (ControllerEvent ε)) :
    Throughout (orLeave (step c)) (Present (Latched c)) (some s) evs ↔
      AtEach (orLeave (step c)) (fun s ev => Present (fun s => Undisturbed disturbs s ev) s) (some s) evs := by
  refine throughout_partial_iff (V := fun s => Valid s.device ∧ Latched c s) (fun _ h => h.2) ?_ ?_ ⟨hvalid, h⟩ evs
  · rintro s ev ⟨hvalid, h⟩ hquiet
    cases ev with
    | write8 addr b => exact present_some.2 ⟨hrules.write_valid addr b _ hvalid, h.write8 hrules hvalid hquiet⟩
    | read8 addr =>
      have hsame := hrules.read_same addr _ hvalid
      refine present_some.2 ⟨?_, ?_⟩
      · show Valid (c.read8 addr s.device).2
        rw [hsame]
        exact hvalid
      · rw [hsame]
        exact h.same hrules hvalid hvalid rfl rfl
    | irqAck =>
      have hack := hrules.ack_valid _ hvalid
      exact present_some.2 ⟨hack, h.same hrules hvalid hack (hrules.ack_go _) (hrules.ack_order _)⟩
    | poll around =>
      intro s' hs'
      obtain ⟨d, hpoll, rfl⟩ := Option.map_eq_some_iff.1 hs'
      exact h.poll hrules hvalid hpoll
  · rintro s ev ⟨hvalid, h⟩ hafter
    cases ev with
    | write8 addr b => exact quiet_of_faithful hrules h hvalid (present_some.1 hafter).faithful
    | read8 addr => trivial
    | irqAck => trivial
    | poll around => trivial

end CommandSession

end K1801.Lsi11
