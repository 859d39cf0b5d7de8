import K1801.Core.Hwstub
import K1801.Core.TimerFrame
import K1801.Library.DownCounter

/-! # The period of the 1801VM1 timer

A tick of a running timer counts down and, at zero, raises the event flags and loads the limit. With the wrap
bit the timer is to go on through zero, but the count stays there and every further tick expires again; a limit
of zero loads 0177777. So the period holds as long as neither is met at an expiry.
-/

namespace K1801.Core

open Library

variable {β : Type}

namespace Regs

/-- The next tick of the timer finds the count at its end. -/
def TveExpires (r : Regs) : Prop := r.model = .k1801vm1 ∧ r.tveCsr &&& 0o20 ≠ 0 ∧ r.tveCountDown.tveCount = 0

/-- The two event flags, pending and ready. -/
def tveSignal (r : Regs) : Bool × Bool := (r.tvePending, decide (r.tveCsr &&& 0o200 ≠ 0))

/-- The steps of one full count: the limit, or all the values of the counter. -/
def tveFullCount (r : Regs) : Nat :=
  if r.tveLimit = 0 ∨ r.tveCsr &&& 0o2 ≠ 0 then 0o200000 else r.tveLimit.toNat

/-- One-shot mode -/
def TveOneShot (r : Regs) : Prop := r.tveCsr &&& 0o10 ≠ 0

/-- The expiry neither meets the wrap bit nor loads a limit of zero. -/
def TveReloads (r : Regs) : Prop := r.tveCsr &&& 0o2 = 0 ∧ (r.tveLimit ≠ 0 ∨ r.TveOneShot)

/-- The steps to the next expiry, zero when the timer does not run. -/
def tveLeft (r : Regs) : Nat :=
  if r.model ≠ .k1801vm1 ∨ r.tveCsr &&& 0o20 = 0 then 0 else max 1 r.tveCount.toNat

end Regs

/-- An expiry raises one signal: pending first, then ready. -/
def raiseSignal (s : Bool × Bool) : Bool × Bool := (true, s.2 || s.1)

/-- The expiries of the timer along `n` steps are one full count apart, each of them raises one signal if the
    event is enabled, and one-shot mode makes exactly one of them. -/
structure TimerPeriod (rs : Nat → Regs) (n : Nat) : Prop where
  comes : 0o200000 ≤ n → ∃ i < n, (rs i).TveExpires
  once : (rs 0).TveOneShot → ∀ i j, i < j → j < n → (rs i).TveExpires → ¬ (rs j).TveExpires
  spaced : ¬ (rs 0).TveOneShot → ∀ i j, i < j → j < n → j < i + (rs 0).tveFullCount →
    (rs i).TveExpires → ¬ (rs j).TveExpires
  again : ¬ (rs 0).TveOneShot → ∀ i, i + (rs 0).tveFullCount < n →
    (rs i).TveExpires → (rs (i + (rs 0).tveFullCount)).TveExpires
  signals : ∀ i < n, (rs i).TveExpires → (rs i).tveCsr &&& 0o4 ≠ 0 →
    (rs (i + 1)).tveSignal = raiseSignal (rs i).tveSignal
  quiet : ∀ i < n, ¬ (rs i).TveExpires → (rs (i + 1)).tveSignal = (rs i).tveSignal

/-- Steps of a 1801VM1 with its timer running, none of which stores into a register of the timer. -/
structure TimerRun (h : Host β) (fuel : Nat → Nat × Nat) (ms : Nat → Machine β) (n : Nat) : Prop where
  model : (ms 0).core.model = .k1801vm1
  running : (ms 0).core.tveCsr &&& 0o20 ≠ 0
  steps : ∀ i < n, (coreStep h (fuel i).1 (fuel i).2).run (ms i) = .done () (ms (i + 1))
  untouched : ∀ i < n, ∀ op ∈ (ms i).since (ms (i + 1)), op.storesTimer = false

/-- The step comes to its end: it does not return early, waiting, on the halt line or from a refused access. -/
def StepEnds (h : Host β) (fuel : Nat × Nat) (m : Machine β) : Prop :=
  ∃ m', ((Env.nested h fuel.1).stepBody fuel.2).run m = .done () m'

/-! ## One tick -/

namespace Regs

variable {r r' : Regs}

theorem tveLeft_of_timer (h : r'.timer = r.timer) : r'.tveLeft = r.tveLeft := by
  obtain ⟨hmodel, -, hcount, hcsr, -⟩ := timer_eq_iff.1 h
  unfold tveLeft
  rw [hmodel, hcount, hcsr]

theorem tveSignal_of_timer (h : r'.timer = r.timer) : r'.tveSignal = r.tveSignal := by
  obtain ⟨-, -, -, hcsr, hpending⟩ := timer_eq_iff.1 h
  unfold tveSignal
  rw [hcsr, hpending]

theorem tveCountDown_toNat (r : Regs) : r.tveCountDown.tveCount.toNat = r.tveCount.toNat - 1 := by
  unfold tveCountDown
  split
  · rename_i hne
    have hpos : r.tveCount.toNat ≠ 0 := fun h => hne (BitVec.eq_of_toNat_eq h)
    have hlt := r.tveCount.isLt
    have hone : (1 : Word).toNat = 1 := rfl
    show (r.tveCount - 1).toNat = _
    rw [BitVec.toNat_sub, hone]
    omega
  · rename_i hzero
    have hcount : r.tveCount = 0 := Decidable.not_not.1 hzero
    rw [hcount]
    rfl

theorem tveExpires_iff : r.TveExpires ↔ r.tveLeft = 1 := by
  have hdown := tveCountDown_toNat r
  have hzero : r.tveCountDown.tveCount = 0 ↔ r.tveCountDown.tveCount.toNat = 0 :=
    ⟨fun h => by rw [h]; rfl, fun h => BitVec.eq_of_toNat_eq h⟩
  unfold TveExpires tveLeft
  rw [hzero, hdown]
  split
  · rename_i hstopped
    grind
  · rename_i hrunning
    grind

/-- The settings of the timer: what a tick leaves alone. -/
def tveSettings (r : Regs) : Model × Word × Word := (r.model, r.tveLimit, r.tveCsr &&& 0o16)

theorem tveSettings_of_timer (h : r'.timer = r.timer) : r'.tveSettings = r.tveSettings := by
  obtain ⟨hmodel, hlimit, -, hcsr, -⟩ := timer_eq_iff.1 h
  unfold tveSettings
  rw [hmodel, hlimit, hcsr]

theorem tveCountDown_fields (r : Regs) : r.tveCountDown.model = r.model ∧ r.tveCountDown.tveLimit = r.tveLimit ∧
    r.tveCountDown.tveCsr = r.tveCsr ∧ r.tveCountDown.tvePending = r.tvePending := by
  unfold tveCountDown
  split <;> exact ⟨rfl, rfl, rfl, rfl⟩

theorem tveRaise_fields (r : Regs) : r.tveRaise.model = r.model ∧ r.tveRaise.tveLimit = r.tveLimit ∧
    r.tveRaise.tveCount = r.tveCount ∧ (r.tveRaise.tveCsr = r.tveCsr ∨ r.tveRaise.tveCsr = r.tveCsr ||| 0o200) := by
  unfold tveRaise
  split
  · exact ⟨rfl, rfl, rfl, .inl rfl⟩
  · split
    · exact ⟨rfl, rfl, rfl, .inr rfl⟩
    · exact ⟨rfl, rfl, rfl, .inl rfl⟩

/-- The ready bit is none of the mode bits. -/
theorem and_of_ready {csr csr' : Word} (h : csr' = csr ∨ csr' = csr ||| 0o200) {mask : Word}
    (hmask : 0o200 &&& mask = 0) : csr' &&& mask = csr &&& mask := by
  rcases h with rfl | rfl
  · rfl
  · rw [BitVec.and_or_distrib_right, hmask]
    exact BitVec.or_zero

theorem and_of_stop (csr : Word) {mask : Word} (hmask : ~~~(0o20 : Word) &&& mask = mask) :
    csr &&& ~~~(0o20 : Word) &&& mask = csr &&& mask := by
  rw [BitVec.and_assoc, hmask]

/-- A tick on which nothing expires. -/
theorem tveTick_silent (h : ¬ r.TveExpires) : r.tveTick = if r.tveLeft = 0 then r else r.tveCountDown := by
  unfold tveTick tveLeft
  by_cases hstopped : r.model ≠ .k1801vm1 ∨ r.tveCsr &&& 0o20 = 0
  · rw [if_pos hstopped, if_pos hstopped, if_pos rfl]
  · have hrunning : r.model = .k1801vm1 ∧ r.tveCsr &&& 0o20 ≠ 0 := by
      constructor
      · exact Decidable.not_not.1 fun hmodel => hstopped (.inl hmodel)
      · exact fun hcsr => hstopped (.inr hcsr)
    have hcount : r.tveCountDown.tveCount ≠ 0 := fun hzero => h ⟨hrunning.1, hrunning.2, hzero⟩
    have hleft : max 1 r.tveCount.toNat ≠ 0 := by omega
    rw [if_neg hstopped, if_neg hstopped, if_pos hcount, if_neg hleft]

theorem tveTick_expiry (h : r.TveExpires) : r.tveTick = r.tveCountDown.tveRaise.tveReload := by
  have hrunning : ¬ (r.model ≠ .k1801vm1 ∨ r.tveCsr &&& 0o20 = 0) := by
    rintro (hmodel | hcsr)
    · exact hmodel h.1
    · exact h.2.1 hcsr
  unfold tveTick
  rw [if_neg hrunning, if_neg (not_not_intro h.2.2)]

theorem tveReload_fields (r : Regs) : r.tveReload.model = r.model ∧ r.tveReload.tveLimit = r.tveLimit ∧
    r.tveReload.tvePending = r.tvePending ∧
      (r.tveReload.tveCsr = r.tveCsr ∨ r.tveReload.tveCsr = r.tveCsr &&& ~~~(0o20 : Word)) := by
  unfold tveReload
  split
  · exact ⟨rfl, rfl, rfl, .inl rfl⟩
  · refine ⟨rfl, rfl, rfl, ?_⟩
    dsimp only
    split
    · exact .inr rfl
    · exact .inl rfl

theorem tveSettings_tveTick (r : Regs) : r.tveTick.tveSettings = r.tveSettings := by
  obtain ⟨hmodel, hlimit, hcsr, -⟩ := tveCountDown_fields r
  have hdown : r.tveCountDown.tveSettings = r.tveSettings := by
    unfold tveSettings
    rw [hmodel, hlimit, hcsr]
  by_cases hexpires : r.TveExpires
  · obtain ⟨hmodel₁, hlimit₁, -, hcsr₁⟩ := tveRaise_fields r.tveCountDown
    obtain ⟨hmodel₂, hlimit₂, -, hcsr₂⟩ := tveReload_fields r.tveCountDown.tveRaise
    rw [tveTick_expiry hexpires, ← hdown]
    unfold tveSettings
    rw [hmodel₂, hmodel₁, hlimit₂, hlimit₁, ← and_of_ready hcsr₁ (show 0o200 &&& (0o16 : Word) = 0 from rfl)]
    rcases hcsr₂ with hcsr₂ | hcsr₂
    · rw [hcsr₂]
    · rw [hcsr₂, and_of_stop _ rfl]
  · rw [tveTick_silent hexpires]
    split
    · rfl
    · exact hdown

theorem tveLeft_tveTick_silent (h : ¬ r.TveExpires) : r.tveTick.tveLeft = r.tveLeft - 1 := by
  rw [tveTick_silent h]
  split
  · rename_i hstopped
    rw [hstopped]
  · rename_i hrunning
    obtain ⟨hmodel, -, hcsr, -⟩ := tveCountDown_fields r
    have hdown := tveCountDown_toNat r
    have hlater : r.tveLeft ≠ 1 := fun hone => h (tveExpires_iff.2 hone)
    unfold tveLeft at hrunning hlater ⊢
    rw [hmodel, hcsr, hdown]
    split
    · rename_i hstopped
      exact absurd (if_pos hstopped) hrunning
    · rename_i hruns
      rw [if_neg hruns] at hlater
      omega

/-- An expiry in one-shot mode stops the timer, another one loads the limit. -/
theorem tveLeft_tveTick_expiry (h : r.TveExpires) (hreloads : r.TveReloads) :
    (r.TveOneShot → r.tveTick.tveLeft = 0) ∧ (¬ r.TveOneShot → r.tveTick.tveLeft = r.tveLimit.toNat) := by
  obtain ⟨hmodel, hlimit, hcsr, -⟩ := tveCountDown_fields r
  obtain ⟨hmodel₁, hlimit₁, -, hcsr₁⟩ := tveRaise_fields r.tveCountDown
  rw [hcsr] at hcsr₁
  have hwrap : ¬ r.tveCountDown.tveRaise.tveCsr &&& 0o2 ≠ 0 := by
    rw [and_of_ready hcsr₁ rfl]
    exact not_not_intro hreloads.1
  rw [tveTick_expiry h]
  unfold tveReload
  rw [if_neg hwrap, and_of_ready hcsr₁ (show 0o200 &&& (0o10 : Word) = 0 from rfl)]
  constructor
  · intro hshot
    have hstopped : (r.tveCountDown.tveRaise.tveCsr &&& ~~~(0o20 : Word)) &&& 0o20 = 0 := by
      rw [BitVec.and_assoc, show ~~~(0o20 : Word) &&& 0o20 = 0 from rfl]
      exact BitVec.and_zero
    have hbit : r.tveCsr &&& 0o10 ≠ 0 := hshot
    unfold tveLeft
    dsimp only
    rw [if_pos hbit]
    exact if_pos (.inr hstopped)
  · intro hshot
    have hrunning : ¬ (r.tveCountDown.tveRaise.model ≠ .k1801vm1 ∨ r.tveCountDown.tveRaise.tveCsr &&& 0o20 = 0) := by
      rw [hmodel₁, hmodel, and_of_ready hcsr₁ rfl]
      rintro (hother | hstopped)
      · exact hother h.1
      · exact h.2.1 hstopped
    have hne : r.tveLimit ≠ 0 := hreloads.2.resolve_right hshot
    have hpos : r.tveLimit.toNat ≠ 0 := fun hzero => hne (BitVec.eq_of_toNat_eq hzero)
    have hload : (if r.tveCountDown.tveRaise.tveLimit = 0 then (0o177777 : Word) else r.tveCountDown.tveRaise.tveLimit) =
        r.tveLimit := by
      rw [hlimit₁, hlimit, if_neg hne]
    have hbit : ¬ r.tveCsr &&& 0o10 ≠ 0 := hshot
    unfold tveLeft
    dsimp only
    rw [if_neg hbit, if_neg hrunning, hload]
    omega

theorem tveSignal_tveTick_silent (h : ¬ r.TveExpires) : r.tveTick.tveSignal = r.tveSignal := by
  obtain ⟨-, -, hcsr, hpending⟩ := tveCountDown_fields r
  rw [tveTick_silent h]
  split
  · rfl
  · unfold tveSignal
    rw [hcsr, hpending]

theorem tveSignal_tveTick_expiry (h : r.TveExpires) (henabled : r.tveCsr &&& 0o4 ≠ 0) :
    r.tveTick.tveSignal = raiseSignal r.tveSignal := by
  obtain ⟨-, -, hcsr, hpending⟩ := tveCountDown_fields r
  obtain ⟨-, -, hpending₂, hcsr₂⟩ := tveReload_fields r.tveCountDown.tveRaise
  have hready : r.tveCountDown.tveRaise.tveReload.tveCsr &&& 0o200 = r.tveCountDown.tveRaise.tveCsr &&& 0o200 := by
    rcases hcsr₂ with hcsr₂ | hcsr₂
    · rw [hcsr₂]
    · rw [hcsr₂, and_of_stop _ rfl]
  rw [tveTick_expiry h]
  unfold tveSignal
  rw [hpending₂, hready]
  unfold tveRaise raiseSignal
  rw [hcsr, hpending, if_neg henabled]
  cases r.tvePending with
  | false => simp [hcsr]
  | true =>
    have hset : (r.tveCsr ||| 0o200) &&& 0o200 ≠ (0 : Word) := by
      rw [BitVec.and_or_distrib_right]
      exact fun hzero => absurd (BitVec.or_eq_zero_iff.1 hzero).2 (by decide)
    rw [Bool.or_true]
    exact Prod.ext rfl (decide_eq_true hset)

end Regs

/-! ## Runs -/

section Runs

variable {h : Host β} {fuel : Nat → Nat × Nat} {ms : Nat → Machine β} {n : Nat}

/-- A step that comes to its end makes one tick. -/
theorem TimerRun.ticks (hrun : TimerRun h fuel ms n) (hends : ∀ i < n, StepEnds h (fuel i) (ms i)) {i : Nat}
    (hi : i < n) : (ms (i + 1)).core.timer = (ms i).core.tveTick.timer := by
  obtain ⟨m', hbody⟩ := hends i hi
  have hstep := hrun.steps i hi
  unfold coreStep at hstep
  rw [Program.run_routine, hbody] at hstep
  cases hstep
  exact stepBody_timer hbody (hrun.untouched i hi)

/-- What the ticks of a run do to the registers. -/
structure Ticks (rs : Nat → Regs) (n : Nat) : Prop where
  running : (rs 0).tveLeft ≠ 0
  timer : ∀ i < n, (rs (i + 1)).timer = (rs i).tveTick.timer

namespace Ticks

variable {rs : Nat → Regs}

theorem settings (h : Ticks rs n) {i : Nat} (hi : i ≤ n) : (rs i).tveSettings = (rs 0).tveSettings := by
  induction i with
  | zero => rfl
  | succ i ih =>
    have hbefore := ih (by omega)
    exact (Regs.tveSettings_of_timer (h.timer i (by omega))).trans ((rs i).tveSettings_tveTick.trans hbefore)

theorem down (h : Ticks rs n) {i : Nat} (hi : i < n) (hleft : (rs i).tveLeft ≠ 1) :
    (rs (i + 1)).tveLeft = (rs i).tveLeft - 1 := by
  have hsilent : ¬ (rs i).TveExpires := fun hexpires => hleft (Regs.tveExpires_iff.1 hexpires)
  exact (Regs.tveLeft_of_timer (h.timer i hi)).trans (Regs.tveLeft_tveTick_silent hsilent)

/-- The mode bits are those of the beginning of the run. -/
theorem modes (h : Ticks rs n) {i : Nat} (hi : i ≤ n) :
    (rs i).tveLimit = (rs 0).tveLimit ∧ ((rs i).TveOneShot ↔ (rs 0).TveOneShot) ∧
      ((rs i).TveReloads ↔ (rs 0).TveReloads) := by
  have hsettings := h.settings hi
  simp only [Regs.tveSettings, Prod.mk.injEq] at hsettings
  obtain ⟨-, hlimit, hcsr⟩ := hsettings
  have hbits {mask : Word} (hmask : 0o16 &&& mask = mask) :
      (rs i).tveCsr &&& mask = (rs 0).tveCsr &&& mask := by
    rw [← hmask, ← BitVec.and_assoc, ← BitVec.and_assoc, hcsr]
  have hshot : (rs i).TveOneShot ↔ (rs 0).TveOneShot := by
    unfold Regs.TveOneShot
    rw [hbits rfl]
  refine ⟨hlimit, hshot, ?_⟩
  unfold Regs.TveReloads
  rw [hbits rfl, hlimit, hshot]

/-- The counter of a run whose expiries all stop the timer or load a limit. -/
theorem countsDown (h : Ticks rs n) (hreloads : (rs 0).TveReloads) {load : Nat}
    (hshot : (rs 0).TveOneShot → load = 0) (hperiod : ¬ (rs 0).TveOneShot → load = (rs 0).tveLimit.toNat) :
    CountsDown load (fun i => (rs i).tveLeft) n where
  down i hi hleft := h.down hi hleft
  load i hi hleft := by
    obtain ⟨hlimit, hshot', hreloads'⟩ := h.modes (Nat.le_of_lt hi)
    obtain ⟨hstops, hloads⟩ := Regs.tveLeft_tveTick_expiry (Regs.tveExpires_iff.2 hleft) (hreloads'.2 hreloads)
    have htick := Regs.tveLeft_of_timer (h.timer i hi)
    by_cases hmode : (rs 0).TveOneShot
    · rw [htick, hshot hmode]
      exact hstops (hshot'.2 hmode)
    · rw [htick, hperiod hmode, ← hlimit]
      exact hloads fun hset => hmode (hshot'.1 hset)

/-- Without the wrap bit, and with a limit in reload mode, the limit is the full count. -/
theorem fullCount (hreloads : (rs 0).TveReloads) (hshot : ¬ (rs 0).TveOneShot) :
    (rs 0).tveFullCount = (rs 0).tveLimit.toNat ∧ (rs 0).tveLimit.toNat ≠ 0 := by
  have hlimit : (rs 0).tveLimit ≠ 0 := hreloads.2.resolve_right hshot
  have hload : ¬ ((rs 0).tveLimit = 0 ∨ (rs 0).tveCsr &&& 0o2 ≠ 0) := by
    rintro (hzero | hwrap)
    · exact hlimit hzero
    · exact hwrap hreloads.1
  exact ⟨if_neg hload, fun hzero => hlimit (BitVec.eq_of_toNat_eq hzero)⟩

theorem period (h : Ticks rs n) (hexpiries : ∀ i < n, (rs i).TveExpires → (rs i).TveReloads) :
    TimerPeriod rs n := by
  have hreloads {i : Nat} (hi : i < n) (hexpires : (rs i).TveExpires) : (rs 0).TveReloads :=
    (h.modes (Nat.le_of_lt hi)).2.2.1 (hexpiries i hi hexpires)
  constructor
  case comes =>
    intro hn
    have hleft : (rs 0).tveLeft ≤ n := by
      have hlt := (rs 0).tveCount.isLt
      unfold Regs.tveLeft
      split <;> omega
    have hdown : ∀ i < n, (fun i => (rs i).tveLeft) i ≠ 1 → (rs (i + 1)).tveLeft = (rs i).tveLeft - 1 :=
      fun i hi => h.down hi
    obtain ⟨i, hi, hone⟩ := expires_within hdown h.running hleft
    exact ⟨i, hi, Regs.tveExpires_iff.2 hone⟩
  case once =>
    intro hshot i j hij hj hexpires hagain
    have hcounts : CountsDown 0 (fun i => (rs i).tveLeft) n :=
      h.countsDown (hreloads (by omega) hexpires) (fun _ => rfl) fun hnot => absurd hshot hnot
    exact hcounts.once (Regs.tveExpires_iff.1 hexpires) hij (by omega) (Regs.tveExpires_iff.1 hagain)
  case spaced =>
    intro hshot i j hij hj hnear hexpires hagain
    have hreload := hreloads (by omega) hexpires
    have hcounts : CountsDown (rs 0).tveLimit.toNat (fun i => (rs i).tveLeft) n :=
      h.countsDown hreload (fun hset => absurd hset hshot) fun _ => rfl
    rw [(fullCount hreload hshot).1] at hnear
    exact hcounts.spaced (Regs.tveExpires_iff.1 hexpires) hij (by omega) hnear (Regs.tveExpires_iff.1 hagain)
  case again =>
    intro hshot i hi hexpires
    have hreload := hreloads (by omega) hexpires
    have hcounts : CountsDown (rs 0).tveLimit.toNat (fun i => (rs i).tveLeft) n :=
      h.countsDown hreload (fun hset => absurd hset hshot) fun _ => rfl
    obtain ⟨hfull, hpos⟩ := fullCount hreload hshot
    rw [hfull] at hi ⊢
    exact Regs.tveExpires_iff.2 (hcounts.again (Regs.tveExpires_iff.1 hexpires) hpos (by omega))
  case signals =>
    intro i hi hexpires henabled
    exact (Regs.tveSignal_of_timer (h.timer i hi)).trans (Regs.tveSignal_tveTick_expiry hexpires henabled)
  case quiet =>
    intro i hi hsilent
    exact (Regs.tveSignal_of_timer (h.timer i hi)).trans (Regs.tveSignal_tveTick_silent hsilent)

end Ticks

/-- The period of a run whose steps all come to their end, none of them expiring with the wrap bit set or, in
    reload mode, with a limit of zero. -/
theorem timer_period_of_reloads (hrun : TimerRun h fuel ms n) (hends : ∀ i < n, StepEnds h (fuel i) (ms i))
    (hexpiries : ∀ i < n, (ms i).core.TveExpires → (ms i).core.TveReloads) :
    TimerPeriod (fun i => (ms i).core) n := by
  have hticks : Ticks (fun i => (ms i).core) n := by
    refine ⟨?_, fun i hi => hrun.ticks hends hi⟩
    have hstopped : ¬ ((ms 0).core.model ≠ .k1801vm1 ∨ (ms 0).core.tveCsr &&& 0o20 = 0) := by
      rintro (hmodel | hcsr)
      · exact hmodel hrun.model
      · exact hrun.running hcsr
    unfold Regs.tveLeft
    rw [if_neg hstopped]
    omega
  exact hticks.period hexpiries

end Runs

/-- A board whose memory holds NOPs only. -/
def nops : Memory := fun i => if i % 2 = 0 then 0o240 else 0

/-- A timer with the event enabled. -/
def timerStart (limit count csr : Word) : Machine Memory :=
  ⟨{ model := .k1801vm1, tveLimit := limit, tveCount := count, tveCsr := csr }, nops, []⟩

def nopRun (m : Machine Memory) : Nat → Machine Memory
  | 0 => m
  | i + 1 => ((coreStep (hwstub false) 0 0).run (nopRun m i)).state

/-- With a limit of two the first step and the third expire. -/
theorem timer_period_of_limit_two : TimerPeriod (fun i => (nopRun (timerStart 2 1 0o177424) i).core) 4 := by
  have hends : ∀ i < 4, StepEnds (hwstub false) (0, 0) (nopRun (timerStart 2 1 0o177424) i)
    | 0, _ | 1, _ | 2, _ | 3, _ => ⟨_, rfl⟩
  have hsteps : ∀ i < 4, (coreStep (hwstub false) 0 0).run (nopRun (timerStart 2 1 0o177424) i) =
      .done () (nopRun (timerStart 2 1 0o177424) (i + 1))
    | 0, _ | 1, _ | 2, _ | 3, _ => rfl
  have huntouched : ∀ i < 4, ∀ op ∈ (nopRun (timerStart 2 1 0o177424) i).since
      (nopRun (timerStart 2 1 0o177424) (i + 1)), op.storesTimer = false
    | 0, _ | 1, _ | 2, _ | 3, _ => by decide
  have hexpiries : ∀ i < 4, (nopRun (timerStart 2 1 0o177424) i).core.TveExpires →
      (nopRun (timerStart 2 1 0o177424) i).core.TveReloads
    | 0, _, _ | 1, _, _ | 2, _, _ | 3, _, _ => ⟨by decide, .inl (by decide)⟩
  have hrun : TimerRun (hwstub false) (fun _ => (0, 0)) (nopRun (timerStart 2 1 0o177424)) 4 :=
    ⟨rfl, by decide, hsteps, huntouched⟩
  exact timer_period_of_reloads hrun hends hexpiries

/-- With the wrap bit the timer expires on every step once its count is zero. -/
theorem wrap_expires_every_step :
    TimerRun (hwstub false) (fun _ => (0, 0)) (nopRun (timerStart 3 1 0o177426)) 2 ∧
      ¬ TimerPeriod (fun i => (nopRun (timerStart 3 1 0o177426) i).core) 2 := by
  have hsteps : ∀ i < 2, (coreStep (hwstub false) 0 0).run (nopRun (timerStart 3 1 0o177426) i) =
      .done () (nopRun (timerStart 3 1 0o177426) (i + 1))
    | 0, _ | 1, _ => rfl
  have huntouched : ∀ i < 2, ∀ op ∈ (nopRun (timerStart 3 1 0o177426) i).since
      (nopRun (timerStart 3 1 0o177426) (i + 1)), op.storesTimer = false
    | 0, _ | 1, _ => by decide
  refine ⟨⟨rfl, by decide, hsteps, huntouched⟩, fun hperiod => ?_⟩
  have hshot : ¬ (nopRun (timerStart 3 1 0o177426) 0).core.TveOneShot := not_not_intro (by decide)
  have hfirst : (nopRun (timerStart 3 1 0o177426) 0).core.TveExpires := ⟨rfl, by decide, by decide⟩
  have hsecond : (nopRun (timerStart 3 1 0o177426) 1).core.TveExpires := ⟨rfl, by decide, by decide⟩
  exact hperiod.spaced hshot 0 1 (by decide) (by decide) (by decide) hfirst hsecond

end K1801.Core
