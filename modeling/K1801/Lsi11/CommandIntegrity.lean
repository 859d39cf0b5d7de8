import K1801.Lsi11.Rh11Command
import K1801.Lsi11.XpCommand

/-! # Which commands the disk controllers carry out

From reset on, both controllers keep GO and DONE opposite and complete every command once. What they carry out is what
was ordered as long as no byte of the control register changes a pending command: the other registers refuse while one
is pending, the control register does not.
-/

namespace K1801.Lsi11

open Core Library CommandSession

/-- A session with a controller just reset. -/
def CommandSession.start {σ ω : Type} (d : σ) : CommandSession σ ω := { device := d }

theorem latched_start {σ ω ε : Type} {c : Controller σ ω ε} {d : σ} (hgo : c.go d = false)
    (hmatched : c.go d = !(c.latch d).done) : Latched c (CommandSession.start d) where
  matched := hmatched
  once := by
    show 0 = 0 + (c.go d).toNat
    rw [hgo]
    rfl
  polled h := absurd (show false = true from h) (by decide)
  faithful h := absurd (hgo.symm.trans h) (by decide)

/-- The XP from reset on. -/
theorem Xp.latched_iff {δ : Type} (xp : Xp) (evs : List (ControllerEvent (Bus δ))) :
    Throughout (orLeave (step (Xp.controller δ))) (Present (Latched (Xp.controller δ))) (some (.start xp.reset)) evs ↔
      AtEach (orLeave (step (Xp.controller δ))) (fun s ev => Present (fun s => Undisturbed Xp.disturbs s ev) s)
        (some (.start xp.reset)) evs := by
  have hreset := xp.matched_reset
  have hgo : xp.reset.go = false := by
    rw [hreset.go]
    rfl
  exact throughout_latched_iff (Xp.rules δ) hreset (latched_start hgo hreset.go) evs

/-- The RH11 from reset on, in either mode. -/
theorem Rh11.latched_iff {δ : Type} (rh : Rh11) (evs : List (ControllerEvent (Ubmap × Bus δ))) :
    Throughout (orLeave (step (Rh11.controller δ))) (Present (Latched (Rh11.controller δ))) (some (.start rh.reset)) evs ↔
      AtEach (orLeave (step (Rh11.controller δ))) (fun s ev => Present (fun s => Undisturbed Rh11.disturbs s ev) s)
        (some (.start rh.reset)) evs :=
  throughout_latched_iff (Rh11.rules δ) rh.matched_reset (latched_start rh.reset_go rh.matched_reset.go) evs

end K1801.Lsi11
