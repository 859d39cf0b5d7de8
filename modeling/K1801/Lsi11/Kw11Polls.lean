import K1801.Lsi11.Kw11

/-! # Polling the KW11-P often or rarely

The programmable clock counts the pulses since the last one it has counted, so that polls in between change nothing.
The first poll after RUN rises only sets the time from which pulses are counted.
-/

namespace K1801.Lsi11

open Core

namespace Kw11

/-- Polls at these times. -/
def polls (ts : List Nat) (kw : Kw11) : Kw11 := ts.foldl (fun kw t => kw.pollRealtime t) kw

/-- The programmable clock alone. -/
def programmable (kw : Kw11) : Kw11 :=
  { kw with kwlDone := false, kwlIe := false, kwlIrqReq := false, kwlLastTickNs := 0, kwlClockInit := false }

/-- The programmable clock, if it runs, counts from a time not after `t`. -/
def Based (t : Nat) (kw : Kw11) : Prop := kw.kwpRunning = true → kw.kwpClockInit = true ∧ kw.kwpLastTickNs ≤ t

/-- The clock without the time it counts from. -/
def untimed (kw : Kw11) : Kw11 := { kw with kwpLastTickNs := 0 }

/-- The same programmable clock; a stopped one may have counted from another time. -/
structure Agrees (kw kw' : Kw11) : Prop where
  same : kw.untimed = kw'.untimed
  last : kw.kwpRunning = true → kw.kwpLastTickNs = kw'.kwpLastTickNs

theorem Agrees.refl (kw : Kw11) : Agrees kw kw := ⟨rfl, fun _ => rfl⟩

theorem Agrees.csr {kw kw' : Kw11} (h : Agrees kw kw') : kw.kwpCsr = kw'.kwpCsr := by
  have hsame : kw.untimed.kwpCsr = kw'.untimed.kwpCsr := congrArg Kw11.kwpCsr h.same
  exact hsame

theorem Agrees.ctr {kw kw' : Kw11} (h : Agrees kw kw') : kw.kwpCtr = kw'.kwpCtr := by
  have hsame : kw.untimed.kwpCtr = kw'.untimed.kwpCtr := congrArg Kw11.kwpCtr h.same
  exact hsame

theorem Agrees.running {kw kw' : Kw11} (h : Agrees kw kw') : kw.kwpRunning = kw'.kwpRunning := by
  unfold kwpRunning
  rw [h.csr]

theorem Agrees.trans {kw kw' kw'' : Kw11} (h : Agrees kw kw') (h' : Agrees kw' kw'') : Agrees kw kw'' :=
  ⟨h.same.trans h'.same, fun hrun => (h.last hrun).trans (h'.last (h.running ▸ hrun))⟩

theorem Agrees.eq {kw kw' : Kw11} (h : Agrees kw kw') (hrun : kw.kwpRunning = true) : kw = kw' := by
  show { kw.untimed with kwpLastTickNs := kw.kwpLastTickNs } = { kw'.untimed with kwpLastTickNs := kw'.kwpLastTickNs }
  rw [h.same, h.last hrun]

/-! ## Pulses -/

theorem rate_or (w : Word) {m : Word} (hm : m &&& kw11pRateMask = 0) :
    (w ||| m) &&& kw11pRateMask = w &&& kw11pRateMask := by
  rw [BitVec.and_comm, BitVec.and_or_distrib_left, BitVec.and_comm kw11pRateMask m, hm]
  exact BitVec.or_zero.trans (BitVec.and_comm kw11pRateMask w)

theorem rate_and (w : Word) {m : Word} (hm : m &&& kw11pRateMask = kw11pRateMask) :
    w &&& m &&& kw11pRateMask = w &&& kw11pRateMask := by
  rw [BitVec.and_assoc, hm]

section Pulses

variable (kw : Kw11)

theorem step_setLast (l : Nat) :
    kwpStepOne { kw with kwpLastTickNs := l } = { kw.kwpStepOne with kwpLastTickNs := l } := by
  unfold kwpStepOne kwpTerminalEvent
  dsimp only
  repeat' split
  all_goals rfl

theorem step_programmable : kw.kwpStepOne.programmable = kw.programmable.kwpStepOne := by
  unfold kwpStepOne kwpTerminalEvent programmable
  dsimp only
  repeat' split
  all_goals rfl

/-- A step keeps the rate, and the time from which pulses are counted. -/
theorem step_keeps : kw.kwpStepOne.kwpCsr &&& kw11pRateMask = kw.kwpCsr &&& kw11pRateMask ∧
    kw.kwpStepOne.kwpLastTickNs = kw.kwpLastTickNs ∧ kw.kwpStepOne.kwpClockInit = kw.kwpClockInit := by
  unfold kwpStepOne kwpTerminalEvent
  dsimp only
  repeat' split
  all_goals refine ⟨?_, rfl, rfl⟩
  all_goals simp only [rate_or _ (show kw11pErr &&& kw11pRateMask = 0 by decide),
    rate_or _ (show kw11pDone &&& kw11pRateMask = 0 by decide),
    rate_and _ (show ~~~kw11pRun &&& kw11pRateMask = kw11pRateMask by decide)]

variable {kw}

theorem advance_stopped (n : Nat) (h : kw.kwpRunning = false) : kwpAdvancePulses n kw = kw := by
  cases n with
  | zero => rfl
  | succ n =>
    unfold kwpAdvancePulses
    rw [h]
    rfl

theorem advance_add (m n : Nat) (kw : Kw11) :
    kwpAdvancePulses (m + n) kw = kwpAdvancePulses n (kwpAdvancePulses m kw) := by
  induction m generalizing kw with
  | zero => rw [Nat.zero_add]; rfl
  | succ m ih =>
    cases hrun : kw.kwpRunning with
    | false => rw [advance_stopped _ hrun, advance_stopped _ hrun, advance_stopped _ hrun]
    | true =>
      rw [Nat.succ_add, kwpAdvancePulses, kwpAdvancePulses, if_pos hrun, if_pos hrun, ih]

theorem advance_setLast (n l : Nat) (kw : Kw11) : kwpAdvancePulses n { kw with kwpLastTickNs := l } =
    { kwpAdvancePulses n kw with kwpLastTickNs := l } := by
  induction n generalizing kw with
  | zero => rfl
  | succ n ih =>
    rw [kwpAdvancePulses, kwpAdvancePulses, show kwpRunning { kw with kwpLastTickNs := l } = kw.kwpRunning from rfl]
    split
    · rw [step_setLast, ih]
    · rfl

theorem advance_programmable (n : Nat) (kw : Kw11) :
    (kwpAdvancePulses n kw).programmable = kwpAdvancePulses n kw.programmable := by
  induction n generalizing kw with
  | zero => rfl
  | succ n ih =>
    rw [kwpAdvancePulses, kwpAdvancePulses, show kw.programmable.kwpRunning = kw.kwpRunning from rfl]
    split
    · rw [ih, step_programmable]
    · rfl

theorem advance_keeps (n : Nat) (kw : Kw11) :
    (kwpAdvancePulses n kw).kwpCsr &&& kw11pRateMask = kw.kwpCsr &&& kw11pRateMask ∧
      (kwpAdvancePulses n kw).kwpLastTickNs = kw.kwpLastTickNs ∧
      (kwpAdvancePulses n kw).kwpClockInit = kw.kwpClockInit := by
  induction n generalizing kw with
  | zero => exact ⟨rfl, rfl, rfl⟩
  | succ n ih =>
    rw [kwpAdvancePulses]
    split
    · obtain ⟨hrate, hlast, hinit⟩ := ih kw.kwpStepOne
      obtain ⟨hrate', hlast', hinit'⟩ := kw.step_keeps
      exact ⟨hrate.trans hrate', hlast.trans hlast', hinit.trans hinit'⟩
    · exact ⟨rfl, rfl, rfl⟩

theorem advance_period (n : Nat) (kw : Kw11) : (kwpAdvancePulses n kw).kwpPeriodNs = kw.kwpPeriodNs := by
  unfold kwpPeriodNs
  rw [(advance_keeps n kw).1]

end Pulses

/-! ## Polls -/

theorem poll_stopped {kw : Kw11} (t : Nat) (h : kw.kwpRunning = false) : kw.kwpPollRealtime t = kw := by
  unfold kwpPollRealtime
  rw [h]
  rfl

/-- The pulses since the last counted one. -/
theorem poll_based {kw : Kw11} {t : Nat} (hrun : kw.kwpRunning = true) (hinit : kw.kwpClockInit = true)
    (hlast : kw.kwpLastTickNs ≤ t) : kw.kwpPollRealtime t =
      { kwpAdvancePulses ((t - kw.kwpLastTickNs) / kw.kwpPeriodNs) kw with
        kwpLastTickNs := kw.kwpLastTickNs + (t - kw.kwpLastTickNs) / kw.kwpPeriodNs * kw.kwpPeriodNs } := by
  unfold kwpPollRealtime
  rw [if_neg (by rw [hrun]; decide), if_neg (by rw [hinit]; decide), if_neg (Nat.not_lt.2 hlast)]
  dsimp only
  by_cases hzero : kw.kwpPeriodNs = 0
  · rw [if_pos hzero, hzero, Nat.div_zero]
    rfl
  · rw [if_neg hzero]
    by_cases hshort : t - kw.kwpLastTickNs < kw.kwpPeriodNs
    · rw [if_pos hshort, Nat.div_eq_of_lt hshort, Nat.zero_mul]
      rfl
    · rw [if_neg hshort, advance_setLast]

theorem Based.poll {kw : Kw11} {t : Nat} (h : kw.Based t) : (kw.kwpPollRealtime t).Based t := by
  cases hrun : kw.kwpRunning with
  | false =>
    rw [poll_stopped t hrun]
    exact h
  | true =>
    obtain ⟨hinit, hlast⟩ := h hrun
    intro _
    rw [poll_based hrun hinit hlast]
    refine ⟨(advance_keeps _ kw).2.2.trans hinit, ?_⟩
    have hle := Nat.div_mul_le_self (t - kw.kwpLastTickNs) kw.kwpPeriodNs
    show kw.kwpLastTickNs + (t - kw.kwpLastTickNs) / kw.kwpPeriodNs * kw.kwpPeriodNs ≤ t
    omega

/-- A poll in between. -/
theorem poll_poll {kw : Kw11} {t t' : Nat} (h : kw.Based t) (hle : t ≤ t') :
    Agrees ((kw.kwpPollRealtime t).kwpPollRealtime t') (kw.kwpPollRealtime t') := by
  cases hrun : kw.kwpRunning with
  | false =>
    rw [poll_stopped t hrun]
    exact Agrees.refl _
  | true =>
    obtain ⟨hinit, hlast⟩ := h hrun
    have hbased := h.poll
    have hpolled := poll_based hrun hinit hlast
    have hwhole := poll_based hrun hinit (Nat.le_trans hlast hle)
    have hperiod : (kw.kwpPollRealtime t).kwpPeriodNs = kw.kwpPeriodNs := by
      rw [hpolled]
      exact advance_period _ kw
    have hdown := Nat.div_mul_le_self (t - kw.kwpLastTickNs) kw.kwpPeriodNs
    have hsplit : (t' - kw.kwpLastTickNs) / kw.kwpPeriodNs = (t - kw.kwpLastTickNs) / kw.kwpPeriodNs +
        (t' - (kw.kwpLastTickNs + (t - kw.kwpLastTickNs) / kw.kwpPeriodNs * kw.kwpPeriodNs)) / kw.kwpPeriodNs := by
      by_cases hzero : kw.kwpPeriodNs = 0
      · rw [hzero, Nat.div_zero, Nat.div_zero, Nat.div_zero]
      · have hrest : t' - kw.kwpLastTickNs =
            t' - (kw.kwpLastTickNs + (t - kw.kwpLastTickNs) / kw.kwpPeriodNs * kw.kwpPeriodNs) +
              (t - kw.kwpLastTickNs) / kw.kwpPeriodNs * kw.kwpPeriodNs := by omega
        rw [hrest, Nat.add_mul_div_right _ _ (Nat.pos_of_ne_zero hzero), Nat.add_comm]
    cases hrun' : (kw.kwpPollRealtime t).kwpRunning with
    | true =>
      obtain ⟨hinit', hlast'⟩ := hbased hrun'
      have hlastEq : (kw.kwpPollRealtime t).kwpLastTickNs =
          kw.kwpLastTickNs + (t - kw.kwpLastTickNs) / kw.kwpPeriodNs * kw.kwpPeriodNs := by rw [hpolled]
      rw [poll_based hrun' hinit' (Nat.le_trans hlast' hle), hwhole, hperiod, hlastEq, hsplit]
      have hadv : ∀ n, kwpAdvancePulses n (kw.kwpPollRealtime t) = { kwpAdvancePulses n
          (kwpAdvancePulses ((t - kw.kwpLastTickNs) / kw.kwpPeriodNs) kw) with
          kwpLastTickNs := kw.kwpLastTickNs + (t - kw.kwpLastTickNs) / kw.kwpPeriodNs * kw.kwpPeriodNs } := by
        intro n
        rw [hpolled, advance_setLast]
      rw [hadv, advance_add, Nat.add_mul, Nat.add_assoc]
      exact Agrees.refl _
    | false =>
      have hstopped : (kwpAdvancePulses ((t - kw.kwpLastTickNs) / kw.kwpPeriodNs) kw).kwpRunning = false := by
        rw [hpolled] at hrun'
        exact hrun'
      rw [poll_stopped t' hrun', hpolled, hwhole, hsplit, advance_add, advance_stopped _ hstopped]
      refine ⟨rfl, fun hcontra => ?_⟩
      exact absurd (hcontra.symm.trans hstopped) (by decide)

theorem Agrees.poll {kw kw' : Kw11} (h : Agrees kw kw') (t : Nat) :
    Agrees (kw.kwpPollRealtime t) (kw'.kwpPollRealtime t) := by
  cases hrun : kw.kwpRunning with
  | true =>
    rw [h.eq hrun]
    exact Agrees.refl _
  | false =>
    rw [poll_stopped t hrun, poll_stopped t (h.running.symm.trans hrun)]
    exact h

theorem poll_programmable (t : Nat) (kw : Kw11) :
    (kw.pollRealtime t).programmable = kw.programmable.kwpPollRealtime t := by
  have hline : (kw.kwlPollRealtime t).programmable = kw.programmable := by
    unfold kwlPollRealtime kwlTick
    dsimp only
    repeat' split
    all_goals rfl
  have hp : ∀ kw : Kw11, (kw.kwpPollRealtime t).programmable = kw.programmable.kwpPollRealtime t := by
    intro kw
    unfold kwpPollRealtime
    dsimp only
    simp only [apply_ite programmable, advance_programmable]
    rfl
  rw [← hline]
  exact hp _

theorem polls_programmable (ts : List Nat) (kw : Kw11) :
    (kw.polls ts).programmable = ts.foldl (fun kw t => kw.kwpPollRealtime t) kw.programmable := by
  induction ts generalizing kw with
  | nil => rfl
  | cons t ts ih =>
    show ((kw.pollRealtime t).polls ts).programmable = _
    rw [ih, poll_programmable]
    rfl

/-- Polls of the programmable clock alone. -/
theorem foldl_agrees {kw : Kw11} {t0 t : Nat} {ts : List Nat} (hbased : kw.Based t0)
    (hmono : (t0 :: (ts ++ [t])).Pairwise (· ≤ ·)) :
    Agrees ((ts ++ [t]).foldl (fun kw t => kw.kwpPollRealtime t) kw) (kw.kwpPollRealtime t) := by
  induction ts generalizing kw t0 with
  | nil => exact Agrees.refl _
  | cons t1 ts ih =>
    obtain ⟨hfirst, hrest⟩ := List.pairwise_cons.1 hmono
    have hbased' : kw.Based t1 := fun hrun =>
      ⟨(hbased hrun).1, Nat.le_trans (hbased hrun).2 (hfirst t1 (List.mem_cons_self))⟩
    have hlast : t1 ≤ t := (List.pairwise_cons.1 hrest).1 t (List.mem_append_right _ (List.mem_singleton.2 rfl))
    exact (ih hbased'.poll hrest).trans (poll_poll hbased' hlast)

/-- Once the clock has its time base, polls in between change neither the counter nor any bit of the CSR. -/
theorem polls_eq_single {kw : Kw11} {t0 t : Nat} {ts : List Nat} (hbased : kw.Based t0)
    (hmono : (t0 :: (ts ++ [t])).Pairwise (· ≤ ·)) :
    (kw.polls (ts ++ [t])).kwpCtr = (kw.pollRealtime t).kwpCtr ∧
      (kw.polls (ts ++ [t])).kwpCsr = (kw.pollRealtime t).kwpCsr := by
  have hagrees : Agrees (kw.polls (ts ++ [t])).programmable (kw.pollRealtime t).programmable := by
    rw [polls_programmable, poll_programmable]
    exact @foldl_agrees kw.programmable t0 t ts hbased hmono
  exact ⟨hagrees.ctr, hagrees.csr⟩

/-- A poll gives the clock its time base. -/
theorem based_poll (t : Nat) (kw : Kw11) : (kw.pollRealtime t).Based t := by
  unfold pollRealtime
  generalize kw.kwlPollRealtime t = kw
  cases hrun : kw.kwpRunning with
  | false =>
    rw [poll_stopped t hrun]
    exact fun h => absurd (hrun.symm.trans h) (by decide)
  | true =>
    cases hinit : kw.kwpClockInit with
    | false =>
      have hfirst : kw.kwpPollRealtime t = { kw with kwpClockInit := true, kwpLastTickNs := t } := by
        unfold kwpPollRealtime
        rw [if_neg (by rw [hrun]; decide), if_pos (by rw [hinit]; decide)]
      rw [hfirst]
      exact fun _ => ⟨rfl, Nat.le_refl t⟩
    | true =>
      by_cases hback : t < kw.kwpLastTickNs
      · have hbase : kw.kwpPollRealtime t = { kw with kwpLastTickNs := t } := by
          unfold kwpPollRealtime
          rw [if_neg (by rw [hrun]; decide), if_neg (by rw [hinit]; decide), if_pos hback]
        rw [hbase]
        exact fun _ => ⟨hinit, Nat.le_refl t⟩
      · exact Based.poll fun _ => ⟨hinit, Nat.not_lt.1 hback⟩

/-- A clock at 100 kHz, started and polled after 10 and 20 microseconds, and after 20 microseconds only. -/
theorem first_poll_counts : ((reset {}).write8 kw11pCsr 0o1).kwpRunning = true ∧
    (((reset {}).write8 kw11pCsr 0o1).polls [10000, 20000]).kwpCsr ≠
      (((reset {}).write8 kw11pCsr 0o1).pollRealtime 20000).kwpCsr := by decide +kernel

/-- The same clock, when its time base is set at 0. -/
theorem polls_from_zero : ((((reset {}).write8 kw11pCsr 0o1).pollRealtime 0).polls ([10000] ++ [20000])).kwpCsr =
    ((((reset {}).write8 kw11pCsr 0o1).pollRealtime 0).pollRealtime 20000).kwpCsr :=
  (@polls_eq_single (((reset {}).write8 kw11pCsr 0o1).pollRealtime 0) 0 20000 [10000] (based_poll 0 _)
    (by decide)).2

end Kw11

end K1801.Lsi11
