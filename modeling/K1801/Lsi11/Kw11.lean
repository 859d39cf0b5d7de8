import K1801.Core.State

/-! # The KW11 clocks

The line clock KW11-L and the programmable clock KW11-P. The programmable clock counts pulses that are worked out from
the time since the last one it has counted.
-/

namespace K1801.Lsi11

open Core

abbrev kw11lCsr : Word := 0o177546

abbrev kw11pCsr : Word := 0o172540
abbrev kw11pCsb : Word := 0o172542
abbrev kw11pCtr : Word := 0o172544

abbrev kw11lDone : Byte := 0o200
abbrev kw11lIe : Byte := 0o100
abbrev kw11lDefaultStepsPerTick : Nat := 16667
abbrev kwlPeriodNs : Nat := 16666667

abbrev kw11pRun : Word := 0o1
abbrev kw11pRateMask : Word := 0o6
abbrev kw11pRate100khz : Word := 0o0
abbrev kw11pRate10khz : Word := 0o2
abbrev kw11pRateLine : Word := 0o4
abbrev kw11pRepeat : Word := 0o10
abbrev kw11pUp : Word := 0o20
abbrev kw11pFix : Word := 0o40
abbrev kw11pIe : Word := 0o100
abbrev kw11pDone : Word := 0o200
abbrev kw11pErr : Word := 0o400

/-- The static variables of the driver. Times are in nanoseconds. -/
structure Kw11 where
  kwlDone : Bool := false
  kwlIe : Bool := false
  kwlIrqReq : Bool := false
  kwlLastTickNs : Nat := 0
  kwlClockInit : Bool := false
  kwpCsr : Word := 0
  kwpCsb : Word := 0
  kwpCtr : Word := 0
  kwpIrqReq : Bool := false
  kwpIrqArmed : Bool := true
  kwpLastTickNs : Nat := 0
  kwpClockInit : Bool := false
  stepClock : Bool := false
  stepsPerTick : Nat := kw11lDefaultStepsPerTick
  kwlStepsAccum : Nat := 0
  deriving Repr, DecidableEq

namespace Kw11

def kwpRunning (kw : Kw11) : Bool := kw.kwpCsr &&& kw11pRun ≠ 0

def kwpSwClearDone (kw : Kw11) : Kw11 :=
  { kw with kwpCsr := kw.kwpCsr &&& ~~~kw11pDone, kwpIrqReq := false, kwpIrqArmed := true }

def kwpSwClearErr (kw : Kw11) : Kw11 := { kw with kwpCsr := kw.kwpCsr &&& ~~~kw11pErr }

/-- The counter passes zero: DONE, or ERR when DONE is still set; then reload or stop. -/
def kwpTerminalEvent (kw : Kw11) : Kw11 :=
  let kw :=
    if kw.kwpCsr &&& kw11pDone ≠ 0 then { kw with kwpCsr := kw.kwpCsr ||| kw11pErr }
    else
      let kw := { kw with kwpCsr := kw.kwpCsr ||| kw11pDone }
      if kw.kwpCsr &&& kw11pIe ≠ 0 ∧ kw.kwpIrqArmed then { kw with kwpIrqReq := true, kwpIrqArmed := false } else kw
  if kw.kwpCsr &&& kw11pRepeat ≠ 0 then { kw with kwpCtr := kw.kwpCsb }
  else { kw with kwpCsr := kw.kwpCsr &&& ~~~kw11pRun, kwpCtr := 0 }

def kwpStepOne (kw : Kw11) : Kw11 :=
  if kw.kwpCsr &&& kw11pUp ≠ 0 then
    let kw := { kw with kwpCtr := kw.kwpCtr + 1 }
    if kw.kwpCtr = 0 then kw.kwpTerminalEvent else kw
  else if kw.kwpCtr = 0 then { kw with kwpCtr := kw.kwpCtr - 1 }.kwpTerminalEvent
  else { kw with kwpCtr := kw.kwpCtr - 1 }

def kwpAdvancePulses : Nat → Kw11 → Kw11
  | 0, kw => kw
  | pulses + 1, kw => if kw.kwpRunning then kwpAdvancePulses pulses kw.kwpStepOne else kw

/-- 0 stands for the external clock. -/
def kwpPeriodNs (kw : Kw11) : Nat :=
  if kw.kwpCsr &&& kw11pRateMask = kw11pRate100khz then 10000
  else if kw.kwpCsr &&& kw11pRateMask = kw11pRate10khz then 100000
  else if kw.kwpCsr &&& kw11pRateMask = kw11pRateLine then 16666667
  else 0

def kwpWriteCsrLow (v : Byte) (kw : Kw11) : Kw11 :=
  let old := kw.kwpCsr
  let control : Word := kw11pRun ||| kw11pRateMask ||| kw11pRepeat ||| kw11pUp ||| kw11pFix ||| kw11pIe
  let kw := { kw with kwpCsr := (kw.kwpCsr &&& ~~~control) ||| (v.setWidth 16 &&& control) }
  let kw := if v.setWidth 16 &&& kw11pDone = 0 then kw.kwpSwClearDone else kw
  let kw := if kw.kwpCsr &&& kw11pIe = 0 then { kw with kwpIrqReq := false } else kw
  let kw :=
    if old &&& kw11pRun = 0 ∧ kw.kwpCsr &&& kw11pRun ≠ 0 then
      { kw with kwpCtr := kw.kwpCsb, kwpClockInit := false, kwpLastTickNs := 0 }
    else kw
  if kw.kwpCsr &&& kw11pFix ≠ 0 then
    let kw := kw.kwpStepOne
    { kw with kwpCsr := kw.kwpCsr &&& ~~~kw11pFix }
  else kw

def kwpWriteCsrHigh (v : Byte) (kw : Kw11) : Kw11 := if v &&& 1 = 0 then kw.kwpSwClearErr else kw

/-! ## Registers -/

def read8 (a : Word) (kw : Kw11) : Byte × Kw11 :=
  if a = kw11lCsr then
    ((if kw.kwlDone then kw11lDone else 0) ||| (if kw.kwlIe then kw11lIe else 0),
      { kw with kwlDone := false, kwlIrqReq := false })
  else if a = kw11pCsr then (kw.kwpCsr.setWidth 8, kw)
  else if a = kw11pCsr + 1 then ((kw.kwpCsr >>> 8).setWidth 8 &&& 1, kw)
  else if a = kw11pCsb then (kw.kwpCsb.setWidth 8, kw)
  else if a = kw11pCsb + 1 then ((kw.kwpCsb >>> 8).setWidth 8, kw)
  else if a = kw11pCtr then (kw.kwpCtr.setWidth 8, kw)
  else if a = kw11pCtr + 1 then ((kw.kwpCtr >>> 8).setWidth 8, kw)
  else (0, kw)

def write8 (a : Word) (v : Byte) (kw : Kw11) : Kw11 :=
  if a = kw11lCsr then
    let kw := { kw with kwlIe := v &&& kw11lIe ≠ 0 }
    let kw := if v &&& kw11lDone = 0 then { kw with kwlDone := false, kwlIrqReq := false } else kw
    if kw.kwlIe ∧ kw.kwlDone then { kw with kwlIrqReq := true } else kw
  else if a = kw11pCsr then kw.kwpWriteCsrLow v
  else if a = kw11pCsr + 1 then kw.kwpWriteCsrHigh v
  else if a = kw11pCsb then { kw with kwpCsb := (kw.kwpCsb &&& 0o177400) ||| v.setWidth 16 }
  else if a = kw11pCsb + 1 then { kw with kwpCsb := (kw.kwpCsb &&& 0o377) ||| (v.setWidth 16 <<< 8) }
  else if a = kw11pCtr then { kw with kwpCtr := (kw.kwpCtr &&& 0o177400) ||| v.setWidth 16 }
  else if a = kw11pCtr + 1 then { kw with kwpCtr := (kw.kwpCtr &&& 0o377) ||| (v.setWidth 16 <<< 8) }
  else kw

/-- `kw11_irq_pending` -/
def irqPending (kw : Kw11) : Bool := kw.kwpIrqReq || kw.kwlIrqReq

/-- `kw11_irq_ack` -/
def irqAck (kw : Kw11) : Kw11 :=
  if kw.kwpIrqReq then { kw with kwpIrqReq := false } else { kw with kwlIrqReq := false }

/-- `kw11_reset` -/
def reset (kw : Kw11) : Kw11 := { kwlDone := true, stepClock := kw.stepClock, stepsPerTick := kw.stepsPerTick }

/-! ## Polls -/

/-- The line clock ticks. -/
def kwlTick (kw : Kw11) : Kw11 := { kw with kwlDone := true, kwlIrqReq := kw.kwlIrqReq || kw.kwlIe }

/-- KW11-L in `kw11_poll_realtime` -/
def kwlPollRealtime (t : Nat) (kw : Kw11) : Kw11 :=
  if !kw.kwlClockInit then { kw with kwlClockInit := true, kwlLastTickNs := t }
  else if t < kw.kwlLastTickNs then { kw with kwlLastTickNs := t }
  else
    let elapsed := t - kw.kwlLastTickNs
    if kwlPeriodNs ≤ elapsed then
      { kw with kwlLastTickNs := kw.kwlLastTickNs + elapsed / kwlPeriodNs * kwlPeriodNs }.kwlTick
    else kw

/-- KW11-P in `kw11_poll_realtime` -/
def kwpPollRealtime (t : Nat) (kw : Kw11) : Kw11 :=
  if !kw.kwpRunning then kw
  else if !kw.kwpClockInit then { kw with kwpClockInit := true, kwpLastTickNs := t }
  else if t < kw.kwpLastTickNs then { kw with kwpLastTickNs := t }
  else
    let periodNs := kw.kwpPeriodNs
    if periodNs = 0 then kw
    else
      let elapsed := t - kw.kwpLastTickNs
      if elapsed < periodNs then kw
      else
        let pulses := elapsed / periodNs
        kwpAdvancePulses pulses { kw with kwpLastTickNs := kw.kwpLastTickNs + pulses * periodNs }

/-- `kw11_poll_realtime` at time `t` -/
def pollRealtime (t : Nat) (kw : Kw11) : Kw11 := (kw.kwlPollRealtime t).kwpPollRealtime t

/-- `kw11_poll_steps` at time `t`; the programmable clock stands still while the line clock counts instructions. -/
def pollSteps (t cpuSteps : Nat) (kw : Kw11) : Kw11 :=
  if !kw.stepClock then kw.pollRealtime t
  else
    let accum := kw.kwlStepsAccum + if cpuSteps = 0 then 1 else cpuSteps
    if kw.stepsPerTick ≤ accum then { kw with kwlStepsAccum := accum % kw.stepsPerTick }.kwlTick
    else { kw with kwlStepsAccum := accum }

end Kw11

end K1801.Lsi11
