import K1801.Core.State

/-! # The real-time clock of the MK-90

A clock of 64 registers. Register B selects binary or BCD time and can hold the updates; register C collects flags.
-/

namespace K1801.Mk90

open Core

/-- The registers that hold the time. -/
structure RtcClock where
  seconds : Byte
  minutes : Byte
  hours : Byte
  weekday : Byte
  day : Byte
  month : Byte
  year : Byte
  deriving Repr, DecidableEq

/-- `mk90_rtc_state_t`, with the registers of the clock by name; `ram` has the others. -/
structure Mk90Rtc where
  clock : RtcClock
  secondsAlarm : Byte := 0
  minutesAlarm : Byte := 0
  hoursAlarm : Byte := 0
  regA : Byte := 0
  regB : Byte := 0
  regC : Byte := 0
  regD : Byte := 0
  ram : BitVec 6 → Byte := fun _ => 0
  secondAccumMs : Dword := 0
  periodicAccumMs : Dword := 0

/-- What the clock raises in the machine. -/
inductive RtcSignal where
  | timerIrq
  | evnt
  deriving Repr, DecidableEq

def rtcBcdInc (value : Byte) : Byte :=
  let value := value + 1
  if 9 < value &&& 0o17 then value + 6 else value

/-- The last day of a month. -/
def rtcDays (month : Byte) : Nat :=
  match (month.toNat + 2 ^ 32 - 1) % 2 ^ 32 % 12 with
  | 1 => 28
  | 3 | 5 | 8 | 10 => 30
  | _ => 31

namespace RtcClock

/-- The increment of a field and the limits of a mode. -/
structure Mode where
  inc : Byte → Byte
  minute : Byte
  hour : Byte
  midnight : Byte
  lastMonth : Byte
  lastYear : Byte

def bcd : Mode :=
  { inc := rtcBcdInc, minute := 0o60, hour := 0o60, midnight := 0o24, lastMonth := 0o12, lastYear := 0o143 }

def binary : Mode :=
  { inc := fun value => value + 1, minute := 60, hour := 60, midnight := 24, lastMonth := 12, lastYear := 99 }

/-- One second later. -/
def tick (mode : Mode) (c : RtcClock) : RtcClock :=
  let c := { c with seconds := mode.inc c.seconds }
  if c.seconds < mode.minute then c
  else
    let c := { c with seconds := 0, minutes := mode.inc c.minutes }
    if c.minutes < mode.hour then c
    else
      let c := { c with minutes := 0, hours := mode.inc c.hours }
      if c.hours < mode.midnight then c
      else
        let weekday := mode.inc c.weekday
        let c := { c with hours := 0, weekday := if 7 < weekday then 1 else weekday, day := mode.inc c.day }
        if c.day.toNat ≤ rtcDays c.month then c
        else
          let c := { c with day := 1, month := mode.inc c.month }
          if c.month ≤ mode.lastMonth then c
          else
            let c := { c with month := 1, year := mode.inc c.year }
            if c.year ≤ mode.lastYear then c else { c with year := 0 }

end RtcClock

namespace Mk90Rtc

def periodicRateMs (rtc : Mk90Rtc) : Nat :=
  match (rtc.regA &&& 0o17).toNat with
  | 0 => 0
  | 10 => 16
  | 11 => 31
  | 12 => 63
  | 13 => 125
  | 14 => 250
  | 15 => 500
  | _ => 8

def flagIrq (rtc : Mk90Rtc) : Mk90Rtc × List RtcSignal :=
  if rtc.regB &&& rtc.regC &&& 0o160 ≠ 0 then ({ rtc with regC := rtc.regC ||| 0o200 }, [.timerIrq])
  else ({ rtc with regC := rtc.regC &&& ~~~(0o200 : Byte) }, [])

def checkAlarm (rtc : Mk90Rtc) : Mk90Rtc × List RtcSignal :=
  let alarm := rtc.secondsAlarm = rtc.clock.seconds ∧ rtc.minutesAlarm = rtc.clock.minutes ∧
    rtc.hoursAlarm = rtc.clock.hours
  let c := if alarm then rtc.regC ||| 0o40 else rtc.regC &&& ~~~(0o40 : Byte)
  { rtc with regC := c ||| 0o20 }.flagIrq

/-- Register B holds the updates. -/
def held (rtc : Mk90Rtc) : Bool := rtc.regB &&& 0o200 ≠ 0

/-- Register B selects BCD. -/
def inBcd (rtc : Mk90Rtc) : Bool := rtc.regB &&& 0o4 = 0

/-- `mk90_rtc_update_second` -/
def updateSecond (rtc : Mk90Rtc) : Mk90Rtc × List RtcSignal :=
  if rtc.held then ({ rtc with regC := rtc.regC &&& ~~~(0o20 : Byte) }, [])
  else { rtc with clock := rtc.clock.tick (if rtc.inBcd then RtcClock.bcd else RtcClock.binary) }.checkAlarm

/-- `mk90_rtc_periodic_tick` -/
def periodicTick (rtc : Mk90Rtc) : Mk90Rtc × List RtcSignal :=
  let evnt := if rtc.regB &&& 0o10 ≠ 0 then [RtcSignal.evnt] else []
  let rtc := { rtc with regC := rtc.regC ||| 0o100 }
  if rtc.regB &&& 0o100 ≠ 0 then ({ rtc with regC := rtc.regC ||| 0o200 }, evnt ++ [.timerIrq]) else (rtc, evnt)

/-- A step of the clock `n` times, with all that it raises. -/
def repeated (step : Mk90Rtc → Mk90Rtc × List RtcSignal) : Nat → Mk90Rtc → Mk90Rtc × List RtcSignal
  | 0, rtc => (rtc, [])
  | n + 1, rtc =>
    let (rtc, raised) := step rtc
    let (rtc, later) := repeated step n rtc
    (rtc, raised ++ later)

/-- `mk90_rtc_tick_ms` -/
def tickMs (elapsedMs : Dword) (rtc : Mk90Rtc) : Mk90Rtc × List RtcSignal :=
  let seconds := rtc.secondAccumMs + elapsedMs
  let rtc := { rtc with
    secondAccumMs := BitVec.ofNat 32 (seconds.toNat % 1000), periodicAccumMs := rtc.periodicAccumMs + elapsedMs }
  let (rtc, raised) := repeated updateSecond (seconds.toNat / 1000) rtc
  let periodicMs := rtc.periodicRateMs
  if periodicMs = 0 then (rtc, raised)
  else
    let ticks := rtc.periodicAccumMs.toNat / periodicMs
    let rtc := { rtc with periodicAccumMs := BitVec.ofNat 32 (rtc.periodicAccumMs.toNat % periodicMs) }
    let (rtc, later) := repeated periodicTick ticks rtc
    (rtc, raised ++ later)

/-! ## Registers -/

def get (index : BitVec 6) (rtc : Mk90Rtc) : Byte :=
  match index.toNat with
  | 0 => rtc.clock.seconds
  | 1 => rtc.secondsAlarm
  | 2 => rtc.clock.minutes
  | 3 => rtc.minutesAlarm
  | 4 => rtc.clock.hours
  | 5 => rtc.hoursAlarm
  | 6 => rtc.clock.weekday
  | 7 => rtc.clock.day
  | 8 => rtc.clock.month
  | 9 => rtc.clock.year
  | 10 => rtc.regA
  | 11 => rtc.regB
  | 12 => rtc.regC
  | 13 => rtc.regD
  | _ => rtc.ram index

def set (index : BitVec 6) (value : Byte) (rtc : Mk90Rtc) : Mk90Rtc :=
  match index.toNat with
  | 0 => { rtc with clock := { rtc.clock with seconds := value } }
  | 1 => { rtc with secondsAlarm := value }
  | 2 => { rtc with clock := { rtc.clock with minutes := value } }
  | 3 => { rtc with minutesAlarm := value }
  | 4 => { rtc with clock := { rtc.clock with hours := value } }
  | 5 => { rtc with hoursAlarm := value }
  | 6 => { rtc with clock := { rtc.clock with weekday := value } }
  | 7 => { rtc with clock := { rtc.clock with day := value } }
  | 8 => { rtc with clock := { rtc.clock with month := value } }
  | 9 => { rtc with clock := { rtc.clock with year := value } }
  | 10 => { rtc with regA := value }
  | 11 => { rtc with regB := value }
  | 12 => { rtc with regC := value }
  | 13 => { rtc with regD := value }
  | _ => { rtc with ram := fun i => if i = index then value else rtc.ram i }

/-- The register of an offset. -/
def index (offset : Word) : BitVec 6 := (offset >>> 1).setWidth 6

/-- `mk90_rtc_read_word`; reading register C clears it, and reading register D sets its valid bit. -/
def readWord (offset : Word) (rtc : Mk90Rtc) : Word × Mk90Rtc :=
  let value : Word := (rtc.get (index offset)).setWidth 16 <<< 1
  if index offset = 0o15 then (value, { rtc with regD := 0o200 })
  else if index offset = 0o14 then (value, { rtc with regC := 0 })
  else (value, rtc)

/-- `mk90_rtc_read_byte` -/
def readByte (offset : Word) (rtc : Mk90Rtc) : Byte × Mk90Rtc :=
  let (value, rtc) := rtc.readWord offset
  (if offset &&& 1 ≠ 0 then (value >>> 8).setWidth 8 else value.setWidth 8, rtc)

/-- `mk90_rtc_write_word`; registers C and D are read-only. -/
def writeWord (offset value : Word) (rtc : Mk90Rtc) : Mk90Rtc :=
  if index offset = 0o14 ∨ index offset = 0o15 then rtc
  else rtc.set (index offset) ((value >>> 1).setWidth 8)

/-- `mk90_rtc_write_byte` -/
def writeByte (offset : Word) (value : Byte) (rtc : Mk90Rtc) : Mk90Rtc :=
  let (old, rtc) := rtc.readWord offset
  rtc.writeWord offset
    (if offset &&& 1 ≠ 0 then (old &&& 0o377) ||| (value.setWidth 16 <<< 8)
      else (old &&& 0o177400) ||| value.setWidth 16)

end Mk90Rtc

end K1801.Mk90
