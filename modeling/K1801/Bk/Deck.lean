import Mathlib.Logic.Function.Basic
import K1801.Bk.Tape

/-! # The tape deck of the BK-0010

The deck counts ticks. What the program puts out is recorded as strobes while the motor is on, and a recording is
played back a strobe at a time, as far as the ticks have gone when it is asked for.
-/

namespace K1801.Bk

open Core

/-- `TAPE_RELAY_DELAY` -/
abbrev tapeRelayDelay : Nat := 10000

/-- The variables of the deck. -/
structure TapeDeck where
  readVal : Bool
  writeVal : Bool
  stopped : Bool
  ticks : Nat
  readTicks : Nat
  writeTicks : Nat
  tapeIn : List Byte
  inPos : Nat
  tapeOut : List Byte
  outEnabled : Bool
  deriving Repr, DecidableEq

namespace TapeDeck

/-- The variables before the first reset. -/
def initial : TapeDeck where
  readVal := true
  writeVal := false
  stopped := true
  ticks := 0
  readTicks := 0
  writeTicks := 0
  tapeIn := []
  inPos := 0
  tapeOut := []
  outEnabled := false

variable (deck : TapeDeck)

/-- `tape_out_append` -/
def outAppend (val : Bool) (duration : Nat) : TapeDeck :=
  if deck.outEnabled then { deck with tapeOut := deck.tapeOut ++ tapeAppend val duration } else deck

/-- `bk_tape_reset` -/
def reset : TapeDeck :=
  { deck with
    ticks := 0, readTicks := 0, writeTicks := 0, readVal := true, writeVal := false, stopped := true, inPos := 0 }

/-- `bk_tape_tick` -/
def tick : TapeDeck := { deck with ticks := deck.ticks + 1 }

/-- The relay of the motor, the first part of `bk_tape_write`. -/
def relay (motorOn : Bool) : TapeDeck :=
  if motorOn = deck.stopped then
    let deck := { deck with ticks := deck.ticks + tapeRelayDelay, stopped := !motorOn }
    if motorOn then { deck with readTicks := deck.ticks, writeTicks := deck.ticks }
    else if deck.outEnabled then
      { deck.outAppend deck.writeVal (deck.ticks - deck.writeTicks) with writeTicks := deck.ticks }
    else deck
  else deck

/-- `bk_tape_write` -/
def write (motorOn val : Bool) : TapeDeck :=
  let deck := deck.relay motorOn
  if !deck.stopped ∧ val ≠ deck.writeVal then
    let delta := deck.ticks - deck.writeTicks
    { (if delta ≠ 0 then deck.outAppend deck.writeVal delta else deck) with
      writeTicks := deck.ticks
      writeVal := val }
  else deck

/-- The loop of `bk_tape_read`. -/
def advance (deck : TapeDeck) : TapeDeck :=
  if _h : deck.inPos + 1 < deck.tapeIn.length ∧ deck.readTicks < deck.ticks then
    let delta : Word := (deck.tapeIn.getD deck.inPos 0).setWidth 16 <<< 8 |||
      (deck.tapeIn.getD (deck.inPos + 1) 0).setWidth 16
    advance { deck with
      inPos := deck.inPos + 2
      readVal := strobeVal delta
      readTicks := deck.readTicks + strobeLen delta }
  else deck
termination_by deck.tapeIn.length - deck.inPos

/-- `bk_tape_read`: without a strobe to come, the level alternates. -/
def read : TapeDeck :=
  if deck.stopped ∨ deck.tapeIn.length ≤ deck.inPos + 1 then { deck with readVal := !deck.readVal }
  else deck.advance

/-- `bk_tape_set_input` -/
def setInput (data : List Byte) : TapeDeck := { deck with tapeIn := data, inPos := 0 }

/-- `bk_tape_set_output_enabled` -/
def setOutputEnabled (enable : Bool) : TapeDeck :=
  if enable then { deck with outEnabled := true, tapeOut := [] } else { deck with outEnabled := false }

/-- `bk_tape_output_data` -/
def outputData : List Byte × TapeDeck :=
  let delta := deck.ticks - deck.writeTicks
  let deck :=
    if deck.outEnabled ∧ !deck.stopped ∧ delta ≠ 0 then
      { deck.outAppend deck.writeVal delta with writeTicks := deck.ticks }
    else deck
  (deck.tapeOut, deck)

/-- `bk_tape_rewind` -/
def rewind : TapeDeck := { deck with inPos := 0, readTicks := deck.ticks }

end TapeDeck

end K1801.Bk
