import K1801.Core.State
import K1801.Lsi11.IrqLatch

/-! # The console line and the printer

The DL11 has a latch for its receiver and one for its transmitter. A character written to it or to the LP11 is out at
once, so that DONE is cleared and set again by the same write.
-/

namespace K1801.Lsi11

open Core

abbrev dl11Rcsr : Word := 0o177560
abbrev dl11Rbuf : Word := 0o177562
abbrev dl11Tcsr : Word := 0o177564
abbrev dl11Tbuf : Word := 0o177566
abbrev dl11BaseAlias : Word := 0o176500

abbrev lp11Csr : Word := 0o177514
abbrev lp11Dbr : Word := 0o177516

abbrev csrDone : Byte := 0o200
abbrev csrIe : Byte := 0o100
abbrev csrMaint : Byte := 0o4
abbrev csrBreak : Byte := 0o1
abbrev rcsrRe : Byte := 0o1

/-- The static variables of the driver, and what was sent to the terminal. -/
structure Dl11 where
  rx : IrqLatch := {}
  tx : IrqLatch := {}
  rxBuf : Byte := 0
  eightBitMode : Bool := false
  nlToCr : Bool := false
  tcsrMisc : Byte := 0
  sent : List Byte := []

namespace Dl11

/-- The alias block stands for the primary one. -/
def norm (a : Word) : Word := if a &&& 0o177770 = dl11BaseAlias then dl11Rcsr ||| (a &&& 7) else a

def maskChar (v : Byte) (dl : Dl11) : Byte := if dl.eightBitMode then v else v &&& 0o177

/-- `dl11_read8` -/
def read8 (addr : Word) (dl : Dl11) : Byte × Dl11 :=
  let a := norm addr
  if a = dl11Rcsr then ((if dl.rx.done then csrDone else 0) ||| (if dl.rx.ie then csrIe else 0), dl)
  else if a = dl11Rbuf then (dl.rxBuf, { dl with rx := dl.rx.swClearDone })
  else if a = dl11Tcsr then
    ((if dl.tx.done then csrDone else 0) ||| (if dl.tx.ie then csrIe else 0) |||
      (dl.tcsrMisc &&& (csrMaint ||| csrBreak)), dl)
  else (0, dl)

/-- IE of a status register: turned on over DONE it requests an interrupt. -/
def writeIe (v : Byte) (l : IrqLatch) : IrqLatch :=
  if v &&& csrIe ≠ 0 then
    let l := if !l.ie && l.done then { l with irqReq := true } else l
    { l with ie := true }
  else { l with ie := false }

/-- `dl11_write8` -/
def write8 (addr : Word) (v : Byte) (dl : Dl11) : Dl11 :=
  let a := norm addr
  if a = dl11Rcsr then
    let l := writeIe v dl.rx
    { dl with rx := if v &&& rcsrRe ≠ 0 then l.swClearDone else l }
  else if a = dl11Rbuf then { dl with rx := dl.rx.swClearDone }
  else if a = dl11Tcsr then { dl with tcsrMisc := v &&& (csrMaint ||| csrBreak), tx := writeIe v dl.tx }
  else if a = dl11Tbuf then
    { dl with tx := dl.tx.swClearDone.eventSetDone, sent := dl.sent ++ [dl.maskChar v] }
  else dl

/-- `dl11_poll`; `input` is the character the terminal has, not positive if there is none. -/
def poll (input : Int) (dl : Dl11) : Dl11 :=
  if dl.rx.done then dl
  else if input ≤ 0 then dl
  else
    let c := if dl.nlToCr && input = 10 then 13 else input
    { dl with rxBuf := dl.maskChar (BitVec.ofInt 8 c), rx := dl.rx.eventSetDone }

/-- `dl11_reset` -/
def reset (dl : Dl11) : Dl11 :=
  { dl with rx := IrqLatch.reset, tx := IrqLatch.reset.eventSetDone, rxBuf := 0, tcsrMisc := 0 }

/-- `dl11_rx_irq_ack` -/
def rxIrqAck (dl : Dl11) : Dl11 := { dl with rx := dl.rx.ack }

/-- `dl11_tx_irq_ack` -/
def txIrqAck (dl : Dl11) : Dl11 := { dl with tx := dl.tx.ack }

end Dl11

/-- The static variable of the driver, and what was sent to the terminal. -/
structure Lp11 where
  l : IrqLatch := {}
  sent : List Byte := []

namespace Lp11

/-- `lp11_read8` -/
def read8 (addr : Word) (lp : Lp11) : Byte :=
  if addr = lp11Csr then (if lp.l.done then csrDone else 0) ||| (if lp.l.ie then csrIe else 0) else 0

/-- `lp11_write8` -/
def write8 (addr : Word) (v : Byte) (lp : Lp11) : Lp11 :=
  if addr = lp11Csr then
    let newIe : Bool := v &&& csrIe ≠ 0
    let l := lp.l.setIe newIe
    { lp with l := if !lp.l.ie && newIe && l.done then { l with irqReq := true } else l }
  else if addr = lp11Dbr then { lp with l := lp.l.swClearDone.eventSetDone, sent := lp.sent ++ [v] }
  else lp

/-- `lp11_reset` -/
def reset (lp : Lp11) : Lp11 := { lp with l := { IrqLatch.reset with done := false, irqArmed := true }.eventSetDone }

/-- `lp11_irq_ack` -/
def irqAck (lp : Lp11) : Lp11 := { lp with l := lp.l.ack }

end Lp11

end K1801.Lsi11
