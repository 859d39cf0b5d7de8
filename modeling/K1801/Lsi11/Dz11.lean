import K1801.Core.State
import K1801.Library.BoundedQueue

/-! # The DZ11 terminal multiplexer

Eight lines share one silo of received characters. A line is a TCP connection; what its other end has
sent and the device has not yet received is `unread`.
-/

namespace K1801.Lsi11

open Core Library

/-- One of the `DZ11_LINES` lines. -/
abbrev DzLine := BitVec 3

def dzLines : List DzLine := [0, 1, 2, 3, 4, 5, 6, 7]

abbrev dzCsr : Word := 0o160100
abbrev dzRbuf : Word := 0o160102
abbrev dzLpr : Word := 0o160102
abbrev dzTcr : Word := 0o160104
abbrev dzMsr : Word := 0o160106
abbrev dzTdr : Word := 0o160106

abbrev csrClr : Word := 0o20
abbrev csrMse : Word := 0o40
abbrev csrRie : Word := 0o100
abbrev csrRdone : Word := 0o200
abbrev csrTline : Word := 0o7000
abbrev csrSae : Word := 0o10000
abbrev csrSa : Word := 0o20000
abbrev csrTie : Word := 0o40000
abbrev csrTrdy : Word := 0o100000
abbrev csrRw : Word := csrMse ||| csrRie ||| csrSae ||| csrTie
abbrev csrMbz : Word := 0o4037

abbrev rbufChar : Word := 0o377
abbrev rbufValid : Word := 0o100000

abbrev lprRcve : Word := 0o10000

/-- `DZ_SILO_ALM` -/
abbrev dzSiloAlm : Nat := 16

/-- The size of the buffer of one `recv`. -/
abbrev dzBatch : Nat := 64

/-- A connection: what it has not received, what it has sent, and whether its other end has closed it. -/
structure DzSocket where
  unread : List Byte := []
  written : List Byte := []
  closed : Bool := false
  deriving Repr, DecidableEq

/-- What `send` says about a character. -/
inductive DzSent where
  | sent | busy | failed
  deriving Repr, DecidableEq

/-- The static variables of the driver; `backlog` are the connections that wait at `dz_listen_fd`. -/
structure Dz11 where
  csr : Word := 0
  rbuf : Word := 0
  lpr : Word := 0
  tcr : Word := 0
  msr : Word := 0
  tdr : Word := 0
  silo : BoundedQueue Word dzSiloAlm := .empty
  lineRcve : DzLine → Bool := fun _ => false
  txIrqReq : Bool := false
  txIrqArmed : Bool := true
  eightBit : Bool := false
  lineFd : DzLine → Option DzSocket := fun _ => none
  backlog : List DzSocket := []

namespace Dz11

def maskChar (dz : Dz11) (v : Byte) : Byte := if dz.eightBit then v else v &&& 0o177

def csrHas (dz : Dz11) (bits : Word) : Bool := dz.csr &&& bits != 0

def setCsr (dz : Dz11) (bits : Word) : Dz11 := { dz with csr := dz.csr ||| bits }

def clearCsr (dz : Dz11) (bits : Word) : Dz11 := { dz with csr := dz.csr &&& ~~~bits }

/-- `(dz_csr & CSR_TLINE) >> CSR_V_TLINE`, where the mask is at bit 9 and the shift is 8. -/
def csrTline (dz : Dz11) : Word := (dz.csr &&& Lsi11.csrTline) >>> 8

def csrSetTline (dz : Dz11) (line : Word) : Dz11 :=
  (dz.clearCsr Lsi11.csrTline).setCsr ((line &&& 7) <<< 8)

def tcrHas (dz : Dz11) (line : Word) : Bool := dz.tcr &&& (1 <<< line.toNat) != 0

def findNextTxLine (dz : Dz11) (fromLine : Word) : Option Word :=
  ([1, 2, 3, 4, 5, 6, 7, 8].map fun i => (fromLine + i) &&& 7).find? dz.tcrHas

def updateReceiveFlags (dz : Dz11) : Dz11 :=
  let dz := if dz.csrHas csrMse && 0 < dz.silo.length then dz.setCsr csrRdone else dz.clearCsr csrRdone
  if dz.csrHas csrMse && dz.csrHas csrSae && dz.silo.full then dz.setCsr csrSa
  else if !dz.silo.full || !dz.csrHas csrMse then dz.clearCsr csrSa
  else dz

/-- No line asks to transmit. -/
def transmitIdle (dz : Dz11) : Dz11 :=
  { dz.clearCsr csrTrdy with txIrqReq := false, txIrqArmed := true }

def updateTransmitFlags (dz : Dz11) : Dz11 :=
  if !dz.csrHas csrMse then dz.transmitIdle
  else match dz.findNextTxLine dz.csrTline with
    | none => dz.transmitIdle
    | some next =>
      let wasReady := dz.csrHas csrTrdy
      let dz := (dz.csrSetTline next).setCsr csrTrdy
      let dz :=
        if !wasReady && dz.csrHas csrTrdy && dz.csrHas csrTie && dz.txIrqArmed then
          { dz with txIrqReq := true, txIrqArmed := false }
        else dz
      let dz := if !dz.csrHas csrTrdy then { dz with txIrqReq := false, txIrqArmed := true } else dz
      if !dz.csrHas csrTie then { dz with txIrqReq := false } else dz

def siloPush (dz : Dz11) (v : Word) : Dz11 :=
  if dz.silo.full then dz else updateReceiveFlags { dz with silo := dz.silo.push v }

def siloPop (dz : Dz11) : Word × Dz11 :=
  match dz.silo.items with
  | [] => (0, dz.updateReceiveFlags)
  | v :: _ => (v, updateReceiveFlags { dz with silo := dz.silo.pop })

/-! ## Connections -/

def disconnectLine (dz : Dz11) (line : DzLine) : Dz11 :=
  { dz with lineFd := Function.update dz.lineFd line none }

def findFreeLine (dz : Dz11) : Option DzLine := dzLines.find? fun line => (dz.lineFd line).isNone

/-- A connection that finds no free line is closed. -/
def acceptClient (dz : Dz11) (fd : DzSocket) : Dz11 :=
  match dz.findFreeLine with
  | none => dz
  | some line => { dz with lineFd := Function.update dz.lineFd line (some fd) }

def acceptClients (dz : Dz11) : Dz11 := { dz.backlog.foldl acceptClient dz with backlog := [] }

def rbufWord (line : DzLine) (c : Byte) : Word :=
  (c.setWidth 16 &&& rbufChar) ||| (line.setWidth 16 <<< 8) ||| rbufValid

/-- The characters of one `recv`, for as long as the silo has room. -/
def storeBatch (line : DzLine) : List Byte → Dz11 → Dz11
  | [], dz => dz
  | c :: cs, dz =>
    if dz.silo.full then dz else storeBatch line cs (dz.siloPush (rbufWord line (dz.maskChar c)))

/-- `recv` on a connected line and what follows it. -/
def receiveLine (dz : Dz11) (line : DzLine) (fd : DzSocket) : Dz11 :=
  if fd.unread = [] then if fd.closed then dz.disconnectLine line else dz
  else storeBatch line (fd.unread.take dzBatch)
    { dz with lineFd := Function.update dz.lineFd line (some { fd with unread := fd.unread.drop dzBatch }) }

def pollReceiveLines : List DzLine → Dz11 → Dz11
  | [], dz => dz
  | line :: lines, dz =>
    match dz.lineFd line with
    | none => pollReceiveLines lines dz
    | some fd =>
      if !dz.lineRcve line then pollReceiveLines lines dz
      else if dz.silo.full then dz
      else pollReceiveLines lines (dz.receiveLine line fd)

/-- `answer` is what `send` says. -/
def transmitLine (dz : Dz11) (line : Word) (ch : Byte) (answer : DzSent) : Dz11 :=
  if 8 ≤ line then dz
  else
    let line : DzLine := line.setWidth 3
    match dz.lineFd line with
    | none => dz
    | some fd =>
      match answer with
      | .sent =>
        { dz with lineFd := Function.update dz.lineFd line (some { fd with written := fd.written ++ [ch] }) }
      | .busy => dz
      | .failed => dz.disconnectLine line

def refreshMsr (dz : Dz11) : Dz11 :=
  let bit (line : DzLine) : Word :=
    if (dz.lineFd line).isNone then 0
    else if dz.tcrHas (8 + line.setWidth 16) then 1 <<< (8 + line.toNat) else 1 <<< line.toNat
  { dz with msr := (dzLines.map bit).foldl (· ||| ·) 0 }

/-! ## Registers -/

def softClear (dz : Dz11) : Dz11 :=
  { eightBit := dz.eightBit, lineFd := dz.lineFd, backlog := dz.backlog }

def writeCsr (dz : Dz11) (data : Word) : Dz11 :=
  let wasTie := dz.csrHas csrTie
  let dz := if data &&& csrClr ≠ 0 then dz.softClear else dz
  let dz := (dz.clearCsr csrRw).setCsr (data &&& csrRw)
  let dz :=
    if !dz.csrHas csrMse then
      { dz.clearCsr (csrSa ||| csrRdone ||| csrTrdy) with txIrqReq := false, txIrqArmed := true }
    else dz.updateReceiveFlags.updateTransmitFlags
  let dz :=
    if !wasTie && dz.csrHas csrTie && dz.csrHas csrTrdy && dz.txIrqArmed then
      { dz with txIrqReq := true, txIrqArmed := false }
    else dz
  if !dz.csrHas csrTie then { dz with txIrqReq := false } else dz

/-- The byte of the register word that an address selects. -/
def byteOf (addr v : Word) : Byte := if addr &&& 1 ≠ 0 then (v >>> 8).setWidth 8 else v.setWidth 8

def withByte (addr old : Word) (b : Byte) : Word :=
  if addr &&& 1 ≠ 0 then (old &&& 0o377) ||| (b.setWidth 16 <<< 8) else (old &&& 0o177400) ||| b.setWidth 16

/-- Reading the low byte of RBUF takes the next character out of the silo. -/
def readRbuf (dz : Dz11) : Dz11 :=
  let dz := dz.clearCsr csrSa
  if dz.csrHas csrMse then
    let (v, dz) := dz.siloPop
    { dz with rbuf := v }
  else { dz with rbuf := 0 }

def read8 (dz : Dz11) (addr : Word) : Byte × Dz11 :=
  let base := addr &&& 0o177776
  if base = dzCsr then
    let dz := dz.updateReceiveFlags.updateTransmitFlags
    (byteOf addr (dz.csr &&& ~~~csrMbz), dz)
  else if base = dzRbuf then
    let dz := if addr &&& 1 = 0 then dz.readRbuf else dz
    (byteOf addr dz.rbuf, dz)
  else if base = dzTcr then (byteOf addr dz.tcr, dz)
  else if base = dzMsr then
    let dz := dz.refreshMsr
    (byteOf addr dz.msr, dz)
  else (0, dz)

/-- A write to the low byte of TDR sends it on the line that is ready. -/
def writeTdr (dz : Dz11) (addr : Word) (b : Byte) (answer : DzSent) : Dz11 :=
  let dz := { dz with tdr := withByte addr dz.tdr b }
  if addr &&& 1 ≠ 0 then dz
  else if dz.csrHas csrMse && dz.csrHas csrTrdy && dz.tcrHas dz.csrTline then
    let line := dz.csrTline
    let dz := { dz.clearCsr csrTrdy with txIrqReq := false, txIrqArmed := true }
    (dz.transmitLine line (dz.maskChar (dz.tdr.setWidth 8)) answer).updateTransmitFlags
  else dz

def writeLpr (dz : Dz11) (addr : Word) (b : Byte) : Dz11 :=
  let lpr := withByte addr dz.lpr b
  { dz with lpr := lpr, lineRcve := Function.update dz.lineRcve (lpr.setWidth 3) (lpr &&& lprRcve != 0) }

def write8 (dz : Dz11) (addr : Word) (b : Byte) (answer : DzSent) : Dz11 :=
  let base := addr &&& 0o177776
  if base = dzCsr then dz.writeCsr (withByte addr dz.csr b)
  else if base = dzLpr then dz.writeLpr addr b
  else if base = dzTcr then
    let dz := { dz with tcr := withByte addr dz.tcr b }
    dz.updateTransmitFlags.refreshMsr
  else if base = dzTdr then dz.writeTdr addr b answer
  else dz

def rxIrqPending (dz : Dz11) : Bool × Dz11 :=
  let dz := dz.updateReceiveFlags
  (dz.csrHas csrRie && (if dz.csrHas csrSae then dz.csrHas csrSa else dz.csrHas csrRdone), dz)

def txIrqPending (dz : Dz11) : Bool × Dz11 :=
  let dz := dz.updateTransmitFlags
  (dz.txIrqReq, dz)

def txIrqAck (dz : Dz11) : Dz11 := { dz with txIrqReq := false }

/-- `dz11_reset` -/
def reset (dz : Dz11) : Dz11 := dz.softClear.refreshMsr

/-- `dz11_poll` -/
def poll (dz : Dz11) : Dz11 :=
  (pollReceiveLines dzLines dz.acceptClients).refreshMsr.updateReceiveFlags.updateTransmitFlags

end Dz11

end K1801.Lsi11
