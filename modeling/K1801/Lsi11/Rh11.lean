import K1801.Library.CountedLoop
import K1801.Lsi11.ByteStores
import K1801.Lsi11.IrqLatch
import K1801.Lsi11.WordDma

/-! # The RH11 disk controller

An RK611 with RK06 and RK07 drives, in RH11 or RH70 mode. In RH70 mode the bus address has six extension bits, in
RHMR2; RHCS1 and the spare register hold copies of the low two. A command is marked by GO and runs at the next poll.
-/

namespace K1801.Lsi11

open Core Library

abbrev rhcs1Reg : Word := 0o177440
abbrev rhwcReg : Word := 0o177442
abbrev rhbaReg : Word := 0o177444
abbrev rhdaReg : Word := 0o177446
abbrev rhcs2Reg : Word := 0o177450
abbrev rhdsReg : Word := 0o177452
abbrev rherReg : Word := 0o177454
abbrev rhasReg : Word := 0o177456
abbrev rhdcReg : Word := 0o177460
abbrev rhsprReg : Word := 0o177462
abbrev rhdbReg : Word := 0o177464
abbrev rhmrReg : Word := 0o177466
abbrev rhec1Reg : Word := 0o177470
abbrev rhec2Reg : Word := 0o177472
abbrev rhmr2Reg : Word := 0o177474
abbrev rhmr3Reg : Word := 0o177476

abbrev rhcs1Go : Word := 0o1
abbrev rhcs1FuncMask : Word := 0o76
abbrev rhcs1Ie : Word := 0o100
abbrev rhcs1Rdy : Word := 0o200
abbrev rhcs1BaExtMask : Word := 0o1400
abbrev rhcs1CerrCclr : Word := 0o100000

abbrev rh11FuncSelectDrive : Word := 0o0
abbrev rh11FuncPackAck : Word := 0o2
abbrev rh11FuncDriveClear : Word := 0o4
abbrev rh11FuncUnload : Word := 0o6
abbrev rh11FuncStartSpin : Word := 0o10
abbrev rh11FuncRecalibrate : Word := 0o12
abbrev rh11FuncOffset : Word := 0o14
abbrev rh11FuncSeek : Word := 0o16
abbrev rh11FuncReadData : Word := 0o20
abbrev rh11FuncWriteData : Word := 0o22
abbrev rh11FuncReadHeader : Word := 0o24
abbrev rh11FuncWriteHeader : Word := 0o26
abbrev rh11FuncWriteCheck : Word := 0o30
abbrev rh11FuncRead70 : Word := 0o70
abbrev rh11FuncWrite60 : Word := 0o60

abbrev rhcs2DsMask : Word := 0o7
abbrev rhcs2Bai : Word := 0o20
abbrev rhcs2Sclr : Word := 0o40
abbrev rhcs2Ir : Word := 0o100
abbrev rhcs2Pge : Word := 0o2000
abbrev rhcs2Nem : Word := 0o4000
abbrev rhcs2Ned : Word := 0o10000
abbrev rhcs2Wce : Word := 0o40000
abbrev rhcs2Dlt : Word := 0o100000
abbrev rhcs2ErrMask : Word := 0o177400
abbrev rhcs2RwMask : Word := rhcs2DsMask ||| rhcs2Bai ||| rhcs2Sclr
abbrev rhbaeImp : Word := 0o77

abbrev rherIlf : Word := 0o1
abbrev rherIdae : Word := 0o2000
abbrev rherLegacyNxm : Word := 0o2

abbrev rhdsBase : Word := 0o100701
abbrev rhdsDrdy : Word := 0o200

abbrev rh11HeadsPerCyl : Nat := 3
abbrev rh11SectorsPerTrack : Nat := 22
abbrev rh11WordsPerSector : Nat := 256
abbrev rh11SectorBytes : Nat := 512

abbrev rkdaSecMask : Word := 0o37
abbrev rkdaHeadMask : Word := 0o3400

inductive Rh11Mode where
  | rh11 | rh70
  deriving Repr, DecidableEq

/-- The static variables of the driver. Eight drives, so that every unit number is valid. -/
structure Rh11 where
  rhcs1 : Word := 0
  rhwc : Word := 0
  rhba : Word := 0
  rhda : Word := 0
  rhcs2 : Word := 0
  rhds : Word := 0
  rher : Word := 0
  rhas : Word := 0
  rhdc : Word := 0
  rhspr : Word := 0
  rhdb : Word := 0
  rhmr : Word := 0
  rhmr2 : Word := 0
  rhmr3 : Word := 0
  l : IrqLatch := {}
  fp : BitVec 3 → Option DiskImage := fun _ => none
  secOneBased : Bool := false
  mode : Rh11Mode := .rh11

/-! ## Addresses -/

def rhDaGetSec (da : Word) : Word := da &&& rkdaSecMask

def rhDaGetHead (da : Word) : Word := (da &&& rkdaHeadMask) >>> 8

def rhDaSetHeadSec (da head sec : Word) : Word :=
  (da &&& ~~~(rkdaHeadMask ||| rkdaSecMask)) ||| (((head &&& 7) <<< 8) ||| (sec &&& rkdaSecMask))

def rhLba (oneBased : Bool) (dc da : Word) : Option Nat :=
  let sec := (rhDaGetSec da).toNat
  let head := (rhDaGetHead da).toNat
  -- with numbers from 1 on, 0 stands for the last sector of the track
  let sec := if oneBased then (if sec = 0 then rh11SectorsPerTrack else sec) - 1 else sec
  if rh11SectorsPerTrack ≤ sec ∨ rh11HeadsPerCyl ≤ head then none
  else some ((dc.toNat * rh11HeadsPerCyl + head) * rh11SectorsPerTrack + sec)

def rhAdvanceSector (dc da : Word) : Word × Word :=
  let sec := rhDaGetSec da + 1
  let head := rhDaGetHead da
  if sec.toNat < rh11SectorsPerTrack then (dc, rhDaSetHeadSec da head sec)
  else
    let head := head + 1
    if head.toNat < rh11HeadsPerCyl then (dc, rhDaSetHeadSec da head 0)
    else (dc + 1, rhDaSetHeadSec da 0 0)

/-- `rh_ba_inc_rh11` and `rh_ba_inc_rh70`, by the mode. -/
def rhBaInc (mode : Rh11Mode) (ba : Word) (ext : Byte) : Word × Byte :=
  let ba' := ba + 2
  let mask : Byte := match mode with
    | .rh11 => 3
    | .rh70 => 0o77
  (ba', if ba' < ba then (ext + 1) &&& mask else ext)

variable {δ : Type}

def rhDmaPaRh11 (b : Bus δ) (map : Ubmap) (ba : Word) (ext : Byte) : Dword :=
  let uba : Dword := ((ext &&& 3).setWidth 32 <<< 16) ||| ba.setWidth 32
  if b.cfg.machine = .pdp1184 then ubmapMapAddr b map (uba &&& 0o777777) else uba &&& 0o777777

/-- An address below 2^18 goes through the UNIBUS map where that is on. -/
def rhDmaPaRh70 (b : Bus δ) (map : Ubmap) (ba : Word) (ext : Byte) : Dword :=
  let pa22 : Dword := ((ext &&& 0o77).setWidth 32 <<< 16) ||| ba.setWidth 32
  if b.cfg.machine = .pdp1184 ∧ map.enabled = true ∧ ext &&& ~~~(3 : Byte) = 0 then
    let uba18 : Dword := ((ext &&& 3).setWidth 32 <<< 16) ||| ba.setWidth 32
    ubmapMapAddr b map (uba18 &&& 0o777777)
  else pa22 &&& 0o17777777

def rhDmaPa (mode : Rh11Mode) (b : Bus δ) (map : Ubmap) (ba : Word) (ext : Byte) : Dword :=
  match mode with
  | .rh11 => rhDmaPaRh11 b map ba ext
  | .rh70 => rhDmaPaRh70 b map ba ext

namespace Rh11

def selectedDrive (rh : Rh11) : BitVec 3 := (rh.rhcs2 &&& rhcs2DsMask).setWidth 3

def driveFp (rh : Rh11) : Option DiskImage := rh.fp rh.selectedDrive

def cs1BaExtGet (rh : Rh11) : Byte := ((rh.rhcs1 &&& rhcs1BaExtMask) >>> 8).setWidth 8

def spareSyncFromCs1 (rh : Rh11) : Rh11 :=
  { rh with rhspr := (rh.rhspr &&& ~~~(3 : Word)) ||| (rh.cs1BaExtGet.setWidth 16 &&& 3) }

def cs1BaExtSet (ext : Byte) (rh : Rh11) : Rh11 :=
  let rh := { rh with rhcs1 := (rh.rhcs1 &&& ~~~rhcs1BaExtMask) ||| ((ext.setWidth 16 &&& 3) <<< 8) }
  let rh := match rh.mode with
    | .rh70 => { rh with rhmr2 := (rh.rhmr2 &&& ~~~(3 : Word)) ||| (ext.setWidth 16 &&& 3) }
    | .rh11 => rh
  rh.spareSyncFromCs1

def dmaExtGet (rh : Rh11) : Byte :=
  match rh.mode with
  | .rh70 => (rh.rhmr2 &&& rhbaeImp).setWidth 8
  | .rh11 => rh.cs1BaExtGet

def dmaExtSet (ext : Byte) (rh : Rh11) : Rh11 :=
  match rh.mode with
  | .rh70 => { rh with rhmr2 := ext.setWidth 16 &&& rhbaeImp }.cs1BaExtSet (ext &&& 3)
  | .rh11 => rh.cs1BaExtSet ext

/-! ## Status -/

/-- The bits of RHCS1 that the status gives. -/
def cs1Status (rh : Rh11) : Word :=
  (if rh.l.done then rhcs1Rdy else 0) ||| (if rh.l.ie then rhcs1Ie else 0) |||
    (if rh.rher ≠ 0 ∨ rh.rhcs2 &&& rhcs2ErrMask ≠ 0 then rhcs1CerrCclr else 0)

def syncStatus (rh : Rh11) : Rh11 :=
  { rh with
    rhcs1 := (rh.rhcs1 &&& ~~~(rhcs1Rdy ||| rhcs1Ie ||| rhcs1CerrCclr)) ||| rh.cs1Status
    rhmr3 := match rh.mode with
      | .rh70 => (rh.rhmr3 &&& ~~~rhcs1Ie) ||| (if rh.l.ie then rhcs1Ie else 0)
      | .rh11 => rh.rhmr3
    rhds := (rh.rhds &&& ~~~rhdsDrdy) ||| (if rh.driveFp.isSome then rhdsDrdy else 0) }

def setRherError (bit : Word) (rh : Rh11) : Rh11 :=
  { rh with rher := rh.rher ||| bit, rhcs2 := rh.rhcs2 ||| rhcs2Ir }.syncStatus

def setCs2Error (bit : Word) (rh : Rh11) : Rh11 := { rh with rhcs2 := rh.rhcs2 ||| bit ||| rhcs2Ir }.syncStatus

def finishCommand (rh : Rh11) : Rh11 :=
  { rh with
    rhcs1 := rh.rhcs1 &&& ~~~rhcs1Go, rhds := rh.rhds ||| rhdsDrdy, l := rh.l.eventSetDone }.syncStatus

def controllerClear (rh : Rh11) : Rh11 :=
  { rh with
    rhwc := 0, rhba := 0, rhda := 0, rhdc := 0, rhspr := 0, rhdb := 0, rhmr := 0, rhmr2 := 0, rhmr3 := 0, rher := 0
    rhcs2 := (rh.rhcs2 &&& rhcs2DsMask) ||| rhcs2Ir
    rhcs1 := rh.rhcs1 &&& ~~~(rhcs1Go ||| rhcs1BaExtMask)
    l := IrqLatch.reset.eventSetDone }.syncStatus

/-- `rh11_reset`; the images stay attached. -/
def reset (rh : Rh11) : Rh11 :=
  { fp := rh.fp, secOneBased := rh.secOneBased, mode := rh.mode, rhcs2 := rhcs2Ir, rhds := rhdsBase
    l := IrqLatch.reset.eventSetDone : Rh11 }.syncStatus

end Rh11

/-! ## Transfers -/

inductive RhXferMode where
  | read | write | wcheck
  deriving Repr, DecidableEq

/-- The local variables of `rh_transfer`, with the device and the bus. -/
structure RhXfer (δ : Type) where
  i : Nat := 0
  curWc : Word
  curBa : Word
  curDc : Word
  curDa : Word
  curExt : Byte
  wInSec : Nat := 0
  /-- The file of the drive with `secbuf`, `sec_lba`, `sec_valid` and `sec_dirty`. -/
  sec : SectorBuffer
  rh : Rh11
  bus : Bus δ

namespace RhXfer

def fail (bit : Word) (x : RhXfer δ) : Turn (RhXfer δ) := .stop { x with rh := x.rh.setCs2Error bit }

def failNem (x : RhXfer δ) : Turn (RhXfer δ) :=
  let rh := x.rh.setCs2Error rhcs2Nem
  .stop { x with rh := { rh with rher := rh.rher ||| rherLegacyNxm } }

/-- The end of an iteration: word count, bus address, and the next sector after a full one. -/
def advance (medium : Medium) (x : RhXfer δ) : Turn (RhXfer δ) :=
  let x := { x with curWc := x.curWc + 1 }
  let x := if x.rh.rhcs2 &&& rhcs2Bai = 0 then
      { x with curBa := (rhBaInc x.rh.mode x.curBa x.curExt).1, curExt := (rhBaInc x.rh.mode x.curBa x.curExt).2 }
    else x
  let x := { x with wInSec := x.wInSec + 1 }
  if x.wInSec < rh11WordsPerSector then .more { x with i := x.i + 1 }
  else
    match x.sec.release medium rh11SectorBytes with
    | (false, sec) => { x with sec := sec }.fail rhcs2Dlt
    | (true, sec) =>
      .more { x with
        sec := sec, wInSec := 0, i := x.i + 1
        curDc := (rhAdvanceSector x.curDc x.curDa).1, curDa := (rhAdvanceSector x.curDc x.curDa).2 }

/-- One word, once its sector is in the buffer. -/
def moveWord (map : Ubmap) (mode : RhXferMode) (medium : Medium) (x : RhXfer δ) : Option (Turn (RhXfer δ)) :=
  let pa := rhDmaPa x.rh.mode x.bus map x.curBa x.curExt
  let w := x.sec.getWord x.wInSec
  match mode with
  | .read => do
    let (ok, bus) ← rkDmaWriteWord x.bus pa w
    let x := { x with bus := bus }
    some (if ok then x.advance medium else x.failNem)
  | .write => do
    let (w, bus) ← rkDmaReadWord x.bus pa
    let x := { x with bus := bus }
    match w with
    | none => some x.failNem
    | some w => some ({ x with sec := x.sec.putWord x.wInSec w }.advance medium)
  | .wcheck => do
    let (memw, bus) ← rkDmaReadWord x.bus pa
    let x := { x with bus := bus }
    match memw with
    | none => some x.failNem
    | some memw => some (if memw ≠ w then x.fail rhcs2Wce else x.advance medium)

/-- One iteration of the loop of `rh_transfer`. -/
def step (map : Ubmap) (mode : RhXferMode) (medium : Medium) (x : RhXfer δ) : Option (Turn (RhXfer δ)) :=
  match rhLba x.rh.secOneBased x.curDc x.curDa with
  | none => some (.stop { x with rh := x.rh.setRherError rherIdae })
  | some lba =>
    match x.sec.fetch medium rh11SectorBytes lba with
    | (false, sec) => some ({ x with sec := sec }.fail rhcs2Dlt)
    | (true, sec) => { x with sec := sec }.moveWord map mode medium

def loop (map : Ubmap) (mode : RhXferMode) (medium : Medium) (words : Nat) (x : RhXfer δ) : Option (RhXfer δ) :=
  turns (fun x => x.i < words) (step map mode medium) words x

end RhXfer

namespace Rh11

/-- What `rh_transfer` does after the loop. -/
def endTransfer (drive : BitVec 3) (medium : Medium) (x : RhXfer δ) : Rh11 :=
  let (ok, sec) := x.sec.flush medium rh11SectorBytes
  let rh := if ok then x.rh else x.rh.setCs2Error rhcs2Dlt
  let rh := { rh with
    fp := Function.update rh.fp drive (some ⟨sec.file, medium⟩)
    rhwc := x.curWc, rhba := x.curBa, rhdc := x.curDc, rhda := x.curDa }
  (rh.dmaExtSet x.curExt).finishCommand

/-- The word count is a negative number. -/
def xferWords (rh : Rh11) : Nat := if rh.rhwc.toInt < 0 then (-rh.rhwc.toInt).toNat else 0

/-- `rh_transfer` -/
def transfer (map : Ubmap) (mode : RhXferMode) (rh : Rh11) (bus : Bus δ) : Option (Rh11 × Bus δ) :=
  match rh.driveFp with
  | none => some ((rh.setCs2Error rhcs2Ned).finishCommand, bus)
  | some image =>
    if rh.xferWords = 0 then some (rh.finishCommand, bus)
    else do
      let x ← RhXfer.loop map mode image.medium rh.xferWords
        { curWc := rh.rhwc, curBa := rh.rhba, curDc := rh.rhdc, curDa := rh.rhda, curExt := rh.dmaExtGet
          sec := { file := image.file }, rh := rh, bus := bus }
      some (endTransfer rh.selectedDrive image.medium x, x.bus)

/-- `rh11_poll` -/
def poll (map : Ubmap) (rh : Rh11) (bus : Bus δ) : Option (Rh11 × Bus δ) :=
  let func := rh.rhcs1 &&& rhcs1FuncMask
  if rh.rhcs1 &&& rhcs1Go = 0 then some (rh, bus)
  else if func = rh11FuncSelectDrive ∨ func = rh11FuncPackAck ∨ func = rh11FuncDriveClear ∨ func = rh11FuncUnload ∨
      func = rh11FuncStartSpin ∨ func = rh11FuncRecalibrate ∨ func = rh11FuncOffset ∨ func = rh11FuncSeek ∨
      func = rh11FuncReadHeader ∨ func = rh11FuncWriteHeader then some (rh.finishCommand, bus)
  else if func = rh11FuncReadData ∨ func = rh11FuncRead70 then rh.transfer map .read bus
  else if func = rh11FuncWriteData ∨ func = rh11FuncWrite60 then rh.transfer map .write bus
  else if func = rh11FuncWriteCheck then rh.transfer map .wcheck bus
  else some ((rh.setRherError rherIlf).finishCommand, bus)

/-! ## Registers -/

/-- `rh_read8` -/
def read8 (addr : Word) (rh : Rh11) : Byte × Rh11 :=
  let base := addr &&& 0o177776
  let rh := rh.syncStatus
  let v : Word :=
    if base = rhcs1Reg then rh.rhcs1 else if base = rhwcReg then rh.rhwc else if base = rhbaReg then rh.rhba
    else if base = rhdaReg then rh.rhda else if base = rhcs2Reg then rh.rhcs2 else if base = rhdsReg then rh.rhds
    else if base = rherReg then rh.rher else if base = rhasReg then rh.rhas else if base = rhdcReg then rh.rhdc
    else if base = rhsprReg then rh.rhspr else if base = rhdbReg then rh.rhdb else if base = rhmrReg then rh.rhmr
    else if base = rhmr2Reg then (match rh.mode with
      | .rh70 => rh.rhmr2 &&& rhbaeImp
      | .rh11 => rh.rhmr2)
    else if base = rhmr3Reg then rh.rhmr3 else 0
  (if addr &&& 1 ≠ 0 then (v >>> 8).setWidth 8 else v.setWidth 8, rh)

/-- The function and IE of a byte for RHCS1. -/
def loadCs1 (b : Byte) (rh : Rh11) : Rh11 :=
  let v : Word := b.setWidth 16
  let oldIe := rh.rhcs1 &&& rhcs1Ie ≠ 0
  let cs1 := (rh.rhcs1 &&& ~~~(rhcs1FuncMask ||| rhcs1Ie)) ||| (v &&& (rhcs1FuncMask ||| rhcs1Ie))
  let rh := { rh with rhcs1 := cs1, l := rh.l.setIe (cs1 &&& rhcs1Ie ≠ 0) }
  if !oldIe && rh.l.ie && v &&& rhcs1Rdy ≠ 0 then { rh with l := { rh.l with irqReq := true } } else rh

/-- The low byte of RHCS1; GO starts a command. -/
def writeCs1Low (b : Byte) (rh : Rh11) : Rh11 :=
  let v : Word := b.setWidth 16
  let oldGo := rh.rhcs1 &&& rhcs1Go ≠ 0
  let rh := rh.loadCs1 b
  if v &&& rhcs1Go ≠ 0 ∧ oldGo ∧ rh.l.done = false then (rh.setCs2Error rhcs2Pge).finishCommand
  else if v &&& rhcs1Go ≠ 0 ∧ ¬ oldGo then
    if !rh.l.done then (rh.setCs2Error rhcs2Pge).syncStatus
    else
      { rh with
        l := rh.l.swClearDone, rhcs1 := rh.rhcs1 ||| rhcs1Go, rher := 0
        rhcs2 := (rh.rhcs2 &&& rhcs2RwMask) ||| rhcs2Ir, rhds := rh.rhds &&& ~~~rhdsDrdy }.syncStatus
  else rh.syncStatus

def writeCs1High (b : Byte) (rh : Rh11) : Rh11 :=
  if (b.setWidth 16 : Word) <<< 8 &&& rhcs1CerrCclr ≠ 0 then rh.controllerClear else (rh.cs1BaExtSet (b &&& 3)).syncStatus

def writeCs2 (b : Byte) (rh : Rh11) : Rh11 :=
  let cs2 := (rh.rhcs2 &&& ~~~rhcs2RwMask) ||| (b.setWidth 16 &&& rhcs2RwMask)
  let rh := { rh with rhcs2 := cs2 }
  if cs2 &&& rhcs2Sclr ≠ 0 then rh.reset else rh.syncStatus

/-- RHMR3 in RH70 mode, where it holds a copy of IE. -/
def writeMr3 (b : Byte) (rh : Rh11) : Rh11 :=
  let v := (rh.rhmr3 &&& 0o177400) ||| b.setWidth 16
  let mr3 := (rh.rhmr3 &&& ~~~(0o177 : Word)) ||| (v &&& 0o177)
  { rh with rhmr3 := mr3, l := rh.l.setIe (mr3 &&& rhcs1Ie ≠ 0) }.syncStatus

/-- `rh_write8` -/
def write8 (addr : Word) (b : Byte) (rh : Rh11) : Rh11 :=
  let base := addr &&& 0o177776
  let odd := addr &&& 1 ≠ 0
  if base = rhdsReg ∨ base = rherReg ∨ base = rhec1Reg ∨ base = rhec2Reg ∨
      ((base = rhmr2Reg ∨ base = rhmr3Reg) ∧ rh.mode = .rh11) then rh
  else if base = rhcs1Reg then if odd then rh.writeCs1High b else rh.writeCs1Low b
  else if base < rhcs1Reg ∨ rhmr3Reg < base then rh
  else if rh.rhcs1 &&& rhcs1Go ≠ 0 then rh.setCs2Error rhcs2Pge
  else if base = rhwcReg then { rh with rhwc := withByteAt addr rh.rhwc b }
  else if base = rhbaReg then { rh with rhba := withByteAt addr rh.rhba b &&& 0o177776 }
  else if base = rhdaReg then { rh with rhda := withByteAt addr rh.rhda b }
  else if base = rhcs2Reg then if odd then rh else rh.writeCs2 b
  else if base = rhasReg then { rh with rhas := withByteAt addr rh.rhas b }
  else if base = rhdcReg then { rh with rhdc := withByteAt addr rh.rhdc b }
  else if base = rhsprReg then
    let spr := withByteAt addr rh.rhspr b
    { rh with rhspr := spr }.cs1BaExtSet ((spr &&& 3).setWidth 8)
  else if base = rhdbReg then { rh with rhdb := withByteAt addr rh.rhdb b }
  else if base = rhmrReg then { rh with rhmr := withByteAt addr rh.rhmr b }
  else if base = rhmr2Reg then
    if odd then rh
    else
      let mr2 := withByteAt addr rh.rhmr2 b &&& rhbaeImp
      ({ rh with rhmr2 := mr2 }.cs1BaExtSet ((mr2 &&& 3).setWidth 8)).syncStatus
  else if base = rhmr3Reg then if odd then rh else rh.writeMr3 b
  else rh

/-- `rh11_irq_pending` -/
def irqPending (rh : Rh11) : Bool := rh.l.irqReq

/-- `rh11_irq_ack` -/
def irqAck (rh : Rh11) : Rh11 := { rh with l := rh.l.ack }

/-- `rh11_set_mode` -/
def setMode (mode : Rh11Mode) (rh : Rh11) : Rh11 :=
  match mode with
  | .rh11 => { rh with mode := .rh11, rhmr2 := 0, rhmr3 := 0 }
  | .rh70 => { rh with mode := .rh70, rhmr2 := (rh.rhmr2 &&& ~~~(3 : Word)) ||| (rh.cs1BaExtGet.setWidth 16 &&& 3) }

/-- `rh11_open_image_unit` -/
def openImageUnit (unit : BitVec 3) (file : Option DiskImage) (rh : Rh11) : Rh11 :=
  { rh with fp := Function.update rh.fp unit file }

/-- `rh11_close_image` -/
def closeImage (rh : Rh11) : Rh11 := { rh with fp := fun _ => none }

end Rh11

end K1801.Lsi11
