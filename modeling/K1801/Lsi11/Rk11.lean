import K1801.Library.CountedLoop
import K1801.Lsi11.ByteStores
import K1801.Lsi11.IrqLatch
import K1801.Lsi11.WordDma

/-! # The RK11 disk controller

A transfer goes word by word through the file of the drive, which it positions at every sector, and through the
bus address with its two extension bits. The disk address is a packed cylinder, surface and sector.
-/

namespace K1801.Lsi11

open Core Library

abbrev rkds : Word := 0o177400
abbrev rker : Word := 0o177402
abbrev rkcs : Word := 0o177404
abbrev rkwc : Word := 0o177406
abbrev rkba : Word := 0o177410
abbrev rkda : Word := 0o177412
abbrev rkdb : Word := 0o177416

abbrev rkcsGo : Word := 0o1
abbrev rkcsFuncMask : Word := 0o16
abbrev rkcsMexMask : Word := 0o60
abbrev rkcsIde : Word := 0o100
abbrev rkcsRdy : Word := 0o200
abbrev rkcsSse : Word := 0o400
abbrev rkcsExb : Word := 0o1000
abbrev rkcsFmt : Word := 0o2000
abbrev rkcsIba : Word := 0o4000
abbrev rkcsScp : Word := 0o20000
abbrev rkcsHe : Word := 0o40000
abbrev rkcsErr : Word := 0o100000

abbrev rkcsFnCtlreset : Word := 0o0
abbrev rkcsFnWrite : Word := 0o2
abbrev rkcsFnRead : Word := 0o4
abbrev rkcsFnWchk : Word := 0o6
abbrev rkcsFnSeek : Word := 0o10
abbrev rkcsFnRchk : Word := 0o12
abbrev rkcsFnDreset : Word := 0o14
abbrev rkcsFnWlock : Word := 0o16

abbrev rkerWce : Word := 0o1
abbrev rkerCse : Word := 0o2
abbrev rkerNxs : Word := 0o40
abbrev rkerNxc : Word := 0o100
abbrev rkerNxd : Word := 0o200
abbrev rkerDlt : Word := 0o1000
abbrev rkerNxm : Word := 0o2000
abbrev rkerPge : Word := 0o4000
abbrev rkerSke : Word := 0o10000
abbrev rkerWlk : Word := 0o20000
abbrev rkerOvr : Word := 0o40000
abbrev rkerDre : Word := 0o100000
abbrev rkerSoftMask : Word := rkerWce ||| rkerCse
abbrev rkerHardMask : Word := 0o177740

abbrev rkdsSectorMask : Word := 0o17
abbrev rkdsScSa : Word := 0o20
abbrev rkdsWps : Word := 0o40
abbrev rkdsRwsRdy : Word := 0o100
abbrev rkdsDry : Word := 0o200
abbrev rkdsSok : Word := 0o400
abbrev rkdsRk05 : Word := 0o4000

abbrev rkdaSectorMask : Word := 0o17
abbrev rkdaSurfMask : Word := 0o20
abbrev rkdaCylMask : Word := 0o17740
abbrev rkdaDriveMask : Word := 0o160000

abbrev rk11MaxDrives : Word := 8
abbrev rkSectorsPerTrack : Nat := 12
abbrev rkWordsPerSector : Nat := 256
abbrev rkSectorBytes : Nat := 512
abbrev rkMaxCyl : Nat := 202
abbrev rkMaxSurf : Nat := 1

/-- The static variables of the driver. -/
structure Rk11 where
  rkds : Word := 0
  rker : Word := 0
  rkcs : Word := 0
  rkwc : Word := 0
  rkba : Word := 0
  rkda : Word := 0
  rkdb : Word := 0
  /-- Two bits, the extension of the bus address. -/
  rkmex : Byte := 0
  writeLock : Word → Bool := fun _ => false
  l : IrqLatch := {}
  fp : Word → Option DiskImage := fun _ => none
  imgReadOnly : Word → Bool := fun _ => false
  sectorOneBased : Bool := false

def rkDriveValid (drive : Word) : Bool := drive < rk11MaxDrives

def rkGetDrive (da : Word) : Word := (da &&& rkdaDriveMask) >>> 13

def rkGetSector (da : Word) : Word := da &&& rkdaSectorMask

def rkGetSurf (da : Word) : Word := (da &&& rkdaSurfMask) >>> 4

def rkGetCyl (da : Word) : Word := (da &&& rkdaCylMask) >>> 5

def rkSetDa (drive cyl surf sec : Word) : Word :=
  ((drive &&& 7) <<< 13) ||| ((cyl &&& 0o377) <<< 5) ||| ((surf &&& 1) <<< 4) ||| (sec &&& 0o17)

def rkDaToLba (oneBased : Bool) (da : Word) : Option Nat :=
  let cyl := (rkGetCyl da).toNat
  let surf := (rkGetSurf da).toNat
  let sec := (rkGetSector da).toNat
  -- with numbers from 1 on, 0 stands for the last sector of the track
  let sec := if oneBased then (if sec = 0 then rkSectorsPerTrack else sec) - 1 else sec
  if rkSectorsPerTrack ≤ sec then none
  else if rkMaxSurf < surf then none
  else if rkMaxCyl < cyl then none
  else some ((cyl * 2 + surf) * rkSectorsPerTrack + sec)

def rkNextSector (da : Word) : Option Word :=
  let drive := rkGetDrive da
  let cyl := rkGetCyl da
  let surf := rkGetSurf da
  let sec := rkGetSector da + 1
  if sec.toNat < rkSectorsPerTrack then some (rkSetDa drive cyl surf sec)
  else
    let surf := surf + 1
    if surf.toNat ≤ rkMaxSurf then some (rkSetDa drive cyl surf 0)
    else
      let cyl := cyl + 1
      if rkMaxCyl < cyl.toNat then none else some (rkSetDa drive cyl 0 0)

def rkBaInc (ba : Word) (mex : Byte) : Word × Byte :=
  let ba' := ba + 2
  (ba', if ba' < ba then (mex + 1) &&& 3 else mex)

namespace Rk11

def driveFp (rk : Rk11) (drive : Word) : Option DiskImage := if rkDriveValid drive then rk.fp drive else none

def driveReadOnly (rk : Rk11) (drive : Word) : Bool := rkDriveValid drive && rk.imgReadOnly drive

def driveAttached (rk : Rk11) (drive : Word) : Bool := (rk.driveFp drive).isSome

def clearSoftErrors (rk : Rk11) : Rk11 := { rk with rker := rk.rker &&& ~~~rkerSoftMask }

def clearHardErrors (rk : Rk11) : Rk11 := { rk with rker := rk.rker &&& ~~~rkerHardMask }

def hasHardError (rk : Rk11) : Bool := rk.rker &&& rkerHardMask ≠ 0

def syncRkcs (rk : Rk11) : Rk11 :=
  let ro : Word := (if rk.l.done then rkcsRdy else 0) ||| (rk.rkcs &&& rkcsScp) |||
    (if rk.hasHardError then rkcsHe else 0) ||| (if rk.rker ≠ 0 then rkcsErr else 0)
  let cs := (rk.rkcs &&& ~~~(rkcsRdy ||| rkcsScp ||| rkcsHe ||| rkcsErr)) ||| ro
  let cs := (cs &&& ~~~rkcsMexMask) ||| ((rk.rkmex.setWidth 16 &&& 3) <<< 4)
  { rk with rkcs := if rk.l.ie then cs ||| rkcsIde else cs &&& ~~~rkcsIde }

def syncRkds (rk : Rk11) : Rk11 :=
  let drive := rkGetDrive rk.rkda
  { rk with rkds :=
      (rkGetSector rk.rkda &&& rkdsSectorMask) ||| rkdsScSa ||| rkdsSok ||| rkdsRk05 |||
      ((drive &&& 7) <<< 13) ||| (if rk.driveAttached drive then rkdsDry else 0) |||
      (if rk.l.done then rkdsRwsRdy else 0) |||
      (if rk.driveReadOnly drive || rk.writeLock drive then rkdsWps else 0) }

def syncStatus (rk : Rk11) : Rk11 := rk.syncRkcs.syncRkds

def setError (bit : Word) (rk : Rk11) : Rk11 := { rk with rker := rk.rker ||| bit }.syncStatus

def finishCommand (rk : Rk11) : Rk11 :=
  { rk with rkcs := rk.rkcs &&& ~~~rkcsGo, l := rk.l.eventSetDone }.syncStatus

def doControlReset (rk : Rk11) : Rk11 :=
  let rk := { rk.clearHardErrors.clearSoftErrors with
    writeLock := fun _ => false, rkwc := 0, rkba := 0, rkda := 0, rkdb := 0, rkmex := 0 }
  let cs := rk.rkcs &&& (rkcsIde ||| rkcsSse ||| rkcsExb ||| rkcsFmt ||| rkcsIba)
  { rk with rkcs := cs &&& ~~~rkcsScp }.finishCommand

/-- The error that refuses a disk address. -/
def validateDaForXfer (rk : Rk11) (da : Word) : Option Word :=
  let drive := rkGetDrive da
  if !rkDriveValid drive || !rk.driveAttached drive then some rkerNxd
  else if rkMaxCyl < (rkGetCyl da).toNat then some rkerNxc
  else if rkSectorsPerTrack ≤ (rkGetSector da).toNat then some rkerNxs
  else if rkMaxSurf < (rkGetSurf da).toNat then some rkerSke
  else none

end Rk11

inductive RkXferMode where
  | read | write | wchk | rchk
  deriving Repr, DecidableEq

/-- The local variables of `rk_transfer`, with the position in the file, the device and the bus. -/
structure RkXfer (δ : Type) where
  curWc : Word
  curBa : Word
  curDa : Word
  curMex : Byte
  wInSector : Nat := 0
  pos : Nat := 0
  image : DiskImage
  rk : Rk11
  bus : Bus δ

namespace DiskImage

/-- A bad place spoils words, not bytes. -/
def freadByte (img : DiskImage) (pos : Nat) : Option Byte :=
  if img.medium.unreadable (pos / rkSectorBytes) then none
  else if pos < img.file.length then some (img.file.bytes pos) else none

def byteWritable (img : DiskImage) (pos : Nat) : Bool :=
  match img.medium.writeStops (pos / rkSectorBytes) with
  | none => true
  | some words => pos % rkSectorBytes / 2 < words

def fwriteByte (img : DiskImage) (pos : Nat) (v : Byte) : Option DiskImage :=
  if img.byteWritable pos then some { img with file := img.file.writeAt pos 1 fun _ => v } else none

end DiskImage

namespace RkXfer

variable {δ : Type}

def fail (bit : Word) (x : RkXfer δ) : Turn (RkXfer δ) := .stop { x with rk := x.rk.setError bit }

def freadWord (x : RkXfer δ) : Option (Word × RkXfer δ) := do
  let lo ← x.image.freadByte x.pos
  let hi ← x.image.freadByte (x.pos + 1)
  some (lo.setWidth 16 ||| (hi.setWidth 16 <<< 8), { x with pos := x.pos + 2 })

def fwriteWord (w : Word) (x : RkXfer δ) : Bool × RkXfer δ :=
  match x.image.fwriteByte x.pos (w.setWidth 8) with
  | none => (false, x)
  | some img =>
    match img.fwriteByte (x.pos + 1) ((w >>> 8).setWidth 8) with
    | none => (false, { x with image := img, pos := x.pos + 1 })
    | some img => (true, { x with image := img, pos := x.pos + 2 })

/-- The end of an iteration: bus address, word count, and the next sector after a full one. -/
def advance (x : RkXfer δ) : Turn (RkXfer δ) :=
  let x := if x.rk.rkcs &&& rkcsIba = 0 then
      { x with curBa := (rkBaInc x.curBa x.curMex).1, curMex := (rkBaInc x.curBa x.curMex).2 }
    else x
  let x := { x with curWc := x.curWc + 1, wInSector := x.wInSector + 1 }
  if x.wInSector < rkWordsPerSector then .more x
  else
    let x := { x with wInSector := 0 }
    match rkNextSector x.curDa with
    | some da => .more { x with curDa := da }
    | none => if x.curWc ≠ 0 then x.fail rkerOvr else .stop x

/-- The data of one word, at memory address `pa`; `none` is an access outside the RAM array. -/
def moveWord (mode : RkXferMode) (pa : Dword) (x : RkXfer δ) : Option (Turn (RkXfer δ)) :=
  match mode with
  | .read =>
    match x.freadWord with
    | none => some (x.fail rkerDlt)
    | some (w, x) => do
      let (ok, bus) ← rkDmaWriteWord x.bus pa w
      let x := { x with bus := bus }
      some (if ok then x.advance else x.fail rkerNxm)
  | .write => do
    let (w, bus) ← rkDmaReadWord x.bus pa
    let x := { x with bus := bus }
    match w with
    | none => some (x.fail rkerNxm)
    | some w =>
      match x.fwriteWord w with
      | (true, x) => some x.advance
      | (false, x) => some (x.fail rkerDlt)
  | .wchk =>
    match x.freadWord with
    | none => some (x.fail rkerDlt)
    | some (w, x) => do
      let (mw, bus) ← rkDmaReadWord x.bus pa
      let x := { x with bus := bus }
      match mw with
      | none => some (x.fail rkerNxm)
      | some mw => some ((if mw ≠ w then { x with rk := x.rk.setError rkerWce } else x).advance)
  | .rchk =>
    match x.freadWord with
    | none => some (x.fail rkerDlt)
    | some (_, x) => some x.advance

/-- One iteration of the loop of `rk_transfer`. -/
def step (map : Ubmap) (mode : RkXferMode) (x : RkXfer δ) : Option (Turn (RkXfer δ)) :=
  match rkDaToLba x.rk.sectorOneBased x.curDa with
  | none => some (x.fail rkerNxs)
  | some lba =>
    let x := if x.wInSector = 0 then { x with pos := lba * rkSectorBytes } else x
    x.moveWord mode (rkPa x.bus map x.curMex x.curBa)

/-- A word counter runs out after 65535 turns at the latest. -/
def loop (map : Ubmap) (mode : RkXferMode) (x : RkXfer δ) : Option (RkXfer δ) :=
  turns (fun x => x.curWc ≠ 0) (step map mode) 65536 x

end RkXfer

namespace Rk11

variable {δ : Type}

/-- `rk_transfer` -/
def transfer (map : Ubmap) (mode : RkXferMode) (rk : Rk11) (bus : Bus δ) : Option (Rk11 × Bus δ) :=
  match rk.validateDaForXfer rk.rkda with
  | some bit => some ((rk.setError bit).finishCommand, bus)
  | none =>
    let drive := rkGetDrive rk.rkda
    match rk.driveFp drive with
    | none => some ((rk.setError rkerDre).finishCommand, bus)
    | some image =>
      if (mode = .write ∨ mode = .wchk) ∧ (rk.driveReadOnly drive || rk.writeLock drive) then
        some ((rk.setError rkerWlk).finishCommand, bus)
      else do
        let x ← RkXfer.loop map mode
          { curWc := rk.rkwc, curBa := rk.rkba, curDa := rk.rkda, curMex := rk.rkmex
            image := image, rk := rk, bus := bus }
        let rk := { x.rk with
          rkwc := x.curWc, rkba := x.curBa, rkmex := x.curMex &&& 3, rkda := x.curDa
          fp := Function.update x.rk.fp drive (some x.image) }
        some (rk.syncStatus.finishCommand, x.bus)

/-- `rk_exec_command`, also `rk11_poll` -/
def execCommand (map : Ubmap) (rk : Rk11) (bus : Bus δ) : Option (Rk11 × Bus δ) :=
  let fn := rk.rkcs &&& rkcsFuncMask
  let refused (bit : Word) := some ((rk.setError bit).finishCommand, bus)
  if rk.rkcs &&& rkcsGo = 0 then some (rk, bus)
  else if fn = rkcsFnCtlreset then some (rk.doControlReset, bus)
  else if fn = rkcsFnSeek then
    match rk.validateDaForXfer rk.rkda with
    | some bit => refused bit
    | none => some ({ rk with rkcs := rk.rkcs ||| rkcsScp }.finishCommand, bus)
  else if fn = rkcsFnDreset then
    if !rkDriveValid (rkGetDrive rk.rkda) then refused rkerNxd
    else some ({ rk with rkda := rkSetDa (rkGetDrive rk.rkda) 0 0 0
                         rkcs := rk.rkcs ||| rkcsScp }.finishCommand, bus)
  else if fn = rkcsFnWlock then
    if !rkDriveValid (rkGetDrive rk.rkda) then refused rkerNxd
    else some ({ rk with writeLock := Function.update rk.writeLock (rkGetDrive rk.rkda) true }.finishCommand, bus)
  else if fn = rkcsFnRead then rk.transfer map .read bus
  else if fn = rkcsFnWrite then rk.transfer map .write bus
  else if fn = rkcsFnWchk then
    if rk.rkcs &&& rkcsFmt ≠ 0 then refused rkerPge else rk.transfer map .wchk bus
  else if fn = rkcsFnRchk then
    if rk.rkcs &&& rkcsFmt ≠ 0 then refused rkerPge else rk.transfer map .rchk bus
  else refused rkerPge

/-! ## Registers -/

def read8 (addr : Word) (rk : Rk11) : Byte × Rk11 :=
  let base := addr &&& 0o177776
  let rk := rk.syncStatus
  let v : Word :=
    if base = Lsi11.rkds then rk.rkds else if base = Lsi11.rker then rk.rker
    else if base = Lsi11.rkcs then rk.rkcs else if base = Lsi11.rkwc then rk.rkwc
    else if base = Lsi11.rkba then rk.rkba else if base = Lsi11.rkda then rk.rkda
    else if base = Lsi11.rkdb then rk.rkdb else 0
  (if addr &&& 1 ≠ 0 then (v >>> 8).setWidth 8 else v.setWidth 8, rk)

/-- The low byte of RKCS: function, extension bits and IDE; GO starts a command. -/
def writeCsLow (b : Byte) (rk : Rk11) : Rk11 :=
  let keep : Word := rkcsFuncMask ||| rkcsMexMask ||| rkcsIde
  let cs := (rk.rkcs &&& ~~~keep) ||| (b.setWidth 16 &&& keep)
  let rk := { rk with
    rkcs := cs, rkmex := ((cs &&& rkcsMexMask) >>> 4).setWidth 8, l := rk.l.setIe (cs &&& rkcsIde ≠ 0) }
  let rk :=
    if b.setWidth 16 &&& rkcsGo ≠ 0 then
      if rk.l.done then
        let rk := { rk with rkcs := (rk.rkcs ||| rkcsGo) &&& ~~~rkcsScp }.clearSoftErrors
        { rk with l := rk.l.swClearDone }
      else rk
    else { rk with rkcs := rk.rkcs &&& ~~~rkcsGo }
  rk.syncStatus

def writeCsHigh (b : Byte) (rk : Rk11) : Rk11 :=
  let bits : Word := rkcsSse ||| rkcsExb ||| rkcsFmt ||| rkcsIba
  { rk with rkcs := (rk.rkcs &&& ~~~bits) ||| ((b.setWidth 16 <<< 8) &&& bits) }.syncStatus

def write8 (addr : Word) (b : Byte) (rk : Rk11) : Rk11 :=
  let base := addr &&& 0o177776
  let rk := rk.syncStatus
  if base = Lsi11.rkds ∨ base = Lsi11.rker then rk
  else if base = Lsi11.rkwc then { rk with rkwc := withByteAt addr rk.rkwc b }
  else if base = Lsi11.rkba then { rk with rkba := withByteAt addr rk.rkba b }
  else if base = Lsi11.rkda then
    if !rk.l.done then rk else { rk with rkda := withByteAt addr rk.rkda b }.syncStatus
  else if base = Lsi11.rkdb then { rk with rkdb := withByteAt addr rk.rkdb b }
  else if base = Lsi11.rkcs then if addr &&& 1 ≠ 0 then rk.writeCsHigh b else rk.writeCsLow b
  else rk

/-- `rk11_irq_pending` -/
def irqPending (rk : Rk11) : Bool := rk.l.irqReq

/-- `rk11_irq_ack` -/
def irqAck (rk : Rk11) : Rk11 := { rk with l := rk.l.ack }

/-- `rk11_reset`; the images stay attached. -/
def reset (rk : Rk11) : Rk11 :=
  { fp := rk.fp, imgReadOnly := rk.imgReadOnly, sectorOneBased := rk.sectorOneBased
    l := IrqLatch.reset.eventSetDone : Rk11 }.syncStatus

end Rk11

end K1801.Lsi11
