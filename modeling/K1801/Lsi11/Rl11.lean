import K1801.Library.CountedLoop
import K1801.Lsi11.ByteStores
import K1801.Lsi11.IrqLatch
import K1801.Lsi11.WordDma

/-! # The RL11 disk controller

RL01 and RL02 drives. A command starts when CRDY is written as zero and runs at a poll. Every drive keeps the cylinder
and head under its arm and the sector that passes next. A transfer stays on one track and goes through a buffer of one
sector.
-/

namespace K1801.Lsi11

open Core Library

abbrev rlcsReg : Word := 0o174400
abbrev rlbaReg : Word := 0o174402
abbrev rldaReg : Word := 0o174404
abbrev rlmpReg : Word := 0o174406
abbrev rlbaeReg : Word := 0o174410

abbrev rlcsDrdy : Word := 0o1
abbrev rlcsFuncMask : Word := 0o16
abbrev rlcsBaMask : Word := 0o60
abbrev rlcsIe : Word := 0o100
abbrev rlcsCrdy : Word := 0o200
abbrev rlcsDsMask : Word := 0o1400
abbrev rlcsDe : Word := 0o40000
abbrev rlcsErr : Word := 0o100000

abbrev rlcsFnNoop : Word := 0o0
abbrev rlcsFnWchk : Word := 0o2
abbrev rlcsFnGstat : Word := 0o4
abbrev rlcsFnSeek : Word := 0o6
abbrev rlcsFnRhdr : Word := 0o10
abbrev rlcsFnWrite : Word := 0o12
abbrev rlcsFnRead : Word := 0o14
abbrev rlcsFnRdnhc : Word := 0o16

abbrev rlcsEOpi : Byte := 0o1
abbrev rlcsEDcrc : Byte := 0o2
abbrev rlcsEDlt : Byte := 0o4
abbrev rlcsEHnf : Byte := 0o5
abbrev rlcsENxm : Byte := 0o10

abbrev rlbaeImp : Word := 0o77

abbrev rlmpStLockon : Word := 0o5
abbrev rlmpBh : Word := 0o10
abbrev rlmpHo : Word := 0o20
abbrev rlmpHs : Word := 0o100
abbrev rlmpDt : Word := 0o200
abbrev rlmpDse : Word := 0o400
abbrev rlmpVc : Word := 0o1000
abbrev rlmpWge : Word := 0o2000
abbrev rlmpSpe : Word := 0o4000
abbrev rlmpSkto : Word := 0o10000
abbrev rlmpWl : Word := 0o20000

abbrev rldaSaMask : Word := 0o77
abbrev rldaHs : Word := 0o100
abbrev rldaCaMask : Word := 0o177600

abbrev rldaSeekMark : Word := 0o1
abbrev rldaSeekBit : Word := 0o2
abbrev rldaDir : Word := 0o4
abbrev rldaSeekHs : Word := 0o20
abbrev rldaDiffMask : Word := 0o177600

abbrev rlSectorsPerTrack : Nat := 40
abbrev rlHeadsPerCyl : Nat := 2
abbrev rlWordsPerSector : Nat := 128
abbrev rlBytesPerSector : Nat := 256
abbrev rl01Cylinders : Nat := 256
abbrev rl02Cylinders : Nat := 512

inductive Rl11Type where
  | auto | rl01 | rl02
  deriving Repr, DecidableEq

/-- `rl_drive_t` -/
structure RlDrive where
  fp : Option DiskImage := none
  type : Rl11Type := .auto
  readOnly : Bool := false
  cyl : Word := 0
  head : Word := 0
  rotSector : Word := 0
  statusLatch : Word := 0

/-- The static variables of the driver. The read header fifo is the words that are left. -/
structure Rl11 where
  rlcs : Word := 0
  rlba : Word := 0
  rlda : Word := 0
  rlmp : Word := 0
  rlbae : Word := 0
  errCode : Byte := 0
  driveError : Bool := false
  busy : Bool := false
  readyNs : Nat := 0
  l : IrqLatch := {}
  drv : BitVec 2 → RlDrive := fun _ => {}
  rhdrFifo : List Word := []

def rlImageBytesForType (type : Rl11Type) : Nat :=
  (if type = .rl02 then rl02Cylinders else rl01Cylinders) * rlHeadsPerCyl * rlSectorsPerTrack * rlBytesPerSector

def rlMaxCylForType (type : Rl11Type) : Word :=
  BitVec.ofNat 16 (if type = .rl02 then rl02Cylinders - 1 else rl01Cylinders - 1)

def rlBaInc (ba : Word) (ext : Byte) : Word × Byte :=
  let ba' := ba + 2
  (ba', if ba' < ba then (ext + 1) &&& 0o77 else ext)

/-- One bit of a word for `rl_calc_crc16`. -/
def rlCrcBit (crc : Dword) (d : Dword) : Dword :=
  let crc := (crc &&& ~~~(1 : Dword)) ||| ((crc &&& 1) ^^^ (d &&& 1))
  if crc &&& 1 ≠ 0 then (crc >>> 1) ^^^ 0o120001 else crc >>> 1

def rlCalcCrc16 (data : List Word) : Word :=
  (data.foldl (fun crc (d : Word) =>
    (List.range 16).foldl (fun crc j => rlCrcBit crc (d.setWidth 32 >>> j)) crc) (0 : Dword)).setWidth 16

def rlDaToLba (type : Rl11Type) (da : Word) : Option Nat :=
  let sec := (da &&& rldaSaMask).toNat
  let head := if da &&& rldaHs ≠ 0 then 1 else 0
  let cyl := (da &&& rldaCaMask) >>> 7
  if rlSectorsPerTrack ≤ sec then none
  else if rlHeadsPerCyl ≤ head then none
  else if rlMaxCylForType type < cyl then none
  else some ((cyl.toNat * rlHeadsPerCyl + head) * rlSectorsPerTrack + sec)

variable {δ : Type}

def rlPa (b : Bus δ) (map : Ubmap) (ba : Word) (ext : Byte) : Dword :=
  match b.cfg.machine with
  | .pdp1184 => ubmapMapAddr b map ((((ext &&& 3).setWidth 32 <<< 16) ||| ba.setWidth 32) &&& 0o777777)
  | .lsi11x1104 => ((ext &&& 0o77).setWidth 32 <<< 16) ||| ba.setWidth 32

namespace RlDrive

def statusWord (d : RlDrive) : Word :=
  let st := rlmpStLockon ||| rlmpBh ||| rlmpHo
  if d.fp.isNone then st ||| rlmpDse
  else st ||| (if d.head ≠ 0 then rlmpHs else 0) ||| (if d.type = .rl02 then rlmpDt else 0) |||
    (if d.readOnly then rlmpWl else 0) ||| d.statusLatch

end RlDrive

namespace Rl11

def selected (rl : Rl11) : BitVec 2 := ((rl.rlcs &&& rlcsDsMask) >>> 8).setWidth 2

def drive (rl : Rl11) : RlDrive := rl.drv rl.selected

def modify (rl : Rl11) (unit : BitVec 2) (f : RlDrive → RlDrive) : Rl11 :=
  { rl with drv := Function.update rl.drv unit (f (rl.drv unit)) }

def baExtGet (rl : Rl11) : Byte := (rl.rlbae &&& rlbaeImp).setWidth 8

def baExtSet (ext : Byte) (rl : Rl11) : Rl11 :=
  let bae := ext.setWidth 16 &&& rlbaeImp
  { rl with rlbae := bae, rlcs := (rl.rlcs &&& ~~~rlcsBaMask) ||| ((bae &&& 3) <<< 4) }

def clearErrors (rl : Rl11) : Rl11 := { rl with errCode := 0, driveError := false }

def setError (ecode : Byte) (rl : Rl11) : Rl11 := { rl with errCode := ecode &&& 0o17 }

def syncCs (rl : Rl11) : Rl11 :=
  { rl with rlcs :=
      (rl.rlcs &&& (rlcsFuncMask ||| rlcsDsMask)) ||| (if rl.l.ie then rlcsIe else 0) |||
      (if rl.l.done then rlcsCrdy else 0) ||| (if rl.drive.fp.isSome && !rl.busy then rlcsDrdy else 0) |||
      ((rl.errCode.setWidth 16 &&& 0o17) <<< 10) ||| (if rl.driveError then rlcsDe else 0) |||
      (if rl.driveError || rl.errCode ≠ 0 then rlcsErr else 0) ||| ((rl.rlbae &&& 3) <<< 4) }

def finishCommand (rl : Rl11) : Rl11 := { rl with busy := false, l := rl.l.eventSetDone }.syncCs

/-! ## Commands without data -/

def execGetStatus (rl : Rl11) : Rl11 :=
  if rl.rlda &&& 3 ≠ 3 then (rl.setError rlcsEOpi).finishCommand
  else if rl.rlda &&& 4 ≠ 0 then (rl.setError rlcsEOpi).finishCommand
  else if rl.drive.fp.isNone then { rl.setError rlcsEHnf with rlmp := rlmpDse }.finishCommand
  else
    let rl := if rl.rlda &&& 0o10 ≠ 0 then
        { rl.modify rl.selected fun d =>
            { d with statusLatch := d.statusLatch &&& ~~~(rlmpVc ||| rlmpWge ||| rlmpSpe ||| rlmpSkto) } with
          driveError := false }
      else rl
    { rl with rlmp := rl.drive.statusWord }.finishCommand

/-- The cylinder after a seek; it stops at the first and at the last one. -/
def seekCyl (type : Rl11Type) (cyl diff : Word) (outward : Bool) : Word :=
  if outward then
    if (rlMaxCylForType type).toNat < cyl.toNat + diff.toNat then rlMaxCylForType type else cyl + diff
  else if cyl < diff then 0 else cyl - diff

def execSeek (rl : Rl11) : Rl11 :=
  if rl.drive.fp.isNone then (rl.setError rlcsEHnf).finishCommand
  else if rl.rlda &&& rldaSeekMark = 0 ∨ rl.rlda &&& rldaSeekBit ≠ 0 then (rl.setError rlcsEOpi).finishCommand
  else
    (rl.modify rl.selected fun d => { d with
      head := if rl.rlda &&& rldaSeekHs ≠ 0 then 1 else 0
      cyl := seekCyl d.type d.cyl ((rl.rlda &&& rldaDiffMask) >>> 7) (rl.rlda &&& rldaDir ≠ 0) }).finishCommand

def execReadHeader (rl : Rl11) : Rl11 :=
  let d := rl.drive
  if d.fp.isNone then (rl.setError rlcsEHnf).finishCommand
  else
    let sec := d.rotSector % 40
    let w1 := ((d.cyl &&& 0o777) <<< 7) ||| ((if d.head ≠ 0 then 1 else 0) <<< 6) ||| (sec &&& rldaSaMask)
    let rl := { rl with rhdrFifo := [w1, 0, rlCalcCrc16 [w1, 0]], rlmp := w1 }
    (rl.modify rl.selected fun d => { d with rotSector := (d.rotSector + 1) % 40 }).finishCommand

end Rl11

/-! ## Transfers -/

inductive RlXferMode where
  | write | read | wchk
  deriving Repr, DecidableEq

/-- The local variables of `rl_exec_xfer` that the loop changes, with the device and the bus. -/
structure RlXfer (δ : Type) where
  wcXfer : Nat
  wcDone : Nat := 0
  curBa : Word
  curDa : Word
  curExt : Byte
  wInSector : Nat := 0
  hadError : Bool := false
  /-- The file of the drive with `secbuf`, `sec_lba`, `sec_valid` and `sec_dirty`. -/
  sec : SectorBuffer
  secWord : Nat := 0
  rl : Rl11
  bus : Bus δ

namespace RlXfer

def error (ecode : Byte) (x : RlXfer δ) : RlXfer δ := { x with rl := x.rl.setError ecode, hadError := true }

/-- The end of an iteration: counters, bus address, and the next sector after a full one. -/
def advance (medium : Medium) (x : RlXfer δ) : Turn (RlXfer δ) :=
  let x := { x with
    wcXfer := x.wcXfer - 1, wcDone := x.wcDone + 1
    curBa := (rlBaInc x.curBa x.curExt).1, curExt := (rlBaInc x.curBa x.curExt).2
    secWord := x.secWord + 1, wInSector := x.wInSector + 1 }
  if x.wInSector < rlWordsPerSector then .more x
  else
    match x.sec.release medium rlBytesPerSector with
    | (false, sec) => .stop ({ x with sec := sec }.error rlcsEDlt)
    | (true, sec) =>
      let sector := (x.curDa &&& rldaSaMask) + 1
      .more { x with
        sec := sec, secWord := 0, wInSector := 0
        curDa := (((x.curDa &&& rldaCaMask) >>> 7) <<< 7) ||| (if x.curDa &&& rldaHs ≠ 0 then rldaHs else 0) |||
          (sector &&& rldaSaMask) }

/-- One word, once its sector is in the buffer. -/
def moveWord (map : Ubmap) (mode : RlXferMode) (medium : Medium) (x : RlXfer δ) : Option (Turn (RlXfer δ)) :=
  let pa := rlPa x.bus map x.curBa x.curExt
  let w := x.sec.getWord x.secWord
  match mode with
  | .read => do
    let (ok, bus) ← rkDmaWriteWord x.bus pa w
    let x := { x with bus := bus }
    some (if ok then x.advance medium else .stop (x.error rlcsENxm))
  | .write => do
    let (w, bus) ← rkDmaReadWord x.bus pa
    let x := { x with bus := bus }
    match w with
    | none => some (.stop (x.error rlcsENxm))
    | some w => some ({ x with sec := x.sec.putWord x.secWord w }.advance medium)
  | .wchk => do
    let (mw, bus) ← rkDmaReadWord x.bus pa
    let x := { x with bus := bus }
    match mw with
    | none => some (.stop (x.error rlcsENxm))
    | some mw => some (if mw ≠ w then .stop (x.error rlcsEDcrc) else x.advance medium)

/-- One iteration of the loop of `rl_exec_xfer`. -/
def step (map : Ubmap) (mode : RlXferMode) (medium : Medium) (type : Rl11Type) (x : RlXfer δ) :
    Option (Turn (RlXfer δ)) :=
  match rlDaToLba type x.curDa with
  | none => some (.stop (x.error rlcsEHnf))
  | some lba =>
    let secWord := if x.sec.valid && x.sec.lba == lba then x.secWord else 0
    match x.sec.fetch medium rlBytesPerSector lba with
    | (false, sec) => some (.stop ({ x with sec := sec }.error rlcsEDlt))
    | (true, sec) => { x with sec := sec, secWord := secWord }.moveWord map mode medium

def loop (map : Ubmap) (mode : RlXferMode) (medium : Medium) (type : Rl11Type) (x : RlXfer δ) : Option (RlXfer δ) :=
  turns (fun x => x.wcXfer ≠ 0) (step map mode medium type) x.wcXfer x

/-- The rest of a sector that was begun is filled with zeros. -/
def zeroFill (mode : RlXferMode) (medium : Medium) (type : Rl11Type) (x : RlXfer δ) : RlXfer δ :=
  if x.hadError = false ∧ mode = .write ∧ 0 < x.wInSector then
    let x :=
      if x.sec.valid then x
      else
        match rlDaToLba type x.curDa with
        | none => x.error rlcsEDlt
        | some lba =>
          match medium.readSector rlBytesPerSector lba x.sec.file with
          | none => x.error rlcsEDlt
          | some data => { x with sec := { x.sec with lba := lba, data := data }, secWord := x.wInSector }
    if x.hadError then x
    else
      let n := rlWordsPerSector - x.wInSector
      { x with
        sec := { x.sec with data := Buffer.paste x.sec.data (2 * x.secWord) (2 * n) Buffer.zero, dirty := true }
        secWord := x.secWord + n, wInSector := x.wInSector + n }
  else x

/-- The last sector is written back. -/
def writeBack (medium : Medium) (x : RlXfer δ) : RlXfer δ :=
  match x.sec.flush medium rlBytesPerSector with
  | (true, sec) => { x with sec := sec }
  | (false, sec) => { x with sec := sec }.error rlcsEDlt

end RlXfer

namespace Rl11

/-- What `rl_exec_xfer` does with the registers and the drive after the transfer. -/
def endXfer (medium : Medium) (noHeader : Bool) (wcReq maxwc : Nat) (x : RlXfer δ) : Rl11 :=
  let unit := x.rl.selected
  let mp := x.rl.rlmp + BitVec.ofNat 16 x.wcDone
  let sectors := BitVec.ofNat 16 ((x.wcDone + (rlWordsPerSector - 1)) / rlWordsPerSector)
  let rl := { x.rl with rlmp := mp }
  let rl := if x.hadError = false ∧ maxwc < wcReq then rl.setError rlcsEOpi
    else if x.hadError = false ∧ mp ≠ 0 then rl.setError rlcsEHnf else rl
  let rl := { rl with rlba := x.curBa &&& 0o177776 }.baExtSet x.curExt
  let rl := { rl with rlda := rl.rlda + sectors }
  let rl := rl.modify unit fun d =>
    let d := { d with fp := some ⟨x.sec.file, medium⟩ }
    if noHeader then
      let sec := d.rotSector + sectors
      { d with rotSector := if rlSectorsPerTrack ≤ sec.toNat then 0 else sec }
    else
      let sec := rl.rlda &&& rldaSaMask
      { d with
        head := if rl.rlda &&& rldaHs ≠ 0 then 1 else 0
        cyl := (rl.rlda &&& rldaCaMask) >>> 7
        rotSector := if rlSectorsPerTrack ≤ sec.toNat then 0 else sec }
  rl.finishCommand

/-- `rl_exec_xfer` -/
def execXfer (map : Ubmap) (mode : RlXferMode) (rl : Rl11) (bus : Bus δ) : Option (Rl11 × Bus δ) :=
  let d := rl.drive
  let noHeader : Bool := mode = .read && rl.rlcs &&& rlcsFuncMask = rlcsFnRdnhc
  match d.fp with
  | none => some ((rl.setError rlcsEHnf).finishCommand, bus)
  | some image =>
    if mode = .write ∧ d.readOnly = true then
      let rl := rl.modify rl.selected fun d => { d with statusLatch := d.statusLatch ||| rlmpWl }
      some ({ rl.setError rlcsEOpi with driveError := true }.finishCommand, bus)
    else if noHeader = true ∧ rlSectorsPerTrack ≤ d.rotSector.toNat then
      some ((rl.setError rlcsEHnf).finishCommand, bus)
    else if noHeader = false ∧ (rlSectorsPerTrack ≤ (rl.rlda &&& rldaSaMask).toNat ∨
        rl.rlda &&& rldaCaMask ≠ (d.cyl <<< 7) &&& rldaCaMask) then
      some ((rl.setError rlcsEHnf).finishCommand, bus)
    else
      let curDa := if noHeader then
          (d.cyl <<< 7) ||| (if d.head ≠ 0 then rldaHs else 0) ||| (d.rotSector &&& rldaSaMask)
        else rl.rlda
      let maxwc := (rlSectorsPerTrack - (curDa &&& rldaSaMask).toNat) * rlWordsPerSector
      let wcReq := (0o200000 - rl.rlmp.toNat) % 0o200000
      do
        let x ← RlXfer.loop map mode image.medium d.type
          { wcXfer := min wcReq maxwc, curBa := rl.rlba, curDa := curDa, curExt := rl.baExtGet
            sec := { file := image.file }, rl := rl, bus := bus }
        let x := (x.zeroFill mode image.medium d.type).writeBack image.medium
        some (endXfer image.medium noHeader wcReq maxwc x, x.bus)

/-- `rl_exec_command` -/
def execCommand (map : Ubmap) (rl : Rl11) (bus : Bus δ) : Option (Rl11 × Bus δ) :=
  let fn := rl.rlcs &&& rlcsFuncMask
  if fn = rlcsFnNoop then some (rl.finishCommand, bus)
  else if fn = rlcsFnWchk then rl.execXfer map .wchk bus
  else if fn = rlcsFnGstat then some (rl.execGetStatus, bus)
  else if fn = rlcsFnSeek then some (rl.execSeek, bus)
  else if fn = rlcsFnRhdr then some (rl.execReadHeader, bus)
  else if fn = rlcsFnWrite then rl.execXfer map .write bus
  else if fn = rlcsFnRead ∨ fn = rlcsFnRdnhc then rl.execXfer map .read bus
  else some ((rl.setError rlcsEOpi).finishCommand, bus)

/-- `rl11_poll`, at host time `now` -/
def poll (map : Ubmap) (now : Nat) (rl : Rl11) (bus : Bus δ) : Option (Rl11 × Bus δ) :=
  if rl.busy = false then some (rl, bus)
  else if now < rl.readyNs then some (rl, bus)
  else rl.execCommand map bus

/-! ## Registers -/

def rhdrPeekWord (rl : Rl11) : Word := rl.rhdrFifo.headD rl.rlmp

/-- RLMP keeps the last word when the fifo runs empty. -/
def rhdrAdvanceWord (rl : Rl11) : Rl11 :=
  match rl.rhdrFifo with
  | _ :: w :: rest => { rl with rhdrFifo := w :: rest, rlmp := w }
  | _ => { rl with rhdrFifo := [] }

/-- `rl_read8` -/
def read8 (addr : Word) (rl : Rl11) : Byte × Rl11 :=
  let base := addr &&& 0o177776
  let rl := rl.syncCs
  let v : Word :=
    if base = rlcsReg then rl.rlcs else if base = rlbaReg then rl.rlba else if base = rldaReg then rl.rlda
    else if base = rlmpReg then rl.rhdrPeekWord else if base = rlbaeReg then rl.rlbae &&& rlbaeImp else 0
  if addr &&& 1 ≠ 0 then
    ((v >>> 8).setWidth 8, if base = rlmpReg then rl.rhdrAdvanceWord else rl)
  else (v.setWidth 8, rl)

/-- The low byte of RLCS: function, extension bits and IE; a command starts unless CRDY is set in the byte. -/
def writeCsLow (now : Nat) (b : Byte) (rl : Rl11) : Rl11 :=
  let v : Word := b.setWidth 16
  let keep : Word := rlcsFuncMask ||| rlcsBaMask ||| rlcsIe
  let cs := (rl.rlcs &&& ~~~keep) ||| (v &&& keep)
  let l := rl.l.setIe (cs &&& rlcsIe ≠ 0)
  let rl := { rl with rlcs := cs, rlbae := (rl.rlbae &&& ~~~(3 : Word)) ||| ((v &&& rlcsBaMask) >>> 4), l := l }
  if v &&& rlcsCrdy = 0 ∧ l.done = true then
    ({ rl with l := rl.l.swClearDone, busy := true, readyNs := now, rhdrFifo := [] }.clearErrors).syncCs
  else rl.syncCs

/-- The high byte of RLCS selects the drive. -/
def writeCsHigh (b : Byte) (rl : Rl11) : Rl11 :=
  { rl with rlcs := (rl.rlcs &&& ~~~rlcsDsMask) ||| ((b.setWidth 16 <<< 8) &&& rlcsDsMask) }.syncCs

/-- `rl_write8`, at host time `now` -/
def write8 (now : Nat) (addr : Word) (b : Byte) (rl : Rl11) : Rl11 :=
  let base := addr &&& 0o177776
  if base = rlcsReg then if addr &&& 1 ≠ 0 then rl.writeCsHigh b else rl.writeCsLow now b
  else if base = rlbaReg then { rl with rlba := withByteAt addr rl.rlba b &&& 0o177776 }
  else if base = rldaReg then { rl with rlda := withByteAt addr rl.rlda b }
  else if base = rlmpReg then { rl with rlmp := withByteAt addr rl.rlmp b, rhdrFifo := [] }
  else if base = rlbaeReg then (rl.baExtSet ((withByteAt addr rl.rlbae b).setWidth 8)).syncCs
  else rl

/-- `rl11_irq_pending` -/
def irqPending (rl : Rl11) : Bool := rl.l.irqReq

/-- `rl11_irq_ack` -/
def irqAck (rl : Rl11) : Rl11 := { rl with l := rl.l.ack }

/-- `rl11_reset`; the images stay attached. -/
def reset (rl : Rl11) : Rl11 :=
  { drv := fun u => { rl.drv u with cyl := 0, head := 0, rotSector := 0, statusLatch := 0 }
    readyNs := rl.readyNs, l := IrqLatch.reset.eventSetDone : Rl11 }.syncCs

/-- `rl11_open_image_typed_unit`; the file with the mode it opened in, or no file that opens. -/
def openImageTypedUnit (unit : BitVec 2) (file : Option (DiskImage × Bool)) (type : Rl11Type) (rl : Rl11) : Rl11 :=
  match file with
  | none => (rl.modify unit fun d => { d with fp := none }).syncCs
  | some (image, readOnly) =>
    let dtype := if type = .auto then
        if rlImageBytesForType .rl01 < image.file.length then .rl02 else .rl01
      else type
    (rl.modify unit fun _ =>
      { fp := some image, type := dtype, readOnly := readOnly
        statusLatch := (if readOnly then rlmpWl else 0) ||| rlmpVc }).syncCs

/-- `rl11_close_image` -/
def closeImage (rl : Rl11) : Rl11 := { rl with drv := fun _ => {} }.syncCs

end Rl11

end K1801.Lsi11
