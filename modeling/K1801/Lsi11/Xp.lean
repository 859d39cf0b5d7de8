import K1801.Library.CountedLoop
import K1801.Lsi11.ByteStores
import K1801.Lsi11.IrqLatch
import K1801.Lsi11.WordDma

/-! # The XP disk controller

An RH70 with RM05 packs. A command is marked by GO and runs at the next poll. A transfer counts words from the
starting sector on, goes through a buffer of one sector, and leaves the address of the sector after the last one it
started.
-/

namespace K1801.Lsi11

open Core Library

abbrev xpcs1Reg : Word := 0o176700
abbrev xpwcReg : Word := 0o176702
abbrev xpbaReg : Word := 0o176704
abbrev xpdaReg : Word := 0o176706
abbrev xpcs2Reg : Word := 0o176710
abbrev xpdsReg : Word := 0o176712
abbrev xper1Reg : Word := 0o176714
abbrev xpasReg : Word := 0o176716
abbrev xplaReg : Word := 0o176720
abbrev xpdbReg : Word := 0o176722
abbrev xpmrReg : Word := 0o176724
abbrev xpdtReg : Word := 0o176726
abbrev xpsnReg : Word := 0o176730
abbrev xpofReg : Word := 0o176732
abbrev xpdcReg : Word := 0o176734
abbrev xpccReg : Word := 0o176736
abbrev xper2Reg : Word := 0o176740
abbrev xper3Reg : Word := 0o176742
abbrev xpec1Reg : Word := 0o176744
abbrev xpec2Reg : Word := 0o176746
abbrev xpbaeReg : Word := 0o176750
abbrev xpcs3Reg : Word := 0o176752

abbrev xpcs1Go : Word := 0o1
abbrev xpcs1FncMask : Word := 0o76
abbrev xpcs1Ie : Word := 0o100
abbrev xpcs1Done : Word := 0o200
abbrev xpcs1Uae : Word := 0o1400
abbrev xpcs1Dva : Word := 0o4000
abbrev xpcs1Tre : Word := 0o40000
abbrev xpcs1Sc : Word := 0o100000

abbrev xpcs2UnitMask : Word := 0o7
abbrev xpcs2Uai : Word := 0o10
abbrev xpcs2Pat : Word := 0o20
abbrev xpcs2Clr : Word := 0o40
abbrev xpcs2Ir : Word := 0o100
abbrev xpcs2Or : Word := 0o200
abbrev xpcs2Mdpe : Word := 0o400
abbrev xpcs2Mxf : Word := 0o1000
abbrev xpcs2Pge : Word := 0o2000
abbrev xpcs2Nem : Word := 0o4000
abbrev xpcs2Ned : Word := 0o10000
abbrev xpcs2Pe : Word := 0o20000
abbrev xpcs2Wce : Word := 0o40000
abbrev xpcs2Dlt : Word := 0o100000
abbrev xpcs2RwMask : Word := xpcs2UnitMask ||| xpcs2Uai ||| xpcs2Pat ||| xpcs2Mxf ||| xpcs2Pe
abbrev xpcs2ErrMask : Word :=
  xpcs2Mdpe ||| xpcs2Mxf ||| xpcs2Pge ||| xpcs2Nem ||| xpcs2Ned ||| xpcs2Pe ||| xpcs2Wce ||| xpcs2Dlt

abbrev xpcs3Wco : Word := 0o10000
abbrev xpcs3Wce : Word := 0o4000
abbrev xpcs3ErrMask : Word := xpcs3Wco ||| xpcs3Wce
abbrev xpcs3RwMask : Word := xpcs1Ie ||| 0o17

abbrev xpdsVv : Word := 0o100
abbrev xpdsRdy : Word := 0o200
abbrev xpdsDpr : Word := 0o400
abbrev xpdsLst : Word := 0o2000
abbrev xpdsMol : Word := 0o10000
abbrev xpdsErr : Word := 0o40000
abbrev xpdsAta : Word := 0o100000

abbrev xper1Ilf : Word := 0o1
abbrev xper1Iae : Word := 0o2000
abbrev xper1Wle : Word := 0o4000
abbrev xper1Aoe : Word := 0o1000
abbrev xper1Uns : Word := 0o40000

abbrev xpdaSecMask : Word := 0o77
abbrev xpdaSfMask : Word := 0o37400
abbrev xpdcCylMask : Word := 0o1777
abbrev xpofMbz : Word := 0o161400

abbrev xpSectorsPerSurf : Nat := 32
abbrev xpSurfaces : Nat := 19
abbrev xpCylinders : Nat := 823
abbrev xpWordsPerSector : Nat := 256
abbrev xpBytesPerSector : Nat := 512
abbrev xpTotalSectors : Nat := xpSectorsPerSurf * xpSurfaces * xpCylinders
abbrev xpTotalWords : Nat := xpTotalSectors * xpWordsPerSector
abbrev xpDtRm05 : Word := 0o20027

abbrev xpfNop : Word := 0o0
abbrev xpfSeek : Word := 0o2
abbrev xpfRecal : Word := 0o3
abbrev xpfDclr : Word := 0o4
abbrev xpfRelease : Word := 0o5
abbrev xpfPreset : Word := 0o10
abbrev xpfPack : Word := 0o11
abbrev xpfSearch : Word := 0o14
abbrev xpfXfer : Word := 0o24
abbrev xpfWchk : Word := 0o24
abbrev xpfWrite : Word := 0o30
abbrev xpfWriteh : Word := 0o31
abbrev xpfRead : Word := 0o34
abbrev xpfReadh : Word := 0o35

abbrev xpBaeImp : Word := 0o77

/-- The registers of one drive. -/
structure XpDrive where
  xpds : Word := 0
  xper1 : Word := 0
  xpda : Word := 0
  xpmr : Word := 0
  xpof : Word := 0
  xpdc : Word := 0
  xpcc : Word := 0
  xper2 : Word := 0
  xper3 : Word := 0
  xpec1 : Word := 0
  xpec2 : Word := 0
  deriving Repr, DecidableEq

/-- The static variables of the driver. Eight drives, so that every unit number is valid. -/
structure Xp where
  xpcs1 : Word := 0
  xpwc : Word := 0
  xpba : Word := 0
  xpcs2 : Word := 0
  xpdb : Word := 0
  xpbae : Word := 0
  xpcs3 : Word := 0
  drives : BitVec 3 → XpDrive := fun _ => {}
  l : IrqLatch := {}
  fp : BitVec 3 → Option DiskImage := fun _ => none
  imgReadOnly : BitVec 3 → Bool := fun _ => false

namespace XpDrive

def hasError (d : XpDrive) : Bool := d.xper1 ≠ 0 || d.xper2 ≠ 0 || d.xper3 ≠ 0

/-- `xp_update_drive_status` -/
def updateStatus (attached : Bool) (d : XpDrive) : XpDrive :=
  { d with xpds := xpdsDpr ||| (if attached then xpdsMol ||| xpdsRdy else 0) |||
      (d.xpds &&& (xpdsVv ||| xpdsLst ||| xpdsAta)) ||| (if d.hasError then xpdsErr else 0) }

end XpDrive

namespace Xp

def selectedUnit (xp : Xp) : BitVec 3 := (xp.xpcs2 &&& xpcs2UnitMask).setWidth 3

def drive (xp : Xp) : XpDrive := xp.drives xp.selectedUnit

def modify (xp : Xp) (unit : BitVec 3) (f : XpDrive → XpDrive) : Xp :=
  { xp with drives := Function.update xp.drives unit (f (xp.drives unit)) }

/-! ## Status -/

def cs1UaeSyncFromBae (xp : Xp) : Xp :=
  { xp with xpcs1 := (xp.xpcs1 &&& ~~~xpcs1Uae) ||| ((xp.xpbae &&& 3) <<< 8) }

def baeSyncFromCs1Uae (uae : Word) (xp : Xp) : Xp :=
  { xp with xpbae := (xp.xpbae &&& ~~~(3 : Word)) ||| ((uae >>> 8) &&& 3) }.cs1UaeSyncFromBae

def updateAllDriveStatus (xp : Xp) : Xp :=
  { xp with drives := fun u => (xp.drives u).updateStatus (xp.fp u).isSome }

/-- Bit `u` is the attention of drive `u`. -/
def attentionSummary (xp : Xp) : Word :=
  (List.range 8).foldl (fun as u => if (xp.drives (BitVec.ofNat 3 u)).xpds &&& xpdsAta ≠ 0
    then as ||| BitVec.twoPow 16 u else as) 0

/-- The bits of XPCS1 that the status gives. -/
def cs1Status (xp : Xp) : Word :=
  let err := xp.xpcs2 &&& xpcs2ErrMask ≠ 0 || xp.drive.hasError
  (if xp.l.done then xpcs1Done else 0) ||| (if xp.l.ie then xpcs1Ie else 0) ||| xpcs1Dva |||
    (if err then xpcs1Tre ||| xpcs1Sc else if xp.drive.xpds &&& xpdsAta ≠ 0 then xpcs1Sc else 0)

def syncStatus (xp : Xp) : Xp :=
  let xp := { xp with xpcs2 := xp.xpcs2 ||| (xpcs2Ir ||| xpcs2Or) }.updateAllDriveStatus
  let cs1 := (xp.xpcs1 &&& ~~~(xpcs1Done ||| xpcs1Ie ||| xpcs1Tre ||| xpcs1Sc ||| xpcs1Dva)) ||| xp.cs1Status
  { xp with xpcs1 := cs1, xpcs3 := (xp.xpcs3 &&& ~~~xpcs1Ie) ||| (cs1 &&& xpcs1Ie) }.cs1UaeSyncFromBae

def setCs2Error (bit : Word) (xp : Xp) : Xp := { xp with xpcs2 := xp.xpcs2 ||| bit }.syncStatus

def setEr1 (unit : BitVec 3) (bit : Word) (xp : Xp) : Xp :=
  (xp.modify unit fun d => { d with xper1 := d.xper1 ||| bit, xpds := d.xpds ||| xpdsAta }).syncStatus

def finishCommand (xp : Xp) : Xp :=
  { xp with xpcs1 := xp.xpcs1 &&& ~~~xpcs1Go, l := xp.l.eventSetDone }.syncStatus

end Xp

/-! ## Addresses -/

def xpDmaPa (ba : Word) (bae : Byte) : Dword :=
  (((bae &&& 0o77).setWidth 32 <<< 16) ||| ba.setWidth 32) &&& 0o17777777

def xpDaDcToSector (dc da : Word) : Option Nat :=
  let cyl := (dc &&& xpdcCylMask).toNat
  let surf := ((da &&& xpdaSfMask) >>> 8).toNat
  let sec := (da &&& xpdaSecMask).toNat
  if xpCylinders ≤ cyl ∨ xpSurfaces ≤ surf ∨ xpSectorsPerSurf ≤ sec then none
  else some ((cyl * xpSurfaces + surf) * xpSectorsPerSurf + sec)

/-- The cylinder and the packed surface and sector; the last sector stands for all beyond it. -/
def xpSectorToDaDc (sector : Nat) : Word × Word :=
  let sector := if xpTotalSectors ≤ sector then xpTotalSectors - 1 else sector
  let cyl := sector / (xpSurfaces * xpSectorsPerSurf)
  let rem := sector % (xpSurfaces * xpSectorsPerSurf)
  let surf := rem / xpSectorsPerSurf
  let sec := rem % xpSectorsPerSurf
  (BitVec.ofNat 16 cyl &&& xpdcCylMask,
    ((BitVec.ofNat 16 surf &&& xpdaSecMask) <<< 8) ||| (BitVec.ofNat 16 sec &&& xpdaSecMask))

/-! ## Transfers -/

/-- The local variables of `xp_transfer`, with the device and the bus. -/
structure XpXfer (δ : Type) where
  i : Nat := 0
  curWc : Word
  curBa : Word
  curBae : Byte
  /-- The file of the drive with `secbuf`, `sec_lba`, `sec_valid` and `sec_dirty`. -/
  sec : SectorBuffer
  xp : Xp
  bus : Bus δ

namespace XpXfer

variable {δ : Type}

def fail (bit : Word) (x : XpXfer δ) : Turn (XpXfer δ) := .stop { x with xp := x.xp.setCs2Error bit }

/-- The end of an iteration. -/
def advance (x : XpXfer δ) : Turn (XpXfer δ) :=
  let x := { x with curWc := x.curWc + 1, i := x.i + 1 }
  if x.xp.xpcs2 &&& xpcs2Uai ≠ 0 then .more x
  else
    let ba22 : Dword := ((x.curBae.setWidth 32 <<< 16) ||| x.curBa.setWidth 32) + 2
    let ba22 := ba22 &&& 0o17777777
    .more { x with
      curBa := ba22.setWidth 16 &&& 0o177776, curBae := (ba22 >>> 16).setWidth 8 &&& 0o77 }

/-- One word, once its sector is in the buffer. -/
def moveWord (fnc : Word) (x : XpXfer δ) : Option (Turn (XpXfer δ)) :=
  let off := x.i % xpWordsPerSector
  let pa := xpDmaPa x.curBa x.curBae
  let w := x.sec.getWord off
  if fnc = xpfRead ∨ fnc = xpfReadh then do
    let (ok, bus) ← rkDmaWriteWord x.bus pa w
    let x := { x with bus := bus }
    some (if ok then x.advance else x.fail xpcs2Nem)
  else if fnc = xpfWrite ∨ fnc = xpfWriteh then do
    let (w, bus) ← rkDmaReadWord x.bus pa
    let x := { x with bus := bus }
    match w with
    | none => some (x.fail xpcs2Nem)
    | some w => some { x with sec := x.sec.putWord off w }.advance
  else do
    let (memw, bus) ← rkDmaReadWord x.bus pa
    let x := { x with bus := bus }
    match memw with
    | none => some (x.fail xpcs2Nem)
    | some memw =>
      if memw ≠ w then
        let xp := x.xp.setCs2Error xpcs2Wce
        some (.stop { x with xp := { xp with xpcs3 := xp.xpcs3 ||| xpcs3Wce } })
      else some x.advance

/-- One iteration of the loop of `xp_transfer`. -/
def step (medium : Medium) (fnc : Word) (startSector : Nat) (x : XpXfer δ) : Option (Turn (XpXfer δ)) :=
  match x.sec.fetch medium xpBytesPerSector (startSector + x.i / xpWordsPerSector) with
  | (false, sec) => some ({ x with sec := sec }.fail xpcs2Dlt)
  | (true, sec) => { x with sec := sec }.moveWord fnc

def loop (medium : Medium) (fnc : Word) (startSector words : Nat) (x : XpXfer δ) : Option (XpXfer δ) :=
  turns (fun x => x.i < words) (step medium fnc startSector) words x

end XpXfer

namespace Xp

variable {δ : Type}

/-- What `xp_transfer` does after the loop. -/
def endTransfer (unit : BitVec 3) (medium : Medium) (startSector : Nat) (x : XpXfer δ) : Xp :=
  let (ok, sec) := x.sec.flush medium xpBytesPerSector
  let xp := if ok then x.xp else x.xp.setCs2Error xpcs2Dlt
  let xp := { xp with
    fp := Function.update xp.fp unit (some ⟨sec.file, medium⟩)
    xpwc := x.curWc, xpba := x.curBa, xpbae := x.curBae.setWidth 16 &&& xpBaeImp }
  let xp :=
    if 0 < x.i then
      let newSector := startSector + (x.i + (xpWordsPerSector - 1)) / xpWordsPerSector
      let (newSector, lst) := if xpTotalSectors ≤ newSector then (xpTotalSectors - 1, true) else (newSector, false)
      let (dc, da) := xpSectorToDaDc newSector
      xp.modify unit fun d => { d with
        xpds := if lst then d.xpds ||| xpdsLst else d.xpds &&& ~~~xpdsLst
        xpdc := dc, xpda := da, xpcc := dc }
    else xp
  xp.finishCommand

/-- The words of a transfer, once their number is known. -/
def transferWords (fnc : Word) (unit : BitVec 3) (image : DiskImage) (startSector words : Nat) (xp : Xp)
    (bus : Bus δ) : Option (Xp × Bus δ) :=
  if (fnc = xpfWrite ∨ fnc = xpfWriteh) ∧ xp.imgReadOnly unit = true then
    some ((xp.setEr1 unit xper1Wle).finishCommand, bus)
  else do
    let x ← XpXfer.loop image.medium fnc startSector words
      { curWc := xp.xpwc, curBa := xp.xpba, curBae := (xp.xpbae &&& xpBaeImp).setWidth 8
        sec := { file := image.file }, xp := xp, bus := bus }
    some (endTransfer unit image.medium startSector x, x.bus)

/-- `xp_transfer` -/
def transfer (fnc : Word) (xp : Xp) (bus : Bus δ) : Option (Xp × Bus δ) :=
  let unit := xp.selectedUnit
  match xp.fp unit with
  | none => some ((xp.setEr1 unit xper1Uns).finishCommand, bus)
  | some image =>
    match xpDaDcToSector xp.drive.xpdc xp.drive.xpda with
    | none => some ((xp.setEr1 unit xper1Iae).finishCommand, bus)
    | some startSector =>
      let wordsReq := (0o200000 - xp.xpwc.toNat) % 0o200000
      if wordsReq = 0 then some (xp.finishCommand, bus)
      else
        let startWord := startSector * xpWordsPerSector
        if xpTotalWords ≤ startWord then some ((xp.setEr1 unit xper1Aoe).finishCommand, bus)
        else if xpTotalWords < startWord + wordsReq then
          (xp.setEr1 unit xper1Aoe).transferWords fnc unit image startSector (xpTotalWords - startWord) bus
        else xp.transferWords fnc unit image startSector wordsReq bus

/-! ## Commands -/

def controllerClear (xp : Xp) : Xp :=
  { xp with
    xpcs1 := xp.xpcs1 &&& ~~~(xpcs1Go ||| xpcs1FncMask ||| xpcs1Uae)
    xpwc := 0, xpba := 0, xpcs2 := xp.xpcs2 &&& xpcs2UnitMask, xpdb := 0, xpbae := 0, xpcs3 := 0
    drives := fun u => { xp.drives u with xper1 := 0, xper2 := 0, xper3 := 0, xpec1 := 0, xpec2 := 0, xpmr := 0 }
    l := IrqLatch.reset.eventSetDone }.syncStatus

def funcGet (xp : Xp) : Word := (xp.xpcs1 &&& xpcs1FncMask) >>> 1

/-- `xp_start_command` -/
def startCommand (xp : Xp) (bus : Bus δ) : Option (Xp × Bus δ) :=
  let unit := xp.selectedUnit
  let fnc := xp.funcGet
  let finished (xp : Xp) := some (xp.finishCommand, bus)
  if fnc = xpfDclr then
    finished (xp.modify unit fun d => { d with
      xper1 := 0, xper2 := 0, xper3 := 0, xpec1 := 0, xpec2 := 0, xpds := d.xpds &&& ~~~(xpdsAta ||| xpdsLst) })
  else if fnc = xpfNop ∨ fnc = xpfRelease then finished xp
  else if fnc = xpfPreset then
    finished (xp.modify unit fun d => { d with xpdc := 0, xpda := 0, xpcc := 0, xpof := 0, xpds := d.xpds ||| xpdsVv })
  else if fnc = xpfPack then finished (xp.modify unit fun d => { d with xpds := d.xpds ||| xpdsVv })
  else if fnc = xpfRecal then
    finished (xp.modify unit fun d => { d with xpdc := 0, xpcc := 0, xpds := d.xpds ||| xpdsAta })
  else if fnc = xpfSeek ∨ fnc = xpfSearch then
    let xp := if xpCylinders ≤ (xp.drive.xpdc &&& xpdcCylMask).toNat then xp.setEr1 unit xper1Iae else xp
    finished (xp.modify unit fun d => { d with xpcc := d.xpdc &&& xpdcCylMask, xpds := d.xpds ||| xpdsAta })
  else if fnc = xpfRead ∨ fnc = xpfReadh ∨ fnc = xpfWrite ∨ fnc = xpfWriteh ∨ fnc = xpfWchk then xp.transfer fnc bus
  else finished (xp.setEr1 unit xper1Ilf)

/-- `xp_poll` -/
def poll (xp : Xp) (bus : Bus δ) : Option (Xp × Bus δ) :=
  if xp.xpcs1 &&& xpcs1Go = 0 then some (xp, bus) else xp.startCommand bus

/-! ## Registers -/

/-- `xp_read16` -/
def read16 (addr : Word) (xp : Xp) : Word × Xp :=
  let base := addr &&& 0o177776
  let xp := xp.syncStatus
  let d := xp.drive
  if base = xpcs3Reg then
    let cs3 := (xp.xpcs3 &&& ~~~xpcs1Ie) ||| (xp.xpcs1 &&& xpcs1Ie)
    (cs3, { xp with xpcs3 := cs3 })
  else
    (if base = xpcs1Reg then xp.xpcs1
      else if base = xpwcReg then xp.xpwc
      else if base = xpbaReg then xp.xpba &&& 0o177776
      else if base = xpdaReg then d.xpda &&& (xpdaSecMask ||| xpdaSfMask)
      else if base = xpcs2Reg then (xp.xpcs2 &&& ~~~xpcs2Clr) ||| xpcs2Ir ||| xpcs2Or
      else if base = xpdsReg then d.xpds
      else if base = xper1Reg then d.xper1
      else if base = xpasReg then xp.attentionSummary
      else if base = xplaReg then ((d.xpda &&& xpdaSecMask) &&& 0o77) <<< 6
      else if base = xpdbReg then xp.xpdb
      else if base = xpmrReg then d.xpmr
      else if base = xpdtReg then xpDtRm05
      else if base = xpsnReg then 0o20 + (xp.selectedUnit.setWidth 16 + 1)
      else if base = xpofReg then d.xpof &&& ~~~xpofMbz
      else if base = xpdcReg then d.xpdc &&& xpdcCylMask
      else if base = xpccReg then d.xpcc &&& xpdcCylMask
      else if base = xper2Reg then d.xper2
      else if base = xper3Reg then d.xper3
      else if base = xpec1Reg then d.xpec1
      else if base = xpec2Reg then d.xpec2
      else if base = xpbaeReg then xp.xpbae &&& xpBaeImp
      else 0, xp)

/-- `xp_read8` -/
def read8 (addr : Word) (xp : Xp) : Byte × Xp :=
  let (v, xp) := xp.read16 (addr &&& 0o177776)
  (if addr &&& 1 ≠ 0 then (v >>> 8).setWidth 8 else v.setWidth 8, xp)

def clearErrors (xp : Xp) : Xp :=
  { xp with xpcs2 := xp.xpcs2 &&& ~~~xpcs2ErrMask, xpcs3 := xp.xpcs3 &&& ~~~xpcs3ErrMask }

/-- TRE, the extension bits, the function and IE of a word for XPCS1. -/
def loadCs1 (v : Word) (xp : Xp) : Xp :=
  let oldIe := xp.xpcs1 &&& xpcs1Ie ≠ 0
  let low := v &&& 0o377
  let high := v &&& 0o177400
  let xp := if high &&& xpcs1Tre ≠ 0 then xp.clearErrors else xp
  let xp := if xp.xpcs1 &&& xpcs1Done ≠ 0 then xp.baeSyncFromCs1Uae (high &&& xpcs1Uae) else xp
  let cs1 := (xp.xpcs1 &&& ~~~(xpcs1FncMask ||| xpcs1Ie)) ||| (low &&& (xpcs1FncMask ||| xpcs1Ie))
  let xp := { xp with xpcs1 := cs1, l := xp.l.setIe (cs1 &&& xpcs1Ie ≠ 0) }
  if !oldIe && xp.l.ie && xp.xpcs1 &&& xpcs1Done ≠ 0 then { xp with l := { xp.l with irqReq := true } } else xp

/-- XPCS1 in `xp_write16` -/
def writeCs1 (v : Word) (xp : Xp) : Xp :=
  let oldGo := xp.xpcs1 &&& xpcs1Go ≠ 0
  let low := v &&& 0o377
  let isXfer : Bool := xpfXfer ≤ (low &&& xpcs1FncMask) >>> 1
  let xp := xp.loadCs1 v
  if low &&& xpcs1Go ≠ 0 ∧ oldGo ∧ xp.l.done = false then (xp.setCs2Error xpcs2Pge).finishCommand
  else if low &&& xpcs1Go ≠ 0 ∧ ¬ oldGo then
    if isXfer && !xp.l.done then (xp.setCs2Error xpcs2Pge).syncStatus
    else
      let xp := { xp with l := xp.l.swClearDone, xpcs1 := xp.xpcs1 ||| xpcs1Go }
      (if isXfer then xp.clearErrors else xp).syncStatus
  else xp.syncStatus

/-- XPCS2 in `xp_write16` -/
def writeCs2 (v : Word) (xp : Xp) : Xp :=
  if v &&& xpcs2Clr ≠ 0 then xp.controllerClear
  else
    { xp with xpcs2 := ((xp.xpcs2 &&& ~~~xpcs2RwMask) ||| (v &&& xpcs2RwMask)) ||| (xpcs2Ir ||| xpcs2Or) }.syncStatus

/-- XPAS in `xp_write16`: a one clears the attention of its drive. -/
def writeAs (mask : Word) (xp : Xp) : Xp :=
  { xp with drives := fun u =>
      if mask.getLsbD u.toNat then { xp.drives u with xpds := (xp.drives u).xpds &&& ~~~xpdsAta }
      else xp.drives u }.syncStatus

/-- XPCS3 in `xp_write16` -/
def writeCs3 (v : Word) (xp : Xp) : Xp :=
  let cs3 := (xp.xpcs3 &&& ~~~xpcs3RwMask) ||| (v &&& xpcs3RwMask)
  { xp with xpcs3 := cs3, l := xp.l.setIe (cs3 &&& xpcs1Ie ≠ 0) }.syncStatus

def write16 (addr v : Word) (xp : Xp) : Xp :=
  let base := addr &&& 0o177776
  let unit := xp.selectedUnit
  if base = xpcs1Reg then xp.writeCs1 v
  else if base = xpwcReg then { xp with xpwc := v }
  else if base = xpbaReg then { xp with xpba := v &&& 0o177776 }
  else if base = xpdaReg then xp.modify unit fun d => { d with xpda := v &&& (xpdaSecMask ||| xpdaSfMask) }
  else if base = xpcs2Reg then xp.writeCs2 v
  else if base = xpasReg then xp.writeAs v
  else if base = xpdbReg then { xp with xpdb := v }
  else if base = xpmrReg then xp.modify unit fun d => { d with xpmr := v }
  else if base = xpofReg then xp.modify unit fun d => { d with xpof := v &&& ~~~xpofMbz }
  else if base = xpdcReg then xp.modify unit fun d => { d with xpdc := v &&& xpdcCylMask }
  else if base = xpbaeReg then { xp with xpbae := v &&& xpBaeImp }.cs1UaeSyncFromBae.syncStatus
  else if base = xpcs3Reg then xp.writeCs3 v
  else xp

/-- The high byte of XPCS1 does not start commands. -/
def writeCs1High (b : Byte) (xp : Xp) : Xp :=
  let high : Word := b.setWidth 16 <<< 8
  let xp := if high &&& xpcs1Tre ≠ 0 then xp.clearErrors else xp
  (if xp.xpcs1 &&& xpcs1Done ≠ 0 then xp.baeSyncFromCs1Uae (high &&& xpcs1Uae) else xp).syncStatus

/-- The registers that `xp_write8` leaves alone. -/
def isReadOnly (base : Word) : Bool :=
  base = xpdsReg || base = xper1Reg || base = xplaReg || base = xpdtReg || base = xpsnReg || base = xpccReg ||
    base = xper2Reg || base = xper3Reg || base = xpec1Reg || base = xpec2Reg

def write8 (addr : Word) (b : Byte) (xp : Xp) : Xp :=
  let base := addr &&& 0o177776
  if isReadOnly base then xp
  else if base = xpcs1Reg then
    if addr &&& 1 ≠ 0 then xp.writeCs1High b
    else xp.write16 xpcs1Reg ((xp.xpcs1 &&& 0o177400) ||| b.setWidth 16)
  else
    let (old, xp) := xp.read16 base
    let v := withByteAt addr old b
    if xp.xpcs1 &&& xpcs1Go ≠ 0 then xp.setCs2Error xpcs2Pge
    else if (base = xpbaeReg ∨ base = xpcs3Reg) ∧ addr &&& 1 ≠ 0 then xp
    else xp.write16 base v

/-- `xp_reset`; the images stay attached. -/
def reset (xp : Xp) : Xp :=
  { fp := xp.fp, imgReadOnly := xp.imgReadOnly, drives := fun _ => { xpds := xpdsDpr }
    l := IrqLatch.reset.eventSetDone : Xp }.syncStatus

/-- `xp_irq_pending` -/
def irqPending (xp : Xp) : Bool := xp.l.irqReq

/-- `xp_irq_ack` -/
def irqAck (xp : Xp) : Xp := { xp with l := xp.l.ack }

/-- `xp_open_image_unit`; the file of the unit and whether it is read-only, or no file that opens. -/
def openImageUnit (unit : BitVec 3) (file : Option (DiskImage × Bool)) (xp : Xp) : Xp :=
  let attach (f : Option DiskImage) (ro : Bool) : Xp :=
    { xp with fp := Function.update xp.fp unit f, imgReadOnly := Function.update xp.imgReadOnly unit ro }
  match file with
  | none => if (xp.fp unit).isSome then attach none false else xp
  | some (image, ro) =>
    ((attach (some image) ((xp.fp unit).isNone && xp.imgReadOnly unit || ro)).modify unit fun d =>
      { d with xpds := (d.xpds &&& ~~~xpdsAta) ||| xpdsVv }).syncStatus

/-- `xp_close_image` -/
def closeImage (xp : Xp) : Xp :=
  { xp with
    fp := fun _ => none
    imgReadOnly := fun u => (xp.fp u).isNone && xp.imgReadOnly u }.syncStatus

end Xp

end K1801.Lsi11
