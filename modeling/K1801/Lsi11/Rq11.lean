import Mathlib.Algebra.GroupWithZero.Nat
import K1801.Library.DiskFile
import K1801.Lsi11.DmaCells

/-! # MSCP controller RQ11

The static variables of the driver are one record. The host talks to it through two registers and through two rings of
descriptors in its own memory: commands go out on one, responses come back on the other. Tracing is left out, and a
host file that is open never fails.
-/

namespace K1801.Lsi11

open Core Library

/-- `RQ_PKT_WORDS` is not zero. -/
theorem rqPktWords_neZero : NeZero 32 := ⟨by decide⟩

attribute [local instance] rqPktWords_neZero

abbrev rq11MaxUnits : Nat := 4

theorem rq11MaxUnits_neZero : NeZero rq11MaxUnits := ⟨by decide⟩

abbrev rqNumby : Nat := 512

abbrev rqSaEr : Word := 0x8000
abbrev rqSaS4 : Word := 0x4000
abbrev rqSaS3 : Word := 0x2000
abbrev rqSaS2 : Word := 0x1000
abbrev rqSaS1 : Word := 0x800
abbrev rqS1cQ22 : Word := 0x200
abbrev rqS1cDi : Word := 0x100
abbrev rqS1cMp : Word := 0x40
abbrev rqS1cCapsQbus : Word := rqSaS1 ||| rqS1cQ22 ||| rqS1cDi ||| rqS1cMp
abbrev rqS1cCapsUbus : Word := rqSaS1 ||| rqS1cDi ||| rqS1cMp
abbrev rqS1hVl : Word := 0x8000
abbrev rqS1hWr : Word := 0x4000
abbrev rqS1hVCq : Nat := 11
abbrev rqS1hVRq : Nat := 8
abbrev rqS1hMCq : Word := 7
abbrev rqS1hIe : Word := 0x80
abbrev rqS2hClo : Word := 0xFFFE
abbrev rqS2hPi : Word := 1
abbrev rqS3hPp : Word := 0x8000
abbrev rqS3hChi : Word := 0x7FFF
abbrev rqS4hGo : Word := 1
abbrev rqSaCommCi : Int := -4
abbrev rqSaCommRi : Int := -2

abbrev rqDescOwn : Dword := 0x80000000
abbrev rqDescF : Dword := 0x40000000
abbrev rqDescAddr : Dword := 0x003FFFFE

abbrev rqHlnt : Fin 32 := 0
abbrev rqHctc : Fin 32 := 1
abbrev rqCmdRefl : Fin 32 := 2
abbrev rqCmdRefh : Fin 32 := 3
abbrev rqCmdUn : Fin 32 := 4
abbrev rqCmdOpc : Fin 32 := 6
abbrev rqCmdMod : Fin 32 := 7
abbrev rqRspRefl : Fin 32 := 2
abbrev rqRspRefh : Fin 32 := 3
abbrev rqRspUn : Fin 32 := 4
abbrev rqRspOpf : Fin 32 := 6
abbrev rqRspSts : Fin 32 := 7
abbrev rqGcsRefl : Fin 32 := 8
abbrev rqGcsRefh : Fin 32 := 9
abbrev rqGcsStsl : Fin 32 := 10
abbrev rqGcsStsh : Fin 32 := 11
abbrev rqGusMlun : Fin 32 := 8
abbrev rqGusUfl : Fin 32 := 9
abbrev rqGusRsvl : Fin 32 := 10
abbrev rqGusRsvh : Fin 32 := 11
abbrev rqGusUida : Fin 32 := 12
abbrev rqGusMedl : Fin 32 := 16
abbrev rqGusShun : Fin 32 := 18
abbrev rqGusShst : Fin 32 := 19
abbrev rqGusTrk : Fin 32 := 20
abbrev rqGusGrp : Fin 32 := 21
abbrev rqGusCyl : Fin 32 := 22
abbrev rqGusUver : Fin 32 := 23
abbrev rqGusRcts : Fin 32 := 24
abbrev rqGusRbsc : Fin 32 := 25
abbrev rqOnlMlun : Fin 32 := 8
abbrev rqOnlUfl : Fin 32 := 9
abbrev rqOnlRsvl : Fin 32 := 10
abbrev rqOnlRsvh : Fin 32 := 11
abbrev rqOnlUida : Fin 32 := 12
abbrev rqOnlMedl : Fin 32 := 16
abbrev rqOnlShun : Fin 32 := 18
abbrev rqOnlShst : Fin 32 := 19
abbrev rqOnlSizl : Fin 32 := 20
abbrev rqOnlVsnl : Fin 32 := 22
abbrev rqSccMsv : Fin 32 := 8
abbrev rqSccCfl : Fin 32 := 9
abbrev rqSccTmo : Fin 32 := 10
abbrev rqSccVer : Fin 32 := 11
abbrev rqSccCida : Fin 32 := 12
abbrev rqSccCidb : Fin 32 := 13
abbrev rqSccCidc : Fin 32 := 14
abbrev rqSccCidd : Fin 32 := 15
abbrev rqSccMbcl : Fin 32 := 16
abbrev rqSccMbch : Fin 32 := 17
abbrev rqRwBcl : Fin 32 := 8
abbrev rqRwBal : Fin 32 := 10
abbrev rqRwLbnl : Fin 32 := 16

abbrev rqRspLnt : Word := 12
abbrev rqUnaLnt : Word := 32
abbrev rqGcsLnt : Word := 20
abbrev rqGusLntD : Word := 48
abbrev rqOnlLnt : Word := 44
abbrev rqSccLnt : Word := 32
abbrev rqRwLntD : Word := 32

abbrev rqOpGcs : Word := 0o2
abbrev rqOpGus : Word := 0o3
abbrev rqOpScc : Word := 0o4
abbrev rqOpAvl : Word := 0o10
abbrev rqOpOnl : Word := 0o11
abbrev rqOpSuc : Word := 0o12
abbrev rqOpAcc : Word := 0o20
abbrev rqOpCmp : Word := 0o40
abbrev rqOpRd : Word := 0o41
abbrev rqOpWr : Word := 0o42
abbrev rqOpAva : Word := 0o100
abbrev rqOpEnd : Word := 0o200

abbrev rqMdNxu : Word := 1
abbrev rqMdSwp : Word := 4

abbrev rqStSuc : Word := 0
abbrev rqStCmd : Word := 1
abbrev rqStOfl : Word := 3
abbrev rqStAvl : Word := 4
abbrev rqStWpr : Word := 6
abbrev rqStCmp : Word := 7
abbrev rqStHst : Word := 9
abbrev rqStSxc : Word := 18
abbrev rqSbOflNv : Word := 1 <<< 5
abbrev rqSbWprSw : Word := 128 <<< 5
abbrev rqSbWprHw : Word := 256 <<< 5
abbrev rqSbSucOn : Word := 8 <<< 5
abbrev rqSbHstOa : Word := 1 <<< 5
abbrev rqSbHstOc : Word := 2 <<< 5
abbrev rqSbHstNxm : Word := 3 <<< 5
abbrev rqIOpcd : Word := 8 <<< 8
abbrev rqIBcnt : Word := 12 <<< 8
abbrev rqILbn : Word := 28 <<< 8
abbrev rqIVrsn : Word := 12 <<< 8
abbrev rqEfSxc : Word := 0x10

abbrev rqCfRpl : Word := 0x8000
abbrev rqCfAtn : Word := 0x80
abbrev rqUfWph : Word := 0x2000
abbrev rqUfWps : Word := 0x1000
abbrev rqUfRmv : Word := 0x80
abbrev rqUfRpl : Word := 0x8000
abbrev rqUidDisk : Word := 2
abbrev rqCtrlClass : Word := 1
abbrev rqCtrlModelQbus : Word := 19
abbrev rqCtrlModelUbus : Word := 6
abbrev rqHver : Word := 1
abbrev rqSver : Word := 3

/-! ## Drives and units -/

/-- `rq_drive_t` -/
structure RqDrive where
  name : String
  lbn : Dword
  model : Word
  media : Dword
  sect : Word
  tpg : Word
  gpc : Word
  rcts : Word
  removable : Bool

def rqDefaultDrive : RqDrive := ⟨"RD54", 311200, 13, 0x25644036, 17, 15, 1, 7, false⟩

def rqDrives : List RqDrive :=
  [rqDefaultDrive,
   ⟨"RD53", 138672, 9, 0x25644035, 17, 8, 1, 5, false⟩,
   ⟨"RD52", 60480, 8, 0x25644034, 17, 8, 1, 4, false⟩,
   ⟨"RD51", 21600, 6, 0x25644033, 18, 4, 1, 36, false⟩,
   ⟨"RD31", 41560, 12, 0x2564401F, 17, 4, 1, 3, false⟩,
   ⟨"RD32", 83204, 15, 0x25644020, 17, 6, 1, 4, false⟩,
   ⟨"RA60", 400176, 4, 0x22A4103C, 42, 6, 1, 1008, true⟩,
   ⟨"RA70", 547041, 18, 0x25641046, 33, 11, 1, 198, false⟩,
   ⟨"RA80", 237212, 1, 0x25641050, 31, 14, 1, 0, false⟩,
   ⟨"RA81", 891072, 5, 0x25641051, 51, 14, 1, 2856, false⟩,
   ⟨"RA82", 1216665, 11, 0x25641052, 57, 15, 1, 3420, false⟩,
   ⟨"RA71", 1367310, 40, 0x25641047, 51, 14, 1, 1428, false⟩,
   ⟨"RX50", 800, 7, 0x25658032, 10, 5, 16, 0, true⟩,
   ⟨"RX33", 2400, 10, 0x25658021, 15, 2, 1, 0, true⟩]

/-- The distance the search of `rq_pick_drive` compares. -/
def rqDriveDiff (blocks : Dword) (d : RqDrive) : Dword := if d.lbn < blocks then blocks - d.lbn else d.lbn - blocks

/-- The first drive that is nearest in size. -/
def rqPickDrive (blocks : Dword) : RqDrive :=
  rqDrives.foldl (fun best d => if rqDriveDiff blocks d < rqDriveDiff blocks best then d else best) rqDefaultDrive

/-- `rq_unit_t` -/
structure RqUnit where
  fp : Option DiskFile := none
  readOnly : Bool := false
  online : Bool := false
  swWriteProtect : Bool := false
  unaPending : Bool := false
  drive : Option RqDrive := none
  fileBlocks : Dword := 0
  blocks : Dword := 0

def rqDriveForUnit (u : Option RqUnit) : RqDrive := (u.bind RqUnit.drive).getD rqDefaultDrive

/-! ## The controller -/

inductive RqState where
  | s1
  | s1Wrap
  | s2
  | s3
  | s3Ppa
  | s3Ppb
  | s4
  | up
  | dead
  deriving Repr, DecidableEq

/-- `rq_ring_t`. `ioff` is never read. -/
structure RqRing where
  base : Dword := 0
  len : Dword := 0
  idx : Dword := 0
  deriving Repr, DecidableEq

/-- The static variables of the driver. -/
structure Rq11 where
  sa : Word
  saLatch : Word
  s1Host : Word
  comm : Dword
  prgi : Bool
  state : RqState
  irqReq : Bool
  irqEn : Bool
  pollPending : Bool
  cflgs : Word
  credits : Byte
  ubusMode : Bool
  ctrlModel : Word
  cmdRing : RqRing
  rspRing : RqRing
  units : Fin rq11MaxUnits → RqUnit

namespace Rq11

def unitPtr (c : Rq11) (unit : Word) : Option RqUnit :=
  if h : unit.toNat < rq11MaxUnits then some (c.units ⟨unit.toNat, h⟩) else none

def setUnit (c : Rq11) (unit : Word) (u : RqUnit) : Rq11 :=
  if h : unit.toNat < rq11MaxUnits then { c with units := Function.update c.units ⟨unit.toNat, h⟩ u } else c

end Rq11

def rqInitialSa (c : Rq11) : Word := if c.ubusMode then rqS1cCapsUbus else rqS1cCapsQbus

def rqIrqAck (c : Rq11) : Rq11 := { c with irqReq := false }

def rqRaiseIrq (c : Rq11) : Rq11 :=
  if !c.irqEn then c
  else if c.irqReq then c
  else { c with irqReq := true }

def rqFail (code : Word) (c : Rq11) : Rq11 :=
  rqRaiseIrq { c with state := .dead, sa := rqSaEr ||| (code &&& 0x7FF) }

def rq11Reset (c : Rq11) : Rq11 :=
  { c with
    sa := rqInitialSa c, saLatch := 0, s1Host := 0, comm := 0, prgi := false, state := .s1, irqReq := false,
    irqEn := false, pollPending := false, cflgs := rqCfRpl, credits := 7, cmdRing := {}, rspRing := {},
    units := fun unit => { c.units unit with online := false, swWriteProtect := false, unaPending := false } }

/-- `rq11_init` with nothing attached; `model` is the model number of the environment. -/
def rq11Init (ubusMode : Bool) (model : Option Byte) : Rq11 :=
  rq11Reset
    { sa := 0, saLatch := 0, s1Host := 0, comm := 0, prgi := false, state := .s1, irqReq := false, irqEn := false,
      pollPending := false, cflgs := 0, credits := 0, ubusMode := ubusMode,
      ctrlModel := (model.map (BitVec.setWidth 16)).getD (if ubusMode then rqCtrlModelUbus else rqCtrlModelQbus),
      cmdRing := {}, rspRing := {}, units := fun _ => {} }

/-- `image` is the file that opens and whether for reading only, `none` if none does. -/
def rq11OpenImageUnit (unit : Fin rq11MaxUnits) (image : Option (DiskFile × Bool)) (c : Rq11) : Rq11 :=
  match image with
  | none => { c with units := Function.update c.units unit { c.units unit with fp := none, readOnly := true } }
  | some (file, readOnly) =>
    let fileBlocks := BitVec.ofNat 32 (file.length / rqNumby)
    let drive := rqPickDrive fileBlocks
    { c with
      units := Function.update c.units unit
        ⟨some file, readOnly, false, false, true, some drive, fileBlocks, drive.lbn⟩
      pollPending := true }

def rq11CloseImage (c : Rq11) : Rq11 := { c with units := fun _ => {}, pollPending := false }

/-! ## Packets -/

/-- The words of a command or response packet. -/
abbrev RqPacket := Fin 32 → Word

/-- The assignments to `rsp` in their order. -/
def rqAssign (rsp : RqPacket) (fields : List (Fin 32 × Word)) : RqPacket :=
  fields.foldl (fun rsp field => Function.update rsp field.1 field.2) rsp

def rqGetU32 (pkt : RqPacket) (idx : Fin 32) : Dword :=
  (pkt idx).setWidth 32 ||| ((pkt (idx + 1)).setWidth 32 <<< 16)

def rqPutU32 (idx : Fin 32) (v : Dword) : List (Fin 32 × Word) :=
  [(idx, v.setWidth 16), (idx + 1, (v >>> 16).setWidth 16)]

/-- Sequential messages of connection MSCP. -/
def rqBuildHctc : Word := (0 <<< 4) ||| (0 <<< 8)

def rqCurrentUnitFlags : Option RqUnit → Word
  | none => 0
  | some u =>
    rqUfRpl ||| (if (rqDriveForUnit (some u)).removable then rqUfRmv else 0) |||
      (if u.readOnly then rqUfWph else 0) ||| (if u.swWriteProtect then rqUfWps else 0)

def rqApplyOnlFlags (cmd : RqPacket) (u : RqUnit) : RqUnit :=
  { u with swWriteProtect := cmd rqCmdMod &&& rqMdSwp ≠ 0 ∧ cmd rqOnlUfl &&& rqUfWps ≠ 0 }

def rqResponseFlagsForStatus (status : Word) : Word := if status &&& 0x1F = rqStSxc then rqEfSxc else 0

def rqPrepareRsp (cmd : RqPacket) (op flags status len : Word) : RqPacket :=
  rqAssign cmd
    [(rqHlnt, len), (rqHctc, rqBuildHctc), (rqRspRefl, cmd rqCmdRefl), (rqRspRefh, cmd rqCmdRefh),
     (rqRspUn, cmd rqCmdUn), (rqRspOpf, op ||| rqOpEnd ||| (flags <<< 8)), (rqRspSts, status)]

def rqRspFlagsFromStatus (rsp : RqPacket) : RqPacket :=
  rqAssign rsp [(rqRspOpf, rsp rqRspOpf ||| (rqResponseFlagsForStatus (rsp rqRspSts) <<< 8))]

def rqFillUnitId (uidIdx medIdx : Fin 32) (unit : Word) (drv : RqDrive) : List (Fin 32 × Word) :=
  [(uidIdx, unit), (uidIdx + 1, 0), (uidIdx + 2, 0), (uidIdx + 3, drv.model ||| (rqUidDisk <<< 8))] ++
    rqPutU32 medIdx drv.media

def rqFillOnlineCommon (u : RqUnit) (unit : Word) : List (Fin 32 × Word) :=
  [(rqOnlMlun, unit), (rqOnlUfl, rqCurrentUnitFlags (some u)), (rqOnlRsvl, 0), (rqOnlRsvh, 0)] ++
    rqFillUnitId rqOnlUida rqOnlMedl unit (rqDriveForUnit (some u)) ++ [(rqOnlShun, unit), (rqOnlShst, 0)]

/-- What a unit that goes online tells behind the common part. -/
def rqFillOnlineSize (u : RqUnit) (unit : Word) : List (Fin 32 × Word) :=
  rqPutU32 rqOnlSizl u.blocks ++ rqPutU32 rqOnlVsnl (0o1234 + unit.setWidth 32)

/-- The message grants the credits that are left, up to 14, and the one of the command it answers. -/
def rqApplyCredits (rsp : RqPacket) (c : Rq11) : RqPacket × Rq11 :=
  if rsp rqRspOpf &&& rqOpEnd = 0 then (rsp, c)
  else if (rsp rqHctc >>> 4) &&& 0xF ≠ 0 then (rsp, c)
  else
    let cr : Byte := if 14 ≤ c.credits then 14 else c.credits
    (rqAssign rsp [(rqHctc, rsp rqHctc ||| (cr.setWidth 16 + 1))], { c with credits := c.credits - cr })

/-! ## Commands without transfer -/

def rqCmdGcs (cmd : RqPacket) : RqPacket :=
  rqAssign (rqPrepareRsp cmd rqOpGcs 0 rqStSuc rqGcsLnt)
    [(rqGcsRefl, 0), (rqGcsRefh, 0), (rqGcsStsl, 0), (rqGcsStsh, 0)]

def rqCmdScc (cmd : RqPacket) (c : Rq11) : RqPacket × Rq11 :=
  if cmd rqSccMsv ≠ 0 then
    (rqRspFlagsFromStatus (rqPrepareRsp cmd rqOpScc 0 (rqStCmd ||| rqIVrsn) rqRspLnt), c)
  else
    let cflgs := (c.cflgs &&& rqCfRpl) ||| cmd rqSccCfl
    (rqAssign (rqPrepareRsp cmd rqOpScc 0 rqStSuc rqSccLnt)
      [(rqSccCfl, cflgs), (rqSccTmo, 0o170), (rqSccVer, (rqHver <<< 8) ||| rqSver), (rqSccCida, 0), (rqSccCidb, 0),
       (rqSccCidc, 0), (rqSccCidd, c.ctrlModel ||| (rqCtrlClass <<< 8)), (rqSccMbcl, 0), (rqSccMbch, 0)],
     { c with cflgs := cflgs })

def rqCmdGus (cmd : RqPacket) (c : Rq11) : RqPacket :=
  let unit :=
    if cmd rqCmdMod &&& rqMdNxu ≠ 0 ∧ rq11MaxUnits ≤ (cmd rqCmdUn).toNat then 0 else cmd rqCmdUn
  let u := c.unitPtr unit
  let drv := rqDriveForUnit u
  let rbpar : Word := if drv.rcts ≠ 0 then 1 else 0
  let status := match u with
    | none => rqStOfl ||| rqSbOflNv
    | some u => if u.fp.isNone then rqStOfl ||| rqSbOflNv else if !u.online then rqStAvl else rqStSuc
  rqRspFlagsFromStatus <| rqAssign (rqPrepareRsp cmd rqOpGus 0 status rqGusLntD) <|
    [(rqRspUn, unit), (rqGusMlun, unit), (rqGusUfl, rqCurrentUnitFlags u), (rqGusRsvl, 0), (rqGusRsvh, 0)] ++
    rqFillUnitId rqGusUida rqGusMedl unit drv ++
    [(rqGusShun, unit), (rqGusShst, 0), (rqGusTrk, drv.sect), (rqGusGrp, drv.tpg), (rqGusCyl, drv.gpc),
     (rqGusUver, 0), (rqGusRcts, drv.rcts), (rqGusRbsc, rbpar ||| (rbpar <<< 8))]

/-- The unit a command names and its image, if one is attached. -/
def rqAttached (c : Rq11) (unit : Word) : Option (RqUnit × DiskFile) :=
  (c.unitPtr unit).bind fun u => u.fp.map fun f => (u, f)

def rqCmdAvl (cmd : RqPacket) (c : Rq11) : RqPacket × Rq11 :=
  match rqAttached c (cmd rqCmdUn) with
  | none => (rqRspFlagsFromStatus (rqPrepareRsp cmd rqOpAvl 0 (rqStOfl ||| rqSbOflNv) rqRspLnt), c)
  | some (u, _) =>
    (rqRspFlagsFromStatus (rqPrepareRsp cmd rqOpAvl 0 rqStSuc rqRspLnt),
     c.setUnit (cmd rqCmdUn) { u with online := false, swWriteProtect := false })

/-- The response of a command on a unit that may be missing. -/
def rqOnlineRsp (cmd : RqPacket) (op status : Word) (u : Option RqUnit) : RqPacket :=
  rqRspFlagsFromStatus <| rqAssign (rqPrepareRsp cmd op 0 status rqOnlLnt) <|
    match u with
    | none => []
    | some u => rqFillOnlineCommon u (cmd rqCmdUn) ++ rqFillOnlineSize u (cmd rqCmdUn)

def rqCmdOnl (cmd : RqPacket) (c : Rq11) : RqPacket × Rq11 :=
  match rqAttached c (cmd rqCmdUn) with
  | none => (rqOnlineRsp cmd rqOpOnl (rqStOfl ||| rqSbOflNv) (c.unitPtr (cmd rqCmdUn)), c)
  | some (u, _) =>
    if u.online then (rqOnlineRsp cmd rqOpOnl (rqStSuc ||| rqSbSucOn) (some u), c)
    else
      let u := rqApplyOnlFlags cmd { u with online := true }
      (rqOnlineRsp cmd rqOpOnl rqStSuc (some u), c.setUnit (cmd rqCmdUn) u)

def rqCmdSuc (cmd : RqPacket) (c : Rq11) : RqPacket × Rq11 :=
  match rqAttached c (cmd rqCmdUn) with
  | none => (rqOnlineRsp cmd rqOpSuc (rqStOfl ||| rqSbOflNv) (c.unitPtr (cmd rqCmdUn)), c)
  | some (u, _) =>
    let u := rqApplyOnlFlags cmd u
    (rqOnlineRsp cmd rqOpSuc rqStSuc (some u), c.setUnit (cmd rqCmdUn) u)

def rqCmdAccess (cmd : RqPacket) : RqPacket := rqRspFlagsFromStatus (rqPrepareRsp cmd rqOpAcc 0 rqStSuc rqRspLnt)

/-! ## Transfers -/

/-- A read behind the end of the file is filled with zeros. -/
def rqReadBlock (f : DiskFile) (lbn : Dword) : List Byte :=
  (List.range rqNumby).map fun i => f.bytes ((lbn * 512).toNat + i)

/-- A short last block is filled with zeros. -/
def rqWriteBlock (f : DiskFile) (lbn : Dword) (buf : List Byte) : DiskFile :=
  f.writeAt (lbn * 512).toNat rqNumby (Buffer.ofList buf)

/-- The status that ends a transfer before its first block. -/
def rqRwRefusal (u : Option RqUnit) (op : Word) (bc ba lbn : Dword) : Option Word :=
  match u with
  | none => some (rqStOfl ||| rqSbOflNv)
  | some u =>
    let blocks := (bc + 511) / 512
    if u.fp.isNone then some (rqStOfl ||| rqSbOflNv)
    else if !u.online then some rqStAvl
    else if ba &&& 1 ≠ 0 then some (rqStHst ||| rqSbHstOa)
    else if bc &&& 1 ≠ 0 then some (rqStHst ||| rqSbHstOc)
    else if bc &&& 0xF0000000 ≠ 0 then some (rqStCmd ||| rqIBcnt)
    else if bc = 0 then some rqStSuc
    else if u.blocks ≤ lbn ∧ u.blocks + (rqDriveForUnit (some u)).rcts.setWidth 32 ≤ lbn then
      some (rqStCmd ||| rqILbn)
    else if u.blocks ≤ lbn ∧ bc ≠ 512 then some (rqStCmd ||| rqIBcnt)
    else if lbn < u.blocks ∧ u.blocks < lbn + blocks then some (rqStCmd ||| rqIBcnt)
    else if op = rqOpWr ∧ u.blocks ≤ lbn then some (rqStCmd ||| rqILbn)
    else if op = rqOpWr ∧ u.swWriteProtect then some (rqStWpr ||| rqSbWprSw)
    else if op = rqOpWr ∧ u.readOnly then some (rqStWpr ||| rqSbWprHw)
    else none

section Transfer

variable {σ : Type} (dma : Dma σ)

/-- One round of the transfer loop: the status, which is success if the loop goes on. -/
def rqRwBlock (op : Word) (lbn ba chunk : Dword) (f : DiskFile) (s : σ) : Word × DiskFile × σ :=
  if op = rqOpRd then
    match dma.writeBytes s ba ((rqReadBlock f lbn).take chunk.toNat) with
    | (true, s) => (rqStSuc, f, s)
    | (false, s) => (rqStHst ||| rqSbHstNxm, f, s)
  else if op = rqOpCmp then
    match dma.readBytes s ba chunk.toNat with
    | none => (rqStHst ||| rqSbHstNxm, f, s)
    | some hostBuf => (if hostBuf ≠ (rqReadBlock f lbn).take chunk.toNat then rqStCmp else rqStSuc, f, s)
  else
    match dma.readBytes s ba chunk.toNat with
    | none => (rqStHst ||| rqSbHstNxm, f, s)
    | some buf => (rqStSuc, rqWriteBlock f lbn buf, s)

/-- The transfer loop, with the bytes done. -/
def rqRwBlocks (op : Word) : (blocks : Nat) → (lbn ba done remaining : Dword) → DiskFile → σ →
    Word × Dword × DiskFile × σ
  | 0, _, _, done, _, f, s => (rqStSuc, done, f, s)
  | n + 1, lbn, ba, done, remaining, f, s =>
    let chunk := if remaining < 512 then remaining else 512
    match rqRwBlock dma op lbn (ba + done) chunk f s with
    | (status, f, s) =>
      if status ≠ rqStSuc then (status, done, f, s)
      else rqRwBlocks op n (lbn + 1) ba (done + chunk) (remaining - chunk) f s

/-- The response of `rq_cmd_rw_common`. -/
def rqRwRsp (cmd : RqPacket) (op status : Word) (done : Dword) : RqPacket :=
  rqRspFlagsFromStatus <| rqAssign (rqPrepareRsp cmd op 0 0 rqRwLntD) <|
    rqPutU32 rqRwBcl done ++ rqPutU32 rqRwLbnl (rqGetU32 cmd rqRwLbnl) ++ [(rqRspSts, status)]

def rqCmdRwCommon (cmd : RqPacket) (op : Word) (c : Rq11) (s : σ) : RqPacket × Rq11 × σ :=
  let unit := cmd rqCmdUn
  let bc := rqGetU32 cmd rqRwBcl
  let ba := rqGetU32 cmd rqRwBal
  let lbn := rqGetU32 cmd rqRwLbnl
  match rqRwRefusal (c.unitPtr unit) op bc ba lbn, rqAttached c unit with
  | none, some (u, f) =>
    let (status, done, f, s) := rqRwBlocks dma op ((bc + 511) / 512).toNat lbn ba 0 bc f s
    (rqRwRsp cmd op status done, c.setUnit unit { u with fp := some f }, s)
  | status, _ => (rqRwRsp cmd op (status.getD rqStSuc) 0, c, s)

def rqProcessCommand (cmd : RqPacket) (c : Rq11) (s : σ) : RqPacket × Rq11 × σ :=
  let op := cmd rqCmdOpc &&& 0xFF
  if op = rqOpGcs then (rqCmdGcs cmd, c, s)
  else if op = rqOpScc then let (rsp, c) := rqCmdScc cmd c; (rsp, c, s)
  else if op = rqOpGus then (rqCmdGus cmd c, c, s)
  else if op = rqOpAvl then let (rsp, c) := rqCmdAvl cmd c; (rsp, c, s)
  else if op = rqOpOnl then let (rsp, c) := rqCmdOnl cmd c; (rsp, c, s)
  else if op = rqOpSuc then let (rsp, c) := rqCmdSuc cmd c; (rsp, c, s)
  else if op = rqOpAcc then (rqCmdAccess cmd, c, s)
  else if op = rqOpCmp then rqCmdRwCommon dma cmd rqOpCmp c s
  else if op = rqOpRd then rqCmdRwCommon dma cmd rqOpRd c s
  else if op = rqOpWr then rqCmdRwCommon dma cmd rqOpWr c s
  else (rqRspFlagsFromStatus (rqPrepareRsp cmd op 0 (rqStCmd ||| rqIOpcd) rqRspLnt), c, s)

end Transfer

/-! ## Rings -/

def rqRingSlotAddr (ring : RqRing) : Dword := ring.base + ring.idx

def rqRingAdvance (ring : RqRing) : RqRing :=
  if ring.len = 0 then ring
  else if ring.idx + 4 ≥ ring.len then { ring with idx := 0 }
  else { ring with idx := ring.idx + 4 }

/-- What `rq_ring_peek_owned` finds: memory that does not answer, nothing, or a descriptor in its slot. -/
inductive RqPeek where
  | nxm
  | empty
  | owned (desc slot : Dword)

/-- `rq_cmd_ring`, `rq_rsp_ring` -/
inductive RqWhich where
  | cmd
  | rsp
  deriving DecidableEq

/-- The interrupt word of a ring, from the end of the words in front of the rings. -/
def RqWhich.commOff : RqWhich → Int
  | .cmd => rqSaCommCi
  | .rsp => rqSaCommRi

/-- The results -1, 0 and 1 of a round of the poll. -/
inductive RqRc where
  | failed
  | idle
  | done
  deriving DecidableEq

namespace Rq11

def ring (c : Rq11) : RqWhich → RqRing
  | .cmd => c.cmdRing
  | .rsp => c.rspRing

def setRing (c : Rq11) (r : RqRing) : RqWhich → Rq11
  | .cmd => { c with cmdRing := r }
  | .rsp => { c with rspRing := r }

end Rq11

section Rings

variable {σ : Type} (dma : Dma σ)

def rqRingPeekOwned (ring : RqRing) (s : σ) : RqPeek :=
  if ring.len = 0 then .empty
  else
    match dma.read32Checked s (rqRingSlotAddr ring) with
    | none => .nxm
    | some desc => if desc &&& rqDescOwn = 0 then .empty else .owned desc (rqRingSlotAddr ring)

def rqWriteIntrFlag (c : Rq11) (off : Int) (s : σ) : σ :=
  if c.comm = 0 then s
  else if c.comm.toInt + off < 0 then s
  else (dma.write16Checked s (BitVec.ofInt 32 (c.comm.toInt + off)) 1).2

def rqReleaseDesc (which : RqWhich) (slotAddr desc : Dword) (c : Rq11) (s : σ) : Bool × Rq11 × σ :=
  match dma.write32Checked s slotAddr ((desc &&& ~~~rqDescOwn) ||| rqDescF) with
  | (false, s) => (false, c, s)
  | (true, s) =>
    let s := rqWriteIntrFlag dma c which.commOff s
    (true, c.setRing (rqRingAdvance (c.ring which)) which, s)

/-- The words of a response that go to the host. -/
def rqRspWords (rsp : RqPacket) : List Word := (List.ofFn rsp).take (((rsp rqHlnt).setWidth 32 + 4 : Dword) / 2).toNat

def rqPrepareUna (unit : Fin rq11MaxUnits) (c : Rq11) : RqPacket :=
  let u := some (c.units unit)
  let n := BitVec.ofNat 16 unit
  rqAssign (fun _ => 0) <|
    [(rqHlnt, rqUnaLnt), (rqHctc, rqBuildHctc), (rqRspRefl, 0), (rqRspRefh, 0), (rqRspUn, n), (rqRspOpf, rqOpAva),
     (rqRspSts, rqStSuc), (rqGusUfl, rqCurrentUnitFlags u)] ++ rqFillUnitId rqGusUida rqGusMedl n (rqDriveForUnit u)

def rqPostAttentionUna (c : Rq11) (s : σ) : RqRc × Rq11 × σ :=
  if c.cflgs &&& rqCfAtn = 0 then (.idle, c, s)
  else
    match (List.finRange rq11MaxUnits).find? fun unit => (c.units unit).unaPending with
    | none => (.idle, c, s)
    | some unit =>
      match rqRingPeekOwned dma c.rspRing s with
      | .nxm | .empty => (.idle, c, s)
      | .owned desc slot =>
        if desc &&& rqDescAddr < 4 then (.failed, rqFail 0o10 c, s)
        else
          let (rsp, c) := rqApplyCredits (rqPrepareUna unit c) c
          match dma.writeWords s ((desc &&& rqDescAddr) - 4) (rqRspWords rsp) with
          | (false, s) => (.failed, rqFail 0o2 c, s)
          | (true, s) =>
            match rqReleaseDesc dma .rsp slot desc c s with
            | (false, c, s) => (.failed, rqFail 0o10 c, s)
            | (true, c, s) =>
              let units := Function.update c.units unit { c.units unit with unaPending := false }
              (.done, rqRaiseIrq { c with units := units }, s)

/-- The rest of a round, with a command and room for its response. -/
def rqAnswer (cmdDesc cmdSlot rspDesc rspSlot : Dword) (c : Rq11) (s : σ) : RqRc × Rq11 × σ :=
  let cmdAddr := cmdDesc &&& rqDescAddr
  let rspAddr := rspDesc &&& rqDescAddr
  if cmdAddr < 4 ∨ rspAddr < 4 then (.failed, rqFail 0o10 c, s)
  else
    match dma.readWords s (cmdAddr - 4) 32 with
    | none => (.failed, rqFail 0o1 c, s)
    | some words =>
      let (rsp, c, s) := rqProcessCommand dma (fun i => words.getD i 0) c s
      let (rsp, c) := rqApplyCredits rsp c
      match dma.writeWords s (rspAddr - 4) (rqRspWords rsp) with
      | (false, s) => (.failed, rqFail 0o2 c, s)
      | (true, s) =>
        match rqReleaseDesc dma .cmd cmdSlot cmdDesc c s with
        | (false, c, s) => (.failed, rqFail 0o10 c, s)
        | (true, c, s) =>
          match rqReleaseDesc dma .rsp rspSlot rspDesc c s with
          | (false, c, s) => (.failed, rqFail 0o10 c, s)
          | (true, c, s) => (.done, rqRaiseIrq c, s)

def rqProcessOne (c : Rq11) (s : σ) : RqRc × Rq11 × σ :=
  match rqRingPeekOwned dma c.cmdRing s with
  | .nxm => (.failed, c, s)
  | .empty => (.idle, c, s)
  | .owned cmdDesc cmdSlot =>
    match rqRingPeekOwned dma c.rspRing s with
    | .nxm => (.failed, c, s)
    | .empty => (.idle, c, s)
    | .owned rspDesc rspSlot => rqAnswer dma cmdDesc cmdSlot rspDesc rspSlot c s

/-- The loop of `rq_service_poll`. -/
def rqServiceRounds : (budget : Nat) → Rq11 → σ → Rq11 × σ
  | 0, c, s => (c, s)
  | budget + 1, c, s =>
    match rqPostAttentionUna dma c s with
    | (.done, c, s) => rqServiceRounds budget c s
    | (.failed, c, s) => ({ c with pollPending := false }, s)
    | (.idle, c, s) =>
      match rqProcessOne dma c s with
      | (.done, c, s) => rqServiceRounds budget c s
      | (_, c, s) => ({ c with pollPending := false }, s)

def rqServicePoll (c : Rq11) (s : σ) : Rq11 × σ := rqServiceRounds dma 8 c s

def rq11Poll (c : Rq11) (s : σ) : Rq11 × σ :=
  if c.state ≠ .up then (c, s)
  else if !c.pollPending then (c, s)
  else rqServicePoll dma c s

/-! ## Initialization of the port -/

def rqRingDescCount (s1 : Word) (shift : Nat) : Dword := 1 <<< ((s1 >>> shift) &&& rqS1hMCq).toNat

/-- Zeros from the interrupt words in front of the rings to their end. -/
def rqClearCommArea (c : Rq11) (s : σ) : Bool × σ :=
  if c.comm < 4 then (false, s)
  else
    let start := c.comm.toInt + rqSaCommCi
    let stop := c.cmdRing.base + c.cmdRing.len
    if start < 0 ∨ stop < BitVec.ofInt 32 start then (false, s)
    else
      dma.writeWords s (BitVec.ofInt 32 start)
        (List.replicate (((stop - BitVec.ofInt 32 start).toNat + 1) / 2) 0)

def rqStep4 (c : Rq11) (s : σ) : Rq11 × σ :=
  let rspRing : RqRing := ⟨c.comm, rqRingDescCount c.s1Host rqS1hVRq * 4, 0⟩
  let cmdRing : RqRing := ⟨rspRing.base + rspRing.len, rqRingDescCount c.s1Host rqS1hVCq * 4, 0⟩
  let c := { c with rspRing := rspRing, cmdRing := cmdRing }
  match rqClearCommArea dma c s with
  | (false, s) => (rqFail 0o7 c, s)
  | (true, s) => (rqRaiseIrq { c with sa := rqSaS4 ||| (c.ctrlModel <<< 4) ||| rqSver, state := .s4 }, s)

def rqHandleIpRead (c : Rq11) (s : σ) : Rq11 × σ :=
  match c.state with
  | .s3Ppb => rqStep4 dma c s
  | .up => ({ c with pollPending := true }, s)
  | _ => (c, s)

def rqHandleSaWrite (v : Word) (c : Rq11) (s : σ) : Rq11 × σ :=
  match c.state with
  | .s1 | .s1Wrap =>
    if v &&& rqS1hWr ≠ 0 then ({ c with sa := v, state := .s1Wrap }, s)
    else if v &&& rqS1hVl = 0 then (c, s)
    else
      (rqRaiseIrq
        { c with
          s1Host := v, irqEn := v &&& rqS1hIe ≠ 0, sa := rqSaS2 ||| ((v >>> 8) &&& 0xFF), state := .s2 }, s)
  | .s2 =>
    (rqRaiseIrq
      { c with
        comm := (v &&& rqS2hClo).setWidth 32, prgi := v &&& rqS2hPi ≠ 0, sa := rqSaS3 ||| (c.s1Host &&& 0xFF),
        state := .s3 }, s)
  | .s3 =>
    let c := { c with comm := c.comm ||| ((v &&& rqS3hChi).setWidth 32 <<< 16) }
    if v &&& rqS3hPp ≠ 0 then (rqRaiseIrq { c with sa := 0, state := .s3Ppa }, s)
    else rqStep4 dma c s
  | .s3Ppa => if v = 0 then ({ c with state := .s3Ppb }, s) else (c, s)
  | .s4 => if v &&& rqS4hGo ≠ 0 then ({ c with state := .up, sa := 0 }, s) else (c, s)
  | .s3Ppb | .up | .dead => (c, s)

/-! ## Registers -/

def rq11Read8 (addr : Word) (c : Rq11) (s : σ) : Byte × Rq11 × σ :=
  match (addr &&& 3).toNat with
  | 2 => (c.sa.setWidth 8, c, s)
  | 3 => ((c.sa >>> 8).setWidth 8, c, s)
  | _ => (0, rqHandleIpRead dma c s)

/-- The high byte of SA completes a word. -/
def rq11Write8 (addr : Word) (v : Byte) (c : Rq11) (s : σ) : Rq11 × σ :=
  match (addr &&& 3).toNat with
  | 2 => ({ c with saLatch := (c.saLatch &&& 0xFF00) ||| v.setWidth 16 }, s)
  | 3 =>
    let latch := (c.saLatch &&& 0xFF) ||| (v.setWidth 16 <<< 8)
    rqHandleSaWrite dma latch { c with saLatch := latch } s
  | _ => (rq11Reset c, s)

end Rings

/-! ## On the bus -/

def rqDmaMapAddr (ubusMode : Bool) (machine : BusMachine) (addr : Dword) : Dword :=
  if ubusMode then addr &&& 0o777777
  else match machine with
    | .pdp1184 => addr &&& 0o17777777
    | .lsi11x1104 => addr &&& 0o777777

variable {δ : Type}

def rqDma (ubusMode : Bool) : Dma (Bus δ) where
  ram b addr :=
    b.busRangeIsRam (rqDmaMapAddr ubusMode b.cfg.machine addr) 1 &&
      !b.busIsNxm (rqDmaMapAddr ubusMode b.cfg.machine addr)
  read8 b addr := ((b.busRead8 (rqDmaMapAddr ubusMode b.cfg.machine addr)).map Prod.fst).getD 0
  write8 b addr v := (b.busWrite8 (rqDmaMapAddr ubusMode b.cfg.machine addr) v).getD b
  ram_write8 b addr v h := by
    have hram : b.busRangeIsRam (rqDmaMapAddr ubusMode b.cfg.machine addr) 1 = true := by
      simp only [Bool.and_eq_true] at h
      exact h.1
    cases hwrite : b.busWrite8 (rqDmaMapAddr ubusMode b.cfg.machine addr) v with
    | none => rfl
    | some b' =>
      obtain ⟨ram, rfl⟩ := decode_busWrite8 hram hwrite
      rfl

/-- The byte of RAM that an address of the controller is. -/
def rqCell (ubusMode : Bool) (b : Bus δ) (addr : Dword) : Option Nat :=
  let pa := rqDmaMapAddr ubusMode b.cfg.machine addr
  if (rqDma ubusMode).ram b addr ∧ pa.toNat < b.cfg.ramBytes then some pa.toNat else none

theorem rqCell_eq_some {ubusMode : Bool} {b : Bus δ} {addr : Dword} {k : Nat} (h : rqCell ubusMode b addr = some k) :
    (rqDma ubusMode).ram b addr = true ∧ (rqDmaMapAddr ubusMode b.cfg.machine addr).toNat = k ∧
      k < b.cfg.ramBytes := by
  unfold rqCell at h
  by_cases hc : (rqDma ubusMode).ram b addr ∧ (rqDmaMapAddr ubusMode b.cfg.machine addr).toNat < b.cfg.ramBytes
  · rw [if_pos hc] at h
    cases h
    exact ⟨hc.1, rfl, hc.2⟩
  · rw [if_neg hc] at h
    cases h

theorem rqCell_ram {ubusMode : Bool} {b : Bus δ} {addr : Dword} (h : (rqDma ubusMode).ram b addr = true) :
    b.busAddrIsRam (rqDmaMapAddr ubusMode b.cfg.machine addr) = true ∧
      b.ioDecodeAddr (rqDmaMapAddr ubusMode b.cfg.machine addr) = none := by
  have hram : b.busAddrIsRam (rqDmaMapAddr ubusMode b.cfg.machine addr) = true := by
    have hrange := (Bool.and_eq_true _ _ ▸ h : _ ∧ _).1
    simpa [Bus.busRangeIsRam] using hrange
  refine ⟨hram, ?_⟩
  cases hdec : b.ioDecodeAddr (rqDmaMapAddr ubusMode b.cfg.machine addr) with
  | none => rfl
  | some a => rw [Bus.not_ram_of_decoded hdec] at hram; cases hram

theorem rqDma_write8 {ubusMode : Bool} {b : Bus δ} {addr : Dword} {k : Nat} (h : rqCell ubusMode b addr = some k)
    (v : Byte) : (rqDma ubusMode).write8 b addr v = { b with ram := Function.update b.ram k v } := by
  obtain ⟨hram, rfl, hlt⟩ := rqCell_eq_some h
  obtain ⟨haddr, hdec⟩ := rqCell_ram hram
  show (b.busWrite8 _ v).getD b = _
  unfold Bus.busWrite8 Bus.ramWrite
  rw [hdec, if_pos haddr, if_pos hlt]
  rfl

theorem rqDma_read8 {ubusMode : Bool} {b : Bus δ} {addr : Dword} {k : Nat} (h : rqCell ubusMode b addr = some k) :
    (rqDma ubusMode).read8 b addr = b.ram k := by
  obtain ⟨hram, rfl, hlt⟩ := rqCell_eq_some h
  obtain ⟨haddr, hdec⟩ := rqCell_ram hram
  show ((b.busRead8 _).map Prod.fst).getD 0 = _
  unfold Bus.busRead8 Bus.ramRead
  rw [hdec, if_pos haddr, if_pos hlt]
  rfl

/-- The memory of the board behind the controller. -/
def rqCells (ubusMode : Bool) : (rqDma (δ := δ) ubusMode).Cells where
  cell := rqCell ubusMode
  ram_of_cell h := (rqCell_eq_some h).1
  cell_write v h := by
    rw [rqDma_write8 h]
    rfl
  read_write_same {s a b k} v h h' := by
    have hsame : rqCell ubusMode ((rqDma ubusMode).write8 s a v) b = some k := by
      rw [rqDma_write8 h]
      exact h'
    rw [rqDma_read8 hsame, rqDma_write8 h]
    exact Function.update_self _ _ _
  read_write_other {s a b k l} v h h' hne := by
    have hother : rqCell ubusMode ((rqDma ubusMode).write8 s a v) b = some l := by
      rw [rqDma_write8 h]
      exact h'
    rw [rqDma_read8 hother, rqDma_write8 h, rqDma_read8 h']
    exact Function.update_of_ne (Ne.symm hne) _ _

/-- On the LSI-11 board the addresses below the I/O page are the bytes of RAM. -/
theorem rqCell_low {b : Bus δ} (hmachine : b.cfg.machine = .lsi11x1104) (ubusMode : Bool) {addr : Dword}
    (hlow : addr.toNat ≤ 0o157777) : rqCell ubusMode b addr = some addr.toNat := by
  have hmask : addr &&& 0o777777 = addr := by
    apply BitVec.eq_of_toNat_eq
    rw [BitVec.toNat_and, show (0o777777 : Dword).toNat = 2 ^ 18 - 1 from rfl, Nat.and_two_pow_sub_one_eq_mod]
    exact Nat.mod_eq_of_lt (by omega)
  have hmap : rqDmaMapAddr ubusMode b.cfg.machine addr = addr := by
    unfold rqDmaMapAddr
    rw [hmachine]
    cases ubusMode with
    | true => exact hmask
    | false => exact hmask
  have hram : b.busAddrIsRam addr = true := (Bus.busAddrIsRam_lsi11 hmachine).2 (by omega)
  have hreach : (rqDma ubusMode).ram b addr = true := by
    show (b.busRangeIsRam _ 1 && !b.busIsNxm _) = true
    rw [hmap]
    simp [Bus.busRangeIsRam, Bus.busIsNxm, hram]
  have hbytes := Bus.ramBytes_lsi11 hmachine
  unfold rqCell
  simp only [hmap]
  rw [if_pos ⟨hreach, by omega⟩]

end K1801.Lsi11
