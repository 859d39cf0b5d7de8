import K1801.Lsi11.Tap

/-! # TMSCP commands of the TQ11

The static variables of the driver are one record. A command reads a packet of 32 words and answers one.
-/

namespace K1801.Lsi11

open Core Library

abbrev tq11MaxUnits : Nat := 8

instance : NeZero tq11MaxUnits := ⟨by decide⟩

/-- The words of a command or response packet. -/
abbrev TqPacket := Fin 32 → Word

abbrev tqHlnt : Fin 32 := 0
abbrev tqHctc : Fin 32 := 1
abbrev tqCmdRefl : Fin 32 := 2
abbrev tqCmdRefh : Fin 32 := 3
abbrev tqCmdUn : Fin 32 := 4
abbrev tqCmdOpc : Fin 32 := 6
abbrev tqCmdMod : Fin 32 := 7
abbrev tqRspOpf : Fin 32 := 6
abbrev tqRspSts : Fin 32 := 7
abbrev tqSccMsv : Fin 32 := 8
abbrev tqSccCfl : Fin 32 := 9
abbrev tqSccTmo : Fin 32 := 10
abbrev tqSccVer : Fin 32 := 11
abbrev tqSccCidd : Fin 32 := 15
abbrev tqSccMbcl : Fin 32 := 16
abbrev tqGusUfl : Fin 32 := 9
abbrev tqGusUidd : Fin 32 := 15
abbrev tqGusMedl : Fin 32 := 16
abbrev tqGusFmt : Fin 32 := 18
abbrev tqGusMenu : Fin 32 := 20
abbrev tqOnlUfl : Fin 32 := 9
abbrev tqOnlUidd : Fin 32 := 15
abbrev tqOnlMedl : Fin 32 := 16
abbrev tqOnlFmt : Fin 32 := 18
abbrev tqOnlMaxl : Fin 32 := 20
abbrev tqOnlNrec : Fin 32 := 22
abbrev tqFluPosl : Fin 32 := 16
abbrev tqPosRcl : Fin 32 := 8
abbrev tqPosTmcl : Fin 32 := 10
abbrev tqPosPosl : Fin 32 := 16
abbrev tqRwBcl : Fin 32 := 8
abbrev tqRwBal : Fin 32 := 10
abbrev tqRwPosl : Fin 32 := 16
abbrev tqRwRszl : Fin 32 := 18
abbrev tqWtmPosl : Fin 32 := 16

abbrev tqRspLnt : Word := 12
abbrev tqSccLnt : Word := 32
abbrev tqGusLnt : Word := 44
abbrev tqOnlLnt : Word := 44
abbrev tqFluLnt : Word := 32
abbrev tqGcsLnt : Word := 20
abbrev tqSucLnt : Word := 44
abbrev tqPosLnt : Word := 32
abbrev tqRwLnt : Word := 36
abbrev tqWtmLnt : Word := 32

abbrev tqOpGcs : Word := 0o2
abbrev tqOpGus : Word := 0o3
abbrev tqOpScc : Word := 0o4
abbrev tqOpAvl : Word := 0o10
abbrev tqOpOnl : Word := 0o11
abbrev tqOpSuc : Word := 0o12
abbrev tqOpAcc : Word := 0o20
abbrev tqOpFlu : Word := 0o23
abbrev tqOpCmp : Word := 0o40
abbrev tqOpRd : Word := 0o41
abbrev tqOpWr : Word := 0o42
abbrev tqOpWtm : Word := 0o44
abbrev tqOpPos : Word := 0o45
abbrev tqOpAva : Word := 0o100
abbrev tqOpEnd : Word := 0o200

abbrev tqMdUnl : Word := 0x10
abbrev tqMdRev : Word := 0x8
abbrev tqMdRwd : Word := 0x2

abbrev tqEfSxc : Word := 0x10
abbrev tqEfEot : Word := 0x8

abbrev tqStSuc : Word := 0
abbrev tqStCmd : Word := 1
abbrev tqStOfl : Word := 3
abbrev tqStAvl : Word := 4
abbrev tqStWpr : Word := 6
abbrev tqStHst : Word := 9
abbrev tqStBot : Word := 13
abbrev tqStTmk : Word := 14
abbrev tqStRdt : Word := 16
abbrev tqStSxc : Word := 18

abbrev tqSbSucIgn : Word := 1 <<< 5
abbrev tqSbSucOn : Word := 8 <<< 5
abbrev tqSbSucEot : Word := 32 <<< 5
abbrev tqSbOflNv : Word := 1 <<< 5
abbrev tqSbWprSw : Word := 128 <<< 5
abbrev tqSbWprHw : Word := 256 <<< 5
abbrev tqSbHstNxm : Word := 3 <<< 5
abbrev tqIOpcd : Word := 8 <<< 8
abbrev tqIBcnt : Word := 12 <<< 8
abbrev tqIVrsn : Word := 12 <<< 8

abbrev tqCfAtn : Word := 0x80
abbrev tqCfMsk : Word := 0xF0
abbrev tqUfWph : Word := 0x2000
abbrev tqUfWps : Word := 0x1000
abbrev tqUidTape : Word := 3
abbrev tqCtrlClass : Word := 1
abbrev tqCtrlModel : Word := 9
abbrev tqUnitModel : Word := 3
abbrev tqCtrlRev : Word := 0o405
abbrev tqTapeFormat : Word := 0x201
abbrev tqMediaId : Dword := 0x6D68B032
abbrev tqMaxTransfer : Dword := 0xFFFE
abbrev tqMaxRecord : Dword := 0xFFFE
abbrev tqNoiseRecord : Word := 0o16
abbrev tqHctcSeqTmscp : Word := 0x100

/-- `tq_state` -/
inductive TqState where
  | s1
  | s1Wrap
  | s2
  | s3
  | s3Ppa
  | s3Ppb
  | s4
  | up
  | dead
  deriving Repr, DecidableEq

/-- `tq_ring_t` -/
structure TqRing where
  base : Dword := 0
  len : Dword := 0
  idx : Dword := 0
  ioff : Int := 0
  deriving DecidableEq

/-- The static variables of the driver. -/
structure Tq11 where
  sa : Word
  saLatch : Word
  s1Host : Word
  comm : Dword
  prgi : Bool
  state : TqState
  irqReq : Bool
  irqEn : Bool
  pollPending : Bool
  cflgs : Word
  cmdRing : TqRing
  rspRing : TqRing
  cmdUnit : Fin tq11MaxUnits
  units : Fin tq11MaxUnits → TqUnit

namespace Tq11

/-- `TQ_UNIT` -/
def cur (c : Tq11) : TqUnit := c.units c.cmdUnit

def setCur (c : Tq11) (u : TqUnit) : Tq11 := { c with units := Function.update c.units c.cmdUnit u }

end Tq11

/-! ## Packets -/

def tqGetU32 (pkt : TqPacket) (lo : Fin 32) : Dword :=
  (pkt lo).setWidth 32 ||| ((pkt (lo + 1)).setWidth 32 <<< 16)

def tqPutU32 (lo : Fin 32) (v : Dword) (pkt : TqPacket) : TqPacket :=
  Function.update (Function.update pkt lo (v.setWidth 16)) (lo + 1) ((v >>> 16).setWidth 16)

def tqPut (i : Fin 32) (v : Word) (pkt : TqPacket) : TqPacket := Function.update pkt i v

def tqCurrentUnitFlags (u : TqUnit) : Word :=
  (if u.readOnly then tqUfWph else 0) ||| (if u.swWriteProtect then tqUfWps else 0)

def tqMotionValid (u : TqUnit) : Word :=
  if u.fp.isNone then tqStOfl ||| tqSbOflNv else if !u.online then tqStAvl else tqStSuc

def tqPrepareRsp (cmd : TqPacket) (op flags status len : Word) : TqPacket :=
  tqPut tqRspSts status <| tqPut tqRspOpf (op ||| tqOpEnd ||| (flags <<< 8)) <|
    tqPut tqCmdUn (cmd tqCmdUn) <| tqPut tqCmdRefh (cmd tqCmdRefh) <| tqPut tqCmdRefl (cmd tqCmdRefl) <|
    tqPut tqHctc tqHctcSeqTmscp <| tqPut tqHlnt len fun _ => 0

def tqFillOnlineStatus (u : TqUnit) (rsp : TqPacket) : TqPacket :=
  tqPut tqOnlNrec tqNoiseRecord <| tqPutU32 tqOnlMaxl tqMaxRecord <| tqPut tqOnlFmt tqTapeFormat <|
    tqPutU32 tqOnlMedl tqMediaId <| tqPut tqOnlUidd ((tqUidTape <<< 8) ||| tqUnitModel) <|
    tqPut tqOnlUfl (tqCurrentUnitFlags u) rsp

def tqResponseFlagsForStatus (status : Word) : Word :=
  let code := status &&& 0o37
  (if status &&& tqSbSucEot ≠ 0 then tqEfEot else 0) |||
    (if code = tqStTmk ∨ code = tqStRdt ∨ code = tqStSxc ∨ code = tqStWpr then tqEfSxc else 0)

def tqRspOrFlags (flags : Word) (rsp : TqPacket) : TqPacket :=
  tqPut tqRspOpf (rsp tqRspOpf ||| (flags <<< 8)) rsp

def tqRspFlagsFromStatus (rsp : TqPacket) : TqPacket :=
  tqRspOrFlags (tqResponseFlagsForStatus (rsp tqRspSts)) rsp

def tqStatusFromTapMotion (u : TqUnit) : TqTapStatus → Word
  | .ok => tqStSuc
  | .mark => tqStTmk
  | .bot => tqStBot
  | .eomStatus => tqStSuc ||| tqSbSucEot
  | .wrpStatus => if u.readOnly then tqStWpr ||| tqSbWprHw else tqStWpr ||| tqSbWprSw
  | .ioErr | .invRl => tqStSxc

/-- The status of a command that would write on a protected unit. -/
def tqWriteProtected (u : TqUnit) : Word :=
  if u.readOnly then tqStWpr ||| tqSbWprHw else tqStWpr ||| tqSbWprSw

/-! ## Attaching and resetting -/

def tqScheduleUna (unit : Fin tq11MaxUnits) (c : Tq11) : Tq11 :=
  if c.state ≠ .up then c
  else if (c.units unit).fp.isNone then c
  else if c.cflgs &&& tqCfAtn = 0 then c
  else
    { c with units := Function.update c.units unit { c.units unit with unaPending := true }, pollPending := true }

abbrev tqS1cCapsQbus : Word := 0x800 ||| 0x200 ||| 0x100 ||| 0x40
abbrev tqS1cCapsUbus : Word := 0x800 ||| 0x100 ||| 0x40

def tqInitialSa : BusMachine → Word
  | .pdp1184 => tqS1cCapsUbus
  | .lsi11x1104 => tqS1cCapsQbus

/-- The position is reset, the cursor is not. -/
def tq11Reset (machine : BusMachine) (c : Tq11) : Tq11 where
  sa := tqInitialSa machine
  saLatch := 0
  s1Host := 0
  comm := 0
  prgi := false
  state := .s1
  irqReq := false
  irqEn := false
  pollPending := false
  cflgs := 0
  cmdRing := {}
  rspRing := {}
  cmdUnit := 0
  units := fun unit =>
    { c.units unit with online := false, swWriteProtect := false, unaPending := false, tapePos := 0 }

/-- `tq11_init` with nothing attached. -/
def tq11Init (machine : BusMachine) : Tq11 :=
  tq11Reset machine
    ⟨0, 0, 0, 0, false, .s1, false, false, false, 0, {}, {}, 0, fun _ => ⟨none, false, false, false, false, 0⟩⟩

/-- `image` is the file that opens and whether for reading only, `none` if none does. -/
def tq11OpenImageUnit (unit : Fin tq11MaxUnits) (image : Option (List Byte × Bool)) (c : Tq11) : Tq11 :=
  match image with
  | none => { c with units := Function.update c.units unit { c.units unit with fp := none, readOnly := true } }
  | some (bytes, readOnly) =>
    tqScheduleUna unit
      { c with units := Function.update c.units unit ⟨some ⟨bytes, 0⟩, readOnly, false, false, false, 0⟩ }

def tq11CloseImage (c : Tq11) : Tq11 :=
  { c with units := fun _ => ⟨none, false, false, false, false, 0⟩, pollPending := false }

/-! ## Commands without motion -/

def tqCmdScc (cmd : TqPacket) (c : Tq11) : TqPacket × Tq11 :=
  if cmd tqSccMsv ≠ 0 then (tqPrepareRsp cmd tqOpScc 0 (tqStCmd ||| tqIVrsn) tqSccLnt, c)
  else
    let cflgs := cmd tqSccCfl &&& tqCfMsk
    let rsp := tqPutU32 tqSccMbcl tqMaxTransfer <| tqPut tqSccCidd ((tqCtrlClass <<< 8) ||| tqCtrlModel) <|
      tqPut tqSccVer tqCtrlRev <| tqPut tqSccTmo 0o170 <| tqPut tqSccCfl cflgs <|
      tqPrepareRsp cmd tqOpScc 0 tqStSuc tqSccLnt
    (rsp, (List.finRange tq11MaxUnits).foldl (fun c unit => tqScheduleUna unit c) { c with cflgs := cflgs })

def tqCmdGcs (cmd : TqPacket) : TqPacket := tqPrepareRsp cmd tqOpGcs 0 tqStSuc tqGcsLnt

def tqCmdSuc (cmd : TqPacket) (c : Tq11) : TqPacket × Tq11 :=
  let rsp := tqPrepareRsp cmd tqOpSuc 0 0 tqSucLnt
  if c.cur.fp.isNone then (tqRspFlagsFromStatus (tqPut tqRspSts (tqStOfl ||| tqSbOflNv) rsp), c)
  else
    let u := { c.cur with swWriteProtect := cmd tqOnlUfl &&& tqUfWps ≠ 0 }
    (tqFillOnlineStatus u (tqPut tqRspSts tqStSuc rsp), c.setCur u)

def tqCmdFlu (cmd : TqPacket) (c : Tq11) : TqPacket :=
  tqRspFlagsFromStatus <| tqPut tqRspSts (tqMotionValid c.cur) <| tqPutU32 tqFluPosl c.cur.tapePos <|
    tqPrepareRsp cmd tqOpFlu 0 0 tqFluLnt

def tqCmdGus (cmd : TqPacket) (c : Tq11) : TqPacket :=
  tqRspFlagsFromStatus <| tqPut tqGusMenu tqTapeFormat <| tqPut tqGusFmt tqTapeFormat <|
    tqPutU32 tqGusMedl tqMediaId <| tqPut tqGusUidd ((tqUidTape <<< 8) ||| tqUnitModel) <|
    tqPut tqGusUfl (tqCurrentUnitFlags c.cur) <| tqPut tqRspSts (tqMotionValid c.cur) <|
    tqPrepareRsp cmd tqOpGus 0 0 tqGusLnt

/-! ## Commands that rewind -/

def tqCmdAvl (cmd : TqPacket) (c : Tq11) : TqPacket × Tq11 :=
  let rsp := tqPrepareRsp cmd tqOpAvl 0 0 tqRspLnt
  if c.cur.fp.isNone then (tqPut tqRspSts (tqStOfl ||| tqSbOflNv) rsp, c)
  else
    match tqTapRewind { c.cur with online := false, swWriteProtect := false } with
    | (.ok, u) =>
      let status := if cmd tqCmdMod &&& tqMdUnl ≠ 0 then tqStSuc ||| tqSbSucIgn else tqStSuc
      (tqRspFlagsFromStatus (tqPut tqRspSts status rsp), c.setCur u)
    | (_, u) => (tqPut tqRspSts tqStSxc rsp, c.setCur u)

def tqCmdOnl (cmd : TqPacket) (c : Tq11) : TqPacket × Tq11 :=
  let rsp := tqPrepareRsp cmd tqOpOnl 0 0 tqOnlLnt
  if c.cur.fp.isNone then (tqPut tqRspSts (tqStOfl ||| tqSbOflNv) rsp, c)
  else if c.cur.online then
    (tqRspFlagsFromStatus (tqFillOnlineStatus c.cur (tqPut tqRspSts (tqStSuc ||| tqSbSucOn) rsp)), c)
  else
    match tqTapRewind { c.cur with swWriteProtect := cmd tqOnlUfl &&& tqUfWps ≠ 0 } with
    | (.ok, u) =>
      let u := { u with online := true }
      (tqRspFlagsFromStatus (tqFillOnlineStatus u (tqPut tqRspSts tqStSuc rsp)), c.setCur u)
    | (_, u) => (tqPut tqRspSts tqStSxc rsp, c.setCur u)

/-! ## Transfers -/

section Transfer

variable {σ : Type} (dma : Dma σ)

def tqRwRspCommon (transferred pos recSize : Dword) (rsp : TqPacket) : TqPacket :=
  tqPutU32 tqRwRszl recSize <| tqPutU32 tqRwPosl pos <| tqPutU32 tqRwBcl transferred rsp

def tqDmaCompareBytes (s : σ) (ba : Dword) : List Byte → Int
  | [] => 0
  | v :: rest =>
    match dma.read8Checked s ba with
    | none => -1
    | some hostByte => if hostByte ≠ v then 1 else tqDmaCompareBytes s (ba + 1) rest

def tqTapDmaSink (op : Word) (ba : Dword) : TqTapSink σ := fun s offset data =>
  if op = tqOpRd then
    let (written, s) := dma.writeBytes s (ba + BitVec.ofNat 32 offset) data
    (if written then 0 else -1, s)
  else if op = tqOpCmp then (tqDmaCompareBytes dma s (ba + BitVec.ofNat 32 offset) data, s)
  else (0, s)

/-- `bc == 0u || bc > TQ_MAX_TRANSFER` -/
def tqBadCount (cmd : TqPacket) : Bool := tqGetU32 cmd tqRwBcl == 0 || tqGetU32 cmd tqRwBcl > tqMaxTransfer

def tqCmdReadLike (op : Word) (cmd : TqPacket) (c : Tq11) (s : σ) : TqPacket × Tq11 × σ :=
  let rsp := tqRwRspCommon 0 c.cur.tapePos 0 (tqPrepareRsp cmd op 0 0 tqRwLnt)
  if tqMotionValid c.cur ≠ tqStSuc then
    (tqRspFlagsFromStatus (tqPut tqRspSts (tqMotionValid c.cur) rsp), c, s)
  else if tqBadCount cmd then (tqPut tqRspSts (tqStCmd ||| tqIBcnt) rsp, c, s)
  else
    let bc := tqGetU32 cmd tqRwBcl
    let sink := if op = tqOpAcc then none else some (tqTapDmaSink dma op (tqGetU32 cmd tqRwBal))
    let r := tqTapReadForwardStream bc.toNat sink s c.cur
    let recLen := BitVec.ofNat 32 r.recLen
    let (status, transferred, recLen) :=
      if r.status = .ok then
        if r.sinkResult < 0 then (tqStHst ||| tqSbHstNxm, 0, recLen)
        else if r.sinkResult > 0 then (tqStSxc, BitVec.ofNat 32 r.xferLen, recLen)
        else if recLen > bc then (tqStRdt, BitVec.ofNat 32 r.xferLen, recLen)
        else (tqStSuc, BitVec.ofNat 32 r.xferLen, recLen)
      else (tqStatusFromTapMotion r.unit r.status, 0, 0)
    (tqRspFlagsFromStatus (tqRwRspCommon transferred r.unit.tapePos recLen (tqPut tqRspSts status rsp)),
      c.setCur r.unit, r.sink)

def tqCmdRead (cmd : TqPacket) (c : Tq11) (s : σ) : TqPacket × Tq11 × σ := tqCmdReadLike dma tqOpRd cmd c s

def tqCmdAccess (cmd : TqPacket) (c : Tq11) (s : σ) : TqPacket × Tq11 × σ := tqCmdReadLike dma tqOpAcc cmd c s

def tqCmdCompare (cmd : TqPacket) (c : Tq11) (s : σ) : TqPacket × Tq11 × σ := tqCmdReadLike dma tqOpCmp cmd c s

def tqCmdWrite (cmd : TqPacket) (c : Tq11) (s : σ) : TqPacket × Tq11 :=
  let rsp := tqRwRspCommon 0 c.cur.tapePos 0 (tqPrepareRsp cmd tqOpWr 0 0 tqRwLnt)
  if tqMotionValid c.cur ≠ tqStSuc then (tqRspFlagsFromStatus (tqPut tqRspSts (tqMotionValid c.cur) rsp), c)
  else if c.cur.swWriteProtect || c.cur.readOnly then
    (tqRspFlagsFromStatus (tqPut tqRspSts (tqWriteProtected c.cur) rsp), c)
  else if tqBadCount cmd then (tqPut tqRspSts (tqStCmd ||| tqIBcnt) rsp, c)
  else
    let bc := tqGetU32 cmd tqRwBcl
    let (tapSt, dmaError, u) := tqTapWriteRecordDma dma s (tqGetU32 cmd tqRwBal) bc c.cur
    if dmaError then (tqRspFlagsFromStatus (tqPut tqRspSts (tqStHst ||| tqSbHstNxm) rsp), c.setCur u)
    else
      let done := if tapSt = .ok then bc else 0
      (tqRspFlagsFromStatus (tqRwRspCommon done u.tapePos done
        (tqPut tqRspSts (tqStatusFromTapMotion u tapSt) rsp)), c.setCur u)

def tqCmdWtm (cmd : TqPacket) (c : Tq11) : TqPacket × Tq11 :=
  let rsp := tqPutU32 tqWtmPosl c.cur.tapePos (tqPrepareRsp cmd tqOpWtm 0 0 tqWtmLnt)
  if tqMotionValid c.cur ≠ tqStSuc then (tqRspFlagsFromStatus (tqPut tqRspSts (tqMotionValid c.cur) rsp), c)
  else if c.cur.swWriteProtect || c.cur.readOnly then
    (tqRspFlagsFromStatus (tqPut tqRspSts (tqWriteProtected c.cur) rsp), c)
  else
    let (tapSt, u) := tqTapWriteMark c.cur
    (tqRspFlagsFromStatus (tqPutU32 tqWtmPosl u.tapePos (tqPut tqRspSts (tqStatusFromTapMotion u tapSt) rsp)),
      c.setCur u)

/-- The motion of a POS command: the status, the records and marks passed, the unit. -/
def tqPosMotion (cmd : TqPacket) (u : TqUnit) : TqTapStatus × Nat × Nat × TqUnit :=
  let recCount := (tqGetU32 cmd tqPosRcl).toNat
  let tmkCount := (tqGetU32 cmd tqPosTmcl).toNat
  if cmd tqCmdMod &&& tqMdRwd ≠ 0 then
    let (st, u) := tqTapRewind u
    (st, 0, 0, u)
  else if cmd tqCmdMod &&& tqMdRev ≠ 0 then
    if tmkCount ≠ 0 then
      let (st, done, u) := tqTapSpaceReverseMarks tmkCount u
      (st, 0, done, u)
    else if recCount ≠ 0 then
      let (st, done, u) := tqTapSpaceReverseRecords recCount u
      (st, done, 0, u)
    else (.ok, 0, 0, u)
  else if tmkCount ≠ 0 then
    let (st, done, u) := tqTapSpaceForwardMarks tmkCount u
    (st, 0, done, u)
  else if recCount ≠ 0 then
    let (st, done, u) := tqTapSpaceForwardRecords recCount u
    (st, done, 0, u)
  else (.ok, 0, 0, u)

def tqCmdPos (cmd : TqPacket) (c : Tq11) : TqPacket × Tq11 :=
  let rsp := tqPutU32 tqPosPosl c.cur.tapePos (tqPrepareRsp cmd tqOpPos 0 0 tqPosLnt)
  if tqMotionValid c.cur ≠ tqStSuc then (tqRspFlagsFromStatus (tqPut tqRspSts (tqMotionValid c.cur) rsp), c)
  else
    let (tapSt, recDone, tmkDone, u) := tqPosMotion cmd c.cur
    (tqRspFlagsFromStatus <| tqPutU32 tqPosPosl u.tapePos <| tqPutU32 tqPosTmcl (BitVec.ofNat 32 tmkDone) <|
      tqPutU32 tqPosRcl (BitVec.ofNat 32 recDone) <| tqPut tqRspSts (tqStatusFromTapMotion u tapSt) rsp,
      c.setCur u)

/-! ## Dispatch -/

/-- The `switch` on the opcode. -/
def tqDispatch (cmd : TqPacket) (c : Tq11) (s : σ) : TqPacket × Tq11 × σ :=
  let op := cmd tqCmdOpc &&& 0xFF
  let still (r : TqPacket × Tq11) : TqPacket × Tq11 × σ := (r.1, r.2, s)
  if op = tqOpGcs then (tqCmdGcs cmd, c, s)
  else if op = tqOpScc then still (tqCmdScc cmd c)
  else if op = tqOpGus then (tqCmdGus cmd c, c, s)
  else if op = tqOpAvl then still (tqCmdAvl cmd c)
  else if op = tqOpOnl then still (tqCmdOnl cmd c)
  else if op = tqOpSuc then still (tqCmdSuc cmd c)
  else if op = tqOpFlu then (tqCmdFlu cmd c, c, s)
  else if op = tqOpAcc then tqCmdAccess dma cmd c s
  else if op = tqOpCmp then tqCmdCompare dma cmd c s
  else if op = tqOpRd then tqCmdRead dma cmd c s
  else if op = tqOpWr then still (tqCmdWrite dma cmd c s)
  else if op = tqOpWtm then still (tqCmdWtm cmd c)
  else if op = tqOpPos then still (tqCmdPos cmd c)
  else (tqPrepareRsp cmd op 0 (tqStCmd ||| tqIOpcd) tqRspLnt, c, s)

def tqProcessCommand (cmd : TqPacket) (c : Tq11) (s : σ) : TqPacket × Tq11 × σ :=
  if h : (cmd tqCmdUn).toNat < tq11MaxUnits then tqDispatch dma cmd { c with cmdUnit := ⟨(cmd tqCmdUn).toNat, h⟩ } s
  else (tqPrepareRsp cmd (cmd tqCmdOpc &&& 0xFF) 0 tqStOfl tqRspLnt, c, s)

end Transfer

end K1801.Lsi11
