import K1801.Library.Buffer
import K1801.Bk.Deck

/-! # The board of the BK-0010

Memory with ROM segments, the keyboard, and the port of the tape deck. The processor reaches all of them a byte at a
time.
-/

namespace K1801.Bk

open Core Library

/-- `rom_segment` -/
structure RomSegment where
  data : Buffer
  base : Word
  size : Word

/-- The state of `bk_hw.c`. -/
structure BkBoard where
  mem : Buffer
  roms : List RomSegment
  kbdStatus : Byte
  kbdData : Byte
  shiftReg : Word
  extPort : Word
  sysCtrl : Word
  sysPortOut : Byte
  sysPortIn : Byte
  kbdIrqPending : Bool
  tapeInBit : Bool
  beeperOn : Bool
  beeperPulse : Nat
  deck : TapeDeck

namespace BkBoard

abbrev csrReady : Byte := 0o200

abbrev bkSysCtrl : Word := 0o177716

/-- The variables before the first reset, with empty memory and no ROM. -/
def initial : BkBoard where
  mem := Buffer.zero
  roms := []
  kbdStatus := csrReady
  kbdData := 0
  shiftReg := 0o1330
  extPort := 0o177777
  sysCtrl := 0o100000
  sysPortOut := 0o220
  sysPortIn := 0o370
  kbdIrqPending := false
  tapeInBit := true
  beeperOn := false
  beeperPulse := 0
  deck := TapeDeck.initial

variable (b : BkBoard)

/-- Whether a segment has the address; one that ends above the address space goes on from 0. -/
def RomSegment.contains (seg : RomSegment) (addr : Word) : Bool :=
  let last := seg.base.toNat + seg.size.toNat
  if seg.size = 0 then false
  else if last ≤ 0x10000 then seg.base.toNat ≤ addr.toNat && addr.toNat < last
  else seg.base.toNat ≤ addr.toNat || addr.toNat < last % 0x10000

def romForAddr (addr : Word) : Option RomSegment := b.roms.find? (RomSegment.contains · addr)

def romOffset (seg : RomSegment) (addr : Word) : Nat :=
  if seg.base.toNat ≤ addr.toNat then addr.toNat - seg.base.toNat else addr.toNat + 0x10000 - seg.base.toNat

def isRomAddr (addr : Word) : Bool := 0o100000 ≤ addr.toNat

def tapeMotorOn : Bool := b.sysPortOut &&& 0o200 = 0

/-- `bk_load_byte`; no byte is a trap of the bus. -/
def loadByte (offset : Word) : Option Byte × BkBoard :=
  match offset.toNat with
  | 0o177660 => (some ((b.kbdStatus &&& csrReady) ||| (b.kbdStatus &&& 0o100)), b)
  | 0o177661 => (some 0, b)
  | 0o177662 =>
    (some (b.kbdData &&& 0o177),
      { b with kbdStatus := b.kbdStatus &&& ~~~csrReady, sysPortIn := b.sysPortIn ||| 0o100, kbdIrqPending := false })
  | 0o177663 => (some 0, b)
  | 0o177664 => (some (b.shiftReg.setWidth 8), b)
  | 0o177665 => (some ((b.shiftReg >>> 8).setWidth 8 &&& 2), b)
  | 0o177714 => (some (b.extPort.setWidth 8), b)
  | 0o177715 => (some ((b.extPort >>> 8).setWidth 8), b)
  | 0o177716 => (some (b.sysPortIn &&& 0o374), { b with sysPortIn := b.sysPortIn &&& ~~~0o4 })
  | 0o177717 => (some ((b.sysCtrl >>> 8).setWidth 8), b)
  | _ =>
    if 0o177600 ≤ offset.toNat then (none, b)
    else
      match b.romForAddr offset with
      | some seg => (some (seg.data (romOffset seg offset)), b)
      | none => if isRomAddr offset then (none, b) else (some (b.mem offset.toNat), b)

/-- A store to the port of the tape deck. -/
def storePort (value : Byte) : BkBoard :=
  let b := { b with sysPortOut := value &&& 0o360, beeperOn := value &&& 0o100 ≠ 0 }
  let b := { b with beeperPulse := if b.beeperOn then b.beeperPulse + 1 else b.beeperPulse }
  { b with
    deck := b.deck.write b.tapeMotorOn (value &&& 0o100 ≠ 0)
    sysPortIn := b.sysPortIn ||| 0o4 }

/-- `bk_store_byte`; no board is a trap of the bus. -/
def storeByte (offset : Word) (value : Byte) : Option BkBoard :=
  match offset.toNat with
  | 0o177660 => some { b with kbdStatus := (b.kbdStatus &&& csrReady) ||| (value &&& 0o100) }
  | 0o177661 => some b
  | 0o177662 => some { b with kbdData := value, kbdStatus := b.kbdStatus ||| csrReady }
  | 0o177663 => some b
  | 0o177664 => some { b with shiftReg := (b.shiftReg &&& 0o177400) ||| value.setWidth 16 }
  | 0o177665 => some { b with shiftReg := (b.shiftReg &&& 0o377) ||| ((value.setWidth 16 <<< 8) &&& 0o1000) }
  | 0o177714 => some { b with extPort := (b.extPort &&& 0o177400) ||| value.setWidth 16 }
  | 0o177715 => some { b with extPort := (b.extPort &&& 0o377) ||| (value.setWidth 16 <<< 8) }
  | 0o177716 => some (b.storePort value)
  | 0o177717 => some { b with sysPortIn := b.sysPortIn ||| 0o4 }
  | _ =>
    if 0o177600 ≤ offset.toNat then none
    else if (b.romForAddr offset).isSome ∨ isRomAddr offset then none
    else some { b with mem := b.mem.put offset.toNat value }

/-- `bk_load_word`: the low byte, and the high one behind it unless there was a trap. -/
def loadWord (offset : Word) : Option Word × BkBoard :=
  match b.loadByte offset with
  | (none, b) => (none, b)
  | (some lo, b) =>
    match b.loadByte (offset + 1) with
    | (none, b) => (none, b)
    | (some hi, b) => (some (lo.setWidth 16 ||| (hi.setWidth 16 <<< 8)), b)

/-- `bk_store_word`; the board, and whether there was a trap. -/
def storeWord (offset value : Word) : Bool × BkBoard :=
  match b.storeByte offset (value.setWidth 8) with
  | none => (true, b)
  | some b =>
    match b.storeByte (offset + 1) ((value >>> 8).setWidth 8) with
    | none => (true, b)
    | some b => (false, b)

/-- `bk_reset` -/
def reset : BkBoard :=
  { b with
    kbdStatus := csrReady, kbdData := 0, shiftReg := 0o1330, extPort := 0o177777, sysCtrl := 0o100000,
    sysPortOut := 0o220, sysPortIn := 0o370, kbdIrqPending := false, beeperOn := false, beeperPulse := 0,
    deck := b.deck.reset }

/-- `bk_hw_handle_key` -/
def handleKey (code : Int) : BkBoard :=
  if code < 0 then b
  else
    { b with
      kbdData := BitVec.ofInt 8 code
      kbdStatus := b.kbdStatus ||| csrReady
      sysPortIn := b.sysPortIn &&& ~~~0o100
      kbdIrqPending := b.kbdIrqPending || b.kbdStatus &&& 0o100 = 0 }

/-- `bk_poll_irq` -/
def pollIrq : Option Word × BkBoard :=
  if b.kbdIrqPending ∧ b.kbdStatus &&& csrReady ≠ 0 ∧ b.kbdStatus &&& 0o100 = 0 then
    (some (if b.kbdData &&& 0o200 ≠ 0 then 0o274 else 0o60), { b with kbdIrqPending := false })
  else (none, b)

/-- `bk_hw_tick` -/
def tick : BkBoard :=
  let deck := b.deck.tick.read
  { b with
    deck := deck
    tapeInBit := deck.readVal
    sysPortIn := if deck.readVal then b.sysPortIn ||| 0o40 else b.sysPortIn &&& ~~~0o40 }

/-- `bk_hw_tape_set_output_enabled` -/
def tapeSetOutputEnabled (enable : Bool) : BkBoard := { b with deck := b.deck.setOutputEnabled enable }

/-- `bk_hw_tape_set_input_raw` -/
def tapeSetInputRaw (data : List Byte) : BkBoard := { b with deck := b.deck.setInput data }

/-- What happens to the board between two resets. -/
inductive Event where
  | loadByte (offset : Word)
  | storeByte (offset : Word) (value : Byte)
  | loadWord (offset : Word)
  | storeWord (offset value : Word)
  | key (code : Int)
  | pollIrq
  | tick
  | outputData

def step : Event → BkBoard
  | .loadByte offset => (b.loadByte offset).2
  | .storeByte offset value => (b.storeByte offset value).getD b
  | .loadWord offset => (b.loadWord offset).2
  | .storeWord offset value => (b.storeWord offset value).2
  | .key code => b.handleKey code
  | .pollIrq => b.pollIrq.2
  | .tick => b.tick
  | .outputData => { b with deck := b.deck.outputData.2 }

end BkBoard

end K1801.Bk
