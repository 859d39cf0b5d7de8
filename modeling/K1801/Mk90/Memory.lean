import Mathlib.Tactic.SplitIfs
import K1801.Library.Buffer
import K1801.Mk90.Rtc

/-! # The memory of the MK-90

RAM from address 0 on, ROM from 040000 on, the registers of four devices above 0164000. Two registers of the system
controller open and close windows of RAM and ROM. The processor reaches the RAM below `ram_fast_size` without the
routes of the bus.
-/

namespace K1801.Mk90

open Core Library

abbrev mk90RamMinSize : Nat := 0o40000
abbrev mk90RamMaxSize : Nat := 0o100000
abbrev mk90RomStart : Nat := 0o40000
abbrev mk90RomSize : Nat := 0o137400
abbrev mk90LcdBase : Nat := 0o164000
abbrev mk90IoBase : Nat := 0o164020
abbrev mk90SysBase : Nat := 0o164032
abbrev mk90RtcBase : Nat := 0o165000

/-- `ram_size`: whole words, inside the array. -/
structure Mk90RamSize where
  size : Nat
  least : mk90RamMinSize ≤ size
  most : size ≤ mk90RamMaxSize
  whole : size % 2 = 0

/-- A byte of a register pair; odd offsets are high bytes. -/
def byteOf (offset value : Word) : Byte :=
  if offset &&& 1 ≠ 0 then (value >>> 8).setWidth 8 else value.setWidth 8

/-- A register with one of its bytes replaced. -/
def withByte (offset old : Word) (value : Byte) : Word :=
  if offset &&& 1 ≠ 0 then (old &&& 0o377) ||| (value.setWidth 16 <<< 8)
  else (old &&& 0o177400) ||| value.setWidth 16

/-! ## The system controller -/

/-- `mk90_syscon_state_t` -/
structure Mk90Syscon where
  rg1 : Word
  rg2 : Word
  deriving Repr, DecidableEq

namespace Mk90Syscon

def readWord (s : Mk90Syscon) (offset : Word) : Word := if offset < 2 then s.rg1 else s.rg2

def readByte (s : Mk90Syscon) (offset : Word) : Byte := byteOf offset (s.readWord offset)

/-- The end of the RAM windows for writing and for reading. -/
def endaddr : Nat → Nat
  | 0 => 0o157777
  | 1 => 0o77777
  | 2 => 0o37777
  | _ => 0o17777

/-- The start of the ROM window. -/
def startaddr : Nat → Nat
  | 0 => 0o177777
  | 1 => 0o100000
  | 2 => 0o40000
  | 3 => 0o20000
  | _ => 0

/-- The window of the device registers. -/
def inRegisters (address : Word) : Bool := 0o164000 ≤ address.toNat && address.toNat ≤ 0o165777

def wrRam (s : Mk90Syscon) (address : Word) : Bool :=
  let index := ((s.rg1 >>> 9) &&& 3).toNat
  address.toNat ≤ endaddr index || inRegisters address

def rdRam (s : Mk90Syscon) (address : Word) : Bool :=
  let index := ((s.rg1 >>> 11) &&& 7).toNat
  (index < 4 && address.toNat ≤ endaddr index) || inRegisters address

def rdRom (s : Mk90Syscon) (address : Word) : Bool :=
  if s.rg2 &&& 0o20000 ≠ 0 then false
  else
    let index := ((s.rg1 >>> 11) &&& 7).toNat
    (startaddr index ≤ address.toNat && address.toNat ≤ 0o157777) ||
      (s.rg2 &&& 0o1000 ≠ 0 && 0o160000 ≤ address.toNat && address.toNat ≤ 0o163777) ||
      (0o166000 ≤ address.toNat && address.toNat ≤ 0o176777)

/-- An address that the direct path may serve. -/
def direct (s : Mk90Syscon) (address : Word) : Bool := s.rdRam address && s.wrRam address && !s.rdRom address

end Mk90Syscon

/-! ## The machine -/

/-- `mk90_lcd_state_t` -/
structure Mk90Lcd where
  base : Word
  config : Word
  deriving Repr, DecidableEq

namespace Mk90Lcd

def readWord (lcd : Mk90Lcd) (offset : Word) : Word :=
  if (offset >>> 1) &&& 1 = 0 then lcd.base else lcd.config

def writeWord (lcd : Mk90Lcd) (offset value : Word) : Mk90Lcd :=
  if (offset >>> 1) &&& 1 = 0 then { lcd with base := value } else { lcd with config := value }

end Mk90Lcd

/-- The I/O controller, with what it keeps of the memory modules, the keyboard and the interrupt requests. -/
structure Mk90IoUnit (ι : Type) where
  readByte : ι → Word → Byte × ι
  readWord : ι → Word → Word × ι
  writeByte : ι → Word → Byte → ι
  writeWord : ι → Word → Word → ι
  reset : ι → ι

/-- `mk90_state_t`, with `ram_fast` and `ram_fast_size` of its processor. -/
structure Mk90Machine (ι : Type) where
  ram : Buffer
  rom : Buffer
  ramSize : Mk90RamSize
  coldResetPending : Bool
  lcd : Mk90Lcd
  rtc : Mk90Rtc
  syscon : Mk90Syscon
  io : ι
  ramFast : Bool
  ramFastSize : Nat

/-- The devices with registers on the bus. -/
inductive Mk90Device where
  | lcd | io | sys | rtc
  deriving Repr, DecidableEq

/-- The device that takes an access of `width` bytes, with the offset of its register. -/
def deviceAt (width : Nat) (address : Word) : Option (Mk90Device × Word) :=
  let a := address.toNat
  if mk90LcdBase ≤ a ∧ a + width ≤ mk90LcdBase + 8 then some (.lcd, BitVec.ofNat 16 (a - mk90LcdBase))
  else if mk90IoBase ≤ a ∧ a + width ≤ mk90IoBase + 8 then some (.io, BitVec.ofNat 16 (a - mk90IoBase))
  else if mk90SysBase ≤ a ∧ a + width ≤ mk90SysBase + 4 then some (.sys, BitVec.ofNat 16 (a - mk90SysBase))
  else if mk90RtcBase ≤ a ∧ a + width ≤ mk90RtcBase + 0o200 then some (.rtc, BitVec.ofNat 16 (a - mk90RtcBase))
  else none

namespace Mk90Machine

variable {ι : Type}

def ramEnd (m : Mk90Machine ι) : Nat := m.ramSize.size - 1

/-- The loop of `mk90_machine_sync_fast_ram`, with `left` addresses to go. -/
def fastSizeFrom (s : Mk90Syscon) : Nat → Nat → Nat
  | 0, fastSize => fastSize
  | left + 1, fastSize =>
    if !s.direct (BitVec.ofNat 16 fastSize) then fastSize else fastSizeFrom s left (fastSize + 1)

def syncFastRam (m : Mk90Machine ι) : Mk90Machine ι :=
  let fastSize := fastSizeFrom m.syscon m.ramSize.size 0
  { m with ramFast := fastSize ≠ 0, ramFastSize := fastSize }

def sysconWriteWord (m : Mk90Machine ι) (offset value : Word) : Mk90Machine ι :=
  syncFastRam { m with
    syscon := if offset < 2 then { m.syscon with rg1 := value } else { m.syscon with rg2 := value } }

def sysconWriteByte (m : Mk90Machine ι) (offset : Word) (value : Byte) : Mk90Machine ι :=
  m.sysconWriteWord offset (withByte offset (m.syscon.readWord offset) value)

def sysconReset (m : Mk90Machine ι) : Mk90Machine ι := syncFastRam { m with syscon := ⟨0, 0⟩ }

/-! ### Arrays -/

/-- `none` is an access outside the array. -/
def ramAt (m : Mk90Machine ι) (i : Nat) : Option Byte := if i < mk90RamMaxSize then some (m.ram i) else none

def setRamAt (m : Mk90Machine ι) (i : Nat) (value : Byte) : Option (Mk90Machine ι) :=
  if i < mk90RamMaxSize then some { m with ram := m.ram.put i value } else none

def romAt (m : Mk90Machine ι) (i : Nat) : Option Byte := if i < mk90RomSize then some (m.rom i) else none

def wordOf (lo hi : Byte) : Word := lo.setWidth 16 ||| (hi.setWidth 16 <<< 8)

def ramWordAt (m : Mk90Machine ι) (i : Nat) : Option Word := do
  let lo ← m.ramAt i
  let hi ← m.ramAt (i + 1)
  some (wordOf lo hi)

def romWordAt (m : Mk90Machine ι) (i : Nat) : Option Word := do
  let lo ← m.romAt i
  let hi ← m.romAt (i + 1)
  some (wordOf lo hi)

def setRamWordAt (m : Mk90Machine ι) (i : Nat) (value : Word) : Option (Mk90Machine ι) := do
  let m ← m.setRamAt i (value.setWidth 8)
  m.setRamAt (i + 1) ((value >>> 8).setWidth 8)

/-! ### Registers of the devices -/

variable (unit : Mk90IoUnit ι)

def registerByte (m : Mk90Machine ι) (offset : Word) : Mk90Device → Byte × Mk90Machine ι
  | .lcd => (byteOf offset (m.lcd.readWord offset), m)
  | .io =>
    let (value, io) := unit.readByte m.io offset
    (value, { m with io := io })
  | .sys => (m.syscon.readByte offset, m)
  | .rtc =>
    let (value, rtc) := m.rtc.readByte offset
    (value, { m with rtc := rtc })

def registerWord (m : Mk90Machine ι) (offset : Word) : Mk90Device → Word × Mk90Machine ι
  | .lcd => (m.lcd.readWord offset, m)
  | .io =>
    let (value, io) := unit.readWord m.io offset
    (value, { m with io := io })
  | .sys => (m.syscon.readWord offset, m)
  | .rtc =>
    let (value, rtc) := m.rtc.readWord offset
    (value, { m with rtc := rtc })

def setRegisterByte (m : Mk90Machine ι) (offset : Word) (value : Byte) : Mk90Device → Mk90Machine ι
  | .lcd => { m with lcd := m.lcd.writeWord offset (withByte offset (m.lcd.readWord offset) value) }
  | .io => { m with io := unit.writeByte m.io offset value }
  | .sys => m.sysconWriteByte offset value
  | .rtc => { m with rtc := m.rtc.writeByte offset value }

def setRegisterWord (m : Mk90Machine ι) (offset value : Word) : Mk90Device → Mk90Machine ι
  | .lcd => { m with lcd := m.lcd.writeWord offset value }
  | .io => { m with io := unit.writeWord m.io offset value }
  | .sys => m.sysconWriteWord offset value
  | .rtc => { m with rtc := m.rtc.writeWord offset value }

/-! ### The bus -/

def readByte (m : Mk90Machine ι) (address : Word) : Option (Byte × Mk90Machine ι) :=
  let a := address.toNat
  let holeRom := m.ramEnd < a ∧ mk90RomStart ≤ a ∧ a - mk90RomStart < mk90RomSize
  if m.syscon.rdRam address ∧ a ≤ m.ramEnd then (m.ramAt a).map (·, m)
  else
    match if m.syscon.rdRam address then deviceAt 1 address else none with
    | some (device, offset) => some (m.registerByte unit offset device)
    | none =>
      if m.syscon.rdRom address ∧ mk90RomStart ≤ a ∧ a - mk90RomStart < mk90RomSize then
        (m.romAt (a - mk90RomStart)).map (·, m)
      else if holeRom then (m.romAt (a - mk90RomStart)).map (·, m)
      else some (0o377, m)

def writeByte (m : Mk90Machine ι) (address : Word) (value : Byte) : Option (Mk90Machine ι) :=
  let a := address.toNat
  if !m.syscon.wrRam address then some m
  else if a ≤ m.ramEnd then m.setRamAt a value
  else
    match deviceAt 1 address with
    | some (device, offset) => some (m.setRegisterByte unit offset value device)
    | none => some m

/-- Two byte loads, the low byte first. -/
def readBytes (m : Mk90Machine ι) (address : Word) : Option (Word × Mk90Machine ι) := do
  let (lo, m) ← m.readByte unit address
  let (hi, m) ← m.readByte unit (address + 1)
  some (wordOf lo hi, m)

/-- Two byte stores, the low byte first. -/
def writeBytes (m : Mk90Machine ι) (address value : Word) : Option (Mk90Machine ι) := do
  let m ← m.writeByte unit address (value.setWidth 8)
  m.writeByte unit (address + 1) ((value >>> 8).setWidth 8)

def readWord (m : Mk90Machine ι) (address : Word) : Option (Word × Mk90Machine ι) :=
  let a := address.toNat
  let holeRom := m.ramEnd < (address + 1).toNat ∧ mk90RomStart ≤ a ∧ a - mk90RomStart + 1 < mk90RomSize
  if m.syscon.rdRam address then
    if (address + 1).toNat ≤ m.ramEnd then (m.ramWordAt a).map (·, m)
    else
      match if address &&& 1 = 0 then deviceAt 2 address else none with
      | some (device, offset) => some (m.registerWord unit offset device)
      | none => if holeRom then (m.romWordAt (a - mk90RomStart)).map (·, m) else m.readBytes unit address
  else if m.syscon.rdRom address ∧ mk90RomStart ≤ a ∧ a - mk90RomStart + 1 < mk90RomSize then
    (m.romWordAt (a - mk90RomStart)).map (·, m)
  else m.readBytes unit address

def writeWord (m : Mk90Machine ι) (address value : Word) : Option (Mk90Machine ι) :=
  let a := address.toNat
  if !m.syscon.wrRam address then some m
  else if (address + 1).toNat ≤ m.ramEnd then m.setRamWordAt a value
  else
    match if address &&& 1 = 0 then deviceAt 2 address else none with
    | some (device, offset) => some (m.setRegisterWord unit offset value device)
    | none => m.writeBytes unit address value

/-! ### The processor -/

/-- The loads and stores of the core in a build without MMU: the direct path, else the bus. -/
def loadByte (m : Mk90Machine ι) (address : Word) : Option (Byte × Mk90Machine ι) :=
  if m.ramFast ∧ address.toNat < m.ramFastSize then (m.ramAt address.toNat).map (·, m) else m.readByte unit address

def storeByte (m : Mk90Machine ι) (address : Word) (value : Byte) : Option (Mk90Machine ι) :=
  if m.ramFast ∧ address.toNat < m.ramFastSize then m.setRamAt address.toNat value
  else m.writeByte unit address value

def loadWord (m : Mk90Machine ι) (address : Word) : Option (Word × Mk90Machine ι) :=
  if m.ramFast ∧ address.toNat + 1 < m.ramFastSize then (m.ramWordAt address.toNat).map (·, m)
  else m.readWord unit address

def storeWord (m : Mk90Machine ι) (address value : Word) : Option (Mk90Machine ι) :=
  if m.ramFast ∧ address.toNat + 1 < m.ramFastSize then m.setRamWordAt address.toNat value
  else m.writeWord unit address value

/-! ### Runs -/

/-- `mk90_machine_connect` and `mk90_init`, with the images loaded into the ROM. -/
def connect (ramSize : Mk90RamSize) (rom : Buffer) (rtc : Mk90Rtc) (io : ι) : Mk90Machine ι :=
  syncFastRam
    { ram := Buffer.zero, rom := rom, ramSize := ramSize, coldResetPending := true, lcd := ⟨0, 0⟩, rtc := rtc,
      syscon := ⟨0, 0⟩, io := io, ramFast := false, ramFastSize := 0 }

/-- `mk90_reset`; the first one sets the clock to the time of the host. -/
def reset (m : Mk90Machine ι) (now : Mk90Rtc) : Mk90Machine ι :=
  let m' := sysconReset { m with coldResetPending := false, lcd := ⟨0, 0o104306⟩ }
  syncFastRam { m' with io := unit.reset m'.io, rtc := if m.coldResetPending then now else m'.rtc }

/-- What happens to the machine: an access of the processor or a reset. -/
inductive Event where
  | loadByte (address : Word)
  | storeByte (address : Word) (value : Byte)
  | loadWord (address : Word)
  | storeWord (address value : Word)
  | reset (now : Mk90Rtc)

def step (m : Mk90Machine ι) : Event → Option (Mk90Machine ι)
  | .loadByte address => (m.loadByte unit address).map Prod.snd
  | .storeByte address value => m.storeByte unit address value
  | .loadWord address => (m.loadWord unit address).map Prod.snd
  | .storeWord address value => m.storeWord unit address value
  | .reset now => some (m.reset unit now)

end Mk90Machine

end K1801.Mk90
