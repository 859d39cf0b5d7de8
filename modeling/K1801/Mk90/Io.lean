import K1801.Mk90.Memory

/-! # The serial controller of the MK-90

Four registers give access to two cartridges, the keyboard and the buzzer. A cartridge keeps a command and a position;
the transfers that follow the command load the position or move over the bytes.
-/

namespace K1801.Mk90

open Core Library

/-! ## Cartridges -/

/-- `mk90_smp_slot_t` -/
structure Mk90SmpSlot where
  data : List Byte
  position : BitVec 32
  mask : BitVec 32
  cmd : Byte
  present : Bool
  dirty : Bool
  path : String
  deriving Repr, DecidableEq

namespace Mk90SmpSlot

/-- A slot without a cartridge. -/
def released : Mk90SmpSlot := ⟨[], 0, 0, 0, false, false, ""⟩

/-- `mk90_smp_load` of a file that can be read. -/
def smpLoad (path : String) (file : List Byte) : Mk90SmpSlot :=
  if path = "" then released
  else
    { data := file
      position := 0
      mask := if file.length < 0o100000 then 0o177777 else 0o77777777
      cmd := 0
      present := true
      dirty := false
      path := path }

/-- `mk90_smp_save_slot`: the file that is written, if any. -/
def saveSlot (slot : Mk90SmpSlot) : Option (String × List Byte) :=
  if !slot.present ∨ !slot.dirty ∨ 0o100000 ≤ slot.data.length ∨ slot.path = "" then none
  else some (slot.path, slot.data)

/-- The part of `mk90_smp_reset` for a slot. -/
def reset (slot : Mk90SmpSlot) : Mk90SmpSlot := { slot with position := 0, cmd := 0 }

def smpCmd (slot : Mk90SmpSlot) (value : Byte) : Byte × Mk90SmpSlot := (0, { slot with cmd := value })

/-- The position of the transfer that follows: one up or one down. -/
def moved (slot : Mk90SmpSlot) (down : Bool) : BitVec 32 :=
  (if down then slot.position - 1 else slot.position + 1) &&& slot.mask

def smpData (slot : Mk90SmpSlot) (value : Byte) : Byte × Mk90SmpSlot :=
  if !slot.present then (0o377, slot)
  else
    match (slot.cmd &&& 0o360).toNat with
    | 0o000 => (0, slot)
    | 0o240 => (0o377, { slot with position := (slot.position <<< 8 ||| value.setWidth 32) &&& slot.mask })
    | 0o020 | 0o320 =>
      (if slot.position.toNat < slot.data.length then slot.data.getD slot.position.toNat 0 else 0,
        { slot with position := slot.moved (slot.cmd &&& 0o200 = 0) })
    | 0o040 | 0o300 | 0o340 =>
      let written := slot.position.toNat < slot.data.length ∧ slot.data.length < 0o100000
      (0o377,
        { slot with
          data := if written then slot.data.set slot.position.toNat value else slot.data
          dirty := slot.dirty || written
          position := slot.moved (slot.cmd &&& 0o020 ≠ 0) })
    | _ => (0o377, slot)

end Mk90SmpSlot

/-! ## The controller -/

abbrev mk90BeeperQueueSize : Nat := 64

/-- `mk90_irq_state_t` -/
structure Mk90Irq where
  evnt : Bool
  inrt : Bool
  dataReady : Bool
  keyboard : Bool
  deriving Repr, DecidableEq

/-- `mk90_io_state_t`, with the keyboard, the interrupt requests and the cartridges. -/
structure Mk90Io where
  regs : Fin 4 → Word
  shiftreg : Word
  rgrq : Word
  selectActive : Bool
  beeperDivider : Nat → Word
  beeperCycles : Nat → BitVec 32
  beeperHead : Nat
  beeperCount : Nat
  transferBusyCycles : BitVec 32
  scanCode : Word
  irq : Mk90Irq
  smp : Fin 2 → Mk90SmpSlot

namespace Mk90Io

/-- The state of `mk90_machine_connect` with cartridges loaded. -/
def connect (smp : Fin 2 → Mk90SmpSlot) : Mk90Io where
  regs := fun _ => 0
  shiftreg := 0
  rgrq := 0
  selectActive := false
  beeperDivider := fun _ => 0
  beeperCycles := fun _ => 0
  beeperHead := 0
  beeperCount := 0
  transferBusyCycles := 0
  scanCode := 0
  irq := ⟨false, false, false, false⟩
  smp := smp

variable (io : Mk90Io)

def mode : Nat := (io.regs 2 &&& 0o17).toNat

def channel : Nat := (io.regs 2 &&& 7).toNat

/-- `mk90_smp_data` of a slot. -/
def smpData (k : Fin 2) (value : Byte) : Byte × Mk90Io :=
  let (result, slot) := (io.smp k).smpData value
  (result, { io with smp := Function.update io.smp k slot })

/-- `mk90_smp_cmd` of a slot. -/
def smpCmd (k : Fin 2) (value : Byte) : Byte × Mk90Io :=
  let (result, slot) := (io.smp k).smpCmd value
  (result, { io with smp := Function.update io.smp k slot })

def beeperAddCycles (tail : Nat) : Mk90Io :=
  { io with beeperCycles := Function.update io.beeperCycles tail (io.beeperCycles tail + 8) }

/-- `mk90_io_queue_buzzer` -/
def queueBuzzer : Mk90Io :=
  let divider := io.regs 1
  let last := (io.beeperHead + io.beeperCount - 1) % mk90BeeperQueueSize
  if divider = 0 ∨ io.regs 2 &&& 0o200 = 0 then io
  else if io.beeperCount ≠ 0 ∧ io.beeperDivider last = divider then io.beeperAddCycles last
  else if mk90BeeperQueueSize ≤ io.beeperCount then io.beeperAddCycles last
  else
    let tail := (io.beeperHead + io.beeperCount) % mk90BeeperQueueSize
    { io with
      beeperDivider := Function.update io.beeperDivider tail divider
      beeperCycles := Function.update io.beeperCycles tail 8
      beeperCount := io.beeperCount + 1 }

/-- `mk90_io_transfer_cycles` -/
def transferCycles : BitVec 32 :=
  if io.regs 1 = 0 ∨ io.regs 2 &&& 0o200 = 0 ∨ io.mode ≠ 0o13 then 0 else (io.regs 1).setWidth 32 * 20

def startTransfer : Mk90Io :=
  if io.transferCycles ≠ 0 then { io with transferBusyCycles := io.transferCycles } else io

def raiseDataIrq : Mk90Io :=
  if io.regs 2 &&& 0o40 = 0 then { io with irq := { io.irq with dataReady := true } } else io

/-- A device answers into the shift register. -/
def shiftIn (answer : Byte × Mk90Io) : Mk90Io := { answer.2 with shiftreg := answer.1.setWidth 16 }

def request : Mk90Io := { io with rgrq := io.rgrq ||| (1 <<< io.channel) }

/-- `mk90_io_fetch_input`, into the shift register. -/
def fetchInput : Mk90Io :=
  match io.mode with
  | 0o00 => shiftIn (io.smpData 0 0)
  | 0o01 => shiftIn (io.smpData 1 0)
  | 0o02 => { io with shiftreg := io.scanCode }
  | _ => { io with shiftreg := 0o177777 }

/-- The switch on the mode in case 0 of `mk90_io_commit_reg_write`. -/
def dataTransfer : Mk90Io :=
  let value : Byte := io.shiftreg.setWidth 8
  match io.mode with
  | 0o00 => shiftIn (io.smpData 0 value)
  | 0o01 => shiftIn (io.smpData 1 value)
  | 0o02 => { io with shiftreg := io.scanCode }
  | 0o10 => (io.smpData 0 value).2
  | 0o11 => (io.smpData 1 value).2
  | 0o13 => io.queueBuzzer.startTransfer
  | _ => io

def commitData : Mk90Io :=
  let io := request { io with shiftreg := io.regs 0 }
  if io.selectActive then io.raiseDataIrq.dataTransfer else io

/-- The switch on the mode in case 2. -/
def controlTransfer : Mk90Io :=
  match io.mode with
  | 0o00 => shiftIn (io.smpData 0 0)
  | 0o01 => shiftIn (io.smpData 1 0)
  | 0o02 => { io with shiftreg := io.scanCode }
  | _ => io

def commitControl : Mk90Io := if io.selectActive then io.raiseDataIrq.controlTransfer else io

/-- The switch on the mode in case 3. -/
def commandTransfer : Mk90Io :=
  let value : Byte := io.shiftreg.setWidth 8
  match io.mode with
  | 0o00 => shiftIn (io.smpCmd 0 value)
  | 0o01 => shiftIn (io.smpCmd 1 value)
  | 0o02 => { io with shiftreg := io.scanCode }
  | 0o10 => (io.smpCmd 0 value).2
  | 0o11 => (io.smpCmd 1 value).2
  | _ => io

def commitCommand : Mk90Io :=
  commandTransfer (raiseDataIrq (request { io with selectActive := true, shiftreg := io.regs 3 }))

/-- `mk90_io_commit_reg_write` -/
def commitRegWrite : Fin 4 → Mk90Io
  | 0 => io.commitData
  | 1 => io
  | 2 => io.commitControl
  | 3 => io.commitCommand

/-- The register of an offset. -/
def regIndex (offset : Word) : Fin 4 := ⟨((offset >>> 1) &&& 3).toNat, by
  rw [BitVec.toNat_and]
  exact Nat.lt_of_le_of_lt Nat.and_le_right (by decide)⟩

/-- `mk90_io_read_word` -/
def readWord (offset : Word) : Word × Mk90Io :=
  match regIndex offset with
  | 0 =>
    let io' := request { io with shiftreg := 0o177777 }
    (io.shiftreg, if io.selectActive then io'.raiseDataIrq.fetchInput else io')
  | 1 => (io.rgrq, io)
  | 2 =>
    let value := (io.regs 2 &&& 0o160) ||| 0o177604
    let value := if io.transferBusyCycles ≠ 0 then value &&& ~~~0o200 else value
    (if io.selectActive then value else value ||| 0o10, io)
  | 3 =>
    let io := if io.selectActive then io.raiseDataIrq else io
    (io.shiftreg, { io with selectActive := false })

def readByte (offset : Word) : Byte × Mk90Io :=
  let (value, io) := io.readWord offset
  (byteOf offset value, io)

/-- `mk90_io_write_word` -/
def writeWord (offset value : Word) : Mk90Io :=
  let reg := regIndex offset
  let io := commitRegWrite { io with regs := Function.update io.regs reg value } reg
  if reg = 3 then io.startTransfer else io

def writeByte (offset : Word) (value : Byte) : Mk90Io :=
  io.writeWord offset (withByte offset (io.regs (regIndex offset)) value)

/-- `mk90_keyboard_reset`, `mk90_smp_reset`, `mk90_io_reset` and the requests that `mk90_reset` clears. -/
def reset : Mk90Io where
  regs := fun _ => 0
  shiftreg := 0o177777
  rgrq := 0o177777
  selectActive := false
  beeperDivider := io.beeperDivider
  beeperCycles := io.beeperCycles
  beeperHead := 0
  beeperCount := 0
  transferBusyCycles := 0
  scanCode := 0
  irq := ⟨false, false, false, false⟩
  smp := fun k => (io.smp k).reset

end Mk90Io

/-- The registers on the bus. -/
def mk90IoUnit : Mk90IoUnit Mk90Io where
  readByte := Mk90Io.readByte
  readWord := Mk90Io.readWord
  writeByte := Mk90Io.writeByte
  writeWord := Mk90Io.writeWord
  reset := Mk90Io.reset

end K1801.Mk90
