import K1801.Core.Step

/-! # Stub hardware

The board of `hardware.c`: one array of memory behind every address, no devices and no
interrupt source. MMU builds have four megabytes, the others 64 kilobytes.
-/

namespace K1801.Core

abbrev Memory := Nat → Byte

namespace Memory

def word (mem : Memory) (lo hi : Nat) : Word := (mem lo).setWidth 16 ||| ((mem hi).setWidth 16 <<< 8)

def setWord (mem : Memory) (lo hi : Nat) (v : Word) : Memory :=
  Function.update (Function.update mem lo (v.setWidth 8)) hi ((v >>> 8).setWidth 8)

/-- Memory that holds `words` from the even address `base` on, zero elsewhere. -/
def ofWords (base : Nat) (words : List Word) : Memory := fun i =>
  if i < base then 0
  else
    let w := words.getD ((i - base) / 2) 0
    if i % 2 = 0 then w.setWidth 8 else (w >>> 8).setWidth 8

end Memory

/-- `offset & (PHYS_MEM_SIZE - 1)` -/
def physIndex (offset : Dword) : Nat := (offset &&& 0x3FFFFF).toNat

/-- `hwstub_connect`. Single-precision arithmetic is outside the stub: it returns its first
    operand. -/
def hwstub (enableMmu : Bool) : Host Memory where
  build := { enableMmu := enableMmu, mmuStubRegsWhenDisabled := true }
  loadByte _ offset mem := { value := mem offset.toNat, bus := mem }
  storeByte _ offset value mem := { value := (), bus := Function.update mem offset.toNat value }
  loadWord _ offset mem := { value := mem.word offset.toNat (offset + 1).toNat, bus := mem }
  storeWord _ offset value mem :=
    { value := (), bus := mem.setWord offset.toNat (offset + 1).toNat value }
  loadBytePa :=
    if enableMmu then some fun _ offset mem => { value := mem (physIndex offset), bus := mem } else none
  storeBytePa :=
    if enableMmu then
      some fun _ offset value mem => { value := (), bus := Function.update mem (physIndex offset) value }
    else none
  loadWordPa :=
    if enableMmu then
      some fun _ offset mem =>
        { value := mem.word (physIndex offset) (physIndex (offset + 1)), bus := mem }
    else none
  storeWordPa :=
    if enableMmu then
      some fun _ offset value mem =>
        { value := (), bus := mem.setWord (physIndex offset) (physIndex (offset + 1)) value }
    else none
  reset r mem :=
    { j11Maint := r.j11Maint, j11Hitmiss := r.j11Hitmiss, sel0 := r.sel0, bus := mem }
  pollIrq := none
  ramptr _ := true
  ram mem i := mem i
  setRam mem i v := Function.update mem i v
  fis _ a _ := a

end K1801.Core
