import K1801.Core.Micro

/-! # Memory access

A virtual access tries, in this order, the direct RAM path, the on-chip registers, and
relocation followed by a physical access. Refusals enter a trap and yield zero.
-/

namespace K1801.Core

open Library

variable {β : Type}

namespace Env

/-! ## Host callbacks -/

/-- `nxm_trap`: the callback found nothing at the address. -/
def nxmTrap (e : Env β) (bits : Word) : M β Unit := do
  perform (.setCpuerr bits)
  e.busErrorTrap

def callback (e : Env β) {α : Type} (f : Regs → β → Reply β α) : M β α := do
  let (value, nxm) ← Program.onBus fun r bus =>
    let reply := f r bus
    ((reply.value, reply.nxm), reply.bus)
  match nxm with
  | none => pure value
  | some bits => do
    e.nxmTrap bits
    pure value

def rawLoadByte (e : Env β) (addr : Word) : M β Byte :=
  e.callback fun r => e.host.loadByte r addr

def rawStoreByte (e : Env β) (addr : Word) (value : Byte) : M β Unit :=
  e.callback fun r => e.host.storeByte r addr value

def rawLoadWord (e : Env β) (addr : Word) : M β Word :=
  e.callback fun r => e.host.loadWord r addr

def rawStoreWord (e : Env β) (addr : Word) (value : Word) : M β Unit :=
  e.callback fun r => e.host.storeWord r addr value

def ramByte (e : Env β) (i : Nat) : M β Byte := Program.read fun m => e.host.ram m.bus i

def setRamByte (e : Env β) (i : Nat) (v : Byte) : M β Unit :=
  Program.onBus fun _ bus => ((), e.host.setRam bus i v)

def ramWord (e : Env β) (i : Nat) : M β Word := do
  let lo ← e.ramByte i
  let hi ← e.ramByte (i + 1)
  pure (lo.setWidth 16 ||| (hi.setWidth 16 <<< 8))

def setRamWord (e : Env β) (i : Nat) (v : Word) : M β Unit := do
  e.setRamByte i (v.setWidth 8)
  e.setRamByte (i + 1) ((v >>> 8).setWidth 8)

/-! ## Physical access -/

/-- The on-chip register behind a physical address, and the offset it is decoded at. -/
def physRegLoadByte (e : Env β) (r : Regs) (pa : Dword) : Option Byte := do
  let offset ← dcj11IoAliasOffset e.host.build r pa
  regBlockLoadByte e.host.build r offset

def physRegLoadWord (e : Env β) (r : Regs) (pa : Dword) : Option Word := do
  let offset ← dcj11IoAliasOffset e.host.build r pa
  regBlockLoadWord e.host.build r offset

def physRegStoreByte (e : Env β) (r : Regs) (pa : Dword) (value : Byte) : Option Word := do
  let offset ← dcj11IoAliasOffset e.host.build r pa
  let _ ← regBlockStoreByte e.host.build r offset value
  some offset

def physRegStoreWord (e : Env β) (r : Regs) (pa : Dword) (value : Word) : Option Word := do
  let offset ← dcj11IoAliasOffset e.host.build r pa
  let _ ← regBlockStoreWord e.host.build r offset value
  some offset

def rawLoadBytePhys (e : Env β) (pa : Dword) : M β Byte := do
  match e.physRegLoadByte (← regs) pa with
  | some value => pure value
  | none =>
    if pa ≤ 0o177777 then e.rawLoadByte (pa.setWidth 16)
    else match e.host.loadBytePa with
      | some f => e.callback fun r => f r pa
      | none => e.rawLoadByte (pa.setWidth 16)

def rawStoreBytePhys (e : Env β) (pa : Dword) (value : Byte) : M β Unit := do
  match e.physRegStoreByte (← regs) pa value with
  | some offset => perform (.regStoreByte e.host.build offset value)
  | none =>
    if pa ≤ 0o177777 then e.rawStoreByte (pa.setWidth 16) value
    else match e.host.storeBytePa with
      | some f => e.callback fun r => f r pa value
      | none => e.rawStoreByte (pa.setWidth 16) value

def rawLoadWordPhys (e : Env β) (pa : Dword) : M β Word := do
  match e.physRegLoadWord (← regs) pa with
  | some value => pure value
  | none =>
    if pa ≤ 0o177777 then e.rawLoadWord (pa.setWidth 16)
    else match e.host.loadWordPa with
      | some f => e.callback fun r => f r pa
      | none => e.rawLoadWord (pa.setWidth 16)

def rawStoreWordPhys (e : Env β) (pa : Dword) (value : Word) : M β Unit := do
  match e.physRegStoreWord (← regs) pa value with
  | some offset => perform (.regStoreWord e.host.build offset value)
  | none =>
    if pa ≤ 0o177777 then e.rawStoreWord (pa.setWidth 16) value
    else match e.host.storeWordPa with
      | some f => e.callback fun r => f r pa value
      | none => e.rawStoreWord (pa.setWidth 16) value

/-! ## Virtual access -/

/-- Builds without an MMU reach RAM directly below `ram_fast_size`. -/
def directRam (e : Env β) (r : Regs) (offset : Word) (width : Nat) : Bool :=
  !e.host.build.enableMmu && r.ramFast && offset.toNat + (width - 1) < r.ramFastSize

/-- MMU builds reach RAM through the translation cache while relocation is on. -/
def tlbPtr (e : Env β) (r : Regs) (apr : Apr) (va width : Word) (isWrite : Bool) : Option Nat :=
  if relocating e.host.build r then mmuTlbPtr r apr (va &&& 0o17777) width isWrite else none

/-- The J-11 decodes on-chip registers from virtual addresses only while relocation is off. -/
def vaDecodesRegs (e : Env β) (r : Regs) : Bool := !relocating e.host.build r

def vaRegLoadByte (e : Env β) (r : Regs) (offset : Word) : Option Byte :=
  if e.vaDecodesRegs r then regBlockLoadByte e.host.build r offset else none

def vaRegLoadWord (e : Env β) (r : Regs) (offset : Word) : Option Word :=
  if e.vaDecodesRegs r then regBlockLoadWord e.host.build r offset else none

def vaRegStoreByte (e : Env β) (r : Regs) (offset : Word) (value : Byte) : Option Regs :=
  if e.vaDecodesRegs r then regBlockStoreByte e.host.build r offset value else none

def vaRegStoreWord (e : Env β) (r : Regs) (offset value : Word) : Option Regs :=
  if e.vaDecodesRegs r then regBlockStoreWord e.host.build r offset value else none

/-- `CPUERR.ADR` through vector 4: odd word addresses and fetches from on-chip registers. -/
def addressError (e : Env β) : M β Unit := do
  perform (.setCpuerr Regs.cpuerrAdr)
  e.busErrorTrap

/-- Enter the MMU abort for an access at `va`; the stacked PC is the live one. -/
def mmuFault (e : Env β) (va : Word) (fault : MmuFault) (apr : Apr) : M β Unit := do
  let pc ← getR 7
  e.mmuFaultTrap va pc fault apr

/-- Run a translation: keep its status bits, then continue at the physical address or
    abort and yield `refused`. -/
def translated (e : Env β) {α : Type} (va : Word) (apr : Regs → Apr)
    (tr : Regs → Except MmuFault Dword × Regs) (status : Micro) (refused : α)
    (k : Dword → M β α) : M β α := do
  let r ← regs
  perform status
  match (tr r).1 with
  | .ok pa => k pa
  | .error fault => do
    e.mmuFault va fault (apr r)
    pure refused

def coreLoadByteEx (e : Env β) (offset : Word) (isIfetch forceKernelD : Bool) : M β Byte := do
  let r ← regs
  if e.directRam r offset 1 then return ← e.ramByte offset.toNat
  let apr := currentApr r offset false false
  match if isIfetch then none else e.tlbPtr r apr offset 1 false with
  | some p => do
    perform (.noteAccess apr false)
    e.ramByte p
  | none =>
    match e.vaRegLoadByte r offset with
    | some value => pure value
    | none =>
      e.translated offset (currentApr · offset isIfetch forceKernelD)
        (translateVaEx e.host.build · offset false isIfetch forceKernelD)
        (.translate e.host.build offset false isIfetch forceKernelD) 0 e.rawLoadBytePhys

def coreStoreByteEx (e : Env β) (offset : Word) (value : Byte) (forceKernelD : Bool) : M β Unit := do
  let r ← regs
  if e.directRam r offset 1 then return ← e.setRamByte offset.toNat value
  let apr := currentApr r offset false false
  match e.tlbPtr r apr offset 1 true with
  | some p => do
    perform (.noteAccess apr true)
    e.setRamByte p value
  | none =>
    match e.vaRegStoreByte r offset value with
    | some _ => do
      perform (.regStoreByte e.host.build offset value)
      perform (.internalRegWrite e.host.build offset forceKernelD)
    | none =>
      e.translated offset (currentApr · offset false forceKernelD)
        (translateVaEx e.host.build · offset true false forceKernelD)
        (.translate e.host.build offset true false forceKernelD) () (e.rawStoreBytePhys · value)

/-- A physical word load; the J-11 refuses to fetch instructions from on-chip registers. -/
def loadWordAt (e : Env β) (isIfetch : Bool) (pa : Dword) : M β Word := do
  let r ← regs
  match dcj11IoAliasOffset e.host.build r pa with
  | some ioOffset =>
    if isIfetch ∧ dcj11PhysInternalReg e.host.build ioOffset then do
      e.addressError
      pure 0
    else e.rawLoadWordPhys pa
  | none => e.rawLoadWordPhys pa

def coreLoadWordEx (e : Env β) (offset : Word) (isIfetch forceKernelD : Bool) : M β Word := do
  let r ← regs
  if r.model = .dcj11 ∧ offset &&& 1 ≠ 0 then
    e.addressError
    return 0
  if e.directRam r offset 2 then return ← e.ramWord offset.toNat
  let apr := currentApr r offset false false
  match if isIfetch then none else e.tlbPtr r apr offset 2 false with
  | some p => do
    perform (.noteAccess apr false)
    e.ramWord p
  | none =>
    match e.vaRegLoadWord r offset with
    | some value =>
      if r.model = .dcj11 ∧ isIfetch then do
        e.addressError
        pure 0
      else pure value
    | none =>
      e.translated offset (currentApr · offset isIfetch forceKernelD)
        (translateVaEx e.host.build · offset false isIfetch forceKernelD)
        (.translate e.host.build offset false isIfetch forceKernelD) 0 (e.loadWordAt isIfetch)

def coreStoreWordEx (e : Env β) (offset value : Word) (forceKernelD : Bool) : M β Unit := do
  let r ← regs
  if r.model = .dcj11 ∧ offset &&& 1 ≠ 0 then return ← e.addressError
  if e.directRam r offset 2 then return ← e.setRamWord offset.toNat value
  let apr := currentApr r offset false false
  match e.tlbPtr r apr offset 2 true with
  | some p => do
    perform (.noteAccess apr true)
    e.setRamWord p value
  | none =>
    match e.vaRegStoreWord r offset value with
    | some _ => do
      perform (.regStoreWord e.host.build offset value)
      perform (.internalRegWrite e.host.build offset forceKernelD)
    | none =>
      e.translated offset (currentApr · offset false forceKernelD)
        (translateVaEx e.host.build · offset true false forceKernelD)
        (.translate e.host.build offset true false forceKernelD) () (e.rawStoreWordPhys · value)

/-- `core_load_word_mode_space`: a word of another mode's space. -/
def coreLoadWordModeSpace (e : Env β) (offset : Word) (mode : BitVec 2) (dataSpace : Bool) :
    M β Word := do
  let r ← regs
  if r.model = .dcj11 ∧ offset &&& 1 ≠ 0 then
    e.addressError
    return 0
  let apr := modeSpaceApr r offset mode dataSpace
  match e.tlbPtr r apr offset 2 false with
  | some p => do
    perform (.noteAccess apr false)
    e.ramWord p
  | none =>
    match e.vaRegLoadWord r offset with
    | some value => pure value
    | none =>
      e.translated offset (modeSpaceApr · offset mode dataSpace)
        (translateVaModeSpace e.host.build · offset false mode dataSpace)
        (.translateModeSpace e.host.build offset false mode dataSpace) 0 e.rawLoadWordPhys

def coreStoreWordModeSpace (e : Env β) (offset value : Word) (mode : BitVec 2)
    (dataSpace : Bool) : M β Unit := do
  let r ← regs
  if r.model = .dcj11 ∧ offset &&& 1 ≠ 0 then return ← e.addressError
  let apr := modeSpaceApr r offset mode dataSpace
  match e.tlbPtr r apr offset 2 true with
  | some p => do
    perform (.noteAccess apr true)
    e.setRamWord p value
  | none =>
    match e.vaRegStoreWord r offset value with
    | some _ => do
      perform (.regStoreWord e.host.build offset value)
      perform (.pdrWritten e.host.build ⟨mode, dataSpace, segOf offset⟩)
    | none =>
      e.translated offset (modeSpaceApr · offset mode dataSpace)
        (translateVaModeSpace e.host.build · offset true mode dataSpace)
        (.translateModeSpace e.host.build offset true mode dataSpace) () (e.rawStoreWordPhys · value)

def coreLoadByte (e : Env β) (offset : Word) : M β Byte := e.coreLoadByteEx offset false false

def coreStoreByte (e : Env β) (offset : Word) (value : Byte) : M β Unit :=
  e.coreStoreByteEx offset value false

def coreLoadWord (e : Env β) (offset : Word) : M β Word := e.coreLoadWordEx offset false false

def coreLoadWordIfetch (e : Env β) (offset : Word) : M β Word := e.coreLoadWordEx offset true false

def coreStoreWord (e : Env β) (offset value : Word) : M β Unit := e.coreStoreWordEx offset value false

/-- Vectors are fetched from kernel D space on an MMU build of a DCJ11, else physically. -/
def coreLoadWordVector (e : Env β) (offset : Word) : M β Word := do
  let a := offset &&& 0o177776
  let r ← regs
  if e.host.build.enableMmu ∧ r.model = .dcj11 then e.coreLoadWordModeSpace a 0 true
  else e.rawLoadWordPhys (a.setWidth 32)

end Env

end K1801.Core
