import K1801.Core.Registers

/-! # J-11 memory management

PAR/PDR decoding, the MMR registers, relocation, and the one-entry-per-page
translation cache behind the direct RAM path.
-/

namespace K1801.Core

abbrev mmuSsr0Addr : Word := 0o177572
abbrev mmuSsr1Addr : Word := 0o177574
abbrev mmuSsr2Addr : Word := 0o177576
abbrev mmuSsr3Addr : Word := 0o172516
abbrev mmuSsr3Alt : Word := 0o177516

abbrev mmuSsr0Enable : Word := 0o1
abbrev mmuSsr0PageMask : Word := 0o176
abbrev mmuSsr0Protect : Word := 0o20000
abbrev mmuSsr0Length : Word := 0o40000
abbrev mmuSsr0Nonres : Word := 0o100000
abbrev mmuSsr0Freeze : Word := 0o160000
abbrev mmuSsr0JMask : Word := 0o160177
abbrev mmuSsr0JWrMask : Word := 0o171401

abbrev mmuSsr3Ud : Word := 0o1
abbrev mmuSsr3Sd : Word := 0o2
abbrev mmuSsr3Kd : Word := 0o4
abbrev mmuSsr3Csm : Word := 0o10
abbrev mmuSsr3M22e : Word := 0o20
abbrev mmuSsr3JMask : Word := 0o77

abbrev mmuParJMask : Word := 0o177777
abbrev mmuPdrJMask : Word := 0o177516
abbrev mmuPdrW : Word := 0o100
abbrev mmuPdrA : Word := 0o200

abbrev mmuTlbValidMinMask : Word := 0x1FFF
abbrev mmuTlbWriteAllowed : Word := 0x8000

abbrev mmuPa18Mask : Dword := 0o777777
abbrev mmuPa22Mask : Dword := 0o17777777

abbrev mmuTrapVector : Word := 0o250

/-- `MMU_DEC`: the page register of one block of eight. -/
def mmuDec (a base : Word) (mode : BitVec 2) (space isPar : Bool) : Option (Apr × Bool) :=
  if base ≤ a ∧ a ≤ base + 0o16 ∧ (a - base) &&& 1 = 0 then
    some (⟨mode, space, ((a - base) >>> 1).setWidth 3⟩, isPar)
  else none

/-- `mmu_decode_parpdr`: the page register an address names, and whether it is the PAR. -/
def mmuDecodeParpdr (addr : Word) : Option (Apr × Bool) :=
  let a := addr &&& 0o177776
  mmuDec a 0o172200 1 false false <|> mmuDec a 0o172220 1 true false <|>
  mmuDec a 0o172240 1 false true <|> mmuDec a 0o172260 1 true true <|>
  mmuDec a 0o172300 0 false false <|> mmuDec a 0o172320 0 true false <|>
  mmuDec a 0o172340 0 false true <|> mmuDec a 0o172360 0 true true <|>
  mmuDec a 0o177600 3 false false <|> mmuDec a 0o177620 3 true false <|>
  mmuDec a 0o177640 3 false true <|> mmuDec a 0o177660 3 true true

def mmuIsRegAddress (b : Build) (addr : Word) : Bool :=
  let a := addr &&& 0o177776
  if !b.enableMmu && !b.mmuStubRegsWhenDisabled then false
  else if a = mmuSsr0Addr ∨ a = mmuSsr1Addr ∨ a = mmuSsr2Addr ∨ a = mmuSsr3Addr ∨
      a = mmuSsr3Alt then true
  else (mmuDecodeParpdr a).isSome

/-- Entries for #n and @#n (encoded 027) are suppressed when MMR1 is read. -/
def mmuSsr1Visible (r : Regs) : Word :=
  let mmr1 := r.mmu.ssr1
  if r.model ≠ .dcj11 then mmr1
  else
    let mmr1 := if mmr1 >>> 8 = 0o27 then mmr1 &&& 0o377 else mmr1
    if mmr1 &&& 0o377 = 0o27 then mmr1 >>> 8 else mmr1

def mmuIoReadWord (b : Build) (r : Regs) (addr : Word) : Option Word :=
  let a := addr &&& 0o177776
  let shown (v : Word) : Word := if b.enableMmu then v else 0
  if !b.enableMmu && !b.mmuStubRegsWhenDisabled then none
  else if r.model ≠ .dcj11 then none
  else if a = mmuSsr0Addr then some (shown r.mmu.ssr0)
  else if a = mmuSsr1Addr then some (shown (mmuSsr1Visible r))
  else if a = mmuSsr2Addr then some (shown r.mmu.ssr2)
  else if a = mmuSsr3Addr ∨ a = mmuSsr3Alt then some (shown (r.mmu.ssr3 &&& mmuSsr3JMask))
  else match mmuDecodeParpdr a with
    | some (apr, isPar) =>
      some (shown (if isPar then r.mmu.par apr &&& mmuParJMask else r.mmu.pdr apr &&& mmuPdrJMask))
    | none => none

/-! ## Access control and relocation -/

def mmuPhysFinalize (pa : Dword) (ssr3 : Word) : Dword :=
  if ssr3 &&& mmuSsr3M22e ≠ 0 then pa &&& mmuPa22Mask else pa &&& mmuPa18Mask

/-- Expansion direction and page length of a PDR. -/
def pdrEd (pdr : Word) : Word := (pdr >>> 3) &&& 1

def pdrLen (pdr : Word) : Word := (pdr >>> 8) &&& 0o177

def mmuAcfReadOk (pdr : Word) : Bool := pdr &&& 0o6 = 0o2 ∨ pdr &&& 0o6 = 0o6

def mmuAcfWriteOk (pdr : Word) : Bool := pdr &&& 0o6 = 0o6

def mmuAcfWriteIsProtect (pdr : Word) : Bool := pdr &&& 0o6 = 0o2

def mmuPhysIsIopage (pa : Dword) : Bool := 0o17760000 ≤ pa ∧ pa ≤ 0o17777777

def mmuSplitEnabled (r : Regs) (mode : BitVec 2) : Bool :=
  if mode = 0 then r.mmu.ssr3 &&& mmuSsr3Kd ≠ 0
  else if mode = 1 then r.mmu.ssr3 &&& mmuSsr3Sd ≠ 0
  else if mode = 3 then r.mmu.ssr3 &&& mmuSsr3Ud ≠ 0
  else false

def mmuEnabled (r : Regs) : Bool := r.mmu.ssr0 &&& mmuSsr0Enable ≠ 0

def segOf (va : Word) : BitVec 3 := ((va >>> 13) &&& 0o7).setWidth 3

/-! ## Translation cache -/

/-- The RAM offset of a page that lies in RAM as one piece. -/
def mmuTlbHostBase (r : Regs) (apr : Apr) : Option Nat :=
  let par := r.mmu.par apr &&& mmuParJMask
  let segBase : Dword := par.setWidth 32 <<< 6
  let paBase := mmuPhysFinalize segBase r.mmu.ssr3
  let paLast := mmuPhysFinalize (segBase + 0o17777) r.mmu.ssr3
  let linear := r.ramFast ∧ paBase ≤ paLast ∧ paLast - paBase = 0o17777 ∧
    !mmuPhysIsIopage paBase ∧ !mmuPhysIsIopage paLast ∧
    (paBase + 0o20000).toNat ≤ r.ramFastSize
  if linear then some paBase.toNat else none

def mmuTlbEntry (r : Regs) (apr : Apr) : TlbEntry :=
  let pdr := r.mmu.pdr apr &&& mmuPdrJMask
  if !mmuAcfReadOk pdr then {}
  else
    let down : Bool := pdrEd pdr ≠ 0
    let validMin : Word := if down then pdrLen pdr <<< 6 else 0
    let validMax : Word := if down then 0x1FFF else (pdrLen pdr <<< 6) ||| 0x3F
    -- the first legal write goes through translation to set PDR<W>
    let flags := if pdr &&& mmuPdrW ≠ 0 ∧ mmuAcfWriteOk pdr then mmuTlbWriteAllowed else 0
    { hostBase := mmuTlbHostBase r apr
      validMinFlags := validMin ||| flags
      validMax := validMax }

namespace Regs

def mmuTlbUpdate (apr : Apr) (r : Regs) : Regs :=
  { r with mmu.tlb := Function.update r.mmu.tlb apr (mmuTlbEntry r apr) }

/-- Every entry is rebuilt; an entry depends on no other entry. -/
def mmuTlbFlushAll (r : Regs) : Regs := { r with mmu.tlb := mmuTlbEntry r }

def setPdr (apr : Apr) (value : Word) (r : Regs) : Regs :=
  { r with mmu.pdr := Function.update r.mmu.pdr apr value }

/-- Status bits a successful access leaves in the PDR. -/
def mmuNoteAccess (apr : Apr) (isWrite : Bool) (r : Regs) : Regs :=
  r.setPdr apr (r.mmu.pdr apr ||| (if isWrite then mmuPdrA ||| mmuPdrW else mmuPdrA))

def mmuNoteWritePdrw (b : Build) (apr : Apr) (r : Regs) : Regs :=
  if !b.enableMmu then r
  else if r.model ≠ .dcj11 then r
  else if !mmuEnabled r then r
  else
    let apr := { apr with space := apr.space && mmuSplitEnabled r apr.mode }
    r.setPdr apr (r.mmu.pdr apr ||| mmuPdrW)

def mmuNoteInternalRegWrite (b : Build) (va : Word) (forceKernelD : Bool) (r : Regs) : Regs :=
  if !b.enableMmu then r
  else if r.model ≠ .dcj11 then r
  else if !mmuEnabled r then r
  else
    let mode := if forceKernelD then 0 else mmuModeFromPsw r.psw
    r.mmuNoteWritePdrw b ⟨mode, mmuSplitEnabled r mode, segOf va⟩

/-- `mmu_mmr1_instruction_start` -/
def mmuMmr1InstructionStart (b : Build) (r : Regs) : Regs :=
  if !b.enableMmu then r
  else if r.model ≠ .dcj11 then r
  else if r.mmu.ssr0 &&& mmuSsr0Freeze ≠ 0 then r
  else { r with mmu.ssr2 := r.r 7, mmu.ssr1 := 0 }

def mmuMmr1RecordDelta (b : Build) (reg : BitVec 3) (delta : Word) (r : Regs) : Regs :=
  if !b.enableMmu then r
  else if r.model ≠ .dcj11 then r
  else if r.mmu.ssr0 &&& mmuSsr0Freeze ≠ 0 then r
  else
    let entry := ((delta &&& 0o37) <<< 3) ||| reg.setWidth 16
    if r.mmu.ssr1 &&& 0o377 = 0 then { r with mmu.ssr1 := entry }
    else if r.mmu.ssr1 &&& 0o177400 = 0 then { r with mmu.ssr1 := r.mmu.ssr1 ||| (entry <<< 8) }
    else r

end Regs

def mmuFaultToSsr0Bits : MmuFault → Word
  | .nonres => mmuSsr0Nonres
  | .length => mmuSsr0Length
  | .protect => mmuSsr0Protect

/-- First-fault latch: MMR0<15:13> freezes itself, MMR1 and MMR2. MMR2 latches the PC
    of the faulting instruction. -/
def Regs.mmuRecordFault (b : Build) (fault : MmuFault) (apr : Apr) (r : Regs) : Regs :=
  if !b.enableMmu then r
  else if r.model ≠ .dcj11 then r
  else if r.mmu.ssr0 &&& mmuSsr0Freeze ≠ 0 then r
  else
    let page : Word := (apr.mode.setWidth 16 <<< 4) ||| ((if apr.space then 1 else 0) <<< 3) |||
      apr.seg.setWidth 16
    { r with
      mmu.ssr0 := ((r.mmu.ssr0 &&& mmuSsr0Enable) ||| ((page <<< 1) &&& mmuSsr0PageMask) |||
        mmuFaultToSsr0Bits fault) &&& mmuSsr0JMask
      mmu.ssr2 := r.instrPc }

def mmuIoWriteWord (b : Build) (r : Regs) (addr value : Word) : Option Regs :=
  let a := addr &&& 0o177776
  if !b.enableMmu && !b.mmuStubRegsWhenDisabled then none
  else if r.model ≠ .dcj11 then none
  else if a = mmuSsr0Addr then
    if !b.enableMmu then some r else
      let data := value &&& mmuSsr0JMask
      let r' := { r with
        mmu.ssr0 := (r.mmu.ssr0 &&& ~~~mmuSsr0JWrMask) ||| (data &&& mmuSsr0JWrMask) }
      if (r.mmu.ssr0 ^^^ value) &&& mmuSsr0Enable ≠ 0 then some r'.mmuTlbFlushAll else some r'
  else if a = mmuSsr1Addr then some r
  else if a = mmuSsr2Addr then some r
  else if a = mmuSsr3Addr ∨ a = mmuSsr3Alt then
    if !b.enableMmu then some r
    else some { r with mmu.ssr3 := value &&& mmuSsr3JMask }.mmuTlbFlushAll
  else match mmuDecodeParpdr a with
    | some (apr, isPar) =>
      if !b.enableMmu then some r
      else if isPar then
        -- any APR write clears the status bits of the paired PDR
        let r' := { r with mmu.par := Function.update r.mmu.par apr (value &&& mmuParJMask) }
        some ((r'.setPdr apr (r.mmu.pdr apr &&& ~~~(mmuPdrA ||| mmuPdrW))).mmuTlbUpdate apr)
      else
        some ((r.setPdr apr ((value &&& mmuPdrJMask) &&& ~~~(mmuPdrA ||| mmuPdrW))).mmuTlbUpdate apr)
    | none => none

def mmuIoReadByte (b : Build) (r : Regs) (addr : Word) : Option Byte :=
  (mmuIoReadWord b r (addr &&& 0o177776)).map (byteOf · addr)

def mmuIoWriteByte (b : Build) (r : Regs) (addr : Word) (value : Byte) : Option Regs :=
  let wa := addr &&& 0o177776
  if !mmuIsRegAddress b wa ∨ r.model ≠ .dcj11 then none
  else
    let w := (mmuIoReadWord b r wa).getD 0
    mmuIoWriteWord b r wa (withByte w addr value)

/-- `mmu_tlb_ptr`: the host address of an access that may bypass translation. -/
def mmuTlbPtr (r : Regs) (apr : Apr) (po width : Word) (isWrite : Bool) : Option Nat :=
  let entry := r.mmu.tlb apr
  let validMin := entry.validMinFlags &&& mmuTlbValidMinMask
  let last := po + width - 1
  match entry.hostBase with
  | none => none
  | some hostBase =>
    if po < validMin ∨ entry.validMax < last then none
    else if isWrite ∧ entry.validMinFlags &&& mmuTlbWriteAllowed = 0 then none
    else some (hostBase + po.toNat)

/-- The part `translate_va_ex` and `translate_va_mode_space` share: length and access
    checks, status bits, relocation. A refused write still leaves PDR<W>. -/
def mmuRelocate (b : Build) (r : Regs) (apr : Apr) (va : Word) (isWrite : Bool) :
    Except MmuFault Dword × Regs :=
  let block := (va >>> 6) &&& 0o177
  let pdr := r.mmu.pdr apr &&& mmuPdrJMask
  let par := r.mmu.par apr &&& mmuParJMask
  let ed := pdrEd pdr
  let len := pdrLen pdr
  let refused := if isWrite then r.mmuNoteWritePdrw b apr else r
  if (ed = 0 ∧ len < block) ∨ (ed ≠ 0 ∧ block < len) then (.error .length, refused)
  else if isWrite ∧ !mmuAcfWriteOk pdr then
    (.error (if mmuAcfWriteIsProtect pdr then .protect else .nonres), refused)
  else if !isWrite ∧ !mmuAcfReadOk pdr then (.error .nonres, refused)
  else
    let paBlock : Dword := ((par + block) &&& mmuParJMask).setWidth 32
    (.ok (mmuPhysFinalize ((paBlock <<< 6) ||| (va &&& 0o77).setWidth 32) r.mmu.ssr3),
      r.mmuNoteAccess apr isWrite)

/-- Relocation applies: an MMU build of a DCJ11 with MMR0<0> set. -/
def relocating (b : Build) (r : Regs) : Bool := b.enableMmu && r.model == .dcj11 && mmuEnabled r

/-- The page a current-mode access goes through. -/
def currentApr (r : Regs) (va : Word) (isIfetch forceKernelD : Bool) : Apr :=
  let mode := if forceKernelD then 0 else mmuModeFromPsw r.psw
  let space := if forceKernelD then mmuSplitEnabled r 0
    else if isIfetch then false else mmuSplitEnabled r mode
  ⟨mode, space, segOf va⟩

def translateVaEx (b : Build) (r : Regs) (va : Word) (isWrite isIfetch forceKernelD : Bool) :
    Except MmuFault Dword × Regs :=
  if !relocating b r then (.ok (va.setWidth 32), r)
  else
    let apr := currentApr r va isIfetch forceKernelD
    -- PSW<15:14>=2 is not folded onto kernel here: it aborts as non-resident
    if apr.mode = 2 then (.error .nonres, if isWrite then r.mmuNoteWritePdrw b apr else r)
    else mmuRelocate b r apr va isWrite

/-- The page an access in another mode's space goes through. -/
def modeSpaceApr (r : Regs) (va : Word) (mode : BitVec 2) (dataSpace : Bool) : Apr :=
  let mode := pswModeNormalize mode
  ⟨mode, dataSpace && mmuSplitEnabled r mode, segOf va⟩

def translateVaModeSpace (b : Build) (r : Regs) (va : Word) (isWrite : Bool)
    (mode : BitVec 2) (dataSpace : Bool) : Except MmuFault Dword × Regs :=
  if !relocating b r then (.ok (va.setWidth 32), r)
  else mmuRelocate b r (modeSpaceApr r va mode dataSpace) va isWrite

/-- `dcj11_io_alias_offset`: the I/O page window of the physical address space. -/
def dcj11IoAliasOffset (b : Build) (r : Regs) (pa : Dword) : Option Word :=
  if !relocating b r then none
  else if r.mmu.ssr3 &&& mmuSsr3M22e ≠ 0 then
    if pa < 0o17760000 ∨ 0o17777777 < pa then none else some (pa.setWidth 16)
  else if 0o760000 ≤ pa ∧ pa ≤ 0o777777 then some (0o160000 ||| (pa &&& 0o17777).setWidth 16)
  else none

def dcj11PhysInternalReg (b : Build) (offset : Word) : Bool :=
  let a := offset &&& 0o177776
  if dcj11RegMemerr ≤ a ∧ a ≤ dcj11RegPsw then true else mmuIsRegAddress b a

/-! ## The on-chip registers of a model -/

def regBlockLoadByte (b : Build) (r : Regs) (offset : Word) : Option Byte :=
  if r.model = .dcj11 then dcj11RegBlockLoadByte r offset <|> mmuIoReadByte b r offset
  else if r.model = .k1801vm1 then vm1RegBlockLoadByte r offset
  else none

def regBlockLoadWord (b : Build) (r : Regs) (offset : Word) : Option Word :=
  if r.model = .dcj11 then dcj11RegBlockLoadWord r offset <|> mmuIoReadWord b r offset
  else if r.model = .k1801vm1 then vm1RegBlockLoadWord r offset
  else none

def regBlockStoreByte (b : Build) (r : Regs) (offset : Word) (value : Byte) : Option Regs :=
  if r.model = .dcj11 then dcj11RegBlockStoreByte r offset value <|> mmuIoWriteByte b r offset value
  else if r.model = .k1801vm1 then vm1RegBlockStoreByte r offset value
  else none

def regBlockStoreWord (b : Build) (r : Regs) (offset value : Word) : Option Regs :=
  if r.model = .dcj11 then dcj11RegBlockStoreWord r offset value <|> mmuIoWriteWord b r offset value
  else if r.model = .k1801vm1 then vm1RegBlockStoreWord r offset value
  else none

/-- RESET clears PIRQ, MMR0 and MMR3. -/
def Regs.dcj11ResetInstructionState (b : Build) (r : Regs) : Regs :=
  if r.model ≠ .dcj11 then r
  else
    let r := { r with j11Pirq := 0 }
    if b.enableMmu then { r with mmu.ssr0 := 0, mmu.ssr3 := 0 }.mmuTlbFlushAll else r

end K1801.Core
