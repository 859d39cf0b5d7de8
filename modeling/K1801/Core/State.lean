import Mathlib.Algebra.GroupWithZero.Nat
import Mathlib.Logic.Function.Basic

/-! # Processor state and host interface

`Regs` is the emulator's `struct _regs`; `Host` gathers the build switches and the
callbacks through which the core reaches memory, devices and interrupt sources.
-/

namespace K1801.Core

abbrev Byte := BitVec 8
abbrev Word := BitVec 16
abbrev Dword := BitVec 32

inductive Model where
  | k1801vm1
  | k1801vm2
  | k1806vm2
  | dcj11
  deriving Repr, DecidableEq

abbrev flagH : Word := 0o400
abbrev flagP : Word := 0o200
abbrev flagT : Word := 0o20
abbrev flagN : Word := 0o10
abbrev flagZ : Word := 0o4
abbrev flagV : Word := 0o2
abbrev flagC : Word := 0o1

/-- An FP11 accumulator: low and high longword. -/
structure Fpac where
  l : Dword := 0
  h : Dword := 0
  deriving Repr, DecidableEq

/-- FP11 state. The register changes of an instruction are collected in `regDelta` and
    applied when it completes. -/
structure Fpu where
  fr : BitVec 3 → Fpac := fun _ => {}
  fps : Dword := 0
  fea : Dword := 0
  fec : Dword := 0
  regDeltaMask : BitVec 8 := 0
  regDelta : BitVec 3 → Byte := fun _ => 0
  trapPending : Bool := false
  trapOldPc : Word := 0
  trapOldPsw : Word := 0
  backupPc : Word := 0

/-- Names one active page register pair: `mmu_par[mode][space][seg]`. -/
structure Apr where
  mode : BitVec 2
  space : Bool
  seg : BitVec 3
  deriving Repr, DecidableEq

/-- `hostBase` is an offset into the RAM array behind `ram_fast`, `none` for NULL. -/
structure TlbEntry where
  hostBase : Option Nat := none
  validMinFlags : Word := 0
  validMax : Word := 0
  deriving Repr, DecidableEq

/-- `mmu_ssr0` to `mmu_tlb` -/
structure Mmu where
  ssr0 : Word := 0
  ssr1 : Word := 0
  ssr2 : Word := 0
  ssr3 : Word := 0
  par : Apr → Word := fun _ => 0
  pdr : Apr → Word := fun _ => 0
  tlb : Apr → TlbEntry := fun _ => {}

structure Regs where
  model : Model
  psw : Word := 0
  r : BitVec 3 → Word := fun _ => 0
  ir : Word := 0
  instrPc : Word := 0
  /-- The local `psw_before` of `core_step`. -/
  pswBefore : Word := 0
  /-- Banks of R0..R5 selected by PSW<11>; cells 6 and 7 are never used. -/
  rsetBank : Bool → BitVec 3 → Word := fun _ _ => 0
  rsetBankInit : Bool := false
  spMode : BitVec 2 → Word := fun _ => 0
  spModeInit : Bool := false
  dcj11YellowPending : Bool := false
  dcj11StackTrapActive : Bool := false
  dcj11ExplicitPswWrite : Bool := false
  dcj11VectorPushActive : Bool := false
  dcj11VectorOldPc : Word := 0
  dcj11VectorOldPsw : Word := 0
  cps : Word := 0
  cpc : Word := 0
  sel0 : Word := 0
  j11Memerr : Word := 0
  j11Ccr : Word := 0
  j11Maint : Word := 0
  j11Hitmiss : Word := 0
  j11Cpuerr : Word := 0
  j11Pirq : Word := 0
  j11Stklim : Word := 0
  tveLimit : Word := 0
  tveCount : Word := 0
  tveCsr : Word := 0
  tvePending : Bool := false
  vm1RapPresent : Bool := false
  fTrap : Bool := false
  fWait : Bool := false
  fAbort : Bool := false
  fHaltSignal : Bool := false
  fStepDeferHalt : Bool := false
  hasFis : Bool := false
  hasFpu : Bool := false
  fpu : Fpu := {}
  mmu : Mmu := {}
  ramFast : Bool := false
  ramFastSize : Nat := 0

/-- Compile-time switches of the core. -/
structure Build where
  enableMmu : Bool
  mmuStubRegsWhenDisabled : Bool

/-- What a memory callback hands back. A callback that addresses nothing records
    the `nxm` bits in the CPU error register and enters the bus error trap before
    it returns its value. -/
structure Reply (β α : Type) where
  value : α
  bus : β
  nxm : Option Word := none

/-- The `reset` callback resets the devices and republishes three host-owned registers. -/
structure ResetReply (β : Type) where
  j11Maint : Word
  j11Hitmiss : Word
  sel0 : Word
  bus : β

inductive FisOp where
  | fadd | fsub | fmul | fdiv
  deriving Repr, DecidableEq

/-- Everything outside the core. Single-precision host arithmetic is given on IEEE
    bit patterns. -/
structure Host (β : Type) where
  build : Build
  loadByte : Regs → Word → β → Reply β Byte
  storeByte : Regs → Word → Byte → β → Reply β Unit
  loadWord : Regs → Word → β → Reply β Word
  storeWord : Regs → Word → Word → β → Reply β Unit
  loadBytePa : Option (Regs → Dword → β → Reply β Byte)
  storeBytePa : Option (Regs → Dword → Byte → β → Reply β Unit)
  loadWordPa : Option (Regs → Dword → β → Reply β Word)
  storeWordPa : Option (Regs → Dword → Word → β → Reply β Unit)
  reset : Regs → β → ResetReply β
  pollIrq : Option (Regs → β → Option Word × β)
  ramptr : β → Bool
  ram : β → Nat → Byte
  setRam : β → Nat → Byte → β
  fis : FisOp → Dword → Dword → Dword

/-- `MMU_FAULT_NONRES`, `MMU_FAULT_LENGTH`, `MMU_FAULT_PROTECT` -/
inductive MmuFault where
  | nonres | length | protect
  deriving Repr, DecidableEq

/-- The resources a step can run out of: nested traps and interrupt dispatches. -/
inductive Stuck where
  | nesting
  | polling
  deriving Repr, DecidableEq

namespace Model

/-- `is_vm2` -/
def isVm2 : Model → Bool
  | k1801vm2 | k1806vm2 => true
  | _ => false

/-- `has_prev_space_ops` -/
def hasPrevSpaceOps (m : Model) : Bool := m.isVm2 || m == dcj11

end Model

end K1801.Core
