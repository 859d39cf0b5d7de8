import K1801.Core.State

/-! # The bus of the LSI-11 board

Address decoding between RAM and the device registers of the I/O page, for the two board
profiles, and the path a disk controller takes to memory. An access to RAM answers `none`
when it would index the RAM array outside its bounds.
-/

namespace K1801.Lsi11

open Core

/-! ## Device registers -/

/-- `io_range_t`, with the check of `range_valid`. -/
structure IoRange (δ : Type) where
  start : Word
  last : Word
  ordered : start ≤ last
  read8 : Word → δ → Byte × δ
  write8 : Word → Byte → δ → δ

/-- `g_ranges`; the first range that holds an address serves it. -/
structure Devio (δ : Type) where
  ranges : List (IoRange δ)
  fits : ranges.length ≤ 64

namespace Devio

variable {δ : Type}

def serves (addr : Word) (range : IoRange δ) : Bool := range.start ≤ addr && addr ≤ range.last

def devioHas (io : Devio δ) (addr : Word) : Bool := io.ranges.any (serves addr)

def devioRead8 (io : Devio δ) (addr : Word) (d : δ) : Byte × δ :=
  match io.ranges.find? (serves addr) with
  | some range => range.read8 addr d
  | none => (0, d)

def devioWrite8 (io : Devio δ) (addr : Word) (v : Byte) (d : δ) : δ :=
  match io.ranges.find? (serves addr) with
  | some range => range.write8 addr v d
  | none => d

end Devio

/-! ## Configuration -/

/-- `BUS_MACHINE_LSI11_1104`, `BUS_MACHINE_PDP1184` -/
inductive BusMachine where
  | lsi11x1104
  | pdp1184
  deriving Repr, DecidableEq

abbrev lsi11FixedRamKb : Nat := 56
abbrev pdp1184DefaultRamKb : Nat := 4096
abbrev busRamGranularityKb : Nat := 4

/-- `bus_cfg_t` as `bus_configure` leaves it. -/
structure BusCfg where
  machine : BusMachine
  ramKb : Nat
  sized : match machine with
    | .lsi11x1104 => ramKb = lsi11FixedRamKb
    | .pdp1184 => 0 < ramKb ∧ ramKb % busRamGranularityKb = 0

/-- `g_ram_bytes` once `bus_init` has run -/
def BusCfg.ramBytes (cfg : BusCfg) : Nat := cfg.ramKb * 1024

def busConfigure (machine : BusMachine) (ramKb : Nat) : Except String BusCfg :=
  match machine with
  | .lsi11x1104 => .ok ⟨.lsi11x1104, lsi11FixedRamKb, rfl⟩
  | .pdp1184 =>
    if h0 : ramKb = 0 then .ok ⟨.pdp1184, pdp1184DefaultRamKb, by decide⟩
    else if h : ramKb % busRamGranularityKb = 0 then .ok ⟨.pdp1184, ramKb, Nat.pos_of_ne_zero h0, h⟩
    else .error s!"RAM size {ramKb} KB is invalid: must be multiple of {busRamGranularityKb} KB"

/-- The bus after `bus_init`. `io16` and `m22e` follow the relocation state of a J-11. -/
structure Bus (δ : Type) where
  cfg : BusCfg
  ram : Nat → Byte
  io16 : Bool
  m22e : Bool
  devio : Devio δ
  devices : δ

/-- `bus_init` clears RAM. -/
def busInit {δ : Type} (cfg : BusCfg) (devio : Devio δ) (devices : δ) : Bus δ where
  cfg := cfg
  ram := fun _ => 0
  io16 := true
  m22e := false
  devio := devio
  devices := devices

abbrev ramEnd : Word := 0o157777
abbrev ioPageStart : Word := 0o160000
abbrev ioPageEnd : Dword := 0o177777
abbrev io18Start : Dword := 0o760000
abbrev io18End : Dword := 0o777777
abbrev io22Start : Dword := 0o17760000
abbrev io22End : Dword := 0o17777777

namespace Bus

variable {δ : Type}

def decoded (b : Bus δ) (a16 : Word) : Option Word := if b.devio.devioHas a16 then some a16 else none

/-- The I/O page offset a wide address aliases. -/
def ioAlias (addr : Dword) : Word := 0o160000 ||| (addr &&& 0o17777).setWidth 16

def ioDecodeAddr (b : Bus δ) (addr : Dword) : Option Word :=
  if addr ≤ ioPageEnd then
    if addr.setWidth 16 < ioPageStart then none
    else if b.cfg.machine = .lsi11x1104 ∨ b.io16 then b.decoded (addr.setWidth 16)
    else none
  else match b.cfg.machine with
    | .pdp1184 =>
      if !b.m22e ∧ io18Start ≤ addr ∧ addr ≤ io18End then b.decoded (ioAlias addr)
      else if b.m22e ∧ io22Start ≤ addr ∧ addr ≤ io22End then b.decoded (ioAlias addr)
      else none
    | .lsi11x1104 =>
      if io22Start ≤ addr ∧ addr ≤ io22End then b.decoded (ioAlias addr) else none

def ioIsDecoded (b : Bus δ) (addr : Dword) : Bool := (b.ioDecodeAddr addr).isSome

/-- The windows the PDP-11/84 keeps free of RAM. -/
def ioReserved (b : Bus δ) (addr : Dword) : Bool :=
  if b.io16 then (ioPageStart.setWidth 32 ≤ addr && addr ≤ ioPageEnd) || (io18Start ≤ addr && addr ≤ io18End)
  else if b.m22e then io22Start ≤ addr && addr ≤ io22End
  else io18Start ≤ addr && addr ≤ io18End

def busAddrIsRam (b : Bus δ) (addr : Dword) : Bool :=
  if b.ioIsDecoded addr then false
  else match b.cfg.machine with
    | .lsi11x1104 => addr.setWidth 16 ≤ ramEnd
    | .pdp1184 => !b.ioReserved addr && addr.toNat < b.cfg.ramBytes

def busRangeIsRam (b : Bus δ) (addr : Dword) (len : Nat) : Bool :=
  (List.range len).all fun i => b.busAddrIsRam (addr + BitVec.ofNat 32 i)

def busIsNxm (b : Bus δ) (addr : Dword) : Bool := !b.ioIsDecoded addr && !b.busAddrIsRam addr

def readDevice (b : Bus δ) (a : Word) : Byte × Bus δ :=
  let (v, devices) := b.devio.devioRead8 a b.devices
  (v, { b with devices := devices })

def writeDevice (b : Bus δ) (a : Word) (v : Byte) : Bus δ :=
  { b with devices := b.devio.devioWrite8 a v b.devices }

/-- `g_ram[addr]` -/
def ramRead (b : Bus δ) (addr : Dword) : Option Byte :=
  if addr.toNat < b.cfg.ramBytes then some (b.ram addr.toNat) else none

/-- `g_ram[addr] = v` -/
def ramWrite (b : Bus δ) (addr : Dword) (v : Byte) : Option (Bus δ) :=
  if addr.toNat < b.cfg.ramBytes then some { b with ram := Function.update b.ram addr.toNat v }
  else none

def busRead8 (b : Bus δ) (addr : Dword) : Option (Byte × Bus δ) :=
  match b.ioDecodeAddr addr with
  | some a => some (b.readDevice a)
  | none =>
    if b.busAddrIsRam addr then do
      let v ← b.ramRead addr
      some (v, b)
    else some (0, b)

def busWrite8 (b : Bus δ) (addr : Dword) (v : Byte) : Option (Bus δ) :=
  match b.ioDecodeAddr addr with
  | some a => some (b.writeDevice a v)
  | none => if b.busAddrIsRam addr then b.ramWrite addr v else some b

/-- A device register is read as two bytes, low byte first. -/
def busRead16 (b : Bus δ) (addr : Dword) : Option (Word × Bus δ) :=
  match b.ioDecodeAddr addr with
  | some a =>
    let (lo, b) := b.readDevice a
    let (hi, b) := b.readDevice (a + 1)
    some (lo.setWidth 16 ||| (hi.setWidth 16 <<< 8), b)
  | none =>
    if b.busAddrIsRam addr then do
      let lo ← b.ramRead addr
      let hi ← b.ramRead (addr + 1)
      some (lo.setWidth 16 ||| (hi.setWidth 16 <<< 8), b)
    else some (0, b)

def busWrite16 (b : Bus δ) (addr : Dword) (v : Word) : Option (Bus δ) :=
  match b.ioDecodeAddr addr with
  | some a => some ((b.writeDevice a (v.setWidth 8)).writeDevice (a + 1) ((v >>> 8).setWidth 8))
  | none =>
    if b.busAddrIsRam addr then do
      let b ← b.ramWrite addr (v.setWidth 8)
      b.ramWrite (addr + 1) ((v >>> 8).setWidth 8)
    else some b

end Bus

/-! ## Direct memory access -/

/-- The UNIBUS map. -/
structure Ubmap where
  regs : BitVec 5 → Dword
  enabled : Bool

variable {δ : Type}

def ubmapMapAddr (b : Bus δ) (map : Ubmap) (unibusAddr : Dword) : Dword :=
  if b.cfg.machine ≠ .pdp1184 ∨ !map.enabled then unibusAddr &&& 0o777777
  else
    let page : BitVec 5 := (unibusAddr >>> 13).setWidth 5
    let off := unibusAddr &&& 0o17777
    if page = 0o37 then (io22Start + off) &&& 0o17777777 else (map.regs page + off) &&& 0o17777777

/-- The memory address of the RK11, from its bus address and extension bits. -/
def rkPa (b : Bus δ) (map : Ubmap) (mex : Byte) (ba : Word) : Dword :=
  let uba : Dword := (((mex &&& 3).setWidth 32 <<< 16) ||| ba.setWidth 32) &&& 0o777777
  if b.cfg.machine = .pdp1184 then ubmapMapAddr b map uba else uba

/-- The outer `none` is an access outside RAM, the inner one a refused transfer. -/
def rkDmaReadWord (b : Bus δ) (pa : Dword) : Option (Option Word × Bus δ) :=
  if !b.busRangeIsRam pa 2 then some (none, b)
  else if b.busIsNxm pa || b.busIsNxm (pa + 1) then some (none, b)
  else do
    let (w, b) ← b.busRead16 pa
    some (some w, b)

end K1801.Lsi11
