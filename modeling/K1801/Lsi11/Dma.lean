import K1801.Lsi11.BusBounds

/-! # DMA of the MSCP and TMSCP controllers

Both controllers check every byte of a transfer against the memory decoder and give up at the first one
outside memory. What was written before it stays written.
-/

namespace K1801.Lsi11

open Core

/-- Host memory behind a controller: the bus addresses that reach RAM, and byte accesses to them. -/
structure Dma (σ : Type) where
  ram : σ → Dword → Bool
  read8 : σ → Dword → Byte
  write8 : σ → Dword → Byte → σ
  ram_write8 : ∀ s a v, ram s a → ram (write8 s a v) = ram s

def le16 (v : Word) : List Byte := [v.setWidth 8, (v >>> 8).setWidth 8]

def le32 (v : Dword) : List Byte :=
  [v.setWidth 8, (v >>> 8).setWidth 8, (v >>> 16).setWidth 8, (v >>> 24).setWidth 8]

namespace Dma

variable {σ : Type} (dma : Dma σ)

def read8Checked (s : σ) (addr : Dword) : Option Byte := if dma.ram s addr then some (dma.read8 s addr) else none

def write8Checked (s : σ) (addr : Dword) (v : Byte) : Option σ :=
  if dma.ram s addr then some (dma.write8 s addr v) else none

def read16Checked (s : σ) (addr : Dword) : Option Word := do
  let lo ← dma.read8Checked s addr
  let hi ← dma.read8Checked s (addr + 1)
  some (lo.setWidth 16 ||| (hi.setWidth 16 <<< 8))

def read32Checked (s : σ) (addr : Dword) : Option Dword := do
  let lo ← dma.read16Checked s addr
  let hi ← dma.read16Checked s (addr + 2)
  some (lo.setWidth 32 ||| (hi.setWidth 32 <<< 16))

def readWords (s : σ) (addr : Dword) : Nat → Option (List Word)
  | 0 => some []
  | n + 1 => do
    let v ← dma.read16Checked s addr
    let rest ← readWords s (addr + 2) n
    some (v :: rest)

def readBytes (s : σ) (addr : Dword) : Nat → Option (List Byte)
  | 0 => some []
  | n + 1 => do
    let v ← dma.read8Checked s addr
    let rest ← readBytes s (addr + 1) n
    some (v :: rest)

def readableRange (s : σ) (addr : Dword) : Nat → Bool
  | 0 => true
  | n + 1 => dma.ram s addr && readableRange s (addr + 1) n

/-- Whether all of it was written, and the memory then. -/
def writeBytes (s : σ) (addr : Dword) : List Byte → Bool × σ
  | [] => (true, s)
  | v :: rest =>
    match dma.write8Checked s addr v with
    | none => (false, s)
    | some s => writeBytes s (addr + 1) rest

def write16Checked (s : σ) (addr : Dword) (v : Word) : Bool × σ := dma.writeBytes s addr (le16 v)

def write32Checked (s : σ) (addr : Dword) (v : Dword) : Bool × σ := dma.writeBytes s addr (le32 v)

def writeWords (s : σ) (addr : Dword) (vs : List Word) : Bool × σ := dma.writeBytes s addr (vs.flatMap le16)

theorem readBytes_length {s : σ} {addr : Dword} {n : Nat} {data : List Byte}
    (h : dma.readBytes s addr n = some data) : data.length = n := by
  induction n generalizing addr data with
  | zero =>
    cases h
    rfl
  | succ n ih =>
    simp only [readBytes, Option.bind_eq_bind, Option.bind_eq_some_iff] at h
    obtain ⟨v, -, rest, hrest, hdata⟩ := h
    cases hdata
    rw [List.length_cons, ih hrest]

/-- A range is readable if it is read in full. -/
theorem readableRange_eq (s : σ) (addr : Dword) (n : Nat) :
    dma.readableRange s addr n = (dma.readBytes s addr n).isSome := by
  induction n generalizing addr with
  | zero => rfl
  | succ n ih =>
    simp only [readableRange, readBytes, read8Checked, ih]
    cases dma.ram s addr with
    | false => rfl
    | true => cases dma.readBytes s (addr + 1) n <;> rfl

/-- A range is read by its parts. -/
theorem readBytes_append (s : σ) (addr : Dword) (m n : Nat) :
    dma.readBytes s addr (m + n) =
      (dma.readBytes s addr m).bind fun front =>
        (dma.readBytes s (addr + BitVec.ofNat 32 m) n).map fun back => front ++ back := by
  induction m generalizing addr with
  | zero => simp [readBytes]
  | succ m ih =>
    have hnext : addr + 1 + BitVec.ofNat 32 m = addr + BitVec.ofNat 32 (m + 1) := by
      rw [BitVec.add_assoc]
      congr 1
      apply BitVec.eq_of_toNat_eq
      simp [Nat.add_comm]
    rw [show m + 1 + n = m + n + 1 by omega]
    simp only [readBytes, ih, hnext]
    cases dma.read8Checked s addr with
    | none => rfl
    | some v =>
      cases dma.readBytes s (addr + 1) m with
      | none => rfl
      | some front => cases dma.readBytes s (addr + BitVec.ofNat 32 (m + 1)) n <;> rfl

end Dma

/-! ## On the bus -/

variable {δ : Type}

/-- `tq_dma_map_addr`: the PDP-11/84 sees the controller through the UNIBUS map. -/
def dmaMapAddr (b : Bus δ) (map : Ubmap) (addr : Dword) : Dword :=
  match b.cfg.machine with
  | .pdp1184 => ubmapMapAddr b map (addr &&& 0o777777)
  | .lsi11x1104 => addr

def dmaReachesRam (b : Bus δ) (map : Ubmap) (addr : Dword) : Bool :=
  b.busRangeIsRam (dmaMapAddr b map addr) 1 && !b.busIsNxm (dmaMapAddr b map addr)

/-- A transfer decodes like any other access; it writes RAM only. -/
theorem decode_busWrite8 {b b' : Bus δ} {addr : Dword} {v : Byte} (hram : b.busRangeIsRam addr 1 = true)
    (hwrite : b.busWrite8 addr v = some b') : ∃ ram, b' = { b with ram := ram } := by
  have haddr : b.busAddrIsRam addr = true := by simpa [Bus.busRangeIsRam] using hram
  have hdecode : b.ioDecodeAddr addr = none := by
    cases h : b.ioDecodeAddr addr with
    | none => rfl
    | some a => rw [Bus.not_ram_of_decoded h] at haddr; exact absurd haddr (by decide)
  simp only [Bus.busWrite8, hdecode, haddr, if_true, Bus.ramWrite] at hwrite
  split at hwrite
  · cases hwrite
    exact ⟨_, rfl⟩
  · exact absurd hwrite (by simp)

def busDma : Dma (Bus δ × Ubmap) where
  ram s addr := dmaReachesRam s.1 s.2 addr
  read8 s addr := ((s.1.busRead8 (dmaMapAddr s.1 s.2 addr)).map Prod.fst).getD 0
  write8 s addr v := ((s.1.busWrite8 (dmaMapAddr s.1 s.2 addr) v).getD s.1, s.2)
  ram_write8 s addr v h := by
    have hram : s.1.busRangeIsRam (dmaMapAddr s.1 s.2 addr) 1 = true := by
      simp only [dmaReachesRam, Bool.and_eq_true] at h
      exact h.1
    cases hwrite : s.1.busWrite8 (dmaMapAddr s.1 s.2 addr) v with
    | none => rfl
    | some b =>
      obtain ⟨ram, rfl⟩ := decode_busWrite8 hram hwrite
      rfl

end K1801.Lsi11
