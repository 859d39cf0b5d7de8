import K1801.Library.SectorBuffer
import K1801.Lsi11.BusBounds

/-! # Word DMA of the disk controllers

RK11, RL11, RH11 and XP move one word at a time and ask the bus first whether both bytes are memory. The answer
depends on the board only, not on what memory holds. Where the LSI-11 board takes a wide address for memory, the
access leaves the RAM array.
-/

namespace K1801.Lsi11

open Core Library

variable {δ : Type}

/-- A disk image and the places of its medium that fail. -/
structure DiskImage where
  file : DiskFile
  medium : Medium := .perfect

/-- The counterpart of `rkDmaReadWord`; the other controllers have copies of both. `false` is a refused transfer. -/
def rkDmaWriteWord (b : Bus δ) (pa : Dword) (w : Word) : Option (Bool × Bus δ) :=
  if !b.busRangeIsRam pa 2 then some (false, b)
  else if b.busIsNxm pa || b.busIsNxm (pa + 1) then some (false, b)
  else do
    let b ← b.busWrite16 pa w
    some (true, b)

namespace Bus

/-- Both bytes of the word count as memory. -/
def reaches (b : Bus δ) (pa : Dword) : Bool := b.busRangeIsRam pa 2

/-- Both bytes of the word lie in the RAM array. -/
def backed (b : Bus δ) (pa : Dword) : Bool := pa.toNat + 1 < b.cfg.ramBytes

def withRam (b : Bus δ) (ram : Buffer) : Bus δ := { b with ram := ram }

@[simp] theorem withRam_ram (b : Bus δ) (ram : Buffer) : (b.withRam ram).ram = ram := rfl

@[simp] theorem withRam_self (b : Bus δ) : b.withRam b.ram = b := rfl

@[simp] theorem withRam_withRam (b : Bus δ) (ram ram' : Buffer) : (b.withRam ram).withRam ram' = b.withRam ram' := rfl

@[simp] theorem reaches_withRam (b : Bus δ) (ram : Buffer) (pa : Dword) :
    (b.withRam ram).reaches pa = b.reaches pa := rfl

@[simp] theorem backed_withRam (b : Bus δ) (ram : Buffer) (pa : Dword) :
    (b.withRam ram).backed pa = b.backed pa := rfl

theorem reaches_iff {b : Bus δ} {pa : Dword} :
    b.reaches pa = true ↔ b.busAddrIsRam pa = true ∧ b.busAddrIsRam (pa + 1) = true := by
  unfold reaches busRangeIsRam
  have hfirst : pa + BitVec.ofNat 32 0 = pa := BitVec.add_zero pa
  simp only [List.range_succ, List.range_zero, List.nil_append, List.cons_append, List.all_cons, List.all_nil,
    Bool.and_true, Bool.and_eq_true, hfirst]
  rfl

theorem decode_of_ram {b : Bus δ} {pa : Dword} (h : b.busAddrIsRam pa = true) : b.ioDecodeAddr pa = none := by
  cases hdec : b.ioDecodeAddr pa with
  | none => rfl
  | some a =>
    rw [not_ram_of_decoded hdec] at h
    cases h

theorem nxm_of_ram {b : Bus δ} {pa : Dword} (h : b.busAddrIsRam pa = true) : b.busIsNxm pa = false := by
  unfold busIsNxm
  rw [h, Bool.not_true, Bool.and_false]

end Bus

section Access

variable {b : Bus δ} {pa : Dword}

theorem succ_toNat (hpa : pa.toNat < 2 ^ 22) : (pa + 1).toNat = pa.toNat + 1 := by
  rw [BitVec.toNat_add]
  exact Nat.mod_eq_of_lt (by simp; omega)

theorem rkDmaReadWord_refused (h : b.reaches pa = false) : rkDmaReadWord b pa = some (none, b) := by
  unfold Bus.reaches at h
  unfold rkDmaReadWord
  rw [h]
  rfl

theorem rkDmaWriteWord_refused (h : b.reaches pa = false) (w : Word) : rkDmaWriteWord b pa w = some (false, b) := by
  unfold Bus.reaches at h
  unfold rkDmaWriteWord
  rw [h]
  rfl

theorem rkDmaReadWord_reached (h : b.reaches pa = true) (hpa : pa.toNat < 2 ^ 22) :
    rkDmaReadWord b pa = if b.backed pa then some (some (Buffer.word b.ram pa.toNat), b) else none := by
  obtain ⟨hram, hram'⟩ := Bus.reaches_iff.1 h
  unfold Bus.reaches at h
  unfold rkDmaReadWord Bus.busRead16 Bus.backed
  rw [h, Bus.nxm_of_ram hram, Bus.nxm_of_ram hram', Bus.decode_of_ram hram, hram]
  simp only [Bool.not_true, Bool.false_eq_true, if_false, Bool.or_self, if_true, Bus.ramRead, succ_toNat hpa]
  by_cases hlow : pa.toNat < b.cfg.ramBytes
  · by_cases hhigh : pa.toNat + 1 < b.cfg.ramBytes
    · simp [hlow, hhigh, Buffer.word]
    · simp [hlow, hhigh]
  · simp [hlow, show ¬ pa.toNat + 1 < b.cfg.ramBytes by omega]

theorem rkDmaWriteWord_reached (h : b.reaches pa = true) (hpa : pa.toNat < 2 ^ 22) (w : Word) :
    rkDmaWriteWord b pa w =
      if b.backed pa then some (true, b.withRam (Buffer.putWord b.ram pa.toNat w)) else none := by
  obtain ⟨hram, hram'⟩ := Bus.reaches_iff.1 h
  unfold Bus.reaches at h
  unfold rkDmaWriteWord Bus.busWrite16 Bus.backed
  rw [h, Bus.nxm_of_ram hram, Bus.nxm_of_ram hram', Bus.decode_of_ram hram, hram]
  simp only [Bool.not_true, Bool.false_eq_true, if_false, Bool.or_self, if_true, Bus.ramWrite, succ_toNat hpa]
  by_cases hlow : pa.toNat < b.cfg.ramBytes
  · by_cases hhigh : pa.toNat + 1 < b.cfg.ramBytes
    · simp [hlow, hhigh, Buffer.putWord, Buffer.put, Bus.withRam]
    · simp [hlow, hhigh]
  · simp [hlow, show ¬ pa.toNat + 1 < b.cfg.ramBytes by omega]

end Access

end K1801.Lsi11
