import K1801.Lsi11.Bus

/-! # Which bus addresses stay inside RAM

An access may leave the RAM array in two ways. The LSI-11 profile compares only the low 16
bits of an address with the end of RAM and then indexes with all of them; and a word access
checks its first byte only.
-/

namespace K1801.Lsi11

open Core

namespace Bus

variable {δ : Type}

/-- What the four accessors need of an address. -/
structure StaysInRam (b : Bus δ) (addr : Dword) : Prop where
  classified : b.busAddrIsRam addr = true → addr.toNat < b.cfg.ramBytes
  read8 : (b.busRead8 addr).isSome = true
  write8 : ∀ v, (b.busWrite8 addr v).isSome = true
  read16 : (b.busRead16 addr).isSome = true
  write16 : ∀ v, (b.busWrite16 addr v).isSome = true

/-- The LSI-11 profile takes the address for RAM because of its low 16 bits. -/
def Truncated (b : Bus δ) (addr : Dword) : Prop :=
  b.cfg.machine = .lsi11x1104 ∧ 0o200000 ≤ addr.toNat ∧ addr.toNat % 0o200000 ≤ 0o157777

/-- The address is the last one of the RAM array and no device or reserved window takes it. -/
def LastByte (b : Bus δ) (addr : Dword) : Prop :=
  addr.toNat + 1 = b.cfg.ramBytes ∧ (addr + 1).toNat = b.cfg.ramBytes ∧
    b.ioIsDecoded addr = false ∧ (b.cfg.machine = .pdp1184 → b.ioReserved addr = false)

/-! ## Decoding -/

theorem ioDecodeAddr_none_of_low {b : Bus δ} {addr : Dword} (hlow : addr.toNat % 0o200000 ≤ 0o157777)
    (hmachine : b.cfg.machine = .lsi11x1104) : b.ioDecodeAddr addr = none := by
  unfold ioDecodeAddr
  split
  · rename_i hpage
    have hstart : addr.setWidth 16 < ioPageStart := by
      rw [BitVec.lt_def, BitVec.toNat_setWidth]
      show addr.toNat % 65536 < 0o160000
      omega
    exact if_pos hstart
  · rw [hmachine]
    have hwindow : ¬ (io22Start ≤ addr ∧ addr ≤ io22End) := by
      rw [BitVec.le_def, BitVec.le_def]
      show ¬ (0o17760000 ≤ addr.toNat ∧ addr.toNat ≤ 0o17777777)
      omega
    exact if_neg hwindow

theorem busAddrIsRam_lsi11 {b : Bus δ} {addr : Dword} (hmachine : b.cfg.machine = .lsi11x1104) :
    b.busAddrIsRam addr = true ↔ addr.toNat % 0o200000 ≤ 0o157777 := by
  have hcmp : addr.setWidth 16 ≤ ramEnd ↔ addr.toNat % 0o200000 ≤ 0o157777 := by
    rw [BitVec.le_def, BitVec.toNat_setWidth]
    rfl
  unfold busAddrIsRam
  constructor
  · intro h
    split at h
    · cases h
    · rw [hmachine] at h
      exact hcmp.1 (of_decide_eq_true h)
  · intro hlow
    have hnone : b.ioIsDecoded addr = false := by
      unfold ioIsDecoded
      rw [ioDecodeAddr_none_of_low hlow hmachine]
      rfl
    rw [hnone, hmachine]
    exact decide_eq_true (hcmp.2 hlow)

theorem busAddrIsRam_pdp1184 {b : Bus δ} {addr : Dword} (hmachine : b.cfg.machine = .pdp1184) :
    b.busAddrIsRam addr = true ↔
      b.ioIsDecoded addr = false ∧ b.ioReserved addr = false ∧ addr.toNat < b.cfg.ramBytes := by
  unfold busAddrIsRam
  rw [hmachine]
  cases b.ioIsDecoded addr <;> cases b.ioReserved addr <;> simp

theorem ramBytes_lsi11 {cfg : BusCfg} (h : cfg.machine = .lsi11x1104) : cfg.ramBytes = 0o160000 := by
  have hsized := cfg.sized
  rw [h] at hsized
  have hkb : cfg.ramKb = 56 := hsized
  show cfg.ramKb * 1024 = _
  rw [hkb]

/-- The classification is right everywhere except at truncated addresses. -/
theorem classified_iff (b : Bus δ) (addr : Dword) :
    (b.busAddrIsRam addr = true → addr.toNat < b.cfg.ramBytes) ↔ ¬ b.Truncated addr := by
  cases hm : b.cfg.machine with
  | lsi11x1104 =>
    rw [busAddrIsRam_lsi11 hm, ramBytes_lsi11 hm, Truncated]
    constructor
    · rintro h ⟨-, hwide, hlow⟩
      have hlt := h hlow
      omega
    · intro h hlow
      by_contra hge
      exact h ⟨hm, by omega, hlow⟩
  | pdp1184 =>
    rw [busAddrIsRam_pdp1184 hm]
    constructor
    · rintro - ⟨hlsi, -⟩
      rw [hm] at hlsi
      cases hlsi
    · rintro - ⟨-, -, hlt⟩
      exact hlt

/-- The last byte of the array, in the terms of the classification. -/
theorem lastByte_iff {b : Bus δ} {addr : Dword} (hin : addr.toNat < b.cfg.ramBytes) :
    b.LastByte addr ↔ b.busAddrIsRam addr = true ∧ ¬ (addr + 1).toNat < b.cfg.ramBytes := by
  have hsucc : (addr + 1).toNat = (addr.toNat + 1) % 2 ^ 32 := rfl
  have hend : (addr.toNat + 1 = b.cfg.ramBytes ∧ (addr + 1).toNat = b.cfg.ramBytes) ↔
      ¬ (addr + 1).toNat < b.cfg.ramBytes := by
    rw [hsucc]
    omega
  rw [← hend, LastByte]
  cases hm : b.cfg.machine with
  | lsi11x1104 =>
    rw [busAddrIsRam_lsi11 hm]
    rw [ramBytes_lsi11 hm] at hin ⊢
    constructor
    · rintro ⟨h, h', -⟩
      exact ⟨by omega, h, h'⟩
    · rintro ⟨hlow, h, h'⟩
      refine ⟨h, h', ?_, nofun⟩
      unfold ioIsDecoded
      rw [ioDecodeAddr_none_of_low hlow hm]
      rfl
  | pdp1184 =>
    rw [busAddrIsRam_pdp1184 hm]
    constructor
    · rintro ⟨h, h', hdec, hres⟩
      exact ⟨⟨hdec, hres rfl, hin⟩, h, h'⟩
    · rintro ⟨⟨hdec, hres, -⟩, h, h'⟩
      exact ⟨h, h', hdec, fun _ => hres⟩

/-! ## Accessors -/

theorem ramRead_isSome {b : Bus δ} {addr : Dword} :
    (b.ramRead addr).isSome = true ↔ addr.toNat < b.cfg.ramBytes := by
  unfold ramRead
  split <;> simp_all

theorem ramWrite_isSome {b : Bus δ} {addr : Dword} {v : Byte} :
    (b.ramWrite addr v).isSome = true ↔ addr.toNat < b.cfg.ramBytes := by
  unfold ramWrite
  split <;> simp_all

theorem ramWrite_cfg {b b' : Bus δ} {addr : Dword} {v : Byte} (h : b.ramWrite addr v = some b') :
    b'.cfg = b.cfg := by
  unfold ramWrite at h
  split at h
  · cases h
    rfl
  · cases h

theorem not_ram_of_decoded {b : Bus δ} {addr : Dword} {a : Word} (h : b.ioDecodeAddr addr = some a) :
    b.busAddrIsRam addr = false := by
  unfold busAddrIsRam ioIsDecoded
  rw [h]
  rfl

/-- A byte access answers unless the address is taken for RAM and lies beyond it. -/
theorem busRead8_isSome {b : Bus δ} {addr : Dword} :
    (b.busRead8 addr).isSome = true ↔ (b.busAddrIsRam addr = true → addr.toNat < b.cfg.ramBytes) := by
  rw [← ramRead_isSome]
  unfold busRead8
  cases hio : b.ioDecodeAddr addr with
  | some a => simp [not_ram_of_decoded hio]
  | none =>
    cases b.busAddrIsRam addr with
    | false => simp
    | true => cases b.ramRead addr <;> simp

theorem busWrite8_isSome {b : Bus δ} {addr : Dword} {v : Byte} :
    (b.busWrite8 addr v).isSome = true ↔
      (b.busAddrIsRam addr = true → addr.toNat < b.cfg.ramBytes) := by
  rw [← ramWrite_isSome (v := v)]
  unfold busWrite8
  cases hio : b.ioDecodeAddr addr with
  | some a => simp [not_ram_of_decoded hio]
  | none => cases b.busAddrIsRam addr <;> simp

/-- A word access needs the next byte as well. -/
theorem busRead16_isSome {b : Bus δ} {addr : Dword} :
    (b.busRead16 addr).isSome = true ↔ (b.busAddrIsRam addr = true →
      addr.toNat < b.cfg.ramBytes ∧ (addr + 1).toNat < b.cfg.ramBytes) := by
  rw [← ramRead_isSome, ← ramRead_isSome]
  unfold busRead16
  cases hio : b.ioDecodeAddr addr with
  | some a => simp [not_ram_of_decoded hio]
  | none =>
    cases b.busAddrIsRam addr with
    | false => simp
    | true => cases b.ramRead addr <;> cases b.ramRead (addr + 1) <;> simp

theorem busWrite16_isSome {b : Bus δ} {addr : Dword} {v : Word} :
    (b.busWrite16 addr v).isSome = true ↔ (b.busAddrIsRam addr = true →
      addr.toNat < b.cfg.ramBytes ∧ (addr + 1).toNat < b.cfg.ramBytes) := by
  unfold busWrite16
  cases hio : b.ioDecodeAddr addr with
  | some a => simp [not_ram_of_decoded hio]
  | none =>
    cases b.busAddrIsRam addr with
    | false => simp
    | true =>
      have hfirst : (b.ramWrite addr (v.setWidth 8)).isSome = true ↔ addr.toNat < b.cfg.ramBytes :=
        ramWrite_isSome
      cases hw : b.ramWrite addr (v.setWidth 8) with
      | none =>
        rw [hw] at hfirst
        have hout : ¬ addr.toNat < b.cfg.ramBytes := fun hlt => Bool.false_ne_true (hfirst.2 hlt)
        simp [hout]
      | some b' =>
        rw [hw] at hfirst
        have hsecond : (b'.ramWrite (addr + 1) ((v >>> 8).setWidth 8)).isSome = true ↔
            (addr + 1).toNat < b'.cfg.ramBytes := ramWrite_isSome
        rw [ramWrite_cfg hw] at hsecond
        simpa [hfirst.1 rfl] using hsecond

end Bus

/-- The bus stays inside RAM at every address that is not a truncated one and not the last
    byte of the array, and at no other. -/
theorem staysInRam_iff {δ : Type} (b : Bus δ) (addr : Dword) :
    b.StaysInRam addr ↔ ¬ b.Truncated addr ∧ ¬ b.LastByte addr := by
  rw [← b.classified_iff addr]
  constructor
  · intro h
    refine ⟨h.classified, ?_⟩
    intro hlast
    have hin : addr.toNat < b.cfg.ramBytes := by
      have hend := hlast.1
      omega
    obtain ⟨hram, hout⟩ := (Bus.lastByte_iff hin).1 hlast
    exact hout (Bus.busRead16_isSome.1 h.read16 hram).2
  · rintro ⟨hclass, hlast⟩
    have hword : b.busAddrIsRam addr = true →
        addr.toNat < b.cfg.ramBytes ∧ (addr + 1).toNat < b.cfg.ramBytes := by
      intro hram
      have hin := hclass hram
      refine ⟨hin, ?_⟩
      by_contra hout
      exact hlast ((Bus.lastByte_iff hin).2 ⟨hram, hout⟩)
    exact ⟨hclass, Bus.busRead8_isSome.2 hclass, fun _ => Bus.busWrite8_isSome.2 hclass,
      Bus.busRead16_isSome.2 hword, fun _ => Bus.busWrite16_isSome.2 hword⟩

/-- The LSI-11 board with an empty I/O page. -/
def emptyBus : Bus Unit := busInit ⟨.lsi11x1104, lsi11FixedRamKb, rfl⟩ ⟨[], by decide⟩ ()

def identityMap : Ubmap := ⟨fun _ => 0, false⟩

/-- With extension bits 1 and bus address 0 the RK11 reads word 0200000, which the board
    takes for RAM though the array has 0160000 bytes. -/
theorem rkDma_leaves_ram :
    rkPa emptyBus identityMap 1 0 = 0o200000 ∧ emptyBus.busAddrIsRam 0o200000 = true ∧
      emptyBus.cfg.ramBytes = 0o160000 ∧ rkDmaReadWord emptyBus 0o200000 = none ∧
      ¬ emptyBus.StaysInRam 0o200000 := by
  refine ⟨rfl, rfl, rfl, rfl, ?_⟩
  intro h
  have hlt := h.classified rfl
  revert hlt
  decide

end K1801.Lsi11
