import K1801.Mk90.Memory

/-! # The routes to the memory of the MK-90

The windows begin at even addresses and end at odd ones, so the two bytes of a word at an even address take the same
route. The direct path serves what lies below the first address that some window takes from the RAM.
-/

namespace K1801.Mk90

open Core Library

/-! ## Windows -/

theorem toNat_next {address : Word} (h : address.toNat % 2 = 0) : (address + 1).toNat = address.toNat + 1 := by
  have hlt := address.isLt
  rw [BitVec.toNat_add]
  change (address.toNat + 1) % 65536 = _
  omega

theorem even_iff (address : Word) : address &&& 1 = 0 ↔ address.toNat % 2 = 0 := by
  rw [← BitVec.toNat_inj, BitVec.toNat_and]
  change address.toNat &&& 1 = 0 ↔ _
  rw [Nat.and_one_is_mod]

namespace Mk90Syscon

theorem endaddr_odd (index : Nat) : endaddr index % 2 = 1 := by
  unfold endaddr
  split <;> rfl

theorem endaddr_le (index : Nat) : endaddr index ≤ 0o157777 := by
  unfold endaddr
  split <;> decide

theorem startaddr_even (index : Nat) : startaddr index % 2 = 0 ∨ 0o157777 < startaddr index := by
  unfold startaddr
  split <;> decide

variable (s : Mk90Syscon) {address : Word}

theorem inRegisters_next (h : address.toNat % 2 = 0) : inRegisters (address + 1) = inRegisters address := by
  unfold inRegisters
  rw [toNat_next h, Bool.eq_iff_iff]
  simp only [Bool.and_eq_true, decide_eq_true_eq]
  omega

theorem wrRam_next (h : address.toNat % 2 = 0) : s.wrRam (address + 1) = s.wrRam address := by
  have hodd := endaddr_odd ((s.rg1 >>> 9) &&& 3).toNat
  have hend : address.toNat + 1 ≤ endaddr ((s.rg1 >>> 9) &&& 3).toNat ↔
      address.toNat ≤ endaddr ((s.rg1 >>> 9) &&& 3).toNat := by omega
  unfold wrRam
  dsimp only
  rw [toNat_next h, inRegisters_next h, decide_eq_decide.2 hend]

theorem rdRam_next (h : address.toNat % 2 = 0) : s.rdRam (address + 1) = s.rdRam address := by
  have hodd := endaddr_odd ((s.rg1 >>> 11) &&& 7).toNat
  have hend : address.toNat + 1 ≤ endaddr ((s.rg1 >>> 11) &&& 7).toNat ↔
      address.toNat ≤ endaddr ((s.rg1 >>> 11) &&& 7).toNat := by omega
  unfold rdRam
  dsimp only
  rw [toNat_next h, inRegisters_next h, decide_eq_decide.2 hend]

theorem rdRom_next (h : address.toNat % 2 = 0) : s.rdRom (address + 1) = s.rdRom address := by
  have heven := startaddr_even ((s.rg1 >>> 11) &&& 7).toNat
  have hlow : ∀ n, n % 2 = 1 → (address.toNat + 1 ≤ n ↔ address.toNat ≤ n) := by
    intro n hn
    omega
  have hhigh : ∀ n, n % 2 = 0 → (n ≤ address.toNat + 1 ↔ n ≤ address.toNat) := by
    intro n hn
    omega
  unfold rdRom
  dsimp only
  rw [toNat_next h]
  split
  · rfl
  · rw [decide_eq_decide.2 (hlow 0o157777 rfl), decide_eq_decide.2 (hlow 0o163777 rfl),
      decide_eq_decide.2 (hlow 0o176777 rfl), decide_eq_decide.2 (hhigh 0o160000 rfl),
      decide_eq_decide.2 (hhigh 0o166000 rfl)]
    rcases heven with heven | hnone
    · rw [decide_eq_decide.2 (hhigh _ heven)]
    · congr 2
      rw [Bool.eq_iff_iff]
      simp only [Bool.and_eq_true, decide_eq_true_eq]
      omega

theorem direct_next (h : address.toNat % 2 = 0) : s.direct (address + 1) = s.direct address := by
  rw [direct, s.rdRam_next h, s.wrRam_next h, s.rdRom_next h, direct]

theorem direct_spec (h : s.direct address = true) :
    s.rdRam address = true ∧ s.wrRam address = true ∧ s.rdRom address = false := by
  rw [direct, Bool.and_eq_true, Bool.and_eq_true, Bool.not_eq_true'] at h
  exact ⟨h.1.1, h.1.2, h.2⟩

/-- The last address of all belongs to no window. -/
theorem rdRam_lt (h : s.rdRam address = true) : address.toNat < 0o177777 := by
  have hend := endaddr_le ((s.rg1 >>> 11) &&& 7).toNat
  simp only [rdRam, inRegisters, Bool.or_eq_true, Bool.and_eq_true, decide_eq_true_eq] at h
  omega

theorem wrRam_lt (h : s.wrRam address = true) : address.toNat < 0o177777 := by
  have hend := endaddr_le ((s.rg1 >>> 9) &&& 3).toNat
  simp only [wrRam, inRegisters, Bool.or_eq_true, Bool.and_eq_true, decide_eq_true_eq] at h
  omega

end Mk90Syscon

theorem toNat_succ {address : Word} (h : address.toNat < 0o177777) : (address + 1).toNat = address.toNat + 1 := by
  rw [BitVec.toNat_add]
  change (address.toNat + 1) % 65536 = _
  omega

/-! ## The direct window -/

namespace Mk90Machine

variable {ι : Type}

theorem fastSizeFrom_spec (s : Mk90Syscon) (left n : Nat) :
    n ≤ fastSizeFrom s left n ∧ fastSizeFrom s left n ≤ n + left ∧
      (∀ k, n ≤ k → k < fastSizeFrom s left n → s.direct (BitVec.ofNat 16 k) = true) ∧
      (fastSizeFrom s left n = n + left ∨ s.direct (BitVec.ofNat 16 (fastSizeFrom s left n)) = false) := by
  induction left generalizing n with
  | zero => exact ⟨Nat.le_refl _, Nat.le_refl _, fun k hle hlt => absurd hlt (Nat.not_lt.2 hle), .inl rfl⟩
  | succ left ih =>
    rw [fastSizeFrom]
    cases hdirect : s.direct (BitVec.ofNat 16 n) with
    | false =>
      rw [Bool.not_false, if_pos rfl]
      exact ⟨Nat.le_refl _, Nat.le_add_right _ _, fun k hle hlt => absurd hlt (Nat.not_lt.2 hle), .inr hdirect⟩
    | true =>
      rw [Bool.not_true, if_neg Bool.false_ne_true]
      obtain ⟨hle, hend, hall, hstop⟩ := ih (n + 1)
      refine ⟨by omega, by omega, fun k hk hlt => ?_, ?_⟩
      · by_cases heq : k = n
        · rw [heq]
          exact hdirect
        · exact hall k (by omega) hlt
      · rcases hstop with hstop | hstop
        · exact .inl (by omega)
        · exact .inr hstop

/-- The direct path serves what `mk90_machine_sync_fast_ram` would publish now. -/
structure Synced (m : Mk90Machine ι) : Prop where
  size : m.ramFastSize = fastSizeFrom m.syscon m.ramSize.size 0
  on : m.ramFast = decide (m.ramFastSize ≠ 0)

theorem synced_syncFastRam (m : Mk90Machine ι) : m.syncFastRam.Synced := ⟨rfl, rfl⟩

/-- Two machines with the same windows. -/
structure SameWindows (m m' : Mk90Machine ι) : Prop where
  syscon : m'.syscon = m.syscon
  ramSize : m'.ramSize = m.ramSize
  fast : m'.ramFast = m.ramFast
  fastSize : m'.ramFastSize = m.ramFastSize

theorem SameWindows.refl (m : Mk90Machine ι) : m.SameWindows m := ⟨rfl, rfl, rfl, rfl⟩

theorem SameWindows.trans {m m' m'' : Mk90Machine ι} (h : m.SameWindows m') (h' : m'.SameWindows m'') :
    m.SameWindows m'' :=
  ⟨h'.syscon.trans h.syscon, h'.ramSize.trans h.ramSize, h'.fast.trans h.fast, h'.fastSize.trans h.fastSize⟩

theorem Synced.same {m m' : Mk90Machine ι} (h : m.Synced) (hsame : m.SameWindows m') : m'.Synced := by
  refine ⟨?_, ?_⟩
  · rw [hsame.fastSize, hsame.syscon, hsame.ramSize, h.size]
  · rw [hsame.fast, hsame.fastSize, h.on]

section Window

variable {m : Mk90Machine ι} (h : m.Synced) {address : Word}

theorem Synced.le (h : m.Synced) : m.ramFastSize ≤ m.ramSize.size := by
  rw [h.size]
  exact Nat.le_trans (fastSizeFrom_spec _ _ _).2.1 (by omega)

theorem Synced.direct (h : m.Synced) (hin : address.toNat < m.ramFastSize) :
    m.syscon.direct address = true ∧ address.toNat ≤ m.ramEnd := by
  have hle := h.le
  have hdirect := (fastSizeFrom_spec m.syscon m.ramSize.size 0).2.2.1 address.toNat (Nat.zero_le _)
    (by rw [← h.size]; exact hin)
  rw [BitVec.ofNat_toNat, BitVec.setWidth_eq] at hdirect
  refine ⟨hdirect, ?_⟩
  unfold ramEnd
  omega

theorem Synced.on_of_lt (h : m.Synced) {n : Nat} (hin : n < m.ramFastSize) : m.ramFast = true := by
  rw [h.on, decide_eq_true_eq]
  omega

/-- The window ends between words. -/
theorem Synced.even (h : m.Synced) : m.ramFastSize % 2 = 0 := by
  obtain ⟨_, _, hall, hstop⟩ := fastSizeFrom_spec m.syscon m.ramSize.size 0
  rw [← h.size] at hall hstop
  have hmost : m.ramSize.size ≤ 0o100000 := m.ramSize.most
  have hle := h.le
  by_contra hodd
  have hdirect := hall (m.ramFastSize - 1) (Nat.zero_le _) (by omega)
  rcases hstop with hstop | hstop
  · have hwhole := m.ramSize.whole
    omega
  · have hprev : (BitVec.ofNat 16 (m.ramFastSize - 1)).toNat = m.ramFastSize - 1 := by
      rw [BitVec.toNat_ofNat]
      exact Nat.mod_eq_of_lt (by change _ < 65536; omega)
    have heven : (BitVec.ofNat 16 (m.ramFastSize - 1)).toNat % 2 = 0 := by
      rw [hprev]
      omega
    have hnext : BitVec.ofNat 16 (m.ramFastSize - 1) + 1 = BitVec.ofNat 16 m.ramFastSize := by
      rw [← BitVec.toNat_inj, toNat_next heven, hprev, BitVec.toNat_ofNat,
        Nat.mod_eq_of_lt (by change _ < 65536; omega)]
      omega
    rw [← hnext, m.syscon.direct_next heven, hdirect] at hstop
    cases hstop

end Window

/-! ## Arrays -/

section Arrays

variable (m : Mk90Machine ι) {i : Nat}

theorem ramEnd_lt : m.ramEnd < mk90RamMaxSize := by
  have hmost := m.ramSize.most
  have hleast : 0o40000 ≤ m.ramSize.size := m.ramSize.least
  unfold ramEnd
  omega

theorem ramAt_in (h : i ≤ m.ramEnd) : m.ramAt i = some (m.ram i) := if_pos (Nat.lt_of_le_of_lt h m.ramEnd_lt)

theorem setRamAt_in (h : i ≤ m.ramEnd) (value : Byte) :
    m.setRamAt i value = some { m with ram := m.ram.put i value } := if_pos (Nat.lt_of_le_of_lt h m.ramEnd_lt)

theorem romAt_in (h : i < mk90RomSize) : m.romAt i = some (m.rom i) := if_pos h

theorem ramWordAt_in (h : i + 1 ≤ m.ramEnd) : m.ramWordAt i = some (wordOf (m.ram i) (m.ram (i + 1))) := by
  rw [ramWordAt, ramAt_in m (Nat.le_of_succ_le h), ramAt_in m h]
  rfl

theorem romWordAt_in (h : i + 1 < mk90RomSize) : m.romWordAt i = some (wordOf (m.rom i) (m.rom (i + 1))) := by
  rw [romWordAt, romAt_in m (Nat.lt_of_succ_lt h), romAt_in m h]
  rfl

theorem setRamWordAt_in (h : i + 1 ≤ m.ramEnd) (value : Word) : m.setRamWordAt i value =
    some { m with ram := (m.ram.put i (value.setWidth 8)).put (i + 1) ((value >>> 8).setWidth 8) } := by
  rw [setRamWordAt, setRamAt_in m (Nat.le_of_succ_le h)]
  exact setRamAt_in { m with ram := m.ram.put i (value.setWidth 8) } h _

end Arrays

/-! ## Bytes and words -/

section Routes

variable (unit : Mk90IoUnit ι) (m : Mk90Machine ι) {address : Word}

/-- What a load finds at an address that belongs to no device. -/
def cell (address : Word) : Byte :=
  if m.syscon.rdRam address ∧ address.toNat ≤ m.ramEnd then m.ram address.toNat
  else if (m.syscon.rdRom address ∨ m.ramEnd < address.toNat) ∧ mk90RomStart ≤ address.toNat ∧
      address.toNat - mk90RomStart < mk90RomSize then m.rom (address.toNat - mk90RomStart)
  else 0o377

theorem readByte_plain (h : m.syscon.rdRam address = true → address.toNat ≤ m.ramEnd ∨ deviceAt 1 address = none) :
    m.readByte unit address = some (m.cell address, m) := by
  unfold readByte cell
  dsimp only
  by_cases hram : m.syscon.rdRam address = true ∧ address.toNat ≤ m.ramEnd
  · rw [if_pos hram, if_pos hram, ramAt_in m hram.2]
    rfl
  · have hnone : (if m.syscon.rdRam address = true then deviceAt 1 address else none) = none := by
      split_ifs with hrd
      · exact (h hrd).resolve_left fun hle => hram ⟨hrd, hle⟩
      · rfl
    rw [if_neg hram, if_neg hram, hnone]
    dsimp only
    by_cases hrom : m.syscon.rdRom address = true ∧ mk90RomStart ≤ address.toNat ∧
        address.toNat - mk90RomStart < mk90RomSize
    · rw [if_pos hrom, if_pos ⟨.inl hrom.1, hrom.2⟩, romAt_in m hrom.2.2]
      rfl
    · rw [if_neg hrom]
      by_cases hhole : m.ramEnd < address.toNat ∧ mk90RomStart ≤ address.toNat ∧
          address.toNat - mk90RomStart < mk90RomSize
      · rw [if_pos hhole, if_pos ⟨.inr hhole.1, hhole.2⟩, romAt_in m hhole.2.2]
        rfl
      · rw [if_neg hhole, if_neg]
        rintro ⟨hrd | hend, hin⟩
        · exact hrom ⟨hrd, hin⟩
        · exact hhole ⟨hend, hin⟩

theorem deviceAt_next (heven : address.toNat % 2 = 0) (h : deviceAt 1 address = none) :
    deviceAt 2 address = none ∧ deviceAt 1 (address + 1) = none := by
  unfold deviceAt at h ⊢
  rw [toNat_next heven]
  dsimp only [mk90LcdBase, mk90IoBase, mk90SysBase, mk90RtcBase] at h ⊢
  split_ifs at h
  split_ifs
  all_goals first | exact ⟨rfl, rfl⟩ | omega

theorem readBytes_plain (heven : address.toNat % 2 = 0) (h : deviceAt 1 address = none) :
    m.readBytes unit address = some (wordOf (m.cell address) (m.cell (address + 1)), m) := by
  have hlo : m.readByte unit address = some (m.cell address, m) := m.readByte_plain unit fun _ => .inr h
  have hhi : m.readByte unit (address + 1) = some (m.cell (address + 1), m) :=
    m.readByte_plain unit fun _ => .inr (deviceAt_next heven h).2
  simp only [readBytes, hlo, hhi, Option.bind_eq_bind, Option.bind_some]

/-- A word at an even address outside the devices is its two bytes. -/
theorem readWord_plain (heven : address.toNat % 2 = 0) (h : deviceAt 1 address = none) :
    m.readWord unit address = m.readBytes unit address := by
  have hnext := toNat_next heven
  have hrd := m.syscon.rdRam_next heven
  have hrom := m.syscon.rdRom_next heven
  have hwhole := m.ramSize.whole
  have hleast : 0o40000 ≤ m.ramSize.size := m.ramSize.least
  have hend : m.ramEnd = m.ramSize.size - 1 := rfl
  unfold readWord
  dsimp only
  rw [(deviceAt_next heven h).1, ite_self]
  dsimp only
  by_cases hram : m.syscon.rdRam address = true
  · rw [if_pos hram]
    by_cases hin : (address + 1).toNat ≤ m.ramEnd
    · rw [if_pos hin, m.ramWordAt_in (by omega), m.readBytes_plain unit heven h, cell, if_pos ⟨hram, by omega⟩, cell,
        if_pos ⟨by rw [hrd]; exact hram, hin⟩, hnext]
      rfl
    · rw [if_neg hin]
      by_cases hhole : m.ramEnd < (address + 1).toNat ∧ mk90RomStart ≤ address.toNat ∧
          address.toNat - mk90RomStart + 1 < mk90RomSize
      · have hlow : m.ramEnd < address.toNat := by omega
        have hsub : (address + 1).toNat - mk90RomStart = address.toNat - mk90RomStart + 1 := by omega
        rw [if_pos hhole, m.romWordAt_in hhole.2.2, m.readBytes_plain unit heven h, cell,
          if_neg fun hcon => absurd hcon.2 (Nat.not_le.2 hlow), if_pos ⟨.inr hlow, hhole.2.1, by omega⟩, cell,
          if_neg fun hcon => absurd hcon.2 hin, if_pos ⟨.inr hhole.1, by omega, by omega⟩, hsub]
        rfl
      · rw [if_neg hhole]
  · rw [if_neg hram]
    by_cases hin : m.syscon.rdRom address = true ∧ mk90RomStart ≤ address.toNat ∧
        address.toNat - mk90RomStart + 1 < mk90RomSize
    · have hsub : (address + 1).toNat - mk90RomStart = address.toNat - mk90RomStart + 1 := by omega
      rw [if_pos hin, m.romWordAt_in hin.2.2, m.readBytes_plain unit heven h, cell, if_neg fun hcon => hram hcon.1,
        if_pos ⟨.inl hin.1, hin.2.1, by omega⟩, cell, if_neg fun hcon => hram (by rw [← hrd]; exact hcon.1),
        if_pos ⟨.inl (by rw [hrom]; exact hin.1), by omega, by omega⟩, hsub]
      rfl
    · rw [if_neg hin]

theorem writeWord_plain (heven : address.toNat % 2 = 0) (h : deviceAt 1 address = none) (value : Word) :
    m.writeWord unit address value = m.writeBytes unit address value := by
  have hnext := toNat_next heven
  have hwr := m.syscon.wrRam_next heven
  unfold writeWord
  dsimp only
  rw [(deviceAt_next heven h).1, ite_self]
  dsimp only
  by_cases hram : m.syscon.wrRam address = true
  · rw [if_neg (by rw [hram]; decide)]
    by_cases hin : (address + 1).toNat ≤ m.ramEnd
    · have hfirst : m.writeByte unit address (value.setWidth 8) =
          some { m with ram := m.ram.put address.toNat (value.setWidth 8) } := by
        rw [writeByte, if_neg (by rw [hram]; decide), if_pos (by omega), m.setRamAt_in (by omega)]
      rw [if_pos hin, m.setRamWordAt_in (by omega), writeBytes, hfirst]
      change _ = writeByte unit _ (address + 1) _
      rw [writeByte]
      dsimp only
      rw [if_neg (by rw [hwr, hram]; decide), if_pos (by exact hin), hnext, setRamAt_in _ (by rw [← hnext]; exact hin)]
    · rw [if_neg hin]
  · have hshut : (!m.syscon.wrRam address) = true := by
      rw [Bool.eq_false_iff.2 hram]
      rfl
    rw [if_pos hshut, writeBytes, writeByte, if_pos hshut]
    change _ = m.writeByte unit (address + 1) _
    rw [writeByte, hwr, if_pos hshut]

/-! ## Every access answers -/

theorem readByte_answers (address : Word) :
    ∃ value m', m.readByte unit address = some (value, m') ∧ m.SameWindows m' := by
  by_cases h : m.syscon.rdRam address = true → address.toNat ≤ m.ramEnd ∨ deviceAt 1 address = none
  · exact ⟨_, m, m.readByte_plain unit h, .refl m⟩
  · rw [Classical.not_imp, not_or] at h
    obtain ⟨hrd, hout, hdevice⟩ := h
    obtain ⟨⟨device, offset⟩, hd⟩ := Option.ne_none_iff_exists'.1 hdevice
    unfold readByte
    dsimp only
    rw [if_neg fun hcon => hout hcon.2, if_pos hrd, hd]
    refine ⟨_, _, rfl, ?_⟩
    cases device with
    | lcd => exact .refl m
    | sys => exact .refl m
    | io => exact ⟨rfl, rfl, rfl, rfl⟩
    | rtc => exact ⟨rfl, rfl, rfl, rfl⟩

theorem readBytes_answers (address : Word) :
    ∃ value m', m.readBytes unit address = some (value, m') ∧ m.SameWindows m' := by
  obtain ⟨lo, m₁, hlo, hsame⟩ := m.readByte_answers unit address
  obtain ⟨hi, m₂, hhi, hsame'⟩ := m₁.readByte_answers unit (address + 1)
  refine ⟨wordOf lo hi, m₂, ?_, hsame.trans hsame'⟩
  simp only [readBytes, hlo, hhi, Option.bind_eq_bind, Option.bind_some]

theorem readWord_answers (address : Word) :
    ∃ value m', m.readWord unit address = some (value, m') ∧ m.SameWindows m' := by
  unfold readWord
  dsimp only
  by_cases hram : m.syscon.rdRam address = true
  · have hnext := toNat_succ (m.syscon.rdRam_lt hram)
    rw [if_pos hram]
    by_cases hin : (address + 1).toNat ≤ m.ramEnd
    · rw [if_pos hin, m.ramWordAt_in (by omega)]
      exact ⟨_, m, rfl, .refl m⟩
    · rw [if_neg hin]
      rcases (if address &&& 1 = 0 then deviceAt 2 address else none) with _ | ⟨device, offset⟩
      · dsimp only
        split_ifs with hhole
        · rw [m.romWordAt_in hhole.2.2]
          exact ⟨_, m, rfl, .refl m⟩
        · exact m.readBytes_answers unit address
      · refine ⟨_, _, rfl, ?_⟩
        cases device with
        | lcd => exact .refl m
        | sys => exact .refl m
        | io => exact ⟨rfl, rfl, rfl, rfl⟩
        | rtc => exact ⟨rfl, rfl, rfl, rfl⟩
  · rw [if_neg hram]
    split_ifs with hin
    · rw [m.romWordAt_in hin.2.2]
      exact ⟨_, m, rfl, .refl m⟩
    · exact m.readBytes_answers unit address

variable {m}

theorem Synced.setRegisterWord (h : m.Synced) (offset value : Word) (device : Mk90Device) :
    (m.setRegisterWord unit offset value device).Synced := by
  cases device with
  | lcd => exact h.same ⟨rfl, rfl, rfl, rfl⟩
  | io => exact h.same ⟨rfl, rfl, rfl, rfl⟩
  | sys => exact synced_syncFastRam _
  | rtc => exact h.same ⟨rfl, rfl, rfl, rfl⟩

theorem Synced.setRegisterByte (h : m.Synced) (offset : Word) (value : Byte) (device : Mk90Device) :
    (m.setRegisterByte unit offset value device).Synced := by
  cases device with
  | lcd => exact h.same ⟨rfl, rfl, rfl, rfl⟩
  | io => exact h.same ⟨rfl, rfl, rfl, rfl⟩
  | sys => exact synced_syncFastRam _
  | rtc => exact h.same ⟨rfl, rfl, rfl, rfl⟩

theorem Synced.writeByte (h : m.Synced) (address : Word) (value : Byte) :
    ∃ m', m.writeByte unit address value = some m' ∧ m'.Synced := by
  unfold Mk90Machine.writeByte
  dsimp only
  split_ifs with hshut hin
  · exact ⟨m, rfl, h⟩
  · rw [m.setRamAt_in hin]
    exact ⟨_, rfl, h.same ⟨rfl, rfl, rfl, rfl⟩⟩
  · rcases deviceAt 1 address with _ | ⟨device, offset⟩
    · exact ⟨m, rfl, h⟩
    · exact ⟨_, rfl, h.setRegisterByte unit offset value device⟩

theorem Synced.writeBytes (h : m.Synced) (address value : Word) :
    ∃ m', m.writeBytes unit address value = some m' ∧ m'.Synced := by
  obtain ⟨m₁, hlo, hsynced⟩ := h.writeByte unit address (value.setWidth 8)
  rw [Mk90Machine.writeBytes, hlo]
  exact hsynced.writeByte unit _ _

theorem Synced.writeWord (h : m.Synced) (address value : Word) :
    ∃ m', m.writeWord unit address value = some m' ∧ m'.Synced := by
  unfold Mk90Machine.writeWord
  dsimp only
  by_cases hshut : (!m.syscon.wrRam address) = true
  · rw [if_pos hshut]
    exact ⟨m, rfl, h⟩
  · rw [if_neg hshut]
    rw [Bool.not_eq_true', Bool.not_eq_false] at hshut
    have hnext := toNat_succ (m.syscon.wrRam_lt hshut)
    by_cases hin : (address + 1).toNat ≤ m.ramEnd
    · rw [if_pos hin, m.setRamWordAt_in (by omega)]
      exact ⟨_, rfl, h.same ⟨rfl, rfl, rfl, rfl⟩⟩
    · rw [if_neg hin]
      rcases (if address &&& 1 = 0 then deviceAt 2 address else none) with _ | ⟨device, offset⟩
      · exact h.writeBytes unit address value
      · exact ⟨_, rfl, h.setRegisterWord unit offset value device⟩

end Routes

/-! ## The routes -/

section Cells

variable (unit : Mk90IoUnit ι) {m : Mk90Machine ι} {address : Word}

theorem Synced.readByte_cell (h : m.Synced) (hin : address.toNat < m.ramFastSize) :
    m.readByte unit address = some (m.ram address.toNat, m) := by
  obtain ⟨hdirect, hend⟩ := h.direct hin
  obtain ⟨hrd, _, _⟩ := m.syscon.direct_spec hdirect
  rw [m.readByte_plain unit fun _ => .inl hend, cell, if_pos ⟨hrd, hend⟩]

theorem Synced.writeByte_cell (h : m.Synced) (hin : address.toNat < m.ramFastSize) (value : Byte) :
    m.writeByte unit address value = some { m with ram := m.ram.put address.toNat value } := by
  obtain ⟨hdirect, hend⟩ := h.direct hin
  obtain ⟨_, hwr, _⟩ := m.syscon.direct_spec hdirect
  rw [Mk90Machine.writeByte, if_neg (by rw [hwr]; decide), if_pos hend, m.setRamAt_in hend]

theorem Synced.word (h : m.Synced) (hin : address.toNat + 1 < m.ramFastSize) :
    m.syscon.rdRam address = true ∧ m.syscon.wrRam address = true ∧ (address + 1).toNat = address.toNat + 1 ∧
      address.toNat + 1 ≤ m.ramEnd := by
  obtain ⟨hdirect, _⟩ := h.direct (Nat.lt_of_succ_lt hin)
  obtain ⟨hrd, hwr, _⟩ := m.syscon.direct_spec hdirect
  have hle := h.le
  have hnext := toNat_succ (m.syscon.rdRam_lt hrd)
  exact ⟨hrd, hwr, hnext, by unfold ramEnd; omega⟩

theorem Synced.readWord_cell (h : m.Synced) (hin : address.toNat + 1 < m.ramFastSize) :
    m.readWord unit address = some (wordOf (m.ram address.toNat) (m.ram (address.toNat + 1)), m) := by
  obtain ⟨hrd, _, hnext, hend⟩ := h.word hin
  unfold Mk90Machine.readWord
  dsimp only
  rw [if_pos hrd, if_pos (by omega), m.ramWordAt_in hend]
  rfl

theorem Synced.writeWord_cell (h : m.Synced) (hin : address.toNat + 1 < m.ramFastSize) (value : Word) :
    m.writeWord unit address value = some { m with
      ram := (m.ram.put address.toNat (value.setWidth 8)).put (address.toNat + 1) ((value >>> 8).setWidth 8) } := by
  obtain ⟨_, hwr, hnext, hend⟩ := h.word hin
  rw [Mk90Machine.writeWord, if_neg (by rw [hwr]; decide), if_pos (by omega), m.setRamWordAt_in hend]

end Cells

/-- What the routes to the memory of the machine promise. -/
structure Routes (unit : Mk90IoUnit ι) (m : Mk90Machine ι) : Prop where
  /-- Below `ram_fast_size` is plain RAM. -/
  bytes : ∀ address : Word, address.toNat < m.ramFastSize →
    m.readByte unit address = some (m.ram address.toNat, m) ∧
      ∀ value, m.writeByte unit address value = some { m with ram := m.ram.put address.toNat value }
  words : ∀ address : Word, address.toNat + 1 < m.ramFastSize →
    m.readWord unit address = some (wordOf (m.ram address.toNat) (m.ram (address.toNat + 1)), m) ∧
      ∀ value, m.writeWord unit address value = some { m with
        ram := (m.ram.put address.toNat (value.setWidth 8)).put (address.toNat + 1) ((value >>> 8).setWidth 8) }
  whole : ∀ address : Word, address.toNat % 2 = 0 → address.toNat < m.ramFastSize →
    address.toNat + 1 < m.ramFastSize
  /-- The direct path does what the bus does. -/
  direct : ∀ address : Word, m.loadByte unit address = m.readByte unit address ∧
    m.loadWord unit address = m.readWord unit address ∧
    (∀ value, m.storeByte unit address value = m.writeByte unit address value) ∧
    ∀ value, m.storeWord unit address value = m.writeWord unit address value
  /-- A word outside the devices is its two bytes. -/
  pairs : ∀ address : Word, address.toNat % 2 = 0 → deviceAt 1 address = none →
    m.readWord unit address = m.readBytes unit address ∧
      ∀ value, m.writeWord unit address value = m.writeBytes unit address value
  /-- No access leaves the arrays. -/
  bounded : ∀ address : Word, m.readByte unit address ≠ none ∧ m.readWord unit address ≠ none ∧
    (∀ value, m.writeByte unit address value ≠ none) ∧ ∀ value, m.writeWord unit address value ≠ none

theorem Synced.routes (unit : Mk90IoUnit ι) {m : Mk90Machine ι} (h : m.Synced) : m.Routes unit where
  bytes _ hin := ⟨h.readByte_cell unit hin, h.writeByte_cell unit hin⟩
  words _ hin := ⟨h.readWord_cell unit hin, h.writeWord_cell unit hin⟩
  whole address heven hin := by
    have hsize := h.even
    omega
  direct address := by
    refine ⟨?_, ?_, fun value => ?_, fun value => ?_⟩
    · unfold Mk90Machine.loadByte
      split_ifs with hin
      · rw [h.readByte_cell unit hin.2, m.ramAt_in (h.direct hin.2).2]
        rfl
      · rfl
    · unfold Mk90Machine.loadWord
      split_ifs with hin
      · rw [h.readWord_cell unit hin.2, m.ramWordAt_in (h.word hin.2).2.2.2]
        rfl
      · rfl
    · unfold Mk90Machine.storeByte
      split_ifs with hin
      · rw [h.writeByte_cell unit hin.2, m.setRamAt_in (h.direct hin.2).2]
      · rfl
    · unfold Mk90Machine.storeWord
      split_ifs with hin
      · rw [h.writeWord_cell unit hin.2, m.setRamWordAt_in (h.word hin.2).2.2.2]
      · rfl
  pairs _ heven hdevice := ⟨m.readWord_plain unit heven hdevice, m.writeWord_plain unit heven hdevice⟩
  bounded address := by
    obtain ⟨_, _, hbyte, _⟩ := m.readByte_answers unit address
    obtain ⟨_, _, hword, _⟩ := m.readWord_answers unit address
    refine ⟨?_, ?_, fun value => ?_, fun value => ?_⟩
    · rw [hbyte]
      exact Option.some_ne_none _
    · rw [hword]
      exact Option.some_ne_none _
    · obtain ⟨_, hwrite, _⟩ := h.writeByte unit address value
      rw [hwrite]
      exact Option.some_ne_none _
    · obtain ⟨_, hwrite, _⟩ := h.writeWord unit address value
      rw [hwrite]
      exact Option.some_ne_none _

theorem Synced.step (unit : Mk90IoUnit ι) {m : Mk90Machine ι} (h : m.Synced) (ev : Event) :
    ∃ m', m.step unit ev = some m' ∧ m'.Synced := by
  have hroutes := h.routes unit
  cases ev with
  | loadByte address =>
    obtain ⟨value, m', hread, hsame⟩ := m.readByte_answers unit address
    refine ⟨m', ?_, h.same hsame⟩
    rw [Mk90Machine.step, (hroutes.direct address).1, hread]
    rfl
  | storeByte address value =>
    rw [Mk90Machine.step, (hroutes.direct address).2.2.1]
    exact h.writeByte unit address value
  | loadWord address =>
    obtain ⟨value, m', hread, hsame⟩ := m.readWord_answers unit address
    refine ⟨m', ?_, h.same hsame⟩
    rw [Mk90Machine.step, (hroutes.direct address).2.1, hread]
    rfl
  | storeWord address value =>
    rw [Mk90Machine.step, (hroutes.direct address).2.2.2]
    exact h.writeWord unit address value
  | reset now => exact ⟨_, rfl, synced_syncFastRam _⟩

theorem Synced.run (unit : Mk90IoUnit ι) {m : Mk90Machine ι} (h : m.Synced) (evs : List Event) :
    ∃ m', evs.foldlM (Mk90Machine.step unit) m = some m' ∧ m'.Synced := by
  induction evs generalizing m with
  | nil => exact ⟨m, rfl, h⟩
  | cons ev evs ih =>
    obtain ⟨m₁, hstep, hsynced⟩ := h.step unit ev
    rw [List.foldlM_cons, hstep]
    exact ih hsynced

/-- However the program uses the memory, the system controller and the devices, the routes keep what they promise. -/
theorem memory_routes (unit : Mk90IoUnit ι) (ramSize : Mk90RamSize) (rom : Buffer) (rtc : Mk90Rtc) (io : ι)
    (evs : List Event) :
    ∃ m, evs.foldlM (step unit) (connect ramSize rom rtc io) = some m ∧ m.Routes unit := by
  obtain ⟨m, hrun, hsynced⟩ := (synced_syncFastRam _ : (connect ramSize rom rtc io).Synced).run unit evs
  exact ⟨m, hrun, hsynced.routes unit⟩

end Mk90Machine

end K1801.Mk90
