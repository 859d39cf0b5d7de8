import Mathlib.Tactic.IntervalCases
import Mathlib.Tactic.SplitIfs
import K1801.Library.SplitAddress
import K1801.Library.WordMoves
import K1801.Lsi11.Rk11

/-! # RK11 transfers move consecutive words

A READ or WRITE takes the words of the disk in order from the first sector on, as long as the sectors follow each
other. Numbered from 1, they do not: the sector with field 11 is taken to be the last of its surface, and the one with
field 0, the twelfth, to be followed by the first.
-/

namespace K1801.Lsi11

open Core Library
open SplitAddress

/-! ## Sectors -/

def rkTotalSectors : Nat := (rkMaxCyl + 1) * (rkMaxSurf + 1) * rkSectorsPerTrack

/-- The place of a sector on its track. -/
def rkPlace (oneBased : Bool) (sec : Nat) : Nat := if oneBased then (if sec = 0 then 12 else sec) - 1 else sec

theorem rkGetSector_setDa (drive cyl surf sec : Word) : rkGetSector (rkSetDa drive cyl surf sec) = sec &&& 0o17 := by
  unfold rkGetSector rkSetDa
  apply BitVec.eq_of_getLsbD_eq
  intro i hi
  simp only [BitVec.getLsbD_and, BitVec.getLsbD_or, BitVec.getLsbD_shiftLeft]
  interval_cases i <;> simp

theorem rkGetSurf_setDa (drive cyl surf sec : Word) : rkGetSurf (rkSetDa drive cyl surf sec) = surf &&& 1 := by
  unfold rkGetSurf rkSetDa
  apply BitVec.eq_of_getLsbD_eq
  intro i hi
  simp only [BitVec.getLsbD_ushiftRight, BitVec.getLsbD_and, BitVec.getLsbD_or, BitVec.getLsbD_shiftLeft]
  interval_cases i <;> simp

theorem rkGetCyl_setDa (drive cyl surf sec : Word) : rkGetCyl (rkSetDa drive cyl surf sec) = cyl &&& 0o377 := by
  unfold rkGetCyl rkSetDa
  apply BitVec.eq_of_getLsbD_eq
  intro i hi
  simp only [BitVec.getLsbD_ushiftRight, BitVec.getLsbD_and, BitVec.getLsbD_or, BitVec.getLsbD_shiftLeft]
  interval_cases i <;> simp

theorem low_bits_toNat (w : Word) (k : Nat) (hk : k ≤ 16) :
    (w &&& BitVec.ofNat 16 (2 ^ k - 1)).toNat = w.toNat % 2 ^ k := by
  have hle : 2 ^ k ≤ 2 ^ 16 := Nat.pow_le_pow_right (by decide) hk
  have hpos := Nat.two_pow_pos k
  rw [BitVec.toNat_and, BitVec.toNat_ofNat, Nat.mod_eq_of_lt (by omega)]
  exact Nat.and_two_pow_sub_one_eq_mod w.toNat k

/-- An address packed from fields in range has these fields. -/
theorem setDa_fields (drive : Word) {cyl surf sec : Word} (hsec : sec.toNat < 16) (hsurf : surf.toNat < 2)
    (hcyl : cyl.toNat < 256) : (rkGetSector (rkSetDa drive cyl surf sec)).toNat = sec.toNat ∧
      (rkGetSurf (rkSetDa drive cyl surf sec)).toNat = surf.toNat ∧
      (rkGetCyl (rkSetDa drive cyl surf sec)).toNat = cyl.toNat := by
  rw [rkGetSector_setDa, rkGetSurf_setDa, rkGetCyl_setDa]
  refine ⟨?_, ?_, ?_⟩
  · exact (low_bits_toNat sec 4 (by decide)).trans (Nat.mod_eq_of_lt hsec)
  · exact (low_bits_toNat surf 1 (by decide)).trans (Nat.mod_eq_of_lt hsurf)
  · exact (low_bits_toNat cyl 8 (by decide)).trans (Nat.mod_eq_of_lt hcyl)

theorem rkDaToLba_eq_some {oneBased : Bool} {da : Word} {l : Nat} : rkDaToLba oneBased da = some l ↔
    rkPlace oneBased (rkGetSector da).toNat < 12 ∧ (rkGetSurf da).toNat ≤ 1 ∧ (rkGetCyl da).toNat ≤ 202 ∧
      l = ((rkGetCyl da).toNat * 2 + (rkGetSurf da).toNat) * 12 + rkPlace oneBased (rkGetSector da).toNat := by
  show (if 12 ≤ rkPlace oneBased (rkGetSector da).toNat then none
    else if 1 < (rkGetSurf da).toNat then none
    else if 202 < (rkGetCyl da).toNat then none
    else some (((rkGetCyl da).toNat * 2 + (rkGetSurf da).toNat) * 12 +
      rkPlace oneBased (rkGetSector da).toNat)) = some l ↔ _
  by_cases hin : rkPlace oneBased (rkGetSector da).toNat < 12 ∧ (rkGetSurf da).toNat ≤ 1 ∧ (rkGetCyl da).toNat ≤ 202
  · rw [if_neg (by omega), if_neg (by omega), if_neg (by omega), Option.some.injEq]
    constructor
    · intro h
      exact ⟨hin.1, hin.2.1, hin.2.2, h.symm⟩
    · rintro ⟨-, -, -, h⟩
      exact h.symm
  · constructor
    · intro h
      split_ifs at h
      exact absurd ⟨by omega, by omega, by omega⟩ hin
    · rintro ⟨h1, h2, h3, -⟩
      exact absurd ⟨h1, h2, h3⟩ hin

theorem rkTotalSectors_eq : rkTotalSectors = 4872 := rfl

theorem lba_lt {oneBased : Bool} {da : Word} {l : Nat} (h : rkDaToLba oneBased da = some l) : l < rkTotalSectors := by
  obtain ⟨hsec, hsurf, hcyl, rfl⟩ := rkDaToLba_eq_some.1 h
  rw [rkTotalSectors_eq]
  omega

/-- The three ways the packed address steps on: on the track, to the next surface, to the next cylinder. -/
theorem rkNextSector_cases (da : Word) (hsec : (rkGetSector da).toNat < 12) (hsurf : (rkGetSurf da).toNat ≤ 1)
    (hcyl : (rkGetCyl da).toNat ≤ 202) :
    (rkNextSector da = none ∧ (rkGetSector da).toNat = 11 ∧ (rkGetSurf da).toNat = 1 ∧ (rkGetCyl da).toNat = 202) ∨
      ∃ da', rkNextSector da = some da' ∧
        (((rkGetSector da).toNat < 11 ∧ (rkGetSector da').toNat = (rkGetSector da).toNat + 1 ∧
            (rkGetSurf da').toNat = (rkGetSurf da).toNat ∧ (rkGetCyl da').toNat = (rkGetCyl da).toNat) ∨
          ((rkGetSector da).toNat = 11 ∧ (rkGetSector da').toNat = 0 ∧ (rkGetCyl da').toNat ≤ 202 ∧
            (rkGetSurf da').toNat ≤ 1 ∧ (rkGetCyl da').toNat * 2 + (rkGetSurf da').toNat =
              (rkGetCyl da).toNat * 2 + (rkGetSurf da).toNat + 1)) := by
  have hsec' : (rkGetSector da + 1).toNat = (rkGetSector da).toNat + 1 := by
    rw [BitVec.toNat_add]
    exact Nat.mod_eq_of_lt (by simp; omega)
  have hsurf' : (rkGetSurf da + 1).toNat = (rkGetSurf da).toNat + 1 := by
    rw [BitVec.toNat_add]
    exact Nat.mod_eq_of_lt (by simp; omega)
  have hcyl' : (rkGetCyl da + 1).toNat = (rkGetCyl da).toNat + 1 := by
    rw [BitVec.toNat_add]
    exact Nat.mod_eq_of_lt (by simp; omega)
  unfold rkNextSector
  dsimp only
  rw [hsec', hsurf', hcyl']
  by_cases hnext : (rkGetSector da).toNat + 1 < 12
  · rw [if_pos hnext]
    obtain ⟨h1, h2, h3⟩ := setDa_fields (rkGetDrive da) (hsec'.trans_lt (by omega)) (show (rkGetSurf da).toNat < 2 by omega)
      (show (rkGetCyl da).toNat < 256 by omega)
    exact Or.inr ⟨_, rfl, Or.inl ⟨by omega, h1.trans hsec', h2, h3⟩⟩
  · rw [if_neg hnext]
    by_cases hover : (rkGetSurf da).toNat + 1 ≤ 1
    · rw [if_pos hover]
      obtain ⟨h1, h2, h3⟩ := setDa_fields (rkGetDrive da) (show (0 : Word).toNat < 16 by decide)
        (hsurf'.trans_lt (by omega)) (show (rkGetCyl da).toNat < 256 by omega)
      exact Or.inr ⟨_, rfl, Or.inr ⟨by omega, h1, by omega, by omega, by omega⟩⟩
    · rw [if_neg hover]
      by_cases hend : 202 < (rkGetCyl da).toNat + 1
      · rw [if_pos hend]
        exact Or.inl ⟨rfl, by omega, by omega, by omega⟩
      · rw [if_neg hend]
        obtain ⟨h1, h2, h3⟩ := setDa_fields (rkGetDrive da) (show (0 : Word).toNat < 16 by decide)
          (show (0 : Word).toNat < 2 by decide) (hcyl'.trans_lt (by omega))
        have hzero : (0 : Word).toNat = 0 := rfl
        exact Or.inr ⟨_, rfl, Or.inr ⟨by omega, h1, by omega, by omega, by omega⟩⟩

section NextSector

variable {oneBased : Bool} {da : Word} {l : Nat}

/-- Sectors numbered from 0 follow each other; numbered from 1 they do from field 1 to field 11. -/
theorem next_inOrder (h : rkDaToLba oneBased da = some l) (hsec : (rkGetSector da).toNat < 12)
    (hin : oneBased = true → (rkGetSector da).toNat ≠ 0 ∧ (rkGetSector da).toNat ≠ 11) :
    (rkNextSector da = none ∧ l + 1 = rkTotalSectors) ∨
      ∃ da', rkNextSector da = some da' ∧ rkDaToLba oneBased da' = some (l + 1) ∧
        (rkGetSector da').toNat < 12 ∧
        (oneBased = true → (rkGetSector da').toNat = (rkGetSector da).toNat + 1) := by
  obtain ⟨hplace, hsurf, hcyl, rfl⟩ := rkDaToLba_eq_some.1 h
  have htotal := rkTotalSectors_eq
  rcases rkNextSector_cases da hsec hsurf hcyl with ⟨hnone, h1, h2, h3⟩ | ⟨da', hsome, hstep⟩
  · cases oneBased with
    | true => exact absurd h1 (hin rfl).2
    | false =>
      refine Or.inl ⟨hnone, ?_⟩
      unfold rkPlace
      simp only [Bool.false_eq_true, if_false]
      omega
  · right
    refine ⟨da', hsome, rkDaToLba_eq_some.2 ?_, ?_, ?_⟩
    · cases oneBased with
      | true =>
        obtain ⟨hne, hne'⟩ := hin rfl
        unfold rkPlace at hplace ⊢
        simp only [if_true] at hplace ⊢
        rw [if_neg hne] at hplace ⊢
        rcases hstep with ⟨h1, h2, h3, h4⟩ | ⟨h1, -⟩
        · rw [if_neg (by omega)]
          exact ⟨by omega, by omega, by omega, by omega⟩
        · exact absurd h1 hne'
      | false =>
        unfold rkPlace at hplace ⊢
        simp only [Bool.false_eq_true, if_false] at hplace ⊢
        rcases hstep with ⟨h1, h2, h3, h4⟩ | ⟨h1, h2, h3, h4, h5⟩
        · exact ⟨by omega, by omega, by omega, by omega⟩
        · exact ⟨by omega, by omega, by omega, by omega⟩
    · rcases hstep with ⟨h1, h2, -⟩ | ⟨h1, h2, -⟩
      · omega
      · omega
    · intro hone
      rcases hstep with ⟨h1, h2, -⟩ | ⟨h1, -⟩
      · exact h2
      · exact absurd h1 (hin hone).2

/-- The sector taken for the next one after field 0 or 11. -/
theorem next_outOfOrder (h : rkDaToLba true da = some l)
    (hout : (rkGetSector da).toNat = 0 ∨ (rkGetSector da).toNat = 11) :
    (rkNextSector da = none ∧ l + 1 < rkTotalSectors) ∨
      ∃ da' l', rkNextSector da = some da' ∧ rkDaToLba true da' = some l' ∧ (l' = l + 13 ∨ l' + 11 = l) := by
  obtain ⟨hplace, hsurf, hcyl, rfl⟩ := rkDaToLba_eq_some.1 h
  have htotal := rkTotalSectors_eq
  rcases rkNextSector_cases da (by omega) hsurf hcyl with ⟨hnone, h1, h2, h3⟩ | ⟨da', hsome, hstep⟩
  · refine Or.inl ⟨hnone, ?_⟩
    unfold rkPlace
    simp only [if_true]
    rw [if_neg (by omega)]
    omega
  · right
    refine ⟨da', _, hsome, rkDaToLba_eq_some.2 ⟨?_, ?_, ?_, rfl⟩, ?_⟩
    · unfold rkPlace
      simp only [if_true]
      split <;> omega
    · omega
    · omega
    · unfold rkPlace
      simp only [if_true]
      rcases hstep with ⟨h1, h2, h3, h4⟩ | ⟨h1, h2, h3, h4, h5⟩
      · have hzero : (rkGetSector da).toNat = 0 := by omega
        rw [if_neg (by omega), if_pos hzero]
        right
        omega
      · rw [if_pos h2, if_neg (by omega)]
        left
        omega

end NextSector

/-! ## Requests -/

/-- What the registers ask of a READ or WRITE with a valid disk address. -/
structure RkRequest where
  wc : Word
  /-- RKBA and the extension bits. -/
  start : BitVec (16 + 2)
  inhibit : Bool
  oneBased : Bool
  da : Word
  /-- The block of the starting cylinder, surface and sector. -/
  lba0 : Nat
  onDisk : rkDaToLba oneBased da = some lba0
  inTrack : (rkGetSector da).toNat < rkSectorsPerTrack

def rkMode : Direction → RkXferMode
  | .toMemory => .read
  | .toDisk => .write

/-- The medium does not give or take the word at `off`. -/
def DiskImage.Refuses (image : DiskImage) (dir : Direction) (off : Nat) : Prop :=
  match dir with
  | .toMemory => image.freadByte off = none ∨ image.freadByte (off + 1) = none
  | .toDisk => image.byteWritable off = false

namespace RkRequest

variable {δ : Type}

def words (req : RkRequest) : Nat := (65536 - req.wc.toNat) % 65536

def address (req : RkRequest) (j : Nat) : BitVec (16 + 2) := nth req.start req.inhibit j

def pa (req : RkRequest) (b : Bus δ) (map : Ubmap) (j : Nat) : Dword :=
  rkPa b map (ext (req.address j)) (low (req.address j))

/-- The offset of word `j` in the image. -/
def place (req : RkRequest) (j : Nat) : Nat := 512 * req.lba0 + 2 * j

/-- The sectors from the first one on that follow each other when they are numbered from 1. -/
def run (req : RkRequest) : Nat :=
  if (rkGetSector req.da).toNat = 0 then 1 else 12 - (rkGetSector req.da).toNat

structure AskedOf (req : RkRequest) (image : DiskImage) (rk : Rk11) : Prop where
  wc : rk.rkwc = req.wc
  ba : rk.rkba = low req.start
  mex : rk.rkmex = ext req.start
  da : rk.rkda = req.da
  inhibit : rk.rkcs &&& rkcsIba = 0 ↔ req.inhibit = false
  oneBased : rk.sectorOneBased = req.oneBased
  attached : rk.fp (rkGetDrive req.da) = some image

/-- Memory and disk after the first `m` words. -/
def sides (req : RkRequest) (map : Ubmap) (dir : Direction) (image : DiskImage) (b : Bus δ) (m : Nat) : Sides :=
  Sides.moved dir (fun j => (req.pa b map j).toNat) req.place ⟨b.ram, image.file.bytes⟩ m

end RkRequest

section Exactness

variable {δ : Type} (map : Ubmap) (dir : Direction) (req : RkRequest) (image : DiskImage) (rk : Rk11) (b : Bus δ)

/-- Why a transfer ends after `m` words with words left, and the bit of RKER that tells. -/
inductive RkStopped (m : Nat) : Word → Prop where
  | locked (hdir : dir = .toDisk) (hm : m = 0)
      (h : (rk.driveReadOnly (rkGetDrive req.da) || rk.writeLock (rkGetDrive req.da)) = true) : RkStopped m rkerWlk
  | nxm (h : b.reaches (req.pa b map m) = false) : RkStopped m rkerNxm
  | refused (h : image.Refuses dir (req.place m)) : RkStopped m rkerDlt
  | overrun (h : 256 * req.lba0 + m = 256 * rkTotalSectors) : RkStopped m rkerOvr

/-- The transfer moved `m` words and nothing else, and its registers say so. -/
structure RkMoved (m : Nat) (rk' : Rk11) (b' : Bus δ) : Prop where
  words : m ≤ req.words
  onDisk : 256 * req.lba0 + m ≤ 256 * rkTotalSectors
  wc : rk'.rkwc = req.wc + BitVec.ofNat 16 m
  ba : rk'.rkba = low (req.address m)
  mex : rk'.rkmex = ext (req.address m)
  memory : b' = b.withRam (req.sides map dir image b m).memory
  disk : ∃ image', rk'.fp = Function.update rk.fp (rkGetDrive req.da) (some image') ∧
    image'.medium = image.medium ∧ image'.file.bytes = (req.sides map dir image b m).disk
  ended : m < req.words → ∃ bit, RkStopped map dir req image rk b m bit ∧ rk'.rker &&& bit ≠ 0

def RkExact : Prop :=
  ∃ m rk' b', rk.transfer map (rkMode dir) b = some (rk', b') ∧ RkMoved map dir req image rk b m rk' b'

/-- The transfer does not step out of the run of sectors that follow each other. -/
def RkInOrder : Prop :=
  req.oneBased = true → 256 * req.run < req.words → ∃ k < 256 * req.run, b.reaches (req.pa b map k) = false

/-- Every word the transfer gets to lies in the RAM array. -/
def RkBacked : Prop :=
  ∀ j < req.words, 256 * req.lba0 + j < 256 * rkTotalSectors →
    (∀ k ≤ j, b.reaches (req.pa b map k) = true) → b.backed (req.pa b map j) = true

end Exactness

/-! ## Word count and bus address -/

section Counting

variable {δ : Type} (map : Ubmap) (req : RkRequest) (b : Bus δ)

theorem counter_zero_iff {wc : Word} {m : Nat} (h : m ≤ (65536 - wc.toNat) % 65536) :
    wc + BitVec.ofNat 16 m = 0 ↔ m = (65536 - wc.toNat) % 65536 := by
  have hlt := wc.isLt
  have hsum : (wc + BitVec.ofNat 16 m).toNat = (wc.toNat + m) % 65536 := by
    rw [BitVec.toNat_add, BitVec.toNat_ofNat, Nat.add_mod_mod]
  constructor
  · intro hzero
    rw [hzero] at hsum
    have : 0 = (wc.toNat + m) % 65536 := hsum
    omega
  · intro hm
    apply BitVec.eq_of_toNat_eq
    rw [hsum]
    show (wc.toNat + m) % 65536 = 0
    omega

theorem counter_succ (wc : Word) (m : Nat) : wc + BitVec.ofNat 16 m + 1 = wc + BitVec.ofNat 16 (m + 1) := by
  rw [BitVec.add_assoc, BitVec.ofNat_add]
  rfl

theorem rkBaInc_split (a : BitVec (16 + 2)) : rkBaInc (low a) (ext a) = (low (a + 2), ext (a + 2)) := by
  unfold rkBaInc
  refine Prod.ext (low_add_two a).symm (BitVec.eq_of_toNat_eq ?_)
  have hstep := ext_add_two (by decide) a
  have hlt := a.isLt
  have hext := ext_toNat (by decide) a
  rw [hstep]
  by_cases hcarry : low a + 2 < low a
  · rw [if_pos hcarry]
    simp only [hcarry, if_true]
    have hsucc : (ext a + 1).toNat = (ext a).toNat + 1 := by
      rw [BitVec.toNat_add]
      exact Nat.mod_eq_of_lt (by simp; omega)
    rw [BitVec.toNat_and, hsucc]
    exact Nat.and_two_pow_sub_one_eq_mod _ 2
  · rw [if_neg hcarry]
    simp only [hcarry, if_false]

theorem ext_and_three (a : BitVec (16 + 2)) : ext a &&& 3 = ext a := by
  have hlt := a.isLt
  have hext := ext_toNat (by decide) a
  apply BitVec.eq_of_toNat_eq
  rw [BitVec.toNat_and]
  exact (Nat.and_two_pow_sub_one_eq_mod _ 2).trans (Nat.mod_eq_of_lt (by omega))

theorem and_toNat_lt {x : Dword} {k : Nat} (hk : k ≤ 32) : (x &&& BitVec.ofNat 32 (2 ^ k - 1)).toNat < 2 ^ k := by
  have hle : 2 ^ k ≤ 2 ^ 32 := Nat.pow_le_pow_right (by decide) hk
  have hpos := Nat.two_pow_pos k
  rw [BitVec.toNat_and, BitVec.toNat_ofNat, Nat.mod_eq_of_lt (by omega), Nat.and_two_pow_sub_one_eq_mod]
  exact Nat.mod_lt _ hpos

theorem ubmapMapAddr_lt (addr : Dword) : (ubmapMapAddr b map addr).toNat < 2 ^ 22 := by
  unfold ubmapMapAddr
  split_ifs
  · exact Nat.lt_of_lt_of_le (and_toNat_lt (k := 18) (by decide)) (by decide)
  · dsimp only
    split_ifs
    · exact and_toNat_lt (k := 22) (by decide)
    · exact and_toNat_lt (k := 22) (by decide)

theorem rkPa_lt (mex : Byte) (ba : Word) : (rkPa b map mex ba).toNat < 2 ^ 22 := by
  unfold rkPa
  dsimp only
  split_ifs
  · exact ubmapMapAddr_lt map b _
  · exact Nat.lt_of_lt_of_le (and_toNat_lt (k := 18) (by decide)) (by decide)

end Counting

/-! ## One word of the file -/

section FileWord

variable {δ : Type} {x : RkXfer δ} {image : DiskImage} {off : Nat}

theorem freadByte_value {v : Byte} (h : image.freadByte off = some v) : v = image.file.bytes off := by
  unfold DiskImage.freadByte at h
  split_ifs at h
  exact (Option.some.inj h).symm

theorem freadWord_refused (h : x.image.Refuses .toMemory x.pos) : x.freadWord = none := by
  unfold RkXfer.freadWord
  rcases h with h | h
  · rw [h]
    rfl
  · rw [h]
    cases x.image.freadByte x.pos with
    | none => rfl
    | some v => rfl

theorem freadWord_read (h : ¬ x.image.Refuses .toMemory x.pos) :
    x.freadWord = some (x.image.file.bytes.word x.pos, { x with pos := x.pos + 2 }) := by
  unfold RkXfer.freadWord
  cases hlo : x.image.freadByte x.pos with
  | none => exact absurd (Or.inl hlo) h
  | some lo =>
    cases hhi : x.image.freadByte (x.pos + 1) with
    | none => exact absurd (Or.inr hhi) h
    | some hi =>
      rw [freadByte_value hlo, freadByte_value hhi]
      rfl

theorem fwriteWord_refused (w : Word) (h : x.image.Refuses .toDisk x.pos) : x.fwriteWord w = (false, x) := by
  have hstop : x.image.byteWritable x.pos = false := h
  unfold RkXfer.fwriteWord DiskImage.fwriteByte
  rw [hstop]
  rfl

/-- Both bytes of a word lie in one sector. -/
theorem byteWritable_succ (heven : off % 2 = 0) : image.byteWritable (off + 1) = image.byteWritable off := by
  unfold DiskImage.byteWritable
  have hsector : (off + 1) / rkSectorBytes = off / rkSectorBytes := by
    show (off + 1) / 512 = off / 512
    omega
  have hword : (off + 1) % rkSectorBytes / 2 = off % rkSectorBytes / 2 := by
    show (off + 1) % 512 / 2 = off % 512 / 2
    omega
  rw [hsector, hword]

theorem paste_one (buf : Buffer) (off : Nat) (v : Byte) : Buffer.paste buf off 1 (fun _ => v) = buf.put off v := by
  funext i
  rw [Buffer.put_apply]
  by_cases hi : i = off
  · rw [if_pos hi, Buffer.paste_inside _ _ (by omega) (by omega)]
  · rw [if_neg hi, Buffer.paste_outside _ _ (by omega)]

theorem fwriteWord_written (w : Word) (heven : x.pos % 2 = 0) (h : ¬ x.image.Refuses .toDisk x.pos) :
    ∃ image', x.fwriteWord w = (true, { x with image := image', pos := x.pos + 2 }) ∧
      image'.medium = x.image.medium ∧ image'.file.bytes = x.image.file.bytes.putWord x.pos w := by
  have hlo : x.image.byteWritable x.pos = true := by
    cases hw : x.image.byteWritable x.pos with
    | true => rfl
    | false => exact absurd hw h
  have hhi : x.image.byteWritable (x.pos + 1) = true := (byteWritable_succ heven).trans hlo
  refine ⟨{ x.image with
    file := (x.image.file.writeAt x.pos 1 fun _ => w.setWidth 8).writeAt (x.pos + 1) 1
      fun _ => (w >>> 8).setWidth 8 }, ?_, rfl, ?_⟩
  · unfold RkXfer.fwriteWord DiskImage.fwriteByte
    rw [if_pos hlo]
    have hhi' : DiskImage.byteWritable
        { x.image with file := x.image.file.writeAt x.pos 1 fun _ => w.setWidth 8 } (x.pos + 1) = true := hhi
    dsimp only
    rw [if_pos hhi']
  · show Buffer.paste (Buffer.paste x.image.file.bytes x.pos 1 fun _ => w.setWidth 8) (x.pos + 1) 1
      (fun _ => (w >>> 8).setWidth 8) = _
    rw [paste_one, paste_one]
    rfl

end FileWord

/-! ## The loop -/

section Loop

variable {δ : Type} (map : Ubmap) (dir : Direction) (req : RkRequest) (image : DiskImage) (rk : Rk11) (b : Bus δ)

/-- `m` words are moved. -/
structure RkAfter (m : Nat) (x : RkXfer δ) : Prop where
  words : m ≤ req.words
  onDisk : 256 * req.lba0 + m ≤ 256 * rkTotalSectors
  wc : x.curWc = req.wc + BitVec.ofNat 16 m
  ba : x.curBa = low (req.address m)
  mex : x.curMex = ext (req.address m)
  bus : x.bus = b.withRam (req.sides map dir image b m).memory
  medium : x.image.medium = image.medium
  disk : x.image.file.bytes = (req.sides map dir image b m).disk
  readOnly : dir = .toMemory → x.image = image

/-- The loop is about to move word `m`. -/
structure RkAt (m : Nat) (x : RkXfer δ) : Prop extends RkAfter map dir req image b m x where
  reached : ∀ k < m, b.reaches (req.pa b map k) = true
  rk : x.rk = rk
  inSector : x.wInSector = m % 256
  pos : m % 256 ≠ 0 → x.pos = req.place m
  sector : m < req.words → rkDaToLba req.oneBased x.curDa = some (req.lba0 + m / 256) ∧
    (rkGetSector x.curDa).toNat < 12 ∧
    (req.oneBased = true → (rkGetSector x.curDa).toNat = (rkGetSector req.da).toNat + m / 256)

/-- The loop ended after `m` words. -/
structure RkEnded (m : Nat) (x : RkXfer δ) : Prop extends RkAfter map dir req image b m x where
  fp : x.rk.fp = rk.fp
  ended : m < req.words → ∃ bit, RkStopped map dir req image rk b m bit ∧ x.rk.rker &&& bit ≠ 0

variable {map dir req image rk b} {m : Nat} {x : RkXfer δ}

theorem setError_rker (bit : Word) (rk : Rk11) : (rk.setError bit).rker = rk.rker ||| bit := rfl

theorem or_and_ne_zero (w : Word) {bit : Word} (h : bit ≠ 0) : (w ||| bit) &&& bit ≠ 0 := by
  intro hzero
  apply h
  apply BitVec.eq_of_getLsbD_eq
  intro i hi
  have hbit := congrArg (fun v => v.getLsbD i) hzero
  simp only [BitVec.getLsbD_and, BitVec.getLsbD_or] at hbit
  cases hb : bit.getLsbD i with
  | false => simp
  | true => simp [hb] at hbit

/-- A turn that breaks off with an error bit. -/
theorem fail_ended (h : RkAfter map dir req image b m x) (hrk : x.rk = rk) {bit : Word} (hbit : bit ≠ 0)
    (hwhy : RkStopped map dir req image rk b m bit) :
    RkEnded map dir req image rk b m { x with rk := x.rk.setError bit } where
  toRkAfter := { h with }
  fp := by rw [hrk]; rfl
  ended _ := ⟨bit, hwhy, or_and_ne_zero x.rk.rker hbit⟩

theorem RkAt.counting (h : RkAt map dir req image rk b m x) : x.curWc ≠ 0 ↔ m < req.words := by
  rw [h.wc, ne_eq, counter_zero_iff h.words]
  have hle := h.words
  unfold RkRequest.words at hle ⊢
  omega

/-- The turn that moves word `m` finds it in the file and in memory. -/
theorem RkAt.step_eq (h : RkAt map dir req image rk b m x) (hone : rk.sectorOneBased = req.oneBased)
    (hm : m < req.words) :
    x.step map (rkMode dir) = ({ x with pos := req.place m }).moveWord (rkMode dir) (req.pa b map m) := by
  have hlba : rkDaToLba x.rk.sectorOneBased x.curDa = some (req.lba0 + m / 256) := by
    rw [h.rk, hone]
    exact (h.sector hm).1
  unfold RkXfer.step
  rw [hlba]
  dsimp only
  have hpa : rkPa x.bus map x.curMex x.curBa = req.pa b map m := by
    rw [h.bus, h.mex, h.ba]
    rfl
  by_cases hstart : x.wInSector = 0
  · have hpos : (req.lba0 + m / 256) * rkSectorBytes = req.place m := by
      have hin := h.inSector
      show (req.lba0 + m / 256) * 512 = 512 * req.lba0 + 2 * m
      omega
    rw [if_pos hstart, hpos]
    exact congrArg (fun pa => RkXfer.moveWord (rkMode dir) pa { x with pos := req.place m }) hpa
  · have hpos : x.pos = req.place m := h.pos (by have := h.inSector; omega)
    rw [if_neg hstart, ← hpos]
    exact congrArg (fun pa => RkXfer.moveWord (rkMode dir) pa x) hpa

/-- Word `m` moved, before the registers count it. -/
structure RkHalfway (map : Ubmap) (dir : Direction) (req : RkRequest) (image : DiskImage) (rk : Rk11) (b : Bus δ)
    (m : Nat) (x y : RkXfer δ) : Prop where
  counters : y.curWc = x.curWc ∧ y.curBa = x.curBa ∧ y.curMex = x.curMex ∧ y.curDa = x.curDa ∧
    y.wInSector = x.wInSector
  rk : y.rk = rk
  pos : y.pos = req.place m + 2
  bus : y.bus = b.withRam (req.sides map dir image b (m + 1)).memory
  medium : y.image.medium = image.medium
  disk : y.image.file.bytes = (req.sides map dir image b (m + 1)).disk
  readOnly : dir = .toMemory → y.image = image

/-- The registers of the loop after one more word. -/
def counted (req : RkRequest) (m : Nat) (y : RkXfer δ) : RkXfer δ :=
  { y with
    curBa := low (req.address (m + 1)), curMex := ext (req.address (m + 1)), curWc := y.curWc + 1
    wInSector := y.wInSector + 1 }

theorem advance_eq (h : RkAt map dir req image rk b m x) (hasked : req.AskedOf image rk) {y : RkXfer δ}
    (hy : RkHalfway map dir req image rk b m x y) : y.advance =
      if (counted req m y).wInSector < rkWordsPerSector then .more (counted req m y)
      else
        match rkNextSector y.curDa with
        | some da => .more { counted req m y with wInSector := 0, curDa := da }
        | none =>
          if y.curWc + 1 ≠ 0 then { counted req m y with wInSector := 0 }.fail rkerOvr
          else .stop { counted req m y with wInSector := 0 } := by
  obtain ⟨-, hba, hmex, -, -⟩ := hy.counters
  have hnext : req.address (m + 1) = if req.inhibit then req.address m else req.address m + 2 :=
    nth_succ req.start req.inhibit m
  have hcount : (if y.rk.rkcs &&& rkcsIba = 0 then
      { y with curBa := (rkBaInc y.curBa y.curMex).1, curMex := (rkBaInc y.curBa y.curMex).2 } else y) =
      { y with curBa := low (req.address (m + 1)), curMex := ext (req.address (m + 1)) } := by
    have hiba : y.rk.rkcs &&& rkcsIba = 0 ↔ req.inhibit = false := by
      rw [hy.rk]
      exact hasked.inhibit
    rw [hnext]
    cases hin : req.inhibit with
    | false =>
      rw [if_pos (hiba.2 hin), hba, hmex, h.ba, h.mex, rkBaInc_split]
      rfl
    | true =>
      have hnot : ¬ y.rk.rkcs &&& rkcsIba = 0 := fun hz => absurd (hin.symm.trans (hiba.1 hz)) (by decide)
      rw [if_neg hnot, if_pos rfl, ← h.ba, ← h.mex, ← hba, ← hmex]
  unfold RkXfer.advance
  dsimp only
  rw [hcount]
  rfl

/-- `m + 1` words are moved, wherever the next sector is. -/
theorem RkAt.after_counted (h : RkAt map dir req image rk b m x) (hm : m < req.words) {y : RkXfer δ}
    (hy : RkHalfway map dir req image rk b m x y) (da : Word) (w : Nat) :
    RkAfter map dir req image b (m + 1) { counted req m y with curDa := da, wInSector := w } where
  words := hm
  onDisk := by
    have hlt := lba_lt (h.sector hm).1
    omega
  wc := by
    show y.curWc + 1 = _
    rw [hy.counters.1, h.wc, counter_succ]
  ba := rfl
  mex := rfl
  bus := hy.bus
  medium := hy.medium
  disk := hy.disk
  readOnly := hy.readOnly

/-- The end of a turn: the registers count word `m`, and a full sector gives way to the next one. -/
theorem RkAt.advance (h : RkAt map dir req image rk b m x) (hasked : req.AskedOf image rk) (hm : m < req.words)
    (hreach : b.reaches (req.pa b map m) = true)
    (hnext : (m + 1) % 256 = 0 → m + 1 < req.words → req.oneBased = true →
      (rkGetSector x.curDa).toNat ≠ 0 ∧ (rkGetSector x.curDa).toNat ≠ 11)
    {y : RkXfer δ} (hy : RkHalfway map dir req image rk b m x y) :
    y.advance.Leaves (RkAt map dir req image rk b (m + 1)) (RkEnded map dir req image rk b (m + 1)) := by
  obtain ⟨hwc, -, -, hda, hw⟩ := hy.counters
  obtain ⟨hlba, htrack, hfield⟩ := h.sector hm
  have hin := h.inSector
  have hreached : ∀ k < m + 1, b.reaches (req.pa b map k) = true := by
    intro k hk
    by_cases hlast : k = m
    · rw [hlast]
      exact hreach
    · exact h.reached k (by omega)
  have hcounter : y.curWc + 1 ≠ 0 ↔ m + 1 < req.words := by
    rw [hwc, h.wc, counter_succ, ne_eq, counter_zero_iff (show m + 1 ≤ req.words from hm)]
    show ¬ m + 1 = req.words ↔ m + 1 < req.words
    omega
  rw [advance_eq h hasked hy]
  by_cases hfull : (counted req m y).wInSector < rkWordsPerSector
  · rw [if_pos hfull]
    have hsmall : y.wInSector + 1 < 256 := hfull
    exact
      { h.after_counted hm hy y.curDa (y.wInSector + 1) with
        reached := hreached
        rk := hy.rk
        inSector := by
          show y.wInSector + 1 = _
          omega
        pos := by
          intro _
          show y.pos = req.place (m + 1)
          rw [hy.pos]
          unfold RkRequest.place
          omega
        sector := by
          intro _
          have hsame : (m + 1) / 256 = m / 256 := by omega
          show rkDaToLba req.oneBased y.curDa = some (req.lba0 + (m + 1) / 256) ∧ (rkGetSector y.curDa).toNat < 12 ∧
            (req.oneBased = true → (rkGetSector y.curDa).toNat = (rkGetSector req.da).toNat + (m + 1) / 256)
          rw [hsame, hda]
          exact ⟨hlba, htrack, hfield⟩ }
  · rw [if_neg hfull]
    have hbig : ¬ y.wInSector + 1 < 256 := hfull
    have hsucc : (m + 1) / 256 = m / 256 + 1 := by omega
    have hturn : (m + 1) % 256 = 0 := by omega
    rw [hda]
    cases hsec : rkNextSector x.curDa with
    | none =>
      by_cases hmore : y.curWc + 1 ≠ 0
      · -- the disk ends here
        have hend : req.lba0 + m / 256 + 1 = rkTotalSectors := by
          rcases next_inOrder hlba htrack (hnext hturn (hcounter.1 hmore)) with ⟨-, hend⟩ | ⟨da', hsome, -⟩
          · exact hend
          · rw [hsec] at hsome
            cases hsome
        rw [if_pos hmore]
        exact fail_ended (h.after_counted hm hy y.curDa 0) hy.rk (by decide) (RkStopped.overrun (by omega))
      · rw [if_neg hmore]
        exact
          { h.after_counted hm hy y.curDa 0 with
            fp := congrArg Rk11.fp hy.rk
            ended := fun hlt => absurd (hcounter.2 hlt) hmore }
    | some da' =>
      exact
        { h.after_counted hm hy da' 0 with
          reached := hreached
          rk := hy.rk
          inSector := hturn.symm
          pos := fun hne => absurd hturn hne
          sector := by
            intro hlt
            rcases next_inOrder hlba htrack (hnext hturn hlt) with ⟨hnone, -⟩ | ⟨da'', hsome, hnew, htrack', hfield'⟩
            · rw [hsec] at hnone
              cases hnone
            · rw [hsec] at hsome
              cases hsome
              rw [hsucc]
              refine ⟨hnew, htrack', fun hone => ?_⟩
              have h1 := hfield hone
              have h2 := hfield' hone
              show (rkGetSector da').toNat = _
              omega }

theorem sides_succ (map : Ubmap) (dir : Direction) (req : RkRequest) (image : DiskImage) (b : Bus δ) (m : Nat) :
    req.sides map dir image b (m + 1) =
      (req.sides map dir image b m).moveWord dir (req.pa b map m).toNat (req.place m) := rfl

/-- A turn that breaks off before it changes the data. -/
theorem RkAt.broken_off (h : RkAt map dir req image rk b m x) (pos : Nat) {bit : Word} (hbit : bit ≠ 0)
    (hwhy : RkStopped map dir req image rk b m bit) : ∃ x',
      RkXfer.fail bit { x with pos := pos, bus := b.withRam (req.sides map dir image b m).memory } = .stop x' ∧
        RkEnded map dir req image rk b m x' :=
  ⟨_, rfl, fail_ended (x := { x with pos := pos, bus := b.withRam (req.sides map dir image b m).memory })
    { h.toRkAfter with bus := rfl } h.rk hbit hwhy⟩

/-- One turn moves word `m`, or breaks off with the reason in RKER. -/
theorem RkAt.turn_cases (h : RkAt map dir req image rk b m x) (hasked : req.AskedOf image rk) (hm : m < req.words)
    (hback : b.reaches (req.pa b map m) = true → b.backed (req.pa b map m) = true) :
    (b.reaches (req.pa b map m) = true ∧
        ∃ y, x.step map (rkMode dir) = some y.advance ∧ RkHalfway map dir req image rk b m x y) ∨
      ∃ x', x.step map (rkMode dir) = some (.stop x') ∧ RkEnded map dir req image rk b m x' := by
  have hlt := rkPa_lt map b (ext (req.address m)) (low (req.address m))
  rw [h.step_eq hasked.oneBased hm]
  cases dir with
  | toMemory =>
    show (_ ∧ ∃ y : RkXfer δ,
        RkXfer.moveWord .read (req.pa b map m) { x with pos := req.place m } = some y.advance ∧ _) ∨
      ∃ x', RkXfer.moveWord .read (req.pa b map m) { x with pos := req.place m } = some (.stop x') ∧ _
    unfold RkXfer.moveWord
    dsimp only
    by_cases href : x.image.Refuses .toMemory (req.place m)
    · rw [freadWord_refused (x := { x with pos := req.place m }) href]
      rw [h.readOnly rfl] at href
      obtain ⟨x', hfail, hend⟩ := h.broken_off (req.place m) (by decide) (RkStopped.refused href)
      rw [← h.bus] at hfail
      exact Or.inr ⟨x', congrArg some hfail, hend⟩
    · rw [freadWord_read (x := { x with pos := req.place m }) href]
      dsimp only
      rw [h.bus]
      cases hreach : b.reaches (req.pa b map m) with
      | false =>
        rw [rkDmaWriteWord_refused (b := b.withRam (req.sides map .toMemory image b m).memory) hreach]
        obtain ⟨x', hfail, hend⟩ := h.broken_off (req.place m + 2) (by decide) (RkStopped.nxm hreach)
        exact Or.inr ⟨x', congrArg some hfail, hend⟩
      | true =>
        rw [rkDmaWriteWord_reached (b := b.withRam (req.sides map .toMemory image b m).memory) hreach hlt,
          Bus.backed_withRam, if_pos (hback hreach)]
        refine Or.inl ⟨rfl, _, rfl, ?_⟩
        exact
          { counters := ⟨rfl, rfl, rfl, rfl, rfl⟩
            rk := h.rk
            pos := rfl
            bus := by
              rw [sides_succ]
              show b.withRam _ = b.withRam _
              rw [h.disk]
              rfl
            medium := h.medium
            disk := h.disk
            readOnly := h.readOnly }
  | toDisk =>
    show (_ ∧ ∃ y : RkXfer δ,
        RkXfer.moveWord .write (req.pa b map m) { x with pos := req.place m } = some y.advance ∧ _) ∨
      ∃ x', RkXfer.moveWord .write (req.pa b map m) { x with pos := req.place m } = some (.stop x') ∧ _
    unfold RkXfer.moveWord
    dsimp only
    rw [h.bus]
    cases hreach : b.reaches (req.pa b map m) with
    | false =>
      rw [rkDmaReadWord_refused (b := b.withRam (req.sides map .toDisk image b m).memory) hreach]
      obtain ⟨x', hfail, hend⟩ := h.broken_off (req.place m) (by decide) (RkStopped.nxm hreach)
      exact Or.inr ⟨x', congrArg some hfail, hend⟩
    | true =>
      rw [rkDmaReadWord_reached (b := b.withRam (req.sides map .toDisk image b m).memory) hreach hlt,
        Bus.backed_withRam, if_pos (hback hreach)]
      dsimp only [bind, Option.bind, Bus.withRam_ram]
      by_cases href : x.image.Refuses .toDisk (req.place m)
      · have hwhy : image.Refuses .toDisk (req.place m) := by
          unfold DiskImage.Refuses DiskImage.byteWritable at href ⊢
          rw [h.medium] at href
          exact href
        obtain ⟨x', hfail, hend⟩ := h.broken_off (req.place m) (by decide) (RkStopped.refused hwhy)
        rw [fwriteWord_refused _ (by exact href)]
        exact Or.inr ⟨x', congrArg some hfail, hend⟩
      · obtain ⟨image', hwrite, hmedium, hbytes⟩ := fwriteWord_written
          (x := { x with pos := req.place m, bus := b.withRam (req.sides map .toDisk image b m).memory })
          ((req.sides map .toDisk image b m).memory.word (req.pa b map m).toNat)
          (by show req.place m % 2 = 0; unfold RkRequest.place; omega) href
        rw [hwrite]
        refine Or.inl ⟨rfl, _, rfl, ?_⟩
        exact
          { counters := ⟨rfl, rfl, rfl, rfl, rfl⟩
            rk := h.rk
            pos := rfl
            bus := rfl
            medium := hmedium.trans h.medium
            disk := by
              rw [sides_succ]
              show image'.file.bytes = _
              rw [hbytes]
              show x.image.file.bytes.putWord (req.place m) _ = _
              rw [h.disk]
              rfl
            readOnly := nofun }

/-- Inside the run, the sector after a full one is the next number. -/
theorem RkAt.in_run (h : RkAt map dir req image rk b m x) (hm : m < req.words) (hturn : (m + 1) % 256 = 0)
    (hinside : m + 1 < 256 * req.run) (hone : req.oneBased = true) :
    (rkGetSector x.curDa).toNat ≠ 0 ∧ (rkGetSector x.curDa).toNat ≠ 11 := by
  have hfield := (h.sector hm).2.2 hone
  unfold RkRequest.run at hinside
  split_ifs at hinside
  · omega
  · omega

/-- A transfer with more words to move keeps to the run. -/
theorem RkInOrder.next (hrun : RkInOrder map req b) (h : RkAt map dir req image rk b m x) (hm : m < req.words)
    (hturn : (m + 1) % 256 = 0) (hmore : m + 1 < req.words) (hreach : b.reaches (req.pa b map m) = true)
    (hone : req.oneBased = true) : (rkGetSector x.curDa).toNat ≠ 0 ∧ (rkGetSector x.curDa).toNat ≠ 11 := by
  refine h.in_run hm hturn ?_ hone
  by_cases hle : 256 * req.run ≤ m + 1
  · obtain ⟨k, hk, hbad⟩ := hrun hone (by omega)
    by_cases hlast : k = m
    · rw [hlast, hreach] at hbad
      cases hbad
    · rw [h.reached k (by omega)] at hbad
      cases hbad
  · omega

theorem drive_valid (da : Word) : rkDriveValid (rkGetDrive da) = true := by
  refine decide_eq_true ?_
  have hle : (da &&& rkdaDriveMask).toNat < 65536 := BitVec.isLt _
  rw [BitVec.lt_def]
  unfold rkGetDrive
  rw [BitVec.toNat_ushiftRight, Nat.shiftRight_eq_div_pow]
  show (da &&& rkdaDriveMask).toNat / 8192 < 8
  omega

/-- A request with a valid address on an attached drive is not refused. -/
theorem AskedOf.validated (hasked : req.AskedOf image rk) : rk.validateDaForXfer rk.rkda = none ∧
    rk.driveFp (rkGetDrive rk.rkda) = some image := by
  obtain ⟨-, hsurf, hcyl, -⟩ := rkDaToLba_eq_some.1 req.onDisk
  have hfp : rk.driveFp (rkGetDrive rk.rkda) = some image := by
    unfold Rk11.driveFp
    rw [hasked.da, if_pos (drive_valid req.da), hasked.attached]
  have htrack := req.inTrack
  refine ⟨?_, hfp⟩
  unfold Rk11.validateDaForXfer Rk11.driveAttached
  dsimp only
  rw [hfp, drive_valid, hasked.da, if_neg (by simp), if_neg (by show ¬ 202 < _; omega),
    if_neg (by show ¬ 12 ≤ _; exact Nat.not_le.mpr htrack), if_neg (by show ¬ 1 < _; omega)]

/-- The loop starts with no word moved. -/
theorem RkAt.start (map : Ubmap) (dir : Direction) (b : Bus δ) (hasked : req.AskedOf image rk) : RkAt map dir req image rk b 0
    { curWc := rk.rkwc, curBa := rk.rkba, curDa := rk.rkda, curMex := rk.rkmex, image := image, rk := rk, bus := b } where
  words := Nat.zero_le _
  onDisk := by
    have hlt := lba_lt req.onDisk
    omega
  wc := hasked.wc.trans (BitVec.add_zero req.wc).symm
  ba := by
    unfold RkRequest.address
    rw [nth_zero]
    exact hasked.ba
  mex := by
    unfold RkRequest.address
    rw [nth_zero]
    exact hasked.mex
  bus := rfl
  medium := rfl
  disk := rfl
  readOnly _ := rfl
  reached k hk := absurd hk (Nat.not_lt_zero k)
  rk := rfl
  inSector := rfl
  pos h := absurd rfl h
  sector _ := by
    show rkDaToLba _ rk.rkda = _ ∧ _
    rw [hasked.da]
    exact ⟨req.onDisk, req.inTrack, fun _ => rfl⟩

/-- What the loop leaves goes into the registers. -/
theorem RkEnded.moved {x : RkXfer δ} (h : RkEnded map dir req image rk b m x) {rk' : Rk11}
    (hrk : rk' = Rk11.finishCommand (Rk11.syncStatus { x.rk with
      rkwc := x.curWc, rkba := x.curBa, rkmex := x.curMex &&& 3, rkda := x.curDa
      fp := Function.update x.rk.fp (rkGetDrive req.da) (some x.image) })) :
    RkMoved map dir req image rk b m rk' x.bus where
  words := h.words
  onDisk := h.onDisk
  wc := by
    rw [hrk]
    exact h.wc
  ba := by
    rw [hrk]
    exact h.ba
  mex := by
    rw [hrk]
    show x.curMex &&& 3 = _
    rw [h.mex, ext_and_three]
  memory := h.bus
  disk := by
    refine ⟨x.image, ?_, h.medium, h.disk⟩
    rw [hrk, ← h.fp]
    rfl
  ended hlt := by
    rw [hrk]
    exact h.ended hlt

theorem RkAt.loop (hrun : RkInOrder map req b) (hback : RkBacked map req b) (hasked : req.AskedOf image rk)
    (h : RkAt map dir req image rk b 0 x) :
    ∃ x', x.loop map (rkMode dir) = some x' ∧ ∃ m, RkEnded map dir req image rk b m x' := by
  have hwords : req.words < 65536 := Nat.mod_lt _ (by decide)
  refine turns_rule (n := req.words) (RkAt map dir req image rk b) (m := 0) ?_ ?_ ?_ (by omega) h
  · intro m x h hgo
    exact h.counting.1 (of_decide_eq_true hgo)
  · intro m x h hend
    have hdone : ¬ m < req.words := fun hlt => absurd (h.counting.2 hlt) (of_decide_eq_false hend)
    exact ⟨m, { h.toRkAfter with fp := congrArg Rk11.fp h.rk, ended := fun hlt => absurd hlt hdone }⟩
  · intro m x h hgo
    have hm := h.counting.1 (of_decide_eq_true hgo)
    have hbacked : b.reaches (req.pa b map m) = true → b.backed (req.pa b map m) = true := by
      intro hreach
      have hlt := lba_lt (h.sector hm).1
      refine hback m hm (by omega) fun k hk => ?_
      by_cases hlast : k = m
      · rw [hlast]
        exact hreach
      · exact h.reached k (by omega)
    rcases h.turn_cases hasked hm hbacked with ⟨hreach, y, hstep, hy⟩ | ⟨x', hstep, hend⟩
    · have hleaves := h.advance hasked hm hreach
        (fun hturn hmore hone => hrun.next h hm hturn hmore hreach hone) hy
      exact ⟨_, hstep, hleaves.imp (fun _ h => h) fun _ hend => ⟨m + 1, hend⟩⟩
    · exact ⟨_, hstep, m, hend⟩

theorem exact_of_conditions (hrun : RkInOrder map req b) (hback : RkBacked map req b)
    (hasked : req.AskedOf image rk) : RkExact map dir req image rk b := by
  obtain ⟨hvalid, hfp⟩ := AskedOf.validated hasked
  unfold RkExact Rk11.transfer
  rw [hvalid]
  dsimp only
  rw [hfp]
  dsimp only
  by_cases hlocked : (rkMode dir = .write ∨ rkMode dir = .wchk) ∧
      (rk.driveReadOnly (rkGetDrive rk.rkda) || rk.writeLock (rkGetDrive rk.rkda)) = true
  · rw [if_pos hlocked]
    have hdir : dir = .toDisk := by
      cases dir with
      | toDisk => rfl
      | toMemory =>
        rcases hlocked.1 with h | h
        · cases h
        · cases h
    have hstart := RkAt.start map dir b hasked
    rw [hasked.da] at hlocked
    refine ⟨0, _, b, rfl, ?_⟩
    exact
      { words := Nat.zero_le _
        onDisk := hstart.onDisk
        wc := hstart.wc
        ba := hstart.ba
        mex := hstart.mex
        memory := rfl
        disk := ⟨image, (Function.update_eq_self_iff.2 hasked.attached.symm).symm, rfl, rfl⟩
        ended := fun _ => ⟨rkerWlk, .locked hdir rfl hlocked.2, or_and_ne_zero rk.rker (by decide)⟩ }
  · rw [if_neg hlocked]
    obtain ⟨x', hloop, m, hend⟩ := (RkAt.start map dir b hasked).loop hrun hback hasked
    rw [hloop]
    exact ⟨m, _, _, rfl, hend.moved (by rw [hasked.da])⟩

end Loop

end K1801.Lsi11
