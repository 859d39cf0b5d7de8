import K1801.Lsi11.Dma

/-! # Memory cells behind a DMA path

An address reaches a cell of memory or none, and two addresses may reach the same one. Areas of memory are placed when
each of their bytes has a cell of its own; a write into one of them is then seen there and nowhere else.
-/

namespace K1801.Lsi11

open Core

/-- The cells that addresses reach, and that bytes written are the bytes read. -/
structure Dma.Cells {σ : Type} (dma : Dma σ) where
  cell : σ → Dword → Option Nat
  ram_of_cell : ∀ {s a k}, cell s a = some k → dma.ram s a = true
  cell_write : ∀ {s a k} v, cell s a = some k → cell (dma.write8 s a v) = cell s
  read_write_same : ∀ {s a b k} v, cell s a = some k → cell s b = some k → dma.read8 (dma.write8 s a v) b = v
  read_write_other : ∀ {s a b k l} v, cell s a = some k → cell s b = some l → k ≠ l →
    dma.read8 (dma.write8 s a v) b = dma.read8 s b

/-- Areas of memory that share no cell. -/
structure Areas (ι : Type) where
  addr : ι → Dword
  len : ι → Nat
  place : ι → Nat → Nat
  apart : ∀ {p q i j}, i < len p → j < len q → place p i = place q j → p = q ∧ i = j

theorem or_halves {w : Nat} (v : BitVec (w + w)) :
    (v.setWidth w).setWidth (w + w) ||| (((v >>> w).setWidth w).setWidth (w + w) <<< w) = v := by
  apply BitVec.eq_of_getLsbD_eq
  intro i hi
  rw [BitVec.getLsbD_or, BitVec.getLsbD_shiftLeft, BitVec.getLsbD_setWidth, BitVec.getLsbD_setWidth,
    BitVec.getLsbD_setWidth, BitVec.getLsbD_setWidth, BitVec.getLsbD_ushiftRight]
  by_cases hlow : i < w
  · simp [hlow, hi]
  · have hback : w + (i - w) = i := by omega
    have hhigh : i - w < w := by omega
    have hfits : i - w < w + w := by omega
    simp [hlow, hi, hback, hhigh, hfits]

/-- A word of two bytes. -/
def wordOf (lo hi : Byte) : Word := lo.setWidth 16 ||| (hi.setWidth 16 <<< 8)

theorem wordOf_le16 (v : Word) : wordOf (v.setWidth 8) ((v >>> 8).setWidth 8) = v := or_halves (w := 8) v

/-- A double word of two words. -/
def dwordOf (lo hi : Word) : Dword := lo.setWidth 32 ||| (hi.setWidth 32 <<< 16)

theorem dwordOf_halves (v : Dword) : dwordOf (v.setWidth 16) ((v >>> 16).setWidth 16) = v := or_halves (w := 16) v

theorem le32_eq (v : Dword) : le32 v = [v.setWidth 16, (v >>> 16).setWidth 16].flatMap le16 := by
  have hthird : (v >>> 16).setWidth 8 = ((v >>> 16).setWidth 16).setWidth 8 :=
    (BitVec.setWidth_setWidth_of_le _ (by decide)).symm
  have hfirst : v.setWidth 8 = (v.setWidth 16).setWidth 8 := (BitVec.setWidth_setWidth_of_le _ (by decide)).symm
  have hsecond : (v >>> 8).setWidth 8 = (v.setWidth 16 >>> 8).setWidth 8 := by
    apply BitVec.eq_of_toNat_eq
    simp only [BitVec.toNat_setWidth, BitVec.toNat_ushiftRight, Nat.shiftRight_eq_div_pow]
    omega
  have hfourth : (v >>> 24).setWidth 8 = ((v >>> 16).setWidth 16 >>> 8).setWidth 8 := by
    apply BitVec.eq_of_toNat_eq
    simp only [BitVec.toNat_setWidth, BitVec.toNat_ushiftRight, Nat.shiftRight_eq_div_pow]
    omega
  simp only [le32, le16, List.flatMap_cons, List.flatMap_nil, List.append_nil, List.cons_append, List.nil_append]
  rw [hfirst, hsecond, hthird, hfourth]

theorem length_le16s (vs : List Word) : (vs.flatMap le16).length = 2 * vs.length := by
  induction vs with
  | nil => rfl
  | cons v vs ih =>
    rw [List.flatMap_cons, List.length_append, List.length_cons, ih]
    show 2 + 2 * vs.length = _
    omega

theorem le16s_get (vs : List Word) {i : Nat} (h : i < vs.length) :
    (vs.flatMap le16)[2 * i]? = some (vs[i].setWidth 8) ∧
      (vs.flatMap le16)[2 * i + 1]? = some ((vs[i] >>> 8).setWidth 8) := by
  induction vs generalizing i with
  | nil => exact absurd h (Nat.not_lt_zero _)
  | cons v vs ih =>
    cases i with
    | zero => exact ⟨rfl, rfl⟩
    | succ i =>
      obtain ⟨hlow, hhigh⟩ := ih (Nat.lt_of_succ_lt_succ h)
      exact ⟨hlow, hhigh⟩

namespace Areas

variable {ι σ : Type} (A : Areas ι) {dma : Dma σ} (cells : dma.Cells)

/-- Every byte of every area reaches the cell it is placed on. -/
def Placed (s : σ) : Prop := ∀ p i, i < A.len p → cells.cell s (A.addr p + BitVec.ofNat 32 i) = some (A.place p i)

/-- No byte of the range that is memory belongs to an area. -/
def Clear (s : σ) (addr : Dword) (n : Nat) : Prop :=
  ∀ i < n, dma.ram s (addr + BitVec.ofNat 32 i) = true → ∃ k, cells.cell s (addr + BitVec.ofNat 32 i) = some k ∧
    ∀ p j, j < A.len p → k ≠ A.place p j

variable (dma)

def byteAt (s : σ) (p : ι) (i : Nat) : Byte := dma.read8 s (A.addr p + BitVec.ofNat 32 i)

def wordAt (s : σ) (p : ι) (i : Nat) : Word := wordOf (A.byteAt dma s p i) (A.byteAt dma s p (i + 1))

def dwordAt (s : σ) (p : ι) : Dword := dwordOf (A.wordAt dma s p 0) (A.wordAt dma s p 2)

/-- The address map is the same, and so are the bytes of the areas that are not excepted. -/
structure Same (except : ι → Nat → Prop) (s s' : σ) : Prop where
  cell : cells.cell s' = cells.cell s
  ram : dma.ram s' = dma.ram s
  byte : ∀ p i, i < A.len p → ¬ except p i → A.byteAt dma s' p i = A.byteAt dma s p i

variable {A dma cells} {s s' s'' : σ} {p q : ι}

namespace Same

variable {except except' : ι → Nat → Prop}

theorem refl (s : σ) : A.Same dma cells except s s := ⟨rfl, rfl, fun _ _ _ _ => rfl⟩

theorem trans (h : A.Same dma cells except s s') (h' : A.Same dma cells except s' s'') :
    A.Same dma cells except s s'' :=
  ⟨h'.cell.trans h.cell, h'.ram.trans h.ram, fun p i hi he => (h'.byte p i hi he).trans (h.byte p i hi he)⟩

theorem mono (h : A.Same dma cells except s s') (hsub : ∀ p i, except p i → except' p i) :
    A.Same dma cells except' s s' :=
  ⟨h.cell, h.ram, fun p i hi he => h.byte p i hi fun hex => he (hsub p i hex)⟩

theorem placed (h : A.Same dma cells except s s') (hp : A.Placed cells s) : A.Placed cells s' :=
  fun p i hi => by rw [h.cell]; exact hp p i hi

theorem clear (h : A.Same dma cells except s s') {addr : Dword} {n : Nat} (hc : A.Clear cells s addr n) :
    A.Clear cells s' addr n :=
  fun i hi hram => by
    rw [h.ram] at hram
    rw [h.cell]
    exact hc i hi hram

theorem wordAt (h : A.Same dma cells except s s') {i : Nat} (hi : i + 1 < A.len p)
    (he : ¬ except p i ∧ ¬ except p (i + 1)) : A.wordAt dma s' p i = A.wordAt dma s p i := by
  unfold Areas.wordAt
  rw [h.byte p i (by omega) he.1, h.byte p (i + 1) hi he.2]

theorem dwordAt (h : A.Same dma cells except s s') (hp : 4 ≤ A.len p) (he : ∀ i < 4, ¬ except p i) :
    A.dwordAt dma s' p = A.dwordAt dma s p := by
  unfold Areas.dwordAt
  rw [h.wordAt (by omega) ⟨he 0 (by omega), he 1 (by omega)⟩,
    h.wordAt (by omega) ⟨he 2 (by omega), he 3 (by omega)⟩]

end Same

/-! ## Reads -/

theorem read8 (hp : A.Placed cells s) {i : Nat} (hi : i < A.len p) :
    dma.read8Checked s (A.addr p + BitVec.ofNat 32 i) = some (A.byteAt dma s p i) :=
  if_pos (cells.ram_of_cell (hp p i hi))

theorem addr_add (a : Dword) (i n : Nat) :
    a + BitVec.ofNat 32 i + BitVec.ofNat 32 n = a + BitVec.ofNat 32 (i + n) := by
  rw [BitVec.add_assoc, BitVec.ofNat_add]

theorem read16 (hp : A.Placed cells s) {i : Nat} (hi : i + 1 < A.len p) :
    dma.read16Checked s (A.addr p + BitVec.ofNat 32 i) = some (A.wordAt dma s p i) := by
  have hnext : A.addr p + BitVec.ofNat 32 i + 1 = A.addr p + BitVec.ofNat 32 (i + 1) := addr_add _ i 1
  unfold Dma.read16Checked
  rw [read8 hp (by omega), hnext, read8 hp hi]
  rfl

theorem read32 (hp : A.Placed cells s) (hlen : 4 ≤ A.len p) :
    dma.read32Checked s (A.addr p) = some (A.dwordAt dma s p) := by
  have hlow := read16 hp (p := p) (show 0 + 1 < A.len p by omega)
  have hhigh := read16 hp (p := p) (show 2 + 1 < A.len p by omega)
  rw [show A.addr p + BitVec.ofNat 32 0 = A.addr p from BitVec.add_zero _] at hlow
  unfold Dma.read32Checked
  rw [hlow]
  show (dma.read16Checked s (A.addr p + BitVec.ofNat 32 2)).bind _ = _
  rw [hhigh]
  rfl

theorem readWords_at (hp : A.Placed cells s) {i n : Nat} (hn : i + 2 * n ≤ A.len p) :
    dma.readWords s (A.addr p + BitVec.ofNat 32 i) n =
      some ((List.range n).map fun k => A.wordAt dma s p (i + 2 * k)) := by
  induction n generalizing i with
  | zero => rfl
  | succ n ih =>
    have hnext : A.addr p + BitVec.ofNat 32 i + 2 = A.addr p + BitVec.ofNat 32 (i + 2) := addr_add _ i 2
    unfold Dma.readWords
    rw [read16 hp (by omega), hnext, ih (by omega), List.range_succ_eq_map, List.map_cons, List.map_map]
    simp only [Option.bind_eq_bind, Option.bind_some, Function.comp_def, Nat.mul_zero, Nat.add_zero,
      Nat.succ_eq_add_one, Nat.mul_add, Nat.mul_one, Nat.add_assoc, Nat.add_comm 2]

/-! ## Writes -/

/-- A byte written outside the areas, or refused, is not seen in them. -/
theorem write8_clear (hp : A.Placed cells s) {addr : Dword} (hc : A.Clear cells s addr 1) (v : Byte) {t : σ}
    (h : dma.write8Checked s addr v = some t) : A.Same dma cells (fun _ _ => False) s t := by
  unfold Dma.write8Checked at h
  by_cases hram : dma.ram s addr = true
  · rw [if_pos hram] at h
    cases h
    obtain ⟨k, hk, hfar⟩ := hc 0 (by omega) (by rwa [show addr + BitVec.ofNat 32 0 = addr from BitVec.add_zero _])
    rw [show addr + BitVec.ofNat 32 0 = addr from BitVec.add_zero _] at hk
    exact ⟨cells.cell_write v hk, dma.ram_write8 s addr v hram,
      fun p i hi _ => cells.read_write_other v hk (hp p i hi) (hfar p i hi)⟩
  · rw [if_neg hram] at h
    cases h

theorem writeBytes_clear (hp : A.Placed cells s) {addr : Dword} (data : List Byte)
    (hc : A.Clear cells s addr data.length) :
    A.Same dma cells (fun _ _ => False) s (dma.writeBytes s addr data).2 := by
  induction data generalizing s addr with
  | nil => exact Same.refl s
  | cons v rest ih =>
    unfold Dma.writeBytes
    cases hwrite : dma.write8Checked s addr v with
    | none => exact Same.refl s
    | some t =>
      have hfirst := write8_clear hp (fun i hi => hc i (by rw [List.length_cons]; omega)) v hwrite
      have hrest : A.Clear cells t (addr + 1) rest.length := hfirst.clear fun i hi => by
        have hnext : addr + 1 + BitVec.ofNat 32 i = addr + BitVec.ofNat 32 (i + 1) := by
          rw [Nat.add_comm i 1]
          exact addr_add addr 1 i
        rw [hnext]
        exact hc (i + 1) (by rw [List.length_cons]; omega)
      exact hfirst.trans (ih (hfirst.placed hp) hrest)

/-- A write inside an area. -/
theorem writeBytes_at (hp : A.Placed cells s) {i : Nat} (data : List Byte) (hfit : i + data.length ≤ A.len p) :
    ∃ t, dma.writeBytes s (A.addr p + BitVec.ofNat 32 i) data = (true, t) ∧
      A.Same dma cells (fun q j => q = p ∧ i ≤ j ∧ j < i + data.length) s t ∧
      ∀ k v, data[k]? = some v → A.byteAt dma t p (i + k) = v := by
  induction data generalizing s i with
  | nil => exact ⟨s, rfl, Same.refl s, by simp⟩
  | cons v rest ih =>
    rw [List.length_cons] at hfit
    have hcell := hp p i (by omega)
    have hcellWrite := cells.cell_write v hcell
    have hpt : A.Placed cells (dma.write8 s (A.addr p + BitVec.ofNat 32 i) v) := fun q j hj => by
      rw [hcellWrite]
      exact hp q j hj
    obtain ⟨t, hwrite, hsame, hdata⟩ := ih hpt (i := i + 1) (by omega)
    refine ⟨t, ?_, ⟨hsame.cell.trans hcellWrite, ?_, ?_⟩, ?_⟩
    · unfold Dma.writeBytes Dma.write8Checked
      rw [if_pos (cells.ram_of_cell hcell), ← hwrite, ← addr_add]
      rfl
    · exact hsame.ram.trans (dma.ram_write8 _ _ v (cells.ram_of_cell hcell))
    · intro q j hj hout
      rw [List.length_cons] at hout
      rw [hsame.byte q j hj fun h => hout ⟨h.1, by omega, by omega⟩]
      refine cells.read_write_other v hcell (hp q j hj) fun h => hout ?_
      obtain ⟨rfl, rfl⟩ := A.apart (by omega) hj h
      exact ⟨rfl, by omega, by omega⟩
    · intro k w hk
      cases k with
      | zero =>
        cases hk
        rw [Nat.add_zero, hsame.byte p i (by omega) fun h => by omega]
        exact cells.read_write_same v hcell hcell
      | succ k =>
        rw [show i + (k + 1) = i + 1 + k by omega]
        exact hdata k w hk

theorem writeWords_at (hp : A.Placed cells s) {i : Nat} (vs : List Word) (hfit : i + 2 * vs.length ≤ A.len p) :
    ∃ t, dma.writeWords s (A.addr p + BitVec.ofNat 32 i) vs = (true, t) ∧
      A.Same dma cells (fun q j => q = p ∧ i ≤ j ∧ j < i + 2 * vs.length) s t ∧
      ∀ k (h : k < vs.length), A.wordAt dma t p (i + 2 * k) = vs[k] := by
  obtain ⟨t, hwrite, hsame, hdata⟩ := writeBytes_at hp (i := i) (vs.flatMap le16) (by rwa [length_le16s])
  rw [length_le16s] at hsame
  refine ⟨t, hwrite, hsame, fun k hk => ?_⟩
  obtain ⟨hlow, hhigh⟩ := le16s_get vs hk
  unfold wordAt
  rw [hdata _ _ hlow, Nat.add_assoc, hdata _ _ hhigh, wordOf_le16]

theorem write32_at (hp : A.Placed cells s) (hlen : 4 ≤ A.len p) (v : Dword) :
    ∃ t, dma.write32Checked s (A.addr p) v = (true, t) ∧ A.Same dma cells (fun q j => q = p ∧ j < 4) s t ∧
      A.dwordAt dma t p = v := by
  obtain ⟨t, hwrite, hsame, hdata⟩ :=
    writeWords_at hp (p := p) (i := 0) [v.setWidth 16, (v >>> 16).setWidth 16] hlen
  refine ⟨t, ?_, hsame.mono fun q j h => ⟨h.1, by simpa using h.2.2⟩, ?_⟩
  · unfold Dma.write32Checked
    rw [le32_eq, ← hwrite, show A.addr p + BitVec.ofNat 32 0 = A.addr p from BitVec.add_zero _]
    rfl
  · have hlow : A.wordAt dma t p 0 = v.setWidth 16 := hdata 0 Nat.zero_lt_two
    have hhigh : A.wordAt dma t p 2 = (v >>> 16).setWidth 16 := hdata 1 Nat.one_lt_two
    unfold dwordAt
    rw [hlow, hhigh, dwordOf_halves]

end Areas

end K1801.Lsi11
