import K1801.Library.DiskFile
import K1801.Library.WordBuffer

/-! # A write-back buffer of one sector

A controller works on one sector at a time. It keeps the sector in a buffer, changes it there and writes it back
when it turns to the next one or ends. What the disk stands for is its file with the changed buffer laid over it:
moving sectors between file and buffer does not change that. Reads past the end of the file give zeros.

The medium may refuse some sectors. A refused write leaves the first bytes of the sector changed.
-/

namespace K1801.Library

structure Medium where
  unreadable : Nat → Bool
  writeStops : Nat → Option Nat

namespace Medium

/-- A medium without bad places. -/
def perfect : Medium := ⟨fun _ => false, fun _ => none⟩

def readSector (m : Medium) (size lba : Nat) (f : DiskFile) : Option Buffer :=
  if m.unreadable lba then none else some (f.block size lba)

/-- Whether the sector was written, and the file then. -/
def writeSector (m : Medium) (size lba : Nat) (data : Buffer) (f : DiskFile) : Bool × DiskFile :=
  match m.writeStops lba with
  | none => (true, f.writeAt (size * lba) size data)
  | some 0 => (false, f)
  | some (k + 1) => (false, f.writeAt (size * lba) (min (k + 1) size) data)

end Medium

structure SectorBuffer where
  file : DiskFile
  lba : Nat := 0
  valid : Bool := false
  dirty : Bool := false
  data : Buffer := Buffer.zero

namespace SectorBuffer

variable (m : Medium) (size : Nat)

/-- Write the sector back if it changed. -/
def flush (s : SectorBuffer) : Bool × SectorBuffer :=
  if s.dirty then
    let (ok, file) := m.writeSector size s.lba s.data s.file
    (ok, { s with file := file, dirty := !ok })
  else (true, s)

/-- Turn to sector `lba`. -/
def fetch (lba : Nat) (s : SectorBuffer) : Bool × SectorBuffer :=
  if s.valid && s.lba == lba then (true, s)
  else
    match s.flush m size with
    | (false, s) => (false, s)
    | (true, s) =>
      match m.readSector size lba s.file with
      | none => (false, s)
      | some data => (true, { s with lba := lba, valid := true, data := data })

/-- Leave the sector after a write-back. -/
def release (s : SectorBuffer) : Bool × SectorBuffer :=
  match s.flush m size with
  | (false, s) => (false, s)
  | (true, s) => (true, { s with valid := false })

def getWord (i : Nat) (s : SectorBuffer) : BitVec 16 := s.data.word (2 * i)

def putWord (i : Nat) (w : BitVec 16) (s : SectorBuffer) : SectorBuffer :=
  { s with data := s.data.putWord (2 * i) w, dirty := true }

/-- What the disk stands for. -/
def view (s : SectorBuffer) : Buffer :=
  if s.dirty then Buffer.paste s.file.bytes (size * s.lba) size s.data else s.file.bytes

/-- A buffer that is not to be written back holds its sector of the file. -/
structure Coherent (s : SectorBuffer) : Prop where
  valid : s.dirty = true → s.valid = true
  clean : s.valid = true → s.dirty = false → ∀ i < size, s.data i = s.file.bytes (size * s.lba + i)

variable {m size} {s s' : SectorBuffer} {ok : Bool}

theorem view_clean (h : s.dirty = false) : s.view size = s.file.bytes := by
  unfold view
  rw [h]
  rfl

theorem view_dirty (h : s.dirty = true) : s.view size = Buffer.paste s.file.bytes (size * s.lba) size s.data := by
  unfold view
  rw [h]
  rfl

/-- A valid buffer holds its sector of the disk. -/
theorem Coherent.data_eq (hc : s.Coherent size) (hv : s.valid = true) {i : Nat} (hi : i < size) :
    s.data i = s.view size (size * s.lba + i) := by
  cases hd : s.dirty with
  | false =>
    rw [view_clean hd]
    exact hc.clean hv hd i hi
  | true =>
    rw [view_dirty hd, Buffer.paste_inside _ _ (by omega) (by omega)]
    congr 1
    omega

/-! ## Words -/

theorem Coherent.getWord_eq (hc : s.Coherent size) (hv : s.valid = true) {i : Nat} (hi : 2 * i + 1 < size) :
    s.getWord i = (s.view size).word (size * s.lba + 2 * i) := by
  unfold getWord Buffer.word
  rw [hc.data_eq hv (by omega), hc.data_eq hv hi]
  rfl

theorem Coherent.putWord (hv : s.valid = true) (i : Nat) (w : BitVec 16) : (s.putWord i w).Coherent size :=
  ⟨fun _ => hv, fun _ hd => absurd (show true = false from hd) (by decide)⟩

/-- A word put into the buffer is a word put on the disk. -/
theorem view_putWord (hc : s.Coherent size) (hv : s.valid = true) {i : Nat} (hi : 2 * i + 1 < size)
    (w : BitVec 16) : (s.putWord i w).view size = (s.view size).putWord (size * s.lba + 2 * i) w := by
  rw [view_dirty rfl]
  funext a
  show Buffer.paste s.file.bytes (size * s.lba) size (s.data.putWord (2 * i) w) a = _
  by_cases hin : size * s.lba ≤ a ∧ a < size * s.lba + size
  · have hat : a = size * s.lba + (a - size * s.lba) := by omega
    rw [Buffer.paste_inside _ _ hin.1 hin.2, Buffer.putWord_apply, Buffer.putWord_apply,
      hc.data_eq hv (by omega), ← hat]
    have hlow : a - size * s.lba = 2 * i ↔ a = size * s.lba + 2 * i := by omega
    have hhigh : a - size * s.lba = 2 * i + 1 ↔ a = size * s.lba + 2 * i + 1 := by omega
    simp only [hlow, hhigh]
  · rw [Buffer.paste_outside _ _ (by omega), Buffer.putWord_outside _ _ (by omega)]
    cases hd : s.dirty with
    | false => rw [view_clean hd]
    | true => rw [view_dirty hd, Buffer.paste_outside _ _ (by omega)]

/-! ## Moves between file and buffer -/

theorem writeSector_bytes (m : Medium) (size lba : Nat) (data : Buffer) (f : DiskFile) (a : Nat) :
    (m.writeSector size lba data f).2.bytes a = f.bytes a ∨
      (m.writeSector size lba data f).2.bytes a = Buffer.paste f.bytes (size * lba) size data a := by
  unfold Medium.writeSector
  split
  · exact Or.inr rfl
  · exact Or.inl rfl
  · rename_i k hstop
    by_cases hin : size * lba ≤ a ∧ a < size * lba + min (k + 1) size
    · right
      rw [DiskFile.writeAt_bytes, Buffer.paste_inside _ _ hin.1 hin.2, Buffer.paste_inside _ _ hin.1 (by omega)]
    · left
      rw [DiskFile.writeAt_bytes, Buffer.paste_outside _ _ (by omega)]

theorem writeSector_done {lba : Nat} {data : Buffer} {f f' : DiskFile}
    (h : m.writeSector size lba data f = (true, f')) :
    m.writeStops lba = none ∧ f'.bytes = Buffer.paste f.bytes (size * lba) size data := by
  unfold Medium.writeSector at h
  split at h
  · rename_i hstop
    cases h
    exact ⟨hstop, rfl⟩
  · cases h
  · cases h

theorem writeSector_refused {lba : Nat} {data : Buffer} {f f' : DiskFile}
    (h : m.writeSector size lba data f = (false, f')) : m.writeStops lba ≠ none := by
  intro hstop
  unfold Medium.writeSector at h
  rw [hstop] at h
  cases h

theorem flush_clean (h : s.dirty = false) : s.flush m size = (true, s) := by
  unfold flush
  rw [h]
  rfl

theorem flush_dirty (h : s.dirty = true) : s.flush m size =
    ((m.writeSector size s.lba s.data s.file).1,
      { s with file := (m.writeSector size s.lba s.data s.file).2
               dirty := !(m.writeSector size s.lba s.data s.file).1 }) := by
  unfold flush
  rw [h]
  rfl

/-- A write-back moves some or all of the change into the file. -/
theorem flush_file (m : Medium) (size : Nat) (s : SectorBuffer) (a : Nat) :
    (s.flush m size).2.file.bytes a = s.file.bytes a ∨ (s.flush m size).2.file.bytes a = s.view size a := by
  cases hd : s.dirty with
  | false =>
    rw [flush_clean hd]
    exact Or.inl rfl
  | true =>
    rw [flush_dirty hd, view_dirty hd]
    exact writeSector_bytes m size s.lba s.data s.file a

/-- After a complete write-back the file is the disk. -/
theorem flush_done (h : s.flush m size = (true, s')) :
    s' = { s with file := s'.file, dirty := false } ∧ s'.file.bytes = s.view size := by
  cases hd : s.dirty with
  | false =>
    rw [flush_clean hd] at h
    cases h
    rw [view_clean hd]
    refine ⟨?_, rfl⟩
    cases s
    cases hd
    rfl
  | true =>
    rw [flush_dirty hd, Prod.mk.injEq] at h
    obtain ⟨hok, rfl⟩ := h
    have hdone : m.writeSector size s.lba s.data s.file =
        (true, (m.writeSector size s.lba s.data s.file).2) := Prod.ext hok rfl
    rw [view_dirty hd]
    refine ⟨?_, (writeSector_done hdone).2⟩
    rw [hok]
    rfl

/-- A refused write-back leaves the buffer to be written. -/
theorem flush_refused (h : s.flush m size = (false, s')) :
    s.dirty = true ∧ m.writeStops s.lba ≠ none ∧ s' = { s with file := s'.file } := by
  cases hd : s.dirty with
  | false =>
    rw [flush_clean hd] at h
    cases h
  | true =>
    rw [flush_dirty hd, Prod.mk.injEq] at h
    obtain ⟨hok, rfl⟩ := h
    refine ⟨rfl, writeSector_refused (Prod.ext hok rfl), ?_⟩
    rw [hok]
    simp only [Bool.not_false, ← hd]

theorem flush_view (m : Medium) (size : Nat) (s : SectorBuffer) : (s.flush m size).2.view size = s.view size := by
  cases hflush : s.flush m size with
  | mk ok s' =>
    cases ok with
    | true =>
      obtain ⟨heq, hbytes⟩ := flush_done hflush
      rw [view_clean (by rw [heq]), hbytes]
    | false =>
      obtain ⟨hd, -, heq⟩ := flush_refused hflush
      have hfile := fun a => flush_file m size s a
      rw [hflush] at hfile
      have hdirty' : s'.dirty = true := by
        rw [heq]
        exact hd
      have hlba : s'.lba = s.lba := by rw [heq]
      have hdata : s'.data = s.data := by rw [heq]
      show s'.view size = s.view size
      rw [view_dirty hd, view_dirty hdirty', hlba, hdata]
      funext a
      by_cases hin : size * s.lba ≤ a ∧ a < size * s.lba + size
      · rw [Buffer.paste_inside _ _ hin.1 hin.2, Buffer.paste_inside _ _ hin.1 hin.2]
      · rw [Buffer.paste_outside _ _ (by omega), Buffer.paste_outside _ _ (by omega)]
        rcases hfile a with hsame | hview
        · exact hsame
        · rw [hview, view_dirty hd, Buffer.paste_outside _ _ (by omega)]

/-! ## Turning to a sector -/

/-- What turning to sector `lba` leaves: the disk is the same, and the buffer holds the sector if it came. -/
structure Fetched (m : Medium) (size lba : Nat) (s : SectorBuffer) (ok : Bool) (s' : SectorBuffer) : Prop where
  view : s'.view size = s.view size
  file : ∀ a, s'.file.bytes a = s.file.bytes a ∨ s'.file.bytes a = s.view size a
  coherent : s'.Coherent size
  came : ok = true → s'.valid = true ∧ s'.lba = lba
  refused : ok = false → (s.dirty = true ∧ m.writeStops s.lba ≠ none) ∨ m.unreadable lba = true

theorem Coherent.flush (hc : s.Coherent size) : (s.flush m size).2.Coherent size := by
  cases hflush : s.flush m size with
  | mk ok s' =>
    cases ok with
    | true =>
      obtain ⟨heq, hbytes⟩ := flush_done hflush
      rw [heq]
      refine ⟨fun hd => absurd (show false = true from hd) (by decide), fun hv _ i hi => ?_⟩
      show s.data i = s'.file.bytes (size * s.lba + i)
      rw [hbytes]
      exact hc.data_eq hv hi
    | false =>
      obtain ⟨hd, -, heq⟩ := flush_refused hflush
      rw [heq]
      exact ⟨fun _ => hc.valid hd, fun _ hclean => absurd (hd.symm.trans hclean) (by decide)⟩

theorem fetch_fetched (lba : Nat) (hc : s.Coherent size) :
    Fetched m size lba s (s.fetch m size lba).1 (s.fetch m size lba).2 := by
  unfold fetch
  cases hhere : s.valid && s.lba == lba with
  | true =>
    rw [Bool.and_eq_true, beq_iff_eq] at hhere
    exact ⟨rfl, fun _ => Or.inl rfl, hc, fun _ => hhere, fun h => absurd (show true = false from h) (by decide)⟩
  | false =>
    have hview := flush_view m size s
    have hfile := fun a => flush_file m size s a
    have hcflush := hc.flush (m := m)
    cases hflush : s.flush m size with
    | mk ok s' =>
      rw [hflush] at hview hfile hcflush
      cases ok with
      | false =>
        obtain ⟨hd, hstop, -⟩ := flush_refused hflush
        exact ⟨hview, hfile, hcflush, fun h => absurd (show false = true from h) (by decide),
          fun _ => Or.inl ⟨hd, hstop⟩⟩
      | true =>
        have hclean : s'.dirty = false := by rw [(flush_done hflush).1]
        cases hread : m.readSector size lba s'.file with
        | none =>
          have hbad : m.unreadable lba = true := by
            unfold Medium.readSector at hread
            cases hu : m.unreadable lba with
            | true => rfl
            | false =>
              rw [hu] at hread
              cases hread
          simp only [Bool.false_eq_true, if_false, hread]
          exact ⟨hview, hfile, hcflush, fun h => absurd (show false = true from h) (by decide),
            fun _ => Or.inr hbad⟩
        | some data =>
          have hdata : data = s'.file.block size lba := by
            unfold Medium.readSector at hread
            split at hread
            · cases hread
            · exact (Option.some.inj hread).symm
          simp only [Bool.false_eq_true, if_false, hread]
          have hkept : ({ s' with lba := lba, valid := true, data := data } : SectorBuffer).view size = s'.view size := by
            rw [view_clean hclean]
            exact view_clean hclean
          refine ⟨hkept.trans hview, hfile, ⟨fun _ => rfl, fun _ _ i hi => ?_⟩, fun _ => ⟨rfl, rfl⟩,
            fun h => absurd (show true = false from h) (by decide)⟩
          show data i = s'.file.bytes (size * lba + i)
          rw [hdata, DiskFile.block_apply _ hi]

end SectorBuffer

end K1801.Library
