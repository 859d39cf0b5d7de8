import K1801.Mk90.MemoryRoutes

/-! # The accesses that reach the serial controller

What the windows of memory are at the time makes no difference to the registers of the serial controller: its state
after a run of the machine is that of the accesses to its registers.
-/

namespace K1801.Mk90

open Core Library

/-- What happens to the controller. -/
inductive Mk90IoAccess where
  | readByte (offset : Word)
  | readWord (offset : Word)
  | writeByte (offset : Word) (value : Byte)
  | writeWord (offset value : Word)
  | reset
  deriving Repr, DecidableEq

namespace Mk90IoUnit

variable {ι : Type} (unit : Mk90IoUnit ι)

/-- The byte that an access gives, if it is a load of one, and the state behind it. -/
def access (io : ι) : Mk90IoAccess → List Byte × ι
  | .readByte offset => ([(unit.readByte io offset).1], (unit.readByte io offset).2)
  | .readWord offset => ([], (unit.readWord io offset).2)
  | .writeByte offset value => ([], unit.writeByte io offset value)
  | .writeWord offset value => ([], unit.writeWord io offset value)
  | .reset => ([], unit.reset io)

def accesses : List Mk90IoAccess → ι → List Byte × ι
  | [], io => ([], io)
  | a :: as, io =>
    let (first, io) := unit.access io a
    let (rest, io) := accesses as io
    (first ++ rest, io)

@[simp] theorem accesses_nil (io : ι) : unit.accesses [] io = ([], io) := rfl

theorem accesses_cons (a : Mk90IoAccess) (as : List Mk90IoAccess) (io : ι) :
    unit.accesses (a :: as) io =
      ((unit.access io a).1 ++ (unit.accesses as (unit.access io a).2).1, (unit.accesses as (unit.access io a).2).2) :=
  rfl

theorem accesses_append (as bs : List Mk90IoAccess) (io : ι) :
    unit.accesses (as ++ bs) io =
      ((unit.accesses as io).1 ++ (unit.accesses bs (unit.accesses as io).2).1,
        (unit.accesses bs (unit.accesses as io).2).2) := by
  induction as generalizing io with
  | nil => rfl
  | cons a as ih => rw [List.cons_append, accesses_cons, accesses_cons, ih, List.append_assoc]

end Mk90IoUnit

/-- An address of the controller. -/
def isIoRegister (address : Word) : Bool := mk90IoBase ≤ address.toNat && address.toNat < mk90IoBase + 8

def ioOffset (address : Word) : Word := BitVec.ofNat 16 (address.toNat - mk90IoBase)

def ioStoreByte (address : Word) (value : Byte) : List Mk90IoAccess :=
  if isIoRegister address then [.writeByte (ioOffset address) value] else []

/-- The accesses of the controller in an event. A load of a word from an odd address there is one of the ROM. -/
def Mk90Machine.Event.ioAccesses : Mk90Machine.Event → List Mk90IoAccess
  | .loadByte address => if isIoRegister address then [.readByte (ioOffset address)] else []
  | .storeByte address value => ioStoreByte address value
  | .loadWord address =>
    if address &&& 1 = 0 ∧ isIoRegister address then [.readWord (ioOffset address)] else []
  | .storeWord address value =>
    if address &&& 1 = 0 then if isIoRegister address then [.writeWord (ioOffset address) value] else []
    else ioStoreByte address (value.setWidth 8) ++ ioStoreByte (address + 1) ((value >>> 8).setWidth 8)
  | .reset _ => [.reset]

namespace Mk90Machine

variable {ι : Type} (unit : Mk90IoUnit ι)

/-- A step, with the byte that a load from a register of the controller has got. -/
def observe (m : Mk90Machine ι) : Event → Option (List Byte × Mk90Machine ι)
  | .loadByte address =>
    (m.loadByte unit address).map fun loaded => (if isIoRegister address then [loaded.1] else [], loaded.2)
  | ev => (m.step unit ev).map ([], ·)

def observeRun : List Event → Mk90Machine ι → Option (List Byte × Mk90Machine ι)
  | [], m => some ([], m)
  | ev :: evs, m => do
    let (first, m) ← m.observe unit ev
    let (rest, m) ← observeRun evs m
    return (first ++ rest, m)

/-! ## Routes -/

section Routes

variable {address : Word}

theorem isIoRegister_iff : isIoRegister address = true ↔ 0o164020 ≤ address.toNat ∧ address.toNat < 0o164030 := by
  unfold isIoRegister
  rw [Bool.and_eq_true, decide_eq_true_eq, decide_eq_true_eq]

theorem deviceAt_io (h : isIoRegister address = true) : deviceAt 1 address = some (.io, ioOffset address) := by
  obtain ⟨hlow, hhigh⟩ := isIoRegister_iff.1 h
  unfold deviceAt
  dsimp only [mk90LcdBase, mk90IoBase]
  rw [if_neg (by omega), if_pos (by omega)]
  rfl

theorem deviceAt_io_word (heven : address.toNat % 2 = 0) (h : isIoRegister address = true) :
    deviceAt 2 address = some (.io, ioOffset address) := by
  obtain ⟨hlow, hhigh⟩ := isIoRegister_iff.1 h
  unfold deviceAt
  dsimp only [mk90LcdBase, mk90IoBase]
  rw [if_neg (by omega), if_pos (by omega)]
  rfl

theorem deviceAt_ne_io {width : Nat} (hwidth : 1 ≤ width) (h : isIoRegister address ≠ true) {device : Mk90Device}
    {offset : Word} (hdevice : deviceAt width address = some (device, offset)) : device ≠ .io := by
  rw [Ne, isIoRegister_iff] at h
  unfold deviceAt at hdevice
  dsimp only [mk90LcdBase, mk90IoBase] at hdevice
  split_ifs at hdevice with hlcd hio hsys hrtc
  · cases hdevice
    exact fun hdev => by cases hdev
  · omega
  · cases hdevice
    exact fun hdev => by cases hdev
  · cases hdevice
    exact fun hdev => by cases hdev

theorem windows_io (s : Mk90Syscon) (h : isIoRegister address = true) :
    s.rdRam address = true ∧ s.wrRam address = true := by
  obtain ⟨hlow, hhigh⟩ := isIoRegister_iff.1 h
  have hregisters : Mk90Syscon.inRegisters address = true := by
    unfold Mk90Syscon.inRegisters
    rw [Bool.and_eq_true, decide_eq_true_eq, decide_eq_true_eq]
    omega
  unfold Mk90Syscon.rdRam Mk90Syscon.wrRam
  rw [hregisters, Bool.or_true, Bool.or_true]
  exact ⟨rfl, rfl⟩

variable (m : Mk90Machine ι)

theorem readByte_io (h : isIoRegister address = true) :
    m.readByte unit address =
      some ((unit.readByte m.io (ioOffset address)).1, { m with io := (unit.readByte m.io (ioOffset address)).2 }) := by
  have hend := m.ramEnd_lt
  have hlow : 0o164020 ≤ address.toNat := (isIoRegister_iff.1 h).1
  have hlarge : ¬ address.toNat ≤ m.ramEnd := by
    dsimp only [mk90RamMaxSize] at hend
    omega
  unfold readByte
  dsimp only
  rw [if_neg fun hram => hlarge hram.2, if_pos (windows_io m.syscon h).1, deviceAt_io h]
  rfl

theorem readByte_other (h : isIoRegister address ≠ true) {value : Byte} {m' : Mk90Machine ι}
    (hread : m.readByte unit address = some (value, m')) : m'.io = m.io := by
  unfold readByte at hread
  dsimp only at hread
  split at hread
  · rw [Option.map_eq_some_iff] at hread
    obtain ⟨_, _, heq⟩ := hread
    cases heq
    rfl
  · split at hread
    · rename_i device offset hdevice
      have hne : device ≠ .io := by
        split_ifs at hdevice
        exact deviceAt_ne_io (Nat.le_refl 1) h hdevice
      cases device with
      | io => exact absurd rfl hne
      | lcd => cases hread; rfl
      | sys => cases hread; rfl
      | rtc => cases hread; rfl
    · split_ifs at hread
      · rw [Option.map_eq_some_iff] at hread
        obtain ⟨_, _, heq⟩ := hread
        cases heq
        rfl
      · rw [Option.map_eq_some_iff] at hread
        obtain ⟨_, _, heq⟩ := hread
        cases heq
        rfl
      · cases hread
        rfl

theorem registerWord_io {device : Mk90Device} (h : device ≠ .io) (offset : Word) :
    (m.registerWord unit offset device).2.io = m.io := by
  cases device with
  | io => exact absurd rfl h
  | lcd => rfl
  | sys => rfl
  | rtc => rfl

theorem setRegisterByte_io {device : Mk90Device} (h : device ≠ .io) (offset : Word) (value : Byte) :
    (m.setRegisterByte unit offset value device).io = m.io := by
  cases device with
  | io => exact absurd rfl h
  | lcd => rfl
  | sys => rfl
  | rtc => rfl

theorem setRegisterWord_io {device : Mk90Device} (h : device ≠ .io) (offset value : Word) :
    (m.setRegisterWord unit offset value device).io = m.io := by
  cases device with
  | io => exact absurd rfl h
  | lcd => rfl
  | sys => rfl
  | rtc => rfl

theorem setRamAt_io {i : Nat} {value : Byte} {m m' : Mk90Machine ι} (h : m.setRamAt i value = some m') : m'.io = m.io := by
  unfold setRamAt at h
  split_ifs at h
  cases h
  rfl

theorem setRamWordAt_io {i : Nat} {value : Word} {m m' : Mk90Machine ι} (h : m.setRamWordAt i value = some m') :
    m'.io = m.io := by
  unfold setRamWordAt at h
  obtain ⟨m₁, hlow, hhigh⟩ := Option.bind_eq_some_iff.1 h
  exact (setRamAt_io hhigh).trans (setRamAt_io hlow)

/-- A window that is closed for writing has no register of the controller in it, nor before it. -/
theorem not_io_of_closed (h : m.syscon.wrRam address ≠ true) :
    isIoRegister address ≠ true ∧ isIoRegister (address + 1) ≠ true := by
  refine ⟨fun hio => h (windows_io m.syscon hio).2, fun hio => ?_⟩
  obtain ⟨hlow, hhigh⟩ := isIoRegister_iff.1 hio
  have hnext : (address + 1).toNat = (address.toNat + 1) % 2 ^ 16 := BitVec.toNat_add address 1
  have hregisters : Mk90Syscon.inRegisters address = true := by
    unfold Mk90Syscon.inRegisters
    rw [Bool.and_eq_true, decide_eq_true_eq, decide_eq_true_eq]
    omega
  unfold Mk90Syscon.wrRam at h
  rw [hregisters, Bool.or_true] at h
  exact h rfl

theorem not_io_of_ram (h : address.toNat ≤ m.ramEnd) : isIoRegister address ≠ true := by
  have hend := m.ramEnd_lt
  dsimp only [mk90RamMaxSize] at hend
  rw [Ne, isIoRegister_iff]
  omega

theorem writeByte_io {value : Byte} {m' : Mk90Machine ι} (h : m.writeByte unit address value = some m') :
    m'.io = (unit.accesses (ioStoreByte address value) m.io).2 := by
  unfold writeByte at h
  dsimp only at h
  unfold ioStoreByte
  by_cases hio : isIoRegister address = true
  · have hram : ¬ address.toNat ≤ m.ramEnd := fun hram => m.not_io_of_ram hram hio
    rw [(windows_io m.syscon hio).2, if_neg (by decide), if_neg hram, deviceAt_io hio] at h
    cases h
    rw [if_pos hio]
    rfl
  · rw [if_neg hio]
    split at h
    · cases h
      rfl
    · split at h
      · exact setRamAt_io h
      · split at h
        · rename_i device offset hdevice
          cases h
          exact m.setRegisterByte_io unit (deviceAt_ne_io (Nat.le_refl 1) hio hdevice) offset value
        · cases h
          rfl

theorem writeBytes_io {value : Word} {m' : Mk90Machine ι} (h : m.writeBytes unit address value = some m') :
    m'.io = (unit.accesses (ioStoreByte address (value.setWidth 8) ++
      ioStoreByte (address + 1) ((value >>> 8).setWidth 8)) m.io).2 := by
  unfold writeBytes at h
  obtain ⟨m₁, hlow, hhigh⟩ := Option.bind_eq_some_iff.1 h
  rw [unit.accesses_append, m₁.writeByte_io unit hhigh, m.writeByte_io unit hlow]

theorem readWord_io (heven : address &&& 1 = 0) (h : isIoRegister address = true) :
    m.readWord unit address =
      some ((unit.readWord m.io (ioOffset address)).1, { m with io := (unit.readWord m.io (ioOffset address)).2 }) := by
  have heven' := (even_iff address).1 heven
  have hend := m.ramEnd_lt
  have hnext := toNat_next heven'
  have hlow : 0o164020 ≤ address.toNat := (isIoRegister_iff.1 h).1
  have hlarge : ¬ (address + 1).toNat ≤ m.ramEnd := by
    dsimp only [mk90RamMaxSize] at hend
    omega
  unfold readWord
  dsimp only
  rw [if_pos (windows_io m.syscon h).1, if_neg hlarge, if_pos heven, deviceAt_io_word heven' h]
  rfl

theorem readBytes_other (h : isIoRegister address ≠ true) (h' : isIoRegister (address + 1) ≠ true) {value : Word}
    {m' : Mk90Machine ι} (hread : m.readBytes unit address = some (value, m')) : m'.io = m.io := by
  unfold readBytes at hread
  obtain ⟨⟨lo, m₁⟩, hlow, hread⟩ := Option.bind_eq_some_iff.1 hread
  obtain ⟨⟨hi, m₂⟩, hhigh, hread⟩ := Option.bind_eq_some_iff.1 hread
  cases hread
  exact (m₁.readByte_other unit h' hhigh).trans (m.readByte_other unit h hlow)

/-- Behind an address whose word is loaded in bytes there is no register of the controller. -/
theorem not_io_of_bytes
    (hhole : m.syscon.rdRam address = true → ¬ (m.ramEnd < (address + 1).toNat ∧ mk90RomStart ≤ address.toNat ∧
      address.toNat - mk90RomStart + 1 < mk90RomSize)) :
    isIoRegister address ≠ true ∧ isIoRegister (address + 1) ≠ true := by
  have hend := m.ramEnd_lt
  dsimp only [mk90RamMaxSize, mk90RomStart, mk90RomSize] at hend hhole
  have hnext : (address + 1).toNat = (address.toNat + 1) % 2 ^ 16 := BitVec.toNat_add address 1
  have hwindow : ¬ (0o164017 ≤ address.toNat ∧ address.toNat < 0o164030) := by
    rintro ⟨hlow, hhigh⟩
    have hregisters : Mk90Syscon.inRegisters address = true := by
      unfold Mk90Syscon.inRegisters
      rw [Bool.and_eq_true, decide_eq_true_eq, decide_eq_true_eq]
      omega
    refine hhole ?_ (by omega)
    unfold Mk90Syscon.rdRam
    rw [hregisters, Bool.or_true]
  constructor
  · rw [Ne, isIoRegister_iff]
    omega
  · rw [Ne, isIoRegister_iff]
    omega

theorem readWord_other (h : ¬ (address &&& 1 = 0 ∧ isIoRegister address = true)) {value : Word} {m' : Mk90Machine ι}
    (hread : m.readWord unit address = some (value, m')) : m'.io = m.io := by
  unfold readWord at hread
  dsimp only at hread
  split at hread
  · split at hread
    · rw [Option.map_eq_some_iff] at hread
      obtain ⟨_, _, heq⟩ := hread
      cases heq
      rfl
    · split at hread
      · rename_i device offset hdevice
        split_ifs at hdevice with heven
        have hkept := m.registerWord_io unit (deviceAt_ne_io (by decide) (fun hio => h ⟨heven, hio⟩) hdevice) offset
        rw [Option.some.inj hread] at hkept
        exact hkept
      · split at hread
        · rw [Option.map_eq_some_iff] at hread
          obtain ⟨_, _, heq⟩ := hread
          cases heq
          rfl
        · rename_i hhole
          obtain ⟨hlow, hhigh⟩ := m.not_io_of_bytes fun _ => hhole
          exact m.readBytes_other unit hlow hhigh hread
  · rename_i hclosed
    split at hread
    · rw [Option.map_eq_some_iff] at hread
      obtain ⟨_, _, heq⟩ := hread
      cases heq
      rfl
    · obtain ⟨hlow, hhigh⟩ := m.not_io_of_bytes fun hopen => absurd hopen hclosed
      exact m.readBytes_other unit hlow hhigh hread

theorem writeWord_io {value : Word} {m' : Mk90Machine ι} (h : m.writeWord unit address value = some m') :
    m'.io = (unit.accesses (Event.storeWord address value).ioAccesses m.io).2 := by
  have hodd (hodd : address &&& 1 ≠ 0) : (Event.storeWord address value).ioAccesses =
      ioStoreByte address (value.setWidth 8) ++ ioStoreByte (address + 1) ((value >>> 8).setWidth 8) := if_neg hodd
  have heven (heven : address &&& 1 = 0) : (Event.storeWord address value).ioAccesses =
      if isIoRegister address then [.writeWord (ioOffset address) value] else [] := if_pos heven
  have hnone (hio : isIoRegister address ≠ true) (hio' : isIoRegister (address + 1) ≠ true) :
      (Event.storeWord address value).ioAccesses = [] := by
    by_cases hparity : address &&& 1 = 0
    · rw [heven hparity, if_neg hio]
    · rw [hodd hparity, ioStoreByte, ioStoreByte, if_neg hio, if_neg hio']
      rfl
  unfold writeWord at h
  dsimp only at h
  split at h
  · rename_i hclosed
    cases h
    obtain ⟨hio, hio'⟩ := m.not_io_of_closed (by simpa using hclosed)
    rw [hnone hio hio']
    rfl
  · rename_i hopen
    split at h
    · rename_i hram
      have hlt := m.syscon.wrRam_lt (by simpa using hopen)
      have hnext := toNat_succ hlt
      rw [hnone (m.not_io_of_ram (by omega)) (m.not_io_of_ram hram), setRamWordAt_io h]
      rfl
    · by_cases hparity : address &&& 1 = 0
      · rw [heven hparity]
        rw [if_pos hparity] at h
        by_cases hio : isIoRegister address = true
        · rw [deviceAt_io_word ((even_iff address).1 hparity) hio] at h
          cases h
          rw [if_pos hio]
          rfl
        · rw [if_neg hio]
          split at h
          · rename_i device offset hdevice
            cases h
            exact m.setRegisterWord_io unit (deviceAt_ne_io (by decide) hio hdevice) offset value
          · have hio' : isIoRegister (address + 1) ≠ true := by
              have hnext := toNat_next ((even_iff address).1 hparity)
              have heven' := (even_iff address).1 hparity
              rw [isIoRegister_iff] at hio
              rw [Ne, isIoRegister_iff]
              omega
            rw [m.writeBytes_io unit h, ioStoreByte, ioStoreByte, if_neg hio, if_neg hio']
            rfl
      · rw [if_neg hparity] at h
        rw [hodd hparity]
        exact m.writeBytes_io unit h

end Routes

/-! ## Runs -/

theorem observe_step {m m' : Mk90Machine ι} {ev : Event} (hev : ∀ address, ev ≠ .loadByte address)
    (h : m.step unit ev = some m') : m.observe unit ev = some ([], m') := by
  cases ev with
  | loadByte address => exact absurd rfl (hev address)
  | storeByte address value => exact (congrArg (Option.map _) h).trans rfl
  | loadWord address => exact (congrArg (Option.map _) h).trans rfl
  | storeWord address value => exact (congrArg (Option.map _) h).trans rfl
  | reset now => exact (congrArg (Option.map _) h).trans rfl

/-- An event does to the controller what its accesses do. -/
theorem observe_io {m : Mk90Machine ι} (h : m.Synced) (ev : Event) :
    ∃ m', m.observe unit ev = some ((unit.accesses ev.ioAccesses m.io).1, m') ∧ m.step unit ev = some m' ∧
      m'.Synced ∧ m'.io = (unit.accesses ev.ioAccesses m.io).2 := by
  have hroutes := h.routes unit
  obtain ⟨m', hstep, hsynced⟩ := h.step unit ev
  refine ⟨m', ?_⟩
  cases ev with
  | loadByte address =>
    rw [step, (hroutes.direct address).1] at hstep
    rw [observe, step, (hroutes.direct address).1]
    obtain ⟨⟨value, m''⟩, hread, hm⟩ := Option.map_eq_some_iff.1 hstep
    cases hm
    rw [hread, Event.ioAccesses, Option.map_some, Option.map_some]
    by_cases hio : isIoRegister address = true
    · rw [m.readByte_io unit hio] at hread
      cases hread
      rw [if_pos hio, if_pos hio]
      exact ⟨rfl, rfl, hsynced, rfl⟩
    · rw [if_neg hio, if_neg hio]
      exact ⟨rfl, rfl, hsynced, m.readByte_other unit hio hread⟩
  | storeByte address value =>
    have hwrite := hstep
    rw [step, (hroutes.direct address).2.2.1] at hwrite
    have hnone : (unit.accesses (ioStoreByte address value) m.io).1 = [] := by
      unfold ioStoreByte
      split <;> rfl
    refine ⟨(observe_step unit (fun _ hev => by cases hev) hstep).trans ?_, hstep, hsynced, m.writeByte_io unit hwrite⟩
    rw [Event.ioAccesses, hnone]
  | loadWord address =>
    have hload := hstep
    rw [step, (hroutes.direct address).2.1] at hload
    obtain ⟨⟨value, m''⟩, hread, hm⟩ := Option.map_eq_some_iff.1 hload
    cases hm
    refine ⟨(observe_step unit (fun _ hev => by cases hev) hstep).trans ?_, hstep, hsynced, ?_⟩
    · rw [Event.ioAccesses]
      split <;> rfl
    · rw [Event.ioAccesses]
      by_cases hio : address &&& 1 = 0 ∧ isIoRegister address = true
      · rw [m.readWord_io unit hio.1 hio.2] at hread
        cases hread
        rw [if_pos hio]
        rfl
      · rw [if_neg hio]
        exact m.readWord_other unit hio hread
  | storeWord address value =>
    have hwrite := hstep
    rw [step, (hroutes.direct address).2.2.2] at hwrite
    have hnone : (unit.accesses (Event.storeWord address value).ioAccesses m.io).1 = [] := by
      unfold Event.ioAccesses ioStoreByte
      dsimp only
      split_ifs <;> rfl
    refine ⟨(observe_step unit (fun _ hev => by cases hev) hstep).trans ?_, hstep, hsynced, m.writeWord_io unit hwrite⟩
    rw [hnone]
  | reset now =>
    cases hstep
    exact ⟨rfl, rfl, hsynced, rfl⟩

/-- The controller in a run of the machine runs by the accesses to its registers alone. -/
theorem observeRun_io {m : Mk90Machine ι} (h : m.Synced) (evs : List Event) :
    ∃ m', m.observeRun unit evs = some ((unit.accesses (evs.flatMap Event.ioAccesses) m.io).1, m') ∧
      evs.foldlM (step unit) m = some m' ∧ m'.Synced ∧
      m'.io = (unit.accesses (evs.flatMap Event.ioAccesses) m.io).2 := by
  induction evs generalizing m with
  | nil => exact ⟨m, rfl, rfl, h, rfl⟩
  | cons ev evs ih =>
    obtain ⟨m₁, hobserve, hstep, hsynced, hio⟩ := observe_io unit h ev
    obtain ⟨m₂, hrest, hrun, hlast, hio'⟩ := ih hsynced
    refine ⟨m₂, ?_, ?_, hlast, ?_⟩
    · simp only [observeRun, hobserve, Option.bind_eq_bind, Option.bind_some, hrest, Option.pure_def]
      rw [List.flatMap_cons, unit.accesses_append, hio]
    · rw [List.foldlM_cons, hstep]
      exact hrun
    · rw [hio', List.flatMap_cons, unit.accesses_append, hio]

end Mk90Machine

end K1801.Mk90
