import Mathlib.Tactic.IntervalCases
import K1801.Mk90.Io
import K1801.Mk90.IoAccesses

/-! # Cartridges on the bus

A program that writes bytes to a cartridge through the registers of the serial controller reads them back, and no run
of the machine changes a cartridge that is read-only or loses the file of one that is not.
-/

namespace K1801.Mk90

open Core Library

/-! ## Transfers -/

namespace Mk90SmpSlot

/-- A cartridge that the program may write, with the mask of its size. -/
structure Ram (slot : Mk90SmpSlot) : Prop where
  present : slot.present = true
  size : slot.data.length < 0o100000
  mask : slot.mask = 0o177777

/-- The bytes sent to a cartridge, one after the other. -/
def sendAll (slot : Mk90SmpSlot) (bytes : List Byte) : Mk90SmpSlot := bytes.foldl (fun slot v => (slot.smpData v).2) slot

variable {slot : Mk90SmpSlot}

theorem smpData_load (h : slot.Ram) (hcmd : slot.cmd = 0o240) (value : Byte) :
    (slot.smpData value).2 =
      { slot with position := (slot.position <<< 8 ||| value.setWidth 32) &&& 0o177777 } := by
  unfold smpData
  rw [h.present, hcmd, ← h.mask]
  rfl

theorem smpData_read (h : slot.Ram) (hcmd : slot.cmd = 0o320) (value : Byte) :
    slot.smpData value = (slot.data.getD slot.position.toNat 0,
      { slot with position := (slot.position + 1) &&& 0o177777 }) := by
  have hbyte : (if slot.position.toNat < slot.data.length then slot.data.getD slot.position.toNat 0 else 0) =
      slot.data.getD slot.position.toNat 0 := by
    split
    · rfl
    · rename_i hend
      rw [List.getD_eq_getElem?_getD, List.getElem?_eq_none (Nat.le_of_not_lt hend)]
      rfl
  unfold smpData moved
  rw [h.present, hcmd, h.mask]
  exact Prod.ext hbyte rfl

theorem smpData_write (h : slot.Ram) (hcmd : slot.cmd = 0o300) (hin : slot.position.toNat < slot.data.length)
    (value : Byte) :
    (slot.smpData value).2 = { slot with
      data := slot.data.set slot.position.toNat value
      dirty := true
      position := (slot.position + 1) &&& 0o177777 } := by
  have hwritten : slot.position.toNat < slot.data.length ∧ slot.data.length < 0o100000 := ⟨hin, h.size⟩
  have hdata : (if slot.position.toNat < slot.data.length ∧ slot.data.length < 0o100000 then
      slot.data.set slot.position.toNat value else slot.data) = slot.data.set slot.position.toNat value := if_pos hwritten
  have hdirty : (slot.dirty || decide (slot.position.toNat < slot.data.length ∧ slot.data.length < 0o100000)) = true := by
    rw [decide_eq_true hwritten, Bool.or_true]
  rw [← hdata, ← hdirty]
  unfold smpData moved
  rw [h.present, hcmd, h.mask]
  rfl

theorem next_toNat {p : BitVec 32} (h : p.toNat < 0o100000) : ((p + 1) &&& 0o177777).toNat = p.toNat + 1 := by
  have hone : (p + 1).toNat = p.toNat + 1 := by
    rw [BitVec.toNat_add, show (1 : BitVec 32).toNat = 1 from rfl]
    omega
  rw [BitVec.toNat_and, hone, show (0o177777 : BitVec 32).toNat = 2 ^ 16 - 1 from rfl, Nat.and_two_pow_sub_one_eq_mod]
  exact Nat.mod_eq_of_lt (by omega)

/-- Two bytes are a position, whatever the position was. -/
theorem position_load (p : BitVec 32) (address : Word) :
    (((p <<< 8 ||| ((address >>> 8).setWidth 8 : Byte).setWidth 32) &&& 0o177777) <<< 8 |||
      (address.setWidth 8 : Byte).setWidth 32) &&& 0o177777 = address.setWidth 32 := by
  apply BitVec.eq_of_getLsbD_eq
  intro i hi
  interval_cases i <;> simp

/-- The bytes written from the position on. -/
theorem sendAll_write (h : slot.Ram) (hcmd : slot.cmd = 0o300) (bytes : List Byte)
    (hfit : slot.position.toNat + bytes.length ≤ slot.data.length) :
    (slot.sendAll bytes).Ram ∧ (slot.sendAll bytes).cmd = 0o300 ∧ (slot.sendAll bytes).data =
      slot.data.take slot.position.toNat ++ bytes ++ slot.data.drop (slot.position.toNat + bytes.length) := by
  induction bytes generalizing slot with
  | nil => exact ⟨h, hcmd, by rw [List.append_nil, List.length_nil, Nat.add_zero, List.take_append_drop]; rfl⟩
  | cons b bytes ih =>
    rw [List.length_cons] at hfit
    have hin : slot.position.toNat < slot.data.length := by omega
    have hsize := h.size
    have hnext : ((slot.position + 1) &&& 0o177777 : BitVec 32).toNat = slot.position.toNat + 1 := next_toNat (by omega)
    have hsent := smpData_write h hcmd hin b
    have hram : ((slot.smpData b).2).Ram := by
      rw [hsent]
      exact ⟨h.present, by rw [List.length_set]; exact h.size, h.mask⟩
    have hcmd' : ((slot.smpData b).2).cmd = 0o300 := by
      rw [hsent]
      exact hcmd
    obtain ⟨hlast, hlast', hdata⟩ := ih hram hcmd' (by
      rw [hsent]
      dsimp only
      rw [hnext, List.length_set]
      omega)
    refine ⟨hlast, hlast', hdata.trans ?_⟩
    rw [hsent]
    dsimp only
    have hset : slot.data.set slot.position.toNat b =
        (slot.data.take slot.position.toNat ++ [b]) ++ slot.data.drop (slot.position.toNat + 1) := by
      rw [List.set_eq_take_append_cons_drop, if_pos hin, List.append_assoc]
      rfl
    have hlen : (slot.data.take slot.position.toNat ++ [b]).length = slot.position.toNat + 1 := by
      rw [List.length_append, List.length_take, Nat.min_eq_left (Nat.le_of_lt hin)]
      rfl
    rw [hnext, List.length_cons, List.drop_set_of_lt (by omega), hset, List.take_left' hlen, List.append_assoc,
      List.append_assoc, List.append_assoc, Nat.add_assoc, Nat.add_comm 1]
    rfl

end Mk90SmpSlot

namespace Mk90Io

variable (io : Mk90Io)

@[simp] theorem raiseDataIrq_regs : io.raiseDataIrq.regs = io.regs := by
  unfold raiseDataIrq
  split <;> rfl

@[simp] theorem raiseDataIrq_shiftreg : io.raiseDataIrq.shiftreg = io.shiftreg := by
  unfold raiseDataIrq
  split <;> rfl

@[simp] theorem raiseDataIrq_selectActive : io.raiseDataIrq.selectActive = io.selectActive := by
  unfold raiseDataIrq
  split <;> rfl

@[simp] theorem raiseDataIrq_smp : io.raiseDataIrq.smp = io.smp := by
  unfold raiseDataIrq
  split <;> rfl

@[simp] theorem startTransfer_regs : io.startTransfer.regs = io.regs := by
  unfold startTransfer
  split <;> rfl

@[simp] theorem startTransfer_shiftreg : io.startTransfer.shiftreg = io.shiftreg := by
  unfold startTransfer
  split <;> rfl

@[simp] theorem startTransfer_selectActive : io.startTransfer.selectActive = io.selectActive := by
  unfold startTransfer
  split <;> rfl

@[simp] theorem startTransfer_smp : io.startTransfer.smp = io.smp := by
  unfold startTransfer
  split <;> rfl

@[simp] theorem queueBuzzer_smp : io.queueBuzzer.smp = io.smp := by
  unfold queueBuzzer beeperAddCycles
  dsimp only
  split_ifs <;> rfl

theorem mode_congr {io io' : Mk90Io} (h : io'.regs 2 = io.regs 2) : io'.mode = io.mode := by
  unfold mode
  rw [h]

/-! ## The steps of a session -/

/-- Cartridge `k` is selected, for output or for input. -/
structure Facing (io : Mk90Io) (k : Fin 2) (out : Bool) : Prop where
  mode : io.mode = k + if out then 0o10 else 0
  active : io.selectActive = true

/-- The control byte that selects a cartridge. -/
def controlByte (k : Fin 2) (out : Bool) : Byte := BitVec.ofNat 8 (k + if out then 0o10 else 0)

theorem withByte_even (old : Word) (value : Byte) {offset : Word} (h : offset &&& 1 = 0) :
    (withByte offset old value).setWidth 8 = value := by
  unfold withByte
  rw [if_neg (fun hodd => hodd h)]
  apply BitVec.eq_of_getLsbD_eq
  intro i hi
  interval_cases i <;> simp

theorem mode_control (k : Fin 2) (out : Bool) (h : io.regs 2 &&& 0o377 = (controlByte k out).setWidth 16) :
    io.mode = k + if out then 0o10 else 0 := by
  have hmask : io.regs 2 &&& 0o17 = (io.regs 2 &&& 0o377) &&& 0o17 := by
    rw [BitVec.and_assoc]
    rfl
  rw [mode, hmask, h]
  clear h
  revert k out
  decide

theorem withByte_low (old : Word) (value : Byte) : withByte 4 old value &&& 0o377 = value.setWidth 16 := by
  unfold withByte
  rw [if_neg (by decide)]
  apply BitVec.eq_of_getLsbD_eq
  intro i hi
  interval_cases i <;> simp

theorem smpData_other {k k' : Fin 2} (h : k' ≠ k) (value : Byte) : (io.smpData k value).2.smp k' = io.smp k' :=
  Function.update_of_ne h _ _

section Out

variable {io : Mk90Io} {k : Fin 2}

theorem controlTransfer_out (h : io.mode = k + 0o10) : io.controlTransfer = io := by
  unfold controlTransfer
  rw [h]
  obtain rfl | rfl : k = 0 ∨ k = 1 := by omega
  · rfl
  · rfl

theorem controlTransfer_in (h : io.mode = k) : io.controlTransfer = shiftIn (io.smpData k 0) := by
  unfold controlTransfer
  rw [h]
  obtain rfl | rfl : k = 0 ∨ k = 1 := by omega
  · rfl
  · rfl

theorem dataTransfer_out (h : io.mode = k + 0o10) : io.dataTransfer = (io.smpData k (io.shiftreg.setWidth 8)).2 := by
  unfold dataTransfer
  rw [h]
  obtain rfl | rfl : k = 0 ∨ k = 1 := by omega
  · rfl
  · rfl

theorem commandTransfer_out (h : io.mode = k + 0o10) :
    io.commandTransfer = (io.smpCmd k (io.shiftreg.setWidth 8)).2 := by
  unfold commandTransfer
  rw [h]
  obtain rfl | rfl : k = 0 ∨ k = 1 := by omega
  · rfl
  · rfl

theorem fetchInput_in (h : io.mode = k) : io.fetchInput = shiftIn (io.smpData k 0) := by
  unfold fetchInput
  rw [h]
  obtain rfl | rfl : k = 0 ∨ k = 1 := by omega
  · rfl
  · rfl

/-! What the stores to the registers do in a session. -/

theorem writeByte_control (io : Mk90Io) (k : Fin 2) (out : Bool) :
    writeByte io 4 (controlByte k out) = commitControl { io with
      regs := Function.update io.regs 2 (withByte 4 (io.regs 2) (controlByte k out)) } := rfl

theorem writeByte_data (io : Mk90Io) (value : Byte) :
    io.writeByte 0 value = commitData { io with regs := Function.update io.regs 0 (withByte 0 (io.regs 0) value) } := rfl

theorem writeByte_command (io : Mk90Io) (value : Byte) :
    io.writeByte 6 value = startTransfer (commitCommand { io with
      regs := Function.update io.regs 3 (withByte 6 (io.regs 3) value) }) := rfl

/-- Selecting a cartridge for output moves nothing. -/
theorem select_out (io : Mk90Io) (k : Fin 2) :
    (io.writeByte 4 (controlByte k true)).mode = k + 0o10 ∧ (io.writeByte 4 (controlByte k true)).smp = io.smp := by
  have hmode : mode { io with regs := Function.update io.regs 2 (withByte 4 (io.regs 2) (controlByte k true)) } =
      k + 0o10 := mode_control _ k true (withByte_low _ _)
  rw [writeByte_control, commitControl]
  split
  · rw [controlTransfer_out ((mode_congr (congrFun (raiseDataIrq_regs _) 2)).trans hmode)]
    exact ⟨(mode_congr (congrFun (raiseDataIrq_regs _) 2)).trans hmode, raiseDataIrq_smp _⟩
  · exact ⟨hmode, rfl⟩

/-- Selecting it for input starts a transfer. -/
theorem select_in (h : io.selectActive = true) (k : Fin 2) :
    Facing (io.writeByte 4 (controlByte k false)) k false ∧
      (io.writeByte 4 (controlByte k false)).smp = Function.update io.smp k ((io.smp k).smpData 0).2 ∧
      (io.writeByte 4 (controlByte k false)).shiftreg = ((io.smp k).smpData 0).1.setWidth 16 := by
  have hmode : mode { io with regs := Function.update io.regs 2 (withByte 4 (io.regs 2) (controlByte k false)) } = k :=
    mode_control _ k false (withByte_low _ _)
  rw [writeByte_control, commitControl, if_pos h,
    controlTransfer_in ((mode_congr (congrFun (raiseDataIrq_regs _) 2)).trans hmode)]
  refine ⟨⟨(mode_congr (congrFun (raiseDataIrq_regs _) 2)).trans hmode, ?_⟩, ?_, ?_⟩
  · exact (raiseDataIrq_selectActive _).trans h
  · simp only [shiftIn, smpData, raiseDataIrq_smp]
  · simp only [shiftIn, smpData, raiseDataIrq_smp]

theorem Facing.raiseDataIrq {out : Bool} (h : Facing io k out) : Facing io.raiseDataIrq k out :=
  ⟨(mode_congr (congrFun (raiseDataIrq_regs io) 2)).trans h.mode, (raiseDataIrq_selectActive io).trans h.active⟩

theorem commitCommand_out (h : io.mode = k + 0o10) :
    Facing io.commitCommand k true ∧
      io.commitCommand.smp = Function.update io.smp k ((io.smp k).smpCmd ((io.regs 3).setWidth 8)).2 := by
  have hfacing : Facing (request { io with selectActive := true, shiftreg := io.regs 3 }) k true := ⟨h, rfl⟩
  rw [commitCommand, commandTransfer_out hfacing.raiseDataIrq.mode]
  refine ⟨⟨hfacing.raiseDataIrq.mode, hfacing.raiseDataIrq.active⟩, ?_⟩
  simp only [smpCmd, raiseDataIrq_smp, raiseDataIrq_shiftreg, request]

theorem commitData_out (h : Facing io k true) :
    Facing io.commitData k true ∧
      io.commitData.smp = Function.update io.smp k ((io.smp k).smpData ((io.regs 0).setWidth 8)).2 := by
  have hfacing : Facing (request { io with shiftreg := io.regs 0 }) k true := ⟨h.mode, h.active⟩
  have hcommit : io.commitData = (request { io with shiftreg := io.regs 0 }).raiseDataIrq.dataTransfer := if_pos h.active
  rw [hcommit, dataTransfer_out hfacing.raiseDataIrq.mode]
  refine ⟨⟨hfacing.raiseDataIrq.mode, hfacing.raiseDataIrq.active⟩, ?_⟩
  simp only [smpData, raiseDataIrq_smp, raiseDataIrq_shiftreg, request]

theorem command_out (h : io.mode = k + 0o10) (value : Byte) :
    Facing (io.writeByte 6 value) k true ∧
      (io.writeByte 6 value).smp = Function.update io.smp k ((io.smp k).smpCmd value).2 := by
  have hregs : Function.update io.regs 3 (withByte 6 (io.regs 3) value) 2 = io.regs 2 :=
    Function.update_of_ne (by decide) _ _
  have hvalue : (withByte 6 (io.regs 3) value).setWidth 8 = value := withByte_even _ _ (by decide)
  have hmode : mode { io with regs := Function.update io.regs 3 (withByte 6 (io.regs 3) value) } = k + 0o10 :=
    (mode_congr hregs).trans h
  obtain ⟨hfacing, hsmp⟩ := commitCommand_out hmode
  rw [writeByte_command]
  refine ⟨⟨(mode_congr (congrFun (startTransfer_regs _) 2)).trans hfacing.mode,
    (startTransfer_selectActive _).trans hfacing.active⟩, ?_⟩
  rw [startTransfer_smp, hsmp]
  simp only [Function.update_self, hvalue]

theorem data_out (h : Facing io k true) (value : Byte) :
    Facing (io.writeByte 0 value) k true ∧
      (io.writeByte 0 value).smp = Function.update io.smp k ((io.smp k).smpData value).2 := by
  have hregs : Function.update io.regs 0 (withByte 0 (io.regs 0) value) 2 = io.regs 2 :=
    Function.update_of_ne (by decide) _ _
  have hvalue : (withByte 0 (io.regs 0) value).setWidth 8 = value := withByte_even _ _ (by decide)
  have hfacing : Facing { io with regs := Function.update io.regs 0 (withByte 0 (io.regs 0) value) } k true :=
    ⟨(mode_congr hregs).trans h.mode, h.active⟩
  obtain ⟨hafter, hsmp⟩ := commitData_out hfacing
  rw [writeByte_data]
  refine ⟨hafter, ?_⟩
  rw [hsmp]
  simp only [Function.update_self, hvalue]

/-- A load of the data register gives the byte of the transfer before it. -/
theorem data_in (h : Facing io k false) :
    Facing (io.readByte 0).2 k false ∧ (io.readByte 0).1 = io.shiftreg.setWidth 8 ∧
      (io.readByte 0).2.smp = Function.update io.smp k ((io.smp k).smpData 0).2 ∧
      (io.readByte 0).2.shiftreg = ((io.smp k).smpData 0).1.setWidth 16 := by
  have hfacing : Facing (request { io with shiftreg := 0o177777 }) k false := ⟨h.mode, h.active⟩
  have hread : (io.readByte 0).2 = (request { io with shiftreg := 0o177777 }).raiseDataIrq.fetchInput := if_pos h.active
  rw [hread, fetchInput_in hfacing.raiseDataIrq.mode]
  refine ⟨⟨hfacing.raiseDataIrq.mode, hfacing.raiseDataIrq.active⟩, rfl, ?_, ?_⟩
  · simp only [shiftIn, smpData, raiseDataIrq_smp, request]
  · simp only [shiftIn, smpData, raiseDataIrq_smp, request]

end Out

/-! ## Sessions -/

/-- The stores that put a cartridge at an address, with a command for what follows. -/
def openAccesses (k : Fin 2) (address : Word) (cmd : Byte) : List Mk90IoAccess :=
  [.writeByte 4 (controlByte k true), .writeByte 6 0o240, .writeByte 0 ((address >>> 8).setWidth 8),
    .writeByte 0 (address.setWidth 8), .writeByte 6 cmd]

/-- The stores that write bytes to a cartridge. -/
def storeAccesses (k : Fin 2) (address : Word) (bytes : List Byte) : List Mk90IoAccess :=
  openAccesses k address 0o300 ++ bytes.map (.writeByte 0 ·)

/-- The accesses that read `n` bytes of a cartridge. -/
def fetchAccesses (k : Fin 2) (address : Word) (n : Nat) : List Mk90IoAccess :=
  openAccesses k address 0o320 ++ .writeByte 4 (controlByte k false) :: List.replicate n (.readByte 0)

/-- The other cartridge is as it was. -/
def Only (k : Fin 2) (io io' : Mk90Io) : Prop := ∀ k', k' ≠ k → io'.smp k' = io.smp k'

theorem Only.of_update {k : Fin 2} {io io' : Mk90Io} {slot : Mk90SmpSlot} (h : io'.smp = Function.update io.smp k slot) :
    Only k io io' := fun k' hk => by rw [h, Function.update_of_ne hk]

theorem Only.trans {k : Fin 2} {io io' io'' : Mk90Io} (h : Only k io io') (h' : Only k io' io'') : Only k io io'' :=
  fun k' hk => (h' k' hk).trans (h k' hk)

variable {k : Fin 2}

theorem open_accesses (io : Mk90Io) (k : Fin 2) (h : (io.smp k).Ram) (address : Word) (cmd : Byte) :
    ∃ io', mk90IoUnit.accesses (openAccesses k address cmd) io = ([], io') ∧ Facing io' k true ∧ Only k io io' ∧
      io'.smp k = { io.smp k with position := address.setWidth 32, cmd := cmd } := by
  obtain ⟨hmode₁, hsmp₁⟩ := select_out io k
  obtain ⟨hface₂, hsmp₂⟩ := command_out hmode₁ 0o240
  obtain ⟨hface₃, hsmp₃⟩ := data_out hface₂ ((address >>> 8).setWidth 8)
  obtain ⟨hface₄, hsmp₄⟩ := data_out hface₃ (address.setWidth 8)
  obtain ⟨hface₅, hsmp₅⟩ := command_out (k := k) (hface₄.mode) cmd
  refine ⟨((((io.writeByte 4 (controlByte k true)).writeByte 6 0o240).writeByte 0
    ((address >>> 8).setWidth 8)).writeByte 0 (address.setWidth 8)).writeByte 6 cmd, rfl, hface₅, ?_, ?_⟩
  · intro k' hk
    rw [hsmp₅, Function.update_of_ne hk, hsmp₄, Function.update_of_ne hk, hsmp₃, Function.update_of_ne hk, hsmp₂,
      Function.update_of_ne hk, hsmp₁]
  · have hloading : Mk90SmpSlot.Ram { io.smp k with cmd := 0o240 } := ⟨h.present, h.size, h.mask⟩
    have hfirst := Mk90SmpSlot.smpData_load hloading rfl ((address >>> 8).setWidth 8)
    have hloading' : Mk90SmpSlot.Ram { io.smp k with
        position := ((io.smp k).position <<< 8 ||| ((address >>> 8).setWidth 8 : Byte).setWidth 32) &&& 0o177777
        cmd := 0o240 } := ⟨h.present, h.size, h.mask⟩
    have hsecond := Mk90SmpSlot.smpData_load hloading' rfl (address.setWidth 8)
    rw [hsmp₅, Function.update_self, hsmp₄, Function.update_self, hsmp₃, Function.update_self, hsmp₂,
      Function.update_self, hsmp₁]
    simp only [Mk90SmpSlot.smpCmd]
    rw [hfirst]
    dsimp only
    rw [hsecond, Mk90SmpSlot.position_load]

/-- Bytes sent through the data register. -/
theorem store_accesses (bytes : List Byte) {io : Mk90Io} (h : Facing io k true) :
    ∃ io', mk90IoUnit.accesses (bytes.map (.writeByte 0 ·)) io = ([], io') ∧ Facing io' k true ∧ Only k io io' ∧
      io'.smp k = (io.smp k).sendAll bytes := by
  induction bytes generalizing io with
  | nil => exact ⟨io, rfl, h, fun _ _ => rfl, rfl⟩
  | cons b bytes ih =>
    obtain ⟨hface, hsmp⟩ := data_out h b
    obtain ⟨io', hrest, hlast, honly, hdata⟩ := ih hface
    refine ⟨io', ?_, hlast, (Only.of_update hsmp).trans honly, ?_⟩
    · rw [List.map_cons, Mk90IoUnit.accesses_cons]
      exact hrest
    · rw [hdata, hsmp, Function.update_self]
      rfl

/-- Loads of the data register, when the first byte is there already. -/
theorem fetch_accesses (n : Nat) {io : Mk90Io} (h : Facing io k false) (hram : (io.smp k).Ram)
    (hcmd : (io.smp k).cmd = 0o320) {p : Nat} (hposition : (io.smp k).position.toNat = p + 1)
    (hready : io.shiftreg = ((io.smp k).data.getD p 0).setWidth 16) (hfit : p + n ≤ (io.smp k).data.length) :
    ∃ io', mk90IoUnit.accesses (List.replicate n (.readByte 0)) io = (((io.smp k).data.drop p).take n, io') ∧
      Only k io io' ∧ (io'.smp k).data = (io.smp k).data := by
  induction n generalizing io p with
  | zero => exact ⟨io, by rw [List.take_zero]; rfl, fun _ _ => rfl, rfl⟩
  | succ n ih =>
    obtain ⟨hface, hbyte, hsmp, hnext⟩ := data_in h
    have hsize := hram.size
    have hread := Mk90SmpSlot.smpData_read hram hcmd 0
    have hslot : (io.readByte 0).2.smp k =
        { io.smp k with position := ((io.smp k).position + 1) &&& 0o177777 } := by
      rw [hsmp, Function.update_self, hread]
    have hposition' : ((io.smp k).position + 1 &&& 0o177777 : BitVec 32).toNat = p + 1 + 1 := by
      rw [Mk90SmpSlot.next_toNat (by omega), hposition]
    rw [hread, hposition] at hnext
    obtain ⟨io', hrest, honly, hdata⟩ := ih hface (by rw [hslot]; exact ⟨hram.present, hram.size, hram.mask⟩)
      (by rw [hslot]; exact hcmd) (by rw [hslot]; exact hposition') (by rw [hslot]; exact hnext)
      (by rw [hslot]; dsimp only; omega)
    rw [hslot] at hrest hdata
    refine ⟨io', ?_, (Only.of_update hsmp).trans honly, hdata⟩
    have hin : p < (io.smp k).data.length := by omega
    have hfirst : (io.readByte 0).1 = (io.smp k).data[p] := by
      rw [hbyte, hready, List.getD_eq_getElem?_getD, List.getElem?_eq_getElem hin, Option.getD_some,
        BitVec.setWidth_setWidth_of_le _ (by decide), BitVec.setWidth_eq]
    rw [List.replicate_succ, Mk90IoUnit.accesses_cons, List.drop_eq_getElem_cons hin, List.take_succ_cons, ← hfirst]
    rw [show mk90IoUnit.access io (.readByte 0) = ([(io.readByte 0).1], (io.readByte 0).2) from rfl]
    dsimp only
    rw [hrest]
    rfl

theorem address_toNat (address : Word) : (address.setWidth 32 : BitVec 32).toNat = address.toNat :=
  BitVec.toNat_setWidth_of_le (by decide)

theorem store_session (io : Mk90Io) (h : (io.smp k).Ram) (address : Word) (bytes : List Byte)
    (hfit : address.toNat + bytes.length ≤ (io.smp k).data.length) :
    ∃ io', mk90IoUnit.accesses (storeAccesses k address bytes) io = ([], io') ∧ Only k io io' ∧ (io'.smp k).Ram ∧
      (io'.smp k).data =
        (io.smp k).data.take address.toNat ++ bytes ++ (io.smp k).data.drop (address.toNat + bytes.length) := by
  obtain ⟨io₁, hopen, hface, honly, hslot⟩ := open_accesses io k h address 0o300
  have hposition : (io₁.smp k).position.toNat = address.toNat := by
    rw [hslot]
    exact address_toNat address
  have hdata₁ : (io₁.smp k).data = (io.smp k).data := by rw [hslot]
  have hram₁ : (io₁.smp k).Ram := by
    rw [hslot]
    exact ⟨h.present, h.size, h.mask⟩
  have hcmd₁ : (io₁.smp k).cmd = 0o300 := by rw [hslot]
  obtain ⟨hram, -, hdata⟩ := Mk90SmpSlot.sendAll_write hram₁ hcmd₁ bytes (by rw [hposition, hdata₁]; exact hfit)
  obtain ⟨io₂, hstore, -, honly', hslot'⟩ := store_accesses bytes hface
  refine ⟨io₂, ?_, honly.trans honly', ?_, ?_⟩
  · rw [storeAccesses, Mk90IoUnit.accesses_append, hopen]
    dsimp only
    rw [hstore]
    rfl
  · rw [hslot']
    exact hram
  · rw [hslot', hdata, hposition, hdata₁]

theorem fetch_session (io : Mk90Io) (h : (io.smp k).Ram) (address : Word) (n : Nat)
    (hfit : address.toNat + n ≤ (io.smp k).data.length) :
    ∃ io', mk90IoUnit.accesses (fetchAccesses k address n) io =
        (((io.smp k).data.drop address.toNat).take n, io') ∧ Only k io io' ∧ (io'.smp k).data = (io.smp k).data := by
  have hsize := h.size
  obtain ⟨io₁, hopen, hface, honly, hslot⟩ := open_accesses io k h address 0o320
  obtain ⟨hface', hsmp, hready⟩ := select_in hface.active k
  have hposition : (io₁.smp k).position.toNat = address.toNat := by
    rw [hslot]
    exact address_toNat address
  have hram₁ : (io₁.smp k).Ram := by
    rw [hslot]
    exact ⟨h.present, h.size, h.mask⟩
  have hcmd₁ : (io₁.smp k).cmd = 0o320 := by rw [hslot]
  have hdata₁ : (io₁.smp k).data = (io.smp k).data := by rw [hslot]
  have hread := Mk90SmpSlot.smpData_read hram₁ hcmd₁ 0
  rw [hread, hposition] at hready
  have hslot' : (io₁.writeByte 4 (controlByte k false)).smp k =
      { io₁.smp k with position := ((io₁.smp k).position + 1) &&& 0o177777 } := by
    rw [hsmp, Function.update_self, hread]
  have hdata' : ((io₁.writeByte 4 (controlByte k false)).smp k).data = (io.smp k).data := by rw [hslot', ← hdata₁]
  have hram' : ((io₁.writeByte 4 (controlByte k false)).smp k).Ram := by
    rw [hslot']
    exact ⟨hram₁.present, hram₁.size, hram₁.mask⟩
  have hcmd' : ((io₁.writeByte 4 (controlByte k false)).smp k).cmd = 0o320 := by
    rw [hslot']
    exact hcmd₁
  have hposition' : ((io₁.writeByte 4 (controlByte k false)).smp k).position.toNat = address.toNat + 1 := by
    rw [hslot']
    dsimp only
    rw [Mk90SmpSlot.next_toNat (by omega), hposition]
  rw [← hdata'] at hfit
  obtain ⟨io₂, hfetch, honly', hdata⟩ := fetch_accesses n hface' hram' hcmd' hposition'
    (by rw [hready, hdata', hdata₁]) hfit
  refine ⟨io₂, ?_, honly.trans ((Only.of_update hsmp).trans honly'), hdata.trans hdata'⟩
  rw [fetchAccesses, Mk90IoUnit.accesses_append, hopen]
  dsimp only
  rw [Mk90IoUnit.accesses_cons, show mk90IoUnit.access io₁ (.writeByte 4 (controlByte k false)) =
    ([], io₁.writeByte 4 (controlByte k false)) from rfl]
  dsimp only
  rw [hfetch, hdata']
  rfl

/-- Bytes stored in a cartridge are there, and can be fetched. -/
theorem store_fetch (io : Mk90Io) (h : (io.smp k).Ram) (address : Word) (bytes : List Byte)
    (hfit : address.toNat + bytes.length ≤ (io.smp k).data.length) :
    ∃ io', mk90IoUnit.accesses (storeAccesses k address bytes ++ fetchAccesses k address bytes.length) io =
        (bytes, io') ∧ Only k io io' ∧ (io'.smp k).data =
          (io.smp k).data.take address.toNat ++ bytes ++ (io.smp k).data.drop (address.toNat + bytes.length) := by
  obtain ⟨io₁, hstore, honly, hram, hdata⟩ := store_session io h address bytes hfit
  have hlength : (io₁.smp k).data.length = (io.smp k).data.length := by
    rw [hdata, List.length_append, List.length_append, List.length_take, List.length_drop]
    omega
  have htail : ((io₁.smp k).data.drop address.toNat).take bytes.length = bytes := by
    have htake : ((io.smp k).data.take address.toNat).length = address.toNat := by
      rw [List.length_take, Nat.min_eq_left (by omega)]
    rw [hdata, List.append_assoc, List.drop_left' htake, List.take_left]
  obtain ⟨io₂, hfetch, honly', hdata'⟩ := fetch_session io₁ hram address bytes.length (by rw [hlength]; exact hfit)
  refine ⟨io₂, ?_, honly.trans honly', hdata'.trans hdata⟩
  rw [Mk90IoUnit.accesses_append, hstore]
  dsimp only
  rw [hfetch, htail]
  rfl

end Mk90Io

/-! ## Files -/

/-- A cartridge that has been loaded from a file: what every transfer keeps of it. -/
structure Mk90SmpSlot.Loaded (path : String) (image : List Byte) (slot : Mk90SmpSlot) : Prop where
  present : slot.present = true
  path : slot.path = path
  length : slot.data.length = image.length
  mask : slot.mask = if image.length < 0o100000 then 0o177777 else 0o77777777
  clean : slot.dirty = false → slot.data = image
  fixed : 0o100000 ≤ image.length → slot.dirty = false

namespace Mk90SmpSlot

variable {path : String} {image : List Byte} {slot : Mk90SmpSlot}

theorem loaded_smpLoad (h : path ≠ "") (image : List Byte) : (smpLoad path image).Loaded path image := by
  rw [smpLoad, if_neg h]
  exact ⟨rfl, rfl, rfl, rfl, fun _ => rfl, fun _ => rfl⟩

theorem Loaded.smpCmd (h : slot.Loaded path image) (value : Byte) : (slot.smpCmd value).2.Loaded path image :=
  ⟨h.present, h.path, h.length, h.mask, h.clean, h.fixed⟩

theorem Loaded.reset (h : slot.Loaded path image) : slot.reset.Loaded path image :=
  ⟨h.present, h.path, h.length, h.mask, h.clean, h.fixed⟩

theorem Loaded.smpData (h : slot.Loaded path image) (value : Byte) : (slot.smpData value).2.Loaded path image := by
  have hwrite (position : BitVec 32) : Loaded path image { slot with
      data := if slot.position.toNat < slot.data.length ∧ slot.data.length < 0o100000 then
        slot.data.set slot.position.toNat value else slot.data
      dirty := slot.dirty || decide (slot.position.toNat < slot.data.length ∧ slot.data.length < 0o100000)
      position := position } := by
    by_cases hwritten : slot.position.toNat < slot.data.length ∧ slot.data.length < 0o100000
    · rw [if_pos hwritten, decide_eq_true hwritten, Bool.or_true]
      refine ⟨h.present, h.path, ?_, h.mask, (fun hclean => by cases hclean), fun hlarge => ?_⟩
      · dsimp only
        rw [List.length_set, h.length]
      · have hsmall := hwritten.2
        rw [h.length] at hsmall
        omega
    · rw [if_neg hwritten, decide_eq_false hwritten, Bool.or_false]
      exact ⟨h.present, h.path, h.length, h.mask, h.clean, h.fixed⟩
  unfold Mk90SmpSlot.smpData
  split
  · exact h
  · dsimp only
    split
    · exact h
    · exact ⟨h.present, h.path, h.length, h.mask, h.clean, h.fixed⟩
    · exact ⟨h.present, h.path, h.length, h.mask, h.clean, h.fixed⟩
    · exact ⟨h.present, h.path, h.length, h.mask, h.clean, h.fixed⟩
    · exact hwrite _
    · exact hwrite _
    · exact hwrite _
    · exact h

end Mk90SmpSlot

namespace Mk90Io

/-- What transfers, commands and resets keep of a slot is kept by the controller. -/
structure Keeps (P : Mk90SmpSlot → Prop) : Prop where
  data : ∀ slot value, P slot → P (slot.smpData value).2
  cmd : ∀ slot value, P slot → P (slot.smpCmd value).2
  reset : ∀ slot, P slot → P slot.reset

section Keeps

variable {P : Mk90SmpSlot → Prop} (hkeeps : Keeps P) {io : Mk90Io} {k : Fin 2} (h : P (io.smp k))
include hkeeps h

theorem Keeps.smpData (j : Fin 2) (value : Byte) : P ((io.smpData j value).2.smp k) := by
  by_cases hj : k = j
  · subst hj
    exact (congrArg P (Function.update_self k _ _)).mpr (hkeeps.data _ value h)
  · exact (congrArg P (Function.update_of_ne hj _ _)).mpr h

theorem Keeps.smpCmd (j : Fin 2) (value : Byte) : P ((io.smpCmd j value).2.smp k) := by
  by_cases hj : k = j
  · subst hj
    exact (congrArg P (Function.update_self k _ _)).mpr (hkeeps.cmd _ value h)
  · exact (congrArg P (Function.update_of_ne hj _ _)).mpr h

theorem Keeps.dataTransfer : P (io.dataTransfer.smp k) := by
  unfold Mk90Io.dataTransfer
  dsimp only
  split
  · exact hkeeps.smpData h 0 _
  · exact hkeeps.smpData h 1 _
  · exact h
  · exact hkeeps.smpData h 0 _
  · exact hkeeps.smpData h 1 _
  · rw [startTransfer_smp, queueBuzzer_smp]
    exact h
  · exact h

theorem Keeps.controlTransfer : P (io.controlTransfer.smp k) := by
  unfold Mk90Io.controlTransfer
  split
  · exact hkeeps.smpData h 0 0
  · exact hkeeps.smpData h 1 0
  · exact h
  · exact h

theorem Keeps.commandTransfer : P (io.commandTransfer.smp k) := by
  unfold Mk90Io.commandTransfer
  dsimp only
  split
  · exact hkeeps.smpCmd h 0 _
  · exact hkeeps.smpCmd h 1 _
  · exact h
  · exact hkeeps.smpCmd h 0 _
  · exact hkeeps.smpCmd h 1 _
  · exact h

theorem Keeps.fetchInput : P (io.fetchInput.smp k) := by
  unfold Mk90Io.fetchInput
  split
  · exact hkeeps.smpData h 0 0
  · exact hkeeps.smpData h 1 0
  · exact h
  · exact h

omit hkeeps in
theorem Keeps.raise : P (io.raiseDataIrq.smp k) := by
  rw [raiseDataIrq_smp]
  exact h

theorem Keeps.writeWord (offset value : Word) : P ((io.writeWord offset value).smp k) := by
  have hcommit (reg : Fin 4) :
      P ((commitRegWrite { io with regs := Function.update io.regs reg value } reg).smp k) := by
    unfold commitRegWrite
    split
    · unfold commitData
      dsimp only
      split
      · exact hkeeps.dataTransfer (Keeps.raise h)
      · exact h
    · exact h
    · unfold commitControl
      split
      · exact hkeeps.controlTransfer (Keeps.raise h)
      · exact h
    · exact hkeeps.commandTransfer (Keeps.raise h)
  unfold Mk90Io.writeWord
  dsimp only
  split
  · rw [startTransfer_smp]
    exact hcommit _
  · exact hcommit _

theorem Keeps.readWord (offset : Word) : P ((io.readWord offset).2.smp k) := by
  unfold Mk90Io.readWord
  split
  · dsimp only
    split
    · exact hkeeps.fetchInput (Keeps.raise h)
    · exact h
  · exact h
  · exact h
  · dsimp only
    split
    · exact Keeps.raise h
    · exact h

theorem Keeps.access (a : Mk90IoAccess) : P ((mk90IoUnit.access io a).2.smp k) := by
  cases a with
  | readByte offset => exact hkeeps.readWord h offset
  | readWord offset => exact hkeeps.readWord h offset
  | writeByte offset value => exact hkeeps.writeWord h offset _
  | writeWord offset value => exact hkeeps.writeWord h offset value
  | reset => exact hkeeps.reset _ h

theorem Keeps.accesses (as : List Mk90IoAccess) : P ((mk90IoUnit.accesses as io).2.smp k) := by
  induction as generalizing io with
  | nil => exact h
  | cons a as ih => exact ih (hkeeps.access h a)

end Keeps

end Mk90Io

/-! ## Runs of the machine -/

section Machine

open Mk90Machine Mk90Io

variable (ramSize : Mk90RamSize) (rom : Buffer) (rtc : Mk90Rtc) (files : Fin 2 → String × List Byte)

/-- The machine with two cartridges. -/
def connectCartridges : Mk90Machine Mk90Io :=
  Mk90Machine.connect ramSize rom rtc (Mk90Io.connect fun k => Mk90SmpSlot.smpLoad (files k).1 (files k).2)

theorem loaded_keeps (path : String) (image : List Byte) : Keeps (Mk90SmpSlot.Loaded path image) :=
  ⟨fun _ value h => h.smpData value, fun _ value h => h.smpCmd value, fun _ h => h.reset⟩

theorem loaded_run {m : Mk90Machine Mk90Io} {evs : List Event}
    (hrun : evs.foldlM (step mk90IoUnit) (connectCartridges ramSize rom rtc files) = some m) {k : Fin 2}
    (hpath : (files k).1 ≠ "") : m.Synced ∧ (m.io.smp k).Loaded (files k).1 (files k).2 := by
  have hsynced : (connectCartridges ramSize rom rtc files).Synced := synced_syncFastRam _
  obtain ⟨m', -, hfold, hlast, hio⟩ := observeRun_io mk90IoUnit hsynced evs
  obtain rfl := Option.some.inj (hrun.symm.trans hfold)
  refine ⟨hlast, ?_⟩
  rw [hio]
  exact (loaded_keeps _ _).accesses (Mk90SmpSlot.loaded_smpLoad hpath _) _

/-- However the machine has run before, and whatever else the program accesses in between: the bytes that it stores in
a writable cartridge are read back, and nothing else of the cartridges has changed. -/
theorem cartridge_read_back (before : List Event) {m : Mk90Machine Mk90Io}
    (hbefore : before.foldlM (step mk90IoUnit) (connectCartridges ramSize rom rtc files) = some m) {k : Fin 2}
    (hpath : (files k).1 ≠ "") (hsize : (files k).2.length < 0o100000) (address : Word) (bytes : List Byte)
    (hfit : address.toNat + bytes.length ≤ (files k).2.length) {evs : List Event}
    (hevs : evs.flatMap Event.ioAccesses = storeAccesses k address bytes ++ fetchAccesses k address bytes.length) :
    ∃ m', m.observeRun mk90IoUnit evs = some (bytes, m') ∧
      (m'.io.smp k).data = (m.io.smp k).data.take address.toNat ++ bytes ++
        (m.io.smp k).data.drop (address.toNat + bytes.length) ∧
      ∀ k', k' ≠ k → m'.io.smp k' = m.io.smp k' := by
  obtain ⟨hsynced, hloaded⟩ := loaded_run ramSize rom rtc files hbefore hpath
  have hram : (m.io.smp k).Ram :=
    ⟨hloaded.present, by rw [hloaded.length]; exact hsize, by rw [hloaded.mask, if_pos hsize]⟩
  obtain ⟨io', haccesses, honly, hdata⟩ := store_fetch m.io hram address bytes (by rw [hloaded.length]; exact hfit)
  obtain ⟨m', hobserve, -, -, hio⟩ := observeRun_io mk90IoUnit hsynced evs
  rw [hevs, haccesses] at hobserve hio
  refine ⟨m', hobserve, ?_, fun k' hk => ?_⟩
  · rw [hio]
    exact hdata
  · rw [hio]
    exact honly k' hk

/-- Two bytes at address 4, with a store to RAM in between. -/
theorem cartridge_two_bytes :
    ∃ m', (connectCartridges ⟨0o40000, by decide, by decide, by decide⟩ Buffer.zero { clock := ⟨0, 0, 0, 0, 1, 1, 0⟩ }
        fun _ => ("cartridge", List.replicate 8 0)).observeRun mk90IoUnit
          [.storeByte 0o164024 0o10, .storeByte 0o164026 0o240, .storeByte 0o164020 0, .storeByte 0o164020 4,
            .storeByte 0o164026 0o300, .storeByte 0o164020 0o101, .storeWord 0o1000 7, .storeByte 0o164020 0o102,
            .storeByte 0o164024 0o10, .storeByte 0o164026 0o240, .storeByte 0o164020 0, .storeByte 0o164020 4,
            .storeByte 0o164026 0o320, .storeByte 0o164024 0, .loadByte 0o164020, .loadByte 0o164020] =
        some ([0o101, 0o102], m') ∧ (m'.io.smp 0).data = [0, 0, 0, 0, 0o101, 0o102, 0, 0] :=
  (cartridge_read_back ⟨0o40000, by decide, by decide, by decide⟩ Buffer.zero { clock := ⟨0, 0, 0, 0, 1, 1, 0⟩ }
    (fun _ => ("cartridge", List.replicate 8 0)) [] rfl (k := 0) (by decide) (by decide) 4 [0o101, 0o102]
    (by decide) (by decide)).imp fun _ h => ⟨h.1, h.2.1⟩

end Machine

end K1801.Mk90
