import K1801.Lsi11.TapPosition
import K1801.Lsi11.TapRoundTrip

/-! # Position coherence over runs of the TQ11

Between commands, `tapePos` of an online unit is the cursor of its file and a boundary between objects, as long
as forward motion meets objects or the end of the image and no image reaches four gigabytes.
-/

namespace K1801.Lsi11

open Core Library

/-- The recorded position is where the next record is read or written, at a boundary or at the end. -/
def TqUnit.Coherent (u : TqUnit) : Prop :=
  u.online = true → ∀ f, u.fp = some f → u.tapePos.toNat = f.cursor ∧
    ((∃ os rest, f.bytes = TapObject.encodeAll os ++ rest ∧ f.cursor = (TapObject.encodeAll os).length) ∨
      f.cursor = f.bytes.length)

theorem TqUnit.Kept.coherent {u : TqUnit} (h : u.Kept) : u.Coherent := by
  intro honline f hf
  obtain ⟨os, rest, hfp, hpos⟩ := h.placed honline f hf
  have hsize := h.size f hf
  rw [hf] at hfp
  cases hfp
  refine ⟨?_, .inl ⟨os, rest, rfl, rfl⟩⟩
  rw [hpos]
  refine ofNat_toNat_of_lt ?_
  rw [List.length_append] at hsize
  omega

theorem TqUnit.Kept.congr {u u' : TqUnit} (h : u.Kept) (hfp : u'.fp = u.fp) (hpos : u'.tapePos = u.tapePos)
    (honline : u'.online = true → u.online = true) : u'.Kept where
  size f hf := h.size f (hfp ▸ hf)
  placed hon f hf := by
    obtain ⟨os, rest, hfile, hplace⟩ := h.placed (honline hon) f (hfp ▸ hf)
    exact ⟨os, rest, hfp ▸ hfile, hpos ▸ hplace⟩

/-! ## The condition on a command -/

/-- `tq_cmd_pos` moves forward. -/
def tqPosForward (cmd : TqPacket) : Prop := cmd tqCmdMod &&& tqMdRwd = 0 ∧ cmd tqCmdMod &&& tqMdRev = 0

def tqOpcode (cmd : TqPacket) : Word := cmd tqCmdOpc &&& 0xFF

/-- The forward motion of the command meets objects only, up to a mark or the end of the image, and what it
writes ends below four gigabytes. -/
structure TqClear {σ : Type} (dma : Dma σ) (cmd : TqPacket) (s : σ) (u : TqUnit) (f : ByteFile Byte) : Prop where
  reads : tqOpcode cmd = tqOpRd ∨ tqOpcode cmd = tqOpAcc ∨ tqOpcode cmd = tqOpCmp → tqBadCount cmd = false →
    RecordsAhead 1 (f.bytes.drop f.cursor)
  writes : tqOpcode cmd = tqOpWr → (u.swWriteProtect || u.readOnly) = false → tqBadCount cmd = false →
    dma.readableRange s (tqGetU32 cmd tqRwBal) (tqGetU32 cmd tqRwBcl).toNat = true →
    f.cursor + (8 + ((tqGetU32 cmd tqRwBcl).toNat + 1) / 2 * 2) < 2 ^ 32
  marks : tqOpcode cmd = tqOpWtm → (u.swWriteProtect || u.readOnly) = false → f.cursor + 4 < 2 ^ 32
  overRecords : tqOpcode cmd = tqOpPos → tqPosForward cmd → (tqGetU32 cmd tqPosTmcl).toNat = 0 →
    RecordsAhead (tqGetU32 cmd tqPosRcl).toNat (f.bytes.drop f.cursor)
  overMarks : tqOpcode cmd = tqOpPos → tqPosForward cmd →
    MarksAhead (tqGetU32 cmd tqPosTmcl).toNat (f.bytes.drop f.cursor)

namespace Tq11

def Kept (c : Tq11) : Prop := ∀ unit, (c.units unit).Kept

variable {c : Tq11}

theorem Kept.update (h : c.Kept) {u : TqUnit} (hu : u.Kept) (unit unit' : Fin tq11MaxUnits) :
    (Function.update c.units unit u unit').Kept := by
  by_cases hunit : unit' = unit
  · subst hunit
    rw [Function.update_self]
    exact hu
  · rw [Function.update_of_ne hunit]
    exact h unit'

theorem Kept.setCur (h : c.Kept) {u : TqUnit} (hu : u.Kept) : (c.setCur u).Kept := h.update hu c.cmdUnit

theorem Kept.scheduleUna (h : c.Kept) (unit : Fin tq11MaxUnits) : (tqScheduleUna unit c).Kept := by
  unfold tqScheduleUna
  split_ifs
  · exact h
  · exact h
  · exact h
  · exact h.update (u := { c.units unit with unaPending := true }) ((h unit).congr rfl rfl id) unit

end Tq11

section Commands

variable {c : Tq11} {cmd : TqPacket}

theorem scheduleUna_kept (units : List (Fin tq11MaxUnits)) (h : c.Kept) :
    (units.foldl (fun c unit => tqScheduleUna unit c) c).Kept := by
  induction units generalizing c with
  | nil => exact h
  | cons unit units ih => exact ih (h.scheduleUna unit)

theorem tqCmdScc_kept (h : c.Kept) : (tqCmdScc cmd c).2.Kept := by
  have hcflgs : Tq11.Kept { c with cflgs := cmd tqSccCfl &&& tqCfMsk } := h
  have hfold := scheduleUna_kept (List.finRange tq11MaxUnits) hcflgs
  by_cases hversion : cmd tqSccMsv ≠ 0
  · simp only [tqCmdScc, if_pos hversion]
    exact h
  · simp only [tqCmdScc, if_neg hversion]
    exact hfold

theorem tqCmdSuc_kept (h : c.Kept) : (tqCmdSuc cmd c).2.Kept := by
  unfold tqCmdSuc
  split
  · exact h
  · exact h.setCur ((h c.cmdUnit).congr rfl rfl id)

theorem tqCmdAvl_kept (h : c.Kept) : (tqCmdAvl cmd c).2.Kept := by
  have hrewind : (tqTapRewind { c.cur with online := false, swWriteProtect := false }).2.Kept :=
    rewind_kept (h c.cmdUnit).size
  unfold tqCmdAvl
  split
  · exact h
  · rcases hmove : tqTapRewind { c.cur with online := false, swWriteProtect := false } with ⟨st, u⟩
    rw [hmove] at hrewind
    cases st <;> exact h.setCur hrewind

theorem rewind_online (u : TqUnit) :
    { (tqTapRewind u).2 with online := true } = (tqTapRewind { u with online := true }).2 := by
  obtain ⟨fp, readOnly, online, swWriteProtect, unaPending, tapePos⟩ := u
  cases fp <;> rfl

theorem tqCmdOnl_kept (h : c.Kept) : (tqCmdOnl cmd c).2.Kept := by
  obtain ⟨u₀, hu₀⟩ : ∃ u₀, u₀ = { c.cur with swWriteProtect := cmd tqOnlUfl &&& tqUfWps ≠ 0 } := ⟨_, rfl⟩
  have hsize : ∀ f, u₀.fp = some f → f.bytes.length < 2 ^ 32 := hu₀ ▸ (h c.cmdUnit).size
  have hrewind : (tqTapRewind u₀).2.Kept := rewind_kept hsize
  have honline : TqUnit.Kept { (tqTapRewind u₀).2 with online := true } := by
    rw [rewind_online]
    exact rewind_kept hsize
  unfold tqCmdOnl
  split_ifs
  · exact h
  · exact h
  · rw [← hu₀]
    rcases hmove : tqTapRewind u₀ with ⟨st, u⟩
    rw [hmove] at hrewind honline
    cases st with
    | ok => exact h.setCur honline
    | _ => exact h.setCur hrewind

/-- Motion is for units that are online with a file. -/
theorem motionValid_suc {u : TqUnit} (h : ¬ tqMotionValid u ≠ tqStSuc) :
    u.online = true ∧ ∃ f, u.fp = some f := by
  rw [not_not] at h
  unfold tqMotionValid at h
  cases hfp : u.fp with
  | none =>
    simp only [hfp, Option.isNone_none, if_true] at h
    exact absurd h (by decide)
  | some f =>
    cases honline : u.online with
    | false =>
      simp only [hfp, honline, Option.isNone_some, Bool.false_eq_true, if_false, Bool.not_false, if_true] at h
      exact absurd h (by decide)
    | true => exact ⟨rfl, f, rfl⟩

section Motion

variable {σ : Type} {dma : Dma σ} {s : σ}

/-- Where a unit that moves stands, with what is clear ahead of it. -/
theorem standing (h : c.Kept) (hvalid : ¬ tqMotionValid c.cur ≠ tqStSuc)
    (hclear : c.cur.online = true → ∀ f, c.cur.fp = some f → TqClear dma cmd s c.cur f) :
    ∃ os rest, c.cur = c.cur.stand (TapObject.encodeAll os) rest ∧
      (TapObject.encodeAll os ++ rest).length < 2 ^ 32 ∧
      TqClear dma cmd s c.cur ⟨TapObject.encodeAll os ++ rest, (TapObject.encodeAll os).length⟩ := by
  obtain ⟨honline, f, hf⟩ := motionValid_suc hvalid
  obtain ⟨os, rest, hstand⟩ := ((h c.cmdUnit).placed honline f hf).stand_eq
  have hfile : c.cur.fp = some ⟨TapObject.encodeAll os ++ rest, (TapObject.encodeAll os).length⟩ := by
    have hstand' : c.cur = c.cur.stand (TapObject.encodeAll os) rest := hstand
    rw [hstand']
    rfl
  exact ⟨os, rest, hstand, (h c.cmdUnit).size _ hfile, hclear honline _ hfile⟩

theorem tqCmdReadLike_kept (h : c.Kept) {op : Word} (hop : op = tqOpRd ∨ op = tqOpAcc ∨ op = tqOpCmp)
    (hopcode : tqOpcode cmd = op)
    (hclear : c.cur.online = true → ∀ f, c.cur.fp = some f → TqClear dma cmd s c.cur f) :
    (tqCmdReadLike dma op cmd c s).2.1.Kept := by
  unfold tqCmdReadLike
  simp only
  split
  · exact h
  · rename_i hvalid
    split
    · exact h
    · rename_i hcount
      obtain ⟨os, rest, hstand, hsize, hahead⟩ := standing h hvalid hclear
      have hread := hahead.reads (hopcode ▸ hop) (Bool.not_eq_true _ ▸ hcount)
      rw [List.drop_left] at hread
      have hmoved := readForward_movedTo c.cur (tqGetU32 cmd tqRwBcl).toNat
        (if op = tqOpAcc then none else some (tqTapDmaSink dma op (tqGetU32 cmd tqRwBal))) s os hread
      rw [← hstand] at hmoved
      exact h.setCur (hmoved.kept hsize)

theorem tqCmdWrite_kept (h : c.Kept) (hopcode : tqOpcode cmd = tqOpWr)
    (hclear : c.cur.online = true → ∀ f, c.cur.fp = some f → TqClear dma cmd s c.cur f) :
    (tqCmdWrite dma cmd c s).2.Kept := by
  unfold tqCmdWrite
  simp only
  split
  · exact h
  · rename_i hvalid
    split
    · exact h
    · rename_i hprotect
      split
      · exact h
      · rename_i hcount
        obtain ⟨os, rest, hstand, hsize, hahead⟩ := standing h hvalid hclear
        have hroom := hahead.writes hopcode (Bool.not_eq_true _ ▸ hprotect) (Bool.not_eq_true _ ▸ hcount)
        have hpos : tqGetU32 cmd tqRwBcl ≠ 0 := by
          intro hzero
          exact hcount (by rw [tqBadCount, hzero]; rfl)
        have hkept := writeRecordDma_kept c.cur dma s (tqGetU32 cmd tqRwBal) (tqGetU32 cmd tqRwBcl) os rest hsize
          hpos fun _ => hroom
        rw [← hstand] at hkept
        rcases hmove : tqTapWriteRecordDma dma s (tqGetU32 cmd tqRwBal) (tqGetU32 cmd tqRwBcl) c.cur with
          ⟨st, dmaError, u⟩
        rw [hmove] at hkept
        cases dmaError <;> exact h.setCur hkept

theorem tqCmdWtm_kept (h : c.Kept) (hopcode : tqOpcode cmd = tqOpWtm)
    (hclear : c.cur.online = true → ∀ f, c.cur.fp = some f → TqClear dma cmd s c.cur f) :
    (tqCmdWtm cmd c).2.Kept := by
  unfold tqCmdWtm
  simp only
  split
  · exact h
  · rename_i hvalid
    split
    · exact h
    · rename_i hprotect
      obtain ⟨os, rest, hstand, hsize, hahead⟩ := standing h hvalid hclear
      have hunprotected : (c.cur.swWriteProtect || c.cur.readOnly) = false := Bool.not_eq_true _ ▸ hprotect
      have hkept := writeMark_kept c.cur os rest hsize (Bool.or_eq_false_iff.1 hunprotected).2
        (hahead.marks hopcode hunprotected)
      rw [← hstand] at hkept
      exact h.setCur hkept

theorem tqPosMotion_kept {u : TqUnit} {os : List TapObject} {rest : List Byte}
    (hsize : (TapObject.encodeAll os ++ rest).length < 2 ^ 32) (hstand : u = u.stand (TapObject.encodeAll os) rest)
    (hopcode : tqOpcode cmd = tqOpPos)
    (hahead : TqClear dma cmd s u ⟨TapObject.encodeAll os ++ rest, (TapObject.encodeAll os).length⟩) :
    (tqPosMotion cmd u).2.2.2.Kept := by
  have hkept : u.Kept := hstand ▸ TqUnit.kept_of_stand hsize
  have hless : (TapObject.encodeAll os).length < 2 ^ 32 := by
    rw [List.length_append] at hsize
    omega
  unfold tqPosMotion
  simp only
  split
  · exact rewind_kept hkept.size
  · rename_i hrewind
    split
    · split
      · have hmoved := spaceReverseMarks_movedTo u os (tqGetU32 cmd tqPosTmcl).toNat 0 rest hless
        rw [← hstand] at hmoved
        exact hmoved.kept hsize
      · split
        · have hmoved := spaceReverseRecords_movedTo u os (tqGetU32 cmd tqPosRcl).toNat 0 rest hless
          rw [← hstand] at hmoved
          exact hmoved.kept hsize
        · exact hkept
    · rename_i hreverse
      have hforward : tqPosForward cmd := ⟨not_not.1 hrewind, not_not.1 hreverse⟩
      split
      · have hmarks := hahead.overMarks hopcode hforward
        rw [List.drop_left] at hmarks
        have hmoved := spaceForwardMarks_loop_movedTo u os hmarks (Nat.zero_add _).symm
        rw [← hstand] at hmoved
        exact hmoved.kept hsize
      · rename_i hnone
        split
        · have hrecords := hahead.overRecords hopcode hforward (not_not.1 hnone)
          rw [List.drop_left] at hrecords
          have hmoved := spaceForwardRecords_movedTo u os hrecords
          rw [← hstand] at hmoved
          exact hmoved.kept hsize
        · exact hkept

theorem tqCmdPos_kept (h : c.Kept) (hopcode : tqOpcode cmd = tqOpPos)
    (hclear : c.cur.online = true → ∀ f, c.cur.fp = some f → TqClear dma cmd s c.cur f) :
    (tqCmdPos cmd c).2.Kept := by
  unfold tqCmdPos
  simp only
  split
  · exact h
  · rename_i hvalid
    obtain ⟨os, rest, hstand, hsize, hahead⟩ := standing h hvalid hclear
    exact h.setCur (tqPosMotion_kept hsize hstand hopcode hahead)

theorem ite_kept {p : Prop} [Decidable p] {a b : TqPacket × Tq11 × σ} (ha : p → a.2.1.Kept)
    (hb : ¬ p → b.2.1.Kept) : (if p then a else b).2.1.Kept := by
  split
  · exact ha ‹_›
  · exact hb ‹_›

theorem tqDispatch_kept (h : c.Kept)
    (hclear : c.cur.online = true → ∀ f, c.cur.fp = some f → TqClear dma cmd s c.cur f) :
    (tqDispatch dma cmd c s).2.1.Kept := by
  unfold tqDispatch
  refine ite_kept (fun _ => h) fun _ => ?gcs
  refine ite_kept (fun _ => tqCmdScc_kept h) fun _ => ?scc
  refine ite_kept (fun _ => h) fun _ => ?gus
  refine ite_kept (fun _ => tqCmdAvl_kept h) fun _ => ?avl
  refine ite_kept (fun _ => tqCmdOnl_kept h) fun _ => ?onl
  refine ite_kept (fun _ => tqCmdSuc_kept h) fun _ => ?suc
  refine ite_kept (fun _ => h) fun _ => ?flu
  refine ite_kept (fun hop => tqCmdReadLike_kept h (.inr (.inl rfl)) hop hclear) fun _ => ?acc
  refine ite_kept (fun hop => tqCmdReadLike_kept h (.inr (.inr rfl)) hop hclear) fun _ => ?cmp
  refine ite_kept (fun hop => tqCmdReadLike_kept h (.inl rfl) hop hclear) fun _ => ?rd
  refine ite_kept (fun hop => tqCmdWrite_kept h hop hclear) fun _ => ?wr
  refine ite_kept (fun hop => tqCmdWtm_kept h hop hclear) fun _ => ?wtm
  exact ite_kept (fun hop => tqCmdPos_kept h hop hclear) fun _ => h

end Motion

end Commands

/-! ## Runs -/

/-- What changes the units of the driver. Host memory is what it is when a command is processed. -/
inductive TqAction (σ : Type) where
  | command (cmd : TqPacket) (memory : σ)
  | openImage (unit : Fin tq11MaxUnits) (image : Option (List Byte × Bool))
  | closeImage
  | reset

section Run

variable {σ : Type} (dma : Dma σ) (machine : BusMachine)

def tqAct (c : Tq11) : TqAction σ → Tq11
  | .command cmd memory => (tqProcessCommand dma cmd c memory).2.1
  | .openImage unit image => tq11OpenImageUnit unit image c
  | .closeImage => tq11CloseImage c
  | .reset => tq11Reset machine c

/-- The condition on one step: that of a command on the unit it names, and images below four gigabytes. -/
def TqActClear (c : Tq11) : TqAction σ → Prop
  | .command cmd memory => ∀ unit : Fin tq11MaxUnits, (cmd tqCmdUn).toNat = unit.val →
      (c.units unit).online = true → ∀ f, (c.units unit).fp = some f → TqClear dma cmd memory (c.units unit) f
  | .openImage _ (some (bytes, _)) => bytes.length < 2 ^ 32
  | .openImage _ none | .closeImage | .reset => True

def tqRun (c : Tq11) (actions : List (TqAction σ)) : Tq11 := actions.foldl (tqAct dma machine) c

/-- Every step of the run meets the condition where it is taken. -/
def TqRunClear (c : Tq11) : List (TqAction σ) → Prop
  | [] => True
  | action :: rest => TqActClear dma c action ∧ TqRunClear (tqAct dma machine c action) rest

theorem tq11Init_kept : (tq11Init machine).Kept := fun _ => ⟨nofun, nofun⟩

theorem tqProcessCommand_kept {c : Tq11} {cmd : TqPacket} {memory : σ} (h : c.Kept)
    (hclear : TqActClear dma c (.command cmd memory)) : (tqProcessCommand dma cmd c memory).2.1.Kept := by
  unfold tqProcessCommand
  split
  · rename_i hunit
    have hkept : Tq11.Kept { c with cmdUnit := ⟨(cmd tqCmdUn).toNat, hunit⟩ } := h
    exact tqDispatch_kept hkept (hclear ⟨(cmd tqCmdUn).toNat, hunit⟩ rfl)
  · exact h

theorem tqAct_kept {c : Tq11} {action : TqAction σ} (h : c.Kept) (hclear : TqActClear dma c action) :
    (tqAct dma machine c action).Kept := by
  cases action with
  | command cmd memory => exact tqProcessCommand_kept dma h hclear
  | openImage unit image =>
    cases image with
    | none => exact h.update (u := { c.units unit with fp := none, readOnly := true }) ⟨nofun, nofun⟩ unit
    | some image =>
      obtain ⟨bytes, readOnly⟩ := image
      have hunit : TqUnit.Kept ⟨some ⟨bytes, 0⟩, readOnly, false, false, false, 0⟩ :=
        ⟨fun _ hf => by cases hf; exact hclear, nofun⟩
      exact Tq11.Kept.scheduleUna (c := { c with units := _ }) (h.update hunit unit) unit
  | closeImage => exact fun _ => ⟨nofun, nofun⟩
  | reset => exact fun unit => ⟨(h unit).size, nofun⟩

/-- In a run whose forward motions meet objects or the end of the image, every unit is coherent. -/
theorem tqRun_coherent (actions : List (TqAction σ)) (hclear : TqRunClear dma machine (tq11Init machine) actions)
    (unit : Fin tq11MaxUnits) : ((tqRun dma machine (tq11Init machine) actions).units unit).Coherent := by
  have hrun : ∀ (actions : List (TqAction σ)) (c : Tq11), c.Kept → TqRunClear dma machine c actions →
      (tqRun dma machine c actions).Kept := by
    intro actions
    induction actions with
    | nil => exact fun _ h _ => h
    | cons action rest ih => exact fun c h hclear => ih _ (tqAct_kept dma machine h hclear.1) hclear.2
  exact (hrun actions _ (tq11Init_kept machine) hclear unit).coherent

end Run

/-- A command packet for unit 0. -/
def tqCommandPacket (op bc : Word) : TqPacket := tqPut tqCmdOpc op (tqPut tqRwBcl bc fun _ => 0)

def attachedRun (image : List Byte) : List (TqAction Unit) :=
  [.openImage 0 (some (image, false)), .command (tqCommandPacket tqOpOnl 0) (),
    .command (tqCommandPacket tqOpRd 4) ()]

theorem tqRun_coherent_mark :
    ((tqRun noDma .lsi11x1104 (tq11Init .lsi11x1104) (attachedRun TapObject.mark.encode)).units 0).Coherent := by
  refine tqRun_coherent noDma .lsi11x1104 (attachedRun TapObject.mark.encode) ⟨?_, ?_, ?_, trivial⟩ 0
  · exact (by decide : TapObject.mark.encode.length < 2 ^ 32)
  · intro unit hunit honline
    obtain rfl : unit = 0 := Fin.ext hunit.symm
    exact absurd honline (by decide)
  · intro unit hunit _ f hf
    obtain rfl : unit = 0 := Fin.ext hunit.symm
    obtain rfl : (⟨TapObject.mark.encode, 0⟩ : ByteFile Byte) = f := Option.some.inj hf
    exact ⟨fun _ _ => .mark 0 [], fun h => absurd h (by decide), fun h => absurd h (by decide),
      fun h => absurd h (by decide), fun h => absurd h (by decide)⟩

/-- The image ends one byte into the data of its record: the short read moves the cursor alone. -/
theorem truncated_not_coherent :
    ¬ ((tqRun noDma .lsi11x1104 (tq11Init .lsi11x1104) (attachedRun (le32 4 ++ [0xAA]))).units 0).Coherent := by
  intro h
  have hposition := (h rfl ⟨le32 4 ++ [0xAA], 5⟩ rfl).1
  exact absurd hposition (by decide)

end K1801.Lsi11
