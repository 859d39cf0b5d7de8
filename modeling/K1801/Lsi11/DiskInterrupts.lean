import K1801.Lsi11.IrqDiscipline
import K1801.Lsi11.Rh11Command
import K1801.Lsi11.Rk11
import K1801.Lsi11.Rl11
import K1801.Lsi11.XpCommand

/-! # Interrupt requests of the disk controllers

RK11, RL11, RH11 and XP take IE with the byte that holds it, clear DONE with a command and set it at its end.
-/

namespace K1801.Lsi11

open Core Library

variable {δ : Type}

/-! ## RK11 -/

namespace Rk11

@[simp] theorem syncStatus_l (rk : Rk11) : rk.syncStatus.l = rk.l := rfl

@[simp] theorem setError_l (bit : Word) (rk : Rk11) : (rk.setError bit).l = rk.l := rfl

/-- What a turn of a transfer leaves of the latch. -/
def KeepsLatch (l : IrqLatch) (t : Turn (RkXfer δ)) : Prop := t.Leaves (fun y => y.rk.l = l) fun y => y.rk.l = l

theorem RkXfer.advance_l {l : IrqLatch} {y : RkXfer δ} (h : y.rk.l = l) : KeepsLatch l y.advance := by
  unfold RkXfer.advance
  dsimp only
  split
  · split
    · exact h
    · split
      · exact h
      · split
        · exact h
        · exact h
  · split
    · exact h
    · split
      · exact h
      · split
        · exact h
        · exact h

theorem RkXfer.freadWord_rk {x y : RkXfer δ} {w : Word} (h : x.freadWord = some (w, y)) : y.rk = x.rk := by
  obtain ⟨lo, -, h⟩ := Option.bind_eq_some_iff.1 h
  obtain ⟨hi, -, h⟩ := Option.bind_eq_some_iff.1 h
  cases h
  rfl

theorem RkXfer.fwriteWord_rk (w : Word) (x : RkXfer δ) : (x.fwriteWord w).2.rk = x.rk := by
  unfold RkXfer.fwriteWord
  split
  · rfl
  · split <;> rfl

theorem RkXfer.moveWord_l {l : IrqLatch} {mode : RkXferMode} {pa : Dword} {x : RkXfer δ} {t : Turn (RkXfer δ)}
    (hx : x.rk.l = l) (h : x.moveWord mode pa = some t) : KeepsLatch l t := by
  have hread : ∀ {w : Word} {y : RkXfer δ}, x.freadWord = some (w, y) → y.rk.l = l := fun hw => by
    rw [RkXfer.freadWord_rk hw]
    exact hx
  cases mode with
  | read =>
    unfold RkXfer.moveWord at h
    dsimp only at h
    split at h
    · cases h
      exact hx
    · next w y hw =>
      have hy := hread hw
      obtain ⟨⟨ok, bus⟩, -, h⟩ := Option.bind_eq_some_iff.1 h
      cases ok with
      | true =>
        cases h
        exact RkXfer.advance_l hy
      | false =>
        cases h
        exact hy
  | write =>
    obtain ⟨⟨w, bus⟩, -, h⟩ := Option.bind_eq_some_iff.1 h
    cases w with
    | none =>
      cases h
      exact hx
    | some w =>
      have hwrite := RkXfer.fwriteWord_rk w { x with bus := bus }
      dsimp only at h
      split at h
      · next y hy =>
        cases h
        refine RkXfer.advance_l ?_
        rw [hy] at hwrite
        rw [hwrite]
        exact hx
      · next y hy =>
        cases h
        rw [hy] at hwrite
        show y.rk.l = l
        rw [hwrite]
        exact hx
  | wchk =>
    unfold RkXfer.moveWord at h
    dsimp only at h
    split at h
    · cases h
      exact hx
    · next w y hw =>
      have hy := hread hw
      obtain ⟨⟨mw, bus⟩, -, h⟩ := Option.bind_eq_some_iff.1 h
      cases mw with
      | none =>
        cases h
        exact hy
      | some mw =>
        cases h
        refine RkXfer.advance_l ?_
        split
        · exact hy
        · exact hy
  | rchk =>
    unfold RkXfer.moveWord at h
    dsimp only at h
    split at h
    · cases h
      exact hx
    · next w y hw =>
      cases h
      exact RkXfer.advance_l (hread hw)

theorem RkXfer.step_l {l : IrqLatch} {map : Ubmap} {mode : RkXferMode} {x : RkXfer δ} {t : Turn (RkXfer δ)}
    (hx : x.rk.l = l) (h : x.step map mode = some t) : KeepsLatch l t := by
  unfold RkXfer.step at h
  split at h
  · cases h
    exact hx
  · refine RkXfer.moveWord_l ?_ h
    split
    · exact hx
    · exact hx

theorem transfer_l {map : Ubmap} {mode : RkXferMode} {rk : Rk11} {bus : Bus δ} (r : Rk11 × Bus δ)
    (h : rk.transfer map mode bus = some r) : r.1.l = rk.l.eventSetDone := by
  unfold transfer at h
  split at h
  · cases h
    rfl
  · dsimp only at h
    split at h
    · cases h
      rfl
    · split at h
      · cases h
        rfl
      · obtain ⟨x, hloop, h⟩ := Option.bind_eq_some_iff.1 h
        have hx : x.rk.l = rk.l :=
          turns_keeps (fun y : RkXfer δ => y.rk.l = rk.l) (fun _ _ hy hbody => RkXfer.step_l hy hbody) rfl hloop
        cases h
        exact congrArg IrqLatch.eventSetDone hx

/-- A poll ends the command that is pending. -/
theorem execCommand_l {map : Ubmap} {rk : Rk11} {bus : Bus δ} (r : Rk11 × Bus δ)
    (h : rk.execCommand map bus = some r) : r.1.l = rk.l.doneIf (rk.rkcs &&& rkcsGo ≠ 0) := by
  let Ends : Option (Rk11 × Bus δ) → Prop := fun o => o = some r → r.1.l = rk.l.eventSetDone
  have hfinished : ∀ rk' : Rk11, rk'.l = rk.l → Ends (some (rk'.finishCommand, bus)) := by
    intro rk' hl hr
    cases hr
    exact congrArg IrqLatch.eventSetDone hl
  by_cases hgo : rk.rkcs &&& rkcsGo = 0
  · rw [decide_eq_false fun h => h hgo]
    unfold execCommand at h
    dsimp only at h
    rw [if_pos hgo] at h
    cases h
    rfl
  · rw [decide_eq_true hgo]
    suffices hends : Ends (rk.execCommand map bus) from hends h
    unfold execCommand
    dsimp only
    rw [if_neg hgo]
    refine iteInduction (motive := Ends) (fun _ => hfinished _ rfl) fun _ => ?_
    refine iteInduction (motive := Ends) (fun _ => ?_) fun _ => ?_
    · split
      · exact hfinished _ rfl
      · exact hfinished _ rfl
    refine iteInduction (motive := Ends) (fun _ => iteInduction (motive := Ends) (fun _ => hfinished _ rfl)
      fun _ => hfinished _ rfl) fun _ => ?_
    refine iteInduction (motive := Ends) (fun _ => iteInduction (motive := Ends) (fun _ => hfinished _ rfl)
      fun _ => hfinished _ rfl) fun _ => ?_
    refine iteInduction (motive := Ends) (fun _ => transfer_l r) fun _ => ?_
    refine iteInduction (motive := Ends) (fun _ => transfer_l r) fun _ => ?_
    refine iteInduction (motive := Ends) (fun _ => iteInduction (motive := Ends) (fun _ => hfinished _ rfl)
      fun _ => transfer_l r) fun _ => ?_
    exact iteInduction (motive := Ends) (fun _ => iteInduction (motive := Ends) (fun _ => hfinished _ rfl)
      fun _ => transfer_l r) fun _ => hfinished _ rfl

def writeEffect (addr : Word) (b : Byte) (rk : Rk11) : LatchEffect :=
  if addr &&& 0o177776 = Lsi11.rkcs ∧ addr &&& 1 = 0 then
    .calls (some (b.setWidth 16 &&& rkcsIde ≠ 0)) false (b.setWidth 16 &&& rkcsGo ≠ 0 && rk.l.done) false
  else .none

theorem writeCsLow_l (b : Byte) (rk : Rk11) : (rk.writeCsLow b).l =
    (LatchEffect.calls (some (b.setWidth 16 &&& rkcsIde ≠ 0)) false (b.setWidth 16 &&& rkcsGo ≠ 0 && rk.l.done)
      false).apply rk.l := by
  have hide : ∀ w v : Word, ((w &&& ~~~(rkcsFuncMask ||| rkcsMexMask ||| rkcsIde)) |||
      (v &&& (rkcsFuncMask ||| rkcsMexMask ||| rkcsIde))) &&& rkcsIde = v &&& rkcsIde := by
    intro w v
    apply BitVec.eq_of_getLsbD_eq
    intro i hi
    simp only [BitVec.getLsbD_and, BitVec.getLsbD_or, BitVec.getLsbD_not]
    interval_cases i <;> simp
  unfold writeCsLow
  dsimp only
  rw [hide]
  by_cases hgo : b.setWidth 16 &&& rkcsGo = 0
  · rw [if_neg fun h => h hgo, decide_eq_false (p := b.setWidth 16 &&& rkcsGo ≠ 0) fun h => h hgo]
    rfl
  · rw [if_pos hgo, decide_eq_true (p := b.setWidth 16 &&& rkcsGo ≠ 0) hgo, Bool.true_and]
    show (syncStatus (if rk.l.done = true then _ else _)).l = _
    cases hdone : rk.l.done with
    | true => rfl
    | false => rfl

theorem write8_keeps {addr : Word} (b : Byte) (rk : Rk11) (hcs : addr &&& 0o177776 ≠ Lsi11.rkcs) :
    (rk.write8 addr b).l = rk.l := by
  let Same : Rk11 → Prop := fun rk' => rk'.l = rk.l
  show Same (rk.write8 addr b)
  unfold write8
  dsimp only
  refine iteInduction (motive := Same) (fun _ => rfl) fun _ => ?_
  refine iteInduction (motive := Same) (fun _ => rfl) fun _ => ?_
  refine iteInduction (motive := Same) (fun _ => rfl) fun _ => ?_
  refine iteInduction (motive := Same) (fun _ => iteInduction (motive := Same) (fun _ => rfl) fun _ => rfl) fun _ => ?_
  refine iteInduction (motive := Same) (fun _ => rfl) fun _ => ?_
  exact iteInduction (motive := Same) (fun h => absurd h hcs) fun _ => rfl

theorem write8_l (addr : Word) (b : Byte) (rk : Rk11) :
    (rk.write8 addr b).l = (rk.writeEffect addr b).apply rk.l := by
  unfold writeEffect
  by_cases hcs : addr &&& 0o177776 = Lsi11.rkcs
  · unfold write8
    dsimp only
    rw [hcs, if_neg (by decide), if_neg (by decide), if_neg (by decide), if_neg (by decide), if_neg (by decide),
      if_pos rfl]
    by_cases heven : addr &&& 1 = 0
    · rw [if_neg fun h => h heven, if_pos ⟨rfl, heven⟩, writeCsLow_l]
      rfl
    · rw [if_pos heven, if_neg fun h => heven h.2]
      rfl
  · rw [if_neg fun h => hcs h.1]
    exact write8_keeps b rk hcs

def diskController (δ : Type) : DiskController Rk11 (Ubmap × Bus δ) where
  read8 := Rk11.read8
  write8 _ := Rk11.write8
  poll around rk := (rk.execCommand around.1 around.2).map Prod.fst
  reset := Rk11.reset
  irqAck := Rk11.irqAck
  latch := Rk11.l
  writeEffect := Rk11.writeEffect
  pending _ rk := rk.rkcs &&& rkcsGo ≠ 0

theorem follows (δ : Type) : (diskController δ).Follows fun _ => True where
  read_latch _ _ := rfl
  read_valid _ _ _ := trivial
  write_latch _ addr b rk _ := rk.write8_l addr b
  write_valid _ _ _ _ _ := trivial
  write_rising addr b rk _ := by
    show (rk.writeEffect addr b).Rising rk.l
    unfold writeEffect
    split
    · exact Dl11.calls_rising _ _ _ _
    · exact Dl11.calls_rising _ _ _ _
  poll_latch _ _ _ h := by
    obtain ⟨r, hexec, rfl⟩ := Option.map_eq_some_iff.1 h
    exact execCommand_l r hexec
  poll_valid _ _ _ _ _ := trivial
  reset_latch _ := rfl
  reset_valid _ := trivial
  ack_latch _ := rfl
  ack_valid _ _ := trivial

end Rk11

/-! ## RL11 -/

namespace Rl11

/-- What a turn of a transfer leaves of the latch. -/
def KeepsLatch (l : IrqLatch) (t : Turn (RlXfer δ)) : Prop := t.Leaves (fun y => y.rl.l = l) fun y => y.rl.l = l

theorem RlXfer.advance_l {l : IrqLatch} {medium : Medium} {y : RlXfer δ} (h : y.rl.l = l) :
    KeepsLatch l (y.advance medium) := by
  unfold RlXfer.advance
  dsimp only
  split
  · exact h
  · split
    · exact h
    · exact h

theorem RlXfer.moveWord_l {l : IrqLatch} {map : Ubmap} {mode : RlXferMode} {medium : Medium} {x : RlXfer δ}
    {t : Turn (RlXfer δ)} (hx : x.rl.l = l) (h : x.moveWord map mode medium = some t) : KeepsLatch l t := by
  cases mode with
  | read =>
    obtain ⟨⟨ok, bus⟩, -, h⟩ := Option.bind_eq_some_iff.1 h
    cases ok with
    | true =>
      cases h
      exact RlXfer.advance_l hx
    | false =>
      cases h
      exact hx
  | write =>
    obtain ⟨⟨w, bus⟩, -, h⟩ := Option.bind_eq_some_iff.1 h
    cases w with
    | none =>
      cases h
      exact hx
    | some w =>
      cases h
      exact RlXfer.advance_l hx
  | wchk =>
    obtain ⟨⟨mw, bus⟩, -, h⟩ := Option.bind_eq_some_iff.1 h
    cases mw with
    | none =>
      cases h
      exact hx
    | some mw =>
      cases h
      split
      · exact hx
      · exact RlXfer.advance_l hx

theorem RlXfer.step_l {l : IrqLatch} {map : Ubmap} {mode : RlXferMode} {medium : Medium} {type : Rl11Type}
    {x : RlXfer δ} {t : Turn (RlXfer δ)} (hx : x.rl.l = l) (h : x.step map mode medium type = some t) :
    KeepsLatch l t := by
  unfold RlXfer.step at h
  dsimp only at h
  split at h
  · cases h
    exact hx
  · split at h
    · cases h
      exact hx
    · refine RlXfer.moveWord_l ?_ h
      exact hx

theorem RlXfer.zeroFill_l (mode : RlXferMode) (medium : Medium) (type : Rl11Type) (x : RlXfer δ) :
    (x.zeroFill mode medium type).rl.l = x.rl.l := by
  let Same : RlXfer δ → Prop := fun y => y.rl.l = x.rl.l
  have hfill : ∀ y : RlXfer δ, Same y → Same (if y.hadError then y else
      { y with
        sec := { y.sec with
          data := Buffer.paste y.sec.data (2 * y.secWord) (2 * (rlWordsPerSector - y.wInSector)) Buffer.zero
          dirty := true }
        secWord := y.secWord + (rlWordsPerSector - y.wInSector)
        wInSector := y.wInSector + (rlWordsPerSector - y.wInSector) }) := by
    intro y hy
    split
    · exact hy
    · exact hy
  unfold RlXfer.zeroFill
  split
  · refine hfill _ ?_
    split
    · rfl
    · split
      · rfl
      · split <;> rfl
  · rfl

theorem RlXfer.writeBack_l (medium : Medium) (x : RlXfer δ) : (x.writeBack medium).rl.l = x.rl.l := by
  unfold RlXfer.writeBack
  split <;> rfl

theorem endXfer_l (medium : Medium) (noHeader : Bool) (wcReq maxwc : Nat) (x : RlXfer δ) :
    (endXfer medium noHeader wcReq maxwc x).l = x.rl.l.eventSetDone := by
  unfold endXfer
  dsimp only
  show IrqLatch.eventSetDone (if _ then _ else _ : Rl11).l = _
  congr 1
  split
  · rfl
  · split <;> rfl

theorem execXfer_l {map : Ubmap} {mode : RlXferMode} {rl : Rl11} {bus : Bus δ} (r : Rl11 × Bus δ)
    (h : rl.execXfer map mode bus = some r) : r.1.l = rl.l.eventSetDone := by
  unfold execXfer at h
  dsimp only at h
  split at h
  · cases h
    rfl
  · split at h
    · cases h
      rfl
    · split at h
      · cases h
        rfl
      · split at h
        · cases h
          rfl
        · obtain ⟨x, hloop, h⟩ := Option.bind_eq_some_iff.1 h
          have hx : x.rl.l = rl.l :=
            turns_keeps (fun y : RlXfer δ => y.rl.l = rl.l) (fun _ _ hy hbody => RlXfer.step_l hy hbody) rfl hloop
          cases h
          rw [endXfer_l, RlXfer.writeBack_l, RlXfer.zeroFill_l, hx]

theorem execGetStatus_l (rl : Rl11) : rl.execGetStatus.l = rl.l.eventSetDone := by
  unfold execGetStatus
  dsimp only
  split
  · rfl
  · split
    · rfl
    · split
      · rfl
      · show IrqLatch.eventSetDone (if _ then _ else rl : Rl11).l = _
        split <;> rfl

theorem execSeek_l (rl : Rl11) : rl.execSeek.l = rl.l.eventSetDone := by
  unfold execSeek
  split
  · rfl
  · split <;> rfl

theorem execReadHeader_l (rl : Rl11) : rl.execReadHeader.l = rl.l.eventSetDone := by
  unfold execReadHeader
  dsimp only
  split <;> rfl

theorem execCommand_l {map : Ubmap} {rl : Rl11} {bus : Bus δ} (r : Rl11 × Bus δ)
    (h : rl.execCommand map bus = some r) : r.1.l = rl.l.eventSetDone := by
  let Ends : Option (Rl11 × Bus δ) → Prop := fun o => o = some r → r.1.l = rl.l.eventSetDone
  have hends : ∀ rl' : Rl11, rl'.l = rl.l.eventSetDone → Ends (some (rl', bus)) := by
    intro rl' hl hr
    cases hr
    exact hl
  suffices hends : Ends (rl.execCommand map bus) from hends h
  unfold execCommand
  dsimp only
  refine iteInduction (motive := Ends) (fun _ => hends _ rfl) fun _ => ?_
  refine iteInduction (motive := Ends) (fun _ => execXfer_l r) fun _ => ?_
  refine iteInduction (motive := Ends) (fun _ => hends _ rl.execGetStatus_l) fun _ => ?_
  refine iteInduction (motive := Ends) (fun _ => hends _ rl.execSeek_l) fun _ => ?_
  refine iteInduction (motive := Ends) (fun _ => hends _ rl.execReadHeader_l) fun _ => ?_
  refine iteInduction (motive := Ends) (fun _ => execXfer_l r) fun _ => ?_
  exact iteInduction (motive := Ends) (fun _ => execXfer_l r) fun _ => hends _ rfl

/-- A poll ends the command once its time has come. -/
theorem poll_l {map : Ubmap} {now : Nat} {rl : Rl11} {bus : Bus δ} (r : Rl11 × Bus δ)
    (h : rl.poll map now bus = some r) : r.1.l = rl.l.doneIf (rl.busy && rl.readyNs ≤ now) := by
  unfold poll at h
  cases hbusy : rl.busy with
  | false =>
    rw [if_pos hbusy] at h
    cases h
    rfl
  | true =>
    rw [if_neg (by rw [hbusy]; decide)] at h
    by_cases hnow : now < rl.readyNs
    · rw [if_pos hnow] at h
      cases h
      rw [decide_eq_false (by omega)]
      rfl
    · rw [if_neg hnow] at h
      rw [decide_eq_true (by omega)]
      exact execCommand_l r h

def writeEffect (addr : Word) (b : Byte) (rl : Rl11) : LatchEffect :=
  if addr &&& 0o177776 = rlcsReg ∧ addr &&& 1 = 0 then
    .calls (some (b.setWidth 16 &&& rlcsIe ≠ 0)) false (b.setWidth 16 &&& rlcsCrdy = 0 && rl.l.done) false
  else .none

theorem writeCsLow_l (now : Nat) (b : Byte) (rl : Rl11) : (rl.writeCsLow now b).l =
    (LatchEffect.calls (some (b.setWidth 16 &&& rlcsIe ≠ 0)) false (b.setWidth 16 &&& rlcsCrdy = 0 && rl.l.done)
      false).apply rl.l := by
  have hie : ∀ w v : Word, ((w &&& ~~~(rlcsFuncMask ||| rlcsBaMask ||| rlcsIe)) |||
      (v &&& (rlcsFuncMask ||| rlcsBaMask ||| rlcsIe))) &&& rlcsIe = v &&& rlcsIe := by
    intro w v
    apply BitVec.eq_of_getLsbD_eq
    intro i hi
    simp only [BitVec.getLsbD_and, BitVec.getLsbD_or, BitVec.getLsbD_not]
    interval_cases i <;> simp
  unfold writeCsLow
  dsimp only
  rw [hie, IrqLatch.setIe_done]
  by_cases hcrdy : b.setWidth 16 &&& rlcsCrdy = 0
  · rw [decide_eq_true (p := b.setWidth 16 &&& rlcsCrdy = 0) hcrdy, Bool.true_and]
    cases hdone : rl.l.done with
    | true =>
      rw [if_pos ⟨hcrdy, rfl⟩]
      rfl
    | false =>
      rw [if_neg fun h => absurd h.2 (by decide)]
      rfl
  · rw [if_neg fun h => hcrdy h.1, decide_eq_false (p := b.setWidth 16 &&& rlcsCrdy = 0) hcrdy]
    rfl

theorem write8_l (now : Nat) (addr : Word) (b : Byte) (rl : Rl11) :
    (rl.write8 now addr b).l = (rl.writeEffect addr b).apply rl.l := by
  unfold writeEffect write8
  dsimp only
  by_cases hcs : addr &&& 0o177776 = rlcsReg
  · rw [if_pos hcs]
    by_cases heven : addr &&& 1 = 0
    · rw [if_neg fun h => h heven, if_pos ⟨hcs, heven⟩]
      exact writeCsLow_l now b rl
    · rw [if_pos heven, if_neg fun h => heven h.2]
      rfl
  · let Same : Rl11 → Prop := fun rl' => rl'.l = rl.l
    rw [if_neg hcs]
    rw [if_neg (c := addr &&& 0o177776 = rlcsReg ∧ addr &&& 1 = 0) fun h => hcs h.1]
    refine iteInduction (motive := Same) (fun _ => rfl) fun _ => ?_
    refine iteInduction (motive := Same) (fun _ => rfl) fun _ => ?_
    refine iteInduction (motive := Same) (fun _ => rfl) fun _ => ?_
    exact iteInduction (motive := Same) (fun _ => rfl) fun _ => rfl

theorem rhdrAdvanceWord_l (rl : Rl11) : rl.rhdrAdvanceWord.l = rl.l := by
  unfold rhdrAdvanceWord
  split <;> rfl

theorem read8_l (addr : Word) (rl : Rl11) : (rl.read8 addr).2.l = rl.l := by
  have hhigh : (if addr &&& 0o177776 = rlmpReg then rl.syncCs.rhdrAdvanceWord else rl.syncCs).l = rl.l := by
    split
    · exact rhdrAdvanceWord_l _
    · rfl
  unfold read8
  dsimp only
  by_cases hodd : addr &&& 1 ≠ 0
  · rw [if_pos hodd]
    exact hhigh
  · rw [if_neg hodd]
    rfl

/-- What a poll of the RL11 finds: the time, the UNIBUS map and the bus. -/
structure Around (δ : Type) where
  now : Nat
  map : Ubmap
  bus : Bus δ

def diskController (δ : Type) : DiskController Rl11 (Around δ) where
  read8 := Rl11.read8
  write8 := Rl11.write8
  poll around rl := (rl.poll around.map around.now around.bus).map Prod.fst
  reset := Rl11.reset
  irqAck := Rl11.irqAck
  latch := Rl11.l
  writeEffect := Rl11.writeEffect
  pending around rl := rl.busy && rl.readyNs ≤ around.now

theorem follows (δ : Type) : (diskController δ).Follows fun _ => True where
  read_latch := read8_l
  read_valid _ _ _ := trivial
  write_latch now addr b rl _ := rl.write8_l now addr b
  write_valid _ _ _ _ _ := trivial
  write_rising addr b rl _ := by
    show (rl.writeEffect addr b).Rising rl.l
    unfold writeEffect
    split
    · exact Dl11.calls_rising _ _ _ _
    · exact Dl11.calls_rising _ _ _ _
  poll_latch _ _ _ h := by
    obtain ⟨r, hpoll, rfl⟩ := Option.map_eq_some_iff.1 h
    exact poll_l r hpoll
  poll_valid _ _ _ _ _ := trivial
  reset_latch _ := rfl
  reset_valid _ := trivial
  ack_latch _ := rfl
  ack_valid _ _ := trivial

end Rl11

/-! ## RH11 and XP -/

namespace Rh11

def diskController (δ : Type) : DiskController Rh11 (Ubmap × Bus δ) where
  read8 := Rh11.read8
  write8 _ := Rh11.write8
  poll around rh := (rh.poll around.1 around.2).map Prod.fst
  reset := Rh11.reset
  irqAck := Rh11.irqAck
  latch := Rh11.l
  writeEffect := Rh11.storeEffect
  pending _ := Rh11.go

theorem storeEffect_rising {rh : Rh11} (h : rh.Synced) (addr : Word) (b : Byte) :
    (rh.storeEffect addr b).Rising rh.l := by
  unfold storeEffect
  split
  · intro hraise
    simp only [Bool.and_eq_true, decide_eq_true_eq] at hraise
    obtain ⟨⟨hold, hnew⟩, -⟩ := hraise
    refine ⟨by rw [decide_eq_true hnew], ?_⟩
    cases hie : rh.l.ie with
    | false => rfl
    | true => exact absurd hold (h.ie.2 hie)
  · split
    · trivial
    · split
      · exact Dl11.calls_rising _ _ _ _
      · exact Dl11.calls_rising _ _ _ _

theorem follows (δ : Type) : (diskController δ).Follows Synced where
  read_latch _ _ := rfl
  read_valid addr rh _ := synced_syncStatus rh
  write_latch _ addr b rh _ := rh.write8_l addr b
  write_valid _ addr b _ h := h.write8 addr b
  write_rising addr b _ h := storeEffect_rising h addr b
  poll_latch _ rh _ h := by
    obtain ⟨r, hpoll, rfl⟩ := Option.map_eq_some_iff.1 h
    show r.1.l = rh.l.doneIf rh.go
    rcases poll_cases r hpoll with ⟨hgo, hsame⟩ | ⟨hgo, hended⟩
    · rw [hgo, hsame]
      rfl
    · rw [hgo]
      exact hended.latch
  poll_valid _ _ _ hs h := by
    obtain ⟨r, hpoll, rfl⟩ := Option.map_eq_some_iff.1 h
    rcases poll_cases r hpoll with ⟨-, hsame⟩ | ⟨-, hended⟩
    · rw [hsame]
      exact hs
    · exact hended.synced
  reset_latch _ := rfl
  reset_valid _ := synced_syncStatus _
  ack_latch _ := rfl
  ack_valid _ h := h.irqAck

end Rh11

namespace Xp

def diskController (δ : Type) : DiskController Xp (Bus δ) where
  read8 := Xp.read8
  write8 _ := Xp.write8
  poll bus xp := (xp.poll bus).map Prod.fst
  reset := Xp.reset
  irqAck := Xp.irqAck
  latch := Xp.l
  writeEffect := Xp.storeEffect
  pending _ := Xp.go

theorem storeEffect_rising {xp : Xp} (h : xp.Synced) (addr : Word) (b : Byte) :
    (xp.storeEffect addr b).Rising xp.l := by
  unfold storeEffect
  split
  · intro hraise
    simp only [Bool.and_eq_true, decide_eq_true_eq] at hraise
    obtain ⟨⟨hold, hnew⟩, -⟩ := hraise
    refine ⟨by rw [decide_eq_true hnew], ?_⟩
    cases hie : xp.l.ie with
    | false => rfl
    | true => exact absurd hold (h.ie.2 hie)
  · split
    · trivial
    · split
      · exact Dl11.calls_rising _ _ _ _
      · exact Dl11.calls_rising _ _ _ _

theorem read8_l (addr : Word) (xp : Xp) : (xp.read8 addr).2.l = xp.l := by
  show (xp.read16 (addr &&& 0o177776)).2.l = xp.l
  unfold read16
  dsimp only
  by_cases hbase : addr &&& 0o177776 &&& 0o177776 = xpcs3Reg
  · rw [if_pos hbase]
    rfl
  · rw [if_neg hbase]
    rfl

theorem follows (δ : Type) : (diskController δ).Follows Synced where
  read_latch := read8_l
  read_valid addr xp h := by
    show (xp.read8 addr).2.Synced
    rw [h.read8]
    exact h
  write_latch _ addr b _ h := h.write8_l addr b
  write_valid _ addr b _ h := h.write8 addr b
  write_rising addr b _ h := storeEffect_rising h addr b
  poll_latch bus xp _ h := by
    obtain ⟨⟨xp', bus'⟩, hpoll, rfl⟩ := Option.map_eq_some_iff.1 h
    show xp'.l = xp.l.doneIf xp.go
    rcases poll_cases hpoll with ⟨hgo, hsame⟩ | ⟨hgo, hended⟩
    · rw [hgo, hsame]
      rfl
    · rw [hgo]
      exact hended.latch
  poll_valid bus _ _ hs h := by
    obtain ⟨⟨xp', bus'⟩, hpoll, rfl⟩ := Option.map_eq_some_iff.1 h
    rcases poll_cases hpoll with ⟨-, hsame⟩ | ⟨-, hended⟩
    · show xp'.Synced
      rw [hsame]
      exact hs
    · exact hended.synced
  reset_latch _ := rfl
  reset_valid _ := synced_syncStatus _
  ack_latch _ := rfl
  ack_valid _ h := h.irqAck

end Xp

/-! ## All devices -/

/-- The discipline throughout a run from reset on, just when every event is quiet. -/
def KeptByQuiet {σ ε : Type} (d : IrqDevice σ ε) (reset : σ → σ) : Prop :=
  ∀ (s : σ) (evs : List ε), Throughout (orLeave d.follow) (Present d.Disciplined) (some ⟨reset s, {}⟩) evs ↔
    AtEach (orLeave d.follow) (fun s ev => Present (fun s => d.Quiet s ev) s) (some ⟨reset s, {}⟩) evs

theorem irqDiscipline_iff (δ : Type) :
    KeptByQuiet Dl11.receiver Dl11.reset ∧ KeptByQuiet Dl11.transmitter Dl11.reset ∧
      KeptByQuiet Lp11.device Lp11.reset ∧ KeptByQuiet (Rk11.diskController δ).device Rk11.reset ∧
      KeptByQuiet (Rl11.diskController δ).device Rl11.reset ∧ KeptByQuiet (Rh11.diskController δ).device Rh11.reset ∧
      KeptByQuiet (Xp.diskController δ).device Xp.reset :=
  ⟨Dl11.receiver_disciplined_iff, Dl11.transmitter_disciplined_iff, Lp11.disciplined_iff,
    DiskController.disciplined_iff (Rk11.follows δ), DiskController.disciplined_iff (Rl11.follows δ),
    DiskController.disciplined_iff (Rh11.follows δ), DiskController.disciplined_iff (Xp.follows δ)⟩

/-- IE on and off again over a ready transmitter: the request stands without IE. -/
theorem staleRequest : ¬ Throughout (orLeave Dl11.transmitter.follow) (Present Dl11.transmitter.Disciplined)
    (some ⟨({} : Dl11).reset, {}⟩) [.write8 0o177564 0o100, .write8 0o177564 0] := by
  intro h
  have hdisciplined := h _ (List.prefix_refl _) _ rfl
  have hie := hdisciplined.orderly (by decide)
  exact absurd hie (by decide)

end K1801.Lsi11
