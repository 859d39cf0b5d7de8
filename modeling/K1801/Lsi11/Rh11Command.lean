import K1801.Lsi11.CommandLatch
import K1801.Lsi11.Rh11Latch

/-! # The pending command of the RH11

While a command is pending, RHCS1 stays open: its low byte replaces the function, its high byte the low extension bits
of the bus address. The other registers refuse.
-/

namespace K1801.Lsi11

open Core Library

namespace Rh11

/-- A byte of RHCS1 puts another function or other extension bits under a pending command. -/
def disturbs (addr : Word) (b : Byte) (rh : Rh11) : Bool :=
  rh.go &&
    ((isCs1Low addr && b.setWidth 16 &&& rhcs1Go = 0 &&
        b.setWidth 16 &&& rhcs1FuncMask ≠ rh.rhcs1 &&& rhcs1FuncMask) ||
      (isCs1High addr && (b.setWidth 16 : Word) <<< 8 &&& rhcs1CerrCclr = 0 && b &&& 3 ≠ rh.dmaExtGet &&& 3))

theorem order_setCs2Error (rh : Rh11) : (rh.setCs2Error rhcs2Pge).order = rh.order := by
  have hkeep : ∀ (w : Word) {k : Word}, (rhcs2Pge &&& k = 0) → (rhcs2Ir &&& k = 0) →
      (w ||| rhcs2Pge ||| rhcs2Ir) &&& k = w &&& k := by
    intro w k hpge hir
    have hzero : ∀ x : Word, x ||| 0 = x := fun x => BitVec.or_zero
    rw [BitVec.and_comm, BitVec.and_or_distrib_left, BitVec.and_or_distrib_left, BitVec.and_comm k rhcs2Pge,
      BitVec.and_comm k rhcs2Ir, hpge, hir, hzero, hzero, BitVec.and_comm]
  have hunit : ({ rh with rhcs2 := rh.rhcs2 ||| rhcs2Pge ||| rhcs2Ir } : Rh11).selectedDrive = rh.selectedDrive :=
    congrArg (fun w : Word => w.setWidth 3) (hkeep rh.rhcs2 (by decide) (by decide))
  unfold setCs2Error
  rw [order_syncStatus]
  unfold order
  rw [hunit]
  show RhOrder.mk _ _ ((rh.rhcs2 ||| rhcs2Pge ||| rhcs2Ir) &&& rhcs2Bai) _ _ _ _ _ = _
  rw [hkeep rh.rhcs2 (by decide) (by decide)]
  rfl

/-- A byte that leaves the command pending changes its order just when it disturbs it. -/
theorem order_iff {rh : Rh11} {addr : Word} {b : Byte} (hgo : rh.go = true) (hdone : rh.l.done = false)
    (hpending : (rh.write8 addr b).go = true) :
    (rh.write8 addr b).order = rh.order ↔ rh.disturbs addr b = false := by
  unfold disturbs
  rw [hgo]
  rcases byte_kinds addr with hlow | hhigh | hcs1
  · obtain ⟨hbase, heven⟩ := isCs1Low_iff.1 hlow
    have hhigh : isCs1High addr = false := Bool.eq_false_iff.2 fun hh => (isCs1High_iff.1 hh).2 heven
    rw [rh.write8_cs1 b hbase, if_neg fun h => h heven] at hpending ⊢
    rw [hlow, hhigh]
    rcases rh.writeCs1Low_cases b with ⟨-, -, -, heq⟩ | ⟨-, hg, -⟩ | ⟨hcase, heq⟩ | ⟨-, hg, -⟩
    · rw [heq, finishCommand_go] at hpending
      exact absurd hpending (by decide)
    · exact absurd (hgo.symm.trans hg) (by decide)
    · have hquiet : b.setWidth 16 &&& rhcs1Go = 0 :=
        hcase.resolve_right fun h => absurd (hdone.symm.trans h.2) (by decide)
      rw [heq, order_syncStatus, order_loadCs1, decide_eq_true hquiet]
      by_cases hfnc : b.setWidth 16 &&& rhcs1FuncMask = rh.rhcs1 &&& rhcs1FuncMask
      · rw [decide_eq_false fun h => h hfnc, hfnc]
        exact iff_of_true rfl rfl
      · rw [decide_eq_true hfnc]
        exact iff_of_false (fun heq => hfnc (congrArg RhOrder.fnc heq)) (by simp)
    · exact absurd (hgo.symm.trans hg) (by decide)
  · obtain ⟨hbase, hodd⟩ := isCs1High_iff.1 hhigh
    have hlow : isCs1Low addr = false := Bool.eq_false_iff.2 fun hl => hodd (isCs1Low_iff.1 hl).2
    rw [rh.write8_cs1 b hbase, if_pos hodd] at hpending ⊢
    rw [hlow, hhigh]
    rcases rh.writeCs1High_cases b with ⟨-, heq⟩ | ⟨hb, heq⟩
    · rw [heq, controllerClear_go] at hpending
      exact absurd hpending (by decide)
    · have hsame : (b &&& 3) &&& 3 = b &&& 3 := by
        rw [BitVec.and_assoc]
        rfl
      rw [heq, order_syncStatus, order_cs1BaExtSet, hsame, decide_eq_true hb]
      by_cases hext : b &&& 3 = rh.dmaExtGet &&& 3
      · rw [decide_eq_false (p := b &&& 3 ≠ rh.dmaExtGet &&& 3) fun h => h hext, (ext_kept_iff _ _).2 hext]
        exact iff_of_true rfl (by simp)
      · rw [decide_eq_true (p := b &&& 3 ≠ rh.dmaExtGet &&& 3) hext]
        exact iff_of_false (fun heq => hext ((ext_kept_iff _ _).1 (congrArg RhOrder.ext heq))) (by simp)
  · rw [not_low hcs1, not_high hcs1]
    refine iff_of_true ?_ rfl
    rcases rh.write8_refused b hcs1 hgo with heq | heq
    · rw [heq]
    · rw [heq]
      exact order_setCs2Error rh

/-! ## The status stays up to date -/

theorem synced_finish (rh : Rh11) : rh.finishCommand.Synced := synced_syncStatus _

theorem synced_writeCs1Low (rh : Rh11) (b : Byte) : (rh.writeCs1Low b).Synced := by
  rcases rh.writeCs1Low_cases b with ⟨-, -, -, heq⟩ | ⟨-, -, -, rh', heq, -⟩ | ⟨-, heq⟩ | ⟨-, -, -, heq⟩
  · rw [heq]
    exact synced_syncStatus _
  · rw [heq]
    exact synced_syncStatus _
  · rw [heq]
    exact synced_syncStatus _
  · rw [heq]
    exact synced_syncStatus _

theorem synced_iff {rh : Rh11} : rh.Synced ↔ (rh.rhcs1 &&& ~~~cs1Base) ||| rh.cs1Status = rh.rhcs1 ∧
    rh.syncStatus.rhmr3 = rh.rhmr3 ∧ rh.syncStatus.rhds = rh.rhds := by
  constructor
  · intro h
    exact ⟨congrArg Rh11.rhcs1 h, congrArg Rh11.rhmr3 h, congrArg Rh11.rhds h⟩
  · rintro ⟨hcs1, hmr3, hds⟩
    show ({ rh with
      rhcs1 := (rh.rhcs1 &&& ~~~cs1Base) ||| rh.cs1Status, rhmr3 := rh.syncStatus.rhmr3
      rhds := rh.syncStatus.rhds } : Rh11) = rh
    rw [hcs1, hmr3, hds]

/-- The extension bits are no status. -/
theorem Synced.cs1BaExtSet {rh : Rh11} (h : rh.Synced) (ext : Byte) : (rh.cs1BaExtSet ext).Synced := by
  have hbits : ∀ w s : Word, s &&& cs1Base = s → (w &&& ~~~cs1Base) ||| s = w →
      (((w &&& ~~~rhcs1BaExtMask) ||| ((ext.setWidth 16 &&& 3) <<< 8)) &&& ~~~cs1Base) ||| s =
        (w &&& ~~~rhcs1BaExtMask) ||| ((ext.setWidth 16 &&& 3) <<< 8) := by
    intro w s hs hw
    rw [← hw, ← hs]
    apply BitVec.eq_of_getLsbD_eq
    intro i hi
    simp only [BitVec.getLsbD_and, BitVec.getLsbD_or, BitVec.getLsbD_not, BitVec.getLsbD_shiftLeft]
    interval_cases i <;> simp
  obtain ⟨hcs1, hmr3, hds⟩ := synced_iff.1 h
  have hbase := hbits rh.rhcs1 rh.cs1Status rh.cs1Status_bits hcs1
  refine synced_iff.2 ⟨?_, ?_, ?_⟩
  · cases rh with
    | mk _ _ _ _ _ _ _ _ _ _ _ _ _ _ _ _ _ mode => cases mode <;> exact hbase
  · cases rh with
    | mk _ _ _ _ _ _ _ _ _ _ _ _ _ _ _ _ _ mode => cases mode <;> exact hmr3
  · cases rh with
    | mk _ _ _ _ _ _ _ _ _ _ _ _ _ _ _ _ _ mode => cases mode <;> exact hds

theorem Synced.write8 {rh : Rh11} (h : rh.Synced) (addr : Word) (b : Byte) : (rh.write8 addr b).Synced := by
  have hsame : ∀ wc ba da as dc spr db mr mr2, ({ rh with
      rhwc := wc, rhba := ba, rhda := da, rhas := as, rhdc := dc, rhspr := spr, rhdb := db, rhmr := mr
      rhmr2 := mr2 } : Rh11).Synced := by
    have hfields := synced_iff.1 h
    intro wc ba da as dc spr db mr mr2
    exact synced_iff.2 hfields
  by_cases hbase : addr &&& 0o177776 = rhcs1Reg
  · rw [rh.write8_cs1 b hbase]
    split
    · rcases rh.writeCs1High_cases b with ⟨-, heq⟩ | ⟨-, heq⟩
      · rw [heq]
        exact synced_syncStatus _
      · rw [heq]
        exact synced_syncStatus _
    · exact rh.synced_writeCs1Low b
  · have hcs2 : (rh.writeCs2 b).Synced := by
      rcases rh.writeCs2_effect b with ⟨-, heq⟩ | ⟨hb, -⟩
      · rw [heq]
        exact synced_syncStatus _
      · unfold writeCs2
        dsimp only
        split
        · exact synced_syncStatus _
        · exact synced_syncStatus _
    unfold Rh11.write8
    dsimp only
    refine iteInduction (fun _ => h) fun _ => ?_
    refine iteInduction (fun hbase' => absurd hbase' hbase) fun _ => ?_
    refine iteInduction (fun _ => h) fun _ => ?_
    refine iteInduction (fun _ => synced_syncStatus _) fun _ => ?_
    refine iteInduction (fun _ => hsame _ rh.rhba rh.rhda rh.rhas rh.rhdc rh.rhspr rh.rhdb rh.rhmr rh.rhmr2) fun _ => ?_
    refine iteInduction (fun _ => hsame rh.rhwc _ rh.rhda rh.rhas rh.rhdc rh.rhspr rh.rhdb rh.rhmr rh.rhmr2) fun _ => ?_
    refine iteInduction (fun _ => hsame rh.rhwc rh.rhba _ rh.rhas rh.rhdc rh.rhspr rh.rhdb rh.rhmr rh.rhmr2) fun _ => ?_
    refine iteInduction (fun _ => iteInduction (fun _ => h) fun _ => hcs2) fun _ => ?_
    refine iteInduction (fun _ => hsame rh.rhwc rh.rhba rh.rhda _ rh.rhdc rh.rhspr rh.rhdb rh.rhmr rh.rhmr2) fun _ => ?_
    refine iteInduction (fun _ => hsame rh.rhwc rh.rhba rh.rhda rh.rhas _ rh.rhspr rh.rhdb rh.rhmr rh.rhmr2) fun _ => ?_
    refine iteInduction (fun _ => Synced.cs1BaExtSet
      (hsame rh.rhwc rh.rhba rh.rhda rh.rhas rh.rhdc _ rh.rhdb rh.rhmr rh.rhmr2) _) fun _ => ?_
    refine iteInduction (fun _ => hsame rh.rhwc rh.rhba rh.rhda rh.rhas rh.rhdc rh.rhspr _ rh.rhmr rh.rhmr2) fun _ => ?_
    refine iteInduction (fun _ => hsame rh.rhwc rh.rhba rh.rhda rh.rhas rh.rhdc rh.rhspr rh.rhdb _ rh.rhmr2) fun _ => ?_
    refine iteInduction (fun _ => iteInduction (fun _ => h) fun _ => synced_syncStatus _) fun _ => ?_
    exact iteInduction (fun _ => iteInduction (fun _ => h) fun _ => synced_syncStatus _) fun _ => h

theorem Synced.read8 {rh : Rh11} (h : rh.Synced) (addr : Word) : (rh.read8 addr).2 = rh := h

/-- The acknowledge shows in no register. -/
theorem Synced.irqAck {rh : Rh11} (h : rh.Synced) : rh.irqAck.Synced := by
  have hfields := synced_iff.1 h
  exact synced_iff.2 hfields

/-! ## Polls -/

section Polls

variable {δ : Type}

/-- A command that ended: the status is up to date, GO is clear and DONE was set. -/
structure Ended (l : IrqLatch) (rh : Rh11) : Prop where
  synced : rh.Synced
  go : rh.go = false
  latch : rh.l = l.eventSetDone

theorem finishCommand_ended {l : IrqLatch} {rh : Rh11} (h : rh.l = l) : Ended l rh.finishCommand :=
  ⟨synced_syncStatus _, finishCommand_go rh, congrArg IrqLatch.eventSetDone h⟩

/-- What a turn of a transfer leaves of the latch. -/
def KeepsLatch (l : IrqLatch) (t : Turn (RhXfer δ)) : Prop := t.Leaves (fun y => y.rh.l = l) fun y => y.rh.l = l

theorem RhXfer.advance_l {l : IrqLatch} {medium : Medium} {y : RhXfer δ} (h : y.rh.l = l) :
    KeepsLatch l (y.advance medium) := by
  unfold RhXfer.advance
  dsimp only
  split
  · split
    · exact h
    · split
      · exact h
      · exact h
  · split
    · exact h
    · split
      · exact h
      · exact h

theorem RhXfer.moveWord_l {l : IrqLatch} {map : Ubmap} {mode : RhXferMode} {medium : Medium} {x : RhXfer δ}
    {t : Turn (RhXfer δ)} (hx : x.rh.l = l) (h : x.moveWord map mode medium = some t) : KeepsLatch l t := by
  cases mode with
  | read =>
    obtain ⟨⟨ok, bus⟩, -, h⟩ := Option.bind_eq_some_iff.1 h
    cases ok with
    | true =>
      cases h
      exact RhXfer.advance_l hx
    | false =>
      cases h
      exact hx
  | write =>
    obtain ⟨⟨w, bus⟩, -, h⟩ := Option.bind_eq_some_iff.1 h
    cases w with
    | none =>
      cases h
      exact hx
    | some w =>
      cases h
      exact RhXfer.advance_l hx
  | wcheck =>
    obtain ⟨⟨memw, bus⟩, -, h⟩ := Option.bind_eq_some_iff.1 h
    cases memw with
    | none =>
      cases h
      exact hx
    | some memw =>
      cases h
      split
      · exact hx
      · exact RhXfer.advance_l hx

theorem RhXfer.step_l {l : IrqLatch} {map : Ubmap} {mode : RhXferMode} {medium : Medium} {x : RhXfer δ}
    {t : Turn (RhXfer δ)} (hx : x.rh.l = l) (h : x.step map mode medium = some t) : KeepsLatch l t := by
  unfold RhXfer.step at h
  split at h
  · cases h
    exact hx
  · split at h
    · cases h
      exact hx
    · next sec _ => exact RhXfer.moveWord_l (x := { x with sec := sec }) hx h

theorem RhXfer.loop_l {l : IrqLatch} {map : Ubmap} {mode : RhXferMode} {medium : Medium} {words : Nat}
    {x y : RhXfer δ} (hx : x.rh.l = l) (h : x.loop map mode medium words = some y) : y.rh.l = l :=
  turns_keeps (fun y : RhXfer δ => y.rh.l = l) (fun _ _ hy hbody => RhXfer.step_l hy hbody) hx h

theorem dmaExtSet_l (ext : Byte) (rh : Rh11) : (rh.dmaExtSet ext).l = rh.l := by
  unfold dmaExtSet
  cases rh.mode with
  | rh11 => exact cs1BaExtSet_l _ _
  | rh70 => exact cs1BaExtSet_l _ _

theorem endTransfer_ended (drive : BitVec 3) (medium : Medium) (x : RhXfer δ) :
    Ended x.rh.l (endTransfer drive medium x) := by
  unfold endTransfer
  dsimp only
  refine finishCommand_ended ?_
  rw [dmaExtSet_l]
  show (if _ then x.rh else _ : Rh11).l = x.rh.l
  split <;> rfl

theorem transfer_ended {map : Ubmap} {mode : RhXferMode} {rh : Rh11} {bus : Bus δ} (r : Rh11 × Bus δ)
    (h : rh.transfer map mode bus = some r) : Ended rh.l r.1 := by
  unfold transfer at h
  split at h
  · cases h
    exact finishCommand_ended rfl
  · split at h
    · cases h
      exact finishCommand_ended rfl
    · obtain ⟨x, hloop, h⟩ := Option.bind_eq_some_iff.1 h
      have hx : x.rh.l = rh.l := RhXfer.loop_l rfl hloop
      cases h
      rw [← hx]
      exact endTransfer_ended _ _ x

/-- A poll ends the command that is pending, and does nothing else. -/
theorem poll_cases {map : Ubmap} {rh : Rh11} {bus : Bus δ} (r : Rh11 × Bus δ) (h : rh.poll map bus = some r) :
    (rh.go = false ∧ r.1 = rh) ∨ (rh.go = true ∧ Ended rh.l r.1) := by
  by_cases hgo : rh.rhcs1 &&& rhcs1Go = 0
  · unfold poll at h
    rw [if_pos hgo] at h
    cases h
    exact Or.inl ⟨decide_eq_false fun hset => hset hgo, rfl⟩
  · refine Or.inr ⟨decide_eq_true hgo, ?_⟩
    let Ends : Option (Rh11 × Bus δ) → Prop := fun o => o = some r → Ended rh.l r.1
    have hfinished : ∀ rh' : Rh11, rh'.l = rh.l → Ends (some (rh'.finishCommand, bus)) := by
      intro rh' hl hr
      cases hr
      exact finishCommand_ended hl
    suffices hends : Ends (rh.poll map bus) from hends h
    unfold poll
    dsimp only
    rw [if_neg hgo]
    refine iteInduction (motive := Ends) (fun _ => hfinished _ rfl) fun _ => ?_
    refine iteInduction (motive := Ends) (fun _ => transfer_ended r) fun _ => ?_
    refine iteInduction (motive := Ends) (fun _ => transfer_ended r) fun _ => ?_
    exact iteInduction (motive := Ends) (fun _ => transfer_ended r) fun _ => hfinished _ rfl

end Polls

/-! ## The controller -/

/-- The status is up to date, and GO is set exactly while DONE is clear. -/
structure Matched (rh : Rh11) : Prop where
  synced : rh.Synced
  go : rh.go = !rh.l.done

theorem accepts_idle {rh : Rh11} {addr : Word} {b : Byte} (h : rh.accepts addr b = true) : rh.go = false := by
  unfold accepts at h
  cases hgo : rh.go with
  | false => rfl
  | true =>
    rw [hgo] at h
    simp at h

theorem Matched.write8 {rh : Rh11} (h : rh.Matched) (addr : Word) (b : Byte) : (rh.write8 addr b).Matched where
  synced := h.synced.write8 addr b
  go := by
    have hmatched := h.go
    rw [rh.write8_go, rh.write8_l]
    cases hlow : isCs1Low addr with
    | true =>
      unfold storeEffect
      rw [if_pos hlow, rh.clears_low b hlow]
      show _ = !(IrqLatch.doneIf _ (IrqLatch.clearIf _ _)).done
      rw [IrqLatch.doneIf_done, IrqLatch.clearIf_done, IrqLatch.raiseIf_done, IrqLatch.setIeTo_done]
      cases haccepts : rh.accepts addr b with
      | true =>
        have haborts : rh.aborts addr b = false := by
          unfold aborts
          rw [accepts_idle haccepts]
          simp
        rw [haborts, Bool.not_true, Bool.and_false]
        rfl
      | false =>
        rw [hmatched]
        cases rh.aborts addr b <;> cases rh.l.done <;> rfl
    | false =>
      obtain ⟨haccepts, haborts⟩ := rh.quiet_bytes b hlow
      rw [haccepts, haborts, rh.storeEffect_other b hlow]
      cases hclears : rh.clears addr b with
      | true =>
        rw [if_pos rfl]
        cases rh.go <;> rfl
      | false =>
        have hsame : (false || (rh.go && !false && !false)) = rh.go := by
          cases rh.go <;> rfl
        rw [hsame, if_neg (by decide)]
        split
        · exact hmatched
        · exact hmatched

def controller (δ : Type) : Controller Rh11 RhOrder (Ubmap × Bus δ) where
  write8 := Rh11.write8
  read8 := Rh11.read8
  irqAck := Rh11.irqAck
  poll rh around := (rh.poll around.1 around.2).map Prod.fst
  latch := Rh11.l
  go := Rh11.go
  order := Rh11.order
  accepts := Rh11.accepts

theorem rules (δ : Type) : CommandSession.Rules (controller δ) Matched disturbs where
  write_valid addr b _ h := h.write8 addr b
  accepts addr b rh _ := by
    show rh.accepts addr b = (!rh.go && (rh.write8 addr b).go)
    rw [rh.write8_go]
    cases hgo : rh.go with
    | false => simp
    | true =>
      cases ha : rh.accepts addr b with
      | false => rfl
      | true => exact absurd (hgo.symm.trans (accepts_idle ha)) (by decide)
  order addr b rh h hgo hpending := by
    have hmatched : rh.go = !rh.l.done := h.go
    have hgo' : rh.go = true := hgo
    rw [hgo'] at hmatched
    exact order_iff hgo (Bool.not_inj hmatched.symm) hpending
  pending addr b rh h hdis := by
    show rh.go = true ∧ (rh.write8 addr b).go = true
    unfold disturbs at hdis
    simp only [Bool.and_eq_true, Bool.or_eq_true, decide_eq_true_eq] at hdis
    obtain ⟨hgo, hbyte⟩ := hdis
    rw [rh.write8_go, hgo]
    rcases hbyte with ⟨⟨hlow, hquiet⟩, -⟩ | ⟨⟨hhigh, hquiet⟩, -⟩
    · have haborts : rh.aborts addr b = false := by
        unfold aborts
        rw [decide_eq_false fun h => h hquiet]
        simp
      rw [haborts, rh.clears_low b hlow]
      exact ⟨rfl, Bool.or_true _⟩
    · have hlow : isCs1Low addr = false :=
        Bool.eq_false_iff.2 fun hl => (isCs1High_iff.1 hhigh).2 (isCs1Low_iff.1 hl).2
      have hclears : rh.clears addr b = false := by
        unfold clears
        rw [decide_eq_false fun h => h hquiet, hgo]
        simp
      rw [(rh.quiet_bytes b hlow).2, hclears]
      exact ⟨rfl, Bool.or_true _⟩
  read_same addr _ h := h.synced.read8 addr
  ack_valid _ h := ⟨h.synced.irqAck, h.go⟩
  ack_go _ := rfl
  ack_order _ := rfl
  poll rh around rh' _ hsome := by
    obtain ⟨r, hpoll, rfl⟩ := Option.map_eq_some_iff.1 hsome
    rcases poll_cases r hpoll with ⟨hgo, hsame⟩ | ⟨hgo, hended⟩
    · exact Or.inl ⟨hgo, hsame⟩
    · refine Or.inr ⟨⟨hended.synced, ?_⟩, hended.go⟩
      rw [hended.go, hended.latch, IrqLatch.eventSetDone_done]
      rfl
  matched _ h := h.go

theorem matched_reset (rh : Rh11) : rh.reset.Matched :=
  ⟨synced_syncStatus _, rh.reset_go⟩

end Rh11

end K1801.Lsi11
