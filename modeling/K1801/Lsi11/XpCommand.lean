import K1801.Lsi11.CommandLatch
import K1801.Lsi11.XpLatch

/-! # The pending command of the XP

While a command is pending, the registers keep what it will do, but for the function: the low byte of XPCS1 still
replaces it. A poll carries the command out, clears GO and sets DONE.
-/

namespace K1801.Lsi11

open Core Library

namespace Xp

/-! ## The order of a pending command -/

theorem takeUae_busy (uae : Word) {xp : Xp} (hdone : xp.xpcs1 &&& xpcs1Done = 0) : xp.takeUae uae = xp := by
  unfold takeUae
  rw [if_neg fun h => h hdone]

theorem order_loadCs1 (v : Word) {xp : Xp} (hdone : xp.xpcs1 &&& xpcs1Done = 0) :
    (xp.loadCs1 v).order = { xp.order with fnc := v &&& xpcs1FncMask } := by
  have hfnc := loadCs1_fnc v xp
  have hbefore : xp.beforeFunction v = if v &&& 0o177400 &&& xpcs1Tre ≠ 0 then xp.clearErrors else xp := by
    unfold beforeFunction
    apply takeUae_busy
    split
    · exact hdone
    · exact hdone
  have hkept : (xp.beforeFunction v).order = xp.order := by
    rw [hbefore]
    split
    · exact order_clearErrors xp
    · rfl
  rw [← hkept, ← hfnc]
  rw [loadCs1_eq]
  rfl

theorem order_writeCs1High (b : Byte) {xp : Xp} (hdone : xp.xpcs1 &&& xpcs1Done = 0) :
    (xp.writeCs1High b).order = xp.order := by
  have hform : xp.writeCs1High b =
      ((if b.setWidth 16 <<< 8 &&& xpcs1Tre ≠ 0 then xp.clearErrors else xp).takeUae
        (b.setWidth 16 <<< 8 &&& xpcs1Uae)).syncStatus := rfl
  rw [hform, order_syncStatus]
  split
  · have hbusy : xp.clearErrors.xpcs1 &&& xpcs1Done = 0 := hdone
    rw [takeUae_busy _ hbusy]
    exact order_clearErrors xp
  · rw [takeUae_busy _ hdone]

/-- A byte that leaves the command pending changes at most its function. -/
theorem Synced.write8_order {xp : Xp} (h : xp.Synced) {addr : Word} (b : Byte) (hgo : xp.go = true)
    (hdone : xp.l.done = false) (hpending : (xp.write8 addr b).go = true) : (xp.write8 addr b).order =
      if isCs1Low addr then { xp.order with fnc := b.setWidth 16 &&& xpcs1FncMask } else xp.order := by
  have hbit : xp.xpcs1 &&& xpcs1Done = 0 := Decidable.not_not.1 fun hset => by
    rw [h.done.1 hset] at hdone
    exact absurd hdone (by decide)
  cases hlow : isCs1Low addr with
  | true =>
    obtain ⟨hbase, heven⟩ := isCs1Low_iff.1 hlow
    have hfnc := lowByte_bits xp.xpcs1 b (k := xpcs1FncMask) (by decide)
    rw [if_pos rfl, ← hfnc]
    rw [xp.write8_cs1 b hbase, if_neg fun h => h heven] at hpending ⊢
    revert hpending
    generalize (xp.xpcs1 &&& 0o177400) ||| b.setWidth 16 = v
    intro hpending
    rcases writeCs1_cases v xp with ⟨-, -, -, heq⟩ | ⟨-, hg, -⟩ | ⟨-, heq⟩ | ⟨-, hg, -⟩
    · rw [heq, finishCommand_go] at hpending
      exact absurd hpending (by decide)
    · exact absurd (hgo.symm.trans hg) (by decide)
    · rw [heq, order_syncStatus, order_loadCs1 v hbit]
    · exact absurd (hgo.symm.trans hg) (by decide)
  | false =>
    rw [if_neg (by decide)]
    by_cases hbase : addr &&& 0o177776 = xpcs1Reg
    · have hodd : addr &&& 1 ≠ 0 := fun heven => by
        rw [isCs1Low_iff.2 ⟨hbase, heven⟩] at hlow
        exact absurd hlow (by decide)
      rw [xp.write8_cs1 b hbase, if_pos hodd]
      exact order_writeCs1High b hbit
    · rcases h.write8_refused b hbase hgo with heq | heq
      · rw [heq]
      · rw [heq]
        exact order_setCs2Error xp (by decide) (by decide)

/-! ## The status stays up to date -/

theorem synced_writeCs1 (v : Word) (xp : Xp) : (xp.writeCs1 v).Synced := by
  rcases writeCs1_cases v xp with ⟨-, -, -, heq⟩ | ⟨-, -, -, xp', heq, -⟩ | ⟨-, heq⟩ | ⟨-, -, -, heq⟩
  · rw [heq]
    exact synced_syncStatus _
  · rw [heq]
    exact synced_syncStatus _
  · rw [heq]
    exact synced_syncStatus _
  · rw [heq]
    exact synced_syncStatus _

theorem synced_writeCs2 (v : Word) (xp : Xp) : (xp.writeCs2 v).Synced := by
  unfold writeCs2
  split
  · exact synced_syncStatus _
  · exact synced_syncStatus _

theorem Synced.write16 {xp : Xp} (h : xp.Synced) (addr v : Word) : (xp.write16 addr v).Synced := by
  have hsame : ∀ wc ba db, ({ xp with xpwc := wc, xpba := ba, xpdb := db } : Xp).Synced := fun wc ba db => by
    show ({ xp.syncStatus with xpwc := wc, xpba := ba, xpdb := db } : Xp) = _
    rw [h]
  have hdrive : ∀ f : XpDrive → XpDrive, (∀ a d, (f d).updateStatus a = f (d.updateStatus a)) →
      (∀ d, (f d).hasError = d.hasError) → (∀ d, (f d).xpds = d.xpds) → (xp.modify xp.selectedUnit f).Synced :=
    fun f hupdate herr hds => h.modify _ hupdate herr hds
  unfold Xp.write16
  dsimp only
  refine iteInduction (fun _ => synced_writeCs1 v xp) fun _ => ?_
  refine iteInduction (fun _ => hsame v xp.xpba xp.xpdb) fun _ => ?_
  refine iteInduction (fun _ => hsame xp.xpwc _ xp.xpdb) fun _ => ?_
  refine iteInduction (fun _ => hdrive _ (fun _ _ => rfl) (fun _ => rfl) fun _ => rfl) fun _ => ?_
  refine iteInduction (fun _ => synced_writeCs2 v xp) fun _ => ?_
  refine iteInduction (fun _ => synced_syncStatus _) fun _ => ?_
  refine iteInduction (fun _ => hsame xp.xpwc xp.xpba v) fun _ => ?_
  refine iteInduction (fun _ => hdrive _ (fun _ _ => rfl) (fun _ => rfl) fun _ => rfl) fun _ => ?_
  refine iteInduction (fun _ => hdrive _ (fun _ _ => rfl) (fun _ => rfl) fun _ => rfl) fun _ => ?_
  refine iteInduction (fun _ => hdrive _ (fun _ _ => rfl) (fun _ => rfl) fun _ => rfl) fun _ => ?_
  refine iteInduction (fun _ => synced_syncStatus _) fun _ => ?_
  exact iteInduction (fun _ => synced_syncStatus _) fun _ => h

theorem Synced.write8 {xp : Xp} (h : xp.Synced) (addr : Word) (b : Byte) : (xp.write8 addr b).Synced := by
  by_cases hbase : addr &&& 0o177776 = xpcs1Reg
  · rw [xp.write8_cs1 b hbase]
    split
    · exact synced_syncStatus _
    · exact synced_writeCs1 _ xp
  · cases hro : isReadOnly (addr &&& 0o177776) with
    | true =>
      rw [xp.write8_readOnly b hro]
      exact h
    | false =>
      rw [h.write8_other b hro hbase]
      split
      · exact synced_syncStatus _
      · split
        · exact h
        · exact h.write16 _ _

theorem Synced.read8 {xp : Xp} (h : xp.Synced) (addr : Word) : (xp.read8 addr).2 = xp := h.read16 _

/-- The acknowledge shows in no register. -/
theorem Synced.irqAck {xp : Xp} (h : xp.Synced) : xp.irqAck.Synced := by
  show ({ xp.syncStatus with l := xp.l.ack } : Xp) = _
  rw [h]
  rfl

/-! ## Polls -/

section Polls

variable {δ : Type}

/-- A command that ended: the status is up to date, GO is clear and DONE was set. -/
structure Ended (l : IrqLatch) (xp : Xp) : Prop where
  synced : xp.Synced
  go : xp.go = false
  latch : xp.l = l.eventSetDone

theorem finishCommand_ended {l : IrqLatch} {xp : Xp} (h : xp.l = l) : Ended l xp.finishCommand :=
  ⟨synced_syncStatus _, finishCommand_go xp, congrArg IrqLatch.eventSetDone h⟩

/-- What a turn of a transfer leaves of the latch. -/
def KeepsLatch (l : IrqLatch) (t : Turn (XpXfer δ)) : Prop :=
  t.Leaves (fun y => y.xp.l = l) fun y => y.xp.l = l

theorem XpXfer.advance_l {l : IrqLatch} {y : XpXfer δ} (h : y.xp.l = l) : KeepsLatch l y.advance := by
  unfold XpXfer.advance
  dsimp only
  split
  · exact h
  · exact h

theorem XpXfer.moveWord_l {l : IrqLatch} {fnc : Word} {x : XpXfer δ} {t : Turn (XpXfer δ)} (hx : x.xp.l = l)
    (h : x.moveWord fnc = some t) : KeepsLatch l t := by
  unfold XpXfer.moveWord at h
  dsimp only at h
  split at h
  · obtain ⟨⟨ok, bus⟩, -, h⟩ := Option.bind_eq_some_iff.1 h
    cases ok with
    | true =>
      cases h
      exact XpXfer.advance_l hx
    | false =>
      cases h
      exact hx
  · split at h
    · obtain ⟨⟨w, bus⟩, -, h⟩ := Option.bind_eq_some_iff.1 h
      cases w with
      | none =>
        cases h
        exact hx
      | some w =>
        cases h
        exact XpXfer.advance_l hx
    · obtain ⟨⟨w, bus⟩, -, h⟩ := Option.bind_eq_some_iff.1 h
      cases w with
      | none =>
        cases h
        exact hx
      | some w =>
        dsimp only at h
        split at h
        · cases h
          exact hx
        · cases h
          exact XpXfer.advance_l hx

theorem XpXfer.step_l {l : IrqLatch} {medium : Medium} {fnc : Word} {start : Nat} {x : XpXfer δ}
    {t : Turn (XpXfer δ)} (hx : x.xp.l = l) (h : x.step medium fnc start = some t) : KeepsLatch l t := by
  unfold XpXfer.step at h
  split at h
  · cases h
    exact hx
  · next sec _ => exact XpXfer.moveWord_l (x := { x with sec := sec }) hx h

theorem XpXfer.loop_l {l : IrqLatch} {medium : Medium} {fnc : Word} {start words : Nat} {x y : XpXfer δ}
    (hx : x.xp.l = l) (h : x.loop medium fnc start words = some y) : y.xp.l = l :=
  turns_keeps (fun y : XpXfer δ => y.xp.l = l) (fun _ _ hy hbody => XpXfer.step_l hy hbody) hx h

theorem endTransfer_ended (unit : BitVec 3) (medium : Medium) (start : Nat) (x : XpXfer δ) :
    Ended x.xp.l (endTransfer unit medium start x) := by
  refine ⟨synced_syncStatus _, finishCommand_go _, ?_⟩
  unfold endTransfer
  dsimp only
  rw [finishCommand_l]
  congr 1
  split
  · show (if _ then x.xp else _ : Xp).l = x.xp.l
    split <;> rfl
  · show (if _ then x.xp else _ : Xp).l = x.xp.l
    split <;> rfl

theorem transferWords_ended {l : IrqLatch} {fnc : Word} {unit : BitVec 3} {image : DiskImage} {start words : Nat}
    {xp xp' : Xp} {bus bus' : Bus δ} (h : xp.transferWords fnc unit image start words bus = some (xp', bus'))
    (hl : xp.l = l) : Ended l xp' := by
  unfold transferWords at h
  split at h
  · cases h
    exact finishCommand_ended hl
  · obtain ⟨x, hloop, h⟩ := Option.bind_eq_some_iff.1 h
    cases h
    rw [← XpXfer.loop_l hl hloop]
    exact endTransfer_ended _ _ _ x

theorem transfer_ended {fnc : Word} {xp xp' : Xp} {bus bus' : Bus δ} (h : xp.transfer fnc bus = some (xp', bus')) :
    Ended xp.l xp' := by
  unfold transfer at h
  dsimp only at h
  split at h
  · cases h
    exact finishCommand_ended rfl
  · split at h
    · cases h
      exact finishCommand_ended rfl
    · split at h
      · cases h
        exact finishCommand_ended rfl
      · split at h
        · cases h
          exact finishCommand_ended rfl
        · split at h
          · exact transferWords_ended h rfl
          · exact transferWords_ended h rfl

theorem startCommand_ended (xp : Xp) (bus : Bus δ) (r : Xp × Bus δ) : xp.startCommand bus = some r → Ended xp.l r.1 := by
  have hfinished : ∀ xp' : Xp, xp'.l = xp.l → some (xp'.finishCommand, bus) = some r → Ended xp.l r.1 := by
    intro xp' hl hr
    cases hr
    exact finishCommand_ended hl
  have hseek : ∀ {c : Prop} [Decidable c] (xp' : Xp), xp'.l = xp.l → (if c then xp' else xp).l = xp.l := by
    intro c _ xp' hl
    split
    · exact hl
    · rfl
  let Ends : Option (Xp × Bus δ) → Prop := fun o => o = some r → Ended xp.l r.1
  show Ends (xp.startCommand bus)
  unfold startCommand
  dsimp only
  refine iteInduction (motive := Ends) (fun _ => hfinished _ rfl) fun _ => ?_
  refine iteInduction (motive := Ends) (fun _ => hfinished _ rfl) fun _ => ?_
  refine iteInduction (motive := Ends) (fun _ => hfinished _ rfl) fun _ => ?_
  refine iteInduction (motive := Ends) (fun _ => hfinished _ rfl) fun _ => ?_
  refine iteInduction (motive := Ends) (fun _ => hfinished _ rfl) fun _ => ?_
  refine iteInduction (motive := Ends) (fun _ => hfinished _ (hseek _ rfl)) fun _ => ?_
  exact iteInduction (motive := Ends) (fun _ => fun hr => transfer_ended hr) fun _ => hfinished _ rfl

/-- A poll ends the command that is pending, and does nothing else. -/
theorem poll_cases {xp xp' : Xp} {bus bus' : Bus δ} (h : xp.poll bus = some (xp', bus')) :
    (xp.go = false ∧ xp' = xp) ∨ (xp.go = true ∧ Ended xp.l xp') := by
  unfold poll at h
  split at h
  · next hclear =>
    cases h
    exact Or.inl ⟨decide_eq_false fun hset => hset hclear, rfl⟩
  · next hset => exact Or.inr ⟨decide_eq_true hset, startCommand_ended xp bus _ h⟩

end Polls

/-! ## The controller -/

/-- The status is up to date, and GO is set exactly while DONE is clear. -/
structure Matched (xp : Xp) : Prop where
  synced : xp.Synced
  go : xp.go = !xp.l.done

theorem accepts_idle {xp : Xp} {addr : Word} {b : Byte} (h : xp.accepts addr b = true) : xp.go = false := by
  unfold accepts at h
  cases hgo : xp.go with
  | false => rfl
  | true =>
    rw [hgo] at h
    simp at h

theorem Matched.write8 {xp : Xp} (h : xp.Matched) (addr : Word) (b : Byte) : (xp.write8 addr b).Matched where
  synced := h.synced.write8 addr b
  go := by
    have hmatched := h.go
    rw [h.synced.write8_go, h.synced.write8_l]
    unfold storeEffect
    split
    · show _ = !(IrqLatch.doneIf _ (IrqLatch.clearIf _ _)).done
      rw [IrqLatch.doneIf_done, IrqLatch.clearIf_done, IrqLatch.raiseIf_done, IrqLatch.setIeTo_done]
      cases haccepts : xp.accepts addr b with
      | true =>
        have hidle := accepts_idle haccepts
        have haborts : xp.aborts addr b = false := by
          unfold aborts
          rw [hidle]
          simp
        rw [haborts, Bool.not_true, Bool.and_false]
        rfl
      | false =>
        rw [hmatched]
        cases xp.aborts addr b <;> cases xp.l.done <;> rfl
    · next hlow =>
      have hlow' : isCs1Low addr = false := Bool.eq_false_iff.2 hlow
      have hkeep : (xp.accepts addr b || (xp.go && !xp.aborts addr b)) = xp.go := by
        unfold accepts aborts
        rw [hlow']
        simp
      rw [hkeep]
      split
      · next hclears =>
        have hidle : xp.go = false := by
          unfold clears at hclears
          cases hgo : xp.go with
          | false => rfl
          | true =>
            rw [hgo] at hclears
            simp at hclears
        rw [hidle]
        rfl
      · split
        · exact hmatched
        · exact hmatched

/-- The low byte of XPCS1 puts another function under a pending command. -/
def disturbs (addr : Word) (b : Byte) (xp : Xp) : Bool :=
  xp.go && isCs1Low addr && b.setWidth 16 &&& xpcs1Go = 0 && b.setWidth 16 &&& xpcs1FncMask ≠ xp.xpcs1 &&& xpcs1FncMask

theorem Matched.order_iff {xp : Xp} (h : xp.Matched) {addr : Word} {b : Byte} (hgo : xp.go = true)
    (hpending : (xp.write8 addr b).go = true) :
    (xp.write8 addr b).order = xp.order ↔ xp.disturbs addr b = false := by
  have hdone : xp.l.done = false := by
    have hmatched := h.go
    rw [hgo] at hmatched
    exact Bool.not_inj hmatched.symm
  have horder := h.synced.write8_order b hgo hdone hpending
  unfold disturbs
  rw [horder, hgo]
  cases hlow : isCs1Low addr with
  | false => simp
  | true =>
    have hquiet : b.setWidth 16 &&& xpcs1Go = 0 := by
      have hgo' := h.synced.write8_go addr b
      rw [hpending] at hgo'
      by_cases hb : b.setWidth 16 &&& xpcs1Go = 0
      · exact hb
      · have haborts : xp.aborts addr b = true := by
          unfold aborts
          rw [hlow, hgo, hdone, decide_eq_true hb]
          rfl
        have haccepts : xp.accepts addr b = false := by
          cases ha : xp.accepts addr b with
          | false => rfl
          | true => exact absurd (hgo.symm.trans (accepts_idle ha)) (by decide)
        rw [haccepts, haborts, hgo] at hgo'
        exact absurd hgo' (by decide)
    rw [if_pos rfl, decide_eq_true hquiet]
    by_cases hfnc : b.setWidth 16 &&& xpcs1FncMask = xp.xpcs1 &&& xpcs1FncMask
    · rw [decide_eq_false fun h => h hfnc, hfnc]
      exact iff_of_true rfl rfl
    · rw [decide_eq_true hfnc]
      exact iff_of_false (fun heq => hfnc (congrArg XpOrder.fnc heq)) (by decide)

def controller (δ : Type) : Controller Xp XpOrder (Bus δ) where
  write8 := Xp.write8
  read8 := Xp.read8
  irqAck := Xp.irqAck
  poll xp bus := (xp.poll bus).map Prod.fst
  latch := Xp.l
  go := Xp.go
  order := Xp.order
  accepts := Xp.accepts

theorem rules (δ : Type) : CommandSession.Rules (controller δ) Matched disturbs where
  write_valid addr b _ h := h.write8 addr b
  accepts addr b xp h := by
    show xp.accepts addr b = (!xp.go && (xp.write8 addr b).go)
    rw [h.synced.write8_go]
    cases hgo : xp.go with
    | false => simp
    | true =>
      cases ha : xp.accepts addr b with
      | false => rfl
      | true => exact absurd (hgo.symm.trans (accepts_idle ha)) (by decide)
  order _ _ _ h hgo hpending := h.order_iff hgo hpending
  pending addr b xp h hdis := by
    show xp.go = true ∧ (xp.write8 addr b).go = true
    unfold disturbs at hdis
    simp only [Bool.and_eq_true, decide_eq_true_eq] at hdis
    obtain ⟨⟨⟨hgo, -⟩, hquiet⟩, -⟩ := hdis
    have haborts : xp.aborts addr b = false := by
      unfold aborts
      rw [decide_eq_false fun h => h hquiet]
      simp
    rw [h.synced.write8_go, hgo, haborts]
    exact ⟨rfl, Bool.or_true _⟩
  read_same addr _ h := h.synced.read8 addr
  ack_valid _ h := ⟨h.synced.irqAck, h.go⟩
  ack_go _ := rfl
  ack_order _ := rfl
  poll xp bus xp' _ hsome := by
    obtain ⟨⟨_, bus'⟩, hpoll, rfl⟩ := Option.map_eq_some_iff.1 hsome
    rcases poll_cases hpoll with ⟨hgo, hsame⟩ | ⟨hgo, hended⟩
    · exact Or.inl ⟨hgo, hsame⟩
    · refine Or.inr ⟨⟨hended.synced, ?_⟩, hended.go⟩
      rw [hended.go, hended.latch, IrqLatch.eventSetDone_done]
      rfl
  matched _ h := h.go

theorem matched_reset (xp : Xp) : xp.reset.Matched := by
  refine ⟨synced_syncStatus _, ?_⟩
  show Xp.go (Xp.syncStatus _) = !(IrqLatch.reset.eventSetDone).done
  rw [go_syncStatus]
  show decide ((0 : Word) &&& xpcs1Go ≠ 0) = !(IrqLatch.reset.eventSetDone).done
  decide

end Xp

end K1801.Lsi11
