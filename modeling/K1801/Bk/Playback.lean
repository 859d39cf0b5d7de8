import K1801.Bk.Recording

/-! # Playing back a recording

A recording that is played on any board gives the levels that were recorded, a tick after the other. Only the strobe
at its end is not held.
-/

namespace K1801.Bk

open Core

theorem strobeLen_le (w : Word) : strobeLen w ≤ 32767 := by
  rw [strobeLen, BitVec.toNat_and]
  exact Nat.and_le_right

namespace TapeDeck

/-- The deck plays a recording, which has started at `start`. Behind the strobes that have been read there is at least
one more; the level is that of the strobe that was read last, and the ticks have gone beyond the strobes before it. -/
structure Plays (data : List Byte) (start : Nat) (deck : TapeDeck) : Prop where
  tapeIn : deck.tapeIn = data
  moving : deck.stopped = false
  position : ∃ done rest prev k, data = done ++ rest ∧ deck.inPos = done.length ∧ done.length % 2 = 0 ∧ rest.length % 2 = 0 ∧
    rest ≠ [] ∧ deck.readTicks = start + (tapeLevels done).length ∧
    (done = [] ∨ tapeLevels done = prev ++ List.replicate k deck.readVal ∧ start + prev.length < deck.ticks)

variable {data body : List Byte} {last : Byte × Byte} {start : Nat} {deck : TapeDeck}

theorem Plays.tick (h : deck.Plays data start) : deck.tick.Plays data start := by
  obtain ⟨done, rest, prev, k, hdata, hpos, heven, heven', hrest, hticks, hlevel⟩ := h.position
  exact ⟨h.tapeIn, h.moving, done, rest, prev, k, hdata, hpos, heven, heven', hrest, hticks,
    hlevel.imp_right fun hlast => ⟨hlast.1, Nat.lt_succ_of_lt hlast.2⟩⟩

/-- A read goes on to the strobe of the tick. -/
theorem Plays.advance (h : deck.Plays data start) (hdata : data = body ++ [last.1, last.2])
    (hticks : deck.ticks ≤ start + (tapeLevels body).length) :
    deck.advance.Plays data start ∧
      (start < deck.ticks → (tapeLevels data)[deck.ticks - start - 1]? = some deck.advance.readVal) := by
  obtain ⟨done, rest, prev, k, hsplit, hpos, heven, heven', hrest, hread, hlevel⟩ := h.position
  have htape := h.tapeIn
  have hmoving := h.moving
  clear h
  fun_induction TapeDeck.advance deck generalizing done rest prev k with
  | case1 deck hmore delta ih =>
    obtain ⟨c₁, rest, rfl⟩ := List.exists_cons_of_ne_nil hrest
    rw [List.length_cons] at heven'
    obtain ⟨c₂, rest, rfl⟩ := List.exists_cons_of_ne_nil (l := rest) (by rintro rfl; cases heven')
    rw [List.length_cons] at heven'
    have hdelta : delta = c₁.setWidth 16 <<< 8 ||| c₂.setWidth 16 := by
      dsimp only [delta]
      rw [htape, hsplit, hpos, List.getD_eq_getElem?_getD, List.getElem?_append_right (Nat.le_refl _), Nat.sub_self,
        List.getD_eq_getElem?_getD, List.getElem?_append_right (Nat.le_add_right _ 1),
        Nat.add_sub_cancel_left]
      rfl
    have hsplit' : data = (done ++ [c₁, c₂]) ++ rest := by
      rw [hsplit, List.append_assoc]
      rfl
    have hpair : tapeLevels [c₁, c₂] = List.replicate (strobeLen delta) (strobeVal delta) := by
      rw [hdelta]
      exact List.append_nil _
    have hlevels : tapeLevels (done ++ [c₁, c₂]) =
        tapeLevels done ++ List.replicate (strobeLen delta) (strobeVal delta) := by
      rw [tapeLevels_append heven, hpair]
    have hrest' : rest ≠ [] := by
      rintro rfl
      rw [List.append_nil, hdata] at hsplit'
      have hbody : body = done := (List.append_inj' hsplit' rfl).1
      have hlate := hmore.2
      rw [hread, ← hbody] at hlate
      omega
    have hlate := hmore.2
    rw [hread] at hlate
    exact ih hticks (done ++ [c₁, c₂]) rest (tapeLevels done) (strobeLen delta) hsplit'
      (by rw [List.length_append, hpos]; rfl) (by rw [List.length_append]; exact (Nat.add_mod_right _ 2).trans heven)
      (by omega) hrest' (by rw [hread, hlevels, List.length_append, List.length_replicate, Nat.add_assoc])
      (.inr ⟨hlevels, hlate⟩) htape hmoving
  | case2 deck hdone =>
    refine ⟨⟨htape, hmoving, done, rest, prev, k, hsplit, hpos, heven, heven', hrest, hread, hlevel⟩, fun hlate => ?_⟩
    have hmore : deck.inPos + 1 < deck.tapeIn.length := by
      have hlen : rest.length ≠ 0 := fun hzero => hrest (List.length_eq_zero_iff.1 hzero)
      rw [htape, hsplit, hpos, List.length_append]
      omega
    have hcovered : deck.ticks ≤ deck.readTicks := Nat.le_of_not_lt fun hlt => hdone ⟨hmore, hlt⟩
    rcases hlevel with rfl | ⟨hlast, hbefore⟩
    · rw [hread] at hcovered
      exact absurd hcovered (Nat.not_le.2 hlate)
    · rw [hread, hlast, List.length_append, List.length_replicate] at hcovered
      rw [hsplit, tapeLevels_append heven, hlast, List.append_assoc, List.getElem?_append_right (by omega),
        List.getElem?_append_left (by rw [List.length_replicate]; omega), List.getElem?_replicate, if_pos (by omega)]

theorem Plays.read (h : deck.Plays data start) : deck.read = deck.advance := by
  obtain ⟨done, rest, prev, k, hdata, hpos, heven, heven', hrest, -⟩ := h.position
  have hlen : rest.length ≠ 0 := fun hzero => hrest (List.length_eq_zero_iff.1 hzero)
  refine if_neg ?_
  rw [h.moving, h.tapeIn, hdata, hpos, List.length_append]
  rintro (hstopped | hend)
  · cases hstopped
  · omega

/-- Starting the motor starts a recording that is at its beginning. -/
theorem Plays.started {val : Bool} (hstopped : deck.stopped = true) (hin : deck.tapeIn = data) (hpos : deck.inPos = 0)
    (heven : data.length % 2 = 0) (hne : data ≠ []) :
    (deck.write true val).Plays data (deck.ticks + tapeRelayDelay) ∧
      (deck.write true val).ticks = deck.ticks + tapeRelayDelay := by
  have hrelay : deck.relay true = { deck with
      ticks := deck.ticks + tapeRelayDelay
      stopped := false
      readTicks := deck.ticks + tapeRelayDelay
      writeTicks := deck.ticks + tapeRelayDelay } := if_pos hstopped.symm
  have hframe (d : TapeDeck) (v : Bool) (n : Nat) : (d.outAppend v n).tapeIn = d.tapeIn ∧
      (d.outAppend v n).stopped = d.stopped ∧ (d.outAppend v n).inPos = d.inPos ∧
      (d.outAppend v n).readTicks = d.readTicks ∧ (d.outAppend v n).ticks = d.ticks := by
    unfold outAppend
    split <;> exact ⟨rfl, rfl, rfl, rfl, rfl⟩
  unfold TapeDeck.write
  rw [hrelay]
  dsimp only
  split
  · rw [outAppend_some]
    obtain ⟨h₁, h₂, h₃, h₄, h₅⟩ := hframe { deck with
      ticks := deck.ticks + tapeRelayDelay
      stopped := false
      readTicks := deck.ticks + tapeRelayDelay
      writeTicks := deck.ticks + tapeRelayDelay } deck.writeVal (deck.ticks + tapeRelayDelay - (deck.ticks + tapeRelayDelay))
    exact ⟨⟨h₁.trans hin, h₂, [], data, [], 0, rfl, h₃.trans hpos, rfl, heven, hne, h₄, .inl rfl⟩, h₅⟩
  · exact ⟨⟨hin, rfl, [], data, [], 0, rfl, hpos, rfl, heven, hne, rfl, .inl rfl⟩, rfl⟩

end TapeDeck

namespace BkBoard

/-- An event that puts nothing out through the port. -/
def Event.silent : Event → Bool
  | .storeByte offset _ => offset ≠ bkSysCtrl
  | .storeWord offset _ => offset ≠ bkSysCtrl && offset + 1 ≠ bkSysCtrl
  | _ => true

def Event.isTick : Event → Bool
  | .tick => true
  | _ => false

/-- A board that plays a recording, `n` ticks after its start: the level of the tick can be read from the port. -/
structure Plays (data : List Byte) (start n : Nat) (b : BkBoard) : Prop where
  deck : b.deck.Plays data start
  ticks : b.deck.ticks = start + n
  level : 0 < n → (tapeLevels data)[n - 1]? = some (b.sysPortIn.getLsbD 5)

variable {b b' : BkBoard} {data : List Byte} {start n : Nat}

/-- Nothing but a tick sets the bit of the tape. -/
structure SameLevel (b b' : BkBoard) : Prop where
  deck : b'.deck = b.deck
  bit : b'.sysPortIn.getLsbD 5 = b.sysPortIn.getLsbD 5

theorem SameLevel.trans {b'' : BkBoard} (h : SameLevel b b') (h' : SameLevel b' b'') : SameLevel b b'' :=
  ⟨h'.deck.trans h.deck, h'.bit.trans h.bit⟩

theorem Plays.same (h : b.Plays data start n) (hsame : SameLevel b b') : b'.Plays data start n := by
  obtain ⟨hdeck, hticks, hlevel⟩ := h
  rw [← hsame.deck] at hdeck hticks
  rw [← hsame.bit] at hlevel
  exact ⟨hdeck, hticks, hlevel⟩

theorem sameLevel_storeByte {offset : Word} (hoffset : offset ≠ bkSysCtrl) {value : Byte}
    (hstore : b.storeByte offset value = some b') : SameLevel b b' := by
  refine ⟨storeByte_deck hoffset hstore, ?_⟩
  have hne : offset.toNat ≠ 0o177716 := fun heq => hoffset (BitVec.eq_of_toNat_eq heq)
  unfold storeByte at hstore
  split at hstore
  all_goals first
    | (cases hstore; rfl)
    | contradiction
    | skip
  · cases hstore
    simp
  split at hstore
  · cases hstore
  · split at hstore
    · cases hstore
    · cases hstore
      rfl

theorem sameLevel_loadByte (b : BkBoard) (offset : Word) : SameLevel b (b.loadByte offset).2 := by
  refine ⟨loadByte_deck offset, ?_⟩
  unfold loadByte
  split
  all_goals first
    | rfl
    | (simp; done)
    | skip
  split
  · rfl
  · split
    · rfl
    · split <;> rfl

theorem sameLevel_loadWord (b : BkBoard) (offset : Word) : SameLevel b (b.loadWord offset).2 := by
  have hlow := sameLevel_loadByte b offset
  unfold loadWord
  split
  · rename_i b₁ hload
    rw [hload] at hlow
    exact hlow
  · rename_i lo b₁ hload
    rw [hload] at hlow
    have hhigh := sameLevel_loadByte b₁ (offset + 1)
    split
    · rename_i b₂ hload'
      rw [hload'] at hhigh
      exact hlow.trans hhigh
    · rename_i hi b₂ hload'
      rw [hload'] at hhigh
      exact hlow.trans hhigh

theorem sameLevel_storeWord {offset : Word} (hoffset : offset ≠ bkSysCtrl) (hnext : offset + 1 ≠ bkSysCtrl)
    (b : BkBoard) (value : Word) : SameLevel b (b.storeWord offset value).2 := by
  unfold storeWord
  split
  · exact ⟨rfl, rfl⟩
  · rename_i b₁ hstore
    have hlow := sameLevel_storeByte hoffset hstore
    split
    · exact hlow
    · rename_i b₂ hstore'
      exact hlow.trans (sameLevel_storeByte hnext hstore')

theorem Plays.tick {body : List Byte} {last : Byte × Byte} (h : b.Plays data start n)
    (hdata : data = body ++ [last.1, last.2]) (hbound : n + 1 ≤ (tapeLevels body).length) :
    b.tick.Plays data start (n + 1) := by
  have hplays := h.deck.tick
  have hticks : b.deck.tick.ticks = start + (n + 1) := congrArg Nat.succ h.ticks
  obtain ⟨hnext, hlevel⟩ := hplays.advance hdata (by rw [hticks]; omega)
  have hread : b.tick.deck = b.deck.tick.advance := hplays.read
  obtain ⟨_, _, _, hframe⟩ := b.deck.tick.advance_frame
  have hsame : b.deck.tick.advance.ticks = b.deck.tick.ticks := by rw [hframe]
  refine ⟨by rw [hread]; exact hnext, by rw [hread, hsame, hticks], fun _ => ?_⟩
  have hbit : b.tick.sysPortIn.getLsbD 5 = b.deck.tick.advance.readVal := by
    rw [← hread]
    unfold BkBoard.tick
    dsimp only
    cases b.deck.tick.read.readVal
    · rw [if_neg Bool.false_ne_true]
      simp
    · rw [if_pos rfl]
      simp
  rw [hbit, ← hlevel (by rw [hticks]; omega), hticks, Nat.add_sub_cancel_left]

theorem Plays.outputData (h : b.Plays data start n) : Plays data start n { b with deck := b.deck.outputData.2 } := by
  obtain ⟨⟨htape, hmoving, hposition⟩, hticks, hlevel⟩ := h
  unfold TapeDeck.outputData
  dsimp only
  split
  · unfold TapeDeck.outAppend
    split
    · exact ⟨⟨htape, hmoving, hposition⟩, hticks, hlevel⟩
    · exact ⟨⟨htape, hmoving, hposition⟩, hticks, hlevel⟩
  · exact ⟨⟨htape, hmoving, hposition⟩, hticks, hlevel⟩

theorem Plays.silent (h : b.Plays data start n) {ev : Event} (hsilent : ev.silent = true) (htick : ev.isTick = false) :
    (b.step ev).Plays data start n := by
  cases ev with
  | loadByte offset => exact h.same (sameLevel_loadByte b offset)
  | storeByte offset value =>
    have hoffset : offset ≠ bkSysCtrl := of_decide_eq_true hsilent
    rw [step]
    cases hstore : b.storeByte offset value with
    | none => exact h
    | some b' => exact h.same (sameLevel_storeByte hoffset hstore)
  | loadWord offset => exact h.same (sameLevel_loadWord b offset)
  | storeWord offset value =>
    obtain ⟨hoffset, hnext⟩ := Bool.and_eq_true_iff.1 hsilent
    exact h.same (sameLevel_storeWord (of_decide_eq_true hoffset) (of_decide_eq_true hnext) b value)
  | key code =>
    refine h.same ⟨?_, ?_⟩
    · unfold step handleKey
      dsimp only
      split <;> rfl
    · unfold step handleKey
      dsimp only
      split
      · rfl
      · simp
  | pollIrq =>
    refine h.same ⟨?_, ?_⟩
    · unfold step pollIrq
      dsimp only
      split <;> rfl
    · unfold step pollIrq
      dsimp only
      split <;> rfl
  | tick => cases htick
  | outputData => exact h.outputData

theorem Plays.run {body : List Byte} {last : Byte × Byte} (hdata : data = body ++ [last.1, last.2]) (evs : List Event)
    (hsilent : ∀ ev ∈ evs, ev.silent = true) (h : b.Plays data start n)
    (hbound : n + evs.countP Event.isTick ≤ (tapeLevels body).length) :
    (evs.foldl step b).Plays data start (n + evs.countP Event.isTick) := by
  induction evs generalizing b n with
  | nil => exact h
  | cons ev evs ih =>
    have hrest : ∀ ev ∈ evs, ev.silent = true := fun ev' hev => hsilent ev' (List.mem_cons_of_mem ev hev)
    cases htick : ev.isTick with
    | true =>
      rw [List.countP_cons_of_pos htick] at hbound ⊢
      cases ev with
      | tick =>
        have hnext := ih hrest (h.tick hdata (by omega)) (by omega)
        rw [show n + (evs.countP Event.isTick + 1) = n + 1 + evs.countP Event.isTick from by omega]
        exact hnext
      | _ => cases htick
    | false =>
      have hnot : ¬ Event.isTick ev = true := by
        rw [htick]
        exact Bool.false_ne_true
      rw [List.countP_cons_of_neg hnot] at hbound ⊢
      exact ih hrest (h.silent (hsilent ev List.mem_cons_self) htick) hbound

/-- A recording that is not empty has a last strobe. -/
theorem last_strobe {raw : List Byte} (heven : raw.length % 2 = 0) (hne : raw ≠ []) :
    ∃ (body : List Byte) (last : Byte × Byte), raw = body ++ [last.1, last.2] := by
  obtain ⟨front, y, rfl⟩ := (List.eq_nil_or_concat' raw).resolve_left hne
  rw [List.length_append] at heven
  obtain ⟨body, x, rfl⟩ := (List.eq_nil_or_concat' front).resolve_left (by rintro rfl; cases heven)
  exact ⟨body, (x, y), List.append_assoc body [x] [y]⟩

theorem Plays.storePort {value : Byte} (hmotor : value &&& 0o200 = 0) (hstopped : b.deck.stopped = true)
    (heven : data.length % 2 = 0) (hne : data ≠ []) :
    ((b.tapeSetInputRaw data).storePort value).Plays data (b.deck.ticks + tapeRelayDelay) 0 := by
  have hdeck := storePort_deck (b := b.tapeSetInputRaw data) value
  rw [decide_eq_true hmotor] at hdeck
  have hstill : (b.tapeSetInputRaw data).deck.stopped = true := hstopped
  obtain ⟨hplays, hticks⟩ : ((b.tapeSetInputRaw data).deck.write true (value &&& 0o100 ≠ 0)).Plays data
      (b.deck.ticks + tapeRelayDelay) ∧ ((b.tapeSetInputRaw data).deck.write true (value &&& 0o100 ≠ 0)).ticks =
        b.deck.ticks + tapeRelayDelay := TapeDeck.Plays.started hstill rfl rfl heven hne
  exact ⟨by rw [hdeck]; exact hplays, by rw [hdeck]; exact hticks, fun hpos => absurd hpos (Nat.lt_irrefl 0)⟩

/-- A recording that is made on one board and put in on another, whose program starts the motor and puts nothing else
out: after `n` ticks the port has the level of tick `n` of the recording. The last ticks, no more than a strobe can
hold, are left out. -/
theorem recording_plays_back (henabled : b.deck.outEnabled = true) (hstopped : b.deck.stopped = true)
    (hempty : b.deck.tapeOut = []) (evs : List Event) (player : BkBoard)
    (hplayer : player.deck.stopped = true) {value : Byte} (hmotor : value &&& 0o200 = 0) (evs' : List Event)
    (hsilent : ∀ ev ∈ evs', ev.silent = true) (hpos : 0 < evs'.countP Event.isTick)
    (hbound : evs'.countP Event.isTick + 32767 ≤ (evs.foldl (fun h ev => ev.heard h) b.silence).levels.length) :
    ∃ loaded, ((evs'.foldl step ((player.tapeSetInputRaw (evs.foldl step b).deck.outputData.1).storePort value)).loadByte
        bkSysCtrl).1 = some loaded ∧
      (evs.foldl (fun h ev => ev.heard h) b.silence).levels[evs'.countP Event.isTick - 1]? =
        some (loaded.getLsbD 5) := by
  obtain ⟨-, hlevels, heven⟩ := (run_heard evs (records_silence henabled hstopped hempty)).outputData
  rw [← hlevels] at hbound ⊢
  generalize (evs.foldl step b).deck.outputData.1 = raw at heven hbound ⊢
  obtain ⟨body, last, rfl⟩ := last_strobe heven (by
    rintro rfl
    exact absurd hbound (Nat.not_le.2 (Nat.lt_of_lt_of_le (Nat.zero_lt_succ 32766) (Nat.le_add_left _ _))))
  have hbody : body.length % 2 = 0 := by
    rw [List.length_append] at heven
    exact (Nat.add_mod_right _ 2).symm.trans heven
  have hlen := strobeLen_le (last.1.setWidth 16 <<< 8 ||| last.2.setWidth 16)
  have hlast : (tapeLevels [last.1, last.2]).length ≤ 32767 := by
    rw [tapeLevels, List.length_append, List.length_replicate]
    exact hlen
  have hbound' : 0 + evs'.countP Event.isTick ≤ (tapeLevels body).length := by
    rw [tapeLevels_append hbody, List.length_append] at hbound
    omega
  have hstart := Plays.storePort hmotor hplayer heven (List.append_ne_nil_of_right_ne_nil body (List.cons_ne_nil _ _))
  have hplays := Plays.run rfl evs' hsilent hstart hbound'
  rw [Nat.zero_add] at hplays
  refine ⟨_, rfl, ?_⟩
  rw [hplays.level hpos]
  simp

/-- The relay stops the motor four times, which makes forty thousand ticks. -/
theorem recording_plays_back_relay :
    ∃ loaded, (([Event.tick].foldl step ((initial.tapeSetInputRaw
        (([.storeByte bkSysCtrl 0, .storeByte bkSysCtrl 0o200, .storeByte bkSysCtrl 0, .storeByte bkSysCtrl 0o200,
          .storeByte bkSysCtrl 0, .storeByte bkSysCtrl 0o200, .storeByte bkSysCtrl 0,
          .storeByte bkSysCtrl 0o200] : List Event).foldl step
            (initial.tapeSetOutputEnabled true)).deck.outputData.1).storePort 0)).loadByte bkSysCtrl).1 =
      some loaded ∧ some false = some (loaded.getLsbD 5) :=
  recording_plays_back (b := initial.tapeSetOutputEnabled true) rfl rfl rfl _ initial rfl (by decide) [.tick]
    (by decide) (by decide) (by
      simp [Event.heard, BkBoard.heard, TapeHistory.port, silence, List.countP_cons, Event.isTick]
      decide)

end BkBoard

end K1801.Bk
