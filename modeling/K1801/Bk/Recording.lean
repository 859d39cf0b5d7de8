import K1801.Bk.Board
import K1801.Bk.TapeFormat

/-! # Recordings of the BK-0010

What a program puts out through the port is recorded tick by tick, and a recording is played back tick by tick,
whenever the level is asked for.
-/

namespace K1801.Bk

open Core

/-! ## The levels of a recording -/

/-- The level of every tick of a recording. -/
def tapeLevels : List Byte → List Bool
  | b₁ :: b₂ :: data =>
    List.replicate (strobeLen (b₁.setWidth 16 <<< 8 ||| b₂.setWidth 16))
      (strobeVal (b₁.setWidth 16 <<< 8 ||| b₂.setWidth 16)) ++ tapeLevels data
  | _ => []

theorem tapeLevels_strobe (val : Bool) {n : Nat} (h : n ≤ 32767) (data : List Byte) :
    tapeLevels (tapeStrobe val n ++ data) = List.replicate n val ++ tapeLevels data := by
  have hword := congrArg Prod.fst (Option.some.inj (tapeRawNextWord_bytes val h data 0))
  dsimp only [tapeStrobe, List.cons_append, List.nil_append] at hword ⊢
  rw [tapeLevels, hword, strobeLen_ofNat val h, strobeVal_ofNat val h]

theorem tapeLevels_append {xs : List Byte} (h : xs.length % 2 = 0) (ys : List Byte) :
    tapeLevels (xs ++ ys) = tapeLevels xs ++ tapeLevels ys := by
  induction xs using tapeLevels.induct with
  | case1 b₁ b₂ data ih =>
    rw [List.length_cons, List.length_cons] at h
    rw [List.cons_append, List.cons_append, tapeLevels, tapeLevels, ih (by omega), List.append_assoc]
  | case2 xs hshort =>
    rcases xs with _ | ⟨b₁, _ | ⟨b₂, data⟩⟩
    · rfl
    · rw [List.length_singleton] at h
      cases h
    · exact absurd rfl (hshort _ _ _)

theorem tapeAppend_even (val : Bool) (duration : Nat) : (tapeAppend val duration).length % 2 = 0 := by
  fun_induction tapeAppend val duration with
  | case1 => rfl
  | case2 duration hpos chunk ih =>
    rw [List.length_append, show (tapeStrobe val chunk).length = 2 from rfl]
    omega

theorem tapeLevels_tapeAppend (val : Bool) (duration : Nat) :
    tapeLevels (tapeAppend val duration) = List.replicate duration val := by
  fun_induction tapeAppend val duration with
  | case1 => rfl
  | case2 duration hpos chunk ih =>
    rw [tapeLevels_strobe val (Nat.min_le_right duration 32767), ih, ← List.replicate_add]
    congr 1
    omega

/-! ## Recording -/

/-- What there is to hear at the output of the deck. -/
structure TapeHistory where
  level : Bool
  moving : Bool
  levels : List Bool

namespace TapeHistory

def tick (h : TapeHistory) : TapeHistory := if h.moving then { h with levels := h.levels ++ [h.level] } else h

/-- The motor and the level that the program has put out; the relay takes its time to stop the motor. -/
def port (motorOn val : Bool) (h : TapeHistory) : TapeHistory :=
  let h :=
    if motorOn = h.moving then h
    else if motorOn then { h with moving := true }
    else { h with moving := false, levels := h.levels ++ List.replicate tapeRelayDelay h.level }
  if h.moving then { h with level := val } else h

end TapeHistory

/-- The deck has recorded the history, as far as the level has not been held since. -/
structure TapeDeck.Records (deck : TapeDeck) (h : TapeHistory) : Prop where
  enabled : deck.outEnabled = true
  level : deck.writeVal = h.level
  moving : deck.stopped = !h.moving
  even : deck.tapeOut.length % 2 = 0
  order : h.moving = true → deck.writeTicks ≤ deck.ticks
  levels : h.levels = tapeLevels deck.tapeOut ++
    if h.moving then List.replicate (deck.ticks - deck.writeTicks) deck.writeVal else []

namespace TapeDeck

variable {deck : TapeDeck} {h : TapeHistory}

theorem outAppend_enabled (henabled : deck.outEnabled = true) (val : Bool) (duration : Nat) :
    deck.outAppend val duration = { deck with tapeOut := deck.tapeOut ++ tapeAppend val duration } := if_pos henabled

/-- A level of no length is not recorded. -/
theorem outAppend_some (val : Bool) (duration : Nat) :
    (if duration ≠ 0 then deck.outAppend val duration else deck) = deck.outAppend val duration := by
  by_cases hzero : duration = 0
  · have hnone : tapeAppend val 0 = [] := by rw [tapeAppend, dif_pos rfl]
    rw [if_neg (fun hne => hne hzero), hzero, outAppend, hnone, List.append_nil, ite_self]
  · rw [if_pos hzero]

theorem Records.wait {level : Bool} {levels : List Bool} (hrec : deck.Records ⟨level, true, levels⟩) (n : Nat) :
    Records { deck with ticks := deck.ticks + n } ⟨level, true, levels ++ List.replicate n level⟩ := by
  have hlevel : deck.writeVal = level := hrec.level
  have hheld : deck.ticks + n - deck.writeTicks = deck.ticks - deck.writeTicks + n := Nat.sub_add_comm (hrec.order rfl)
  have hlast : List.replicate (deck.ticks + n - deck.writeTicks) deck.writeVal =
      List.replicate (deck.ticks - deck.writeTicks) deck.writeVal ++ List.replicate n level := by
    rw [hheld, List.replicate_add, hlevel]
  exact ⟨hrec.enabled, hlevel, hrec.moving, hrec.even, fun _ => Nat.le_add_right_of_le (hrec.order rfl),
    (congrArg (· ++ List.replicate n level) hrec.levels).trans ((List.append_assoc _ _ _).trans
      (congrArg (tapeLevels deck.tapeOut ++ ·) hlast.symm))⟩

theorem Records.tick (hrec : deck.Records h) : deck.tick.Records h.tick := by
  obtain ⟨level, moving, levels⟩ := h
  cases moving with
  | false => exact ⟨hrec.enabled, hrec.level, hrec.moving, hrec.even, (fun hm => by cases hm), hrec.levels⟩
  | true => exact hrec.wait 1

/-- The strobes of the level that has been held so far. -/
theorem Records.flush {level : Bool} {levels : List Bool} (hrec : deck.Records ⟨level, true, levels⟩) :
    (tapeLevels (deck.tapeOut ++ tapeAppend deck.writeVal (deck.ticks - deck.writeTicks)) = levels) ∧
      (deck.tapeOut ++ tapeAppend deck.writeVal (deck.ticks - deck.writeTicks)).length % 2 = 0 := by
  have heven := hrec.even
  have hlast := tapeAppend_even deck.writeVal (deck.ticks - deck.writeTicks)
  refine ⟨?_, by rw [List.length_append]; omega⟩
  rw [tapeLevels_append heven, tapeLevels_tapeAppend]
  exact hrec.levels.symm

theorem Records.relay (hrec : deck.Records h) (motorOn : Bool) :
    (deck.relay motorOn).Records
      (if motorOn = h.moving then h
      else if motorOn then { h with moving := true }
      else { h with moving := false, levels := h.levels ++ List.replicate tapeRelayDelay h.level }) := by
  obtain ⟨level, moving, levels⟩ := h
  have hmoving : deck.stopped = !moving := hrec.moving
  unfold TapeDeck.relay
  dsimp only
  by_cases hsame : motorOn = moving
  · rw [if_pos hsame, if_neg (by rw [hmoving, hsame]; exact (Bool.not_ne_self moving).symm)]
    exact hrec
  · have hother : motorOn = deck.stopped := by
      rw [hmoving]
      exact Bool.eq_not.2 hsame
    rw [if_neg hsame, if_pos hother]
    cases motorOn with
    | true =>
      refine ⟨hrec.enabled, hrec.level, rfl, hrec.even, fun _ => Nat.le_refl _, ?_⟩
      have hstill : moving = false := by
        cases moving with
        | false => rfl
        | true => exact absurd rfl hsame
      subst hstill
      refine hrec.levels.trans ?_
      rw [if_neg Bool.false_ne_true, if_pos rfl, if_pos rfl, if_pos rfl]
      dsimp only
      rw [Nat.sub_self, List.replicate_zero]
    | false =>
      have hmoves : moving = true := by
        cases moving with
        | true => rfl
        | false => exact absurd rfl hsame
      subst hmoves
      obtain ⟨hlevels, heven⟩ := (hrec.wait tapeRelayDelay).flush
      simp only [outAppend, hrec.enabled, if_true, if_neg Bool.false_ne_true]
      exact ⟨rfl, hrec.level, rfl, heven, fun _ => Nat.le_refl _, hlevels.symm.trans (List.append_nil _).symm⟩

theorem Records.write (hrec : deck.Records h) (motorOn val : Bool) : (deck.write motorOn val).Records (h.port motorOn val) := by
  have hrelay := hrec.relay motorOn
  unfold TapeDeck.write TapeHistory.port
  revert hrelay
  generalize deck.relay motorOn = deck'
  generalize (if motorOn = h.moving then h else if motorOn = true then { h with moving := true }
    else { h with moving := false, levels := h.levels ++ List.replicate tapeRelayDelay h.level }) = h'
  intro hrelay
  obtain ⟨level, moving, levels⟩ := h'
  have hlevel : deck'.writeVal = level := hrelay.level
  cases moving with
  | false =>
    have hstopped : deck'.stopped = true := hrelay.moving
    rw [if_neg (by rw [hstopped]; rintro ⟨hfalse, -⟩; cases hfalse)]
    exact hrelay
  | true =>
    have hstopped : deck'.stopped = false := hrelay.moving
    by_cases hsame : val = deck'.writeVal
    · rw [if_neg (fun hboth => hboth.2 hsame), if_pos rfl]
      rw [hsame, hlevel]
      exact hrelay
    · obtain ⟨hlevels, heven⟩ := hrelay.flush
      rw [if_pos ⟨by rw [hstopped]; rfl, hsame⟩, if_pos rfl]
      dsimp only
      rw [outAppend_some, outAppend_enabled hrelay.enabled]
      refine ⟨hrelay.enabled, rfl, hrelay.moving, heven, fun _ => Nat.le_refl _, ?_⟩
      dsimp only
      rw [hlevels, if_pos rfl, Nat.sub_self, List.replicate_zero, List.append_nil]

theorem advance_frame (deck : TapeDeck) : ∃ readVal readTicks inPos,
    deck.advance = { deck with readVal := readVal, readTicks := readTicks, inPos := inPos } := by
  fun_induction advance deck with
  | case1 deck hmore delta ih =>
    obtain ⟨readVal, readTicks, inPos, heq⟩ := ih
    exact ⟨readVal, readTicks, inPos, heq⟩
  | case2 deck hdone => exact ⟨_, _, _, rfl⟩

theorem Records.read (hrec : deck.Records h) : deck.read.Records h := by
  unfold TapeDeck.read
  split
  · exact ⟨hrec.enabled, hrec.level, hrec.moving, hrec.even, hrec.order, hrec.levels⟩
  · obtain ⟨readVal, readTicks, inPos, heq⟩ := deck.advance_frame
    rw [heq]
    exact ⟨hrec.enabled, hrec.level, hrec.moving, hrec.even, hrec.order, hrec.levels⟩

/-- Asking for the recording completes it. -/
theorem Records.outputData (hrec : deck.Records h) :
    deck.outputData.2.Records h ∧ tapeLevels deck.outputData.1 = h.levels ∧ deck.outputData.1.length % 2 = 0 := by
  obtain ⟨level, moving, levels⟩ := h
  unfold TapeDeck.outputData
  dsimp only
  cases moving with
  | false =>
    have hstopped : deck.stopped = true := hrec.moving
    rw [if_neg (by rw [hstopped]; rintro ⟨-, hfalse, -⟩; cases hfalse)]
    exact ⟨hrec, (hrec.levels.trans (List.append_nil _)).symm, hrec.even⟩
  | true =>
    have hstopped : deck.stopped = false := hrec.moving
    obtain ⟨hlevels, heven⟩ := hrec.flush
    by_cases hzero : deck.ticks - deck.writeTicks = 0
    · have hnone : tapeAppend deck.writeVal 0 = [] := by rw [tapeAppend, dif_pos rfl]
      rw [hzero, hnone, List.append_nil] at hlevels
      rw [if_neg fun hall => hall.2.2 hzero]
      exact ⟨hrec, hlevels, hrec.even⟩
    · rw [if_pos ⟨hrec.enabled, by rw [hstopped]; rfl, hzero⟩, outAppend_enabled hrec.enabled]
      refine ⟨⟨hrec.enabled, hrec.level, hrec.moving, heven, fun _ => Nat.le_refl _, ?_⟩, hlevels, heven⟩
      dsimp only
      rw [hlevels, if_pos rfl, Nat.sub_self, List.replicate_zero, List.append_nil]

end TapeDeck

/-! ## The port -/

namespace BkBoard

/-- What a store of a byte gives to hear. -/
def heard (offset : Word) (value : Byte) (h : TapeHistory) : TapeHistory :=
  if offset = bkSysCtrl then h.port (value &&& 0o200 = 0) (value &&& 0o100 ≠ 0) else h

/-- What an event gives to hear. -/
def Event.heard : Event → TapeHistory → TapeHistory
  | .storeByte offset value, h => BkBoard.heard offset value h
  | .storeWord offset value, h =>
    BkBoard.heard (offset + 1) ((value >>> 8).setWidth 8) (BkBoard.heard offset (value.setWidth 8) h)
  | .tick, h => h.tick
  | _, h => h

variable {b : BkBoard} {h : TapeHistory}

theorem storePort_deck (value : Byte) :
    (b.storePort value).deck = b.deck.write (value &&& 0o200 = 0) (value &&& 0o100 ≠ 0) := by
  have hmask : (value &&& 0o360) &&& 0o200 = value &&& 0o200 := BitVec.and_assoc value 0o360 0o200
  unfold storePort tapeMotorOn
  dsimp only
  rw [hmask]

theorem storeByte_deck {offset : Word} (hoffset : offset ≠ bkSysCtrl) {value : Byte} {b' : BkBoard}
    (hstore : b.storeByte offset value = some b') : b'.deck = b.deck := by
  have hne : offset.toNat ≠ 0o177716 := fun heq => hoffset (BitVec.eq_of_toNat_eq heq)
  unfold storeByte at hstore
  split at hstore
  all_goals first
    | (cases hstore; rfl)
    | contradiction
    | skip
  split at hstore
  · cases hstore
  · split at hstore
    · cases hstore
    · cases hstore
      rfl

theorem storeByte_heard (hrec : b.deck.Records h) (offset : Word) (value : Byte) :
    ((b.storeByte offset value).getD b).deck.Records (heard offset value h) := by
  unfold heard
  by_cases hport : offset = bkSysCtrl
  · subst hport
    rw [if_pos rfl, show b.storeByte bkSysCtrl value = some (b.storePort value) from rfl, Option.getD_some, storePort_deck]
    exact hrec.write _ _
  · rw [if_neg hport]
    cases hstore : b.storeByte offset value with
    | none => exact hrec
    | some b' =>
      rw [Option.getD_some, storeByte_deck hport hstore]
      exact hrec

theorem storeWord_heard (hrec : b.deck.Records h) (offset value : Word) :
    (b.storeWord offset value).2.deck.Records
      (heard (offset + 1) ((value >>> 8).setWidth 8) (heard offset (value.setWidth 8) h)) := by
  have hlow := storeByte_heard hrec offset (value.setWidth 8)
  unfold storeWord
  cases hstore : b.storeByte offset (value.setWidth 8) with
  | none =>
    have hnext : offset + 1 ≠ bkSysCtrl := by
      rintro hport
      dsimp only [bkSysCtrl] at hport
      obtain rfl : offset = 0o177715 := by bv_omega
      cases hstore
    rw [hstore] at hlow
    rw [heard, if_neg hnext]
    exact hlow
  | some b' =>
    rw [hstore] at hlow
    have hhigh := storeByte_heard hlow (offset + 1) ((value >>> 8).setWidth 8)
    rw [Option.getD_some] at hhigh
    dsimp only
    cases hstore' : b'.storeByte (offset + 1) ((value >>> 8).setWidth 8) with
    | none =>
      rw [hstore'] at hhigh
      exact hhigh
    | some b'' =>
      rw [hstore'] at hhigh
      exact hhigh

theorem loadByte_deck (offset : Word) : (b.loadByte offset).2.deck = b.deck := by
  unfold loadByte
  split
  all_goals first
    | rfl
    | skip
  split
  · rfl
  · split
    · rfl
    · split <;> rfl

theorem loadWord_deck (offset : Word) : (b.loadWord offset).2.deck = b.deck := by
  have hlow := loadByte_deck (b := b) offset
  unfold loadWord
  split
  · rename_i b₁ hload
    rw [hload] at hlow
    exact hlow
  · rename_i lo b₁ hload
    rw [hload] at hlow
    have hhigh := loadByte_deck (b := b₁) (offset + 1)
    split
    · rename_i b₂ hload'
      rw [hload'] at hhigh
      exact hhigh.trans hlow
    · rename_i hi b₂ hload'
      rw [hload'] at hhigh
      exact hhigh.trans hlow

theorem step_heard (hrec : b.deck.Records h) (ev : Event) : (b.step ev).deck.Records (ev.heard h) := by
  cases ev with
  | loadByte offset => exact (loadByte_deck offset).symm ▸ hrec
  | storeByte offset value => exact storeByte_heard hrec offset value
  | loadWord offset => exact (loadWord_deck offset).symm ▸ hrec
  | storeWord offset value => exact storeWord_heard hrec offset value
  | key code =>
    have hdeck : (b.handleKey code).deck = b.deck := by
      unfold handleKey
      split <;> rfl
    exact hdeck.symm ▸ hrec
  | pollIrq =>
    have hdeck : b.pollIrq.2.deck = b.deck := by
      unfold pollIrq
      split <;> rfl
    exact hdeck.symm ▸ hrec
  | tick => exact hrec.tick.read
  | outputData => exact hrec.outputData.1

/-- A recording has the level of every tick for which the motor has run, whatever the program did. -/
theorem run_heard (evs : List Event) (hrec : b.deck.Records h) :
    (evs.foldl step b).deck.Records (evs.foldl (fun h ev => ev.heard h) h) := by
  induction evs generalizing b h with
  | nil => exact hrec
  | cons ev evs ih => exact ih (step_heard hrec ev)

/-- What an empty recording gives to hear: nothing, with the level that the deck has been left at. -/
def silence (b : BkBoard) : TapeHistory := ⟨b.deck.writeVal, false, []⟩

theorem records_silence (henabled : b.deck.outEnabled = true) (hstopped : b.deck.stopped = true)
    (hempty : b.deck.tapeOut = []) : b.deck.Records b.silence :=
  ⟨henabled, rfl, hstopped, by rw [hempty]; rfl, (fun hm => by cases hm), by rw [hempty]; rfl⟩

/-- However the program uses the board: the recording has the level of every tick for which the motor has run. -/
theorem recording_levels (henabled : b.deck.outEnabled = true) (hstopped : b.deck.stopped = true)
    (hempty : b.deck.tapeOut = []) (evs : List Event) :
    tapeLevels (evs.foldl step b).deck.outputData.1 = (evs.foldl (fun h ev => ev.heard h) b.silence).levels :=
  ((run_heard evs (records_silence henabled hstopped hempty)).outputData).2.1

/-- Two ticks at one level and one at the other. -/
theorem recording_levels_three :
    tapeLevels (([.storeByte bkSysCtrl 0, .tick, .tick, .storeByte bkSysCtrl 0o100, .tick] : List Event).foldl step
      (initial.tapeSetOutputEnabled true)).deck.outputData.1 = [false, false, true] :=
  recording_levels (b := initial.tapeSetOutputEnabled true) rfl rfl rfl _

end BkBoard

end K1801.Bk
