import K1801.Lsi11.Rk11Transfer

/-! # Which RK11 transfers are exact

The conditions for consecutive words are necessary. A word outside the RAM array is reached with a disk of zeros. A
transfer that steps out of the run of consecutive sectors is caught by a medium whose bad places are the sectors it
would take in place of the right one.
-/

namespace K1801.Lsi11

open Core Library
open SplitAddress

variable {δ : Type}

/-- The controller with only the request in its registers. -/
def RkRequest.asking (req : RkRequest) (image : DiskImage) : Rk11 :=
  { rkwc := req.wc, rkba := low req.start, rkmex := ext req.start, rkda := req.da
    rkcs := if req.inhibit then rkcsIba else 0, sectorOneBased := req.oneBased, fp := fun _ => some image }

/-- A disk of zeros, one sector longer than the pack, with bad places. -/
def zeroDisk (bad : Nat → Bool) : DiskImage :=
  { file := DiskFile.blank (512 * (rkTotalSectors + 1)), medium := ⟨bad, fun _ => none⟩ }

theorem asking_asked (req : RkRequest) (image : DiskImage) : req.AskedOf image (req.asking image) where
  wc := rfl
  ba := rfl
  mex := rfl
  da := rfl
  inhibit := by
    show (if req.inhibit then rkcsIba else 0) &&& rkcsIba = 0 ↔ _
    cases req.inhibit with
    | false => exact ⟨fun _ => rfl, fun _ => rfl⟩
    | true => exact ⟨fun h => absurd h (by decide), fun h => absurd h (by decide)⟩
  oneBased := rfl
  attached := rfl

theorem zeroDisk_gives {bad : Nat → Bool} {off : Nat} (hbad : bad (off / 512) = false)
    (hin : off < 512 * (rkTotalSectors + 1)) : (zeroDisk bad).freadByte off = some 0#8 := by
  show (if bad (off / 512) = true then none
    else if off < 512 * (rkTotalSectors + 1) then some 0#8 else none) = some 0#8
  rw [hbad, if_neg (by decide), if_pos hin]

theorem zeroDisk_accepts {bad : Nat → Bool} {off : Nat} (heven : off % 2 = 0) (hbad : bad (off / 512) = false)
    (hin : off < 512 * (rkTotalSectors + 1)) : ¬ (zeroDisk bad).Refuses .toMemory off := by
  have hnext : (off + 1) / 512 = off / 512 := by omega
  rintro (h | h)
  · rw [zeroDisk_gives hbad hin] at h
    cases h
  · rw [zeroDisk_gives (by rw [hnext]; exact hbad) (by omega)] at h
    cases h

section Reads

variable {map : Ubmap} {req : RkRequest} {b : Bus δ} {bad : Nat → Bool} {m : Nat} {x : RkXfer δ}

/-- Reading the disk of zeros does not break off at a good sector and a word of memory. -/
theorem never_stopped (hreach : b.reaches (req.pa b map m) = true) (hbad : bad (req.lba0 + m / 256) = false)
    (hin : 256 * req.lba0 + m < 256 * rkTotalSectors) {bit : Word} :
    ¬ RkStopped map .toMemory req (zeroDisk bad) (req.asking (zeroDisk bad)) b m bit := by
  intro h
  cases h with
  | locked hdir => cases hdir
  | nxm h =>
    rw [hreach] at h
    cases h
  | refused h =>
    have hsector : req.place m / 512 = req.lba0 + m / 256 := by
      unfold RkRequest.place
      omega
    have heven : req.place m % 2 = 0 := by
      unfold RkRequest.place
      omega
    have hfits : req.place m < 512 * (rkTotalSectors + 1) := by
      unfold RkRequest.place
      omega
    exact zeroDisk_accepts heven (by rw [hsector]; exact hbad) hfits h
  | overrun h => omega

/-- Such a word is moved. -/
theorem word_moves
    (h : RkAt map .toMemory req (zeroDisk bad) (req.asking (zeroDisk bad)) b m x) (hm : m < req.words)
    (hreach : b.reaches (req.pa b map m) = true) (hback : b.backed (req.pa b map m) = true)
    (hbad : bad (req.lba0 + m / 256) = false) :
    ∃ y, x.step map .read = some y.advance ∧
      RkHalfway map .toMemory req (zeroDisk bad) (req.asking (zeroDisk bad)) b m x y := by
  have hlt := lba_lt (h.sector hm).1
  rcases h.turn_cases (asking_asked req _) hm (fun _ => hback) with ⟨-, hy⟩ | ⟨x', -, hend⟩
  · exact hy
  · obtain ⟨bit, hwhy, -⟩ := hend.ended hm
    exact absurd hwhy (never_stopped hreach hbad (by omega))

/-- The turn for such a word goes on, when the next one also is. -/
theorem turn_goes_on
    (h : RkAt map .toMemory req (zeroDisk bad) (req.asking (zeroDisk bad)) b m x) (hm : m + 1 < req.words)
    (hreach : ∀ k ≤ m + 1, b.reaches (req.pa b map k) = true) (hback : b.backed (req.pa b map m) = true)
    (hbad : bad (req.lba0 + m / 256) = false) (hbad' : bad (req.lba0 + (m + 1) / 256) = false)
    (hin : 256 * req.lba0 + (m + 1) < 256 * rkTotalSectors)
    (hrun : req.oneBased = true → m + 1 < 256 * req.run) :
    ∃ x', x.step map .read = some (.more x') ∧
      RkAt map .toMemory req (zeroDisk bad) (req.asking (zeroDisk bad)) b (m + 1) x' := by
  obtain ⟨y, hstep, hy⟩ := word_moves h (by omega) (hreach m (by omega)) hback hbad
  have hleaves := h.advance (asking_asked req _) (by omega) (hreach m (by omega))
    (fun hturn _ hone => h.in_run (by omega) hturn (hrun hone) hone) hy
  rw [hstep]
  cases hadv : y.advance with
  | more x' =>
    rw [hadv] at hleaves
    exact ⟨x', rfl, hleaves⟩
  | stop x' =>
    rw [hadv] at hleaves
    obtain ⟨bit, hwhy, -⟩ := RkEnded.ended hleaves hm
    exact absurd hwhy (never_stopped (hreach _ (Nat.le_refl _)) hbad' hin)

/-- The word outside the RAM array takes the transfer out of the model. -/
theorem step_leaves (h : RkAt map .toMemory req (zeroDisk bad) (req.asking (zeroDisk bad)) b m x)
    (hm : m < req.words) (hreach : b.reaches (req.pa b map m) = true)
    (hback : b.backed (req.pa b map m) = false) (hbad : bad (req.lba0 + m / 256) = false) :
    x.step map .read = none := by
  have hlt := lba_lt (h.sector hm).1
  have hpa := rkPa_lt map b (ext (req.address m)) (low (req.address m))
  have hsector : req.place m / 512 = req.lba0 + m / 256 := by
    unfold RkRequest.place
    omega
  have heven : req.place m % 2 = 0 := by
    unfold RkRequest.place
    omega
  have hfits : req.place m < 512 * (rkTotalSectors + 1) := by
    unfold RkRequest.place
    omega
  have hgives : ¬ x.image.Refuses .toMemory (req.place m) := by
    rw [h.readOnly rfl]
    exact zeroDisk_accepts heven (by rw [hsector]; exact hbad) hfits
  rw [show x.step map .read = x.step map (rkMode .toMemory) from rfl, h.step_eq rfl hm]
  show RkXfer.moveWord .read (req.pa b map m) { x with pos := req.place m } = none
  unfold RkXfer.moveWord
  rw [freadWord_read (x := { x with pos := req.place m }) hgives]
  dsimp only
  rw [h.bus, rkDmaWriteWord_reached (b := b.withRam (req.sides map .toMemory (zeroDisk bad) b m).memory) hreach hpa,
    Bus.backed_withRam, hback]
  rfl

/-- A loop that leaves the model takes the transfer with it. -/
theorem transfer_none {image : DiskImage}
    (h : RkXfer.loop map .read (RkXfer.mk req.wc (low req.start) req.da (ext req.start) 0 0 image
      (req.asking image) b) = none) : (req.asking image).transfer map .read b = none := by
  obtain ⟨hvalid, hfp⟩ := AskedOf.validated (asking_asked req image)
  unfold Rk11.transfer
  rw [hvalid]
  dsimp only
  rw [hfp]
  dsimp only
  rw [if_neg (by rintro ⟨h | h, -⟩ <;> cases h)]
  exact congrArg (fun r => r >>= _) h

theorem transfer_some {image : DiskImage} {x' : RkXfer δ}
    (h : RkXfer.loop map .read (RkXfer.mk req.wc (low req.start) req.da (ext req.start) 0 0 image
      (req.asking image) b) = some x') : ∃ rk', (req.asking image).transfer map .read b = some (rk', x'.bus) ∧
        rk'.rkwc = x'.curWc ∧ rk'.rker = x'.rk.rker := by
  obtain ⟨hvalid, hfp⟩ := AskedOf.validated (asking_asked req image)
  unfold Rk11.transfer
  rw [hvalid]
  dsimp only
  rw [hfp]
  dsimp only
  rw [if_neg (by rintro ⟨h | h, -⟩ <;> cases h)]
  exact ⟨_, congrArg (fun r => r >>= _) h, rfl, rfl⟩

theorem leaves_array {j : Nat} (hj : j < req.words) (hin : 256 * req.lba0 + j < 256 * rkTotalSectors)
    (hreach : ∀ k ≤ j, b.reaches (req.pa b map k) = true) (hback : ∀ k < j, b.backed (req.pa b map k) = true)
    (hnot : b.backed (req.pa b map j) = false) (hrun : req.oneBased = true → j < 256 * req.run) :
    (req.asking (zeroDisk fun _ => false)).transfer map .read b = none := by
  have hwords : req.words < 65536 := Nat.mod_lt _ (by decide)
  refine transfer_none (turns_none (j := j)
    (RkAt map .toMemory req (zeroDisk fun _ => false) (req.asking (zeroDisk fun _ => false)) b) ?_ ?_ ?_
    (Nat.zero_le j) (by omega) (RkAt.start map .toMemory b (asking_asked req _)))
  · intro m x hm h
    exact decide_eq_true (h.counting.2 (by omega))
  · intro m x hm h
    exact turn_goes_on h (by omega) (fun k hk => hreach k (by omega)) (hback m hm) rfl rfl (by omega)
      fun hone => by
        have := hrun hone
        omega
  · intro x h
    exact step_leaves h hj (hreach j (Nat.le_refl j)) hnot rfl

/-! ## Out of the run -/

/-- The sectors taken for the one after `last`. -/
def strayFrom (last s : Nat) : Bool := s = last + 13 ∨ s + 11 = last

/-- The loop is about to read from a wrong sector. -/
structure Astray (req : RkRequest) (bad : Nat → Bool) (x : RkXfer δ) : Prop where
  wc : x.curWc = req.wc + BitVec.ofNat 16 (256 * req.run)
  rk : x.rk = req.asking (zeroDisk bad)
  image : x.image = zeroDisk bad
  inSector : x.wInSector = 0
  sector : ∃ l, rkDaToLba true x.curDa = some l ∧ bad l = true

/-- How the loop ends that left the run. -/
structure Lost (req : RkRequest) (x : RkXfer δ) : Prop where
  wc : x.curWc = req.wc + BitVec.ofNat 16 (256 * req.run)
  rker : x.rk.rker = rkerDlt ∨ (x.rk.rker = rkerOvr ∧ req.lba0 + req.run < rkTotalSectors)

theorem Astray.turn (map : Ubmap) (h : Astray req bad x) (hone : req.oneBased = true) :
    ∃ x', x.step map .read = some (.stop x') ∧ Lost req x' := by
  obtain ⟨l, hlba, hbad⟩ := h.sector
  have hlba' : rkDaToLba x.rk.sectorOneBased x.curDa = some l := by
    rw [h.rk]
    show rkDaToLba req.oneBased x.curDa = some l
    rw [hone]
    exact hlba
  have hrefused : x.image.freadByte (l * rkSectorBytes) = none := by
    rw [h.image]
    show (if bad (l * 512 / 512) = true then none else _) = none
    rw [Nat.mul_div_cancel l (by decide), if_pos hbad]
  unfold RkXfer.step
  rw [hlba']
  dsimp only
  rw [if_pos h.inSector]
  unfold RkXfer.moveWord
  dsimp only
  rw [freadWord_refused (x := { x with pos := l * rkSectorBytes }) (Or.inl hrefused)]
  refine ⟨_, rfl, h.wc, Or.inl ?_⟩
  show x.rk.rker ||| rkerDlt = rkerDlt
  rw [h.rk]
  exact (show (0 : Word) ||| rkerDlt = rkerDlt by decide)

/-- The last turn of the run leads to a wrong sector, or to the end of the disk before its last sector. -/
theorem turn_strays
    (h : RkAt map .toMemory req (zeroDisk bad) (req.asking (zeroDisk bad)) b m x) (hone : req.oneBased = true)
    (hlast : m + 1 = 256 * req.run) (hwords : 256 * req.run < req.words)
    (hreach : b.reaches (req.pa b map m) = true) (hback : b.backed (req.pa b map m) = true)
    (hgood : bad (req.lba0 + m / 256) = false) (hbad : ∀ s, strayFrom (req.lba0 + m / 256) s = true → bad s = true) :
    ∃ t, x.step map .read = some t ∧ t.Leaves (Astray req bad) (Lost req) := by
  obtain ⟨y, hstep, hy⟩ := word_moves h (by omega) hreach hback hgood
  obtain ⟨hwc, -, -, hda, hw⟩ := hy.counters
  obtain ⟨hlba, htrack, hfield⟩ := h.sector (by omega)
  have hin := h.inSector
  have hcount : y.curWc + 1 = req.wc + BitVec.ofNat 16 (256 * req.run) := by
    rw [hwc, h.wc, counter_succ, hlast]
  have hmore : y.curWc + 1 ≠ 0 := by
    rw [hcount, ne_eq, counter_zero_iff (show 256 * req.run ≤ req.words by omega)]
    exact Nat.ne_of_lt hwords
  have hfull : ¬ (counted req m y).wInSector < rkWordsPerSector := by
    show ¬ y.wInSector + 1 < 256
    omega
  have hout : (rkGetSector x.curDa).toNat = 0 ∨ (rkGetSector x.curDa).toNat = 11 := by
    have hsec := hfield hone
    have hrun := hlast
    unfold RkRequest.run at hrun
    split_ifs at hrun
    · omega
    · omega
  rw [hone] at hlba
  refine ⟨_, hstep, ?_⟩
  rw [advance_eq h (asking_asked req _) hy, if_neg hfull, hda]
  rcases next_outOfOrder hlba hout with ⟨hnone, hend⟩ | ⟨da', l', hsome, hlba', hstray⟩
  · rw [hnone]
    dsimp only
    rw [if_pos hmore]
    refine ⟨hcount, Or.inr ⟨?_, by omega⟩⟩
    show y.rk.rker ||| rkerOvr = rkerOvr
    rw [hy.rk]
    exact (show (0 : Word) ||| rkerOvr = rkerOvr by decide)
  · rw [hsome]
    exact
      { wc := hcount
        rk := hy.rk
        image := hy.readOnly rfl
        inSector := rfl
        sector := ⟨l', hlba', hbad l' (decide_eq_true hstray)⟩ }

theorem run_fits (hone : req.oneBased = true) : req.lba0 + req.run ≤ rkTotalSectors := by
  have hlba := rkDaToLba_eq_some.1 req.onDisk
  have htotal := rkTotalSectors_eq
  rw [hone] at hlba
  unfold rkPlace at hlba
  simp only [if_true] at hlba
  obtain ⟨h1, h2, h3, h4⟩ := hlba
  unfold RkRequest.run
  split_ifs at h1 h4 ⊢
  · omega
  · omega

/-- A read on a disk whose bad places are the sectors after the run that the controller takes. -/
theorem loses_run (hone : req.oneBased = true) (hwords : 256 * req.run < req.words)
    (hreach : ∀ k < 256 * req.run, b.reaches (req.pa b map k) = true)
    (hback : ∀ k < 256 * req.run, b.backed (req.pa b map k) = true)
    (hbad : bad = strayFrom (req.lba0 + req.run - 1)) :
    ¬ RkExact map .toMemory req (zeroDisk bad) (req.asking (zeroDisk bad)) b := by
  have hlt : req.words < 65536 := Nat.mod_lt _ (by decide)
  have hrun : 1 ≤ req.run ∧ req.run ≤ 11 := by
    have htrack : (rkGetSector req.da).toNat < 12 := req.inTrack
    unfold RkRequest.run
    split_ifs
    · omega
    · omega
  have hfits := run_fits hone
  have hgood : ∀ s, req.lba0 ≤ s → s ≤ req.lba0 + req.run → bad s = false := by
    intro s hlow hhigh
    rw [hbad]
    exact decide_eq_false (by omega)
  have hloop : ∃ x', RkXfer.loop map .read (RkXfer.mk req.wc (low req.start) req.da (ext req.start) 0 0
      (zeroDisk bad) (req.asking (zeroDisk bad)) b) = some x' ∧ Lost req x' := by
    refine turns_rule (n := 256 * req.run + 1) (fun m x =>
      (m < 256 * req.run ∧ RkAt map .toMemory req (zeroDisk bad) (req.asking (zeroDisk bad)) b m x) ∨
        (m = 256 * req.run ∧ Astray req bad x)) (m := 0) ?_ ?_ ?_ (by omega)
      (Or.inl ⟨by omega, RkAt.start map .toMemory b (asking_asked req _)⟩)
    · rintro m x (⟨hm, -⟩ | ⟨hm, -⟩) -
      · omega
      · omega
    · rintro m x (⟨hm, h⟩ | ⟨hm, h⟩) hend
      · exact absurd (h.counting.2 (by omega)) (of_decide_eq_false hend)
      · have hzero : x.curWc = 0 := by
          by_cases hz : x.curWc = 0
          · exact hz
          · exact absurd hz (of_decide_eq_false hend)
        rw [h.wc, counter_zero_iff (show 256 * req.run ≤ req.words by omega)] at hzero
        exact absurd hzero (Nat.ne_of_lt hwords)
    · rintro m x (⟨hm, h⟩ | ⟨hm, h⟩) -
      · by_cases hlast : m + 1 = 256 * req.run
        · have hsector : m / 256 = req.run - 1 := by omega
          obtain ⟨t, hstep, hleaves⟩ := turn_strays h hone hlast hwords (hreach m hm) (hback m hm)
            (hgood _ (by omega) (by omega)) (by
              intro s hs
              rw [hbad, Nat.add_sub_assoc hrun.1, ← hsector]
              exact hs)
          exact ⟨t, hstep, hleaves.imp (fun _ h => Or.inr ⟨hlast, h⟩) fun _ h => h⟩
        · obtain ⟨x', hstep, hnext⟩ := turn_goes_on h (by omega) (fun k hk => hreach k (by omega)) (hback m hm)
            (hgood _ (by omega) (by omega)) (hgood _ (by omega) (by omega)) (by omega) fun _ => by omega
          exact ⟨.more x', hstep, Or.inl ⟨by omega, hnext⟩⟩
      · obtain ⟨x', hstep, hlost⟩ := h.turn map hone
        exact ⟨.stop x', hstep, hlost⟩
  obtain ⟨x', hloop, hlost⟩ := hloop
  obtain ⟨rk', htransfer, hwc, hrker⟩ := transfer_some hloop
  rintro ⟨m, rk'', b'', htransfer', hmoved⟩
  rw [show rkMode .toMemory = RkXferMode.read from rfl, htransfer] at htransfer'
  cases htransfer'
  have hm : m = 256 * req.run := by
    have hsame := hmoved.wc.symm.trans (hwc.trans hlost.wc)
    have hle := hmoved.words
    have hnat := congrArg BitVec.toNat ((BitVec.add_right_inj req.wc).1 hsame)
    rw [BitVec.toNat_ofNat, BitVec.toNat_ofNat, Nat.mod_eq_of_lt (by omega), Nat.mod_eq_of_lt (by omega)] at hnat
    exact hnat
  obtain ⟨bit, hwhy, hbit⟩ := hmoved.ended (by omega)
  rw [hm] at hwhy
  rw [hrker] at hbit
  have hplace : req.place (256 * req.run) = 512 * (req.lba0 + req.run) := by
    unfold RkRequest.place
    omega
  cases hwhy with
  | locked hdir => cases hdir
  | nxm =>
    rcases hlost.rker with h | ⟨h, -⟩
    · rw [h] at hbit
      exact hbit (by decide)
    · rw [h] at hbit
      exact hbit (by decide)
  | refused href =>
    rw [hplace] at href
    exact zeroDisk_accepts (by omega)
      (hgood _ (by rw [Nat.mul_div_cancel_left _ (by decide)]; omega)
        (by rw [Nat.mul_div_cancel_left _ (by decide)])) (by omega) href
  | overrun hover =>
    rcases hlost.rker with h | ⟨-, h⟩
    · rw [h] at hbit
      exact hbit (by decide)
    · omega

end Reads

/-! ## Both directions -/

/-- A READ and a WRITE of any contents on any medium are exact if and only if the transfer keeps to the run of
sectors that follow each other and gets to words of the RAM array only. -/
theorem transferExact_iff (map : Ubmap) (req : RkRequest) (b : Bus δ) :
    (∀ dir image rk ram, req.AskedOf image rk → RkExact map dir req image rk (b.withRam ram)) ↔
      RkInOrder map req b ∧ RkBacked map req b := by
  constructor
  · intro hexact
    have hread : ∀ bad, RkExact map .toMemory req (zeroDisk bad) (req.asking (zeroDisk bad)) b :=
      fun bad => hexact .toMemory (zeroDisk bad) _ b.ram (asking_asked req _)
    have hback : RkBacked map req b := by
      intro j
      induction j using Nat.strongRecOn with
      | ind j ih =>
        intro hj hin hreach
        have hprior : ∀ k < j, b.backed (req.pa b map k) = true :=
          fun k hk => ih k hk (by omega) (by omega) fun i hi => hreach i (by omega)
        cases hnot : b.backed (req.pa b map j) with
        | true => rfl
        | false =>
          by_cases hrun : req.oneBased = true → j < 256 * req.run
          · obtain ⟨m, rk', b', htransfer, -⟩ := hread fun _ => false
            rw [show rkMode .toMemory = RkXferMode.read from rfl,
              leaves_array hj hin hreach hprior hnot hrun] at htransfer
            cases htransfer
          · have hout : req.oneBased = true ∧ 256 * req.run ≤ j := by
              by_cases hone : req.oneBased = true
              · exact ⟨hone, Nat.not_lt.1 fun hlt => hrun fun _ => hlt⟩
              · exact absurd (fun h => absurd h hone) hrun
            exact absurd (hread _) (loses_run hout.1 (by omega) (fun k hk => hreach k (by omega))
              (fun k hk => hprior k (by omega)) rfl)
    refine ⟨fun hone hwords => ?_, hback⟩
    by_cases hall : ∀ k < 256 * req.run, b.reaches (req.pa b map k) = true
    · have hfits := run_fits hone
      exact absurd (hread _) (loses_run hone hwords hall
        (fun k hk => hback k (by omega) (by omega) fun i hi => hall i (by omega)) rfl)
    · obtain ⟨k, hk⟩ := Classical.not_forall.1 hall
      obtain ⟨hlt, hnot⟩ := Classical.not_imp.1 hk
      exact ⟨k, hlt, Bool.eq_false_iff.2 hnot⟩
  · rintro ⟨hrun, hback⟩ dir image rk ram hasked
    exact exact_of_conditions (b := b.withRam ram) hrun hback hasked

/-- 257 words from the sector with number 11 of the first surface on. -/
def trackEnd : RkRequest where
  wc := -257
  start := 0
  inhibit := false
  oneBased := true
  da := 11
  lba0 := 10
  onDisk := rfl
  inTrack := by decide

/-- Behind block 10 the controller turns to block 23, not to block 11. -/
theorem trackEnd_lost : ¬ RkExact identityMap .toMemory trackEnd (zeroDisk (strayFrom 10))
    (trackEnd.asking (zeroDisk (strayFrom 10))) emptyBus := by
  have hlow : ∀ k < 256, emptyBus.reaches (trackEnd.pa emptyBus identityMap k) = true ∧
      emptyBus.backed (trackEnd.pa emptyBus identityMap k) = true := by decide +kernel
  exact loses_run rfl (by decide) (fun k hk => (hlow k hk).1) (fun k hk => (hlow k hk).2) rfl

end K1801.Lsi11
