import Mathlib.Data.List.GetD
import Mathlib.Logic.Relation
import K1801.Library.SlotRing
import K1801.Lsi11.Rq11Replies

/-! # The rings of the RQ11

The host lays the rings and a packet buffer for each descriptor out in memory that nothing else uses. A descriptor
belongs to the controller while its ownership bit is set.
-/

namespace K1801.Lsi11

open Core Library

attribute [local instance] rqPktWords_neZero

/-- What host and controller share: the interrupt words, `n` command and `m` response descriptors and their packets. -/
inductive RqArea (n m : Nat) where
  | intr
  | cmdSlot (i : Fin n)
  | rspSlot (i : Fin m)
  | cmdBuf (i : Fin n)
  | rspBuf (i : Fin m)

def RqArea.len {n m : Nat} : RqArea n m → Nat
  | .intr | .cmdSlot _ | .rspSlot _ => 4
  | .cmdBuf _ | .rspBuf _ => 64

/-- Where the host put them. A descriptor holds the address of the text of a packet, four bytes behind its header. -/
structure RqLayout (n m : Nat) where
  comm : Dword
  cmdText : Fin n → Dword
  rspText : Fin m → Dword
  place : RqArea n m → Nat → Nat
  apart : ∀ {p q i j}, i < p.len → j < q.len → place p i = place q j → p = q ∧ i = j
  cmd_count : n ≤ 128
  rsp_count : m ≤ 128
  comm_low : 4 ≤ comm.toNat
  comm_high : comm.toNat < 2 ^ 31
  cmdText_low : ∀ i, 4 ≤ (cmdText i).toNat
  rspText_low : ∀ i, 4 ≤ (rspText i).toNat

namespace RqLayout

variable {n m : Nat} (L : RqLayout n m)

def addr : RqArea n m → Dword
  | .intr => L.comm - 4
  | .cmdSlot i => L.comm + BitVec.ofNat 32 (4 * m) + BitVec.ofNat 32 (4 * i)
  | .rspSlot i => L.comm + BitVec.ofNat 32 (4 * i)
  | .cmdBuf i => L.cmdText i - 4
  | .rspBuf i => L.rspText i - 4

def areas : Areas (RqArea n m) := ⟨L.addr, RqArea.len, L.place, L.apart⟩

section Views

variable {σ : Type} (dma : Dma σ) (s : σ)

def cmdDesc (i : Fin n) : Dword := L.areas.dwordAt dma s (.cmdSlot i)

def rspDesc (i : Fin m) : Dword := L.areas.dwordAt dma s (.rspSlot i)

def cmdPkt (i : Fin n) : RqPacket := fun k => L.areas.wordAt dma s (.cmdBuf i) (2 * k)

def rspPkt (i : Fin m) : RqPacket := fun k => L.areas.wordAt dma s (.rspBuf i) (2 * k)

def cmdOwned (i : Fin n) : Bool := L.cmdDesc dma s i &&& rqDescOwn ≠ 0

def rspOwned (i : Fin m) : Bool := L.rspDesc dma s i &&& rqDescOwn ≠ 0

end Views

/-- A descriptor that is given back. -/
def released (desc : Dword) : Dword := (desc &&& ~~~rqDescOwn) ||| rqDescF

theorem released_home (desc : Dword) : released desc &&& rqDescOwn = 0 := by
  unfold released
  rw [BitVec.and_or_distrib_right, BitVec.and_assoc]
  simp

/-! ## The places of the controller in the rings -/

/-- A ring of `n` descriptors after `k` turns. -/
def ringAt (base : Dword) (n k : Nat) : RqRing := ⟨base, BitVec.ofNat 32 (4 * n), BitVec.ofNat 32 (4 * (k % n))⟩

theorem ringAt_len (base : Dword) {n : Nat} [NeZero n] (hn : n ≤ 128) (k : Nat) : (ringAt base n k).len ≠ 0 := by
  intro h
  have hpos := Nat.pos_of_neZero n
  have hval := congrArg BitVec.toNat h
  change (BitVec.ofNat 32 (4 * n)).toNat = 0 at hval
  rw [BitVec.toNat_ofNat] at hval
  omega

theorem ringAt_advance {base : Dword} {n : Nat} [NeZero n] (hn : n ≤ 128) (k : Nat) :
    rqRingAdvance (ringAt base n k) = ringAt base n (k + 1) := by
  have hk := Nat.mod_lt k (Nat.pos_of_neZero n)
  have hlen : (BitVec.ofNat 32 (4 * n)).toNat = 4 * n := by
    rw [BitVec.toNat_ofNat]
    omega
  have hnext : (BitVec.ofNat 32 (4 * (k % n)) + 4 : Dword) = BitVec.ofNat 32 (4 * (k % n + 1)) :=
    (BitVec.ofNat_add ..).symm
  have hidx : (BitVec.ofNat 32 (4 * (k % n + 1))).toNat = 4 * (k % n + 1) := by
    rw [BitVec.toNat_ofNat]
    omega
  have hzero : ¬ BitVec.ofNat 32 (4 * n) = (0 : Dword) := ringAt_len base hn k
  unfold rqRingAdvance ringAt
  simp only [hnext, ge_iff_le]
  have hle : BitVec.ofNat 32 (4 * n) ≤ BitVec.ofNat 32 (4 * (k % n + 1)) ↔ n ≤ k % n + 1 := by
    rw [BitVec.le_def, hlen, hidx]
    omega
  have hmod : (k + 1) % n = (k % n + 1) % n := (Nat.mod_add_mod k n 1).symm
  rw [if_neg hzero, hmod]
  by_cases hwrap : k % n + 1 = n
  · rw [if_pos (hle.2 (by omega)), hwrap, Nat.mod_self]
    rfl
  · have hnowrap : (k % n + 1) % n = k % n + 1 := Nat.mod_eq_of_lt (by omega)
    rw [if_neg fun h => hwrap (by have hwhole := hle.1 h; omega), hnowrap]

def cmdRingAt (k : Nat) : RqRing := ringAt (L.comm + BitVec.ofNat 32 (4 * m)) n k

def rspRingAt (k : Nat) : RqRing := ringAt L.comm m k

end RqLayout

section Steps

variable {n m : Nat} {L : RqLayout n m} {σ : Type} {dma : Dma σ} {cells : dma.Cells} {c : Rq11} {s : σ}

open RqLayout

/-- The controller looks at its place in a ring. -/
theorem rqRingPeekOwned_at (hp : L.areas.Placed cells s) {ring : RqRing} {p : RqArea n m} (hlen : p.len = 4)
    (hring : ring.len ≠ 0) (hslot : rqRingSlotAddr ring = L.addr p) :
    rqRingPeekOwned dma ring s =
      if L.areas.dwordAt dma s p &&& rqDescOwn = 0 then .empty else .owned (L.areas.dwordAt dma s p) (L.addr p) := by
  have hread := Areas.read32 hp (p := p) (show 4 ≤ p.len from hlen ▸ Nat.le_refl 4)
  unfold rqRingPeekOwned
  rw [if_neg hring, hslot, show L.addr p = L.areas.addr p from rfl, hread]

/-- The word that tells the host of a response or of room for commands. -/
theorem rqWriteIntrFlag_same (hp : L.areas.Placed cells s) (hcomm : c.comm = L.comm) {off : Int}
    (hoff : off = rqSaCommCi ∨ off = rqSaCommRi) :
    L.areas.Same dma cells (fun q _ => q = .intr) s (rqWriteIntrFlag dma c off s) := by
  have hlow := L.comm_low
  have hhigh := L.comm_high
  have hint : c.comm.toInt = L.comm.toNat := by
    rw [hcomm]
    exact BitVec.toInt_eq_toNat_of_lt (by omega)
  have hzero : ¬ c.comm = 0 := fun h => by
    rw [hcomm] at h
    rw [h] at hlow
    exact absurd hlow (by decide)
  have hwrite : ∀ i, i + 2 ≤ 4 → BitVec.ofInt 32 (c.comm.toInt + off) = L.addr .intr + BitVec.ofNat 32 i →
      L.areas.Same dma cells (fun q _ => q = .intr) s (rqWriteIntrFlag dma c off s) := by
    intro i hi haddr
    have hneg : ¬ c.comm.toInt + off < 0 := by
      rcases hoff with rfl | rfl <;> rw [hint] <;> simp only [rqSaCommCi, rqSaCommRi] <;> omega
    obtain ⟨t, hdone, hsame, -⟩ :=
      Areas.writeWords_at hp (p := RqArea.intr) (i := i) [1] (show i + 2 * 1 ≤ 4 by omega)
    unfold rqWriteIntrFlag Dma.write16Checked
    rw [if_neg hzero, if_neg hneg, haddr]
    have hbytes : dma.writeBytes s (L.addr .intr + BitVec.ofNat 32 i) (le16 1) = (true, t) := hdone
    rw [hbytes]
    exact hsame.mono fun q j h => h.1
  have hsub : L.comm - 4 = BitVec.ofNat 32 (L.comm.toNat - 4) := by
    apply BitVec.eq_of_toNat_eq
    rw [BitVec.toNat_sub, BitVec.toNat_ofNat]
    simp
    omega
  rcases hoff with rfl | rfl
  · refine hwrite 0 (by omega) ?_
    show _ = L.comm - 4 + BitVec.ofNat 32 0
    rw [hint, hsub, show (L.comm.toNat : Int) + rqSaCommCi = ((L.comm.toNat - 4 : Nat) : Int) by
      simp only [rqSaCommCi]; omega, BitVec.ofInt_natCast]
    exact (BitVec.add_zero _).symm
  · refine hwrite 2 (by omega) ?_
    show _ = L.comm - 4 + BitVec.ofNat 32 2
    rw [hint, hsub, show (L.comm.toNat : Int) + rqSaCommRi = ((L.comm.toNat - 4 + 2 : Nat) : Int) by
      simp only [rqSaCommRi]; omega, BitVec.ofInt_natCast, BitVec.ofNat_add]

/-- A descriptor is given back and the ring moves on. -/
theorem rqReleaseDesc_at (hp : L.areas.Placed cells s) (hcomm : c.comm = L.comm) {p : RqArea n m} (hlen : p.len = 4)
    (hintr : p ≠ .intr) (which : RqWhich) (desc : Dword) :
    ∃ t, rqReleaseDesc dma which (L.addr p) desc c s = (true, c.setRing (rqRingAdvance (c.ring which)) which, t) ∧
      L.areas.Same dma cells (fun q _ => q = .intr ∨ q = p) s t ∧ L.areas.dwordAt dma t p = released desc := by
  obtain ⟨t, hwrite, hsame, hdword⟩ :=
    Areas.write32_at hp (p := p) (show 4 ≤ p.len from hlen ▸ Nat.le_refl 4) (released desc)
  have hflag := rqWriteIntrFlag_same (c := c) (hsame.placed hp) hcomm
    (show which.commOff = rqSaCommCi ∨ which.commOff = rqSaCommRi from by
      cases which
      · exact Or.inl rfl
      · exact Or.inr rfl)
  refine ⟨_, ?_, (hsame.mono fun q j h => Or.inr h.1).trans (hflag.mono fun q j h => Or.inl h), ?_⟩
  · unfold rqReleaseDesc
    have hreleased : dma.write32Checked s (L.addr p) ((desc &&& ~~~rqDescOwn) ||| rqDescF) = (true, t) := hwrite
    rw [hreleased]
  · rw [← hdword]
    exact hflag.dwordAt (show 4 ≤ p.len from hlen ▸ Nat.le_refl 4) fun i _ => hintr

theorem rqReleaseDesc_cmd (hp : L.areas.Placed cells s) (hcomm : c.comm = L.comm) (i : Fin n) (desc : Dword) :
    ∃ t, rqReleaseDesc dma .cmd (L.addr (.cmdSlot i)) desc c s =
        (true, { c with cmdRing := rqRingAdvance c.cmdRing }, t) ∧
      L.areas.Same dma cells (fun q _ => q = .intr ∨ q = .cmdSlot i) s t ∧
      L.areas.dwordAt dma t (.cmdSlot i) = released desc :=
  rqReleaseDesc_at hp hcomm rfl (by simp) .cmd desc

theorem rqReleaseDesc_rsp (hp : L.areas.Placed cells s) (hcomm : c.comm = L.comm) (j : Fin m) (desc : Dword) :
    ∃ t, rqReleaseDesc dma .rsp (L.addr (.rspSlot j)) desc c s =
        (true, { c with rspRing := rqRingAdvance c.rspRing }, t) ∧
      L.areas.Same dma cells (fun q _ => q = .intr ∨ q = .rspSlot j) s t ∧
      L.areas.dwordAt dma t (.rspSlot j) = released desc :=
  rqReleaseDesc_at hp hcomm rfl (by simp) .rsp desc

/-- The answer to a command: its reference number, and its opcode with the end bit. -/
structure RqAnswers (cmd rsp : RqPacket) : Prop where
  refl : rsp rqRspRefl = cmd rqCmdRefl
  refh : rsp rqRspRefh = cmd rqCmdRefh
  opf : rsp rqRspOpf &&& 0xFF = (cmd rqCmdOpc &&& 0xFF) ||| rqOpEnd

/-- The response to a command, as opposed to a message of the controller's own. -/
def rqIsEnd (rsp : RqPacket) : Bool := rsp rqRspOpf &&& rqOpEnd ≠ 0

/-- The credits a message grants. -/
def rqCreditsOf (rsp : RqPacket) : Nat := (rsp rqHctc).toNat % 16

theorem RqAnswers.isEnd {cmd rsp : RqPacket} (h : RqAnswers cmd rsp) : rqIsEnd rsp = true := by
  have hbit : rsp rqRspOpf &&& rqOpEnd = (rsp rqRspOpf &&& 0xFF) &&& rqOpEnd := by
    rw [BitVec.and_assoc]
    rfl
  unfold rqIsEnd
  rw [hbit, h.opf, BitVec.and_or_distrib_right, BitVec.and_self]
  refine decide_eq_true fun hzero => ?_
  have hend := congrArg (· &&& rqOpEnd) hzero
  simp only [BitVec.and_or_distrib_right, BitVec.and_self] at hend
  have habs : ∀ x : Word, x ||| rqOpEnd ≠ 0 := fun x hx => by
    have h7 := congrArg (·.getLsbD 7) hx
    simp at h7
  exact habs _ hend

theorem rqApplyCredits_end {rsp : RqPacket} (hend : rqIsEnd rsp = true) (hhctc : rsp rqHctc = rqBuildHctc) (c : Rq11) :
    ∃ credits hctc, rqApplyCredits rsp c = (rqAssign rsp [(rqHctc, hctc)], { c with credits := credits }) ∧
      hctc.toNat % 16 + credits.toNat = c.credits.toNat + 1 := by
  have hbit : ¬ rsp rqRspOpf &&& rqOpEnd = 0 := of_decide_eq_true hend
  have htyp : ¬ (rsp rqHctc >>> 4) &&& 0xF ≠ 0 := by
    rw [hhctc]
    decide
  unfold rqApplyCredits
  rw [if_neg hbit, if_neg htyp]
  refine ⟨_, _, rfl, ?_⟩
  rw [hhctc, show rqBuildHctc = 0#16 from rfl, BitVec.zero_or, BitVec.toNat_add, BitVec.toNat_setWidth]
  by_cases hmany : (14 : Byte) ≤ c.credits
  · have hcount : 14 ≤ c.credits.toNat := BitVec.le_def.1 hmany
    rw [if_pos hmany, BitVec.toNat_sub_of_le hmany]
    show (14 % 2 ^ 16 + 1) % 2 ^ 16 % 16 + (c.credits.toNat - 14) = _
    omega
  · have hcount : c.credits.toNat < 14 := BitVec.lt_def.1 (BitVec.not_le.1 hmany)
    rw [if_neg hmany, BitVec.sub_self]
    show (c.credits.toNat % 2 ^ 16 + 1) % 2 ^ 16 % 16 + 0 = _
    omega

theorem rqApplyCredits_other {rsp : RqPacket} (hend : rqIsEnd rsp = false) (c : Rq11) :
    rqApplyCredits rsp c = (rsp, c) :=
  if_pos (not_not.1 (of_decide_eq_false hend))

/-! ## A message to the host -/

/-- A response is written into its buffer. -/
theorem writeRsp_at (hp : L.areas.Placed cells s) {j : Fin m} {desc : Dword} (hdesc : desc &&& rqDescAddr = L.rspText j)
    (rsp : RqPacket) (hlen : rsp rqHlnt ∈ [rqRspLnt, rqGcsLnt, rqSccLnt, rqOnlLnt, rqGusLntD]) :
    ∃ t, dma.writeWords s ((desc &&& rqDescAddr) - 4) (rqRspWords rsp) = (true, t) ∧
      L.areas.Same dma cells (fun q _ => q = .rspBuf j) s t ∧
      ∀ k : Fin 32, k.val < 8 → L.rspPkt dma t j k = rsp k := by
  obtain ⟨hmin, hmax⟩ := rqRspWords_length hlen
  obtain ⟨t, hwrite, hsame, hword⟩ := Areas.writeWords_at hp (p := RqArea.rspBuf j) (i := 0)
    (rqRspWords rsp) (show 0 + 2 * (rqRspWords rsp).length ≤ 64 by omega)
  refine ⟨t, ?_, hsame.mono fun q i h => h.1, fun k hk => ?_⟩
  · rw [hdesc, ← hwrite]
    exact congrArg (dma.writeWords s · _) (BitVec.add_zero _).symm
  · have hfits : k.val < (rqRspWords rsp).length := by omega
    rw [← rqRspWords_get rsp hfits, ← hword k hfits, Nat.zero_add]
    rfl

/-- A command was taken from slot `i` and answered in slot `j`. -/
structure RqAnswered (L : RqLayout n m) (cells : dma.Cells) (i : Fin n) (j : Fin m) (c : Rq11) (s : σ) (c' : Rq11)
    (t : σ) : Prop where
  state : c'.state = c.state
  comm : c'.comm = c.comm
  pollPending : c'.pollPending = c.pollPending
  cmdRing : c'.cmdRing = rqRingAdvance c.cmdRing
  rspRing : c'.rspRing = rqRingAdvance c.rspRing
  same : L.areas.Same dma cells (fun q _ => q = .intr ∨ q = .cmdSlot i ∨ q = .rspSlot j ∨ q = .rspBuf j) s t
  cmdHome : L.cmdOwned dma t i = false
  rspHome : L.rspOwned dma t j = false
  answers : RqAnswers (L.cmdPkt dma s i) (L.rspPkt dma t j)
  credits : rqCreditsOf (L.rspPkt dma t j) + c'.credits.toNat = c.credits.toNat + 1

theorem owned_released {t : σ} {p : RqArea n m} {desc : Dword} (h : L.areas.dwordAt dma t p = released desc) :
    decide (L.areas.dwordAt dma t p &&& rqDescOwn ≠ 0) = false := by
  rw [h]
  exact decide_eq_false (not_not.2 (released_home desc))

/-- The packet of a command is read. -/
theorem readCmd_at (hp : L.areas.Placed cells s) {i : Fin n} {desc : Dword}
    (hdesc : desc &&& rqDescAddr = L.cmdText i) :
    ∃ words, dma.readWords s ((desc &&& rqDescAddr) - 4) 32 = some words ∧
      (fun k : Fin 32 => words.getD k 0) = L.cmdPkt dma s i := by
  have hread := Areas.readWords_at hp (p := RqArea.cmdBuf i) (i := 0) (n := 32) (Nat.le_refl 64)
  refine ⟨(List.range 32).map fun k => L.areas.wordAt dma s (.cmdBuf i) (0 + 2 * k), ?_, funext fun k => ?_⟩
  · rw [hdesc, ← hread]
    exact congrArg (dma.readWords s · 32) (BitVec.add_zero _).symm
  · rw [List.getD_eq_getElem _ _ (by simp), List.getElem_map, List.getElem_range, Nat.zero_add]
    rfl

theorem rqRaiseIrq_eq (c : Rq11) : ∃ irqReq, rqRaiseIrq c = { c with irqReq := irqReq } := by
  unfold rqRaiseIrq
  split_ifs
  · exact ⟨c.irqReq, rfl⟩
  · exact ⟨c.irqReq, rfl⟩
  · exact ⟨true, rfl⟩

theorem rqAnswer_done (hp : L.areas.Placed cells s) (hcomm : c.comm = L.comm) {i : Fin n} {j : Fin m}
    {cmdDesc rspDesc : Dword} (hcmd : cmdDesc &&& rqDescAddr = L.cmdText i)
    (hrsp : rspDesc &&& rqDescAddr = L.rspText j)
    (hclear : RqDataClear L.areas cells (L.cmdPkt dma s i) s) :
    ∃ c' t, rqAnswer dma cmdDesc (L.addr (.cmdSlot i)) rspDesc (L.addr (.rspSlot j)) c s = (.done, c', t) ∧
      RqAnswered L cells i j c s c' t := by
  have hlow : ¬ (cmdDesc &&& rqDescAddr < 4 ∨ rspDesc &&& rqDescAddr < 4) := by
    rw [hcmd, hrsp, BitVec.lt_def, BitVec.lt_def]
    have hcmdLow := L.cmdText_low i
    have hrspLow := L.rspText_low j
    simp only [show (4 : Dword).toNat = 4 from rfl]
    omega
  obtain ⟨words, hread, hpkt⟩ := readCmd_at hp hcmd
  obtain ⟨hreply, hkeeps, hmem⟩ := rqProcessCommand_served (c := c) hp hclear
  unfold rqAnswer
  simp only
  rw [if_neg hlow, hread]
  simp only [hpkt]
  generalize rqProcessCommand dma (L.cmdPkt dma s i) c s = result at hreply hkeeps hmem
  obtain ⟨rsp, c₁, s₁⟩ := result
  simp only at hreply hkeeps hmem ⊢
  have hanswer : RqAnswers (L.cmdPkt dma s i) rsp :=
    ⟨hreply.refl, hreply.refh, hreply.opcode (by rw [BitVec.and_assoc]; rfl)⟩
  obtain ⟨credits, hctc, happly, hcredits⟩ := rqApplyCredits_end hanswer.isEnd hreply.hctc c₁
  obtain ⟨cflgs, units, rfl⟩ := hkeeps
  simp only [happly]
  obtain ⟨s₂, hwrite, hsame₂, hwords⟩ :=
    writeRsp_at (hmem.placed hp) hrsp (rqAssign rsp [(rqHctc, hctc)]) hreply.len
  rw [hwrite]
  have hp₂ := hsame₂.placed (hmem.placed hp)
  obtain ⟨s₃, hcmdDone, hsame₃, hcmdHome⟩ := rqReleaseDesc_cmd
    (c := { c with cflgs := cflgs, credits := credits, units := units }) hp₂ hcomm i cmdDesc
  obtain ⟨t, hrspDone, hsame₄, hrspHome⟩ := rqReleaseDesc_rsp
    (c := { c with cflgs := cflgs, credits := credits, units := units, cmdRing := rqRingAdvance c.cmdRing })
    (hsame₃.placed hp₂) hcomm j rspDesc
  obtain ⟨irqReq, hirq⟩ := rqRaiseIrq_eq
    { c with
      cflgs := cflgs, credits := credits, units := units, cmdRing := rqRingAdvance c.cmdRing,
      rspRing := rqRingAdvance c.rspRing }
  simp only [hcmdDone, hrspDone, hirq]
  refine ⟨_, t, rfl, ?_⟩
  -- The words of the response stand while the descriptors go back.
  have hkeep : ∀ k : Fin 32, L.rspPkt dma t j k = L.rspPkt dma s₂ j k := fun k =>
    have hk : 2 * k.val + 1 < (RqArea.rspBuf (n := n) j).len := show 2 * k.val + 1 < 64 by omega
    (hsame₄.wordAt hk (by simp)).trans (hsame₃.wordAt hk (by simp))
  have hword : ∀ k : Fin 32, k.val < 8 → L.rspPkt dma t j k = rqAssign rsp [(rqHctc, hctc)] k := fun k hk =>
    (hkeep k).trans (hwords k hk)
  refine
    { state := rfl, comm := rfl, pollPending := rfl, cmdRing := rfl, rspRing := rfl, same := ?_, cmdHome := ?_,
      rspHome := owned_released hrspHome, answers := ⟨?_, ?_, ?_⟩, credits := ?_ }
  · refine (hmem.mono fun q _ h => h.elim).trans ((hsame₂.mono fun q _ h => ?_).trans
      ((hsame₃.mono fun q _ h => ?_).trans (hsame₄.mono fun q _ h => ?_)))
    · exact Or.inr (Or.inr (Or.inr h))
    · exact h.elim Or.inl fun h => Or.inr (Or.inl h)
    · exact h.elim Or.inl fun h => Or.inr (Or.inr (Or.inl h))
  · have hstays : L.areas.dwordAt dma t (.cmdSlot i) = L.areas.dwordAt dma s₃ (.cmdSlot i) :=
      hsame₄.dwordAt (show 4 ≤ (RqArea.cmdSlot (m := m) i).len from Nat.le_refl 4) (by simp)
    exact owned_released (hstays.trans hcmdHome)
  · rw [hword _ (by decide)]
    exact hanswer.refl
  · rw [hword _ (by decide)]
    exact hanswer.refh
  · rw [hword _ (by decide)]
    exact hanswer.opf
  · unfold rqCreditsOf
    rw [hword _ (by decide)]
    exact hcredits

/-- A message of the controller's own was put into slot `j`. -/
structure RqAnnounced (L : RqLayout n m) (cells : dma.Cells) (j : Fin m) (c : Rq11) (s : σ) (c' : Rq11) (t : σ) :
    Prop where
  state : c'.state = c.state
  comm : c'.comm = c.comm
  pollPending : c'.pollPending = c.pollPending
  cmdRing : c'.cmdRing = c.cmdRing
  rspRing : c'.rspRing = rqRingAdvance c.rspRing
  credits : c'.credits = c.credits
  same : L.areas.Same dma cells (fun q _ => q = .intr ∨ q = .rspSlot j ∨ q = .rspBuf j) s t
  rspHome : L.rspOwned dma t j = false
  notEnd : rqIsEnd (L.rspPkt dma t j) = false

theorem rqRingPeekOwned_cmd [NeZero n] (hp : L.areas.Placed cells s) (k : Nat) :
    rqRingPeekOwned dma (L.cmdRingAt k) s =
      if L.cmdOwned dma s (slotOf n k) then
        .owned (L.cmdDesc dma s (slotOf n k)) (L.addr (.cmdSlot (slotOf n k)))
      else .empty := by
  have hpeek : rqRingPeekOwned dma (L.cmdRingAt k) s = _ :=
    rqRingPeekOwned_at hp (p := .cmdSlot (slotOf n k)) rfl (ringAt_len _ L.cmd_count k) rfl
  rw [hpeek]
  unfold cmdOwned cmdDesc
  split_ifs <;> simp_all

theorem rqRingPeekOwned_rsp [NeZero m] (hp : L.areas.Placed cells s) (k : Nat) :
    rqRingPeekOwned dma (L.rspRingAt k) s =
      if L.rspOwned dma s (slotOf m k) then
        .owned (L.rspDesc dma s (slotOf m k)) (L.addr (.rspSlot (slotOf m k)))
      else .empty := by
  have hpeek : rqRingPeekOwned dma (L.rspRingAt k) s = _ :=
    rqRingPeekOwned_at hp (p := .rspSlot (slotOf m k)) rfl (ringAt_len _ L.rsp_count k) rfl
  rw [hpeek]
  unfold rspOwned rspDesc
  split_ifs <;> simp_all

/-- A round with no command, or with no room for the response, does nothing; any other answers one command. -/
theorem rqProcessOne_cases [NeZero n] [NeZero m] (hp : L.areas.Placed cells s) (hcomm : c.comm = L.comm) {a r : Nat}
    (hcmdRing : c.cmdRing = L.cmdRingAt a) (hrspRing : c.rspRing = L.rspRingAt r)
    (hcmd : L.cmdOwned dma s (slotOf n a) = true →
      L.cmdDesc dma s (slotOf n a) &&& rqDescAddr = L.cmdText (slotOf n a) ∧
      RqDataClear L.areas cells (L.cmdPkt dma s (slotOf n a)) s)
    (hrsp : L.rspOwned dma s (slotOf m r) = true →
      L.rspDesc dma s (slotOf m r) &&& rqDescAddr = L.rspText (slotOf m r)) :
    ((L.cmdOwned dma s (slotOf n a) = false ∨ L.rspOwned dma s (slotOf m r) = false) ∧
      rqProcessOne dma c s = (.idle, c, s)) ∨
    (L.cmdOwned dma s (slotOf n a) = true ∧ L.rspOwned dma s (slotOf m r) = true ∧
      ∃ c' t, rqProcessOne dma c s = (.done, c', t) ∧ RqAnswered L cells (slotOf n a) (slotOf m r) c s c' t) := by
  unfold rqProcessOne
  rw [hcmdRing, hrspRing, rqRingPeekOwned_cmd hp, rqRingPeekOwned_rsp hp]
  cases hcmdOwned : L.cmdOwned dma s (slotOf n a) with
  | false => exact Or.inl ⟨Or.inl rfl, rfl⟩
  | true =>
    cases hrspOwned : L.rspOwned dma s (slotOf m r) with
    | false => exact Or.inl ⟨Or.inr rfl, rfl⟩
    | true =>
      obtain ⟨hdesc, hclear⟩ := hcmd hcmdOwned
      exact Or.inr ⟨rfl, rfl, rqAnswer_done hp hcomm hdesc (hrsp hrspOwned) hclear⟩

/-- An attention message goes out if one is due and there is room for it. -/
theorem rqPostAttentionUna_cases [NeZero m] (hp : L.areas.Placed cells s) (hcomm : c.comm = L.comm) {r : Nat}
    (hrspRing : c.rspRing = L.rspRingAt r)
    (hrsp : L.rspOwned dma s (slotOf m r) = true →
      L.rspDesc dma s (slotOf m r) &&& rqDescAddr = L.rspText (slotOf m r)) :
    rqPostAttentionUna dma c s = (.idle, c, s) ∨
    (L.rspOwned dma s (slotOf m r) = true ∧
      ∃ c' t, rqPostAttentionUna dma c s = (.done, c', t) ∧ RqAnnounced L cells (slotOf m r) c s c' t) := by
  unfold rqPostAttentionUna
  by_cases hatn : c.cflgs &&& rqCfAtn = 0
  · rw [if_pos hatn]
    exact Or.inl rfl
  rw [if_neg hatn]
  cases (List.finRange rq11MaxUnits).find? fun unit => (c.units unit).unaPending with
  | none => exact Or.inl rfl
  | some unit =>
    simp only
    rw [hrspRing, rqRingPeekOwned_rsp hp]
    cases hrspOwned : L.rspOwned dma s (slotOf m r) with
    | false => exact Or.inl rfl
    | true =>
      refine Or.inr ⟨rfl, ?_⟩
      have hdesc := hrsp hrspOwned
      have hlow : ¬ L.rspDesc dma s (slotOf m r) &&& rqDescAddr < 4 := by
        rw [hdesc]
        exact BitVec.not_lt.2 (BitVec.le_def.2 (L.rspText_low _))
      have hnotEnd : rqIsEnd (rqPrepareUna unit c) = false :=
        show decide (rqOpAva &&& rqOpEnd ≠ 0) = false from by decide
      have hlen : rqPrepareUna unit c rqHlnt ∈ [rqRspLnt, rqGcsLnt, rqSccLnt, rqOnlLnt, rqGusLntD] :=
        show rqUnaLnt ∈ [rqRspLnt, rqGcsLnt, rqSccLnt, rqOnlLnt, rqGusLntD] from by decide
      obtain ⟨s₁, hwrite, hsame₁, hwords⟩ := writeRsp_at hp hdesc (rqPrepareUna unit c) hlen
      obtain ⟨t, hrelease, hsame₂, hhome⟩ := rqReleaseDesc_rsp (c := c) (hsame₁.placed hp) hcomm (slotOf m r)
        (L.rspDesc dma s (slotOf m r))
      obtain ⟨irqReq, hirq⟩ := rqRaiseIrq_eq
        { c with
          rspRing := rqRingAdvance c.rspRing,
          units := Function.update c.units unit { c.units unit with unaPending := false } }
      simp only [if_true, if_neg hlow, rqApplyCredits_other hnotEnd, hwrite, hrelease, hirq]
      refine ⟨_, t, rfl, ?_⟩
      have hopf : L.rspPkt dma t (slotOf m r) rqRspOpf = rqPrepareUna unit c rqRspOpf := by
        rw [← hwords rqRspOpf (by decide)]
        exact hsame₂.wordAt (show 2 * 6 + 1 < 64 by decide) (by simp)
      refine
        { state := rfl, comm := rfl, pollPending := rfl, cmdRing := rfl, rspRing := rfl, credits := rfl,
          same := (hsame₁.mono fun q _ h => Or.inr (Or.inr h)).trans (hsame₂.mono fun q _ h => ?_),
          rspHome := owned_released hhome, notEnd := ?_ }
      · exact h.elim Or.inl fun h => Or.inr (Or.inl h)
      · unfold rqIsEnd at hnotEnd ⊢
        rw [hopf, hnotEnd]

end Steps

end K1801.Lsi11
