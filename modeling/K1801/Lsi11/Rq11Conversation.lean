import Mathlib.Data.List.Forall2
import K1801.Lsi11.BusBounds
import K1801.Lsi11.Rq11Rings

/-! # Conversations with the RQ11

Host and controller take turns in any order. The host hands over commands and response buffers, takes responses and
does anything else in memory it has not handed over; the controller is polled in between.
-/

namespace K1801.Lsi11

open Core Library RqLayout

attribute [local instance] rqPktWords_neZero rq11MaxUnits_neZero

/-- The controller, memory, and what the host has handed over and taken since the port came up. -/
structure RqSystem (σ : Type) where
  c : Rq11
  s : σ
  posted : List RqPacket
  offered : Nat
  taken : List RqPacket

section Conversation

variable {n m : Nat} [NeZero n] [NeZero m] {σ : Type} {dma : Dma σ}

/-- The host changes memory, but nothing that the controller owns and no response that it has not taken. `cmd` and
`rsp` are the owners of the descriptors afterwards. -/
structure RqHostStores (L : RqLayout n m) (cells : dma.Cells) (sys : RqSystem σ) (t : σ) (cmd : Fin n → Bool)
    (rsp : Fin m → Bool) : Prop where
  placed : L.areas.Placed cells t
  cmdOwned : L.cmdOwned dma t = cmd
  rspOwned : L.rspOwned dma t = rsp
  cmdDesc : ∀ i, L.cmdOwned dma sys.s i = true → L.cmdDesc dma t i = L.cmdDesc dma sys.s i
  cmdPkt : ∀ i, L.cmdOwned dma sys.s i = true → L.cmdPkt dma t i = L.cmdPkt dma sys.s i
  clear : ∀ i, L.cmdOwned dma sys.s i = true → RqDataClear L.areas cells (L.cmdPkt dma sys.s i) sys.s →
    RqDataClear L.areas cells (L.cmdPkt dma sys.s i) t
  rspDesc : ∀ j, L.rspOwned dma sys.s j = true → L.rspDesc dma t j = L.rspDesc dma sys.s j
  untaken : ∀ k, sys.taken.length ≤ k → k < sys.offered → L.rspOwned dma sys.s (slotOf m k) = false →
    L.rspPkt dma t (slotOf m k) = L.rspPkt dma sys.s (slotOf m k)

/-- One action of the host, or a poll of the controller. -/
inductive RqStep (L : RqLayout n m) (cells : dma.Cells) : RqSystem σ → RqSystem σ → Prop
  | store {sys t} : RqHostStores L cells sys t (L.cmdOwned dma sys.s) (L.rspOwned dma sys.s) →
      RqStep L cells sys { sys with s := t }
  | post {sys t} : L.cmdOwned dma sys.s (slotOf n sys.posted.length) = false →
      RqHostStores L cells sys t (Function.update (L.cmdOwned dma sys.s) (slotOf n sys.posted.length) true)
        (L.rspOwned dma sys.s) →
      L.cmdDesc dma t (slotOf n sys.posted.length) &&& rqDescAddr = L.cmdText (slotOf n sys.posted.length) →
      RqDataClear L.areas cells (L.cmdPkt dma t (slotOf n sys.posted.length)) t →
      RqStep L cells sys
        { sys with s := t, posted := sys.posted ++ [L.cmdPkt dma t (slotOf n sys.posted.length)] }
  | offer {sys t} : sys.offered < sys.taken.length + m →
      RqHostStores L cells sys t (L.cmdOwned dma sys.s)
        (Function.update (L.rspOwned dma sys.s) (slotOf m sys.offered) true) →
      L.rspDesc dma t (slotOf m sys.offered) &&& rqDescAddr = L.rspText (slotOf m sys.offered) →
      RqStep L cells sys { sys with s := t, offered := sys.offered + 1 }
  | take {sys} : sys.taken.length < sys.offered → L.rspOwned dma sys.s (slotOf m sys.taken.length) = false →
      RqStep L cells sys { sys with taken := sys.taken ++ [L.rspPkt dma sys.s (slotOf m sys.taken.length)] }
  | read {sys} (addr : Word) :
      RqStep L cells sys
        { sys with c := (rq11Read8 dma addr sys.c sys.s).2.1, s := (rq11Read8 dma addr sys.c sys.s).2.2 }
  | writeSa {sys} (addr : Word) (v : Byte) : 2 ≤ (addr &&& 3).toNat →
      RqStep L cells sys
        { sys with c := (rq11Write8 dma addr v sys.c sys.s).1, s := (rq11Write8 dma addr v sys.c sys.s).2 }
  | irqAck {sys} : RqStep L cells sys { sys with c := rqIrqAck sys.c }
  | openImage {sys} (unit : Fin rq11MaxUnits) (image : Option (DiskFile × Bool)) :
      RqStep L cells sys { sys with c := rq11OpenImageUnit unit image sys.c }
  | closeImage {sys} : RqStep L cells sys { sys with c := rq11CloseImage sys.c }
  | poll {sys} : RqStep L cells sys { sys with c := (rq11Poll dma sys.c sys.s).1, s := (rq11Poll dma sys.c sys.s).2 }

/-- The port has just come up: the rings are empty and nothing was said yet. -/
structure RqFresh (L : RqLayout n m) (cells : dma.Cells) (sys : RqSystem σ) : Prop where
  state : sys.c.state = .up
  comm : sys.c.comm = L.comm
  cmdRing : sys.c.cmdRing = L.cmdRingAt 0
  rspRing : sys.c.rspRing = L.rspRingAt 0
  credits : sys.c.credits = 7
  placed : L.areas.Placed cells sys.s
  cmdOwned : ∀ i, L.cmdOwned dma sys.s i = false
  rspOwned : ∀ j, L.rspOwned dma sys.s j = false
  posted : sys.posted = []
  offered : sys.offered = 0
  taken : sys.taken = []

/-- The first `answered` commands were answered, and the responses `waiting` are in memory for the host to take. -/
structure RqConversation (L : RqLayout n m) (cells : dma.Cells) (sys : RqSystem σ) (answered : Nat)
    (waiting : List RqPacket) : Prop where
  state : sys.c.state = .up
  comm : sys.c.comm = L.comm
  cmdRing : sys.c.cmdRing = L.cmdRingAt answered
  rspRing : sys.c.rspRing = L.rspRingAt (sys.taken.length + waiting.length)
  placed : L.areas.Placed cells sys.s
  cmds : SlotRing (L.cmdOwned dma sys.s) answered sys.posted.length
  rsps : SlotRing (L.rspOwned dma sys.s) (sys.taken.length + waiting.length) sys.offered
  bound : sys.offered ≤ sys.taken.length + m
  cmdDesc : ∀ k, answered ≤ k → k < sys.posted.length →
    L.cmdDesc dma sys.s (slotOf n k) &&& rqDescAddr = L.cmdText (slotOf n k)
  pending : ∀ k pkt, answered ≤ k → sys.posted[k]? = some pkt →
    L.cmdPkt dma sys.s (slotOf n k) = pkt ∧ RqDataClear L.areas cells pkt sys.s
  rspDesc : ∀ k, sys.taken.length + waiting.length ≤ k → k < sys.offered →
    L.rspDesc dma sys.s (slotOf m k) &&& rqDescAddr = L.rspText (slotOf m k)
  found : ∀ k pkt, waiting[k]? = some pkt → L.rspPkt dma sys.s (slotOf m (sys.taken.length + k)) = pkt
  answers : List.Forall₂ RqAnswers (sys.posted.take answered) ((sys.taken ++ waiting).filter rqIsEnd)
  credits : (((sys.taken ++ waiting).filter rqIsEnd).map rqCreditsOf).sum + sys.c.credits.toNat = 7 + answered

variable {L : RqLayout n m} {cells : dma.Cells} {sys : RqSystem σ} {answered : Nat} {waiting : List RqPacket}

theorem RqFresh.conversation (h : RqFresh L cells sys) : RqConversation L cells sys 0 [] where
  state := h.state
  comm := h.comm
  cmdRing := h.cmdRing
  rspRing := by rw [h.taken]; exact h.rspRing
  placed := h.placed
  cmds := by rw [h.posted]; exact .empty h.cmdOwned
  rsps := by rw [h.taken, h.offered]; exact .empty h.rspOwned
  bound := by rw [h.offered]; exact Nat.zero_le _
  cmdDesc k _ hk := by rw [h.posted] at hk; exact absurd hk (Nat.not_lt_zero k)
  pending k pkt _ hk := by rw [h.posted] at hk; cases hk
  rspDesc k _ hk := by rw [h.offered] at hk; exact absurd hk (Nat.not_lt_zero k)
  found k pkt hk := by cases hk
  answers := by rw [h.taken]; exact .nil
  credits := by rw [h.taken, h.credits]; rfl

/-- The port and the rings are untouched. -/
structure RqSamePort (c c' : Rq11) : Prop where
  state : c'.state = c.state
  comm : c'.comm = c.comm
  cmdRing : c'.cmdRing = c.cmdRing
  rspRing : c'.rspRing = c.rspRing
  credits : c'.credits = c.credits

namespace RqConversation

/-! ## The host -/

theorem stores (h : RqConversation L cells sys answered waiting) {t : σ} {cmd : Fin n → Bool} {rsp : Fin m → Bool}
    {more : List RqPacket} {offered : Nat} (hs : RqHostStores L cells sys t cmd rsp)
    (hcmds : SlotRing cmd answered (sys.posted ++ more).length)
    (hrsps : SlotRing rsp (sys.taken.length + waiting.length) offered) (hbound : offered ≤ sys.taken.length + m)
    (hdesc : ∀ k, sys.posted.length ≤ k → k < (sys.posted ++ more).length →
      L.cmdDesc dma t (slotOf n k) &&& rqDescAddr = L.cmdText (slotOf n k))
    (hmore : ∀ k pkt, more[k]? = some pkt →
      L.cmdPkt dma t (slotOf n (sys.posted.length + k)) = pkt ∧ RqDataClear L.areas cells pkt t)
    (hroom : ∀ k, sys.offered ≤ k → k < offered →
      L.rspDesc dma t (slotOf m k) &&& rqDescAddr = L.rspText (slotOf m k)) :
    RqConversation L cells { sys with s := t, posted := sys.posted ++ more, offered := offered } answered waiting where
  state := h.state
  comm := h.comm
  cmdRing := h.cmdRing
  rspRing := h.rspRing
  placed := hs.placed
  cmds := by rw [hs.cmdOwned]; exact hcmds
  rsps := by rw [hs.rspOwned]; exact hrsps
  bound := hbound
  cmdDesc k hk hlt := by
    by_cases hold : k < sys.posted.length
    · rw [hs.cmdDesc _ (h.cmds.out k hk hold)]
      exact h.cmdDesc k hk hold
    · exact hdesc k (Nat.le_of_not_lt hold) hlt
  pending k pkt hk hpkt := by
    by_cases hold : k < sys.posted.length
    · rw [List.getElem?_append_left hold] at hpkt
      obtain ⟨hsame, hclear⟩ := h.pending k pkt hk hpkt
      have hout := h.cmds.out k hk hold
      refine ⟨(hs.cmdPkt _ hout).trans hsame, ?_⟩
      rw [← hsame] at hclear ⊢
      exact hs.clear _ hout hclear
    · rw [List.getElem?_append_right (Nat.le_of_not_lt hold)] at hpkt
      have hnew := hmore _ pkt hpkt
      rwa [Nat.add_sub_cancel' (Nat.le_of_not_lt hold)] at hnew
  rspDesc k hk hlt := by
    by_cases hold : k < sys.offered
    · rw [hs.rspDesc _ (h.rsps.out k hk hold)]
      exact h.rspDesc k hk hold
    · exact hroom k (Nat.le_of_not_lt hold) hlt
  found k pkt hk := by
    have hlt : k < waiting.length := (List.getElem?_eq_some_iff.1 hk).1
    have hle := h.rsps.le
    have hbound' := h.bound
    rw [hs.untaken _ (Nat.le_add_right _ _) (by omega), h.found k pkt hk]
    -- The slots of the waiting responses are those before the offered ones.
    have hhome := h.rsps.home (sys.taken.length + k + m)
    rw [slotOf_add] at hhome
    exact hhome (by omega) (by omega)
  answers := by
    rw [List.take_append_of_le_length h.cmds.le]
    exact h.answers
  credits := h.credits

theorem take (h : RqConversation L cells sys answered waiting) (hlt : sys.taken.length < sys.offered)
    (hhome : L.rspOwned dma sys.s (slotOf m sys.taken.length) = false) :
    ∃ rest, RqConversation L cells
      { sys with taken := sys.taken ++ [L.rspPkt dma sys.s (slotOf m sys.taken.length)] } answered rest := by
  cases waiting with
  | nil =>
    have hout := h.rsps.owned_back.2 hlt
    rw [show slotOf m (sys.taken.length + ([] : List RqPacket).length) = slotOf m sys.taken.length from rfl,
      hhome] at hout
    cases hout
  | cons first rest =>
    have hfirst : L.rspPkt dma sys.s (slotOf m sys.taken.length) = first := h.found 0 first rfl
    have hlen : (sys.taken ++ [first]).length + rest.length = sys.taken.length + (first :: rest).length := by
      rw [List.length_append, List.length_cons, List.length_cons, List.length_nil]
      omega
    have happ : sys.taken ++ [first] ++ rest = sys.taken ++ first :: rest := by
      rw [List.append_assoc, List.singleton_append]
    rw [hfirst]
    exact ⟨rest,
      { state := h.state
        comm := h.comm
        cmdRing := h.cmdRing
        rspRing := by rw [hlen]; exact h.rspRing
        placed := h.placed
        cmds := h.cmds
        rsps := by rw [hlen]; exact h.rsps
        bound := by
          have hbound := h.bound
          rw [List.length_append, List.length_singleton]
          show sys.offered ≤ _
          omega
        cmdDesc := h.cmdDesc
        pending := h.pending
        rspDesc := by rw [hlen]; exact h.rspDesc
        found := fun k pkt hk => by
          rw [List.length_append, List.length_singleton, Nat.add_assoc, Nat.add_comm 1]
          exact h.found (k + 1) pkt hk
        answers := by rw [happ]; exact h.answers
        credits := by rw [happ]; exact h.credits }⟩

/-! ## Registers -/

theorem withPort (h : RqConversation L cells sys answered waiting) {c : Rq11} (hc : RqSamePort sys.c c) :
    RqConversation L cells { sys with c := c } answered waiting :=
  { h with
    state := hc.state.trans h.state
    comm := hc.comm.trans h.comm
    cmdRing := hc.cmdRing.trans h.cmdRing
    rspRing := hc.rspRing.trans h.rspRing
    credits := by
      show _ + c.credits.toNat = _
      rw [hc.credits]
      exact h.credits }

end RqConversation

theorem rq11Read8_up (addr : Word) {c : Rq11} (hup : c.state = .up) (s : σ) :
    RqSamePort c (rq11Read8 dma addr c s).2.1 ∧ (rq11Read8 dma addr c s).2.2 = s := by
  have hip : RqSamePort c (rqHandleIpRead dma c s).1 ∧ (rqHandleIpRead dma c s).2 = s := by
    unfold rqHandleIpRead
    rw [hup]
    exact ⟨⟨hup.symm ▸ rfl, rfl, rfl, rfl, rfl⟩, rfl⟩
  unfold rq11Read8
  split
  · exact ⟨⟨rfl, rfl, rfl, rfl, rfl⟩, rfl⟩
  · exact ⟨⟨rfl, rfl, rfl, rfl, rfl⟩, rfl⟩
  · exact hip

theorem rq11Write8_up {addr : Word} (haddr : 2 ≤ (addr &&& 3).toNat) (v : Byte) {c : Rq11} (hup : c.state = .up)
    (s : σ) : RqSamePort c (rq11Write8 dma addr v c s).1 ∧ (rq11Write8 dma addr v c s).2 = s := by
  have hcase : (addr &&& 3).toNat = 2 ∨ (addr &&& 3).toNat = 3 := by
    have hle : (addr &&& 3).toNat ≤ 3 := by
      rw [BitVec.toNat_and]
      exact Nat.and_le_right
    omega
  rcases hcase with h | h
  · simp only [rq11Write8, h]
    exact ⟨⟨rfl, rfl, rfl, rfl, rfl⟩, trivial⟩
  · simp only [rq11Write8, h, rqHandleSaWrite, hup]
    exact ⟨⟨hup.symm, rfl, rfl, rfl, rfl⟩, trivial⟩

/-! ## The controller -/

/-- The owner of a slot that was given back, among slots that were left alone. -/
theorem owners_update {k : Nat} {owned owned' : Fin k → Bool} {i : Fin k}
    (hother : ∀ j, j ≠ i → owned' j = owned j) (hhome : owned' i = false) : owned' = Function.update owned i false := by
  funext j
  by_cases hj : j = i
  · rw [hj, hhome, Function.update_self]
  · rw [hother j hj, Function.update_of_ne hj]

section Frames

variable {except : RqArea n m → Nat → Prop} {s t : σ} (h : L.areas.Same dma cells except s t)

include h

omit [NeZero n] [NeZero m] in
theorem same_cmdDesc {i : Fin n} (he : ∀ b, ¬ except (.cmdSlot i) b) : L.cmdDesc dma t i = L.cmdDesc dma s i :=
  h.dwordAt (show 4 ≤ (RqArea.cmdSlot (m := m) i).len from Nat.le_refl 4) fun b _ => he b

omit [NeZero n] [NeZero m] in
theorem same_rspDesc {j : Fin m} (he : ∀ b, ¬ except (.rspSlot j) b) : L.rspDesc dma t j = L.rspDesc dma s j :=
  h.dwordAt (show 4 ≤ (RqArea.rspSlot (n := n) j).len from Nat.le_refl 4) fun b _ => he b

omit [NeZero n] [NeZero m] in
theorem same_cmdPkt {i : Fin n} (he : ∀ b, ¬ except (.cmdBuf i) b) : L.cmdPkt dma t i = L.cmdPkt dma s i :=
  funext fun k => h.wordAt (show 2 * k.val + 1 < 64 by omega) ⟨he _, he _⟩

omit [NeZero n] [NeZero m] in
theorem same_rspPkt {j : Fin m} (he : ∀ b, ¬ except (.rspBuf j) b) : L.rspPkt dma t j = L.rspPkt dma s j :=
  funext fun k => h.wordAt (show 2 * k.val + 1 < 64 by omega) ⟨he _, he _⟩

end Frames

omit [NeZero n] [NeZero m] in
/-- Clear data stays clear while the controller writes. -/
theorem RqDataClear.same {except : RqArea n m → Nat → Prop} {s t : σ} (h : L.areas.Same dma cells except s t)
    {pkt : RqPacket} (hclear : RqDataClear L.areas cells pkt s) : RqDataClear L.areas cells pkt t :=
  fun hrd => h.clear (hclear hrd)

namespace RqConversation

/-- A message was put into the next response slot; `answered'` counts the commands answered then. -/
theorem sent (h : RqConversation L cells sys answered waiting) {c : Rq11} {t : σ} {answered' : Nat}
    {except : RqArea n m → Nat → Prop} (hsame : L.areas.Same dma cells except sys.s t)
    (hout : sys.taken.length + waiting.length < sys.offered)
    (hexcept : ∀ q b, except q b → q = .intr ∨ (∃ i, q = .cmdSlot i) ∨
      q = .rspSlot (slotOf m (sys.taken.length + waiting.length)) ∨
      q = .rspBuf (slotOf m (sys.taken.length + waiting.length)))
    (hhome : L.rspOwned dma t (slotOf m (sys.taken.length + waiting.length)) = false)
    (hstate : c.state = .up) (hcomm : c.comm = L.comm) (hcmdRing : c.cmdRing = L.cmdRingAt answered')
    (hrspRing : c.rspRing = rqRingAdvance sys.c.rspRing)
    (hcmds : SlotRing (L.cmdOwned dma t) answered' sys.posted.length)
    (hcmdDesc : ∀ k, answered' ≤ k → k < sys.posted.length → answered ≤ k ∧
      L.cmdDesc dma t (slotOf n k) = L.cmdDesc dma sys.s (slotOf n k))
    (hanswers : List.Forall₂ RqAnswers (sys.posted.take answered')
      ((sys.taken ++ (waiting ++ [L.rspPkt dma t (slotOf m (sys.taken.length + waiting.length))])).filter rqIsEnd))
    (hcredits : (((sys.taken ++ (waiting ++ [L.rspPkt dma t (slotOf m (sys.taken.length + waiting.length))])).filter
      rqIsEnd).map rqCreditsOf).sum + c.credits.toNat = 7 + answered') :
    RqConversation L cells { sys with c := c, s := t } answered'
      (waiting ++ [L.rspPkt dma t (slotOf m (sys.taken.length + waiting.length))]) := by
  have hbound := h.bound
  have hlen : sys.taken.length + (waiting ++ [L.rspPkt dma t (slotOf m (sys.taken.length + waiting.length))]).length =
      sys.taken.length + waiting.length + 1 := by
    rw [List.length_append, List.length_singleton]
    rfl
  have hdesc : ∀ j, j ≠ slotOf m (sys.taken.length + waiting.length) →
      L.rspDesc dma t j = L.rspDesc dma sys.s j := fun j hj => same_rspDesc hsame fun b he => by
    have hq := hexcept _ b he
    simp at hq
    exact hj hq
  have howners : L.rspOwned dma t = Function.update (L.rspOwned dma sys.s)
      (slotOf m (sys.taken.length + waiting.length)) false := by
    refine owners_update (fun j hj => ?_) hhome
    unfold rspOwned
    rw [hdesc j hj]
  exact
    { state := hstate
      comm := hcomm
      cmdRing := hcmdRing
      rspRing := by
        rw [hlen]
        show c.rspRing = _
        rw [hrspRing, h.rspRing]
        exact ringAt_advance L.rsp_count _
      placed := hsame.placed h.placed
      cmds := hcmds
      rsps := by
        rw [hlen]
        show SlotRing (L.rspOwned dma t) _ sys.offered
        rw [howners]
        exact h.rsps.giveBack hout
      bound := hbound
      cmdDesc := fun k hk hlt => by
        obtain ⟨hle, heq⟩ := hcmdDesc k hk hlt
        show L.cmdDesc dma t _ &&& _ = _
        rw [heq]
        exact h.cmdDesc k hle hlt
      pending := fun k pkt hk hpkt => by
        have hlt : k < sys.posted.length := (List.getElem?_eq_some_iff.1 hpkt).1
        obtain ⟨hold, hclear⟩ := h.pending k pkt (hcmdDesc k hk hlt).1 hpkt
        refine ⟨(same_cmdPkt hsame fun b he => ?_).trans hold, hclear.same hsame⟩
        have hq := hexcept _ b he
        simp at hq
      rspDesc := fun k hk hlt => by
        have hk : sys.taken.length + waiting.length + 1 ≤ k := hlen ▸ hk
        show L.rspDesc dma t _ &&& _ = _
        rw [hdesc _ fun heq => by
          have hlt' : k < sys.offered := hlt
          have hk' := slotOf_inj (by omega) (by omega) heq
          omega]
        exact h.rspDesc k (by omega) hlt
      found := fun k pkt hk => by
        by_cases hlast : k < waiting.length
        · rw [List.getElem?_append_left hlast] at hk
          refine (same_rspPkt hsame fun b he => ?_).trans (h.found k pkt hk)
          have hq := hexcept _ b he
          simp at hq
          have hk' := slotOf_inj (by omega) (by omega) hq
          omega
        · have hk' : k = waiting.length := by
            have hlt := (List.getElem?_eq_some_iff.1 hk).1
            rw [List.length_append, List.length_singleton] at hlt
            omega
          rw [hk', List.getElem?_append_right (Nat.le_refl _), Nat.sub_self] at hk
          rw [hk']
          exact Option.some.inj hk
      answers := hanswers
      credits := hcredits }

theorem answer (h : RqConversation L cells sys answered waiting) {c : Rq11} {t : σ}
    (hcmd : answered < sys.posted.length) (hout : sys.taken.length + waiting.length < sys.offered)
    (ha : RqAnswered L cells (slotOf n answered) (slotOf m (sys.taken.length + waiting.length)) sys.c sys.s c t) :
    RqConversation L cells { sys with c := c, s := t } (answered + 1)
      (waiting ++ [L.rspPkt dma t (slotOf m (sys.taken.length + waiting.length))]) := by
  have hroom := h.cmds.room
  have hdesc : ∀ i, i ≠ slotOf n answered → L.cmdDesc dma t i = L.cmdDesc dma sys.s i := fun i hi =>
    same_cmdDesc ha.same fun b he => by simp [hi] at he
  have howners : L.cmdOwned dma t = Function.update (L.cmdOwned dma sys.s) (slotOf n answered) false := by
    refine owners_update (fun i hi => ?_) ha.cmdHome
    unfold cmdOwned
    rw [hdesc i hi]
  have hpkt := h.pending answered _ (Nat.le_refl _) (List.getElem?_eq_getElem hcmd)
  have hanswer := ha.answers
  rw [hpkt.1] at hanswer
  have hfilter : (sys.taken ++ (waiting ++ [L.rspPkt dma t (slotOf m (sys.taken.length + waiting.length))])).filter
      rqIsEnd = (sys.taken ++ waiting).filter rqIsEnd ++
        [L.rspPkt dma t (slotOf m (sys.taken.length + waiting.length))] := by
    rw [← List.append_assoc, List.filter_append, List.filter_singleton, hanswer.isEnd]
    rfl
  refine h.sent ha.same hout (fun q b he => ?_) ha.rspHome (ha.state.trans h.state) (ha.comm.trans h.comm) ?_
    ha.rspRing ?_ (fun k hk hlt => ⟨by omega, hdesc _ fun heq => ?_⟩) ?_ ?_
  · rcases he with he | he | he | he
    · exact Or.inl he
    · exact Or.inr (Or.inl ⟨_, he⟩)
    · exact Or.inr (Or.inr (Or.inl he))
    · exact Or.inr (Or.inr (Or.inr he))
  · rw [ha.cmdRing, h.cmdRing]
    exact ringAt_advance L.cmd_count _
  · rw [howners]
    exact h.cmds.giveBack hcmd
  · have hsame := slotOf_inj (by omega) (by omega) heq
    omega
  · rw [hfilter, List.take_succ_eq_append_getElem hcmd]
    exact List.rel_append h.answers (.cons hanswer .nil)
  · have hold := h.credits
    have hnew := ha.credits
    rw [hfilter, List.map_append, List.sum_append, List.map_singleton, List.sum_singleton]
    omega

theorem announce (h : RqConversation L cells sys answered waiting) {c : Rq11} {t : σ}
    (hout : sys.taken.length + waiting.length < sys.offered)
    (ha : RqAnnounced L cells (slotOf m (sys.taken.length + waiting.length)) sys.c sys.s c t) :
    RqConversation L cells { sys with c := c, s := t } answered
      (waiting ++ [L.rspPkt dma t (slotOf m (sys.taken.length + waiting.length))]) := by
  have hdesc : ∀ i, L.cmdDesc dma t i = L.cmdDesc dma sys.s i := fun i =>
    same_cmdDesc ha.same fun b he => by simp at he
  have howners : L.cmdOwned dma t = L.cmdOwned dma sys.s := by
    funext i
    unfold cmdOwned
    rw [hdesc i]
  have hfilter : (sys.taken ++ (waiting ++ [L.rspPkt dma t (slotOf m (sys.taken.length + waiting.length))])).filter
      rqIsEnd = (sys.taken ++ waiting).filter rqIsEnd := by
    rw [← List.append_assoc, List.filter_append, List.filter_singleton, ha.notEnd]
    exact List.append_nil _
  refine h.sent ha.same hout (fun q b he => ?_) ha.rspHome (ha.state.trans h.state) (ha.comm.trans h.comm)
    (ha.cmdRing.trans h.cmdRing) ha.rspRing ?_ (fun k hk _ => ⟨hk, hdesc _⟩) ?_ ?_
  · rcases he with he | he | he
    · exact Or.inl he
    · exact Or.inr (Or.inr (Or.inl he))
    · exact Or.inr (Or.inr (Or.inr he))
  · rw [howners]
    exact h.cmds
  · rw [hfilter]
    exact h.answers
  · rw [hfilter, ha.credits]
    exact h.credits

/-- A round of the poll sends one message, or there is no command or no room for its answer. -/
theorem round (h : RqConversation L cells sys answered waiting) :
    (rqPostAttentionUna dma sys.c sys.s = (.idle, sys.c, sys.s) ∧
      rqProcessOne dma sys.c sys.s = (.idle, sys.c, sys.s) ∧
      (answered = sys.posted.length ∨ sys.taken.length + waiting.length = sys.offered)) ∨
    ∃ c t answered' msg, (rqPostAttentionUna dma sys.c sys.s = (.done, c, t) ∨
        rqPostAttentionUna dma sys.c sys.s = (.idle, sys.c, sys.s) ∧
          rqProcessOne dma sys.c sys.s = (.done, c, t)) ∧
      c.pollPending = sys.c.pollPending ∧
      RqConversation L cells { sys with c := c, s := t } answered' (waiting ++ [msg]) := by
  have hrspOwned := h.rsps.owned_back
  have hcmdOwned := h.cmds.owned_back
  have hroom : L.rspOwned dma sys.s (slotOf m (sys.taken.length + waiting.length)) = true →
      L.rspDesc dma sys.s (slotOf m (sys.taken.length + waiting.length)) &&& rqDescAddr =
        L.rspText (slotOf m (sys.taken.length + waiting.length)) := fun ho =>
    h.rspDesc _ (Nat.le_refl _) (hrspOwned.1 ho)
  rcases rqPostAttentionUna_cases h.placed h.comm h.rspRing hroom with hidle | ⟨ho, c, t, hdone, ha⟩
  · have hcmd : L.cmdOwned dma sys.s (slotOf n answered) = true →
        L.cmdDesc dma sys.s (slotOf n answered) &&& rqDescAddr = L.cmdText (slotOf n answered) ∧
          RqDataClear L.areas cells (L.cmdPkt dma sys.s (slotOf n answered)) sys.s := fun ho => by
      have hlt := hcmdOwned.1 ho
      obtain ⟨hpkt, hclear⟩ := h.pending answered _ (Nat.le_refl _) (List.getElem?_eq_getElem hlt)
      exact ⟨h.cmdDesc answered (Nat.le_refl _) hlt, hpkt ▸ hclear⟩
    rcases rqProcessOne_cases h.placed h.comm h.cmdRing h.rspRing hcmd hroom with
      ⟨hhome, hone⟩ | ⟨hco, hro, c, t, hone, ha⟩
    · refine Or.inl ⟨hidle, hone, ?_⟩
      have hle := h.cmds.le
      have hle' := h.rsps.le
      rcases hhome with hhome | hhome
      · left
        by_contra hne
        rw [hcmdOwned.2 (by omega)] at hhome
        cases hhome
      · right
        by_contra hne
        rw [hrspOwned.2 (by omega)] at hhome
        cases hhome
    · exact Or.inr ⟨c, t, _, _, Or.inr ⟨hidle, hone⟩, ha.pollPending,
        h.answer (hcmdOwned.1 hco) (hrspOwned.1 hro) ha⟩
  · exact Or.inr ⟨c, t, _, _, Or.inl hdone, ha.pollPending, h.announce (hrspOwned.1 ho) ha⟩

/-- The poll stops after its budget of messages, or when there is nothing left to do. -/
theorem rounds (budget : Nat) (h : RqConversation L cells sys answered waiting) :
    ∃ answered' more, RqConversation L cells
        { sys with
          c := (rqServiceRounds dma budget sys.c sys.s).1, s := (rqServiceRounds dma budget sys.c sys.s).2 }
        answered' (waiting ++ more) ∧
      (more.length = budget ∧ (rqServiceRounds dma budget sys.c sys.s).1.pollPending = sys.c.pollPending ∨
        answered' = sys.posted.length ∨ sys.taken.length + (waiting ++ more).length = sys.offered) := by
  induction budget generalizing sys answered waiting with
  | zero => exact ⟨answered, [], by rw [List.append_nil]; exact h, Or.inl ⟨rfl, rfl⟩⟩
  | succ budget ih =>
    rcases h.round with ⟨huna, hone, hstuck⟩ | ⟨c, t, answered', msg, hdone, hpoll, hnext⟩
    · have hstop : rqServiceRounds dma (budget + 1) sys.c sys.s = ({ sys.c with pollPending := false }, sys.s) := by
        simp only [rqServiceRounds, huna, hone]
      rw [hstop]
      refine ⟨answered, [], ?_, Or.inr ?_⟩
      · rw [List.append_nil]
        exact h.withPort ⟨rfl, rfl, rfl, rfl, rfl⟩
      · rw [List.append_nil]
        exact hstuck
    · have hgo : rqServiceRounds dma (budget + 1) sys.c sys.s = rqServiceRounds dma budget c t := by
        rcases hdone with hdone | ⟨huna, hdone⟩
        · simp only [rqServiceRounds, hdone]
        · simp only [rqServiceRounds, huna, hdone]
      rw [hgo]
      obtain ⟨answered'', more, hconv, hend⟩ := ih hnext
      refine ⟨answered'', msg :: more, ?_, ?_⟩
      · rw [List.append_cons]
        exact hconv
      · rw [List.append_cons, ← hpoll]
        refine hend.imp_left fun hall => ⟨?_, hall.2⟩
        rw [List.length_cons, hall.1]

theorem poll (h : RqConversation L cells sys answered waiting) :
    ∃ answered' more, RqConversation L cells
        { sys with c := (rq11Poll dma sys.c sys.s).1, s := (rq11Poll dma sys.c sys.s).2 }
        answered' (waiting ++ more) ∧
      (sys.c.pollPending = true →
        more.length = 8 ∧ (rq11Poll dma sys.c sys.s).1.pollPending = true ∨
        answered' = sys.posted.length ∨ sys.taken.length + (waiting ++ more).length = sys.offered) := by
  have hup : ¬ sys.c.state ≠ .up := not_not.2 h.state
  cases hpending : sys.c.pollPending with
  | false =>
    have hquiet : rq11Poll dma sys.c sys.s = (sys.c, sys.s) := by
      unfold rq11Poll
      rw [if_neg hup, hpending]
      rfl
    rw [hquiet]
    refine ⟨answered, [], ?_, fun hno => by cases hno⟩
    rw [List.append_nil]
    exact h
  | true =>
    have hserve : rq11Poll dma sys.c sys.s = rqServiceRounds dma 8 sys.c sys.s := by
      unfold rq11Poll
      rw [if_neg hup, hpending]
      rfl
    rw [hserve]
    obtain ⟨answered', more, hconv, hend⟩ := h.rounds 8
    rw [hpending] at hend
    exact ⟨answered', more, hconv, fun _ => hend⟩

/-- One action of the host or one poll keeps the conversation. -/
theorem step (h : RqConversation L cells sys answered waiting) {sys' : RqSystem σ} (hstep : RqStep L cells sys sys') :
    ∃ answered' waiting', RqConversation L cells sys' answered' waiting' := by
  cases hstep with
  | @store t hs =>
    have hnext := h.stores hs (by rw [List.append_nil]; exact h.cmds) h.rsps h.bound
      (fun k hk hlt => by rw [List.append_nil] at hlt; omega) (fun k pkt hk => by cases hk) (fun k hk hlt => by omega)
    rw [List.append_nil] at hnext
    exact ⟨answered, waiting, hnext⟩
  | @post t hfree hs hdesc hclear =>
    refine ⟨answered, waiting, h.stores hs ?_ h.rsps h.bound (fun k hk hlt => ?_) (fun k pkt hk => ?_)
      fun k hk hlt => by omega⟩
    · rw [List.length_append, List.length_singleton]
      exact h.cmds.give (h.cmds.owned_given.1 hfree)
    · rw [List.length_append, List.length_singleton] at hlt
      rw [show k = sys.posted.length by omega]
      exact hdesc
    · have hlt := (List.getElem?_eq_some_iff.1 hk).1
      rw [List.length_singleton] at hlt
      have hzero : k = 0 := by omega
      rw [hzero] at hk ⊢
      cases hk
      exact ⟨rfl, hclear⟩
  | @offer t hroom hs hdesc =>
    have hfree : sys.offered < sys.taken.length + waiting.length + m := by omega
    have hnext := h.stores hs (by rw [List.append_nil]; exact h.cmds) (h.rsps.give hfree) (by omega)
      (fun k hk hlt => by rw [List.append_nil] at hlt; omega) (fun k pkt hk => by cases hk)
      (fun k hk hlt => by rw [show k = sys.offered by omega]; exact hdesc)
    rw [List.append_nil] at hnext
    exact ⟨answered, waiting, hnext⟩
  | take hlt hhome =>
    obtain ⟨rest, hnext⟩ := h.take hlt hhome
    exact ⟨answered, rest, hnext⟩
  | read addr =>
    obtain ⟨hport, hmem⟩ := rq11Read8_up addr h.state sys.s
    rw [hmem]
    exact ⟨answered, waiting, h.withPort hport⟩
  | writeSa addr v haddr =>
    obtain ⟨hport, hmem⟩ := rq11Write8_up haddr v h.state sys.s
    rw [hmem]
    exact ⟨answered, waiting, h.withPort hport⟩
  | irqAck => exact ⟨answered, waiting, h.withPort ⟨rfl, rfl, rfl, rfl, rfl⟩⟩
  | openImage unit image =>
    refine ⟨answered, waiting, h.withPort ?_⟩
    cases image with
    | none => exact ⟨rfl, rfl, rfl, rfl, rfl⟩
    | some image => exact ⟨rfl, rfl, rfl, rfl, rfl⟩
  | closeImage => exact ⟨answered, waiting, h.withPort ⟨rfl, rfl, rfl, rfl, rfl⟩⟩
  | poll =>
    obtain ⟨answered', more, hnext, -⟩ := h.poll
    exact ⟨answered', waiting ++ more, hnext⟩

end RqConversation

end Conversation

/-! ## On the board -/

/-- Rings of one descriptor at 001000, packets at 002000 and 002200. -/
def rqLowPlace : RqArea 1 1 → Nat
  | .intr => 508
  | .rspSlot _ => 512
  | .cmdSlot _ => 516
  | .cmdBuf _ => 1024
  | .rspBuf _ => 1152

def rqLowLayout : RqLayout 1 1 where
  comm := 512
  cmdText _ := 1028
  rspText _ := 1156
  place p i := rqLowPlace p + i
  apart {p q i j} hi hj h := by
    have hp : p = q := by
      cases p <;> cases q <;> simp only [RqArea.len, rqLowPlace] at hi hj h <;>
        first | omega | rfl | exact congrArg _ (Subsingleton.elim _ _)
    subst hp
    exact ⟨rfl, by omega⟩
  cmd_count := by decide
  rsp_count := by decide
  comm_low := by decide
  comm_high := by decide
  cmdText_low _ := by decide
  rspText_low _ := by decide

/-- A board whose memory is clear, with the port up. -/
def rqLowSystem : RqSystem (Bus Unit) where
  c :=
    { rq11Init false none with
      state := .up, comm := 512, cmdRing := rqLowLayout.cmdRingAt 0, rspRing := rqLowLayout.rspRingAt 0 }
  s := emptyBus
  posted := []
  offered := 0
  taken := []

theorem rqLowPlaced : rqLowLayout.areas.Placed (rqCells false) rqLowSystem.s := by
  intro p i hi
  have hlen : i < 64 ∧ rqLowPlace p ≤ 1152 := by
    have hi : i < p.len := hi
    cases p <;> simp only [RqArea.len, rqLowPlace] at hi ⊢ <;> omega
  have haddr : (rqLowLayout.addr p + BitVec.ofNat 32 i).toNat = rqLowPlace p + i := by
    have hstart : (rqLowLayout.addr p).toNat = rqLowPlace p := by
      cases p with
      | intr => rfl
      | cmdSlot k => rw [Subsingleton.elim k 0]; rfl
      | rspSlot k => rw [Subsingleton.elim k 0]; rfl
      | cmdBuf k => rw [Subsingleton.elim k 0]; rfl
      | rspBuf k => rw [Subsingleton.elim k 0]; rfl
    rw [BitVec.toNat_add, BitVec.toNat_ofNat, hstart]
    omega
  have hlow : (rqLowLayout.addr p + BitVec.ofNat 32 i).toNat ≤ 0o157777 := by omega
  exact (rqCell_low rfl false hlow).trans (congrArg some haddr)

theorem rqLowFresh : RqFresh rqLowLayout (rqCells false) rqLowSystem where
  state := rfl
  comm := rfl
  cmdRing := rfl
  rspRing := rfl
  credits := rfl
  placed := rqLowPlaced
  cmdOwned i := by
    rw [Subsingleton.elim i 0]
    decide
  rspOwned j := by
    rw [Subsingleton.elim j 0]
    decide
  posted := rfl
  offered := rfl
  taken := rfl

/-- An image was attached. -/
def rqLowAttached : RqSystem (Bus Unit) :=
  { rqLowSystem with c := rq11OpenImageUnit 0 (some (.blank 512, false)) rqLowSystem.c }

/-- The host has read the IP register. -/
def rqLowAsked : RqSystem (Bus Unit) :=
  { rqLowAttached with
    c := (rq11Read8 (rqDma false) 0o172150 rqLowAttached.c rqLowAttached.s).2.1
    s := (rq11Read8 (rqDma false) 0o172150 rqLowAttached.c rqLowAttached.s).2.2 }

theorem rqLowRun : Relation.ReflTransGen (RqStep rqLowLayout (rqCells false)) rqLowSystem rqLowAsked :=
  (Relation.ReflTransGen.single (.openImage 0 (some (.blank 512, false)))).tail (.read 0o172150)

/-! ## Every run -/

section Runs

variable {n m : Nat} [NeZero n] [NeZero m] {σ : Type} {dma : Dma σ} {L : RqLayout n m} {cells : dma.Cells}
variable {sys₀ sys : RqSystem σ}

theorem rqReaches_conversation (hfresh : RqFresh L cells sys₀)
    (hrun : Relation.ReflTransGen (RqStep L cells) sys₀ sys) :
    ∃ answered waiting, RqConversation L cells sys answered waiting := by
  induction hrun with
  | refl => exact ⟨0, [], hfresh.conversation⟩
  | tail _ hstep ih =>
    obtain ⟨answered, waiting, h⟩ := ih
    exact h.step hstep

end Runs

end K1801.Lsi11
