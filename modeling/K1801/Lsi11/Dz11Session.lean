import K1801.Library.EventRun
import K1801.Lsi11.Dz11Receive

/-! # Runs of the DZ11

Terminals connect, send characters and hang up, the board polls the device, and the processor reads and
writes its registers. A session remembers what has been sent on each line and what RBUF has returned.
-/

namespace K1801.Lsi11

open Core Library

inductive DzEvent where
  /-- A terminal connects; `cs` are the characters that it sends before it is accepted. -/
  | connect (cs : List Byte) (closed : Bool)
  | arrive (line : DzLine) (cs : List Byte)
  | hangUp (line : DzLine)
  | poll
  | read8 (addr : Word)
  | write8 (addr : Word) (b : Byte) (answer : DzSent)
  | rxIrqPending
  | txIrqPending
  | txIrqAck
  | reset

structure DzSession where
  dz : Dz11
  sent : DzLine → List Byte := fun _ => []
  returned : DzLine → List Byte := fun _ => []

namespace Dz11

/-- Characters come with the connection that a free line gets. -/
def admitted (dz : Dz11) (line : DzLine) : List Byte :=
  if (dz.lineFd line).isNone then dz.acceptClients.unread line else []

/-- The character that a read of the low byte of RBUF returns, if RBUF then says that it is one. -/
def returnedBy (dz : Dz11) (addr : Word) (line : DzLine) : List Byte :=
  let v := (dz.read8 addr).2.rbuf
  if addr &&& 0o177776 = dzRbuf ∧ addr &&& 1 = 0 ∧ v &&& rbufValid ≠ 0 ∧ lineOf v = line then [charOf v] else []

/-- Characters come in on a connection whose other end is open. -/
def arrive (dz : Dz11) (line : DzLine) (fd : DzSocket) (cs : List Byte) : Dz11 :=
  { dz with lineFd := Function.update dz.lineFd line (some { fd with unread := fd.unread ++ cs }) }

def hangUp (dz : Dz11) (line : DzLine) : Dz11 :=
  { dz with lineFd := Function.update dz.lineFd line ((dz.lineFd line).map fun fd => { fd with closed := true }) }

end Dz11

namespace DzSession

def start (eightBit : Bool) : DzSession := { dz := { eightBit := eightBit } }

def arrive (s : DzSession) (line : DzLine) (cs : List Byte) : DzSession :=
  match s.dz.lineFd line with
  | none => s
  | some fd =>
    if fd.closed then s
    else { s with dz := s.dz.arrive line fd cs, sent := Function.update s.sent line (s.sent line ++ cs) }

def step (s : DzSession) : DzEvent → DzSession
  | .connect cs closed => { s with dz := { s.dz with backlog := s.dz.backlog ++ [{ unread := cs, closed := closed }] } }
  | .arrive line cs => s.arrive line cs
  | .hangUp line => { s with dz := s.dz.hangUp line }
  | .poll => { s with dz := s.dz.poll, sent := fun line => s.sent line ++ s.dz.admitted line }
  | .read8 addr =>
    { s with dz := (s.dz.read8 addr).2, returned := fun line => s.returned line ++ s.dz.returnedBy addr line }
  | .write8 addr b answer => { s with dz := s.dz.write8 addr b answer }
  | .rxIrqPending => { s with dz := s.dz.rxIrqPending.2 }
  | .txIrqPending => { s with dz := s.dz.txIrqPending.2 }
  | .txIrqAck => { s with dz := s.dz.txIrqAck }
  | .reset => { s with dz := s.dz.reset }

/-- On each line, what has been returned, what waits in the silo and what is unread are what was sent. -/
def Conserved (s : DzSession) : Prop := ∀ line, s.returned line ++ s.dz.held line = s.sent line

end DzSession

namespace Dz11

/-- A write to CSR that clears the device. -/
def Clears (dz : Dz11) (addr : Word) (b : Byte) : Prop :=
  addr &&& 0o177776 = dzCsr ∧ withByte addr dz.csr b &&& csrClr ≠ 0

/-- A write to TDR that goes out on the line. -/
def TransmitsOn (dz : Dz11) (addr : Word) (line : DzLine) : Prop :=
  addr &&& 0o177776 = dzTdr ∧ addr &&& 1 = 0 ∧ (dz.csrHas csrMse && dz.csrHas csrTrdy && dz.tcrHas dz.csrTline) = true ∧
    ¬ 8 ≤ dz.csrTline ∧ dz.csrTline.setWidth 3 = line

end Dz11

/-- A poll finds room for its batches. The processor clears the device only when the silo is empty, and a
    connection that breaks on a transmission has nothing unread. -/
def DzEvent.Fits (dz : Dz11) : DzEvent → Prop
  | .poll => dz.acceptClients.BatchesFit dz.silo.length dzLines
  | .write8 addr b answer =>
    (dz.Clears addr b → dz.silo.items = []) ∧
      (answer = .failed → ∀ line, dz.TransmitsOn addr line → dz.unread line = [])
  | .reset => dz.silo.items = []
  | _ => True

namespace Dz11

/-! ## Accepting -/

/-- `dz'` has the connections of `dz`, and perhaps more, with the same silo. -/
structure Admits (dz dz' : Dz11) : Prop where
  silo : dz'.silo = dz.silo
  kept : ∀ line fd, dz.lineFd line = some fd → dz'.lineFd line = some fd

theorem acceptClient_admits (dz : Dz11) (fd : DzSocket) : Admits dz (dz.acceptClient fd) := by
  unfold acceptClient
  cases hfree : dz.findFreeLine with
  | none => exact ⟨rfl, fun _ _ h => h⟩
  | some line =>
    refine ⟨rfl, fun l fd' hfd => ?_⟩
    unfold findFreeLine at hfree
    have hnone := List.find?_some hfree
    have hne : l ≠ line := by
      rintro rfl
      rw [hfd] at hnone
      cases hnone
    exact (Function.update_of_ne hne _ _).trans hfd

theorem acceptClients_admits (dz : Dz11) : Admits dz dz.acceptClients := by
  have hfold (fds : List DzSocket) (dz : Dz11) : Admits dz (fds.foldl acceptClient dz) := by
    induction fds generalizing dz with
    | nil => exact ⟨rfl, fun _ _ h => h⟩
    | cons fd fds ih =>
      have hfirst := acceptClient_admits dz fd
      have hrest := ih (dz.acceptClient fd)
      exact ⟨hrest.silo.trans hfirst.silo, fun l fd' h => hrest.kept l fd' (hfirst.kept l fd' h)⟩
  exact ⟨(hfold dz.backlog dz).silo, (hfold dz.backlog dz).kept⟩

theorem acceptClients_held (dz : Dz11) (line : DzLine) :
    dz.acceptClients.held line = dz.held line ++ dz.admitted line := by
  have hadmits := acceptClients_admits dz
  unfold held waiting admitted
  rw [hadmits.silo, List.append_assoc, List.append_cancel_left_eq]
  cases hfd : dz.lineFd line with
  | none =>
    unfold unread
    rw [hfd]
    rfl
  | some fd =>
    unfold unread
    rw [hfd, hadmits.kept line fd hfd]
    simp

theorem poll_held (dz : Dz11) (line : DzLine) :
    dz.poll.held line = (pollReceiveLines dzLines dz.acceptClients).held line := by
  refine held_of_rx ?_ line
  unfold poll
  rw [rx_updateTransmitFlags, rx_updateReceiveFlags]
  rfl

/-! ## Valid words -/

/-- Every word that waits in the silo is a valid one. -/
def SiloValid (dz : Dz11) : Prop := ∀ v ∈ dz.silo.items, v &&& rbufValid ≠ 0

theorem siloValid_of_rx {dz dz' : Dz11} (h : dz'.rx = dz.rx) (hvalid : dz.SiloValid) : dz'.SiloValid := by
  have hsilo : dz'.silo = dz.silo := congrArg (fun x => x.1) h
  unfold SiloValid
  rw [hsilo]
  exact hvalid

theorem Receives.siloValid {dz dz' : Dz11} {line : DzLine} {fd : DzSocket} (h : Receives dz line fd dz')
    (hvalid : dz.SiloValid) : dz'.SiloValid := by
  intro v hv
  rw [h.items] at hv
  rcases List.mem_append.1 hv with hold | hnew
  · exact hvalid v hold
  · obtain ⟨c, -, rfl⟩ := List.mem_map.1 hnew
    exact (rbufWord_fields line c).2.2

theorem pollReceiveLines_siloValid (lines : List DzLine) {dz : Dz11} (hvalid : dz.SiloValid) :
    (pollReceiveLines lines dz).SiloValid := by
  induction lines generalizing dz with
  | nil => exact hvalid
  | cons line lines ih =>
    unfold pollReceiveLines
    cases hfd : dz.lineFd line with
    | none => exact ih hvalid
    | some fd =>
      dsimp only
      split_ifs
      · exact ih hvalid
      · exact hvalid
      · exact ih ((receiveLine_receives hfd).siloValid hvalid)

/-! ## Reading and writing the registers -/

/-- A word comes out of the silo and goes to RBUF, or RBUF is cleared. -/
theorem readRbuf_cases (dz : Dz11) :
    (dz.readRbuf.rx = dz.rx ∧ dz.readRbuf.rbuf = 0) ∨
      ∃ v vs, dz.silo.items = v :: vs ∧ dz.readRbuf.rbuf = v ∧
        dz.readRbuf.rx = (dz.silo.pop, dz.lineRcve, dz.eightBit, dz.lineFd) := by
  unfold readRbuf
  dsimp only
  split_ifs with hmse
  · unfold siloPop
    cases hitems : (dz.clearCsr csrSa).silo.items with
    | nil => exact .inl ⟨rx_updateReceiveFlags _, rfl⟩
    | cons v vs => exact .inr ⟨v, vs, hitems, rfl, rx_updateReceiveFlags _⟩
  · exact .inl ⟨rfl, rfl⟩

theorem read8_rx {addr : Word} (h : ¬ (addr &&& 0o177776 = dzRbuf ∧ addr &&& 1 = 0)) (dz : Dz11) :
    (dz.read8 addr).2.rx = dz.rx := by
  unfold read8
  dsimp only
  split_ifs with hcsr hrbuf heven
  · exact (rx_updateTransmitFlags _).trans (rx_updateReceiveFlags _)
  · exact absurd ⟨hrbuf, heven⟩ h
  all_goals rfl

theorem read8_rbuf {addr : Word} (hbase : addr &&& 0o177776 = dzRbuf) (heven : addr &&& 1 = 0) (dz : Dz11) :
    (dz.read8 addr).2 = dz.readRbuf := by
  unfold read8
  dsimp only
  rw [if_neg (by rw [hbase]; decide), if_pos hbase, if_pos heven]

theorem rx_softClear (dz : Dz11) :
    dz.softClear.rx = (.empty, fun _ => false, dz.eightBit, dz.lineFd) := rfl

theorem writeCsr_rx (dz : Dz11) (data : Word) :
    (dz.writeCsr data).rx = if data &&& csrClr ≠ 0 then dz.softClear.rx else dz.rx := by
  unfold writeCsr
  dsimp only
  split_ifs
  all_goals first
    | rfl
    | exact (rx_updateTransmitFlags _).trans (rx_updateReceiveFlags _)

/-- Clearing the device loses what waits in the silo. -/
theorem held_softClear_iff (dz : Dz11) : (∀ line, dz.softClear.held line = dz.held line) ↔ dz.silo.items = [] := by
  have hunread (line : DzLine) : dz.softClear.held line = dz.unread line := rfl
  constructor
  · intro h
    refine List.eq_nil_iff_forall_not_mem.2 fun v hv => ?_
    have hline := h (lineOf v)
    rw [hunread, held, eq_comm, List.append_left_eq_self] at hline
    have hmem : charOf v ∈ dz.waiting (lineOf v) :=
      List.mem_map.2 ⟨v, List.mem_filter.2 ⟨hv, beq_self_eq_true _⟩, rfl⟩
    rw [hline] at hmem
    cases hmem
  · intro h line
    rw [hunread, held, waiting, h]
    rfl

/-- A connection that breaks takes what is unread with it. -/
theorem held_disconnectLine_iff (dz : Dz11) (line : DzLine) :
    (∀ l, (dz.disconnectLine line).held l = dz.held l) ↔ dz.unread line = [] := by
  have hgone : (dz.disconnectLine line).unread line = [] := by simp [unread, disconnectLine]
  have hkept {l : DzLine} (hl : l ≠ line) : (dz.disconnectLine line).unread l = dz.unread l := by
    unfold unread disconnectLine
    dsimp only
    rw [Function.update_of_ne hl]
  have hwaiting (l : DzLine) : (dz.disconnectLine line).waiting l = dz.waiting l := rfl
  unfold held
  constructor
  · intro h
    have hline := h line
    rw [hgone, hwaiting, List.append_cancel_left_eq] at hline
    exact hline.symm
  · intro h l
    rw [hwaiting]
    by_cases hl : l = line
    · rw [hl, hgone, h]
    · rw [hkept hl]

theorem transmitLine_held_iff {line : Word} (hline : ¬ 8 ≤ line) (dz : Dz11) (ch : Byte) (answer : DzSent) :
    (∀ l, (dz.transmitLine line ch answer).held l = dz.held l) ↔
      (answer = .failed → dz.unread (line.setWidth 3) = []) := by
  unfold transmitLine
  rw [if_neg hline]
  dsimp only
  cases hfd : dz.lineFd (line.setWidth 3) with
  | none =>
    have hempty : dz.unread (line.setWidth 3) = [] := by simp [unread, hfd]
    exact ⟨fun _ _ => hempty, fun _ _ => rfl⟩
  | some fd =>
    cases answer with
    | sent =>
      refine ⟨fun _ h => (by cases h), fun _ l => ?_⟩
      unfold held waiting unread
      dsimp only
      by_cases hl : l = line.setWidth 3
      · rw [hl, Function.update_self, hfd]
        rfl
      · rw [Function.update_of_ne hl]
    | busy => exact ⟨fun _ h => (by cases h), fun _ _ => rfl⟩
    | failed =>
      have hiff := held_disconnectLine_iff dz (line.setWidth 3)
      exact ⟨fun h _ => hiff.1 h, fun h => hiff.2 (h rfl)⟩

/-- TDR and TRDY once the character is on its way. -/
def transmitting (dz : Dz11) (addr : Word) (b : Byte) : Dz11 :=
  { Dz11.clearCsr { dz with tdr := withByte addr dz.tdr b } csrTrdy with txIrqReq := false, txIrqArmed := true }

theorem writeTdr_held_iff (dz : Dz11) {addr : Word} (hbase : addr &&& 0o177776 = dzTdr) (b : Byte)
    (answer : DzSent) : (∀ l, (dz.writeTdr addr b answer).held l = dz.held l) ↔
      (answer = .failed → ∀ line, dz.TransmitsOn addr line → dz.unread line = []) := by
  by_cases hodd : addr &&& 1 ≠ 0
  · have hkept : dz.writeTdr addr b answer = { dz with tdr := withByte addr dz.tdr b } := if_pos hodd
    rw [hkept]
    exact ⟨fun _ _ line hon => absurd hon.2.1 hodd, fun _ _ => rfl⟩
  by_cases hready : (dz.csrHas csrMse && dz.csrHas csrTrdy && dz.tcrHas dz.csrTline) = true
  · have hsends : dz.writeTdr addr b answer = ((dz.transmitting addr b).transmitLine dz.csrTline
        (dz.maskChar ((withByte addr dz.tdr b).setWidth 8)) answer).updateTransmitFlags :=
      (if_neg hodd).trans (if_pos hready)
    rw [hsends]
    simp only [held_of_rx (rx_updateTransmitFlags _)]
    have hheld (l : DzLine) : dz.held l = (dz.transmitting addr b).held l := rfl
    simp only [hheld]
    by_cases hline : 8 ≤ dz.csrTline
    · refine ⟨fun _ _ line hon => absurd hline hon.2.2.2.1, fun _ l => ?_⟩
      unfold transmitLine
      rw [if_pos hline]
    · rw [transmitLine_held_iff hline]
      constructor
      · rintro h hfailed line ⟨-, -, -, -, rfl⟩
        exact h hfailed
      · exact fun h hfailed => h hfailed _ ⟨hbase, not_not.1 hodd, hready, hline, rfl⟩
  · have hkept : dz.writeTdr addr b answer = { dz with tdr := withByte addr dz.tdr b } :=
      (if_neg hodd).trans (if_neg hready)
    rw [hkept]
    exact ⟨fun _ _ line hon => absurd hon.2.2.1 hready, fun _ _ => rfl⟩

/-- A write keeps the characters unless it clears the silo or breaks a connection. -/
theorem write8_held_iff (dz : Dz11) (addr : Word) (b : Byte) (answer : DzSent) :
    (∀ l, (dz.write8 addr b answer).held l = dz.held l) ↔ DzEvent.Fits dz (.write8 addr b answer) := by
  unfold write8 DzEvent.Fits
  dsimp only
  by_cases hcsr : addr &&& 0o177776 = dzCsr
  · have hidle (line : DzLine) : ¬ dz.TransmitsOn addr line := fun hon =>
      absurd (hcsr.symm.trans hon.1) (by decide)
    have hrx := writeCsr_rx dz (withByte addr dz.csr b)
    rw [if_pos hcsr]
    by_cases hclr : withByte addr dz.csr b &&& csrClr ≠ 0
    · rw [if_pos hclr] at hrx
      simp only [held_of_rx hrx, held_softClear_iff]
      exact ⟨fun h => ⟨fun _ => h, fun _ line hon => absurd hon (hidle line)⟩, fun h => h.1 ⟨hcsr, hclr⟩⟩
    · rw [if_neg hclr] at hrx
      refine ⟨fun _ => ⟨fun hclears => absurd hclears.2 hclr, fun _ line hon => absurd hon (hidle line)⟩, fun _ l => ?_⟩
      exact held_of_rx hrx l
  · have hkeeps : ¬ dz.Clears addr b := fun hclears => hcsr hclears.1
    rw [if_neg hcsr]
    by_cases htdr : addr &&& 0o177776 = dzTdr
    · rw [if_neg (by rw [htdr]; decide), if_neg (by rw [htdr]; decide), if_pos htdr, writeTdr_held_iff dz htdr]
      exact ⟨fun h => ⟨fun hclears => absurd hclears hkeeps, h⟩, fun h => h.2⟩
    · rw [if_neg htdr]
      refine ⟨fun _ => ⟨fun hclears => absurd hclears hkeeps, fun _ line hon => absurd hon.1 htdr⟩, fun _ l => ?_⟩
      split_ifs
      · rfl
      · exact held_of_rx ((rx_refreshMsr _).trans (rx_updateTransmitFlags _)) l
      · rfl

theorem transmitLine_silo (dz : Dz11) (line : Word) (ch : Byte) (answer : DzSent) :
    (dz.transmitLine line ch answer).silo = dz.silo := by
  unfold transmitLine
  split_ifs
  · rfl
  · dsimp only
    cases dz.lineFd (line.setWidth 3) with
    | none => rfl
    | some fd => cases answer <;> rfl

theorem silo_of_rx {dz dz' : Dz11} (h : dz'.rx = dz.rx) : dz'.silo = dz.silo := congrArg (fun x => x.1) h

/-- A write puts nothing into the silo. -/
theorem write8_silo (dz : Dz11) (addr : Word) (b : Byte) (answer : DzSent) :
    (dz.write8 addr b answer).silo = dz.silo ∨ (dz.write8 addr b answer).silo = .empty := by
  unfold write8
  dsimp only
  split_ifs
  · have hrx := writeCsr_rx dz (withByte addr dz.csr b)
    split_ifs at hrx
    · exact .inr (silo_of_rx hrx)
    · exact .inl (silo_of_rx hrx)
  · exact .inl rfl
  · exact .inl (silo_of_rx ((rx_refreshMsr _).trans (rx_updateTransmitFlags _)))
  · left
    unfold writeTdr
    dsimp only
    split_ifs
    · rfl
    · exact (silo_of_rx (rx_updateTransmitFlags _)).trans (transmitLine_silo _ _ _ _)
    · rfl
  · exact .inl rfl

end Dz11

namespace DzSession

/-! ## One step -/

theorem siloValid_step (s : DzSession) (ev : DzEvent) (h : s.dz.SiloValid) : (s.step ev).dz.SiloValid := by
  cases ev with
  | connect | hangUp | txIrqAck => exact h
  | arrive line cs =>
    unfold step arrive
    dsimp only
    split
    · exact h
    · split_ifs <;> exact h
  | poll =>
    have haccepted : s.dz.acceptClients.SiloValid := by
      unfold Dz11.SiloValid
      rw [(Dz11.acceptClients_admits s.dz).silo]
      exact h
    refine Dz11.siloValid_of_rx ?_ (Dz11.pollReceiveLines_siloValid dzLines haccepted)
    exact (Dz11.rx_updateTransmitFlags _).trans ((Dz11.rx_updateReceiveFlags _).trans (Dz11.rx_refreshMsr _))
  | read8 addr =>
    by_cases hrbuf : addr &&& 0o177776 = dzRbuf ∧ addr &&& 1 = 0
    · unfold step
      dsimp only
      rw [Dz11.read8_rbuf hrbuf.1 hrbuf.2]
      rcases Dz11.readRbuf_cases s.dz with ⟨hrx, -⟩ | ⟨v, vs, -, -, hrx⟩
      · exact Dz11.siloValid_of_rx hrx h
      · intro w hw
        have hsilo : s.dz.readRbuf.silo = s.dz.silo.pop := congrArg (fun x => x.1) hrx
        rw [hsilo] at hw
        exact h w (List.mem_of_mem_tail hw)
    · exact Dz11.siloValid_of_rx (Dz11.read8_rx hrbuf s.dz) h
  | write8 addr b answer =>
    unfold step Dz11.SiloValid
    dsimp only
    rcases Dz11.write8_silo s.dz addr b answer with hsilo | hsilo
    · rw [hsilo]
      exact h
    · rw [hsilo]
      nofun
  | rxIrqPending => exact Dz11.siloValid_of_rx (Dz11.rx_updateReceiveFlags _) h
  | txIrqPending => exact Dz11.siloValid_of_rx (Dz11.rx_updateTransmitFlags _) h
  | reset => nofun

variable {s : DzSession}

/-- Nothing is sent or returned, so the session stays conserved just when the device keeps what it holds. -/
theorem conserved_iff_held (h : s.Conserved) (dz : Dz11) :
    ({ s with dz := dz } : DzSession).Conserved ↔ ∀ line, dz.held line = s.dz.held line := by
  unfold Conserved
  simp only [← h _, List.append_cancel_left_eq]

theorem conserved_of_rx (h : s.Conserved) {dz : Dz11} (hrx : dz.rx = s.dz.rx) :
    ({ s with dz := dz } : DzSession).Conserved :=
  (conserved_iff_held h dz).2 (Dz11.held_of_rx hrx)

theorem conserved_arrive (h : s.Conserved) (line : DzLine) (cs : List Byte) : (s.arrive line cs).Conserved := by
  unfold arrive
  cases hfd : s.dz.lineFd line with
  | none => exact h
  | some fd =>
    dsimp only
    split_ifs
    · exact h
    · intro l
      have hwaiting : (s.dz.arrive line fd cs).waiting l = s.dz.waiting l := rfl
      have hline := h l
      unfold Dz11.held at hline ⊢
      dsimp only
      rw [hwaiting]
      by_cases hl : l = line
      · subst hl
        rw [Function.update_self, ← hline]
        simp [Dz11.unread, Dz11.arrive, hfd]
      · rw [Function.update_of_ne hl, ← hline]
        unfold Dz11.unread Dz11.arrive
        dsimp only
        rw [Function.update_of_ne hl]

theorem conserved_hangUp (h : s.Conserved) (line : DzLine) : (s.step (.hangUp line)).Conserved := by
  refine (conserved_iff_held h _).2 fun l => ?_
  unfold Dz11.held Dz11.waiting Dz11.unread Dz11.hangUp
  dsimp only
  by_cases hl : l = line
  · rw [hl, Function.update_self]
    cases s.dz.lineFd line <;> rfl
  · rw [Function.update_of_ne hl]

theorem conserved_read8 (hvalid : s.dz.SiloValid) (h : s.Conserved) (addr : Word) :
    (s.step (.read8 addr)).Conserved := by
  intro line
  unfold step Dz11.returnedBy
  dsimp only
  by_cases hrbuf : addr &&& 0o177776 = dzRbuf ∧ addr &&& 1 = 0
  · obtain ⟨hbase, heven⟩ := hrbuf
    rw [Dz11.read8_rbuf hbase heven]
    rcases Dz11.readRbuf_cases s.dz with ⟨hrx, hzero⟩ | ⟨v, vs, hitems, hv, hrx⟩
    · rw [Dz11.held_of_rx hrx, hzero, if_neg (by simp), List.append_nil]
      exact h line
    · have hmark : v &&& rbufValid ≠ 0 := hvalid v (hitems ▸ List.mem_cons_self ..)
      have hwaiting : s.dz.waiting line = (if Dz11.lineOf v = line then [Dz11.charOf v] else []) ++
          s.dz.readRbuf.waiting line := by
        have hsilo : s.dz.readRbuf.silo = s.dz.silo.pop := congrArg (fun x => x.1) hrx
        unfold Dz11.waiting
        rw [hsilo, BoundedQueue.items_pop, hitems, List.tail_cons]
        by_cases hl : Dz11.lineOf v = line <;> simp [hl]
      have hunread : s.dz.readRbuf.unread line = s.dz.unread line := by
        have hfd : s.dz.readRbuf.lineFd = s.dz.lineFd := congrArg (fun x => x.2.2.2) hrx
        unfold Dz11.unread
        rw [hfd]
      have hline := h line
      unfold Dz11.held at hline ⊢
      rw [hwaiting] at hline
      rw [hv, hunread, ← hline]
      by_cases hl : Dz11.lineOf v = line
      · rw [if_pos ⟨hbase, heven, hmark, hl⟩, if_pos hl]
        simp
      · rw [if_neg fun hall => hl hall.2.2.2, if_neg hl]
        simp
  · rw [if_neg fun hall => hrbuf ⟨hall.1, hall.2.1⟩, List.append_nil, Dz11.held_of_rx (Dz11.read8_rx hrbuf _)]
    exact h line

theorem conserved_poll_iff (h : s.Conserved) :
    (s.step .poll).Conserved ↔ s.dz.acceptClients.BatchesFit s.dz.silo.length dzLines := by
  have hsilo := (Dz11.acceptClients_admits s.dz).silo
  have hnodup : dzLines.Nodup := by decide
  rw [← hsilo, ← Dz11.pollReceiveLines_iff hnodup]
  unfold Conserved step
  refine forall_congr' fun line => ?_
  dsimp only
  rw [Dz11.poll_held, Dz11.acceptClients_held, ← h line, List.append_assoc, List.append_cancel_left_eq]

/-- An event keeps the session conserved just when it fits. -/
theorem conserved_step_iff (s : DzSession) (ev : DzEvent) (hvalid : s.dz.SiloValid) (h : s.Conserved) :
    (s.step ev).Conserved ↔ ev.Fits s.dz := by
  cases ev with
  | connect cs closed => exact ⟨fun _ => trivial, fun _ => conserved_of_rx h rfl⟩
  | arrive line cs => exact ⟨fun _ => trivial, fun _ => conserved_arrive h line cs⟩
  | hangUp line => exact ⟨fun _ => trivial, fun _ => conserved_hangUp h line⟩
  | poll => exact conserved_poll_iff h
  | read8 addr => exact ⟨fun _ => trivial, fun _ => conserved_read8 hvalid h addr⟩
  | write8 addr b answer => exact (conserved_iff_held h _).trans (Dz11.write8_held_iff s.dz addr b answer)
  | rxIrqPending => exact ⟨fun _ => trivial, fun _ => conserved_of_rx h (Dz11.rx_updateReceiveFlags _)⟩
  | txIrqPending => exact ⟨fun _ => trivial, fun _ => conserved_of_rx h (Dz11.rx_updateTransmitFlags _)⟩
  | txIrqAck => exact ⟨fun _ => trivial, fun _ => conserved_of_rx h rfl⟩
  | reset => exact (conserved_iff_held h _).trans (Dz11.held_softClear_iff s.dz)

/-! ## Whole runs -/

/-- From power-up on, no character is lost in any state of a run just when every event of it fits. -/
theorem receive_keeps_all_iff (eightBit : Bool) (evs : List DzEvent) :
    Throughout step Conserved (start eightBit) evs ↔ AtEach step (fun s ev => ev.Fits s.dz) (start eightBit) evs := by
  refine throughout_iff_atEach (V := fun s => s.dz.SiloValid) siloValid_step conserved_step_iff ?_ ?_ evs
  · nofun
  · exact fun _ => rfl

/-- A terminal connects to line 0, the processor enables the line and the scanner, and seventeen characters
    come in before the next poll. -/
def seventeenEvents : List DzEvent :=
  [.connect [] false, .poll, .write8 (dzLpr + 1) 0o20 .sent, .write8 dzCsr 0o40 .sent,
    .arrive 0 (List.replicate 17 0o101), .poll]

/-- The seventeenth is gone, and the silo alarm is off. -/
theorem seventeenth_is_dropped :
    ¬ (runEvents step (start true) seventeenEvents).Conserved ∧
      (runEvents step (start true) seventeenEvents).dz.csrHas csrSa = false := by
  refine ⟨fun h => ?_, by decide +kernel⟩
  have hline := h 0
  revert hline
  decide +kernel

end DzSession

end K1801.Lsi11
