import K1801.Lsi11.Dz11Session
import Mathlib.Tactic.IntervalCases

/-! # The transmitter's line of the DZ11

The scan for a line that is ready to transmit goes on whenever the flags are brought up to date, so the line that CSR
reports lasts only where the scan comes back to it.
-/

namespace K1801.Lsi11

open Core Library

/-- The program does not write CSR, TCR or TDR, and does not reset the device. -/
def DzEvent.Quiet : DzEvent → Prop
  | .write8 addr _ _ => addr &&& 0o177776 ≠ dzCsr ∧ addr &&& 0o177776 ≠ dzTcr ∧ addr &&& 0o177776 ≠ dzTdr
  | .reset => False
  | _ => True

namespace Dz11

/-- The line that a read of CSR reports. -/
def reported (dz : Dz11) : DzLine := (dz.csr >>> 8).setWidth 3

/-- What the program reads is the line of the state after the read. -/
theorem read_reports (dz : Dz11) :
    ((dz.read8 (dzCsr + 1)).1.setWidth 3 : DzLine) = (dz.read8 (dzCsr + 1)).2.reported := by
  have hbyte (v : Word) : ((byteOf (dzCsr + 1) (v &&& ~~~csrMbz)).setWidth 3 : DzLine) = (v >>> 8).setWidth 3 := by
    unfold byteOf
    rw [if_pos (by decide)]
    apply BitVec.eq_of_getLsbD_eq
    intro k hk
    interval_cases k <;> simp
  unfold read8
  dsimp only
  rw [if_pos (by decide)]
  exact hbyte _

/-- The bits of CSR that say whether and where a character goes out. -/
abbrev txBits : Word := 0o107440

/-- The bits of CSR that a line is written to or taken from. -/
abbrev lineBits : Word := 0o7400

/-- Two states that transmit alike. -/
structure SameTx (dz dz' : Dz11) : Prop where
  csr : dz'.csr &&& txBits = dz.csr &&& txBits
  tcr : dz'.tcr = dz.tcr

theorem SameTx.refl (dz : Dz11) : SameTx dz dz := ⟨rfl, rfl⟩

theorem SameTx.trans {dz₁ dz₂ dz₃ : Dz11} (h : SameTx dz₁ dz₂) (h' : SameTx dz₂ dz₃) : SameTx dz₁ dz₃ :=
  ⟨h'.csr.trans h.csr, h'.tcr.trans h.tcr⟩

section
variable {dz dz' : Dz11}

theorem SameTx.and (h : SameTx dz dz') {bits : Word} (hbits : txBits &&& bits = bits) :
    dz'.csr &&& bits = dz.csr &&& bits := by
  rw [← hbits, ← BitVec.and_assoc, ← BitVec.and_assoc, h.csr]

theorem SameTx.csrHas (h : SameTx dz dz') {bits : Word} (hbits : txBits &&& bits = bits) :
    dz'.csrHas bits = dz.csrHas bits := by
  unfold Dz11.csrHas
  rw [h.and hbits]

theorem SameTx.csrTline (h : SameTx dz dz') : dz'.csrTline = dz.csrTline := by
  unfold Dz11.csrTline
  rw [h.and (by decide)]

theorem reported_eq (dz : Dz11) : dz.reported = ((dz.csr &&& 0o3400) >>> 8).setWidth 3 := by
  unfold reported
  apply BitVec.eq_of_getLsbD_eq
  intro k hk
  interval_cases k <;> simp

theorem SameTx.reported (h : SameTx dz dz') : dz'.reported = dz.reported := by
  rw [reported_eq, reported_eq, h.and (by decide)]

theorem SameTx.transmitsOn (h : SameTx dz dz') (addr : Word) (line : DzLine) :
    dz'.TransmitsOn addr line ↔ dz.TransmitsOn addr line := by
  unfold TransmitsOn tcrHas
  rw [h.csrHas (by decide), h.csrHas (by decide), h.csrTline, h.tcr]

end

theorem sameTx_setCsr {bits : Word} (h : bits &&& txBits = 0) (dz : Dz11) : SameTx dz (dz.setCsr bits) :=
  ⟨by
    unfold setCsr
    rw [BitVec.and_or_distrib_right, h]
    exact BitVec.or_zero, rfl⟩

theorem sameTx_clearCsr {bits : Word} (h : ~~~bits &&& txBits = txBits) (dz : Dz11) : SameTx dz (dz.clearCsr bits) :=
  ⟨by
    unfold clearCsr
    rw [BitVec.and_assoc, h], rfl⟩

/-! ## Receiving -/

theorem updateReceiveFlags_sameTx (dz : Dz11) : SameTx dz dz.updateReceiveFlags := by
  have hset (bits : Word) (dz : Dz11) (h : bits &&& txBits = 0) := sameTx_setCsr h dz
  have hclear (bits : Word) (dz : Dz11) (h : ~~~bits &&& txBits = txBits) := sameTx_clearCsr h dz
  unfold updateReceiveFlags
  dsimp only
  split_ifs
  · exact (hset _ _ (by decide)).trans (hset _ _ (by decide))
  · exact (hset _ _ (by decide)).trans (hclear _ _ (by decide))
  · exact hset _ _ (by decide)
  · exact (hclear _ _ (by decide)).trans (hset _ _ (by decide))
  · exact (hclear _ _ (by decide)).trans (hclear _ _ (by decide))
  · exact hclear _ _ (by decide)

theorem siloPush_sameTx (dz : Dz11) (v : Word) : SameTx dz (dz.siloPush v) := by
  unfold siloPush
  split_ifs
  · exact .refl dz
  · have hpush : SameTx dz { dz with silo := dz.silo.push v } := ⟨rfl, rfl⟩
    exact hpush.trans (updateReceiveFlags_sameTx _)

theorem storeBatch_sameTx (line : DzLine) (cs : List Byte) (dz : Dz11) : SameTx dz (storeBatch line cs dz) := by
  induction cs generalizing dz with
  | nil => exact .refl dz
  | cons c cs ih =>
    unfold storeBatch
    split_ifs
    · exact .refl dz
    · exact (siloPush_sameTx dz _).trans (ih _)

theorem receiveLine_sameTx (dz : Dz11) (line : DzLine) (fd : DzSocket) : SameTx dz (dz.receiveLine line fd) := by
  unfold receiveLine
  split_ifs
  · exact ⟨rfl, rfl⟩
  · exact .refl dz
  · have htaken : SameTx dz
        { dz with lineFd := Function.update dz.lineFd line (some { fd with unread := fd.unread.drop dzBatch }) } :=
      ⟨rfl, rfl⟩
    exact htaken.trans (storeBatch_sameTx line _ _)

theorem pollReceiveLines_sameTx (lines : List DzLine) (dz : Dz11) : SameTx dz (pollReceiveLines lines dz) := by
  induction lines generalizing dz with
  | nil => exact .refl dz
  | cons line lines ih =>
    unfold pollReceiveLines
    cases dz.lineFd line with
    | none => exact ih dz
    | some fd =>
      dsimp only
      split_ifs
      · exact ih dz
      · exact .refl dz
      · exact (receiveLine_sameTx dz line fd).trans (ih _)

theorem acceptClients_sameTx (dz : Dz11) : SameTx dz dz.acceptClients := by
  have hfold (fds : List DzSocket) (dz : Dz11) : SameTx dz (fds.foldl acceptClient dz) := by
    induction fds generalizing dz with
    | nil => exact .refl dz
    | cons fd fds ih =>
      refine SameTx.trans ?_ (ih _)
      unfold acceptClient
      split <;> exact ⟨rfl, rfl⟩
  exact SameTx.trans (hfold dz.backlog dz) ⟨rfl, rfl⟩

theorem siloPop_sameTx (dz : Dz11) : SameTx dz dz.siloPop.2 := by
  unfold siloPop
  split
  · exact updateReceiveFlags_sameTx dz
  · have hpop : SameTx dz { dz with silo := dz.silo.pop } := ⟨rfl, rfl⟩
    exact hpop.trans (updateReceiveFlags_sameTx _)

theorem readRbuf_sameTx (dz : Dz11) : SameTx dz dz.readRbuf := by
  have hclear := @sameTx_clearCsr csrSa (by decide) dz
  unfold readRbuf
  dsimp only
  split_ifs
  · have hpop := siloPop_sameTx (dz.clearCsr csrSa)
    exact hclear.trans ⟨hpop.csr, hpop.tcr⟩
  · exact hclear.trans ⟨rfl, rfl⟩

/-! ## The scan -/

theorem tcrHas_eq (dz : Dz11) {line : Word} (h : line.toNat < 16) : dz.tcrHas line = dz.tcr.getLsbD line.toNat := by
  have hone : ((1 <<< line.toNat : Nat) : Word) = BitVec.twoPow 16 line.toNat := rfl
  have hne : BitVec.twoPow 16 line.toNat ≠ 0 := by
    intro hzero
    have hnat := congrArg BitVec.toNat hzero
    rw [BitVec.toNat_twoPow_of_lt h] at hnat
    exact absurd hnat (Nat.two_pow_pos _).ne'
  unfold tcrHas
  rw [hone, BitVec.and_twoPow]
  cases dz.tcr.getLsbD line.toNat with
  | true => exact bne_iff_ne.mpr hne
  | false => rfl

/-- The scan over the low byte of TCR. -/
def scan (enabled : Byte) (fromLine : Word) : Option Word :=
  ([1, 2, 3, 4, 5, 6, 7, 8].map fun i => (fromLine + i) &&& 7).find? fun line => enabled.getLsbD line.toNat

theorem low_bits_lt (x : Word) : (x &&& 7).toNat < 8 := by
  rw [BitVec.toNat_and]
  exact Nat.lt_succ_of_le Nat.and_le_right

theorem findNextTxLine_eq (dz : Dz11) (fromLine : Word) :
    dz.findNextTxLine fromLine = scan (dz.tcr.setWidth 8) fromLine := by
  have hsame (i : Word) :
      dz.tcrHas ((fromLine + i) &&& 7) = (dz.tcr.setWidth 8).getLsbD ((fromLine + i) &&& 7).toNat := by
    have hlt := low_bits_lt (fromLine + i)
    rw [tcrHas_eq dz (by omega), BitVec.getLsbD_setWidth, decide_eq_true hlt, Bool.true_and]
  unfold findNextTxLine scan
  rw [List.find?_map, List.find?_map]
  congr 2
  funext i
  exact hsame i

/-- CSR after the flags have been brought up to date. -/
theorem updateTransmitFlags_csr (dz : Dz11) :
    dz.updateTransmitFlags.csr =
      match (if dz.csrHas csrMse then scan (dz.tcr.setWidth 8) dz.csrTline else none) with
      | none => dz.csr &&& ~~~csrTrdy
      | some next => ((dz.csr &&& ~~~Lsi11.csrTline) ||| ((next &&& 7) <<< 8)) ||| csrTrdy := by
  unfold updateTransmitFlags
  rw [findNextTxLine_eq]
  cases dz.csrHas csrMse with
  | false => rfl
  | true =>
    simp only [Bool.not_true, Bool.false_eq_true, if_false, if_true]
    cases scan (dz.tcr.setWidth 8) dz.csrTline with
    | none => rfl
    | some next =>
      dsimp only
      split_ifs <;> rfl

theorem updateTransmitFlags_tcr (dz : Dz11) : dz.updateTransmitFlags.tcr = dz.tcr := by
  unfold updateTransmitFlags
  cases dz.findNextTxLine dz.csrTline with
  | none =>
    dsimp only
    split_ifs <;> rfl
  | some next =>
    dsimp only
    split_ifs <;> rfl

/-- One line is enabled, an even one, and CSR reports it: the scan stays where it is. -/
def Settled (dz : Dz11) : Prop :=
  dz.csrHas csrMse = true ∧ ∃ line : DzLine, line.getLsbD 0 = false ∧ dz.tcr.setWidth 8 = (1 : Byte) <<< line.toNat ∧
    dz.csr &&& lineBits = line.setWidth 16 <<< 8

/-- The scan from an even line comes back to it just when no other line is enabled. -/
theorem scan_iff : ∀ line : DzLine, line.getLsbD 0 = false → ∀ enabled : Byte,
    (scan enabled (line.setWidth 16) = some (line.setWidth 16) ↔ enabled = (1 : Byte) <<< line.toNat) := by
  decide +kernel

theorem scan_lt {enabled : Byte} {fromLine next : Word} (h : scan enabled fromLine = some next) : next.toNat < 8 := by
  obtain ⟨i, -, hi⟩ := List.mem_map.mp (List.mem_of_find?_eq_some h)
  rw [← hi]
  exact low_bits_lt _

section
variable {dz : Dz11}

theorem csrTline_of_field {line : DzLine} (heven : line.getLsbD 0 = false)
    (hfield : dz.csr &&& lineBits = line.setWidth 16 <<< 8) : dz.csrTline = line.setWidth 16 := by
  have hmask : ∀ line : DzLine, line.getLsbD 0 = false →
      ((line.setWidth 16 <<< 8 : Word) &&& Lsi11.csrTline) >>> 8 = line.setWidth 16 := by decide
  have hsub : dz.csr &&& Lsi11.csrTline = dz.csr &&& lineBits &&& Lsi11.csrTline := by
    rw [BitVec.and_assoc]
    rfl
  unfold Dz11.csrTline
  rw [hsub, hfield]
  exact hmask line heven

theorem reported_of_field {line : DzLine} (hfield : dz.csr &&& lineBits = line.setWidth 16 <<< 8) :
    dz.reported = line := by
  have hshift : ∀ line : DzLine, (((line.setWidth 16 <<< 8 : Word) &&& 0o3400) >>> 8).setWidth 3 = line := by decide
  have hsub : dz.csr &&& 0o3400 = dz.csr &&& lineBits &&& 0o3400 := by
    rw [BitVec.and_assoc]
    rfl
  rw [reported_eq, hsub, hfield]
  exact hshift line

/-- Putting the field back changes nothing. -/
theorem restore_field (x : Word) (h : x &&& csrTrdy = csrTrdy) :
    ((x &&& ~~~Lsi11.csrTline) ||| (x &&& lineBits)) ||| csrTrdy = x := by
  have h15 := congrArg (fun w => w.getLsbD 15) h
  apply BitVec.eq_of_getLsbD_eq
  intro k hk
  simp only [BitVec.getLsbD_or, BitVec.getLsbD_and] at h15 ⊢
  interval_cases k <;> simp_all

theorem trdy_and (h : dz.csrHas csrTrdy = true) : dz.csr &&& csrTrdy = csrTrdy := by
  have hbit := bne_iff_ne.mp h
  have htwo : (csrTrdy : Word) = BitVec.twoPow 16 15 := rfl
  rw [htwo, BitVec.and_twoPow] at hbit ⊢
  split_ifs at hbit ⊢ with hb
  · rfl
  · exact absurd rfl hbit

/-- In a settled state the flags are up to date. -/
theorem updateTransmitFlags_settled (h : dz.Settled) (hready : dz.csrHas csrTrdy = true) :
    SameTx dz dz.updateTransmitFlags := by
  obtain ⟨hmse, line, heven, honly, hfield⟩ := h
  have hnext : scan (dz.tcr.setWidth 8) dz.csrTline = some (line.setWidth 16) := by
    rw [csrTline_of_field heven hfield]
    exact (scan_iff line heven _).mpr honly
  have hseven : ∀ line : DzLine, (line.setWidth 16 : Word) &&& 7 = line.setWidth 16 := by decide
  refine ⟨?_, updateTransmitFlags_tcr dz⟩
  rw [updateTransmitFlags_csr, hmse, if_pos rfl, hnext]
  dsimp only
  rw [hseven, ← hfield, restore_field dz.csr (trdy_and hready)]

theorem SameTx.settled {dz' : Dz11} (hsame : SameTx dz dz') (h : dz.Settled) : dz'.Settled := by
  obtain ⟨hmse, line, heven, honly, hfield⟩ := h
  exact ⟨(hsame.csrHas (by decide)).trans hmse, line, heven, by rw [hsame.tcr]; exact honly,
    (hsame.and (by decide)).trans hfield⟩

/-- In a settled state a character goes out on the line that CSR reports. -/
theorem Settled.transmitsOn (h : dz.Settled) (hready : dz.csrHas csrTrdy = true) :
    dz.TransmitsOn dzTdr dz.reported := by
  obtain ⟨hmse, line, heven, honly, hfield⟩ := h
  have hline := csrTline_of_field heven hfield
  have hsmall : ∀ line : DzLine, ¬ 8 ≤ (line.setWidth 16 : Word) ∧ (line.setWidth 16 : Word).setWidth 3 = line ∧
      (line.setWidth 16 : Word).toNat < 8 ∧ ((1 : Byte) <<< line.toNat).getLsbD (line.setWidth 16 : Word).toNat = true := by
    decide
  obtain ⟨hlt, hback, hnat, hbit⟩ := hsmall line
  have henabled : dz.tcrHas dz.csrTline = true := by
    rw [hline, tcrHas_eq dz (by omega), ← hbit, ← honly, BitVec.getLsbD_setWidth, decide_eq_true hnat, Bool.true_and]
  refine ⟨by decide, by decide, ?_, ?_, ?_⟩
  · rw [hmse, hready, henabled]
    rfl
  · rw [hline]
    exact hlt
  · rw [hline, reported_of_field hfield]
    exact hback

theorem scan_none : ∀ line : DzLine, ∀ enabled : Byte, scan enabled (line.setWidth 16) = none → enabled = 0 := by
  decide +kernel

/-- The line after the scan, with the bit below the field's mask. -/
theorem scanned_line (x next : Word) :
    ((((x &&& ~~~Lsi11.csrTline) ||| ((next &&& 7) <<< 8)) ||| csrTrdy) >>> 8).setWidth 3 =
      (x >>> 8 &&& 1).setWidth 3 ||| next.setWidth 3 := by
  apply BitVec.eq_of_getLsbD_eq
  intro k hk
  interval_cases k <;> simp

/-- The line that the device uses is the one that CSR reports: the bit below the mask is clear. -/
theorem field_of_line (hlt : ¬ 8 ≤ dz.csrTline) (hline : dz.csrTline.setWidth 3 = dz.reported) :
    dz.reported.getLsbD 0 = false ∧ dz.csr &&& lineBits = dz.reported.setWidth 16 <<< 8 := by
  have hfour : ∀ f : BitVec 4, ¬ 8 ≤ ((f &&& 14).setWidth 16 : Word) →
      ((f &&& 14).setWidth 16 : Word).setWidth 3 = (f.setWidth 3 : DzLine) →
      (f.setWidth 3 : DzLine).getLsbD 0 = false ∧ (f.setWidth 16 : Word) = (f.setWidth 3 : DzLine).setWidth 16 := by
    decide
  have htline : dz.csrTline = (((dz.csr >>> 8).setWidth 4 : BitVec 4) &&& 14).setWidth 16 := by
    unfold Dz11.csrTline
    apply BitVec.eq_of_getLsbD_eq
    intro k hk
    interval_cases k <;> simp
  have hreported : dz.reported = ((dz.csr >>> 8).setWidth 4 : BitVec 4).setWidth 3 := by
    unfold reported
    apply BitVec.eq_of_getLsbD_eq
    intro k hk
    interval_cases k <;> simp
  have hfield : dz.csr &&& lineBits = (((dz.csr >>> 8).setWidth 4 : BitVec 4).setWidth 16 : Word) <<< 8 := by
    apply BitVec.eq_of_getLsbD_eq
    intro k hk
    interval_cases k <;> simp
  rw [htline] at hlt hline
  rw [hreported] at hline ⊢
  obtain ⟨heven, hwide⟩ := hfour _ hlt hline
  exact ⟨heven, by rw [hfield, hwide]⟩

/-- The scan finds a line where a character can go out. -/
theorem TransmitsOn.scan (hsend : dz.TransmitsOn dzTdr dz.reported) :
    dz.csrHas csrMse = true ∧ dz.csrTline = dz.reported.setWidth 16 ∧
      ∃ next, Dz11.scan (dz.tcr.setWidth 8) (dz.reported.setWidth 16) = some next := by
  obtain ⟨-, -, hflags, hlt, hline⟩ := hsend
  rw [Bool.and_eq_true, Bool.and_eq_true] at hflags
  obtain ⟨⟨hmse, hready⟩, henabled⟩ := hflags
  obtain ⟨heven, hfield⟩ := field_of_line hlt hline
  have hat : dz.csrTline = (dz.reported).setWidth 16 := csrTline_of_field heven hfield
  refine ⟨hmse, hat, Option.ne_none_iff_exists'.mp fun hscan => ?_⟩
  have hnat : (dz.reported.setWidth 16 : Word).toNat < 8 := by
    rw [BitVec.toNat_setWidth]
    have := dz.reported.isLt
    omega
  rw [hat, tcrHas_eq dz (by omega)] at henabled
  have hbit : (dz.tcr.setWidth 8).getLsbD (dz.reported.setWidth 16 : Word).toNat = true := by
    rw [BitVec.getLsbD_setWidth, decide_eq_true hnat, henabled]
    rfl
  exact absurd hbit (by rw [scan_none _ _ hscan]; simp)

theorem TransmitsOn.ready (hsend : dz.TransmitsOn dzTdr dz.reported) :
    dz.updateTransmitFlags.csrHas csrTrdy = true := by
  obtain ⟨hmse, hat, next, hscan⟩ := hsend.scan
  unfold csrHas
  rw [updateTransmitFlags_csr, hmse, if_pos rfl, hat, hscan]
  dsimp only
  rw [BitVec.and_or_distrib_right, BitVec.and_self]
  refine bne_iff_ne.mpr fun hzero => ?_
  have hbit := congrArg (fun w => w.getLsbD 15) hzero
  simp at hbit

/-- A state is settled if it transmits on the line that CSR reports, and bringing the flags up to date leaves that
    line. -/
theorem settled_of_same (hsend : dz.TransmitsOn dzTdr dz.reported)
    (hkept : dz.updateTransmitFlags.reported = dz.reported) : dz.Settled := by
  obtain ⟨hmse, hat, next, hscan⟩ := hsend.scan
  obtain ⟨heven, hfield⟩ := field_of_line hsend.2.2.2.1 hsend.2.2.2.2
  refine ⟨hmse, dz.reported, heven, (scan_iff _ heven _).mp ?_, hfield⟩
  have hlt8 := scan_lt hscan
  unfold reported at hkept
  rw [updateTransmitFlags_csr, hmse, if_pos rfl, hat, hscan] at hkept
  dsimp only at hkept
  rw [scanned_line dz.csr next] at hkept
  have hbit0 : (dz.csr >>> 8 &&& 1).setWidth 3 = (0 : DzLine) := by
    have hzero : dz.csr.getLsbD 8 = false := by
      unfold reported at heven
      simpa using heven
    apply BitVec.eq_of_getLsbD_eq
    intro k hk
    interval_cases k <;> simp_all
  rw [hbit0, show ((0 : DzLine) ||| next.setWidth 3) = next.setWidth 3 from BitVec.zero_or] at hkept
  have hnext : next = (next.setWidth 3).setWidth 16 := by
    apply BitVec.eq_of_toNat_eq
    rw [BitVec.toNat_setWidth, BitVec.toNat_setWidth]
    omega
  rw [hscan, hnext, hkept]
  rfl

theorem SameTx.update {dz' : Dz11} (hsame : SameTx dz dz') (h : dz.Settled) (hready : dz.csrHas csrTrdy = true) :
    SameTx dz dz'.updateTransmitFlags :=
  hsame.trans (updateTransmitFlags_settled (hsame.settled h) ((hsame.csrHas (by decide)).trans hready))

theorem read8_settled (h : dz.Settled) (hready : dz.csrHas csrTrdy = true) (addr : Word) :
    SameTx dz (dz.read8 addr).2 := by
  unfold read8
  dsimp only
  split_ifs
  · exact (updateReceiveFlags_sameTx dz).update h hready
  · exact readRbuf_sameTx dz
  all_goals exact ⟨rfl, rfl⟩

theorem poll_settled (h : dz.Settled) (hready : dz.csrHas csrTrdy = true) : SameTx dz dz.poll := by
  have hreceive := (acceptClients_sameTx dz).trans (pollReceiveLines_sameTx dzLines dz.acceptClients)
  have hmsr : SameTx dz (pollReceiveLines dzLines dz.acceptClients).refreshMsr := ⟨hreceive.csr, hreceive.tcr⟩
  exact (hmsr.trans (updateReceiveFlags_sameTx _)).update h hready

theorem write8_quiet (dz : Dz11) {addr : Word} (hcsr : addr &&& 0o177776 ≠ dzCsr) (htcr : addr &&& 0o177776 ≠ dzTcr)
    (htdr : addr &&& 0o177776 ≠ dzTdr) (b : Byte) (answer : DzSent) : SameTx dz (dz.write8 addr b answer) := by
  unfold write8
  dsimp only
  rw [if_neg hcsr]
  split_ifs
  all_goals exact ⟨rfl, rfl⟩

end

end Dz11

namespace DzSession

open Dz11

/-- A character could be sent: TRDY is set. -/
def Ready (s : DzSession) : Prop := s.dz.csrHas csrTrdy = true

/-- CSR reports the line, and a character written to TDR goes out on it. -/
def OnLine (line : DzLine) (s : DzSession) : Prop := s.dz.reported = line ∧ s.dz.TransmitsOn dzTdr line

variable {s : DzSession}

/-- Reads, polls and interrupt polls leave a settled transmitter alone. -/
theorem step_settled (h : s.dz.Settled) (hready : s.Ready) {ev : DzEvent} (hquiet : ev.Quiet) :
    SameTx s.dz (s.step ev).dz := by
  cases ev with
  | connect cs closed => exact ⟨rfl, rfl⟩
  | arrive line cs =>
    show SameTx s.dz (s.arrive line cs).dz
    unfold DzSession.arrive
    split
    · exact .refl _
    · split_ifs <;> exact ⟨rfl, rfl⟩
  | hangUp line => exact ⟨rfl, rfl⟩
  | poll => exact poll_settled h hready
  | read8 addr => exact read8_settled h hready addr
  | write8 addr b answer => exact write8_quiet s.dz hquiet.1 hquiet.2.1 hquiet.2.2 b answer
  | rxIrqPending => exact updateReceiveFlags_sameTx s.dz
  | txIrqPending => exact updateTransmitFlags_settled h hready
  | txIrqAck => exact ⟨rfl, rfl⟩
  | reset => exact hquiet.elim

theorem run_settled (h : s.dz.Settled) (hready : s.Ready) {evs : List DzEvent} (hquiet : ∀ ev ∈ evs, ev.Quiet) :
    SameTx s.dz (runEvents step s evs).dz := by
  induction evs generalizing s with
  | nil => exact .refl _
  | cons ev evs ih =>
    have hfirst := step_settled h hready (hquiet ev List.mem_cons_self)
    have hrest := ih (hfirst.settled h) ((hfirst.csrHas (by decide)).trans hready)
      (fun ev hev => hquiet ev (List.mem_cons_of_mem _ hev))
    exact hfirst.trans hrest

/-- While TRDY is set the line that CSR reports stays, and characters go out on it, just in the settled states. -/
theorem line_stable_iff (hready : s.Ready) :
    (∀ evs : List DzEvent, (∀ ev ∈ evs, ev.Quiet) → Throughout step Ready s evs →
      Throughout step (OnLine s.dz.reported) s evs) ↔ s.dz.Settled := by
  constructor
  · intro hall
    have hhere := hall [] (fun _ h => absurd h List.not_mem_nil) (throughout_nil.mpr hready)
    have hsend := (throughout_nil.mp hhere).2
    have hready' : Throughout step Ready s [.txIrqPending] :=
      throughout_cons.mpr ⟨hready, throughout_nil.mpr hsend.ready⟩
    have hafter := hall [.txIrqPending] (fun ev hev => by rw [List.mem_singleton.mp hev]; trivial) hready'
    exact settled_of_same hsend (throughout_nil.mp (throughout_cons.mp hafter).2).1
  · intro h evs hquiet _ pre hpre
    have hsame := run_settled h hready (fun ev hev => hquiet ev (hpre.subset hev))
    have hsend := h.transmitsOn hready
    exact ⟨hsame.reported, (hsame.transmitsOn _ _).mpr hsend⟩

/-- Only line 0 is enabled. -/
def oneLine : DzSession := runEvents step (start true) [.write8 dzCsr 0o40 .sent, .write8 dzTcr 1 .sent]

theorem one_line_stable : oneLine.Ready ∧
    ∀ evs : List DzEvent, (∀ ev ∈ evs, ev.Quiet) → Throughout step Ready oneLine evs →
      Throughout step (OnLine oneLine.dz.reported) oneLine evs := by
  have hready : oneLine.Ready := by
    unfold Ready
    decide +kernel
  exact ⟨hready, (line_stable_iff hready).mpr
    ⟨by decide +kernel, 0, by decide, by decide +kernel, by decide +kernel⟩⟩

/-- Lines 0 and 2 are enabled, and CSR has been read. -/
def twoLinesEvents : List DzEvent :=
  [.write8 dzCsr 0o40 .sent, .write8 dzTcr 5 .sent, .read8 (dzCsr + 1)]

/-- Another read of CSR goes on to the other line. -/
theorem read_moves_line : ¬ ∀ before evs : List DzEvent,
    let s := runEvents step (start true) before
    s.Ready → (∀ ev ∈ evs, ev.Quiet) → Throughout step Ready s evs → Throughout step (OnLine s.dz.reported) s evs := by
  intro hclaim
  have hready : (runEvents step (start true) twoLinesEvents).Ready := by
    unfold Ready
    decide +kernel
  have hready' : (step (runEvents step (start true) twoLinesEvents) (.read8 (dzCsr + 1))).Ready := by
    unfold Ready
    decide +kernel
  have hmoved := hclaim twoLinesEvents [.read8 (dzCsr + 1)] hready
    (fun ev hev => by rw [List.mem_singleton.mp hev]; trivial)
    (throughout_cons.mpr ⟨hready, throughout_nil.mpr hready'⟩)
  exact absurd (throughout_nil.mp (throughout_cons.mp hmoved).2).1 (by decide +kernel)

end DzSession

end K1801.Lsi11
