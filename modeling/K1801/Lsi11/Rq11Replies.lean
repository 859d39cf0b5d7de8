import K1801.Lsi11.Rq11

/-! # Replies of the RQ11

Whatever a command asks for, its response repeats the reference number and the opcode, and the command touches neither
the rings nor, except for the data of a read, host memory.
-/

namespace K1801.Lsi11

open Core Library

attribute [local instance] rqPktWords_neZero

/-! ## The header of a response -/

/-- The words a response takes from its command. -/
structure RqReply (op : Word) (cmd rsp : RqPacket) : Prop where
  refl : rsp rqRspRefl = cmd rqCmdRefl
  refh : rsp rqRspRefh = cmd rqCmdRefh
  opf : ∃ flags : Word, rsp rqRspOpf = op ||| rqOpEnd ||| (flags <<< 8)
  hctc : rsp rqHctc = rqBuildHctc
  len : rsp rqHlnt ∈ [rqRspLnt, rqGcsLnt, rqSccLnt, rqOnlLnt, rqGusLntD]

/-- The words of the header that `RqReply` is about. -/
def rqHeader : List (Fin 32) := [rqHlnt, rqHctc, rqRspRefl, rqRspRefh, rqRspOpf]

theorem rqAssign_other {rsp : RqPacket} {fields : List (Fin 32 × Word)} {i : Fin 32} (h : i ∉ fields.map Prod.fst) :
    rqAssign rsp fields i = rsp i := by
  induction fields generalizing rsp with
  | nil => rfl
  | cons field fields ih =>
    rw [List.map_cons, List.mem_cons, not_or] at h
    exact (ih h.2).trans (Function.update_of_ne h.1 _ _)

namespace RqReply

variable {op : Word} {cmd rsp : RqPacket}

theorem assign (h : RqReply op cmd rsp) {fields : List (Fin 32 × Word)}
    (hf : ∀ i ∈ rqHeader, i ∉ fields.map Prod.fst) : RqReply op cmd (rqAssign rsp fields) where
  refl := by rw [rqAssign_other (hf _ (by decide))]; exact h.refl
  refh := by rw [rqAssign_other (hf _ (by decide))]; exact h.refh
  opf := by rw [rqAssign_other (hf _ (by decide))]; exact h.opf
  hctc := by rw [rqAssign_other (hf _ (by decide))]; exact h.hctc
  len := by rw [rqAssign_other (hf _ (by decide))]; exact h.len

theorem prepare (cmd : RqPacket) (op status : Word) {len : Word}
    (hlen : len ∈ [rqRspLnt, rqGcsLnt, rqSccLnt, rqOnlLnt, rqGusLntD]) :
    RqReply op cmd (rqPrepareRsp cmd op 0 status len) where
  refl := rfl
  refh := rfl
  opf := ⟨0, rfl⟩
  hctc := rfl
  len := hlen

theorem flagged (h : RqReply op cmd rsp) : RqReply op cmd (rqRspFlagsFromStatus rsp) where
  refl := h.refl
  refh := h.refh
  opf := by
    obtain ⟨flags, hflags⟩ := h.opf
    refine ⟨flags ||| rqResponseFlagsForStatus (rsp rqRspSts), ?_⟩
    show rsp rqRspOpf ||| _ = _
    rw [hflags, BitVec.or_assoc, BitVec.shiftLeft_or_distrib]
  hctc := h.hctc
  len := h.len

/-- The low byte says which command it was. -/
theorem opcode (h : RqReply op cmd rsp) (hop : op &&& 0xFF = op) : rsp rqRspOpf &&& 0xFF = op ||| rqOpEnd := by
  obtain ⟨flags, hflags⟩ := h.opf
  have hhigh : (flags <<< 8) &&& 0xFF = 0 := by
    apply BitVec.eq_of_toNat_eq
    rw [BitVec.toNat_and, BitVec.toNat_shiftLeft, Nat.shiftLeft_eq, show (0xFF : Word).toNat = 2 ^ 8 - 1 from rfl,
      Nat.and_two_pow_sub_one_eq_mod]
    show flags.toNat * 2 ^ 8 % 2 ^ 16 % 2 ^ 8 = 0
    omega
  rw [hflags, BitVec.and_or_distrib_right, hhigh, BitVec.and_or_distrib_right, hop]
  exact BitVec.or_zero

end RqReply

/-- A response has at least the words up to the status. -/
theorem rqRspWords_length {rsp : RqPacket} (h : rsp rqHlnt ∈ [rqRspLnt, rqGcsLnt, rqSccLnt, rqOnlLnt, rqGusLntD]) :
    8 ≤ (rqRspWords rsp).length ∧ (rqRspWords rsp).length ≤ 26 := by
  have hcount : (rqRspWords rsp).length = min (((rsp rqHlnt).setWidth 32 + 4 : Dword) / 2).toNat 32 := by
    unfold rqRspWords
    rw [List.length_take, List.length_ofFn]
  simp only [List.mem_cons, List.not_mem_nil, or_false] at h
  rw [hcount]
  rcases h with h | h | h | h | h <;> rw [h] <;> decide

theorem rqRspWords_get (rsp : RqPacket) {k : Fin 32} (h : k.val < (rqRspWords rsp).length) :
    (rqRspWords rsp)[k.val] = rsp k := by
  simp only [rqRspWords, List.getElem_take, List.getElem_ofFn]

/-! ## Every command replies -/

theorem rqCmdGcs_reply (cmd : RqPacket) : RqReply rqOpGcs cmd (rqCmdGcs cmd) :=
  (RqReply.prepare cmd rqOpGcs rqStSuc (by decide)).assign (by decide)

theorem rqCmdScc_reply (cmd : RqPacket) (c : Rq11) : RqReply rqOpScc cmd (rqCmdScc cmd c).1 := by
  unfold rqCmdScc
  by_cases h : cmd rqSccMsv ≠ 0
  · rw [if_pos h]
    exact (RqReply.prepare cmd rqOpScc _ (by decide)).flagged
  · rw [if_neg h]
    exact (RqReply.prepare cmd rqOpScc _ (by decide)).assign (by simp; decide)

theorem rqCmdGus_reply (cmd : RqPacket) (c : Rq11) : RqReply rqOpGus cmd (rqCmdGus cmd c) :=
  ((RqReply.prepare cmd rqOpGus _ (by decide)).assign (by simp [rqFillUnitId, rqPutU32]; decide)).flagged

theorem rqCmdAvl_reply (cmd : RqPacket) (c : Rq11) : RqReply rqOpAvl cmd (rqCmdAvl cmd c).1 := by
  unfold rqCmdAvl
  cases rqAttached c (cmd rqCmdUn) with
  | none => exact (RqReply.prepare cmd rqOpAvl _ (by decide)).flagged
  | some u => exact (RqReply.prepare cmd rqOpAvl _ (by decide)).flagged

theorem rqOnlineRsp_reply (cmd : RqPacket) (op status : Word) (u : Option RqUnit) :
    RqReply op cmd (rqOnlineRsp cmd op status u) := by
  unfold rqOnlineRsp
  cases u with
  | none => exact ((RqReply.prepare cmd op status (by decide)).assign (by simp)).flagged
  | some u =>
    refine ((RqReply.prepare cmd op status (by decide)).assign ?_).flagged
    simp [rqFillOnlineCommon, rqFillOnlineSize, rqFillUnitId, rqPutU32]
    decide

theorem rqCmdOnl_reply (cmd : RqPacket) (c : Rq11) : RqReply rqOpOnl cmd (rqCmdOnl cmd c).1 := by
  unfold rqCmdOnl
  cases rqAttached c (cmd rqCmdUn) with
  | none => exact rqOnlineRsp_reply ..
  | some attached =>
    obtain ⟨u, -⟩ := attached
    cases h : u.online with
    | true =>
      simp only [h, if_true]
      exact rqOnlineRsp_reply ..
    | false =>
      simp only [h, Bool.false_eq_true, if_false]
      exact rqOnlineRsp_reply ..

theorem rqCmdSuc_reply (cmd : RqPacket) (c : Rq11) : RqReply rqOpSuc cmd (rqCmdSuc cmd c).1 := by
  unfold rqCmdSuc
  cases rqAttached c (cmd rqCmdUn) with
  | none => exact rqOnlineRsp_reply ..
  | some attached =>
    obtain ⟨u, -⟩ := attached
    simp only
    exact rqOnlineRsp_reply ..

theorem rqRwRsp_reply (cmd : RqPacket) (op status : Word) (done : Dword) :
    RqReply op cmd (rqRwRsp cmd op status done) :=
  ((RqReply.prepare cmd op 0 (by decide)).assign (by simp [rqPutU32]; decide)).flagged

/-! ## What a command changes -/

/-- Only the flags of the host and the units differ. -/
def RqKeeps (c c' : Rq11) : Prop := ∃ cflgs units, c' = { c with cflgs := cflgs, units := units }

namespace RqKeeps

variable {c : Rq11}

theorem refl (c : Rq11) : RqKeeps c c := ⟨c.cflgs, c.units, rfl⟩

theorem setUnit (c : Rq11) (unit : Word) (u : RqUnit) : RqKeeps c (c.setUnit unit u) := by
  unfold Rq11.setUnit
  split
  · exact ⟨c.cflgs, _, rfl⟩
  · exact refl c

end RqKeeps

theorem rqCmdScc_keeps (cmd : RqPacket) (c : Rq11) : RqKeeps c (rqCmdScc cmd c).2 := by
  unfold rqCmdScc
  by_cases h : cmd rqSccMsv ≠ 0
  · rw [if_pos h]
    exact .refl c
  · rw [if_neg h]
    exact ⟨_, c.units, rfl⟩

theorem rqCmdAvl_keeps (cmd : RqPacket) (c : Rq11) : RqKeeps c (rqCmdAvl cmd c).2 := by
  unfold rqCmdAvl
  cases rqAttached c (cmd rqCmdUn) with
  | none => exact .refl c
  | some attached =>
    obtain ⟨u, -⟩ := attached
    exact .setUnit c _ _

theorem rqCmdOnl_keeps (cmd : RqPacket) (c : Rq11) : RqKeeps c (rqCmdOnl cmd c).2 := by
  unfold rqCmdOnl
  cases rqAttached c (cmd rqCmdUn) with
  | none => exact .refl c
  | some attached =>
    obtain ⟨u, -⟩ := attached
    cases h : u.online with
    | true =>
      simp only [h, if_true]
      exact .refl c
    | false =>
      simp only [h, Bool.false_eq_true, if_false]
      exact .setUnit c _ _

theorem rqCmdSuc_keeps (cmd : RqPacket) (c : Rq11) : RqKeeps c (rqCmdSuc cmd c).2 := by
  unfold rqCmdSuc
  cases rqAttached c (cmd rqCmdUn) with
  | none => exact .refl c
  | some attached =>
    obtain ⟨u, -⟩ := attached
    exact .setUnit c _ _

section Transfer

variable {ι σ : Type} {A : Areas ι} {dma : Dma σ} {cells : dma.Cells}

/-- The data a read brings misses the areas. -/
def RqDataClear (A : Areas ι) (cells : dma.Cells) (cmd : RqPacket) (s : σ) : Prop :=
  cmd rqCmdOpc &&& 0xFF = rqOpRd → A.Clear cells s (rqGetU32 cmd rqRwBal) (rqGetU32 cmd rqRwBcl).toNat

/-- A part of a clear range is clear. -/
theorem Areas.Clear.part {s : σ} {addr : Dword} {n : Nat} (h : A.Clear cells s addr n) (off : Dword) {m : Nat}
    (hm : off.toNat + m ≤ n) : A.Clear cells s (addr + off) m := by
  intro i hi
  have hshift : addr + off + BitVec.ofNat 32 i = addr + BitVec.ofNat 32 (off.toNat + i) := by
    rw [BitVec.add_assoc, BitVec.ofNat_add, BitVec.ofNat_toNat, BitVec.setWidth_eq]
  rw [hshift]
  exact h (off.toNat + i) (by omega)

theorem rqRwBlock_memory {op : Word} {lbn ba chunk : Dword} {f : DiskFile} {s : σ} (hp : A.Placed cells s)
    (hclear : op = rqOpRd → A.Clear cells s ba chunk.toNat) :
    A.Same dma cells (fun _ _ => False) s (rqRwBlock dma op lbn ba chunk f s).2.2 := by
  unfold rqRwBlock
  by_cases hrd : op = rqOpRd
  · rw [if_pos hrd]
    have hwrite := Areas.writeBytes_clear hp ((rqReadBlock f lbn).take chunk.toNat) fun i hi =>
       hclear hrd i (Nat.lt_of_lt_of_le hi (by rw [List.length_take]; exact Nat.min_le_left _ _))
    cases hdone : dma.writeBytes s ba ((rqReadBlock f lbn).take chunk.toNat) with
    | mk ok t =>
      rw [hdone] at hwrite
      cases ok with
      | true => exact hwrite
      | false => exact hwrite
  · rw [if_neg hrd]
    by_cases hcmp : op = rqOpCmp
    · rw [if_pos hcmp]
      cases dma.readBytes s ba chunk.toNat with
      | none => exact .refl s
      | some hostBuf => exact .refl s
    · rw [if_neg hcmp]
      cases dma.readBytes s ba chunk.toNat with
      | none => exact .refl s
      | some buf => exact .refl s

theorem rqRwBlocks_memory {op : Word} (n : Nat) {lbn ba done remaining : Dword} {f : DiskFile} {s : σ} {total : Nat}
    (hp : A.Placed cells s) (hclear : op = rqOpRd → A.Clear cells s ba total)
    (htotal : done.toNat + remaining.toNat ≤ total) :
    A.Same dma cells (fun _ _ => False) s (rqRwBlocks dma op n lbn ba done remaining f s).2.2.2 := by
  induction n generalizing lbn done remaining f s with
  | zero => exact .refl s
  | succ n ih =>
    simp only [rqRwBlocks]
    have hchunk : (if remaining < 512 then remaining else 512 : Dword).toNat ≤ remaining.toNat := by
      split
      · exact Nat.le_refl _
      · rename_i h
        exact BitVec.le_def.1 (BitVec.not_lt.1 h)
    generalize (if remaining < 512 then remaining else 512 : Dword) = chunk at hchunk ⊢
    have hblock : A.Same dma cells (fun _ _ => False) s (rqRwBlock dma op lbn (ba + done) chunk f s).2.2 :=
      rqRwBlock_memory hp fun hrd => (hclear hrd).part done (by omega)
    generalize rqRwBlock dma op lbn (ba + done) chunk f s = block at hblock ⊢
    obtain ⟨status, f', t⟩ := block
    by_cases hstatus : status ≠ rqStSuc
    · rw [if_pos hstatus]
      exact hblock
    · rw [if_neg hstatus]
      refine hblock.trans (ih (hblock.placed hp) (fun hrd => hblock.clear (hclear hrd)) ?_)
      rw [BitVec.toNat_add, BitVec.toNat_sub_of_le (BitVec.le_def.2 hchunk)]
      omega

theorem rqCmdRwCommon_memory {cmd : RqPacket} {op : Word} {c : Rq11} {s : σ} (hp : A.Placed cells s)
    (hclear : op = rqOpRd → A.Clear cells s (rqGetU32 cmd rqRwBal) (rqGetU32 cmd rqRwBcl).toNat) :
    A.Same dma cells (fun _ _ => False) s (rqCmdRwCommon dma cmd op c s).2.2 := by
  unfold rqCmdRwCommon
  simp only
  split
  · exact rqRwBlocks_memory _ hp hclear (by simp)
  · exact .refl s

theorem rqCmdRwCommon_keeps (cmd : RqPacket) (op : Word) (c : Rq11) (s : σ) :
    RqKeeps c (rqCmdRwCommon dma cmd op c s).2.1 := by
  unfold rqCmdRwCommon
  simp only
  split
  · exact .setUnit c _ _
  · exact .refl c

theorem rqCmdRwCommon_reply (cmd : RqPacket) (op : Word) (c : Rq11) (s : σ) :
    RqReply op cmd (rqCmdRwCommon dma cmd op c s).1 := by
  unfold rqCmdRwCommon
  simp only
  split
  · exact rqRwRsp_reply ..
  · exact rqRwRsp_reply ..

/-- What the rings may rely on when a command was processed. -/
structure RqServed (A : Areas ι) (cells : dma.Cells) (cmd : RqPacket) (c : Rq11) (s : σ)
    (result : RqPacket × Rq11 × σ) : Prop where
  reply : RqReply (cmd rqCmdOpc &&& 0xFF) cmd result.1
  keeps : RqKeeps c result.2.1
  memory : A.Same dma cells (fun _ _ => False) s result.2.2

theorem rqProcessCommand_served {cmd : RqPacket} {c : Rq11} {s : σ} (hp : A.Placed cells s)
    (hclear : RqDataClear A cells cmd s) : RqServed A cells cmd c s (rqProcessCommand dma cmd c s) := by
  unfold RqDataClear at hclear
  unfold rqProcessCommand
  simp only
  split_ifs with hgcs hscc hgus havl honl hsuc hacc hcmp hrd hwr
  · exact ⟨hgcs ▸ rqCmdGcs_reply cmd, .refl c, .refl s⟩
  · exact ⟨hscc ▸ rqCmdScc_reply cmd c, rqCmdScc_keeps cmd c, .refl s⟩
  · exact ⟨hgus ▸ rqCmdGus_reply cmd c, .refl c, .refl s⟩
  · exact ⟨havl ▸ rqCmdAvl_reply cmd c, rqCmdAvl_keeps cmd c, .refl s⟩
  · exact ⟨honl ▸ rqCmdOnl_reply cmd c, rqCmdOnl_keeps cmd c, .refl s⟩
  · exact ⟨hsuc ▸ rqCmdSuc_reply cmd c, rqCmdSuc_keeps cmd c, .refl s⟩
  · exact ⟨hacc ▸ (RqReply.prepare cmd rqOpAcc _ (by decide)).flagged, .refl c, .refl s⟩
  · exact ⟨hcmp ▸ rqCmdRwCommon_reply .., rqCmdRwCommon_keeps .., rqCmdRwCommon_memory hp (absurd · (by decide))⟩
  · exact ⟨hrd ▸ rqCmdRwCommon_reply .., rqCmdRwCommon_keeps .., rqCmdRwCommon_memory hp fun _ => hclear hrd⟩
  · exact ⟨hwr ▸ rqCmdRwCommon_reply .., rqCmdRwCommon_keeps .., rqCmdRwCommon_memory hp (absurd · (by decide))⟩
  · exact ⟨(RqReply.prepare cmd _ _ (by decide)).flagged, .refl c, .refl s⟩

end Transfer

end K1801.Lsi11
