import K1801.Core.CondCodes
import K1801.Core.Hwstub
import K1801.Core.ResultOps

/-! # Stores to the PSW

The J-11 has its PSW in the address space. An instruction whose result goes there leaves the stored
value, and its condition codes are dropped; a store to anything else leaves its condition codes.
-/

namespace K1801.Core

open Library

variable {β : Type}

/-- The condition codes after an update. -/
def CcUpdate.apply (u : CcUpdate) (cc : CondCodes) : CondCodes :=
  ⟨u.n.getD cc.n, u.z.getD cc.z, u.v.getD cc.v, u.c.getD cc.c⟩

section Finish

variable {e : Env β} {m m₁ m₂ : Machine β} {f : Fetched} {op : ResultOp} {res : Word × CcUpdate}

theorem finish_run (h : (op.store e f.dst res.1).run m₁ = .done () m₂) :
    (op.finish e f res).run m₁ = .done {} (m₂.after (op.codes (m₂.core.r 0) res.2).micro) := by
  unfold ResultOp.finish
  rw [Program.run_bind, h, Outcome.andThen_done]
  rfl

theorem setR_self (i : BitVec 3) (v : Word) (r : Regs) : ((Micro.setR i v).apply r).r i = v := by
  simp [Micro.apply]

/-- TSTSET leaves in R0 what it has read. -/
theorem codes_fetched (h : Answers (op.fetch e) m f m₁) (psw : Word) :
    op.codes (m₁.core.r 0) (op.compute psw f).2 = (op.compute psw f).2 := by
  cases op with
  | tstset dd =>
    obtain ⟨-, hrun⟩ := ResultOp.answers_memoryMode h
    obtain ⟨dst, m₀, hdst, hrest⟩ := Program.bind_done.1 hrun.1
    obtain ⟨val, m₂, hval, hlast⟩ := Program.bind_done.1 hrest
    cases hlast
    change ResultOp.codes (((Micro.setR 0 val).apply m₂.core).r 0) _ (.tstset dd) = _
    rw [setR_self]
    rfl
  | _ => rfl

theorem codes_after_psw (hmodel : m₂.core.model = .dcj11) (hexplicit : m₂.core.dcj11ExplicitPswWrite = true)
    (u : CcUpdate) : (m₂.after u.micro).core.psw = m₂.core.psw := by
  have hclosed : m₂.core.explicitPsw = true := by simp [Regs.explicitPsw, hmodel, hexplicit]
  have hkept : m₂.core.setCc u.n u.z u.v u.c = m₂.core := if_pos hclosed
  exact congrArg (fun r => r.psw) hkept

theorem codes_open (hopen : m₂.core.dcj11ExplicitPswWrite = false) (u : CcUpdate) :
    condCodes (m₂.after u.micro).core.psw = u.apply (condCodes m₂.core.psw) ∧
      (m₂.after u.micro).core.psw &&& ~~~ccMask = m₂.core.psw &&& ~~~ccMask := by
  have himplicit : m₂.core.explicitPsw = false := by simp [Regs.explicitPsw, hopen]
  exact ⟨condCodes_setCc himplicit u.n u.z u.v u.c, setCc_other u.n u.z u.v u.c m₂.core⟩

end Finish

/-- The state that fetching keeps. -/
theorem fetch_kept {e : Env β} (he : e.TrapsAbort) {op : ResultOp} {m m₁ : Machine β} {f : Fetched}
    (h : Answers (op.fetch e) m f m₁) :
    m₁.core.model = m.core.model ∧ m₁.core.psw = m.core.psw ∧ m₁.core.pswBefore = m.core.pswBefore ∧
      m₁.core.dcj11ExplicitPswWrite = m.core.dcj11ExplicitPswWrite := by
  have hkept := (ResultOp.quiet_fetch he op).keeps _ _ _ h
  exact ⟨congrArg (fun r => r.model) hkept, congrArg (fun r => r.psw) hkept,
    congrArg (fun r => r.pswBefore) hkept, congrArg (fun r => r.dcj11ExplicitPswWrite) hkept⟩

/-- The condition codes and the T bit are set, and R0 points at the PSW. -/
def pswMachine : Machine Memory where
  core := { model := .dcj11, psw := 0o37, pswBefore := 0o37, r := fun i => if i = 0 then 0o177776 else 0 }
  bus := Memory.ofWords 0 []

end K1801.Core
