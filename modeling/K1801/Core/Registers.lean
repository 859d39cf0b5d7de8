import K1801.Core.Psw

/-! # On-chip register blocks

The 1801VM1 timer block at 0177700..0177712 and the J-11 block at 0177744..0177776.
A load or store answers `none` when the offset is not decoded.
-/

namespace K1801.Core

def byteOf (value offset : Word) : Byte :=
  if offset &&& 1 ≠ 0 then (value >>> 8).setWidth 8 else value.setWidth 8

/-- Replace the byte of `value` that `offset` addresses. -/
def withByte (value offset : Word) (b : Byte) : Word :=
  if offset &&& 1 ≠ 0 then (value &&& 0o377) ||| (b.setWidth 16 <<< 8)
  else (value &&& 0o177400) ||| b.setWidth 16

/-! ## 1801VM1 -/

def vm1RegBlockLoadWord (r : Regs) (offset : Word) : Option Word :=
  if offset = 0o177700 then some 0o17777
  else if offset = 0o177702 then some (if r.vm1RapPresent then 0o17777 else 0)
  else if offset = 0o177704 then some 0o177340
  else if offset = 0o177706 then some r.tveLimit
  else if offset = 0o177710 then some r.tveCount
  else if offset = 0o177712 then some r.tveCsr
  else none

def vm1RegBlockStoreWord (r : Regs) (offset value : Word) : Option Regs :=
  if offset = 0o177700 then some r
  else if offset = 0o177702 then some { r with vm1RapPresent := false }
  else if offset = 0o177704 then some r
  else if offset = 0o177706 then some { r with tveLimit := value }
  else if offset = 0o177710 then some r
  else if offset = 0o177712 then
    some { r with tveCsr := 0o177400 ||| (value &&& 0o177), tveCount := r.tveLimit }
  else none

def vm1RegBlockLoadByte (r : Regs) (offset : Word) : Option Byte :=
  (vm1RegBlockLoadWord r offset).map (byteOf · offset)

def vm1RegBlockStoreByte (r : Regs) (offset : Word) (value : Byte) : Option Regs := do
  let regv ← vm1RegBlockLoadWord r offset
  vm1RegBlockStoreWord r offset (withByte regv offset value)

/-! ## J-11 -/

abbrev dcj11RegMemerr : Word := 0o177744
abbrev dcj11RegCcr : Word := 0o177746
abbrev dcj11RegMaint : Word := 0o177750
abbrev dcj11RegHitmiss : Word := 0o177752
abbrev dcj11RegCpuerr : Word := 0o177766
abbrev dcj11RegPirq : Word := 0o177772
abbrev dcj11RegStklim : Word := 0o177774
abbrev dcj11RegPsw : Word := 0o177776

abbrev dcj11PirqRw : Word := 0o177000
abbrev dcj11PirqImp : Word := 0o177356

/-- Request bits 9..15 are levels 1..7: the highest set bit gives the level. -/
def dcj11PirqHighestLevel (pirq : Word) : Nat :=
  let req := pirq &&& dcj11PirqRw
  if req = 0 then 0 else req.toNat.log2 - 8

def dcj11PirqPriField (level : Nat) : Word :=
  match level with
  | 1 => 0o42
  | 2 => 0o104
  | 3 => 0o146
  | 4 => 0o210
  | 5 => 0o252
  | 6 => 0o314
  | 7 => 0o356
  | _ => 0

def dcj11PirqVisible (pirq : Word) : Word :=
  let level := dcj11PirqHighestLevel pirq
  let req := pirq &&& dcj11PirqRw
  (req ||| dcj11PirqPriField level) &&& dcj11PirqImp

def dcj11RegBlockLoadWord (r : Regs) (offset : Word) : Option Word :=
  let a := offset &&& 0o177776
  if a = dcj11RegMemerr then some r.j11Memerr
  else if a = dcj11RegCcr then some r.j11Ccr
  else if a = dcj11RegMaint then some r.j11Maint
  else if a = dcj11RegHitmiss then some r.j11Hitmiss
  else if a = dcj11RegCpuerr then some (r.j11Cpuerr &&& Regs.cpuerrMask)
  else if a = dcj11RegPirq then some (dcj11PirqVisible r.j11Pirq)
  else if a = dcj11RegStklim then some r.j11Stklim
  else if a = dcj11RegPsw then some r.psw
  else none

def dcj11RegBlockStoreWord (r : Regs) (offset value : Word) : Option Regs :=
  let a := offset &&& 0o177776
  if a = dcj11RegMemerr then some { r with j11Memerr := 0 }
  else if a = dcj11RegCcr then some { r with j11Ccr := value }
  else if a = dcj11RegMaint then some r
  else if a = dcj11RegHitmiss then some r
  else if a = dcj11RegCpuerr then some { r with j11Cpuerr := 0 }
  else if a = dcj11RegPirq then some { r with j11Pirq := value &&& dcj11PirqRw }
  else if a = dcj11RegStklim then some { r with j11Stklim := value &&& 0o177776 }
  else if a = dcj11RegPsw then
    some { r.dcj11SetPsw (dcj11ExplicitPswWrite r value) with dcj11ExplicitPswWrite := true }
  else none

def dcj11RegBlockLoadByte (r : Regs) (offset : Word) : Option Byte :=
  (dcj11RegBlockLoadWord r offset).map (byteOf · offset)

def dcj11RegBlockStoreByte (r : Regs) (offset : Word) (value : Byte) : Option Regs :=
  if offset &&& 0o177776 = dcj11RegPirq then
    -- the low byte of PIRQ is not writable, the high byte holds the request bits
    if offset &&& 1 = 0 then some r
    else dcj11RegBlockStoreWord r dcj11RegPirq (value.setWidth 16 <<< 8)
  else if offset = dcj11RegMemerr ∨ offset = dcj11RegHitmiss ∨ offset = dcj11RegCpuerr ∨
      offset = dcj11RegMaint then
    dcj11RegBlockStoreWord r offset 0
  else do
    let regv ← dcj11RegBlockLoadWord r offset
    dcj11RegBlockStoreWord r offset (withByte regv offset value)

end K1801.Core
