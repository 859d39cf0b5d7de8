import K1801.Core.State

/-! # Word registers stored byte by byte

The bus stores a word as its low byte and then its high byte. A device puts each byte into what it reads back from
the register.
-/

namespace K1801.Lsi11

open Core

/-- Replace the byte of a register that `addr` names. -/
def withByteAt (addr old : Word) (b : Byte) : Word :=
  if addr &&& 1 ≠ 0 then (old &&& 0o377) ||| (b.setWidth 16 <<< 8) else (old &&& 0o177400) ||| b.setWidth 16

end K1801.Lsi11
