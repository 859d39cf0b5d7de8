import K1801.Library.WordList
import Mathlib.Data.List.GetD

/-! # Module files

`module_image.py`: a module is a header block, the image in blocks and, when it can be moved, a trailer with the
places of its addresses. Version 2 is the plain image, version 3 adds the allocation and version 4 the relocations.
Integers are those of Python; a raised exception is an error.
-/

namespace K1801.Uj11.ModuleImage

open Library

abbrev Byte := BitVec 8

inductive Raised where
  | valueError (message : String)
  /-- `struct.error` -/
  | structError
  deriving Repr, DecidableEq

abbrev Checked := Except Raised

def raiseIf (c : Prop) [Decidable c] (message : String) : Checked Unit :=
  if c then .error (.valueError message) else .ok ()

abbrev magic : List Int := [0o45125, 0o30461]
abbrev version : Int := 2
abbrev abi : Int := 3
abbrev allocationVersion : Int := 3
abbrev relocationVersion : Int := 4
abbrev linkBase : Int := 0o1000

/-! ## Python -/

/-- `data[first:last]` -/
def slice (data : List Byte) (first last : Int) : List Byte := (data.take last.toNat).drop first.toNat

/-- `bytes(n)` -/
def zeros (n : Int) : List Byte := List.replicate n.toNat 0#8

/-- `any(data)` -/
def anyByte (data : List Byte) : Bool := data.any (· != 0#8)

/-- `struct.pack` with a format of words -/
def structPack (ws : List Int) : Checked (List Byte) :=
  if ∀ w ∈ ws, FitsWord w then .ok (bytesOf ws) else .error .structError

/-- `struct.pack_into('<H', data, offset, value)` -/
def packInto (data : List Byte) (offset : Int) (value : Int) : Checked (List Byte) :=
  if FitsWord value ∧ offset + 2 ≤ data.length then
    .ok ((data.set offset.toNat (BitVec.ofInt 8 value)).set (offset.toNat + 1) (BitVec.ofInt 8 (value / 256)))
  else .error .structError

/-- `int.from_bytes(data, 'little')` -/
def fromBytes : List Byte → Int
  | [] => 0
  | b :: bs => b.toNat + 256 * fromBytes bs

/-- The numbers of `struct.iter_unpack('<2H', data)`, two by two. -/
def pairsOf : List Int → List (Int × Int)
  | a :: b :: rest => (a, b) :: pairsOf rest
  | _ => []

/-! ## Packing -/

def checksum (data : List Byte) : Checked Int := do
  raiseIf (data.length % 2 ≠ 0) "word-aligned image required"
  return (wordsOf data).sum % 65536

def bounds (base words : Int) : Checked Int := do
  let finish := base + words * 2
  raiseIf (base % 2 ≠ 0 ∨ ¬ (0 < words ∧ words < 32768) ∨ base < 0o6000 ∨ finish > 0o160000 ∨
    base < 0o10000 ∧ finish > 0o7000) "image outside executable module pools"
  return finish

def validateFrom (image : List Byte) : Int → List (Int × Int) → Checked Unit
  | _, [] => .ok ()
  | previous, (offset, original) :: rest => do
    let index := offset % 0o100000
    raiseIf (¬ (0 ≤ offset ∧ offset ≤ 65535) ∨ ¬ (0 ≤ original ∧ original ≤ 65535))
      "relocation word out of range"
    raiseIf (index ≤ previous ∨ 2 * index + 2 > image.length)
      "relocations must be unique, ordered and inside immutable image"
    raiseIf (fromBytes (slice image (2 * index) (2 * index + 2)) ≠ original) "relocation original differs from image"
    validateFrom image index rest

def validateRelocations (image : List Byte) (relocations : List (Int × Int)) : Checked Unit :=
  validateFrom image (-1) relocations

/-- The bytes that fill up a block of 512. -/
def padding (n : Nat) : List Byte := zeros (-(n : Int) % 512)

/-- The header with the allocation in it. -/
def packAllocation (base : Int) (image : List Byte) (header : List Int) : Option Int → Checked (List Int)
  | none => .ok header
  | some memoryBytes => do
    raiseIf (memoryBytes % 2 ≠ 0 ∨ memoryBytes < image.length)
      "allocation must include the word-aligned immutable image"
    let _ ← bounds base (memoryBytes / 2)
    return (header.set 2 allocationVersion).set 8 (memoryBytes / 2)

/-- The header with the relocations in it, and the trailer. -/
def packRelocations (image : List Byte) (memoryBytes : Option Int) (header : List Int) :
    Option (List (Int × Int)) → Checked (List Int × List Byte)
  | none => .ok (header, [])
  | some relocations => do
    raiseIf (memoryBytes = none) "relocatable module requires its full allocation"
    validateRelocations image relocations
    let trailer ← structPack (relocations.flatMap fun pair => [pair.1, pair.2])
    let sum ← checksum trailer
    return ((((header.set 2 relocationVersion).set 9 linkBase).set 10 relocations.length).set 11 sum, trailer)

def pack (base : Int) (image : List Byte) (memoryBytes : Option Int) (relocations : Option (List (Int × Int))) :
    Checked (List Byte) := do
  let _ ← bounds base (image.length / 2)
  let sum ← checksum image
  let header := magic ++ [version, abi, base, image.length / 2, sum, 0] ++ List.replicate 8 0
  let header ← packAllocation base image header memoryBytes
  let (header, trailer) ← packRelocations image memoryBytes header relocations
  let packed ← structPack (header.set 7 (-header.sum % 65536))
  let result := packed ++ zeros 480 ++ image
  let result := result ++ padding result.length
  return result ++ trailer ++ padding trailer.length

/-! ## Relocation -/

def relocateFrom (delta : Int) : List (Int × Int) → List Byte → Checked (List Byte)
  | [], result => .ok result
  | (offset, original) :: rest, result => do
    let value := original + if offset / 0o100000 % 2 ≠ 0 then -delta else delta
    let result ← packInto result (2 * (offset % 0o100000)) (value % 65536)
    relocateFrom delta rest result

def relocate (image : List Byte) (relocations : List (Int × Int)) (base : Int) : Checked (List Byte) := do
  validateRelocations image relocations
  relocateFrom (base - linkBase) relocations image

/-! ## Decoding -/

/-- The dictionary `decode` answers with. -/
structure Record where
  base : Int
  words : Int
  checksum : Int
  bytes : Int
  memoryBytes : Option Int := none
  memoryWords : Option Int := none
  version : Option Int := none
  linkBase : Option Int := none
  relocations : Option (List (Int × Int)) := none
  deriving Repr, DecidableEq

/-- The fields of the allocation, from version 3 on. -/
def decodeAllocation (field : Nat → Int) (record : Record) : Checked Record := do
  if field 2 ≥ allocationVersion then
    let _ ← bounds (field 4) (field 8)
    raiseIf (field 8 < field 5) "allocation is smaller than the image"
    return { record with memoryBytes := some (2 * field 8), memoryWords := some (field 8), version := some (field 2) }
  else return record

/-- The fields of the relocations, in version 4. -/
def decodeRelocations (field : Nat → Int) (data image : List Byte) (imageEnd count : Int) (record : Record) :
    Checked Record := do
  if field 2 = relocationVersion then
    raiseIf (field 9 ≠ linkBase ∨ count > field 5) "invalid relocation origin or count"
    let trailer := slice data imageEnd (imageEnd + count * 4)
    let sum ← checksum trailer
    raiseIf (sum ≠ field 11 ∨ anyByte (slice data (imageEnd + count * 4) data.length) = true)
      "relocation checksum or padding mismatch"
    let pairs := pairsOf (wordsOf trailer)
    validateRelocations image pairs
    return { record with linkBase := some linkBase, relocations := some pairs }
  else return record

def decode (data : List Byte) : Checked Record := do
  raiseIf (data.length < 1024 ∨ data.length % 512 ≠ 0) "invalid RT-11 block extent"
  let header := wordsOf (slice data 0 32)
  let field (i : Nat) : Int := header.getD i 0
  let sum ← checksum (slice data 0 32)
  raiseIf (header.take 2 ≠ magic ∨ ¬ (field 2 = version ∨ field 2 = allocationVersion ∨ field 2 = relocationVersion) ∨
    field 3 ≠ abi ∨ sum ≠ 0) "invalid module header"
  let _ ← bounds (field 4) (field 5)
  let size := 2 * field 5
  let imageEnd := 512 + (size + 511) / 512 * 512
  let count := if field 2 = relocationVersion then field 10 else 0
  raiseIf (data.length ≠ imageEnd + (count * 4 + 511) / 512 * 512) "invalid RT-11 block extent"
  let reserved := if field 2 = version then 16 else if field 2 = allocationVersion then 18 else 24
  raiseIf (anyByte (slice data reserved 512) = true ∨ anyByte (slice data (512 + size) imageEnd) = true)
    "nonzero reserved fields or padding"
  let image := slice data 512 (512 + size)
  let imageSum ← checksum image
  raiseIf (imageSum ≠ field 6) "module checksum mismatch"
  let record ← decodeAllocation field { base := field 4, words := field 5, checksum := field 6, bytes := size }
  decodeRelocations field data image imageEnd count record

def placedImage (data : List Byte) (base : Option Int) : Checked (List Byte) := do
  let record ← decode data
  let target := base.getD record.base
  let _ ← bounds target (record.memoryWords.getD record.words)
  let image := slice data 512 (512 + record.bytes)
  if record.version = some relocationVersion then
    relocate image (record.relocations.getD []) target
  else
    raiseIf (target ≠ record.base) "absolute module cannot move"
    return image

end K1801.Uj11.ModuleImage
