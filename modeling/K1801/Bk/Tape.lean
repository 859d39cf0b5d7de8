import Mathlib.Data.List.DropRight
import K1801.Core.State

/-! # The tape of the BK-0010

A recording is a sequence of strobes of two bytes: a level and how many ticks it lasts. A byte is written as eight
bits, each of them a long or a short pulse and a synchronizing one.
-/

namespace K1801.Bk

open Core

/-! ## Strobes -/

/-- The two bytes of a strobe of `chunk` ticks. -/
def tapeStrobe (val : Bool) (chunk : Nat) : List Byte :=
  let chunk : Word := BitVec.ofNat 16 chunk
  [((chunk >>> 8) &&& 0x7f).setWidth 8 ||| (if val then 0x80 else 0), (chunk &&& 0xff).setWidth 8]

/-- `tape_in_append` and `tape_out_append`: a level of any length, in strobes of at most 32767 ticks. -/
def tapeAppend (val : Bool) (duration : Nat) : List Byte :=
  if _h : duration = 0 then []
  else
    let chunk := min duration 32767
    tapeStrobe val chunk ++ tapeAppend val (duration - chunk)
termination_by duration

/-! ## Encoding -/

section Encode

variable (tapeSynch : Nat)

/-- A level of `n` synchronizing pulses, as far as they fit a `uint16_t`. -/
def tapeInAppend (val : Bool) (n : Nat) : List Byte := tapeAppend val (n * tapeSynch % 2 ^ 16)

def tapePutSi : List Byte := tapeInAppend tapeSynch true 1 ++ tapeInAppend tapeSynch false 1

def tapePut0 : List Byte := tapeInAppend tapeSynch true 1 ++ tapeInAppend tapeSynch false 1 ++ tapePutSi tapeSynch

def tapePut1 : List Byte := tapeInAppend tapeSynch true 2 ++ tapeInAppend tapeSynch false 2 ++ tapePutSi tapeSynch

def tapePutInm : List Byte := tapeInAppend tapeSynch true 8

def tapePutOutm : List Byte := tapeInAppend tapeSynch true 4 ++ tapeInAppend tapeSynch false 4

def tapePutTune (count : Nat) : List Byte := (List.replicate count (tapePutSi tapeSynch)).flatten

/-- The bits of a byte, the lowest first. -/
def tapePutByte (b : Byte) : List Byte :=
  (List.range 8).flatMap fun i => if b.getLsbD i then tapePut1 tapeSynch else tapePut0 tapeSynch

def tapePutArray (p : List Byte) : List Byte := p.flatMap (tapePutByte tapeSynch)

/-- A sum of bytes with end-around carry. -/
def tapeChecksum (data : List Byte) : Word :=
  BitVec.ofNat 16 (data.foldl (fun sum b =>
    if (sum + b.toNat) / 2 ^ 16 % 2 = 1 then (sum + b.toNat) % 2 ^ 16 + 1 else sum + b.toNat) 0)

/-- The first 16 bytes, filled up. -/
def tapeNameField (pad : Byte) (name : List Byte) : List Byte :=
  name.take 16 ++ List.replicate (16 - name.length) pad

/-- The name in the header; `padSpace` is `tape_name_pad_space`. -/
def tapeHeaderName (padSpace : Bool) (nameRaw : List Byte) (name : Option (List Byte)) : List Byte :=
  if nameRaw ≠ [] then tapeNameField 0 nameRaw
  else
    match name with
    | some name => tapeNameField (if padSpace then 0x20 else 0) name
    | none => tapeNameField 0 []

/-- Two bytes, the low one first. -/
def tapePutWord (w : Word) : List Byte :=
  tapePutByte tapeSynch (w.setWidth 8) ++ tapePutByte tapeSynch ((w >>> 8).setWidth 8)

/-- The marker in front of an array. -/
def tapePutMarker : List Byte := tapePutTune tapeSynch 0o10 ++ tapePutOutm tapeSynch ++ tapePut1 tapeSynch

/-- `tape_encode_bin_to_raw_internal` -/
def tapeEncodeBinToRaw (padSpace : Bool) (data nameRaw : List Byte) (name : Option (List Byte)) :
    Option (List Byte) :=
  match data with
  | a₀ :: a₁ :: l₀ :: l₁ :: rest =>
    let addr : Word := a₀.setWidth 16 ||| (a₁.setWidth 16 <<< 8)
    let len : Word := l₀.setWidth 16 ||| (l₁.setWidth 16 <<< 8)
    if rest.length < len.toNat then none
    else
      let payload := rest.take len.toNat
      some (tapePutInm tapeSynch ++ tapePutTune tapeSynch 0o10000 ++ tapePutOutm tapeSynch ++ tapePut1 tapeSynch ++
        tapePutMarker tapeSynch ++ tapePutWord tapeSynch addr ++ tapePutWord tapeSynch len ++
        tapePutArray tapeSynch (tapeHeaderName padSpace nameRaw name) ++
        tapePutMarker tapeSynch ++ tapePutArray tapeSynch payload ++ tapePutWord tapeSynch (tapeChecksum payload) ++
        tapePutInm tapeSynch ++ tapePutTune tapeSynch 0o400 ++ tapePutOutm tapeSynch ++ tapePut1 tapeSynch)
  | _ => none

end Encode

/-! ## Reading strobes -/

/-- `tape_raw_reader`: what is left of the recording, and the strobe that has been taken from it. -/
structure TapeRawReader where
  data : List Byte
  oldStrobe : Word

def tapeRawNextWord (r : TapeRawReader) : Option (Word × TapeRawReader) :=
  match r.data with
  | b₁ :: b₂ :: data => some ((b₁.setWidth 16 <<< 8) ||| b₂.setWidth 16, { r with data := data })
  | _ => none

theorem tapeRawNextWord_shorter {r r' : TapeRawReader} {w : Word} (h : tapeRawNextWord r = some (w, r')) :
    r'.data.length < r.data.length := by
  unfold tapeRawNextWord at h
  split at h
  · rename_i b₁ b₂ data hdata
    cases h
    rw [hdata]
    exact Nat.lt_of_lt_of_le (Nat.lt_succ_self _) (Nat.le_succ _)
  · cases h

def strobeLen (w : Word) : Nat := (w &&& 0x7fff).toNat

def strobeVal (w : Word) : Bool := w.getLsbD 15

/-- The strobe taken last, and a look at the next one. One of less than two ticks is a glitch: it and the strobe
behind it belong to the one before. -/
def tapeRawGetStrobe (r : TapeRawReader) : Option ((Nat × Bool) × TapeRawReader) :=
  match _h : tapeRawNextWord r with
  | none => none
  | some (c, r₁) =>
    if 1 < strobeLen c then some ((strobeLen r.oldStrobe, strobeVal r.oldStrobe), { r₁ with oldStrobe := c })
    else
      match _h₁ : tapeRawNextWord r₁ with
      | none => none
      | some (c₁, r₂) => tapeRawGetStrobe { r₂ with oldStrobe := r.oldStrobe + 1 + (c₁ &&& 0x7fff) }
termination_by r.data.length
decreasing_by exact Nat.lt_trans (tapeRawNextWord_shorter _h₁) (tapeRawNextWord_shorter _h)

theorem tapeRawGetStrobe_shorter {r r' : TapeRawReader} {s : Nat × Bool} (h : tapeRawGetStrobe r = some (s, r')) :
    r'.data.length < r.data.length := by
  fun_induction tapeRawGetStrobe r with
  | case1 r hnext => cases h
  | case2 r c r₁ hnext hlong =>
    cases h
    have hless : r₁.data.length < r.data.length := tapeRawNextWord_shorter hnext
    exact hless
  | case3 r c r₁ hnext hshort hnone => cases h
  | case4 r c r₁ hnext hshort c₁ r₂ hnext₁ ih =>
    have hless : r₂.data.length < r₁.data.length := tapeRawNextWord_shorter hnext₁
    exact Nat.lt_trans (ih h) (Nat.lt_trans hless (tapeRawNextWord_shorter hnext))

/-! ## Reading bits -/

section Read

variable (polarity : Bool) (threshold : Nat)

/-- The next strobe of this polarity. -/
def tapeSkipTo (r : TapeRawReader) : Option (Nat × TapeRawReader) :=
  match _h : tapeRawGetStrobe r with
  | none => none
  | some ((len, val), r') => if val = polarity then some (len, r') else tapeSkipTo r'
termination_by r.data.length
decreasing_by exact tapeRawGetStrobe_shorter _h

theorem tapeSkipTo_shorter {r r' : TapeRawReader} {len : Nat} (h : tapeSkipTo polarity r = some (len, r')) :
    r'.data.length < r.data.length := by
  fun_induction tapeSkipTo polarity r with
  | case1 r hnone => cases h
  | case2 r len' r₁ hstrobe =>
    cases h
    exact tapeRawGetStrobe_shorter hstrobe
  | case3 r len' val r₁ hstrobe hother ih => exact Nat.lt_trans (ih h) (tapeRawGetStrobe_shorter hstrobe)

/-- Four strobes: of each polarity the longer one counts. -/
def tapeReadBitRaw (r : TapeRawReader) : Option (Nat × TapeRawReader) := do
  let (len₁, r) ← tapeSkipTo polarity r
  let ((len₂, _), r) ← tapeRawGetStrobe r
  let ((len₃, _), r) ← tapeRawGetStrobe r
  let ((len₄, _), r) ← tapeRawGetStrobe r
  return (max len₁ len₃ + max len₂ len₄, r)

/-- The sum of the next `n` bits. -/
def tapeSumBits : Nat → TapeRawReader → Option (Nat × TapeRawReader)
  | 0, r => some (0, r)
  | n + 1, r => do
    let (bit, r) ← tapeReadBitRaw polarity r
    let (sum, r) ← tapeSumBits n r
    return (bit + sum, r)

/-- The first strobe of the polarity that is as long as a marker. -/
def tapeSkipToMarker (r : TapeRawReader) : Option (Nat × TapeRawReader) :=
  match _h : tapeSkipTo polarity r with
  | none => none
  | some (len, r') => if len < threshold then tapeSkipToMarker r' else some (len, r')
termination_by r.data.length
decreasing_by exact tapeSkipTo_shorter polarity _h

/-- `n` bits from bit `i` on. -/
def tapeReadBits {w : Nat} : Nat → Nat → BitVec w → TapeRawReader → Option (BitVec w × TapeRawReader)
  | 0, _, b, r => some (b, r)
  | n + 1, i, b, r => do
    let (v, r) ← tapeReadBitRaw polarity r
    tapeReadBits n (i + 1) (if threshold < v then b ||| 1#w <<< i else b) r

/-- The bytes behind the marker. -/
def tapeReadBytes : Nat → TapeRawReader → Option (List Byte × TapeRawReader)
  | 0, r => some ([], r)
  | n + 1, r => do
    let (b, r) ← tapeReadBits polarity threshold 8 0 0#8 r
    let (bs, r) ← tapeReadBytes n r
    return (b :: bs, r)

def tapeReadArrayRaw (len : Nat) (r : TapeRawReader) : Option (List Byte × TapeRawReader) := do
  let (l, r) ← tapeSkipToMarker polarity threshold r
  if threshold * 2 < l then none
  else
    let (_, r) ← tapeReadBitRaw polarity r
    tapeReadBytes polarity threshold len r

end Read

/-! ## Decoding -/

/-- The first loop of `tape_find_header`: more than 2048 strobes, none of them much shorter than the one before. -/
def tapeFindTune (strobeCnt strobeLen : Nat) (r : TapeRawReader) : Option (Bool × TapeRawReader) :=
  match _h : tapeRawGetStrobe r with
  | none => none
  | some ((len, val), r') =>
    let (strobeCnt, strobeLen) := if len + 150 < strobeLen then (0, 0) else (strobeCnt + 1, len)
    if 0o4000 < strobeCnt then some (val, r') else tapeFindTune strobeCnt strobeLen r'
termination_by r.data.length
decreasing_by exact tapeRawGetStrobe_shorter _h

/-- The last loop of `tape_find_header`, which counts the strobes up to the marker. -/
def tapeFindMarker (threshold num : Nat) (r : TapeRawReader) : Option ((Nat × Nat × Bool) × TapeRawReader) :=
  match _h : tapeRawGetStrobe r with
  | none => none
  | some ((len, val), r') =>
    if len < threshold then tapeFindMarker threshold (num + 1) r' else some ((num + 1, len, val), r')
termination_by r.data.length
decreasing_by exact tapeRawGetStrobe_shorter _h

/-- The polarity and the threshold of the recording. A bit that cannot be read at the end leaves nothing to read. -/
def tapeFindHeader (r : TapeRawReader) : Option ((Bool × Nat) × TapeRawReader) := do
  let (val, r) ← tapeFindTune 0 0 r
  let (sum, r) ← tapeSumBits val 0o200 r
  let threshold := sum / 2 ^ 7 + sum / 2 ^ 7 / 2
  let ((num, len, polarity), r) ← tapeFindMarker threshold 0 r
  if 2 * threshold < len ∨ num < 100 then none
  else
    match tapeReadBitRaw polarity r with
    | some (_, r) => some ((polarity, threshold), r)
    | none => some ((polarity, threshold), { r with data := [] })

/-- What `bk_tape_decode_raw_to_bin` gives back. -/
structure TapeDecoded where
  data : List Byte
  nameOut : List Byte
  nameRaw : List Byte
  deriving DecidableEq

/-- The name as a string, without trailing spaces and zeros. -/
def tapeNameOut (header : List Byte) (nameSize : Nat) : List Byte :=
  ((header.drop 4).take (min (nameSize - 1) 16)).rdropWhile fun c => c = 0x20 ∨ c = 0

def tapeNameRaw (header : List Byte) (nameRawSize : Nat) : List Byte :=
  (header.drop 4).take (min nameRawSize 16) ++ List.replicate (nameRawSize - 16) 0

/-- `bk_tape_decode_raw_to_bin` -/
def bkTapeDecodeRawToBin (raw : List Byte) (nameSize nameRawSize : Nat) : Option TapeDecoded :=
  if raw.length < 4 then none
  else do
    let ((polarity, threshold), r) ← tapeFindHeader ⟨raw, 0⟩
    let (header, r) ← tapeReadArrayRaw polarity threshold 0o24 r
    let len : Word := (header.getD 3 0).setWidth 16 <<< 8 ||| (header.getD 2 0).setWidth 16
    let (payload, r) ← tapeReadArrayRaw polarity threshold len.toNat r
    let (checksum, _) ← tapeReadBits polarity threshold 16 0 0#16 r
    if checksum ≠ tapeChecksum payload then none
    else
      some
        { data := header.take 4 ++ payload
          nameOut := tapeNameOut header nameSize
          nameRaw := tapeNameRaw header nameRawSize }

end K1801.Bk
