import Mathlib
import K1801.Library.Padding
import K1801.Tools.Rt11Mkfs

/-! # The names of RT-11 files

A name is packed in RADIX-50, three characters a word: six for the name and three for the type. On the host it is a
string with the type behind the first dot.
-/

namespace K1801.Tools

open Library K1801.Core

def rt11Rad50Chars : List Char := " ABCDEFGHIJKLMNOPQRSTUVWXYZ$.?0123456789".toList

def rt11Rad50Char (c : Nat) : Char := rt11Rad50Chars.getD (if c < 40 then c else 0) ' '

def rt11Rad50Decode3 (w : Word) : List Char :=
  [rt11Rad50Char (w.toNat / 1600), rt11Rad50Char (w.toNat % 1600 / 40), rt11Rad50Char (w.toNat % 1600 % 40)]

/-- `rt11_rad50_encode3` on a field from character `i` on. -/
def rt11EncodeField (field : Nat → Char) (i : Nat) : Word :=
  rt11Rad50Encode3 (field i) (field (i + 1)) (field (i + 2))

def rt11TrimSpaces (s : List Char) : List Char := trimBlanks ' ' s

/-- A character that may stand in a name, in upper case. -/
def rt11NameChar (ch : Char) : Bool := (rt11Rad50Val (Char.toUpper ch)).isSome && Char.toUpper ch != ' '

/-- What stands before the first dot. -/
def hostName (host : List Char) : List Char := host.takeWhile (· ≠ '.')

/-- What stands behind the first dot, if there is one. -/
def hostType (host : List Char) : List Char := (host.dropWhile (· ≠ '.')).tail

/-- `rt11_name_from_host` on the characters before the terminating zero. -/
def rt11NameFromHost (host : List Char) : Option Rt11Name :=
  let name := hostName host
  let ext := hostType host
  if name.length = 0 ∨ 6 < name.length ∨ 3 < ext.length then none
  else if name.all rt11NameChar && ext.all rt11NameChar then
    let nameBuf := paddedAt ' ' (name.map Char.toUpper)
    let extBuf := paddedAt ' ' (ext.map Char.toUpper)
    some ⟨rt11EncodeField nameBuf 0, rt11EncodeField nameBuf 3, rt11EncodeField extBuf 0⟩
  else none

/-- `rt11_name_to_host` into a buffer of `outSize` bytes, the last of which takes the terminating zero. -/
def rt11NameToHost (name : Rt11Name) (outSize : Nat) (lower : Bool) : List Char :=
  let chars := rt11TrimSpaces (rt11Rad50Decode3 name.name0 ++ rt11Rad50Decode3 name.name1)
  let ext := rt11TrimSpaces (rt11Rad50Decode3 name.ext)
  let chars := if lower then chars.map Char.toLower else chars
  let ext := if lower then ext.map Char.toLower else ext
  (if ext = [] then chars else chars ++ '.' :: ext).take (outSize - 1)

/-! ## RADIX-50 -/

theorem rt11Rad50Char_letter : ∀ n < 26, rt11Rad50Char (n + 1) = Char.ofNat (65 + n) := by decide

theorem rt11Rad50Char_digit : ∀ n < 10, rt11Rad50Char (n + 30) = Char.ofNat (48 + n) := by decide

theorem rt11Rad50Val_spec {ch : Char} {v : Nat} (h : rt11Rad50Val ch = some v) : v < 40 ∧ rt11Rad50Char v = ch := by
  unfold rt11Rad50Val at h
  split_ifs at h with hblank hletter hdigit hdollar hdot hquery
  · cases h
    rw [hblank]
    decide
  · cases h
    have hlow : 65 ≤ ch.toNat := hletter.1
    have hhigh : ch.toNat ≤ 90 := hletter.2
    have hA : 'A'.toNat = 65 := rfl
    have hback : 65 + (ch.toNat - 65) = ch.toNat := by omega
    rw [hA, rt11Rad50Char_letter _ (by omega), hback, Char.ofNat_toNat]
    exact ⟨by omega, rfl⟩
  · cases h
    have hlow : 48 ≤ ch.toNat := hdigit.1
    have hhigh : ch.toNat ≤ 57 := hdigit.2
    have h0 : '0'.toNat = 48 := rfl
    have hback : 48 + (ch.toNat - 48) = ch.toNat := by omega
    rw [h0, rt11Rad50Char_digit _ (by omega), hback, Char.ofNat_toNat]
    exact ⟨by omega, rfl⟩
  · cases h
    rw [hdollar]
    decide
  · cases h
    rw [hdot]
    decide
  · cases h
    rw [hquery]
    decide

/-- Three characters with a code come back from their word. -/
theorem decode3_encodeField {field : Nat → Char} (hs : ∀ i, (rt11Rad50Val (field i)).isSome) (i : Nat) :
    rt11Rad50Decode3 (rt11EncodeField field i) = [field i, field (i + 1), field (i + 2)] := by
  obtain ⟨v0, h0⟩ := Option.isSome_iff_exists.1 (hs i)
  obtain ⟨v1, h1⟩ := Option.isSome_iff_exists.1 (hs (i + 1))
  obtain ⟨v2, h2⟩ := Option.isSome_iff_exists.1 (hs (i + 2))
  obtain ⟨hlt0, hc0⟩ := rt11Rad50Val_spec h0
  obtain ⟨hlt1, hc1⟩ := rt11Rad50Val_spec h1
  obtain ⟨hlt2, hc2⟩ := rt11Rad50Val_spec h2
  have hword : (rt11EncodeField field i).toNat = v0 * 1600 + v1 * 40 + v2 := by
    unfold rt11EncodeField rt11Rad50Encode3
    rw [h0, h1, h2, Option.getD_some, Option.getD_some, Option.getD_some, BitVec.toNat_ofNat]
    omega
  have hfirst : (v0 * 1600 + v1 * 40 + v2) / 1600 = v0 := by omega
  have hsecond : (v0 * 1600 + v1 * 40 + v2) % 1600 / 40 = v1 := by omega
  have hthird : (v0 * 1600 + v1 * 40 + v2) % 1600 % 40 = v2 := by omega
  unfold rt11Rad50Decode3
  rw [hword, hfirst, hsecond, hthird, hc0, hc1, hc2]

/-! ## Letter case -/

section Recased

/-- A change of letter case. -/
structure Recases (f : Char → Char) : Prop where
  upper : ∀ ch, Char.toUpper (f ch) = Char.toUpper ch
  dot : ∀ ch, f ch ≠ '.' ↔ ch ≠ '.'

theorem toUpper_dot (ch : Char) : Char.toUpper ch ≠ '.' ↔ ch ≠ '.' := by
  by_cases hlower : ch.isLower
  · have hupper : ch.toUpper.isUpper = true := by simp [Char.isAlpha, hlower]
    constructor
    · rintro - rfl
      exact absurd hlower (by decide)
    · intro _ hdot
      rw [hdot] at hupper
      exact absurd hupper (by decide)
  · rw [Char.toUpper_eq_of_not_isLower hlower]

theorem toLower_dot (ch : Char) : Char.toLower ch ≠ '.' ↔ ch ≠ '.' := by
  by_cases hupper : ch.isUpper
  · have hlower : ch.toLower.isLower = true := by simp [Char.isAlpha, hupper]
    constructor
    · rintro - rfl
      exact absurd hupper (by decide)
    · intro _ hdot
      rw [hdot] at hlower
      exact absurd hlower (by decide)
  · rw [Char.toLower_eq_of_not_isUpper hupper]

theorem toUpper_recases : Recases Char.toUpper := ⟨Char.toUpper_toUpper_eq_toUpper, toUpper_dot⟩

theorem toLower_recases : Recases Char.toLower := ⟨Char.toUpper_toLower_eq_toUpper, toLower_dot⟩

variable {f : Char → Char} (hf : Recases f) (host : List Char)
include hf

theorem hostName_recased : hostName (host.map f) = (hostName host).map f := by
  unfold hostName
  rw [List.takeWhile_map]
  congr 2
  funext ch
  exact decide_eq_decide.2 (hf.dot ch)

theorem hostType_recased : hostType (host.map f) = (hostType host).map f := by
  unfold hostType
  rw [List.dropWhile_map, List.map_tail]
  congr 3
  funext ch
  exact decide_eq_decide.2 (hf.dot ch)

theorem rt11NameFromHost_recased : rt11NameFromHost (host.map f) = rt11NameFromHost host := by
  have hupper (s : List Char) : (s.map f).map Char.toUpper = s.map Char.toUpper := by
    rw [List.map_map]
    exact List.map_congr_left fun ch _ => hf.upper ch
  have hchars (s : List Char) : (s.map f).all rt11NameChar = s.all rt11NameChar := by
    rw [List.all_map]
    congr 1
    funext ch
    unfold rt11NameChar
    rw [Function.comp_apply, hf.upper]
  unfold rt11NameFromHost
  rw [hostName_recased hf, hostType_recased hf]
  simp only [List.length_map, hchars, hupper]

end Recased

/-! ## The dot of an empty type -/

/-- The string without a dot that nothing follows and no other dot precedes. -/
def dropEmptyType (host : List Char) : List Char :=
  if host.dropWhile (· ≠ '.') = ['.'] then hostName host else host

theorem hostName_no_dot (host : List Char) : '.' ∉ hostName host := by
  intro hmem
  have hne := List.mem_takeWhile_imp hmem
  simp at hne

/-- A string is its name, and its type behind a dot. -/
theorem host_split (host : List Char) :
    host.dropWhile (· ≠ '.') = [] ∨
      host.dropWhile (· ≠ '.') = '.' :: hostType host := by
  cases hrest : host.dropWhile (· ≠ '.') with
  | nil => exact .inl rfl
  | cons ch rest =>
    right
    have hdot := List.head?_dropWhile_not (· ≠ '.') host
    rw [hrest] at hdot
    have hch : ch = '.' := by simpa using hdot
    unfold hostType
    rw [hrest, hch]
    rfl

theorem dropEmptyType_eq (host : List Char) :
    dropEmptyType host =
      if hostType host = [] then hostName host else hostName host ++ '.' :: hostType host := by
  have hall : hostName host ++ host.dropWhile (· ≠ '.') = host := List.takeWhile_append_dropWhile
  unfold dropEmptyType
  rcases host_split host with hnone | hdot
  · have htype : hostType host = [] := by
      unfold hostType
      rw [hnone]
      rfl
    rw [hnone, List.append_nil] at hall
    rw [hnone, if_neg (by nofun), if_pos htype, hall]
  · rw [hdot] at hall ⊢
    by_cases htype : hostType host = []
    · rw [htype, if_pos rfl, if_pos rfl]
    · rw [if_neg (by simpa using htype), if_neg htype, hall]

theorem hostParts_joined {name ext : List Char} (hname : '.' ∉ name) :
    hostName (name ++ '.' :: ext) = name ∧ hostType (name ++ '.' :: ext) = ext := by
  have hall : ∀ ch ∈ name, decide (ch ≠ '.') = true := fun ch hch =>
    decide_eq_true fun heq => hname (heq ▸ hch)
  unfold hostName hostType
  constructor
  · rw [List.takeWhile_append_of_pos hall]
    simp
  · rw [List.dropWhile_append_of_pos hall]
    simp

theorem hostParts_plain {name : List Char} (hname : '.' ∉ name) :
    hostName name = name ∧ hostType name = [] := by
  have hall : ∀ ch ∈ name, decide (ch ≠ '.') = true := fun ch hch =>
    decide_eq_true fun heq => hname (heq ▸ hch)
  have hname' := @List.takeWhile_append_of_pos _ _ name [] hall
  have htype := @List.dropWhile_append_of_pos _ _ name [] hall
  rw [List.append_nil] at hname' htype
  unfold hostName hostType
  rw [htype, hname']
  exact ⟨List.append_nil name, rfl⟩

/-- The dot of an empty type makes no difference. -/
theorem rt11NameFromHost_dropEmptyType (host : List Char) :
    rt11NameFromHost (dropEmptyType host) = rt11NameFromHost host := by
  have hparts : hostName (dropEmptyType host) = hostName host ∧ hostType (dropEmptyType host) = hostType host := by
    rw [dropEmptyType_eq]
    by_cases htype : hostType host = []
    · rw [if_pos htype, htype]
      exact hostParts_plain (hostName_no_dot host)
    · rw [if_neg htype]
      exact hostParts_joined (hostName_no_dot host)
  unfold rt11NameFromHost
  rw [hparts.1, hparts.2]

/-! ## There and back -/

/-- What `rt11_name_from_host` accepts, and what it answers. -/
theorem rt11NameFromHost_some {host : List Char} {name : Rt11Name} (h : rt11NameFromHost host = some name) :
    (hostName host).length ≠ 0 ∧ (hostName host).length ≤ 6 ∧ (hostType host).length ≤ 3 ∧
      (∀ ch ∈ hostName host, rt11NameChar ch = true) ∧ (∀ ch ∈ hostType host, rt11NameChar ch = true) ∧
      name = ⟨rt11EncodeField (paddedAt ' ' ((hostName host).map Char.toUpper)) 0,
        rt11EncodeField (paddedAt ' ' ((hostName host).map Char.toUpper)) 3,
        rt11EncodeField (paddedAt ' ' ((hostType host).map Char.toUpper)) 0⟩ := by
  unfold rt11NameFromHost at h
  dsimp only at h
  split_ifs at h with hlen hchars
  obtain ⟨hname, hext⟩ := Bool.and_eq_true_iff.1 hchars
  exact ⟨by omega, by omega, by omega, List.all_eq_true.1 hname, List.all_eq_true.1 hext,
    (Option.some.inj h).symm⟩

/-- The codes of a field of characters that may stand in a name. -/
theorem field_codes {s : List Char} (hs : ∀ ch ∈ s, rt11NameChar ch = true) (i : Nat) :
    (rt11Rad50Val (paddedAt ' ' (s.map Char.toUpper) i)).isSome := by
  have hall : ∀ ch ∈ s.map Char.toUpper, (rt11Rad50Val ch).isSome = true := by
    intro ch hch
    obtain ⟨c, hc, rfl⟩ := List.mem_map.1 hch
    exact (Bool.and_eq_true_iff.1 (hs c hc)).1
  exact paddedAt_forall hall rfl i

theorem field_no_blank {s : List Char} (hs : ∀ ch ∈ s, rt11NameChar ch = true) :
    ' ' ∉ s.map Char.toUpper := by
  intro hmem
  obtain ⟨c, hc, hblank⟩ := List.mem_map.1 hmem
  have hne := (Bool.and_eq_true_iff.1 (hs c hc)).2
  rw [hblank] at hne
  exact absurd hne (by decide)

/-- Back on the host an accepted string is in upper case, without the dot of an empty type. -/
theorem rt11NameToHost_fromHost {host : List Char} {name : Rt11Name} (h : rt11NameFromHost host = some name)
    {outSize : Nat} (hsize : 11 ≤ outSize) (lower : Bool) :
    rt11NameToHost name outSize lower =
      (dropEmptyType (host.map Char.toUpper)).map fun ch => if lower then Char.toLower ch else ch := by
  obtain ⟨-, hname, hext, hnameChars, hextChars, rfl⟩ := rt11NameFromHost_some h
  have hchars : rt11TrimSpaces
      (rt11Rad50Decode3 (rt11EncodeField (paddedAt ' ' ((hostName host).map Char.toUpper)) 0) ++
        rt11Rad50Decode3 (rt11EncodeField (paddedAt ' ' ((hostName host).map Char.toUpper)) 3)) =
      (hostName host).map Char.toUpper := by
    rw [decode3_encodeField (field_codes hnameChars), decode3_encodeField (field_codes hnameChars)]
    exact trimBlanks_field (n := 6) (by rwa [List.length_map]) (field_no_blank hnameChars)
  have htype : rt11TrimSpaces
      (rt11Rad50Decode3 (rt11EncodeField (paddedAt ' ' ((hostType host).map Char.toUpper)) 0)) =
      (hostType host).map Char.toUpper := by
    rw [decode3_encodeField (field_codes hextChars)]
    exact trimBlanks_field (n := 3) (by rwa [List.length_map]) (field_no_blank hextChars)
  have hdot : ∀ f : Char → Char, Recases f → f '.' = '.' := fun f hf =>
    Decidable.not_not.1 fun hne => (hf.dot _).1 hne rfl
  unfold rt11NameToHost
  simp only [hchars, htype, dropEmptyType_eq, hostName_recased toUpper_recases,
    hostType_recased toUpper_recases]
  cases lower with
  | true =>
    simp only [if_true, List.map_eq_nil_iff]
    by_cases hnil : hostType host = []
    · rw [if_pos hnil, if_pos hnil, List.take_of_length_le (by simp; omega)]
    · rw [if_neg hnil, if_neg hnil, List.take_of_length_le (by simp; omega), List.map_append, List.map_cons,
        hdot Char.toLower toLower_recases]
  | false =>
    simp only [Bool.false_eq_true, if_false, List.map_id', List.map_eq_nil_iff]
    by_cases hnil : hostType host = []
    · rw [if_pos hnil, List.take_of_length_le (by simp; omega)]
    · rw [if_neg hnil, List.take_of_length_le (by simp; omega)]

/-- Every accepted string comes back as a string with the same name, and two accepted strings have the same name
    exactly when they differ in letter case and in the dot of an empty type alone. -/
theorem rt11_names_round_trip :
    (∀ host name, rt11NameFromHost host = some name → ∀ outSize, 11 ≤ outSize → ∀ lower,
      rt11NameFromHost (rt11NameToHost name outSize lower) = some name) ∧
    (∀ host host' name name', rt11NameFromHost host = some name → rt11NameFromHost host' = some name' →
      (name = name' ↔ dropEmptyType (host.map Char.toUpper) = dropEmptyType (host'.map Char.toUpper))) := by
  constructor
  · intro host name h outSize hsize lower
    rw [rt11NameToHost_fromHost h hsize lower]
    have hcanonical : rt11NameFromHost (dropEmptyType (host.map Char.toUpper)) = some name := by
      rw [rt11NameFromHost_dropEmptyType, rt11NameFromHost_recased toUpper_recases, h]
    cases lower with
    | true => exact (rt11NameFromHost_recased toLower_recases _).trans hcanonical
    | false => exact (congrArg rt11NameFromHost (List.map_id _)).trans hcanonical
  · intro host host' name name' h h'
    constructor
    · intro hname
      subst hname
      have hback := rt11NameToHost_fromHost h (Nat.le_refl 11) false
      have hback' := rt11NameToHost_fromHost h' (Nat.le_refl 11) false
      simp only [Bool.false_eq_true, if_false, List.map_id'] at hback hback'
      exact hback.symm.trans hback'
    · intro hsame
      have hread := congrArg rt11NameFromHost hsame
      rw [rt11NameFromHost_dropEmptyType, rt11NameFromHost_dropEmptyType,
        rt11NameFromHost_recased toUpper_recases, rt11NameFromHost_recased toUpper_recases, h, h'] at hread
      exact Option.some.inj hread

/-- `Swap.Sys` and `SWAP.SYS`, `A.` and `a`. -/
theorem rt11_names_round_trip_examples :
    rt11NameFromHost (rt11NameToHost ⟨31321, 25600, 31419⟩ 16 true) = some ⟨31321, 25600, 31419⟩ ∧
    ((⟨1600, 0, 0⟩ : Rt11Name) = ⟨1600, 0, 0⟩ ↔
      dropEmptyType ("A.".toList.map Char.toUpper) =
        dropEmptyType ("a".toList.map Char.toUpper)) :=
  ⟨rt11_names_round_trip.1 ("Swap.Sys".toList) _ (by decide) 16 (by decide) true,
    rt11_names_round_trip.2 ("A.".toList) ("a".toList) _ _ (by decide) (by decide)⟩

/-- The string without its last character if that is a dot. -/
def dropLastDot (host : List Char) : List Char := if host.getLast? = some '.' then host.dropLast else host

/-- A dot behind a type that is not empty belongs to the type. -/
theorem trailing_dot_counts : ¬ ∀ host host' name name', rt11NameFromHost host = some name →
    rt11NameFromHost host' = some name' →
    (name = name' ↔ dropLastDot (host.map Char.toUpper) = dropLastDot (host'.map Char.toUpper)) := by
  intro h
  have hsame := (h ("A.B".toList) ("A.B.".toList) ⟨1600, 0, 3200⟩ ⟨1600, 0, 4320⟩
    (by decide) (by decide)).2 (by decide)
  exact absurd hsame (by decide)

end K1801.Tools
