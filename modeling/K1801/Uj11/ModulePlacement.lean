import K1801.Uj11.ModuleRoundTrip

/-! # Placing a module

Relocation goes over the named words one after the other. Each of them is named once, so it is moved once, and
nothing else changes.
-/

namespace K1801.Uj11.ModuleImage

open Library

/-- What is added to the word at a place. -/
def shift (delta offset : Int) : Int := if offset / 0o100000 % 2 ≠ 0 then -delta else delta

/-- The words at the named places are moved and all the others kept. -/
structure Placed (delta : Int) (pairs : List (Int × Int)) (image result : List Byte) : Prop where
  length : result.length = image.length
  moved : ∀ pair ∈ pairs, (wordsOf result).getD (pair.1 % 0o100000).toNat 0 =
    ((wordsOf image).getD (pair.1 % 0o100000).toNat 0 + shift delta pair.1) % 65536
  kept : ∀ i : Nat, (∀ pair ∈ pairs, pair.1 % 0o100000 ≠ i) → (wordsOf result)[i]? = (wordsOf image)[i]?

theorem fromBytes_slice {image : List Byte} {i : Nat} (h : 2 * i + 2 ≤ image.length) :
    fromBytes (slice image (2 * i) (2 * i + 2)) = (wordsOf image).getD i 0 := by
  have hlow : 2 * i < image.length := by omega
  have hhigh : 2 * i + 1 < image.length := by omega
  have hword := wordsOf_getElem? image i (List.getElem?_eq_getElem hlow) (List.getElem?_eq_getElem hhigh)
  have hslice : slice image (2 * i) (2 * i + 2) = [image[2 * i], image[2 * i + 1]] := by
    have hfirst : (2 * i : Int).toNat = 2 * i := by omega
    have hlast : (2 * i + 2 : Int).toNat = 2 * i + 2 := by omega
    unfold slice
    rw [hfirst, hlast, List.drop_take, List.drop_eq_getElem_cons hlow, List.drop_eq_getElem_cons hhigh]
    have htwo : 2 * i + 2 - 2 * i = 2 := by omega
    rw [htwo]
    rfl
  rw [hslice, List.getD_eq_getElem?_getD, hword, Option.getD_some]
  show (_ + 256 * (_ + 256 * 0) : Int) = _
  omega

theorem packInto_words {data result : List Byte} {i : Nat} {value : Int} (hroom : 2 * i + 2 ≤ data.length)
    (h : packInto data (2 * i) value = .ok result) :
    result.length = data.length ∧ wordsOf result = (wordsOf data).set i value := by
  unfold packInto at h
  split at h
  · rename_i hfits
    cases h
    have hoffset : (2 * i : Int).toNat = 2 * i := by omega
    refine ⟨by rw [List.length_set, List.length_set], ?_⟩
    rw [hoffset, wordsOf_set data i _ _ hroom, wordBytes_toNat hfits.1]
  · cases h

theorem packInto_ok {data : List Byte} {offset value : Int} (hvalue : FitsWord value) (hroom : offset + 2 ≤ data.length) :
    ∃ result, packInto data offset value = .ok result := ⟨_, if_pos ⟨hvalue, hroom⟩⟩

/-- The places of a valid list come after `previous`. -/
theorem PlacesFrom.later {image : List Byte} {previous : Int} {pairs : List (Int × Int)}
    (h : PlacesFrom image previous pairs) : ∀ pair ∈ pairs, previous < pair.1 % 0o100000 := by
  induction pairs generalizing previous with
  | nil => simp
  | cons pair rest ih =>
    obtain ⟨-, ⟨hlater, -⟩, -, hrest⟩ := h
    intro pair' hpair
    rcases List.mem_cons.1 hpair with rfl | hpair
    · exact hlater
    · exact Int.lt_trans hlater (ih hrest pair' hpair)

/-- The words behind `previous` of what has been relocated so far are those of the image. -/
theorem relocateFrom_placed {image data : List Byte} {previous delta : Int} {pairs : List (Int × Int)}
    (hplaces : PlacesFrom image previous pairs) (hlength : data.length = image.length)
    (hahead : ∀ i : Nat, previous < i → (wordsOf data)[i]? = (wordsOf image)[i]?) :
    ∃ result, relocateFrom delta pairs data = .ok result ∧ result.length = image.length ∧
      (∀ pair ∈ pairs, (wordsOf result).getD (pair.1 % 0o100000).toNat 0 =
        ((wordsOf image).getD (pair.1 % 0o100000).toNat 0 + shift delta pair.1) % 65536) ∧
      ∀ i : Nat, (∀ pair ∈ pairs, pair.1 % 0o100000 ≠ i) → (wordsOf result)[i]? = (wordsOf data)[i]? := by
  induction pairs generalizing previous data with
  | nil => exact ⟨data, rfl, hlength, by simp, fun _ _ => rfl⟩
  | cons pair rest ih =>
    obtain ⟨offset, original⟩ := pair
    obtain ⟨-, ⟨hlater, hinside⟩, horiginal, hrest⟩ := hplaces
    obtain ⟨i, hi⟩ : ∃ i : Nat, offset % 0o100000 = i := ⟨(offset % 0o100000).toNat, by omega⟩
    rw [hi] at hlater hinside horiginal hrest
    have hroom : 2 * i + 2 ≤ data.length := by omega
    have hfits : FitsWord ((original + shift delta offset) % 65536) := ⟨by omega, by omega⟩
    obtain ⟨next, hnext⟩ := @packInto_ok data (2 * i) _ hfits (by omega)
    obtain ⟨hnextLength, hnextWords⟩ := packInto_words hroom hnext
    have hbehind : ∀ j : Nat, (i : Int) < j → (wordsOf next)[j]? = (wordsOf image)[j]? := by
      intro j hj
      rw [hnextWords, List.getElem?_set_ne (by omega)]
      exact hahead j (by omega)
    obtain ⟨result, hrun, hresult, hmoved, hkept⟩ := ih hrest (hnextLength.trans hlength) hbehind
    have hword : (wordsOf image).getD i 0 = original := by
      rw [← fromBytes_slice (by omega)]
      exact horiginal
    refine ⟨result, ?_, hresult, ?_, ?_⟩
    · unfold relocateFrom
      show (packInto data (2 * (offset % 0o100000)) ((original + shift delta offset) % 65536) >>= _) = _
      rw [hi, hnext]
      exact hrun
    · intro pair hpair
      rcases List.mem_cons.1 hpair with rfl | hpair
      · have hi' : (offset % 0o100000).toNat = i := by omega
        have hlast : ∀ pair ∈ rest, pair.1 % 0o100000 ≠ i := fun pair hpair heq => by
          have hlt := hrest.later pair hpair
          omega
        have hset : (wordsOf next)[i]? = some ((original + shift delta offset) % 65536) := by
          rw [hnextWords, List.getElem?_set_self (by rw [wordsOf_length]; omega)]
        rw [hi', hword, List.getD_eq_getElem?_getD, hkept i hlast, hset]
        rfl
      · exact hmoved pair hpair
    · intro j hj
      have hne : i ≠ j := fun heq => hj (offset, original) (by simp) (by rw [← heq]; exact hi)
      rw [hkept j fun pair hpair => hj pair (List.mem_cons_of_mem _ hpair), hnextWords, List.getElem?_set_ne hne]

/-- Relocating a valid list of places succeeds. -/
theorem relocate_placed {image : List Byte} {pairs : List (Int × Int)} (hplaces : PlacesFrom image (-1) pairs)
    (base : Int) : ∃ result, relocate image pairs base = .ok result ∧ Placed (base - linkBase) pairs image result := by
  obtain ⟨result, hrun, hlength, hmoved, hkept⟩ :=
    @relocateFrom_placed image image (-1) (base - linkBase) pairs hplaces rfl fun _ _ => rfl
  have hchecked : validateRelocations image pairs = .ok () := validateFrom_ok.2 hplaces
  refine ⟨result, ?_, hlength, hmoved, hkept⟩
  unfold relocate
  rw [hchecked]
  exact hrun

/-- A module can be placed at a base in the pools, an absolute one at its own base. -/
def Module.Admits (p : Module) (target : Int) : Prop :=
  InPools target ((p.memoryBytes.map (· / 2)).getD (p.image.length / 2)) ∧ (p.relocations = none → target = p.base)

namespace Module

variable {p : Module}

/-- Only a module with relocations is of version 4. -/
theorem record_version (h : p.Valid) : p.record.version = some relocationVersion ↔ p.relocations ≠ none := by
  have hmovable := h.movable
  obtain ⟨base, image, memoryBytes, relocations⟩ := p
  cases relocations with
  | none =>
    cases memoryBytes with
    | none => exact ⟨nofun, fun h => absurd rfl h⟩
    | some m =>
      have hne : allocationVersion ≠ relocationVersion := by decide
      exact ⟨fun h => absurd (Option.some.inj h) hne, fun h => absurd rfl h⟩
  | some pairs =>
    cases memoryBytes with
    | none => exact absurd rfl (hmovable pairs rfl).1
    | some m => exact ⟨fun _ => nofun, fun _ => rfl⟩

theorem placedImage_file (h : p.Valid) {base : Option Int} (hbase : p.Admits (base.getD p.base)) :
    ∃ result, placedImage p.file base = .ok result ∧
      Placed (base.getD p.base - linkBase) (p.relocations.getD []) p.image result := by
  have heven := h.even
  have himage : slice p.file 512 (512 + p.record.bytes) = p.image := by
    have hfile := image_file h
    unfold imageOf at hfile
    rw [field_size h] at hfile
    exact hfile
  have hrun {result : List Byte} (hplace : (if p.record.version = some relocationVersion then
        relocate p.image (p.record.relocations.getD []) (base.getD p.base)
      else raiseIf (base.getD p.base ≠ p.base) "absolute module cannot move" >>= fun _ => pure p.image) = .ok result) :
      placedImage p.file base = .ok result := by
    unfold placedImage
    simp only [bind_ok, bounds_ok]
    refine ⟨p.record, decode_file h, _, ⟨hbase.1, rfl⟩, ?_⟩
    rw [himage]
    exact hplace
  cases hpairs : p.relocations with
  | none =>
    have hsame := hbase.2 hpairs
    have habsolute : p.record.version ≠ some relocationVersion := fun hversion =>
      (record_version h).1 hversion hpairs
    refine ⟨p.image, hrun ?_, ⟨rfl, by simp, fun _ _ => rfl⟩⟩
    rw [if_neg habsolute]
    simp only [bind_ok, raiseIf_ok, pure_ok]
    exact ⟨(), not_not_intro hsame, trivial⟩
  | some pairs =>
    obtain ⟨hmemory, hplaces⟩ := h.movable pairs hpairs
    obtain ⟨result, hrelocate, hplaced⟩ := relocate_placed hplaces (base.getD p.base)
    have hversion : p.record.version = some relocationVersion := (record_version h).2 (by rw [hpairs]; exact Option.some_ne_none _)
    refine ⟨result, hrun ?_, hplaced⟩
    have hrecord : p.record.relocations.getD [] = pairs := by
      show p.relocations.getD [] = _
      rw [hpairs]
      rfl
    rw [if_pos hversion, hrecord]
    exact hrelocate

end Module

/-- The module of the fields that `decode` answers with. -/
def decoded (data : List Byte) (r : Record) : Module := ⟨r.base, slice data 512 (512 + r.bytes), r.memoryBytes, r.relocations⟩

theorem decoded_file {p : Module} (h : p.Valid) : decoded p.file p.record = p := by
  have himage := Module.image_file h
  unfold imageOf at himage
  rw [Module.field_size h] at himage
  unfold decoded
  show Module.mk _ (slice p.file 512 (512 + 2 * (p.image.length / 2))) _ _ = _
  rw [himage]
  rfl

theorem decoded_image {p : Module} (h : p.Valid) : slice p.file 512 (512 + p.record.bytes) = p.image :=
  congrArg Module.image (decoded_file h)

/-- What is decoded is a valid module, and the file is its file. -/
theorem decode_module {data : List Byte} {r : Record} (h : decode data = .ok r) :
    (decoded data r).Valid ∧ data = (decoded data r).file ∧ r = (decoded data r).record := by
  obtain ⟨hreadable, hanswer⟩ := decode_ok.1 h
  have hvalid := hreadable.valid
  have hfile := hreadable.file_moduleOf
  have hrecord : r = (moduleOf data).record := by
    rw [hanswer, ← Module.answer_file hvalid, hfile]
  have hmodule : decoded data r = moduleOf data := by
    have hround := decoded_file hvalid
    rwa [hfile, ← hrecord] at hround
  rw [hmodule]
  exact ⟨hvalid, hfile.symm, hrecord⟩

/-- Decoding gives back the fields of what was packed, what is decoded is the packing of its fields, and a module
    placed at an admissible base has just its named words moved. -/
theorem module_file_exact :
    (∀ base image memoryBytes relocations data, pack base image memoryBytes relocations = .ok data →
      ∃ r, decode data = .ok r ∧ r.base = base ∧ r.words = image.length / 2 ∧ r.bytes = image.length ∧
        r.checksum = (wordsOf image).sum % 65536 ∧ r.memoryBytes = memoryBytes ∧ r.relocations = relocations ∧
        slice data 512 (512 + r.bytes) = image) ∧
    (∀ data r, decode data = .ok r →
      pack r.base (slice data 512 (512 + r.bytes)) r.memoryBytes r.relocations = .ok data) ∧
    ∀ data r base, decode data = .ok r → (decoded data r).Admits (base.getD r.base) →
      ∃ result, placedImage data base = .ok result ∧
        Placed (base.getD r.base - linkBase) (r.relocations.getD []) (slice data 512 (512 + r.bytes)) result := by
  refine ⟨?_, ?_, ?_⟩
  · intro base image memoryBytes relocations data hpack
    obtain ⟨hvalid, hdata⟩ := pack_ok.1 hpack
    have hround := decoded_image hvalid
    have heven := hvalid.even
    rw [hdata]
    refine ⟨_, Module.decode_file hvalid, rfl, rfl, ?_, rfl, rfl, rfl, hround⟩
    show 2 * ((image.length : Int) / 2) = image.length
    change image.length % 2 = 0 at heven
    omega
  · intro data r hdecode
    obtain ⟨hvalid, hdata, -⟩ := decode_module hdecode
    exact pack_ok.2 ⟨hvalid, hdata⟩
  · intro data r base hdecode hbase
    obtain ⟨hvalid, hdata, hrecord⟩ := decode_module hdecode
    have hplaced := @Module.placedImage_file _ hvalid base hbase
    rw [← hdata] at hplaced
    exact hplaced

/-- A module whose second word is an address and whose third word is relative to one. -/
def movable : Module := ⟨0o10000, bytesOf [0o12700, 0o1000, 0o160], some 128, some [(1, 0o1000), (0o100002, 0o160)]⟩

theorem movable_valid : movable.Valid where
  even := rfl
  pools := by
    unfold InPools
    decide
  allocation := by
    rintro m ⟨⟩
    unfold InPools
    decide
  movable := by
    rintro pairs ⟨⟩
    refine ⟨nofun, ?_⟩
    unfold PlacesFrom PlacesFrom PlacesFrom
    decide

theorem module_file_exact_movable :
    (∃ r, decode movable.file = .ok r ∧ r.relocations = some [(1, 0o1000), (0o100002, 0o160)]) ∧
      pack 0o10000 movable.image (some 128) movable.relocations = .ok movable.file ∧
      ∃ result, placedImage movable.file (some 0o20000) = .ok result ∧
        Placed 0o17000 [(1, 0o1000), (0o100002, 0o160)] movable.image result := by
  obtain ⟨hround, hback, hplaced⟩ := module_file_exact
  have hdecode := Module.decode_file movable_valid
  have hmodule := decoded_file movable_valid
  have himage := decoded_image movable_valid
  have hpack := hback _ _ hdecode
  rw [himage] at hpack
  have hbase : (decoded movable.file movable.record).Admits 0o20000 := by
    rw [hmodule]
    exact ⟨by unfold InPools; decide, nofun⟩
  obtain ⟨result, hplace, hmoved⟩ := hplaced _ _ (some 0o20000) hdecode hbase
  rw [himage] at hmoved
  obtain ⟨r, hr, -, -, -, -, -, hrelocations, -⟩ := hround _ _ _ _ _ hpack
  exact ⟨⟨r, hr, hrelocations⟩, hpack, result, hplace, hmoved⟩

end K1801.Uj11.ModuleImage
