import Xiu.Flv.Amf0.Reader
import Xiu.Flv.Amf0.Writer

/-! The round trip of AMF0 values: which values the reader gives back from what the writer wrote. -/

namespace Xiu.Flv.Amf0

open Bytesio ProofKit Amf0ValueType Amf0Reader Amf0Writer

/-- What the writer writes for a value is read as the value, whatever follows. -/
def RoundTrips (v : Amf0ValueType) : Prop :=
  ∀ before bytes, writeAny v ⟨before⟩ = .ok () ⟨before ++ bytes⟩ →
    ∀ tail, readAny ⟨bytes ++ tail⟩ = .ok v.asRead ⟨tail⟩

namespace Amf0ValueType

/-- The writer passes over the value. -/
def Dropped : Amf0ValueType → Prop
  | .longUtf8String _ => True
  | .END => True
  | _ => False

/-- The keys of a value are not too long for their length field. -/
def KeysFit (v : Amf0ValueType) : Prop := ∀ p ∈ v.properties, len p.1 ≤ 65535

mutual

/-- No map in a value holds a key twice. -/
def Indexed : Amf0ValueType → Prop
  | .object properties => (properties.map (·.1)).Nodup ∧ AllIndexed properties
  | .ecmaArray properties => (properties.map (·.1)).Nodup ∧ AllIndexed properties
  | _ => True

def AllIndexed : List (String × Amf0ValueType) → Prop
  | [] => True
  | (_, v) :: rest => Indexed v ∧ AllIndexed rest

end

mutual

/-- A value that can be read back. -/
def Readable : Amf0ValueType → Prop
  | .object properties => (properties.map (·.1)).Nodup ∧ AllReadable properties
  | .ecmaArray properties => (properties.map (·.1)).Nodup ∧ AllReadable properties
  | .utf8String value => len value ≤ 65535
  | .longUtf8String _ => False
  | .END => False
  | _ => True

def AllReadable : List (String × Amf0ValueType) → Prop
  | [] => True
  | (key, v) :: rest => len key ≤ 65535 ∧ Readable v ∧ AllReadable rest

end

end Amf0ValueType

/-- A value that can be read back starts with a marker that ends nothing. -/
theorem encode_head {v : Amf0ValueType} (h : v.Readable) :
    ∃ marker rest, v.encode = marker :: rest ∧ marker ≠ OBJECT_END := by
  cases v with
  | number bits => exact ⟨NUMBER, _, by rw [encode], by decide⟩
  | boolean value => exact ⟨BOOLEAN, _, by rw [encode], by decide⟩
  | null => exact ⟨NULL, _, by rw [encode], by decide⟩
  | utf8String value => exact ⟨STRING, _, by rw [encode], by decide⟩
  | object properties => exact ⟨OBJECT, _, by rw [encode], by decide⟩
  | ecmaArray properties => exact ⟨ECMA_ARRAY, _, by rw [encode], by decide⟩
  | longUtf8String value => exact absurd h (by simp [Readable])
  | END => exact absurd h (by simp [Readable])

/-- A property is not taken for an end. -/
theorem isReadObjectEof_property {key : String} (hKey : len key ≤ 65535) {v : Amf0ValueType}
    (h : v.Readable) (rest : List UInt8) :
    isReadObjectEof ⟨encodeKey key ++ (v.encode ++ rest)⟩ =
      .ok false ⟨encodeKey key ++ (v.encode ++ rest)⟩ := by
  obtain ⟨marker, after, hEncode, hMarker⟩ := encode_head h
  obtain ⟨a, b, hLen⟩ : ∃ a b, ByteOrder.bigEndian.encode 2 (UInt16.ofNat (len key)).toNat = [a, b] :=
    ⟨_, _, rfl⟩
  have hBytes := length_asBytes key
  rw [encodeKey, hLen, hEncode]
  cases hKeyBytes : asBytes key with
  | nil =>
    refine (isReadObjectEof_cons a b marker (after ++ rest)).trans (if_neg fun hEof => ?_)
    exact hMarker hEof.2.2
  | cons c more =>
    refine (isReadObjectEof_cons a b c (more ++ (marker :: after ++ rest))).trans
      (if_neg fun hEof => ?_)
    have hDecode := BytesReader.decodeU16_encode .bigEndian (UInt16.ofNat (len key))
    rw [hLen, hEof.1, hEof.2.1] at hDecode
    have hZero : UInt16.ofNat (len key) = 0 := hDecode.symm
    have hNat := congrArg UInt16.toNat hZero
    rw [UInt16.toNat_ofNat', Nat.mod_eq_of_lt (by omega)] at hNat
    rw [hKeyBytes, List.length_cons] at hBytes
    exact absurd (hBytes.trans hNat) (Nat.succ_ne_zero _)

theorem asReadAll_keys (ps : List (String × Amf0ValueType)) :
    (asReadAll ps).map (·.1) = ps.map (·.1) := by
  induction ps with
  | nil => simp [asReadAll]
  | cons p rest ih =>
    obtain ⟨key, v⟩ := p
    simp [asReadAll, ih]

mutual

/-- A value that can be read back is read back. -/
theorem readAnyIn_encode {v : Amf0ValueType} (h : v.Readable) {fuel : Nat} {tail : List UInt8}
    (hFuel : (v.encode ++ tail).length < fuel) :
    readAnyIn fuel ⟨v.encode ++ tail⟩ = .ok v.asRead ⟨tail⟩ := by
  obtain _ | fuel := fuel
  · omega
  cases v with
  | number bits =>
    simp only [encode, asRead, List.cons_append]
    exact (readAnyIn_cons ..).trans (readNumber_append bits)
  | boolean value =>
    simp only [encode, asRead, List.cons_append, List.nil_append]
    cases value
    · exact readAnyIn_cons ..
    · exact readAnyIn_cons ..
  | null =>
    simp only [encode, asRead, List.cons_append, List.nil_append]
    exact readAnyIn_cons ..
  | utf8String value =>
    rw [Readable] at h
    simp only [encode, asRead, encodeKey, List.cons_append, List.append_assoc]
    exact (readAnyIn_cons ..).trans (bind_of_ok (readRawString_append h tail))
  | object properties =>
    rw [Readable] at h
    simp only [encode, asRead, List.cons_append, List.append_assoc, List.nil_append,
      List.length_cons] at hFuel ⊢
    have hAll := @readPropertiesIn_encode _ h.2 [] (by simpa using h.1) _ _
      (Nat.lt_of_succ_lt_succ hFuel)
    exact (readAnyIn_cons ..).trans (bind_of_ok hAll)
  | ecmaArray properties =>
    rw [Readable] at h
    simp only [encode, asRead, List.cons_append, List.append_assoc, List.nil_append,
      List.length_cons] at hFuel ⊢
    have hFuel' : (encodeAll properties ++ 0 :: 0 :: OBJECT_END :: tail).length < fuel := by
      rw [List.length_append] at hFuel
      omega
    have hAll := @readPropertiesIn_encode _ h.2 [] (by simpa using h.1) _ _ hFuel'
    exact (readAnyIn_cons ..).trans ((bind_of_ok (readU32_append _)).trans (bind_of_ok hAll))
  | longUtf8String value => exact absurd h (by simp [Readable])
  | END => exact absurd h (by simp [Readable])

theorem readPropertiesIn_encode {ps : List (String × Amf0ValueType)} (h : AllReadable ps)
    {acc : List (String × Amf0ValueType)} (hNodup : (acc.map (·.1) ++ ps.map (·.1)).Nodup)
    {fuel : Nat} {tail : List UInt8}
    (hFuel : (encodeAll ps ++ 0 :: 0 :: OBJECT_END :: tail).length < fuel) :
    readPropertiesIn fuel acc ⟨encodeAll ps ++ 0 :: 0 :: OBJECT_END :: tail⟩ =
      .ok (acc ++ asReadAll ps) ⟨tail⟩ := by
  obtain _ | fuel := fuel
  · omega
  match ps with
  | [] =>
    rw [readPropertiesIn, encodeAll, List.nil_append, asReadAll, List.append_nil]
    exact bind_of_ok ((isReadObjectEof_cons 0 0 OBJECT_END tail).trans (if_pos ⟨rfl, rfl, rfl⟩))
  | (key, v) :: rest =>
    obtain ⟨hKey, hValue, hRest⟩ : len key ≤ 65535 ∧ v.Readable ∧ AllReadable rest := by
      rwa [AllReadable] at h
    rw [encodeAll, List.append_assoc, List.append_assoc, List.length_append] at hFuel
    have hKeyLen : 2 ≤ (encodeKey key).length := by simp [encodeKey]
    have hNew : key ∉ acc.map (·.1) := by
      rw [List.map_cons, List.nodup_append] at hNodup
      exact fun hMem => hNodup.2.2 key hMem key (List.mem_cons_self ..) rfl
    have hVal := @readAnyIn_encode _ hValue fuel (encodeAll rest ++ 0 :: 0 :: OBJECT_END :: tail)
      (by omega)
    have hMore := @readPropertiesIn_encode _ hRest (acc ++ [(key, v.asRead)])
      (by simpa using hNodup) fuel tail (by
        rw [List.length_append] at hFuel
        omega)
    rw [readPropertiesIn, encodeAll, List.append_assoc, List.append_assoc]
    refine (bind_of_ok (isReadObjectEof_property hKey hValue _)).trans ?_
    rw [if_neg Bool.false_ne_true]
    have hRaw : readRawString ⟨encodeKey key ++
        (v.encode ++ (encodeAll rest ++ 0 :: 0 :: OBJECT_END :: tail))⟩ = .ok key
          ⟨v.encode ++ (encodeAll rest ++ 0 :: 0 :: OBJECT_END :: tail)⟩ := by
      rw [encodeKey, List.append_assoc]
      exact readRawString_append hKey _
    refine (bind_of_ok hRaw).trans ((bind_of_ok hVal).trans ?_)
    rw [insert_new _ hNew, hMore, asReadAll, List.append_assoc]
    rfl

end

/-! ### The values inside a value -/

theorem self_mem_parts (v : Amf0ValueType) : v ∈ v.parts := by
  cases v <;> simp [parts]

mutual

theorem indexed_of_mem {v w : Amf0ValueType} (h : v.Indexed) (hMem : w ∈ v.parts) :
    w.Indexed ∧ ∀ u ∈ w.parts, u ∈ v.parts := by
  cases v with
  | object properties =>
    rw [parts] at hMem
    rcases List.mem_cons.mp hMem with rfl | hMem
    · exact ⟨h, fun _ hu => hu⟩
    · rw [Indexed] at h
      obtain ⟨hIndexed, hParts⟩ := indexed_of_memOf h.2 hMem
      exact ⟨hIndexed, fun u hu => by rw [parts]; exact List.mem_cons_of_mem _ (hParts u hu)⟩
  | ecmaArray properties =>
    rw [parts] at hMem
    rcases List.mem_cons.mp hMem with rfl | hMem
    · exact ⟨h, fun _ hu => hu⟩
    · rw [Indexed] at h
      obtain ⟨hIndexed, hParts⟩ := indexed_of_memOf h.2 hMem
      exact ⟨hIndexed, fun u hu => by rw [parts]; exact List.mem_cons_of_mem _ (hParts u hu)⟩
  | number bits =>
    obtain rfl : w = number bits := by simpa [parts] using hMem
    exact ⟨h, fun _ hu => hu⟩
  | boolean value =>
    obtain rfl : w = boolean value := by simpa [parts] using hMem
    exact ⟨h, fun _ hu => hu⟩
  | utf8String value =>
    obtain rfl : w = utf8String value := by simpa [parts] using hMem
    exact ⟨h, fun _ hu => hu⟩
  | null =>
    obtain rfl : w = null := by simpa [parts] using hMem
    exact ⟨h, fun _ hu => hu⟩
  | longUtf8String value =>
    obtain rfl : w = longUtf8String value := by simpa [parts] using hMem
    exact ⟨h, fun _ hu => hu⟩
  | END =>
    obtain rfl : w = END := by simpa [parts] using hMem
    exact ⟨h, fun _ hu => hu⟩

theorem indexed_of_memOf {ps : List (String × Amf0ValueType)} {w : Amf0ValueType}
    (h : AllIndexed ps) (hMem : w ∈ partsOf ps) :
    w.Indexed ∧ ∀ u ∈ w.parts, u ∈ partsOf ps := by
  match ps with
  | [] => exact absurd hMem (by simp [partsOf])
  | (key, v) :: rest =>
    rw [AllIndexed] at h
    rw [partsOf, List.mem_append] at hMem
    rcases hMem with hMem | hMem
    · obtain ⟨hIndexed, hParts⟩ := indexed_of_mem h.1 hMem
      exact ⟨hIndexed, fun u hu => by
        rw [partsOf]; exact List.mem_append_left _ (hParts u hu)⟩
    · obtain ⟨hIndexed, hParts⟩ := indexed_of_memOf h.2 hMem
      exact ⟨hIndexed, fun u hu => by
        rw [partsOf]; exact List.mem_append_right _ (hParts u hu)⟩

end

/-- What the writer does not lose: the value is not passed over, and its keys fit if it is written at
all. -/
def Kept (v : Amf0ValueType) : Prop := ¬v.Dropped ∧ (v.StringsFit → v.KeysFit)

mutual

/-- A value whose parts the writer does not lose can be read back if it is written. -/
theorem readable_of_kept {v : Amf0ValueType} (hIndexed : v.Indexed) (hFits : v.StringsFit)
    (hKept : ∀ w ∈ v.parts, Kept w) : v.Readable := by
  obtain ⟨hHere, hKeys⟩ := hKept v (self_mem_parts v)
  have hKeys := hKeys hFits
  cases v with
  | object properties =>
    rw [Indexed] at hIndexed
    rw [StringsFit] at hFits
    rw [parts] at hKept
    rw [Readable]
    exact ⟨hIndexed.1, allReadable_of_kept hIndexed.2 hFits hKeys
      fun w hw => hKept w (List.mem_cons_of_mem _ hw)⟩
  | ecmaArray properties =>
    rw [Indexed] at hIndexed
    rw [StringsFit] at hFits
    rw [parts] at hKept
    rw [Readable]
    exact ⟨hIndexed.1, allReadable_of_kept hIndexed.2 hFits hKeys
      fun w hw => hKept w (List.mem_cons_of_mem _ hw)⟩
  | utf8String value =>
    rw [StringsFit] at hFits
    rwa [Readable]
  | number bits => simp [Readable]
  | boolean value => simp [Readable]
  | null => simp [Readable]
  | longUtf8String value => exact absurd trivial hHere
  | END => exact absurd trivial hHere

theorem allReadable_of_kept {ps : List (String × Amf0ValueType)} (hIndexed : AllIndexed ps)
    (hFits : AllStringsFit ps) (hKeys : ∀ p ∈ ps, len p.1 ≤ 65535)
    (hKept : ∀ w ∈ partsOf ps, Kept w) : AllReadable ps := by
  match ps with
  | [] => simp [AllReadable]
  | (key, v) :: rest =>
    rw [AllIndexed] at hIndexed
    rw [AllStringsFit] at hFits
    rw [partsOf] at hKept
    obtain ⟨hKey, hMore⟩ := List.forall_mem_cons.mp hKeys
    rw [AllReadable]
    exact ⟨hKey,
      readable_of_kept hIndexed.1 hFits.1 fun w hw => hKept w (List.mem_append_left _ hw),
      allReadable_of_kept hIndexed.2 hFits.2 hMore
        fun w hw => hKept w (List.mem_append_right _ hw)⟩

end

theorem roundTrips_of_readable {v : Amf0ValueType} (h : v.Readable) : RoundTrips v := by
  intro before bytes hWrite tail
  obtain ⟨_, hBytes⟩ := writeAny_eq_ok hWrite
  obtain rfl := List.append_cancel_left hBytes
  exact readAnyIn_encode h (Nat.lt_succ_self _)

/-! ### The keys that are read -/

/-- A key that is read fits its length field. -/
theorem len_readRawString {s s' : BytesReader} {key : String} (h : readRawString s = .ok key s') :
    len key ≤ 65535 := by
  obtain ⟨l, s1, _, h⟩ := bind_eq_ok h
  obtain ⟨bytes, s2, hBytes, h⟩ := bind_eq_ok h
  have hl := l.toNat_lt
  have hLength : bytes.length = l.toNat := by
    unfold Amf0Reader.read at hBytes
    split at hBytes
    · rename_i hRead
      obtain ⟨rfl, rfl⟩ := EStateM.Result.ok.inj hBytes
      exact (BytesReader.readBytes_ok hRead).2
    · cases hBytes
  unfold parseString at h
  cases hVal : fromUtf8 bytes with
  | some val =>
    rw [hVal] at h
    obtain ⟨rfl, _⟩ := EStateM.Result.ok.inj h
    have hLen := len_fromUtf8 hVal
    omega
  | none =>
    rw [hVal] at h
    cases h

theorem forall_insert {α : Type} {P : String → Prop} {properties : List (String × α)} {key : String}
    (value : α) (h : ∀ p ∈ properties, P p.1) (hKey : P key) :
    ∀ p ∈ insert properties key value, P p.1 := by
  unfold insert
  split
  · intro p hp
    obtain ⟨q, hq, rfl⟩ := List.mem_map.mp hp
    split
    · exact hKey
    · exact h q hq
  · intro p hp
    rcases List.mem_append.mp hp with hp | hp
    · exact h p hp
    · obtain rfl := List.mem_singleton.mp hp
      exact hKey

theorem keysFit_readPropertiesIn (fuel : Nat) {acc ps : List (String × Amf0ValueType)}
    {s s' : BytesReader} (hAcc : ∀ p ∈ acc, len p.1 ≤ 65535)
    (h : readPropertiesIn fuel acc s = .ok ps s') : ∀ p ∈ ps, len p.1 ≤ 65535 := by
  induction fuel generalizing acc s with
  | zero =>
    rw [readPropertiesIn] at h
    obtain ⟨rfl, _⟩ := EStateM.Result.ok.inj h
    exact hAcc
  | succ fuel ih =>
    rw [readPropertiesIn] at h
    obtain ⟨isEof, s1, _, h⟩ := bind_eq_ok h
    split at h
    · obtain ⟨rfl, _⟩ := EStateM.Result.ok.inj h
      exact hAcc
    · obtain ⟨key, s2, hKey, h⟩ := bind_eq_ok h
      obtain ⟨val, s3, _, h⟩ := bind_eq_ok h
      exact ih (forall_insert (P := fun key => len key ≤ 65535) val hAcc (len_readRawString hKey)) h

/-- Behind the marker of an object or an array, keys are read that fit. -/
theorem keysFit_readMarked {fuel : Nat} {marker : UInt8} (hMarker : marker = OBJECT ∨ marker = ECMA_ARRAY)
    {s s' : BytesReader} {v : Amf0ValueType}
    (h : readMarked (readPropertiesIn fuel []) marker s = .ok v s') : KeysFit v := by
  have hNone : ∀ p ∈ ([] : List (String × Amf0ValueType)), len p.1 ≤ 65535 := nofun
  rcases hMarker with rfl | rfl
  · obtain ⟨ps, s1, hAll, h⟩ := bind_eq_ok (x := readPropertiesIn fuel []) h
    obtain ⟨rfl, _⟩ := EStateM.Result.ok.inj h
    exact keysFit_readPropertiesIn fuel hNone hAll
  · obtain ⟨_, s1, _, h⟩ := bind_eq_ok (x := Amf0Reader.read (·.readU32 .bigEndian)) h
    obtain ⟨ps, s2, hAll, h⟩ := bind_eq_ok (x := readPropertiesIn fuel []) h
    obtain ⟨rfl, _⟩ := EStateM.Result.ok.inj h
    exact keysFit_readPropertiesIn fuel hNone hAll

theorem kept_of_roundTrips {v : Amf0ValueType} (h : RoundTrips v) : Kept v := by
  refine ⟨fun hDropped => ?_, fun hFits => ?_⟩
  · cases v with
    | longUtf8String value =>
      have hRead := h [] [] (by simp [writeAny]) []
      exact absurd hRead (by simp [readAny, readAnyIn, BytesReader.isEmpty, BytesReader.len, asRead])
    | END =>
      have hRead := h [] [] (by simp [writeAny]) [NULL]
      have hNull : readAny ⟨[NULL]⟩ = .ok .null ⟨[]⟩ := readAnyIn_cons 1 NULL []
      cases hNull.symm.trans hRead
    | number _ => exact hDropped
    | boolean _ => exact hDropped
    | utf8String _ => exact hDropped
    | object _ => exact hDropped
    | null => exact hDropped
    | ecmaArray _ => exact hDropped
  · have hRead := h [] _ (writeAny_ok hFits []) []
    rw [readAny_fuel (Nat.lt_succ_self _)] at hRead
    cases v with
    | object properties =>
      rw [encode, List.append_nil] at hRead
      have hKeys := keysFit_readMarked (.inl rfl) ((readAnyIn_cons ..).symm.trans hRead)
      rw [asRead] at hKeys
      intro p hp
      have hMem : p.1 ∈ (asReadAll properties).map (·.1) := by
        rw [asReadAll_keys]
        exact List.mem_map_of_mem hp
      obtain ⟨q, hq, hEq⟩ := List.mem_map.mp hMem
      exact hEq ▸ hKeys q hq
    | ecmaArray properties =>
      rw [encode, List.append_nil] at hRead
      have hKeys := keysFit_readMarked (.inr rfl) ((readAnyIn_cons ..).symm.trans hRead)
      rw [asRead] at hKeys
      intro p hp
      have hMem : p.1 ∈ (asReadAll properties).map (·.1) := by
        rw [asReadAll_keys]
        exact List.mem_map_of_mem hp
      obtain ⟨q, hq, hEq⟩ := List.mem_map.mp hMem
      exact hEq ▸ hKeys q hq
    | number _ => rintro p ⟨⟩
    | boolean _ => rintro p ⟨⟩
    | utf8String _ => rintro p ⟨⟩
    | null => rintro p ⟨⟩
    | longUtf8String _ => rintro p ⟨⟩
    | END => rintro p ⟨⟩

/-- A value and all values inside it come back exactly when the writer passes over none of them, and
none that it writes has a key too long for its length field. -/
theorem roundTrips_iff (v : Amf0ValueType) (hIndexed : v.Indexed) :
    (∀ w ∈ v.parts, RoundTrips w) ↔ ∀ w ∈ v.parts, Kept w := by
  constructor
  · exact fun h w hw => kept_of_roundTrips (h w hw)
  · intro h w hw before bytes hWrite
    obtain ⟨hIndexedHere, hParts⟩ := indexed_of_mem hIndexed hw
    have hReadable := readable_of_kept hIndexedHere (writeAny_eq_ok hWrite).1
      fun u hu => h u (hParts u hu)
    exact roundTrips_of_readable hReadable before bytes hWrite

/-- An array with an object in it whose key is empty. -/
theorem roundTrips_iff_nested :
    Indexed (.ecmaArray [("a", .object [("", .number 0)]), ("b", .null)]) ∧
    ∀ w ∈ parts (.ecmaArray [("a", .object [("", .number 0)]), ("b", .null)]), RoundTrips w := by
  have hIndexed : Indexed (.ecmaArray [("a", .object [("", .number 0)]), ("b", .null)]) := by
    simp [Indexed, AllIndexed]
  refine ⟨hIndexed, (roundTrips_iff _ hIndexed).mpr ?_⟩
  have hLen : len "a" ≤ 65535 ∧ len "b" ≤ 65535 ∧ len "" ≤ 65535 := by decide
  simp only [parts, partsOf, Kept, Dropped, KeysFit, properties, List.forall_mem_cons,
    List.forall_mem_append]
  simp [hLen]

/-- Nothing is written for a long string, so the end is read in its place. -/
theorem longString_dropped :
    writeAny (.longUtf8String "a") ⟨[]⟩ = .ok () ⟨[]⟩ ∧ ¬RoundTrips (.longUtf8String "a") :=
  ⟨by simp [writeAny], fun h => (kept_of_roundTrips h).1 trivial⟩

end Xiu.Flv.Amf0
