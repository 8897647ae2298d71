import Xiu.Flv.Amf0.Define
import Xiu.ProofKit.Action

/-! The reader of AMF0 values, of `library/container/flv/src/amf0/amf0_reader.rs`. -/

namespace Xiu.Flv.Amf0

open Bytesio ProofKit

inductive Amf0ReadErrorValue where
  | unknownMarker (marker : UInt8)
  | stringParseError
  | bytesReadError (value : BytesReadErrorValue)
  | wrongType
  deriving DecidableEq

abbrev Amf0Read := EStateM Amf0ReadErrorValue BytesReader

namespace Amf0Reader

def read {α : Type} (f : BytesReader → Except BytesReadErrorValue (α × BytesReader)) : Amf0Read α :=
  fun reader =>
    match f reader with
    | .ok (a, reader') => .ok a reader'
    | .error e => .error (.bytesReadError e) reader

def readNumber : Amf0Read Amf0ValueType := do
  let number ← read (·.readF64 .bigEndian)
  pure (.number number)

def readBool : Amf0Read Amf0ValueType := do
  let value ← read (·.readU8)
  pure (.boolean (value == 1))

/-- The bytes of a string. -/
def parseString (bytes : List UInt8) : Amf0Read String :=
  match fromUtf8 bytes with
  | some val => pure val
  | none => throw .stringParseError

def readRawString : Amf0Read String := do
  let l ← read (·.readU16 .bigEndian)
  let bytes ← read (·.readBytes l.toNat)
  parseString bytes

def readString : Amf0Read Amf0ValueType := do
  let rawString ← readRawString
  pure (.utf8String rawString)

def readNull : Amf0Read Amf0ValueType := pure .null

def readLongString : Amf0Read Amf0ValueType := do
  let l ← read (·.readU32 .bigEndian)
  let buff ← read (·.readBytes l.toNat)
  let val ← parseString buff
  pure (.longUtf8String val)

def isReadObjectEof : Amf0Read Bool := do
  let marker ← read fun reader => (reader.advanceU24 .bigEndian).map (·, reader)
  if marker = OBJECT_END.toUInt32 then do
    let _ ← read (·.readU24 .bigEndian)
    pure true
  else pure false

/-- What follows a marker, where `readProperties` reads the entries of an object or an array. -/
def readMarked (readProperties : Amf0Read (List (String × Amf0ValueType))) (markers : UInt8) :
    Amf0Read Amf0ValueType :=
  if markers = OBJECT_END then pure .END
  else if markers = NUMBER then readNumber
  else if markers = BOOLEAN then readBool
  else if markers = STRING then readString
  else if markers = OBJECT then do
    let properties ← readProperties
    pure (.object properties)
  else if markers = NULL then readNull
  else if markers = ECMA_ARRAY then do
    -- a wrong length only gives a warning
    let _ ← read (·.readU32 .bigEndian)
    let properties ← readProperties
    pure (.object properties)
  else if markers = LONG_STRING then readLongString
  else throw (.unknownMarker markers)

mutual

/-- `read_any` with at most `fuel` calls and turns of the loops one inside the other: as many as there
are bytes are enough. -/
def readAnyIn : Nat → Amf0Read Amf0ValueType
  | 0 => pure .END
  | fuel + 1 => do
    if (← get).isEmpty then
      pure .END
    else do
      let markers ← read (·.readU8)
      readMarked (readPropertiesIn fuel []) markers

/-- The loops of `read_object` and `read_ecma_array`. -/
def readPropertiesIn : Nat → List (String × Amf0ValueType) →
    Amf0Read (List (String × Amf0ValueType))
  | 0, properties => pure properties
  | fuel + 1, properties => do
    if ← isReadObjectEof then
      pure properties
    else do
      let key ← readRawString
      let val ← readAnyIn fuel
      readPropertiesIn fuel (insert properties key val)

end

def readAny : Amf0Read Amf0ValueType := do readAnyIn ((← get).len + 1)

/-- `read_all` with at most `fuel` turns of its loop: one more than there are bytes is enough. -/
def readAllIn : Nat → Amf0Read (List Amf0ValueType)
  | 0 => pure []
  | fuel + 1 => do
    let result ← readAny
    match result with
    | .END => pure []
    | result => do
      let results ← readAllIn fuel
      pure (result :: results)

def readAll : Amf0Read (List Amf0ValueType) := do readAllIn ((← get).len + 1)

/-! ### The reads -/

section

variable {α : Type} {buffer rest : List UInt8} {n : Nat}

theorem read_append {decode : List UInt8 → α} {bytes : List UInt8} (h : bytes.length = n) :
    read (·.readBytesCursor n decode) ⟨bytes ++ rest⟩ = .ok (decode bytes) ⟨rest⟩ := by
  simp only [read, BytesReader.readBytesCursor, BytesReader.readBytes_append h]

theorem readU8_cons (b : UInt8) : read (·.readU8) ⟨b :: rest⟩ = .ok b ⟨rest⟩ :=
  @read_append _ _ _ _ [b] rfl

theorem readBytes_append {bytes : List UInt8} (h : bytes.length = n) :
    read (·.readBytes n) ⟨bytes ++ rest⟩ = .ok bytes ⟨rest⟩ := by
  simp only [read, BytesReader.readBytes_append h]

theorem readNumber_append (bits : UInt64) :
    readNumber ⟨ByteOrder.bigEndian.encode 8 bits.toNat ++ rest⟩ = .ok (.number bits) ⟨rest⟩ := by
  refine (bind_of_ok (read_append (ByteOrder.length_encode _ _ _))).trans ?_
  rw [BytesReader.decodeU64_encode]
  rfl

theorem readU32_append (m : UInt32) :
    read (·.readU32 .bigEndian) ⟨ByteOrder.bigEndian.encode 4 m.toNat ++ rest⟩ = .ok m ⟨rest⟩ := by
  refine (read_append (ByteOrder.length_encode _ _ _)).trans ?_
  rw [BytesReader.decodeU32_encode4]

theorem parseString_asBytes (s : String) (reader : BytesReader) :
    parseString (asBytes s) reader = .ok s reader := by
  rw [parseString, fromUtf8_asBytes]
  rfl

end

/-- What a key is written as is read as the key. -/
theorem readRawString_append {key : String} (h : len key ≤ 65535) (rest : List UInt8) :
    readRawString ⟨ByteOrder.bigEndian.encode 2 (UInt16.ofNat (len key)).toNat ++
      (asBytes key ++ rest)⟩ = .ok key ⟨rest⟩ := by
  have hLen : (asBytes key).length = (UInt16.ofNat (len key)).toNat := by
    rw [length_asBytes, UInt16.toNat_ofNat', Nat.mod_eq_of_lt (by omega)]
  refine (bind_of_ok (read_append (ByteOrder.length_encode _ _ _))).trans ?_
  rw [BytesReader.decodeU16_encode]
  exact (bind_of_ok (readBytes_append hLen)).trans (parseString_asBytes key _)

/-- The marker of an end is recognised, and nothing else is. -/
theorem isReadObjectEof_cons (a b c : UInt8) (rest : List UInt8) :
    isReadObjectEof ⟨a :: b :: c :: rest⟩ =
      if a = 0 ∧ b = 0 ∧ c = OBJECT_END then .ok true ⟨rest⟩
      else .ok false ⟨a :: b :: c :: rest⟩ := by
  have ha := a.toNat_lt
  have hb := b.toNat_lt
  have hc := c.toNat_lt
  have hMarker : BytesReader.decodeU32 .bigEndian [a, b, c] = OBJECT_END.toUInt32 ↔
      a = 0 ∧ b = 0 ∧ c = OBJECT_END := by
    have hNat : (BytesReader.decodeU32 .bigEndian [a, b, c]).toNat =
        c.toNat + 256 * (b.toNat + 256 * a.toNat) := by
      rw [BytesReader.decodeU32_toNat (by simp)]
      simp [ByteOrder.decode, ofBE, ofLE, Nat.ofDigits_cons]
    rw [← UInt32.toNat_inj, ← UInt8.toNat_inj, ← UInt8.toNat_inj, ← UInt8.toNat_inj, hNat]
    show _ = 9 ↔ _ = 0 ∧ _ = 0 ∧ _ = 9
    omega
  have hAdvance : read (fun reader => (reader.advanceU24 .bigEndian).map (·, reader))
      ⟨a :: b :: c :: rest⟩ =
        .ok (BytesReader.decodeU32 .bigEndian [a, b, c]) ⟨a :: b :: c :: rest⟩ := by
    have hLength : ¬rest.length + 1 + 1 + 1 < 3 := by omega
    simp [read, BytesReader.advanceU24, BytesReader.advanceBytes, Except.map, hLength]
  refine (bind_of_ok hAdvance).trans ?_
  simp only [hMarker]
  split
  · exact bind_of_ok (@read_append _ _ _ _ [a, b, c] rfl)
  · rfl

/-- A value is read by its marker. -/
theorem readAnyIn_cons (fuel : Nat) (marker : UInt8) (rest : List UInt8) :
    readAnyIn (fuel + 1) ⟨marker :: rest⟩ =
      readMarked (readPropertiesIn fuel []) marker ⟨rest⟩ := by
  rw [readAnyIn, bind_get]
  exact bind_of_ok (readU8_cons marker)

theorem readBytes_eq_ok {n : Nat} {s s' : BytesReader} {bytes : List UInt8}
    (h : read (·.readBytes n) s = .ok bytes s') :
    s.buffer = bytes ++ s'.buffer ∧ bytes.length = n := by
  unfold read at h
  split at h
  · rename_i hRead
    obtain ⟨rfl, rfl⟩ := EStateM.Result.ok.inj h
    exact BytesReader.readBytes_ok hRead
  · cases h

theorem readU16_eq_ok {s s' : BytesReader} {n : UInt16}
    (h : read (·.readU16 .bigEndian) s = .ok n s') :
    s.buffer = ByteOrder.bigEndian.encode 2 n.toNat ++ s'.buffer := by
  unfold read at h
  cases hRead : s.readBytes 2 with
  | error e =>
    simp only [BytesReader.readU16, BytesReader.readBytesCursor, hRead] at h
    cases h
  | ok r =>
    obtain ⟨bytes, reader⟩ := r
    simp only [BytesReader.readU16, BytesReader.readBytesCursor, hRead] at h
    obtain ⟨rfl, rfl⟩ := EStateM.Result.ok.inj h
    obtain ⟨hBuffer, hLength⟩ := BytesReader.readBytes_ok hRead
    have hLt := ofBE_lt bytes
    rw [hLength] at hLt
    have hDecode : (BytesReader.decodeU16 .bigEndian bytes).toNat = ofBE bytes :=
      UInt16.toNat_ofNat_of_lt' hLt
    have hEncode := toBE_ofBE bytes
    rw [hLength] at hEncode
    rw [hBuffer, hDecode, ByteOrder.encode, hEncode]

theorem parseString_eq_ok {bytes : List UInt8} {s s' : BytesReader} {val : String}
    (h : parseString bytes s = .ok val s') : fromUtf8 bytes = some val ∧ s = s' := by
  rw [parseString] at h
  cases hVal : fromUtf8 bytes with
  | some val' =>
    rw [hVal] at h
    cases h
    exact ⟨rfl, rfl⟩
  | none =>
    rw [hVal] at h
    cases h

/-- A string that is read stands behind its length. -/
theorem readRawString_eq_ok {s s' : BytesReader} {key : String}
    (h : readRawString s = .ok key s') :
    s.buffer = ByteOrder.bigEndian.encode 2 (len key) ++ (asBytes key ++ s'.buffer) := by
  obtain ⟨l, s1, hLen, h⟩ := bind_eq_ok h
  obtain ⟨bytes, s2, hBytes, hParse⟩ := bind_eq_ok h
  obtain ⟨hBuffer, hLength⟩ := readBytes_eq_ok hBytes
  have hFirst := readU16_eq_ok hLen
  obtain ⟨hVal, rfl⟩ := parseString_eq_ok hParse
  have hKey := asBytes_of_fromUtf8 hVal
  rw [hFirst, hBuffer, hKey, ← length_asBytes, hKey, hLength]

/-- Only what is marked as a string is read as one. -/
theorem readMarked_utf8String {readProperties : Amf0Read (List (String × Amf0ValueType))}
    {markers : UInt8} {s s' : BytesReader} {value : String}
    (h : readMarked readProperties markers s = .ok (.utf8String value) s') :
    markers = STRING ∧ readRawString s = .ok value s' := by
  unfold readMarked at h
  split at h
  · cases h
  split at h
  · obtain ⟨number, s1, -, hPure⟩ := bind_eq_ok h
    cases hPure
  split at h
  · obtain ⟨flag, s1, -, hPure⟩ := bind_eq_ok h
    cases hPure
  split at h
  · rename_i hString
    obtain ⟨rawString, s1, hRaw, hPure⟩ := bind_eq_ok h
    cases hPure
    exact ⟨hString, hRaw⟩
  split at h
  · obtain ⟨properties, s1, -, hPure⟩ := bind_eq_ok h
    cases hPure
  split at h
  · cases h
  split at h
  · obtain ⟨l, s1, -, hRest⟩ := bind_eq_ok h
    obtain ⟨properties, s2, -, hPure⟩ := bind_eq_ok hRest
    cases hPure
  split at h
  · obtain ⟨l, s1, -, hRest⟩ := bind_eq_ok h
    obtain ⟨buff, s2, -, hRest⟩ := bind_eq_ok hRest
    obtain ⟨val, s3, -, hPure⟩ := bind_eq_ok hRest
    cases hPure
  · cases h

/-! ### The fuel -/

/-- An action that takes at least `k` bytes when it succeeds. -/
def Takes {α : Type} (k : Nat) (x : Amf0Read α) : Prop :=
  ∀ s a s', x s = .ok a s' → s'.len + k ≤ s.len

section

variable {α β : Type} {k j : Nat} {x : Amf0Read α} {f : α → Amf0Read β}

theorem Takes.bind (hx : Takes k x) (hf : ∀ a, Takes j (f a)) : Takes (k + j) (x >>= f) := by
  intro s b s' h
  obtain ⟨a, s1, hFirst, hRest⟩ := bind_eq_ok h
  have hTaken := hx _ _ _ hFirst
  have hMore := hf a _ _ _ hRest
  omega

theorem Takes.mono (hx : Takes k x) (h : j ≤ k) : Takes j x := fun s a s' hRun => by
  have hTaken := hx s a s' hRun
  omega

theorem takes_pure (a : α) : Takes 0 (pure a : Amf0Read α) := by
  rintro s _ _ h
  obtain ⟨_, rfl⟩ := EStateM.Result.ok.inj h
  exact le_rfl

theorem takes_throw (e : Amf0ReadErrorValue) : Takes k (throw e : Amf0Read α) := fun _ _ _ h =>
  nomatch h

theorem takes_readBytes (n : Nat) : Takes n (read (·.readBytes n)) := by
  intro s bytes s' h
  unfold read at h
  split at h
  · rename_i hRead
    obtain ⟨rfl, rfl⟩ := EStateM.Result.ok.inj h
    obtain ⟨hBuffer, hLength⟩ := BytesReader.readBytes_ok hRead
    unfold BytesReader.len
    rw [hBuffer, List.length_append, hLength]
    omega
  · cases h

theorem takes_cursor (n : Nat) (decode : List UInt8 → α) :
    Takes n (read (·.readBytesCursor n decode)) := by
  intro s a s' h
  unfold read BytesReader.readBytesCursor at h
  cases hRead : s.readBytes n with
  | ok r =>
    obtain ⟨bytes, reader⟩ := r
    simp only [hRead] at h
    obtain ⟨_, rfl⟩ := EStateM.Result.ok.inj h
    obtain ⟨hBuffer, hLength⟩ := BytesReader.readBytes_ok hRead
    unfold BytesReader.len
    rw [hBuffer, List.length_append, hLength]
    omega
  | error e =>
    simp only [hRead] at h
    cases h

theorem takes_parseString (bytes : List UInt8) : Takes 0 (parseString bytes) := by
  unfold parseString
  split
  · exact takes_pure _
  · exact takes_throw _

theorem takes_readRawString : Takes 2 readRawString :=
  (takes_cursor 2 _).bind (j := 0) fun _ => ((takes_readBytes _).bind (j := 0) fun _ =>
    takes_parseString _).mono (Nat.zero_le _)

theorem takes_isReadObjectEof : Takes 0 isReadObjectEof := by
  have hAdvance : Takes 0 (read fun reader => (reader.advanceU24 .bigEndian).map (·, reader)) := by
    intro s a s' h
    unfold read at h
    cases hRead : s.advanceU24 .bigEndian with
    | ok marker =>
      simp only [hRead, Except.map] at h
      obtain ⟨_, rfl⟩ := EStateM.Result.ok.inj h
      exact le_rfl
    | error e =>
      simp only [hRead, Except.map] at h
      cases h
  refine hAdvance.bind (j := 0) fun marker => ?_
  split
  · exact ((takes_cursor 3 _).bind (j := 0) fun _ => takes_pure _).mono (Nat.zero_le _)
  · exact takes_pure _

end

theorem takes_readMarked {readProperties : Amf0Read (List (String × Amf0ValueType))}
    (h : Takes 0 readProperties) (markers : UInt8) : Takes 0 (readMarked readProperties markers) := by
  unfold readMarked
  split
  · exact takes_pure _
  split
  · exact ((takes_cursor 8 _).bind (j := 0) fun _ => takes_pure _).mono (Nat.zero_le _)
  split
  · exact ((takes_cursor 1 _).bind (j := 0) fun _ => takes_pure _).mono (Nat.zero_le _)
  split
  · exact (takes_readRawString.bind (j := 0) fun _ => takes_pure _).mono (Nat.zero_le _)
  split
  · exact h.bind (j := 0) fun _ => takes_pure _
  split
  · exact takes_pure _
  split
  · exact ((takes_cursor 4 _).bind (j := 0) fun _ =>
      h.bind (j := 0) fun _ => takes_pure _).mono (Nat.zero_le _)
  split
  · refine ((takes_cursor 4 _).bind (j := 0) fun _ => ?_).mono (Nat.zero_le _)
    refine ((takes_readBytes _).bind (j := 0) fun _ => ?_).mono (Nat.zero_le _)
    exact (takes_parseString _).bind (j := 0) fun _ => takes_pure _
  · exact takes_throw _

theorem takes_readIn (fuel : Nat) :
    Takes 0 (readAnyIn fuel) ∧ ∀ properties, Takes 0 (readPropertiesIn fuel properties) := by
  induction fuel with
  | zero => exact ⟨takes_pure _, fun _ => takes_pure _⟩
  | succ fuel ih =>
    obtain ⟨hAny, hProperties⟩ := ih
    constructor
    · intro s v s' h
      rw [readAnyIn, bind_get] at h
      revert h
      split
      · exact takes_pure _ s v s'
      · exact ((takes_cursor 1 _).bind (j := 0) fun markers =>
          takes_readMarked (hProperties []) markers).mono (Nat.zero_le _) s v s'
    · intro properties
      rw [readPropertiesIn]
      refine takes_isReadObjectEof.bind (j := 0) fun isEof => ?_
      split
      · exact takes_pure _
      · refine (takes_readRawString.bind (j := 0) fun key => ?_).mono (Nat.zero_le _)
        exact hAny.bind (j := 0) fun val => hProperties _

theorem bind_congr {α β : Type} {x : Amf0Read α} {f g : α → Amf0Read β} {s : BytesReader}
    (h : ∀ a s', x s = .ok a s' → f a s' = g a s') : (x >>= f) s = (x >>= g) s := by
  cases hx : x s with
  | ok a s' => rw [bind_of_ok hx, bind_of_ok hx, h a s' hx]
  | error e s' => rw [bind_of_error hx, bind_of_error hx]

theorem readMarked_congr {x y : Amf0Read (List (String × Amf0ValueType))} {s : BytesReader}
    (h : ∀ s' : BytesReader, s'.len ≤ s.len → x s' = y s') (markers : UInt8) :
    readMarked x markers s = readMarked y markers s := by
  unfold readMarked
  split
  · rfl
  split
  · rfl
  split
  · rfl
  split
  · rfl
  split
  · simp only [bind, EStateM.bind, h s le_rfl]
  split
  · rfl
  split
  · refine bind_congr fun l s1 hLen => ?_
    have hTaken := takes_cursor 4 _ _ _ _ hLen
    simp only [bind, EStateM.bind, h s1 (by omega)]
  · rfl

/-- More fuel than there are bytes changes nothing, so `readAny` never lacks any. -/
theorem readIn_fuel {n m : Nat} {s : BytesReader} (hn : s.len < n) (hm : s.len < m) :
    readAnyIn n s = readAnyIn m s ∧
      ∀ properties, readPropertiesIn n properties s = readPropertiesIn m properties s := by
  induction n generalizing m s with
  | zero => omega
  | succ n ih =>
    obtain _ | m := m
    · omega
    constructor
    · rw [readAnyIn, readAnyIn, bind_get, bind_get]
      split
      · rfl
      refine bind_congr fun markers s1 hMarkers => ?_
      have hTaken := takes_cursor 1 _ _ _ _ hMarkers
      exact readMarked_congr (fun s2 hLen => (@ih m s2 (by omega) (by omega)).2 []) markers
    · intro properties
      rw [readPropertiesIn, readPropertiesIn]
      refine bind_congr fun isEof s1 hEof => ?_
      have hTaken := takes_isReadObjectEof _ _ _ hEof
      split
      · rfl
      refine bind_congr fun key s2 hKey => ?_
      have hTaken' := takes_readRawString _ _ _ hKey
      obtain ⟨hAny, _⟩ := @ih m s2 (by omega) (by omega)
      simp only [bind, EStateM.bind, hAny]
      cases hVal : readAnyIn m s2 with
      | ok val s3 =>
        have hTaken'' := (takes_readIn m).1 _ _ _ hVal
        exact (@ih m s3 (by omega) (by omega)).2 _
      | error e s3 => rfl

theorem readAny_fuel {n : Nat} {s : BytesReader} (h : s.len < n) : readAny s = readAnyIn n s :=
  (readIn_fuel (Nat.lt_succ_self _) h).1

/-! ### All values -/

section

variable {s s' t : BytesReader} {v : Amf0ValueType} {vs : List Amf0ValueType}

theorem readAny_cons (marker : UInt8) (rest : List UInt8) :
    readAny ⟨marker :: rest⟩ = readMarked (readPropertiesIn (rest.length + 1) []) marker ⟨rest⟩ :=
  readAnyIn_cons _ marker rest

/-- Every value but the end takes bytes. -/
theorem len_of_readAny (h : readAny s = .ok v s') (hv : v ≠ .END) : s'.len < s.len := by
  obtain ⟨buffer⟩ := s
  cases buffer with
  | nil =>
    have hEnd : readAny ⟨[]⟩ = .ok .END ⟨[]⟩ := rfl
    rw [hEnd] at h
    cases h
    exact absurd rfl hv
  | cons marker rest =>
    rw [readAny_cons] at h
    have hTaken := takes_readMarked ((takes_readIn _).2 []) marker _ _ _ h
    simp only [BytesReader.len, List.length_cons] at hTaken ⊢
    omega

theorem readAllIn_cons (fuel : Nat) (h : readAny s = .ok v s') (hv : v ≠ .END) :
    readAllIn (fuel + 1) s = (do let results ← readAllIn fuel; pure (v :: results)) s' := by
  rw [readAllIn, bind_of_ok h]
  split
  · exact absurd rfl hv
  · rfl

theorem readAllIn_fuel {n m : Nat} (hn : s.len < n) (hm : s.len < m) :
    readAllIn n s = readAllIn m s := by
  induction n generalizing m s with
  | zero => omega
  | succ n ih =>
    obtain _ | m := m
    · omega
    cases h : readAny s with
    | error e s1 => rw [readAllIn, readAllIn, bind_of_error h, bind_of_error h]
    | ok v s1 =>
      by_cases hv : v = .END
      · subst hv
        rw [readAllIn, readAllIn, bind_of_ok h, bind_of_ok h]
      · have hTaken := len_of_readAny h hv
        have hRest := @ih s1 m (by omega) (by omega)
        rw [readAllIn_cons n h hv, readAllIn_cons m h hv]
        simp only [bind, EStateM.bind, hRest]

theorem readAll_eq (s : BytesReader) : readAll s = readAllIn (s.len + 1) s := rfl

theorem readAll_cons (h : readAny s = .ok v s') (hv : v ≠ .END) :
    readAll s = (do let results ← readAll; pure (v :: results)) s' := by
  have hTaken := len_of_readAny h hv
  have hFuel : readAllIn s.len s' = readAllIn (s'.len + 1) s' :=
    readAllIn_fuel hTaken (Nat.lt_succ_self _)
  refine (readAllIn_cons s.len h hv).trans ?_
  simp only [bind, EStateM.bind, hFuel]
  rfl

/-- A value that is a string is its marker and its length before its bytes. -/
theorem readAny_utf8String {body : List UInt8} {value : String}
    (h : readAny ⟨body⟩ = .ok (.utf8String value) s) :
    body = STRING :: (ByteOrder.bigEndian.encode 2 (len value) ++ (asBytes value ++ s.buffer)) := by
  cases body with
  | nil =>
    have hEnd : readAny ⟨[]⟩ = .ok .END ⟨[]⟩ := rfl
    rw [hEnd] at h
    cases h
  | cons marker rest =>
    rw [readAny_cons] at h
    obtain ⟨rfl, hRaw⟩ := readMarked_utf8String h
    have hBuffer := readRawString_eq_ok hRaw
    exact congrArg (STRING :: ·) hBuffer

theorem readAny_string {value : String} (h : len value ≤ 65535) (rest : List UInt8) :
    readAny ⟨STRING :: (ByteOrder.bigEndian.encode 2 (len value) ++ (asBytes value ++ rest))⟩ =
      .ok (.utf8String value) ⟨rest⟩ := by
  have hLen : (UInt16.ofNat (len value)).toNat = len value := by
    rw [UInt16.toNat_ofNat', Nat.mod_eq_of_lt (by omega)]
  have hRaw := readRawString_append h rest
  rw [hLen] at hRaw
  rw [readAny_cons]
  exact (bind_of_ok hRaw).trans rfl

/-- The first of all values, and the others behind it. -/
theorem readAny_of_readAll (h : readAll s = .ok (v :: vs) t) :
    ∃ s', readAny s = .ok v s' ∧ v ≠ .END ∧ readAll s' = .ok vs t := by
  cases hAny : readAny s with
  | error e s1 =>
    rw [readAll_eq, readAllIn, bind_of_error hAny] at h
    cases h
  | ok v1 s1 =>
    by_cases hv : v1 = .END
    · subst hv
      rw [readAll_eq, readAllIn, bind_of_ok hAny] at h
      cases h
    · rw [readAll_cons hAny hv] at h
      obtain ⟨results, s2, hResults, hPure⟩ := bind_eq_ok h
      cases hPure
      exact ⟨s1, rfl, hv, hResults⟩

end

end Amf0Reader

end Xiu.Flv.Amf0
