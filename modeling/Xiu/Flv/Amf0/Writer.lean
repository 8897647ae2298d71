import Xiu.Bytesio.Writer
import Xiu.Flv.Amf0.Define
import Xiu.ProofKit.Action

/-! The writer of AMF0 values, of `library/container/flv/src/amf0/amf0_writer.rs`: what it writes, and
which values it refuses. -/

namespace Xiu.Flv.Amf0

open Bytesio ProofKit Amf0ValueType

/-- The only error that the writer itself reports; its buffer takes every write. -/
inductive Amf0WriteErrorValue where
  | normalStringTooLong
  deriving DecidableEq

abbrev Amf0Write := EStateM Amf0WriteErrorValue BytesWriter

namespace Amf0Writer

def writeNumber (bits : UInt64) : Amf0Write Unit := do
  modify (·.writeU8 NUMBER)
  modify (·.writeF64 .bigEndian bits)

def writeBool (value : Bool) : Amf0Write Unit := do
  modify (·.writeU8 BOOLEAN)
  modify (·.writeU8 (if value then 1 else 0))

def writeString (value : String) : Amf0Write Unit :=
  if len value > 65535 then
    throw .normalStringTooLong
  else do
    modify (·.writeU8 STRING)
    modify (·.writeU16 .bigEndian (UInt16.ofNat (len value)))
    modify (·.write (asBytes value))

def writeNull : Amf0Write Unit := modify (·.writeU8 NULL)

/-- `write_u24` of a marker, which fits. -/
def writeObjectEof : Amf0Write Unit :=
  modify (·.write (ByteOrder.bigEndian.encode 3 OBJECT_END.toNat))

mutual

def writeAny : Amf0ValueType → Amf0Write Unit
  | .boolean value => writeBool value
  | .null => writeNull
  | .number bits => writeNumber bits
  | .utf8String value => writeString value
  | .object properties => do
    modify (·.writeU8 OBJECT)
    writeProperties properties
    writeObjectEof
  | .ecmaArray properties => do
    modify (·.writeU8 ECMA_ARRAY)
    modify (·.writeU32 .bigEndian (UInt32.ofNat properties.length))
    writeProperties properties
    writeObjectEof
  -- `_ => Ok(())`
  | .longUtf8String _ => pure ()
  | .END => pure ()

/-- The loops of `write_object` and `write_eacm_array`. -/
def writeProperties : List (String × Amf0ValueType) → Amf0Write Unit
  | [] => pure ()
  | (key, value) :: rest => do
    modify (·.writeU16 .bigEndian (UInt16.ofNat (len key)))
    modify (·.write (asBytes key))
    writeAny value
    writeProperties rest

end

end Amf0Writer

namespace Amf0ValueType

mutual

/-- No string in a value is too long for a string marker. -/
def StringsFit : Amf0ValueType → Prop
  | .utf8String value => len value ≤ 65535
  | .object properties => AllStringsFit properties
  | .ecmaArray properties => AllStringsFit properties
  | _ => True

def AllStringsFit : List (String × Amf0ValueType) → Prop
  | [] => True
  | (_, v) :: rest => StringsFit v ∧ AllStringsFit rest

end

/-- The bytes that a key is written as. -/
def encodeKey (key : String) : List UInt8 :=
  ByteOrder.bigEndian.encode 2 (UInt16.ofNat (len key)).toNat ++ asBytes key

mutual

/-- The bytes that a value is written as. -/
def encode : Amf0ValueType → List UInt8
  | .boolean value => [BOOLEAN, if value then 1 else 0]
  | .null => [NULL]
  | .number bits => NUMBER :: ByteOrder.bigEndian.encode 8 bits.toNat
  | .utf8String value => STRING :: encodeKey value
  | .object properties => OBJECT :: (encodeAll properties ++ [0, 0, OBJECT_END])
  | .ecmaArray properties =>
    ECMA_ARRAY :: (ByteOrder.bigEndian.encode 4 (UInt32.ofNat properties.length).toNat ++
      (encodeAll properties ++ [0, 0, OBJECT_END]))
  | .longUtf8String _ => []
  | .END => []

def encodeAll : List (String × Amf0ValueType) → List UInt8
  | [] => []
  | (key, v) :: rest => encodeKey key ++ (encode v ++ encodeAll rest)

end

end Amf0ValueType

namespace Amf0Writer

theorem eof_eq : ByteOrder.bigEndian.encode 3 OBJECT_END.toNat = [0, 0, OBJECT_END] := rfl

mutual

/-- A value whose strings fit is written. -/
theorem writeAny_ok {v : Amf0ValueType} (h : v.StringsFit) (before : List UInt8) :
    writeAny v ⟨before⟩ = .ok () ⟨before ++ v.encode⟩ := by
  cases v with
  | number bits => simp [writeAny, writeNumber, encode, BytesWriter.writeU8, BytesWriter.writeF64]
  | boolean value => simp [writeAny, writeBool, encode, BytesWriter.writeU8]
  | null => simp [writeAny, writeNull, encode, BytesWriter.writeU8]
  | utf8String value =>
    have hFits : ¬len value > 65535 := Nat.not_lt.mpr (by simpa [StringsFit] using h)
    simp [writeAny, writeString, hFits, encode, encodeKey, BytesWriter.writeU8,
      BytesWriter.writeU16, BytesWriter.write]
  | object properties =>
    have hAll := @writeProperties_ok properties (by simpa [StringsFit] using h)
      (before ++ [OBJECT])
    rw [writeAny, bind_modify, BytesWriter.writeU8, bind_of_ok hAll]
    simp [writeObjectEof, encode, BytesWriter.write, eof_eq]
  | ecmaArray properties =>
    have hAll := @writeProperties_ok properties (by simpa [StringsFit] using h)
      (before ++ [ECMA_ARRAY] ++
        ByteOrder.bigEndian.encode 4 (UInt32.ofNat properties.length).toNat)
    rw [writeAny, bind_modify, bind_modify, BytesWriter.writeU8, BytesWriter.writeU32,
      bind_of_ok hAll]
    simp [writeObjectEof, encode, BytesWriter.write, eof_eq]
  | longUtf8String value => simp [writeAny, encode]
  | END => simp [writeAny, encode]

theorem writeProperties_ok {ps : List (String × Amf0ValueType)} (h : AllStringsFit ps)
    (before : List UInt8) :
    writeProperties ps ⟨before⟩ = .ok () ⟨before ++ encodeAll ps⟩ := by
  match ps with
  | [] => simp [writeProperties, encodeAll]
  | (key, v) :: rest =>
    obtain ⟨hFirst, hRest⟩ : v.StringsFit ∧ AllStringsFit rest := by
      simpa [AllStringsFit] using h
    have hValue := writeAny_ok hFirst (before ++ encodeKey key)
    have hMore := writeProperties_ok hRest (before ++ encodeKey key ++ v.encode)
    rw [writeProperties, bind_modify, bind_modify, BytesWriter.writeU16, BytesWriter.write,
      List.append_assoc]
    refine (bind_of_ok hValue).trans (hMore.trans ?_)
    simp [encodeAll]

end

mutual

/-- A value with a string that does not fit is refused. -/
theorem writeAny_error {v : Amf0ValueType} (h : ¬v.StringsFit) (w : BytesWriter) :
    ∃ w', writeAny v w = .error .normalStringTooLong w' := by
  cases v with
  | utf8String value =>
    have hLong : len value > 65535 := by simpa [StringsFit] using h
    exact ⟨w, by simp [writeAny, writeString, hLong]⟩
  | object properties =>
    obtain ⟨w', hError⟩ := @writeProperties_error properties (by simpa [StringsFit] using h)
      (w.writeU8 OBJECT)
    refine ⟨w', ?_⟩
    rw [writeAny, bind_modify]
    exact bind_of_error hError
  | ecmaArray properties =>
    obtain ⟨w', hError⟩ := @writeProperties_error properties (by simpa [StringsFit] using h)
      ((w.writeU8 ECMA_ARRAY).writeU32 .bigEndian (UInt32.ofNat properties.length))
    refine ⟨w', ?_⟩
    rw [writeAny, bind_modify, bind_modify]
    exact bind_of_error hError
  | number bits => exact absurd (by simp [StringsFit]) h
  | boolean value => exact absurd (by simp [StringsFit]) h
  | null => exact absurd (by simp [StringsFit]) h
  | longUtf8String value => exact absurd (by simp [StringsFit]) h
  | END => exact absurd (by simp [StringsFit]) h

theorem writeProperties_error {ps : List (String × Amf0ValueType)} (h : ¬AllStringsFit ps)
    (w : BytesWriter) : ∃ w', writeProperties ps w = .error .normalStringTooLong w' := by
  match ps with
  | [] => exact absurd (by simp [AllStringsFit]) h
  | (key, v) :: rest =>
    rw [writeProperties, bind_modify, bind_modify]
    by_cases hFirst : v.StringsFit
    · have hRest : ¬AllStringsFit rest := fun hRest => h (by
        simp only [AllStringsFit]
        exact ⟨hFirst, hRest⟩)
      rw [bind_of_ok (writeAny_ok hFirst _)]
      exact writeProperties_error hRest _
    · obtain ⟨w', hError⟩ := writeAny_error hFirst
        ((w.writeU16 .bigEndian (UInt16.ofNat (len key))).write (asBytes key))
      exact ⟨w', bind_of_error hError⟩

end

/-- Exactly the values whose strings fit are written. -/
theorem writeAny_eq_ok {v : Amf0ValueType} {before after : List UInt8}
    (h : writeAny v ⟨before⟩ = .ok () ⟨after⟩) : v.StringsFit ∧ after = before ++ v.encode := by
  by_cases hFits : v.StringsFit
  · obtain ⟨_, hEq⟩ := EStateM.Result.ok.inj ((writeAny_ok hFits before).symm.trans h)
    exact ⟨hFits, (BytesWriter.mk.inj hEq).symm⟩
  · obtain ⟨w', hError⟩ := writeAny_error hFits ⟨before⟩
    exact nomatch hError.symm.trans h

end Amf0Writer

end Xiu.Flv.Amf0
