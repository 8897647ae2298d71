import Xiu.Bytesio.Reader

/-! The values of AMF0, of `library/container/flv/src/amf0`, with the markers that they are written
behind. -/

namespace Xiu.Flv.Amf0

def NUMBER : UInt8 := 0x00
def BOOLEAN : UInt8 := 0x01
def STRING : UInt8 := 0x02
def OBJECT : UInt8 := 0x03
def NULL : UInt8 := 0x05
def ECMA_ARRAY : UInt8 := 0x08
def OBJECT_END : UInt8 := 0x09
def LONG_STRING : UInt8 := 0x0c

/-- A number is given by its bits.  The map of an object or an array is the list of its entries, in
the order of insertion. -/
inductive Amf0ValueType where
  | number (bits : UInt64)
  | boolean (value : Bool)
  | utf8String (value : String)
  | object (properties : List (String × Amf0ValueType))
  | null
  | ecmaArray (properties : List (String × Amf0ValueType))
  | longUtf8String (value : String)
  | END

/-- `String::len`: the number of bytes. -/
def len (s : String) : Nat := s.utf8ByteSize

/-- `String::as_bytes`. -/
def asBytes (s : String) : List UInt8 := s.toByteArray.data.toList

/-- `String::from_utf8`. -/
def fromUtf8 (bytes : List UInt8) : Option String := String.fromUTF8? ⟨bytes.toArray⟩

/-- `IndexMap::insert`: a key that is there keeps its place. -/
def insert {α : Type} (properties : List (String × α)) (key : String) (value : α) :
    List (String × α) :=
  if key ∈ properties.map (·.1) then
    properties.map fun p => if p.1 = key then (key, value) else p
  else properties ++ [(key, value)]

theorem length_asBytes (s : String) : (asBytes s).length = len s := rfl

theorem fromUtf8_asBytes (s : String) : fromUtf8 (asBytes s) = some s := by
  have hValid : s.toByteArray.IsValidUTF8 := s.isValidUTF8
  exact dif_pos hValid

theorem asBytes_of_fromUtf8 {bytes : List UInt8} {s : String} (h : fromUtf8 bytes = some s) :
    asBytes s = bytes := by
  by_cases hValid : (ByteArray.mk bytes.toArray).IsValidUTF8
  · have hSome : fromUtf8 bytes = some (String.fromUTF8 ⟨bytes.toArray⟩ hValid) := dif_pos hValid
    obtain rfl := Option.some.inj (h.symm.trans hSome)
    rfl
  · have hNone : fromUtf8 bytes = none := dif_neg hValid
    rw [hNone] at h
    cases h

theorem len_fromUtf8 {bytes : List UInt8} {s : String} (h : fromUtf8 bytes = some s) :
    len s = bytes.length := by
  rw [← asBytes_of_fromUtf8 h, length_asBytes]

theorem insert_new {α : Type} {properties : List (String × α)} {key : String} (value : α)
    (h : key ∉ properties.map (·.1)) : insert properties key value = properties ++ [(key, value)] :=
  if_neg h

namespace Amf0ValueType

/-- The entries of an object or an array. -/
def properties : Amf0ValueType → List (String × Amf0ValueType)
  | .object properties => properties
  | .ecmaArray properties => properties
  | _ => []

mutual

/-- A value and the values inside. -/
def parts : Amf0ValueType → List Amf0ValueType
  | .object properties => .object properties :: partsOf properties
  | .ecmaArray properties => .ecmaArray properties :: partsOf properties
  | v => [v]

def partsOf : List (String × Amf0ValueType) → List Amf0ValueType
  | [] => []
  | (_, v) :: rest => parts v ++ partsOf rest

end

mutual

/-- The value that should be read back: arrays are read as objects. -/
def asRead : Amf0ValueType → Amf0ValueType
  | .object properties => .object (asReadAll properties)
  | .ecmaArray properties => .object (asReadAll properties)
  | v => v

def asReadAll : List (String × Amf0ValueType) → List (String × Amf0ValueType)
  | [] => []
  | (key, v) :: rest => (key, asRead v) :: asReadAll rest

end

end Amf0ValueType

end Xiu.Flv.Amf0
