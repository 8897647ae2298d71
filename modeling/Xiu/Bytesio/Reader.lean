import Xiu.ProofKit.Endian

/-! The byte reader of `library/bytesio`: a buffer from whose front numbers and byte strings are
taken.  A read that asks for more bytes than the buffer holds fails and takes nothing. -/

namespace Xiu.Bytesio

open ProofKit

inductive ByteOrder where
  | bigEndian
  | littleEndian
  deriving DecidableEq

/-- The number that `bytes` denote in a byte order. -/
def ByteOrder.decode : ByteOrder → List UInt8 → Nat
  | .bigEndian, bytes => ofBE bytes
  | .littleEndian, bytes => ofLE bytes

/-- The lowest `k` bytes of `n` in a byte order. -/
def ByteOrder.encode : ByteOrder → Nat → Nat → List UInt8
  | .bigEndian, k, n => toBE k n
  | .littleEndian, k, n => toLE k n

@[simp] theorem ByteOrder.length_encode (order : ByteOrder) (k n : Nat) :
    (order.encode k n).length = k := by
  cases order <;> simp [ByteOrder.encode]

theorem ByteOrder.decode_encode (order : ByteOrder) (k n : Nat) :
    order.decode (order.encode k n) = n % 256 ^ k := by
  cases order
  · exact ofBE_toBE k n
  · exact ofLE_toLE k n

inductive BytesReadErrorValue where
  | notEnoughBytes
  | indexOutofRange
  deriving DecidableEq

structure BytesReader where
  buffer : List UInt8
  deriving DecidableEq

namespace BytesReader

def extendFromSlice (self : BytesReader) (extend : List UInt8) : BytesReader :=
  ⟨self.buffer ++ extend⟩

def len (self : BytesReader) : Nat := self.buffer.length

def isEmpty (self : BytesReader) : Bool := self.len == 0

def readBytes (self : BytesReader) (bytesNum : Nat) :
    Except BytesReadErrorValue (List UInt8 × BytesReader) :=
  if self.buffer.length < bytesNum then .error .notEnoughBytes
  else .ok (self.buffer.take bytesNum, ⟨self.buffer.drop bytesNum⟩)

def advanceBytes (self : BytesReader) (bytesNum : Nat) :
    Except BytesReadErrorValue (List UInt8) :=
  if self.buffer.length < bytesNum then .error .notEnoughBytes
  else .ok (self.buffer.take bytesNum)

/-- Takes `bytesNum` bytes and reads them with `decode`. -/
def readBytesCursor {α : Type} (self : BytesReader) (bytesNum : Nat) (decode : List UInt8 → α) :
    Except BytesReadErrorValue (α × BytesReader) :=
  match self.readBytes bytesNum with
  | .ok (bytes, reader) => .ok (decode bytes, reader)
  | .error err => .error err

/-- How a byte is read. -/
def decodeU8 (bytes : List UInt8) : UInt8 := bytes.headD 0

def decodeU16 (order : ByteOrder) (bytes : List UInt8) : UInt16 :=
  UInt16.ofNat (order.decode bytes)

/-- How three or four bytes are read. -/
def decodeU32 (order : ByteOrder) (bytes : List UInt8) : UInt32 :=
  UInt32.ofNat (order.decode bytes)

def readU8 (self : BytesReader) := self.readBytesCursor 1 decodeU8

def readU16 (self : BytesReader) (order : ByteOrder) := self.readBytesCursor 2 (decodeU16 order)

def readU24 (self : BytesReader) (order : ByteOrder) := self.readBytesCursor 3 (decodeU32 order)

def readU32 (self : BytesReader) (order : ByteOrder) := self.readBytesCursor 4 (decodeU32 order)

def decodeU64 (order : ByteOrder) (bytes : List UInt8) : UInt64 :=
  UInt64.ofNat (order.decode bytes)

def readU64 (self : BytesReader) (order : ByteOrder) := self.readBytesCursor 8 (decodeU64 order)

/-- A floating-point number, given by its bits. -/
def readF64 (self : BytesReader) (order : ByteOrder) := self.readBytesCursor 8 (decodeU64 order)

/-- Three bytes, left in place. -/
def advanceU24 (self : BytesReader) (order : ByteOrder) : Except BytesReadErrorValue UInt32 :=
  match self.advanceBytes 3 with
  | .ok bytes => .ok (decodeU32 order bytes)
  | .error err => .error err

/-- A byte, left in place. -/
def advanceU8 (self : BytesReader) : Except BytesReadErrorValue UInt8 :=
  match self.advanceBytes 1 with
  | .ok bytes => .ok (decodeU8 bytes)
  | .error err => .error err

/-- The byte at an index, left in place. -/
def get (self : BytesReader) (index : Nat) : Except BytesReadErrorValue UInt8 :=
  match self.buffer[index]? with
  | some byte => .ok byte
  | none => .error .indexOutofRange

/-- The bytes that are left, left in place. -/
def getRemainingBytes (self : BytesReader) : List UInt8 := self.buffer

def extractRemainingBytes (self : BytesReader) : List UInt8 × BytesReader :=
  (self.buffer, ⟨[]⟩)

theorem readBytes_append {bytes rest : List UInt8} {n : Nat} (h : bytes.length = n) :
    (⟨bytes ++ rest⟩ : BytesReader).readBytes n = .ok (bytes, ⟨rest⟩) := by
  subst h
  simp [readBytes]

theorem readBytes_short {buffer : List UInt8} {n : Nat} (h : buffer.length < n) :
    (⟨buffer⟩ : BytesReader).readBytes n = .error .notEnoughBytes := if_pos h

/-- A read that succeeds splits the buffer at `n`. -/
theorem readBytes_ok {self reader : BytesReader} {n : Nat} {bytes : List UInt8}
    (h : self.readBytes n = .ok (bytes, reader)) :
    self.buffer = bytes ++ reader.buffer ∧ bytes.length = n := by
  unfold readBytes at h
  split at h
  · cases h
  · rename_i hlen
    cases h
    exact ⟨(List.take_append_drop n self.buffer).symm, by simp; omega⟩

theorem readU8_cons (b : UInt8) (rest : List UInt8) :
    (⟨b :: rest⟩ : BytesReader).readU8 = .ok (b, ⟨rest⟩) := by
  have hRead : (⟨b :: rest⟩ : BytesReader).readBytes 1 = .ok ([b], ⟨rest⟩) :=
    @readBytes_append [b] rest 1 rfl
  rw [readU8, readBytesCursor, hRead]
  rfl

theorem advanceU8_cons (b : UInt8) (rest : List UInt8) :
    (⟨b :: rest⟩ : BytesReader).advanceU8 = .ok b := by
  have hAdvance : (⟨b :: rest⟩ : BytesReader).advanceBytes 1 = .ok [b] := if_neg (by simp)
  rw [advanceU8, hAdvance]
  rfl

theorem readU8_ok {self reader : BytesReader} {b : UInt8} (h : self.readU8 = .ok (b, reader)) :
    self.buffer = b :: reader.buffer := by
  obtain ⟨buffer⟩ := self
  cases buffer with
  | nil => cases h
  | cons b' rest =>
    rw [readU8_cons] at h
    cases h
    rfl

theorem decodeU16_encode (order : ByteOrder) (n : UInt16) :
    decodeU16 order (order.encode 2 n.toNat) = n := by
  have h := n.toNat_lt
  rw [decodeU16, order.decode_encode, Nat.mod_eq_of_lt (by omega), UInt16.ofNat_toNat]

theorem decodeU32_encode3 (order : ByteOrder) {n : UInt32} (h : n.toNat < 2 ^ 24) :
    decodeU32 order (order.encode 3 n.toNat) = n := by
  rw [decodeU32, order.decode_encode, Nat.mod_eq_of_lt (by omega), UInt32.ofNat_toNat]

theorem decodeU32_encode4 (order : ByteOrder) (n : UInt32) :
    decodeU32 order (order.encode 4 n.toNat) = n := by
  have h := n.toNat_lt
  rw [decodeU32, order.decode_encode, Nat.mod_eq_of_lt (by omega), UInt32.ofNat_toNat]

theorem decodeU64_encode (order : ByteOrder) (n : UInt64) :
    decodeU64 order (order.encode 8 n.toNat) = n := by
  have h := n.toNat_lt
  rw [decodeU64, order.decode_encode, Nat.mod_eq_of_lt (by omega), UInt64.ofNat_toNat]

/-- Three bytes denote less than `2 ^ 24`. -/
theorem decodeU32_toNat {order : ByteOrder} {bytes : List UInt8} (h : bytes.length ≤ 4) :
    (decodeU32 order bytes).toNat = order.decode bytes := by
  have hlt : order.decode bytes < 256 ^ bytes.length := by
    cases order
    · exact ofBE_lt bytes
    · exact ofLE_lt bytes
  have hle : 256 ^ bytes.length ≤ 256 ^ 4 := Nat.pow_le_pow_right (by decide) h
  exact UInt32.toNat_ofNat_of_lt' (by rw [UInt32.size]; omega)

end BytesReader

end Xiu.Bytesio
