import Xiu.Bytesio.Reader

/-! The byte writer of `library/bytesio`: numbers and byte strings appended to a buffer, and the
asynchronous writer that hands its buffer to the connection. -/

namespace Xiu.Bytesio

/-- Why a write stops.  Writing to a `Vec` cannot fail, but `write_u24` panics on a number of more
than three bytes. -/
inductive WriteFault where
  | panic
  deriving DecidableEq

structure BytesWriter where
  bytes : List UInt8
  deriving DecidableEq

/-- Why a write to a given position stops: the position is beyond the end, or the write panics. -/
inductive PositionFault where
  | outofIndex
  | panic
  deriving DecidableEq

namespace BytesWriter

def writeU8 (self : BytesWriter) (byte : UInt8) : BytesWriter := ⟨self.bytes ++ [byte]⟩

def writeU16 (self : BytesWriter) (order : ByteOrder) (n : UInt16) : BytesWriter :=
  ⟨self.bytes ++ order.encode 2 n.toNat⟩

def writeU24 (self : BytesWriter) (order : ByteOrder) (n : UInt32) :
    Except WriteFault BytesWriter :=
  if n.toNat < 2 ^ 24 then .ok ⟨self.bytes ++ order.encode 3 n.toNat⟩ else .error .panic

def writeU32 (self : BytesWriter) (order : ByteOrder) (n : UInt32) : BytesWriter :=
  ⟨self.bytes ++ order.encode 4 n.toNat⟩

/-- A floating-point number, given by its bits. -/
def writeF64 (self : BytesWriter) (order : ByteOrder) (bits : UInt64) : BytesWriter :=
  ⟨self.bytes ++ order.encode 8 bits.toNat⟩

def len (self : BytesWriter) : Nat := self.bytes.length

/-- Replaces the byte at a position by what `f` makes of it; it panics where `f` gives nothing. -/
def updateAt (self : BytesWriter) (position : Nat) (f : UInt8 → Option UInt8) :
    Except PositionFault BytesWriter :=
  if position > self.len then .error .outofIndex
  else
    match self.bytes[position]?.bind f with
    | some byte => .ok ⟨self.bytes.set position byte⟩
    | none => .error .panic

def orU8At (self : BytesWriter) (position : Nat) (byte : UInt8) :
    Except PositionFault BytesWriter := self.updateAt position fun b => some (b ||| byte)

/-- An addition, which panics on overflow. -/
def addU8At (self : BytesWriter) (position : Nat) (byte : UInt8) :
    Except PositionFault BytesWriter :=
  self.updateAt position fun b => if b.toNat + byte.toNat < 256 then some (b + byte) else none

def writeU8At (self : BytesWriter) (position : Nat) (byte : UInt8) :
    Except PositionFault BytesWriter := self.updateAt position fun _ => some byte

def write (self : BytesWriter) (buf : List UInt8) : BytesWriter := ⟨self.bytes ++ buf⟩

def prepend (self : BytesWriter) (buf : List UInt8) : BytesWriter := ⟨buf ++ self.bytes⟩

theorem updateAt_ok {self : BytesWriter} {position : Nat} {f : UInt8 → Option UInt8} {b b' : UInt8}
    (h : self.bytes[position]? = some b) (hf : f b = some b') :
    self.updateAt position f = .ok ⟨self.bytes.set position b'⟩ := by
  have hLt : position < self.len := (List.getElem?_eq_some_iff.mp h).1
  unfold updateAt
  rw [if_neg (Nat.not_lt.mpr (Nat.le_of_lt hLt)), h]
  simp only [Option.bind_some, hf]

theorem writeU24_ok (self : BytesWriter) (order : ByteOrder) {n : UInt32} (h : n.toNat < 2 ^ 24) :
    self.writeU24 order n = .ok ⟨self.bytes ++ order.encode 3 n.toNat⟩ := if_pos h

end BytesWriter

/-- The writer of a connection: what is buffered, and what has been sent. -/
structure AsyncBytesWriter where
  bytesWriter : BytesWriter
  io : List UInt8
  deriving DecidableEq

def AsyncBytesWriter.new : AsyncBytesWriter := ⟨⟨[]⟩, []⟩

def AsyncBytesWriter.writeU8 (self : AsyncBytesWriter) (byte : UInt8) : AsyncBytesWriter :=
  { self with bytesWriter := self.bytesWriter.writeU8 byte }

def AsyncBytesWriter.writeU32 (self : AsyncBytesWriter) (order : ByteOrder) (n : UInt32) :
    AsyncBytesWriter :=
  { self with bytesWriter := self.bytesWriter.writeU32 order n }

def AsyncBytesWriter.write (self : AsyncBytesWriter) (buf : List UInt8) : AsyncBytesWriter :=
  { self with bytesWriter := self.bytesWriter.write buf }

/-- Sends the buffered bytes. -/
def AsyncBytesWriter.flush (self : AsyncBytesWriter) : AsyncBytesWriter :=
  ⟨⟨[]⟩, self.io ++ self.bytesWriter.bytes⟩

end Xiu.Bytesio
