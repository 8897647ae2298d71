import Xiu.Bytesio.Reader
import Xiu.ProofKit.Action

/-! Code that reads: actions of a party that takes numbers and byte strings from the front of a
reader, and what each read does when the bytes are there and when they are not. -/

namespace Xiu.Bytesio

open ProofKit

/-- Why such code stops: an error that it returns, or a panic. -/
inductive Fault where
  | bytesReadError (value : BytesReadErrorValue)
  | panic
  deriving DecidableEq

/-- A party and the reader at hand. -/
structure Reading (τ : Type) where
  owner : τ
  reader : BytesReader
  deriving DecidableEq

/-- An action of a party that reads. -/
abbrev Read (τ : Type) := EStateM Fault (Reading τ)

variable {τ α : Type}

def read (f : BytesReader → Except BytesReadErrorValue (α × BytesReader)) : Read τ α := fun s =>
  match f s.reader with
  | .ok (a, reader) => .ok a ⟨s.owner, reader⟩
  | .error e => .error (.bytesReadError e) s

namespace Read

def readU8 : Read τ UInt8 := read (·.readU8)

def readU16 (order : ByteOrder) : Read τ UInt16 := read (·.readU16 order)

def readU24 (order : ByteOrder) : Read τ UInt32 := read (·.readU24 order)

def readU32 (order : ByteOrder) : Read τ UInt32 := read (·.readU32 order)

def readU64 (order : ByteOrder) : Read τ UInt64 := read (·.readU64 order)

def readBytes (bytesNum : Nat) : Read τ (List UInt8) := read (·.readBytes bytesNum)

def extractRemainingBytes : Read τ (List UInt8) := read fun reader =>
  .ok reader.extractRemainingBytes

/-- How many bytes are left. -/
def len : Read τ Nat := do return (← get).reader.len

/-- The bytes that are left, left in place. -/
def remainingBytes : Read τ (List UInt8) := do return (← get).reader.buffer

/-- The byte at an index, left in place. -/
def getAt (index : Nat) : Read τ UInt8 := fun s =>
  match s.reader.buffer[index]? with
  | some byte => .ok byte s
  | none => .error (.bytesReadError .indexOutofRange) s

/-- A subtraction of unsigned numbers, which panics below zero. -/
def sub (n m : Nat) : Read τ Nat := if n < m then throw .panic else pure (n - m)

/-- The result of an operation on `u16`, which panics when it does not fit. -/
def checkedU16 (n : Nat) : Read τ UInt16 :=
  if n < 2 ^ 16 then pure (UInt16.ofNat n) else throw .panic

/-- The result of an operation on `u32`, which panics when it does not fit. -/
def checkedU32 (n : Nat) : Read τ UInt32 :=
  if n < 2 ^ 32 then pure (UInt32.ofNat n) else throw .panic

/-- What the party itself does. -/
def act (f : τ → τ) : Read τ Unit := modify fun s => ⟨f s.owner, s.reader⟩

/-- The party at hand. -/
def owner : Read τ τ := do return (← get).owner

/-- What the party does without the reader. -/
def onOwner (x : EStateM Fault τ α) : Read τ α := fun s =>
  match x s.owner with
  | .ok a it => .ok a ⟨it, s.reader⟩
  | .error e it => .error e ⟨it, s.reader⟩

/-- Reads `payload` with a reader of its own. -/
def readOver (payload : List UInt8) (x : Read τ α) : EStateM Fault τ α := fun it =>
  match x ⟨it, ⟨payload⟩⟩ with
  | .ok a s => .ok a s.owner
  | .error e s => .error e s.owner

/-! ### The reads -/

variable {it : τ} {bytes rest buffer : List UInt8} {n : Nat}

theorem readBytes_ok (h : n ≤ buffer.length) :
    readBytes n (⟨it, ⟨buffer⟩⟩ : Reading τ) = .ok (buffer.take n) ⟨it, ⟨buffer.drop n⟩⟩ := by
  simp only [readBytes, read, BytesReader.readBytes, Nat.not_lt.mpr h, if_false]

theorem readBytes_append (h : bytes.length = n) :
    readBytes n (⟨it, ⟨bytes ++ rest⟩⟩ : Reading τ) = .ok bytes ⟨it, ⟨rest⟩⟩ := by
  simp only [readBytes, read, BytesReader.readBytes_append h]

theorem readBytes_short (h : buffer.length < n) :
    readBytes n (⟨it, ⟨buffer⟩⟩ : Reading τ) =
      .error (.bytesReadError .notEnoughBytes) ⟨it, ⟨buffer⟩⟩ := by
  simp only [readBytes, read, BytesReader.readBytes_short h]

theorem read_cursor_ok {decode : List UInt8 → α} (h : n ≤ buffer.length) :
    read (·.readBytesCursor n decode) (⟨it, ⟨buffer⟩⟩ : Reading τ) =
      .ok (decode (buffer.take n)) ⟨it, ⟨buffer.drop n⟩⟩ := by
  simp only [read, BytesReader.readBytesCursor, BytesReader.readBytes, Nat.not_lt.mpr h, if_false]

theorem read_cursor_short {decode : List UInt8 → α} (h : buffer.length < n) :
    read (·.readBytesCursor n decode) (⟨it, ⟨buffer⟩⟩ : Reading τ) =
      .error (.bytesReadError .notEnoughBytes) ⟨it, ⟨buffer⟩⟩ := by
  simp only [read, BytesReader.readBytesCursor, BytesReader.readBytes_short h]

@[simp] theorem readU8_cons (b : UInt8) :
    readU8 (⟨it, ⟨b :: rest⟩⟩ : Reading τ) = .ok b ⟨it, ⟨rest⟩⟩ :=
  read_cursor_ok (by simp)

@[simp] theorem readU8_nil :
    readU8 (⟨it, ⟨[]⟩⟩ : Reading τ) = .error (.bytesReadError .notEnoughBytes) ⟨it, ⟨[]⟩⟩ :=
  read_cursor_short (by simp)

/-- The number that two bytes denote in network order. -/
def ofU16 (b b' : UInt8) : UInt16 := BytesReader.decodeU16 .bigEndian [b, b']

@[simp] theorem readU16_cons (b b' : UInt8) :
    readU16 .bigEndian (⟨it, ⟨b :: b' :: rest⟩⟩ : Reading τ) = .ok (ofU16 b b') ⟨it, ⟨rest⟩⟩ :=
  read_cursor_ok (by simp)

theorem readU16_short {order : ByteOrder} (h : buffer.length < 2) :
    readU16 order (⟨it, ⟨buffer⟩⟩ : Reading τ) =
      .error (.bytesReadError .notEnoughBytes) ⟨it, ⟨buffer⟩⟩ := read_cursor_short h

theorem readU16_ok {order : ByteOrder} (h : 2 ≤ buffer.length) :
    readU16 order (⟨it, ⟨buffer⟩⟩ : Reading τ) =
      .ok (BytesReader.decodeU16 order (buffer.take 2)) ⟨it, ⟨buffer.drop 2⟩⟩ := read_cursor_ok h

theorem readU24_ok {order : ByteOrder} (h : 3 ≤ buffer.length) :
    readU24 order (⟨it, ⟨buffer⟩⟩ : Reading τ) =
      .ok (BytesReader.decodeU32 order (buffer.take 3)) ⟨it, ⟨buffer.drop 3⟩⟩ := read_cursor_ok h

theorem readU24_short {order : ByteOrder} (h : buffer.length < 3) :
    readU24 order (⟨it, ⟨buffer⟩⟩ : Reading τ) =
      .error (.bytesReadError .notEnoughBytes) ⟨it, ⟨buffer⟩⟩ := read_cursor_short h

theorem readU32_ok {order : ByteOrder} (h : 4 ≤ buffer.length) :
    readU32 order (⟨it, ⟨buffer⟩⟩ : Reading τ) =
      .ok (BytesReader.decodeU32 order (buffer.take 4)) ⟨it, ⟨buffer.drop 4⟩⟩ := read_cursor_ok h

theorem readU32_short {order : ByteOrder} (h : buffer.length < 4) :
    readU32 order (⟨it, ⟨buffer⟩⟩ : Reading τ) =
      .error (.bytesReadError .notEnoughBytes) ⟨it, ⟨buffer⟩⟩ := read_cursor_short h

@[simp] theorem extractRemainingBytes_apply :
    extractRemainingBytes (⟨it, ⟨buffer⟩⟩ : Reading τ) = .ok buffer ⟨it, ⟨[]⟩⟩ := rfl

@[simp] theorem bind_len {β : Type} {f : Nat → Read τ β} {s : Reading τ} :
    (len >>= f) s = f s.reader.len s := rfl

@[simp] theorem bind_remainingBytes {β : Type} {f : List UInt8 → Read τ β} {s : Reading τ} :
    (remainingBytes >>= f) s = f s.reader.buffer s := rfl

@[simp] theorem bind_act {β : Type} {g : τ → τ} {f : Unit → Read τ β} {s : Reading τ} :
    (act g >>= f) s = f () ⟨g s.owner, s.reader⟩ := rfl

@[simp] theorem act_apply {g : τ → τ} {s : Reading τ} :
    act g s = .ok () ⟨g s.owner, s.reader⟩ := rfl

@[simp] theorem bind_owner {β : Type} {f : τ → Read τ β} {s : Reading τ} :
    (owner >>= f) s = f s.owner s := rfl

theorem onOwner_ok {x : EStateM Fault τ α} {a : α} {it' : τ} {reader : BytesReader}
    (h : x it = .ok a it') : onOwner x ⟨it, reader⟩ = .ok a ⟨it', reader⟩ := by
  simp only [onOwner, h]

theorem onOwner_error {x : EStateM Fault τ α} {e : Fault} {it' : τ} {reader : BytesReader}
    (h : x it = .error e it') : onOwner x ⟨it, reader⟩ = .error e ⟨it', reader⟩ := by
  simp only [onOwner, h]

/-- What is done without the reader, by what it leaves of the party. -/
theorem onOwner_ok_iff {x : EStateM Fault τ α} {s : Reading τ} {a : α} {it' : τ} :
    (∃ s', onOwner x s = .ok a s' ∧ s'.owner = it') ↔ x s.owner = .ok a it' := by
  constructor
  · rintro ⟨s', hRun, rfl⟩
    unfold onOwner at hRun
    split at hRun
    · rename_i hX
      cases hRun
      exact hX
    · cases hRun
  · intro hX
    exact ⟨⟨it', s.reader⟩, onOwner_ok hX, rfl⟩

theorem readOver_ok {x : Read τ α} {a : α} {s : Reading τ} (h : x ⟨it, ⟨buffer⟩⟩ = .ok a s) :
    readOver buffer x it = .ok a s.owner := by
  simp only [readOver, h]

theorem readOver_error {x : Read τ α} {e : Fault} {s : Reading τ}
    (h : x ⟨it, ⟨buffer⟩⟩ = .error e s) : readOver buffer x it = .error e s.owner := by
  simp only [readOver, h]

theorem readOver_congr {x y : Read τ α} {buffer' : List UInt8}
    (h : x ⟨it, ⟨buffer⟩⟩ = y ⟨it, ⟨buffer'⟩⟩) : readOver buffer x it = readOver buffer' y it := by
  simp only [readOver, h]

/-! ### What a read that succeeds leaves -/

theorem readBytes_eq_ok {s s' : Reading τ} (h : readBytes n s = .ok bytes s') :
    s'.owner = s.owner ∧ s'.reader.len + n = s.reader.len := by
  obtain ⟨it, ⟨buffer⟩⟩ := s
  by_cases hLen : n ≤ buffer.length
  · obtain ⟨rfl, rfl⟩ := EStateM.Result.ok.inj ((readBytes_ok hLen).symm.trans h)
    refine ⟨rfl, ?_⟩
    show (buffer.drop n).length + n = buffer.length
    rw [List.length_drop]
    omega
  · exact nomatch (readBytes_short (Nat.not_le.mp hLen)).symm.trans h

theorem read_cursor_eq_ok {decode : List UInt8 → α} {a : α} {s s' : Reading τ}
    (h : read (·.readBytesCursor n decode) s = .ok a s') :
    s'.owner = s.owner ∧ s'.reader.len + n = s.reader.len := by
  obtain ⟨it, ⟨buffer⟩⟩ := s
  by_cases hLen : n ≤ buffer.length
  · obtain ⟨rfl, rfl⟩ := EStateM.Result.ok.inj ((read_cursor_ok hLen).symm.trans h)
    refine ⟨rfl, ?_⟩
    show (buffer.drop n).length + n = buffer.length
    rw [List.length_drop]
    omega
  · exact nomatch (read_cursor_short (Nat.not_le.mp hLen)).symm.trans h

theorem onOwner_eq_ok {x : EStateM Fault τ α} {a : α} {s s' : Reading τ}
    (h : onOwner x s = .ok a s') : s'.reader = s.reader := by
  unfold onOwner at h
  split at h
  · obtain ⟨_, rfl⟩ := EStateM.Result.ok.inj h
    rfl
  · cases h

/-! ### Arithmetic -/

theorem sub_ok {m : Nat} (h : m ≤ n) : (sub n m : Read τ Nat) = pure (n - m) :=
  if_neg (by omega)

theorem sub_panic {m : Nat} (h : n < m) : (sub n m : Read τ Nat) = throw .panic := if_pos h

theorem checkedU16_ok (h : n < 2 ^ 16) : (checkedU16 n : Read τ UInt16) = pure (UInt16.ofNat n) :=
  if_pos h

theorem checkedU16_panic (h : ¬n < 2 ^ 16) : (checkedU16 n : Read τ UInt16) = throw .panic :=
  if_neg h

theorem checkedU32_ok (h : n < 2 ^ 32) : (checkedU32 n : Read τ UInt32) = pure (UInt32.ofNat n) :=
  if_pos h

theorem checkedU32_panic (h : ¬n < 2 ^ 32) : (checkedU32 n : Read τ UInt32) = throw .panic :=
  if_neg h

theorem sub_eq_ok {m k : Nat} {s s' : Reading τ} (h : sub n m s = .ok k s') :
    s' = s ∧ k = n - m := by
  unfold sub at h
  split at h
  · cases h
  · obtain ⟨rfl, rfl⟩ := EStateM.Result.ok.inj h
    exact ⟨rfl, rfl⟩

end Read

end Xiu.Bytesio
