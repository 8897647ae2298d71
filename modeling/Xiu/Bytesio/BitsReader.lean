import Xiu.Bytesio.Reader
import Xiu.ProofKit.Bits

/-! The bit reader of `library/bytesio`: a byte at a time is taken from a byte reader, and its bits from
the most significant one on. -/

namespace Xiu.Bytesio

open ProofKit

inductive BitErrorValue where
  | bytesReadError (value : BytesReadErrorValue)
  | cannotReadByte
  deriving DecidableEq

/-- Of the byte at hand, so many bits are left, of which the first has been taken. -/
structure BitsReader where
  reader : BytesReader
  curByte : UInt8
  curBitLeft : UInt8
  curBitLeft_lt : curBitLeft < 8

namespace BitsReader

theorem zero_lt_eight : (0 : UInt8) < 8 := by decide

def new (reader : BytesReader) : BitsReader := ⟨reader, 0, 0, zero_lt_eight⟩

def len (self : BitsReader) : Nat := self.reader.len * 8 + self.curBitLeft.toNat

def readByte (self : BitsReader) : Except BitErrorValue (UInt8 × BitsReader) :=
  if self.curBitLeft ≠ 0 then .error .cannotReadByte
  else
    match self.reader.readU8 with
    | .error value => .error (.bytesReadError value)
    | .ok (byte, reader) => .ok (byte, { self with reader })

theorem sub_one_lt {curBitLeft : UInt8} (hPos : curBitLeft ≠ 0) (h : curBitLeft < 8) :
    curBitLeft - 1 < 8 := by
  rw [UInt8.lt_iff_toNat_lt] at h ⊢
  have hNat : curBitLeft.toNat ≠ 0 := fun hZero => hPos (UInt8.toNat_inj.mp hZero)
  rw [UInt8.toNat_sub_of_le _ _ (by rw [UInt8.le_iff_toNat_le]; exact Nat.pos_of_ne_zero hNat)]
  exact Nat.lt_of_le_of_lt (Nat.sub_le _ _) h

theorem seven_lt_eight : (8 : UInt8) - 1 < 8 := by decide

/-- The bit of a byte above so many others. -/
def bitAt (byte left : UInt8) : UInt8 := (byte >>> left) &&& 0x01

def readBit (self : BitsReader) : Except BitErrorValue (UInt8 × BitsReader) :=
  if h : self.curBitLeft = 0 then
    match self.reader.readU8 with
    | .error value => .error (.bytesReadError value)
    | .ok (byte, reader) => .ok (bitAt byte (8 - 1), ⟨reader, byte, 8 - 1, seven_lt_eight⟩)
  else
    .ok (bitAt self.curByte (self.curBitLeft - 1),
      { self with
        curBitLeft := self.curBitLeft - 1
        curBitLeft_lt := sub_one_lt h self.curBitLeft_lt })

/-- The loop of `read_n_bits`, from a result on. -/
def readNBitsFrom : Nat → UInt64 → BitsReader → Except BitErrorValue (UInt64 × BitsReader)
  | 0, result, self => .ok (result, self)
  | n + 1, result, self =>
    match self.readBit with
    | .error e => .error e
    | .ok (curBit, self) => readNBitsFrom n ((result <<< 1) ||| curBit.toUInt64) self

def readNBits (self : BitsReader) (n : Nat) : Except BitErrorValue (UInt64 × BitsReader) :=
  readNBitsFrom n 0 self

/-! ### The bits that are left -/

def bits (self : BitsReader) : List Bool :=
  toBits self.curBitLeft.toNat self.curByte.toNat ++
    self.reader.buffer.flatMap fun byte => toBits 8 byte.toNat

theorem length_bits (self : BitsReader) : self.bits.length = self.len := by
  have hBuffer : (self.reader.buffer.flatMap fun byte => toBits 8 byte.toNat).length =
      self.reader.buffer.length * 8 := by
    induction self.reader.buffer with
    | nil => rfl
    | cons byte buffer ih =>
      rw [List.flatMap_cons, List.length_append, length_toBits, ih, List.length_cons]
      ring
  rw [bits, List.length_append, length_toBits, hBuffer, len, BytesReader.len, Nat.add_comm]

theorem bitAt_eq {byte left : UInt8} (h : left < 8) :
    bitAt byte left = if byte.toNat.testBit left.toNat then 1 else 0 := by
  have hLeft : left.toNat < 8 := UInt8.lt_iff_toNat_lt.mp h
  have hNat : (bitAt byte left).toNat = (byte.toNat.testBit left.toNat).toNat := by
    rw [bitAt, UInt8.toNat_and, UInt8.toNat_shiftRight, Nat.mod_eq_of_lt hLeft, Nat.toNat_testBit,
      Nat.shiftRight_eq_div_pow]
    exact Nat.and_one_is_mod _
  rw [← UInt8.toNat_inj, hNat]
  cases byte.toNat.testBit left.toNat with
  | true => rfl
  | false => rfl

/-- A bit is there, or none is left. -/
theorem readBit_cases (self : BitsReader) :
    (self.bits = [] ∧ self.readBit = .error (.bytesReadError .notEnoughBytes)) ∨
      ∃ b self', self.bits = b :: self'.bits ∧ self.readBit = .ok (if b then 1 else 0, self') := by
  obtain ⟨⟨buffer⟩, curByte, curBitLeft, hLeft⟩ := self
  by_cases hZero : curBitLeft = 0
  · subst hZero
    cases buffer with
    | nil => exact .inl ⟨rfl, rfl⟩
    | cons byte buffer =>
      refine .inr ⟨byte.toNat.testBit 7, ⟨⟨buffer⟩, byte, 7, seven_lt_eight⟩, ?_, ?_⟩
      · rw [bits, bits, List.flatMap_cons]
        rfl
      · rw [readBit, dif_pos rfl, BytesReader.readU8_cons]
        dsimp only
        rw [bitAt_eq seven_lt_eight]
        rfl
  · have hNext : curBitLeft.toNat = (curBitLeft - 1).toNat + 1 := by
      have hNat : curBitLeft.toNat ≠ 0 := fun hNone => hZero (UInt8.toNat_inj.mp hNone)
      rw [UInt8.toNat_sub_of_le _ _ (by rw [UInt8.le_iff_toNat_le]; exact Nat.pos_of_ne_zero hNat)]
      exact (Nat.sub_add_cancel (Nat.pos_of_ne_zero hNat)).symm
    refine .inr ⟨curByte.toNat.testBit (curBitLeft - 1).toNat,
      ⟨⟨buffer⟩, curByte, curBitLeft - 1, sub_one_lt hZero hLeft⟩, ?_, ?_⟩
    · rw [bits, bits, hNext, toBits, List.cons_append]
    · rw [readBit, dif_neg hZero]
      dsimp only
      rw [bitAt_eq (sub_one_lt hZero hLeft)]

theorem readBit_nil {self : BitsReader} (h : self.bits = []) :
    self.readBit = .error (.bytesReadError .notEnoughBytes) := by
  rcases readBit_cases self with ⟨-, hRead⟩ | ⟨b, self', hBits, -⟩
  · exact hRead
  · rw [h] at hBits
    cases hBits

theorem readBit_cons {self : BitsReader} {b : Bool} {rest : List Bool} (h : self.bits = b :: rest) :
    ∃ self', self'.bits = rest ∧ self.readBit = .ok (if b then 1 else 0, self') := by
  rcases readBit_cases self with ⟨hBits, -⟩ | ⟨b', self', hBits, hRead⟩
  · rw [h] at hBits
    cases hBits
  · rw [h] at hBits
    cases hBits
    exact ⟨self', rfl, hRead⟩

theorem toNat_shift_bit {result : UInt64} {b : Bool} (h : 2 * result.toNat + b.toNat < 2 ^ 64) :
    ((result <<< 1) ||| (if b then 1 else 0 : UInt8).toUInt64).toNat = 2 * result.toNat + b.toNat := by
  have hShift : (result <<< 1).toNat = result.toNat <<< 1 := by
    rw [UInt64.toNat_shiftLeft, Nat.mod_eq_of_lt]
    · rfl
    · rw [Nat.shiftLeft_eq]
      change result.toNat * 2 ^ 1 < 2 ^ 64
      omega
  have hBit : (if b then 1 else 0 : UInt8).toUInt64.toNat = b.toNat := by
    cases b with
    | true => rfl
    | false => rfl
  have hOne : b.toNat < 2 ^ 1 := Bool.toNat_lt b
  rw [UInt64.toNat_or, hShift, hBit, ← Nat.shiftLeft_add_eq_or_of_lt hOne, Nat.shiftLeft_eq, pow_one,
    Nat.mul_comm]

/-- The loop takes so many bits into its result, when the result has room for them. -/
theorem readNBitsFrom_append {self : BitsReader} {taken rest : List Bool}
    (h : self.bits = taken ++ rest) {result : UInt64}
    (hRoom : appendBits result.toNat taken < 2 ^ 64) :
    ∃ self', self'.bits = rest ∧ readNBitsFrom taken.length result self =
      .ok (UInt64.ofNat (appendBits result.toNat taken), self') := by
  induction taken generalizing self result with
  | nil =>
    refine ⟨self, h, ?_⟩
    rw [appendBits, ofBits, List.length_nil, pow_zero, Nat.mul_one, Nat.add_zero, UInt64.ofNat_toNat]
    rfl
  | cons b taken ih =>
    obtain ⟨self', hBits, hRead⟩ := readBit_cons h
    rw [appendBits_cons] at hRoom
    have hStep := toNat_shift_bit (Nat.lt_of_le_of_lt (le_appendBits _ taken) hRoom)
    rw [← hStep] at hRoom
    obtain ⟨self2, hBits2, hRead2⟩ := ih hBits hRoom
    refine ⟨self2, hBits2, ?_⟩
    rw [List.length_cons, readNBitsFrom, hRead]
    dsimp only
    rw [hRead2, hStep, appendBits_cons]

theorem readNBitsFrom_short {self : BitsReader} {n : Nat} (h : self.bits.length < n) (result : UInt64) :
    ∃ e, readNBitsFrom n result self = .error e := by
  induction n generalizing self result with
  | zero => exact absurd h (Nat.not_lt_zero _)
  | succ n ih =>
    rcases readBit_cases self with ⟨-, hRead⟩ | ⟨b, self', hBits, hRead⟩
    · exact ⟨_, by rw [readNBitsFrom, hRead]⟩
    · rw [hBits, List.length_cons] at h
      rw [readNBitsFrom, hRead]
      exact ih (Nat.lt_of_succ_lt_succ h) _

end BitsReader

end Xiu.Bytesio
