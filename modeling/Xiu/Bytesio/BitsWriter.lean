import Xiu.Bytesio.BitsReader
import Xiu.Bytesio.Writer

/-! The bit writer of `library/bytesio`: bits fill a byte from the most significant one on, and a full
byte goes to a byte writer. -/

namespace Xiu.Bytesio

open ProofKit

/-- An error, or a panic: a shift by the width of its type or more, or a difference below zero. -/
inductive BitWriteFault where
  | tooBig
  | panic
  deriving DecidableEq

/-- Of the byte at hand, so many bits are written. -/
structure BitsWriter where
  writer : BytesWriter
  curByte : UInt8
  curBitNum : Nat
  curBitNum_le : curBitNum ≤ 8

namespace BitsWriter

def new (writer : BytesWriter) : BitsWriter := ⟨writer, 0, 0, Nat.zero_le 8⟩

def flush (self : BitsWriter) : BitsWriter :=
  if self.curBitNum = 8 then new (self.writer.writeU8 self.curByte) else self

/-- `b << (7 - cur_bit_num)` panics when all bits of the byte are written. -/
def writeBit (self : BitsWriter) (b : UInt8) : Except BitWriteFault BitsWriter :=
  if h : self.curBitNum = 8 then .error .panic
  else
    let curByte := self.curByte ||| (b <<< UInt8.ofNat (7 - self.curBitNum))
    .ok (flush
      { self with
        curByte
        curBitNum := self.curBitNum + 1
        curBitNum_le := Nat.lt_of_le_of_ne self.curBitNum_le h })

/-- `<<` and `>>` of a 64-bit number. -/
def shiftLeft (data : UInt64) (n : Nat) : Except BitWriteFault UInt64 :=
  if n < 64 then .ok (data <<< UInt64.ofNat n) else .error .panic

def shiftRight (data : UInt64) (n : Nat) : Except BitWriteFault UInt64 :=
  if n < 64 then .ok (data >>> UInt64.ofNat n) else .error .panic

/-- The loop of `write_n_bits`: a whole byte as long as more than eight bits are left. -/
def writeRest (self : BitsWriter) (data : UInt64) (bitNum : Nat) : BitsWriter :=
  if bitNum = 0 then self
  else
    let curByte := (data >>> 56).toUInt8
    if h : bitNum > 8 then
      writeRest (flush ⟨self.writer, curByte, 8, Nat.le_refl 8⟩) (data <<< 8) (bitNum - 8)
    else ⟨self.writer, curByte, bitNum, Nat.not_lt.mp h⟩
termination_by bitNum

theorem sum_le {n bitNum : Nat} (h : ¬8 - n ≤ bitNum) : n + bitNum ≤ 8 := by omega

def writeNBits (self : BitsWriter) (data : UInt64) (bitNum : Nat) :
    Except BitWriteFault BitsWriter :=
  if bitNum > 64 then .error .tooBig
  else do
    let data ← shiftLeft data (64 - bitNum)
    let first ← shiftRight data (56 + self.curBitNum)
    let curByte := self.curByte ||| first.toUInt8
    let leftBitNum := 8 - self.curBitNum
    if h : leftBitNum ≤ bitNum then
      return writeRest (flush ⟨self.writer, curByte, 8, Nat.le_refl 8⟩)
        (data <<< UInt64.ofNat leftBitNum) (bitNum - leftBitNum)
    else
      return { self with
        curByte
        curBitNum := self.curBitNum + bitNum
        curBitNum_le := sum_le h }

def bitsAligment8 (self : BitsWriter) : BitsWriter :=
  flush { self with curBitNum := 8, curBitNum_le := Nat.le_refl 8 }

/-! ### The bits that are written -/

/-- The bits of the byte at hand are those of `v`. -/
structure Holds (w : BitsWriter) (v : Nat) : Prop where
  lt : v < 2 ^ w.curBitNum
  curByte : w.curByte.toNat = v * 2 ^ (8 - w.curBitNum)

/-- The bits of the bytes that are full. -/
def fullBits (self : BitsWriter) : List Bool :=
  self.writer.bytes.flatMap fun byte => toBits 8 byte.toNat

/-- All bits, when those of the byte at hand are those of `v`. -/
def bits (self : BitsWriter) (v : Nat) : List Bool := self.fullBits ++ toBits self.curBitNum v

theorem fullBits_writeU8 (writer : BytesWriter) (byte : UInt8) :
    (new (writer.writeU8 byte)).fullBits = (new writer).fullBits ++ toBits 8 byte.toNat := by
  simp [fullBits, new, BytesWriter.writeU8]

theorem length_fullBits (self : BitsWriter) : self.fullBits.length = 8 * self.writer.bytes.length := by
  unfold fullBits
  induction self.writer.bytes with
  | nil => rfl
  | cons byte bytes ih =>
    rw [List.flatMap_cons, List.length_append, length_toBits, ih, List.length_cons]
    ring

theorem holds_new (writer : BytesWriter) : (new writer).Holds 0 := ⟨Nat.one_pos, (Nat.zero_mul _).symm⟩

theorem toNat_ofNat_mod {k : Nat} (hk : k < 64) : (UInt64.ofNat k).toNat % 64 = k := by
  rw [UInt64.toNat_ofNat', Nat.mod_eq_of_lt (a := k) (by omega), Nat.mod_eq_of_lt hk]

theorem toNat_shiftRight (data : UInt64) {k : Nat} (hk : k < 64) :
    (data >>> UInt64.ofNat k).toNat = data.toNat / 2 ^ k := by
  rw [UInt64.toNat_shiftRight, toNat_ofNat_mod hk, Nat.shiftRight_eq_div_pow]

/-- Bits at the top of a 64-bit number: the first ones are shifted down, the others up. -/
theorem shifts {data : UInt64} {k m hi lo : Nat} (hPos : 0 < k) (hk : k < 64) (hkm : k + m ≤ 64)
    (hlo : lo < 2 ^ m)
    (hData : data.toNat = (hi * 2 ^ m + lo) * 2 ^ (64 - (k + m))) :
    (data >>> UInt64.ofNat (64 - k)).toNat = hi ∧
      (data <<< UInt64.ofNat k).toNat = lo * 2 ^ (64 - m) := by
  have hLow : lo * 2 ^ (64 - (k + m)) < 2 ^ (64 - k) := by
    calc lo * 2 ^ (64 - (k + m)) < 2 ^ m * 2 ^ (64 - (k + m)) :=
          Nat.mul_lt_mul_of_pos_right hlo (Nat.two_pow_pos _)
      _ = 2 ^ (64 - k) := by rw [← pow_add]; congr 1; omega
  have hSplit : data.toNat = 2 ^ (64 - k) * hi + lo * 2 ^ (64 - (k + m)) := by
    have hPow : 2 ^ (64 - k) = 2 ^ m * 2 ^ (64 - (k + m)) := by rw [← pow_add]; congr 1; omega
    rw [hData, hPow]
    ring
  constructor
  · rw [toNat_shiftRight data (by omega), hSplit, Nat.mul_add_div (Nat.two_pow_pos _),
      Nat.div_eq_of_lt hLow, Nat.add_zero]
  · have hRest : lo * 2 ^ (64 - m) < 2 ^ 64 := by
      calc lo * 2 ^ (64 - m) < 2 ^ m * 2 ^ (64 - m) :=
            Nat.mul_lt_mul_of_pos_right hlo (Nat.two_pow_pos _)
        _ = 2 ^ 64 := by rw [← pow_add]; congr 1; omega
    have hTop : 2 ^ (64 - k) * 2 ^ k = 2 ^ 64 := by rw [← pow_add]; congr 1; omega
    have hUp : 2 ^ (64 - (k + m)) * 2 ^ k = 2 ^ (64 - m) := by rw [← pow_add]; congr 1; omega
    have hAll : data.toNat * 2 ^ k = 2 ^ 64 * hi + lo * 2 ^ (64 - m) := by
      rw [hSplit, ← hTop, ← hUp]
      ring
    rw [UInt64.toNat_shiftLeft, toNat_ofNat_mod hk, Nat.shiftLeft_eq, hAll, Nat.mul_add_mod,
      Nat.mod_eq_of_lt hRest]

/-- Bits for the byte at hand, which has room for them. -/
theorem holds_fill {self : BitsWriter} {v : Nat} (h : self.Holds v) {n d : Nat} (hd : d < 2 ^ n)
    (hRoom : self.curBitNum + n ≤ 8) {more : UInt8}
    (hMore : more.toNat = d * 2 ^ (8 - (self.curBitNum + n))) :
    v * 2 ^ n + d < 2 ^ (self.curBitNum + n) ∧
      (self.curByte ||| more).toNat = (v * 2 ^ n + d) * 2 ^ (8 - (self.curBitNum + n)) := by
  have hPow : 8 - self.curBitNum = n + (8 - (self.curBitNum + n)) := by omega
  have hLess : more.toNat < 2 ^ (8 - self.curBitNum) := by
    rw [hMore, hPow, pow_add]
    exact Nat.mul_lt_mul_of_pos_right hd (Nat.two_pow_pos _)
  refine ⟨?_, ?_⟩
  · calc v * 2 ^ n + d < (v + 1) * 2 ^ n := by rw [Nat.add_mul, Nat.one_mul]; omega
      _ ≤ 2 ^ self.curBitNum * 2 ^ n := Nat.mul_le_mul_right _ h.lt
      _ = 2 ^ (self.curBitNum + n) := (pow_add _ _ _).symm
  · rw [UInt8.toNat_or, h.curByte, ← Nat.shiftLeft_eq, ← Nat.shiftLeft_add_eq_or_of_lt hLess, hMore,
      Nat.shiftLeft_eq, hPow, pow_add]
    ring

theorem bits_fill {self w : BitsWriter} {v n d : Nat} (hd : d < 2 ^ n)
    (hBytes : w.fullBits = self.fullBits) (hNum : w.curBitNum = self.curBitNum + n) :
    w.bits (v * 2 ^ n + d) = self.bits v ++ toBits n d := by
  rw [bits, bits, hBytes, hNum, toBits_append hd, List.append_assoc]

theorem holds_writeBit {self : BitsWriter} {v : Nat} (h : self.Holds v) (hRoom : self.curBitNum < 8)
    {b : UInt8} (hb : b.toNat < 2) :
    ∃ self' v', self.writeBit b = .ok self' ∧ self'.Holds v' ∧
      self'.bits v' = self.bits v ++ toBits 1 b.toNat ∧ self'.curBitNum < 8 := by
  have hSeven : (UInt8.ofNat (7 - self.curBitNum)).toNat = 7 - self.curBitNum := by
    rw [UInt8.toNat_ofNat', Nat.mod_eq_of_lt (by omega)]
  have hMore : (b <<< UInt8.ofNat (7 - self.curBitNum)).toNat =
      b.toNat * 2 ^ (8 - (self.curBitNum + 1)) := by
    have hBound : b.toNat * 2 ^ (7 - self.curBitNum) < 2 ^ 8 := by
      calc b.toNat * 2 ^ (7 - self.curBitNum) < 2 * 2 ^ (7 - self.curBitNum) :=
            Nat.mul_lt_mul_of_pos_right hb (Nat.two_pow_pos _)
        _ = 2 ^ (7 - self.curBitNum + 1) := by rw [pow_succ, Nat.mul_comm]
        _ ≤ 2 ^ 8 := Nat.pow_le_pow_right (by decide) (by omega)
    rw [UInt8.toNat_shiftLeft, hSeven, Nat.mod_eq_of_lt (by omega : 7 - self.curBitNum < 8),
      Nat.shiftLeft_eq, Nat.mod_eq_of_lt hBound, Nat.add_comm self.curBitNum, ← Nat.sub_sub]
  obtain ⟨hLt, hByte⟩ := holds_fill h (n := 1) hb hRoom hMore
  rw [writeBit, dif_neg (Nat.ne_of_lt hRoom)]
  by_cases hFull : self.curBitNum + 1 = 8
  · have hWhole : (self.curByte ||| (b <<< UInt8.ofNat (7 - self.curBitNum))).toNat =
        v * 2 ^ 1 + b.toNat := by
      rw [hByte, hFull, Nat.sub_self, pow_zero, Nat.mul_one]
    refine ⟨_, 0, rfl, ?_⟩
    rw [flush, if_pos hFull]
    refine ⟨holds_new _, ?_, Nat.zero_lt_succ 7⟩
    have hBits : bits ⟨self.writer, 0, 8, Nat.le_refl 8⟩ (v * 2 ^ 1 + b.toNat) =
        self.bits v ++ toBits 1 b.toNat := bits_fill hb rfl hFull.symm
    rw [← hBits, bits, bits, fullBits_writeU8, hWhole]
    exact List.append_nil _
  · refine ⟨_, v * 2 ^ 1 + b.toNat, rfl, ?_⟩
    rw [flush, if_neg hFull]
    exact ⟨⟨hLt, hByte⟩, bits_fill hb rfl rfl, by change self.curBitNum + 1 < 8; omega⟩

theorem toNat_toUInt8 {data : UInt64} (h : data.toNat < 2 ^ 8) : data.toUInt8.toNat = data.toNat := by
  rw [UInt64.toNat_toUInt8, Nat.mod_eq_of_lt h]

/-- The loop, from the beginning of a byte on; it leaves the last byte full when the bits end with it. -/
theorem writeRest_spec {r : Nat} (hr : r ≤ 64) (writer : BytesWriter) {data : UInt64} {d : Nat}
    (hd : d < 2 ^ r) (hData : data.toNat = d * 2 ^ (64 - r)) :
    ∃ v, (writeRest (new writer) data r).Holds v ∧
      (writeRest (new writer) data r).bits v = (new writer).fullBits ++ toBits r d ∧
      ((writeRest (new writer) data r).curBitNum = 8 ↔ r ≠ 0 ∧ r % 8 = 0) := by
  induction r using Nat.strongRecOn generalizing writer data d with
  | ind r ih =>
    rw [writeRest]
    by_cases hZero : r = 0
    · subst hZero
      rw [if_pos rfl]
      exact ⟨0, holds_new writer, rfl, by simp [new]⟩
    · rw [if_neg hZero]
      by_cases hMore : r > 8
      · obtain ⟨m, rfl⟩ := Nat.exists_eq_add_of_le (Nat.le_of_lt hMore)
        have hSplit : d = d / 2 ^ m * 2 ^ m + d % 2 ^ m := (Nat.div_add_mod' d (2 ^ m)).symm
        have hHigh : d / 2 ^ m < 2 ^ 8 := by
          rw [Nat.div_lt_iff_lt_mul (Nat.two_pow_pos m), ← pow_add]
          exact hd
        have hLow : d % 2 ^ m < 2 ^ m := Nat.mod_lt d (Nat.two_pow_pos m)
        rw [hSplit] at hData
        have hShifts := shifts (by decide) (by decide) hr hLow hData
        have hTop : (data >>> 56).toNat = d / 2 ^ m := hShifts.1
        have hRest : (data <<< 8).toNat = d % 2 ^ m * 2 ^ (64 - m) := hShifts.2
        rw [← hTop] at hHigh
        obtain ⟨v, hHolds, hBits, hEight⟩ :=
          ih m (by omega) (by omega) (writer.writeU8 (data >>> 56).toUInt8) hLow hRest
        rw [dif_pos hMore, Nat.add_sub_cancel_left]
        refine ⟨v, hHolds, ?_, hEight.trans (by omega)⟩
        rw [fullBits_writeU8, toNat_toUInt8 hHigh, hTop, List.append_assoc,
          ← toBits_append hLow, ← hSplit] at hBits
        exact hBits
      · have hr8 : r ≤ 8 := Nat.not_lt.mp hMore
        rw [dif_neg hMore]
        have hPow : 2 ^ (64 - r) = 2 ^ (8 - r) * 2 ^ 56 := by rw [← pow_add]; congr 1; omega
        have hTop : (data >>> 56).toNat = d * 2 ^ (8 - r) := by
          have hShift : (data >>> 56).toNat = data.toNat / 2 ^ 56 := toNat_shiftRight data (by decide)
          rw [hShift, hData, hPow, ← Nat.mul_assoc, Nat.mul_div_cancel _ (Nat.two_pow_pos 56)]
        have hLess : d * 2 ^ (8 - r) < 2 ^ 8 := by
          calc d * 2 ^ (8 - r) < 2 ^ r * 2 ^ (8 - r) :=
                Nat.mul_lt_mul_of_pos_right hd (Nat.two_pow_pos _)
            _ = 2 ^ 8 := by rw [← pow_add]; congr 1; omega
        rw [← hTop] at hLess
        exact ⟨d, ⟨hd, (toNat_toUInt8 hLess).trans hTop⟩, rfl, by dsimp only; omega⟩

/-- The bits go on a second byte and end with a byte. -/
def EndsByte (position n : Nat) : Prop := 16 ≤ position % 8 + n ∧ (position + n) % 8 = 0

theorem holds_writeNBits {self : BitsWriter} {v : Nat} (h : self.Holds v) (hRoom : self.curBitNum < 8)
    {data : UInt64} {n : Nat} (hPos : 0 < n) (hn : n ≤ 64) (hd : data.toNat < 2 ^ n) :
    ∃ self' v', self.writeNBits data n = .ok self' ∧ self'.Holds v' ∧
      self'.bits v' = self.bits v ++ toBits n data.toNat ∧
      (self'.curBitNum = 8 ↔ EndsByte self.curBitNum n) := by
  have hLeft : shiftLeft data (64 - n) = .ok (data <<< UInt64.ofNat (64 - n)) := if_pos (by omega)
  have hRight (data : UInt64) : shiftRight data (56 + self.curBitNum) =
      .ok (data >>> UInt64.ofNat (56 + self.curBitNum)) := if_pos (by omega)
  -- the bits at the top
  have hTop : (data <<< UInt64.ofNat (64 - n)).toNat = data.toNat * 2 ^ (64 - n) := by
    have hFits : data.toNat * 2 ^ (64 - n) < 2 ^ 64 := by
      calc data.toNat * 2 ^ (64 - n) < 2 ^ n * 2 ^ (64 - n) :=
            Nat.mul_lt_mul_of_pos_right hd (Nat.two_pow_pos _)
        _ = 2 ^ 64 := by rw [← pow_add]; congr 1; omega
    rw [UInt64.toNat_shiftLeft, toNat_ofNat_mod (by omega), Nat.shiftLeft_eq, Nat.mod_eq_of_lt hFits]
  simp only [writeNBits, if_neg (Nat.not_lt.mpr hn), hLeft, hRight, bind, Except.bind]
  by_cases hFull : 8 - self.curBitNum ≤ n
  · obtain ⟨m, rfl⟩ := Nat.exists_eq_add_of_le hFull
    have hSplit : data.toNat = data.toNat / 2 ^ m * 2 ^ m + data.toNat % 2 ^ m :=
      (Nat.div_add_mod' _ _).symm
    have hHigh : data.toNat / 2 ^ m < 2 ^ (8 - self.curBitNum) := by
      rw [Nat.div_lt_iff_lt_mul (Nat.two_pow_pos m), ← pow_add]
      exact hd
    have hLow : data.toNat % 2 ^ m < 2 ^ m := Nat.mod_lt _ (Nat.two_pow_pos m)
    rw [hSplit] at hTop
    obtain ⟨hFirst, hRest⟩ := shifts (by omega) (by omega) hn hLow hTop
    have hShift : 56 + self.curBitNum = 64 - (8 - self.curBitNum) := by omega
    have hByteFull : self.curBitNum + (8 - self.curBitNum) = 8 := by omega
    have hEight : 2 ^ (8 - self.curBitNum) ≤ 2 ^ 8 := Nat.pow_le_pow_right (by decide) (Nat.sub_le _ _)
    have hMore := toNat_toUInt8 (hFirst.trans_lt (hHigh.trans_le hEight))
    rw [hFirst] at hMore
    obtain ⟨-, hByte⟩ := holds_fill h hHigh (Nat.le_of_eq hByteFull)
      (by rw [hMore, hByteFull, Nat.sub_self, pow_zero, Nat.mul_one])
    rw [hByteFull, Nat.sub_self, pow_zero, Nat.mul_one] at hByte
    rw [dif_pos hFull, Nat.add_sub_cancel_left, hShift]
    obtain ⟨v', hHolds, hBits, hEnd⟩ := writeRest_spec (by omega) (self.writer.writeU8
      (self.curByte ||| (data <<< UInt64.ofNat (64 - (8 - self.curBitNum + m)) >>>
        UInt64.ofNat (64 - (8 - self.curBitNum))).toUInt8)) hLow hRest
    refine ⟨_, v', rfl, hHolds, hBits.trans ?_, hEnd.trans ?_⟩
    · have hFill : bits ⟨self.writer, 0, 8, Nat.le_refl 8⟩
          (v * 2 ^ (8 - self.curBitNum) + data.toNat / 2 ^ m) =
            self.bits v ++ toBits (8 - self.curBitNum) (data.toNat / 2 ^ m) :=
        bits_fill hHigh rfl hByteFull.symm
      rw [fullBits_writeU8, hByte]
      refine (congrArg (· ++ _) hFill).trans ?_
      rw [List.append_assoc, ← toBits_append hLow, ← hSplit]
    · rw [EndsByte, Nat.mod_eq_of_lt hRoom]
      omega
  · have hFits : self.curBitNum + n ≤ 8 := by omega
    have hFirst : (data <<< UInt64.ofNat (64 - n) >>> UInt64.ofNat (56 + self.curBitNum)).toNat =
        data.toNat * 2 ^ (8 - (self.curBitNum + n)) := by
      have hPow : 2 ^ (64 - n) = 2 ^ (8 - (self.curBitNum + n)) * 2 ^ (56 + self.curBitNum) := by
        rw [← pow_add]
        congr 1
        omega
      rw [toNat_shiftRight _ (by omega), hTop, hPow, ← Nat.mul_assoc,
        Nat.mul_div_cancel _ (Nat.two_pow_pos _)]
    have hLess : data.toNat * 2 ^ (8 - (self.curBitNum + n)) < 2 ^ 8 := by
      calc data.toNat * 2 ^ (8 - (self.curBitNum + n)) < 2 ^ n * 2 ^ (8 - (self.curBitNum + n)) :=
            Nat.mul_lt_mul_of_pos_right hd (Nat.two_pow_pos _)
        _ = 2 ^ (n + (8 - (self.curBitNum + n))) := (pow_add _ _ _).symm
        _ ≤ 2 ^ 8 := Nat.pow_le_pow_right (by decide) (by omega)
    obtain ⟨hLt, hByte⟩ := holds_fill h hd hFits ((toNat_toUInt8 (hFirst.trans_lt hLess)).trans hFirst)
    rw [dif_neg hFull]
    refine ⟨_, v * 2 ^ n + data.toNat, rfl, ⟨hLt, hByte⟩, bits_fill hd rfl rfl, ?_⟩
    rw [EndsByte, Nat.mod_eq_of_lt hRoom]
    dsimp only
    omega

/-- The byte at hand is padded with zeros. -/
theorem fullBits_bitsAligment8 {self : BitsWriter} {v : Nat} (h : self.Holds v) :
    (bitsAligment8 self).fullBits = self.bits v ++ toBits (8 - self.curBitNum) 0 := by
  have hNum : self.curBitNum + (8 - self.curBitNum) = 8 := Nat.add_sub_cancel' self.curBitNum_le
  have hByte := toBits_append (j := self.curBitNum) (x := v) (Nat.two_pow_pos (8 - self.curBitNum))
  rw [hNum, Nat.add_zero, ← h.curByte] at hByte
  have hFlush : (bitsAligment8 self).fullBits = self.fullBits ++ toBits 8 self.curByte.toNat :=
    fullBits_writeU8 self.writer self.curByte
  rw [hFlush, hByte, bits, List.append_assoc]

/-! ### Calls in a row -/

/-- A call that writes. -/
inductive Write where
  | bit (b : UInt8)
  | bits (data : UInt64) (bitNum : Nat)

namespace Write

def run (self : BitsWriter) : Write → Except BitWriteFault BitsWriter
  | bit b => self.writeBit b
  | bits data bitNum => self.writeNBits data bitNum

def size : Write → Nat
  | bit _ => 1
  | bits _ bitNum => bitNum

def value : Write → UInt64
  | bit b => b.toUInt64
  | bits data _ => data

/-- The value has no more bits than are written. -/
def Fits (write : Write) : Prop := write.size ≤ 64 ∧ write.value.toNat < 2 ^ write.size

instance (write : Write) : Decidable write.Fits :=
  inferInstanceAs (Decidable (write.size ≤ 64 ∧ write.value.toNat < 2 ^ write.size))

theorem run_zero {write : Write} (hZero : write.size = 0) (self : BitsWriter) :
    write.run self = .error .panic := by
  cases write with
  | bit b => cases hZero
  | bits data bitNum =>
    obtain rfl : bitNum = 0 := hZero
    rfl

/-- A byte that is full is in the way of the next call. -/
theorem run_full {write : Write} (hFits : write.Fits) {self : BitsWriter} (hFull : self.curBitNum = 8) :
    write.run self = .error .panic := by
  cases write with
  | bit b => exact dif_pos hFull
  | bits data bitNum =>
    have hSmall : ¬bitNum > 64 := Nat.not_lt.mpr hFits.1
    have hRight (data : UInt64) : shiftRight data (56 + self.curBitNum) = .error .panic := by
      rw [hFull]
      rfl
    by_cases hZero : bitNum = 0
    · subst hZero
      rfl
    · have hLeft : shiftLeft data (64 - bitNum) = .ok (data <<< UInt64.ofNat (64 - bitNum)) :=
        if_pos (by omega)
      simp only [run, writeNBits, if_neg hSmall, hLeft, bind, Except.bind, hRight]

theorem run_spec {write : Write} (hFits : write.Fits) (hSize : write.size ≠ 0) {self : BitsWriter}
    {v : Nat} (h : self.Holds v) (hRoom : self.curBitNum < 8) :
    ∃ self' v', write.run self = .ok self' ∧ self'.Holds v' ∧
      self'.bits v' = self.bits v ++ toBits write.size write.value.toNat ∧
      (self'.curBitNum = 8 ↔ EndsByte self.curBitNum write.size) := by
  cases write with
  | bit b =>
    have hb : b.toNat < 2 := by simpa [value, size] using hFits.2
    obtain ⟨self', v', hRun, hHolds, hBits, hLess⟩ := holds_writeBit h hRoom hb
    refine ⟨self', v', hRun, hHolds, ?_, iff_of_false (Nat.ne_of_lt hLess) ?_⟩
    · rw [hBits, value, size, UInt8.toNat_toUInt64]
    · rintro ⟨hLong, -⟩
      rw [Nat.mod_eq_of_lt hRoom, size] at hLong
      omega
  | bits data bitNum => exact holds_writeNBits h hRoom (Nat.pos_of_ne_zero hSize) hFits.1 hFits.2

end Write

def writeAll (self : BitsWriter) (writes : List Write) : Except BitWriteFault BitsWriter :=
  writes.foldlM Write.run self

/-- Reads numbers of these sizes. -/
def readAll : List Nat → BitsReader → Except BitErrorValue (List UInt64)
  | [], _ => .ok []
  | n :: sizes, reader =>
    match reader.readNBits n with
    | .error e => .error e
    | .ok (value, reader) => (readAll sizes reader).map (value :: ·)

/-- All calls return, and what they have written is read back. -/
def Agrees (writes : List Write) : Prop :=
  ∃ w, writeAll (new ⟨[]⟩) writes = .ok w ∧
    readAll (writes.map (·.size)) (.new ⟨(bitsAligment8 w).writer.bytes⟩) = .ok (writes.map (·.value))

/-- Something is written by each call, and no call but the last one goes on a second byte and ends with
a byte, when so many bits have been written before. -/
def Steady : Nat → List Write → Prop
  | _, [] => True
  | position, write :: writes =>
    write.size ≠ 0 ∧ (writes ≠ [] → ¬EndsByte position write.size) ∧
      Steady (position + write.size) writes

theorem endsByte_mod (position n : Nat) : EndsByte (position % 8) n ↔ EndsByte position n := by
  unfold EndsByte
  omega

theorem curBitNum_mod (self : BitsWriter) (v : Nat) :
    self.curBitNum % 8 = (self.bits v).length % 8 := by
  rw [bits, List.length_append, length_fullBits, length_toBits]
  omega

/-- Calls that are steady append their bits. -/
theorem writeAll_steady {writes : List Write} (hFits : ∀ write ∈ writes, write.Fits)
    {self : BitsWriter} {v : Nat} (h : self.Holds v) (hRoom : writes ≠ [] → self.curBitNum < 8)
    (hSteady : Steady (self.bits v).length writes) :
    ∃ self' v', writeAll self writes = .ok self' ∧ self'.Holds v' ∧
      self'.bits v' = self.bits v ++ writes.flatMap fun write => toBits write.size write.value.toNat := by
  induction writes generalizing self v with
  | nil => exact ⟨self, v, rfl, h, (List.append_nil _).symm⟩
  | cons write writes ih =>
    obtain ⟨hSize, hNext, hRest⟩ := hSteady
    have hLess := hRoom (List.cons_ne_nil _ _)
    obtain ⟨w, v', hRun, hHolds, hBits, hEight⟩ := Write.run_spec (hFits write List.mem_cons_self) hSize h hLess
    have hMod := curBitNum_mod self v
    rw [Nat.mod_eq_of_lt hLess] at hMod
    rw [hMod, endsByte_mod] at hEight
    have hLength : (w.bits v').length = (self.bits v).length + write.size := by
      rw [hBits, List.length_append, length_toBits]
    rw [← hLength] at hRest
    obtain ⟨w', v2, hAll, hHolds', hBits'⟩ := ih (fun write' hMem => hFits write' (List.mem_cons_of_mem _ hMem))
      hHolds (fun hMore => Nat.lt_of_le_of_ne w.curBitNum_le fun hEq => hNext hMore (hEight.mp hEq)) hRest
    refine ⟨w', v2, ?_, hHolds', ?_⟩
    · rw [writeAll, List.foldlM_cons, hRun]
      exact hAll
    · rw [hBits', hBits, List.flatMap_cons, List.append_assoc]

/-- Other calls do not all return. -/
theorem writeAll_unsteady {writes : List Write} (hFits : ∀ write ∈ writes, write.Fits)
    {self : BitsWriter} {v : Nat} (h : self.Holds v) (hRoom : self.curBitNum < 8)
    (hSteady : ¬Steady (self.bits v).length writes) : writeAll self writes = .error .panic := by
  induction writes generalizing self v with
  | nil => exact absurd trivial hSteady
  | cons write writes ih =>
    have hFits' (write') (hMem : write' ∈ writes) := hFits write' (List.mem_cons_of_mem write hMem)
    rw [writeAll, List.foldlM_cons]
    by_cases hSize : write.size = 0
    · rw [Write.run_zero hSize]
      rfl
    · obtain ⟨w, v', hRun, hHolds, hBits, hEight⟩ :=
        Write.run_spec (hFits write List.mem_cons_self) hSize h hRoom
      have hMod := curBitNum_mod self v
      rw [Nat.mod_eq_of_lt hRoom] at hMod
      rw [hMod, endsByte_mod] at hEight
      have hLength : (w.bits v').length = (self.bits v).length + write.size := by
        rw [hBits, List.length_append, length_toBits]
      rw [hRun]
      by_cases hFull : w.curBitNum = 8
      · cases writes with
        | nil => exact absurd ⟨hSize, fun hNil => absurd rfl hNil, trivial⟩ hSteady
        | cons next writes =>
          change (next :: writes).foldlM Write.run w = _
          rw [List.foldlM_cons, Write.run_full (hFits' next List.mem_cons_self) hFull]
          rfl
      · refine ih hFits' hHolds (Nat.lt_of_le_of_ne w.curBitNum_le hFull) fun hRest => hSteady ?_
        rw [hLength] at hRest
        exact ⟨hSize, fun _ hEnds => hFull (hEight.mpr hEnds), hRest⟩

theorem readAll_spec {writes : List Write} (hFits : ∀ write ∈ writes, write.Fits) {reader : BitsReader}
    {rest : List Bool} (h : reader.bits =
      (writes.flatMap fun write => toBits write.size write.value.toNat) ++ rest) :
    readAll (writes.map (·.size)) reader = .ok (writes.map (·.value)) := by
  induction writes generalizing reader with
  | nil => rfl
  | cons write writes ih =>
    obtain ⟨-, hLess⟩ := hFits write List.mem_cons_self
    have hValue : appendBits (0 : UInt64).toNat (toBits write.size write.value.toNat) =
        write.value.toNat := by
      rw [appendBits, UInt64.toNat_zero, Nat.zero_mul, Nat.zero_add, ofBits_toBits, Nat.mod_eq_of_lt hLess]
    rw [List.flatMap_cons, List.append_assoc] at h
    obtain ⟨reader', hBits, hRead⟩ := BitsReader.readNBitsFrom_append h (by
      rw [hValue]
      exact write.value.toNat_lt)
    rw [length_toBits, hValue, UInt64.ofNat_toNat] at hRead
    rw [List.map_cons, readAll, BitsReader.readNBits, hRead]
    dsimp only
    rw [ih (fun write' hMem => hFits write' (List.mem_cons_of_mem _ hMem)) hBits]
    rfl

/-- What is written by steady calls is read back, and other calls panic. -/
theorem agrees_iff_steady {writes : List Write} (hFits : ∀ write ∈ writes, write.Fits) :
    Agrees writes ↔ Steady 0 writes := by
  have hNew : (new ⟨[]⟩).Holds 0 := holds_new ⟨[]⟩
  have hRoom : (new ⟨[]⟩).curBitNum < 8 := Nat.zero_lt_succ 7
  constructor
  · rintro ⟨w, hAll, -⟩
    by_contra hNot
    rw [writeAll_unsteady hFits hNew hRoom hNot] at hAll
    cases hAll
  · intro hSteady
    obtain ⟨w, v, hAll, hHolds, hBits⟩ := writeAll_steady hFits hNew (fun _ => hRoom) hSteady
    have hReader : (BitsReader.new ⟨(bitsAligment8 w).writer.bytes⟩).bits =
        (writes.flatMap fun write => toBits write.size write.value.toNat) ++ toBits (8 - w.curBitNum) 0 := by
      calc (BitsReader.new ⟨(bitsAligment8 w).writer.bytes⟩).bits
          = (bitsAligment8 w).fullBits := rfl
        _ = w.bits v ++ toBits (8 - w.curBitNum) 0 := fullBits_bitsAligment8 hHolds
        _ = _ := congrArg (· ++ toBits (8 - w.curBitNum) 0) hBits
    exact ⟨w, hAll, readAll_spec hFits hReader⟩

/-- A byte is filled exactly, another one is begun, and the last bits end with a byte. -/
theorem mixed_writes_agree :
    Agrees [.bits 5 3, .bit 1, .bits 9 4, .bits 0xabc 12, .bits 0x3f 12] :=
  (agrees_iff_steady (by decide)).mpr (by simp [Steady, EndsByte, Write.size])

/-- A bit behind sixteen bits. -/
theorem bit_behind_two_bytes :
    ¬∀ writes : List Write, (∀ write ∈ writes, write.Fits) → Agrees writes := by
  intro hAll
  obtain ⟨w, hWrites, -⟩ := hAll [.bits 0xffff 16, .bit 1] (by decide)
  have hFits : (Write.bits 0xffff 16).Fits := by decide
  obtain ⟨w', v, hRun, -, -, hEight⟩ :=
    Write.run_spec hFits (by decide) (holds_new ⟨[]⟩) (Nat.zero_lt_succ 7)
  have hFull : w'.curBitNum = 8 := hEight.mpr ⟨by decide, by decide⟩
  rw [writeAll, List.foldlM_cons, hRun] at hWrites
  change [Write.bit 1].foldlM Write.run w' = _ at hWrites
  rw [List.foldlM_cons, Write.run_full (by decide) hFull] at hWrites
  cases hWrites

end BitsWriter

end Xiu.Bytesio
