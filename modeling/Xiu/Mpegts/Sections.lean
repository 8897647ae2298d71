import Xiu.Mpegts.Psi
import Xiu.ProofKit.Crc

/-! The sections of `pat.rs` and `pmt.rs` as the standard (2.4.4) reads them: the fields at their places,
and the checksum. -/

namespace Xiu.Mpegts

open Bytesio ProofKit

/-- The bits of bytes, in the order in which they are sent. -/
def bitsOf (bytes : List UInt8) : List Bool := bytes.flatMap fun byte => toBits 8 byte.toNat

theorem bitsOf_append (bytes more : List UInt8) : bitsOf (bytes ++ more) = bitsOf bytes ++ bitsOf more :=
  List.flatMap_append

theorem bitsOf_toBE (k n : Nat) : bitsOf (toBE k n) = toBits (8 * k) n := by
  induction k with
  | zero => rfl
  | succ k ih =>
    have hPow : (256 : Nat) ^ k = 2 ^ (8 * k) := pow_mul 2 8 k ▸ rfl
    have hByte : toBits 8 (UInt8.ofNat (n / 256 ^ k)).toNat = toBits 8 (n / 2 ^ (8 * k)) := by
      rw [UInt8.toNat_ofNat', hPow, toBits_mod]
    rw [toBE_succ, bitsOf, List.flatMap_cons, hByte, ← bitsOf, ih, Nat.mul_succ, Nat.add_comm (8 * k),
      toBits_add]

/-! ### The checksum -/

/-- The generator polynomial. -/
def crcPoly : BitVec 32 := 0x04C11DB7

/-- The register behind a section, which begins with ones. -/
def crcOf (bytes : List UInt8) : BitVec 32 := Crc.crc crcPoly 0xffffffff (bitsOf bytes)

/-- The bytes of a number of four bytes the other way round. -/
def swapBytes (n : Nat) : Nat :=
  n / 2 ^ 24 % 2 ^ 8 + 2 ^ 8 * (n / 2 ^ 16 % 2 ^ 8 + 2 ^ 8 * (n / 2 ^ 8 % 2 ^ 8 + 2 ^ 8 * (n % 2 ^ 8)))

/-- The register as `gen_crc32` has it. -/
def swapped (r : BitVec 32) : UInt32 := UInt32.ofNat (swapBytes r.toNat)

theorem swapBytes_lt (n : Nat) : swapBytes n < 2 ^ 32 := by
  unfold swapBytes
  omega

/-- The bytes of a number. -/
theorem exists_bytes {n : Nat} (h : n < 2 ^ 32) :
    ∃ a b c d, a < 2 ^ 8 ∧ b < 2 ^ 8 ∧ c < 2 ^ 8 ∧ d < 2 ^ 8 ∧
      n = d + 2 ^ 8 * (c + 2 ^ 8 * (b + 2 ^ 8 * a)) :=
  ⟨n / 2 ^ 24, n / 2 ^ 16 % 2 ^ 8, n / 2 ^ 8 % 2 ^ 8, n % 2 ^ 8, by omega, by omega, by omega, by omega,
    by omega⟩

theorem swapBytes_bytes {a b c d : Nat} (ha : a < 2 ^ 8) (hb : b < 2 ^ 8) (hc : c < 2 ^ 8)
    (hd : d < 2 ^ 8) : swapBytes (d + 2 ^ 8 * (c + 2 ^ 8 * (b + 2 ^ 8 * a))) =
      a + 2 ^ 8 * (b + 2 ^ 8 * (c + 2 ^ 8 * d)) := by
  have h1 : (d + 2 ^ 8 * (c + 2 ^ 8 * (b + 2 ^ 8 * a))) / 2 ^ 24 % 2 ^ 8 = a := by omega
  have h2 : (d + 2 ^ 8 * (c + 2 ^ 8 * (b + 2 ^ 8 * a))) / 2 ^ 16 % 2 ^ 8 = b := by omega
  have h3 : (d + 2 ^ 8 * (c + 2 ^ 8 * (b + 2 ^ 8 * a))) / 2 ^ 8 % 2 ^ 8 = c := by omega
  have h4 : (d + 2 ^ 8 * (c + 2 ^ 8 * (b + 2 ^ 8 * a))) % 2 ^ 8 = d := by omega
  rw [swapBytes, h1, h2, h3, h4]

theorem toNat_swapped (r : BitVec 32) : (swapped r).toNat = swapBytes r.toNat :=
  UInt32.toNat_ofNat_of_lt' (swapBytes_lt r.toNat)

/-- The entries of the table are what eight zeros make of a byte at the top. -/
theorem crc32Table_eq : ∀ k < 256, CRC32_TABLE.getD k 0 =
    swapped (Crc.shifts crcPoly 8 (BitVec.ofNat 32 (k * 2 ^ 24))) := by
  intro k hk
  have hTable : CRC32_TABLE =
      (List.range 256).map fun k => swapped (Crc.shifts crcPoly 8 (BitVec.ofNat 32 (k * 2 ^ 24))) := by
    decide +kernel
  rw [hTable, List.getD_eq_getElem?_getD, List.getElem?_map, List.getElem?_range hk]
  rfl

theorem xor_low {a a' b b' : Nat} (h : a < 2 ^ 8) (h' : a' < 2 ^ 8) :
    (a + 2 ^ 8 * b) ^^^ (a' + 2 ^ 8 * b') = (a ^^^ a') + 2 ^ 8 * (b ^^^ b') := by
  have hDiv : ((a + 2 ^ 8 * b) ^^^ (a' + 2 ^ 8 * b')) / 2 ^ 8 = b ^^^ b' := by
    rw [Nat.xor_div_two_pow]
    congr 1 <;> omega
  have hMod : ((a + 2 ^ 8 * b) ^^^ (a' + 2 ^ 8 * b')) % 2 ^ 8 = a ^^^ a' := by
    rw [Nat.xor_mod_two_pow]
    congr 1 <;> omega
  have hBoth := Nat.mod_add_div ((a + 2 ^ 8 * b) ^^^ (a' + 2 ^ 8 * b')) (2 ^ 8)
  rw [hDiv, hMod] at hBoth
  exact hBoth.symm

theorem swapped_xor (x y : BitVec 32) : swapped (x ^^^ y) = swapped x ^^^ swapped y := by
  have hByte (n : Nat) : n % 2 ^ 8 < 2 ^ 8 := Nat.mod_lt n (by decide)
  rw [← UInt32.toNat_inj, UInt32.toNat_xor, toNat_swapped, toNat_swapped, toNat_swapped,
    BitVec.toNat_xor]
  simp only [swapBytes]
  rw [xor_low (hByte _) (hByte _), xor_low (hByte _) (hByte _), xor_low (hByte _) (hByte _)]
  simp only [Nat.xor_div_two_pow, Nat.xor_mod_two_pow]

theorem shiftRight_swapped (r : BitVec 32) :
    swapped r >>> 8 = swapped (BitVec.ofNat 32 (r.toNat % 2 ^ 24 * 2 ^ 8)) := by
  have hr := r.isLt
  have hShift : (swapped r >>> 8).toNat = swapBytes r.toNat / 2 ^ 8 := by
    rw [UInt32.toNat_shiftRight, toNat_swapped, Nat.shiftRight_eq_div_pow]
    rfl
  have hBytes {n : Nat} (hn : n < 2 ^ 32) :
      swapBytes n / 2 ^ 8 = swapBytes (n % 2 ^ 24 * 2 ^ 8 % 2 ^ 32) := by
    obtain ⟨a, b, c, d, ha, hb, hc, hd, rfl⟩ := exists_bytes hn
    have hLow : (d + 2 ^ 8 * (c + 2 ^ 8 * (b + 2 ^ 8 * a))) % 2 ^ 24 * 2 ^ 8 % 2 ^ 32 =
        0 + 2 ^ 8 * (d + 2 ^ 8 * (c + 2 ^ 8 * b)) := by omega
    rw [hLow, swapBytes_bytes ha hb hc hd, swapBytes_bytes hb hc hd (by decide)]
    omega
  rw [← UInt32.toNat_inj, hShift, toNat_swapped, BitVec.toNat_ofNat, hBytes hr]

theorem index_swapped (r : BitVec 32) (byte : UInt8) :
    ((swapped r ^^^ byte.toUInt32) &&& 0xff).toNat = byte.toNat ^^^ r.toNat / 2 ^ 24 := by
  have hLow : swapBytes r.toNat % 2 ^ 8 = r.toNat / 2 ^ 24 := by
    have hr := r.isLt
    unfold swapBytes
    omega
  have hMask : (0xff : UInt32).toNat = 2 ^ 8 - 1 := rfl
  rw [UInt32.toNat_and, UInt32.toNat_xor, UInt8.toNat_toUInt32, toNat_swapped, hMask,
    Nat.and_two_pow_sub_one_eq_mod, Nat.xor_mod_two_pow, hLow, Nat.mod_eq_of_lt byte.toNat_lt,
    Nat.xor_comm]

/-- One turn of `gen_crc32` takes in the eight bits of a byte. -/
theorem genCrc32_byte (r : BitVec 32) (byte : UInt8) :
    CRC32_TABLE.getD ((swapped r ^^^ byte.toUInt32) &&& 0xff).toNat 0 ^^^ (swapped r >>> 8) =
      swapped (Crc.crc crcPoly r (toBits 8 byte.toNat)) := by
  have hr := r.isLt
  have hb := byte.toNat_lt
  have hIndex : byte.toNat ^^^ r.toNat / 2 ^ 24 < 2 ^ 8 := Nat.xor_lt_two_pow hb (by omega)
  have hLow : r.toNat % 2 ^ 24 < 2 ^ 24 := Nat.mod_lt _ (by decide)
  -- the byte at the top of the register, and the three bytes below
  have hSplit : r ^^^ BitVec.ofNat 32 (byte.toNat * 2 ^ 24) =
      BitVec.ofNat 32 ((byte.toNat ^^^ r.toNat / 2 ^ 24) * 2 ^ 24) ^^^
        BitVec.ofNat 32 (r.toNat % 2 ^ 24) := by
    have hNat : r.toNat ^^^ byte.toNat * 2 ^ 24 =
        (byte.toNat ^^^ r.toNat / 2 ^ 24) * 2 ^ 24 ^^^ r.toNat % 2 ^ 24 := by
      rw [Crc.mul_two_pow_xor hLow, Nat.xor_comm]
      have hDiv : (byte.toNat * 2 ^ 24 ^^^ r.toNat) / 2 ^ 24 = byte.toNat ^^^ r.toNat / 2 ^ 24 := by
        rw [Nat.xor_div_two_pow, Nat.mul_div_cancel _ (by decide)]
      have hMod : (byte.toNat * 2 ^ 24 ^^^ r.toNat) % 2 ^ 24 = r.toNat % 2 ^ 24 := by
        rw [Nat.xor_mod_two_pow, Nat.mul_mod_left, Nat.zero_xor]
      rw [← hDiv, ← hMod, Nat.div_add_mod']
    rw [← BitVec.ofNat_xor, ← hNat, BitVec.ofNat_xor, BitVec.ofNat_toNat, BitVec.setWidth_eq]
  rw [Crc.crc_toBits crcPoly (by decide), Nat.mod_eq_of_lt hb, hSplit, Crc.shifts_xor,
    Crc.shifts_small crcPoly (m := r.toNat % 2 ^ 24) (by omega), swapped_xor, ← crc32Table_eq _ hIndex, index_swapped,
    shiftRight_swapped]

theorem genCrc32_swapped (r : BitVec 32) (bytes : List UInt8) :
    genCrc32 (swapped r) bytes = swapped (Crc.crc crcPoly r (bitsOf bytes)) := by
  induction bytes generalizing r with
  | nil => rfl
  | cons byte bytes ih =>
    have hBits : bitsOf (byte :: bytes) = toBits 8 byte.toNat ++ bitsOf bytes := List.flatMap_cons
    rw [genCrc32, List.foldl_cons, genCrc32_byte, ← genCrc32, ih, hBits, Crc.crc_append]

/-- The checksum is written with the byte at the top of the register first. -/
theorem withCrc32_eq (w : BytesWriter) :
    withCrc32 w = w.bytes ++ toBE 4 (crcOf w.bytes).toNat := by
  have hr := (crcOf w.bytes).isLt
  have hStart : (0xffffffff : UInt32) = swapped 0xffffffff := by decide
  have hCrc : genCrc32 0xffffffff w.bytes = swapped (crcOf w.bytes) := by
    rw [hStart, genCrc32_swapped]
    rfl
  have hByte (m n : Nat) : UInt8.ofNat (m + 2 ^ 8 * n) = UInt8.ofNat m := by
    rw [← UInt8.toNat_inj, UInt8.toNat_ofNat', UInt8.toNat_ofNat', Nat.add_mul_mod_self_left]
  have hRest {m : Nat} (hm : m < 2 ^ 8) (n : Nat) : (m + 2 ^ 8 * n) / 256 = n := by omega
  have hBytes {n : Nat} (hn : n < 2 ^ 32) : toLE 4 (swapBytes n) = toBE 4 n := by
    obtain ⟨a, b, c, d, ha, hb, hc, hd, rfl⟩ := exists_bytes hn
    rw [swapBytes_bytes ha hb hc hd, toBE]
    simp only [toLE, hByte, hRest ha, hRest hb, hRest hc, hRest hd, List.reverse_cons,
      List.reverse_nil, List.nil_append, List.cons_append]
  rw [withCrc32, BytesWriter.writeU32, hCrc, ByteOrder.encode, toNat_swapped, hBytes hr]

/-- The checksum takes the register to zero. -/
theorem crcOf_withCrc32 (w : BytesWriter) : crcOf (withCrc32 w) = 0 := by
  rw [withCrc32_eq, crcOf, bitsOf_append, Crc.crc_append, bitsOf_toBE]
  exact Crc.crc_self crcPoly _

/-! ### Fields and the bits above them -/

theorem bitsOf_cons (byte : UInt8) (bytes : List UInt8) :
    bitsOf (byte :: bytes) = toBits 8 byte.toNat ++ bitsOf bytes := List.flatMap_cons

/-- Ones above a number of `k` bits stay ones. -/
theorem ones_or (j k n : Nat) : ((2 ^ j - 1) * 2 ^ k ||| n) / 2 ^ k % 2 ^ j = 2 ^ j - 1 := by
  rw [Nat.or_div_two_pow, Nat.mul_div_cancel _ (Nat.two_pow_pos k), Nat.or_mod_two_pow,
    Nat.mod_eq_of_lt (Nat.sub_one_lt (Nat.two_pow_pos j).ne')]
  refine Nat.eq_of_testBit_eq fun i => ?_
  rw [Nat.testBit_or, Nat.testBit_mod_two_pow, Nat.testBit_two_pow_sub_one]
  cases decide (i < j) <;> simp

/-- What stands above does not change the number. -/
theorem low_or (m k n : Nat) : (m * 2 ^ k ||| n) % 2 ^ k = n % 2 ^ k := by
  rw [Nat.or_mod_two_pow, Nat.mul_mod_left, Nat.zero_or]

theorem readFields_pid (pid : UInt16) (widths : List Nat) (rest : List Bool) :
    readFields (3 :: 13 :: widths) (toBits 16 (0xE000 ||| pid).toNat ++ rest) =
      0b111 :: pid.toNat % 2 ^ 13 :: readFields widths rest := by
  have hOr : (0xE000 ||| pid).toNat = (2 ^ 3 - 1) * 2 ^ 13 ||| pid.toNat := UInt16.toNat_or _ _
  rw [show (16 : Nat) = 3 + 13 from rfl, readFields_add, hOr, ones_or, low_or]
  rfl

theorem readFields_infoLength (n : UInt16) (widths : List Nat) (rest : List Bool) :
    readFields (4 :: 12 :: widths) (toBits 16 (0xF000 ||| n).toNat ++ rest) =
      0b1111 :: n.toNat % 2 ^ 12 :: readFields widths rest := by
  have hOr : (0xF000 ||| n).toNat = (2 ^ 4 - 1) * 2 ^ 12 ||| n.toNat := UInt16.toNat_or _ _
  rw [show (16 : Nat) = 4 + 12 from rfl, readFields_add, hOr, ones_or, low_or]
  rfl

/-- The length of a section is or-ed with the bits above it. -/
theorem readFields_sectionLength (n : UInt16) (widths : List Nat) (rest : List Bool) :
    readFields (4 :: 12 :: widths) (toBits 16 (0xB000 ||| n).toNat ++ rest) =
      (0b1011 ||| n.toNat / 2 ^ 12) :: n.toNat % 2 ^ 12 :: readFields widths rest := by
  have hn := n.toNat_lt
  have hOr : (0xB000 ||| n).toNat = 0b1011 * 2 ^ 12 ||| n.toNat := UInt16.toNat_or _ _
  have hHigh : (0b1011 * 2 ^ 12 ||| n.toNat) / 2 ^ 12 = 0b1011 ||| n.toNat / 2 ^ 12 := by
    rw [Nat.or_div_two_pow, Nat.mul_div_cancel _ (Nat.two_pow_pos 12)]
  have hLt : 0b1011 ||| n.toNat / 2 ^ 12 < 2 ^ 4 := Nat.or_lt_two_pow (by decide) (by omega)
  rw [show (16 : Nat) = 4 + 12 from rfl, readFields_add, hOr, low_or, hHigh, Nat.mod_eq_of_lt hLt]

theorem readFields_version (version : UInt8) (widths : List Nat) (rest : List Bool) :
    readFields (2 :: 5 :: 1 :: widths)
        (toBits 8 ((0xC1 : UInt8) ||| version <<< (1 : UInt8)).toNat ++ rest) =
      0b11 :: version.toNat % 2 ^ 5 :: 1 :: readFields widths rest := by
  have hAll : ∀ n < 256, ((0xC1 : UInt8) ||| UInt8.ofNat n <<< (1 : UInt8)).toNat =
      0b11 * 2 ^ 6 + (n % 2 ^ 5 * 2 ^ 1 + 1) := by
    decide +kernel
  have hBits := hAll version.toNat version.toNat_lt
  rw [UInt8.ofNat_toNat] at hBits
  rw [hBits, show (8 : Nat) = 2 + (5 + 1) from rfl, toBits_append (by omega), toBits_append (by decide),
    List.append_assoc, List.append_assoc, readFields_cons, readFields_cons, readFields_cons, Nat.mod_mod]
  rfl

/-! ### The programs -/

/-- `PatMuxer::write` as a whole: the arithmetic of the section length panics where it overflows. -/
def Pat.checkedWrite (pat : Pat) : Except MuxFault (List UInt8) :=
  if pat.pmt.length % 2 ^ 16 * 4 + 5 + 4 < 2 ^ 16 then .ok pat.write else .error .panic

/-- The fields of a section with so many programs: of the table, of each program, and the checksum. -/
def patWidths (programs : Nat) : List Nat :=
  [8, 4, 12, 16, 2, 5, 1, 8, 8] ++ ((List.replicate programs [16, 3, 13]).flatten ++ [32])

/-- What they are to be, with the reserved bits set. -/
def patFields (pat : Pat) (sectionLength crc : Nat) : List Nat :=
  [0x00, 0b1011, sectionLength, pat.transportStreamId.toNat, 0b11, pat.versionNumber.toNat % 2 ^ 5, 1, 0,
    0] ++ (pat.pmt.flatMap (fun pmt => [pmt.programNumber.toNat, 0b111, pmt.pid.toNat]) ++ [crc])

structure PatFormed (pat : Pat) (bytes : List UInt8) : Prop where
  length : bytes.length = 12 + 4 * pat.pmt.length
  fields : ∃ crc, readFields (patWidths pat.pmt.length) (bitsOf bytes) =
    patFields pat (bytes.length - 3) crc
  crc : crcOf bytes = 0

theorem bytes_patEntries (pmts : List Pmt) (w : BytesWriter) :
    (pmts.foldl (fun w ele =>
      (w.writeU16 .bigEndian ele.programNumber).writeU16 .bigEndian (0xE000 ||| ele.pid)) w).bytes =
      w.bytes ++ pmts.flatMap fun ele =>
        toBE 2 ele.programNumber.toNat ++ toBE 2 (0xE000 ||| ele.pid).toNat := by
  induction pmts generalizing w with
  | nil => exact (List.append_nil _).symm
  | cons pmt rest ih =>
    rw [List.foldl_cons, ih, List.flatMap_cons, BytesWriter.writeU16, BytesWriter.writeU16,
      ByteOrder.encode, ByteOrder.encode]
    simp only [List.append_assoc]

/-- The bytes of a section that lists programs, before the checksum. -/
def Pat.body (pat : Pat) : List UInt8 :=
  PAT_TID_PAS.toUInt8 :: (toBE 2 ((0xb000 : UInt16) ||| (UInt16.ofNat pat.pmt.length * 4 + 5 + 4)).toNat ++
    (toBE 2 pat.transportStreamId.toNat ++
      (((0xC1 : UInt8) ||| pat.versionNumber <<< (1 : UInt8)) :: (toBE 2 0 ++
        pat.pmt.flatMap fun ele =>
          toBE 2 ele.programNumber.toNat ++ toBE 2 (0xE000 ||| ele.pid).toNat))))

theorem pat_write (pat : Pat) : pat.write = pat.body ++ toBE 4 (crcOf pat.body).toNat := by
  unfold Pat.write Pat.body
  dsimp only
  rw [withCrc32_eq, bytes_patEntries]
  simp only [BytesWriter.writeU8, BytesWriter.writeU16, ByteOrder.encode, List.append_assoc,
    List.cons_append, List.nil_append]
  rfl

/-- The checksum as a field. -/
theorem readFields_crc (crc : BitVec 32) : readFields [32] (toBits (8 * 4) crc.toNat) = [crc.toNat] := by
  have hField := readFields_cons 32 crc.toNat [] []
  rw [List.append_nil, Nat.mod_eq_of_lt crc.isLt] at hField
  exact hField

theorem readFields_patEntry (pmt : Pmt) (widths : List Nat) (rest : List Bool) :
    readFields ([16, 3, 13] ++ widths)
        (bitsOf (toBE 2 pmt.programNumber.toNat ++ toBE 2 (0xE000 ||| pmt.pid).toNat) ++ rest) =
      [pmt.programNumber.toNat, 0b111, pmt.pid.toNat % 2 ^ 13] ++ readFields widths rest := by
  rw [bitsOf_append, bitsOf_toBE, bitsOf_toBE, List.append_assoc, List.cons_append, readFields_cons,
    Nat.mod_eq_of_lt pmt.programNumber.toNat_lt, List.cons_append, List.cons_append, List.nil_append,
    readFields_pid]
  rfl

theorem bitsOf_flatMap (bytes : α → List UInt8) (l : List α) :
    bitsOf (l.flatMap bytes) = l.flatMap fun a => bitsOf (bytes a) := List.flatMap_assoc

/-- The fields of a section that lists programs. -/
theorem pat_fields (pat : Pat) : ∃ crc, readFields (patWidths pat.pmt.length) (bitsOf pat.write) =
    [0x00, 0b1011 ||| (4 * pat.pmt.length + 9) % 2 ^ 16 / 2 ^ 12, (4 * pat.pmt.length + 9) % 2 ^ 12,
      pat.transportStreamId.toNat, 0b11, pat.versionNumber.toNat % 2 ^ 5, 1, 0, 0] ++
      (pat.pmt.flatMap (fun pmt => [pmt.programNumber.toNat, 0b111, pmt.pid.toNat % 2 ^ 13]) ++
        [crc]) := by
  have hLength : (UInt16.ofNat pat.pmt.length * 4 + 5 + 4).toNat = (4 * pat.pmt.length + 9) % 2 ^ 16 := by
    simp only [UInt16.toNat_add, UInt16.toNat_mul, UInt16.toNat_ofNat', UInt16.toNat_ofNat]
    omega
  have hLow : (4 * pat.pmt.length + 9) % 2 ^ 16 % 2 ^ 12 = (4 * pat.pmt.length + 9) % 2 ^ 12 :=
    Nat.mod_mod_of_dvd _ (by decide)
  refine ⟨(crcOf pat.body).toNat, ?_⟩
  rw [pat_write, bitsOf_append, bitsOf_toBE, Pat.body, bitsOf_cons, bitsOf_append, bitsOf_append,
    bitsOf_toBE, bitsOf_toBE, bitsOf_cons, bitsOf_append, bitsOf_toBE, bitsOf_flatMap, patWidths,
    toBits_add 8 8 0]
  simp only [List.append_assoc, List.cons_append, List.nil_append]
  rw [readFields_cons, readFields_sectionLength, readFields_cons, readFields_version, readFields_cons,
    readFields_cons, readFields_flatMap readFields_patEntry, hLength, hLow,
    Nat.mod_eq_of_lt pat.transportStreamId.toNat_lt, readFields_crc]
  rfl

/-- Rows of one length are equal when the values of each element are. -/
theorem rows_eq_iff {f g : α → List β} {l : List α} (hLength : ∀ a, (f a).length = (g a).length)
    (x y : β) : l.flatMap f ++ [x] = l.flatMap g ++ [y] ↔ (∀ a ∈ l, f a = g a) ∧ x = y := by
  induction l with
  | nil => simp
  | cons a l ih =>
    rw [List.flatMap_cons, List.flatMap_cons, List.append_assoc, List.append_assoc, List.forall_mem_cons,
      and_assoc, ← ih]
    exact ⟨fun hRows => List.append_inj hRows (hLength a), fun ⟨hRow, hRest⟩ => by rw [hRow, hRest]⟩

theorem crcOf_pat (pat : Pat) : crcOf pat.write = 0 := crcOf_withCrc32 _

/-- A section that lists programs is well formed exactly when its length fits its field, and the pids theirs. -/
theorem patFormed_iff (pat : Pat) : PatFormed pat pat.write ↔
    4 * pat.pmt.length + 9 < 2 ^ 12 ∧ ∀ pmt ∈ pat.pmt, pmt.pid.toNat < 2 ^ 13 := by
  obtain ⟨crc, hFields⟩ := pat_fields pat
  have hRest : pat.write.length - 3 = 4 * pat.pmt.length + 9 := by rw [length_pat]; omega
  constructor
  · rintro ⟨-, ⟨crc', hFormed⟩, -⟩
    rw [hFields, patFields, hRest] at hFormed
    obtain ⟨hHead, hRows⟩ := List.append_inj hFormed rfl
    have hLow : (4 * pat.pmt.length + 9) % 2 ^ 12 = 4 * pat.pmt.length + 9 :=
      (List.cons.inj (List.cons.inj (List.cons.inj hHead).2).2).1
    have hPids := ((rows_eq_iff (fun _ => by rfl) crc crc').mp hRows).1
    refine ⟨by omega, fun pmt hMem => ?_⟩
    have hPid : pmt.pid.toNat % 2 ^ 13 = pmt.pid.toNat :=
      (List.cons.inj (List.cons.inj (List.cons.inj (hPids pmt hMem)).2).2).1
    omega
  · rintro ⟨hLength, hPids⟩
    refine ⟨length_pat pat, ⟨crc, ?_⟩, crcOf_pat pat⟩
    have hHigh : (4 * pat.pmt.length + 9) % 2 ^ 16 / 2 ^ 12 = 0 := by omega
    rw [hFields, patFields, hRest, hHigh, Nat.or_zero, Nat.mod_eq_of_lt hLength]
    congr 1
    refine (rows_eq_iff (fun _ => by rfl) crc crc).mpr ⟨fun pmt hMem => ?_, rfl⟩
    rw [Nat.mod_eq_of_lt (hPids pmt hMem)]

/-! ### The streams of a program -/

/-- The type that a section gives for a stream: Opus goes as private data. -/
def streamTypeOf (stream : Pes) : UInt8 :=
  if stream.codecId = PSI_STREAM_AUDIO_OPUS then PSI_STREAM_PRIVATE_DATA else stream.codecId

/-- The fields of a section with so many bytes of program info and so many streams: of the program, the
info, of each stream, and the checksum. -/
def pmtWidths (info streams : Nat) : List Nat :=
  [8, 4, 12, 16, 2, 5, 1, 8, 8, 3, 13, 4, 12] ++ ((List.replicate info [8]).flatten ++
    ((List.replicate streams [8, 3, 13, 4, 12]).flatten ++ [32]))

/-- What they are to be, with the reserved bits set. -/
def pmtFields (pmt : Pmt) (info : List UInt8) (sectionLength crc : Nat) : List Nat :=
  [0x02, 0b1011, sectionLength, pmt.programNumber.toNat, 0b11, pmt.versionNumber.toNat % 2 ^ 5, 1, 0, 0,
    0b111, pmt.pcrPid.toNat % 2 ^ 13, 0b1111, info.length] ++ (info.map (·.toNat) ++
    (pmt.streams.flatMap (fun stream =>
      [(streamTypeOf stream).toNat, 0b111, stream.pid.toNat, 0b1111, 0]) ++ [crc]))

/-- The bytes of the section are as many as the fields with the program info that is present. -/
structure PmtFormed (pmt : Pmt) (bytes : List UInt8) : Prop where
  fields : ∃ info crc, bytes.length = 16 + info.length + 5 * pmt.streams.length ∧
    readFields (pmtWidths info.length pmt.streams.length) (bitsOf bytes) =
      pmtFields pmt info (bytes.length - 3) crc
  crc : crcOf bytes = 0

theorem bytes_streamEntries (streams : List Pes) (w : BytesWriter) :
    (streams.foldl writeStream w).bytes = w.bytes ++ streams.flatMap fun stream =>
      streamTypeOf stream :: (toBE 2 (0xE000 ||| stream.pid).toNat ++ toBE 2 (0xF000 : UInt16).toNat) := by
  induction streams generalizing w with
  | nil => exact (List.append_nil _).symm
  | cons stream rest ih =>
    rw [List.foldl_cons, ih, List.flatMap_cons, writeStream, BytesWriter.writeU16, BytesWriter.writeU16,
      BytesWriter.writeU8, ByteOrder.encode, ByteOrder.encode]
    simp only [List.append_assoc, List.cons_append, List.nil_append]
    rfl

/-- What follows the length of the section, before the checksum. -/
def Pmt.body (pmt : Pmt) : List UInt8 :=
  toBE 2 pmt.programNumber.toNat ++ (((0xC1 : UInt8) ||| pmt.versionNumber <<< (1 : UInt8)) :: 0x00 ::
    0x00 :: (toBE 2 (0xE000 ||| pmt.pcrPid).toNat ++
      (toBE 2 (0xF000 ||| UInt16.ofNat pmt.programInfo.length).toNat ++ (pmt.writtenInfo ++
        pmt.streams.flatMap fun stream =>
          streamTypeOf stream ::
            (toBE 2 (0xE000 ||| stream.pid).toNat ++ toBE 2 (0xF000 : UInt16).toNat)))))

/-- The section of a program before the checksum. -/
def Pmt.head (pmt : Pmt) : List UInt8 :=
  PAT_TID_PMS.toUInt8 ::
    (toBE 2 ((0xB000 : UInt16) ||| (UInt16.ofNat pmt.body.length + 4)).toNat ++ pmt.body)

theorem pmt_write {pmt : Pmt} {bytes : List UInt8} (hOk : pmt.write = .ok bytes) :
    bytes = pmt.head ++ toBE 4 (crcOf pmt.head).toNat ∧ crcOf bytes = 0 := by
  have hBody : (pmt.streams.foldl writeStream (((((((⟨[]⟩ : BytesWriter).writeU16 .bigEndian
      pmt.programNumber).writeU8 ((0xC1 : UInt8) ||| pmt.versionNumber <<< (1 : UInt8))).writeU8 0x00).writeU8
      0x00).writeU16 .bigEndian (0xE000 ||| pmt.pcrPid)).writeU16 .bigEndian
      (0xF000 ||| UInt16.ofNat pmt.programInfo.length) |>.write pmt.writtenInfo)).bytes = pmt.body := by
    rw [bytes_streamEntries]
    simp only [BytesWriter.writeU8, BytesWriter.writeU16, BytesWriter.write, ByteOrder.encode,
      List.append_assoc, List.cons_append, List.nil_append, Pmt.body]
  unfold Pmt.write at hOk
  dsimp only at hOk
  rw [BytesWriter.len, hBody] at hOk
  split at hOk
  · obtain rfl := Except.ok.inj hOk
    have hHead : (((⟨[]⟩ : BytesWriter).writeU8 PAT_TID_PMS.toUInt8).writeU16 .bigEndian
        ((0xB000 : UInt16) ||| (UInt16.ofNat pmt.body.length + 4)) |>.write pmt.body).bytes = pmt.head := by
      simp only [BytesWriter.writeU8, BytesWriter.writeU16, BytesWriter.write, ByteOrder.encode,
        List.cons_append, List.nil_append, Pmt.head]
    refine ⟨?_, crcOf_withCrc32 _⟩
    rw [withCrc32_eq, hHead]
  · cases hOk

theorem length_body (pmt : Pmt) :
    pmt.body.length = 9 + pmt.writtenInfo.length + 5 * pmt.streams.length := by
  have hStreams := length_streamEntries pmt.streams ⟨[]⟩
  rw [BytesWriter.len, bytes_streamEntries, List.nil_append, BytesWriter.len, List.length_nil,
    Nat.zero_add] at hStreams
  simp only [Pmt.body, List.length_append, List.length_cons, length_toBE, hStreams]
  omega

theorem readFields_streamEntry (stream : Pes) (widths : List Nat) (rest : List Bool) :
    readFields ([8, 3, 13, 4, 12] ++ widths)
        (bitsOf (streamTypeOf stream ::
          (toBE 2 (0xE000 ||| stream.pid).toNat ++ toBE 2 (0xF000 : UInt16).toNat)) ++ rest) =
      [(streamTypeOf stream).toNat, 0b111, stream.pid.toNat % 2 ^ 13, 0b1111, 0] ++
        readFields widths rest := by
  have hInfo := readFields_infoLength 0 widths rest
  rw [UInt16.or_zero] at hInfo
  rw [bitsOf_cons, bitsOf_append, bitsOf_toBE, bitsOf_toBE, List.append_assoc, List.append_assoc]
  simp only [List.cons_append, List.nil_append]
  rw [readFields_cons, Nat.mod_eq_of_lt (streamTypeOf stream).toNat_lt, readFields_pid, hInfo]
  rfl

theorem readFields_byte (byte : UInt8) (widths : List Nat) (rest : List Bool) :
    readFields ([8] ++ widths) (toBits 8 byte.toNat ++ rest) = [byte.toNat] ++ readFields widths rest := by
  rw [List.singleton_append, readFields_cons, Nat.mod_eq_of_lt byte.toNat_lt, List.singleton_append]

/-- The fields of the section of a program. -/
theorem pmt_fields {pmt : Pmt} {bytes : List UInt8} (hOk : pmt.write = .ok bytes) :
    ∃ crc, readFields (pmtWidths pmt.writtenInfo.length pmt.streams.length) (bitsOf bytes) =
      [0x02, 0b1011 ||| (pmt.body.length + 4) % 2 ^ 16 / 2 ^ 12, (pmt.body.length + 4) % 2 ^ 12,
        pmt.programNumber.toNat, 0b11, pmt.versionNumber.toNat % 2 ^ 5, 1, 0, 0,
        0b111, pmt.pcrPid.toNat % 2 ^ 13, 0b1111, pmt.programInfo.length % 2 ^ 12] ++
        (pmt.writtenInfo.map (·.toNat) ++
          (pmt.streams.flatMap (fun stream =>
            [(streamTypeOf stream).toNat, 0b111, stream.pid.toNat % 2 ^ 13, 0b1111, 0]) ++ [crc])) := by
  obtain ⟨rfl, -⟩ := pmt_write hOk
  have hLength : (UInt16.ofNat pmt.body.length + 4).toNat = (pmt.body.length + 4) % 2 ^ 16 := by
    simp only [UInt16.toNat_add, UInt16.toNat_ofNat', UInt16.toNat_ofNat]
    omega
  have hLow : (pmt.body.length + 4) % 2 ^ 16 % 2 ^ 12 = (pmt.body.length + 4) % 2 ^ 12 :=
    Nat.mod_mod_of_dvd _ (by decide)
  have hInfo : (UInt16.ofNat pmt.programInfo.length).toNat % 2 ^ 12 = pmt.programInfo.length % 2 ^ 12 := by
    rw [UInt16.toNat_ofNat']
    exact Nat.mod_mod_of_dvd _ (by decide)
  refine ⟨(crcOf pmt.head).toNat, ?_⟩
  rw [bitsOf_append, bitsOf_toBE, Pmt.head, bitsOf_cons, bitsOf_append, bitsOf_toBE, Pmt.body,
    bitsOf_append, bitsOf_toBE, bitsOf_cons, bitsOf_cons, bitsOf_cons, bitsOf_append, bitsOf_toBE,
    bitsOf_append, bitsOf_toBE, bitsOf_append, bitsOf_flatMap, pmtWidths, ← Pmt.body]
  simp only [List.append_assoc, List.cons_append, List.nil_append]
  rw [readFields_cons, readFields_sectionLength, readFields_cons, readFields_version, readFields_cons,
    readFields_cons, readFields_pid, readFields_infoLength, bitsOf, readFields_flatMap readFields_byte, ← List.map_eq_flatMap,
    readFields_flatMap readFields_streamEntry, hLength, hLow, hInfo,
    Nat.mod_eq_of_lt pmt.programNumber.toNat_lt, readFields_crc]
  rfl

/-- The program info is written as a whole or not at all, with the length of the whole. -/
theorem length_writtenInfo (pmt : Pmt) :
    pmt.writtenInfo.length = pmt.programInfo.length % 2 ^ 12 ↔
      pmt.programInfo.length < 0x400 ∨ pmt.programInfo.length % 2 ^ 12 = 0 := by
  have hMod : (UInt16.ofNat pmt.programInfo.length).toNat = pmt.programInfo.length % 2 ^ 16 :=
    UInt16.toNat_ofNat'
  unfold Pmt.writtenInfo
  dsimp only
  split <;> rename_i hWhole <;>
    simp only [GT.gt, UInt16.lt_iff_toNat_lt, hMod, UInt16.toNat_ofNat, List.length_nil] at hWhole ⊢ <;>
    omega

/-- The program info that a reader finds when the lengths agree. -/
theorem writtenInfo_eq {pmt : Pmt}
    (hInfo : pmt.programInfo.length < 0x400 ∨ pmt.programInfo.length % 2 ^ 12 = 0) :
    pmt.writtenInfo.length = if pmt.programInfo.length < 0x400 then pmt.programInfo.length else 0 := by
  rw [(length_writtenInfo pmt).mpr hInfo]
  split <;> omega

theorem length_pmt {pmt : Pmt} {bytes : List UInt8} (hOk : pmt.write = .ok bytes) :
    bytes.length = 16 + pmt.writtenInfo.length + 5 * pmt.streams.length := by
  obtain ⟨rfl, -⟩ := pmt_write hOk
  rw [List.length_append, length_toBE, Pmt.head, List.length_cons, List.length_append, length_toBE,
    length_body]
  omega

theorem pmtFormed_iff {pmt : Pmt} {bytes : List UInt8} (hOk : pmt.write = .ok bytes) :
    PmtFormed pmt bytes ↔
      (pmt.programInfo.length < 0x400 ∨ pmt.programInfo.length % 2 ^ 12 = 0) ∧
        13 + (if pmt.programInfo.length < 0x400 then pmt.programInfo.length else 0) +
          5 * pmt.streams.length < 2 ^ 12 ∧
        ∀ stream ∈ pmt.streams, stream.pid.toNat < 2 ^ 13 := by
  obtain ⟨crc, hFields⟩ := pmt_fields hOk
  have hLength := length_pmt hOk
  have hBody := length_body pmt
  have hRest : bytes.length - 3 = pmt.body.length + 4 := by omega
  constructor
  · rintro ⟨⟨info, crc', hFound, hFormed⟩, -⟩
    have hInfo : info.length = pmt.writtenInfo.length := by omega
    rw [hInfo, hFields, pmtFields, hRest] at hFormed
    obtain ⟨hHead, hRows⟩ := List.append_inj hFormed rfl
    simp only [List.cons.injEq, and_true, true_and] at hHead
    obtain ⟨-, hSection, hProgram⟩ := hHead
    have hWritten := (length_writtenInfo pmt).mp (by omega)
    have hStreams := (List.append_inj hRows (by rw [List.length_map, List.length_map, hInfo])).2
    have hPids := ((rows_eq_iff (fun _ => by rfl) crc crc').mp hStreams).1
    refine ⟨hWritten, ?_, fun stream hMem => ?_⟩
    · rw [← writtenInfo_eq hWritten]
      omega
    · have hPid := hPids stream hMem
      simp only [List.cons.injEq, and_true, true_and] at hPid
      omega
  · rintro ⟨hInfo, hFits, hPids⟩
    have hWritten := (length_writtenInfo pmt).mpr hInfo
    rw [← writtenInfo_eq hInfo] at hFits
    have hHigh : (pmt.body.length + 4) % 2 ^ 16 / 2 ^ 12 = 0 := by omega
    have hLow : (pmt.body.length + 4) % 2 ^ 12 = pmt.body.length + 4 := by omega
    refine ⟨⟨pmt.writtenInfo, crc, hLength, ?_⟩, (pmt_write hOk).2⟩
    rw [hFields, pmtFields, hRest, hHigh, hLow, hWritten, Nat.or_zero]
    congr 2
    refine (rows_eq_iff (fun _ => by rfl) crc crc).mpr ⟨fun stream hMem => ?_, rfl⟩
    rw [Nat.mod_eq_of_lt (hPids stream hMem)]

/-- The sections are well formed exactly when what they say of lengths and pids fits its field, and the
program info is one that is written, or of a length that is zero in its field. -/
theorem sections_formed_iff (pat : Pat) (pmt : Pmt) (bytes : List UInt8) :
    (pat.checkedWrite = .ok bytes → (PatFormed pat bytes ↔
      4 * pat.pmt.length + 9 < 2 ^ 12 ∧ ∀ pmt ∈ pat.pmt, pmt.pid.toNat < 2 ^ 13)) ∧
    (pmt.write = .ok bytes → (PmtFormed pmt bytes ↔
      (pmt.programInfo.length < 0x400 ∨ pmt.programInfo.length % 2 ^ 12 = 0) ∧
        13 + (if pmt.programInfo.length < 0x400 then pmt.programInfo.length else 0) +
          5 * pmt.streams.length < 2 ^ 12 ∧
        ∀ stream ∈ pmt.streams, stream.pid.toNat < 2 ^ 13)) := by
  refine ⟨fun hOk => ?_, pmtFormed_iff⟩
  unfold Pat.checkedWrite at hOk
  split at hOk
  · obtain rfl := Except.ok.inj hOk
    exact patFormed_iff pat
  · cases hOk

/-- A program with a descriptor and two streams, and the section that lists it. -/
def descriptorPmt : Pmt :=
  ⟨0x1001, 1, 0, 0x100, [0x05, 0x01, 0x48],
    [⟨0x100, 0xe0, PSI_STREAM_H264, 0, 0, 0, 0⟩, ⟨0x101, 0xc0, PSI_STREAM_AUDIO_OPUS, 0, 0, 0, 0⟩]⟩

theorem descriptor_formed : (∃ bytes, Pat.checkedWrite ⟨1, 0, [descriptorPmt]⟩ = .ok bytes ∧
      PatFormed ⟨1, 0, [descriptorPmt]⟩ bytes) ∧
    ∃ bytes, descriptorPmt.write = .ok bytes ∧ PmtFormed descriptorPmt bytes := by
  obtain ⟨bytes, hOk, -⟩ := @write_pmt descriptorPmt (by decide)
  exact ⟨⟨_, rfl, ((sections_formed_iff _ descriptorPmt _).1 rfl).mpr (by decide)⟩,
    bytes, hOk, ((sections_formed_iff ⟨1, 0, []⟩ descriptorPmt bytes).2 hOk).mpr (by decide)⟩

/-- Of program info of 0x400 bytes the length is written and the bytes are not. -/
theorem info_left_out : ¬∀ pat pmt bytes, (Pat.checkedWrite pat = .ok bytes → PatFormed pat bytes) ∧
    (Pmt.write pmt = .ok bytes → PmtFormed pmt bytes) := by
  intro hAll
  obtain ⟨info, hInfo⟩ : ∃ info, info.length = 0x400 := ⟨List.replicate 0x400 (0 : UInt8), List.length_replicate⟩
  have hNone : Pmt.writtenInfo ⟨0x1001, 1, 0, 0x100, info, []⟩ = [] := by
    unfold Pmt.writtenInfo
    dsimp only
    rw [hInfo]
    exact if_neg (by decide)
  obtain ⟨bytes, hOk, -⟩ := @write_pmt ⟨0x1001, 1, 0, 0x100, info, []⟩ (by
    simp [Pmt.sectionLen, hNone])
  obtain ⟨hLength, -⟩ := (pmtFormed_iff hOk).mp ((hAll Pat.new _ bytes).2 hOk)
  rw [hInfo] at hLength
  omega

end Xiu.Mpegts
