import Mathlib.Tactic.Common
import Xiu.Mpegts.Output
import Xiu.ProofKit.Pieces

/-! How an output is read by the rules of ISO 13818-1, independently of how the muxer writes it: packets
of 188 bytes, whose adaptation field is skipped, make up PES packets, each of which starts where the
payload unit start indicator is set. -/

namespace Xiu.Mpegts

open Bytesio ProofKit TsMuxer

/-! ### The rules -/

/-- The output cut into packets. -/
def packetsOf (output : List UInt8) : List (List UInt8) :=
  if output = [] then [] else pieces TS_PACKET_SIZE output

def pidOf (packet : List UInt8) : UInt16 :=
  ((packet.getD 1 0 &&& 0x1F).toUInt16 <<< 8) ||| (packet.getD 2 0).toUInt16

def counterOf (packet : List UInt8) : UInt8 := packet.getD 3 0 &&& 0x0F

def hasPayload (packet : List UInt8) : Bool := packet.getD 3 0 &&& 0x10 > 0

def startsUnit (packet : List UInt8) : Bool := packet.getD 1 0 &&& 0x40 > 0

/-- The adaptation field, without its length, and what comes after it. -/
def splitField (packet : List UInt8) : List UInt8 × List UInt8 :=
  if packet.getD 3 0 &&& 0x20 > 0 then
    ((packet.drop 5).take (packet.getD 4 0).toNat, (packet.drop 5).drop (packet.getD 4 0).toNat)
  else ([], packet.drop 4)

/-- The base of the program clock reference in an adaptation field. -/
def pcrBaseOf : List UInt8 → Option Nat
  | flags :: a :: b :: c :: d :: e :: _ =>
    if flags &&& 0x10 > 0 then
      some (a.toNat * 2 ^ 25 + b.toNat * 2 ^ 17 + c.toNat * 2 ^ 9 + d.toNat * 2 + e.toNat / 128)
    else none
  | _ => none

/-- A PES packet as it is put together: the clock reference of the packet that starts it, and its
bytes. -/
abbrev PesBytes := Option Nat × List UInt8

/-- What continues a PES packet that has started before, and the PES packets after it. -/
def gather : List (List UInt8) → List UInt8 × List PesBytes
  | [] => ([], [])
  | packet :: rest =>
    if startsUnit packet then
      ([], (pcrBaseOf (splitField packet).1, (splitField packet).2 ++ (gather rest).1) ::
        (gather rest).2)
    else ((splitField packet).2 ++ (gather rest).1, (gather rest).2)

/-- The 33 bits of a time stamp. -/
def timestampOf : List UInt8 → Option Nat
  | a :: b :: c :: d :: e :: _ =>
    some (a.toNat / 2 % 8 * 2 ^ 30 + b.toNat * 2 ^ 22 + c.toNat / 2 * 2 ^ 15 + d.toNat * 2 ^ 7 +
      e.toNat / 2)
  | _ => none

/-- A PES packet as it is read. -/
structure AccessUnit where
  pts : Option Nat
  dts : Option Nat
  pcrBase : Option Nat
  data : List UInt8
  deriving DecidableEq

/-- The time stamps in the optional fields of a header: without a DTS, it is the PTS. -/
def stampsOf (flags : UInt8) (optional : List UInt8) : Option Nat × Option Nat :=
  if flags &&& 0x80 > 0 then
    (timestampOf optional,
      if flags &&& 0x40 > 0 then timestampOf (optional.drop 5) else timestampOf optional)
  else (none, none)

/-- The bytes that the length field of a PES packet counts; with a length of 0 they are all that
follow. -/
def lengthLimited (hi lo : UInt8) (rest : List UInt8) : List UInt8 :=
  if hi.toNat * 256 + lo.toNat = 0 then rest else rest.take (hi.toNat * 256 + lo.toNat)

/-- What follows the length field: the flags, the optional fields, and the data. -/
def parseFields (pcrBase : Option Nat) : List UInt8 → Option AccessUnit
  | marker :: flags :: n :: rest =>
    if marker &&& 0xC0 = 0x80 then
      let stamps := stampsOf flags (rest.take n.toNat)
      some ⟨stamps.1, stamps.2, pcrBase, rest.drop n.toNat⟩
    else none
  | _ => none

def parsePes : PesBytes → Option AccessUnit
  | (pcrBase, a :: b :: c :: _ :: hi :: lo :: rest) =>
    if a = 0x00 ∧ b = 0x00 ∧ c = 0x01 then parseFields pcrBase (lengthLimited hi lo rest) else none
  | _ => none

/-- The access units of a pid.  There are none where the output is not made of whole packets. -/
def demux (pid : UInt16) (output : List UInt8) : Option (List AccessUnit) :=
  if (packetsOf output).all fun packet => packet.length = TS_PACKET_SIZE ∧ packet.head? = some 0x47
  then
    (gather ((packetsOf output).filter fun packet => hasPayload packet && pidOf packet == pid)).2.mapM
      parsePes
  else none

/-! ### The packets of the muxer -/

theorem packetsOf_flatMap (packets : List TsPacket) :
    packetsOf (packets.flatMap (·.bytes)) = packets.map (·.bytes) := by
  have hSize : 0 < TS_PACKET_SIZE := by decide
  induction packets with
  | nil => rfl
  | cons packet rest ih =>
    have hLength : packet.bytes.length = TS_PACKET_SIZE := packet.length_bytes
    have hNe : packet.bytes ++ rest.flatMap (·.bytes) ≠ [] := by
      intro hNil
      have := congrArg List.length hNil
      rw [List.length_append, hLength, List.length_nil] at this
      omega
    rw [List.flatMap_cons, List.map_cons, ← ih, packetsOf, if_neg hNe, packetsOf]
    by_cases hRest : rest.flatMap (·.bytes) = []
    · rw [hRest, List.append_nil, if_pos rfl, pieces_last (Nat.le_of_eq hLength)]
    · have hPos := List.length_pos_iff.mpr hRest
      rw [if_neg hRest, pieces_more hSize (by rw [List.length_append]; omega), ← hLength,
        List.take_left, List.drop_left]

theorem hasPayload_bytes (p : TsPacket) : hasPayload p.bytes = true := by
  have hPlain : ∀ b : UInt8, ((0x10 : UInt8) ||| b &&& 0x0F) &&& 0x10 > 0 := forall_byte (by decide)
  have hField : ∀ b : UInt8, (((0x10 : UInt8) ||| b &&& 0x0F) ||| 0x20) &&& 0x10 > 0 :=
    forall_byte (by decide)
  show decide ((if p.field.isSome then _ else _) &&& (0x10 : UInt8) > 0) = true
  split
  · exact decide_eq_true (hField _)
  · exact decide_eq_true (hPlain _)

/-- A number of 13 bits from its high and its low byte. -/
theorem pid_halves {pid : UInt16} (h : pid.toNat < 0x2000) :
    (((pid >>> 8).toUInt8 &&& (0x1F : UInt8)).toUInt16 <<< 8) ||| pid.toUInt8.toUInt16 = pid := by
  have hHigh : ((pid >>> 8).toUInt8 &&& (0x1F : UInt8)).toNat = pid.toNat / 256 := by
    rw [UInt8.toNat_and, UInt16.toNat_toUInt8, UInt16.toNat_shiftRight]
    show ((pid.toNat >>> 8) % 2 ^ 8 &&& (2 ^ 5 - 1) : Nat) = _
    rw [Nat.and_two_pow_sub_one_eq_mod, Nat.shiftRight_eq_div_pow]
    omega
  apply UInt16.toNat_inj.mp
  rw [UInt16.toNat_or, UInt16.toNat_shiftLeft, UInt8.toNat_toUInt16, UInt8.toNat_toUInt16,
    UInt16.toNat_toUInt8, hHigh]
  show (pid.toNat / 256) <<< 8 % 2 ^ 16 ||| pid.toNat % 2 ^ 8 = pid.toNat
  have hShift : (pid.toNat / 256) <<< 8 % 2 ^ 16 = (pid.toNat / 256) <<< 8 := by
    rw [Nat.shiftLeft_eq]
    omega
  rw [hShift, ← Nat.shiftLeft_add_eq_or_of_lt (by omega), Nat.shiftLeft_eq]
  omega

/-- The pid is read back, where it has 13 bits. -/
theorem pidOf_bytes (p : TsPacket) (h : p.pid.toNat < 0x2000) : pidOf p.bytes = p.pid := by
  have hMask : ∀ b : UInt8, (b &&& 0x1F ||| TS_PAYLOAD_UNIT_START_INDICATOR) &&& 0x1F = b &&& 0x1F :=
    forall_byte (by decide)
  have hMask' : ∀ b : UInt8, b &&& 0x1F &&& 0x1F = b &&& 0x1F := forall_byte (by decide)
  have hByte : TsPacket.startByte p.start p.pid &&& (0x1F : UInt8) =
      (p.pid >>> 8).toUInt8 &&& (0x1F : UInt8) := by
    unfold TsPacket.startByte
    split
    · exact hMask _
    · exact hMask' _
  show ((TsPacket.startByte p.start p.pid &&& (0x1F : UInt8)).toUInt16 <<< 8) |||
    p.pid.toUInt8.toUInt16 = p.pid
  rw [hByte]
  exact pid_halves h

/-- The packets of a pid. -/
theorem filter_bytes (pid : UInt16) {packets : List TsPacket}
    (h : ∀ p ∈ packets, p.pid.toNat < 0x2000) :
    (packets.map (·.bytes)).filter (fun packet => hasPayload packet && pidOf packet == pid) =
      (packets.filter (·.pid == pid)).map (·.bytes) := by
  rw [List.filter_map]
  refine congrArg (List.map _) (List.filter_congr fun p hp => ?_)
  simp only [Function.comp_apply, hasPayload_bytes, pidOf_bytes p (h p hp), Bool.true_and]

theorem startsUnit_bytes (p : TsPacket) : startsUnit p.bytes = p.start := by
  have hStart : ∀ b : UInt8, (b &&& 0x1F ||| TS_PAYLOAD_UNIT_START_INDICATOR) &&& 0x40 > 0 :=
    forall_byte (by decide)
  have hOther : ∀ b : UInt8, ¬(b &&& 0x1F) &&& 0x40 > 0 := forall_byte (by decide)
  show decide (TsPacket.startByte p.start p.pid &&& (0x40 : UInt8) > 0) = p.start
  unfold TsPacket.startByte
  cases p.start with
  | false => exact decide_eq_false (hOther _)
  | true => exact decide_eq_true (hStart _)

/-- The adaptation field is skipped. -/
theorem splitField_bytes (p : TsPacket) : splitField p.bytes = (p.field.getD [], p.payload) := by
  have hPlain : ∀ b : UInt8, ¬((0x10 : UInt8) ||| b &&& 0x0F) &&& 0x20 > 0 :=
    forall_byte (by decide)
  have hField : ∀ b : UInt8, (((0x10 : UInt8) ||| b &&& 0x0F) ||| 0x20) &&& 0x20 > 0 :=
    forall_byte (by decide)
  have hWhole := p.whole
  unfold splitField TsPacket.bytes headerBytes
  cases hOption : p.field with
  | none =>
    simp only [Option.isSome_none, Bool.false_eq_true, if_false, fieldBytes, List.cons_append,
      List.nil_append, List.getD_cons_succ, List.getD_cons_zero, Option.getD_none]
    rw [if_neg (hPlain _)]
    rfl
  | some field =>
    have hLength : (UInt8.ofNat field.length).toNat = field.length := by
      rw [hOption, fieldBytes, List.length_cons] at hWhole
      rw [UInt8.toNat_ofNat']
      omega
    simp only [Option.isSome_some, if_true, fieldBytes, List.cons_append, List.getD_cons_succ,
      List.getD_cons_zero, Option.getD_some, List.drop_succ_cons, List.drop_zero, hLength]
    rw [if_pos (hField _), List.take_left, List.drop_left]

/-! ### Numbers cut into bytes -/

theorem toNat_asU8 (n : Nat) : (asU8 n).toNat = n % 256 := by
  rw [asU8_natCast, UInt8.toNat_ofNat']

theorem natCast_shiftRight_eq_div (n k : Nat) : (n : Int) >>> k = ((n / 2 ^ k : Nat) : Int) := by
  rw [Int.shiftRight_eq_div_pow]
  norm_cast

/-- The high bits of a time stamp, beside its marker. -/
theorem highBits {marker : UInt8} (h : marker = 0x10 ∨ marker = 0x20 ∨ marker = 0x30) (b : UInt8) :
    (marker ||| (b &&& (0x07 : UInt8)) <<< (1 : UInt8) ||| 0x01).toNat / 2 % 8 = b.toNat % 8 := by
  revert b
  rcases h with rfl | rfl | rfl
  · exact forall_byte (by decide)
  · exact forall_byte (by decide)
  · exact forall_byte (by decide)

/-- A time stamp is read back. -/
theorem timestampOf_bytes {marker : UInt8} (hMarker : marker = 0x10 ∨ marker = 0x20 ∨ marker = 0x30)
    {t : Int64} {n : Nat} (ht : t.toInt = n) (hn : n < 2 ^ 33) (rest : List UInt8) :
    timestampOf (timestampBytes marker t ++ rest) = some n := by
  have hOdd : ∀ b : UInt8, (b &&& 0xFE ||| 0x01).toNat / 2 = b.toNat / 2 := forall_byte (by decide)
  have hDouble : ((n : Int) * 2) = ((n * 2 : Nat) : Int) := by omega
  show some _ = some n
  simp only [highBits hMarker, hOdd, ht, natCast_shiftRight_eq_div, toNat_asU8, hDouble]
  congr 1
  omega

/-- The clock reference is read back. -/
theorem pcrBaseOf_pcr {stream : Pes} {n : Nat} (ht : stream.clock.toInt = n) (hn : n < 2 ^ 33)
    {flags : UInt8} (hFlags : flags &&& 0x10 > 0) (rest : List UInt8) :
    pcrBaseOf (flags :: (stream.pcr ++ rest)) = some n := by
  have hScaled : (Int64.ofInt (stream.clock.toInt * 300)).toInt = ((n * 300 : Nat) : Int) := by
    rw [ht, Int64.toInt_ofInt_of_le (by omega) (by omega)]
    omega
  have hBase : ((n * 300 : Nat) : Int).tdiv 300 = n := by
    rw [Int.tdiv_eq_ediv_of_nonneg (by omega)]
    omega
  have hExt : ((n * 300 : Nat) : Int).tmod 300 = 0 := by
    rw [Int.tmod_eq_emod_of_nonneg (by omega)]
    omega
  have hLast : ∀ b : UInt8, ((b &&& (0x01 : UInt8)) <<< (7 : UInt8) ||| (0x7E : UInt8) |||
      asU8 ((0 : Int) >>> (8 : Nat)) &&& (0x01 : UInt8)).toNat / 128 = b.toNat % 2 :=
    forall_byte (by decide)
  refine (if_pos hFlags).trans ?_
  rw [hScaled, hBase, hExt]
  simp only [hLast, natCast_shiftRight_eq_div, toNat_asU8]
  congr 1
  omega

/-- Where the adaptation field has no clock reference, none is read. -/
theorem pcrBaseOf_none {flags : UInt8} (hFlags : ¬flags &&& 0x10 > 0) (rest : List UInt8) :
    pcrBaseOf (flags :: rest) = none := by
  unfold pcrBaseOf
  split
  · rename_i hEq
    obtain ⟨rfl, -⟩ := List.cons.inj hEq
    exact if_neg hFlags
  · rfl

theorem stuffed_some (field : List UInt8) (n : Nat) :
    ∃ rest, stuffed (some field) n = some (field ++ rest) := by
  unfold stuffed
  split
  · exact ⟨[], by rw [List.append_nil]⟩
  · exact ⟨_, rfl⟩

/-- There is no clock reference in stuffing. -/
theorem pcrBaseOf_stuffing (n : Nat) : pcrBaseOf ((stuffed none n).getD []) = none := by
  unfold stuffed
  split
  · rfl
  · dsimp only [Option.getD_some]
    split
    · rfl
    · exact pcrBaseOf_none (by decide) _

/-- The clock reference of the packet that starts an access unit. -/
theorem pcrBaseOf_stuffed {stream : Pes} {pcrPid : UInt16} {k : Nat} (ht : stream.clock.toInt = k)
    (hk : k < 2 ^ 33) (n : Nat) :
    pcrBaseOf ((stuffed (startField stream pcrPid) n).getD []) =
      if stream.pid = pcrPid then some k else none := by
  unfold startField fieldFlags
  by_cases hPid : stream.pid = pcrPid
  · have hFlags : (AF_FLAG_PCR ||| (if RandomAccess stream then AF_FLAG_RANDOM_ACCESS_INDICATOR
        else 0)) &&& 0x10 > 0 := by
      split
      · decide
      · decide
    obtain ⟨rest, hRest⟩ := stuffed_some ((AF_FLAG_PCR ||| (if RandomAccess stream then
      AF_FLAG_RANDOM_ACCESS_INDICATOR else 0)) :: stream.pcr) n
    rw [if_pos (Or.inl hPid), if_pos hPid, if_pos hPid, if_pos hPid, hRest]
    exact pcrBaseOf_pcr ht hk hFlags rest
  · by_cases hRandom : RandomAccess stream
    · obtain ⟨rest, hRest⟩ := stuffed_some [0 ||| AF_FLAG_RANDOM_ACCESS_INDICATOR] n
      rw [if_pos (Or.inr hRandom), if_neg hPid, if_neg hPid, if_neg hPid, if_pos hRandom, hRest]
      exact pcrBaseOf_none (by decide) rest
    · rw [if_neg (not_or.mpr ⟨hPid, hRandom⟩), if_neg hPid]
      exact pcrBaseOf_stuffing n

/-! ### Access units -/

/-- A length field counts all that follows it, or is 0. -/
theorem lengthLimited_pesLength (n : Nat) : ∃ hi lo, pesLength n = [hi, lo] ∧
    ∀ rest : List UInt8, rest.length = n → lengthLimited hi lo rest = rest := by
  unfold pesLength
  split
  · exact ⟨0x00, 0x00, rfl, fun _ _ => if_pos rfl⟩
  · rename_i hShort
    have hValue : (UInt8.ofNat (n >>> 8)).toNat * 256 + (UInt8.ofNat n).toNat = n := by
      rw [UInt8.toNat_ofNat', UInt8.toNat_ofNat', Nat.shiftRight_eq_div_pow]
      omega
    refine ⟨_, _, rfl, fun rest hRest => ?_⟩
    unfold lengthLimited
    rw [hValue]
    split
    · rfl
    · exact List.take_of_length_le (Nat.le_of_eq hRest)

theorem stampsOf_pts (optional : List UInt8) :
    stampsOf 0x80 optional = (timestampOf optional, timestampOf optional) := by
  unfold stampsOf
  rw [if_pos (by decide), if_neg (by decide)]

theorem stampsOf_both (optional : List UInt8) :
    stampsOf 0xC0 optional = (timestampOf optional, timestampOf (optional.drop 5)) := by
  unfold stampsOf
  rw [if_pos (by decide), if_pos (by decide)]

/-- The time stamps of a header, read back. -/
theorem stampsOf_timestamps {stream : Pes} {n k : Nat} (hPts : stream.pts.toInt = n)
    (hDts : stream.dts.toInt = k) (hn : n < 2 ^ 33) (hk : k < 2 ^ 33) :
    stream.timestamps.length = stream.optionalLen.toNat ∧
      stampsOf stream.flags stream.timestamps = (some n, some k) := by
  have hNoValue : PTS_NO_VALUE.toInt = -2 ^ 63 := by decide
  have hPtsValue : PTS_NO_VALUE ≠ stream.pts := by
    intro hEq
    rw [← hEq, hNoValue] at hPts
    omega
  have hDtsValue : PTS_NO_VALUE ≠ stream.dts := by
    intro hEq
    rw [← hEq, hNoValue] at hDts
    omega
  by_cases hSame : stream.dts = stream.pts
  · have hFlags : stream.flags = 0x80 := by
      rw [Pes.flags, if_pos hPtsValue, if_neg (fun h => h.2 hSame)]
      decide
    have hLen : stream.optionalLen = 5 := by
      rw [Pes.optionalLen, if_pos hPtsValue, if_neg (fun h => h.2 hSame)]
      decide
    have hBytes : stream.timestamps = timestampBytes 0x20 stream.pts ++ [] := by
      rw [Pes.timestamps, hFlags]
      rfl
    have hEq : n = k := by
      rw [hSame, hPts] at hDts
      omega
    rw [hBytes, hFlags, hLen, hEq]
    refine ⟨rfl, ?_⟩
    rw [stampsOf_pts, timestampOf_bytes (by decide) (hPts.trans (by rw [hEq])) hk]
  · have hFlags : stream.flags = 0xC0 := by
      rw [Pes.flags, if_pos hPtsValue, if_pos ⟨hDtsValue, hSame⟩]
      decide
    have hLen : stream.optionalLen = 10 := by
      rw [Pes.optionalLen, if_pos hPtsValue, if_pos ⟨hDtsValue, hSame⟩]
      decide
    have hBytes : stream.timestamps = timestampBytes 0x30 stream.pts ++
        (timestampBytes 0x10 stream.dts ++ []) := by
      rw [Pes.timestamps, hFlags, List.append_nil]
      rfl
    rw [hBytes, hFlags, hLen]
    refine ⟨rfl, ?_⟩
    rw [stampsOf_both, timestampOf_bytes (by decide) hPts hn,
      ← length_timestampBytes 0x30 stream.pts, List.drop_left,
      timestampOf_bytes (by decide) hDts hk]

/-- The PES packet of an access unit is read back. -/
theorem parsePes_pesHeader {stream : Pes} {n k : Nat} (hPts : stream.pts.toInt = n)
    (hDts : stream.dts.toInt = k) (hn : n < 2 ^ 33) (hk : k < 2 ^ 33) (withAud : Bool)
    (pcrBase : Option Nat) (payload : List UInt8) :
    parsePes (pcrBase, pesHeader payload.length stream withAud ++ payload) =
      some ⟨some n, some k, pcrBase, accessUnitDelimiter stream withAud ++ payload⟩ := by
  obtain ⟨hLength, hStamps⟩ := stampsOf_timestamps hPts hDts hn hk
  obtain ⟨hi, lo, hBytes, hLimited⟩ := lengthLimited_pesLength
    (3 + (stream.timestamps ++ accessUnitDelimiter stream withAud).length + payload.length)
  have hMarker : (if stream.dataAlignmentIndicator > 0 then (0x84 : UInt8) else 0x80) &&& 0xC0 =
      0x80 := by
    split
    · decide
    · decide
  unfold pesHeader parsePes
  simp only [hBytes, List.cons_append, List.nil_append, and_self, if_true]
  rw [hLimited _ (by simp only [List.length_cons, List.length_append]; omega), List.append_assoc]
  refine (if_pos hMarker).trans ?_
  rw [← hLength, List.take_left, List.drop_left, hStamps]

/-- A packet is put where it belongs. -/
theorem gather_bytes (p : TsPacket) (rest : List (List UInt8)) :
    gather (p.bytes :: rest) =
      if p.start then ([], (pcrBaseOf (p.field.getD []), p.payload ++ (gather rest).1) :: (gather rest).2)
      else (p.payload ++ (gather rest).1, (gather rest).2) := by
  rw [gather, startsUnit_bytes, splitField_bytes]

theorem gather_restPackets (pid : UInt16) (c : UInt8) (data : List UInt8) :
    gather ((restPackets pid c data).map (·.bytes)) = (data, []) := by
  induction hn : data.length using Nat.strongRecOn generalizing c data with
  | ind n ih =>
    subst hn
    by_cases hData : data = []
    · subst hData
      rw [restPackets_nil]
      rfl
    · have hPos := List.length_pos_iff.mpr hData
      have hDrop : (data.drop 184).length < data.length := by
        rw [List.length_drop]
        omega
      rw [restPackets_more pid c hData, List.map_cons, gather_bytes, ih _ hDrop _ _ rfl]
      exact congrArg (·, []) (List.take_append_drop 184 data)

/-- The packets of an access unit are put together. -/
theorem gather_accessUnit {stream : Pes} {k : Nat} (ht : stream.clock.toInt = k) (hk : k < 2 ^ 33)
    (pcrPid : UInt16) (withAud : Bool) {payload : List UInt8} (hPayload : payload ≠ []) :
    gather ((accessUnit stream pcrPid withAud payload).map (·.bytes)) =
      ([], [(if stream.pid = pcrPid then some k else none,
        pesHeader payload.length stream withAud ++ payload)]) := by
  have hPcr : pcrBaseOf ((nextPacket true stream pcrPid withAud payload).field.getD []) =
      if stream.pid = pcrPid then some k else none := pcrBaseOf_stuffed ht hk _
  have hJoin : (nextPacket true stream pcrPid withAud payload).payload ++
      payload.drop (nextLength true stream pcrPid withAud payload) =
      pesHeader payload.length stream withAud ++ payload := by
    refine (List.append_assoc ..).trans ?_
    exact congrArg (pesHeader payload.length stream withAud ++ ·) (List.take_append_drop _ payload)
  rw [accessUnit, if_neg hPayload, List.map_cons, gather_bytes, gather_restPackets, hPcr, hJoin]
  rfl

/-- What starts a PES packet does not continue one. -/
theorem gather_append (packets : List (List UInt8)) {packets' : List (List UInt8)}
    (h : (gather packets').1 = []) :
    gather (packets ++ packets') =
      ((gather packets).1, (gather packets).2 ++ (gather packets').2) := by
  induction packets with
  | nil => exact Prod.ext h rfl
  | cons packet rest ih =>
    rw [List.cons_append, gather, gather, ih]
    split
    · rfl
    · rfl

theorem demux_flatMap (pid : UInt16) {packets : List TsPacket}
    (h : ∀ p ∈ packets, p.pid.toNat < 0x2000) :
    demux pid (packets.flatMap (·.bytes)) =
      (gather ((packets.filter (·.pid == pid)).map (·.bytes))).2.mapM parsePes := by
  have hAll : (packets.map (·.bytes)).all (fun packet =>
      packet.length = TS_PACKET_SIZE ∧ packet.head? = some 0x47) = true := by
    rw [List.all_eq_true]
    intro packet hPacket
    obtain ⟨p, -, rfl⟩ := List.mem_map.mp hPacket
    exact decide_eq_true ⟨p.length_bytes, p.head_bytes⟩
  unfold demux
  rw [packetsOf_flatMap, if_pos hAll, filter_bytes pid h]

end Xiu.Mpegts
