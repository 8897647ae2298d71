import Xiu.Mpegts.Define

/-! The sections that tell which programs and streams there are, of `pat.rs`, `pmt.rs` and
`crc32.rs`. -/

namespace Xiu.Mpegts

open Bytesio

def CRC32_TABLE : List UInt32 :=
  [
    0x00000000, 0xB71DC104, 0x6E3B8209, 0xD926430D, 0xDC760413, 0x6B6BC517, 0xB24D861A, 0x0550471E,
    0xB8ED0826, 0x0FF0C922, 0xD6D68A2F, 0x61CB4B2B, 0x649B0C35, 0xD386CD31, 0x0AA08E3C, 0xBDBD4F38,
    0x70DB114C, 0xC7C6D048, 0x1EE09345, 0xA9FD5241, 0xACAD155F, 0x1BB0D45B, 0xC2969756, 0x758B5652,
    0xC836196A, 0x7F2BD86E, 0xA60D9B63, 0x11105A67, 0x14401D79, 0xA35DDC7D, 0x7A7B9F70, 0xCD665E74,
    0xE0B62398, 0x57ABE29C, 0x8E8DA191, 0x39906095, 0x3CC0278B, 0x8BDDE68F, 0x52FBA582, 0xE5E66486,
    0x585B2BBE, 0xEF46EABA, 0x3660A9B7, 0x817D68B3, 0x842D2FAD, 0x3330EEA9, 0xEA16ADA4, 0x5D0B6CA0,
    0x906D32D4, 0x2770F3D0, 0xFE56B0DD, 0x494B71D9, 0x4C1B36C7, 0xFB06F7C3, 0x2220B4CE, 0x953D75CA,
    0x28803AF2, 0x9F9DFBF6, 0x46BBB8FB, 0xF1A679FF, 0xF4F63EE1, 0x43EBFFE5, 0x9ACDBCE8, 0x2DD07DEC,
    0x77708634, 0xC06D4730, 0x194B043D, 0xAE56C539, 0xAB068227, 0x1C1B4323, 0xC53D002E, 0x7220C12A,
    0xCF9D8E12, 0x78804F16, 0xA1A60C1B, 0x16BBCD1F, 0x13EB8A01, 0xA4F64B05, 0x7DD00808, 0xCACDC90C,
    0x07AB9778, 0xB0B6567C, 0x69901571, 0xDE8DD475, 0xDBDD936B, 0x6CC0526F, 0xB5E61162, 0x02FBD066,
    0xBF469F5E, 0x085B5E5A, 0xD17D1D57, 0x6660DC53, 0x63309B4D, 0xD42D5A49, 0x0D0B1944, 0xBA16D840,
    0x97C6A5AC, 0x20DB64A8, 0xF9FD27A5, 0x4EE0E6A1, 0x4BB0A1BF, 0xFCAD60BB, 0x258B23B6, 0x9296E2B2,
    0x2F2BAD8A, 0x98366C8E, 0x41102F83, 0xF60DEE87, 0xF35DA999, 0x4440689D, 0x9D662B90, 0x2A7BEA94,
    0xE71DB4E0, 0x500075E4, 0x892636E9, 0x3E3BF7ED, 0x3B6BB0F3, 0x8C7671F7, 0x555032FA, 0xE24DF3FE,
    0x5FF0BCC6, 0xE8ED7DC2, 0x31CB3ECF, 0x86D6FFCB, 0x8386B8D5, 0x349B79D1, 0xEDBD3ADC, 0x5AA0FBD8,
    0xEEE00C69, 0x59FDCD6D, 0x80DB8E60, 0x37C64F64, 0x3296087A, 0x858BC97E, 0x5CAD8A73, 0xEBB04B77,
    0x560D044F, 0xE110C54B, 0x38368646, 0x8F2B4742, 0x8A7B005C, 0x3D66C158, 0xE4408255, 0x535D4351,
    0x9E3B1D25, 0x2926DC21, 0xF0009F2C, 0x471D5E28, 0x424D1936, 0xF550D832, 0x2C769B3F, 0x9B6B5A3B,
    0x26D61503, 0x91CBD407, 0x48ED970A, 0xFFF0560E, 0xFAA01110, 0x4DBDD014, 0x949B9319, 0x2386521D,
    0x0E562FF1, 0xB94BEEF5, 0x606DADF8, 0xD7706CFC, 0xD2202BE2, 0x653DEAE6, 0xBC1BA9EB, 0x0B0668EF,
    0xB6BB27D7, 0x01A6E6D3, 0xD880A5DE, 0x6F9D64DA, 0x6ACD23C4, 0xDDD0E2C0, 0x04F6A1CD, 0xB3EB60C9,
    0x7E8D3EBD, 0xC990FFB9, 0x10B6BCB4, 0xA7AB7DB0, 0xA2FB3AAE, 0x15E6FBAA, 0xCCC0B8A7, 0x7BDD79A3,
    0xC660369B, 0x717DF79F, 0xA85BB492, 0x1F467596, 0x1A163288, 0xAD0BF38C, 0x742DB081, 0xC3307185,
    0x99908A5D, 0x2E8D4B59, 0xF7AB0854, 0x40B6C950, 0x45E68E4E, 0xF2FB4F4A, 0x2BDD0C47, 0x9CC0CD43,
    0x217D827B, 0x9660437F, 0x4F460072, 0xF85BC176, 0xFD0B8668, 0x4A16476C, 0x93300461, 0x242DC565,
    0xE94B9B11, 0x5E565A15, 0x87701918, 0x306DD81C, 0x353D9F02, 0x82205E06, 0x5B061D0B, 0xEC1BDC0F,
    0x51A69337, 0xE6BB5233, 0x3F9D113E, 0x8880D03A, 0x8DD09724, 0x3ACD5620, 0xE3EB152D, 0x54F6D429,
    0x7926A9C5, 0xCE3B68C1, 0x171D2BCC, 0xA000EAC8, 0xA550ADD6, 0x124D6CD2, 0xCB6B2FDF, 0x7C76EEDB,
    0xC1CBA1E3, 0x76D660E7, 0xAFF023EA, 0x18EDE2EE, 0x1DBDA5F0, 0xAAA064F4, 0x738627F9, 0xC49BE6FD,
    0x09FDB889, 0xBEE0798D, 0x67C63A80, 0xD0DBFB84, 0xD58BBC9A, 0x62967D9E, 0xBBB03E93, 0x0CADFF97,
    0xB110B0AF, 0x060D71AB, 0xDF2B32A6, 0x6836F3A2, 0x6D66B4BC, 0xDA7B75B8, 0x035D36B5, 0xB440F7B1]

def genCrc32 (crc : UInt32) (buffer : List UInt8) : UInt32 :=
  buffer.foldl (fun result i =>
    CRC32_TABLE.getD ((result ^^^ i.toUInt32) &&& 0xff).toNat 0 ^^^ (result >>> 8)) crc

/-- A section with its checksum. -/
def withCrc32 (w : BytesWriter) : List UInt8 :=
  (w.writeU32 .littleEndian (genCrc32 0xffffffff w.bytes)).bytes

/-- `PatMuxer::write`. -/
def Pat.write (pat : Pat) : List UInt8 :=
  let w : BytesWriter := ⟨[]⟩
  let w := w.writeU8 PAT_TID_PAS.toUInt8
  let length : UInt16 := UInt16.ofNat pat.pmt.length * 4 + 5 + 4
  let w := w.writeU16 .bigEndian (0xb000 ||| length)
  let w := w.writeU16 .bigEndian pat.transportStreamId
  let w := w.writeU8 ((0xC1 : UInt8) ||| pat.versionNumber <<< (1 : UInt8))
  let w := w.writeU16 .bigEndian 0x00
  let w := pat.pmt.foldl (fun w ele =>
    (w.writeU16 .bigEndian ele.programNumber).writeU16 .bigEndian (0xE000 ||| ele.pid)) w
  withCrc32 w

/-- The program info that a section contains. -/
def Pmt.writtenInfo (pmt : Pmt) : List UInt8 :=
  let programInfoLength := UInt16.ofNat pmt.programInfo.length
  if programInfoLength > 0 ∧ programInfoLength < 0x400 then pmt.programInfo else []

/-- The entry of a stream. -/
def writeStream (w : BytesWriter) (stream : Pes) : BytesWriter :=
  let streamType :=
    if stream.codecId = PSI_STREAM_AUDIO_OPUS then PSI_STREAM_PRIVATE_DATA else stream.codecId
  let w := w.writeU8 streamType
  let w := w.writeU16 .bigEndian (0xE000 ||| stream.pid)
  w.writeU16 .bigEndian 0xF000

/-- `PmtMuxer::write`, whose section length panics where it does not fit. -/
def Pmt.write (pmt : Pmt) : Except MuxFault (List UInt8) :=
  let w : BytesWriter := ⟨[]⟩
  let w := w.writeU8 PAT_TID_PMS.toUInt8
  let tmp : BytesWriter := ⟨[]⟩
  let tmp := tmp.writeU16 .bigEndian pmt.programNumber
  let tmp := tmp.writeU8 ((0xC1 : UInt8) ||| pmt.versionNumber <<< (1 : UInt8))
  let tmp := tmp.writeU8 0x00
  let tmp := tmp.writeU8 0x00
  let tmp := tmp.writeU16 .bigEndian (0xE000 ||| pmt.pcrPid)
  let tmp := tmp.writeU16 .bigEndian (0xF000 ||| UInt16.ofNat pmt.programInfo.length)
  let tmp := tmp.write pmt.writtenInfo
  let tmp := pmt.streams.foldl writeStream tmp
  let length := UInt16.ofNat tmp.len
  if length.toNat + 4 < 2 ^ 16 then
    .ok (withCrc32 ((w.writeU16 .bigEndian (0xB000 ||| (length + 4))).write tmp.bytes))
  else .error .panic

theorem length_withCrc32 (w : BytesWriter) : (withCrc32 w).length = w.len + 4 := by
  simp [withCrc32, BytesWriter.writeU32, BytesWriter.len]

theorem length_patEntries (pmts : List Pmt) (w : BytesWriter) :
    (pmts.foldl (fun w ele =>
      (w.writeU16 .bigEndian ele.programNumber).writeU16 .bigEndian (0xE000 ||| ele.pid)) w).len =
      w.len + 4 * pmts.length := by
  induction pmts generalizing w with
  | nil => rfl
  | cons pmt rest ih =>
    rw [List.foldl_cons, ih]
    simp only [BytesWriter.writeU16, BytesWriter.len, List.length_append, ByteOrder.length_encode,
      List.length_cons]
    omega

theorem length_pat (pat : Pat) : pat.write.length = 12 + 4 * pat.pmt.length := by
  unfold Pat.write
  rw [length_withCrc32, length_patEntries]
  simp only [BytesWriter.writeU8, BytesWriter.writeU16, BytesWriter.len, List.length_append,
    ByteOrder.length_encode, List.length_cons, List.length_nil]
  omega

theorem length_streamEntries (streams : List Pes) (w : BytesWriter) :
    (streams.foldl writeStream w).len = w.len + 5 * streams.length := by
  induction streams generalizing w with
  | nil => rfl
  | cons stream rest ih =>
    rw [List.foldl_cons, ih]
    simp only [writeStream, BytesWriter.writeU8, BytesWriter.writeU16, BytesWriter.len,
      List.length_append, ByteOrder.length_encode, List.length_cons, List.length_nil]
    omega

/-- The length of the section of a program. -/
def Pmt.sectionLen (pmt : Pmt) : Nat := 16 + pmt.writtenInfo.length + 5 * pmt.streams.length

/-- A section that fits a packet is written. -/
theorem write_pmt {pmt : Pmt} (h : pmt.sectionLen ≤ 183) :
    ∃ bytes, pmt.write = .ok bytes ∧ bytes.length = pmt.sectionLen := by
  have hLen : (pmt.streams.foldl writeStream (((((((⟨[]⟩ : BytesWriter).writeU16 .bigEndian
      pmt.programNumber).writeU8 ((0xC1 : UInt8) ||| pmt.versionNumber <<< (1 : UInt8))).writeU8 0x00).writeU8
      0x00).writeU16 .bigEndian (0xE000 ||| pmt.pcrPid)).writeU16 .bigEndian
      (0xF000 ||| UInt16.ofNat pmt.programInfo.length) |>.write pmt.writtenInfo)).len =
        pmt.sectionLen - 7 := by
    rw [length_streamEntries]
    simp only [BytesWriter.writeU8, BytesWriter.writeU16, BytesWriter.write, BytesWriter.len,
      List.length_append, ByteOrder.length_encode, List.length_cons, List.length_nil,
      Pmt.sectionLen]
    omega
  unfold Pmt.write
  dsimp only
  rw [hLen, UInt16.toNat_ofNat', Nat.mod_eq_of_lt (by omega), if_pos (by omega)]
  refine ⟨_, rfl, ?_⟩
  rw [length_withCrc32]
  unfold BytesWriter.len at hLen
  simp only [BytesWriter.write, BytesWriter.writeU8, BytesWriter.writeU16, BytesWriter.len,
    List.length_append, ByteOrder.length_encode, List.length_cons, List.length_nil] at hLen ⊢
  rw [hLen]
  unfold Pmt.sectionLen
  omega

end Xiu.Mpegts
