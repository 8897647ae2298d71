import Xiu.Mpegts.Define

/-! The header of a PES packet, of `pes.rs`, and the clock reference of `utils.rs`. -/

namespace Xiu.Mpegts

open Bytesio

/-- A time stamp of 33 bits, with its marker bits. -/
def writeTimestamp (w : BytesWriter) (marker : UInt8) (timestamp : Int64) : BytesWriter :=
  let t := timestamp.toInt
  let w := w.writeU8 (marker ||| (asU8 (t >>> (30 : Nat)) &&& (0x07 : UInt8)) <<< (1 : UInt8) ||| 0x01)
  let w := w.writeU8 (asU8 (t >>> (22 : Nat)))
  let w := w.writeU8 (asU8 (t >>> (14 : Nat)) &&& 0xFE ||| 0x01)
  let w := w.writeU8 (asU8 (t >>> (7 : Nat)))
  w.writeU8 (asU8 (t * 2) &&& 0xFE ||| 0x01)

/-- The second flag byte. -/
def Pes.flags (stream : Pes) : UInt8 :=
  (if PTS_NO_VALUE ≠ stream.pts then 0x80 else 0x00) |||
    (if PTS_NO_VALUE ≠ stream.dts ∧ stream.dts ≠ stream.pts then 0x40 else 0x00)

/-- The length of the optional fields. -/
def Pes.optionalLen (stream : Pes) : UInt8 :=
  (if PTS_NO_VALUE ≠ stream.pts then 5 else 0) +
    (if PTS_NO_VALUE ≠ stream.dts ∧ stream.dts ≠ stream.pts then 5 else 0)

/-- The access unit delimiter that is put before an access unit of H264 without one. -/
def accessUnitDelimiter (stream : Pes) (h264H265WithAud : Bool) : List UInt8 :=
  if PSI_STREAM_H264 = stream.codecId ∧ !h264H265WithAud then
    [0x00, 0x00, 0x00, 0x01, 0x09, 0xF0]
  else []

/-- The start code, the stream id, room for the length, and the first flag byte. -/
def writePesStart (stream : Pes) : Except MuxFault BytesWriter :=
  let w : BytesWriter := ⟨[0x00, 0x00, 0x01]⟩
  let w := w.writeU8 stream.streamId
  let w := (w.writeU8 0x00).writeU8 0x00
  let w := w.writeU8 0x80
  if stream.dataAlignmentIndicator > 0 then position (w.orU8At 6 0x04) else .ok w

/-- The second flag byte, the optional fields and the access unit delimiter. -/
def writePesOptional (w : BytesWriter) (stream : Pes) (h264H265WithAud : Bool) : BytesWriter :=
  let flags := stream.flags
  let w := w.writeU8 flags
  let w := w.writeU8 stream.optionalLen
  let w := if flags &&& 0x80 > 0 then writeTimestamp w (flags >>> 2 &&& 0x30) stream.pts else w
  let w := if flags &&& 0x40 > 0 then writeTimestamp w 0x10 stream.dts else w
  w.write (accessUnitDelimiter stream h264H265WithAud)

/-- "Update pes packet length". -/
def writePesLength (w : BytesWriter) (pesPayloadLength : Nat) : Except MuxFault BytesWriter :=
  if pesPayloadLength > 0xFFFF then do
    let w ← position (w.writeU8At 4 0x00)
    position (w.writeU8At 5 0x00)
  else do
    let w ← position (w.writeU8At 4 (UInt8.ofNat (pesPayloadLength >>> 8)))
    position (w.writeU8At 5 (UInt8.ofNat pesPayloadLength))

/-- `PesMuxer::write_pes_header`. -/
def writePesHeader (payloadDataLength : Nat) (stream : Pes) (h264H265WithAud : Bool) :
    Except MuxFault BytesWriter := do
  let w ← writePesStart stream
  let w := writePesOptional w stream h264H265WithAud
  writePesLength w (w.len - PES_HEADER_LEN + payloadDataLength)

/-- `pcr_write`. -/
def pcrWrite (pcr : Int64) : List UInt8 :=
  let pcrBase := pcr.toInt.tdiv 300
  let pcrExt := pcr.toInt.tmod 300
  [asU8 (pcrBase >>> (25 : Nat)), asU8 (pcrBase >>> (17 : Nat)), asU8 (pcrBase >>> (9 : Nat)),
    asU8 (pcrBase >>> (1 : Nat)),
    (asU8 pcrBase &&& (0x01 : UInt8)) <<< (7 : UInt8) ||| (0x7E : UInt8) |||
      asU8 (pcrExt >>> (8 : Nat)) &&& (0x01 : UInt8),
    asU8 pcrExt]

/-! ### What is written -/

/-- The bytes of a time stamp. -/
def timestampBytes (marker : UInt8) (timestamp : Int64) : List UInt8 :=
  (writeTimestamp ⟨[]⟩ marker timestamp).bytes

theorem writeTimestamp_eq (w : BytesWriter) (marker : UInt8) (timestamp : Int64) :
    writeTimestamp w marker timestamp = ⟨w.bytes ++ timestampBytes marker timestamp⟩ := by
  simp [writeTimestamp, timestampBytes, BytesWriter.writeU8]

/-- The time stamps that a header contains. -/
def Pes.timestamps (stream : Pes) : List UInt8 :=
  (if stream.flags &&& 0x80 > 0 then timestampBytes (stream.flags >>> 2 &&& 0x30) stream.pts
    else []) ++
  (if stream.flags &&& 0x40 > 0 then timestampBytes 0x10 stream.dts else [])

/-- The length field of a PES packet: what follows it, or 0 when that is too long. -/
def pesLength (n : Nat) : List UInt8 :=
  if n > 0xFFFF then [0x00, 0x00] else [UInt8.ofNat (n >>> 8), UInt8.ofNat n]

/-- The header of a PES packet. -/
def pesHeader (payloadDataLength : Nat) (stream : Pes) (h264H265WithAud : Bool) : List UInt8 :=
  let optional := stream.timestamps ++ accessUnitDelimiter stream h264H265WithAud
  0x00 :: 0x00 :: 0x01 :: stream.streamId :: (pesLength (3 + optional.length + payloadDataLength) ++
    (if stream.dataAlignmentIndicator > 0 then 0x84 else 0x80) :: stream.flags ::
      stream.optionalLen :: optional)

theorem length_timestampBytes (marker : UInt8) (timestamp : Int64) :
    (timestampBytes marker timestamp).length = 5 := rfl

theorem length_pesLength (n : Nat) : (pesLength n).length = 2 := by
  unfold pesLength
  split
  · rfl
  · rfl

theorem length_timestamps (stream : Pes) : stream.timestamps.length ≤ 10 := by
  unfold Pes.timestamps
  rw [List.length_append]
  split
  · split
    · exact Nat.le_refl 10
    · show 5 + 0 ≤ 10
      omega
  · split
    · show 0 + 5 ≤ 10
      omega
    · show 0 + 0 ≤ 10
      omega

theorem length_accessUnitDelimiter (stream : Pes) (h264H265WithAud : Bool) :
    (accessUnitDelimiter stream h264H265WithAud).length ≤ 6 := by
  unfold accessUnitDelimiter
  split
  · exact Nat.le_refl 6
  · exact Nat.zero_le 6

theorem length_pesHeader (n : Nat) (stream : Pes) (h264H265WithAud : Bool) :
    (pesHeader n stream h264H265WithAud).length ≤ 25 := by
  have hTimestamps := length_timestamps stream
  have hDelimiter := length_accessUnitDelimiter stream h264H265WithAud
  simp only [pesHeader, List.length_cons, List.length_append, length_pesLength]
  omega

theorem writePesStart_eq (stream : Pes) :
    writePesStart stream = .ok ⟨[0, 0, 1, stream.streamId, 0, 0,
      if stream.dataAlignmentIndicator > 0 then 0x84 else 0x80]⟩ := by
  unfold writePesStart
  split
  · rfl
  · rfl

theorem writePesOptional_eq (w : BytesWriter) (stream : Pes) (h264H265WithAud : Bool) :
    writePesOptional w stream h264H265WithAud =
      ⟨w.bytes ++ stream.flags :: stream.optionalLen ::
        (stream.timestamps ++ accessUnitDelimiter stream h264H265WithAud)⟩ := by
  unfold writePesOptional Pes.timestamps
  simp only [writeTimestamp_eq]
  split
  · split
    · simp [BytesWriter.writeU8, BytesWriter.write]
    · simp [BytesWriter.writeU8, BytesWriter.write]
  · split
    · simp [BytesWriter.writeU8, BytesWriter.write]
    · simp [BytesWriter.writeU8, BytesWriter.write]

theorem writePesLength_eq (a b c d e f : UInt8) (rest : List UInt8) (n : Nat) :
    writePesLength ⟨a :: b :: c :: d :: e :: f :: rest⟩ n =
      .ok ⟨a :: b :: c :: d :: (pesLength n ++ rest)⟩ := by
  have hFourth : ∀ x, (⟨a :: b :: c :: d :: e :: f :: rest⟩ : BytesWriter).writeU8At 4 x =
      .ok ⟨a :: b :: c :: d :: x :: f :: rest⟩ := fun x => BytesWriter.updateAt_ok rfl rfl
  have hFifth : ∀ x y, (⟨a :: b :: c :: d :: x :: f :: rest⟩ : BytesWriter).writeU8At 5 y =
      .ok ⟨a :: b :: c :: d :: x :: y :: rest⟩ := fun x y => BytesWriter.updateAt_ok rfl rfl
  unfold writePesLength pesLength
  split
  · simp [hFourth, hFifth, position, bind, Except.bind]
  · simp [hFourth, hFifth, position, bind, Except.bind]

theorem writePesHeader_eq (payloadDataLength : Nat) (stream : Pes) (h264H265WithAud : Bool) :
    writePesHeader payloadDataLength stream h264H265WithAud =
      .ok ⟨pesHeader payloadDataLength stream h264H265WithAud⟩ := by
  have hLen : ∀ rest : List UInt8, (⟨0 :: 0 :: 1 :: stream.streamId :: 0 :: 0 ::
      (if stream.dataAlignmentIndicator > 0 then 0x84 else 0x80) :: stream.flags ::
        stream.optionalLen :: rest⟩ : BytesWriter).len - PES_HEADER_LEN + payloadDataLength =
      3 + rest.length + payloadDataLength := by
    intro rest
    simp only [BytesWriter.len, PES_HEADER_LEN, List.length_cons]
    omega
  unfold writePesHeader
  rw [writePesStart_eq]
  show writePesLength (writePesOptional _ stream h264H265WithAud) _ = _
  rw [writePesOptional_eq]
  refine (writePesLength_eq ..).trans ?_
  simp only [List.cons_append, List.nil_append, hLen]
  rfl

end Xiu.Mpegts
