import Xiu.Bytesio.Reading
import Xiu.Bytesio.Writer

/-! The tags of FLV, of `library/container/flv/src/muxer.rs` and `demuxer.rs`, written one after the
other as `protocol/httpflv` does.  A tag is followed by its size, and the reader takes the size that
stands before a tag together with it. -/

namespace Xiu.Flv

open Bytesio ProofKit

def FLV_HEADER_AV : List UInt8 := [0x46, 0x4c, 0x56, 0x01, 0x05, 0x00, 0x00, 0x00, 0x09]
def FLV_HEADER_JUST_AUDIO : List UInt8 := [0x46, 0x4c, 0x56, 0x01, 0x04, 0x00, 0x00, 0x00, 0x09]
def FLV_HEADER_JUST_VIDEO : List UInt8 := [0x46, 0x4c, 0x56, 0x01, 0x01, 0x00, 0x00, 0x00, 0x09]
def FLV_HEADER_EMPTY_AV : List UInt8 := [0x46, 0x4c, 0x56, 0x01, 0x00, 0x00, 0x00, 0x00, 0x09]
def HEADER_LENGTH : UInt32 := 11

/-- `tag_type`. -/
def AUDIO : UInt8 := 8
def VIDEO : UInt8 := 9
def SCRIPT_DATA_AMF : UInt8 := 18

/-! ### The muxer -/

namespace FlvMuxer

def writeFlvHeader (writer : BytesWriter) (hasAudio hasVideo : Bool) : BytesWriter :=
  if hasAudio && hasVideo then writer.write FLV_HEADER_AV
  else if hasAudio then writer.write FLV_HEADER_JUST_AUDIO
  else if hasVideo then writer.write FLV_HEADER_JUST_VIDEO
  else writer.write FLV_HEADER_EMPTY_AV

def writeFlvTagHeader (writer : BytesWriter) (tagType : UInt8) (dataSize timestamp : UInt32) :
    Except WriteFault BytesWriter := do
  let writer := writer.writeU8 tagType
  let writer ← writer.writeU24 .bigEndian dataSize
  let writer ← writer.writeU24 .bigEndian (timestamp &&& 0xffffff)
  let writer := writer.writeU8 (timestamp >>> 24 &&& 0xff).toUInt8
  writer.writeU24 .bigEndian 0

def writeFlvTagBody (writer : BytesWriter) (body : List UInt8) : BytesWriter := writer.write body

def writePreviousTagSize (writer : BytesWriter) (size : UInt32) : BytesWriter :=
  writer.writeU32 .bigEndian size

end FlvMuxer

/-- What a tag says. -/
structure FlvTag where
  tagType : UInt8
  timestamp : UInt32
  body : List UInt8
  deriving DecidableEq

/-- `HttpFlv::write_flv_tag` behind the choice of the type and the body. -/
def writeFlvTag (writer : BytesWriter) (tag : FlvTag) : Except WriteFault BytesWriter := do
  let commonDataLen := UInt32.ofNat tag.body.length
  let writer ← FlvMuxer.writeFlvTagHeader writer tag.tagType commonDataLen tag.timestamp
  let writer := FlvMuxer.writeFlvTagBody writer tag.body
  return FlvMuxer.writePreviousTagSize writer (commonDataLen + HEADER_LENGTH)

/-- The header, the size of no tag, and the tags. -/
def writeFlvStream (hasAudio hasVideo : Bool) (tags : List FlvTag) : Except WriteFault BytesWriter :=
  tags.foldlM writeFlvTag
    (FlvMuxer.writePreviousTagSize (FlvMuxer.writeFlvHeader ⟨[]⟩ hasAudio hasVideo) 0)

/-! ### The demuxer -/

inductive FlvData where
  | video (timestamp : UInt32) (data : List UInt8)
  | audio (timestamp : UInt32) (data : List UInt8)
  deriving DecidableEq

namespace FlvDemuxer

/-- The timestamp of which the highest byte is set apart. -/
def dtsOf (timestamp : UInt32) (timestampExt : UInt8) : UInt32 :=
  let low : UInt32 := timestamp &&& 0xffffff
  low ||| (timestampExt.toUInt32 <<< 24)

def readFlvHeader : Read Unit Unit := do
  let _ ← Read.readBytes 9

def readFlvTag : Read Unit (Option FlvData) := do
  let _ ← Read.readU32 .bigEndian
  let tagType ← Read.readU8
  let dataSize ← Read.readU24 .bigEndian
  let timestamp ← Read.readU24 .bigEndian
  let timestampExt ← Read.readU8
  let _ ← Read.readU24 .bigEndian
  let dts := dtsOf timestamp timestampExt
  let body ← Read.readBytes dataSize.toNat
  if tagType = VIDEO then return some (.video dts body)
  else if tagType = AUDIO then return some (.audio dts body)
  else return none

/-- So many tags. -/
def readFlvTags : Nat → Read Unit (List (Option FlvData))
  | 0 => pure []
  | n + 1 => do
    let data ← readFlvTag
    let rest ← readFlvTags n
    return data :: rest

/-- The header, and so many tags. -/
def readFlvStream (n : Nat) : Read Unit (List (Option FlvData)) := do
  readFlvHeader
  readFlvTags n

end FlvDemuxer

/-- What the demuxer gives for a tag. -/
def FlvTag.data (tag : FlvTag) : Option FlvData :=
  if tag.tagType = VIDEO then some (.video tag.timestamp tag.body)
  else if tag.tagType = AUDIO then some (.audio tag.timestamp tag.body)
  else none

/-! ### Timestamps -/

theorem lowBits_toNat (n : UInt32) : (n &&& 0xffffff).toNat = n.toNat % 2 ^ 24 := by
  rw [UInt32.toNat_and]
  exact Nat.and_two_pow_sub_one_eq_mod n.toNat 24

theorem highByte_toNat (n : UInt32) : (n >>> 24 &&& 0xff).toUInt8.toNat = n.toNat / 2 ^ 24 := by
  have hLt := n.toNat_lt
  have hMask := Nat.and_two_pow_sub_one_eq_mod (n.toNat >>> ((24 : UInt32).toNat % 32)) 8
  have hShift : n.toNat >>> ((24 : UInt32).toNat % 32) = n.toNat / 2 ^ 24 :=
    Nat.shiftRight_eq_div_pow _ _
  rw [UInt32.toNat_toUInt8, UInt32.toNat_and, UInt32.toNat_shiftRight,
    show (0xff : UInt32).toNat = 2 ^ 8 - 1 from rfl, hMask, hShift]
  omega

/-- The byte that is set apart is put back. -/
theorem dtsOf_parts (timestamp : UInt32) :
    FlvDemuxer.dtsOf (timestamp &&& 0xffffff) (timestamp >>> 24 &&& 0xff).toUInt8 = timestamp := by
  have hLt := timestamp.toNat_lt
  have hShift : ((timestamp >>> 24 &&& 0xff).toUInt8.toUInt32 <<< 24).toNat =
      2 ^ 24 * (timestamp.toNat / 2 ^ 24) := by
    rw [UInt32.toNat_shiftLeft, UInt8.toNat_toUInt32, highByte_toNat,
      show (24 : UInt32).toNat % 32 = 24 from rfl, Nat.shiftLeft_eq]
    omega
  apply UInt32.toNat_inj.mp
  rw [FlvDemuxer.dtsOf, UInt32.toNat_or, lowBits_toNat, lowBits_toNat, hShift, Nat.mod_mod,
    Nat.or_comm, ← Nat.two_pow_add_eq_or_of_lt (Nat.mod_lt _ (by decide))]
  omega

/-! ### What is written -/

/-- The bytes of a tag without its size. -/
def FlvTag.bytes (tag : FlvTag) : List UInt8 :=
  tag.tagType :: (toBE 3 tag.body.length ++ (toBE 3 (tag.timestamp &&& 0xffffff).toNat ++
    ((tag.timestamp >>> 24 &&& 0xff).toUInt8 :: (toBE 3 0 ++ tag.body))))

/-- The size of a tag, that stands behind it. -/
def FlvTag.size (tag : FlvTag) : List UInt8 :=
  toBE 4 (UInt32.ofNat tag.body.length + HEADER_LENGTH).toNat

theorem length_toNat {tag : FlvTag} (h : tag.body.length < 2 ^ 24) :
    (UInt32.ofNat tag.body.length).toNat = tag.body.length :=
  UInt32.toNat_ofNat_of_lt' (Nat.lt_trans h (by decide))

theorem writeFlvTag_ok {tag : FlvTag} (h : tag.body.length < 2 ^ 24) (writer : BytesWriter) :
    writeFlvTag writer tag = .ok ⟨writer.bytes ++ (tag.bytes ++ tag.size)⟩ := by
  have hLength := length_toNat h
  have hLow : (tag.timestamp &&& 0xffffff).toNat < 2 ^ 24 := by
    rw [lowBits_toNat]
    exact Nat.mod_lt _ (by decide)
  have hHeader : FlvMuxer.writeFlvTagHeader writer tag.tagType (UInt32.ofNat tag.body.length)
      tag.timestamp = .ok ⟨writer.bytes ++ [tag.tagType] ++ toBE 3 tag.body.length ++
        toBE 3 (tag.timestamp &&& 0xffffff).toNat ++ [(tag.timestamp >>> 24 &&& 0xff).toUInt8] ++
        toBE 3 0⟩ := by
    simp only [FlvMuxer.writeFlvTagHeader, BytesWriter.writeU8]
    rw [BytesWriter.writeU24_ok _ _ (by rw [hLength]; exact h), hLength]
    change (BytesWriter.writeU24 _ _ _ >>= _) = _
    rw [BytesWriter.writeU24_ok _ _ hLow]
    exact BytesWriter.writeU24_ok _ _ (show (0 : UInt32).toNat < 2 ^ 24 by decide)
  rw [writeFlvTag, hHeader]
  change Except.ok _ = Except.ok _
  simp only [FlvMuxer.writeFlvTagBody, FlvMuxer.writePreviousTagSize, BytesWriter.write,
    BytesWriter.writeU32, FlvTag.bytes, FlvTag.size, ByteOrder.encode, List.append_assoc,
    List.cons_append, List.nil_append]

theorem writeFlvTags_ok {tags : List FlvTag} (h : ∀ tag ∈ tags, tag.body.length < 2 ^ 24)
    (writer : BytesWriter) : tags.foldlM writeFlvTag writer =
      .ok ⟨writer.bytes ++ tags.flatMap fun tag => tag.bytes ++ tag.size⟩ := by
  induction tags generalizing writer with
  | nil => simp [pure, Except.pure]
  | cons tag rest ih =>
    rw [List.foldlM_cons, writeFlvTag_ok (h tag List.mem_cons_self)]
    change rest.foldlM writeFlvTag _ = _
    rw [ih fun tag' hMem => h tag' (List.mem_cons_of_mem _ hMem), List.flatMap_cons,
      List.append_assoc]

/-! ### What is read -/

section Read

variable {rest : List UInt8}

theorem readU24_append {n : Nat} (h : n < 2 ^ 24) :
    Read.readU24 .bigEndian (⟨(), ⟨toBE 3 n ++ rest⟩⟩ : Reading Unit) =
      .ok (UInt32.ofNat n) ⟨(), ⟨rest⟩⟩ := by
  rw [Read.readU24_ok (by simp), List.take_left' (length_toBE 3 n), List.drop_left' (length_toBE 3 n),
    BytesReader.decodeU32, ByteOrder.decode, ofBE_toBE, Nat.mod_eq_of_lt (by omega)]

theorem readSize_append {size : List UInt8} (h : size.length = 4) :
    ∃ n, Read.readU32 .bigEndian (⟨(), ⟨size ++ rest⟩⟩ : Reading Unit) = .ok n ⟨(), ⟨rest⟩⟩ := by
  refine ⟨BytesReader.decodeU32 .bigEndian size, ?_⟩
  rw [Read.readU32_ok (by rw [List.length_append, h]; omega), List.take_left' h, List.drop_left' h]

/-- A tag is read with whatever size stands before it. -/
theorem readFlvTag_ok {tag : FlvTag} (h : tag.body.length < 2 ^ 24) {size : List UInt8}
    (hSize : size.length = 4) :
    FlvDemuxer.readFlvTag ⟨(), ⟨size ++ (tag.bytes ++ rest)⟩⟩ = .ok tag.data ⟨(), ⟨rest⟩⟩ := by
  have hLow : (tag.timestamp &&& 0xffffff).toNat < 2 ^ 24 := by
    rw [lowBits_toNat]
    exact Nat.mod_lt _ (by decide)
  obtain ⟨n, hRead⟩ := @readSize_append (tag.bytes ++ rest) _ hSize
  rw [FlvDemuxer.readFlvTag, bind_of_ok hRead, FlvTag.bytes, List.cons_append,
    bind_of_ok (Read.readU8_cons _)]
  simp only [List.append_assoc, List.cons_append]
  rw [bind_of_ok (readU24_append h), bind_of_ok (readU24_append hLow),
    bind_of_ok (Read.readU8_cons _), bind_of_ok (readU24_append (by decide)), UInt32.ofNat_toNat,
    dtsOf_parts, length_toNat h, bind_of_ok (Read.readBytes_append rfl), FlvTag.data]
  split
  · rfl
  split <;> rfl

/-- Tags are read one after the other, and the size of the last one is left. -/
theorem readFlvTags_ok {tags : List FlvTag} (h : ∀ tag ∈ tags, tag.body.length < 2 ^ 24)
    {size : List UInt8} (hSize : size.length = 4) :
    ∃ last, last.length = 4 ∧ FlvDemuxer.readFlvTags tags.length
      ⟨(), ⟨size ++ tags.flatMap fun tag => tag.bytes ++ tag.size⟩⟩ =
        .ok (tags.map FlvTag.data) ⟨(), ⟨last⟩⟩ := by
  induction tags generalizing size with
  | nil => exact ⟨size, hSize, by rw [List.flatMap_nil, List.append_nil]; rfl⟩
  | cons tag rest ih =>
    obtain ⟨last, hLast, hRest⟩ := ih (fun tag' hMem => h tag' (List.mem_cons_of_mem _ hMem))
      (length_toBE 4 (UInt32.ofNat tag.body.length + HEADER_LENGTH).toNat)
    refine ⟨last, hLast, ?_⟩
    rw [List.length_cons, FlvDemuxer.readFlvTags, List.flatMap_cons, List.append_assoc,
      bind_of_ok (readFlvTag_ok (h tag List.mem_cons_self) hSize), FlvTag.size, bind_of_ok hRest]
    rfl

/-- Behind the last tag there is only its size. -/
theorem readFlvTag_end {last : List UInt8} (h : last.length = 4) :
    FlvDemuxer.readFlvTag ⟨(), ⟨last⟩⟩ =
      .error (.bytesReadError .notEnoughBytes) ⟨(), ⟨[]⟩⟩ := by
  obtain ⟨n, hRead⟩ := @readSize_append [] _ h
  rw [List.append_nil] at hRead
  rw [FlvDemuxer.readFlvTag, bind_of_ok hRead]
  exact bind_of_error Read.readU8_nil

end Read

theorem length_writeFlvHeader (hasAudio hasVideo : Bool) :
    (FlvMuxer.writeFlvHeader ⟨[]⟩ hasAudio hasVideo).bytes.length = 9 := by
  cases hasAudio <;> cases hasVideo <;> rfl

/-- Tags that have been written are read as they are, audio and video with their timestamps and
bodies, and then an error. -/
theorem flv_stream_round_trip (hasAudio hasVideo : Bool) (tags : List FlvTag)
    (h : ∀ tag ∈ tags, tag.body.length < 2 ^ 24) :
    ∃ writer s, writeFlvStream hasAudio hasVideo tags = .ok writer ∧
      FlvDemuxer.readFlvStream tags.length ⟨(), ⟨writer.bytes⟩⟩ = .ok (tags.map FlvTag.data) s ∧
      ∃ s', FlvDemuxer.readFlvTag s = .error (.bytesReadError .notEnoughBytes) s' := by
  obtain ⟨last, hLast, hTags⟩ := readFlvTags_ok h (length_toBE 4 (0 : UInt32).toNat)
  refine ⟨_, ⟨(), ⟨last⟩⟩, writeFlvTags_ok h _, ?_, _, readFlvTag_end hLast⟩
  have hHeader : FlvDemuxer.readFlvHeader
      ⟨(), ⟨(FlvMuxer.writeFlvHeader ⟨[]⟩ hasAudio hasVideo).bytes ++ (toBE 4 (0 : UInt32).toNat ++
        tags.flatMap fun tag => tag.bytes ++ tag.size)⟩⟩ =
      .ok () ⟨(), ⟨toBE 4 (0 : UInt32).toNat ++ tags.flatMap fun tag => tag.bytes ++ tag.size⟩⟩ :=
    bind_of_ok (Read.readBytes_append (length_writeFlvHeader hasAudio hasVideo))
  simp only [FlvMuxer.writePreviousTagSize, BytesWriter.writeU32, ByteOrder.encode,
    List.append_assoc]
  rw [FlvDemuxer.readFlvStream, bind_of_ok hHeader]
  exact hTags

/-- An audio tag, a video tag whose timestamp has more than 24 bits, and a script tag. -/
theorem three_tags_round_trip :
    ∃ writer s, writeFlvStream true true
        [⟨ AUDIO, 0, [0xaf, 0x00]⟩, ⟨VIDEO, 0x12345678, []⟩, ⟨SCRIPT_DATA_AMF, 1, [0x02]⟩] =
          .ok writer ∧
      FlvDemuxer.readFlvStream 3 ⟨(), ⟨writer.bytes⟩⟩ =
        .ok [some (.audio 0 [0xaf, 0x00]), some (.video 0x12345678 []), none] s ∧
      ∃ s', FlvDemuxer.readFlvTag s = .error (.bytesReadError .notEnoughBytes) s' :=
  flv_stream_round_trip true true
    [⟨ AUDIO, 0, [0xaf, 0x00]⟩, ⟨VIDEO, 0x12345678, []⟩, ⟨SCRIPT_DATA_AMF, 1, [0x02]⟩] (by decide)

end Xiu.Flv
