import Xiu.Bytesio.Reader
import Xiu.Bytesio.Writer

/-! The headers of audio and video tags, of `library/container/flv/src/flv_tag_header.rs`. -/

namespace Xiu.Flv

open Bytesio

/-- `SoundFormat::AAC`. -/
def AAC : UInt8 := 10

/-- `AvcCodecId`. -/
def H264 : UInt8 := 7
def HEVC : UInt8 := 12

/-- `aac_packet_type`. -/
def AAC_SEQHDR : UInt8 := 0
def AAC_RAW : UInt8 := 1

/-- `avc_packet_type`. -/
def AVC_SEQHDR : UInt8 := 0
def AVC_NALU : UInt8 := 1

/-- `frame_type`. -/
def KEY_FRAME : UInt8 := 1

structure AudioTagHeader where
  soundFormat : UInt8
  soundRate : UInt8
  soundSize : UInt8
  soundType : UInt8
  aacPacketType : UInt8
  deriving DecidableEq

def AudioTagHeader.unmarshal (reader : BytesReader) :
    Except BytesReadErrorValue (AudioTagHeader × BytesReader) := do
  let (flags, reader) ← reader.readU8
  let tagHeader : AudioTagHeader :=
    ⟨flags >>> 4, (flags >>> 2) &&& 0x03, (flags >>> 1) &&& 0x01, flags &&& 0x01, 0⟩
  if tagHeader.soundFormat = AAC then
    let (aacPacketType, reader) ← reader.readU8
    return ({ tagHeader with aacPacketType }, reader)
  else
    return (tagHeader, reader)

def AudioTagHeader.marshal (self : AudioTagHeader) : List UInt8 :=
  let byte1st := self.soundFormat <<< 4 ||| self.soundRate <<< 2 ||| self.soundSize <<< 1 |||
    self.soundType
  let writer := (⟨[]⟩ : BytesWriter).writeU8 byte1st
  if self.soundFormat = AAC then (writer.writeU8 self.aacPacketType).bytes else writer.bytes

structure VideoTagHeader where
  frameType : UInt8
  codecId : UInt8
  avcPacketType : UInt8
  compositionTime : Int32
  deriving DecidableEq

/-- Three bytes of a composition time, the highest first. -/
def readCompositionTime (reader : BytesReader) : Except BytesReadErrorValue (Int32 × BytesReader) := do
  let (time0, reader) ← reader.readU8
  let (time1, reader) ← reader.readU8
  let (time2, reader) ← reader.readU8
  let compositionTime : Int32 :=
    (((Int32.ofNat time0.toNat <<< 8) + Int32.ofNat time1.toNat) <<< 8) + Int32.ofNat time2.toNat
  -- the sign of 24 bits
  if compositionTime &&& ((1 : Int32) <<< 23) ≠ 0 then
    return (compositionTime ||| ((0xffff : Int32) <<< 23), reader)
  else return (compositionTime, reader)

def VideoTagHeader.unmarshal (reader : BytesReader) :
    Except BytesReadErrorValue (VideoTagHeader × BytesReader) := do
  let (flags, reader) ← reader.readU8
  let tagHeader : VideoTagHeader := ⟨flags >>> 4, flags &&& 0x0f, 0, 0⟩
  if tagHeader.codecId = H264 ∨ tagHeader.codecId = HEVC then
    let (avcPacketType, reader) ← reader.readU8
    let (compositionTime, reader) ← readCompositionTime reader
    return ({ tagHeader with avcPacketType, compositionTime }, reader)
  else
    return (tagHeader, reader)

/-- `(cts & 0xFF) as u8`. -/
def lowByte (cts : Int32) : UInt8 := (cts &&& 0xFF).toUInt32.toUInt8

/-- Three bytes of a composition time, the lowest first. -/
def writeCompositionTime (writer : BytesWriter) (compositionTime : Int32) : BytesWriter :=
  let cts := compositionTime
  let writer := writer.writeU8 (lowByte cts)
  let cts := cts >>> 8
  let writer := writer.writeU8 (lowByte cts)
  let cts := cts >>> 8
  writer.writeU8 (lowByte cts)

def VideoTagHeader.marshal (self : VideoTagHeader) : List UInt8 :=
  let byte1st := self.frameType <<< 4 ||| self.codecId
  let writer := (⟨[]⟩ : BytesWriter).writeU8 byte1st
  if self.codecId = H264 ∨ self.codecId = HEVC then
    (writeCompositionTime (writer.writeU8 self.avcPacketType) self.compositionTime).bytes
  else writer.bytes

/-- What an audio tag is to those that read it: too short for its header, or a payload of a kind. -/
inductive AudioTag where
  | short
  | sequenceHeader (payload : List UInt8)
  | raw (payload : List UInt8)
  | other (payload : List UInt8)
  deriving DecidableEq

def AudioTag.of : List UInt8 → AudioTag
  | [] => .short
  | flags :: rest =>
    if flags >>> 4 = AAC then
      match rest with
      | [] => .short
      | aacPacketType :: payload =>
        if aacPacketType = AAC_SEQHDR then .sequenceHeader payload
        else if aacPacketType = AAC_RAW then .raw payload
        else .other payload
    else .other rest

/-- What the header of a tag of a kind says, and the payload behind it. -/
def AudioTag.Headed (data : List UInt8) : AudioTag → Prop
  | .short => AudioTagHeader.unmarshal ⟨data⟩ = .error .notEnoughBytes
  | .sequenceHeader payload => ∃ tagHeader, AudioTagHeader.unmarshal ⟨data⟩ = .ok (tagHeader, ⟨payload⟩) ∧
      tagHeader.soundFormat = AAC ∧ tagHeader.aacPacketType = AAC_SEQHDR
  | .raw payload => ∃ tagHeader, AudioTagHeader.unmarshal ⟨data⟩ = .ok (tagHeader, ⟨payload⟩) ∧
      tagHeader.soundFormat = AAC ∧ tagHeader.aacPacketType = AAC_RAW
  | .other payload => ∃ tagHeader, AudioTagHeader.unmarshal ⟨data⟩ = .ok (tagHeader, ⟨payload⟩) ∧
      (tagHeader.soundFormat = AAC →
        tagHeader.aacPacketType ≠ AAC_SEQHDR ∧ tagHeader.aacPacketType ≠ AAC_RAW)

theorem AudioTag.headed (data : List UInt8) : (AudioTag.of data).Headed data := by
  cases data with
  | nil => rfl
  | cons flags rest =>
    by_cases hAac : flags >>> 4 = AAC
    · cases rest with
      | nil =>
        rw [AudioTag.of, if_pos hAac]
        simp only [AudioTag.Headed, AudioTagHeader.unmarshal, BytesReader.readU8_cons, bind,
          Except.bind, if_pos hAac]
        rfl
      | cons aacPacketType payload =>
        have hHeader : AudioTagHeader.unmarshal ⟨flags :: aacPacketType :: payload⟩ =
            .ok (⟨flags >>> 4, (flags >>> 2) &&& 0x03, (flags >>> 1) &&& 0x01, flags &&& 0x01,
              aacPacketType⟩, ⟨payload⟩) := by
          simp only [AudioTagHeader.unmarshal, BytesReader.readU8_cons, bind, Except.bind,
            if_pos hAac]
          rfl
        rw [AudioTag.of, if_pos hAac]
        by_cases hHeaderType : aacPacketType = AAC_SEQHDR
        · rw [if_pos hHeaderType]
          exact ⟨_, hHeader, hAac, hHeaderType⟩
        rw [if_neg hHeaderType]
        by_cases hRawType : aacPacketType = AAC_RAW
        · rw [if_pos hRawType]
          exact ⟨_, hHeader, hAac, hRawType⟩
        · rw [if_neg hRawType]
          exact ⟨_, hHeader, fun _ => ⟨hHeaderType, hRawType⟩⟩
    · have hHeader : AudioTagHeader.unmarshal ⟨flags :: rest⟩ =
          .ok (⟨flags >>> 4, (flags >>> 2) &&& 0x03, (flags >>> 1) &&& 0x01, flags &&& 0x01, 0⟩,
            ⟨rest⟩) := by
        simp only [AudioTagHeader.unmarshal, BytesReader.readU8_cons, bind, Except.bind,
          if_neg hAac]
        rfl
      have hOther : AudioTag.of (flags :: rest) = .other rest := by
        simp only [AudioTag.of, if_neg hAac]
      rw [hOther]
      exact ⟨_, hHeader, fun hFormat => absurd hFormat hAac⟩

end Xiu.Flv
