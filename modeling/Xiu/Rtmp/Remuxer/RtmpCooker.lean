import Xiu.Flv.Amf0.Writer
import Xiu.Flv.AvcRecord
import Xiu.Flv.TagHeader

/-! The bodies of the RTMP messages that a stream of another protocol is remuxed to, of
`protocol/rtmp/src/remuxer/rtmp_cooker.rs`. -/

namespace Xiu.Rtmp.RtmpCooker

open Bytesio ProofKit
open Flv (AudioTagHeader VideoTagHeader Mpeg4Avc AvcFault)
open Flv.Amf0 (Amf0Write Amf0Writer.writeString Amf0Writer.writeAny Amf0WriteErrorValue)

/-- `as f64`, by its bits: every number of 32 bits has one. -/
def f64Bits (n : UInt32) : UInt64 :=
  if n = 0 then 0
  else
    let exponent := n.toNat.log2
    UInt64.ofNat ((1023 + exponent) * 2 ^ 52 + (n.toNat - 2 ^ exponent) * 2 ^ (52 - exponent))

/-- What `gen_meta_data` writes. -/
def writeMetaData (width height : UInt32) : Amf0Write Unit := do
  Amf0Writer.writeString "@setDataFrame"
  Amf0Writer.writeString "onMetaData"
  Amf0Writer.writeAny (.ecmaArray [("width", .number (f64Bits width)),
    ("height", .number (f64Bits height)), ("videocodecid", .number (f64Bits 7)),
    ("audiocodecid", .number (f64Bits 10))])

def genMetaData (width height : UInt32) : Except Amf0WriteErrorValue (List UInt8) :=
  match writeMetaData width height ⟨[]⟩ with
  | .ok _ writer => .ok writer.bytes
  | .error e _ => .error e

/-- The processor that saves one set of each kind. -/
def recordOf (sps pps : List UInt8) (profile level : UInt8) : Mpeg4Avc :=
  { Mpeg4Avc.new with
    profile, compatibility := 0, level, naluLength := 4, nbPps := 1, sps := [sps], nbSps := 1,
    pps := [pps] }

def genVideoSeqHeader (sps pps : List UInt8) (profile level : UInt8) : Except AvcFault (List UInt8) := do
  let tagHeaderData := VideoTagHeader.marshal ⟨1, 7, 0, 0⟩
  let mpegavcData ← (recordOf sps pps profile level).decoderConfigurationRecordSave
  return tagHeaderData ++ mpegavcData

def genVideoFrameData (nalus : List (List UInt8)) (containsIdr : Bool) : List UInt8 :=
  let frameType := if containsIdr then 1 else 2
  let tagHeaderData := VideoTagHeader.marshal ⟨frameType, 7, 1, 0⟩
  tagHeaderData ++ { Mpeg4Avc.new with naluLength := 4 }.nalusToMpeg4avc nalus

/-- A sequence header is told from a frame by its length. -/
def genAudioFrameData (audioData : List UInt8) : List UInt8 :=
  let aacPacketType := if audioData.length > 5 then 1 else 0
  AudioTagHeader.marshal ⟨10, 3, 1, 1, aacPacketType⟩ ++ audioData

/-! ### The bytes -/

theorem genAudioFrameData_long {audioData : List UInt8} (h : 5 < audioData.length) :
    genAudioFrameData audioData = 0xAF :: 0x01 :: audioData := by
  rw [genAudioFrameData, if_pos h]
  rfl

theorem genAudioFrameData_short {audioData : List UInt8} (h : audioData.length ≤ 5) :
    genAudioFrameData audioData = 0xAF :: 0x00 :: audioData := by
  rw [genAudioFrameData, if_neg (Nat.not_lt.mpr h)]
  rfl

theorem exists_genMetaData (width height : UInt32) :
    ∃ metaData, genMetaData width height = .ok metaData := by
  have hWrite : writeMetaData width height ⟨[]⟩ =
      .ok () (stateOf (writeMetaData width height ⟨[]⟩)) := rfl
  unfold genMetaData
  rw [hWrite]
  exact ⟨_, rfl⟩

end Xiu.Rtmp.RtmpCooker
