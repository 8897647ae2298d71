import Xiu.Bytesio.Writer
import Mathlib.Data.Int.Init

/-! The constants and tables of the TS muxer, of `library/container/mpegts/src`. -/

namespace Xiu.Mpegts

open Bytesio

def PAT_TID_PAS : UInt16 := 0x00
def PAT_TID_PMS : UInt16 := 0x02

def TS_PACKET_SIZE : Nat := 188
def PES_HEADER_LEN : Nat := 6

def PSI_STREAM_MP3 : UInt8 := 0x04
def PSI_STREAM_PRIVATE_DATA : UInt8 := 0x06
def PSI_STREAM_H264 : UInt8 := 0x1b
def PSI_STREAM_AAC : UInt8 := 0x0f
def PSI_STREAM_MPEG4_AAC : UInt8 := 0x1c
def PSI_STREAM_AUDIO_OPUS : UInt8 := 0x9c

def PES_SID_AUDIO : UInt8 := 0xC0
def PES_SID_VIDEO : UInt8 := 0xE0
def PES_SID_PRIVATE_1 : UInt8 := 0xBD

def AF_FLAG_PCR : UInt8 := 0x10
def AF_FLAG_RANDOM_ACCESS_INDICATOR : UInt8 := 0x40
def PTS_NO_VALUE : Int64 := Int64.minValue

def TS_PAYLOAD_UNIT_START_INDICATOR : UInt8 := 0x40

def MPEG_FLAG_IDR_FRAME : UInt16 := 0x0001
def MPEG_FLAG_H264_H265_WITH_AUD : UInt16 := 0x8000

def PAT_PERIOD : Int := 400 * 90

inductive MpegTsErrorValue where
  | bytesReadError
  | bytesWriteError
  | programNumberExists
  | pmtCountExeceed
  | streamCountExeceed
  | streamNotFound
  deriving DecidableEq

/-- Why the muxer stops: an error that it returns, or a panic. -/
inductive MuxFault where
  | error (value : MpegTsErrorValue)
  | panic
  deriving DecidableEq

/-- A write to a position, within the muxer. -/
def position {α : Type} : Except PositionFault α → Except MuxFault α
  | .ok a => .ok a
  | .error .outofIndex => .error (.error .bytesWriteError)
  | .error .panic => .error .panic

/-- `as u8` of a signed number. -/
def asU8 (n : Int) : UInt8 := UInt8.ofNat (n % 256).toNat

/-- The result of an operation on `i64`, which panics when it does not fit. -/
def checkedI64 (n : Int) : Except MuxFault Int64 :=
  if -2 ^ 63 ≤ n ∧ n < 2 ^ 63 then .ok (Int64.ofInt n) else .error .panic

/-- A subtraction of unsigned numbers, which panics below zero. -/
def checkedSub (n m : UInt8) : Except MuxFault UInt8 :=
  if n < m then .error .panic else .ok (n - m)

/-- A stream of a program, with the time stamps of its last access unit. -/
structure Pes where
  pid : UInt16
  streamId : UInt8
  codecId : UInt8
  continuityCounter : UInt8
  dataAlignmentIndicator : UInt8
  pts : Int64
  dts : Int64
  deriving DecidableEq

structure Pmt where
  pid : UInt16
  programNumber : UInt16
  versionNumber : UInt8
  pcrPid : UInt16
  programInfo : List UInt8
  streams : List Pes
  deriving DecidableEq

structure Pat where
  transportStreamId : UInt16
  versionNumber : UInt8
  pmt : List Pmt
  deriving DecidableEq

def Pat.new : Pat := ⟨1, 0, []⟩

def isSteamTypeVideo (streamType : UInt8) : Bool := streamType == PSI_STREAM_H264

def isSteamTypeAudio (streamType : UInt8) : Bool :=
  streamType == PSI_STREAM_AUDIO_OPUS || streamType == PSI_STREAM_AAC ||
    streamType == PSI_STREAM_MP3 || streamType == PSI_STREAM_MPEG4_AAC

end Xiu.Mpegts
