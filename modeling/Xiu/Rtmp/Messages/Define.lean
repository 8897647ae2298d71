import Xiu.Flv.Amf0.Define
import Xiu.Rtmp.Chunk.Define

/-! The messages of RTMP that a session reads, of `protocol/rtmp/src/messages/define.rs`, and the
types by which they are told apart. -/

namespace Xiu.Rtmp.Messages

open Flv.Amf0

def AUDIO : UInt8 := 8
def VIDEO : UInt8 := 9
def ABORT : UInt8 := 2
def ACKNOWLEDGEMENT : UInt8 := 3
def USER_CONTROL_EVENT : UInt8 := 4
def WIN_ACKNOWLEDGEMENT_SIZE : UInt8 := 5
def SET_PEER_BANDWIDTH : UInt8 := 6
def COMMAND_AMF3 : UInt8 := 17
def COMMAND_AMF0 : UInt8 := 20
def DATA_AMF3 : UInt8 := 15
def DATA_AMF0 : UInt8 := 18

structure SetPeerBandwidthProperties where
  windowSize : UInt32
  limitType : UInt8
  deriving DecidableEq

inductive RtmpMessageData where
  | amf0Command (commandName transactionId commandObject : Amf0ValueType)
      (others : List Amf0ValueType)
  | amfData (rawData : List UInt8)
  | setChunkSize (chunkSize : UInt32)
  | abortMessage (chunkStreamId : UInt32)
  | acknowledgement (sequenceNumber : UInt32)
  | windowAcknowledgementSize (size : UInt32)
  | setPeerBandwidth (properties : SetPeerBandwidthProperties)
  | audioData (data : List UInt8)
  | videoData (data : List UInt8)
  | setBufferLength (streamId bufferLength : UInt32)
  | streamBegin (streamId : UInt32)
  | streamIsRecorded (streamId : UInt32)
  | unknow

end Xiu.Rtmp.Messages
