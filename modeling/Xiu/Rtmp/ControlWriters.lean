import Xiu.Bytesio.Writer
import Xiu.Rtmp.Messages.Define

/-! The writers of control messages, of `protocol/rtmp/src/protocol_control_messages/writer.rs` and
`protocol/rtmp/src/user_control_messages/writer.rs`, by the message that each of their methods
writes. -/

namespace Xiu.Rtmp

open Bytesio Messages

def RTMP_EVENT_STREAM_BEGIN : UInt16 := 0
def RTMP_EVENT_STREAM_EOF : UInt16 := 1
def RTMP_EVENT_STREAM_DRY : UInt16 := 2
def RTMP_EVENT_SET_BUFFER_LENGTH : UInt16 := 3
def RTMP_EVENT_STREAM_IS_RECORDED : UInt16 := 4
def RTMP_EVENT_PING : UInt16 := 6
def RTMP_EVENT_PONG : UInt16 := 7

/-- A control message: the type and the length that its header is given, and the body. -/
structure ControlMessage where
  msgTypeId : UInt8
  len : UInt32
  body : List UInt8
  deriving DecidableEq

/-- `write_control_message_header`: format 0 on chunk stream 2, at time 0, for message stream 0. -/
def writeControlMessageHeader (msgTypeId : UInt8) (len : UInt32) : List UInt8 :=
  0x02 :: (ByteOrder.bigEndian.encode 3 0 ++ (ByteOrder.bigEndian.encode 3 len.toNat ++
    (msgTypeId :: ByteOrder.bigEndian.encode 4 0)))

/-- What goes to the connection. -/
def ControlMessage.bytes (message : ControlMessage) : List UInt8 :=
  writeControlMessageHeader message.msgTypeId message.len ++ message.body

def encodeU32 (n : UInt32) : List UInt8 := ByteOrder.bigEndian.encode 4 n.toNat

namespace ProtocolControlMessagesWriter

/-- `write_set_chunk_size`: the first bit must be 0. -/
def writeSetChunkSize (chunkSize : UInt32) : ControlMessage :=
  ⟨Chunk.SET_CHUNK_SIZE, 4, encodeU32 (chunkSize &&& 0x7FFFFFFF)⟩

def writeAbortMessage (chunkStreamId : UInt32) : ControlMessage :=
  ⟨ABORT, 4, encodeU32 chunkStreamId⟩

def writeAcknowledgement (sequenceNumber : UInt32) : ControlMessage :=
  ⟨ACKNOWLEDGEMENT, 4, encodeU32 sequenceNumber⟩

def writeWindowAcknowledgementSize (windowSize : UInt32) : ControlMessage :=
  ⟨WIN_ACKNOWLEDGEMENT_SIZE, 4, encodeU32 windowSize⟩

def writeSetPeerBandwidth (windowSize : UInt32) (limitType : UInt8) : ControlMessage :=
  ⟨SET_PEER_BANDWIDTH, 5, encodeU32 windowSize ++ [limitType]⟩

end ProtocolControlMessagesWriter

namespace EventMessagesWriter

/-- An event with one number. -/
def writeEvent (eventType : UInt16) (n : UInt32) : ControlMessage :=
  ⟨USER_CONTROL_EVENT, 6, ByteOrder.bigEndian.encode 2 eventType.toNat ++ encodeU32 n⟩

def writeStreamBegin (streamId : UInt32) : ControlMessage :=
  writeEvent RTMP_EVENT_STREAM_BEGIN streamId

def writeStreamEof (streamId : UInt32) : ControlMessage := writeEvent RTMP_EVENT_STREAM_EOF streamId

def writeStreamDry (streamId : UInt32) : ControlMessage := writeEvent RTMP_EVENT_STREAM_DRY streamId

def writeSetBufferLength (streamId ms : UInt32) : ControlMessage :=
  ⟨USER_CONTROL_EVENT, 10, ByteOrder.bigEndian.encode 2 RTMP_EVENT_SET_BUFFER_LENGTH.toNat ++
    (encodeU32 streamId ++ encodeU32 ms)⟩

def writeStreamIsRecord (streamId : UInt32) : ControlMessage :=
  writeEvent RTMP_EVENT_STREAM_IS_RECORDED streamId

def writePingRequest (timestamp : UInt32) : ControlMessage := writeEvent RTMP_EVENT_PING timestamp

def writePingResponse (timestamp : UInt32) : ControlMessage := writeEvent RTMP_EVENT_PONG timestamp

end EventMessagesWriter

end Xiu.Rtmp
