import Xiu.Flv.Amf0.Reader
import Xiu.Rtmp.ControlWriters

/-! The readers of messages, of `protocol/rtmp/src/messages/parser.rs`,
`protocol/rtmp/src/protocol_control_messages/reader.rs` and
`protocol/rtmp/src/user_control_messages/reader.rs`. -/

namespace Xiu.Rtmp.Messages

open Bytesio ProofKit Flv.Amf0

/-- Why a message cannot be parsed: a number is cut, a value is none of AMF0 or not of the type that the
command has there, or an event is not known. -/
inductive MessageErrorValue where
  | bytesReadError (value : BytesReadErrorValue)
  | amf0ReadError (value : Amf0ReadErrorValue)
  | protocolControlMessageReaderError (value : BytesReadErrorValue)
  | eventReadError (value : BytesReadErrorValue)
  | unknowEventMessageType
  deriving DecidableEq

abbrev Parsed := Except MessageErrorValue (Option RtmpMessageData)

/-- A number at the front, and the reader behind it; what cannot be read is an error of this kind. -/
def readOr {α : Type} (wrap : BytesReadErrorValue → MessageErrorValue)
    (r : Except BytesReadErrorValue α) : Except MessageErrorValue α :=
  match r with
  | .ok a => .ok a
  | .error e => .error (wrap e)

namespace ProtocolControlMessageReader

/-- What four of the reads have in common. -/
def readNumber (reader : BytesReader) : Except MessageErrorValue UInt32 := do
  let (n, _) ← readOr .protocolControlMessageReaderError (reader.readU32 .bigEndian)
  return n

def readSetChunkSize : BytesReader → Except MessageErrorValue UInt32 := readNumber

def readAbortMessage : BytesReader → Except MessageErrorValue UInt32 := readNumber

def readAcknowledgement : BytesReader → Except MessageErrorValue UInt32 := readNumber

def readWindowAcknowledgementSize : BytesReader → Except MessageErrorValue UInt32 := readNumber

def readSetPeerBandwidth (reader : BytesReader) :
    Except MessageErrorValue SetPeerBandwidthProperties := do
  let (windowSize, reader) ← readOr .protocolControlMessageReaderError (reader.readU32 .bigEndian)
  let (limitType, _) ← readOr .protocolControlMessageReaderError reader.readU8
  return ⟨windowSize, limitType⟩

end ProtocolControlMessageReader

namespace EventMessagesReader

def readSetBufferLength (reader : BytesReader) : Except MessageErrorValue RtmpMessageData := do
  let (streamId, reader) ← readOr .eventReadError (reader.readU32 .bigEndian)
  let (ms, _) ← readOr .eventReadError (reader.readU32 .bigEndian)
  return .setBufferLength streamId ms

def readStreamBegin (reader : BytesReader) : Except MessageErrorValue RtmpMessageData := do
  let (streamId, _) ← readOr .eventReadError (reader.readU32 .bigEndian)
  return .streamBegin streamId

def readStreamIsRecorded (reader : BytesReader) : Except MessageErrorValue RtmpMessageData := do
  let (streamId, _) ← readOr .eventReadError (reader.readU32 .bigEndian)
  return .streamIsRecorded streamId

def parseEvent (reader : BytesReader) : Except MessageErrorValue RtmpMessageData := do
  let (eventType, reader) ← readOr .eventReadError (reader.readU16 .bigEndian)
  if eventType = RTMP_EVENT_SET_BUFFER_LENGTH then readSetBufferLength reader
  else if eventType = RTMP_EVENT_STREAM_BEGIN then readStreamBegin reader
  else if eventType = RTMP_EVENT_STREAM_IS_RECORDED then readStreamIsRecorded reader
  else throw .unknowEventMessageType

end EventMessagesReader

namespace MessageParser

/-- `read_with_type`: the marker is looked at and left in place. -/
def readWithType (specifiedMarker : UInt8) : Amf0Read Amf0ValueType := do
  let marker ← Amf0Reader.read fun reader => reader.advanceU8.map (·, reader)
  if marker ≠ specifiedMarker then throw .wrongType
  else Amf0Reader.readAny

/-- The third value can be an object or null.  A failed attempt at an object leaves the reader where it
stopped. -/
def readCommandObject : Amf0Read Amf0ValueType := fun reader =>
  match readWithType OBJECT reader with
  | .ok val reader' => .ok val reader'
  | .error _ reader' => readWithType NULL reader'

def readCommand : Amf0Read RtmpMessageData := do
  let commandName ← readWithType STRING
  let transactionId ← readWithType NUMBER
  let commandObj ← readCommandObject
  let others ← Amf0Reader.readAll
  return .amf0Command commandName transactionId commandObj others

def runCommand (reader : BytesReader) : Parsed :=
  match readCommand reader with
  | .ok data _ => .ok (some data)
  | .error e _ => .error (.amf0ReadError e)

/-- `MessageParser::parse`, of a message of this type. -/
def parse (msgTypeId : UInt8) (payload : List UInt8) : Parsed :=
  let reader : BytesReader := ⟨payload⟩
  if msgTypeId = COMMAND_AMF0 then
    runCommand reader
  else if msgTypeId = COMMAND_AMF3 then do
    -- the byte before the values of AMF3
    let (_, reader) ← readOr .bytesReadError reader.readU8
    runCommand reader
  else if msgTypeId = AUDIO then
    return some (.audioData reader.extractRemainingBytes.1)
  else if msgTypeId = VIDEO then
    return some (.videoData reader.extractRemainingBytes.1)
  else if msgTypeId = USER_CONTROL_EVENT then do
    let data ← EventMessagesReader.parseEvent reader
    return some data
  else if msgTypeId = Chunk.SET_CHUNK_SIZE then do
    let chunkSize ← ProtocolControlMessageReader.readSetChunkSize reader
    return some (.setChunkSize chunkSize)
  else if msgTypeId = ABORT then do
    let chunkStreamId ← ProtocolControlMessageReader.readAbortMessage reader
    return some (.abortMessage chunkStreamId)
  else if msgTypeId = ACKNOWLEDGEMENT then do
    let sequenceNumber ← ProtocolControlMessageReader.readAcknowledgement reader
    return some (.acknowledgement sequenceNumber)
  else if msgTypeId = WIN_ACKNOWLEDGEMENT_SIZE then do
    let size ← ProtocolControlMessageReader.readWindowAcknowledgementSize reader
    return some (.windowAcknowledgementSize size)
  else if msgTypeId = SET_PEER_BANDWIDTH then do
    let properties ← ProtocolControlMessageReader.readSetPeerBandwidth reader
    return some (.setPeerBandwidth properties)
  else if msgTypeId = DATA_AMF0 ∨ msgTypeId = DATA_AMF3 then
    return some (.amfData reader.extractRemainingBytes.1)
  else
    -- shared objects, aggregates and all other types are not processed
    return none

end MessageParser

end Xiu.Rtmp.Messages
