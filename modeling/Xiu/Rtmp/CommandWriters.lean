import Xiu.Rtmp.ControlWriters

/-! The writers of commands, of `protocol/rtmp/src/netconnection/writer.rs` and
`protocol/rtmp/src/netstream/writer.rs`, by the values that each of their methods writes before it
writes a chunk, and the message stream of that chunk.  Numbers are given by their bits. -/

namespace Xiu.Rtmp

open Flv.Amf0

structure Command where
  values : List Amf0ValueType
  msgStreamId : UInt32

structure ConnectProperties where
  app : Option String
  flashVer : Option String
  swfUrl : Option String
  tcUrl : Option String
  fpad : Option Bool
  capabilities : Option UInt64
  audioCodecs : Option UInt64
  videoCodecs : Option UInt64
  videoFunction : Option UInt64
  objectEncoding : Option UInt64
  pageUrl : Option String
  pubType : Option String
  deriving DecidableEq

/-- `ConnectProperties::new_none`, and the default. -/
def ConnectProperties.newNone : ConnectProperties :=
  ⟨none, none, none, none, none, none, none, none, none, none, none, none⟩

/-- `IndexMap::insert` for each pair, one after the other. -/
def properties (pairs : List (String × Amf0ValueType)) : Amf0ValueType :=
  .object (pairs.foldl (fun map p => insert map p.1 p.2) [])

namespace NetConnection

/-- `write_chunk` is for message stream 0. -/
def command (values : List Amf0ValueType) : Command := ⟨values, 0⟩

def writeConnectWithValue (transactionId : UInt64) (map : List (String × Amf0ValueType)) : Command :=
  command [.utf8String "connect", .number transactionId, .object map]

/-- The properties that are there, in the order in which they are inserted. -/
def connectPairs (p : ConnectProperties) : List (String × Amf0ValueType) :=
  (p.app.map fun app => ("app", Amf0ValueType.utf8String app)).toList ++
  (p.pubType.map fun pubType => ("type", Amf0ValueType.utf8String pubType)).toList ++
  (p.flashVer.map fun flashVer => ("flashVer", Amf0ValueType.utf8String flashVer)).toList ++
  (p.tcUrl.map fun tcUrl => ("tcUrl", Amf0ValueType.utf8String tcUrl)).toList ++
  (p.swfUrl.map fun swfUrl => ("swfUrl", Amf0ValueType.utf8String swfUrl)).toList ++
  (p.pageUrl.map fun pageUrl => ("pageUrl", Amf0ValueType.utf8String pageUrl)).toList ++
  (p.fpad.map fun fpad => ("fpad", Amf0ValueType.boolean fpad)).toList ++
  (p.capabilities.map fun n => ("capabilities", Amf0ValueType.number n)).toList ++
  (p.audioCodecs.map fun n => ("audioCodecs", Amf0ValueType.number n)).toList ++
  (p.videoCodecs.map fun n => ("videoCodecs", Amf0ValueType.number n)).toList ++
  (p.videoFunction.map fun n => ("videoFunction", Amf0ValueType.number n)).toList ++
  (p.objectEncoding.map fun n => ("objectEncoding", Amf0ValueType.number n)).toList

def writeConnect (transactionId : UInt64) (p : ConnectProperties) : Command :=
  command [.utf8String "connect", .number transactionId, properties (connectPairs p)]

def writeConnectResponse (transactionId : UInt64) (fmsver : String) (capabilities : UInt64)
    (code level description : String) (encoding : UInt64) : Command :=
  command [.utf8String "_result", .number transactionId,
    properties [("fmsVer", .utf8String fmsver), ("capabilities", .number capabilities)],
    properties [("level", .utf8String level), ("code", .utf8String code),
      ("description", .utf8String description), ("objectEncoding", .number encoding)]]

def writeCreateStream (transactionId : UInt64) : Command :=
  command [.utf8String "createStream", .number transactionId, .null]

def writeCreateStreamResponse (transactionId streamId : UInt64) : Command :=
  command [.utf8String "_result", .number transactionId, .null, .number streamId]

def writeGetStreamLength (transactionId : UInt64) (streamName : String) : Command :=
  command [.utf8String "getStreamLength", .number transactionId, .null, .utf8String streamName]

def error (transactionId : UInt64) (code level description : String) : Command :=
  command [.utf8String "_error", .number transactionId, .null,
    properties [("level", .utf8String level), ("code", .utf8String code),
      ("description", .utf8String description)]]

end NetConnection

namespace NetStreamWriter

/-- A command of a stream: its name, the transaction, no object, and the arguments. -/
def command (name : String) (transactionId : UInt64) (others : List Amf0ValueType)
    (msgStreamId : UInt32) : Command :=
  ⟨[.utf8String name, .number transactionId, .null] ++ others, msgStreamId⟩

def writePlay (transactionId : UInt64) (streamName : String) (start duration : UInt64)
    (reset : Bool) : Command :=
  command "play" transactionId
    [.utf8String streamName, .number start, .number duration, .boolean reset] 0

def writeDeleteStream (transactionId streamId : UInt64) : Command :=
  command "deleteStream" transactionId [.number streamId] 0

def writeCloseStream (transactionId streamId : UInt64) : Command :=
  command "closeStream" transactionId [.number streamId] 0

def writeReleaseStream (transactionId : UInt64) (streamName : String) : Command :=
  command "releaseStream" transactionId [.utf8String streamName] 0

def writeFcpublish (transactionId : UInt64) (streamName : String) : Command :=
  command "FCPublish" transactionId [.utf8String streamName] 0

def writeReceiveAudio (transactionId : UInt64) (enable : Bool) : Command :=
  command "receiveAudio" transactionId [.boolean enable] 0

def writeReceiveVideo (transactionId : UInt64) (enable : Bool) : Command :=
  command "receiveVideo" transactionId [.boolean enable] 0

def writePublish (transactionId : UInt64) (streamName streamType : String) : Command :=
  command "publish" transactionId [.utf8String streamName, .utf8String streamType] 0

def writeSeek (transactionId ms : UInt64) : Command := command "seek" transactionId [.number ms] 0

def writePause (transactionId : UInt64) (pause : Bool) (ms : UInt64) : Command :=
  command "pause" transactionId [.boolean pause, .number ms] 0

def writeOnBwDone (transactionId bandwidth : UInt64) : Command :=
  command "onBWDone" transactionId [.number bandwidth] 0

def writeOnStatus (transactionId : UInt64) (level code description : String) : Command :=
  command "onStatus" transactionId
    [properties [("level", .utf8String level), ("code", .utf8String code),
      ("description", .utf8String description)]] 1

end NetStreamWriter

/-- What a session writes to its connection, beside media. -/
inductive Written where
  | control (message : ControlMessage)
  | command (command : Command)

end Xiu.Rtmp
