import Xiu.StreamHub.Utils
import Mathlib.Data.List.AList

/-! What the sessions of the protocols and the stream hub hand to each other, of
`library/streamhub/src/define.rs` and `library/streamhub/src/stream.rs`. -/

namespace Xiu.StreamHub

/-- A `HashMap`. -/
abbrev Table (κ ν : Type) := AList fun _ : κ => ν

inductive StreamIdentifier where
  | unknown
  | rtmp (appName streamName : String)
  | rtsp (streamPath : String)
  | webRTC (appName streamName : String)
  deriving DecidableEq

inductive SubscribeType where
  | rtmpPull
  | rtmpRemux2HttpFlv
  | rtmpRemux2Hls
  | rtmpRelay
  | rtspPull
  | rtspRemux2Rtmp
  | rtspRelay
  | whepPull
  | webRTCRemux2Rtmp
  | whipRelay
  | rtpPull
  deriving DecidableEq

inductive PublishType where
  | rtmpPush
  | rtmpRelay
  | rtspPush
  | rtspRelay
  | whipPush
  | whepRelay
  | rtpPush
  deriving DecidableEq

inductive SubDataType where
  | frame
  | packet
  deriving DecidableEq

inductive PubDataType where
  | frame
  | packet
  | both
  deriving DecidableEq

structure SubscriberInfo where
  id : Uuid
  subType : SubscribeType
  subDataType : SubDataType
  deriving DecidableEq

structure PublisherInfo where
  id : Uuid
  pubType : PublishType
  pubDataType : PubDataType
  deriving DecidableEq

inductive VideoCodecType where
  | h264
  | h265
  deriving DecidableEq

structure MediaInfo where
  audioClockRate : UInt32
  videoClockRate : UInt32
  vcodec : VideoCodecType
  deriving DecidableEq

inductive FrameData where
  | video (timestamp : UInt32) (data : List UInt8)
  | audio (timestamp : UInt32) (data : List UInt8)
  | metaData (timestamp : UInt32) (data : List UInt8)
  | mediaInfo (info : MediaInfo)
  deriving DecidableEq

inductive PacketData where
  | video (timestamp : UInt32) (data : List UInt8)
  | audio (timestamp : UInt32) (data : List UInt8)
  deriving DecidableEq

/-- The sending end of an unbounded channel, by the name of the channel. -/
abbrev Channel := Nat

inductive DataSender where
  | frame (sender : Channel)
  | packet (sender : Channel)
  deriving DecidableEq

inductive RelayType where
  | pull
  | push
  deriving DecidableEq

/-- The events that the hub takes.  The channels on which it answers and the handler of a published
stream are those of the event. -/
inductive StreamHubEvent where
  | subscribe (identifier : StreamIdentifier) (info : SubscriberInfo)
  | unSubscribe (identifier : StreamIdentifier) (info : SubscriberInfo)
  | publish (identifier : StreamIdentifier) (info : PublisherInfo)
  | unPublish (identifier : StreamIdentifier) (info : PublisherInfo)
  | apiStatistic (topN : Option Nat) (identifier : Option StreamIdentifier) (uuid : Option Uuid)
  | apiKickClient (id : Uuid)
  | apiStartRelayStream (id : String) (identifier : StreamIdentifier) (serverAddress : String)
      (relayType : RelayType)
  | apiStopRelayStream (id : String) (relayType : RelayType)
  | request (identifier : StreamIdentifier)
  | onHls (identifier : StreamIdentifier)
  deriving DecidableEq

/-- The events that the hub sends to the task of a stream. -/
inductive TransceiverEvent where
  | subscribe (sender : DataSender) (info : SubscriberInfo)
  | unSubscribe (info : SubscriberInfo)
  | unPublish
  | api (sender : Channel) (uuid : Option Uuid)
  | request
  deriving DecidableEq

inductive StreamHubErrorValue where
  | noAppName
  | noAppOrStreamName
  | exists_
  | sendError
  | notCorrectDataSenderType
  | recvError
  deriving DecidableEq

end Xiu.StreamHub
