import Xiu.Flv.AvcSaved
import Xiu.H264.Sps
import Xiu.Rtmp.Cache.Cache
import Xiu.Rtmp.Cache.Metadata
import Xiu.Rtmp.Remuxer.RtmpCooker
import Xiu.StreamHub.Workers

/-! The sessions that publish an RTSP or a WHIP stream as an RTMP one, of
`protocol/rtmp/src/remuxer/rtsp2rtmp.rs` and `whip2rtmp.rs`: what becomes of each frame of their
channel, and what `protocol/rtmp/src/session/common.rs` does with the messages. -/

namespace Xiu.Rtmp.Remuxer

open Bytesio ProofKit StreamHub
open Flv (AvcFault Mpeg4Avc.parse H264_NAL_IDR H264_NAL_SPS H264_NAL_PPS)
open Flv.Amf0 (Amf0WriteErrorValue)

/-- Why a frame ends the session: a panic, told apart by its cause, or an error. -/
inductive RemuxFault where
  | subtractOverflow
  | divideByZero
  | panic
  | bytesReadError (value : BytesReadErrorValue)
  | amf0WriteError (value : Amf0WriteErrorValue)
  | avcError (fault : AvcFault)
  | sendFrameDataErr
  | saveAudio (fault : Fault)
  | saveVideo (fault : AvcFault)
  deriving DecidableEq

/-! ### The messages -/

/-- What a `Common` that publishes to the hub has: the sending end of the stream's channel, with what
was sent there, and the cache of its stream handler. -/
structure Common where
  connected : Bool
  sent : List FrameData
  cache : Cache
  metadata : MetadataCache

namespace Common

abbrev Run := EStateM RemuxFault Common

/-- `data_sender.send`. -/
def send (channelData : FrameData) : Run Unit := do
  if (← get).connected then modify fun self => { self with sent := self.sent ++ [channelData] }
  else throw .sendFrameDataErr

/-- What is done to the cache, whose errors are passed on. -/
def saving {ε : Type} (wrap : ε → RemuxFault) (save : EStateM ε Cache Unit) : Run Unit := fun self =>
  match save self.cache with
  | .ok _ cache => .ok () { self with cache }
  | .error e cache => .error (wrap e) { self with cache }

def onAudioData (data : List UInt8) (timestamp : UInt32) : Run Unit := do
  send (.audio timestamp data)
  saving .saveAudio (Cache.saveAudioData data timestamp)

def onVideoData (data : List UInt8) (timestamp : UInt32) : Run Unit := do
  send (.video timestamp data)
  saving .saveVideo (Cache.saveVideoData Mpeg4Avc.parse data timestamp)

def onMetaData (data : List UInt8) (timestamp : UInt32) : Run Unit := do
  send (.metaData timestamp data)
  modify fun self => { self with metadata := self.metadata.saveMetadata data timestamp }

/-- After `publish_to_stream_hub`. -/
def published (gopNum : Nat) (statisticDataSender : Option (List StatisticData)) : Common where
  connected := true
  sent := []
  cache := Cache.new gopNum statisticDataSender
  metadata := MetadataCache.new

end Common

/-! ### The sessions -/

/-- The last three fields are only those of a WHIP session. -/
structure RemuxerSession where
  videoClockRate : UInt32
  audioClockRate : UInt32
  baseVideoTimestamp : UInt32
  baseAudioTimestamp : UInt32
  rtmpHandler : Common
  sps : Option (List UInt8)
  pps : Option (List UInt8)
  videoSeqHeaderGenerated : Bool

namespace RemuxerSession

def new (rtmpHandler : Common) : RemuxerSession where
  videoClockRate := 1000
  audioClockRate := 1000
  baseVideoTimestamp := 0
  baseAudioTimestamp := 0
  rtmpHandler := rtmpHandler
  sps := none
  pps := none
  videoSeqHeaderGenerated := false

abbrev Run := EStateM RemuxFault RemuxerSession

/-- A call of `rtmp_handler`. -/
def handler (x : Common.Run Unit) : Run Unit :=
  onPart RemuxerSession.rtmpHandler (fun self rtmpHandler => { self with rtmpHandler }) x

/-- A base of zero is one that has not been set. -/
def baseFrom (base timestamp : UInt32) : UInt32 := if base = 0 then timestamp else base

/-- `(timestamp - base) / (clock_rate / 1000)`. -/
def adjust (timestamp base clockRate : UInt32) : Run UInt32 :=
  if timestamp < base then throw .subtractOverflow
  else if clockRate / 1000 = 0 then throw .divideByZero
  else pure ((timestamp - base) / (clockRate / 1000))

/-- `on_rtsp_audio` and `on_whip_audio`, which do the same. -/
def onAudio (audioData : List UInt8) (timestamp : UInt32) : Run Unit := do
  modify fun self => { self with baseAudioTimestamp := baseFrom self.baseAudioTimestamp timestamp }
  let audioFrame := RtmpCooker.genAudioFrameData audioData
  let self ← get
  let timestampAdjust ← adjust timestamp self.baseAudioTimestamp self.audioClockRate
  handler (Common.onAudioData audioFrame timestampAdjust)

def onRtspAudio (audioData : List UInt8) (timestamp : UInt32) : Run Unit :=
  onAudio audioData timestamp

def onWhipAudio (audioData : List UInt8) (timestamp : UInt32) : Run Unit :=
  onAudio audioData timestamp

/-- What the loop over the units of a buffer finds. -/
structure Found where
  width : UInt32
  height : UInt32
  level : UInt8
  profile : UInt8
  sps : Option (List UInt8)
  pps : Option (List UInt8)
  containsIdr : Bool

/-- A buffer of which nothing has been read, with the parameter sets that are there before. -/
def Found.start (sps pps : Option (List UInt8)) : Found := ⟨0, 0, 0, 0, sps, pps, false⟩

/-- `sps_parser.parse()`: an error gives a size of zero. -/
def parseSize (sps : List UInt8) : Run (UInt32 × UInt32) :=
  match Mpeg4Avc.parse sps with
  | .ok size => pure size
  | .error .panic => throw .panic
  | .error _ => pure (0, 0)

/-- A turn of the loop.  The parser has read the profile and the level before it fails. -/
def readNalu (found : Found) : List UInt8 → Run Found
  | [] => throw (.bytesReadError .notEnoughBytes)
  | naluType :: rest =>
    if naluType &&& 0x1F = H264_NAL_SPS then do
      let (width, height) ← parseSize rest
      pure { found with
        width, height, level := rest[2]?.getD 0, profile := rest[0]?.getD 0
        sps := some (naluType :: rest) }
    else if naluType &&& 0x1F = H264_NAL_PPS then
      pure { found with pps := some (naluType :: rest) }
    else if naluType &&& 0x1F = H264_NAL_IDR then pure { found with containsIdr := true }
    else pure found

def setVideoBase (timestamp : UInt32) : Run Unit :=
  modify fun self => { self with baseVideoTimestamp := baseFrom self.baseVideoTimestamp timestamp }

/-- The metadata and the sequence header. -/
def sendHeader (found : Found) (sps pps : List UInt8) : Run Unit := do
  match RtmpCooker.genMetaData found.width found.height with
  | .error e => throw (.amf0WriteError e)
  | .ok metaData => handler (Common.onMetaData metaData 0)
  match RtmpCooker.genVideoSeqHeader sps pps found.profile found.level with
  | .error fault => throw (.avcError fault)
  | .ok seqHeader => handler (Common.onVideoData seqHeader 0)

def sendFrame (nalus : List (List UInt8)) (containsIdr : Bool) (timestamp : UInt32) : Run Unit := do
  let frameData := RtmpCooker.genVideoFrameData nalus containsIdr
  let self ← get
  let timestampAdjust ← adjust timestamp self.baseVideoTimestamp self.videoClockRate
  handler (Common.onVideoData frameData timestampAdjust)

/-- The parameter sets are those of this buffer. -/
def onRtspVideo (nalus : List UInt8) (timestamp : UInt32) : Run Unit := do
  setVideoBase timestamp
  let naluVec := Workers.splitNalus nalus
  let found ← naluVec.foldlM readNalu (.start none none)
  match found.sps, found.pps with
  | some sps, some pps => sendHeader found sps pps
  | _, _ => sendFrame naluVec found.containsIdr timestamp

/-- What `retain` keeps. -/
def isRetained (nalu : List UInt8) : Bool :=
  let naluType := nalu.headD 0 &&& 0x1F
  naluType ≠ H264_NAL_SPS && naluType ≠ H264_NAL_PPS

/-- The parameter sets are the last ones of this buffer and those before.  They are stored behind the
loop here: a loop that fails ends the session. -/
def onWhipVideo (nalus : List UInt8) (timestamp : UInt32) : Run Unit := do
  setVideoBase timestamp
  let naluVec := Workers.splitNalus nalus
  let self ← get
  let found ← naluVec.foldlM readNalu (.start self.sps self.pps)
  modify fun self => { self with sps := found.sps, pps := found.pps }
  let naluVec := naluVec.filter isRetained
  if ¬self.videoSeqHeaderGenerated then
    match found.sps, found.pps with
    | some sps, some pps => do
      sendHeader found sps pps
      modify fun self => { self with videoSeqHeaderGenerated := true }
    | _, _ => pure ()
  else if ¬naluVec.isEmpty then
    sendFrame naluVec found.containsIdr timestamp

/-- The protocol that is remuxed. -/
inductive Source where
  | rtsp
  | whip

def Source.onAudio : Source → List UInt8 → UInt32 → Run Unit
  | .rtsp => onRtspAudio
  | .whip => onWhipAudio

def Source.onVideo : Source → List UInt8 → UInt32 → Run Unit
  | .rtsp => onRtspVideo
  | .whip => onWhipVideo

/-- A turn of `receive_rtsp_data` or `receive_whip_data` with a frame. -/
def onFrame (source : Source) : FrameData → Run Unit
  | .audio timestamp data => source.onAudio data timestamp
  | .video timestamp data => source.onVideo data timestamp
  | .mediaInfo info => modify fun self => { self with
      videoClockRate := info.videoClockRate, audioClockRate := info.audioClockRate }
  | .metaData _ _ => pure ()

/-- A session to which the clock rates have been announced. -/
def announced (common : Common) (info : MediaInfo) : RemuxerSession := { new common with
  videoClockRate := info.videoClockRate, audioClockRate := info.audioClockRate }

end RemuxerSession

end Xiu.Rtmp.Remuxer
