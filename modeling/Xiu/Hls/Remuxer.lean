import Xiu.Hls.M3u8
import Xiu.Mpegts.TsMuxer

/-! The remuxer of `flv2hls.rs`, which cuts the frames of a stream into segments.  Its field
`need_new_segment` is only used within a call, and is not part of the state here. -/

namespace Xiu.Hls

open ProofKit Mpegts

def KEY_FRAME : UInt8 := 1

/-- A demuxed audio frame, of `demuxer.rs`, but for the format that is not read here. -/
structure FlvDemuxerAudioData where
  hasData : Bool
  dts : Int64
  pts : Int64
  data : List UInt8

/-- A demuxed video frame, but for its codec. -/
structure FlvDemuxerVideoData where
  frameType : UInt8
  dts : Int64
  pts : Int64
  data : List UInt8

inductive FlvDemuxerData where
  | video (data : FlvDemuxerVideoData)
  | audio (data : FlvDemuxerAudioData)
  | none

structure Flv2HlsRemuxer where
  tsMuxer : TsMuxer
  lastTsDts : Int
  lastTsPts : Int
  lastDts : Int
  lastPts : Int
  duration : Int
  videoPid : UInt16
  audioPid : UInt16
  m3u8Handler : M3u8
  /-- Whether there is an `event_producer`. -/
  eventProducer : Bool
  appName : Text
  streamName : Text
  aofRatio : Int

/-- What is written of a frame. -/
structure Frame where
  pid : UInt16
  pts : Int
  dts : Int
  flags : UInt16
  payload : List UInt8

variable {α : Type}

/-- A fault of the muxer, as the remuxer passes it on. -/
def mediaFault : MuxFault → MediaFault
  | .error value => .mpegTsError value
  | .panic => .panic

namespace Flv2HlsRemuxer

def onTsMuxer (x : Mux α) : Acts Flv2HlsRemuxer α := fun s =>
  match x s.owner.tsMuxer with
  | .ok a tsMuxer => .ok a { s with owner := { s.owner with tsMuxer } }
  | .error e tsMuxer => .error (mediaFault e) { s with owner := { s.owner with tsMuxer } }

def onM3u8 (x : Acts M3u8 α) : Acts Flv2HlsRemuxer α :=
  onPart (fun s => ⟨s.owner.m3u8Handler, s.effects⟩)
    (fun s t => ⟨{ s.owner with m3u8Handler := t.owner }, t.effects⟩) x

/-- The muxer with its two streams, and their pids. -/
def newStreams : EStateM.Result MuxFault TsMuxer (UInt16 × UInt16) :=
  (do
    let audioPid ← TsMuxer.addStream PSI_STREAM_AAC
    let videoPid ← TsMuxer.addStream PSI_STREAM_H264
    return (audioPid, videoPid) : Mux (UInt16 × UInt16)) .new

def new (appName streamName : Text) (hlsConfig : Option HlsConfig) (eventProducer : Bool) :
    Except MediaFault (Acting Flv2HlsRemuxer) :=
  match newStreams with
  | .error _ _ => .error .panic
  | .ok (audioPid, videoPid) tsMuxer => do
    let duration := (hlsConfig.bind (·.fragment)).getD 5
    let m3u8 ← M3u8.new duration appName streamName hlsConfig
    return ⟨{ tsMuxer
              lastTsDts := 0, lastTsPts := 0, lastDts := 0, lastPts := 0
              duration
              videoPid, audioPid
              m3u8Handler := m3u8.owner
              eventProducer
              appName, streamName
              aofRatio := (hlsConfig.bind (·.aofRatio)).getD 5 }, m3u8.effects⟩

/-- Whether a frame is as far from the start of the segment as a limit. -/
def passed (self : Flv2HlsRemuxer) (dts : Int) (limit : Except MediaFault Int) : Except MediaFault Bool := do
  let distance ← checkedI64 (dts - self.lastTsDts)
  return (← limit) ≤ distance

/-- What is written of the data, and whether a new segment is needed before; nothing, where there is
nothing to write. -/
def frameOf (self : Flv2HlsRemuxer) (flvDemuxData : FlvDemuxerData) :
    Except MediaFault (Option (Frame × Bool)) :=
  match flvDemuxData with
  | .video data => do
    let isKey := data.frameType = KEY_FRAME
    let needNewSegment ←
      if isKey then self.passed data.dts.toInt (checkedI64 (self.duration * 1000)) else .ok false
    return some (⟨self.videoPid, data.pts.toInt, data.dts.toInt,
      if isKey then MPEG_FLAG_IDR_FRAME else 0, data.data⟩, needNewSegment)
  | .audio data =>
    if !data.hasData then .ok none
    else do
      let needNewSegment ← self.passed data.dts.toInt
        (do checkedI64 ((← checkedI64 (self.duration * 1000)) * self.aofRatio))
      return some (⟨self.audioPid, data.pts.toInt, data.dts.toInt, 0, data.data⟩, needNewSegment)
  | .none => .ok none

/-- Whether the segment that ends at a time is followed by a gap. -/
def discontinuity (self : Flv2HlsRemuxer) (dts : Int) : Except MediaFault Bool := do
  return (← checkedI64 (self.lastTsDts + 15 * 1000)) < dts

/-- Tells the hub of the last segment. -/
def notify : Acts Flv2HlsRemuxer Unit := do
  let self := (← get).owner
  match self.m3u8Handler.segments.getLast? with
  | some segment =>
    if self.eventProducer then perform (.onHls self.appName self.streamName segment)
  | none => pure ()

/-- The end of a segment, at a frame or behind the last one. -/
def addSegment (dts : Int) (discontinuity isEof : Bool) (data : List UInt8) :
    Acts Flv2HlsRemuxer Unit := do
  let duration ← orFail (checkedI64 (dts - (← get).owner.lastTsDts))
  onM3u8 (M3u8.addSegment duration discontinuity isEof data)
  let _ ← onM3u8 M3u8.refreshPlaylist

/-- The data of the muxer, which is taken out. -/
def getData : Mux (List UInt8) := fun m => .ok m.getData.1 m.getData.2

def flushRemainingData : Acts Flv2HlsRemuxer Unit := do
  let data ← onTsMuxer getData
  let self := (← get).owner
  let discontinuity ← orFail (self.discontinuity self.lastDts)
  addSegment self.lastDts discontinuity true data

/-- A new segment, which a frame opens. -/
def cut (frame : Frame) : Acts Flv2HlsRemuxer Unit := do
  let discontinuity ← orFail ((← get).owner.discontinuity frame.dts)
  let data ← onTsMuxer getData
  notify
  addSegment frame.dts discontinuity false data
  modify fun s =>
    { s with owner := { s.owner with
        tsMuxer := s.owner.tsMuxer.reset, lastTsDts := frame.dts, lastTsPts := frame.pts } }

/-- Writes a frame. -/
def writeFrame (frame : Frame) : Acts Flv2HlsRemuxer Unit := do
  modify fun s => { s with owner := { s.owner with lastDts := frame.dts, lastPts := frame.pts } }
  let pts ← orFail (Hls.checkedI64 (frame.pts * 90))
  let dts ← orFail (Hls.checkedI64 (frame.dts * 90))
  onTsMuxer (TsMuxer.write frame.pid (Int64.ofInt pts) (Int64.ofInt dts) frame.flags frame.payload)

def processDemuxData (flvDemuxData : FlvDemuxerData) : Acts Flv2HlsRemuxer Unit := do
  match ← orFail ((← get).owner.frameOf flvDemuxData) with
  | none => pure ()
  | some (frame, needNewSegment) =>
    if needNewSegment then cut frame
    writeFrame frame

end Flv2HlsRemuxer

end Xiu.Hls
