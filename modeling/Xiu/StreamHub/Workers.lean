import Xiu.ProofKit.Action
import Xiu.ProofKit.Loop
import Xiu.StreamHub.Define

/-! The subscribers that serve other protocols from a stream of the hub: the HLS segmenter, the
HTTP-FLV handler, and the sessions that publish an RTSP or a WHIP stream as an RTMP one.  Each reads
the frames of its channel in a loop of calls that may fail.

A run is given the hub's answers and what its channel yields, one entry for each `recv`: a frame, or
`none` once the channel is closed.  What the calls do is a parameter. -/

namespace Xiu.StreamHub.Workers

open ProofKit

/-- How a call fails: it returns an error, or it panics. -/
inductive Failure (ε : Type) where
  | error (e : ε)
  | panic
  deriving DecidableEq

/-- How far a `run` has come with the entries of its channel. -/
inductive Ending (ε : Type) where
  | waiting
  | ok
  | failed (f : Failure ε)
  deriving DecidableEq

/-- The function has returned, with `Ok` or `Err`. -/
def Ending.Returned {ε : Type} : Ending ε → Prop
  | .ok => True
  | .failed (.error _) => True
  | _ => False

instance {ε : Type} : DecidablePred (Ending.Returned (ε := ε))
  | .ok => .isTrue trivial
  | .failed (.error _) => .isTrue trivial
  | .failed .panic => .isFalse id
  | .waiting => .isFalse id

/-- Calls that work on the state `σ` of a worker. -/
abbrev Call (ε σ : Type) := EStateM (Failure ε) σ

variable {ε σ : Type}

/-- What the end of a worker's calls means for the function they are in, and what it sends when they
succeed. -/
def conclude (result : EStateM.Result (Failure ε) σ Unit) (events : List StreamHubEvent) :
    Ending ε × List StreamHubEvent :=
  match result with
  | .ok _ _ => (.ok, events)
  | .error f _ => (.failed f, [])

/-- The loop of `receive_flv_data`, `receive_rtsp_data` and `receive_whip_data`: frames that are not
taken go round at once, one that ends the stream leaves the loop, and so does the eleventh empty
receive since the last frame taken. -/
def receiveData (takes ends : FrameData → Bool) (process : FrameData → Call ε σ Unit) :
    Nat → List (Option FrameData) → σ → Option (EStateM.Result (Failure ε) σ Unit)
  | _, [], _ => none
  | retryCount, some data :: rest, s =>
    if takes data then
      match process data s with
      | .ok _ s => if ends data then some (.ok () s) else receiveData takes ends process 0 rest s
      | .error f s => some (.error f s)
    else
      receiveData takes ends process retryCount rest s
  | retryCount, none :: rest, s =>
    if retryCount + 1 > 10 then
      some (.ok () s)
    else
      receiveData takes ends process (retryCount + 1) rest s

/-! ### HLS -/

/-- The calls of `Flv2HlsRemuxer`. -/
structure Segmenter (ε σ : Type) where
  processFlvData : FrameData → Call ε σ Unit
  flushRemainingData : Call ε σ Unit
  clearFiles : Call ε σ Unit

structure FlvDataReceiver where
  appName : String
  streamName : String
  subscriberId : Uuid

namespace FlvDataReceiver

def identifier (w : FlvDataReceiver) : StreamIdentifier := .rtmp w.appName w.streamName

def subInfo (w : FlvDataReceiver) : SubscriberInfo := ⟨w.subscriberId, .rtmpRemux2Hls, .frame⟩

/-- Audio and video are taken as FLV data; nothing ends the stream. -/
def takes : FrameData → Bool
  | .audio _ _ | .video _ _ => true
  | _ => false

def receiveFlvData (w : FlvDataReceiver) (c : Segmenter ε σ) (received : List (Option FrameData))
    (s : σ) : Ending ε × List StreamHubEvent :=
  match receiveData takes (fun _ => false) c.processFlvData 0 received s with
  | none => (.waiting, [])
  | some (.error f _) => (.failed f, [])
  | some (.ok _ s) =>
    conclude ((do c.flushRemainingData; c.clearFiles : Call ε σ Unit) s)
      [.unSubscribe w.identifier w.subInfo]

/-- `FlvDataReceiver::run` with the hub's answer to its subscription. -/
def run (w : FlvDataReceiver) (c : Segmenter ε σ) (subscribed : Except ε Unit)
    (received : List (Option FrameData)) (s : σ) : Ending ε × List StreamHubEvent :=
  match subscribed with
  | .error e => (.failed (.error e), [.subscribe w.identifier w.subInfo])
  | .ok _ =>
    let (ending, events) := w.receiveFlvData c received s
    (ending, .subscribe w.identifier w.subInfo :: events)

end FlvDataReceiver

/-! ### RTSP and WHIP to RTMP -/

/-- The offset of the first start code 00 00 01. -/
def findStartCode : List UInt8 → Option Nat
  | [] => none
  | b :: rest =>
    if [0, 0, 1].isPrefixOf (b :: rest) then some 0 else (findStartCode rest).map (· + 1)

/-- The position after the last byte before `n` that is not zero. -/
def trimZeros (nalus : List UInt8) : Nat → Nat
  | 0 => 0
  | n + 1 => if nalus[n]? = some 0 then trimZeros nalus n else n + 1

/-- Where a unit whose start code stands at `firstPos` ends. -/
def unitEnd (nalus : List UInt8) (firstPos : Nat) : Nat :=
  match findStartCode (nalus.drop (firstPos + 3)) with
  | some distance => trimZeros nalus (firstPos + 3 + distance)
  | none => nalus.length

theorem findStartCode_one {nalus : List UInt8} {pos : Nat} (h : findStartCode nalus = some pos) :
    nalus[pos + 2]? = some 1 := by
  induction nalus generalizing pos with
  | nil => cases h
  | cons b rest ih =>
    simp only [findStartCode] at h
    split at h
    · rename_i hPrefix
      obtain ⟨tail, hTail⟩ := List.isPrefixOf_iff_prefix.mp hPrefix
      obtain rfl := Option.some.inj h
      rw [← hTail]
      rfl
    · obtain ⟨n, hn, rfl⟩ := Option.map_eq_some_iff.mp h
      simpa using ih hn

theorem le_trimZeros {nalus : List UInt8} {k n : Nat} (hByte : nalus[k]? = some 1) (h : k < n) :
    k < trimZeros nalus n := by
  induction n with
  | zero => exact h
  | succ n ih =>
    simp only [trimZeros]
    split
    · rename_i hZero
      have hNe : k ≠ n := by
        rintro rfl
        rw [hByte] at hZero
        exact absurd hZero (by decide)
      exact ih (by omega)
    · exact h

/-- Every unit takes bytes, so splitting ends. -/
theorem unitEnd_pos {nalus : List UInt8} {pos : Nat} (h : findStartCode nalus = some pos) :
    0 < unitEnd nalus pos := by
  have hOne := findStartCode_one h
  have hLength := (List.getElem?_eq_some_iff.mp hOne).1
  simp only [unitEnd]
  split
  · exact Nat.lt_of_le_of_lt (Nat.zero_le _) (le_trimZeros hOne (by omega))
  · omega

/-- The `while !nalus.is_empty()` loop that splits a frame at its start codes. -/
def naluLoop : Loop (List (List UInt8) × List UInt8) (List (List UInt8)) where
  body := fun (naluVec, nalus) =>
    match findStartCode nalus with
    | none => .done naluVec
    | some firstPos =>
      let unit := nalus.take (unitEnd nalus firstPos)
      .again (naluVec ++ [unit.drop (firstPos + 3)], nalus.drop (unitEnd nalus firstPos))
  measure := fun (_, nalus) => nalus.length
  decreases := fun (naluVec, nalus) s' h => by
    dsimp only at h ⊢
    split at h
    · cases h
    · rename_i firstPos hPos
      obtain rfl := Turn.again.inj h
      have hEnd := unitEnd_pos hPos
      have hLength := (List.getElem?_eq_some_iff.mp (findStartCode_one hPos)).1
      simp only [List.length_drop]
      omega

def splitNalus (nalus : List UInt8) : List (List UInt8) := naluLoop.run ([], nalus)

/-- The calls of a session that remuxes to RTMP: what `on_rtsp_audio` or `on_whip_audio` does with an
audio frame; what `on_rtsp_video` or `on_whip_video` does with a unit whose type has been read, and
after the last of them with all; and the error that `read_u8` gives for a unit that is empty. -/
structure Remuxer (ε σ : Type) where
  onAudio : UInt32 → List UInt8 → Call ε σ Unit
  onNalu : List UInt8 → Call ε σ Unit
  onNalus : UInt32 → List (List UInt8) → Call ε σ Unit
  setClockRates : MediaInfo → σ → σ
  notEnoughBytes : ε

namespace Remuxer

variable (c : Remuxer ε σ)

def readNalu : List UInt8 → Call ε σ Unit
  | [] => throw (.error c.notEnoughBytes)
  | naluType :: rest => c.onNalu (naluType :: rest)

def onVideo (timestamp : UInt32) (nalus : List UInt8) : Call ε σ Unit := do
  (splitNalus nalus).forM c.readNalu
  c.onNalus timestamp (splitNalus nalus)

def onFrame : FrameData → Call ε σ Unit
  | .audio timestamp data => c.onAudio timestamp data
  | .video timestamp data => c.onVideo timestamp data
  | .mediaInfo info => modify (c.setClockRates info)
  | .metaData _ _ => pure ()

/-- All but metadata are taken. -/
def takes : FrameData → Bool
  | .metaData _ _ => false
  | _ => true

/-- H265 is not remuxed. -/
def ends : FrameData → Bool
  | .mediaInfo info => info.vcodec = .h265
  | _ => false

end Remuxer

/-- What `Rtsp2RtmpRemuxerSession` and `Whip2RtmpRemuxerSession` have in common: the stream that they
read, the stream that they publish, and as whom. -/
structure RemuxerSession where
  source : StreamIdentifier
  subInfo : SubscriberInfo
  appName : String
  streamName : String
  sessionId : Uuid

namespace RemuxerSession

def identifier (w : RemuxerSession) : StreamIdentifier := .rtmp w.appName w.streamName

/-- `Common::get_publisher_info` of a server session. -/
def pubInfo (w : RemuxerSession) : PublisherInfo := ⟨w.sessionId, .rtmpPush, .frame⟩

def receive (w : RemuxerSession) (c : Remuxer ε σ) (received : List (Option FrameData)) (s : σ) :
    Ending ε × List StreamHubEvent :=
  match receiveData Remuxer.takes Remuxer.ends c.onFrame 0 received s with
  | none => (.waiting, [])
  | some result =>
    conclude result [.unSubscribe w.source w.subInfo, .unPublish w.identifier w.pubInfo]

/-- `run` with the hub's answers to the publication and to the subscription. -/
def run (w : RemuxerSession) (c : Remuxer ε σ) (published subscribed : Except ε Unit)
    (received : List (Option FrameData)) (s : σ) : Ending ε × List StreamHubEvent :=
  let publish := StreamHubEvent.publish w.identifier w.pubInfo
  let subscribe := StreamHubEvent.subscribe w.source w.subInfo
  match published with
  | .error e => (.failed (.error e), [publish])
  | .ok _ =>
    match subscribed with
    | .error e => (.failed (.error e), [publish, subscribe])
    | .ok _ =>
      let (ending, events) := w.receive c received s
      (ending, publish :: subscribe :: events)

end RemuxerSession

/-- `Rtsp2RtmpRemuxerSession::new`: the path is split at its first slash, and one without a slash
names a stream of the application `rtsp`. -/
def Rtsp2RtmpRemuxerSession (streamPath : String) (subscribeId sessionId : Uuid) :
    RemuxerSession :=
  let app := streamPath.toList.takeWhile (· ≠ '/')
  let hasSlash := app.length < streamPath.toList.length
  { source := .rtsp streamPath
    subInfo := ⟨subscribeId, .rtspRemux2Rtmp, .frame⟩
    appName := if hasSlash then String.ofList app else "rtsp"
    streamName :=
      if hasSlash then String.ofList (streamPath.toList.drop (app.length + 1)) else streamPath
    sessionId }

def Whip2RtmpRemuxerSession (appName streamName : String) (subscribeId sessionId : Uuid) :
    RemuxerSession :=
  { source := .webRTC appName streamName
    subInfo := ⟨subscribeId, .webRTCRemux2Rtmp, .frame⟩
    appName, streamName, sessionId }

/-! ### HTTP-FLV -/

/-- The calls of `HttpFlv`: those of the muxer, those that hand bytes to the consumer of the HTTP
response, and whether an error says that this consumer is gone. -/
structure FlvWriter (ε σ : Type) where
  writeFlvHeader : Bool → Bool → Call ε σ Unit
  writePreviousTagSize : Nat → Call ε σ Unit
  flushResponseData : Call ε σ Unit
  writeFlvTag : FrameData → Call ε σ Unit
  isDisconnected : ε → Bool

/-- What `send_media_stream` has gathered before it sends the header. -/
structure Guess where
  hasAudio : Bool
  hasVideo : Bool
  frameNum : Nat
  cachedFrames : List FrameData

namespace Guess

def start : Guess := ⟨false, false, 0, []⟩

def add (g : Guess) : FrameData → Guess
  | .audio t d => ⟨true, g.hasVideo, g.frameNum + 1, g.cachedFrames ++ [.audio t d]⟩
  | .video t d => ⟨g.hasAudio, true, g.frameNum + 1, g.cachedFrames ++ [.video t d]⟩
  | .metaData t d => ⟨g.hasAudio, g.hasVideo, g.frameNum + 1, g.cachedFrames ++ [.metaData t d]⟩
  | .mediaInfo _ => ⟨g.hasAudio, g.hasVideo, g.frameNum + 1, g.cachedFrames⟩

/-- Both kinds have been seen, or too many frames have. -/
def complete (g : Guess) : Bool := (g.hasAudio && g.hasVideo) || g.frameNum > 10

end Guess

structure HttpFlv where
  appName : String
  streamName : String
  subscriberId : Uuid

namespace HttpFlv

def identifier (w : HttpFlv) : StreamIdentifier := .rtmp w.appName w.streamName

def subInfo (w : HttpFlv) : SubscriberInfo := ⟨w.subscriberId, .rtmpRemux2HttpFlv, .frame⟩

/-- The header and the frames cached so far. -/
def sendHeader (c : FlvWriter ε σ) (g : Guess) : Call ε σ Unit := do
  c.writeFlvHeader g.hasAudio g.hasVideo
  c.writePreviousTagSize 0
  c.flushResponseData
  g.cachedFrames.forM c.writeFlvTag

/-- The loop of `send_media_stream` after the header: only a consumer that is gone, or the eleventh
failure in a row, ends it. -/
def sendBody (c : FlvWriter ε σ) :
    Nat → List (Option FrameData) → σ → Option (EStateM.Result (Failure ε) σ Unit)
  | _, [], _ => none
  | retryCount, some data :: rest, s =>
    match c.writeFlvTag data s with
    | .ok _ s => sendBody c 0 rest s
    | .error .panic s => some (.error .panic s)
    | .error (.error e) s =>
      if c.isDisconnected e then some (.ok () s)
      else if retryCount + 1 > 10 then some (.ok () s)
      else sendBody c (retryCount + 1) rest s
  | retryCount, none :: rest, s =>
    if retryCount + 1 > 10 then some (.ok () s) else sendBody c (retryCount + 1) rest s

/-- The loop of `send_media_stream` before the header. -/
def sendFrames (c : FlvWriter ε σ) :
    Guess → Nat → List (Option FrameData) → σ → Option (EStateM.Result (Failure ε) σ Unit)
  | _, _, [], _ => none
  | g, retryCount, some data :: rest, s =>
    if (g.add data).complete then
      match sendHeader c (g.add data) s with
      | .ok _ s => sendBody c retryCount rest s
      | .error f s => some (.error f s)
    else
      sendFrames c (g.add data) retryCount rest s
  | g, retryCount, none :: rest, s =>
    if retryCount + 1 > 10 then some (.ok () s) else sendFrames c g (retryCount + 1) rest s

def sendMediaStream (w : HttpFlv) (c : FlvWriter ε σ) (received : List (Option FrameData)) (s : σ) :
    Ending ε × List StreamHubEvent :=
  match sendFrames c .start 0 received s with
  | none => (.waiting, [])
  | some result => conclude result [.unSubscribe w.identifier w.subInfo]

/-- `HttpFlv::run` with the hub's answer to its subscription. -/
def run (w : HttpFlv) (c : FlvWriter ε σ) (subscribed : Except ε Unit)
    (received : List (Option FrameData)) (s : σ) : Ending ε × List StreamHubEvent :=
  match subscribed with
  | .error e => (.failed (.error e), [.subscribe w.identifier w.subInfo])
  | .ok _ =>
    let (ending, events) := w.sendMediaStream c received s
    (ending, .subscribe w.identifier w.subInfo :: events)

end HttpFlv

end Xiu.StreamHub.Workers
