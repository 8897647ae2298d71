import Xiu.Common.Auth
import Xiu.Common.Http
import Xiu.ProofKit.Action
import Xiu.ProofKit.System
import Xiu.Rtsp.Sdp
import Xiu.Rtsp.Transport
import Xiu.StreamHub.Define

/-! The requests of an RTSP session, of `protocol/rtsp/src/session/server_session.rs`, and what
`protocol/rtsp/src/rtsp.rs` does when its connection is lost.  What the session sends to the hub and
to the client is kept.  Media are not modelled: the frames that PLAY passes on end, as they do in the
source, with an error. -/

namespace Xiu.Rtsp.Session

open Common ProofKit StreamHub

inductive TrackType where
  | audio
  | video
  | application
  deriving DecidableEq

inductive RtspCodecId where
  | h264
  | h265
  | aac
  | g711a
  deriving DecidableEq

/-- `RTSP_CODEC_NAME_2_ID`, for a name in any case. -/
def codecId (name : String) : Option RtspCodecId :=
  [("h264", RtspCodecId.h264), ("h265", .h265), ("mpeg4-generic", .aac), ("pcma", .g711a)].lookup
    (String.ofList (toLowercase name.toList))

structure RtspCodecInfo where
  codecId : RtspCodecId
  payloadType : Nat
  sampleRate : Nat
  channelCount : Nat
  deriving DecidableEq

structure RtspTrack where
  codecInfo : RtspCodecInfo
  mediaControl : String
  transport : RtspTransport
  deriving DecidableEq

inductive ServerSessionType where
  | pull
  | push
  deriving DecidableEq

/-- An event that the session has sent to the hub, the request in whose handling it has, and the
hub's answer if it is waited for. -/
structure Sent where
  event : StreamHubEvent
  request : Option HttpRequest
  accepted : Bool
  deriving DecidableEq

/-- The tracks stand in an order in which the map may go through them. -/
structure RtspServerSession where
  tracks : List (TrackType × RtspTrack)
  sdp : Sdp
  handlerSdp : Sdp
  sessionId : Option Uuid
  sessionType : ServerSessionType
  auth : Option Auth
  streamIdentifier : Option StreamIdentifier
  isNormalExit : Bool
  sent : List Sent
  responses : List HttpResponse
  deriving DecidableEq

def RtspServerSession.new (auth : Option Auth) : RtspServerSession :=
  ⟨[], .default, .default, none, .push, auth, none, false, [], []⟩

/-- What a session finds while it handles a request: the Unix second, whether the hub takes its events
and what it answers, to `Request` and to the others, whether the response can be written, whether the
map goes through its tracks the other way, and the ports of the UDP sockets that can be opened. -/
structure Surroundings where
  seconds : Nat
  hubListens : Bool
  information : Option String
  accepted : Bool
  responded : Bool
  reversed : Bool
  rtpPort : Option Nat
  rtcpPort : Option Nat

/-- How the handling of a request is left before its end. -/
inductive Stop where
  | error
  | panic
  deriving DecidableEq

abbrev Handler := EStateM Stop RtspServerSession

def orPanic {α : Type} : Option α → Handler α
  | some a => pure a
  | none => throw .panic

/-- What the handlers are given of the crates `base64`, `hex`, `md5` and `chrono`. -/
structure Crates where
  codings : Codings
  digest : String → String
  clockTime : List Char → Option Int

variable (crates : Crates) (w : Surroundings) (request : HttpRequest)

/-! ### Parts of the handlers -/

/-- The identifier of the stream that a request names. -/
def identifierOf : StreamIdentifier := .rtsp request.uri.path

/-- The query, as the secret of a request. -/
def secretOf : Option SecretCarrier := request.uri.query.map .query

/-- An event that is not answered. -/
def tell (request : Option HttpRequest) (event : StreamHubEvent) : Handler Unit := do
  if w.hubListens then
    modify fun s => { s with sent := s.sent ++ [⟨event, request, true⟩] }
  else
    throw .error

/-- An event whose answer is waited for.  To a frame publisher and a frame subscriber that it accepts
the hub gives the channel that is unwrapped. -/
def ask (event : StreamHubEvent) : Handler Unit := do
  if w.hubListens then
    modify fun s => { s with sent := s.sent ++ [⟨event, some request, w.accepted⟩] }
    if w.accepted then pure () else throw .error
  else
    throw .error

def sendResponse (response : HttpResponse) : Handler Unit := do
  if w.responded then
    modify fun s => { s with responses := s.responses ++ [response] }
  else
    throw .error

/-- `gen_response` for 200. -/
def genResponse : HttpResponse :=
  ⟨"RTSP/1.0", 200, "OK",
    ((request.getHeader "CSeq").map fun cseq => [("CSeq", cseq)]).getD [], none⟩

/-- The session's identifier, or one that is drawn now. -/
def idOf (s : RtspServerSession) : Uuid := s.sessionId.getD (Uuid.new .zero w.seconds Uuid.noDigits)

def getSubscriberInfo (s : RtspServerSession) : SubscriberInfo := ⟨idOf w s, .rtspPull, .frame⟩

def getPublisherInfo (s : RtspServerSession) : PublisherInfo := ⟨idOf w s, .rtspPush, .frame⟩

/-- `HashMap::insert`. -/
def insertTrack (tracks : List (TrackType × RtspTrack)) (trackType : TrackType) (track : RtspTrack) :
    List (TrackType × RtspTrack) :=
  tracks.filter (·.1 ≠ trackType) ++ [(trackType, track)]

/-- The track of a medium, which panics for a codec that is not in the table and, for audio, for a
number of channels that is none. -/
def addTrack (tracks : List (TrackType × RtspTrack)) (media : Sdp.SdpMediaInfo) :
    Option (List (TrackType × RtspTrack)) :=
  let mediaControl := (media.attributes.lookup "control").getD ""
  if media.mediaType = "audio" then do
    let codecId ← codecId media.rtpmap.encodingName
    let channelCount ← parseU8 media.rtpmap.encodingParam.toList
    return insertTrack tracks .audio
      ⟨⟨codecId, media.rtpmap.payloadType % 256, media.rtpmap.clockRate, channelCount⟩,
        mediaControl, .default⟩
  else if media.mediaType = "video" then do
    let codecId ← codecId media.rtpmap.encodingName
    return insertTrack tracks .video
      ⟨⟨codecId, media.rtpmap.payloadType % 256, media.rtpmap.clockRate, 0⟩, mediaControl, .default⟩
  else
    return tracks

def newTracks : Handler Unit := do
  let s ← get
  let tracks ← orPanic (s.sdp.medias.foldlM addTrack s.tracks)
  modify fun s => { s with tracks }

/-- `RtspServerSession::exit`. -/
def exit (request : Option HttpRequest) (identifier : StreamIdentifier) : Handler Unit := do
  let s ← get
  tell w request (match s.sessionType with
    | .pull => .unSubscribe identifier (getSubscriberInfo w s)
    | .push => .unPublish identifier (getPublisherInfo w s))
  modify fun s => { s with isNormalExit := true }

/-! ### Requests -/

/-- `rtsp_method_name::ARRAY`. -/
def methodNames : List String :=
  ["OPTIONS", "DESCRIBE", "ANNOUNCE", "SETUP", "PLAY", "PAUSE", "TEARDOWN", "GET_PARAMETER",
    "SET_PARAMETER", "REDIRECT", "RECORD"]

def handleOptions : Handler Unit :=
  sendResponse w ((genResponse request).insertHeader "Public" (String.intercalate "," methodNames))

/-- The description that the hub answers with. -/
def takeInformation : Handler Unit :=
  match w.information with
  | some data => do
    let sdp ← orPanic (Sdp.unmarshal crates.codings data)
    modify fun s => { s with sdp }
    newTracks
  | none => pure ()

def handleDescribe : Handler Unit := do
  modify fun s => { s with streamIdentifier := some (identifierOf request) }
  tell w (some request) (.request (identifierOf request))
  takeInformation crates w
  let s ← get
  sendResponse w { (genResponse request).insertHeader "Content-Type" "application/sdp" with
    body := some (s.sdp.marshal crates.codings) }

/-- The description in the body of an ANNOUNCE. -/
def takeSdp : Handler Unit :=
  match request.body with
  | some body => do
    let sdp ← orPanic (Sdp.unmarshal crates.codings body)
    modify fun s => { s with sdp, handlerSdp := sdp }
  | none => pure ()

/-- `auth.authenticate(..)?`. -/
def authenticate (isPull : Bool) : Handler Unit := do
  let s ← get
  if Auth.admits crates.digest s.auth request.uri.path (secretOf request) isPull then
    pure ()
  else
    throw .error

def handleAnnounce : Handler Unit := do
  authenticate crates request false
  takeSdp crates request
  newTracks
  modify fun s => { s with streamIdentifier := some (identifierOf request) }
  let s ← get
  ask w request (.publish (identifierOf request) (getPublisherInfo w s))
  sendResponse w (genResponse request)

/-- The ports that a UDP transport is told.  Without a port for RTP there is nothing to unwrap, and the
next one to the last is none. -/
def serverPorts (transport : RtspTransport) : Handler (Option (Nat × Nat)) :=
  match transport.protocolType with
  | .tcp => pure transport.serverPort
  | .udp => do
    let rtpPort ← orPanic w.rtpPort
    if rtpPort + 1 < 2 ^ 16 then
      pure ((w.rtcpPort.map fun rtcpPort => (rtpPort, rtcpPort)) <|> transport.serverPort)
    else
      throw .panic

/-- The track that a SETUP is for. -/
def setupTrack (s : RtspServerSession) : Option (TrackType × RtspTrack) :=
  (if w.reversed then s.tracks.reverse else s.tracks).find? fun (_, track) =>
    (find track.mediaControl.toList request.uri.marshal.toList).isSome

/-- A SETUP of a track, with the header `Transport`. -/
def setupTransport (trackType : TrackType) (track : RtspTrack) (transportData : String) :
    Handler HttpResponse := do
  modify fun s => { s with sessionId := some (idOf w s) }
  let transport ← orPanic (RtspTransport.unmarshal transportData)
  let serverPort ← serverPorts w transport
  let transport := { transport with serverPort }
  modify fun s => { s with tracks := s.tracks.map fun p =>
    if p.1 = trackType then (trackType, { track with transport }) else p }
  let s ← get
  return ((genResponse request).insertHeader "Transport" transport.marshal).insertHeader "Session"
    (idOf w s).display

def handleSetup : Handler Unit := do
  let s ← get
  match setupTrack w request s, request.getHeader "Transport" with
  | some (trackType, track), some transportData => do
    let response ← setupTransport w request trackType track transportData
    sendResponse w response
  | _, _ => sendResponse w (genResponse request)

/-- `handle_play`.  Frames are passed on until one cannot be, or the channel is closed. -/
def handlePlay : Handler Unit := do
  authenticate crates request true
  sendResponse w (genResponse request)
  modify fun s => { s with sessionType := .pull }
  let s ← get
  ask w request (.subscribe (identifierOf request) (getSubscriberInfo w s))
  throw .error

/-- `handle_record`. -/
def handleRecord : Handler Unit := do
  let range ← orPanic (((request.getHeader "Range").map (RtspRange.unmarshal crates.clockTime)).getD
    (some none))
  let s ← get
  let sessionId ← orPanic s.sessionId
  let response := genResponse request
  let response := (range.map fun range => response.insertHeader "Range" range.marshal).getD response
  sendResponse w (response.insertHeader "Session" sessionId.display)

def handleTeardown : Handler Unit := exit w (some request) (identifierOf request)

/-- An error is logged, and no more. -/
def logError (handler : Handler Unit) : Handler Unit := fun s =>
  match handler s with
  | .error .error s' => .ok () s'
  | result => result

/-- The part of `on_rtsp_message` behind the reading of the request. -/
def onRtspRequest : Handler Unit :=
  if request.method = "OPTIONS" then handleOptions w request
  else if request.method = "DESCRIBE" then handleDescribe crates w request
  else if request.method = "ANNOUNCE" then handleAnnounce crates w request
  else if request.method = "SETUP" then handleSetup w request
  else if request.method = "PLAY" then logError (handlePlay crates w request)
  else if request.method = "RECORD" then handleRecord crates w request
  else if request.method = "TEARDOWN" then handleTeardown w request
  else pure ()

/-! ### The session and its server -/

/-- The session reads requests; `run` has failed; the server has seen to it; a handler has
panicked. -/
inductive Phase where
  | running
  | failed
  | ended
  | panicked
  deriving DecidableEq

structure Served where
  session : RtspServerSession
  phase : Phase
  deriving DecidableEq

/-- A request; the connection is lost; the server sees to a session that has failed. -/
inductive Move where
  | request (w : Surroundings) (request : HttpRequest)
  | lose
  | finish (w : Surroundings)

/-- What `RtspServer::run` does when the `run` of a session has failed. -/
def finish (s : RtspServerSession) : RtspServerSession :=
  if s.isNormalExit then
    s
  else
    match s.streamIdentifier with
    | some identifier => stateOf (exit w none identifier s)
    | none => s

def Served.step (c : Served) : Move → Option Served
  | .request w request =>
    match c.phase with
    | .running =>
      match onRtspRequest crates w request c.session with
      | .ok _ s => some ⟨s, .running⟩
      | .error .error s => some ⟨s, .failed⟩
      | .error .panic s => some ⟨s, .panicked⟩
    | _ => none
  | .lose =>
    match c.phase with
    | .running => some ⟨c.session, .failed⟩
    | _ => none
  | .finish w =>
    match c.phase with
    | .failed => some ⟨finish w c.session, .ended⟩
    | _ => none

/-- The session after some moves. -/
def Served.run (c : Served) : List Move → Option Served
  | [] => some c
  | move :: moves => (c.step crates move).bind fun c => c.run moves

/-- A session from its beginning, whatever comes. -/
def session (auth : Option Auth) : System Served Move where
  init c := c = ⟨.new auth, .running⟩
  step c move c' := c.step crates move = some c'

theorem reached_run {crates : Crates} {auth : Option Auth} {c c' : Served} {moves : List Move}
    (hReached : (session crates auth).Reached c) (h : c.run crates moves = some c') :
    (session crates auth).Reached c' := by
  induction moves generalizing c with
  | nil =>
    cases h
    exact hReached
  | cons move moves ih =>
    obtain ⟨c1, hStep, hRest⟩ := Option.bind_eq_some_iff.mp h
    exact ih (hReached.step hStep) hRest

end Xiu.Rtsp.Session
