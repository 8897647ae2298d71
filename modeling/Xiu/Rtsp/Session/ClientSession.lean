import Xiu.Rtsp.Session.ServerSession

/-! The client's session of RTSP, of `protocol/rtsp/src/session/client_session.rs`, with which a relay
pulls a stream from another server.  What it sends to the hub and to the server is kept.  Media are not
modelled but for the errors that they end in. -/

namespace Xiu.Rtsp.Session

open Common ProofKit StreamHub

def USER_AGENT : String := "xiu 0.12.8"

inductive ClientSessionType where
  | pull
  | push
  deriving DecidableEq

/-- An event that a client's session has sent to the hub, and the hub's answer if it is waited for. -/
structure RtspClientSession.Sent where
  event : StreamHubEvent
  accepted : Bool
  deriving DecidableEq

structure RtspClientSession where
  address : String
  streamName : String
  protocolType : ProtocolType
  tracks : List (TrackType × RtspTrack)
  sdp : Sdp
  sessionId : Option Uuid
  clientType : ClientSessionType
  cseq : Nat
  requests : List HttpRequest
  sent : List RtspClientSession.Sent

namespace RtspClientSession

def new (address streamName : String) (protocolType : ProtocolType) (clientType : ClientSessionType) :
    RtspClientSession :=
  ⟨address, streamName, protocolType, [], .default, none, clientType, 1, [], []⟩

/-- What `receive_response` reads: an error, of the connection or of UTF-8; something that is no
response, or not all of one after five more reads; a response. -/
inductive Answer where
  | fails
  | corrupted
  | response (response : HttpResponse)
  deriving DecidableEq

/-- What a session finds while it exchanges a request for a response: the Unix second, whether the hub
takes its event and what it answers, whether the request can be written, what comes back, and whether
a pair of UDP sockets can be opened. -/
structure Exchange where
  seconds : Nat
  hubListens : Bool
  accepted : Bool
  written : Bool
  answer : Answer
  sockets : Bool

abbrev Handler := EStateM Stop RtspClientSession

def orPanic {α : Type} : Option α → Handler α
  | some a => pure a
  | none => throw .panic

variable (codings : Codings) (x : Exchange)

def idOf (s : RtspClientSession) : Uuid := s.sessionId.getD (Uuid.new .zero x.seconds Uuid.noDigits)

def getSubscriberInfo (s : RtspClientSession) : SubscriberInfo := ⟨idOf x s, .rtspRelay, .frame⟩

def getPublisherInfo (s : RtspClientSession) : PublisherInfo := ⟨idOf x s, .rtspRelay, .frame⟩

def identifier (s : RtspClientSession) : StreamIdentifier := .rtsp s.streamName

/-! ### Requests -/

/-- `gen_request`: the URL is unwrapped, and the counter of requests is a `u16`. -/
def genRequest (methodName uriPath : String) : Handler HttpRequest := do
  let uri ← orPanic (Uri.unmarshal uriPath.toList)
  let s ← get
  let cseq ← orPanic (if s.cseq + 1 < 2 ^ 16 then some (s.cseq + 1) else none)
  modify fun s => { s with cseq }
  return ⟨methodName, uri, [], "RTSP/1.0",
    [("CSeq", toString s.cseq), ("User-Agent", USER_AGENT)] ++
      (s.sessionId.map fun sessionId => ("Session", sessionId.display)).toList, none⟩

def sendResquest (request : HttpRequest) : Handler Unit := do
  if x.written then
    modify fun s => { s with requests := s.requests ++ [request] }
  else
    throw .error

def newTracks : Handler Unit := do
  let s ← get
  let tracks ← orPanic (s.sdp.medias.foldlM addTrack s.tracks)
  modify fun s => { s with tracks }

/-- The stream is published.  To a frame publisher that it accepts the hub gives the channel that is
unwrapped. -/
def publish : Handler Unit := do
  if x.hubListens then
    modify fun s => { s with
      sent := s.sent ++ [⟨.publish s.identifier (getPublisherInfo x s), x.accepted⟩] }
    if x.accepted then pure () else throw .error
  else
    throw .error

/-- The response to DESCRIBE. -/
def onDescribe (response : HttpResponse) : Handler Unit :=
  match response.body with
  | none => pure ()
  | some body => do
    let sdp ← orPanic (Sdp.unmarshal codings body)
    modify fun s => { s with sdp }
    newTracks
    publish x

/-- The response to SETUP. -/
def onSetup (response : HttpResponse) : Handler Unit := do
  let s ← get
  if s.sessionId.isNone then
    match response.headers.lookup "Session" with
    | some sessionId => modify fun s => { s with sessionId := Uuid.fromStr2 sessionId }
    | none => pure ()

def receiveResponse (methodName : String) : Handler Unit :=
  match x.answer with
  | .fails => throw .error
  | .corrupted => pure ()
  | .response response =>
    if response.statusCode ≠ 200 then throw .error
    else if methodName = "DESCRIBE" then onDescribe codings x response
    else if methodName = "SETUP" then onSetup response
    else pure ()

/-- The URL of the stream. -/
def url (s : RtspClientSession) : String := "rtsp://" ++ s.address ++ "/" ++ s.streamName

/-- A request for the stream, with some headers more. -/
def sendFor (methodName : String) (headers : List (String × String)) : Handler Unit := do
  let s ← get
  let request ← genRequest methodName (url s)
  sendResquest x { request with headers := request.headers ++ headers }

def sendOptions : Handler Unit := do
  sendFor x "OPTIONS" []
  receiveResponse codings x "OPTIONS"

def sendAnnounce : Handler Unit := sendFor x "ANNOUNCE" []

def sendDescribe : Handler Unit := do
  sendFor x "DESCRIBE" [("Accept", "application/sdp")]
  receiveResponse codings x "DESCRIBE"

/-- The channels of a medium that is asked for over TCP, by what follows the equals sign of its
`control`, of which there must be one. -/
def interleavedOf (mediaControl : String) : Handler (Option (Nat × Nat)) := do
  let index ← orPanic (splitn2 '=' (trim mediaControl.toList)).2
  match parseU8 index with
  | none => pure none
  | some index => do
    let (rtp, rtcp) ← orPanic
      (if index * 2 + 1 < 256 then some (index * 2, index * 2 + 1) else none)
    return some (rtp, rtcp)

def setInterleaved (tracks : List (TrackType × RtspTrack)) (mediaType : String)
    (interleaved : Option (Nat × Nat)) : List (TrackType × RtspTrack) :=
  tracks.map fun (trackType, track) =>
    if (trackType = .audio ∧ mediaType = "audio") ∨ (trackType = .video ∧ mediaType = "video") then
      (trackType, { track with transport := { track.transport with interleaved } })
    else
      (trackType, track)

/-- The header `Transport` of a SETUP.  The ports of UDP sockets are left open. -/
def setupTransport (media : Sdp.SdpMediaInfo) (mediaControl : String) :
    Handler (List (String × String)) := do
  let s ← get
  match s.protocolType with
  | .tcp => do
    let interleaved ← interleavedOf mediaControl
    modify fun s => { s with tracks := setInterleaved s.tracks media.mediaType interleaved }
    return [("Transport", { RtspTransport.default with interleaved }.marshal)]
  | .udp =>
    return if x.sockets then [("Transport", { RtspTransport.default with protocolType := .udp }.marshal)]
      else []

/-- A turn of the loop of `send_setup`. -/
def sendSetup (media : Sdp.SdpMediaInfo) : Handler Unit := do
  let mediaControl := (media.attributes.lookup "control").getD ""
  let s ← get
  let request ← genRequest "SETUP" (url s ++ "/" ++ mediaControl)
  let transport ← setupTransport x media mediaControl
  sendResquest x { request with headers := request.headers ++ transport }
  receiveResponse codings x "SETUP"

def sendPlay : Handler Unit := do
  sendFor x "PLAY" [("Range", "npt=0.000")]
  receiveResponse codings x "PLAY"

def sendRecord : Handler Unit := sendFor x "RECORD" [("Transport", "application/sdp")]

/-- The event with which the session exits. -/
def exitEvent (s : RtspClientSession) : StreamHubEvent :=
  match s.clientType with
  | .push => .unSubscribe s.identifier (getSubscriberInfo x s)
  | .pull => .unPublish s.identifier (getPublisherInfo x s)

def exit : Handler Unit := do
  if x.hubListens then
    modify fun s => { s with sent := s.sent ++ [⟨exitEvent x s, true⟩] }
  else
    throw .error

def sendTeardown : Handler Unit := do
  sendFor x "TEARDOWN" []
  exit x

/-! ### The session -/

/-- The request that comes next; media are received; `run` has returned; it has panicked. -/
inductive Stage where
  | options
  | describe
  | announce
  | setup (media : Sdp.SdpMediaInfo) (rest : List Sdp.SdpMediaInfo)
  | play
  | record
  | streaming
  | ended
  | panicked
  deriving DecidableEq

structure Running where
  session : RtspClientSession
  stage : Stage

/-- What follows the media that are still to be set up. -/
def setupStage (s : RtspClientSession) : List Sdp.SdpMediaInfo → Stage
  | media :: rest => .setup media rest
  | [] => match s.clientType with
    | .pull => .play
    | .push => .record

/-- A stage in which a request is sent, and the stage that follows. -/
def request : Stage → Option (Handler Unit × (RtspClientSession → Stage))
  | .options => some (sendOptions codings x, fun s => match s.clientType with
    | .pull => .describe
    | .push => .announce)
  | .describe => some (sendDescribe codings x, fun s => setupStage s s.sdp.medias)
  | .announce => some (sendAnnounce x, fun s => setupStage s s.sdp.medias)
  | .setup media rest => some (sendSetup codings x media, fun s => setupStage s rest)
  | .play => some (sendPlay codings x, fun _ => .streaming)
  | .record => some (sendRecord x, fun _ => .streaming)
  | .streaming | .ended | .panicked => none

/-- A request is exchanged for its response; media come, and are handled or fail; the session finds
that it has been told to stop. -/
inductive Move where
  | exchange (x : Exchange)
  | media (outcome : Option Stop)
  | stop (x : Exchange)

/-- Where a handler that is run leaves the session. -/
def Running.after (next : RtspClientSession → Stage) :
    EStateM.Result Stop RtspClientSession Unit → Running
  | .ok _ s => ⟨s, next s⟩
  | .error .error s => ⟨s, .ended⟩
  | .error .panic s => ⟨s, .panicked⟩

def Running.step (c : Running) : Move → Option Running
  | .exchange x =>
    match request codings x c.stage with
    | some (handler, next) => some (.after next (handler c.session))
    | none => none
  | .media outcome =>
    if c.stage = .streaming then
      match outcome with
      | none => some c
      | some .error => some ⟨c.session, .ended⟩
      | some .panic => some ⟨c.session, .panicked⟩
    else none
  | .stop x =>
    if c.stage = .streaming then some (.after (fun _ => .ended) (sendTeardown x c.session)) else none

/-- A session of a relay from its beginning, whatever the server sends. -/
def system : System Running Move where
  init c := ∃ address streamName protocolType clientType,
    c = ⟨new address streamName protocolType clientType, .options⟩
  step c move c' := c.step codings move = some c'

end RtspClientSession

end Xiu.Rtsp.Session
