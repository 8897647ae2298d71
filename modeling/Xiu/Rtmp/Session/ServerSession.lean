import Xiu.Common.Auth
import Xiu.ProofKit.System
import Xiu.Rtmp.CommandWriters
import Xiu.Rtmp.Session.Common
import Xiu.Rtmp.Utils

/-! The server's session of RTMP, of `protocol/rtmp/src/session/server_session.rs`: its commands, and
the states through which `run` takes it.  What it sends to the hub and writes to the client is kept.
Messages come as the chunk reader and the message parser give them. -/

namespace Xiu.Rtmp.Session

open Xiu.Common ProofKit StreamHub Flv.Amf0 Messages

def WINDOW_ACKNOWLEDGEMENT_SIZE : UInt32 := 4096
def PEER_BANDWIDTH : UInt32 := 4096
def DYNAMIC : UInt8 := 2
def FMSVER : String := "FMS/3,0,1,123"
/-- 31. -/
def CAPABILITIES : UInt64 := 0x403F000000000000
def LEVEL : String := "status"
def OBJENCODING_AMF0 : UInt64 := 0
/-- 1. -/
def STREAM_ID : UInt64 := 0x3FF0000000000000

inductive ServerSessionState where
  | handshake
  | readChunk
  | deleteStream
  | play
  deriving DecidableEq

structure ServerSession where
  appName : String
  streamName : String
  query : Option String
  state : ServerSessionState
  hasRemaingData : Bool
  connectProperties : ConnectProperties
  common : Common
  auth : Option Auth
  io : Io

def ServerSession.new (sessionId : Uuid) (remoteAddr : Option String) (auth : Option Auth) :
    ServerSession :=
  ⟨"", "", none, .handshake, false, .newNone, ⟨sessionId, .server, remoteAddr, []⟩, auth, ⟨[]⟩⟩

/-- The identifier under which the session publishes, subscribes and releases. -/
def ServerSession.identifier (s : ServerSession) : StreamIdentifier := .rtmp s.appName s.streamName

abbrev Handler := EStateM Stop ServerSession

def onCommon {α : Type} (x : EStateM Stop Common α) : Handler α :=
  onPart (·.common) (fun s common => { s with common }) x

variable (digest : String → String) (w : Surroundings)

def write (message : Written) : Handler Unit :=
  onPart (·.io) (fun s io => { s with io }) (Io.write w message)

def writeAll (messages : List Written) : Handler Unit :=
  onPart (·.io) (fun s io => { s with io }) (Io.writeAll w messages)

/-! ### Commands -/

/-- One turn of the loop of `parse_connect_properties`: a value of another type is passed over. -/
def setProperty (p : ConnectProperties) (property : String) (value : Amf0ValueType) :
    ConnectProperties :=
  if property = "app" then { p with app := asText value <|> p.app }
  else if property = "flashVer" then { p with flashVer := asText value <|> p.flashVer }
  else if property = "swfUrl" then { p with swfUrl := asText value <|> p.swfUrl }
  else if property = "tcUrl" then { p with tcUrl := asText value <|> p.tcUrl }
  else if property = "fpad" then { p with fpad := asBoolean value <|> p.fpad }
  else if property = "audioCodecs" then { p with audioCodecs := asNumber value <|> p.audioCodecs }
  else if property = "videoCodecs" then { p with videoCodecs := asNumber value <|> p.videoCodecs }
  else if property = "videoFunction" then
    { p with videoFunction := asNumber value <|> p.videoFunction }
  else if property = "pageUrl" then { p with pageUrl := asText value <|> p.pageUrl }
  else if property = "objectEncoding" then
    { p with objectEncoding := asNumber value <|> p.objectEncoding }
  else p

def parseConnectProperties (commandObj : List (String × Amf0ValueType)) : Handler Unit := do
  let s ← get
  let connectProperties := commandObj.foldl (fun p entry => setProperty p entry.1 entry.2)
    s.connectProperties
  set { s with connectProperties }

/-- The name of an application, without a query or a stream behind it. -/
def appOf (app : String) : String :=
  String.ofList (app.toList.takeWhile fun c => c ≠ '?' ∧ c ≠ '/')

/-- The application, or an error when there is none. -/
def takeApp (commandObj : List (String × Amf0ValueType)) : Handler Unit :=
  match (commandObj.lookup "app").bind asText with
  | some app => modify fun s => { s with appName := appOf app }
  | none => throw .error

def onConnect (transactionId : UInt64) (commandObj : List (String × Amf0ValueType)) :
    Handler Unit := do
  parseConnectProperties commandObj
  writeAll w
    [.control (ProtocolControlMessagesWriter.writeWindowAcknowledgementSize
      WINDOW_ACKNOWLEDGEMENT_SIZE),
     .control (ProtocolControlMessagesWriter.writeSetPeerBandwidth PEER_BANDWIDTH DYNAMIC)]
  let encoding := ((commandObj.lookup "objectEncoding").bind asNumber).getD OBJENCODING_AMF0
  takeApp commandObj
  write w (.command (NetConnection.writeConnectResponse transactionId FMSVER CAPABILITIES
    "NetConnection.Connect.Success" LEVEL "Connection Succeeded." encoding))

def onCreateStream (transactionId : UInt64) : Handler Unit :=
  write w (.command (NetConnection.writeCreateStreamResponse transactionId STREAM_ID))

/-- The stream of the session's present names is given back. -/
def unpublish : Handler Unit := do
  let s ← get
  onCommon (Common.unpublishToStreamHub w s.appName s.streamName)

def onDeleteStream (transactionId : UInt64) : Handler Unit := do
  unpublish w
  write w (.command (NetStreamWriter.writeOnStatus transactionId "status"
    "NetStream.DeleteStream.Suceess" ""))

/-- What `on_play` takes from its arguments. -/
structure PlayArguments where
  streamName : Option String
  start : Option UInt64
  duration : Option UInt64
  reset : Option Bool
  deriving DecidableEq

/-- The loop of `on_play`, which never turns, over arguments that are counted in a `u8`. -/
def playArguments (otherValues : List Amf0ValueType) : Option PlayArguments :=
  let length := otherValues.length % 256
  if 0 ≥ length then some ⟨none, none, none, none⟩
  else do
    let (v, otherValues) ← removeFirst otherValues
    let streamName := asText v
    if 1 ≥ length then return ⟨streamName, none, none, none⟩
    let (v, otherValues) ← removeFirst otherValues
    let start := asNumber v
    if 2 ≥ length then return ⟨streamName, start, none, none⟩
    let (v, otherValues) ← removeFirst otherValues
    let duration := asNumber v
    if 3 ≥ length then return ⟨streamName, start, duration, none⟩
    let (v, _) ← removeFirst otherValues
    return ⟨streamName, start, duration, asBoolean v⟩

def setName (name : String × Option String) : Handler Unit :=
  modify fun s => { s with streamName := name.1, query := name.2 }

/-- `auth.authenticate(..)?`, with the present name and query. -/
def authenticate (isPull : Bool) : Handler Unit := do
  let s ← get
  if Auth.admits digest s.auth s.streamName (s.query.map .query) isPull then pure ()
  else throw .error

/-- What the player is told before its stream is looked for. -/
def playMessages (transactionId : UInt64) (streamId : UInt32) : List Written :=
  [.control (EventMessagesWriter.writeStreamBegin streamId),
   .command (NetStreamWriter.writeOnStatus transactionId "status" "NetStream.Play.Reset" "reset"),
   .command (NetStreamWriter.writeOnStatus transactionId "status" "NetStream.Play.Start"
     "play start"),
   .command (NetStreamWriter.writeOnStatus transactionId "status" "NetStream.Data.Start"
     "data start."),
   .command (NetStreamWriter.writeOnStatus transactionId "status" "NetStream.Play.PublishNotify"
     "play publish notify."),
   .control (EventMessagesWriter.writeStreamIsRecord streamId)]

def onPlay (transactionId : UInt64) (streamId : UInt32) (otherValues : List Amf0ValueType) :
    Handler Unit := do
  let arguments ← orPanic (playArguments otherValues)
  writeAll w (playMessages transactionId streamId)
  let rawStreamName ← orPanic arguments.streamName
  setName (RtmpUrlParser.parseStreamNameWithQuery rawStreamName)
  authenticate digest true
  let s ← get
  onCommon (Common.subscribeFromStreamHub w s.appName s.streamName)
  modify fun s => { s with state := .play }

/-- The name and the query of a publisher: those of its argument, or, if this is empty, those of its
`swfUrl`; if this is no URL of RTMP, the session's name and query stay what they are. -/
def publishedName (streamNameWithQuery : String) (swfUrl : Option String) :
    Option (String × Option String) :=
  if streamNameWithQuery ≠ "" then
    some (RtmpUrlParser.parseStreamNameWithQuery streamNameWithQuery)
  else
    ((RtmpUrlParser.new (swfUrl.getD "")).parseUrl).map fun url => (url.streamName, url.query)

def namePublisher (streamNameWithQuery : String) : Handler Unit := do
  let s ← get
  match publishedName streamNameWithQuery s.connectProperties.swfUrl with
  | some name => setName name
  | none => pure ()

def onPublish (transactionId : UInt64) (streamId : UInt32) (otherValues : List Amf0ValueType) :
    Handler Unit := do
  match otherValues with
  | first :: second :: _ =>
    match asText first with
    | none => throw .error
    | some streamNameWithQuery =>
      namePublisher streamNameWithQuery
      authenticate digest false
      match asText second with
      | none => throw .error
      | some _ =>
        writeAll w
          [.control (EventMessagesWriter.writeStreamBegin streamId),
           .command (NetStreamWriter.writeOnStatus transactionId "status"
             "NetStream.Publish.Start" "")]
        let s ← get
        onCommon (Common.publishToStreamHub w s.appName s.streamName)
  | _ => throw .error

def onAmf0CommandMessage (streamId : UInt32)
    (commandName transactionId commandObject : Amf0ValueType) (others : List Amf0ValueType) :
    Handler Unit := do
  let cmdName := (asText commandName).getD ""
  let transactionId := (asNumber transactionId).getD 0
  let obj := (asObject commandObject).getD []
  if cmdName = "connect" then onConnect w transactionId obj
  else if cmdName = "createStream" then onCreateStream w transactionId
  else if cmdName = "deleteStream" then
    if others.isEmpty then
      pure ()
    else
      onDeleteStream w transactionId
      modify fun s => { s with state := .deleteStream }
  else if cmdName = "play" then onPlay digest w transactionId streamId others
  else if cmdName = "publish" then onPublish digest w transactionId streamId others
  else pure ()

/-- A media message is passed on and cached. -/
def onMedia : Handler Unit :=
  match w.media with
  | none => pure ()
  | some stop => throw stop

def processMessages (msgStreamId : UInt32) : RtmpMessageData → Handler Unit
  | .amf0Command commandName transactionId commandObject others =>
    onAmf0CommandMessage digest w msgStreamId commandName transactionId commandObject others
  | .audioData _ | .videoData _ | .amfData _ => onMedia w
  | _ => pure ()

/-! ### The session -/

/-- The session is in its loop, or reading the chunks of what it has received; `run` has returned; a
handler has panicked. -/
inductive Phase where
  | looping
  | reading
  | ended
  | panicked
  deriving DecidableEq

structure Served where
  session : ServerSession
  phase : Phase

/-- The handshake goes on, or comes to its end with some bytes left or none, or fails; bytes come, or
none do in time; a message, a message that cannot be parsed, a chunk that cannot, or no more chunks
for now; the frames of a player come to their end, as they can in an error only; the loop finds that
the stream has been deleted. -/
inductive Move where
  | handshake
  | handshakeDone (w : Surroundings) (left : Bool)
  | handshakeFails
  | receive
  | readFails (w : Surroundings)
  | message (w : Surroundings) (msgStreamId : UInt32) (message : RtmpMessageData)
  | parseFails
  | cannotParse (w : Surroundings)
  | drained
  | playFails (w : Surroundings)
  | deleted

/-- Where a handler that is run leaves the session. -/
def Served.after (phase : Phase) : EStateM.Result Stop ServerSession Unit → Served
  | .ok _ s => ⟨s, phase⟩
  | .error .error s => ⟨s, .ended⟩
  | .error .panic s => ⟨s, .panicked⟩

/-- The end of the handshake, and the chunk size that is told behind it. -/
def finishHandshake (left : Bool) : Handler Unit := do
  modify fun s => { s with state := .readChunk, hasRemaingData := left }
  write w (.control (ProtocolControlMessagesWriter.writeSetChunkSize Chunk.CHUNK_SIZE))

/-- What follows a failed read. -/
def leave : Handler Unit := do
  unpublish w
  throw .error

/-- What follows the failure of `play`. -/
def leavePlay : Handler Unit := do
  let s ← get
  onCommon (Common.unsubscribeFromStreamHub w s.appName s.streamName)
  throw .error

def Served.step (c : Served) : Move → Option Served
  | .handshake =>
    if c.phase = .looping ∧ c.session.state = .handshake then some c else none
  | .handshakeDone w left =>
    if c.phase = .looping ∧ c.session.state = .handshake then
      some (.after .looping (finishHandshake w left c.session))
    else none
  | .handshakeFails =>
    if c.phase = .looping ∧ c.session.state = .handshake then some ⟨c.session, .ended⟩ else none
  | .receive =>
    if c.phase = .looping ∧ c.session.state = .readChunk then
      some ⟨{ c.session with hasRemaingData := false }, .reading⟩
    else none
  | .readFails w =>
    if c.phase = .looping ∧ c.session.state = .readChunk ∧ c.session.hasRemaingData = false then
      some (.after .looping (leave w c.session))
    else none
  | .message w msgStreamId message =>
    if c.phase = .reading then
      some (.after .reading (processMessages digest w msgStreamId message c.session))
    else none
  | .parseFails => if c.phase = .reading then some ⟨c.session, .ended⟩ else none
  | .cannotParse w =>
    if c.phase = .reading then some (.after .reading (leave w c.session)) else none
  | .drained => if c.phase = .reading then some ⟨c.session, .looping⟩ else none
  | .playFails w =>
    if c.phase = .looping ∧ c.session.state = .play then
      some (.after .looping (leavePlay w c.session))
    else none
  | .deleted =>
    if c.phase = .looping ∧ c.session.state = .deleteStream then some ⟨c.session, .ended⟩ else none

/-- The session after some moves. -/
def Served.run (c : Served) : List Move → Option Served
  | [] => some c
  | move :: moves => (c.step digest move).bind fun c => c.run moves

/-- A session from its beginning, whatever its client sends. -/
def session (auth : Option Auth) : System Served Move where
  init c := ∃ sessionId remoteAddr, c = ⟨.new sessionId remoteAddr auth, .looping⟩
  step c move c' := c.step digest move = some c'

theorem reached_run {digest : String → String} {auth : Option Auth} {c c' : Served}
    {moves : List Move} (hReached : (session digest auth).Reached c)
    (h : c.run digest moves = some c') : (session digest auth).Reached c' := by
  induction moves generalizing c with
  | nil =>
    cases h
    exact hReached
  | cons move moves ih =>
    obtain ⟨c1, hStep, hRest⟩ := Option.bind_eq_some_iff.mp h
    exact ih (hReached.step hStep) hRest

end Xiu.Rtmp.Session
