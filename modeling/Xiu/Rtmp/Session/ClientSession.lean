import Xiu.Rtmp.Session.ServerSession

/-! The client's session of RTMP, of `protocol/rtmp/src/session/client_session.rs`, with which a relay
pulls a stream from another server, or pushes one to it: the commands of the server, and the states
through which `run` takes the session. -/

namespace Xiu.Rtmp.Session

open ProofKit StreamHub Flv.Amf0 Messages

def TRANSACTION_ID_CONNECT : Nat := 1
def TRANSACTION_ID_CREATE_STREAM : Nat := 2

/-- `f64 as u8`, of the number with these bits: the whole part, between 0 and 255. -/
def asU8 (bits : UInt64) : Nat :=
  let n := bits.toNat
  let exponent := n / 2 ^ 52 % 2 ^ 11
  let fraction := n % 2 ^ 52
  if n / 2 ^ 63 = 1 ∨ exponent < 1023 ∨ (exponent = 2047 ∧ fraction ≠ 0) then
    0
  else
    min 255 ((2 ^ 52 + fraction) * 2 ^ (exponent - 1023) / 2 ^ 52)

inductive ClientSessionState where
  | handshake
  | connect
  | createStream
  | play
  | publishingContent
  | startPublish
  | waitStateChange
  deriving DecidableEq

inductive ClientSessionType where
  | pull
  | push
  deriving DecidableEq

structure ClientSession where
  rawDomainName : String
  appName : String
  rawStreamName : String
  streamName : String
  state : ClientSessionState
  clientType : ClientSessionType
  subAppName : Option String
  subStreamName : Option String
  common : Common
  io : Io

def ClientSession.new (sessionId : Uuid) (remoteAddr : Option String)
    (clientType : ClientSessionType) (rawDomainName appName rawStreamName : String) :
    ClientSession :=
  ⟨rawDomainName, appName, rawStreamName,
    (RtmpUrlParser.parseStreamNameWithQuery rawStreamName).1, .handshake, clientType, none, none,
    ⟨sessionId, .client, remoteAddr, []⟩, ⟨[]⟩⟩

/-- Which stream of the local hub is pushed. -/
def ClientSession.subscribe (s : ClientSession) (appName streamName : String) : ClientSession :=
  { s with subAppName := some appName, subStreamName := some streamName }

namespace ClientSession

abbrev Handler := EStateM Stop ClientSession

variable (w : Surroundings)

def onCommon {α : Type} (x : EStateM Stop Common α) : Handler α :=
  onPart (·.common) (fun s common => { s with common }) x

def writeAll (messages : List Written) : Handler Unit :=
  onPart (·.io) (fun s io => { s with io }) (Io.writeAll w messages)

def setState (state : ClientSessionState) : Handler Unit := modify fun s => { s with state }

/-! ### Requests to the server -/

/-- What a CONNECT says of the client; the numbers are 15, 4071, 252 and 1. -/
def connectProperties (s : ClientSession) : ConnectProperties :=
  let url := s!"rtmp://{s.rawDomainName}/{s.appName}"
  match s.clientType with
  | .pull =>
    { ConnectProperties.newNone with
      app := some s.appName
      flashVer := some "LNX 9,0,124,2"
      tcUrl := some url
      fpad := some false
      capabilities := some 0x402E000000000000
      audioCodecs := some 0x40AFCE0000000000
      videoCodecs := some 0x406F800000000000
      videoFunction := some 0x3FF0000000000000 }
  | .push =>
    { ConnectProperties.newNone with
      app := some s.appName
      pubType := some "nonprivate"
      flashVer := some "FMLE/3.0 (compatible; xiu)"
      fpad := some false
      tcUrl := some url }

/-- `TRANSACTION_ID_CONNECT` and `TRANSACTION_ID_CREATE_STREAM` as numbers, and 3. -/
def connectId : UInt64 := 0x3FF0000000000000
def createStreamId : UInt64 := 0x4000000000000000
def publishId : UInt64 := 0x4008000000000000

/-- What is written in a state of `run`. -/
def messagesOf (s : ClientSession) : ClientSessionState → List Written
  | .connect =>
    [.control (ProtocolControlMessagesWriter.writeSetChunkSize Chunk.CHUNK_SIZE),
     .command (NetConnection.writeConnect connectId (connectProperties s))]
  | .createStream => [.command (NetConnection.writeCreateStream createStreamId)]
  | .play =>
    [.command (NetStreamWriter.writePlay 0 s.rawStreamName 0 0 false),
     .command (NetConnection.writeGetStreamLength 0 s.rawStreamName),
     .control (EventMessagesWriter.writeSetBufferLength 1 1300)]
  | .publishingContent =>
    [.command (NetStreamWriter.writePublish publishId s.rawStreamName "live")]
  | .handshake | .startPublish | .waitStateChange => []

/-- A turn of `run` up to its read, after the handshake and unless the session pushes. -/
def act : Handler Unit := do
  let s ← get
  writeAll w (messagesOf s s.state)
  setState .waitStateChange

/-! ### Commands of the server -/

def onResultConnect : Handler Unit := do
  let s ← get
  writeAll w
    [.control (ProtocolControlMessagesWriter.writeAcknowledgement 3107),
     .command (NetStreamWriter.writeReleaseStream connectId s.streamName),
     .command (NetStreamWriter.writeFcpublish connectId s.streamName)]
  setState .createStream

def onResultCreateStream : Handler Unit := do
  let s ← get
  setState (match s.clientType with
    | .pull => .play
    | .push => .publishingContent)

/-- The stream of the local hub that is pushed: the one that was named, or the session's own. -/
def subscribed (s : ClientSession) : String × String :=
  match s.subAppName, s.subStreamName with
  | some appName, some streamName => (appName, streamName)
  | _, _ => (s.appName, s.streamName)

def onStatus (obj : List (String × Amf0ValueType)) : Handler Unit :=
  match (obj.lookup "code").bind asText with
  | none => pure ()
  | some codeInfo =>
    if codeInfo = "NetStream.Publish.Start" then do
      setState .startPublish
      let s ← get
      onCommon (Common.subscribeFromStreamHub w (subscribed s).1 (subscribed s).2)
    else if codeInfo = "NetStream.Play.Start" then do
      let s ← get
      onCommon (Common.publishToStreamHub w s.appName s.streamName)
    else pure ()

/-- `others.remove(0)` panics for a status without a value. -/
def onAmf0CommandMessage (commandName transactionId : Amf0ValueType)
    (others : List Amf0ValueType) : Handler Unit := do
  let cmdName := (asText commandName).getD ""
  let transactionId := ((asNumber transactionId).map asU8).getD 0
  if cmdName = "_result" then
    if transactionId = TRANSACTION_ID_CONNECT then onResultConnect w
    else if transactionId = TRANSACTION_ID_CREATE_STREAM then onResultCreateStream
    else pure ()
  else if cmdName = "onStatus" then
    let (first, _) ← orPanic (removeFirst others)
    match first with
    | .object obj => onStatus w obj
    | _ => throw .error
  else pure ()

def onSetPeerBandwidth : Handler Unit :=
  writeAll w [.control (ProtocolControlMessagesWriter.writeWindowAcknowledgementSize 5000000)]

/-- A media message is passed on and cached. -/
def onMedia : Handler Unit :=
  match w.media with
  | none => pure ()
  | some stop => throw stop

def processMessages : RtmpMessageData → Handler Unit
  | .amf0Command commandName transactionId _ others =>
    onAmf0CommandMessage w commandName transactionId others
  | .setPeerBandwidth _ => onSetPeerBandwidth w
  | .audioData _ | .videoData _ | .amfData _ => onMedia w
  | _ => pure ()

/-! ### The session -/

structure Running where
  session : ClientSession
  phase : Phase

/-- The handshake comes to its end or fails; a turn of the loop acts in its state and then reads, which
succeeds or not; a message, a message that cannot be parsed, or no more chunks for now; the frames of
the subscription come to their end, as they can in an error only. -/
inductive Move where
  | handshake (ok : Bool)
  | turn (w : Surroundings) (received : Bool)
  | message (w : Surroundings) (message : RtmpMessageData)
  | parseFails
  | drained
  | pushFails

/-- Where a handler that is run leaves the session. -/
def Running.after (phase : Phase) : EStateM.Result Stop ClientSession Unit → Running
  | .ok _ s => ⟨s, phase⟩
  | .error .error s => ⟨s, .ended⟩
  | .error .panic s => ⟨s, .panicked⟩

/-- What a turn of the loop does up to its read, and the read. -/
def turn (received : Bool) : Handler Unit := do
  act w
  if received then pure () else throw .error

def Running.step (c : Running) : Move → Option Running
  | .handshake ok =>
    if c.phase = .looping ∧ c.session.state = .handshake then
      some (if ok then ⟨{ c.session with state := .connect }, .looping⟩ else ⟨c.session, .ended⟩)
    else none
  | .turn w received =>
    if c.phase = .looping ∧ c.session.state ≠ .handshake ∧ c.session.state ≠ .startPublish then
      some (.after .reading (turn w received c.session))
    else none
  | .message w message =>
    if c.phase = .reading then some (.after .reading (processMessages w message c.session)) else none
  | .parseFails => if c.phase = .reading then some ⟨c.session, .ended⟩ else none
  | .drained => if c.phase = .reading then some ⟨c.session, .looping⟩ else none
  | .pushFails =>
    if c.phase = .looping ∧ c.session.state = .startPublish then some ⟨c.session, .ended⟩ else none

/-- A session of a relay from its beginning, whatever the server sends. -/
def system : System Running Move where
  init c := ∃ sessionId remoteAddr clientType rawDomainName appName rawStreamName,
    c = ⟨.new sessionId remoteAddr clientType rawDomainName appName rawStreamName, .looping⟩
  step c move c' := c.step move = some c'

end ClientSession

end Xiu.Rtmp.Session
