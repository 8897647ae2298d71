import Xiu.Common.Auth
import Xiu.Common.Http
import Xiu.ProofKit.System
import Xiu.StreamHub.Define

/-! The WebRTC server and its sessions, of `protocol/webrtc/src/webrtc.rs` and
`protocol/webrtc/src/session/mod.rs`: one session for each HTTP request.  A session that handles a
POST waits three times, for the hub, for the WebRTC library and for the response to be sent, and other
requests are handled meanwhile; the answers are parameters of the moves. -/

namespace Xiu.Webrtc

open Common ProofKit StreamHub

inductive Kind where
  | whip
  | whep
  deriving DecidableEq

/-- `RTCPeerConnectionState`. -/
inductive PeerState where
  | new
  | connecting
  | connected
  | disconnected
  | failed
  | closed
  deriving DecidableEq

/-- How far the `run` of a session that handles a POST has come: the hub has not answered its event;
it has answered with an error, and `run` has failed; `handle_whip` or `handle_whep` is at work; the
response is being sent; this has failed, and so has `run`; `run` has returned; the session is in the
table of the server. -/
inductive Stage where
  | asked
  | refused
  | accepted
  | responding
  | failed
  | returned
  | kept
  deriving DecidableEq

/-- The hub has accepted the publication or the subscription. -/
def Stage.Succeeded : Stage → Bool
  | .asked | .refused => false
  | _ => true

/-- The response is being sent, or has been. -/
def Stage.Handled : Stage → Bool
  | .asked | .refused | .accepted => false
  | _ => true

/-- A session that handles a POST, once it has sent its event. -/
structure WebRTCServerSession where
  request : HttpRequest
  kind : Kind
  appName : String
  streamName : String
  sessionId : Uuid
  stage : Stage
  /-- The peer connection and its state as last reported. -/
  peerConnection : Option PeerState
  /-- The task that waits for the peer connection of a player to be closed. -/
  watching : Bool

namespace WebRTCServerSession

def identifier (s : WebRTCServerSession) : StreamIdentifier := .webRTC s.appName s.streamName

def subscriberInfo (s : WebRTCServerSession) : SubscriberInfo := ⟨s.sessionId, .whepPull, .packet⟩

def publisherInfo (s : WebRTCServerSession) : PublisherInfo := ⟨s.sessionId, .whipPush, .both⟩

end WebRTCServerSession

/-- Who sends an event: the session of a POST, or the one of a DELETE. -/
inductive Sender where
  | post (session : Nat)
  | delete (request : HttpRequest)

structure Sent where
  event : StreamHubEvent
  sender : Sender

structure WebRTCServer where
  auth : Option Auth
  sessions : List WebRTCServerSession
  uuid2Sessions : Table Uuid Nat
  sent : List Sent

namespace WebRTCServer

def new (auth : Option Auth) : WebRTCServer := ⟨auth, [], ∅, []⟩

/-! ### Requests -/

/-- What follows the first slash of the path, the application and the stream. -/
def target (request : HttpRequest) : Option (String × String × String) :=
  match splitn2 '/' request.uri.path.toList, request.queryPairs.lookup "app",
      request.queryPairs.lookup "stream" with
  | (_, some t), some appName, some streamName => some (String.ofList t, appName, streamName)
  | _, _, _ => none

def kindOf (t : String) : Option Kind :=
  if t.toLower = "whip" then some .whip else if t.toLower = "whep" then some .whep else none

/-- The header `Authorization`, or else the query. -/
def tokenCarrier (request : HttpRequest) : Option SecretCarrier :=
  ((request.getHeader "Authorization").map .bearer) <|> (request.uri.query.map .query)

/-- A POST up to the event that it sends.  `offerOk` says whether the library takes its offer. -/
def post (digest : String → String) (server : WebRTCServer) (seconds : Nat) (offerOk : Bool)
    (request : HttpRequest) (t appName streamName : String) : WebRTCServer :=
  match request.body, kindOf t with
  | some _, some kind =>
    let sessionId := Uuid.new .zero seconds Uuid.noDigits
    let session : WebRTCServerSession :=
      ⟨request, kind, appName, streamName, sessionId, .asked, none, false⟩
    let event : StreamHubEvent :=
      match kind with
      | .whip => .publish session.identifier session.publisherInfo
      | .whep => .subscribe session.identifier session.subscriberInfo
    if offerOk ∧ Auth.admits digest server.auth streamName (tokenCarrier request) (kind == .whep) then
      { server with
        sessions := server.sessions ++ [session]
        sent := server.sent ++ [⟨event, .post server.sessions.length⟩] }
    else
      server
  | _, _ => server

/-- The session that the query of a request names. -/
def sessionIdOf (request : HttpRequest) : Option Uuid :=
  (request.queryPairs.lookup "session_id").bind Uuid.fromStr2

/-- A DELETE.  The session that it names is closed, which the library reports later, and leaves the
table; the stream that it names is unpublished, with or without such a session, as a publisher whose
identifier is drawn now. -/
def delete (server : WebRTCServer) (seconds : Nat) (request : HttpRequest)
    (t appName streamName : String) : WebRTCServer :=
  let server :=
    match sessionIdOf request with
    | some uuid => { server with uuid2Sessions := server.uuid2Sessions.erase uuid }
    | none => server
  match kindOf t with
  | some .whip =>
    let info : PublisherInfo := ⟨Uuid.new .zero seconds Uuid.noDigits, .whipPush, .both⟩
    { server with
      sent := server.sent ++ [⟨.unPublish (.webRTC appName streamName) info, .delete request⟩] }
  | _ => server

/-- `WebRTCServerSession::run` with the request that it has read, up to the point where it waits for
the hub. -/
def run (digest : String → String) (server : WebRTCServer) (seconds : Nat) (offerOk : Bool)
    (request : HttpRequest) : WebRTCServer :=
  if request.method = "GET" then
    server
  else
    match target request with
    | none => server
    | some (t, appName, streamName) =>
      if request.method = "POST" then
        server.post digest seconds offerOk request t appName streamName
      else if request.method = "DELETE" then
        server.delete seconds request t appName streamName
      else
        server

/-! ### The rest of a POST -/

def setSession (server : WebRTCServer) (i : Nat) (session : WebRTCServerSession) : WebRTCServer :=
  { server with sessions := server.sessions.set i session }

/-- The result of `handle_whip` or `handle_whep`: a peer connection, which for a player a task
watches, or an error, which becomes a response. -/
def handled (server : WebRTCServer) (i : Nat) (session : WebRTCServerSession) (ok : Bool) :
    WebRTCServer :=
  server.setSession i { session with
    stage := .responding
    peerConnection := if ok then some .new else none
    watching := ok && session.kind == .whep }

/-- The library reports a state of a peer connection.  The task of a player unsubscribes when the
connection is closed. -/
def report (server : WebRTCServer) (i : Nat) (session : WebRTCServerSession) (state : PeerState) :
    WebRTCServer :=
  if session.watching ∧ state = .closed then
    { server.setSession i { session with peerConnection := some state, watching := false } with
      sent := server.sent ++ [⟨.unSubscribe session.identifier session.subscriberInfo, .post i⟩] }
  else
    server.setSession i { session with peerConnection := some state }

/-- A request arrives; the hub answers the event of a session; `handle_whip` or `handle_whep` ends;
the response is sent or not; the server enters a session whose `run` has returned in its table; the
library reports a state of a peer connection. -/
inductive Move where
  | request (seconds : Nat) (offerOk : Bool) (request : HttpRequest)
  | answer (i : Nat) (ok : Bool)
  | handled (i : Nat) (ok : Bool)
  | respond (i : Nat) (ok : Bool)
  | enter (i : Nat)
  | report (i : Nat) (state : PeerState)

def step (digest : String → String) (server : WebRTCServer) : Move → Option WebRTCServer
  | .request seconds offerOk request => some (server.run digest seconds offerOk request)
  | .answer i ok =>
    match server.sessions[i]? with
    | none => none
    | some session =>
      if session.stage = .asked then
        some (server.setSession i { session with stage := if ok then .accepted else .refused })
      else
        none
  | .handled i ok =>
    match server.sessions[i]? with
    | none => none
    | some session =>
      if session.stage = .accepted then some (server.handled i session ok) else none
  | .respond i ok =>
    match server.sessions[i]? with
    | none => none
    | some session =>
      if session.stage = .responding then
        some (server.setSession i { session with stage := if ok then .returned else .failed })
      else
        none
  | .enter i =>
    match server.sessions[i]? with
    | none => none
    | some session =>
      if session.stage = .returned then
        some { server.setSession i { session with stage := .kept } with
          uuid2Sessions := server.uuid2Sessions.insert session.sessionId i }
      else
        none
  | .report i state =>
    match server.sessions[i]? with
    | none => none
    | some session =>
      if session.peerConnection.isSome then some (server.report i session state) else none

/-- The server with its sessions, the hub and the WebRTC library. -/
def system (digest : String → String) : System WebRTCServer Move where
  init server := ∃ auth, server = new auth
  step server move server' := server.step digest move = some server'

/-- The server after some moves. -/
def after (digest : String → String) (server : WebRTCServer) : List Move → Option WebRTCServer
  | [] => some server
  | move :: moves => (server.step digest move).bind fun server => server.after digest moves

theorem reached_of_after {digest : String → String} {server server' : WebRTCServer}
    {moves : List Move} (hReached : (system digest).Reached server)
    (h : server.after digest moves = some server') : (system digest).Reached server' := by
  induction moves generalizing server with
  | nil =>
    obtain rfl := Option.some.inj h
    exact hReached
  | cons move moves ih =>
    obtain ⟨next, hStep, hRest⟩ := Option.bind_eq_some_iff.mp h
    exact ih (hReached.step hStep) hRest

theorem exists_reached {digest : String → String} {auth : Option Auth} {moves : List Move}
    {P : WebRTCServer → Prop} (h : ∃ server ∈ (new auth).after digest moves, P server) :
    ∃ server, (system digest).Reached server ∧ P server := by
  obtain ⟨server, hAfter, hP⟩ := h
  exact ⟨server, reached_of_after ⟨new auth, [], ⟨auth, rfl⟩, .nil _⟩ hAfter, hP⟩

end WebRTCServer

end Xiu.Webrtc
