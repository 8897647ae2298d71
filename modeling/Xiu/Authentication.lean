import Xiu.Rtmp.Session.Release
import Xiu.Rtsp.Session.Release
import Xiu.Webrtc.Release

/-! Authentication over the sessions of all protocols.  With authentication for publishers and for
players, every publication and every subscription that a client's session asks the hub for has been
authenticated in the same command, under the name that it asks for. -/

namespace Xiu

open Common ProofKit StreamHub

/-- The name that authentication is about. -/
def StreamHub.StreamIdentifier.name : StreamIdentifier → String
  | .unknown => ""
  | .rtmp _ streamName | .webRTC _ streamName => streamName
  | .rtsp streamPath => streamPath

/-- The stream that an event asks for, and whether it is asked for by a player. -/
def StreamHub.StreamHubEvent.asks : StreamHubEvent → Option (String × Bool)
  | .publish identifier _ => some (identifier.name, false)
  | .subscribe identifier _ => some (identifier.name, true)
  | _ => none

/-- The secret has been found to be the password, or the digest of the key and the name. -/
def Common.Auth.Authenticated (digest : String → String) (auth : Auth) (streamName : String)
    (secret : Option SecretCarrier) (isPull : Bool) : Prop :=
  auth.authenticate digest streamName secret isPull = .ok () ∧
    ∃ carrier token, secret = some carrier ∧ getSecret carrier = .ok token ∧
      match auth.algorithm with
      | .simple => token = auth.passwordFor isPull
      | .md5 => token = digest (auth.key ++ streamName)

/-- A step has added events to a log, and each of them that asks for a stream has been authenticated
under the name and with a secret that the step has brought. -/
def Gated (digest : String → String) (auth : Auth)
    (brings : String → Bool → Option SecretCarrier → Prop) (log log' : List StreamHubEvent) : Prop :=
  ∃ events, log' = log ++ events ∧ ∀ event ∈ events, ∀ streamName isPull,
    event.asks = some (streamName, isPull) → ∃ secret, brings streamName isPull secret ∧
      auth.Authenticated digest streamName secret isPull

section Gated

variable {digest : String → String} {auth : Auth} {log : List StreamHubEvent}
  {brings : String → Bool → Option SecretCarrier → Prop}

theorem authenticated_of_admits {streamName : String} {secret : Option SecretCarrier} {isPull : Bool}
    (hBoth : auth.authType = .both)
    (h : Auth.admits digest (some auth) streamName secret isPull = true) :
    auth.Authenticated digest streamName secret isPull :=
  ⟨Auth.authenticate_of_admits h, Auth.authenticate_both hBoth (Auth.authenticate_of_admits h)⟩

theorem gated_none : Gated digest auth brings log log :=
  ⟨[], (List.append_nil log).symm, fun _ hMem => nomatch hMem⟩

/-- Events that ask for no stream need no authentication. -/
theorem gated_quiet {events : List StreamHubEvent} (h : ∀ event ∈ events, event.asks = none) :
    Gated digest auth brings log (log ++ events) := by
  refine ⟨events, rfl, fun event hMem streamName isPull hAsks => ?_⟩
  rw [h event hMem] at hAsks
  cases hAsks

/-- An event that asks for a stream needs it. -/
theorem gated_asks {event : StreamHubEvent} {streamName : String} {isPull : Bool}
    {secret : Option SecretCarrier} (hAsks : event.asks = some (streamName, isPull))
    (hBrings : brings streamName isPull secret)
    (h : auth.Authenticated digest streamName secret isPull) :
    Gated digest auth brings log (log ++ [event]) := by
  refine ⟨[event], rfl, fun event' hMem streamName' isPull' hAsks' => ?_⟩
  obtain rfl := List.mem_singleton.mp hMem
  rw [hAsks] at hAsks'
  cases hAsks'
  exact ⟨secret, hBrings, h⟩

end Gated

/-! ### RTMP -/

namespace Rtmp.Session

open Messages

def Ledger.events (l : Ledger) : List StreamHubEvent := l.common.sent.map (·.event)

/-- The name and the secret of a command: those of the name that is its argument; a `publish` without
a name has those of the `swfUrl` of the connection, or those that the session has. -/
inductive Brings (l : Ledger) : Move → String → Bool → Option SecretCarrier → Prop where
  | publish (w : Surroundings) (msgStreamId : UInt32) (message : RtmpMessageData)
      (isPublish : (commandOf message).1 = "publish") (name : String × Option String)
      (published : publisherName l (commandOf message).2.2 = some name) :
      Brings l (.message w msgStreamId message) name.1 false (name.2.map .query)
  | play (w : Surroundings) (msgStreamId : UInt32) (message : RtmpMessageData)
      (isPlay : (commandOf message).1 = "play") (raw : String)
      (played : playedName (commandOf message).2.2 = some raw) :
      Brings l (.message w msgStreamId message) (RtmpUrlParser.parseStreamNameWithQuery raw).1 true
        ((RtmpUrlParser.parseStreamNameWithQuery raw).2.map .query)

/-- The secret of the name that is a command's own argument. -/
inductive Carries : Move → String → Bool → Option SecretCarrier → Prop where
  | publish (w : Surroundings) (msgStreamId : UInt32) (message : RtmpMessageData)
      (isPublish : (commandOf message).1 = "publish") (streamName raw : String)
      (argument : (commandOf message).2.2.head?.bind asText = some raw) :
      Carries (.message w msgStreamId message) streamName false
        ((RtmpUrlParser.parseStreamNameWithQuery raw).2.map .query)
  | play (w : Surroundings) (msgStreamId : UInt32) (message : RtmpMessageData)
      (isPlay : (commandOf message).1 = "play") (streamName raw : String)
      (argument : (commandOf message).2.2.head?.bind asText = some raw) :
      Carries (.message w msgStreamId message) streamName true
        ((RtmpUrlParser.parseStreamNameWithQuery raw).2.map .query)

theorem events_send (l : Ledger) (event : StreamHubEvent) (accepted : Bool) :
    (l.send event accepted).events = l.events ++ [event] := by
  simp only [Ledger.events, Ledger.send, List.map_append, List.map_cons, List.map_nil]

variable {digest : String → String} {auth : Auth} {l l' : Ledger}
  {brings : String → Bool → Option SecretCarrier → Prop}

/-- An event that is told, if the hub listens, and asks for no stream. -/
theorem gated_tell {w : Surroundings} {event : StreamHubEvent} {accepted : Bool}
    (h : event.asks = none) :
    Gated digest auth brings l.events (l.tell w event accepted).events := by
  rw [Ledger.tell]
  split
  · rw [events_send]
    exact gated_quiet fun event' hMem => by rwa [List.mem_singleton.mp hMem]
  · exact gated_none

theorem gated_tell_asks {w : Surroundings} {event : StreamHubEvent} {accepted : Bool}
    {streamName : String} {isPull : Bool} {secret : Option SecretCarrier}
    (hAsks : event.asks = some (streamName, isPull)) (hBrings : brings streamName isPull secret)
    (h : auth.Authenticated digest streamName secret isPull) :
    Gated digest auth brings l.events (l.tell w event accepted).events := by
  rw [Ledger.tell]
  split
  · rw [events_send]
    exact gated_asks hAsks hBrings h
  · exact gated_none

theorem gated_ledger {move : Move} (hBoth : auth.authType = .both) (hAuth : l.auth = some auth)
    (h : LedgerStep digest l move l') :
    Gated digest auth (Brings l move) l.events l'.events ∧ l'.auth = some auth := by
  cases h with
  | idle => exact ⟨gated_none, hAuth⟩
  | handshake w left => exact ⟨gated_none, hAuth⟩
  | leave w move hFailed => exact ⟨gated_tell rfl, by rw [Ledger.tell]; split <;> exact hAuth⟩
  | leavePlay w => exact ⟨gated_tell rfl, by rw [Ledger.tell]; split <;> exact hAuth⟩
  | message w msgStreamId message l' hEffect =>
    cases hEffect with
    | none | properties | connect | playName | publishName => exact ⟨gated_none, hAuth⟩
    | play hPlay raw hPlayed hAdmitted state =>
      refine ⟨?_, by rw [Ledger.tell]; split <;> exact hAuth⟩
      have hAdmits : Auth.admits digest (some auth) (RtmpUrlParser.parseStreamNameWithQuery raw).1
          ((RtmpUrlParser.parseStreamNameWithQuery raw).2.map .query) true = true := by
        rw [← hAuth]
        exact hAdmitted
      exact gated_tell_asks (l := l.named _) rfl (.play w msgStreamId message hPlay raw hPlayed)
        (authenticated_of_admits hBoth hAdmits)
    | publish hPublish name hName hAdmitted =>
      refine ⟨?_, by rw [Ledger.tell]; split <;> exact hAuth⟩
      have hAdmits : Auth.admits digest (some auth) name.1 (name.2.map .query) false = true := by
        rw [← hAuth]
        exact hAdmitted
      exact gated_tell_asks (l := l.named name) rfl
        (.publish w msgStreamId message hPublish name hName) (authenticated_of_admits hBoth hAdmits)
    | delete hDelete hGiven hListens state =>
      refine ⟨?_, hAuth⟩
      have hSent := events_send l (.unPublish l.identifier l.common.getPublisherInfo) true
      change Gated digest auth _ l.events (l.send _ true).events
      rw [hSent]
      exact gated_quiet fun event hMem => by rw [List.mem_singleton.mp hMem]; rfl

theorem auth_kept {c : Served} (hBoth : auth.authType = .both)
    (h : (session digest (some auth)).Reached c) : c.session.ledger.auth = some auth := by
  refine System.Reached.invariant (I := fun c : Served => c.session.ledger.auth = some auth) ?_ ?_ h
  · rintro c ⟨sessionId, remoteAddr, rfl⟩
    rfl
  · intro c move c' hAuth hStep
    exact (gated_ledger hBoth hAuth (step_ledger hStep)).2

theorem gated_step {c c' : Served} {move : Move} (hBoth : auth.authType = .both)
    (h : (session digest (some auth)).Reached c) (hStep : c.step digest move = some c') :
    Gated digest auth (Brings c.session.ledger move) c.session.ledger.events
      c'.session.ledger.events :=
  (gated_ledger hBoth (auth_kept hBoth h) (step_ledger hStep)).1

end Rtmp.Session

/-! ### RTSP -/

namespace Rtsp.Session

def Ledger.events (l : Ledger) : List StreamHubEvent := l.sent.map (·.event)

/-- The path of a request is the name, and its query the secret. -/
inductive Brings : Move → String → Bool → Option SecretCarrier → Prop where
  | announce (w : Surroundings) (request : HttpRequest) (isAnnounce : request.method = "ANNOUNCE") :
      Brings (.request w request) request.uri.path false (secretOf request)
  | play (w : Surroundings) (request : HttpRequest) (isPlay : request.method = "PLAY") :
      Brings (.request w request) request.uri.path true (secretOf request)

variable {crates : Crates} {auth : Auth} {l l' : Ledger}
  {brings : String → Bool → Option SecretCarrier → Prop}

theorem release_asks (w : Surroundings) (l : Ledger) (identifier : StreamIdentifier) :
    (l.release w identifier).asks = none := by
  rw [Ledger.release]
  split <;> rfl

/-- The question of a stream, if the hub listens. -/
theorem gated_ask {digest : String → String} {w : Surroundings} {request : HttpRequest}
    {event : StreamHubEvent} {streamName : String} {isPull : Bool} {secret : Option SecretCarrier}
    {entries : List Sent}
    (hEntries : entries = if w.hubListens then [⟨event, some request, w.accepted⟩] else [])
    (hAsks : event.asks = some (streamName, isPull)) (hBrings : brings streamName isPull secret)
    (h : auth.Authenticated digest streamName secret isPull) :
    Gated digest auth brings l.events ((l.sent ++ entries).map (·.event)) := by
  rw [List.map_append, hEntries]
  split
  · exact gated_asks hAsks hBrings h
  · rw [List.map_nil, List.append_nil]
    exact gated_none

theorem gated_effect {digest : String → String} {w : Surroundings} {request : HttpRequest}
    (hBoth : auth.authType = .both) (hAuth : l.auth = some auth)
    (h : Effect digest w request l l') :
    Gated digest auth (Brings (.request w request)) l.events l'.events ∧ l'.auth = some auth := by
  cases h with
  | none => exact ⟨gated_none, hAuth⟩
  | setup hMethod => exact ⟨gated_none, hAuth⟩
  | describe hMethod entries hAsked =>
    refine ⟨?_, hAuth⟩
    rw [Ledger.events, Ledger.events, List.map_append]
    refine gated_quiet fun event hMem => ?_
    obtain ⟨e, hEntry, rfl⟩ := List.mem_map.mp hMem
    rw [hAsked e hEntry]
    rfl
  | announce hMethod hAdmitted entries hAsked =>
    rw [hAuth] at hAdmitted
    exact ⟨gated_ask hAsked rfl (.announce w request hMethod)
      (authenticated_of_admits hBoth hAdmitted), hAuth⟩
  | play hMethod hAdmitted hResponded entries hAsked =>
    rw [hAuth] at hAdmitted
    exact ⟨gated_ask hAsked rfl (.play w request hMethod)
      (authenticated_of_admits hBoth hAdmitted), hAuth⟩
  | teardown hMethod hListens =>
    refine ⟨?_, hAuth⟩
    rw [Ledger.events, Ledger.events, Ledger.send, List.map_append]
    refine gated_quiet fun event hMem => ?_
    rw [List.mem_singleton.mp hMem]
    exact release_asks w l _

theorem gated_finish {digest : String → String} {w : Surroundings} (s : RtspServerSession) :
    Gated digest auth brings s.ledger.events (finish w s).ledger.events ∧
      (finish w s).ledger.auth = s.ledger.auth := by
  rw [finish]
  split
  · exact ⟨gated_none, rfl⟩
  split
  · rename_i identifier hNamed
    rw [ledger_exit]
    split
    · refine ⟨?_, rfl⟩
      rw [Ledger.events, Ledger.events, Ledger.send, List.map_append]
      refine gated_quiet fun event hMem => ?_
      rw [List.mem_singleton.mp hMem]
      exact release_asks w s.ledger identifier
    · exact ⟨gated_none, rfl⟩
  · exact ⟨gated_none, rfl⟩

theorem gated_move {c c' : Served} {move : Move} (hBoth : auth.authType = .both)
    (hAuth : c.session.ledger.auth = some auth) (h : c.step crates move = some c') :
    Gated crates.digest auth (Brings move) c.session.ledger.events c'.session.ledger.events ∧
      c'.session.ledger.auth = some auth := by
  cases move with
  | request w request =>
    obtain ⟨-, -, hSession⟩ := step_request h
    rw [hSession]
    exact gated_effect hBoth hAuth (effect_onRtspRequest crates w request c.session)
  | lose =>
    simp only [Served.step] at h
    split at h
    · cases h
      exact ⟨gated_none, hAuth⟩
    · cases h
  | finish w =>
    simp only [Served.step] at h
    split at h
    · cases h
      obtain ⟨hGated, hKept⟩ := @gated_finish auth (Brings (.finish w)) crates.digest w c.session
      exact ⟨hGated, hKept.trans hAuth⟩
    · cases h

theorem auth_kept {c : Served} (hBoth : auth.authType = .both)
    (h : (session crates (some auth)).Reached c) : c.session.ledger.auth = some auth := by
  refine System.Reached.invariant (I := fun c : Served => c.session.ledger.auth = some auth) ?_ ?_ h
  · rintro c rfl
    rfl
  · intro c move c' hAuth hStep
    exact (gated_move hBoth hAuth hStep).2

theorem gated_step {c c' : Served} {move : Move} (hBoth : auth.authType = .both)
    (h : (session crates (some auth)).Reached c) (hStep : c.step crates move = some c') :
    Gated crates.digest auth (Brings move) c.session.ledger.events c'.session.ledger.events :=
  (gated_move hBoth (auth_kept hBoth h) hStep).1

end Rtsp.Session

/-! ### WHIP and WHEP -/

namespace Webrtc.WebRTCServer

def events (server : WebRTCServer) : List StreamHubEvent := server.sent.map (·.event)

/-- A POST names the stream in its query, and brings the secret there or in a header. -/
inductive Brings : Move → String → Bool → Option SecretCarrier → Prop where
  | post (seconds : Nat) (offerOk : Bool) (request : HttpRequest) (isPost : request.method = "POST")
      (t appName streamName : String) (isTarget : target request = some (t, appName, streamName))
      (kind : Kind) (isKind : kindOf t = some kind) :
      Brings (.request seconds offerOk request) streamName (kind == .whep) (tokenCarrier request)

variable {digest : String → String} {auth : Auth} {server server' : WebRTCServer} {seconds : Nat}
  {offerOk : Bool} {request : HttpRequest}

theorem gated_post {t appName streamName : String} (hBoth : auth.authType = .both)
    (hAuth : server.auth = some auth) (hPost : request.method = "POST")
    (hTarget : target request = some (t, appName, streamName)) :
    Gated digest auth (Brings (.request seconds offerOk request)) server.events
      (server.post digest seconds offerOk request t appName streamName).events := by
  simp only [post]
  split
  · rename_i kind hBody hKind
    split
    · rename_i hAllowed
      have hAdmits := hAllowed.2
      rw [hAuth] at hAdmits
      simp only [events, List.map_append, List.map_cons, List.map_nil]
      refine gated_asks ?_ (.post seconds offerOk request hPost t appName streamName hTarget kind hKind)
        (authenticated_of_admits hBoth hAdmits)
      cases kind <;> rfl
    · exact gated_none
  · exact gated_none

theorem gated_delete {t appName streamName : String}
    {brings : String → Bool → Option SecretCarrier → Prop} :
    Gated digest auth brings server.events
      (server.delete seconds request t appName streamName).events := by
  have hQuiet : ∀ info : PublisherInfo, Gated digest auth brings server.events
      (server.events ++ [.unPublish (.webRTC appName streamName) info]) :=
    fun info => gated_quiet fun event hMem => by rw [List.mem_singleton.mp hMem]; rfl
  simp only [delete]
  cases kindOf t with
  | none => cases sessionIdOf request <;> exact gated_none
  | some kind =>
    cases kind with
    | whep => cases sessionIdOf request <;> exact gated_none
    | whip =>
      cases sessionIdOf request <;>
        simp only [events, List.map_append, List.map_cons, List.map_nil] <;>
        exact hQuiet _

theorem gated_run (hBoth : auth.authType = .both) (hAuth : server.auth = some auth) :
    Gated digest auth (Brings (.request seconds offerOk request)) server.events
      (server.run digest seconds offerOk request).events := by
  rw [run]
  split
  · exact gated_none
  split
  · exact gated_none
  rename_i t appName streamName hTarget
  split
  · exact gated_post hBoth hAuth ‹_› hTarget
  split
  · exact gated_delete
  · exact gated_none

theorem gated_step {move : Move} (hBoth : auth.authType = .both) (hAuth : server.auth = some auth)
    (h : server.step digest move = some server') :
    Gated digest auth (Brings move) server.events server'.events := by
  rcases step_cases h with ⟨seconds, offerOk, request, rfl, rfl⟩ |
    ⟨i, s, s', -, -, -, -, ⟨hSent, -⟩ | ⟨-, -, hSent⟩⟩
  · exact gated_run hBoth hAuth
  · rw [events, events, hSent]
    exact gated_none
  · rw [events, events, hSent, List.map_append]
    exact gated_quiet fun event hMem => by rw [List.mem_singleton.mp hMem]; rfl

end Webrtc.WebRTCServer

/-! ### All of them -/

/-- With authentication for publishers and players, whatever a client's session of RTMP or of RTSP, or
a session of WHIP or WHEP, asks the hub for has been authenticated in the step in which it asks. -/
theorem streams_authenticated {digest : String → String} {auth : Auth} (hBoth : auth.authType = .both) :
    (∀ (c c' : Rtmp.Session.Served) (move : Rtmp.Session.Move),
      (Rtmp.Session.session digest (some auth)).Reached c → c.step digest move = some c' →
        Gated digest auth (Rtmp.Session.Brings c.session.ledger move) c.session.ledger.events
          c'.session.ledger.events) ∧
    (∀ (crates : Rtsp.Session.Crates) (c c' : Rtsp.Session.Served) (move : Rtsp.Session.Move),
      crates.digest = digest →
      (Rtsp.Session.session crates (some auth)).Reached c → c.step crates move = some c' →
        Gated digest auth (Rtsp.Session.Brings move) c.session.ledger.events
          c'.session.ledger.events) ∧
    (∀ (server server' : Webrtc.WebRTCServer) (move : Webrtc.WebRTCServer.Move),
      server.auth = some auth → server.step digest move = some server' →
        Gated digest auth (Webrtc.WebRTCServer.Brings move) server.events server'.events) := by
  refine ⟨?_, ?_, ?_⟩
  · intro c c' move hReached hStep
    exact Rtmp.Session.gated_step hBoth hReached hStep
  · rintro crates c c' move rfl hReached hStep
    exact Rtsp.Session.gated_step hBoth hReached hStep
  · intro server server' move hAuth hStep
    exact Webrtc.WebRTCServer.gated_step hBoth hAuth hStep

namespace Rtmp.Session

open Messages

/-- A publisher with the right token is let in, and has been authenticated. -/
theorem token_publishes : ∃ (auth : Auth) (c c' : Served) (move : Move),
    c'.session.ledger.events = [.publish (.rtmp "live" "cam")
      ⟨Uuid.new .four 1700000000 fun _ => 0, .rtmpPush, .frame⟩] ∧
    Gated id auth (Brings c.session.ledger move) c.session.ledger.events
      c'.session.ledger.events := by
  let auth : Auth := ⟨.simple, "", "pull", some "push", .both⟩
  let w : Surroundings := ⟨true, true, fun _ => true, none⟩
  let start : Served := ⟨.new (Uuid.new .four 1700000000 fun _ => 0) none (some auth), .looping⟩
  obtain ⟨c, hRun, c', hStep, hEvents⟩ : ∃ c ∈ start.run id
      [.handshakeDone w false, .receive,
        .message w 0 (commandMessage "connect" [("app", .utf8String "live")] [])],
      ∃ c' ∈ c.step id (.message w 0 (commandMessage "publish" []
        [.utf8String "cam?token=push", .utf8String "live"])),
      c'.session.ledger.events = [.publish (.rtmp "live" "cam")
        ⟨Uuid.new .four 1700000000 fun _ => 0, .rtmpPush, .frame⟩] := by
    decide +kernel
  have hReached : (session id (some auth)).Reached c := reached_run ⟨_, [], ⟨_, _, rfl⟩, .nil _⟩ hRun
  exact ⟨auth, c, c', _, hEvents, (streams_authenticated rfl).1 c c' _ hReached hStep⟩

/-- A publisher that gives no name publishes with the token of the `swfUrl` of its connection. -/
theorem swf_url_publishes :
    ¬∀ (digest : String → String) (auth : Auth) (c c' : Served) (move : Move),
      auth.authType = .both → (session digest (some auth)).Reached c →
        c.step digest move = some c' →
          Gated digest auth (Carries move) c.session.ledger.events c'.session.ledger.events := by
  intro h
  let auth : Auth := ⟨.simple, "", "pull", some "push", .both⟩
  let w : Surroundings := ⟨true, true, fun _ => true, none⟩
  let start : Served := ⟨.new (Uuid.new .four 1700000000 fun _ => 0) none (some auth), .looping⟩
  let event : StreamHubEvent :=
    .publish (.rtmp "live" "cam") ⟨Uuid.new .four 1700000000 fun _ => 0, .rtmpPush, .frame⟩
  obtain ⟨c, hRun, hNothing, c', hStep, hEvents⟩ : ∃ c ∈ start.run id
      [.handshakeDone w false, .receive,
        .message w 0 (commandMessage "connect" [("app", .utf8String "live"),
          ("swfUrl", .utf8String "rtmp://host/live/cam?token=push")] [])],
      c.session.ledger.events = [] ∧
      ∃ c' ∈ c.step id (.message w 0 (commandMessage "publish" []
        [.utf8String "", .utf8String "live"])),
      c'.session.ledger.events = [event] := by
    decide +kernel
  have hReached : (session id (some auth)).Reached c := reached_run ⟨_, [], ⟨_, _, rfl⟩, .nil _⟩ hRun
  obtain ⟨events, hLog, hAll⟩ := h id auth c c' _ rfl hReached hStep
  rw [hEvents, hNothing, List.nil_append] at hLog
  obtain ⟨secret, hCarries, hAuthenticated, -⟩ :=
    hAll event (by rw [← hLog]; exact List.mem_singleton_self _) "cam" false rfl
  cases hCarries with
  | publish w msgStreamId message hPublish streamName raw hArgument =>
    cases hArgument
    exact absurd hAuthenticated (by decide)

end Rtmp.Session

end Xiu
