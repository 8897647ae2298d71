import Xiu.Rtsp.Session.ServerSession

/-! What handling a request does to the fields of an RTSP session from which it publishes,
subscribes and releases, however the handling ends. -/

namespace Xiu.Rtsp.Session

open Common ProofKit StreamHub

structure Ledger where
  sessionId : Option Uuid
  sessionType : ServerSessionType
  auth : Option Auth
  streamIdentifier : Option StreamIdentifier
  isNormalExit : Bool
  sent : List Sent

def RtspServerSession.ledger (s : RtspServerSession) : Ledger :=
  ⟨s.sessionId, s.sessionType, s.auth, s.streamIdentifier, s.isNormalExit, s.sent⟩

namespace Ledger

variable (w : Surroundings) (l : Ledger)

/-- The session's identifier, or one that is drawn now. -/
def idOf : Uuid := l.sessionId.getD (Uuid.new .zero w.seconds Uuid.noDigits)

def subscriberInfo : SubscriberInfo := ⟨l.idOf w, .rtspPull, .frame⟩

def publisherInfo : PublisherInfo := ⟨l.idOf w, .rtspPush, .frame⟩

def send (entry : Sent) : Ledger := { l with sent := l.sent ++ [entry] }

/-- The event with which the session releases a stream. -/
def release (identifier : StreamIdentifier) : StreamHubEvent :=
  match l.sessionType with
  | .pull => .unSubscribe identifier (l.subscriberInfo w)
  | .push => .unPublish identifier (l.publisherInfo w)

end Ledger

/-- What handling a request does: nothing; or it names a stream, and asks the hub for its description,
or to publish it; it gives the session an identifier; it makes the session a player, and asks the hub
to subscribe it; or it releases a stream. -/
inductive Effect (digest : String → String) (w : Surroundings) (request : HttpRequest) (l : Ledger) :
    Ledger → Prop where
  | none : Effect digest w request l l
  | describe (method : request.method = "DESCRIBE") (entries : List Sent)
      (asked : ∀ e ∈ entries, e.event = .request (identifierOf request)) :
      Effect digest w request l
        { l with streamIdentifier := some (identifierOf request), sent := l.sent ++ entries }
  | announce (method : request.method = "ANNOUNCE")
      (admitted : Auth.admits digest l.auth request.uri.path (secretOf request) false)
      (entries : List Sent)
      (asked : entries = if w.hubListens then
        [⟨.publish (identifierOf request) (l.publisherInfo w), some request, w.accepted⟩] else []) :
      Effect digest w request l
        { l with streamIdentifier := some (identifierOf request), sent := l.sent ++ entries }
  | setup (method : request.method = "SETUP") :
      Effect digest w request l { l with sessionId := some (l.idOf w) }
  | play (method : request.method = "PLAY")
      (admitted : Auth.admits digest l.auth request.uri.path (secretOf request) true)
      (responded : w.responded) (entries : List Sent)
      (asked : entries = if w.hubListens then
        [⟨.subscribe (identifierOf request) (l.subscriberInfo w), some request, w.accepted⟩] else []) :
      Effect digest w request l { l with sessionType := .pull, sent := l.sent ++ entries }
  | teardown (method : request.method = "TEARDOWN") (listens : w.hubListens) :
      Effect digest w request l
        { l.send ⟨l.release w (identifierOf request), some request, true⟩ with isNormalExit := true }

/-! ### Handlers that leave the ledger alone -/

def Keeps {α : Type} (x : Handler α) : Prop := ∀ s, (stateOf (x s)).ledger = s.ledger

section Keeps

variable {α β : Type} {x : Handler α} {f : α → Handler β} {s : RtspServerSession}

theorem keeps_pure (a : α) : Keeps (pure a : Handler α) := fun _ => rfl

theorem keeps_throw (e : Stop) : Keeps (throw e : Handler α) := fun _ => rfl

theorem keeps_orPanic (o : Option α) : Keeps (orPanic o) := by
  cases o with
  | none => exact keeps_throw _
  | some a => exact keeps_pure a

theorem Keeps.bind (hx : Keeps x) (hf : ∀ a, Keeps (f a)) : Keeps (x >>= f) := fun s =>
  stateOf_bind (R := fun s s' : RtspServerSession => s'.ledger = s.ledger)
    (fun h h' => h'.trans h) (hx s) fun a s1 => hf a s1

theorem keeps_modify {g : RtspServerSession → RtspServerSession}
    (h : ∀ s, (g s).ledger = s.ledger) : Keeps (modify g : Handler Unit) := h

theorem keeps_get {f : RtspServerSession → Handler β} (h : ∀ s, Keeps (f s)) :
    Keeps (get >>= f) := fun s => h s s

/-- What follows an action that keeps the ledger, unless it fails. -/
theorem Keeps.cases (hx : Keeps x) (s : RtspServerSession) (f : α → Handler β) :
    (stateOf ((x >>= f) s)).ledger = s.ledger ∨
      ∃ a s1, x s = .ok a s1 ∧ s1.ledger = s.ledger ∧ (x >>= f) s = f a s1 := by
  have hLedger := hx s
  cases hResult : x s with
  | ok a s1 =>
    rw [hResult] at hLedger
    exact .inr ⟨a, s1, rfl, hLedger, bind_of_ok hResult⟩
  | error e s1 =>
    rw [hResult] at hLedger
    rw [bind_of_error hResult]
    exact .inl hLedger

end Keeps

variable {crates : Crates} {w : Surroundings} {request : HttpRequest} {s : RtspServerSession}

theorem keeps_sendResponse (response : HttpResponse) : Keeps (sendResponse w response) := by
  simp only [sendResponse]
  split
  · exact keeps_modify fun _ => rfl
  · exact keeps_throw _

theorem sendResponse_ok {response : HttpResponse} {u : Unit} {s s1 : RtspServerSession}
    (h : sendResponse w response s = .ok u s1) : w.responded := by
  simp only [sendResponse] at h
  split at h
  · rename_i hResponded
    exact hResponded
  · cases h

theorem keeps_newTracks : Keeps newTracks :=
  keeps_get fun _ => (keeps_orPanic _).bind fun _ => keeps_modify fun _ => rfl

theorem keeps_takeSdp : Keeps (takeSdp crates request) := by
  simp only [takeSdp]
  split
  · exact (keeps_orPanic _).bind fun _ => keeps_modify fun _ => rfl
  · exact keeps_pure _

theorem keeps_authenticate (isPull : Bool) : Keeps (authenticate crates request isPull) := by
  refine keeps_get fun s => ?_
  split
  · exact keeps_pure _
  · exact keeps_throw _

theorem authenticate_ok {isPull : Bool} {u : Unit} {s s1 : RtspServerSession}
    (h : authenticate crates request isPull s = .ok u s1) :
    s1 = s ∧ Auth.admits crates.digest s.auth request.uri.path (secretOf request) isPull := by
  simp only [authenticate, bind_get] at h
  split at h
  · rename_i hAdmits
    cases h
    exact ⟨rfl, hAdmits⟩
  · cases h

theorem keeps_serverPorts (transport : RtspTransport) : Keeps (serverPorts w transport) := by
  simp only [serverPorts]
  split
  · exact keeps_pure _
  · refine (keeps_orPanic _).bind fun rtpPort => ?_
    split
    · exact keeps_pure _
    · exact keeps_throw _

/-! ### Events -/

theorem ledger_tell (sender : Option HttpRequest) (event : StreamHubEvent) (s : RtspServerSession) :
    (stateOf (tell w sender event s)).ledger =
      if w.hubListens then s.ledger.send ⟨event, sender, true⟩ else s.ledger := by
  simp only [tell]
  split <;> rfl

theorem ledger_ask (event : StreamHubEvent) (s : RtspServerSession) :
    (stateOf (ask w request event s)).ledger =
      { s.ledger with sent := s.ledger.sent ++
        if w.hubListens then [⟨event, some request, w.accepted⟩] else [] } := by
  simp only [ask]
  split
  · simp only [bind_modify]
    split <;> rfl
  · rw [List.append_nil]
    rfl

/-- What follows an event does not change the ledger further. -/
theorem ledger_bind {α β : Type} {x : Handler α} {f : α → Handler β} (hf : ∀ a, Keeps (f a))
    (s : RtspServerSession) : (stateOf ((x >>= f) s)).ledger = (stateOf (x s)).ledger := by
  cases hResult : x s with
  | ok a s1 =>
    rw [bind_of_ok hResult]
    exact hf a s1
  | error e s1 =>
    rw [bind_of_error hResult]
    rfl

/-- The release of a stream, and the mark that it has been, unless the hub does not listen. -/
theorem ledger_exit (sender : Option HttpRequest) (identifier : StreamIdentifier)
    (s : RtspServerSession) :
    (stateOf (exit w sender identifier s)).ledger =
      if w.hubListens then
        { s.ledger.send ⟨s.ledger.release w identifier, sender, true⟩ with isNormalExit := true }
      else s.ledger := by
  have hEvent : (match s.sessionType with
      | .pull => StreamHubEvent.unSubscribe identifier (getSubscriberInfo w s)
      | .push => .unPublish identifier (getPublisherInfo w s)) = s.ledger.release w identifier := by
    simp only [Ledger.release, RtspServerSession.ledger]
    cases s.sessionType <;> rfl
  simp only [exit, bind_get, tell, ← hEvent]
  split
  · simp only [bind_modify]
    rfl
  · rfl

/-! ### Requests -/

theorem stateOf_logError (handler : Handler Unit) (s : RtspServerSession) :
    stateOf (logError handler s) = stateOf (handler s) := by
  simp only [logError]
  split
  · rename_i s' h
    rw [h]
    rfl
  · rfl

theorem keeps_takeInformation : Keeps (takeInformation crates w) := by
  simp only [takeInformation]
  split
  · refine (keeps_orPanic _).bind fun sdp => Keeps.bind ?_ fun _ => keeps_newTracks
    exact keeps_modify fun _ => rfl
  · exact keeps_pure _

theorem effect_describe (hMethod : request.method = "DESCRIBE") (s : RtspServerSession) :
    Effect crates.digest w request s.ledger
      (stateOf (handleDescribe crates w request s)).ledger := by
  simp only [handleDescribe, bind_modify]
  rw [ledger_bind fun _ => keeps_takeInformation.bind fun _ => keeps_get fun _ =>
    keeps_sendResponse _, ledger_tell]
  split
  · exact .describe hMethod [⟨_, _, _⟩] (by simp)
  · have h : Effect crates.digest w request s.ledger
        { s.ledger with
          streamIdentifier := some (identifierOf request)
          sent := s.ledger.sent ++ [] } := .describe hMethod [] (by simp)
    rwa [List.append_nil] at h

theorem effect_announce (hMethod : request.method = "ANNOUNCE") (s : RtspServerSession) :
    Effect crates.digest w request s.ledger
      (stateOf (handleAnnounce crates w request s)).ledger := by
  simp only [handleAnnounce]
  rcases (keeps_authenticate false).cases s _ with hSame | ⟨u, s1, hOk, -, hNext⟩
  · rw [hSame]
    exact .none
  obtain ⟨rfl, hAdmits⟩ := authenticate_ok hOk
  rw [hNext]
  rcases keeps_takeSdp.cases s1 _ with hSame | ⟨u, s2, -, hLedger, hNext⟩
  · rw [hSame]
    exact .none
  rw [hNext, ← hLedger]
  have hAuth := congrArg Ledger.auth hLedger
  rcases keeps_newTracks.cases s2 _ with hSame | ⟨u, s3, -, hLedger, hNext⟩
  · rw [hSame]
    exact .none
  rw [hNext, ← hLedger]
  simp only [bind_modify, bind_get]
  rw [ledger_bind fun _ => keeps_sendResponse _, ledger_ask]
  refine .announce hMethod ?_ _ rfl
  rw [congrArg Ledger.auth hLedger, hAuth]
  exact hAdmits

theorem effect_setupTransport (hMethod : request.method = "SETUP") (trackType : TrackType)
    (track : RtspTrack) (transportData : String) (s : RtspServerSession) :
    Effect crates.digest w request s.ledger
      (stateOf (setupTransport w request trackType track transportData s)).ledger := by
  simp only [setupTransport, bind_modify]
  have hRest : ∀ (x : Handler HttpResponse), Keeps x → ∀ s1 : RtspServerSession,
      s1.ledger = { s.ledger with sessionId := some (s.ledger.idOf w) } →
        Effect crates.digest w request s.ledger (stateOf (x s1)).ledger := by
    intro x hx s1 hLedger
    rw [hx s1, hLedger]
    exact .setup hMethod
  apply hRest
  · refine (keeps_orPanic _).bind fun transport => (keeps_serverPorts _).bind fun serverPort => ?_
    exact Keeps.bind (keeps_modify fun _ => rfl) fun _ => keeps_get fun _ => keeps_pure _
  · rfl

theorem effect_setup (hMethod : request.method = "SETUP") (s : RtspServerSession) :
    Effect crates.digest w request s.ledger (stateOf (handleSetup w request s)).ledger := by
  simp only [handleSetup, bind_get]
  cases hTrack : setupTrack w request s with
  | none =>
    simp only
    rw [keeps_sendResponse]
    exact .none
  | some p =>
    obtain ⟨trackType, track⟩ := p
    cases hHeader : request.getHeader "Transport" with
    | none =>
      simp only
      rw [keeps_sendResponse]
      exact .none
    | some transportData =>
      simp only
      rw [ledger_bind fun _ => keeps_sendResponse _]
      exact effect_setupTransport hMethod trackType track transportData s

theorem effect_play (hMethod : request.method = "PLAY") (s : RtspServerSession) :
    Effect crates.digest w request s.ledger
      (stateOf (logError (handlePlay crates w request) s)).ledger := by
  rw [stateOf_logError]
  simp only [handlePlay]
  rcases (keeps_authenticate true).cases s _ with hSame | ⟨u, s1, hOk, -, hNext⟩
  · rw [hSame]
    exact .none
  obtain ⟨rfl, hAdmits⟩ := authenticate_ok hOk
  rw [hNext]
  rcases (keeps_sendResponse _).cases s1 _ with hSame | ⟨u, s2, hSent, hLedger, hNext⟩
  · rw [hSame]
    exact .none
  rw [hNext, ← hLedger]
  simp only [bind_modify, bind_get]
  rw [ledger_bind fun _ => keeps_throw _, ledger_ask]
  refine .play hMethod ?_ (sendResponse_ok hSent) _ rfl
  rw [congrArg Ledger.auth hLedger]
  exact hAdmits

theorem keeps_handleRecord : Keeps (handleRecord crates w request) :=
  (keeps_orPanic _).bind fun _ => keeps_get fun _ => (keeps_orPanic _).bind fun _ =>
    keeps_sendResponse _

theorem effect_teardown (hMethod : request.method = "TEARDOWN") (s : RtspServerSession) :
    Effect crates.digest w request s.ledger (stateOf (handleTeardown w request s)).ledger := by
  rw [handleTeardown, ledger_exit]
  split
  · rename_i hListens
    exact .teardown hMethod hListens
  · exact .none

/-- Every request has one of the effects, however its handling ends. -/
theorem effect_onRtspRequest (crates : Crates) (w : Surroundings) (request : HttpRequest)
    (s : RtspServerSession) :
    Effect crates.digest w request s.ledger
      (stateOf (onRtspRequest crates w request s)).ledger := by
  simp only [onRtspRequest]
  split
  · rw [handleOptions, keeps_sendResponse]
    exact .none
  split
  · exact effect_describe ‹_› s
  split
  · exact effect_announce ‹_› s
  split
  · exact effect_setup ‹_› s
  split
  · exact effect_play ‹_› s
  split
  · rw [keeps_handleRecord]
    exact .none
  split
  · exact effect_teardown ‹_› s
  · exact .none

end Xiu.Rtsp.Session
