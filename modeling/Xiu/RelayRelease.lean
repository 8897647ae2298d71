import Xiu.ProofKit.Holdings
import Xiu.Rtmp.Session.ClientSession
import Xiu.Rtsp.Session.ClientSession

/-! What the client's sessions of relays take of the hub, and what they give back.  A session of RTMP
gives nothing back, so it must not be granted anything; one of RTSP gives its publication back when it
has been told to stop, so nothing may fail before, and it must have its identifier then. -/

namespace Xiu

open Common ProofKit StreamHub

/-- A publication, or a subscription, and the identifier of who has it. -/
structure Holding where
  isPull : Bool
  identifier : StreamIdentifier
  id : Uuid
  deriving DecidableEq

/-- What an event and the hub's answer to it take. -/
def Holding.taken : StreamHubEvent × Bool → Option Holding
  | (.publish identifier info, true) => some ⟨false, identifier, info.id⟩
  | (.subscribe identifier info, true) => some ⟨true, identifier, info.id⟩
  | _ => none

/-- What an event gives back. -/
def Holding.given : StreamHubEvent × Bool → Option Holding
  | (.unPublish identifier info, _) => some ⟨false, identifier, info.id⟩
  | (.unSubscribe identifier info, _) => some ⟨true, identifier, info.id⟩
  | _ => none

def holdings : Dealing (StreamHubEvent × Bool) Holding := ⟨Holding.taken, Holding.given⟩

theorem refused_takes_nothing (event : StreamHubEvent) : holdings.takes (event, false) = none := by
  cases event <;> rfl

/-! ### RTMP -/

namespace Rtmp.Session.ClientSession

open Flv.Amf0 Messages

def log (s : ClientSession) : List (StreamHubEvent × Bool) :=
  s.common.sent.map fun e => (e.event, e.accepted)

/-- The code of a status message. -/
def statusCode : RtmpMessageData → Option String
  | .amf0Command commandName _ _ (.object obj :: _) =>
    if (asText commandName).getD "" = "onStatus" then (obj.lookup "code").bind asText else none
  | _ => none

/-- The hub does not grant what a status message makes the session ask for. -/
def Ungranted (_ : Running) : Move → Prop
  | .message w message => statusCode message = some "NetStream.Publish.Start" ∨
      statusCode message = some "NetStream.Play.Start" → ¬(w.hubListens ∧ w.accepted)
  | _ => True

/-- A handler after which the session has taken nothing if it had taken nothing before. -/
def TakesNothing {α : Type} (x : Handler α) : Prop :=
  ∀ s, (∀ e ∈ s.log, holdings.takes e = none) → ∀ e ∈ (stateOf (x s)).log, holdings.takes e = none

section TakesNothing

variable {α β : Type} {x : Handler α} {f : α → Handler β} {w : Surroundings}

theorem takesNothing_pure (a : α) : TakesNothing (pure a : Handler α) := fun _ h => h

theorem takesNothing_throw (e : Stop) : TakesNothing (throw e : Handler α) := fun _ h => h

theorem TakesNothing.bind (hx : TakesNothing x) (hf : ∀ a, TakesNothing (f a)) :
    TakesNothing (x >>= f) := by
  intro s h
  have hFirst := hx s h
  cases hResult : x s with
  | ok a s1 =>
    rw [hResult] at hFirst
    rw [bind_of_ok hResult]
    exact hf a s1 hFirst
  | error e s1 =>
    rw [hResult] at hFirst
    rw [bind_of_error hResult]
    exact hFirst

theorem takesNothing_get {f : ClientSession → Handler β} (h : ∀ s, TakesNothing (f s)) :
    TakesNothing (get >>= f) := fun s => h s s

theorem takesNothing_setState (state : ClientSessionState) : TakesNothing (setState state) :=
  fun _ h => h

theorem takesNothing_writeAll (messages : List Written) : TakesNothing (writeAll w messages) := by
  intro s h
  simp only [writeAll, onPart]
  cases Io.writeAll w messages s.io <;> exact h

theorem takesNothing_act : TakesNothing (act w) :=
  takesNothing_get fun _ => (takesNothing_writeAll _).bind fun _ => takesNothing_setState _

/-- An action on the common part that has told the hub at most one event, which was refused. -/
theorem takesNothing_onCommon {x : EStateM Stop Common α}
    (h : ∀ common, ∃ events : List StreamHubEvent, (stateOf (x common)).sent =
      common.sent ++ events.map fun event => ⟨event, false⟩) : TakesNothing (onCommon x) := by
  intro s hNone e hMem
  obtain ⟨events, hSent⟩ := h s.common
  have hCommon : (stateOf (onCommon x s)).common = stateOf (x s.common) := by
    simp only [onCommon, onPart]
    cases x s.common <;> rfl
  rw [log, hCommon, hSent, List.map_append, List.map_map] at hMem
  rcases List.mem_append.mp hMem with hOld | hNew
  · exact hNone e hOld
  · obtain ⟨event, -, rfl⟩ := List.mem_map.mp hNew
    exact refused_takes_nothing event

theorem sent_subscribe (hGrants : ¬(w.hubListens ∧ w.accepted)) (appName streamName : String)
    (common : Common) : ∃ events : List StreamHubEvent,
      (stateOf (Common.subscribeFromStreamHub w appName streamName common)).sent =
        common.sent ++ events.map fun event => ⟨event, false⟩ := by
  simp only [Common.subscribeFromStreamHub, bind_get]
  cases hListens : w.hubListens with
  | false => exact ⟨[], (List.append_nil _).symm⟩
  | true =>
    have hRefused : w.accepted = false := by simpa [hListens] using hGrants
    rw [if_pos rfl, hRefused]
    exact ⟨[_], rfl⟩

theorem sent_publish (hGrants : ¬(w.hubListens ∧ w.accepted)) (appName streamName : String)
    (common : Common) : ∃ events : List StreamHubEvent,
      (stateOf (Common.publishToStreamHub w appName streamName common)).sent =
        common.sent ++ events.map fun event => ⟨event, false⟩ := by
  simp only [Common.publishToStreamHub, bind_get]
  cases hListens : w.hubListens with
  | false => exact ⟨[], (List.append_nil _).symm⟩
  | true =>
    have hRefused : w.accepted = false := by simpa [hListens] using hGrants
    rw [if_pos rfl, hRefused]
    exact ⟨[_], rfl⟩

theorem takesNothing_onStatus {obj : List (String × Amf0ValueType)}
    (h : (obj.lookup "code").bind asText = some "NetStream.Publish.Start" ∨
      (obj.lookup "code").bind asText = some "NetStream.Play.Start" →
        ¬(w.hubListens ∧ w.accepted)) : TakesNothing (onStatus w obj) := by
  rw [onStatus]
  split
  · exact takesNothing_pure _
  rename_i codeInfo hCode
  split
  · rename_i hStart
    have hGrants := h (.inl (hStart ▸ hCode))
    exact (takesNothing_setState _).bind fun _ => takesNothing_get fun s =>
      takesNothing_onCommon (sent_subscribe hGrants _ _)
  split
  · rename_i hStart
    have hGrants := h (.inr (hStart ▸ hCode))
    exact takesNothing_get fun s => takesNothing_onCommon (sent_publish hGrants _ _)
  · exact takesNothing_pure _

theorem takesNothing_command {commandName transactionId commandObject : Amf0ValueType}
    {others : List Amf0ValueType}
    (h : statusCode (.amf0Command commandName transactionId commandObject others) =
        some "NetStream.Publish.Start" ∨
      statusCode (.amf0Command commandName transactionId commandObject others) =
        some "NetStream.Play.Start" → ¬(w.hubListens ∧ w.accepted)) :
    TakesNothing (onAmf0CommandMessage w commandName transactionId others) := by
  simp only [onAmf0CommandMessage]
  split
  · split
    · exact takesNothing_get fun s => (takesNothing_writeAll _).bind fun _ => takesNothing_setState _
    split
    · exact takesNothing_get fun s => takesNothing_setState _
    · exact takesNothing_pure _
  split
  · rename_i hName
    cases others with
    | nil => exact takesNothing_throw _
    | cons first rest =>
      cases first with
      | object obj =>
        change TakesNothing (onStatus w obj)
        refine takesNothing_onStatus ?_
        simpa only [statusCode, hName, if_true] using h
      | _ => exact takesNothing_throw _
  · exact takesNothing_pure _

theorem takesNothing_processMessages {message : RtmpMessageData} {c : Running}
    (h : Ungranted c (.message w message)) : TakesNothing (processMessages w message) := by
  have hMedia : TakesNothing (onMedia w) := by
    rw [onMedia]
    split
    · exact takesNothing_pure _
    · exact takesNothing_throw _
  cases message with
  | amf0Command commandName transactionId commandObject others => exact takesNothing_command h
  | setPeerBandwidth properties => exact takesNothing_writeAll _
  | audioData data => exact hMedia
  | videoData data => exact hMedia
  | amfData rawData => exact hMedia
  | _ => exact takesNothing_pure _

end TakesNothing

theorem session_after (phase : Phase) (r : EStateM.Result Stop ClientSession Unit) :
    (Running.after phase r).session = stateOf r := by
  cases r with
  | ok u s => rfl
  | error e s => cases e <;> rfl

theorem step_takes_nothing {c c' : Running} {move : Move} (h : c.step move = some c')
    (hUngranted : Ungranted c move) (hNone : ∀ e ∈ c.session.log, holdings.takes e = none) :
    ∀ e ∈ c'.session.log, holdings.takes e = none := by
  cases move with
  | handshake ok =>
    obtain ⟨-, hNext⟩ := Option.ite_none_right_eq_some.mp h
    cases ok <;> cases hNext <;> exact hNone
  | turn w received =>
    obtain ⟨-, hNext⟩ := Option.ite_none_right_eq_some.mp h
    cases hNext
    rw [session_after]
    refine TakesNothing.bind takesNothing_act (fun _ => ?_) _ hNone
    cases received
    · exact takesNothing_throw _
    · exact takesNothing_pure _
  | message w message =>
    obtain ⟨-, hNext⟩ := Option.ite_none_right_eq_some.mp h
    cases hNext
    rw [session_after]
    exact takesNothing_processMessages (c := c) hUngranted _ hNone
  | parseFails | drained | pushFails =>
    obtain ⟨-, hNext⟩ := Option.ite_none_right_eq_some.mp h
    cases hNext
    exact hNone

theorem ungranted_repaid {c : Running} (h : (system.guard Ungranted).Reached c) :
    holdings.Repaid c.session.log := by
  refine .of_none ?_
  refine System.Reached.invariant
    (I := fun c : Running => ∀ e ∈ c.session.log, holdings.takes e = none) ?_ ?_ h
  · rintro c ⟨sessionId, remoteAddr, clientType, rawDomainName, appName, rawStreamName, rfl⟩
    exact fun e hMem => nomatch hMem
  · rintro c move c' hNone ⟨hUngranted, hStep⟩
    exact step_takes_nothing hStep hUngranted hNone

end Rtmp.Session.ClientSession

/-! ### RTSP -/

namespace Rtsp.Session.RtspClientSession

def log (s : RtspClientSession) : List (StreamHubEvent × Bool) :=
  s.sent.map fun e => (e.event, e.accepted)

/-- The session has something of the hub. -/
def Holds (c : Running) : Prop := ∃ e ∈ c.session.log, holdings.takes e ≠ none

/-- The request is written, and nothing but a response of status 200, or no response, comes back. -/
def Exchange.Smooth (x : Exchange) : Prop :=
  x.written = true ∧ x.answer ≠ .fails ∧
    ∀ response, x.answer = .response response → response.statusCode = 200

/-- While the session has something of the hub, no exchange fails and no medium does; and when it is
told to stop, the hub listens, the request is written, and the session has the identifier then under
which it has what it has. -/
def Orderly (c : Running) : Move → Prop
  | .exchange x => Holds c → x.Smooth
  | .media outcome => Holds c → outcome ≠ some .error
  | .stop x => Holds c → x.hubListens = true ∧ x.written = true ∧
      ∀ e ∈ c.session.log, ∀ h, holdings.takes e = some h → h.id = idOf x c.session

/-! Handlers that leave alone what the session has told the hub. -/

/-- What the session has told the hub, and for which stream. -/
def base (s : RtspClientSession) : List (StreamHubEvent × Bool) × String × ClientSessionType :=
  (s.log, s.streamName, s.clientType)

def Keeps {α : Type} (h : Handler α) : Prop := ∀ s, (stateOf (h s)).base = s.base

/-- A handler that does not fail, though it may panic. -/
def NoError {α : Type} (h : Handler α) : Prop := ∀ s s', h s ≠ .error .error s'

section Handlers

variable {codings : Codings} {x : Exchange} {α β : Type} {h : Handler α} {f : α → Handler β}

theorem keeps_pure (a : α) : Keeps (pure a : Handler α) := fun _ => rfl

theorem keeps_throw (e : Stop) : Keeps (throw e : Handler α) := fun _ => rfl

theorem keeps_orPanic (o : Option α) : Keeps (orPanic o) := by
  cases o with
  | none => exact keeps_throw _
  | some a => exact keeps_pure a

theorem Keeps.bind (hh : Keeps h) (hf : ∀ a, Keeps (f a)) : Keeps (h >>= f) := fun s =>
  stateOf_bind (R := fun s s' : RtspClientSession => s'.base = s.base) (fun h h' => h'.trans h)
    (hh s) fun a s1 => hf a s1

theorem keeps_get {f : RtspClientSession → Handler β} (h : ∀ s, Keeps (f s)) :
    Keeps (get >>= f) := fun s => h s s

theorem noError_pure (a : α) : NoError (pure a : Handler α) := fun _ _ h => nomatch h

theorem noError_orPanic (o : Option α) : NoError (orPanic o) := by
  cases o with
  | none => exact fun _ _ h => nomatch h
  | some a => exact noError_pure a

theorem noError_modify (g : RtspClientSession → RtspClientSession) :
    NoError (modify g : Handler Unit) := fun _ _ h => nomatch h

theorem NoError.bind (hh : NoError h) (hf : ∀ a, NoError (f a)) : NoError (h >>= f) := by
  intro s s' hError
  rcases bind_eq_error hError with hFirst | ⟨a, s1, -, hNext⟩
  · exact hh s s' hFirst
  · exact hf a s1 s' hNext

theorem noError_get {f : RtspClientSession → Handler β} (h : ∀ s, NoError (f s)) :
    NoError (get >>= f) := fun s => h s s

/-- A request is made without a change but to the counter of requests. -/
theorem genRequest_ok {methodName uriPath : String} {s s' : RtspClientSession} {request : HttpRequest}
    (h : genRequest methodName uriPath s = .ok request s') : ∃ cseq, s' = { s with cseq } := by
  obtain ⟨uri, s1, hUri, hRest⟩ := bind_eq_ok h
  rw [bind_get] at hRest
  obtain ⟨cseq, s2, hCseq, hLast⟩ := bind_eq_ok hRest
  have hSame1 : s1 = s := by
    cases hUnwrapped : Uri.unmarshal uriPath.toList <;> rw [hUnwrapped] at hUri <;> cases hUri
    rfl
  have hSame2 : s2 = s1 := by
    split at hCseq <;> cases hCseq
    rfl
  cases hLast
  rw [hSame2, hSame1]
  exact ⟨cseq, rfl⟩

theorem keeps_genRequest (methodName uriPath : String) : Keeps (genRequest methodName uriPath) :=
  (keeps_orPanic _).bind fun _ => keeps_get fun _ => (keeps_orPanic _).bind fun _ => fun _ => rfl

theorem noError_genRequest (methodName uriPath : String) : NoError (genRequest methodName uriPath) :=
  (noError_orPanic _).bind fun _ => noError_get fun _ => (noError_orPanic _).bind fun _ =>
    (noError_modify _).bind fun _ => noError_pure _

theorem keeps_sendResquest (request : HttpRequest) : Keeps (sendResquest x request) := by
  simp only [sendResquest]
  split
  · exact fun _ => rfl
  · exact keeps_throw _

theorem noError_sendResquest (hWritten : x.written = true) (request : HttpRequest) :
    NoError (sendResquest x request) := by
  rw [sendResquest, if_pos hWritten]
  exact noError_modify _

theorem keeps_sendFor (methodName : String) (headers : List (String × String)) :
    Keeps (sendFor x methodName headers) :=
  keeps_get fun _ => (keeps_genRequest _ _).bind fun _ => keeps_sendResquest _

theorem noError_sendFor (hWritten : x.written = true) (methodName : String)
    (headers : List (String × String)) : NoError (sendFor x methodName headers) :=
  noError_get fun _ => (noError_genRequest _ _).bind fun _ => noError_sendResquest hWritten _

/-- A request leaves the session's identifier. -/
theorem sendFor_ok {methodName : String} {headers : List (String × String)} {u : Unit}
    {s s' : RtspClientSession} (h : sendFor x methodName headers s = .ok u s') :
    s'.base = s.base ∧ s'.sessionId = s.sessionId := by
  simp only [sendFor, bind_get] at h
  obtain ⟨request, s1, hRequest, hSent⟩ := bind_eq_ok h
  obtain ⟨cseq, rfl⟩ := genRequest_ok hRequest
  simp only [sendResquest] at hSent
  split at hSent
  · cases hSent
    exact ⟨rfl, rfl⟩
  · cases hSent

theorem keeps_onSetup (response : HttpResponse) : Keeps (onSetup response) := by
  refine keeps_get fun s => ?_
  split
  · split
    · exact fun _ => rfl
    · exact keeps_pure _
  · exact keeps_pure _

theorem noError_onSetup (response : HttpResponse) : NoError (onSetup response) := by
  refine noError_get fun s => ?_
  split
  · split
    · exact noError_modify _
    · exact noError_pure _
  · exact noError_pure _

theorem keeps_setupTransport (media : Sdp.SdpMediaInfo) (mediaControl : String) :
    Keeps (setupTransport x media mediaControl) := by
  refine keeps_get fun s => ?_
  split
  · refine Keeps.bind ((keeps_orPanic _).bind fun index => ?_) fun _ =>
      Keeps.bind (fun _ => rfl) fun _ => keeps_pure _
    split
    · exact keeps_pure _
    · exact (keeps_orPanic _).bind fun _ => keeps_pure _
  · exact keeps_pure _

theorem noError_setupTransport (media : Sdp.SdpMediaInfo) (mediaControl : String) :
    NoError (setupTransport x media mediaControl) := by
  refine noError_get fun s => ?_
  split
  · refine NoError.bind ((noError_orPanic _).bind fun index => ?_) fun _ =>
      (noError_modify _).bind fun _ => noError_pure _
    split
    · exact noError_pure _
    · exact (noError_orPanic _).bind fun _ => noError_pure _
  · exact noError_pure _

/-- No response but that to DESCRIBE is about the hub. -/
theorem keeps_receiveResponse {methodName : String} (hOther : methodName ≠ "DESCRIBE") :
    Keeps (receiveResponse codings x methodName) := by
  rw [receiveResponse]
  split
  · exact keeps_throw _
  · exact keeps_pure _
  rename_i response hResponse
  by_cases hStatus : response.statusCode ≠ 200
  · rw [if_pos hStatus]
    exact keeps_throw _
  rw [if_neg hStatus, if_neg hOther]
  split
  · exact keeps_onSetup _
  · exact keeps_pure _

theorem noError_receiveResponse {methodName : String} (hOther : methodName ≠ "DESCRIBE")
    (hSmooth : x.Smooth) : NoError (receiveResponse codings x methodName) := by
  rw [receiveResponse]
  split
  · rename_i hFails
    exact absurd hFails hSmooth.2.1
  · exact noError_pure _
  rename_i response hResponse
  rw [if_neg (not_not.mpr (hSmooth.2.2 response hResponse)), if_neg hOther]
  split
  · exact noError_onSetup _
  · exact noError_pure _

theorem keeps_sendSetup (media : Sdp.SdpMediaInfo) : Keeps (sendSetup codings x media) :=
  keeps_get fun _ => (keeps_genRequest _ _).bind fun _ => (keeps_setupTransport _ _).bind fun _ =>
    (keeps_sendResquest _).bind fun _ => keeps_receiveResponse (by decide)

theorem noError_sendSetup (hSmooth : x.Smooth) (media : Sdp.SdpMediaInfo) :
    NoError (sendSetup codings x media) :=
  noError_get fun _ => (noError_genRequest _ _).bind fun _ =>
    (noError_setupTransport _ _).bind fun _ => (noError_sendResquest hSmooth.1 _).bind fun _ =>
      noError_receiveResponse (by decide) hSmooth

theorem keeps_exchange {methodName : String} {headers : List (String × String)}
    (hOther : methodName ≠ "DESCRIBE") :
    Keeps (sendFor x methodName headers >>= fun _ => receiveResponse codings x methodName) :=
  (keeps_sendFor _ _).bind fun _ => keeps_receiveResponse hOther

theorem noError_exchange {methodName : String} {headers : List (String × String)}
    (hOther : methodName ≠ "DESCRIBE") (hSmooth : x.Smooth) :
    NoError (sendFor x methodName headers >>= fun _ => receiveResponse codings x methodName) :=
  (noError_sendFor hSmooth.1 _ _).bind fun _ => noError_receiveResponse hOther hSmooth

end Handlers

/-! Steps. -/

/-- The session has taken nothing, or published its stream. -/
def Took (s : RtspClientSession) : Prop :=
  s.log = [] ∨ s.clientType = .pull ∧ ∃ info, s.log = [(.publish s.identifier info, true)]

/-- What the session has of the hub in each stage. -/
def Running.Accounted (c : Running) : Prop :=
  match c.stage with
  | .options | .announce => c.session.log = []
  | .describe => c.session.log = [] ∧ c.session.clientType = .pull
  | .setup _ _ | .play | .record | .streaming => Took c.session
  | .ended => holdings.Repaid c.session.log
  | .panicked => True

variable {codings : Codings} {x : Exchange} {s : RtspClientSession}

theorem repaid_nil : holdings.Repaid [] := .of_none fun _ h => nomatch h

theorem repaid_one {event : StreamHubEvent} {accepted : Bool}
    (h : holdings.takes (event, accepted) = none) : holdings.Repaid [(event, accepted)] :=
  .of_none fun e hMem => by rwa [List.mem_singleton.mp hMem]

theorem took_of_base {s' : RtspClientSession} (hBase : s'.base = s.base) (h : Took s) : Took s' := by
  obtain ⟨hLog, hRest⟩ := Prod.ext_iff.mp hBase
  obtain ⟨hName, hType⟩ := Prod.ext_iff.mp hRest
  rw [Took, show s'.log = s.log from hLog, show s'.clientType = s.clientType from hType, identifier,
    show s'.streamName = s.streamName from hName]
  exact h

theorem accounted_setupStage {medias : List Sdp.SdpMediaInfo} (h : Took s) :
    (⟨s, setupStage s medias⟩ : Running).Accounted := by
  cases medias with
  | cons media rest => exact h
  | nil =>
    simp only [setupStage]
    cases s.clientType <;> exact h

/-- A handler that keeps what the session has told the hub, and fails only when it has taken
nothing. -/
theorem accounted_after {handler : Handler Unit} {next : RtspClientSession → Stage}
    (hKeeps : Keeps handler) (hTook : Took s) (hFails : s.log ≠ [] → NoError handler)
    (hNext : ∀ s', s'.base = s.base → Took s' → (⟨s', next s'⟩ : Running).Accounted) :
    (Running.after next (handler s)).Accounted := by
  have hBase := hKeeps s
  cases hResult : handler s with
  | ok u s' =>
    rw [hResult] at hBase
    exact hNext s' hBase (took_of_base hBase hTook)
  | error e s' =>
    rw [hResult] at hBase
    cases e with
    | panic => trivial
    | error =>
      have hNone : s.log = [] := by
        by_contra hSome
        exact hFails hSome s s' hResult
      have hLog : s'.log = s.log := congrArg Prod.fst hBase
      change holdings.Repaid s'.log
      rw [hLog, hNone]
      exact repaid_nil

theorem holds_of_took {c : Running} (h : Took c.session) (hSome : c.session.log ≠ []) : Holds c := by
  rcases h with hNone | ⟨-, info, hOne⟩
  · exact absurd hNone hSome
  · refine ⟨(.publish c.session.identifier info, true), ?_, fun h => nomatch h⟩
    rw [hOne]
    exact List.mem_singleton_self _

/-- A session that pulls, and has told the hub nothing. -/
def Fresh (s : RtspClientSession) : Prop := s.log = [] ∧ s.clientType = .pull

/-- What a handler for DESCRIBE may leave. -/
def Outcome (r : EStateM.Result Stop RtspClientSession Unit) : Prop :=
  match r with
  | .ok _ s' => Took s'
  | .error .error s' => holdings.Repaid s'.log
  | .error .panic _ => True

theorem outcome_bind {α : Type} {h : Handler α} {f : α → Handler Unit} (hKeeps : Keeps h)
    (hFresh : Fresh s) (hf : ∀ a s1, Fresh s1 → Outcome (f a s1)) : Outcome ((h >>= f) s) := by
  have hBase := hKeeps s
  cases hResult : h s with
  | ok a s1 =>
    rw [hResult] at hBase
    rw [bind_of_ok hResult]
    obtain ⟨hLog, hRest⟩ := Prod.ext_iff.mp hBase
    obtain ⟨-, hType⟩ := Prod.ext_iff.mp hRest
    exact hf a s1 ⟨hLog.trans hFresh.1, hType.trans hFresh.2⟩
  | error e s1 =>
    rw [hResult] at hBase
    rw [bind_of_error hResult]
    cases e with
    | panic => trivial
    | error =>
      have hLog : s1.log = [] := (congrArg Prod.fst hBase).trans hFresh.1
      change holdings.Repaid s1.log
      rw [hLog]
      exact repaid_nil

theorem outcome_publish (hFresh : Fresh s) : Outcome (publish x s) := by
  have hRepaid : holdings.Repaid s.log := by
    rw [hFresh.1]
    exact repaid_nil
  have hSent : ∀ accepted : Bool, ({ s with
      sent := s.sent ++ [⟨.publish s.identifier (getPublisherInfo x s), accepted⟩] } :
        RtspClientSession).log = [(.publish s.identifier (getPublisherInfo x s), accepted)] := by
    intro accepted
    have hNone : s.sent.map (fun e => (e.event, e.accepted)) = [] := hFresh.1
    simp only [log, List.map_append, hNone, List.map_cons, List.map_nil, List.nil_append]
  rw [publish]
  split
  · rw [bind_modify]
    cases x.accepted with
    | true => exact .inr ⟨hFresh.2, _, hSent true⟩
    | false =>
      change holdings.Repaid _
      rw [hSent false]
      exact repaid_one rfl
  · exact hRepaid

theorem outcome_describe (hFresh : Fresh s) : Outcome (sendDescribe codings x s) := by
  refine outcome_bind (keeps_sendFor _ _) hFresh fun u s1 hFresh => ?_
  have hRepaid : holdings.Repaid s1.log := by
    rw [hFresh.1]
    exact repaid_nil
  have hTook : Took s1 := .inl hFresh.1
  rw [receiveResponse]
  cases hAnswer : x.answer with
  | fails => exact hRepaid
  | corrupted => exact hTook
  | response response =>
  dsimp only
  by_cases hStatus : response.statusCode ≠ 200
  · rw [if_pos hStatus]
    exact hRepaid
  rw [if_neg hStatus, if_pos rfl, onDescribe]
  cases hBody : response.body with
  | none => exact hTook
  | some body =>
    refine outcome_bind (keeps_orPanic _) hFresh fun sdp s2 hFresh => ?_
    refine outcome_bind (fun _ => rfl) hFresh fun u s3 hFresh => ?_
    refine outcome_bind ?_ hFresh fun u s4 hFresh => outcome_publish hFresh
    exact keeps_get fun _ => (keeps_orPanic _).bind fun _ => fun _ => rfl

theorem accounted_of_outcome {r : EStateM.Result Stop RtspClientSession Unit}
    {next : RtspClientSession → Stage} (h : Outcome r)
    (hNext : ∀ s', Took s' → (⟨s', next s'⟩ : Running).Accounted) :
    (Running.after next r).Accounted := by
  cases r with
  | ok u s' => exact hNext s' h
  | error e s' =>
    cases e with
    | error => exact h
    | panic => trivial

theorem accounted_exchange {c c' : Running} (h : c.step codings (.exchange x) = some c')
    (hOrderly : Orderly c (.exchange x)) (hAccounted : c.Accounted) : c'.Accounted := by
  obtain ⟨s, stage⟩ := c
  simp only [Running.step] at h
  cases stage with
  | options =>
    cases h
    have hNone : s.log = [] := hAccounted
    refine accounted_after (keeps_exchange (by decide)) (.inl hNone)
      (fun hSome => absurd hNone hSome) fun s' hBase _ => ?_
    have hLog : s'.log = [] := (congrArg Prod.fst hBase).trans hNone
    cases hType : s'.clientType with
    | pull => simpa only [Running.Accounted, hType] using ⟨hLog, trivial⟩
    | push => simpa only [Running.Accounted, hType] using hLog
  | describe =>
    cases h
    exact accounted_of_outcome (outcome_describe hAccounted) fun s' => accounted_setupStage
  | announce =>
    cases h
    have hNone : s.log = [] := hAccounted
    exact accounted_after (keeps_sendFor _ _) (.inl hNone) (fun hSome => absurd hNone hSome)
      fun s' _ => accounted_setupStage
  | setup media rest =>
    cases h
    have hTook : Took s := hAccounted
    exact accounted_after (keeps_sendSetup media) hTook
      (fun hSome => noError_sendSetup (hOrderly (holds_of_took hTook hSome)) media)
      fun s' _ => accounted_setupStage
  | play =>
    cases h
    have hTook : Took s := hAccounted
    exact accounted_after (keeps_exchange (by decide)) hTook
      (fun hSome => noError_exchange (by decide) (hOrderly (holds_of_took hTook hSome)))
      fun s' _ hTook' => hTook'
  | record =>
    cases h
    have hTook : Took s := hAccounted
    exact accounted_after (keeps_sendFor _ _) hTook
      (fun hSome => noError_sendFor (hOrderly (holds_of_took hTook hSome)).1 _ _)
      fun s' _ hTook' => hTook'
  | streaming | ended | panicked => cases h

theorem takes_exitEvent : holdings.takes (exitEvent x s, true) = none := by
  rw [exitEvent]
  cases s.clientType <;> rfl

/-- The exit of a session gives back what it has taken, if its identifier is the one that it had
then. -/
theorem repaid_exit (hTook : Took s) (hOrderly : s.log ≠ [] → x.hubListens = true ∧
    ∀ e ∈ s.log, ∀ h, holdings.takes e = some h → h.id = idOf x s) :
    holdings.Repaid (stateOf (exit x s)).log := by
  have hExit : (stateOf (exit x s)).log =
      if x.hubListens then s.log ++ [(exitEvent x s, true)] else s.log := by
    rw [exit]
    split
    · exact List.map_append
    · rfl
  rw [hExit]
  rcases hTook with hNone | ⟨hPull, info, hOne⟩
  · rw [hNone]
    split
    · exact repaid_one takes_exitEvent
    · exact repaid_nil
  · obtain ⟨hListens, hId⟩ := hOrderly (by rw [hOne]; exact List.cons_ne_nil _ _)
    rw [if_pos hListens, hOne]
    refine Dealing.repaid_pair rfl ?_ takes_exitEvent
    have hSame : info.id = idOf x s := hId _ (by rw [hOne]; exact List.mem_singleton_self _) _ rfl
    change Holding.given (exitEvent x s, true) = _
    rw [exitEvent, hPull, hSame]
    rfl

theorem accounted_stop {c c' : Running} (h : c.step codings (.stop x) = some c')
    (hOrderly : Orderly c (.stop x)) (hAccounted : c.Accounted) : c'.Accounted := by
  obtain ⟨hStage, hNext⟩ := Option.ite_none_right_eq_some.mp h
  cases hNext
  have hTook : Took c.session := by
    rw [Running.Accounted, hStage] at hAccounted
    exact hAccounted
  have hHolds := holds_of_took hTook
  rw [sendTeardown]
  have hBase := keeps_sendFor (x := x) "TEARDOWN" [] c.session
  cases hSent : sendFor x "TEARDOWN" [] c.session with
  | error e s1 =>
    rw [bind_of_error hSent]
    rw [hSent] at hBase
    cases e with
    | panic => trivial
    | error =>
      have hNone : c.session.log = [] := by
        by_contra hSome
        exact noError_sendFor (hOrderly (hHolds hSome)).2.1 _ _ _ _ hSent
      have hLog : s1.log = [] := (congrArg Prod.fst hBase).trans hNone
      change holdings.Repaid s1.log
      rw [hLog]
      exact repaid_nil
  | ok u s1 =>
    rw [bind_of_ok hSent]
    obtain ⟨hBase, hId⟩ := sendFor_ok hSent
    have hLog : s1.log = c.session.log := congrArg Prod.fst hBase
    have hIdOf : idOf x s1 = idOf x c.session := by rw [idOf, idOf, hId]
    have hRepaid := repaid_exit (x := x) (took_of_base hBase hTook) fun hSome => by
      rw [hLog] at hSome ⊢
      rw [hIdOf]
      exact ⟨(hOrderly (hHolds hSome)).1, (hOrderly (hHolds hSome)).2.2⟩
    cases hExit : exit x s1 with
    | ok u s2 =>
      rw [hExit] at hRepaid
      exact hRepaid
    | error e s2 =>
      rw [hExit] at hRepaid
      cases e with
      | error => exact hRepaid
      | panic => trivial

theorem accounted_step {c c' : Running} {move : Move} (h : c.step codings move = some c')
    (hOrderly : Orderly c move) (hAccounted : c.Accounted) : c'.Accounted := by
  cases move with
  | exchange x => exact accounted_exchange h hOrderly hAccounted
  | stop x => exact accounted_stop h hOrderly hAccounted
  | media outcome =>
    obtain ⟨hStage, hNext⟩ := Option.ite_none_right_eq_some.mp h
    have hTook : Took c.session := by
      rw [Running.Accounted, hStage] at hAccounted
      exact hAccounted
    rcases outcome with _ | e
    · cases hNext
      exact hAccounted
    · cases e with
      | panic =>
        cases hNext
        trivial
      | error =>
        cases hNext
        have hNone : c.session.log = [] := by
          by_contra hSome
          exact hOrderly (holds_of_took hTook hSome) rfl
        change holdings.Repaid c.session.log
        rw [hNone]
        exact repaid_nil

theorem orderly_repaid {c : Running} (h : ((system codings).guard Orderly).Reached c)
    (hEnded : c.stage = .ended) : holdings.Repaid c.session.log := by
  have hAccounted : c.Accounted := by
    refine System.Reached.invariant ?_ ?_ h
    · rintro c ⟨address, streamName, protocolType, clientType, rfl⟩
      rfl
    · rintro c move c' hc ⟨hOrderly, hStep⟩
      exact accounted_step hStep hOrderly hc
  rw [Running.Accounted, hEnded] at hAccounted
  exact hAccounted

end Rtsp.Session.RtspClientSession

/-! ### Both -/

/-- Whatever a client's session of a relay has been granted by the hub when its `run` returns, it has
given back once and under the same identifiers: a session of RTMP that has been granted nothing, and
an orderly session of RTSP. -/
theorem relay_sessions_repay (codings : Rtsp.Codings) :
    (∀ c, (Rtmp.Session.ClientSession.system.guard Rtmp.Session.ClientSession.Ungranted).Reached c →
      c.phase = .ended → holdings.Repaid c.session.log) ∧
    (∀ c, ((Rtsp.Session.RtspClientSession.system codings).guard
        Rtsp.Session.RtspClientSession.Orderly).Reached c →
      c.stage = .ended → holdings.Repaid c.session.log) := by
  refine ⟨fun c h _ => ?_, fun c h hEnded => ?_⟩
  · exact Rtmp.Session.ClientSession.ungranted_repaid h
  · exact Rtsp.Session.RtspClientSession.orderly_repaid h hEnded

/-- A session of RTSP publishes what it pulls, and is told to stop in the same second. -/
theorem stopped_pull_repaid :
    ∃ c : Rtsp.Session.RtspClientSession.Running, c.session.log.length = 2 ∧
      holdings.Repaid c.session.log := by
  let codings : Rtsp.Codings := ⟨fun _ => none, fun _ => [], fun _ => none, fun _ => []⟩
  let x (body : Option String) : Rtsp.Session.RtspClientSession.Exchange :=
    ⟨1700000000, true, true, true, .response ⟨"RTSP/1.0", 200, "OK", [], body⟩, false⟩
  let start : Rtsp.Session.RtspClientSession.Running :=
    ⟨.new "10.0.0.2" "live/cam" .tcp .pull, .options⟩
  let id : Uuid := Uuid.new .zero 1700000000 fun _ => 0
  obtain ⟨c1, h1, c2, h2, c3, h3, ⟨hLog3, hId3⟩, c4, h4, hEnded, hLength⟩ :
      ∃ c1 ∈ start.step codings (.exchange (x none)),
      ∃ c2 ∈ c1.step codings (.exchange (x (some "v=0\r\n"))),
      ∃ c3 ∈ c2.step codings (.exchange (x none)),
      (c3.session.log = [(.publish (.rtsp "live/cam") ⟨id, .rtspRelay, .frame⟩, true)] ∧
        id = Rtsp.Session.RtspClientSession.idOf (x none) c3.session) ∧
      ∃ c4 ∈ c3.step codings (.stop (x none)), c4.stage = .ended ∧ c4.session.log.length = 2 := by
    decide +kernel
  have hSmooth : ∀ body, (x body).Smooth := by
    intro body
    refine ⟨rfl, (nomatch ·), fun response h => ?_⟩
    cases h
    rfl
  have hStop : Rtsp.Session.RtspClientSession.Orderly c3 (.stop (x none)) := by
    refine fun _ => ⟨rfl, rfl, fun e hMem hold hTakes => ?_⟩
    rw [hLog3] at hMem
    obtain rfl := List.mem_singleton.mp hMem
    cases hTakes
    exact hId3
  have hReached : ((Rtsp.Session.RtspClientSession.system codings).guard
      Rtsp.Session.RtspClientSession.Orderly).Reached c4 :=
    ⟨start, [.exchange (x none), .exchange (x (some "v=0\r\n")), .exchange (x none),
      .stop (x none)], ⟨_, _, _, _, rfl⟩, .cons ⟨fun _ => hSmooth _, h1⟩ (.cons ⟨fun _ => hSmooth _, h2⟩
      (.cons ⟨fun _ => hSmooth _, h3⟩ (.cons ⟨hStop, h4⟩ (.nil _))))⟩
  exact ⟨c4, hLength, (relay_sessions_repay codings).2 c4 hReached hEnded⟩

/-- A session of RTMP that pulls a stream, and loses its connection. -/
theorem pulled_stream_kept : ¬∀ c, Rtmp.Session.ClientSession.system.Reached c → c.phase = .ended →
    holdings.Repaid c.session.log := by
  intro h
  let w : Rtmp.Session.Surroundings := ⟨true, true, fun _ => true, none⟩
  let id : Uuid := Uuid.new .four 1700000000 fun _ => 0
  let status : Rtmp.Messages.RtmpMessageData := .amf0Command (.utf8String "onStatus") (.number 0)
    .null [.object [("code", .utf8String "NetStream.Play.Start")]]
  let start : Rtmp.Session.ClientSession.Running :=
    ⟨.new id none .pull "10.0.0.2:1935" "live" "cam", .looping⟩
  obtain ⟨c1, h1, c2, h2, c3, h3, c4, h4, hEnded, hLog⟩ : ∃ c1 ∈ start.step (.handshake true),
      ∃ c2 ∈ c1.step (.turn w true), ∃ c3 ∈ c2.step (.message w status), ∃ c4 ∈ c3.step .parseFails,
      c4.phase = .ended ∧
        c4.session.log = [(.publish (.rtmp "live" "cam") ⟨id, .rtmpRelay, .frame⟩, true)] := by
    decide +kernel
  have hReached : Rtmp.Session.ClientSession.system.Reached c4 :=
    ⟨start, _, ⟨_, _, _, _, _, _, rfl⟩, .cons h1 (.cons h2 (.cons h3 (.cons h4 (.nil _))))⟩
  have hOnce := h c4 hReached hEnded [] _ [] _ hLog rfl
  cases hOnce

end Xiu
