import Xiu.Webrtc.Server

/-! What becomes of the streams that WebRTC sessions publish and subscribe to.  A stream is taken down
by a DELETE for its publisher, and a session that fails gives back what it holds, as long as every
DELETE names the session whose stream it names, nothing fails after a publication, and `handle_whep`
does not fail after a subscription. -/

namespace Xiu.Webrtc

open Common ProofKit StreamHub

/-- A session has published a stream. -/
def WebRTCServerSession.Published (s : WebRTCServerSession) (appName streamName : String) : Prop :=
  s.kind = .whip ∧ s.stage.Succeeded ∧ s.appName = appName ∧ s.streamName = streamName

/-- `handle_whip`, `handle_whep` or sending the response has failed. -/
def WebRTCServerSession.Broken (s : WebRTCServerSession) : Prop :=
  s.stage = .failed ∨ (s.stage.Handled ∧ s.peerConnection = none)

namespace WebRTCServer

/-- A DELETE that carries the identifier of a session that has published the stream it names. -/
def Owns (server : WebRTCServer) (request : HttpRequest) (appName streamName : String) : Prop :=
  ∃ s ∈ server.sessions, s.Published appName streamName ∧ sessionIdOf request = some s.sessionId

/-- The session has unpublished its stream; or it has unsubscribed, or its task will as soon as the
peer connection is closed. -/
def GivenBack (server : WebRTCServer) (i : Nat) (s : WebRTCServerSession) : Prop :=
  match s.kind with
  | .whip => ∃ e ∈ server.sent, e.sender = .post i ∧ e.event = .unPublish s.identifier s.publisherInfo
  | .whep => (s.watching ∧ ∃ state, s.peerConnection = some state ∧ state ≠ .closed) ∨
      ∃ e ∈ server.sent, e.sender = .post i ∧ e.event = .unSubscribe s.identifier s.subscriberInfo

/-- A DELETE of a stream is its publisher's, nothing fails after a publication, and after a
subscription at most the response does. -/
def Orderly (server : WebRTCServer) : Move → Prop
  | .request _ _ request => ∀ t appName streamName, request.method = "DELETE" →
      target request = some (t, appName, streamName) → kindOf t = some .whip →
        server.Owns request appName streamName
  | .handled _ ok => ok = true
  | .respond i ok => ok = true ∨ ∀ s, server.sessions[i]? = some s → s.kind = .whep
  | _ => True

/-! ### What a step leaves -/

/-- What a session keeps for good. -/
structure Extends (s s' : WebRTCServerSession) : Prop where
  kind : s'.kind = s.kind
  appName : s'.appName = s.appName
  streamName : s'.streamName = s.streamName
  sessionId : s'.sessionId = s.sessionId
  request : s'.request = s.request
  succeeded : s.stage.Succeeded → s'.stage.Succeeded

theorem Extends.refl (s : WebRTCServerSession) : Extends s s := ⟨rfl, rfl, rfl, rfl, rfl, id⟩

/-- Sessions and events stay. -/
structure Keeps (server server' : WebRTCServer) : Prop where
  auth : server'.auth = server.auth
  sessions : ∀ (i : Nat) (s : WebRTCServerSession), server.sessions[i]? = some s →
    ∃ s', server'.sessions[i]? = some s' ∧ Extends s s'
  sent : ∀ e ∈ server.sent, e ∈ server'.sent

theorem getElem?_setSession {server : WebRTCServer} {i j : Nat} {s s' : WebRTCServerSession}
    (h : (server.setSession i s').sessions[j]? = some s) :
    (j = i ∧ s = s') ∨ (j ≠ i ∧ server.sessions[j]? = some s) := by
  by_cases hEq : i = j
  · subst hEq
    refine .inl ⟨rfl, ?_⟩
    have hLength : i < (server.sessions.set i s').length :=
      (List.getElem?_eq_some_iff.mp h).1
    rw [List.length_set] at hLength
    exact Option.some.inj (h.symm.trans (List.getElem?_set_self hLength))
  · refine .inr ⟨fun h' => hEq h'.symm, ?_⟩
    exact (List.getElem?_set_ne hEq).symm.trans h

/-- A session is replaced by one that extends it. -/
theorem keeps_setSession {server server' : WebRTCServer} {i : Nat} {s s' : WebRTCServerSession}
    (hSession : server.sessions[i]? = some s) (hExtends : Extends s s')
    (hAuth : server'.auth = server.auth) (hSessions : server'.sessions = server.sessions.set i s')
    (hSent : ∀ e ∈ server.sent, e ∈ server'.sent) : Keeps server server' := by
  refine ⟨hAuth, ?_, hSent⟩
  intro j s1 hj
  rw [hSessions]
  by_cases hEq : i = j
  · subst hEq
    obtain rfl := Option.some.inj (hSession.symm.trans hj)
    exact ⟨s', List.getElem?_set_self (List.getElem?_eq_some_iff.mp hSession).1, hExtends⟩
  · exact ⟨s1, (List.getElem?_set_ne hEq).trans hj, .refl s1⟩

/-- What a request leaves: nothing that concerns the hub, a session that has asked it, or an
`UnPublish`. -/
inductive Requested (digest : String → String) (server : WebRTCServer) (request : HttpRequest)
    (server' : WebRTCServer) : Prop where
  | quiet (sessions : server'.sessions = server.sessions) (sent : server'.sent = server.sent)
  | asked (session : WebRTCServerSession) (event : StreamHubEvent)
      (sessions : server'.sessions = server.sessions ++ [session])
      (sent : server'.sent = server.sent ++ [⟨event, .post server.sessions.length⟩])
      (stage : session.stage = .asked) (ofRequest : session.request = request)
      (admitted : Auth.admits digest server.auth session.streamName (tokenCarrier request)
        (session.kind == .whep))
      (isEvent : match session.kind with
        | .whip => event = .publish session.identifier session.publisherInfo
        | .whep => event = .subscribe session.identifier session.subscriberInfo)
  | unPublish (t appName streamName : String) (info : PublisherInfo)
      (sessions : server'.sessions = server.sessions)
      (sent : server'.sent =
        server.sent ++ [⟨.unPublish (.webRTC appName streamName) info, .delete request⟩])
      (isDelete : request.method = "DELETE") (ofTarget : target request = some (t, appName, streamName))
      (ofKind : kindOf t = some .whip)

theorem run_requested (digest : String → String) (server : WebRTCServer) (seconds : Nat)
    (offerOk : Bool) (request : HttpRequest) :
    Requested digest server request (server.run digest seconds offerOk request) ∧
      (server.run digest seconds offerOk request).auth = server.auth := by
  simp only [run]
  split
  · exact ⟨.quiet rfl rfl, rfl⟩
  · split
    · exact ⟨.quiet rfl rfl, rfl⟩
    · rename_i t appName streamName hTarget
      split
      · simp only [post]
        split
        · rename_i kind hBody hKind
          split
          · rename_i hAllowed
            refine ⟨.asked _ _ rfl rfl rfl rfl hAllowed.2 ?_, rfl⟩
            cases kind <;> rfl
          · exact ⟨.quiet rfl rfl, rfl⟩
        · exact ⟨.quiet rfl rfl, rfl⟩
      · split
        · rename_i hDelete
          simp only [delete]
          cases hKind : kindOf t with
          | none => cases sessionIdOf request <;> exact ⟨.quiet rfl rfl, rfl⟩
          | some kind =>
            cases kind with
            | whep => cases sessionIdOf request <;> exact ⟨.quiet rfl rfl, rfl⟩
            | whip =>
              cases sessionIdOf request <;>
                exact ⟨.unPublish t appName streamName _ rfl rfl hDelete hTarget hKind, rfl⟩
        · exact ⟨.quiet rfl rfl, rfl⟩

theorem keeps_run (digest : String → String) (server : WebRTCServer) (seconds : Nat)
    (offerOk : Bool) (request : HttpRequest) :
    Keeps server (server.run digest seconds offerOk request) := by
  obtain ⟨hRequested, hAuth⟩ := run_requested digest server seconds offerOk request
  refine ⟨hAuth, ?_, ?_⟩
  · intro i s hs
    refine ⟨s, ?_, .refl s⟩
    cases hRequested with
    | quiet hSessions => rw [hSessions, hs]
    | asked session event hSessions =>
      rw [hSessions, List.getElem?_append_left (List.getElem?_eq_some_iff.mp hs).1, hs]
    | unPublish t appName streamName info hSessions => rw [hSessions, hs]
  · intro e he
    cases hRequested with
    | quiet _ hSent => rwa [hSent]
    | asked session event _ hSent => rw [hSent]; exact List.mem_append_left _ he
    | unPublish t appName streamName info _ hSent => rw [hSent]; exact List.mem_append_left _ he

/-- What a step leaves of a session. -/
inductive Moved (server : WebRTCServer) (i : Nat) (s s' : WebRTCServerSession) : Move → Prop where
  | answer (ok : Bool) (asked : s.stage = .asked)
      (next : s' = { s with stage := if ok then .accepted else .refused }) :
      Moved server i s s' (.answer i ok)
  | handled (ok : Bool) (accepted : s.stage = .accepted)
      (next : s' = { s with
        stage := .responding
        peerConnection := if ok then some .new else none
        watching := ok && s.kind == .whep }) :
      Moved server i s s' (.handled i ok)
  | respond (ok : Bool) (responding : s.stage = .responding)
      (next : s' = { s with stage := if ok then .returned else .failed }) :
      Moved server i s s' (.respond i ok)
  | enter (returned : s.stage = .returned) (next : s' = { s with stage := .kept }) :
      Moved server i s s' (.enter i)
  | report (state : PeerState) (connected : s.peerConnection.isSome)
      (next : s' = { s with
        peerConnection := some state
        watching := if s.watching ∧ state = .closed then false else s.watching }) :
      Moved server i s s' (.report i state)

/-- A step is a request or moves one session, and then only the report of a watched connection that
is closed sends an event. -/
theorem step_cases {digest : String → String} {server server' : WebRTCServer} {move : Move}
    (h : server.step digest move = some server') :
    (∃ seconds offerOk request, move = .request seconds offerOk request ∧
      server' = server.run digest seconds offerOk request) ∨
    ∃ i s s', server.sessions[i]? = some s ∧ Moved server i s s' move ∧ server'.auth = server.auth ∧
      server'.sessions = (server.setSession i s').sessions ∧
      (server'.sent = server.sent ∧ (∀ state, move = .report i state → ¬(s.watching ∧ state = .closed)) ∨
        s.watching ∧ move = .report i .closed ∧ server'.sent =
          server.sent ++ [⟨.unSubscribe s.identifier s.subscriberInfo, .post i⟩]) := by
  cases move with
  | request seconds offerOk request => exact .inl ⟨_, _, _, rfl, (Option.some.inj h).symm⟩
  | answer i ok =>
    simp only [step] at h
    cases hs : server.sessions[i]? with
    | none => simp [hs] at h
    | some s =>
      simp only [hs] at h
      split at h
      · rename_i hStage
        obtain rfl := Option.some.inj h
        exact .inr ⟨i, s, _, hs, .answer ok hStage rfl, rfl, rfl, .inl ⟨rfl, fun _ h' => nomatch h'⟩⟩
      · cases h
  | handled i ok =>
    simp only [step] at h
    cases hs : server.sessions[i]? with
    | none => simp [hs] at h
    | some s =>
      simp only [hs] at h
      split at h
      · rename_i hStage
        obtain rfl := Option.some.inj h
        exact .inr ⟨i, s, _, hs, .handled ok hStage rfl, rfl, rfl, .inl ⟨rfl, fun _ h' => nomatch h'⟩⟩
      · cases h
  | respond i ok =>
    simp only [step] at h
    cases hs : server.sessions[i]? with
    | none => simp [hs] at h
    | some s =>
      simp only [hs] at h
      split at h
      · rename_i hStage
        obtain rfl := Option.some.inj h
        exact .inr ⟨i, s, _, hs, .respond ok hStage rfl, rfl, rfl, .inl ⟨rfl, fun _ h' => nomatch h'⟩⟩
      · cases h
  | enter i =>
    simp only [step] at h
    cases hs : server.sessions[i]? with
    | none => simp [hs] at h
    | some s =>
      simp only [hs] at h
      split at h
      · rename_i hStage
        obtain rfl := Option.some.inj h
        exact .inr ⟨i, s, _, hs, .enter hStage rfl, rfl, rfl, .inl ⟨rfl, fun _ h' => nomatch h'⟩⟩
      · cases h
  | report i state =>
    simp only [step] at h
    cases hs : server.sessions[i]? with
    | none => simp [hs] at h
    | some s =>
      simp only [hs] at h
      split at h
      · rename_i hSome
        obtain rfl := Option.some.inj h
        refine .inr ⟨i, s, _, hs, .report state hSome rfl, ?_⟩
        simp only [report]
        split
        · rename_i hClosed
          obtain ⟨hWatching, rfl⟩ := hClosed
          exact ⟨rfl, rfl, .inr ⟨hWatching, rfl, rfl⟩⟩
        · rename_i hOpen
          refine ⟨rfl, rfl, .inl ⟨rfl, ?_⟩⟩
          intro state' hState
          cases hState
          exact hOpen
      · cases h

theorem Moved.extends {server : WebRTCServer} {i : Nat} {s s' : WebRTCServerSession} {move : Move}
    (h : Moved server i s s' move) : Extends s s' := by
  cases h with
  | answer ok hStage hNext =>
    subst hNext
    exact ⟨rfl, rfl, rfl, rfl, rfl, fun hSucceeded => by simp [hStage, Stage.Succeeded] at hSucceeded⟩
  | handled ok hStage hNext => subst hNext; exact ⟨rfl, rfl, rfl, rfl, rfl, fun _ => rfl⟩
  | respond ok hStage hNext =>
    subst hNext
    exact ⟨rfl, rfl, rfl, rfl, rfl, fun _ => by cases ok <;> rfl⟩
  | enter hStage hNext => subst hNext; exact ⟨rfl, rfl, rfl, rfl, rfl, fun _ => rfl⟩
  | report state hSome hNext => subst hNext; exact ⟨rfl, rfl, rfl, rfl, rfl, id⟩

theorem step_keeps {digest : String → String} {server server' : WebRTCServer} {move : Move}
    (h : server.step digest move = some server') : Keeps server server' := by
  rcases step_cases h with ⟨seconds, offerOk, request, -, rfl⟩ |
    ⟨i, s, s', hSession, hMoved, hAuth, hSessions, hSent⟩
  · exact keeps_run digest server seconds offerOk request
  · refine keeps_setSession hSession hMoved.extends hAuth hSessions ?_
    intro e he
    rcases hSent with ⟨hSent, -⟩ | ⟨-, -, hSent⟩
    · rwa [hSent]
    · rw [hSent]
      exact List.mem_append_left _ he

/-! ### Who takes streams down -/

theorem Owns.mono {server server' : WebRTCServer} {request : HttpRequest}
    {appName streamName : String} (h : server.Owns request appName streamName)
    (hKeeps : Keeps server server') : server'.Owns request appName streamName := by
  obtain ⟨s, hMem, ⟨hKind, hSucceeded, hApp, hStream⟩, hId⟩ := h
  obtain ⟨i, hi⟩ := List.mem_iff_getElem?.mp hMem
  obtain ⟨s', hs', hExtends⟩ := hKeeps.sessions i s hi
  refine ⟨s', List.mem_of_getElem? hs', ⟨?_, hExtends.succeeded hSucceeded, ?_, ?_⟩, ?_⟩
  · rw [hExtends.kind, hKind]
  · rw [hExtends.appName, hApp]
  · rw [hExtends.streamName, hStream]
  · rw [hExtends.sessionId, hId]

/-- Every stream that has been taken down has been so by a DELETE for its publisher. -/
def TakenDown (server : WebRTCServer) : Prop :=
  ∀ e ∈ server.sent, ∀ appName streamName info,
    e.event = .unPublish (.webRTC appName streamName) info →
      ∃ request, e.sender = .delete request ∧ server.Owns request appName streamName

theorem TakenDown.step {digest : String → String} {server server' : WebRTCServer} {move : Move}
    (hInv : server.TakenDown) (hOrderly : server.Orderly move)
    (h : server.step digest move = some server') : server'.TakenDown := by
  have hKeeps := step_keeps h
  have hOld : ∀ e ∈ server.sent, ∀ appName streamName info,
      e.event = .unPublish (.webRTC appName streamName) info →
        ∃ request, e.sender = .delete request ∧ server'.Owns request appName streamName := by
    intro e he appName streamName info hEvent
    obtain ⟨request, hSender, hOwns⟩ := hInv e he appName streamName info hEvent
    exact ⟨request, hSender, hOwns.mono hKeeps⟩
  intro e he appName streamName info hEvent
  rcases step_cases h with ⟨seconds, offerOk, request, rfl, rfl⟩ |
    ⟨i, s, s', -, -, -, -, hSent⟩
  · cases (run_requested digest server seconds offerOk request).1 with
    | quiet _ hSent =>
      rw [hSent] at he
      exact hOld e he appName streamName info hEvent
    | asked session event _ hSent _ _ _ hIsEvent =>
      rw [hSent] at he
      rcases List.mem_append.mp he with he | he
      · exact hOld e he appName streamName info hEvent
      · obtain rfl := List.mem_singleton.mp he
        subst hEvent
        split at hIsEvent <;> cases hIsEvent
    | unPublish t appName' streamName' info' _ hSent hDelete hTarget hKind =>
      rw [hSent] at he
      rcases List.mem_append.mp he with he | he
      · exact hOld e he appName streamName info hEvent
      · obtain rfl := List.mem_singleton.mp he
        cases hEvent
        exact ⟨request, rfl, (hOrderly t appName streamName hDelete hTarget hKind).mono hKeeps⟩
  · rcases hSent with ⟨hSent, -⟩ | ⟨-, -, hSent⟩
    · rw [hSent] at he
      exact hOld e he appName streamName info hEvent
    · rw [hSent] at he
      rcases List.mem_append.mp he with he | he
      · exact hOld e he appName streamName info hEvent
      · obtain rfl := List.mem_singleton.mp he
        cases hEvent

/-! ### What sessions give back -/

/-- A session that `handle_whip` or `handle_whep` has left has a peer connection; one that publishes
has not failed, and one that plays gives back its subscription. -/
def Settled (server : WebRTCServer) : Prop :=
  ∀ (i : Nat) (s : WebRTCServerSession), server.sessions[i]? = some s → s.stage.Handled →
    s.peerConnection.isSome ∧ (s.kind = .whip → s.stage ≠ .failed) ∧
      (s.kind = .whep → server.GivenBack i s)

theorem GivenBack.mono {server server' : WebRTCServer} {i : Nat} {s : WebRTCServerSession}
    (h : server.GivenBack i s) (hSent : ∀ e ∈ server.sent, e ∈ server'.sent) :
    server'.GivenBack i s := by
  simp only [GivenBack] at h ⊢
  split at h
  · obtain ⟨e, he, hEvent⟩ := h
    exact ⟨e, hSent e he, hEvent⟩
  · rcases h with h | ⟨e, he, hEvent⟩
    · exact .inl h
    · exact .inr ⟨e, hSent e he, hEvent⟩

/-- What a step leaves of the session that it moves. -/
theorem Settled.moved {server server' : WebRTCServer} {i : Nat} {s s' : WebRTCServerSession}
    {move : Move} (hInv : server.Settled) (hOrderly : server.Orderly move)
    (hSession : server.sessions[i]? = some s) (hMoved : Moved server i s s' move)
    (hSent : server'.sent = server.sent ∧
        (∀ state, move = .report i state → ¬(s.watching ∧ state = .closed)) ∨
      s.watching ∧ move = .report i .closed ∧ server'.sent =
        server.sent ++ [⟨.unSubscribe s.identifier s.subscriberInfo, .post i⟩])
    (hHandled : s'.stage.Handled) :
    s'.peerConnection.isSome ∧ (s'.kind = .whip → s'.stage ≠ .failed) ∧
      (s'.kind = .whep → server'.GivenBack i s') := by
  have hMono : ∀ e ∈ server.sent, e ∈ server'.sent := by
    intro e he
    rcases hSent with ⟨hSent, -⟩ | ⟨-, -, hSent⟩
    · rwa [hSent]
    · rw [hSent]
      exact List.mem_append_left _ he
  cases hMoved with
  | answer ok hStage hNext =>
    subst hNext
    cases ok <;> cases hHandled
  | handled ok hStage hNext =>
    obtain rfl : ok = true := hOrderly
    subst hNext
    refine ⟨rfl, fun _ => (by decide : Stage.responding ≠ .failed), fun hKind => ?_⟩
    have hKind : s.kind = .whep := hKind
    simp only [GivenBack, hKind]
    exact .inl ⟨rfl, .new, rfl, by decide⟩
  | respond ok hStage hNext =>
    have hWas := hInv i s hSession (by rw [hStage]; rfl)
    subst hNext
    refine ⟨hWas.1, fun hKind => ?_, fun hKind => (hWas.2.2 hKind).mono hMono⟩
    rcases hOrderly with rfl | hWhep
    · exact fun h => nomatch h
    · have hWhip : s.kind = .whip := hKind
      rw [hWhep s hSession] at hWhip
      cases hWhip
  | enter hStage hNext =>
    have hWas := hInv i s hSession (by rw [hStage]; rfl)
    subst hNext
    refine ⟨hWas.1, fun _ => (by decide : Stage.kept ≠ .failed), fun hKind => ?_⟩
    exact (hWas.2.2 hKind).mono hMono
  | report state hSome hNext =>
    have hWas := hInv i s hSession (by subst hNext; exact hHandled)
    subst hNext
    refine ⟨rfl, hWas.2.1, fun hKind => ?_⟩
    have hKind : s.kind = .whep := hKind
    have hBack := hWas.2.2 hKind
    simp only [GivenBack, hKind] at hBack ⊢
    rcases hSent with ⟨hSent, hOpen⟩ | ⟨hWatching, hMove, hSent⟩
    · have hOpen := hOpen state rfl
      rcases hBack with ⟨hWatching, -⟩ | ⟨e, he, hEvent⟩
      · refine .inl ⟨by rw [if_neg hOpen]; exact hWatching, state, rfl, ?_⟩
        exact fun hClosed => hOpen ⟨hWatching, hClosed⟩
      · exact .inr ⟨e, hMono e he, hEvent⟩
    · refine .inr ⟨⟨.unSubscribe s.identifier s.subscriberInfo, .post i⟩, ?_, rfl, rfl⟩
      rw [hSent]
      exact List.mem_append_right _ (List.mem_singleton.mpr rfl)

theorem Settled.step {digest : String → String} {server server' : WebRTCServer} {move : Move}
    (hInv : server.Settled) (hOrderly : server.Orderly move)
    (h : server.step digest move = some server') : server'.Settled := by
  have hKeeps := step_keeps h
  intro j s1 hj hHandled
  have hOld : server.sessions[j]? = some s1 → s1.peerConnection.isSome ∧
      (s1.kind = .whip → s1.stage ≠ .failed) ∧ (s1.kind = .whep → server'.GivenBack j s1) := by
    intro hWas
    obtain ⟨hSome, hWhip, hWhep⟩ := hInv j s1 hWas hHandled
    exact ⟨hSome, hWhip, fun hKind => (hWhep hKind).mono hKeeps.sent⟩
  rcases step_cases h with ⟨seconds, offerOk, request, rfl, rfl⟩ |
    ⟨i, s, s', hSession, hMoved, -, hSessions, hSent⟩
  · cases (run_requested digest server seconds offerOk request).1 with
    | quiet hSessions => exact hOld (by rw [← hSessions, hj])
    | asked session event hSessions _ hStage =>
      rw [hSessions, List.getElem?_append] at hj
      split at hj
      · exact hOld hj
      · obtain rfl := List.mem_singleton.mp (List.mem_of_getElem? hj)
        rw [hStage] at hHandled
        cases hHandled
    | unPublish t appName streamName info hSessions => exact hOld (by rw [← hSessions, hj])
  · rw [hSessions] at hj
    rcases getElem?_setSession hj with ⟨rfl, rfl⟩ | ⟨-, hWas⟩
    · exact hInv.moved hOrderly hSession hMoved hSent hHandled
    · exact hOld hWas

/-- In every state that an orderly run reaches, every stream taken down has been so by a DELETE with
the identifier of the session that published it, and every session whose publication or subscription
succeeded and that failed afterwards gives it back. -/
theorem orderly_released {digest : String → String} {server : WebRTCServer}
    (hReached : ((system digest).guard Orderly).Reached server) :
    server.TakenDown ∧ ∀ (i : Nat) (s : WebRTCServerSession), server.sessions[i]? = some s →
      s.stage.Succeeded → s.Broken → server.GivenBack i s := by
  have hInv : server.TakenDown ∧ server.Settled := by
    refine hReached.invariant (I := fun server => server.TakenDown ∧ server.Settled) ?_ ?_
    · rintro server ⟨auth, rfl⟩
      exact ⟨fun e he => (nomatch he), fun i s hs => by simp [new] at hs⟩
    · rintro server move server' hInv ⟨hOrderly, hStep⟩
      exact ⟨hInv.1.step hOrderly hStep, hInv.2.step hOrderly hStep⟩
  refine ⟨hInv.1, fun i s hs _ hBroken => ?_⟩
  have hHandled : s.stage.Handled := by
    rcases hBroken with hFailed | ⟨hHandled, -⟩
    · rw [hFailed]
      rfl
    · exact hHandled
  obtain ⟨hSome, hWhip, hWhep⟩ := hInv.2 i s hs hHandled
  cases hKind : s.kind with
  | whep => exact hWhep hKind
  | whip =>
    rcases hBroken with hFailed | ⟨-, hNone⟩
    · exact absurd hFailed (hWhip hKind)
    · rw [hNone] at hSome
      cases hSome

/-! ### Runs -/

section Runs

def whipPost : HttpRequest :=
  (HttpRequest.unmarshal "POST /whip?app=live&stream=cam HTTP/1.1\r\n\r\nv=0\r\n".toList).getD .default

def whipDelete : HttpRequest :=
  (HttpRequest.unmarshal
    "DELETE /whip?app=live&stream=cam&session_id=1700000000 HTTP/1.1\r\n\r\n".toList).getD .default

theorem reached_guard_of_after {digest : String → String} {server server' : WebRTCServer}
    {moves : List Move} (hReached : ((system digest).guard Orderly).Reached server)
    (hOrderly : ∀ move ∈ moves, ∀ server : WebRTCServer, server.Orderly move)
    (h : server.after digest moves = some server') :
    ((system digest).guard Orderly).Reached server' := by
  induction moves generalizing server with
  | nil =>
    obtain rfl := Option.some.inj h
    exact hReached
  | cons move moves ih =>
    obtain ⟨next, hStep, hRest⟩ := Option.bind_eq_some_iff.mp h
    have hFirst := hOrderly move List.mem_cons_self server
    exact ih (hReached.step ⟨hFirst, hStep⟩) (fun m hm => hOrderly m (List.mem_cons_of_mem _ hm)) hRest

/-- A publisher takes its own stream down. -/
theorem publisher_takes_down : ∃ server, ((system id).guard Orderly).Reached server ∧
    server.sent.length = 2 ∧ server.TakenDown := by
  obtain ⟨server1, hAfter, ⟨s, hMem, hPublished, hId⟩, server2, hStep, hLength⟩ :
      ∃ server1 ∈ (new none).after id
          [.request 1700000000 true whipPost, .answer 0 true, .handled 0 true, .respond 0 true, .enter 0],
        (∃ s ∈ server1.sessions, (s.kind = .whip ∧ s.stage.Succeeded ∧ s.appName = "live" ∧
          s.streamName = "cam") ∧ sessionIdOf whipDelete = some s.sessionId) ∧
        ∃ server2 ∈ server1.step id (.request 1700000060 true whipDelete),
          server2.sent.length = 2 := by decide +kernel
  have hReached1 : ((system id).guard Orderly).Reached server1 := by
    refine reached_guard_of_after ⟨new none, [], ⟨none, rfl⟩, .nil _⟩ ?_ hAfter
    intro move hMove server
    simp only [List.mem_cons, List.not_mem_nil, or_false] at hMove
    rcases hMove with rfl | rfl | rfl | rfl | rfl
    · intro t appName streamName hDelete
      exact absurd hDelete (by decide +kernel)
    · trivial
    · rfl
    · exact .inl rfl
    · trivial
  have hReached2 : ((system id).guard Orderly).Reached server2 := by
    refine hReached1.step (a := .request 1700000060 true whipDelete) ⟨?_, hStep⟩
    intro t appName streamName _ hTarget _
    have hNames : target whipDelete = some ("whip", "live", "cam") := by decide +kernel
    rw [hNames] at hTarget
    cases hTarget
    exact ⟨s, hMem, hPublished, hId⟩
  exact ⟨server2, hReached2, hLength, (orderly_released hReached2).1⟩

/-- A DELETE of a stream that no session has published takes it down all the same; and when
`handle_whip` fails, the session leaves its stream published. -/
theorem stranger_takes_down :
    (∃ server, (system id).Reached server ∧ ¬server.TakenDown) ∧
    ∃ server, (system id).Reached server ∧ ∃ s, server.sessions[0]? = some s ∧ s.stage.Succeeded ∧
      s.Broken ∧ ¬server.GivenBack 0 s := by
  constructor
  · obtain ⟨server, hReached, hSessions, hSent⟩ := @exists_reached id none
      [.request 1700000060 true whipDelete]
      (fun server => server.sessions.length = 0 ∧ server.sent.map Sent.event =
        [.unPublish (.webRTC "live" "cam") ⟨Uuid.new .zero 1700000060 fun _ => 0, .whipPush, .both⟩])
      (by decide +kernel)
    refine ⟨server, hReached, fun hTaken => ?_⟩
    obtain ⟨e, he, hEvent⟩ := List.mem_map.mp (hSent ▸ List.mem_singleton.mpr rfl)
    obtain ⟨request, -, s, hMem, -⟩ := hTaken e he "live" "cam" _ hEvent
    rw [List.length_eq_zero_iff.mp hSessions] at hMem
    cases hMem
  · obtain ⟨server, hReached, ⟨s, hs, hKind, hStage, hPeer⟩, hSent⟩ := @exists_reached id none
      [.request 1700000000 true whipPost, .answer 0 true, .handled 0 false]
      (fun server => (∃ s ∈ server.sessions[0]?, s.kind = .whip ∧ s.stage = .responding ∧
          s.peerConnection = none) ∧
        server.sent.map Sent.event = [.publish (.webRTC "live" "cam")
          ⟨Uuid.new .zero 1700000000 fun _ => 0, .whipPush, .both⟩])
      (by decide +kernel)
    refine ⟨server, hReached, s, hs, by rw [hStage]; rfl, .inr ⟨by rw [hStage]; rfl, hPeer⟩, ?_⟩
    simp only [GivenBack, hKind]
    rintro ⟨e, he, -, hEvent⟩
    have hMem := List.mem_map_of_mem (f := Sent.event) he
    rw [hSent, hEvent, List.mem_singleton] at hMem
    cases hMem

end Runs

end WebRTCServer

end Xiu.Webrtc
