import Xiu.Rtsp.Session.Ledger

/-! What an RTSP session holds at the hub, and what it gives back.  It gives back what it holds, and
nothing else, as long as each connection is that of one publisher or one player: a session that holds
a stream names no other one, a stream is published or subscribed to by a session that holds none and
has not torn one down, a player has named its stream before, the connection is not lost between a
request that names a stream and the one that takes it, and the session's identifier is the same when
the stream is given back as when it was taken. -/

namespace Xiu.Rtsp.Session

open Common ProofKit StreamHub

/-- A stream that the session has published, or subscribed to, and under which identifier. -/
structure Hold where
  sessionType : ServerSessionType
  identifier : StreamIdentifier
  id : Uuid
  deriving DecidableEq

namespace Sent

/-- What the hub has let the session take. -/
def takes (e : Sent) : Option Hold :=
  match e.event, e.accepted with
  | .publish identifier info, true => some ⟨.push, identifier, info.id⟩
  | .subscribe identifier info, true => some ⟨.pull, identifier, info.id⟩
  | _, _ => none

/-- What an event gives back. -/
def gives (e : Sent) : Option Hold :=
  match e.event with
  | .unPublish identifier info => some ⟨.push, identifier, info.id⟩
  | .unSubscribe identifier info => some ⟨.pull, identifier, info.id⟩
  | _ => none

end Sent

def heldAfter (held : List Hold) (e : Sent) : List Hold :=
  match e.takes, e.gives with
  | some h, _ => h :: held
  | none, some h => held.erase h
  | none, none => held

/-- What the session holds after the events that it has sent. -/
def heldBy (sent : List Sent) : List Hold := sent.foldl heldAfter []

/-- Every event gives back what is held when it is sent. -/
def Sound (sent : List Sent) : Prop :=
  ∀ before e after, sent = before ++ e :: after → ∀ h, e.gives = some h → h ∈ heldBy before

theorem heldBy_append (sent : List Sent) (e : Sent) :
    heldBy (sent ++ [e]) = heldAfter (heldBy sent) e := by
  simp [heldBy]

theorem Sound.append {sent : List Sent} (h : Sound sent) {e : Sent}
    (hGives : ∀ hold, e.gives = some hold → hold ∈ heldBy sent) : Sound (sent ++ [e]) := by
  intro before e' after hSplit hold hHold
  rcases List.eq_nil_or_concat after with rfl | ⟨after', last, rfl⟩
  · obtain ⟨rfl, hLast⟩ := List.append_inj' hSplit rfl
    cases hLast
    exact hGives hold hHold
  · rw [List.concat_eq_append, ← List.cons_append, ← List.append_assoc] at hSplit
    obtain ⟨hInit, -⟩ := List.append_inj' hSplit rfl
    exact h before e' after' hInit hold hHold

/-- The hub takes the event and lets the session have what it asks for. -/
def Surroundings.grants (w : Surroundings) : Bool := w.hubListens && w.accepted

/-- The fields of a session agree with what it holds: nothing, or one stream, which the session has
named last, with which its type agrees, and which it has not torn down. -/
def Ledger.Agrees (l : Ledger) : Prop :=
  heldBy l.sent = [] ∨ ∃ h, heldBy l.sent = [h] ∧ l.isNormalExit = false ∧
    l.streamIdentifier = some h.identifier ∧ l.sessionType = h.sessionType

/-- What a request must not do, by its method. -/
structure OrderlyRequest (digest : String → String) (w : Surroundings) (request : HttpRequest)
    (l : Ledger) : Prop where
  describe : request.method = "DESCRIBE" → ∀ h ∈ heldBy l.sent, h.identifier = identifierOf request
  announce : request.method = "ANNOUNCE" →
    Auth.admits digest l.auth request.uri.path (secretOf request) false →
      (heldBy l.sent = [] ∧ l.sessionType = .push ∧ l.isNormalExit = false) ∨
        w.grants = false ∧ ∀ h ∈ heldBy l.sent, h.identifier = identifierOf request
  play : request.method = "PLAY" →
    Auth.admits digest l.auth request.uri.path (secretOf request) true → w.responded →
      (heldBy l.sent = [] ∧ l.isNormalExit = false ∧
          l.streamIdentifier = some (identifierOf request)) ∨
        w.grants = false ∧ ∀ h ∈ heldBy l.sent, h.sessionType = .pull
  teardown : request.method = "TEARDOWN" → w.hubListens →
    ∃ h ∈ heldBy l.sent, h.identifier = identifierOf request ∧ h.id = l.idOf w

/-- Requests are orderly, and when the connection is lost the session holds a stream under its
identifier, and the hub listens, or it holds none, and has named none or torn one down. -/
def Orderly (digest : String → String) (c : Served) : Move → Prop
  | .request w request => OrderlyRequest digest w request c.session.ledger
  | .lose => True
  | .finish w =>
    (heldBy c.session.sent = [] ∧
        (c.session.isNormalExit = true ∨ c.session.streamIdentifier = none)) ∨
      w.hubListens ∧ ∃ h ∈ heldBy c.session.sent, h.id = c.session.ledger.idOf w

/-! ### What a request leaves -/

theorem gives_release (w : Surroundings) (l : Ledger) (identifier : StreamIdentifier)
    (sender : Option HttpRequest) :
    (⟨l.release w identifier, sender, true⟩ : Sent).gives =
      some ⟨l.sessionType, identifier, l.idOf w⟩ := by
  simp only [Ledger.release, Sent.gives]
  cases l.sessionType <;> rfl

theorem takes_release (w : Surroundings) (l : Ledger) (identifier : StreamIdentifier)
    (sender : Option HttpRequest) :
    (⟨l.release w identifier, sender, true⟩ : Sent).takes = none := by
  simp only [Ledger.release, Sent.takes]
  cases l.sessionType <;> rfl

/-- A session gives back the one stream that it holds. -/
theorem release_held {w : Surroundings} {l : Ledger} {h : Hold} {sender : Option HttpRequest}
    (hSound : Sound l.sent) (hHeld : heldBy l.sent = [h]) (hType : l.sessionType = h.sessionType)
    (hId : h.id = l.idOf w) :
    Sound (l.send ⟨l.release w h.identifier, sender, true⟩).sent ∧
      heldBy (l.send ⟨l.release w h.identifier, sender, true⟩).sent = [] := by
  have hGives := gives_release w l h.identifier sender
  rw [hType, ← hId] at hGives
  constructor
  · refine hSound.append fun hold hHold => ?_
    rw [hGives] at hHold
    cases hHold
    rw [hHeld]
    exact List.mem_singleton_self _
  · rw [Ledger.send, heldBy_append, hHeld, heldAfter, takes_release, hGives]
    simp

theorem sound_quiet {sent entries : List Sent} (hSound : Sound sent)
    (hQuiet : ∀ e ∈ entries, e.takes = none ∧ e.gives = none) :
    Sound (sent ++ entries) ∧ heldBy (sent ++ entries) = heldBy sent := by
  induction entries generalizing sent with
  | nil => simpa using hSound
  | cons e rest ih =>
    obtain ⟨hTakes, hGives⟩ := hQuiet e List.mem_cons_self
    have hHeld : heldBy (sent ++ [e]) = heldBy sent := by
      rw [heldBy_append, heldAfter, hTakes, hGives]
    have hSound' : Sound (sent ++ [e]) := hSound.append fun hold hHold => by
      rw [hGives] at hHold
      cases hHold
    have := ih hSound' fun e' he' => hQuiet e' (List.mem_cons_of_mem _ he')
    rwa [hHeld, List.append_assoc, List.singleton_append] at this

/-- An event that asks for a stream is answered with the stream, or holds nothing. -/
theorem asked_cases {w : Surroundings} {request : HttpRequest} {event : StreamHubEvent} {h : Hold}
    {sent entries : List Sent}
    (hTakes : (⟨event, some request, true⟩ : Sent).takes = some h)
    (hNone : (⟨event, some request, false⟩ : Sent).takes = none)
    (hGives : ∀ accepted, (⟨event, some request, accepted⟩ : Sent).gives = none)
    (hAsked : entries = if w.hubListens then [⟨event, some request, w.accepted⟩] else [])
    (hSound : Sound sent) :
    Sound (sent ++ entries) ∧
      ((w.grants = true ∧ heldBy (sent ++ entries) = h :: heldBy sent) ∨
        (w.grants = false ∧ heldBy (sent ++ entries) = heldBy sent)) := by
  subst hAsked
  cases hListens : w.hubListens with
  | false =>
    refine ⟨by simpa using hSound, .inr ⟨by simp [Surroundings.grants, hListens], by simp⟩⟩
  | true =>
    refine ⟨hSound.append fun hold hHold => ?_, ?_⟩
    · rw [hGives] at hHold
      cases hHold
    · rw [if_pos rfl, heldBy_append, heldAfter, hGives]
      cases hAccepted : w.accepted with
      | true => exact .inl ⟨by simp [Surroundings.grants, hListens, hAccepted], by rw [hTakes]⟩
      | false => exact .inr ⟨by simp [Surroundings.grants, hAccepted], by rw [hNone]⟩

/-- An orderly request keeps the fields in agreement with what is held. -/
theorem agrees_effect {digest : String → String} {w : Surroundings} {request : HttpRequest}
    {l l' : Ledger} (hEffect : Effect digest w request l l')
    (hOrderly : OrderlyRequest digest w request l) (hSound : Sound l.sent) (hAgrees : l.Agrees) :
    Sound l'.sent ∧ l'.Agrees := by
  cases hEffect with
  | none => exact ⟨hSound, hAgrees⟩
  | describe hMethod entries hAsked =>
    have hQuiet : ∀ e ∈ entries, e.takes = none ∧ e.gives = none := by
      intro e he
      simp [Sent.takes, Sent.gives, hAsked e he]
    obtain ⟨hSound', hHeld⟩ := sound_quiet hSound hQuiet
    refine ⟨hSound', ?_⟩
    rcases hAgrees with hNone | ⟨h, hOne, hExit, -, hType⟩
    · exact .inl (hHeld.trans hNone)
    · refine .inr ⟨h, hHeld.trans hOne, hExit, ?_, hType⟩
      rw [hOrderly.describe hMethod h (by rw [hOne]; exact List.mem_singleton_self _)]
  | announce hMethod hAdmitted entries hAsked =>
    obtain ⟨hSound', hCases⟩ := @asked_cases w request _
      ⟨.push, identifierOf request, l.idOf w⟩ _ _ rfl rfl (fun _ => rfl) hAsked hSound
    refine ⟨hSound', ?_⟩
    rcases hOrderly.announce hMethod hAdmitted with ⟨hNone, hPush, hExit⟩ | ⟨hRefused, hSame⟩
    · rcases hCases with ⟨-, hHeld⟩ | ⟨-, hHeld⟩
      · exact .inr ⟨_, hHeld.trans (by rw [hNone]), hExit, rfl, hPush⟩
      · exact .inl (hHeld.trans hNone)
    · rcases hCases with ⟨hGranted, -⟩ | ⟨-, hHeld⟩
      · rw [hRefused] at hGranted
        cases hGranted
      · rcases hAgrees with hNone | ⟨h, hOne, hExit, -, hType⟩
        · exact .inl (hHeld.trans hNone)
        · refine .inr ⟨h, hHeld.trans hOne, hExit, ?_, hType⟩
          rw [hSame h (by rw [hOne]; exact List.mem_singleton_self _)]
  | setup hMethod => exact ⟨hSound, hAgrees⟩
  | play hMethod hAdmitted hResponded entries hAsked =>
    obtain ⟨hSound', hCases⟩ := @asked_cases w request _
      ⟨.pull, identifierOf request, l.idOf w⟩ _ _ rfl rfl (fun _ => rfl) hAsked hSound
    refine ⟨hSound', ?_⟩
    rcases hOrderly.play hMethod hAdmitted hResponded with ⟨hNone, hExit, hNamed⟩ | ⟨hRefused, hPull⟩
    · rcases hCases with ⟨-, hHeld⟩ | ⟨-, hHeld⟩
      · exact .inr ⟨_, hHeld.trans (by rw [hNone]), hExit, hNamed, rfl⟩
      · exact .inl (hHeld.trans hNone)
    · rcases hCases with ⟨hGranted, -⟩ | ⟨-, hHeld⟩
      · rw [hRefused] at hGranted
        cases hGranted
      · rcases hAgrees with hNone | ⟨h, hOne, hExit, hNamed, -⟩
        · exact .inl (hHeld.trans hNone)
        · refine .inr ⟨h, hHeld.trans hOne, hExit, hNamed, ?_⟩
          rw [hPull h (by rw [hOne]; exact List.mem_singleton_self _)]
  | teardown hMethod hListens =>
    obtain ⟨h', hMem, hIdentifier, hId⟩ := hOrderly.teardown hMethod hListens
    rcases hAgrees with hNone | ⟨h, hOne, -, -, hType⟩
    · rw [hNone] at hMem
      cases hMem
    · rw [hOne] at hMem
      obtain rfl := List.mem_singleton.mp hMem
      rw [← hIdentifier]
      have hReleased := @release_held w l h' (some request) hSound hOne hType hId
      exact ⟨hReleased.1, .inl hReleased.2⟩

/-! ### Runs -/

variable {crates : Crates} {auth : Option Auth}

/-- What holds of a session in every state that an orderly run reaches. -/
structure Served.Kept (c : Served) : Prop where
  sound : Sound c.session.sent
  agrees : c.phase ≠ .ended → c.session.ledger.Agrees
  nothing : c.phase = .ended → heldBy c.session.sent = []

theorem step_request {c c' : Served} {w : Surroundings} {request : HttpRequest}
    (h : c.step crates (.request w request) = some c') :
    c.phase = .running ∧ c'.phase ≠ .ended ∧
      c'.session = stateOf (onRtspRequest crates w request c.session) := by
  simp only [Served.step] at h
  split at h
  · rename_i hRunning
    refine ⟨hRunning, ?_⟩
    split at h
    · rename_i hResult
      cases h
      rw [hResult]
      exact ⟨(by decide : Phase.running ≠ Phase.ended), rfl⟩
    · rename_i hResult
      cases h
      rw [hResult]
      exact ⟨(by decide : Phase.failed ≠ Phase.ended), rfl⟩
    · rename_i hResult
      cases h
      rw [hResult]
      exact ⟨(by decide : Phase.panicked ≠ Phase.ended), rfl⟩
  · cases h

/-- The server gives back what a session that has failed holds. -/
theorem finish_released {w : Surroundings} {s : RtspServerSession} (hSound : Sound s.sent)
    (hAgrees : s.ledger.Agrees)
    (hOrderly : (heldBy s.sent = [] ∧ (s.isNormalExit = true ∨ s.streamIdentifier = none)) ∨
      w.hubListens ∧ ∃ h ∈ heldBy s.sent, h.id = s.ledger.idOf w) :
    Sound (finish w s).sent ∧ heldBy (finish w s).sent = [] := by
  rcases hOrderly with ⟨hNone, hExit | hUnnamed⟩ | ⟨hListens, h', hMem, hId⟩
  · rw [finish, if_pos hExit]
    exact ⟨hSound, hNone⟩
  · have hSame : finish w s = s := by
      rw [finish]
      split
      · rfl
      · rw [hUnnamed]
    rw [hSame]
    exact ⟨hSound, hNone⟩
  · rcases hAgrees with hNone | ⟨h, hOne, hExit, hNamed, hType⟩
    · have hNil : heldBy s.sent = [] := hNone
      rw [hNil] at hMem
      cases hMem
    · have hHeld : heldBy s.sent = [h] := hOne
      rw [hHeld] at hMem
      obtain rfl := List.mem_singleton.mp hMem
      have hExit' : s.isNormalExit = false := hExit
      have hNamed' : s.streamIdentifier = some h'.identifier := hNamed
      have hFinish : finish w s = stateOf (exit w none h'.identifier s) := by
        rw [finish, hExit', hNamed']
        rfl
      have hSent : (stateOf (exit w none h'.identifier s)).sent =
          (s.ledger.send ⟨s.ledger.release w h'.identifier, none, true⟩).sent :=
        congrArg Ledger.sent ((ledger_exit none h'.identifier s).trans (if_pos hListens))
      have hReleased := @release_held w s.ledger h' none hSound hOne hType hId
      rw [hFinish, hSent]
      exact hReleased

theorem step_kept {c c' : Served} {move : Move} (hKept : c.Kept) (hOrderly : Orderly crates.digest c move)
    (h : c.step crates move = some c') : c'.Kept := by
  cases move with
  | request w request =>
    obtain ⟨hRunning, hPhase, hSession⟩ := step_request h
    have hEffect := effect_onRtspRequest crates w request c.session
    rw [← hSession] at hEffect
    obtain ⟨hSound, hAgrees⟩ := agrees_effect hEffect hOrderly hKept.sound
      (hKept.agrees (by rw [hRunning]; decide))
    exact ⟨hSound, fun _ => hAgrees, fun hEnded => absurd hEnded hPhase⟩
  | lose =>
    simp only [Served.step] at h
    split at h
    · rename_i hRunning
      cases h
      refine ⟨hKept.sound, fun _ => hKept.agrees (by rw [hRunning]; decide), ?_⟩
      exact fun hEnded => absurd hEnded (by decide : Phase.failed ≠ Phase.ended)
    · cases h
  | finish w =>
    simp only [Served.step] at h
    split at h
    · rename_i hFailed
      cases h
      obtain ⟨hSound, hNothing⟩ := finish_released hKept.sound
        (hKept.agrees (by rw [hFailed]; decide)) hOrderly
      exact ⟨hSound, fun hNot => absurd rfl hNot, fun _ => hNothing⟩
    · cases h

/-- In every orderly run a session gives back only what it holds, and when its server has seen to it
it holds nothing. -/
theorem orderly_session_releases {c : Served}
    (h : ((session crates auth).guard (Orderly crates.digest)).Reached c) :
    Sound c.session.sent ∧ (c.phase = .ended → heldBy c.session.sent = []) := by
  have hKept : c.Kept := by
    refine h.invariant ?_ ?_
    · rintro c rfl
      exact ⟨fun before e after hSplit => by simp [RtspServerSession.new] at hSplit,
        fun _ => .inl rfl, fun _ => rfl⟩
    · rintro c move c' hc ⟨hOrderly, hStep⟩
      exact step_kept hc hOrderly hStep
  exact ⟨hKept.sound, hKept.nothing⟩

/-- A publisher's connection: it announces a stream in one second, and it is lost in the same one. -/
theorem announced_stream_released :
    ∃ c : Served, c.phase = .ended ∧
      c.session.sent.map (·.event) =
        [.publish (.rtsp "live") ⟨Uuid.new .zero 1700000000 fun _ => 0, .rtspPush, .frame⟩,
          .unPublish (.rtsp "live") ⟨Uuid.new .zero 1700000000 fun _ => 0, .rtspPush, .frame⟩] ∧
      Sound c.session.sent ∧ (c.phase = .ended → heldBy c.session.sent = []) := by
  let crates : Crates := ⟨⟨fun _ => none, fun _ => [], fun _ => none, fun _ => []⟩, id, fun _ => none⟩
  let w : Surroundings := ⟨1700000000, true, none, true, true, false, none, none⟩
  let request : HttpRequest :=
    { HttpRequest.default with method := "ANNOUNCE", uri := { Uri.default with path := "live" } }
  obtain ⟨c1, h1, c2, h2, ⟨hMem, hId⟩, c3, h3, hEnded, hEvents⟩ :
      ∃ c1 ∈ Served.step crates ⟨.new none, .running⟩ (.request w request),
      ∃ c2 ∈ c1.step crates .lose,
        (⟨.push, .rtsp "live", Uuid.new .zero 1700000000 fun _ => 0⟩ ∈ heldBy c2.session.sent ∧
          (Uuid.new .zero 1700000000 fun _ => 0) = c2.session.ledger.idOf w) ∧
      ∃ c3 ∈ c2.step crates (.finish w), c3.phase = .ended ∧
        c3.session.sent.map (·.event) =
          [.publish (.rtsp "live") ⟨Uuid.new .zero 1700000000 fun _ => 0, .rtspPush, .frame⟩,
            .unPublish (.rtsp "live") ⟨Uuid.new .zero 1700000000 fun _ => 0, .rtspPush, .frame⟩] := by
    decide +kernel
  have hFirst : OrderlyRequest crates.digest w request (RtspServerSession.new none).ledger := by
    refine ⟨fun _ h hHeld => (nomatch hHeld), fun _ _ => .inl ⟨rfl, rfl, rfl⟩, ?_, ?_⟩
    · exact fun hMethod => absurd hMethod (by decide : ("ANNOUNCE" : String) ≠ "PLAY")
    · exact fun hMethod => absurd hMethod (by decide : ("ANNOUNCE" : String) ≠ "TEARDOWN")
  have hReached : ((session crates none).guard (Orderly crates.digest)).Reached c3 :=
    ⟨_, [.request w request, .lose, .finish w], rfl, .cons ⟨hFirst, h1⟩ (.cons ⟨trivial, h2⟩
      (.cons ⟨.inr ⟨rfl, _, hMem, hId⟩, h3⟩ (.nil _)))⟩
  exact ⟨c3, hEnded, hEvents, orderly_session_releases hReached⟩

/-- A client that asks for the description of a stream and goes away takes the stream down. -/
theorem describe_takes_down :
    ¬∀ (crates : Crates) (auth : Option Auth) (c : Served), (session crates auth).Reached c →
      Sound c.session.sent ∧ (c.phase = .ended → heldBy c.session.sent = []) := by
  intro h
  let crates : Crates := ⟨⟨fun _ => none, fun _ => [], fun _ => none, fun _ => []⟩, id, fun _ => none⟩
  let w : Surroundings := ⟨1700000000, true, none, true, true, false, none, none⟩
  let request : HttpRequest :=
    { HttpRequest.default with method := "DESCRIBE", uri := { Uri.default with path := "live" } }
  obtain ⟨c, hRun, hSent⟩ : ∃ c ∈ (⟨.new none, .running⟩ : Served).run crates
      [.request w request, .lose, .finish w],
      c.session.sent = [⟨.request (.rtsp "live"), some request, true⟩,
        ⟨.unPublish (.rtsp "live") ⟨Uuid.new .zero 1700000000 fun _ => 0, .rtspPush, .frame⟩,
          none, true⟩] := by
    decide +kernel
  obtain ⟨hSound, -⟩ := h crates none c (reached_run ⟨_, [], rfl, .nil _⟩ hRun)
  have hMem := hSound [⟨.request (.rtsp "live"), some request, true⟩] _ [] hSent _ rfl
  cases hMem

end Xiu.Rtsp.Session
