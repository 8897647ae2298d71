import Xiu.Rtsp.Malformed
import Xiu.Rtsp.Session.ServerSession

/-! Which requests make the handling of an RTSP session panic, and that a run panics if and only if
one of its requests is such a one.  That the tracks are made anew without a new description does no
harm: the description that a session has was read without a panic. -/

namespace Xiu.Rtsp.Session

open Common ProofKit StreamHub

/-! ### Descriptions whose codecs are known -/

/-- The codec of a medium is in the table, and audio says how many channels it has. -/
def MediumSound (medium : Sdp.Medium) : Prop :=
  (medium.mediaType = "audio" →
    (codecId medium.encodingName).isSome ∧ (parseU8 medium.encodingParam.toList).isSome) ∧
  (medium.mediaType = "video" → (codecId medium.encodingName).isSome)

/-- A description that can be read and whose tracks can be made. -/
def DescriptionSound (crates : Crates) (text : String) : Prop :=
  Sdp.TextSound crates.codings text ∧ ∀ medium ∈ Sdp.mediaOf text, MediumSound medium

/-- The tracks of the session's description can be made. -/
def RtspServerSession.Sound (s : RtspServerSession) : Prop := ∀ medium ∈ s.sdp.media, MediumSound medium

variable {crates : Crates} {w : Surroundings} {request : HttpRequest} {s : RtspServerSession}

theorem fails_orPanic {α : Type} {o : Option α} : Fails .panic (orPanic o) s ↔ ¬o.isSome := by
  cases o with
  | none => exact iff_of_true ⟨s, rfl⟩ (by simp)
  | some a => exact iff_of_false (not_fails_ok rfl) (by simp)

theorem orPanic_ok {α : Type} {o : Option α} {a : α} {s1 : RtspServerSession} :
    orPanic o s = .ok a s1 ↔ o = some a ∧ s1 = s := by
  cases o with
  | none => exact iff_of_false (fun h => nomatch h) fun h => nomatch h.1
  | some b =>
    constructor
    · intro h
      cases h
      exact ⟨rfl, rfl⟩
    · rintro ⟨hSame, rfl⟩
      cases hSame
      rfl

/-- What follows an unwrap fails when there is nothing to unwrap, or later. -/
theorem fails_orPanic_bind {α β : Type} {o : Option α} {f : α → Handler β} :
    Fails .panic (orPanic o >>= f) s ↔ ∀ a, o = some a → Fails .panic (f a) s := by
  rw [fails_bind, fails_orPanic]
  cases o with
  | none => exact iff_of_true (.inl (by simp)) fun a h => nomatch h
  | some a =>
    constructor
    · rintro (h | ⟨b, s1, hOk, hFails⟩) b' hSame
      · exact absurd rfl h
      · obtain ⟨hSome, rfl⟩ := orPanic_ok.mp hOk
        cases hSame
        cases hSome
        exact hFails
    · intro h
      exact .inr ⟨a, s, rfl, h a rfl⟩

/-! ### Parts of the handlers -/

theorem not_fails_throw {α : Type} : ¬Fails .panic (throw .error : Handler α) s := by
  rintro ⟨s', h⟩
  cases h

/-- The ports that a UDP transport is told are there. -/
def PortsSound (w : Surroundings) (transportData : String) : Prop :=
  RtspTransport.protocolOf transportData = .udp → ∃ port, w.rtpPort = some port ∧ port + 1 < 2 ^ 16

/-- The requests that a session handles without a panic. -/
structure Calm (crates : Crates) (w : Surroundings) (request : HttpRequest) (s : RtspServerSession) :
    Prop where
  describe : request.method = "DESCRIBE" → w.hubListens →
    ∀ data, w.information = some data → DescriptionSound crates data
  announce : request.method = "ANNOUNCE" →
    Auth.admits crates.digest s.auth request.uri.path (secretOf request) false →
    ∀ body, request.body = some body → DescriptionSound crates body
  setup : request.method = "SETUP" → (setupTrack w request s).isSome →
    ∀ transportData, request.getHeader "Transport" = some transportData →
      RtspTransport.TextSound transportData ∧ PortsSound w transportData
  record : request.method = "RECORD" →
    (∀ range, request.getHeader "Range" = some range → RtspRange.TextSound range) ∧ s.sessionId.isSome

/-- A handler that comes to its end leaves a description whose tracks can be made. -/
def Safe {α : Type} (x : Handler α) : Prop := ∀ s a s1, s.Sound → x s = .ok a s1 → s1.Sound

section Safe

variable {α β : Type} {x : Handler α} {f : α → Handler β}

theorem Safe.bind (hx : Safe x) (hf : ∀ a, Safe (f a)) : Safe (x >>= f) := by
  intro s b s' hSound h
  obtain ⟨a, s1, hFirst, hRest⟩ := bind_eq_ok h
  exact hf a s1 b s' (hx s a s1 hSound hFirst) hRest

end Safe

/-- The session has not panicked, and while it runs, its tracks can be made. -/
structure Served.Steady (c : Served) : Prop where
  calm : c.phase ≠ .panicked
  sound : c.phase = .running → c.session.Sound

end Xiu.Rtsp.Session
