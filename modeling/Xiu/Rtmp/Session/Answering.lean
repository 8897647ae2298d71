import Xiu.Rtmp.Session.Exchange

/-! The server's part of the exchange.  What it has answered, and what it has told its hub, is known by what it
has heard, as long as that is what a relay asks. -/

namespace Xiu.Rtmp.Session

open Xiu.Common ProofKit StreamHub Flv.Amf0 Messages ClientSession

variable {digest : String → String} {auth : Option Auth} {s : ClientSession} {w : Surroundings}

/-- An event that takes something of the hub. -/
def opens : StreamHubEvent → Bool
  | .publish _ _ | .subscribe _ _ => true
  | _ => false

/-- What the session has asked its hub for. -/
def Common.opened (common : Common) : List StreamHubEvent := (common.sent.map (·.event)).filter opens

/-- The name and the query of the relay's stream. -/
def named (s : ClientSession) : String × Option String :=
  RtmpUrlParser.parseStreamNameWithQuery s.rawStreamName

/-- What the server asks its hub for, on behalf of the relay. -/
def wanted (s : ClientSession) (common : Common) : StreamHubEvent :=
  match s.clientType with
  | .pull => .subscribe (.rtmp (appOf s.appName) (named s).1) common.getSubscriberInfo
  | .push => .publish (.rtmp (appOf s.appName) (named s).1) common.getPublisherInfo

/-- The relay is allowed what it asks for. -/
def Admitted (digest : String → String) (auth : Option Auth) (s : ClientSession) : Prop :=
  Auth.admits digest auth (named s).1 ((named s).2.map .query) (s.clientType = .pull) = true

/-- The state in which the stream flows. -/
def serving : ClientSessionType → ServerSessionState
  | .pull => .play
  | .push => .readChunk

/-- So much has been answered. -/
structure Answered (auth : Option Auth) (s : ClientSession) (n : Nat) (t : ServerSession) : Prop where
  auth : t.auth = auth
  written : t.io.written = (answers s.clientType).take n

/-- And the hub has been asked for nothing. -/
structure Waiting (auth : Option Auth) (s : ClientSession) (n : Nat) (t : ServerSession) : Prop
    extends Answered auth s n t where
  opened : t.common.opened = []

/-- What is known of the server when it has heard so much. -/
inductive Answers (digest : String → String) (auth : Option Auth) (s : ClientSession) : Nat → Served → Prop
  | shakes {t : ServerSession} (hState : t.state = .handshake) (hWaiting : Waiting auth s 0 t) :
    Answers digest auth s 0 ⟨t, .looping⟩
  | greets {k : Nat} {t : ServerSession} {phase : Phase} (hLess : k ≤ 1) (hState : t.state = .readChunk)
    (hWaiting : Waiting auth s 1 t) (hAlive : phase.Alive) : Answers digest auth s k ⟨t, phase⟩
  | connects {k : Nat} {t : ServerSession} {phase : Phase} (hFrom : 2 ≤ k) (hLess : k ≤ 6)
    (hState : t.state = .readChunk) (hApp : t.appName = appOf s.appName) (hWaiting : Waiting auth s 4 t)
    (hAlive : phase.Alive) : Answers digest auth s k ⟨t, phase⟩
  | creates {t : ServerSession} {phase : Phase} (hState : t.state = .readChunk)
    (hApp : t.appName = appOf s.appName) (hWaiting : Waiting auth s 5 t) (hAlive : phase.Alive) :
    Answers digest auth s 7 ⟨t, phase⟩
  | serves {k : Nat} {t : ServerSession} {phase : Phase} (hFrom : 8 ≤ k) (hState : t.state = serving s.clientType)
    (hAnswered : Answered auth s (answers s.clientType).length t)
    (hOpened : t.common.opened = [wanted s t.common]) (hAdmitted : Admitted digest auth s)
    (hAlive : phase.Alive) : Answers digest auth s k ⟨t, phase⟩
  | gone {k n : Nat} {t : ServerSession} {phase : Phase} (hAnswered : Answered auth s n t)
    (hBound : n ≤ answerDue s.clientType k)
    (hOpened : t.common.opened = [] ∨ t.common.opened = [wanted s t.common] ∧ Admitted digest auth s)
    (hStarts : s.clientType = .push → 5 < n → Admitted digest auth s) (hDead : phase.Dead) :
    Answers digest auth s k ⟨t, phase⟩

theorem length_answers (clientType : ClientSessionType) :
    (answers clientType).length = answerDue clientType 8 := by cases clientType <;> rfl

/-- In any case the server has answered no more than is due, and asked its hub for no more than the relay may
have. -/
theorem Answers.form {k : Nat} {c : Served} (h : Answers digest auth s k c) :
    ∃ n, Answered auth s n c.session ∧ n ≤ answerDue s.clientType k ∧
      (c.session.common.opened = [] ∨
        c.session.common.opened = [wanted s c.session.common] ∧ Admitted digest auth s) ∧
      (s.clientType = .push → 5 < n → Admitted digest auth s) := by
  have hMono := answerDue_mono s.clientType
  cases h with
  | shakes hState hWaiting =>
    exact ⟨0, hWaiting.toAnswered, Nat.zero_le _, .inl hWaiting.opened, fun _ h => absurd h (by decide)⟩
  | greets hLess hState hWaiting hAlive =>
    exact ⟨1, hWaiting.toAnswered, hMono (Nat.zero_le _), .inl hWaiting.opened, fun _ h => absurd h (by decide)⟩
  | connects hFrom hLess hState hApp hWaiting hAlive =>
    exact ⟨4, hWaiting.toAnswered, hMono hFrom, .inl hWaiting.opened, fun _ h => absurd h (by decide)⟩
  | creates hState hApp hWaiting hAlive =>
    exact ⟨5, hWaiting.toAnswered, Nat.le_refl 5, .inl hWaiting.opened, fun _ h => absurd h (by decide)⟩
  | serves hFrom hState hAnswered hOpened hAdmitted hAlive =>
    refine ⟨_, hAnswered, ?_, .inr ⟨hOpened, hAdmitted⟩, fun _ _ => hAdmitted⟩
    rw [length_answers]
    exact hMono hFrom
  | gone hAnswered hBound hOpened hStarts hDead => exact ⟨_, hAnswered, hBound, hOpened, hStarts⟩

/-- What the exchange knows of a session stays as it is. -/
structure Same (t t' : ServerSession) : Prop where
  auth : t'.auth = t.auth
  io : t'.io = t.io
  opened : t'.common.opened = t.common.opened
  sessionId : t'.common.sessionId = t.common.sessionId
  sessionType : t'.common.sessionType = t.common.sessionType

theorem Same.wanted {t t' : ServerSession} (h : Same t t') : wanted s t'.common = wanted s t.common := by
  simp only [Session.wanted, Common.getSubscriberInfo, Common.getPublisherInfo, h.sessionId, h.sessionType]

theorem Same.answered {t t' : ServerSession} {n : Nat} (h : Same t t') (hAnswered : Answered auth s n t) :
    Answered auth s n t' := ⟨h.auth.trans hAnswered.auth, by rw [h.io, hAnswered.written]⟩

/-- The session can end at any time. -/
theorem Answers.ends {k : Nat} {c : Served} {t : ServerSession} (h : Answers digest auth s k c)
    (hSame : Same c.session t) {phase : Phase} (hDead : phase.Dead) : Answers digest auth s k ⟨t, phase⟩ := by
  obtain ⟨n, hAnswered, hBound, hOpened, hStarts⟩ := h.form
  refine .gone (hSame.answered hAnswered) hBound ?_ hStarts hDead
  rw [hSame.opened, hSame.wanted]
  exact hOpened

/-- A session that is not gone goes on, in its loop or reading. -/
theorem Answers.goesOn {k : Nat} {c : Served} {phase : Phase} (h : Answers digest auth s k c)
    (hPhase : c.phase = .looping ∧ c.session.state ≠ .handshake ∨ c.phase = .reading) (hAlive : phase.Alive)
    (left : Bool) : Answers digest auth s k ⟨{ c.session with hasRemaingData := left }, phase⟩ := by
  have hSame {t : ServerSession} {n : Nat} (hWaiting : Waiting auth s n t) :
      Waiting auth s n { t with hasRemaingData := left } :=
    ⟨⟨hWaiting.auth, hWaiting.written⟩, hWaiting.opened⟩
  cases h with
  | shakes hState hWaiting =>
    rcases hPhase with ⟨-, hNot⟩ | hReading
    · exact absurd hState hNot
    · cases hReading
  | greets hLess hState hWaiting _ => exact .greets hLess hState (hSame hWaiting) hAlive
  | connects hFrom hLess hState hApp hWaiting _ =>
    exact .connects hFrom hLess hState hApp (hSame hWaiting) hAlive
  | creates hState hApp hWaiting _ => exact .creates hState hApp (hSame hWaiting) hAlive
  | serves hFrom hState hAnswered hOpened hAdmitted _ =>
    exact .serves hFrom hState ⟨hAnswered.auth, hAnswered.written⟩ hOpened hAdmitted hAlive
  | gone hAnswered hBound hOpened hStarts hDead =>
    rcases hPhase with ⟨hLooping, -⟩ | hReading
    · exact absurd hLooping hDead.not_looping
    · exact absurd hReading hDead.not_reading

/-! ### Moves of its own -/

theorem opened_append {common : Common} {event : StreamHubEvent} {accepted : Bool} (h : opens event = false) :
    ({ common with sent := common.sent ++ [⟨event, accepted⟩] } : Common).opened = common.opened := by
  simp [Common.opened, h]

/-- What a session tells its hub when it leaves. -/
theorem same_sent (t : ServerSession) {event : StreamHubEvent} (h : opens event = false) :
    Same t { t with common := { t.common with sent := t.common.sent ++ [⟨event, true⟩] } } :=
  ⟨rfl, rfl, opened_append h, rfl, rfl⟩

theorem same_refl (t : ServerSession) : Same t t := ⟨rfl, rfl, rfl, rfl, rfl⟩

/-- A session that leaves gives back what it may have, and asks for nothing. -/
theorem leave_same (w : Surroundings) (t : ServerSession) :
    ∃ t', leave w t = .error .error t' ∧ Same t t' := by
  rw [leave]
  by_cases hListens : w.hubListens = true
  · have hUnpublish : unpublish w t = .ok () { t with common := { t.common with
        sent := t.common.sent ++
          [⟨.unPublish (.rtmp t.appName t.streamName) t.common.getPublisherInfo, true⟩] } } := by
      simp only [unpublish, bind_get, onCommon, onPart, Common.unpublishToStreamHub, hListens, if_true,
        Common.send, modify_apply]
    rw [bind_of_ok hUnpublish]
    exact ⟨_, rfl, same_sent t rfl⟩
  · have hUnpublish : unpublish w t = .error .error t := by
      simp only [unpublish, bind_get, onCommon, onPart, Common.unpublishToStreamHub, hListens]
      rfl
    rw [bind_of_error hUnpublish]
    exact ⟨_, rfl, same_refl t⟩

/-- And so does one whose frames come to their end. -/
theorem leavePlay_same (w : Surroundings) (t : ServerSession) :
    ∃ t', leavePlay w t = .error .error t' ∧ Same t t' := by
  rw [leavePlay, bind_get]
  by_cases hListens : w.hubListens = true
  · have hUnsubscribe : onCommon (Common.unsubscribeFromStreamHub w t.appName t.streamName) t =
        .ok () { t with common := { t.common with sent := t.common.sent ++
          [⟨.unSubscribe (.rtmp t.appName t.streamName) t.common.getSubscriberInfo, true⟩] } } := by
      simp only [onCommon, onPart, Common.unsubscribeFromStreamHub, bind_get, hListens, if_true, Common.send,
        modify_apply]
    rw [bind_of_ok hUnsubscribe]
    exact ⟨_, rfl, same_sent t rfl⟩
  · have hUnsubscribe : onCommon (Common.unsubscribeFromStreamHub w t.appName t.streamName) t = .ok () t := by
      simp only [onCommon, onPart, Common.unsubscribeFromStreamHub, bind_get, hListens]
      rfl
    rw [bind_of_ok hUnsubscribe]
    exact ⟨_, rfl, same_refl t⟩

/-- At the end of the handshake the chunk size is told. -/
theorem answers_handshake {t : ServerSession} (hWaiting : Waiting auth s 0 t) (left : Bool) :
    Answers digest auth s 0 (.after .looping (finishHandshake w left t)) ∧
      t.io.written <+: (Served.after .looping (finishHandshake w left t)).session.io.written := by
  have hNothing : t.io.written = [] := hWaiting.written
  simp only [finishHandshake, bind_modify, write, onPart, Io.write, bind_get]
  by_cases hFlushed : w.flushed t.io.written.length = true
  · rw [if_pos hFlushed]
    refine ⟨.greets (Nat.zero_le 1) rfl ⟨⟨hWaiting.auth, ?_⟩, hWaiting.opened⟩ (.inl rfl),
      List.prefix_append _ _⟩
    show t.io.written ++ [_] = _
    rw [hNothing]
    rfl
  · rw [if_neg hFlushed]
    refine ⟨.gone (n := 0) ⟨hWaiting.auth, hNothing⟩ (Nat.zero_le _) (.inl hWaiting.opened)
      (fun _ h => absurd h (by decide)) (.inl rfl), List.prefix_refl _⟩

theorem answers_act {k : Nat} {c c' : Served} {move : Move} (h : Answers digest auth s k c)
    (hStep : c.acts digest move = some c') :
    Answers digest auth s k c' ∧ c.session.io.written <+: c'.session.io.written := by
  have hLeaves {r : EStateM.Result Stop ServerSession Unit} {phase : Phase}
      (hLeave : ∃ t', r = .error .error t' ∧ Same c.session t') :
      Answers digest auth s k (.after phase r) ∧
        c.session.io.written <+: (Served.after phase r).session.io.written := by
    obtain ⟨t', rfl, hSame⟩ := hLeave
    refine ⟨h.ends hSame (.inl rfl), ?_⟩
    show c.session.io.written <+: t'.io.written
    exact hSame.io ▸ List.prefix_refl _
  cases move with
  | message w msgStreamId message => cases hStep
  | handshake =>
    simp only [Served.acts, Served.step] at hStep
    split at hStep <;> cases hStep
    exact ⟨h, List.prefix_refl _⟩
  | handshakeDone w left =>
    simp only [Served.acts, Served.step] at hStep
    split at hStep <;> cases hStep
    rename_i hHandshake
    cases h with
    | shakes hState hWaiting => exact answers_handshake hWaiting left
    | greets hLess hState hWaiting hAlive => rw [hState] at hHandshake; cases hHandshake.2
    | connects hFrom hLess hState hApp hWaiting hAlive => rw [hState] at hHandshake; cases hHandshake.2
    | creates hState hApp hWaiting hAlive => rw [hState] at hHandshake; cases hHandshake.2
    | serves hFrom hState hAnswered hOpened hAdmitted hAlive =>
      rw [hState] at hHandshake
      cases hType : s.clientType <;> rw [hType] at hHandshake <;> cases hHandshake.2
    | gone hAnswered hBound hOpened hStarts hDead => exact absurd hHandshake.1 hDead.not_looping
  | handshakeFails =>
    simp only [Served.acts, Served.step] at hStep
    split at hStep <;> cases hStep
    exact ⟨h.ends (same_refl _) (.inl rfl), List.prefix_refl _⟩
  | receive =>
    simp only [Served.acts, Served.step] at hStep
    split at hStep <;> cases hStep
    rename_i hReads
    refine ⟨h.goesOn (.inl ⟨hReads.1, ?_⟩) (.inr rfl) false, List.prefix_refl _⟩
    rw [hReads.2]
    decide
  | readFails w =>
    simp only [Served.acts, Served.step] at hStep
    split at hStep <;> cases hStep
    exact hLeaves (leave_same w _)
  | parseFails =>
    simp only [Served.acts, Served.step] at hStep
    split at hStep <;> cases hStep
    exact ⟨h.ends (same_refl _) (.inl rfl), List.prefix_refl _⟩
  | cannotParse w =>
    simp only [Served.acts, Served.step] at hStep
    split at hStep <;> cases hStep
    exact hLeaves (leave_same w _)
  | drained =>
    simp only [Served.acts, Served.step] at hStep
    split at hStep <;> cases hStep
    rename_i hReading
    exact ⟨h.goesOn (.inr hReading) (.inl rfl) c.session.hasRemaingData, List.prefix_refl _⟩
  | playFails w =>
    simp only [Served.acts, Served.step] at hStep
    split at hStep <;> cases hStep
    exact hLeaves (leavePlay_same w _)
  | deleted =>
    simp only [Served.acts, Served.step] at hStep
    split at hStep <;> cases hStep
    exact ⟨h.ends (same_refl _) (.inl rfl), List.prefix_refl _⟩

/-! ### Messages that it hears -/

section Hear

variable {c c' : Served} {t : ServerSession} {m : Written} {message : RtmpMessageData}

/-- A message that is parsed is heard by a session that reads. -/
theorem served_hears (hParsed : m.parsed = .ok (some message)) (h : c.hears digest w m = some c') :
    c.phase = .reading ∧ c' = .after .reading (processMessages digest w m.msgStreamId message c.session) := by
  simp only [Served.hears, hParsed, Served.step] at h
  split at h <;> cases h
  rename_i hReading
  exact ⟨hReading, rfl⟩

/-- A message that changes nothing. -/
theorem served_hears_inert (hParsed : m.parsed = .ok (some message))
    (hInert : ∀ t, processMessages digest w m.msgStreamId message t = .ok () t)
    (h : c.hears digest w m = some c') : c.phase = .reading ∧ c' = c := by
  obtain ⟨hReading, hAfter⟩ := served_hears hParsed h
  rw [hInert, Served.after, ← hReading] at hAfter
  exact ⟨hReading, hAfter⟩

/-- A session that does not read hears nothing. -/
theorem not_served_hears (hPhase : c.phase ≠ .reading) (h : c.hears digest w m = some c') : False := by
  simp only [Served.hears, Served.step] at h
  split at h
  · split at h
    · exact hPhase (by assumption)
    · cases h
  · split at h
    · exact hPhase (by assumption)
    · cases h
  · split at h
    · exact hPhase (by assumption)
    · cases h

/-- Messages that come next in the script are written, or the first of them are. -/
theorem writeAll_answers {messages : List Written} {n n' : Nat} (hAnswered : Answered auth s n t)
    (hNext : ((answers s.clientType).drop n).take messages.length = messages) (hLast : n + messages.length = n') :
    writeAll w messages t = .ok () { t with io := ⟨(answers s.clientType).take n'⟩ } ∨
      ∃ i ≤ messages.length,
        writeAll w messages t = .error .error { t with io := ⟨(answers s.clientType).take (n + i)⟩ } := by
  have hTake (i : Nat) (hLe : i ≤ messages.length) :
      t.io.written ++ messages.take i = (answers s.clientType).take (n + i) := by
    rw [hAnswered.written, List.take_add, ← hNext, List.take_take, Nat.min_eq_left hLe]
  obtain hAll | ⟨i, hLess, hSome⟩ := Io.writeAll_cases w messages t.io
  · refine .inl ?_
    have hTaken := hTake messages.length (Nat.le_refl _)
    rw [List.take_length, hLast] at hTaken
    simp only [writeAll, onPart, hAll, hTaken]
  · refine .inr ⟨i, Nat.le_of_lt hLess, ?_⟩
    simp only [writeAll, onPart, hSome, hTake i (Nat.le_of_lt hLess)]

/-- The message that comes next is written, or none is. -/
theorem write_answers {message : Written} {n : Nat} (hAnswered : Answered auth s n t)
    (hNext : (answers s.clientType)[n]? = some message) :
    write w message t = .ok () { t with io := ⟨(answers s.clientType).take (n + 1)⟩ } ∨
      write w message t = .error .error t := by
  simp only [write, onPart, Io.write, bind_get]
  by_cases hFlushed : w.flushed t.io.written.length = true
  · rw [if_pos hFlushed]
    refine .inl ?_
    have hTaken : t.io.written ++ [message] = (answers s.clientType).take (n + 1) := by
      rw [hAnswered.written, List.take_add_one, hNext, Option.toList_some]
    rw [hTaken]
    rfl
  · rw [if_neg hFlushed]
    exact .inr rfl

/-- What has been written by a session that ends while it answers. -/
theorem answers_fail {k n : Nat} (hBound : n ≤ answerDue s.clientType k) (hAuth : t.auth = auth)
    (hOpened : t.common.opened = []) (hStarts : s.clientType = .push → 5 < n → Admitted digest auth s) :
    Answers digest auth s k ⟨{ t with io := ⟨(answers s.clientType).take n⟩ }, .ended⟩ :=
  .gone ⟨hAuth, rfl⟩ hBound (.inl hOpened) hStarts (.inl rfl)

theorem said_grows {n n' : Nat} (hAnswered : Answered auth s n t) (hLe : n ≤ n') :
    t.io.written <+: (answers s.clientType).take n' := by
  rw [hAnswered.written]
  exact List.take_prefix_take_left hLe

theorem connectPairs_app (s : ClientSession) :
    (NetConnection.connectPairs (connectProperties s)).lookup "app" = some (.utf8String s.appName) := by
  obtain ⟨rawDomainName, appName, rawStreamName, streamName, state, clientType, subAppName, subStreamName, common,
    io⟩ := s
  cases clientType <;> rfl

theorem connectPairs_objectEncoding (s : ClientSession) :
    (NetConnection.connectPairs (connectProperties s)).lookup "objectEncoding" = none := by
  obtain ⟨rawDomainName, appName, rawStreamName, streamName, state, clientType, subAppName, subStreamName, common,
    io⟩ := s
  cases clientType <;> rfl

/-- What the server does when the relay connects. -/
theorem answers_connect (hState : t.state = .readChunk) (hWaiting : Waiting auth s 1 t) :
    Answers digest auth s 2 (.after .reading
        (onConnect w connectId (NetConnection.connectPairs (connectProperties s)) t)) ∧
      t.io.written <+: (Served.after .reading
        (onConnect w connectId (NetConnection.connectPairs (connectProperties s)) t)).session.io.written := by
  generalize hPairs : NetConnection.connectPairs (connectProperties s) = pairs
  have hApp : pairs.lookup "app" = some (.utf8String s.appName) := by rw [← hPairs, connectPairs_app]
  have hEncoding : pairs.lookup "objectEncoding" = none := by rw [← hPairs, connectPairs_objectEncoding]
  have hDue : answerDue s.clientType 2 = 4 := rfl
  have hEarly {n : Nat} (hLe : n ≤ 5) : s.clientType = .push → 5 < n → Admitted digest auth s :=
    fun _ hLate => absurd hLate (Nat.not_lt.mpr hLe)
  obtain ⟨t1, hParse, hAnswered, hOpened, hState1⟩ : ∃ t1, parseConnectProperties pairs t = .ok () t1 ∧
      Answered auth s 1 t1 ∧ t1.common.opened = [] ∧ t1.state = .readChunk :=
    ⟨_, rfl, ⟨hWaiting.auth, hWaiting.written⟩, hWaiting.opened, hState⟩
  rw [onConnect, bind_of_ok hParse]
  obtain hTwo | ⟨i, hLe, hSome⟩ := @writeAll_answers auth s w t1
    [.control (ProtocolControlMessagesWriter.writeWindowAcknowledgementSize WINDOW_ACKNOWLEDGEMENT_SIZE),
      .control (ProtocolControlMessagesWriter.writeSetPeerBandwidth PEER_BANDWIDTH DYNAMIC)] 1 3 hAnswered rfl rfl
  swap
  · have hBound : 1 + i ≤ 4 := (Nat.add_le_add_left hLe 1).trans (Nat.le_succ 3)
    rw [bind_of_error hSome]
    exact ⟨answers_fail hBound hAnswered.auth hOpened (hEarly (hBound.trans (Nat.le_succ 4))),
      said_grows hWaiting.toAnswered (Nat.le_add_right 1 i)⟩
  obtain ⟨t2, hTake, hAnswered2, hOpened2, hState2, hName⟩ :
      ∃ t2, takeApp pairs { t1 with io := ⟨(answers s.clientType).take 3⟩ } = .ok () t2 ∧
        Answered auth s 3 t2 ∧ t2.common.opened = [] ∧ t2.state = .readChunk ∧ t2.appName = appOf s.appName := by
    refine ⟨{ t1 with io := ⟨(answers s.clientType).take 3⟩, appName := appOf s.appName }, ?_,
      ⟨hAnswered.auth, rfl⟩, hOpened, hState1, rfl⟩
    rw [takeApp, hApp]
    rfl
  rw [bind_of_ok hTwo, bind_of_ok hTake, hEncoding, Option.bind_none, Option.getD_none]
  obtain hAll | hNone := @write_answers auth s w t2 (.command (NetConnection.writeConnectResponse connectId FMSVER
    CAPABILITIES "NetConnection.Connect.Success" LEVEL "Connection Succeeded." OBJENCODING_AMF0)) 3 hAnswered2 rfl
  · rw [hAll]
    exact ⟨.connects (Nat.le_refl 2) (by decide) hState2 hName ⟨⟨hAnswered2.auth, rfl⟩, hOpened2⟩ (.inr rfl),
      said_grows hWaiting.toAnswered (by decide)⟩
  · rw [hNone]
    refine ⟨.gone hAnswered2 (Nat.le_of_ble_eq_true rfl) (.inl hOpened2) (hEarly (by decide)) (.inl rfl), ?_⟩
    show t.io.written <+: t2.io.written
    rw [hAnswered2.written]
    exact said_grows hWaiting.toAnswered (by decide)

/-- What the server does when the relay asks for a stream number. -/
theorem answers_createStream (hState : t.state = .readChunk) (hApp : t.appName = appOf s.appName)
    (hWaiting : Waiting auth s 4 t) :
    Answers digest auth s 7 (.after .reading (onCreateStream w createStreamId t)) ∧
      t.io.written <+: (Served.after .reading (onCreateStream w createStreamId t)).session.io.written := by
  rw [onCreateStream]
  obtain hAll | hNone := @write_answers auth s w t
    (.command (NetConnection.writeCreateStreamResponse createStreamId STREAM_ID)) 4 hWaiting.toAnswered rfl
  · rw [hAll]
    exact ⟨.creates hState hApp ⟨⟨hWaiting.auth, rfl⟩, hWaiting.opened⟩ (.inr rfl),
      said_grows hWaiting.toAnswered (by decide)⟩
  · rw [hNone]
    exact ⟨.gone hWaiting.toAnswered (Nat.le_of_ble_eq_true rfl) (.inl hWaiting.opened)
      (fun _ hLate => absurd hLate (by decide)) (.inl rfl), List.prefix_refl _⟩

/-- A session that is told whether the relay is admitted. -/
theorem authenticate_cases {isPull : Bool} (hAuth : t.auth = auth) (hName : t.streamName = (named s).1)
    (hQuery : t.query = (named s).2) (hPull : isPull = decide (s.clientType = .pull)) :
    Admitted digest auth s ∧ authenticate digest isPull t = .ok () t ∨
      authenticate digest isPull t = .error .error t := by
  rw [authenticate, bind_get, hAuth, hName, hQuery, hPull]
  by_cases hAdmits : Auth.admits digest auth (named s).1 ((named s).2.map .query) (s.clientType = .pull) = true
  · exact .inl ⟨hAdmits, by rw [if_pos hAdmits]; rfl⟩
  · exact .inr (by rw [if_neg hAdmits]; rfl)

/-- A session whose hub is told what the relay wants serves it, or ends. -/
theorem answers_told {x : EStateM Stop Common Unit} {f : Unit → Handler Unit}
    (hAnswered : Answered auth s (answers s.clientType).length t) (hOpened : t.common.opened = [])
    (hAdmitted : Admitted digest auth s) (hTells : Tells (wanted s t.common) t.common x)
    (hServes : ∀ common, f () { t with common } = .ok () { t with common, state := serving s.clientType }) :
    Answers digest auth s 8 (.after .reading ((onCommon x >>= f) t)) ∧
      (answers s.clientType) <+: (Served.after .reading ((onCommon x >>= f) t)).session.io.written := by
  have hBound : (answers s.clientType).length ≤ answerDue s.clientType 8 := Nat.le_of_eq (length_answers _)
  have hTold (accepted : Bool) :
      ({ t.common with sent := t.common.sent ++ [⟨wanted s t.common, accepted⟩] } : Common).opened =
        [wanted s t.common] := by
    have hOpens : opens (wanted s t.common) = true := by
      rw [wanted]
      cases s.clientType <;> rfl
    rw [Common.opened] at hOpened
    simp only [Common.opened, List.map_append, List.filter_append, hOpened, List.nil_append, List.map_cons,
      List.map_nil, List.filter_cons, hOpens, if_true, List.filter_nil]
  have hFails {e : Stop} {common : Common} (hOpened' : common.opened = [] ∨
      common.opened = [wanted s common] ∧ Admitted digest auth s) (hError : x t.common = .error e common) :
      Answers digest auth s 8 (.after .reading ((onCommon x >>= f) t)) ∧
        (answers s.clientType) <+: (Served.after .reading ((onCommon x >>= f) t)).session.io.written := by
    have hRun : onCommon x t = .error e { t with common } := by simp only [onCommon, onPart, hError]
    rw [bind_of_error hRun]
    have hAll : t.io.written = answers s.clientType := hAnswered.written.trans List.take_length
    have hWritten : (answers s.clientType) <+: t.io.written := hAll ▸ List.prefix_refl _
    cases e with
    | error =>
      exact ⟨.gone ⟨hAnswered.auth, hAnswered.written⟩ hBound hOpened' (fun _ _ => hAdmitted) (.inl rfl), hWritten⟩
    | panic =>
      exact ⟨.gone ⟨hAnswered.auth, hAnswered.written⟩ hBound hOpened' (fun _ _ => hAdmitted) (.inr rfl), hWritten⟩
  obtain ⟨accepted, hOk⟩ | ⟨e, hNothing | ⟨accepted, hError⟩⟩ := hTells
  · have hRun : onCommon x t = .ok () { t with common := { t.common with
        sent := t.common.sent ++ [⟨wanted s t.common, accepted⟩] } } := by
      simp only [onCommon, onPart, hOk]
    rw [bind_of_ok hRun, hServes]
    refine ⟨.serves (Nat.le_refl 8) rfl ⟨hAnswered.auth, hAnswered.written⟩ (hTold accepted) hAdmitted
      (.inr rfl), ?_⟩
    have hAll : t.io.written = answers s.clientType := hAnswered.written.trans List.take_length
    show answers s.clientType <+: t.io.written
    exact hAll ▸ List.prefix_refl _
  · exact hFails (.inl hOpened) hNothing
  · exact hFails (.inr ⟨hTold accepted, hAdmitted⟩) hError

/-- What the server does when the relay asks to play. -/
theorem answers_play (hType : s.clientType = .pull) (hApp : t.appName = appOf s.appName)
    (hWaiting : Waiting auth s 5 t) :
    Answers digest auth s 8 (.after .reading (onPlay digest w 0 0
        [.utf8String s.rawStreamName, .number 0, .number 0, .boolean false] t)) ∧
      t.io.written <+: (Served.after .reading (onPlay digest w 0 0
        [.utf8String s.rawStreamName, .number 0, .number 0, .boolean false] t)).session.io.written := by
  have hEleven : (answers s.clientType).length = 11 := by
    rw [hType]
    rfl
  have hDue : answerDue s.clientType 8 = 11 := by rw [← length_answers, hEleven]
  have hPull : s.clientType = .push → Admitted digest auth s := by
    rw [hType]
    rintro ⟨⟩
  have hArguments : (orPanic (playArguments [.utf8String s.rawStreamName, .number 0, .number 0, .boolean false]) :
      Handler PlayArguments) t = .ok ⟨some s.rawStreamName, some 0, some 0, some false⟩ t := rfl
  rw [onPlay, bind_of_ok hArguments]
  obtain hAll | ⟨i, hLe, hSome⟩ := @writeAll_answers auth s w t (playMessages 0 0) 5 11 hWaiting.toAnswered
    (by rw [hType]; rfl) rfl
  swap
  · have hBound : 5 + i ≤ answerDue s.clientType 8 := by
      rw [hDue]
      exact Nat.add_le_add_left hLe 5
    rw [bind_of_error hSome]
    exact ⟨answers_fail hBound hWaiting.auth hWaiting.opened fun hPush _ => hPull hPush,
      said_grows hWaiting.toAnswered (Nat.le_add_right 5 i)⟩
  obtain ⟨t1, hNamed, hAnswered, hOpened, hName, hQuery, hApp1⟩ :
      ∃ t1, setName (named s) { t with io := ⟨(answers s.clientType).take 11⟩ } = .ok () t1 ∧
        Answered auth s 11 t1 ∧ t1.common.opened = [] ∧ t1.streamName = (named s).1 ∧ t1.query = (named s).2 ∧
        t1.appName = appOf s.appName :=
    ⟨_, rfl, ⟨hWaiting.auth, rfl⟩, hWaiting.opened, rfl, rfl, hApp⟩
  have hRaw : (orPanic (some s.rawStreamName) : Handler String)
      { t with io := ⟨(answers s.clientType).take 11⟩ } =
        .ok s.rawStreamName { t with io := ⟨(answers s.clientType).take 11⟩ } := rfl
  rw [bind_of_ok hAll, bind_of_ok hRaw, ← named, bind_of_ok hNamed]
  obtain ⟨hAdmitted, hAuth⟩ | hAuth := authenticate_cases hAnswered.auth hName hQuery
    (by rw [hType]; rfl : true = decide (s.clientType = .pull))
  · have hTells : Tells (wanted s t1.common) t1.common
        (Common.subscribeFromStreamHub w t1.appName t1.streamName) := by
      rw [wanted, hType, ← hName, ← hApp1]
      exact tells_subscribe w _ _ _
    rw [bind_of_ok hAuth, bind_get]
    have hTold := answers_told (f := fun _ => modify fun t => { t with state := .play })
      (by rw [hEleven]; exact hAnswered) hOpened hAdmitted hTells (by rw [hType]; exact fun _ => rfl)
    refine ⟨hTold.1, List.IsPrefix.trans ?_ hTold.2⟩
    rw [hWaiting.written]
    exact List.take_prefix _ _
  · rw [bind_of_error hAuth]
    refine ⟨.gone hAnswered (Nat.le_of_eq hDue.symm) (.inl hOpened) (fun hPush _ => hPull hPush) (.inl rfl), ?_⟩
    show t.io.written <+: t1.io.written
    rw [hAnswered.written]
    exact said_grows hWaiting.toAnswered (by decide)

/-- What the server does when the relay asks to publish. -/
theorem answers_publish (hType : s.clientType = .push) (hNamed : s.rawStreamName ≠ "")
    (hState : t.state = .readChunk) (hApp : t.appName = appOf s.appName) (hWaiting : Waiting auth s 5 t) :
    Answers digest auth s 8 (.after .reading (onPublish digest w publishId 0
        [.utf8String s.rawStreamName, .utf8String "live"] t)) ∧
      t.io.written <+: (Served.after .reading (onPublish digest w publishId 0
        [.utf8String s.rawStreamName, .utf8String "live"] t)).session.io.written := by
  have hSeven : (answers s.clientType).length = 7 := by
    rw [hType]
    rfl
  have hDue : answerDue s.clientType 8 = 7 := by rw [← length_answers, hSeven]
  obtain ⟨t1, hName1, hWaiting1, hName, hQuery, hApp1, hState1⟩ :
      ∃ t1, namePublisher s.rawStreamName t = .ok () t1 ∧ Waiting auth s 5 t1 ∧ t1.streamName = (named s).1 ∧
        t1.query = (named s).2 ∧ t1.appName = appOf s.appName ∧ t1.state = .readChunk := by
    refine ⟨{ t with streamName := (named s).1, query := (named s).2 }, ?_,
      ⟨⟨hWaiting.auth, hWaiting.written⟩, hWaiting.opened⟩, rfl, rfl, hApp, hState⟩
    rw [namePublisher, bind_get, publishedName, if_pos hNamed]
    rfl
  have hRun : onPublish digest w publishId 0 [.utf8String s.rawStreamName, .utf8String "live"] t =
      (authenticate digest false >>= fun _ => writeAll w (reply .push) >>= fun _ => get >>= fun t =>
        onCommon (Common.publishToStreamHub w t.appName t.streamName)) t1 := bind_of_ok hName1
  rw [hRun]
  have hSame : t.io.written = t1.io.written := by rw [hWaiting.written, hWaiting1.written]
  rw [hSame]
  obtain ⟨hAdmitted, hAuth⟩ | hAuth := authenticate_cases hWaiting1.auth hName hQuery
    (by rw [hType]; rfl : false = decide (s.clientType = .pull))
  swap
  · rw [bind_of_error hAuth]
    exact ⟨.gone hWaiting1.toAnswered (by rw [hDue]; decide) (.inl hWaiting1.opened)
      (fun _ hLate => absurd hLate (by decide)) (.inl rfl), List.prefix_refl _⟩
  rw [bind_of_ok hAuth]
  obtain hAll | ⟨i, hLe, hSome⟩ := @writeAll_answers auth s w t1 (reply .push) 5 7 hWaiting1.toAnswered
    (by rw [hType]; rfl) rfl
  swap
  · have hBound : 5 + i ≤ answerDue s.clientType 8 := by
      rw [hDue]
      exact Nat.add_le_add_left hLe 5
    rw [bind_of_error hSome]
    exact ⟨answers_fail hBound hWaiting1.auth hWaiting1.opened fun _ _ => hAdmitted,
      said_grows hWaiting1.toAnswered (Nat.le_add_right 5 i)⟩
  obtain ⟨t2, hWritten, hAnswered, hOpened, hTells, hServes⟩ :
      ∃ t2, writeAll w (reply .push) t1 = .ok () t2 ∧ Answered auth s 7 t2 ∧ t2.common.opened = [] ∧
        Tells (wanted s t2.common) t2.common (Common.publishToStreamHub w t2.appName t2.streamName) ∧
        ∀ common : Common, (pure () : Handler Unit) { t2 with common } =
          .ok () { t2 with common, state := serving s.clientType } := by
    refine ⟨_, hAll, ⟨hWaiting1.auth, rfl⟩, hWaiting1.opened, ?_, fun common => ?_⟩
    · rw [wanted, hType, ← hName, ← hApp1]
      exact tells_publish w _ _ _
    · rw [hType, serving, ← hState1]
      rfl
  rw [bind_of_ok hWritten, bind_get]
  have hTold := answers_told (f := pure) (by rw [hSeven]; exact hAnswered) hOpened hAdmitted hTells hServes
  rw [bind_pure] at hTold
  refine ⟨hTold.1, List.IsPrefix.trans ?_ hTold.2⟩
  rw [hWaiting1.written]
  exact List.take_prefix _ _

/-- What the relay asks is heard as the script has it. -/
theorem answers_hear {k : Nat} (hShort : s.Short) (hNamed : s.clientType = .push → s.rawStreamName ≠ "")
    (h : Answers digest auth s k c) (hNext : (asks s)[k]? = some m) (hHear : c.hears digest w m = some c') :
    Answers digest auth s (k + 1) c' ∧ c.session.io.written <+: c'.session.io.written := by
  cases h with
  | shakes hState hWaiting => exact (not_served_hears (by rintro ⟨⟩) hHear).elim
  | @greets k t phase hLess hState hWaiting hAlive =>
    obtain rfl | rfl : k = 0 ∨ k = 1 := by omega
    · obtain rfl := Option.some.inj hNext
      obtain ⟨hReading, rfl⟩ :=
        served_hears_inert (parsed_control (.setChunkSize Chunk.CHUNK_SIZE)) (fun _ => rfl) hHear
      exact ⟨.greets (Nat.le_refl 1) hState hWaiting (.inr hReading), List.prefix_refl _⟩
    · obtain rfl := Option.some.inj hNext
      obtain ⟨-, rfl⟩ := served_hears (parsed_command (plain_connect connectId hShort) rfl) hHear
      have hNodup := (connectPairs_names (connectProperties s)).nodup (by decide)
      rw [properties_eq hNodup]
      exact answers_connect hState hWaiting
  | @connects k t phase hFrom hLess hState hApp hWaiting hAlive =>
    have hStays (hMore : k + 1 ≤ 6) (hSame : phase = .reading ∧ c' = ⟨t, phase⟩) :
        Answers digest auth s (k + 1) c' ∧ t.io.written <+: c'.session.io.written := by
      obtain ⟨hReading, rfl⟩ := hSame
      exact ⟨.connects (Nat.le_succ_of_le hFrom) hMore hState hApp hWaiting (.inr hReading), List.prefix_refl _⟩
    obtain rfl | rfl | rfl | rfl | rfl : k = 2 ∨ k = 3 ∨ k = 4 ∨ k = 5 ∨ k = 6 := by omega
    · obtain rfl := Option.some.inj hNext
      exact hStays (by decide)
        (served_hears_inert (parsed_control (.windowAcknowledgementSize 5000000)) (fun _ => rfl) hHear)
    · obtain rfl := Option.some.inj hNext
      exact hStays (by decide)
        (served_hears_inert (parsed_control (.acknowledgement 3107)) (fun _ => rfl) hHear)
    · obtain rfl := Option.some.inj hNext
      exact hStays (by decide)
        (served_hears_inert (parsed_command (plain_releaseStream hShort) rfl) (fun _ => rfl) hHear)
    · obtain rfl := Option.some.inj hNext
      exact hStays (by decide)
        (served_hears_inert (parsed_command (plain_fcpublish hShort) rfl) (fun _ => rfl) hHear)
    · obtain rfl := Option.some.inj hNext
      obtain ⟨-, rfl⟩ := served_hears (parsed_command (plain_createStream createStreamId) rfl) hHear
      exact answers_createStream hState hApp hWaiting
  | creates hState hApp hWaiting hAlive =>
    have hFirst : (messagesOf s (request s.clientType))[0]? = some m := hNext
    cases hType : s.clientType with
    | pull =>
      rw [hType] at hFirst
      obtain rfl := Option.some.inj hFirst
      obtain ⟨-, rfl⟩ := served_hears (parsed_command (plain_play hShort) rfl) hHear
      exact answers_play hType hApp hWaiting
    | push =>
      rw [hType] at hFirst
      obtain rfl := Option.some.inj hFirst
      obtain ⟨-, rfl⟩ := served_hears (parsed_command (plain_publish hShort) rfl) hHear
      exact answers_publish hType (hNamed hType) hState hApp hWaiting
  | @serves k t phase hFrom hState hAnswered hOpened hAdmitted hAlive =>
    have hStays (hSame : phase = .reading ∧ c' = ⟨t, phase⟩) :
        Answers digest auth s (k + 1) c' ∧ t.io.written <+: c'.session.io.written := by
      obtain ⟨hReading, rfl⟩ := hSame
      exact ⟨.serves (Nat.le_succ_of_le hFrom) hState hAnswered hOpened hAdmitted (.inr hReading),
        List.prefix_refl _⟩
    obtain ⟨hBound, -⟩ := List.getElem?_eq_some_iff.mp hNext
    rw [length_asks] at hBound
    cases hType : s.clientType with
    | pull =>
      rw [hType] at hBound
      obtain ⟨i, rfl⟩ := Nat.exists_eq_add_of_le' (Nat.le_trans (by decide : 7 ≤ 8) hFrom)
      have hRest : (messagesOf s (request s.clientType))[i]? = some m := hNext
      rw [hType] at hRest
      obtain rfl | rfl : i = 1 ∨ i = 2 := by
        have hUpper : i + 7 < 10 := hBound
        omega
      · obtain rfl := Option.some.inj hRest
        exact hStays (served_hears_inert (parsed_command (plain_getStreamLength hShort) rfl) (fun _ => rfl) hHear)
      · obtain rfl := Option.some.inj hRest
        exact hStays (served_hears_inert (parsed_control (.setBufferLength 1 1300)) (fun _ => rfl) hHear)
    | push =>
      rw [hType] at hBound
      exact absurd hBound (Nat.not_lt.mpr hFrom)
  | gone hAnswered hBound hOpened hStarts hDead =>
    exact (not_served_hears hDead.not_reading hHear).elim

end Hear

/-- The server follows its script. -/
theorem answering_follows (hShort : s.Short) (hNamed : s.clientType = .push → s.rawStreamName ≠ "") :
    (answering digest auth).Follows (answers s.clientType) (asks s) (answerDue s.clientType) (askDue s.clientType)
      (Answers digest auth s) where
  init := by
    rintro c ⟨sessionId, remoteAddr, rfl⟩
    exact .shakes rfl ⟨⟨rfl, rfl⟩, rfl⟩
  said := by
    intro k c h
    obtain ⟨n, hAnswered, hBound, -⟩ := h.form
    have hSaid : (answering digest auth).said c = (answers s.clientType).take n := hAnswered.written
    rw [hSaid]
    exact ⟨List.take_prefix n _, (List.length_take_le n _).trans hBound⟩
  act := fun _ _ _ _ h hAct => answers_act h hAct
  hear := fun _ _ _ _ _ h _ hNext hHear => answers_hear hShort hNamed h hNext hHear

end Xiu.Rtmp.Session
