import Xiu.Rtmp.Session.Release

/-! A server's session has given back all that it has published when `run` returns, as long as
nothing disturbs it while it publishes: no other name, no `play`, no second `publish`, no failure of a
write, of a medium or of the message parser. -/

namespace Xiu.Rtmp.Session

open Xiu.Common ProofKit StreamHub Flv.Amf0 Messages

def isMedia : RtmpMessageData → Bool
  | .audioData _ | .videoData _ | .amfData _ => true
  | _ => false

/-- What a message must not do while the session publishes: give it another application, or none, or
make it write what cannot be written; play; publish; delete the stream while the hub does not listen;
be a medium that cannot be passed on.  Nor must a session publish that has played before. -/
structure Undisturbed (w : Surroundings) (message : RtmpMessageData) (s : ServerSession) : Prop where
  connect : (commandOf message).1 = "connect" → s.published ≠ [] →
    (∃ app, ((commandOf message).2.1.lookup "app").bind asText = some app ∧ appOf app = s.appName) ∧
      ∀ i < 3, w.flushed (s.io.written.length + i) = true
  createStream : (commandOf message).1 = "createStream" → s.published ≠ [] →
    w.flushed s.io.written.length = true
  play : (commandOf message).1 = "play" → s.published = []
  publish : (commandOf message).1 = "publish" →
    s.published = [] ∧ (w.hubListens = true → w.accepted = true → s.state = .readChunk)
  delete : (commandOf message).1 = "deleteStream" → (commandOf message).2.2 ≠ [] →
    s.published ≠ [] → w.hubListens = true
  media : isMedia message = true → s.published ≠ [] → w.media = none

/-- Messages are undisturbed; while the session publishes, the message parser does not fail, and the
hub listens when a read or a chunk does. -/
def UndisturbedMove (c : Served) : Move → Prop
  | .message w _ message => Undisturbed w message c.session
  | .parseFails => c.session.published = []
  | .readFails w | .cannotParse w => c.session.published ≠ [] → w.hubListens = true
  | _ => True

/-- The session publishes nothing, or one stream under its present names, and it goes on reading. -/
def Served.Settled (c : Served) : Prop :=
  c.session.published = [] ∨
    c.session.published = [c.session.identifier] ∧ c.session.state = .readChunk ∧
      (c.phase = .looping ∨ c.phase = .reading)

variable {digest : String → String} {w : Surroundings} {s : ServerSession}

/-! ### Messages to a session that publishes -/

/-- A handler that comes to its end and leaves names, state and publications as they are. -/
def Continues (x : Handler Unit) (s : ServerSession) : Prop :=
  ∃ s1, x s = .ok () s1 ∧ s1.identifier = s.identifier ∧ s1.state = s.state ∧ s1.common = s.common

theorem continues_pure : Continues (pure ()) s := ⟨s, rfl, rfl, rfl, rfl⟩

theorem write_flushed {message : Written} (h : w.flushed s.io.written.length = true) :
    write w message s = .ok () { s with io := ⟨s.io.written ++ [message]⟩ } := by
  simp only [write, onPart, Io.write, bind_get, h, if_true]
  rfl

theorem writes_flushed {messages : List Written}
    (h : ∀ i < messages.length, w.flushed (s.io.written.length + i) = true) :
    writeAll w messages s = .ok () { s with io := ⟨s.io.written ++ messages⟩ } := by
  simp only [writeAll, onPart, Io.writeAll_flushed h]

theorem continues_connect {transactionId : UInt64} {obj : List (String × Amf0ValueType)} {app : String}
    (hApp : (obj.lookup "app").bind asText = some app) (hSame : appOf app = s.appName)
    (hFlushed : ∀ i < 3, w.flushed (s.io.written.length + i) = true) :
    Continues (onConnect w transactionId obj) s := by
  have hWrites : ∀ (p : ConnectProperties) (first second : Written),
      writeAll w [first, second] { s with connectProperties := p } =
        .ok () { s with connectProperties := p, io := ⟨s.io.written ++ [first, second]⟩ } :=
    fun p first second => writes_flushed fun i hLt => hFlushed i (Nat.lt_succ_of_lt hLt)
  simp only [Continues, onConnect, parseConnectProperties, bind_assoc, bind_get, bind_set]
  rw [bind_of_ok (hWrites _ _ _), takeApp, hApp]
  dsimp only
  rw [bind_modify, write_flushed]
  · refine ⟨_, rfl, ?_, rfl, rfl⟩
    simp only [ServerSession.identifier, hSame]
  · have hLast := hFlushed 2 (by omega)
    simpa using hLast

/-- A message to a session that publishes leaves the session as it is, or deletes its stream. -/
theorem message_undisturbed {msgStreamId : UInt32} {message : RtmpMessageData}
    (h : Undisturbed w message s) (hHeld : s.published ≠ []) :
    Continues (processMessages digest w msgStreamId message) s ∨
      ∃ state, (stateOf (processMessages digest w msgStreamId message s)).ledger =
        { s.ledger.send (.unPublish s.ledger.identifier s.common.getPublisherInfo) true with
          state := state } := by
  cases message with
  | amf0Command commandName transactionId commandObject others =>
    simp only [processMessages, onAmf0CommandMessage]
    split
    · rename_i hName
      obtain ⟨⟨app, hApp, hSame⟩, hFlushed⟩ := h.connect hName hHeld
      exact .inl (continues_connect hApp hSame hFlushed)
    split
    · rename_i hName
      exact .inl ⟨_, write_flushed (h.createStream hName hHeld), rfl, rfl, rfl⟩
    split
    · rename_i hName
      cases others with
      | nil => exact .inl continues_pure
      | cons first rest =>
        exact .inr (ledger_delete (h.delete hName (List.cons_ne_nil _ _) hHeld) s)
    split
    · rename_i hName
      exact absurd (h.play hName) hHeld
    split
    · rename_i hName
      exact absurd (h.publish hName).1 hHeld
    · exact .inl continues_pure
  | audioData data =>
    rw [processMessages, onMedia, h.media rfl hHeld]
    exact .inl continues_pure
  | videoData data =>
    rw [processMessages, onMedia, h.media rfl hHeld]
    exact .inl continues_pure
  | amfData rawData =>
    rw [processMessages, onMedia, h.media rfl hHeld]
    exact .inl continues_pure
  | _ => exact .inl continues_pure

/-! ### Messages to a session that does not -/

/-- A handler that tells the hub nothing when it fails. -/
def FailsSilently {α : Type} (x : Handler α) : Prop :=
  ∀ s e s', x s = .error e s' → s'.common = s.common

theorem Keeps.common {α : Type} {x : Handler α} (hx : Keeps x) (s : ServerSession) :
    (stateOf (x s)).common = s.common := congrArg Ledger.common (hx s)

theorem FailsSilently.bind {α β : Type} {x : Handler α} {f : α → Handler β}
    (hx : ∀ s, (stateOf (x s)).common = s.common) (hf : ∀ a, FailsSilently (f a)) :
    FailsSilently (x >>= f) := by
  intro s e s' h
  have hCommon := hx s
  rcases bind_eq_error h with hError | ⟨a, s1, hOk, hError⟩
  · rwa [hError] at hCommon
  · rw [hOk] at hCommon
    exact (hf a s1 e s' hError).trans hCommon

theorem failsSilently_throw {α : Type} (e : Stop) : FailsSilently (throw e : Handler α) := by
  intro s e' s' h
  cases h
  rfl

/-- A `publish` that the hub would grant and that fails all the same has failed before. -/
theorem failsSilently_publish {transactionId : UInt64} {streamId : UInt32}
    {others : List Amf0ValueType} (hListens : w.hubListens = true) (hAccepted : w.accepted = true) :
    FailsSilently (onPublish digest w transactionId streamId others) := by
  rw [onPublish.eq_def]
  split
  swap
  · exact failsSilently_throw _
  rename_i first second rest
  rcases asText first with _ | raw
  · exact failsSilently_throw _
  refine FailsSilently.bind ?_ fun _ => FailsSilently.bind (keeps_authenticate _).common fun _ => ?_
  · intro s
    simp only [namePublisher, bind_get]
    rcases publishedName raw s.connectProperties.swfUrl with _ | name <;> rfl
  rcases asText second with _ | kind
  · exact failsSilently_throw _
  refine FailsSilently.bind (keeps_writeAll _).common fun _ => ?_
  intro s e s' h
  simp only [bind_get, onCommon, onPart, Common.publishToStreamHub, Common.send, hListens, hAccepted,
    if_true, bind_modify] at h
  cases h

/-- A session that publishes nothing, once a message has been handled. -/
inductive Quiet : EStateM.Result Stop ServerSession Unit → Prop where
  | nothing (r : EStateM.Result Stop ServerSession Unit) (none : (stateOf r).published = []) :
      Quiet r
  | published (s1 : ServerSession) (one : s1.published = [s1.identifier])
      (reads : s1.state = .readChunk) : Quiet (.ok () s1)

/-- A command that is no `publish` publishes nothing. -/
theorem published_effect {cmdName : String} {obj : List (String × Amf0ValueType)}
    {others : List Amf0ValueType} {l l' : Ledger} (hEffect : Effect digest w cmdName obj others l l')
    (hNone : l.published = []) (hOther : cmdName ≠ "publish") : l'.published = [] := by
  cases hEffect with
  | none | properties | connect | playName => exact hNone
  | play hPlay raw hPlayed hAdmitted state => exact tell_subscribed.trans hNone
  | publishName hPublish => exact absurd hPublish hOther
  | publish hPublish => exact absurd hPublish hOther
  | delete hDelete hGiven hListens state =>
    refine send_unpublished.trans ?_
    rw [hNone]
    rfl

/-- A `publish` that is not granted publishes nothing. -/
theorem published_ungranted {obj : List (String × Amf0ValueType)} {others : List Amf0ValueType}
    {l l' : Ledger} (hEffect : Effect digest w "publish" obj others l l')
    (hGrants : ¬(w.hubListens ∧ w.accepted)) (hNone : l.published = []) : l'.published = [] := by
  cases hEffect with
  | none | properties | connect | playName | publishName => exact hNone
  | play hPlay => exact absurd hPlay (by decide)
  | delete hDelete => exact absurd hDelete (by decide)
  | publish hPublish name hName hAdmitted =>
    refine tell_published.trans ?_
    rw [if_neg hGrants]
    exact hNone

/-- A `publish` that is granted publishes under the names that it leaves, unless it was not asked
for. -/
theorem published_granted {obj : List (String × Amf0ValueType)} {others : List Amf0ValueType}
    {l l' : Ledger} (hEffect : Effect digest w "publish" obj others l l')
    (hGrants : w.hubListens ∧ w.accepted) (hNone : l.published = []) :
    l'.published = [] ∨ l'.published = [l'.identifier] ∧ l'.state = l.state := by
  cases hEffect with
  | none | properties | connect | playName | publishName => exact .inl hNone
  | play hPlay => exact absurd hPlay (by decide)
  | delete hDelete => exact absurd hDelete (by decide)
  | publish hPublish name hName hAdmitted =>
    have hNamed : (l.named name).published = [] := hNone
    refine .inr ?_
    rw [tell_published, if_pos hGrants, hNamed, Ledger.tell, if_pos hGrants.1]
    exact ⟨rfl, rfl⟩

/-- A `publish` publishes under the names that it leaves, or nothing. -/
theorem published_publish {transactionId : UInt64} {streamId : UInt32} {others : List Amf0ValueType}
    (hNone : s.published = [])
    (hReads : w.hubListens = true → w.accepted = true → s.state = .readChunk) :
    Quiet (onPublish digest w transactionId streamId others s) := by
  have hEffect := @effect_publish digest w transactionId streamId [] others s
  cases hResult : onPublish digest w transactionId streamId others s with
  | error e s1 =>
    rw [hResult] at hEffect
    refine .nothing _ ?_
    by_cases hGrants : w.hubListens ∧ w.accepted
    · have hCommon := failsSilently_publish hGrants.1 hGrants.2 _ _ _ hResult
      have hSame : s1.published = s.published := by
        rw [ServerSession.published, Ledger.published, ServerSession.ledger, hCommon]
        rfl
      exact hSame.trans hNone
    · exact published_ungranted hEffect hGrants hNone
  | ok u s1 =>
    rw [hResult] at hEffect
    by_cases hGrants : w.hubListens ∧ w.accepted
    · rcases published_granted hEffect hGrants hNone with hNothing | ⟨hOne, hState⟩
      · exact .nothing _ hNothing
      · exact .published s1 hOne (hState.trans (hReads hGrants.1 hGrants.2))
    · exact .nothing _ (published_ungranted hEffect hGrants hNone)

theorem quiet_processMessages {msgStreamId : UInt32} {message : RtmpMessageData}
    (h : Undisturbed w message s) (hNone : s.published = []) :
    Quiet (processMessages digest w msgStreamId message s) := by
  have hEffect := effect_processMessages digest w msgStreamId message s
  by_cases hPublish : (commandOf message).1 = "publish"
  · cases message with
    | amf0Command commandName transactionId commandObject others =>
      have hName : (asText commandName).getD "" = "publish" := hPublish
      have hHandled : processMessages digest w msgStreamId
          (.amf0Command commandName transactionId commandObject others) =
          onPublish digest w ((asNumber transactionId).getD 0) msgStreamId others := by
        simp only [processMessages, onAmf0CommandMessage, hName]
        rfl
      rw [hHandled]
      exact published_publish hNone (h.publish hPublish).2
    | _ =>
      have hNoName : "" = "publish" := hPublish
      exact absurd hNoName (by decide)
  · exact .nothing _ (published_effect hEffect hNone hPublish)

/-! ### Runs -/

theorem Quiet.settled {r : EStateM.Result Stop ServerSession Unit} (h : Quiet r) :
    (Served.after .reading r).Settled := by
  cases h with
  | nothing r hNone =>
    refine .inl ?_
    rw [session_after]
    exact hNone
  | published s1 hOne hReads => exact .inr ⟨hOne, hReads, .inr rfl⟩

/-- A session that publishes one stream, and gives back what is named by its present names, publishes
nothing. -/
theorem given_back {l : Ledger} {info : PublisherInfo} (h : l.published = [l.identifier]) :
    (l.send (.unPublish l.identifier info) true).published = [] := by
  rw [send_unpublished, h, List.erase_cons_head]

theorem settled_message {msgStreamId : UInt32} {message : RtmpMessageData}
    (hUndisturbed : Undisturbed w message s)
    (h : s.published = [] ∨ s.published = [s.identifier] ∧ s.state = .readChunk) :
    (Served.after .reading (processMessages digest w msgStreamId message s)).Settled := by
  rcases h with hNone | ⟨hOne, hReads⟩
  · exact (quiet_processMessages hUndisturbed hNone).settled
  have hHeld : s.published ≠ [] := by
    rw [hOne]
    exact List.cons_ne_nil _ _
  rcases @message_undisturbed digest _ _ msgStreamId _ hUndisturbed hHeld with
    ⟨s1, hOk, hIdentifier, hState, hCommon⟩ | ⟨state, hDeleted⟩
  · rw [hOk]
    refine .inr ⟨?_, hState.trans hReads, .inr rfl⟩
    have hSame : s1.published = s.published :=
      congrArg (fun common : Common => publications.heldBy common.sent) hCommon
    rw [Served.after, hSame, hIdentifier]
    exact hOne
  · refine .inl ?_
    rw [session_after, ServerSession.published, hDeleted]
    exact given_back hOne

/-- A session that leaves has given back what it published, if the hub listens. -/
theorem settled_leave {phase : Phase} (hListens : s.published ≠ [] → w.hubListens = true)
    (h : s.published = [] ∨ s.published = [s.identifier]) :
    (Served.after phase (leave w s)).session.published = [] := by
  rw [session_after, ServerSession.published, ledger_leave, Ledger.tell]
  rcases h with hNone | hOne
  · split
    · rw [send_unpublished]
      change s.published.erase _ = []
      rw [hNone]
      rfl
    · exact hNone
  · have hHeld : s.published ≠ [] := by
      rw [hOne]
      exact List.cons_ne_nil _ _
    rw [if_pos (hListens hHeld)]
    exact given_back hOne

theorem Served.Settled.held {c : Served} (h : c.Settled) :
    c.session.published = [] ∨
      c.session.published = [c.session.identifier] ∧ c.session.state = .readChunk :=
  h.imp_right fun hOne => ⟨hOne.1, hOne.2.1⟩

/-- A session in another state than that of reading publishes nothing. -/
theorem Served.Settled.none {c : Served} (h : c.Settled) {state : ServerSessionState}
    (hState : c.session.state = state) (hOther : state ≠ .readChunk) : c.session.published = [] := by
  rcases h with hNone | ⟨-, hReads, -⟩
  · exact hNone
  · exact absurd (hState.symm.trans hReads) hOther

theorem settled_step {c c' : Served} {move : Move} (h : c.step digest move = some c')
    (hUndisturbed : UndisturbedMove c move) (hSettled : c.Settled) : c'.Settled := by
  have hLeft := hSettled.held.imp_right And.left
  cases move with
  | handshake =>
    obtain ⟨-, hAfter⟩ := Option.ite_none_right_eq_some.mp h
    cases hAfter
    exact hSettled
  | handshakeDone w left =>
    obtain ⟨⟨-, hState⟩, hAfter⟩ := Option.ite_none_right_eq_some.mp h
    cases hAfter
    refine .inl ?_
    rw [session_after, ServerSession.published, ledger_finishHandshake]
    exact hSettled.none hState (by decide)
  | handshakeFails =>
    obtain ⟨⟨-, hState⟩, hAfter⟩ := Option.ite_none_right_eq_some.mp h
    cases hAfter
    exact .inl (hSettled.none hState (by decide))
  | receive =>
    obtain ⟨-, hAfter⟩ := Option.ite_none_right_eq_some.mp h
    cases hAfter
    exact hSettled.held.imp_right fun hOne => ⟨hOne.1, hOne.2, .inr rfl⟩
  | readFails w =>
    obtain ⟨-, hAfter⟩ := Option.ite_none_right_eq_some.mp h
    cases hAfter
    exact .inl (settled_leave hUndisturbed hLeft)
  | message w msgStreamId message =>
    obtain ⟨-, hAfter⟩ := Option.ite_none_right_eq_some.mp h
    cases hAfter
    exact settled_message hUndisturbed hSettled.held
  | parseFails =>
    obtain ⟨-, hAfter⟩ := Option.ite_none_right_eq_some.mp h
    cases hAfter
    exact .inl hUndisturbed
  | cannotParse w =>
    obtain ⟨-, hAfter⟩ := Option.ite_none_right_eq_some.mp h
    cases hAfter
    exact .inl (settled_leave hUndisturbed hLeft)
  | drained =>
    obtain ⟨-, hAfter⟩ := Option.ite_none_right_eq_some.mp h
    cases hAfter
    exact hSettled.held.imp_right fun hOne => ⟨hOne.1, hOne.2, .inl rfl⟩
  | playFails w =>
    obtain ⟨⟨-, hState⟩, hAfter⟩ := Option.ite_none_right_eq_some.mp h
    cases hAfter
    refine .inl ?_
    rw [session_after, ServerSession.published, ledger_leavePlay, Ledger.tell]
    have hNone : c.session.ledger.published = [] := hSettled.none hState (by decide)
    split
    · exact (Dealing.heldBy_quiet rfl rfl).trans hNone
    · exact hNone
  | deleted =>
    obtain ⟨⟨-, hState⟩, hAfter⟩ := Option.ite_none_right_eq_some.mp h
    cases hAfter
    exact .inl (hSettled.none hState (by decide))

/-- A session that nothing disturbs while it publishes has given back everything that it has published
when `run` returns. -/
theorem publications_released {auth : Option Auth} {c : Served}
    (h : ((session digest auth).guard UndisturbedMove).Reached c) (hEnded : c.phase = .ended) :
    c.session.published = [] := by
  have hSettled : c.Settled := by
    refine System.Reached.invariant ?_ ?_ h
    · rintro c ⟨sessionId, remoteAddr, rfl⟩
      exact .inl rfl
    · rintro c move c' hc ⟨hUndisturbed, hStep⟩
      exact settled_step hStep hUndisturbed hc
  rcases hSettled with hNone | ⟨-, -, hPhase⟩
  · exact hNone
  · rw [hEnded] at hPhase
    exact absurd hPhase (by decide)

/-- A client publishes a stream, and then sends what is no chunk. -/
theorem broken_publisher_released :
    ∃ c : Served, c.phase = .ended ∧ c.session.common.sent.length = 2 ∧ c.session.published = [] := by
  let w : Surroundings := ⟨true, true, fun _ => true, none⟩
  let connect := commandMessage "connect" [("app", .utf8String "live")] []
  let publish := commandMessage "publish" [] [.utf8String "cam", .utf8String "live"]
  let start : Served := ⟨.new (Uuid.new .four 1700000000 fun _ => 0) none none, .looping⟩
  obtain ⟨c1, h1, c2, h2, c3, h3, ⟨hNone, hReads⟩, c4, h4, c5, h5, hEnded, hLength⟩ :
      ∃ c1 ∈ start.step id (.handshakeDone w false), ∃ c2 ∈ c1.step id .receive,
      ∃ c3 ∈ c2.step id (.message w 0 connect),
      (c3.session.published = [] ∧ c3.session.state = .readChunk) ∧
      ∃ c4 ∈ c3.step id (.message w 0 publish), ∃ c5 ∈ c4.step id (.cannotParse w),
        c5.phase = .ended ∧ c5.session.common.sent.length = 2 := by
    decide +kernel
  have hConnect : Undisturbed w connect c2.session := by
    have hNothing : c2.session.published = [] := by
      cases h1
      cases h2
      rfl
    exact ⟨fun _ h => absurd hNothing h, fun h => absurd h (by decide), fun h => absurd h (by decide),
      fun h => absurd h (by decide), fun h => absurd h (by decide), fun h => absurd h (by decide)⟩
  have hPublish : Undisturbed w publish c3.session :=
    ⟨fun h => absurd h (by decide), fun h => absurd h (by decide), fun h => absurd h (by decide),
      fun _ => ⟨hNone, fun _ _ => hReads⟩, fun h => absurd h (by decide),
      fun h => absurd h (by decide)⟩
  have hReached : ((session id none).guard UndisturbedMove).Reached c5 :=
    ⟨start, [.handshakeDone w false, .receive, .message w 0 connect, .message w 0 publish,
      .cannotParse w], ⟨_, _, rfl⟩,
      .cons ⟨trivial, h1⟩ (.cons ⟨trivial, h2⟩ (.cons ⟨hConnect, h3⟩ (.cons ⟨hPublish, h4⟩
      (.cons ⟨fun _ => rfl, h5⟩ (.nil _)))))⟩
  exact ⟨c5, hEnded, hLength, publications_released hReached hEnded⟩

/-- A publisher that sends an empty audio message leaves its stream behind: the error of its handling
ends the session at once. -/
theorem empty_audio_keeps_stream :
    ¬∀ (digest : String → String) (auth : Option Auth) (c : Served),
      (session digest auth).Reached c → c.phase = .ended → c.session.published = [] := by
  intro h
  let w : Surroundings := ⟨true, true, fun _ => true, none⟩
  let start : Served := ⟨.new (Uuid.new .four 1700000000 fun _ => 0) none none, .looping⟩
  obtain ⟨c, hRun, hEnded, hPublished⟩ : ∃ c ∈ start.run id
      [.handshakeDone w false, .receive,
        .message w 0 (commandMessage "connect" [("app", .utf8String "live")] []),
        .message w 0 (commandMessage "publish" [] [.utf8String "cam", .utf8String "live"]),
        .message { w with media := some .error } 0 (.audioData [])],
      c.phase = .ended ∧ c.session.published ≠ [] := by
    decide +kernel
  exact hPublished (h id none c (reached_run ⟨_, [], ⟨_, _, rfl⟩, .nil _⟩ hRun) hEnded)

end Xiu.Rtmp.Session
