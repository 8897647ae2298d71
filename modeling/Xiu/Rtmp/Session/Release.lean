import Xiu.ProofKit.Holdings
import Xiu.Rtmp.Session.Ledger

/-! What a server's session of RTMP has published, and what it gives back.  A session gives back only
what it has published as long as it is given a reason to leave only while it publishes, and its names
stay what they are meanwhile; and it has given back everything when it ends as long as it is then told
of no failure but that of a read or of a chunk. -/

namespace Xiu.Rtmp.Session

open Xiu.Common ProofKit StreamHub Flv.Amf0 Messages

/-! ### Publications -/

/-- The identifier that the hub has let the session publish under. -/
def Sent.publishes (e : Sent) : Option StreamIdentifier :=
  match e.event, e.accepted with
  | .publish identifier _, true => some identifier
  | _, _ => none

def Sent.unpublishes (e : Sent) : Option StreamIdentifier :=
  match e.event with
  | .unPublish identifier _ => some identifier
  | _ => none

def publications : Dealing Sent StreamIdentifier := ⟨Sent.publishes, Sent.unpublishes⟩

/-- What the session has published and not given back. -/
def Ledger.published (l : Ledger) : List StreamIdentifier := publications.heldBy l.common.sent

def ServerSession.published (s : ServerSession) : List StreamIdentifier := s.ledger.published

/-- Every stream that the session has given back was published by it, and not given back before. -/
def Ledger.Sound (l : Ledger) : Prop := publications.Sound l.common.sent

theorem tell_published {w : Surroundings} {l : Ledger} {identifier : StreamIdentifier}
    {info : PublisherInfo} {accepted : Bool} :
    (l.tell w (.publish identifier info) accepted).published =
      if w.hubListens ∧ accepted then identifier :: l.published else l.published := by
  rw [Ledger.tell]
  cases w.hubListens with
  | false => simp
  | true =>
    cases accepted with
    | false =>
      rw [if_pos rfl, if_neg (by simp)]
      exact Dealing.heldBy_quiet rfl rfl
    | true =>
      rw [if_pos rfl, if_pos ⟨rfl, rfl⟩]
      exact Dealing.heldBy_takes rfl

theorem tell_subscribed {w : Surroundings} {l : Ledger} {identifier : StreamIdentifier}
    {info : SubscriberInfo} {accepted : Bool} :
    (l.tell w (.subscribe identifier info) accepted).published = l.published := by
  rw [Ledger.tell]
  split
  · exact Dealing.heldBy_quiet rfl rfl
  · rfl

theorem send_unpublished {l : Ledger} {identifier : StreamIdentifier} {info : PublisherInfo} :
    (l.send (.unPublish identifier info) true).published = l.published.erase identifier :=
  Dealing.heldBy_gives rfl rfl

theorem Ledger.Sound.tell {w : Surroundings} {l : Ledger} (h : l.Sound) {event : StreamHubEvent}
    {accepted : Bool} (hQuiet : (⟨event, accepted⟩ : Sent).unpublishes = none) :
    (l.tell w event accepted).Sound := by
  rw [Ledger.tell]
  split
  · exact Dealing.Sound.append_quiet h hQuiet
  · exact h

/-! ### Clients that unpublish only their own streams -/

/-- What a command must not do: change the names of a session that publishes, or delete a stream when
the session publishes none. -/
structure NamesKept (w : Surroundings) (message : RtmpMessageData) (l : Ledger) : Prop where
  connect : (commandOf message).1 = "connect" → l.published ≠ [] →
    ∀ app, ((commandOf message).2.1.lookup "app").bind asText = some app → appOf app = l.appName
  play : (commandOf message).1 = "play" → l.published ≠ [] →
    ∀ raw, playedName (commandOf message).2.2 = some raw →
      (RtmpUrlParser.parseStreamNameWithQuery raw).1 = l.streamName
  publish : (commandOf message).1 = "publish" → l.published ≠ [] →
    ∀ name, publisherName l (commandOf message).2.2 = some name → name.1 = l.streamName
  delete : (commandOf message).1 = "deleteStream" → (commandOf message).2.2 ≠ [] →
    w.hubListens = true → l.published ≠ []

/-- Commands keep the names, and a read or a chunk fails only while the session publishes. -/
def NamesKeptMove (c : Served) : Move → Prop
  | .message w _ message => NamesKept w message c.session.ledger
  | .readFails w | .cannotParse w => w.hubListens = true → c.session.published ≠ []
  | _ => True

/-- What has been published is named by the present names. -/
structure Ledger.Own (l : Ledger) : Prop where
  sound : l.Sound
  named : ∀ identifier ∈ l.published, identifier = l.identifier

/-- A session that publishes and leaves gives back what it has published. -/
theorem own_unpublish {l : Ledger} (h : l.Own) (hPublishes : l.published ≠ [])
    (info : PublisherInfo) : (l.send (.unPublish l.identifier info) true).Own := by
  obtain ⟨identifier, rest, hHeld⟩ := List.exists_cons_of_ne_nil hPublishes
  constructor
  · refine Dealing.Sound.append h.sound fun hold hHold => ?_
    cases hHold
    have hFirst : identifier = l.identifier := h.named identifier (by rw [hHeld]; exact List.mem_cons_self)
    rw [← hFirst]
    change identifier ∈ l.published
    rw [hHeld]
    exact List.mem_cons_self
  · intro other hOther
    rw [send_unpublished] at hOther
    exact h.named other (List.mem_of_mem_erase hOther)

theorem own_names {l l' : Ledger} (h : l.Own) (hSent : l'.common = l.common)
    (hNamed : l.published ≠ [] → l'.identifier = l.identifier) : l'.Own := by
  have hPublished : l'.published = l.published := by
    rw [Ledger.published, Ledger.published, hSent]
  constructor
  · rw [Ledger.Sound, hSent]
    exact h.sound
  · intro identifier hMem
    rw [hPublished] at hMem
    rw [hNamed (List.ne_nil_of_mem hMem)]
    exact h.named identifier hMem

theorem own_effect {digest : String → String} {w : Surroundings} {message : RtmpMessageData}
    {l l' : Ledger}
    (hEffect : Effect digest w (commandOf message).1 (commandOf message).2.1 (commandOf message).2.2
      l l') (hKept : NamesKept w message l) (h : l.Own) : l'.Own := by
  cases hEffect with
  | none => exact h
  | properties hConnect p => exact own_names h rfl fun _ => rfl
  | connect hConnect p app hApp =>
    refine own_names h rfl fun hPublishes => ?_
    simp only [Ledger.identifier, hKept.connect hConnect hPublishes app hApp]
  | playName hPlay raw hPlayed =>
    refine own_names h rfl fun hPublishes => ?_
    simp only [Ledger.identifier, Ledger.named, hKept.play hPlay hPublishes raw hPlayed]
  | play hPlay raw hPlayed hAdmitted state =>
    have hNamed : (l.named (RtmpUrlParser.parseStreamNameWithQuery raw)).Own := by
      refine own_names h rfl fun hPublishes => ?_
      simp only [Ledger.identifier, Ledger.named, hKept.play hPlay hPublishes raw hPlayed]
    refine own_names (l := (l.named _).tell w _ w.accepted) ⟨hNamed.sound.tell rfl, ?_⟩ rfl
      fun _ => rfl
    intro identifier hMem
    rw [tell_subscribed] at hMem
    rw [hNamed.named identifier hMem, Ledger.tell]
    split <;> rfl
  | publishName hPublish name hName =>
    refine own_names h rfl fun hPublishes => ?_
    simp only [Ledger.identifier, Ledger.named, hKept.publish hPublish hPublishes name hName]
  | publish hPublish name hName hAdmitted =>
    have hNamed : (l.named name).Own := by
      refine own_names h rfl fun hPublishes => ?_
      simp only [Ledger.identifier, Ledger.named, hKept.publish hPublish hPublishes name hName]
    refine ⟨hNamed.sound.tell rfl, fun identifier hMem => ?_⟩
    have hSame : ((l.named name).tell w (.publish (l.named name).identifier
        l.common.getPublisherInfo) w.accepted).identifier = (l.named name).identifier := by
      rw [Ledger.tell]
      split <;> rfl
    rw [hSame]
    rw [tell_published] at hMem
    split at hMem
    · rcases List.mem_cons.mp hMem with rfl | hOld
      · rfl
      · exact hNamed.named identifier hOld
    · exact hNamed.named identifier hMem
  | delete hDelete hGiven hListens state =>
    have hOwn := own_unpublish h (hKept.delete hDelete hGiven hListens) l.common.getPublisherInfo
    exact own_names hOwn rfl fun _ => rfl

/-! ### Steps -/

theorem session_after (phase : Phase) (r : EStateM.Result Stop ServerSession Unit) :
    (Served.after phase r).session = stateOf r := by
  cases r with
  | ok u s => rfl
  | error e s => cases e <;> rfl

theorem ledger_leave (w : Surroundings) (s : ServerSession) :
    (stateOf (leave w s)).ledger =
      s.ledger.tell w (.unPublish s.ledger.identifier s.common.getPublisherInfo) true := by
  rw [leave, ledger_bind fun _ => keeps_throw _, ledger_unpublish]

theorem ledger_leavePlay (w : Surroundings) (s : ServerSession) :
    (stateOf (leavePlay w s)).ledger =
      s.ledger.tell w (.unSubscribe s.ledger.identifier s.common.getSubscriberInfo) true := by
  rw [leavePlay]
  refine (ledger_bind (fun _ => keeps_throw _) s).trans ?_
  simp only [onCommon, onPart, Common.unsubscribeFromStreamHub, bind_get, Ledger.tell]
  cases w.hubListens <;> rfl

theorem ledger_finishHandshake (w : Surroundings) (left : Bool) (s : ServerSession) :
    (stateOf (finishHandshake w left s)).ledger = { s.ledger with state := .readChunk } := by
  simp only [finishHandshake, bind_modify]
  exact keeps_write _ _

/-- What a step does to the ledger. -/
inductive LedgerStep (digest : String → String) (l : Ledger) : Move → Ledger → Prop where
  | idle (move : Move) : LedgerStep digest l move l
  | handshake (w : Surroundings) (left : Bool) :
      LedgerStep digest l (.handshakeDone w left) { l with state := .readChunk }
  | leave (w : Surroundings) (move : Move) (failed : move = .readFails w ∨ move = .cannotParse w) :
      LedgerStep digest l move
        (l.tell w (.unPublish l.identifier l.common.getPublisherInfo) true)
  | leavePlay (w : Surroundings) :
      LedgerStep digest l (.playFails w)
        (l.tell w (.unSubscribe l.identifier l.common.getSubscriberInfo) true)
  | message (w : Surroundings) (msgStreamId : UInt32) (message : RtmpMessageData) (l' : Ledger)
      (effect : Effect digest w (commandOf message).1 (commandOf message).2.1 (commandOf message).2.2
        l l') :
      LedgerStep digest l (.message w msgStreamId message) l'

theorem step_ledger {digest : String → String} {c c' : Served} {move : Move}
    (h : c.step digest move = some c') :
    LedgerStep digest c.session.ledger move c'.session.ledger := by
  cases move with
  | handshakeDone w left =>
    obtain ⟨-, hAfter⟩ := Option.ite_none_right_eq_some.mp h
    cases hAfter
    rw [session_after, ledger_finishHandshake]
    exact .handshake w left
  | readFails w =>
    obtain ⟨-, hAfter⟩ := Option.ite_none_right_eq_some.mp h
    cases hAfter
    rw [session_after, ledger_leave]
    exact .leave w _ (.inl rfl)
  | cannotParse w =>
    obtain ⟨-, hAfter⟩ := Option.ite_none_right_eq_some.mp h
    cases hAfter
    rw [session_after, ledger_leave]
    exact .leave w _ (.inr rfl)
  | playFails w =>
    obtain ⟨-, hAfter⟩ := Option.ite_none_right_eq_some.mp h
    cases hAfter
    rw [session_after, ledger_leavePlay]
    exact .leavePlay w
  | message w msgStreamId message =>
    obtain ⟨-, hAfter⟩ := Option.ite_none_right_eq_some.mp h
    cases hAfter
    rw [session_after]
    exact .message w msgStreamId message _ (effect_processMessages digest w msgStreamId message _)
  | _ =>
    obtain ⟨-, hAfter⟩ := Option.ite_none_right_eq_some.mp h
    cases hAfter
    exact .idle _

theorem own_step {digest : String → String} {c c' : Served} {move : Move}
    (h : c.step digest move = some c') (hKept : NamesKeptMove c move) (hOwn : c.session.ledger.Own) :
    c'.session.ledger.Own := by
  have hStep := step_ledger h
  revert hStep
  generalize c'.session.ledger = l'
  intro hStep
  cases hStep with
  | idle => exact hOwn
  | handshake w left => exact own_names hOwn rfl fun _ => rfl
  | leave w move hFailed =>
    rw [Ledger.tell]
    split
    · rename_i hListens
      refine own_unpublish hOwn ?_ _
      rcases hFailed with rfl | rfl <;> exact hKept hListens
    · exact hOwn
  | leavePlay w =>
    rw [Ledger.tell]
    split
    · refine ⟨Dealing.Sound.append_quiet hOwn.sound rfl, ?_⟩
      have hSame : (c.session.ledger.send (.unSubscribe c.session.ledger.identifier
          c.session.ledger.common.getSubscriberInfo) true).published = c.session.ledger.published :=
        Dealing.heldBy_quiet rfl rfl
      rw [hSame]
      exact hOwn.named
    · exact hOwn
  | message w msgStreamId message l' hEffect => exact own_effect hEffect hKept hOwn

theorem own_new (sessionId : Uuid) (remoteAddr : Option String) (auth : Option Auth) :
    (ServerSession.new sessionId remoteAddr auth).ledger.Own :=
  ⟨Dealing.sound_nil, fun _ hMem => nomatch hMem⟩

/-- A client whose commands keep the names of what it publishes, and that leaves only while it
publishes, unpublishes only streams that it has published, and each of them once. -/
theorem own_streams_unpublished {digest : String → String} {auth : Option Auth} {c : Served}
    (h : ((session digest auth).guard NamesKeptMove).Reached c) : c.session.ledger.Sound := by
  have hOwn : c.session.ledger.Own := by
    refine System.Reached.invariant (I := fun c : Served => c.session.ledger.Own) ?_ ?_ h
    · rintro c ⟨sessionId, remoteAddr, rfl⟩
      exact own_new sessionId remoteAddr auth
    · rintro c move c' hc ⟨hKept, hStep⟩
      exact own_step hStep hKept hc
  exact hOwn.sound

/-- A command of a client, as the message parser gives it. -/
def commandMessage (name : String) (obj : List (String × Amf0ValueType))
    (others : List Amf0ValueType) : RtmpMessageData :=
  .amf0Command (.utf8String name) (.number 0) (.object obj) others

/-- A client publishes a stream and deletes it. -/
theorem published_stream_deleted :
    ∃ c : Served, c.session.common.sent.map (·.event) =
        [.publish (.rtmp "live" "cam") ⟨Uuid.new .four 1700000000 fun _ => 0, .rtmpPush, .frame⟩,
          .unPublish (.rtmp "live" "cam")
            ⟨Uuid.new .four 1700000000 fun _ => 0, .rtmpPush, .frame⟩] ∧
      c.session.ledger.Sound := by
  let w : Surroundings := ⟨true, true, fun _ => true, none⟩
  let start : Served := ⟨.new (Uuid.new .four 1700000000 fun _ => 0) none none, .looping⟩
  obtain ⟨c1, h1, c2, h2, c3, h3, hNone, c4, h4, hHeld, c5, h5, hEvents⟩ :
      ∃ c1 ∈ start.step id (.handshakeDone w false), ∃ c2 ∈ c1.step id .receive,
      ∃ c3 ∈ c2.step id (.message w 0 (commandMessage "connect" [("app", .utf8String "live")] [])),
      c3.session.published = [] ∧
      ∃ c4 ∈ c3.step id (.message w 0
        (commandMessage "publish" [] [.utf8String "cam", .utf8String "live"])),
      c4.session.published ≠ [] ∧
      ∃ c5 ∈ c4.step id (.message w 0 (commandMessage "deleteStream" [] [.number 0])),
        c5.session.common.sent.map (·.event) =
          [.publish (.rtmp "live" "cam") ⟨Uuid.new .four 1700000000 fun _ => 0, .rtmpPush, .frame⟩,
            .unPublish (.rtmp "live" "cam")
              ⟨Uuid.new .four 1700000000 fun _ => 0, .rtmpPush, .frame⟩] := by
    decide +kernel
  have hConnect : NamesKept w (commandMessage "connect" [("app", .utf8String "live")] [])
      c2.session.ledger := by
    have hNothing : c2.session.ledger.published = [] := by
      cases h1
      cases h2
      rfl
    exact ⟨fun _ h => absurd hNothing h, fun h => absurd h (by decide), fun h => absurd h (by decide),
      fun h => absurd h (by decide)⟩
  have hPublish : NamesKept w (commandMessage "publish" [] [.utf8String "cam", .utf8String "live"])
      c3.session.ledger :=
    ⟨fun h => absurd h (by decide), fun h => absurd h (by decide), fun _ h => absurd hNone h,
      fun h => absurd h (by decide)⟩
  have hDelete : NamesKept w (commandMessage "deleteStream" [] [.number 0]) c4.session.ledger :=
    ⟨fun h => absurd h (by decide), fun h => absurd h (by decide), fun h => absurd h (by decide),
      fun _ _ _ => hHeld⟩
  have hReached : ((session id none).guard NamesKeptMove).Reached c5 :=
    ⟨start, [.handshakeDone w false, .receive,
      .message w 0 (commandMessage "connect" [("app", .utf8String "live")] []),
      .message w 0 (commandMessage "publish" [] [.utf8String "cam", .utf8String "live"]),
      .message w 0 (commandMessage "deleteStream" [] [.number 0])], ⟨_, _, rfl⟩,
      .cons ⟨trivial, h1⟩ (.cons ⟨trivial, h2⟩ (.cons ⟨hConnect, h3⟩
      (.cons ⟨hPublish, h4⟩ (.cons ⟨hDelete, h5⟩ (.nil _)))))⟩
  exact ⟨c5, hEvents, own_streams_unpublished hReached⟩

/-- A player that deletes its stream in the segment in which it asks for it unpublishes the stream of
somebody else, with authentication for publishers too. -/
theorem player_unpublishes :
    ¬∀ (digest : String → String) (auth : Option Auth) (c : Served),
      (session digest auth).Reached c → c.session.ledger.Sound := by
  intro h
  let auth : Auth := ⟨.simple, "", "pull", some "push", .both⟩
  let w : Surroundings := ⟨true, true, fun _ => true, none⟩
  let start : Served :=
    ⟨.new (Uuid.new .four 1700000000 fun _ => 0) (some "10.0.0.1:40000") (some auth), .looping⟩
  obtain ⟨c, hRun, hSent⟩ : ∃ c ∈ start.run id
      [.handshakeDone w false, .receive,
        .message w 0 (commandMessage "connect" [("app", .utf8String "live")] []),
        .message w 0 (commandMessage "play" [] [.utf8String "cam?token=pull"]),
        .message w 0 (commandMessage "deleteStream" [] [.number 0])],
      c.session.common.sent =
        [⟨.subscribe (.rtmp "live" "cam") ⟨Uuid.new .four 1700000000 fun _ => 0, .rtmpPull, .frame⟩,
          true⟩,
        ⟨.unPublish (.rtmp "live" "cam") ⟨Uuid.new .four 1700000000 fun _ => 0, .rtmpPush, .frame⟩,
          true⟩] := by
    decide +kernel
  have hReached : (session id (some auth)).Reached c := reached_run ⟨_, [], ⟨_, _, rfl⟩, .nil _⟩ hRun
  have hMem := h id (some auth) c hReached [_] _ [] hSent _ rfl
  cases hMem

end Xiu.Rtmp.Session
