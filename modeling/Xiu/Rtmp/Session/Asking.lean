import Xiu.Rtmp.Session.Exchange

/-! The relay's part of the exchange.  What it has asked is known by what it has heard, as long as that is what
a server answers. -/

namespace Xiu.Rtmp.Session

open Xiu.Common ProofKit StreamHub Flv.Amf0 Messages

namespace ClientSession

variable {s : ClientSession} {w : Surroundings}

/-- The session that began so, in a state, with the events that it has sent and so much asked. -/
def after (s : ClientSession) (state : ClientSessionState) (sent : List Sent) (n : Nat) : ClientSession :=
  { s with state, common := { s.common with sent }, io := ⟨(asks s).take n⟩ }

/-- What the relay tells its hub when the stream starts. -/
def told (s : ClientSession) : StreamHubEvent :=
  match s.clientType with
  | .pull => .publish (.rtmp s.appName s.streamName) s.common.getPublisherInfo
  | .push => .subscribe (.rtmp (subscribed s).1 (subscribed s).2) s.common.getSubscriberInfo

/-- The state in which the stream has started. -/
def started : ClientSessionType → ClientSessionState
  | .pull => .waitStateChange
  | .push => .startPublish

/-- What is known of the relay when it has heard so many answers. -/
inductive Asks (s : ClientSession) : Nat → Running → Prop
  | begins {state : ClientSessionState} (hState : state = .handshake ∨ state = .connect) :
    Asks s 0 ⟨s.after state [] 0, .looping⟩
  | connects {k : Nat} {phase : Phase} (hLess : k ≤ 2) (hAlive : phase.Alive) :
    Asks s k ⟨s.after .waitStateChange [] 2, phase⟩
  | limited {phase : Phase} (hAlive : phase.Alive) : Asks s 3 ⟨s.after .waitStateChange [] 3, phase⟩
  | accepted {phase : Phase} (hAlive : phase.Alive) : Asks s 4 ⟨s.after .createStream [] 6, phase⟩
  | creates {phase : Phase} (hAlive : phase.Alive) : Asks s 4 ⟨s.after .waitStateChange [] 7, phase⟩
  | created {phase : Phase} (hAlive : phase.Alive) : Asks s 5 ⟨s.after (request s.clientType) [] 7, phase⟩
  | requests {i : Nat} {phase : Phase} (hLess : i < starts s.clientType) (hAlive : phase.Alive) :
    Asks s (5 + i) ⟨s.after .waitStateChange [] (asks s).length, phase⟩
  | starts {i : Nat} {sent : List Sent} {phase : Phase} (hLess : starts s.clientType ≤ i)
    (hSent : sent.map (·.event) = [told s]) (hAlive : phase.Alive) :
    Asks s (5 + i) ⟨s.after (started s.clientType) sent (asks s).length, phase⟩
  | gone {k n : Nat} {state : ClientSessionState} {sent : List Sent} {phase : Phase}
    (hBound : ((asks s).take n).length ≤ askDue s.clientType k)
    (hSent : sent = [] ∨ sent.map (·.event) = [told s] ∧ 5 + ClientSession.starts s.clientType ≤ k)
    (hDead : phase.Dead) : Asks s k ⟨s.after state sent n, phase⟩

/-- In any case it is the session that began so, and has asked no more than is due. -/
theorem Asks.form {k : Nat} {c : Running} (h : Asks s k c) :
    ∃ state sent n, c.session = s.after state sent n ∧ ((asks s).take n).length ≤ askDue s.clientType k ∧
      (sent = [] ∨ sent.map (·.event) = [told s] ∧ 5 + ClientSession.starts s.clientType ≤ k) := by
  have hMono := askDue_mono s.clientType
  have hTake {n : Nat} (hLe : n ≤ askDue s.clientType k) : ((asks s).take n).length ≤ askDue s.clientType k :=
    (List.length_take_le n (asks s)).trans hLe
  cases h with
  | begins hState => exact ⟨_, _, _, rfl, hTake (Nat.zero_le _), .inl rfl⟩
  | connects hLess hAlive => exact ⟨_, _, _, rfl, hTake (hMono (Nat.zero_le _)), .inl rfl⟩
  | limited hAlive => exact ⟨_, _, _, rfl, hTake (Nat.le_refl 3), .inl rfl⟩
  | accepted hAlive => exact ⟨_, _, _, rfl, hTake (Nat.le_of_ble_eq_true rfl), .inl rfl⟩
  | creates hAlive => exact ⟨_, _, _, rfl, hTake (Nat.le_of_ble_eq_true rfl), .inl rfl⟩
  | created hAlive =>
    have hDue : 7 ≤ askDue s.clientType 4 := Nat.le_of_ble_eq_true rfl
    exact ⟨_, _, _, rfl, hTake (hDue.trans (hMono (Nat.le_succ 4))), .inl rfl⟩
  | requests hLess hAlive =>
    refine ⟨_, _, _, rfl, hTake ?_, .inl rfl⟩
    rw [length_asks]
    exact hMono (Nat.le_add_right 5 _)
  | starts hLess hSent hAlive =>
    refine ⟨_, _, _, rfl, hTake ?_, .inr ⟨hSent, Nat.add_le_add_left hLess 5⟩⟩
    rw [length_asks]
    exact hMono (Nat.le_add_right 5 _)
  | gone hBound hSent hDead => exact ⟨_, _, _, rfl, hBound, hSent⟩

/-- The session can end at any time. -/
theorem Asks.ends {k : Nat} {c : Running} (h : Asks s k c) {phase : Phase} (hDead : phase.Dead) :
    Asks s k ⟨c.session, phase⟩ := by
  obtain ⟨state, sent, n, hSession, hBound, hSent⟩ := h.form
  rw [hSession]
  exact .gone hBound hSent hDead

/-- A session that reads can go back to its loop. -/
theorem Asks.loops {k : Nat} {c : Running} (h : Asks s k c) (hPhase : c.phase = .reading) :
    Asks s k ⟨c.session, .looping⟩ := by
  cases h with
  | begins hState => cases hPhase
  | connects hLess hAlive => exact .connects hLess (.inl rfl)
  | limited hAlive => exact .limited (.inl rfl)
  | accepted hAlive => exact .accepted (.inl rfl)
  | creates hAlive => exact .creates (.inl rfl)
  | created hAlive => exact .created (.inl rfl)
  | requests hLess hAlive => exact .requests hLess (.inl rfl)
  | starts hLess hSent hAlive => exact .starts hLess hSent (.inl rfl)
  | gone hBound hSent hDead => exact absurd hPhase hDead.not_reading

/-! ### Writes -/

theorem said_after {state state' : ClientSessionState} {sent sent' : List Sent} {n n' : Nat} (h : n ≤ n') :
    (s.after state sent n).io.written <+: (s.after state' sent' n').io.written :=
  List.take_prefix_take_left h

/-- Messages that come next in the script are written, or the first of them are. -/
theorem writeAll_after {messages : List Written} {n : Nat}
    (hNext : ((asks s).drop n).take messages.length = messages)
    (state : ClientSessionState) (sent : List Sent) :
    writeAll w messages (s.after state sent n) = .ok () (s.after state sent (n + messages.length)) ∨
      ∃ i ≤ messages.length,
        writeAll w messages (s.after state sent n) = .error .error (s.after state sent (n + i)) := by
  have hTake (i : Nat) (hLe : i ≤ messages.length) :
      (asks s).take n ++ messages.take i = (asks s).take (n + i) := by
    rw [List.take_add, ← hNext, List.take_take, Nat.min_eq_left hLe]
  obtain hAll | ⟨i, hLess, hSome⟩ := Io.writeAll_cases w messages ⟨(asks s).take n⟩
  · refine .inl ?_
    have hTaken := hTake messages.length (Nat.le_refl _)
    rw [List.take_length] at hTaken
    simp only [writeAll, onPart, after, hAll, hTaken]
  · refine .inr ⟨i, Nat.le_of_lt hLess, ?_⟩
    simp only [writeAll, onPart, after, hSome, hTake i (Nat.le_of_lt hLess)]

theorem messagesOf_after (state state' : ClientSessionState) (sent : List Sent) (n : Nat) :
    messagesOf (s.after state sent n) state' = messagesOf s state' := by
  cases state' <;> rfl

/-- A turn of the loop writes what its state asks and waits, or the session ends. -/
theorem turn_after {state : ClientSessionState} {n : Nat}
    (hNext : ((asks s).drop n).take (messagesOf s state).length = messagesOf s state) (sent : List Sent)
    (received : Bool) :
    Running.after .reading (turn w received (s.after state sent n)) =
        ⟨s.after .waitStateChange sent (n + (messagesOf s state).length), .reading⟩ ∨
      ∃ state' i, i ≤ (messagesOf s state).length ∧
        Running.after .reading (turn w received (s.after state sent n)) =
          ⟨s.after state' sent (n + i), .ended⟩ := by
  have hAct : act w (s.after state sent n) =
      (writeAll w (messagesOf s state) >>= fun _ => setState .waitStateChange) (s.after state sent n) := by
    rw [act, bind_get]
    exact congrArg (fun messages => (writeAll w messages >>= fun _ => setState .waitStateChange)
      (s.after state sent n)) (messagesOf_after _ _ _ _)
  obtain hAll | ⟨i, hLe, hSome⟩ := writeAll_after (w := w) hNext state sent
  · rw [bind_of_ok hAll] at hAct
    cases received with
    | true =>
      rw [turn, bind_of_ok hAct]
      exact .inl rfl
    | false =>
      rw [turn, bind_of_ok hAct]
      exact .inr ⟨_, _, Nat.le_refl _, rfl⟩
  · rw [bind_of_error hSome] at hAct
    rw [turn, bind_of_error hAct]
    exact .inr ⟨_, i, hLe, rfl⟩

/-! ### Moves of its own -/

theorem asks_drop (s : ClientSession) : (asks s).drop 7 = messagesOf s (request s.clientType) := rfl

theorem length_asks_request (s : ClientSession) :
    (asks s).length = 7 + (messagesOf s (request s.clientType)).length := by
  rw [← asks_drop, List.length_drop, length_asks]
  have hEnough : 7 ≤ askDue s.clientType 5 := by cases s.clientType <;> decide
  omega

/-- After a turn, the relay waits for what its messages are answered, or has ended. -/
theorem asks_turn {k n : Nat} {state : ClientSessionState} {sent : List Sent} {received : Bool}
    (hNext : ((asks s).drop n).take (messagesOf s state).length = messagesOf s state)
    (hWaits : Asks s k ⟨s.after .waitStateChange sent (n + (messagesOf s state).length), .reading⟩) :
    Asks s k (Running.after .reading (turn w received (s.after state sent n))) ∧
      (s.after state sent n).io.written <+:
        (Running.after .reading (turn w received (s.after state sent n))).session.io.written := by
  obtain hAll | ⟨state', i, hLe, hSome⟩ := turn_after (w := w) hNext sent received
  · rw [hAll]
    exact ⟨hWaits, said_after (Nat.le_add_right _ _)⟩
  · rw [hSome]
    refine ⟨?_, said_after (Nat.le_add_right _ _)⟩
    obtain ⟨state1, sent1, n1, hSession, hBound, hSent⟩ := hWaits.form
    have hSame : (asks s).take (n + (messagesOf s state).length) = (asks s).take n1 :=
      congrArg (fun c : ClientSession => c.io.written) hSession
    obtain rfl : sent = sent1 := congrArg (fun c : ClientSession => c.common.sent) hSession
    refine .gone (Nat.le_trans ?_ hBound) hSent (.inl rfl)
    rw [← hSame]
    exact (List.take_prefix_take_left (Nat.add_le_add_left hLe n)).length_le

theorem asks_act {k : Nat} {c c' : Running} {move : Move} (h : Asks s k c) (hStep : c.acts move = some c') :
    Asks s k c' ∧ c.session.io.written <+: c'.session.io.written := by
  cases move with
  | message w message => cases hStep
  | handshake ok =>
    simp only [Running.acts, Running.step] at hStep
    split at hStep <;> cases hStep
    rename_i hHandshake
    cases h with
    | begins hState =>
      cases ok with
      | true => exact ⟨.begins (.inr rfl), List.prefix_refl _⟩
      | false => exact ⟨(Asks.begins hState).ends (.inl rfl), List.prefix_refl _⟩
    | connects hLess hAlive => cases hHandshake.2
    | limited hAlive => cases hHandshake.2
    | accepted hAlive => cases hHandshake.2
    | creates hAlive => cases hHandshake.2
    | created hAlive =>
      have hState : request s.clientType = .handshake := hHandshake.2
      cases hType : s.clientType <;> rw [hType] at hState <;> cases hState
    | requests hLess hAlive => cases hHandshake.2
    | starts hLess hSent hAlive =>
      have hState : started s.clientType = .handshake := hHandshake.2
      cases hType : s.clientType <;> rw [hType] at hState <;> cases hState
    | gone hBound hSent hDead => exact absurd hHandshake.1 hDead.not_looping
  | turn w received =>
    simp only [Running.acts, Running.step] at hStep
    split at hStep <;> cases hStep
    rename_i hLooping
    cases h with
    | begins hState =>
      obtain rfl := hState.resolve_left hLooping.2.1
      exact asks_turn rfl (.connects (Nat.zero_le 2) (.inr rfl))
    | connects hLess hAlive => exact asks_turn rfl (.connects hLess (.inr rfl))
    | limited hAlive => exact asks_turn rfl (.limited (.inr rfl))
    | accepted hAlive => exact asks_turn rfl (.creates (.inr rfl))
    | creates hAlive => exact asks_turn rfl (.creates (.inr rfl))
    | created hAlive =>
      refine asks_turn ?_ ?_
      · rw [asks_drop, List.take_length]
      · rw [← length_asks_request]
        exact .requests (i := 0) (by cases s.clientType <;> decide) (.inr rfl)
    | requests hLess hAlive => exact asks_turn rfl (.requests hLess (.inr rfl))
    | starts hLess hSent hAlive =>
      have hState : started s.clientType = .waitStateChange := by
        cases hType : s.clientType with
        | pull => rfl
        | push => exact absurd (congrArg started hType) hLooping.2.2
      have hStarts := Asks.starts (s := s) hLess hSent (.inr rfl)
      rw [hState] at hStarts ⊢
      exact asks_turn rfl hStarts
    | gone hBound hSent hDead => exact absurd hLooping.1 hDead.not_looping
  | parseFails =>
    simp only [Running.acts, Running.step] at hStep
    split at hStep <;> cases hStep
    exact ⟨h.ends (.inl rfl), List.prefix_refl _⟩
  | drained =>
    simp only [Running.acts, Running.step] at hStep
    split at hStep <;> cases hStep
    rename_i hReading
    exact ⟨h.loops hReading, List.prefix_refl _⟩
  | pushFails =>
    simp only [Running.acts, Running.step] at hStep
    split at hStep <;> cases hStep
    exact ⟨h.ends (.inl rfl), List.prefix_refl _⟩

/-! ### Messages that it hears -/

section Hear

variable {c c' : Running} {m : Written} {message : RtmpMessageData}

/-- A message that is parsed is heard by a session that reads. -/
theorem hears_parsed (hParsed : m.parsed = .ok (some message)) (h : c.hears w m = some c') :
    c.phase = .reading ∧ c' = .after .reading (processMessages w message c.session) := by
  simp only [Running.hears, hParsed, Running.step] at h
  split at h <;> cases h
  rename_i hReading
  exact ⟨hReading, rfl⟩

/-- A message that changes nothing. -/
theorem hears_inert (hParsed : m.parsed = .ok (some message))
    (hInert : ∀ s, processMessages w message s = .ok () s) (h : c.hears w m = some c') :
    c.phase = .reading ∧ c' = c := by
  obtain ⟨hReading, hAfter⟩ := hears_parsed hParsed h
  rw [hInert, Running.after, ← hReading] at hAfter
  exact ⟨hReading, hAfter⟩

/-- A session that is gone hears nothing. -/
theorem not_hears (hPhase : c.phase ≠ .reading) (h : c.hears w m = some c') : False := by
  simp only [Running.hears, Running.step] at h
  split at h
  · split at h
    · exact hPhase (by assumption)
    · cases h
  · split at h
    · exact hPhase (by assumption)
    · cases h
  · split at h
    · exact hPhase (by assumption)
    · cases h

theorem parsed_status (transactionId : UInt64) {code description : String} (hCode : len code ≤ 65535)
    (hDescription : len description ≤ 65535) :
    (Written.command (NetStreamWriter.writeOnStatus transactionId "status" code description)).parsed =
      .ok (some (.amf0Command (.utf8String "onStatus") (.number transactionId) .null
        [.object [("level", .utf8String "status"), ("code", .utf8String code),
          ("description", .utf8String description)]])) := by
  have hNames : ["level", "code", "description"].Nodup := by decide
  have hPairs := @properties_eq [("level", .utf8String "status"), ("code", .utf8String code),
    ("description", .utf8String description)] hNames
  rw [← hPairs]
  exact parsed_command (plain_status transactionId (by decide) hCode hDescription) rfl

/-- A status message is handled by its code. -/
theorem process_status (transactionId : UInt64) (code description : String) (s : ClientSession) :
    processMessages w (.amf0Command (.utf8String "onStatus") (.number transactionId) .null
        [.object [("level", .utf8String "status"), ("code", .utf8String code),
          ("description", .utf8String description)]]) s =
      onStatus w [("level", .utf8String "status"), ("code", .utf8String code),
          ("description", .utf8String description)] s := rfl

theorem onStatus_code (code description : String) :
    onStatus w [("level", .utf8String "status"), ("code", .utf8String code),
        ("description", .utf8String description)] =
      if code = "NetStream.Publish.Start" then do
        setState .startPublish
        let s ← get
        onCommon (Common.subscribeFromStreamHub w (subscribed s).1 (subscribed s).2)
      else if code = "NetStream.Play.Start" then do
        let s ← get
        onCommon (Common.publishToStreamHub w s.appName s.streamName)
      else pure () := by
  have hLookup : List.lookup "code" [("level", Amf0ValueType.utf8String "status"), ("code", .utf8String code),
      ("description", .utf8String description)] = some (.utf8String code) := rfl
  rw [onStatus, hLookup]
  rfl

/-- A status message that says nothing of a start. -/
theorem hears_status {transactionId : UInt64} {code description : String} (hCode : len code ≤ 65535)
    (hDescription : len description ≤ 65535)
    (hOther : code ≠ "NetStream.Publish.Start" ∧ code ≠ "NetStream.Play.Start")
    (h : c.hears w (.command (NetStreamWriter.writeOnStatus transactionId "status" code description)) = some c') :
    c.phase = .reading ∧ c' = c := by
  refine hears_inert (parsed_status transactionId hCode hDescription) (fun s => ?_) h
  rw [process_status, onStatus_code, if_neg hOther.1, if_neg hOther.2]
  rfl

/-- When the hub is told, the stream has started, or the session ends. -/
theorem asks_told {k i n : Nat} {x : EStateM Stop Common Unit} (hLast : ClientSession.starts s.clientType ≤ i)
    (hk : k = 5 + i) (hn : n = (asks s).length) (hTells : Tells (told s) { s.common with sent := [] } x) :
    Asks s k (.after .reading (onCommon x (s.after (started s.clientType) [] n))) ∧
      (asks s).take n <+:
        (Running.after .reading (onCommon x (s.after (started s.clientType) [] n))).session.io.written := by
  have hDue : ((asks s).take n).length ≤ askDue s.clientType k := by
    rw [hn, List.take_length, length_asks]
    exact askDue_mono _ (by omega)
  have hFails {e : Stop} {sent : List Sent}
      (hSent : sent = [] ∨ sent.map (·.event) = [told s] ∧ 5 + ClientSession.starts s.clientType ≤ k)
      (hError : x { s.common with sent := [] } = .error e { s.common with sent }) :
      Asks s k (.after .reading (onCommon x (s.after (started s.clientType) [] n))) ∧
        (asks s).take n <+:
          (Running.after .reading (onCommon x (s.after (started s.clientType) [] n))).session.io.written := by
    have hRun : onCommon x (s.after (started s.clientType) [] n) =
        .error e (s.after (started s.clientType) sent n) := by
      simp only [onCommon, onPart, after, hError]
    rw [hRun]
    cases e with
    | error => exact ⟨.gone hDue hSent (.inl rfl), List.prefix_refl _⟩
    | panic => exact ⟨.gone hDue hSent (.inr rfl), List.prefix_refl _⟩
  obtain ⟨accepted, hOk⟩ | ⟨e, hNothing | ⟨accepted, hError⟩⟩ := hTells
  · have hRun : onCommon x (s.after (started s.clientType) [] n) =
        .ok () (s.after (started s.clientType) [⟨told s, accepted⟩] n) := by
      simp only [onCommon, onPart, after, hOk, List.nil_append]
    rw [hRun]
    refine ⟨?_, List.prefix_refl _⟩
    rw [hk, hn]
    exact .starts hLast rfl (.inr rfl)
  · exact hFails (.inl rfl) hNothing
  · exact hFails (.inr ⟨rfl, by omega⟩) hError

/-- The code of the message that the stream starts. -/
def startCode : ClientSessionType → String
  | .pull => "NetStream.Play.Start"
  | .push => "NetStream.Publish.Start"

/-- The message that the stream starts. -/
theorem asks_start {i : Nat} {phase : Phase} {description : String} {transactionId : UInt64}
    (hLast : i + 1 = ClientSession.starts s.clientType) (hDescription : len description ≤ 65535)
    (h : Running.hears ⟨s.after .waitStateChange [] (asks s).length, phase⟩ w
      (.command (NetStreamWriter.writeOnStatus transactionId "status" (startCode s.clientType) description)) =
        some c') :
    Asks s (5 + i + 1) c' ∧
      (s.after .waitStateChange [] (asks s).length).io.written <+: c'.session.io.written := by
  have hCode : len (startCode s.clientType) ≤ 65535 := by cases s.clientType <;> decide
  obtain ⟨-, rfl⟩ := hears_parsed (parsed_status transactionId hCode hDescription) h
  clear h
  rw [process_status, onStatus_code]
  have hTold (x : EStateM Stop Common Unit) (hTells : Tells (told s) { s.common with sent := [] } x) :=
    asks_told (k := 5 + i + 1) (Nat.le_of_eq hLast.symm) (Nat.add_assoc 5 i 1) rfl hTells
  cases hType : s.clientType with
  | pull =>
    have hNot : startCode .pull ≠ "NetStream.Publish.Start" := by decide
    have hStart : startCode .pull = "NetStream.Play.Start" := rfl
    have hTells : Tells (told s) { s.common with sent := [] }
        (Common.publishToStreamHub w s.appName s.streamName) := by
      rw [told, hType]
      exact tells_publish w s.appName s.streamName { s.common with sent := [] }
    obtain ⟨hAsks, hWritten⟩ := hTold _ hTells
    rw [hType, started] at hAsks hWritten
    rw [if_neg hNot, if_pos hStart, bind_get]
    exact ⟨hAsks, hWritten⟩
  | push =>
    have hStart : startCode .push = "NetStream.Publish.Start" := rfl
    have hTells : Tells (told s) { s.common with sent := [] }
        (Common.subscribeFromStreamHub w (subscribed s).1 (subscribed s).2) := by
      rw [told, hType]
      exact tells_subscribe w _ _ { s.common with sent := [] }
    obtain ⟨hAsks, hWritten⟩ := hTold _ hTells
    rw [hType, started] at hAsks hWritten
    rw [if_pos hStart, setState, bind_modify, bind_get]
    exact ⟨hAsks, hWritten⟩

/-- What the bandwidth of the server is answered. -/
theorem asks_bandwidth {phase : Phase}
    (h : Running.hears ⟨s.after .waitStateChange [] 2, phase⟩ w
      (.control (ProtocolControlMessagesWriter.writeSetPeerBandwidth PEER_BANDWIDTH DYNAMIC)) = some c') :
    Asks s 3 c' ∧ (s.after .waitStateChange [] 2).io.written <+: c'.session.io.written := by
  obtain ⟨-, rfl⟩ := hears_parsed (parsed_control (.setPeerBandwidth PEER_BANDWIDTH DYNAMIC)) h
  clear h
  have hHandler (message : SetPeerBandwidthProperties) :
      processMessages w (.setPeerBandwidth message) =
        writeAll w [.control (ProtocolControlMessagesWriter.writeWindowAcknowledgementSize 5000000)] := rfl
  rw [hHandler]
  obtain hAll | ⟨i, hLe, hSome⟩ := @writeAll_after s w
    [.control (ProtocolControlMessagesWriter.writeWindowAcknowledgementSize 5000000)] 2 rfl .waitStateChange []
  · rw [hAll]
    exact ⟨.limited (.inr rfl), said_after (Nat.le_succ 2)⟩
  · rw [hSome]
    have hLength : ((asks s).take (2 + i)).length ≤ 3 :=
      (List.length_take_le _ _).trans (Nat.add_le_add_left hLe 2)
    exact ⟨.gone hLength (.inl rfl) (.inl rfl), said_after (Nat.le_add_right 2 i)⟩

/-- What the relay does when it is connected. -/
theorem asks_connected {phase : Phase}
    (h : Running.hears ⟨s.after .waitStateChange [] 3, phase⟩ w
      (.command (NetConnection.writeConnectResponse connectId FMSVER CAPABILITIES "NetConnection.Connect.Success"
        LEVEL "Connection Succeeded." OBJENCODING_AMF0)) = some c') :
    Asks s 4 c' ∧ (s.after .waitStateChange [] 3).io.written <+: c'.session.io.written := by
  obtain ⟨-, rfl⟩ := hears_parsed (parsed_command (plain_connectResponse connectId OBJENCODING_AMF0) rfl) h
  clear h
  have hHandler (object : Amf0ValueType) (others : List Amf0ValueType) :
      processMessages w (.amf0Command (.utf8String "_result") (.number connectId) object others) =
        onResultConnect w := rfl
  have hRun : onResultConnect w (s.after .waitStateChange [] 3) =
      (writeAll w [.control (ProtocolControlMessagesWriter.writeAcknowledgement 3107),
        .command (NetStreamWriter.writeReleaseStream connectId s.streamName),
        .command (NetStreamWriter.writeFcpublish connectId s.streamName)] >>=
          fun _ => setState .createStream) (s.after .waitStateChange [] 3) := rfl
  rw [hHandler, hRun]
  obtain hAll | ⟨i, hLe, hSome⟩ := @writeAll_after s w
    [.control (ProtocolControlMessagesWriter.writeAcknowledgement 3107),
      .command (NetStreamWriter.writeReleaseStream connectId s.streamName),
      .command (NetStreamWriter.writeFcpublish connectId s.streamName)] 3 rfl .waitStateChange []
  · rw [bind_of_ok hAll]
    exact ⟨.accepted (.inr rfl), said_after (Nat.le_add_right 3 3)⟩
  · rw [bind_of_error hSome]
    have hLength : ((asks s).take (3 + i)).length ≤ 7 :=
      ((List.length_take_le _ _).trans (Nat.add_le_add_left hLe 3)).trans (Nat.le_succ 6)
    exact ⟨.gone hLength (.inl rfl) (.inl rfl), said_after (Nat.le_add_right 3 i)⟩

/-- What the relay does when its stream is created. -/
theorem asks_created {phase : Phase}
    (h : Running.hears ⟨s.after .waitStateChange [] 7, phase⟩ w
      (.command (NetConnection.writeCreateStreamResponse createStreamId STREAM_ID)) = some c') :
    Asks s 5 c' ∧ (s.after .waitStateChange [] 7).io.written <+: c'.session.io.written := by
  obtain ⟨-, rfl⟩ := hears_parsed (parsed_command (plain_createStreamResponse createStreamId) rfl) h
  clear h
  have hHandler (object : Amf0ValueType) (others : List Amf0ValueType) :
      processMessages w (.amf0Command (.utf8String "_result") (.number createStreamId) object others) =
        onResultCreateStream := rfl
  have hState : onResultCreateStream (s.after .waitStateChange [] 7) =
      .ok () (s.after (request s.clientType) [] 7) := by
    cases hType : s.clientType <;>
      simp only [onResultCreateStream, bind_get, setState, modify_apply, after, hType, request]
  rw [hHandler, hState]
  exact ⟨.created (.inr rfl), List.prefix_refl _⟩

/-- A message of the reply before the stream starts, or the one with which it does. -/
theorem asks_reply {i : Nat} {phase : Phase} (hLess : i < ClientSession.starts s.clientType)
    (hNext : (answers s.clientType)[5 + i]? = some m)
    (h : Running.hears ⟨s.after .waitStateChange [] (asks s).length, phase⟩ w m = some c') :
    Asks s (5 + i + 1) c' ∧
      (s.after .waitStateChange [] (asks s).length).io.written <+: c'.session.io.written := by
  have hStays (hMore : i + 1 < ClientSession.starts s.clientType)
      (hSame : phase = .reading ∧ c' = ⟨s.after .waitStateChange [] (asks s).length, phase⟩) :
      Asks s (5 + i + 1) c' ∧
        (s.after .waitStateChange [] (asks s).length).io.written <+: c'.session.io.written := by
    obtain ⟨hReading, rfl⟩ := hSame
    exact ⟨.requests hMore (.inr hReading), List.prefix_refl _⟩
  cases hType : s.clientType with
  | pull =>
    rw [hType] at hLess hNext
    obtain rfl | rfl | rfl : i = 0 ∨ i = 1 ∨ i = 2 := by
      have hBound : i < 3 := hLess
      omega
    · obtain rfl := Option.some.inj hNext
      exact hStays (by rw [hType]; decide) (hears_inert (parsed_control (.streamBegin 0)) (fun _ => rfl) h)
    · obtain rfl := Option.some.inj hNext
      exact hStays (by rw [hType]; decide) (hears_status (by decide) (by decide) (by decide) h)
    · have hStart : m = .command (NetStreamWriter.writeOnStatus 0 "status" (startCode s.clientType)
          "play start") := by
        rw [hType]
        exact (Option.some.inj hNext).symm
      rw [hStart] at h
      exact asks_start (by rw [hType]; rfl) (by decide) h
  | push =>
    rw [hType] at hLess hNext
    obtain rfl | rfl : i = 0 ∨ i = 1 := by
      have hBound : i < 2 := hLess
      omega
    · obtain rfl := Option.some.inj hNext
      exact hStays (by rw [hType]; decide) (hears_inert (parsed_control (.streamBegin 0)) (fun _ => rfl) h)
    · have hStart : m = .command (NetStreamWriter.writeOnStatus publishId "status" (startCode s.clientType)
          "") := by
        rw [hType]
        exact (Option.some.inj hNext).symm
      rw [hStart] at h
      exact asks_start (by rw [hType]; rfl) (by decide) h

/-- The rest of the reply changes nothing. -/
theorem asks_rest {i : Nat} (hLess : ClientSession.starts s.clientType ≤ i)
    (hNext : (answers s.clientType)[5 + i]? = some m) (h : c.hears w m = some c') :
    c.phase = .reading ∧ c' = c := by
  obtain ⟨hBound, -⟩ := List.getElem?_eq_some_iff.mp hNext
  cases hType : s.clientType with
  | pull =>
    rw [hType] at hLess hNext hBound
    obtain rfl | rfl | rfl : i = 3 ∨ i = 4 ∨ i = 5 := by
      have hLower : 3 ≤ i := hLess
      have hUpper : 5 + i < 11 := hBound
      omega
    · obtain rfl := Option.some.inj hNext
      exact hears_status (by decide) (by decide) (by decide) h
    · obtain rfl := Option.some.inj hNext
      exact hears_status (by decide) (by decide) (by decide) h
    · obtain rfl := Option.some.inj hNext
      exact hears_inert (parsed_control (.streamIsRecord 0)) (fun _ => rfl) h
  | push =>
    rw [hType] at hLess hBound
    have hLower : 2 ≤ i := hLess
    have hUpper : 5 + i < 7 := hBound
    omega

/-- What the server answers is heard as the script has it. -/
theorem asks_hear {k : Nat} (h : Asks s k c) (hAllowed : k < answerDue s.clientType c.session.io.written.length)
    (hNext : (answers s.clientType)[k]? = some m) (hHear : c.hears w m = some c') :
    Asks s (k + 1) c' ∧ c.session.io.written <+: c'.session.io.written := by
  have hEnough : 8 ≤ (asks s).length := by
    rw [length_asks]
    cases s.clientType <;> decide
  have hWritten {n : Nat} (hLe : n ≤ 8) : ((asks s).take n).length = n :=
    List.length_take_of_le (hLe.trans hEnough)
  cases h with
  | begins hState => exact (not_hears (by rintro ⟨⟩) hHear).elim
  | @connects k phase hLess hAlive =>
    obtain rfl | rfl | rfl : k = 0 ∨ k = 1 ∨ k = 2 := by omega
    · obtain rfl := Option.some.inj hNext
      obtain ⟨hReading, rfl⟩ :=
        hears_inert (parsed_control (.setChunkSize Chunk.CHUNK_SIZE)) (fun _ => rfl) hHear
      exact ⟨.connects (Nat.le_succ 1) (.inr hReading), List.prefix_refl _⟩
    · obtain rfl := Option.some.inj hNext
      obtain ⟨hReading, rfl⟩ := hears_inert
        (parsed_control (.windowAcknowledgementSize WINDOW_ACKNOWLEDGEMENT_SIZE)) (fun _ => rfl) hHear
      exact ⟨.connects (Nat.le_refl 2) (.inr hReading), List.prefix_refl _⟩
    · obtain rfl := Option.some.inj hNext
      exact asks_bandwidth hHear
  | limited hAlive =>
    obtain rfl := Option.some.inj hNext
    exact asks_connected hHear
  | accepted hAlive =>
    have hLess : 4 < answerDue s.clientType ((asks s).take 6).length := hAllowed
    rw [hWritten (by decide)] at hLess
    exact absurd hLess (by decide : ¬4 < 4)
  | creates hAlive =>
    obtain rfl := Option.some.inj hNext
    exact asks_created hHear
  | created hAlive =>
    have hLess : 5 < answerDue s.clientType ((asks s).take 7).length := hAllowed
    rw [hWritten (by decide)] at hLess
    exact absurd hLess (by decide : ¬5 < 5)
  | requests hLess hAlive => exact asks_reply hLess hNext hHear
  | starts hLess hSent hAlive =>
    obtain ⟨hReading, rfl⟩ := asks_rest hLess hNext hHear
    exact ⟨.starts (Nat.le_succ_of_le hLess) hSent (.inr hReading), List.prefix_refl _⟩
  | gone hBound hSent hDead => exact (not_hears hDead.not_reading hHear).elim

end Hear

/-- The relay follows its script. -/
theorem asking_follows (hFresh : s.Fresh) :
    (asking s).Follows (asks s) (answers s.clientType) (askDue s.clientType) (answerDue s.clientType)
      (Asks s) where
  init := by
    rintro c rfl
    have hSame : s = s.after .handshake [] 0 := by
      obtain ⟨rawDomainName, appName, rawStreamName, streamName, state, clientType, subAppName, subStreamName,
        common, io⟩ := s
      obtain ⟨rfl, hWritten, hSent, -⟩ := hFresh
      cases io
      cases common
      cases hWritten
      cases hSent
      rfl
    rw [hSame]
    exact .begins (.inl rfl)
  said := by
    intro k c h
    obtain ⟨state, sent, n, hSession, hBound, -⟩ := h.form
    have hSaid : (asking s).said c = (asks s).take n := congrArg (fun c : ClientSession => c.io.written) hSession
    rw [hSaid]
    exact ⟨List.take_prefix n (asks s), hBound⟩
  act := fun _ _ _ _ h hAct => asks_act h hAct
  hear := fun _ _ _ _ _ h hAllowed hNext hHear => asks_hear h hAllowed hNext hHear

end ClientSession

end Xiu.Rtmp.Session
