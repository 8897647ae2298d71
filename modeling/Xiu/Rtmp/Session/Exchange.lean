import Xiu.ProofKit.Exchange
import Xiu.Rtmp.Messages.Calls
import Xiu.Rtmp.Session.ClientSpeech
import Xiu.Rtmp.Session.ServerSpeech

/-! A relay and a server that talk to each other: the session of `client_session.rs`, which pulls a stream or
pushes one, and that of `server_session.rs`.  What one writes the other reads in order, whenever it comes to
it; the hubs, the writes and the reads of both sides succeed or fail as they may. -/

namespace Xiu.Rtmp

open Messages Flv.Amf0

/-- What the other side makes of a message.  A command that cannot be written says nothing. -/
def Written.parsed : Written → Parsed
  | .control m => MessageParser.parse m.msgTypeId m.body
  | .command m =>
    match payload m with
    | some data => MessageParser.parse COMMAND_AMF0 data
    | none => .ok none

def Written.msgStreamId : Written → UInt32
  | .control _ => 0
  | .command m => m.msgStreamId

theorem parsed_control (call : ControlCall) : (Written.control call.message).parsed = expected call.meaning :=
  parse_control call

theorem asRead_leaf {v : Amf0ValueType} (h : Leaf v) : v.asRead = v := by
  cases v with
  | object pairs => exact h.elim
  | ecmaArray pairs => exact h.elim
  | _ => rw [Amf0ValueType.asRead] <;> rintro _ ⟨⟩

theorem asReadAll_of_leaves {pairs : List (String × Amf0ValueType)} (h : ∀ p ∈ pairs, Leaf p.2) :
    Amf0ValueType.asReadAll pairs = pairs := by
  induction pairs with
  | nil => rw [Amf0ValueType.asReadAll]
  | cons p pairs ih =>
    obtain ⟨key, v⟩ := p
    rw [List.forall_mem_cons] at h
    rw [Amf0ValueType.asReadAll, asRead_leaf h.1, ih h.2]

/-- A flat value is read as it is written. -/
theorem asRead_flat {v : Amf0ValueType} (h : Flat v) : v.asRead = v := by
  obtain hLeaf | ⟨pairs, rfl, hNodup, -, hLeaves⟩ := h
  · exact asRead_leaf hLeaf
  · rw [properties_eq hNodup, Amf0ValueType.asRead, asReadAll_of_leaves fun p hMem => (hLeaves p hMem).1]

end Xiu.Rtmp

namespace Xiu.Rtmp.Session

open Xiu.Common ProofKit StreamHub Flv.Amf0 Messages

/-- A command is heard with the values that it has. -/
theorem parsed_command {call : CommandCall} (h : Plain (.command call)) {name transactionId object : Amf0ValueType}
    {others : List Amf0ValueType} (hValues : call.command.values = name :: transactionId :: object :: others) :
    (Written.command call.command).parsed = .ok (some (.amf0Command name transactionId object others)) := by
  have hData := payload_eq_some.mpr ⟨h.2, rfl⟩
  have hFlat := (CommandCall.flat h.1).2
  rw [hValues] at hFlat
  simp only [List.forall_mem_cons] at hFlat
  have hOthers : others.map Amf0ValueType.asRead = others :=
    (List.map_congr_left fun v hMem => asRead_flat (hFlat.2.2.2 v hMem)).trans (List.map_id _)
  rw [Written.parsed, hData]
  refine (CommandCall.parse_payload h.1.readable hData).trans ?_
  rw [CommandCall.meaning, hValues, meaningOf, asRead_flat hFlat.2.2.1, hOthers]

/-! ### Parts of both sessions -/

def Phase.Alive (phase : Phase) : Prop := phase = .looping ∨ phase = .reading

def Phase.Dead (phase : Phase) : Prop := phase = .ended ∨ phase = .panicked

theorem Phase.Dead.not_looping {phase : Phase} (h : phase.Dead) : phase ≠ .looping := by
  rintro rfl
  rcases h with h | h <;> cases h

theorem Phase.Dead.not_reading {phase : Phase} (h : phase.Dead) : phase ≠ .reading := by
  rintro rfl
  rcases h with h | h <;> cases h

/-- Messages are written, or the first of them are. -/
theorem Io.writeAll_cases (w : Surroundings) (messages : List Written) (io : Io) :
    Io.writeAll w messages io = .ok () ⟨io.written ++ messages⟩ ∨
      ∃ i < messages.length, Io.writeAll w messages io = .error .error ⟨io.written ++ messages.take i⟩ := by
  induction messages generalizing io with
  | nil =>
    rw [List.append_nil]
    exact .inl rfl
  | cons message rest ih =>
    rw [Io.writeAll]
    by_cases hFlushed : w.flushed io.written.length = true
    · have hFirst : Io.write w message io = .ok () ⟨io.written ++ [message]⟩ := by
        simp only [Io.write, bind_get, hFlushed, if_true]
        rfl
      rw [bind_of_ok hFirst]
      obtain hAll | ⟨i, hLess, hSome⟩ := ih ⟨io.written ++ [message]⟩
      · rw [hAll, List.append_assoc, List.singleton_append]
        exact .inl rfl
      · refine .inr ⟨i + 1, Nat.succ_lt_succ hLess, ?_⟩
        rw [hSome, List.take_succ_cons, List.append_assoc, List.singleton_append]
    · have hFirst : Io.write w message io = .error .error io := by
        simp only [Io.write, bind_get, hFlushed]
        rfl
      refine .inr ⟨0, Nat.zero_lt_succ _, ?_⟩
      rw [bind_of_error hFirst, List.take_zero, List.append_nil]

/-- The hub is told an event, or the action fails with it told or not. -/
def Tells (event : StreamHubEvent) (common : Common) (x : EStateM Stop Common Unit) : Prop :=
  (∃ accepted, x common = .ok () { common with sent := common.sent ++ [⟨event, accepted⟩] }) ∨
  ∃ e : Stop, x common = .error e common ∨
    ∃ accepted, x common = .error e { common with sent := common.sent ++ [⟨event, accepted⟩] }

theorem tells_subscribe (w : Surroundings) (appName streamName : String) (common : Common) :
    Tells (.subscribe (.rtmp appName streamName) common.getSubscriberInfo) common
      (Common.subscribeFromStreamHub w appName streamName) := by
  by_cases hListens : w.hubListens = true
  · by_cases hAccepted : w.accepted = true
    · cases hAddr : common.remoteAddr with
      | some addr =>
        refine .inl ⟨true, ?_⟩
        simp only [Common.subscribeFromStreamHub, bind_get, hListens, if_true, Common.send, bind_modify,
          hAccepted, hAddr, orPanic, pure_bind, pure_apply]
      | none =>
        refine .inr ⟨.panic, .inr ⟨true, ?_⟩⟩
        simp only [Common.subscribeFromStreamHub, bind_get, hListens, if_true, Common.send, bind_modify,
          hAccepted, hAddr, orPanic]
        rfl
    · refine .inr ⟨.error, .inr ⟨false, ?_⟩⟩
      simp only [Common.subscribeFromStreamHub, bind_get, hListens, if_true, Common.send, bind_modify,
        hAccepted]
      rfl
  · refine .inr ⟨.error, .inl ?_⟩
    simp only [Common.subscribeFromStreamHub, bind_get, hListens]
    rfl

theorem tells_publish (w : Surroundings) (appName streamName : String) (common : Common) :
    Tells (.publish (.rtmp appName streamName) common.getPublisherInfo) common
      (Common.publishToStreamHub w appName streamName) := by
  by_cases hListens : w.hubListens = true
  · by_cases hAccepted : w.accepted = true
    · refine .inl ⟨true, ?_⟩
      simp only [Common.publishToStreamHub, bind_get, hListens, if_true, Common.send, bind_modify, hAccepted,
        pure_apply]
    · refine .inr ⟨.error, .inr ⟨false, ?_⟩⟩
      simp only [Common.publishToStreamHub, bind_get, hListens, if_true, Common.send, bind_modify, hAccepted]
      rfl
  · refine .inr ⟨.error, .inl ?_⟩
    simp only [Common.publishToStreamHub, bind_get, hListens]
    rfl

/-! ### The two parties -/

/-- Any move of a server's session but that it hears a message. -/
def Served.acts (digest : String → String) (c : Served) : Move → Option Served
  | .message _ _ _ => none
  | move => c.step digest move

/-- A message is heard and handled, or cannot be parsed. -/
def Served.hears (digest : String → String) (c : Served) (w : Surroundings) (m : Written) : Option Served :=
  match m.parsed with
  | .ok (some message) => c.step digest (.message w m.msgStreamId message)
  | .ok none => if c.phase = .reading then some c else none
  | .error _ => c.step digest .parseFails

/-- The server. -/
def answering (digest : String → String) (auth : Option Auth) :
    Party Served Move Surroundings Written Written where
  init := (session digest auth).init
  act c move c' := c.acts digest move = some c'
  hear c w m c' := c.hears digest w m = some c'
  said c := c.session.io.written

namespace ClientSession

/-- Any move of a relay's session but that it hears a message. -/
def Running.acts (c : Running) : Move → Option Running
  | .message _ _ => none
  | move => c.step move

/-- A message is heard and handled, or cannot be parsed. -/
def Running.hears (c : Running) (w : Surroundings) (m : Written) : Option Running :=
  match m.parsed with
  | .ok (some message) => c.step (.message w message)
  | .ok none => if c.phase = .reading then some c else none
  | .error _ => c.step .parseFails

/-- The relay, from the session with which it begins. -/
def asking (s : ClientSession) : Party Running Move Surroundings Written Written where
  init c := c = ⟨s, .looping⟩
  act c move c' := c.acts move = some c'
  hear c w m c' := c.hears w m = some c'
  said c := c.session.io.written

/-- A session before its handshake. -/
structure Fresh (s : ClientSession) : Prop where
  state : s.state = .handshake
  written : s.io.written = []
  sent : s.common.sent = []
  stream : s.streamName = (RtmpUrlParser.parseStreamNameWithQuery s.rawStreamName).1

theorem fresh_new (sessionId : Uuid) (remoteAddr : Option String) (clientType : ClientSessionType)
    (rawDomainName appName rawStreamName : String) :
    (new sessionId remoteAddr clientType rawDomainName appName rawStreamName).Fresh := ⟨rfl, rfl, rfl, rfl⟩

theorem Fresh.subscribe {s : ClientSession} (h : s.Fresh) (appName streamName : String) :
    (s.subscribe appName streamName).Fresh := ⟨h.state, h.written, h.sent, h.stream⟩

/-! ### The scripts -/

/-- The state in which the stream is asked for. -/
def request : ClientSessionType → ClientSessionState
  | .pull => .play
  | .push => .publishingContent

/-- All that a relay asks, from its connection to its stream. -/
def asks (s : ClientSession) : List Written :=
  messagesOf s .connect ++
  [.control (ProtocolControlMessagesWriter.writeWindowAcknowledgementSize 5000000),
   .control (ProtocolControlMessagesWriter.writeAcknowledgement 3107),
   .command (NetStreamWriter.writeReleaseStream connectId s.streamName),
   .command (NetStreamWriter.writeFcpublish connectId s.streamName)] ++
  messagesOf s .createStream ++ messagesOf s (request s.clientType)

/-- What answers the request for a stream. -/
def reply : ClientSessionType → List Written
  | .pull => playMessages 0 0
  | .push =>
    [.control (EventMessagesWriter.writeStreamBegin 0),
     .command (NetStreamWriter.writeOnStatus publishId "status" "NetStream.Publish.Start" "")]

/-- How far a reply goes up to the message that the stream starts. -/
def starts : ClientSessionType → Nat
  | .pull => 3
  | .push => 2

/-- All that a server answers. -/
def answers (clientType : ClientSessionType) : List Written :=
  [.control (ProtocolControlMessagesWriter.writeSetChunkSize Chunk.CHUNK_SIZE),
   .control (ProtocolControlMessagesWriter.writeWindowAcknowledgementSize WINDOW_ACKNOWLEDGEMENT_SIZE),
   .control (ProtocolControlMessagesWriter.writeSetPeerBandwidth PEER_BANDWIDTH DYNAMIC),
   .command (NetConnection.writeConnectResponse connectId FMSVER CAPABILITIES "NetConnection.Connect.Success"
     LEVEL "Connection Succeeded." OBJENCODING_AMF0),
   .command (NetConnection.writeCreateStreamResponse createStreamId STREAM_ID)] ++ reply clientType

/-- How much has been asked at most when so many answers have been heard. -/
def askDue (clientType : ClientSessionType) (heard : Nat) : Nat :=
  if heard ≤ 2 then 2 else if heard = 3 then 3 else if heard = 4 then 7
  else match clientType with
    | .pull => 10
    | .push => 8

/-- How much has been answered at most when so much has been heard. -/
def answerDue (clientType : ClientSessionType) (heard : Nat) : Nat :=
  if heard ≤ 1 then 1 else if heard ≤ 6 then 4 else if heard = 7 then 5
  else 5 + (reply clientType).length

theorem length_asks (s : ClientSession) : (asks s).length = askDue s.clientType 5 := by
  obtain ⟨rawDomainName, appName, rawStreamName, streamName, state, clientType, subAppName, subStreamName, common,
    io⟩ := s
  cases clientType <;> rfl

theorem askDue_mono (clientType : ClientSessionType) : Monotone (askDue clientType) := by
  intro a b hLe
  cases clientType <;> simp only [askDue] <;> split_ifs <;> omega

theorem answerDue_mono (clientType : ClientSessionType) : Monotone (answerDue clientType) := by
  intro a b hLe
  simp only [answerDue]
  split_ifs <;> omega

end ClientSession

end Xiu.Rtmp.Session
