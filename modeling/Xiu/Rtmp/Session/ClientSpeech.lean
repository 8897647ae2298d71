import Xiu.Rtmp.Session.ClientSession
import Xiu.Rtmp.Session.Speech

/-! What a relay's session says.  In every run it tells its chunk size first and once, with the turn that
connects, and then writes what is understood, if its names are not too long. -/

namespace Xiu.Rtmp.Session

open ProofKit StreamHub Flv.Amf0 Messages Chunk

namespace ClientSession

variable {w : Surroundings} {s : ClientSession}

/-- The names of the session fit the strings of a command. -/
def Short (s : ClientSession) : Prop :=
  len s!"rtmp://{s.rawDomainName}/{s.appName}" ≤ 65535 ∧ len s.appName ≤ 65535 ∧
    len s.rawStreamName ≤ 65535 ∧ len s.streamName ≤ 65535

instance (s : ClientSession) : Decidable s.Short := inferInstanceAs (Decidable (_ ∧ _ ∧ _ ∧ _))

theorem Short.url (h : s.Short) : len s!"rtmp://{s.rawDomainName}/{s.appName}" ≤ 65535 := h.1

theorem Short.app (h : s.Short) : len s.appName ≤ 65535 := h.2.1

theorem Short.rawStream (h : s.Short) : len s.rawStreamName ≤ 65535 := h.2.2.1

theorem Short.stream (h : s.Short) : len s.streamName ≤ 65535 := h.2.2.2

/-- The session has not connected. -/
def Begins (s : ClientSession) : Prop := s.state = .handshake ∨ s.state = .connect

/-- Plain things are said, if the names are short, and the session does not go back to its beginning. -/
def Says (s s' : ClientSession) : Prop :=
  (s'.Short → s.Short ∧ Speaks Plain s.io s'.io) ∧ (s'.Begins → s.Begins)

theorem Says.trans {s s1 s' : ClientSession} (h : Says s s1) (h' : Says s1 s') : Says s s' := by
  refine ⟨fun hShort => ?_, fun hBegins => h.2 (h'.2 hBegins)⟩
  obtain ⟨hShort1, hSpeaks'⟩ := h'.1 hShort
  obtain ⟨hShort0, hSpeaks⟩ := h.1 hShort1
  exact ⟨hShort0, hSpeaks.trans hSpeaks'⟩

/-! ### Messages -/

theorem plain_connect (transactionId : UInt64) (h : s.Short) :
    Plain (.command (.connect transactionId (connectProperties s))) := by
  refine ⟨by rintro _ _ ⟨⟩, ?_⟩
  have hNodup := (connectPairs_names (connectProperties s)).nodup (by decide)
  have hPairs : ∀ p ∈ NetConnection.connectPairs (connectProperties s), p.2.StringsFit := by
    cases hType : s.clientType <;>
      simp only [connectProperties, hType, NetConnection.connectPairs, ConnectProperties.newNone,
        Option.map_some, Option.map_none, Option.toList_some, Option.toList_none, List.append_nil,
        List.cons_append, List.nil_append, List.forall_mem_cons, Amf0ValueType.StringsFit]
    · exact ⟨h.app, by decide, h.url, trivial, trivial, trivial, trivial, trivial, List.forall_mem_nil _⟩
    · exact ⟨h.app, by decide, by decide, h.url, trivial, List.forall_mem_nil _⟩
  simp only [Sending.Fits, CommandCall.command, NetConnection.writeConnect, NetConnection.command,
    List.forall_mem_cons, Amf0ValueType.StringsFit]
  exact ⟨by decide, trivial, fits_properties hNodup hPairs, List.forall_mem_nil _⟩

theorem plain_createStream (transactionId : UInt64) : Plain (.command (.createStream transactionId)) := by
  refine ⟨by rintro _ _ ⟨⟩, ?_⟩
  simp only [Sending.Fits, CommandCall.command, NetConnection.writeCreateStream, NetConnection.command,
    List.forall_mem_cons, Amf0ValueType.StringsFit]
  exact ⟨by decide, trivial, trivial, List.forall_mem_nil _⟩

theorem plain_play (h : s.Short) : Plain (.command (.play 0 s.rawStreamName 0 0 false)) := by
  refine ⟨by rintro _ _ ⟨⟩, ?_⟩
  simp only [Sending.Fits, CommandCall.command, NetStreamWriter.writePlay, NetStreamWriter.command,
    List.cons_append, List.nil_append, List.forall_mem_cons, Amf0ValueType.StringsFit]
  exact ⟨by decide, trivial, trivial, h.rawStream, trivial, trivial, trivial, List.forall_mem_nil _⟩

theorem plain_getStreamLength (h : s.Short) : Plain (.command (.getStreamLength 0 s.rawStreamName)) := by
  refine ⟨by rintro _ _ ⟨⟩, ?_⟩
  simp only [Sending.Fits, CommandCall.command, NetConnection.writeGetStreamLength, NetConnection.command,
    List.forall_mem_cons, Amf0ValueType.StringsFit]
  exact ⟨by decide, trivial, trivial, h.rawStream, List.forall_mem_nil _⟩

theorem plain_publish (h : s.Short) : Plain (.command (.publish publishId s.rawStreamName "live")) := by
  refine ⟨by rintro _ _ ⟨⟩, ?_⟩
  simp only [Sending.Fits, CommandCall.command, NetStreamWriter.writePublish, NetStreamWriter.command,
    List.cons_append, List.nil_append, List.forall_mem_cons, Amf0ValueType.StringsFit]
  exact ⟨by decide, trivial, trivial, h.rawStream, by decide, List.forall_mem_nil _⟩

/-- A command of the stream's name. -/
theorem fits_named (h : s.Short) {name : String} (hName : len name ≤ 65535) :
    ∀ v ∈ (NetStreamWriter.command name connectId [.utf8String s.streamName] 0).values, v.StringsFit := by
  simp only [NetStreamWriter.command, List.cons_append, List.nil_append, List.forall_mem_cons,
    Amf0ValueType.StringsFit]
  exact ⟨hName, trivial, trivial, h.stream, List.forall_mem_nil _⟩

theorem plain_releaseStream (h : s.Short) : Plain (.command (.releaseStream connectId s.streamName)) :=
  ⟨by rintro _ _ ⟨⟩, @fits_named s h "releaseStream" (by decide)⟩

theorem plain_fcpublish (h : s.Short) : Plain (.command (.fcpublish connectId s.streamName)) :=
  ⟨by rintro _ _ ⟨⟩, @fits_named s h "FCPublish" (by decide)⟩

end ClientSession

end Xiu.Rtmp.Session
