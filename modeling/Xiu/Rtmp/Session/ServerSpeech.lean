import Xiu.Rtmp.Session.Release
import Xiu.Rtmp.Session.Speech

/-! What a server's session says.  In every run it tells its chunk size first and once, and then writes what
is understood. -/

namespace Xiu.Rtmp.Session

open Xiu.Common ProofKit StreamHub Flv.Amf0 Messages Chunk

/-! ### Handlers -/

variable {digest : String → String} {w : Surroundings}

/-- Plain things are said, and the session does not go back to its handshake. -/
def Says (s s' : ServerSession) : Prop :=
  Speaks Plain s.io s'.io ∧ (s'.state = .handshake → s.state = .handshake)

theorem Says.trans {s s1 s' : ServerSession} (h : Says s s1) (h' : Says s1 s') : Says s s' :=
  ⟨h.1.trans h'.1, fun hState => h.2 (h'.2 hState)⟩

theorem plain_status (transactionId : UInt64) {level code description : String} (hLevel : len level ≤ 65535)
    (hCode : len code ≤ 65535) (hDescription : len description ≤ 65535) :
    Plain (.command (.onStatus transactionId level code description)) := by
  refine ⟨by rintro _ _ ⟨⟩, ?_⟩
  have hName : len "onStatus" ≤ 65535 := by decide
  simp only [Sending.Fits, CommandCall.command, NetStreamWriter.writeOnStatus, NetStreamWriter.command,
    List.cons_append, List.nil_append, List.forall_mem_cons, Amf0ValueType.StringsFit]
  exact ⟨hName, trivial, trivial, fits_status hLevel hCode hDescription, List.forall_mem_nil _⟩

theorem plain_connectResponse (transactionId encoding : UInt64) :
    Plain (.command (.connectResponse transactionId FMSVER CAPABILITIES "NetConnection.Connect.Success" LEVEL
      "Connection Succeeded." encoding)) := by
  have hFirst : ["fmsVer", "capabilities"].Nodup := by decide
  have hSecond : ["level", "code", "description", "objectEncoding"].Nodup := by decide
  have hNamed := @fits_properties [("fmsVer", .utf8String FMSVER), ("capabilities", .number CAPABILITIES)] hFirst
  have hCoded := @fits_properties [("level", .utf8String LEVEL),
    ("code", .utf8String "NetConnection.Connect.Success"), ("description", .utf8String "Connection Succeeded."),
    ("objectEncoding", .number encoding)] hSecond
  simp only [List.forall_mem_cons, Amf0ValueType.StringsFit] at hNamed hCoded
  refine ⟨by rintro _ _ ⟨⟩, ?_⟩
  simp only [Sending.Fits, CommandCall.command, NetConnection.writeConnectResponse, NetConnection.command,
    List.forall_mem_cons, Amf0ValueType.StringsFit]
  exact ⟨by decide, trivial, hNamed ⟨by decide, trivial, List.forall_mem_nil _⟩,
    hCoded ⟨by decide, by decide, by decide, trivial, List.forall_mem_nil _⟩, List.forall_mem_nil _⟩

theorem plain_createStreamResponse (transactionId : UInt64) :
    Plain (.command (.createStreamResponse transactionId STREAM_ID)) := by
  refine ⟨by rintro _ _ ⟨⟩, ?_⟩
  simp only [Sending.Fits, CommandCall.command, NetConnection.writeCreateStreamResponse, NetConnection.command,
    List.forall_mem_cons, Amf0ValueType.StringsFit]
  exact ⟨by decide, trivial, trivial, trivial, List.forall_mem_nil _⟩

end Xiu.Rtmp.Session
