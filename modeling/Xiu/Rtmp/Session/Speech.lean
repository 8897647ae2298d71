import Xiu.ProofKit.Moves
import Xiu.Rtmp.Connection
import Xiu.Rtmp.Session.Common

/-! What sessions say.  In every run a session tells its chunk size first and once; all else that it writes
are commands and control messages that the other side understands.  So the other side hears everything that a
session says, and the frames that follow, however the bytes are cut. -/

namespace Xiu.Rtmp

open ProofKit StreamHub Flv.Amf0 Messages Chunk Session

/-! ### Things that are understood -/

namespace Sending

/-- What a session writes to send this, beside frames. -/
def written : Sending → List Written
  | .control call => [.control call.message]
  | .command call => [.command call.command]
  | .frame _ => []

/-- A control message whose event is known and that is no chunk size, or a command whose properties are not
chosen freely. -/
def Clear : Sending → Prop
  | .control call => call.meaning ≠ none ∧ ∀ n, call ≠ .setChunkSize n
  | .command call => ∀ transactionId map, call ≠ .connectWithValue transactionId map
  | .frame _ => False

/-- The strings of a command are not too long to be written. -/
def Fits : Sending → Prop
  | .command call => ∀ v ∈ call.command.values, v.StringsFit
  | _ => True

theorem Clear.sized {x : Sending} (h : x.Clear) : x.Sized := by
  cases x with
  | control call => exact trivial
  | command call => exact fun data hData => CommandCall.length_payload h hData
  | frame frame => exact h.elim

theorem Clear.readable {x : Sending} (h : x.Clear) : x.Readable := by
  cases x with
  | control call => exact trivial
  | command call =>
    cases call with
    | connectWithValue transactionId map => exact absurd rfl (h transactionId map)
    | _ => exact trivial
  | frame frame => exact h.elim

theorem Clear.media {x : Sending} (h : x.Clear) : x.media = none := by
  cases x with
  | frame frame => exact h.elim
  | _ => rfl

end Sending

end Xiu.Rtmp

namespace Xiu.Rtmp.Session

open ProofKit StreamHub Flv.Amf0 Messages Chunk

/-! ### What actions say -/

/-- Things that have a property are added to what has been written. -/
def Speaks (P : Sending → Prop) (io io' : Io) : Prop :=
  ∃ calls : List Sending, (∀ x ∈ calls, P x) ∧ io'.written = io.written ++ calls.flatMap Sending.written

section Speaks

variable {P : Sending → Prop} {w : Surroundings}

theorem Speaks.trans {io io1 io' : Io} (h : Speaks P io io1) (h' : Speaks P io1 io') : Speaks P io io' := by
  obtain ⟨calls, hCalls, hWritten⟩ := h
  obtain ⟨calls', hCalls', hWritten'⟩ := h'
  refine ⟨calls ++ calls', ?_, ?_⟩
  · rw [List.forall_mem_append]
    exact ⟨hCalls, hCalls'⟩
  · rw [hWritten', hWritten, List.flatMap_append, List.append_assoc]

end Speaks

/-! ### Plain things -/

/-- What is understood, and is not too long. -/
def Plain (x : Sending) : Prop := x.Clear ∧ x.Fits

theorem allFits {pairs : List (String × Amf0ValueType)} (h : ∀ p ∈ pairs, p.2.StringsFit) :
    Amf0ValueType.AllStringsFit pairs := by
  induction pairs with
  | nil => simp [Amf0ValueType.AllStringsFit]
  | cons p pairs ih =>
    rw [List.forall_mem_cons] at h
    rw [Amf0ValueType.AllStringsFit]
    exact ⟨h.1, ih h.2⟩

theorem fits_properties {pairs : List (String × Amf0ValueType)} (hNodup : (pairs.map (·.1)).Nodup)
    (h : ∀ p ∈ pairs, p.2.StringsFit) : (properties pairs).StringsFit := by
  rw [properties_eq hNodup, Amf0ValueType.StringsFit]
  exact allFits h

theorem fits_status {level code description : String} (hLevel : len level ≤ 65535) (hCode : len code ≤ 65535)
    (hDescription : len description ≤ 65535) :
    (properties [("level", .utf8String level), ("code", .utf8String code),
      ("description", .utf8String description)]).StringsFit := by
  have hNames : ["level", "code", "description"].Nodup := by decide
  refine fits_properties hNames ?_
  simp only [List.forall_mem_cons, Amf0ValueType.StringsFit]
  exact ⟨hLevel, hCode, hDescription, List.forall_mem_nil _⟩

/-! ### What the other side hears -/

/-- Frames that can be sent: none is longer than a header can say, and none repeats a header with an extended
timestamp. -/
structure Sendable (frames : List FrameData) : Prop where
  sized : ∀ frame ∈ frames, (Sending.frame frame).Sized
  lossFree : LossFree [] ((frames.map Sending.frame).filterMap Sending.media)

end Xiu.Rtmp.Session
