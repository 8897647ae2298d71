import Xiu.Rtmp.Chunk.Messages
import Xiu.Rtmp.Chunk.Packetizer

/-! The chunk writer and the chunk reader together.  Messages are written one after the other and
read back from the bytes.  What the writer sends for a message depends on the message before it on
the chunk stream; the reader stays in step with it as long as no message goes on, in a chunk of
format 3, after a header with an extended timestamp: the writer then sends none and the reader takes
four bytes of the payload for it. -/

namespace Xiu.Rtmp.Chunk

open Bytesio ProofKit ChunkUnpacketizer

/-! ### Messages -/

/-- A message on a chunk stream of one byte whose length fits a header, with the format that its
sender names. -/
structure Message extends SizedMessage where
  given : UInt8
  low : 2 ≤ csid
  high : csid ≤ 63

namespace Message

/-- The message as its sender builds it. -/
def chunkInfo (m : Message) : ChunkInfo :=
  .new m.csid m.given m.timestamp m.msgLength m.msgTypeId m.msgStreamId m.payload

theorem msgLength_inj {m p : Message} :
    m.msgLength = p.msgLength ↔ m.payload.length = p.payload.length := by
  rw [← UInt32.toNat_inj, SizedMessage.msgLength_toNat, SizedMessage.msgLength_toNat]

end Message

/-! ### What is sent for a message -/

/-- The last message on a chunk stream and the ones before it, in a list whose head is the last
message sent. -/
def lastOn (csid : UInt32) : List Message → Option (Message × List Message)
  | [] => none
  | m :: sent => if m.csid = csid then some (m, sent) else lastOn csid sent

namespace Message

/-- Whether the header of a message can be sent as a change of the header of `p`. -/
def Follows (m p : Message) : Prop := p.timestamp ≤ m.timestamp ∧ m.msgStreamId = p.msgStreamId

/-- Whether two messages are of one type and length. -/
def SameShape (m p : Message) : Prop :=
  m.msgTypeId = p.msgTypeId ∧ m.payload.length = p.payload.length

instance (m p : Message) : Decidable (m.Follows p) :=
  inferInstanceAs (Decidable (_ ∧ _))

instance (m p : Message) : Decidable (m.SameShape p) :=
  inferInstanceAs (Decidable (_ ∧ _))

/-- Whether a message is sent with a header of format 0. -/
def Full (sent : List Message) (m : Message) : Prop :=
  ∀ e ∈ lastOn m.csid sent, ¬m.Follows e.1

instance (sent : List Message) (m : Message) : Decidable (m.Full sent) :=
  inferInstanceAs (Decidable (∀ e ∈ lastOn m.csid sent, ¬m.Follows e.1))

/-- The step in time from the message before on the chunk stream, or 0 in a full header. -/
def delta (sent : List Message) (m : Message) : UInt32 :=
  match lastOn m.csid sent with
  | none => 0
  | some (p, _) => if m.Follows p then m.timestamp - p.timestamp else 0

/-- Whether the timestamp or the step in time of a message needs an extended timestamp. -/
def Extended (sent : List Message) (m : Message) : Prop :=
  0xFFFFFF ≤ if m.Full sent then m.timestamp else m.delta sent

instance (sent : List Message) (m : Message) : Decidable (m.Extended sent) :=
  inferInstanceAs (Decidable (_ ≤ _))

/-- Whether a message repeats the header of `e.1`, its step in time included. -/
def Repeats (sent : List Message) (m : Message) (e : Message × List Message) : Prop :=
  m.Follows e.1 ∧ m.SameShape e.1 ∧ m.delta sent = e.1.delta e.2

instance (sent : List Message) (m : Message) (e : Message × List Message) :
    Decidable (m.Repeats sent e) :=
  inferInstanceAs (Decidable (_ ∧ _ ∧ _))

/-- Whether a message repeats a header with an extended timestamp. -/
def Loses (sent : List Message) (m : Message) : Prop :=
  ∃ e ∈ lastOn m.csid sent, m.Repeats sent e ∧ e.1.Extended e.2

instance (sent : List Message) (m : Message) : Decidable (m.Loses sent) :=
  inferInstanceAs (Decidable (∃ e ∈ lastOn m.csid sent, m.Repeats sent e ∧ e.1.Extended e.2))

end Message

/-- No message repeats a header with an extended timestamp. -/
def LossFree : List Message → List Message → Prop
  | _, [] => True
  | sent, m :: msgs => ¬m.Loses sent ∧ LossFree (m :: sent) msgs

theorem lastOn_cons (csid : UInt32) (m : Message) (sent : List Message) :
    lastOn csid (m :: sent) = if m.csid = csid then some (m, sent) else lastOn csid sent := rfl

namespace Message

/-- The format that the writer chooses. -/
def format (sent : List Message) (m : Message) : UInt8 :=
  match lastOn m.csid sent with
  | none => 0
  | some e =>
    if m.Follows e.1 then
      if m.SameShape e.1 then if m.delta sent = e.1.delta e.2 then 3 else 2
      else 1
    else 0

/-- The header that the writer keeps. -/
def packed (sent : List Message) (m : Message) : ChunkMessageHeader :=
  { m.header with timestampDelta := m.delta sent }

/-- The header that the reader keeps. -/
def left (sent : List Message) (m : Message) : ChunkMessageHeader :=
  { m.packed sent with
    extendedTimestampType :=
      if m.Extended sent then if m.Full sent then .format0 else .format12 else .none }

/-- How a message is sent after the messages before it. -/
inductive Sending (sent : List Message) (m : Message) : Prop
  | full (hFormat : m.format sent = 0) (hFull : m.Full sent) (hDelta : m.delta sent = 0)
  | change (e : Message × List Message) (hLast : lastOn m.csid sent = some e)
      (hFull : ¬m.Full sent) (hFollows : m.Follows e.1)
      (hDelta : m.delta sent = m.timestamp - e.1.timestamp)
      (hFormat : m.format sent = 1 ∨ m.format sent = 2 ∧ m.SameShape e.1)
  | repeated (e : Message × List Message) (hLast : lastOn m.csid sent = some e)
      (hFull : ¬m.Full sent) (hDelta : m.delta sent = m.timestamp - e.1.timestamp)
      (hFormat : m.format sent = 3) (hRepeats : m.Repeats sent e)

theorem sending (sent : List Message) (m : Message) : m.Sending sent := by
  cases hLast : lastOn m.csid sent with
  | none =>
    refine .full ?_ ?_ ?_
    · rw [format, hLast]
    · intro e he
      rw [hLast] at he
      cases he
    · rw [delta, hLast]
  | some e =>
    by_cases hFollows : m.Follows e.1
    · have hFull : ¬m.Full sent := fun hFull => hFull e hLast hFollows
      have hDelta : m.delta sent = m.timestamp - e.1.timestamp := by
        rw [delta, hLast]
        exact if_pos hFollows
      by_cases hShape : m.SameShape e.1
      · by_cases hSame : m.delta sent = e.1.delta e.2
        · refine .repeated e hLast hFull hDelta ?_ ⟨hFollows, hShape, hSame⟩
          simp only [format, hLast, if_pos hFollows, if_pos hShape, if_pos hSame]
        · refine .change e hLast hFull hFollows hDelta (.inr ⟨?_, hShape⟩)
          simp only [format, hLast, if_pos hFollows, if_pos hShape, if_neg hSame]
      · refine .change e hLast hFull hFollows hDelta (.inl ?_)
        simp only [format, hLast, if_pos hFollows, if_neg hShape]
    · refine .full ?_ ?_ ?_
      · simp only [format, hLast, if_neg hFollows]
      · intro e' he'
        rw [hLast] at he'
        cases he'
        exact hFollows
      · rw [delta, hLast]
        exact if_neg hFollows

theorem format_lt (sent : List Message) (m : Message) : m.format sent < 4 := by
  cases m.sending sent with
  | full hFormat => rw [hFormat]; decide
  | change e _ _ _ _ hFormat =>
    rcases hFormat with hFormat | ⟨hFormat, -⟩ <;> rw [hFormat] <;> decide
  | repeated e _ _ _ hFormat => rw [hFormat]; decide

/-- The writer keeps what it finds for the message before, and so chooses the format. -/
theorem zipped_eq {sent : List Message} {m : Message} {previous : Option ChunkHeader}
    (h : previous.map (·.messageHeader) = (lastOn m.csid sent).map fun e => e.1.packed e.2) :
    zipped previous m.header = (m.format sent, m.packed sent) := by
  cases hLast : lastOn m.csid sent with
  | none =>
    rw [hLast] at h
    obtain rfl : previous = none := by
      cases previous with
      | none => rfl
      | some _ => cases h
    rw [format, packed, delta, hLast]
    rfl
  | some e =>
    rw [hLast] at h
    obtain ⟨basicHeader, hPrevious⟩ : ∃ basicHeader, previous = some ⟨basicHeader, e.1.packed e.2⟩ := by
      cases previous with
      | none => cases h
      | some preHeader =>
        have hSame : preHeader.messageHeader = e.1.packed e.2 := Option.some.inj h
        exact ⟨preHeader.basicHeader, by rw [← hSame]⟩
    subst hPrevious
    have hFollows : (m.header.timestamp < (e.1.packed e.2).timestamp ∨
        m.header.msgStreamdId ≠ (e.1.packed e.2).msgStreamdId) ↔ ¬m.Follows e.1 := by
      change m.timestamp < e.1.timestamp ∨ m.msgStreamId ≠ e.1.msgStreamId ↔
        ¬(e.1.timestamp ≤ m.timestamp ∧ m.msgStreamId = e.1.msgStreamId)
      rw [not_and_or, UInt32.not_le]
    have hShape : (m.header.msgTypeId = (e.1.packed e.2).msgTypeId ∧
        m.header.msgLength = (e.1.packed e.2).msgLength) ↔ m.SameShape e.1 :=
      and_congr_right' msgLength_inj
    unfold zipped format
    rw [hLast]
    dsimp only
    by_cases hf : m.Follows e.1
    · have hDelta : m.header.timestamp - (e.1.packed e.2).timestamp = m.delta sent := by
        rw [delta, hLast]
        exact (if_pos hf).symm
      rw [if_neg (hFollows.not.mpr (not_not_intro hf)), if_pos hf, hDelta]
      by_cases hs : m.SameShape e.1
      · rw [if_pos (hShape.mpr hs), if_pos hs]
        by_cases hd : m.delta sent = e.1.delta e.2
        · rw [if_pos hd]
          exact if_pos hd
        · rw [if_neg hd]
          exact if_neg hd
      · rw [if_neg (hShape.not.mpr hs), if_neg hs]
        rfl
    · rw [if_pos (hFollows.mpr hf), if_neg hf, packed, delta, hLast]
      dsimp only
      rw [if_neg hf]
      rfl

/-- The extended timestamp that is sent for a message, if any. -/
def extendedSent (sent : List Message) (m : Message) : Option UInt32 :=
  (timestampFields (m.format sent) (m.packed sent)).1

/-- The timestamp or timestamp delta field that is sent for a message. -/
def firstSent (sent : List Message) (m : Message) : UInt32 :=
  (timestampFields (m.format sent) (m.packed sent)).2.1

/-- The bytes of a message. -/
def bytes (size : Nat) (sent : List Message) (m : Message) : List UInt8 :=
  basicHeaderBytes (m.format sent) m.csid ++
    (messageHeaderBytes (m.format sent) (m.firstSent sent) m.header ++
      (extendedBytes (m.extendedSent sent) ++
        chunkedPayload size (basicHeaderBytes 3 m.csid ++ extendedBytes (m.extendedSent sent))
          m.payload))

end Message

/-- The bytes of messages that are written one after the other. -/
def messagesBytes (size : Nat) : List Message → List Message → List UInt8
  | _, [] => []
  | sent, m :: msgs => m.bytes size sent ++ messagesBytes size (m :: sent) msgs

/-- The writer after the messages of a list have been written. -/
structure HasWritten (sent : List Message) (packetizer : ChunkPacketizer) : Prop where
  flushed : packetizer.writer.bytesWriter.bytes = []
  kept : ∀ csid, (packetizer.csid2ChunkHeader.lookup csid).map (·.messageHeader) =
    (lastOn csid sent).map fun e => e.1.packed e.2

theorem hasWritten_new : HasWritten [] .new := ⟨rfl, fun _ => rfl⟩

theorem writeChunk_message {sent : List Message} {packetizer : ChunkPacketizer}
    (h : HasWritten sent packetizer) (m : Message) :
    ∃ packetizer', packetizer.writeChunk m.chunkInfo = .ok packetizer' ∧
      packetizer'.writer.io = packetizer.writer.io ++ m.bytes packetizer.maxChunkSize sent ∧
      packetizer'.maxChunkSize = packetizer.maxChunkSize ∧ HasWritten (m :: sent) packetizer' := by
  have hWrite := writeChunk_eq h.flushed rfl
    (by rw [show m.chunkInfo.messageHeader.msgLength = m.msgLength from rfl, m.msgLength_toNat]
        exact m.short) rfl (Message.zipped_eq (h.kept m.csid)) rfl
  refine ⟨_, hWrite, rfl, rfl, rfl, fun csid => ?_⟩
  rw [lastOn_cons]
  by_cases hCsid : m.csid = csid
  · rw [if_pos hCsid, ← hCsid]
    exact congrArg (Option.map _) (AList.lookup_insert packetizer.csid2ChunkHeader)
  · rw [if_neg hCsid, ← h.kept csid]
    exact congrArg (Option.map _)
      (AList.lookup_insert_ne (s := packetizer.csid2ChunkHeader) (Ne.symm hCsid))

theorem writeChunks_messages {sent : List Message} {packetizer : ChunkPacketizer}
    (h : HasWritten sent packetizer) (msgs : List Message) :
    ∃ packetizer', packetizer.writeChunks (msgs.map (·.chunkInfo)) = .ok packetizer' ∧
      packetizer'.maxChunkSize = packetizer.maxChunkSize ∧ packetizer'.writer.io =
        packetizer.writer.io ++ messagesBytes packetizer.maxChunkSize sent msgs := by
  induction msgs generalizing sent packetizer with
  | nil => exact ⟨packetizer, rfl, rfl, (List.append_nil _).symm⟩
  | cons m msgs ih =>
    obtain ⟨next, hWrite, hIo, hSize, hNext⟩ := writeChunk_message h m
    obtain ⟨last, hWrites, hSizes, hLast⟩ := ih hNext
    refine ⟨last, ?_, hSizes.trans hSize, ?_⟩
    · rw [ChunkPacketizer.writeChunks, List.map_cons, List.foldlM_cons, hWrite]
      exact hWrites
    · rw [hLast, hIo, hSize, messagesBytes, List.append_assoc]

/-! ### What is read of a message -/

/-- The reader after the messages of a list have been read. -/
structure HasRead (size : Nat) (sent : List Message) (r : ChunkUnpacketizer) : Prop where
  state : r.chunkReadState = .readBasicHeader
  field : r.msgHeaderReadState = .readTimeStamp
  payload : r.payload = []
  size : r.maxChunkSize = size
  kept : ∀ csid, r.chunkMessageHeaders.lookup csid = (lastOn csid sent).map fun e => e.1.left e.2
  current : r.currentChunkInfo.basicHeader.chunkStreamId = 0 ∨
    r.chunkMessageHeaders.lookup r.currentChunkInfo.basicHeader.chunkStreamId =
      some r.header

theorem hasRead_new (size : Nat) : HasRead size [] (new.updateMaxChunkSize size) :=
  ⟨rfl, rfl, rfl, rfl, fun _ => rfl, .inl rfl⟩

namespace Message

theorem delta_of_full {sent : List Message} {m : Message} (h : m.Full sent) : m.delta sent = 0 := by
  unfold delta
  cases hLast : lastOn m.csid sent with
  | none => rfl
  | some e => exact if_neg (h e hLast)

theorem extended_full {sent : List Message} {m : Message} (h : m.Full sent) :
    m.Extended sent ↔ 0xFFFFFF ≤ m.timestamp := by
  unfold Extended
  rw [if_pos h]

theorem extended_change {sent : List Message} {m : Message} (h : ¬m.Full sent) :
    m.Extended sent ↔ 0xFFFFFF ≤ m.delta sent := by
  unfold Extended
  rw [if_neg h]

/-- A message that repeats a header without an extended timestamp needs none itself. -/
theorem not_extended_of_repeats {sent : List Message} {m : Message} {e : Message × List Message}
    (hFull : ¬m.Full sent) (hRepeats : m.Repeats sent e) (h : ¬e.1.Extended e.2) :
    ¬m.Extended sent := by
  rw [extended_change hFull, hRepeats.2.2]
  by_cases hBefore : e.1.Full e.2
  · rw [delta_of_full hBefore]
    decide
  · exact (extended_change hBefore).not.mp h

theorem not_extended_of_not_loses {sent : List Message} {m : Message} {e : Message × List Message}
    (hLast : lastOn m.csid sent = some e) (hRepeats : m.Repeats sent e) (h : ¬m.Loses sent) :
    ¬e.1.Extended e.2 := fun hExtended => h ⟨e, hLast, hRepeats, hExtended⟩

/-- What is sent with a full header. -/
theorem sent_full {sent : List Message} {m : Message} (hFormat : m.format sent = 0)
    (hFull : m.Full sent) :
    m.extendedSent sent = (if m.Extended sent then some m.timestamp else none) ∧
      m.firstSent sent = (if m.Extended sent then 0xFFFFFF else m.timestamp) := by
  unfold extendedSent firstSent timestampFields
  rw [hFormat, if_pos rfl]
  by_cases hExtended : m.Extended sent
  · have hValue : (m.packed sent).timestamp ≥ 0xFFFFFF := (extended_full hFull).mp hExtended
    rw [if_pos hExtended, if_pos hExtended, if_pos hValue]
    exact ⟨rfl, rfl⟩
  · have hValue : ¬(m.packed sent).timestamp ≥ 0xFFFFFF := (extended_full hFull).not.mp hExtended
    rw [if_neg hExtended, if_neg hExtended, if_neg hValue]
    exact ⟨rfl, rfl⟩

/-- What is sent with a header that changes the one before. -/
theorem sent_change {sent : List Message} {m : Message}
    (hFormat : m.format sent = 1 ∨ m.format sent = 2) (hFull : ¬m.Full sent) :
    m.extendedSent sent = (if m.Extended sent then some (m.delta sent) else none) ∧
      m.firstSent sent = (if m.Extended sent then 0xFFFFFF else m.delta sent) := by
  have h0 : m.format sent ≠ 0 := by
    rcases hFormat with h | h <;> rw [h] <;> decide
  unfold extendedSent firstSent timestampFields
  rw [if_neg h0, if_pos hFormat]
  by_cases hExtended : m.Extended sent
  · have hValue : (m.packed sent).timestampDelta ≥ 0xFFFFFF :=
      (extended_change hFull).mp hExtended
    rw [if_pos hExtended, if_pos hExtended, if_pos hValue]
    exact ⟨rfl, rfl⟩
  · have hValue : ¬(m.packed sent).timestampDelta ≥ 0xFFFFFF :=
      (extended_change hFull).not.mp hExtended
    rw [if_neg hExtended, if_neg hExtended, if_neg hValue]
    exact ⟨rfl, rfl⟩

/-- The extended timestamp that is sent is the one that the reader has in force. -/
theorem extendedBytes_sent {sent : List Message} {m : Message} (h : ¬m.Loses sent) :
    extendedBytes (m.extendedSent sent) =
      extendedTimestampBytes (m.left sent) (m.left sent).extendedValue := by
  unfold extendedTimestampBytes ChunkMessageHeader.extendedValue left
  cases m.sending sent with
  | full hFormat hFull hDelta =>
    rw [(sent_full hFormat hFull).1, if_pos hFull]
    by_cases hExtended : m.Extended sent
    · simp only [if_pos hExtended]
      rfl
    · simp only [if_neg hExtended]
      rfl
  | change e hLast hFull hFollows hDelta hFormat =>
    rw [(sent_change (hFormat.imp_right And.left) hFull).1, if_neg hFull]
    by_cases hExtended : m.Extended sent
    · simp only [if_pos hExtended]
      rfl
    · simp only [if_neg hExtended]
      rfl
  | repeated e hLast hFull hDelta hFormat hRepeats =>
    have hNot := not_extended_of_repeats hFull hRepeats
      (not_extended_of_not_loses hLast hRepeats h)
    have hNone : m.extendedSent sent = none := by
      unfold extendedSent timestampFields
      rw [hFormat]
      rfl
    rw [hNone]
    simp only [if_neg hNot]
    rfl

/-- The head of the first chunk of a message. -/
def head (sent : List Message) (m : Message) : ChunkHead where
  format := m.format sent
  csid := m.csid
  first := m.firstSent sent
  header := m.header
  extended := (m.left sent).extendedValue

end Message

section Heads

variable {size : Nat} {sent : List Message} {self : ChunkUnpacketizer} {m : Message}

/-- The header that is kept for a chunk stream is in force after a basic header. -/
theorem begun_kept {csid : UInt32} {header : ChunkMessageHeader}
    (hKept : self.chunkMessageHeaders.lookup csid = some header)
    (hCurrent : self.currentChunkInfo.basicHeader.chunkStreamId = 0 ∨
      self.chunkMessageHeaders.lookup self.currentChunkInfo.basicHeader.chunkStreamId = some self.header)
    (hCsid : csid ≠ 0) {k : UInt8} (hFormat : k ≠ 0) : (self.begun k csid).header = header := by
  have hHeader : (self.switched k csid).header = header := by
    unfold switched
    by_cases hSame : csid = self.currentChunkInfo.basicHeader.chunkStreamId
    · rw [if_pos hSame]
      rcases hCurrent with hZero | hLookup
      · exact absurd (hSame.trans hZero) hCsid
      · rw [← hSame, hKept] at hLookup
        exact (Option.some.inj hLookup).symm
    · rw [if_neg hSame, hKept]
      rfl
  unfold begun
  dsimp only
  rw [if_neg hFormat]
  exact hHeader

theorem Message.csid_ne_zero (m : Message) : m.csid ≠ 0 := by
  intro hZero
  have hLow := m.low
  rw [hZero] at hLow
  exact absurd hLow (by decide)

/-- The header that the reader has in force after the basic header of a message. -/
theorem HasRead.begun_header (h : HasRead size sent self) {e : Message × List Message}
    (hLast : lastOn m.csid sent = some e) {k : UInt8} (hFormat : k ≠ 0) :
    (self.begun k m.csid).header = e.1.left e.2 :=
  begun_kept (by rw [h.kept, hLast]; rfl) h.current m.csid_ne_zero hFormat

theorem advanced_delta {format : UInt8} (h : format = 1 ∨ format = 2 ∨ format = 3)
    (header : ChunkMessageHeader) :
    header.advanced format [] =
      { header with timestamp := header.timestamp + header.timestampDelta } :=
  if_pos (h.imp_right (Or.imp_right fun h3 => ⟨h3, rfl⟩))

/-- The head of a message leaves its header, if the header that it changes is in force. -/
theorem Message.carried (h : ∀ e, lastOn m.csid sent = some e → ∀ k : UInt8, k ≠ 0 →
      (self.begun k m.csid).header = e.1.left e.2) (hLoses : ¬m.Loses sent) :
    ((m.head sent).carried self).extendedTimestampType = (m.left sent).extendedTimestampType ∧
      (((m.head sent).carried self).extended (m.left sent).extendedValue).advanced (m.format sent)
        [] = m.left sent := by
  cases m.sending sent with
  | full hFormat hFull hDelta =>
    have hCarried : (m.head sent).carried self =
        { m.header with
          timestamp := m.firstSent sent
          extendedTimestampType := if m.firstSent sent ≥ 0xFFFFFF then .format0 else .none } := by
      unfold ChunkHead.carried Message.head
      dsimp only
      rw [hFormat]
      rfl
    rw [hCarried, (Message.sent_full hFormat hFull).2, hFormat, Message.left, Message.packed, hDelta,
      if_pos hFull]
    by_cases hExtended : m.Extended sent
    · simp only [if_pos hExtended]
      exact ⟨rfl, rfl⟩
    · have hSmall : ¬m.timestamp ≥ 0xFFFFFF := (Message.extended_full hFull).not.mp hExtended
      refine ⟨by simp only [if_neg hExtended, if_neg hSmall], ?_⟩
      simp only [if_neg hExtended, if_neg hSmall]
      rfl
  | change e hLast hFull hFollows hDelta hFormat =>
    have hSent := Message.sent_change (hFormat.imp_right And.left) hFull
    have hCarried : (m.head sent).carried self =
        { e.1.left e.2 with
          timestampDelta := m.firstSent sent
          msgLength := m.msgLength
          msgTypeId := m.msgTypeId
          extendedTimestampType := if m.firstSent sent ≥ 0xFFFFFF then .format12 else .none } := by
      unfold ChunkHead.carried Message.head
      dsimp only
      rcases hFormat with hFormat | ⟨hFormat, hShape⟩
      · rw [hFormat, h e hLast _ (by decide)]
        rfl
      · rw [hFormat, h e hLast _ (by decide), hShape.1, Message.msgLength_inj.mpr hShape.2]
        rfl
    have hTime : e.1.timestamp + m.delta sent = m.timestamp := by
      rw [hDelta, UInt32.add_comm, UInt32.sub_add_cancel]
    have hFormat12 : m.format sent = 1 ∨ m.format sent = 2 ∨ m.format sent = 3 := by
      rcases hFormat with hFormat | ⟨hFormat, -⟩
      · exact .inl hFormat
      · exact .inr (.inl hFormat)
    rw [hCarried, hSent.2, advanced_delta hFormat12]
    by_cases hExtended : m.Extended sent
    · simp only [Message.left, if_pos hExtended, if_neg hFull]
      refine ⟨rfl, ?_⟩
      change ({ m.header with
        timestamp := e.1.timestamp + m.delta sent
        msgStreamdId := e.1.msgStreamId
        timestampDelta := m.delta sent
        extendedTimestampType := .format12 } : ChunkMessageHeader) = _
      rw [hTime, ← hFollows.2]
      rfl
    · have hSmall : ¬m.delta sent ≥ 0xFFFFFF := (Message.extended_change hFull).not.mp hExtended
      refine ⟨by simp only [Message.left, if_neg hExtended, if_neg hSmall], ?_⟩
      simp only [Message.left, if_neg hExtended, if_neg hSmall]
      change ({ m.header with
        timestamp := e.1.timestamp + m.delta sent
        msgStreamdId := e.1.msgStreamId
        timestampDelta := m.delta sent
        extendedTimestampType := .none } : ChunkMessageHeader) = _
      rw [hTime, ← hFollows.2]
      rfl
  | repeated e hLast hFull hDelta hFormat hRepeats =>
    have hNot := Message.not_extended_of_not_loses hLast hRepeats hLoses
    have hNotSelf := Message.not_extended_of_repeats hFull hRepeats hNot
    have hTime : e.1.timestamp + e.1.delta e.2 = m.timestamp := by
      rw [← hRepeats.2.2, hDelta, UInt32.add_comm, UInt32.sub_add_cancel]
    have hCarried : (m.head sent).carried self = e.1.left e.2 := by
      unfold ChunkHead.carried Message.head
      dsimp only
      rw [hFormat, h e hLast _ (by decide)]
      rfl
    rw [hCarried, advanced_delta (.inr (.inr hFormat))]
    refine ⟨by simp only [Message.left, if_neg hNot, if_neg hNotSelf], ?_⟩
    simp only [Message.left, if_neg hNot, if_neg hNotSelf]
    change ({ e.1.header with
      timestamp := e.1.timestamp + e.1.delta e.2
      timestampDelta := e.1.delta e.2
      extendedTimestampType := .none } : ChunkMessageHeader) = _
    rw [hTime, ← hRepeats.2.2]
    obtain ⟨⟨-, hStream⟩, ⟨hType, hLength⟩, -⟩ := hRepeats
    unfold Message.packed SizedMessage.header ChunkMessageHeader.new
    rw [hStream, hType, Message.msgLength_inj.mpr hLength]

theorem HasRead.carried (h : HasRead size sent self) (hLoses : ¬m.Loses sent) :
    ((m.head sent).carried self).extendedTimestampType = (m.left sent).extendedTimestampType ∧
      (((m.head sent).carried self).extended (m.left sent).extendedValue).advanced (m.format sent)
        [] = m.left sent :=
  Message.carried (fun _ hLast _ hFormat => h.begun_header hLast hFormat) hLoses

/-- The reader after the head of a message that leaves its header. -/
theorem Message.read_head (hLeft : (((m.head sent).carried self).extended
      (m.left sent).extendedValue).advanced (m.format sent) [] = m.left sent)
    (h : self.payload = []) (rest : List UInt8) :
    ((m.head sent).read self rest).header = m.left sent ∧
      ((m.head sent).read self rest).payload = [] ∧
      ((m.head sent).read self rest).currentChunkInfo.basicHeader.chunkStreamId = m.csid ∧
      ((m.head sent).read self rest).buffer = rest ∧
      ((m.head sent).read self rest).msgHeaderReadState = self.msgHeaderReadState ∧
      ((m.head sent).read self rest).maxChunkSize = self.maxChunkSize ∧
      ((m.head sent).read self rest).chunkMessageHeaders = self.chunkMessageHeaders := by
  have hPayload := begun_payload (self.setReader ⟨rest⟩) (m.format sent) m.csid
  rw [show (self.setReader ⟨rest⟩).payload = [] from h] at hPayload
  have hField := begun_msgHeaderReadState (self.setReader ⟨rest⟩) (m.format sent) m.csid
  have hSize := begun_maxChunkSize (self.setReader ⟨rest⟩) (m.format sent) m.csid
  have hKept := begun_chunkMessageHeaders (self.setReader ⟨rest⟩) (m.format sent) m.csid
  have hBuffer := begun_buffer (self.setReader ⟨rest⟩) (m.format sent) m.csid
  refine ⟨?_, hPayload, rfl, hBuffer, hField, hSize, hKept⟩
  change (((m.head sent).carried self).extended (m.left sent).extendedValue).advanced
    (m.format sent) (ChunkUnpacketizer.payload ((self.setReader ⟨rest⟩).begun (m.format sent)
      m.csid)) = m.left sent
  rw [hPayload]
  exact hLeft

theorem HasRead.read_head (h : HasRead size sent self) (hLoses : ¬m.Loses sent)
    (rest : List UInt8) :
    ((m.head sent).read self rest).header = m.left sent ∧
      ((m.head sent).read self rest).payload = [] ∧
      ((m.head sent).read self rest).currentChunkInfo.basicHeader.chunkStreamId = m.csid ∧
      ((m.head sent).read self rest).buffer = rest ∧
      ((m.head sent).read self rest).msgHeaderReadState = .readTimeStamp ∧
      ((m.head sent).read self rest).maxChunkSize = size ∧
      ((m.head sent).read self rest).chunkMessageHeaders = self.chunkMessageHeaders := by
  obtain ⟨hHeader, hPayload, hCsid, hBuffer, hField, hSize, hKept⟩ :=
    Message.read_head (h.carried hLoses).2 h.payload rest
  exact ⟨hHeader, hPayload, hCsid, hBuffer, hField.trans h.field, hSize.trans h.size, hKept⟩

theorem Message.csid_toUInt8 (m : Message) : m.csid.toUInt8.toNat = m.csid.toNat := by
  have hHigh := UInt32.le_iff_toNat_le.mp m.high
  rw [UInt32.toNat_toUInt8]
  exact Nat.mod_eq_of_lt (Nat.lt_of_le_of_lt hHigh (by decide))

/-- The basic header of a message is one byte. -/
theorem Message.basicHeaderBytes_one (m : Message) (format : UInt8) :
    basicHeaderBytes format m.csid = [format <<< 6 ||| m.csid.toUInt8] := by
  have hHigh := UInt32.le_iff_toNat_le.mp m.high
  have h64 : ¬m.csid ≥ 64 := fun h =>
    absurd (hHigh.trans' (UInt32.le_iff_toNat_le.mp h)) (by decide)
  have h319 : ¬m.csid ≥ 64 + 255 := fun h =>
    absurd (hHigh.trans' (UInt32.le_iff_toNat_le.mp h)) (by decide)
  rw [basicHeaderBytes, if_neg h319, if_neg h64]

/-- The basic header that the writer writes is one that the reader reads. -/
theorem isBasicHeader_written {format : UInt8} (hFormat : format < 4) (m : Message) :
    IsBasicHeader format m.csid (basicHeaderBytes format m.csid) := by
  have hLow := UInt32.le_iff_toNat_le.mp m.low
  have hHigh := UInt32.le_iff_toNat_le.mp m.high
  have hCsid : m.csid.toUInt8.toUInt32 = m.csid := by
    rw [← UInt32.toNat_inj, UInt8.toNat_toUInt32, m.csid_toUInt8]
  have hOne := isBasicHeader_one hFormat
    (UInt8.le_iff_toNat_le.mpr (by rw [m.csid_toUInt8]; exact hLow))
    (UInt8.lt_iff_toNat_lt.mpr (by
      rw [m.csid_toUInt8]
      exact Nat.lt_of_le_of_lt hHigh (by decide)))
  rw [hCsid] at hOne
  rw [m.basicHeaderBytes_one]
  exact hOne

/-- The reader never gives up at a message. -/
theorem HasRead.not_givesUp (h : HasRead size sent self) :
    ¬self.GivesUp (m.format sent) m.csid := by
  rintro ⟨-, hNone, hFormat, -⟩
  have hKept := h.kept m.csid
  rw [hNone] at hKept
  cases m.sending sent with
  | full hZero => exact hFormat hZero
  | change e hLast =>
    rw [hLast] at hKept
    cases hKept
  | repeated e hLast =>
    rw [hLast] at hKept
    cases hKept

/-- The head of a message is read. -/
theorem HasRead.turns_head (h : HasRead size sent self) (hLoses : ¬m.Loses sent)
    {t : List UInt8}
    (hBuffer : self.buffer = basicHeaderBytes (m.format sent) m.csid ++
      (messageHeaderBytes (m.format sent) (m.firstSent sent) m.header ++
        (extendedBytes (m.extendedSent sent) ++ t))) :
    Turns (.empty, self) (.success, (m.head sent).read self t) := by
  obtain ⟨hType, -⟩ := h.carried hLoses
  refine Chunk.turns_head .empty h.state h.field (format_cases (m.format_lt sent))
    (timestampFields_lt _ _) ?_ (isBasicHeader_written (m.format_lt sent) m) h.not_givesUp ?_
  · change m.msgLength.toNat < 2 ^ 24
    rw [m.msgLength_toNat]
    exact m.short
  · have hExtended : extendedTimestampBytes ((m.head sent).carried self)
        (m.left sent).extendedValue = extendedBytes (m.extendedSent sent) := by
      rw [Message.extendedBytes_sent hLoses, extendedTimestampBytes, hType]
      rfl
    rw [hBuffer, ← hExtended, ChunkHead.bytes]
    simp only [List.append_assoc]
    rfl

/-- A message that is written is read, and the reader stays in step. -/
theorem HasRead.readChunk (h : HasRead size sent self) (hSize : 0 < size)
    (hLoses : ¬m.Loses sent) {rest : List UInt8} (hBuffer : self.buffer = m.bytes size sent ++ rest) :
    ∃ format self', readChunk self = .ok (.chunkInfo ⟨⟨format, m.csid⟩, m.left sent, m.payload⟩) self' ∧
      HasRead size (m :: sent) self' ∧ self'.buffer = rest := by
  obtain ⟨hLeft, hPayload, hCsid, hRest, hField, hMax, hKept⟩ := h.read_head hLoses
    (chunkedPayload size (basicHeaderBytes 3 m.csid ++ extendedBytes (m.extendedSent sent))
      m.payload ++ rest)
  have hHead := h.turns_head hLoses (t := chunkedPayload size (basicHeaderBytes 3 m.csid ++
    extendedBytes (m.extendedSent sent)) m.payload ++ rest) (by
      rw [hBuffer, Message.bytes]
      simp only [List.append_assoc])
  have hState : ((m.head sent).read self (chunkedPayload size (basicHeaderBytes 3 m.csid ++
    extendedBytes (m.extendedSent sent)) m.payload ++ rest)).chunkReadState =
      .readMessagePayload := rfl
  generalize (m.head sent).read self _ = s at *
  obtain ⟨format, hRun⟩ := readChunk_payload .success hState hField (by rw [hMax]; exact hSize)
    (by rw [hCsid]; exact isBasicHeader_written (by decide) m)
    (by
      rw [hPayload, hLeft]
      change 0 + m.payload.length = m.msgLength.toNat
      rw [m.msgLength_toNat, Nat.zero_add])
    (by rw [hRest, hMax, hLeft, Message.extendedBytes_sent hLoses])
  rw [hCsid, hLeft, hPayload] at hRun
  refine ⟨format, ((s.setBasicHeader ⟨format, m.csid⟩).received m.payload rest).finishMessage
    |>.setChunkReadState .readBasicHeader, (Loop.run_passes _ hHead).trans hRun,
    ⟨rfl, hField, rfl, hMax, fun csid => ?_, .inr ?_⟩, rfl⟩
  · change (s.chunkMessageHeaders.insert m.csid s.header).lookup csid = _
    rw [lastOn_cons, hKept, hLeft]
    by_cases hSame : m.csid = csid
    · rw [if_pos hSame, ← hSame, AList.lookup_insert]
      rfl
    · rw [if_neg hSame, AList.lookup_insert_ne (Ne.symm hSame), h.kept]
  · exact AList.lookup_insert s.chunkMessageHeaders

end Heads

/-! ### A message that repeats a header with an extended timestamp -/

/-- The bytes that are left do not make up for those of an extended timestamp that was not sent:
`k` chunks of the message at hand have been read. -/
def Limited (bound size k : Nat) (self : ChunkUnpacketizer) : Prop :=
  self.payload.length ≤ size * k ∧
    self.buffer.length + self.payload.length + k +
      (if self.chunkReadState = .readBasicHeader then 0 else 1) ≤ bound

/-- What is read of a payload in chunks of `size` bytes with a header of one byte between them. -/
def Paid (bound size : Nat) (payload : List UInt8) : Prop :=
  ∃ k, payload.length ≤ size * k ∧ payload.length + k ≤ bound

/-- A reader that is within the bound, or has just completed a message within it. -/
structure Within (bound size : Nat) (state : UnpackResult × ChunkUnpacketizer) : Prop where
  chunkSize : state.2.maxChunkSize = size
  reading : state.2.chunkReadState ≠ .finish → ∃ k, Limited bound size k state.2
  finished : state.2.chunkReadState = .finish →
    ∃ chunkInfo, state.1 = .chunkInfo chunkInfo ∧ Paid bound size chunkInfo.payload

section Within

variable {bound size : Nat} {result result' : UnpackResult} {self self' : ChunkUnpacketizer}

/-- A read of a header keeps within the bound. -/
theorem Within.of_headerRead (h : Within bound size (result, self))
    (hState : self.chunkReadState ≠ .finish) (hBasic : self.chunkReadState ≠ .readBasicHeader)
    (hFrame : HeaderRead self (self'.setChunkReadState self.chunkReadState))
    (hNext : self'.chunkReadState ≠ .finish) (hNextBasic : self'.chunkReadState ≠ .readBasicHeader) :
    Within bound size (result', self') := by
  obtain ⟨k, hPayload, hBound⟩ := h.reading hState
  have hLen : self'.buffer.length ≤ self.buffer.length := hFrame.taken.length_le
  have hSame : self'.payload = self.payload := hFrame.payload
  refine ⟨hFrame.maxChunkSize.trans h.chunkSize, fun _ => ⟨k, ?_, ?_⟩, fun hEnd => absurd hEnd hNext⟩
  · rw [hSame]
    exact hPayload
  · rw [if_neg hBasic] at hBound
    rw [hSame, if_neg hNextBasic]
    dsimp only at hBound ⊢
    omega

theorem readBasicHeader_within (h : Within bound size (result, self))
    (hState : self.chunkReadState = .readBasicHeader)
    (hRead : readBasicHeader self = .ok result' self') : Within bound size (result', self') := by
  obtain ⟨k, hPayload, hBound⟩ := h.reading (by rw [hState]; exact nofun)
  cases hBuffer : self.buffer with
  | nil =>
    rw [readBasicHeader_nil hBuffer] at hRead
    cases hRead
  | cons byte rest =>
    rw [if_pos hState, hBuffer, List.length_cons] at hBound
    by_cases hTail : basicHeaderTail byte ≤ rest.length
    · by_cases hGivesUp : self.GivesUp (basicHeaderFormat byte) (basicHeaderCsid byte rest)
      · rw [readBasicHeader_givesUp hBuffer hTail hGivesUp] at hRead
        cases hRead
      · rw [readBasicHeader_whole hBuffer hTail hGivesUp] at hRead
        obtain ⟨-, rfl⟩ := EStateM.Result.ok.inj hRead
        obtain ⟨header, number, hBegun⟩ := begun_eq
          (self.setReader ⟨rest.drop (basicHeaderTail byte)⟩) (basicHeaderFormat byte)
          (basicHeaderCsid byte rest)
        rw [hBegun]
        have hDrop := List.length_drop (i := basicHeaderTail byte) (l := rest)
        refine ⟨h.chunkSize, fun _ => ⟨k, hPayload, ?_⟩, nofun⟩
        change (rest.drop (basicHeaderTail byte)).length + self.payload.length + k + 1 ≤ bound
        dsimp only at hBound
        omega
    · rcases readBasicHeader_cut hBuffer (Nat.lt_of_not_le hTail) with ⟨hCut, -⟩ | hCut <;>
        rw [hCut] at hRead <;> cases hRead
      refine ⟨h.chunkSize, fun _ => ⟨k, hPayload, ?_⟩, fun hEnd => nomatch hState.symm.trans hEnd⟩
      change rest.length + self.payload.length + k + (if self.chunkReadState = _ then 0 else 1) ≤ bound
      rw [if_pos hState]
      dsimp only at hBound
      omega

theorem needReadLength_le_maxChunkSize (self : ChunkUnpacketizer) :
    self.needReadLength ≤ self.maxChunkSize := by
  unfold needReadLength
  dsimp only
  split
  · exact Nat.min_le_right _ _
  · omega

theorem readMessagePayload_within (h : Within bound size (result, self))
    (hState : self.chunkReadState = .readMessagePayload)
    (hRead : readMessagePayload self = .ok result' self') : Within bound size (result', self') := by
  obtain ⟨k, hPayload, hBound⟩ := h.reading (by rw [hState]; exact nofun)
  rw [if_neg (by rw [hState]; exact nofun)] at hBound
  have hNeed := needReadLength_le_maxChunkSize self
  rw [show self.maxChunkSize = size from h.chunkSize] at hNeed
  dsimp only at hPayload hBound
  rw [readMessagePayload_eq] at hRead
  split at hRead
  · cases hRead
  · split at hRead
    · cases hRead
    · rename_i hLong
      have hTake : (self.buffer.take self.needReadLength).length = self.needReadLength := by
        rw [List.length_take]
        omega
      have hReceived : (self.payload ++ self.buffer.take self.needReadLength).length ≤
          size * (k + 1) := by
        rw [List.length_append, hTake, Nat.mul_succ]
        omega
      have hLeft : (self.buffer.drop self.needReadLength).length +
          (self.payload ++ self.buffer.take self.needReadLength).length + (k + 1) ≤ bound := by
        rw [List.length_append, hTake, List.length_drop]
        omega
      split at hRead <;> cases hRead
      · exact ⟨h.chunkSize, fun hOpen => absurd rfl hOpen, fun _ => ⟨_, rfl, k + 1, hReceived,
          (Nat.add_le_add_right (Nat.le_add_left _ _) _).trans hLeft⟩⟩
      · exact ⟨h.chunkSize, fun _ => ⟨k + 1, hReceived, hLeft⟩, nofun⟩

/-- A turn keeps within the bound, and the turn that ends a call gives a message within it. -/
theorem readChunkTurn_within {turn : Turn UnpackResult UnpackResult}
    (h : Within bound size (result, self)) (hTurn : readChunkTurn result self = .ok turn self') :
    match turn with
    | .again result' => Within bound size (result', self')
    | .done result' => ∃ chunkInfo, result' = .chunkInfo chunkInfo ∧
        Paid bound size chunkInfo.payload := by
  unfold readChunkTurn at hTurn
  rw [bind_get] at hTurn
  cases hState : self.chunkReadState <;> simp only [hState] at hTurn
  case readBasicHeader =>
    obtain ⟨a, s, hRead, hEnd⟩ := bind_eq_ok hTurn
    cases hEnd
    exact readBasicHeader_within h hState hRead
  case readMessageHeader =>
    obtain ⟨a, s, hRead, hEnd⟩ := bind_eq_ok hTurn
    cases hEnd
    obtain ⟨hFrame, hNext, -⟩ := readMessageHeader_ok hRead
    exact h.of_headerRead (by rw [hState]; exact nofun) (by rw [hState]; exact nofun) hFrame
      (by rw [hNext]; exact nofun) (by rw [hNext]; exact nofun)
  case readExtendedTimestamp =>
    obtain ⟨a, s, hRead, hEnd⟩ := bind_eq_ok hTurn
    cases hEnd
    obtain ⟨hFrame, hNext, -⟩ := readExtendedTimestamp_ok hRead
    exact h.of_headerRead (by rw [hState]; exact nofun) (by rw [hState]; exact nofun) hFrame
      (by rw [hNext]; exact nofun) (by rw [hNext]; exact nofun)
  case readMessagePayload =>
    obtain ⟨a, s, hRead, hEnd⟩ := bind_eq_ok hTurn
    cases hEnd
    exact readMessagePayload_within h hState hRead
  case finish =>
    cases hTurn
    exact h.finished hState

/-- What a call of `read_chunk` that keeps within the bound gives. -/
theorem run_within (h : Within bound size (result, self))
    (hRun : (loopOf readChunkTurn unread readChunkTurn_again).run (result, self) =
      .ok result' self') :
    ∃ chunkInfo, result' = .chunkInfo chunkInfo ∧ Paid bound size chunkInfo.payload :=
  loopM_ok_rule (I := fun result self => Within bound size (result, self))
    (Q := fun (result : UnpackResult) _ => ∃ chunkInfo, result = .chunkInfo chunkInfo ∧
      Paid bound size chunkInfo.payload)
    (fun _ _ turn _ hWithin hTurn => by
      cases turn <;> exact readChunkTurn_within hWithin hTurn) h hRun

end Within

theorem length_chunkedPayload {size : Nat} (hSize : 0 < size) (byte : UInt8)
    (payload : List UInt8) :
    (chunkedPayload size [byte] payload).length = payload.length + (payload.length - 1) / size := by
  induction hLen : payload.length using Nat.strongRecOn generalizing payload with
  | ind n ih =>
    subst hLen
    by_cases hFits : payload.length ≤ size
    · rw [chunkedPayload_last _ hFits, Nat.div_eq_of_lt (by omega), Nat.add_zero]
    · have hRest := ih (payload.drop size).length (by rw [List.length_drop]; omega) _ rfl
      have hDiv : (payload.length - 1) / size = (payload.length - 1 - size) / size + 1 :=
        Nat.div_eq_sub_div hSize (by omega)
      have hSwap : payload.length - size - 1 = payload.length - 1 - size := by omega
      rw [chunkedPayload_part _ hSize (by omega), List.length_append, List.length_append, hRest,
        List.length_take, List.length_drop, hDiv, hSwap, List.length_singleton]
      omega

section Loses

variable {size : Nat} {sent : List Message} {self : ChunkUnpacketizer} {m : Message}

theorem Message.format_of_repeats {e : Message × List Message}
    (hLast : lastOn m.csid sent = some e) (hRepeats : m.Repeats sent e) : m.format sent = 3 := by
  obtain ⟨hFollows, hShape, hDelta⟩ := hRepeats
  simp only [format, hLast, if_pos hFollows, if_pos hShape, if_pos hDelta]

/-- The bytes of a message that repeats a header. -/
theorem Message.bytes_of_repeats {e : Message × List Message}
    (hLast : lastOn m.csid sent = some e) (hRepeats : m.Repeats sent e) :
    m.bytes size sent = basicHeaderBytes 3 m.csid ++
      chunkedPayload size [(3 : UInt8) <<< 6 ||| m.csid.toUInt8] m.payload := by
  have hNone : m.extendedSent sent = none := by
    unfold extendedSent timestampFields
    rw [format_of_repeats hLast hRepeats]
    rfl
  rw [bytes, format_of_repeats hLast hRepeats, hNone, m.basicHeaderBytes_one]
  rfl

/-- A chunk of format 3 is read up to the extended timestamp of the header that it repeats. -/
theorem HasRead.turns_repeated (h : HasRead size sent self) {e : Message × List Message}
    (hLast : lastOn m.csid sent = some e) (hRepeats : m.Repeats sent e) {rest : List UInt8}
    (hBuffer : self.buffer = basicHeaderBytes 3 m.csid ++ rest) :
    ∃ s, Turns (.empty, self) (.success, s) ∧ s.chunkReadState = .readExtendedTimestamp ∧
      s.header = e.1.left e.2 ∧ s.payload = [] ∧ s.buffer = rest ∧ s.maxChunkSize = size := by
  have hNotGivesUp := h.not_givesUp (m := m)
  rw [Message.format_of_repeats hLast hRepeats] at hNotGivesUp
  have h1 := readBasicHeader_bytes (isBasicHeader_written (by decide) m) hBuffer hNotGivesUp
  have hHeader := h.begun_header hLast (k := 3) (by decide)
  obtain ⟨header, number, hBegun⟩ := begun_eq self 3 m.csid
  rw [begun_setReader, hBegun] at h1
  rw [hBegun] at hHeader
  obtain rfl : header = e.1.left e.2 := hHeader
  have h2 := readMessageHeader_bytes (v := 0) (m := .new 0 0 0 0) (.inr (.inr (.inr rfl)))
    (r := { self with
      currentChunkInfo := ⟨⟨3, m.csid⟩, e.1.left e.2, self.payload⟩
      chunkReadState := .readMessageHeader
      parseErrorNumber := number
      reader := ⟨rest⟩ }) rfl h.field (Nat.two_pow_pos 24) (Nat.two_pow_pos 24) rfl
  exact ⟨_, (Turns.single (readChunkTurn_basicHeader h.state h1)).trans
    (Turns.single (readChunkTurn_messageHeader rfl h2)), rfl, rfl, h.payload, rfl, h.size⟩

theorem Message.left_extended {e : Message × List Message} (h : e.1.Extended e.2) :
    (e.1.left e.2).extendedTimestampType ≠ .none := by
  unfold left
  rw [if_pos h]
  by_cases hFull : e.1.Full e.2
  · rw [if_pos hFull]
    exact nofun
  · rw [if_neg hFull]
    exact nofun

/-- A message that repeats a header with an extended timestamp is not read. -/
theorem HasRead.readChunk_loses (h : HasRead size sent self) (hSize : 0 < size)
    (hLoses : m.Loses sent) (hBuffer : self.buffer = m.bytes size sent) {result : UnpackResult}
    {self' : ChunkUnpacketizer} (hRead : Chunk.readChunk self = .ok result self') :
    ∃ chunkInfo, result = .chunkInfo chunkInfo ∧ chunkInfo.payload.length ≠ m.payload.length := by
  obtain ⟨e, hLast, hRepeats, hExtended⟩ := hLoses
  rw [Message.bytes_of_repeats hLast hRepeats] at hBuffer
  have hLength := length_chunkedPayload hSize ((3 : UInt8) <<< 6 ||| m.csid.toUInt8) m.payload
  generalize chunkedPayload size [(3 : UInt8) <<< 6 ||| m.csid.toUInt8] m.payload = rest
    at hBuffer hLength
  obtain ⟨s, hTurns, hState, hHeader, hPayload, hRest, hMax⟩ :=
    h.turns_repeated hLast hRepeats hBuffer
  have hInForce : s.header.extendedTimestampType ≠ .none := by
    rw [hHeader]
    exact Message.left_extended hExtended
  have hRun : (loopOf readChunkTurn unread readChunkTurn_again).run (.success, s) =
      .ok result self' := (Loop.run_passes _ hTurns).symm.trans hRead
  have hEq := readExtendedTimestamp_eq s
  by_cases hShort : s.buffer.length < 4
  · rw [if_pos ⟨hInForce, hShort⟩] at hEq
    have hTurn := readChunkTurn_extendedTimestamp_error (a := .success) hState hEq
    have hError : (loopOf readChunkTurn unread readChunkTurn_again).run (.success, s) =
        .error .notEnoughBytes s := loopM_error hTurn
    rw [hError] at hRun
    cases hRun
  · rw [if_neg fun hBoth => hShort hBoth.2] at hEq
    have hTurn := readChunkTurn_extendedTimestamp (a := .success) hState hEq
    obtain ⟨hFrame, hNext, -⟩ := readExtendedTimestamp_ok hEq
    rw [hRest] at hShort
    have hWithin : Within (rest.length - 3) size (.success,
        s.takeExtended.computeTimestamp.setChunkReadState .readMessagePayload) := by
      have hTaken : s.takeExtended.buffer = rest.drop 4 := by
        unfold takeExtended
        rw [if_neg hInForce, ← hRest]
        rfl
      have hKept : s.takeExtended.payload = [] := (takeExtended_headerRead s).payload.trans hPayload
      refine ⟨hFrame.maxChunkSize.trans hMax, fun _ => ⟨0, ?_, ?_⟩, nofun⟩
      · change s.takeExtended.payload.length ≤ _
        rw [hKept]
        exact Nat.zero_le _
      · change s.takeExtended.buffer.length + s.takeExtended.payload.length + 0 + 1 ≤ _
        rw [hTaken, hKept, List.length_drop, List.length_nil]
        omega
    rw [Loop.run_passes _ (Turns.single hTurn)] at hRun
    obtain ⟨chunkInfo, rfl, k, hSizes, hPaid⟩ := run_within hWithin hRun
    refine ⟨chunkInfo, rfl, fun hSame => ?_⟩
    rw [hSame] at hSizes hPaid
    rw [hLength] at hPaid hShort
    have hParts : (m.payload.length - 1) / size ≤ k := by
      rcases Nat.eq_zero_or_pos m.payload.length with hZero | hPos
      · rw [hZero, Nat.zero_sub, Nat.zero_div]
        exact Nat.zero_le k
      · exact (Nat.div_lt_of_lt_mul (by omega)).le
    omega

end Loses

/-! ### Sequences of messages -/

/-- What a fresh reader reads of the messages that a fresh writer writes. -/
def transmit (msgs : List Message) : Option (List MessageContent) :=
  match ChunkPacketizer.new.writeChunks (msgs.map (·.chunkInfo)) with
  | .ok packetizer =>
    let reader := ChunkUnpacketizer.new.updateMaxChunkSize packetizer.maxChunkSize
    some ((readMessages (reader.extendData packetizer.writer.io)).map (·.content))
  | .error _ => none

/-- What is read is what was written. -/
def RoundTrips (msgs : List Message) : Prop := transmit msgs = some (msgs.map (·.toMessageContent))

section Run

variable {size : Nat} {sent : List Message} {self : ChunkUnpacketizer}

/-- Messages that lose nothing are read one after the other. -/
theorem HasRead.readMessages (h : HasRead size sent self) (hSize : 0 < size) {msgs : List Message}
    (hLossFree : LossFree sent msgs) {rest : List UInt8}
    (hBuffer : self.buffer = messagesBytes size sent msgs ++ rest) :
    ∃ chunks self', Chunk.readMessages self = chunks ++ Chunk.readMessages self' ∧
      chunks.map (·.content) = msgs.map (·.toMessageContent) ∧
      HasRead size (msgs.reverse ++ sent) self' ∧ self'.buffer = rest := by
  induction msgs generalizing sent self with
  | nil => exact ⟨[], self, rfl, rfl, h, hBuffer⟩
  | cons m msgs ih =>
    rw [messagesBytes, List.append_assoc] at hBuffer
    obtain ⟨format, next, hFirst, hNext, hLeft⟩ := h.readChunk hSize hLossFree.1 hBuffer
    obtain ⟨chunks, last, hReads, hContents, hLast, hRest⟩ := ih hNext hLossFree.2 hLeft
    refine ⟨⟨⟨format, m.csid⟩, m.left sent, m.payload⟩ :: chunks, last, ?_, ?_, ?_, hRest⟩
    · rw [readMessages_cons hFirst, hReads, List.cons_append]
    · rw [List.map_cons, List.map_cons, hContents]
      rfl
    · rw [List.reverse_cons, List.append_assoc]
      exact hLast

/-- What is read of a message that repeats a header with an extended timestamp is something else. -/
theorem HasRead.readMessages_loses (h : HasRead size sent self) (hSize : 0 < size) {m : Message}
    (hLoses : m.Loses sent) (hBuffer : self.buffer = m.bytes size sent) :
    (Chunk.readMessages self).map (·.content) ≠ [m.toMessageContent] := by
  cases hRead : Chunk.readChunk self with
  | ok result self' =>
    obtain ⟨chunkInfo, rfl, hLength⟩ := h.readChunk_loses hSize hLoses hBuffer hRead
    rw [readMessages_cons hRead, List.map_cons]
    intro hSame
    obtain ⟨hContent, -⟩ := List.cons.inj hSame
    exact hLength (congrArg (·.payload.length) hContent)
  | error e self' =>
    rw [readMessages_error hRead]
    exact nofun

end Run

theorem transmit_eq (msgs : List Message) :
    transmit msgs = some ((readMessages ((new.updateMaxChunkSize CHUNK_SIZE.toNat).extendData
      (messagesBytes CHUNK_SIZE.toNat [] msgs))).map (·.content)) := by
  obtain ⟨packetizer, hWrites, hSize, hIo⟩ := writeChunks_messages hasWritten_new msgs
  unfold transmit
  rw [hWrites]
  dsimp only
  rw [hSize, hIo]
  rfl

theorem hasRead_extend {size : Nat} {sent : List Message} {self : ChunkUnpacketizer}
    (h : HasRead size sent self) (data : List UInt8) : HasRead size sent (self.extendData data) :=
  ⟨h.state, h.field, h.payload, h.size, h.kept, h.current⟩

theorem lossFree_append (sent msgs msgs' : List Message) :
    LossFree sent (msgs ++ msgs') ↔
      LossFree sent msgs ∧ LossFree (msgs.reverse ++ sent) msgs' := by
  induction msgs generalizing sent with
  | nil => exact (iff_of_eq (true_and _)).symm
  | cons m msgs ih =>
    rw [List.cons_append, LossFree, LossFree, ih, and_assoc, List.reverse_cons, List.append_assoc]
    rfl

theorem messagesBytes_append (size : Nat) (sent msgs msgs' : List Message) :
    messagesBytes size sent (msgs ++ msgs') =
      messagesBytes size sent msgs ++ messagesBytes size (msgs.reverse ++ sent) msgs' := by
  induction msgs generalizing sent with
  | nil => rfl
  | cons m msgs ih =>
    rw [List.cons_append, messagesBytes, messagesBytes, ih, List.append_assoc, List.reverse_cons,
      List.append_assoc]
    rfl

/-- Messages of which none repeats a header with an extended timestamp are read as they were
written. -/
theorem roundTrips_of_lossFree {msgs : List Message} (h : LossFree [] msgs) : RoundTrips msgs := by
  obtain ⟨chunks, last, hReads, hContents, hLast, hRest⟩ :=
    (hasRead_extend (hasRead_new CHUNK_SIZE.toNat) (messagesBytes CHUNK_SIZE.toNat [] msgs)).readMessages
      (by decide) h (List.append_nil _).symm
  have hEnd := readMessages_error (readChunk_nil hLast.state hRest)
  unfold RoundTrips
  rw [transmit_eq, hReads, hEnd, List.append_nil, hContents]

/-- A message that repeats a header with an extended timestamp is not read as it was written. -/
theorem not_roundTrips_of_loses {msgs : List Message} {m : Message} (h : LossFree [] msgs)
    (hLoses : m.Loses msgs.reverse) : ¬RoundTrips (msgs ++ [m]) := by
  have hBytes := messagesBytes_append CHUNK_SIZE.toNat [] msgs [m]
  rw [List.append_nil] at hBytes
  obtain ⟨chunks, last, hReads, hContents, hLast, hRest⟩ :=
    (hasRead_extend (hasRead_new CHUNK_SIZE.toNat)
      (messagesBytes CHUNK_SIZE.toNat [] (msgs ++ [m]))).readMessages (by decide) h hBytes
  rw [List.append_nil] at hLast
  rw [messagesBytes, messagesBytes, List.append_nil] at hRest
  unfold RoundTrips
  rw [transmit_eq, hReads, List.map_append, hContents, List.map_append]
  intro hSame
  exact hLast.readMessages_loses (by decide) hLoses hRest
    (List.append_cancel_left (Option.some.inj hSame))

/-- Every beginning of a sequence of messages is read as it was written exactly when no message
repeats a header with an extended timestamp. -/
theorem roundTrips_take_iff (msgs : List Message) :
    (∀ n, RoundTrips (msgs.take n)) ↔ LossFree [] msgs := by
  constructor
  · intro hTrips
    have key : ∀ n, LossFree [] (msgs.take n) := by
      intro n
      induction n with
      | zero => trivial
      | succ n ih =>
        rcases Nat.lt_or_ge n msgs.length with hLt | hLe
        · have hTake : msgs.take (n + 1) = msgs.take n ++ [msgs[n]] := List.take_succ_eq_append_getElem hLt
          have hTrip := hTrips (n + 1)
          rw [hTake] at hTrip
          rw [hTake, lossFree_append, List.append_nil]
          exact ⟨ih, fun hLoses => not_roundTrips_of_loses ih hLoses hTrip, trivial⟩
        · rw [List.take_of_length_le hLe] at ih
          rwa [List.take_of_length_le (Nat.le_succ_of_le hLe)]
    have hAll := key msgs.length
    rwa [List.take_length] at hAll
  · intro hLossFree n
    have hSplit := lossFree_append [] (msgs.take n) (msgs.drop n)
    rw [List.take_append_drop] at hSplit
    exact roundTrips_of_lossFree (hSplit.mp hLossFree).1

/-- Two messages of one byte at time `0xFFFFFF` on chunk stream 4. -/
def repeatedTimestamp : List Message :=
  [⟨⟨⟨4, 0xFFFFFF, 8, 1, [1]⟩, by decide⟩, 0, by decide, by decide⟩,
    ⟨⟨⟨4, 0xFFFFFF, 8, 1, [2]⟩, by decide⟩, 0, by decide, by decide⟩]

theorem repeatedTimestamp_lost :
    transmit repeatedTimestamp = some [⟨4, 0xFFFFFF, 8, 1, [1]⟩] ∧ ¬RoundTrips repeatedTimestamp := by
  have hTransmit : transmit repeatedTimestamp = some [⟨4, 0xFFFFFF, 8, 1, [1]⟩] := by
    decide +kernel
  refine ⟨hTransmit, fun hTrips => ?_⟩
  exact absurd (hTransmit.symm.trans hTrips) (by decide)

end Xiu.Rtmp.Chunk
