import Xiu.ProofKit.System
import Xiu.Rtmp.Chunk.Unpacketizer

/-! The received payload against the length of its message.  `read_message_payload` subtracts the
one from the other, but the length is not only set where a message starts: a header of format 0 or 1
in the middle of a message announces another one, and a change of the chunk stream restores the
length of that chunk stream's last message. -/

namespace Xiu.Rtmp.Chunk

open Bytesio ProofKit ChunkUnpacketizer

/-- What can happen to a chunk reader: bytes arrive, the chunk size changes, or one of the reads
that `read_chunks` is made of runs. -/
inductive ReaderAction where
  | extendData (data : List UInt8)
  | updateMaxChunkSize (chunkSize : Nat)
  | read

def reader : System ChunkUnpacketizer ReaderAction where
  init self := self = .new
  step self action self' :=
    match action with
    | .extendData data => self' = self.extendData data
    | .updateMaxChunkSize chunkSize => self' = self.updateMaxChunkSize chunkSize
    | .read => ∃ result, stateOf (readChunkTurn result self) = self'

/-- Whether the next read is the one that subtracts, and the subtraction underflows. -/
def ChunkUnpacketizer.Underflows (self : ChunkUnpacketizer) : Prop :=
  self.chunkReadState = .readMessagePayload ∧
    self.header.msgLength.toNat < self.payload.length

/-- The message length that a header of format 0 or 1 announces, as far as it has arrived. -/
def ChunkUnpacketizer.announcedLength (self : ChunkUnpacketizer) : Option Nat :=
  match self.msgHeaderReadState with
  | .readTimeStamp =>
    if self.buffer.length < 6 then none
    else some (BytesReader.decodeU32 .bigEndian ((self.buffer.drop 3).take 3)).toNat
  | .readMsgLength =>
    if self.buffer.length < 3 then none
    else some (BytesReader.decodeU32 .bigEndian (self.buffer.take 3)).toNat
  | _ => some self.header.msgLength.toNat

/-- The reader stands at a field of the message header only while it reads one, and at a message
stream id only in format 0. -/
structure HeaderPlace (r : ChunkUnpacketizer) : Prop where
  outside : r.chunkReadState ≠ .readMessageHeader → r.msgHeaderReadState = .readTimeStamp
  format1 : r.currentChunkInfo.basicHeader.format = 1 → r.msgHeaderReadState ≠ .readMsgStreamID
  format23 : r.currentChunkInfo.basicHeader.format ≠ 0 →
    r.currentChunkInfo.basicHeader.format ≠ 1 → r.msgHeaderReadState = .readTimeStamp

/-- Taking a field does not change the length that the header announces. -/
theorem takeField_announcedLength {self : ChunkUnpacketizer} {format : UInt8}
    (hLen : self.msgHeaderReadState.width ≤ self.buffer.length)
    (hNext : self.msgHeaderReadState.next format ≠ .readTimeStamp) :
    (self.takeField format).announcedLength = self.announcedLength := by
  unfold announcedLength takeField
  cases hState : self.msgHeaderReadState <;> rw [hState] at hLen hNext
  case readTimeStamp =>
    have hWhole : (self.buffer.drop 3).length < 3 ↔ self.buffer.length < 6 := by
      rw [List.length_drop]
      change 3 ≤ self.buffer.length at hLen
      omega
    exact if_congr hWhole rfl rfl
  case readMsgLength => exact (if_neg (Nat.not_lt.mpr hLen)).symm
  case readMsgTypeID =>
    change ite (format = 0) _ _ ≠ _ at hNext
    by_cases hFormat : format = 0
    · simp only [hFormat]
      rfl
    · exact absurd (if_neg hFormat) hNext
  case readMsgStreamID => exact absurd rfl hNext

/-- After the last field the message has the length that the header announced. -/
theorem takeField_last {self : ChunkUnpacketizer} {format : UInt8}
    (hNext : self.msgHeaderReadState.next format = .readTimeStamp) :
    self.announcedLength = some (self.takeField format).header.msgLength.toNat ∧
      (self.takeField format).msgHeaderReadState = .readTimeStamp := by
  refine ⟨?_, hNext⟩
  unfold announcedLength takeField
  cases hState : self.msgHeaderReadState <;> rw [hState] at hNext
  case readTimeStamp => cases hNext
  case readMsgLength => cases hNext
  all_goals rfl

/-- What the fields of a header do to the length that it announces: a header that is read has it,
and one that is cut short still announces it. -/
def LengthRead (format : UInt8) (before : ChunkUnpacketizer) :
    EStateM.Result UnpackFault ChunkUnpacketizer Unit → Prop
  | .ok _ after => before.announcedLength = some after.header.msgLength.toNat ∧
      after.msgHeaderReadState = .readTimeStamp
  | .error _ after => after.announcedLength = before.announcedLength ∧
      (format = 1 → after.msgHeaderReadState ≠ .readMsgStreamID)

theorem readFields0_lengthRead (self : ChunkUnpacketizer) :
    LengthRead 0 self (readFields0 self) := by
  refine readFields_rule (P := fun s => s.announcedLength = self.announcedLength)
    (fun a s _ => readFormat0_eq a s) (fun s hs hLen hNext => ?_) (fun s hs _ hNext => ?_)
    (fun s hs _ => ⟨hs, nofun⟩) rfl
  · exact (takeField_announcedLength hLen hNext).trans hs
  · obtain ⟨hLength, hState⟩ := takeField_last hNext
    exact ⟨hs.symm.trans hLength, hState⟩

theorem readFields1_lengthRead {self : ChunkUnpacketizer}
    (h : self.msgHeaderReadState ≠ .readMsgStreamID) : LengthRead 1 self (readFields1 self) := by
  refine readFields_rule
    (P := fun s => s.announcedLength = self.announcedLength ∧
      s.msgHeaderReadState ≠ .readMsgStreamID)
    (fun a s hs => readFormat1_eq a hs.2) (fun s hs hLen hNext => ?_) (fun s hs _ hNext => ?_)
    (fun s hs _ => ⟨hs.1, fun _ => hs.2⟩) ⟨rfl, h⟩
  · refine ⟨(takeField_announcedLength hLen hNext).trans hs.1, ?_⟩
    change s.msgHeaderReadState.next 1 ≠ .readMsgStreamID
    cases s.msgHeaderReadState <;> decide
  · obtain ⟨hLength, hState⟩ := takeField_last hNext
    exact ⟨hs.1.symm.trans hLength, hState⟩

/-- A change of the header that leaves the message length alone. -/
theorem LengthRead.modifyHeader {format : UInt8} {before : ChunkUnpacketizer}
    {fields : Unpack Unit} {g : ChunkMessageHeader → ChunkMessageHeader}
    (hg : ∀ header, (g header).msgLength = header.msgLength)
    (h : LengthRead format before (fields before)) :
    LengthRead format before ((fields >>= fun _ => modifyHeader g) before) := by
  cases hFields : fields before with
  | ok a s =>
    rw [hFields] at h
    rw [bind_of_ok hFields]
    refine ⟨h.1.trans (congrArg some ?_), h.2⟩
    exact congrArg UInt32.toNat (hg s.header).symm
  | error e s =>
    rw [hFields] at h
    rwa [bind_of_error hFields]

theorem markFormat0_msgLength (header : ChunkMessageHeader) :
    header.markFormat0.msgLength = header.msgLength := by
  unfold ChunkMessageHeader.markFormat0
  split <;> rfl

theorem markFormat12_msgLength (header : ChunkMessageHeader) :
    header.markFormat12.msgLength = header.msgLength := by
  unfold ChunkMessageHeader.markFormat12
  split <;> rfl

/-- Formats 0 and 1 carry a message length. -/
theorem readHeaderOf_lengthRead {format : UInt8} {self : ChunkUnpacketizer}
    (hFormat : format = 0 ∨ format = 1)
    (hState : format = 1 → self.msgHeaderReadState ≠ .readMsgStreamID) :
    LengthRead format self (readHeaderOf format self) := by
  unfold readHeaderOf
  rcases hFormat with rfl | rfl
  · exact LengthRead.modifyHeader markFormat0_msgLength (readFields0_lengthRead self)
  · exact LengthRead.modifyHeader markFormat12_msgLength (readFields1_lengthRead (hState rfl))

/-- Formats 2 and 3 leave the message length and the place within the header alone. -/
theorem readHeaderOf_keeps {format : UInt8} (self : ChunkUnpacketizer) (h0 : format ≠ 0)
    (h1 : format ≠ 1) :
    (stateOf (readHeaderOf format self)).header.msgLength = self.header.msgLength ∧
      (stateOf (readHeaderOf format self)).msgHeaderReadState = self.msgHeaderReadState := by
  unfold readHeaderOf
  rw [if_neg h0, if_neg h1]
  split
  · rw [bind_readCursor]
    split
    · exact ⟨rfl, rfl⟩
    · exact ⟨markFormat12_msgLength _, rfl⟩
  · exact ⟨rfl, rfl⟩

/-! ### The place within the header -/

theorem HeaderPlace.of_outside {self : ChunkUnpacketizer}
    (hState : self.msgHeaderReadState = .readTimeStamp) : HeaderPlace self :=
  ⟨fun _ => hState, fun _ => by rw [hState]; decide, fun _ _ => hState⟩

theorem readBasicHeader_headerPlace {self : ChunkUnpacketizer}
    (hState : self.chunkReadState = .readBasicHeader) (h : HeaderPlace self) :
    HeaderPlace (stateOf (readBasicHeader self)) := by
  have hField := h.outside (by rw [hState]; decide)
  cases hBuffer : self.buffer with
  | nil =>
    rw [readBasicHeader_nil hBuffer]
    exact h
  | cons byte rest =>
    by_cases hTail : basicHeaderTail byte ≤ rest.length
    · by_cases hGivesUp : self.GivesUp (basicHeaderFormat byte) (basicHeaderCsid byte rest)
      · rw [readBasicHeader_givesUp hBuffer hTail hGivesUp]
        exact .of_outside hField
      · rw [readBasicHeader_whole hBuffer hTail hGivesUp]
        exact .of_outside ((begun_msgHeaderReadState _ _ _).trans hField)
    · rcases readBasicHeader_cut hBuffer (Nat.lt_of_not_le hTail) with ⟨hCut, -⟩ | hCut <;>
        rw [hCut] <;> exact .of_outside hField

theorem prepared_msgLength (self : ChunkUnpacketizer) :
    self.prepared.header.msgLength = self.header.msgLength := by
  unfold prepared
  split <;> rfl

theorem prepared_msgHeaderReadState (self : ChunkUnpacketizer) :
    self.prepared.msgHeaderReadState = self.msgHeaderReadState := by
  unfold prepared
  split <;> rfl

/-- Formats 0 and 1 carry a message length. -/
theorem HeaderPlace.lengthRead {self : ChunkUnpacketizer} (h : HeaderPlace self)
    (hFormat : self.currentChunkInfo.basicHeader.format = 0 ∨
      self.currentChunkInfo.basicHeader.format = 1) :
    LengthRead self.currentChunkInfo.basicHeader.format self.prepared
      (readHeaderOf self.currentChunkInfo.basicHeader.format self.prepared) :=
  readHeaderOf_lengthRead hFormat fun h1 => by
    rw [prepared_msgHeaderReadState]
    exact h.format1 h1

theorem readMessageHeader_headerPlace {self : ChunkUnpacketizer}
    (hState : self.chunkReadState = .readMessageHeader) (h : HeaderPlace self) :
    HeaderPlace (stateOf (readMessageHeader self)) := by
  rw [readMessageHeader_eq]
  have hFrame := readHeaderOf_headerRead self.currentChunkInfo.basicHeader.format self.prepared
  have hPrepared := prepared_headerRead self
  by_cases hFormat : self.currentChunkInfo.basicHeader.format = 0 ∨
      self.currentChunkInfo.basicHeader.format = 1
  · have hRead := h.lengthRead hFormat
    cases hHeader : readHeaderOf self.currentChunkInfo.basicHeader.format self.prepared with
    | ok a s =>
      rw [hHeader] at hRead
      exact .of_outside hRead.2
    | error e s =>
      rw [hHeader] at hRead hFrame
      have hBasic : s.currentChunkInfo.basicHeader = self.currentChunkInfo.basicHeader :=
        hFrame.basicHeader.trans hPrepared.basicHeader
      have hStay : s.chunkReadState = .readMessageHeader :=
        (hFrame.chunkReadState.trans hPrepared.chunkReadState).trans hState
      exact ⟨fun hOutside => absurd hStay hOutside, fun h1 => hRead.2 (hBasic ▸ h1),
        fun h0 h1 => absurd (hBasic.symm ▸ hFormat) (not_or_intro h0 h1)⟩
  · have h0 : self.currentChunkInfo.basicHeader.format ≠ 0 := fun h0 => hFormat (.inl h0)
    have h1 : self.currentChunkInfo.basicHeader.format ≠ 1 := fun h1 => hFormat (.inr h1)
    obtain ⟨-, hField⟩ := readHeaderOf_keeps self.prepared h0 h1
    rw [prepared_msgHeaderReadState, h.format23 h0 h1] at hField
    cases hHeader : readHeaderOf self.currentChunkInfo.basicHeader.format self.prepared with
    | ok a s =>
      rw [hHeader] at hField
      exact .of_outside hField
    | error e s =>
      rw [hHeader] at hField
      exact .of_outside hField

/-- The reads after the message header leave the place within it alone. -/
theorem readExtendedTimestamp_field (self : ChunkUnpacketizer) :
    (stateOf (readExtendedTimestamp self)).msgHeaderReadState = self.msgHeaderReadState := by
  rw [readExtendedTimestamp_eq]
  split
  · rfl
  · change self.takeExtended.msgHeaderReadState = _
    unfold takeExtended
    split <;> rfl

theorem readMessagePayload_field (self : ChunkUnpacketizer) :
    (stateOf (readMessagePayload self)).msgHeaderReadState = self.msgHeaderReadState := by
  rw [readMessagePayload_eq]
  split
  · rfl
  · split
    · rfl
    · split <;> rfl

/-- The place within the header is kept by every read. -/
theorem readChunkTurn_headerPlace {self : ChunkUnpacketizer} (result : UnpackResult)
    (h : HeaderPlace self) : HeaderPlace (stateOf (readChunkTurn result self)) := by
  rw [stateOf_readChunkTurn]
  cases hState : self.chunkReadState with
  | readBasicHeader => exact readBasicHeader_headerPlace hState h
  | readMessageHeader => exact readMessageHeader_headerPlace hState h
  | readExtendedTimestamp =>
    exact .of_outside ((readExtendedTimestamp_field self).trans
      (h.outside (by rw [hState]; decide)))
  | readMessagePayload =>
    exact .of_outside ((readMessagePayload_field self).trans (h.outside (by rw [hState]; decide)))
  | finish => exact .of_outside (h.outside (by rw [hState]; decide))

/-! ### The invariant -/

theorem headerPlace_new : HeaderPlace .new := .of_outside rfl

/-- A change of chunk stream restores the header of that chunk stream or keeps the current one. -/
theorem begun_msgLength (self : ChunkUnpacketizer) (formatId : UInt8) (csid : UInt32) :
    (self.begun formatId csid).header.msgLength = self.header.msgLength ∨
      csid ≠ self.currentChunkInfo.basicHeader.chunkStreamId ∧
        ∃ header, self.chunkMessageHeaders.lookup csid = some header ∧
          (self.begun formatId csid).header.msgLength = header.msgLength := by
  have hReset : (self.begun formatId csid).header.msgLength =
      (self.switched formatId csid).header.msgLength := by
    unfold begun
    dsimp only
    split <;> rfl
  rw [hReset]
  unfold switched
  split
  · exact .inl rfl
  · rename_i hCsid
    split
    · exact .inr ⟨hCsid, _, ‹_›, rfl⟩
    · exact .inl rfl

theorem extended_msgLength (header : ChunkMessageHeader) (value : UInt32) :
    (header.extended value).msgLength = header.msgLength := by
  unfold ChunkMessageHeader.extended
  split <;> rfl

theorem takeExtended_keeps (self : ChunkUnpacketizer) :
    self.takeExtended.payload = self.payload ∧
      self.takeExtended.header.msgLength = self.header.msgLength := by
  unfold takeExtended
  split
  · exact ⟨rfl, rfl⟩
  · exact ⟨rfl, extended_msgLength _ _⟩

theorem advanced_msgLength (header : ChunkMessageHeader) (format : UInt8)
    (payload : List UInt8) : (header.advanced format payload).msgLength = header.msgLength := by
  unfold ChunkMessageHeader.advanced
  split <;> rfl

theorem needReadLength_le (self : ChunkUnpacketizer) :
    self.needReadLength ≤ self.header.msgLength.toNat - self.payload.length := by
  unfold needReadLength
  dsimp only
  split
  · exact Nat.min_le_left _ _
  · exact le_refl _

/-- One state follows another by reads alone. -/
def Reads (self self' : ChunkUnpacketizer) : Prop :=
  ∃ n, reader.Run self (List.replicate n .read) self'

theorem Reads.trans {a b c : ChunkUnpacketizer} (h : Reads a b) (h' : Reads b c) : Reads a c := by
  obtain ⟨n, hn⟩ := h
  obtain ⟨k, hk⟩ := h'
  refine ⟨n + k, ?_⟩
  rw [List.replicate_add]
  exact hn.append hk

theorem readChunk_reads (self : ChunkUnpacketizer) : Reads self (stateOf (readChunk self)) :=
  stateOf_loopM (R := Reads) Reads.trans (fun result _ => ⟨1, .cons ⟨result, rfl⟩ (.nil _)⟩)
    .empty self

/-- What a call of `read_chunks` does is a run of the reader. -/
theorem readChunks_reads (self : ChunkUnpacketizer) : Reads self (stateOf (readChunks self)) := by
  rw [stateOf_readChunks]
  refine stateOf_loopM (R := Reads) Reads.trans (fun chunks s => ?_) [] self
  rw [stateOf_readChunksTurn]
  exact readChunk_reads s

theorem readBasicHeader_ne_panic (self s : ChunkUnpacketizer) :
    readBasicHeader self ≠ .error .panic s := by
  cases hBuffer : self.buffer with
  | nil => rw [readBasicHeader_nil hBuffer]; exact nofun
  | cons byte rest =>
    by_cases hTail : basicHeaderTail byte ≤ rest.length
    · by_cases hGivesUp : self.GivesUp (basicHeaderFormat byte) (basicHeaderCsid byte rest)
      · rw [readBasicHeader_givesUp hBuffer hTail hGivesUp]
        exact nofun
      · rw [readBasicHeader_whole hBuffer hTail hGivesUp]
        exact nofun
    · rcases readBasicHeader_cut hBuffer (Nat.lt_of_not_le hTail) with ⟨hCut, -⟩ | hCut <;>
        rw [hCut] <;> exact nofun

/-- A turn that panics is the subtraction that underflows. -/
theorem readChunkTurn_panic {result : UnpackResult} {self s : ChunkUnpacketizer}
    (h : readChunkTurn result self = .error .panic s) : s = self ∧ self.Underflows := by
  unfold readChunkTurn at h
  rw [bind_get] at h
  cases hState : self.chunkReadState <;> simp only [hState] at h
  case readBasicHeader =>
    rcases bind_eq_error h with hRead | ⟨_, _, -, hEnd⟩
    · exact absurd hRead (readBasicHeader_ne_panic self s)
    · cases hEnd
  case readMessageHeader =>
    rcases bind_eq_error h with hRead | ⟨_, _, -, hEnd⟩
    · exact absurd hRead (readMessageHeader_ne_panic self s)
    · cases hEnd
  case readExtendedTimestamp =>
    rcases bind_eq_error h with hRead | ⟨_, _, -, hEnd⟩
    · rw [readExtendedTimestamp_eq] at hRead
      split at hRead <;> cases hRead
    · cases hEnd
  case readMessagePayload =>
    rcases bind_eq_error h with hRead | ⟨_, _, -, hEnd⟩
    · rw [readMessagePayload_eq] at hRead
      split at hRead
      · cases hRead
        exact ⟨rfl, hState, ‹_›⟩
      · split at hRead
        · cases hRead
        · split at hRead <;> cases hRead
    · cases hEnd
  case finish => cases h

/-- A turn that gives up has read a whole basic header. -/
theorem readChunkTurn_cannotParse {result : UnpackResult} {self s : ChunkUnpacketizer}
    (h : readChunkTurn result self = .error (.error .cannotParse) s) :
    self.chunkReadState = .readBasicHeader ∧ ∃ byte rest, self.buffer = byte :: rest ∧
      basicHeaderTail byte ≤ rest.length ∧
        self.GivesUp (basicHeaderFormat byte) (basicHeaderCsid byte rest) := by
  unfold readChunkTurn at h
  rw [bind_get] at h
  cases hState : self.chunkReadState <;> simp only [hState] at h
  case readBasicHeader =>
    refine ⟨rfl, ?_⟩
    rcases bind_eq_error h with hRead | ⟨_, _, -, hEnd⟩
    · cases hBuffer : self.buffer with
      | nil =>
        rw [readBasicHeader_nil hBuffer] at hRead
        cases hRead
      | cons byte rest =>
        by_cases hTail : basicHeaderTail byte ≤ rest.length
        · by_cases hGivesUp : self.GivesUp (basicHeaderFormat byte) (basicHeaderCsid byte rest)
          · exact ⟨byte, rest, rfl, hTail, hGivesUp⟩
          · rw [readBasicHeader_whole hBuffer hTail hGivesUp] at hRead
            cases hRead
        · rcases readBasicHeader_cut hBuffer (Nat.lt_of_not_le hTail) with ⟨hCut, -⟩ | hCut <;>
            rw [hCut] at hRead <;> cases hRead
    · cases hEnd
  case readMessageHeader =>
    rcases bind_eq_error h with hRead | ⟨_, _, -, hEnd⟩
    · rw [readMessageHeader_eq] at hRead
      split at hRead
      · cases hRead
      · rename_i hHeader
        cases hRead
        cases readHeaderOf_error hHeader
    · cases hEnd
  case readExtendedTimestamp =>
    rcases bind_eq_error h with hRead | ⟨_, _, -, hEnd⟩
    · rw [readExtendedTimestamp_eq] at hRead
      split at hRead <;> cases hRead
    · cases hEnd
  case readMessagePayload =>
    rcases bind_eq_error h with hRead | ⟨_, _, -, hEnd⟩
    · rw [readMessagePayload_eq] at hRead
      split at hRead
      · cases hRead
      · split at hRead
        · cases hRead
        · split at hRead <;> cases hRead
    · cases hEnd
  case finish => cases h

/-- Whether a call ends in a panic. -/
def panics {α : Type} : EStateM.Result UnpackFault ChunkUnpacketizer α → Bool
  | .error .panic _ => true
  | _ => false

end Xiu.Rtmp.Chunk
