import Xiu.ProofKit.Resume
import Xiu.Rtmp.Chunk.Wire

/-! Reads that go on where they stopped.  The reads of the message header, of the extended timestamp
and of the payload do: with more bytes from the start they do what they do with those bytes after
the stop.  The read of the basic header does not: it takes the bytes that have arrived of a header of
two or three bytes, and loses them. -/

namespace Xiu.Rtmp.Chunk

open Bytesio ProofKit ChunkUnpacketizer

/-- The faults of a read that more bytes may cure. -/
def UnpackFault.Waits (e : UnpackFault) : Prop := e ≠ .panic ∧ e ≠ .error .cannotParse

theorem notEnoughBytes_waits : UnpackFault.notEnoughBytes.Waits := ⟨nofun, nofun⟩

/-- A read goes on where it stopped. -/
abbrev ReadResumes {α : Type} (x : Unpack α) (self : ChunkUnpacketizer) : Prop :=
  Resumes extendData UnpackFault.Waits x self

/-- A read that stops for lack of bytes and changes nothing. -/
theorem resumes_of_short {α : Type} {x : Unpack α} {self : ChunkUnpacketizer}
    (h : x self = .error .notEnoughBytes self) : ReadResumes x self := by
  intro d
  rw [h]
  exact ⟨fun _ => rfl, fun hWaits => absurd notEnoughBytes_waits hWaits⟩

theorem resumes_of_ok {α : Type} {x : Unpack α} {self s : ChunkUnpacketizer} {a : α}
    (h : x self = .ok a s) (hMore : ∀ d, x (self.extendData d) = .ok a (s.extendData d)) :
    ReadResumes x self := by
  intro d
  rw [h]
  exact hMore d

theorem take_extend {self : ChunkUnpacketizer} {n : Nat} (d : List UInt8)
    (h : n ≤ self.buffer.length) : (self.extendData d).buffer.take n = self.buffer.take n :=
  List.take_append_of_le_length h

theorem drop_extend {self : ChunkUnpacketizer} {n : Nat} (d : List UInt8)
    (h : n ≤ self.buffer.length) : (self.extendData d).buffer.drop n = self.buffer.drop n ++ d :=
  List.drop_append_of_le_length h

theorem length_extend (self : ChunkUnpacketizer) (d : List UInt8) :
    (self.extendData d).buffer.length = self.buffer.length + d.length :=
  List.length_append

theorem takeField_extend {self : ChunkUnpacketizer} (format : UInt8) (d : List UInt8)
    (h : self.msgHeaderReadState.width ≤ self.buffer.length) :
    (self.extendData d).takeField format = (self.takeField format).extendData d := by
  have hTake := take_extend d h
  have hDrop := drop_extend d h
  have hState : (self.extendData d).msgHeaderReadState = self.msgHeaderReadState := rfl
  unfold takeField
  simp only [hState, hTake, hDrop]
  rfl

theorem readFormat0_resumes (a : Unit) (self : ChunkUnpacketizer) :
    ReadResumes (readFormat0 a) self := by
  by_cases hShort : self.buffer.length < self.msgHeaderReadState.width
  · exact resumes_of_short ((readFormat0_eq a self).trans (if_pos hShort))
  · refine resumes_of_ok ((readFormat0_eq a self).trans (if_neg hShort)) fun d => ?_
    have hLong : ¬(self.extendData d).buffer.length < self.msgHeaderReadState.width := by
      rw [length_extend]
      omega
    refine (readFormat0_eq a _).trans ((if_neg hLong).trans ?_)
    rw [takeField_extend 0 d (Nat.le_of_not_lt hShort)]
    rfl

theorem readFormat1_resumes (a : Unit) (self : ChunkUnpacketizer) :
    ReadResumes (readFormat1 a) self := by
  by_cases hState : self.msgHeaderReadState = .readMsgStreamID
  · exact resumes_of_ok (readFormat1_stuck a hState) fun d =>
      readFormat1_stuck a hState
  · by_cases hShort : self.buffer.length < self.msgHeaderReadState.width
    · exact resumes_of_short ((readFormat1_eq a hState).trans (if_pos hShort))
    · refine resumes_of_ok ((readFormat1_eq a hState).trans (if_neg hShort)) fun d => ?_
      have hLong : ¬(self.extendData d).buffer.length < self.msgHeaderReadState.width := by
        rw [length_extend]
        omega
      refine (readFormat1_eq a (r := self.extendData d) hState).trans
        ((if_neg hLong).trans ?_)
      rw [takeField_extend 1 d (Nat.le_of_not_lt hShort)]
      rfl

theorem modifyHeader_extend (g : ChunkMessageHeader → ChunkMessageHeader)
    (self : ChunkUnpacketizer) :
    ∃ b s', modifyHeader g self = .ok b s' ∧
      ∀ d, modifyHeader g (self.extendData d) = .ok b (s'.extendData d) :=
  ⟨(), _, rfl, fun _ => rfl⟩

theorem readHeaderOf_resumes (format : UInt8) (self : ChunkUnpacketizer) :
    ReadResumes (readHeaderOf format) self := by
  unfold readHeaderOf
  split
  · exact (Resumes.loopM readFormat0_resumes () self).bind fun _ s => modifyHeader_extend _ s
  · split
    · exact (Resumes.loopM readFormat1_resumes () self).bind fun _ s => modifyHeader_extend _ s
    · split
      · by_cases hShort : self.buffer.length < 3
        · exact resumes_of_short ((bind_readCursor _ _ _ _).trans (if_pos hShort))
        · refine resumes_of_ok ((bind_readCursor _ _ _ _).trans (if_neg hShort)) fun d => ?_
          have hLong : ¬(self.extendData d).buffer.length < 3 := by
            rw [length_extend]
            omega
          refine (bind_readCursor _ _ _ _).trans ((if_neg hLong).trans ?_)
          rw [take_extend d (by omega), drop_extend d (by omega)]
          rfl
      · exact fun d => rfl

theorem setField_extendedTimestampType (header : ChunkMessageHeader) (format : UInt8)
    (field : MessageHeaderReadState) (bytes : List UInt8) :
    (header.setField format field bytes).extendedTimestampType = header.extendedTimestampType := by
  unfold ChunkMessageHeader.setField
  cases field with
  | readTimeStamp => dsimp only; split <;> rfl
  | _ => rfl

/-- The same extended timestamp is in force in two states. -/
def SameExtended (before after : ChunkUnpacketizer) : Prop :=
  after.header.extendedTimestampType = before.header.extendedTimestampType

theorem SameExtended.trans {a b c : ChunkUnpacketizer} (h : SameExtended a b)
    (h' : SameExtended b c) : SameExtended a c := Eq.trans h' h

theorem readFormat0_sameExtended (a : Unit) (self : ChunkUnpacketizer) :
    SameExtended self (stateOf (readFormat0 a self)) := by
  rw [readFormat0_eq]
  split
  · rfl
  · exact setField_extendedTimestampType _ _ _ _

theorem readFormat1_sameExtended (a : Unit) (self : ChunkUnpacketizer) :
    SameExtended self (stateOf (readFormat1 a self)) := by
  by_cases hState : self.msgHeaderReadState = .readMsgStreamID
  · rw [readFormat1_stuck a hState]
    rfl
  · rw [readFormat1_eq a hState]
    split
    · rfl
    · exact setField_extendedTimestampType _ _ _ _

/-- An extended timestamp does not come in force before the header is read. -/
theorem readHeaderOf_error_extended {format : UInt8} {self s : ChunkUnpacketizer} {e : UnpackFault}
    (h : readHeaderOf format self = .error e s) : SameExtended self s := by
  unfold readHeaderOf at h
  split at h
  · rcases bind_eq_error h with hFields | ⟨_, _, -, hEnd⟩
    · have hSame : SameExtended self (stateOf (readFields0 self)) :=
        stateOf_loopM (R := SameExtended) SameExtended.trans readFormat0_sameExtended () self
      rwa [hFields] at hSame
    · cases hEnd
  · split at h
    · rcases bind_eq_error h with hFields | ⟨_, _, -, hEnd⟩
      · have hSame : SameExtended self (stateOf (readFields1 self)) :=
          stateOf_loopM (R := SameExtended) SameExtended.trans readFormat1_sameExtended () self
        rwa [hFields] at hSame
      · cases hEnd
    · split at h
      · rw [bind_readCursor] at h
        split at h <;> cases h
        rfl
      · cases h

theorem extendData_currentChunkInfo (self : ChunkUnpacketizer) (d : List UInt8) :
    (self.extendData d).currentChunkInfo = self.currentChunkInfo := rfl

theorem prepared_extend (self : ChunkUnpacketizer) (d : List UInt8) :
    (self.extendData d).prepared = self.prepared.extendData d := by
  unfold prepared
  by_cases hFormat : self.currentChunkInfo.basicHeader.format ≠ 3
  · rw [if_pos hFormat]
    exact if_pos hFormat
  · rw [if_neg hFormat]
    exact if_neg hFormat

/-- A reader without an extended timestamp in force comes to the message header as it is. -/
theorem prepared_of_none {self : ChunkUnpacketizer}
    (h : self.currentChunkInfo.basicHeader.format ≠ 3 →
      self.header.extendedTimestampType = .none) : self.prepared = self := by
  unfold prepared
  split
  · rw [← h ‹_›]
    rfl
  · rfl

theorem readMessageHeader_resumes (self : ChunkUnpacketizer) :
    ReadResumes readMessageHeader self := by
  have hResumes := readHeaderOf_resumes self.currentChunkInfo.basicHeader.format self.prepared
  have hFrame := readHeaderOf_headerRead self.currentChunkInfo.basicHeader.format self.prepared
  have hEq := fun d => readMessageHeader_eq (self.extendData d)
  simp only [prepared_extend, extendData_currentChunkInfo] at hEq
  intro d
  cases hHeader : readHeaderOf self.currentChunkInfo.basicHeader.format self.prepared with
  | ok a s =>
    have hOk : readMessageHeader self =
        .ok .success (s.setChunkReadState .readExtendedTimestamp) := by
      rw [readMessageHeader_eq, hHeader]
    rw [hOk]
    dsimp only
    rw [hEq, hResumes.ok hHeader d]
    rfl
  | error e s =>
    have hError : readMessageHeader self = .error e s := by rw [readMessageHeader_eq, hHeader]
    rw [hError]
    have hWaits : e.Waits := by
      rw [readHeaderOf_error hHeader]
      exact notEnoughBytes_waits
    refine ⟨fun _ => ?_, fun hNot => absurd hWaits hNot⟩
    rw [hHeader] at hFrame
    have hFormat : s.currentChunkInfo.basicHeader.format =
        self.currentChunkInfo.basicHeader.format :=
      congrArg ChunkBasicHeader.format (hFrame.basicHeader.trans (prepared_basicHeader self))
    have hPrepared : (s.extendData d).prepared = s.extendData d := by
      refine prepared_of_none fun h3 => ?_
      have hSame : s.header.extendedTimestampType = self.prepared.header.extendedTimestampType :=
        readHeaderOf_error_extended hHeader
      refine Eq.trans hSame ?_
      unfold prepared
      rw [if_pos (hFormat ▸ h3)]
      rfl
    rw [hEq, hResumes.wait hHeader hWaits d, readMessageHeader_eq, hPrepared]
    rw [extendData_currentChunkInfo, hFormat]

theorem readExtendedTimestamp_resumes (self : ChunkUnpacketizer) :
    ReadResumes readExtendedTimestamp self := by
  by_cases hShort : self.header.extendedTimestampType ≠ .none ∧ self.buffer.length < 4
  · exact resumes_of_short ((readExtendedTimestamp_eq self).trans (if_pos hShort))
  · refine resumes_of_ok ((readExtendedTimestamp_eq self).trans (if_neg hShort)) fun d => ?_
    have hLong : ¬(self.header.extendedTimestampType ≠ .none ∧
        (self.extendData d).buffer.length < 4) := by
      rw [length_extend]
      exact fun h => hShort ⟨h.1, by omega⟩
    refine (readExtendedTimestamp_eq _).trans ((if_neg hLong).trans ?_)
    unfold takeExtended
    by_cases hNone : self.header.extendedTimestampType = .none
    · rw [if_pos hNone]
      exact congrArg (fun s : ChunkUnpacketizer => EStateM.Result.ok UnpackResult.success
        (s.computeTimestamp.setChunkReadState .readMessagePayload)) (if_pos hNone)
    · have hEnough : 4 ≤ self.buffer.length := Nat.le_of_not_lt fun h => hShort ⟨hNone, h⟩
      rw [if_neg hNone, take_extend d hEnough, drop_extend d hEnough]
      exact congrArg (fun s : ChunkUnpacketizer => EStateM.Result.ok UnpackResult.success
        (s.computeTimestamp.setChunkReadState .readMessagePayload)) (if_neg hNone)

theorem takePayload_extend {self : ChunkUnpacketizer} {n : Nat} (d : List UInt8)
    (h : n ≤ self.buffer.length) :
    (self.extendData d).takePayload n = (self.takePayload n).extendData d := by
  unfold takePayload
  rw [take_extend d h, drop_extend d h]
  rfl

theorem readMessagePayload_resumes (self : ChunkUnpacketizer) :
    ReadResumes readMessagePayload self := by
  by_cases hPanic : self.header.msgLength.toNat < self.payload.length
  · intro d
    rw [readMessagePayload_eq, if_pos hPanic]
    refine ⟨fun h => absurd rfl h.1, fun _ => ?_⟩
    exact (readMessagePayload_eq _).trans (if_pos hPanic)
  · by_cases hShort : self.buffer.length < self.needReadLength
    · refine resumes_of_short ?_
      rw [readMessagePayload_eq, if_neg hPanic, if_pos hShort]
    · have hLong : ∀ d, ¬(self.extendData d).buffer.length < self.needReadLength := fun d => by
        rw [length_extend]
        omega
      have hTake : ∀ d, (self.extendData d).buffer.take self.needReadLength =
          self.buffer.take self.needReadLength := fun d => take_extend d (Nat.le_of_not_lt hShort)
      have hMore : ∀ d, readMessagePayload (self.extendData d) = _ := fun d =>
        (readMessagePayload_eq (self.extendData d)).trans ((if_neg hPanic).trans
          (if_neg (hLong d)))
      have hPayload := fun d => takePayload_extend d (Nat.le_of_not_lt hShort)
      by_cases hWhole : (self.payload ++ self.buffer.take self.needReadLength).length =
          self.header.msgLength.toNat
      · refine resumes_of_ok ((readMessagePayload_eq self).trans ((if_neg hPanic).trans
          ((if_neg hShort).trans (if_pos hWhole)))) fun d => (hMore d).trans ?_
        refine (if_pos ?_).trans ?_
        · exact (congrArg (fun bytes => (self.payload ++ bytes).length) (hTake d)).trans hWhole
        · exact congrArg (fun s : ChunkUnpacketizer =>
            EStateM.Result.ok (ε := UnpackFault) (UnpackResult.chunkInfo s.currentChunkInfo)
              s.finishMessage) (hPayload d)
      · refine resumes_of_ok ((readMessagePayload_eq self).trans ((if_neg hPanic).trans
          ((if_neg hShort).trans (if_neg hWhole)))) fun d => (hMore d).trans ?_
        refine (if_neg ?_).trans ?_
        · exact fun h => hWhole
            ((congrArg (fun bytes => (self.payload ++ bytes).length) (hTake d)).symm.trans h)
        · exact congrArg (fun s : ChunkUnpacketizer =>
            EStateM.Result.ok (ε := UnpackFault) UnpackResult.success
              (s.setChunkReadState .readBasicHeader)) (hPayload d)

/-- Whether a basic header that is about to be read has arrived whole. -/
def ChunkUnpacketizer.HeaderWhole (self : ChunkUnpacketizer) : Prop :=
  self.chunkReadState = .readBasicHeader →
    ∀ byte rest, self.buffer = byte :: rest → basicHeaderTail byte ≤ rest.length

/-- A basic header that has arrived whole, or not at all, is read the same with more bytes. -/
theorem readBasicHeader_resumes {self : ChunkUnpacketizer}
    (hState : self.chunkReadState = .readBasicHeader) (h : self.HeaderWhole) :
    ReadResumes readBasicHeader self := by
  cases hBuffer : self.buffer with
  | nil => exact resumes_of_short (readBasicHeader_nil hBuffer)
  | cons byte rest =>
    have hTail := h hState byte rest hBuffer
    have hMore : ∀ d, (self.extendData d).buffer = byte :: (rest ++ d) := fun d =>
      (congrArg (· ++ d) hBuffer).trans (List.cons_append ..)
    have hMoreTail : ∀ d : List UInt8, basicHeaderTail byte ≤ (rest ++ d).length := fun d => by
      rw [List.length_append]
      omega
    have hCsid := fun d => basicHeaderCsid_append d hTail
    have hDrop : ∀ d : List UInt8, (rest ++ d).drop (basicHeaderTail byte) =
        rest.drop (basicHeaderTail byte) ++ d := fun d => List.drop_append_of_le_length hTail
    by_cases hGivesUp : self.GivesUp (basicHeaderFormat byte) (basicHeaderCsid byte rest)
    · intro d
      have hGivesUp' : (self.extendData d).GivesUp (basicHeaderFormat byte)
          (basicHeaderCsid byte (rest ++ d)) := by
        rw [hCsid d]
        exact hGivesUp
      rw [readBasicHeader_givesUp hBuffer hTail hGivesUp]
      refine ⟨fun hWaits => absurd rfl hWaits.2, fun _ => ?_⟩
      rw [readBasicHeader_givesUp (hMore d) (hMoreTail d) hGivesUp', hDrop d]
      rfl
    · refine resumes_of_ok (readBasicHeader_whole hBuffer hTail hGivesUp) fun d => ?_
      have hGoesOn : ¬(self.extendData d).GivesUp (basicHeaderFormat byte)
          (basicHeaderCsid byte (rest ++ d)) := by
        rw [hCsid d]
        exact hGivesUp
      rw [readBasicHeader_whole (hMore d) (hMoreTail d) hGoesOn, hDrop d, hCsid d]
      have hSet : (self.extendData d).setReader ⟨rest.drop (basicHeaderTail byte) ++ d⟩ =
          self.setReader ⟨rest.drop (basicHeaderTail byte) ++ d⟩ := rfl
      rw [hSet, begun_setReader, begun_setReader]
      rfl

theorem resumes_again {x : Unpack UnpackResult} {self : ChunkUnpacketizer}
    (h : ReadResumes x self) :
    ReadResumes (do return (.again (← x) : Turn UnpackResult UnpackResult)) self :=
  h.bind fun _ s => ⟨_, s, rfl, fun _ => rfl⟩

/-- A turn of `read_chunk` goes on where it stopped, but for a basic header that is cut. -/
theorem readChunkTurn_resumes {self : ChunkUnpacketizer} (result : UnpackResult)
    (h : self.HeaderWhole) : ReadResumes (readChunkTurn result) self := by
  have key : ∀ {x : Unpack (Turn UnpackResult UnpackResult)}, ReadResumes x self →
      (∀ s : ChunkUnpacketizer, s.chunkReadState = self.chunkReadState →
        readChunkTurn result s = x s) → ReadResumes (readChunkTurn result) self :=
    fun hResumes hEq => hResumes.of_eqOn (P := fun s => s.chunkReadState = self.chunkReadState) hEq
      rfl (fun _ _ hs => hs) fun _ _ hError => (readChunkTurn_error hError).2
  cases hState : self.chunkReadState with
  | readBasicHeader =>
    refine key (resumes_again (readBasicHeader_resumes hState h)) fun s hs => ?_
    unfold readChunkTurn
    rw [bind_get, hs, hState]
  | readMessageHeader =>
    refine key (resumes_again (readMessageHeader_resumes self)) fun s hs => ?_
    unfold readChunkTurn
    rw [bind_get, hs, hState]
  | readExtendedTimestamp =>
    refine key (resumes_again (readExtendedTimestamp_resumes self)) fun s hs => ?_
    unfold readChunkTurn
    rw [bind_get, hs, hState]
  | readMessagePayload =>
    refine key (resumes_again (readMessagePayload_resumes self)) fun s hs => ?_
    unfold readChunkTurn
    rw [bind_get, hs, hState]
  | finish =>
    exact resumes_of_ok (readChunkTurn_finish hState) fun d =>
      readChunkTurn_finish hState

theorem extendData_nil (self : ChunkUnpacketizer) : self.extendData [] = self := by
  unfold extendData BytesReader.extendFromSlice
  rw [List.append_nil]

/-- Outside the end of a message, a turn does not depend on the result carried. -/
theorem readChunkTurn_result {self : ChunkUnpacketizer} (result result' : UnpackResult)
    (h : self.chunkReadState ≠ .finish) :
    readChunkTurn result self = readChunkTurn result' self := by
  unfold readChunkTurn
  rw [bind_get, bind_get]
  cases hState : self.chunkReadState with
  | finish => exact absurd hState h
  | _ => rfl

/-- A read that waits waits again without more bytes, also after a basic header that was cut. -/
theorem readChunkTurn_waits {result : UnpackResult} {self self' : ChunkUnpacketizer}
    {e : UnpackFault} (h : readChunkTurn result self = .error e self') (he : e.Waits) :
    ∃ e', e'.Waits ∧ ∀ result', readChunkTurn result' self' = .error e' self' := by
  have hState := (readChunkTurn_error h).2
  have hOpen : self.chunkReadState ≠ .finish := fun hFinish => by
    rw [readChunkTurn_finish hFinish] at h
    cases h
  have hOpen' : self'.chunkReadState ≠ .finish := fun hFinish => hOpen (hState.symm.trans hFinish)
  by_cases hWhole : self.HeaderWhole
  · have hAgain := (readChunkTurn_resumes result hWhole).wait h he []
    rw [extendData_nil, extendData_nil] at hAgain
    exact ⟨e, he, fun result' =>
      (readChunkTurn_result result' result hOpen').trans (hAgain.symm.trans h)⟩
  · have hBasic : self.chunkReadState = .readBasicHeader := by
      by_contra hNot
      exact hWhole fun hYes => absurd hYes hNot
    have hNil : self'.buffer = [] := by
      unfold HeaderWhole at hWhole
      push Not at hWhole
      obtain ⟨-, byte, rest, hBuffer, hTail⟩ := hWhole
      rcases readBasicHeader_cut hBuffer hTail with ⟨hCut, -⟩ | hCut
      · rw [readChunkTurn_basicHeader hBasic hCut] at h
        cases h
      · have hTurn : readChunkTurn result self = .error .notEnoughBytes (self.setReader ⟨[]⟩) := by
          unfold readChunkTurn
          rw [bind_get, hBasic]
          exact bind_of_error hCut
        cases hTurn.symm.trans h
        rfl
    refine ⟨.notEnoughBytes, notEnoughBytes_waits, fun result' => ?_⟩
    unfold readChunkTurn
    rw [bind_get, hState, hBasic]
    exact bind_of_error (readBasicHeader_nil hNil)

end Xiu.Rtmp.Chunk
