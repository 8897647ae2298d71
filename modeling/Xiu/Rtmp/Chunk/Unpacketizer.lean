import Xiu.Rtmp.Chunk.Reads

/-! The loops of the chunk reader of `protocol/rtmp/src/chunk/unpacketizer.rs`: `read_chunk`, which
runs the reads until a message is whole, and `read_chunks`, which collects messages until a read
fails or the chunk size changes.  Both end on every buffer. -/

namespace Xiu.Rtmp.Chunk

open Bytesio ProofKit ChunkUnpacketizer

/-- Where a state stands among the reads of a chunk, later reads first. -/
def ChunkReadState.rank : ChunkReadState → Nat
  | .readBasicHeader => 0
  | .finish => 1
  | .readMessagePayload => 2
  | .readExtendedTimestamp => 3
  | .readMessageHeader => 4

/-- What is left to do, at most: each turn of `read_chunk` takes a byte or comes to a later read. -/
def ChunkUnpacketizer.unread (self : ChunkUnpacketizer) : Nat :=
  5 * self.buffer.length + self.chunkReadState.rank

/-- One turn of the loop of `read_chunk`, whose variable is the last result. -/
def readChunkTurn (result : UnpackResult) : Unpack (Turn UnpackResult UnpackResult) := do
  match (← get).chunkReadState with
  | .readBasicHeader => return .again (← readBasicHeader)
  | .readMessageHeader => return .again (← readMessageHeader)
  | .readExtendedTimestamp => return .again (← readExtendedTimestamp)
  | .readMessagePayload => return .again (← readMessagePayload)
  | .finish =>
    modify (·.setChunkReadState .readBasicHeader)
    return .done result

@[simp] theorem switched_buffer (self : ChunkUnpacketizer) (formatId : UInt8) (csid : UInt32) :
    (self.switched formatId csid).buffer = self.buffer := by
  unfold switched
  split
  · rfl
  · split <;> rfl

@[simp] theorem begun_buffer (self : ChunkUnpacketizer) (formatId : UInt8) (csid : UInt32) :
    (self.begun formatId csid).buffer = self.buffer := by
  have h := switched_buffer self formatId csid
  unfold begun
  dsimp only
  split <;> exact h

@[simp] theorem begun_chunkReadState (self : ChunkUnpacketizer) (formatId : UInt8)
    (csid : UInt32) : (self.begun formatId csid).chunkReadState = .readMessageHeader := rfl

/-- What the basic header of a chunk can change. -/
theorem begun_eq (self : ChunkUnpacketizer) (formatId : UInt8) (csid : UInt32) :
    ∃ header number, self.begun formatId csid =
      { self with
        currentChunkInfo := ⟨⟨formatId, csid⟩, header, self.payload⟩
        chunkReadState := .readMessageHeader
        parseErrorNumber := number } := by
  unfold begun switched
  dsimp only
  split <;> split <;> first | exact ⟨_, _, rfl⟩ | (split <;> exact ⟨_, _, rfl⟩)

theorem begun_payload (self : ChunkUnpacketizer) (formatId : UInt8) (csid : UInt32) :
    (self.begun formatId csid).payload = self.payload := by
  obtain ⟨header, number, hBegun⟩ := begun_eq self formatId csid
  rw [hBegun]

theorem begun_msgHeaderReadState (self : ChunkUnpacketizer) (formatId : UInt8) (csid : UInt32) :
    (self.begun formatId csid).msgHeaderReadState = self.msgHeaderReadState := by
  obtain ⟨header, number, hBegun⟩ := begun_eq self formatId csid
  rw [hBegun]

theorem begun_chunkMessageHeaders (self : ChunkUnpacketizer) (formatId : UInt8) (csid : UInt32) :
    (self.begun formatId csid).chunkMessageHeaders = self.chunkMessageHeaders := by
  obtain ⟨header, number, hBegun⟩ := begun_eq self formatId csid
  rw [hBegun]

theorem begun_maxChunkSize (self : ChunkUnpacketizer) (formatId : UInt8) (csid : UInt32) :
    (self.begun formatId csid).maxChunkSize = self.maxChunkSize := by
  obtain ⟨header, number, hBegun⟩ := begun_eq self formatId csid
  rw [hBegun]

/-- A basic header that is read takes its first byte at least. -/
theorem readBasicHeader_ok {self self' : ChunkUnpacketizer} {result : UnpackResult}
    (h : readBasicHeader self = .ok result self') (hState : self.chunkReadState = .readBasicHeader) :
    self'.unread < self.unread := by
  unfold unread
  rw [hState]
  cases hBuffer : self.buffer with
  | nil => rw [readBasicHeader_nil hBuffer] at h; cases h
  | cons byte rest =>
    by_cases hTail : basicHeaderTail byte ≤ rest.length
    · by_cases hGivesUp : self.GivesUp (basicHeaderFormat byte) (basicHeaderCsid byte rest)
      · rw [readBasicHeader_givesUp hBuffer hTail hGivesUp] at h
        cases h
      · rw [readBasicHeader_whole hBuffer hTail hGivesUp] at h
        cases h
        have hDrop := List.length_drop (i := basicHeaderTail byte) (l := rest)
        simp only [begun_buffer, begun_chunkReadState, setReader, buffer, ChunkReadState.rank,
          List.length_cons]
        omega
    · rcases readBasicHeader_cut hBuffer (Nat.lt_of_not_le hTail) with ⟨hCut, -⟩ | hCut <;>
        rw [hCut] at h <;> cases h
      simp only [setReader, buffer, hState, List.length_cons]
      omega

/-- A message header that is read changes the header only, and comes to the next read. -/
theorem readMessageHeader_ok {self self' : ChunkUnpacketizer} {result : UnpackResult}
    (h : readMessageHeader self = .ok result self') :
    HeaderRead self (self'.setChunkReadState self.chunkReadState) ∧
      self'.chunkReadState = .readExtendedTimestamp ∧ result = .success := by
  rw [readMessageHeader_eq] at h
  have hRead := readHeaderOf_headerRead self.currentChunkInfo.basicHeader.format self.prepared
  split at h
  · rename_i hOk
    rw [hOk] at hRead
    cases h
    have hFrame := (prepared_headerRead self).trans hRead
    exact ⟨⟨hFrame.taken, hFrame.basicHeader, hFrame.payload, hFrame.chunkMessageHeaders, rfl,
      hFrame.maxChunkSize, hFrame.parseErrorNumber⟩, rfl, rfl⟩
  · cases h

theorem takeExtended_headerRead (self : ChunkUnpacketizer) :
    HeaderRead self self.takeExtended := by
  unfold takeExtended
  split
  · exact .refl self
  · exact ⟨List.drop_suffix _ _, rfl, rfl, rfl, rfl, rfl, rfl⟩

/-- So does an extended timestamp that is read. -/
theorem readExtendedTimestamp_ok {self self' : ChunkUnpacketizer} {result : UnpackResult}
    (h : readExtendedTimestamp self = .ok result self') :
    HeaderRead self (self'.setChunkReadState self.chunkReadState) ∧
      self'.chunkReadState = .readMessagePayload ∧ result = .success := by
  rw [readExtendedTimestamp_eq] at h
  split at h
  · cases h
  · cases h
    have hFrame := takeExtended_headerRead self
    exact ⟨⟨hFrame.taken, hFrame.basicHeader, hFrame.payload, hFrame.chunkMessageHeaders, rfl,
      hFrame.maxChunkSize, hFrame.parseErrorNumber⟩, rfl, rfl⟩

theorem readMessagePayload_ok {self self' : ChunkUnpacketizer} {result : UnpackResult}
    (h : readMessagePayload self = .ok result self') :
    self'.buffer <:+ self.buffer ∧ self'.chunkReadState.rank ≤ 1 := by
  rw [readMessagePayload_eq] at h
  split at h
  · cases h
  · split at h
    · cases h
    · split at h <;> cases h
      · exact ⟨List.drop_suffix _ _, le_refl _⟩
      · exact ⟨List.drop_suffix _ _, Nat.zero_le _⟩

/-- The state that a turn leaves does not depend on the result carried. -/
theorem stateOf_readChunkTurn (result : UnpackResult) (self : ChunkUnpacketizer) :
    stateOf (readChunkTurn result self) =
      match self.chunkReadState with
      | .readBasicHeader => stateOf (readBasicHeader self)
      | .readMessageHeader => stateOf (readMessageHeader self)
      | .readExtendedTimestamp => stateOf (readExtendedTimestamp self)
      | .readMessagePayload => stateOf (readMessagePayload self)
      | .finish => self.setChunkReadState .readBasicHeader := by
  unfold readChunkTurn
  rw [bind_get]
  cases self.chunkReadState with
  | finish => rfl
  | _ => exact stateOf_bind_pure

theorem readChunkTurn_ok {turn : Turn UnpackResult UnpackResult} {result : UnpackResult}
    {self self' : ChunkUnpacketizer} (h : readChunkTurn result self = .ok turn self') :
    self'.unread < self.unread := by
  unfold readChunkTurn at h
  rw [bind_get] at h
  cases hState : self.chunkReadState <;> simp only [hState] at h
  case readBasicHeader =>
    obtain ⟨a, s, hRead, hEnd⟩ := bind_eq_ok h
    cases hEnd
    exact readBasicHeader_ok hRead hState
  case readMessageHeader =>
    obtain ⟨a, s, hRead, hEnd⟩ := bind_eq_ok h
    cases hEnd
    obtain ⟨hFrame, hNext, -⟩ := readMessageHeader_ok hRead
    have hLen : self'.buffer.length ≤ self.buffer.length := hFrame.taken.length_le
    simp only [unread, hNext, hState, ChunkReadState.rank]
    omega
  case readExtendedTimestamp =>
    obtain ⟨a, s, hRead, hEnd⟩ := bind_eq_ok h
    cases hEnd
    obtain ⟨hFrame, hNext, -⟩ := readExtendedTimestamp_ok hRead
    have hLen : self'.buffer.length ≤ self.buffer.length := hFrame.taken.length_le
    simp only [unread, hNext, hState, ChunkReadState.rank]
    omega
  case readMessagePayload =>
    obtain ⟨a, s, hRead, hEnd⟩ := bind_eq_ok h
    cases hEnd
    obtain ⟨hTaken, hNext⟩ := readMessagePayload_ok hRead
    have hLen := hTaken.length_le
    have hRank : self.chunkReadState.rank = 2 := by rw [hState]; rfl
    unfold unread
    omega
  case finish =>
    cases h
    have hRank : self.chunkReadState.rank = 1 := by rw [hState]; rfl
    change 5 * self.buffer.length + 0 < 5 * self.buffer.length + self.chunkReadState.rank
    omega

/-- A turn that fails leaves the reader at the same read, with no more bytes than before. -/
theorem readChunkTurn_error {result : UnpackResult} {self self' : ChunkUnpacketizer}
    {e : UnpackFault} (h : readChunkTurn result self = .error e self') :
    self'.buffer <:+ self.buffer ∧ self'.chunkReadState = self.chunkReadState := by
  unfold readChunkTurn at h
  rw [bind_get] at h
  cases hState : self.chunkReadState <;> simp only [hState] at h
  case readBasicHeader =>
    rcases bind_eq_error h with hRead | ⟨_, _, -, hEnd⟩
    · cases hBuffer : self.buffer with
      | nil =>
        rw [readBasicHeader_nil hBuffer] at hRead
        cases hRead
        exact ⟨hBuffer ▸ List.suffix_refl _, hState⟩
      | cons byte rest =>
        by_cases hTail : basicHeaderTail byte ≤ rest.length
        · by_cases hGivesUp : self.GivesUp (basicHeaderFormat byte) (basicHeaderCsid byte rest)
          · rw [readBasicHeader_givesUp hBuffer hTail hGivesUp] at hRead
            cases hRead
            exact ⟨(List.drop_suffix _ _).trans (List.suffix_cons _ _), hState⟩
          · rw [readBasicHeader_whole hBuffer hTail hGivesUp] at hRead
            cases hRead
        · rcases readBasicHeader_cut hBuffer (Nat.lt_of_not_le hTail) with ⟨hCut, -⟩ | hCut <;>
            rw [hCut] at hRead <;> cases hRead
          exact ⟨List.nil_suffix, hState⟩
    · cases hEnd
  case readMessageHeader =>
    rcases bind_eq_error h with hRead | ⟨_, _, -, hEnd⟩
    · rw [readMessageHeader_eq] at hRead
      have hFrame := readHeaderOf_headerRead self.currentChunkInfo.basicHeader.format self.prepared
      have hPrepared := prepared_headerRead self
      split at hRead
      · cases hRead
      · rename_i hHeader
        rw [hHeader] at hFrame
        cases hRead
        exact ⟨hFrame.taken.trans hPrepared.taken,
          (hFrame.chunkReadState.trans hPrepared.chunkReadState).trans hState⟩
    · cases hEnd
  case readExtendedTimestamp =>
    rcases bind_eq_error h with hRead | ⟨_, _, -, hEnd⟩
    · rw [readExtendedTimestamp_eq] at hRead
      split at hRead <;> cases hRead
      exact ⟨List.suffix_refl _, hState⟩
    · cases hEnd
  case readMessagePayload =>
    rcases bind_eq_error h with hRead | ⟨_, _, -, hEnd⟩
    · rw [readMessagePayload_eq] at hRead
      split at hRead
      · cases hRead
        exact ⟨List.suffix_refl _, hState⟩
      · split at hRead
        · cases hRead
          exact ⟨List.suffix_refl _, hState⟩
        · split at hRead <;> cases hRead
    · cases hEnd
  case finish => cases h

theorem readChunkTurn_again (result result' : UnpackResult) (self self' : ChunkUnpacketizer)
    (h : readChunkTurn result self = .ok (.again result') self') : self'.unread < self.unread :=
  readChunkTurn_ok h

section Turns

variable {a a' : UnpackResult} {r r' : ChunkUnpacketizer}

theorem readChunkTurn_basicHeader (hState : r.chunkReadState = .readBasicHeader)
    (h : readBasicHeader r = .ok a' r') :
    readChunkTurn a r = .ok (.again a') r' := by
  unfold readChunkTurn
  rw [bind_get, hState]
  exact bind_of_ok h

theorem readChunkTurn_basicHeader_error {e : UnpackFault}
    (hState : r.chunkReadState = .readBasicHeader) (h : readBasicHeader r = .error e r') :
    readChunkTurn a r = .error e r' := by
  unfold readChunkTurn
  rw [bind_get, hState]
  exact bind_of_error h

theorem readChunkTurn_messageHeader (hState : r.chunkReadState = .readMessageHeader)
    (h : readMessageHeader r = .ok a' r') :
    readChunkTurn a r = .ok (.again a') r' := by
  unfold readChunkTurn
  rw [bind_get, hState]
  exact bind_of_ok h

theorem readChunkTurn_extendedTimestamp (hState : r.chunkReadState = .readExtendedTimestamp)
    (h : readExtendedTimestamp r = .ok a' r') :
    readChunkTurn a r = .ok (.again a') r' := by
  unfold readChunkTurn
  rw [bind_get, hState]
  exact bind_of_ok h

theorem readChunkTurn_extendedTimestamp_error {e : UnpackFault}
    (hState : r.chunkReadState = .readExtendedTimestamp)
    (h : readExtendedTimestamp r = .error e r') :
    readChunkTurn a r = .error e r' := by
  unfold readChunkTurn
  rw [bind_get, hState]
  exact bind_of_error h

theorem readChunkTurn_messagePayload (hState : r.chunkReadState = .readMessagePayload)
    (h : readMessagePayload r = .ok a' r') :
    readChunkTurn a r = .ok (.again a') r' := by
  unfold readChunkTurn
  rw [bind_get, hState]
  exact bind_of_ok h

theorem readChunkTurn_messagePayload_error {e : UnpackFault}
    (hState : r.chunkReadState = .readMessagePayload) (h : readMessagePayload r = .error e r') :
    readChunkTurn a r = .error e r' := by
  unfold readChunkTurn
  rw [bind_get, hState]
  exact bind_of_error h

theorem readChunkTurn_finish (hState : r.chunkReadState = .finish) :
    readChunkTurn a r = .ok (.done a) (r.setChunkReadState .readBasicHeader) := by
  unfold readChunkTurn
  rw [bind_get, hState]
  rfl

end Turns

/-- The loop of `read_chunk` goes from one result and state to another. -/
def Turns : UnpackResult × ChunkUnpacketizer → UnpackResult × ChunkUnpacketizer → Prop :=
  (loopOf readChunkTurn unread readChunkTurn_again).Passes

theorem Turns.single {result result' : UnpackResult} {self self' : ChunkUnpacketizer}
    (h : readChunkTurn result self = .ok (.again result') self') :
    Turns (result, self) (result', self') :=
  Relation.ReflTransGen.single (by simp only [loopOf, h])

def readChunk : Unpack UnpackResult := loopM readChunkTurn unread readChunkTurn_again .empty

/-- A read of a chunk leaves no more to do than before. -/
theorem readChunk_unread (self : ChunkUnpacketizer) :
    (stateOf (readChunk self)).unread ≤ self.unread := by
  refine stateOf_loopM (R := fun s s' : ChunkUnpacketizer => s'.unread ≤ s.unread)
    (fun hab hbc => hbc.trans hab) (fun result s => ?_) UnpackResult.empty self
  cases hTurn : readChunkTurn result s with
  | ok turn s' => exact (readChunkTurn_ok hTurn).le
  | error e s' =>
    obtain ⟨hTaken, hState⟩ := readChunkTurn_error hTurn
    have hLen := hTaken.length_le
    change s'.unread ≤ s.unread
    unfold unread
    rw [hState]
    omega

/-- A chunk that is read leaves less to do. -/
theorem readChunk_ok {result : UnpackResult} {self self' : ChunkUnpacketizer}
    (h : readChunk self = .ok result self') : self'.unread < self.unread := by
  have key : ∀ (a : UnpackResult) (s : ChunkUnpacketizer),
      loopM readChunkTurn unread readChunkTurn_again a s = .ok result self' →
        self'.unread < s.unread := by
    intro a s
    induction a, s using loopM_induct readChunkTurn unread readChunkTurn_again with
    | again a s a' s' hTurn ih =>
      intro hRun
      rw [loopM_again hTurn] at hRun
      exact (ih hRun).trans (readChunkTurn_ok hTurn)
    | done a s b s' hTurn =>
      intro hRun
      rw [loopM_done hTurn] at hRun
      cases hRun
      exact readChunkTurn_ok hTurn
    | error a s e s' hTurn =>
      intro hRun
      rw [loopM_error hTurn] at hRun
      cases hRun
  exact key .empty self h

/-- One turn of the loop of `read_chunks`, whose variable is the messages collected. -/
def readChunksTurn (chunks : List ChunkInfo) : Unpack (Turn (List ChunkInfo) (List ChunkInfo)) :=
  fun self =>
    match readChunk self with
    | .ok (.chunkInfo chunkInfo) self' =>
      let msgTypeId := chunkInfo.messageHeader.msgTypeId
      if msgTypeId = SET_CHUNK_SIZE then .ok (.done (chunks ++ [chunkInfo])) self'
      else .ok (.again (chunks ++ [chunkInfo])) self'
    | .ok _ self' => .ok (.again chunks) self'
    | .error (.error .cannotParse) self' => .error (.error .cannotParse) self'
    | .error .panic self' => .error .panic self'
    | .error _ self' => .ok (.done chunks) self'

theorem readChunksTurn_again (chunks chunks' : List ChunkInfo) (self self' : ChunkUnpacketizer)
    (h : readChunksTurn chunks self = .ok (.again chunks') self') :
    self'.unread < self.unread := by
  unfold readChunksTurn at h
  split at h
  · rename_i hRead
    dsimp only at h
    split at h <;> cases h
    exact readChunk_ok hRead
  · rename_i hRead
    cases h
    exact readChunk_ok hRead
  all_goals cases h

/-- The messages that the buffer holds, up to one that changes the chunk size. -/
def collectChunks : Unpack (List ChunkInfo) := loopM readChunksTurn unread readChunksTurn_again []

def readChunks : Unpack UnpackResult := do
  let chunks ← collectChunks
  if chunks ≠ [] then
    return .chunks chunks
  else
    throw (.error .emptyChunks)

theorem stateOf_readChunksTurn (chunks : List ChunkInfo) (self : ChunkUnpacketizer) :
    stateOf (readChunksTurn chunks self) = stateOf (readChunk self) := by
  unfold readChunksTurn
  dsimp only
  split
  · split <;> simp only [*, stateOf]
  all_goals simp only [*, stateOf]

theorem stateOf_readChunks (self : ChunkUnpacketizer) :
    stateOf (readChunks self) = stateOf (collectChunks self) := by
  unfold readChunks
  cases hCollect : collectChunks self with
  | ok chunks s =>
    rw [bind_of_ok hCollect]
    by_cases hNil : chunks ≠ []
    · rw [if_pos hNil]
      rfl
    · rw [if_neg hNil]
      rfl
  | error e s =>
    rw [bind_of_error hCollect]
    rfl

theorem readChunksTurn_unread (chunks : List ChunkInfo) (self : ChunkUnpacketizer) :
    (stateOf (readChunksTurn chunks self)).unread ≤ self.unread := by
  rw [stateOf_readChunksTurn]
  exact readChunk_unread self

theorem collectChunks_unread (chunks : List ChunkInfo) (self : ChunkUnpacketizer) :
    (stateOf (loopM readChunksTurn unread readChunksTurn_again chunks self)).unread ≤
      self.unread :=
  stateOf_loopM (R := fun s s' : ChunkUnpacketizer => s'.unread ≤ s.unread)
    (fun hab hbc => hbc.trans hab) readChunksTurn_unread chunks self

/-- Messages that are collected leave less to do. -/
theorem collectChunks_ok {chunks : List ChunkInfo} {self self' : ChunkUnpacketizer}
    (h : collectChunks self = .ok chunks self') (hChunks : chunks ≠ []) :
    self'.unread < self.unread := by
  have hLast := collectChunks_unread
  unfold collectChunks at h
  cases hTurn : readChunksTurn [] self with
  | ok turn s =>
    cases turn with
    | again chunks' =>
      have hLess := readChunksTurn_again _ _ _ _ hTurn
      have hRest := hLast chunks' s
      rw [loopM_again hTurn] at h
      rw [h] at hRest
      exact Nat.lt_of_le_of_lt hRest hLess
    | done chunks' =>
      rw [loopM_done hTurn] at h
      cases h
      unfold readChunksTurn at hTurn
      split at hTurn
      · dsimp only at hTurn
        split at hTurn <;> cases hTurn
        exact readChunk_ok ‹_›
      · cases hTurn
      · cases hTurn
      · cases hTurn
      · cases hTurn
        exact absurd rfl hChunks
  | error e s =>
    rw [loopM_error hTurn] at h
    cases h

theorem readChunks_ok {result : UnpackResult} {self self' : ChunkUnpacketizer}
    (h : readChunks self = .ok result self') :
    ∃ chunks, result = .chunks chunks ∧ chunks ≠ [] ∧ collectChunks self = .ok chunks self' := by
  obtain ⟨chunks, s, hCollect, hEnd⟩ := bind_eq_ok h
  by_cases hChunks : chunks ≠ []
  · rw [if_pos hChunks] at hEnd
    cases hEnd
    exact ⟨chunks, rfl, hChunks, hCollect⟩
  · rw [if_neg hChunks] at hEnd
    cases hEnd

end Xiu.Rtmp.Chunk
