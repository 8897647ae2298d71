import Mathlib.Data.Finset.Card
import Xiu.Rtmp.Chunk.Segmentation

/-! What a basic header that is cut costs.  The bytes of it that have arrived are lost, so the reader
takes what follows for another header.  After any delivery that cut one there are further bytes that
tell the two readings apart: a message on a chunk stream that only the reader of the pieces sees. -/

namespace Xiu.Rtmp.Chunk

open Bytesio ProofKit ChunkUnpacketizer

/-! ### Lengths that three bytes can announce -/

/-- The message lengths of a reader, and the payload received, are below `2 ^ 24`. -/
structure Bounded (r : ChunkUnpacketizer) : Prop where
  length : r.header.msgLength.toNat < 2 ^ 24
  payload : r.payload.length < 2 ^ 24
  cached : ∀ csid header, r.chunkMessageHeaders.lookup csid = some header →
    header.msgLength.toNat < 2 ^ 24

theorem bounded_new : Bounded .new := ⟨by decide, by decide, fun _ _ h => nomatch h⟩

/-- A message length below `2 ^ 24` stays so. -/
def KeepsBound (before after : ChunkUnpacketizer) : Prop :=
  before.header.msgLength.toNat < 2 ^ 24 → after.header.msgLength.toNat < 2 ^ 24

theorem KeepsBound.trans {a b c : ChunkUnpacketizer} (h : KeepsBound a b) (h' : KeepsBound b c) :
    KeepsBound a c := fun ha => h' (h ha)

theorem KeepsBound.of_eq {a b : ChunkUnpacketizer}
    (h : b.header.msgLength = a.header.msgLength) : KeepsBound a b := fun ha => by rwa [h]

theorem takeField_keepsBound (format : UInt8) (self : ChunkUnpacketizer) :
    KeepsBound self (self.takeField format) := by
  intro h
  change (self.header.setField format self.msgHeaderReadState _).msgLength.toNat < 2 ^ 24
  unfold ChunkMessageHeader.setField
  cases self.msgHeaderReadState with
  | readTimeStamp => dsimp only; split <;> exact h
  | readMsgLength =>
    have hLen : (self.buffer.take 3).length ≤ 3 := List.length_take_le _ _
    have hLt := ofBE_lt (self.buffer.take 3)
    have hPow : 256 ^ (self.buffer.take 3).length ≤ 256 ^ 3 :=
      Nat.pow_le_pow_right (by decide) hLen
    change (BytesReader.decodeU32 .bigEndian (self.buffer.take 3)).toNat < 2 ^ 24
    rw [BytesReader.decodeU32_toNat (by omega)]
    exact Nat.lt_of_lt_of_le hLt hPow
  | readMsgTypeID => exact h
  | readMsgStreamID => exact h

theorem readFormat0_keepsBound (a : Unit) (self : ChunkUnpacketizer) :
    KeepsBound self (stateOf (readFormat0 a self)) := by
  rw [readFormat0_eq]
  split
  · exact .of_eq rfl
  · exact takeField_keepsBound 0 self

theorem readFormat1_keepsBound (a : Unit) (self : ChunkUnpacketizer) :
    KeepsBound self (stateOf (readFormat1 a self)) := by
  by_cases hState : self.msgHeaderReadState = .readMsgStreamID
  · rw [readFormat1_stuck a hState]
    exact .of_eq rfl
  · rw [readFormat1_eq a hState]
    split
    · exact .of_eq rfl
    · exact takeField_keepsBound 1 self

theorem readHeaderOf_keepsBound (format : UInt8) (self : ChunkUnpacketizer) :
    KeepsBound self (stateOf (readHeaderOf format self)) := by
  by_cases h0 : format = 0
  · unfold readHeaderOf
    rw [if_pos h0]
    exact stateOf_bind (R := KeepsBound) KeepsBound.trans
      (stateOf_loopM (R := KeepsBound) KeepsBound.trans readFormat0_keepsBound () self)
      fun _ s => .of_eq (markFormat0_msgLength s.header)
  · by_cases h1 : format = 1
    · unfold readHeaderOf
      rw [if_neg h0, if_pos h1]
      exact stateOf_bind (R := KeepsBound) KeepsBound.trans
        (stateOf_loopM (R := KeepsBound) KeepsBound.trans readFormat1_keepsBound () self)
        fun _ s => .of_eq (markFormat12_msgLength s.header)
    · exact .of_eq (readHeaderOf_keeps self h0 h1).1

theorem readBasicHeader_bounded {self : ChunkUnpacketizer} (h : Bounded self) :
    Bounded (stateOf (readBasicHeader self)) := by
  cases hBuffer : self.buffer with
  | nil =>
    rw [readBasicHeader_nil hBuffer]
    exact h
  | cons byte rest =>
    by_cases hTail : basicHeaderTail byte ≤ rest.length
    · by_cases hGivesUp : self.GivesUp (basicHeaderFormat byte) (basicHeaderCsid byte rest)
      · rw [readBasicHeader_givesUp hBuffer hTail hGivesUp]
        exact ⟨h.length, h.payload, h.cached⟩
      · rw [readBasicHeader_whole hBuffer hTail hGivesUp]
        refine ⟨?_, ?_, ?_⟩
        · change (begun _ _ _).header.msgLength.toNat < 2 ^ 24
          rcases begun_msgLength (self.setReader ⟨rest.drop (basicHeaderTail byte)⟩)
            (basicHeaderFormat byte) (basicHeaderCsid byte rest) with
            hSame | ⟨-, header, hLookup, hRestored⟩
          · rw [hSame]
            exact h.length
          · rw [hRestored]
            exact h.cached _ header hLookup
        · change (begun _ _ _).payload.length < 2 ^ 24
          rw [begun_payload]
          exact h.payload
        · change ∀ csid header, (begun _ _ _).chunkMessageHeaders.lookup csid = some header → _
          rw [begun_chunkMessageHeaders]
          exact h.cached
    · rcases readBasicHeader_cut hBuffer (Nat.lt_of_not_le hTail) with ⟨hCut, -⟩ | hCut <;>
        rw [hCut] <;> exact ⟨h.length, h.payload, h.cached⟩

theorem readMessageHeader_bounded {self : ChunkUnpacketizer} (h : Bounded self) :
    Bounded (stateOf (readMessageHeader self)) := by
  have hFrame := readHeaderOf_headerRead self.currentChunkInfo.basicHeader.format self.prepared
  have hPrepared := prepared_headerRead self
  have hBound := readHeaderOf_keepsBound self.currentChunkInfo.basicHeader.format self.prepared
    (by rw [prepared_msgLength]; exact h.length)
  have hPayload : (stateOf (readHeaderOf self.currentChunkInfo.basicHeader.format
      self.prepared)).payload.length < 2 ^ 24 := by
    rw [hFrame.payload, hPrepared.payload]
    exact h.payload
  have hCached := hFrame.chunkMessageHeaders.trans hPrepared.chunkMessageHeaders
  rw [readMessageHeader_eq]
  cases hHeader : readHeaderOf self.currentChunkInfo.basicHeader.format self.prepared with
  | ok a s =>
    rw [hHeader] at hBound hPayload hCached
    exact ⟨hBound, hPayload, fun csid header hLookup => h.cached csid header (hCached ▸ hLookup)⟩
  | error e s =>
    rw [hHeader] at hBound hPayload hCached
    exact ⟨hBound, hPayload, fun csid header hLookup => h.cached csid header (hCached ▸ hLookup)⟩

theorem readExtendedTimestamp_bounded {self : ChunkUnpacketizer} (h : Bounded self) :
    Bounded (stateOf (readExtendedTimestamp self)) := by
  rw [readExtendedTimestamp_eq]
  split
  · exact h
  · obtain ⟨hPayload, hLength⟩ := takeExtended_keeps self
    refine ⟨?_, ?_, ?_⟩
    · change (self.takeExtended.header.advanced _ _).msgLength.toNat < 2 ^ 24
      rw [advanced_msgLength, hLength]
      exact h.length
    · change self.takeExtended.payload.length < 2 ^ 24
      rw [hPayload]
      exact h.payload
    · change ∀ csid header, self.takeExtended.chunkMessageHeaders.lookup csid = some header → _
      unfold takeExtended
      split <;> exact h.cached

theorem readMessagePayload_bounded {self : ChunkUnpacketizer} (h : Bounded self) :
    Bounded (stateOf (readMessagePayload self)) := by
  rw [readMessagePayload_eq]
  split
  · exact h
  · split
    · exact h
    · split
      · refine ⟨h.length, Nat.two_pow_pos 24, fun csid header hLookup => ?_⟩
        change (self.chunkMessageHeaders.insert self.currentChunkInfo.basicHeader.chunkStreamId
          self.header).lookup csid = some header at hLookup
        by_cases hCsid : csid = self.currentChunkInfo.basicHeader.chunkStreamId
        · subst hCsid
          rw [AList.lookup_insert] at hLookup
          cases hLookup
          exact h.length
        · rw [AList.lookup_insert_ne hCsid] at hLookup
          exact h.cached csid header hLookup
      · refine ⟨h.length, ?_, h.cached⟩
        change (self.payload ++ self.buffer.take self.needReadLength).length < 2 ^ 24
        have hNeed := needReadLength_le self
        have hLength := h.length
        rw [List.length_append, List.length_take]
        omega

theorem readChunkTurn_bounded {self : ChunkUnpacketizer} (result : UnpackResult)
    (h : Bounded self) : Bounded (stateOf (readChunkTurn result self)) := by
  rw [stateOf_readChunkTurn]
  cases self.chunkReadState with
  | readBasicHeader => exact readBasicHeader_bounded h
  | readMessageHeader => exact readMessageHeader_bounded h
  | readExtendedTimestamp => exact readExtendedTimestamp_bounded h
  | readMessagePayload => exact readMessagePayload_bounded h
  | finish => exact ⟨h.length, h.payload, h.cached⟩

/-! ### The states that a session's reading comes to -/

/-- What the machine leaves after a step: the reader after a turn, perhaps with another chunk
size. -/
theorem chunkPump_goes {result result' : UnpackResult} {self self' : ChunkUnpacketizer}
    {out : List ChunkInfo} (h : chunkPump.step (result, self) = .goes out (result', self')) :
    ∃ n, self' = (stateOf (readChunkTurn result self)).updateMaxChunkSize n := by
  cases hTurn : readChunkTurn result self with
  | ok turn s =>
    simp only [chunkPump, hTurn] at h
    cases turn with
    | again r =>
      cases h
      exact ⟨self'.maxChunkSize, rfl⟩
    | done r =>
      cases r <;> simp only [afterChunk, afterChunks] at h
      case chunkInfo chunkInfo =>
        split at h
        · rename_i hSizes
          cases h
          exact applyChunkSizes_eq hSizes
        · cases h
      all_goals
        cases h
        exact ⟨self'.maxChunkSize, rfl⟩
  | error e s =>
    simp only [chunkPump, hTurn] at h
    by_cases he : e.Waits
    · rw [afterChunk_waits s he] at h
      cases h
    · obtain ⟨ending, -, hEnding⟩ := afterChunk_fault he
      rw [hEnding] at h
      cases h

theorem chunkPump_step_waits {result result' : UnpackResult} {self self' : ChunkUnpacketizer}
    (h : chunkPump.step (result, self) = .waits (result', self')) :
    self' = stateOf (readChunkTurn result self) := by
  cases hTurn : readChunkTurn result self with
  | ok turn s =>
    simp only [chunkPump, hTurn] at h
    cases turn with
    | again r => cases h
    | done r =>
      cases r <;> simp only [afterChunk, afterChunks] at h
      case chunkInfo chunkInfo => split at h <;> cases h
      all_goals cases h
  | error e s =>
    simp only [chunkPump, hTurn] at h
    by_cases he : e.Waits
    · rw [afterChunk_waits s he] at h
      cases h
      rfl
    · obtain ⟨ending, -, hEnding⟩ := afterChunk_fault he
      rw [hEnding] at h
      cases h

/-- While pieces are delivered, the reader's lengths are bounded and its place is in order. -/
theorem readsIn_bounded (pieces : List (List UInt8)) :
    ReadsIn (fun r => HeaderPlace r ∧ Bounded r) pieces := by
  refine Pump.Fed.invariant (P := fun _ => True) (fun t d ht => ?_) (fun t out t' ht _ hStep => ?_)
    (fun t t' ht _ hStep => ?_) ⟨headerPlace_new, bounded_new⟩ (Pump.fed_true pieces _)
  · exact ⟨⟨ht.1.outside, ht.1.format1, ht.1.format23⟩,
      ⟨ht.2.length, ht.2.payload, ht.2.cached⟩⟩
  · obtain ⟨n, hState⟩ := chunkPump_goes hStep
    have hPlace := readChunkTurn_headerPlace t.1 ht.1
    have hBounded := readChunkTurn_bounded t.1 ht.2
    rw [hState]
    exact ⟨⟨hPlace.outside, hPlace.format1, hPlace.format23⟩,
      ⟨hBounded.length, hBounded.payload, hBounded.cached⟩⟩
  · rw [chunkPump_step_waits hStep]
    exact ⟨readChunkTurn_headerPlace t.1 ht.1, readChunkTurn_bounded t.1 ht.2⟩

/-! ### The reader that lost a header -/

/-- A reader with an empty buffer waits for a basic header. -/
theorem chunkPump_empty {r : ChunkUnpacketizer} (result : UnpackResult)
    (hState : r.chunkReadState = .readBasicHeader) (h : r.buffer = []) :
    chunkPump.step (result, r) = .waits (.empty, r) := by
  have hTurn : readChunkTurn result r = .error .notEnoughBytes r :=
    readChunkTurn_basicHeader_error hState (readBasicHeader_nil h)
  simp only [chunkPump, hTurn]
  exact afterChunk_waits r notEnoughBytes_waits

/-- A header that is cut leaves an empty buffer to a reader that waits for the next header. -/
theorem chunkPump_lost {self : ChunkUnpacketizer} {byte : UInt8} {rest : List UInt8}
    (result : UnpackResult) (hState : self.chunkReadState = .readBasicHeader)
    (hBuffer : self.buffer = byte :: rest) (hTail : rest.length < basicHeaderTail byte) :
    chunkPump.run (result, self) = ([], none, (.empty, self.setReader ⟨[]⟩)) := by
  rcases readBasicHeader_cut hBuffer hTail with ⟨hCut, rfl⟩ | hCut
  · have hStep := chunkPump_again (readChunkTurn_basicHeader (a := result) hState hCut)
    have hWaits := chunkPump_empty (r := self.setReader ⟨[]⟩) .notEnoughBytes hState rfl
    rw [Pump.run_goes hStep, Pump.run_waits hWaits]
    rfl
  · have hTurn : readChunkTurn result self = .error .notEnoughBytes (self.setReader ⟨[]⟩) :=
      readChunkTurn_basicHeader_error hState hCut
    have hStep : chunkPump.step (result, self) = .waits (.empty, self.setReader ⟨[]⟩) := by
      simp only [chunkPump, hTurn]
      exact afterChunk_waits _ notEnoughBytes_waits
    exact Pump.run_waits hStep

/-- The head of a message of `length` bytes on a chunk stream. -/
def tellingHead (csid length : UInt32) : ChunkHead where
  format := 0
  csid := csid
  first := 0
  header := .new 0 length 8 0
  extended := 0

/-- The fields of that head. -/
def tellingFields (length : UInt32) : List UInt8 := messageHeaderBytes 0 0 (.new 0 length 8 0)

theorem length_tellingFields (length : UInt32) : 2 ≤ (tellingFields length).length := by
  simp only [tellingFields, messageHeaderBytes, if_true, List.length_append,
    ByteOrder.length_encode]
  omega

/-- The reader after that head. -/
theorem tellingHead_read {self : ChunkUnpacketizer} (csid length : UInt32) :
    ((tellingHead csid length).read self []).buffer = [] ∧
      ((tellingHead csid length).read self []).payload = self.payload ∧
      ((tellingHead csid length).read self []).header.msgLength = length ∧
      ((tellingHead csid length).read self []).header.msgTypeId = 8 ∧
      ((tellingHead csid length).read self []).currentChunkInfo.basicHeader.chunkStreamId =
        csid := by
  have hBuffer := begun_buffer (self.setReader ⟨[]⟩) 0 csid
  have hPayload := begun_payload (self.setReader ⟨[]⟩) 0 csid
  exact ⟨hBuffer, hPayload, rfl, rfl, rfl⟩

/-- A state in which no header is given up and no payload is read is calm. -/
theorem calm_of_state {r : ChunkUnpacketizer} (hHeader : r.chunkReadState ≠ .readBasicHeader)
    (hPayload : r.chunkReadState ≠ .readMessagePayload) : r.Calm :=
  ⟨fun h => hPayload h.1, fun h => absurd h hHeader⟩

theorem calm_of_header {r : ChunkUnpacketizer} (hState : r.chunkReadState = .readBasicHeader)
    (h : ∀ byte rest, r.buffer = byte :: rest →
      ¬r.GivesUp (basicHeaderFormat byte) (basicHeaderCsid byte rest)) : r.Calm :=
  ⟨fun hUnder => (nomatch hState.symm.trans hUnder.1), fun _ byte rest hCons _ => h byte rest hCons⟩

theorem calm_of_payload {self : ChunkUnpacketizer}
    (hState : self.chunkReadState = .readMessagePayload)
    (h : self.payload.length ≤ self.header.msgLength.toNat) : self.Calm :=
  ⟨fun hUnder => absurd h (Nat.not_le_of_lt hUnder.2), fun hNot => (nomatch hState.symm.trans hNot)⟩

/-- A message that ends where the payload received does is read whatever came before it. -/
theorem chunkPump_telling {r : ChunkUnpacketizer} {csid : UInt8} {length : UInt32}
    (hState : r.chunkReadState = .readBasicHeader)
    (hField : r.msgHeaderReadState = .readTimeStamp) (hLow : 2 ≤ csid) (hHigh : csid < 64)
    (hPayload : r.payload.length = length.toNat) (hLength : length.toNat < 2 ^ 24)
    (h : r.buffer = csid :: tellingFields length) :
    ∃ chunkInfo state, chunkPump.run (.empty, r) = ([chunkInfo], none, state) ∧
      chunkInfo.basicHeader.chunkStreamId = csid.toUInt32 ∧
      ∀ t, chunkPump.Passes (.empty, r) t → t.2.Calm := by
  have hByte : (0 : UInt8) <<< 6 ||| csid = csid := by simp
  have hBasic := isBasicHeader_one (k := 0) (by decide) hLow hHigh
  rw [hByte] at hBasic
  have hGoesOn : ¬r.GivesUp 0 csid.toUInt32 := fun hGivesUp => hGivesUp.2.2.1 rfl
  have hBytes : r.buffer = (tellingHead csid.toUInt32 length).bytes r [csid] ++ [] := by
    rw [h, List.append_nil]
    exact congrArg (csid :: ·) (List.append_nil _).symm
  obtain ⟨result1, s1, s2, h1, hState1, h2, hState2, h3⟩ :=
    head_turns (c := tellingHead csid.toUInt32 length) .empty hState hField (.inl rfl)
      (Nat.two_pow_pos 24) hLength hBasic hGoesOn hBytes
  obtain ⟨hRest, hKept, hNeeded, hType, hCsid⟩ :=
    tellingHead_read csid.toUInt32 length
  generalize hHead : (tellingHead csid.toUInt32 length).read r [] = s3 at *
  have hState3 : s3.chunkReadState = .readMessagePayload := by
    rw [← hHead]
    rfl
  have h4 := readChunkTurn_last (d := []) .success hState3
    (Nat.zero_le _) (by rw [hKept, hNeeded, hPayload]; rfl) hRest
  generalize hLast : s3.received [] [] = s4 at h4
  have hInfo : s4.currentChunkInfo.messageHeader.msgTypeId ≠ SET_CHUNK_SIZE := by
    rw [← hLast]
    exact fun hSame => absurd (hType.symm.trans hSame) (by decide)
  have h5 := readChunkTurn_finish (r := s4.finishMessage)
    (a := .chunkInfo s4.currentChunkInfo) rfl
  have hStep1 := chunkPump_again h1
  have hStep2 := chunkPump_again h2
  have hStep3 := chunkPump_again h3
  have hStep4 := chunkPump_again h4
  have hStep5 : chunkPump.step (.chunkInfo s4.currentChunkInfo, s4.finishMessage) =
      .goes [s4.currentChunkInfo] (.empty, s4.finishMessage.setChunkReadState .readBasicHeader) := by
    simp only [chunkPump, h5, afterChunk, afterChunks, applyChunkSizes, if_neg hInfo]
  have hEmpty : (s4.finishMessage.setChunkReadState .readBasicHeader).buffer = [] := by
    rw [← hLast]
    rfl
  have hStep6 := chunkPump_empty .empty rfl hEmpty
  refine ⟨s4.currentChunkInfo, (.empty, s4.finishMessage.setChunkReadState .readBasicHeader),
    ?_, ?_, ?_⟩
  · rw [Pump.run_goes hStep1, Pump.run_goes hStep2, Pump.run_goes hStep3, Pump.run_goes hStep4,
      Pump.run_goes hStep5, Pump.run_waits hStep6]
    rfl
  · rw [← hLast]
    exact hCsid
  · have hFormat := (basicHeaderByte (k := 0) (by decide) hHigh).2
    rw [hByte] at hFormat
    have hCalm1 : r.Calm := calm_of_header hState fun byte rest hCons hGivesUp => by
      rw [h] at hCons
      cases hCons
      exact hGivesUp.2.2.1 hFormat
    have hCalm2 := calm_of_state (by rw [hState1]; decide) (by rw [hState1]; decide)
    have hCalm3 := calm_of_state (by rw [hState2]; decide) (by rw [hState2]; decide)
    have hCalm4 := calm_of_payload hState3 (by rw [hKept, hNeeded, hPayload])
    have hCalm5 := calm_of_state (r := s4.finishMessage) (by rintro ⟨⟩) (by rintro ⟨⟩)
    have hCalm6 := calm_of_header rfl fun byte rest hCons => by
      rw [hEmpty] at hCons
      cases hCons
    exact Pump.passes_goes hStep1 hCalm1 (Pump.passes_goes hStep2 hCalm2 (Pump.passes_goes hStep3
      hCalm3 (Pump.passes_goes hStep4 hCalm4 (Pump.passes_goes hStep5 hCalm5
        (Pump.passes_end (by rw [hStep6]; rintro out s' ⟨⟩) hCalm6)))))

/-! ### The reader that has the whole header -/

/-- No message at hand, and none that the bytes to come could begin, is on a chunk stream. -/
structure Avoids (csid : UInt8) (state : UnpackResult × ChunkUnpacketizer) : Prop where
  current : state.2.currentChunkInfo.basicHeader.chunkStreamId ≠ csid.toUInt32
  coming : ∀ byte ∈ state.2.buffer, byte &&& 0b00111111 ≠ csid
  carried : ∀ chunkInfo, state.1 = .chunkInfo chunkInfo →
    chunkInfo.basicHeader.chunkStreamId ≠ csid.toUInt32

/-- The chunk stream ids of two and three bytes begin at 64. -/
theorem le_basicHeaderCsid {b : UInt8} (tail : List UInt8) (h : 0 < basicHeaderTail b) :
    64 ≤ (basicHeaderCsid b tail).toNat := by
  unfold basicHeaderTail at h
  unfold basicHeaderCsid
  have hLow := (BytesReader.decodeU8 (tail.take 1)).toNat_lt
  have hHigh := (BytesReader.decodeU8 ((tail.drop 1).take 1)).toNat_lt
  by_cases h0 : b &&& 0b00111111 = 0
  · rw [if_pos h0]
    simp only [UInt32.toNat_add, UInt8.toNat_toUInt32, UInt32.toNat_ofNat]
    omega
  · rw [if_neg h0] at h ⊢
    by_cases h1 : b &&& 0b00111111 = 1
    · rw [if_pos h1]
      simp only [UInt32.toNat_add, UInt32.toNat_mul, UInt8.toNat_toUInt32, UInt32.toNat_ofNat]
      omega
    · rw [if_neg h1] at h
      exact absurd h (lt_irrefl 0)

theorem basicHeaderCsid_ne {byte csid : UInt8} (tail : List UInt8) (hHigh : csid < 64)
    (h : byte &&& 0b00111111 ≠ csid) : basicHeaderCsid byte tail ≠ csid.toUInt32 := by
  intro hSame
  rcases Nat.eq_zero_or_pos (basicHeaderTail byte) with hTail | hTail
  · unfold basicHeaderTail at hTail
    unfold basicHeaderCsid at hSame
    split at hTail
    · exact absurd hTail (by decide)
    · rename_i h0
      split at hTail
      · exact absurd hTail (by decide)
      · rename_i h1
        rw [if_neg h0, if_neg h1] at hSame
        exact h (UInt8.toUInt32_inj.mp hSame)
  · have hLe := le_basicHeaderCsid tail hTail
    have hLt : csid.toNat < 64 := UInt8.lt_iff_toNat_lt.mp hHigh
    rw [hSame, UInt8.toNat_toUInt32] at hLe
    omega

section Avoids

variable {csid : UInt8} {result result' : UnpackResult} {self self' : ChunkUnpacketizer}

/-- What keeps the chunk stream and only takes bytes keeps away from another chunk stream. -/
theorem Avoids.of_taken (h : Avoids csid (result, self)) (hTaken : self'.buffer <:+ self.buffer)
    (hCsid : self'.currentChunkInfo.basicHeader = self.currentChunkInfo.basicHeader)
    (hResult : ∀ chunkInfo, result' ≠ .chunkInfo chunkInfo) : Avoids csid (result', self') where
  current := by
    change self'.currentChunkInfo.basicHeader.chunkStreamId ≠ _
    rw [hCsid]
    exact h.current
  coming := fun byte hByte => h.coming byte (hTaken.mem hByte)
  carried := fun chunkInfo hInfo => absurd hInfo (hResult chunkInfo)

theorem readBasicHeader_avoids (hHigh : csid < 64) (h : Avoids csid (result, self))
    (hRead : readBasicHeader self = .ok result' self') : Avoids csid (result', self') := by
  cases hBuffer : self.buffer with
  | nil =>
    rw [readBasicHeader_nil hBuffer] at hRead
    cases hRead
  | cons byte rest =>
    by_cases hTail : basicHeaderTail byte ≤ rest.length
    · by_cases hGivesUp : self.GivesUp (basicHeaderFormat byte) (basicHeaderCsid byte rest)
      · rw [readBasicHeader_givesUp hBuffer hTail hGivesUp] at hRead
        cases hRead
      · rw [readBasicHeader_whole hBuffer hTail hGivesUp] at hRead
        cases hRead
        refine ⟨?_, fun b hb => ?_, nofun⟩
        · exact basicHeaderCsid_ne rest hHigh (h.coming byte (by simp only [hBuffer, List.mem_cons,
            true_or]))
        · change b ∈ (begun _ _ _).buffer at hb
          rw [begun_buffer] at hb
          exact h.coming b (by rw [hBuffer]; exact List.mem_cons_of_mem _ (List.mem_of_mem_drop hb))
    · rcases readBasicHeader_cut hBuffer (Nat.lt_of_not_le hTail) with ⟨hCut, -⟩ | hCut <;>
        rw [hCut] at hRead <;> cases hRead
      exact h.of_taken (by rw [hBuffer]; exact List.suffix_cons _ _) rfl nofun

theorem readMessageHeader_avoids (h : Avoids csid (result, self))
    (hRead : readMessageHeader self = .ok result' self') : Avoids csid (result', self') := by
  obtain ⟨hFrame, -, rfl⟩ := readMessageHeader_ok hRead
  exact h.of_taken hFrame.taken hFrame.basicHeader nofun

theorem readExtendedTimestamp_avoids (h : Avoids csid (result, self))
    (hRead : readExtendedTimestamp self = .ok result' self') : Avoids csid (result', self') := by
  obtain ⟨hFrame, -, rfl⟩ := readExtendedTimestamp_ok hRead
  exact h.of_taken hFrame.taken hFrame.basicHeader nofun

theorem readMessagePayload_avoids (h : Avoids csid (result, self))
    (hRead : readMessagePayload self = .ok result' self') : Avoids csid (result', self') := by
  obtain ⟨hTaken, -⟩ := readMessagePayload_ok hRead
  rw [readMessagePayload_eq] at hRead
  split at hRead
  · cases hRead
  · split at hRead
    · cases hRead
    · split at hRead <;> cases hRead
      · refine ⟨h.current, fun byte hByte => h.coming byte (hTaken.mem hByte), fun chunkInfo hInfo => ?_⟩
        cases hInfo
        exact h.current
      · exact h.of_taken hTaken rfl nofun

/-- A turn keeps away from a chunk stream that no byte to come begins. -/
theorem readChunkTurn_avoids {turn : Turn UnpackResult UnpackResult} (hHigh : csid < 64)
    (h : Avoids csid (result, self)) (hTurn : readChunkTurn result self = .ok turn self') :
    ∃ result', (turn = .again result' ∨ turn = .done result') ∧ Avoids csid (result', self') := by
  unfold readChunkTurn at hTurn
  rw [bind_get] at hTurn
  cases hState : self.chunkReadState <;> simp only [hState] at hTurn
  case readBasicHeader =>
    obtain ⟨a, s, hRead, hEnd⟩ := bind_eq_ok hTurn
    cases hEnd
    exact ⟨a, .inl rfl, readBasicHeader_avoids hHigh h hRead⟩
  case readMessageHeader =>
    obtain ⟨a, s, hRead, hEnd⟩ := bind_eq_ok hTurn
    cases hEnd
    exact ⟨a, .inl rfl, readMessageHeader_avoids h hRead⟩
  case readExtendedTimestamp =>
    obtain ⟨a, s, hRead, hEnd⟩ := bind_eq_ok hTurn
    cases hEnd
    exact ⟨a, .inl rfl, readExtendedTimestamp_avoids h hRead⟩
  case readMessagePayload =>
    obtain ⟨a, s, hRead, hEnd⟩ := bind_eq_ok hTurn
    cases hEnd
    exact ⟨a, .inl rfl, readMessagePayload_avoids h hRead⟩
  case finish =>
    cases hTurn
    exact ⟨result, .inr rfl, h.current, h.coming, h.carried⟩

/-- At the end of a call of `read_chunk` only the message that it gave is put out. -/
theorem afterChunk_out {out : List ChunkInfo} {state : UnpackResult × ChunkUnpacketizer}
    (h : afterChunk (.ok result self) = .goes out state ∨
      ∃ ending, afterChunk (.ok result self) = .stops out ending state) :
    (∀ chunkInfo ∈ out, result = .chunkInfo chunkInfo) ∧
      state.1 = .empty ∧ ∃ n, state.2 = self.updateMaxChunkSize n := by
  have key : afterChunk (.ok result self) = .goes [] (.empty, self) ∨
      ∃ chunkInfo, result = .chunkInfo chunkInfo ∧
        afterChunk (.ok result self) = afterChunks [chunkInfo] self := by
    cases result with
    | chunkInfo chunkInfo => exact .inr ⟨chunkInfo, rfl, rfl⟩
    | _ => exact .inl rfl
  rcases key with hGoes | ⟨chunkInfo, rfl, hAfter⟩
  · rw [hGoes] at h
    rcases h with h | ⟨ending, h⟩ <;> cases h
    exact ⟨nofun, rfl, self.maxChunkSize, rfl⟩
  · rw [hAfter] at h
    unfold afterChunks at h
    split at h
    · rename_i hSizes
      obtain ⟨n, rfl⟩ := applyChunkSizes_eq hSizes
      rcases h with h | ⟨ending, h⟩ <;> cases h
      exact ⟨fun _ hMem => by rw [List.mem_singleton.mp hMem], rfl, n, rfl⟩
    · rcases h with h | ⟨ending, h⟩ <;> cases h
      exact ⟨fun _ hMem => by rw [List.mem_singleton.mp hMem], rfl, self.maxChunkSize, rfl⟩

/-- All that is put out keeps away from the chunk stream. -/
theorem chunkPump_avoids {state : UnpackResult × ChunkUnpacketizer} (hHigh : csid < 64)
    (h : Avoids csid state) : ∀ chunkInfo ∈ (chunkPump.run state).1,
      chunkInfo.basicHeader.chunkStreamId ≠ csid.toUInt32 := by
  refine Pump.run_out (I := Avoids csid) (fun t out t' ht hStep => ?_)
    (fun t out ending t' ht hStep => ?_) state h
  · obtain ⟨result, self⟩ := t
    cases hTurn : readChunkTurn result self with
    | ok turn s =>
      obtain ⟨result', hResult, hNext⟩ := readChunkTurn_avoids hHigh ht hTurn
      simp only [chunkPump, hTurn] at hStep
      rcases hResult with rfl | rfl
      · cases hStep
        exact ⟨by rintro chunkInfo ⟨⟩, hNext⟩
      · obtain ⟨hOut, hEmpty, n, hState⟩ := afterChunk_out (.inl hStep)
        refine ⟨fun chunkInfo hMem => hNext.carried chunkInfo (hOut chunkInfo hMem), ?_, ?_, ?_⟩
        · rw [hState]
          exact hNext.current
        · rw [hState]
          exact hNext.coming
        · rw [hEmpty]
          rintro chunkInfo ⟨⟩
    | error e s =>
      simp only [chunkPump, hTurn] at hStep
      by_cases he : e.Waits
      · rw [afterChunk_waits s he] at hStep
        cases hStep
      · obtain ⟨ending, -, hEnding⟩ := afterChunk_fault he
        rw [hEnding] at hStep
        cases hStep
  · obtain ⟨result, self⟩ := t
    cases hTurn : readChunkTurn result self with
    | ok turn s =>
      obtain ⟨result', hResult, hNext⟩ := readChunkTurn_avoids hHigh ht hTurn
      simp only [chunkPump, hTurn] at hStep
      rcases hResult with rfl | rfl
      · cases hStep
      · obtain ⟨hOut, -⟩ := afterChunk_out (.inr ⟨ending, hStep⟩)
        exact fun chunkInfo hMem => hNext.carried chunkInfo (hOut chunkInfo hMem)
    | error e s =>
      simp only [chunkPump, hTurn] at hStep
      by_cases he : e.Waits
      · rw [afterChunk_waits s he] at hStep
        cases hStep
      · obtain ⟨ending', -, hEnding⟩ := afterChunk_fault he
        rw [hEnding] at hStep
        cases hStep
        rintro chunkInfo ⟨⟩

end Avoids

theorem basicHeaderTail_le (byte : UInt8) : basicHeaderTail byte ≤ 2 := by
  unfold basicHeaderTail
  split
  · exact Nat.one_le_ofNat
  · split
    · exact le_refl 2
    · exact Nat.zero_le 2

/-- A byte that begins a chunk on a stream that the fields of the telling head do not begin. -/
theorem exists_telling (length : UInt32) :
    ∃ csid : UInt8, 2 ≤ csid ∧ csid < 64 ∧
      ∀ byte ∈ tellingFields length, byte &&& 0b00111111 ≠ csid := by
  obtain ⟨x, y, z, hBytes⟩ : ∃ x y z, u24Bytes length = [x, y, z] := ⟨_, _, _, rfl⟩
  have hFields : tellingFields length = [0, 0, 0] ++ ([x, y, z] ++ [8, 0, 0, 0, 0]) := by
    have hZero : u24Bytes 0 = [0, 0, 0] := by decide
    have hStream : ByteOrder.littleEndian.encode 4 0 = [0, 0, 0, 0] := by decide
    rw [← hBytes, tellingFields, messageHeaderBytes, if_pos rfl, hZero]
    exact congrArg (fun bytes => [0, 0, 0] ++ (u24Bytes length ++ ([8] ++ bytes))) hStream
  obtain ⟨csid, hCsid, hFree⟩ := Finset.exists_mem_notMem_of_card_lt_card
    (lt_of_le_of_lt (Finset.card_le_three (a := x &&& 63) (b := y &&& 63) (c := z &&& 63))
      (by decide : 3 < ({2, 3, 4, 5} : Finset UInt8).card))
  simp only [Finset.mem_insert, Finset.mem_singleton] at hCsid hFree
  push Not at hFree
  rw [hFields]
  refine ⟨csid, ?_, ?_, ?_⟩
  · rcases hCsid with rfl | rfl | rfl | rfl <;> decide
  · rcases hCsid with rfl | rfl | rfl | rfl <;> decide
  · simp only [List.cons_append, List.nil_append, List.mem_cons, List.not_mem_nil, or_false,
      forall_eq_or_imp, forall_eq]
    refine ⟨?_, ?_, ?_, hFree.1.symm, hFree.2.1.symm, hFree.2.2.symm, ?_⟩ <;>
      rcases hCsid with rfl | rfl | rfl | rfl <;> decide

/-- The reader that has the whole header takes the first byte of the telling bytes for the end of
it, and reads nothing on their chunk stream. -/
theorem chunkPump_whole {self : ChunkUnpacketizer} {byte csid : UInt8} {rest more : List UInt8}
    (result : UnpackResult) (hState : self.chunkReadState = .readBasicHeader)
    (hBuffer : self.buffer = byte :: rest) (hTail : rest.length < basicHeaderTail byte)
    (hHigh : csid < 64) (hMore : ∀ b ∈ more, b &&& 0b00111111 ≠ csid) (hLong : 2 ≤ more.length) :
    ∀ chunkInfo ∈ (chunkPump.run (pumpExtend (result, self) (csid :: more))).1,
      chunkInfo.basicHeader.chunkStreamId ≠ csid.toUInt32 := by
  have hBytes : (self.extendData (csid :: more)).buffer = byte :: (rest ++ csid :: more) := by
    change self.buffer ++ _ = _
    rw [hBuffer, List.cons_append]
  have hWide := basicHeaderTail_le byte
  have hWhole : basicHeaderTail byte ≤ (rest ++ csid :: more).length := by
    rw [List.length_append, List.length_cons]
    omega
  have hTaken : (rest ++ csid :: more).drop (basicHeaderTail byte) <:+ more := by
    have hSplit : rest ++ csid :: more = (rest ++ [csid]) ++ more := by
      rw [List.append_assoc, List.singleton_append]
    rw [hSplit, List.drop_append]
    rw [List.drop_eq_nil_of_le (by rw [List.length_append]; exact hTail)]
    exact List.drop_suffix _ _
  have hOther : basicHeaderCsid byte (rest ++ csid :: more) ≠ csid.toUInt32 := by
    intro hSame
    have hLe := le_basicHeaderCsid (b := byte) (rest ++ csid :: more) (by omega)
    have hLt : csid.toNat < 64 := UInt8.lt_iff_toNat_lt.mp hHigh
    rw [hSame, UInt8.toNat_toUInt32] at hLe
    omega
  by_cases hGivesUp : (self.extendData (csid :: more)).GivesUp (basicHeaderFormat byte)
      (basicHeaderCsid byte (rest ++ csid :: more))
  · have hRead := readBasicHeader_givesUp hBytes hWhole hGivesUp
    have hTurn : readChunkTurn result (self.extendData (csid :: more)) =
        .error (.error .cannotParse) ((self.extendData (csid :: more)).setReader
          ⟨(rest ++ csid :: more).drop (basicHeaderTail byte)⟩) :=
      readChunkTurn_basicHeader_error hState hRead
    have hStep : chunkPump.step (result, self.extendData (csid :: more)) = .stops [] .cannotParse
        (.empty, (self.extendData (csid :: more)).setReader
          ⟨(rest ++ csid :: more).drop (basicHeaderTail byte)⟩) := by
      simp only [chunkPump, hTurn, afterChunk]
    rw [pumpExtend, Pump.run_stops hStep]
    rintro chunkInfo ⟨⟩
  · have hRead := readBasicHeader_whole hBytes hWhole hGivesUp
    have hTurn := readChunkTurn_basicHeader (r := self.extendData (csid :: more))
      (a := result) hState hRead
    rw [pumpExtend, Pump.run_goes (chunkPump_again hTurn)]
    refine chunkPump_avoids hHigh ⟨hOther, fun b hb => ?_, by rintro chunkInfo ⟨⟩⟩
    change b ∈ (begun _ _ _).buffer at hb
    rw [begun_buffer] at hb
    exact hMore b (hTaken.mem hb)

/-! ### Pieces and the whole -/

/-- A session reads no more than the machine puts out. -/
theorem deliver_whole_prefix (data : List UInt8) :
    (deliver .new [data]).1 <+: (chunkPump.run (pumpExtend (.empty, .new) data)).1 := by
  obtain ⟨⟨found, hFound, hPrefix⟩, -⟩ := readParseLoop_run [] (ChunkUnpacketizer.new.extendData data)
  have hDeliver : (deliver .new [data]).1 = found := by
    unfold deliver readParseChunks
    rw [List.nil_append] at hFound
    rw [← hFound]
    split <;> simp_all [deliver]
  rw [hDeliver]
  exact hPrefix

theorem not_headerWhole {self : ChunkUnpacketizer} (h : ¬self.HeaderWhole) :
    self.chunkReadState = .readBasicHeader ∧
      ∃ byte rest, self.buffer = byte :: rest ∧ rest.length < basicHeaderTail byte := by
  unfold HeaderWhole at h
  push Not at h
  exact h

/-- A delivery that cut a basic header goes on with bytes that are read otherwise in pieces than as
a whole. -/
theorem exists_misread {pieces : List (List UInt8)} (hCalm : ReadsIn Calm pieces)
    (hCut : ¬ReadsIn HeaderWhole pieces) :
    ∃ n last, ReadsIn Calm (pieces.take n ++ [last]) ∧
      (deliver .new (pieces.take n ++ [last])).1 ≠
        (deliver .new [(pieces.take n ++ [last]).flatten]).1 := by
  obtain hFed | ⟨n, outs, ⟨result, self⟩, hBreaks⟩ := Pump.fed_or_breaks
    (P := fun state => state.2.HeaderWhole) (fun _ => chunkPump_resumable) pumpExtend_append
    pieces (.empty, .new)
  · exact absurd hFed hCut
  obtain ⟨hState, byte, rest, hBuffer, hTail⟩ := not_headerWhole hBreaks.bad
  obtain ⟨hPlace, hBounded⟩ : HeaderPlace self ∧ Bounded self :=
    hBreaks.visited _ (readsIn_bounded pieces)
  have hLength : (UInt32.ofNat self.payload.length).toNat = self.payload.length :=
    UInt32.toNat_ofNat_of_lt' (by have := hBounded.payload; rw [UInt32.size]; omega)
  generalize UInt32.ofNat self.payload.length = length at hLength
  obtain ⟨csid, hLow, hHigh, hFree⟩ := exists_telling length
  obtain ⟨chunkInfo, state, hTelling, hCsid, hCalmLast⟩ := chunkPump_telling
    (r := (self.setReader ⟨[]⟩).extendData (csid :: tellingFields length)) hState
    (hPlace.outside (by rw [hState]; rintro ⟨⟩)) hLow hHigh hLength.symm
    (by rw [hLength]; exact hBounded.payload) rfl
  have hLost := chunkPump_lost result hState hBuffer hTail
  have hLast : ReadsIn Calm (pieces.take n ++ [csid :: tellingFields length]) := by
    refine hBreaks.fed _ _ hCalm fun out t' hRun => ?_
    obtain ⟨-, rfl⟩ : out = [] ∧ t' = (.empty, self.setReader ⟨[]⟩) := by
      rw [hLost] at hRun
      cases hRun
      exact ⟨rfl, rfl⟩
    refine ⟨hCalmLast, ?_⟩
    split <;> trivial
  refine ⟨n, csid :: tellingFields length, hLast, fun hSame => ?_⟩
  have hFault := Pump.feed_why (Q := fun ending => ¬ending.Fault)
    (fun _ _ _ _ hState hStep => chunkPump_calm hState hStep) _ _ hLast
  have hPieces : (deliver .new (pieces.take n ++ [csid :: tellingFields length])).1 =
      outs ++ [chunkInfo] := by
    rw [deliver_feed _ _ hFault, hBreaks.pieces, Pump.resume, hLost]
    dsimp only
    rw [Pump.feed_singleton]
    exact congrArg (fun run => outs ++ ([] ++ run.1)) hTelling
  have hWhole := deliver_whole_prefix (pieces.take n ++ [csid :: tellingFields length]).flatten
  rw [← hSame, hPieces, List.flatten_append, List.flatten_singleton, hBreaks.whole,
    List.prefix_append_right_inj] at hWhole
  exact chunkPump_whole result hState hBuffer hTail hHigh hFree (length_tellingFields length) chunkInfo
    (hWhole.mem (List.mem_singleton_self _)) hCsid

/-- The session reads from pieces what it reads from the whole, whatever comes after them, exactly
when no piece cuts a basic header. -/
theorem deliver_flatten_iff {pieces : List (List UInt8)} (hCalm : ReadsIn Calm pieces) :
    (∀ n last, ReadsIn Calm (pieces.take n ++ [last]) →
      (deliver .new (pieces.take n ++ [last])).1 =
        (deliver .new [(pieces.take n ++ [last]).flatten]).1) ↔
      ReadsIn HeaderWhole pieces := by
  constructor
  · intro hSame
    by_contra hCut
    obtain ⟨n, last, hMore, hMisread⟩ := exists_misread hCalm hCut
    exact hMisread (hSame n last hMore)
  · intro hWhole n last hMore
    have hTake : ReadsIn HeaderWhole (pieces.take n) := by
      refine Pump.Fed.prefix (t := pieces.drop n) ?_
      rw [List.take_append_drop]
      exact hWhole
    exact deliver_flatten hMore hTake

/-- The first byte of a basic header of two bytes, with nothing behind it. -/
theorem cutByte_calm : ReadsIn Calm [[0]] := by
  have hStep : chunkPump.step (.empty, new.extendData [0]) =
      .goes [] (.notEnoughBytes, new.setReader ⟨[]⟩) := rfl
  have hWaits := chunkPump_empty (r := new.setReader ⟨[]⟩) .notEnoughBytes rfl rfl
  have hFirst : (new.extendData [0]).Calm := calm_of_header rfl fun byte rest hCons hGivesUp => by
    cases hCons
    exact hGivesUp.2.2.1 rfl
  have hEmpty : (new.setReader ⟨[]⟩).Calm := calm_of_header rfl nofun
  refine ⟨Pump.passes_goes hStep hFirst (Pump.passes_end (by rw [hWaits]; exact nofun) hEmpty), ?_⟩
  split <;> trivial

theorem deliver_flatten_iff_cutByte :
    (∀ n last, ReadsIn Calm (([[0]] : List (List UInt8)).take n ++ [last]) →
      (deliver .new (([[0]] : List (List UInt8)).take n ++ [last])).1 =
        (deliver .new [(([[0]] : List (List UInt8)).take n ++ [last]).flatten]).1) ↔
      ReadsIn HeaderWhole [[0]] :=
  deliver_flatten_iff cutByte_calm

/-- A message of one byte on chunk stream 64, whose basic header of two bytes is cut. -/
def cutHeader : List (List UInt8) := [[0], [0, 0, 0, 0, 0, 0, 1, 8, 0, 0, 0, 0, 7]]

theorem cutHeader_misread :
    (deliver .new cutHeader).1 = [] ∧
      (deliver .new [cutHeader.flatten]).1 = [.new 64 0 0 1 8 0 [7]] := by
  decide +kernel

end Xiu.Rtmp.Chunk
