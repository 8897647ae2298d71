import Xiu.Rtmp.Chunk.Payload
import Xiu.Rtmp.Chunk.Resumption

/-! Delivery of a byte string in pieces.  A session gives each piece to the chunk reader, calls
`read_chunks` until it fails, and applies the chunk sizes that it is told.  The nested loops do what
one machine does that puts out a message at a time, and that machine gives the same for every way
of cutting the bytes when no basic header is cut. -/

namespace Xiu.Rtmp.Chunk

open Bytesio ProofKit ChunkUnpacketizer

/-! ### The session's loop -/

/-- Why a session stops reading. -/
inductive Ending where
  | cannotParse
  | panic
  | shortChunkSize
  deriving DecidableEq

/-- The chunk size that a message of type 1 carries. -/
def readSetChunkSize (payload : List UInt8) : Except BytesReadErrorValue UInt32 :=
  match (⟨payload⟩ : BytesReader).readU32 .bigEndian with
  | .ok (chunkSize, _) => .ok chunkSize
  | .error err => .error err

/-- What a session does with the chunk sizes among the chunks it has read, or none where one of
them cannot be parsed. -/
def applyChunkSizes : List ChunkInfo → ChunkUnpacketizer → Option ChunkUnpacketizer
  | [], self => some self
  | chunkInfo :: chunks, self =>
    if chunkInfo.messageHeader.msgTypeId = SET_CHUNK_SIZE then
      match readSetChunkSize chunkInfo.payload with
      | .ok chunkSize => applyChunkSizes chunks (self.updateMaxChunkSize chunkSize.toNat)
      | .error _ => none
    else applyChunkSizes chunks self

/-- One turn of the loop of `read_parse_chunks` over `read_chunks`, with the chunks read so far. -/
def readParseTurn (state : List ChunkInfo × ChunkUnpacketizer) :
    Turn (List ChunkInfo × ChunkUnpacketizer) (List ChunkInfo × Option Ending × ChunkUnpacketizer) :=
  match readChunks state.2 with
  | .ok (.chunks chunks) self =>
    match applyChunkSizes chunks self with
    | some self' => .again (state.1 ++ chunks, self')
    | none => .done (state.1 ++ chunks, some .shortChunkSize, self)
  | .ok _ self => .again (state.1, self)
  | .error (.error .cannotParse) self => .done (state.1, some .cannotParse, self)
  | .error .panic self => .done (state.1, some .panic, self)
  | .error _ self => .done (state.1, none, self)


/-- The chunk sizes applied change nothing else. -/
theorem applyChunkSizes_eq {chunks : List ChunkInfo} {self self' : ChunkUnpacketizer}
    (h : applyChunkSizes chunks self = some self') : ∃ n, self' = self.updateMaxChunkSize n := by
  induction chunks generalizing self with
  | nil => exact ⟨self.maxChunkSize, (Option.some.inj h).symm⟩
  | cons chunkInfo chunks ih =>
    unfold applyChunkSizes at h
    split at h
    · split at h
      · obtain ⟨n, rfl⟩ := ih h
        exact ⟨n, rfl⟩
      · cases h
    · exact ih h

theorem applyChunkSizes_extend (chunks : List ChunkInfo) (self : ChunkUnpacketizer)
    (d : List UInt8) : applyChunkSizes chunks (self.extendData d) =
      (applyChunkSizes chunks self).map (·.extendData d) := by
  induction chunks generalizing self with
  | nil => rfl
  | cons chunkInfo chunks ih =>
    unfold applyChunkSizes
    split
    · split
      · rename_i chunkSize _
        exact ih (self.updateMaxChunkSize chunkSize.toNat)
      · rfl
    · exact ih self

/-- The loop of `read_parse_chunks` over `read_chunks`. -/
def readParseLoop : Loop (List ChunkInfo × ChunkUnpacketizer)
    (List ChunkInfo × Option Ending × ChunkUnpacketizer) where
  body := readParseTurn
  measure := fun state => state.2.unread
  decreases := fun state state' h => by
    unfold readParseTurn at h
    cases hRead : readChunks state.2 with
    | ok result s =>
      obtain ⟨chunks, rfl, hChunks, hCollect⟩ := readChunks_ok hRead
      have hLess := collectChunks_ok hCollect hChunks
      rw [hRead] at h
      dsimp only at h
      split at h
      · rename_i s' hApply
        obtain ⟨n, rfl⟩ := applyChunkSizes_eq hApply
        cases h
        exact hLess
      · cases h
    | error e s =>
      rw [hRead] at h
      split at h <;> simp_all

/-- What a session reads when a piece has arrived, why it ends if it does, and the reader left. -/
def readParseChunks (self : ChunkUnpacketizer) :
    List ChunkInfo × Option Ending × ChunkUnpacketizer :=
  readParseLoop.run ([], self)

/-- What a session reads from pieces that arrive one after the other. -/
def deliver : ChunkUnpacketizer → List (List UInt8) →
    List ChunkInfo × Option Ending × ChunkUnpacketizer
  | self, [] => ([], none, self)
  | self, piece :: pieces =>
    match readParseChunks (self.extendData piece) with
    | (chunks, none, self') =>
      (chunks ++ (deliver self' pieces).1, (deliver self' pieces).2)
    | (chunks, some ending, self') => (chunks, some ending, self')

/-! ### A message at a time -/

/-- What a session does with chunks that it has read. -/
def afterChunks (chunks : List ChunkInfo) (self : ChunkUnpacketizer) :
    PumpStep (UnpackResult × ChunkUnpacketizer) ChunkInfo Ending :=
  match applyChunkSizes chunks self with
  | some self' => .goes chunks (.empty, self')
  | none => .stops chunks .shortChunkSize (.empty, self)

/-- What a session does at the end of a call of `read_chunk`. -/
def afterChunk : EStateM.Result UnpackFault ChunkUnpacketizer UnpackResult →
    PumpStep (UnpackResult × ChunkUnpacketizer) ChunkInfo Ending
  | .ok (.chunkInfo chunkInfo) self => afterChunks [chunkInfo] self
  | .ok _ self => .goes [] (.empty, self)
  | .error (.error .cannotParse) self => .stops [] .cannotParse (.empty, self)
  | .error .panic self => .stops [] .panic (.empty, self)
  | .error _ self => .waits (.empty, self)

/-- The endings that a fault of the reader causes, and that lose what `read_chunks` had collected. -/
def Ending.Fault (ending : Ending) : Prop := ending = .cannotParse ∨ ending = .panic

theorem afterChunk_waits {e : UnpackFault} (self : ChunkUnpacketizer) (he : e.Waits) :
    afterChunk (.error e self) = .waits (.empty, self) := by
  obtain ⟨hPanic, hParse⟩ := he
  cases e with
  | error value => cases value <;> first | rfl | exact absurd rfl hParse
  | panic => exact absurd rfl hPanic

theorem afterChunk_fault {e : UnpackFault} (he : ¬e.Waits) :
    ∃ ending, ending.Fault ∧ ∀ s, afterChunk (.error e s) = .stops [] ending (.empty, s) := by
  by_cases hPanic : e = .panic
  · exact ⟨.panic, .inr rfl, fun s => by rw [hPanic]; rfl⟩
  · by_cases hParse : e = .error .cannotParse
    · exact ⟨.cannotParse, .inl rfl, fun s => by rw [hParse]; rfl⟩
    · exact absurd ⟨hPanic, hParse⟩ he

/-- The session's reading as one machine: a step is a turn of `read_chunk`. -/
def chunkPump : Pump (UnpackResult × ChunkUnpacketizer) ChunkInfo Ending where
  step := fun (result, self) =>
    match readChunkTurn result self with
    | .ok (.again result') self' => .goes [] (result', self')
    | .ok (.done result') self' => afterChunk (.ok result' self')
    | .error e self' => afterChunk (.error e self')
  measure := fun (_, self) => self.unread
  decreases := fun (result, self) out (result', self') h => by
    dsimp only at h ⊢
    split at h
    · rename_i hTurn
      cases h
      exact readChunkTurn_ok hTurn
    · rename_i s hTurn
      have hLess := readChunkTurn_ok hTurn
      unfold afterChunk at h
      split at h
      · rename_i hOk
        obtain ⟨rfl, rfl⟩ := EStateM.Result.ok.inj hOk
        unfold afterChunks at h
        split at h
        · rename_i hApply
          obtain ⟨n, rfl⟩ := applyChunkSizes_eq hApply
          cases h
          exact hLess
        · cases h
      all_goals simp_all
    · unfold afterChunk at h
      split at h <;> simp_all

theorem chunkPump_again {result result' : UnpackResult} {self self' : ChunkUnpacketizer}
    (h : readChunkTurn result self = .ok (.again result') self') :
    chunkPump.step (result, self) = .goes [] (result', self') := by
  simp only [chunkPump, h]

/-- A call of `read_chunk` is the steps of its turns. -/
theorem chunkPump_run (result : UnpackResult) (self : ChunkUnpacketizer) :
    chunkPump.run (result, self) =
      chunkPump.after (afterChunk ((loopOf readChunkTurn unread readChunkTurn_again).run
        (result, self))) := by
  change _ = chunkPump.after (afterChunk (loopM readChunkTurn unread readChunkTurn_again result self))
  induction result, self using loopM_induct readChunkTurn unread readChunkTurn_again with
  | again a s a' s' hTurn ih =>
    rw [loopM_again hTurn, ← ih]
    exact Pump.run_goes (chunkPump_again hTurn)
  | done a s b s' hTurn =>
    have hStep : chunkPump.step (a, s) = afterChunk (.ok b s') := by simp only [chunkPump, hTurn]
    rw [loopM_done hTurn, Pump.run_eq, hStep]
  | error a s e s' hTurn =>
    have hStep : chunkPump.step (a, s) = afterChunk (.error e s') := by
      simp only [chunkPump, hTurn]
    rw [loopM_error hTurn, Pump.run_eq, hStep]

/-- How the machine runs over what one call of `read_chunks` collects: up to a wait, or up to a
message that changes the chunk size. -/
inductive Collected (self : ChunkUnpacketizer) (chunks : List ChunkInfo)
    (self' : ChunkUnpacketizer) : Prop
  | waited (hRun : chunkPump.run (.empty, self) = (chunks, none, (.empty, self')))
    (hSizes : applyChunkSizes chunks self' = some self')
    (hWaits : ∃ e, e.Waits ∧ ∀ result, readChunkTurn result self' = .error e self')
  | sized (hChunks : chunks ≠ [])
    (hRun : chunkPump.run (.empty, self) = chunkPump.after (afterChunks chunks self'))

/-- A message that does not change the chunk size comes before what is collected after it. -/
theorem Collected.cons {self s self' : ChunkUnpacketizer} {chunkInfo : ChunkInfo}
    {chunks : List ChunkInfo} (hType : chunkInfo.messageHeader.msgTypeId ≠ SET_CHUNK_SIZE)
    (hRun : chunkPump.run (.empty, self) =
      ([chunkInfo] ++ (chunkPump.run (.empty, s)).1, (chunkPump.run (.empty, s)).2))
    (h : Collected s chunks self') : Collected self (chunkInfo :: chunks) self' := by
  have hApply : ∀ t, applyChunkSizes (chunkInfo :: chunks) t = applyChunkSizes chunks t :=
    fun t => by rw [applyChunkSizes, if_neg hType]
  cases h with
  | waited hRest hSizes hWaits =>
    rw [hRest] at hRun
    exact .waited hRun ((hApply self').trans hSizes) hWaits
  | sized hChunks hRest =>
    refine .sized (List.cons_ne_nil _ _) (hRun.trans ?_)
    rw [hRest]
    unfold afterChunks
    rw [hApply]
    cases applyChunkSizes chunks self' <;> rfl

/-- The machine over one call of `read_chunk`. -/
theorem chunkPump_readChunk {self : ChunkUnpacketizer}
    {result : EStateM.Result UnpackFault ChunkUnpacketizer UnpackResult}
    (h : readChunk self = result) :
    chunkPump.run (.empty, self) = chunkPump.after (afterChunk result) := by
  rw [chunkPump_run, ← h]
  rfl

/-- A message that does not change the chunk size is put out. -/
theorem chunkPump_message {self self' : ChunkUnpacketizer} {chunkInfo : ChunkInfo}
    (h : readChunk self = .ok (.chunkInfo chunkInfo) self')
    (hType : chunkInfo.messageHeader.msgTypeId ≠ SET_CHUNK_SIZE) :
    chunkPump.run (.empty, self) =
      ([chunkInfo] ++ (chunkPump.run (.empty, self')).1, (chunkPump.run (.empty, self')).2) := by
  have hApply : applyChunkSizes [chunkInfo] self' = some self' := by
    rw [applyChunkSizes, if_neg hType, applyChunkSizes]
  have hAfter : afterChunk (.ok (.chunkInfo chunkInfo) self') = .goes [chunkInfo] (.empty, self') := by
    simp only [afterChunk, afterChunks, hApply]
  rw [chunkPump_readChunk h, hAfter]
  rfl

/-- Where `read_chunk` waits, the reader waits on. -/
theorem readChunk_waits {self self' : ChunkUnpacketizer} {e : UnpackFault}
    (h : readChunk self = .error e self') (he : e.Waits) :
    ∃ e', e'.Waits ∧ ∀ result, readChunkTurn result self' = .error e' self' := by
  obtain ⟨result, s, hTurn⟩ := loopM_eq_error h
  exact readChunkTurn_waits hTurn he

/-- What a call of `read_chunks` collects is what the machine puts out. -/
theorem collectChunks_run (chunks : List ChunkInfo) (self : ChunkUnpacketizer) :
    match loopM readChunksTurn unread readChunksTurn_again chunks self with
    | .ok all self' => ∃ new, all = chunks ++ new ∧ Collected self new self'
    | .error _ _ => ∃ ending, ending.Fault ∧ (chunkPump.run (.empty, self)).2.1 = some ending := by
  induction chunks, self using loopM_induct readChunksTurn unread readChunksTurn_again with
  | again chunks s chunks' s' hTurn ih =>
    rw [loopM_again hTurn]
    unfold readChunksTurn at hTurn
    split at hTurn
    · rename_i chunkInfo s1 hRead
      dsimp only at hTurn
      split at hTurn <;> cases hTurn
      rename_i hType
      have hRun := chunkPump_message hRead hType
      split at ih
      · obtain ⟨new, rfl, hNew⟩ := ih
        exact ⟨chunkInfo :: new, List.append_assoc .., hNew.cons hType hRun⟩
      · rw [hRun]
        exact ih
    · rename_i result s1 hOther hRead
      cases hTurn
      have hRun : chunkPump.run (.empty, s) = chunkPump.run (.empty, s') := by
        have hAfter : afterChunk (.ok result s') = .goes [] (.empty, s') := by
          cases result <;> first | rfl | exact absurd rfl (hOther _)
        rw [chunkPump_readChunk hRead, hAfter]
        rfl
      split at ih
      · obtain ⟨new, rfl, hNew⟩ := ih
        refine ⟨new, rfl, ?_⟩
        cases hNew with
        | waited hRest hSizes hWaits => exact .waited (hRun.trans hRest) hSizes hWaits
        | sized hChunks hRest => exact .sized hChunks (hRun.trans hRest)
      · rw [hRun]
        exact ih
    all_goals cases hTurn
  | done chunks s all s' hTurn =>
    rw [loopM_done hTurn]
    unfold readChunksTurn at hTurn
    split at hTurn
    · rename_i chunkInfo s1 hRead
      dsimp only at hTurn
      split at hTurn <;> cases hTurn
      exact ⟨[chunkInfo], rfl, .sized (List.cons_ne_nil _ _) (chunkPump_readChunk hRead)⟩
    · cases hTurn
    · cases hTurn
    · cases hTurn
    · rename_i e s1 hParse hPanic hRead
      cases hTurn
      have he : e.Waits := ⟨hPanic, hParse⟩
      refine ⟨[], (List.append_nil _).symm, .waited ?_ rfl (readChunk_waits hRead he)⟩
      rw [chunkPump_readChunk hRead, afterChunk_waits s' he]
      rfl
  | error chunks s e s' hTurn =>
    rw [loopM_error hTurn]
    unfold readChunksTurn at hTurn
    split at hTurn
    · dsimp only at hTurn
      split at hTurn <;> cases hTurn
    · cases hTurn
    · rename_i s1 hRead
      exact ⟨.cannotParse, .inl rfl, by rw [chunkPump_readChunk hRead]; rfl⟩
    · rename_i s1 hRead
      exact ⟨.panic, .inr rfl, by rw [chunkPump_readChunk hRead]; rfl⟩
    · cases hTurn

/-- A reader that waits puts out nothing more. -/
theorem chunkPump_waits {self : ChunkUnpacketizer}
    (h : ∃ e, e.Waits ∧ ∀ result, readChunkTurn result self = .error e self) :
    chunkPump.run (.empty, self) = ([], none, (.empty, self)) := by
  obtain ⟨e, he, hTurn⟩ := h
  have hStep : chunkPump.step (.empty, self) = .waits (.empty, self) := by
    simp only [chunkPump, hTurn]
    exact afterChunk_waits self he
  exact Pump.run_waits hStep

/-- `read_chunks` fails with a fault of the reader, or because nothing is collected. -/
theorem readChunks_error {self self' : ChunkUnpacketizer} {e : UnpackFault}
    (h : readChunks self = .error e self') :
    (∃ ending, ending.Fault ∧ (chunkPump.run (.empty, self)).2.1 = some ending) ∨
      e = .error .emptyChunks ∧ chunkPump.run (.empty, self) = ([], none, (.empty, self')) := by
  have hRun := collectChunks_run [] self
  rcases bind_eq_error h with hCollect | ⟨chunks, s, hCollect, hEnd⟩
  · unfold collectChunks at hCollect
    rw [hCollect] at hRun
    exact .inl hRun
  · unfold collectChunks at hCollect
    rw [hCollect] at hRun
    obtain ⟨_, rfl, hFound⟩ := hRun
    by_cases hNil : chunks ≠ []
    · rw [if_pos hNil] at hEnd
      cases hEnd
    · rw [if_neg hNil] at hEnd
      cases hEnd
      obtain rfl : chunks = [] := not_not.mp hNil
      cases hFound with
      | waited hRest => exact .inr ⟨rfl, hRest⟩
      | sized hChunks => exact absurd rfl hChunks

/-- What the session reads from `s` with `chunks` read before: what the machine puts out, unless the
reader faults, and then the beginning of it. -/
def ReadsAsPump (chunks : List ChunkInfo) (s : ChunkUnpacketizer)
    (result : List ChunkInfo × Option Ending × ChunkUnpacketizer) : Prop :=
  (∃ found, result.1 = chunks ++ found ∧ found <+: (chunkPump.run (.empty, s)).1) ∧
    ((∀ ending, (chunkPump.run (.empty, s)).2.1 = some ending → ¬ending.Fault) →
      result = (chunks ++ (chunkPump.run (.empty, s)).1, (chunkPump.run (.empty, s)).2.1,
        (chunkPump.run (.empty, s)).2.2.2) ∧ (chunkPump.run (.empty, s)).2.2.1 = .empty)

theorem readParseLoop_run (chunks : List ChunkInfo) (self : ChunkUnpacketizer) :
    ReadsAsPump chunks self (readParseLoop.run (chunks, self)) := by
  have key : ∀ state : List ChunkInfo × ChunkUnpacketizer,
      ReadsAsPump state.1 state.2 (readParseLoop.run state) := by
    intro state
    induction state using readParseLoop.induct with
    | h state ih =>
      obtain ⟨chunks, s⟩ := state
      cases hRead : readChunks s with
      | ok result s' =>
        obtain ⟨found, rfl, hFound, hCollect⟩ := readChunks_ok hRead
        have hRun := collectChunks_run [] s
        unfold collectChunks at hCollect
        rw [hCollect] at hRun
        obtain ⟨_, rfl, hCollected⟩ := hRun
        cases hSizes : applyChunkSizes found s' with
        | some s'' =>
          have hBody : readParseLoop.body (chunks, s) = .again (chunks ++ found, s'') := by
            simp only [readParseLoop, readParseTurn, hRead, hSizes]
          rw [readParseLoop.run_again hBody]
          obtain ⟨⟨rest, hRest, hPrefix⟩, hEqual⟩ := ih _ hBody
          have hPump : chunkPump.run (.empty, s) =
              (found ++ (chunkPump.run (.empty, s'')).1, (chunkPump.run (.empty, s'')).2) := by
            cases hCollected with
            | waited hWaited hSame hWaits =>
              obtain rfl := Option.some.inj (hSame.symm.trans hSizes)
              rw [hWaited, chunkPump_waits hWaits, List.append_nil]
            | sized _ hSized =>
              rw [hSized]
              simp only [afterChunks, hSizes, Pump.after]
          refine ⟨⟨found ++ rest, ?_, ?_⟩, ?_⟩
          · rw [hRest, List.append_assoc]
          · rw [hPump]
            exact (List.prefix_append_right_inj _).mpr hPrefix
          · rw [hPump]
            intro hFault
            obtain ⟨hResult, hEmpty⟩ := hEqual hFault
            exact ⟨by rw [hResult, List.append_assoc], hEmpty⟩
        | none =>
          have hBody : readParseLoop.body (chunks, s) =
              .done (chunks ++ found, some .shortChunkSize, s') := by
            simp only [readParseLoop, readParseTurn, hRead, hSizes]
          have hPump : chunkPump.run (.empty, s) = (found, some .shortChunkSize, (.empty, s')) := by
            cases hCollected with
            | waited _ hSame => exact nomatch hSame.symm.trans hSizes
            | sized _ hSized =>
              rw [hSized]
              simp only [afterChunks, hSizes, Pump.after]
          rw [readParseLoop.run_done hBody]
          refine ⟨⟨found, rfl, ?_⟩, fun _ => ?_⟩
          · rewrite [hPump]
            exact List.prefix_rfl
          · rw [hPump]
            exact ⟨rfl, rfl⟩
      | error e s' =>
        rcases readChunks_error hRead with ⟨ending, hFault, hPump⟩ | ⟨rfl, hPump⟩
        · have hDone : ∃ why, readParseLoop.body (chunks, s) = .done (chunks, why, s') := by
            simp only [readParseLoop, readParseTurn, hRead]
            split <;> simp_all
          obtain ⟨why, hBody⟩ := hDone
          rw [readParseLoop.run_done hBody]
          exact ⟨⟨[], (List.append_nil _).symm, List.nil_prefix⟩,
            fun hNot => absurd hFault (hNot ending hPump)⟩
        · have hBody : readParseLoop.body (chunks, s) = .done (chunks, none, s') := by
            simp only [readParseLoop, readParseTurn, hRead]
          rw [readParseLoop.run_done hBody]
          refine ⟨⟨[], (List.append_nil _).symm, List.nil_prefix⟩, fun _ => ?_⟩
          rw [hPump]
          exact ⟨by rw [List.append_nil], rfl⟩
  exact key (chunks, self)

/-! ### Pieces -/

/-- The machine with more bytes. -/
def pumpExtend (state : UnpackResult × ChunkUnpacketizer) (d : List UInt8) :
    UnpackResult × ChunkUnpacketizer :=
  (state.1, state.2.extendData d)

theorem pumpExtend_append (state : UnpackResult × ChunkUnpacketizer) (d d' : List UInt8) :
    pumpExtend (pumpExtend state d) d' = pumpExtend state (d ++ d') := by
  simp only [pumpExtend, extendData, BytesReader.extendFromSlice, List.append_assoc]

theorem afterChunks_extend (chunks : List ChunkInfo) (self : ChunkUnpacketizer) (d : List UInt8) :
    afterChunks chunks (self.extendData d) =
      match afterChunks chunks self with
      | .goes out state => .goes out (pumpExtend state d)
      | .waits state => .waits (pumpExtend state d)
      | .stops out ending state => .stops out ending (pumpExtend state d) := by
  unfold afterChunks
  rw [applyChunkSizes_extend]
  cases applyChunkSizes chunks self <;> rfl

/-- More bytes do not change what a session does at the end of a call of `read_chunk`. -/
theorem afterChunk_ok_extend (result : UnpackResult) (self : ChunkUnpacketizer) (d : List UInt8) :
    afterChunk (.ok result (self.extendData d)) =
      match afterChunk (.ok result self) with
      | .goes out state => .goes out (pumpExtend state d)
      | .waits state => .waits (pumpExtend state d)
      | .stops out ending state => .stops out ending (pumpExtend state d) := by
  cases result
  case chunkInfo chunkInfo => exact afterChunks_extend [chunkInfo] self d
  all_goals rfl

/-- The machine can be resumed where no basic header is cut. -/
theorem chunkPump_resumable {state : UnpackResult × ChunkUnpacketizer}
    (h : state.2.HeaderWhole) : chunkPump.Resumable pumpExtend state := by
  obtain ⟨result, self⟩ := state
  intro d
  have hResumes := readChunkTurn_resumes result h
  have hStep : ∀ r s, chunkPump.step (r, s) = match readChunkTurn r s with
    | .ok (.again r') s' => .goes [] (r', s')
    | .ok (.done r') s' => afterChunk (.ok r' s')
    | .error e s' => afterChunk (.error e s') := fun _ _ => rfl
  cases hTurn : readChunkTurn result self with
  | ok turn s =>
    have hMore := hResumes.ok hTurn d
    cases turn with
    | again result' =>
      have hNow : chunkPump.step (result, self) = .goes [] (result', s) := by rw [hStep, hTurn]
      rw [hNow]
      dsimp only [pumpExtend]
      rw [hStep, hMore]
    | done result' =>
      have hNow : chunkPump.step (result, self) = afterChunk (.ok result' s) := by
        rw [hStep, hTurn]
      have hThen : chunkPump.step (pumpExtend (result, self) d) =
          afterChunk (.ok result' (s.extendData d)) := by
        dsimp only [pumpExtend]
        rw [hStep, hMore]
      rw [hNow, hThen, afterChunk_ok_extend]
      cases hAfter : afterChunk (.ok result' s) with
      | goes out t => rfl
      | waits t =>
        exfalso
        cases result' <;> simp only [afterChunk, afterChunks] at hAfter
        case chunkInfo chunkInfo => split at hAfter <;> cases hAfter
        all_goals cases hAfter
      | stops out ending t => rfl
  | error e s =>
    by_cases he : e.Waits
    · have hNow : chunkPump.step (result, self) = .waits (.empty, s) := by
        rw [hStep, hTurn]
        exact afterChunk_waits s he
      rw [hNow]
      dsimp only [pumpExtend]
      rw [hStep, hStep, hResumes.wait hTurn he d]
      have hOpen : (s.extendData d).chunkReadState ≠ .finish := by
        intro hFinish
        have hState : self.chunkReadState = .finish := (readChunkTurn_error hTurn).2.symm.trans hFinish
        rw [readChunkTurn_finish hState] at hTurn
        cases hTurn
      rw [readChunkTurn_result result .empty hOpen]
    · obtain ⟨ending, -, hEnding⟩ := afterChunk_fault he
      have hNow : chunkPump.step (result, self) = .stops [] ending (.empty, s) := by
        rw [hStep, hTurn]
        exact hEnding s
      rw [hNow]
      dsimp only [pumpExtend]
      rw [hStep, hResumes.fault hTurn he d]
      exact hEnding _

/-- Whether the next read neither gives the connection up nor underflows. -/
def ChunkUnpacketizer.Calm (self : ChunkUnpacketizer) : Prop :=
  ¬self.Underflows ∧
    (self.chunkReadState = .readBasicHeader → ∀ byte rest, self.buffer = byte :: rest →
      basicHeaderTail byte ≤ rest.length →
        ¬self.GivesUp (basicHeaderFormat byte) (basicHeaderCsid byte rest))

/-- A turn in a calm state fails for lack of bytes only. -/
theorem readChunkTurn_calm {result : UnpackResult} {self self' : ChunkUnpacketizer}
    {e : UnpackFault} (hCalm : self.Calm) (h : readChunkTurn result self = .error e self') :
    e.Waits := by
  refine ⟨?_, ?_⟩
  · rintro rfl
    exact hCalm.1 (readChunkTurn_panic h).2
  · rintro rfl
    obtain ⟨hState, byte, rest, hBuffer, hTail, hGivesUp⟩ := readChunkTurn_cannotParse h
    exact hCalm.2 hState byte rest hBuffer hTail hGivesUp

/-- In a calm state the session does not end with a fault of the reader. -/
theorem chunkPump_calm {state state' : UnpackResult × ChunkUnpacketizer} {out : List ChunkInfo}
    {ending : Ending} (hCalm : state.2.Calm)
    (h : chunkPump.step state = .stops out ending state') : ¬ending.Fault := by
  obtain ⟨result, self⟩ := state
  cases hTurn : readChunkTurn result self with
  | ok turn s =>
    simp only [chunkPump, hTurn] at h
    cases turn with
    | again result' => cases h
    | done result' =>
      cases result' <;> simp only [afterChunk, afterChunks] at h
      case chunkInfo chunkInfo =>
        split at h <;> cases h
        exact fun hFault => hFault.elim nofun nofun
      all_goals cases h
  | error e s =>
    simp only [chunkPump, hTurn] at h
    rw [afterChunk_waits s (readChunkTurn_calm hCalm hTurn)] at h
    cases h

/-- A session that is not ended by a fault of the reader reads what the machine puts out. -/
theorem deliver_feed (pieces : List (List UInt8)) (self : ChunkUnpacketizer)
    (h : ∀ ending, (chunkPump.feed pumpExtend (.empty, self) pieces).2.1 = some ending →
      ¬ending.Fault) :
    (deliver self pieces).1 = (chunkPump.feed pumpExtend (.empty, self) pieces).1 := by
  induction pieces generalizing self with
  | nil => rfl
  | cons piece pieces ih =>
    obtain ⟨-, hEqual⟩ := readParseLoop_run [] (self.extendData piece)
    have hState : pumpExtend (.empty, self) piece = (.empty, self.extendData piece) := rfl
    unfold Pump.feed at h ⊢
    unfold deliver readParseChunks
    rw [hState] at h ⊢
    generalize chunkPump.run (.empty, self.extendData piece) = result at h hEqual
    obtain ⟨out, ending, last, self'⟩ := result
    cases ending with
    | none =>
      obtain ⟨hRun, hLast⟩ := hEqual (by rintro ending ⟨⟩)
      obtain rfl : last = .empty := hLast
      rw [hRun]
      exact congrArg (out ++ ·) (ih self' h)
    | some ending =>
      obtain ⟨hRun, -⟩ := hEqual h
      rw [hRun]
      rfl

/-- While pieces are delivered to a fresh reader, its reads start in states with a property. -/
def ReadsIn (P : ChunkUnpacketizer → Prop) (pieces : List (List UInt8)) : Prop :=
  chunkPump.Fed pumpExtend (fun state => P state.2) (.empty, .new) pieces

/-- Where no read gives up or underflows and no basic header is cut before the last piece, the
session reads from the pieces what it reads from the whole. -/
theorem deliver_flatten {pieces : List (List UInt8)} {last : List UInt8}
    (hCalm : ReadsIn Calm (pieces ++ [last])) (hWhole : ReadsIn HeaderWhole pieces) :
    (deliver .new (pieces ++ [last])).1 = (deliver .new [(pieces ++ [last]).flatten]).1 := by
  have hFault := Pump.feed_why (Q := fun ending => ¬ending.Fault)
    (fun _ _ _ _ hState hStep => chunkPump_calm hState hStep) _ _ hCalm
  obtain ⟨hOut, hWhy⟩ := Pump.feed_flatten (p := chunkPump) pumpExtend_append pieces last
    (.empty, .new) (hWhole.mono fun _ => chunkPump_resumable)
  rw [deliver_feed _ _ hFault, deliver_feed, Pump.feed_singleton, hOut]
  rw [Pump.feed_singleton]
  exact fun ending hEnding => hFault ending (hWhy.trans hEnding)

end Xiu.Rtmp.Chunk
