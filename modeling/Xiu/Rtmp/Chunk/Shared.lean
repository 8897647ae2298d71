import Xiu.ProofKit.Feeding
import Xiu.Rtmp.Chunk.RoundTrip
import Xiu.Rtmp.Chunk.Segmentation

/-! Several chunk writers on one connection, whose messages arrive in pieces.  A writer keeps the headers
that it has written itself; the reader keeps the last header of each chunk stream, whoever wrote it.  The two
agree as long as a writer that goes on on a chunk stream is the one that wrote the last message there.  The
writers' basic headers are one byte long, and their chunks neither make the reader give up nor leave it with
too much payload.  So the reader reads a message in states that are not disturbed by a cut, wherever it is. -/

namespace Xiu.Rtmp.Chunk

open Bytesio ProofKit ChunkUnpacketizer

/-! ### States that a cut does not disturb -/

/-- The next read does not underflow, and is no read of a basic header of more than one byte or of one at
which the connection is given up. -/
def ChunkUnpacketizer.Plain (self : ChunkUnpacketizer) : Prop :=
  ¬self.Underflows ∧
    (self.chunkReadState = .readBasicHeader → ∀ byte rest, self.buffer = byte :: rest →
      basicHeaderTail byte = 0 ∧ ¬self.GivesUp (basicHeaderFormat byte) (basicHeaderCsid byte rest))

/-- A state of the session's reading in which the reader is plain. -/
def PlainState (state : UnpackResult × ChunkUnpacketizer) : Prop := state.2.Plain

section Plain

variable {self : ChunkUnpacketizer}

theorem ChunkUnpacketizer.Plain.calm (h : self.Plain) : self.Calm :=
  ⟨h.1, fun hState byte rest hBuffer _ => (h.2 hState byte rest hBuffer).2⟩

theorem ChunkUnpacketizer.Plain.headerWhole (h : self.Plain) : self.HeaderWhole :=
  fun hState byte rest hBuffer => (h.2 hState byte rest hBuffer).1 ▸ Nat.zero_le _

/-- Where the reader reads no basic header and no payload, nothing can go wrong. -/
theorem plain_of_state (hBasic : self.chunkReadState ≠ .readBasicHeader)
    (hPayload : self.chunkReadState ≠ .readMessagePayload) : self.Plain :=
  ⟨fun hUnderflows => hPayload hUnderflows.1, fun hState => absurd hState hBasic⟩

theorem plain_of_payload (hState : self.chunkReadState = .readMessagePayload)
    (h : self.payload.length ≤ self.header.msgLength.toNat) : self.Plain :=
  ⟨fun hUnderflows => Nat.not_lt.mpr h hUnderflows.2, fun hBasic => by rw [hState] at hBasic; cases hBasic⟩

/-- A reader with nothing to read. -/
theorem plain_of_nil (hState : self.chunkReadState = .readBasicHeader) (h : self.buffer = []) :
    self.Plain := by
  refine ⟨fun hUnderflows => ?_, fun _ byte rest hBuffer => ?_⟩
  · have hOther := hUnderflows.1
    rw [hState] at hOther
    cases hOther
  · rw [h] at hBuffer
    cases hBuffer

/-- A basic header of one byte. -/
theorem plain_of_header {format : UInt8} {csid : UInt32} {basicHeader rest : List UInt8}
    (hState : self.chunkReadState = .readBasicHeader) (hBasic : IsBasicHeader format csid basicHeader)
    (hOne : basicHeader.length = 1) (hGoesOn : ¬self.GivesUp format csid)
    (h : self.buffer = basicHeader ++ rest) : self.Plain := by
  obtain ⟨byte, tail, rfl, hTail, rfl, rfl⟩ := hBasic
  obtain rfl : tail = [] := by
    rw [List.length_cons] at hOne
    exact List.length_eq_zero_iff.mp (by omega)
  have hZero : basicHeaderTail byte = 0 := hTail.symm
  refine ⟨fun hUnderflows => ?_, fun _ byte' rest' hBuffer => ?_⟩
  · have hOther := hUnderflows.1
    rw [hState] at hOther
    cases hOther
  · rw [h, List.cons_append, List.nil_append] at hBuffer
    cases hBuffer
    have hCsid := @basicHeaderCsid_append byte [] rest (by rw [hZero]; exact Nat.le_refl 0)
    rw [List.nil_append] at hCsid
    rw [hCsid]
    exact ⟨hZero, hGoesOn⟩

/-- A state is plain if it is with more bytes. -/
theorem plain_less {d : List UInt8} (h : (self.extendData d).Plain) : self.Plain := by
  refine ⟨h.1, fun hState byte rest hBuffer => ?_⟩
  have hMore : (self.extendData d).buffer = byte :: (rest ++ d) :=
    (congrArg (· ++ d) hBuffer).trans (List.cons_append ..)
  obtain ⟨hTail, hGoesOn⟩ := h.2 hState byte (rest ++ d) hMore
  rw [basicHeaderCsid_append d (by rw [hTail]; exact Nat.zero_le _)] at hGoesOn
  exact ⟨hTail, hGoesOn⟩

/-- A plain reader that waits is in a plain state when more bytes arrive. -/
theorem plain_waits {result : UnpackResult} {self' : ChunkUnpacketizer} {e : UnpackFault} {d : List UInt8}
    (h : (self.extendData d).Plain) (hTurn : readChunkTurn result self = .error e self') :
    (self'.extendData d).Plain := by
  have hSame := (readChunkTurn_error hTurn).2
  cases hState : self.chunkReadState with
  | readBasicHeader =>
    cases hBuffer : self.buffer with
    | nil =>
      have hNil := readChunkTurn_basicHeader_error (a := result) hState (readBasicHeader_nil hBuffer)
      rw [hNil] at hTurn
      cases hTurn
      exact h
    | cons byte rest =>
      obtain ⟨hTail, hGoesOn⟩ := (plain_less h).2 hState byte rest hBuffer
      have hWhole := readBasicHeader_whole hBuffer (by rw [hTail]; exact Nat.zero_le _) hGoesOn
      rw [readChunkTurn_basicHeader hState hWhole] at hTurn
      cases hTurn
  | readMessagePayload =>
    have hFits : ¬self.header.msgLength.toNat < self.payload.length := fun hLess => h.1 ⟨hState, hLess⟩
    have hRead := readMessagePayload_eq self
    rw [if_neg hFits] at hRead
    split at hRead
    · rw [readChunkTurn_messagePayload_error hState hRead] at hTurn
      cases hTurn
      exact h
    · split at hRead
      · rw [readChunkTurn_messagePayload hState hRead] at hTurn
        cases hTurn
      · rw [readChunkTurn_messagePayload hState hRead] at hTurn
        cases hTurn
  | _ =>
    have hOpen : (self'.extendData d).chunkReadState = _ := hSame.trans hState
    exact plain_of_state (by rw [hOpen]; decide) (by rw [hOpen]; decide)

end Plain

theorem plainState_less (state : UnpackResult × ChunkUnpacketizer) (d : List UInt8)
    (h : PlainState (pumpExtend state d)) : PlainState state := plain_less h

theorem plainState_resumable (state : UnpackResult × ChunkUnpacketizer) (h : PlainState state) :
    chunkPump.Resumable pumpExtend state :=
  chunkPump_resumable h.headerWhole

theorem plainState_waits (state state' : UnpackResult × ChunkUnpacketizer) (d : List UInt8)
    (h : PlainState (pumpExtend state d)) (hStep : chunkPump.step state = .waits state') :
    PlainState (pumpExtend state' d) := by
  obtain ⟨result, self⟩ := state
  cases hTurn : readChunkTurn result self with
  | ok turn s =>
    simp only [chunkPump, hTurn] at hStep
    cases turn with
    | again result' => cases hStep
    | done result' =>
      cases result' <;> simp only [afterChunk, afterChunks] at hStep
      case chunkInfo chunkInfo => split at hStep <;> cases hStep
      all_goals cases hStep
  | error e s =>
    have hPlain := plain_waits h hTurn
    simp only [chunkPump, hTurn] at hStep
    by_cases he : e.Waits
    · rw [afterChunk_waits s he] at hStep
      cases hStep
      exact hPlain
    · obtain ⟨ending, -, hEnding⟩ := afterChunk_fault he
      rw [hEnding] at hStep
      cases hStep

/-- A reader with nothing to read waits. -/
theorem chunkPump_nil {self : ChunkUnpacketizer} (hState : self.chunkReadState = .readBasicHeader)
    (h : self.buffer = []) : chunkPump.step (.empty, self) = .waits (.empty, self) := by
  have hTurn := readChunkTurn_basicHeader_error (a := .empty) hState (readBasicHeader_nil h)
  simp only [chunkPump, hTurn]
  exact afterChunk_waits self notEnoughBytes_waits

/-- What is read in plain states is read so however the bytes are cut. -/
theorem deliver_of_plain {pieces : List (List UInt8)}
    (h : ∀ state, chunkPump.Passes (.empty, new.extendData pieces.flatten) state → PlainState state) :
    (deliver .new pieces).1 = (chunkPump.run (.empty, new.extendData pieces.flatten)).1 := by
  have hFed := Pump.fed_of_whole plainState_less plainState_resumable plainState_waits pumpExtend_append
    pieces (.empty, .new) h
  have hFault := Pump.feed_why (Q := fun ending => ¬ending.Fault)
    (fun _ _ _ _ hState hStep => chunkPump_calm hState.calm hStep) _ _ hFed
  rw [deliver_feed _ _ hFault]
  rcases List.eq_nil_or_concat' pieces with rfl | ⟨first, last, rfl⟩
  · rw [List.flatten_nil, Pump.run_waits (chunkPump_nil rfl rfl)]
    rfl
  · have hFirst := Pump.Fed.prefix hFed
    exact (Pump.feed_flatten (p := chunkPump) pumpExtend_append first last _
      (hFirst.mono plainState_resumable)).1

theorem path_turn {result result' : UnpackResult} {self self' : ChunkUnpacketizer} (hPlain : self.Plain)
    (h : readChunkTurn result self = .ok (.again result') self') :
    chunkPump.Path PlainState (result, self) [] (result', self') :=
  .single hPlain (chunkPump_again h)

/-- The head of a chunk, with a basic header of one byte, is read in plain states. -/
theorem path_head {self : ChunkUnpacketizer} {c : ChunkHead} {basicHeader rest : List UInt8}
    (result : UnpackResult) (hChunk : self.chunkReadState = .readBasicHeader)
    (hField : self.msgHeaderReadState = .readTimeStamp)
    (hFormat : c.format = 0 ∨ c.format = 1 ∨ c.format = 2 ∨ c.format = 3)
    (hFirst : c.first.toNat < 2 ^ 24) (hLength : c.header.msgLength.toNat < 2 ^ 24)
    (hBasic : IsBasicHeader c.format c.csid basicHeader) (hOne : basicHeader.length = 1)
    (hGoesOn : ¬self.GivesUp c.format c.csid) (h : self.buffer = c.bytes self basicHeader ++ rest) :
    chunkPump.Path PlainState (result, self) [] (.success, c.read self rest) := by
  have hBuffer := h
  rw [ChunkHead.bytes, List.append_assoc] at hBuffer
  have hPlain : self.Plain := plain_of_header hChunk hBasic hOne hGoesOn hBuffer
  obtain ⟨_, s1, s2, h1, hState1, h2, hState2, h3⟩ :=
    head_turns result hChunk hField hFormat hFirst hLength hBasic hGoesOn h
  have hPlain1 : s1.Plain := plain_of_state (by rw [hState1]; decide) (by rw [hState1]; decide)
  have hPlain2 : s2.Plain := plain_of_state (by rw [hState2]; decide) (by rw [hState2]; decide)
  exact ((path_turn hPlain h1).trans (path_turn hPlain1 h2)).trans (path_turn hPlain2 h3)

/-- A payload that has arrived whole, cut into chunks, completes its message in plain states. -/
theorem path_payload {r : ChunkUnpacketizer} {basicHeader data rest : List UInt8}
    (result : UnpackResult) (hChunk : r.chunkReadState = .readMessagePayload)
    (hField : r.msgHeaderReadState = .readTimeStamp) (hSize : 0 < r.maxChunkSize)
    (hBasic : IsBasicHeader 3 r.currentChunkInfo.basicHeader.chunkStreamId basicHeader)
    (hOne : basicHeader.length = 1)
    (hWhole : r.payload.length + data.length = r.header.msgLength.toNat)
    (h : r.buffer = chunkedPayload r.maxChunkSize
      (basicHeader ++ extendedTimestampBytes r.header r.header.extendedValue) data ++ rest) :
    ∃ format,
      chunkPump.Path PlainState (result, r) []
        (.chunkInfo ⟨⟨format, r.currentChunkInfo.basicHeader.chunkStreamId⟩, r.header, r.payload ++ data⟩,
          ((r.setBasicHeader ⟨format, r.currentChunkInfo.basicHeader.chunkStreamId⟩)
            |>.received data rest).finishMessage) := by
  induction hLen : data.length using Nat.strongRecOn generalizing r data result with
  | ind n ih =>
    subst hLen
    have hPlain : r.Plain := plain_of_payload hChunk (by omega)
    by_cases hFits : data.length ≤ r.maxChunkSize
    · rw [chunkedPayload_last _ hFits] at h
      refine ⟨r.currentChunkInfo.basicHeader.format, ?_⟩
      exact path_turn hPlain (readChunkTurn_last result hChunk hFits hWhole h)
    · have hMore := Nat.lt_of_not_le hFits
      rw [chunkedPayload_part _ hSize hMore, List.append_assoc, List.append_assoc] at h
      have hTake : (data.take r.maxChunkSize).length = r.maxChunkSize := by
        rw [List.length_take, Nat.min_eq_left hMore.le]
      have hPart := path_turn hPlain
        (readChunkTurn_part result hChunk hTake (by rw [hTake]; omega) h)
      have hNonempty : r.payload ++ data.take r.maxChunkSize ≠ [] := by
        intro hNil
        rw [(List.append_eq_nil_iff.mp hNil).2] at hTake
        exact absurd hTake hSize.ne
      generalize hRest : chunkedPayload r.maxChunkSize (basicHeader ++ extendedTimestampBytes
        r.header r.header.extendedValue) (data.drop r.maxChunkSize) ++ rest = behind
        at hPart
      rw [List.append_assoc] at hPart
      generalize hState : (r.received (data.take r.maxChunkSize) (basicHeader ++
        (extendedTimestampBytes r.header r.header.extendedValue ++ behind))).setChunkReadState
          .readBasicHeader = r1 at hPart
      have hHead := path_head (c := r1.continuing) .success (by rw [← hState]; rfl)
        (by rw [← hState]; exact hField)
        (.inr (.inr (.inr rfl))) (Nat.two_pow_pos 24) (Nat.two_pow_pos 24)
        (by rw [← hState]; exact hBasic) hOne (fun hGivesUp => hGivesUp.1 rfl)
        (by rw [continuing_bytes, List.append_assoc, ← hState]; rfl)
      rw [continuing_read behind (by rw [← hState]; exact hNonempty)] at hHead
      obtain ⟨format, hPath⟩ := ih (data.drop r.maxChunkSize).length
        (by rw [List.length_drop]; omega) (r := r1.continued behind)
        .success rfl (by rw [← hState]; exact hField) (by rw [← hState]; exact hSize)
        (by rw [← hState]; exact hBasic)
        (by
          rw [← hState]
          change (r.payload ++ data.take r.maxChunkSize).length + _ = _
          rw [List.length_append, Nat.add_assoc, ← List.length_append, List.take_append_drop]
          exact hWhole)
        (by rw [← hState]; exact hRest.symm) rfl
      refine ⟨format, ?_⟩
      have hPayload : (r.payload ++ data.take r.maxChunkSize) ++
          data.drop r.maxChunkSize = r.payload ++ data := by
        rw [List.append_assoc, List.take_append_drop]
      have hAll := (hPart.trans hHead).trans hPath
      rw [← hState] at hAll
      rw [← hPayload]
      exact hAll

/-- A message that is complete is put out, and a chunk size that it tells is applied. -/
theorem path_finish {chunkInfo : ChunkInfo} {self s : ChunkUnpacketizer}
    (hState : self.chunkReadState = .finish)
    (h : applyChunkSizes [chunkInfo] (self.setChunkReadState .readBasicHeader) = some s) :
    chunkPump.Path PlainState (.chunkInfo chunkInfo, self) [chunkInfo] (.empty, s) := by
  refine .single (plain_of_state (by rw [hState]; decide) (by rw [hState]; decide)) ?_
  have hTurn := readChunkTurn_finish (a := .chunkInfo chunkInfo) hState
  simp only [chunkPump, hTurn, afterChunk, afterChunks, h]

/-! ### Writers that share a connection -/

/-- A message and what its writer has written before, the last message first. -/
structure Posting where
  sent : List Message
  message : Message

namespace Posting

def bytes (size : Nat) (p : Posting) : List UInt8 := p.message.bytes size p.sent

def csid (p : Posting) : UInt32 := p.message.csid

end Posting

/-- The last message on each chunk stream, and what its writer had written before. -/
abbrev View := UInt32 → Option (Message × List Message)

def View.after (view : View) (p : Posting) : View :=
  fun csid => if csid = p.csid then some (p.message, p.sent) else view csid

/-- The writer of the message is new on its chunk stream, or has written the last message there; and no
header with an extended timestamp is repeated. -/
structure Joins (view : View) (p : Posting) : Prop where
  last : lastOn p.csid p.sent = none ∨ lastOn p.csid p.sent = view p.csid
  kept : ¬p.message.Loses p.sent

/-- Messages that join what is on the connection, one after the other. -/
def Joined : View → List Posting → Prop
  | _, [] => True
  | view, p :: ps => Joins view p ∧ Joined (view.after p) ps

/-- The reader, with the header of each chunk stream's last message. -/
structure InStep (size : Nat) (view : View) (r : ChunkUnpacketizer) : Prop where
  state : r.chunkReadState = .readBasicHeader
  field : r.msgHeaderReadState = .readTimeStamp
  payload : r.payload = []
  size : r.maxChunkSize = size
  kept : ∀ csid, r.chunkMessageHeaders.lookup csid = (view csid).map fun e => e.1.left e.2
  current : r.currentChunkInfo.basicHeader.chunkStreamId = 0 ∨
    r.chunkMessageHeaders.lookup r.currentChunkInfo.basicHeader.chunkStreamId = some r.header

theorem inStep_resized {size n : Nat} {view : View} {self : ChunkUnpacketizer} (h : InStep size view self) :
    InStep n view (self.updateMaxChunkSize n) :=
  ⟨h.state, h.field, h.payload, rfl, h.kept, h.current⟩

section Posting

variable {size : Nat} {view : View} {self : ChunkUnpacketizer} {p : Posting}

theorem InStep.carried (h : InStep size view self) (hJoins : Joins view p) :
    ((p.message.head p.sent).carried self).extendedTimestampType =
        (p.message.left p.sent).extendedTimestampType ∧
      (((p.message.head p.sent).carried self).extended (p.message.left p.sent).extendedValue).advanced
        (p.message.format p.sent) [] = p.message.left p.sent := by
  refine Message.carried (fun e hLast k hFormat => ?_) hJoins.kept
  rcases hJoins.last with hNew | hView
  · rw [Posting.csid, hLast] at hNew
    cases hNew
  · have hKept := h.kept p.csid
    rw [← hView, Posting.csid, hLast] at hKept
    exact begun_kept hKept h.current p.message.csid_ne_zero hFormat

/-- The reader never gives up at a message that joins. -/
theorem InStep.not_givesUp (h : InStep size view self) (hJoins : Joins view p) :
    ¬self.GivesUp (p.message.format p.sent) p.message.csid := by
  rintro ⟨-, hNone, hFormat, -⟩
  have hSome : ∀ e, lastOn p.message.csid p.sent ≠ some e := by
    intro e hLast
    rcases hJoins.last with hNew | hView
    · rw [Posting.csid, hLast] at hNew
      cases hNew
    · have hKept := h.kept p.csid
      rw [← hView, Posting.csid, hLast, hNone] at hKept
      cases hKept
  cases p.message.sending p.sent with
  | full hZero => exact hFormat hZero
  | change e hLast => exact hSome e hLast
  | repeated e hLast => exact hSome e hLast

theorem Message.length_basicHeaderBytes (m : Message) (format : UInt8) :
    (basicHeaderBytes format m.csid).length = 1 := by
  rw [m.basicHeaderBytes_one]
  rfl

/-- A message that joins is read, and the reader stays in step. -/
theorem InStep.path (h : InStep size view self) (hSize : 0 < size) (hJoins : Joins view p)
    {rest : List UInt8} (hBuffer : self.buffer = p.bytes size ++ rest) :
    ∃ format self',
      chunkPump.Path PlainState (.empty, self) []
        (.chunkInfo ⟨⟨format, p.csid⟩, p.message.left p.sent, p.message.payload⟩, self') ∧
      self'.chunkReadState = .finish ∧ self'.buffer = rest ∧
      InStep size (view.after p) (self'.setChunkReadState .readBasicHeader) := by
  obtain ⟨sent, m⟩ := p
  obtain ⟨hType, hAdvanced⟩ := h.carried hJoins
  have hLoses := hJoins.kept
  dsimp only at hType hAdvanced hLoses
  generalize hBehind : chunkedPayload size (basicHeaderBytes 3 m.csid ++ extendedBytes (m.extendedSent sent))
    m.payload ++ rest = behind
  obtain ⟨hLeft, hPayload, hCsid, hRest, hField, hMax, hKept⟩ :=
    Message.read_head hAdvanced h.payload behind
  have hHead : chunkPump.Path PlainState (.empty, self) [] (.success, (m.head sent).read self behind) := by
    refine path_head .empty h.state h.field
      (format_cases (m.format_lt sent)) (timestampFields_lt _ _) ?_
      (isBasicHeader_written (m.format_lt sent) m) (m.length_basicHeaderBytes _) (h.not_givesUp hJoins) ?_
    · change m.msgLength.toNat < 2 ^ 24
      rw [m.msgLength_toNat]
      exact m.short
    · have hExtended : extendedTimestampBytes ((m.head sent).carried self)
          (m.left sent).extendedValue = extendedBytes (m.extendedSent sent) := by
        rw [Message.extendedBytes_sent hLoses, extendedTimestampBytes, hType]
        rfl
      rw [hBuffer, Posting.bytes, Message.bytes, ChunkHead.bytes, ← hBehind, ← hExtended]
      simp only [List.append_assoc]
      rfl
  have hState : ((m.head sent).read self behind).chunkReadState = .readMessagePayload := rfl
  generalize (m.head sent).read self behind = s at *
  obtain ⟨format, hRun⟩ := path_payload .success hState (hField.trans h.field)
    (by rw [hMax, h.size]; exact hSize)
    (by rw [hCsid]; exact isBasicHeader_written (by decide) m) (m.length_basicHeaderBytes _)
    (by
      rw [hPayload, hLeft]
      change 0 + m.payload.length = m.msgLength.toNat
      rw [m.msgLength_toNat, Nat.zero_add])
    (by rw [hRest, hMax, hLeft, h.size, ← hBehind, Message.extendedBytes_sent hLoses])
  rw [hCsid, hLeft, hPayload] at hRun
  refine ⟨format, _, hHead.trans hRun, rfl, rfl,
    ⟨rfl, hField.trans h.field, rfl, hMax.trans h.size, fun csid => ?_, .inr ?_⟩⟩
  · change (s.chunkMessageHeaders.insert m.csid s.header).lookup csid = _
    rw [hKept, hLeft, View.after, Posting.csid]
    by_cases hSame : csid = m.csid
    · rw [if_pos hSame, hSame, AList.lookup_insert]
      rfl
    · rw [if_neg hSame, AList.lookup_insert_ne hSame, h.kept]
  · exact AList.lookup_insert s.chunkMessageHeaders

end Posting

/-! ### A whole connection -/

/-- The messages say nothing but this chunk size. -/
def KeepSize (size : Nat) (ps : List Posting) : Prop :=
  ∀ p ∈ ps, p.message.msgTypeId = SET_CHUNK_SIZE →
    ∃ chunkSize, readSetChunkSize p.message.payload = .ok chunkSize ∧ chunkSize.toNat = size

def postingsBytes (size : Nat) (ps : List Posting) : List UInt8 := ps.flatMap (·.bytes size)

/-- What the messages say. -/
def contents (ps : List Posting) : List MessageContent := ps.map (·.message.toMessageContent)

/-- A message is put out, and the size that it tells is set. -/
theorem InStep.path_sized {size n : Nat} {view : View} {self : ChunkUnpacketizer} {p : Posting}
    (h : InStep size view self) (hSize : 0 < size) (hJoins : Joins view p) {rest : List UInt8}
    (hBuffer : self.buffer = p.bytes size ++ rest)
    (hTold : if p.message.msgTypeId = SET_CHUNK_SIZE then
      ∃ chunkSize, readSetChunkSize p.message.payload = .ok chunkSize ∧ chunkSize.toNat = n else n = size) :
    ∃ chunkInfo self', chunkPump.Path PlainState (.empty, self) [chunkInfo] (.empty, self') ∧
      chunkInfo.content = p.message.toMessageContent ∧ self'.buffer = rest ∧
      InStep n (view.after p) self' := by
  obtain ⟨format, s, hPath, hState, hRest, hNext⟩ := h.path hSize hJoins hBuffer
  generalize hInfo : (⟨⟨format, p.csid⟩, p.message.left p.sent, p.message.payload⟩ : ChunkInfo) = chunkInfo
    at hPath
  have hType : chunkInfo.messageHeader.msgTypeId = p.message.msgTypeId := by
    rw [← hInfo]
    rfl
  have hContent : chunkInfo.content = p.message.toMessageContent := by
    rw [← hInfo]
    rfl
  by_cases hSizing : p.message.msgTypeId = SET_CHUNK_SIZE
  · rw [if_pos hSizing] at hTold
    obtain ⟨chunkSize, hRead, rfl⟩ := hTold
    have hApply : applyChunkSizes [chunkInfo] (s.setChunkReadState .readBasicHeader) =
        some ((s.setChunkReadState .readBasicHeader).updateMaxChunkSize chunkSize.toNat) := by
      have hSame : readSetChunkSize chunkInfo.payload = .ok chunkSize := by
        rw [← hInfo]
        exact hRead
      simp only [applyChunkSizes, hType.trans hSizing, if_true, hSame]
    have hAll := hPath.trans (path_finish hState hApply)
    rw [List.nil_append] at hAll
    exact ⟨chunkInfo, _, hAll, hContent, hRest, inStep_resized hNext⟩
  · rw [if_neg hSizing] at hTold
    subst hTold
    have hApply : applyChunkSizes [chunkInfo] (s.setChunkReadState .readBasicHeader) =
        some (s.setChunkReadState .readBasicHeader) := by
      rw [applyChunkSizes, if_neg (by rw [hType]; exact hSizing), applyChunkSizes]
    have hAll := hPath.trans (path_finish hState hApply)
    rw [List.nil_append] at hAll
    exact ⟨chunkInfo, _, hAll, hContent, hRest, hNext⟩

/-- Messages that join are all read. -/
theorem InStep.path_all {size : Nat} {view : View} {self : ChunkUnpacketizer} {ps : List Posting}
    (h : InStep size view self) (hSize : 0 < size) (hJoined : Joined view ps) (hKeep : KeepSize size ps)
    (hBuffer : self.buffer = postingsBytes size ps) :
    ∃ chunks self', chunkPump.Path PlainState (.empty, self) chunks (.empty, self') ∧
      chunks.map ChunkInfo.content = contents ps ∧ self'.buffer = [] ∧
      self'.chunkReadState = .readBasicHeader := by
  induction ps generalizing view self with
  | nil => exact ⟨[], self, .refl _, rfl, hBuffer, h.state⟩
  | cons p ps ih =>
    rw [KeepSize, List.forall_mem_cons] at hKeep
    obtain ⟨chunkInfo, s, hPath, hContent, hRest, hNext⟩ :=
      h.path_sized (n := size) hSize hJoined.1 hBuffer (by
        split
        · exact hKeep.1 ‹_›
        · rfl)
    obtain ⟨chunks, self', hPaths, hContents, hEnd, hState⟩ := ih hNext hJoined.2 hKeep.2 hRest
    refine ⟨chunkInfo :: chunks, self', hPath.trans hPaths, ?_, hEnd, hState⟩
    rw [List.map_cons, hContent, hContents]
    rfl

/-- A message that fits in one chunk of either size. -/
theorem Message.bytes_small {m : Message} {sent : List Message} {size size' : Nat}
    (h : m.payload.length ≤ size) (h' : m.payload.length ≤ size') : m.bytes size sent = m.bytes size' sent := by
  rw [Message.bytes, Message.bytes, chunkedPayload_last _ h, chunkedPayload_last _ h']

/-- A chunk size is told first, in a message on its own, and all that follows is written in chunks of that
size by writers that join: however the bytes are cut, the reader reads what was written. -/
theorem deliver_shared {size : Nat} {first : Posting} {ps : List Posting} {pieces : List (List UInt8)}
    (hSize : 0 < size) (hFirst : first.message.msgTypeId = SET_CHUNK_SIZE)
    (hSmall : first.message.payload.length ≤ min size INIT_CHUNK_SIZE.toNat)
    (hKeep : KeepSize size (first :: ps)) (hJoined : Joined (fun _ => none) (first :: ps))
    (hPieces : pieces.flatten = postingsBytes size (first :: ps)) :
    (deliver .new pieces).1.map ChunkInfo.content = contents (first :: ps) := by
  rw [KeepSize, List.forall_mem_cons] at hKeep
  have hBytes : first.bytes size = first.bytes INIT_CHUNK_SIZE.toNat :=
    Message.bytes_small (hSmall.trans (Nat.min_le_left _ _)) (hSmall.trans (Nat.min_le_right _ _))
  have hNew : InStep INIT_CHUNK_SIZE.toNat (fun _ => none) (new.extendData pieces.flatten) :=
    ⟨rfl, rfl, rfl, rfl, fun _ => rfl, .inl rfl⟩
  obtain ⟨chunkInfo, s, hPath, hContent, hRest, hNext⟩ := hNew.path_sized (n := size) (by decide) hJoined.1
    (by rw [← hBytes]; exact hPieces) (by rw [if_pos hFirst]; exact hKeep.1 hFirst)
  obtain ⟨chunks, self', hPaths, hContents, hEnd, hState⟩ :=
    hNext.path_all hSize hJoined.2 hKeep.2 hRest
  have hAll := hPath.trans hPaths
  have hStop := chunkPump_nil hState hEnd
  have hPlain : ∀ state, chunkPump.Passes (.empty, self') state → PlainState state :=
    Pump.passes_end (by rw [hStop]; rintro _ _ ⟨⟩) (plain_of_nil hState hEnd)
  rw [deliver_of_plain (hAll.passes hPlain), hAll.run, Pump.run_waits hStop, List.append_nil,
    List.map_append, hContents]
  simp only [List.map_cons, List.map_nil, hContent]
  rfl

end Xiu.Rtmp.Chunk
