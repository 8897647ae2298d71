import Mathlib.Data.List.Chain
import Xiu.Rtmp.Chunk.Messages

/-! Chunks of several messages on one connection.  The reader has one place for the header and for the
payload received so far, whatever the chunk stream, so a message is read back only if its chunks come
one behind the other. -/

namespace Xiu.Rtmp.Chunk

open Bytesio ProofKit ChunkUnpacketizer

/-- A chunk stream id as a basic header of one, two or three bytes says it. -/
inductive ChunkStreamId where
  | one (csid : UInt8) (atLeast : 2 ≤ csid) (below : csid < 64)
  | two (low : UInt8)
  | three (low high : UInt8)
  deriving DecidableEq

namespace ChunkStreamId

def csid : ChunkStreamId → UInt32
  | one csid _ _ => csid.toUInt32
  | two low => 64 + low.toUInt32
  | three low high => 64 + low.toUInt32 + high.toUInt32 * 256

/-- The bytes of a basic header. -/
def bytes (format : UInt8) : ChunkStreamId → List UInt8
  | one csid _ _ => [format <<< 6 ||| csid]
  | two low => [format <<< 6, low]
  | three low high => [format <<< 6 ||| 1, low, high]

theorem isBasicHeader {format : UInt8} (hFormat : format < 4) (id : ChunkStreamId) :
    IsBasicHeader format id.csid (id.bytes format) := by
  cases id with
  | one csid atLeast below => exact isBasicHeader_one hFormat atLeast below
  | two low =>
    obtain ⟨hAnd, hShift⟩ := @basicHeaderByte format 0 hFormat (by decide)
    rw [UInt8.or_zero] at hAnd hShift
    refine ⟨format <<< 6, [low], rfl, ?_, hShift, ?_⟩
    · rw [basicHeaderTail, if_pos hAnd]
      rfl
    · rw [basicHeaderCsid, if_pos hAnd]
      rfl
  | three low high =>
    obtain ⟨hAnd, hShift⟩ := @basicHeaderByte format 1 hFormat (by decide)
    have hNotZero : ¬(format <<< 6 ||| 1) &&& 0b00111111 = 0 := by
      rw [hAnd]
      decide
    refine ⟨format <<< 6 ||| 1, [low, high], rfl, ?_, hShift, ?_⟩
    · rw [basicHeaderTail, if_neg hNotZero, if_pos hAnd]
      rfl
    · rw [basicHeaderCsid, if_neg hNotZero, if_pos hAnd]
      rfl

theorem bytes_ne_nil (format : UInt8) (id : ChunkStreamId) : id.bytes format ≠ [] := by
  cases id <;> exact List.cons_ne_nil _ _

end ChunkStreamId

/-- A message without the bytes of its payload, with the number of payload bytes in each of its
chunks. -/
structure CutMessage where
  id : ChunkStreamId
  timestamp : UInt32
  msgTypeId : UInt8
  msgStreamId : UInt32
  sizes : List Nat
  short : sizes.sum < 2 ^ 24
  cut : sizes = [0] ∨ sizes ≠ [] ∧ ∀ n ∈ sizes, 0 < n
  deriving DecidableEq

/-- Payloads for messages. -/
structure Filling where
  payload : CutMessage → List UInt8
  length_payload : ∀ m, (payload m).length = m.sizes.sum

namespace CutMessage

def msgLength (m : CutMessage) : UInt32 := .ofNat m.sizes.sum

def header (m : CutMessage) : ChunkMessageHeader :=
  .new m.timestamp m.msgLength m.msgTypeId m.msgStreamId

/-- The timestamp field of the first chunk. -/
def first (m : CutMessage) : UInt32 := if m.timestamp ≥ 0xFFFFFF then 0xFFFFFF else m.timestamp

/-- The extended timestamp of each chunk, if any. -/
def extended (m : CutMessage) : List UInt8 :=
  if m.timestamp ≥ 0xFFFFFF then u32Bytes m.timestamp else []

/-- What comes before the payload of chunk `number`: a header of format 0, or of format 3. -/
def headBytes (m : CutMessage) (number : Nat) : List UInt8 :=
  if number = 0 then m.id.bytes 0 ++ (messageHeaderBytes 0 m.first m.header ++ m.extended)
  else m.id.bytes 3 ++ m.extended

def content (filling : Filling) (m : CutMessage) : MessageContent where
  csid := m.id.csid
  timestamp := m.timestamp
  msgTypeId := m.msgTypeId
  msgStreamId := m.msgStreamId
  payload := filling.payload m

end CutMessage

/-- Chunk `number` of a message. -/
structure Part where
  message : CutMessage
  number : Nat
  deriving DecidableEq

namespace Part

/-- How many payload bytes the chunk carries. -/
def size (part : Part) : Nat := part.message.sizes.getD part.number 0

/-- How many payload bytes the chunks before it carry. -/
def offset (part : Part) : Nat := (part.message.sizes.take part.number).sum

def next (part : Part) : Part := ⟨part.message, part.number + 1⟩

def IsLast (part : Part) : Prop := part.number + 1 = part.message.sizes.length

instance (part : Part) : Decidable part.IsLast := inferInstanceAs (Decidable (_ = _))

def data (filling : Filling) (part : Part) : List UInt8 :=
  ((filling.payload part.message).drop part.offset).take part.size

def bytes (filling : Filling) (part : Part) : List UInt8 :=
  part.message.headBytes part.number ++ part.data filling

/-- The message that the chunk completes, if any. -/
def completes (filling : Filling) (part : Part) : List MessageContent :=
  if part.IsLast then [part.message.content filling] else []

/-- Whether a chunk is the last one of its message, or is full and has the next one behind it. -/
def LeadsTo (size : Nat) (part next : Part) : Prop :=
  part.IsLast ∨ part.size = size ∧ next = part.next

instance (size : Nat) (part next : Part) : Decidable (part.LeadsTo size next) :=
  inferInstanceAs (Decidable (_ ∨ _ ∧ _))

end Part

def CutMessage.parts (m : CutMessage) : List Part := (List.range m.sizes.length).map (.mk m)

/-- The chunks of messages on distinct chunk streams, those of each chunk stream in order. -/
structure Interleaving (size : Nat) (msgs : List CutMessage) (parts : List Part) : Prop where
  distinct : msgs.Pairwise fun m m' => m.id.csid ≠ m'.id.csid
  fits : ∀ m ∈ msgs, ∀ n ∈ m.sizes, n ≤ size
  sent : ∀ part ∈ parts, part.message ∈ msgs
  inOrder : ∀ m ∈ msgs, parts.filter (·.message.id.csid = m.id.csid) = m.parts

/-- Each message is read once, with its own header and payload, when its last chunk has come. -/
def ReadsBack (size : Nat) (filling : Filling) (parts : List Part) : Prop :=
  (readMessages ((new.updateMaxChunkSize size).extendData (parts.flatMap (·.bytes filling)))).map
    (·.content) = parts.flatMap (·.completes filling)

/-! ### The parts of a message -/

namespace CutMessage

theorem msgLength_toNat (m : CutMessage) : m.msgLength.toNat = m.sizes.sum :=
  UInt32.toNat_ofNat_of_lt' (by have := m.short; rw [UInt32.size]; omega)

/-- A message of several chunks has something in each. -/
theorem positive {m : CutMessage} (h : 1 < m.sizes.length) {n : Nat} (hn : n ∈ m.sizes) : 0 < n := by
  rcases m.cut with hEmpty | ⟨-, hPositive⟩
  · rw [hEmpty] at h
    exact absurd h (Nat.lt_irrefl 1)
  · exact hPositive n hn

end CutMessage

namespace Part

variable {part : Part}

theorem size_eq (h : part.number < part.message.sizes.length) :
    part.size = part.message.sizes[part.number] := by
  rw [size, List.getD_eq_getElem?_getD, List.getElem?_eq_getElem h]
  rfl

theorem size_mem (h : part.number < part.message.sizes.length) :
    part.size ∈ part.message.sizes := by
  rw [size_eq h]
  exact List.getElem_mem h

theorem offset_next (h : part.number < part.message.sizes.length) :
    part.next.offset = part.offset + part.size := by
  rw [offset, next, List.take_succ_eq_append_getElem h, List.sum_append, size_eq h]
  exact congrArg (part.offset + ·) (Nat.add_zero _)

theorem offset_last (h : part.IsLast) : part.next.offset = part.message.sizes.sum :=
  congrArg List.sum (List.take_of_length_le (Nat.le_of_eq h.symm))

theorem offset_zero (h : part.number = 0) : part.offset = 0 := by
  rw [offset, h]
  rfl

theorem offset_le (part : Part) : part.offset ≤ part.message.sizes.sum := by
  have hSplit := congrArg List.sum (List.take_append_drop part.number part.message.sizes)
  rw [List.sum_append] at hSplit
  unfold offset
  omega

/-- Something comes behind a chunk that is not the last. -/
theorem offset_next_lt (h : part.number < part.message.sizes.length) (hMore : ¬part.IsLast) :
    0 < part.size ∧ part.next.offset < part.message.sizes.sum := by
  have hNext : part.next.number < part.message.sizes.length := by
    unfold IsLast at hMore
    change part.number + 1 < _
    omega
  have hSeveral : 1 < part.message.sizes.length := Nat.lt_of_le_of_lt (Nat.le_add_left _ _) hNext
  have hBehind : 0 < part.next.size := CutMessage.positive hSeveral (@size_mem part.next hNext)
  have hOffset := @offset_next part.next hNext
  have hTotal : part.next.next.offset ≤ part.message.sizes.sum := offset_le part.next.next
  exact ⟨CutMessage.positive hSeveral (size_mem h), by omega⟩

theorem length_data (filling : Filling) (h : part.number < part.message.sizes.length) :
    (part.data filling).length = part.size := by
  have hNext := offset_next h
  have hTotal := offset_le part.next
  change part.next.offset ≤ part.message.sizes.sum at hTotal
  rw [data, List.length_take, List.length_drop, filling.length_payload]
  omega

/-- What has been received after a chunk. -/
theorem take_next (filling : Filling) (h : part.number < part.message.sizes.length) :
    (filling.payload part.message).take part.offset ++ part.data filling =
      (filling.payload part.message).take part.next.offset := by
  rw [offset_next h, List.take_add]
  rfl

theorem length_received (filling : Filling) (part : Part) :
    ((filling.payload part.message).take part.offset).length = part.offset := by
  rw [List.length_take, filling.length_payload, Nat.min_eq_left part.offset_le]

end Part

/-! ### Reading a chunk -/

namespace CutMessage

/-- The header that the first chunk of a message leaves. -/
def left (m : CutMessage) : ChunkMessageHeader :=
  { m.header with
    extendedTimestampType := if m.timestamp ≥ 0xFFFFFF then .format0 else .none }

/-- The head of the first chunk. -/
def head (m : CutMessage) : ChunkHead where
  format := 0
  csid := m.id.csid
  first := m.first
  header := m.header
  extended := m.left.extendedValue

theorem extended_eq (m : CutMessage) :
    m.extended = extendedTimestampBytes m.left m.left.extendedValue := by
  unfold extended extendedTimestampBytes ChunkMessageHeader.extendedValue left
  by_cases hLate : m.timestamp ≥ 0xFFFFFF
  · simp only [if_pos hLate]
    rfl
  · simp only [if_neg hLate, if_true]

theorem first_lt (m : CutMessage) : m.first.toNat < 2 ^ 24 := by
  unfold first
  by_cases hLate : m.timestamp ≥ 0xFFFFFF
  · rw [if_pos hLate]
    decide
  · have hLess := UInt32.lt_iff_toNat_lt.mp (UInt32.not_le.mp hLate)
    rw [if_neg hLate]
    exact Nat.lt_of_lt_of_le hLess (by decide)

theorem first_late (m : CutMessage) : m.first ≥ 0xFFFFFF ↔ m.timestamp ≥ 0xFFFFFF := by
  unfold first
  by_cases hLate : m.timestamp ≥ 0xFFFFFF
  · rw [if_pos hLate]
    exact iff_of_true (by decide) hLate
  · rw [if_neg hLate]

theorem carried_head (m : CutMessage) (self : ChunkUnpacketizer) :
    m.head.carried self =
      { m.header with
        timestamp := m.first
        extendedTimestampType := if m.timestamp ≥ 0xFFFFFF then .format0 else .none } := by
  have hCarried : m.head.carried self =
      { m.header with
        timestamp := m.first
        extendedTimestampType := if m.first ≥ 0xFFFFFF then .format0 else .none } := rfl
  rw [hCarried]
  simp only [m.first_late]

theorem extended_carried (m : CutMessage) (self : ChunkUnpacketizer) :
    (m.head.carried self).extended m.left.extendedValue = m.left := by
  rw [carried_head]
  unfold left first
  by_cases hLate : m.timestamp ≥ 0xFFFFFF
  · simp only [if_pos hLate]
    rfl
  · simp only [if_neg hLate]
    rfl

end CutMessage

/-- The reader before the payload of a chunk, with part of the payload received and `rest` to read. -/
structure AtPayload (size : Nat) (m : CutMessage) (received rest : List UInt8)
    (r : ChunkUnpacketizer) : Prop where
  state : r.chunkReadState = .readMessagePayload
  field : r.msgHeaderReadState = .readTimeStamp
  chunkSize : r.maxChunkSize = size
  header : r.header = m.left
  csid : r.currentChunkInfo.basicHeader.chunkStreamId = m.id.csid
  payload : r.payload = received
  buffer : r.buffer = rest

/-- The first chunk of a message is read up to its payload, whatever has been received before. -/
theorem turns_first {self : ChunkUnpacketizer} {m : CutMessage} {rest : List UInt8}
    (result : UnpackResult) (hState : self.chunkReadState = .readBasicHeader)
    (hField : self.msgHeaderReadState = .readTimeStamp)
    (hBuffer : self.buffer = m.headBytes 0 ++ rest) :
    ∃ s, Turns (result, self) (.success, s) ∧
      AtPayload self.maxChunkSize m self.payload rest s := by
  have hExtended : extendedTimestampBytes (m.head.carried self) m.left.extendedValue =
      m.extended := by
    rw [m.extended_eq, m.carried_head]
    rfl
  have hTurns := turns_head (c := m.head) result hState hField (.inl rfl) m.first_lt
    (by
      change m.msgLength.toNat < _
      rw [m.msgLength_toNat]
      exact m.short)
    (@ChunkStreamId.isBasicHeader 0 (by decide) m.id) (fun hGivesUp => hGivesUp.2.2.1 rfl)
    (by
      rw [hBuffer, CutMessage.headBytes, if_pos rfl, ChunkHead.bytes]
      exact congrArg (fun bytes => (_ ++ (_ ++ bytes)) ++ rest) hExtended.symm)
  refine ⟨_, hTurns, rfl, ?_, ?_, ?_, rfl, ?_, ?_⟩
  · exact (begun_msgHeaderReadState (self.setReader ⟨rest⟩) 0 m.id.csid).trans hField
  · exact begun_maxChunkSize (self.setReader ⟨rest⟩) 0 m.id.csid
  · exact m.extended_carried self
  · exact begun_payload (self.setReader ⟨rest⟩) 0 m.id.csid
  · exact begun_buffer (self.setReader ⟨rest⟩) 0 m.id.csid

/-- The reader between two chunks: `previous` is the last one read. -/
structure Stands (size : Nat) (filling : Filling) (previous : Option Part)
    (r : ChunkUnpacketizer) : Prop where
  state : r.chunkReadState = .readBasicHeader
  field : r.msgHeaderReadState = .readTimeStamp
  chunkSize : r.maxChunkSize = size
  between : (∀ part ∈ previous, part.IsLast) → r.payload = []
  within : ∀ part ∈ previous, ¬part.IsLast →
    r.header = part.message.left ∧
      r.currentChunkInfo.basicHeader.chunkStreamId = part.message.id.csid ∧
      r.payload = (filling.payload part.message).take part.next.offset ∧ r.payload ≠ []

/-- Whether a chunk comes where the reader expects it: at the start of a message, or next in it. -/
def Part.Expected (previous : Option Part) (part : Part) : Prop :=
  part.number = 0 ∧ (∀ before ∈ previous, before.IsLast) ∨
    ∃ before, previous = some before ∧ ¬before.IsLast ∧ part = before.next

section Steps

variable {size : Nat} {filling : Filling} {previous : Option Part} {self : ChunkUnpacketizer}
  {part : Part} {rest : List UInt8}

theorem stands_new (size : Nat) (filling : Filling) (bytes : List UInt8) :
    Stands size filling none ((new.updateMaxChunkSize size).extendData bytes) :=
  ⟨rfl, rfl, rfl, fun _ => rfl, fun _ h => absurd h (Option.not_mem_none _)⟩

/-- The header of an expected chunk is read. -/
theorem Stands.turns_head (h : Stands size filling previous self) (result : UnpackResult)
    (hExpected : part.Expected previous)
    (hBuffer : self.buffer = part.message.headBytes part.number ++ rest) :
    ∃ s, Turns (result, self) (.success, s) ∧
      AtPayload size part.message ((filling.payload part.message).take part.offset) rest s := by
  rcases hExpected with ⟨hFirst, hLast⟩ | ⟨before, rfl, hMore, rfl⟩
  · rw [hFirst] at hBuffer
    obtain ⟨s, hTurns, hPayload⟩ := turns_first result h.state h.field hBuffer
    rw [h.chunkSize, h.between hLast] at hPayload
    rw [Part.offset_zero hFirst]
    exact ⟨s, hTurns, hPayload⟩
  · obtain ⟨hHeader, hCsid, hPayload, hSome⟩ := h.within before rfl hMore
    have hNext : before.next.number ≠ 0 := Nat.succ_ne_zero _
    rw [CutMessage.headBytes, if_neg hNext, CutMessage.extended_eq, List.append_assoc] at hBuffer
    have hBasic : IsBasicHeader 3 self.currentChunkInfo.basicHeader.chunkStreamId
        (before.message.id.bytes 3) := by
      rw [hCsid]
      exact ChunkStreamId.isBasicHeader (by decide) _
    have hTurns := turns_continued result h.state h.field hSome hBasic
      (by
        rw [hHeader]
        exact hBuffer)
    exact ⟨_, hTurns, rfl, h.field, h.chunkSize, hHeader, hCsid, hPayload, rfl⟩

/-- A full chunk that is not the last of its message is read. -/
theorem AtPayload.turns (h : AtPayload size part.message
      ((filling.payload part.message).take part.offset) (part.data filling ++ rest) self)
    (hNumber : part.number < part.message.sizes.length) (hMore : ¬part.IsLast)
    (hFull : part.size = size) :
    ∃ s, Turns (.success, self) (.success, s) ∧ Stands size filling (some part) s ∧
      s.buffer = rest := by
  obtain ⟨hSome, hLess⟩ := part.offset_next_lt hNumber hMore
  have hLength := part.length_data filling hNumber
  have hReceived : self.payload ++ part.data filling =
      (filling.payload part.message).take part.next.offset := by
    rw [h.payload, part.take_next filling hNumber]
  have hTurns := turns_part .success h.state (by rw [hLength, hFull, h.chunkSize])
    (by
      rw [← List.length_append, hReceived, h.header]
      change _ < part.message.msgLength.toNat
      rw [part.message.msgLength_toNat]
      exact Nat.lt_of_le_of_lt (List.length_take_le _ _) hLess)
    h.buffer
  refine ⟨_, hTurns, ⟨rfl, h.field, h.chunkSize, ?_, ?_⟩, rfl⟩
  · exact fun hLast => absurd (hLast part rfl) hMore
  · rintro _ ⟨⟩ -
    refine ⟨h.header, h.csid, hReceived, fun hNil => ?_⟩
    have hData := (List.append_eq_nil_iff.mp hNil).2
    rw [hData] at hLength
    exact absurd hLength (Nat.ne_of_lt hSome)

/-- The last chunk of a message completes it. -/
theorem AtPayload.run_last (h : AtPayload size part.message
      ((filling.payload part.message).take part.offset) (part.data filling ++ rest) self)
    (hLast : part.IsLast) (hFits : part.size ≤ size) :
    ∃ chunkInfo s, (loopOf readChunkTurn unread readChunkTurn_again).run (.success, self) =
        .ok (.chunkInfo chunkInfo) s ∧ chunkInfo.content = part.message.content filling ∧
      Stands size filling (some part) s ∧ s.buffer = rest := by
  have hNumber : part.number < part.message.sizes.length := Nat.lt_of_succ_le (Nat.le_of_eq hLast)
  have hLength := part.length_data filling hNumber
  have hReceived : self.payload ++ part.data filling = filling.payload part.message := by
    rw [h.payload, part.take_next filling hNumber, part.offset_last hLast,
      ← filling.length_payload, List.take_length]
  have hRun := readChunk_last .success h.state (by rw [hLength, h.chunkSize]; exact hFits)
    (by
      rw [← List.length_append, hReceived, h.header, filling.length_payload]
      exact part.message.msgLength_toNat.symm)
    h.buffer
  refine ⟨_, _, hRun, ?_, ⟨rfl, h.field, h.chunkSize, fun _ => rfl, ?_⟩, rfl⟩
  · change MessageContent.mk self.currentChunkInfo.basicHeader.chunkStreamId self.header.timestamp
      self.header.msgTypeId self.header.msgStreamdId (self.payload ++ part.data filling) = _
    rw [h.header, h.csid, hReceived]
    rfl
  · rintro _ ⟨⟩ hMore
    exact absurd hLast hMore

end Steps

/-! ### Reading all chunks -/

/-- What is read from within a call of `read_chunk` on. -/
def contentsFrom (state : UnpackResult × ChunkUnpacketizer) : List MessageContent :=
  match (loopOf readChunkTurn unread readChunkTurn_again).run state with
  | .ok (.chunkInfo chunkInfo) s => chunkInfo.content :: (readMessages s).map (·.content)
  | .ok _ s => (readMessages s).map (·.content)
  | .error _ _ => []

theorem contentsFrom_empty (self : ChunkUnpacketizer) :
    contentsFrom (.empty, self) = (readMessages self).map (·.content) := by
  have hRun : (loopOf readChunkTurn unread readChunkTurn_again).run (.empty, self) =
      readChunk self := rfl
  unfold contentsFrom
  rw [hRun]
  cases hRead : readChunk self with
  | ok result s =>
    cases result with
    | chunkInfo chunkInfo => rw [readMessages_cons hRead, List.map_cons]
    | _ => rw [readMessages_other hRead nofun]
  | error e s => rw [readMessages_error hRead, List.map_nil]

theorem contentsFrom_turns {state state' : UnpackResult × ChunkUnpacketizer}
    (h : Turns state state') : contentsFrom state = contentsFrom state' := by
  unfold contentsFrom
  rw [Loop.run_passes _ h]

theorem contentsFrom_ok {state : UnpackResult × ChunkUnpacketizer} {chunkInfo : ChunkInfo}
    {s : ChunkUnpacketizer} (h : (loopOf readChunkTurn unread readChunkTurn_again).run state =
      .ok (.chunkInfo chunkInfo) s) :
    contentsFrom state = chunkInfo.content :: contentsFrom (.empty, s) := by
  rw [contentsFrom, h, contentsFrom_empty]

section Runs

variable {size : Nat} {filling : Filling} {msgs : List CutMessage} {parts : List Part}

/-- An expected chunk that is the last of its message or full is read. -/
theorem Stands.reads {previous : Option Part} {part : Part} {rest : List UInt8}
    (result : UnpackResult) {self : ChunkUnpacketizer} (h : Stands size filling previous self)
    (hExpected : part.Expected previous) (hNumber : part.number < part.message.sizes.length)
    (hFits : part.size ≤ size) (hGoesOn : part.IsLast ∨ part.size = size)
    (hBuffer : self.buffer = part.bytes filling ++ rest) :
    ∃ state', contentsFrom (result, self) = part.completes filling ++ contentsFrom state' ∧
      Stands size filling (some part) state'.2 ∧ state'.2.buffer = rest := by
  rw [Part.bytes, List.append_assoc] at hBuffer
  obtain ⟨s, hHead, hPayload⟩ := h.turns_head result hExpected hBuffer
  by_cases hLast : part.IsLast
  · obtain ⟨chunkInfo, s', hRun, hContent, hStands, hRest⟩ := hPayload.run_last hLast hFits
    refine ⟨(.empty, s'), ?_, hStands, hRest⟩
    rw [contentsFrom_turns hHead, contentsFrom_ok hRun, hContent, Part.completes, if_pos hLast]
    rfl
  · obtain ⟨s', hTurns, hStands, hRest⟩ :=
      hPayload.turns hNumber hLast (hGoesOn.resolve_left hLast)
    refine ⟨(.success, s'), ?_, hStands, hRest⟩
    rw [contentsFrom_turns (hHead.trans hTurns), Part.completes, if_neg hLast]
    rfl

variable {pre rest mids : List Part} {part : Part}

/-- The chunks before a chunk on its chunk stream are those of its message before it. -/
theorem Interleaving.before (h : Interleaving size msgs parts)
    (hParts : parts = pre ++ part :: rest) :
    part.number < part.message.sizes.length ∧
      pre.filter (·.message.id.csid = part.message.id.csid) =
        (List.range part.number).map (.mk part.message) := by
  have hOrder := h.inOrder part.message
    (h.sent part (hParts ▸ List.mem_append_right _ List.mem_cons_self))
  have hSame : decide (part.message.id.csid = part.message.id.csid) = true := decide_eq_true rfl
  rw [hParts, List.filter_append, List.filter_cons, if_pos hSame] at hOrder
  generalize pre.filter (·.message.id.csid = part.message.id.csid) = before at hOrder ⊢
  have hPart := congrArg (·[before.length]?) hOrder
  simp only [List.getElem?_append_right (Nat.le_refl _), Nat.sub_self, List.getElem?_cons_zero,
    CutMessage.parts, List.getElem?_map] at hPart
  have hNumber : before.length < part.message.sizes.length := by
    by_contra hLong
    rw [List.getElem?_eq_none (by rw [List.length_range]; omega)] at hPart
    cases hPart
  rw [List.getElem?_range hNumber] at hPart
  have hLength : part.number = before.length := congrArg Part.number (Option.some.inj hPart)
  have hBefore := congrArg (List.take before.length) hOrder
  rw [List.take_left, CutMessage.parts, ← List.map_take, List.take_range,
    Nat.min_eq_left hNumber.le] at hBefore
  rw [hLength]
  exact ⟨hNumber, hBefore⟩

theorem Interleaving.of_mem_before (h : Interleaving size msgs parts)
    (hParts : parts = pre ++ part :: rest) {p : Part} (hp : p ∈ pre)
    (hCsid : p.message.id.csid = part.message.id.csid) :
    p.message = part.message ∧ p.number < part.number := by
  have hMem : p ∈ pre.filter (·.message.id.csid = part.message.id.csid) :=
    List.mem_filter.mpr ⟨hp, decide_eq_true hCsid⟩
  rw [(h.before hParts).2] at hMem
  obtain ⟨k, hk, rfl⟩ := List.mem_map.mp hMem
  exact ⟨rfl, List.mem_range.mp hk⟩

/-- A chunk that no unfinished message waits for is the first one of its message. -/
theorem Interleaving.starts (h : Interleaving size msgs parts)
    (hParts : parts = pre ++ part :: rest) (hChain : pre.IsChain (Part.LeadsTo size))
    (hOther : ∀ before ∈ pre.getLast?, ¬before.IsLast → part ≠ before.next) : part.number = 0 := by
  obtain ⟨hNumber, hBefore⟩ := h.before hParts
  by_contra hLater
  obtain ⟨k, hk⟩ := Nat.exists_eq_succ_of_ne_zero hLater
  have hNext : part = Part.next ⟨part.message, k⟩ := congrArg (Part.mk part.message) hk
  have hOpen : ¬Part.IsLast ⟨part.message, k⟩ := by
    intro hLast
    rw [hk] at hNumber
    exact absurd hLast hNumber.ne
  have hMem : Part.mk part.message k ∈ pre := by
    have hFilter : Part.mk part.message k ∈
        pre.filter (·.message.id.csid = part.message.id.csid) := by
      rw [hBefore]
      exact List.mem_map.mpr ⟨k, List.mem_range.mpr (by omega), rfl⟩
    exact (List.mem_filter.mp hFilter).1
  obtain ⟨a, b, rfl⟩ := List.append_of_mem hMem
  cases b with
  | nil => exact hOther _ List.getLast?_concat hOpen hNext
  | cons next b =>
    have hLeads := (List.isChain_split.mp hChain).2
    rw [List.isChain_cons_cons] at hLeads
    obtain ⟨-, hSame⟩ := hLeads.1.resolve_left hOpen
    rw [← hNext] at hSame
    subst hSame
    exact absurd (h.of_mem_before hParts (List.mem_append_right _ (List.mem_cons_of_mem _
      List.mem_cons_self)) rfl).2 (Nat.lt_irrefl _)

/-- Behind an unfinished message its last chunk is to come. -/
theorem Interleaving.completed (h : Interleaving size msgs parts)
    (hParts : parts = pre ++ part :: rest) (hMore : ¬part.IsLast) : ∃ last ∈ rest, last.IsLast := by
  obtain ⟨hNumber, -⟩ := h.before hParts
  have hSome : part.message.sizes.length - 1 + 1 = part.message.sizes.length := by omega
  have hMem : Part.mk part.message (part.message.sizes.length - 1) ∈ parts := by
    have hFilter : Part.mk part.message (part.message.sizes.length - 1) ∈ part.message.parts :=
      List.mem_map.mpr ⟨_, List.mem_range.mpr (by omega), rfl⟩
    rw [← h.inOrder part.message
      (h.sent part (hParts ▸ List.mem_append_right _ List.mem_cons_self))] at hFilter
    exact (List.mem_filter.mp hFilter).1
  rw [hParts] at hMem
  rcases List.mem_append.mp hMem with hPre | hRest
  · have hLess := (h.of_mem_before hParts hPre rfl).2
    dsimp only at hLess
    omega
  · rcases List.mem_cons.mp hRest with hPart | hBehind
    · exact absurd (hPart ▸ hSome) hMore
    · exact ⟨_, hBehind, hSome⟩

theorem Interleaving.expected (h : Interleaving size msgs parts)
    (hParts : parts = pre ++ part :: rest) (hChain : pre.IsChain (Part.LeadsTo size))
    (hLeads : ∀ before ∈ pre.getLast?, before.LeadsTo size part) :
    part.Expected pre.getLast? := by
  by_cases hLast : ∀ before ∈ pre.getLast?, before.IsLast
  · exact .inl ⟨h.starts hParts hChain fun before hBefore hMore =>
      absurd (hLast before hBefore) hMore, hLast⟩
  · push Not at hLast
    obtain ⟨before, hBefore, hMore⟩ := hLast
    exact .inr ⟨before, hBefore, hMore, ((hLeads before hBefore).resolve_left hMore).2⟩

/-- Chunks that are the last of their message, or full and followed by the next one, are read. -/
theorem Interleaving.reads (h : Interleaving size msgs parts)
    (hParts : parts = pre ++ (mids ++ rest)) (hChain : (pre ++ mids).IsChain (Part.LeadsTo size))
    (hGoesOn : ∀ part ∈ mids, part.IsLast ∨ part.size = size)
    (result : UnpackResult) {self : ChunkUnpacketizer}
    (hStands : Stands size filling pre.getLast? self)
    (hBuffer : self.buffer = (mids ++ rest).flatMap (·.bytes filling)) :
    ∃ state', contentsFrom (result, self) = mids.flatMap (·.completes filling) ++ contentsFrom state' ∧
      Stands size filling (pre ++ mids).getLast? state'.2 ∧
      state'.2.buffer = rest.flatMap (·.bytes filling) := by
  induction mids generalizing pre result self with
  | nil =>
    rw [List.append_nil]
    exact ⟨(result, self), rfl, hStands, hBuffer⟩
  | cons part mids ih =>
    rw [List.cons_append] at hParts hBuffer
    have hNumber := (h.before hParts).1
    have hLeads : ∀ before ∈ pre.getLast?, before.LeadsTo size part := by
      intro before hBefore
      exact (List.isChain_append.mp hChain).2.2 before hBefore part rfl
    have hExpected := h.expected hParts hChain.left_of_append hLeads
    have hFits : part.size ≤ size := h.fits part.message
      (h.sent part (hParts ▸ List.mem_append_right _ List.mem_cons_self)) _ (part.size_mem hNumber)
    obtain ⟨⟨result', next⟩, hFirst, hNext, hLeft⟩ := hStands.reads result hExpected hNumber hFits
      (hGoesOn part List.mem_cons_self) hBuffer
    have hSplit : pre ++ part :: mids = (pre ++ [part]) ++ mids := by
      rw [List.append_assoc, List.singleton_append]
    rw [hSplit] at hChain ⊢
    obtain ⟨last, hRest, hLast⟩ := ih
      (by rw [hParts, List.append_assoc, List.singleton_append]) hChain
      (fun p hp => hGoesOn p (List.mem_cons_of_mem _ hp)) result'
      (by
        rw [List.getLast?_concat]
        exact hNext)
      hLeft
    refine ⟨last, ?_, hLast⟩
    rw [hFirst, hRest, List.flatMap_cons, List.append_assoc]

theorem contentsFrom_nil {previous : Option Part} {state : UnpackResult × ChunkUnpacketizer}
    (h : Stands size filling previous state.2) (hBuffer : state.2.buffer = []) :
    contentsFrom state = [] := by
  have hRun : (loopOf readChunkTurn unread readChunkTurn_again).run state =
      .error .notEnoughBytes state.2 :=
    loopM_error (readChunkTurn_basicHeader_error h.state (readBasicHeader_nil hBuffer))
  rw [contentsFrom, hRun]

/-- A chunk with another one behind it is the last of its message or full. -/
theorem goesOn_of_chain {next : Part}
    (hChain : (pre ++ part :: next :: rest).IsChain (Part.LeadsTo size)) :
    part.IsLast ∨ part.size = size :=
  (List.isChain_iff_forall_rel_of_append_cons_cons.mp hChain rfl).imp_right And.left

/-- Messages that come one behind the other in full chunks are read back. -/
theorem Interleaving.readsBack (h : Interleaving size msgs parts)
    (hChain : parts.IsChain (Part.LeadsTo size)) (filling : Filling) :
    ReadsBack size filling parts := by
  have hGoesOn : ∀ part ∈ parts, part.IsLast ∨ part.size = size := by
    intro part hPart
    by_cases hLast : part.IsLast
    · exact .inl hLast
    obtain ⟨pre, rest, hParts⟩ := List.append_of_mem hPart
    obtain ⟨last, hRest, -⟩ := h.completed hParts hLast
    cases rest with
    | nil => exact absurd hRest List.not_mem_nil
    | cons next rest => exact goesOn_of_chain (hParts ▸ hChain)
  have hNone : parts = [] ++ (parts ++ []) := by rw [List.nil_append, List.append_nil]
  obtain ⟨state, hContents, hStands, hRest⟩ := h.reads hNone hChain hGoesOn .empty
    (stands_new size filling (parts.flatMap (·.bytes filling)))
    (by
      rw [List.append_nil]
      rfl)
  rw [ReadsBack, ← contentsFrom_empty, hContents, contentsFrom_nil hStands hRest, List.append_nil]

end Runs

/-! ### Chunks that are not expected -/

/-- A message that begins with the given bytes is being read, or has just been completed. -/
structure Begins (bytes : List UInt8) (result : UnpackResult) (r : ChunkUnpacketizer) : Prop where
  reading : r.chunkReadState ≠ .finish → bytes <+: r.payload
  finished : r.chunkReadState = .finish →
    ∃ chunkInfo, result = .chunkInfo chunkInfo ∧ bytes <+: chunkInfo.payload

section Begins

variable {bytes : List UInt8} {result result' : UnpackResult} {self self' : ChunkUnpacketizer}

theorem readBasicHeader_begins (h : bytes <+: self.payload)
    (hState : self.chunkReadState = .readBasicHeader)
    (hRead : readBasicHeader self = .ok result' self') : Begins bytes result' self' := by
  cases hBuffer : self.buffer with
  | nil =>
    rw [readBasicHeader_nil hBuffer] at hRead
    cases hRead
  | cons byte rest =>
    by_cases hTail : basicHeaderTail byte ≤ rest.length
    · by_cases hGivesUp : self.GivesUp (basicHeaderFormat byte) (basicHeaderCsid byte rest)
      · rw [readBasicHeader_givesUp hBuffer hTail hGivesUp] at hRead
        cases hRead
      · rw [readBasicHeader_whole hBuffer hTail hGivesUp] at hRead
        obtain ⟨-, rfl⟩ := EStateM.Result.ok.inj hRead
        refine ⟨fun _ => ?_, nofun⟩
        rw [begun_payload]
        exact h
    · rcases readBasicHeader_cut hBuffer (Nat.lt_of_not_le hTail) with ⟨hCut, -⟩ | hCut <;>
        rw [hCut] at hRead <;> cases hRead
      exact ⟨fun _ => h, fun hEnd => nomatch hState.symm.trans hEnd⟩

theorem readMessagePayload_begins
    (h : bytes <+: self.payload ++ self.buffer.take self.needReadLength)
    (hRead : readMessagePayload self = .ok result' self') : Begins bytes result' self' := by
  rw [readMessagePayload_eq] at hRead
  split at hRead
  · cases hRead
  · split at hRead
    · cases hRead
    · split at hRead <;> cases hRead
      · exact ⟨fun hOpen => absurd rfl hOpen, fun _ => ⟨_, rfl, h⟩⟩
      · exact ⟨fun _ => h, nofun⟩

/-- The payload of a message only grows. -/
theorem readChunkTurn_begins {turn : Turn UnpackResult UnpackResult} (h : Begins bytes result self)
    (hTurn : readChunkTurn result self = .ok turn self') :
    match turn with
    | .again result' => Begins bytes result' self'
    | .done result' => ∃ chunkInfo, result' = .chunkInfo chunkInfo ∧
        bytes <+: chunkInfo.payload := by
  unfold readChunkTurn at hTurn
  rw [bind_get] at hTurn
  cases hState : self.chunkReadState <;> simp only [hState] at hTurn
  case readBasicHeader =>
    obtain ⟨a, s, hRead, hEnd⟩ := bind_eq_ok hTurn
    cases hEnd
    exact readBasicHeader_begins (h.reading (by rw [hState]; exact nofun)) hState hRead
  case readMessageHeader =>
    obtain ⟨a, s, hRead, hEnd⟩ := bind_eq_ok hTurn
    cases hEnd
    obtain ⟨hFrame, hNext, -⟩ := readMessageHeader_ok hRead
    have hSame : self'.payload = self.payload := hFrame.payload
    refine ⟨fun _ => ?_, fun hEnd => nomatch hNext.symm.trans hEnd⟩
    rw [hSame]
    exact h.reading (by rw [hState]; exact nofun)
  case readExtendedTimestamp =>
    obtain ⟨a, s, hRead, hEnd⟩ := bind_eq_ok hTurn
    cases hEnd
    obtain ⟨hFrame, hNext, -⟩ := readExtendedTimestamp_ok hRead
    have hSame : self'.payload = self.payload := hFrame.payload
    refine ⟨fun _ => ?_, fun hEnd => nomatch hNext.symm.trans hEnd⟩
    rw [hSame]
    exact h.reading (by rw [hState]; exact nofun)
  case readMessagePayload =>
    obtain ⟨a, s, hRead, hEnd⟩ := bind_eq_ok hTurn
    cases hEnd
    have hReceived := h.reading (by rw [hState]; exact nofun)
    exact readMessagePayload_begins (hReceived.trans (List.prefix_append _ _)) hRead
  case finish =>
    cases hTurn
    exact h.finished hState

theorem run_begins (h : Begins bytes result self)
    (hRun : (loopOf readChunkTurn unread readChunkTurn_again).run (result, self) =
      .ok result' self') :
    ∃ chunkInfo, result' = .chunkInfo chunkInfo ∧ bytes <+: chunkInfo.payload :=
  loopM_ok_rule (I := Begins bytes) (Q := fun (result : UnpackResult) _ => ∃ chunkInfo,
      result = .chunkInfo chunkInfo ∧ bytes <+: chunkInfo.payload)
    (fun _ _ turn _ hBegins hTurn => by
      cases turn <;> exact readChunkTurn_begins hBegins hTurn) h hRun

/-- What is taken for payload behind the received bytes stays in the message. -/
theorem AtPayload.run_begins {size : Nat} {m : CutMessage} {received taken rest : List UInt8}
    (h : AtPayload size m received (taken ++ rest) self)
    (hMore : received.length + taken.length ≤ m.sizes.sum) (hFits : taken.length ≤ size)
    (hRun : (loopOf readChunkTurn unread readChunkTurn_again).run (result, self) =
      .ok result' self') :
    ∃ chunkInfo, result' = .chunkInfo chunkInfo ∧ received ++ taken <+: chunkInfo.payload := by
  have hTotal : self.header.msgLength.toNat = m.sizes.sum := by
    rw [h.header]
    exact m.msgLength_toNat
  have hNeed : taken.length ≤ self.needReadLength := by
    unfold needReadLength
    dsimp only
    rw [hTotal, h.payload, h.chunkSize]
    split <;> omega
  have hTaken : received ++ taken <+: self.payload ++ self.buffer.take self.needReadLength := by
    rw [h.payload, h.buffer, List.prefix_append_right_inj, List.prefix_take_iff]
    exact ⟨List.prefix_append _ _, hNeed⟩
  cases hRead : readMessagePayload self with
  | error e s =>
    have hError : (loopOf readChunkTurn unread readChunkTurn_again).run (result, self) =
        .error e s := loopM_error (readChunkTurn_messagePayload_error h.state hRead)
    rw [hError] at hRun
    cases hRun
  | ok a s =>
    have hAgain : (loopOf readChunkTurn unread readChunkTurn_again).run (result, self) =
        (loopOf readChunkTurn unread readChunkTurn_again).run (a, s) :=
      loopM_again (readChunkTurn_messagePayload h.state hRead)
    rw [hAgain] at hRun
    exact Chunk.run_begins (readMessagePayload_begins hTaken hRead) hRun

end Begins

theorem length_marked (m : CutMessage) (c d : UInt8) (m' : CutMessage) :
    (List.replicate m'.sizes.sum (if m' = m then c else d)).length = m'.sizes.sum :=
  List.length_replicate

/-- One message consists of the byte `c` only, and all others of the byte `d`. -/
def marked (m : CutMessage) (c d : UInt8) : Filling where
  payload m' := .replicate m'.sizes.sum (if m' = m then c else d)
  length_payload := length_marked m c d

section Marked

variable {m : CutMessage} {c d : UInt8}

theorem marked_self (m : CutMessage) (c d : UInt8) :
    (marked m c d).payload m = .replicate m.sizes.sum c :=
  congrArg (List.replicate m.sizes.sum) (if_pos rfl)

theorem marked_other {m' : CutMessage} (h : m' ≠ m) :
    (marked m c d).payload m' = .replicate m'.sizes.sum d :=
  congrArg (List.replicate m'.sizes.sum) (if_neg h)

/-- A part of the marked message is not a whole message. -/
theorem replicate_ne_marked {n : Nat} (hMarks : c ≠ d) (hPos : 0 < n) (hLess : n < m.sizes.sum)
    (m' : CutMessage) : List.replicate n c ≠ (marked m c d).payload m' := by
  intro hSame
  by_cases hm : m' = m
  · subst hm
    have hLength := congrArg List.length hSame
    rw [List.length_replicate, (marked m' c d).length_payload] at hLength
    omega
  · rw [marked_other hm] at hSame
    have hMem : c ∈ List.replicate n c := List.mem_replicate.mpr ⟨hPos.ne', rfl⟩
    rw [hSame] at hMem
    exact hMarks (List.mem_replicate.mp hMem).2

/-- Nor is a part of it with another byte behind. -/
theorem begins_ne_marked {n : Nat} {x : UInt8} {payload : List UInt8} (hMarks : c ≠ d)
    (hPos : 0 < n) (hOther : x ≠ c) (hBegins : List.replicate n c ++ [x] <+: payload)
    (m' : CutMessage) : payload ≠ (marked m c d).payload m' := by
  rintro rfl
  by_cases hm : m' = m
  · subst hm
    rw [marked_self] at hBegins
    have hMem := hBegins.subset (List.mem_append_right _ (List.mem_singleton_self x))
    exact hOther (List.mem_replicate.mp hMem).2
  · rw [marked_other hm] at hBegins
    have hMem := hBegins.subset
      (List.mem_append_left _ (List.mem_replicate.mpr ⟨hPos.ne', rfl⟩))
    exact hMarks (List.mem_replicate.mp hMem).2

end Marked

/-- A reader whose next message is none of those sent does not read them. -/
theorem contentsFrom_ne {filling : Filling} {state : UnpackResult × ChunkUnpacketizer}
    {parts : List Part} (hSome : ∃ last ∈ parts, last.IsLast)
    (h : ∀ result self, (loopOf readChunkTurn unread readChunkTurn_again).run state =
      .ok result self → ∃ chunkInfo, result = .chunkInfo chunkInfo ∧
        ∀ m, chunkInfo.payload ≠ filling.payload m) :
    contentsFrom state ≠ parts.flatMap (·.completes filling) := by
  intro hSame
  cases hRun : (loopOf readChunkTurn unread readChunkTurn_again).run state with
  | error e self =>
    rw [contentsFrom, hRun] at hSame
    obtain ⟨last, hMem, hLast⟩ := hSome
    have hNil := List.flatMap_eq_nil_iff.mp hSame.symm last hMem
    rw [Part.completes, if_pos hLast] at hNil
    cases hNil
  | ok result self =>
    obtain ⟨chunkInfo, rfl, hForeign⟩ := h result self hRun
    rw [contentsFrom_ok hRun] at hSame
    have hMem : chunkInfo.content ∈ parts.flatMap (·.completes filling) := by
      rw [← hSame]
      exact List.mem_cons_self
    obtain ⟨part, -, hContent⟩ := List.mem_flatMap.mp hMem
    unfold Part.completes at hContent
    split at hContent
    · exact hForeign part.message (congrArg (·.payload) (List.mem_singleton.mp hContent))
    · cases hContent

theorem CutMessage.positive_of_sum {m : CutMessage} (h : 0 < m.sizes.sum) {n : Nat}
    (hn : n ∈ m.sizes) : 0 < n := by
  rcases m.cut with hEmpty | ⟨-, hPositive⟩
  · rw [hEmpty] at h
    exact absurd h (Nat.lt_irrefl 0)
  · exact hPositive n hn

/-- A list that is not a chain has a first place where it breaks. -/
theorem exists_break {α : Type} {R : α → α → Prop} {l : List α} (h : ¬l.IsChain R) :
    ∃ pre a b rest, l = pre ++ a :: b :: rest ∧ (pre ++ [a]).IsChain R ∧ ¬R a b := by
  induction l with
  | nil => exact absurd .nil h
  | cons a l ih =>
    cases l with
    | nil => exact absurd (.singleton a) h
    | cons b l =>
      by_cases hFirst : R a b
      · have hRest : ¬(b :: l).IsChain R := fun hRest =>
          h (List.isChain_cons_cons.mpr ⟨hFirst, hRest⟩)
        obtain ⟨pre, c, d, rest, hSplit, hChain, hBreak⟩ := ih hRest
        refine ⟨a :: pre, c, d, rest, congrArg (a :: ·) hSplit, ?_, hBreak⟩
        cases pre with
        | nil =>
          obtain ⟨rfl, -⟩ := List.cons.inj hSplit
          exact List.isChain_cons_cons.mpr ⟨hFirst, hChain⟩
        | cons e pre =>
          obtain ⟨rfl, -⟩ := List.cons.inj hSplit
          exact List.isChain_cons_cons.mpr ⟨hFirst, hChain⟩
      · exact ⟨[], a, b, l, rfl, .singleton a, hFirst⟩

section Breaks

variable {size : Nat} {filling : Filling} {msgs : List CutMessage} {parts pre rest : List Part}
  {p q : Part} {self : ChunkUnpacketizer}

/-- A message of another chunk stream takes over what has been received. -/
theorem Stands.overtaken (h : Stands size filling (some p) self) {n : Nat} {c d : UInt8}
    (hReceived : self.payload = .replicate n c) (hPos : 0 < n)
    (hLess : n < p.message.sizes.sum) (hMarks : c ≠ d) (hFilling : filling = marked p.message c d)
    (hFits : 0 < size) (hFirst : q.number = 0) (hNumber : q.number < q.message.sizes.length)
    (hOther : q.message ≠ p.message) {bytes : List UInt8}
    (hBuffer : self.buffer = q.bytes filling ++ bytes) (result : UnpackResult) :
    ∀ result' self', (loopOf readChunkTurn unread readChunkTurn_again).run (result, self) =
      .ok result' self' → ∃ chunkInfo, result' = .chunkInfo chunkInfo ∧
        ∀ m, chunkInfo.payload ≠ filling.payload m := by
  intro result' self' hRun
  rw [Part.bytes, hFirst, List.append_assoc] at hBuffer
  obtain ⟨s, hTurns, hPayload⟩ := turns_first result h.state h.field hBuffer
  rw [h.chunkSize, hReceived] at hPayload
  rw [Loop.run_passes _ hTurns] at hRun
  have hTotal : s.header.msgLength.toNat = q.message.sizes.sum := by
    rw [hPayload.header]
    exact q.message.msgLength_toNat
  have hLength : s.payload.length = n := by rw [hPayload.payload, List.length_replicate]
  rcases Nat.lt_trichotomy q.message.sizes.sum n with hShort | hSame | hLong
  · have hPanic : readMessagePayload s = .error .panic s := by
      rw [readMessagePayload_eq, if_pos (by omega)]
    have hError : (loopOf readChunkTurn unread readChunkTurn_again).run (.success, s) =
        .error .panic s := loopM_error (readChunkTurn_messagePayload_error hPayload.state hPanic)
    rw [hError] at hRun
    cases hRun
  · have hNone : s.buffer = [] ++ (q.data filling ++ bytes) := hPayload.buffer
    have hEnd := readChunk_last .success hPayload.state (Nat.zero_le _)
      (by
        rw [hTotal, hSame]
        exact hLength)
      hNone
    rw [hEnd] at hRun
    obtain ⟨rfl, -⟩ := EStateM.Result.ok.inj hRun
    refine ⟨_, rfl, ?_⟩
    have hWhole : s.payload ++ [] = .replicate n c := by
      rw [List.append_nil, hPayload.payload]
    rw [hFilling]
    intro m hForm
    exact replicate_ne_marked hMarks hPos hLess m (hWhole.symm.trans hForm)
  · have hSize : 0 < q.size := CutMessage.positive_of_sum (by omega) (q.size_mem hNumber)
    have hData : q.data filling = [d] ++ .replicate (q.size - 1) d := by
      have hNext := q.offset_next hNumber
      have hBound := q.next.offset_le
      rw [Part.offset_zero hFirst] at hNext
      change q.next.offset ≤ q.message.sizes.sum at hBound
      rw [Part.data, Part.offset_zero hFirst, List.drop_zero, hFilling, marked_other hOther,
        List.take_replicate, Nat.min_eq_left (by omega), List.singleton_append,
        ← List.replicate_succ, Nat.sub_add_cancel hSize]
    rw [hData, List.append_assoc] at hPayload
    obtain ⟨chunkInfo, rfl, hBegins⟩ := hPayload.run_begins
      (by
        rw [List.length_replicate]
        exact hLong)
      hFits hRun
    rw [hFilling]
    exact ⟨chunkInfo, rfl, begins_ne_marked hMarks hPos hMarks.symm hBegins⟩

/-- Bytes of the next chunk are taken for payload behind a chunk that is not full. -/
theorem AtPayload.overrun {c d x : UInt8} {bytes : List UInt8}
    (h : AtPayload size p.message ((filling.payload p.message).take p.offset)
      (p.data filling ++ x :: bytes) self)
    (hNumber : p.number < p.message.sizes.length) (hMore : ¬p.IsLast) (hLess : p.size < size)
    (hMarks : c ≠ d) (hFilling : filling = marked p.message c d) (hOther : x ≠ c)
    (result : UnpackResult) :
    ∀ result' self', (loopOf readChunkTurn unread readChunkTurn_again).run (result, self) =
      .ok result' self' → ∃ chunkInfo, result' = .chunkInfo chunkInfo ∧
        ∀ m, chunkInfo.payload ≠ filling.payload m := by
  intro result' self' hRun
  obtain ⟨hSome, hBehind⟩ := p.offset_next_lt hNumber hMore
  have hNext := p.offset_next hNumber
  have hLength := p.length_data filling hNumber
  rw [List.append_cons] at h
  obtain ⟨chunkInfo, rfl, hBegins⟩ := h.run_begins
    (by
      rw [p.length_received, List.length_append, hLength, List.length_singleton]
      omega)
    (by
      rw [List.length_append, hLength]
      exact hLess)
    hRun
  have hReceived : (filling.payload p.message).take p.next.offset = .replicate p.next.offset c := by
    rw [hFilling, marked_self, List.take_replicate, Nat.min_eq_left hBehind.le]
  rw [← List.append_assoc, p.take_next filling hNumber, hReceived] at hBegins
  rw [hFilling]
  exact ⟨chunkInfo, rfl, begins_ne_marked hMarks (by omega) hOther hBegins⟩

theorem headBytes_cons (m : CutMessage) (number : Nat) :
    ∃ x bytes, m.headBytes number = x :: bytes := by
  unfold CutMessage.headBytes
  split
  · exact List.exists_cons_of_ne_nil (List.append_ne_nil_of_left_ne_nil (m.id.bytes_ne_nil 0) _)
  · exact List.exists_cons_of_ne_nil (List.append_ne_nil_of_left_ne_nil (m.id.bytes_ne_nil 3) _)

/-- Where a chunk is followed by one that does not continue it, or is not full, some payloads are
not read back. -/
theorem Interleaving.breaks (h : Interleaving size msgs parts) (hParts : parts = pre ++ p :: q :: rest)
    (hChain : (pre ++ [p]).IsChain (Part.LeadsTo size)) (hBreak : ¬p.LeadsTo size q) :
    ∃ filling, ¬ReadsBack size filling parts := by
  obtain ⟨hMore, hApart⟩ := not_or.mp hBreak
  obtain ⟨x, bytes, hHead⟩ := headBytes_cons q.message q.number
  have hMarks : x + 1 ≠ x := by
    intro hSame
    have hZero : x + 1 = x + 0 := hSame.trans (UInt8.add_zero x).symm
    exact absurd ((UInt8.add_right_inj x).mp hZero) (by decide)
  refine ⟨marked p.message (x + 1) x, fun hReads => ?_⟩
  have hGoesOn : ∀ part ∈ pre, part.IsLast ∨ part.size = size := by
    intro part hPart
    obtain ⟨a, b, rfl⟩ := List.append_of_mem hPart
    rw [List.append_assoc, List.cons_append] at hChain
    cases b with
    | nil => exact goesOn_of_chain hChain
    | cons next b => exact goesOn_of_chain hChain
  have hFits : p.size ≤ size := h.fits p.message
    (h.sent p (hParts ▸ List.mem_append_right _ List.mem_cons_self)) _
    (p.size_mem (h.before hParts).1)
  have hNumber := (h.before hParts).1
  have hLeads : ∀ before ∈ pre.getLast?, before.LeadsTo size p := by
    intro before hBefore
    exact (List.isChain_append.mp hChain).2.2 before hBefore p rfl
  -- What comes before is read, and so is the header of the chunk.
  have hNone : parts = [] ++ (pre ++ p :: q :: rest) := hParts
  obtain ⟨⟨result, self⟩, hContents, hStands, hBuffer⟩ := h.reads hNone hChain.left_of_append
    hGoesOn .empty
    (stands_new size (marked p.message (x + 1) x) (parts.flatMap
      (·.bytes (marked p.message (x + 1) x))))
    (by
      rw [← hParts]
      rfl)
  have hExpected := h.expected hParts hChain.left_of_append hLeads
  rw [List.flatMap_cons, Part.bytes, List.append_assoc] at hBuffer
  obtain ⟨s, hTurns, hPayload⟩ := hStands.turns_head result hExpected hBuffer
  rw [ReadsBack, ← contentsFrom_empty, hContents, hParts, List.flatMap_append] at hReads
  have hRest := List.append_cancel_left hReads
  rw [contentsFrom_turns hTurns] at hRest
  refine contentsFrom_ne ?_ ?_ hRest
  · obtain ⟨last, hMem, hLast⟩ := h.completed hParts hMore
    exact ⟨last, List.mem_cons_of_mem _ hMem, hLast⟩
  have hBefore : parts = (pre ++ [p]) ++ q :: rest := by
    rw [hParts, List.append_assoc, List.singleton_append]
  by_cases hFull : p.size = size
  · have hFirst : q.number = 0 := by
      refine h.starts hBefore hChain fun before hLast _ hNext => hApart ⟨hFull, ?_⟩
      rw [List.getLast?_concat] at hLast
      rw [hNext, Option.some.inj hLast]
    obtain ⟨s', hChunk, hNext, hLeft⟩ := hPayload.turns hNumber hMore hFull
    rw [Loop.run_passes _ hChunk]
    obtain ⟨hSome, hBehind⟩ := p.offset_next_lt hNumber hMore
    have hPos : 0 < p.next.offset := by
      rw [p.offset_next hNumber]
      omega
    have hReceived : s'.payload = .replicate p.next.offset (x + 1) := by
      rw [(hNext.within p rfl hMore).2.2.1, marked_self, List.take_replicate,
        Nat.min_eq_left hBehind.le]
    have hOther : q.message ≠ p.message := by
      intro hSame
      have hLess := (h.of_mem_before hBefore (List.mem_append_right _ List.mem_cons_self)
        (by rw [hSame])).2
      omega
    exact hNext.overtaken hReceived hPos hBehind hMarks rfl (hFull ▸ hSome) hFirst
      (h.before hBefore).1 hOther hLeft .success
  · rw [List.flatMap_cons, Part.bytes, hHead, List.append_assoc, List.cons_append] at hPayload
    exact hPayload.overrun hNumber hMore (Nat.lt_of_le_of_ne hFits hFull) hMarks rfl
      (fun hSame => hMarks hSame.symm) .success

end Breaks

/-- Every payload of the messages is read back exactly when each chunk but the last one of its message
is full and has the next one behind it. -/
theorem interleaving_readsBack_iff {size : Nat} {msgs : List CutMessage} {parts : List Part}
    (h : Interleaving size msgs parts) :
    (∀ filling, ReadsBack size filling parts) ↔ parts.IsChain (Part.LeadsTo size) := by
  constructor
  · intro hReads
    by_contra hChain
    obtain ⟨pre, p, q, rest, hParts, hBefore, hBreak⟩ := exists_break hChain
    obtain ⟨filling, hLost⟩ := h.breaks hParts hBefore hBreak
    exact hLost (hReads filling)
  · exact h.readsBack

/-- A message of 200 bytes on chunk stream 3, in two chunks. -/
def longMessage : CutMessage where
  id := .one 3 (by decide) (by decide)
  timestamp := 0
  msgTypeId := 8
  msgStreamId := 1
  sizes := [128, 72]
  short := by decide
  cut := by decide

/-- A message of one byte on chunk stream 4. -/
def shortMessage : CutMessage where
  id := .one 4 (by decide) (by decide)
  timestamp := 0
  msgTypeId := 9
  msgStreamId := 1
  sizes := [1]
  short := by decide
  cut := by decide

theorem one_behind_the_other : ReadsBack 128 (marked longMessage 7 8)
    [⟨longMessage, 0⟩, ⟨longMessage, 1⟩, ⟨shortMessage, 0⟩] := by
  have hOrder : Interleaving 128 [longMessage, shortMessage]
      [⟨longMessage, 0⟩, ⟨longMessage, 1⟩, ⟨shortMessage, 0⟩] :=
    ⟨by decide, by decide, by decide, by decide⟩
  exact (interleaving_readsBack_iff hOrder).mpr (by decide) _

/-- The short message between the two chunks of the long one. -/
theorem overtaken_lost : ¬∀ size msgs parts, Interleaving size msgs parts →
    ∀ filling, ReadsBack size filling parts := by
  intro hAll
  have hReads := hAll 128 [longMessage, shortMessage]
    [⟨longMessage, 0⟩, ⟨shortMessage, 0⟩, ⟨longMessage, 1⟩]
    ⟨by decide, by decide, by decide, by decide⟩ (marked longMessage 7 8)
  have hLost : ¬ReadsBack 128 (marked longMessage 7 8)
      [⟨longMessage, 0⟩, ⟨shortMessage, 0⟩, ⟨longMessage, 1⟩] := by
    unfold ReadsBack
    decide +kernel
  exact hLost hReads

end Xiu.Rtmp.Chunk
