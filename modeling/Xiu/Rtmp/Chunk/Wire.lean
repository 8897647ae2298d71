import Xiu.Rtmp.Chunk.Unpacketizer

/-! Chunks on the wire: the bytes of a chunk header, and how the reader reads the bytes of a chunk
that have all arrived. -/

namespace Xiu.Rtmp.Chunk

open Bytesio ProofKit ChunkUnpacketizer

/-- Three bytes of a header field. -/
abbrev u24Bytes (n : UInt32) : List UInt8 := ByteOrder.bigEndian.encode 3 n.toNat

/-- Four bytes of an extended timestamp. -/
abbrev u32Bytes (n : UInt32) : List UInt8 := ByteOrder.bigEndian.encode 4 n.toNat

/-- The bytes of a message header of format `format` whose timestamp or timestamp delta field is
`first`. -/
def messageHeaderBytes (format : UInt8) (first : UInt32) (header : ChunkMessageHeader) :
    List UInt8 :=
  if format = 0 then
    u24Bytes first ++ (u24Bytes header.msgLength ++
      ([header.msgTypeId] ++ ByteOrder.littleEndian.encode 4 header.msgStreamdId.toNat))
  else if format = 1 then u24Bytes first ++ (u24Bytes header.msgLength ++ [header.msgTypeId])
  else if format = 2 then u24Bytes first
  else []

/-- Bytes that are a whole basic header. -/
def IsBasicHeader (format : UInt8) (csid : UInt32) (bytes : List UInt8) : Prop :=
  ∃ byte tail, bytes = byte :: tail ∧ tail.length = basicHeaderTail byte ∧
    basicHeaderFormat byte = format ∧ basicHeaderCsid byte tail = csid

/-- The bytes after a basic header do not change its chunk stream id. -/
theorem basicHeaderCsid_append {byte : UInt8} {tail : List UInt8} (rest : List UInt8)
    (h : basicHeaderTail byte ≤ tail.length) :
    basicHeaderCsid byte (tail ++ rest) = basicHeaderCsid byte tail := by
  unfold basicHeaderCsid
  unfold basicHeaderTail at h
  by_cases h0 : byte &&& 0b00111111 = 0
  · simp only [if_pos h0] at h ⊢
    rw [List.take_append_of_le_length h]
  · simp only [if_neg h0] at h ⊢
    by_cases h1 : byte &&& 0b00111111 = 1
    · simp only [if_pos h1] at h ⊢
      have hDrop : 1 ≤ (tail.drop 1).length := by
        rw [List.length_drop]
        omega
      rw [List.take_append_of_le_length (by omega), List.drop_append_of_le_length (by omega),
        List.take_append_of_le_length hDrop]
    · simp only [if_neg h1]

theorem readBasicHeader_bytes {self : ChunkUnpacketizer} {format : UInt8} {csid : UInt32}
    {bytes rest : List UInt8} (hBytes : IsBasicHeader format csid bytes)
    (h : self.buffer = bytes ++ rest) (hGoesOn : ¬self.GivesUp format csid) :
    readBasicHeader self =
      .ok (.chunkBasicHeaderResult ⟨format, csid⟩)
        ((self.setReader ⟨rest⟩).begun format csid) := by
  obtain ⟨byte, tail, rfl, hTail, rfl, rfl⟩ := hBytes
  have hCsid := basicHeaderCsid_append rest (Nat.le_of_eq hTail.symm)
  have hWhole := readBasicHeader_whole (t := tail ++ rest) h
    (by rw [List.length_append]; omega) (by rwa [hCsid])
  rw [hCsid] at hWhole
  rw [hWhole, ← hTail, List.drop_left]

theorem format_cases {format : UInt8} (h : format < 4) :
    format = 0 ∨ format = 1 ∨ format = 2 ∨ format = 3 := by
  have hLt := UInt8.lt_iff_toNat_lt.mp h
  simp only [← UInt8.toNat_inj]
  change format.toNat < 4 at hLt
  change format.toNat = 0 ∨ format.toNat = 1 ∨ format.toNat = 2 ∨ format.toNat = 3
  omega

/-- The byte of a format and a chunk stream id of six bits gives both back. -/
theorem basicHeaderByte {k csid : UInt8} (hFormat : k < 4) (hCsid : csid < 64) :
    (k <<< 6 ||| csid) &&& 0b00111111 = csid ∧
      basicHeaderFormat (k <<< 6 ||| csid) = k := by
  refine forall_byte (P := fun csid => csid < 64 →
    (k <<< 6 ||| csid) &&& 0b00111111 = csid ∧
      basicHeaderFormat (k <<< 6 ||| csid) = k) ?_ csid hCsid
  rcases format_cases hFormat with rfl | rfl | rfl | rfl <;> decide +kernel

/-- A basic header of one byte. -/
theorem isBasicHeader_one {k csid : UInt8} (hFormat : k < 4) (hLow : 2 ≤ csid)
    (hHigh : csid < 64) : IsBasicHeader k csid.toUInt32 [k <<< 6 ||| csid] := by
  obtain ⟨hAnd, hShift⟩ := basicHeaderByte hFormat hHigh
  have h0 : csid ≠ 0 := by
    rintro rfl
    exact absurd hLow (by decide)
  have h1 : csid ≠ 1 := by
    rintro rfl
    exact absurd hLow (by decide)
  refine ⟨_, [], rfl, ?_, hShift, ?_⟩
  · rw [basicHeaderTail, hAnd, if_neg h0, if_neg h1]
    rfl
  · rw [basicHeaderCsid, hAnd, if_neg h0, if_neg h1]

/-! ### The fields of a header -/

/-- The reader after a header field of the given bytes, with `rest` behind them. -/
def ChunkUnpacketizer.afterField (self : ChunkUnpacketizer) (format : UInt8)
    (bytes rest : List UInt8) : ChunkUnpacketizer :=
  ((self.setReader ⟨rest⟩).setHeader
    (self.header.setField format self.msgHeaderReadState bytes)).setMsgHeaderReadState
      (self.msgHeaderReadState.next format)

section Fields

variable {self : ChunkUnpacketizer} {format : UInt8} {bytes rest : List UInt8}
  {turn : Unit → Unpack (Turn Unit Unit)}
  {decreases : ∀ a a' s s', turn a s = .ok (.again a') s' → s'.buffer.length < s.buffer.length}

theorem takeField_append (h : self.buffer = bytes ++ rest)
    (hLen : bytes.length = self.msgHeaderReadState.width) :
    self.takeField format = self.afterField format bytes rest := by
  unfold takeField afterField
  dsimp only
  rw [h, ← hLen, List.take_left, List.drop_left]

/-- A loop over fields takes a field that has arrived and goes on with the next one, if any. -/
theorem readFields_append (h : self.buffer = bytes ++ rest)
    (hLen : bytes.length = self.msgHeaderReadState.width)
    (hTurn : turn () self =
      if self.buffer.length < self.msgHeaderReadState.width then .error .notEnoughBytes self
      else .ok (fieldTurn (self.msgHeaderReadState.next format)) (self.takeField format)) :
    loopM turn (·.buffer.length) decreases () self =
      if self.msgHeaderReadState.next format = .readTimeStamp then
        .ok () (self.afterField format bytes rest)
      else loopM turn (·.buffer.length) decreases () (self.afterField format bytes rest) := by
  rw [if_neg (by rw [h, List.length_append]; omega), takeField_append h hLen] at hTurn
  cases hNext : self.msgHeaderReadState.next format <;> rw [hNext] at hTurn
  case readTimeStamp => exact loopM_done hTurn
  all_goals exact loopM_again hTurn

end Fields

theorem afterField_msgHeaderReadState (self : ChunkUnpacketizer) (format : UInt8)
    (bytes rest : List UInt8) :
    (self.afterField format bytes rest).msgHeaderReadState = self.msgHeaderReadState.next format :=
  rfl

theorem readFields0_append {self : ChunkUnpacketizer} {bytes rest : List UInt8}
    (h : self.buffer = bytes ++ rest) (hLen : bytes.length = self.msgHeaderReadState.width) :
    readFields0 self =
      if self.msgHeaderReadState.next 0 = .readTimeStamp then .ok () (self.afterField 0 bytes rest)
      else readFields0 (self.afterField 0 bytes rest) :=
  readFields_append h hLen (readFormat0_eq () self)

theorem readFields1_append {self : ChunkUnpacketizer} {bytes rest : List UInt8}
    (hState : self.msgHeaderReadState ≠ .readMsgStreamID)
    (h : self.buffer = bytes ++ rest) (hLen : bytes.length = self.msgHeaderReadState.width) :
    readFields1 self =
      if self.msgHeaderReadState.next 1 = .readTimeStamp then .ok () (self.afterField 1 bytes rest)
      else readFields1 (self.afterField 1 bytes rest) :=
  readFields_append h hLen (readFormat1_eq () hState)

/-- All the fields of format 0. -/
theorem readFields0_bytes {self : ChunkUnpacketizer} {first : UInt32}
    {header : ChunkMessageHeader} {rest : List UInt8}
    (hState : self.msgHeaderReadState = .readTimeStamp) (hFirst : first.toNat < 2 ^ 24)
    (hLength : header.msgLength.toNat < 2 ^ 24)
    (h : self.buffer = messageHeaderBytes 0 first header ++ rest) :
    readFields0 self = .ok ()
      ((self.setReader ⟨rest⟩).setHeader
        { self.header with
          timestamp := first
          msgLength := header.msgLength
          msgTypeId := header.msgTypeId
          msgStreamdId := header.msgStreamdId }) := by
  simp only [messageHeaderBytes, if_true, List.append_assoc] at h
  rw [readFields0_append h (by rw [hState]; rfl), hState, if_neg (by decide),
    readFields0_append rfl (by rw [afterField_msgHeaderReadState, hState]; rfl),
    afterField_msgHeaderReadState, hState, if_neg (by decide),
    readFields0_append rfl (by simp only [afterField_msgHeaderReadState, hState]; rfl),
    afterField_msgHeaderReadState, afterField_msgHeaderReadState, hState, if_neg (by decide),
    readFields0_append rfl (by simp only [afterField_msgHeaderReadState, hState]; rfl),
    afterField_msgHeaderReadState, afterField_msgHeaderReadState, afterField_msgHeaderReadState,
    hState, if_pos (by decide)]
  obtain ⟨reader, info, headers, state, field, size, number⟩ := self
  subst hState
  simp only [afterField, ChunkMessageHeader.setField, MessageHeaderReadState.next, if_true,
    BytesReader.decodeU32_encode3 _ hFirst, BytesReader.decodeU32_encode3 _ hLength,
    BytesReader.decodeU32_encode4]
  rfl

/-- All the fields of format 1. -/
theorem readFields1_bytes {self : ChunkUnpacketizer} {first : UInt32}
    {header : ChunkMessageHeader} {rest : List UInt8}
    (hState : self.msgHeaderReadState = .readTimeStamp) (hFirst : first.toNat < 2 ^ 24)
    (hLength : header.msgLength.toNat < 2 ^ 24)
    (h : self.buffer = messageHeaderBytes 1 first header ++ rest) :
    readFields1 self = .ok ()
      ((self.setReader ⟨rest⟩).setHeader
        { self.header with
          timestampDelta := first
          msgLength := header.msgLength
          msgTypeId := header.msgTypeId }) := by
  replace h : self.buffer =
      u24Bytes first ++ (u24Bytes header.msgLength ++ ([header.msgTypeId] ++ rest)) := by
    rw [h]
    simp only [messageHeaderBytes, if_neg (by decide : (1 : UInt8) ≠ 0), if_true,
      List.append_assoc]
  rw [readFields1_append (by rw [hState]; decide) h (by rw [hState]; rfl), hState,
    if_neg (by decide),
    readFields1_append (by rw [afterField_msgHeaderReadState, hState]; decide) rfl
      (by rw [afterField_msgHeaderReadState, hState]; rfl),
    afterField_msgHeaderReadState, hState, if_neg (by decide),
    readFields1_append (by simp only [afterField_msgHeaderReadState, hState]; decide) rfl
      (by simp only [afterField_msgHeaderReadState, hState]; rfl),
    afterField_msgHeaderReadState, afterField_msgHeaderReadState, hState, if_pos (by decide)]
  obtain ⟨reader, info, headers, state, field, size, number⟩ := self
  subst hState
  simp only [afterField, ChunkMessageHeader.setField, MessageHeaderReadState.next,
    if_neg (by decide : (1 : UInt8) ≠ 0), BytesReader.decodeU32_encode3 _ hFirst,
    BytesReader.decodeU32_encode3 _ hLength]
  rfl

/-- The message header that a chunk of format `format` leaves, whose timestamp or timestamp delta
field is `first` and whose other fields are those of `header`. -/
def ChunkMessageHeader.carry (previous : ChunkMessageHeader) (format : UInt8) (first : UInt32)
    (header : ChunkMessageHeader) : ChunkMessageHeader :=
  if format = 0 then
    { previous with
      timestamp := first
      msgLength := header.msgLength
      msgTypeId := header.msgTypeId
      msgStreamdId := header.msgStreamdId
      extendedTimestampType := if first ≥ 0xFFFFFF then .format0 else .none }
  else if format = 1 then
    { previous with
      timestampDelta := first
      msgLength := header.msgLength
      msgTypeId := header.msgTypeId
      extendedTimestampType := if first ≥ 0xFFFFFF then .format12 else .none }
  else if format = 2 then
    { previous with
      timestampDelta := first
      extendedTimestampType := if first ≥ 0xFFFFFF then .format12 else .none }
  else previous

theorem setReader_setHeader_self {self : ChunkUnpacketizer} {rest : List UInt8}
    (h : self.buffer = rest) : (self.setReader ⟨rest⟩).setHeader self.header = self := by
  rw [← h]
  rfl

theorem readHeaderOf_bytes {self : ChunkUnpacketizer} {first : UInt32}
    {header : ChunkMessageHeader} {rest : List UInt8} {format : UInt8}
    (hFormat : format = 0 ∨ format = 1 ∨ format = 2 ∨ format = 3)
    (hNone : format ≠ 3 → self.header.extendedTimestampType = .none)
    (hState : self.msgHeaderReadState = .readTimeStamp) (hFirst : first.toNat < 2 ^ 24)
    (hLength : header.msgLength.toNat < 2 ^ 24)
    (h : self.buffer = messageHeaderBytes format first header ++ rest) :
    readHeaderOf format self =
      .ok () ((self.setReader ⟨rest⟩).setHeader (self.header.carry format first header)) := by
  unfold readHeaderOf ChunkMessageHeader.carry
  rcases hFormat with rfl | rfl | rfl | rfl
  · rw [if_pos rfl, if_pos rfl, bind_of_ok (readFields0_bytes hState hFirst hLength h),
      ← hNone (by decide)]
    unfold modifyHeader ChunkMessageHeader.markFormat0
    by_cases hExtended : first ≥ 0xFFFFFF
    · simp only [modify_apply, setHeader, setReader, ChunkUnpacketizer.header, if_pos hExtended]
    · simp only [modify_apply, setHeader, setReader, ChunkUnpacketizer.header, if_neg hExtended]
  · have h0 : (1 : UInt8) ≠ 0 := by decide
    rw [if_neg h0, if_neg h0, if_pos rfl, if_pos rfl,
      bind_of_ok (readFields1_bytes hState hFirst hLength h), ← hNone (by decide)]
    unfold modifyHeader ChunkMessageHeader.markFormat12
    by_cases hExtended : first ≥ 0xFFFFFF
    · simp only [modify_apply, setHeader, setReader, ChunkUnpacketizer.header, if_pos hExtended]
    · simp only [modify_apply, setHeader, setReader, ChunkUnpacketizer.header, if_neg hExtended]
  · have h0 : (2 : UInt8) ≠ 0 := by decide
    have h1 : (2 : UInt8) ≠ 1 := by decide
    have hBuffer : self.buffer = u24Bytes first ++ rest := h
    have hShort : ¬self.buffer.length < 3 := by
      rw [hBuffer, List.length_append, ByteOrder.length_encode]
      omega
    have hTake : self.buffer.take 3 = u24Bytes first := by
      rw [hBuffer, List.take_left' (ByteOrder.length_encode _ _ _)]
    have hDrop : self.buffer.drop 3 = rest := by
      rw [hBuffer, List.drop_left' (ByteOrder.length_encode _ _ _)]
    rw [if_neg h0, if_neg h0, if_neg h1, if_neg h1, if_pos rfl, if_pos rfl, bind_readCursor,
      if_neg hShort, hTake, hDrop, BytesReader.decodeU32_encode3 _ hFirst, ← hNone (by decide)]
    unfold modifyHeader ChunkMessageHeader.markFormat12
    by_cases hExtended : first ≥ 0xFFFFFF
    · simp only [bind_modify, modify_apply, setHeader, setReader, ChunkUnpacketizer.header,
        if_pos hExtended]
    · simp only [bind_modify, modify_apply, setHeader, setReader, ChunkUnpacketizer.header,
        if_neg hExtended]
  · have h0 : (3 : UInt8) ≠ 0 := by decide
    have h1 : (3 : UInt8) ≠ 1 := by decide
    have h2 : (3 : UInt8) ≠ 2 := by decide
    have hBuffer : self.buffer = rest := h
    rw [if_neg h0, if_neg h0, if_neg h1, if_neg h1, if_neg h2, if_neg h2,
      setReader_setHeader_self hBuffer]
    rfl

/-- Formats other than 3 set anew what `prepared` drops. -/
theorem prepared_carry {self : ChunkUnpacketizer} {first : UInt32} {header : ChunkMessageHeader}
    {format : UInt8} (hFormat : format = 0 ∨ format = 1 ∨ format = 2 ∨ format = 3)
    (hHeader : self.currentChunkInfo.basicHeader.format = format) (rest : List UInt8) :
    (self.prepared.setReader ⟨rest⟩).setHeader (self.prepared.header.carry format first header) =
      (self.setReader ⟨rest⟩).setHeader (self.header.carry format first header) := by
  unfold prepared ChunkMessageHeader.carry
  rw [hHeader]
  rcases hFormat with rfl | rfl | rfl | rfl <;> rfl

theorem readMessageHeader_bytes {r : ChunkUnpacketizer} {v : UInt32}
    {m : ChunkMessageHeader} {rest : List UInt8} {k : UInt8}
    (hFormat : k = 0 ∨ k = 1 ∨ k = 2 ∨ k = 3)
    (hHeader : r.currentChunkInfo.basicHeader.format = k)
    (hState : r.msgHeaderReadState = .readTimeStamp) (hFirst : v.toNat < 2 ^ 24)
    (hLength : m.msgLength.toNat < 2 ^ 24)
    (h : r.buffer = messageHeaderBytes k v m ++ rest) :
    readMessageHeader r = .ok .success
      (((r.setReader ⟨rest⟩).setHeader
        (r.header.carry k v m)).setChunkReadState .readExtendedTimestamp) := by
  have hNone : k ≠ 3 → r.prepared.header.extendedTimestampType = .none := by
    intro h3
    unfold prepared
    rw [hHeader, if_pos h3]
    rfl
  have hPrepared : r.prepared.msgHeaderReadState = .readTimeStamp := by
    unfold prepared
    split <;> exact hState
  have hBuffer : r.prepared.buffer = messageHeaderBytes k v m ++ rest := by
    unfold prepared
    split <;> exact h
  rw [readMessageHeader_eq, hHeader,
    readHeaderOf_bytes hFormat hNone hPrepared hFirst hLength hBuffer,
    prepared_carry hFormat hHeader]

/-! ### The head of a chunk -/

/-- The bytes of an extended timestamp, if one is in force. -/
def extendedTimestampBytes (header : ChunkMessageHeader) (value : UInt32) : List UInt8 :=
  if header.extendedTimestampType = .none then [] else u32Bytes value

theorem readExtendedTimestamp_bytes {r : ChunkUnpacketizer} {value : UInt32}
    {rest : List UInt8} (h : r.buffer = extendedTimestampBytes r.header value ++ rest) :
    readExtendedTimestamp r = .ok .success
      ((((r.setReader ⟨rest⟩).setHeader (r.header.extended value)).computeTimestamp)
        |>.setChunkReadState .readMessagePayload) := by
  unfold extendedTimestampBytes at h
  rw [readExtendedTimestamp_eq]
  unfold takeExtended
  by_cases hNone : r.header.extendedTimestampType = .none
  · rw [if_pos hNone] at h
    have hBuffer : r.buffer = rest := h
    rw [if_neg fun hShort => hShort.1 hNone, if_pos hNone, extended_none hNone,
      setReader_setHeader_self hBuffer]
  · rw [if_neg hNone] at h
    have hLen : ¬r.buffer.length < 4 := by
      rw [h, List.length_append, ByteOrder.length_encode]
      omega
    have hTake : r.buffer.take 4 = u32Bytes value := by
      rw [h, List.take_left' (ByteOrder.length_encode _ _ _)]
    have hDrop : r.buffer.drop 4 = rest := by
      rw [h, List.drop_left' (ByteOrder.length_encode _ _ _)]
    rw [if_neg fun hShort => hLen hShort.2, if_neg hNone, hTake, hDrop,
      BytesReader.decodeU32_encode4]

/-- What the head of a chunk says: the basic header, the timestamp or timestamp delta field, the
other fields, and the extended timestamp. -/
structure ChunkHead where
  format : UInt8
  csid : UInt32
  first : UInt32
  header : ChunkMessageHeader
  extended : UInt32

namespace ChunkHead

/-- The message header in force on the chunk stream of a head, with the fields that the head
carries. -/
def carried (head : ChunkHead) (self : ChunkUnpacketizer) : ChunkMessageHeader :=
  (self.begun head.format head.csid).header.carry head.format head.first head.header

/-- The reader after the head of a chunk, with `rest` behind it. -/
def read (head : ChunkHead) (self : ChunkUnpacketizer) (rest : List UInt8) : ChunkUnpacketizer :=
  (((self.setReader ⟨rest⟩).begun head.format head.csid).setHeader
    ((head.carried self).extended head.extended)).computeTimestamp.setChunkReadState
      .readMessagePayload

/-- The bytes of a head, given those of its basic header. -/
def bytes (head : ChunkHead) (self : ChunkUnpacketizer) (basicHeader : List UInt8) : List UInt8 :=
  basicHeader ++ (messageHeaderBytes head.format head.first head.header ++
    extendedTimestampBytes (head.carried self) head.extended)

end ChunkHead

theorem switched_setReader (self : ChunkUnpacketizer) (reader : BytesReader) (format : UInt8)
    (csid : UInt32) :
    (self.setReader reader).switched format csid =
      (self.switched format csid).setReader reader := by
  unfold switched
  by_cases hCsid : csid = self.currentChunkInfo.basicHeader.chunkStreamId
  · rw [if_pos hCsid]
    exact if_pos hCsid
  · rw [if_neg hCsid]
    refine (if_neg hCsid).trans ?_
    cases hLookup : self.chunkMessageHeaders.lookup csid with
    | none => simp only [setReader, hLookup]
    | some header =>
      simp only [setReader, hLookup]
      rfl

theorem begun_setReader (self : ChunkUnpacketizer) (reader : BytesReader) (format : UInt8)
    (csid : UInt32) :
    (self.setReader reader).begun format csid = (self.begun format csid).setReader reader := by
  unfold begun
  rw [switched_setReader]
  by_cases hFormat : format = 0
  · simp only [if_pos hFormat]
    rfl
  · simp only [if_neg hFormat]
    rfl

section Head

variable {self : ChunkUnpacketizer} {c : ChunkHead} {basicHeader rest : List UInt8}
  (result : UnpackResult) (hChunk : self.chunkReadState = .readBasicHeader)
  (hField : self.msgHeaderReadState = .readTimeStamp)
  (hFormat : c.format = 0 ∨ c.format = 1 ∨ c.format = 2 ∨ c.format = 3)
  (hFirst : c.first.toNat < 2 ^ 24) (hLength : c.header.msgLength.toNat < 2 ^ 24)
  (hBasic : IsBasicHeader c.format c.csid basicHeader)
  (hGoesOn : ¬self.GivesUp c.format c.csid)
  (h : self.buffer = c.bytes self basicHeader ++ rest)
include hChunk hField hFormat hFirst hLength hBasic hGoesOn h

/-- A chunk whose c has arrived is read up to its payload in three turns. -/
theorem head_turns :
    ∃ result1 s1 s2, readChunkTurn result self = .ok (.again result1) s1 ∧
      s1.chunkReadState = .readMessageHeader ∧
      readChunkTurn result1 s1 = .ok (.again .success) s2 ∧
      s2.chunkReadState = .readExtendedTimestamp ∧
      readChunkTurn .success s2 = .ok (.again .success) (c.read self rest) := by
  rw [ChunkHead.bytes, List.append_assoc, List.append_assoc] at h
  have h1 := readBasicHeader_bytes hBasic h hGoesOn
  rw [begun_setReader] at h1
  have h2 := readMessageHeader_bytes hFormat
    (r := (self.begun c.format c.csid).setReader ⟨messageHeaderBytes c.format c.first
      c.header ++ (extendedTimestampBytes (c.carried self) c.extended ++ rest)⟩) rfl
    (by rw [← hField]; exact begun_msgHeaderReadState _ _ _) hFirst hLength rfl
  have h3 := readExtendedTimestamp_bytes
    (r := (((self.begun c.format c.csid).setReader
      ⟨extendedTimestampBytes (c.carried self) c.extended ++ rest⟩).setHeader
        (c.carried self)).setChunkReadState .readExtendedTimestamp) rfl
  have hRead : c.read self rest =
      (((self.begun c.format c.csid).setReader ⟨rest⟩).setHeader
        ((c.carried self).extended c.extended)).computeTimestamp.setChunkReadState
          .readMessagePayload := by
    rw [ChunkHead.read, begun_setReader]
  refine ⟨_, _, _, readChunkTurn_basicHeader hChunk h1, rfl,
    readChunkTurn_messageHeader rfl h2, rfl, ?_⟩
  rw [hRead]
  exact readChunkTurn_extendedTimestamp rfl h3

/-- A chunk whose c has arrived is read up to its payload. -/
theorem turns_head : Turns (result, self) (.success, c.read self rest) := by
  obtain ⟨_, _, _, h1, -, h2, -, h3⟩ :=
    head_turns result hChunk hField hFormat hFirst hLength hBasic hGoesOn h
  exact ((Turns.single h1).trans (Turns.single h2)).trans (Turns.single h3)

end Head

/-! ### The payload of a chunk -/

/-- The reader after payload bytes, with `rest` behind them. -/
def ChunkUnpacketizer.received (self : ChunkUnpacketizer) (data rest : List UInt8) :
    ChunkUnpacketizer :=
  (self.setReader ⟨rest⟩).setPayload (self.payload ++ data)

theorem takePayload_append {self : ChunkUnpacketizer} {data rest : List UInt8}
    (h : self.buffer = data ++ rest) : self.takePayload data.length = self.received data rest := by
  unfold takePayload received
  rw [h, List.take_left, List.drop_left]

/-- A chunk that is not the last one of its message carries as much payload as chunks can. -/
theorem readChunkTurn_part {self : ChunkUnpacketizer} {data rest : List UInt8} (result : UnpackResult)
    (hChunk : self.chunkReadState = .readMessagePayload) (hFull : data.length = self.maxChunkSize)
    (hMore : self.payload.length + data.length < self.header.msgLength.toNat)
    (h : self.buffer = data ++ rest) :
    readChunkTurn result self =
      .ok (.again .success) ((self.received data rest).setChunkReadState .readBasicHeader) := by
  have hNeed : self.needReadLength = data.length := by
    unfold needReadLength
    dsimp only
    rw [if_pos (by omega), hFull]
    omega
  have hShort : ¬self.buffer.length < data.length := by
    rw [h, List.length_append]
    omega
  have hOpen : ¬(self.payload ++ data).length = self.header.msgLength.toNat := by
    rw [List.length_append]
    omega
  refine readChunkTurn_messagePayload hChunk ?_
  rw [readMessagePayload_eq, if_neg (by omega), hNeed, if_neg hShort, takePayload_append h]
  rw [h, List.take_left, if_neg hOpen]

theorem turns_part {self : ChunkUnpacketizer} {data rest : List UInt8} (result : UnpackResult)
    (hChunk : self.chunkReadState = .readMessagePayload) (hFull : data.length = self.maxChunkSize)
    (hMore : self.payload.length + data.length < self.header.msgLength.toNat)
    (h : self.buffer = data ++ rest) :
    Turns (result, self)
      (.success, (self.received data rest).setChunkReadState .readBasicHeader) :=
  Turns.single (readChunkTurn_part result hChunk hFull hMore h)

/-- The last chunk of a message completes it. -/
theorem readChunkTurn_last {self : ChunkUnpacketizer} {d rest : List UInt8}
    (result : UnpackResult) (hChunk : self.chunkReadState = .readMessagePayload)
    (hFits : d.length ≤ self.maxChunkSize)
    (hWhole : self.payload.length + d.length = self.header.msgLength.toNat)
    (h : self.buffer = d ++ rest) :
    readChunkTurn result self =
      .ok (.again (.chunkInfo (self.received d rest).currentChunkInfo))
        (self.received d rest).finishMessage := by
  have hNeed : self.needReadLength = d.length := by
    unfold needReadLength
    dsimp only
    split <;> omega
  have hShort : ¬self.buffer.length < d.length := by
    rw [h, List.length_append]
    omega
  have hDone : (self.payload ++ d).length = self.header.msgLength.toNat := by
    rw [List.length_append, hWhole]
  refine readChunkTurn_messagePayload hChunk ?_
  rw [readMessagePayload_eq, if_neg (by omega), hNeed, if_neg hShort, takePayload_append h]
  rw [h, List.take_left, if_pos hDone]

theorem readChunk_last {self : ChunkUnpacketizer} {data rest : List UInt8} (result : UnpackResult)
    (hChunk : self.chunkReadState = .readMessagePayload)
    (hFits : data.length ≤ self.maxChunkSize)
    (hWhole : self.payload.length + data.length = self.header.msgLength.toNat)
    (h : self.buffer = data ++ rest) :
    (loopOf readChunkTurn unread readChunkTurn_again).run (result, self) =
      .ok (.chunkInfo (self.received data rest).currentChunkInfo)
        ((self.received data rest).finishMessage.setChunkReadState .readBasicHeader) := by
  rw [Loop.run_passes _ (Turns.single (readChunkTurn_last result hChunk hFits hWhole h))]
  exact loopM_done (readChunkTurn_finish rfl)

/-! ### A message cut into chunks -/

/-- A payload cut into parts of `size` bytes, with a separator between two of them. -/
def chunkedPayload (size : Nat) (separator payload : List UInt8) : List UInt8 :=
  if size = 0 ∨ payload.length ≤ size then payload
  else payload.take size ++ (separator ++ chunkedPayload size separator (payload.drop size))
termination_by payload.length
decreasing_by
  rw [List.length_drop]
  omega

theorem chunkedPayload_last {size : Nat} {payload : List UInt8} (separator : List UInt8)
    (h : payload.length ≤ size) : chunkedPayload size separator payload = payload := by
  rw [chunkedPayload, if_pos (.inr h)]

theorem chunkedPayload_part {size : Nat} {payload : List UInt8} (separator : List UInt8)
    (hPos : 0 < size) (h : size < payload.length) :
    chunkedPayload size separator payload =
      payload.take size ++ (separator ++ chunkedPayload size separator (payload.drop size)) := by
  rw [chunkedPayload, if_neg (by omega)]

/-- The value of the extended timestamp that a header has in force, and that is sent again with
each chunk of the message. -/
def ChunkMessageHeader.extendedValue (header : ChunkMessageHeader) : UInt32 :=
  match header.extendedTimestampType with
  | .none => 0
  | .format0 => header.timestamp
  | .format12 => header.timestampDelta

theorem extended_extendedValue (header : ChunkMessageHeader) :
    header.extended header.extendedValue = header := by
  obtain ⟨timestamp, length, typeId, streamId, delta, extended⟩ := header
  cases extended <;> rfl

/-- The reader in the next chunk of the message at hand. -/
def ChunkUnpacketizer.continued (self : ChunkUnpacketizer) (rest : List UInt8) :
    ChunkUnpacketizer :=
  ((self.setReader ⟨rest⟩).setBasicHeader ⟨3, self.currentChunkInfo.basicHeader.chunkStreamId⟩)
    |>.setChunkReadState .readMessagePayload

theorem advanced_continued (header : ChunkMessageHeader) {payload : List UInt8}
    (h : payload ≠ []) : header.advanced 3 payload = header :=
  if_neg (by
    rintro (h1 | h2 | ⟨-, hNil⟩)
    · exact absurd h1 (by decide)
    · exact absurd h2 (by decide)
    · exact h hNil)

/-- The head of a chunk that goes on with the message at hand. -/
def ChunkUnpacketizer.continuing (self : ChunkUnpacketizer) : ChunkHead :=
  ⟨3, self.currentChunkInfo.basicHeader.chunkStreamId, 0, .new 0 0 0 0, self.header.extendedValue⟩

theorem begun_continuing (r : ChunkUnpacketizer) :
    r.begun 3 r.currentChunkInfo.basicHeader.chunkStreamId =
      (r.setBasicHeader ⟨3, r.currentChunkInfo.basicHeader.chunkStreamId⟩).setChunkReadState
        .readMessageHeader := by
  unfold begun switched
  rw [if_pos rfl]
  rfl

theorem continuing_bytes (r : ChunkUnpacketizer) (basicHeader : List UInt8) :
    r.continuing.bytes r basicHeader =
      basicHeader ++ extendedTimestampBytes r.header r.header.extendedValue := by
  rw [ChunkHead.bytes, ChunkHead.carried, continuing, begun_continuing]
  rfl

/-- It changes nothing. -/
theorem continuing_read {r : ChunkUnpacketizer} (rest : List UInt8) (hPayload : r.payload ≠ []) :
    r.continuing.read r rest = r.continued rest := by
  unfold ChunkHead.read ChunkHead.carried continuing
  dsimp only
  rw [begun_setReader, begun_continuing]
  change ((_ : ChunkUnpacketizer).setHeader
    ((r.header.extended r.header.extendedValue).advanced 3 r.payload)).setChunkReadState
      _ = _
  rw [advanced_continued _ hPayload, extended_extendedValue]
  rfl

theorem turns_continued {r : ChunkUnpacketizer} {basicHeader rest : List UInt8}
    (result : UnpackResult) (hChunk : r.chunkReadState = .readBasicHeader)
    (hField : r.msgHeaderReadState = .readTimeStamp) (hPayload : r.payload ≠ [])
    (hBasic : IsBasicHeader 3 r.currentChunkInfo.basicHeader.chunkStreamId basicHeader)
    (h : r.buffer = basicHeader ++
      (extendedTimestampBytes r.header r.header.extendedValue ++ rest)) :
    Turns (result, r) (.success, r.continued rest) := by
  rw [← continuing_read rest hPayload]
  refine turns_head (c := r.continuing) result hChunk hField (.inr (.inr (.inr rfl)))
    (Nat.two_pow_pos 24) (Nat.two_pow_pos 24) hBasic (fun hGivesUp => hGivesUp.1 rfl) ?_
  rw [h, continuing_bytes, List.append_assoc]

/-- A payload that has arrived whole, cut into chunks, completes its message. -/
theorem readChunk_payload {r : ChunkUnpacketizer} {basicHeader data rest : List UInt8}
    (result : UnpackResult) (hChunk : r.chunkReadState = .readMessagePayload)
    (hField : r.msgHeaderReadState = .readTimeStamp) (hSize : 0 < r.maxChunkSize)
    (hBasic : IsBasicHeader 3 r.currentChunkInfo.basicHeader.chunkStreamId basicHeader)
    (hWhole : r.payload.length + data.length = r.header.msgLength.toNat)
    (h : r.buffer = chunkedPayload r.maxChunkSize
      (basicHeader ++ extendedTimestampBytes r.header r.header.extendedValue) data ++ rest) :
    ∃ format,
      (loopOf readChunkTurn unread readChunkTurn_again).run (result, r) =
        .ok (.chunkInfo ⟨⟨format, r.currentChunkInfo.basicHeader.chunkStreamId⟩, r.header,
          r.payload ++ data⟩)
          (((r.setBasicHeader ⟨format, r.currentChunkInfo.basicHeader.chunkStreamId⟩)
            |>.received data rest).finishMessage.setChunkReadState .readBasicHeader) := by
  induction hLen : data.length using Nat.strongRecOn generalizing r data result with
  | ind n ih =>
    subst hLen
    by_cases hFits : data.length ≤ r.maxChunkSize
    · rw [chunkedPayload_last _ hFits] at h
      refine ⟨r.currentChunkInfo.basicHeader.format, ?_⟩
      exact readChunk_last result hChunk hFits hWhole h
    · have hMore := Nat.lt_of_not_le hFits
      rw [chunkedPayload_part _ hSize hMore, List.append_assoc, List.append_assoc] at h
      have hTake : (data.take r.maxChunkSize).length = r.maxChunkSize := by
        rw [List.length_take, Nat.min_eq_left hMore.le]
      have hPart := turns_part result hChunk hTake (by rw [hTake]; omega) h
      have hNonempty : r.payload ++ data.take r.maxChunkSize ≠ [] := by
        intro hNil
        rw [(List.append_eq_nil_iff.mp hNil).2] at hTake
        exact absurd hTake hSize.ne
      generalize hRest : chunkedPayload r.maxChunkSize (basicHeader ++ extendedTimestampBytes
        r.header r.header.extendedValue) (data.drop r.maxChunkSize) ++ rest = behind
        at hPart
      rw [List.append_assoc] at hPart
      have hNext := turns_continued .success (r := (r.received (data.take r.maxChunkSize)
        (basicHeader ++ (extendedTimestampBytes r.header r.header.extendedValue ++
          behind))).setChunkReadState .readBasicHeader) rfl hField hNonempty hBasic rfl
      obtain ⟨format, hRun⟩ := ih (data.drop r.maxChunkSize).length
        (by rw [List.length_drop]; omega) (r := ((r.received (data.take r.maxChunkSize)
          (basicHeader ++ (extendedTimestampBytes r.header r.header.extendedValue ++
            behind))).setChunkReadState .readBasicHeader).continued behind)
        .success rfl hField hSize hBasic
        (by
          change (r.payload ++ data.take r.maxChunkSize).length + _ = _
          rw [List.length_append, Nat.add_assoc, ← List.length_append, List.take_append_drop]
          exact hWhole)
        hRest.symm rfl
      refine ⟨format, ?_⟩
      rw [Loop.run_passes _ (hPart.trans hNext), hRun]
      have hPayload : (r.payload ++ data.take r.maxChunkSize) ++
          data.drop r.maxChunkSize = r.payload ++ data := by
        rw [List.append_assoc, List.take_append_drop]
      rw [← hPayload]
      rfl

end Xiu.Rtmp.Chunk
