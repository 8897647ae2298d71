import Xiu.Bytesio.Writer
import Xiu.Rtmp.Chunk.Wire

/-! The chunk writer of `protocol/rtmp/src/chunk/packetizer.rs`: the choice of a chunk format from the
header last written on the chunk stream, the header of a chunk, and the loop that cuts a payload into
chunks.  Each part comes with the equation by which later modules use it. -/

namespace Xiu.Rtmp.Chunk

open Bytesio ProofKit

inductive PackResult where
  | success
  | notEnoughBytes
  deriving DecidableEq

/-- The chunk size is positive: the source sets it to a constant and never changes it. -/
structure ChunkPacketizer where
  csid2ChunkHeader : AList fun _ : UInt32 => ChunkHeader
  maxChunkSize : Nat
  maxChunkSizePos : 0 < maxChunkSize
  writer : AsyncBytesWriter
  extendedTimestamp : Option UInt32

def ChunkPacketizer.new : ChunkPacketizer where
  csid2ChunkHeader := ∅
  maxChunkSize := CHUNK_SIZE.toNat
  maxChunkSizePos := by decide
  writer := ⟨⟨[]⟩, []⟩
  extendedTimestamp := none

/-- The writer with the chunk that it is given by reference, and that it changes. -/
structure PackState where
  packetizer : ChunkPacketizer
  chunkInfo : ChunkInfo

/-- An action of the chunk writer. -/
abbrev Pack := EStateM WriteFault PackState

namespace PackState

abbrev csid (s : PackState) : UInt32 := s.chunkInfo.basicHeader.chunkStreamId

abbrev header (s : PackState) : ChunkMessageHeader := s.chunkInfo.messageHeader

def setFormat (s : PackState) (format : UInt8) : PackState :=
  { s with chunkInfo := { s.chunkInfo with basicHeader := ⟨format, s.csid⟩ } }

def setHeader (s : PackState) (header : ChunkMessageHeader) : PackState :=
  { s with chunkInfo := { s.chunkInfo with messageHeader := header } }

def setPayload (s : PackState) (payload : List UInt8) : PackState :=
  { s with chunkInfo := { s.chunkInfo with payload := payload } }

def setExtendedTimestamp (s : PackState) (extended : Option UInt32) : PackState :=
  { s with packetizer := { s.packetizer with extendedTimestamp := extended } }

def setWriter (s : PackState) (writer : AsyncBytesWriter) : PackState :=
  { s with packetizer := { s.packetizer with writer := writer } }

/-- Records the header at hand as the last one of its chunk stream. -/
def cacheHeader (s : PackState) : PackState :=
  { s with packetizer := { s.packetizer with
      csid2ChunkHeader := s.packetizer.csid2ChunkHeader.insert s.csid
        ⟨s.chunkInfo.basicHeader, s.header⟩ } }

/-- The state with more bytes written. -/
def append (s : PackState) (bytes : List UInt8) : PackState :=
  s.setWriter { s.packetizer.writer with
    bytesWriter := ⟨s.packetizer.writer.bytesWriter.bytes ++ bytes⟩ }

theorem append_append (s : PackState) (bytes bytes' : List UInt8) :
    (s.append bytes).append bytes' = s.append (bytes ++ bytes') := by
  simp only [append, setWriter, List.append_assoc]

theorem append_nil (s : PackState) : s.append [] = s := by
  simp only [append, setWriter, List.append_nil]

end PackState

/-- A write to the buffer that cannot fail. -/
def writeWith (f : BytesWriter → BytesWriter) : Pack Unit :=
  modify fun s => s.setWriter
    { s.packetizer.writer with bytesWriter := f s.packetizer.writer.bytesWriter }

def writeU8 (byte : UInt8) : Pack Unit := writeWith (·.writeU8 byte)

def writeU16 (order : ByteOrder) (n : UInt16) : Pack Unit := writeWith (·.writeU16 order n)

def writeU24 (order : ByteOrder) (n : UInt32) : Pack Unit := fun s =>
  match s.packetizer.writer.bytesWriter.writeU24 order n with
  | .ok bytesWriter => .ok () (s.setWriter { s.packetizer.writer with bytesWriter := bytesWriter })
  | .error e => .error e s

def writeU32 (order : ByteOrder) (n : UInt32) : Pack Unit := writeWith (·.writeU32 order n)

def writeBytes (buf : List UInt8) : Pack Unit := writeWith (·.write buf)

def zipChunkHeader : Pack PackResult := do
  modify (·.setFormat 0)
  let s ← get
  match s.packetizer.csid2ChunkHeader.lookup s.csid with
  | some preHeader =>
    let curMsgHeader := s.header
    let preMsgHeader := preHeader.messageHeader
    if curMsgHeader.timestamp < preMsgHeader.timestamp then
      pure ()
    else if curMsgHeader.msgStreamdId = preMsgHeader.msgStreamdId then
      modify (·.setFormat 1)
      let timestampDelta := curMsgHeader.timestamp - preMsgHeader.timestamp
      modify (·.setHeader { curMsgHeader with timestampDelta := timestampDelta })
      if curMsgHeader.msgTypeId = preMsgHeader.msgTypeId ∧
          curMsgHeader.msgLength = preMsgHeader.msgLength then
        modify (·.setFormat 2)
        if timestampDelta = preMsgHeader.timestampDelta then
          modify (·.setFormat 3)
  | none =>
    -- `assert_eq!(chunk_info.message_header.timestamp_delta, 0)`
    if s.header.timestampDelta ≠ 0 then
      throw .panic
  modify (·.cacheHeader)
  return .success

def writeBasicHeader (fmt : UInt8) (csid : UInt32) : Pack Unit := do
  if csid ≥ 64 + 255 then
    writeU8 (fmt <<< 6 ||| 1)
    writeU16 .bigEndian (csid - 64).toUInt16
  else if csid ≥ 64 then
    writeU8 (fmt <<< 6)
    writeU8 (csid - 64).toUInt8
  else
    writeU8 (fmt <<< 6 ||| csid.toUInt8)

/-- What a format writes as extended timestamp and as timestamp or timestamp delta field, and the
header that says so. -/
def timestampFields (format : UInt8) (header : ChunkMessageHeader) :
    Option UInt32 × UInt32 × ChunkMessageHeader :=
  if format = 0 then
    if header.timestamp ≥ 0xFFFFFF then
      (some header.timestamp, 0xFFFFFF, { header with extendedTimestampType := .format0 })
    else (none, header.timestamp, header)
  else if format = 1 ∨ format = 2 then
    if header.timestampDelta ≥ 0xFFFFFF then
      (some header.timestampDelta, 0xFFFFFF, { header with extendedTimestampType := .format12 })
    else (none, header.timestampDelta, header)
  else (none, 0, header)

def writeMessageHeader : Pack Unit := do
  let s ← get
  let format := s.chunkInfo.basicHeader.format
  let (extendedTimestamp, messageHeaderTimestamp, header) := timestampFields format s.header
  modify (·.setHeader header)
  modify (·.setExtendedTimestamp extendedTimestamp)
  if format = 0 then
    writeU24 .bigEndian messageHeaderTimestamp
    writeU24 .bigEndian header.msgLength
    writeU8 header.msgTypeId
    writeU32 .littleEndian header.msgStreamdId
  else if format = 1 then
    writeU24 .bigEndian messageHeaderTimestamp
    writeU24 .bigEndian header.msgLength
    writeU8 header.msgTypeId
  else if format = 2 then
    writeU24 .bigEndian messageHeaderTimestamp

def writeExtenedTimestamp : Pack Unit := do
  match (← get).packetizer.extendedTimestamp with
  | some extendedTimestamp => writeU32 .bigEndian extendedTimestamp
  | none => pure ()

/-- Takes bytes off the front of the payload; `split_to` panics where there are fewer. -/
def splitPayload (n : Nat) : Pack (List UInt8) := fun s =>
  if s.chunkInfo.payload.length < n then .error .panic s
  else .ok (s.chunkInfo.payload.take n) (s.setPayload (s.chunkInfo.payload.drop n))

/-- One turn of the loop of `write_chunk`, whose variable is the number of bytes left. -/
def writePayloadTurn (wholePayloadSize : Nat) : Pack (Turn Nat Unit) := do
  if wholePayloadSize > 0 then
    let s ← get
    let maxChunkSize := s.packetizer.maxChunkSize
    let curPayloadSize :=
      if wholePayloadSize > maxChunkSize then maxChunkSize else wholePayloadSize
    let payloadBytes ← splitPayload curPayloadSize
    writeBytes payloadBytes
    if wholePayloadSize - curPayloadSize > 0 then
      writeBasicHeader 3 s.csid
      writeExtenedTimestamp
    return .again (wholePayloadSize - curPayloadSize)
  else
    return .done ()

/-! ### How writes run -/

theorem writeU8_eq (byte : UInt8) (s : PackState) : writeU8 byte s = .ok () (s.append [byte]) := rfl

theorem writeU16_eq (order : ByteOrder) (n : UInt16) (s : PackState) :
    writeU16 order n s = .ok () (s.append (order.encode 2 n.toNat)) := rfl

theorem writeU24_eq {n : UInt32} (order : ByteOrder) (s : PackState) (h : n.toNat < 2 ^ 24) :
    writeU24 order n s = .ok () (s.append (order.encode 3 n.toNat)) := by
  simp only [writeU24, BytesWriter.writeU24_ok _ _ h]
  rfl

theorem writeU32_eq (order : ByteOrder) (n : UInt32) (s : PackState) :
    writeU32 order n s = .ok () (s.append (order.encode 4 n.toNat)) := rfl

theorem writeBytes_eq (buf : List UInt8) (s : PackState) :
    writeBytes buf s = .ok () (s.append buf) := rfl

/-- The bytes of a basic header as they are written. -/
def basicHeaderBytes (fmt : UInt8) (csid : UInt32) : List UInt8 :=
  if csid ≥ 64 + 255 then
    [fmt <<< 6 ||| 1] ++ ByteOrder.bigEndian.encode 2 (csid - 64).toUInt16.toNat
  else if csid ≥ 64 then [fmt <<< 6] ++ [(csid - 64).toUInt8]
  else [fmt <<< 6 ||| csid.toUInt8]

theorem writeBasicHeader_eq (fmt : UInt8) (csid : UInt32) (s : PackState) :
    writeBasicHeader fmt csid s = .ok () (s.append (basicHeaderBytes fmt csid)) := by
  unfold writeBasicHeader basicHeaderBytes
  split
  · rw [bind_of_ok (writeU8_eq _ _), writeU16_eq, PackState.append_append]
  · split
    · rw [bind_of_ok (writeU8_eq _ _), writeU8_eq, PackState.append_append]
    · exact writeU8_eq _ _

/-- The bytes of the extended timestamp that is written with each chunk of a message, if any. -/
def extendedBytes : Option UInt32 → List UInt8
  | some extendedTimestamp => ByteOrder.bigEndian.encode 4 extendedTimestamp.toNat
  | none => []

theorem writeExtenedTimestamp_eq (s : PackState) :
    writeExtenedTimestamp s = .ok () (s.append (extendedBytes s.packetizer.extendedTimestamp)) := by
  unfold writeExtenedTimestamp
  rw [bind_get]
  cases s.packetizer.extendedTimestamp with
  | none =>
    rw [extendedBytes, PackState.append_nil]
    rfl
  | some extendedTimestamp => exact writeU32_eq _ _ _

/-- The bytes between two chunks of a message. -/
def PackState.separator (s : PackState) : List UInt8 :=
  basicHeaderBytes 3 s.csid ++ extendedBytes s.packetizer.extendedTimestamp

theorem writePayloadTurn_zero (s : PackState) : writePayloadTurn 0 s = .ok (.done ()) s := rfl

/-- The state after a part of the payload. -/
def PackState.part (s : PackState) (n : Nat) (separator : List UInt8) : PackState :=
  (s.setPayload (s.chunkInfo.payload.drop n)).append (s.chunkInfo.payload.take n ++ separator)

/-- The last part of a payload. -/
theorem writePayloadTurn_last {n : Nat} {s : PackState} (hPos : 0 < n)
    (hFits : n ≤ s.packetizer.maxChunkSize) (hLen : n ≤ s.chunkInfo.payload.length) :
    writePayloadTurn n s = .ok (.again 0) (s.part n []) := by
  have hSplit : splitPayload n s =
      .ok (s.chunkInfo.payload.take n) (s.setPayload (s.chunkInfo.payload.drop n)) :=
    if_neg (Nat.not_lt.mpr hLen)
  unfold writePayloadTurn
  rw [if_pos hPos, bind_get, if_neg (Nat.not_lt.mpr hFits), bind_of_ok hSplit,
    bind_of_ok (writeBytes_eq _ _), Nat.sub_self, PackState.part, List.append_nil]
  rfl

/-- A part of a payload that is not the last one. -/
theorem writePayloadTurn_part {n : Nat} {s : PackState} (hMore : s.packetizer.maxChunkSize < n)
    (hLen : s.packetizer.maxChunkSize ≤ s.chunkInfo.payload.length) :
    writePayloadTurn n s = .ok (.again (n - s.packetizer.maxChunkSize))
      (s.part s.packetizer.maxChunkSize s.separator) := by
  have hPos : 0 < n := by omega
  have hLeft : 0 < n - s.packetizer.maxChunkSize := by omega
  have hSplit : splitPayload s.packetizer.maxChunkSize s =
      .ok (s.chunkInfo.payload.take s.packetizer.maxChunkSize)
        (s.setPayload (s.chunkInfo.payload.drop s.packetizer.maxChunkSize)) :=
    if_neg (by omega)
  unfold writePayloadTurn
  rw [if_pos hPos, bind_get, if_pos hMore, bind_of_ok hSplit, bind_of_ok (writeBytes_eq _ _)]
  simp only [if_pos hLeft]
  rw [bind_of_ok (writeBasicHeader_eq _ _ _), bind_of_ok (writeExtenedTimestamp_eq _),
    PackState.append_append, PackState.append_append]
  rfl

theorem writePayloadTurn_panic {n : Nat} {s : PackState} (hPos : 0 < n)
    (hShort : s.chunkInfo.payload.length < min n s.packetizer.maxChunkSize) :
    writePayloadTurn n s = .error .panic s := by
  unfold writePayloadTurn
  rw [if_pos hPos, bind_get]
  refine bind_of_error (if_pos ?_)
  split <;> omega

theorem length_part (s : PackState) (n : Nat) (separator : List UInt8) :
    (s.part n separator).chunkInfo.payload.length = s.chunkInfo.payload.length - n :=
  List.length_drop

theorem writePayloadTurn_again (n n' : Nat) (s s' : PackState)
    (h : writePayloadTurn n s = .ok (.again n') s') :
    s'.chunkInfo.payload.length < s.chunkInfo.payload.length := by
  have hSize := s.packetizer.maxChunkSizePos
  rcases Nat.eq_zero_or_pos n with rfl | hPos
  · rw [writePayloadTurn_zero] at h
    cases h
  · by_cases hShort : s.chunkInfo.payload.length < min n s.packetizer.maxChunkSize
    · rw [writePayloadTurn_panic hPos hShort] at h
      cases h
    · by_cases hFits : n ≤ s.packetizer.maxChunkSize
      · rw [writePayloadTurn_last hPos hFits (by omega)] at h
        obtain ⟨-, rfl⟩ := EStateM.Result.ok.inj h
        rw [length_part]
        omega
      · rw [writePayloadTurn_part (by omega) (by omega)] at h
        obtain ⟨-, rfl⟩ := EStateM.Result.ok.inj h
        rw [length_part]
        omega

def writePayload (wholePayloadSize : Nat) : Pack Unit :=
  loopM writePayloadTurn (·.chunkInfo.payload.length) writePayloadTurn_again wholePayloadSize

/-- The loop writes the whole payload, cut into parts. -/
theorem writePayload_eq (s : PackState) :
    writePayload s.chunkInfo.payload.length s = .ok () ((s.setPayload []).append
      (chunkedPayload s.packetizer.maxChunkSize s.separator s.chunkInfo.payload)) := by
  have key : ∀ n s, n = s.chunkInfo.payload.length → writePayload n s = .ok ()
      ((s.setPayload []).append
        (chunkedPayload s.packetizer.maxChunkSize s.separator s.chunkInfo.payload)) := by
    intro n s
    induction hLen : s.chunkInfo.payload.length using Nat.strongRecOn generalizing n s with
    | ind m ih =>
      rintro rfl
      have hSize := s.packetizer.maxChunkSizePos
      by_cases hFits : s.chunkInfo.payload.length ≤ s.packetizer.maxChunkSize
      · rw [chunkedPayload_last _ hFits]
        rcases Nat.eq_zero_or_pos n with rfl | hPos
        · have hNil := List.length_eq_zero_iff.mp hLen
          refine (loopM_done (writePayloadTurn_zero s)).trans ?_
          rw [hNil, PackState.append_nil, PackState.setPayload, ← hNil]
        · refine (loopM_again (writePayloadTurn_last hPos (by omega) (by omega))).trans ?_
          refine (loopM_done (writePayloadTurn_zero _)).trans ?_
          rw [PackState.part, ← hLen, List.take_length, List.drop_length, List.append_nil]
      · rw [chunkedPayload_part _ hSize (by omega)]
        refine (loopM_again (writePayloadTurn_part (by omega) (by omega))).trans ?_
        have hRest := ih (n - s.packetizer.maxChunkSize) (by omega) (n - s.packetizer.maxChunkSize)
          (s.part s.packetizer.maxChunkSize s.separator) (by rw [length_part, hLen]) rfl
        refine hRest.trans ?_
        simp only [PackState.part, PackState.append, PackState.setPayload, PackState.setWriter,
          PackState.separator, List.append_assoc]
  exact key _ s rfl

def flush : Pack Unit := modify fun s => s.setWriter s.packetizer.writer.flush

theorem writePayload_flush {s : PackState} {n : Nat} (h : s.chunkInfo.payload.length = n) :
    (writePayload n >>= fun _ => flush) s = .ok () (((s.setPayload []).append (chunkedPayload
      s.packetizer.maxChunkSize s.separator s.chunkInfo.payload)).setWriter
        ((s.setPayload []).append (chunkedPayload s.packetizer.maxChunkSize s.separator
          s.chunkInfo.payload)).packetizer.writer.flush) := by
  subst h
  exact bind_of_ok (writePayload_eq s)

/-- `write_chunk`, on the writer and the chunk that it is given. -/
def packChunk : Pack Unit := do
  let _ ← zipChunkHeader
  let s ← get
  let wholePayloadSize := s.chunkInfo.payload.length
  writeBasicHeader s.chunkInfo.basicHeader.format s.csid
  writeMessageHeader
  writeExtenedTimestamp
  writePayload wholePayloadSize
  flush

/-- Writes a chunk and keeps the writer. -/
def ChunkPacketizer.writeChunk (packetizer : ChunkPacketizer) (chunkInfo : ChunkInfo) :
    Except WriteFault ChunkPacketizer :=
  match packChunk ⟨packetizer, chunkInfo⟩ with
  | .ok _ s => .ok s.packetizer
  | .error e _ => .error e

/-- Writes chunks one after the other. -/
def ChunkPacketizer.writeChunks (packetizer : ChunkPacketizer) (chunks : List ChunkInfo) :
    Except WriteFault ChunkPacketizer :=
  chunks.foldlM writeChunk packetizer

/-! ### What a chunk is written as -/

/-- The format and the header that a chunk gets from the header before it on its chunk stream. -/
def zipped (previous : Option ChunkHeader) (header : ChunkMessageHeader) :
    UInt8 × ChunkMessageHeader :=
  match previous with
  | none => (0, header)
  | some preHeader =>
    let previous := preHeader.messageHeader
    let delta := header.timestamp - previous.timestamp
    if header.timestamp < previous.timestamp ∨ header.msgStreamdId ≠ previous.msgStreamdId then
      (0, header)
    else if header.msgTypeId = previous.msgTypeId ∧ header.msgLength = previous.msgLength then
      if delta = previous.timestampDelta then (3, { header with timestampDelta := delta })
      else (2, { header with timestampDelta := delta })
    else (1, { header with timestampDelta := delta })

theorem zipChunkHeader_eq {s : PackState}
    (h : s.packetizer.csid2ChunkHeader.lookup s.csid = none → s.header.timestampDelta = 0) :
    zipChunkHeader s = .ok .success
      ((s.setFormat (zipped (s.packetizer.csid2ChunkHeader.lookup s.csid) s.header).1).setHeader
        (zipped (s.packetizer.csid2ChunkHeader.lookup s.csid) s.header).2).cacheHeader := by
  unfold zipChunkHeader
  rw [bind_modify, bind_get]
  cases hLookup : s.packetizer.csid2ChunkHeader.lookup s.csid with
  | none =>
    have hDelta : ¬(s.setFormat 0).header.timestampDelta ≠ 0 := not_not_intro (h hLookup)
    have hCached : (s.setFormat 0).packetizer.csid2ChunkHeader.lookup (s.setFormat 0).csid =
      none := hLookup
    simp only [hCached, if_neg hDelta]
    rfl
  | some preHeader =>
    have hCached : (s.setFormat 0).packetizer.csid2ChunkHeader.lookup (s.setFormat 0).csid =
      some preHeader := hLookup
    simp only [hCached, zipped]
    by_cases hLess : s.header.timestamp < preHeader.messageHeader.timestamp
    · refine (congrFun (if_pos hLess) _).trans ?_
      simp only [if_pos (Or.inl hLess)]
      rfl
    · refine (congrFun (if_neg hLess) _).trans ?_
      by_cases hStream : s.header.msgStreamdId = preHeader.messageHeader.msgStreamdId
      · refine (congrFun (if_pos hStream) _).trans ?_
        simp only [if_neg (not_or.mpr ⟨hLess, not_not_intro hStream⟩), bind_modify]
        by_cases hSame : s.header.msgTypeId = preHeader.messageHeader.msgTypeId ∧
            s.header.msgLength = preHeader.messageHeader.msgLength
        · refine (congrFun (if_pos hSame) _).trans ?_
          simp only [if_pos hSame, bind_modify]
          by_cases hDelta : s.header.timestamp - preHeader.messageHeader.timestamp =
              preHeader.messageHeader.timestampDelta
          · refine (congrFun (if_pos hDelta) _).trans ?_
            simp only [if_pos hDelta]
            rfl
          · refine (congrFun (if_neg hDelta) _).trans ?_
            simp only [if_neg hDelta]
            rfl
        · refine (congrFun (if_neg hSame) _).trans ?_
          simp only [if_neg hSame]
          rfl
      · refine (congrFun (if_neg hStream) _).trans ?_
        simp only [if_pos (Or.inr hStream)]
        rfl

/-- The timestamp field and the extended timestamp agree with the header that is left. -/
theorem timestampFields_lt (format : UInt8) (header : ChunkMessageHeader) :
    (timestampFields format header).2.1.toNat < 2 ^ 24 := by
  unfold timestampFields
  have hMax : (0xFFFFFF : UInt32).toNat < 2 ^ 24 := by decide
  have key : ∀ n : UInt32, ¬n ≥ 0xFFFFFF → n.toNat < 2 ^ 24 := fun n hn => by
    have hLt := UInt32.lt_iff_toNat_lt.mp (UInt32.not_le.mp hn)
    omega
  split
  · split
    · exact hMax
    · exact key _ ‹_›
  · split
    · split
      · exact hMax
      · exact key _ ‹_›
    · exact Nat.two_pow_pos 24

theorem timestampFields_header (format : UInt8) (header : ChunkMessageHeader) :
    (timestampFields format header).2.2.msgLength = header.msgLength ∧
      (timestampFields format header).2.2.msgTypeId = header.msgTypeId ∧
      (timestampFields format header).2.2.msgStreamdId = header.msgStreamdId := by
  unfold timestampFields
  split <;> split <;> first | exact ⟨rfl, rfl, rfl⟩ | (split <;> exact ⟨rfl, rfl, rfl⟩)

theorem writeMessageHeader_eq {s : PackState} (hLength : s.header.msgLength.toNat < 2 ^ 24) :
    writeMessageHeader s =
      .ok () (((s.setHeader (timestampFields s.chunkInfo.basicHeader.format s.header).2.2)
        |>.setExtendedTimestamp (timestampFields s.chunkInfo.basicHeader.format s.header).1)
        |>.append (messageHeaderBytes s.chunkInfo.basicHeader.format
          (timestampFields s.chunkInfo.basicHeader.format s.header).2.1 s.header)) := by
  have hFirst := timestampFields_lt s.chunkInfo.basicHeader.format s.header
  have hHeader := timestampFields_header s.chunkInfo.basicHeader.format s.header
  unfold writeMessageHeader messageHeaderBytes
  rw [bind_get]
  generalize timestampFields s.chunkInfo.basicHeader.format s.header = fields at hFirst hHeader ⊢
  obtain ⟨extendedTimestamp, first, header⟩ := fields
  obtain ⟨hLen, hType, hStream⟩ := hHeader
  dsimp only at hFirst hLen hType hStream ⊢
  rw [bind_modify, bind_modify]
  by_cases h0 : s.chunkInfo.basicHeader.format = 0
  · simp only [if_pos h0]
    rw [bind_of_ok (writeU24_eq _ _ hFirst), bind_of_ok (writeU24_eq _ _ (by rwa [hLen])),
      bind_of_ok (writeU8_eq _ _), writeU32_eq]
    simp only [PackState.append_append, List.append_assoc, hLen, hType, hStream]
  · by_cases h1 : s.chunkInfo.basicHeader.format = 1
    · simp only [if_neg h0, if_pos h1]
      rw [bind_of_ok (writeU24_eq _ _ hFirst), bind_of_ok (writeU24_eq _ _ (by rwa [hLen])),
        writeU8_eq]
      simp only [PackState.append_append, List.append_assoc, hLen, hType]
    · by_cases h2 : s.chunkInfo.basicHeader.format = 2
      · simp only [if_neg h0, if_neg h1, if_pos h2]
        exact writeU24_eq _ _ hFirst
      · simp only [if_neg h0, if_neg h1, if_neg h2, PackState.append_nil]
        rfl

theorem zipped_header (previous : Option ChunkHeader) (header : ChunkMessageHeader) :
    (zipped previous header).2.msgLength = header.msgLength ∧
      (zipped previous header).2.msgTypeId = header.msgTypeId ∧
      (zipped previous header).2.msgStreamdId = header.msgStreamdId := by
  unfold zipped
  split
  · exact ⟨rfl, rfl, rfl⟩
  · dsimp only
    split
    · exact ⟨rfl, rfl, rfl⟩
    · split
      · split <;> exact ⟨rfl, rfl, rfl⟩
      · exact ⟨rfl, rfl, rfl⟩

/-- What a chunk is written as. -/
theorem writeChunk_eq {packetizer : ChunkPacketizer} {chunkInfo : ChunkInfo}
    (hFlushed : packetizer.writer.bytesWriter.bytes = [])
    (hDelta : chunkInfo.messageHeader.timestampDelta = 0)
    (hLength : chunkInfo.messageHeader.msgLength.toNat < 2 ^ 24)
    {previous : Option ChunkHeader} {format : UInt8} {header left : ChunkMessageHeader}
    {extendedTimestamp : Option UInt32} {first : UInt32}
    (hPrevious : packetizer.csid2ChunkHeader.lookup chunkInfo.basicHeader.chunkStreamId = previous)
    (hZipped : zipped previous chunkInfo.messageHeader = (format, header))
    (hFields : timestampFields format header = (extendedTimestamp, first, left)) :
    packetizer.writeChunk chunkInfo = .ok
      { packetizer with
        csid2ChunkHeader := packetizer.csid2ChunkHeader.insert chunkInfo.basicHeader.chunkStreamId
          ⟨⟨format, chunkInfo.basicHeader.chunkStreamId⟩, header⟩
        writer := ⟨⟨[]⟩, packetizer.writer.io ++
          (basicHeaderBytes format chunkInfo.basicHeader.chunkStreamId ++
            (messageHeaderBytes format first chunkInfo.messageHeader ++
              (extendedBytes extendedTimestamp ++
                chunkedPayload packetizer.maxChunkSize
                  (basicHeaderBytes 3 chunkInfo.basicHeader.chunkStreamId ++
                    extendedBytes extendedTimestamp) chunkInfo.payload)))⟩
        extendedTimestamp := extendedTimestamp } := by
  have hZip := zipChunkHeader_eq (s := ⟨packetizer, chunkInfo⟩) fun _ => hDelta
  rw [show packetizer.csid2ChunkHeader.lookup (⟨packetizer, chunkInfo⟩ : PackState).csid = previous
    from hPrevious, show zipped previous (⟨packetizer, chunkInfo⟩ : PackState).header =
      (format, header) from hZipped] at hZip
  have hSame := zipped_header previous chunkInfo.messageHeader
  rw [hZipped] at hSame
  obtain ⟨hLen, hType, hStream⟩ : header.msgLength = chunkInfo.messageHeader.msgLength ∧
    header.msgTypeId = chunkInfo.messageHeader.msgTypeId ∧
      header.msgStreamdId = chunkInfo.messageHeader.msgStreamdId := hSame
  have hBytes : messageHeaderBytes format first header =
      messageHeaderBytes format first chunkInfo.messageHeader := by
    unfold messageHeaderBytes
    rw [hLen, hType, hStream]
  unfold ChunkPacketizer.writeChunk packChunk
  rw [bind_of_ok hZip, bind_get, bind_of_ok (writeBasicHeader_eq _ _ _),
    bind_of_ok (writeMessageHeader_eq (by rw [← hLen] at hLength; exact hLength)),
    bind_of_ok (writeExtenedTimestamp_eq _), writePayload_flush]
  · simp only [PackState.setFormat, PackState.setHeader, PackState.cacheHeader, PackState.append,
      PackState.setWriter, PackState.setExtendedTimestamp, PackState.setPayload,
      PackState.separator, AsyncBytesWriter.flush, hFields, hFlushed, List.nil_append, hBytes,
      List.append_assoc]
  · rfl

end Xiu.Rtmp.Chunk
