import Xiu.Bytesio.Reader
import Xiu.ProofKit.Action
import Xiu.ProofKit.Loop
import Xiu.Rtmp.Chunk.Define

/-! The reads of the chunk reader of `protocol/rtmp/src/chunk/unpacketizer.rs`: the basic header, the
message header, the extended timestamp and the payload of a chunk, each of which can stop for lack
of bytes.  Every read comes with the equation or the relation by which later modules use it.  The
fields `chunk_index` and `session_type`, which no read depends on, are left out. -/

namespace Xiu.Rtmp.Chunk

open Bytesio ProofKit

inductive UnpackErrorValue where
  | bytesReadError (value : BytesReadErrorValue)
  | unknowReadState
  | emptyChunks
  | cannotParse
  deriving DecidableEq

/-- Why a read stops: an error that it returns, or a panic. -/
inductive UnpackFault where
  | error (value : UnpackErrorValue)
  | panic
  deriving DecidableEq

/-- The fault of a read that finds too few bytes. -/
abbrev UnpackFault.notEnoughBytes : UnpackFault := .error (.bytesReadError .notEnoughBytes)

inductive UnpackResult where
  | chunkBasicHeaderResult (header : ChunkBasicHeader)
  | chunkMessageHeaderResult (header : ChunkMessageHeader)
  | chunkInfo (info : ChunkInfo)
  | chunks (infos : List ChunkInfo)
  | success
  | notEnoughBytes
  | empty
  deriving DecidableEq

inductive ChunkReadState where
  | readBasicHeader
  | readMessageHeader
  | readExtendedTimestamp
  | readMessagePayload
  | finish
  deriving DecidableEq

inductive MessageHeaderReadState where
  | readTimeStamp
  | readMsgLength
  | readMsgTypeID
  | readMsgStreamID
  deriving DecidableEq

def PARSE_ERROR_NUMVER : Nat := 5

structure ChunkUnpacketizer where
  reader : BytesReader
  currentChunkInfo : ChunkInfo
  chunkMessageHeaders : AList fun _ : UInt32 => ChunkMessageHeader
  chunkReadState : ChunkReadState
  msgHeaderReadState : MessageHeaderReadState
  maxChunkSize : Nat
  parseErrorNumber : Nat

/-- An action of the reader.  The state that an error leaves stays. -/
abbrev Unpack := EStateM UnpackFault ChunkUnpacketizer

namespace ChunkUnpacketizer

def new : ChunkUnpacketizer where
  reader := ⟨[]⟩
  currentChunkInfo := .new 0 0 0 0 0 0 []
  chunkMessageHeaders := ∅
  chunkReadState := .readBasicHeader
  msgHeaderReadState := .readTimeStamp
  maxChunkSize := INIT_CHUNK_SIZE.toNat
  parseErrorNumber := 0

def extendData (self : ChunkUnpacketizer) (data : List UInt8) : ChunkUnpacketizer :=
  { self with reader := self.reader.extendFromSlice data }

def updateMaxChunkSize (self : ChunkUnpacketizer) (chunkSize : Nat) : ChunkUnpacketizer :=
  { self with maxChunkSize := chunkSize }

/-- The bytes not read yet. -/
abbrev buffer (self : ChunkUnpacketizer) : List UInt8 := self.reader.buffer

abbrev header (self : ChunkUnpacketizer) : ChunkMessageHeader :=
  self.currentChunkInfo.messageHeader

abbrev payload (self : ChunkUnpacketizer) : List UInt8 := self.currentChunkInfo.payload

/-- The reader with another current message header. -/
def setHeader (self : ChunkUnpacketizer) (header : ChunkMessageHeader) : ChunkUnpacketizer :=
  { self with currentChunkInfo := { self.currentChunkInfo with messageHeader := header } }

def setPayload (self : ChunkUnpacketizer) (payload : List UInt8) : ChunkUnpacketizer :=
  { self with currentChunkInfo := { self.currentChunkInfo with payload := payload } }

def setBasicHeader (self : ChunkUnpacketizer) (header : ChunkBasicHeader) : ChunkUnpacketizer :=
  { self with currentChunkInfo := { self.currentChunkInfo with basicHeader := header } }

def setReader (self : ChunkUnpacketizer) (reader : BytesReader) : ChunkUnpacketizer :=
  { self with reader := reader }

def setChunkReadState (self : ChunkUnpacketizer) (state : ChunkReadState) : ChunkUnpacketizer :=
  { self with chunkReadState := state }

def setMsgHeaderReadState (self : ChunkUnpacketizer) (state : MessageHeaderReadState) :
    ChunkUnpacketizer :=
  { self with msgHeaderReadState := state }

end ChunkUnpacketizer

open ChunkUnpacketizer

/-- A read of the byte buffer, as an action of the chunk reader. -/
def readCursor {α : Type} (bytesNum : Nat) (decode : List UInt8 → α) : Unpack α := fun self =>
  match self.reader.readBytesCursor bytesNum decode with
  | .ok (a, reader) => .ok a (self.setReader reader)
  | .error err => .error (.error (.bytesReadError err)) self

abbrev readU8 : Unpack UInt8 := readCursor 1 BytesReader.decodeU8

abbrev readU24 (order : ByteOrder) : Unpack UInt32 := readCursor 3 (BytesReader.decodeU32 order)

abbrev readU32 (order : ByteOrder) : Unpack UInt32 := readCursor 4 (BytesReader.decodeU32 order)

abbrev readBytes (bytesNum : Nat) : Unpack (List UInt8) := readCursor bytesNum id

/-- Changes the current message header. -/
def modifyHeader (f : ChunkMessageHeader → ChunkMessageHeader) : Unpack Unit :=
  modify fun self => self.setHeader (f self.header)

/-- The chunk stream id whose basic header starts with `byte`, or none where the buffer is empty
after that byte. -/
def readChunkStreamId (byte : UInt8) : Unpack (Option UInt32) := do
  let csid := byte &&& 0b00111111
  if csid = 0 then
    if (← get).reader.isEmpty then
      return none
    let low ← readU8
    return some (64 + low.toUInt32)
  else if csid = 1 then
    if (← get).reader.isEmpty then
      return none
    let low ← readU8
    let high ← readU8
    return some (64 + low.toUInt32 + high.toUInt32 * 256)
  else
    return some csid.toUInt32

/-- Restores the message header of chunk stream `csid` when the chunk stream changes. -/
def switchChunkStream (formatId : UInt8) (csid : UInt32) : Unpack Unit := do
  let self ← get
  if csid ≠ self.currentChunkInfo.basicHeader.chunkStreamId then
    match self.chunkMessageHeaders.lookup csid with
    | some header => modifyHeader fun _ => header
    | none =>
      if formatId ≠ 0 then
        if self.parseErrorNumber > PARSE_ERROR_NUMVER then
          throw (.error .cannotParse)
        else
          set { self with parseErrorNumber := self.parseErrorNumber + 1 }
      else
        set { self with parseErrorNumber := 0 }

def readBasicHeader : Unpack UnpackResult := do
  let byte ← readU8
  let formatId := (byte >>> 6) &&& 0b00000011
  match ← readChunkStreamId byte with
  | none => return .notEnoughBytes
  | some csid =>
    switchChunkStream formatId csid
    if formatId = 0 then
      modifyHeader ({ · with timestampDelta := 0 })
    modify (·.setBasicHeader ⟨formatId, csid⟩)
    modify (·.setChunkReadState .readMessageHeader)
    return .chunkBasicHeaderResult ⟨formatId, csid⟩

/-- The message header of format 0, one field a turn. -/
def readFormat0 (_ : Unit) : Unpack (Turn Unit Unit) := do
  match (← get).msgHeaderReadState with
  | .readTimeStamp =>
    let timestamp ← readU24 .bigEndian
    modifyHeader ({ · with timestamp := timestamp })
    modify (·.setMsgHeaderReadState .readMsgLength)
    return .again ()
  | .readMsgLength =>
    let msgLength ← readU24 .bigEndian
    modifyHeader ({ · with msgLength := msgLength })
    modify (·.setMsgHeaderReadState .readMsgTypeID)
    return .again ()
  | .readMsgTypeID =>
    let msgTypeId ← readU8
    modifyHeader ({ · with msgTypeId := msgTypeId })
    modify (·.setMsgHeaderReadState .readMsgStreamID)
    return .again ()
  | .readMsgStreamID =>
    let msgStreamdId ← readU32 .littleEndian
    modifyHeader ({ · with msgStreamdId := msgStreamdId })
    modify (·.setMsgHeaderReadState .readTimeStamp)
    return .done ()

/-- The message header of format 1, one field a turn. -/
def readFormat1 (_ : Unit) : Unpack (Turn Unit Unit) := do
  match (← get).msgHeaderReadState with
  | .readTimeStamp =>
    let timestampDelta ← readU24 .bigEndian
    modifyHeader ({ · with timestampDelta := timestampDelta })
    modify (·.setMsgHeaderReadState .readMsgLength)
    return .again ()
  | .readMsgLength =>
    let msgLength ← readU24 .bigEndian
    modifyHeader ({ · with msgLength := msgLength })
    modify (·.setMsgHeaderReadState .readMsgTypeID)
    return .again ()
  | .readMsgTypeID =>
    let msgTypeId ← readU8
    modifyHeader ({ · with msgTypeId := msgTypeId })
    modify (·.setMsgHeaderReadState .readTimeStamp)
    return .done ()
  | .readMsgStreamID =>
    return .done ()

/-! ### How reads run -/

/-- A read either finds too few bytes and changes nothing, or takes them. -/
theorem readCursor_eq {α : Type} (n : Nat) (decode : List UInt8 → α) (self : ChunkUnpacketizer) :
    readCursor n decode self =
      if self.buffer.length < n then .error .notEnoughBytes self
      else .ok (decode (self.buffer.take n)) (self.setReader ⟨self.buffer.drop n⟩) := by
  simp only [readCursor, BytesReader.readBytesCursor, BytesReader.readBytes, buffer]
  by_cases h : self.reader.buffer.length < n <;> simp only [h, if_true, if_false]

theorem bind_readCursor {α β : Type} (n : Nat) (decode : List UInt8 → α) (f : α → Unpack β)
    (self : ChunkUnpacketizer) :
    (readCursor n decode >>= f) self =
      if self.buffer.length < n then .error .notEnoughBytes self
      else f (decode (self.buffer.take n)) (self.setReader ⟨self.buffer.drop n⟩) := by
  by_cases h : self.buffer.length < n
  · rw [if_pos h]
    exact bind_of_error (by rw [readCursor_eq, if_pos h])
  · rw [if_neg h]
    exact bind_of_ok (by rw [readCursor_eq, if_neg h])

theorem length_drop_lt {buffer : List UInt8} {n : Nat} (hn : 0 < n) (h : ¬buffer.length < n) :
    (buffer.drop n).length < buffer.length := by
  rw [List.length_drop]
  omega

/-- How many bytes a field of a message header takes. -/
def MessageHeaderReadState.width : MessageHeaderReadState → Nat
  | .readTimeStamp => 3
  | .readMsgLength => 3
  | .readMsgTypeID => 1
  | .readMsgStreamID => 4

/-- The message header with a field set from its bytes.  The first field is the timestamp in format
0 and the timestamp delta in format 1. -/
def ChunkMessageHeader.setField (header : ChunkMessageHeader) (format : UInt8)
    (field : MessageHeaderReadState) (bytes : List UInt8) : ChunkMessageHeader :=
  match field with
  | .readTimeStamp =>
    if format = 0 then { header with timestamp := BytesReader.decodeU32 .bigEndian bytes }
    else { header with timestampDelta := BytesReader.decodeU32 .bigEndian bytes }
  | .readMsgLength => { header with msgLength := BytesReader.decodeU32 .bigEndian bytes }
  | .readMsgTypeID => { header with msgTypeId := BytesReader.decodeU8 bytes }
  | .readMsgStreamID => { header with msgStreamdId := BytesReader.decodeU32 .littleEndian bytes }

/-- The field after a field, with the first one after the last. -/
def MessageHeaderReadState.next (format : UInt8) : MessageHeaderReadState → MessageHeaderReadState
  | .readTimeStamp => .readMsgLength
  | .readMsgLength => .readMsgTypeID
  | .readMsgTypeID => if format = 0 then .readMsgStreamID else .readTimeStamp
  | .readMsgStreamID => .readTimeStamp

/-- The reader after the field of the message header that it stands at. -/
def ChunkUnpacketizer.takeField (self : ChunkUnpacketizer) (format : UInt8) : ChunkUnpacketizer :=
  let field := self.msgHeaderReadState
  let header := self.header.setField format field (self.buffer.take field.width)
  ((self.setReader ⟨self.buffer.drop field.width⟩).setHeader header).setMsgHeaderReadState
    (field.next format)

/-- The next turn of a loop over fields. -/
def fieldTurn : MessageHeaderReadState → Turn Unit Unit
  | .readTimeStamp => .done ()
  | _ => .again ()

theorem readFormat0_eq (a : Unit) (self : ChunkUnpacketizer) :
    readFormat0 a self =
      if self.buffer.length < self.msgHeaderReadState.width then .error .notEnoughBytes self
      else .ok (fieldTurn (self.msgHeaderReadState.next 0)) (self.takeField 0) := by
  unfold readFormat0 takeField
  rw [bind_get]
  cases self.msgHeaderReadState <;> exact bind_readCursor _ _ _ _

theorem readFormat1_eq (a : Unit) {r : ChunkUnpacketizer}
    (h : r.msgHeaderReadState ≠ .readMsgStreamID) :
    readFormat1 a r =
      if r.buffer.length < r.msgHeaderReadState.width then .error .notEnoughBytes r
      else .ok (fieldTurn (r.msgHeaderReadState.next 1)) (r.takeField 1) := by
  unfold readFormat1 takeField
  rw [bind_get]
  cases hState : r.msgHeaderReadState
  case readMsgStreamID => exact absurd hState h
  all_goals exact bind_readCursor _ _ _ _

/-- In format 1 the reader never stands at a message stream id; if it did, the header would end. -/
theorem readFormat1_stuck (a : Unit) {self : ChunkUnpacketizer}
    (h : self.msgHeaderReadState = .readMsgStreamID) :
    readFormat1 a self = .ok (.done ()) self := by
  unfold readFormat1
  rw [bind_get, h]
  rfl

theorem length_takeField {self : ChunkUnpacketizer} {format : UInt8}
    (h : ¬self.buffer.length < self.msgHeaderReadState.width) :
    (self.takeField format).buffer.length < self.buffer.length := by
  refine length_drop_lt ?_ h
  cases self.msgHeaderReadState <;> decide

theorem readFormat0_again (a a' : Unit) (self self' : ChunkUnpacketizer)
    (h : readFormat0 a self = .ok (.again a') self') :
    self'.buffer.length < self.buffer.length := by
  rw [readFormat0_eq] at h
  split at h
  · cases h
  · obtain ⟨-, rfl⟩ := EStateM.Result.ok.inj h
    exact length_takeField ‹_›

theorem readFormat1_again (a a' : Unit) (self self' : ChunkUnpacketizer)
    (h : readFormat1 a self = .ok (.again a') self') :
    self'.buffer.length < self.buffer.length := by
  by_cases hState : self.msgHeaderReadState = .readMsgStreamID
  · rw [readFormat1_stuck a hState] at h
    cases h
  · rw [readFormat1_eq a hState] at h
    split at h
    · cases h
    · obtain ⟨-, rfl⟩ := EStateM.Result.ok.inj h
      exact length_takeField ‹_›

/-- The fields of a message header of format 0, from the one where the last read stopped. -/
def readFields0 : Unpack Unit :=
  loopM readFormat0 (·.buffer.length) readFormat0_again ()

def readFields1 : Unpack Unit :=
  loopM readFormat1 (·.buffer.length) readFormat1_again ()

theorem fieldTurn_eq_again {field : MessageHeaderReadState} {a : Unit}
    (h : fieldTurn field = .again a) : field ≠ .readTimeStamp := by
  rintro rfl
  cases h

theorem fieldTurn_eq_done {field : MessageHeaderReadState} {b : Unit}
    (h : fieldTurn field = .done b) : field = .readTimeStamp := by
  cases field
  case readTimeStamp => rfl
  all_goals cases h

/-- The rule for the loops over the fields of a header: what holds at a field and is kept by taking
it holds at the next one. -/
theorem readFields_rule {format : UInt8} {turn : Unit → Unpack (Turn Unit Unit)}
    {decreases : ∀ a a' s s', turn a s = .ok (.again a') s' → s'.buffer.length < s.buffer.length}
    {P : ChunkUnpacketizer → Prop} {Q : EStateM.Result UnpackFault ChunkUnpacketizer Unit → Prop}
    (hTurn : ∀ a s, P s → turn a s =
      if s.buffer.length < s.msgHeaderReadState.width then .error .notEnoughBytes s
      else .ok (fieldTurn (s.msgHeaderReadState.next format)) (s.takeField format))
    (hTake : ∀ s, P s → s.msgHeaderReadState.width ≤ s.buffer.length →
      s.msgHeaderReadState.next format ≠ .readTimeStamp → P (s.takeField format))
    (hLast : ∀ s, P s → s.msgHeaderReadState.width ≤ s.buffer.length →
      s.msgHeaderReadState.next format = .readTimeStamp → Q (.ok () (s.takeField format)))
    (hShort : ∀ s, P s → s.buffer.length < s.msgHeaderReadState.width →
      Q (.error .notEnoughBytes s))
    {self : ChunkUnpacketizer} (h : P self) :
    Q (loopM turn (·.buffer.length) decreases () self) := by
  generalize () = a
  induction a, self using loopM_induct turn (·.buffer.length) decreases with
  | again a s a' s' hRun ih =>
    rw [loopM_again hRun]
    rw [hTurn a s h] at hRun
    split at hRun
    · cases hRun
    · obtain ⟨hAgain, rfl⟩ := EStateM.Result.ok.inj hRun
      exact ih (hTake s h (Nat.le_of_not_lt ‹_›) (fieldTurn_eq_again hAgain))
  | done a s b s' hRun =>
    rw [loopM_done hRun]
    rw [hTurn a s h] at hRun
    split at hRun
    · cases hRun
    · obtain ⟨hDone, rfl⟩ := EStateM.Result.ok.inj hRun
      exact hLast s h (Nat.le_of_not_lt ‹_›) (fieldTurn_eq_done hDone)
  | error a s e s' hRun =>
    rw [loopM_error hRun]
    rw [hTurn a s h] at hRun
    split at hRun
    · cases hRun
      exact hShort s h ‹_›
    · cases hRun

/-- Whether the timestamp that format 0 read announces an extended one. -/
def ChunkMessageHeader.markFormat0 (header : ChunkMessageHeader) : ChunkMessageHeader :=
  if header.timestamp ≥ 0xFFFFFF then { header with extendedTimestampType := .format0 } else header

/-- Whether the timestamp delta that format 1 or 2 read announces an extended one. -/
def ChunkMessageHeader.markFormat12 (header : ChunkMessageHeader) : ChunkMessageHeader :=
  if header.timestampDelta ≥ 0xFFFFFF then { header with extendedTimestampType := .format12 }
  else header

/-- The fields of the message header that a chunk of format `format` carries. -/
def readHeaderOf (format : UInt8) : Unpack Unit :=
  if format = 0 then do
    readFields0
    modifyHeader (·.markFormat0)
  else if format = 1 then do
    readFields1
    modifyHeader (·.markFormat12)
  else if format = 2 then do
    let timestampDelta ← readU24 .bigEndian
    modifyHeader ({ · with timestampDelta := timestampDelta })
    modifyHeader (·.markFormat12)
  else
    pure ()

def readMessageHeader : Unpack UnpackResult := do
  modify fun self =>
    if self.currentChunkInfo.basicHeader.format ≠ 3 then
      self.setHeader { self.header with extendedTimestampType := .none }
    else self
  readHeaderOf (← get).currentChunkInfo.basicHeader.format
  modify (·.setChunkReadState .readExtendedTimestamp)
  return .success

/-- The message header with the absolute timestamp of a chunk.  `overflowing_add` wraps. -/
def ChunkMessageHeader.advanced (header : ChunkMessageHeader) (curFormatId : UInt8)
    (payload : List UInt8) : ChunkMessageHeader :=
  if curFormatId = 1 ∨ curFormatId = 2 ∨ (curFormatId = 3 ∧ payload = []) then
    { header with timestamp := header.timestamp + header.timestampDelta }
  else header

/-- The reader with the absolute timestamp of the chunk at hand. -/
def ChunkUnpacketizer.computeTimestamp (self : ChunkUnpacketizer) : ChunkUnpacketizer :=
  self.setHeader (self.header.advanced self.currentChunkInfo.basicHeader.format self.payload)

def readExtendedTimestamp : Unpack UnpackResult := do
  match (← get).header.extendedTimestampType with
  | .format0 =>
    let timestamp ← readU32 .bigEndian
    modifyHeader ({ · with timestamp := timestamp })
  | .format12 =>
    let timestampDelta ← readU32 .bigEndian
    modifyHeader ({ · with timestampDelta := timestampDelta })
  | .none => pure ()
  modify (·.computeTimestamp)
  modify (·.setChunkReadState .readMessagePayload)
  return .success

/-- How many payload bytes the chunk at hand carries, once the subtraction is known not to
underflow. -/
def ChunkUnpacketizer.needReadLength (self : ChunkUnpacketizer) : Nat :=
  let wholeMsgLength := self.header.msgLength.toNat
  let remainingBytes := wholeMsgLength - self.payload.length
  if wholeMsgLength > self.maxChunkSize then min remainingBytes self.maxChunkSize
  else remainingBytes

/-- The reader after a complete message: the payload is cleared and the header cached. -/
def ChunkUnpacketizer.finishMessage (self : ChunkUnpacketizer) : ChunkUnpacketizer :=
  { self.setPayload [] with
    chunkReadState := .finish
    chunkMessageHeaders :=
      self.chunkMessageHeaders.insert self.currentChunkInfo.basicHeader.chunkStreamId self.header }

def readMessagePayload : Unpack UnpackResult := do
  let self ← get
  -- `whole_msg_length - payload.len()` underflows
  if self.header.msgLength.toNat < self.payload.length then
    throw .panic
  let payloadData ← readBytes self.needReadLength
  modify fun self => self.setPayload (self.payload ++ payloadData)
  let self ← get
  if self.payload.length = self.header.msgLength.toNat then
    set self.finishMessage
    return .chunkInfo self.currentChunkInfo
  modify (·.setChunkReadState .readBasicHeader)
  return .success

/-- The reader after `n` bytes of payload. -/
def ChunkUnpacketizer.takePayload (self : ChunkUnpacketizer) (n : Nat) : ChunkUnpacketizer :=
  (self.setReader ⟨self.buffer.drop n⟩).setPayload (self.payload ++ self.buffer.take n)

theorem readMessagePayload_eq (self : ChunkUnpacketizer) :
    readMessagePayload self =
      if self.header.msgLength.toNat < self.payload.length then .error .panic self
      else if self.buffer.length < self.needReadLength then .error .notEnoughBytes self
      else if (self.payload ++ self.buffer.take self.needReadLength).length =
          self.header.msgLength.toNat then
        .ok (.chunkInfo (self.takePayload self.needReadLength).currentChunkInfo)
          (self.takePayload self.needReadLength).finishMessage
      else
        .ok .success
          ((self.takePayload self.needReadLength).setChunkReadState .readBasicHeader) := by
  unfold readMessagePayload
  rw [bind_get]
  by_cases hPanic : self.header.msgLength.toNat < self.payload.length
  · rw [if_pos hPanic, if_pos hPanic]
    rfl
  · rw [if_neg hPanic, if_neg hPanic]
    refine (bind_readCursor _ _ _ _).trans ?_
    by_cases hShort : self.buffer.length < self.needReadLength
    · rw [if_pos hShort, if_pos hShort]
    · rw [if_neg hShort, if_neg hShort, bind_modify, bind_get]
      by_cases hWhole : (self.payload ++ self.buffer.take self.needReadLength).length =
          self.header.msgLength.toNat
      · rw [if_pos hWhole]
        exact congrFun (if_pos hWhole) _
      · rw [if_neg hWhole]
        exact congrFun (if_neg hWhole) _

/-- The message header with the value of an extended timestamp, if one is in force. -/
def ChunkMessageHeader.extended (header : ChunkMessageHeader) (value : UInt32) :
    ChunkMessageHeader :=
  match header.extendedTimestampType with
  | .none => header
  | .format0 => { header with timestamp := value }
  | .format12 => { header with timestampDelta := value }

theorem extended_none {header : ChunkMessageHeader} (h : header.extendedTimestampType = .none)
    (value : UInt32) : header.extended value = header := by
  unfold ChunkMessageHeader.extended
  rw [h]

theorem extended_format0 {header : ChunkMessageHeader}
    (h : header.extendedTimestampType = .format0) (value : UInt32) :
    header.extended value = { header with timestamp := value } := by
  unfold ChunkMessageHeader.extended
  rw [h]

theorem extended_format12 {header : ChunkMessageHeader}
    (h : header.extendedTimestampType = .format12) (value : UInt32) :
    header.extended value = { header with timestampDelta := value } := by
  unfold ChunkMessageHeader.extended
  rw [h]

/-- The reader after the extended timestamp, if one is in force. -/
def ChunkUnpacketizer.takeExtended (self : ChunkUnpacketizer) : ChunkUnpacketizer :=
  if self.header.extendedTimestampType = .none then self
  else (self.setReader ⟨self.buffer.drop 4⟩).setHeader
    (self.header.extended (BytesReader.decodeU32 .bigEndian (self.buffer.take 4)))

theorem readExtendedTimestamp_eq (self : ChunkUnpacketizer) :
    readExtendedTimestamp self =
      if self.header.extendedTimestampType ≠ .none ∧ self.buffer.length < 4 then
        .error .notEnoughBytes self
      else
        .ok .success (self.takeExtended.computeTimestamp.setChunkReadState .readMessagePayload) := by
  unfold readExtendedTimestamp takeExtended
  rw [bind_get]
  cases hType : self.header.extendedTimestampType with
  | none => rfl
  | format0 =>
    by_cases hShort : self.buffer.length < 4
    · rw [if_pos ⟨nofun, hShort⟩]
      exact (bind_readCursor _ _ _ _).trans (if_pos hShort)
    · rw [if_neg fun h => hShort h.2, extended_format0 hType]
      exact (bind_readCursor _ _ _ _).trans (if_neg hShort)
  | format12 =>
    by_cases hShort : self.buffer.length < 4
    · rw [if_pos ⟨nofun, hShort⟩]
      exact (bind_readCursor _ _ _ _).trans (if_pos hShort)
    · rw [if_neg fun h => hShort h.2, extended_format12 hType]
      exact (bind_readCursor _ _ _ _).trans (if_neg hShort)

/-- The reading of a header stops only for lack of bytes. -/
theorem readHeaderOf_error {format : UInt8} {self s : ChunkUnpacketizer} {e : UnpackFault}
    (h : readHeaderOf format self = .error e s) : e = .notEnoughBytes := by
  unfold readHeaderOf at h
  split at h
  · rcases bind_eq_error h with hFields | ⟨_, _, -, hEnd⟩
    · obtain ⟨a, s1, hTurn⟩ := loopM_eq_error hFields
      rw [readFormat0_eq] at hTurn
      split at hTurn <;> cases hTurn
      rfl
    · cases hEnd
  · split at h
    · rcases bind_eq_error h with hFields | ⟨_, _, -, hEnd⟩
      · obtain ⟨a, s1, hTurn⟩ := loopM_eq_error hFields
        by_cases hState : s1.msgHeaderReadState = .readMsgStreamID
        · rw [readFormat1_stuck a hState] at hTurn
          cases hTurn
        · rw [readFormat1_eq a hState] at hTurn
          split at hTurn <;> cases hTurn
          rfl
      · cases hEnd
    · split at h
      · rw [bind_readCursor] at h
        split at h <;> cases h
        rfl
      · cases h

/-! ### What each read can change -/

/-- The reading of a message header: bytes are taken from the buffer, and only the message header
and the place within it change. -/
structure HeaderRead (before after : ChunkUnpacketizer) : Prop where
  taken : after.buffer <:+ before.buffer
  basicHeader : after.currentChunkInfo.basicHeader = before.currentChunkInfo.basicHeader
  payload : after.payload = before.payload
  chunkMessageHeaders : after.chunkMessageHeaders = before.chunkMessageHeaders
  chunkReadState : after.chunkReadState = before.chunkReadState
  maxChunkSize : after.maxChunkSize = before.maxChunkSize
  parseErrorNumber : after.parseErrorNumber = before.parseErrorNumber

theorem HeaderRead.refl (self : ChunkUnpacketizer) : HeaderRead self self :=
  ⟨List.suffix_refl _, rfl, rfl, rfl, rfl, rfl, rfl⟩

theorem HeaderRead.trans {a b c : ChunkUnpacketizer} (h : HeaderRead a b) (h' : HeaderRead b c) :
    HeaderRead a c :=
  ⟨h'.taken.trans h.taken, h'.basicHeader.trans h.basicHeader, h'.payload.trans h.payload,
    h'.chunkMessageHeaders.trans h.chunkMessageHeaders, h'.chunkReadState.trans h.chunkReadState,
    h'.maxChunkSize.trans h.maxChunkSize, h'.parseErrorNumber.trans h.parseErrorNumber⟩

theorem readCursor_headerRead {α : Type} (n : Nat) (decode : List UInt8 → α)
    (self : ChunkUnpacketizer) : HeaderRead self (stateOf (readCursor n decode self)) := by
  rw [readCursor_eq]
  split
  · exact .refl self
  · exact ⟨List.drop_suffix _ _, rfl, rfl, rfl, rfl, rfl, rfl⟩

theorem modifyHeader_headerRead (g : ChunkMessageHeader → ChunkMessageHeader)
    (self : ChunkUnpacketizer) : HeaderRead self (stateOf (modifyHeader g self)) :=
  ⟨List.suffix_refl _, rfl, rfl, rfl, rfl, rfl, rfl⟩

theorem takeField_headerRead (format : UInt8) (self : ChunkUnpacketizer) :
    HeaderRead self (self.takeField format) :=
  ⟨List.drop_suffix _ _, rfl, rfl, rfl, rfl, rfl, rfl⟩

theorem readFormat0_headerRead (a : Unit) (self : ChunkUnpacketizer) :
    HeaderRead self (stateOf (readFormat0 a self)) := by
  rw [readFormat0_eq]
  split
  · exact .refl self
  · exact takeField_headerRead 0 self

theorem readFormat1_headerRead (a : Unit) (self : ChunkUnpacketizer) :
    HeaderRead self (stateOf (readFormat1 a self)) := by
  by_cases hState : self.msgHeaderReadState = .readMsgStreamID
  · rw [readFormat1_stuck a hState]
    exact .refl self
  · rw [readFormat1_eq a hState]
    split
    · exact .refl self
    · exact takeField_headerRead 1 self

theorem readFields0_headerRead (self : ChunkUnpacketizer) :
    HeaderRead self (stateOf (readFields0 self)) :=
  stateOf_loopM (R := HeaderRead) HeaderRead.trans readFormat0_headerRead () self

theorem readFields1_headerRead (self : ChunkUnpacketizer) :
    HeaderRead self (stateOf (readFields1 self)) :=
  stateOf_loopM (R := HeaderRead) HeaderRead.trans readFormat1_headerRead () self

theorem readHeaderOf_headerRead (format : UInt8) (self : ChunkUnpacketizer) :
    HeaderRead self (stateOf (readHeaderOf format self)) := by
  unfold readHeaderOf
  split
  · exact stateOf_bind (R := HeaderRead) HeaderRead.trans (readFields0_headerRead self)
      fun _ _ => modifyHeader_headerRead _ _
  · split
    · exact stateOf_bind (R := HeaderRead) HeaderRead.trans (readFields1_headerRead self)
        fun _ _ => modifyHeader_headerRead _ _
    · split
      · refine stateOf_bind (R := HeaderRead) HeaderRead.trans (readCursor_headerRead _ _ _)
          fun _ _ => ?_
        exact ⟨List.suffix_refl _, rfl, rfl, rfl, rfl, rfl, rfl⟩
      · exact .refl self

/-- The reader when it comes to a message header: formats other than 3 drop the extended timestamp
that is in force. -/
def ChunkUnpacketizer.prepared (self : ChunkUnpacketizer) : ChunkUnpacketizer :=
  if self.currentChunkInfo.basicHeader.format ≠ 3 then
    self.setHeader { self.header with extendedTimestampType := .none }
  else self

@[simp] theorem prepared_basicHeader (self : ChunkUnpacketizer) :
    self.prepared.currentChunkInfo.basicHeader = self.currentChunkInfo.basicHeader := by
  unfold prepared
  split <;> rfl

theorem prepared_headerRead (self : ChunkUnpacketizer) : HeaderRead self self.prepared := by
  unfold prepared
  split
  · exact ⟨List.suffix_refl _, rfl, rfl, rfl, rfl, rfl, rfl⟩
  · exact .refl self

theorem readMessageHeader_eq (self : ChunkUnpacketizer) :
    readMessageHeader self =
      match readHeaderOf self.currentChunkInfo.basicHeader.format self.prepared with
      | .ok _ self' => .ok .success (self'.setChunkReadState .readExtendedTimestamp)
      | .error e self' => .error e self' := by
  unfold readMessageHeader
  rw [bind_modify, bind_get]
  change (readHeaderOf self.prepared.currentChunkInfo.basicHeader.format >>= _) self.prepared = _
  rw [prepared_basicHeader]
  cases h : readHeaderOf self.currentChunkInfo.basicHeader.format self.prepared with
  | ok a self' => exact bind_of_ok h
  | error e self' => exact bind_of_error h

theorem readMessageHeader_ne_panic (self s : ChunkUnpacketizer) :
    readMessageHeader self ≠ .error .panic s := by
  rw [readMessageHeader_eq]
  cases hHeader : readHeaderOf self.currentChunkInfo.basicHeader.format self.prepared with
  | ok a s' => exact nofun
  | error e s' =>
    rw [readHeaderOf_error hHeader]
    exact nofun

/-- How many bytes of a basic header follow its first byte. -/
def basicHeaderTail (byte : UInt8) : Nat :=
  if byte &&& 0b00111111 = 0 then 1 else if byte &&& 0b00111111 = 1 then 2 else 0

/-- The chunk stream id of a basic header of first byte `byte` followed by `tail`. -/
def basicHeaderCsid (byte : UInt8) (tail : List UInt8) : UInt32 :=
  if byte &&& 0b00111111 = 0 then 64 + (BytesReader.decodeU8 (tail.take 1)).toUInt32
  else if byte &&& 0b00111111 = 1 then
    64 + (BytesReader.decodeU8 (tail.take 1)).toUInt32 +
      (BytesReader.decodeU8 ((tail.drop 1).take 1)).toUInt32 * 256
  else (byte &&& 0b00111111).toUInt32

theorem isEmpty_of_buffer {self : ChunkUnpacketizer} :
    self.reader.isEmpty = true ↔ self.buffer = [] := by
  simp [BytesReader.isEmpty, BytesReader.len, buffer]

/-- A basic header whose bytes have all arrived. -/
theorem readChunkStreamId_whole {byte : UInt8} {r : ChunkUnpacketizer}
    (h : basicHeaderTail byte ≤ r.buffer.length) :
    readChunkStreamId byte r =
      .ok (some (basicHeaderCsid byte r.buffer))
        (r.setReader ⟨r.buffer.drop (basicHeaderTail byte)⟩) := by
  unfold readChunkStreamId basicHeaderCsid
  unfold basicHeaderTail at h ⊢
  by_cases h0 : byte &&& 0b00111111 = 0
  · simp only [if_pos h0] at h ⊢
    have hne : ¬r.reader.isEmpty = true := by
      rw [isEmpty_of_buffer]
      intro hNil
      simp [hNil] at h
    rw [bind_get, if_neg hne, bind_readCursor, if_neg (by omega)]
    rfl
  · simp only [if_neg h0] at h ⊢
    by_cases h1 : byte &&& 0b00111111 = 1
    · simp only [if_pos h1] at h ⊢
      have hne : ¬r.reader.isEmpty = true := by
        rw [isEmpty_of_buffer]
        intro hNil
        simp [hNil] at h
      rw [bind_get, if_neg hne, bind_readCursor, if_neg (by omega), bind_readCursor]
      have hTwo : ¬(r.buffer.drop 1).length < 1 := by
        rw [List.length_drop]
        omega
      refine (if_neg hTwo).trans ?_
      simp only [pure_apply, setReader, buffer, List.drop_drop]
    · simp only [if_neg h1] at h ⊢
      rfl

/-- A basic header that the buffer ends in: what has arrived of it is taken and lost. -/
theorem readChunkStreamId_cut {byte : UInt8} {r : ChunkUnpacketizer}
    (h : r.buffer.length < basicHeaderTail byte) :
    readChunkStreamId byte r = .ok none r ∧ r.buffer = [] ∨
      readChunkStreamId byte r = .error .notEnoughBytes (r.setReader ⟨[]⟩) := by
  unfold readChunkStreamId
  unfold basicHeaderTail at h
  by_cases h0 : byte &&& 0b00111111 = 0
  · simp only [if_pos h0] at h ⊢
    have hNil : r.buffer = [] := List.length_eq_zero_iff.mp (by omega)
    rw [bind_get, if_pos (isEmpty_of_buffer.mpr hNil)]
    exact .inl ⟨rfl, hNil⟩
  · simp only [if_neg h0] at h ⊢
    by_cases h1 : byte &&& 0b00111111 = 1
    · simp only [if_pos h1] at h ⊢
      rw [bind_get]
      by_cases hEmpty : r.reader.isEmpty = true
      · rw [if_pos hEmpty]
        exact .inl ⟨rfl, isEmpty_of_buffer.mp hEmpty⟩
      · have hOne : r.buffer.length = 1 := by
          have := mt (fun h0 => isEmpty_of_buffer.mpr (List.length_eq_zero_iff.mp h0)) hEmpty
          omega
        have hNil : r.buffer.drop 1 = [] := List.drop_eq_nil_of_le (by omega)
        rw [if_neg hEmpty, bind_readCursor, if_neg (by omega), bind_readCursor, hNil]
        exact .inr rfl
    · simp only [if_neg h1] at h
      exact absurd h (Nat.not_lt_zero _)

/-- Whether the reader gives the connection up: too many chunk streams began with a chunk that is
not of format 0. -/
def ChunkUnpacketizer.GivesUp (self : ChunkUnpacketizer) (formatId : UInt8) (csid : UInt32) :
    Prop :=
  csid ≠ self.currentChunkInfo.basicHeader.chunkStreamId ∧
    self.chunkMessageHeaders.lookup csid = none ∧ formatId ≠ 0 ∧
    PARSE_ERROR_NUMVER < self.parseErrorNumber

/-- The reader after a change to chunk stream `csid`. -/
def ChunkUnpacketizer.switched (self : ChunkUnpacketizer) (formatId : UInt8) (csid : UInt32) :
    ChunkUnpacketizer :=
  if csid = self.currentChunkInfo.basicHeader.chunkStreamId then self
  else
    match self.chunkMessageHeaders.lookup csid with
    | some header => self.setHeader header
    | none =>
      { self with parseErrorNumber := if formatId = 0 then 0 else self.parseErrorNumber + 1 }

/-- The reader after the basic header of a chunk. -/
def ChunkUnpacketizer.begun (self : ChunkUnpacketizer) (formatId : UInt8) (csid : UInt32) :
    ChunkUnpacketizer :=
  let switched := self.switched formatId csid
  let reset :=
    if formatId = 0 then switched.setHeader { switched.header with timestampDelta := 0 }
    else switched
  (reset.setBasicHeader ⟨formatId, csid⟩).setChunkReadState .readMessageHeader

theorem switchChunkStream_givesUp {r : ChunkUnpacketizer} {formatId : UInt8} {csid : UInt32}
    (h : r.GivesUp formatId csid) :
    switchChunkStream formatId csid r = .error (.error .cannotParse) r := by
  obtain ⟨hCsid, hNone, hFormat, hNumber⟩ := h
  unfold switchChunkStream
  rw [bind_get, if_pos hCsid, hNone]
  dsimp only
  rw [if_pos hFormat, if_pos hNumber]
  rfl

theorem switchChunkStream_goesOn {r : ChunkUnpacketizer} {formatId : UInt8} {csid : UInt32}
    (h : ¬r.GivesUp formatId csid) :
    switchChunkStream formatId csid r = .ok () (r.switched formatId csid) := by
  unfold switchChunkStream switched
  rw [bind_get]
  by_cases hCsid : csid = r.currentChunkInfo.basicHeader.chunkStreamId
  · rw [if_neg (not_not_intro hCsid), if_pos hCsid]
    rfl
  · rw [if_pos hCsid, if_neg hCsid]
    cases hLookup : r.chunkMessageHeaders.lookup csid with
    | some header => rfl
    | none =>
      dsimp only
      by_cases hFormat : formatId = 0
      · rw [if_neg (not_not_intro hFormat), if_pos hFormat]
        rfl
      · have hNumber : ¬r.parseErrorNumber > PARSE_ERROR_NUMVER :=
          fun hNumber => h ⟨hCsid, hLookup, hFormat, hNumber⟩
        rw [if_pos hFormat, if_neg hFormat, if_neg hNumber]
        rfl

/-- The format that a basic header of first byte `byte` gives. -/
def basicHeaderFormat (byte : UInt8) : UInt8 := (byte >>> 6) &&& 0b00000011

theorem readBasicHeader_nil {self : ChunkUnpacketizer} (h : self.buffer = []) :
    readBasicHeader self = .error .notEnoughBytes self :=
  (bind_readCursor _ _ _ _).trans (if_pos (by simp [h]))

theorem readBasicHeader_cons {self : ChunkUnpacketizer} {byte : UInt8} {rest : List UInt8}
    (h : self.buffer = byte :: rest) :
    readBasicHeader self =
      (readChunkStreamId byte >>= fun csid => match csid with
        | none => pure .notEnoughBytes
        | some csid => do
          switchChunkStream (basicHeaderFormat byte) csid
          if basicHeaderFormat byte = 0 then
            modifyHeader ({ · with timestampDelta := 0 })
          modify (·.setBasicHeader ⟨basicHeaderFormat byte, csid⟩)
          modify (·.setChunkReadState .readMessageHeader)
          return .chunkBasicHeaderResult ⟨basicHeaderFormat byte, csid⟩)
        (self.setReader ⟨rest⟩) := by
  refine (bind_readCursor _ _ _ _).trans ?_
  rw [h, if_neg (by simp)]
  rfl

theorem readBasicHeader_whole {self : ChunkUnpacketizer} {byte : UInt8} {t : List UInt8}
    (h : self.buffer = byte :: t) (hTail : basicHeaderTail byte ≤ t.length)
    (hGoesOn : ¬self.GivesUp (basicHeaderFormat byte) (basicHeaderCsid byte t)) :
    readBasicHeader self =
      .ok (.chunkBasicHeaderResult ⟨basicHeaderFormat byte, basicHeaderCsid byte t⟩)
        ((self.setReader ⟨t.drop (basicHeaderTail byte)⟩).begun (basicHeaderFormat byte)
          (basicHeaderCsid byte t)) := by
  have hRead := readChunkStreamId_whole (r := self.setReader ⟨t⟩) hTail
  rw [readBasicHeader_cons h, bind_of_ok hRead]
  have hSwitch := switchChunkStream_goesOn
    (r := self.setReader ⟨t.drop (basicHeaderTail byte)⟩) hGoesOn
  refine (bind_of_ok hSwitch).trans ?_
  unfold begun
  by_cases hFormat : basicHeaderFormat byte = 0
  · simp only [if_pos hFormat]
    rfl
  · simp only [if_neg hFormat]
    rfl

theorem readBasicHeader_givesUp {self : ChunkUnpacketizer} {byte : UInt8} {rest : List UInt8}
    (h : self.buffer = byte :: rest) (hTail : basicHeaderTail byte ≤ rest.length)
    (hGivesUp : self.GivesUp (basicHeaderFormat byte) (basicHeaderCsid byte rest)) :
    readBasicHeader self =
      .error (.error .cannotParse) (self.setReader ⟨rest.drop (basicHeaderTail byte)⟩) := by
  have hRead := readChunkStreamId_whole (r := self.setReader ⟨rest⟩) hTail
  rw [readBasicHeader_cons h, bind_of_ok hRead]
  exact bind_of_error (switchChunkStream_givesUp hGivesUp)

/-- A basic header that the buffer ends in is lost: the reader stays where it is. -/
theorem readBasicHeader_cut {self : ChunkUnpacketizer} {byte : UInt8} {rest : List UInt8}
    (h : self.buffer = byte :: rest) (hTail : rest.length < basicHeaderTail byte) :
    readBasicHeader self = .ok .notEnoughBytes (self.setReader ⟨rest⟩) ∧ rest = [] ∨
      readBasicHeader self = .error .notEnoughBytes (self.setReader ⟨[]⟩) := by
  rw [readBasicHeader_cons h]
  rcases readChunkStreamId_cut (r := self.setReader ⟨rest⟩) hTail with ⟨hRead, hNil⟩ | hRead
  · exact .inl ⟨bind_of_ok hRead, hNil⟩
  · exact .inr (bind_of_error hRead)

end Xiu.Rtmp.Chunk
