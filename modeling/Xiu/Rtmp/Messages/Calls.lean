import Xiu.Flv.Amf0.RoundTrip
import Xiu.Rtmp.CommandWriters
import Xiu.Rtmp.Messages.Parser

/-! What the parser makes of the messages that the writers write.  Every command and every control message
is parsed as what it says, but for four events that only the writer knows: they are errors. -/

namespace Xiu.Rtmp.Messages

open Bytesio ProofKit Flv.Amf0 Amf0ValueType

/-! ### Calls of the writers -/

/-- A call of a method of `ProtocolControlMessagesWriter` or of `EventMessagesWriter`. -/
inductive ControlCall where
  | setChunkSize (chunkSize : UInt32)
  | abortMessage (chunkStreamId : UInt32)
  | acknowledgement (sequenceNumber : UInt32)
  | windowAcknowledgementSize (windowSize : UInt32)
  | setPeerBandwidth (windowSize : UInt32) (limitType : UInt8)
  | streamBegin (streamId : UInt32)
  | streamEof (streamId : UInt32)
  | streamDry (streamId : UInt32)
  | setBufferLength (streamId ms : UInt32)
  | streamIsRecord (streamId : UInt32)
  | pingRequest (timestamp : UInt32)
  | pingResponse (timestamp : UInt32)

namespace ControlCall

open ProtocolControlMessagesWriter EventMessagesWriter

def message : ControlCall → ControlMessage
  | .setChunkSize chunkSize => writeSetChunkSize chunkSize
  | .abortMessage chunkStreamId => writeAbortMessage chunkStreamId
  | .acknowledgement sequenceNumber => writeAcknowledgement sequenceNumber
  | .windowAcknowledgementSize windowSize => writeWindowAcknowledgementSize windowSize
  | .setPeerBandwidth windowSize limitType => writeSetPeerBandwidth windowSize limitType
  | .streamBegin streamId => writeStreamBegin streamId
  | .streamEof streamId => writeStreamEof streamId
  | .streamDry streamId => writeStreamDry streamId
  | .setBufferLength streamId ms => writeSetBufferLength streamId ms
  | .streamIsRecord streamId => writeStreamIsRecord streamId
  | .pingRequest timestamp => writePingRequest timestamp
  | .pingResponse timestamp => writePingResponse timestamp

/-- What a call says, if the parser knows the event. -/
def meaning : ControlCall → Option RtmpMessageData
  | .setChunkSize chunkSize => some (.setChunkSize (chunkSize &&& 0x7FFFFFFF))
  | .abortMessage chunkStreamId => some (.abortMessage chunkStreamId)
  | .acknowledgement sequenceNumber => some (.acknowledgement sequenceNumber)
  | .windowAcknowledgementSize windowSize => some (.windowAcknowledgementSize windowSize)
  | .setPeerBandwidth windowSize limitType => some (.setPeerBandwidth ⟨windowSize, limitType⟩)
  | .streamBegin streamId => some (.streamBegin streamId)
  | .setBufferLength streamId ms => some (.setBufferLength streamId ms)
  | .streamIsRecord streamId => some (.streamIsRecorded streamId)
  | .streamEof _ | .streamDry _ | .pingRequest _ | .pingResponse _ => none

end ControlCall

/-- A call of a method of `NetConnection` or of `NetStreamWriter`. -/
inductive CommandCall where
  | connectWithValue (transactionId : UInt64) (properties : List (String × Amf0ValueType))
  | connect (transactionId : UInt64) (properties : ConnectProperties)
  | connectResponse (transactionId : UInt64) (fmsver : String) (capabilities : UInt64)
    (code level description : String) (encoding : UInt64)
  | createStream (transactionId : UInt64)
  | createStreamResponse (transactionId streamId : UInt64)
  | getStreamLength (transactionId : UInt64) (streamName : String)
  | error (transactionId : UInt64) (code level description : String)
  | play (transactionId : UInt64) (streamName : String) (start duration : UInt64) (reset : Bool)
  | deleteStream (transactionId streamId : UInt64)
  | closeStream (transactionId streamId : UInt64)
  | releaseStream (transactionId : UInt64) (streamName : String)
  | fcpublish (transactionId : UInt64) (streamName : String)
  | receiveAudio (transactionId : UInt64) (enable : Bool)
  | receiveVideo (transactionId : UInt64) (enable : Bool)
  | publish (transactionId : UInt64) (streamName streamType : String)
  | seek (transactionId ms : UInt64)
  | pause (transactionId : UInt64) (isPause : Bool) (ms : UInt64)
  | onBwDone (transactionId bandwidth : UInt64)
  | onStatus (transactionId : UInt64) (level code description : String)

namespace CommandCall

open NetConnection NetStreamWriter

def command : CommandCall → Command
  | .connectWithValue transactionId properties => writeConnectWithValue transactionId properties
  | .connect transactionId properties => writeConnect transactionId properties
  | .connectResponse transactionId fmsver capabilities code level description encoding =>
    writeConnectResponse transactionId fmsver capabilities code level description encoding
  | .createStream transactionId => writeCreateStream transactionId
  | .createStreamResponse transactionId streamId => writeCreateStreamResponse transactionId streamId
  | .getStreamLength transactionId streamName => writeGetStreamLength transactionId streamName
  | .error transactionId code level description => NetConnection.error transactionId code level description
  | .play transactionId streamName start duration reset =>
    writePlay transactionId streamName start duration reset
  | .deleteStream transactionId streamId => writeDeleteStream transactionId streamId
  | .closeStream transactionId streamId => writeCloseStream transactionId streamId
  | .releaseStream transactionId streamName => writeReleaseStream transactionId streamName
  | .fcpublish transactionId streamName => writeFcpublish transactionId streamName
  | .receiveAudio transactionId enable => writeReceiveAudio transactionId enable
  | .receiveVideo transactionId enable => writeReceiveVideo transactionId enable
  | .publish transactionId streamName streamType => writePublish transactionId streamName streamType
  | .seek transactionId ms => writeSeek transactionId ms
  | .pause transactionId isPause ms => writePause transactionId isPause ms
  | .onBwDone transactionId bandwidth => writeOnBwDone transactionId bandwidth
  | .onStatus transactionId level code description => writeOnStatus transactionId level code description

end CommandCall

/-! ### Control messages -/

theorem readU32_encodeU32 (n : UInt32) (rest : List UInt8) :
    (⟨encodeU32 n ++ rest⟩ : BytesReader).readU32 .bigEndian = .ok (n, ⟨rest⟩) := by
  have hBytes : (encodeU32 n).length = 4 := ByteOrder.length_encode ..
  rw [BytesReader.readU32, BytesReader.readBytesCursor, BytesReader.readBytes_append hBytes]
  exact congrArg (fun m => Except.ok (m, (⟨rest⟩ : BytesReader))) (BytesReader.decodeU32_encode4 .bigEndian n)

theorem readNumber_encodeU32 (n : UInt32) : ProtocolControlMessageReader.readNumber ⟨encodeU32 n⟩ = .ok n := by
  have hRead := readU32_encodeU32 n []
  rw [List.append_nil] at hRead
  simp [ProtocolControlMessageReader.readNumber, hRead, readOr]

theorem readU16_eventType (eventType : UInt16) (rest : List UInt8) :
    (⟨ByteOrder.bigEndian.encode 2 eventType.toNat ++ rest⟩ : BytesReader).readU16 .bigEndian =
      .ok (eventType, ⟨rest⟩) := by
  rw [BytesReader.readU16, BytesReader.readBytesCursor, BytesReader.readBytes_append (ByteOrder.length_encode ..)]
  exact congrArg (fun m => Except.ok (m, (⟨rest⟩ : BytesReader)))
    (BytesReader.decodeU16_encode .bigEndian eventType)

/-- What is expected of a message: what it says, or that its event is not known. -/
def expected : Option RtmpMessageData → Parsed
  | some data => .ok (some data)
  | none => .error .unknowEventMessageType

/-- A message of one number is parsed as that number. -/
theorem parse_number {msgTypeId : UInt8} {data : UInt32 → RtmpMessageData} {n : UInt32}
    (h : MessageParser.parse msgTypeId (encodeU32 n) =
      (do return some (data (← ProtocolControlMessageReader.readNumber ⟨encodeU32 n⟩)))) :
    MessageParser.parse msgTypeId (encodeU32 n) = .ok (some (data n)) := by
  rw [h, readNumber_encodeU32]
  rfl

/-- An event is told by its type; what follows is read as the event has it. -/
theorem parse_event {eventType : UInt16} {body : List UInt8} {result : Except MessageErrorValue RtmpMessageData}
    (h : (if eventType = RTMP_EVENT_SET_BUFFER_LENGTH then EventMessagesReader.readSetBufferLength ⟨body⟩
        else if eventType = RTMP_EVENT_STREAM_BEGIN then EventMessagesReader.readStreamBegin ⟨body⟩
        else if eventType = RTMP_EVENT_STREAM_IS_RECORDED then EventMessagesReader.readStreamIsRecorded ⟨body⟩
        else .error .unknowEventMessageType) = result) :
    MessageParser.parse USER_CONTROL_EVENT (ByteOrder.bigEndian.encode 2 eventType.toNat ++ body) =
      (do return some (← result)) := by
  have hEvent : EventMessagesReader.parseEvent ⟨ByteOrder.bigEndian.encode 2 eventType.toNat ++ body⟩ =
      result := by
    rw [← h]
    simp only [EventMessagesReader.parseEvent, readU16_eventType, readOr]
    rfl
  rw [← hEvent]
  rfl

/-- A control message is parsed as what it says, or its event is not known. -/
theorem parse_control (call : ControlCall) :
    MessageParser.parse call.message.msgTypeId call.message.body = expected call.meaning := by
  have hU32 (n : UInt32) : (⟨encodeU32 n⟩ : BytesReader).readU32 .bigEndian = .ok (n, ⟨[]⟩) := by
    have hRead := readU32_encodeU32 n []
    rwa [List.append_nil] at hRead
  cases call with
  | setChunkSize chunkSize => exact @parse_number _ RtmpMessageData.setChunkSize _ rfl
  | abortMessage chunkStreamId => exact @parse_number _ RtmpMessageData.abortMessage _ rfl
  | acknowledgement sequenceNumber => exact @parse_number _ RtmpMessageData.acknowledgement _ rfl
  | windowAcknowledgementSize windowSize =>
    exact @parse_number _ RtmpMessageData.windowAcknowledgementSize _ rfl
  | setPeerBandwidth windowSize limitType =>
    have hRead : ProtocolControlMessageReader.readSetPeerBandwidth ⟨encodeU32 windowSize ++ [limitType]⟩ =
        .ok ⟨windowSize, limitType⟩ := by
      rw [ProtocolControlMessageReader.readSetPeerBandwidth, readU32_encodeU32]
      rfl
    have hParse : MessageParser.parse SET_PEER_BANDWIDTH (encodeU32 windowSize ++ [limitType]) =
        (do return some (.setPeerBandwidth (← ProtocolControlMessageReader.readSetPeerBandwidth
          ⟨encodeU32 windowSize ++ [limitType]⟩))) := rfl
    rw [hRead] at hParse
    exact hParse
  | streamBegin streamId =>
    refine @parse_event _ _ (.ok (.streamBegin streamId)) ?_
    rw [if_neg (by decide), if_pos rfl, EventMessagesReader.readStreamBegin, hU32]
    rfl
  | setBufferLength streamId ms =>
    refine @parse_event _ _ (.ok (.setBufferLength streamId ms)) ?_
    rw [if_pos rfl, EventMessagesReader.readSetBufferLength, readU32_encodeU32]
    simp only [readOr, Bind.bind, Except.bind, hU32]
    rfl
  | streamIsRecord streamId =>
    refine @parse_event _ _ (.ok (.streamIsRecorded streamId)) ?_
    rw [if_neg (by decide), if_neg (by decide), if_pos rfl, EventMessagesReader.readStreamIsRecorded, hU32]
    rfl
  | streamEof streamId => exact @parse_event _ _ (.error .unknowEventMessageType) rfl
  | streamDry streamId => exact @parse_event _ _ (.error .unknowEventMessageType) rfl
  | pingRequest timestamp => exact @parse_event _ _ (.error .unknowEventMessageType) rfl
  | pingResponse timestamp => exact @parse_event _ _ (.error .unknowEventMessageType) rfl

/-! ### Commands -/

theorem readAny_encode {v : Amf0ValueType} (h : v.Readable) (tail : List UInt8) :
    Amf0Reader.readAny ⟨v.encode ++ tail⟩ = .ok v.asRead ⟨tail⟩ := by
  rw [Amf0Reader.readAny_fuel (Nat.lt_succ_self _)]
  exact readAnyIn_encode h (Nat.lt_succ_self _)

theorem asRead_ne_end {v : Amf0ValueType} (h : v.Readable) : v.asRead ≠ .END := by
  cases v <;> simp_all [asRead, Readable]

/-- Values are read one after the other up to the end. -/
theorem readAll_encode {vs : List Amf0ValueType} (h : ∀ v ∈ vs, v.Readable) :
    Amf0Reader.readAll ⟨vs.flatMap encode⟩ = .ok (vs.map asRead) ⟨[]⟩ := by
  induction vs with
  | nil => rfl
  | cons v vs ih =>
    rw [List.forall_mem_cons] at h
    rw [List.flatMap_cons, Amf0Reader.readAll_cons (readAny_encode h.1 _) (asRead_ne_end h.1),
      bind_of_ok (ih h.2)]
    rfl

/-- The marker of a value is looked at and left in place. -/
theorem lookAhead {v : Amf0ValueType} {marker : UInt8} {bytes : List UInt8} (h : v.encode = marker :: bytes)
    (tail : List UInt8) :
    Amf0Reader.read (fun reader => reader.advanceU8.map (·, reader)) ⟨v.encode ++ tail⟩ =
      .ok marker ⟨v.encode ++ tail⟩ := by
  have hAdvance : (⟨v.encode ++ tail⟩ : BytesReader).advanceU8 = .ok marker := by
    rw [h, List.cons_append]
    exact BytesReader.advanceU8_cons marker (bytes ++ tail)
  rw [Amf0Reader.read, hAdvance]
  rfl

/-- A value of the type that is asked for is read. -/
theorem readWithType_encode {v : Amf0ValueType} (h : v.Readable) {marker : UInt8} {bytes : List UInt8}
    (hMarker : v.encode = marker :: bytes) (tail : List UInt8) :
    MessageParser.readWithType marker ⟨v.encode ++ tail⟩ = .ok v.asRead ⟨tail⟩ := by
  rw [MessageParser.readWithType, bind_of_ok (lookAhead hMarker tail), if_neg (not_not_intro rfl)]
  exact readAny_encode h tail

/-- And a value of another type is not. -/
theorem readWithType_wrong {v : Amf0ValueType} {marker other : UInt8} {bytes : List UInt8}
    (hMarker : v.encode = marker :: bytes) (hOther : marker ≠ other) (tail : List UInt8) :
    MessageParser.readWithType other ⟨v.encode ++ tail⟩ = .error .wrongType ⟨v.encode ++ tail⟩ := by
  rw [MessageParser.readWithType, bind_of_ok (lookAhead hMarker tail), if_pos hOther]
  rfl

/-- What a command says. -/
def meaningOf : List Amf0ValueType → Option RtmpMessageData
  | name :: transactionId :: commandObj :: others =>
    some (.amf0Command name transactionId commandObj.asRead (others.map asRead))
  | _ => none

/-- A name, a transaction, an object or null, and arguments are parsed as a command. -/
theorem parse_values {name : String} {transactionId : UInt64} {object : Amf0ValueType}
    {others : List Amf0ValueType} (hName : len name ≤ 65535) (hObject : object.Readable)
    (hShape : object = .null ∨ ∃ properties, object = .object properties)
    (hOthers : ∀ v ∈ others, v.Readable) :
    MessageParser.parse COMMAND_AMF0
        ((.utf8String name :: .number transactionId :: object :: others : List Amf0ValueType).flatMap encode) =
      .ok (meaningOf (.utf8String name :: .number transactionId :: object :: others)) := by
  have hCommandName : (Amf0ValueType.utf8String name).Readable := by rwa [Readable]
  have hNumber : (Amf0ValueType.number transactionId).Readable := by simp [Readable]
  have hReadObject (tail : List UInt8) :
      MessageParser.readCommandObject ⟨object.encode ++ tail⟩ = .ok object.asRead ⟨tail⟩ := by
    rcases hShape with rfl | ⟨properties, rfl⟩
    · have hWrong := @readWithType_wrong .null NULL OBJECT [] (by rw [encode]) (by decide) tail
      rw [MessageParser.readCommandObject, hWrong]
      exact readWithType_encode hObject (by rw [encode]) tail
    · have hRight := @readWithType_encode (.object properties) hObject OBJECT _ (by rw [encode]) tail
      rw [MessageParser.readCommandObject, hRight]
  have hRead : MessageParser.readCommand
      ⟨(.utf8String name :: .number transactionId :: object :: others : List Amf0ValueType).flatMap encode⟩ =
        .ok (.amf0Command (.utf8String name) (.number transactionId) object.asRead (others.map asRead)) ⟨[]⟩ := by
    rw [List.flatMap_cons, List.flatMap_cons, List.flatMap_cons, MessageParser.readCommand,
      bind_of_ok (readWithType_encode hCommandName (by rw [encode]) _),
      bind_of_ok (readWithType_encode hNumber (by rw [encode]) _), bind_of_ok (hReadObject _),
      bind_of_ok (readAll_encode hOthers), asRead, asRead]
    · rfl
    all_goals simp
  have hParse (payload : List UInt8) :
      MessageParser.parse COMMAND_AMF0 payload = MessageParser.runCommand ⟨payload⟩ := rfl
  rw [hParse, MessageParser.runCommand, hRead, meaningOf]

/-! ### Bytes of a command -/

/-- `Amf0Writer::write_anys`. -/
def writeAnys : List Amf0ValueType → Amf0Write Unit
  | [] => pure ()
  | v :: vs => do
    Amf0Writer.writeAny v
    writeAnys vs

/-- The bytes of a command's chunk, unless one of its strings is too long. -/
def payload (c : Command) : Option (List UInt8) :=
  match writeAnys c.values ⟨[]⟩ with
  | .ok _ w => some w.bytes
  | .error _ _ => none

theorem writeAnys_ok {vs : List Amf0ValueType} (h : ∀ v ∈ vs, v.StringsFit) (before : List UInt8) :
    writeAnys vs ⟨before⟩ = .ok () ⟨before ++ vs.flatMap encode⟩ := by
  induction vs generalizing before with
  | nil =>
    rw [List.flatMap_nil, List.append_nil]
    rfl
  | cons v vs ih =>
    rw [List.forall_mem_cons] at h
    rw [writeAnys, bind_of_ok (Amf0Writer.writeAny_ok h.1 before), ih h.2, List.flatMap_cons, List.append_assoc]

theorem writeAnys_error {vs : List Amf0ValueType} (h : ¬∀ v ∈ vs, v.StringsFit) (w : BytesWriter) :
    ∃ w', writeAnys vs w = .error .normalStringTooLong w' := by
  induction vs generalizing w with
  | nil => exact absurd (List.forall_mem_nil _) h
  | cons v vs ih =>
    rw [writeAnys]
    by_cases hFirst : v.StringsFit
    · rw [bind_of_ok (Amf0Writer.writeAny_ok hFirst _)]
      exact ih (fun hRest => h (List.forall_mem_cons.mpr ⟨hFirst, hRest⟩)) _
    · obtain ⟨w', hError⟩ := Amf0Writer.writeAny_error hFirst w
      exact ⟨w', bind_of_error hError⟩

/-- A command is written if its strings fit, and only then. -/
theorem payload_eq_some {c : Command} {bytes : List UInt8} :
    payload c = some bytes ↔ (∀ v ∈ c.values, v.StringsFit) ∧ bytes = c.values.flatMap encode := by
  by_cases h : ∀ v ∈ c.values, v.StringsFit
  · simp only [payload, writeAnys_ok h, List.nil_append, Option.some.injEq]
    exact ⟨fun hBytes => ⟨h, hBytes.symm⟩, fun hWritten => hWritten.2.symm⟩
  · obtain ⟨w', hError⟩ := writeAnys_error h ⟨[]⟩
    simp only [payload, hError, h, false_and, reduceCtorEq]

/-! ### What a command says -/

/-- Properties with different names stand in the order in which they were inserted. -/
theorem properties_eq {pairs : List (String × Amf0ValueType)} (h : (pairs.map (·.1)).Nodup) :
    properties pairs = .object pairs := by
  have hAll : ∀ acc : List (String × Amf0ValueType), ((acc ++ pairs).map (·.1)).Nodup →
      pairs.foldl (fun map p => insert map p.1 p.2) acc = acc ++ pairs := by
    clear h
    induction pairs with
    | nil => exact fun acc _ => (List.append_nil acc).symm
    | cons p pairs ih =>
      intro acc hNodup
      have hNew : p.1 ∉ acc.map (·.1) := by
        rw [List.map_append, List.nodup_append] at hNodup
        exact fun hMem => hNodup.2.2 _ hMem _ (by simp) rfl
      rw [List.foldl_cons, insert_new _ hNew, ih _ (by simpa using hNodup), List.append_assoc,
        List.singleton_append]
  rw [properties, hAll [] (by simpa using h), List.nil_append]

/-- The names of the properties of a CONNECT, in the order in which they are looked for. -/
def connectNames : List String :=
  ["app", "type", "flashVer", "tcUrl", "swfUrl", "pageUrl", "fpad", "capabilities", "audioCodecs",
    "videoCodecs", "videoFunction", "objectEncoding"]

theorem sublist_optional {α : Type} (o : Option α) (key : String) (f : α → Amf0ValueType) :
    ((o.map fun a => (key, f a)).toList.map (·.1)).Sublist [key] := by
  cases o with
  | none => exact List.nil_sublist _
  | some a => exact List.Sublist.refl _

theorem connectPairs_names (p : ConnectProperties) :
    ((NetConnection.connectPairs p).map (·.1)).Sublist connectNames := by
  simp only [NetConnection.connectPairs, List.map_append]
  have hAppend := @List.Sublist.append String
  exact hAppend (hAppend (hAppend (hAppend (hAppend (hAppend (hAppend (hAppend (hAppend (hAppend (hAppend
    (sublist_optional _ _ _) (sublist_optional _ _ _)) (sublist_optional _ _ _)) (sublist_optional _ _ _))
    (sublist_optional _ _ _)) (sublist_optional _ _ _)) (sublist_optional _ _ _)) (sublist_optional _ _ _))
    (sublist_optional _ _ _)) (sublist_optional _ _ _)) (sublist_optional _ _ _)) (sublist_optional _ _ _)

/-- A value without values inside that is written as it is. -/
def Leaf : Amf0ValueType → Prop
  | .utf8String _ | .number _ | .boolean _ | .null => True
  | _ => False

theorem readable_of_leaf {v : Amf0ValueType} (h : Leaf v) (hFits : v.StringsFit) : v.Readable := by
  cases v with
  | utf8String value =>
    rw [StringsFit] at hFits
    rwa [Readable]
  | number bits => simp [Readable]
  | boolean value => simp [Readable]
  | null => simp [Readable]
  | _ => exact h.elim

theorem allReadable_of_leaves {ps : List (String × Amf0ValueType)}
    (h : ∀ p ∈ ps, Leaf p.2 ∧ len p.1 ≤ 65535) (hFits : AllStringsFit ps) : AllReadable ps := by
  induction ps with
  | nil => simp [AllReadable]
  | cons p ps ih =>
    rw [List.forall_mem_cons] at h
    rw [AllStringsFit] at hFits
    rw [AllReadable]
    exact ⟨h.1.2, readable_of_leaf h.1.1 hFits.1, ih h.2 hFits.2⟩

/-- A plain value, or properties with different names and plain values. -/
def Flat (v : Amf0ValueType) : Prop :=
  Leaf v ∨ ∃ pairs, v = properties pairs ∧ (pairs.map (·.1)).Nodup ∧ pairs.length ≤ 12 ∧
    ∀ p ∈ pairs, Leaf p.2 ∧ len p.1 ≤ 65535

theorem Flat.readable {v : Amf0ValueType} (h : Flat v) (hFits : v.StringsFit) : v.Readable := by
  obtain hLeaf | ⟨pairs, rfl, hNodup, -, hLeaves⟩ := h
  · exact readable_of_leaf hLeaf hFits
  · rw [properties_eq hNodup] at hFits ⊢
    rw [StringsFit] at hFits
    rw [Readable]
    exact ⟨hNodup, allReadable_of_leaves hLeaves hFits⟩

theorem length_encode_leaf {v : Amf0ValueType} (h : Leaf v) (hFits : v.StringsFit) :
    v.encode.length ≤ 65538 := by
  cases v with
  | utf8String value =>
    rw [StringsFit] at hFits
    have hLength := length_asBytes value
    rw [encode, List.length_cons, encodeKey, List.length_append, ByteOrder.length_encode]
    omega
  | number bits =>
    rw [encode, List.length_cons, ByteOrder.length_encode]
    decide
  | boolean value => simp [encode]
  | null => simp [encode]
  | _ => exact h.elim

theorem length_encodeAll {ps : List (String × Amf0ValueType)} (h : ∀ p ∈ ps, Leaf p.2 ∧ len p.1 ≤ 65535)
    (hFits : AllStringsFit ps) : (encodeAll ps).length ≤ 131075 * ps.length := by
  induction ps with
  | nil => simp [encodeAll]
  | cons p ps ih =>
    rw [List.forall_mem_cons] at h
    rw [AllStringsFit] at hFits
    have hValue := length_encode_leaf h.1.1 hFits.1
    have hRest := ih h.2 hFits.2
    have hKey := length_asBytes p.1
    have hKeyFits := h.1.2
    rw [encodeAll, List.length_append, List.length_append, encodeKey, List.length_append,
      ByteOrder.length_encode, List.length_cons]
    omega

theorem Flat.length_encode {v : Amf0ValueType} (h : Flat v) (hFits : v.StringsFit) :
    v.encode.length ≤ 1572904 := by
  obtain hLeaf | ⟨pairs, rfl, hNodup, hFew, hLeaves⟩ := h
  · exact (length_encode_leaf hLeaf hFits).trans (by decide)
  · rw [properties_eq hNodup] at hFits ⊢
    rw [StringsFit] at hFits
    have hAll := length_encodeAll hLeaves hFits
    rw [encode, List.length_cons, List.length_append]
    simp only [List.length_cons, List.length_nil]
    omega

/-- The bytes of some flat values. -/
theorem length_flatMap_encode {vs : List Amf0ValueType} (h : ∀ v ∈ vs, Flat v)
    (hFits : ∀ v ∈ vs, v.StringsFit) : (vs.flatMap encode).length ≤ 1572904 * vs.length := by
  induction vs with
  | nil => exact Nat.le_refl 0
  | cons v vs ih =>
    rw [List.forall_mem_cons] at h hFits
    have hFirst := h.1.length_encode hFits.1
    have hRest := ih h.2 hFits.2
    rw [List.flatMap_cons, List.length_append, List.length_cons]
    omega

theorem flat_status (level code description : String) :
    Flat (properties [("level", .utf8String level), ("code", .utf8String code),
      ("description", .utf8String description)]) := by
  have hNames : ["level", "code", "description"].Nodup := by decide
  refine .inr ⟨_, rfl, hNames, Nat.le_of_ble_eq_true rfl, ?_⟩
  simp only [List.forall_mem_cons, Leaf, true_and]
  exact ⟨by decide, by decide, by decide, List.forall_mem_nil _⟩

theorem connectPairs_leaves (p : ConnectProperties) :
    ∀ q ∈ NetConnection.connectPairs p, Leaf q.2 ∧ len q.1 ≤ 65535 := by
  intro q hMem
  constructor
  · simp only [NetConnection.connectPairs, List.mem_append, Option.mem_toList, Option.map_eq_some_iff] at hMem
    rcases hMem with (((((((((((⟨a, -, rfl⟩ | ⟨a, -, rfl⟩) | ⟨a, -, rfl⟩) | ⟨a, -, rfl⟩) | ⟨a, -, rfl⟩) |
      ⟨a, -, rfl⟩) | ⟨a, -, rfl⟩) | ⟨a, -, rfl⟩) | ⟨a, -, rfl⟩) | ⟨a, -, rfl⟩) | ⟨a, -, rfl⟩) | ⟨a, -, rfl⟩)
    all_goals exact trivial
  · have hName := (connectPairs_names p).subset (List.mem_map_of_mem hMem)
    have hAll : ∀ name ∈ connectNames, len name ≤ 65535 := by decide
    exact hAll _ hName

namespace CommandCall

open NetConnection NetStreamWriter

/-- The only values that a caller is free to choose are the properties of `write_connect_with_value`: a
map whose keys fit, in which nothing is nested that the writer does not know. -/
def Properties : CommandCall → Prop
  | .connectWithValue _ properties => (Amf0ValueType.object properties).Indexed ∧
    ∀ v ∈ (Amf0ValueType.object properties).parts, Kept v
  | _ => True

/-- What a command says. -/
def meaning (call : CommandCall) : Option RtmpMessageData := meaningOf call.command.values

theorem shape (call : CommandCall) : ∃ name transactionId commandObj others,
    call.command.values = .utf8String name :: .number transactionId :: commandObj :: others ∧
      (commandObj = .null ∨ ∃ properties, commandObj = .object properties) := by
  cases call with
  | connectWithValue transactionId properties => exact ⟨_, _, _, _, rfl, .inr ⟨_, rfl⟩⟩
  | connect transactionId properties => exact ⟨_, _, _, _, rfl, .inr ⟨_, rfl⟩⟩
  | connectResponse transactionId fmsver capabilities code level description encoding =>
    exact ⟨_, _, _, _, rfl, .inr ⟨_, rfl⟩⟩
  | _ => exact ⟨_, _, _, _, rfl, .inl rfl⟩

/-- All other commands have a few flat values. -/
theorem flat {call : CommandCall} (h : ∀ transactionId map, call ≠ .connectWithValue transactionId map) :
    call.command.values.length ≤ 7 ∧ ∀ v ∈ call.command.values, Flat v := by
  cases call with
  | connectWithValue transactionId map => exact absurd rfl (h transactionId map)
  | connect transactionId p =>
    simp only [command, writeConnect, NetConnection.command, List.forall_mem_cons]
    have hPairs : (connectPairs p).length ≤ 12 := by
      have hLength := (connectPairs_names p).length_le
      rwa [List.length_map] at hLength
    exact ⟨by simp, .inl trivial, .inl trivial,
      .inr ⟨_, rfl, (connectPairs_names p).nodup (by decide), hPairs, connectPairs_leaves p⟩,
      List.forall_mem_nil _⟩
  | connectResponse transactionId fmsver capabilities code level description encoding =>
    have hFirst : ["fmsVer", "capabilities"].Nodup := by decide
    have hSecond : ["level", "code", "description", "objectEncoding"].Nodup := by decide
    simp only [command, writeConnectResponse, NetConnection.command, List.forall_mem_cons]
    refine ⟨by simp, .inl trivial, .inl trivial, .inr ⟨_, rfl, hFirst, Nat.le_of_ble_eq_true rfl, ?_⟩,
      .inr ⟨_, rfl, hSecond, Nat.le_of_ble_eq_true rfl, ?_⟩, List.forall_mem_nil _⟩
    · simp only [List.forall_mem_cons, Leaf, true_and]
      exact ⟨by decide, by decide, List.forall_mem_nil _⟩
    · simp only [List.forall_mem_cons, Leaf, true_and]
      exact ⟨by decide, by decide, by decide, by decide, List.forall_mem_nil _⟩
  | error transactionId code level description =>
    simp only [command, NetConnection.error, NetConnection.command, List.forall_mem_cons]
    exact ⟨by simp, .inl trivial, .inl trivial, .inl trivial, flat_status _ _ _, List.forall_mem_nil _⟩
  | onStatus transactionId level code description =>
    simp only [command, writeOnStatus, NetStreamWriter.command, List.cons_append, List.nil_append,
      List.forall_mem_cons]
    exact ⟨by simp, .inl trivial, .inl trivial, .inl trivial, flat_status _ _ _, List.forall_mem_nil _⟩
  | _ =>
    simp [command, writeCreateStream, writeCreateStreamResponse, writeGetStreamLength, writePlay,
      writeDeleteStream, writeCloseStream, writeReleaseStream, writeFcpublish, writeReceiveAudio,
      writeReceiveVideo, writePublish, writeSeek, writePause, writeOnBwDone, NetConnection.command,
      NetStreamWriter.command, Flat, Leaf]

/-- The values of a command that is written can be read back. -/
theorem readable {call : CommandCall} (h : call.Properties) (hFits : ∀ v ∈ call.command.values, v.StringsFit) :
    ∀ v ∈ call.command.values, v.Readable := by
  cases call with
  | connectWithValue transactionId map =>
    simp only [command, writeConnectWithValue, NetConnection.command, List.forall_mem_cons] at hFits ⊢
    exact ⟨readable_of_leaf trivial hFits.1, readable_of_leaf trivial hFits.2.1,
      readable_of_kept h.1 hFits.2.2.1 h.2, List.forall_mem_nil _⟩
  | _ => exact fun v hMem => ((flat (by rintro _ _ ⟨⟩)).2 v hMem).readable (hFits v hMem)

/-- The length of a command whose properties are not chosen freely fits a header. -/
theorem length_payload {call : CommandCall}
    (h : ∀ transactionId map, call ≠ .connectWithValue transactionId map) {bytes : List UInt8}
    (hWritten : payload call.command = some bytes) : bytes.length < 2 ^ 24 := by
  obtain ⟨hFits, rfl⟩ := payload_eq_some.mp hWritten
  obtain ⟨hFew, hFlat⟩ := flat h
  have hLength := length_flatMap_encode hFlat hFits
  omega

/-- A command that is written is parsed as what it says. -/
theorem parse_payload {call : CommandCall} (h : call.Properties) {bytes : List UInt8}
    (hWritten : payload call.command = some bytes) :
    MessageParser.parse COMMAND_AMF0 bytes = .ok call.meaning := by
  obtain ⟨hFits, rfl⟩ := payload_eq_some.mp hWritten
  have hReadable := readable h hFits
  obtain ⟨name, transactionId, commandObj, others, hValues, hShape⟩ := call.shape
  simp only [hValues, List.forall_mem_cons] at hReadable
  have hName := hReadable.1
  rw [Readable] at hName
  rw [meaning, hValues]
  exact parse_values hName hReadable.2.2.1 hShape hReadable.2.2.2

end CommandCall

/-- Every control message and every command is parsed as what it says, but for four events: a stream that
ends or runs dry, and the two of a ping, which are errors. -/
theorem message_understood :
    (∀ call : ControlCall,
      MessageParser.parse call.message.msgTypeId call.message.body = expected call.meaning) ∧
    ∀ call : CommandCall, call.Properties → ∀ bytes, payload call.command = some bytes →
      MessageParser.parse COMMAND_AMF0 bytes = .ok call.meaning :=
  ⟨parse_control, fun _ h _ hWritten => CommandCall.parse_payload h hWritten⟩

/-- A CONNECT that names its application. -/
theorem connect_understood :
    MessageParser.parse COMMAND_AMF0
        ((NetConnection.writeConnectWithValue 1 [("app", .utf8String "live")]).values.flatMap encode) =
      .ok (some (.amf0Command (.utf8String "connect") (.number 1)
        (.object [("app", .utf8String "live")]) [])) := by
  have hFits : ∀ v ∈ (NetConnection.writeConnectWithValue 1 [("app", .utf8String "live")]).values,
      v.StringsFit := by
    simp only [NetConnection.writeConnectWithValue, NetConnection.command, List.forall_mem_cons, StringsFit,
      AllStringsFit, and_true, true_and]
    exact ⟨by decide, by decide, List.forall_mem_nil _⟩
  have hParse := message_understood.2 (.connectWithValue 1 [("app", .utf8String "live")])
    ⟨by simp [Indexed, AllIndexed], by
      have hKey : len "app" ≤ 65535 := by decide
      simp [parts, partsOf, Kept, Dropped, KeysFit, Amf0ValueType.properties, hKey]⟩
    _ (payload_eq_some.mpr ⟨hFits, rfl⟩)
  simpa [CommandCall.meaning, meaningOf, CommandCall.command, NetConnection.writeConnectWithValue,
    NetConnection.command, asRead, asReadAll] using hParse

end Xiu.Rtmp.Messages
