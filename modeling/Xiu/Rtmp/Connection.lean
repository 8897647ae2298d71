import Xiu.Rtmp.Chunk.Shared
import Xiu.Rtmp.Messages.Calls
import Xiu.StreamHub.Define

/-! The connection of a session and those that write to it: the writers of control messages with a header of
their own, a chunk writer that is made for each command, and the session's chunk writer, through which
`send_channel_data` of `protocol/rtmp/src/session/common.rs` sends frames.  The other side reads what has
been said, whichever of them said it. -/

namespace Xiu.Rtmp

open Bytesio ProofKit StreamHub Chunk Messages

namespace Csid

def PROTOCOL_USER_CONTROL : UInt32 := 2
def COMMAND_AMF0_AMF3 : UInt32 := 3
def AUDIO : UInt32 := 4
def VIDEO : UInt32 := 5
def DATA_AMF0_AMF3 : UInt32 := 6

end Csid

/-! ### Writes -/

/-- What has been written, and the chunk writer of the session. -/
structure Connection where
  io : List UInt8
  packetizer : ChunkPacketizer

def Connection.new : Connection := ⟨[], .new⟩

/-- A chunk writer on a connection to which others have written. -/
def Chunk.ChunkPacketizer.on (packetizer : ChunkPacketizer) (io : List UInt8) : ChunkPacketizer :=
  { packetizer with writer := { packetizer.writer with io } }

/-- Something that a session sends: a control message, a command, or a frame. -/
inductive Sending where
  | control (call : ControlCall)
  | command (call : CommandCall)
  | frame (frame : FrameData)

/-- The chunk of a command. -/
def commandChunk (msgStreamId : UInt32) (data : List UInt8) : ChunkInfo :=
  .new Csid.COMMAND_AMF0_AMF3 0 0 (.ofNat data.length) COMMAND_AMF0 msgStreamId data

/-- The chunk of a frame, in `send_audio`, `send_video` and `send_metadata`; other frames are not sent. -/
def frameChunk : FrameData → Option ChunkInfo
  | .audio timestamp data => some (.new Csid.AUDIO 0 timestamp (.ofNat data.length) AUDIO 0 data)
  | .video timestamp data => some (.new Csid.VIDEO 0 timestamp (.ofNat data.length) VIDEO 0 data)
  | .metaData timestamp data =>
    some (.new Csid.DATA_AMF0_AMF3 0 timestamp (.ofNat data.length) DATA_AMF0 0 data)
  | .mediaInfo _ => none

namespace Connection

/-- One thing is written and flushed, unless it cannot be. -/
def send (self : Connection) : Sending → Option Connection
  | .control call => some { self with io := self.io ++ call.message.bytes }
  | .command call => do
    let data ← payload call.command
    let packetizer ←
      ((ChunkPacketizer.new.on self.io).writeChunk (commandChunk call.command.msgStreamId data)).toOption
    return { self with io := packetizer.writer.io }
  | .frame frame =>
    match frameChunk frame with
    | none => some self
    | some chunkInfo => do
      let packetizer ← ((self.packetizer.on self.io).writeChunk chunkInfo).toOption
      return ⟨packetizer.writer.io, packetizer⟩

def sendAll (self : Connection) : List Sending → Option Connection
  | [] => some self
  | x :: xs => do (← self.send x).sendAll xs

end Connection

/-! ### What is heard -/

/-- A message as the other side has it, with its time and its message stream. -/
structure Heard where
  timestamp : UInt32
  msgStreamId : UInt32
  data : Parsed

/-- A message that is read from chunks is parsed. -/
def Heard.of (content : MessageContent) : Heard :=
  ⟨content.timestamp, content.msgStreamId, MessageParser.parse content.msgTypeId content.payload⟩

/-- What is said. -/
def Sending.said : Sending → List Heard
  | .control call => [⟨0, 0, expected call.meaning⟩]
  | .command call => [⟨0, call.command.msgStreamId, .ok call.meaning⟩]
  | .frame (.audio timestamp data) => [⟨timestamp, 0, .ok (some (.audioData data))⟩]
  | .frame (.video timestamp data) => [⟨timestamp, 0, .ok (some (.videoData data))⟩]
  | .frame (.metaData timestamp data) => [⟨timestamp, 0, .ok (some (.amfData data))⟩]
  | .frame (.mediaInfo _) => []

/-- A session leaves its loop at a message that cannot be parsed. -/
def untilError : List Heard → List Heard
  | [] => []
  | h :: hs =>
    match h.data with
    | .ok _ => h :: untilError hs
    | .error _ => [h]

/-- What the other side hears of bytes that arrive in pieces. -/
def hear (pieces : List (List UInt8)) : List Heard :=
  untilError ((deliver .new pieces).1.map fun chunkInfo => Heard.of chunkInfo.content)

/-- The message of a chunk whose payload fits its header. -/
def messageOf (csid : UInt32) (timestamp : UInt32) (msgTypeId : UInt8) (msgStreamId : UInt32)
    (payload : List UInt8) (hCsid : 2 ≤ csid ∧ csid ≤ 63) (hShort : payload.length < 2 ^ 24) : Message :=
  ⟨⟨⟨csid, timestamp, msgTypeId, msgStreamId, payload⟩, hShort⟩, 0, hCsid.1, hCsid.2⟩

/-- The message of a frame. -/
def frameMessage (csid timestamp : UInt32) (msgTypeId : UInt8) (data : List UInt8)
    (hCsid : 2 ≤ csid ∧ csid ≤ 63) : Option Message :=
  if h : data.length < 2 ^ 24 then some (messageOf csid timestamp msgTypeId 0 data hCsid h) else none

namespace Sending

/-- The message that the session's own chunk writer writes. -/
def media : Sending → Option Message
  | .frame (.audio timestamp data) => frameMessage Csid.AUDIO timestamp AUDIO data (by decide)
  | .frame (.video timestamp data) => frameMessage Csid.VIDEO timestamp VIDEO data (by decide)
  | .frame (.metaData timestamp data) =>
    frameMessage Csid.DATA_AMF0_AMF3 timestamp DATA_AMF0 data (by decide)
  | _ => none

/-- The length of what is sent fits a header. -/
def Sized : Sending → Prop
  | .control _ => True
  | .command call => ∀ data, payload call.command = some data → data.length < 2 ^ 24
  | .frame (.audio _ data) => data.length < 2 ^ 24
  | .frame (.video _ data) => data.length < 2 ^ 24
  | .frame (.metaData _ data) => data.length < 2 ^ 24
  | .frame (.mediaInfo _) => True

/-- A command whose properties can be read. -/
def Readable : Sending → Prop
  | .command call => call.Properties
  | _ => True

end Sending

/-- What a thing that is sent becomes, after the messages that the session's chunk writer has written: a
message of that writer, or one of a writer of its own on another chunk stream. -/
structure Posts (sent : List Message) (x : Sending) (p : Posting) : Prop where
  writer : (p.sent = sent ∧ x.media = some p.message) ∨
    (p.sent = [] ∧ x.media = none ∧ (p.csid = Csid.PROTOCOL_USER_CONTROL ∨ p.csid = Csid.COMMAND_AMF0_AMF3))
  off : x.media ≠ none → p.csid ≠ Csid.PROTOCOL_USER_CONTROL ∧ p.csid ≠ Csid.COMMAND_AMF0_AMF3
  said : x.said = [Heard.of p.message.toMessageContent]
  size : p.message.msgTypeId = Chunk.SET_CHUNK_SIZE →
    ∃ n, x = .control (.setChunkSize n) ∧ p.message.payload = encodeU32 (n &&& 0x7FFFFFFF)

/-- A first message at time 0. -/
theorem Chunk.Message.bytes_first {m : Message} (hTime : m.timestamp = 0) (size : Nat) :
    m.bytes size [] = basicHeaderBytes 0 m.csid ++ (u24Bytes 0 ++ (u24Bytes m.msgLength ++ ([m.msgTypeId] ++
      ByteOrder.littleEndian.encode 4 m.msgStreamId.toNat)) ++
        chunkedPayload size (basicHeaderBytes 3 m.csid) m.payload) := by
  have hFields : timestampFields 0 (m.packed []) = (none, 0, m.packed []) := by
    have hPacked : (m.packed []).timestamp = 0 := hTime
    rw [timestampFields, if_pos rfl, hPacked, if_neg (by decide)]
  have hExtended : m.extendedSent [] = none := congrArg Prod.fst hFields
  have hFirst : m.firstSent [] = 0 := congrArg (fun fields => fields.2.1) hFields
  rw [Message.bytes, hExtended, hFirst, extendedBytes, List.append_nil, List.nil_append]
  rfl

theorem control_len (call : ControlCall) : call.message.len = .ofNat call.message.body.length := by
  cases call <;> rfl

theorem control_short (call : ControlCall) : call.message.body.length ≤ 10 := by
  have hLength : call.message.body.length = 4 ∨ call.message.body.length = 5 ∨
      call.message.body.length = 6 ∨ call.message.body.length = 10 := by
    cases call <;> first | exact .inl rfl | exact .inr (.inl rfl) | exact .inr (.inr (.inl rfl)) |
      exact .inr (.inr (.inr rfl))
  omega

/-- The message of a control message. -/
def controlMessage (call : ControlCall) : Message :=
  messageOf Csid.PROTOCOL_USER_CONTROL 0 call.message.msgTypeId 0 call.message.body (by decide)
    (Nat.lt_of_le_of_lt (control_short call) (by decide))

/-- The bytes of a control message are those of a chunk of format 0. -/
theorem control_bytes (call : ControlCall) {size : Nat} (hSize : 10 ≤ size) :
    call.message.bytes = (controlMessage call).bytes size [] := by
  have hSmall : (controlMessage call).payload.length ≤ size := (control_short call).trans hSize
  have hBasic : basicHeaderBytes 0 (controlMessage call).csid = [2] := by
    have hByte : (0 : UInt8) <<< 6 ||| Csid.PROTOCOL_USER_CONTROL.toUInt8 = 2 := by decide
    rw [(controlMessage call).basicHeaderBytes_one]
    exact congrArg (fun byte => [byte]) hByte
  have hStream : ByteOrder.littleEndian.encode 4 (controlMessage call).msgStreamId.toNat =
      ByteOrder.bigEndian.encode 4 0 := by
    have hZero : ByteOrder.littleEndian.encode 4 0 = ByteOrder.bigEndian.encode 4 0 := by decide
    exact hZero
  rw [(controlMessage call).bytes_first rfl, chunkedPayload_last _ hSmall, hBasic, hStream,
    ControlMessage.bytes, writeControlMessageHeader, control_len]
  simp only [List.append_assoc, List.cons_append, List.nil_append]
  rfl

theorem control_sized {call : ControlCall} (h : call.message.msgTypeId = Chunk.SET_CHUNK_SIZE) :
    ∃ n, call = .setChunkSize n := by
  cases call with
  | setChunkSize n => exact ⟨n, rfl⟩
  | _ => exact absurd h (of_decide_eq_false rfl)

/-! ### One write -/

/-- The session's chunk writer has written these messages, the last one first. -/
structure Connection.Keeps (sent : List Message) (conn : Connection) : Prop where
  written : HasWritten sent conn.packetizer
  size : conn.packetizer.maxChunkSize = CHUNK_SIZE.toNat

/-- A message goes to the end of what others have written. -/
theorem writeChunk_on {sent : List Message} {packetizer : ChunkPacketizer} (h : HasWritten sent packetizer)
    (io : List UInt8) (m : Message) :
    ∃ packetizer', (packetizer.on io).writeChunk m.chunkInfo = .ok packetizer' ∧
      packetizer'.writer.io = io ++ m.bytes packetizer.maxChunkSize sent ∧
      packetizer'.maxChunkSize = packetizer.maxChunkSize ∧ HasWritten (m :: sent) packetizer' :=
  @writeChunk_message sent (packetizer.on io) ⟨h.flushed, h.kept⟩ m

section Send

variable {sent : List Message} {conn conn' : Connection}

theorem control_posts (call : ControlCall) : Posts sent (.control call) ⟨[], controlMessage call⟩ where
  writer := .inr ⟨rfl, rfl, .inl rfl⟩
  off := fun hSome => absurd rfl hSome
  said := by
    rw [Sending.said, ← parse_control call]
    rfl
  size := fun hType => by
    obtain ⟨n, rfl⟩ := control_sized hType
    exact ⟨n, rfl, rfl⟩

theorem send_command {call : CommandCall} (h : conn.Keeps sent) (hSized : (Sending.command call).Sized)
    (hReadable : call.Properties) (hSend : conn.send (.command call) = some conn') :
    ∃ p, Posts sent (.command call) p ∧ conn'.io = conn.io ++ p.bytes CHUNK_SIZE.toNat ∧ conn'.Keeps sent := by
  obtain ⟨data, hData, hRest⟩ := Option.bind_eq_some_iff.mp hSend
  generalize hMessage : messageOf Csid.COMMAND_AMF0_AMF3 0 COMMAND_AMF0 call.command.msgStreamId data (by decide)
    (hSized data hData) = m
  obtain ⟨packetizer', hWrite, hIo, -, -⟩ := writeChunk_on hasWritten_new conn.io m
  have hChunk : m.chunkInfo = commandChunk call.command.msgStreamId data := by
    rw [← hMessage]
    rfl
  rw [← hChunk, hWrite] at hRest
  cases hRest
  refine ⟨⟨[], m⟩, ⟨.inr ⟨rfl, rfl, .inr ?_⟩, fun hSome => absurd rfl hSome, ?_, fun hType => ?_⟩, hIo,
    ⟨h.written, h.size⟩⟩
  · rw [← hMessage]
    rfl
  · rw [Sending.said, ← CommandCall.parse_payload hReadable hData, ← hMessage]
    rfl
  · rw [← hMessage] at hType
    exact absurd hType (of_decide_eq_false rfl)

/-- A frame goes through the session's chunk writer. -/
theorem send_frame {frame : FrameData} {csid timestamp : UInt32} {msgTypeId : UInt8} {data : List UInt8}
    {hCsid : 2 ≤ csid ∧ csid ≤ 63} (hShort : data.length < 2 ^ 24) (h : conn.Keeps sent)
    (hChunk : frameChunk frame = some (.new csid 0 timestamp (.ofNat data.length) msgTypeId 0 data))
    (hMedia : (Sending.frame frame).media = frameMessage csid timestamp msgTypeId data hCsid)
    (hSaid : (Sending.frame frame).said = [⟨timestamp, 0, MessageParser.parse msgTypeId data⟩])
    (hType : msgTypeId ≠ Chunk.SET_CHUNK_SIZE)
    (hOff : csid ≠ Csid.PROTOCOL_USER_CONTROL ∧ csid ≠ Csid.COMMAND_AMF0_AMF3)
    (hSend : conn.send (.frame frame) = some conn') :
    ∃ p, Posts sent (.frame frame) p ∧ conn'.io = conn.io ++ p.bytes CHUNK_SIZE.toNat ∧
      conn'.Keeps ((Sending.frame frame).media.toList ++ sent) := by
  generalize hMessage : messageOf csid timestamp msgTypeId 0 data hCsid hShort = m
  have hSome : (Sending.frame frame).media = some m := by
    rw [hMedia, frameMessage, dif_pos hShort, hMessage]
  have hSame : m.chunkInfo = .new csid 0 timestamp (.ofNat data.length) msgTypeId 0 data := by
    rw [← hMessage]
    rfl
  obtain ⟨packetizer', hWrite, hIo, hSize, hWritten⟩ := writeChunk_on h.written conn.io m
  simp only [Connection.send, hChunk, ← hSame, hWrite] at hSend
  cases hSend
  rw [hSome]
  refine ⟨⟨sent, m⟩, ⟨.inl ⟨rfl, hSome⟩, fun _ => ?_, ?_, fun hSet => ?_⟩, ?_, ⟨hWritten, hSize.trans h.size⟩⟩
  · rw [Posting.csid, ← hMessage]
    exact hOff
  · rw [hSaid, ← hMessage]
    rfl
  · rw [← hMessage] at hSet
    exact absurd hSet hType
  · rw [hIo, h.size]
    rfl

/-- Whatever is sent is one message at the end of what has been written, or nothing. -/
theorem send_posts {x : Sending} (h : conn.Keeps sent) (hSized : x.Sized) (hReadable : x.Readable)
    (hSend : conn.send x = some conn') :
    (x.media = none ∧ x.said = [] ∧ conn' = conn) ∨
      ∃ p, Posts sent x p ∧ conn'.io = conn.io ++ p.bytes CHUNK_SIZE.toNat ∧
        conn'.Keeps (x.media.toList ++ sent) := by
  cases x with
  | control call =>
    cases hSend
    refine .inr ⟨_, control_posts call, ?_, ⟨h.written, h.size⟩⟩
    exact congrArg (conn.io ++ ·) (control_bytes call (by decide))
  | command call => exact .inr (send_command h hSized hReadable hSend)
  | frame frame =>
    cases frame with
    | audio timestamp data =>
      exact .inr (send_frame hSized h rfl rfl rfl (by decide) (by decide) hSend)
    | video timestamp data =>
      exact .inr (send_frame hSized h rfl rfl rfl (by decide) (by decide) hSend)
    | metaData timestamp data =>
      exact .inr (send_frame hSized h rfl rfl rfl (by decide) (by decide) hSend)
    | mediaInfo info =>
      cases hSend
      exact .inl ⟨rfl, rfl, rfl⟩

end Send

/-! ### A whole connection -/

/-- The chunk streams of frames show the last message of the session's chunk writer. -/
def Shows (sent : List Message) (view : View) : Prop :=
  ∀ csid, csid ≠ Csid.PROTOCOL_USER_CONTROL → csid ≠ Csid.COMMAND_AMF0_AMF3 → view csid = lastOn csid sent

theorem not_loses_nil (m : Message) : ¬m.Loses [] := by
  rintro ⟨e, hLast, -⟩
  cases hLast

/-- What is sent joins what is on the connection. -/
theorem Posts.joins {sent : List Message} {view : View} {x : Sending} {p : Posting} (h : Posts sent x p)
    (hShows : Shows sent view) (hKept : ∀ m, x.media = some m → ¬m.Loses sent) :
    Joins view p ∧ Shows (x.media.toList ++ sent) (view.after p) := by
  obtain ⟨hSent, hMedia⟩ | ⟨hSent, hMedia, hCsid⟩ := h.writer
  · obtain ⟨hControl, hCommand⟩ := h.off (by rw [hMedia]; exact Option.some_ne_none _)
    refine ⟨⟨.inr ?_, ?_⟩, fun csid hControl' hCommand' => ?_⟩
    · rw [hSent, hShows _ hControl hCommand]
    · rw [hSent]
      exact hKept _ hMedia
    · rw [hMedia, View.after, hSent, Option.toList_some, List.singleton_append, lastOn_cons]
      by_cases hSame : csid = p.csid
      · rw [if_pos hSame]
        exact (if_pos hSame.symm).symm
      · rw [if_neg hSame, hShows csid hControl' hCommand']
        exact (if_neg fun h => hSame h.symm).symm
  · refine ⟨⟨.inl ?_, ?_⟩, fun csid hControl' hCommand' => ?_⟩
    · rw [hSent]
      rfl
    · rw [hSent]
      exact not_loses_nil _
    · have hOther : csid ≠ p.csid := by
        rintro rfl
        exact hCsid.elim hControl' hCommand'
      rw [hMedia, View.after, if_neg hOther]
      exact hShows csid hControl' hCommand'

/-- Things that are sent one after the other are messages that join, at the end of what has been written. -/
theorem sendAll_posts {xs : List Sending} {sent : List Message} {conn conn' : Connection} {view : View}
    (h : conn.Keeps sent) (hShows : Shows sent view) (hSized : ∀ x ∈ xs, x.Sized)
    (hReadable : ∀ x ∈ xs, x.Readable) (hLossFree : LossFree sent (xs.filterMap Sending.media))
    (hSend : conn.sendAll xs = some conn') :
    ∃ ps, Joined view ps ∧ conn'.io = conn.io ++ postingsBytes CHUNK_SIZE.toNat ps ∧
      (contents ps).map Heard.of = xs.flatMap Sending.said ∧
      ∀ p ∈ ps, p.message.msgTypeId = Chunk.SET_CHUNK_SIZE →
        ∃ n, .control (.setChunkSize n) ∈ xs ∧ p.message.payload = encodeU32 (n &&& 0x7FFFFFFF) := by
  induction xs generalizing sent conn view with
  | nil =>
    cases hSend
    exact ⟨[], trivial, (List.append_nil _).symm, rfl, List.forall_mem_nil _⟩
  | cons x xs ih =>
    obtain ⟨conn1, hFirst, hRest⟩ := Option.bind_eq_some_iff.mp hSend
    rw [List.forall_mem_cons] at hSized hReadable
    obtain ⟨hMedia, hSaid, rfl⟩ | ⟨p, hPosts, hIo, hKeeps⟩ := send_posts h hSized.1 hReadable.1 hFirst
    · rw [List.filterMap_cons_none hMedia] at hLossFree
      obtain ⟨ps, hJoined, hAll, hContents, hSizes⟩ := ih h hShows hSized.2 hReadable.2 hLossFree hRest
      refine ⟨ps, hJoined, hAll, ?_, fun p hMem hType => ?_⟩
      · rw [List.flatMap_cons, hSaid, hContents, List.nil_append]
      · obtain ⟨n, hIn, hPayload⟩ := hSizes p hMem hType
        exact ⟨n, List.mem_cons_of_mem _ hIn, hPayload⟩
    · have hFree : (∀ m, x.media = some m → ¬m.Loses sent) ∧
          LossFree (x.media.toList ++ sent) (xs.filterMap Sending.media) := by
        cases hMedia : x.media with
        | none =>
          rw [List.filterMap_cons_none hMedia] at hLossFree
          exact ⟨by rintro _ ⟨⟩, hLossFree⟩
        | some m =>
          rw [List.filterMap_cons_some hMedia] at hLossFree
          refine ⟨?_, hLossFree.2⟩
          rintro _ ⟨⟩
          exact hLossFree.1
      obtain ⟨hJoins, hNext⟩ := hPosts.joins hShows hFree.1
      obtain ⟨ps, hJoined, hAll, hContents, hSizes⟩ := ih hKeeps hNext hSized.2 hReadable.2 hFree.2 hRest
      refine ⟨p :: ps, ⟨hJoins, hJoined⟩, ?_, ?_, ?_⟩
      · rw [hAll, hIo, postingsBytes, postingsBytes, List.flatMap_cons, List.append_assoc]
      · rw [List.flatMap_cons, hPosts.said, ← hContents]
        rfl
      · rw [List.forall_mem_cons]
        refine ⟨fun hType => ?_, fun q hMem hType => ?_⟩
        · obtain ⟨n, rfl, hPayload⟩ := hPosts.size hType
          exact ⟨n, List.mem_cons_self, hPayload⟩
        · obtain ⟨n, hIn, hPayload⟩ := hSizes q hMem hType
          exact ⟨n, List.mem_cons_of_mem _ hIn, hPayload⟩

theorem readSetChunkSize_encodeU32 (n : UInt32) : readSetChunkSize (encodeU32 n) = .ok n := by
  have hRead := readU32_encodeU32 n []
  rw [List.append_nil] at hRead
  rw [readSetChunkSize, hRead]

/-- What is sent after the chunk size has been told is read from its chunks and parsed as what is said. -/
theorem deliver_said {xs : List Sending} {conn : Connection} {pieces : List (List UInt8)}
    (hSized : ∀ x ∈ xs, x.Sized) (hReadable : ∀ x ∈ xs, x.Readable)
    (hSizes : ∀ n, .control (.setChunkSize n) ∈ xs → n &&& 0x7FFFFFFF = CHUNK_SIZE)
    (hLossFree : LossFree [] (xs.filterMap Sending.media))
    (hSend : Connection.new.sendAll (.control (.setChunkSize CHUNK_SIZE) :: xs) = some conn)
    (hPieces : pieces.flatten = conn.io) :
    (deliver .new pieces).1.map (fun chunkInfo => Heard.of chunkInfo.content) =
      (.control (.setChunkSize CHUNK_SIZE) :: xs).flatMap Sending.said := by
  generalize hFirst : ControlCall.setChunkSize CHUNK_SIZE = call at hSend
  have hPosts : Posts [] (.control call) _ := control_posts call
  obtain ⟨hJoins, hShows⟩ := hPosts.joins (fun _ _ _ => rfl) (by rintro _ ⟨⟩)
  obtain ⟨ps, hJoined, hIo, hContents, hTold⟩ :=
    sendAll_posts ⟨hasWritten_new, rfl⟩ hShows hSized hReadable hLossFree hSend
  have hType : call.message.msgTypeId = Chunk.SET_CHUNK_SIZE := by rw [← hFirst]; rfl
  have hKeep : KeepSize CHUNK_SIZE.toNat (⟨[], controlMessage call⟩ :: ps) := by
    rw [KeepSize, List.forall_mem_cons]
    refine ⟨fun _ => ⟨CHUNK_SIZE, ?_, rfl⟩, fun p hMem hSet => ?_⟩
    · rw [← hFirst]
      exact readSetChunkSize_encodeU32 CHUNK_SIZE
    · obtain ⟨n, hIn, hPayload⟩ := hTold p hMem hSet
      exact ⟨CHUNK_SIZE, by rw [hPayload, hSizes n hIn]; exact readSetChunkSize_encodeU32 _, rfl⟩
  have hBytes : pieces.flatten = postingsBytes CHUNK_SIZE.toNat (⟨[], controlMessage call⟩ :: ps) := by
    rw [hPieces, hIo, control_bytes call (show 10 ≤ CHUNK_SIZE.toNat by decide)]
    rfl
  have hRead := deliver_shared (by decide) hType ((control_short call).trans (by decide)) hKeep
    ⟨hJoins, hJoined⟩ hBytes
  have hHeard : (deliver .new pieces).1.map (fun chunkInfo => Heard.of chunkInfo.content) =
      ((deliver .new pieces).1.map ChunkInfo.content).map Heard.of := by
    rw [List.map_map]
    rfl
  rw [hHeard, hRead, List.flatMap_cons, hPosts.said, ← hContents]
  rfl

/-- What is sent after the chunk size has been told is heard as it is said, in order, however the bytes are
cut: control messages, commands and frames in any order, if no other chunk size is told and no frame repeats
a header with an extended timestamp. -/
theorem hear_said {xs : List Sending} {conn : Connection} {pieces : List (List UInt8)}
    (hSized : ∀ x ∈ xs, x.Sized) (hReadable : ∀ x ∈ xs, x.Readable)
    (hSizes : ∀ n, .control (.setChunkSize n) ∈ xs → n &&& 0x7FFFFFFF = CHUNK_SIZE)
    (hLossFree : LossFree [] (xs.filterMap Sending.media))
    (hSend : Connection.new.sendAll (.control (.setChunkSize CHUNK_SIZE) :: xs) = some conn)
    (hPieces : pieces.flatten = conn.io) :
    hear pieces = untilError ((.control (.setChunkSize CHUNK_SIZE) :: xs).flatMap Sending.said) := by
  rw [hear, deliver_said hSized hReadable hSizes hLossFree hSend hPieces]

/-- A frame and an event that arrive a byte at a time. -/
theorem frame_heard :
    ∃ conn, Connection.new.sendAll [.control (.setChunkSize CHUNK_SIZE), .frame (.audio 20 [0xAF, 0x01, 0x21]),
        .control (.streamBegin 1)] = some conn ∧
      hear (conn.io.map fun byte => [byte]) = [⟨0, 0, .ok (some (.setChunkSize CHUNK_SIZE))⟩,
        ⟨20, 0, .ok (some (.audioData [0xAF, 0x01, 0x21]))⟩, ⟨0, 0, .ok (some (.streamBegin 1))⟩] := by
  have hShort : [0xAF, 0x01, (0x21 : UInt8)].length < 2 ^ 24 := by decide
  obtain ⟨packetizer, hWrite, -⟩ := writeChunk_on hasWritten_new
    (ControlCall.setChunkSize CHUNK_SIZE).message.bytes
    (messageOf Csid.AUDIO 20 AUDIO 0 [0xAF, 0x01, 0x21] (by decide) hShort)
  have hSend : Connection.new.sendAll [.control (.setChunkSize CHUNK_SIZE),
      .frame (.audio 20 [0xAF, 0x01, 0x21]), .control (.streamBegin 1)] =
        some ⟨packetizer.writer.io ++ (ControlCall.streamBegin 1).message.bytes, packetizer⟩ := by
    have hFrame : Connection.send ⟨(ControlCall.setChunkSize CHUNK_SIZE).message.bytes, .new⟩
        (.frame (.audio 20 [0xAF, 0x01, 0x21])) = some ⟨packetizer.writer.io, packetizer⟩ :=
      congrArg (fun r => (Except.toOption r).bind fun written : ChunkPacketizer =>
        some (⟨written.writer.io, written⟩ : Connection)) hWrite
    exact congrArg (fun r => Option.bind r fun conn =>
      conn.sendAll [.control (.streamBegin 1)]) hFrame
  refine ⟨_, hSend, ?_⟩
  refine (hear_said
    ?_ ?_ ?_ ?_ hSend ?_).trans rfl
  · simp only [List.forall_mem_cons, Sending.Sized]
    exact ⟨hShort, trivial, List.forall_mem_nil _⟩
  · simp only [List.forall_mem_cons, Sending.Readable]
    exact ⟨trivial, trivial, List.forall_mem_nil _⟩
  · intro n hMem
    simp at hMem
  · exact ⟨not_loses_nil _, trivial⟩
  · rw [← List.flatMap_def]
    exact List.flatMap_singleton' _

end Xiu.Rtmp
