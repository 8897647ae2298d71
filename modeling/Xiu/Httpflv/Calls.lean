import Xiu.Flv.Amf0.Writer
import Xiu.Flv.Tags
import Xiu.StreamHub.Statistics
import Xiu.StreamHub.Workers

/-! The calls of the HTTP-FLV handler, of `protocol/httpflv/src/httpflv.rs`: frames become tags in the
muxer's buffer, and the buffer goes to the consumer of the HTTP response. -/

namespace Xiu.Httpflv

open Bytesio ProofKit StreamHub
open Flv (FlvTag FlvMuxer.writeFlvHeader FlvMuxer.writePreviousTagSize)
open Flv.Amf0 (Amf0Writer.writeString Amf0WriteErrorValue)
open Workers (Call Failure FlvWriter)

inductive SendError where
  | full
  | disconnected
  deriving DecidableEq

inductive HttpFLvErrorValue where
  | amf0WriteError (error : Amf0WriteErrorValue)
  | mpscSendError (error : SendError)
  deriving DecidableEq

/-- What the calls work on. -/
structure HttpFlv where
  /-- The buffer of the muxer. -/
  writer : BytesWriter
  subscriberId : Uuid
  /-- What has been sent to the statistics, if there is a sender. -/
  statisticDataSender : Option (List StatisticData)
  /-- The consumer of the response has not gone, and these are the chunks that it was given. -/
  connected : Bool
  httpResponseData : List (List UInt8)

namespace HttpFlv

def new (subscriberId : Uuid) (statisticDataSender : Option (List StatisticData)) : HttpFlv where
  writer := ⟨[]⟩
  subscriberId
  statisticDataSender
  connected := true
  httpResponseData := []

/-- A handler without statistics. -/
def first : HttpFlv := new (Uuid.new .four 0 Uuid.noDigits) none

abbrev Run := Call HttpFLvErrorValue HttpFlv

/-- What the muxer does to its buffer; a number that does not fit panics. -/
def mux (f : BytesWriter → Except WriteFault BytesWriter) : Run Unit := fun self =>
  match f self.writer with
  | .ok writer => .ok () { self with writer }
  | .error .panic => .error .panic self

/-- Sends to the statistics, if there is a sender. -/
def send (data : StatisticData) : Run Unit :=
  modify fun self => { self with
    statisticDataSender := self.statisticDataSender.map fun sent => sent ++ [data] }

def flushResponseData : Run Unit := do
  let self ← get
  let data := self.writer.bytes
  set { self with writer := ⟨[]⟩ }
  if self.connected then
    modify fun self => { self with httpResponseData := self.httpResponseData ++ [data] }
  else throw (.error (.mpscSendError .disconnected))

/-- The body of a metadata frame, from which as many bytes are cut as the name `@setDataFrame` takes;
`split_at` panics where there are fewer. -/
def cutMetadata (data : List UInt8) : Run (List UInt8) :=
  match Amf0Writer.writeString "@setDataFrame" ⟨[]⟩ with
  | .error e _ => throw (.error (.amf0WriteError e))
  | .ok _ amfWriter =>
    if amfWriter.len ≤ data.length then pure (data.drop amfWriter.len) else throw .panic

/-- The tag that a frame becomes. -/
def tagOf : FrameData → Run FlvTag
  | .audio timestamp data => do
    let self ← get
    send (.audio (some self.subscriberId) data.length 1)
    pure ⟨Flv.AUDIO, timestamp, data⟩
  | .video timestamp data => do
    let self ← get
    send (.video (some self.subscriberId) data.length 1 none)
    pure ⟨Flv.VIDEO, timestamp, data⟩
  | .metaData timestamp data => do
    let right ← cutMetadata data
    pure ⟨Flv.SCRIPT_DATA_AMF, timestamp, right⟩
  | .mediaInfo _ => pure ⟨0, 0, []⟩

def writeFlvTag (channelData : FrameData) : Run Unit := do
  let tag ← tagOf channelData
  mux (Flv.writeFlvTag · tag)
  flushResponseData

/-- The calls as `send_media_stream` makes them. -/
def flvWriter : FlvWriter HttpFLvErrorValue HttpFlv where
  writeFlvHeader hasAudio hasVideo :=
    mux fun writer => .ok (FlvMuxer.writeFlvHeader writer hasAudio hasVideo)
  writePreviousTagSize size :=
    mux fun writer => .ok (FlvMuxer.writePreviousTagSize writer (UInt32.ofNat size))
  flushResponseData := flushResponseData
  writeFlvTag := writeFlvTag
  isDisconnected e := e = .mpscSendError .disconnected

/-! ### What the calls do -/

variable {self : HttpFlv}

theorem bind_mux {f : BytesWriter → Except WriteFault BytesWriter} {writer : BytesWriter} {α : Type}
    {g : Unit → Run α} (h : f self.writer = .ok writer) :
    (mux f >>= g) self = g () { self with writer } := by
  refine bind_of_ok ?_
  unfold mux
  rw [h]

theorem flushResponseData_ok (h : self.connected = true) :
    flushResponseData self = .ok () { self with
      writer := ⟨[]⟩, httpResponseData := self.httpResponseData ++ [self.writer.bytes] } := by
  rw [flushResponseData, bind_get, bind_set, if_pos h]
  rfl

/-- The frame is sent as the tag, and the tag can hold its body. -/
def SentAs (self : HttpFlv) (frame : FrameData) (tag : FlvTag) : Prop :=
  tag.body.length < 2 ^ 24 ∧
    ∃ self', writeFlvTag frame self = .ok () self' ∧
      self'.httpResponseData =
        self.httpResponseData ++ [self.writer.bytes ++ (tag.bytes ++ tag.size)]

/-- A frame that becomes a tag that can hold its body is sent as that tag. -/
theorem writeFlvTag_ok {frame : FrameData} {tag : FlvTag} {self1 : HttpFlv}
    (hTag : tagOf frame self = .ok tag self1) (hBody : tag.body.length < 2 ^ 24)
    (hConnected : self1.connected = true) :
    writeFlvTag frame self = .ok () { self1 with
      writer := ⟨[]⟩
      httpResponseData :=
        self1.httpResponseData ++ [self1.writer.bytes ++ (tag.bytes ++ tag.size)] } := by
  rw [writeFlvTag, bind_of_ok hTag, bind_mux (Flv.writeFlvTag_ok hBody self1.writer)]
  exact flushResponseData_ok hConnected

theorem length_tag (tag : FlvTag) : (tag.bytes ++ tag.size).length = 15 + tag.body.length := by
  simp only [FlvTag.bytes, FlvTag.size, List.length_append, List.length_cons, length_toBE]
  omega

/-- The name takes sixteen bytes. -/
def setDataFrame : List UInt8 :=
  [0x02, 0x00, 0x0d, 0x40, 0x73, 0x65, 0x74, 0x44, 0x61, 0x74, 0x61, 0x46, 0x72, 0x61, 0x6d, 0x65]

theorem writeString_setDataFrame :
    Amf0Writer.writeString "@setDataFrame" ⟨[]⟩ = .ok () ⟨setDataFrame⟩ := by
  rfl

theorem cutMetadata_eq (data : List UInt8) :
    cutMetadata data = if 16 ≤ data.length then pure (data.drop 16) else throw .panic := by
  unfold cutMetadata
  rw [writeString_setDataFrame]
  rfl

end HttpFlv

end Xiu.Httpflv
