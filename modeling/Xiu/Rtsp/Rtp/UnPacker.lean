import Xiu.ProofKit.Loop
import Xiu.Rtsp.Rtp.Packet
import Xiu.StreamHub.Define

/-! The unpackers of H264, H265 and AAC, of `protocol/rtsp/src/rtp/rtp_h264.rs`, `rtp_h265.rs` and
`rtp_aac.rs`: a packet is read, and the NAL units or access units in it, or that it completes, go to
the frame handler. -/

namespace Xiu.Rtsp.Rtp

open Bytesio ProofKit Bytesio.Read StreamHub

/-- The fields of `RtpH264UnPacker` and of `RtpH265UnPacker`, the only one with `using_donl_field`.
`onFrameHandler` are the frames that the handler has been given, if there is a handler; it accepts
every frame, as those of the sessions do. -/
structure VideoUnPacker where
  sequenceNumber : UInt16
  timestamp : UInt32
  fuBuffer : List UInt8
  usingDonlField : Bool
  onFrameHandler : Option (List FrameData)
  deriving DecidableEq

/-- A new unpacker whose frame handler has been set. -/
def VideoUnPacker.new : VideoUnPacker where
  sequenceNumber := 0
  timestamp := 0
  fuBuffer := []
  usingDonlField := false
  onFrameHandler := some []

abbrev UnPack := EStateM Fault VideoUnPacker

/-- Hands a NAL unit to the frame handler, with a start code in front. -/
def VideoUnPacker.onFrame (unpacker : VideoUnPacker) (nalu : List UInt8) : VideoUnPacker :=
  { unpacker with
    onFrameHandler := unpacker.onFrameHandler.map
      (· ++ [.video unpacker.timestamp (ANNEXB_NALU_START_CODE ++ nalu)]) }

def unpackSingle (payload : List UInt8) : UnPack Unit := modify (·.onFrame payload)

/-- One turn of the loop over the NAL units of an aggregation packet, each behind its size, and behind
`skip` bytes that are ignored. -/
def aggregateTurn (skip : Nat) (_ : Unit) : Read VideoUnPacker (Turn Unit Unit) := do
  if (← len) = 0 then
    pure (.done ())
  else
    let _ ← readBytes skip
    let length ← readU16 .bigEndian
    let nalu ← readBytes length.toNat
    act (·.onFrame nalu)
    pure (.again ())

theorem aggregateTurn_decreases (skip : Nat) (a a' : Unit) (s s' : Reading VideoUnPacker)
    (h : aggregateTurn skip a s = .ok (.again a') s') : s'.reader.len < s.reader.len := by
  unfold aggregateTurn at h
  rw [bind_len] at h
  split at h
  · cases h
  · obtain ⟨_, s1, hSkip, h⟩ := bind_eq_ok h
    obtain ⟨_, s2, hSize, h⟩ := bind_eq_ok h
    obtain ⟨_, s3, hNalu, h⟩ := bind_eq_ok h
    obtain ⟨_, rfl⟩ := EStateM.Result.ok.inj h
    have hFirst := (readBytes_eq_ok hSkip).2
    have hSecond := (read_cursor_eq_ok hSize).2
    have hThird := (readBytes_eq_ok hNalu).2
    show s3.reader.len < s.reader.len
    omega

/-- `while !payload_reader.is_empty()`. -/
def aggregateLoop (skip : Nat) : Read VideoUnPacker Unit :=
  loopM (aggregateTurn skip) (·.reader.len) (aggregateTurn_decreases skip) ()

/-- The start of a fragmented NAL unit puts its header into the buffer. -/
def VideoUnPacker.fuStarted (unpacker : VideoUnPacker) (fuHeader : UInt8) (nalHeader : List UInt8) :
    VideoUnPacker :=
  if isFuStart fuHeader then { unpacker with fuBuffer := unpacker.fuBuffer ++ nalHeader }
  else unpacker

/-- The end of a fragmented NAL unit hands over the buffer. -/
def VideoUnPacker.fuEnded (unpacker : VideoUnPacker) (fuHeader : UInt8) : VideoUnPacker :=
  if isFuEnd fuHeader then { unpacker with fuBuffer := [] }.onFrame unpacker.fuBuffer
  else unpacker

/-- What both unpackers do with the bytes of a fragment. -/
def appendFragment (nalHeader : List UInt8) (fuHeader : UInt8) : Read VideoUnPacker Unit := do
  act (·.fuStarted fuHeader nalHeader)
  let rest ← extractRemainingBytes
  act fun unpacker => { unpacker with fuBuffer := unpacker.fuBuffer ++ rest }
  act (·.fuEnded fuHeader)

namespace RtpH264UnPacker

def unpackFu (rtpPayload : List UInt8) (t : UInt8) : UnPack Unit := readOver rtpPayload do
  let fuIndicator ← readU8
  let fuHeader ← readU8
  -- the DON
  let _ ← readBytes (if t = FU_B then 2 else 0)
  appendFragment [fuIndicator &&& 0xE0 ||| fuHeader &&& 0x1F] fuHeader

def unpackStap (rtpPayload : List UInt8) (t : UInt8) : UnPack Unit := readOver rtpPayload do
  let _ ← readU8
  -- the DON
  let _ ← readBytes (if t = STAP_B then 2 else 0)
  aggregateLoop 0

/-- The timestamp offset of a unit and its length. -/
def readTs (t : UInt8) : Read VideoUnPacker (UInt32 × Nat) :=
  if t = MTAP_16 then do
    let ts ← readU16 .bigEndian
    pure (ts.toUInt32, 2)
  else if t = MTAP_24 then do
    let ts ← readU24 .bigEndian
    pure (ts, 3)
  else
    -- "should not be here!"
    pure (0, 0)

/-- The body of the loop over the units. -/
def mtapUnit (t : UInt8) : Read VideoUnPacker (Turn Unit Unit) := do
  let naluSize ← readU16 .bigEndian
  let _ ← readU8
  let (ts, tsBytes) ← readTs t
  -- `assert!(ts != 0)`
  if ts = 0 then
    throw .panic
  else
    let left ← sub naluSize.toNat tsBytes
    let left ← sub left 1
    let nalu ← readBytes left
    act (·.onFrame nalu)
    pure (.again ())

def mtapTurn (t : UInt8) (_ : Unit) : Read VideoUnPacker (Turn Unit Unit) := do
  if (← len) = 0 then
    pure (.done ())
  else
    mtapUnit t

theorem readTs_len {t : UInt8} {s s' : Reading VideoUnPacker} {r : UInt32 × Nat}
    (h : readTs t s = .ok r s') : s'.reader.len ≤ s.reader.len := by
  unfold readTs at h
  split at h
  · obtain ⟨_, s1, hRead, h⟩ := bind_eq_ok h
    obtain ⟨_, rfl⟩ := EStateM.Result.ok.inj h
    have := (read_cursor_eq_ok hRead).2
    omega
  · split at h
    · obtain ⟨_, s1, hRead, h⟩ := bind_eq_ok h
      obtain ⟨_, rfl⟩ := EStateM.Result.ok.inj h
      have := (read_cursor_eq_ok hRead).2
      omega
    · obtain ⟨_, rfl⟩ := EStateM.Result.ok.inj h
      exact le_rfl

theorem mtapTurn_decreases (t : UInt8) (a a' : Unit) (s s' : Reading VideoUnPacker)
    (h : mtapTurn t a s = .ok (.again a') s') : s'.reader.len < s.reader.len := by
  unfold mtapTurn at h
  rw [bind_len] at h
  split at h
  · cases h
  · unfold mtapUnit at h
    obtain ⟨_, s1, hSize, h⟩ := bind_eq_ok h
    obtain ⟨_, s2, hDond, h⟩ := bind_eq_ok h
    obtain ⟨r, s3, hTs, h⟩ := bind_eq_ok h
    dsimp only at h
    split at h
    · cases h
    · obtain ⟨_, s4, hFirst, h⟩ := bind_eq_ok h
      obtain ⟨_, s5, hSecond, h⟩ := bind_eq_ok h
      obtain ⟨_, s6, hNalu, h⟩ := bind_eq_ok h
      obtain ⟨_, rfl⟩ := EStateM.Result.ok.inj h
      obtain ⟨rfl, _⟩ := sub_eq_ok hFirst
      obtain ⟨rfl, _⟩ := sub_eq_ok hSecond
      have hFirst := (read_cursor_eq_ok hSize).2
      have hSecond := (read_cursor_eq_ok hDond).2
      have hThird := readTs_len hTs
      have hFourth := (readBytes_eq_ok hNalu).2
      show s6.reader.len < s.reader.len
      omega

def unpackMtap (rtpPayload : List UInt8) (t : UInt8) : UnPack Unit := readOver rtpPayload do
  let _ ← readU8
  let _ ← readU16 .bigEndian
  loopM (mtapTurn t) (·.reader.len) (mtapTurn_decreases t) ()

/-- `unpack_single`, `unpack_stap`, `unpack_mtap` or `unpack_fu`, by the type of the payload. -/
def unpackPayload (payload : List UInt8) : UnPack Unit :=
  match payload with
  | [] => pure ()
  | packetType :: _ =>
    let kind := packetType &&& 0x1F
    if 1 ≤ kind ∧ kind ≤ 23 then unpackSingle payload
    else if kind = STAP_A ∨ kind = STAP_B then unpackStap payload packetType
    else if kind = MTAP_16 ∨ kind = MTAP_24 then unpackMtap payload packetType
    else if kind = FU_A ∨ kind = FU_B then unpackFu payload packetType
    else pure ()

def unpack : Read VideoUnPacker Unit := do
  let rtpPacket ← RtpPacket.unmarshal
  act fun unpacker => { unpacker with
    timestamp := rtpPacket.header.timestamp, sequenceNumber := rtpPacket.header.seqNumber }
  onOwner (unpackPayload rtpPacket.payload)

end RtpH264UnPacker

namespace RtpH265UnPacker

def unpackAp (rtpPayload : List UInt8) : UnPack Unit := readOver rtpPayload do
  let _ ← readBytes 2
  let unpacker ← owner
  aggregateLoop (if unpacker.usingDonlField then 2 else 0)

def unpackFu (rtpPayload : List UInt8) : UnPack Unit := readOver rtpPayload do
  let payloadHeader1stByte ← readU8
  let payloadHeader2ndByte ← readU8
  let fuHeader ← readU8
  let unpacker ← owner
  let _ ← readBytes (if unpacker.usingDonlField then 2 else 0)
  appendFragment [payloadHeader1stByte &&& 0x81 ||| (fuHeader &&& 0x3F) <<< (1 : UInt8),
    payloadHeader2ndByte] fuHeader

def unpackPayload (payload : List UInt8) : UnPack Unit :=
  match payload with
  | [] => pure ()
  | packetType :: _ =>
    let kind := packetType >>> 1 &&& 0x3F
    if kind = FU then unpackFu payload
    else if kind = AP then unpackAp payload
    else if kind = PACI then pure ()
    else unpackSingle payload

def unpack : Read VideoUnPacker Unit := do
  let rtpPacket ← RtpPacket.unmarshal
  act fun unpacker => { unpacker with
    timestamp := rtpPacket.header.timestamp, sequenceNumber := rtpPacket.header.seqNumber }
  onOwner (unpackPayload rtpPacket.payload)

end RtpH265UnPacker

/-- The unpacker of a codec. -/
def unpack : VideoCodecType → Read VideoUnPacker Unit
  | .h264 => RtpH264UnPacker.unpack
  | .h265 => RtpH265UnPacker.unpack

/-- The only field of `RtpAacUnPacker` that matters here. -/
structure RtpAacUnPacker where
  onFrameHandler : Option (List FrameData)
  deriving DecidableEq

namespace RtpAacUnPacker

def new : RtpAacUnPacker := ⟨some []⟩

/-- The loop that reads the lengths of the access units. -/
def readAuLengths : Nat → Read RtpAacUnPacker (List Nat)
  | 0 => pure []
  | n + 1 => do
    let hi ← readU8
    let lo ← readU8
    let auLength := (hi.toUInt16 <<< (8 : UInt16) ||| lo.toUInt16 &&& (0xF8 : UInt16)).toNat
    let auLengths ← readAuLengths n
    pure (auLength / 8 :: auLengths)

/-- The loop that hands over the access units, from number `i` on. -/
def onAus (timestamp : UInt32) : Nat → List Nat → Read RtpAacUnPacker Unit
  | _, [] => pure ()
  | i, item :: rest => do
    let auData ← readBytes item
    match (← owner).onFrameHandler with
    | some frames =>
      let offset ← checkedU32 ((UInt32.ofNat i).toNat * 1024)
      let auTimestamp ← checkedU32 (timestamp.toNat + offset.toNat)
      act fun _ => ⟨some (frames ++ [.audio auTimestamp auData])⟩
    | none => pure ()
    onAus timestamp (i + 1) rest

def unpackPayload (timestamp : UInt32) (payload : List UInt8) : EStateM Fault RtpAacUnPacker Unit :=
  readOver payload do
    let auHeadersBits ← readU16 .bigEndian
    let auHeadersBits ← checkedU16 (auHeadersBits.toNat + 7)
    let auHeadersLength := auHeadersBits / 8
    let ausNumber := auHeadersLength / 2
    let auLengths ← readAuLengths ausNumber.toNat
    onAus timestamp 0 auLengths

def unpack : Read RtpAacUnPacker Unit := do
  let rtpPacket ← RtpPacket.unmarshal
  onOwner (unpackPayload rtpPacket.header.timestamp rtpPacket.payload)

end RtpAacUnPacker

/-- One packet handed to an unpacker.  A packet that is refused leaves the unpacker as it is then; a
panic leaves none. -/
def receive {τ : Type} (unpack : Read τ Unit) (it : τ) (packet : List UInt8) : Option τ :=
  match unpack ⟨it, ⟨packet⟩⟩ with
  | .ok _ s => some s.owner
  | .error (.bytesReadError _) s => some s.owner
  | .error .panic _ => none

/-- Packets handed to an unpacker one after the other. -/
def receiveAll {τ : Type} (unpack : Read τ Unit) (it : τ) (packets : List (List UInt8)) : Option τ :=
  packets.foldlM (receive unpack) it

end Xiu.Rtsp.Rtp
