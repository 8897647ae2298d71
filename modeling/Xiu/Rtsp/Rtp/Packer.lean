import Xiu.ProofKit.Loop
import Xiu.ProofKit.Pieces
import Xiu.Rtsp.Rtp.Packet
import Xiu.StreamHub.Define

/-! The packers of H264 and H265, of `protocol/rtsp/src/rtp/rtp_h264.rs` and `rtp_h265.rs`: a NAL
unit goes out as one packet, or as a run of fragments when it is too long for the mtu. -/

namespace Xiu.Rtsp.Rtp

open Bytesio ProofKit Bytesio.Read StreamHub

/-- The fields of `RtpH264Packer` and of `RtpH265Packer`.  `packets` are those that the packet
handler has been given; the handler takes every packet.  The mtu leaves room for a byte of the NAL
unit beside the headers of a fragment (the callers pass 1400), so no size computed from it
underflows. -/
structure VideoPacker where
  header : RtpHeader
  mtu : Nat
  room : RTP_FIXED_HEADER_LEN + 3 < mtu
  packets : List RtpPacket

/-- A packer before its first packet. -/
def VideoPacker.new (payloadType : UInt8) (ssrc : UInt32) (initSeq : UInt16) (mtu : Nat)
    (room : RTP_FIXED_HEADER_LEN + 3 < mtu) : VideoPacker where
  header :=
    { version := 2
      paddingFlag := 0
      extensionFlag := 0
      cc := 0
      marker := 0
      payloadType := payloadType
      seqNumber := initSeq
      timestamp := 0
      ssrc := ssrc
      csrcs := [] }
  mtu := mtu
  room := room
  packets := []

abbrev Pack := EStateM Fault VideoPacker

/-- A packer that goes on with another timestamp. -/
def VideoPacker.at (packer : VideoPacker) (timestamp : UInt32) : VideoPacker :=
  { packer with header := { packer.header with timestamp } }

theorem RtpHeader.Plain.at {packer : VideoPacker} (h : packer.header.Plain) (timestamp : UInt32) :
    (packer.at timestamp).header.Plain :=
  ⟨h.version, h.paddingFlag, h.extensionFlag, h.cc, h.csrcs⟩

/-- Hands a packet to the packet handler. -/
def VideoPacker.onPacket (packer : VideoPacker) (packet : RtpPacket) : VideoPacker :=
  { packer with packets := packer.packets ++ [packet] }

/-- The packet of a payload. -/
def VideoPacker.packet (packer : VideoPacker) (marker : UInt8) (payload : List UInt8) : RtpPacket :=
  .carrying { packer.header with marker } payload

/-- How a packer goes on to the next sequence number. -/
abbrev Advance := UInt16 → Option UInt16

/-- `wrapping_add(1)`. -/
def wrappingAdd : Advance := fun n => some (n + 1)

/-- `+= 1`, which panics on overflow. -/
def checkedAdd : Advance := fun n => if n = 0xFFFF then none else some (n + 1)

def nextSeqNumber (advance : Advance) : Pack Unit := fun packer =>
  match advance packer.header.seqNumber with
  | some n => .ok () { packer with header := { packer.header with seqNumber := n } }
  | none => .error .panic packer

def packSingle (advance : Advance) (nalu : List UInt8) : Pack Unit := do
  let packet := (← get).packet 1 nalu
  nextSeqNumber advance
  modify (·.onPacket packet)

/-- One turn of the fragmentation loop, whose variable is the FU header: a fragment starts with
`fuStart` and the FU header, `fuHeaderLen` bytes together, and the FU header of the last one is
`lastFuHeader`.  (The marker is the E bit, so it does not matter that one packer clears the S bit
before it and the other after it.) -/
def fuTurn (fuStart : List UInt8) (fuHeaderLen : Nat) (lastFuHeader : UInt8) (advance : Advance)
    (fuHeader : UInt8) : Read VideoPacker (Turn UInt8 Unit) := do
  let leftNaluBytes ← len
  let packer ← owner
  if leftNaluBytes = 0 then
    pure (.done ())
  else
    let isLast := leftNaluBytes + RTP_FIXED_HEADER_LEN ≤ packer.mtu - fuHeaderLen
    let fuHeader := if isLast then lastFuHeader else fuHeader
    let fuPayloadLen :=
      if isLast then leftNaluBytes else packer.mtu - RTP_FIXED_HEADER_LEN - fuHeaderLen
    let fuPayload ← readBytes fuPayloadLen
    let marker := if isFuEnd fuHeader then 1 else 0
    act (·.onPacket (packer.packet marker (fuStart ++ fuHeader :: fuPayload)))
    onOwner (nextSeqNumber advance)
    pure (.again (if isFuStart fuHeader then fuHeader &&& 0x7F else fuHeader))

/-- How many bytes of a NAL unit a fragment has room for. -/
def VideoPacker.fuSize (packer : VideoPacker) (fuHeaderLen : Nat) : Nat :=
  packer.mtu - RTP_FIXED_HEADER_LEN - fuHeaderLen

theorem VideoPacker.fuSize_pos (packer : VideoPacker) {fuHeaderLen : Nat} (h : fuHeaderLen ≤ 3) :
    0 < packer.fuSize fuHeaderLen := by
  have := packer.room
  unfold fuSize
  omega

section Fu

variable {fuStart : List UInt8} {fuHeaderLen : Nat} {lastFuHeader : UInt8} {advance : Advance}

theorem fuTurn_nil (fuHeader : UInt8) (packer : VideoPacker) :
    fuTurn fuStart fuHeaderLen lastFuHeader advance fuHeader ⟨packer, ⟨[]⟩⟩ =
      .ok (.done ()) ⟨packer, ⟨[]⟩⟩ := by
  unfold fuTurn
  rw [bind_len, bind_owner]
  exact congrFun (if_pos rfl) _

/-- A turn sends what fits one fragment and goes on with the rest. -/
theorem fuTurn_eq (hLen : fuHeaderLen ≤ 3) (fuHeader : UInt8) (packer : VideoPacker)
    {data : List UInt8} (hNe : data ≠ []) :
    fuTurn fuStart fuHeaderLen lastFuHeader advance fuHeader ⟨packer, ⟨data⟩⟩ =
      let size := packer.fuSize fuHeaderLen
      let fuHeader := if data.length ≤ size then lastFuHeader else fuHeader
      (onOwner (nextSeqNumber advance) >>= fun _ =>
          pure (.again (if isFuStart fuHeader then fuHeader &&& 0x7F else fuHeader)))
        ⟨packer.onPacket (packer.packet (if isFuEnd fuHeader then 1 else 0)
          (fuStart ++ fuHeader :: data.take size)), ⟨data.drop size⟩⟩ := by
  have hRoom := packer.room
  have hPos : ¬data.length = 0 := fun h => hNe (List.eq_nil_of_length_eq_zero h)
  have hLast : data.length + RTP_FIXED_HEADER_LEN ≤ packer.mtu - fuHeaderLen ↔
      data.length ≤ packer.fuSize fuHeaderLen := by
    unfold VideoPacker.fuSize
    omega
  unfold fuTurn
  rw [bind_len, bind_owner]
  refine (congrFun (if_neg hPos) _).trans ?_
  simp only [BytesReader.len, hLast]
  by_cases hSize : data.length ≤ packer.fuSize fuHeaderLen
  · simp only [hSize, if_true]
    rw [List.take_of_length_le hSize, List.drop_of_length_le hSize, bind_of_ok (readBytes_ok le_rfl),
      bind_act, List.take_length, List.drop_length]
  · simp only [hSize, if_false]
    rw [show packer.mtu - RTP_FIXED_HEADER_LEN - fuHeaderLen = packer.fuSize fuHeaderLen from rfl,
      bind_of_ok (readBytes_ok (by omega)), bind_act]

/-- A turn of the fragmentation loop takes bytes. -/
theorem fuTurn_decreases (hLen : fuHeaderLen ≤ 3) (fuHeader fuHeader' : UInt8)
    (s s' : Reading VideoPacker)
    (h : fuTurn fuStart fuHeaderLen lastFuHeader advance fuHeader s = .ok (.again fuHeader') s') :
    s'.reader.len < s.reader.len := by
  obtain ⟨packer, ⟨data⟩⟩ := s
  by_cases hNe : data = []
  · subst hNe
    rw [fuTurn_nil] at h
    cases h
  · have hSize := packer.fuSize_pos hLen
    have hPos := List.length_pos_iff.mpr hNe
    rw [fuTurn_eq hLen fuHeader packer hNe] at h
    obtain ⟨_, s1, hNext, hPure⟩ := bind_eq_ok h
    obtain ⟨_, rfl⟩ := EStateM.Result.ok.inj hPure
    have hReader : s1.reader = ⟨data.drop (packer.fuSize fuHeaderLen)⟩ := by
      unfold onOwner at hNext
      split at hNext
      · obtain ⟨_, rfl⟩ := EStateM.Result.ok.inj hNext
        rfl
      · cases hNext
    show s1.reader.buffer.length < data.length
    rw [hReader, List.length_drop]
    omega

end Fu

/-- `while left_nalu_bytes > 0`. -/
def fuLoop (fuStart : List UInt8) (fuHeaderLen : Nat) (hLen : fuHeaderLen ≤ 3)
    (lastFuHeader : UInt8) (advance : Advance) (fuHeader : UInt8) : Read VideoPacker Unit :=
  loopM (fuTurn fuStart fuHeaderLen lastFuHeader advance) (·.reader.len) (fuTurn_decreases hLen)
    fuHeader

namespace RtpH264Packer

def packFuA (nalu : List UInt8) : Pack Unit := readOver nalu do
  let byte1st ← readU8
  let fuIndicator := byte1st &&& 0xE0 ||| FU_A
  let fuHeader := byte1st &&& 0x1F ||| FU_START
  fuLoop [fuIndicator] 2 (by decide) (byte1st &&& 0x1F ||| FU_END) wrappingAdd fuHeader

def packNalu (nalu : List UInt8) : Pack Unit := do
  if nalu.length + RTP_FIXED_HEADER_LEN ≤ (← get).mtu then
    packSingle wrappingAdd nalu
  else
    packFuA nalu

end RtpH264Packer

namespace RtpH265Packer

def packFu (nalu : List UInt8) : Pack Unit := readOver nalu do
  let naluHeader1stByte ← readU8
  let naluHeader2ndByte ← readU8
  let payloadHdr : UInt16 := (naluHeader1stByte.toUInt16 &&& (0x81 : UInt16) ||| FU.toUInt16 <<< (1 : UInt16)) <<< (8 : UInt16) |||
    naluHeader2ndByte.toUInt16
  let fuHeader := naluHeader1stByte >>> 1 &&& 0x3F ||| FU_START
  fuLoop (ByteOrder.bigEndian.encode 2 payloadHdr.toNat) 3 (by decide)
    (naluHeader1stByte &&& 0x1F ||| FU_END) checkedAdd fuHeader

def packNalu (nalu : List UInt8) : Pack Unit := do
  if nalu.length + RTP_FIXED_HEADER_LEN ≤ (← get).mtu then
    packSingle checkedAdd nalu
  else
    packFu nalu

end RtpH265Packer

/-- The packer of a codec. -/
def packNalu : VideoCodecType → List UInt8 → Pack Unit
  | .h264 => RtpH264Packer.packNalu
  | .h265 => RtpH265Packer.packNalu

end Xiu.Rtsp.Rtp
