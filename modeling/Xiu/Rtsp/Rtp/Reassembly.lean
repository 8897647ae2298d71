import Xiu.Rtsp.Rtp.Fragments
import Xiu.Rtsp.Rtp.UnPacker

/-! What the packets of a packer do to an unpacker.  Each packet is one arrival: a whole NAL unit, more
bytes of one, or its last bytes; and the arrivals of a NAL unit make it up. -/

namespace Xiu.Rtsp.Rtp

open Bytesio ProofKit Bytesio.Read StreamHub

inductive Arrival where
  | whole (nalu : List UInt8)
  | more (bytes : List UInt8)
  | stop (bytes : List UInt8)
  deriving DecidableEq

/-- What an arrival does to an unpacker. -/
def VideoUnPacker.take (unpacker : VideoUnPacker) : Arrival → VideoUnPacker
  | .whole nalu => unpacker.onFrame nalu
  | .more bytes => { unpacker with fuBuffer := unpacker.fuBuffer ++ bytes }
  | .stop bytes => { unpacker with fuBuffer := [] }.onFrame (unpacker.fuBuffer ++ bytes)

/-- The arrivals of fragments that carry these bytes. -/
def fuArrivals : List (List UInt8) → List Arrival
  | [] => []
  | [bytes] => [.stop bytes]
  | bytes :: next :: rest => .more bytes :: fuArrivals (next :: rest)

/-- A list whose first item has `head` in front. -/
def headed (head : List UInt8) : List (List UInt8) → List (List UInt8)
  | [] => []
  | piece :: rest => (head ++ piece) :: rest

/-- What the fragments of a NAL unit add to the buffer: the first one its header too. -/
def fuBytes (codec : VideoCodecType) (mtu : Nat) (nalu : List UInt8) : List (List UInt8) :=
  headed (nalu.take (fuHeaderLen codec - 1))
    (pieces (mtu - RTP_FIXED_HEADER_LEN - fuHeaderLen codec) (fragmenting codec nalu).data)

/-- The arrivals of a NAL unit. -/
def arrivals (codec : VideoCodecType) (mtu : Nat) (nalu : List UInt8) : List Arrival :=
  if nalu.length + RTP_FIXED_HEADER_LEN ≤ mtu then [.whole nalu]
  else fuArrivals (fuBytes codec mtu nalu)

/-- What an unpacker does with the payload of a packet. -/
def unpackPayload : VideoCodecType → List UInt8 → UnPack Unit
  | .h264 => RtpH264UnPacker.unpackPayload
  | .h265 => RtpH265UnPacker.unpackPayload

/-- The types of NAL units that are sent as they are: those above are what the payload formats use
for their own packets. -/
def IsNalu : VideoCodecType → List UInt8 → Prop
  | .h264, nalu => 1 ≤ naluType .h264 nalu ∧ naluType .h264 nalu ≤ 23
  | .h265, nalu => nalu ≠ [] ∧ naluType .h265 nalu ≤ 47

theorem IsNalu.ne_nil {codec : VideoCodecType} {nalu : List UInt8} (h : IsNalu codec nalu) :
    nalu ≠ [] := by
  cases codec
  · rintro rfl
    exact absurd h.1 (by decide)
  · exact h.1

/-- A payload is unpacked as an arrival. -/
def Carries (codec : VideoCodecType) (a : Arrival) (payload : List UInt8) : Prop :=
  ∀ unpacker : VideoUnPacker, unpacker.usingDonlField = false →
    unpackPayload codec payload unpacker = .ok () (unpacker.take a)

theorem carries_whole {codec : VideoCodecType} {nalu : List UInt8} (h : IsNalu codec nalu) :
    Carries codec (.whole nalu) nalu := by
  intro unpacker _
  obtain _ | ⟨b, rest⟩ := nalu
  · exact absurd rfl h.ne_nil
  cases codec
  · exact congrFun (if_pos h) unpacker
  · have hType : b >>> 1 &&& 0x3F ≤ 47 := h.2
    have hFu : ¬b >>> 1 &&& 0x3F = FU := fun hFu => absurd (hFu ▸ hType) (by decide)
    have hAp : ¬b >>> 1 &&& 0x3F = AP := fun hAp => absurd (hAp ▸ hType) (by decide)
    have hPaci : ¬b >>> 1 &&& 0x3F = PACI := fun hPaci => absurd (hPaci ▸ hType) (by decide)
    refine (congrFun (if_neg hFu) unpacker).trans ((congrFun (if_neg hAp) unpacker).trans ?_)
    exact congrFun (if_neg hPaci) unpacker

/-- What a fragment does to an unpacker. -/
def VideoUnPacker.fragment (unpacker : VideoUnPacker) (nalHeader : List UInt8) (fuHeader : UInt8)
    (piece : List UInt8) : VideoUnPacker :=
  let started := unpacker.fuStarted fuHeader nalHeader
  VideoUnPacker.fuEnded { started with fuBuffer := started.fuBuffer ++ piece } fuHeader

theorem appendFragment_apply (nalHeader : List UInt8) (fuHeader : UInt8) (unpacker : VideoUnPacker)
    (piece : List UInt8) :
    appendFragment nalHeader fuHeader ⟨unpacker, ⟨piece⟩⟩ =
      .ok () ⟨unpacker.fragment nalHeader fuHeader piece, ⟨[]⟩⟩ := rfl

/-- The header of the NAL unit that an unpacker restores from a fragment. -/
def nalHeader : VideoCodecType → List UInt8 → UInt8 → List UInt8
  | .h264, fuStart, fuHeader => [fuStart.headD 0 &&& 0xE0 ||| fuHeader &&& 0x1F]
  | .h265, fuStart, fuHeader => [fuStart.headD 0 &&& 0x81 ||| (fuHeader &&& 0x3F) <<< (1 : UInt8),
      (fuStart.drop 1).headD 0]

/-- A fragment goes to the code for fragments. -/
theorem unpackPayload_fragment (codec : VideoCodecType) (nalu : List UInt8) (fuHeader : UInt8)
    (piece : List UInt8) (unpacker : VideoUnPacker) (hDonl : unpacker.usingDonlField = false) :
    unpackPayload codec ((fragmenting codec nalu).fuStart ++ fuHeader :: piece) unpacker =
      .ok () (unpacker.fragment (nalHeader codec (fragmenting codec nalu).fuStart fuHeader) fuHeader
        piece) := by
  cases codec
  · have hKind : (nalu.headD 0 &&& 0xE0 ||| FU_A) &&& 0x1F = FU_A ∧
        ¬(nalu.headD 0 &&& 0xE0 ||| FU_A) = FU_B := by
      generalize nalu.headD 0 = b
      revert b
      exact forall_byte (by decide +kernel)
    have hSingle : ¬(1 ≤ FU_A ∧ FU_A ≤ 23) := by decide
    have hStap : ¬(FU_A = STAP_A ∨ FU_A = STAP_B) := by decide
    have hMtap : ¬(FU_A = MTAP_16 ∨ FU_A = MTAP_24) := by decide
    simp only [unpackPayload, RtpH264UnPacker.unpackPayload, fragmenting, List.cons_append,
      List.nil_append]
    rw [hKind.1, if_neg hSingle, if_neg hStap, if_neg hMtap, if_pos (.inl rfl)]
    unfold RtpH264UnPacker.unpackFu
    refine readOver_ok (s := ⟨unpacker.fragment _ fuHeader piece, ⟨[]⟩⟩) ((bind_of_ok (readU8_cons _)).trans
      ((bind_of_ok (readU8_cons _)).trans ?_))
    rw [if_neg hKind.2]
    exact bind_of_ok (readBytes_ok (n := 0) (Nat.zero_le _))
  · have hKind : (nalu.headD 0 &&& 0x81 ||| FU <<< (1 : UInt8)) >>> 1 &&& 0x3F = FU := by
      generalize nalu.headD 0 = b
      revert b
      exact forall_byte (by decide +kernel)
    simp only [unpackPayload, RtpH265UnPacker.unpackPayload, fragmenting, List.cons_append,
      List.nil_append]
    rw [if_pos hKind]
    unfold RtpH265UnPacker.unpackFu
    refine readOver_ok (s := ⟨unpacker.fragment _ fuHeader piece, ⟨[]⟩⟩) ((bind_of_ok (readU8_cons _)).trans
      ((bind_of_ok (readU8_cons _)).trans ((bind_of_ok (readU8_cons _)).trans ?_)))
    rw [bind_owner]
    dsimp only
    rw [hDonl]
    exact bind_of_ok (readBytes_ok (n := 0) (Nat.zero_le _))

section Fragment

variable {unpacker : VideoUnPacker} {head : List UInt8} {fuHeader : UInt8} {piece : List UInt8}

theorem fragment_first (hStart : isFuStart fuHeader = true) (hEnd : isFuEnd fuHeader = false) :
    unpacker.fragment head fuHeader piece = unpacker.take (.more (head ++ piece)) := by
  simp [VideoUnPacker.fragment, VideoUnPacker.fuStarted, VideoUnPacker.fuEnded, hStart, hEnd,
    VideoUnPacker.take]

theorem fragment_middle (hStart : isFuStart fuHeader = false) (hEnd : isFuEnd fuHeader = false) :
    unpacker.fragment head fuHeader piece = unpacker.take (.more piece) := by
  simp [VideoUnPacker.fragment, VideoUnPacker.fuStarted, VideoUnPacker.fuEnded, hStart, hEnd,
    VideoUnPacker.take]

theorem fragment_last (hStart : isFuStart fuHeader = false) (hEnd : isFuEnd fuHeader = true) :
    unpacker.fragment head fuHeader piece = unpacker.take (.stop piece) := by
  simp [VideoUnPacker.fragment, VideoUnPacker.fuStarted, VideoUnPacker.fuEnded, hStart, hEnd,
    VideoUnPacker.take]

end Fragment

/-- The header restored from the first fragment is that of the NAL unit. -/
theorem nalHeader_first (codec : VideoCodecType) {nalu : List UInt8} (h : 2 ≤ nalu.length) :
    nalHeader codec (fragmenting codec nalu).fuStart (fragmenting codec nalu).first =
      nalu.take (fuHeaderLen codec - 1) := by
  have hH264 : ∀ a : UInt8,
      (a &&& 0xE0 ||| FU_A) &&& 0xE0 ||| (a &&& 0x1F ||| FU_START) &&& 0x1F = a :=
    forall_byte (by decide +kernel)
  have hH265 : ∀ a : UInt8, (a &&& 0x81 ||| FU <<< (1 : UInt8)) &&& 0x81 |||
      ((a >>> (1 : UInt8) &&& 0x3F ||| FU_START) &&& 0x3F) <<< (1 : UInt8) = a :=
    forall_byte (by decide +kernel)
  obtain _ | ⟨a, _ | ⟨b, rest⟩⟩ := nalu
  · simp at h
  · simp at h
  cases codec
  · exact congrArg ([·]) (hH264 a)
  · exact congrArg ([·, b]) (hH265 a)

/-- The S bits of the FU headers of a NAL unit. -/
theorem fragmenting_start (codec : VideoCodecType) (nalu : List UInt8) :
    isFuStart (fragmenting codec nalu).first = true ∧
      isFuStart (fragmenting codec nalu).middle = false ∧
      isFuStart (fragmenting codec nalu).last = false := by
  have hType : ∀ t : UInt8, t &&& 0x3F = t →
      isFuStart (t ||| FU_START) = true ∧ isFuStart t = false := forall_byte (by decide +kernel)
  have hLast : ∀ b : UInt8, isFuStart (b &&& 0x1F ||| FU_END) = false := forall_byte (by decide +kernel)
  obtain ⟨hFirst, hMiddle⟩ := hType _ (naluType_and codec nalu)
  cases codec
  · exact ⟨hFirst, hMiddle, hLast _⟩
  · exact ⟨hFirst, hMiddle, hLast _⟩

/-- The fragments after the first one carry their pieces. -/
theorem carries_rest (codec : VideoCodecType) (nalu : List UInt8) (ps : List (List UInt8)) :
    List.Forall₂ (fun a (parcel : Parcel) => Carries codec a parcel.payload) (fuArrivals ps)
      (fuParcels (fragmenting codec nalu) (fragmenting codec nalu).middle ps) := by
  obtain ⟨_, ⟨hMiddle, _⟩, hLast⟩ := fragmenting_headers codec nalu
  obtain ⟨_, hStart, hStart'⟩ := fragmenting_start codec nalu
  induction ps with
  | nil => exact .nil
  | cons piece rest ih =>
    obtain _ | ⟨next, rest⟩ := rest
    · refine .cons (fun unpacker hDonl => ?_) .nil
      rw [unpackPayload_fragment codec nalu _ _ unpacker hDonl, fragment_last hStart' hLast]
    · refine .cons (fun unpacker hDonl => ?_) ih
      rw [unpackPayload_fragment codec nalu _ _ unpacker hDonl, fragment_middle hStart hMiddle]

section Fragmented

variable {codec : VideoCodecType} {mtu : Nat} {nalu : List UInt8}

/-- A NAL unit that is cut up is cut into several pieces, none of them empty. -/
theorem fragments_pieces (hMtu : RTP_FIXED_HEADER_LEN + 3 < mtu)
    (h : ¬nalu.length + RTP_FIXED_HEADER_LEN ≤ mtu) :
    let ps := pieces (mtu - RTP_FIXED_HEADER_LEN - fuHeaderLen codec) (fragmenting codec nalu).data
    2 ≤ ps.length ∧ (∀ piece ∈ ps, piece ≠ []) ∧ ps.flatten = (fragmenting codec nalu).data := by
  have hLen := fuHeaderLen_le codec
  have hPos : 0 < mtu - RTP_FIXED_HEADER_LEN - fuHeaderLen codec := by omega
  have hMore : mtu - RTP_FIXED_HEADER_LEN - fuHeaderLen codec <
      (fragmenting codec nalu).data.length := by
    cases codec
    · simp only [fragmenting, fuHeaderLen, List.length_drop]
      omega
    · simp only [fragmenting, fuHeaderLen, List.length_drop]
      omega
  exact ⟨two_le_length_pieces hPos hMore,
    fun piece => piece_ne_nil hPos (List.ne_nil_of_length_pos (by omega)), flatten_pieces hPos _⟩

/-- Each packet of a NAL unit is unpacked as its arrival. -/
theorem carries_arrivals (hMtu : RTP_FIXED_HEADER_LEN + 3 < mtu) (h : IsNalu codec nalu) :
    List.Forall₂ (fun a (parcel : Parcel) => Carries codec a parcel.payload)
      (arrivals codec mtu nalu) (parcels codec mtu nalu) := by
  unfold arrivals parcels fuBytes
  dsimp only
  split
  · exact .cons (carries_whole h) .nil
  · rename_i hLong
    obtain ⟨⟨hEnd, _⟩, _⟩ := fragmenting_headers codec nalu
    obtain ⟨hStart, _⟩ := fragmenting_start codec nalu
    have hTwo := (@fragments_pieces codec _ _ hMtu hLong).1
    revert hTwo
    generalize pieces (mtu - RTP_FIXED_HEADER_LEN - fuHeaderLen codec)
      (fragmenting codec nalu).data = ps
    intro hTwo
    obtain _ | ⟨piece, _ | ⟨next, rest⟩⟩ := ps
    · simp at hTwo
    · simp at hTwo
    · refine .cons (fun unpacker hDonl => ?_) (carries_rest codec nalu (next :: rest))
      rw [unpackPayload_fragment codec nalu _ _ unpacker hDonl, nalHeader_first codec (by omega),
        fragment_first hStart hEnd]

/-- The fragments of a NAL unit carry it, and none of them carries nothing. -/
theorem fuBytes_spec (hMtu : RTP_FIXED_HEADER_LEN + 3 < mtu)
    (h : ¬nalu.length + RTP_FIXED_HEADER_LEN ≤ mtu) :
    2 ≤ (fuBytes codec mtu nalu).length ∧ (∀ bytes ∈ fuBytes codec mtu nalu, bytes ≠ []) ∧
      (fuBytes codec mtu nalu).flatten = nalu := by
  obtain ⟨hTwo, hNe, hFlatten⟩ := @fragments_pieces codec _ _ hMtu h
  have hData : nalu.take (fuHeaderLen codec - 1) ++ (fragmenting codec nalu).data = nalu := by
    cases codec
    · exact List.take_append_drop 1 nalu
    · exact List.take_append_drop 2 nalu
  unfold fuBytes
  revert hTwo hNe hFlatten
  generalize pieces (mtu - RTP_FIXED_HEADER_LEN - fuHeaderLen codec)
    (fragmenting codec nalu).data = ps
  intro hTwo hNe hFlatten
  obtain _ | ⟨piece, rest⟩ := ps
  · simp at hTwo
  · refine ⟨hTwo, fun bytes hMem => ?_, ?_⟩
    · rcases List.mem_cons.mp hMem with rfl | hMem
      · exact List.append_ne_nil_of_right_ne_nil _ (hNe piece (List.mem_cons_self ..))
      · exact hNe bytes (List.mem_cons_of_mem _ hMem)
    · rw [List.flatten_cons] at hFlatten
      rw [headed, List.flatten_cons, List.append_assoc, hFlatten, hData]

theorem length_fuArrivals (bs : List (List UInt8)) : (fuArrivals bs).length = bs.length := by
  induction bs with
  | nil => rfl
  | cons bytes rest ih =>
    obtain _ | ⟨next, rest⟩ := rest
    · rfl
    · exact congrArg (· + 1) ih

end Fragmented

/-! ### What an unpacker holds -/

/-- An unpacker with this buffer that has handed over these frames. -/
structure Holds (unpacker : VideoUnPacker) (buffer : List UInt8) (frames : List FrameData) :
    Prop where
  donl : unpacker.usingDonlField = false
  buffer : unpacker.fuBuffer = buffer
  frames : unpacker.onFrameHandler = some frames

/-- The frame of a NAL unit. -/
def frameOf (timestamp : UInt32) (nalu : List UInt8) : FrameData :=
  .video timestamp (ANNEXB_NALU_START_CODE ++ nalu)

theorem frameOf_injective (timestamp : UInt32) : Function.Injective (frameOf timestamp) := by
  intro nalu nalu' h
  exact List.append_cancel_left (FrameData.video.inj h).2

/-- What an arrival leaves in a buffer, and the NAL units that it completes. -/
def Arrival.step (buffer : List UInt8) : Arrival → List UInt8 × List (List UInt8)
  | .whole nalu => (buffer, [nalu])
  | .more bytes => (buffer ++ bytes, [])
  | .stop bytes => ([], [buffer ++ bytes])

/-- What arrivals one after the other leave and complete. -/
def Arrival.steps (buffer : List UInt8) : List Arrival → List UInt8 × List (List UInt8)
  | [] => (buffer, [])
  | a :: rest =>
    let later := Arrival.steps (a.step buffer).1 rest
    (later.1, (a.step buffer).2 ++ later.2)

theorem holds_take {unpacker : VideoUnPacker} {buffer : List UInt8} {frames : List FrameData}
    (h : Holds unpacker buffer frames) (a : Arrival) :
    Holds (unpacker.take a) (a.step buffer).1
      (frames ++ (a.step buffer).2.map (frameOf unpacker.timestamp)) := by
  obtain ⟨hDonl, rfl, hFrames⟩ := h
  cases a with
  | whole nalu =>
    exact ⟨hDonl, rfl, by simp [VideoUnPacker.take, VideoUnPacker.onFrame, hFrames, frameOf,
      Arrival.step]⟩
  | more bytes => exact ⟨hDonl, rfl, by simp [VideoUnPacker.take, hFrames, Arrival.step]⟩
  | stop bytes =>
    exact ⟨hDonl, rfl, by simp [VideoUnPacker.take, VideoUnPacker.onFrame, hFrames, frameOf,
      Arrival.step]⟩

theorem steps_fuArrivals {bs : List (List UInt8)} (h : bs ≠ []) (buffer : List UInt8) :
    Arrival.steps buffer (fuArrivals bs) = ([], [buffer ++ bs.flatten]) := by
  induction bs generalizing buffer with
  | nil => exact absurd rfl h
  | cons bytes rest ih =>
    obtain _ | ⟨next, rest⟩ := rest
    · simp [fuArrivals, Arrival.steps, Arrival.step]
    · rw [fuArrivals, Arrival.steps, Arrival.step, ih (List.cons_ne_nil _ _)]
      simp

/-- All the arrivals of a NAL unit complete it, and leave a buffer that was empty empty. -/
theorem steps_arrivals {codec : VideoCodecType} {mtu : Nat} {nalu : List UInt8}
    (hMtu : RTP_FIXED_HEADER_LEN + 3 < mtu) :
    Arrival.steps [] (arrivals codec mtu nalu) = ([], [nalu]) := by
  unfold arrivals
  split
  · rfl
  · rename_i hLong
    obtain ⟨hTwo, _, hFlatten⟩ := @fuBytes_spec codec _ _ hMtu hLong
    rw [steps_fuArrivals (List.ne_nil_of_length_pos (by omega)), hFlatten, List.nil_append]

/-! ### Packets -/

/-- The unpacker that has noted a packet's timestamp and sequence number. -/
def VideoUnPacker.stamped (unpacker : VideoUnPacker) (header : RtpHeader) : VideoUnPacker :=
  { unpacker with timestamp := header.timestamp, sequenceNumber := header.seqNumber }

theorem receive_packet {codec : VideoCodecType} {header : RtpHeader} (hPlain : header.Plain)
    {payload : List UInt8} {a : Arrival} (hCarries : Carries codec a payload)
    {unpacker : VideoUnPacker} (hDonl : unpacker.usingDonlField = false) :
    receive (unpack codec) unpacker (RtpPacket.carrying header payload).marshal =
      some ((unpacker.stamped header).take a) := by
  obtain ⟨r, s, hRead, hOwner, hPayload, hSeq, hTime⟩ :=
    unmarshal_marshal_carrying unpacker hPlain payload
  have hRun := hCarries (unpacker.stamped header) hDonl
  have hUnpack : unpack codec ⟨unpacker, ⟨(RtpPacket.carrying header payload).marshal⟩⟩ =
      .ok () ⟨(unpacker.stamped header).take a, s.reader⟩ := by
    cases codec
    · refine (bind_of_ok hRead).trans ?_
      rw [bind_act, hPayload, hSeq, hTime, hOwner]
      exact onOwner_ok hRun
    · refine (bind_of_ok hRead).trans ?_
      rw [bind_act, hPayload, hSeq, hTime, hOwner]
      exact onOwner_ok hRun
  unfold receive
  rw [hUnpack]

/-- A packet brings an arrival with this timestamp. -/
def Brings (codec : VideoCodecType) (timestamp : UInt32) (packet : RtpPacket) (a : Arrival) : Prop :=
  ∃ header payload, header.Plain ∧ header.timestamp = timestamp ∧
    packet = .carrying header payload ∧ Carries codec a payload

/-- The packets of parcels bring what the parcels carry. -/
theorem brings_carries {codec : VideoCodecType} {header : RtpHeader} (hPlain : header.Plain)
    {as : List Arrival} {ps : List Parcel}
    (h : List.Forall₂ (fun a (parcel : Parcel) => Carries codec a parcel.payload) as ps) :
    List.Forall₂ (Brings codec header.timestamp) (packetsOf header ps) as := by
  induction h generalizing header with
  | nil => exact .nil
  | @cons a parcel as ps hFirst _ ih =>
    exact .cons ⟨_, _, hPlain.numbered header.seqNumber parcel.marker, rfl, rfl, hFirst⟩
      (ih (hPlain.numbered (header.seqNumber + 1) header.marker))

/-- The packets of a NAL unit bring its arrivals. -/
theorem brings_arrivals {codec : VideoCodecType} {packer : VideoPacker}
    (hPlain : packer.header.Plain) {nalu : List UInt8} (h : IsNalu codec nalu) :
    List.Forall₂ (Brings codec packer.header.timestamp)
      (packetsOf packer.header (parcels codec packer.mtu nalu))
      (arrivals codec packer.mtu nalu) :=
  brings_carries hPlain (carries_arrivals packer.room h)

/-- An unpacker that is handed packets takes their arrivals. -/
theorem receiveAll_brings {codec : VideoCodecType} {timestamp : UInt32} {packets : List RtpPacket}
    {as : List Arrival} (h : List.Forall₂ (Brings codec timestamp) packets as)
    {unpacker : VideoUnPacker} {buffer : List UInt8} {frames : List FrameData}
    (hHolds : Holds unpacker buffer frames) :
    ∃ unpacker', receiveAll (unpack codec) unpacker (packets.map (·.marshal)) = some unpacker' ∧
      Holds unpacker' (Arrival.steps buffer as).1
        (frames ++ (Arrival.steps buffer as).2.map (frameOf timestamp)) := by
  induction h generalizing unpacker buffer frames with
  | nil => exact ⟨unpacker, rfl, by simpa [Arrival.steps] using hHolds⟩
  | @cons packet a packets as hFirst _ ih =>
    obtain ⟨header, payload, hPlain, rfl, rfl, hCarries⟩ := hFirst
    have hStamped : Holds (unpacker.stamped header) buffer frames :=
      ⟨hHolds.donl, hHolds.buffer, hHolds.frames⟩
    obtain ⟨unpacker', hRest, hHolds'⟩ := ih (holds_take hStamped a)
    refine ⟨unpacker', ?_, ?_⟩
    · unfold receiveAll
      rw [List.map_cons, List.foldlM_cons, receive_packet hPlain hCarries hHolds.donl]
      exact hRest
    · rw [List.append_assoc] at hHolds'
      rw [Arrival.steps, List.map_append]
      exact hHolds'

end Xiu.Rtsp.Rtp
