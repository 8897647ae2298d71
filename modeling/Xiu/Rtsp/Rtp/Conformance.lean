import Xiu.Rtsp.Rtp.Fragments

/-! The form of what the packers send: packets no longer than the mtu with consecutive sequence
numbers, and fragments that RFC 6184 and RFC 7798 describe.  The H264 packer always keeps to it.
The H265 packer does when its sequence number does not overflow and when the FU header of a last
fragment, which it takes from other bits than the first one's, has the type all the same. -/

namespace Xiu.Rtsp.Rtp

open Bytesio ProofKit StreamHub

/-- The FU header of a fragment. -/
def fuHeaderOf (codec : VideoCodecType) (payload : List UInt8) : UInt8 :=
  payload.getD (fuHeaderLen codec - 1) 0

/-- The type field of a FU header. -/
def fuType : VideoCodecType → UInt8 → UInt8
  | .h264, fuHeader => fuHeader &&& 0x1F
  | .h265, fuHeader => fuHeader &&& 0x3F

/-- The packets are the fragments of a NAL unit: exactly the first one has the S bit, exactly the
last one the E bit, and each one carries the type of the NAL unit. -/
structure AreFragments (codec : VideoCodecType) (nalu : List UInt8) (packets : List RtpPacket) :
    Prop where
  several : 2 ≤ packets.length
  start : ∀ i packet, packets[i]? = some packet →
    (isFuStart (fuHeaderOf codec packet.payload) = true ↔ i = 0)
  stop : ∀ i packet, packets[i]? = some packet →
    (isFuEnd (fuHeaderOf codec packet.payload) = true ↔ i + 1 = packets.length)
  type : ∀ packet ∈ packets, fuType codec (fuHeaderOf codec packet.payload) = naluType codec nalu

/-- What a call of `pack_nalu` has to do for a NAL unit. -/
structure CallConforms (codec : VideoCodecType) (nalu : List UInt8) (packer packer' : VideoPacker)
    (packets : List RtpPacket) : Prop where
  sent : packer'.packets = packer.packets ++ packets
  size : ∀ packet ∈ packets, packet.marshal.length ≤ packer.mtu
  sequence : ∀ i packet, packets[i]? = some packet →
    packet.header.seqNumber = packer.header.seqNumber + UInt16.ofNat i
  next : packer'.header.seqNumber = packer.header.seqNumber + UInt16.ofNat packets.length
  single : nalu.length + RTP_FIXED_HEADER_LEN ≤ packer.mtu → packets.map (·.payload) = [nalu]
  fragments : ¬nalu.length + RTP_FIXED_HEADER_LEN ≤ packer.mtu → AreFragments codec nalu packets

/-- Calls of `pack_nalu`, one after the other, all return and do what they have to. -/
def Conforms (codec : VideoCodecType) : List (List UInt8) → VideoPacker → Prop
  | [], _ => True
  | nalu :: rest, packer => ∃ packer' packets, packNalu codec nalu packer = .ok () packer' ∧
      CallConforms codec nalu packer packer' packets ∧ Conforms codec rest packer'

/-! ### Parcels and packets by their index -/

theorem length_packetsOf (header : RtpHeader) (ps : List Parcel) :
    (packetsOf header ps).length = ps.length := by
  induction ps generalizing header with
  | nil => rfl
  | cons parcel rest ih => rw [packetsOf, List.length_cons, ih, List.length_cons]

theorem packetsOf_getElem? (header : RtpHeader) (ps : List Parcel) (i : Nat) :
    (packetsOf header ps)[i]? = ps[i]?.map fun parcel =>
      .carrying { header with
        seqNumber := header.seqNumber + UInt16.ofNat i, marker := parcel.marker }
        parcel.payload := by
  induction ps generalizing header i with
  | nil => rfl
  | cons parcel rest ih =>
    cases i with
    | zero => simp [packetsOf]
    | succ i =>
      rw [packetsOf, List.getElem?_cons_succ, List.getElem?_cons_succ, ih, Nat.add_comm i 1,
        UInt16.ofNat_add, ← UInt16.add_assoc]
      rfl

theorem length_fuParcels (f : Fragmenting) (fuHeader : UInt8) (ps : List (List UInt8)) :
    (fuParcels f fuHeader ps).length = ps.length := by
  induction ps generalizing fuHeader with
  | nil => rfl
  | cons piece rest ih =>
    obtain _ | ⟨next, rest⟩ := rest
    · rfl
    · exact congrArg (· + 1) (ih f.middle)

/-- The FU header of the fragment at an index. -/
def Fragmenting.header (f : Fragmenting) (fuHeader : UInt8) (n i : Nat) : UInt8 :=
  if i + 1 = n then f.last else if i = 0 then fuHeader else f.middle

theorem fuParcels_getElem? (f : Fragmenting) (fuHeader : UInt8) (ps : List (List UInt8)) (i : Nat) :
    ((fuParcels f fuHeader ps)[i]?.map (·.payload)) = ps[i]?.map fun piece =>
      f.fuStart ++ f.header fuHeader ps.length i :: piece := by
  induction ps generalizing fuHeader i with
  | nil => rfl
  | cons piece rest ih =>
    obtain _ | ⟨next, rest⟩ := rest
    · cases i <;> rfl
    · cases i with
      | zero => rfl
      | succ i =>
        rw [fuParcels, List.getElem?_cons_succ, List.getElem?_cons_succ, ih]
        congr 1
        funext piece
        simp only [Fragmenting.header, List.length_cons, Nat.add_right_cancel_iff,
          Nat.succ_ne_zero, if_false, ite_self]

theorem length_fuStart (codec : VideoCodecType) (nalu : List UInt8) :
    (fragmenting codec nalu).fuStart.length = fuHeaderLen codec - 1 := by
  cases codec <;> rfl

theorem fuHeaderOf_fragment (codec : VideoCodecType) (nalu : List UInt8) (fuHeader : UInt8)
    (piece : List UInt8) :
    fuHeaderOf codec ((fragmenting codec nalu).fuStart ++ fuHeader :: piece) = fuHeader := by
  unfold fuHeaderOf
  rw [← length_fuStart codec nalu]
  simp

/-! ### The FU headers -/

/-- The S bit and the type of the FU headers of a type. -/
theorem fuHeaders_start (t : UInt8) (h : t &&& 0x3F = t) :
    isFuStart (t ||| FU_START) = true ∧ isFuStart t = false ∧ isFuEnd (t ||| FU_START) = false ∧
      isFuEnd t = false ∧ (t ||| FU_START) &&& 0x3F = t ∧ (t ||| FU_START) &&& 0x1F = t &&& 0x1F := by
  revert t
  exact forall_byte (by decide +kernel)

theorem lastHeader_bits (b : UInt8) :
    isFuStart (b &&& 0x1F ||| FU_END) = false ∧ isFuEnd (b &&& 0x1F ||| FU_END) = true ∧
      (b &&& 0x1F ||| FU_END) &&& 0x1F = b &&& 0x1F ∧
      (b &&& 0x1F ||| FU_END) &&& 0x3F = b &&& 0x1F := by
  revert b
  exact forall_byte (by decide +kernel)

/-- The bits that the packer of H265 takes for the type in a last fragment are those of the type. -/
def LastTypeRight : VideoCodecType → List UInt8 → Prop
  | .h264, _ => True
  | .h265, nalu => nalu.headD 0 &&& 0x1F = naluType .h265 nalu

instance (codec : VideoCodecType) (nalu : List UInt8) : Decidable (LastTypeRight codec nalu) := by
  cases codec
  · exact instDecidableTrue
  · exact inferInstanceAs (Decidable (_ = _))

section

variable (codec : VideoCodecType) (nalu : List UInt8) {n i : Nat}

theorem header_first (h : 0 + 1 ≠ n) :
    (fragmenting codec nalu).header (fragmenting codec nalu).first n 0 =
      naluType codec nalu ||| FU_START := by
  unfold Fragmenting.header
  rw [if_neg h, if_pos rfl]
  cases codec <;> rfl

theorem header_middle (h : i + 1 ≠ n) (hi : i ≠ 0) :
    (fragmenting codec nalu).header (fragmenting codec nalu).first n i = naluType codec nalu := by
  unfold Fragmenting.header
  rw [if_neg h, if_neg hi]
  cases codec <;> rfl

theorem header_last (h : i + 1 = n) :
    (fragmenting codec nalu).header (fragmenting codec nalu).first n i =
      nalu.headD 0 &&& 0x1F ||| FU_END := by
  unfold Fragmenting.header
  rw [if_pos h]
  cases codec <;> rfl

/-- Of several fragments, the first has the S bit and the last the E bit. -/
theorem header_bits (hn : 2 ≤ n) (hi : i < n) :
    (isFuStart ((fragmenting codec nalu).header (fragmenting codec nalu).first n i) = true ↔ i = 0) ∧
      (isFuEnd ((fragmenting codec nalu).header (fragmenting codec nalu).first n i) = true ↔
        i + 1 = n) := by
  obtain ⟨hStart, hStart', hEnd, hEnd', _⟩ := fuHeaders_start _ (naluType_and codec nalu)
  obtain ⟨hLast, hLast', _⟩ := lastHeader_bits (nalu.headD 0)
  by_cases hl : i + 1 = n
  · rw [header_last codec nalu hl, hLast, hLast']
    exact ⟨iff_of_false nofun (by omega), iff_of_true rfl hl⟩
  · by_cases h0 : i = 0
    · subst h0
      rw [header_first codec nalu hl, hStart, hEnd]
      exact ⟨iff_of_true rfl rfl, iff_of_false nofun hl⟩
    · rw [header_middle codec nalu hl h0, hStart', hEnd']
      exact ⟨iff_of_false nofun h0, iff_of_false nofun hl⟩

/-- Every fragment but the last one carries the type. -/
theorem header_type (h : i + 1 ≠ n) :
    fuType codec ((fragmenting codec nalu).header (fragmenting codec nalu).first n i) =
      naluType codec nalu := by
  obtain ⟨_, _, _, _, hType, hType'⟩ := fuHeaders_start _ (naluType_and codec nalu)
  have hMask : nalu.headD 0 &&& 0x1F &&& 0x1F = nalu.headD 0 &&& 0x1F := by
    generalize nalu.headD 0 = b
    revert b
    exact forall_byte (by decide +kernel)
  by_cases h0 : i = 0
  · subst h0
    rw [header_first codec nalu h]
    cases codec
    · exact hType'.trans hMask
    · exact hType
  · rw [header_middle codec nalu h h0]
    cases codec
    · exact hMask
    · exact naluType_and .h265 nalu

/-- The last fragment carries the type when the bits that its FU header is made of are the type. -/
theorem header_type_last (h : i + 1 = n) :
    fuType codec ((fragmenting codec nalu).header (fragmenting codec nalu).first n i) =
      naluType codec nalu ↔ LastTypeRight codec nalu := by
  obtain ⟨_, _, hType, hType'⟩ := lastHeader_bits (nalu.headD 0)
  rw [header_last codec nalu h]
  cases codec
  · exact iff_of_true hType trivial
  · exact (congrArg (· = naluType .h265 nalu) hType').to_iff

end

/-! ### One NAL unit -/

section

variable {codec : VideoCodecType} {nalu : List UInt8} {mtu : Nat}

/-- The fragments of a NAL unit, with their number. -/
theorem parcels_fragments (hMtu : RTP_FIXED_HEADER_LEN + 3 < mtu)
    (h : ¬nalu.length + RTP_FIXED_HEADER_LEN ≤ mtu) :
    ∃ ps : List (List UInt8), 2 ≤ ps.length ∧
      (∀ piece ∈ ps, piece.length + RTP_FIXED_HEADER_LEN + fuHeaderLen codec ≤ mtu) ∧
      parcels codec mtu nalu =
        fuParcels (fragmenting codec nalu) (fragmenting codec nalu).first ps := by
  have hLen := fuHeaderLen_le codec
  have hPos : 0 < mtu - RTP_FIXED_HEADER_LEN - fuHeaderLen codec := by omega
  refine ⟨pieces (mtu - RTP_FIXED_HEADER_LEN - fuHeaderLen codec) (fragmenting codec nalu).data,
    two_le_length_pieces hPos ?_, fun piece hPiece => ?_, if_neg h⟩
  · cases codec
    · simp only [fragmenting, fuHeaderLen, List.length_drop]
      omega
    · simp only [fragmenting, fuHeaderLen, List.length_drop]
      omega
  · have := length_piece hPos hPiece
    omega

/-- The packets of fragments have the form of fragments exactly when the last one's type is right. -/
theorem areFragments_iff (header : RtpHeader) {ps : List (List UInt8)} (hps : 2 ≤ ps.length) :
    AreFragments codec nalu (packetsOf header
      (fuParcels (fragmenting codec nalu) (fragmenting codec nalu).first ps)) ↔
      LastTypeRight codec nalu := by
  have hLength : (packetsOf header (fuParcels (fragmenting codec nalu)
      (fragmenting codec nalu).first ps)).length = ps.length := by
    rw [length_packetsOf, length_fuParcels]
  have hHeader : ∀ i packet, (packetsOf header (fuParcels (fragmenting codec nalu)
      (fragmenting codec nalu).first ps))[i]? = some packet →
      fuHeaderOf codec packet.payload =
        (fragmenting codec nalu).header (fragmenting codec nalu).first ps.length i ∧
      i < ps.length := by
    intro i packet hPacket
    have hi : i < ps.length := hLength ▸ (List.getElem?_eq_some_iff.mp hPacket).1
    rw [packetsOf_getElem?] at hPacket
    obtain ⟨parcel, hParcel, rfl⟩ := Option.map_eq_some_iff.mp hPacket
    have hPayload := fuParcels_getElem? (fragmenting codec nalu) (fragmenting codec nalu).first ps i
    rw [hParcel, List.getElem?_eq_getElem hi, Option.map_some, Option.map_some] at hPayload
    refine ⟨?_, hi⟩
    exact (congrArg (fuHeaderOf codec) (Option.some.inj hPayload)).trans
      (fuHeaderOf_fragment codec nalu _ _)
  constructor
  · intro hFragments
    obtain ⟨packet, hPacket⟩ : ∃ packet, (packetsOf header (fuParcels (fragmenting codec nalu)
        (fragmenting codec nalu).first ps))[ps.length - 1]? = some packet :=
      ⟨_, List.getElem?_eq_getElem (by omega)⟩
    have hType := hFragments.type packet (List.mem_of_getElem? hPacket)
    rw [(hHeader _ _ hPacket).1] at hType
    exact (header_type_last codec nalu (by omega)).mp hType
  · intro hRight
    refine ⟨by omega, fun i packet hPacket => ?_, fun i packet hPacket => ?_, fun packet hMem => ?_⟩
    · obtain ⟨hEq, hi⟩ := hHeader i packet hPacket
      rw [hEq]
      exact (header_bits codec nalu hps hi).1
    · obtain ⟨hEq, hi⟩ := hHeader i packet hPacket
      rw [hEq, hLength]
      exact (header_bits codec nalu hps hi).2
    · obtain ⟨i, hPacket⟩ := List.mem_iff_getElem?.mp hMem
      rw [(hHeader i packet hPacket).1]
      by_cases hl : i + 1 = ps.length
      · exact (header_type_last codec nalu hl).mpr hRight
      · exact header_type codec nalu hl

/-- Every parcel fits a packet. -/
theorem parcels_size (hMtu : RTP_FIXED_HEADER_LEN + 3 < mtu) {parcel : Parcel}
    (h : parcel ∈ parcels codec mtu nalu) : RTP_FIXED_HEADER_LEN + parcel.payload.length ≤ mtu := by
  by_cases hFits : nalu.length + RTP_FIXED_HEADER_LEN ≤ mtu
  · rw [length_parcels_single hFits, List.mem_singleton] at h
    subst h
    show RTP_FIXED_HEADER_LEN + nalu.length ≤ mtu
    omega
  · obtain ⟨ps, _, hSize, hParcels⟩ := @parcels_fragments codec _ _ hMtu hFits
    rw [hParcels] at h
    obtain ⟨i, hParcel⟩ := List.mem_iff_getElem?.mp h
    have hPayload := fuParcels_getElem? (fragmenting codec nalu) (fragmenting codec nalu).first ps i
    rw [hParcel] at hPayload
    obtain ⟨piece, hPiece, hEq⟩ := Option.map_eq_some_iff.mp hPayload.symm
    have hPos : 1 ≤ fuHeaderLen codec := by cases codec <;> decide
    have hLe := hSize piece (List.mem_of_getElem? hPiece)
    have hLength : _ = parcel.payload.length := congrArg List.length hEq
    rw [List.length_append, List.length_cons, length_fuStart] at hLength
    omega

/-- How many packets a NAL unit takes. -/
def packetCount (codec : VideoCodecType) (mtu : Nat) (nalu : List UInt8) : Nat :=
  if nalu.length + RTP_FIXED_HEADER_LEN ≤ mtu then 1
  else
    let size := mtu - RTP_FIXED_HEADER_LEN - fuHeaderLen codec
    (nalu.length - (fuHeaderLen codec - 1) + size - 1) / size

theorem length_parcels (hMtu : RTP_FIXED_HEADER_LEN + 3 < mtu) :
    (parcels codec mtu nalu).length = packetCount codec mtu nalu := by
  unfold parcels packetCount
  split
  · rfl
  · have hLen := fuHeaderLen_le codec
    have hData : (fragmenting codec nalu).data.length = nalu.length - (fuHeaderLen codec - 1) := by
      cases codec
      · exact List.length_drop
      · exact List.length_drop
    rw [length_fuParcels, length_pieces (by omega) (List.ne_nil_of_length_pos (by omega)), hData]

/-- What a packer sends for a NAL unit conforms exactly when the last fragment's type is right. -/
theorem callConforms_iff {packer : VideoPacker} (hPlain : packer.header.Plain) :
    (∃ packets, CallConforms codec nalu packer (packer.sent (parcels codec packer.mtu nalu))
      packets) ↔ (packer.mtu < nalu.length + RTP_FIXED_HEADER_LEN → LastTypeRight codec nalu) := by
  constructor
  · rintro ⟨packets, hConforms⟩ hLong
    obtain rfl : packets = packetsOf packer.header (parcels codec packer.mtu nalu) :=
      (List.append_cancel_left hConforms.sent).symm
    obtain ⟨ps, hps, _, hParcels⟩ := @parcels_fragments codec _ _ packer.room
      (Nat.not_le.mpr hLong)
    have hFragments := hConforms.fragments (Nat.not_le.mpr hLong)
    rw [hParcels] at hFragments
    exact (areFragments_iff packer.header hps).mp hFragments
  · intro hRight
    refine ⟨packetsOf packer.header (parcels codec packer.mtu nalu), rfl, ?_, ?_, ?_, ?_, ?_⟩
    · intro packet hMem
      obtain ⟨i, hPacket⟩ := List.mem_iff_getElem?.mp hMem
      rw [packetsOf_getElem?] at hPacket
      obtain ⟨parcel, hParcel, rfl⟩ := Option.map_eq_some_iff.mp hPacket
      exact (length_marshal_carrying (hPlain.numbered _ _) _).trans_le
        (parcels_size packer.room (List.mem_of_getElem? hParcel))
    · intro i packet hPacket
      rw [packetsOf_getElem?] at hPacket
      obtain ⟨parcel, _, rfl⟩ := Option.map_eq_some_iff.mp hPacket
      rfl
    · rw [length_packetsOf]
      rfl
    · intro hFits
      rw [length_parcels_single hFits]
      rfl
    · intro hLong
      obtain ⟨ps, hps, _, hParcels⟩ := @parcels_fragments codec _ _ packer.room hLong
      rw [hParcels]
      exact (areFragments_iff packer.header hps).mpr (hRight (Nat.not_le.mp hLong))

end

/-! ### Any number of NAL units -/

theorem seqFits_add (codec : VideoCodecType) (seqNumber : UInt16) (n m : Nat) :
    SeqFits codec seqNumber (n + m) ↔
      SeqFits codec seqNumber n ∧ SeqFits codec (seqNumber + UInt16.ofNat n) m := by
  induction n generalizing seqNumber with
  | zero => simp [seqFits_zero]
  | succ n ih =>
    rw [Nat.add_right_comm, seqFits_succ, ih, seqFits_succ, Nat.add_comm n 1, UInt16.ofNat_add,
      ← UInt16.add_assoc, and_assoc]
    rfl

theorem plain_sent {packer : VideoPacker} (hPlain : packer.header.Plain) (ps : List Parcel) :
    (packer.sent ps).header.Plain := hPlain.numbered _ _

/-- Exactly when the packets of NAL units conform: the sequence number of the H265 packer does not
overflow, and each NAL unit that it cuts up has a type whose last fragment shows it. -/
theorem conforms_iff_of_plain {codec : VideoCodecType} {nalus : List (List UInt8)}
    {packer : VideoPacker} (hPlain : packer.header.Plain) :
    Conforms codec nalus packer ↔
      SeqFits codec packer.header.seqNumber (nalus.map (packetCount codec packer.mtu)).sum ∧
      ∀ nalu ∈ nalus, packer.mtu < nalu.length + RTP_FIXED_HEADER_LEN → LastTypeRight codec nalu := by
  induction nalus generalizing packer with
  | nil => exact iff_of_true trivial ⟨seqFits_zero .., nofun⟩
  | cons nalu rest ih =>
    rw [Conforms, List.map_cons, List.sum_cons, seqFits_add, List.forall_mem_cons,
      ← length_parcels packer.room]
    by_cases hSeq : SeqFits codec packer.header.seqNumber
        (parcels codec packer.mtu nalu).length
    · have hPack := packNalu_ok hSeq
      have hRest := @ih (packer.sent (parcels codec packer.mtu nalu))
        (plain_sent hPlain _)
      have hCall := @callConforms_iff codec nalu _ hPlain
      constructor
      · rintro ⟨packer', packets, hPack', hConforms, hMore⟩
        obtain ⟨_, rfl⟩ := EStateM.Result.ok.inj (hPack.symm.trans hPack')
        obtain ⟨hFits, hTypes⟩ := hRest.mp hMore
        exact ⟨⟨hSeq, hFits⟩, hCall.mp ⟨packets, hConforms⟩, hTypes⟩
      · rintro ⟨⟨_, hFits⟩, hType, hTypes⟩
        obtain ⟨packets, hConforms⟩ := hCall.mpr hType
        exact ⟨_, packets, hPack, hConforms, hRest.mpr ⟨hFits, hTypes⟩⟩
    · refine iff_of_false ?_ (fun h => hSeq h.1.1)
      rintro ⟨packer', packets, hPack, _⟩
      obtain ⟨packer'', hPanic⟩ := packNalu_panic hSeq
      exact nomatch hPack.symm.trans hPanic

theorem plain_new (payloadType : UInt8) (ssrc : UInt32) (initSeq : UInt16) (mtu : Nat)
    (room : RTP_FIXED_HEADER_LEN + 3 < mtu) :
    (VideoPacker.new payloadType ssrc initSeq mtu room).header.Plain := ⟨rfl, rfl, rfl, rfl, rfl⟩

/-- A packet of at least 32 bytes has room for a fragment. -/
theorem room_of_mtu {mtu : Nat} (hMtu : 32 ≤ mtu) : RTP_FIXED_HEADER_LEN + 3 < mtu := by
  rw [RTP_FIXED_HEADER_LEN]
  omega

/-- The packets of any NAL units, from any initial sequence number, conform exactly when the H265
packer's sequence number does not overflow and the types of its last fragments are right. -/
theorem conforms_iff (codec : VideoCodecType) (payloadType : UInt8) (ssrc : UInt32)
    (initSeq : UInt16) (mtu : Nat) (hMtu : 32 ≤ mtu) (nalus : List (List UInt8)) :
    Conforms codec nalus (.new payloadType ssrc initSeq mtu (room_of_mtu hMtu)) ↔
      SeqFits codec initSeq (nalus.map (packetCount codec mtu)).sum ∧
      ∀ nalu ∈ nalus, mtu < nalu.length + RTP_FIXED_HEADER_LEN → LastTypeRight codec nalu :=
  conforms_iff_of_plain (plain_new ..)

/-- Two NAL units of H264, one of which is cut up. -/
theorem conforms_iff_h264 : 32 ≤ 32 ∧
    Conforms .h264 [[0x67, 0x42], 0x65 :: List.replicate 40 1]
      (.new 96 1 0xFFFF 32 (by decide)) :=
  ⟨le_rfl, (conforms_iff .h264 96 1 0xFFFF 32 le_rfl _).mpr ⟨trivial, fun _ _ _ => trivial⟩⟩

/-- The last fragment of a NAL unit of type 19 carries type 6, and one packet too many for the
sequence number panics. -/
theorem lastFragment_mistyped :
    ¬Conforms .h265 [0x26 :: List.replicate 40 1] (.new 96 1 0 32 (by decide)) ∧
    ¬Conforms .h265 [[0x26, 1, 7]] (.new 96 1 0xFFFF 32 (by decide)) := by
  constructor
  · rw [conforms_iff_of_plain (plain_new ..)]
    intro h
    exact absurd (h.2 _ (List.mem_singleton_self _) (by decide)) (by decide)
  · rw [conforms_iff_of_plain (plain_new ..)]
    intro h
    exact absurd h.1 (by decide)

end Xiu.Rtsp.Rtp
