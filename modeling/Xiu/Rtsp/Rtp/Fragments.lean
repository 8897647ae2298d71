import Xiu.Rtsp.Rtp.Packer

/-! What a packer sends for a NAL unit: the parcels, each of which goes into one packet.  The loops of
both packers send the fragments of one description, and a NAL unit is sent as its parcels exactly
when the sequence number does not overflow. -/

namespace Xiu.Rtsp.Rtp

open Bytesio ProofKit Bytesio.Read StreamHub

/-- What goes into one packet. -/
structure Parcel where
  marker : UInt8
  payload : List UInt8
  deriving DecidableEq

/-- How a NAL unit is cut up: the bytes before the FU header, the FU headers of the first, of a middle
and of the last fragment, and the bytes that the fragments carry. -/
structure Fragmenting where
  fuStart : List UInt8
  first : UInt8
  middle : UInt8
  last : UInt8
  data : List UInt8

/-- The fragments of pieces, the first of which has FU header `fuHeader`. -/
def fuParcels (f : Fragmenting) (fuHeader : UInt8) : List (List UInt8) → List Parcel
  | [] => []
  | [piece] => [⟨1, f.fuStart ++ f.last :: piece⟩]
  | piece :: next :: rest =>
    ⟨0, f.fuStart ++ fuHeader :: piece⟩ :: fuParcels f f.middle (next :: rest)

/-- The length of the headers of a fragment. -/
def fuHeaderLen : VideoCodecType → Nat
  | .h264 => 2
  | .h265 => 3

theorem fuHeaderLen_le (codec : VideoCodecType) : fuHeaderLen codec ≤ 3 := by
  cases codec <;> decide

/-- The type of a NAL unit. -/
def naluType : VideoCodecType → List UInt8 → UInt8
  | .h264, nalu => nalu.headD 0 &&& 0x1F
  | .h265, nalu => nalu.headD 0 >>> 1 &&& 0x3F

def fragmenting : VideoCodecType → List UInt8 → Fragmenting
  | .h264, nalu =>
    { fuStart := [nalu.headD 0 &&& 0xE0 ||| FU_A]
      first := naluType .h264 nalu ||| FU_START
      middle := naluType .h264 nalu
      last := nalu.headD 0 &&& 0x1F ||| FU_END
      data := nalu.drop 1 }
  | .h265, nalu =>
    { fuStart := [nalu.headD 0 &&& 0x81 ||| FU <<< (1 : UInt8), (nalu.drop 1).headD 0]
      first := naluType .h265 nalu ||| FU_START
      middle := naluType .h265 nalu
      last := nalu.headD 0 &&& 0x1F ||| FU_END
      data := nalu.drop 2 }

/-- What a packer sends for a NAL unit. -/
def parcels (codec : VideoCodecType) (mtu : Nat) (nalu : List UInt8) : List Parcel :=
  if nalu.length + RTP_FIXED_HEADER_LEN ≤ mtu then [⟨1, nalu⟩]
  else
    let f := fragmenting codec nalu
    fuParcels f f.first (pieces (mtu - RTP_FIXED_HEADER_LEN - fuHeaderLen codec) f.data)

/-- The packets of parcels, with consecutive sequence numbers. -/
def packetsOf (header : RtpHeader) : List Parcel → List RtpPacket
  | [] => []
  | parcel :: rest =>
    .carrying { header with marker := parcel.marker } parcel.payload ::
      packetsOf { header with seqNumber := header.seqNumber + 1 } rest

namespace VideoPacker

/-- The packer once it has sent parcels. -/
def sent (packer : VideoPacker) (parcels : List Parcel) : VideoPacker :=
  { packer with
    header := { packer.header with
      seqNumber := packer.header.seqNumber + UInt16.ofNat parcels.length }
    packets := packer.packets ++ packetsOf packer.header parcels }

/-- The packer once it has sent one parcel, its sequence number still to be advanced. -/
def send (packer : VideoPacker) (parcel : Parcel) : VideoPacker :=
  packer.onPacket (packer.packet parcel.marker parcel.payload)

theorem sent_nil (packer : VideoPacker) : packer.sent [] = packer := by
  obtain ⟨header, mtu, room, packets⟩ := packer
  simp [sent, packetsOf]

theorem sent_cons (packer : VideoPacker) (parcel : Parcel) (rest : List Parcel) :
    packer.sent (parcel :: rest) =
      VideoPacker.sent { packer.send parcel with
        header := { packer.header with seqNumber := packer.header.seqNumber + 1 } } rest := by
  simp only [sent, send, onPacket, packet, packetsOf, List.length_cons, List.append_assoc,
    List.cons_append, List.nil_append]
  congr 2
  rw [Nat.add_comm, UInt16.ofNat_add, ← UInt16.add_assoc]
  rfl

theorem sent_append (packer : VideoPacker) (some more : List Parcel) :
    packer.sent (some ++ more) = (packer.sent some).sent more := by
  induction some generalizing packer with
  | nil => rw [List.nil_append, sent_nil]
  | cons parcel rest ih => rw [List.cons_append, sent_cons, ih, ← sent_cons]

end VideoPacker

/-- Sends parcels one after the other. -/
def sendAll (advance : Advance) : List Parcel → Pack Unit
  | [] => pure ()
  | parcel :: rest => do
    modify (·.send parcel)
    nextSeqNumber advance
    sendAll advance rest

/-- The FU header after a fragment. -/
def clearStart (fuHeader : UInt8) : UInt8 :=
  if isFuStart fuHeader then fuHeader &&& 0x7F else fuHeader

/-- What a packer's loop needs of the FU headers: those before the last have no E bit, the last one
has it, and only the first one has the S bit. -/
structure Fragmenting.Headers (f : Fragmenting) : Prop where
  first : isFuEnd f.first = false ∧ clearStart f.first = f.middle
  middle : isFuEnd f.middle = false ∧ clearStart f.middle = f.middle
  last : isFuEnd f.last = true

theorem fuParcels_cons (f : Fragmenting) (fuHeader : UInt8) (piece : List UInt8)
    {rest : List (List UInt8)} (hNe : rest ≠ []) :
    fuParcels f fuHeader (piece :: rest) =
      ⟨0, f.fuStart ++ fuHeader :: piece⟩ :: fuParcels f f.middle rest := by
  obtain _ | ⟨next, rest⟩ := rest
  · exact absurd rfl hNe
  · rfl

/-- The fragmentation loop sends the fragments of what it still has. -/
theorem fuLoop_eq {f : Fragmenting} (hHeaders : f.Headers) {fuHeaderLen : Nat}
    (hLen : fuHeaderLen ≤ 3) (advance : Advance) {size : Nat} (hPos : 0 < size)
    {packer : VideoPacker} (hSize : packer.fuSize fuHeaderLen = size) {fuHeader : UInt8}
    (hHeader : isFuEnd fuHeader = false ∧ clearStart fuHeader = f.middle) {data : List UInt8}
    (hNe : data ≠ []) :
    match sendAll advance (fuParcels f fuHeader (pieces size data)) packer with
    | .ok () packer' => fuLoop f.fuStart fuHeaderLen hLen f.last advance fuHeader
        ⟨packer, ⟨data⟩⟩ = .ok () ⟨packer', ⟨[]⟩⟩
    | .error e packer' => ∃ reader, fuLoop f.fuStart fuHeaderLen hLen f.last advance fuHeader
        ⟨packer, ⟨data⟩⟩ = .error e ⟨packer', reader⟩ := by
  induction data using pieces_induct hPos generalizing packer fuHeader with
  | last data hFits =>
    have hTurn := @fuTurn_eq f.fuStart _ f.last advance hLen fuHeader packer _ hNe
    simp only [hSize, if_pos hFits, hHeaders.last, if_true, List.take_of_length_le hFits,
      List.drop_of_length_le hFits] at hTurn
    simp only [pieces_last hFits, fuParcels, sendAll, bind_modify]
    unfold VideoPacker.send
    cases hNext : nextSeqNumber advance
        (packer.onPacket (packer.packet 1 (f.fuStart ++ f.last :: data))) with
    | ok _ packer' =>
      rw [bind_of_ok hNext, pure_apply]
      rw [bind_of_ok (onOwner_ok hNext), pure_apply] at hTurn
      exact (loopM_again hTurn).trans (loopM_done (fuTurn_nil _ packer'))
    | error e packer' =>
      rw [bind_of_error hNext]
      rw [bind_of_error (onOwner_error hNext)] at hTurn
      exact ⟨_, loopM_error hTurn⟩
  | more data hMore ih =>
    have hTurn := @fuTurn_eq f.fuStart _ f.last advance hLen fuHeader packer _ hNe
    simp only [hSize, if_neg (Nat.not_le.mpr hMore), hHeader.1, Bool.false_eq_true, if_false]
      at hTurn
    rw [pieces_more hPos hMore, fuParcels_cons _ _ _ (pieces_ne_nil _ _)]
    simp only [sendAll, bind_modify]
    unfold VideoPacker.send
    cases hNext : nextSeqNumber advance
        (packer.onPacket (packer.packet 0 (f.fuStart ++ fuHeader :: data.take size))) with
    | ok _ packer' =>
      have hMtu : packer'.fuSize fuHeaderLen = size := by
        unfold nextSeqNumber at hNext
        split at hNext
        · obtain ⟨_, rfl⟩ := EStateM.Result.ok.inj hNext
          exact hSize
        · cases hNext
      rw [bind_of_ok (onOwner_ok hNext), pure_apply] at hTurn
      have hRest := ih hMtu hHeaders.middle (by
        intro hDrop
        have hLength := congrArg List.length hDrop
        rw [List.length_drop, List.length_nil] at hLength
        omega)
      have hGo : fuLoop f.fuStart fuHeaderLen hLen f.last advance fuHeader ⟨packer, ⟨data⟩⟩ =
          fuLoop f.fuStart fuHeaderLen hLen f.last advance f.middle ⟨packer', ⟨data.drop size⟩⟩ :=
        hHeader.2 ▸ loopM_again hTurn
      rw [bind_of_ok hNext, hGo]
      exact hRest
    | error e packer' =>
      rw [bind_of_error hNext]
      rw [bind_of_error (onOwner_error hNext)] at hTurn
      exact ⟨_, loopM_error hTurn⟩

/-- The sequence number does not overflow in a packer of the codec while it sends `n` packets. -/
def SeqFits : VideoCodecType → UInt16 → Nat → Prop
  | .h264, _, _ => True
  | .h265, seqNumber, n => seqNumber.toNat + n < 2 ^ 16

instance (codec : VideoCodecType) (seqNumber : UInt16) (n : Nat) :
    Decidable (SeqFits codec seqNumber n) := by
  cases codec
  · exact instDecidableTrue
  · exact inferInstanceAs (Decidable (_ < _))

def advanceOf : VideoCodecType → Advance
  | .h264 => wrappingAdd
  | .h265 => checkedAdd

theorem seqFits_zero (codec : VideoCodecType) (seqNumber : UInt16) : SeqFits codec seqNumber 0 := by
  cases codec
  · trivial
  · exact seqNumber.toNat_lt

/-- A step of the sequence number, and what it leaves for further ones. -/
theorem seqFits_succ (codec : VideoCodecType) (seqNumber : UInt16) (n : Nat) :
    SeqFits codec seqNumber (n + 1) ↔
      advanceOf codec seqNumber = some (seqNumber + 1) ∧ SeqFits codec (seqNumber + 1) n := by
  cases codec
  · exact ⟨fun _ => ⟨rfl, trivial⟩, fun _ => trivial⟩
  · have hLt := seqNumber.toNat_lt
    simp only [SeqFits, advanceOf, checkedAdd]
    by_cases hMax : seqNumber = 0xFFFF
    · subst hMax
      rw [if_pos rfl]
      exact iff_of_false (by simp; omega) (fun h => nomatch h.1)
    · have hNext : (seqNumber + 1).toNat = seqNumber.toNat + 1 := by
        have hNe : seqNumber.toNat ≠ 0xFFFF := fun h => hMax (UInt16.toNat_inj.mp h)
        rw [UInt16.toNat_add, UInt16.toNat_one]
        omega
      rw [if_neg hMax, hNext]
      simp only [true_and]
      omega

/-- An advance that fails is an overflow. -/
theorem advanceOf_cases (codec : VideoCodecType) (seqNumber : UInt16) :
    advanceOf codec seqNumber = some (seqNumber + 1) ∨ advanceOf codec seqNumber = none := by
  cases codec
  · exact .inl rfl
  · simp only [advanceOf, checkedAdd]
    split
    · exact .inr rfl
    · exact .inl rfl

theorem nextSeqNumber_ok {advance : Advance} {packer : VideoPacker} {n : UInt16}
    (h : advance packer.header.seqNumber = some n) :
    nextSeqNumber advance packer =
      .ok () { packer with header := { packer.header with seqNumber := n } } := by
  simp only [nextSeqNumber, h]

theorem nextSeqNumber_panic {advance : Advance} {packer : VideoPacker}
    (h : advance packer.header.seqNumber = none) :
    nextSeqNumber advance packer = .error .panic packer := by
  simp only [nextSeqNumber, h]

theorem sendAll_ok {codec : VideoCodecType} {packer : VideoPacker} {ps : List Parcel}
    (h : SeqFits codec packer.header.seqNumber ps.length) :
    sendAll (advanceOf codec) ps packer = .ok () (packer.sent ps) := by
  induction ps generalizing packer with
  | nil => rw [VideoPacker.sent_nil]; rfl
  | cons parcel rest ih =>
    obtain ⟨hNext, hRest⟩ := (seqFits_succ ..).mp h
    rw [sendAll, bind_modify, bind_of_ok (@nextSeqNumber_ok _ (packer.send parcel) _ hNext),
      VideoPacker.sent_cons]
    exact ih hRest

theorem sendAll_panic {codec : VideoCodecType} {packer : VideoPacker} {ps : List Parcel}
    (h : ¬SeqFits codec packer.header.seqNumber ps.length) :
    ∃ packer', sendAll (advanceOf codec) ps packer = .error .panic packer' := by
  induction ps generalizing packer with
  | nil => exact absurd (seqFits_zero ..) h
  | cons parcel rest ih =>
    rw [sendAll, bind_modify]
    rcases advanceOf_cases codec packer.header.seqNumber with hNext | hNext
    · obtain ⟨packer', hPanic⟩ := @ih { packer.send parcel with
          header := { packer.header with seqNumber := packer.header.seqNumber + 1 } }
        fun hRest => h ((seqFits_succ ..).mpr ⟨hNext, hRest⟩)
      exact ⟨packer', (bind_of_ok
        (@nextSeqNumber_ok _ (packer.send parcel) _ hNext)).trans hPanic⟩
    · exact ⟨_, bind_of_error (@nextSeqNumber_panic _ (packer.send parcel) hNext)⟩

/-! ### The packers -/

/-- The FU headers of a type, which takes at most six bits. -/
theorem fuHeaders_of_type (t : UInt8) (h : t &&& 0x3F = t) :
    (isFuEnd (t ||| FU_START) = false ∧ clearStart (t ||| FU_START) = t) ∧
      isFuEnd t = false ∧ clearStart t = t := by
  revert t
  exact forall_byte (by decide +kernel)

theorem isFuEnd_or (t : UInt8) : isFuEnd (t ||| FU_END) = true := by
  revert t
  exact forall_byte (by decide +kernel)

theorem naluType_and (codec : VideoCodecType) (nalu : List UInt8) :
    naluType codec nalu &&& 0x3F = naluType codec nalu := by
  cases codec <;> simp only [naluType] <;> generalize nalu.headD 0 = b <;> revert b
  · exact forall_byte (by decide +kernel)
  · exact forall_byte (by decide +kernel)

theorem fragmenting_headers (codec : VideoCodecType) (nalu : List UInt8) :
    (fragmenting codec nalu).Headers := by
  obtain ⟨hFirst, hMiddle⟩ := fuHeaders_of_type _ (naluType_and codec nalu)
  cases codec
  · exact ⟨hFirst, hMiddle, isFuEnd_or _⟩
  · exact ⟨hFirst, hMiddle, isFuEnd_or _⟩

/-- The bytes of a number of two bytes that is put together from them. -/
theorem encode_shift (a b : UInt8) :
    ByteOrder.bigEndian.encode 2 (a.toUInt16 <<< (8 : UInt16) ||| b.toUInt16).toNat = [a, b] := by
  have ha := a.toNat_lt
  have hb := b.toNat_lt
  rw [toNat_shift_or]
  simp only [ByteOrder.encode, toBE, toLE, List.reverse_cons, List.reverse_nil, List.nil_append,
    List.cons_append]
  rw [show (256 * a.toNat + b.toNat) / 256 = a.toNat by omega]
  congr 1
  · exact UInt8.ofNat_toNat
  · congr 1
    refine UInt8.toNat_inj.mp ?_
    rw [UInt8.toNat_ofNat']
    omega

theorem payloadHdr_eq (a b : UInt8) :
    ByteOrder.bigEndian.encode 2 ((a.toUInt16 &&& (0x81 : UInt16) ||| FU.toUInt16 <<< (1 : UInt16))
      <<< (8 : UInt16) ||| b.toUInt16).toNat = [a &&& 0x81 ||| FU <<< (1 : UInt8), b] := by
  have hFirst : a.toUInt16 &&& (0x81 : UInt16) ||| FU.toUInt16 <<< (1 : UInt16) =
      (a &&& 0x81 ||| FU <<< (1 : UInt8)).toUInt16 := by
    revert a
    exact forall_byte (by decide +kernel)
  rw [hFirst, encode_shift]

theorem packSingle_ok {codec : VideoCodecType} {packer : VideoPacker} (nalu : List UInt8)
    (h : SeqFits codec packer.header.seqNumber 1) :
    packSingle (advanceOf codec) nalu packer = .ok () (packer.sent [⟨1, nalu⟩]) := by
  obtain ⟨hNext, _⟩ := (seqFits_succ ..).mp h
  rw [packSingle, bind_get, bind_of_ok (nextSeqNumber_ok hNext)]
  rfl

theorem packSingle_panic {codec : VideoCodecType} {packer : VideoPacker} (nalu : List UInt8)
    (h : ¬SeqFits codec packer.header.seqNumber 1) :
    ∃ packer', packSingle (advanceOf codec) nalu packer = .error .panic packer' := by
  rcases advanceOf_cases codec packer.header.seqNumber with hNext | hNext
  · exact absurd ((seqFits_succ ..).mpr ⟨hNext, seqFits_zero ..⟩) h
  · rw [packSingle, bind_get]
    exact ⟨_, bind_of_error (nextSeqNumber_panic hNext)⟩

/-- The fragmentation of a NAL unit as the packer of its codec starts it. -/
def packFragments (codec : VideoCodecType) (f : Fragmenting) : Pack Unit :=
  readOver f.data (fuLoop f.fuStart (fuHeaderLen codec) (fuHeaderLen_le codec) f.last
    (advanceOf codec) f.first)

theorem packNalu_single (codec : VideoCodecType) {packer : VideoPacker} {nalu : List UInt8}
    (h : nalu.length + RTP_FIXED_HEADER_LEN ≤ packer.mtu) :
    packNalu codec nalu packer = packSingle (advanceOf codec) nalu packer := by
  cases codec
  · exact congrFun (if_pos h) packer
  · exact congrFun (if_pos h) packer

theorem packNalu_fragments (codec : VideoCodecType) {packer : VideoPacker} {nalu : List UInt8}
    (h : ¬nalu.length + RTP_FIXED_HEADER_LEN ≤ packer.mtu) :
    packNalu codec nalu packer = packFragments codec (fragmenting codec nalu) packer := by
  have hRoom := packer.room
  obtain _ | ⟨a, _ | ⟨b, data⟩⟩ := nalu
  · simp at h; omega
  · simp at h; omega
  cases codec
  · refine (congrFun (if_neg h) packer).trans ?_
    exact readOver_congr (bind_of_ok (readU8_cons a))
  · refine (congrFun (if_neg h) packer).trans ?_
    refine readOver_congr ((bind_of_ok (readU8_cons a)).trans ((bind_of_ok (readU8_cons b)).trans ?_))
    rw [payloadHdr_eq]
    rfl

/-- A NAL unit that is too long for one packet has more bytes than one fragment takes. -/
theorem fuSize_lt (codec : VideoCodecType) {packer : VideoPacker} {nalu : List UInt8}
    (h : ¬nalu.length + RTP_FIXED_HEADER_LEN ≤ packer.mtu) :
    packer.fuSize (fuHeaderLen codec) < (fragmenting codec nalu).data.length := by
  have hRoom := packer.room
  unfold VideoPacker.fuSize
  cases codec
  · simp only [fragmenting, fuHeaderLen, List.length_drop]
    omega
  · simp only [fragmenting, fuHeaderLen, List.length_drop]
    omega

theorem packFragments_eq (codec : VideoCodecType) {packer : VideoPacker} {nalu : List UInt8}
    (h : ¬nalu.length + RTP_FIXED_HEADER_LEN ≤ packer.mtu) :
    packFragments codec (fragmenting codec nalu) packer =
      sendAll (advanceOf codec) (parcels codec packer.mtu nalu) packer := by
  have hHeaders := fragmenting_headers codec nalu
  have hNe : (fragmenting codec nalu).data ≠ [] := by
    have := fuSize_lt codec h
    exact List.ne_nil_of_length_pos (by omega)
  have hLoop := fuLoop_eq hHeaders (fuHeaderLen_le codec) (advanceOf codec)
    (packer.fuSize_pos (fuHeaderLen_le codec)) rfl hHeaders.first hNe
  unfold packFragments parcels
  rw [if_neg h]
  unfold VideoPacker.fuSize at hLoop
  cases hSend : sendAll (advanceOf codec) (fuParcels (fragmenting codec nalu)
      (fragmenting codec nalu).first (pieces (packer.mtu - RTP_FIXED_HEADER_LEN - fuHeaderLen codec)
        (fragmenting codec nalu).data)) packer with
  | ok _ packer' =>
    rw [hSend] at hLoop
    exact readOver_ok hLoop
  | error e packer' =>
    rw [hSend] at hLoop
    obtain ⟨reader, hLoop⟩ := hLoop
    exact readOver_error hLoop

theorem length_parcels_single {codec : VideoCodecType} {mtu : Nat} {nalu : List UInt8}
    (h : nalu.length + RTP_FIXED_HEADER_LEN ≤ mtu) : parcels codec mtu nalu = [⟨1, nalu⟩] :=
  if_pos h

/-- A packer sends the parcels of a NAL unit, if the sequence number does not overflow. -/
theorem packNalu_ok {codec : VideoCodecType} {packer : VideoPacker} {nalu : List UInt8}
    (h : SeqFits codec packer.header.seqNumber (parcels codec packer.mtu nalu).length) :
    packNalu codec nalu packer = .ok () (packer.sent (parcels codec packer.mtu nalu)) := by
  by_cases hMtu : nalu.length + RTP_FIXED_HEADER_LEN ≤ packer.mtu
  · rw [length_parcels_single hMtu] at h ⊢
    rw [packNalu_single codec hMtu, packSingle_ok nalu h]
  · rw [packNalu_fragments codec hMtu, packFragments_eq codec hMtu, sendAll_ok h]

theorem packNalu_panic {codec : VideoCodecType} {packer : VideoPacker} {nalu : List UInt8}
    (h : ¬SeqFits codec packer.header.seqNumber (parcels codec packer.mtu nalu).length) :
    ∃ packer', packNalu codec nalu packer = .error .panic packer' := by
  by_cases hMtu : nalu.length + RTP_FIXED_HEADER_LEN ≤ packer.mtu
  · rw [length_parcels_single hMtu] at h
    rw [packNalu_single codec hMtu]
    exact packSingle_panic nalu h
  · rw [packNalu_fragments codec hMtu, packFragments_eq codec hMtu]
    exact sendAll_panic h

end Xiu.Rtsp.Rtp
