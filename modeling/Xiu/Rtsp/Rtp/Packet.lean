import Xiu.Bytesio.Reading
import Xiu.Bytesio.Writer

/-! The RTP packet of `protocol/rtsp/src/rtp`: the constants, the header and the packet with how
they are read and written. -/

namespace Xiu.Rtsp.Rtp

open Bytesio ProofKit Bytesio.Read

def ANNEXB_NALU_START_CODE : List UInt8 := [0, 0, 0, 1]

def STAP_A : UInt8 := 24
def STAP_B : UInt8 := 25
def MTAP_16 : UInt8 := 26
def MTAP_24 : UInt8 := 27
def FU_A : UInt8 := 28
def FU_B : UInt8 := 29

/-- The aggregation packet of H265. -/
def AP : UInt8 := 48
/-- The fragmentation unit of H265. -/
def FU : UInt8 := 49
def PACI : UInt8 := 50

def FU_START : UInt8 := 0x80
def FU_END : UInt8 := 0x40

def RTP_FIXED_HEADER_LEN : Nat := 12

def isFuStart (fuHeader : UInt8) : Bool := fuHeader &&& FU_START > 0

def isFuEnd (fuHeader : UInt8) : Bool := fuHeader &&& FU_END > 0

structure RtpHeader where
  version : UInt8
  paddingFlag : UInt8
  extensionFlag : UInt8
  cc : UInt8
  marker : UInt8
  payloadType : UInt8
  seqNumber : UInt16
  timestamp : UInt32
  ssrc : UInt32
  csrcs : List UInt32
  deriving DecidableEq

namespace RtpHeader

variable {τ : Type}

/-- The loop that reads `cc` contributing sources. -/
def readCsrcs : Nat → Read τ (List UInt32)
  | 0 => pure []
  | n + 1 => do
    let csrc ← readU32 .bigEndian
    let csrcs ← readCsrcs n
    pure (csrc :: csrcs)

def unmarshal : Read τ RtpHeader := do
  let byte1st ← readU8
  let byte2nd ← readU8
  let seqNumber ← readU16 .bigEndian
  let timestamp ← readU32 .bigEndian
  let ssrc ← readU32 .bigEndian
  let csrcs ← readCsrcs (byte1st &&& 0x0F).toNat
  pure
    { version := byte1st >>> 6
      paddingFlag := byte1st >>> 5 &&& 0x01
      extensionFlag := byte1st >>> 4 &&& 0x01
      cc := byte1st &&& 0x0F
      marker := byte2nd >>> 7
      payloadType := byte2nd &&& 0x7F
      seqNumber, timestamp, ssrc, csrcs }

def marshal (header : RtpHeader) : List UInt8 :=
  let byte1st := header.version <<< 6 ||| header.paddingFlag <<< 5 |||
    header.extensionFlag <<< 4 ||| header.cc &&& 0x0F
  let byte2nd := header.marker <<< 7 ||| header.payloadType
  let writer := (⟨[]⟩ : BytesWriter).writeU8 byte1st |>.writeU8 byte2nd
    |>.writeU16 .bigEndian header.seqNumber
    |>.writeU32 .bigEndian header.timestamp
    |>.writeU32 .bigEndian header.ssrc
  (header.csrcs.foldl (fun writer csrc => writer.writeU32 .bigEndian csrc) writer).bytes

end RtpHeader

structure RtpPacket where
  header : RtpHeader
  headerExtensionProfile : UInt16
  headerExtensionLength : UInt16
  headerExtensionPayload : List UInt8
  payload : List UInt8
  padding : List UInt8
  deriving DecidableEq

namespace RtpPacket

variable {τ : Type}

def new (header : RtpHeader) : RtpPacket where
  header := header
  headerExtensionProfile := 0
  headerExtensionLength := 0
  headerExtensionPayload := []
  payload := []
  padding := []

/-- A new packet that a payload has been put into. -/
def carrying (header : RtpHeader) (payload : List UInt8) : RtpPacket :=
  { new header with payload }

def readExtension (packet : RtpPacket) : Read τ RtpPacket :=
  if packet.header.extensionFlag = 1 then do
    let profile ← readU16 .bigEndian
    let length ← readU16 .bigEndian
    let extension ← readBytes (4 * length.toNat)
    pure { packet with headerExtensionProfile := profile, headerExtensionLength := length,
                       headerExtensionPayload := extension }
  else pure packet

def readPayload (packet : RtpPacket) : Read τ RtpPacket :=
  if packet.header.paddingFlag = 1 then do
    let last ← sub (← len) 1
    let paddingLength ← getAt last
    let payloadLength ← sub (← len) paddingLength.toNat
    let payload ← readBytes payloadLength
    let padding ← readBytes paddingLength.toNat
    pure { packet with payload, padding }
  else do
    let payload ← extractRemainingBytes
    pure { packet with payload }

def unmarshal : Read τ RtpPacket := do
  let header ← RtpHeader.unmarshal
  let packet ← readExtension (new header)
  readPayload packet

def marshal (packet : RtpPacket) : List UInt8 :=
  let writer := (⟨[]⟩ : BytesWriter).write packet.header.marshal
  let writer :=
    if packet.header.extensionFlag = 1 then
      writer.writeU16 .bigEndian packet.headerExtensionProfile
        |>.writeU16 .bigEndian packet.headerExtensionLength
        |>.write packet.headerExtensionPayload
    else writer
  let writer := writer.write packet.payload
  let writer := if packet.header.paddingFlag = 1 then writer.write packet.padding else writer
  writer.bytes

end RtpPacket

/-! ### Reading a packet -/

variable {τ : Type}

theorem readCsrcs_ok (n : Nat) {it : τ} {buffer : List UInt8} (h : 4 * n ≤ buffer.length) :
    ∃ csrcs, RtpHeader.readCsrcs n (⟨it, ⟨buffer⟩⟩ : Reading τ) =
      .ok csrcs ⟨it, ⟨buffer.drop (4 * n)⟩⟩ := by
  induction n generalizing buffer with
  | zero => exact ⟨[], rfl⟩
  | succ n ih =>
    obtain ⟨csrcs, hRead⟩ := @ih (buffer.drop 4) (by simp; omega)
    refine ⟨BytesReader.decodeU32 .bigEndian (buffer.take 4) :: csrcs, ?_⟩
    rw [RtpHeader.readCsrcs, bind_of_ok (readU32_ok (by omega)), bind_of_ok hRead,
      List.drop_drop, Nat.mul_succ, Nat.add_comm]
    rfl

theorem readCsrcs_short (n : Nat) {it : τ} {buffer : List UInt8} (h : buffer.length < 4 * n) :
    ∃ s, RtpHeader.readCsrcs n (⟨it, ⟨buffer⟩⟩ : Reading τ) =
      .error (.bytesReadError .notEnoughBytes) s := by
  induction n generalizing buffer with
  | zero => omega
  | succ n ih =>
    rw [RtpHeader.readCsrcs]
    by_cases hFour : buffer.length < 4
    · exact ⟨_, bind_of_error (readU32_short hFour)⟩
    · obtain ⟨s, hRead⟩ := @ih (buffer.drop 4) (by simp; omega)
      exact ⟨s, (bind_of_ok (readU32_ok (by omega))).trans (bind_of_error hRead)⟩

/-- How long the header is that starts with these flags. -/
def headerLen (packet : List UInt8) : Nat :=
  RTP_FIXED_HEADER_LEN + 4 * (packet.headD 0 &&& 0x0F).toNat

theorem header_unmarshal_short {it : τ} {packet : List UInt8}
    (h : packet.length < headerLen packet) :
    ∃ s, RtpHeader.unmarshal (⟨it, ⟨packet⟩⟩ : Reading τ) =
      .error (.bytesReadError .notEnoughBytes) s := by
  unfold RtpHeader.unmarshal
  obtain _ | ⟨b, packet⟩ := packet
  · exact ⟨_, bind_of_error readU8_nil⟩
  rw [bind_of_ok (readU8_cons b)]
  obtain _ | ⟨b', packet⟩ := packet
  · exact ⟨_, bind_of_error readU8_nil⟩
  rw [bind_of_ok (readU8_cons b')]
  by_cases hSeq : packet.length < 2
  · exact ⟨_, bind_of_error (readU16_short hSeq)⟩
  rw [bind_of_ok (readU16_ok (by omega))]
  by_cases hTs : (packet.drop 2).length < 4
  · exact ⟨_, bind_of_error (readU32_short hTs)⟩
  rw [bind_of_ok (readU32_ok (by omega)), List.drop_drop]
  by_cases hSsrc : (packet.drop (2 + 4)).length < 4
  · exact ⟨_, bind_of_error (readU32_short hSsrc)⟩
  rw [bind_of_ok (readU32_ok (by omega)), List.drop_drop]
  obtain ⟨s, hRead⟩ := @readCsrcs_short _ (b &&& 0x0F).toNat it
    (packet.drop (2 + 4 + 4)) (by
      simp only [headerLen, RTP_FIXED_HEADER_LEN, List.length_cons, List.headD_cons] at h
      rw [List.length_drop] at hSsrc ⊢
      omega)
  exact ⟨s, bind_of_error hRead⟩

theorem header_unmarshal_ok {it : τ} {packet : List UInt8}
    (h : headerLen packet ≤ packet.length) :
    ∃ header, RtpHeader.unmarshal (⟨it, ⟨packet⟩⟩ : Reading τ) =
        .ok header ⟨it, ⟨packet.drop (headerLen packet)⟩⟩ ∧
      header.paddingFlag = packet.headD 0 >>> 5 &&& 0x01 ∧
      header.extensionFlag = packet.headD 0 >>> 4 &&& 0x01 ∧
      header.seqNumber = BytesReader.decodeU16 .bigEndian ((packet.drop 2).take 2) ∧
      header.timestamp = BytesReader.decodeU32 .bigEndian ((packet.drop 4).take 4) := by
  unfold headerLen RTP_FIXED_HEADER_LEN at h ⊢
  obtain _ | ⟨b, _ | ⟨b', packet⟩⟩ := packet
  · simp at h
  · simp at h; omega
  simp only [List.length_cons, List.headD_cons] at h ⊢
  obtain ⟨csrcs, hRead⟩ := @readCsrcs_ok _ (b &&& 0x0F).toNat it (packet.drop (2 + 4 + 4))
    (by rw [List.length_drop]; omega)
  have hDrop : (b :: b' :: packet).drop (12 + 4 * (b &&& 0x0F).toNat) =
      packet.drop (2 + 4 + 4 + 4 * (b &&& 0x0F).toNat) := by
    rw [show 12 + 4 * (b &&& 0x0F).toNat = 2 + 4 + 4 + 4 * (b &&& 0x0F).toNat + 1 + 1 by omega]
    rfl
  refine ⟨?header, ?read, ?fields⟩
  case read =>
    unfold RtpHeader.unmarshal
    rw [bind_of_ok (readU8_cons b), bind_of_ok (readU8_cons b'),
      bind_of_ok (readU16_ok (by omega)),
      bind_of_ok (readU32_ok (by rw [List.length_drop]; omega)), List.drop_drop,
      bind_of_ok (readU32_ok (by rw [List.length_drop]; omega)), List.drop_drop,
      bind_of_ok hRead, List.drop_drop, pure_apply, hDrop]
  case fields => exact ⟨rfl, rfl, rfl, rfl⟩

/-- What follows the header and its extension in the bytes of a packet, if these are complete. -/
def rtpBody (packet : List UInt8) : Option (List UInt8) :=
  if packet.length < headerLen packet then none
  else if packet.headD 0 >>> 4 &&& 0x01 = 1 then
    match packet.drop (headerLen packet) with
    | _ :: _ :: hi :: lo :: rest =>
      let length := 4 * (ofU16 hi lo).toNat
      if rest.length < length then none else some (rest.drop length)
    | _ => none
  else some (packet.drop (headerLen packet))

theorem readExtension_error {it : τ} {packet : RtpPacket} {buffer : List UInt8}
    (hFlag : packet.header.extensionFlag = 1)
    (h : buffer.length < 4 ∨ ∃ a b hi lo rest, buffer = a :: b :: hi :: lo :: rest ∧
      rest.length < 4 * (ofU16 hi lo).toNat) :
    ∃ s, RtpPacket.readExtension packet (⟨it, ⟨buffer⟩⟩ : Reading τ) =
      .error (.bytesReadError .notEnoughBytes) s := by
  unfold RtpPacket.readExtension
  rw [if_pos hFlag]
  rcases h with h | ⟨a, b, hi, lo, rest, rfl, h⟩
  · by_cases hTwo : buffer.length < 2
    · exact ⟨_, bind_of_error (readU16_short hTwo)⟩
    · rw [bind_of_ok (readU16_ok (by omega))]
      exact ⟨_, bind_of_error (readU16_short (by rw [List.length_drop]; omega))⟩
  · rw [bind_of_ok (readU16_cons a b), bind_of_ok (readU16_cons hi lo)]
    exact ⟨_, bind_of_error (readBytes_short h)⟩

theorem readExtension_ok {it : τ} {packet : RtpPacket} {a b hi lo : UInt8} {rest : List UInt8}
    (hFlag : packet.header.extensionFlag = 1) (h : 4 * (ofU16 hi lo).toNat ≤ rest.length) :
    ∃ read : RtpPacket, read.header = packet.header ∧
      RtpPacket.readExtension packet (⟨it, ⟨a :: b :: hi :: lo :: rest⟩⟩ : Reading τ) =
        .ok read ⟨it, ⟨rest.drop (4 * (ofU16 hi lo).toNat)⟩⟩ := by
  refine ⟨{ packet with
    headerExtensionProfile := ofU16 a b
    headerExtensionLength := ofU16 hi lo
    headerExtensionPayload := rest.take (4 * (ofU16 hi lo).toNat) }, rfl, ?_⟩
  unfold RtpPacket.readExtension
  rw [if_pos hFlag, bind_of_ok (readU16_cons a b), bind_of_ok (readU16_cons hi lo),
    bind_of_ok (readBytes_ok h), pure_apply]

/-- A packet whose header or header extension is cut short is reported as such. -/
theorem unmarshal_short {it : τ} {packet : List UInt8} (h : rtpBody packet = none) :
    ∃ s, RtpPacket.unmarshal (⟨it, ⟨packet⟩⟩ : Reading τ) =
      .error (.bytesReadError .notEnoughBytes) s := by
  unfold RtpPacket.unmarshal
  by_cases hHeader : packet.length < headerLen packet
  · obtain ⟨s, hRead⟩ := @header_unmarshal_short _ it _ hHeader
    exact ⟨s, bind_of_error hRead⟩
  obtain ⟨header, hRead, _, hFlag, _⟩ := @header_unmarshal_ok _ it _ (Nat.not_lt.mp hHeader)
  rw [bind_of_ok hRead]
  unfold rtpBody at h
  rw [if_neg hHeader, ← hFlag] at h
  split at h
  · rename_i hExtension
    obtain ⟨s, hError⟩ := @readExtension_error _ it (.new header) (packet.drop (headerLen packet))
      hExtension (by
        revert h
        generalize packet.drop (headerLen packet) = buffer
        intro h
        split at h
        · rename_i a b hi lo rest
          dsimp only at h
          split at h
          · exact .inr ⟨a, b, hi, lo, rest, rfl, ‹_›⟩
          · cases h
        · rename_i hFour
          left
          rcases buffer with _ | ⟨a, _ | ⟨b, _ | ⟨hi, _ | ⟨lo, rest⟩⟩⟩⟩
          · simp
          · simp
          · simp
          · simp
          · exact absurd rfl (hFour a b hi lo rest))
    exact ⟨s, bind_of_error hError⟩
  · cases h

/-- A packet with a complete header and header extension is read up to its body. -/
theorem unmarshal_body {it : τ} {packet body : List UInt8} (h : rtpBody packet = some body) :
    ∃ read : RtpPacket, RtpPacket.unmarshal (⟨it, ⟨packet⟩⟩ : Reading τ) =
        RtpPacket.readPayload read ⟨it, ⟨body⟩⟩ ∧
      read.header.paddingFlag = packet.headD 0 >>> 5 &&& 0x01 ∧
      read.header.seqNumber = BytesReader.decodeU16 .bigEndian ((packet.drop 2).take 2) ∧
      read.header.timestamp = BytesReader.decodeU32 .bigEndian ((packet.drop 4).take 4) := by
  unfold rtpBody at h
  split at h
  · cases h
  rename_i hHeader
  obtain ⟨header, hRead, hPadding, hFlag, hRest⟩ :=
    @header_unmarshal_ok _ it _ (Nat.not_lt.mp hHeader)
  unfold RtpPacket.unmarshal
  rw [bind_of_ok hRead]
  rw [← hFlag] at h
  split at h
  · rename_i hExtension
    split at h
    · rename_i a b hi lo rest hDrop
      dsimp only at h
      split at h
      · cases h
      · rename_i hLength
        obtain rfl := Option.some.inj h
        obtain ⟨read, hHeader', hRead'⟩ := @readExtension_ok _ it (.new header) a b _ _ _
          hExtension (Nat.not_lt.mp hLength)
        refine ⟨read, ?_, hHeader' ▸ hPadding, hHeader' ▸ hRest⟩
        rw [hDrop]
        exact bind_of_ok hRead'
    · cases h
  · rename_i hExtension
    obtain rfl := Option.some.inj h
    refine ⟨.new header, ?_, hPadding, hRest⟩
    unfold RtpPacket.readExtension
    exact bind_of_ok (congrFun (if_neg hExtension) _)

/-! ### The payload -/

/-- A padding that a packet's flag announces has its length in the last byte, and fits. -/
def PaddingFits (packet : List UInt8) : Prop :=
  ∀ body, rtpBody packet = some body → packet.headD 0 >>> 5 &&& 0x01 = 1 →
    ∃ paddingLength ∈ body.getLast?, paddingLength.toNat ≤ body.length

/-- The payload in the bytes of a packet. -/
def rtpPayload (packet : List UInt8) : Option (List UInt8) :=
  (rtpBody packet).map fun body =>
    if packet.headD 0 >>> 5 &&& 0x01 = 1 then
      body.take (body.length - (body.getLastD 0).toNat)
    else body

/-- A payload is read up to the padding that the last byte counts. -/
theorem readPayload_padded {it : τ} {packet : RtpPacket} {body : List UInt8} {paddingLength : UInt8}
    (hFlag : packet.header.paddingFlag = 1) (hLast : paddingLength ∈ body.getLast?)
    (hFits : paddingLength.toNat ≤ body.length) :
    RtpPacket.readPayload packet (⟨it, ⟨body⟩⟩ : Reading τ) =
      .ok { packet with
        payload := body.take (body.length - paddingLength.toNat)
        padding := body.drop (body.length - paddingLength.toNat) } ⟨it, ⟨[]⟩⟩ := by
  have hNe : body ≠ [] := by rintro rfl; cases hLast
  have hPos : 1 ≤ body.length := List.length_pos_iff.mpr hNe
  have hGet : getAt (body.length - 1) (⟨it, ⟨body⟩⟩ : Reading τ) =
      .ok paddingLength ⟨it, ⟨body⟩⟩ := by
    unfold getAt
    rw [← List.getLast?_eq_getElem?, hLast]
  have hRest : (body.drop (body.length - paddingLength.toNat)).length = paddingLength.toNat := by
    rw [List.length_drop]
    omega
  rw [RtpPacket.readPayload, if_pos hFlag, bind_len, BytesReader.len, sub_ok hPos,
    bind_of_ok pure_apply, bind_of_ok hGet, bind_len, BytesReader.len, sub_ok hFits,
    bind_of_ok pure_apply, bind_of_ok (readBytes_ok (Nat.sub_le ..)),
    bind_of_ok (readBytes_ok hRest.ge), pure_apply, List.take_of_length_le hRest.le,
    List.drop_of_length_le hRest.le]

theorem readPayload_unpadded {it : τ} {packet : RtpPacket} {body : List UInt8}
    (hFlag : packet.header.paddingFlag ≠ 1) :
    RtpPacket.readPayload packet (⟨it, ⟨body⟩⟩ : Reading τ) =
      .ok { packet with payload := body } ⟨it, ⟨[]⟩⟩ := by
  rw [RtpPacket.readPayload, if_neg hFlag, bind_of_ok extractRemainingBytes_apply, pure_apply]

theorem readPayload_ok {it : τ} {packet : RtpPacket} {body : List UInt8}
    (h : packet.header.paddingFlag = 1 →
      ∃ paddingLength ∈ body.getLast?, paddingLength.toNat ≤ body.length) :
    ∃ read : RtpPacket, ∃ s, RtpPacket.readPayload packet (⟨it, ⟨body⟩⟩ : Reading τ) = .ok read s ∧
      s.owner = it ∧ read.header = packet.header ∧
      read.payload = if packet.header.paddingFlag = 1 then
        body.take (body.length - (body.getLastD 0).toNat) else body := by
  by_cases hFlag : packet.header.paddingFlag = 1
  · obtain ⟨paddingLength, hLast, hFits⟩ := h hFlag
    have hLastD : body.getLastD 0 = paddingLength := by
      rw [List.getLastD_eq_getLast?, hLast]; rfl
    refine ⟨_, _, readPayload_padded hFlag hLast hFits, rfl, rfl, ?_⟩
    rw [if_pos hFlag, hLastD]
  · exact ⟨_, _, readPayload_unpadded hFlag, rfl, rfl, (if_neg hFlag).symm⟩

theorem readPayload_panic {it : τ} {packet : RtpPacket} {body : List UInt8}
    (hFlag : packet.header.paddingFlag = 1)
    (h : ¬∃ paddingLength ∈ body.getLast?, paddingLength.toNat ≤ body.length) :
    ∃ s, RtpPacket.readPayload packet (⟨it, ⟨body⟩⟩ : Reading τ) = .error .panic s := by
  unfold RtpPacket.readPayload
  rw [if_pos hFlag, bind_len, BytesReader.len]
  obtain rfl | ⟨init, last, hBody⟩ := List.eq_nil_or_concat body
  · exact ⟨_, bind_of_error rfl⟩
  · obtain rfl := hBody.trans List.concat_eq_append
    have hShort : (init ++ [last]).length < last.toNat := by
      by_contra hNot
      exact h ⟨last, by simp, Nat.not_lt.mp hNot⟩
    have hGet : getAt ((init ++ [last]).length - 1) (⟨it, ⟨init ++ [last]⟩⟩ : Reading τ) =
        .ok last ⟨it, ⟨init ++ [last]⟩⟩ := by
      simp [getAt]
    rw [sub_ok (by simp), bind_of_ok pure_apply, bind_of_ok hGet, bind_len, BytesReader.len,
      sub_panic hShort]
    exact ⟨_, bind_of_error throw_apply⟩

/-- How a packet is read: cut short, or up to its payload, or with the panic of a padding that does
not fit. -/
theorem unmarshal_cases (it : τ) (packet : List UInt8) :
    (rtpBody packet = none ∧ ∃ s, RtpPacket.unmarshal (⟨it, ⟨packet⟩⟩ : Reading τ) =
      .error (.bytesReadError .notEnoughBytes) s) ∨
    (¬PaddingFits packet ∧ ∃ s, RtpPacket.unmarshal (⟨it, ⟨packet⟩⟩ : Reading τ) =
      .error .panic s) ∨
    (PaddingFits packet ∧ ∃ (read : RtpPacket) (s : Reading τ),
      RtpPacket.unmarshal (⟨it, ⟨packet⟩⟩ : Reading τ) = .ok read s ∧ s.owner = it ∧
      rtpPayload packet = some read.payload ∧
      read.header.seqNumber = BytesReader.decodeU16 .bigEndian ((packet.drop 2).take 2) ∧
      read.header.timestamp = BytesReader.decodeU32 .bigEndian ((packet.drop 4).take 4)) := by
  cases hBody : rtpBody packet with
  | none => exact .inl ⟨rfl, unmarshal_short hBody⟩
  | some body =>
    right
    obtain ⟨read, hRead, hPadding, hHeader⟩ := @unmarshal_body _ it _ _ hBody
    rw [hRead]
    by_cases hFits : PaddingFits packet
    · right
      obtain ⟨read', s, hRead', hOwner, hHeader', hPayload⟩ := @readPayload_ok _ it read _
        fun hFlag => hFits body hBody (hPadding ▸ hFlag)
      refine ⟨hFits, read', s, hRead', hOwner, ?_, hHeader' ▸ hHeader⟩
      rw [rtpPayload, hBody, hPayload, hPadding]
      rfl
    · left
      refine ⟨hFits, ?_⟩
      unfold PaddingFits at hFits
      push Not at hFits
      obtain ⟨body', hBody', hFlag, hLast⟩ := hFits
      obtain rfl := Option.some.inj (hBody.symm.trans hBody')
      refine readPayload_panic (hPadding ▸ hFlag) ?_
      rintro ⟨paddingLength, hMem, hLe⟩
      exact absurd hLe (Nat.not_le.mpr (hLast paddingLength hMem))

/-- Exactly the packets whose padding fits are read without a panic. -/
theorem unmarshal_panics_iff {it : τ} {packet : List UInt8} :
    (∃ s, RtpPacket.unmarshal (⟨it, ⟨packet⟩⟩ : Reading τ) = .error .panic s) ↔
      ¬PaddingFits packet := by
  rcases unmarshal_cases it packet with ⟨hBody, s, h⟩ | ⟨hFits, s, h⟩ | ⟨hFits, read, s, h, _⟩
  · refine iff_of_false ?_ (not_not_intro fun body hBody' => ?_)
    · rintro ⟨s', h'⟩
      exact nomatch h.symm.trans h'
    · exact nomatch hBody.symm.trans hBody'
  · exact iff_of_true ⟨s, h⟩ hFits
  · refine iff_of_false ?_ (not_not_intro hFits)
    rintro ⟨s', h'⟩
    exact nomatch h.symm.trans h'

/-! ### A packet that is written -/

/-- A header of this server: version 2, with no padding, no extension and no contributing source. -/
structure RtpHeader.Plain (header : RtpHeader) : Prop where
  version : header.version = 2
  paddingFlag : header.paddingFlag = 0
  extensionFlag : header.extensionFlag = 0
  cc : header.cc = 0
  csrcs : header.csrcs = []

theorem RtpHeader.Plain.numbered {header : RtpHeader} (h : header.Plain) (seqNumber : UInt16)
    (marker : UInt8) : RtpHeader.Plain { header with seqNumber, marker } :=
  ⟨h.version, h.paddingFlag, h.extensionFlag, h.cc, h.csrcs⟩

/-- The bytes of a packet that such a header and a payload make. -/
theorem marshal_carrying {header : RtpHeader} (hPlain : header.Plain) (payload : List UInt8) :
    (RtpPacket.carrying header payload).marshal =
      (0x80 : UInt8) :: (header.marker <<< 7 ||| header.payloadType) ::
        (toBE 2 header.seqNumber.toNat ++ toBE 4 header.timestamp.toNat ++
          toBE 4 header.ssrc.toNat ++ payload) := by
  obtain ⟨hVersion, hPadding, hExtension, hCc, hCsrcs⟩ := hPlain
  have h0 : ¬(0 : UInt8) = 1 := by decide
  simp only [RtpPacket.marshal, RtpPacket.carrying, RtpPacket.new, RtpHeader.marshal, hVersion,
    hPadding, hExtension, hCc, hCsrcs, List.foldl_nil, BytesWriter.write, BytesWriter.writeU8, BytesWriter.writeU16,
    BytesWriter.writeU32, ByteOrder.encode, if_neg h0]
  simp only [List.nil_append, List.append_assoc, List.cons_append]
  rfl

theorem length_marshal_carrying {header : RtpHeader} (hPlain : header.Plain) (payload : List UInt8) :
    (RtpPacket.carrying header payload).marshal.length =
      RTP_FIXED_HEADER_LEN + payload.length := by
  simp [marshal_carrying hPlain, RTP_FIXED_HEADER_LEN]
  omega

theorem rtpBody_marshal_carrying {header : RtpHeader} (hPlain : header.Plain) (payload : List UInt8) :
    rtpBody (RtpPacket.carrying header payload).marshal = some payload := by
  have hLength := length_marshal_carrying hPlain payload
  rw [marshal_carrying hPlain] at hLength ⊢
  have hHeader : ∀ bytes : List UInt8, headerLen (0x80 :: bytes) = RTP_FIXED_HEADER_LEN := by
    intro bytes
    simp only [headerLen, List.headD_cons]
    decide
  unfold rtpBody
  rw [hHeader, if_neg (by omega), if_neg (by simp only [List.headD_cons]; decide)]
  have hDrop : (toBE 2 header.seqNumber.toNat ++ toBE 4 header.timestamp.toNat ++
      toBE 4 header.ssrc.toNat ++ payload).drop 10 = payload := by
    rw [List.drop_left' (by simp)]
  exact congrArg some hDrop

/-- Such a packet is read back. -/
theorem unmarshal_marshal_carrying (it : τ) {header : RtpHeader} (hPlain : header.Plain)
    (payload : List UInt8) :
    ∃ (read : RtpPacket) (s : Reading τ),
      RtpPacket.unmarshal ⟨it, ⟨(RtpPacket.carrying header payload).marshal⟩⟩ =
        .ok read s ∧ s.owner = it ∧ read.payload = payload ∧
      read.header.seqNumber = header.seqNumber ∧ read.header.timestamp = header.timestamp := by
  have hBody := rtpBody_marshal_carrying hPlain payload
  have hBytes := marshal_carrying hPlain payload
  have hFlag : ¬(RtpPacket.carrying header payload).marshal.headD 0 >>> 5 &&& 0x01 =
      1 := by
    rw [hBytes, List.headD_cons]
    decide
  rcases unmarshal_cases it (RtpPacket.carrying header payload).marshal with
    ⟨hNone, _⟩ | ⟨hFits, _⟩ | ⟨_, read, s, hRead, hOwner, hPayload, hSeq, hTime⟩
  · exact nomatch hBody.symm.trans hNone
  · exact absurd (fun _ _ h => absurd h hFlag) hFits
  · rw [rtpPayload, hBody, Option.map_some, if_neg hFlag] at hPayload
    refine ⟨read, s, hRead, hOwner, (Option.some.inj hPayload).symm, ?_, ?_⟩
    · rw [hSeq, hBytes]
      simp only [List.drop_succ_cons, List.drop_zero, List.append_assoc]
      rw [List.take_left' (by simp)]
      exact BytesReader.decodeU16_encode .bigEndian header.seqNumber
    · rw [hTime, hBytes]
      simp only [List.drop_succ_cons, List.append_assoc]
      rw [List.drop_left' (by simp), List.take_left' (by simp)]
      exact BytesReader.decodeU32_encode4 .bigEndian header.timestamp

end Xiu.Rtsp.Rtp
