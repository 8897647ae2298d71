import Xiu.Bytesio.Fields
import Xiu.Rtsp.Rtp.Hostile

/-! What an RTP packet leaves in the reader that it is read from: nothing, when its header and header
extension are there, and otherwise what is left of the field that is cut short. -/

namespace Xiu.Rtsp.Rtp

open Bytesio ProofKit Bytesio.Read StreamHub

variable {τ : Type} {s : Reading τ}

/-- The widths of a header, by its first byte. -/
def headerWidths (packet : List UInt8) : List Nat :=
  [1, 1, 2, 4, 4] ++ List.replicate (packet.headD 0 &&& 0x0F).toNat 4

/-- The widths of a header extension, if the flag announces one. -/
def extensionWidths (extensionFlag : UInt8) (bytes : List UInt8) : List Nat :=
  if extensionFlag = 1 then
    [2, 2, 4 * (BytesReader.decodeU16 .bigEndian ((bytes.drop 2).take 2)).toNat]
  else []

/-- The widths of all that comes before the payload. -/
def rtpWidths (packet : List UInt8) : List Nat :=
  headerWidths packet ++
    extensionWidths (packet.headD 0 >>> 4 &&& 0x01) (packet.drop (headerLen packet))

theorem takesFields_readCsrcs (n : Nat) :
    TakesFields (RtpHeader.readCsrcs n : Read τ (List UInt32)) (List.replicate n 4) s := by
  induction n generalizing s with
  | zero => exact takesFields_pure [] s
  | succ n ih =>
    rw [List.replicate_succ]
    exact (takesFields_cursor 4 _ s).bind fun csrc s1 _ => ih.bind_pure

theorem takesFields_header :
    TakesFields (RtpHeader.unmarshal : Read τ RtpHeader) (headerWidths s.reader.buffer) s := by
  refine (takesFields_cursor 1 _ s).bind fun byte1st s1 hByte => ?_
  rw [← readU8_eq_ok hByte]
  refine (takesFields_cursor 1 _ s1).bind fun byte2nd s2 _ => ?_
  refine (takesFields_cursor 2 _ s2).bind fun seqNumber s3 _ => ?_
  refine (takesFields_cursor 4 _ s3).bind fun timestamp s4 _ => ?_
  refine (takesFields_cursor 4 _ s4).bind fun ssrc s5 _ => ?_
  exact (takesFields_readCsrcs _).bind_pure

theorem takesFields_readExtension (packet : RtpPacket) :
    TakesFields (RtpPacket.readExtension packet)
      (extensionWidths packet.header.extensionFlag s.reader.buffer) s := by
  rw [RtpPacket.readExtension, extensionWidths]
  split
  · refine (takesFields_cursor 2 _ s).bind fun profile s1 hProfile => ?_
    obtain ⟨-, rfl⟩ := cursor_eq_ok hProfile
    refine (takesFields_cursor 2 _ _).bind fun length s2 hLength => ?_
    obtain ⟨rfl, rfl⟩ := cursor_eq_ok hLength
    exact (takesFields_readBytes _ _).bind_pure
  · exact takesFields_pure packet s

/-- The header and the header extension. -/
def readHead : Read τ RtpPacket := do
  let header ← RtpHeader.unmarshal
  RtpPacket.readExtension (.new header)

theorem unmarshal_eq : (RtpPacket.unmarshal : Read τ RtpPacket) = readHead >>= RtpPacket.readPayload := by
  rw [readHead, bind_assoc]
  rfl

/-- A header that is read says what its first byte does. -/
theorem header_eq_ok {header : RtpHeader} {s' : Reading τ} (h : RtpHeader.unmarshal s = .ok header s') :
    header.extensionFlag = s.reader.buffer.headD 0 >>> 4 &&& 0x01 ∧
      s'.reader.buffer = s.reader.buffer.drop (headerLen s.reader.buffer) := by
  obtain ⟨it, ⟨packet⟩⟩ := s
  by_cases hLong : headerLen packet ≤ packet.length
  · obtain ⟨header', hRead, -, hFlag, -⟩ := @header_unmarshal_ok _ it _ hLong
    obtain ⟨rfl, rfl⟩ := EStateM.Result.ok.inj (hRead.symm.trans h)
    exact ⟨hFlag, rfl⟩
  · obtain ⟨s1, hRead⟩ := @header_unmarshal_short _ it _ (Nat.not_le.mp hLong)
    cases hRead.symm.trans h

theorem takesFields_readHead :
    TakesFields (readHead : Read τ RtpPacket) (rtpWidths s.reader.buffer) s := by
  refine takesFields_header.bind fun header s1 hHeader => ?_
  obtain ⟨hFlag, hRest⟩ := header_eq_ok hHeader
  rw [← hFlag, ← hRest]
  exact takesFields_readExtension (.new header)

/-- A payload that is read without a panic is all that is left. -/
theorem readPayload_empties {packet : RtpPacket} (h : ¬Panics (RtpPacket.readPayload packet s)) :
    (stateOf (RtpPacket.readPayload packet s)).reader = ⟨[]⟩ := by
  obtain ⟨it, ⟨body⟩⟩ := s
  by_cases hFlag : packet.header.paddingFlag = 1
  · by_cases hFits : ∃ paddingLength ∈ body.getLast?, paddingLength.toNat ≤ body.length
    · obtain ⟨paddingLength, hLast, hLe⟩ := hFits
      rw [readPayload_padded hFlag hLast hLe]
      rfl
    · exact absurd (readPayload_panic hFlag hFits) h
  · rw [readPayload_unpadded hFlag]
    rfl

/-- The datagram is a packet with all of its header, or it ends with one of the fields of the header. -/
def LeavesNothing (packet : List UInt8) : Prop :=
  (rtpWidths packet).sum ≤ packet.length ∨ EndsPart (rtpWidths packet) packet.length

theorem unmarshal_leaves_iff (h : ¬Panics (RtpPacket.unmarshal s)) :
    (stateOf (RtpPacket.unmarshal s)).reader = ⟨[]⟩ ↔ LeavesNothing s.reader.buffer := by
  rw [unmarshal_eq] at h ⊢
  by_cases hShort : s.reader.buffer.length < (rtpWidths s.reader.buffer).sum
  · have hHead := takesFields_readHead.short hShort
    rw [bind_of_error hHead, LeavesNothing, or_iff_right (Nat.not_le.mpr hShort), ← leftOf_eq_nil_iff,
      stateOf, BytesReader.mk.injEq]
  · have hLong := Nat.not_lt.mp hShort
    obtain ⟨packet, hHead⟩ := takesFields_readHead.whole hLong
    rw [bind_of_ok hHead] at h ⊢
    exact iff_of_true (readPayload_empties h) (.inl hLong)

/-- What is done with a packet that has been read leaves the reader as it is. -/
theorem unpack_leaves_iff {f : RtpPacket → Read τ Unit}
    (hKeeps : ∀ packet s, (stateOf (f packet s)).reader = s.reader)
    (h : ¬Panics ((RtpPacket.unmarshal >>= f) s)) :
    (stateOf ((RtpPacket.unmarshal >>= f) s)).reader = ⟨[]⟩ ↔ LeavesNothing s.reader.buffer := by
  have hCalm : ¬Panics (RtpPacket.unmarshal s) := by
    rintro ⟨s', hPanics⟩
    exact h ⟨s', bind_of_error hPanics⟩
  rw [← unmarshal_leaves_iff hCalm]
  cases hRead : RtpPacket.unmarshal s with
  | ok packet s1 =>
    rw [bind_of_ok hRead, hKeeps]
    rfl
  | error e s1 =>
    rw [bind_of_error hRead]
    rfl

theorem onOwner_reader {α : Type} (x : EStateM Fault τ α) (s : Reading τ) :
    (stateOf (onOwner x s)).reader = s.reader := by
  rw [onOwner]
  cases x s.owner with
  | ok a it => rfl
  | error e it => rfl

theorem video_leaves_iff (codec : VideoCodecType) {s : Reading VideoUnPacker}
    (h : ¬Panics (unpack codec s)) :
    (stateOf (unpack codec s)).reader = ⟨[]⟩ ↔ LeavesNothing s.reader.buffer := by
  cases codec with
  | h264 => exact unpack_leaves_iff (fun _ _ => onOwner_reader _ _) h
  | h265 => exact unpack_leaves_iff (fun _ _ => onOwner_reader _ _) h

theorem aac_leaves_iff {s : Reading RtpAacUnPacker} (h : ¬Panics (RtpAacUnPacker.unpack s)) :
    (stateOf (RtpAacUnPacker.unpack s)).reader = ⟨[]⟩ ↔ LeavesNothing s.reader.buffer :=
  unpack_leaves_iff (fun _ _ => onOwner_reader _ _) h

end Xiu.Rtsp.Rtp
