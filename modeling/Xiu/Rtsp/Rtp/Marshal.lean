import Mathlib.Data.List.Basic
import Xiu.Bytesio.Coding
import Xiu.Rtsp.Rtp.Packet

/-! RTP packets survive being written and read: reading is the inverse of writing in both directions,
for packets without parts that their flags deny. -/

namespace Xiu.Rtsp.Rtp

open Bytesio ProofKit Bytesio.Read

variable {τ : Type}

/-! ### The header -/

namespace RtpHeader

/-- The fields are within their widths, and the sources are counted. -/
structure WellFormed (header : RtpHeader) : Prop where
  version : header.version < 4
  paddingFlag : header.paddingFlag < 2
  extensionFlag : header.extensionFlag < 2
  cc : header.cc < 16
  marker : header.marker < 2
  payloadType : header.payloadType < 128
  csrcs : header.cc.toNat = header.csrcs.length

def byte1st (header : RtpHeader) : UInt8 :=
  header.version <<< 6 ||| header.paddingFlag <<< 5 ||| header.extensionFlag <<< 4 |||
    header.cc &&& 0x0F

def byte2nd (header : RtpHeader) : UInt8 := header.marker <<< 7 ||| header.payloadType

/-- A byte below a bound is one of the numbers below it. -/
theorem byte_eq {n : Nat} {b : UInt8} (h : b.toNat < n) : b = UInt8.ofNat (⟨b.toNat, h⟩ : Fin n) :=
  (UInt8.ofNat_toNat).symm

/-- The first byte holds its four fields. -/
theorem fields_byte1st {version padding extension cc : UInt8} (hVersion : version < 4)
    (hPadding : padding < 2) (hExtension : extension < 2) (hCc : cc < 16) :
    let b := version <<< 6 ||| padding <<< 5 ||| extension <<< 4 ||| cc &&& 0x0F
    b >>> 6 = version ∧ b >>> 5 &&& 0x01 = padding ∧ b >>> 4 &&& 0x01 = extension ∧
      b &&& 0x0F = cc := by
  have hAll : ∀ (v : Fin 4) (p x : Fin 2) (c : Fin 16),
      let b := UInt8.ofNat v <<< 6 ||| UInt8.ofNat p <<< 5 ||| UInt8.ofNat x <<< 4 |||
        UInt8.ofNat c &&& 0x0F
      b >>> 6 = UInt8.ofNat v ∧ b >>> 5 &&& 0x01 = UInt8.ofNat p ∧
        b >>> 4 &&& 0x01 = UInt8.ofNat x ∧ b &&& 0x0F = UInt8.ofNat c := by decide
  rw [byte_eq (UInt8.lt_iff_toNat_lt.mp hVersion), byte_eq (UInt8.lt_iff_toNat_lt.mp hPadding),
    byte_eq (UInt8.lt_iff_toNat_lt.mp hExtension), byte_eq (UInt8.lt_iff_toNat_lt.mp hCc)]
  exact hAll _ _ _ _

theorem fields_byte2nd {marker payloadType : UInt8} (hMarker : marker < 2)
    (hType : payloadType < 128) :
    (marker <<< 7 ||| payloadType) >>> 7 = marker ∧
      (marker <<< 7 ||| payloadType) &&& 0x7F = payloadType := by
  have hAll : ∀ (m : Fin 2) (t : Fin 128),
      (UInt8.ofNat m <<< 7 ||| UInt8.ofNat t) >>> 7 = UInt8.ofNat m ∧
        (UInt8.ofNat m <<< 7 ||| UInt8.ofNat t) &&& 0x7F = UInt8.ofNat t := by decide
  rw [byte_eq (UInt8.lt_iff_toNat_lt.mp hMarker), byte_eq (UInt8.lt_iff_toNat_lt.mp hType)]
  exact hAll _ _

/-- Every byte is the first byte, and the second one, of the fields that are read from it. -/
theorem byte1st_fields (b : UInt8) :
    b >>> 6 < 4 ∧ b >>> 5 &&& 0x01 < 2 ∧ b >>> 4 &&& 0x01 < 2 ∧ b &&& 0x0F < 16 ∧
      (b >>> 6) <<< 6 ||| (b >>> 5 &&& 0x01) <<< 5 ||| (b >>> 4 &&& 0x01) <<< 4 |||
        (b &&& 0x0F) &&& 0x0F = b := by
  revert b
  exact forall_byte (by decide +kernel)

theorem byte2nd_fields (b : UInt8) :
    b >>> 7 < 2 ∧ b &&& 0x7F < 128 ∧ (b >>> 7) <<< 7 ||| (b &&& 0x7F) = b := by
  revert b
  exact forall_byte (by decide +kernel)

theorem WellFormed.cc_byte1st {header : RtpHeader} (h : header.WellFormed) :
    header.byte1st &&& 0x0F = header.cc :=
  (fields_byte1st h.version h.paddingFlag h.extensionFlag h.cc).2.2.2

/-- The fields of a header are those that its two first bytes hold. -/
theorem WellFormed.eq_fields {header : RtpHeader} (h : header.WellFormed) :
    header =
      { version := header.byte1st >>> 6
        paddingFlag := header.byte1st >>> 5 &&& 0x01
        extensionFlag := header.byte1st >>> 4 &&& 0x01
        cc := header.byte1st &&& 0x0F
        marker := header.byte2nd >>> 7
        payloadType := header.byte2nd &&& 0x7F
        seqNumber := header.seqNumber
        timestamp := header.timestamp
        ssrc := header.ssrc
        csrcs := header.csrcs } := by
  obtain ⟨hVersion, hPadding, hExtension, hCc⟩ :=
    fields_byte1st h.version h.paddingFlag h.extensionFlag h.cc
  obtain ⟨hMarker, hType⟩ := fields_byte2nd h.marker h.payloadType
  simp only [byte1st, byte2nd, hVersion, hPadding, hExtension, hCc, hMarker, hType]

theorem codes_readCsrcs (n : Nat) : Codes Anything (readCsrcs n : Read τ (List UInt32))
    (fun csrcs => csrcs.flatMap fun csrc => toBE 4 csrc.toNat) (·.length = n) := by
  induction n with
  | zero =>
    apply Codes.of_encode
    · apply (codes_pure []).of_valid
      exact fun csrcs => List.length_eq_zero_iff
    · intro csrcs hLength
      rw [List.length_eq_zero_iff.mp hLength, List.flatMap_nil]
  | succ n ih =>
    apply Codes.of_encode
    · rw [readCsrcs]
      apply codes_readU32.bind (fun csrcs : List UInt32 => csrcs.headD 0) fun _ _ => trivial
      intro csrc _
      apply ih.bind List.tail
      · rintro csrcs ⟨hLength, -⟩
        rw [List.length_tail, hLength]
        rfl
      · intro rest hRest
        apply (codes_pure _).of_valid
        intro csrcs
        constructor
        · rintro ⟨⟨hLength, rfl⟩, rfl⟩
          cases csrcs with
          | nil => cases hLength
          | cons csrc csrcs => rfl
        · rintro rfl
          exact ⟨⟨congrArg (· + 1) hRest, rfl⟩, rfl⟩
    · intro csrcs hLength
      cases csrcs with
      | nil => cases hLength
      | cons csrc csrcs => simp

/-- The bytes of a header. -/
def bytes (header : RtpHeader) : List UInt8 :=
  header.byte1st :: header.byte2nd :: (toBE 2 header.seqNumber.toNat ++
    (toBE 4 header.timestamp.toNat ++ (toBE 4 header.ssrc.toNat ++
      header.csrcs.flatMap fun csrc => toBE 4 csrc.toNat)))

theorem marshal_eq (header : RtpHeader) : header.marshal = header.bytes := by
  have hCsrcs : ∀ (csrcs : List UInt32) (writer : BytesWriter),
      (csrcs.foldl (fun writer csrc => writer.writeU32 .bigEndian csrc) writer).bytes =
        writer.bytes ++ csrcs.flatMap fun csrc => toBE 4 csrc.toNat := by
    intro csrcs
    induction csrcs with
    | nil => exact fun writer => (List.append_nil _).symm
    | cons csrc csrcs ih =>
      intro writer
      rw [List.foldl_cons, ih, List.flatMap_cons, ← List.append_assoc]
      rfl
  simp only [marshal, hCsrcs]
  simp [BytesWriter.writeU8, BytesWriter.writeU16, BytesWriter.writeU32, ByteOrder.encode, bytes,
    byte1st, byte2nd]

theorem codes_unmarshal : Codes Anything (unmarshal : Read τ RtpHeader) bytes WellFormed := by
  apply Codes.of_encode
  · rw [unmarshal]
    apply codes_readU8.bind byte1st fun _ _ => trivial
    intro b1 _
    apply codes_readU8.bind byte2nd fun _ _ => trivial
    intro b2 _
    apply codes_readU16.bind seqNumber fun _ _ => trivial
    intro seq _
    apply codes_readU32.bind timestamp fun _ _ => trivial
    intro time _
    apply codes_readU32.bind ssrc fun _ _ => trivial
    intro source _
    apply (codes_readCsrcs _).bind csrcs
    · rintro header ⟨⟨⟨⟨⟨hHeader, rfl⟩, -⟩, -⟩, -⟩, -⟩
      rw [hHeader.cc_byte1st]
      exact hHeader.csrcs.symm
    · intro sources hSources
      apply (codes_pure _).of_valid
      intro header
      constructor
      · rintro ⟨⟨⟨⟨⟨⟨hHeader, rfl⟩, rfl⟩, rfl⟩, rfl⟩, rfl⟩, rfl⟩
        exact hHeader.eq_fields
      · rintro rfl
        obtain ⟨hVersion, hPadding, hExtension, hCc, hFirst⟩ := byte1st_fields b1
        obtain ⟨hMarker, hType, hSecond⟩ := byte2nd_fields b2
        exact ⟨⟨⟨⟨⟨⟨⟨hVersion, hPadding, hExtension, hCc, hMarker, hType, hSources.symm⟩, hFirst⟩,
          hSecond⟩, rfl⟩, rfl⟩, rfl⟩, rfl⟩
  · intro header hHeader
    simp [bytes]

end RtpHeader

/-! ### The packet -/

namespace RtpPacket

/-- What the flag of a header extension asks of it: its length is counted in words, and without the
flag there is none. -/
structure ExtensionFits (packet : RtpPacket) : Prop where
  present : packet.header.extensionFlag = 1 →
    packet.headerExtensionPayload.length = 4 * packet.headerExtensionLength.toNat
  absent : packet.header.extensionFlag ≠ 1 → packet.headerExtensionProfile = 0 ∧
    packet.headerExtensionLength = 0 ∧ packet.headerExtensionPayload = []

/-- What the padding flag asks: the last byte counts the padding, and without the flag there is none. -/
structure PaddingCounted (packet : RtpPacket) : Prop where
  present : packet.header.paddingFlag = 1 →
    ∃ last ∈ (packet.payload ++ packet.padding).getLast?, last.toNat = packet.padding.length
  absent : packet.header.paddingFlag ≠ 1 → packet.padding = []

/-- The packets that are read. -/
structure Readable (packet : RtpPacket) : Prop where
  header : packet.header.WellFormed
  extension : packet.ExtensionFits
  padding : packet.PaddingCounted

/-- The bytes of a header extension. -/
def extensionBytes (packet : RtpPacket) : List UInt8 :=
  if packet.header.extensionFlag = 1 then
    toBE 2 packet.headerExtensionProfile.toNat ++ (toBE 2 packet.headerExtensionLength.toNat ++
      packet.headerExtensionPayload)
  else []

def headed (packet : RtpPacket) : RtpPacket := { packet with payload := [], padding := [] }

theorem codes_readExtension (header : RtpHeader) :
    Codes Anything (readExtension (new header) : Read τ RtpPacket) extensionBytes
      fun packet => packet.ExtensionFits ∧ packet.header = header ∧ packet.headed = packet := by
  rw [readExtension]
  by_cases hFlag : header.extensionFlag = 1
  · rw [if_pos (show (new header).header.extensionFlag = 1 from hFlag)]
    apply Codes.of_encode
    · apply codes_readU16.bind headerExtensionProfile fun _ _ => trivial
      intro profile _
      apply codes_readU16.bind headerExtensionLength fun _ _ => trivial
      intro length _
      apply (codes_readBytes _).bind headerExtensionPayload
      · rintro packet ⟨⟨⟨hFits, rfl, -⟩, -⟩, rfl⟩
        exact hFits.present hFlag
      · intro extension hLength
        apply (codes_pure _).of_valid
        intro packet
        constructor
        · rintro ⟨⟨⟨⟨-, rfl, hHeaded⟩, rfl⟩, rfl⟩, rfl⟩
          exact hHeaded.symm
        · rintro rfl
          exact ⟨⟨⟨⟨⟨fun _ => hLength, fun hNot => absurd hFlag hNot⟩, rfl, rfl⟩, rfl⟩, rfl⟩, rfl⟩
    · rintro packet ⟨-, rfl, -⟩
      rw [extensionBytes, if_pos hFlag, List.append_nil]
      rfl
  · rw [if_neg (show ¬(new header).header.extensionFlag = 1 from hFlag)]
    apply Codes.of_encode
    · apply (codes_pure _).of_valid
      intro packet
      constructor
      · rintro ⟨hFits, rfl, hHeaded⟩
        obtain ⟨hProfile, hLength, hExtension⟩ := hFits.absent hFlag
        rw [← hHeaded, headed, hProfile, hLength, hExtension]
        rfl
      · rintro rfl
        exact ⟨⟨fun hYes => absurd hYes hFlag, fun _ => ⟨rfl, rfl, rfl⟩⟩, rfl, rfl⟩
    · rintro packet ⟨-, rfl, -⟩
      exact if_neg hFlag

theorem codes_readPayload {packet : RtpPacket} (hHeaded : packet.headed = packet) :
    Codes (· = []) (readPayload packet : Read τ RtpPacket)
      (fun whole => whole.payload ++ whole.padding)
      fun whole => whole.PaddingCounted ∧ whole.headed = packet where
  decodes := by
    rintro whole ⟨hPadding, rfl⟩ it tail rfl
    rw [List.append_nil]
    by_cases hFlag : whole.header.paddingFlag = 1
    · obtain ⟨last, hLast, hLength⟩ := hPadding.present hFlag
      have hPayload : (whole.payload ++ whole.padding).length - last.toNat = whole.payload.length := by
        rw [List.length_append, hLength]
        omega
      rw [readPayload_padded (show whole.headed.header.paddingFlag = 1 from hFlag) hLast
        (by rw [List.length_append]; omega), hPayload, List.take_left, List.drop_left]
      rfl
    · rw [readPayload_unpadded (show whole.headed.header.paddingFlag ≠ 1 from hFlag)]
      obtain ⟨header, profile, length, extension, payload, padding⟩ := whole
      obtain rfl : padding = [] := hPadding.absent hFlag
      rw [List.append_nil]
      rfl
  encodes := by
    rintro ⟨it, ⟨body⟩⟩ whole s' hRead
    by_cases hFlag : packet.header.paddingFlag = 1
    · by_cases hLast : ∃ last ∈ body.getLast?, last.toNat ≤ body.length
      · obtain ⟨last, hLast, hFits⟩ := hLast
        obtain ⟨rfl, rfl⟩ :=
          EStateM.Result.ok.inj ((readPayload_padded hFlag hLast hFits).symm.trans hRead)
        refine ⟨⟨⟨fun _ => ⟨last, ?_, ?_⟩, fun hNot => absurd hFlag hNot⟩, hHeaded⟩, rfl, rfl, ?_⟩
        · dsimp only
          rwa [List.take_append_drop]
        · dsimp only
          rw [List.length_drop]
          omega
        · dsimp only
          rw [List.take_append_drop, List.append_nil]
      · obtain ⟨s, hPanic⟩ := @readPayload_panic _ it _ _ hFlag hLast
        cases hPanic.symm.trans hRead
    · obtain ⟨rfl, rfl⟩ := EStateM.Result.ok.inj ((readPayload_unpadded hFlag).symm.trans hRead)
      have hPadding : packet.padding = [] := by rw [← hHeaded, headed]
      refine ⟨⟨⟨fun hYes => absurd hYes hFlag, fun _ => hPadding⟩, hHeaded⟩, rfl, rfl, ?_⟩
      dsimp only
      rw [hPadding, List.append_nil, List.append_nil]

/-- The bytes of a packet. -/
def bytes (packet : RtpPacket) : List UInt8 :=
  packet.header.bytes ++ (packet.extensionBytes ++ (packet.payload ++ packet.padding))

theorem marshal_eq {packet : RtpPacket} (hPadding : packet.header.paddingFlag ≠ 1 → packet.padding = []) :
    packet.marshal = packet.bytes := by
  rw [marshal, bytes, extensionBytes, RtpHeader.marshal_eq]
  by_cases hExtension : packet.header.extensionFlag = 1 <;>
    by_cases hFlag : packet.header.paddingFlag = 1 <;>
    simp [hExtension, hFlag, BytesWriter.write, BytesWriter.writeU16, ByteOrder.encode, hPadding]

theorem codes_unmarshal : Codes (· = []) (unmarshal : Read τ RtpPacket) bytes Readable := by
  apply Codes.of_encode
  · rw [unmarshal]
    apply RtpHeader.codes_unmarshal.bind header fun packet hPacket => hPacket.header
    intro header hHeader
    apply (codes_readExtension header).bind headed
    · rintro packet ⟨hPacket, rfl⟩
      exact ⟨⟨hPacket.extension.present, hPacket.extension.absent⟩, rfl, rfl⟩
    · rintro packet ⟨hExtension, rfl, hHeaded⟩
      apply (codes_readPayload hHeaded).of_valid
      intro whole
      constructor
      · rintro ⟨⟨hWhole, -⟩, hWhole'⟩
        exact ⟨hWhole.padding, hWhole'⟩
      · rintro ⟨hPadding, rfl⟩
        exact ⟨⟨⟨hHeader, ⟨hExtension.present, hExtension.absent⟩, hPadding⟩, rfl⟩, rfl⟩
  · intro packet hPacket
    rfl

/-! ### Both directions -/

/-- A packet whose fields are within their widths: a header extension has the length that it states,
and a padding the one in its last byte, where their flags are set. -/
structure WellFormed (packet : RtpPacket) : Prop where
  header : packet.header.WellFormed
  extension : packet.header.extensionFlag = 1 →
    packet.headerExtensionPayload.length = 4 * packet.headerExtensionLength.toNat
  padding : packet.header.paddingFlag = 1 →
    ∃ last ∈ packet.padding.getLast?, last.toNat = packet.padding.length

/-- The packet without the parts whose flags are clear. -/
def flagged (packet : RtpPacket) : RtpPacket :=
  let packet := if packet.header.extensionFlag = 1 then packet else
    { packet with headerExtensionProfile := 0, headerExtensionLength := 0, headerExtensionPayload := [] }
  if packet.header.paddingFlag = 1 then packet else { packet with padding := [] }

theorem header_flagged (packet : RtpPacket) : packet.flagged.header = packet.header := by
  rw [flagged]
  split <;> split <;> rfl

theorem WellFormed.readable {packet : RtpPacket} (h : packet.WellFormed) :
    packet.flagged.Readable := by
  refine ⟨by rw [header_flagged]; exact h.header, ⟨?_, ?_⟩, ⟨?_, ?_⟩⟩
  all_goals
    rw [header_flagged]
    intro hFlag
  · rw [flagged, if_pos hFlag]
    split <;> exact h.extension hFlag
  · rw [flagged, if_neg hFlag]
    split <;> exact ⟨rfl, rfl, rfl⟩
  · obtain ⟨last, hLast, hLength⟩ := h.padding hFlag
    have hPadding : packet.flagged.padding = packet.padding := by
      rw [flagged]
      split <;> simp
    rw [hPadding]
    exact ⟨last, List.mem_getLast?_append_of_mem_getLast? hLast, hLength⟩
  · rw [flagged]
    split <;> simp

/-- The parts whose flags are clear are not written. -/
theorem marshal_flagged (packet : RtpPacket) : packet.flagged.marshal = packet.marshal := by
  rw [flagged]
  by_cases hExtension : packet.header.extensionFlag = 1 <;>
    by_cases hFlag : packet.header.paddingFlag = 1 <;> simp [marshal, hExtension, hFlag]

theorem WellFormed.bytes_flagged {packet : RtpPacket} (h : packet.WellFormed) :
    packet.flagged.bytes = packet.marshal := by
  rw [← marshal_flagged, marshal_eq h.readable.padding.absent]

/-- The parts whose flags are clear are empty. -/
structure Undenied (packet : RtpPacket) : Prop where
  extension : packet.header.extensionFlag ≠ 1 → packet.headerExtensionProfile = 0 ∧
    packet.headerExtensionLength = 0 ∧ packet.headerExtensionPayload = []
  padding : packet.header.paddingFlag ≠ 1 → packet.padding = []

theorem flagged_eq_iff {packet : RtpPacket} (h : packet.WellFormed) :
    packet.flagged = packet ↔ packet.Undenied := by
  constructor
  · intro hSame
    have hReadable := h.readable
    rw [hSame] at hReadable
    exact ⟨hReadable.extension.absent, hReadable.padding.absent⟩
  · rintro ⟨hExtension, hPadding⟩
    obtain ⟨header, profile, length, extension, payload, padding⟩ := packet
    rw [flagged]
    by_cases hFlag : header.extensionFlag = 1 <;> by_cases hPad : header.paddingFlag = 1 <;>
      simp_all

theorem unmarshal_marshal {packet : RtpPacket} (h : packet.WellFormed) (it : τ) :
    unmarshal ⟨it, ⟨packet.marshal⟩⟩ = .ok packet.flagged ⟨it, ⟨[]⟩⟩ := by
  have hRead := codes_unmarshal.decodes packet.flagged h.readable it [] rfl
  rwa [h.bytes_flagged, List.append_nil] at hRead

/-- A packet that is written is read back without the parts whose flags are clear, so that it is read
back whole when these are empty, and a packet that is read is written as the bytes it was read from. -/
theorem marshal_unmarshal :
    (∀ packet : RtpPacket, packet.WellFormed → (packet.flagged = packet ↔ packet.Undenied) ∧
      ∀ it : τ, unmarshal ⟨it, ⟨packet.marshal⟩⟩ = .ok packet.flagged ⟨it, ⟨[]⟩⟩) ∧
    ∀ (it : τ) (bytes : List UInt8) (packet : RtpPacket) (s : Reading τ),
      unmarshal ⟨it, ⟨bytes⟩⟩ = .ok packet s → packet.marshal = bytes := by
  constructor
  · intro packet hPacket
    exact ⟨flagged_eq_iff hPacket, unmarshal_marshal hPacket⟩
  · intro it bytes packet s hRead
    obtain ⟨hReadable, hEmpty, -, hBuffer⟩ := codes_unmarshal.encodes _ _ _ hRead
    rw [marshal_eq hReadable.padding.absent]
    dsimp only at hBuffer
    rw [hBuffer, hEmpty, List.append_nil]

/-- A packet with an extension of one word and two bytes of padding. -/
def padded : RtpPacket where
  header :=
    { version := 2, paddingFlag := 1, extensionFlag := 1, cc := 1, marker := 0, payloadType := 96
      seqNumber := 7, timestamp := 3000, ssrc := 1, csrcs := [2] }
  headerExtensionProfile := 0xBEDE
  headerExtensionLength := 1
  headerExtensionPayload := [0x10, 0x01, 0x00, 0x00]
  payload := [0x65]
  padding := [0x00, 0x02]

theorem padded_round_trip :
    unmarshal ⟨(), ⟨padded.marshal⟩⟩ = .ok padded.flagged (⟨(), ⟨[]⟩⟩ : Reading Unit) :=
  (marshal_unmarshal.1 padded
    { header :=
        { version := by decide, paddingFlag := by decide, extensionFlag := by decide
          cc := by decide, marker := by decide, payloadType := by decide, csrcs := rfl }
      extension := fun _ => rfl
      padding := fun _ => ⟨2, rfl, rfl⟩ }).2 ()

/-- The same packet, with its padding flag clear. -/
def unflagged : RtpPacket := { padded with header := { padded.header with paddingFlag := 0 } }

theorem unflagged_wellFormed : unflagged.WellFormed where
  header :=
    { version := by decide, paddingFlag := by decide, extensionFlag := by decide
      cc := by decide, marker := by decide, payloadType := by decide, csrcs := rfl }
  extension _ := rfl
  padding hFlag := absurd hFlag (by decide)

/-- A packet whose padding flag is clear is read back without its padding. -/
theorem denied_padding_lost : ¬∀ packet : RtpPacket, packet.WellFormed →
    unmarshal ⟨(), ⟨packet.marshal⟩⟩ = .ok packet (⟨(), ⟨[]⟩⟩ : Reading Unit) := by
  intro hClaim
  have hRead := (hClaim unflagged unflagged_wellFormed).symm.trans
    (unmarshal_marshal unflagged_wellFormed ())
  have hSame : unflagged = unflagged.flagged := (EStateM.Result.ok.inj hRead).1
  exact absurd hSame (by decide)

end RtpPacket

end Xiu.Rtsp.Rtp
