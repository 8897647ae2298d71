import Mathlib.Algebra.Group.Int.Defs
import Mathlib.Algebra.Group.Nat.Defs
import Xiu.Flv.TagHeader
import Xiu.ProofKit.ByteFields

/-! The headers of tags, read as they are written: an audio header comes back, and a video header with
the bytes of its composition time in the other order. -/

namespace Xiu.Flv

open Bytesio ProofKit

/-! ### Composition times -/

/-- The number that three bytes denote, the highest first, with the sign of 24 bits. -/
def signed24 (high middle low : UInt8) : Int :=
  let n := 65536 * high.toNat + 256 * middle.toNat + low.toNat
  if n < 2 ^ 23 then n else n - 2 ^ 24

theorem lowByte_toNat (cts : Int32) : ((lowByte cts).toNat : Int) = cts.toInt % 256 := by
  have hMask : (cts &&& 0xFF).toUInt32.toNat = cts.toBitVec.toNat &&& 2 ^ 8 - 1 := by
    rw [← Int32.toNat_toBitVec, Int32.toBitVec_and, BitVec.toNat_and]
    rfl
  have hLt := cts.toBitVec.isLt
  have hSigned := BitVec.toInt_eq_toNat_cond cts.toBitVec
  have hInt : cts.toInt = cts.toBitVec.toInt := rfl
  rw [lowByte, UInt32.toNat_toUInt8, hMask, Nat.and_two_pow_sub_one_eq_mod, hInt, hSigned]
  split <;> omega

theorem shiftRight_toInt (cts : Int32) : (cts >>> 8).toInt = cts.toInt / 256 := by
  have hShift : ((8 : Int32).toBitVec.smod 32).toNat = 8 := rfl
  have hInt : (cts >>> 8).toInt = (cts >>> 8).toBitVec.toInt := rfl
  rw [hInt, Int32.toBitVec_shiftRight, BitVec.toInt_sshiftRight', hShift, Int.shiftRight_eq_div_pow]
  rfl

/-- The bytes of a composition time, the lowest first, are those of its value modulo 2²⁴. -/
theorem writeCompositionTime_bytes (writer : BytesWriter) (cts : Int32) :
    ∃ low middle high, (writeCompositionTime writer cts).bytes = writer.bytes ++ [low, middle, high] ∧
      (low.toNat : Int) = cts.toInt % 256 ∧ (middle.toNat : Int) = cts.toInt / 256 % 256 ∧
      (high.toNat : Int) = cts.toInt / 65536 % 256 := by
  refine ⟨lowByte cts, lowByte (cts >>> 8), lowByte (cts >>> 8 >>> 8), ?_, lowByte_toNat cts, ?_, ?_⟩
  · simp only [writeCompositionTime, BytesWriter.writeU8, List.append_assoc, List.cons_append,
      List.nil_append]
  · rw [lowByte_toNat, shiftRight_toInt]
  · rw [lowByte_toNat, shiftRight_toInt, shiftRight_toInt]
    omega

/-- Three bytes in a row, before their sign is taken. -/
theorem toNat_threeBytes (high middle low : UInt8) :
    ((((Int32.ofNat high.toNat <<< 8) + Int32.ofNat middle.toNat) <<< 8) +
      Int32.ofNat low.toNat).toBitVec.toNat =
      65536 * high.toNat + 256 * middle.toNat + low.toNat := by
  have hShift : ∀ x : BitVec 32, x <<< ((8 : Int32).toBitVec.smod 32) = x <<< 8 := fun _ => rfl
  have hHigh := high.toNat_lt
  have hMiddle := middle.toNat_lt
  have hLow := low.toNat_lt
  rw [Int32.toBitVec_add, Int32.toBitVec_shiftLeft, Int32.toBitVec_add, Int32.toBitVec_shiftLeft,
    hShift, hShift, Int32.toBitVec_ofNat', Int32.toBitVec_ofNat', Int32.toBitVec_ofNat']
  simp only [BitVec.toNat_add, BitVec.toNat_shiftLeft, BitVec.toNat_ofNat,
    Nat.shiftLeft_eq]
  omega

section Sign

variable {x : Int32} {n : Nat}

theorem signBit_iff (hx : x.toBitVec.toNat = n) (hn : n < 2 ^ 24) :
    x &&& ((1 : Int32) <<< 23) ≠ 0 ↔ 2 ^ 23 ≤ n := by
  have hBit : ((1 : Int32) <<< 23).toBitVec = BitVec.twoPow 32 23 := by decide
  have hZero : (0 : Int32).toBitVec = 0#32 := rfl
  have hTwoPow : BitVec.twoPow 32 23 ≠ 0#32 := by decide
  rw [ne_eq, ← Int32.toBitVec_inj, Int32.toBitVec_and, hBit, hZero, BitVec.and_twoPow]
  have hTest : x.toBitVec.getLsbD 23 = decide (n / 2 ^ 23 % 2 = 1) := by
    rw [BitVec.getLsbD, hx, Nat.testBit_eq_decide_div_mod_eq]
  rw [hTest]
  by_cases hSet : 2 ^ 23 ≤ n
  · have hOne : n / 2 ^ 23 % 2 = 1 := by omega
    simp only [hOne, decide_true, if_true]
    exact iff_of_true hTwoPow hSet
  · have hNone : n / 2 ^ 23 % 2 ≠ 1 := by omega
    simp only [hNone, decide_false]
    exact iff_of_false (not_not.mpr rfl) hSet

theorem signed_toInt (hx : x.toBitVec.toNat = n) (hn : n < 2 ^ 24) (hSet : 2 ^ 23 ≤ n) :
    (x ||| ((0xffff : Int32) <<< 23)).toInt = n - 2 ^ 24 := by
  have hMask : ((0xffff : Int32) <<< 23).toBitVec.toNat = 2 ^ 23 * 511 := by decide
  have hSplit : n = 2 ^ 23 * 1 ||| (n - 2 ^ 23) := by
    rw [← Nat.two_pow_add_eq_or_of_lt (by omega)]
    omega
  have hOnes : 2 ^ 23 * 1 ||| 2 ^ 23 * 511 = 2 ^ 23 * 511 := by decide
  have hNat : (x ||| ((0xffff : Int32) <<< 23)).toBitVec.toNat = 2 ^ 23 * 511 + (n - 2 ^ 23) := by
    rw [Int32.toBitVec_or, BitVec.toNat_or, hx, hMask, hSplit, Nat.or_assoc, Nat.or_comm (n - 2 ^ 23), ← Nat.or_assoc, hOnes,
      ← Nat.two_pow_add_eq_or_of_lt (by omega), ← hSplit]
  have hInt : ∀ y : Int32, y.toInt = y.toBitVec.toInt := fun _ => rfl
  rw [hInt, BitVec.toInt_eq_toNat_cond, hNat, if_neg (by omega)]
  omega

end Sign

/-- Three bytes are read as the composition time that they are with the highest first. -/
theorem readCompositionTime_bytes (high middle low : UInt8) (tail : List UInt8) :
    ∃ cts, readCompositionTime ⟨high :: middle :: low :: tail⟩ = .ok (cts, ⟨tail⟩) ∧
      cts.toInt = signed24 high middle low := by
  have hx := toNat_threeBytes high middle low
  have hHigh := high.toNat_lt
  have hMiddle := middle.toNat_lt
  have hLow := low.toNat_lt
  have hn : 65536 * high.toNat + 256 * middle.toNat + low.toNat < 2 ^ 24 := by omega
  have hSign := signBit_iff hx hn
  have hSigned := signed_toInt hx hn
  simp only [readCompositionTime, BytesReader.readU8_cons, bind, Except.bind]
  rw [signed24]
  by_cases hSet : 2 ^ 23 ≤ 65536 * high.toNat + 256 * middle.toNat + low.toNat
  · rw [if_pos (hSign.mpr hSet)]
    refine ⟨_, rfl, ?_⟩
    rw [hSigned hSet, if_neg (Nat.not_lt.mpr hSet)]
  · rw [if_neg fun h => hSet (hSign.mp h)]
    refine ⟨_, rfl, ?_⟩
    have hInt : ∀ y : Int32, y.toInt = y.toBitVec.toInt := fun _ => rfl
    rw [hInt, BitVec.toInt_eq_toNat_cond, hx, if_pos (by omega), if_pos (by omega)]

/-! ### Audio -/

/-- Every field of the first byte is within its bits. -/
structure AudioTagHeader.Fits (tagHeader : AudioTagHeader) : Prop where
  soundFormat : tagHeader.soundFormat < 16
  soundRate : tagHeader.soundRate < 4
  soundSize : tagHeader.soundSize < 2
  soundType : tagHeader.soundType < 2

theorem toNat_audioByte {self : AudioTagHeader} (h : self.Fits) :
    (self.soundFormat <<< 4 ||| self.soundRate <<< 2 ||| self.soundSize <<< 1 |||
      self.soundType).toNat = 16 * self.soundFormat.toNat + (4 * self.soundRate.toNat +
        (2 * self.soundSize.toNat + self.soundType.toNat)) := by
  have hFormat : self.soundFormat.toNat < 16 := UInt8.lt_iff_toNat_lt.mp h.soundFormat
  have hRate : self.soundRate.toNat < 4 := UInt8.lt_iff_toNat_lt.mp h.soundRate
  have hSize : self.soundSize.toNat < 2 := UInt8.lt_iff_toNat_lt.mp h.soundSize
  have hType : self.soundType.toNat < 2 := UInt8.lt_iff_toNat_lt.mp h.soundType
  have hLow := toNat_shiftLeft_or (k := 1) (by decide) (by omega) (by omega :
    self.soundType.toNat < 2 ^ 1) (a := self.soundSize)
  have hMiddle := toNat_shiftLeft_or (k := 2) (a := self.soundRate) (by decide) (by omega)
    (b := self.soundSize <<< UInt8.ofNat 1 ||| self.soundType) (by omega)
  have hHigh := toNat_shiftLeft_or (k := 4) (a := self.soundFormat) (by decide) (by omega)
    (b := self.soundRate <<< UInt8.ofNat 2 ||| (self.soundSize <<< UInt8.ofNat 1 ||| self.soundType))
    (by omega)
  rw [UInt8.or_assoc, UInt8.or_assoc]
  refine hHigh.trans ?_
  rw [hMiddle, hLow]
  omega

/-- An audio header comes back, but for the packet type of one that is not of AAC. -/
theorem unmarshal_audio {self : AudioTagHeader} (h : self.Fits) (tail : List UInt8) :
    AudioTagHeader.unmarshal ⟨self.marshal ++ tail⟩ =
      .ok ({ self with aacPacketType := if self.soundFormat = AAC then self.aacPacketType else 0 },
        ⟨tail⟩) := by
  have hByte := toNat_audioByte h
  have hFormatLt : self.soundFormat.toNat < 16 := UInt8.lt_iff_toNat_lt.mp h.soundFormat
  have hRateLt : self.soundRate.toNat < 4 := UInt8.lt_iff_toNat_lt.mp h.soundRate
  have hSizeLt : self.soundSize.toNat < 2 := UInt8.lt_iff_toNat_lt.mp h.soundSize
  have hTypeLt : self.soundType.toNat < 2 := UInt8.lt_iff_toNat_lt.mp h.soundType
  rw [AudioTagHeader.marshal]
  generalize self.soundFormat <<< 4 ||| self.soundRate <<< 2 ||| self.soundSize <<< 1 |||
    self.soundType = flags at hByte ⊢
  have hFormat : flags >>> 4 = self.soundFormat := by
    rw [← UInt8.toNat_inj]
    refine (toNat_shiftRight (k := 4) (by decide)).trans ?_
    omega
  have hRate : (flags >>> 2) &&& 0x03 = self.soundRate := by
    rw [← UInt8.toNat_inj]
    refine (toNat_and_mask (k := 2) (by decide)).trans ?_
    rw [show (flags >>> 2).toNat = _ from toNat_shiftRight (k := 2) (by decide)]
    omega
  have hSize : (flags >>> 1) &&& 0x01 = self.soundSize := by
    rw [← UInt8.toNat_inj]
    refine (toNat_and_mask (k := 1) (by decide)).trans ?_
    rw [show (flags >>> 1).toNat = _ from toNat_shiftRight (k := 1) (by decide)]
    omega
  have hType : flags &&& 0x01 = self.soundType := by
    rw [← UInt8.toNat_inj]
    refine (toNat_and_mask (k := 1) (by decide)).trans ?_
    omega
  by_cases hAac : self.soundFormat = AAC
  · simp only [if_pos hAac, BytesWriter.writeU8, List.cons_append, List.nil_append,
      AudioTagHeader.unmarshal, BytesReader.readU8_cons, bind, Except.bind, hFormat, hRate, hSize, hType]
    rfl
  · simp only [if_neg hAac, BytesWriter.writeU8, List.cons_append, List.nil_append,
      AudioTagHeader.unmarshal, BytesReader.readU8_cons, bind, Except.bind, hFormat, hRate, hSize, hType]
    rfl

/-! ### Video -/

/-- The codecs whose headers have a packet type and a composition time. -/
def VideoTagHeader.Coded (self : VideoTagHeader) : Prop := self.codecId = H264 ∨ self.codecId = HEVC

/-- Every field is within its bits, and the fields that the codec does not have are 0. -/
structure VideoTagHeader.Fits (tagHeader : VideoTagHeader) : Prop where
  frameType : tagHeader.frameType < 16
  codecId : tagHeader.codecId < 16
  coded : tagHeader.Coded →
    -2 ^ 23 ≤ tagHeader.compositionTime.toInt ∧ tagHeader.compositionTime.toInt < 2 ^ 23
  uncoded : ¬tagHeader.Coded → tagHeader.avcPacketType = 0 ∧ tagHeader.compositionTime = 0

/-- The composition time whose bytes are those of one in the other order. -/
def Exchanged (cts cts' : Int32) : Prop :=
  ∃ low middle high : UInt8, (low.toNat : Int) = cts.toInt % 256 ∧
    (middle.toNat : Int) = cts.toInt / 256 % 256 ∧ (high.toNat : Int) = cts.toInt / 65536 % 256 ∧
    cts'.toInt = signed24 low middle high

/-- A video header comes back, but for its composition time. -/
theorem unmarshal_video {self : VideoTagHeader} (h : self.Fits) (tail : List UInt8) :
    ∃ cts, VideoTagHeader.unmarshal ⟨self.marshal ++ tail⟩ =
        .ok ({ self with compositionTime := cts }, ⟨tail⟩) ∧
      if self.codecId = H264 ∨ self.codecId = HEVC then Exchanged self.compositionTime cts
      else cts = self.compositionTime := by
  have hTypeLt : self.frameType.toNat < 16 := UInt8.lt_iff_toNat_lt.mp h.frameType
  have hCodecLt : self.codecId.toNat < 16 := UInt8.lt_iff_toNat_lt.mp h.codecId
  have hByte : (self.frameType <<< 4 ||| self.codecId).toNat =
      16 * self.frameType.toNat + self.codecId.toNat :=
    toNat_shiftLeft_or (k := 4) (by decide) (by omega) (by omega)
  rw [VideoTagHeader.marshal]
  generalize self.frameType <<< 4 ||| self.codecId = flags at hByte ⊢
  have hType : flags >>> 4 = self.frameType := by
    rw [← UInt8.toNat_inj]
    refine (toNat_shiftRight (k := 4) (by decide)).trans ?_
    omega
  have hCodec : flags &&& 0x0f = self.codecId := by
    rw [← UInt8.toNat_inj]
    refine (toNat_and_mask (k := 4) (by decide)).trans ?_
    omega
  by_cases hCoded : self.codecId = H264 ∨ self.codecId = HEVC
  · obtain ⟨low, middle, high, hBytes, hLow, hMiddle, hHigh⟩ :=
      writeCompositionTime_bytes ⟨[flags, self.avcPacketType]⟩ self.compositionTime
    obtain ⟨cts, hRead, hValue⟩ := readCompositionTime_bytes low middle high tail
    refine ⟨cts, ?_, by rw [if_pos hCoded]; exact ⟨low, middle, high, hLow, hMiddle, hHigh, hValue⟩⟩
    simp only [if_pos hCoded, BytesWriter.writeU8, List.cons_append, List.nil_append, hBytes,
      VideoTagHeader.unmarshal, BytesReader.readU8_cons, bind, Except.bind, hType, hCodec, hRead]
    rfl
  · obtain ⟨hPacketType, hTime⟩ := h.uncoded hCoded
    refine ⟨self.compositionTime, ?_, by rw [if_neg hCoded]⟩
    simp only [if_neg hCoded, BytesWriter.writeU8, List.cons_append, List.nil_append,
      VideoTagHeader.unmarshal, BytesReader.readU8_cons, bind, Except.bind, hType, hCodec]
    rw [hTime]
    cases self
    simp only at hPacketType hTime
    subst hPacketType hTime
    rfl

/-- A composition time stays the same if and only if its lowest byte is its highest. -/
theorem exchanged_self_iff {cts cts' : Int32} (hLow : -2 ^ 23 ≤ cts.toInt) (hHigh : cts.toInt < 2 ^ 23)
    (h : Exchanged cts cts') : cts' = cts ↔ cts.toInt % 256 = cts.toInt / 65536 % 256 := by
  obtain ⟨low, middle, high, hL, hM, hH, hValue⟩ := h
  have hTwice : cts.toInt / 65536 = cts.toInt / 256 / 256 := by omega
  have hLowest := Int.mul_ediv_add_emod cts.toInt 256
  have hMiddle := Int.mul_ediv_add_emod (cts.toInt / 256) 256
  rw [← Int32.toInt_inj, hValue, signed24, hTwice]
  rw [hTwice] at hH
  split <;> omega

/-- Audio headers come back, but for a packet type where there is none; video headers come back if and
only if they have no composition time, or one whose lowest byte is its highest. -/
theorem tagHeaders_return_iff {audio : AudioTagHeader} (hAudio : audio.Fits) {video : VideoTagHeader}
    (hVideo : video.Fits) (tail : List UInt8) :
    (AudioTagHeader.unmarshal ⟨audio.marshal ++ tail⟩ = .ok (audio, ⟨tail⟩) ↔
      (audio.soundFormat ≠ AAC → audio.aacPacketType = 0)) ∧
    (VideoTagHeader.unmarshal ⟨video.marshal ++ tail⟩ = .ok (video, ⟨tail⟩) ↔
      (video.Coded →
        video.compositionTime.toInt % 256 = video.compositionTime.toInt / 65536 % 256)) := by
  constructor
  · rw [unmarshal_audio hAudio]
    by_cases hAac : audio.soundFormat = AAC
    · rw [if_pos hAac]
      exact iff_of_true rfl fun hNot => absurd hAac hNot
    · rw [if_neg hAac]
      constructor
      · intro hSame _
        injection hSame with hPair
        have hHeader := congrArg (·.1.aacPacketType) hPair
        exact hHeader.symm
      · intro hZero
        rw [← hZero hAac]
  · obtain ⟨cts, hRead, hTime⟩ := unmarshal_video hVideo tail
    have hSame : (.ok ({ video with compositionTime := cts }, ⟨tail⟩) :
        Except BytesReadErrorValue (VideoTagHeader × BytesReader)) = .ok (video, ⟨tail⟩) ↔
          cts = video.compositionTime := by
      constructor
      · intro hSame
        injection hSame with hPair
        exact congrArg (·.1.compositionTime) hPair
      · intro hSame
        rw [hSame]
    rw [hRead, hSame]
    by_cases hCoded : video.codecId = H264 ∨ video.codecId = HEVC
    · rw [if_pos hCoded] at hTime
      obtain ⟨hLow, hHigh⟩ := hVideo.coded hCoded
      rw [exchanged_self_iff hLow hHigh hTime]
      exact ⟨fun hBytes _ => hBytes, fun hBytes => hBytes hCoded⟩
    · rw [if_neg hCoded] at hTime
      exact iff_of_true hTime fun h => absurd h hCoded

/-- A composition time of 0 comes back, as does an AAC header. -/
theorem zero_time_returns :
    (AudioTagHeader.unmarshal ⟨(⟨10, 3, 1, 1, 1⟩ : AudioTagHeader).marshal ++ [7]⟩ =
      .ok (⟨10, 3, 1, 1, 1⟩, ⟨[7]⟩) ↔ ((10 : UInt8) ≠ AAC → (1 : UInt8) = 0)) ∧
    (VideoTagHeader.unmarshal ⟨(⟨1, 7, 1, 0⟩ : VideoTagHeader).marshal ++ [7]⟩ =
      .ok (⟨1, 7, 1, 0⟩, ⟨[7]⟩) ↔ ((⟨1, 7, 1, 0⟩ : VideoTagHeader).Coded →
        (0 : Int32).toInt % 256 = (0 : Int32).toInt / 65536 % 256)) :=
  tagHeaders_return_iff ⟨by decide, by decide, by decide, by decide⟩
    ⟨by decide, by decide, fun _ => by decide, fun h => absurd (.inl rfl) h⟩ [7]

/-- A composition time of 40 comes back as 40 · 2¹⁶. -/
theorem time40_exchanged : ∃ video : VideoTagHeader, video.Fits ∧
    VideoTagHeader.unmarshal ⟨video.marshal ++ []⟩ =
      .ok ({ video with compositionTime := 2621440 }, ⟨[]⟩) ∧
    VideoTagHeader.unmarshal ⟨video.marshal ++ []⟩ ≠ .ok (video, ⟨[]⟩) := by
  refine ⟨⟨1, 7, 1, 40⟩, ⟨by decide, by decide, fun _ => by decide, ?_⟩, by decide, by decide⟩
  exact fun h => absurd (.inl rfl) h

end Xiu.Flv
