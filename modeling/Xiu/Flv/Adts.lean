import Xiu.Flv.Mpeg4Aac
import Xiu.ProofKit.ByteFields

/-! The ADTS header of a frame, as ISO 13818-7 has it: what it says of the configuration and of the length
of the frame. -/

namespace Xiu.Flv

open Bytesio ProofKit Bytesio.Read Mpeg4AacProcessor

/-- The fields of a header that say what the frame is. -/
structure AdtsHeader where
  profile : Nat
  samplingFrequencyIndex : Nat
  channelConfiguration : Nat
  frameLength : Nat
  deriving DecidableEq

/-- The field of a header of 56 bits at an offset, of a width. -/
def adtsField (header offset width : Nat) : Nat := header / 2 ^ (56 - offset - width) % 2 ^ width

/-- A frame starts with a header of seven bytes, whose syncword is twelve ones and whose layer is 0. -/
def parseAdts (frame : List UInt8) : Option AdtsHeader :=
  let header := ofBE (frame.take 7)
  if 7 ≤ frame.length ∧ adtsField header 0 12 = 0xFFF ∧ adtsField header 13 2 = 0 then
    some ⟨adtsField header 16 2, adtsField header 18 4, adtsField header 23 3, adtsField header 30 13⟩
  else none

/-- A configuration that a header can say. -/
structure Mpeg4Aac.Plain (aac : Mpeg4Aac) : Prop where
  object : 1 ≤ aac.objectType ∧ aac.objectType ≤ 4
  frequency : aac.samplingFrequencyIndex ≤ 12
  channels : aac.channelConfiguration ≤ 7

theorem toNat_shiftRight_toUInt8 {n : UInt32} {k : Nat} (hk : k < 32) :
    (n >>> UInt32.ofNat k).toUInt8.toNat = n.toNat / 2 ^ k % 256 := by
  have hShift : (UInt32.ofNat k).toNat % 32 = k := by
    rw [UInt32.toNat_ofNat']
    omega
  rw [UInt32.toNat_toUInt8, UInt32.toNat_shiftRight, hShift, Nat.shiftRight_eq_div_pow]

section Header

variable {aac : Mpeg4Aac}

theorem Mpeg4Aac.Plain.bounds (h : aac.Plain) :
    (1 ≤ aac.objectType.toNat ∧ aac.objectType.toNat ≤ 4) ∧ aac.samplingFrequencyIndex.toNat ≤ 12 ∧
      aac.channelConfiguration.toNat ≤ 7 :=
  ⟨⟨UInt8.le_iff_toNat_le.mp h.object.1, UInt8.le_iff_toNat_le.mp h.object.2⟩,
    UInt8.le_iff_toNat_le.mp h.frequency, UInt8.le_iff_toNat_le.mp h.channels⟩

/-- The byte of the profile, the frequency and the first bit of the channels. -/
theorem toNat_profileByte (h : aac.Plain) :
    ((UInt8.ofNat (aac.objectType.toNat - 1) <<< 6) ||| ((aac.samplingFrequencyIndex &&& 0x0F) <<< 2) |||
      ((aac.channelConfiguration >>> 2) &&& 0x01)).toNat = 64 * (aac.objectType.toNat - 1) +
        (4 * aac.samplingFrequencyIndex.toNat + aac.channelConfiguration.toNat / 4) := by
  obtain ⟨⟨hLow, hObject⟩, hIndex, hChannels⟩ := h.bounds
  have hProfile : (UInt8.ofNat (aac.objectType.toNat - 1)).toNat = aac.objectType.toNat - 1 := by
    rw [UInt8.toNat_ofNat']
    omega
  have hIndexBits : (aac.samplingFrequencyIndex &&& 0x0F).toNat = aac.samplingFrequencyIndex.toNat :=
    (toNat_and_mask (k := 4) (by decide)).trans (Nat.mod_eq_of_lt (by omega))
  have hHigh : ((aac.channelConfiguration >>> 2) &&& 0x01).toNat = aac.channelConfiguration.toNat / 4 := by
    have hShift : (aac.channelConfiguration >>> 2).toNat = aac.channelConfiguration.toNat / 4 :=
      toNat_shiftRight (k := 2) (by decide)
    refine (toNat_and_mask (k := 1) (by decide)).trans ?_
    omega
  have hInner := toNat_shiftLeft_or (k := 2) (a := aac.samplingFrequencyIndex &&& 0x0F)
    (b := (aac.channelConfiguration >>> 2) &&& 0x01) (by decide) (by omega) (by omega)
  rw [hIndexBits, hHigh] at hInner
  have hOuter := toNat_shiftLeft_or (k := 6) (a := UInt8.ofNat (aac.objectType.toNat - 1))
    (b := ((aac.samplingFrequencyIndex &&& 0x0F) <<< UInt8.ofNat 2) |||
      ((aac.channelConfiguration >>> 2) &&& 0x01)) (by decide) (by omega) (by omega)
  rw [hProfile, hInner] at hOuter
  rw [UInt8.or_assoc]
  exact hOuter

/-- The byte of the other bits of the channels and the first bits of the length. -/
theorem toNat_channelByte (channels : UInt8) (length : UInt32) :
    (((channels &&& 0x03) <<< 6) ||| ((length >>> 11).toUInt8 &&& 0x03)).toNat =
      64 * (channels.toNat % 4) + length.toNat / 2 ^ 11 % 4 := by
  have hLow : (channels &&& 0x03).toNat = channels.toNat % 4 := toNat_and_mask (k := 2) (by decide)
  have hTop : ((length >>> 11).toUInt8 &&& 0x03).toNat = length.toNat / 2 ^ 11 % 4 := by
    have hShift : (length >>> 11).toUInt8.toNat = length.toNat / 2 ^ 11 % 256 :=
      toNat_shiftRight_toUInt8 (k := 11) (by decide)
    refine (toNat_and_mask (k := 2) (by decide)).trans ?_
    omega
  have hFields := toNat_shiftLeft_or (k := 6) (a := channels &&& 0x03)
    (b := (length >>> 11).toUInt8 &&& 0x03) (by decide) (by omega) (by omega)
  rw [hLow, hTop] at hFields
  exact hFields

/-- The byte of the last bits of the length. -/
theorem toNat_lengthByte (length : UInt32) :
    (((length &&& 0x07).toUInt8 <<< 5) ||| 0x1F).toNat = 32 * (length.toNat % 8) + 31 := by
  have hMask : (length &&& 0x07).toNat = length.toNat % 8 :=
    (UInt32.toNat_and ..).trans (Nat.and_two_pow_sub_one_eq_mod length.toNat 3)
  have hBottom : (length &&& 0x07).toUInt8.toNat = length.toNat % 8 := by
    rw [UInt32.toNat_toUInt8, hMask]
    omega
  have hFields := toNat_shiftLeft_or (k := 5) (a := (length &&& 0x07).toUInt8) (b := 0x1F) (by decide)
    (by omega) (by decide)
  rw [hBottom] at hFields
  exact hFields

/-- The header as one number. -/
theorem adtsHeader_number (h : aac.Plain) (payloadLength : Nat) :
    ofBE (adtsHeader aac payloadLength) =
      0xFFF1 * 2 ^ 40 + (aac.objectType.toNat - 1) * 2 ^ 38 + aac.samplingFrequencyIndex.toNat * 2 ^ 34 +
        aac.channelConfiguration.toNat * 2 ^ 30 + (payloadLength + 7) % 2 ^ 13 * 2 ^ 13 + 0x1FFC := by
  obtain ⟨⟨-, hObject⟩, hIndex, hChannels⟩ := h.bounds
  have hLength : (UInt32.ofNat (payloadLength + 7)).toNat = (payloadLength + 7) % 2 ^ 32 :=
    UInt32.toNat_ofNat' ..
  have hThird := toNat_profileByte h
  have hFourth := toNat_channelByte aac.channelConfiguration (UInt32.ofNat (payloadLength + 7))
  have hFifth : (UInt32.ofNat (payloadLength + 7) >>> 3).toUInt8.toNat =
      (UInt32.ofNat (payloadLength + 7)).toNat / 2 ^ 3 % 256 :=
    toNat_shiftRight_toUInt8 (k := 3) (by decide)
  have hSixth := toNat_lengthByte (UInt32.ofNat (payloadLength + 7))
  have hFF : (0xFF : UInt8).toNat = 255 := rfl
  have hF1 : (0xF1 : UInt8).toNat = 241 := rfl
  have hFC : (0xFC : UInt8).toNat = 252 := rfl
  have hNil : ofLE [] = 0 := rfl
  simp only [adtsHeader, ofBE, List.reverse_cons, List.reverse_nil, List.nil_append, List.cons_append,
    ofLE_cons, hThird, hFourth, hFifth, hSixth, hFF, hF1, hFC, hNil, hLength]
  omega

/-- What the header of a frame says. -/
theorem parseAdts_adtsHeader (h : aac.Plain) (payload : List UInt8) :
    parseAdts (adtsHeader aac payload.length ++ payload) =
      some ⟨aac.objectType.toNat - 1, aac.samplingFrequencyIndex.toNat, aac.channelConfiguration.toNat,
        (payload.length + 7) % 2 ^ 13⟩ := by
  obtain ⟨⟨-, hObject⟩, hIndex, hChannels⟩ := h.bounds
  have hNumber := adtsHeader_number h payload.length
  have hSeven : (adtsHeader aac payload.length).length = 7 := rfl
  have hTake : (adtsHeader aac payload.length ++ payload).take 7 = adtsHeader aac payload.length :=
    List.take_left' hSeven
  have hLong : 7 ≤ (adtsHeader aac payload.length ++ payload).length := by
    rw [List.length_append, hSeven]
    omega
  have hSyncword : adtsField (ofBE (adtsHeader aac payload.length)) 0 12 = 0xFFF := by
    rw [hNumber, adtsField]
    omega
  have hLayer : adtsField (ofBE (adtsHeader aac payload.length)) 13 2 = 0 := by
    rw [hNumber, adtsField]
    omega
  have hProfile : adtsField (ofBE (adtsHeader aac payload.length)) 16 2 = aac.objectType.toNat - 1 := by
    rw [hNumber, adtsField]
    omega
  have hFrequency : adtsField (ofBE (adtsHeader aac payload.length)) 18 4 =
      aac.samplingFrequencyIndex.toNat := by
    rw [hNumber, adtsField]
    omega
  have hChannel : adtsField (ofBE (adtsHeader aac payload.length)) 23 3 =
      aac.channelConfiguration.toNat := by
    rw [hNumber, adtsField]
    omega
  have hLength : adtsField (ofBE (adtsHeader aac payload.length)) 30 13 =
      (payload.length + 7) % 2 ^ 13 := by
    rw [hNumber, adtsField]
    omega
  simp only [parseAdts, hTake, hLong, hSyncword, hLayer, and_self, if_true, hProfile, hFrequency,
    hChannel, hLength]

end Header

/-! ### Loaded, and saved -/

/-- A processor that has loaded a configuration. -/
def Loaded (s : Reading Mpeg4AacProcessor) : Prop :=
  ∃ config, (do extendData config; audioSpecificConfigLoad : Read Mpeg4AacProcessor Unit)
    Mpeg4AacProcessor.new = .ok () s

/-- The frame that is made from a payload starts with a header that says the configuration and the length
of the frame, or no frame is made and an error returned. -/
def Describes (s : Reading Mpeg4AacProcessor) (payload : List UInt8) : Prop :=
  match (do extendData payload; adtsSave : Read Mpeg4AacProcessor Unit) s with
  | .ok _ s' => s'.owner.bytesWriter.bytes.length = payload.length + 7 ∧
      parseAdts s'.owner.bytesWriter.bytes = some ⟨s.owner.mpeg4Aac.objectType.toNat - 1,
        s.owner.mpeg4Aac.samplingFrequencyIndex.toNat, s.owner.mpeg4Aac.channelConfiguration.toNat,
        s'.owner.bytesWriter.bytes.length⟩
  | .error (.bytesReadError _) _ => True
  | .error .panic _ => False

/-- Nothing is left to read, and nothing has been written. -/
theorem Loaded.empty {s : Reading Mpeg4AacProcessor} (h : Loaded s) :
    s.reader = ⟨[]⟩ ∧ s.owner.bytesWriter = ⟨[]⟩ := by
  obtain ⟨config, hLoad⟩ := h
  rw [extendData, bind_modify] at hLoad
  cases config with
  | nil => cases hLoad
  | cons byte0 rest =>
    cases rest with
    | nil => cases hLoad
    | cons byte1 rest =>
      by_cases hIndexed : Indexed byte0 byte1
      · obtain ⟨samplingFrequency, hOk⟩ := @audioSpecificConfigLoad_ok Mpeg4AacProcessor.new.owner
          byte0 byte1 rest hIndexed
        have hSame := hOk.symm.trans hLoad
        cases hSame
        exact ⟨rfl, rfl⟩
      · obtain ⟨s', hPanic⟩ := @audioSpecificConfigLoad_panics Mpeg4AacProcessor.new.owner
          byte0 byte1 rest hIndexed
        have hSame := hPanic.symm.trans hLoad
        cases hSame

theorem describes_iff_mod {s : Reading Mpeg4AacProcessor} (hLoaded : Loaded s)
    (hPlain : s.owner.mpeg4Aac.Plain) (payload : List UInt8) :
    Describes s payload ↔ (payload.length + 7) % 2 ^ 13 = payload.length + 7 := by
  obtain ⟨hReader, hWriter⟩ := hLoaded.empty
  obtain ⟨⟨hObject, -⟩, -⟩ := hPlain.bounds
  have hNonzero : s.owner.mpeg4Aac.objectType ≠ 0 := by
    intro hZero
    rw [hZero] at hObject
    exact absurd hObject (by decide)
  have hSave : (do extendData payload; adtsSave : Read Mpeg4AacProcessor Unit) s = .ok ()
      ⟨{ s.owner with bytesWriter := ⟨adtsHeader s.owner.mpeg4Aac payload.length ++ payload⟩ }, ⟨[]⟩⟩ := by
    rw [extendData, bind_modify, hReader]
    refine (adtsSave_ok hNonzero).trans ?_
    rw [hWriter]
    rfl
  have hLength : (adtsHeader s.owner.mpeg4Aac payload.length ++ payload).length = payload.length + 7 := by
    rw [List.length_append, Nat.add_comm]
    rfl
  rw [Describes, hSave]
  simp only [parseAdts_adtsHeader hPlain, hLength, Option.some.injEq, AdtsHeader.mk.injEq, true_and]

/-- The header says the length of the frame if and only if 13 bits can. -/
theorem adtsSave_describes_iff {s : Reading Mpeg4AacProcessor} (hLoaded : Loaded s)
    (hPlain : s.owner.mpeg4Aac.Plain) (payload : List UInt8) :
    Describes s payload ↔ payload.length + 7 < 2 ^ 13 := by
  rw [describes_iff_mod hLoaded hPlain]
  omega

/-- AAC LC with two channels at 44100 Hz. -/
def stereo : Reading Mpeg4AacProcessor := ⟨⟨⟨[]⟩, ⟨2, 4, 2, 44100, 2⟩⟩, ⟨[]⟩⟩

theorem stereo_loaded : Loaded stereo := ⟨[0x12, 0x10], rfl⟩

theorem stereo_plain : stereo.owner.mpeg4Aac.Plain := ⟨by decide, by decide, by decide⟩

theorem short_frame_described : Describes stereo [0x21] :=
  (adtsSave_describes_iff stereo_loaded stereo_plain [0x21]).mpr (by decide)

/-- A payload of 8185 bytes makes a frame of 8192 bytes whose header says 0. -/
theorem long_frame_not_described : ¬∀ s payload, Loaded s → s.owner.mpeg4Aac.Plain →
    Describes s payload := by
  intro hAll
  have hDescribes := hAll stereo (List.replicate 8185 0) stereo_loaded stereo_plain
  rw [describes_iff_mod stereo_loaded stereo_plain, List.length_replicate] at hDescribes
  exact absurd hDescribes (by decide)

end Xiu.Flv
