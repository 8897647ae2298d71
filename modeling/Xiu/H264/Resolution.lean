import Xiu.H264.SpsSyntax
import Xiu.H264.Standard

/-! The resolution of a sequence parameter set, as the parser has it and as the standard defines it. -/

namespace Xiu.H264

open Bytesio ProofKit SpsParser

/-! ### The elements of the standard, along the table -/

theorem leads_number (n : Ue) :
    SpsSyntax.number.Leads 64 n.bits (.done (UInt32.ofNat n.val)) := by
  have hSmall : n.val + 1 < 2 ^ 64 := Nat.lt_trans n.property (by decide)
  exact (BitSyntax.leads_readCode hSmall).bind _

theorem leads_golomb {n : Nat} (h : n + 1 < 2 ^ 32) :
    SpsSyntax.number.Leads 64 (golomb n) (.done (UInt32.ofNat n)) := leads_number ⟨n, h⟩

theorem leads_flag (b : Bool) : SpsSyntax.flag.Leads 64 [b] (.done (if b then 1 else 0)) :=
  (BitSyntax.leads_readBit b).bind _

theorem unsigned_lt (k : Se) : unsigned k.val + 1 < 2 ^ 32 := by
  obtain ⟨k, hLow, hHigh⟩ := k
  change unsigned k + 1 < 2 ^ 32
  rw [unsigned]
  split <;> omega

theorem leads_signedNumber (k : Se) :
    ∃ value, SpsSyntax.signedNumber.Leads 64 k.bits (.done value) :=
  ⟨_, (leads_golomb (unsigned_lt k)).bind _⟩

/-- Flags of lists that are not there. -/
theorem leads_flags (n : Nat) :
    (SpsSyntax.flags n).Leads 64 (List.replicate n false) (.done (List.replicate n 0)) := by
  induction n with
  | zero => exact .refl _
  | succ n ih =>
    apply (leads_flag false).andThen
    have hRest := ih.andThen (f := fun flags => BitSyntax.done (0 :: flags)) (.refl _)
    rwa [List.append_nil] at hRest

theorem leads_readWhen {ρ : Type} {c : Prop} [Decidable c] {t : BitSyntax ρ} {read : List Bool}
    {r otherwise : ρ} (h : c → t.Leads 64 read (.done r)) (h' : ¬c → read = [] ∧ r = otherwise) :
    (readWhen c t otherwise).Leads 64 read (.done r) := by
  rw [readWhen]
  split
  · exact h ‹_›
  · obtain ⟨rfl, rfl⟩ := h' ‹_›
    exact .refl _

/-- The parts that the parser reads as the standard has them: no profile that it does not know, and no
scaling matrix but one of eight lists, none of which is there. -/
structure ReadAlike (sps : SeqParameterSet) : Prop where
  profile : sps.profileIdc ∈ standardProfiles → sps.profileIdc ∈ chromaProfiles
  format : ∀ chroma ∈ sps.chroma, chroma.scalingMatrix.isSome → chroma.chromaFormatIdc < 2
  lists : ∀ chroma ∈ sps.chroma, ∀ scaling ∈ chroma.scalingMatrix,
    (∀ list ∈ scaling.small, list = none) ∧ ∀ list ∈ scaling.large, list = none

theorem format_eq_three : ∀ format : Fin 4, UInt32.ofNat format = 3 ↔ format = 3 := by decide

theorem format_ne_two : ∀ format : Fin 4, format < 2 → UInt32.ofNat format ≠ 2 ∧ format ≠ 3 := by decide

theorem scalingLists_none {size : Nat} {lists : List (Option (ScalingList size))}
    (h : ∀ list ∈ lists, list = none) :
    lists.flatMap scalingListBits = List.replicate lists.length false := by
  induction lists with
  | nil => rfl
  | cons list lists ih =>
    rw [List.forall_mem_cons] at h
    rw [List.flatMap_cons, h.1, ih h.2]
    rfl

/-- A matrix of lists that are not there is eight flags. -/
theorem scalingMatrix_bits {format : Fin 4} (scaling : ScalingMatrix format) (hFormat : format ≠ 3)
    (hSmall : ∀ list ∈ scaling.small, list = none) (hLarge : ∀ list ∈ scaling.large, list = none) :
    scaling.bits = List.replicate 8 false := by
  rw [ScalingMatrix.bits, scalingLists_none hSmall, scalingLists_none hLarge, scaling.small_length,
    scaling.large_length, if_neg hFormat]
  rfl

theorem leads_scaling {chroma : ChromaSyntax}
    (hFormat : chroma.scalingMatrix.isSome → chroma.chromaFormatIdc < 2)
    (hLists : ∀ scaling ∈ chroma.scalingMatrix,
      (∀ list ∈ scaling.small, list = none) ∧ ∀ list ∈ scaling.large, list = none) :
    ∃ flags, (readWhen ((if chroma.scalingMatrix.isSome then 1 else 0 : UInt8) > 0)
      (SpsSyntax.flags (if UInt32.ofNat chroma.chromaFormatIdc ≠ 2 then 8 else 12)) []).Leads 64
        (chroma.scalingMatrix.elim [] ScalingMatrix.bits) (.done flags) := by
  cases hMatrix : chroma.scalingMatrix with
  | none => exact ⟨[], .refl _⟩
  | some scaling =>
    obtain ⟨hTwo, hThree⟩ := format_ne_two chroma.chromaFormatIdc (hFormat (hMatrix ▸ rfl))
    obtain ⟨hSmall, hLarge⟩ := hLists scaling hMatrix
    have hFlag : (1 : UInt8) > 0 := by decide
    refine ⟨List.replicate 8 0, ?_⟩
    rw [readWhen, Option.isSome_some, if_pos (rfl : true = true), if_pos hFlag, if_pos hTwo, Option.elim_some,
      scalingMatrix_bits scaling hThree hSmall hLarge]
    exact leads_flags 8

theorem leads_chroma {chroma : ChromaSyntax}
    (hFormat : chroma.scalingMatrix.isSome → chroma.chromaFormatIdc < 2)
    (hLists : ∀ scaling ∈ chroma.scalingMatrix,
      (∀ list ∈ scaling.small, list = none) ∧ ∀ list ∈ scaling.large, list = none) :
    ∃ fields, SpsSyntax.chroma.Leads 64 chroma.bits (.done fields) := by
  obtain ⟨flags, hScaling⟩ := leads_scaling hFormat hLists
  apply Exists.intro
  rw [ChromaSyntax.bits]
  simp only [List.flatten_cons, List.flatten_nil]
  apply (leads_golomb (Nat.lt_trans (Nat.succ_lt_succ chroma.chromaFormatIdc.isLt) (by decide))).andThen
  have hThree := format_eq_three chroma.chromaFormatIdc
  have hSeparate : (readWhen (UInt32.ofNat chroma.chromaFormatIdc = 3) SpsSyntax.flag 0).Leads 64
      (if chroma.chromaFormatIdc = 3 then [chroma.separateColourPlaneFlag] else [])
      (.done (if chroma.separateColourPlaneFlag then 1 else 0)) := by
    apply leads_readWhen
    · intro hFormat
      rw [if_pos (hThree.mp hFormat)]
      exact leads_flag _
    · intro hOther
      have hFlag : chroma.separateColourPlaneFlag = false := by
        rw [← Bool.not_eq_true]
        exact mt chroma.separate (mt hThree.mpr hOther)
      rw [if_neg (mt hThree.mpr hOther), hFlag]
      exact ⟨rfl, rfl⟩
  apply hSeparate.andThen
  apply (leads_number _).andThen
  apply (leads_number _).andThen
  apply (leads_flag _).andThen
  apply (leads_flag _).andThen
  apply hScaling.andThen
  exact .refl _

theorem leads_picOrderCnt {order : PicOrderCntSyntax} (h : order.offsets = []) :
    ∃ fields, SpsSyntax.picOrderCnt.Leads 64 order.bits (.done fields) := by
  cases order with
  | type0 log2MaxPicOrderCntLsbMinus4 =>
    apply Exists.intro
    simp only [PicOrderCntSyntax.bits, List.flatten_cons, List.flatten_nil]
    apply (leads_golomb (by decide)).andThen
    apply (leads_number _).andThen
    exact .refl _
  | type1 deltaPicOrderAlwaysZeroFlag offsetForNonRefPic offsetForTopToBottomField offsets length =>
    obtain rfl : offsets = [] := h
    obtain ⟨nonRef, hNonRef⟩ := leads_signedNumber offsetForNonRefPic
    obtain ⟨topToBottom, hTopToBottom⟩ := leads_signedNumber offsetForTopToBottomField
    apply Exists.intro
    simp only [PicOrderCntSyntax.bits, List.flatten_cons, List.flatten_nil]
    apply (leads_golomb (by decide)).andThen
    apply (leads_flag _).andThen
    apply hNonRef.andThen
    apply hTopToBottom.andThen
    apply (leads_golomb (by decide)).andThen
    exact .refl _
  | type2 =>
    apply Exists.intro
    rw [PicOrderCntSyntax.bits, ← List.append_nil (golomb 2)]
    apply (leads_golomb (by decide)).andThen
    exact .refl _

/-- The parser stops at the first offset of a reference frame. -/
theorem stops_picOrderCnt {order : PicOrderCntSyntax} (h : order.offsets ≠ []) :
    SpsSyntax.picOrderCnt.Stops 64 order.bits := by
  cases order with
  | type0 log2MaxPicOrderCntLsbMinus4 => exact absurd rfl h
  | type1 deltaPicOrderAlwaysZeroFlag offsetForNonRefPic offsetForTopToBottomField offsets length =>
    obtain ⟨nonRef, hNonRef⟩ := leads_signedNumber offsetForNonRefPic
    obtain ⟨topToBottom, hTopToBottom⟩ := leads_signedNumber offsetForTopToBottomField
    cases offsets with
    | nil => exact absurd rfl h
    | cons offset offsets =>
      obtain ⟨value, hOffset⟩ := leads_signedNumber offset
      have hCount : (offset :: offsets).length + 1 < 2 ^ 32 :=
        Nat.lt_trans (Nat.succ_lt_succ length) (by decide)
      have hSome : (UInt32.ofNat (offset :: offsets).length).toNat ≠ 0 := by
        rw [toNat_ofNat (Nat.lt_of_succ_lt hCount)]
        exact Nat.succ_ne_zero _
      simp only [PicOrderCntSyntax.bits, List.flatten_cons, List.flatten_nil, List.append_nil]
      apply (leads_golomb (by decide)).andStops
      apply (leads_flag _).andStops
      apply hNonRef.andStops
      apply hTopToBottom.andStops
      apply (leads_golomb hCount).andStops
      apply BitSyntax.Stops.bind
      rw [SpsSyntax.offsets, if_neg hSome, List.flatMap_cons]
      exact hOffset.andStops ⟨[], _, rfl, .refl _⟩
  | type2 => exact absurd rfl h

theorem leads_crop (crop : CropSyntax) :
    SpsSyntax.crop.Leads 64 crop.bits (.done ⟨UInt32.ofNat crop.left.val, UInt32.ofNat crop.right.val,
      UInt32.ofNat crop.top.val, UInt32.ofNat crop.bottom.val⟩) := by
  simp only [CropSyntax.bits, List.flatten_cons, List.flatten_nil]
  apply (leads_number _).andThen
  apply (leads_number _).andThen
  apply (leads_number _).andThen
  apply (leads_number _).andThen
  exact .refl _

theorem standardProfiles_eq : standardProfiles = chromaProfiles ++ [138, 139, 134, 135] := rfl

theorem chromaProfiles_subset {profile : UInt8} (h : profile ∈ chromaProfiles) :
    profile ∈ standardProfiles := by
  rw [standardProfiles_eq]
  exact List.mem_append_left _ h

variable {sps : SeqParameterSet}

theorem leads_readChroma (h : ReadAlike sps) :
    ∃ fields, (readWhen (sps.profileIdc ∈ chromaProfiles) SpsSyntax.chroma {}).Leads 64
      (sps.chroma.elim [] ChromaSyntax.bits) (.done fields) := by
  cases hChroma : sps.chroma with
  | none =>
    refine ⟨{}, leads_readWhen ?_ fun _ => ⟨rfl, rfl⟩⟩
    intro hProfile
    have hSome := sps.chroma_iff.mpr (chromaProfiles_subset hProfile)
    rw [hChroma] at hSome
    cases hSome
  | some chroma =>
    obtain ⟨fields, hLeads⟩ := leads_chroma (h.format chroma hChroma) (h.lists chroma hChroma)
    have hProfile := h.profile (sps.chroma_iff.mp (hChroma ▸ rfl))
    exact ⟨fields, leads_readWhen (fun _ => hLeads) fun hNot => absurd hProfile hNot⟩

/-- The fields that are read have the size and the cropping of the set. -/
structure SameSizes (sps : SeqParameterSet) (fields : Sps) : Prop where
  width : fields.picWidthInMbsMinus1 = UInt32.ofNat sps.picWidthInMbsMinus1.val
  height : fields.picHeightInMapUnitsMinus1 = UInt32.ofNat sps.picHeightInMapUnitsMinus1.val
  frames : fields.frameMbsOnlyFlag = if sps.frameMbsOnlyFlag then 1 else 0
  crop : fields.toSpsCrop = sps.crop.elim {} fun crop => ⟨UInt32.ofNat crop.left.val,
    UInt32.ofNat crop.right.val, UInt32.ofNat crop.top.val, UInt32.ofNat crop.bottom.val⟩

theorem leads_mbAdaptive (frames adaptive : Bool) :
    ∃ value, (readWhen ((if frames then 1 else 0 : UInt8) = 0) SpsSyntax.flag 0).Leads 64
      (if frames then [] else [adaptive]) (.done value) := by
  cases frames with
  | true => exact ⟨0, .refl _⟩
  | false => exact ⟨_, leads_flag adaptive⟩

theorem leads_readCrop (crop : Option CropSyntax) :
    (readWhen ((if crop.isSome then 1 else 0 : UInt8) > 0) SpsSyntax.crop {}).Leads 64
      (crop.elim [] CropSyntax.bits) (.done (crop.elim {} fun crop => ⟨UInt32.ofNat crop.left.val,
        UInt32.ofNat crop.right.val, UInt32.ofNat crop.top.val, UInt32.ofNat crop.bottom.val⟩)) := by
  cases crop with
  | none => exact .refl _
  | some crop => exact leads_crop crop

theorem leads_fields (h : ReadAlike sps) (hOffsets : sps.picOrderCnt.offsets = []) :
    ∃ fields, (SpsSyntax.fields sps.profileIdc sps.constraints sps.levelIdc).Leads 64 sps.bits
      (.done fields) ∧ SameSizes sps fields := by
  obtain ⟨chroma, hChroma⟩ := leads_readChroma h
  obtain ⟨picOrderCnt, hPicOrderCnt⟩ := leads_picOrderCnt hOffsets
  obtain ⟨adaptive, hAdaptive⟩ := leads_mbAdaptive sps.frameMbsOnlyFlag sps.mbAdaptiveFrameFieldFlag
  refine ⟨{
    toSpsChroma := chroma
    toSpsPicOrderCnt := picOrderCnt
    toSpsCrop := sps.crop.elim {} fun crop => ⟨UInt32.ofNat crop.left.val,
      UInt32.ofNat crop.right.val, UInt32.ofNat crop.top.val, UInt32.ofNat crop.bottom.val⟩
    profileIdc := sps.profileIdc
    flag := sps.constraints
    levelIdc := sps.levelIdc
    seqParameterSetId := UInt32.ofNat sps.seqParameterSetId.val
    log2MaxFrameNumMinus4 := UInt32.ofNat sps.log2MaxFrameNumMinus4.val
    maxNumRefFrames := UInt32.ofNat sps.maxNumRefFrames.val
    gapsInFrameNumValueAllowedFlag := if sps.gapsInFrameNumValueAllowedFlag then 1 else 0
    picWidthInMbsMinus1 := UInt32.ofNat sps.picWidthInMbsMinus1.val
    picHeightInMapUnitsMinus1 := UInt32.ofNat sps.picHeightInMapUnitsMinus1.val
    frameMbsOnlyFlag := if sps.frameMbsOnlyFlag then 1 else 0
    mbAdaptiveFrameFieldFlag := adaptive
    direct8x8InferenceFlag := if sps.direct8x8InferenceFlag then 1 else 0
    frameCroppingFlag := if sps.crop.isSome then 1 else 0
    vuiParametersPresentFlag := if sps.vuiParametersPresentFlag then 1 else 0
  }, ?_, ⟨rfl, rfl, rfl, rfl⟩⟩
  rw [SeqParameterSet.bits]
  simp only [List.flatten_cons, List.flatten_nil]
  apply (leads_number _).andThen
  apply hChroma.andThen
  apply (leads_number _).andThen
  apply hPicOrderCnt.andThen
  apply (leads_number _).andThen
  apply (leads_flag _).andThen
  apply (leads_number _).andThen
  apply (leads_number _).andThen
  apply (leads_flag _).andThen
  apply hAdaptive.andThen
  apply (leads_flag _).andThen
  apply (leads_flag _).andThen
  apply (leads_readCrop _).andThen
  apply (leads_flag _).andThen
  exact .refl _

/-- The parser panics at an offset of a reference frame. -/
theorem stops_fields (h : ReadAlike sps) (hOffsets : sps.picOrderCnt.offsets ≠ []) :
    (SpsSyntax.fields sps.profileIdc sps.constraints sps.levelIdc).Stops 64 sps.bits := by
  obtain ⟨chroma, hChroma⟩ := leads_readChroma h
  rw [SeqParameterSet.bits]
  simp only [List.flatten_cons]
  apply (leads_number _).andStops
  apply hChroma.andStops
  apply (leads_number _).andStops
  exact ((stops_picOrderCnt hOffsets).append _).bind _

/-! ### The resolution -/

/-- What is cropped does not depend on the units when nothing is, or when they are two pixels. -/
theorem crop_iff {full unit n : Nat} (hValid : unit * n < full) :
    ((full < 2 ^ 32 ∧ n * 2 ≤ full) ∧ full - n * 2 = full - unit * n) ↔
      full < 2 ^ 32 ∧ (n = 0 ∨ unit = 2) := by
  constructor
  · rintro ⟨⟨hFull, hCrop⟩, hSize⟩
    have hEqual : 2 * n = unit * n := by omega
    refine ⟨hFull, ?_⟩
    rcases Nat.eq_zero_or_pos n with hZero | hPos
    · exact .inl hZero
    · exact .inr (Nat.eq_of_mul_eq_mul_right hPos hEqual).symm
  · rintro ⟨hFull, rfl | rfl⟩
    · exact ⟨⟨hFull, by omega⟩, by omega⟩
    · exact ⟨⟨hFull, by omega⟩, by omega⟩

theorem toNat_ue (n : Ue) : (UInt32.ofNat n.val).toNat = n.val :=
  toNat_ofNat (Nat.lt_of_succ_lt n.property)

namespace SameSizes

variable {fields : Sps} (h : SameSizes sps fields)
include h

theorem fullWidth : SpsParser.fullWidth fields = sps.fullWidth := by
  rw [SpsParser.fullWidth, h.width, toNat_ue, SeqParameterSet.fullWidth, Nat.mul_comm]

theorem fullHeight : SpsParser.fullHeight fields = sps.fullHeight := by
  have hFlag : (if sps.frameMbsOnlyFlag then 1 else 0 : UInt8).toNat = sps.frameMbsOnlyFlag.toNat := by
    cases sps.frameMbsOnlyFlag with
    | true => rfl
    | false => rfl
  rw [SpsParser.fullHeight, h.height, h.frames, toNat_ue, hFlag, SeqParameterSet.fullHeight]
  ring

theorem cropWidth : SpsParser.cropWidth fields = sps.croppedX * 2 := by
  rw [SpsParser.cropWidth, h.crop, SeqParameterSet.croppedX]
  cases sps.crop with
  | none => rfl
  | some crop =>
    dsimp only [Option.elim_some]
    rw [toNat_ue, toNat_ue, Nat.add_mul]

theorem cropHeight : SpsParser.cropHeight fields = sps.croppedY * 2 := by
  rw [SpsParser.cropHeight, h.crop, SeqParameterSet.croppedY]
  cases sps.crop with
  | none => rfl
  | some crop =>
    dsimp only [Option.elim_some]
    rw [toNat_ue, toNat_ue, Nat.add_mul]

end SameSizes

/-- The parser has the size that the standard defines, for a set whose bits are in these bytes behind the
first three. -/
def HasResolution (sps : SeqParameterSet) (bytes : List UInt8) : Prop :=
  ∃ width height s,
    parse (.new ⟨sps.profileIdc :: sps.constraints :: sps.levelIdc :: bytes⟩) = .ok (width, height) s ∧
      width.toNat = sps.width ∧ height.toNat = sps.height

/-- The sizes fit into 32 bits, and what is cropped is cropped in units of two pixels. -/
structure CropsAlike (sps : SeqParameterSet) : Prop where
  width : sps.fullWidth < 2 ^ 32 ∧ (sps.croppedX = 0 ∨ cropUnitX sps.arrayType = 2)
  height : sps.fullHeight < 2 ^ 32 ∧
    (sps.croppedY = 0 ∨ cropUnitY sps.arrayType sps.frameMbsOnlyFlag = 2)

theorem fits_iff {fields : Sps} (h : SameSizes sps fields) :
    SpsSyntax.Fits fields ↔ (sps.fullWidth < 2 ^ 32 ∧ sps.croppedX * 2 ≤ sps.fullWidth) ∧
      (sps.fullHeight < 2 ^ 32 ∧ sps.croppedY * 2 ≤ sps.fullHeight) := by
  rw [SpsSyntax.Fits, h.fullWidth, h.fullHeight, h.cropWidth, h.cropHeight]

theorem sizes_eq {fields : Sps} (h : SameSizes sps fields) (hWidth : sps.fullWidth < 2 ^ 32)
    (hHeight : sps.fullHeight < 2 ^ 32) :
    (SpsSyntax.sizes fields).1.toNat = sps.fullWidth - sps.croppedX * 2 ∧
      (SpsSyntax.sizes fields).2.toNat = sps.fullHeight - sps.croppedY * 2 := by
  rw [SpsSyntax.sizes, h.fullWidth, h.fullHeight, h.cropWidth, h.cropHeight]
  exact ⟨toNat_ofNat (Nat.lt_of_le_of_lt (Nat.sub_le _ _) hWidth),
    toNat_ofNat (Nat.lt_of_le_of_lt (Nat.sub_le _ _) hHeight)⟩

/-- A set that is read as the standard has it has the size that the standard defines if and only if it has
no offsets of reference frames and is cropped as the parser crops it. -/
theorem resolution_iff (sps : ValidParameterSet) {bytes : List UInt8} {more : List Bool}
    (hBits : (BitsReader.new ⟨bytes⟩).bits = sps.bits ++ more)
    (hRead : ReadAlike sps.toSeqParameterSet) :
    HasResolution sps.toSeqParameterSet bytes ↔
      sps.picOrderCnt.offsets = [] ∧ CropsAlike sps.toSeqParameterSet := by
  by_cases hOffsets : sps.picOrderCnt.offsets = []
  · obtain ⟨fields, hLeads, hSizes⟩ := leads_fields hRead hOffsets
    obtain ⟨s, hParse⟩ := SpsSyntax.parse_of_leads hBits hLeads
    have hWidth := crop_iff sps.cropped_width
    have hHeight := crop_iff sps.cropped_height
    have hFits := fits_iff hSizes
    rw [and_iff_right hOffsets]
    constructor
    · rintro ⟨width, height, s', hRun, hWidthEq, hHeightEq⟩
      by_cases hFit : SpsSyntax.Fits fields
      · rw [if_pos hFit, hRun] at hParse
        cases hParse
        obtain ⟨hFitsWidth, hFitsHeight⟩ := hFits.mp hFit
        obtain ⟨hFirst, hSecond⟩ := sizes_eq hSizes hFitsWidth.1 hFitsHeight.1
        exact ⟨hWidth.mp ⟨hFitsWidth, hFirst.symm.trans hWidthEq⟩,
          hHeight.mp ⟨hFitsHeight, hSecond.symm.trans hHeightEq⟩⟩
      · rw [if_neg hFit, hRun] at hParse
        cases hParse
    · rintro ⟨hCropWidth, hCropHeight⟩
      obtain ⟨hFitsWidth, hWidthEq⟩ := hWidth.mpr hCropWidth
      obtain ⟨hFitsHeight, hHeightEq⟩ := hHeight.mpr hCropHeight
      rw [if_pos (hFits.mpr ⟨hFitsWidth, hFitsHeight⟩)] at hParse
      obtain ⟨hFirst, hSecond⟩ := sizes_eq hSizes hFitsWidth.1 hFitsHeight.1
      exact ⟨_, _, s, hParse, hFirst.trans hWidthEq, hSecond.trans hHeightEq⟩
  · refine iff_of_false ?_ fun h => hOffsets h.1
    rintro ⟨width, height, s, hRun, -, -⟩
    have hStops : (SpsSyntax.fields sps.profileIdc sps.constraints sps.levelIdc).Stops 64
        (BitsReader.new ⟨bytes⟩).bits := by
      rw [hBits]
      exact (stops_fields hRead hOffsets).append more
    obtain ⟨s', hPanics⟩ := (SpsSyntax.parse_panics_iff bytes).mpr fun hHarmless => hHarmless.stops hStops
    rw [hPanics] at hRun
    cases hRun

/-! ### Two sets -/

theorem small_lt (n : Fin 256) : n.val + 1 < 2 ^ 32 :=
  Nat.lt_of_le_of_lt (Nat.succ_le_of_lt n.isLt) (by decide)

def small (n : Fin 256) : Ue := ⟨n.val, small_lt n⟩

theorem main_not_mem : (none : Option ChromaSyntax).isSome ↔ (77 : UInt8) ∈ standardProfiles := by
  decide

/-- A set of the Main profile, 1920 pixels wide and in so many rows of macroblocks, of which some are
cropped at the bottom. -/
def mainProfile (picHeightInMapUnitsMinus1 bottom : Ue) (frameMbsOnlyFlag : Bool) : SeqParameterSet where
  profileIdc := 77
  constraints := 0
  levelIdc := 40
  seqParameterSetId := small 0
  chroma := none
  log2MaxFrameNumMinus4 := small 0
  picOrderCnt := .type0 (small 0)
  maxNumRefFrames := small 1
  gapsInFrameNumValueAllowedFlag := false
  picWidthInMbsMinus1 := small 119
  picHeightInMapUnitsMinus1 := picHeightInMapUnitsMinus1
  frameMbsOnlyFlag := frameMbsOnlyFlag
  mbAdaptiveFrameFieldFlag := false
  direct8x8InferenceFlag := true
  crop := some ⟨small 0, small 0, small 0, bottom⟩
  vuiParametersPresentFlag := false
  chroma_iff := main_not_mem

theorem mainProfile_width (rows bottom : Ue) (frames : Bool) :
    cropUnitX (mainProfile rows bottom frames).arrayType * (mainProfile rows bottom frames).croppedX <
      (mainProfile rows bottom frames).fullWidth :=
  Nat.mul_pos (by decide) (Nat.succ_pos _)

theorem progressive_height :
    cropUnitY (mainProfile (small 67) (small 4) true).arrayType true *
      (mainProfile (small 67) (small 4) true).croppedY <
        (mainProfile (small 67) (small 4) true).fullHeight := by
  decide

theorem interlaced_height :
    cropUnitY (mainProfile (small 33) (small 2) false).arrayType false *
      (mainProfile (small 33) (small 2) false).croppedY <
        (mainProfile (small 33) (small 2) false).fullHeight := by
  decide

/-- 1080 rows of pixels, in frames: eight of them are cropped, in units of two. -/
def progressive : ValidParameterSet :=
  ⟨mainProfile (small 67) (small 4) true, mainProfile_width _ _ _, progressive_height⟩

/-- 1080 rows of pixels, in fields: eight of them are cropped, in units of four. -/
def interlaced : ValidParameterSet :=
  ⟨mainProfile (small 33) (small 2) false, mainProfile_width _ _ _, interlaced_height⟩

theorem mainProfile_readAlike (rows bottom : Ue) (frames : Bool) :
    ReadAlike (mainProfile rows bottom frames) := by
  have hProfile : (77 : UInt8) ∈ standardProfiles → (77 : UInt8) ∈ chromaProfiles := by decide
  refine ⟨hProfile, ?_, ?_⟩
  · intro chroma hChroma
    cases hChroma
  · intro chroma hChroma
    cases hChroma

theorem progressive_resolution :
    HasResolution progressive.toSeqParameterSet [244, 3, 192, 17, 63, 42] :=
  (@resolution_iff progressive [244, 3, 192, 17, 63, 42] [true, false] (by decide +kernel)
    (mainProfile_readAlike _ _ _)).mpr ⟨rfl, ⟨by decide, by decide⟩⟩

def sizesOf : EStateM.Result H264Fault BitsReader (UInt32 × UInt32) → Option (UInt32 × UInt32)
  | .ok sizes _ => some sizes
  | .error _ _ => none

/-- Of the fields, 1084 rows are left. -/
theorem interlaced_resolution :
    ∃ more, (BitsReader.new ⟨[244, 3, 192, 34, 62, 208]⟩).bits = interlaced.bits ++ more ∧
      ¬HasResolution interlaced.toSeqParameterSet [244, 3, 192, 34, 62, 208] := by
  refine ⟨[true, false, false, false, false], by decide +kernel, ?_⟩
  rintro ⟨width, height, s, hRun, -, hHeight⟩
  have hSizes : sizesOf (parse (.new ⟨[77, 0, 40, 244, 3, 192, 34, 62, 208]⟩)) = some (1920, 1084) := by
    decide +kernel
  have hResult : sizesOf (parse (.new ⟨[77, 0, 40, 244, 3, 192, 34, 62, 208]⟩)) =
      some (width, height) := congrArg sizesOf hRun
  rw [hSizes] at hResult
  cases hResult
  exact absurd hHeight (by decide)

end Xiu.H264
