import Mathlib.Algebra.Group.Int.Defs
import Xiu.ProofKit.BitSyntax

/-! Sequence parameter sets as the standard has them (7.3.2.1.1), with their bits up to the VUI
parameters, and the size of the picture they describe (7.4.2.1.1). -/

namespace Xiu.H264

open ProofKit

/-- A number that is coded as `ue(v)`. -/
abbrev Ue := { n : Nat // n + 1 < 2 ^ 32 }

/-- A number that is coded as `se(v)`. -/
abbrev Se := { k : Int // -2 ^ 31 < k ∧ k < 2 ^ 31 }

def Ue.bits (n : Ue) : List Bool := golomb n.val

def Se.bits (k : Se) : List Bool := golomb (unsigned k.val)

/-- The `delta_scale` elements of a list of so many scales, from the last scale on: there are none behind
the one that makes the next scale zero. -/
def Scales : Nat → Int → List Se → Prop
  | 0, _, deltas => deltas = []
  | _ + 1, _, [] => False
  | n + 1, lastScale, delta :: deltas =>
    if (lastScale + delta.val + 256) % 256 = 0 then deltas = []
    else Scales n ((lastScale + delta.val + 256) % 256) deltas

structure ScalingList (size : Nat) where
  deltas : List Se
  scales : Scales size 8 deltas

/-- A scaling list, behind the flag that says whether it is there. -/
def scalingListBits {size : Nat} : Option (ScalingList size) → List Bool
  | none => [false]
  | some list => true :: list.deltas.flatMap Se.bits

structure ScalingMatrix (chromaFormatIdc : Fin 4) where
  small : List (Option (ScalingList 16))
  large : List (Option (ScalingList 64))
  small_length : small.length = 6
  large_length : large.length = if chromaFormatIdc = 3 then 6 else 2

def ScalingMatrix.bits {chromaFormatIdc : Fin 4} (scaling : ScalingMatrix chromaFormatIdc) : List Bool :=
  scaling.small.flatMap scalingListBits ++ scaling.large.flatMap scalingListBits

/-- The elements of the profiles that say how colours are coded. -/
structure ChromaSyntax where
  chromaFormatIdc : Fin 4
  separateColourPlaneFlag : Bool
  bitDepthLumaMinus8 : Ue
  bitDepthChromaMinus8 : Ue
  qpprimeYZeroTransformBypassFlag : Bool
  scalingMatrix : Option (ScalingMatrix chromaFormatIdc)
  separate : separateColourPlaneFlag = true → chromaFormatIdc = 3

def ChromaSyntax.bits (chroma : ChromaSyntax) : List Bool :=
  [golomb chroma.chromaFormatIdc,
    if chroma.chromaFormatIdc = 3 then [chroma.separateColourPlaneFlag] else [],
    chroma.bitDepthLumaMinus8.bits,
    chroma.bitDepthChromaMinus8.bits,
    [chroma.qpprimeYZeroTransformBypassFlag],
    [chroma.scalingMatrix.isSome],
    chroma.scalingMatrix.elim [] ScalingMatrix.bits].flatten

/-- The order of pictures, by `pic_order_cnt_type`. -/
inductive PicOrderCntSyntax where
  | type0 (log2MaxPicOrderCntLsbMinus4 : Ue)
  | type1 (deltaPicOrderAlwaysZeroFlag : Bool) (offsetForNonRefPic offsetForTopToBottomField : Se)
    (offsetForRefFrame : List Se) (length : offsetForRefFrame.length < 256)
  | type2

def PicOrderCntSyntax.bits : PicOrderCntSyntax → List Bool
  | .type0 log2MaxPicOrderCntLsbMinus4 => [golomb 0, log2MaxPicOrderCntLsbMinus4.bits].flatten
  | .type1 deltaPicOrderAlwaysZeroFlag offsetForNonRefPic offsetForTopToBottomField offsetForRefFrame _ =>
    [golomb 1,
      [deltaPicOrderAlwaysZeroFlag],
      offsetForNonRefPic.bits,
      offsetForTopToBottomField.bits,
      golomb offsetForRefFrame.length,
      offsetForRefFrame.flatMap Se.bits].flatten
  | .type2 => golomb 2

def PicOrderCntSyntax.offsets : PicOrderCntSyntax → List Se
  | .type1 _ _ _ offsetForRefFrame _ => offsetForRefFrame
  | .type0 _ | .type2 => []

structure CropSyntax where
  left : Ue
  right : Ue
  top : Ue
  bottom : Ue

def CropSyntax.bits (crop : CropSyntax) : List Bool :=
  [crop.left.bits, crop.right.bits, crop.top.bits, crop.bottom.bits].flatten

/-- The profiles whose sets say how colours are coded. -/
def standardProfiles : List UInt8 := [100, 110, 122, 244, 44, 83, 86, 118, 128, 138, 139, 134, 135]

/-- `ChromaArrayType`: the format of the colours, unless these are coded as pictures of their own. -/
def ChromaSyntax.arrayType (chroma : ChromaSyntax) : Nat :=
  if chroma.separateColourPlaneFlag then 0 else chroma.chromaFormatIdc

/-- `SubWidthC` and `SubHeightC`: how many samples of luma there are for one of chroma. -/
def subWidth (arrayType : Nat) : Nat := if arrayType = 3 then 1 else 2

def subHeight (arrayType : Nat) : Nat := if arrayType = 1 then 2 else 1

def cropUnitX (arrayType : Nat) : Nat := if arrayType = 0 then 1 else subWidth arrayType

def cropUnitY (arrayType : Nat) (frameMbsOnlyFlag : Bool) : Nat :=
  (if arrayType = 0 then 1 else subHeight arrayType) * (2 - frameMbsOnlyFlag.toNat)

structure SeqParameterSet where
  profileIdc : UInt8
  constraints : UInt8
  levelIdc : UInt8
  seqParameterSetId : Ue
  chroma : Option ChromaSyntax
  log2MaxFrameNumMinus4 : Ue
  picOrderCnt : PicOrderCntSyntax
  maxNumRefFrames : Ue
  gapsInFrameNumValueAllowedFlag : Bool
  picWidthInMbsMinus1 : Ue
  picHeightInMapUnitsMinus1 : Ue
  frameMbsOnlyFlag : Bool
  mbAdaptiveFrameFieldFlag : Bool
  direct8x8InferenceFlag : Bool
  crop : Option CropSyntax
  vuiParametersPresentFlag : Bool
  chroma_iff : chroma.isSome ↔ profileIdc ∈ standardProfiles

namespace SeqParameterSet

variable (sps : SeqParameterSet)

/-- The bits behind the first three bytes, up to the VUI parameters. -/
def bits : List Bool :=
  [sps.seqParameterSetId.bits,
    sps.chroma.elim [] ChromaSyntax.bits,
    sps.log2MaxFrameNumMinus4.bits,
    sps.picOrderCnt.bits,
    sps.maxNumRefFrames.bits,
    [sps.gapsInFrameNumValueAllowedFlag],
    sps.picWidthInMbsMinus1.bits,
    sps.picHeightInMapUnitsMinus1.bits,
    [sps.frameMbsOnlyFlag],
    if sps.frameMbsOnlyFlag then [] else [sps.mbAdaptiveFrameFieldFlag],
    [sps.direct8x8InferenceFlag],
    [sps.crop.isSome],
    sps.crop.elim [] CropSyntax.bits,
    [sps.vuiParametersPresentFlag]].flatten

/-- Colours are sampled as 4:2:0 where a profile does not say how. -/
def arrayType : Nat := sps.chroma.elim 1 ChromaSyntax.arrayType

/-- How much is cropped, in units: on the left and the right, and at the top and the bottom. -/
def croppedX : Nat := sps.crop.elim 0 fun crop => crop.left + crop.right

def croppedY : Nat := sps.crop.elim 0 fun crop => crop.top + crop.bottom

def fullWidth : Nat := 16 * (sps.picWidthInMbsMinus1 + 1)

def fullHeight : Nat := 16 * (2 - sps.frameMbsOnlyFlag.toNat) * (sps.picHeightInMapUnitsMinus1 + 1)

def width : Nat := sps.fullWidth - cropUnitX sps.arrayType * sps.croppedX

def height : Nat := sps.fullHeight - cropUnitY sps.arrayType sps.frameMbsOnlyFlag * sps.croppedY

end SeqParameterSet

/-- A set whose cropping leaves something of the picture. -/
structure ValidParameterSet extends SeqParameterSet where
  cropped_width : cropUnitX toSeqParameterSet.arrayType * toSeqParameterSet.croppedX <
    toSeqParameterSet.fullWidth
  cropped_height : cropUnitY toSeqParameterSet.arrayType frameMbsOnlyFlag * toSeqParameterSet.croppedY <
    toSeqParameterSet.fullHeight

end Xiu.H264
