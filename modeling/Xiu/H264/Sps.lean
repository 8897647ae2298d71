import Mathlib.Algebra.Group.Nat.Defs
import Xiu.H264.Utils

/-! The parser of sequence parameter sets of `library/codec/h264/src/sps.rs`, and the syntax table that it
follows behind the first three bytes. -/

namespace Xiu.H264

open Bytesio ProofKit

/-- The fields of the profiles that say how colours are coded. -/
structure SpsChroma where
  chromaFormatIdc : UInt32 := 0
  separateColourPlaneFlag : UInt8 := 0
  bitDepthLumaMinus8 : UInt32 := 0
  bitDepthChromaMinus8 : UInt32 := 0
  qpprimeYZeroTransformBypassFlag : UInt8 := 0
  seqScalingMatrixPresentFlag : UInt8 := 0
  seqScalingListPresentFlag : List UInt8 := []
  deriving DecidableEq

/-- The fields of the order of pictures. -/
structure SpsPicOrderCnt where
  picOrderCntType : UInt32 := 0
  log2MaxPicOrderCntLsbMinus4 : UInt32 := 0
  deltaPicOrderAlwaysZeroFlag : UInt8 := 0
  offsetForNonRefPic : Int32 := 0
  offsetForTopToBottomField : Int32 := 0
  numRefFramesInPicOrderCntCycle : UInt32 := 0
  offsetForRefFrame : List Int32 := []
  deriving DecidableEq

structure SpsCrop where
  frameCropLeftOffset : UInt32 := 0
  frameCropRightOffset : UInt32 := 0
  frameCropTopOffset : UInt32 := 0
  frameCropBottomOffset : UInt32 := 0
  deriving DecidableEq

structure Sps extends SpsChroma, SpsPicOrderCnt, SpsCrop where
  profileIdc : UInt8 := 0
  flag : UInt8 := 0
  levelIdc : UInt8 := 0
  seqParameterSetId : UInt32 := 0
  log2MaxFrameNumMinus4 : UInt32 := 0
  maxNumRefFrames : UInt32 := 0
  gapsInFrameNumValueAllowedFlag : UInt8 := 0
  picWidthInMbsMinus1 : UInt32 := 0
  picHeightInMapUnitsMinus1 : UInt32 := 0
  frameMbsOnlyFlag : UInt8 := 0
  mbAdaptiveFrameFieldFlag : UInt8 := 0
  direct8x8InferenceFlag : UInt8 := 0
  frameCroppingFlag : UInt8 := 0
  vuiParametersPresentFlag : UInt8 := 0
  deriving DecidableEq

namespace SpsParser

/-! ### Parsing -/

/-- The profiles whose sets have the fields of colours. -/
def chromaProfiles : List UInt8 := [100, 110, 122, 244, 44, 83, 86, 118, 128]

def readFlags : Nat → Parse (List UInt8)
  | 0 => pure []
  | n + 1 => do
    let flag ← readBit
    let flags ← readFlags n
    return flag :: flags

def readChroma : Parse SpsChroma := do
  let chromaFormatIdc ← readUev
  let separateColourPlaneFlag ← readWhen (chromaFormatIdc = 3) readBit 0
  let bitDepthLumaMinus8 ← readUev
  let bitDepthChromaMinus8 ← readUev
  let qpprimeYZeroTransformBypassFlag ← readBit
  let seqScalingMatrixPresentFlag ← readBit
  let seqScalingListPresentFlag ←
    readWhen (seqScalingMatrixPresentFlag > 0) (readFlags (if chromaFormatIdc ≠ 2 then 8 else 12)) []
  return { chromaFormatIdc, separateColourPlaneFlag, bitDepthLumaMinus8, bitDepthChromaMinus8,
           qpprimeYZeroTransformBypassFlag, seqScalingMatrixPresentFlag, seqScalingListPresentFlag }

/-- An offset is stored at an index of the vector, which panics beyond its end. -/
def storeOffset (offsets : List Int32) (i : Nat) (value : Int32) : Parse (List Int32) :=
  if i < offsets.length then pure (offsets.set i value) else throw .panic

/-- `for i in 0..num_ref_frames_in_pic_order_cnt_cycle`, from `i` on. -/
def readOffsets : Nat → Nat → List Int32 → Parse (List Int32)
  | 0, _, offsets => pure offsets
  | n + 1, i, offsets => do
    let value ← readSev
    let offsets ← storeOffset offsets i value
    readOffsets n (i + 1) offsets

def readPicOrderCnt : Parse SpsPicOrderCnt := do
  let picOrderCntType ← readUev
  if picOrderCntType = 0 then
    let log2MaxPicOrderCntLsbMinus4 ← readUev
    return { picOrderCntType, log2MaxPicOrderCntLsbMinus4 }
  else if picOrderCntType = 1 then
    let deltaPicOrderAlwaysZeroFlag ← readBit
    let offsetForNonRefPic ← readSev
    let offsetForTopToBottomField ← readSev
    let numRefFramesInPicOrderCntCycle ← readUev
    let offsetForRefFrame ← readOffsets numRefFramesInPicOrderCntCycle.toNat 0 []
    return { picOrderCntType, deltaPicOrderAlwaysZeroFlag, offsetForNonRefPic,
             offsetForTopToBottomField, numRefFramesInPicOrderCntCycle, offsetForRefFrame }
  else return { picOrderCntType }

def readCrop : Parse SpsCrop := do
  let frameCropLeftOffset ← readUev
  let frameCropRightOffset ← readUev
  let frameCropTopOffset ← readUev
  let frameCropBottomOffset ← readUev
  return { frameCropLeftOffset, frameCropRightOffset, frameCropTopOffset, frameCropBottomOffset }

/-- The fields behind the first three bytes. -/
def readFields (profileIdc flag levelIdc : UInt8) : Parse Sps := do
  let seqParameterSetId ← readUev
  let chroma ← readWhen (profileIdc ∈ chromaProfiles) readChroma {}
  let log2MaxFrameNumMinus4 ← readUev
  let picOrderCnt ← readPicOrderCnt
  let maxNumRefFrames ← readUev
  let gapsInFrameNumValueAllowedFlag ← readBit
  let picWidthInMbsMinus1 ← readUev
  let picHeightInMapUnitsMinus1 ← readUev
  let frameMbsOnlyFlag ← readBit
  let mbAdaptiveFrameFieldFlag ← readWhen (frameMbsOnlyFlag = 0) readBit 0
  let direct8x8InferenceFlag ← readBit
  let frameCroppingFlag ← readBit
  let crop ← readWhen (frameCroppingFlag > 0) readCrop {}
  let vuiParametersPresentFlag ← readBit
  return { toSpsChroma := chroma, toSpsPicOrderCnt := picOrderCnt, toSpsCrop := crop,
           profileIdc, flag, levelIdc, seqParameterSetId, log2MaxFrameNumMinus4, maxNumRefFrames,
           gapsInFrameNumValueAllowedFlag, picWidthInMbsMinus1, picHeightInMapUnitsMinus1,
           frameMbsOnlyFlag, mbAdaptiveFrameFieldFlag, direct8x8InferenceFlag, frameCroppingFlag,
           vuiParametersPresentFlag }

/-- A sum, a product and a difference of 32 bits, which panic when they do not fit. -/
def add (a b : UInt32) : Parse UInt32 :=
  if a.toNat + b.toNat < 2 ^ 32 then pure (a + b) else throw .panic

def mul (a b : UInt32) : Parse UInt32 :=
  if a.toNat * b.toNat < 2 ^ 32 then pure (a * b) else throw .panic

def sub (a b : UInt32) : Parse UInt32 :=
  if b.toNat ≤ a.toNat then pure (a - b) else throw .panic

/-- `size - first * 2 - second * 2`. -/
def cropped (size first second : UInt32) : Parse UInt32 := do
  let size ← sub size (← mul first 2)
  sub size (← mul second 2)

def width (sps : Sps) : Parse UInt32 := do
  let size ← mul (← add sps.picWidthInMbsMinus1 1) 16
  cropped size sps.frameCropLeftOffset sps.frameCropRightOffset

def height (sps : Sps) : Parse UInt32 := do
  let fields ← sub 2 sps.frameMbsOnlyFlag.toUInt32
  let size ← mul (← mul fields (← add sps.picHeightInMapUnitsMinus1 1)) 16
  cropped size sps.frameCropTopOffset sps.frameCropBottomOffset

def parse : Parse (UInt32 × UInt32) := do
  let profileIdc ← readByte
  let flag ← readByte
  let levelIdc ← readByte
  let sps ← readFields profileIdc flag levelIdc
  let width ← width sps
  let height ← height sps
  return (width, height)

/-! ### Sizes -/

variable {a b : UInt32}

theorem mul_of_lt (h : a.toNat * b.toNat < 2 ^ 32) :
    mul a b = pure (UInt32.ofNat (a.toNat * b.toNat)) := by
  rw [mul, if_pos h, UInt32.ofNat_mul, UInt32.ofNat_toNat, UInt32.ofNat_toNat]

theorem mul_of_le (h : 2 ^ 32 ≤ a.toNat * b.toNat) : mul a b = throw .panic :=
  if_neg (Nat.not_lt.mpr h)

theorem sub_of_le (h : b.toNat ≤ a.toNat) : sub a b = pure (UInt32.ofNat (a.toNat - b.toNat)) := by
  rw [sub, if_pos h, UInt32.ofNat_sub h, UInt32.ofNat_toNat, UInt32.ofNat_toNat]

theorem sub_of_lt (h : a.toNat < b.toNat) : sub a b = throw .panic := if_neg (Nat.not_le.mpr h)

theorem toNat_ofNat {n : Nat} (h : n < 2 ^ 32) : (UInt32.ofNat n).toNat = n :=
  UInt32.toNat_ofNat_of_lt' h

theorem throw_bind {α β : Type} {e : H264Fault} {k : α → Parse β} :
    (throw e : Parse α) >>= k = throw e := rfl

/-- A difference by twice a number. -/
theorem sub_double (size first : UInt32) :
    (do sub size (← mul first 2)) =
      if first.toNat * 2 ≤ size.toNat then pure (UInt32.ofNat (size.toNat - first.toNat * 2))
      else throw .panic := by
  have hSize := size.toNat_lt
  by_cases hRoom : first.toNat * 2 < 2 ^ 32
  · rw [@mul_of_lt first 2 hRoom, pure_bind]
    have hDouble : (UInt32.ofNat (first.toNat * (2 : UInt32).toNat)).toNat = first.toNat * 2 :=
      toNat_ofNat hRoom
    split
    · rw [sub_of_le (by rwa [hDouble]), hDouble]
    · rw [sub_of_lt (by rw [hDouble]; omega)]
  · rw [@mul_of_le first 2 (Nat.not_lt.mp hRoom), if_neg (by omega)]
    rfl

theorem cropped_eq (size first second : UInt32) :
    cropped size first second =
      if first.toNat * 2 + second.toNat * 2 ≤ size.toNat then
        pure (UInt32.ofNat (size.toNat - (first.toNat * 2 + second.toNat * 2)))
      else throw .panic := by
  have hSize := size.toNat_lt
  have hSplit : cropped size first second = ((do sub size (← mul first 2)) >>= fun size =>
      do sub size (← mul second 2)) := by
    rw [bind_assoc]
    rfl
  rw [hSplit, sub_double]
  by_cases hFirst : first.toNat * 2 ≤ size.toNat
  · rw [if_pos hFirst, pure_bind, sub_double, toNat_ofNat (by omega), Nat.sub_sub]
    by_cases hSecond : first.toNat * 2 + second.toNat * 2 ≤ size.toNat
    · rw [if_pos (by omega), if_pos hSecond]
    · rw [if_neg (by omega), if_neg hSecond]
  · rw [if_neg hFirst, throw_bind, if_neg (by omega)]

/-- The uncropped width, in pixels. -/
def fullWidth (sps : Sps) : Nat := (sps.picWidthInMbsMinus1.toNat + 1) * 16

/-- The uncropped height, in pixels. -/
def fullHeight (sps : Sps) : Nat :=
  (2 - sps.frameMbsOnlyFlag.toNat) * (sps.picHeightInMapUnitsMinus1.toNat + 1) * 16

def cropWidth (sps : Sps) : Nat :=
  sps.frameCropLeftOffset.toNat * 2 + sps.frameCropRightOffset.toNat * 2

def cropHeight (sps : Sps) : Nat :=
  sps.frameCropTopOffset.toNat * 2 + sps.frameCropBottomOffset.toNat * 2

theorem add_one_eq (a : UInt32) :
    add a 1 = if a.toNat + 1 < 2 ^ 32 then pure (UInt32.ofNat (a.toNat + 1)) else throw .panic := by
  rw [add, UInt32.ofNat_add, UInt32.ofNat_toNat]
  rfl

/-- A size in macroblocks becomes one in pixels, and is cropped. -/
theorem pixels_eq {n : Nat} (h : n < 2 ^ 32) (first second : UInt32) :
    (do cropped (← mul (UInt32.ofNat n) 16) first second) =
      if n * 16 < 2 ^ 32 ∧ first.toNat * 2 + second.toNat * 2 ≤ n * 16 then
        pure (UInt32.ofNat (n * 16 - (first.toNat * 2 + second.toNat * 2)))
      else throw .panic := by
  have hProduct : (UInt32.ofNat n).toNat * (16 : UInt32).toNat = n * 16 := by
    rw [toNat_ofNat h]
    rfl
  by_cases hMul : n * 16 < 2 ^ 32
  · rw [mul_of_lt (by rwa [hProduct]), pure_bind, hProduct, cropped_eq, toNat_ofNat hMul]
    by_cases hCrop : first.toNat * 2 + second.toNat * 2 ≤ n * 16
    · rw [if_pos hCrop, if_pos ⟨hMul, hCrop⟩]
    · rw [if_neg hCrop, if_neg fun h => hCrop h.2]
  · rw [mul_of_le (by rw [hProduct]; exact Nat.not_lt.mp hMul), throw_bind, if_neg fun h => hMul h.1]

theorem width_eq (sps : Sps) :
    width sps = if fullWidth sps < 2 ^ 32 ∧ cropWidth sps ≤ fullWidth sps then
        pure (UInt32.ofNat (fullWidth sps - cropWidth sps))
      else throw .panic := by
  rw [width, add_one_eq, fullWidth, cropWidth]
  by_cases hAdd : sps.picWidthInMbsMinus1.toNat + 1 < 2 ^ 32
  · rw [if_pos hAdd, pure_bind, pixels_eq hAdd]
  · rw [if_neg hAdd, throw_bind, if_neg (by omega)]

theorem height_eq (sps : Sps) (hFlag : sps.frameMbsOnlyFlag.toNat ≤ 1) :
    height sps = if fullHeight sps < 2 ^ 32 ∧ cropHeight sps ≤ fullHeight sps then
        pure (UInt32.ofNat (fullHeight sps - cropHeight sps))
      else throw .panic := by
  have hFields : sub 2 sps.frameMbsOnlyFlag.toUInt32 =
      pure (UInt32.ofNat (2 - sps.frameMbsOnlyFlag.toNat)) := by
    rw [sub_of_le (by rw [UInt8.toNat_toUInt32]; exact Nat.le_succ_of_le hFlag), UInt8.toNat_toUInt32]
    rfl
  have hPos : 1 ≤ 2 - sps.frameMbsOnlyFlag.toNat := by omega
  rw [height, hFields, pure_bind, add_one_eq, fullHeight, cropHeight]
  by_cases hAdd : sps.picHeightInMapUnitsMinus1.toNat + 1 < 2 ^ 32
  · rw [if_pos hAdd, pure_bind]
    have hProduct : (UInt32.ofNat (2 - sps.frameMbsOnlyFlag.toNat)).toNat *
        (UInt32.ofNat (sps.picHeightInMapUnitsMinus1.toNat + 1)).toNat =
          (2 - sps.frameMbsOnlyFlag.toNat) * (sps.picHeightInMapUnitsMinus1.toNat + 1) := by
      rw [toNat_ofNat hAdd, toNat_ofNat (by omega)]
    by_cases hMul : (2 - sps.frameMbsOnlyFlag.toNat) * (sps.picHeightInMapUnitsMinus1.toNat + 1) < 2 ^ 32
    · rw [mul_of_lt (by rwa [hProduct]), hProduct, pure_bind, pixels_eq hMul]
    · rw [mul_of_le (by rw [hProduct]; exact Nat.not_lt.mp hMul), throw_bind, if_neg (by omega)]
  · have hLess : sps.picHeightInMapUnitsMinus1.toNat + 1 ≤
        (2 - sps.frameMbsOnlyFlag.toNat) * (sps.picHeightInMapUnitsMinus1.toNat + 1) :=
      Nat.le_mul_of_pos_left _ hPos
    rw [if_neg hAdd, throw_bind, if_neg (by omega)]

end SpsParser

end Xiu.H264
