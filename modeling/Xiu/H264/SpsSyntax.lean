import Xiu.H264.Sps

/-! The syntax table that the parser of sequence parameter sets follows behind the first three bytes, and
the byte strings on which it panics. -/

namespace Xiu.H264.SpsSyntax

open Bytesio ProofKit SpsParser

/-! ### The table -/

def flag : BitSyntax UInt8 := (fun b => if b then 1 else 0) <$> BitSyntax.readBit

/-- The lower 32 bits of a number. -/
def number : BitSyntax UInt32 := UInt32.ofNat <$> BitSyntax.readCode

def signedNumber : BitSyntax Int32 := (fun n => Int32.ofInt (signed n.toNat)) <$> number

def flags : Nat → BitSyntax (List UInt8)
  | 0 => pure []
  | n + 1 => do
    let flag ← flag
    let flags ← flags n
    return flag :: flags

/-- Of the scaling lists, only the flags are there. -/
def chroma : BitSyntax SpsChroma := do
  let chromaFormatIdc ← number
  let separateColourPlaneFlag ← readWhen (chromaFormatIdc = 3) flag 0
  let bitDepthLumaMinus8 ← number
  let bitDepthChromaMinus8 ← number
  let qpprimeYZeroTransformBypassFlag ← flag
  let seqScalingMatrixPresentFlag ← flag
  let seqScalingListPresentFlag ←
    readWhen (seqScalingMatrixPresentFlag > 0) (flags (if chromaFormatIdc ≠ 2 then 8 else 12)) []
  return { chromaFormatIdc, separateColourPlaneFlag, bitDepthLumaMinus8, bitDepthChromaMinus8,
           qpprimeYZeroTransformBypassFlag, seqScalingMatrixPresentFlag, seqScalingListPresentFlag }

/-- There is no room for an offset. -/
def offsets (n : Nat) : BitSyntax (List Int32) :=
  if n = 0 then pure []
  else do
    let _ ← signedNumber
    .stop

def picOrderCnt : BitSyntax SpsPicOrderCnt := do
  let picOrderCntType ← number
  if picOrderCntType = 0 then
    let log2MaxPicOrderCntLsbMinus4 ← number
    return { picOrderCntType, log2MaxPicOrderCntLsbMinus4 }
  else if picOrderCntType = 1 then
    let deltaPicOrderAlwaysZeroFlag ← flag
    let offsetForNonRefPic ← signedNumber
    let offsetForTopToBottomField ← signedNumber
    let numRefFramesInPicOrderCntCycle ← number
    let offsetForRefFrame ← offsets numRefFramesInPicOrderCntCycle.toNat
    return { picOrderCntType, deltaPicOrderAlwaysZeroFlag, offsetForNonRefPic,
             offsetForTopToBottomField, numRefFramesInPicOrderCntCycle, offsetForRefFrame }
  else return { picOrderCntType }

def crop : BitSyntax SpsCrop := do
  let frameCropLeftOffset ← number
  let frameCropRightOffset ← number
  let frameCropTopOffset ← number
  let frameCropBottomOffset ← number
  return { frameCropLeftOffset, frameCropRightOffset, frameCropTopOffset, frameCropBottomOffset }

def fields (profileIdc constraints levelIdc : UInt8) : BitSyntax Sps := do
  let seqParameterSetId ← number
  let chroma ← readWhen (profileIdc ∈ chromaProfiles) chroma {}
  let log2MaxFrameNumMinus4 ← number
  let picOrderCnt ← picOrderCnt
  let maxNumRefFrames ← number
  let gapsInFrameNumValueAllowedFlag ← flag
  let picWidthInMbsMinus1 ← number
  let picHeightInMapUnitsMinus1 ← number
  let frameMbsOnlyFlag ← flag
  let mbAdaptiveFrameFieldFlag ← readWhen (frameMbsOnlyFlag = 0) flag 0
  let direct8x8InferenceFlag ← flag
  let frameCroppingFlag ← flag
  let crop ← readWhen (frameCroppingFlag > 0) crop {}
  let vuiParametersPresentFlag ← flag
  return { toSpsChroma := chroma, toSpsPicOrderCnt := picOrderCnt, toSpsCrop := crop,
           profileIdc, flag := constraints, levelIdc, seqParameterSetId, log2MaxFrameNumMinus4,
           maxNumRefFrames, gapsInFrameNumValueAllowedFlag, picWidthInMbsMinus1,
           picHeightInMapUnitsMinus1, frameMbsOnlyFlag, mbAdaptiveFrameFieldFlag,
           direct8x8InferenceFlag, frameCroppingFlag, vuiParametersPresentFlag }

/-! ### The parser follows it -/

theorem implements_number : Implements readUev number := implements_readUev

theorem implements_flag : Implements readBit flag := implements_readBit

theorem implements_signedNumber : Implements readSev signedNumber := by
  apply implements_number.bind
  intro n
  dsimp only
  rw [signed_eq]
  exact .done _

theorem implements_flags (n : Nat) : Implements (readFlags n) (flags n) := by
  induction n with
  | zero => exact .done []
  | succ n ih =>
    apply implements_flag.bind
    intro flag
    apply ih.bind
    intro flags
    exact .done _

theorem implements_offsets (n : Nat) : Implements (readOffsets n 0 []) (offsets n) := by
  cases n with
  | zero => exact .done []
  | succ n =>
    rw [offsets, if_neg (Nat.succ_ne_zero n)]
    apply implements_signedNumber.bind
    intro value
    exact .stop

theorem implements_chroma : Implements readChroma chroma := by
  apply implements_number.bind
  intro chromaFormatIdc
  apply (implements_flag.readWhen 0).bind
  intro separateColourPlaneFlag
  apply implements_number.bind
  intro bitDepthLumaMinus8
  apply implements_number.bind
  intro bitDepthChromaMinus8
  apply implements_flag.bind
  intro qpprimeYZeroTransformBypassFlag
  apply implements_flag.bind
  intro seqScalingMatrixPresentFlag
  apply ((implements_flags _).readWhen []).bind
  intro seqScalingListPresentFlag
  exact .done _

theorem implements_picOrderCnt : Implements readPicOrderCnt picOrderCnt := by
  apply implements_number.bind
  intro picOrderCntType
  apply Implements.ite
  · intro _
    apply implements_number.bind
    intro log2MaxPicOrderCntLsbMinus4
    exact .done _
  intro _
  apply Implements.ite
  · intro _
    apply implements_flag.bind
    intro deltaPicOrderAlwaysZeroFlag
    apply implements_signedNumber.bind
    intro offsetForNonRefPic
    apply implements_signedNumber.bind
    intro offsetForTopToBottomField
    apply implements_number.bind
    intro numRefFramesInPicOrderCntCycle
    apply (implements_offsets _).bind
    intro offsetForRefFrame
    exact .done _
  · intro _
    exact .done _

theorem implements_crop : Implements readCrop crop := by
  apply implements_number.bind
  intro frameCropLeftOffset
  apply implements_number.bind
  intro frameCropRightOffset
  apply implements_number.bind
  intro frameCropTopOffset
  apply implements_number.bind
  intro frameCropBottomOffset
  exact .done _

theorem implements_fields (profileIdc constraints levelIdc : UInt8) :
    Implements (readFields profileIdc constraints levelIdc) (fields profileIdc constraints levelIdc) := by
  apply implements_number.bind
  intro seqParameterSetId
  apply (implements_chroma.readWhen {}).bind
  intro chroma
  apply implements_number.bind
  intro log2MaxFrameNumMinus4
  apply implements_picOrderCnt.bind
  intro picOrderCnt
  apply implements_number.bind
  intro maxNumRefFrames
  apply implements_flag.bind
  intro gapsInFrameNumValueAllowedFlag
  apply implements_number.bind
  intro picWidthInMbsMinus1
  apply implements_number.bind
  intro picHeightInMapUnitsMinus1
  apply implements_flag.bind
  intro frameMbsOnlyFlag
  apply (implements_flag.readWhen 0).bind
  intro mbAdaptiveFrameFieldFlag
  apply implements_flag.bind
  intro direct8x8InferenceFlag
  apply implements_flag.bind
  intro frameCroppingFlag
  apply (implements_crop.readWhen {}).bind
  intro crop
  apply implements_flag.bind
  intro vuiParametersPresentFlag
  exact .done _

theorem yields_flag : flag.Yields fun b => b.toNat ≤ 1 := by
  intro b
  cases b with
  | true => exact Nat.le_refl 1
  | false => exact Nat.zero_le 1

/-- The flag of frames is a bit. -/
theorem fields_yield (profileIdc constraints levelIdc : UInt8) :
    (fields profileIdc constraints levelIdc).Yields fun sps => sps.frameMbsOnlyFlag.toNat ≤ 1 := by
  apply BitSyntax.yields_bind
  intro seqParameterSetId
  apply BitSyntax.yields_bind
  intro chroma
  apply BitSyntax.yields_bind
  intro log2MaxFrameNumMinus4
  apply BitSyntax.yields_bind
  intro picOrderCnt
  apply BitSyntax.yields_bind
  intro maxNumRefFrames
  apply BitSyntax.yields_bind
  intro gapsInFrameNumValueAllowedFlag
  apply BitSyntax.yields_bind
  intro picWidthInMbsMinus1
  apply BitSyntax.yields_bind
  intro picHeightInMapUnitsMinus1
  apply yields_flag.bind
  intro frameMbsOnlyFlag hFlag
  apply BitSyntax.yields_bind
  intro mbAdaptiveFrameFieldFlag
  apply BitSyntax.yields_bind
  intro direct8x8InferenceFlag
  apply BitSyntax.yields_bind
  intro frameCroppingFlag
  apply BitSyntax.yields_bind
  intro crop
  apply BitSyntax.yields_bind
  intro vuiParametersPresentFlag
  exact hFlag

/-! ### Where it panics -/

/-- The sizes fit into 32 bits, and no more is cropped than there is. -/
def Fits (sps : Sps) : Prop :=
  (fullWidth sps < 2 ^ 32 ∧ cropWidth sps ≤ fullWidth sps) ∧
    (fullHeight sps < 2 ^ 32 ∧ cropHeight sps ≤ fullHeight sps)

instance (sps : Sps) : Decidable (Fits sps) := inferInstanceAs (Decidable (_ ∧ _))

/-- The sizes in pixels of a set whose sizes fit. -/
def sizes (sps : Sps) : UInt32 × UInt32 :=
  (UInt32.ofNat (fullWidth sps - cropWidth sps), UInt32.ofNat (fullHeight sps - cropHeight sps))

variable {profileIdc constraints levelIdc : UInt8}

theorem parse_headed (profileIdc constraints levelIdc : UInt8) (rest : List UInt8) :
    parse (.new ⟨profileIdc :: constraints :: levelIdc :: rest⟩) =
      (readFields profileIdc constraints levelIdc >>= fun sps => do
        let width ← width sps
        let height ← height sps
        return (width, height)) (.new ⟨rest⟩) := rfl

theorem sizes_of_fits {sps : Sps} (hFlag : sps.frameMbsOnlyFlag.toNat ≤ 1) (h : Fits sps) :
    (do return (← width sps, ← height sps)) = (pure (sizes sps) : Parse (UInt32 × UInt32)) := by
  rw [width_eq, if_pos h.1, pure_bind, height_eq sps hFlag, if_pos h.2, pure_bind]
  rfl

theorem sizes_of_not_fits {sps : Sps} (hFlag : sps.frameMbsOnlyFlag.toNat ≤ 1) (h : ¬Fits sps) :
    (do return (← width sps, ← height sps)) = (throw .panic : Parse (UInt32 × UInt32)) := by
  rw [width_eq]
  by_cases hWidth : fullWidth sps < 2 ^ 32 ∧ cropWidth sps ≤ fullWidth sps
  · rw [if_pos hWidth, pure_bind, height_eq sps hFlag, if_neg fun hHeight => h ⟨hWidth, hHeight⟩]
    rfl
  · rw [if_neg hWidth]
    rfl

/-- The bits behind the first three bytes are free of what the parser panics on: a code with 64 zeros or
more, an offset of a reference frame, and sizes that do not fit. -/
structure Harmless (profileIdc constraints levelIdc : UInt8) (bits : List Bool) : Prop where
  overlong : ¬(fields profileIdc constraints levelIdc).Overlong 64 bits
  stops : ¬(fields profileIdc constraints levelIdc).Stops 64 bits
  fits : ∀ read rest sps, bits = read ++ rest →
    (fields profileIdc constraints levelIdc).Leads 64 read (.done sps) → Fits sps

/-- A set that is read to its end has the sizes of its fields, or panics when they do not fit. -/
theorem parse_of_leads {read rest : List Bool} {bytes : List UInt8} {sps : Sps}
    (hBits : (BitsReader.new ⟨bytes⟩).bits = read ++ rest)
    (hLeads : (fields profileIdc constraints levelIdc).Leads 64 read (.done sps)) :
    ∃ s, parse (.new ⟨profileIdc :: constraints :: levelIdc :: bytes⟩) =
      if Fits sps then .ok (sizes sps) s else .error .panic s := by
  have hFlag := (fields_yield profileIdc constraints levelIdc).led hLeads
  obtain ⟨s, -, hRun⟩ := (implements_fields profileIdc constraints levelIdc).reads hLeads hBits
  refine ⟨s, ?_⟩
  rw [parse_headed, bind_of_ok hRun]
  by_cases hFits : Fits sps
  · rw [if_pos hFits, sizes_of_fits hFlag hFits]
    rfl
  · rw [if_neg hFits, sizes_of_not_fits hFlag hFits]
    rfl

theorem parse_panics_iff (bytes : List UInt8) :
    (∃ s, parse (.new ⟨profileIdc :: constraints :: levelIdc :: bytes⟩) = .error .panic s) ↔
      ¬Harmless profileIdc constraints levelIdc (BitsReader.new ⟨bytes⟩).bits := by
  have hImplements := implements_fields profileIdc constraints levelIdc
  constructor
  · rintro ⟨s, hPanics⟩ hHarmless
    rcases hImplements.comesTo (.new ⟨bytes⟩) with
      ⟨sps, read, s', hRun, hBits, hLeads⟩ | ⟨-, hStops | hOverlong⟩ | ⟨e, s', hRun⟩
    · obtain ⟨s2, hParse⟩ := parse_of_leads hBits hLeads
      rw [if_pos (hHarmless.fits _ _ _ hBits hLeads), hPanics] at hParse
      cases hParse
    · exact hHarmless.stops hStops
    · exact hHarmless.overlong hOverlong
    · rw [parse_headed, bind_of_error hRun] at hPanics
      cases hPanics
  · intro hHarmful
    by_contra hCalm
    apply hHarmful
    refine ⟨fun hOverlong => ?_, fun hStops => ?_, fun read rest sps hBits hLeads => ?_⟩
    · obtain ⟨s, hRun⟩ := hImplements.overlong hOverlong
      exact hCalm ⟨s, by rw [parse_headed, bind_of_error hRun]⟩
    · obtain ⟨s, hRun⟩ := hImplements.stops hStops
      exact hCalm ⟨s, by rw [parse_headed, bind_of_error hRun]⟩
    · by_contra hNot
      obtain ⟨s, hParse⟩ := parse_of_leads hBits hLeads
      rw [if_neg hNot] at hParse
      exact hCalm ⟨s, hParse⟩

theorem parse_short {bytes : List UInt8} (h : bytes.length < 3) :
    ∃ e s, parse (.new ⟨bytes⟩) = .error (.bitError e) s := by
  match bytes with
  | [] => exact ⟨_, _, rfl⟩
  | [_] => exact ⟨_, _, rfl⟩
  | [_, _] => exact ⟨_, _, rfl⟩
  | _ :: _ :: _ :: _ => exact absurd h (by simp)

/-- The parser does not panic on a byte string if and only if the bits behind the first three bytes are
harmless. -/
theorem parse_calm_iff (bytes : List UInt8) :
    (¬∃ s, parse (.new ⟨bytes⟩) = .error .panic s) ↔
      ∀ profileIdc constraints levelIdc rest, bytes = profileIdc :: constraints :: levelIdc :: rest →
        Harmless profileIdc constraints levelIdc (BitsReader.new ⟨rest⟩).bits := by
  by_cases hShort : bytes.length < 3
  · obtain ⟨e, s, hParse⟩ := parse_short hShort
    refine iff_of_true ?_ ?_
    · rintro ⟨s', hPanics⟩
      rw [hParse] at hPanics
      cases hPanics
    · rintro profileIdc constraints levelIdc rest rfl
      exact absurd hShort (by simp)
  · match bytes with
    | profileIdc :: constraints :: levelIdc :: rest =>
      rw [parse_panics_iff, not_not]
      constructor
      · intro hHarmless profileIdc' constraints' levelIdc' rest' hBytes
        cases hBytes
        exact hHarmless
      · intro hAll
        exact hAll _ _ _ _ rfl
    | [] | [_] | [_, _] => exact absurd (by simp) hShort

def panics {α : Type} : EStateM.Result H264Fault BitsReader α → Bool
  | .error .panic _ => true
  | _ => false

theorem exists_panic {α : Type} {r : EStateM.Result H264Fault BitsReader α} (h : panics r = true) :
    ∃ s, r = .error .panic s := by
  cases r with
  | ok a s => cases h
  | error e s =>
    cases e with
    | bitError value => cases h
    | panic => exact ⟨s, rfl⟩

/-- An offset of a reference frame, a code of 64 zeros, and more that is cropped than there is. -/
theorem sets_that_panic :
    (∃ s, parse (.new ⟨[66, 0, 30, 0b11010011, 0b01010000]⟩) = .error .panic s) ∧
      (∃ s, parse (.new ⟨[66, 0, 30, 0, 0, 0, 0, 0, 0, 0, 0, 0b10000000]⟩) = .error .panic s) ∧
        ∃ s, parse (.new ⟨[66, 0, 30, 0b11011101, 0b11010001, 0b01111100]⟩) = .error .panic s := by
  refine ⟨exists_panic ?_, exists_panic ?_, exists_panic ?_⟩
  all_goals decide +kernel

end Xiu.H264.SpsSyntax
