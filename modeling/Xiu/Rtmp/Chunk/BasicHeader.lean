import Xiu.Rtmp.Chunk.Packetizer
import Xiu.Rtmp.Chunk.Wire

/-! The basic headers of `packetizer.rs`, read by `unpacketizer.rs`: one of three bytes comes back with
the two bytes of its chunk stream id exchanged. -/

namespace Xiu.Rtmp.Chunk

open Bytesio ProofKit ChunkUnpacketizer

/-- How far a chunk stream id goes beyond those that fit into one byte. -/
def beyond (csid : UInt32) : Nat := csid.toNat - 64

/-- The chunk stream id that is read from the basic header of one.  From 319 on, the higher byte of what
goes beyond is written first, and read as the lower one. -/
def readBack (csid : UInt32) : UInt32 :=
  if csid < 319 then csid else UInt32.ofNat (64 + beyond csid / 256 + beyond csid % 256 * 256)

section Bytes

variable {fmt : UInt8} {csid : UInt32}

theorem toNat_sub_64 (h : 64 ≤ csid) : (csid - 64).toNat = beyond csid :=
  UInt32.toNat_sub_of_le csid 64 h

theorem beyond_lt (h : csid ≤ 65599) : beyond csid < 2 ^ 16 := by
  have hNat := UInt32.le_iff_toNat_le.mp h
  have h65599 : (65599 : UInt32).toNat = 65599 := rfl
  rw [beyond]
  omega

theorem basicHeaderBytes_three (h : 319 ≤ csid) (hHigh : csid ≤ 65599) :
    basicHeaderBytes fmt csid =
      [fmt <<< 6 ||| 1, UInt8.ofNat (beyond csid / 256), UInt8.ofNat (beyond csid)] := by
  have hLarge : csid ≥ 64 + 255 := h
  have h64 : 64 ≤ csid := UInt32.le_trans (by decide) h
  rw [basicHeaderBytes, if_pos hLarge, UInt32.toNat_toUInt16, toNat_sub_64 h64,
    Nat.mod_eq_of_lt (beyond_lt hHigh)]
  rfl

theorem basicHeaderBytes_two (h : 64 ≤ csid) (hSmall : csid < 319) :
    basicHeaderBytes fmt csid = [fmt <<< 6, UInt8.ofNat (beyond csid)] := by
  have hNot : ¬csid ≥ 64 + 255 := UInt32.not_le.mpr hSmall
  have hByte : (csid - 64).toUInt8 = UInt8.ofNat (beyond csid) := by
    rw [← UInt8.toNat_inj, UInt32.toNat_toUInt8, UInt8.toNat_ofNat', toNat_sub_64 h]
  rw [basicHeaderBytes, if_neg hNot, if_pos h, hByte]
  rfl

theorem basicHeaderBytes_one (h : csid < 64) :
    basicHeaderBytes fmt csid = [fmt <<< 6 ||| csid.toUInt8] := by
  have hNot : ¬csid ≥ 64 + 255 := UInt32.not_le.mpr (UInt32.lt_trans h (by decide))
  rw [basicHeaderBytes, if_neg hNot, if_neg (UInt32.not_le.mpr h)]

/-- The basic header that is written is one of the chunk stream id that is read back. -/
theorem isBasicHeader_readBack (hFmt : fmt < 4) (hLow : 2 ≤ csid) (hHigh : csid ≤ 65599) :
    IsBasicHeader fmt (readBack csid) (basicHeaderBytes fmt csid) := by
  have hLowNat := UInt32.le_iff_toNat_le.mp hLow
  have hHighNat := UInt32.le_iff_toNat_le.mp hHigh
  have h2 : (2 : UInt32).toNat = 2 := rfl
  have h64 : (64 : UInt32).toNat = 64 := rfl
  have h319 : (319 : UInt32).toNat = 319 := rfl
  have h65599 : (65599 : UInt32).toNat = 65599 := rfl
  have hBeyond : beyond csid = csid.toNat - 64 := rfl
  by_cases hOne : csid < 64
  · have hOneNat := UInt32.lt_iff_toNat_lt.mp hOne
    have hByte : csid.toUInt8.toNat = csid.toNat := by
      rw [UInt32.toNat_toUInt8]
      omega
    have hCsid : csid.toUInt8.toUInt32 = csid := by
      rw [← UInt32.toNat_inj, UInt8.toNat_toUInt32, hByte]
    have hBack : readBack csid = csid := if_pos (UInt32.lt_trans hOne (by decide))
    have hHeader : IsBasicHeader fmt csid.toUInt8.toUInt32 [fmt <<< 6 ||| csid.toUInt8] :=
      isBasicHeader_one hFmt (UInt8.le_iff_toNat_le.mpr (by rw [hByte]; exact hLowNat))
        (UInt8.lt_iff_toNat_lt.mpr (by rw [hByte]; exact hOneNat))
    rw [hCsid] at hHeader
    rw [hBack, basicHeaderBytes_one hOne]
    exact hHeader
  have hTwoNat := mt UInt32.lt_iff_toNat_lt.mpr hOne
  by_cases hTwo : csid < 319
  · have hBack : readBack csid = csid := if_pos hTwo
    have hLess := UInt32.lt_iff_toNat_lt.mp hTwo
    obtain ⟨hAnd, hShift⟩ := @basicHeaderByte fmt 0 hFmt (by decide)
    rw [UInt8.or_zero] at hAnd hShift
    rw [hBack, basicHeaderBytes_two (UInt32.not_lt.mp hOne) hTwo]
    refine ⟨fmt <<< 6, _, rfl, ?_, hShift, ?_⟩
    · rw [basicHeaderTail, if_pos hAnd]
      rfl
    · rw [basicHeaderCsid, if_pos hAnd, ← UInt32.toNat_inj]
      have hSum := UInt32.toNat_add 64 (UInt8.ofNat (beyond csid)).toUInt32
      rw [UInt8.toNat_toUInt32, UInt8.toNat_ofNat'] at hSum
      refine hSum.trans ?_
      omega
  · have hThreeNat := mt UInt32.lt_iff_toNat_lt.mpr hTwo
    obtain ⟨hAnd, hShift⟩ := @basicHeaderByte fmt 1 hFmt (by decide)
    have hNotZero : ¬(fmt <<< 6 ||| 1) &&& 0b00111111 = 0 := by
      rw [hAnd]
      decide
    rw [basicHeaderBytes_three (UInt32.not_lt.mp hTwo) hHigh]
    refine ⟨fmt <<< 6 ||| 1, _, rfl, ?_, hShift, ?_⟩
    · rw [basicHeaderTail, if_neg hNotZero, if_pos hAnd]
      rfl
    · rw [basicHeaderCsid, if_neg hNotZero, if_pos hAnd, readBack, if_neg hTwo, ← UInt32.toNat_inj,
        UInt32.toNat_add, UInt32.toNat_add, UInt32.toNat_mul, UInt32.toNat_ofNat',
        UInt8.toNat_toUInt32, UInt8.toNat_toUInt32]
      have hFirst : (BytesReader.decodeU8 ([UInt8.ofNat (beyond csid / 256),
          UInt8.ofNat (beyond csid)].take 1)).toNat = beyond csid / 256 % 256 :=
        UInt8.toNat_ofNat' ..
      have hSecond : (BytesReader.decodeU8 (([UInt8.ofNat (beyond csid / 256),
          UInt8.ofNat (beyond csid)].drop 1).take 1)).toNat = beyond csid % 256 :=
        UInt8.toNat_ofNat' ..
      have hSmall := beyond_lt hHigh
      have hByte : beyond csid / 256 % 256 = beyond csid / 256 := Nat.mod_eq_of_lt (by omega)
      have h256 : (256 : UInt32).toNat = 256 := rfl
      rw [hFirst, hSecond, h64, h256, hByte]
      omega

/-- It is the one that was written if it takes less than three bytes, or two bytes that are the same. -/
theorem readBack_eq_iff (hHigh : csid ≤ 65599) :
    readBack csid = csid ↔ csid < 319 ∨ (csid.toNat - 64) % 257 = 0 := by
  by_cases hLess : csid < 319
  · exact iff_of_true (if_pos hLess) (.inl hLess)
  have hLarge := mt UInt32.lt_iff_toNat_lt.mpr hLess
  have h319 : (319 : UInt32).toNat = 319 := rfl
  have hSmall := beyond_lt hHigh
  have hCsid : csid.toNat = 64 + beyond csid := by
    rw [beyond]
    omega
  rw [readBack, if_neg hLess, ← UInt32.toNat_inj, UInt32.toNat_ofNat', or_iff_right hLess,
    Nat.mod_eq_of_lt (by omega), hCsid, Nat.add_sub_cancel_left]
  have hSplit := Nat.div_add_mod (beyond csid) 256
  have hByte := Nat.mod_lt (beyond csid) (by decide : 256 > 0)
  constructor
  · intro hSame
    have hTwice : beyond csid = 257 * (beyond csid % 256) := by omega
    rw [hTwice]
    exact Nat.mul_mod_right 257 _
  · intro hMultiple
    have hTimes := Nat.div_add_mod (beyond csid) 257
    omega

end Bytes

/-! ### Written and read -/

/-- How many bytes a basic header takes. -/
def basicHeaderLength (csid : UInt32) : Nat := if csid < 64 then 1 else if csid < 320 then 2 else 3

/-- The basic header that is written takes as many bytes as its chunk stream id says, and a reader that
finds it before a tail gives it back and leaves the tail. -/
def BasicHeaderReturns (fmt : UInt8) (csid : UInt32) (s : PackState) (self : ChunkUnpacketizer)
    (tail : List UInt8) : Prop :=
  ∃ bytes, writeBasicHeader fmt csid s = .ok () (s.append bytes) ∧
    bytes.length = basicHeaderLength csid ∧
    ∃ self', readBasicHeader (self.setReader ⟨bytes ++ tail⟩) =
      .ok (.chunkBasicHeaderResult ⟨fmt, csid⟩) self' ∧ self'.buffer = tail

theorem PackState.append_inj {s : PackState} {bytes bytes' : List UInt8}
    (h : s.append bytes = s.append bytes') : bytes = bytes' :=
  List.append_cancel_left (congrArg (·.packetizer.writer.bytesWriter.bytes) h)

section Returns

variable {fmt : UInt8} {csid : UInt32} {s : PackState} {self : ChunkUnpacketizer} {tail : List UInt8}

theorem readBack_of_returns (hFmt : fmt < 4) (hLow : 2 ≤ csid) (hHigh : csid ≤ 65599)
    (h : BasicHeaderReturns fmt csid s self tail) :
    readBack csid = csid ∧ ¬self.GivesUp fmt csid := by
  have hHeader := isBasicHeader_readBack hFmt hLow hHigh
  obtain ⟨bytes, hWrite, -, self', hRead, -⟩ := h
  rw [writeBasicHeader_eq] at hWrite
  have hBytes : basicHeaderBytes fmt csid = bytes := by
    apply PackState.append_inj (s := s)
    injection hWrite
  subst hBytes
  by_cases hGivesUp : self.GivesUp fmt (readBack csid)
  · obtain ⟨byte, rest, hSplit, hTail, hFormat, hCsid⟩ := hHeader
    have hWhole := basicHeaderCsid_append tail (Nat.le_of_eq hTail.symm)
    have hBuffer : (self.setReader ⟨basicHeaderBytes fmt csid ++ tail⟩).buffer =
        byte :: (rest ++ tail) := by
      rw [hSplit]
      rfl
    rw [readBasicHeader_givesUp hBuffer (by rw [List.length_append]; omega)
      (by rw [hWhole, hFormat, hCsid]; exact hGivesUp)] at hRead
    cases hRead
  · have hBuffer : (self.setReader ⟨basicHeaderBytes fmt csid ++ tail⟩).buffer =
        basicHeaderBytes fmt csid ++ tail := rfl
    have hResult := readBasicHeader_bytes hHeader hBuffer hGivesUp
    rw [hResult] at hRead
    injection hRead with hSame
    injection hSame with hSame
    injection hSame with _ hBack
    rw [hBack] at hGivesUp
    exact ⟨hBack, hGivesUp⟩

theorem length_basicHeaderBytes (hHigh : csid ≤ 65599) (hBack : readBack csid = csid) :
    (basicHeaderBytes fmt csid).length = basicHeaderLength csid := by
  by_cases hOne : csid < 64
  · rw [basicHeaderBytes_one hOne, basicHeaderLength, if_pos hOne]
    rfl
  rw [basicHeaderLength, if_neg hOne]
  by_cases hTwo : csid < 319
  · rw [basicHeaderBytes_two (UInt32.not_lt.mp hOne) hTwo, if_pos (UInt32.lt_trans hTwo (by decide))]
    rfl
  · have hNot : ¬csid < 320 := by
      intro hLess
      have hEq : csid = 319 := by
        have hLarge := mt UInt32.lt_iff_toNat_lt.mpr hTwo
        have hSmall := UInt32.lt_iff_toNat_lt.mp hLess
        have h319 : (319 : UInt32).toNat = 319 := rfl
        have h320 : (320 : UInt32).toNat = 320 := rfl
        rw [← UInt32.toNat_inj]
        omega
      rw [hEq] at hBack
      exact absurd hBack (by decide)
    rw [basicHeaderBytes_three (UInt32.not_lt.mp hTwo) hHigh, if_neg hNot]
    rfl

/-- A basic header comes back if and only if it takes less than three bytes, or the two bytes of its
chunk stream id are the same, and the reader does not give up. -/
theorem basicHeader_returns_iff (hFmt : fmt ≤ 3) (hLow : 2 ≤ csid) (hHigh : csid ≤ 65599) :
    BasicHeaderReturns fmt csid s self tail ↔
      (csid < 319 ∨ (csid.toNat - 64) % 257 = 0) ∧ ¬self.GivesUp fmt csid := by
  have hLess : fmt < 4 := UInt8.lt_of_le_of_lt hFmt (by decide)
  rw [← readBack_eq_iff hHigh]
  constructor
  · exact readBack_of_returns hLess hLow hHigh
  · rintro ⟨hBack, hGoesOn⟩
    have hHeader := isBasicHeader_readBack hLess hLow hHigh
    rw [hBack] at hHeader
    exact ⟨_, writeBasicHeader_eq fmt csid s, length_basicHeaderBytes hHigh hBack, _,
      readBasicHeader_bytes hHeader rfl hGoesOn, begun_buffer _ _ _⟩

end Returns

theorem twoBytes_return :
    BasicHeaderReturns 3 318 ⟨.new, .new 318 0 0 0 0 0 []⟩ .new [0x17] :=
  (basicHeader_returns_iff (by decide) (by decide) (by decide)).mpr
    ⟨.inl (by decide), fun h => absurd h.2.2.2 (by decide)⟩

/-- Chunk stream 320 is read as chunk stream 65. -/
theorem csid320_lost : ¬∀ (fmt : UInt8) (csid : UInt32), fmt ≤ 3 → 2 ≤ csid → csid ≤ 65599 →
    ∀ s tail, BasicHeaderReturns fmt csid s .new tail := by
  intro hAll
  have hReturns := hAll 0 320 (by decide) (by decide) (by decide) ⟨.new, .new 320 0 0 0 0 0 []⟩ []
  have hBack := (readBack_of_returns (by decide) (by decide) (by decide) hReturns).1
  exact absurd hBack (by decide)

end Xiu.Rtmp.Chunk
