import Xiu.Rtsp.Rtp.Packer

/-! Annex B buffers, of `protocol/rtsp/src/rtp/utils.rs`: a buffer is cut at its start codes, and each
NAL unit goes to the packer.  A buffer that is put together from start codes and NAL units is cut
into these NAL units. -/

namespace Xiu.Rtsp.Rtp

open Bytesio ProofKit Bytesio.Read StreamHub

def findStartCode : List UInt8 → Option Nat
  | [] => none
  | b :: rest =>
    if (b :: rest).take 3 = [0x00, 0x00, 0x01] then some 0 else (findStartCode rest).map (· + 1)

/-- `while second_pos > 0 && nalus[second_pos - 1] == 0`. -/
def backOverZeros (nalus : List UInt8) : Nat → Nat
  | 0 => 0
  | n + 1 => if nalus[n]? = some 0 then backOverZeros nalus n else n + 1

/-- Where the NAL unit ends whose start code is at `firstPos`. -/
def secondPos (nalus : List UInt8) (firstPos : Nat) : Nat :=
  match findStartCode (nalus.drop (firstPos + 3)) with
  | some distanceToFirstPos => backOverZeros nalus (firstPos + 3 + distanceToFirstPos)
  | none => nalus.length

/-- One turn of the loop: the buffer up to where the NAL unit ends is split off, and what follows the
start code is packed. -/
def splitTurn (codec : VideoCodecType) (_ : Unit) : Read VideoPacker (Turn Unit Unit) := do
  let nalus ← remainingBytes
  if nalus.isEmpty then
    pure (.done ())
  else
    match findStartCode nalus with
    | some firstPos => do
      let naluWithStartCode ← readBytes (secondPos nalus firstPos)
      onOwner (packNalu codec (naluWithStartCode.drop (firstPos + 3)))
      pure (.again ())
    | none => pure (.done ())

theorem findStartCode_some {nalus : List UInt8} {firstPos : Nat}
    (h : findStartCode nalus = some firstPos) :
    firstPos + 3 ≤ nalus.length ∧ nalus[firstPos + 2]? = some 1 := by
  induction nalus generalizing firstPos with
  | nil => cases h
  | cons b rest ih =>
    unfold findStartCode at h
    split at h
    · rename_i hCode
      obtain rfl := Option.some.inj h
      have hLength := congrArg List.length hCode
      have hThird := congrArg (·[2]?) hCode
      simp only [List.length_take, List.length_cons, List.length_nil] at hLength
      simp only [List.getElem?_take] at hThird
      exact ⟨by simp only [List.length_cons]; omega, hThird⟩
    · obtain ⟨pos, hPos, rfl⟩ := Option.map_eq_some_iff.mp h
      obtain ⟨hLength, hThird⟩ := ih hPos
      exact ⟨by simp only [List.length_cons]; omega, hThird⟩

theorem backOverZeros_le (nalus : List UInt8) (n : Nat) : backOverZeros nalus n ≤ n := by
  induction n with
  | zero => exact le_rfl
  | succ n ih =>
    unfold backOverZeros
    split
    · omega
    · exact le_rfl

/-- It stops at a byte that is not zero. -/
theorem lt_backOverZeros {nalus : List UInt8} {m n : Nat} (h : nalus[m]? ≠ some 0) (hLt : m < n) :
    m < backOverZeros nalus n := by
  induction n with
  | zero => omega
  | succ n ih =>
    unfold backOverZeros
    split
    · rename_i hZero
      have hNe : m ≠ n := fun hEq => h (hEq ▸ hZero)
      exact ih (by omega)
    · exact hLt

/-- It goes back over the zeros. -/
theorem backOverZeros_eq {nalus : List UInt8} {m n : Nat} (h : nalus[m]? ≠ some 0)
    (hZeros : ∀ i, m < i → i < n → nalus[i]? = some 0) (hLt : m < n) :
    backOverZeros nalus n = m + 1 := by
  induction n with
  | zero => omega
  | succ n ih =>
    unfold backOverZeros
    by_cases hEq : m = n
    · subst hEq
      rw [if_neg h]
    · rw [if_pos (hZeros n (by omega) (by omega))]
      exact ih (fun i hi hn => hZeros i hi (by omega)) (by omega)

/-- A NAL unit ends behind its start code and in the buffer. -/
theorem secondPos_bounds {nalus : List UInt8} {firstPos : Nat}
    (h : findStartCode nalus = some firstPos) :
    firstPos + 3 ≤ secondPos nalus firstPos ∧ secondPos nalus firstPos ≤ nalus.length := by
  obtain ⟨hLength, hThird⟩ := findStartCode_some h
  unfold secondPos
  split
  · rename_i distance hDistance
    have hEnd := (findStartCode_some hDistance).1
    rw [List.length_drop] at hEnd
    have hLe := backOverZeros_le nalus (firstPos + 3 + distance)
    have hNe : nalus[firstPos + 2]? ≠ some 0 := by rw [hThird]; decide
    have hLt : firstPos + 2 < firstPos + 3 + distance := by omega
    have hGe := lt_backOverZeros hNe hLt
    omega
  · omega

/-- What a turn does when there is a start code. -/
theorem splitTurn_eq (codec : VideoCodecType) (packer : VideoPacker) {nalus : List UInt8}
    {firstPos : Nat} (h : findStartCode nalus = some firstPos) :
    splitTurn codec () ⟨packer, ⟨nalus⟩⟩ =
      (onOwner (packNalu codec ((nalus.take (secondPos nalus firstPos)).drop (firstPos + 3))) >>=
        fun _ => pure (.again ())) ⟨packer, ⟨nalus.drop (secondPos nalus firstPos)⟩⟩ := by
  have hNe : ¬nalus.isEmpty = true := by
    rintro hEmpty
    rw [List.isEmpty_iff.mp hEmpty] at h
    cases h
  unfold splitTurn
  rw [bind_remainingBytes]
  refine (congrFun (if_neg hNe) _).trans ?_
  simp only [h]
  exact bind_of_ok (readBytes_ok (secondPos_bounds h).2)

theorem splitTurn_none (codec : VideoCodecType) (packer : VideoPacker) {nalus : List UInt8}
    (h : findStartCode nalus = none) :
    splitTurn codec () ⟨packer, ⟨nalus⟩⟩ = .ok (.done ()) ⟨packer, ⟨nalus⟩⟩ := by
  unfold splitTurn
  rw [bind_remainingBytes]
  split
  · rfl
  · simp only [h]
    rfl

theorem splitTurn_decreases (codec : VideoCodecType) (a a' : Unit) (s s' : Reading VideoPacker)
    (h : splitTurn codec a s = .ok (.again a') s') : s'.reader.len < s.reader.len := by
  obtain ⟨packer, ⟨nalus⟩⟩ := s
  cases hFind : findStartCode nalus with
  | none =>
    exact nomatch (splitTurn_none codec packer hFind).symm.trans h
  | some firstPos =>
    obtain ⟨hGe, hLe⟩ := secondPos_bounds hFind
    obtain ⟨_, s1, hPack, hPure⟩ := bind_eq_ok ((splitTurn_eq codec packer hFind).symm.trans h)
    obtain ⟨_, rfl⟩ := EStateM.Result.ok.inj hPure
    show s1.reader.buffer.length < nalus.length
    rw [onOwner_eq_ok hPack, List.length_drop]
    omega

/-- `while !nalus.is_empty()`. -/
def splitAnnexbAndProcess (codec : VideoCodecType) : Read VideoPacker Unit :=
  loopM (splitTurn codec) (·.reader.len) (splitTurn_decreases codec) ()

def pack (codec : VideoCodecType) (nalus : List UInt8) (timestamp : UInt32) : Pack Unit := do
  modify (·.at timestamp)
  readOver nalus (splitAnnexbAndProcess codec)

/-! ### Buffers put together from NAL units -/

/-- A NAL unit behind a start code of three bytes, or of four. -/
structure Coded where
  fourBytes : Bool
  nalu : List UInt8

/-- How many bytes stand before `00 00 01`. -/
def Coded.firstPos (coded : Coded) : Nat := if coded.fourBytes then 1 else 0

def Coded.bytes (coded : Coded) : List UInt8 :=
  List.replicate coded.firstPos 0x00 ++ 0x00 :: 0x00 :: 0x01 :: coded.nalu

def annexb : List Coded → List UInt8
  | [] => []
  | coded :: rest => coded.bytes ++ annexb rest

/-- A NAL unit whose end can be found: it has no start code in it, and its last byte is not zero. -/
structure Delimited (nalu : List UInt8) : Prop where
  ne_nil : nalu ≠ []
  code : ¬[0x00, 0x00, 0x01] <:+: nalu
  last : nalu.getLast? ≠ some 0

/-- No start code is found where there is none. -/
theorem findStartCode_none {nalu : List UInt8} (h : ¬[0x00, 0x00, 0x01] <:+: nalu) :
    findStartCode nalu = none := by
  induction nalu with
  | nil => rfl
  | cons b nalu ih =>
    obtain ⟨hHere, hRest⟩ := not_or.mp (List.infix_cons_iff.not.mp h)
    have hTake : ¬(b :: nalu).take 3 = [0x00, 0x00, 0x01] := fun hTake =>
      hHere (hTake ▸ List.take_prefix 3 (b :: nalu))
    unfold findStartCode
    rw [if_neg hTake, ih hRest]
    rfl

theorem findStartCode_skip {b : UInt8} {rest : List UInt8}
    (h : ¬(b :: rest).take 3 = [0x00, 0x00, 0x01]) :
    findStartCode (b :: rest) = (findStartCode rest).map (· + 1) := if_neg h

/-- A start code behind such a NAL unit is the first one. -/
theorem findStartCode_append {nalu : List UInt8} (h : Delimited nalu) (rest : List UInt8) :
    findStartCode (nalu ++ rest) = (findStartCode rest).map (· + nalu.length) := by
  obtain ⟨hNe, hInfix, hLast⟩ := h
  have hCode := findStartCode_none hInfix
  clear hInfix
  induction nalu with
  | nil => exact absurd rfl hNe
  | cons b nalu ih =>
    unfold findStartCode at hCode
    split at hCode
    · cases hCode
    rename_i hHere
    have hCode : findStartCode nalu = none := Option.map_eq_none_iff.mp hCode
    obtain _ | ⟨c, nalu⟩ := nalu
    · have hb : ¬(b :: rest).take 3 = [0x00, 0x00, 0x01] := by
        intro hTake
        exact hLast (congrArg List.head? hTake)
      exact findStartCode_skip hb
    · have hb : ¬(b :: (c :: nalu ++ rest)).take 3 = [0x00, 0x00, 0x01] := by
        intro hTake
        obtain _ | ⟨d, nalu⟩ := nalu
        · exact hLast (congrArg (·[1]?) hTake)
        · exact hHere hTake
      refine (findStartCode_skip hb).trans ?_
      rw [ih (by simp) hLast hCode, Option.map_map]
      rfl

/-- The start code of a NAL unit is found. -/
theorem findStartCode_bytes (coded : Coded) (rest : List UInt8) :
    findStartCode (coded.bytes ++ rest) = some coded.firstPos := by
  obtain ⟨_ | _, nalu⟩ := coded
  · rfl
  · rfl

theorem length_bytes (coded : Coded) :
    coded.bytes.length = coded.firstPos + 3 + coded.nalu.length := by
  simp only [Coded.bytes, List.length_append, List.length_replicate, List.length_cons]
  omega

theorem drop_bytes (coded : Coded) (rest : List UInt8) :
    (coded.bytes ++ rest).drop (coded.firstPos + 3) = coded.nalu ++ rest := by
  obtain ⟨_ | _, nalu⟩ := coded
  · rfl
  · rfl

/-- The last byte of a NAL unit, found in a buffer. -/
theorem getElem?_last {coded : Coded} (h : Delimited coded.nalu) (rest : List UInt8) :
    (coded.bytes ++ rest)[coded.firstPos + 3 + (coded.nalu.length - 1)]? ≠ some 0 := by
  have hPos := List.length_pos_iff.mpr h.ne_nil
  rw [← List.getElem?_drop, drop_bytes, List.getElem?_append_left (by omega),
    ← List.getLast?_eq_getElem?]
  exact h.last

/-- The NAL unit in front of a buffer ends where it should. -/
theorem secondPos_annexb {coded : Coded} (h : Delimited coded.nalu) (rest : List Coded) :
    secondPos (annexb (coded :: rest)) coded.firstPos = coded.bytes.length := by
  have hPos := List.length_pos_iff.mpr h.ne_nil
  unfold secondPos
  rw [annexb, drop_bytes]
  obtain _ | ⟨next, rest⟩ := rest
  · rw [annexb, List.append_nil, List.append_nil, findStartCode_none h.code]
  · rw [annexb, findStartCode_append h, findStartCode_bytes, Option.map_some]
    have hEnd := backOverZeros_eq (getElem?_last h (next.bytes ++ annexb rest))
      (n := coded.firstPos + 3 + (next.firstPos + coded.nalu.length)) ?_ (by omega)
    · rw [length_bytes]
      exact hEnd.trans (by omega)
    · -- only the zero of a start code of four bytes lies between
      intro i hi hn
      obtain ⟨_ | _, nalu⟩ := next
      · have hNext : (Coded.mk false nalu).firstPos = 0 := rfl
        omega
      · have hNext : (Coded.mk true nalu).firstPos = 1 := rfl
        have hLength := length_bytes coded
        obtain rfl : i = coded.bytes.length := by omega
        rw [List.getElem?_append_right le_rfl, Nat.sub_self]
        rfl

theorem splitTurn_annexb (codec : VideoCodecType) (packer : VideoPacker) {coded : Coded}
    (h : Delimited coded.nalu) (rest : List Coded) :
    splitTurn codec () ⟨packer, ⟨annexb (coded :: rest)⟩⟩ =
      (onOwner (packNalu codec coded.nalu) >>= fun _ => pure (.again ()))
        ⟨packer, ⟨annexb rest⟩⟩ := by
  refine (splitTurn_eq codec packer (findStartCode_bytes coded (annexb rest))).trans ?_
  have hEnd : secondPos (coded.bytes ++ annexb rest) coded.firstPos = coded.bytes.length :=
    secondPos_annexb h rest
  have hNalu : coded.bytes.drop (coded.firstPos + 3) = coded.nalu := by
    have hDrop := drop_bytes coded []
    rwa [List.append_nil, List.append_nil] at hDrop
  rw [hEnd, List.take_left, List.drop_left, hNalu]

/-- The packer packs the NAL units of a buffer. -/
def packNalus (codec : VideoCodecType) : List (List UInt8) → Pack Unit
  | [] => pure ()
  | nalu :: rest => do
    packNalu codec nalu
    packNalus codec rest

/-- A buffer put together from NAL units is cut into these. -/
theorem splitAnnexbAndProcess_annexb (codec : VideoCodecType) (packer : VideoPacker)
    {coded : List Coded} (h : ∀ c ∈ coded, Delimited c.nalu) :
    readOver (annexb coded) (splitAnnexbAndProcess codec) packer =
      packNalus codec (coded.map (·.nalu)) packer := by
  induction coded generalizing packer with
  | nil => exact readOver_ok (loopM_done (splitTurn_none codec packer rfl))
  | cons first rest ih =>
    obtain ⟨hFirst, hRest⟩ := List.forall_mem_cons.mp h
    have hTurn := splitTurn_annexb codec packer hFirst rest
    rw [List.map_cons, packNalus]
    cases hPack : packNalu codec first.nalu packer with
    | ok _ packer' =>
      rw [bind_of_ok (onOwner_ok hPack), pure_apply] at hTurn
      have hGo : splitAnnexbAndProcess codec ⟨packer, ⟨annexb (first :: rest)⟩⟩ =
          splitAnnexbAndProcess codec ⟨packer', ⟨annexb rest⟩⟩ := loopM_again hTurn
      rw [bind_of_ok hPack, ← ih packer' hRest]
      unfold readOver
      rw [hGo]
    | error e packer' =>
      rw [bind_of_error (onOwner_error hPack)] at hTurn
      rw [bind_of_error hPack]
      exact readOver_error (loopM_error hTurn)

theorem pack_annexb (codec : VideoCodecType) (timestamp : UInt32) (packer : VideoPacker)
    {coded : List Coded} (h : ∀ c ∈ coded, Delimited c.nalu) :
    pack codec (annexb coded) timestamp packer =
      packNalus codec (coded.map (·.nalu)) (packer.at timestamp) := by
  rw [pack, bind_modify]
  exact splitAnnexbAndProcess_annexb codec _ h

end Xiu.Rtsp.Rtp
