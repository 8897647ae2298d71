import Xiu.Flv.AvcRecord
import Xiu.H264.Sps

/-! Which records leave true counts behind, and which come back from a processor as they went in. -/

namespace Xiu.Flv.Mpeg4Avc

open Bytesio ProofKit

variable {parseSps : ParseSps} {self : Mpeg4Avc}

/-! ### Counts that agree with what is stored -/

/-- The counts are those of the units that are stored, and these are what is put before an IDR unit. -/
structure Consistent (avc : Mpeg4Avc) : Prop extends Stored avc where
  nbSps : avc.nbSps.toNat = avc.sps.length
  nbPps : avc.nbPps.toNat = avc.pps.length

/-- The units that a count announces are there and accepted; a count of zero, which drops nothing, comes
when nothing is stored. -/
def Announced (accepted : List UInt8 → Prop) (n : UInt8) (stored : List (List UInt8))
    (bytes rest : List UInt8) : Prop :=
  if n = 0 then stored = [] ∧ rest = bytes else ∃ units, Takes accepted n.toNat bytes units rest

/-- The counts that a record gets to are true. -/
def Whole (parseSps : ParseSps) (self : Mpeg4Avc) (record : List UInt8) : Prop :=
  ∀ version profile compatibility level lengthSize nbSps bytes,
    record = version :: profile :: compatibility :: level :: lengthSize :: nbSps :: bytes →
      ∃ rest, Announced (AcceptsSps parseSps) (nbSps &&& 0x1F) self.sps bytes rest ∧
        ∀ nbPps bytes', rest = nbPps :: bytes' →
          ∃ rest', Announced (fun _ => True) nbPps self.pps bytes' rest'

theorem announced_zero {accepted : List UInt8 → Prop} {stored : List (List UInt8)}
    {bytes rest : List UInt8} : Announced accepted 0 stored bytes rest ↔ stored = [] ∧ rest = bytes :=
  Iff.rfl

theorem announced_pos {accepted : List UInt8 → Prop} {n : UInt8} (h : n ≠ 0)
    {stored : List (List UInt8)} {bytes rest : List UInt8} :
    Announced accepted n stored bytes rest ↔ ∃ units, Takes accepted n.toNat bytes units rest := by
  rw [Announced, if_neg h]

/-- A count of zero comes as it should exactly when nothing is stored. -/
theorem exists_announced_zero {accepted : List UInt8 → Prop} {stored : List (List UInt8)}
    {bytes : List UInt8} : (∃ rest, Announced accepted 0 stored bytes rest) ↔ 0 = stored.length := by
  constructor
  · rintro ⟨rest, hAnnounced⟩
    exact (congrArg List.length (announced_zero.mp hAnnounced).1).symm
  · intro hZero
    exact ⟨bytes, announced_zero.mpr ⟨List.eq_nil_of_length_eq_zero hZero.symm, rfl⟩⟩

theorem not_announced {accepted : List UInt8 → Prop} {n : UInt8} (hPos : n ≠ 0)
    {stored : List (List UInt8)} {bytes : List UInt8}
    (hNot : ¬∃ units rest, Takes accepted n.toNat bytes units rest) {rest : List UInt8} :
    ¬Announced accepted n stored bytes rest := by
  intro hAnnounced
  obtain ⟨units, hTakes⟩ := (announced_pos hPos).mp hAnnounced
  exact hNot ⟨units, rest, hTakes⟩

/-- What the PPS units leave: the SPS units alone, and a count that is true exactly when it should be. -/
theorem loadPpsUnits_counts (bytes : List UInt8) (hCount : self.nbPps.toNat = self.pps.length)
    {self' : Mpeg4Avc} (h : (stateOf (loadPpsUnits ⟨self, ⟨bytes⟩⟩)).owner = self') :
    self'.nbSps = self.nbSps ∧ self'.sps = self.sps ∧
      (self'.nbPps.toNat = self'.pps.length ↔ ∀ nbPps bytes', bytes = nbPps :: bytes' →
        ∃ rest', Announced (fun _ => True) nbPps self.pps bytes' rest') := by
  cases bytes with
  | nil =>
    obtain ⟨e, hRun⟩ := @loadPpsUnits_nil self
    rw [hRun] at h
    cases h
    refine ⟨rfl, rfl, iff_of_true hCount ?_⟩
    intro nbPps bytes' hBytes
    cases hBytes
  | cons nbPps bytes =>
    have hWhole : (∀ nbPps' bytes', nbPps :: bytes = nbPps' :: bytes' →
        ∃ rest', Announced (fun _ => True) nbPps' self.pps bytes' rest') ↔
          ∃ rest', Announced (fun _ => True) nbPps self.pps bytes rest' := by
      constructor
      · intro hAll
        exact hAll nbPps bytes rfl
      · intro hOne nbPps' bytes' hBytes
        cases hBytes
        exact hOne
    rw [hWhole]
    rw [loadPpsUnits_cons] at h
    rcases @loads_counted _ ppsKind _ clearPpsData loads_loadPps (fun _ => rfl) nbPps
        (fun _ => dropRest) ⟨{ self with nbPps }, ⟨bytes⟩⟩ _ rfl with
      ⟨rfl, hRun⟩ | ⟨hPos, units, rest, grown, hTakes, hGrown, hRun⟩ |
        ⟨hPos, hNot, e, grown, reader, units, hLength, hGrown, hRun⟩
    · rw [hRun] at h
      cases h
      exact ⟨rfl, rfl, exists_announced_zero.symm⟩
    · rw [hRun] at h
      cases hGrown
      cases h
      refine ⟨rfl, rfl, iff_of_true ?_ ⟨rest, (announced_pos hPos).mpr ⟨units, hTakes⟩⟩⟩
      exact hTakes.length.symm.trans (congrArg List.length (List.nil_append units)).symm
    · rw [hRun] at h
      cases hGrown
      cases h
      refine ⟨rfl, rfl, iff_of_false ?_ ?_⟩
      · intro hEqual
        have hUnits : nbPps.toNat = ([] ++ units).length := hEqual
        rw [List.nil_append] at hUnits
        omega
      · rintro ⟨rest', hAnnounced⟩
        exact not_announced hPos hNot hAnnounced

theorem exists_header {record : List UInt8} (h : ¬record.length < 6) :
    ∃ version profile compatibility level lengthSize nbSps bytes, record =
      version :: profile :: compatibility :: level :: lengthSize :: nbSps :: bytes := by
  match record with
  | a :: b :: c :: d :: e :: f :: bytes => exact ⟨a, b, c, d, e, f, bytes, rfl⟩
  | [] | [_] | [_, _] | [_, _, _] | [_, _, _, _] | [_, _, _, _, _] => exact absurd (by simp) h

/-- A record that is loaded when the counts are true leaves true counts if and only if it is whole. -/
theorem load_counts_iff (hSelf : Consistent self) {record : List UInt8} {self' : Mpeg4Avc}
    (h : (stateOf (decoderConfigurationRecordLoad parseSps ⟨self, ⟨record⟩⟩)).owner = self') :
    (self'.nbSps.toNat = self'.sps.length ∧ self'.nbPps.toNat = self'.pps.length) ↔
      Whole parseSps self record := by
  by_cases hShort : record.length < 6
  · obtain ⟨e, profile, compatibility, level, naluLength, reader, hRun⟩ :=
      @load_short parseSps self record hShort
    rw [hRun] at h
    cases h
    refine iff_of_true ⟨hSelf.nbSps, hSelf.nbPps⟩ ?_
    rintro version profile compatibility level lengthSize nbSps bytes rfl
    exact absurd hShort (by simp)
  · obtain ⟨version, profile, compatibility, level, lengthSize, nbSps, bytes, rfl⟩ :=
      exists_header hShort
    have hWhole : Whole parseSps self
        (version :: profile :: compatibility :: level :: lengthSize :: nbSps :: bytes) ↔
        ∃ rest, Announced (AcceptsSps parseSps) (nbSps &&& 0x1F) self.sps bytes rest ∧
          ∀ nbPps bytes', rest = nbPps :: bytes' →
            ∃ rest', Announced (fun _ => True) nbPps self.pps bytes' rest' := by
      constructor
      · intro hAll
        exact hAll _ _ _ _ _ _ _ rfl
      · intro hOne version' profile' compatibility' level' lengthSize' nbSps' bytes' hRecord
        cases hRecord
        exact hOne
    rw [hWhole]
    rw [load_headed] at h
    rcases @loads_counted _ (spsKind parseSps) _ clearSpsData (loads_loadSps parseSps) (fun _ => rfl)
        (nbSps &&& 0x1F) (fun _ => loadPpsUnits)
        ⟨headed self profile compatibility level lengthSize nbSps, ⟨bytes⟩⟩ _ rfl with
      ⟨hZero, hRun⟩ | ⟨hPos, units, rest, grown, hTakes, hGrown, hRun⟩ |
        ⟨hPos, hNot, e, grown, reader, units, hLength, hGrown, hRun⟩
    · rw [hRun] at h
      obtain ⟨hNb, hSps, hPps⟩ := @loadPpsUnits_counts
        (headed self profile compatibility level lengthSize nbSps) bytes hSelf.nbPps self' h
      rw [hNb, hSps, hPps]
      have hHeaded : (headed self profile compatibility level lengthSize nbSps).nbSps.toNat = 0 :=
        congrArg UInt8.toNat hZero
      rw [hHeaded, hZero]
      constructor
      · rintro ⟨hNone, hUnits⟩
        exact ⟨bytes, announced_zero.mpr ⟨List.eq_nil_of_length_eq_zero hNone.symm, rfl⟩, hUnits⟩
      · rintro ⟨rest, hAnnounced, hUnits⟩
        obtain ⟨hNone, rfl⟩ := announced_zero.mp hAnnounced
        exact ⟨(congrArg List.length hNone).symm, hUnits⟩
    · obtain ⟨width, height, rfl⟩ := hGrown
      rw [hRun] at h
      have hTail := fun hKept => @loadPpsUnits_counts _ rest hKept self' h
      obtain ⟨hNb, hSps, hPps⟩ := hTail hSelf.nbPps
      rw [hNb, hSps, hPps]
      have hCount : (nbSps &&& 0x1F).toNat = ([] ++ units).length := by
        rw [List.nil_append, hTakes.length]
      constructor
      · rintro ⟨-, hUnits⟩
        exact ⟨rest, (announced_pos hPos).mpr ⟨units, hTakes⟩, hUnits⟩
      · rintro ⟨rest', hAnnounced, hUnits⟩
        obtain ⟨units', hTakes'⟩ := (announced_pos hPos).mp hAnnounced
        obtain ⟨-, rfl⟩ := takes_unique hTakes hTakes'
        exact ⟨hCount, hUnits⟩
    · obtain ⟨width, height, rfl⟩ := hGrown
      rw [hRun] at h
      cases h
      refine iff_of_false ?_ ?_
      · rintro ⟨hEqual, -⟩
        have hUnits : (nbSps &&& 0x1F).toNat = ([] ++ units).length := hEqual
        rw [List.nil_append] at hUnits
        omega
      · rintro ⟨rest, hAnnounced, -⟩
        exact not_announced hPos hNot hAnnounced

/-- Units that are there are saved. -/
theorem saveUnits_saves {units : List (List UInt8)} {n i : Nat} (h : i + n ≤ units.length)
    (writer : BytesWriter) : ∃ writer', saveUnits units n i writer = .ok writer' := by
  induction n generalizing i writer with
  | zero => exact ⟨writer, rfl⟩
  | succ n ih =>
    have hLt : i < units.length := by omega
    have hGet : units[i]? = some units[i] := List.getElem?_eq_getElem hLt
    rw [saveUnits, hGet]
    exact ih (by omega) _

/-- Counts that are true can be saved, once a length of the lengths is known. -/
theorem Consistent.saves (h : Consistent self) (hLength : self.naluLength ≠ 0) :
    ∃ bytes, decoderConfigurationRecordSave self = .ok bytes := by
  rw [decoderConfigurationRecordSave, if_neg hLength]
  simp only [bind, Except.bind]
  obtain ⟨writer, hSps⟩ := saveUnits_saves (show 0 + self.nbSps.toNat ≤ self.sps.length by
    rw [Nat.zero_add, h.nbSps]) (((((((⟨[]⟩ : BytesWriter).writeU8 1).writeU8 self.profile).writeU8
      self.compatibility).writeU8 self.level).writeU8 (self.naluLength - 1 ||| 0xFC)).writeU8
        (self.nbSps ||| 0xE0))
  rw [hSps]
  dsimp only
  obtain ⟨writer', hPps⟩ := saveUnits_saves (show 0 + self.nbPps.toNat ≤ self.pps.length by
    rw [Nat.zero_add, h.nbPps]) (writer.writeU8 self.nbPps)
  rw [hPps]
  dsimp only
  split
  · exact ⟨_, rfl⟩
  · exact ⟨_, rfl⟩

theorem consistent_new : Consistent new := ⟨⟨rfl, rfl, Nat.zero_le 4⟩, rfl, rfl⟩

theorem load_consistent_iff (hSelf : Consistent self) {record : List UInt8} {self' : Mpeg4Avc}
    (h : (processor parseSps).step self record self') : Consistent self' ↔ Whole parseSps self record := by
  have hStored : Stored self' := h ▸ (leaves_load parseSps hSelf.toStored).stateOf
  rw [← load_counts_iff hSelf h.symm]
  constructor
  · intro hConsistent
    exact ⟨hConsistent.nbSps, hConsistent.nbPps⟩
  · rintro ⟨hSps, hPps⟩
    exact ⟨hStored, hSps, hPps⟩

/-- As long as every record is whole, the counts are true and can be saved; a record that is not whole
leaves one that is false. -/
theorem reached_consistent
    (h : ((processor parseSps).guard (Whole parseSps)).Reached self) :
    Consistent self ∧
      (self.naluLength ≠ 0 → ∃ bytes, decoderConfigurationRecordSave self = .ok bytes) ∧
      ∀ record self', (processor parseSps).step self record self' →
        (Consistent self' ↔ Whole parseSps self record) := by
  have hSelf : Consistent self := by
    apply h.invariant
    · rintro self rfl
      exact consistent_new
    · rintro self record self' hSelf ⟨hWhole, hStep⟩
      exact (load_consistent_iff hSelf hStep).mpr hWhole
  exact ⟨hSelf, hSelf.saves, fun record self' hStep => load_consistent_iff hSelf hStep⟩

/-! ### Records that come back -/

/-- `chroma_format` and the depths, behind their reserved bits, and no SPS extension. -/
structure Extension where
  chromaFormat : Fin 4
  bitDepthLumaMinus8 : Fin 8
  bitDepthChromaMinus8 : Fin 8
  deriving DecidableEq

def Extension.bytes (extension : Extension) : List UInt8 :=
  [0xFC ||| UInt8.ofNat extension.chromaFormat, 0xF8 ||| UInt8.ofNat extension.bitDepthLumaMinus8,
    0xF8 ||| UInt8.ofNat extension.bitDepthChromaMinus8, 0]

theorem zero_lt_four : 0 < 4 := by decide

theorem three_lt_four : 3 < 4 := by decide

theorem zero_lt_eight : 0 < 8 := by decide

def Extension.zeros : Extension :=
  ⟨⟨0, zero_lt_four⟩, ⟨0, zero_lt_eight⟩, ⟨0, zero_lt_eight⟩⟩

/-- An `AVCDecoderConfigurationRecord`. -/
structure AvcRecord where
  profile : UInt8
  compatibility : UInt8
  level : UInt8
  lengthSizeMinusOne : Fin 4
  sps : List (List UInt8)
  pps : List (List UInt8)
  extension : Option Extension
  sps_length : sps.length < 32
  pps_length : pps.length < 256
  sps_lengths : ∀ unit ∈ sps, unit.length < 2 ^ 16
  pps_lengths : ∀ unit ∈ pps, unit.length < 2 ^ 16

def AvcRecord.tail (record : AvcRecord) : List UInt8 :=
  match record.extension with
  | some extension => extension.bytes
  | none => []

def AvcRecord.bytes (record : AvcRecord) : List UInt8 :=
  1 :: record.profile :: record.compatibility :: record.level ::
    (0xFC ||| UInt8.ofNat record.lengthSizeMinusOne) :: (0xE0 ||| UInt8.ofNat record.sps.length) ::
      (record.sps.flatMap framed16 ++
        UInt8.ofNat record.pps.length :: (record.pps.flatMap framed16 ++ record.tail))

/-- The units that are stored are loaded, behind their count. -/
theorem saves_counted {units stored : List (List UInt8)} {n : Nat} (hCount : units.length = n)
    (hStored : n = 0 ∨ stored = units) (hLengths : ∀ unit ∈ units, unit.length < 2 ^ 16)
    (writer : BytesWriter) :
    saveUnits stored n 0 writer = .ok ⟨writer.bytes ++ units.flatMap framed16⟩ := by
  rcases hStored with rfl | rfl
  · rw [List.eq_nil_of_length_eq_zero hCount, List.flatMap_nil, List.append_nil]
    rfl
  · exact saveUnits_ok (by rw [Nat.zero_add, hCount]) writer hLengths

theorem takes_flatMap {accepted : List UInt8 → Prop} {units : List (List UInt8)}
    (hLengths : ∀ unit ∈ units, unit.length < 2 ^ 16) (hAccepts : ∀ unit ∈ units, accepted unit)
    (rest : List UInt8) :
    Takes accepted units.length (units.flatMap framed16 ++ rest) units rest :=
  ⟨rfl, rfl, fun unit hUnit => ⟨hLengths unit hUnit, hAccepts unit hUnit⟩⟩

/-- The units of a record are loaded, behind their count. -/
theorem loads_counted_of_takes {β : Type} (kind : Kind) {load : Nat → Load Unit}
    {clear : Mpeg4Avc → Mpeg4Avc}
    (hOne : ∀ s, Loads kind.accepted kind.Grown 1 s (load (kind.count s.owner) s))
    (hClear : ∀ self, kind.count (clear self) = 0) (n : UInt8) (rest : Unit → Load β)
    (s : Reading Mpeg4Avc) {units : List (List UInt8)} {bytes : List UInt8}
    (hTakes : Takes kind.accepted n.toNat s.reader.buffer units bytes) :
    ∃ self, (n.toNat = 0 ∧ self = s.owner ∨ kind.Grown (clear s.owner) units self) ∧
      (if n > 0 then update clear >>= fun _ => loadFrom load n.toNat 0 >>= rest
        else loadFrom load n.toNat 0 >>= rest) s = rest () ⟨self, ⟨bytes⟩⟩ := by
  rcases loads_counted kind hOne hClear n rest s rfl with
    ⟨rfl, hRun⟩ | ⟨-, units', bytes', self, hTakes', hGrown, hRun⟩ | ⟨-, hNot, -⟩
  · obtain ⟨-, rfl⟩ := takes_unique hTakes takes_zero
    exact ⟨s.owner, .inl ⟨rfl, rfl⟩, hRun⟩
  · obtain ⟨rfl, rfl⟩ := takes_unique hTakes hTakes'
    exact ⟨self, .inr hGrown, hRun⟩
  · exact absurd ⟨units, bytes, hTakes⟩ hNot

/-- What loading a record makes of the fields: those of an extension stay as they are. -/
structure LoadedFrom (before : Mpeg4Avc) (record : AvcRecord) (avc : Mpeg4Avc) : Prop where
  profile : avc.profile = record.profile
  compatibility : avc.compatibility = record.compatibility
  level : avc.level = record.level
  naluLength : avc.naluLength = UInt8.ofNat record.lengthSizeMinusOne + 1
  nbSps : avc.nbSps = UInt8.ofNat record.sps.length
  sps : record.sps.length = 0 ∨ avc.sps = record.sps
  nbPps : avc.nbPps = UInt8.ofNat record.pps.length
  pps : record.pps.length = 0 ∨ avc.pps = record.pps
  chromaFormatIdc : avc.chromaFormatIdc = before.chromaFormatIdc
  bitDepthLumaMinus8 : avc.bitDepthLumaMinus8 = before.bitDepthLumaMinus8
  bitDepthChromaMinus8 : avc.bitDepthChromaMinus8 = before.bitDepthChromaMinus8

theorem lengthSize_mask :
    ∀ size : Fin 4, ((0xFC : UInt8) ||| UInt8.ofNat size) &&& 0x03 = UInt8.ofNat size := by
  decide

theorem lengthSize_restored :
    ∀ size : Fin 4, UInt8.ofNat size + 1 ≠ 0 ∧ UInt8.ofNat size + 1 - 1 ||| 0xFC =
      0xFC ||| UInt8.ofNat size := by
  decide

theorem nbSps_mask :
    ∀ n : Fin 32, ((0xE0 : UInt8) ||| UInt8.ofNat n) &&& 0x1F = UInt8.ofNat n := by
  decide

theorem nbSps_restored :
    ∀ n : Fin 32, UInt8.ofNat n ||| 0xE0 = 0xE0 ||| UInt8.ofNat n := by
  decide

variable (record : AvcRecord)

theorem toNat_spsCount : (UInt8.ofNat record.sps.length).toNat = record.sps.length :=
  UInt8.toNat_ofNat_of_lt' (Nat.lt_trans record.sps_length (by decide))

theorem toNat_ppsCount : (UInt8.ofNat record.pps.length).toNat = record.pps.length :=
  UInt8.toNat_ofNat_of_lt' record.pps_length

/-- The SPS of a record, taken as they are counted. -/
theorem takes_sps (hAccepts : ∀ unit ∈ record.sps, AcceptsSps parseSps unit) (rest : List UInt8) :
    Takes (AcceptsSps parseSps) (UInt8.ofNat record.sps.length).toNat
      (record.sps.flatMap framed16 ++ rest) record.sps rest := by
  rw [toNat_spsCount]
  exact takes_flatMap record.sps_lengths hAccepts rest

theorem takes_pps (rest : List UInt8) :
    Takes (fun _ => True) (UInt8.ofNat record.pps.length).toNat
      (record.pps.flatMap framed16 ++ rest) record.pps rest := by
  rw [toNat_ppsCount]
  exact takes_flatMap record.pps_lengths (fun _ _ => trivial) rest

theorem load_record (hAccepts : ∀ unit ∈ record.sps, AcceptsSps parseSps unit) :
    ∃ self', decoderConfigurationRecordLoad parseSps ⟨self, ⟨record.bytes⟩⟩ = .ok () ⟨self', ⟨[]⟩⟩ ∧
      LoadedFrom self record self' := by
  have hNbSps := nbSps_mask ⟨record.sps.length, record.sps_length⟩
  have hSpsCount := toNat_spsCount record
  have hPpsCount := toNat_ppsCount record
  have hSps := takes_sps record hAccepts
    (UInt8.ofNat record.pps.length :: (record.pps.flatMap framed16 ++ record.tail))
  rw [AvcRecord.bytes, load_headed, hNbSps]
  obtain ⟨self1, hSelf1, hRun1⟩ := @loads_counted_of_takes _ (spsKind parseSps) _ clearSpsData
    (loads_loadSps parseSps) (fun _ => rfl) (UInt8.ofNat record.sps.length) (fun _ => loadPpsUnits)
    ⟨_, ⟨_⟩⟩ _ _ hSps
  rw [hRun1, loadPpsUnits_cons]
  obtain ⟨self2, hSelf2, hRun2⟩ := @loads_counted_of_takes _ ppsKind _ clearPpsData loads_loadPps (fun _ => rfl)
    (UInt8.ofNat record.pps.length) (fun _ => dropRest) ⟨_, ⟨_⟩⟩ _ _ (takes_pps record record.tail)
  rw [hRun2]
  refine ⟨self2, rfl, ?_⟩
  have hNaluLength := congrArg (· + 1) (lengthSize_mask record.lengthSizeMinusOne)
  rcases hSelf1 with ⟨hNoSps, rfl⟩ | ⟨width, height, rfl⟩
  · rcases hSelf2 with ⟨hNoPps, rfl⟩ | hGrown
    · exact ⟨rfl, rfl, rfl, hNaluLength, hNbSps, .inl (hSpsCount.symm.trans hNoSps), rfl,
        .inl (hPpsCount.symm.trans hNoPps), rfl, rfl, rfl⟩
    · cases hGrown
      exact ⟨rfl, rfl, rfl, hNaluLength, hNbSps, .inl (hSpsCount.symm.trans hNoSps), rfl, .inr rfl,
        rfl, rfl, rfl⟩
  · rcases hSelf2 with ⟨hNoPps, rfl⟩ | hGrown
    · exact ⟨rfl, rfl, rfl, hNaluLength, hNbSps, .inr rfl, rfl,
        .inl (hPpsCount.symm.trans hNoPps), rfl, rfl, rfl⟩
    · cases hGrown
      exact ⟨rfl, rfl, rfl, hNaluLength, hNbSps, .inr rfl, rfl, .inr rfl, rfl, rfl, rfl⟩

/-- The bytes that are saved for the extension: those of a processor whose profile has one. -/
def savedTail (self : Mpeg4Avc) : List UInt8 :=
  if self.profile ∈ extended then
    [0xFC ||| self.chromaFormatIdc, 0xF8 ||| self.bitDepthLumaMinus8,
      0xF8 ||| self.bitDepthChromaMinus8, 0]
  else []

/-- The record that was loaded is saved, with an extension of its own. -/
theorem save_loadedFrom {avc : Mpeg4Avc} (h : LoadedFrom self record avc) :
    decoderConfigurationRecordSave avc = .ok (1 :: record.profile :: record.compatibility ::
      record.level :: (0xFC ||| UInt8.ofNat record.lengthSizeMinusOne) ::
        (0xE0 ||| UInt8.ofNat record.sps.length) :: (record.sps.flatMap framed16 ++
          UInt8.ofNat record.pps.length :: (record.pps.flatMap framed16 ++ savedTail avc))) := by
  obtain ⟨hLength, hSize⟩ := lengthSize_restored record.lengthSizeMinusOne
  have hNbSps := nbSps_restored ⟨record.sps.length, record.sps_length⟩
  have hSpsCount := (toNat_spsCount record).symm
  have hPpsCount := (toNat_ppsCount record).symm
  have hSps := h.sps
  have hPps := h.pps
  rw [hSpsCount] at hSps
  rw [hPpsCount] at hPps
  rw [decoderConfigurationRecordSave, savedTail, h.naluLength, if_neg hLength, h.nbSps, h.nbPps,
    h.profile, h.compatibility, h.level]
  simp only [bind, Except.bind]
  rw [saves_counted hSpsCount hSps record.sps_lengths]
  dsimp only
  rw [saves_counted hPpsCount hPps record.pps_lengths]
  dsimp only
  rw [hSize, hNbSps]
  split
  · simp [BytesWriter.writeU8, pure, Except.pure]
  · simp [BytesWriter.writeU8, pure, Except.pure]

/-! ### The extension is not loaded -/

/-- What clearing, units and the rest keep of the fields, a count and its units keep. -/
theorem counted_keeps {β : Type} {I : Mpeg4Avc → Prop} (kind : Kind) {load : Nat → Load Unit}
    {clear : Mpeg4Avc → Mpeg4Avc}
    (hOne : ∀ s, Loads kind.accepted kind.Grown 1 s (load (kind.count s.owner) s))
    (hClear : ∀ self, kind.count (clear self) = 0) {n : UInt8} {rest : Unit → Load β}
    {s : Reading Mpeg4Avc} (hs : I s.owner) (hCleared : I (clear s.owner))
    (hGrown : ∀ self units self', I self → kind.Grown self units self' → I self')
    (hRest : ∀ s, I s.owner → I (stateOf (rest () s)).owner) :
    I (stateOf ((if n > 0 then update clear >>= fun _ => loadFrom load n.toNat 0 >>= rest
      else loadFrom load n.toNat 0 >>= rest) s)).owner := by
  rcases loads_counted kind hOne hClear n rest s rfl with
    ⟨-, hRun⟩ | ⟨-, units, bytes, self, -, hUnits, hRun⟩ | ⟨-, -, e, self, reader, units, -, hUnits, hRun⟩
  · rw [hRun]
    exact hRest s hs
  · rw [hRun]
    exact hRest _ (hGrown _ _ _ hCleared hUnits)
  · rw [hRun]
    exact hGrown _ _ _ hCleared hUnits

/-- Nothing is known of an extension. -/
def Unextended (avc : Mpeg4Avc) : Prop :=
  avc.chromaFormatIdc = 0 ∧ avc.bitDepthLumaMinus8 = 0 ∧ avc.bitDepthChromaMinus8 = 0

theorem loadPpsUnits_unextended (s : Reading Mpeg4Avc) (h : Unextended s.owner) :
    Unextended (stateOf (loadPpsUnits s)).owner := by
  obtain ⟨self, ⟨buffer⟩⟩ := s
  cases buffer with
  | nil =>
    obtain ⟨e, hRun⟩ := @loadPpsUnits_nil self
    rw [hRun]
    exact h
  | cons nbPps buffer =>
    rw [loadPpsUnits_cons]
    apply @counted_keeps _ Unextended ppsKind _ clearPpsData loads_loadPps (fun _ => rfl) nbPps
      (fun _ => dropRest) ⟨{ self with nbPps }, ⟨buffer⟩⟩ h h
    · intro self units self' hSelf hGrown
      cases hGrown
      exact hSelf
    · intro s hs
      exact hs

theorem load_unextended (h : Unextended self) (record : List UInt8) :
    Unextended (stateOf (decoderConfigurationRecordLoad parseSps ⟨self, ⟨record⟩⟩)).owner := by
  by_cases hShort : record.length < 6
  · obtain ⟨e, profile, compatibility, level, naluLength, reader, hRun⟩ :=
      @load_short parseSps self record hShort
    rw [hRun]
    exact h
  · obtain ⟨version, profile, compatibility, level, lengthSize, nbSps, bytes, rfl⟩ :=
      exists_header hShort
    rw [load_headed]
    apply @counted_keeps _ Unextended (spsKind parseSps) _ clearSpsData (loads_loadSps parseSps)
      (fun _ => rfl) (nbSps &&& 0x1F) (fun _ => loadPpsUnits)
      ⟨headed self profile compatibility level lengthSize nbSps, ⟨bytes⟩⟩ h h
    · rintro self units self' hSelf ⟨width, height, rfl⟩
      exact hSelf
    · exact loadPpsUnits_unextended

theorem unextended_reached (h : (processor parseSps).Reached self) : Unextended self := by
  apply h.invariant
  · rintro self rfl
    exact ⟨rfl, rfl, rfl⟩
  · rintro self record self' hSelf rfl
    exact load_unextended hSelf record

theorem extension_bytes_zero : ∀ extension : Extension,
    extension.bytes = [0xFC, 0xF8, 0xF8, 0] ↔ extension = .zeros := by
  rintro ⟨chromaFormat, luma, chroma⟩
  revert chromaFormat luma chroma
  decide

theorem extension_bytes_ne : ∀ extension : Extension, extension.bytes ≠ [] := by
  intro extension h
  cases h

/-- The extension that is saved for a profile. -/
def savedExtension (profile : UInt8) : Option Extension :=
  if profile ∈ extended then some .zeros else none

theorem tail_eq_iff {avc : Mpeg4Avc} (h : Unextended avc) (hProfile : avc.profile = record.profile) :
    savedTail avc = record.tail ↔ record.extension = savedExtension record.profile := by
  obtain ⟨hFormat, hLuma, hChroma⟩ := h
  rw [savedTail, AvcRecord.tail, savedExtension, hProfile, hFormat, hLuma, hChroma]
  cases record.extension with
  | none =>
    split
    · exact iff_of_false (by simp) (by simp)
    · exact iff_of_true rfl rfl
  | some extension =>
    split
    · rw [Option.some_inj, ← extension_bytes_zero]
      exact eq_comm
    · exact iff_of_false (extension_bytes_ne extension).symm (by simp)

/-- A record whose SPS are accepted comes back if and only if it has the extension that is saved for its
profile: one of zeros where the profile has one, and none elsewhere. -/
theorem load_save_iff (h : (processor parseSps).Reached self) (record : AvcRecord)
    (hAccepts : ∀ unit ∈ record.sps, AcceptsSps parseSps unit) :
    (∃ self', decoderConfigurationRecordLoad parseSps ⟨self, ⟨record.bytes⟩⟩ = .ok () ⟨self', ⟨[]⟩⟩ ∧
      decoderConfigurationRecordSave self' = .ok record.bytes) ↔
        record.extension = savedExtension record.profile := by
  obtain ⟨self', hLoad, hLoaded⟩ := @load_record parseSps self record hAccepts
  have hUnextended : Unextended self' := by
    obtain ⟨hFormat, hLuma, hChroma⟩ := unextended_reached h
    exact ⟨hLoaded.chromaFormatIdc.trans hFormat, hLoaded.bitDepthLumaMinus8.trans hLuma,
      hLoaded.bitDepthChromaMinus8.trans hChroma⟩
  have hSaves : decoderConfigurationRecordSave self' = .ok record.bytes ↔
      savedTail self' = record.tail := by
    rw [save_loadedFrom record hLoaded, AvcRecord.bytes, Except.ok.injEq]
    simp
  rw [← tail_eq_iff record hUnextended hLoaded.profile, ← hSaves]
  constructor
  · rintro ⟨self2, hLoad2, hSave⟩
    rw [hLoad] at hLoad2
    cases hLoad2
    exact hSave
  · intro hSave
    exact ⟨self', hLoad, hSave⟩

/-! ### Three records -/

/-- The resolution of an SPS behind its first byte, by the parser of `library/codec/h264`. -/
def parse (bytes : List UInt8) : Except AvcFault (UInt32 × UInt32) :=
  match H264.SpsParser.parse (.new ⟨bytes⟩) with
  | .ok resolution _ => .ok resolution
  | .error (.bitError _) _ => .error .h264Error
  | .error .panic _ => .error .panic

/-- A record that ends behind the count of its SPS. -/
def endsEarly : List UInt8 := [1, 66, 0, 30, 0xFF, 0xE1]

theorem endsEarly_miscounted : ∃ self', (processor parse).Reached self' ∧ ¬Consistent self' ∧
    decoderConfigurationRecordSave self' = .error .panic := by
  refine ⟨_, ⟨new, [endsEarly], rfl, .cons rfl (.nil _)⟩, ?_, rfl⟩
  intro h
  have hCount : 1 = 0 := h.nbSps
  exact absurd hCount Nat.one_ne_zero

/-- An SPS of the High profile, of one macroblock in 4:2:0. -/
def highSps : List UInt8 := [0x67, 100, 0, 40, 0b10101100, 0b10111011, 0b11001000]

def onePps : List UInt8 := [0x68, 0xEE, 0x3C, 0x80]

theorem units_lengths : ([highSps].length < 32 ∧ [onePps].length < 256) ∧
    (∀ unit ∈ [highSps], unit.length < 2 ^ 16) ∧ ∀ unit ∈ [onePps], unit.length < 2 ^ 16 := by
  decide

/-- A record of the High profile with one set of each kind. -/
def highRecord (extension : Option Extension) : AvcRecord where
  profile := 100
  compatibility := 0
  level := 40
  lengthSizeMinusOne := ⟨3, three_lt_four⟩
  sps := [highSps]
  pps := [onePps]
  extension := extension
  sps_length := units_lengths.1.1
  pps_length := units_lengths.1.2
  sps_lengths := units_lengths.2.1
  pps_lengths := units_lengths.2.2

theorem parse_highSps : parse [100, 0, 40, 0b10101100, 0b10111011, 0b11001000] = .ok (16, 16) := by
  decide +kernel

theorem highRecord_accepts (extension : Option Extension) :
    ∀ unit ∈ (highRecord extension).sps, AcceptsSps parse unit := by
  change ∀ unit ∈ [highSps], AcceptsSps parse unit
  rw [List.forall_mem_singleton]
  exact ⟨0x67, _, (16, 16), rfl, by decide, parse_highSps⟩

/-- A record with sets of both kinds is whole. -/
theorem whole_record {record : AvcRecord} (hAccepts : ∀ unit ∈ record.sps, AcceptsSps parseSps unit)
    (hSps : record.sps ≠ []) (hPps : record.pps ≠ []) : Whole parseSps self record.bytes := by
  have hSpsCount := takes_sps record hAccepts
    (UInt8.ofNat record.pps.length :: (record.pps.flatMap framed16 ++ record.tail))
  have hPpsCount := takes_pps record record.tail
  intro version profile compatibility level lengthSize nbSps bytes hRecord
  rw [AvcRecord.bytes] at hRecord
  cases hRecord
  rw [nbSps_mask ⟨record.sps.length, record.sps_length⟩]
  refine ⟨_, (announced_pos ?_).mpr ⟨_, hSpsCount⟩, ?_⟩
  · intro hZero
    rw [hZero] at hSpsCount
    exact hSps (List.eq_nil_of_length_eq_zero hSpsCount.length)
  · intro nbPps bytes' hBytes
    cases hBytes
    refine ⟨_, (announced_pos ?_).mpr ⟨_, hPpsCount⟩⟩
    intro hZero
    rw [hZero] at hPpsCount
    exact hPps (List.eq_nil_of_length_eq_zero hPpsCount.length)

theorem highRecord_counted :
    Consistent (stateOf (decoderConfigurationRecordLoad parse ⟨new, ⟨(highRecord none).bytes⟩⟩)).owner :=
  (@reached_consistent parse _ ⟨new, [_], rfl, .cons
    ⟨whole_record (highRecord_accepts none) (List.cons_ne_nil _ _) (List.cons_ne_nil _ _), rfl⟩
      (.nil _)⟩).1

/-- An extension of zeros comes back. -/
theorem zero_extension_returns :
    ∃ self', decoderConfigurationRecordLoad parse ⟨new, ⟨(highRecord (some .zeros)).bytes⟩⟩ =
        .ok () ⟨self', ⟨[]⟩⟩ ∧
      decoderConfigurationRecordSave self' = .ok (highRecord (some .zeros)).bytes :=
  (load_save_iff ⟨new, [], rfl, .nil new⟩ (highRecord (some .zeros)) (highRecord_accepts _)).mpr rfl

/-- What is saved after a record has been loaded. -/
def resaved (record : List UInt8) : Except AvcFault (List UInt8) :=
  decoderConfigurationRecordSave (stateOf (decoderConfigurationRecordLoad parse ⟨new, ⟨record⟩⟩)).owner

/-- The format of the colours, 4:2:0, does not come back. -/
theorem chroma_format_lost :
    (∀ unit ∈ (highRecord (some ⟨1, 0, 0⟩)).sps, AcceptsSps parse unit) ∧
      ¬∃ self', decoderConfigurationRecordLoad parse ⟨new, ⟨(highRecord (some ⟨1, 0, 0⟩)).bytes⟩⟩ =
          .ok () ⟨self', ⟨[]⟩⟩ ∧
        decoderConfigurationRecordSave self' = .ok (highRecord (some ⟨1, 0, 0⟩)).bytes := by
  refine ⟨highRecord_accepts _, ?_⟩
  rintro ⟨self', hLoad, hSave⟩
  have hResaved : resaved (highRecord (some ⟨1, 0, 0⟩)).bytes =
      .ok (highRecord (some .zeros)).bytes := by
    decide +kernel
  rw [resaved, hLoad] at hResaved
  have hBytes := Except.ok.inj (hSave.symm.trans hResaved)
  exact absurd hBytes (by decide)

end Xiu.Flv.Mpeg4Avc
