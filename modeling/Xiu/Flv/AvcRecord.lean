import Mathlib.Algebra.Group.Nat.Defs
import Xiu.Flv.Mpeg4Avc

/-! The records of `library/container/flv/src/mpeg4_avc.rs`, as they are loaded and saved: what any bytes
leave of the units they announce. -/

namespace Xiu.Flv.Mpeg4Avc

open Bytesio ProofKit

/-! ### Saving -/

/-- `for i in 0..n`, from `i` on: a unit behind its length. -/
def saveUnits (units : List (List UInt8)) : Nat → Nat → BytesWriter → Except AvcFault BytesWriter
  | 0, _, writer => .ok writer
  | n + 1, i, writer =>
    match units[i]? with
    | some unit =>
      saveUnits units n (i + 1)
        ((writer.writeU16 .bigEndian (UInt16.ofNat unit.length)).write unit)
    | none => .error .panic

/-- The profiles of which the extension is written. -/
def extended : List UInt8 := [100, 110, 122, 244, 44, 83, 86, 118, 128, 138, 139, 134]

def decoderConfigurationRecordSave (self : Mpeg4Avc) : Except AvcFault (List UInt8) := do
  let writer : BytesWriter := ⟨[]⟩
  let writer := writer.writeU8 1
  let writer := writer.writeU8 self.profile
  let writer := writer.writeU8 self.compatibility
  let writer := writer.writeU8 self.level
  let lengthSize ← if self.naluLength = 0 then .error .panic else .ok (self.naluLength - 1)
  let writer := writer.writeU8 (lengthSize ||| 0xFC)
  let writer := writer.writeU8 (self.nbSps ||| 0xE0)
  let writer ← saveUnits self.sps self.nbSps.toNat 0 writer
  let writer := writer.writeU8 self.nbPps
  let writer ← saveUnits self.pps self.nbPps.toNat 0 writer
  if self.profile ∈ extended then
    let writer := writer.writeU8 (0xFC ||| self.chromaFormatIdc)
    let writer := writer.writeU8 (0xF8 ||| self.bitDepthLumaMinus8)
    let writer := writer.writeU8 (0xF8 ||| self.bitDepthChromaMinus8)
    let writer := writer.writeU8 0
    return writer.bytes
  else
    return writer.bytes

/-! ### Units behind lengths of 16 bits -/

def framed16 (unit : List UInt8) : List UInt8 := toBE 2 unit.length ++ unit

/-- The bytes begin with so many units of a kind. -/
structure Takes (accepted : List UInt8 → Prop) (n : Nat) (bytes : List UInt8)
    (units : List (List UInt8)) (rest : List UInt8) : Prop where
  length : units.length = n
  bytes : bytes = units.flatMap framed16 ++ rest
  units : ∀ unit ∈ units, unit.length < 2 ^ 16 ∧ accepted unit

theorem saveUnits_ok {units : List (List UInt8)} {n i : Nat} (h : i + n = units.length)
    (writer : BytesWriter) (hLengths : ∀ unit ∈ units, unit.length < 2 ^ 16) :
    saveUnits units n i writer = .ok ⟨writer.bytes ++ (units.drop i).flatMap framed16⟩ := by
  induction n generalizing i writer with
  | zero =>
    rw [saveUnits, List.drop_eq_nil_of_le (by omega), List.flatMap_nil, List.append_nil]
  | succ n ih =>
    have hLt : i < units.length := by omega
    have hGet : units[i]? = some units[i] := List.getElem?_eq_getElem hLt
    have hSmall : (UInt16.ofNat units[i].length).toNat = units[i].length :=
      UInt16.toNat_ofNat_of_lt' (hLengths _ (List.getElem_mem hLt))
    rw [saveUnits, hGet]
    dsimp only
    rw [ih (by omega), List.drop_eq_getElem_cons hLt, List.flatMap_cons]
    simp only [BytesWriter.write, BytesWriter.writeU16, ByteOrder.encode, framed16, hSmall,
      List.append_assoc]

/-- A unit is what its length says of the bytes. -/
theorem framed16_append {unit bytes rest : List UInt8} (hLength : unit.length < 2 ^ 16)
    (h : bytes = framed16 unit ++ rest) :
    2 ≤ bytes.length ∧ BytesReader.decodeU16 .bigEndian (bytes.take 2) = UInt16.ofNat unit.length ∧
      bytes.drop 2 = unit ++ rest := by
  subst h
  have hTwo : (toBE 2 unit.length).length = 2 := length_toBE 2 unit.length
  refine ⟨?_, ?_, ?_⟩
  · rw [framed16, List.length_append, List.length_append, hTwo]
    omega
  · rw [framed16, List.append_assoc, List.take_left' hTwo, BytesReader.decodeU16, ByteOrder.decode,
      ofBE_toBE, Nat.mod_eq_of_lt (show unit.length < 256 ^ 2 from hLength)]
  · rw [framed16, List.append_assoc, List.drop_left' hTwo]

theorem framed16_inj {unit unit' rest rest' : List UInt8} (hLength : unit.length < 2 ^ 16)
    (hLength' : unit'.length < 2 ^ 16) (h : framed16 unit ++ rest = framed16 unit' ++ rest') :
    unit = unit' ∧ rest = rest' := by
  obtain ⟨-, hSize, hDrop⟩ := framed16_append hLength rfl
  obtain ⟨-, hSize', hDrop'⟩ := framed16_append hLength' h
  have hSizes := congrArg UInt16.toNat (hSize.symm.trans hSize')
  rw [UInt16.toNat_ofNat_of_lt' hLength, UInt16.toNat_ofNat_of_lt' hLength'] at hSizes
  exact List.append_inj (hDrop.symm.trans hDrop') hSizes

variable {accepted : List UInt8 → Prop} {n : Nat} {bytes rest : List UInt8}

theorem takes_zero : Takes accepted 0 bytes [] bytes := ⟨rfl, rfl, by simp⟩

theorem takes_one {unit : List UInt8} :
    Takes accepted 1 bytes [unit] rest ↔
      bytes = framed16 unit ++ rest ∧ unit.length < 2 ^ 16 ∧ accepted unit := by
  constructor
  · intro h
    refine ⟨?_, h.units unit List.mem_cons_self⟩
    rw [h.bytes, List.flatMap_singleton]
  · rintro ⟨rfl, hUnit⟩
    refine ⟨rfl, ?_, ?_⟩
    · rw [List.flatMap_singleton]
    · rwa [List.forall_mem_singleton]

theorem takes_succ {units : List (List UInt8)} :
    Takes accepted (n + 1) bytes units rest ↔
      ∃ unit units' rest', units = unit :: units' ∧ Takes accepted 1 bytes [unit] rest' ∧
        Takes accepted n rest' units' rest := by
  constructor
  · intro h
    cases units with
    | nil => exact absurd h.length (by simp)
    | cons unit units =>
      have hUnits := h.units
      rw [List.forall_mem_cons] at hUnits
      refine ⟨unit, units, units.flatMap framed16 ++ rest, rfl, takes_one.mpr ⟨?_, hUnits.1⟩,
        Nat.succ.inj h.length, rfl, hUnits.2⟩
      rw [h.bytes, List.flatMap_cons, List.append_assoc]
  · rintro ⟨unit, units', rest', rfl, hOne, h⟩
    obtain ⟨hBytes, hUnit⟩ := takes_one.mp hOne
    refine ⟨congrArg Nat.succ h.length, ?_, ?_⟩
    · rw [hBytes, h.bytes, List.flatMap_cons, List.append_assoc]
    · rw [List.forall_mem_cons]
      exact ⟨hUnit, h.units⟩

theorem takes_one_unique {unit unit' rest' : List UInt8} (h : Takes accepted 1 bytes [unit] rest)
    (h' : Takes accepted 1 bytes [unit'] rest') : unit = unit' ∧ rest = rest' := by
  obtain ⟨hBytes, hUnit⟩ := takes_one.mp h
  obtain ⟨hBytes', hUnit'⟩ := takes_one.mp h'
  exact framed16_inj hUnit.1 hUnit'.1 (hBytes.symm.trans hBytes')

theorem takes_unique {units units' : List (List UInt8)} {rest' : List UInt8}
    (h : Takes accepted n bytes units rest) (h' : Takes accepted n bytes units' rest') :
    units = units' ∧ rest = rest' := by
  induction n generalizing bytes units units' with
  | zero =>
    rw [List.eq_nil_of_length_eq_zero h.length, List.eq_nil_of_length_eq_zero h'.length]
    refine ⟨rfl, ?_⟩
    have hBytes := h.bytes
    have hBytes' := h'.bytes
    rw [List.eq_nil_of_length_eq_zero h.length] at hBytes
    rw [List.eq_nil_of_length_eq_zero h'.length] at hBytes'
    exact hBytes.symm.trans hBytes'
  | succ n ih =>
    obtain ⟨unit, others, middle, rfl, hOne, hOthers⟩ := takes_succ.mp h
    obtain ⟨unit', others', middle', rfl, hOne', hOthers'⟩ := takes_succ.mp h'
    obtain ⟨rfl, rfl⟩ := takes_one_unique hOne hOne'
    obtain ⟨rfl, rfl⟩ := ih hOthers hOthers'
    exact ⟨rfl, rfl⟩

/-! ### What is loaded -/

/-- How units of a kind are loaded: all of them, or those before the first that is not there or not
accepted. -/
def Loads (accepted : List UInt8 → Prop) (Grown : Mpeg4Avc → List (List UInt8) → Mpeg4Avc → Prop)
    (n : Nat) (s : Reading Mpeg4Avc) (r : EStateM.Result AvcFault (Reading Mpeg4Avc) Unit) : Prop :=
  (∃ units rest self, Takes accepted n s.reader.buffer units rest ∧ Grown s.owner units self ∧
    r = .ok () ⟨self, ⟨rest⟩⟩) ∨
  ∃ e self reader units, units.length < n ∧ Grown s.owner units self ∧
    (¬∃ units rest, Takes accepted n s.reader.buffer units rest) ∧ r = .error e ⟨self, reader⟩

/-- A kind of units: which are accepted, what they make of the fields, and how many there are. -/
structure Kind where
  accepted : List UInt8 → Prop
  Grown : Mpeg4Avc → List (List UInt8) → Mpeg4Avc → Prop
  count : Mpeg4Avc → Nat
  grown_nil : ∀ self, Grown self [] self
  grown_append : ∀ {self self1 self2 units units'}, Grown self units self1 → Grown self1 units' self2 →
    Grown self (units ++ units') self2
  count_grown : ∀ {self units self'}, Grown self units self' → count self' = count self + units.length

/-- What the loop over the units does, when each turn loads one. -/
theorem loads_loadFrom (kind : Kind) {load : Nat → Load Unit}
    (hOne : ∀ s, Loads kind.accepted kind.Grown 1 s (load (kind.count s.owner) s)) (n : Nat)
    (s : Reading Mpeg4Avc) :
    Loads kind.accepted kind.Grown n s (loadFrom load n (kind.count s.owner) s) := by
  induction n generalizing s with
  | zero =>
    exact .inl ⟨[], s.reader.buffer, s.owner, takes_zero, kind.grown_nil s.owner, rfl⟩
  | succ n ih =>
    rcases hOne s with ⟨units, rest, self, hTakes, hGrown, hRun⟩ |
      ⟨e, self, reader, units, hLength, hGrown, hNot, hRun⟩
    · obtain ⟨unit, rfl⟩ := List.length_eq_one_iff.mp hTakes.length
      have hCount : kind.count self = kind.count s.owner + 1 := kind.count_grown hGrown
      have hRest := ih ⟨self, ⟨rest⟩⟩
      rw [hCount] at hRest
      rw [loadFrom, bind_of_ok hRun]
      rcases hRest with ⟨units', rest', self', hTakes', hGrown', hRun'⟩ |
        ⟨e, self', reader, units', hLength, hGrown', hNot, hRun'⟩
      · exact .inl ⟨unit :: units', rest', self', takes_succ.mpr ⟨unit, units', rest, rfl, hTakes, hTakes'⟩,
          kind.grown_append hGrown hGrown', hRun'⟩
      · refine .inr ⟨e, self', reader, unit :: units', Nat.succ_lt_succ hLength,
          kind.grown_append hGrown hGrown', ?_, hRun'⟩
        rintro ⟨units2, rest2, hTakes2⟩
        obtain ⟨unit2, units2', rest2', -, hFirst, hOthers⟩ := takes_succ.mp hTakes2
        obtain ⟨-, rfl⟩ := takes_one_unique hTakes hFirst
        exact hNot ⟨units2', rest2, hOthers⟩
    · refine .inr ⟨e, self, reader, units, Nat.lt_of_lt_of_le hLength (Nat.succ_le_succ (Nat.zero_le n)),
        hGrown, ?_, by rw [loadFrom, bind_of_error hRun]⟩
      rintro ⟨units2, rest2, hTakes2⟩
      obtain ⟨unit2, units2', rest2', -, hFirst, -⟩ := takes_succ.mp hTakes2
      exact hNot ⟨[unit2], rest2', hFirst⟩

/-- The SPS parser accepts a unit. -/
def AcceptsSps (parseSps : ParseSps) (unit : List UInt8) : Prop :=
  ∃ nalType rest resolution, unit = nalType :: rest ∧ nalType &&& 0x1f = H264_NAL_SPS ∧
    parseSps rest = .ok resolution

def SpsGrown (self : Mpeg4Avc) (units : List (List UInt8)) (self' : Mpeg4Avc) : Prop :=
  ∃ width height, self' = { self with
    width, height
    sps := self.sps ++ units
    spsAnnexbData := ⟨self.spsAnnexbData.bytes ++ annexb units⟩ }

def PpsGrown (self : Mpeg4Avc) (units : List (List UInt8)) (self' : Mpeg4Avc) : Prop :=
  self' = { self with
    pps := self.pps ++ units
    ppsAnnexbData := ⟨self.ppsAnnexbData.bytes ++ annexb units⟩ }

theorem spsGrown_nil (self : Mpeg4Avc) : SpsGrown self [] self := by
  refine ⟨self.width, self.height, ?_⟩
  rw [List.append_nil, annexb, List.flatMap_nil, List.append_nil]

theorem spsGrown_append {self self1 self2 : Mpeg4Avc} {units units' : List (List UInt8)}
    (h : SpsGrown self units self1) (h' : SpsGrown self1 units' self2) :
    SpsGrown self (units ++ units') self2 := by
  obtain ⟨width, height, rfl⟩ := h
  obtain ⟨width', height', rfl⟩ := h'
  refine ⟨width', height', ?_⟩
  rw [annexb_append, List.append_assoc, List.append_assoc]

theorem ppsGrown_nil (self : Mpeg4Avc) : PpsGrown self [] self := by
  rw [PpsGrown, List.append_nil, annexb, List.flatMap_nil, List.append_nil]

theorem ppsGrown_append {self self1 self2 : Mpeg4Avc} {units units' : List (List UInt8)}
    (h : PpsGrown self units self1) (h' : PpsGrown self1 units' self2) :
    PpsGrown self (units ++ units') self2 := by
  cases h
  cases h'
  rw [PpsGrown, annexb_append, List.append_assoc, List.append_assoc]

theorem count_spsGrown {self self' : Mpeg4Avc} {units : List (List UInt8)}
    (h : SpsGrown self units self') : self'.sps.length = self.sps.length + units.length := by
  obtain ⟨width, height, rfl⟩ := h
  exact List.length_append

theorem count_ppsGrown {self self' : Mpeg4Avc} {units : List (List UInt8)}
    (h : PpsGrown self units self') : self'.pps.length = self.pps.length + units.length := by
  cases h
  exact List.length_append

def spsKind (parseSps : ParseSps) : Kind where
  accepted := AcceptsSps parseSps
  Grown := SpsGrown
  count self := self.sps.length
  grown_nil := spsGrown_nil
  grown_append := spsGrown_append
  count_grown := count_spsGrown

def ppsKind : Kind where
  accepted _ := True
  Grown := PpsGrown
  count self := self.pps.length
  grown_nil := ppsGrown_nil
  grown_append := ppsGrown_append
  count_grown := count_ppsGrown

/-! ### One unit -/

/-- A unit behind its length. -/
def readUnit : Load (List UInt8) := do
  let size ← reading (Read.readU16 .bigEndian)
  reading (Read.readBytes size.toNat)

theorem loadSps_eq (parseSps : ParseSps) (i : Nat) :
    loadSps parseSps i = (readUnit >>= fun spsData => do
      let (width, height) ← readResolution parseSps spsData
      update fun self => { self with width, height, sps := self.sps ++ [spsData] }
      let data ← indexed (← get).owner.sps i
      update fun self => { self with
        spsAnnexbData := (self.spsAnnexbData.write H264_START_CODE).write data }) := by
  rw [readUnit, bind_assoc]
  rfl

theorem loadPps_eq (i : Nat) :
    loadPps i = (readUnit >>= fun ppsData => do
      update fun self => { self with pps := self.pps ++ [ppsData] }
      let data ← indexed (← get).owner.pps i
      update fun self => { self with
        ppsAnnexbData := (self.ppsAnnexbData.write H264_START_CODE).write data }) := by
  rw [readUnit, bind_assoc]
  rfl

theorem reading_ok {α : Type} {x : Read Mpeg4Avc α} {a : α} {s s' : Reading Mpeg4Avc}
    (h : x s = .ok a s') : reading x s = .ok a s' := by
  simp only [reading, h]

theorem reading_error {α : Type} {x : Read Mpeg4Avc α} {value : BytesReadErrorValue}
    {s s' : Reading Mpeg4Avc} (h : x s = .error (.bytesReadError value) s') :
    reading x s = .error (.bytesReadError value) s' := by
  simp only [reading, h]

/-- A unit is read, or the bytes do not begin with one. -/
theorem readUnit_cases (s : Reading Mpeg4Avc) :
    (∃ unit rest, unit.length < 2 ^ 16 ∧ s.reader.buffer = framed16 unit ++ rest ∧
      readUnit s = .ok unit ⟨s.owner, ⟨rest⟩⟩) ∨
    ((¬∃ unit rest, unit.length < 2 ^ 16 ∧ s.reader.buffer = framed16 unit ++ rest) ∧
      ∃ e reader, readUnit s = .error e ⟨s.owner, reader⟩) := by
  obtain ⟨self, ⟨buffer⟩⟩ := s
  by_cases hTwo : 2 ≤ buffer.length
  · have hSize := reading_ok (@Read.readU16_ok _ self buffer .bigEndian hTwo)
    have hLt := (BytesReader.decodeU16 .bigEndian (buffer.take 2)).toNat_lt
    by_cases hRoom : (BytesReader.decodeU16 .bigEndian (buffer.take 2)).toNat ≤ (buffer.drop 2).length
    · have hData := reading_ok (@Read.readBytes_ok _ self _ _ hRoom)
      refine .inl ⟨_, _, ?_, ?_, (bind_of_ok hSize).trans hData⟩
      · rw [List.length_take, Nat.min_eq_left hRoom]
        exact hLt
      · have hTake : (buffer.take 2).length = 2 := by
          rw [List.length_take, Nat.min_eq_left hTwo]
        have hBytes := toBE_ofBE (buffer.take 2)
        rw [hTake] at hBytes
        have hDecode : (BytesReader.decodeU16 .bigEndian (buffer.take 2)).toNat =
            ofBE (buffer.take 2) := by
          have hBound := ofBE_lt (buffer.take 2)
          rw [hTake] at hBound
          exact UInt16.toNat_ofNat_of_lt' hBound
        rw [framed16, List.length_take, Nat.min_eq_left hRoom, hDecode, hBytes, List.append_assoc,
          List.take_append_drop, List.take_append_drop]
    · refine .inr ⟨?_, _, _, (bind_of_ok hSize).trans
        (reading_error (Read.readBytes_short (Nat.not_le.mp hRoom)))⟩
      rintro ⟨unit, rest, hLength, hBytes⟩
      obtain ⟨-, hUnit, hDrop⟩ := framed16_append hLength hBytes
      rw [hUnit, UInt16.toNat_ofNat_of_lt' hLength, hDrop, List.length_append] at hRoom
      omega
  · refine .inr ⟨?_, _, _, bind_of_error (reading_error (Read.readU16_short (Nat.not_le.mp hTwo)))⟩
    rintro ⟨unit, rest, hLength, hBytes⟩
    exact hTwo (framed16_append hLength hBytes).1

theorem readResolution_cases (parseSps : ParseSps) (unit : List UInt8) (s : Reading Mpeg4Avc) :
    (AcceptsSps parseSps unit ∧ ∃ resolution, readResolution parseSps unit s = .ok resolution s) ∨
    (¬AcceptsSps parseSps unit ∧ ∃ e, readResolution parseSps unit s = .error e s) := by
  cases unit with
  | nil =>
    refine .inr ⟨?_, .bytesReadError .notEnoughBytes, rfl⟩
    rintro ⟨nalType, rest, resolution, hUnit, -, -⟩
    cases hUnit
  | cons nalType rest =>
    rw [readResolution, BytesReader.readU8_cons]
    dsimp only
    by_cases hType : nalType &&& 0x1f = H264_NAL_SPS
    · rw [if_neg (not_not.mpr hType)]
      cases hParse : parseSps rest with
      | ok resolution => exact .inl ⟨⟨nalType, rest, resolution, rfl, hType, hParse⟩, resolution, rfl⟩
      | error e =>
        refine .inr ⟨?_, e, rfl⟩
        rintro ⟨nalType', rest', resolution, hUnit, -, hOk⟩
        cases hUnit
        rw [hParse] at hOk
        cases hOk
    · rw [if_pos hType]
      refine .inr ⟨?_, _, rfl⟩
      rintro ⟨nalType', rest', resolution, hUnit, hSps, -⟩
      cases hUnit
      exact hType hSps

/-- Where no unit can be read, none is taken. -/
theorem not_takes_one {accepted : List UInt8 → Prop} {bytes : List UInt8}
    (h : ¬∃ unit rest, unit.length < 2 ^ 16 ∧ bytes = framed16 unit ++ rest) :
    ¬∃ units rest, Takes accepted 1 bytes units rest := by
  rintro ⟨units, rest, hTakes⟩
  obtain ⟨unit, rfl⟩ := List.length_eq_one_iff.mp hTakes.length
  obtain ⟨hBytes, hLength, -⟩ := takes_one.mp hTakes
  exact h ⟨unit, rest, hLength, hBytes⟩

theorem loads_loadSps (parseSps : ParseSps) (s : Reading Mpeg4Avc) :
    Loads (AcceptsSps parseSps) SpsGrown 1 s (loadSps parseSps s.owner.sps.length s) := by
  rw [loadSps_eq]
  rcases readUnit_cases s with ⟨unit, rest, hLength, hBytes, hRun⟩ | ⟨hNot, e, reader, hRun⟩
  · rw [bind_of_ok hRun]
    rcases readResolution_cases parseSps unit ⟨s.owner, ⟨rest⟩⟩ with
      ⟨hAccepts, ⟨width, height⟩, hParse⟩ | ⟨hRefused, e, hParse⟩
    · refine .inl ⟨[unit], rest, _, takes_one.mpr ⟨hBytes, hLength, hAccepts⟩, ⟨width, height, rfl⟩, ?_⟩
      rw [bind_of_ok hParse]
      simp only [update, bind_modify, bind_get, @indexed_last s.owner.sps unit _ rfl]
      rw [annexb_singleton, ← List.append_assoc]
      rfl
    · refine .inr ⟨e, s.owner, ⟨rest⟩, [], Nat.one_pos, spsGrown_nil s.owner, ?_, bind_of_error hParse⟩
      rintro ⟨units, rest', hTakes⟩
      obtain ⟨unit', rfl⟩ := List.length_eq_one_iff.mp hTakes.length
      obtain ⟨hBytes', hLength', hAccepts⟩ := takes_one.mp hTakes
      obtain ⟨rfl, -⟩ := framed16_inj hLength hLength' (hBytes.symm.trans hBytes')
      exact hRefused hAccepts
  · exact .inr ⟨e, s.owner, reader, [], Nat.one_pos, spsGrown_nil s.owner, not_takes_one hNot,
      bind_of_error hRun⟩

theorem loads_loadPps (s : Reading Mpeg4Avc) :
    Loads (fun _ => True) PpsGrown 1 s (loadPps s.owner.pps.length s) := by
  rw [loadPps_eq]
  rcases readUnit_cases s with ⟨unit, rest, hLength, hBytes, hRun⟩ | ⟨hNot, e, reader, hRun⟩
  · refine .inl ⟨[unit], rest, _, takes_one.mpr ⟨hBytes, hLength, trivial⟩, rfl, ?_⟩
    rw [bind_of_ok hRun]
    simp only [update, bind_modify, bind_get, @indexed_last s.owner.pps unit _ rfl]
    rw [annexb_singleton, ← List.append_assoc]
    rfl
  · exact .inr ⟨e, s.owner, reader, [], Nat.one_pos, ppsGrown_nil s.owner, not_takes_one hNot,
      bind_of_error hRun⟩

/-! ### A whole record -/

/-- What is done with a count: nothing when it is zero, and otherwise as many units are loaded behind
those that are dropped. -/
theorem loads_counted {β : Type} (kind : Kind) {load : Nat → Load Unit} {clear : Mpeg4Avc → Mpeg4Avc}
    (hOne : ∀ s, Loads kind.accepted kind.Grown 1 s (load (kind.count s.owner) s))
    (hClear : ∀ self, kind.count (clear self) = 0) (n : UInt8) (rest : Unit → Load β)
    (s : Reading Mpeg4Avc) {r : EStateM.Result AvcFault (Reading Mpeg4Avc) β}
    (hRun : (if n > 0 then update clear >>= fun _ => loadFrom load n.toNat 0 >>= rest
      else loadFrom load n.toNat 0 >>= rest) s = r) :
    (n = 0 ∧ r = rest () s) ∨
    (n ≠ 0 ∧ ∃ units bytes self, Takes kind.accepted n.toNat s.reader.buffer units bytes ∧
      kind.Grown (clear s.owner) units self ∧ r = rest () ⟨self, ⟨bytes⟩⟩) ∨
    (n ≠ 0 ∧ (¬∃ units bytes, Takes kind.accepted n.toNat s.reader.buffer units bytes) ∧
      ∃ e self reader units, units.length < n.toNat ∧ kind.Grown (clear s.owner) units self ∧
        r = .error e ⟨self, reader⟩) := by
  by_cases hZero : n = 0
  · refine .inl ⟨hZero, ?_⟩
    rw [← hRun, hZero]
    rfl
  · have hPos : n > 0 := UInt8.pos_iff_ne_zero.mpr hZero
    have hLoads := loads_loadFrom kind hOne n.toNat ⟨clear s.owner, s.reader⟩
    rw [hClear] at hLoads
    rw [if_pos hPos] at hRun
    have hBind : (update clear >>= fun _ => loadFrom load n.toNat 0 >>= rest) s =
        (loadFrom load n.toNat 0 >>= rest) ⟨clear s.owner, s.reader⟩ := rfl
    rw [hBind] at hRun
    rcases hLoads with ⟨units, bytes, self, hTakes, hGrown, hOk⟩ |
      ⟨e, self, reader, units, hLength, hGrown, hNot, hError⟩
    · exact .inr (.inl ⟨hZero, units, bytes, self, hTakes, hGrown, hRun.symm.trans (bind_of_ok hOk)⟩)
    · exact .inr (.inr ⟨hZero, hNot, e, self, reader, units, hLength, hGrown,
        hRun.symm.trans (bind_of_error hError)⟩)

/-- The fields behind the first six bytes of a record. -/
def headed (self : Mpeg4Avc) (profile compatibility level lengthSize nbSps : UInt8) : Mpeg4Avc :=
  { self with
    profile, compatibility, level
    naluLength := (lengthSize &&& 0x03) + 1
    nbSps := nbSps &&& 0x1F }

/-- What follows the PPS units. -/
def dropRest : Load Unit := do
  let _ ← reading Read.extractRemainingBytes

/-- What follows the SPS units. -/
def loadPpsUnits : Load Unit := do
  let nbPps ← reading Read.readU8
  update fun self => { self with nbPps }
  if nbPps > 0 then update clearPpsData
  loadFrom loadPps nbPps.toNat 0
  let _ ← reading Read.extractRemainingBytes

variable {parseSps : ParseSps} {self : Mpeg4Avc}

theorem load_headed (version profile compatibility level lengthSize nbSps : UInt8)
    (bytes : List UInt8) :
    decoderConfigurationRecordLoad parseSps
        ⟨self, ⟨version :: profile :: compatibility :: level :: lengthSize :: nbSps :: bytes⟩⟩ =
      (if nbSps &&& 0x1F > 0 then
        update clearSpsData >>= fun _ =>
          loadFrom (loadSps parseSps) (nbSps &&& 0x1F).toNat 0 >>= fun _ => loadPpsUnits
      else loadFrom (loadSps parseSps) (nbSps &&& 0x1F).toNat 0 >>= fun _ => loadPpsUnits)
        ⟨headed self profile compatibility level lengthSize nbSps, ⟨bytes⟩⟩ := rfl

/-- Before the count of the SPS units, only the fields of the header change. -/
theorem load_short {record : List UInt8} (h : record.length < 6) :
    ∃ e profile compatibility level naluLength reader,
      decoderConfigurationRecordLoad parseSps ⟨self, ⟨record⟩⟩ =
        .error e ⟨{ self with profile, compatibility, level, naluLength }, reader⟩ := by
  match record with
  | [] => exact ⟨_, _, _, _, _, _, rfl⟩
  | [_] => exact ⟨_, _, _, _, _, _, rfl⟩
  | [_, _] => exact ⟨_, _, _, _, _, _, rfl⟩
  | [_, _, _] => exact ⟨_, _, _, _, _, _, rfl⟩
  | [_, _, _, _] => exact ⟨_, _, _, _, _, _, rfl⟩
  | [_, _, _, _, _] => exact ⟨_, _, _, _, _, _, rfl⟩
  | _ :: _ :: _ :: _ :: _ :: _ :: _ => exact absurd h (by simp)

theorem loadPpsUnits_nil : ∃ e, loadPpsUnits ⟨self, ⟨[]⟩⟩ = .error e ⟨self, ⟨[]⟩⟩ := ⟨_, rfl⟩

theorem loadPpsUnits_cons (nbPps : UInt8) (bytes : List UInt8) :
    loadPpsUnits ⟨self, ⟨nbPps :: bytes⟩⟩ =
      (if nbPps > 0 then
        update clearPpsData >>= fun _ => loadFrom loadPps nbPps.toNat 0 >>= fun _ => dropRest
      else loadFrom loadPps nbPps.toNat 0 >>= fun _ => dropRest)
        ⟨{ self with nbPps }, ⟨bytes⟩⟩ := rfl

end Xiu.Flv.Mpeg4Avc
