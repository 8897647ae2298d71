import Mathlib.Algebra.Group.Nat.Defs
import Xiu.Bytesio.Reading
import Xiu.Bytesio.Writer
import Xiu.ProofKit.System
import Xiu.ProofKit.Triple
import Xiu.ProofKit.While

/-! The H264 NAL units of FLV, of `library/container/flv/src/mpeg4_avc.rs`: how the parameter sets are
loaded, and how units behind their lengths become units behind start codes. -/

namespace Xiu.Flv

open Bytesio ProofKit

def H264_START_CODE : List UInt8 := [0x00, 0x00, 0x00, 0x01]

/-- `h264_nal_type`. -/
def H264_NAL_IDR : UInt8 := 5
def H264_NAL_SPS : UInt8 := 7
def H264_NAL_PPS : UInt8 := 8

structure Mpeg4Avc where
  profile : UInt8
  compatibility : UInt8
  level : UInt8
  naluLength : UInt8
  width : UInt32
  height : UInt32
  nbSps : UInt8
  nbPps : UInt8
  sps : List (List UInt8)
  pps : List (List UInt8)
  spsAnnexbData : BytesWriter
  ppsAnnexbData : BytesWriter
  chromaFormatIdc : UInt8
  bitDepthLumaMinus8 : UInt8
  bitDepthChromaMinus8 : UInt8

/-- Why loading stops: an error of a read, a unit that is no SPS, an error of the SPS parser, or a
panic. -/
inductive AvcFault where
  | bytesReadError (value : BytesReadErrorValue)
  | spsNalunitTypeNotCorrect
  | h264Error
  | panic
  deriving DecidableEq

namespace Mpeg4Avc

def new : Mpeg4Avc where
  profile := 0
  compatibility := 0
  level := 0
  naluLength := 0
  width := 0
  height := 0
  nbSps := 0
  nbPps := 0
  sps := []
  pps := []
  spsAnnexbData := ⟨[]⟩
  ppsAnnexbData := ⟨[]⟩
  chromaFormatIdc := 0
  bitDepthLumaMinus8 := 0
  bitDepthChromaMinus8 := 0

/-! ### Loading -/

/-- Actions on the fields and a reader. -/
abbrev Load := EStateM AvcFault (Reading Mpeg4Avc)

/-- A read, whose errors are passed on. -/
def reading {α : Type} (x : Read Mpeg4Avc α) : Load α := fun s =>
  match x s with
  | .ok a s => .ok a s
  | .error (.bytesReadError value) s => .error (.bytesReadError value) s
  | .error .panic s => .error .panic s

def update (f : Mpeg4Avc → Mpeg4Avc) : Load Unit := modify fun s => ⟨f s.owner, s.reader⟩

/-- An index, which panics beyond the end. -/
def indexed (units : List (List UInt8)) (i : Nat) : Load (List UInt8) :=
  match units[i]? with
  | some unit => pure unit
  | none => throw .panic

def clearSpsData (self : Mpeg4Avc) : Mpeg4Avc := { self with sps := [], spsAnnexbData := ⟨[]⟩ }

def clearPpsData (self : Mpeg4Avc) : Mpeg4Avc := { self with pps := [], ppsAnnexbData := ⟨[]⟩ }

/-- What `SpsParser::parse` makes of an SPS behind its first byte: the width and the height. -/
abbrev ParseSps := List UInt8 → Except AvcFault (UInt32 × UInt32)

/-- The type of an SPS is tested, and its resolution is read. -/
def readResolution (parseSps : ParseSps) (spsData : List UInt8) : Load (UInt32 × UInt32) :=
  match (⟨spsData⟩ : BytesReader).readU8 with
  | .error value => throw (.bytesReadError value)
  | .ok (nalType, spsReader) =>
    if nalType &&& 0x1f ≠ H264_NAL_SPS then throw .spsNalunitTypeNotCorrect
    else
      match parseSps spsReader.buffer with
      | .ok resolution => pure resolution
      | .error e => throw e

def loadSps (parseSps : ParseSps) (i : Nat) : Load Unit := do
  let spsDataSize ← reading (Read.readU16 .bigEndian)
  let spsData ← reading (Read.readBytes spsDataSize.toNat)
  let (width, height) ← readResolution parseSps spsData
  update fun self => { self with width, height, sps := self.sps ++ [spsData] }
  let data ← indexed (← get).owner.sps i
  update fun self => { self with
    spsAnnexbData := (self.spsAnnexbData.write H264_START_CODE).write data }

def loadPps (i : Nat) : Load Unit := do
  let ppsDataSize ← reading (Read.readU16 .bigEndian)
  let ppsData ← reading (Read.readBytes ppsDataSize.toNat)
  update fun self => { self with pps := self.pps ++ [ppsData] }
  let data ← indexed (← get).owner.pps i
  update fun self => { self with
    ppsAnnexbData := (self.ppsAnnexbData.write H264_START_CODE).write data }

/-- `for i in 0..n`, from `i` on. -/
def loadFrom (load : Nat → Load Unit) : Nat → Nat → Load Unit
  | 0, _ => pure ()
  | n + 1, i => do
    load i
    loadFrom load n (i + 1)

def decoderConfigurationRecordLoad (parseSps : ParseSps) : Load Unit := do
  let _ ← reading Read.readU8
  let profile ← reading Read.readU8
  update fun self => { self with profile }
  let compatibility ← reading Read.readU8
  update fun self => { self with compatibility }
  let level ← reading Read.readU8
  update fun self => { self with level }
  let lengthSize ← reading Read.readU8
  update fun self => { self with naluLength := (lengthSize &&& 0x03) + 1 }
  let nbSps ← reading Read.readU8
  update fun self => { self with nbSps := nbSps &&& 0x1F }
  if nbSps &&& 0x1F > 0 then update clearSpsData
  loadFrom (loadSps parseSps) (nbSps &&& 0x1F).toNat 0
  let nbPps ← reading Read.readU8
  update fun self => { self with nbPps }
  if nbPps > 0 then update clearPpsData
  loadFrom loadPps nbPps.toNat 0
  let _ ← reading Read.extractRemainingBytes

/-! ### Lengths and start codes -/

/-- `read_nalu_size`, from the size read so far: the byte that comes in fits below it. -/
def readNaluSizeFrom : Nat → UInt32 → BytesReader → Except BytesReadErrorValue (UInt32 × BytesReader)
  | 0, size, reader => .ok (size, reader)
  | n + 1, size, reader =>
    match reader.readU8 with
    | .error value => .error value
    | .ok (byte, reader) => readNaluSizeFrom n (byte.toUInt32 + (size <<< 8)) reader

def readNaluSize (self : Mpeg4Avc) : BytesReader → Except BytesReadErrorValue (UInt32 × BytesReader) :=
  readNaluSizeFrom self.naluLength.toNat 0

/-- The state of the loop of `h264_mp4toannexb`. -/
structure Conversion where
  reader : BytesReader
  writer : BytesWriter
  spsPpsFlag : Bool

/-- The parameter sets come first when an IDR unit has none before it. -/
def Conversion.announce (self : Mpeg4Avc) (naluType : UInt8) (s : Conversion) : Conversion :=
  if naluType = H264_NAL_PPS ∨ naluType = H264_NAL_SPS then { s with spsPpsFlag := true }
  else if naluType = H264_NAL_IDR then
    if s.spsPpsFlag then s
    else
      { s with
        spsPpsFlag := true
        writer := (s.writer.prepend self.ppsAnnexbData.bytes).prepend self.spsAnnexbData.bytes }
  else s

/-- A turn of the loop of `h264_mp4toannexb`. -/
def annexbTurn (self : Mpeg4Avc) (s : Conversion) :
    Turn Conversion (Except BytesReadErrorValue (List UInt8)) :=
  if s.reader.isEmpty then .done (.ok s.writer.bytes)
  else
    match self.readNaluSize s.reader with
    | .error value => .done (.error value)
    | .ok (size, reader) =>
      match reader.advanceU8 with
      | .error value => .done (.error value)
      | .ok byte =>
        let s := s.announce self (byte &&& 0x1f)
        match reader.readBytes size.toNat with
        | .error value => .done (.error value)
        | .ok (data, reader) =>
          .again { s with reader, writer := (s.writer.write H264_START_CODE).write data }

/-- `h264_mp4toannexb` returns, with this result. -/
def Mp4ToAnnexb (self : Mpeg4Avc) (bytes : List UInt8)
    (result : Except BytesReadErrorValue (List UInt8)) : Prop :=
  Ends self.annexbTurn ⟨⟨bytes⟩, ⟨[]⟩, false⟩ result

/-- `write_nalu_size`, from byte `i` of the length on. -/
def writeNaluSizeFrom (self : Mpeg4Avc) (length : Nat) (writer : BytesWriter) : Nat → BytesWriter
  | 0 => writer
  | n + 1 => writeNaluSizeFrom self length (writer.writeU8 (UInt8.ofNat (length >>> (n * 8) &&& 0xFF))) n

def writeNaluSize (self : Mpeg4Avc) (writer : BytesWriter) (length : Nat) : BytesWriter :=
  self.writeNaluSizeFrom length writer self.naluLength.toNat

def nalusToMpeg4avc (self : Mpeg4Avc) (nalus : List (List UInt8)) : List UInt8 :=
  (nalus.foldl (fun writer nalu => (self.writeNaluSize writer nalu.length).write nalu) ⟨[]⟩).bytes

/-! ### The parameter sets of a processor -/

/-- Units behind start codes. -/
def annexb (nalus : List (List UInt8)) : List UInt8 := nalus.flatMap (H264_START_CODE ++ ·)

/-- A processor, by the records that are loaded into it. -/
def processor (parseSps : ParseSps) : System Mpeg4Avc (List UInt8) where
  init self := self = new
  step self record self' :=
    self' = (stateOf (decoderConfigurationRecordLoad parseSps ⟨self, ⟨record⟩⟩)).owner

/-- The bytes that are put before an IDR unit are the parameter sets that are stored, and a length has
at most four bytes. -/
structure Stored (avc : Mpeg4Avc) : Prop where
  sps : avc.spsAnnexbData.bytes = annexb avc.sps
  pps : avc.ppsAnnexbData.bytes = annexb avc.pps
  naluLength : avc.naluLength.toNat ≤ 4

theorem annexb_append (a b : List (List UInt8)) : annexb (a ++ b) = annexb a ++ annexb b :=
  List.flatMap_append

theorem annexb_singleton (nalu : List UInt8) : annexb [nalu] = H264_START_CODE ++ nalu :=
  List.append_nil _

/-- What a read, an update and the test of an SPS keep of the fields. -/
theorem leaves_reading {α : Type} {I : Mpeg4Avc → Prop}
    {f : BytesReader → Except BytesReadErrorValue (α × BytesReader)} {s : Reading Mpeg4Avc}
    (h : I s.owner) :
    Leaves (fun s => I s.owner) (fun _ s => I s.owner) (reading (Bytesio.read f)) s := by
  cases hRead : f s.reader with
  | ok r =>
    obtain ⟨a, reader⟩ := r
    have hOk : reading (Bytesio.read f) s = .ok a ⟨s.owner, reader⟩ := by
      simp only [reading, Bytesio.read, hRead]
    exact leaves_of_ok hOk h
  | error e =>
    have hError : reading (Bytesio.read f) s = .error (.bytesReadError e) s := by
      simp only [reading, Bytesio.read, hRead]
    exact leaves_of_error hError h

theorem leaves_update {I J : Mpeg4Avc → Prop} {f : Mpeg4Avc → Mpeg4Avc} {s : Reading Mpeg4Avc}
    (h : J (f s.owner)) : Leaves (fun s => I s.owner) (fun _ s => J s.owner) (update f) s :=
  leaves_of_ok rfl h

theorem leaves_readResolution {I : Mpeg4Avc → Prop} {parseSps : ParseSps} {spsData : List UInt8}
    {s : Reading Mpeg4Avc} (h : I s.owner) :
    Leaves (fun s => I s.owner) (fun _ s => I s.owner) (readResolution parseSps spsData) s := by
  rw [readResolution]
  split
  · exact leaves_of_error rfl h
  split
  · exact leaves_of_error rfl h
  split
  · exact leaves_of_ok rfl h
  · exact leaves_of_error rfl h

/-- What the loop over the units of one kind keeps: the sets are stored, and there are as many units
of the kind as turns. -/
theorem leaves_loadFrom {I : Mpeg4Avc → Prop} {load : Nat → Load Unit} {count : Mpeg4Avc → Nat}
    (hLoad : ∀ i s, I s.owner → count s.owner = i →
      Leaves (fun s => I s.owner) (fun _ s => I s.owner ∧ count s.owner = i + 1) (load i) s)
    (n i : Nat) {s : Reading Mpeg4Avc} (hs : I s.owner) (hCount : n ≠ 0 → count s.owner = i) :
    Leaves (fun s => I s.owner) (fun _ s => I s.owner) (loadFrom load n i) s := by
  induction n generalizing i s with
  | zero => exact leaves_of_ok rfl hs
  | succ n ih =>
    apply (hLoad i s hs (hCount (Nat.succ_ne_zero n))).bind
    rintro u s' ⟨hs', hCount'⟩
    exact ih (i + 1) hs' fun _ => hCount'

/-- A unit that is added is found at its index, and its start code and bytes are stored. -/
theorem indexed_last {units : List (List UInt8)} {unit : List UInt8} {i : Nat}
    (h : units.length = i) : indexed (units ++ [unit]) i = pure unit := by
  have hIndex : (units ++ [unit])[i]? = some unit := by
    rw [← h]
    exact List.getElem?_concat_length
  rw [indexed, hIndex]

theorem annexb_write {units : List (List UInt8)} {writer : BytesWriter} {unit : List UInt8}
    (h : writer.bytes = annexb units) :
    ((writer.write H264_START_CODE).write unit).bytes = annexb (units ++ [unit]) := by
  change writer.bytes ++ H264_START_CODE ++ unit = annexb (units ++ [unit])
  rw [annexb_append, h, List.append_assoc, annexb_singleton]

theorem leaves_loadSps (parseSps : ParseSps) (i : Nat) (s : Reading Mpeg4Avc)
    (hStored : Stored s.owner) (hCount : s.owner.sps.length = i) :
    Leaves (fun s => Stored s.owner) (fun _ s => Stored s.owner ∧ s.owner.sps.length = i + 1)
      (loadSps parseSps i) s := by
  have hWhole : Leaves (fun s => Stored s.owner ∧ s.owner.sps.length = i)
      (fun _ s => Stored s.owner ∧ s.owner.sps.length = i + 1) (loadSps parseSps i) s := by
    rw [loadSps]
    apply (leaves_reading (I := fun self => Stored self ∧ self.sps.length = i) ⟨hStored, hCount⟩).bind
    intro size s1 h1
    apply (leaves_reading (I := fun self => Stored self ∧ self.sps.length = i) h1).bind
    intro spsData s2 h2
    apply (leaves_readResolution (I := fun self => Stored self ∧ self.sps.length = i) h2).bind
    rintro ⟨width, height⟩ ⟨self, reader⟩ ⟨hStored, hCount⟩
    apply @leaves_of_ok _ _ _ _ _ _ _ () ⟨{ self with
      width, height, sps := self.sps ++ [spsData]
      spsAnnexbData := (self.spsAnnexbData.write H264_START_CODE).write spsData }, reader⟩
    · simp only [update, bind_modify, bind_get, indexed_last hCount]
      rfl
    · refine ⟨⟨annexb_write hStored.sps, hStored.pps, hStored.naluLength⟩, ?_⟩
      rw [List.length_append, hCount, List.length_singleton]
  exact hWhole.mono (fun s h => h.1) fun u s h => h

theorem leaves_loadPps (i : Nat) (s : Reading Mpeg4Avc) (hStored : Stored s.owner)
    (hCount : s.owner.pps.length = i) :
    Leaves (fun s => Stored s.owner) (fun _ s => Stored s.owner ∧ s.owner.pps.length = i + 1)
      (loadPps i) s := by
  have hWhole : Leaves (fun s => Stored s.owner ∧ s.owner.pps.length = i)
      (fun _ s => Stored s.owner ∧ s.owner.pps.length = i + 1) (loadPps i) s := by
    rw [loadPps]
    apply (leaves_reading (I := fun self => Stored self ∧ self.pps.length = i) ⟨hStored, hCount⟩).bind
    intro size s1 h1
    apply (leaves_reading (I := fun self => Stored self ∧ self.pps.length = i) h1).bind
    rintro ppsData ⟨self, reader⟩ ⟨hStored, hCount⟩
    apply @leaves_of_ok _ _ _ _ _ _ _ () ⟨{ self with
      pps := self.pps ++ [ppsData]
      ppsAnnexbData := (self.ppsAnnexbData.write H264_START_CODE).write ppsData }, reader⟩
    · simp only [update, bind_modify, bind_get, indexed_last hCount]
      rfl
    · refine ⟨⟨hStored.sps, annexb_write hStored.pps, hStored.naluLength⟩, ?_⟩
      rw [List.length_append, hCount, List.length_singleton]
  exact hWhole.mono (fun s h => h.1) fun u s h => h

/-- The units of one kind are dropped before some are loaded. -/
theorem leaves_clear_load {β : Type} {load : Nat → Load Unit} (count : Mpeg4Avc → Nat)
    {clear : Mpeg4Avc → Mpeg4Avc} {n : UInt8} {rest : Unit → Load β} {Q : β → Mpeg4Avc → Prop}
    {s : Reading Mpeg4Avc}
    (hLoad : ∀ i s, Stored s.owner → count s.owner = i → Leaves (fun s => Stored s.owner)
      (fun _ s => Stored s.owner ∧ count s.owner = i + 1) (load i) s)
    (hClear : ∀ self, Stored self → Stored (clear self) ∧ count (clear self) = 0)
    (hs : Stored s.owner)
    (hRest : ∀ s, Stored s.owner →
      Leaves (fun s => Stored s.owner) (fun b s => Q b s.owner) (rest ()) s) :
    Leaves (fun s => Stored s.owner) (fun b s => Q b s.owner)
      (if n > 0 then update clear >>= fun _ => loadFrom load n.toNat 0 >>= rest
        else loadFrom load n.toNat 0 >>= rest) s := by
  apply leaves_ite
  · intro _
    apply (leaves_update (J := fun self => Stored self ∧ count self = 0) (hClear _ hs)).bind
    rintro _ s' ⟨hs', hCount⟩
    apply (leaves_loadFrom hLoad n.toNat 0 hs' fun _ => hCount).bind
    intro _ s'' hs''
    exact hRest s'' hs''
  · intro hNone
    have hZero : n.toNat = 0 := by
      rw [gt_iff_lt, UInt8.lt_iff_toNat_lt] at hNone
      exact Nat.eq_zero_of_not_pos hNone
    apply (leaves_loadFrom hLoad n.toNat 0 hs fun hMore => absurd hZero hMore).bind
    intro _ s'' hs''
    exact hRest s'' hs''

theorem naluLength_le (lengthSize : UInt8) : ((lengthSize &&& 0x03) + 1).toNat ≤ 4 := by
  revert lengthSize
  exact forall_byte (by decide +kernel)

/-- Whatever is loaded, the sets that are stored are those that are written. -/
theorem leaves_load (parseSps : ParseSps) {s : Reading Mpeg4Avc} (h : Stored s.owner) :
    Leaves (fun s => Stored s.owner) (fun _ s => Stored s.owner)
      (decoderConfigurationRecordLoad parseSps) s := by
  rw [decoderConfigurationRecordLoad]
  apply (leaves_reading h).bind
  intro version s1 h1
  apply (leaves_reading h1).bind
  intro profile s2 h2
  apply (leaves_update (J := Stored) ⟨h2.sps, h2.pps, h2.naluLength⟩).bind
  intro _ s3 h3
  apply (leaves_reading h3).bind
  intro compatibility s4 h4
  apply (leaves_update (J := Stored) ⟨h4.sps, h4.pps, h4.naluLength⟩).bind
  intro _ s5 h5
  apply (leaves_reading h5).bind
  intro level s6 h6
  apply (leaves_update (J := Stored) ⟨h6.sps, h6.pps, h6.naluLength⟩).bind
  intro _ s7 h7
  apply (leaves_reading h7).bind
  intro lengthSize s8 h8
  apply (leaves_update (J := Stored) ⟨h8.sps, h8.pps, naluLength_le lengthSize⟩).bind
  intro _ s9 h9
  apply (leaves_reading h9).bind
  intro nbSps s10 h10
  apply (leaves_update (J := Stored) ⟨h10.sps, h10.pps, h10.naluLength⟩).bind
  intro _ s11 h11
  apply leaves_clear_load (·.sps.length) (leaves_loadSps parseSps) ?_ h11
  · intro s12 h12
    apply (leaves_reading h12).bind
    intro nbPps s13 h13
    apply (leaves_update (J := Stored) ⟨h13.sps, h13.pps, h13.naluLength⟩).bind
    intro _ s14 h14
    apply leaves_clear_load (·.pps.length) leaves_loadPps ?_ h14
    · intro s15 h15
      apply (leaves_reading h15).bind
      intro rest s16 h16
      exact leaves_of_ok rfl h16
    · intro self hSelf
      exact ⟨⟨hSelf.sps, rfl, hSelf.naluLength⟩, rfl⟩
  · intro self hSelf
    exact ⟨⟨rfl, hSelf.pps, hSelf.naluLength⟩, rfl⟩

theorem stored_reached {parseSps : ParseSps} {self : Mpeg4Avc}
    (h : (processor parseSps).Reached self) : Stored self := by
  apply h.invariant
  · rintro self rfl
    exact ⟨rfl, rfl, Nat.zero_le 4⟩
  · rintro self record self' hSelf rfl
    exact (leaves_load parseSps hSelf).stateOf

/-! ### The loop ends -/

theorem readNaluSizeFrom_ok {n : Nat} {size size' : UInt32} {reader reader' : BytesReader}
    (h : readNaluSizeFrom n size reader = .ok (size', reader')) :
    reader.len = n + reader'.len := by
  induction n generalizing size reader with
  | zero =>
    cases h
    exact (Nat.zero_add _).symm
  | succ n ih =>
    rw [readNaluSizeFrom] at h
    cases hRead : reader.readU8 with
    | error e =>
      rw [hRead] at h
      cases h
    | ok r =>
      obtain ⟨byte, reader1⟩ := r
      rw [hRead] at h
      have hRest := ih h
      have hByte : reader.len = reader1.len + 1 := congrArg List.length (BytesReader.readU8_ok hRead)
      omega

/-- A turn that is followed by another has read a length and a unit. -/
theorem annexbTurn_again {self : Mpeg4Avc} {s s' : Conversion}
    (h : self.annexbTurn s = .again s') :
    ∃ size, s.reader.len = self.naluLength.toNat + size + s'.reader.len := by
  rw [annexbTurn] at h
  split at h
  · cases h
  cases hSize : self.readNaluSize s.reader with
  | error e =>
    rw [hSize] at h
    cases h
  | ok r =>
    obtain ⟨size, reader⟩ := r
    rw [hSize] at h
    dsimp only at h
    cases hByte : reader.advanceU8 with
    | error e =>
      rw [hByte] at h
      cases h
    | ok byte =>
      rw [hByte] at h
      dsimp only at h
      cases hData : reader.readBytes size.toNat with
      | error e =>
        rw [hData] at h
        cases h
      | ok r =>
        obtain ⟨data, reader'⟩ := r
        rw [hData] at h
        cases h
        have hLength := readNaluSizeFrom_ok hSize
        obtain ⟨hBuffer, hTaken⟩ := BytesReader.readBytes_ok hData
        have hUnit : reader.len = size.toNat + reader'.len := by
          rw [BytesReader.len, hBuffer, List.length_append, hTaken, BytesReader.len]
        exact ⟨size.toNat, by dsimp only; omega⟩

/-- The state behind a turn that reads a unit. -/
def Conversion.convert (self : Mpeg4Avc) (naluType : UInt8) (data : List UInt8) (reader : BytesReader)
    (s : Conversion) : Conversion where
  reader := reader
  writer := ((s.announce self naluType).writer.write H264_START_CODE).write data
  spsPpsFlag := (s.announce self naluType).spsPpsFlag

/-- A turn reads a length, and as many bytes. -/
theorem annexbTurn_unit {self : Mpeg4Avc} {s : Conversion} {size : UInt32} {byte : UInt8}
    {rest data : List UInt8} {reader : BytesReader} (hMore : s.reader.isEmpty = false)
    (hSize : self.readNaluSize s.reader = .ok (size, ⟨byte :: rest⟩))
    (hData : (⟨byte :: rest⟩ : BytesReader).readBytes size.toNat = .ok (data, reader)) :
    self.annexbTurn s = .again (s.convert self (byte &&& 0x1f) data reader) := by
  rw [annexbTurn, hMore]
  simp only [Bool.false_eq_true, if_false, hSize, BytesReader.advanceU8_cons, hData]
  rfl

/-- Without a length, a turn reads a unit of no bytes. -/
theorem annexbTurn_stuck {self : Mpeg4Avc} (h : self.naluLength = 0) {s : Conversion}
    (hMore : s.reader.buffer ≠ []) :
    ∃ s', self.annexbTurn s = .again s' ∧ s'.reader.buffer ≠ [] := by
  obtain ⟨⟨buffer⟩, writer, spsPpsFlag⟩ := s
  cases buffer with
  | nil => exact absurd rfl hMore
  | cons byte rest =>
    have hSize : self.readNaluSize ⟨byte :: rest⟩ = .ok (0, ⟨byte :: rest⟩) := by
      rw [readNaluSize, h]
      rfl
    exact ⟨_, annexbTurn_unit rfl hSize rfl, List.cons_ne_nil byte rest⟩

theorem mp4ToAnnexb_terminates_iff {self : Mpeg4Avc} {bytes : List UInt8} :
    (∃ result, self.Mp4ToAnnexb bytes result) ↔ self.naluLength ≠ 0 ∨ bytes = [] := by
  constructor
  · intro hEnds
    by_contra hNot
    rw [not_or, not_not] at hNot
    exact Ends.not_of_invariant (I := fun s : Conversion => s.reader.buffer ≠ [])
      (fun s hs => annexbTurn_stuck hNot.1 hs) hNot.2 hEnds
  · rintro (hLength | rfl)
    · apply Ends.exists_of_measure (I := fun _ => True) (fun s : Conversion => s.reader.len)
      · intro s s' _ hAgain
        obtain ⟨size, hRead⟩ := annexbTurn_again hAgain
        have hPositive : self.naluLength.toNat ≠ 0 :=
          fun hZero => hLength (UInt8.toNat_inj.mp hZero)
        exact ⟨trivial, by omega⟩
      · trivial
    · exact ⟨_, .done rfl⟩

/-! ### Lengths and start codes agree -/

/-- The bytes of a size that has room for them. -/
theorem readNaluSizeFrom_append {bytes rest : List UInt8} {size : UInt32}
    (h : size.toNat * 256 ^ bytes.length + ofBE bytes < 2 ^ 32) :
    ∃ size', readNaluSizeFrom bytes.length size ⟨bytes ++ rest⟩ = .ok (size', ⟨rest⟩) ∧
      size'.toNat = size.toNat * 256 ^ bytes.length + ofBE bytes := by
  induction bytes generalizing size with
  | nil =>
    refine ⟨size, rfl, ?_⟩
    rw [List.length_nil, pow_zero, Nat.mul_one]
    rfl
  | cons byte bytes ih =>
    rw [ofBE_cons, List.length_cons, pow_succ'] at h
    have hPos : 0 < 256 ^ bytes.length := Nat.pow_pos (by decide)
    have hTop : (size.toNat * 256 + byte.toNat) * 256 ^ bytes.length + ofBE bytes < 2 ^ 32 := by
      calc (size.toNat * 256 + byte.toNat) * 256 ^ bytes.length + ofBE bytes
          = size.toNat * (256 * 256 ^ bytes.length) +
            (byte.toNat * 256 ^ bytes.length + ofBE bytes) := by ring
        _ < 2 ^ 32 := h
    have hSmall : size.toNat * 256 + byte.toNat < 2 ^ 32 := by
      have hFactor := Nat.le_mul_of_pos_right (size.toNat * 256 + byte.toNat) hPos
      omega
    have hNext : (byte.toUInt32 + (size <<< 8)).toNat = size.toNat * 256 + byte.toNat := by
      rw [UInt32.toNat_add, UInt32.toNat_shiftLeft]
      simp only [UInt8.toNat_toUInt32, UInt32.reduceToNat, Nat.shiftLeft_eq, Nat.reduceMod,
        Nat.reducePow]
      omega
    obtain ⟨size', hRead, hSize⟩ := @ih (byte.toUInt32 + (size <<< 8)) (by rwa [hNext])
    refine ⟨size', ?_, ?_⟩
    · rw [List.length_cons, List.cons_append, readNaluSizeFrom, BytesReader.readU8_cons]
      exact hRead
    · rw [hSize, hNext, ofBE_cons, List.length_cons, pow_succ']
      ring

theorem writeNaluSizeFrom_eq (self : Mpeg4Avc) (length n : Nat) (writer : BytesWriter) :
    self.writeNaluSizeFrom length writer n = writer.write (toBE n length) := by
  induction n generalizing writer with
  | zero =>
    rw [writeNaluSizeFrom, BytesWriter.write]
    exact congrArg BytesWriter.mk (List.append_nil _).symm
  | succ n ih =>
    have hByte : UInt8.ofNat (length >>> (n * 8) &&& 0xFF) = UInt8.ofNat (length / 256 ^ n) := by
      rw [Nat.shiftRight_eq_div_pow, Nat.mul_comm n 8, pow_mul, show 2 ^ 8 = 256 from rfl,
        show 0xFF = 2 ^ 8 - 1 from rfl, Nat.and_two_pow_sub_one_eq_mod]
      exact UInt8.ofNat_mod_size
    rw [writeNaluSizeFrom, ih, toBE_succ, hByte]
    exact congrArg BytesWriter.mk (by rw [BytesWriter.writeU8, List.append_assoc]; rfl)

/-- A unit behind its length. -/
def framed (self : Mpeg4Avc) (nalu : List UInt8) : List UInt8 :=
  toBE self.naluLength.toNat nalu.length ++ nalu

theorem nalusToMpeg4avc_eq (self : Mpeg4Avc) (nalus : List (List UInt8)) :
    self.nalusToMpeg4avc nalus = nalus.flatMap self.framed := by
  suffices h : ∀ writer : BytesWriter, (nalus.foldl (fun writer nalu =>
      (self.writeNaluSize writer nalu.length).write nalu) writer).bytes =
      writer.bytes ++ nalus.flatMap self.framed from h ⟨[]⟩
  induction nalus with
  | nil => exact fun writer => (List.append_nil _).symm
  | cons nalu nalus ih =>
    intro writer
    rw [List.foldl_cons, ih, writeNaluSize, writeNaluSizeFrom_eq, List.flatMap_cons]
    simp only [BytesWriter.write, framed, List.append_assoc]

/-- The type of a unit, in its first byte. -/
def naluType (nalu : List UInt8) : UInt8 := nalu.headD 0 &&& 0x1f

/-- Some IDR unit has no SPS and no PPS unit before it. -/
def NeedsSets (nalus : List (List UInt8)) : Prop :=
  ∃ before idr after, nalus = before ++ idr :: after ∧ naluType idr = H264_NAL_IDR ∧
    ∀ nalu ∈ before, naluType nalu ≠ H264_NAL_SPS ∧ naluType nalu ≠ H264_NAL_PPS

/-- The same, unit after unit. -/
def needsSets : List (List UInt8) → Bool
  | [] => false
  | nalu :: rest =>
    if naluType nalu = H264_NAL_PPS ∨ naluType nalu = H264_NAL_SPS then false
    else if naluType nalu = H264_NAL_IDR then true
    else needsSets rest

theorem needsSets_iff {nalus : List (List UInt8)} : needsSets nalus = true ↔ NeedsSets nalus := by
  induction nalus with
  | nil =>
    constructor
    · intro h
      cases h
    · rintro ⟨before, idr, after, hSplit, -, -⟩
      simp at hSplit
  | cons nalu rest ih =>
    rw [needsSets]
    constructor
    · intro h
      split at h
      · cases h
      rename_i hSets
      split at h
      · rename_i hIdr
        exact ⟨[], nalu, rest, rfl, hIdr, by simp⟩
      · obtain ⟨before, idr, after, rfl, hIdr, hBefore⟩ := ih.mp h
        refine ⟨nalu :: before, idr, after, rfl, hIdr, ?_⟩
        rw [List.forall_mem_cons]
        exact ⟨⟨fun hSps => hSets (.inr hSps), fun hPps => hSets (.inl hPps)⟩, hBefore⟩
    · rintro ⟨before, idr, after, hSplit, hIdr, hBefore⟩
      cases before with
      | nil =>
        cases hSplit
        rw [hIdr]
        rfl
      | cons first before =>
        cases hSplit
        rw [List.forall_mem_cons] at hBefore
        obtain ⟨⟨hSps, hPps⟩, hBefore⟩ := hBefore
        rw [if_neg (not_or.mpr ⟨hPps, hSps⟩)]
        split
        · rfl
        · exact ih.mpr ⟨before, idr, after, rfl, hIdr, hBefore⟩

/-- The parameter sets that come before the units, from a state of the flag. -/
def setsBefore (self : Mpeg4Avc) (spsPpsFlag : Bool) (nalus : List (List UInt8)) : List UInt8 :=
  if spsPpsFlag then []
  else if needsSets nalus then self.spsAnnexbData.bytes ++ self.ppsAnnexbData.bytes
  else []

/-- A unit whose length fits is read back. -/
theorem annexbTurn_framed {self : Mpeg4Avc} (hWidth : self.naluLength.toNat ≤ 4)
    {nalu rest : List UInt8} (hNonempty : nalu ≠ [])
    (hLength : nalu.length < 256 ^ self.naluLength.toNat) (writer : BytesWriter)
    (spsPpsFlag : Bool) :
    self.annexbTurn ⟨⟨self.framed nalu ++ rest⟩, writer, spsPpsFlag⟩ =
      .again (Conversion.convert self (naluType nalu) nalu ⟨rest⟩
        ⟨⟨self.framed nalu ++ rest⟩, writer, spsPpsFlag⟩) := by
  cases nalu with
  | nil => exact absurd rfl hNonempty
  | cons byte tail =>
    have hMod : ofBE (toBE self.naluLength.toNat (byte :: tail).length) = (byte :: tail).length := by
      rw [ofBE_toBE, Nat.mod_eq_of_lt hLength]
    have hRange : (byte :: tail).length < 2 ^ 32 :=
      lt_of_lt_of_le hLength (Nat.pow_le_pow_right (by decide) hWidth)
    obtain ⟨size, hRead, hSize⟩ := @readNaluSizeFrom_append
      (toBE self.naluLength.toNat (byte :: tail).length) (byte :: tail ++ rest) 0 (by
        rw [hMod, UInt32.toNat_zero, Nat.zero_mul, Nat.zero_add]
        exact hRange)
    rw [hMod, UInt32.toNat_zero, Nat.zero_mul, Nat.zero_add] at hSize
    rw [length_toBE, ← List.append_assoc] at hRead
    have hMore : (⟨self.framed (byte :: tail) ++ rest⟩ : BytesReader).isEmpty = false := by
      simp [BytesReader.isEmpty, BytesReader.len, framed]
    exact annexbTurn_unit hMore hRead (BytesReader.readBytes_append hSize.symm)

/-- The sets are written at the first unit that asks for them. -/
theorem setsBefore_announce (self : Mpeg4Avc) (nalu : List UInt8) (rest : List (List UInt8))
    (s : Conversion) :
    self.setsBefore (s.announce self (naluType nalu)).spsPpsFlag rest ++
        (s.announce self (naluType nalu)).writer.bytes =
      self.setsBefore s.spsPpsFlag (nalu :: rest) ++ s.writer.bytes := by
  obtain ⟨reader, writer, spsPpsFlag⟩ := s
  by_cases hSets : naluType nalu = H264_NAL_PPS ∨ naluType nalu = H264_NAL_SPS
  · cases spsPpsFlag <;> simp [Conversion.announce, setsBefore, needsSets, hSets]
  by_cases hIdr : naluType nalu = H264_NAL_IDR
  · cases spsPpsFlag <;>
      simp [Conversion.announce, setsBefore, needsSets, hSets, if_pos hIdr, BytesWriter.prepend]
  · cases spsPpsFlag <;> simp [Conversion.announce, setsBefore, needsSets, hSets, hIdr]

theorem mp4ToAnnexb_framed {self : Mpeg4Avc} (hWidth : self.naluLength.toNat ≤ 4)
    (nalus : List (List UInt8))
    (hNalus : ∀ nalu ∈ nalus, nalu ≠ [] ∧ nalu.length < 256 ^ self.naluLength.toNat)
    (writer : BytesWriter) (spsPpsFlag : Bool) :
    Ends self.annexbTurn ⟨⟨nalus.flatMap self.framed⟩, writer, spsPpsFlag⟩
      (.ok (self.setsBefore spsPpsFlag nalus ++ writer.bytes ++ annexb nalus)) := by
  induction nalus generalizing writer spsPpsFlag with
  | nil =>
    apply Ends.done
    cases spsPpsFlag <;> simp [annexbTurn, setsBefore, needsSets, annexb, BytesReader.isEmpty,
      BytesReader.len]
  | cons nalu rest ih =>
    obtain ⟨⟨hNonempty, hLength⟩, hRest⟩ := List.forall_mem_cons.mp hNalus
    rw [List.flatMap_cons]
    apply Ends.again (annexbTurn_framed hWidth hNonempty hLength writer spsPpsFlag)
    have hEnds := ih hRest
      (((Conversion.announce self (naluType nalu)
        ⟨⟨self.framed nalu ++ rest.flatMap self.framed⟩, writer, spsPpsFlag⟩).writer.write
          H264_START_CODE).write nalu)
      (Conversion.announce self (naluType nalu)
        ⟨⟨self.framed nalu ++ rest.flatMap self.framed⟩, writer, spsPpsFlag⟩).spsPpsFlag
    have hBytes := setsBefore_announce self nalu rest
      ⟨⟨self.framed nalu ++ rest.flatMap self.framed⟩, writer, spsPpsFlag⟩
    simp only [BytesWriter.write] at hEnds
    rw [← List.append_assoc, ← List.append_assoc, hBytes] at hEnds
    rw [annexb, List.flatMap_cons, ← annexb, ← List.append_assoc, ← List.append_assoc]
    exact hEnds

/-- The conversion of the bytes returns, and the conversion of units behind their lengths is those
units behind start codes, behind the parameter sets when these are needed. -/
structure Exact (avc : Mpeg4Avc) (bytes : List UInt8) : Prop where
  terminates : ∃ result, avc.Mp4ToAnnexb bytes result
  round_trip : ∀ nalus, 1 ≤ avc.naluLength.toNat → avc.naluLength.toNat ≤ 4 →
    (∀ nalu ∈ nalus, nalu ≠ [] ∧ nalu.length < 256 ^ avc.naluLength.toNat) →
      (NeedsSets nalus → avc.Mp4ToAnnexb (avc.nalusToMpeg4avc nalus)
        (.ok (annexb avc.sps ++ annexb avc.pps ++ annexb nalus))) ∧
      (¬NeedsSets nalus → avc.Mp4ToAnnexb (avc.nalusToMpeg4avc nalus) (.ok (annexb nalus)))

theorem mp4ToAnnexb_nalus {self : Mpeg4Avc} (hStored : Stored self) {nalus : List (List UInt8)}
    (hNalus : ∀ nalu ∈ nalus, nalu ≠ [] ∧ nalu.length < 256 ^ self.naluLength.toNat) :
    self.Mp4ToAnnexb (self.nalusToMpeg4avc nalus)
      (.ok ((if needsSets nalus then annexb self.sps ++ annexb self.pps else []) ++
        annexb nalus)) := by
  have hEnds := mp4ToAnnexb_framed hStored.naluLength nalus hNalus ⟨[]⟩ false
  rw [setsBefore, hStored.sps, hStored.pps, List.append_nil] at hEnds
  rw [Mp4ToAnnexb, nalusToMpeg4avc_eq]
  exact hEnds

/-- Whatever records a processor has loaded, it converts as it should, but for one that knows no length:
that one gets to the end of no bytes only. -/
theorem mp4ToAnnexb_exact_iff {parseSps : ParseSps} {self : Mpeg4Avc}
    (h : (processor parseSps).Reached self) (bytes : List UInt8) :
    Exact self bytes ↔ self.naluLength ≠ 0 ∨ bytes = [] := by
  constructor
  · intro hExact
    exact mp4ToAnnexb_terminates_iff.mp hExact.terminates
  · intro hWidth
    refine ⟨mp4ToAnnexb_terminates_iff.mpr hWidth, ?_⟩
    intro nalus _ _ hNalus
    have hEnds := mp4ToAnnexb_nalus (stored_reached h) hNalus
    constructor
    · intro hNeeds
      rwa [if_pos (needsSets_iff.mpr hNeeds)] at hEnds
    · intro hNone
      rwa [if_neg (fun hNeeds => hNone (needsSets_iff.mp hNeeds))] at hEnds

/-- A record of version 1 with one SPS and one PPS, of two bytes each. -/
def shortRecord : List UInt8 :=
  [0x01, 0x64, 0x00, 0x1f, 0xff, 0xe1, 0x00, 0x02, 0x67, 0x64, 0x01, 0x00, 0x02, 0x68, 0xee]

/-- What a processor is after that record, when the SPS is one of 640 by 480. -/
def shortLoaded : Mpeg4Avc :=
  (stateOf (decoderConfigurationRecordLoad (fun _ => .ok (640, 480)) ⟨new, ⟨shortRecord⟩⟩)).owner

theorem shortLoaded_exact : Exact shortLoaded [0x00, 0x00, 0x00, 0x02, 0x65, 0x88] :=
  (@mp4ToAnnexb_exact_iff (fun _ => .ok (640, 480)) _
    ⟨new, [shortRecord], rfl, .cons rfl (.nil _)⟩ _).mpr (.inl (by decide))

/-- A unit that comes before any record keeps the loop busy for ever. -/
theorem unloaded_diverges : ¬∀ self bytes, (processor fun _ => .error .h264Error).Reached self →
    ∃ result, self.Mp4ToAnnexb bytes result := by
  intro hClaim
  have hEnds := hClaim new [0x65] ⟨new, [], rfl, .nil new⟩
  rcases mp4ToAnnexb_terminates_iff.mp hEnds with hLength | hBytes
  · exact hLength rfl
  · cases hBytes

end Mpeg4Avc

end Xiu.Flv
