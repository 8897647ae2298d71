import Xiu.Flv.Mpeg4Aac
import Xiu.ProofKit.System

/-! The audio tags of a stream, of `FlvAudioTagDemuxer` in `library/container/flv/src/demuxer.rs`: all of
them go through one reader, and what a tag leaves in it comes before the next one. -/

namespace Xiu.Flv

open Bytesio ProofKit Bytesio.Read

structure FlvDemuxerAudioData where
  hasData : Bool
  soundFormat : UInt8
  dts : Int64
  pts : Int64
  data : List UInt8
  deriving DecidableEq

def FlvDemuxerAudioData.new : FlvDemuxerAudioData := ⟨false, 0, 0, 0, []⟩

namespace FlvAudioTagDemuxer

open Mpeg4AacProcessor

def extractCurrentBytes : Read Mpeg4AacProcessor (List UInt8) := do
  let self ← owner
  act fun self => { self with bytesWriter := ⟨[]⟩ }
  return self.bytesWriter.bytes

def demux (timestamp : UInt32) (data : List UInt8) : Read Mpeg4AacProcessor FlvDemuxerAudioData :=
  match AudioTagHeader.unmarshal ⟨data⟩ with
  | .error value => throw (.bytesReadError value)
  | .ok (tagHeader, reader) => do
    extendData reader.buffer
    if tagHeader.soundFormat = AAC then
      if tagHeader.aacPacketType = AAC_SEQHDR then
        let length ← len
        if length ≥ 2 then audioSpecificConfigLoad
        return .new
      else if tagHeader.aacPacketType = AAC_RAW then
        adtsSave
        let data ← extractCurrentBytes
        return ⟨true, tagHeader.soundFormat, Int64.ofNat timestamp.toNat, Int64.ofNat timestamp.toNat,
          data⟩
      else return .new
    else return .new

/-! ### What a tag of a kind does -/

variable {timestamp : UInt32} {data payload : List UInt8} {s : Reading Mpeg4AacProcessor}

/-- The state in which a payload has been put behind what was left. -/
def extended (s : Reading Mpeg4AacProcessor) (payload : List UInt8) : Reading Mpeg4AacProcessor :=
  ⟨s.owner, ⟨s.reader.buffer ++ payload⟩⟩

theorem demux_short (h : AudioTag.of data = .short) :
    demux timestamp data s = .error (.bytesReadError .notEnoughBytes) s := by
  have hHeaded := AudioTag.headed data
  rw [h] at hHeaded
  rw [demux, hHeaded]
  rfl

theorem demux_other (h : AudioTag.of data = .other payload) :
    demux timestamp data s = .ok .new (extended s payload) := by
  have hHeaded := AudioTag.headed data
  rw [h] at hHeaded
  obtain ⟨tagHeader, hHeader, hTypes⟩ := hHeaded
  rw [demux, hHeader]
  simp only [extendData, bind_modify, BytesReader.extendFromSlice]
  by_cases hFormat : tagHeader.soundFormat = AAC
  · rw [if_pos hFormat, if_neg (hTypes hFormat).1, if_neg (hTypes hFormat).2]
    rfl
  · rw [if_neg hFormat]
    rfl

/-- A sequence header loads the configuration when two bytes are there. -/
theorem demux_sequenceHeader (h : AudioTag.of data = .sequenceHeader payload) :
    demux timestamp data s =
      (if (s.reader.buffer ++ payload).length ≥ 2 then
        (audioSpecificConfigLoad >>= fun _ => pure FlvDemuxerAudioData.new)
      else pure FlvDemuxerAudioData.new) (extended s payload) := by
  have hHeaded := AudioTag.headed data
  rw [h] at hHeaded
  obtain ⟨tagHeader, hHeader, hFormat, hType⟩ := hHeaded
  rw [demux, hHeader]
  simp only [extendData, bind_modify, BytesReader.extendFromSlice]
  rw [if_pos hFormat, if_pos hType, bind_len]
  rfl

theorem demux_raw (h : AudioTag.of data = .raw payload)
    (hObject : s.owner.mpeg4Aac.objectType ≠ 0) :
    demux timestamp data s = .ok ⟨true, AAC, Int64.ofNat timestamp.toNat, Int64.ofNat timestamp.toNat,
        s.owner.bytesWriter.bytes ++
          adtsHeader s.owner.mpeg4Aac (s.reader.buffer ++ payload).length ++
          (s.reader.buffer ++ payload)⟩
      ⟨{ s.owner with bytesWriter := ⟨[]⟩ }, ⟨[]⟩⟩ := by
  have hHeaded := AudioTag.headed data
  rw [h] at hHeaded
  obtain ⟨tagHeader, hHeader, hFormat, hType⟩ := hHeaded
  have hNot : tagHeader.aacPacketType ≠ AAC_SEQHDR := by
    rw [hType]
    decide
  rw [demux, hHeader]
  simp only [extendData, bind_modify, BytesReader.extendFromSlice]
  rw [if_pos hFormat, if_neg hNot, if_pos hType, bind_of_ok (adtsSave_ok hObject), hFormat]
  rfl

theorem demux_raw_panics (h : AudioTag.of data = .raw payload)
    (hObject : s.owner.mpeg4Aac.objectType = 0) : Panics (demux timestamp data s) := by
  have hHeaded := AudioTag.headed data
  rw [h] at hHeaded
  obtain ⟨tagHeader, hHeader, hFormat, hType⟩ := hHeaded
  have hNot : tagHeader.aacPacketType ≠ AAC_SEQHDR := by
    rw [hType]
    decide
  obtain ⟨s', hSave⟩ := adtsSave_panics hObject ⟨s.reader.buffer ++ payload⟩
  rw [demux, hHeader]
  simp only [extendData, bind_modify, BytesReader.extendFromSlice]
  rw [if_pos hFormat, if_neg hNot, if_pos hType, bind_of_error hSave]
  exact ⟨s', rfl⟩

/-! ### When a tag panics -/

/-- The index in the first two bytes, if there are two, is one of the table. -/
def FirstIndexed (bytes : List UInt8) : Prop :=
  ∀ byte0 byte1 rest, bytes = byte0 :: byte1 :: rest → Indexed byte0 byte1

theorem firstIndexed_cons {byte0 byte1 : UInt8} {rest : List UInt8} :
    FirstIndexed (byte0 :: byte1 :: rest) ↔ Indexed byte0 byte1 := by
  constructor
  · intro h
    exact h byte0 byte1 rest rfl
  · intro h b0 b1 r hBytes
    cases hBytes
    exact h

theorem firstIndexed_of_short {bytes : List UInt8} (h : ¬bytes.length ≥ 2) : FirstIndexed bytes := by
  intro byte0 byte1 rest hBytes
  rw [hBytes] at h
  exact absurd h (by simp)

/-- A sequence header says an index of the table, and a raw frame comes behind an object type. -/
def Tame (s : Reading Mpeg4AacProcessor) (data : List UInt8) : Prop :=
  (∀ payload, AudioTag.of data = .sequenceHeader payload →
    FirstIndexed (s.reader.buffer ++ payload)) ∧
  ∀ payload, AudioTag.of data = .raw payload → s.owner.mpeg4Aac.objectType ≠ 0

theorem eq_cons_cons {bytes : List UInt8} (h : bytes.length ≥ 2) :
    ∃ byte0 byte1 rest, bytes = byte0 :: byte1 :: rest := by
  cases bytes with
  | nil => exact absurd h (by simp)
  | cons byte0 bytes =>
    cases bytes with
    | nil => exact absurd h (by simp)
    | cons byte1 rest => exact ⟨byte0, byte1, rest, rfl⟩

/-- What a sequence header does: it panics, or it leaves nothing, or too little for a configuration. -/
theorem demux_sequenceHeader_cases (h : AudioTag.of data = .sequenceHeader payload) :
    (¬FirstIndexed (s.reader.buffer ++ payload) ∧ Panics (demux timestamp data s)) ∨
    (FirstIndexed (s.reader.buffer ++ payload) ∧ (s.reader.buffer ++ payload).length < 2 ∧
      demux timestamp data s = .ok .new (extended s payload)) ∨
    (FirstIndexed (s.reader.buffer ++ payload) ∧ 2 ≤ (s.reader.buffer ++ payload).length ∧
      ∃ mpeg4Aac, demux timestamp data s = .ok .new ⟨{ s.owner with mpeg4Aac }, ⟨[]⟩⟩) := by
  rw [demux_sequenceHeader h]
  by_cases hTwo : (s.reader.buffer ++ payload).length ≥ 2
  · obtain ⟨byte0, byte1, rest, hBytes⟩ := eq_cons_cons hTwo
    rw [if_pos hTwo, extended, hBytes, firstIndexed_cons]
    by_cases hIndexed : Indexed byte0 byte1
    · obtain ⟨samplingFrequency, hLoad⟩ := audioSpecificConfigLoad_ok hIndexed
      exact .inr (.inr ⟨hIndexed, by simp, _, bind_of_ok hLoad⟩)
    · obtain ⟨s', hLoad⟩ := audioSpecificConfigLoad_panics hIndexed
      exact .inl ⟨hIndexed, s', bind_of_error hLoad⟩
  · rw [if_neg hTwo]
    exact .inr (.inl ⟨firstIndexed_of_short hTwo, Nat.not_le.mp hTwo, rfl⟩)

/-- A tag that is neither is harmless. -/
theorem tame_of_ne (hHeader : ∀ payload, AudioTag.of data ≠ .sequenceHeader payload)
    (hRaw : ∀ payload, AudioTag.of data ≠ .raw payload) : Tame s data := by
  constructor
  · intro payload h
    exact absurd h (hHeader payload)
  · intro payload h
    exact absurd h (hRaw payload)

theorem demux_calm_iff : ¬Panics (demux timestamp data s) ↔ Tame s data := by
  cases hTag : AudioTag.of data with
  | short =>
    rw [demux_short hTag]
    exact iff_of_true not_panics_error (tame_of_ne (by simp [hTag]) (by simp [hTag]))
  | other payload =>
    rw [demux_other hTag]
    exact iff_of_true not_panics_ok (tame_of_ne (by simp [hTag]) (by simp [hTag]))
  | sequenceHeader payload =>
    have hTame : Tame s data ↔ FirstIndexed (s.reader.buffer ++ payload) := by
      simp [Tame, hTag]
    rw [hTame]
    rcases @demux_sequenceHeader_cases timestamp _ _ s hTag with
      ⟨hNot, hPanics⟩ | ⟨hFirst, -, hOk⟩ | ⟨hFirst, -, aac, hOk⟩
    · exact iff_of_false (not_not.mpr hPanics) hNot
    · rw [hOk]
      exact iff_of_true not_panics_ok hFirst
    · rw [hOk]
      exact iff_of_true not_panics_ok hFirst
  | raw payload =>
    have hTame : Tame s data ↔ s.owner.mpeg4Aac.objectType ≠ 0 := by
      simp [Tame, hTag]
    rw [hTame]
    by_cases hObject : s.owner.mpeg4Aac.objectType = 0
    · exact iff_of_false (not_not.mpr (demux_raw_panics hTag hObject)) (not_not.mpr hObject)
    · rw [demux_raw hTag hObject]
      exact iff_of_true not_panics_ok hObject

/-! ### What tags leave behind -/

/-- The tags of a stream, with their timestamps.  A panic ends the stream. -/
def system : System (Reading Mpeg4AacProcessor) (UInt32 × List UInt8) where
  init s := s = Mpeg4AacProcessor.new
  step s tag s' := ¬Panics (demux tag.1 tag.2 s) ∧ s' = stateOf (demux tag.1 tag.2 s)

/-- What a tag leaves of its payload and of what there was before: nothing, when it is a raw frame or a
configuration, and otherwise all of it. -/
def leaves (left : List UInt8) : AudioTag → List UInt8
  | .short => left
  | .sequenceHeader payload => if (left ++ payload).length < 2 then left ++ payload else []
  | .raw _ => []
  | .other payload => left ++ payload

/-- What tags one after the other leave. -/
def leftBy (tags : List (UInt32 × List UInt8)) : List UInt8 :=
  tags.foldl (fun left tag => leaves left (AudioTag.of tag.2)) []

/-- A tag that does not panic leaves in the reader what it leaves by its kind, and nothing in the
writer. -/
theorem demux_leaves (hWriter : s.owner.bytesWriter = ⟨[]⟩) (hCalm : ¬Panics (demux timestamp data s)) :
    (stateOf (demux timestamp data s)).reader = ⟨leaves s.reader.buffer (AudioTag.of data)⟩ ∧
      (stateOf (demux timestamp data s)).owner.bytesWriter = ⟨[]⟩ := by
  cases hTag : AudioTag.of data with
  | short =>
    rw [demux_short hTag]
    exact ⟨rfl, hWriter⟩
  | other payload =>
    rw [demux_other hTag]
    exact ⟨rfl, hWriter⟩
  | sequenceHeader payload =>
    rw [leaves]
    rcases @demux_sequenceHeader_cases timestamp _ _ s hTag with
      ⟨-, hPanics⟩ | ⟨-, hShort, hOk⟩ | ⟨-, hTwo, aac, hOk⟩
    · exact absurd hPanics hCalm
    · rw [hOk, if_pos hShort]
      exact ⟨rfl, hWriter⟩
    · rw [hOk, if_neg (Nat.not_lt.mpr hTwo)]
      exact ⟨rfl, hWriter⟩
  | raw payload =>
    have hObject : s.owner.mpeg4Aac.objectType ≠ 0 := (demux_calm_iff.mp hCalm).2 payload hTag
    rw [demux_raw hTag hObject]
    exact ⟨rfl, rfl⟩

theorem run_leaves {tags : List (UInt32 × List UInt8)}
    (hRun : system.Run Mpeg4AacProcessor.new tags s) :
    s.reader = ⟨leftBy tags⟩ ∧ s.owner.bytesWriter = ⟨[]⟩ := by
  have hStep : ∀ before s tag s', s.reader = ⟨leftBy before⟩ ∧ s.owner.bytesWriter = ⟨[]⟩ →
      system.step s tag s' →
        s'.reader = ⟨leftBy (before ++ [tag])⟩ ∧ s'.owner.bytesWriter = ⟨[]⟩ := by
    rintro before s tag s' ⟨hReader, hWriter⟩ ⟨hCalm, rfl⟩
    obtain ⟨hLeft, hEmpty⟩ := demux_leaves hWriter hCalm
    refine ⟨?_, hEmpty⟩
    rw [hLeft, hReader, leftBy, leftBy, List.foldl_append]
    rfl
  have hNew : Mpeg4AacProcessor.new.reader = ⟨leftBy []⟩ ∧
      Mpeg4AacProcessor.new.owner.bytesWriter = ⟨[]⟩ := ⟨rfl, rfl⟩
  have hAll := hRun.preserves_labels hStep hNew
  rwa [List.nil_append] at hAll

/-- The data of a frame is an ADTS header, of seven bytes, and this payload. -/
def OwnPayload (payload : List UInt8) (audio : FlvDemuxerAudioData) : Prop :=
  ∃ header, header.length = 7 ∧ [0xFF, 0xF1] <+: header ∧ audio.data = header ++ payload

/-- Behind any tags, a raw frame that is demuxed is its own payload behind a header if and only if the
tags before it have left nothing. -/
theorem demux_ownPayload_iff {tags : List (UInt32 × List UInt8)}
    (hRun : system.Run Mpeg4AacProcessor.new tags s) (hRaw : AudioTag.of data = .raw payload)
    {audio : FlvDemuxerAudioData} {s' : Reading Mpeg4AacProcessor}
    (hOk : demux timestamp data s = .ok audio s') :
    OwnPayload payload audio ↔ leftBy tags = [] := by
  obtain ⟨hReader, hWriter⟩ := run_leaves hRun
  have hCalm : ¬Panics (demux timestamp data s) := by
    rw [hOk]
    exact not_panics_ok
  have hData := @demux_raw timestamp _ _ s hRaw ((demux_calm_iff.mp hCalm).2 payload hRaw)
  rw [hOk, hReader, hWriter, List.nil_append] at hData
  obtain ⟨rfl, -⟩ := EStateM.Result.ok.inj hData
  constructor
  · rintro ⟨header, hLength, -, hBytes⟩
    have hLengths := congrArg List.length hBytes
    simp only [List.length_append, adtsHeader, List.length_cons, List.length_nil] at hLengths
    exact List.eq_nil_of_length_eq_zero (by omega)
  · intro hNone
    rw [hNone]
    exact ⟨_, rfl, List.prefix_append _ _, rfl⟩

/-- A tag with the configuration of AAC LC at 44100 Hz, in stereo. -/
def configuration : List UInt8 := [0xaf, 0x00, 0x12, 0x10]

theorem tame_configuration : Tame Mpeg4AacProcessor.new configuration := by
  constructor
  · intro payload h
    cases h
    exact firstIndexed_cons.mpr (by decide)
  · intro payload h
    cases h

theorem run_configuration : system.Run Mpeg4AacProcessor.new [(0, configuration)]
    (stateOf (demux 0 configuration Mpeg4AacProcessor.new)) :=
  .cons ⟨demux_calm_iff.mpr tame_configuration, rfl⟩ (.nil _)

/-- A frame behind a configuration. -/
theorem frame_ownPayload : ∃ audio s', demux 23 [0xaf, 0x01, 0x21]
    (stateOf (demux 0 configuration Mpeg4AacProcessor.new)) = .ok audio s' ∧
      OwnPayload [0x21] audio := by
  have hRaw : AudioTag.of [0xaf, 0x01, 0x21] = .raw [0x21] := by decide
  have hOk := @demux_raw 23 _ _ (stateOf (demux 0 configuration Mpeg4AacProcessor.new)) hRaw (by decide)
  exact ⟨_, _, hOk, (demux_ownPayload_iff run_configuration hRaw hOk).mpr (by decide)⟩

/-- A frame behind a tag of another format begins with the bytes of that tag. -/
theorem otherFormat_prepended : ¬∀ tags s timestamp data payload audio s',
    system.Run Mpeg4AacProcessor.new tags s → AudioTag.of data = .raw payload →
      demux timestamp data s = .ok audio s' → OwnPayload payload audio := by
  intro hClaim
  let first := stateOf (demux 0 configuration Mpeg4AacProcessor.new)
  let second := stateOf (demux 0 [0x2f, 0xaa] first)
  have hOther : AudioTag.of [0x2f, 0xaa] = .other [0xaa] := by decide
  have hTame : Tame first [0x2f, 0xaa] := tame_of_ne (by simp [hOther]) (by simp [hOther])
  have hRun : system.Run Mpeg4AacProcessor.new [(0, configuration), (0, [0x2f, 0xaa])] second :=
    run_configuration.append (.cons ⟨demux_calm_iff.mpr hTame, rfl⟩ (.nil _))
  have hRaw : AudioTag.of [0xaf, 0x01, 0x21] = .raw [0x21] := by decide
  have hOk := @demux_raw 23 _ _ second hRaw (by decide)
  obtain ⟨header, hLength, -, hData⟩ := hClaim _ _ 23 _ _ _ _ hRun hRaw hOk
  have hLengths : 9 = (header ++ [0x21]).length := congrArg List.length hData
  rw [List.length_append, hLength] at hLengths
  exact absurd hLengths (by decide)

end FlvAudioTagDemuxer

end Xiu.Flv
