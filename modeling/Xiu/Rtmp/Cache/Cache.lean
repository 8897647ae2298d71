import Xiu.Flv.AudioDemuxer
import Xiu.Flv.Mpeg4Avc
import Xiu.Rtmp.Cache.Gop
import Xiu.StreamHub.Statistics

/-! What is kept of a stream for its new subscribers, of `protocol/rtmp/src/cache/mod.rs`, and the audio
messages that go into it and into the demuxer: when none of them panics. -/

namespace Xiu.Rtmp

open Bytesio ProofKit StreamHub
open Flv (AudioTag AudioTagHeader VideoTagHeader Mpeg4AacProcessor Mpeg4Avc AvcFault)
open Flv.FlvAudioTagDemuxer (FirstIndexed)

/-- A cache but for its metadata. -/
structure Cache where
  videoSeq : List UInt8
  videoTimestamp : UInt32
  audioSeq : List UInt8
  audioTimestamp : UInt32
  gops : Gops
  /-- What has been sent to the statistics, if there is a sender. -/
  statisticDataSender : Option (List StatisticData)

namespace Cache

def new (gopNum : Nat) (statisticDataSender : Option (List StatisticData)) : Cache where
  videoSeq := []
  videoTimestamp := 0
  audioSeq := []
  audioTimestamp := 0
  gops := Gops.new gopNum
  statisticDataSender := statisticDataSender

variable {ε : Type}

def saveFrameData (data : FrameData) (isKeyFrame : Bool) : EStateM ε Cache Unit :=
  modify fun self => { self with gops := self.gops.saveFrameData data isKeyFrame }

/-- Sends to the statistics, if there is a sender. -/
def send (data : StatisticData) : EStateM ε Cache Unit :=
  modify fun self => { self with
    statisticDataSender := self.statisticDataSender.map fun sent => sent ++ [data] }

/-- What something else does, with a state of its own. -/
def aside {τ : Type} (x : EStateM ε τ Unit) (s : τ) : EStateM ε Cache Unit := fun self =>
  match x s with
  | .ok _ _ => .ok () self
  | .error e _ => .error e self

/-- The configuration in a sequence header is reported, if there is a sender. -/
def reportAudioCodec (remainBytes : List UInt8) : EStateM Fault Cache Unit := do
  let self ← get
  if self.statisticDataSender.isSome then
    aside (do Mpeg4AacProcessor.extendData remainBytes; Mpeg4AacProcessor.audioSpecificConfigLoad)
      Mpeg4AacProcessor.new
    send .audioCodec

def saveAudioData (chunkBody : List UInt8) (timestamp : UInt32) : EStateM Fault Cache Unit := do
  saveFrameData (.audio timestamp chunkBody) false
  match AudioTagHeader.unmarshal ⟨chunkBody⟩ with
  | .error value => throw (.bytesReadError value)
  | .ok (tagHeader, reader) => do
    let remainBytes := reader.buffer
    if remainBytes.length ≥ 2 ∧ tagHeader.soundFormat = Flv.AAC ∧
        tagHeader.aacPacketType = Flv.AAC_SEQHDR then
      modify fun self => { self with audioSeq := chunkBody, audioTimestamp := timestamp }
      reportAudioCodec remainBytes
    send (.audio none chunkBody.length tagHeader.aacPacketType)

/-- The record in a sequence header is reported, if there is a sender. -/
def reportVideoCodec (parseSps : Mpeg4Avc.ParseSps) (reader : BytesReader) :
    EStateM AvcFault Cache Unit := do
  let self ← get
  if self.statisticDataSender.isSome then
    aside (Mpeg4Avc.decoderConfigurationRecordLoad parseSps) ⟨Mpeg4Avc.new, reader⟩
    send .videoCodec

def saveVideoData (parseSps : Mpeg4Avc.ParseSps) (chunkBody : List UInt8) (timestamp : UInt32) :
    EStateM AvcFault Cache Unit :=
  match VideoTagHeader.unmarshal ⟨chunkBody⟩ with
  | .error value => throw (.bytesReadError value)
  | .ok (tagHeader, reader) => do
    let isKeyFrame : Bool := tagHeader.frameType = Flv.KEY_FRAME
    saveFrameData (.video timestamp chunkBody) isKeyFrame
    if isKeyFrame ∧ tagHeader.avcPacketType = Flv.AVC_SEQHDR then
      modify fun self => { self with videoSeq := chunkBody, videoTimestamp := timestamp }
      reportVideoCodec parseSps reader
    send (.video none chunkBody.length 1 (some isKeyFrame))

def getAudioSeq (self : Cache) : Option FrameData :=
  if ¬self.audioSeq.isEmpty then some (.audio self.audioTimestamp self.audioSeq) else none

def getVideoSeq (self : Cache) : Option FrameData :=
  if ¬self.videoSeq.isEmpty then some (.video self.videoTimestamp self.videoSeq) else none

def getGopsData (self : Cache) : Option (List Gop) :=
  if self.gops.setted then some self.gops.getGops else none

/-! ### When an audio message panics -/

variable {chunkBody payload : List UInt8} {timestamp : UInt32} {self : Cache}

/-- A sequence header that is reported says an index of the table. -/
def Tame (self : Cache) (chunkBody : List UInt8) : Prop :=
  self.statisticDataSender.isSome → ∀ payload, AudioTag.of chunkBody = .sequenceHeader payload →
    FirstIndexed payload

theorem panics_aside {τ : Type} {x : EStateM Fault τ Unit} {s : τ} :
    Panics (aside x s self) ↔ Panics (x s) := by
  unfold aside
  constructor
  · rintro ⟨s', h⟩
    split at h
    · cases h
    · rename_i hX
      cases h
      exact ⟨_, hX⟩
  · rintro ⟨s', h⟩
    rw [h]
    exact ⟨_, rfl⟩

/-- What follows a first action that does not panic, when it does not panic either. -/
theorem panics_bind_send {x : EStateM Fault Cache Unit} {data : StatisticData} :
    Panics ((x >>= fun _ => send data) self) ↔ Panics (x self) := by
  constructor
  · rintro ⟨s', h⟩
    rcases bind_eq_error h with hX | ⟨a, s1, -, hSend⟩
    · exact ⟨s', hX⟩
    · cases hSend
  · rintro ⟨s', h⟩
    exact ⟨s', bind_of_error h⟩

theorem panics_reportAudioCodec (hTwo : 2 ≤ payload.length) :
    Panics (reportAudioCodec payload self) ↔
      self.statisticDataSender.isSome ∧ ¬FirstIndexed payload := by
  rw [reportAudioCodec, bind_get]
  by_cases hSender : self.statisticDataSender.isSome
  · obtain ⟨byte0, byte1, rest, rfl⟩ := Flv.FlvAudioTagDemuxer.eq_cons_cons hTwo
    rw [if_pos hSender, panics_bind_send, panics_aside, Mpeg4AacProcessor.extendData, bind_modify,
      Flv.FlvAudioTagDemuxer.firstIndexed_cons, and_iff_right hSender]
    by_cases hIndexed : Mpeg4AacProcessor.Indexed byte0 byte1
    · obtain ⟨samplingFrequency, hLoad⟩ := @Mpeg4AacProcessor.audioSpecificConfigLoad_ok
        Mpeg4AacProcessor.new.owner byte0 byte1 rest hIndexed
      refine iff_of_false ?_ (not_not.mpr hIndexed)
      rintro ⟨s', hPanics⟩
      rw [show (⟨Mpeg4AacProcessor.new.owner, Mpeg4AacProcessor.new.reader.extendFromSlice
        (byte0 :: byte1 :: rest)⟩ : Reading Mpeg4AacProcessor) =
          ⟨Mpeg4AacProcessor.new.owner, ⟨byte0 :: byte1 :: rest⟩⟩ from rfl, hLoad] at hPanics
      cases hPanics
    · exact iff_of_true (Mpeg4AacProcessor.audioSpecificConfigLoad_panics hIndexed) hIndexed
  · rw [if_neg hSender]
    exact iff_of_false not_panics_ok fun h => hSender h.1

theorem tame_of_ne (h : ∀ payload, AudioTag.of chunkBody ≠ .sequenceHeader payload) :
    Tame self chunkBody := by
  intro _ payload hTag
  exact absurd hTag (h payload)

theorem saveAudioData_calm_iff :
    ¬Panics (saveAudioData chunkBody timestamp self) ↔ Tame self chunkBody := by
  have hHeaded := AudioTag.headed chunkBody
  rw [saveAudioData, saveFrameData, bind_modify]
  cases hTag : AudioTag.of chunkBody with
  | short =>
    rw [hTag] at hHeaded
    rw [hHeaded]
    exact iff_of_true not_panics_error (tame_of_ne (by simp [hTag]))
  | raw payload =>
    rw [hTag] at hHeaded
    obtain ⟨tagHeader, hHeader, -, hType⟩ := hHeaded
    have hNot : tagHeader.aacPacketType ≠ Flv.AAC_SEQHDR := by
      rw [hType]
      decide
    rw [hHeader]
    simp only
    rw [if_neg fun h => hNot h.2.2]
    exact iff_of_true not_panics_ok (tame_of_ne (by simp [hTag]))
  | other payload =>
    rw [hTag] at hHeaded
    obtain ⟨tagHeader, hHeader, hTypes⟩ := hHeaded
    rw [hHeader]
    simp only
    rw [if_neg fun h => (hTypes h.2.1).1 h.2.2]
    exact iff_of_true not_panics_ok (tame_of_ne (by simp [hTag]))
  | sequenceHeader payload =>
    rw [hTag] at hHeaded
    obtain ⟨tagHeader, hHeader, hFormat, hType⟩ := hHeaded
    have hTame : Tame self chunkBody ↔ (self.statisticDataSender.isSome → FirstIndexed payload) := by
      simp [Tame, hTag]
    rw [hHeader, hTame]
    simp only
    by_cases hTwo : payload.length ≥ 2
    · rw [if_pos ⟨hTwo, hFormat, hType⟩, bind_modify, panics_bind_send, panics_reportAudioCodec hTwo,
        not_and, not_not]
    · rw [if_neg fun h => hTwo h.1]
      exact iff_of_true not_panics_ok fun _ => Flv.FlvAudioTagDemuxer.firstIndexed_of_short hTwo

/-! ### What an audio message leaves -/

/-- The cache as it was but for its groups of pictures and the statistics, with this sequence header. -/
structure HoldsAudio (before : Cache) (audioSeq : List UInt8) (after : Cache) : Prop where
  audioSeq : after.audioSeq = audioSeq
  sender : after.statisticDataSender.isSome = before.statisticDataSender.isSome

theorem aside_ok {ε τ : Type} {x : EStateM ε τ Unit} {s s' : τ} (h : x s = .ok () s') :
    aside x s self = .ok () self := by
  unfold aside
  rw [h]

theorem reportAudioCodec_ok (hTwo : 2 ≤ payload.length)
    (h : self.statisticDataSender.isSome → FirstIndexed payload) :
    ∃ after, reportAudioCodec payload self = .ok () after ∧ HoldsAudio self self.audioSeq after := by
  rw [reportAudioCodec, bind_get]
  by_cases hSender : self.statisticDataSender.isSome
  · obtain ⟨byte0, byte1, rest, rfl⟩ := Flv.FlvAudioTagDemuxer.eq_cons_cons hTwo
    have hIndexed := Flv.FlvAudioTagDemuxer.firstIndexed_cons.mp (h hSender)
    obtain ⟨samplingFrequency, hLoad⟩ := @Mpeg4AacProcessor.audioSpecificConfigLoad_ok
      Mpeg4AacProcessor.new.owner byte0 byte1 rest hIndexed
    rw [if_pos hSender]
    have hAside : aside (Mpeg4AacProcessor.extendData (byte0 :: byte1 :: rest) >>=
        fun _ => Mpeg4AacProcessor.audioSpecificConfigLoad) Mpeg4AacProcessor.new self =
          .ok () self := aside_ok hLoad
    exact ⟨_, bind_of_ok hAside, rfl, Option.isSome_map⟩
  · rw [if_neg hSender]
    exact ⟨self, rfl, rfl, rfl⟩

/-- A message that is no sequence header keeps the one that is held, and so does a sequence header with
a payload of less than two bytes. -/
theorem saveAudioData_other
    (h : ∀ payload, AudioTag.of chunkBody = .sequenceHeader payload → payload.length < 2)
    (hShort : AudioTag.of chunkBody ≠ .short) :
    ∃ after, saveAudioData chunkBody timestamp self = .ok () after ∧
      HoldsAudio self self.audioSeq after := by
  have hHeaded := AudioTag.headed chunkBody
  -- a message that is told to be no sequence header of two bytes
  have hKept : ∀ (tagHeader : AudioTagHeader) (payload : List UInt8),
      AudioTagHeader.unmarshal ⟨chunkBody⟩ = .ok (tagHeader, ⟨payload⟩) →
      ¬(payload.length ≥ 2 ∧ tagHeader.soundFormat = Flv.AAC ∧
        tagHeader.aacPacketType = Flv.AAC_SEQHDR) →
      ∃ after, saveAudioData chunkBody timestamp self = .ok () after ∧
        HoldsAudio self self.audioSeq after := by
    intro tagHeader payload hHeader hNot
    rw [saveAudioData, saveFrameData, bind_modify, hHeader]
    simp only
    rw [if_neg hNot]
    exact ⟨_, rfl, rfl, Option.isSome_map⟩
  cases hTag : AudioTag.of chunkBody with
  | short => exact absurd hTag hShort
  | raw payload =>
    rw [hTag] at hHeaded
    obtain ⟨tagHeader, hHeader, -, hType⟩ := hHeaded
    refine hKept tagHeader payload hHeader fun hAll => ?_
    rw [hType] at hAll
    exact absurd hAll.2.2 (by decide)
  | other payload =>
    rw [hTag] at hHeaded
    obtain ⟨tagHeader, hHeader, hTypes⟩ := hHeaded
    exact hKept tagHeader payload hHeader fun hAll => (hTypes hAll.2.1).1 hAll.2.2
  | sequenceHeader payload =>
    have hLess := h payload hTag
    rw [hTag] at hHeaded
    obtain ⟨tagHeader, hHeader, -, -⟩ := hHeaded
    exact hKept tagHeader payload hHeader fun hAll => absurd hAll.1 (by omega)

/-- A sequence header is held, if it can be reported. -/
theorem saveAudioData_header (hTag : AudioTag.of chunkBody = .sequenceHeader payload)
    (hTwo : 2 ≤ payload.length) (h : self.statisticDataSender.isSome → FirstIndexed payload) :
    ∃ after, saveAudioData chunkBody timestamp self = .ok () after ∧
      HoldsAudio self chunkBody after := by
  have hHeaded := AudioTag.headed chunkBody
  rw [hTag] at hHeaded
  obtain ⟨tagHeader, hHeader, hFormat, hType⟩ := hHeaded
  rw [saveAudioData, saveFrameData, bind_modify, hHeader]
  simp only
  rw [if_pos ⟨hTwo, hFormat, hType⟩, bind_modify]
  obtain ⟨after, hReport, hAfter⟩ := @reportAudioCodec_ok payload { self with
    gops := self.gops.saveFrameData (.audio timestamp chunkBody) false
    audioSeq := chunkBody
    audioTimestamp := timestamp } hTwo h
  rw [bind_of_ok hReport]
  refine ⟨_, rfl, hAfter.audioSeq, ?_⟩
  exact Option.isSome_map.trans hAfter.sender

end Cache

/-! ### Any audio messages -/

/-- What audio messages go into. -/
structure AudioPath where
  demuxer : Reading Mpeg4AacProcessor
  cache : Cache

/-- A message is demuxed, or saved. -/
inductive AudioUse where
  | demux (timestamp : UInt32) (body : List UInt8)
  | save (timestamp : UInt32) (body : List UInt8)

namespace AudioPath

/-- A use that does not panic.  An error is returned, and the next message is taken. -/
inductive Handles : AudioPath → AudioUse → AudioPath → Prop
  | demux {s : AudioPath} {timestamp : UInt32} {body : List UInt8}
      (h : ¬Panics (Flv.FlvAudioTagDemuxer.demux timestamp body s.demuxer)) :
      Handles s (.demux timestamp body)
        { s with demuxer := stateOf (Flv.FlvAudioTagDemuxer.demux timestamp body s.demuxer) }
  | save {s : AudioPath} {timestamp : UInt32} {body : List UInt8}
      (h : ¬Panics (Cache.saveAudioData body timestamp s.cache)) :
      Handles s (.save timestamp body)
        { s with cache := stateOf (Cache.saveAudioData body timestamp s.cache) }

def system (cache : Cache) : System AudioPath AudioUse where
  init s := s = ⟨Mpeg4AacProcessor.new, cache⟩
  step := Handles

/-- A message that goes where it does no harm. -/
def Tame (s : AudioPath) : AudioUse → Prop
  | .demux _ body => Flv.FlvAudioTagDemuxer.Tame s.demuxer body
  | .save _ body => s.cache.Tame body

theorem exists_handles_iff (s : AudioPath) (use : AudioUse) :
    (∃ s', Handles s use s') ↔ s.Tame use := by
  cases use with
  | demux timestamp body =>
    rw [Tame, ← @Flv.FlvAudioTagDemuxer.demux_calm_iff timestamp]
    constructor
    · rintro ⟨s', hHandles⟩
      cases hHandles with
      | demux h => exact h
    · exact fun h => ⟨_, .demux h⟩
  | save timestamp body =>
    rw [Tame, ← @Cache.saveAudioData_calm_iff body timestamp]
    constructor
    · rintro ⟨s', hHandles⟩
      cases hHandles with
      | save h => exact h
    · exact fun h => ⟨_, .save h⟩

theorem handles_unique (s : AudioPath) (use : AudioUse) (s1 s2 : AudioPath) (h1 : Handles s use s1)
    (h2 : Handles s use s2) : s1 = s2 := by
  cases h1 with
  | demux h1 =>
    cases h2 with
    | demux h2 => rfl
  | save h1 =>
    cases h2 with
    | save h2 => rfl

/-- Messages are handled without a panic if and only if each of them, where it comes, does no harm. -/
theorem audio_calm_iff (cache : Cache) (uses : List AudioUse) :
    (∃ s, (system cache).Run ⟨Mpeg4AacProcessor.new, cache⟩ uses s) ↔
      ∀ before use after, uses = before ++ use :: after → ∀ s,
        (system cache).Run ⟨Mpeg4AacProcessor.new, cache⟩ before s → s.Tame use :=
  System.exists_run_iff exists_handles_iff handles_unique

/-- A frame without a configuration panics. -/
theorem unconfigured_frame_panics : ¬∀ uses, ∃ s, (system (Cache.new 1 none)).Run
    ⟨Mpeg4AacProcessor.new, Cache.new 1 none⟩ uses s := by
  intro hClaim
  obtain ⟨s, hRun⟩ := hClaim [.demux 0 [0xaf, 0x01, 0x21]]
  cases hRun with
  | cons hStep hRest =>
    have hTame := (exists_handles_iff _ _).mp ⟨_, hStep⟩
    exact hTame.2 [0x21] (by decide) rfl

end AudioPath

end Xiu.Rtmp
