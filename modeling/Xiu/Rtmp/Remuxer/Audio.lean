import Xiu.Rtmp.Remuxer.Calls

/-! The audio that is remuxed.  The configuration and the access units come as the same kind of frame,
and what they become is told by their lengths; the cache holds what was called a sequence header
last. -/

namespace Xiu.Rtmp.Remuxer

open Bytesio ProofKit StreamHub
open Flv (AudioTag)
open Flv.FlvAudioTagDemuxer (FirstIndexed)

theorem tag_genAudioFrameData_long {data : List UInt8} (h : 5 < data.length) :
    AudioTag.of (RtmpCooker.genAudioFrameData data) = .raw data := by
  rw [RtmpCooker.genAudioFrameData_long h]
  rfl

theorem tag_genAudioFrameData_short {data : List UInt8} (h : data.length ≤ 5) :
    AudioTag.of (RtmpCooker.genAudioFrameData data) = .sequenceHeader data := by
  rw [RtmpCooker.genAudioFrameData_short h]
  rfl

/-- The tag of an audio message. -/
def audioTag : FrameData → Option AudioTag
  | .audio _ body => some (.of body)
  | _ => none

namespace RemuxerSession

variable {source : Source} {s s' : RemuxerSession} {timestamp : UInt32} {data : List UInt8}

/-! ### One frame -/

/-- The message that a frame becomes. -/
def audioMessage (s : RemuxerSession) (data : List UInt8) (timestamp : UInt32) : FrameData :=
  .audio ((timestamp - baseFrom s.baseAudioTimestamp timestamp) / (s.audioClockRate / 1000))
    (RtmpCooker.genAudioFrameData data)

/-- The session behind a frame, with what its cache has become. -/
def behindAudio (s : RemuxerSession) (data : List UInt8) (timestamp : UInt32) (cache : Cache) :
    RemuxerSession :=
  { s with
    baseAudioTimestamp := baseFrom s.baseAudioTimestamp timestamp
    rtmpHandler := { s.rtmpHandler with
      sent := s.rtmpHandler.sent ++ [s.audioMessage data timestamp]
      cache } }

/-- A frame goes through if and only if its timestamp is not before the base, the clock rate has a tick
a millisecond, and the message is sent and saved. -/
theorem onAudio_ok_iff : source.onAudio data timestamp s = .ok () s' ↔
    baseFrom s.baseAudioTimestamp timestamp ≤ timestamp ∧ s.audioClockRate / 1000 ≠ 0 ∧
      s.rtmpHandler.connected = true ∧
      ∃ cache, Cache.saveAudioData (RtmpCooker.genAudioFrameData data)
          ((timestamp - baseFrom s.baseAudioTimestamp timestamp) / (s.audioClockRate / 1000))
          s.rtmpHandler.cache = .ok () cache ∧
        s' = s.behindAudio data timestamp cache := by
  have hSource : source.onAudio data timestamp s = onAudio data timestamp s := by
    cases source with
    | rtsp => rfl
    | whip => rfl
  rw [hSource, onAudio, bind_modify, bind_get]
  constructor
  · intro h
    obtain ⟨adjusted, s1, hAdjust, hHandler⟩ := bind_eq_ok h
    obtain ⟨hLe, hRate, rfl, rfl⟩ := adjust_eq_ok hAdjust
    obtain ⟨c, hCommon, rfl⟩ := handler_ok_iff.mp hHandler
    obtain ⟨hConnected, cache, hSave, rfl⟩ := saved_ok_iff.mp hCommon
    exact ⟨hLe, hRate, hConnected, cache, hSave, rfl⟩
  · rintro ⟨hLe, hRate, hConnected, cache, hSave, rfl⟩
    rw [bind_of_ok (adjust_ok hLe hRate)]
    exact handler_ok_iff.mpr ⟨_, saved_ok_iff.mpr ⟨hConnected, cache, hSave, rfl⟩, rfl⟩

/-! ### Access units -/

/-- An audio frame of a channel. -/
def audioFrame (unit : UInt32 × List UInt8) : FrameData := .audio unit.1 unit.2

/-- What is common to the states of a stream: the channel is taken from, the rate and the base are
these, and so are the sequence header that is held and whether codecs are reported. -/
structure Playing (clockRate base : UInt32) (reported : Bool) (audioSeq : List UInt8)
    (s : RemuxerSession) : Prop where
  connected : s.rtmpHandler.connected = true
  rate : s.audioClockRate = clockRate
  base : s.baseAudioTimestamp = base
  reported : s.rtmpHandler.cache.statisticDataSender.isSome = reported
  audioSeq : s.rtmpHandler.cache.audioSeq = audioSeq

variable {clockRate base : UInt32} {reported : Bool} {audioSeq : List UInt8}
  {units : List (UInt32 × List UInt8)}

/-- A frame whose message is saved, and what is held then. -/
theorem onFrame_playing (h : Playing clockRate base reported audioSeq s)
    (hLe : baseFrom base timestamp ≤ timestamp) (hRate : clockRate / 1000 ≠ 0)
    {newSeq : List UInt8}
    (hSave : ∀ adjusted, ∃ cache, Cache.saveAudioData (RtmpCooker.genAudioFrameData data) adjusted
      s.rtmpHandler.cache = .ok () cache ∧ s.rtmpHandler.cache.HoldsAudio newSeq cache) :
    ∃ s', onFrame source (.audio timestamp data) s = .ok () s' ∧
      s'.rtmpHandler.sent = s.rtmpHandler.sent ++ [s.audioMessage data timestamp] ∧
      Playing clockRate (baseFrom base timestamp) reported newSeq s' := by
  obtain ⟨cache, hOk, hHolds⟩ :=
    hSave ((timestamp - baseFrom s.baseAudioTimestamp timestamp) / (s.audioClockRate / 1000))
  have hLe' : baseFrom s.baseAudioTimestamp timestamp ≤ timestamp := by rwa [h.base]
  have hRate' : s.audioClockRate / 1000 ≠ 0 := by rwa [h.rate]
  refine ⟨s.behindAudio data timestamp cache,
    onAudio_ok_iff.mpr ⟨hLe', hRate', h.connected, cache, hOk, rfl⟩, rfl, h.connected, h.rate, ?_,
    hHolds.sender.trans h.reported, hHolds.audioSeq⟩
  exact congrArg (baseFrom · timestamp) h.base

/-- An access unit of more than five bytes is no sequence header, and the one that is held stays. -/
theorem unit_playing (h : Playing clockRate base reported audioSeq s)
    (hLe : baseFrom base timestamp ≤ timestamp) (hRate : clockRate / 1000 ≠ 0)
    (hLong : 5 < data.length) :
    ∃ s', onFrame source (.audio timestamp data) s = .ok () s' ∧
      s'.rtmpHandler.sent = s.rtmpHandler.sent ++ [s.audioMessage data timestamp] ∧
      Playing clockRate (baseFrom base timestamp) reported audioSeq s' := by
  have hTag := tag_genAudioFrameData_long hLong
  refine onFrame_playing h hLe hRate fun adjusted => ?_
  rw [← h.audioSeq]
  refine Cache.saveAudioData_other ?_ ?_
  · intro payload hPayload
    rw [hTag] at hPayload
    cases hPayload
  · rw [hTag]
    exact AudioTag.noConfusion

/-- Long units go through one after the other, and what is held stays. -/
theorem units_playing (h : Playing clockRate base reported audioSeq s) (hRate : clockRate / 1000 ≠ 0)
    (hLong : ∀ unit ∈ units, 5 < unit.2.length) (hTimes : NotBefore base (units.map (·.1))) :
    ∃ s' new, handleAll (onFrame source) (units.map audioFrame) s = .ok () s' ∧
      s'.rtmpHandler.sent = s.rtmpHandler.sent ++ new ∧
      new.map audioTag = units.map (fun unit => some (.raw unit.2)) ∧
      s'.rtmpHandler.cache.audioSeq = audioSeq := by
  induction units generalizing s base with
  | nil => exact ⟨s, [], rfl, (List.append_nil _).symm, rfl, h.audioSeq⟩
  | cons unit rest ih =>
    obtain ⟨timestamp, data⟩ := unit
    have hData : 5 < data.length := hLong _ List.mem_cons_self
    obtain ⟨s1, hFirst, hSent1, h1⟩ := @unit_playing source s timestamp data _ _ _ _ h hTimes.1 hRate hData
    obtain ⟨s', new, hRest, hSent, hTags, hSeq⟩ := ih h1
      (fun other hMem => hLong other (List.mem_cons_of_mem _ hMem)) hTimes.2
    refine ⟨s', s.audioMessage data timestamp :: new, (bind_of_ok hFirst).trans hRest, ?_, ?_, hSeq⟩
    · rw [hSent, hSent1, List.append_assoc]
      rfl
    · rw [List.map_cons, List.map_cons, hTags, audioMessage, audioTag,
        tag_genAudioFrameData_long hData]

/-- What units that go through say of themselves. -/
theorem of_units_ok (hRun : handleAll (onFrame source) (units.map audioFrame) s = .ok () s') :
    NotBefore s.baseAudioTimestamp (units.map (·.1)) ∧
      ∃ new, s'.rtmpHandler.sent = s.rtmpHandler.sent ++ new ∧
        new.map audioTag =
          units.map (fun unit => some (.of (RtmpCooker.genAudioFrameData unit.2))) := by
  induction units generalizing s with
  | nil =>
    cases hRun
    exact ⟨trivial, [], (List.append_nil _).symm, rfl⟩
  | cons unit rest ih =>
    obtain ⟨timestamp, data⟩ := unit
    obtain ⟨_, s1, hFirst, hRest⟩ := bind_eq_ok hRun
    obtain ⟨hLe, -, -, cache, -, rfl⟩ := onAudio_ok_iff.mp hFirst
    obtain ⟨hTimes, new, hSent, hTags⟩ := ih hRest
    refine ⟨⟨hLe, hTimes⟩, s.audioMessage data timestamp :: new, ?_, ?_⟩
    · rw [hSent, behindAudio, List.append_assoc]
      rfl
    · rw [List.map_cons, List.map_cons, hTags]
      rfl

/-! ### A stream -/

/-- The configuration goes out as a sequence header and every access unit as a raw message, and at every
point the configuration is the sequence header that is held. -/
def ConservesAudio (source : Source) (s : RemuxerSession) (config : UInt32 × List UInt8)
    (units : List (UInt32 × List UInt8)) : Prop :=
  ∀ before after, units = before ++ after →
    ∃ s' new, handleAll (onFrame source) ((config :: before).map audioFrame) s = .ok () s' ∧
      s'.rtmpHandler.sent = s.rtmpHandler.sent ++ new ∧
      new.map audioTag =
        some (.sequenceHeader config.2) :: before.map (fun unit => some (.raw unit.2)) ∧
      AudioTag.of s'.rtmpHandler.cache.audioSeq = .sequenceHeader config.2

variable {config : UInt32 × List UInt8} {gopNum : Nat} {sender : Option (List StatisticData)}
  {info : MediaInfo}

/-- What conservation says of the configuration. -/
theorem of_config_conserved
    (h : ConservesAudio source (announced (.published gopNum sender) info) config units) :
    (2 ≤ config.2.length ∧ config.2.length ≤ 5) ∧ (sender.isSome = true → FirstIndexed config.2) ∧
      info.audioClockRate / 1000 ≠ 0 := by
  obtain ⟨s', new, hRun, hSent, hTags, hHeld⟩ := h [] units rfl
  obtain ⟨_, s1, hFirst, hRest⟩ := bind_eq_ok hRun
  obtain rfl : s1 = s' := by
    injection hRest
  obtain ⟨-, hRate, -, cache, hSave, rfl⟩ := onAudio_ok_iff.mp hFirst
  have hNew : [_] = new := List.append_cancel_left hSent
  subst hNew
  injection hTags with hTag
  injection hTag with hTag
  have hShort : config.2.length ≤ 5 := by
    by_contra hLong
    rw [tag_genAudioFrameData_long (Nat.not_le.mp hLong)] at hTag
    cases hTag
  have hTwo : 2 ≤ config.2.length := by
    by_contra hLess
    obtain ⟨after, hOk, hHolds⟩ := @Cache.saveAudioData_other
      (RtmpCooker.genAudioFrameData config.2) _ _ (fun payload hPayload => by
        rw [hTag] at hPayload
        injection hPayload with hPayload
        rw [← hPayload]
        exact Nat.not_le.mp hLess) (by rw [hTag]; exact AudioTag.noConfusion)
    rw [hOk] at hSave
    cases hSave
    have hEmpty : cache.audioSeq = [] := hHolds.audioSeq
    have hHeld' : AudioTag.of cache.audioSeq = .sequenceHeader config.2 := hHeld
    rw [hEmpty] at hHeld'
    cases hHeld'
  refine ⟨⟨hTwo, hShort⟩, fun hSender => ?_, hRate⟩
  have hNot := @not_panics_ok _ _ () cache
  rw [← hSave] at hNot
  exact Cache.saveAudioData_calm_iff.mp hNot hSender config.2 hTag

/-- The units that are conserved are long, and no timestamp comes before the base. -/
theorem of_units_conserved
    (h : ConservesAudio source (announced (.published gopNum sender) info) config units) :
    (∀ unit ∈ units, 5 < unit.2.length) ∧ NotBefore 0 ((config :: units).map (·.1)) := by
  obtain ⟨s', new, hRun, hSent, hTags, -⟩ := h units [] (List.append_nil _).symm
  obtain ⟨hTimes, new', hSent', hTags'⟩ := of_units_ok hRun
  have hNew : new = new' := List.append_cancel_left (hSent.symm.trans hSent')
  rw [← hNew, hTags] at hTags'
  injection hTags' with _ hUnits
  refine ⟨fun unit hMem => ?_, hTimes⟩
  by_contra hShort
  have hUnit := List.map_inj_left.mp hUnits unit hMem
  rw [tag_genAudioFrameData_short (Nat.not_lt.mp hShort)] at hUnit
  cases hUnit

/-- The audio is conserved if and only if the configuration has two to five bytes and can be reported, and
every access unit has more than five; and if the timestamps can be converted. -/
theorem conservesAudio_iff (source : Source) (gopNum : Nat) (sender : Option (List StatisticData))
    (info : MediaInfo) (config : UInt32 × List UInt8) (units : List (UInt32 × List UInt8)) :
    ConservesAudio source (announced (.published gopNum sender) info) config units ↔
      ((2 ≤ config.2.length ∧ config.2.length ≤ 5) ∧ (sender.isSome = true → FirstIndexed config.2) ∧
        ∀ unit ∈ units, 5 < unit.2.length) ∧
      1000 ≤ info.audioClockRate.toNat ∧ NotBefore 0 ((config :: units).map (·.1)) := by
  constructor
  · intro h
    obtain ⟨hConfig, hReported, hRate⟩ := of_config_conserved h
    obtain ⟨hUnits, hTimes⟩ := of_units_conserved h
    exact ⟨⟨hConfig, hReported, hUnits⟩, divisor_ne_zero_iff.mp hRate, hTimes⟩
  · rintro ⟨⟨⟨hTwo, hShort⟩, hReported, hUnits⟩, hRate, hTimes⟩ before after rfl
    have hTag := tag_genAudioFrameData_short hShort
    have hStart : Playing info.audioClockRate 0 sender.isSome []
        (announced (.published gopNum sender) info) := ⟨rfl, rfl, rfl, rfl, rfl⟩
    obtain ⟨s1, hFirst, hSent1, h1⟩ := @onFrame_playing source _ config.1 config.2 _ _ _ _ hStart
      hTimes.1 (divisor_ne_zero_iff.mpr hRate) _ fun adjusted =>
        Cache.saveAudioData_header hTag hTwo hReported
    have hTimes' := hTimes.2
    rw [List.map_append] at hTimes'
    obtain ⟨s', new, hRest, hSent, hTags, hSeq⟩ := @units_playing source _ _ _ _ _ before h1
      (divisor_ne_zero_iff.mpr hRate)
      (fun unit hMem => hUnits unit (List.mem_append_left _ hMem)) hTimes'.left
    refine ⟨s', (announced (.published gopNum sender) info).audioMessage config.2 config.1 :: new,
      (bind_of_ok hFirst).trans hRest, ?_, ?_, ?_⟩
    · rw [hSent, hSent1, List.append_assoc]
      rfl
    · rw [List.map_cons, hTags, audioMessage, audioTag, hTag]
    · rw [hSeq, hTag]

/-- A configuration of AAC-LC at 44100 Hz in stereo, at 48 ticks a millisecond. -/
theorem short_config_conserved :
    ConservesAudio .rtsp (announced (.published 1 none) ⟨48000, 90000, .h264⟩) (1, [0x12, 0x10])
      [(1025, [0x21, 0x10, 0x05, 0x00, 0xa0, 0x1b])] :=
  (conservesAudio_iff .rtsp 1 none ⟨48000, 90000, .h264⟩ (1, [0x12, 0x10])
    [(1025, [0x21, 0x10, 0x05, 0x00, 0xa0, 0x1b])]).mpr
    ⟨⟨⟨by decide, by decide⟩, fun h => absurd h (by decide), by decide⟩, by decide, by decide,
      by decide, trivial⟩

/-- An access unit of four bytes becomes a sequence header. -/
theorem short_unit_not_conserved :
    ¬ConservesAudio .rtsp (announced (.published 1 none) ⟨48000, 90000, .h264⟩) (1, [0x12, 0x10])
      [(1025, [0x21, 0x10, 0x05, 0x00])] := by
  intro h
  exact absurd ((of_units_conserved h).1 _ (List.mem_singleton_self _)) (by decide)

end RemuxerSession

end Xiu.Rtmp.Remuxer
