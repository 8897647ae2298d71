import Xiu.Rtmp.Remuxer.VideoCalls

/-! The video that is remuxed, over whole streams.  A buffer with a pair of parameter sets becomes
metadata and a sequence header, and its other units are lost; what is read of an SPS is not kept for a
later buffer. -/

namespace Xiu.Rtmp.Remuxer

open Bytesio ProofKit StreamHub
open Flv (Mpeg4Avc Mpeg4Avc.highSps Mpeg4Avc.onePps)
open Rtsp.Rtp (Coded Delimited annexb)

/-- A buffer of a channel. -/
structure Buffer where
  timestamp : UInt32
  coded : List Coded
  delimited : ∀ c ∈ coded, Delimited c.nalu

namespace Buffer

def nalus (self : Buffer) : List (List UInt8) := self.coded.map (·.nalu)

def frame (self : Buffer) : FrameData := .video self.timestamp (annexb self.coded)

end Buffer

def unitsOf (buffers : List Buffer) : List (List UInt8) := buffers.flatMap Buffer.nalus

/-- An SPS and a PPS are among the units. -/
def Complete (nalus : List (List UInt8)) : Prop :=
  (lastSps nalus).isSome ∧ (lastPps nalus).isSome

instance (nalus : List (List UInt8)) : Decidable (Complete nalus) := inferInstanceAs (Decidable (_ ∧ _))

theorem complete_iff {nalus : List (List UInt8)} :
    Complete nalus ↔ ∃ sps pps, lastSps nalus = some sps ∧ lastPps nalus = some pps := by
  rw [Complete, Option.isSome_iff_exists, Option.isSome_iff_exists]
  constructor
  · rintro ⟨⟨sps, hSps⟩, pps, hPps⟩
    exact ⟨sps, pps, hSps, hPps⟩
  · rintro ⟨sps, pps, hSps, hPps⟩
    exact ⟨⟨sps, hSps⟩, pps, hPps⟩

/-! ### What is shown -/

/-- Units that are in one frame, which is a key frame or not. -/
structure Picture where
  key : Bool
  nalus : List (List UInt8)

def Picture.body (self : Picture) : List UInt8 := frameBody self.key self.nalus

def Buffer.picture (self : Buffer) : Picture := ⟨self.nalus.any isIdr, self.nalus⟩

/-- A unit that is no parameter set. -/
def isShown (nalu : List UInt8) : Bool := !isSps nalu && !isPps nalu

/-- The units that are no parameter sets, each with the type of the frame it is in. -/
def shown (pictures : List Picture) : List (Bool × List UInt8) :=
  pictures.flatMap fun picture => (picture.nalus.filter isShown).map fun nalu => (picture.key, nalu)

/-- The body of a message that is a frame. -/
def frameOf : FrameData → Option (List UInt8)
  | .video _ body => if body[1]? = some 1 then some body else none
  | _ => none

/-- The frames among the messages show what is in the buffers. -/
def Shows (messages : List FrameData) (buffers : List Buffer) : Prop :=
  ∃ pictures, messages.filterMap frameOf = pictures.map Picture.body ∧
    shown pictures = shown (buffers.map Buffer.picture)

theorem shown_append (first second : List Picture) :
    shown (first ++ second) = shown first ++ shown second := List.flatMap_append

theorem Shows.append {messages1 messages2 : List FrameData} {buffers1 buffers2 : List Buffer}
    (h1 : Shows messages1 buffers1) (h2 : Shows messages2 buffers2) :
    Shows (messages1 ++ messages2) (buffers1 ++ buffers2) := by
  obtain ⟨pictures1, hBodies1, hShown1⟩ := h1
  obtain ⟨pictures2, hBodies2, hShown2⟩ := h2
  refine ⟨pictures1 ++ pictures2, ?_, ?_⟩
  · rw [List.filterMap_append, List.map_append, hBodies1, hBodies2]
  · rw [List.map_append, shown_append, shown_append, hShown1, hShown2]

theorem isRetained_eq (nalu : List UInt8) : RemuxerSession.isRetained nalu = isShown nalu := by
  rw [RemuxerSession.isRetained, isShown, isSps, isPps, ← decide_not, ← decide_not]
  rfl

theorem shown_singleton (picture : Picture) :
    shown [picture] = (picture.nalus.filter isShown).map fun nalu => (picture.key, nalu) :=
  List.flatMap_singleton _ _

/-- Nothing needs to be sent for parameter sets. -/
theorem shows_nothing {buffer : Buffer} (h : buffer.nalus.filter isShown = []) : Shows [] [buffer] := by
  refine ⟨[], rfl, ?_⟩
  rw [List.map_singleton, shown_singleton]
  exact (congrArg (List.map _) h).symm

/-- Metadata and a sequence header are no frames. -/
theorem shows_header {buffer : Buffer} (h : buffer.nalus.filter isShown = []) (metaData sps pps : List UInt8) :
    Shows [.metaData 0 metaData, .video 0 (headerBody sps pps)] [buffer] := by
  obtain ⟨pictures, hBodies, hShown⟩ := shows_nothing h
  exact ⟨pictures, hBodies, hShown⟩

/-- A frame shows a buffer with or without its parameter sets. -/
theorem shows_frame {buffer : Buffer} {nalus : List (List UInt8)}
    (h : nalus.filter isShown = buffer.nalus.filter isShown) (adjusted : UInt32) :
    Shows [.video adjusted (frameBody (buffer.nalus.any isIdr) nalus)] [buffer] := by
  refine ⟨[⟨buffer.nalus.any isIdr, nalus⟩], rfl, ?_⟩
  rw [List.map_singleton, shown_singleton, shown_singleton, h]
  rfl

namespace RemuxerSession

variable {source : Source} {s s' : RemuxerSession} {buffer : Buffer} {clockRate base : UInt32}
  {units : List (List UInt8)}

/-! ### One buffer -/

/-- The channel is taken from, and the clock rate and the base are these. -/
structure Paced (clockRate base : UInt32) (s : RemuxerSession) : Prop where
  connected : s.rtmpHandler.connected = true
  rate : s.videoClockRate = clockRate
  base : s.baseVideoTimestamp = base

theorem Sent.paced {messages : List FrameData} (hSent : Sent s messages s')
    (h : Paced clockRate base s) : Paced clockRate base s' := by
  have hClocks := hSent.clocks
  injection hClocks with hRate hClocks
  injection hClocks with hAudioRate hClocks
  injection hClocks with hBase hAudioBase
  exact ⟨hSent.connected.trans h.connected, hRate.trans h.rate, hBase.trans h.base⟩

/-- The session with the base that a buffer gives. -/
def based (s : RemuxerSession) (buffer : Buffer) : RemuxerSession :=
  { s with baseVideoTimestamp := baseFrom s.baseVideoTimestamp buffer.timestamp }

theorem Paced.based (h : Paced clockRate base s) (buffer : Buffer) :
    Paced clockRate (baseFrom base buffer.timestamp) (s.based buffer) :=
  ⟨h.connected, h.rate, congrArg (baseFrom · buffer.timestamp) h.base⟩

/-- What is found in a buffer. -/
def Buffer.found (sps pps : Option (List UInt8)) (buffer : Buffer) : Found :=
  buffer.nalus.foldl Found.add (.start sps pps)

theorem readNalus_buffer (h : ∀ nalu ∈ buffer.nalus, Sound nalu) (sps pps : Option (List UInt8)) :
    (Workers.splitNalus (annexb buffer.coded)).foldlM readNalu (.start sps pps) s =
      .ok (Buffer.found sps pps buffer) s := by
  rw [splitNalus_annexb buffer.delimited]
  exact readNalus_sound h _

/-- A buffer with both parameter sets becomes metadata and a sequence header. -/
theorem rtsp_header (h : ∀ nalu ∈ buffer.nalus, Sound nalu) {sps pps : List UInt8}
    (hSps : (Buffer.found none none buffer).sps = some sps)
    (hPps : (Buffer.found none none buffer).pps = some pps) :
    onFrame .rtsp buffer.frame s =
      sendHeader (Buffer.found none none buffer) sps pps (s.based buffer) := by
  change onRtspVideo (annexb buffer.coded) buffer.timestamp s = _
  rw [onRtspVideo, setVideoBase, bind_modify]
  refine (bind_of_ok (readNalus_buffer h none none)).trans ?_
  generalize Buffer.found none none buffer = found at hSps hPps ⊢
  obtain ⟨width, height, level, profile, _ | sps', _ | pps', containsIdr⟩ := found
  · cases hSps
  · cases hSps
  · cases hPps
  · cases hSps
    cases hPps
    rfl

/-- Any other buffer becomes a frame. -/
theorem rtsp_frame (h : ∀ nalu ∈ buffer.nalus, Sound nalu)
    (hNone : (Buffer.found none none buffer).sps = none ∨ (Buffer.found none none buffer).pps = none) :
    onFrame .rtsp buffer.frame s =
      sendFrame buffer.nalus (Buffer.found none none buffer).containsIdr buffer.timestamp
        (s.based buffer) := by
  change onRtspVideo (annexb buffer.coded) buffer.timestamp s = _
  rw [onRtspVideo, setVideoBase, bind_modify]
  refine (bind_of_ok (readNalus_buffer h none none)).trans ?_
  rw [splitNalus_annexb buffer.delimited]
  generalize Buffer.found none none buffer = found at hNone ⊢
  obtain ⟨width, height, level, profile, _ | sps, _ | pps, containsIdr⟩ := found
  · rfl
  · rfl
  · rfl
  · rcases hNone with hNone | hNone
    · cases hNone
    · cases hNone

/-- The session of a WHIP stream behind the loop. -/
def collected (s : RemuxerSession) (buffer : Buffer) : RemuxerSession :=
  { s.based buffer with
    sps := (Buffer.found s.sps s.pps buffer).sps, pps := (Buffer.found s.sps s.pps buffer).pps }

/-- The buffer that completes the pair becomes metadata and a sequence header. -/
theorem whip_header (h : ∀ nalu ∈ buffer.nalus, Sound nalu) {sps pps : List UInt8}
    (hGenerated : s.videoSeqHeaderGenerated = false)
    (hSps : (Buffer.found s.sps s.pps buffer).sps = some sps)
    (hPps : (Buffer.found s.sps s.pps buffer).pps = some pps) :
    onFrame .whip buffer.frame s =
      (sendHeader (Buffer.found s.sps s.pps buffer) sps pps >>= fun _ =>
        modify fun self => { self with videoSeqHeaderGenerated := true }) (s.collected buffer) := by
  change onWhipVideo (annexb buffer.coded) buffer.timestamp s = _
  rw [onWhipVideo, setVideoBase, bind_modify, bind_get]
  refine (bind_of_ok (readNalus_buffer h s.sps s.pps)).trans ?_
  unfold collected
  generalize Buffer.found s.sps s.pps buffer = found at hSps hPps ⊢
  have hNot : ¬s.videoSeqHeaderGenerated = true := by rw [hGenerated]; exact Bool.false_ne_true
  refine (congrFun (if_pos hNot) _).trans ?_
  obtain ⟨width, height, level, profile, _ | sps', _ | pps', containsIdr⟩ := found
  · cases hSps
  · cases hSps
  · cases hPps
  · cases hSps
    cases hPps
    rfl

/-- Before the pair is complete nothing is sent. -/
theorem whip_waits (h : ∀ nalu ∈ buffer.nalus, Sound nalu)
    (hGenerated : s.videoSeqHeaderGenerated = false)
    (hNone : (Buffer.found s.sps s.pps buffer).sps = none ∨
      (Buffer.found s.sps s.pps buffer).pps = none) :
    onFrame .whip buffer.frame s = .ok () (s.collected buffer) := by
  change onWhipVideo (annexb buffer.coded) buffer.timestamp s = _
  rw [onWhipVideo, setVideoBase, bind_modify, bind_get]
  refine (bind_of_ok (readNalus_buffer h s.sps s.pps)).trans ?_
  unfold collected
  generalize Buffer.found s.sps s.pps buffer = found at hNone ⊢
  have hNot : ¬s.videoSeqHeaderGenerated = true := by rw [hGenerated]; exact Bool.false_ne_true
  refine (congrFun (if_pos hNot) _).trans ?_
  obtain ⟨width, height, level, profile, _ | sps, _ | pps, containsIdr⟩ := found
  · rfl
  · rfl
  · rfl
  · rcases hNone with hNone | hNone
    · cases hNone
    · cases hNone

/-- After the header what is left of a buffer becomes a frame, if anything is. -/
theorem whip_frame (h : ∀ nalu ∈ buffer.nalus, Sound nalu) (hGenerated : s.videoSeqHeaderGenerated = true) :
    onFrame .whip buffer.frame s =
      (if ¬(buffer.nalus.filter isRetained).isEmpty then
        sendFrame (buffer.nalus.filter isRetained) (Buffer.found s.sps s.pps buffer).containsIdr
          buffer.timestamp
      else pure ()) (s.collected buffer) := by
  change onWhipVideo (annexb buffer.coded) buffer.timestamp s = _
  rw [onWhipVideo, setVideoBase, bind_modify, bind_get]
  refine (bind_of_ok (readNalus_buffer h s.sps s.pps)).trans ?_
  rw [splitNalus_annexb buffer.delimited]
  exact congrFun (if_neg (not_not.mpr hGenerated)) _

/-! ### What is needed of the buffers -/

/-- The buffer that completes the pair has the SPS, and over RTSP the PPS too. -/
def Source.Announces : Source → Buffer → Prop
  | .rtsp, buffer => Complete buffer.nalus
  | .whip, buffer => (lastSps buffer.nalus).isSome

/-- Over RTSP a later buffer with a pair has nothing but parameter sets either. -/
def Source.Keeps : Source → Buffer → Prop
  | .rtsp, buffer => Complete buffer.nalus → buffer.nalus.filter isShown = []
  | .whip, _ => True

/-- Before the pair is complete a WHIP session holds the parameter sets that it has received. -/
def Source.Waits : Source → List (List UInt8) → RemuxerSession → Prop
  | .rtsp, _, _ => True
  | .whip, units, s =>
    s.sps = lastSps units ∧ s.pps = lastPps units ∧ s.videoSeqHeaderGenerated = false

/-- After that it has sent the header. -/
def Source.Plays : Source → RemuxerSession → Prop
  | .rtsp, _ => True
  | .whip, s => s.videoSeqHeaderGenerated = true

theorem found_finds (sps pps : Option (List UInt8)) (buffer : Buffer) :
    Finds sps pps buffer.nalus (Buffer.found sps pps buffer) := finds_foldl sps pps buffer.nalus

/-- What a WHIP session finds, with what it holds. -/
theorem found_waits (h : Source.whip.Waits units s) (buffer : Buffer) :
    (Buffer.found s.sps s.pps buffer).sps = lastSps (units ++ buffer.nalus) ∧
      (Buffer.found s.sps s.pps buffer).pps = lastPps (units ++ buffer.nalus) := by
  have hFinds := found_finds s.sps s.pps buffer
  rw [hFinds.sps, hFinds.pps, h.1, h.2.1, lastSps_append, lastPps_append]
  exact ⟨rfl, rfl⟩

theorem not_complete {nalus : List (List UInt8)} (h : ¬Complete nalus) :
    lastSps nalus = none ∨ lastPps nalus = none := by
  rw [Complete, not_and_or, Option.not_isSome_iff_eq_none, Option.not_isSome_iff_eq_none] at h
  exact h

theorem complete_append {nalus : List (List UInt8)} (h : Complete nalus)
    (units : List (List UInt8)) : Complete (units ++ nalus) := by
  rw [Complete, lastSps_append, lastPps_append, Option.isSome_or, Option.isSome_or, h.1, h.2]
  exact ⟨rfl, rfl⟩

theorem append_complete {nalus : List (List UInt8)} (h : Complete nalus)
    (units : List (List UInt8)) : Complete (nalus ++ units) := by
  rw [Complete, lastSps_append, lastPps_append, Option.isSome_or, Option.isSome_or, h.1, h.2,
    Bool.or_true, Bool.or_true]
  exact ⟨rfl, rfl⟩

/-- A frame of a buffer, from a session that can send it. -/
theorem sendFrame_paced (h : Paced clockRate base s) (hLe : base ≤ buffer.timestamp)
    (hRate : clockRate / 1000 ≠ 0) (nalus : List (List UInt8)) (key : Bool) :
    ∃ s' adjusted, sendFrame nalus key buffer.timestamp s = .ok () s' ∧
      Sent s [.video adjusted (frameBody key nalus)] s' := by
  refine sendFrame_sent h.connected ?_ ?_
  · rwa [h.base]
  · rwa [h.rate]

/-- A buffer that leaves the pair incomplete. -/
theorem waits_step (h : Paced clockRate base s) (hWaits : source.Waits units s)
    (hSound : ∀ nalu ∈ buffer.nalus, Sound nalu) (hRate : clockRate / 1000 ≠ 0)
    (hLe : baseFrom base buffer.timestamp ≤ buffer.timestamp)
    (hNot : ¬Complete (units ++ buffer.nalus)) :
    ∃ s', onFrame source buffer.frame s = .ok () s' ∧
      Paced clockRate (baseFrom base buffer.timestamp) s' ∧
      source.Waits (units ++ buffer.nalus) s' := by
  have hBased := h.based buffer
  cases source with
  | rtsp =>
    have hNone : (Buffer.found none none buffer).sps = none ∨
        (Buffer.found none none buffer).pps = none := by
      have hFinds := found_finds none none buffer
      rw [hFinds.sps, hFinds.pps, Option.or_none, Option.or_none]
      exact not_complete fun hComplete => hNot (complete_append hComplete units)
    obtain ⟨s', adjusted, hOk, hSent⟩ := sendFrame_paced hBased hLe hRate buffer.nalus
      (Buffer.found none none buffer).containsIdr
    exact ⟨s', (rtsp_frame hSound hNone).trans hOk, hSent.paced hBased, trivial⟩
  | whip =>
    obtain ⟨hSps, hPps⟩ := found_waits hWaits buffer
    have hNone : (Buffer.found s.sps s.pps buffer).sps = none ∨
        (Buffer.found s.sps s.pps buffer).pps = none := by
      rw [hSps, hPps]
      exact not_complete hNot
    exact ⟨_, whip_waits hSound hWaits.2.2 hNone, ⟨hBased.connected, hBased.rate, hBased.base⟩,
      hSps, hPps, hWaits.2.2⟩

/-- The buffer that completes the pair. -/
theorem announces_step {sps pps : List UInt8} (h : Paced clockRate base s)
    (hWaits : source.Waits units s) (hSound : ∀ nalu ∈ units ++ buffer.nalus, Sound nalu)
    (hAnnounces : source.Announces buffer) (hSps : lastSps (units ++ buffer.nalus) = some sps)
    (hPps : lastPps (units ++ buffer.nalus) = some pps) :
    ∃ s' metaData, onFrame source buffer.frame s = .ok () s' ∧
      RtmpCooker.genMetaData (sizeOf sps).1 (sizeOf sps).2 = .ok metaData ∧
      s'.rtmpHandler.sent =
        s.rtmpHandler.sent ++ [.metaData 0 metaData, .video 0 (headerBody sps pps)] ∧
      Paced clockRate (baseFrom base buffer.timestamp) s' ∧ source.Plays s' := by
  have hBased := h.based buffer
  have hBuffer : ∀ nalu ∈ buffer.nalus, Sound nalu :=
    fun nalu hMem => hSound nalu (List.mem_append_right _ hMem)
  obtain ⟨hSpsMem, hSpsType⟩ := of_lastSps hSps
  obtain ⟨hPpsMem, hPpsType⟩ := of_lastPps hPps
  have hPpsLength := (hSound pps hPpsMem).pps hPpsType
  cases source with
  | rtsp =>
    obtain ⟨sps', pps', hSps', hPps'⟩ := complete_iff.mp hAnnounces
    rw [lastSps_append, hSps'] at hSps
    rw [lastPps_append, hPps'] at hPps
    cases hSps
    cases hPps
    have hFinds := found_finds none none buffer
    obtain ⟨s', metaData, hOk, hGen, hSent⟩ := @sendHeader_sent (s.based buffer) _ sps pps
      hBased.connected (hSound sps hSpsMem) hSpsType hPpsLength (hFinds.size sps hSps')
    have hFoundSps : (Buffer.found none none buffer).sps = some sps := by
      rw [hFinds.sps, hSps']
      rfl
    have hFoundPps : (Buffer.found none none buffer).pps = some pps := by
      rw [hFinds.pps, hPps']
      rfl
    exact ⟨s', metaData, (rtsp_header hBuffer hFoundSps hFoundPps).trans hOk, hGen, hSent.sent,
      hSent.paced hBased, trivial⟩
  | whip =>
    obtain ⟨sps', hSps'⟩ := Option.isSome_iff_exists.mp hAnnounces
    obtain ⟨hFoundSps, hFoundPps⟩ := found_waits hWaits buffer
    rw [hSps] at hFoundSps
    rw [hPps] at hFoundPps
    rw [lastSps_append, hSps'] at hSps
    cases hSps
    have hFinds := found_finds s.sps s.pps buffer
    have hCollected : Paced clockRate (baseFrom base buffer.timestamp) (s.collected buffer) :=
      ⟨hBased.connected, hBased.rate, hBased.base⟩
    obtain ⟨s', metaData, hOk, hGen, hSent⟩ := @sendHeader_sent (s.collected buffer) _ sps pps
      hCollected.connected (hSound sps hSpsMem) hSpsType hPpsLength (hFinds.size sps hSps')
    have hPaced := hSent.paced hCollected
    exact ⟨_, metaData,
      (whip_header hBuffer hWaits.2.2 hFoundSps hFoundPps).trans (bind_of_ok hOk), hGen, hSent.sent,
      ⟨hPaced.connected, hPaced.rate, hPaced.base⟩, rfl⟩

/-- A buffer after that. -/
theorem plays_step (h : Paced clockRate base s) (hPlays : source.Plays s)
    (hSound : ∀ nalu ∈ buffer.nalus, Sound nalu) (hRate : clockRate / 1000 ≠ 0)
    (hLe : baseFrom base buffer.timestamp ≤ buffer.timestamp) (hKeeps : source.Keeps buffer) :
    ∃ s' messages, onFrame source buffer.frame s = .ok () s' ∧
      s'.rtmpHandler.sent = s.rtmpHandler.sent ++ messages ∧ Shows messages [buffer] ∧
      Paced clockRate (baseFrom base buffer.timestamp) s' ∧ source.Plays s' := by
  have hBased := h.based buffer
  cases source with
  | rtsp =>
    have hFinds := found_finds none none buffer
    by_cases hComplete : Complete buffer.nalus
    · obtain ⟨sps, pps, hSps, hPps⟩ := complete_iff.mp hComplete
      obtain ⟨s', metaData, hOk, -, hSent, hPaced, -⟩ := @announces_step .rtsp s buffer _ _ [] sps pps
        h trivial hSound hComplete hSps hPps
      exact ⟨s', _, hOk, hSent, shows_header (hKeeps hComplete) metaData sps pps, hPaced, trivial⟩
    · have hNone : (Buffer.found none none buffer).sps = none ∨
          (Buffer.found none none buffer).pps = none := by
        rw [hFinds.sps, hFinds.pps, Option.or_none, Option.or_none]
        exact not_complete hComplete
      obtain ⟨s', adjusted, hOk, hSent⟩ := sendFrame_paced hBased hLe hRate buffer.nalus
        (Buffer.found none none buffer).containsIdr
      refine ⟨s', _, (rtsp_frame hSound hNone).trans hOk, hSent.sent, ?_, hSent.paced hBased, trivial⟩
      rw [hFinds.idr]
      exact shows_frame rfl adjusted
  | whip =>
    have hFinds := found_finds s.sps s.pps buffer
    have hCollected : Paced clockRate (baseFrom base buffer.timestamp) (s.collected buffer) :=
      ⟨hBased.connected, hBased.rate, hBased.base⟩
    have hRetained : buffer.nalus.filter isRetained = buffer.nalus.filter isShown :=
      congrArg (fun p => buffer.nalus.filter p) (funext isRetained_eq)
    have hFrame := @whip_frame s buffer hSound hPlays
    rw [hRetained] at hFrame
    by_cases hEmpty : buffer.nalus.filter isShown = []
    · have hDone : ¬¬(buffer.nalus.filter isShown).isEmpty = true :=
        not_not.mpr (List.isEmpty_iff.mpr hEmpty)
      exact ⟨_, [], hFrame.trans (congrFun (if_neg hDone) _), (List.append_nil _).symm,
        shows_nothing hEmpty, hCollected, hPlays⟩
    · have hRest : ¬(buffer.nalus.filter isShown).isEmpty = true :=
        mt List.isEmpty_iff.mp hEmpty
      obtain ⟨s', adjusted, hOk, hSent⟩ := sendFrame_paced hCollected hLe hRate
        (buffer.nalus.filter isShown) (Buffer.found s.sps s.pps buffer).containsIdr
      refine ⟨s', _, hFrame.trans ((congrFun (if_pos hRest) _).trans hOk), hSent.sent, ?_,
        hSent.paced hCollected, hSent.generated.trans hPlays⟩
      rw [hFinds.idr]
      exact shows_frame (by rw [List.filter_filter]; simp only [Bool.and_self]) adjusted

/-! ### A stream -/

variable {buffers later : List Buffer} {times : List UInt32}

/-- Buffers that leave the pair incomplete. -/
theorem waits_run (h : Paced clockRate base s) (hWaits : source.Waits units s)
    (hSound : ∀ buffer ∈ buffers, ∀ nalu ∈ buffer.nalus, Sound nalu) (hRate : clockRate / 1000 ≠ 0)
    (hTimes : NotBefore base (buffers.map (·.timestamp) ++ times))
    (hNot : ¬Complete (units ++ unitsOf buffers)) :
    ∃ s' base', handleAll (onFrame source) (buffers.map Buffer.frame) s = .ok () s' ∧
      Paced clockRate base' s' ∧ NotBefore base' times ∧ source.Waits (units ++ unitsOf buffers) s' := by
  induction buffers generalizing s base units with
  | nil =>
    rw [unitsOf, List.flatMap_nil, List.append_nil]
    exact ⟨s, base, rfl, h, hTimes, hWaits⟩
  | cons buffer rest ih =>
    obtain ⟨hBuffer, hRest⟩ := List.forall_mem_cons.mp hSound
    have hUnits : units ++ unitsOf (buffer :: rest) = (units ++ buffer.nalus) ++ unitsOf rest := by
      rw [unitsOf, List.flatMap_cons, ← List.append_assoc]
      rfl
    rw [hUnits] at hNot ⊢
    have hNotYet : ¬Complete (units ++ buffer.nalus) :=
      fun hComplete => hNot (append_complete hComplete _)
    obtain ⟨s1, hFirst, h1, hWaits1⟩ := waits_step h hWaits hBuffer hRate hTimes.1 hNotYet
    obtain ⟨s', base', hRun, h', hTimes', hWaits'⟩ := ih h1 hWaits1 hRest hTimes.2 hNot
    exact ⟨s', base', (bind_of_ok hFirst).trans hRun, h', hTimes', hWaits'⟩

/-- Buffers after the header. -/
theorem plays_run (h : Paced clockRate base s) (hPlays : source.Plays s)
    (hSound : ∀ buffer ∈ buffers, ∀ nalu ∈ buffer.nalus, Sound nalu) (hRate : clockRate / 1000 ≠ 0)
    (hTimes : NotBefore base (buffers.map (·.timestamp)))
    (hKeeps : ∀ buffer ∈ buffers, source.Keeps buffer) :
    ∃ s' messages, handleAll (onFrame source) (buffers.map Buffer.frame) s = .ok () s' ∧
      s'.rtmpHandler.sent = s.rtmpHandler.sent ++ messages ∧ Shows messages buffers := by
  induction buffers generalizing s base with
  | nil => exact ⟨s, [], rfl, (List.append_nil _).symm, [], rfl, rfl⟩
  | cons buffer rest ih =>
    obtain ⟨hBuffer, hRest⟩ := List.forall_mem_cons.mp hSound
    obtain ⟨hKeepsBuffer, hKeepsRest⟩ := List.forall_mem_cons.mp hKeeps
    obtain ⟨s1, first, hFirst, hSent1, hShows1, h1, hPlays1⟩ :=
      plays_step h hPlays hBuffer hRate hTimes.1 hKeepsBuffer
    obtain ⟨s', second, hRun, hSent, hShows⟩ := ih h1 hPlays1 hRest hTimes.2 hKeepsRest
    refine ⟨s', first ++ second, (bind_of_ok hFirst).trans hRun, ?_, hShows1.append hShows⟩
    rw [hSent, hSent1, List.append_assoc]

/-- Once a buffer completes the pair, the metadata and the sequence header of it go out, and from then on
the frames show that buffer and all that follow. -/
def ConservesVideo (source : Source) (s : RemuxerSession) (buffers : List Buffer) : Prop :=
  ∀ before completing after later, buffers = before ++ completing :: after ++ later →
    ¬Complete (unitsOf before) → ∀ sps pps,
    lastSps (unitsOf (before ++ [completing])) = some sps →
    lastPps (unitsOf (before ++ [completing])) = some pps →
    ∃ s1 s' metaData frames,
      handleAll (onFrame source) (before.map Buffer.frame) s = .ok () s1 ∧
      handleAll (onFrame source) ((completing :: after).map Buffer.frame) s1 = .ok () s' ∧
      RtmpCooker.genMetaData (sizeOf sps).1 (sizeOf sps).2 = .ok metaData ∧
      s'.rtmpHandler.sent = s1.rtmpHandler.sent ++
        .metaData 0 metaData :: .video 0 (headerBody sps pps) :: frames ∧
      Shows frames (completing :: after)

/-- A stream that is conserved: its parameter sets are sound, its timestamps can be converted, the buffer
that completes the pair announces it, and no later one hides a picture behind a pair. -/
structure Streamable (source : Source) (info : MediaInfo) (buffers : List Buffer) : Prop where
  sound : ∀ buffer ∈ buffers, ∀ nalu ∈ buffer.nalus, Sound nalu
  rate : 1000 ≤ info.videoClockRate.toNat
  times : NotBefore 0 (buffers.map (·.timestamp))
  announces : ∀ before completing after, buffers = before ++ completing :: after →
    ¬Complete (unitsOf before) → Complete (unitsOf (before ++ [completing])) →
    source.Announces completing ∧ completing.nalus.filter isShown = [] ∧
      ∀ buffer ∈ after, source.Keeps buffer

theorem unitsOf_concat (before : List Buffer) (buffer : Buffer) :
    unitsOf (before ++ [buffer]) = unitsOf before ++ buffer.nalus := by
  rw [unitsOf, List.flatMap_append, List.flatMap_singleton]
  rfl

theorem paced_announced (gopNum : Nat) (sender : Option (List StatisticData)) (info : MediaInfo) :
    Paced info.videoClockRate 0 (announced (.published gopNum sender) info) := ⟨rfl, rfl, rfl⟩

theorem waits_announced (source : Source) (gopNum : Nat) (sender : Option (List StatisticData))
    (info : MediaInfo) : source.Waits [] (announced (.published gopNum sender) info) := by
  cases source with
  | rtsp => trivial
  | whip => exact ⟨rfl, rfl, rfl⟩

/-- The video of such a stream is conserved. -/
theorem conservesVideo_of_streamable (source : Source) (gopNum : Nat)
    (sender : Option (List StatisticData)) (info : MediaInfo) (buffers : List Buffer)
    (h : Streamable source info buffers) :
    ConservesVideo source (announced (.published gopNum sender) info) buffers := by
  intro before completing after later hBuffers hNot sps pps hSps hPps
  rw [List.append_assoc, List.cons_append] at hBuffers
  obtain ⟨hSound, hRate, hTimes, hAnnounces⟩ := h
  obtain ⟨hAnnounced, hNothing, hKeeps⟩ := hAnnounces before completing (after ++ later) hBuffers hNot
    (complete_iff.mpr ⟨sps, pps, hSps, hPps⟩)
  rw [hBuffers] at hSound hTimes
  obtain ⟨hSoundBefore, hSoundRest⟩ := List.forall_mem_append.mp hSound
  obtain ⟨hSoundCompleting, hSoundAfter⟩ := List.forall_mem_cons.mp hSoundRest
  rw [List.map_append] at hTimes
  have hRate' := divisor_ne_zero_iff.mpr hRate
  obtain ⟨s1, base1, hBefore, h1, hTimes1, hWaits1⟩ := waits_run (paced_announced gopNum sender info)
    (waits_announced source gopNum sender info) hSoundBefore hRate' hTimes hNot
  rw [unitsOf_concat] at hSps hPps
  have hUnits : ∀ nalu ∈ unitsOf before ++ completing.nalus, Sound nalu := by
    refine List.forall_mem_append.mpr ⟨?_, hSoundCompleting⟩
    intro nalu hMem
    obtain ⟨buffer, hBuffer, hNalu⟩ := List.mem_flatMap.mp hMem
    exact hSoundBefore buffer hBuffer nalu hNalu
  obtain ⟨s2, metaData, hCompleting, hGen, hSent2, h2, hPlays⟩ :=
    announces_step h1 hWaits1 hUnits hAnnounced hSps hPps
  have hTimes2 := hTimes1.2
  rw [List.map_append] at hTimes2
  obtain ⟨s', frames, hAfter, hSent, hShows⟩ := @plays_run source s2 _ _ after h2 hPlays
    (fun buffer hMem => hSoundAfter buffer (List.mem_append_left _ hMem)) hRate' hTimes2.left
    fun buffer hMem => hKeeps buffer (List.mem_append_left _ hMem)
  refine ⟨s1, s', metaData, frames, hBefore, (bind_of_ok hCompleting).trans hAfter, hGen, ?_,
    (shows_nothing hNothing).append hShows⟩
  rw [hSent, hSent2, List.append_assoc]
  rfl

/-! ### A stream that starts with a pair -/

theorem sound_highSps : Sound Mpeg4Avc.highSps := by
  have hType : (0x67 : UInt8) &&& 0x1F = Flv.H264_NAL_SPS := by decide
  refine ⟨List.cons_ne_nil _ _, fun _ => ⟨?_, by decide⟩, fun _ => by decide⟩
  exact ⟨0x67, _, (16, 16), rfl, hType, Mpeg4Avc.parse_highSps⟩

/-- A unit that is no SPS is sound if it is not empty and short. -/
theorem sound_of_short {nalu : List UInt8} (hNil : nalu ≠ []) (hType : isSps nalu = false)
    (hShort : nalu.length < 2 ^ 16) : Sound nalu := by
  refine ⟨hNil, fun h => ?_, fun _ => hShort⟩
  rw [hType] at h
  cases h

/-- An IDR unit. -/
def onePicture : List UInt8 := [0x65, 0x88, 0x84]

theorem sound_units : ∀ nalu ∈ [Mpeg4Avc.highSps, Mpeg4Avc.onePps, onePicture], Sound nalu :=
  List.forall_mem_cons.mpr ⟨sound_highSps,
    List.forall_mem_cons.mpr ⟨sound_of_short (by decide) (by decide) (by decide),
      List.forall_mem_singleton.mpr (sound_of_short (by decide) (by decide) (by decide))⟩⟩

theorem delimited_units : ∀ coded ∈ ([⟨true, Mpeg4Avc.highSps⟩, ⟨true, Mpeg4Avc.onePps⟩,
    ⟨false, onePicture⟩] : List Coded), Delimited coded.nalu :=
  List.forall_mem_cons.mpr ⟨⟨by decide, by decide, by decide⟩,
    List.forall_mem_cons.mpr ⟨⟨by decide, by decide, by decide⟩,
      List.forall_mem_singleton.mpr ⟨by decide, by decide, by decide⟩⟩⟩

theorem delimited_take {n : Nat} : ∀ coded ∈ ([⟨true, Mpeg4Avc.highSps⟩, ⟨true, Mpeg4Avc.onePps⟩,
    ⟨false, onePicture⟩] : List Coded).take n, Delimited coded.nalu :=
  fun coded hMem => delimited_units coded (List.mem_of_mem_take hMem)

theorem delimited_drop {n : Nat} : ∀ coded ∈ ([⟨true, Mpeg4Avc.highSps⟩, ⟨true, Mpeg4Avc.onePps⟩,
    ⟨false, onePicture⟩] : List Coded).drop n, Delimited coded.nalu :=
  fun coded hMem => delimited_units coded (List.mem_of_mem_drop hMem)

/-- The three units in one buffer, and in two. -/
def allInOne : Buffer := ⟨90000, _, delimited_units⟩

def pairBuffer : Buffer := ⟨90000, _, @delimited_take 2⟩

def pictureBuffer : Buffer := ⟨93000, _, @delimited_drop 2⟩

theorem pair_complete : Complete pairBuffer.nalus := by decide

theorem pair_streamable : Streamable .whip ⟨48000, 90000, .h264⟩ [pairBuffer, pictureBuffer] := by
  refine ⟨?_, by decide, ⟨by decide, by decide, trivial⟩, ?_⟩
  · refine List.forall_mem_cons.mpr ⟨?_, List.forall_mem_singleton.mpr ?_⟩
    · exact fun nalu hMem => sound_units nalu (List.mem_of_mem_take (i := 2) hMem)
    · exact fun nalu hMem => sound_units nalu (List.mem_of_mem_drop (i := 2) hMem)
  · intro before completing after hBuffers hNot _
    cases before with
    | nil =>
      injection hBuffers with hPair hAfter
      subst hPair
      exact ⟨pair_complete.1, by decide, fun _ _ => trivial⟩
    | cons first before =>
      injection hBuffers with hPair hRest
      subst hPair
      exact absurd (append_complete pair_complete (unitsOf before)) hNot

theorem pair_conserved : ConservesVideo .whip (announced (.published 1 none) ⟨48000, 90000, .h264⟩)
    [pairBuffer, pictureBuffer] :=
  conservesVideo_of_streamable .whip 1 none ⟨48000, 90000, .h264⟩ [pairBuffer, pictureBuffer]
    pair_streamable

/-- What comes with the pair is lost. -/
theorem not_conserved_of_shown (source : Source) {buffer : Buffer} {info : MediaInfo}
    (hSound : ∀ nalu ∈ buffer.nalus, Sound nalu) (hComplete : Complete buffer.nalus)
    (hShown : buffer.nalus.filter isShown ≠ []) :
    ¬ConservesVideo source (announced (.published 1 none) info) [buffer] := by
  intro h
  obtain ⟨sps, pps, hSps, hPps⟩ := complete_iff.mp hComplete
  have hUnits : unitsOf ([] ++ [buffer]) = buffer.nalus := List.flatMap_singleton _ _
  have hEmpty : ¬Complete (unitsOf []) := fun hNone => absurd hNone.1 (by decide)
  obtain ⟨s1, s', metaData, frames, hStart, hRun, -, hSent, pictures, hBodies, hPictures⟩ :=
    h [] buffer [] [] rfl hEmpty sps pps (hUnits ▸ hSps) (hUnits ▸ hPps)
  cases hStart
  have hAnnounces : source.Announces buffer := by
    cases source with
    | rtsp => exact hComplete
    | whip => exact hComplete.1
  obtain ⟨s2, metaData2, hOk, -, hSent2, -, -⟩ := @announces_step source _ buffer _ _ [] sps pps
    (paced_announced 1 none info) (waits_announced source 1 none info) hSound hAnnounces hSps hPps
  have hSingle : onFrame source buffer.frame (announced (.published 1 none) info) = .ok () s' := by
    have hAll := hRun
    rwa [List.map_singleton, handleAll_singleton] at hAll
  rw [hOk] at hSingle
  cases hSingle
  rw [hSent2] at hSent
  have hFrames : [FrameData.metaData 0 metaData2, .video 0 (headerBody sps pps)] =
      .metaData 0 metaData :: .video 0 (headerBody sps pps) :: frames :=
    List.append_cancel_left hSent
  injection hFrames with _ hFrames
  injection hFrames with _ hFrames
  rw [← hFrames] at hBodies
  obtain rfl : pictures = [] := List.map_eq_nil_iff.mp hBodies.symm
  rw [List.map_singleton, shown_singleton] at hPictures
  exact hShown (List.map_eq_nil_iff.mp hPictures.symm)

/-- An IDR unit that comes in one buffer with the parameter sets is in no message. -/
theorem picture_with_pair_lost :
    ¬ConservesVideo .whip (announced (.published 1 none) ⟨48000, 90000, .h264⟩) [allInOne] ∧
      ¬ConservesVideo .rtsp (announced (.published 1 none) ⟨48000, 90000, .h264⟩) [allInOne] := by
  have hComplete : Complete allInOne.nalus := by decide
  have hShown : allInOne.nalus.filter isShown ≠ [] := by decide
  exact ⟨not_conserved_of_shown .whip sound_units hComplete hShown,
    not_conserved_of_shown .rtsp sound_units hComplete hShown⟩

end RemuxerSession

end Xiu.Rtmp.Remuxer
