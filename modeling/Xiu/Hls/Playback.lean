import Xiu.Hls.Files
import Xiu.Hls.Playable
import Xiu.Mpegts.Demux

/-! What is played of an HLS stream: a player gets a playlist and the segments that it lists, and reads the
transport stream of each on its own, by the rules. -/

namespace Xiu.Hls

open ProofKit Mpegts Mpegts.TsMuxer Flv2HlsRemuxer

/-! ### Frames -/

/-- When something is shown, and its data. -/
structure Shown where
  pts : Option Nat
  dts : Option Nat
  data : List UInt8
  deriving DecidableEq

def Shown.of (unit : AccessUnit) : Shown := ⟨unit.pts, unit.dts, unit.data⟩

/-- What the muxer puts before a frame of the video. -/
def accessUnitDelimiter : List UInt8 := [0x00, 0x00, 0x00, 0x01, 0x09, 0xF0]

/-- What is to be shown of a frame: its time is in units of a 90000th of a second. -/
def Frame.shown (videoPid : UInt16) (frame : Frame) : Shown where
  pts := some (frame.pts * 90).toNat
  dts := some (frame.dts * 90).toNat
  data := (if frame.pid = videoPid then accessUnitDelimiter else []) ++ frame.payload

/-- A frame with a payload, of less than 2 GiB, and with times of 33 bits. -/
structure Frame.Fits (frame : Frame) : Prop where
  payload : frame.payload ≠ []
  length : frame.payload.length + 64 < 2 ^ 31
  pts : 0 ≤ frame.pts * 90 ∧ frame.pts * 90 < 2 ^ 33
  dts : 0 ≤ frame.dts * 90 ∧ frame.dts * 90 < 2 ^ 33

/-- A frame of one of the two streams, that has no delimiter of its own. -/
structure Frame.Plain (frame : Frame) : Prop where
  pid : IsClock frame.pid
  flags : frame.call.withAud = false

theorem plain_of_written {data : FlvDemuxerData} {frame : Frame}
    (h : data.written 0x101 0x102 = some frame) : frame.Plain := by
  cases data with
  | video data =>
    obtain rfl := Option.some.inj h
    refine ⟨.inr rfl, ?_⟩
    by_cases hKey : data.frameType = KEY_FRAME
    · simp only [Frame.call, WriteCall.withAud, if_pos hKey]
      decide
    · simp only [Frame.call, WriteCall.withAud, if_neg hKey]
      decide
  | audio data =>
    simp only [FlvDemuxerData.written] at h
    split at h
    · obtain rfl := Option.some.inj h
      refine ⟨.inl rfl, ?_⟩
      show decide ((0 : UInt16) &&& MPEG_FLAG_H264_H265_WITH_AUD > 0) = false
      decide
    · cases h
  | none => cases h

/-- A number of a time of 33 bits. -/
theorem toInt_time {n : Int} (h : 0 ≤ n ∧ n < 2 ^ 33) : (Int64.ofInt n).toInt = n :=
  Int64.toInt_ofInt_of_le (by omega) (by omega)

theorem inRange_call {frame : Frame} (h : frame.Fits) : InRange frame.call := by
  refine ⟨h.payload, ?_, ?_⟩
  · rw [show frame.call.pts = Int64.ofInt (frame.pts * 90) from rfl, toInt_time h.pts]
    exact h.pts
  · rw [show frame.call.dts = Int64.ofInt (frame.dts * 90) from rfl, toInt_time h.dts]
    exact h.dts

/-! ### The muxer -/

/-- The stream that a muxer with two streams finds. -/
theorem streamOf_two {pcrPid : UInt16} {m : TsMuxer} (h : TwoStreams pcrPid m) {pid : UInt16}
    (hPid : IsClock pid) : ∃ stream, m.streamOf pid = some stream ∧
      stream.codecId = if pid = 0x102 then PSI_STREAM_H264 else PSI_STREAM_AAC := by
  obtain ⟨audio, video, hAudio, hVideo, hPat⟩ := h.pat
  have hAudioPid : audio.pid = 0x101 := hAudio.1
  have hVideoPid : video.pid = 0x102 := hVideo.1
  have hFind : m.streamOf pid = [audio, video].find? (·.pid == pid) := by
    rw [streamOf, hPat]
    rfl
  rw [hFind]
  rcases hPid with rfl | rfl
  · refine ⟨audio, ?_, hAudio.2.2⟩
    simp [hAudioPid]
  · refine ⟨video, ?_, hVideo.2.2⟩
    simp [hAudioPid, hVideoPid]

/-- What is read of a frame is what is to be shown of it. -/
theorem unit_shown {pcrPid : UInt16} {m : TsMuxer} (h : TwoStreams pcrPid m) {frame : Frame}
    (hFits : frame.Fits) (hPlain : frame.Plain) : Shown.of (frame.call.unit m) = frame.shown 0x102 := by
  obtain ⟨stream, hStream, hCodec⟩ := streamOf_two h hPlain.pid
  have hPts : frame.call.pts.toInt = frame.pts * 90 := toInt_time hFits.pts
  have hDts : frame.call.dts.toInt = frame.dts * 90 := toInt_time hFits.dts
  have hFound : m.streamOf frame.call.pid = some stream := hStream
  rw [Shown.of, WriteCall.unit, Frame.shown, hPts, hDts, hFound, hPlain.flags, Option.map_some, hCodec]
  rcases hPlain.pid with hPid | hPid
  · rw [hPid]
    rfl
  · rw [hPid]
    rfl

/-- The call that a muxer with two streams has written. -/
theorem wrote_two {pcrPid : UInt16} {m m' : TsMuxer} {c : WriteCall} (h : TwoStreams pcrPid m)
    (hTo : ToTwo c) (hRun : c.run m = .ok () m') :
    ∃ j pmt stream, Wrote m c 0 j pmt stream ∧ m' = c.written m 0 j pmt stream := by
  obtain ⟨audio, video, hAudio, hVideo, hPat⟩ := h.pat
  obtain ⟨j, stream, hFinds⟩ := @exists_finds pcrPid _ _ hAudio hVideo _ hTo.pid
  have hPmt : m.pat.pmt[0]? = some (twoStreams pcrPid audio video) := by
    rw [hPat]
    rfl
  have hTables : ∀ pmt ∈ m.pat.pmt, pmt.sectionLen ≤ 183 := by
    rw [hPat]
    intro pmt hMem
    obtain rfl := List.mem_singleton.mp hMem
    exact (by decide : 16 + 0 + 5 * 2 ≤ 183)
  have hFind : findIn c.pid m.pat.pmt 0 0 = some (0, j) := by
    rw [hPat]
    exact hFinds.found
  have hWritten := written_of_ok h.limited hFind hPmt hFinds.isStream hTables hTo.length hRun
  exact ⟨j, _, stream, ⟨hFind, hPmt, hFinds.isStream, hWritten ▸ hRun⟩, hWritten⟩

/-- A muxer holds what has been written of some frames since it was emptied, and that is read back. -/
structure Held (frames : List Frame) (m : TsMuxer) : Prop where
  two : ∃ pcrPid, TwoStreams pcrPid m
  numbered : Numbered m
  back : ∃ told history log, ReadsBack ⟨m, [], told, history⟩ log ∧
    List.Forall₂ (fun e frame => e.1 = frame.call ∧ ∃ pcrPid, TwoStreams pcrPid e.2) history frames

theorem Held.emptied {frames : List Frame} {m : TsMuxer} (h : Held frames m) :
    Held [] m.getData.2.reset := by
  obtain ⟨pcrPid, hTwo⟩ := h.two
  obtain ⟨told, history, log, hBack, -⟩ := h.back
  refine ⟨⟨pcrPid, ⟨⟨hTwo.limited.programs, hTwo.limited.patCounter, hTwo.limited.pmtCounter⟩, hTwo.pat⟩⟩,
    h.numbered.same rfl rfl h.numbered.streams, 0, [], [], ?_, .nil⟩
  exact ⟨⟨hBack.single.one, hBack.single.info, period_zero⟩, rfl, List.forall_mem_nil _,
    List.forall_mem_nil _, fun _ _ _ _ => rfl⟩

/-- A frame more. -/
theorem Held.write {frames : List Frame} {m m' : TsMuxer} (h : Held frames m) {frame : Frame}
    (hFits : frame.Fits) (hPlain : frame.Plain) (hRun : frame.call.run m = .ok () m') :
    Held (frames ++ [frame]) m' := by
  obtain ⟨pcrPid, hTwo⟩ := h.two
  have hTo : ToTwo frame.call := ⟨hPlain.pid, hFits.length⟩
  obtain ⟨hNext, -⟩ := hTwo.appends hTo hRun
  obtain ⟨j, pmt, stream, hWrote, rfl⟩ := wrote_two hTwo hTo hRun
  obtain ⟨told, history, log, hBack, hHistory⟩ := h.back
  have hDone : (Call.write frame.call).done m = [(frame.call, frame.call.written m 0 j pmt stream)] := by
    simp only [Call.done, hWrote.run]
  have hAfter := hBack.written h.numbered (inRange_call hFits) hWrote
  rw [Session.after, hDone] at hAfter
  exact ⟨⟨_, hNext⟩, h.numbered.written _ _ _, _, _, _, hAfter,
    List.rel_append hHistory (.cons ⟨rfl, _, hNext⟩ .nil)⟩

/-- What is read of a muxer is what is to be shown of its frames. -/
theorem Held.plays {frames : List Frame} {m : TsMuxer} (h : Held frames m)
    (hFits : ∀ frame ∈ frames, frame.Fits ∧ frame.Plain) {pid : UInt16} (hPid : IsClock pid) :
    ∃ units, demux pid m.bytesWriter.bytes = some units ∧
      units.map Shown.of = (frames.filter (·.pid == pid)).map (Frame.shown 0x102) := by
  obtain ⟨pcrPid, hTwo⟩ := h.two
  obtain ⟨told, history, log, hBack, hHistory⟩ := h.back
  obtain ⟨stream, hStream, -⟩ := streamOf_two hTwo hPid
  have hGives := hBack.givesBack hTwo.limited h.numbered pid (by rw [hStream]; rfl)
  refine ⟨_, hGives, ?_⟩
  clear h hTwo hStream hGives hBack
  unfold Session.units
  dsimp only
  induction hHistory with
  | nil => rfl
  | @cons e frame history frames hFirst hRest ih =>
    obtain ⟨hCall, pcrPid', hTwo'⟩ := hFirst
    rw [List.forall_mem_cons] at hFits
    have hUnit := unit_shown hTwo' hFits.1.1 hFits.1.2
    have hSame : e.1.pid = frame.pid := congrArg WriteCall.pid hCall
    rw [List.filter_cons, List.filter_cons, hSame, apply_ite (List.map _), apply_ite (List.map Shown.of),
      apply_ite (List.map (Frame.shown 0x102)), List.map_cons, List.map_cons, List.map_cons, ih hFits.2, hCall,
      hUnit]

/-! ### Files -/

/-- What a file holds. -/
def contentsOf (path : Text) (effects : List Effect) : Option Contents :=
  effects.foldl (fun contents effect =>
    match effect with
    | .create p written => if p = path then some written else contents
    | .removeFile p => if p = path then none else contents
    | _ => contents) none

theorem contentsOf_create (path p : Text) (written : Contents) (effects : List Effect) :
    contentsOf path (effects ++ [.create p written]) =
      if p = path then some written else contentsOf path effects := by
  rw [contentsOf, List.foldl_append]
  rfl

theorem contentsOf_remove (path p : Text) (effects : List Effect) :
    contentsOf path (effects ++ [.removeFile p]) = if p = path then none else contentsOf path effects := by
  rw [contentsOf, List.foldl_append]
  rfl

theorem contentsOf_notices (path : Text) (self : Flv2HlsRemuxer) (effects : List Effect) :
    contentsOf path (effects ++ self.notices) = contentsOf path effects := by
  rcases notices_cases self with ⟨hNone, -⟩ | ⟨segment, hSome, -⟩
  · rw [hNone, List.append_nil]
  · rw [hSome, contentsOf, List.foldl_append]
    rfl

theorem filePath_inj {m3u8 : M3u8} {name name' : Text} (h : m3u8.filePath name = m3u8.filePath name') :
    name = name' := List.append_cancel_left h

/-- Room is made by the removal of the oldest segment of a full window, unless the stream is recorded. -/
theorem popFront_removes {s s' : Acting M3u8}
    (hPresent : ∀ segment ∈ s.owner.segments, Present segment.path s.effects)
    (h : M3u8.popFront s = .ok () s') :
    s'.effects = s.effects ∨ ∃ segment rest, s.owner.segments = segment :: rest ∧
      s.owner.liveTsCount ≤ s.owner.segments.length ∧ s.owner.needRecord = false ∧
      s'.effects = s.effects ++ [.removeFile segment.path] := by
  by_cases hFull : s.owner.segments.length ≥ s.owner.liveTsCount
  · rw [M3u8.popFront, bind_get, if_pos hFull] at h
    cases hSegments : s.owner.segments with
    | nil =>
      simp only [hSegments] at h
      cases h
    | cons segment rest =>
      simp only [hSegments] at h
      rw [bind_modify] at h
      cases hRecord : s.owner.needRecord with
      | true =>
        simp only [hRecord, Bool.not_true, Bool.false_eq_true, if_false] at h
        obtain ⟨n, s1, hNumber, h⟩ := bind_eq_ok h
        obtain ⟨-, rfl⟩ := orFail_eq_ok hNumber
        cases h
        exact .inl rfl
      | false =>
        have hOldest := hPresent segment (hSegments ▸ List.mem_cons_self)
        simp only [hRecord, Bool.not_false, if_true] at h
        rw [bind_of_ok (M3u8.delete_ok _ hOldest)] at h
        obtain ⟨n, s1, hNumber, h⟩ := bind_eq_ok h
        obtain ⟨-, rfl⟩ := orFail_eq_ok hNumber
        cases h
        exact .inr ⟨segment, rest, rfl, hSegments ▸ hFull, rfl, rfl⟩
  · rw [M3u8.popFront, bind_get, if_neg hFull] at h
    cases h
    exact .inl rfl

/-- The live playlist is written, and lists its segments as far as the end of the stream. -/
theorem refreshPlaylist_lists {s s' : Acting M3u8} {live : List Line}
    (h : M3u8.refreshPlaylist s = .ok live s') :
    s' = ⟨s.owner, s.effects ++ [.create (s.owner.filePath s.owner.liveM3u8Name) (.playlist live)]⟩ ∧
      listed live = listed (M3u8.entries s.owner.segments) := by
  rw [M3u8.refreshPlaylist, bind_get] at h
  obtain ⟨header, s1, hHeader, h⟩ := bind_eq_ok h
  obtain ⟨hHeader, rfl⟩ := orFail_eq_ok hHeader
  cases h
  obtain ⟨duration, -, hHeader⟩ := except_bind_eq_ok hHeader
  cases hHeader
  exact ⟨rfl, listed_header ..⟩

/-- The files of the segments that are kept hold their data. -/
def SegmentsKept (m3u8 : M3u8) (calls : List AddSegment) (effects : List Effect) : Prop :=
  ∀ number c, calls[number]? = some c → m3u8.needRecord = true ∨ calls.length ≤ number + m3u8.liveTsCount →
    contentsOf (m3u8.filePath (Ts.tsFileName number)) effects = some (.stream c.tsData)

/-- The segments that are kept are in their files, and the live playlist lists those of its window. -/
structure Kept (m3u8 : M3u8) (calls : List AddSegment) (effects : List Effect) : Prop where
  segments : SegmentsKept m3u8 calls effects
  live : calls ≠ [] → ∃ lines,
    contentsOf (m3u8.filePath m3u8.liveM3u8Name) effects = some (.playlist lines) ∧
      listed lines = listed (M3u8.entries ((segmentsOf m3u8.m3u8Folder calls).rtake m3u8.liveTsCount))

/-- The number of the oldest segment of a full window. -/
theorem oldest_number {m3u8 : M3u8} {calls : List AddSegment} {segment : Segment} {rest : List Segment}
    (h : (segmentsOf m3u8.m3u8Folder calls).rtake m3u8.liveTsCount = segment :: rest)
    (hFull : m3u8.liveTsCount ≤ ((segmentsOf m3u8.m3u8Folder calls).rtake m3u8.liveTsCount).length) :
    ∃ number, number + m3u8.liveTsCount = calls.length ∧
      [Effect.removeFile segment.path] = [.removeFile (m3u8.filePath (Ts.tsFileName number))] := by
  have hLength := @length_segmentsOf m3u8.m3u8Folder calls
  rw [List.rtake, hLength] at h hFull
  rw [List.length_drop, hLength] at hFull
  have hOldest : (segmentsOf m3u8.m3u8Folder calls)[calls.length - m3u8.liveTsCount]? = some segment := by
    rw [← Nat.add_zero (calls.length - m3u8.liveTsCount), ← List.getElem?_drop, h]
    rfl
  obtain ⟨c, -, rfl⟩ : ∃ c, calls[calls.length - m3u8.liveTsCount]? = some c ∧
      c.segment m3u8.m3u8Folder (calls.length - m3u8.liveTsCount) = segment := by
    rw [segmentsOf, List.getElem?_mapIdx] at hOldest
    exact Option.map_eq_some_iff.mp hOldest
  exact ⟨calls.length - m3u8.liveTsCount, by omega, rfl⟩

/-- What a segment more does to the files. -/
theorem adds_effects {duration : Int} {m3u8 : M3u8} {calls : List AddSegment} {c : AddSegment}
    {t t' : Acting M3u8} (h : After duration m3u8 calls t) (hCount : calls.length < 2 ^ 32)
    (hAdds : Adds c t t') :
    ∃ removed lines, t'.effects = t.effects ++ removed ++
        [.create (m3u8.filePath (Ts.tsFileName calls.length)) (.stream c.tsData)] ++
        [.create (m3u8.filePath m3u8.liveM3u8Name) (.playlist lines)] ∧
      (removed = [] ∨ m3u8.needRecord = false ∧ ∃ number, number + m3u8.liveTsCount = calls.length ∧
        removed = [.removeFile (m3u8.filePath (Ts.tsFileName number))]) ∧
      listed lines =
        listed (M3u8.entries ((segmentsOf m3u8.m3u8Folder (calls ++ [c])).rtake m3u8.liveTsCount)) := by
  obtain ⟨t1, lines, hRun, hRefresh⟩ := hAdds
  obtain ⟨hAfter, hRoom, hNumber, -⟩ := h.of_ok hCount hRun
  obtain ⟨k, hWindow⟩ := Nat.exists_eq_succ_of_ne_zero hRoom
  obtain ⟨effects, hPop, -, -⟩ := h.popFront hCount hWindow
  have hOwner := h.owner
  have hNext : t.owner.tsHandler.tsNumber + 1 < 2 ^ 32 := by
    rw [hOwner]
    exact hNumber
  have hAdd := M3u8.addSegment_ok (c := c) hPop hNext
  obtain ⟨-, rfl⟩ := EStateM.Result.ok.inj (hRun.symm.trans hAdd)
  obtain ⟨rfl, hLines⟩ := refreshPlaylist_lists hRefresh
  refine ⟨effects, lines, ?_, ?_, ?_⟩
  · rw [hOwner]
    rfl
  · rcases popFront_removes h.present hPop with hNone | ⟨segment, rest, hSegments, hFull, hRecord, hSome⟩
    · exact .inl (List.append_right_eq_self.mp hNone)
    · rw [hOwner] at hSegments hFull hRecord
      obtain rfl := List.append_cancel_left hSome
      exact .inr ⟨hRecord, oldest_number hSegments hFull⟩
  · rw [hLines, hAfter.owner]
    rfl

theorem Kept.adds {duration : Int} {m3u8 : M3u8} {calls : List AddSegment} {c : AddSegment}
    {t t' : Acting M3u8} (h : Kept m3u8 calls t.effects) (hAfter : After duration m3u8 calls t)
    (hCount : calls.length < 2 ^ 32) (hNames : ∀ n, m3u8.liveM3u8Name ≠ Ts.tsFileName n)
    (hAdds : Adds c t t') : Kept m3u8 (calls ++ [c]) t'.effects := by
  obtain ⟨removed, lines, hEffects, hRemoved, hLines⟩ := adds_effects hAfter hCount hAdds
  rw [hEffects]
  refine ⟨fun number c' hCall hKept => ?_, fun _ => ⟨lines, ?_, hLines⟩⟩
  · have hApart : m3u8.filePath m3u8.liveM3u8Name ≠ m3u8.filePath (Ts.tsFileName number) :=
      fun hEq => hNames number (filePath_inj hEq)
    rw [contentsOf_create, if_neg hApart, contentsOf_create]
    have hLess : number < (calls ++ [c]).length := (List.getElem?_eq_some_iff.mp hCall).1
    rw [List.length_append, List.length_singleton] at hKept hLess
    by_cases hNew : number = calls.length
    · subst hNew
      rw [List.getElem?_concat_length] at hCall
      rw [if_pos rfl, Option.some.inj hCall]
    · have hOld : number < calls.length := by omega
      rw [List.getElem?_append_left hOld] at hCall
      have hOther (n : Nat) (hNe : n ≠ number) :
          m3u8.filePath (Ts.tsFileName n) ≠ m3u8.filePath (Ts.tsFileName number) :=
        fun hEq => hNe (tsFileName_injective (filePath_inj hEq))
      rw [if_neg (hOther _ fun hEq => hNew hEq.symm)]
      have hBefore := h.segments number c' hCall (hKept.imp id fun hWindow => by omega)
      rcases hRemoved with rfl | ⟨hRecord, oldest, hOldest, rfl⟩
      · rw [List.append_nil]
        exact hBefore
      · have hNe : oldest ≠ number := by
          rcases hKept with hTrue | hWindow
          · rw [hRecord] at hTrue
            cases hTrue
          · omega
        rw [contentsOf_remove, if_neg (hOther oldest hNe)]
        exact hBefore
  · rw [contentsOf_create, if_pos rfl]

/-! ### Players -/

/-- What is shown of a stream of a segment. -/
def playSegment (effects : List Effect) (pid : UInt16) (path : Text) : Option (List Shown) :=
  match contentsOf path effects with
  | some (.stream data) => (demux pid data).map (·.map Shown.of)
  | _ => none

theorem playSegment_of {effects : List Effect} {pid : UInt16} {path : Text} {data : List UInt8}
    (h : contentsOf path effects = some (.stream data)) :
    playSegment effects pid path = (demux pid data).map (·.map Shown.of) := by
  rw [playSegment, h]

/-- What a player shows of a stream that gets a playlist, and from its folder the segments that it lists. -/
def play (effects : List Effect) (m3u8 : M3u8) (name : Text) (pid : UInt16) : Option (List Shown) :=
  match contentsOf (m3u8.filePath name) effects with
  | some (.playlist lines) =>
    ((listed lines).mapM fun p => playSegment effects pid (m3u8.filePath p.2)).map List.flatten
  | _ => none

/-- What is to be shown of the frames of a stream. -/
def shownOf (videoPid pid : UInt16) (frames : List Frame) : List Shown :=
  (frames.filter (·.pid == pid)).map (Frame.shown videoPid)

def Made.frames (m : Made) : List Frame := m.pieces.map (·.frame)

/-- The frames of a segment are read from its data. -/
def Made.Shows (m : Made) : Prop :=
  ∀ pid, IsClock pid → ∃ units, demux pid m.call.tsData = some units ∧
    units.map Shown.of = shownOf 0x102 pid m.frames

theorem mapM_of_forall₂ {α β : Type} {f : α → Option β} {l : List α} {l' : List β}
    (h : List.Forall₂ (fun a b => f a = some b) l l') : l.mapM f = some l' := by
  induction h with
  | nil => rfl
  | cons hFirst hRest ih =>
    rw [List.mapM_cons, hFirst, ih]
    rfl

theorem shownOf_flatMap (videoPid pid : UInt16) (made : List Made) :
    (made.map fun m => shownOf videoPid pid m.frames).flatten =
      shownOf videoPid pid (made.flatMap Made.frames) := by
  induction made with
  | nil => rfl
  | cons m made ih =>
    rw [List.map_cons, List.flatten_cons, ih, List.flatMap_cons, shownOf, shownOf, shownOf, List.filter_append,
      List.map_append]

/-- The segments from a number on can be played where their files are kept. -/
theorem SegmentsKept.plays {m3u8 : M3u8} {made : List Made} {effects : List Effect}
    (h : SegmentsKept m3u8 (made.map (·.call)) effects) (hShows : ∀ m ∈ made, m.Shows) {pid : UInt16}
    (hPid : IsClock pid) {k : Nat} (hKept : m3u8.needRecord = true ∨ made.length ≤ k + m3u8.liveTsCount) :
    (((segmentsOf m3u8.m3u8Folder (made.map (·.call))).drop k).map Segment.shown).mapM
        (fun p => playSegment effects pid (m3u8.filePath p.2)) =
      some ((made.drop k).map fun m => shownOf 0x102 pid m.frames) := by
  apply mapM_of_forall₂
  rw [List.forall₂_map_left_iff, List.forall₂_map_right_iff, List.forall₂_iff_get]
  have hLength := @length_segmentsOf m3u8.m3u8Folder (made.map (·.call))
  refine ⟨by simp [hLength], fun i hSegment hMade => ?_⟩
  rw [List.length_drop] at hMade
  have hLess : k + i < made.length := by omega
  have hCall : (made.map (·.call))[k + i]? = some made[k + i].call := by
    rw [List.getElem?_map, List.getElem?_eq_getElem hLess]
    rfl
  obtain ⟨units, hDemux, hUnits⟩ := hShows made[k + i] (List.getElem_mem hLess) pid hPid
  have hFile := h _ _ hCall (hKept.imp id fun hWindow => by rw [List.length_map]; omega)
  have hName : ((segmentsOf m3u8.m3u8Folder (made.map (·.call))).drop k).get ⟨i, hSegment⟩ =
      made[k + i].call.segment m3u8.m3u8Folder (k + i) := by
    simp [segmentsOf]
  have hGet : (made.drop k).get ⟨i, by rw [List.length_drop]; exact hMade⟩ = made[k + i] := by simp
  have hShown : playSegment effects pid (m3u8.filePath (Ts.tsFileName (k + i))) = some (units.map Shown.of) := by
    rw [playSegment_of hFile, hDemux, Option.map_some]
  rw [hName, hGet, ← hUnits]
  exact hShown

/-- The live playlist plays the segments of its window, where none but the last ends the stream. -/
theorem Kept.live_plays {m3u8 : M3u8} {made : List Made} {effects : List Effect}
    (h : Kept m3u8 (made.map (·.call)) effects) (hShows : ∀ m ∈ made, m.Shows)
    (hGoesOn : ∀ m ∈ made.dropLast, m.call.isEof = false) (hSome : made ≠ []) {pid : UInt16}
    (hPid : IsClock pid) : play effects m3u8 m3u8.liveM3u8Name pid =
      some (shownOf 0x102 pid ((made.rtake m3u8.liveTsCount).flatMap Made.frames)) := by
  obtain ⟨lines, hLive, hLines⟩ := h.live fun hNil => hSome (List.map_eq_nil_iff.mp hNil)
  have hEnds : ∀ c ∈ ((made.map (·.call)).rtake m3u8.liveTsCount).dropLast, c.isEof = false := by
    intro c hMem
    have hAll : c ∈ (made.map (·.call)).dropLast := by
      rw [List.rtake] at hMem
      rw [← List.take_append_drop ((made.map (·.call)).length - m3u8.liveTsCount) (made.map (·.call)),
        List.dropLast_append_of_ne_nil]
      · exact List.mem_append_right _ hMem
      · intro hNil
        rw [hNil] at hMem
        cases hMem
    rw [← List.map_dropLast] at hAll
    obtain ⟨m, hMade, rfl⟩ := List.mem_map.mp hAll
    exact hGoesOn m hMade
  rw [(listed_entries_iff _).mpr ((ends_iff _ _ _).mpr hEnds)] at hLines
  have hLength := @length_segmentsOf m3u8.m3u8Folder (made.map (·.call))
  rw [play, hLive]
  dsimp only
  rw [hLines, List.rtake, hLength, List.length_map, h.segments.plays hShows hPid (.inr (by omega)), Option.map_some,
    shownOf_flatMap, List.rtake]

/-! ### Streams -/

/-- A frame that is written of the data fits. -/
def FlvDemuxerData.Fits (data : FlvDemuxerData) : Prop :=
  ∀ audioPid videoPid, ∀ frame ∈ data.written audioPid videoPid, frame.Fits

theorem Kept.notices {m3u8 : M3u8} {calls : List AddSegment} {effects : List Effect}
    (h : Kept m3u8 calls effects) (self : Flv2HlsRemuxer) : Kept m3u8 calls (effects ++ self.notices) where
  segments number c hCall hKept := (contentsOf_notices ..).trans (h.segments number c hCall hKept)
  live hSome := by
    obtain ⟨lines, hLive, hLines⟩ := h.live hSome
    exact ⟨lines, (contentsOf_notices ..).trans hLive, hLines⟩

/-- What the files and the muxer hold while a stream is cut. -/
structure Replays (m3u8 : M3u8) (s : Segmenting) : Prop where
  pids : s.state.owner.audioPid = 0x101 ∧ s.state.owner.videoPid = 0x102
  held : Held (s.pieces.map (·.frame)) s.state.owner.tsMuxer
  fits : ∀ frame ∈ s.pieces.map (·.frame), frame.Fits ∧ frame.Plain
  shows : ∀ m ∈ s.made, m.Shows
  goesOn : ∀ m ∈ s.made, m.call.isEof = false
  kept : Kept m3u8 (s.made.map (·.call)) s.state.effects

theorem Replays.ended {m3u8 : M3u8} {s : Segmenting} (h : Replays m3u8 s) (dts : Int) (isEof : Bool) :
    (s.ended dts isEof).Shows := fun _ hPid => h.held.plays h.fits hPid

theorem replays_init {appName streamName : Text} {hlsConfig : Option HlsConfig} {eventProducer : Bool}
    {s : Segmenting} (h : (segmenting appName streamName hlsConfig eventProducer).init s) :
    Replays s.state.owner.m3u8Handler s := by
  obtain ⟨state, hNew, rfl⟩ := h
  obtain ⟨audioPid, videoPid, tsMuxer, m3u8, hStreams, -, rfl⟩ := new_eq_ok hNew
  obtain ⟨hPids, rfl⟩ := EStateM.Result.ok.inj hStreams
  obtain ⟨rfl, rfl⟩ := Prod.mk.inj hPids
  have hSmall := TsMuxer.Limited.new.withProgram (by decide) 1 []
  refine ⟨⟨rfl, rfl⟩, ⟨⟨0x1FFF, ?_, ?_⟩, ?_, 0, [], [], ?_, .nil⟩, List.forall_mem_nil _, List.forall_mem_nil _,
    List.forall_mem_nil _, ?_, fun hSome => absurd rfl hSome⟩
  · exact (hSmall.withStream 0 _ _).withStream 0 _ _
  · exact ⟨audioStream, videoStream, ⟨rfl, rfl, rfl⟩, ⟨rfl, rfl, rfl⟩, rfl⟩
  · exact ((Numbered.new.withProgram .new 1 []).withStream hSmall _ rfl (by decide)).withStream
      (hSmall.withStream 0 _ _) _ rfl (by decide)
  · exact ⟨⟨Nat.le_refl 1, List.forall_mem_singleton.mpr rfl, period_zero⟩, rfl, List.forall_mem_nil _,
      List.forall_mem_nil _, fun _ _ _ _ => rfl⟩
  · rintro number c ⟨⟩

theorem replays_step {appName streamName : Text} {hlsConfig : Option HlsConfig} {eventProducer : Bool}
    {duration : Int} {m3u8 : M3u8} {s s' : Segmenting} {data : FlvDemuxerData} (h : Replays m3u8 s)
    (hPlayed : Played duration m3u8 s) (hNames : ∀ n, m3u8.liveM3u8Name ≠ Ts.tsFileName n)
    (hFits : ∀ frame ∈ data.written 0x101 0x102, frame.Fits)
    (hStep : (segmenting appName streamName hlsConfig eventProducer).step s data s') : Replays m3u8 s' := by
  obtain ⟨state, hProcess, rfl⟩ := hStep
  have hFrame {frame : Frame} {need : Bool} (hFrameOf : s.state.owner.frameOf data = .ok (some (frame, need))) :
      frame.Fits ∧ frame.Plain := by
    obtain ⟨-, hWritten, -⟩ := frameOf_some hFrameOf
    rw [h.pids.1, h.pids.2] at hWritten
    exact ⟨hFits frame hWritten, plain_of_written hWritten⟩
  rcases process_cases hProcess with ⟨hNone, rfl⟩ | ⟨frame, ⟨hSome, hWrite⟩ | ⟨s1, hSome, hCut, hWrite⟩⟩
  · have hSame : s.after data s.state = s := by
      simp only [Segmenting.after, hNone]
    rw [hSame]
    exact h
  · obtain ⟨hFit, hPlain⟩ := hFrame hSome
    obtain ⟨m, hRun, rfl⟩ := writeFrame_eq_ok hWrite
    simp only [Segmenting.after, hSome]
    refine ⟨h.pids, ?_, ?_, h.shows, h.goesOn, h.kept⟩
    · rw [List.map_append]
      exact h.held.write hFit hPlain hRun
    · rw [List.map_append, List.forall_mem_append]
      exact ⟨h.fits, List.forall_mem_singleton.mpr ⟨hFit, hPlain⟩⟩
  · obtain ⟨hFit, hPlain⟩ := hFrame hSome
    obtain ⟨t, hAdds, rfl⟩ := cut_eq_ok hCut
    obtain ⟨m, hRun, rfl⟩ := writeFrame_eq_ok hWrite
    simp only [Segmenting.after, hSome]
    refine ⟨h.pids, h.held.emptied.write hFit hPlain hRun, List.forall_mem_singleton.mpr ⟨hFit, hPlain⟩, ?_, ?_, ?_⟩
    · rw [List.forall_mem_append]
      exact ⟨h.shows, List.forall_mem_singleton.mpr (h.ended _ _)⟩
    · rw [List.forall_mem_append]
      exact ⟨h.goesOn, List.forall_mem_singleton.mpr rfl⟩
    · rw [List.map_append]
      exact (h.kept.notices _).adds hPlayed.after.notices hPlayed.count hNames hAdds

theorem liveName_ne {duration : Int} {appName streamName : Text} {hlsConfig : Option HlsConfig}
    {s : Acting M3u8} (h : M3u8.new duration appName streamName hlsConfig = .ok s) (n : Nat) :
    s.owner.liveM3u8Name ≠ Ts.tsFileName n := by
  intro hEq
  rw [(names_new h).2.1] at hEq
  have hLast := congrArg List.getLast? hEq
  simp [Ts.tsFileName] at hLast

theorem replays_run {appName streamName : Text} {hlsConfig : Option HlsConfig} {eventProducer : Bool}
    {frames : List FlvDemuxerData} {s0 s : Segmenting} (hFits : ∀ data ∈ frames, data.Fits)
    (hInit : (segmenting appName streamName hlsConfig eventProducer).init s0)
    (hRun : (segmenting appName streamName hlsConfig eventProducer).Run s0 frames s) :
    Played s0.state.owner.duration s0.state.owner.m3u8Handler s ∧ Replays s0.state.owner.m3u8Handler s := by
  have hNames : ∀ n, s0.state.owner.m3u8Handler.liveM3u8Name ≠ Ts.tsFileName n := by
    obtain ⟨state, hNew, rfl⟩ := hInit
    obtain ⟨audioPid, videoPid, tsMuxer, m3u8, -, hM3u8, rfl⟩ := new_eq_ok hNew
    exact liveName_ne hM3u8
  have hKeeps : (∀ data ∈ [] ++ frames, data.Fits) →
      Played s0.state.owner.duration s0.state.owner.m3u8Handler s ∧ Replays s0.state.owner.m3u8Handler s := by
    refine hRun.preserves_labels (I := fun history s => (∀ data ∈ history, data.Fits) →
      Played s0.state.owner.duration s0.state.owner.m3u8Handler s ∧ Replays s0.state.owner.m3u8Handler s)
      ?_ fun _ => ⟨played_init hInit, replays_init hInit⟩
    intro history s data s' hs hStep hAll
    rw [List.forall_mem_append] at hAll
    obtain ⟨hPlayed, hReplays⟩ := hs hAll.1
    have hFit : data.Fits := hAll.2 data (List.mem_singleton_self data)
    exact ⟨played_step hPlayed hStep, replays_step hReplays hPlayed hNames (hFit _ _) hStep⟩
  exact hKeeps hFits

theorem fits_keyFrame {dts : Int64} (h : 0 ≤ dts.toInt * 90 ∧ dts.toInt * 90 < 2 ^ 33) :
    (keyFrame dts).Fits := by
  intro audioPid videoPid frame hMem
  obtain rfl := Option.some.inj hMem
  exact ⟨List.cons_ne_nil _ _, (by decide : 1 + 64 < 2 ^ 31), h, h⟩

theorem fits_twoFrames : ∀ data ∈ [keyFrame 0, keyFrame 5000], data.Fits := by
  rw [List.forall_mem_cons, List.forall_mem_singleton]
  exact ⟨fits_keyFrame (by decide), fits_keyFrame (by decide)⟩

/-- At any time between two frames of a stream that is cut without errors, the segments hold the frames, in
order, up to those that the muxer still holds, and whoever gets the live playlist is shown, of either stream,
the frames of its window, each once, with their times. -/
theorem live_playback {appName streamName : Text} {hlsConfig : Option HlsConfig} {eventProducer : Bool}
    {frames : List FlvDemuxerData} {s0 s : Segmenting} (hFits : ∀ data ∈ frames, data.Fits)
    (hInit : (segmenting appName streamName hlsConfig eventProducer).init s0)
    (hRun : (segmenting appName streamName hlsConfig eventProducer).Run s0 frames s) :
    s.made.flatMap Made.frames ++ s.pieces.map (·.frame) =
        frames.filterMap (·.written s.state.owner.audioPid s.state.owner.videoPid) ∧
      (s.made ≠ [] → ∀ pid, pid = s.state.owner.audioPid ∨ pid = s.state.owner.videoPid →
        play s.state.effects s.state.owner.m3u8Handler s.state.owner.m3u8Handler.liveM3u8Name pid =
          some (shownOf s.state.owner.videoPid pid
            ((s.made.rtake s.state.owner.m3u8Handler.liveTsCount).flatMap Made.frames))) := by
  obtain ⟨hPlayed, hReplays⟩ := replays_run hFits hInit hRun
  have hCounted := hRun.preserves_labels (fun history s data s' hs hStep => counted_step hs hStep)
    (counted_init hInit)
  refine ⟨hCounted.frames, fun hSome pid hPid => ?_⟩
  rw [hReplays.pids.1, hReplays.pids.2] at hPid
  have hOwner : s.state.owner.m3u8Handler = _ := hPlayed.after.owner
  rw [hReplays.pids.2, hOwner]
  exact hReplays.kept.live_plays hReplays.shows
    (fun m hMem => hReplays.goesOn m (List.dropLast_subset _ hMem)) hSome hPid

/-- Two key frames, the second of which opens a segment: a player is shown the first. -/
theorem firstFrame_played : ∃ s0 s : Segmenting,
    (segmenting ['a'] ['s'] none true).Run s0 [keyFrame 0, keyFrame 5000] s ∧
      play s.state.effects s.state.owner.m3u8Handler s.state.owner.m3u8Handler.liveM3u8Name
        s.state.owner.videoPid = some [⟨some 0, some 0, accessUnitDelimiter ++ [0x65]⟩] := by
  obtain ⟨state, hNew, s, hRun, hMade, hShown⟩ : ∃ state ∈ (Flv2HlsRemuxer.new ['a'] ['s'] none true).toOption,
      ∃ s ∈ (Segmenting.mk state [] []).afterAll [keyFrame 0, keyFrame 5000], s.made.length = 1 ∧
      shownOf s.state.owner.videoPid s.state.owner.videoPid
        ((s.made.rtake s.state.owner.m3u8Handler.liveTsCount).flatMap Made.frames) =
          [⟨some 0, some 0, accessUnitDelimiter ++ [0x65]⟩] := by
    decide +kernel
  have hSome : s.made ≠ [] := List.ne_nil_of_length_pos (by omega)
  refine ⟨_, s, run_afterAll hRun, ?_⟩
  rw [← hShown]
  exact (live_playback fits_twoFrames ⟨state, new_of_toOption hNew, rfl⟩ (run_afterAll hRun)).2 hSome _ (.inr rfl)

/-! ### Streams that have ended -/

/-- What is done when the stream has been flushed. -/
def Flv2HlsRemuxer.clearFiles : Acts Flv2HlsRemuxer Unit := onM3u8 M3u8.clear

/-- What the files hold when a stream has been flushed. -/
structure Flushed (duration : Int) (m3u8 : M3u8) (made : List Made) (final : Acting Flv2HlsRemuxer) : Prop where
  after : After duration m3u8 (made.map (·.call)) ⟨final.owner.m3u8Handler, final.effects⟩
  kept : Kept m3u8 (made.map (·.call)) final.effects
  shows : ∀ m ∈ made, m.Shows
  goesOn : ∀ m ∈ made.dropLast, m.call.isEof = false
  pids : final.owner.audioPid = 0x101 ∧ final.owner.videoPid = 0x102

theorem Replays.flushed {duration : Int} {m3u8 : M3u8} {s : Segmenting} {final : Acting Flv2HlsRemuxer}
    (h : Replays m3u8 s) (hPlayed : Played duration m3u8 s) (hNames : ∀ n, m3u8.liveM3u8Name ≠ Ts.tsFileName n)
    (hFlush : flushRemainingData s.state = .ok () final) : Flushed duration m3u8 s.flushed final := by
  obtain ⟨t, hAdds, rfl⟩ := flush_eq_ok hFlush
  have hCalls : s.flushed.map (·.call) =
      s.made.map (·.call) ++ [s.state.owner.call s.state.owner.lastDts true] := List.map_append
  refine ⟨?_, ?_, ?_, ?_, h.pids⟩
  · rw [hCalls]
    exact (hPlayed.after.adds hPlayed.count hAdds).1
  · rw [hCalls]
    exact h.kept.adds hPlayed.after hPlayed.count hNames hAdds
  · rw [Segmenting.flushed, List.forall_mem_append]
    exact ⟨h.shows, List.forall_mem_singleton.mpr (h.ended _ _)⟩
  · rw [Segmenting.flushed, List.dropLast_concat]
    exact h.goesOn

/-- The recorded playlist is written, and the live one is removed. -/
theorem clear_eq_ok {s s' : Acting M3u8} (hRecord : s.owner.needRecord = true)
    (h : M3u8.clear s = .ok () s') : s'.effects = s.effects ++
      [.create (s.owner.filePath s.owner.vodM3u8Name) (.playlist (s.owner.vodM3u8Content ++ [.endlist]))] ++
      [.removeFile (s.owner.filePath s.owner.liveM3u8Name)] := by
  rw [M3u8.clear, bind_get] at h
  simp only [hRecord, if_true] at h
  rw [bind_modify] at h
  obtain ⟨u, s1, hCreate, h⟩ := bind_eq_ok h
  cases hCreate
  rw [bind_get] at h
  split at h
  · cases h
    rfl
  · cases h

/-- The names of the playlists and of the segments differ. -/
theorem names_differ {duration : Int} {appName streamName : Text} {hlsConfig : Option HlsConfig}
    {s : Acting M3u8} (h : M3u8.new duration appName streamName hlsConfig = .ok s)
    (hRecord : s.owner.needRecord = true) :
    s.owner.liveM3u8Name ≠ s.owner.vodM3u8Name ∧ ∀ n, s.owner.vodM3u8Name ≠ Ts.tsFileName n := by
  obtain ⟨-, hLive, hVod⟩ := names_new h
  rw [hLive, hVod hRecord]
  refine ⟨fun hEq => ?_, fun n hEq => ?_⟩
  · have hLength := congrArg List.length hEq
    simp at hLength
  · have hLast := congrArg List.getLast? hEq
    rw [Ts.tsFileName, List.getLast?_append_of_ne_nil _ (by decide), List.getLast?_append_of_ne_nil _ (by decide)]
      at hLast
    simp at hLast

/-- The recorded playlist plays all segments. -/
theorem Flushed.recorded_plays {duration : Int} {m3u8 : M3u8} {made : List Made}
    {final cleared : Acting Flv2HlsRemuxer} (h : Flushed duration m3u8 made final) (hBegun : Begun duration m3u8)
    (hRecord : m3u8.needRecord = true) (hLive : ∀ n, m3u8.liveM3u8Name ≠ Ts.tsFileName n)
    (hVod : m3u8.liveM3u8Name ≠ m3u8.vodM3u8Name ∧ ∀ n, m3u8.vodM3u8Name ≠ Ts.tsFileName n)
    (hClear : clearFiles final = .ok () cleared) {pid : UInt16} (hPid : IsClock pid) :
    play cleared.effects m3u8 m3u8.vodM3u8Name pid = some (shownOf 0x102 pid (made.flatMap Made.frames)) := by
  have hOwner : final.owner.m3u8Handler = _ := h.after.owner
  obtain ⟨t, hT, rfl⟩ := onM3u8_eq_ok hClear
  obtain ⟨hListed, -⟩ := h.after.vod hBegun hRecord
  have hEffects := clear_eq_ok (by rw [hOwner]; exact hRecord) hT
  have hPaths : final.owner.m3u8Handler.filePath = m3u8.filePath ∧
      final.owner.m3u8Handler.liveM3u8Name = m3u8.liveM3u8Name ∧
      final.owner.m3u8Handler.vodM3u8Name = m3u8.vodM3u8Name := by
    rw [hOwner]
    exact ⟨rfl, rfl, rfl⟩
  dsimp only at hEffects hListed
  rw [hPaths.1, hPaths.2.1, hPaths.2.2] at hEffects
  have hKept : SegmentsKept m3u8 (made.map (·.call)) t.effects := by
    intro number c hCall hWindow
    rw [hEffects, contentsOf_remove, if_neg fun hEq => hLive number (filePath_inj hEq), contentsOf_create,
      if_neg fun hEq => hVod.2 number (filePath_inj hEq)]
    exact h.kept.segments number c hCall hWindow
  have hContents : contentsOf (m3u8.filePath m3u8.vodM3u8Name) t.effects =
      some (.playlist (final.owner.m3u8Handler.vodM3u8Content ++ [.endlist])) := by
    rw [hEffects, contentsOf_remove, if_neg fun hEq => hVod.1 (filePath_inj hEq), contentsOf_create, if_pos rfl]
  have hLines : listed (final.owner.m3u8Handler.vodM3u8Content ++ [.endlist]) =
      listed final.owner.m3u8Handler.vodM3u8Content := by
    rw [listed, List.filterMap_append]
    exact List.append_nil _
  have hPlays := hKept.plays h.shows hPid (k := 0) (.inl hRecord)
  rw [List.drop_zero, List.drop_zero] at hPlays
  rw [play, hContents]
  dsimp only
  rw [hLines, hListed, hPlays, Option.map_some, shownOf_flatMap]

/-- When a stream that was cut without errors has been flushed, its segments hold all its frames, in order.
Whoever gets the live playlist is shown the frames of its window, and if the stream is recorded, whoever gets
the recorded playlist when the files have been cleared is shown all frames, each once, with their times. -/
theorem recorded_playback {appName streamName : Text} {hlsConfig : Option HlsConfig} {eventProducer : Bool}
    {frames : List FlvDemuxerData} {made : List Made} {final : Acting Flv2HlsRemuxer}
    (hFits : ∀ data ∈ frames, data.Fits)
    (h : Makes appName streamName hlsConfig eventProducer frames made final) {pid : UInt16}
    (hPid : pid = final.owner.audioPid ∨ pid = final.owner.videoPid) :
    made.flatMap Made.frames = frames.filterMap (·.written final.owner.audioPid final.owner.videoPid) ∧
      play final.effects final.owner.m3u8Handler final.owner.m3u8Handler.liveM3u8Name pid =
        some (shownOf final.owner.videoPid pid
          ((made.rtake final.owner.m3u8Handler.liveTsCount).flatMap Made.frames)) ∧
      (final.owner.m3u8Handler.needRecord = true → ∀ cleared, clearFiles final = .ok () cleared →
        play cleared.effects final.owner.m3u8Handler final.owner.m3u8Handler.vodM3u8Name pid =
          some (shownOf final.owner.videoPid pid
            (frames.filterMap (·.written final.owner.audioPid final.owner.videoPid)))) := by
  obtain ⟨s0, s, hInit, hRun, hFlush, rfl⟩ := h
  obtain ⟨hPlayed, hReplays⟩ := replays_run hFits hInit hRun
  have hCounted := hRun.preserves_labels (fun history s data s' hs hStep => counted_step hs hStep)
    (counted_init hInit)
  obtain ⟨state, hNew, rfl⟩ := hInit
  obtain ⟨audioPid, videoPid, tsMuxer, m3u8, -, hM3u8, rfl⟩ := new_eq_ok hNew
  have hFlushed := hReplays.flushed hPlayed (liveName_ne hM3u8) hFlush
  have hFrames := hCounted.frames
  rw [List.nil_append, hReplays.pids.1, hReplays.pids.2] at hFrames
  have hAll : s.flushed.flatMap Made.frames = frames.filterMap (·.written 0x101 0x102) := by
    rw [Segmenting.flushed, List.flatMap_append, List.flatMap_singleton]
    exact hFrames
  have hOwner : final.owner.m3u8Handler = _ := hFlushed.after.owner
  have hSome : s.flushed ≠ [] := List.append_ne_nil_of_right_ne_nil _ (List.cons_ne_nil _ _)
  rw [hFlushed.pids.1, hFlushed.pids.2] at hPid
  rw [hFlushed.pids.1, hFlushed.pids.2, ← hAll, hOwner]
  refine ⟨rfl, hFlushed.kept.live_plays hFlushed.shows hFlushed.goesOn hSome hPid, ?_⟩
  intro hRecord cleared hClear
  exact hFlushed.recorded_plays (begun_new hM3u8) hRecord (liveName_ne hM3u8) (names_differ hM3u8 hRecord) hClear
    hPid

/-- A recorded stream of two key frames. -/
theorem twoFrames_played : ∃ made final cleared,
    Makes ['a'] ['s'] (some recording) true [keyFrame 0, keyFrame 5000] made final ∧
      clearFiles final = .ok () cleared ∧
      play cleared.effects final.owner.m3u8Handler final.owner.m3u8Handler.vodM3u8Name final.owner.videoPid =
        some [⟨some 0, some 0, accessUnitDelimiter ++ [0x65]⟩,
          ⟨some 450000, some 450000, accessUnitDelimiter ++ [0x65]⟩] := by
  obtain ⟨state, hNew, s, hRun, final, hFlush, cleared, hClear, hRecord, hShown⟩ :
      ∃ state ∈ (Flv2HlsRemuxer.new ['a'] ['s'] (some recording) true).toOption,
      ∃ s ∈ (Segmenting.mk state [] []).afterAll [keyFrame 0, keyFrame 5000],
      ∃ final ∈ leftBy flushRemainingData s.state, ∃ cleared ∈ leftBy clearFiles final,
      final.owner.m3u8Handler.needRecord = true ∧
      shownOf final.owner.videoPid final.owner.videoPid
        ([keyFrame 0, keyFrame 5000].filterMap (·.written final.owner.audioPid final.owner.videoPid)) =
          [⟨some 0, some 0, accessUnitDelimiter ++ [0x65]⟩,
            ⟨some 450000, some 450000, accessUnitDelimiter ++ [0x65]⟩] := by
    decide +kernel
  have hMakes := makes_of_runs hNew hRun hFlush
  refine ⟨_, final, cleared, hMakes, leftBy_eq_some hClear, ?_⟩
  rw [← hShown]
  exact (recorded_playback fits_twoFrames hMakes (.inr rfl)).2.2 hRecord cleared (leftBy_eq_some hClear)

end Xiu.Hls
