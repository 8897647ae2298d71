import Xiu.Hls.Playlist
import Xiu.Hls.Remuxer
import Xiu.Mpegts.Growth
import Xiu.ProofKit.System

/-! What the calls of the remuxer do, when they succeed: the segments that are made, each with the frames
that were written since the one before, and the bytes that the muxer wrote for them. -/

namespace Xiu.Hls

open ProofKit Mpegts Flv2HlsRemuxer

/-- A frame, and the bytes that the muxer wrote for it. -/
structure Piece where
  frame : Frame
  bytes : List UInt8

/-- A call of `add_segment`, what was written since the one before, and the time that its duration is
counted from. -/
structure Made where
  call : AddSegment
  pieces : List Piece
  start : Int

/-- A remuxer with the segments that it has made, and what it has written since. -/
structure Segmenting where
  state : Acting Flv2HlsRemuxer
  made : List Made
  pieces : List Piece

/-- The bytes that the muxer holds. -/
def Flv2HlsRemuxer.bytes (self : Flv2HlsRemuxer) : List UInt8 := self.tsMuxer.bytesWriter.bytes

/-- The call that ends a segment at a time. -/
def Flv2HlsRemuxer.call (self : Flv2HlsRemuxer) (dts : Int) (isEof : Bool) : AddSegment :=
  ⟨dts - self.lastTsDts, self.lastTsDts + 15000 < dts, isEof, self.bytes⟩

/-- The segment that is made when it ends at a time. -/
def Segmenting.ended (s : Segmenting) (dts : Int) (isEof : Bool) : Made :=
  ⟨s.state.owner.call dts isEof, s.pieces, s.state.owner.lastTsDts⟩

/-- What has been made and written when a frame has been processed, which may have opened a segment. -/
def Segmenting.after (s : Segmenting) (data : FlvDemuxerData) (state : Acting Flv2HlsRemuxer) :
    Segmenting :=
  match s.state.owner.frameOf data with
  | .ok (some (frame, true)) =>
    ⟨state, s.made ++ [s.ended frame.dts false], [⟨frame, state.owner.bytes⟩]⟩
  | .ok (some (frame, false)) =>
    ⟨state, s.made, s.pieces ++ [⟨frame, state.owner.bytes.drop s.state.owner.bytes.length⟩]⟩
  | _ => ⟨state, s.made, s.pieces⟩

/-- A stream whose frames are all processed without an error. -/
def segmenting (appName streamName : Text) (hlsConfig : Option HlsConfig) (eventProducer : Bool) :
    System Segmenting FlvDemuxerData where
  init s := ∃ state,
    Flv2HlsRemuxer.new appName streamName hlsConfig eventProducer = .ok state ∧ s = ⟨state, [], []⟩
  step s data s' := ∃ state, processDemuxData data s.state = .ok () state ∧ s' = s.after data state

/-- What has been made when the stream has been flushed. -/
def Segmenting.flushed (s : Segmenting) : List Made := s.made ++ [s.ended s.state.owner.lastDts true]

/-- The frames of a stream make these segments, and leave this state, when nothing fails. -/
def Makes (appName streamName : Text) (hlsConfig : Option HlsConfig) (eventProducer : Bool)
    (frames : List FlvDemuxerData) (made : List Made) (final : Acting Flv2HlsRemuxer) : Prop :=
  ∃ s0 s, (segmenting appName streamName hlsConfig eventProducer).init s0 ∧
    (segmenting appName streamName hlsConfig eventProducer).Run s0 frames s ∧
    flushRemainingData s.state = .ok () final ∧ made = s.flushed

/-! ### Steps that succeed -/

theorem onM3u8_eq_ok {α : Type} {x : Acts M3u8 α} {a : α} {s s' : Acting Flv2HlsRemuxer}
    (h : onM3u8 x s = .ok a s') : ∃ t, x ⟨s.owner.m3u8Handler, s.effects⟩ = .ok a t ∧
      s' = ⟨{ s.owner with m3u8Handler := t.owner }, t.effects⟩ := by
  simp only [onM3u8, onPart] at h
  split at h
  · rename_i t hRun
    obtain ⟨rfl, rfl⟩ := EStateM.Result.ok.inj h
    exact ⟨t, hRun, rfl⟩
  · cases h

/-- A new remuxer. -/
theorem new_eq_ok {appName streamName : Text} {hlsConfig : Option HlsConfig} {eventProducer : Bool}
    {s : Acting Flv2HlsRemuxer}
    (h : Flv2HlsRemuxer.new appName streamName hlsConfig eventProducer = .ok s) :
    ∃ audioPid videoPid tsMuxer m3u8, newStreams = .ok (audioPid, videoPid) tsMuxer ∧
      M3u8.new ((hlsConfig.bind (·.fragment)).getD 5) appName streamName hlsConfig = .ok m3u8 ∧
      s = ⟨{ tsMuxer, lastTsDts := 0, lastTsPts := 0, lastDts := 0, lastPts := 0
             duration := (hlsConfig.bind (·.fragment)).getD 5
             videoPid, audioPid, m3u8Handler := m3u8.owner, eventProducer, appName, streamName
             aofRatio := (hlsConfig.bind (·.aofRatio)).getD 5 }, m3u8.effects⟩ := by
  rw [Flv2HlsRemuxer.new] at h
  split at h
  · cases h
  · rename_i audioPid videoPid tsMuxer hStreams
    dsimp only at h
    cases hM3u8 : M3u8.new ((hlsConfig.bind (·.fragment)).getD 5) appName streamName hlsConfig with
    | error e =>
      rw [hM3u8] at h
      cases h
    | ok m3u8 =>
      rw [hM3u8] at h
      exact ⟨audioPid, videoPid, tsMuxer, m3u8, hStreams, rfl, (Except.ok.inj h).symm⟩

/-- The playlists with one segment more, the live playlist being written again. -/
def Adds (call : AddSegment) (t t' : Acting M3u8) : Prop :=
  ∃ t1 live, call.run t = .ok () t1 ∧ M3u8.refreshPlaylist t1 = .ok live t'

theorem addSegment_eq_ok {dts : Int} {discontinuity isEof : Bool} {data : List UInt8}
    {s s' : Acting Flv2HlsRemuxer} (h : addSegment dts discontinuity isEof data s = .ok () s') :
    ∃ t, Adds ⟨dts - s.owner.lastTsDts, discontinuity, isEof, data⟩
        ⟨s.owner.m3u8Handler, s.effects⟩ t ∧
      s' = ⟨{ s.owner with m3u8Handler := t.owner }, t.effects⟩ := by
  rw [addSegment, bind_get] at h
  obtain ⟨duration, s1, hDuration, h⟩ := bind_eq_ok h
  obtain ⟨hChecked, rfl⟩ := orFail_eq_ok hDuration
  obtain ⟨rfl, -⟩ := checkedI64_eq_ok hChecked
  obtain ⟨u, s2, hAdd, h⟩ := bind_eq_ok h
  obtain ⟨t1, hRun, rfl⟩ := onM3u8_eq_ok hAdd
  obtain ⟨live, s3, hRefresh, h⟩ := bind_eq_ok h
  obtain ⟨t, hLive, rfl⟩ := onM3u8_eq_ok hRefresh
  obtain ⟨-, rfl⟩ := EStateM.Result.ok.inj h
  exact ⟨t, ⟨t1, live, hRun, hLive⟩, rfl⟩

theorem discontinuity_eq_ok {self : Flv2HlsRemuxer} {dts : Int} {b : Bool}
    (h : self.discontinuity dts = .ok b) : b = decide (self.lastTsDts + 15000 < dts) := by
  rw [discontinuity] at h
  cases hLimit : checkedI64 (self.lastTsDts + 15 * 1000) with
  | ok limit =>
    rw [hLimit] at h
    obtain ⟨rfl, -⟩ := checkedI64_eq_ok hLimit
    exact (Except.ok.inj h).symm
  | error e =>
    rw [hLimit] at h
    cases h

/-- What the hub is told when a segment is opened. -/
def Flv2HlsRemuxer.notices (self : Flv2HlsRemuxer) : List Effect :=
  if self.eventProducer then
    (self.m3u8Handler.segments.getLast?.toList).map (.onHls self.appName self.streamName)
  else []

theorem notify_eq_ok (s : Acting Flv2HlsRemuxer) :
    notify s = .ok () ⟨s.owner, s.effects ++ s.owner.notices⟩ := by
  rw [notify, bind_get, notices]
  cases s.owner.m3u8Handler.segments.getLast? with
  | none =>
    cases s.owner.eventProducer <;> simp
  | some segment =>
    cases s.owner.eventProducer with
    | true => rfl
    | false =>
      simp

/-- A segment is opened: the hub is told of the one before the last, and the last one is added. -/
theorem cut_eq_ok {frame : Frame} {s s' : Acting Flv2HlsRemuxer} (h : cut frame s = .ok () s') :
    ∃ t, Adds (s.owner.call frame.dts false)
        ⟨s.owner.m3u8Handler, s.effects ++ s.owner.notices⟩ t ∧
      s' = ⟨{ s.owner with
              tsMuxer := s.owner.tsMuxer.getData.2.reset, lastTsDts := frame.dts
              lastTsPts := frame.pts, m3u8Handler := t.owner }, t.effects⟩ := by
  rw [cut, bind_get] at h
  obtain ⟨discontinuity, s1, hDiscontinuity, h⟩ := bind_eq_ok h
  obtain ⟨hEq, rfl⟩ := orFail_eq_ok hDiscontinuity
  obtain rfl := discontinuity_eq_ok hEq
  obtain ⟨data, s2, hData, h⟩ := bind_eq_ok h
  obtain ⟨rfl, rfl⟩ := EStateM.Result.ok.inj hData
  rw [bind_of_ok (notify_eq_ok _)] at h
  obtain ⟨u, s3, hAdd, h⟩ := bind_eq_ok h
  obtain ⟨t, hAdds, rfl⟩ := addSegment_eq_ok hAdd
  obtain ⟨-, rfl⟩ := EStateM.Result.ok.inj h
  exact ⟨t, hAdds, rfl⟩

theorem flush_eq_ok {s s' : Acting Flv2HlsRemuxer} (h : flushRemainingData s = .ok () s') :
    ∃ t, Adds (s.owner.call s.owner.lastDts true) ⟨s.owner.m3u8Handler, s.effects⟩ t ∧
      s' = ⟨{ s.owner with tsMuxer := s.owner.tsMuxer.getData.2, m3u8Handler := t.owner },
        t.effects⟩ := by
  obtain ⟨data, s1, hData, h⟩ := bind_eq_ok h
  obtain ⟨rfl, rfl⟩ := EStateM.Result.ok.inj hData
  rw [bind_get] at h
  obtain ⟨discontinuity, s2, hDiscontinuity, h⟩ := bind_eq_ok h
  obtain ⟨hEq, rfl⟩ := orFail_eq_ok hDiscontinuity
  obtain rfl := discontinuity_eq_ok hEq
  exact addSegment_eq_ok h

/-- A frame is written by the muxer. -/
theorem writeFrame_eq_ok {frame : Frame} {s s' : Acting Flv2HlsRemuxer}
    (h : writeFrame frame s = .ok () s') :
    ∃ m, TsMuxer.write frame.pid (Int64.ofInt (frame.pts * 90)) (Int64.ofInt (frame.dts * 90))
        frame.flags frame.payload s.owner.tsMuxer = .ok () m ∧
      s' = ⟨{ s.owner with tsMuxer := m, lastDts := frame.dts, lastPts := frame.pts }, s.effects⟩ := by
  rw [writeFrame, bind_modify] at h
  obtain ⟨pts, s1, hPts, h⟩ := bind_eq_ok h
  obtain ⟨hChecked, rfl⟩ := orFail_eq_ok hPts
  obtain ⟨rfl, -⟩ := checkedI64_eq_ok hChecked
  obtain ⟨dts, s2, hDts, h⟩ := bind_eq_ok h
  obtain ⟨hChecked', rfl⟩ := orFail_eq_ok hDts
  obtain ⟨rfl, -⟩ := checkedI64_eq_ok hChecked'
  simp only [onTsMuxer] at h
  split at h
  · rename_i m hRun
    obtain ⟨-, rfl⟩ := EStateM.Result.ok.inj h
    exact ⟨m, hRun, rfl⟩
  · cases h

theorem process_cases {data : FlvDemuxerData} {s s' : Acting Flv2HlsRemuxer}
    (h : processDemuxData data s = .ok () s') :
    s.owner.frameOf data = .ok none ∧ s' = s ∨
    ∃ frame, s.owner.frameOf data = .ok (some (frame, false)) ∧ writeFrame frame s = .ok () s' ∨
    ∃ s1, s.owner.frameOf data = .ok (some (frame, true)) ∧ cut frame s = .ok () s1 ∧
      writeFrame frame s1 = .ok () s' := by
  rw [processDemuxData, bind_get] at h
  obtain ⟨r, s1, hFrame, h⟩ := bind_eq_ok h
  obtain ⟨hFrame, rfl⟩ := orFail_eq_ok hFrame
  rcases r with _ | ⟨frame, _ | _⟩
  · obtain ⟨-, rfl⟩ := EStateM.Result.ok.inj h
    exact .inl ⟨hFrame, rfl⟩
  · exact .inr ⟨frame, .inl ⟨hFrame, h⟩⟩
  · obtain ⟨u, s2, hCut, hWrite⟩ := bind_eq_ok h
    exact .inr ⟨frame, .inr ⟨s2, hFrame, hCut, hWrite⟩⟩

/-! ### Streams that are run -/

/-- What an action leaves that succeeds. -/
def leftBy (x : Acts Flv2HlsRemuxer Unit) (s : Acting Flv2HlsRemuxer) : Option (Acting Flv2HlsRemuxer) :=
  match x s with
  | .ok _ s' => some s'
  | .error _ _ => none

theorem leftBy_eq_some {x : Acts Flv2HlsRemuxer Unit} {s s' : Acting Flv2HlsRemuxer}
    (h : leftBy x s = some s') : x s = .ok () s' := by
  rw [leftBy] at h
  split at h
  · rename_i hRun
    rw [hRun, Option.some.inj h]
  · cases h

/-- What has been made of some frames, where all are processed. -/
def Segmenting.afterAll (s : Segmenting) : List FlvDemuxerData → Option Segmenting
  | [] => some s
  | data :: rest => (leftBy (processDemuxData data) s.state).bind fun state => (s.after data state).afterAll rest

theorem run_afterAll {appName streamName : Text} {hlsConfig : Option HlsConfig} {eventProducer : Bool}
    {s s' : Segmenting} {frames : List FlvDemuxerData} (h : s.afterAll frames = some s') :
    (segmenting appName streamName hlsConfig eventProducer).Run s frames s' := by
  induction frames generalizing s with
  | nil =>
    obtain rfl := Option.some.inj h
    exact .nil s
  | cons data rest ih =>
    obtain ⟨state, hProcess, hRest⟩ := Option.bind_eq_some_iff.mp h
    exact .cons ⟨state, leftBy_eq_some hProcess, rfl⟩ (ih hRest)

theorem new_of_toOption {appName streamName : Text} {hlsConfig : Option HlsConfig} {eventProducer : Bool}
    {state : Acting Flv2HlsRemuxer}
    (h : (Flv2HlsRemuxer.new appName streamName hlsConfig eventProducer).toOption = some state) :
    Flv2HlsRemuxer.new appName streamName hlsConfig eventProducer = .ok state := by
  cases hNew : Flv2HlsRemuxer.new appName streamName hlsConfig eventProducer with
  | ok state' =>
    rw [hNew] at h
    exact congrArg Except.ok (Option.some.inj h)
  | error e =>
    rw [hNew] at h
    cases h

/-- A stream whose calls are run one after the other. -/
theorem makes_of_runs {appName streamName : Text} {hlsConfig : Option HlsConfig} {eventProducer : Bool}
    {frames : List FlvDemuxerData} {state final : Acting Flv2HlsRemuxer} {s : Segmenting}
    (hNew : (Flv2HlsRemuxer.new appName streamName hlsConfig eventProducer).toOption = some state)
    (hRun : (Segmenting.mk state [] []).afterAll frames = some s)
    (hFlush : leftBy flushRemainingData s.state = some final) :
    Makes appName streamName hlsConfig eventProducer frames s.flushed final :=
  ⟨_, s, ⟨state, new_of_toOption hNew, rfl⟩, run_afterAll hRun, leftBy_eq_some hFlush, rfl⟩

end Xiu.Hls
