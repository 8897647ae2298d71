import Xiu.Hls.Cuts
import Xiu.Mpegts.TwoStreams

/-! What the data of a segment begins with, in any run without errors: the tables, and the frame that opens
the segment, when that has a payload. -/

namespace Xiu.Hls

open ProofKit Mpegts Flv2HlsRemuxer TsMuxer

/-! ### Segments that can be played -/

/-- The packets begin with a PAT and the PMT that it names, which lists both streams. -/
def BeginsWithTables (audioPid videoPid pmtPid : UInt16) (packets rest : List (List UInt8)) : Prop :=
  ∃ pat pmt programNumber clock streams, packets = pat :: pmt :: rest ∧
    patOf pat = some [(programNumber, pmtPid)] ∧ pmtOf pmtPid pmt = some (clock, streams) ∧
      (PSI_STREAM_AAC, audioPid) ∈ streams ∧ (PSI_STREAM_H264, videoPid) ∈ streams

/-- Each clock reference of a stream is on the pid that the last PMT has named. -/
def Clocked (audioPid videoPid pmtPid : UInt16) (packets : List (List UInt8)) : Prop :=
  ∀ before packet after, packets = before ++ packet :: after →
    pidOf packet = audioPid ∨ pidOf packet = videoPid → carriesPcr packet = true →
      lastClock pmtPid before = some (pidOf packet)

/-- A segment that can be played on its own: the first PES packet follows the tables, and where a video
frame opens the segment, it is a key frame. -/
def Playable (audioPid videoPid : UInt16) (m : Made) : Prop :=
  ∃ pmtPid pes rest,
    BeginsWithTables audioPid videoPid pmtPid (packetsOf m.call.tsData) (pes :: rest) ∧
      startsPes pes = true ∧ Clocked audioPid videoPid pmtPid (packetsOf m.call.tsData) ∧
        ∀ p ∈ m.pieces.head?, p.frame.pid = videoPid →
          p.frame.flags = MPEG_FLAG_IDR_FRAME ∧ pidOf pes = videoPid ∧ randomAccess pes = true

/-- The packet starts the PES packet of a frame, with the random access indicator for a key frame. -/
def OpensWith (videoPid : UInt16) (frame : Frame) (pes : List UInt8) : Prop :=
  pidOf pes = frame.pid ∧ startsPes pes = true ∧
    (frame.pid = videoPid → frame.flags = MPEG_FLAG_IDR_FRAME → randomAccess pes = true)

/-- A segment that begins with the tables, and then the frame that opens it where that has a payload. -/
def SelfContained (audioPid videoPid : UInt16) (m : Made) : Prop :=
  ∃ pmtPid rest, BeginsWithTables audioPid videoPid pmtPid (packetsOf m.call.tsData) rest ∧
    Clocked audioPid videoPid pmtPid (packetsOf m.call.tsData) ∧
      ∀ p ∈ m.pieces.head?, p.frame.payload ≠ [] →
        ∃ pes ∈ rest.head?, OpensWith videoPid p.frame pes

/-- Where a video frame opens a segment, it is a key frame. -/
def KeyOpened (videoPid : UInt16) (pieces : List Piece) : Prop :=
  ∀ p ∈ pieces.head?, p.frame.pid = videoPid → p.frame.flags = MPEG_FLAG_IDR_FRAME

/-- The payload of the data. -/
def FlvDemuxerData.payload : FlvDemuxerData → List UInt8
  | .video data => data.data
  | .audio data => data.data
  | .none => []

/-- The length of a frame with its headers fits `i32`. -/
def FlvDemuxerData.Short (data : FlvDemuxerData) : Prop := data.payload.length + 64 < 2 ^ 31

/-! ### The packets of a segment -/

theorem lastClock_append {pmtPid : UInt16} (first : List (List UInt8)) {rest : List (List UInt8)}
    (h : ∀ packet ∈ rest, pmtOf pmtPid packet = none) :
    lastClock pmtPid (first ++ rest) = lastClock pmtPid first := by
  have hNone : rest.filterMap (pmtOf pmtPid) = [] := List.filterMap_eq_nil_iff.mpr h
  rw [lastClock, lastClock, List.filterMap_append, hNone, List.append_nil]

theorem lastClock_concat {pmtPid clock : UInt16} {streams : List (UInt8 × UInt16)}
    {packet : List UInt8} (packets : List (List UInt8))
    (h : pmtOf pmtPid packet = some (clock, streams)) :
    lastClock pmtPid (packets ++ [packet]) = some clock := by
  rw [lastClock, List.filterMap_append, List.filterMap_cons_some h, List.filterMap_nil,
    List.getLast?_concat]
  rfl

theorem clocked_nil (audioPid videoPid pmtPid : UInt16) : Clocked audioPid videoPid pmtPid [] := by
  intro before packet after hEq
  cases before with
  | nil => cases hEq
  | cons first before => cases hEq

/-- A packet more. -/
theorem clocked_concat {audioPid videoPid pmtPid : UInt16} {packets : List (List UInt8)}
    {packet : List UInt8} (h : Clocked audioPid videoPid pmtPid packets)
    (hPacket : pidOf packet = audioPid ∨ pidOf packet = videoPid → carriesPcr packet = true →
      lastClock pmtPid packets = some (pidOf packet)) :
    Clocked audioPid videoPid pmtPid (packets ++ [packet]) := by
  intro before packet' after hEq hPid hPcr
  rcases List.eq_nil_or_concat after with rfl | ⟨after', last, rfl⟩
  · obtain ⟨rfl, hLast⟩ := List.append_inj' hEq rfl
    obtain ⟨rfl, -⟩ := List.cons.inj hLast
    exact hPacket hPid hPcr
  · rw [List.concat_eq_append, ← List.cons_append, ← List.append_assoc] at hEq
    obtain ⟨rfl, -⟩ := List.append_inj' hEq rfl
    exact h before packet' after' rfl hPid hPcr

/-- Packets more, which are of a stream, and whose clock references are on the pid that was named last. -/
theorem clocked_append {audioPid videoPid pmtPid clock : UInt16} {first rest : List (List UInt8)}
    (h : Clocked audioPid videoPid pmtPid first) (hClock : lastClock pmtPid first = some clock)
    (hRest : ∀ packet ∈ rest, pmtOf pmtPid packet = none ∧
      (carriesPcr packet = true → pidOf packet = clock)) :
    Clocked audioPid videoPid pmtPid (first ++ rest) ∧
      lastClock pmtPid (first ++ rest) = some clock := by
  induction rest generalizing first with
  | nil =>
    rw [List.append_nil]
    exact ⟨h, hClock⟩
  | cons packet rest ih =>
    obtain ⟨hNone, hPcr⟩ := hRest packet List.mem_cons_self
    have hNext : lastClock pmtPid (first ++ [packet]) = some clock := by
      rw [lastClock_append, hClock]
      intro packet' hMem
      obtain rfl := List.mem_singleton.mp hMem
      exact hNone
    rw [List.append_cons]
    apply ih
    · apply clocked_concat h
      intro _ hCarries
      rw [hClock, hPcr hCarries]
    · exact hNext
    · exact fun packet' hMem => hRest packet' (List.mem_cons_of_mem _ hMem)

/-- What is known of the packets of a segment that has begun, the clock reference being on a pid. -/
structure Sheet (pieces : List Piece) (log : List TsPacket) (pcrPid : UInt16) : Prop where
  begun : pieces ≠ []
  tables : ∃ a clock b rest, IsClock clock ∧ log = patPacket a :: pmtPacket clock b :: rest ∧
    ∀ p ∈ pieces.head?, p.frame.payload ≠ [] → ∃ pes ∈ rest.head?, OpensWith 0x102 p.frame pes.bytes
  clocked : Clocked 0x101 0x102 0x100 (log.map (·.bytes))
  last : lastClock 0x100 (log.map (·.bytes)) = some pcrPid
  isClock : IsClock pcrPid

/-- A segment with a sheet begins with the tables. -/
theorem Sheet.selfContained {m : Made} {log : List TsPacket} {pcrPid : UInt16}
    (h : Sheet m.pieces log pcrPid) (hData : m.call.tsData = log.flatMap (·.bytes)) :
    SelfContained 0x101 0x102 m := by
  obtain ⟨a, clock, b, rest, hClock, rfl, hOpens⟩ := h.tables
  rw [SelfContained, hData, packetsOf_flatMap]
  refine ⟨0x100, rest.map (·.bytes), ?_, h.clocked, ?_⟩
  · exact ⟨_, _, _, _, _, rfl, patOf_patPacket a, pmtOf_pmtPacket hClock b, List.mem_cons_self,
      List.mem_cons_of_mem _ List.mem_cons_self⟩
  · intro p hHead hPayload
    obtain ⟨pes, hMem, hPes⟩ := hOpens p hHead hPayload
    refine ⟨pes.bytes, ?_, hPes⟩
    rw [List.head?_map, hMem]
    rfl

/-! ### Frames -/

/-- The call of `write` for a frame. -/
def Frame.call (frame : Frame) : WriteCall :=
  ⟨frame.pid, Int64.ofInt (frame.pts * 90), Int64.ofInt (frame.dts * 90), frame.flags, frame.payload⟩

/-- What the packets of a frame are, its pid being one of the two streams'. -/
theorem unit_packets {pcrPid : UInt16} {m m' : TsMuxer} {c : WriteCall} {tables unit : List TsPacket}
    (h : Appends pcrPid m c m' tables unit) (hPid : IsClock c.pid) :
    ∀ packet ∈ unit.map (·.bytes), pmtOf 0x100 packet = none ∧
      (carriesPcr packet = true → pidOf packet = clockAfter pcrPid c.pid) := by
  obtain ⟨stream, rfl, hStream⟩ := h.unit
  have hRange : c.pid.toNat < 0x2000 ∧ c.pid ≠ 0x100 := by
    rcases hPid with hPid | hPid
    · rw [hPid]
      decide
    · rw [hPid]
      decide
  intro packet hMem
  obtain ⟨p, hPacket, rfl⟩ := List.mem_map.mp hMem
  obtain ⟨hOf, hPcr⟩ := mem_accessUnit hPacket
  have hOwn : p.pid = c.pid := hOf.trans hStream
  have hSmall : p.pid.toNat < 0x2000 := hOwn ▸ hRange.1
  refine ⟨pmtOf_ne hSmall (hOwn ▸ hRange.2), ?_⟩
  intro hCarries
  rw [pidOf_bytes p hSmall, hOf]
  exact hPcr hCarries

theorem isClock_clockAfter {pcrPid : UInt16} (h : pcrPid = 0x1FFF ∨ IsClock pcrPid) {pid : UInt16}
    (hPid : IsClock pid) : IsClock (clockAfter pcrPid pid) := by
  unfold clockAfter
  split
  · exact hPid
  · rename_i hNot
    exact h.resolve_left fun hNone => hNot (.inl hNone)

/-- The tables name the clock reference. -/
theorem clocked_tables {packets : List (List UInt8)} (h : Clocked 0x101 0x102 0x100 packets)
    {clock : UInt16} (hClock : IsClock clock) (a b : UInt8) :
    Clocked 0x101 0x102 0x100 (packets ++ [(patPacket a).bytes, (pmtPacket clock b).bytes]) ∧
      lastClock 0x100 (packets ++ [(patPacket a).bytes, (pmtPacket clock b).bytes]) = some clock := by
  have hPat : pidOf (patPacket a).bytes = 0 := pidOf_tablePacket (by decide) _ _
  have hPmt : pidOf (pmtPacket clock b).bytes = 0x100 := pidOf_tablePacket (by decide) _ _
  rw [List.append_cons]
  refine ⟨?_, lastClock_concat _ (pmtOf_pmtPacket hClock b)⟩
  apply clocked_concat
  · apply clocked_concat h
    rw [hPat]
    rintro (hPid | hPid)
    · cases hPid
    · cases hPid
  · rw [hPmt]
    rintro (hPid | hPid)
    · cases hPid
    · cases hPid

/-- A frame of a key frame is a point of random access. -/
theorem opensWith_nextPacket {frame : Frame} {stream : Pes} {pcrPid : UInt16} {data : List UInt8}
    (hPid : IsClock frame.pid) (hStream : stream.pid = frame.pid)
    (hPts : -2 ^ 63 ≤ frame.pts * 90 ∧ frame.pts * 90 < 2 ^ 63) :
    OpensWith 0x102 frame
      (nextPacket true (frame.call.stamped stream) pcrPid frame.call.withAud data).bytes := by
  refine ⟨?_, startsPes_nextPacket _ _ _ _, ?_⟩
  · have hOf := pidOf_bytes (nextPacket true (frame.call.stamped stream) pcrPid frame.call.withAud data)
    have hOwn : (nextPacket true (frame.call.stamped stream) pcrPid frame.call.withAud data).pid =
        frame.pid := hStream
    rw [hOwn] at hOf
    apply hOf
    rcases hPid with hPid | hPid
    · rw [hPid]
      decide
    · rw [hPid]
      decide
  · intro _ hKey
    apply randomAccess_nextPacket
    have hAligned : (frame.call.stamped stream).dataAlignmentIndicator = 1 := by
      show (if frame.flags &&& MPEG_FLAG_IDR_FRAME > 0 then 1 else 0) = (1 : UInt8)
      rw [hKey]
      decide
    refine ⟨by rw [hAligned]; decide, ?_⟩
    intro hNone
    have hEq := congrArg Int64.toInt hNone
    have hMin : PTS_NO_VALUE.toInt = -2 ^ 63 := by decide
    rw [hMin] at hEq
    have hToInt : (frame.call.stamped stream).pts.toInt = frame.pts * 90 :=
      Int64.toInt_ofInt_of_le hPts.1 hPts.2
    omega

/-! ### A frame more -/

section Frames

variable {pcrPid : UInt16} {m m' : TsMuxer} {frame : Frame} {tables unit : List TsPacket}

/-- A frame that opens a segment comes behind the tables. -/
theorem sheet_open (hAppends : Appends pcrPid m frame.call m' tables unit)
    (hPcr : pcrPid = 0x1FFF ∨ IsClock pcrPid) (hPid : IsClock frame.pid) (hDue : m.patPeriod = 0)
    (hPts : -2 ^ 63 ≤ frame.pts * 90 ∧ frame.pts * 90 < 2 ^ 63) (bytes : List UInt8) :
    Sheet [⟨frame, bytes⟩] (tables ++ unit) (clockAfter pcrPid frame.pid) := by
  have hClock := isClock_clockAfter hPcr hPid
  have hUnit := unit_packets hAppends hPid
  rcases hAppends.tables with ⟨-, hNot, -⟩ | ⟨a, b, rfl⟩
  · exact absurd hDue hNot
  · obtain ⟨hClocked, hLast⟩ := clocked_tables (clocked_nil 0x101 0x102 0x100) hClock a b
    have hAll := clocked_append hClocked hLast hUnit
    refine ⟨List.cons_ne_nil _ _, ⟨a, _, b, unit, hClock, rfl, ?_⟩, ?_, ?_, hClock⟩
    · intro p hHead hPayload
      obtain rfl := Option.some.inj hHead
      obtain ⟨stream, rfl, hStream⟩ := hAppends.unit
      refine ⟨nextPacket true (frame.call.stamped stream) (clockAfter pcrPid frame.call.pid)
        frame.call.withAud frame.call.payload, ?_, opensWith_nextPacket hPid hStream hPts⟩
      have hSome : ¬frame.call.payload = [] := hPayload
      rw [accessUnit, if_neg hSome]
      rfl
    · rw [List.map_append]
      exact hAll.1
    · rw [List.map_append]
      exact hAll.2

/-- A frame more in a segment that has begun. -/
theorem Sheet.more {pieces : List Piece} {log : List TsPacket} (h : Sheet pieces log pcrPid)
    (hAppends : Appends pcrPid m frame.call m' tables unit) (hPid : IsClock frame.pid)
    (bytes : List UInt8) :
    Sheet (pieces ++ [⟨frame, bytes⟩]) (log ++ (tables ++ unit)) (clockAfter pcrPid frame.pid) := by
  have hClock := isClock_clockAfter (.inr h.isClock) hPid
  have hUnit := unit_packets hAppends hPid
  have hTables : Clocked 0x101 0x102 0x100 ((log ++ tables).map (·.bytes)) ∧
      lastClock 0x100 ((log ++ tables).map (·.bytes)) = some (clockAfter pcrPid frame.pid) := by
    rcases hAppends.tables with ⟨rfl, -, hSame⟩ | ⟨a, b, rfl⟩
    · rw [List.append_nil, show clockAfter pcrPid frame.pid = pcrPid from hSame]
      exact ⟨h.clocked, h.last⟩
    · rw [List.map_append]
      exact clocked_tables h.clocked hClock a b
  have hAll := clocked_append hTables.1 hTables.2 hUnit
  rw [← List.map_append, List.append_assoc] at hAll
  refine ⟨List.append_ne_nil_of_left_ne_nil h.begun _, ?_, hAll.1, hAll.2, hClock⟩
  obtain ⟨a, clock, b, rest, hBegun, rfl, hOpens⟩ := h.tables
  refine ⟨a, clock, b, rest ++ (tables ++ unit), hBegun, rfl, ?_⟩
  intro p hHead hPayload
  obtain ⟨first, more, rfl⟩ := List.exists_cons_of_ne_nil h.begun
  obtain ⟨pes, hMem, hPes⟩ := hOpens p hHead hPayload
  refine ⟨pes, ?_, hPes⟩
  rw [List.head?_append, hMem]
  rfl

end Frames

/-! ### Runs -/

/-- What has been written since the last segment, or at the start. -/
def Current (pieces : List Piece) (m : TsMuxer) : Prop :=
  ∃ pcrPid, TwoStreams pcrPid m ∧
    (pieces = [] ∧ (pcrPid = 0x1FFF ∨ IsClock pcrPid) ∧ m.bytesWriter.bytes = [] ∧ m.patPeriod = 0 ∨
      ∃ log, m.bytesWriter.bytes = log.flatMap (·.bytes) ∧ Sheet pieces log pcrPid)

/-- What a run holds. -/
structure Sheeted (s : Segmenting) : Prop where
  pids : s.state.owner.audioPid = 0x101 ∧ s.state.owner.videoPid = 0x102
  current : Current s.pieces s.state.owner.tsMuxer
  made : ∀ m ∈ s.made, m.call.tsData ≠ [] → SelfContained 0x101 0x102 m
  keys : ∀ m ∈ s.made.tail, KeyOpened 0x102 m.pieces
  key : s.made ≠ [] → s.pieces ≠ [] ∧ KeyOpened 0x102 s.pieces

theorem Current.selfContained {m : Made} {muxer : TsMuxer} (h : Current m.pieces muxer)
    (hData : m.call.tsData = muxer.bytesWriter.bytes) (hSome : m.call.tsData ≠ []) :
    SelfContained 0x101 0x102 m := by
  obtain ⟨pcrPid, -, ⟨-, -, hEmpty, -⟩ | ⟨log, hLog, hSheet⟩⟩ := h
  · rw [hEmpty] at hData
    exact absurd hData hSome
  · exact hSheet.selfContained (hData.trans hLog)

/-- The time stamps of a frame that is written fit. -/
theorem writeFrame_fits {frame : Frame} {s s' : Acting Flv2HlsRemuxer}
    (h : writeFrame frame s = .ok () s') : -2 ^ 63 ≤ frame.pts * 90 ∧ frame.pts * 90 < 2 ^ 63 := by
  rw [writeFrame, bind_modify] at h
  obtain ⟨pts, s1, hPts, -⟩ := bind_eq_ok h
  obtain ⟨hChecked, -⟩ := orFail_eq_ok hPts
  exact (checkedI64_eq_ok hChecked).2

/-- What is known of the frame that is written of the data. -/
theorem frame_facts {self : Flv2HlsRemuxer} {data : FlvDemuxerData} {frame : Frame} {need : Bool}
    (h : self.frameOf data = .ok (some (frame, need)))
    (hPids : self.audioPid = 0x101 ∧ self.videoPid = 0x102) :
    IsClock frame.pid ∧ frame.payload = data.payload ∧
      (need = true → frame.pid = 0x102 → frame.flags = MPEG_FLAG_IDR_FRAME) := by
  obtain ⟨-, hWritten, -, hNeed⟩ := frameOf_some h
  cases data with
  | video data =>
    obtain rfl := Option.some.inj hWritten
    refine ⟨.inr hPids.2, rfl, ?_⟩
    intro hTrue _
    obtain ⟨n, hLimit, -⟩ := hNeed.mp hTrue
    by_cases hKey : data.frameType = KEY_FRAME
    · exact if_pos hKey
    · simp only [FlvDemuxerData.limit, if_neg hKey] at hLimit
      cases hLimit
  | audio data =>
    simp only [FlvDemuxerData.written] at hWritten
    split at hWritten
    · obtain rfl := Option.some.inj hWritten
      refine ⟨.inl hPids.1, rfl, ?_⟩
      intro _ hVideo
      rw [show self.audioPid = 0x102 from hVideo] at hPids
      cases hPids.1
    · cases hWritten
  | none => cases hWritten

/-- A frame is written into a segment that has begun, or opens the first one. -/
theorem sheeted_write {s : Segmenting} {data : FlvDemuxerData} {state : Acting Flv2HlsRemuxer}
    {frame : Frame} (h : Sheeted s) (hShort : data.Short)
    (hFrame : s.state.owner.frameOf data = .ok (some (frame, false)))
    (hWrite : writeFrame frame s.state = .ok () state) : Sheeted (s.after data state) := by
  obtain ⟨hPid, hPayload, -⟩ := frame_facts hFrame h.pids
  have hPts := writeFrame_fits hWrite
  obtain ⟨m, hRun, rfl⟩ := writeFrame_eq_ok hWrite
  have hTo : ToTwo frame.call := ⟨hPid, by rw [show frame.call.payload = _ from hPayload]; exact hShort⟩
  obtain ⟨pcrPid, hTwo, hCurrent⟩ := h.current
  obtain ⟨hNext, tables, unit, hAppends⟩ := hTwo.appends hTo hRun
  have hBytes := hAppends.bytes
  simp only [Segmenting.after, hFrame]
  refine ⟨h.pids, ⟨clockAfter pcrPid frame.pid, hNext, ?_⟩, h.made, h.keys, ?_⟩
  · rcases hCurrent with ⟨hPieces, hPcr, hEmpty, hDue⟩ | ⟨log, hLog, hSheet⟩
    · refine .inr ⟨tables ++ unit, ?_, ?_⟩
      · rw [hEmpty] at hBytes
        exact hBytes
      · rw [hPieces]
        exact sheet_open hAppends hPcr hPid hDue hPts _
    · refine .inr ⟨log ++ (tables ++ unit), ?_, hSheet.more hAppends hPid _⟩
      rw [List.flatMap_append, ← hLog]
      exact hBytes
  · intro hMade
    obtain ⟨hSome, hKeyed⟩ := h.key hMade
    refine ⟨List.append_ne_nil_of_left_ne_nil hSome _, ?_⟩
    intro p hHead
    apply hKeyed p
    obtain ⟨first, more, hFirst⟩ := List.exists_cons_of_ne_nil hSome
    rw [hFirst] at hHead ⊢
    exact hHead

/-- A frame opens a segment behind another one. -/
theorem sheeted_cut {s : Segmenting} {data : FlvDemuxerData} {state state' : Acting Flv2HlsRemuxer}
    {frame : Frame} (h : Sheeted s) (hShort : data.Short)
    (hFrame : s.state.owner.frameOf data = .ok (some (frame, true)))
    (hCut : cut frame s.state = .ok () state) (hWrite : writeFrame frame state = .ok () state') :
    Sheeted (s.after data state') := by
  obtain ⟨hPid, hPayload, hKey⟩ := frame_facts hFrame h.pids
  have hPts := writeFrame_fits hWrite
  obtain ⟨t, -, rfl⟩ := cut_eq_ok hCut
  obtain ⟨m, hRun, rfl⟩ := writeFrame_eq_ok hWrite
  have hTo : ToTwo frame.call := ⟨hPid, by rw [show frame.call.payload = _ from hPayload]; exact hShort⟩
  obtain ⟨pcrPid, hTwo, hCurrent⟩ := h.current
  have hReset : TwoStreams pcrPid s.state.owner.tsMuxer.getData.2.reset :=
    ⟨⟨hTwo.limited.programs, hTwo.limited.patCounter, hTwo.limited.pmtCounter⟩, hTwo.pat⟩
  obtain ⟨hNext, tables, unit, hAppends⟩ := hReset.appends hTo hRun
  have hPcr : pcrPid = 0x1FFF ∨ IsClock pcrPid := by
    rcases hCurrent with ⟨-, hPcr, -⟩ | ⟨log, -, hSheet⟩
    · exact hPcr
    · exact .inr hSheet.isClock
  simp only [Segmenting.after, hFrame]
  refine ⟨h.pids, ⟨clockAfter pcrPid frame.pid, hNext, .inr ⟨tables ++ unit, hAppends.bytes, ?_⟩⟩,
    ?_, ?_, ?_⟩
  · exact sheet_open hAppends hPcr hPid rfl hPts _
  · intro made hMem hSome
    rcases List.mem_append.mp hMem with hMem | hMem
    · exact h.made made hMem hSome
    · obtain rfl := List.mem_singleton.mp hMem
      have hCurrent : Current (s.ended frame.dts false).pieces s.state.owner.tsMuxer := h.current
      exact hCurrent.selfContained rfl hSome
  · intro made hMem
    cases hMade : s.made with
    | nil =>
      rw [hMade] at hMem
      cases hMem
    | cons first rest =>
      rw [hMade] at hMem
      rcases List.mem_append.mp hMem with hMem | hMem
      · apply h.keys
        rw [hMade]
        exact hMem
      · obtain rfl := List.mem_singleton.mp hMem
        have hSome : s.made ≠ [] := by
          rw [hMade]
          exact List.cons_ne_nil _ _
        exact (h.key hSome).2
  · intro _
    refine ⟨List.cons_ne_nil _ _, ?_⟩
    intro p hHead hVideo
    obtain rfl := Option.some.inj hHead
    exact hKey rfl hVideo

theorem sheeted_step {appName streamName : Text} {hlsConfig : Option HlsConfig}
    {eventProducer : Bool} {s s' : Segmenting} {data : FlvDemuxerData} (h : Sheeted s)
    (hShort : data.Short)
    (hStep : (segmenting appName streamName hlsConfig eventProducer).step s data s') : Sheeted s' := by
  obtain ⟨state, hProcess, rfl⟩ := hStep
  rcases process_cases hProcess with ⟨hFrame, rfl⟩ | ⟨frame, ⟨hFrame, hWrite⟩ | ⟨s1, hFrame, hCut, hWrite⟩⟩
  · have hSame : s.after data s.state = s := by
      simp only [Segmenting.after, hFrame]
    rw [hSame]
    exact h
  · exact sheeted_write h hShort hFrame hWrite
  · exact sheeted_cut h hShort hFrame hCut hWrite

theorem sheeted_init {appName streamName : Text} {hlsConfig : Option HlsConfig}
    {eventProducer : Bool} {s : Segmenting}
    (h : (segmenting appName streamName hlsConfig eventProducer).init s) : Sheeted s := by
  obtain ⟨state, hNew, rfl⟩ := h
  obtain ⟨audioPid, videoPid, tsMuxer, m3u8, hStreams, -, rfl⟩ := new_eq_ok hNew
  obtain ⟨hPids, rfl⟩ := EStateM.Result.ok.inj hStreams
  obtain ⟨rfl, rfl⟩ := Prod.mk.inj hPids
  refine ⟨⟨rfl, rfl⟩, ⟨0x1FFF, ⟨?_, ?_⟩, ?_⟩, ?_, ?_, ?_⟩
  · exact ((TsMuxer.Limited.new.withProgram (by decide) 1 []).withStream 0 _ _).withStream 0 _ _
  · exact ⟨audioStream, videoStream, ⟨rfl, rfl, rfl⟩, ⟨rfl, rfl, rfl⟩, rfl⟩
  · exact .inl ⟨rfl, .inl rfl, rfl, rfl⟩
  · rintro m ⟨⟩
  · rintro m ⟨⟩
  · exact fun hSome => absurd rfl hSome

/-- In every run without errors the data of each segment begins with the tables, and then the frame that
opens it where that has a payload, the clock references are on the pid that was named last, and where a
video frame opens a segment behind another one, it is a key frame. -/
theorem segments_selfContained {appName streamName : Text} {hlsConfig : Option HlsConfig}
    {eventProducer : Bool} {frames : List FlvDemuxerData} {made : List Made}
    {final : Acting Flv2HlsRemuxer} (hShort : ∀ data ∈ frames, data.Short)
    (h : Makes appName streamName hlsConfig eventProducer frames made final) :
    (∀ m ∈ made, m.call.tsData ≠ [] →
        SelfContained final.owner.audioPid final.owner.videoPid m) ∧
      ∀ m ∈ made.tail, KeyOpened final.owner.videoPid m.pieces := by
  obtain ⟨s0, s, hInit, hRun, hFlush, rfl⟩ := h
  have hSheeted : (∀ data ∈ [] ++ frames, data.Short) → Sheeted s := by
    refine hRun.preserves_labels (I := fun history s => (∀ data ∈ history, data.Short) → Sheeted s)
      ?_ fun _ => sheeted_init hInit
    intro history s data s' hs hStep hAll
    exact sheeted_step (hs fun data' hMem => hAll data' (List.mem_append_left _ hMem))
      (hAll data (List.mem_append_right _ (List.mem_singleton_self data))) hStep
  have hEnd := hSheeted hShort
  obtain ⟨t, -, rfl⟩ := flush_eq_ok hFlush
  show (∀ m ∈ s.flushed, m.call.tsData ≠ [] →
      SelfContained s.state.owner.audioPid s.state.owner.videoPid m) ∧
    ∀ m ∈ s.flushed.tail, KeyOpened s.state.owner.videoPid m.pieces
  rw [hEnd.pids.1, hEnd.pids.2]
  constructor
  · intro m hMem hSome
    rcases List.mem_append.mp hMem with hMem | hMem
    · exact hEnd.made m hMem hSome
    · obtain rfl := List.mem_singleton.mp hMem
      have hCurrent : Current (s.ended s.state.owner.lastDts true).pieces s.state.owner.tsMuxer :=
        hEnd.current
      exact hCurrent.selfContained rfl hSome
  · intro m hMem
    rw [Segmenting.flushed] at hMem
    cases hMade : s.made with
    | nil =>
      rw [hMade] at hMem
      cases hMem
    | cons first rest =>
      rw [hMade] at hMem
      rcases List.mem_append.mp hMem with hMem | hMem
      · apply hEnd.keys
        rw [hMade]
        exact hMem
      · obtain rfl := List.mem_singleton.mp hMem
        have hSome : s.made ≠ [] := by
          rw [hMade]
          exact List.cons_ne_nil _ _
        exact (hEnd.key hSome).2

theorem keyFrame_selfContained : ∃ made final,
    Makes ['a'] ['s'] none true [keyFrame 0] made final ∧
      ∀ m ∈ made, m.call.tsData ≠ [] →
        SelfContained final.owner.audioPid final.owner.videoPid m := by
  obtain ⟨made, final, hMakes, -⟩ := oneFrame_makes
  have hShort : ∀ data ∈ [keyFrame 0], data.Short := by
    intro data hMem
    obtain rfl := List.mem_singleton.mp hMem
    exact (by decide : 1 + 64 < 2 ^ 31)
  exact ⟨made, final, hMakes, (segments_selfContained hShort hMakes).1⟩

/-- A video frame that is not a key frame. -/
def interFrame : FlvDemuxerData := .video ⟨2, 0, 0, [0x41]⟩

theorem interFrame_makes : ∃ made final, Makes ['a'] ['s'] none true [interFrame] made final ∧
    made.map (fun m => (m.call.tsData.isEmpty, m.pieces.map fun p => (p.frame.pid, p.frame.flags))) =
      [(false, [(final.owner.videoPid, 0)])] := by
  obtain ⟨state, hNew, s, hRun, final, hFlush, hMade⟩ :
      ∃ state ∈ (Flv2HlsRemuxer.new ['a'] ['s'] none true).toOption,
      ∃ s ∈ (Segmenting.mk state [] []).afterAll [interFrame],
      ∃ final ∈ leftBy flushRemainingData s.state,
        s.flushed.map (fun m => (m.call.tsData.isEmpty, m.pieces.map fun p => (p.frame.pid, p.frame.flags))) =
          [(false, [(final.owner.videoPid, 0)])] := by
    decide +kernel
  exact ⟨_, final, makes_of_runs hNew hRun hFlush, hMade⟩

/-- A stream that begins with a video frame that is not a key frame: so does its first segment. -/
theorem interFrame_unplayable :
    ¬∀ frames made final, (∀ data ∈ frames, 0 ≤ data.dts) →
      Makes ['a'] ['s'] none true frames made final → ∀ m ∈ made, m.call.tsData ≠ [] →
        Playable final.owner.audioPid final.owner.videoPid m := by
  intro hAll
  obtain ⟨made, final, hMakes, hMade⟩ := interFrame_makes
  obtain ⟨m, rfl, hOne⟩ := List.map_eq_singleton_iff.mp hMade
  obtain ⟨hSome, hPieces⟩ := Prod.mk.inj hOne
  obtain ⟨p, hPiece, hFrame⟩ := List.map_eq_singleton_iff.mp hPieces
  obtain ⟨hPid, hFlags⟩ := Prod.mk.inj hFrame
  have hDts : ∀ data ∈ [interFrame], 0 ≤ data.dts := by
    intro data hMem
    obtain rfl := List.mem_singleton.mp hMem
    decide
  have hData : m.call.tsData ≠ [] := by
    intro hEmpty
    rw [hEmpty] at hSome
    cases hSome
  obtain ⟨_, pes, _, -, -, -, hOpened⟩ := hAll _ _ final hDts hMakes m (List.mem_singleton_self m) hData
  have hKey := (hOpened p (by rw [hPiece]; rfl) hPid).1
  rw [hFlags] at hKey
  cases hKey

end Xiu.Hls
