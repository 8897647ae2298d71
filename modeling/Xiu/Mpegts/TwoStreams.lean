import Xiu.Mpegts.Listing
import Xiu.Mpegts.Pids

/-! The muxer with an audio and a video stream in one program: what it writes for a frame of either, and
how that is read. -/

namespace Xiu.Mpegts

open Bytesio ProofKit

namespace TsMuxer

variable {m m' : TsMuxer} {pmt : Pmt} {stream : Pes}

/-! ### Calls that succeed -/

theorem periodFits_of_ok {c : WriteCall} {i j : Nat} (hFind : findIn c.pid m.pat.pmt 0 0 = some (i, j))
    (hPmt : m.pat.pmt[i]? = some pmt) (hStream : pmt.streams[j]? = some stream)
    (h : c.run m = .ok () m') : PeriodFits (period pmt stream m.patPeriod) := by
  by_contra hNot
  obtain ⟨hZero, hLarge⟩ := not_or.mp hNot
  have hPanic : patPmtDue c.dts (c.selected m i j pmt stream) =
      .error .panic (c.selected m i j pmt stream) := by
    unfold patPmtDue
    rw [patPeriod_selected, if_neg hZero, checkedI64_panic (by omega)]
  have hDue : writePatPmtIfDue c.dts (c.selected m i j pmt stream) =
      .error .panic (c.selected m i j pmt stream) := bind_of_error hPanic
  rw [run_selected hFind hPmt hStream, bind_of_error hDue] at h
  cases h

theorem pcrFits_of_ok {payload : List UInt8} (hPmt : m.curPmt? = some pmt)
    (hStream : m.curStream? = some stream) (hPayload : payload ≠ [])
    (h : writePes payload m = .ok () m') (hPid : stream.pid = pmt.pcrPid) : PcrFits stream := by
  by_contra hPcr
  have hPacket : pesPacket true payload.length m = .error .panic (m.modifyStream (counted 1)) := by
    refine (bind_of_ok (pesHeaderFor_ok hStream true payload.length)).trans (bind_of_error ?_)
    refine (bind_of_ok (curPmt_of hPmt)).trans ((bind_of_ok (curStream_of hStream)).trans ?_)
    rw [bind_modify, if_pos rfl, writeStart_panic _ _ _ _ hPid hPcr]
    rfl
  have hTurn : pesTurn true ⟨m, ⟨payload⟩⟩ = .error .panic ⟨m.modifyStream (counted 1), ⟨payload⟩⟩ :=
    pesTurn_error (fun hLen => hPayload (List.length_eq_zero_iff.mp hLen)) hPacket
  unfold writePes at h
  rw [loopM_error hTurn] at h
  cases h

/-- A call that succeeds has written the tables when they are due and the packets of the access unit. -/
theorem written_of_ok {c : WriteCall} {i j : Nat} (hSmall : Limited m)
    (hFind : findIn c.pid m.pat.pmt 0 0 = some (i, j)) (hPmt : m.pat.pmt[i]? = some pmt)
    (hStream : pmt.streams[j]? = some stream) (hTables : ∀ pmt ∈ m.pat.pmt, pmt.sectionLen ≤ 183)
    (hLength : c.payload.length + 64 < 2 ^ 31) (h : c.run m = .ok () m') :
    m' = c.written m i j pmt stream := by
  have hPeriod := periodFits_of_ok hFind hPmt hStream h
  have hUnit : c.payload ≠ [] →
      UnitFits (c.stamped stream) (clockPid pmt stream) c.withAud c.payload := by
    intro hPayload
    obtain ⟨⟨pmt', hPmt', hClock⟩, hCurStream, -⟩ := current_withTables (c := c) hPmt hStream
    have hRun := (run_found hSmall hFind hPmt hStream hPeriod fun _ => hTables).symm.trans h
    refine ⟨fun hPid => pcrFits_of_ok hPmt' hCurStream hPayload hRun (hPid.trans hClock.symm), ?_⟩
    have hRoom := startRoom c.payload.length (c.stamped stream) (clockPid pmt stream) c.withAud
    omega
  have hOk := run_ok hSmall hFind hPmt hStream hPeriod (fun _ => hTables) hUnit
  obtain ⟨-, hEq⟩ := EStateM.Result.ok.inj (h.symm.trans hOk)
  exact hEq

/-! ### Two streams -/

def audioStream : Pes := newStream 0x101 PSI_STREAM_AAC

def videoStream : Pes := newStream 0x102 PSI_STREAM_H264

/-- The same stream, but for its counter and what calls tell of its access units. -/
def Like (stream stream' : Pes) : Prop :=
  stream.pid = stream'.pid ∧ stream.streamId = stream'.streamId ∧ stream.codecId = stream'.codecId

/-- The program of the two streams. -/
def twoStreams (pcrPid : UInt16) (audio video : Pes) : Pmt :=
  ⟨0x100, 1, 2, pcrPid, [], [audio, video]⟩

/-- A muxer with two streams. -/
structure TwoStreams (pcrPid : UInt16) (m : TsMuxer) : Prop where
  limited : Limited m
  pat : ∃ audio video, Like audio audioStream ∧ Like video videoStream ∧
    m.pat = ⟨1, 0, [twoStreams pcrPid audio video]⟩

/-- The pid of the clock reference once a stream has been written. -/
def clockAfter (pcrPid pid : UInt16) : UInt16 :=
  if pcrPid = 0x1FFF ∨ pid = 0x102 then pid else pcrPid

/-- The tables of the two streams. -/
def patPacket (continuityCounter : UInt8) : TsPacket :=
  tablePacket PAT_TID_PAS (Pat.write ⟨1, 0, [twoStreams 0x1FFF audioStream videoStream]⟩)
    continuityCounter

def pmtPacket (pcrPid : UInt16) (continuityCounter : UInt8) : TsPacket :=
  tablePacket 0x100 (twoStreams pcrPid audioStream videoStream).table continuityCounter

theorem table_of_like {pcrPid : UInt16} {audio video : Pes} (hAudio : Like audio audioStream)
    (hVideo : Like video videoStream) :
    (twoStreams pcrPid audio video).table = (twoStreams pcrPid audioStream videoStream).table := by
  have hStream : ∀ (stream stream' : Pes) (w : BytesWriter), Like stream stream' →
      writeStream w stream = writeStream w stream' := by
    intro stream stream' w hLike
    simp only [writeStream, hLike.1, hLike.2.2]
  have hEntries : ∀ w, (twoStreams pcrPid audio video).streams.foldl writeStream w =
      (twoStreams pcrPid audioStream videoStream).streams.foldl writeStream w := by
    intro w
    show writeStream (writeStream w audio) video = writeStream (writeStream w audioStream) videoStream
    rw [hStream _ _ _ hAudio, hStream _ _ _ hVideo]
  have hWrite : (twoStreams pcrPid audio video).write =
      (twoStreams pcrPid audioStream videoStream).write := by
    unfold Pmt.write
    dsimp only
    rw [hEntries]
    rfl
  rw [Pmt.table, Pmt.table, hWrite]

theorem tables_of_twoStreams {pcrPid : UInt16} (h : TwoStreams pcrPid m) :
    m.tables = [patPacket m.patContinuityCounter, pmtPacket pcrPid m.pmtContinuityCounter] := by
  obtain ⟨audio, video, hAudio, hVideo, hPat⟩ := h.pat
  rw [tables, hPat, pmtPackets, pmtPackets, table_of_like hAudio hVideo]
  rfl

/-- The clock reference is on one of the streams. -/
def IsClock (pcrPid : UInt16) : Prop := pcrPid = 0x101 ∨ pcrPid = 0x102

theorem pidOf_tablePacket {pid : UInt16} (h : pid.toNat < 0x2000) (table : List UInt8)
    (continuityCounter : UInt8) : pidOf (tablePacket pid table continuityCounter).bytes = pid :=
  pidOf_bytes (tablePacket pid table continuityCounter) h

theorem sectionOf_tablePacket (pid : UInt16) (table : List UInt8) (continuityCounter : UInt8) :
    sectionOf (tablePacket pid table continuityCounter).bytes =
      sectionIn ((0x00 :: table ++ List.replicate 183 0xFF).take 184) := by
  rw [sectionOf_bytes]
  exact if_pos rfl

theorem patOf_patPacket (continuityCounter : UInt8) :
    patOf (patPacket continuityCounter).bytes = some [(1, 0x100)] := by
  have hTable : (sectionIn ((0x00 :: Pat.write ⟨1, 0, [twoStreams 0x1FFF audioStream videoStream]⟩ ++
      List.replicate 183 0xFF).take 184)).bind parsePat = some [(1, 0x100)] := by
    decide +kernel
  have hPid : PAT_TID_PAS = 0 := rfl
  rw [patOf, patPacket, pidOf_tablePacket (by decide), if_pos hPid, sectionOf_tablePacket, hTable]

theorem pmtOf_pmtPacket {pcrPid : UInt16} (h : IsClock pcrPid) (continuityCounter : UInt8) :
    pmtOf 0x100 (pmtPacket pcrPid continuityCounter).bytes =
      some (pcrPid, [(PSI_STREAM_AAC, 0x101), (PSI_STREAM_H264, 0x102)]) := by
  have hTable : (sectionIn ((0x00 :: (twoStreams pcrPid audioStream videoStream).table ++
      List.replicate 183 0xFF).take 184)).bind parsePmt =
      some (pcrPid, [(PSI_STREAM_AAC, 0x101), (PSI_STREAM_H264, 0x102)]) := by
    rcases h with rfl | rfl
    · decide +kernel
    · decide +kernel
  rw [pmtOf, pmtPacket, pidOf_tablePacket (by decide), if_pos rfl, sectionOf_tablePacket, hTable]

/-! ### A frame -/

/-- A call of `write` to one of the two streams. -/
structure ToTwo (c : WriteCall) : Prop where
  pid : IsClock c.pid
  length : c.payload.length + 64 < 2 ^ 31

/-- What a call appends: the tables, unless they have been sent before for this clock reference, and
the access unit. -/
structure Appends (pcrPid : UInt16) (m : TsMuxer) (c : WriteCall) (m' : TsMuxer)
    (tables unit : List TsPacket) : Prop where
  bytes : m'.bytesWriter.bytes = m.bytesWriter.bytes ++ (tables ++ unit).flatMap (·.bytes)
  tables : tables = [] ∧ m.patPeriod ≠ 0 ∧ clockAfter pcrPid c.pid = pcrPid ∨
    ∃ a b, tables = [patPacket a, pmtPacket (clockAfter pcrPid c.pid) b]
  unit : ∃ stream, unit = accessUnit (c.stamped stream) (clockAfter pcrPid c.pid) c.withAud c.payload ∧
    stream.pid = c.pid

theorem takesClock_audio {pcrPid : UInt16} {audio video : Pes} (h : Like audio audioStream) :
    TakesClock (twoStreams pcrPid audio video) audio ↔ pcrPid = 0x1FFF := by
  have hNot : ¬PES_SID_VIDEO = audioStream.streamId &&& PES_SID_VIDEO := by decide
  rw [TakesClock, h.2.1]
  constructor
  · rintro (hNone | ⟨hVideo, -⟩)
    · exact hNone.symm
    · exact absurd hVideo hNot
  · exact fun hNone => .inl hNone.symm

theorem clockPid_audio {pcrPid : UInt16} {audio video : Pes} (h : Like audio audioStream) :
    clockPid (twoStreams pcrPid audio video) audio = clockAfter pcrPid 0x101 := by
  have hAudio : ¬(0x101 : UInt16) = 0x102 := by decide
  rw [clockPid, clockAfter, h.1]
  simp only [takesClock_audio h, hAudio, or_false]
  rfl

theorem takesClock_video {pcrPid : UInt16} {audio video : Pes} (h : Like video videoStream) :
    TakesClock (twoStreams pcrPid audio video) video ↔ pcrPid ≠ 0x102 := by
  have hVideo : PES_SID_VIDEO = videoStream.streamId &&& PES_SID_VIDEO := by decide
  rw [TakesClock, h.2.1, h.1]
  constructor
  · rintro (hNone | ⟨-, hOther⟩)
    · rintro rfl
      cases hNone
    · exact hOther
  · exact fun hOther => .inr ⟨hVideo, hOther⟩

theorem clockPid_video {pcrPid : UInt16} {audio video : Pes} (h : Like video videoStream) :
    clockPid (twoStreams pcrPid audio video) video = clockAfter pcrPid 0x102 := by
  rw [clockPid, clockAfter, h.1, if_pos (Or.inr rfl)]
  simp only [takesClock_video h]
  split
  · rfl
  · rename_i hSame
    exact Classical.not_not.mp hSame

theorem pat_selected (c : WriteCall) {j : Nat} (hPat : m.pat = ⟨1, 0, [pmt]⟩) :
    (c.selected m 0 j pmt stream).pat =
      ⟨1, 0, [{ pmt with
        pcrPid := clockPid pmt stream, streams := pmt.streams.modify j c.stamped }]⟩ := by
  unfold WriteCall.selected takeClock clockPid
  split
  · simp [modifyStream, modifyPmt, WriteCall.located, hPat]
  · simp [modifyStream, modifyPmt, WriteCall.located, hPat]

theorem pat_written (c : WriteCall) {j : Nat} (hPat : m.pat = ⟨1, 0, [pmt]⟩) :
    ∃ n, (c.written m 0 j pmt stream).pat =
      ⟨1, 0, [{ pmt with
        pcrPid := clockPid pmt stream
        streams := (pmt.streams.modify j c.stamped).modify j (counted n) }]⟩ := by
  have hTables : (withTables c.dts (c.selected m 0 j pmt stream)).pat =
      (c.selected m 0 j pmt stream).pat := by
    unfold withTables
    split
    · rfl
    · rfl
  obtain ⟨hPmtIndex, hStreamIndex⟩ := @cur_selected pmt stream c m 0 j
  obtain ⟨hPmtIndex', hStreamIndex'⟩ := cur_withTables c.dts (c.selected m 0 j pmt stream)
  refine ⟨(accessUnit (c.stamped stream) (clockPid pmt stream) c.withAud c.payload).length, ?_⟩
  simp only [WriteCall.written, sent, modifyStream, modifyPmt, append, hTables, pat_selected c hPat,
    hPmtIndex', hStreamIndex', hPmtIndex, hStreamIndex, List.modify_zero_cons]

/-- One of the two streams, as a call finds it. -/
structure Finds (pcrPid : UInt16) (c : WriteCall) (audio video : Pes) (j : Nat) (stream : Pes) :
    Prop where
  found : findIn c.pid [twoStreams pcrPid audio video] 0 0 = some (0, j)
  isStream : [audio, video][j]? = some stream
  pid : stream.pid = c.pid
  clock : clockPid (twoStreams pcrPid audio video) stream = clockAfter pcrPid c.pid
  same : ∀ f : Pes → Pes, (∀ stream stream', Like stream stream' → Like (f stream) stream') →
    ∃ audio' video', Like audio' audioStream ∧ Like video' videoStream ∧
      [audio, video].modify j f = [audio', video']

theorem exists_finds {pcrPid : UInt16} {audio video : Pes} (hAudio : Like audio audioStream)
    (hVideo : Like video videoStream) {c : WriteCall} (hPid : IsClock c.pid) :
    ∃ j stream, Finds pcrPid c audio video j stream := by
  have hAudioPid : audio.pid = 0x101 := hAudio.1
  have hVideoPid : video.pid = 0x102 := hVideo.1
  rcases hPid with hPid | hPid
  · refine ⟨0, audio, ?_, rfl, hAudioPid.trans hPid.symm, ?_, ?_⟩
    · rw [findIn, hPid]
      simp [twoStreams, hAudioPid, List.findIdx?_cons]
    · rw [hPid]
      exact clockPid_audio hAudio
    · exact fun f hf => ⟨f audio, video, hf _ _ hAudio, hVideo, rfl⟩
  · refine ⟨1, video, ?_, rfl, hVideoPid.trans hPid.symm, ?_, ?_⟩
    · rw [findIn, hPid]
      simp [twoStreams, hAudioPid, hVideoPid, List.findIdx?_cons]
    · rw [hPid]
      exact clockPid_video hVideo
    · exact fun f hf => ⟨audio, f video, hAudio, hf _ _ hVideo, rfl⟩

/-- What a call that succeeds leaves and appends. -/
theorem TwoStreams.appends {pcrPid : UInt16} {c : WriteCall} (h : TwoStreams pcrPid m) (hTo : ToTwo c)
    (hRun : c.run m = .ok () m') :
    TwoStreams (clockAfter pcrPid c.pid) m' ∧ ∃ tables unit, Appends pcrPid m c m' tables unit := by
  obtain ⟨audio, video, hAudio, hVideo, hPat⟩ := h.pat
  obtain ⟨j, stream, hFinds⟩ := @exists_finds pcrPid _ _ hAudio hVideo _ hTo.pid
  have hPmt : m.pat.pmt[0]? = some (twoStreams pcrPid audio video) := by
    rw [hPat]
    rfl
  have hTables : ∀ pmt ∈ m.pat.pmt, pmt.sectionLen ≤ 183 := by
    rw [hPat]
    intro pmt hMem
    obtain rfl := List.mem_singleton.mp hMem
    exact (by decide : 16 + 0 + 5 * 2 ≤ 183)
  have hFind : findIn c.pid m.pat.pmt 0 0 = some (0, j) := by
    rw [hPat]
    exact hFinds.found
  have hWritten := written_of_ok h.limited hFind hPmt hFinds.isStream hTables hTo.length hRun
  have hSelected : TwoStreams (clockAfter pcrPid c.pid)
      (c.selected m 0 j (twoStreams pcrPid audio video) stream) := by
    obtain ⟨audio', video', hAudio', hVideo', hStreams⟩ := hFinds.same c.stamped fun _ _ hLike => hLike
    refine ⟨h.limited.selected c 0 j, audio', video', hAudio', hVideo', ?_⟩
    rw [pat_selected c hPat, hFinds.clock]
    exact congrArg (fun streams => Pat.mk 1 0 [⟨0x100, 1, 2, clockAfter pcrPid c.pid, [], streams⟩]) hStreams
  subst hWritten
  refine ⟨⟨h.limited.written c 0 j _ stream, ?_⟩, _, _, bytes_written c m 0 j, ?_, stream, ?_, hFinds.pid⟩
  · obtain ⟨n, hAfter⟩ := @pat_written m (twoStreams pcrPid audio video) stream c _ hPat
    obtain ⟨audio', video', hAudio', hVideo', hStreams⟩ :=
      hFinds.same (fun stream => counted n (c.stamped stream)) fun _ _ hLike => hLike
    refine ⟨audio', video', hAudio', hVideo', ?_⟩
    rw [hAfter, hFinds.clock, List.modify_modify_eq]
    exact congrArg (fun streams => Pat.mk 1 0 [⟨0x100, 1, 2, clockAfter pcrPid c.pid, [], streams⟩]) hStreams
  · split
    · exact .inr ⟨_, _, tables_of_twoStreams hSelected⟩
    · rename_i hNot
      have hZero : ¬period (twoStreams pcrPid audio video) stream m.patPeriod = 0 :=
        fun hZero => hNot (.inl hZero)
      have hTakes : ¬TakesClock (twoStreams pcrPid audio video) stream :=
        fun hTakes => hZero (if_pos hTakes)
      rw [period, if_neg hTakes] at hZero
      refine .inl ⟨rfl, hZero, ?_⟩
      rw [← hFinds.clock]
      exact if_neg hTakes
  · rw [hFinds.clock]

end TsMuxer

end Xiu.Mpegts
