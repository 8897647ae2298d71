import Xiu.Mpegts.Continuity

/-! That reading an output by the rules gives back what was written, stream by stream, for a muxer with one
program.  The lengths of an access unit are added up in `i32`, which 2 GiB overflow. -/

namespace Xiu.Mpegts

open Bytesio ProofKit TsMuxer

namespace TsMuxer

/-- The stream of a pid. -/
def streamOf (m : TsMuxer) (pid : UInt16) : Option Pes :=
  (m.pat.pmt.flatMap (·.streams)).find? (·.pid == pid)

/-- The pid of the clock reference, of the first program. -/
def pcrPid (m : TsMuxer) : Option UInt16 := m.pat.pmt.head?.map (·.pcrPid)

end TsMuxer

/-- What is to be read where a call has written, `m` being the state that it left. -/
def TsMuxer.WriteCall.unit (c : WriteCall) (m : TsMuxer) : AccessUnit where
  pts := some c.pts.toInt.toNat
  dts := some c.dts.toInt.toNat
  pcrBase := if m.pcrPid = some c.pid then some c.dts.toInt.toNat else none
  data :=
    (if (m.streamOf c.pid).map (·.codecId) = some PSI_STREAM_H264 ∧ !c.withAud then
      [0x00, 0x00, 0x00, 0x01, 0x09, 0xF0] else []) ++ c.payload

/-- What is to be read of a pid. -/
def Session.units (s : Session) (pid : UInt16) : List AccessUnit :=
  (s.history.filter (·.1.pid == pid)).map fun (c, m) => c.unit m

/-- The output gives back what was written to each stream, in order. -/
def GivesBack (s : Session) : Prop :=
  ∀ pid, (s.muxer.streamOf pid).isSome → demux pid s.output = some (s.units pid)

/-- A call with a payload and with time stamps of 33 bits. -/
def InRange (c : WriteCall) : Prop :=
  c.payload ≠ [] ∧ (0 ≤ c.pts.toInt ∧ c.pts.toInt < 2 ^ 33) ∧ 0 ≤ c.dts.toInt ∧ c.dts.toInt < 2 ^ 33

instance (c : WriteCall) : Decidable (InRange c) := inferInstanceAs (Decidable (_ ∧ _))

/-- The length of an access unit with its headers fits `i32`. -/
def LengthFits (m : TsMuxer) (c : WriteCall) : Prop :=
  ∀ i j pmt stream, findIn c.pid m.pat.pmt 0 0 = some (i, j) → m.pat.pmt[i]? = some pmt →
    pmt.streams[j]? = some stream →
      4 + (fieldBytes (startField (c.stamped stream) (clockPid pmt stream))).length +
        (pesHeader c.payload.length (c.stamped stream) c.withAud).length + c.payload.length < 2 ^ 31

/-- Calls of `add_stream` and of `write` to one of the streams. -/
def ToStreams (s : Session) : Call → Prop
  | .addStream _ => True
  | .getData => True
  | .write c => InRange c ∧ (s.muxer.streamOf c.pid).isSome
  | _ => False

/-- Such calls, whose lengths fit. -/
def OneProgram (s : Session) : Call → Prop
  | .write c => ToStreams s (.write c) ∧ LengthFits s.muxer c
  | call => ToStreams s call

/-! ### One program -/

/-- What holds of a muxer with one program. -/
structure Single (m : TsMuxer) : Prop where
  one : m.pat.pmt.length ≤ 1
  info : ∀ pmt ∈ m.pat.pmt, pmt.programInfo = []
  period : 0 ≤ m.patPeriod.toInt ∧ m.patPeriod.toInt < 2 ^ 33

theorem pid_of_streamOf {m : TsMuxer} {pid : UInt16} {stream : Pes}
    (h : m.streamOf pid = some stream) : stream.pid = pid := by
  have hPid : (stream.pid == pid) = true := List.find?_some (p := fun s : Pes => s.pid == pid) h
  exact beq_iff_eq.mp hPid

theorem streamOf_of {m : TsMuxer} (h : Numbered m) {i j : Nat} {stream : Pes}
    (hStream : m.streamAt? i j = some stream) : m.streamOf stream.pid = some stream := by
  obtain ⟨pmt, hPmt, hGet⟩ := Option.bind_eq_some_iff.mp hStream
  have hMem : stream ∈ m.pat.pmt.flatMap (·.streams) :=
    List.mem_flatMap.mpr ⟨pmt, List.mem_of_getElem? hPmt, List.mem_of_getElem? hGet⟩
  cases hFind : m.streamOf stream.pid with
  | none =>
    have hNone := List.find?_eq_none.mp hFind stream hMem
    exact absurd (beq_self_eq_true stream.pid) hNone
  | some stream' =>
    have hPid := pid_of_streamOf hFind
    obtain ⟨pmt', hPmt', hMem'⟩ := List.mem_flatMap.mp (List.mem_of_find?_eq_some hFind)
    obtain ⟨i', hi'⟩ := List.mem_iff_getElem?.mp hPmt'
    obtain ⟨j', hj'⟩ := List.mem_iff_getElem?.mp hMem'
    have hStream' := streamAt?_of hi' hj'
    obtain ⟨rfl, rfl⟩ := h.stream_inj hStream' hStream hPid
    exact hStream'.symm.trans hStream

theorem exists_streamAt {m : TsMuxer} {pid : UInt16} {stream : Pes}
    (h : m.streamOf pid = some stream) :
    ∃ i j, m.streamAt? i j = some stream ∧ stream.pid = pid := by
  obtain ⟨pmt, hPmt, hMem⟩ := List.mem_flatMap.mp (List.mem_of_find?_eq_some h)
  obtain ⟨i, hi⟩ := List.mem_iff_getElem?.mp hPmt
  obtain ⟨j, hj⟩ := List.mem_iff_getElem?.mp hMem
  exact ⟨i, j, streamAt?_of hi hj, pid_of_streamOf h⟩

/-- With one program, the stream found is that of the pid. -/
theorem findIn_single {m : TsMuxer} (h : m.pat.pmt.length ≤ 1) {pid : UInt16} {i j : Nat}
    (hFind : findIn pid m.pat.pmt 0 0 = some (i, j)) :
    ∃ pmt stream, i = 0 ∧ m.pat.pmt[0]? = some pmt ∧ pmt.streams[j]? = some stream ∧
      stream.pid = pid := by
  match hPmts : m.pat.pmt with
  | [] =>
    rw [hPmts] at hFind
    cases hFind
  | [pmt] =>
    rw [hPmts, findIn] at hFind
    split at hFind
    · rename_i k hIndex
      obtain ⟨hLt, hPid, -⟩ := List.findIdx?_eq_some_iff_getElem.mp hIndex
      obtain ⟨rfl, hj⟩ := Prod.mk.inj (Option.some.inj hFind)
      rw [Nat.zero_add] at hj
      subst hj
      exact ⟨pmt, pmt.streams[k], rfl, rfl, List.getElem?_eq_getElem hLt, beq_iff_eq.mp hPid⟩
    · cases hFind
  | _ :: _ :: _ =>
    rw [hPmts, List.length_cons, List.length_cons] at h
    omega

/-- A stream of a muxer with one program is found. -/
theorem findIn_isSome {m : TsMuxer} {pid : UInt16} {stream : Pes} (h : m.streamOf pid = some stream) :
    ∃ i j, findIn pid m.pat.pmt 0 0 = some (i, j) := by
  have hAny : ∀ (pmts : List Pmt) (i j : Nat), (∃ pmt ∈ pmts, stream ∈ pmt.streams) →
      ∃ p, findIn pid pmts i j = some p := by
    intro pmts
    induction pmts with
    | nil => rintro i j ⟨_, h, -⟩; cases h
    | cons first rest ih =>
      rintro i j ⟨pmt, hPmt, hMem⟩
      rw [findIn]
      split
      · exact ⟨_, rfl⟩
      · rename_i hNone
        rcases List.mem_cons.mp hPmt with rfl | hPmt
        · have := List.findIdx?_eq_none_iff.mp hNone stream hMem
          rw [pid_of_streamOf h, beq_self_eq_true] at this
          cases this
        · exact ih _ _ ⟨pmt, hPmt, hMem⟩
  obtain ⟨pmt, hPmt, hMem⟩ := List.mem_flatMap.mp (List.mem_of_find?_eq_some h)
  obtain ⟨⟨i, j⟩, hFind⟩ := hAny m.pat.pmt 0 0 ⟨pmt, hPmt, hMem⟩
  exact ⟨i, j, hFind⟩

section Stamps

variable {c : WriteCall} {stream : Pes}

theorem clock_stamped (h : InRange c) : (c.stamped stream).clock.toInt = c.dts.toInt := by
  have hNoValue : PTS_NO_VALUE.toInt = -2 ^ 63 := by decide
  have hDts : PTS_NO_VALUE ≠ c.dts := by
    intro hEq
    have := h.2.2.1
    rw [← hEq, hNoValue] at this
    omega
  exact congrArg Int64.toInt (if_neg hDts)

theorem pcrFits_stamped (h : InRange c) : PcrFits (c.stamped stream) := by
  have hRange := h.2.2
  unfold PcrFits
  rw [clock_stamped h]
  omega

end Stamps

/-- With one program, nothing overflows but the length of an access unit. -/
theorem Single.fits {m : TsMuxer} (h : Single m) (hNumbered : Numbered m) {c : WriteCall}
    (hRange : InRange c) (hLength : LengthFits m c) : WriteFits m c := by
  intro i j hFind
  obtain ⟨pmt, stream, rfl, hPmt, hStream, hPid⟩ := findIn_single h.one hFind
  refine ⟨pmt, stream, hPmt, hStream, ?_, fun _ pmt' hMem => ?_, fun _ =>
    ⟨fun _ => pcrFits_stamped hRange, hLength 0 j pmt stream hFind hPmt hStream⟩⟩
  · unfold TsMuxer.period
    split
    · exact .inl rfl
    · refine .inr ?_
      have hPeriod : PAT_PERIOD = 36000 := rfl
      have := h.period
      omega
  · have hStreams := hNumbered.streams pmt' hMem
    simp only [Pmt.sectionLen, Pmt.writtenInfo, h.info pmt' hMem, List.length_nil]
    split
    · simp only [List.length_nil]
      omega
    · simp only [List.length_nil]
      omega

/-! ### What runs keep -/

/-- The packets written so far give back what was written. -/
structure ReadsBack (s : Session) (log : List TsPacket) : Prop where
  single : Single s.muxer
  output : s.output = log.flatMap (·.bytes)
  used : ∀ p ∈ log, p.pid = 0 ∨ p.pid ∈ s.muxer.pids
  past : ∀ e ∈ s.history, e.1.pid ∈ s.muxer.pids
  units : ∀ i j stream, s.muxer.streamAt? i j = some stream →
    (gather ((log.filter (·.pid == stream.pid)).map (·.bytes))).2.mapM parsePes =
      some (s.units stream.pid)

theorem period_zero : 0 ≤ (0 : Int64).toInt ∧ (0 : Int64).toInt < 2 ^ 33 := by decide

theorem ReadsBack.new : ReadsBack .new [] where
  single := ⟨Nat.zero_le 1, fun _ h => (nomatch h), period_zero⟩
  output := rfl
  used _ h := nomatch h
  past _ h := nomatch h
  units _ _ _ h := nomatch h

theorem ReadsBack.withProgram {s : Session} {log : List TsPacket} (h : ReadsBack s log)
    (hEmpty : s.muxer.pat.pmt = []) :
    ReadsBack { s with muxer := s.muxer.withProgram 1 [] } log where
  single := by
    refine ⟨?_, fun pmt hPmt => ?_, h.single.period⟩
    · simp only [TsMuxer.withProgram, hEmpty, List.nil_append, List.length_singleton, Nat.le_refl]
    · rw [TsMuxer.withProgram, hEmpty] at hPmt
      obtain rfl := List.mem_singleton.mp hPmt
      rfl
  output := h.output
  used p hp := (h.used p hp).imp id fun hMem => by
    simp only [pids, TsMuxer.withProgram, List.flatMap_append]
    exact List.mem_append_left _ hMem
  past e he := by
    simp only [pids, TsMuxer.withProgram, List.flatMap_append]
    exact List.mem_append_left _ (h.past e he)
  units i j stream hStream := by
    rw [streamAt?_withProgram] at hStream
    exact h.units i j stream hStream

theorem ReadsBack.withStream {s : Session} {log : List TsPacket} (h : ReadsBack s log)
    (hNumbered : Numbered s.muxer) {i : Nat} {pmt : Pmt} (codecid : UInt8)
    (hPmt : s.muxer.pat.pmt[i]? = some pmt) :
    ReadsBack { s with muxer := s.muxer.withStream i pmt codecid } log where
  single := by
    refine ⟨?_, fun pmt' hPmt' => ?_, period_zero⟩
    · simpa only [TsMuxer.withStream, reset, List.length_set] using h.single.one
    · rcases List.mem_or_eq_of_mem_set hPmt' with hPmt' | rfl
      · exact h.single.info pmt' hPmt'
      · exact h.single.info pmt (List.mem_of_getElem? hPmt)
  output := h.output
  used p hp := (h.used p hp).imp id fun hMem =>
    (pids_withStream codecid hPmt).mem_iff.mpr (List.mem_cons_of_mem _ hMem)
  past e he := (pids_withStream codecid hPmt).mem_iff.mpr (List.mem_cons_of_mem _ (h.past e he))
  units i' j' stream hStream := by
    rw [streamAt?_withStream hPmt] at hStream
    split at hStream
    · obtain rfl := Option.some.inj hStream
      have hNext := hNumbered.next
      have hFresh : s.muxer.pid ∉ s.muxer.pids := fun hMem =>
        absurd (hNumbered.range _ hMem).2 (Nat.lt_irrefl _)
      have hLog : log.filter (·.pid == s.muxer.pid) = [] := by
        refine List.filter_eq_nil_iff.mpr fun p hp hEq => ?_
        rcases h.used p hp with hZero | hMem
        · rw [← beq_iff_eq.mp hEq, hZero] at hNext
          change 0 = _ at hNext
          omega
        · exact hFresh (beq_iff_eq.mp hEq ▸ hMem)
      have hHistory : s.history.filter (·.1.pid == s.muxer.pid) = [] :=
        List.filter_eq_nil_iff.mpr fun e he hEq => hFresh (beq_iff_eq.mp hEq ▸ h.past e he)
      show (gather ((log.filter (·.pid == s.muxer.pid)).map (·.bytes))).2.mapM parsePes =
        some ((s.history.filter (·.1.pid == s.muxer.pid)).map _)
      rw [hLog, hHistory]
      rfl
    · exact h.units i' j' stream hStream

theorem pcrPid_written {c : WriteCall} {m : TsMuxer} {j : Nat} {pmt : Pmt} (stream : Pes)
    (hPmt : m.pat.pmt[0]? = some pmt) :
    (c.written m 0 j pmt stream).pcrPid = some (clockPid pmt stream) := by
  obtain ⟨pmt', hPmt', hClock⟩ := @curPmt?_selected _ _ stream c _ j hPmt
  have hCur := curPmt?_sent_of ((curPmt?_withTables c.dts _).trans hPmt')
    (accessUnit (c.stamped stream) (clockPid pmt stream) c.withAud c.payload)
  have hIndex : (c.written m 0 j pmt stream).curPmtIndex = 0 :=
    (cur_withTables c.dts (c.selected m 0 j pmt stream)).1.trans (cur_selected c m 0 j).1
  change (c.written m 0 j pmt stream).pat.pmt[(c.written m 0 j pmt stream).curPmtIndex]? = _ at hCur
  rw [hIndex] at hCur
  unfold TsMuxer.pcrPid
  rw [List.head?_eq_getElem?, hCur, Option.map_some]
  exact congrArg some hClock

theorem patPeriod_written (c : WriteCall) (m : TsMuxer) (i j : Nat) (pmt : Pmt) (stream : Pes) :
    (c.written m i j pmt stream).patPeriod = c.dts ∨
      (c.written m i j pmt stream).patPeriod = 0 ∨
      (c.written m i j pmt stream).patPeriod = m.patPeriod := by
  have hPeriod := @patPeriod_selected m pmt stream c i j
  have hSent : (c.written m i j pmt stream).patPeriod =
      (withTables c.dts (c.selected m i j pmt stream)).patPeriod := rfl
  rw [hSent]
  unfold withTables
  split
  · exact .inl rfl
  · rw [hPeriod]
    unfold period
    split
    · exact .inr (.inl rfl)
    · exact .inr (.inr rfl)

/-! ### A call of `write` -/

theorem filter_tables {m : TsMuxer} (h : Numbered m) {i j : Nat} {stream : Pes}
    (hStream : m.streamAt? i j = some stream) : m.tables.filter (·.pid == stream.pid) = [] := by
  refine List.filter_eq_nil_iff.mpr fun p hp hEq => ?_
  have hPid : p.pid = stream.pid := beq_iff_eq.mp hEq
  rcases mem_tables hp with hZero | ⟨k, hProgram⟩
  · exact h.ne_zero (mem_pids_of_stream hStream) (hPid.symm.trans hZero)
  · exact h.program_ne hProgram hStream hPid

/-- The packets of a stream among those of a call. -/
theorem filter_packets {c : WriteCall} {m : TsMuxer} (h : Numbered m) {i j i' j' : Nat} {pmt : Pmt}
    {stream stream' : Pes} (hStream' : m.streamAt? i' j' = some stream') :
    (c.packets m i j pmt stream).filter (·.pid == stream'.pid) =
      if stream.pid = stream'.pid then
        accessUnit (c.stamped stream) (clockPid pmt stream) c.withAud c.payload
      else [] := by
  have hPids := (accessUnit_counted (c.stamped stream) (clockPid pmt stream) c.withAud
    c.payload).pids
  have hSelected : ∃ stream'', (c.selected m i j pmt stream).streamAt? i' j' = some stream'' ∧
      stream''.pid = stream'.pid := by
    rw [streamAt?_selected, hStream']
    split
    · exact ⟨_, rfl, rfl⟩
    · exact ⟨_, rfl, rfl⟩
  obtain ⟨stream'', hStream'', hPid⟩ := hSelected
  have hTables : (if Due (period pmt stream m.patPeriod) c.dts then
      (c.selected m i j pmt stream).tables else []).filter (·.pid == stream'.pid) = [] := by
    split
    · exact hPid ▸ filter_tables (h.selected c i j pmt stream) hStream''
    · rfl
  rw [WriteCall.packets, List.filter_append, hTables, List.nil_append]
  split
  · rename_i hEq
    exact List.filter_eq_self.mpr fun p hp => beq_iff_eq.mpr ((hPids p hp).trans hEq)
  · rename_i hNe
    exact List.filter_eq_nil_iff.mpr fun p hp hEq =>
      hNe ((hPids p hp).symm.trans (beq_iff_eq.mp hEq))

/-- The stream that a call has written to. -/
theorem streamOf_written {c : WriteCall} {m : TsMuxer} (h : Numbered m) {i j : Nat} {pmt : Pmt}
    {stream : Pes} (hWrote : Wrote m c i j pmt stream) (hPid : stream.pid = c.pid) :
    ((c.written m i j pmt stream).streamOf c.pid).map (·.codecId) = some stream.codecId := by
  have hStream : (c.written m i j pmt stream).streamAt? i j = some
      (counted (accessUnit (c.stamped stream) (clockPid pmt stream) c.withAud c.payload).length
        (c.stamped stream)) := by
    rw [streamAt?_written, if_pos ⟨rfl, rfl⟩, streamAt?_of hWrote.isPmt hWrote.isStream]
    rfl
  have hOf := streamOf_of (h.written c i j) hStream
  have hSame : (counted (accessUnit (c.stamped stream) (clockPid pmt stream) c.withAud
      c.payload).length (c.stamped stream)).pid = c.pid := hPid
  rw [← hSame, hOf]
  rfl

/-- The access unit of a call, read back. -/
theorem parse_accessUnit {c : WriteCall} {m : TsMuxer} (h : Numbered m) (hRange : InRange c) {j : Nat}
    {pmt : Pmt} {stream : Pes} (hWrote : Wrote m c 0 j pmt stream) (hPid : stream.pid = c.pid) :
    (gather ((accessUnit (c.stamped stream) (clockPid pmt stream) c.withAud c.payload).map
        (·.bytes))).1 = [] ∧
      (gather ((accessUnit (c.stamped stream) (clockPid pmt stream) c.withAud c.payload).map
        (·.bytes))).2.mapM parsePes = some [c.unit (c.written m 0 j pmt stream)] := by
  obtain ⟨hPayload, hPts, hDts⟩ := hRange
  have hPtsNat : (c.stamped stream).pts.toInt = (c.pts.toInt.toNat : Int) :=
    (Int.toNat_of_nonneg hPts.1).symm
  have hDtsNat : (c.stamped stream).dts.toInt = (c.dts.toInt.toNat : Int) :=
    (Int.toNat_of_nonneg hDts.1).symm
  have hClock : (c.stamped stream).clock.toInt = (c.dts.toInt.toNat : Int) :=
    (clock_stamped ⟨hPayload, hPts, hDts⟩).trans (Int.toNat_of_nonneg hDts.1).symm
  have hSame : (c.stamped stream).pid = c.pid := hPid
  have hGather := gather_accessUnit hClock (by omega) (clockPid pmt stream) c.withAud hPayload
  have hParse := parsePes_pesHeader hPtsNat hDtsNat (by omega) (by omega) c.withAud
    (if c.pid = clockPid pmt stream then some c.dts.toInt.toNat else none) c.payload
  have hPcr : (c.written m 0 j pmt stream).pcrPid = some c.pid ↔ c.pid = clockPid pmt stream := by
    rw [pcrPid_written stream hWrote.isPmt, Option.some_inj, eq_comm]
  have hAud : (((c.written m 0 j pmt stream).streamOf c.pid).map (·.codecId) =
      some PSI_STREAM_H264 ∧ !c.withAud) ↔
        (PSI_STREAM_H264 = (c.stamped stream).codecId ∧ !c.withAud) := by
    rw [streamOf_written h hWrote hPid, Option.some_inj, eq_comm]
    exact Iff.rfl
  have hUnit : c.unit (c.written m 0 j pmt stream) =
      ⟨some c.pts.toInt.toNat, some c.dts.toInt.toNat,
        if c.pid = clockPid pmt stream then some c.dts.toInt.toNat else none,
        accessUnitDelimiter (c.stamped stream) c.withAud ++ c.payload⟩ := by
    simp only [WriteCall.unit, hPcr, hAud, accessUnitDelimiter]
  rw [hGather, hSame]
  refine ⟨rfl, ?_⟩
  rw [List.mapM_cons, hParse, hUnit]
  rfl

theorem Single.written {m : TsMuxer} (h : Single m) {c : WriteCall} (hRange : InRange c)
    (i j : Nat) (pmt : Pmt) (stream : Pes) : Single (c.written m i j pmt stream) where
  one := by
    have hLength : (c.written m i j pmt stream).pat.pmt.length = m.pat.pmt.length := by
      rw [WriteCall.written, length_sent]
      unfold withTables
      split
      · exact length_selected c i j
      · exact length_selected c i j
    exact hLength ▸ h.one
  info := Kept.written ⟨fun _ _ h => h, fun _ _ _ h => h⟩ c h.info
  period := by
    rcases patPeriod_written c m i j pmt stream with hPeriod | hPeriod | hPeriod
    · exact hPeriod ▸ hRange.2.2
    · exact hPeriod ▸ period_zero
    · exact hPeriod ▸ h.period

theorem ReadsBack.written {s : Session} {log : List TsPacket} (h : ReadsBack s log)
    (hNumbered : Numbered s.muxer) {c : WriteCall} (hRange : InRange c) {i j : Nat} {pmt : Pmt}
    {stream : Pes} (hWrote : Wrote s.muxer c i j pmt stream) :
    ReadsBack (s.after (.write c) (c.written s.muxer i j pmt stream))
      (log ++ c.packets s.muxer i j pmt stream) := by
  obtain ⟨pmt', stream', rfl, hPmt, hStream, hPid⟩ := findIn_single h.single.one hWrote.found
  obtain rfl := Option.some.inj (hWrote.isPmt.symm.trans hPmt)
  obtain rfl := Option.some.inj (hWrote.isStream.symm.trans hStream)
  have hAt := streamAt?_of hPmt hStream
  have hMem : c.pid ∈ s.muxer.pids := hPid ▸ mem_pids_of_stream hAt
  have hPids := @pids_written pmt stream c s.muxer 0 j
  have hHistory : (s.after (.write c) (c.written s.muxer 0 j pmt stream)).history =
      s.history ++ [(c, c.written s.muxer 0 j pmt stream)] := by
    simp only [Session.after, Call.done, hWrote.run]
  refine ⟨h.single.written hRange .., ?_, ?_, ?_, ?_⟩
  · show s.taken ++ [] ++ (c.written s.muxer 0 j pmt stream).bytesWriter.bytes = _
    rw [bytes_written, List.append_nil, ← List.append_assoc, List.flatMap_append, ← h.output]
    rfl
  · simp only [Session.after, hPids]
    refine List.forall_mem_append.mpr ⟨h.used, List.forall_mem_append.mpr ⟨fun p hp => ?_, ?_⟩⟩
    · split at hp
      · refine (mem_tables hp).imp id ?_
        rintro ⟨k, hk⟩
        rw [programAt?_selected] at hk
        exact mem_pids_of_program hk
      · cases hp
    · exact fun p hp => .inr (((accessUnit_counted _ _ _ _).pids p hp).trans hPid ▸ hMem)
  · rw [hHistory]
    simp only [Session.after, hPids]
    exact List.forall_mem_append.mpr ⟨h.past, List.forall_mem_singleton.mpr hMem⟩
  · intro i' j' stream' hStream'
    obtain ⟨old, hOld, hOldPid⟩ : ∃ old, s.muxer.streamAt? i' j' = some old ∧
        old.pid = stream'.pid := by
      change (c.written s.muxer 0 j pmt stream).streamAt? i' j' = _ at hStream'
      rw [streamAt?_written] at hStream'
      split at hStream'
      · obtain ⟨old, hOld, rfl⟩ := Option.map_eq_some_iff.mp hStream'
        exact ⟨old, hOld, rfl⟩
      · exact ⟨stream', hStream', rfl⟩
    have hOldUnits := h.units i' j' old hOld
    unfold Session.units
    rw [← hOldPid, List.filter_append, List.map_append, filter_packets hNumbered hOld, hHistory,
      List.filter_append, List.map_append]
    by_cases hEq : stream.pid = old.pid
    · obtain ⟨hFirst, hSecond⟩ := parse_accessUnit hNumbered hRange hWrote hPid
      have hCall : c.pid = old.pid := hPid.symm.trans hEq
      rw [if_pos hEq, gather_append _ hFirst, List.mapM_append, hOldUnits, hSecond]
      simp only [List.filter_cons, hCall, beq_self_eq_true, if_true, List.filter_nil, List.map_cons,
        List.map_nil]
      rfl
    · have hCall : (c.pid == old.pid) = false := beq_eq_false_iff_ne.mpr (hPid ▸ hEq)
      rw [if_neg hEq, List.map_nil, List.append_nil, hOldUnits]
      simp only [List.filter_cons, hCall, Bool.false_eq_true, if_false, List.filter_nil, List.map_nil,
        List.append_nil]
      rfl

/-! ### Whole runs -/

theorem ReadsBack.reset {s : Session} {log : List TsPacket} (h : ReadsBack s log) :
    ReadsBack { s with muxer := s.muxer.reset } log :=
  ⟨⟨h.single.one, h.single.info, period_zero⟩, h.output, h.used, h.past, h.units⟩

theorem ReadsBack.taken {s : Session} {log : List TsPacket} (h : ReadsBack s log) :
    ReadsBack { s with muxer := s.muxer.getData.2, taken := s.taken ++ s.muxer.getData.1 } log :=
  ⟨⟨h.single.one, h.single.info, h.single.period⟩, (List.append_nil _).trans h.output, h.used,
    h.past, h.units⟩

theorem ReadsBack.missed {s : Session} {log : List TsPacket} (h : ReadsBack s log) (withAud : Bool) :
    ReadsBack { s with muxer := s.muxer.missed withAud } log :=
  ⟨⟨h.single.one, h.single.info, h.single.period⟩, h.output, h.used, h.past, h.units⟩

theorem ReadsBack.givesBack {s : Session} {log : List TsPacket} (h : ReadsBack s log)
    (hSmall : Limited s.muxer) (hNumbered : Numbered s.muxer) : GivesBack s := by
  have hPids : ∀ p ∈ log, p.pid.toNat < 0x2000 := by
    intro p hp
    rcases h.used p hp with hZero | hMem
    · rw [hZero]
      decide
    · have hRange := (hNumbered.range _ hMem).2
      have hNext := hNumbered.next
      have hLength := hNumbered.length_le hSmall
      omega
  intro pid hStream
  obtain ⟨stream, hStream⟩ := Option.isSome_iff_exists.mp hStream
  obtain ⟨i, j, hAt, rfl⟩ := exists_streamAt hStream
  rw [h.output, demux_flatMap _ hPids]
  exact h.units i j stream hAt

/-- In every run of `add_stream` and of `write` to the streams, where the lengths fit, each stream is
read back as it was written, and no call of `write` fails. -/
theorem demux_undoes_write {s : Session} (h : (muxer.guard OneProgram).Reached s) :
    GivesBack s ∧ ∀ c, OneProgram s (.write c) → ∃ m, c.run s.muxer = .ok () m := by
  obtain ⟨hSmall, hNumbered, log, hLog⟩ := reached_invariant
    (I := fun s => Numbered s.muxer ∧ ∃ log, ReadsBack s log)
    (fun s call _ ⟨hNumbered, log, hs⟩ hCall => by
      cases call with
      | write c => exact hs.single.fits hNumbered hCall.1.1 hCall.2
      | _ => trivial) ⟨.new, [], .new⟩
    (fun s programNumber info hSmall ⟨hNumbered, log, hs⟩ hRoom hCall => by
      obtain ⟨hEmpty, rfl, rfl⟩ := hCall.resolve_left id
      exact ⟨hNumbered.withProgram hSmall 1 [], log, hs.withProgram hEmpty⟩)
    (fun s i pmt codecid hSmall ⟨hNumbered, log, hs⟩ hPmt hRoom =>
      ⟨hNumbered.withStream hSmall codecid hPmt hRoom, log, hs.withStream hNumbered codecid hPmt⟩)
    (fun s ⟨hNumbered, log, hs⟩ => ⟨hNumbered.same rfl rfl hNumbered.streams, log, hs.reset⟩)
    (fun s ⟨hNumbered, log, hs⟩ => ⟨hNumbered.same rfl rfl hNumbered.streams, log, hs.taken⟩)
    (fun s withAud ⟨hNumbered, log, hs⟩ =>
      ⟨hNumbered.same rfl rfl hNumbered.streams, log, hs.missed withAud⟩)
    (fun s c i j pmt stream hSmall ⟨hNumbered, log, hs⟩ hCall hWrote =>
      ⟨hNumbered.written c i j, _, hs.written hNumbered hCall.1.1 hWrote⟩) h
  refine ⟨hLog.givesBack hSmall hNumbered, fun c hCall => ?_⟩
  obtain ⟨stream, hStream⟩ := Option.isSome_iff_exists.mp hCall.1.2
  obtain ⟨i, j, hFind⟩ := findIn_isSome hStream
  obtain ⟨pmt, stream', hPmt, hAt, hPeriod, hTables, hUnit⟩ :=
    hLog.single.fits hNumbered hCall.1.1 hCall.2 i j hFind
  exact ⟨_, run_ok hSmall hFind hPmt hAt hPeriod hTables hUnit⟩

theorem oneProgram_oneStream :
    OneProgram ⟨oneStream, [], 0, []⟩ (.write ⟨0x101, 9000, 9000, 1, [1, 2, 3]⟩) := by
  refine ⟨⟨by decide, by decide⟩, fun i j pmt stream hFind hPmt hStream => ?_⟩
  obtain ⟨rfl, rfl⟩ := Prod.mk.inj (Option.some.inj hFind)
  obtain rfl := Option.some.inj hPmt
  obtain rfl := Option.some.inj hStream
  decide

/-- The first call to a muxer with one stream. -/
theorem demux_undoes_write_oneStream :
    ∃ m, (Call.write ⟨0x101, 9000, 9000, 1, [1, 2, 3]⟩).effect oneStream = some m ∧
      GivesBack (Session.after ⟨oneStream, [], 0, []⟩ (.write ⟨0x101, 9000, 9000, 1, [1, 2, 3]⟩)
        m) := by
  have hSmall : Limited oneStream := ⟨by decide, by decide, by decide⟩
  obtain ⟨m, hEffect⟩ := effect_of_fits hSmall fits_oneStream
  exact ⟨m, hEffect, (demux_undoes_write ⟨.new, [.addStream PSI_STREAM_H264, _], rfl,
    .cons ⟨trivial, oneStream, rfl, rfl⟩
      (.cons ⟨oneProgram_oneStream, m, hEffect, rfl⟩ (.nil _))⟩).1⟩

/-- `add_stream` returns the pid of a stream. -/
theorem streamOf_addStream {m m' : TsMuxer} {codecid : UInt8} {pid : UInt16} (hSmall : Limited m)
    (hNumbered : Numbered m) (h : TsMuxer.addStream codecid m = .ok pid m') :
    (m'.streamOf pid).isSome := by
  obtain ⟨_, m1, hFirst, hSecond⟩ := bind_eq_ok h
  have hNumbered1 : Limited m1 ∧ Numbered m1 := by
    rcases @firstProgram_returned m m1 (by rw [hFirst]; rfl) with rfl | ⟨hEmpty, rfl⟩
    · exact ⟨hSmall, hNumbered⟩
    · have hRoom : m.pat.pmt.length ≠ 4 := by
        rw [hEmpty]
        decide
      exact ⟨hSmall.withProgram hRoom 1 [], hNumbered.withProgram hSmall 1 []⟩
  unfold TsMuxer.pmtAddStream at hSecond
  split at hSecond
  · cases hSecond
  · rename_i pmt hPmt
    split at hSecond
    · cases hSecond
    · rename_i hRoom
      obtain ⟨rfl, rfl⟩ := EStateM.Result.ok.inj hSecond
      have hAt : (m1.withStream 0 pmt codecid).streamAt? 0 pmt.streams.length =
          some (newStream m1.pid codecid) := by
        rw [streamAt?_withStream hPmt, if_pos ⟨rfl, rfl⟩]
      have hOf := streamOf_of (hNumbered1.2.withStream hNumbered1.1 codecid hPmt hRoom) hAt
      exact Option.isSome_iff_exists.mpr ⟨_, hOf⟩

/-! ### An access unit of 2 GiB -/

/-- The length of the stuffing overflows. -/
theorem fillUp_overflows {tsHeader : BytesWriter} {pesHeaderLength n : Nat}
    (hLong : 2 ^ 31 ≤ tsHeader.len + pesHeaderLength + n)
    (hShort : tsHeader.len + pesHeaderLength + n ≤ 2 ^ 31 + TS_PACKET_SIZE) :
    fillUp tsHeader pesHeaderLength n = .error .panic := by
  have hSize : TS_PACKET_SIZE = 188 := rfl
  have hCast : asI32 (tsHeader.len + pesHeaderLength + n) =
      (tsHeader.len + pesHeaderLength + n : Nat) - 2 ^ 32 := by
    unfold asI32
    rw [Int.bmod_def]
    omega
  unfold fillUp
  simp only [hCast]
  exact if_pos (by omega)

theorem writePes_overflows {m : TsMuxer} {pmt : Pmt} {stream : Pes}
    (hPmt : m.curPmt? = some pmt) (hStream : m.curStream? = some stream)
    (hPcr : stream.pid = pmt.pcrPid → PcrFits stream) {payload : List UInt8}
    (hPayload : payload.length = 2 ^ 31) : ∃ m', writePes payload m = .error .panic m' := by
  have hSize : TS_PACKET_SIZE = 188 := rfl
  have hField := length_startField stream pmt.pcrPid
  have hHeader := length_pesHeader payload.length stream m.h264H265WithAud
  have hFill : fillUp ⟨headerBytes 0x47 (TsPacket.startByte true stream.pid) stream.pid.toUInt8
      ((0x10 : UInt8) ||| stream.continuityCounter &&& 0x0F) (baseField true stream pmt.pcrPid)⟩
      (baseHead true payload.length stream m.h264H265WithAud).length payload.length =
      .error .panic := by
    apply fillUp_overflows
    · omega
    · simp only [BytesWriter.len, length_headerBytes, baseField, baseHead, if_true]
      omega
  have hPacket : pesPacket true payload.length m =
      .error .panic (m.modifyStream (counted 1)) := by
    refine (bind_of_ok (pesHeaderFor_ok hStream true payload.length)).trans (bind_of_error ?_)
    refine (bind_of_ok (curPmt_of hPmt)).trans ((bind_of_ok (curStream_of hStream)).trans ?_)
    rw [bind_modify]
    refine (bind_ofExcept_ok (startHeader_ok true _ _ _ _ fun _ => hPcr)).trans ?_
    exact congrArg (ofExcept · (m.modifyStream (counted 1))) hFill
  have hTurn : pesTurn true ⟨m, ⟨payload⟩⟩ =
      .error .panic ⟨m.modifyStream (counted 1), ⟨payload⟩⟩ := by
    refine pesTurn_error ?_ hPacket
    show ¬payload.length = 0
    omega
  refine ⟨m.modifyStream (counted 1), ?_⟩
  unfold writePes
  rw [loopM_error hTurn]

/-- An access unit of 2 GiB panics. -/
theorem long_panics : ∃ s, ∃ c : WriteCall, (muxer.guard ToStreams).Reached s ∧
    ToStreams s (.write c) ∧ (Call.write c).effect s.muxer = none := by
  refine ⟨⟨oneStream, [], 0, []⟩, ⟨0x101, 0, 0, 0, List.replicate (2 ^ 31) 0⟩,
    ⟨.new, [.addStream PSI_STREAM_H264], rfl, .cons ⟨trivial, oneStream, rfl, rfl⟩ (.nil _)⟩, ?_, ?_⟩
  · refine ⟨⟨fun h => ?_, by decide, by decide⟩, by decide⟩
    have hLength := congrArg List.length h
    rw [List.length_replicate] at hLength
    cases hLength
  · generalize hPayload : List.replicate (2 ^ 31) (0 : UInt8) = payload
    have hLength : payload.length = 2 ^ 31 := by
      rw [← hPayload, List.length_replicate]
    have hSmall : Limited oneStream := ⟨by decide, by decide, by decide⟩
    have hRun := run_found (c := ⟨0x101, 0, 0, 0, payload⟩) hSmall rfl rfl rfl (.inl rfl)
      fun _ => by decide
    obtain ⟨⟨pmt', hPmt', hClock⟩, hStream', -⟩ :=
      current_withTables (m := oneStream) (c := ⟨0x101, 0, 0, 0, payload⟩) (i := 0) (j := 0) rfl rfl
    have hPcr : PcrFits ((⟨0x101, 0, 0, 0, payload⟩ : WriteCall).stamped
        (newStream 0x101 PSI_STREAM_H264)) :=
      (by decide : -2 ^ 63 ≤ (0 : Int64).toInt * 300 ∧ (0 : Int64).toInt * 300 < 2 ^ 63)
    obtain ⟨m', hPanic⟩ := writePes_overflows hPmt' hStream' (fun _ => hPcr) hLength
    show returned (WriteCall.run ⟨0x101, 0, 0, 0, payload⟩ oneStream) = none
    rw [hRun, hPanic]
    rfl

end Xiu.Mpegts
