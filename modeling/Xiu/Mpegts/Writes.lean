import Xiu.Mpegts.Output

/-! What a call of `write` does: the state that it selects, when the tables are due, and the packets
that it appends when nothing overflows. -/

namespace Xiu.Mpegts

open Bytesio ProofKit

namespace TsMuxer

variable {m : TsMuxer} {pmt : Pmt} {stream : Pes}

/-! ### The tables -/

theorem checkedSub_ok {n k : Nat} (hk : k ≤ n) (hn : n < 256) :
    checkedSub (UInt8.ofNat n) (UInt8.ofNat k) = .ok (UInt8.ofNat (n - k)) := by
  have hNot : ¬UInt8.ofNat n < UInt8.ofNat k := by
    rw [UInt8.lt_iff_toNat_lt, UInt8.toNat_ofNat', UInt8.toNat_ofNat']
    omega
  refine (if_neg hNot).trans (congrArg Except.ok (UInt8.toNat_inj.mp ?_))
  rw [UInt8.toNat_sub_of_le _ _ (UInt8.not_lt.mp hNot), UInt8.toNat_ofNat', UInt8.toNat_ofNat',
    UInt8.toNat_ofNat']
  omega

theorem bytes_tablePacket (pid : UInt16) {table : List UInt8} {continuityCounter : UInt8}
    (hTable : table.length ≤ 183) (hCounter : continuityCounter < 16) :
    (tablePacket pid table continuityCounter).bytes =
      ([0x47, (0x40 : UInt8) ||| (pid >>> 8).toUInt8 &&& 0x1F, pid.toUInt8,
        (0x10 : UInt8) ||| continuityCounter, 0x00] : List UInt8) ++ table ++
        List.replicate (183 - table.length) 0xFF := by
  have hMask : ∀ b : UInt8, b < 16 → b &&& 0x0F = b := forall_byte (by decide +kernel)
  have hTake : (0x00 :: (table ++ List.replicate 183 0xFF) : List UInt8).take 184 =
      0x00 :: (table ++ List.replicate (183 - table.length) 0xFF) := by
    rw [List.take_succ_cons, List.take_append, List.take_of_length_le hTable, List.take_replicate,
      Nat.min_eq_left (by omega)]
  simp only [TsPacket.bytes, tablePacket, TsPacket.startByte, if_true, hMask _ hCounter,
    headerBytes, Option.isSome_none, Bool.false_eq_true, if_false, fieldBytes, List.cons_append,
    List.nil_append, hTake, TS_PAYLOAD_UNIT_START_INDICATOR, UInt8.or_comm _ (0x40 : UInt8)]

theorem writeTsHeaderForPatPmt_ok (pid : UInt16) {table : List UInt8} {continuityCounter : UInt8}
    (hTable : table.length ≤ 183) (hCounter : continuityCounter < 16) (m : TsMuxer) :
    writeTsHeaderForPatPmt pid table continuityCounter m =
      .ok () (m.append (tablePacket pid table continuityCounter).bytes) := by
  have hLeft : checkedSub (UInt8.ofNat TS_PACKET_SIZE) (UInt8.ofNat table.length) =
      .ok (UInt8.ofNat (188 - table.length)) :=
    checkedSub_ok (Nat.le_trans hTable (by decide)) (by decide)
  have hFill : checkedSub (UInt8.ofNat (188 - table.length)) (UInt8.ofNat 5) =
      .ok (UInt8.ofNat (188 - table.length - 5)) := checkedSub_ok (by omega) (by omega)
  have hCount : (UInt8.ofNat (188 - table.length - 5)).toNat = 183 - table.length := by
    rw [UInt8.toNat_ofNat']
    omega
  unfold writeTsHeaderForPatPmt
  rw [bind_modify, bind_modify]
  refine (bind_ofExcept_ok hLeft).trans ((bind_ofExcept_ok hFill).trans ?_)
  rw [modify_apply, append_append, append_append, bytes_tablePacket pid hTable hCounter, hCount,
    List.append_assoc]

/-- The section of a program, where it fits a packet. -/
theorem write_table (h : pmt.sectionLen ≤ 183) :
    pmt.write = .ok pmt.table ∧ pmt.table.length ≤ 183 := by
  obtain ⟨bytes, hWrite, hLength⟩ := write_pmt h
  have hTable : pmt.table = bytes := by
    unfold Pmt.table
    rw [hWrite]
    rfl
  rw [hTable]
  exact ⟨hWrite, by omega⟩

theorem nextCounter_lt (continuityCounter : UInt8) : nextCounter continuityCounter < 16 := by
  have hAll : ∀ b : UInt8, b % 16 < 16 := forall_byte (by decide +kernel)
  exact hAll _

/-- The tables as the muxer would send them. -/
def tables (m : TsMuxer) : List TsPacket :=
  tablePacket PAT_TID_PAS m.pat.write m.patContinuityCounter ::
    pmtPackets m.pat.pmt m.pmtContinuityCounter

/-- The state after the tables have been sent. -/
def announced (m : TsMuxer) : TsMuxer :=
  { m.append (m.tables.flatMap (·.bytes)) with
    patContinuityCounter := nextCounter m.patContinuityCounter
    pmtContinuityCounter := nextCounter^[m.pat.pmt.length] m.pmtContinuityCounter }

theorem writePmts_ok {pmts : List Pmt} (h : ∀ pmt ∈ pmts, pmt.sectionLen ≤ 183)
    (hCounter : m.pmtContinuityCounter < 16) :
    writePmts pmts m = .ok ()
      { m.append ((pmtPackets pmts m.pmtContinuityCounter).flatMap (·.bytes)) with
        pmtContinuityCounter := nextCounter^[pmts.length] m.pmtContinuityCounter } := by
  induction pmts generalizing m with
  | nil =>
    rw [pmtPackets, List.flatMap_nil, append_nil]
    rfl
  | cons pmt rest ih =>
    obtain ⟨hWrite, hLength⟩ := write_table (h pmt List.mem_cons_self)
    unfold writePmts
    refine (bind_ofExcept_ok hWrite).trans ?_
    rw [bind_get]
    refine (bind_of_ok (writeTsHeaderForPatPmt_ok _ hLength hCounter m)).trans ?_
    rw [bind_modify]
    refine (ih (fun pmt hPmt => h pmt (List.mem_cons_of_mem _ hPmt)) (nextCounter_lt _)).trans ?_
    simp only [append, BytesWriter.write, pmtPackets, List.flatMap_cons, List.append_assoc,
      List.length_cons, Function.iterate_succ_apply]
    rfl

/-- The tables are sent when there is room for them. -/
theorem writePatPmt_ok (hPmts : m.pat.pmt.length ≤ 4)
    (hTables : ∀ pmt ∈ m.pat.pmt, pmt.sectionLen ≤ 183) (hPat : m.patContinuityCounter < 16)
    (hPmt : m.pmtContinuityCounter < 16) : writePatPmt m = .ok () m.announced := by
  have hLength : m.pat.write.length ≤ 183 := by
    rw [length_pat]
    omega
  unfold writePatPmt
  rw [bind_get, bind_get]
  refine (bind_of_ok (writeTsHeaderForPatPmt_ok _ hLength hPat m)).trans ?_
  rw [bind_modify, bind_get]
  refine (writePmts_ok hTables ?_).trans ?_
  · exact hPmt
  simp only [append, BytesWriter.write, announced, tables, List.flatMap_cons, List.append_assoc]
  rfl

/-! ### A call -/

/-- The arguments of `write`. -/
structure WriteCall where
  pid : UInt16
  pts : Int64
  dts : Int64
  flags : UInt16
  payload : List UInt8
  deriving DecidableEq

namespace WriteCall

variable (c : WriteCall)

def run : Mux Unit := write c.pid c.pts c.dts c.flags c.payload

/-- Whether the access unit has its own delimiter. -/
def withAud : Bool := c.flags &&& MPEG_FLAG_H264_H265_WITH_AUD > 0

/-- The stream with what the call tells. -/
def stamped (stream : Pes) : Pes := setStamps c.pts c.dts c.flags stream

/-- The state in which a stream has been found, as the current one. -/
def located (m : TsMuxer) (pmtIndex streamIndex : Nat) : TsMuxer :=
  { m with h264H265WithAud := c.withAud, curPmtIndex := pmtIndex, curStreamIndex := streamIndex }

/-- The state before the tables and the access unit are written. -/
def selected (m : TsMuxer) (pmtIndex streamIndex : Nat) (pmt : Pmt) (stream : Pes) : TsMuxer :=
  (takeClock pmt stream (c.located m pmtIndex streamIndex)).modifyStream c.stamped

end WriteCall

/-- The pid of the clock reference when a stream is written. -/
def clockPid (pmt : Pmt) (stream : Pes) : UInt16 :=
  if TakesClock pmt stream then stream.pid else pmt.pcrPid

/-- The time of the last tables, or 0 where they are due for a new clock reference. -/
def period (pmt : Pmt) (stream : Pes) (patPeriod : Int64) : Int64 :=
  if TakesClock pmt stream then 0 else patPeriod

/-- The tables are due. -/
def Due (period dts : Int64) : Prop := period = 0 ∨ period.toInt + PAT_PERIOD ≤ dts.toInt

instance (period dts : Int64) : Decidable (Due period dts) := inferInstanceAs (Decidable (_ ∨ _))

/-- The time of the next tables fits `i64`. -/
def PeriodFits (period : Int64) : Prop := period = 0 ∨ period.toInt + PAT_PERIOD < 2 ^ 63

instance (period : Int64) : Decidable (PeriodFits period) := inferInstanceAs (Decidable (_ ∨ _))

/-- The clock reference fits `i64` where there is one, and the length of the access unit with its headers
fits `i32`. -/
def UnitFits (stream : Pes) (pcrPid : UInt16) (withAud : Bool) (payload : List UInt8) : Prop :=
  (stream.pid = pcrPid → PcrFits stream) ∧
    4 + (fieldBytes (startField stream pcrPid)).length +
      (pesHeader payload.length stream withAud).length + payload.length < 2 ^ 31

instance (stream : Pes) (pcrPid : UInt16) (withAud : Bool) (payload : List UInt8) :
    Decidable (UnitFits stream pcrPid withAud payload) := inferInstanceAs (Decidable (_ ∧ _))

/-- The time of the last tables. -/
def dated (m : TsMuxer) (dts : Int64) : TsMuxer := { m with patPeriod := dts }

/-- The tables, when they are due. -/
def withTables (dts : Int64) (m : TsMuxer) : TsMuxer :=
  if Due m.patPeriod dts then (m.dated dts).announced else m

theorem patPmtDue_ok {dts : Int64} (h : PeriodFits m.patPeriod) :
    patPmtDue dts m = .ok (decide (Due m.patPeriod dts)) m := by
  have hNonneg : -2 ^ 63 ≤ m.patPeriod.toInt := Int64.le_toInt _
  have hPeriod : PAT_PERIOD = 36000 := rfl
  unfold patPmtDue
  by_cases hZero : m.patPeriod = 0
  · rw [if_pos hZero, decide_eq_true (show Due m.patPeriod dts from Or.inl hZero)]
  · have hLt := h.resolve_left hZero
    have hIff : Int64.ofInt (m.patPeriod.toInt + PAT_PERIOD) ≤ dts ↔ Due m.patPeriod dts := by
      rw [Int64.le_iff_toInt_le, Int64.toInt_ofInt_of_le (by omega) hLt]
      exact ⟨Or.inr, fun h => h.resolve_left hZero⟩
    rw [if_neg hZero, checkedI64_ok ⟨by omega, hLt⟩]
    simp only [hIff]

theorem mem_modify {α : Type} {l : List α} {i : Nat} {f : α → α} {a : α}
    (h : a ∈ l.modify i f) : a ∈ l ∨ ∃ b ∈ l, a = f b := by
  obtain ⟨j, hj⟩ := List.mem_iff_getElem?.mp h
  rw [List.getElem?_modify] at hj
  cases hGet : l[j]? with
  | none => simp [hGet] at hj
  | some b =>
    rw [hGet] at hj
    have hMem := List.mem_iff_getElem?.mpr ⟨j, hGet⟩
    split at hj
    · exact .inr ⟨b, hMem, (Option.some.inj hj).symm⟩
    · exact .inl (Option.some.inj hj ▸ hMem)

theorem forall_modifyPmt {P : Pmt → Prop} {f : Pmt → Pmt} (hf : ∀ pmt, P pmt → P (f pmt))
    (h : ∀ pmt ∈ m.pat.pmt, P pmt) : ∀ pmt ∈ (m.modifyPmt f).pat.pmt, P pmt := by
  intro pmt hPmt
  rcases mem_modify hPmt with hPmt | ⟨pmt', hPmt', rfl⟩
  · exact h pmt hPmt
  · exact hf pmt' (h pmt' hPmt')

/-- A property of programs that neither a new clock reference nor a change of a stream can break. -/
structure Kept (P : Pmt → Prop) : Prop where
  clock : ∀ pmt pcrPid, P pmt → P { pmt with pcrPid }
  stream : ∀ pmt j f, P pmt → P { pmt with streams := pmt.streams.modify j f }

theorem Kept.selected {P : Pmt → Prop} (hP : Kept P) (c : WriteCall) {i j : Nat}
    (h : ∀ pmt ∈ m.pat.pmt, P pmt) : ∀ pmt' ∈ (c.selected m i j pmt stream).pat.pmt, P pmt' := by
  refine forall_modifyPmt (fun pmt => hP.stream pmt _ _) ?_
  unfold takeClock
  split
  · exact forall_modifyPmt (m := c.located m i j) (fun pmt => hP.clock pmt _) h
  · exact h

theorem kept_sectionLen (n : Nat) : Kept fun pmt => pmt.sectionLen ≤ n where
  clock _ _ h := h
  stream pmt j f h := by
    simpa only [Pmt.sectionLen, Pmt.writtenInfo, List.length_modify] using h

theorem kept_streams (n : Nat) : Kept fun pmt => pmt.streams.length ≤ n where
  clock _ _ h := h
  stream pmt j f h := by simpa only [List.length_modify] using h

theorem length_selected (c : WriteCall) (i j : Nat) :
    (c.selected m i j pmt stream).pat.pmt.length = m.pat.pmt.length := by
  unfold WriteCall.selected takeClock
  split
  · simp only [modifyStream, modifyPmt, List.length_modify, WriteCall.located]
  · simp only [modifyStream, modifyPmt, List.length_modify, WriteCall.located]

section Found

variable {c : WriteCall} {i j : Nat} (hPmt : m.pat.pmt[i]? = some pmt)
  (hStream : pmt.streams[j]? = some stream)

include hPmt

theorem curPmt?_takeClock :
    (takeClock pmt stream (c.located m i j)).curPmt? =
      some { pmt with pcrPid := clockPid pmt stream } := by
  unfold takeClock clockPid
  split
  · exact (curPmt?_modifyPmt (c.located m i j) _).trans (congrArg _ hPmt)
  · exact hPmt

include hStream

theorem curStream?_takeClock :
    (takeClock pmt stream (c.located m i j)).curStream? = some stream := by
  have hIndex : (takeClock pmt stream (c.located m i j)).curStreamIndex = j := by
    unfold takeClock
    split
    · rfl
    · rfl
  unfold curStream?
  rw [curPmt?_takeClock hPmt, hIndex]
  exact hStream

theorem curStream?_selected :
    (c.selected m i j pmt stream).curStream? = some (c.stamped stream) :=
  (curStream?_modifyStream _ _).trans (congrArg _ (curStream?_takeClock hPmt hStream))

omit hStream

theorem curPmt?_selected :
    ∃ pmt', (c.selected m i j pmt stream).curPmt? = some pmt' ∧
      pmt'.pcrPid = clockPid pmt stream :=
  ⟨_, (curPmt?_modifyPmt _ _).trans (congrArg _ (curPmt?_takeClock hPmt)), rfl⟩

end Found

theorem patPeriod_selected (c : WriteCall) (i j : Nat) :
    (c.selected m i j pmt stream).patPeriod = period pmt stream m.patPeriod := by
  show (takeClock pmt stream (c.located m i j)).patPeriod = _
  unfold takeClock period
  split
  · rfl
  · rfl

theorem patCounter_selected (c : WriteCall) (m : TsMuxer) (i j : Nat) :
    (c.selected m i j pmt stream).patContinuityCounter = m.patContinuityCounter := by
  unfold WriteCall.selected takeClock
  split
  · rfl
  · rfl

theorem pmtCounter_selected (c : WriteCall) (m : TsMuxer) (i j : Nat) :
    (c.selected m i j pmt stream).pmtContinuityCounter = m.pmtContinuityCounter := by
  unfold WriteCall.selected takeClock
  split
  · rfl
  · rfl

theorem bytes_selected (c : WriteCall) (m : TsMuxer) (i j : Nat) :
    (c.selected m i j pmt stream).bytesWriter = m.bytesWriter := by
  unfold WriteCall.selected takeClock
  split
  · rfl
  · rfl

theorem length_sent (m : TsMuxer) (packets : List TsPacket) :
    (m.sent packets).pat.pmt.length = m.pat.pmt.length := by
  simp only [sent, append, modifyStream, modifyPmt, List.length_modify]

/-- What holds of the muxer at any time: there are at most four programs, and the counters of the tables
are of four bits. -/
structure Limited (m : TsMuxer) : Prop where
  programs : m.pat.pmt.length ≤ 4
  patCounter : m.patContinuityCounter < 16
  pmtCounter : m.pmtContinuityCounter < 16

theorem Limited.selected (h : Limited m) (c : WriteCall) (i j : Nat) :
    Limited (c.selected m i j pmt stream) where
  programs := (length_selected c i j).symm ▸ h.programs
  patCounter := (patCounter_selected c m i j).symm ▸ h.patCounter
  pmtCounter := (pmtCounter_selected c m i j).symm ▸ h.pmtCounter

theorem writePatPmtIfDue_ok {dts : Int64} (hSmall : Limited m) (hPeriod : PeriodFits m.patPeriod)
    (hTables : Due m.patPeriod dts → ∀ pmt ∈ m.pat.pmt, pmt.sectionLen ≤ 183) :
    writePatPmtIfDue dts m = .ok () (withTables dts m) := by
  refine (bind_of_ok (patPmtDue_ok hPeriod)).trans ?_
  unfold withTables
  by_cases hDue : Due m.patPeriod dts
  · rw [decide_eq_true hDue, if_pos rfl, if_pos hDue, bind_modify]
    exact writePatPmt_ok hSmall.programs (hTables hDue) hSmall.patCounter hSmall.pmtCounter
  · rw [decide_eq_false hDue, if_neg Bool.false_ne_true, if_neg hDue]
    rfl

theorem curPmt?_withTables (dts : Int64) (m : TsMuxer) :
    (withTables dts m).curPmt? = m.curPmt? := by
  unfold withTables
  split
  · rfl
  · rfl

theorem curStream?_withTables (dts : Int64) (m : TsMuxer) :
    (withTables dts m).curStream? = m.curStream? := by
  unfold withTables
  split
  · rfl
  · rfl

theorem withAud_withTables (dts : Int64) (m : TsMuxer) :
    (withTables dts m).h264H265WithAud = m.h264H265WithAud := by
  unfold withTables
  split
  · rfl
  · rfl

theorem withAud_selected (c : WriteCall) (m : TsMuxer) (i j : Nat) :
    (c.selected m i j pmt stream).h264H265WithAud = c.withAud := by
  unfold WriteCall.selected takeClock
  split
  · rfl
  · rfl

/-- The state after the tables, when they are due, and the packets of the access unit. -/
def WriteCall.written (c : WriteCall) (m : TsMuxer) (i j : Nat) (pmt : Pmt) (stream : Pes) :
    TsMuxer :=
  (withTables c.dts (c.selected m i j pmt stream)).sent
    (accessUnit (c.stamped stream) (clockPid pmt stream) c.withAud c.payload)

/-- The packets of a call: the tables, when they are due, and the access unit. -/
def WriteCall.packets (c : WriteCall) (m : TsMuxer) (i j : Nat) (pmt : Pmt) (stream : Pes) :
    List TsPacket :=
  (if Due (period pmt stream m.patPeriod) c.dts then (c.selected m i j pmt stream).tables else []) ++
    accessUnit (c.stamped stream) (clockPid pmt stream) c.withAud c.payload

/-- What a call has written. -/
theorem bytes_written (c : WriteCall) (m : TsMuxer) (i j : Nat) :
    (c.written m i j pmt stream).bytesWriter.bytes =
      m.bytesWriter.bytes ++ (c.packets m i j pmt stream).flatMap (·.bytes) := by
  have hTables : (withTables c.dts (c.selected m i j pmt stream)).bytesWriter.bytes =
      m.bytesWriter.bytes ++ (if Due (period pmt stream m.patPeriod) c.dts then
        (c.selected m i j pmt stream).tables else []).flatMap (·.bytes) := by
    unfold withTables
    rw [patPeriod_selected]
    split
    · show (c.selected m i j pmt stream).bytesWriter.bytes ++ _ = _
      rw [bytes_selected]
      rfl
    · rw [bytes_selected, List.flatMap_nil, List.append_nil]
  show (withTables c.dts (c.selected m i j pmt stream)).bytesWriter.bytes ++ _ = _
  rw [hTables, WriteCall.packets, List.flatMap_append, List.append_assoc]

theorem Kept.written {P : Pmt → Prop} (hP : Kept P) (c : WriteCall) {i j : Nat}
    (h : ∀ pmt ∈ m.pat.pmt, P pmt) : ∀ pmt' ∈ (c.written m i j pmt stream).pat.pmt, P pmt' := by
  refine forall_modifyPmt (fun pmt => hP.stream pmt _ _) ?_
  show ∀ pmt' ∈ (withTables c.dts (c.selected m i j pmt stream)).pat.pmt, P pmt'
  unfold withTables
  split
  · exact hP.selected c h
  · exact hP.selected c h

/-- A call to a stream that is found goes on with the state that it has selected. -/
theorem run_selected {c : WriteCall} {i j : Nat} (hFind : findIn c.pid m.pat.pmt 0 0 = some (i, j))
    (hPmt : m.pat.pmt[i]? = some pmt) (hStream : pmt.streams[j]? = some stream) :
    c.run m =
      (writePatPmtIfDue c.dts >>= fun _ => writePes c.payload) (c.selected m i j pmt stream) := by
  have hFound : findStream c.pid { m with h264H265WithAud := c.withAud } =
      .ok () (c.located m i j) := by
    unfold findStream
    rw [hFind]
    rfl
  have hCurPmt : (c.located m i j).curPmt? = some pmt := hPmt
  have hCurStream : (c.located m i j).curStream? = some stream := by
    unfold curStream?
    rw [hCurPmt]
    exact hStream
  unfold WriteCall.run write
  rw [bind_modify]
  refine (bind_of_ok hFound).trans ?_
  refine (bind_of_ok (curPmt_of hCurPmt)).trans ((bind_of_ok (curStream_of hCurStream)).trans ?_)
  rw [bind_modify, bind_modify]
  rfl

/-- A call to a stream that is found writes the tables when they are due, and then the access unit. -/
theorem run_found {c : WriteCall} {i j : Nat} (hSmall : Limited m)
    (hFind : findIn c.pid m.pat.pmt 0 0 = some (i, j)) (hPmt : m.pat.pmt[i]? = some pmt)
    (hStream : pmt.streams[j]? = some stream)
    (hPeriod : PeriodFits (period pmt stream m.patPeriod))
    (hTables : Due (period pmt stream m.patPeriod) c.dts →
      ∀ pmt ∈ m.pat.pmt, pmt.sectionLen ≤ 183) :
    c.run m = writePes c.payload (withTables c.dts (c.selected m i j pmt stream)) := by
  have hDue := @writePatPmtIfDue_ok _ c.dts (hSmall.selected c i j)
    ((patPeriod_selected c i j).symm ▸ hPeriod)
    (fun h => (kept_sectionLen 183).selected c (hTables (patPeriod_selected (m := m) c i j ▸ h)))
  rw [run_selected hFind hPmt hStream]
  exact bind_of_ok hDue

/-- The current program and stream when the access unit is written. -/
theorem current_withTables {c : WriteCall} {i j : Nat} (hPmt : m.pat.pmt[i]? = some pmt)
    (hStream : pmt.streams[j]? = some stream) :
    (∃ pmt', (withTables c.dts (c.selected m i j pmt stream)).curPmt? = some pmt' ∧
        pmt'.pcrPid = clockPid pmt stream) ∧
      (withTables c.dts (c.selected m i j pmt stream)).curStream? = some (c.stamped stream) ∧
      (withTables c.dts (c.selected m i j pmt stream)).h264H265WithAud = c.withAud := by
  rw [curPmt?_withTables, curStream?_withTables, withAud_withTables, withAud_selected]
  exact ⟨curPmt?_selected hPmt, curStream?_selected hPmt hStream, rfl⟩

/-- A call to a stream that is found, where nothing overflows, writes the tables when they are due and
the packets of the access unit. -/
theorem run_ok {c : WriteCall} {i j : Nat} (hSmall : Limited m)
    (hFind : findIn c.pid m.pat.pmt 0 0 = some (i, j)) (hPmt : m.pat.pmt[i]? = some pmt)
    (hStream : pmt.streams[j]? = some stream)
    (hPeriod : PeriodFits (period pmt stream m.patPeriod))
    (hTables : Due (period pmt stream m.patPeriod) c.dts → ∀ pmt ∈ m.pat.pmt, pmt.sectionLen ≤ 183)
    (hUnit : c.payload ≠ [] →
      UnitFits (c.stamped stream) (clockPid pmt stream) c.withAud c.payload) :
    c.run m = .ok () (c.written m i j pmt stream) := by
  obtain ⟨⟨pmt', hPmt', hClock⟩, hCurStream, hAud⟩ :=
    current_withTables (c := c) hPmt hStream
  rw [run_found hSmall hFind hPmt hStream hPeriod hTables]
  unfold WriteCall.written
  rw [← hClock, ← hAud]
  refine writePes_ok hPmt' hCurStream fun hPayload => ?_
  rw [hClock, hAud]
  exact hUnit hPayload

/-- The state after a call that has found no stream. -/
def missed (m : TsMuxer) (withAud : Bool) : TsMuxer := { m with h264H265WithAud := withAud }

/-- A call to a stream that is not found returns an error. -/
theorem run_notFound {c : WriteCall} (h : findIn c.pid m.pat.pmt 0 0 = none) :
    c.run m = .error (.error .streamNotFound) (m.missed c.withAud) := by
  have hFind : findStream c.pid (m.missed c.withAud) =
      .error (.error .streamNotFound) (m.missed c.withAud) := by
    unfold findStream missed
    rw [h]
  unfold WriteCall.run write
  rw [bind_modify]
  exact bind_of_error hFind

end TsMuxer

end Xiu.Mpegts
