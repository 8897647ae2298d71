import Mathlib.Data.List.Chain
import Mathlib.Data.List.Defs
import Xiu.Mpegts.Iso
import Xiu.Mpegts.Pids

/-! The continuity counters of the output, pid by pid.  The programs share one counter, so that the tables
keep each of their pids continuous only as long as they are sent for one program. -/

namespace Xiu.Mpegts

open Bytesio ProofKit TsMuxer

/-- The counters of the packets of a pid that carry payload. -/
def counters (pid : UInt16) (output : List UInt8) : List UInt8 :=
  ((packetsOf output).filter fun packet => hasPayload packet && pidOf packet == pid).map counterOf

/-- Each counter is followed by the next one. -/
def Chained (counters : List UInt8) : Prop := counters.IsChain fun a b => b = nextCounter a

instance (counters : List UInt8) : Decidable (Chained counters) :=
  inferInstanceAs (Decidable (List.IsChain _ _))

/-- The counters of the packets of a pid. -/
def logged (pid : UInt16) (packets : List TsPacket) : List UInt8 :=
  (packets.filter (·.pid == pid)).map (·.continuityCounter)

theorem logged_append (pid : UInt16) (packets packets' : List TsPacket) :
    logged pid (packets ++ packets') = logged pid packets ++ logged pid packets' := by
  simp only [logged, List.filter_append, List.map_append]

theorem logged_cons_self (packet : TsPacket) (packets : List TsPacket) :
    logged packet.pid (packet :: packets) =
      packet.continuityCounter :: logged packet.pid packets := by
  simp only [logged, List.filter_cons, beq_self_eq_true, if_true, List.map_cons]

theorem logged_cons_ne {pid : UInt16} {packet : TsPacket} (h : packet.pid ≠ pid)
    (packets : List TsPacket) : logged pid (packet :: packets) = logged pid packets := by
  simp only [logged, List.filter_cons, beq_eq_false_iff_ne.mpr h, Bool.false_eq_true, if_false]

theorem logged_eq_nil {pid : UInt16} {packets : List TsPacket} (h : ∀ p ∈ packets, p.pid ≠ pid) :
    logged pid packets = [] := by
  unfold logged
  rw [List.map_eq_nil_iff, List.filter_eq_nil_iff]
  intro p hp
  rw [beq_iff_eq]
  exact h p hp

/-! ### Chains -/

theorem chained_snoc {l : List UInt8} {c : UInt8} (h : Chained (l ++ [c])) :
    Chained (l ++ [c] ++ [nextCounter c]) := by
  refine List.IsChain.append h (List.isChain_singleton _) fun a ha b hb => ?_
  rw [List.getLast?_append_of_ne_nil _ (List.cons_ne_nil _ _), List.getLast?_singleton] at ha
  rw [List.head?_cons] at hb
  obtain rfl := Option.some.inj ha
  obtain rfl := Option.some.inj hb
  rfl

/-- A run of packets, counted one after the other, goes on a chain. -/
theorem chained_iterate {l : List UInt8} {c : UInt8} (h : Chained (l ++ [c])) (n : Nat) :
    Chained (l ++ List.iterate nextCounter c n ++ [nextCounter^[n] c]) := by
  induction n generalizing l c with
  | zero => rwa [List.iterate, List.append_nil]
  | succ n ih =>
    have hNext := ih (chained_snoc h)
    rwa [List.iterate, Function.iterate_succ_apply, List.append_cons l c]

theorem Chained.left {l l' : List UInt8} (h : Chained (l ++ l')) : Chained l :=
  List.IsChain.left_of_append h

/-! ### The packets of a call -/

/-- Packets of one pid, counted one after the other. -/
structure Counted (pid : UInt16) (c : UInt8) (packets : List TsPacket) : Prop where
  counters : logged pid packets = List.iterate nextCounter c packets.length
  pids : ∀ p ∈ packets, p.pid = pid
  small : c < 16 → ∀ p ∈ packets, p.continuityCounter < 16

theorem Counted.nil (pid : UInt16) (c : UInt8) : Counted pid c [] where
  counters := rfl
  pids _ h := nomatch h
  small _ _ h := nomatch h

theorem Counted.cons {pid : UInt16} {c : UInt8} {packet : TsPacket} {packets : List TsPacket}
    (hPid : packet.pid = pid) (hCounter : packet.continuityCounter = c)
    (h : Counted pid (nextCounter c) packets) : Counted pid c (packet :: packets) := by
  subst hPid hCounter
  refine ⟨?_, List.forall_mem_cons.mpr ⟨rfl, h.pids⟩,
    fun hSmall => List.forall_mem_cons.mpr ⟨hSmall, h.small (nextCounter_lt _)⟩⟩
  rw [logged_cons_self, h.counters]
  rfl

theorem restPackets_counted (pid : UInt16) (c : UInt8) (data : List UInt8) :
    Counted pid c (restPackets pid c data) := by
  induction hn : data.length using Nat.strongRecOn generalizing c data with
  | ind n ih =>
    subst hn
    by_cases hData : data = []
    · subst hData
      rw [restPackets_nil]
      exact .nil pid c
    · have hPos := List.length_pos_iff.mpr hData
      have hDrop : (data.drop 184).length < data.length := by
        rw [List.length_drop]
        omega
      rw [restPackets_more pid c hData]
      exact .cons rfl rfl (ih _ hDrop _ _ rfl)

theorem accessUnit_counted (stream : Pes) (pcrPid : UInt16) (withAud : Bool)
    (payload : List UInt8) :
    Counted stream.pid stream.continuityCounter (accessUnit stream pcrPid withAud payload) := by
  unfold accessUnit
  split
  · exact .nil _ _
  · exact .cons rfl rfl (restPackets_counted ..)

theorem mem_pmtPackets {pmts : List Pmt} {c : UInt8} {p : TsPacket} (h : p ∈ pmtPackets pmts c) :
    (∃ pmt ∈ pmts, p.pid = pmt.pid) ∧ (c < 16 → p.continuityCounter < 16) := by
  induction pmts generalizing c with
  | nil => cases h
  | cons first rest ih =>
    rcases List.mem_cons.mp h with rfl | h
    · exact ⟨⟨first, List.mem_cons_self, rfl⟩, id⟩
    · obtain ⟨⟨pmt, hMem, hPid⟩, hSmall⟩ := ih h
      exact ⟨⟨pmt, List.mem_cons_of_mem _ hMem, hPid⟩, fun _ => hSmall (nextCounter_lt _)⟩

/-- The packets of the programs, by the places of the programs. -/
theorem logged_pmtPackets {pmts : List Pmt} {k : Nat} {pmt : Pmt} (hPmt : pmts[k]? = some pmt)
    (hUnique : ∀ i pmt', pmts[i]? = some pmt' → pmt'.pid = pmt.pid → i = k) (c : UInt8) :
    logged pmt.pid (pmtPackets pmts c) = [nextCounter^[k] c] := by
  induction pmts generalizing k c with
  | nil => cases hPmt
  | cons first rest ih =>
    cases k with
    | zero =>
      obtain rfl := Option.some.inj hPmt
      have hRest : logged first.pid (pmtPackets rest (nextCounter c)) = [] := by
        refine logged_eq_nil fun p hp hEq => ?_
        obtain ⟨⟨pmt, hMem, hPid⟩, -⟩ := mem_pmtPackets hp
        obtain ⟨i, hGet⟩ := List.mem_iff_getElem?.mp hMem
        exact absurd (hUnique (i + 1) pmt hGet (hPid.symm.trans hEq)) (Nat.succ_ne_zero i)
      rw [pmtPackets]
      exact (logged_cons_self _ _).trans (congrArg _ hRest)
    | succ k =>
      have hNe : (tablePacket first.pid first.table c).pid ≠ pmt.pid := fun hEq =>
        absurd (hUnique 0 first rfl hEq) (Nat.succ_ne_zero k).symm
      rw [pmtPackets, logged_cons_ne hNe, Function.iterate_succ_apply]
      exact ih hPmt (fun i pmt' hGet hEq => Nat.succ.inj (hUnique (i + 1) pmt' hGet hEq)) _

/-! ### What runs keep -/

/-- The tables are sent again only as long as they have been sent for one program at most. -/
def ToldOnce (s : Session) (c : WriteCall) : Prop :=
  ∀ i j pmt stream, findIn c.pid s.muxer.pat.pmt 0 0 = some (i, j) →
    s.muxer.pat.pmt[i]? = some pmt → pmt.streams[j]? = some stream →
    Due (period pmt stream s.muxer.patPeriod) c.dts → s.told ≤ 1

/-- How the counters of a muxer go on from the packets that it has written. -/
structure GoesOn (s : Session) (log : List TsPacket) : Prop where
  output : s.output = log.flatMap (·.bytes)
  small : ∀ p ∈ log, p.continuityCounter < 16
  used : ∀ p ∈ log, p.pid = 0 ∨ p.pid ∈ s.muxer.pids
  chains : ∀ pid, Chained (logged pid log)
  pat : Chained (logged 0 log ++ [s.muxer.patContinuityCounter])
  streams : ∀ i j stream, s.muxer.streamAt? i j = some stream →
    stream.continuityCounter < 16 ∧ Chained (logged stream.pid log ++ [stream.continuityCounter])
  bound : s.told ≤ s.muxer.pat.pmt.length
  told : s.told ≤ 1 → ∀ i pid, s.muxer.programAt? i = some pid → i < s.told →
    Chained (logged pid log ++ [s.muxer.pmtContinuityCounter])
  untold : ∀ i pid, s.muxer.programAt? i = some pid → s.told ≤ i → logged pid log = []

theorem GoesOn.withHistory {s : Session} {log : List TsPacket} (h : GoesOn s log)
    (history : List (WriteCall × TsMuxer)) : GoesOn { s with history } log :=
  ⟨h.output, h.small, h.used, h.chains, h.pat, h.streams, h.bound, h.told, h.untold⟩

theorem chained_single (c : UInt8) : Chained ([] ++ [c]) := List.isChain_singleton c

/-- A pid that is not given out yet has no packets. -/
theorem GoesOn.fresh {s : Session} {log : List TsPacket} (h : GoesOn s log)
    (hNumbered : Numbered s.muxer) : logged s.muxer.pid log = [] := by
  refine logged_eq_nil fun p hp hEq => ?_
  have hNext := hNumbered.next
  rcases h.used p hp with hZero | hMem
  · rw [hEq] at hZero
    rw [hZero] at hNext
    change 0 = _ at hNext
    omega
  · exact absurd (hNumbered.range _ hMem).2 (hEq ▸ Nat.lt_irrefl _)

theorem GoesOn.withProgram {s : Session} {log : List TsPacket} (h : GoesOn s log)
    (hNumbered : Numbered s.muxer) (programNumber : UInt16) (info : List UInt8) :
    GoesOn { s with muxer := s.muxer.withProgram programNumber info } log where
  output := h.output
  small := h.small
  used p hp := (h.used p hp).imp id fun hMem => by
    simp only [pids, TsMuxer.withProgram, List.flatMap_append]
    exact List.mem_append_left _ hMem
  chains := h.chains
  pat := h.pat
  streams i j stream hStream := by
    rw [streamAt?_withProgram] at hStream
    exact h.streams i j stream hStream
  bound := by
    have := h.bound
    simp only [TsMuxer.withProgram, List.length_append]
    omega
  told hOnce i pid hProgram hi := by
    rw [programAt?_withProgram, if_neg (Nat.ne_of_lt (Nat.lt_of_lt_of_le hi h.bound))] at hProgram
    exact h.told hOnce i pid hProgram hi
  untold i pid hProgram hi := by
    rw [programAt?_withProgram] at hProgram
    split at hProgram
    · obtain rfl := Option.some.inj hProgram
      exact h.fresh hNumbered
    · exact h.untold i pid hProgram hi

theorem GoesOn.withStream {s : Session} {log : List TsPacket} (h : GoesOn s log)
    (hNumbered : Numbered s.muxer) {i : Nat} {pmt : Pmt} (codecid : UInt8)
    (hPmt : s.muxer.pat.pmt[i]? = some pmt) :
    GoesOn { s with muxer := s.muxer.withStream i pmt codecid } log where
  output := h.output
  small := h.small
  used p hp := (h.used p hp).imp id fun hMem =>
    (pids_withStream codecid hPmt).mem_iff.mpr (List.mem_cons_of_mem _ hMem)
  chains := h.chains
  pat := h.pat
  streams i' j' stream hStream := by
    rw [streamAt?_withStream hPmt] at hStream
    split at hStream
    · obtain rfl := Option.some.inj hStream
      refine ⟨(by decide : (0 : UInt8) < 16), ?_⟩
      show Chained (logged s.muxer.pid log ++ [0])
      rw [h.fresh hNumbered]
      exact chained_single 0
    · exact h.streams i' j' stream hStream
  bound := by
    simpa only [TsMuxer.withStream, reset, List.length_set] using h.bound
  told hOnce k pid hProgram hk := by
    rw [programAt?_withStream hPmt] at hProgram
    exact h.told hOnce k pid hProgram hk
  untold k pid hProgram hk := by
    rw [programAt?_withStream hPmt] at hProgram
    exact h.untold k pid hProgram hk

theorem GoesOn.selected {s : Session} {log : List TsPacket} (h : GoesOn s log) (c : WriteCall)
    (i j : Nat) (pmt : Pmt) (stream : Pes) :
    GoesOn { s with muxer := c.selected s.muxer i j pmt stream } log where
  output := by
    refine Eq.trans ?_ h.output
    show s.taken ++ (c.selected s.muxer i j pmt stream).bytesWriter.bytes = _
    rw [bytes_selected]
    rfl
  small := h.small
  used := by
    simp only [pids_selected]
    exact h.used
  chains := h.chains
  pat := by
    simpa only [patCounter_selected] using h.pat
  streams i' j' stream' hStream := by
    rw [streamAt?_selected] at hStream
    split at hStream
    · obtain ⟨stream0, hStream0, rfl⟩ := Option.map_eq_some_iff.mp hStream
      exact h.streams i' j' stream0 hStream0
    · exact h.streams i' j' stream' hStream
  bound := by
    simpa only [length_selected] using h.bound
  told hOnce k pid hProgram hk := by
    rw [programAt?_selected] at hProgram
    simpa only [pmtCounter_selected] using h.told hOnce k pid hProgram hk
  untold k pid hProgram hk := by
    rw [programAt?_selected] at hProgram
    exact h.untold k pid hProgram hk

/-- The packets of the current stream. -/
theorem GoesOn.sent {s : Session} {log packets : List TsPacket} {stream : Pes} (h : GoesOn s log)
    (hNumbered : Numbered s.muxer)
    (hStream : s.muxer.streamAt? s.muxer.curPmtIndex s.muxer.curStreamIndex = some stream)
    (hPackets : Counted stream.pid stream.continuityCounter packets) :
    GoesOn { s with muxer := s.muxer.sent packets } (log ++ packets) := by
  have hMem := mem_pids_of_stream hStream
  have hOther : ∀ pid, pid ≠ stream.pid → logged pid (log ++ packets) = logged pid log := by
    intro pid hNe
    rw [logged_append, @logged_eq_nil _ packets, List.append_nil]
    intro p hp hEq
    exact hNe (hEq.symm.trans (hPackets.pids p hp))
  have hSelf : Chained (logged stream.pid (log ++ packets) ++
      [nextCounter^[packets.length] stream.continuityCounter]) := by
    rw [logged_append, hPackets.counters]
    exact chained_iterate (h.streams _ _ _ hStream).2 _
  have hPids : (s.muxer.sent packets).pids = s.muxer.pids :=
    pids_modifyStream (f := counted _) (fun _ => rfl) _
  have hPrograms : ∀ k, (s.muxer.sent packets).programAt? k = s.muxer.programAt? k :=
    programAt?_modifyStream _ _
  refine ⟨?_, ?_, ?_, fun pid => ?_, ?_, fun i j stream' hStream' => ?_, ?_, ?_, ?_⟩
  · show s.taken ++ (s.muxer.bytesWriter.bytes ++ packets.flatMap (·.bytes)) = _
    rw [List.flatMap_append, ← h.output, Session.output, List.append_assoc]
  · exact List.forall_mem_append.mpr ⟨h.small, hPackets.small (h.streams _ _ _ hStream).1⟩
  · simp only [hPids]
    exact List.forall_mem_append.mpr ⟨h.used, fun p hp => .inr (hPackets.pids p hp ▸ hMem)⟩
  · by_cases hPid : pid = stream.pid
    · exact hPid ▸ hSelf.left
    · rw [hOther pid hPid]
      exact h.chains pid
  · rw [hOther 0 (Ne.symm (hNumbered.ne_zero hMem))]
    exact h.pat
  · rw [streamAt?_sent] at hStream'
    split at hStream'
    · rename_i hCur
      obtain ⟨rfl, rfl⟩ := hCur
      rw [hStream] at hStream'
      obtain rfl := Option.some.inj hStream'
      exact ⟨iterate_nextCounter_lt _ (h.streams _ _ _ hStream).1, hSelf⟩
    · rename_i hCur
      rw [hOther _ fun hEq => hCur (hNumbered.stream_inj hStream' hStream hEq)]
      exact h.streams i j stream' hStream'
  · simpa only [TsMuxer.sent, append, modifyStream, modifyPmt, List.length_modify] using h.bound
  · intro hOnce k pid hProgram hk
    simp only [hPrograms] at hProgram
    rw [hOther pid (hNumbered.program_ne hProgram hStream)]
    exact h.told hOnce k pid hProgram hk
  · intro k pid hProgram hk
    simp only [hPrograms] at hProgram
    rw [hOther pid (hNumbered.program_ne hProgram hStream)]
    exact h.untold k pid hProgram hk

theorem logged_tables_pat {m : TsMuxer} (h : Numbered m) :
    logged 0 m.tables = [m.patContinuityCounter] := by
  have hRest : logged 0 (pmtPackets m.pat.pmt m.pmtContinuityCounter) = [] := by
    refine logged_eq_nil fun p hp => ?_
    obtain ⟨⟨pmt, hMem, hPid⟩, -⟩ := mem_pmtPackets hp
    rw [hPid]
    exact h.ne_zero (List.mem_flatMap.mpr ⟨pmt, hMem, List.mem_cons_self⟩)
  exact (logged_cons_self (tablePacket PAT_TID_PAS m.pat.write m.patContinuityCounter) _).trans
    (congrArg _ hRest)

theorem logged_tables_program {m : TsMuxer} (h : Numbered m) {k : Nat} {pid : UInt16}
    (hProgram : m.programAt? k = some pid) :
    logged pid m.tables = [nextCounter^[k] m.pmtContinuityCounter] := by
  have hNe : (tablePacket PAT_TID_PAS m.pat.write m.patContinuityCounter).pid ≠ pid :=
    Ne.symm (h.ne_zero (mem_pids_of_program hProgram))
  obtain ⟨pmt, hPmt, rfl⟩ := Option.map_eq_some_iff.mp hProgram
  refine (logged_cons_ne hNe _).trans (logged_pmtPackets hPmt (fun i pmt' hPmt' hEq => ?_) _)
  refine @Numbered.program_inj _ h _ _ pmt.pid ?_ hProgram
  rw [programAt?, hPmt', Option.map_some, hEq]

theorem mem_tables {m : TsMuxer} {p : TsPacket} (h : p ∈ m.tables) :
    p.pid = 0 ∨ ∃ k, m.programAt? k = some p.pid := by
  rcases List.mem_cons.mp h with rfl | h
  · exact .inl rfl
  · obtain ⟨⟨pmt, hMem, hPid⟩, -⟩ := mem_pmtPackets h
    obtain ⟨k, hGet⟩ := List.mem_iff_getElem?.mp hMem
    refine .inr ⟨k, ?_⟩
    rw [programAt?, hGet, Option.map_some, hPid]

theorem logged_tables_other {m : TsMuxer} {pid : UInt16} (hZero : pid ≠ 0)
    (hProgram : ∀ k, m.programAt? k ≠ some pid) : logged pid m.tables = [] := by
  refine logged_eq_nil fun p hp hEq => ?_
  rcases mem_tables hp with hPid | ⟨k, hPid⟩
  · exact hZero (hEq.symm.trans hPid)
  · exact hProgram k (hEq ▸ hPid)

/-- The counter of the programs goes on from the packets of a program, as long as the tables have been
sent for one program at most. -/
theorem GoesOn.program {s : Session} {log : List TsPacket} (h : GoesOn s log) (hOnce : s.told ≤ 1)
    {k : Nat} {pid : UInt16} (hProgram : s.muxer.programAt? k = some pid) :
    Chained (logged pid log ++ [nextCounter^[k] s.muxer.pmtContinuityCounter]) := by
  by_cases hk : k < s.told
  · obtain rfl : k = 0 := by omega
    exact h.told hOnce 0 pid hProgram hk
  · rw [h.untold k pid hProgram (by omega)]
    exact chained_single _

/-- The tables. -/
theorem GoesOn.announced {s : Session} {log : List TsPacket} (h : GoesOn s log)
    (hNumbered : Numbered s.muxer) (hSmall : Limited s.muxer) (hOnce : s.told ≤ 1) :
    GoesOn { s with muxer := s.muxer.announced, told := s.muxer.pat.pmt.length }
      (log ++ s.muxer.tables) := by
  have hPrograms : ∀ k, s.muxer.announced.programAt? k = s.muxer.programAt? k := fun _ => rfl
  have hPat : Chained (logged 0 (log ++ s.muxer.tables) ++
      [nextCounter s.muxer.patContinuityCounter]) := by
    rw [logged_append, logged_tables_pat hNumbered]
    exact chained_snoc h.pat
  have hProgram : ∀ k pid, s.muxer.programAt? k = some pid →
      Chained (logged pid (log ++ s.muxer.tables)) := by
    intro k pid hProgram
    rw [logged_append, logged_tables_program hNumbered hProgram]
    exact h.program hOnce hProgram
  have hOther : ∀ pid, pid ≠ 0 → (∀ k, s.muxer.programAt? k ≠ some pid) →
      logged pid (log ++ s.muxer.tables) = logged pid log := by
    intro pid hZero hNone
    rw [logged_append, logged_tables_other hZero hNone, List.append_nil]
  refine ⟨?_, ?_, ?_, fun pid => ?_, hPat, fun i j stream hStream => ?_, Nat.le_refl _, ?_, ?_⟩
  · show s.taken ++ (s.muxer.bytesWriter.bytes ++ s.muxer.tables.flatMap (·.bytes)) = _
    rw [List.flatMap_append, ← h.output, Session.output, List.append_assoc]
  · refine List.forall_mem_append.mpr ⟨h.small, List.forall_mem_cons.mpr ⟨hSmall.patCounter, ?_⟩⟩
    exact fun p hp => (mem_pmtPackets hp).2 hSmall.pmtCounter
  · refine List.forall_mem_append.mpr ⟨h.used, fun p hp => ?_⟩
    exact (mem_tables hp).imp id fun ⟨k, hk⟩ => mem_pids_of_program hk
  · by_cases hZero : pid = 0
    · exact hZero ▸ hPat.left
    · by_cases hNone : ∀ k, s.muxer.programAt? k ≠ some pid
      · rw [hOther pid hZero hNone]
        exact h.chains pid
      · obtain ⟨k, hk⟩ := not_forall.mp hNone
        exact hProgram k pid (not_not.mp hk)
  · have hStream : s.muxer.streamAt? i j = some stream := hStream
    rw [hOther _ (hNumbered.ne_zero (mem_pids_of_stream hStream))
      fun k hk => hNumbered.program_ne hk hStream rfl]
    exact h.streams i j stream hStream
  · intro hOne k pid hk hLt
    rw [hPrograms] at hk
    obtain rfl : k = 0 := by
      simp only at hOne hLt
      omega
    have hLength : s.muxer.pat.pmt.length = 1 := by
      simp only at hOne hLt
      omega
    rw [logged_append, logged_tables_program hNumbered hk]
    show Chained (_ ++ [nextCounter^[s.muxer.pat.pmt.length] s.muxer.pmtContinuityCounter])
    rw [hLength]
    exact chained_snoc (h.program hOnce hk)
  · intro k pid hk hLe
    obtain ⟨pmt, hPmt, -⟩ := Option.map_eq_some_iff.mp ((hPrograms k).symm.trans hk)
    exact absurd (List.getElem?_eq_some_iff.mp hPmt).1 (Nat.not_lt.mpr hLe)

/-- A call of `write` that does not send the tables of several programs again. -/
theorem GoesOn.written {s : Session} {log : List TsPacket} (h : GoesOn s log)
    (hNumbered : Numbered s.muxer) (hSmall : Limited s.muxer) {c : WriteCall} (hOnce : ToldOnce s c)
    {i j : Nat} {pmt : Pmt} {stream : Pes} (hWrote : Wrote s.muxer c i j pmt stream) :
    GoesOn (s.after (.write c) (c.written s.muxer i j pmt stream))
      (log ++ c.packets s.muxer i j pmt stream) := by
  have hSelected := h.selected c i j pmt stream
  have hNumbered' := hNumbered.selected c i j pmt stream
  have hSmall' : Limited (c.selected s.muxer i j pmt stream) := hSmall.selected c i j
  have hStream := streamAt?_of hWrote.isPmt hWrote.isStream
  have hStamped : (c.selected s.muxer i j pmt stream).streamAt? i j = some (c.stamped stream) := by
    rw [streamAt?_selected, if_pos ⟨rfl, rfl⟩, hStream, Option.map_some]
  have hCur := @cur_selected pmt stream c s.muxer i j
  -- the counter of the tables has moved when they were sent
  have hMoved : nextCounter s.muxer.patContinuityCounter ≠ s.muxer.patContinuityCounter := by
    have hAll : ∀ b : UInt8, b < 16 → nextCounter b ≠ b := forall_byte (by decide +kernel)
    exact hAll _ hSmall.patCounter
  have hUnit := accessUnit_counted (c.stamped stream) (clockPid pmt stream) c.withAud c.payload
  have hPeriod := @patPeriod_selected s.muxer pmt stream c i j
  have hCounter := @patCounter_selected pmt stream c s.muxer i j
  by_cases hDue : Due (period pmt stream s.muxer.patPeriod) c.dts
  · have hDated : GoesOn { s with muxer := (c.selected s.muxer i j pmt stream).dated c.dts }
        log :=
      ⟨hSelected.output, hSelected.small, hSelected.used, hSelected.chains, hSelected.pat,
        hSelected.streams, hSelected.bound, hSelected.told, hSelected.untold⟩
    have hTables := hDated.announced (hNumbered'.same rfl rfl hNumbered'.streams)
      ⟨hSmall'.programs, hSmall'.patCounter, hSmall'.pmtCounter⟩
      (hOnce i j pmt stream hWrote.found hWrote.isPmt hWrote.isStream hDue)
    have hCurStream : ((c.selected s.muxer i j pmt stream).dated c.dts).announced.streamAt?
        (c.selected s.muxer i j pmt stream).curPmtIndex
        (c.selected s.muxer i j pmt stream).curStreamIndex = some (c.stamped stream) := by
      rw [hCur.1, hCur.2]
      exact hStamped
    have hSent := hTables.sent (hNumbered'.same rfl rfl hNumbered'.streams) hCurStream hUnit
    have hWritten : c.written s.muxer i j pmt stream =
        (((c.selected s.muxer i j pmt stream).dated c.dts).announced).sent
          (accessUnit (c.stamped stream) (clockPid pmt stream) c.withAud c.payload) := by
      unfold WriteCall.written withTables
      rw [hPeriod, if_pos hDue]
    have hTold : (c.written s.muxer i j pmt stream).patContinuityCounter ≠
        s.muxer.patContinuityCounter := by
      rw [hWritten]
      show nextCounter (c.selected s.muxer i j pmt stream).patContinuityCounter ≠ _
      rw [hCounter]
      exact hMoved
    unfold WriteCall.packets Session.after
    rw [if_pos hDue, if_neg hTold, ← List.append_assoc, hWritten, length_sent]
    simp only [Call.handsOut, List.append_nil]
    exact hSent.withHistory _
  · have hCurStream : (c.selected s.muxer i j pmt stream).streamAt?
        (c.selected s.muxer i j pmt stream).curPmtIndex
        (c.selected s.muxer i j pmt stream).curStreamIndex = some (c.stamped stream) := by
      rw [hCur.1, hCur.2]
      exact hStamped
    have hSent := hSelected.sent hNumbered' hCurStream hUnit
    have hWritten : c.written s.muxer i j pmt stream =
        (c.selected s.muxer i j pmt stream).sent
          (accessUnit (c.stamped stream) (clockPid pmt stream) c.withAud c.payload) := by
      unfold WriteCall.written withTables
      rw [hPeriod, if_neg hDue]
    have hTold : (c.written s.muxer i j pmt stream).patContinuityCounter =
        s.muxer.patContinuityCounter := by
      rw [hWritten]
      exact hCounter
    unfold WriteCall.packets Session.after
    rw [if_neg hDue, if_pos hTold, List.nil_append, hWritten]
    simp only [Call.handsOut, List.append_nil]
    exact hSent.withHistory _

theorem GoesOn.new : GoesOn .new [] where
  output := rfl
  small _ h := nomatch h
  used _ h := nomatch h
  chains _ := List.isChain_nil
  pat := chained_single 0
  streams _ _ _ h := nomatch h
  bound := Nat.le_refl 0
  told _ _ _ h := nomatch h
  untold _ _ h := nomatch h

end Xiu.Mpegts
