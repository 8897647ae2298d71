import Mathlib.Data.List.Nodup
import Xiu.Mpegts.Calls

/-! The pids of a muxer's programs and streams, which are numbered one after the other and differ. -/

namespace Xiu.Mpegts

open Bytesio ProofKit TsMuxer

section

variable {α β : Type} {l : List α} {i : Nat} {a b : α} {f : α → List β}

theorem flatMap_modify {g : α → α} (h : ∀ a, f (g a) = f a) (l : List α) (i : Nat) :
    (l.modify i g).flatMap f = l.flatMap f := by
  induction l generalizing i with
  | nil => rw [List.modify_nil]
  | cons a rest ih =>
    cases i with
    | zero => rw [List.modify_zero_cons, List.flatMap_cons, List.flatMap_cons, h]
    | succ i => rw [List.modify_succ_cons, List.flatMap_cons, List.flatMap_cons, ih]

/-- One element more in one of the parts. -/
theorem flatMap_set_perm {x : β} (hGet : l[i]? = some a) (h : (f b).Perm (x :: f a)) :
    ((l.set i b).flatMap f).Perm (x :: l.flatMap f) := by
  induction l generalizing i with
  | nil => cases hGet
  | cons c rest ih =>
    cases i with
    | zero =>
      obtain rfl := Option.some.inj hGet
      exact h.append_right (rest.flatMap f)
    | succ i => exact ((ih hGet).append_left (f c)).trans List.perm_middle

/-- Parts of a list without repetition that share an element are the same part. -/
theorem index_of_nodup {j : Nat} {x : β} (h : (l.flatMap f).Nodup) (ha : l[i]? = some a)
    (hb : l[j]? = some b) (hxa : x ∈ f a) (hxb : x ∈ f b) : i = j := by
  obtain ⟨hi, rfl⟩ := List.getElem?_eq_some_iff.mp ha
  obtain ⟨hj, rfl⟩ := List.getElem?_eq_some_iff.mp hb
  have hPairwise := List.pairwise_iff_getElem.mp (List.nodup_flatMap.mp h).2
  rcases Nat.lt_trichotomy i j with hLt | hEq | hLt
  · exact absurd hxb (hPairwise i j hi hj hLt hxa)
  · exact hEq
  · exact absurd hxa (hPairwise j i hj hi hLt hxb)

theorem length_flatMap_le {n : Nat} (h : ∀ a ∈ l, (f a).length ≤ n) :
    (l.flatMap f).length ≤ n * l.length := by
  induction l with
  | nil => exact Nat.zero_le _
  | cons a rest ih =>
    have hFirst := h a List.mem_cons_self
    have hRest := ih fun b hb => h b (List.mem_cons_of_mem _ hb)
    rw [List.flatMap_cons, List.length_append, List.length_cons, Nat.mul_succ]
    omega

end

/-- The pids of a program: its own, and those of its streams. -/
def Pmt.pids (pmt : Pmt) : List UInt16 := pmt.pid :: pmt.streams.map (·.pid)

namespace TsMuxer

def pids (m : TsMuxer) : List UInt16 := m.pat.pmt.flatMap Pmt.pids

/-- The pids differ and are numbered from 0x0100 on, and no program has more than four streams. -/
structure Numbered (m : TsMuxer) : Prop where
  nodup : m.pids.Nodup
  range : ∀ pid ∈ m.pids, 0x100 ≤ pid.toNat ∧ pid.toNat < m.pid.toNat
  next : m.pid.toNat = 0x100 + m.pids.length
  streams : ∀ pmt ∈ m.pat.pmt, pmt.streams.length ≤ 4

variable {m m' : TsMuxer} {pmt : Pmt} {stream : Pes}

theorem Numbered.length_le (h : Numbered m) (hSmall : Limited m) : m.pids.length ≤ 20 := by
  have hLength : m.pids.length ≤ 5 * m.pat.pmt.length := by
    refine length_flatMap_le fun pmt hPmt => ?_
    simp only [Pmt.pids, List.length_cons, List.length_map]
    have := h.streams pmt hPmt
    omega
  have := hSmall.programs
  omega

/-- A pid more. -/
theorem Numbered.grow (h : Numbered m) (hSmall : Limited m) (hPid : m'.pid = m.pid + 1)
    (hPids : m'.pids.Perm (m.pid :: m.pids)) (hStreams : ∀ pmt ∈ m'.pat.pmt, pmt.streams.length ≤ 4) :
    Numbered m' := by
  have hLength := h.length_le hSmall
  have hNext := h.next
  have hPid' : m'.pid.toNat = m.pid.toNat + 1 := by
    rw [hPid, UInt16.toNat_add]
    show (m.pid.toNat + 1) % 2 ^ 16 = _
    omega
  refine ⟨hPids.nodup_iff.mpr (List.nodup_cons.mpr ⟨fun hMem => ?_, h.nodup⟩), fun pid hMem => ?_,
    ?_, hStreams⟩
  · exact absurd (h.range _ hMem).2 (Nat.lt_irrefl _)
  · rcases List.mem_cons.mp (hPids.mem_iff.mp hMem) with rfl | hMem
    · omega
    · have := h.range pid hMem
      omega
  · rw [hPids.length_eq, List.length_cons]
    omega

theorem Numbered.withProgram (h : Numbered m) (hSmall : Limited m) (programNumber : UInt16)
    (info : List UInt8) : Numbered (m.withProgram programNumber info) := by
  refine h.grow hSmall rfl ?_ fun pmt hPmt => ?_
  · simp only [pids, TsMuxer.withProgram, List.flatMap_append, List.flatMap_cons, List.flatMap_nil,
      Pmt.pids, List.map_nil, List.append_nil]
    exact List.perm_append_singleton _ _
  · rcases List.mem_append.mp hPmt with hPmt | hPmt
    · exact h.streams pmt hPmt
    · obtain rfl := List.mem_singleton.mp hPmt
      exact Nat.zero_le _

theorem pids_withStream {i : Nat} (codecid : UInt8) (hPmt : m.pat.pmt[i]? = some pmt) :
    (m.withStream i pmt codecid).pids.Perm (m.pid :: m.pids) := by
  refine flatMap_set_perm hPmt ?_
  simp only [Pmt.pids, Pmt.withStream, List.map_append, List.map_cons, List.map_nil, newStream]
  exact (List.Perm.cons _ (List.perm_append_singleton _ _)).trans (List.Perm.swap ..)

theorem Numbered.withStream (h : Numbered m) (hSmall : Limited m) {i : Nat} (codecid : UInt8)
    (hPmt : m.pat.pmt[i]? = some pmt) (hRoom : pmt.streams.length ≠ 4) :
    Numbered (m.withStream i pmt codecid) := by
  refine h.grow hSmall rfl (pids_withStream codecid hPmt) fun pmt' hPmt' => ?_
  rcases List.mem_or_eq_of_mem_set hPmt' with hPmt' | rfl
  · exact h.streams pmt' hPmt'
  · have := h.streams pmt (List.mem_of_getElem? hPmt)
    simp only [Pmt.withStream, List.length_append, List.length_singleton]
    omega

/-- A change that leaves the pids. -/
theorem Numbered.same (h : Numbered m) (hPid : m'.pid = m.pid) (hPids : m'.pids = m.pids)
    (hStreams : ∀ pmt ∈ m'.pat.pmt, pmt.streams.length ≤ 4) : Numbered m' where
  nodup := hPids ▸ h.nodup
  range := by
    rw [hPids, hPid]
    exact h.range
  next := by
    rw [hPids, hPid]
    exact h.next
  streams := hStreams

theorem pids_modifyPmt {f : Pmt → Pmt} (hf : ∀ pmt, (f pmt).pids = pmt.pids) (m : TsMuxer) :
    (m.modifyPmt f).pids = m.pids := flatMap_modify hf _ _

theorem pids_modifyStream {f : Pes → Pes} (hf : ∀ stream, (f stream).pid = stream.pid)
    (m : TsMuxer) : (m.modifyStream f).pids = m.pids := by
  refine pids_modifyPmt (fun pmt => ?_) m
  simp only [Pmt.pids, List.cons.injEq, true_and]
  refine List.ext_getElem? fun j => ?_
  rw [List.getElem?_map, List.getElem?_map, List.getElem?_modify]
  cases pmt.streams[j]? with
  | none => rfl
  | some stream =>
    simp only [Option.map_eq_map, Option.map_some]
    split
    · rw [hf]
    · rfl

theorem pids_selected (c : WriteCall) (m : TsMuxer) (i j : Nat) :
    (c.selected m i j pmt stream).pids = m.pids := by
  refine (pids_modifyStream (f := c.stamped) (fun _ => rfl) _).trans ?_
  unfold takeClock
  split
  · exact pids_modifyPmt (f := fun pmt : Pmt => { pmt with pcrPid := stream.pid }) (fun _ => rfl)
      (c.located m i j)
  · rfl

theorem pids_written (c : WriteCall) (m : TsMuxer) (i j : Nat) :
    (c.written m i j pmt stream).pids = m.pids := by
  refine (pids_modifyStream (f := counted _) (fun _ => rfl) _).trans ?_
  show (withTables c.dts (c.selected m i j pmt stream)).pids = _
  unfold withTables
  split
  · exact pids_selected c m i j
  · exact pids_selected c m i j

theorem pid_selected (c : WriteCall) (m : TsMuxer) (i j : Nat) :
    (c.selected m i j pmt stream).pid = m.pid := by
  unfold WriteCall.selected takeClock
  split
  · rfl
  · rfl

theorem pid_written (c : WriteCall) (m : TsMuxer) (i j : Nat) :
    (c.written m i j pmt stream).pid = m.pid := by
  show (withTables c.dts (c.selected m i j pmt stream)).pid = _
  unfold withTables
  split
  · exact pid_selected c m i j
  · exact pid_selected c m i j

theorem Numbered.selected (h : Numbered m) (c : WriteCall) (i j : Nat) (pmt : Pmt)
    (stream : Pes) : Numbered (c.selected m i j pmt stream) :=
  h.same (pid_selected c m i j) (pids_selected c m i j) ((kept_streams 4).selected c h.streams)

theorem Numbered.written (h : Numbered m) (c : WriteCall) (i j : Nat) :
    Numbered (c.written m i j pmt stream) :=
  h.same (pid_written c m i j) (pids_written c m i j) ((kept_streams 4).written c h.streams)

theorem Numbered.new : Numbered .new where
  nodup := List.nodup_nil
  range _ h := nomatch h
  next := rfl
  streams _ h := nomatch h

/-! ### Looking a stream up -/

/-- A stream that is found is counted from the first stream of all programs on. -/
theorem findIn_cases (pid : UInt16) (pmts : List Pmt) (k l : Nat) :
    (findIn pid pmts k l = none ∧ ∀ pmt ∈ pmts, ∀ stream ∈ pmt.streams, stream.pid ≠ pid) ∨
      ∃ before pmt after i stream, pmts = before ++ pmt :: after ∧ pmt.streams[i]? = some stream ∧
        stream.pid = pid ∧ findIn pid pmts k l =
          some (k + before.length, l + (before.flatMap (·.streams)).length + i) := by
  induction pmts generalizing k l with
  | nil => exact .inl ⟨rfl, fun _ h => (List.not_mem_nil h).elim⟩
  | cons pmt pmts ih =>
    rw [findIn]
    cases hFind : pmt.streams.findIdx? (·.pid == pid) with
    | some i =>
      obtain ⟨hi, hPid, -⟩ := List.findIdx?_eq_some_iff_getElem.mp hFind
      exact .inr ⟨[], pmt, pmts, i, pmt.streams[i], rfl, List.getElem?_eq_getElem hi,
        beq_iff_eq.mp hPid, rfl⟩
    | none =>
      rcases ih (k + 1) (l + pmt.streams.length) with
        ⟨hNone, hRest⟩ | ⟨before, pmt', after, i, stream, rfl, hStream, hPid, hSome⟩
      · refine .inl ⟨hNone, List.forall_mem_cons.mpr ⟨fun stream hMem => ?_, hRest⟩⟩
        simpa using List.findIdx?_eq_none_iff.mp hFind stream hMem
      · refine .inr ⟨pmt :: before, pmt', after, i, stream, rfl, hStream, hPid, ?_⟩
        dsimp only
        rw [hSome, List.length_cons, List.flatMap_cons, List.length_append]
        congr 2 <;> omega

/-- `find_stream` is successful exactly for the pids of streams, and sets the indices of the stream. -/
def FindsStream (m : TsMuxer) (pid : UInt16) : Prop :=
  ((∃ m', findStream pid m = .ok () m') ↔
    ∃ pmt ∈ m.pat.pmt, ∃ stream ∈ pmt.streams, stream.pid = pid) ∧
  ∀ m', findStream pid m = .ok () m' → ∃ stream, m'.curStream? = some stream ∧ stream.pid = pid

/-- No program before the one of the pid has a stream. -/
def Leading (m : TsMuxer) (pid : UInt16) : Prop :=
  ∀ before pmt after, m.pat.pmt = before ++ pmt :: after →
    (∃ stream ∈ pmt.streams, stream.pid = pid) → ∀ earlier ∈ before, earlier.streams = []

/-- The stream with a pid is found exactly when the programs before its program have no streams. -/
theorem finds_iff {m : TsMuxer} (hNodup : m.pids.Nodup) (pid : UInt16) :
    FindsStream m pid ↔ Leading m pid := by
  rcases findIn_cases pid m.pat.pmt 0 0 with
    ⟨hNone, hOther⟩ | ⟨before, pmt, after, i, stream, hPmts, hStream, hPid, hSome⟩
  · have hError : findStream pid m = .error (.error .streamNotFound) m := by
      unfold findStream
      rw [hNone]
    refine iff_of_true ⟨iff_of_false ?_ ?_, ?_⟩ ?_
    · rintro ⟨m', hOk⟩
      cases hError.symm.trans hOk
    · rintro ⟨pmt, hPmt, stream, hMem, hPid⟩
      exact hOther pmt hPmt stream hMem hPid
    · intro m' hOk
      cases hError.symm.trans hOk
    · rintro before pmt after hPmts ⟨stream, hMem, hPid⟩
      exact absurd hPid (hOther pmt (by rw [hPmts]; simp) stream hMem)
  · have hPmt : m.pat.pmt[before.length]? = some pmt := by rw [hPmts]; simp
    have hOk : findStream pid m = .ok () { m with
        curPmtIndex := before.length
        curStreamIndex := (before.flatMap (·.streams)).length + i } := by
      unfold findStream
      rw [hSome]
      simp only [Nat.zero_add]
    have hMem := List.mem_of_getElem? hStream
    have hProgram : pid ∈ pmt.pids := List.mem_cons_of_mem _ (hPid ▸ List.mem_map_of_mem hMem)
    -- the index is that of the stream when it counts no other programs' streams
    have hOffset : FindsStream m pid ↔ before.flatMap (·.streams) = [] := by
      constructor
      · intro hFinds
        obtain ⟨stream', hCur, hPid'⟩ := hFinds.2 _ hOk
        have hStream' : pmt.streams[(before.flatMap (·.streams)).length + i]? = some stream' := by
          simpa [curStream?, curPmt?, hPmt] using hCur
        have hPmtNodup := (List.nodup_cons.mp
          ((List.nodup_flatMap.mp hNodup).1 pmt (List.mem_of_getElem? hPmt))).2
        have hSame : (pmt.streams.map (·.pid))[(before.flatMap (·.streams)).length + i]? =
            (pmt.streams.map (·.pid))[i]? := by
          rw [List.getElem?_map, List.getElem?_map, hStream', hStream, Option.map_some, Option.map_some,
            hPid', hPid]
        have hLength := (List.getElem?_eq_some_iff.mp hStream').1
        have hIndex := (List.getElem?_inj (by rwa [List.length_map]) hPmtNodup).mp hSame
        exact List.length_eq_zero_iff.mp (by omega)
      · intro hNil
        refine ⟨iff_of_true ⟨_, hOk⟩ ⟨pmt, List.mem_of_getElem? hPmt, stream, hMem, hPid⟩, ?_⟩
        intro m' hOk'
        obtain ⟨-, rfl⟩ := EStateM.Result.ok.inj (hOk.symm.trans hOk')
        refine ⟨stream, ?_, hPid⟩
        simp [curStream?, curPmt?, hPmt, hNil, hStream]
    rw [hOffset, List.flatMap_eq_nil_iff]
    constructor
    · rintro hNil before' pmt' after' hPmts' ⟨stream', hMem', hPid'⟩
      have hPmt' : m.pat.pmt[before'.length]? = some pmt' := by rw [hPmts']; simp
      have hLength := index_of_nodup hNodup hPmt' hPmt
        (List.mem_cons_of_mem _ (hPid' ▸ List.mem_map_of_mem hMem')) hProgram
      obtain ⟨rfl, -⟩ := List.append_inj (hPmts'.symm.trans hPmts) hLength
      exact hNil
    · exact fun hLeading => hLeading before pmt after hPmts ⟨stream, hMem, hPid⟩

/-- A muxer with these programs. -/
def withPrograms (pmt : List Pmt) : TsMuxer := { TsMuxer.new with pat := { Pat.new with pmt } }

/-- The second program has a stream, the first one none. -/
theorem second_program_found :
    FindsStream (withPrograms [⟨0x100, 1, 0, 0x1FFF, [], []⟩,
      ⟨0x101, 2, 0, 0x1FFF, [], [newStream 0x102 PSI_STREAM_H264]⟩]) 0x102 := by
  refine (finds_iff (by decide) 0x102).mpr ?_
  rintro before pmt after hPmts - earlier hEarlier
  have hLength := congrArg List.length hPmts
  simp only [withPrograms, List.length_append, List.length_cons, List.length_nil] at hLength
  rcases before with _ | ⟨first, _ | ⟨second, before⟩⟩
  · cases hEarlier
  · obtain ⟨rfl, -⟩ := List.cons.inj hPmts
    obtain rfl := List.mem_singleton.mp hEarlier
    rfl
  · simp only [List.length_cons] at hLength
    omega

/-- Each of two programs has a stream: the index of the second stream is beyond its program. -/
theorem second_stream_lost : ¬∀ (m : TsMuxer) (pid : UInt16), m.pids.Nodup → FindsStream m pid := by
  intro hAll
  have hFinds := hAll (withPrograms [⟨0x100, 1, 0, 0x1FFF, [], [newStream 0x102 PSI_STREAM_AAC]⟩,
    ⟨0x101, 2, 0, 0x1FFF, [], [newStream 0x103 PSI_STREAM_H264]⟩]) 0x103 (by decide)
  obtain ⟨stream, hStream, -⟩ := hFinds.2 _ rfl
  cases hStream

/-! ### Programs and streams by their places -/

/-- The pid of a program. -/
def programAt? (m : TsMuxer) (i : Nat) : Option UInt16 := m.pat.pmt[i]?.map (·.pid)

def streamAt? (m : TsMuxer) (i j : Nat) : Option Pes := m.pat.pmt[i]?.bind (·.streams[j]?)

theorem streamAt?_of {i j : Nat} (hPmt : m.pat.pmt[i]? = some pmt)
    (hStream : pmt.streams[j]? = some stream) : m.streamAt? i j = some stream := by
  unfold streamAt?
  rw [hPmt]
  exact hStream

theorem programAt?_modifyPmt {f : Pmt → Pmt} (hf : ∀ pmt, (f pmt).pid = pmt.pid) (m : TsMuxer)
    (i : Nat) : (m.modifyPmt f).programAt? i = m.programAt? i := by
  simp only [programAt?, modifyPmt, List.getElem?_modify]
  cases m.pat.pmt[i]? with
  | none => rfl
  | some pmt =>
    simp only [Option.map_eq_map, Option.map_some]
    split
    · rw [hf]
    · rfl

theorem programAt?_modifyStream (f : Pes → Pes) (m : TsMuxer) (i : Nat) :
    (m.modifyStream f).programAt? i = m.programAt? i :=
  programAt?_modifyPmt
    (f := fun pmt : Pmt => { pmt with streams := pmt.streams.modify m.curStreamIndex f })
    (fun _ => rfl) m i

theorem streamAt?_modifyStream (f : Pes → Pes) (m : TsMuxer) (i j : Nat) :
    (m.modifyStream f).streamAt? i j =
      if i = m.curPmtIndex ∧ j = m.curStreamIndex then (m.streamAt? i j).map f
      else m.streamAt? i j := by
  simp only [streamAt?, modifyStream, modifyPmt, List.getElem?_modify]
  cases m.pat.pmt[i]? with
  | none => simp
  | some pmt =>
    simp only [Option.map_eq_map, Option.map_some, Option.bind_some]
    by_cases hPmt : m.curPmtIndex = i
    · rw [if_pos hPmt, List.getElem?_modify]
      by_cases hStream : m.curStreamIndex = j
      · rw [if_pos ⟨hPmt.symm, hStream.symm⟩]
        simp only [hStream, if_true, Option.map_eq_map]
      · rw [if_neg (fun h => hStream h.2.symm)]
        simp only [hStream, if_false, Option.map_eq_map, Option.map_id_fun', id_eq]
    · rw [if_neg hPmt, if_neg (fun h => hPmt h.1.symm)]

theorem programAt?_selected (c : WriteCall) (m : TsMuxer) (i j k : Nat) :
    (c.selected m i j pmt stream).programAt? k = m.programAt? k := by
  refine (programAt?_modifyStream ..).trans ?_
  unfold takeClock
  split
  · exact programAt?_modifyPmt (f := fun pmt : Pmt => { pmt with pcrPid := stream.pid })
      (fun _ => rfl) (c.located m i j) k
  · rfl

theorem streamAt?_takeClock (c : WriteCall) (m : TsMuxer) (i j i' j' : Nat) :
    (takeClock pmt stream (c.located m i j)).streamAt? i' j' = m.streamAt? i' j' := by
  unfold takeClock
  split
  · show ((c.located m i j).modifyPmt fun pmt => { pmt with pcrPid := stream.pid }).streamAt? i' j' =
      m.streamAt? i' j'
    simp only [streamAt?, modifyPmt, List.getElem?_modify, WriteCall.located]
    cases m.pat.pmt[i']? with
    | none => rfl
    | some pmt =>
      simp only [Option.map_eq_map, Option.map_some, Option.bind_some]
      split
      · rfl
      · rfl
  · rfl

theorem streamAt?_selected (c : WriteCall) (m : TsMuxer) (i j i' j' : Nat) :
    (c.selected m i j pmt stream).streamAt? i' j' =
      if i' = i ∧ j' = j then (m.streamAt? i' j').map c.stamped else m.streamAt? i' j' := by
  have hCur : (takeClock pmt stream (c.located m i j)).curPmtIndex = i ∧
      (takeClock pmt stream (c.located m i j)).curStreamIndex = j := by
    unfold takeClock
    split
    · exact ⟨rfl, rfl⟩
    · exact ⟨rfl, rfl⟩
  refine (streamAt?_modifyStream ..).trans ?_
  rw [hCur.1, hCur.2, streamAt?_takeClock]

theorem streamAt?_withTables (dts : Int64) (m : TsMuxer) (i j : Nat) :
    (withTables dts m).streamAt? i j = m.streamAt? i j := by
  unfold withTables
  split
  · rfl
  · rfl

theorem streamAt?_sent (m : TsMuxer) (packets : List TsPacket) (i j : Nat) :
    (m.sent packets).streamAt? i j =
      if i = m.curPmtIndex ∧ j = m.curStreamIndex then
        (m.streamAt? i j).map (counted packets.length)
      else m.streamAt? i j :=
  streamAt?_modifyStream _ (append m _) i j

theorem cur_selected (c : WriteCall) (m : TsMuxer) (i j : Nat) :
    (c.selected m i j pmt stream).curPmtIndex = i ∧
      (c.selected m i j pmt stream).curStreamIndex = j := by
  unfold WriteCall.selected takeClock
  split
  · exact ⟨rfl, rfl⟩
  · exact ⟨rfl, rfl⟩

theorem cur_withTables (dts : Int64) (m : TsMuxer) :
    (withTables dts m).curPmtIndex = m.curPmtIndex ∧
      (withTables dts m).curStreamIndex = m.curStreamIndex := by
  unfold withTables
  split
  · exact ⟨rfl, rfl⟩
  · exact ⟨rfl, rfl⟩

/-- The streams after a call: that of the call has its stamps and has counted its packets. -/
theorem streamAt?_written (c : WriteCall) (m : TsMuxer) (i j i' j' : Nat) :
    (c.written m i j pmt stream).streamAt? i' j' =
      if i' = i ∧ j' = j then (m.streamAt? i' j').map fun stream' =>
        counted (accessUnit (c.stamped stream) (clockPid pmt stream) c.withAud c.payload).length
          (c.stamped stream')
      else m.streamAt? i' j' := by
  have hCur := @cur_selected pmt stream c m i j
  have hTables := cur_withTables c.dts (c.selected m i j pmt stream)
  refine (streamAt?_sent ..).trans ?_
  rw [hTables.1, hTables.2, hCur.1, hCur.2, streamAt?_withTables, streamAt?_selected]
  split
  · rw [Option.map_map]
    rfl
  · rfl

theorem programAt?_withProgram (m : TsMuxer) (programNumber : UInt16) (info : List UInt8) (k : Nat) :
    (m.withProgram programNumber info).programAt? k =
      if k = m.pat.pmt.length then some m.pid else m.programAt? k := by
  simp only [programAt?, TsMuxer.withProgram]
  rcases Nat.lt_trichotomy k m.pat.pmt.length with h | h | h
  · rw [List.getElem?_append_left h, if_neg (Nat.ne_of_lt h)]
  · subst h
    rw [List.getElem?_append_right (Nat.le_refl _), Nat.sub_self, if_pos rfl]
    rfl
  · rw [List.getElem?_eq_none (by simp only [List.length_append, List.length_singleton]; omega),
      List.getElem?_eq_none (Nat.le_of_lt h), if_neg (Nat.ne_of_gt h)]

theorem streamAt?_withProgram (m : TsMuxer) (programNumber : UInt16) (info : List UInt8)
    (i j : Nat) : (m.withProgram programNumber info).streamAt? i j = m.streamAt? i j := by
  simp only [streamAt?, TsMuxer.withProgram]
  rcases Nat.lt_trichotomy i m.pat.pmt.length with h | h | h
  · rw [List.getElem?_append_left h]
  · subst h
    rw [List.getElem?_append_right (Nat.le_refl _), Nat.sub_self,
      List.getElem?_eq_none (Nat.le_refl m.pat.pmt.length)]
    rfl
  · rw [List.getElem?_eq_none (by simp only [List.length_append, List.length_singleton]; omega),
      List.getElem?_eq_none (Nat.le_of_lt h)]

theorem programAt?_withStream {i : Nat} (hPmt : m.pat.pmt[i]? = some pmt) (codecid : UInt8)
    (k : Nat) : (m.withStream i pmt codecid).programAt? k = m.programAt? k := by
  simp only [programAt?, TsMuxer.withStream, reset]
  by_cases h : i = k
  · subst h
    rw [List.getElem?_set_self (List.getElem?_eq_some_iff.mp hPmt).1, hPmt]
    rfl
  · rw [List.getElem?_set_ne h]

theorem streamAt?_withStream {i : Nat} (hPmt : m.pat.pmt[i]? = some pmt) (codecid : UInt8)
    (i' j' : Nat) : (m.withStream i pmt codecid).streamAt? i' j' =
      if i' = i ∧ j' = pmt.streams.length then some (newStream m.pid codecid)
      else m.streamAt? i' j' := by
  simp only [streamAt?, TsMuxer.withStream, reset]
  by_cases h : i = i'
  · subst h
    rw [List.getElem?_set_self (List.getElem?_eq_some_iff.mp hPmt).1, hPmt]
    simp only [Option.bind_some, Pmt.withStream, true_and]
    rcases Nat.lt_trichotomy j' pmt.streams.length with h | h | h
    · rw [List.getElem?_append_left h, if_neg (Nat.ne_of_lt h)]
    · subst h
      rw [List.getElem?_append_right (Nat.le_refl _), Nat.sub_self, if_pos rfl]
      rfl
    · rw [List.getElem?_eq_none (by simp only [List.length_append, List.length_singleton]; omega),
        List.getElem?_eq_none (Nat.le_of_lt h), if_neg (Nat.ne_of_gt h)]
  · rw [List.getElem?_set_ne h, if_neg (fun hEq => h hEq.1.symm)]

/-! ### That the pids differ -/

theorem mem_pids_of_program {i : Nat} {pid : UInt16} (h : m.programAt? i = some pid) :
    pid ∈ m.pids := by
  obtain ⟨pmt, hPmt, rfl⟩ := Option.map_eq_some_iff.mp h
  exact List.mem_flatMap.mpr ⟨pmt, List.mem_of_getElem? hPmt, List.mem_cons_self⟩

theorem mem_pids_of_stream {i j : Nat} (h : m.streamAt? i j = some stream) :
    stream.pid ∈ m.pids := by
  obtain ⟨pmt, hPmt, hStream⟩ := Option.bind_eq_some_iff.mp h
  exact List.mem_flatMap.mpr ⟨pmt, List.mem_of_getElem? hPmt,
    List.mem_cons_of_mem _ (List.mem_map_of_mem (List.mem_of_getElem? hStream))⟩

theorem Numbered.ne_zero (h : Numbered m) {pid : UInt16} (hMem : pid ∈ m.pids) :
    pid ≠ 0 := by
  rintro rfl
  have := (h.range 0 hMem).1
  change 0x100 ≤ 0 at this
  omega

theorem Numbered.program_inj (h : Numbered m) {i i' : Nat} {pid : UInt16}
    (hProgram : m.programAt? i = some pid) (hProgram' : m.programAt? i' = some pid) : i = i' := by
  obtain ⟨pmt, hPmt, rfl⟩ := Option.map_eq_some_iff.mp hProgram
  obtain ⟨pmt', hPmt', hEq⟩ := Option.map_eq_some_iff.mp hProgram'
  exact index_of_nodup h.nodup hPmt hPmt' List.mem_cons_self (hEq ▸ List.mem_cons_self)

/-- A stream and a program have different pids. -/
theorem Numbered.program_ne (h : Numbered m) {i i' j : Nat} {pid : UInt16}
    (hProgram : m.programAt? i = some pid) (hStream : m.streamAt? i' j = some stream) :
    pid ≠ stream.pid := by
  intro hEq
  obtain ⟨pmt, hPmt, rfl⟩ := Option.map_eq_some_iff.mp hProgram
  obtain ⟨pmt', hPmt', hStream⟩ := Option.bind_eq_some_iff.mp hStream
  have hMem : pmt.pid ∈ pmt'.streams.map (·.pid) :=
    hEq ▸ List.mem_map_of_mem (List.mem_of_getElem? hStream)
  obtain rfl := index_of_nodup h.nodup hPmt hPmt' List.mem_cons_self (List.mem_cons_of_mem _ hMem)
  obtain rfl := Option.some.inj (hPmt.symm.trans hPmt')
  exact (List.nodup_cons.mp ((List.nodup_flatMap.mp h.nodup).1 pmt (List.mem_of_getElem? hPmt))).1
    hMem

/-- Two streams have different pids. -/
theorem Numbered.stream_inj (h : Numbered m) {i i' j j' : Nat} {stream' : Pes}
    (hStream : m.streamAt? i j = some stream) (hStream' : m.streamAt? i' j' = some stream')
    (hEq : stream.pid = stream'.pid) : i = i' ∧ j = j' := by
  obtain ⟨pmt, hPmt, hStream⟩ := Option.bind_eq_some_iff.mp hStream
  obtain ⟨pmt', hPmt', hStream'⟩ := Option.bind_eq_some_iff.mp hStream'
  have hMem : stream.pid ∈ pmt.pids :=
    List.mem_cons_of_mem _ (List.mem_map_of_mem (List.mem_of_getElem? hStream))
  have hMem' : stream.pid ∈ pmt'.pids :=
    hEq ▸ List.mem_cons_of_mem _ (List.mem_map_of_mem (List.mem_of_getElem? hStream'))
  obtain rfl := index_of_nodup h.nodup hPmt hPmt' hMem hMem'
  obtain rfl := Option.some.inj (hPmt.symm.trans hPmt')
  have hNodup := (List.nodup_cons.mp
    ((List.nodup_flatMap.mp h.nodup).1 pmt (List.mem_of_getElem? hPmt))).2
  obtain ⟨hj, rfl⟩ := List.getElem?_eq_some_iff.mp hStream
  obtain ⟨hj', rfl⟩ := List.getElem?_eq_some_iff.mp hStream'
  refine ⟨rfl, (@List.Nodup.getElem_inj_iff _ _ hNodup _ ?_ _ ?_).mp ?_⟩
  · rwa [List.length_map]
  · rwa [List.length_map]
  · rwa [List.getElem_map, List.getElem_map]

end TsMuxer

/-- The pids are numbered in every state that runs reach. -/
theorem reached_numbered {allowed : Session → Call → Prop} {s : Session}
    (hAllowed : ∀ s call, allowed s call → Fits s call) (h : (muxer.guard allowed).Reached s) :
    Limited s.muxer ∧ Numbered s.muxer :=
  reached_invariant (I := fun s => Numbered s.muxer) (fun s call _ _ => hAllowed s call) .new
    (fun _ programNumber info hSmall hs _ _ => hs.withProgram hSmall programNumber info)
    (fun _ _ _ codecid hSmall hs hPmt hRoom => hs.withStream hSmall codecid hPmt hRoom)
    (fun _ hs => hs.same rfl rfl hs.streams) (fun _ hs => hs.same rfl rfl hs.streams)
    (fun _ _ hs => hs.same rfl rfl hs.streams)
    (fun _ c i j _ _ _ hs _ _ => hs.written c i j) h

end Xiu.Mpegts
