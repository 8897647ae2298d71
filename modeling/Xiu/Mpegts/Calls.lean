import Xiu.Mpegts.Writes
import Xiu.ProofKit.System

/-! The TS muxer in use: the runs of calls to it, the calls of `write` in which nothing overflows, and
that each of them, in any run, writes whole packets. -/

namespace Xiu.Mpegts

open Bytesio ProofKit TsMuxer

inductive Call where
  | addProgram (programNumber : UInt16) (info : List UInt8)
  | pmtAddStream (pmtIndex : Nat) (codecid : UInt8)
  | addStream (codecid : UInt8)
  | write (c : WriteCall)
  | reset
  | getData

/-- A muxer in use: the bytes that `get_data` handed out, for how many programs the tables were sent the
last time, and the calls of `write` that returned without an error, with the state that each left. -/
structure Session where
  muxer : TsMuxer
  taken : List UInt8
  told : Nat
  history : List (WriteCall × TsMuxer)

def Session.new : Session := ⟨.new, [], 0, []⟩

/-- All that the muxer has written. -/
def Session.output (s : Session) : List UInt8 := s.taken ++ s.muxer.bytesWriter.bytes

/-- The state after a call that returned, with an error or without. -/
def returned {α : Type} : EStateM.Result MuxFault TsMuxer α → Option TsMuxer
  | .ok _ m => some m
  | .error (.error _) m => some m
  | .error .panic _ => none

/-- The state that a call leaves, where it does not panic. -/
def Call.effect : Call → TsMuxer → Option TsMuxer
  | .addProgram programNumber info, m => returned (TsMuxer.addProgram programNumber info m)
  | .pmtAddStream pmtIndex codecid, m => returned (TsMuxer.pmtAddStream pmtIndex codecid m)
  | .addStream codecid, m => returned (TsMuxer.addStream codecid m)
  | .write c, m => returned (c.run m)
  | .reset, m => some m.reset
  | .getData, m => some m.getData.2

/-- The bytes that a call hands out. -/
def Call.handsOut : Call → TsMuxer → List UInt8
  | .getData, m => m.getData.1
  | _, _ => []

/-- The calls of `write` that returned without an error. -/
def Call.done : Call → TsMuxer → List (WriteCall × TsMuxer)
  | .write c, m =>
    match c.run m with
    | .ok _ m' => [(c, m')]
    | .error _ _ => []
  | _, _ => []

/-- The session after a call.  A call has sent the tables when it has moved their counter. -/
def Session.after (s : Session) (call : Call) (m : TsMuxer) : Session where
  muxer := m
  taken := s.taken ++ call.handsOut s.muxer
  told :=
    if m.patContinuityCounter = s.muxer.patContinuityCounter then s.told else m.pat.pmt.length
  history := s.history ++ call.done s.muxer

/-- A muxer and the calls to it. -/
def muxer : System Session Call where
  init s := s = .new
  step s call s' := ∃ m, call.effect s.muxer = some m ∧ s' = s.after call m

/-- The session after some calls, where none of them panics. -/
def Session.afterAll (s : Session) : List Call → Option Session
  | [] => some s
  | call :: rest => (call.effect s.muxer).bind fun m => (s.after call m).afterAll rest

theorem run_afterAll {s s' : Session} {calls : List Call} (h : s.afterAll calls = some s') :
    muxer.Run s calls s' := by
  induction calls generalizing s with
  | nil =>
    obtain rfl := Option.some.inj h
    exact .nil s
  | cons call rest ih =>
    obtain ⟨m, hEffect, hRest⟩ := Option.bind_eq_some_iff.mp h
    exact .cons ⟨m, hEffect, rfl⟩ (ih hRest)

/-- What some calls to a new muxer lead to. -/
theorem exists_reached {P : Session → Bool} (calls : List Call)
    (h : (Session.new.afterAll calls).any P = true) :
    ∃ s, muxer.Reached s ∧ P s = true := by
  cases hAfter : Session.new.afterAll calls with
  | none =>
    rw [hAfter] at h
    cases h
  | some s =>
    rw [hAfter] at h
    exact ⟨s, ⟨_, calls, rfl, run_afterAll hAfter⟩, h⟩

/-- Nothing overflows in a call of `write`: the stream found is there, the time of the next tables fits,
the section of each program fits a packet when the tables are due, and the access unit fits. -/
def WriteFits (m : TsMuxer) (c : WriteCall) : Prop :=
  ∀ i j, findIn c.pid m.pat.pmt 0 0 = some (i, j) →
    ∃ pmt stream, m.pat.pmt[i]? = some pmt ∧ pmt.streams[j]? = some stream ∧
      PeriodFits (period pmt stream m.patPeriod) ∧
      (Due (period pmt stream m.patPeriod) c.dts → ∀ pmt ∈ m.pat.pmt, pmt.sectionLen ≤ 183) ∧
      (c.payload ≠ [] →
        UnitFits (c.stamped stream) (clockPid pmt stream) c.withAud c.payload)

/-- The calls in which nothing overflows. -/
def Fits (s : Session) : Call → Prop
  | .write c => WriteFits s.muxer c
  | _ => True

/-- A muxer with a video stream. -/
def oneStream : TsMuxer :=
  (TsMuxer.new.withProgram 1 []).withStream 0 ⟨0x100, 1, 0, 0x1FFF, [], []⟩ PSI_STREAM_H264

theorem fits_oneStream : WriteFits oneStream ⟨0x101, 9000, 9000, 1, [1, 2, 3]⟩ := by
  intro i j hFind
  obtain ⟨rfl, rfl⟩ := Prod.mk.inj (Option.some.inj hFind)
  exact ⟨_, _, rfl, rfl, Or.inl rfl, fun _ => by decide, fun _ => by decide⟩

/-! ### What a call leaves -/

/-- A call of `write` finds a stream and leaves the state with its packets. -/
structure Wrote (m : TsMuxer) (c : WriteCall) (i j : Nat) (pmt : Pmt) (stream : Pes) : Prop where
  found : findIn c.pid m.pat.pmt 0 0 = some (i, j)
  isPmt : m.pat.pmt[i]? = some pmt
  isStream : pmt.streams[j]? = some stream
  run : c.run m = .ok () (c.written m i j pmt stream)

/-- A call in which nothing overflows writes its packets, or finds no stream. -/
theorem write_returns {m : TsMuxer} {c : WriteCall} (hSmall : Limited m) (h : WriteFits m c) :
    c.run m = .error (.error .streamNotFound) (m.missed c.withAud) ∨
      ∃ i j pmt stream, Wrote m c i j pmt stream := by
  cases hFind : findIn c.pid m.pat.pmt 0 0 with
  | none => exact .inl (run_notFound hFind)
  | some p =>
    obtain ⟨i, j⟩ := p
    obtain ⟨pmt, stream, hPmt, hStream, hPeriod, hTables, hUnit⟩ := h i j hFind
    exact .inr ⟨i, j, pmt, stream, hFind, hPmt, hStream,
      run_ok hSmall hFind hPmt hStream hPeriod hTables hUnit⟩

/-- A call in which nothing overflows returns. -/
theorem effect_of_fits {m : TsMuxer} {c : WriteCall} (hSmall : Limited m) (h : WriteFits m c) :
    ∃ m', (Call.write c).effect m = some m' := by
  rcases write_returns hSmall h with hRun | ⟨i, j, pmt, stream, hWrote⟩
  · exact ⟨_, congrArg returned hRun⟩
  · exact ⟨_, congrArg returned hWrote.run⟩

theorem TsMuxer.Limited.new : Limited .new where
  programs := Nat.zero_le _
  patCounter := by decide
  pmtCounter := by decide

theorem TsMuxer.Limited.withProgram {m : TsMuxer} (h : Limited m) (hRoom : m.pat.pmt.length ≠ 4)
    (programNumber : UInt16) (info : List UInt8) : Limited (m.withProgram programNumber info) := by
  have hPrograms := h.programs
  refine ⟨?_, h.patCounter, h.pmtCounter⟩
  simp only [TsMuxer.withProgram, List.length_append, List.length_singleton]
  omega

theorem TsMuxer.Limited.withStream {m : TsMuxer} (h : Limited m) (i : Nat) (pmt : Pmt) (codecid : UInt8) :
    Limited (m.withStream i pmt codecid) := by
  refine ⟨?_, h.patCounter, h.pmtCounter⟩
  simpa only [TsMuxer.withStream, TsMuxer.reset, List.length_set] using h.programs

theorem iterate_nextCounter_lt (n : Nat) {continuityCounter : UInt8} (h : continuityCounter < 16) :
    nextCounter^[n] continuityCounter < 16 := by
  cases n with
  | zero => exact h
  | succ n =>
    rw [Function.iterate_succ_apply']
    exact nextCounter_lt _

theorem TsMuxer.Limited.written {m : TsMuxer} (h : Limited m) (c : WriteCall) (i j : Nat) (pmt : Pmt)
    (stream : Pes) : Limited (c.written m i j pmt stream) := by
  have hSelected : Limited (c.selected m i j pmt stream) := h.selected c i j
  have hTables : Limited (withTables c.dts (c.selected m i j pmt stream)) := by
    unfold withTables
    split
    · exact ⟨hSelected.programs, nextCounter_lt _, iterate_nextCounter_lt _ hSelected.pmtCounter⟩
    · exact hSelected
  refine ⟨?_, hTables.patCounter, hTables.pmtCounter⟩
  simpa only [WriteCall.written, sent, append, modifyStream, modifyPmt, List.length_modify]
    using hTables.programs

/-! ### What runs keep -/

section

variable {m m' : TsMuxer}

theorem addProgram_returned {programNumber : UInt16} {info : List UInt8}
    (h : returned (TsMuxer.addProgram programNumber info m) = some m') :
    m' = m ∨ m.pat.pmt.length ≠ 4 ∧ m' = m.withProgram programNumber info := by
  unfold TsMuxer.addProgram at h
  split at h
  · exact .inl (Option.some.inj h).symm
  · split at h
    · exact .inl (Option.some.inj h).symm
    · rename_i hRoom
      exact .inr ⟨hRoom, (Option.some.inj h).symm⟩

theorem pmtAddStream_returned {i : Nat} {codecid : UInt8}
    (h : returned (TsMuxer.pmtAddStream i codecid m) = some m') :
    m' = m ∨ ∃ pmt, m.pat.pmt[i]? = some pmt ∧ pmt.streams.length ≠ 4 ∧
      m' = m.withStream i pmt codecid := by
  unfold TsMuxer.pmtAddStream at h
  split at h
  · cases h
  · rename_i pmt hPmt
    split at h
    · exact .inl (Option.some.inj h).symm
    · rename_i hRoom
      exact .inr ⟨pmt, hPmt, hRoom, (Option.some.inj h).symm⟩

theorem returned_bind {α β : Type} {x : Mux α} {f : α → Mux β}
    (h : returned ((x >>= f) m) = some m') :
    returned (x m) = some m' ∨ ∃ a m1, x m = .ok a m1 ∧ returned (f a m1) = some m' := by
  cases hx : x m with
  | ok a m1 =>
    rw [bind_of_ok hx] at h
    exact .inr ⟨a, m1, rfl, h⟩
  | error e m1 =>
    rw [bind_of_error hx] at h
    cases e with
    | error value => exact .inl h
    | panic => cases h

theorem firstProgram_returned (h : returned (firstProgram m) = some m') :
    m' = m ∨ m.pat.pmt = [] ∧ m' = m.withProgram 1 [] := by
  unfold firstProgram at h
  split at h
  · rename_i hEmpty
    exact (addProgram_returned h).imp id fun hMove => ⟨List.isEmpty_iff.mp hEmpty, hMove.2⟩
  · exact .inl (Option.some.inj h).symm

end

/-- What runs keep: an invariant of the moves that calls are made of, `add_stream` being a program,
where there is none, and a stream. -/
theorem reached_invariant {allowed : Session → Call → Prop} {I : Session → Prop} {s : Session}
    (hAllowed : ∀ s call, Limited s.muxer → I s → allowed s call → Fits s call)
    (hInit : I .new)
    (hProgram : ∀ s programNumber info, Limited s.muxer → I s → s.muxer.pat.pmt.length ≠ 4 →
      (allowed s (.addProgram programNumber info) ∨
        s.muxer.pat.pmt = [] ∧ programNumber = 1 ∧ info = []) →
      I { s with muxer := s.muxer.withProgram programNumber info })
    (hStream : ∀ s i pmt codecid, Limited s.muxer → I s → s.muxer.pat.pmt[i]? = some pmt →
      pmt.streams.length ≠ 4 → I { s with muxer := s.muxer.withStream i pmt codecid })
    (hReset : ∀ s, I s → I { s with muxer := s.muxer.reset })
    (hTaken : ∀ s, I s →
      I { s with muxer := s.muxer.getData.2, taken := s.taken ++ s.muxer.getData.1 })
    (hMissed : ∀ s withAud, I s → I { s with muxer := s.muxer.missed withAud })
    (hWrote : ∀ s c i j pmt stream, Limited s.muxer → I s → allowed s (.write c) →
      Wrote s.muxer c i j pmt stream → I (s.after (.write c) (c.written s.muxer i j pmt stream)))
    (h : (muxer.guard allowed).Reached s) : Limited s.muxer ∧ I s := by
  have hStreamCall : ∀ s i codecid m, Limited s.muxer ∧ I s →
      returned (TsMuxer.pmtAddStream i codecid s.muxer) = some m →
      Limited m ∧ I { s with muxer := m } := by
    intro s i codecid m hs hReturned
    rcases pmtAddStream_returned hReturned with rfl | ⟨pmt, hPmt, hRoom, rfl⟩
    · exact hs
    · exact ⟨hs.1.withStream i pmt codecid, hStream s i pmt codecid hs.1 hs.2 hPmt hRoom⟩
  have hFirstMove : ∀ s m, Limited s.muxer ∧ I s →
      (m = s.muxer ∨ s.muxer.pat.pmt = [] ∧ m = s.muxer.withProgram 1 []) →
      Limited m ∧ I { s with muxer := m } := by
    intro s m hs hMove
    rcases hMove with rfl | ⟨hEmpty, rfl⟩
    · exact hs
    · have hRoom : s.muxer.pat.pmt.length ≠ 4 := by
        rw [hEmpty]
        decide
      exact ⟨hs.1.withProgram hRoom 1 [], hProgram s 1 [] hs.1 hs.2 hRoom (.inr ⟨hEmpty, rfl, rfl⟩)⟩
  -- none of the calls but `write` moves the counter of the tables
  have hAfter : ∀ (s : Session) (call : Call) (m : TsMuxer),
      m.patContinuityCounter = s.muxer.patContinuityCounter → call.handsOut s.muxer = [] →
      call.done s.muxer = [] → s.after call m = { s with muxer := m } := by
    intro s call m hCounter hHandsOut hDone
    simp only [Session.after, if_pos hCounter, hHandsOut, hDone, List.append_nil]
  refine h.invariant (I := fun s => Limited s.muxer ∧ I s) ?_ ?_
  · rintro s rfl
    exact ⟨.new, hInit⟩
  · rintro s call s' hs ⟨hCall, m, hEffect, rfl⟩
    cases call with
    | addProgram programNumber info =>
      rcases addProgram_returned hEffect with rfl | ⟨hRoom, rfl⟩
      · rw [hAfter s _ _ rfl rfl rfl]
        exact hs
      · rw [hAfter s (.addProgram programNumber info) (s.muxer.withProgram programNumber info) rfl rfl
          rfl]
        exact ⟨hs.1.withProgram hRoom programNumber info,
          hProgram s programNumber info hs.1 hs.2 hRoom (.inl hCall)⟩
    | pmtAddStream i codecid =>
      rw [hAfter s _ m (by rcases pmtAddStream_returned hEffect with rfl | ⟨_, -, -, rfl⟩ <;> rfl) rfl
        rfl]
      exact hStreamCall s i codecid m hs hEffect
    | addStream codecid =>
      rcases returned_bind hEffect with hFirst | ⟨_, m1, hFirst, hSecond⟩
      · have hMove := firstProgram_returned hFirst
        rw [hAfter s _ m (by rcases hMove with rfl | ⟨-, rfl⟩ <;> rfl) rfl rfl]
        exact hFirstMove s m hs hMove
      · have hMove := @firstProgram_returned s.muxer m1 (by rw [hFirst]; rfl)
        have hs1 := hFirstMove s m1 hs hMove
        have hCounter : m1.patContinuityCounter = s.muxer.patContinuityCounter := by
          rcases hMove with rfl | ⟨-, rfl⟩ <;> rfl
        rw [hAfter s _ m (by
          rcases pmtAddStream_returned hSecond with rfl | ⟨_, -, -, rfl⟩ <;> exact hCounter) rfl rfl]
        exact hStreamCall { s with muxer := m1 } 0 codecid m hs1 hSecond
    | write c =>
      rcases write_returns hs.1 (hAllowed s _ hs.1 hs.2 hCall) with hRun | ⟨i, j, pmt, stream, hWrites⟩
      · have hEq : returned (c.run s.muxer) = some m := hEffect
        rw [hRun] at hEq
        obtain rfl := Option.some.inj hEq
        have hDone : Call.done (.write c) s.muxer = [] := by
          simp only [Call.done, hRun]
        rw [hAfter s (.write c) (s.muxer.missed c.withAud) rfl rfl hDone]
        exact ⟨⟨hs.1.programs, hs.1.patCounter, hs.1.pmtCounter⟩, hMissed s c.withAud hs.2⟩
      · have hEq : returned (c.run s.muxer) = some m := hEffect
        rw [hWrites.run] at hEq
        obtain rfl := Option.some.inj hEq
        exact ⟨hs.1.written c i j pmt stream, hWrote s c i j pmt stream hs.1 hs.2 hCall hWrites⟩
    | reset =>
      obtain rfl := Option.some.inj hEffect
      rw [hAfter s .reset s.muxer.reset rfl rfl rfl]
      exact ⟨⟨hs.1.programs, hs.1.patCounter, hs.1.pmtCounter⟩, hReset s hs.2⟩
    | getData =>
      obtain rfl := Option.some.inj hEffect
      have hEq : s.after .getData s.muxer.getData.2 =
          { s with muxer := s.muxer.getData.2, taken := s.taken ++ s.muxer.getData.1 } := by
        simp only [Session.after, TsMuxer.getData, if_true, Call.handsOut, Call.done, List.append_nil]
      show Limited (s.after .getData s.muxer.getData.2).muxer ∧ I (s.after .getData s.muxer.getData.2)
      rw [hEq]
      exact ⟨⟨hs.1.programs, hs.1.patCounter, hs.1.pmtCounter⟩, hTaken s hs.2⟩

end Xiu.Mpegts
