import Mathlib.Data.List.DropRight
import Xiu.Hls.M3u8

/-! The playlists of an HLS stream after any sequence of segments: the window of the live playlist, its
sequence number, and the durations that the playlists announce. -/

namespace Xiu.Hls

open ProofKit

/-- A call of `add_segment`. -/
structure AddSegment where
  duration : Int
  discontinuity : Bool
  isEof : Bool
  tsData : List UInt8

def AddSegment.run (c : AddSegment) : Acts M3u8 Unit :=
  M3u8.addSegment c.duration c.discontinuity c.isEof c.tsData

/-- The segment that a call makes, from its number. -/
def AddSegment.segment (folder : Text) (c : AddSegment) (number : Nat) : Segment :=
  ⟨c.duration, c.discontinuity, Ts.tsFileName number, folder ++ ['/'] ++ Ts.tsFileName number, c.isEof⟩

/-- The segments that some calls make. -/
def segmentsOf (folder : Text) (calls : List AddSegment) : List Segment :=
  calls.mapIdx fun number c => c.segment folder number

/-! ### What a playlist says -/

/-- The segments that a playlist lists, by their durations and names. -/
def listed (lines : List Line) : List (Int × Text) :=
  lines.filterMap fun line =>
    match line with
    | .extinf duration name => some (duration, name)
    | _ => none

def targetDurations (lines : List Line) : List Int :=
  lines.filterMap fun line =>
    match line with
    | .targetDuration seconds => some seconds
    | _ => none

def mediaSequences (lines : List Line) : List Nat :=
  lines.filterMap fun line =>
    match line with
    | .mediaSequence n => some n
    | _ => none

/-- Milliseconds as the nearest number of seconds. -/
def rounded (duration : Int) : Int := (duration + 500) / 1000

/-- A playlist has one target duration, and every segment that it lists is as short. -/
def MeetsTarget (lines : List Line) : Prop :=
  ∃ target, targetDurations lines = [target] ∧ ∀ p ∈ listed lines, rounded p.1 ≤ target

/-- The calls do not panic, and then the live playlist lists the last segments, of which there are
`live_ts_count` or all, in order, its sequence number counts those before, and both playlists meet their
target durations. -/
def Obeys (s : Acting M3u8) (calls : List AddSegment) : Prop :=
  ∃ s' live s'', handleAll AddSegment.run calls s = .ok () s' ∧
    M3u8.refreshPlaylist s' = .ok live s'' ∧
    listed live = ((segmentsOf s.owner.m3u8Folder calls).rtake s.owner.liveTsCount).map
      (fun segment => (segment.duration, segment.name)) ∧
    mediaSequences live = [calls.length - s.owner.liveTsCount] ∧ MeetsTarget live ∧
    (s.owner.needRecord → MeetsTarget s'.owner.vodM3u8Content)

/-- There is room for a segment, their numbers and durations fit, none but the last of those that are
listed ends the stream, and where the stream is recorded none is longer than the target duration that
the configured number of seconds, taken for milliseconds, gives. -/
structure Orderly (duration : Int) (s : M3u8) (calls : List AddSegment) : Prop where
  room : calls ≠ [] → s.liveTsCount ≠ 0
  numbers : calls.length < 2 ^ 32
  configured : duration + 999 < 2 ^ 63
  durations : ∀ c ∈ calls, c.duration + 999 < 2 ^ 63
  ends : ∀ c ∈ (calls.rtake s.liveTsCount).dropLast, c.isEof = false
  recorded : s.needRecord → ∀ c ∈ calls, rounded c.duration ≤ (duration + 999).tdiv 1000

/-! ### Names -/

theorem tsFileName_injective {n m : Nat} (h : Ts.tsFileName n = Ts.tsFileName m) : n = m := by
  have hDigits : Nat.toDigits 10 n = Nat.toDigits 10 m := List.append_cancel_right h
  rw [← Nat.ofDigitChars_toDigits (b := 10) (n := n) (by decide) (by decide), hDigits,
    Nat.ofDigitChars_toDigits (by decide) (by decide)]

variable {folder : Text} {calls : List AddSegment}

theorem segmentsOf_concat (folder : Text) (calls : List AddSegment) (c : AddSegment) :
    segmentsOf folder (calls ++ [c]) =
      segmentsOf folder calls ++ [c.segment folder calls.length] := List.mapIdx_concat

theorem length_segmentsOf : (segmentsOf folder calls).length = calls.length := List.length_mapIdx

/-- What of the segments does not depend on their numbers. -/
theorem map_segmentsOf {α : Type} (f : Segment → α) (g : AddSegment → α)
    (h : ∀ c number, f (c.segment folder number) = g c) :
    (segmentsOf folder calls).map f = calls.map g := by
  induction calls using List.reverseRecOn with
  | nil => rfl
  | append_singleton calls c ih =>
    rw [segmentsOf_concat, List.map_append, ih, List.map_append, List.map_singleton, h]
    rfl

theorem path_of_mem {segment : Segment} (h : segment ∈ segmentsOf folder calls) :
    ∃ number < calls.length, segment.path = folder ++ ['/'] ++ Ts.tsFileName number := by
  obtain ⟨number, hNumber, rfl⟩ := List.mem_mapIdx.mp h
  exact ⟨number, hNumber, rfl⟩

theorem nodup_paths : ((segmentsOf folder calls).map (·.path)).Nodup := by
  induction calls using List.reverseRecOn with
  | nil => exact List.nodup_nil
  | append_singleton calls c ih =>
    rw [segmentsOf_concat, List.map_append, List.nodup_append]
    refine ⟨ih, List.pairwise_singleton _ _, ?_⟩
    intro path hPath path' hPath' hEq
    obtain ⟨segment, hSegment, rfl⟩ := List.mem_map.mp hPath
    obtain ⟨number, hNumber, hOld⟩ := path_of_mem hSegment
    rw [List.mem_singleton.mp hPath', hOld] at hEq
    have hSame := tsFileName_injective (List.append_cancel_left hEq)
    omega

/-! ### Files -/

theorem present_create (path p : Text) (contents : Contents) (effects : List Effect) :
    Present path (effects ++ [.create p contents]) = (Present path effects || p == path) := by
  rw [Present, List.foldl_append]
  rfl

theorem present_remove (path p : Text) (effects : List Effect) :
    Present path (effects ++ [.removeFile p]) = (Present path effects && p != path) := by
  rw [Present, List.foldl_append]
  rfl

/-- The hub is not told of anything. -/
def Quiet (effects : List Effect) : Prop :=
  ∀ effect ∈ effects, ∀ appName streamName segment, effect ≠ .onHls appName streamName segment

theorem quiet_nil : Quiet [] := by
  intro effect hMem
  cases hMem

theorem quiet_append {first rest : List Effect} (h : Quiet first) (hRest : Quiet rest) :
    Quiet (first ++ rest) := by
  intro effect hMem
  exact (List.mem_append.mp hMem).elim (h effect) (hRest effect)

theorem quiet_create (path : Text) (contents : Contents) : Quiet [.create path contents] := by
  intro effect hMem appName streamName segment hEq
  rw [List.mem_singleton.mp hMem] at hEq
  cases hEq

theorem quiet_remove (path : Text) : Quiet [.removeFile path] := by
  intro effect hMem appName streamName segment hEq
  rw [List.mem_singleton.mp hMem] at hEq
  cases hEq

theorem removeFile_ok {τ : Type} {path : Text} {s : Acting τ} (h : Present path s.effects = true) :
    removeFile path s = .ok () { s with effects := s.effects ++ [.removeFile path] } := by
  rw [removeFile, bind_get, if_pos h]
  rfl

/-! ### One segment -/

namespace M3u8

theorem onTs_of_ok {α : Type} {x : Acts Ts α} {s : Acting M3u8} {a : α} {t : Acting Ts}
    (h : x ⟨s.owner.tsHandler, s.effects⟩ = .ok a t) :
    onTs x s = .ok a ⟨{ s.owner with tsHandler := t.owner }, t.effects⟩ := by
  simp only [onTs, onPart, h]

theorem onTs_of_error {α : Type} {x : Acts Ts α} {s : Acting M3u8} {e : MediaFault} {t : Acting Ts}
    (h : x ⟨s.owner.tsHandler, s.effects⟩ = .error e t) :
    onTs x s = .error e ⟨{ s.owner with tsHandler := t.owner }, t.effects⟩ := by
  simp only [onTs, onPart, h]

theorem delete_ok (owner : M3u8) {path : Text} {effects : List Effect}
    (h : Present path effects = true) : onTs (Ts.delete path) ⟨owner, effects⟩ =
      .ok () ⟨owner, effects ++ [.removeFile path]⟩ :=
  @onTs_of_ok Unit (Ts.delete path) ⟨owner, effects⟩ () _ (removeFile_ok h)

/-- The window without its first segment, where it is full. -/
theorem popFront_ok {s : Acting M3u8} {segments : List Segment} {k : Nat}
    (hCount : s.owner.liveTsCount = k + 1) (hSegments : s.owner.segments = segments.rtake (k + 1))
    (hSequence : s.owner.sequenceNo = segments.length - (k + 1)) (hLength : segments.length < 2 ^ 32)
    (hPaths : (segments.map (·.path)).Nodup)
    (hPresent : ∀ segment ∈ s.owner.segments, Present segment.path s.effects) :
    ∃ effects, popFront s = .ok ()
        ⟨{ s.owner with
            segments := segments.rtake k, sequenceNo := segments.length + 1 - (k + 1) },
          s.effects ++ effects⟩ ∧
      Quiet effects ∧ ∀ segment ∈ segments.rtake k, Present segment.path (s.effects ++ effects) := by
  by_cases hFull : segments.length ≥ k + 1
  · obtain ⟨oldest, hWindow⟩ : ∃ oldest, segments.rtake (k + 1) = oldest :: segments.rtake k := by
      have hLt : segments.length - (k + 1) < segments.length := by omega
      refine ⟨segments[segments.length - (k + 1)], ?_⟩
      rw [List.rtake, List.drop_eq_getElem_cons hLt, List.rtake]
      congr 2
      omega
    rw [hWindow] at hSegments
    have hGe : s.owner.segments.length ≥ s.owner.liveTsCount := by
      rw [hSegments, hCount, ← hWindow, List.rtake, List.length_drop]
      omega
    have hSublist : (oldest :: segments.rtake k).Sublist segments := by
      rw [← hWindow]
      exact List.drop_sublist _ _
    have hNew : oldest.path ∉ (segments.rtake k).map (·.path) :=
      (List.nodup_cons.mp ((hSublist.map _).nodup hPaths)).1
    have hRest : ∀ segment ∈ segments.rtake k, Present segment.path s.effects := fun segment hMem =>
      hPresent segment (hSegments ▸ List.mem_cons_of_mem _ hMem)
    have hNext : segments.length - (k + 1) + 1 = segments.length + 1 - (k + 1) := by omega
    have hFits : checkedUnsigned 64 (s.owner.sequenceNo + 1) =
        .ok (segments.length + 1 - (k + 1)) := by
      rw [hSequence, hNext]
      exact if_pos (by omega)
    rw [popFront, bind_get, if_pos hGe]
    simp only [hSegments]
    rw [bind_modify]
    cases hRecord : s.owner.needRecord with
    | true =>
      refine ⟨[], ?_, quiet_nil, (List.append_nil s.effects).symm ▸ hRest⟩
      simp only [Bool.not_true, Bool.false_eq_true, if_false, hFits, List.append_nil]
      rfl
    | false =>
      have hOldest := hPresent oldest (hSegments ▸ List.mem_cons_self)
      refine ⟨[.removeFile oldest.path], ?_, quiet_remove _, ?_⟩
      · simp only [Bool.not_false, if_true]
        rw [bind_of_ok (delete_ok _ hOldest)]
        simp only [hFits]
        rfl
      · intro segment hMem
        rw [present_remove, hRest segment hMem, Bool.true_and, bne_iff_ne]
        exact fun hEq => hNew (hEq ▸ List.mem_map_of_mem hMem)
  · have hAll : ∀ j, k ≤ j → segments.rtake j = segments := by
      intro j hj
      rw [List.rtake, Nat.sub_eq_zero_of_le (by omega), List.drop_zero]
    have hNot : ¬s.owner.segments.length ≥ s.owner.liveTsCount := by
      rw [hSegments, hCount, hAll _ (by omega)]
      exact hFull
    refine ⟨[], ?_, quiet_nil, ?_⟩
    · rw [popFront, bind_get, if_neg hNot, List.append_nil]
      have hOwner : s.owner = { s.owner with
          segments := segments.rtake k, sequenceNo := segments.length + 1 - (k + 1) } := by
        have hZero : segments.length + 1 - (k + 1) = s.owner.sequenceNo := by
          rw [hSequence]
          omega
        rw [hZero, hAll k (Nat.le_refl k), ← hAll (k + 1) (Nat.le_succ k), ← hSegments]
      exact congrArg (fun owner => EStateM.Result.ok PUnit.unit (⟨owner, s.effects⟩ : Acting M3u8)) hOwner
    · rw [hAll k (Nat.le_refl k), ← hAll (k + 1) (Nat.le_succ k), ← hSegments, List.append_nil]
      exact hPresent

/-- A window without room. -/
theorem popFront_panics {s : Acting M3u8} (hCount : s.owner.liveTsCount = 0)
    (hSegments : s.owner.segments = []) : popFront s = .error .panic s := by
  have hGe : s.owner.segments.length ≥ s.owner.liveTsCount := by
    rw [hCount]
    exact Nat.zero_le _
  rw [popFront, bind_get, if_pos hGe]
  simp only [hSegments]
  rfl

end M3u8

theorem Ts.write_ok {data : List UInt8} {s : Acting Ts} (h : s.owner.tsNumber + 1 < 2 ^ 32) :
    Ts.write data s = .ok (tsFileName s.owner.tsNumber, s.owner.tsFilePath (tsFileName s.owner.tsNumber))
      ⟨{ s.owner with tsNumber := s.owner.tsNumber + 1 }, s.effects ++
        [.create (s.owner.tsFilePath (tsFileName s.owner.tsNumber)) (.stream data)]⟩ := by
  have hFits : checkedUnsigned 32 (s.owner.tsNumber + 1) = .ok (s.owner.tsNumber + 1) := if_pos h
  rw [Ts.write, bind_get]
  simp only [hFits]
  rfl

theorem Ts.write_panics {data : List UInt8} {s : Acting Ts} (h : ¬s.owner.tsNumber + 1 < 2 ^ 32) :
    Ts.write data s = .error .panic s := by
  have hFits : checkedUnsigned 32 (s.owner.tsNumber + 1) = .error .panic := if_neg h
  rw [Ts.write, bind_get]
  simp only [hFits]
  rfl

namespace M3u8

/-- A new segment in a window that has room. -/
def withSegment (self : M3u8) (c : AddSegment) : M3u8 :=
  let segment := c.segment self.tsHandler.livePath self.tsHandler.tsNumber
  { self with
    duration := max c.duration self.duration
    tsHandler := { self.tsHandler with tsNumber := self.tsHandler.tsNumber + 1 }
    vodM3u8Content := if self.needRecord then self.vodM3u8Content ++ entry segment else self.vodM3u8Content
    segments := self.segments ++ [segment] }

theorem addSegment_ok {s s1 : Acting M3u8} {c : AddSegment} (hRoom : popFront s = .ok () s1)
    (hNumber : s1.owner.tsHandler.tsNumber + 1 < 2 ^ 32) :
    c.run s = .ok () ⟨s1.owner.withSegment c, s1.effects ++
      [.create (c.segment s1.owner.tsHandler.livePath s1.owner.tsHandler.tsNumber).path
        (.stream c.tsData)]⟩ := by
  have hWrite := @onTs_of_ok _ (Ts.write c.tsData)
    ⟨{ s1.owner with duration := max c.duration s1.owner.duration }, s1.effects⟩ _ _
    (Ts.write_ok hNumber)
  rw [AddSegment.run, addSegment, bind_of_ok hRoom, bind_modify, bind_of_ok hWrite]
  simp only [bind_get, withSegment]
  cases s1.owner.needRecord with
  | true => rfl
  | false => rfl

theorem addSegment_panics {s s1 : Acting M3u8} {c : AddSegment} (hRoom : popFront s = .ok () s1)
    (hNumber : ¬s1.owner.tsHandler.tsNumber + 1 < 2 ^ 32) : Fails .panic c.run s := by
  have hWrite := @onTs_of_error _ (Ts.write c.tsData)
    ⟨{ s1.owner with duration := max c.duration s1.owner.duration }, s1.effects⟩ _ _
    (Ts.write_panics hNumber)
  rw [AddSegment.run, addSegment, Fails, bind_of_ok hRoom, bind_modify]
  exact ⟨_, bind_of_error hWrite⟩

end M3u8

/-! ### Any number of segments -/

theorem orFail_eq_ok {τ α : Type} {x : Except MediaFault α} {a : α} {s s' : Acting τ}
    (h : orFail x s = .ok a s') : x = .ok a ∧ s' = s := by
  cases x with
  | ok b =>
    obtain ⟨rfl, rfl⟩ := EStateM.Result.ok.inj h
    exact ⟨rfl, rfl⟩
  | error e => cases h

theorem checkedI64_eq_ok {n m : Int} (h : checkedI64 n = .ok m) :
    m = n ∧ -2 ^ 63 ≤ n ∧ n < 2 ^ 63 := by
  unfold checkedI64 at h
  split at h
  · rename_i hFits
    exact ⟨(Except.ok.inj h).symm, hFits⟩
  · cases h

theorem except_bind_eq_ok {ε α β : Type} {x : Except ε α} {f : α → Except ε β} {b : β}
    (h : (x >>= f) = .ok b) : ∃ a, x = .ok a ∧ f a = .ok b := by
  cases x with
  | ok a => exact ⟨a, rfl, h⟩
  | error e => cases h

/-- The longest duration. -/
def longest (duration : Int) (calls : List AddSegment) : Int :=
  calls.foldl (fun duration c => max c.duration duration) duration

theorem longest_concat (duration : Int) (calls : List AddSegment) (c : AddSegment) :
    longest duration (calls ++ [c]) = max c.duration (longest duration calls) := by
  rw [longest, List.foldl_append]
  rfl

theorem longest_lt_iff {duration bound : Int} {calls : List AddSegment} :
    longest duration calls < bound ↔ duration < bound ∧ ∀ c ∈ calls, c.duration < bound := by
  induction calls using List.reverseRecOn with
  | nil => simp [longest]
  | append_singleton calls c ih =>
    rw [longest_concat, Int.max_lt, ih, List.forall_mem_append, List.forall_mem_singleton]
    exact ⟨fun h => ⟨h.2.1, h.2.2, h.1⟩, fun h => ⟨h.2.2, h.1, h.2.1⟩⟩

theorem le_longest (duration : Int) (calls : List AddSegment) :
    duration ≤ longest duration calls ∧ ∀ c ∈ calls, c.duration ≤ longest duration calls := by
  have h := (@longest_lt_iff duration (longest duration calls + 1) calls).mp (Int.lt_succ _)
  exact ⟨Int.le_of_lt_add_one h.1, fun c hc => Int.le_of_lt_add_one (h.2 c hc)⟩

/-- Playlists before their first segment. -/
structure Begun (duration : Int) (s : M3u8) : Prop where
  version : s.version = 3
  sequenceNo : s.sequenceNo = 0
  configured : s.duration = duration
  segments : s.segments = []
  tsHandler : s.tsHandler = ⟨0, s.m3u8Folder⟩
  header : if s.needRecord then -2 ^ 63 ≤ duration + 999 ∧ duration + 999 < 2 ^ 63 ∧
      s.vodM3u8Content = [.extm3u, .version 3, .targetDuration ((duration + 999).tdiv 1000),
        .mediaSequence 0, .playlistTypeVod, .allowCache]
    else s.vodM3u8Content = []

theorem M3u8.generateM3u8Header_ok {s : M3u8} {isVod : Bool} (hLow : -2 ^ 63 ≤ s.duration + 999)
    (hHigh : s.duration + 999 < 2 ^ 63) : s.generateM3u8Header isVod =
      .ok ([.extm3u, .version s.version, .targetDuration ((s.duration + 999).tdiv 1000)] ++
        if isVod then [.mediaSequence 0, .playlistTypeVod, .allowCache]
        else [.mediaSequence s.sequenceNo]) := by
  have hFits : checkedI64 (s.duration + 999) = .ok (s.duration + 999) := if_pos ⟨hLow, hHigh⟩
  rw [generateM3u8Header, hFits]
  rfl

theorem begun_new {duration : Int} {appName streamName : Text} {hlsConfig : Option HlsConfig}
    {s : Acting M3u8} (h : M3u8.new duration appName streamName hlsConfig = .ok s) :
    Begun duration s.owner := by
  rw [M3u8.new] at h
  cases hRecord : (hlsConfig.map (·.needRecord)).getD false with
  | false =>
    simp only [hRecord] at h
    cases h
    exact ⟨rfl, rfl, rfl, rfl, rfl, rfl⟩
  | true =>
    simp only [hRecord, if_true] at h
    by_cases hFits : -2 ^ 63 ≤ duration + 999 ∧ duration + 999 < 2 ^ 63
    · rw [M3u8.generateM3u8Header_ok hFits.1 hFits.2] at h
      cases h
      exact ⟨rfl, rfl, rfl, rfl, rfl, hFits.1, hFits.2, rfl⟩
    · rw [M3u8.generateM3u8Header, checkedI64, if_neg hFits] at h
      cases h

theorem effects_new {duration : Int} {appName streamName : Text} {hlsConfig : Option HlsConfig}
    {s : Acting M3u8} (h : M3u8.new duration appName streamName hlsConfig = .ok s) :
    s.effects = [.createDirAll s.owner.m3u8Folder, .createDirAll s.owner.m3u8Folder] := by
  rw [M3u8.new] at h
  cases hRecord : (hlsConfig.map (·.needRecord)).getD false with
  | false =>
    simp only [hRecord] at h
    cases h
    rfl
  | true =>
    simp only [hRecord, if_true] at h
    obtain ⟨header, -, h⟩ := except_bind_eq_ok h
    cases h
    rfl

/-- The playlists after some calls. -/
def M3u8.afterAll (s : M3u8) (duration : Int) (calls : List AddSegment) : M3u8 :=
  { s with
    segments := (segmentsOf s.m3u8Folder calls).rtake s.liveTsCount
    sequenceNo := calls.length - s.liveTsCount
    duration := longest duration calls
    tsHandler := ⟨calls.length, s.m3u8Folder⟩
    vodM3u8Content :=
      if s.needRecord then s.vodM3u8Content ++ (segmentsOf s.m3u8Folder calls).flatMap M3u8.entry
      else s.vodM3u8Content }

/-- What a run leaves: the playlists, and the files of their window. -/
structure After (duration : Int) (s : M3u8) (calls : List AddSegment) (s' : Acting M3u8) : Prop where
  owner : s'.owner = s.afterAll duration calls
  present : ∀ segment ∈ s'.owner.segments, Present segment.path s'.effects

theorem after_nil {duration : Int} {s : Acting M3u8} (h : Begun duration s.owner) :
    After duration s.owner [] s := by
  have hWindow : (segmentsOf s.owner.m3u8Folder []).rtake s.owner.liveTsCount = [] := List.rtake_nil _
  refine ⟨?_, ?_⟩
  · have hVod : (if s.owner.needRecord then s.owner.vodM3u8Content ++
        (segmentsOf s.owner.m3u8Folder []).flatMap M3u8.entry else s.owner.vodM3u8Content) =
        s.owner.vodM3u8Content := by
      cases s.owner.needRecord with
      | true => exact List.append_nil _
      | false => rfl
    rw [M3u8.afterAll, hWindow, hVod]
    have hSegments := h.segments
    have hSequence := h.sequenceNo
    have hDuration := h.configured
    have hHandler := h.tsHandler
    obtain ⟨⟨⟩, effects⟩ := s
    simp only at hSegments hSequence hDuration hHandler
    simp only [hSegments, hSequence, hDuration, hHandler, longest, List.foldl_nil, List.length_nil,
      Nat.zero_sub]
  · rw [h.segments]
    intro segment hMem
    cases hMem

/-- A call after a run makes room first. -/
theorem After.popFront {duration : Int} {s : M3u8} {calls : List AddSegment} {s' : Acting M3u8}
    (h : After duration s calls s') (hLength : calls.length < 2 ^ 32) {k : Nat}
    (hCount : s.liveTsCount = k + 1) :
    ∃ effects, M3u8.popFront s' = .ok ()
        ⟨{ s'.owner with
            segments := (segmentsOf s.m3u8Folder calls).rtake k
            sequenceNo := calls.length + 1 - (k + 1) }, s'.effects ++ effects⟩ ∧
      Quiet effects ∧ ∀ segment ∈ (segmentsOf s.m3u8Folder calls).rtake k,
        Present segment.path (s'.effects ++ effects) := by
  obtain ⟨hOwner, hPresent⟩ := h
  have hSegments := @length_segmentsOf s.m3u8Folder calls
  rw [← hSegments] at hLength ⊢
  apply M3u8.popFront_ok
  · rw [hOwner]
    exact hCount
  · rw [hOwner, M3u8.afterAll, hCount]
  · rw [hOwner, M3u8.afterAll, hCount, hSegments]
  · exact hLength
  · exact nodup_paths
  · exact hPresent

theorem After.add {duration : Int} {s : M3u8} {calls : List AddSegment} {s' : Acting M3u8}
    (h : After duration s calls s') (c : AddSegment) (hRoom : s.liveTsCount ≠ 0)
    (hNumber : calls.length + 1 < 2 ^ 32) :
    ∃ s'', c.run s' = .ok () s'' ∧ After duration s (calls ++ [c]) s'' ∧
      ∃ effects, Quiet effects ∧ s''.effects = s'.effects ++ effects := by
  obtain ⟨k, hCount⟩ := Nat.exists_eq_succ_of_ne_zero hRoom
  obtain ⟨effects, hPop, hQuiet, hKept⟩ := h.popFront (by omega) hCount
  have hOwner := h.owner
  have hNext : s'.owner.tsHandler.tsNumber + 1 < 2 ^ 32 := by
    rw [hOwner]
    exact hNumber
  refine ⟨_, M3u8.addSegment_ok hPop hNext, ⟨?_, ?_⟩, _, ?_, List.append_assoc ..⟩
  · rw [hOwner]
    simp only [M3u8.withSegment, M3u8.afterAll, segmentsOf_concat, longest_concat, hCount,
      List.rtake_concat_succ, List.length_append, List.length_singleton, List.flatMap_append,
      List.flatMap_singleton]
    cases s.needRecord with
    | true => simp only [if_true, List.append_assoc]
    | false => rfl
  · intro segment hMem
    rw [present_create]
    simp only [M3u8.withSegment] at hMem
    rcases List.mem_append.mp hMem with hOld | hNew
    · rw [hKept segment hOld]
      rfl
    · rw [List.mem_singleton.mp hNew]
      simp
  · exact quiet_append hQuiet (quiet_create _ _)

theorem After.panics {duration : Int} {s : M3u8} {calls : List AddSegment} {s' : Acting M3u8}
    (h : After duration s calls s') (c : AddSegment) (hLength : calls.length < 2 ^ 32)
    (hNot : ¬(s.liveTsCount ≠ 0 ∧ calls.length + 1 < 2 ^ 32)) : Fails .panic c.run s' := by
  have hOwner := h.owner
  by_cases hZero : s.liveTsCount = 0
  · have hPop : M3u8.popFront s' = .error .panic s' := by
      apply M3u8.popFront_panics
      · rw [hOwner]
        exact hZero
      · rw [hOwner, M3u8.afterAll, hZero]
        exact List.rtake_zero _
    exact ⟨s', bind_of_error hPop⟩
  · obtain ⟨k, hCount⟩ := Nat.exists_eq_succ_of_ne_zero hZero
    obtain ⟨effects, hPop, -, -⟩ := h.popFront hLength hCount
    apply M3u8.addSegment_panics hPop
    rw [hOwner]
    exact fun hNumber => hNot ⟨hZero, hNumber⟩

/-- A call after a run that succeeds. -/
theorem After.of_ok {duration : Int} {s : M3u8} {calls : List AddSegment} {s' s'' : Acting M3u8}
    (h : After duration s calls s') {c : AddSegment} (hLength : calls.length < 2 ^ 32)
    (hRun : c.run s' = .ok () s'') :
    After duration s (calls ++ [c]) s'' ∧ s.liveTsCount ≠ 0 ∧ calls.length + 1 < 2 ^ 32 ∧
      ∃ effects, Quiet effects ∧ s''.effects = s'.effects ++ effects := by
  by_cases hNext : s.liveTsCount ≠ 0 ∧ calls.length + 1 < 2 ^ 32
  · obtain ⟨s1, hAdd, hAfter, hEffects⟩ := h.add c hNext.1 hNext.2
    obtain ⟨-, rfl⟩ := EStateM.Result.ok.inj (hAdd.symm.trans hRun)
    exact ⟨hAfter, hNext.1, hNext.2, hEffects⟩
  · obtain ⟨s1, hPanic⟩ := h.panics c hLength hNext
    cases hPanic.symm.trans hRun

/-- The calls have room and numbers. -/
def Runs (s : M3u8) (calls : List AddSegment) : Prop :=
  (calls ≠ [] → s.liveTsCount ≠ 0) ∧ calls.length < 2 ^ 32

/-- A run gets to its end when its calls have room and numbers, and only then. -/
theorem run_cases {duration : Int} {s : Acting M3u8} (h : Begun duration s.owner)
    (calls : List AddSegment) :
    (Runs s.owner calls ∧
      ∃ s', handleAll AddSegment.run calls s = .ok () s' ∧ After duration s.owner calls s') ∨
    ¬Runs s.owner calls ∧ ∀ s', handleAll AddSegment.run calls s ≠ .ok () s' := by
  induction calls using List.reverseRecOn with
  | nil => exact .inl ⟨⟨fun hNe => absurd rfl hNe, by decide⟩, s, rfl, after_nil h⟩
  | append_singleton calls c ih =>
    have hConcat : ∀ s1, handleAll AddSegment.run calls s = .ok () s1 →
        handleAll AddSegment.run (calls ++ [c]) s = c.run s1 := by
      intro s1 hRun
      rw [handleAll_append, bind_of_ok hRun]
      exact congrFun (handleAll_singleton _ c) s1
    have hLength : (calls ++ [c]).length = calls.length + 1 := List.length_append
    have hNe : calls ++ [c] ≠ [] := List.append_ne_nil_of_right_ne_nil _ (List.cons_ne_nil c [])
    rcases ih with ⟨⟨hRoom, hNumbers⟩, s1, hRun, hAfter⟩ | ⟨hNot, hStuck⟩
    · by_cases hNext : s.owner.liveTsCount ≠ 0 ∧ calls.length + 1 < 2 ^ 32
      · obtain ⟨s', hAdd, hAfter', -⟩ := hAfter.add c hNext.1 hNext.2
        refine .inl ⟨⟨fun _ => hNext.1, hLength ▸ hNext.2⟩, s', ?_, hAfter'⟩
        exact (hConcat s1 hRun).trans hAdd
      · obtain ⟨s2, hPanic⟩ := hAfter.panics c hNumbers hNext
        refine .inr ⟨fun hRuns => hNext ⟨hRuns.1 hNe, hLength ▸ hRuns.2⟩, fun s' hOk => ?_⟩
        cases hPanic.symm.trans ((hConcat s1 hRun).symm.trans hOk)
    · refine .inr ⟨fun hRuns => hNot ⟨fun _ => hRuns.1 hNe, ?_⟩, fun s' hOk => ?_⟩
      · have := hRuns.2
        omega
      · rw [handleAll_append] at hOk
        obtain ⟨u, s1, hFirst, -⟩ := bind_eq_ok hOk
        exact hStuck s1 hFirst

/-! ### What the playlists say -/

def Segment.shown (segment : Segment) : Int × Text := (segment.duration, segment.name)

theorem listed_entry (segment : Segment) (lines : List Line) :
    listed (M3u8.entry segment ++ lines) = segment.shown :: listed lines := by
  cases h : segment.discontinuity <;> simp [M3u8.entry, h, listed, Segment.shown]

/-- A playlist stops behind the segment that ends the stream. -/
theorem listed_entries_iff (segments : List Segment) :
    listed (M3u8.entries segments) = segments.map Segment.shown ↔
      ∀ segment ∈ segments.dropLast, segment.isEof = false := by
  induction segments with
  | nil => exact iff_of_true rfl fun segment hMem => by cases hMem
  | cons segment rest ih =>
    rw [M3u8.entries, listed_entry, List.map_cons, List.cons_inj_right]
    cases rest with
    | nil =>
      refine iff_of_true ?_ fun segment hMem => by cases hMem
      cases segment.isEof with
      | true => rfl
      | false => rfl
    | cons next rest =>
      rw [List.dropLast_cons_cons, List.forall_mem_cons, ← ih]
      cases segment.isEof with
      | true =>
        refine iff_of_false ?_ fun h => absurd h.1 (by decide)
        rw [if_pos rfl]
        intro h
        cases h
      | false => exact (and_iff_right rfl).symm

theorem listed_flatMap_entry (segments : List Segment) :
    listed (segments.flatMap M3u8.entry) = segments.map Segment.shown := by
  induction segments with
  | nil => rfl
  | cons segment rest ih => rw [List.flatMap_cons, listed_entry, ih, List.map_cons]

/-- Entries say nothing else. -/
theorem entry_quiet (segment : Segment) (lines : List Line) :
    targetDurations (M3u8.entry segment ++ lines) = targetDurations lines ∧
      mediaSequences (M3u8.entry segment ++ lines) = mediaSequences lines := by
  cases h : segment.discontinuity <;> simp [M3u8.entry, h, targetDurations, mediaSequences]

theorem entries_quiet (segments : List Segment) :
    targetDurations (M3u8.entries segments) = [] ∧ mediaSequences (M3u8.entries segments) = [] := by
  induction segments with
  | nil => exact ⟨rfl, rfl⟩
  | cons segment rest ih =>
    rw [M3u8.entries, (entry_quiet ..).1, (entry_quiet ..).2]
    cases segment.isEof with
    | true => exact ⟨rfl, rfl⟩
    | false => exact ih

theorem flatMap_entry_quiet (segments : List Segment) :
    targetDurations (segments.flatMap M3u8.entry) = [] := by
  induction segments with
  | nil => rfl
  | cons segment rest ih => rw [List.flatMap_cons, (entry_quiet ..).1, ih]

/-- A header has one target duration and one sequence number, and lists nothing. -/
theorem listed_header (version : Nat) (target : Int) (rest lines : List Line) :
    listed ([.extm3u, .version version, .targetDuration target] ++ rest ++ lines) =
      listed (rest ++ lines) := by
  simp [listed]

theorem targetDurations_header (version : Nat) (target : Int) (rest lines : List Line) :
    targetDurations ([.extm3u, .version version, .targetDuration target] ++ rest ++ lines) =
      target :: targetDurations (rest ++ lines) := by
  simp [targetDurations]

theorem mediaSequences_header (version : Nat) (target : Int) (rest lines : List Line) :
    mediaSequences ([.extm3u, .version version, .targetDuration target] ++ rest ++ lines) =
      mediaSequences (rest ++ lines) := by
  simp [mediaSequences]

/-- The end of none of the segments but the last of those that are listed. -/
theorem ends_iff (folder : Text) (calls : List AddSegment) (count : Nat) :
    (∀ segment ∈ ((segmentsOf folder calls).rtake count).dropLast, segment.isEof = false) ↔
      ∀ c ∈ (calls.rtake count).dropLast, c.isEof = false := by
  have hMap := @map_segmentsOf folder calls Bool (·.isEof) (·.isEof) fun _ _ => rfl
  have hLength := @length_segmentsOf folder calls
  have hWindow : ((segmentsOf folder calls).rtake count).dropLast.map (·.isEof) =
      (calls.rtake count).dropLast.map (·.isEof) := by
    rw [List.map_dropLast, List.map_dropLast, List.rtake, List.rtake, List.map_drop, List.map_drop,
      hMap, hLength]
  have hAll : (∀ b ∈ ((segmentsOf folder calls).rtake count).dropLast.map (·.isEof), b = false) ↔
      ∀ b ∈ (calls.rtake count).dropLast.map (·.isEof), b = false := by rw [hWindow]
  simpa only [List.forall_mem_map] using hAll

theorem target_covers {duration longest : Int} (hNonneg : 0 ≤ duration) (hLe : duration ≤ longest) :
    rounded duration ≤ (longest + 999).tdiv 1000 := by
  rw [Int.tdiv_eq_ediv_of_nonneg (by omega), rounded]
  omega

theorem refreshPlaylist_ok {s : Acting M3u8} (hLow : -2 ^ 63 ≤ s.owner.duration + 999)
    (hHigh : s.owner.duration + 999 < 2 ^ 63) :
    ∃ live s', M3u8.refreshPlaylist s = .ok live s' ∧
      live = [.extm3u, .version s.owner.version,
        .targetDuration ((s.owner.duration + 999).tdiv 1000)] ++ [.mediaSequence s.owner.sequenceNo] ++
        M3u8.entries s.owner.segments := by
  rw [M3u8.refreshPlaylist, bind_get]
  simp only [M3u8.generateM3u8Header_ok hLow hHigh]
  exact ⟨_, _, rfl, rfl⟩

theorem refreshPlaylist_panics {s : Acting M3u8}
    (h : ¬(-2 ^ 63 ≤ s.owner.duration + 999 ∧ s.owner.duration + 999 < 2 ^ 63)) :
    M3u8.refreshPlaylist s = .error .panic s := by
  rw [M3u8.refreshPlaylist, bind_get, M3u8.generateM3u8Header, checkedI64, if_neg h]
  rfl

/-- What the live playlist of a run says. -/
theorem After.live {duration : Int} {s : M3u8} {calls : List AddSegment} {s' s'' : Acting M3u8}
    {live : List Line} (h : After duration s calls s')
    (hFits : -2 ^ 63 ≤ longest duration calls + 999 ∧ longest duration calls + 999 < 2 ^ 63)
    (hLive : M3u8.refreshPlaylist s' = .ok live s'') :
    listed live = listed (M3u8.entries ((segmentsOf s.m3u8Folder calls).rtake s.liveTsCount)) ∧
      targetDurations live = [(longest duration calls + 999).tdiv 1000] ∧
      mediaSequences live = [calls.length - s.liveTsCount] := by
  have hOwner := h.owner
  obtain ⟨live', s1, hOk, hLines⟩ := refreshPlaylist_ok (s := s')
    (by rw [hOwner]; exact hFits.1) (by rw [hOwner]; exact hFits.2)
  obtain ⟨rfl, rfl⟩ := EStateM.Result.ok.inj (hOk.symm.trans hLive)
  rw [hOwner] at hLines
  obtain ⟨hNoTarget, hNoSequence⟩ :=
    entries_quiet ((segmentsOf s.m3u8Folder calls).rtake s.liveTsCount)
  rw [hLines, listed_header, targetDurations_header, mediaSequences_header]
  refine ⟨rfl, ?_, ?_⟩
  · exact congrArg _ hNoTarget
  · exact congrArg _ hNoSequence

/-- What the recorded playlist of a run says. -/
theorem After.vod {duration : Int} {s : M3u8} {calls : List AddSegment} {s' : Acting M3u8}
    (h : After duration s calls s') (hBegun : Begun duration s) (hRecord : s.needRecord = true) :
    listed s'.owner.vodM3u8Content = (segmentsOf s.m3u8Folder calls).map Segment.shown ∧
      targetDurations s'.owner.vodM3u8Content = [(duration + 999).tdiv 1000] := by
  have hHeader := hBegun.header
  rw [if_pos hRecord] at hHeader
  have hVod : s'.owner.vodM3u8Content = [.extm3u, .version 3,
      .targetDuration ((duration + 999).tdiv 1000)] ++ [.mediaSequence 0, .playlistTypeVod, .allowCache] ++
      (segmentsOf s.m3u8Folder calls).flatMap M3u8.entry := by
    rw [h.owner, M3u8.afterAll, hRecord, hHeader.2.2]
    rfl
  rw [hVod, listed_header, targetDurations_header]
  refine ⟨?_, ?_⟩
  · exact listed_flatMap_entry _
  · exact congrArg _ (flatMap_entry_quiet _)

theorem meetsTarget_iff {lines : List Line} {target : Int} {folder : Text} {calls : List AddSegment}
    (hTarget : targetDurations lines = [target])
    (hListed : listed lines = (segmentsOf folder calls).map Segment.shown) :
    MeetsTarget lines ↔ ∀ c ∈ calls, rounded c.duration ≤ target := by
  have hShown : (listed lines).map (·.1) = calls.map (·.duration) := by
    rw [hListed, List.map_map]
    exact map_segmentsOf _ _ fun _ _ => rfl
  have hAll : (∀ p ∈ listed lines, rounded p.1 ≤ target) ↔ ∀ c ∈ calls, rounded c.duration ≤ target := by
    have h : (∀ d ∈ (listed lines).map (·.1), rounded d ≤ target) ↔
        ∀ d ∈ calls.map (·.duration), rounded d ≤ target := by rw [hShown]
    simpa only [List.forall_mem_map] using h
  rw [← hAll]
  constructor
  · rintro ⟨target', hTarget', hMeets⟩
    obtain rfl := (List.cons.inj (hTarget.symm.trans hTarget')).1
    exact hMeets
  · exact fun hMeets => ⟨target, hTarget, hMeets⟩

/-- For every configuration and every sequence of segments whose durations are not negative, the calls
do not panic and the playlists are right exactly when the segments are orderly. -/
theorem playlists_obey_iff {duration : Int} {appName streamName : Text} {hlsConfig : Option HlsConfig}
    {s : Acting M3u8} (hNew : M3u8.new duration appName streamName hlsConfig = .ok s)
    (hDuration : -2 ^ 63 ≤ duration) {calls : List AddSegment} (hCalls : ∀ c ∈ calls, 0 ≤ c.duration) :
    Obeys s calls ↔ Orderly duration s.owner calls := by
  have hBegun := begun_new hNew
  have hLow : -2 ^ 63 ≤ longest duration calls + 999 := by
    have := (le_longest duration calls).1
    omega
  have hHigh : longest duration calls + 999 < 2 ^ 63 ↔
      duration + 999 < 2 ^ 63 ∧ ∀ c ∈ calls, c.duration + 999 < 2 ^ 63 := by
    have hBound := @longest_lt_iff duration (2 ^ 63 - 999) calls
    simp only [Int.lt_sub_right_iff_add_lt] at hBound
    exact hBound
  have hShown := listed_entries_iff ((segmentsOf s.owner.m3u8Folder calls).rtake s.owner.liveTsCount)
  rw [ends_iff] at hShown
  rcases run_cases hBegun calls with ⟨⟨hRoom, hNumbers⟩, s', hRun, hAfter⟩ | ⟨hNot, hStuck⟩
  · constructor
    · rintro ⟨s1, live, s2, hRun', hLive, hListed, -, -, hVod⟩
      obtain ⟨-, rfl⟩ := EStateM.Result.ok.inj (hRun.symm.trans hRun')
      have hFits : -2 ^ 63 ≤ longest duration calls + 999 ∧ longest duration calls + 999 < 2 ^ 63 := by
        by_contra hNot
        have hPanic := refreshPlaylist_panics (s := s') (by rw [hAfter.owner]; exact hNot)
        cases hPanic.symm.trans hLive
      obtain ⟨hEntries, -, -⟩ := hAfter.live hFits hLive
      obtain ⟨hConfigured, hDurations⟩ := hHigh.mp hFits.2
      refine ⟨hRoom, hNumbers, hConfigured, hDurations, ?_, ?_⟩
      · exact hShown.mp (hEntries.symm.trans hListed)
      · intro hRecord
        obtain ⟨hAll, hTarget⟩ := hAfter.vod hBegun hRecord
        exact (meetsTarget_iff hTarget hAll).mp (hVod hRecord)
    · intro h
      have hFits := And.intro hLow (hHigh.mpr ⟨h.configured, h.durations⟩)
      obtain ⟨live, s'', hLive, -⟩ := refreshPlaylist_ok (s := s')
        (by rw [hAfter.owner]; exact hFits.1) (by rw [hAfter.owner]; exact hFits.2)
      obtain ⟨hEntries, hTarget, hSequence⟩ := hAfter.live hFits hLive
      have hListed := hEntries.trans (hShown.mpr h.ends)
      refine ⟨s', live, s'', hRun, hLive, hListed, hSequence, ⟨_, hTarget, ?_⟩, ?_⟩
      · intro p hMem
        rw [hListed] at hMem
        obtain ⟨segment, hSegment, rfl⟩ := List.mem_map.mp hMem
        obtain ⟨number, hNumber, rfl⟩ := List.mem_mapIdx.mp (List.mem_of_mem_drop hSegment)
        have hCall := List.getElem_mem hNumber
        exact target_covers (hCalls _ hCall) ((le_longest duration calls).2 _ hCall)
      · intro hRecord
        obtain ⟨hAll, hTarget⟩ := hAfter.vod hBegun hRecord
        exact (meetsTarget_iff hTarget hAll).mpr (h.recorded hRecord)
  · refine iff_of_false ?_ fun h => hNot ⟨h.room, h.numbers⟩
    rintro ⟨s1, -, -, hRun, -⟩
    exact hStuck s1 hRun

/-- A configuration that records, with segments of five seconds. -/
def recording : HlsConfig := ⟨true, none, some 5, none, some 2⟩

/-- Three segments of which each is as long as the target duration of the recorded playlist. -/
theorem shortSegments_obey : ∃ s, M3u8.new 5 ['a'] ['s'] (some recording) = .ok s ∧
    Obeys s (List.replicate 3 ⟨1000, false, false, []⟩) := by
  refine ⟨_, rfl, (@playlists_obey_iff 5 ['a'] ['s'] (some recording) _ rfl (by decide) _ ?_).mpr ?_⟩
  · intro c hMem
    rw [List.eq_of_mem_replicate hMem]
    decide
  · refine ⟨fun _ => by decide, by decide, by decide, ?_, ?_, ?_⟩
    · intro c hMem
      rw [List.eq_of_mem_replicate hMem]
      decide
    · intro c hMem
      rw [List.eq_of_mem_replicate (List.mem_of_mem_drop (List.dropLast_subset _ hMem))]
    · intro _ c hMem
      rw [List.eq_of_mem_replicate hMem]
      decide

/-- A recorded segment of five seconds is longer than the target duration, which is one second; and
without room in the live playlist the first segment panics. -/
theorem recordedSegment_tooLong :
    (∃ s, M3u8.new 5 ['a'] ['s'] (some recording) = .ok s ∧ ¬Obeys s [⟨5000, false, false, []⟩]) ∧
      ∃ s, M3u8.new 5 ['a'] ['s'] (some { recording with liveTsCount := some 0 }) = .ok s ∧
        ¬Obeys s [⟨1000, false, false, []⟩] := by
  refine ⟨⟨_, rfl, ?_⟩, ⟨_, rfl, ?_⟩⟩
  · rintro ⟨s', -, -, hRun, -, -, -, -, hVod⟩
    obtain ⟨-, rfl⟩ := EStateM.Result.ok.inj hRun
    obtain ⟨target, hTarget, hMeets⟩ := hVod rfl
    obtain rfl := (List.cons.inj hTarget).1
    exact absurd (hMeets (5000, Ts.tsFileName 0) (by decide)) (by decide)
  · rintro ⟨s', -, -, hRun, -⟩
    cases hRun

end Xiu.Hls
