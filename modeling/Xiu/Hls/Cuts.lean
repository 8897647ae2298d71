import Mathlib.Data.List.Chain
import Xiu.Hls.Notices

/-! How a stream is cut: in any run without errors, the segments hold the frames, in order, and last from
the frame that opens them to the frame that opens the next, when the stream begins at 0. -/

namespace Xiu.Hls

open ProofKit Mpegts Flv2HlsRemuxer

/-! ### The frames of a stream -/

/-- What is written of the data. -/
def FlvDemuxerData.written (audioPid videoPid : UInt16) : FlvDemuxerData → Option Frame
  | .video data => some ⟨videoPid, data.pts.toInt, data.dts.toInt,
      if data.frameType = KEY_FRAME then MPEG_FLAG_IDR_FRAME else 0, data.data⟩
  | .audio data =>
    if data.hasData then some ⟨audioPid, data.pts.toInt, data.dts.toInt, 0, data.data⟩ else Option.none
  | .none => Option.none

/-- Something is written. -/
def FlvDemuxerData.writes : FlvDemuxerData → Bool
  | .video _ => true
  | .audio data => data.hasData
  | .none => false

/-- A frame with time 0 that does not end a segment that starts at 0. -/
def FlvDemuxerData.BeginsAtZero (duration aofRatio : Int) : FlvDemuxerData → Prop
  | .video data => data.dts = 0 ∧ (data.frameType = KEY_FRAME → 0 < duration)
  | .audio data => data.dts = 0 ∧ 0 < duration * aofRatio
  | .none => False

/-- There is a frame, and the first one begins at 0. -/
def Begins (duration aofRatio : Int) (frames : List FlvDemuxerData) : Prop :=
  ∃ data, frames.find? (·.writes) = some data ∧ data.BeginsAtZero duration aofRatio

/-- The time of the first frame of a segment. -/
def Made.opens (m : Made) : Option Int := m.pieces.head?.map (·.frame.dts)

/-- A segment lasts from the frame that opens it to the frame that opens the next. -/
def LastsTo (m m' : Made) : Prop :=
  ∃ first next, m.opens = some first ∧ m'.opens = some next ∧ m.call.duration = next - first

/-- The last segment lasts from its first frame to its last. -/
def LastsToEnd (m : Made) : Prop :=
  ∃ first last, m.opens = some first ∧ m.pieces.getLast? = some last ∧
    m.call.duration = last.frame.dts - first

/-- The segments hold the frames, each at least one, in order, as the bytes that were written for them,
and have their durations. -/
structure WellCut (written : List Frame) (made : List Made) : Prop where
  nonempty : ∀ m ∈ made, m.pieces ≠ []
  data : ∀ m ∈ made, m.call.tsData = m.pieces.flatMap (·.bytes)
  frames : made.flatMap (fun m => m.pieces.map (·.frame)) = written
  durations : made.IsChain LastsTo
  last : ∀ m ∈ made.getLast?, LastsToEnd m

/-! ### Which frames open a segment -/

theorem passed_eq_ok {self : Flv2HlsRemuxer} {dts : Int} {limit : Except MediaFault Int} {b : Bool}
    (h : self.passed dts limit = .ok b) :
    ∃ n, limit = .ok n ∧ b = decide (n ≤ dts - self.lastTsDts) := by
  rw [passed] at h
  obtain ⟨distance, hDistance, h⟩ := except_bind_eq_ok h
  obtain ⟨n, hLimit, h⟩ := except_bind_eq_ok h
  obtain ⟨rfl, -⟩ := checkedI64_eq_ok hDistance
  exact ⟨n, hLimit, (Except.ok.inj h).symm⟩

/-- How far from the start of a segment a frame ends it, if it can. -/
def FlvDemuxerData.limit (duration aofRatio : Int) : FlvDemuxerData → Option Int
  | .video data => if data.frameType = KEY_FRAME then some (duration * 1000) else Option.none
  | .audio _ => some (duration * 1000 * aofRatio)
  | .none => Option.none

/-- The time of the data. -/
def FlvDemuxerData.dts : FlvDemuxerData → Int
  | .video data => data.dts.toInt
  | .audio data => data.dts.toInt
  | .none => 0

/-- The data ends a segment that has lasted since a time. -/
def FlvDemuxerData.Cuts (duration aofRatio start : Int) (data : FlvDemuxerData) : Prop :=
  ∃ n ∈ data.limit duration aofRatio, n ≤ data.dts - start

theorem frameOf_none {self : Flv2HlsRemuxer} {data : FlvDemuxerData}
    (h : self.frameOf data = .ok none) :
    data.writes = false ∧ data.written self.audioPid self.videoPid = none := by
  cases data with
  | video data =>
    by_cases hKey : data.frameType = KEY_FRAME
    · simp only [frameOf, hKey, if_true] at h
      obtain ⟨b, -, h⟩ := except_bind_eq_ok h
      cases h
    · simp only [frameOf, hKey, if_false] at h
      cases h
  | audio data =>
    cases hData : data.hasData with
    | false =>
      refine ⟨hData, ?_⟩
      simp only [FlvDemuxerData.written, hData, Bool.false_eq_true, if_false]
    | true =>
      simp only [frameOf, hData, Bool.not_true, Bool.false_eq_true, if_false] at h
      obtain ⟨b, -, h⟩ := except_bind_eq_ok h
      cases h
  | none => exact ⟨rfl, rfl⟩

theorem frameOf_some {self : Flv2HlsRemuxer} {data : FlvDemuxerData} {frame : Frame} {need : Bool}
    (h : self.frameOf data = .ok (some (frame, need))) :
    data.writes = true ∧ data.written self.audioPid self.videoPid = some frame ∧
      frame.dts = data.dts ∧
      (need = true ↔ data.Cuts self.duration self.aofRatio self.lastTsDts) := by
  cases data with
  | video data =>
    by_cases hKey : data.frameType = KEY_FRAME
    · simp only [frameOf, if_pos hKey] at h
      obtain ⟨b, hNeed, h⟩ := except_bind_eq_ok h
      obtain ⟨rfl, rfl⟩ := Prod.mk.inj (Option.some.inj (Except.ok.inj h))
      obtain ⟨n, hLimit, rfl⟩ := passed_eq_ok hNeed
      obtain ⟨rfl, -⟩ := checkedI64_eq_ok hLimit
      refine ⟨rfl, by simp [FlvDemuxerData.written, hKey], rfl, ?_⟩
      simp [FlvDemuxerData.Cuts, FlvDemuxerData.limit, hKey, FlvDemuxerData.dts]
    · simp only [frameOf, if_neg hKey] at h
      obtain ⟨rfl, rfl⟩ := Prod.mk.inj (Option.some.inj (Except.ok.inj h))
      refine ⟨rfl, by simp [FlvDemuxerData.written, hKey], rfl, ?_⟩
      simp [FlvDemuxerData.Cuts, FlvDemuxerData.limit, hKey]
  | audio data =>
    cases hData : data.hasData with
    | false =>
      simp only [frameOf, hData, Bool.not_false, if_true] at h
      cases h
    | true =>
      simp only [frameOf, hData, Bool.not_true, Bool.false_eq_true, if_false] at h
      obtain ⟨b, hNeed, h⟩ := except_bind_eq_ok h
      obtain ⟨rfl, rfl⟩ := Prod.mk.inj (Option.some.inj (Except.ok.inj h))
      obtain ⟨n, hLimit, rfl⟩ := passed_eq_ok hNeed
      obtain ⟨n', hFirst, hLimit⟩ := except_bind_eq_ok hLimit
      obtain ⟨rfl, -⟩ := checkedI64_eq_ok hFirst
      obtain ⟨rfl, -⟩ := checkedI64_eq_ok hLimit
      refine ⟨hData, if_pos hData, rfl, ?_⟩
      simp [FlvDemuxerData.Cuts, FlvDemuxerData.limit, FlvDemuxerData.dts]
  | none => cases h

/-- A frame begins at 0 when its time is 0 and it does not end a segment there. -/
theorem beginsAtZero_iff {duration aofRatio : Int} {data : FlvDemuxerData} (h : data.writes = true) :
    data.BeginsAtZero duration aofRatio ↔ data.dts = 0 ∧ ¬data.Cuts duration aofRatio 0 := by
  have hZero (n : Int64) : n = 0 ↔ n.toInt = 0 := by
    rw [← Int64.toInt_inj]
    rfl
  cases data with
  | video data =>
    simp only [FlvDemuxerData.BeginsAtZero, FlvDemuxerData.Cuts, FlvDemuxerData.limit,
      FlvDemuxerData.dts, hZero]
    apply and_congr_right
    intro hDts
    by_cases hKey : data.frameType = KEY_FRAME
    · simp [hKey, hDts]
    · simp [hKey]
  | audio data =>
    simp only [FlvDemuxerData.BeginsAtZero, FlvDemuxerData.Cuts, FlvDemuxerData.limit,
      FlvDemuxerData.dts, hZero]
    apply and_congr_right
    intro hDts
    rw [hDts, Int.mul_right_comm]
    simp
  | none => cases h

/-! ### Segments in line -/

/-- A segment is counted from its start to the start of the next, which is the time of the frame that
opens that one. -/
def Next (m m' : Made) : Prop :=
  m.call.duration = m'.start - m.start ∧ m'.opens = some m'.start

/-- What holds of the segments of any stream: each is counted from the start of its own. -/
structure Lined (written : List Frame) (made : List Made) : Prop where
  data : ∀ m ∈ made, m.call.tsData = m.pieces.flatMap (·.bytes)
  frames : made.flatMap (fun m => m.pieces.map (·.frame)) = written
  chain : made.IsChain Next
  ends : ∀ m ∈ made.getLast?, ∀ p ∈ m.pieces.getLast?, m.call.duration = p.frame.dts - m.start

theorem Made.opens_eq_none {m : Made} : m.opens = none ↔ m.pieces = [] := by
  rw [Made.opens, Option.map_eq_none_iff, List.head?_eq_none_iff]

/-- When the first segment opens at its start, all of them do. -/
theorem opens_of_chain {made : List Made} (h : made.IsChain Next)
    (hHead : ∀ m ∈ made.head?, m.opens = some m.start) : ∀ m ∈ made, m.opens = some m.start := by
  induction made with
  | nil =>
    intro m hMem
    cases hMem
  | cons first rest ih =>
    rw [List.isChain_cons] at h
    obtain ⟨hNext, hRest⟩ := h
    intro m hMem
    rcases List.mem_cons.mp hMem with rfl | hMem
    · exact hHead m rfl
    · exact ih hRest (fun second hSecond => (hNext second hSecond).2) m hMem

/-- The segments are cut well when the first one opens at its start. -/
theorem wellCut_iff {written : List Frame} {made : List Made} (h : Lined written made)
    (hMade : made ≠ []) :
    WellCut written made ↔ ∀ m ∈ made.head?, m.opens = some m.start := by
  constructor
  · intro hCut m hHead
    obtain ⟨rest, rfl⟩ := List.head?_eq_some_iff.mp hHead
    cases rest with
    | nil =>
      obtain ⟨first, last, hFirst, hLast, hDuration⟩ := hCut.last m rfl
      have hEnds := h.ends m rfl last hLast
      rw [hFirst]
      congr 1
      omega
    | cons second rest =>
      obtain ⟨first, next, hFirst, hNext, hDuration⟩ := (List.isChain_cons_cons.mp hCut.durations).1
      obtain ⟨hCounted, hOpens⟩ := (List.isChain_cons_cons.mp h.chain).1
      obtain rfl := Option.some.inj (hNext.symm.trans hOpens)
      rw [hFirst]
      congr 1
      omega
  · intro hHead
    have hOpens := opens_of_chain h.chain hHead
    refine ⟨?_, h.data, h.frames, ?_, ?_⟩
    · intro m hMem hEmpty
      have hNone := Made.opens_eq_none.mpr hEmpty
      rw [hOpens m hMem] at hNone
      cases hNone
    · apply List.IsChain.imp_of_mem_imp _ h.chain
      intro m m' hMem hMem' hNext
      exact ⟨m.start, m'.start, hOpens m hMem, hOpens m' hMem', hNext.1⟩
    · intro m hLast
      have hMem := List.mem_of_getLast? hLast
      cases hPiece : m.pieces.getLast? with
      | none =>
        have hNone := Made.opens_eq_none.mpr (List.getLast?_eq_none_iff.mp hPiece)
        rw [hOpens m hMem] at hNone
        cases hNone
      | some p => exact ⟨m.start, p, hOpens m hMem, hPiece, h.ends m hLast p hPiece⟩

/-! ### Runs -/

/-- When the first segment opens. -/
def Segmenting.opening (s : Segmenting) : Option Int :=
  match s.made with
  | [] => s.pieces.head?.map (·.frame.dts)
  | first :: _ => first.opens

/-- What the run holds of the segments so far, and the one that is written. -/
structure Counted (duration aofRatio : Int) (history : List FlvDemuxerData) (s : Segmenting) :
    Prop where
  configured : s.state.owner.duration = duration ∧ s.state.owner.aofRatio = aofRatio
  bytes : s.state.owner.bytes = s.pieces.flatMap (·.bytes)
  lined : ∀ dts isEof, (s.made ++ [s.ended dts isEof]).IsChain Next
  data : ∀ m ∈ s.made, m.call.tsData = m.pieces.flatMap (·.bytes)
  frames : s.made.flatMap (fun m => m.pieces.map (·.frame)) ++ s.pieces.map (·.frame) =
    history.filterMap (·.written s.state.owner.audioPid s.state.owner.videoPid)
  lastDts : ∀ p ∈ s.pieces.getLast?, p.frame.dts = s.state.owner.lastDts
  zero : (s.made.head?.map (·.start)).getD s.state.owner.lastTsDts = 0
  nothing : history.find? (·.writes) = none → s.made = [] ∧ s.pieces = []
  first : ∀ data, history.find? (·.writes) = some data →
    (data.Cuts duration aofRatio 0 ∧ s.made ≠ [] ∧ s.opening = none ∨
      ¬data.Cuts duration aofRatio 0 ∧ s.opening = some data.dts)

theorem opening_of_made {s s' : Segmenting} (h : s.made ≠ []) (hMade : s.made <+: s'.made) :
    s'.opening = s.opening := by
  obtain ⟨rest, hRest⟩ := hMade
  cases hFirst : s.made with
  | nil => exact absurd hFirst h
  | cons first made =>
    rw [hFirst] at hRest
    simp only [Segmenting.opening, hFirst, ← hRest, List.cons_append]

/-- The segment that is written last may hold more. -/
theorem chain_swap {made : List Made} {m m' : Made} (h : (made ++ [m]).IsChain Next)
    (hStart : m'.start = m.start) (hOpens : ∀ n ∈ m.opens, m'.opens = some n) :
    (made ++ [m']).IsChain Next := by
  rw [List.isChain_append] at h ⊢
  obtain ⟨hMade, -, hLast⟩ := h
  refine ⟨hMade, List.isChain_singleton _, ?_⟩
  intro before hBefore after hAfter
  obtain rfl := Option.some.inj hAfter
  obtain ⟨hDuration, hNext⟩ := hLast before hBefore m rfl
  exact ⟨by rw [hDuration, hStart], by rw [hStart]; exact hOpens m.start hNext⟩

/-- A segment is added behind the last. -/
theorem chain_concat {made : List Made} {m m' : Made} (h : (made ++ [m]).IsChain Next)
    (hNext : Next m m') : (made ++ [m] ++ [m']).IsChain Next := by
  apply List.isChain_append.mpr
  refine ⟨h, List.isChain_singleton _, ?_⟩
  intro before hBefore after hAfter
  rw [List.getLast?_concat] at hBefore
  obtain rfl := Option.some.inj hBefore
  obtain rfl := Option.some.inj hAfter
  exact hNext

/-- How the history goes on. -/
theorem find?_writes_concat (history : List FlvDemuxerData) (data : FlvDemuxerData) :
    (history ++ [data]).find? (·.writes) =
      (history.find? (·.writes)).or (if data.writes then some data else none) := by
  rw [List.find?_append, List.find?_singleton]

section Steps

variable {duration aofRatio : Int} {history : List FlvDemuxerData} {s : Segmenting}
  {data : FlvDemuxerData}

theorem counted_nothing (h : Counted duration aofRatio history s)
    (hFrame : s.state.owner.frameOf data = .ok none) :
    Counted duration aofRatio (history ++ [data]) s := by
  obtain ⟨hWrites, hWritten⟩ := frameOf_none hFrame
  have hFind : (history ++ [data]).find? (·.writes) = history.find? (·.writes) := by
    rw [find?_writes_concat, hWrites, if_neg Bool.false_ne_true, Option.or_none]
  refine ⟨h.configured, h.bytes, h.lined, h.data, ?_, h.lastDts, h.zero, ?_, ?_⟩
  · rw [h.frames, List.filterMap_append, List.filterMap_cons_none hWritten, List.filterMap_nil,
      List.append_nil]
  · rw [hFind]
    exact h.nothing
  · rw [hFind]
    exact h.first

/-- Where a segment starts before there is any, and as long as there is only one. -/
theorem Counted.lastTsDts (h : Counted duration aofRatio history s) (hMade : s.made = []) :
    s.state.owner.lastTsDts = 0 := by
  have hZero := h.zero
  rw [hMade] at hZero
  exact hZero

/-- The first frame is decided on when it comes; what comes later changes nothing. -/
theorem Counted.first_step {s' : Segmenting} {frame : Frame} {need : Bool}
    (h : Counted duration aofRatio history s)
    (hFrame : s.state.owner.frameOf data = .ok (some (frame, need)))
    (hMade : s.made <+: s'.made)
    (hOpening : s.made = [] → ∀ n ∈ s.pieces.head?.map (·.frame.dts), s'.opening = some n)
    (hFirst : s.made = [] → s.pieces = [] → if need then s'.made ≠ [] ∧ s'.opening = none
      else s'.opening = some data.dts) :
    ∀ data', (history ++ [data]).find? (·.writes) = some data' →
      (data'.Cuts duration aofRatio 0 ∧ s'.made ≠ [] ∧ s'.opening = none ∨
        ¬data'.Cuts duration aofRatio 0 ∧ s'.opening = some data'.dts) := by
  obtain ⟨hWrites, -, -, hNeed⟩ := frameOf_some hFrame
  intro data' hFind
  rw [find?_writes_concat, hWrites, if_pos rfl] at hFind
  cases hBefore : history.find? (·.writes) with
  | none =>
    rw [hBefore, Option.none_or] at hFind
    obtain rfl := Option.some.inj hFind
    obtain ⟨hNoSegment, hNoPiece⟩ := h.nothing hBefore
    have hDecided := hFirst hNoSegment hNoPiece
    rw [h.configured.1, h.configured.2, h.lastTsDts hNoSegment] at hNeed
    cases need with
    | true => exact .inl ⟨hNeed.mp rfl, hDecided⟩
    | false =>
      refine .inr ⟨?_, hDecided⟩
      intro hCuts
      cases hNeed.mpr hCuts
  | some first =>
    rw [hBefore, Option.some_or] at hFind
    obtain rfl := Option.some.inj hFind
    rcases h.first first hBefore with ⟨hCuts, hSegment, hNone⟩ | ⟨hStays, hOpens⟩
    · refine .inl ⟨hCuts, ?_, ?_⟩
      · intro hEmpty
        rw [hEmpty] at hMade
        exact hSegment (List.prefix_nil.mp hMade)
      · rw [opening_of_made hSegment hMade, hNone]
    · refine .inr ⟨hStays, ?_⟩
      by_cases hSegment : s.made = []
      · apply hOpening hSegment
        rw [Segmenting.opening, hSegment] at hOpens
        exact hOpens
      · rw [opening_of_made hSegment hMade, hOpens]

theorem find?_writes_ne_none (hWrites : data.writes = true) :
    (history ++ [data]).find? (·.writes) ≠ none := by
  rw [find?_writes_concat, if_pos hWrites]
  cases history.find? (·.writes) with
  | none => exact Option.some_ne_none data
  | some first => exact Option.some_ne_none first

theorem counted_write {state : Acting Flv2HlsRemuxer} {frame : Frame}
    (h : Counted duration aofRatio history s)
    (hFrame : s.state.owner.frameOf data = .ok (some (frame, false)))
    (hWrite : writeFrame frame s.state = .ok () state) :
    Counted duration aofRatio (history ++ [data]) (s.after data state) := by
  obtain ⟨hWrites, hWritten, hDts, -⟩ := frameOf_some hFrame
  obtain ⟨m, hRun, rfl⟩ := writeFrame_eq_ok hWrite
  have hGrows := TsMuxer.grows_write frame.pid (Int64.ofInt (frame.pts * 90))
    (Int64.ofInt (frame.dts * 90)) frame.flags frame.payload s.state.owner.tsMuxer
  rw [hRun] at hGrows
  simp only [Segmenting.after, hFrame]
  refine ⟨h.configured, ?_, ?_, h.data, ?_, ?_, h.zero, ?_, ?_⟩
  · rw [List.flatMap_append, ← h.bytes, List.flatMap_singleton]
    exact (List.prefix_iff_eq_append.mp hGrows).symm
  · intro dts isEof
    refine chain_swap (h.lined dts isEof) rfl ?_
    intro n hOpens
    obtain ⟨p, hHead, hEq⟩ := Option.map_eq_some_iff.mp hOpens
    rw [Made.opens, Segmenting.ended, List.head?_append, show s.pieces.head? = some p from hHead]
    exact congrArg some hEq
  · rw [List.map_append, ← List.append_assoc, h.frames, List.filterMap_append,
      List.filterMap_cons_some hWritten]
    rfl
  · intro p hLast
    rw [List.getLast?_concat] at hLast
    obtain rfl := Option.some.inj hLast
    rfl
  · intro hNone
    exact absurd hNone (find?_writes_ne_none hWrites)
  · refine h.first_step hFrame (List.prefix_refl _) ?_ ?_
    · intro hMade n hHead
      obtain ⟨p, hPiece, hEq⟩ := Option.map_eq_some_iff.mp hHead
      simp only [Segmenting.opening, hMade]
      rw [List.head?_append, hPiece]
      exact congrArg some hEq
    · intro hMade hPieces
      rw [if_neg Bool.false_ne_true]
      simp only [Segmenting.opening, hMade, hPieces]
      exact congrArg some hDts

theorem counted_cut {state state' : Acting Flv2HlsRemuxer} {frame : Frame}
    (h : Counted duration aofRatio history s)
    (hFrame : s.state.owner.frameOf data = .ok (some (frame, true)))
    (hCut : cut frame s.state = .ok () state) (hWrite : writeFrame frame state = .ok () state') :
    Counted duration aofRatio (history ++ [data]) (s.after data state') := by
  obtain ⟨hWrites, hWritten, hDts, -⟩ := frameOf_some hFrame
  obtain ⟨t, -, rfl⟩ := cut_eq_ok hCut
  obtain ⟨m, hRun, rfl⟩ := writeFrame_eq_ok hWrite
  simp only [Segmenting.after, hFrame]
  refine ⟨h.configured, ?_, ?_, ?_, ?_, ?_, ?_, ?_, ?_⟩
  · rw [List.flatMap_singleton]
  · intro dts isEof
    exact chain_concat (h.lined frame.dts false) ⟨rfl, rfl⟩
  · intro made hMem
    rcases List.mem_append.mp hMem with hMem | hMem
    · exact h.data made hMem
    · obtain rfl := List.mem_singleton.mp hMem
      exact h.bytes
  · rw [List.flatMap_append, List.flatMap_singleton, List.filterMap_append,
      List.filterMap_cons_some hWritten, ← h.frames]
    rfl
  · intro p hLast
    obtain rfl := Option.some.inj hLast
    rfl
  · have hZero := h.zero
    rw [List.head?_append]
    cases hMade : s.made.head? with
    | none =>
      rw [hMade] at hZero
      exact hZero
    | some first =>
      rw [hMade] at hZero
      exact hZero
  · intro hNone
    exact absurd hNone (find?_writes_ne_none hWrites)
  · refine h.first_step hFrame (List.prefix_append _ _) ?_ ?_
    · intro hMade n hHead
      simp only [Segmenting.opening, hMade]
      exact hHead
    · intro hMade hPieces
      rw [if_pos rfl]
      refine ⟨List.append_ne_nil_of_right_ne_nil _ (List.cons_ne_nil _ _), ?_⟩
      simp only [Segmenting.opening, hMade]
      exact Made.opens_eq_none.mpr hPieces

theorem counted_step {appName streamName : Text} {hlsConfig : Option HlsConfig}
    {eventProducer : Bool} {s' : Segmenting} (h : Counted duration aofRatio history s)
    (hStep : (segmenting appName streamName hlsConfig eventProducer).step s data s') :
    Counted duration aofRatio (history ++ [data]) s' := by
  obtain ⟨state, hProcess, rfl⟩ := hStep
  rcases process_cases hProcess with ⟨hFrame, rfl⟩ | ⟨frame, ⟨hFrame, hWrite⟩ | ⟨s1, hFrame, hCut, hWrite⟩⟩
  · have hSame : s.after data s.state = s := by
      simp only [Segmenting.after, hFrame]
    rw [hSame]
    exact counted_nothing h hFrame
  · exact counted_write h hFrame hWrite
  · exact counted_cut h hFrame hCut hWrite

end Steps

theorem counted_init {appName streamName : Text} {hlsConfig : Option HlsConfig}
    {eventProducer : Bool} {s : Segmenting}
    (h : (segmenting appName streamName hlsConfig eventProducer).init s) :
    Counted ((hlsConfig.bind (·.fragment)).getD 5) ((hlsConfig.bind (·.aofRatio)).getD 5) [] s := by
  obtain ⟨state, hNew, rfl⟩ := h
  obtain ⟨audioPid, videoPid, tsMuxer, m3u8, hStreams, -, rfl⟩ := new_eq_ok hNew
  refine ⟨⟨rfl, rfl⟩, ?_, ?_, ?_, rfl, ?_, rfl, fun _ => ⟨rfl, rfl⟩, ?_⟩
  · obtain ⟨-, rfl⟩ := EStateM.Result.ok.inj hStreams
    rfl
  · exact fun dts isEof => List.isChain_singleton _
  · rintro m ⟨⟩
  · rintro p ⟨⟩
  · rintro data ⟨⟩

theorem Counted.lined_flushed {duration aofRatio : Int} {history : List FlvDemuxerData}
    {s : Segmenting} (h : Counted duration aofRatio history s) :
    Lined (history.filterMap (·.written s.state.owner.audioPid s.state.owner.videoPid)) s.flushed := by
  refine ⟨?_, ?_, h.lined _ _, ?_⟩
  · intro m hMem
    rcases List.mem_append.mp hMem with hMem | hMem
    · exact h.data m hMem
    · obtain rfl := List.mem_singleton.mp hMem
      exact h.bytes
  · rw [Segmenting.flushed, List.flatMap_append, List.flatMap_singleton, ← h.frames]
    rfl
  · intro m hLast p hPiece
    rw [Segmenting.flushed, List.getLast?_concat] at hLast
    obtain rfl := Option.some.inj hLast
    rw [h.lastDts p hPiece]
    rfl

/-- The first segment opens at its start when the stream begins at 0. -/
theorem Counted.opens_iff {duration aofRatio : Int} {history : List FlvDemuxerData}
    {s : Segmenting} (h : Counted duration aofRatio history s) :
    (∀ m ∈ s.flushed.head?, m.opens = some m.start) ↔ Begins duration aofRatio history := by
  have hFlushed : (∀ m ∈ s.flushed.head?, m.opens = some m.start) ↔ s.opening = some 0 := by
    have hZero := h.zero
    rw [Segmenting.flushed, Segmenting.opening]
    cases hMade : s.made with
    | nil =>
      rw [hMade] at hZero
      constructor
      · intro hAll
        exact (hAll _ rfl).trans (congrArg some hZero)
      · intro hOpens m hHead
        obtain rfl := Option.some.inj hHead
        exact hOpens.trans (congrArg some hZero.symm)
    | cons first rest =>
      rw [hMade] at hZero
      constructor
      · intro hAll
        exact (hAll first rfl).trans (congrArg some hZero)
      · intro hOpens m hHead
        obtain rfl := Option.some.inj hHead
        exact hOpens.trans (congrArg some hZero.symm)
  rw [hFlushed, Begins]
  cases hFind : history.find? (·.writes) with
  | none =>
    obtain ⟨hMade, hPieces⟩ := h.nothing hFind
    simp [Segmenting.opening, hMade, hPieces]
  | some data =>
    have hWrites : data.writes = true := List.find?_some hFind
    constructor
    · intro hOpens
      refine ⟨data, rfl, (beginsAtZero_iff hWrites).mpr ?_⟩
      rcases h.first data hFind with ⟨-, -, hNone⟩ | ⟨hStays, hSome⟩
      · rw [hNone] at hOpens
        cases hOpens
      · exact ⟨Option.some.inj (hSome.symm.trans hOpens), hStays⟩
    · rintro ⟨data', hEq, hBegins⟩
      obtain rfl := Option.some.inj hEq
      obtain ⟨hDts, hStays⟩ := (beginsAtZero_iff hWrites).mp hBegins
      rcases h.first data hFind with ⟨hCuts, -⟩ | ⟨-, hSome⟩
      · exact absurd hCuts hStays
      · rw [hSome, hDts]

/-- In every run without errors the segments are cut well exactly when the stream begins at 0. -/
theorem wellCut_iff_begins {appName streamName : Text} {hlsConfig : Option HlsConfig}
    {eventProducer : Bool} {frames : List FlvDemuxerData} {made : List Made}
    {final : Acting Flv2HlsRemuxer}
    (h : Makes appName streamName hlsConfig eventProducer frames made final) :
    WellCut (frames.filterMap (·.written final.owner.audioPid final.owner.videoPid)) made ↔
      Begins ((hlsConfig.bind (·.fragment)).getD 5) ((hlsConfig.bind (·.aofRatio)).getD 5) frames := by
  obtain ⟨s0, s, hInit, hRun, hFlush, rfl⟩ := h
  have hCounted := hRun.preserves_labels (fun history s data s' hs hStep => counted_step hs hStep)
    (counted_init hInit)
  obtain ⟨t, -, rfl⟩ := flush_eq_ok hFlush
  have hMade : s.flushed ≠ [] := List.append_ne_nil_of_right_ne_nil _ (List.cons_ne_nil _ _)
  exact (wellCut_iff hCounted.lined_flushed hMade).trans hCounted.opens_iff

theorem keyFrame_wellCut : ∃ made final, Makes ['a'] ['s'] none true [keyFrame 0] made final ∧
    WellCut ([keyFrame 0].filterMap (·.written final.owner.audioPid final.owner.videoPid)) made := by
  obtain ⟨made, final, hMakes, -⟩ := oneFrame_makes
  have hBegins : Begins 5 5 [keyFrame 0] := ⟨keyFrame 0, rfl, rfl, fun _ => by decide⟩
  exact ⟨made, final, hMakes, (wellCut_iff_begins hMakes).mpr hBegins⟩

theorem lateFrame_makes : ∃ made final, Makes ['a'] ['s'] none true [keyFrame 1000] made final ∧
    made.map (fun m => (m.call.duration, m.opens, m.pieces.getLast?.map (·.frame.dts))) =
      [(1000, some 1000, some 1000)] := by
  obtain ⟨state, hNew, s, hRun, final, hFlush, hMade⟩ :
      ∃ state ∈ (Flv2HlsRemuxer.new ['a'] ['s'] none true).toOption,
      ∃ s ∈ (Segmenting.mk state [] []).afterAll [keyFrame 1000],
      ∃ _final ∈ leftBy flushRemainingData s.state,
        s.flushed.map (fun m => (m.call.duration, m.opens, m.pieces.getLast?.map (·.frame.dts))) =
          [(1000, some 1000, some 1000)] := by
    decide +kernel
  exact ⟨_, final, makes_of_runs hNew hRun hFlush, hMade⟩

/-- A stream that begins at 1000: its first segment is counted from 0. -/
theorem lateStream_misCut :
    ¬∀ frames made final, frames.Pairwise (fun data data' => data.dts ≤ data'.dts) →
      Makes ['a'] ['s'] none true frames made final →
        WellCut (frames.filterMap (·.written final.owner.audioPid final.owner.videoPid)) made := by
  intro hAll
  obtain ⟨made, final, hMakes, hMade⟩ := lateFrame_makes
  have hCut := hAll _ made final (List.pairwise_singleton _ _) hMakes
  obtain ⟨m, rfl, hOne⟩ := List.map_eq_singleton_iff.mp hMade
  obtain ⟨hDuration, hRest⟩ := Prod.mk.inj hOne
  obtain ⟨hOpens, hPiece⟩ := Prod.mk.inj hRest
  obtain ⟨first, last, hFirst, hLast, hLasts⟩ := hCut.last m rfl
  rw [hOpens] at hFirst
  rw [hLast] at hPiece
  obtain rfl := Option.some.inj hFirst
  have hEnd : last.frame.dts = 1000 := Option.some.inj hPiece
  omega

end Xiu.Hls
