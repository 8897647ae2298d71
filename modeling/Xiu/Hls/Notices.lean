import Xiu.Hls.Segmenting

/-! What the hub is told of the segments of a stream, in any run without errors: of all but the last two,
each once, in order, and while its file is there. -/

namespace Xiu.Hls

open ProofKit Mpegts Flv2HlsRemuxer

/-- The segments that the hub is told of. -/
def announced (effects : List Effect) : List Segment :=
  effects.filterMap fun effect =>
    match effect with
    | .onHls _ _ segment => some segment
    | _ => none

/-- The hub is told of a segment while its file is there. -/
def Timely (effects : List Effect) : Prop :=
  ∀ before appName streamName segment after,
    effects = before ++ .onHls appName streamName segment :: after → Present segment.path before

/-- The segments of a stream, from the calls that make them. -/
def createdOf (s : M3u8) (made : List Made) : List Segment :=
  segmentsOf s.m3u8Folder (made.map (·.call))

/-! ### Effects -/

theorem announced_append (first rest : List Effect) :
    announced (first ++ rest) = announced first ++ announced rest := List.filterMap_append

theorem announced_quiet {effects : List Effect} (h : Quiet effects) : announced effects = [] := by
  rw [announced, List.filterMap_eq_nil_iff]
  intro effect hMem
  cases effect with
  | onHls appName streamName segment => exact absurd rfl (h _ hMem appName streamName segment)
  | createDirAll path => rfl
  | create path contents => rfl
  | removeFile path => rfl

theorem timely_append {first rest : List Effect} (h : Timely first)
    (hRest : ∀ before appName streamName segment after,
      rest = before ++ .onHls appName streamName segment :: after →
        Present segment.path (first ++ before)) : Timely (first ++ rest) := by
  intro before appName streamName segment after hEq
  rcases List.append_eq_append_iff.mp hEq with ⟨more, rfl, hSplit⟩ | ⟨more, hSplit, hLast⟩
  · exact hRest more appName streamName segment after hSplit
  · cases more with
    | nil =>
      rw [List.append_nil] at hSplit
      have hPresent := hRest [] appName streamName segment after hLast.symm
      rwa [List.append_nil, hSplit] at hPresent
    | cons effect more =>
      obtain ⟨rfl, -⟩ := List.cons.inj hLast
      exact h before appName streamName segment more hSplit

theorem timely_quiet {first rest : List Effect} (h : Timely first) (hRest : Quiet rest) :
    Timely (first ++ rest) := by
  apply timely_append h
  rintro before appName streamName segment after rfl
  exact absurd rfl (hRest _ (List.mem_append_right _ List.mem_cons_self) appName streamName segment)

/-- A notice changes no file. -/
theorem present_onHls (path : Text) (effects : List Effect) (appName streamName : Text)
    (segment : Segment) :
    Present path (effects ++ [.onHls appName streamName segment]) = Present path effects := by
  rw [Present, List.foldl_append]
  rfl

/-! ### Runs -/

/-- What the playlists and the hub know while a stream is cut. -/
structure Played (duration : Int) (m3u8 : M3u8) (s : Segmenting) : Prop where
  after : After duration m3u8 (s.made.map (·.call)) ⟨s.state.owner.m3u8Handler, s.state.effects⟩
  count : (s.made.map (·.call)).length < 2 ^ 32
  announced : announced s.state.effects =
    if s.state.owner.eventProducer then (createdOf m3u8 s.made).dropLast else []
  timely : Timely s.state.effects

theorem refreshPlaylist_quiet {s s' : Acting M3u8} {live : List Line}
    (h : M3u8.refreshPlaylist s = .ok live s') :
    s'.owner = s.owner ∧ ∃ path, s'.effects = s.effects ++ [.create path (.playlist live)] := by
  rw [M3u8.refreshPlaylist, bind_get] at h
  obtain ⟨header, s1, hHeader, h⟩ := bind_eq_ok h
  obtain ⟨-, rfl⟩ := orFail_eq_ok hHeader
  obtain ⟨rfl, rfl⟩ := EStateM.Result.ok.inj h
  exact ⟨rfl, _, rfl⟩

/-- A segment more. -/
theorem After.adds {duration : Int} {m3u8 : M3u8} {calls : List AddSegment} {c : AddSegment}
    {t t' : Acting M3u8} (h : After duration m3u8 calls t) (hCount : calls.length < 2 ^ 32)
    (hAdds : Adds c t t') :
    After duration m3u8 (calls ++ [c]) t' ∧ m3u8.liveTsCount ≠ 0 ∧ (calls ++ [c]).length < 2 ^ 32 ∧
      ∃ effects, Quiet effects ∧ t'.effects = t.effects ++ effects := by
  obtain ⟨t1, live, hRun, hRefresh⟩ := hAdds
  obtain ⟨hAfter, hRoom, hNext, effects, hQuiet, hEffects⟩ := h.of_ok hCount hRun
  obtain ⟨hOwner, path, hPath⟩ := refreshPlaylist_quiet hRefresh
  refine ⟨⟨hOwner.trans hAfter.owner, ?_⟩, hRoom, ?_, effects ++ [.create path (.playlist live)],
    quiet_append hQuiet (quiet_create _ _), ?_⟩
  · intro segment hMem
    rw [hOwner] at hMem
    rw [hPath, present_create, hAfter.present segment hMem]
    rfl
  · rw [List.length_append]
    exact hNext
  · rw [hPath, hEffects, List.append_assoc]

/-- The last of the segments in the window is the last one that was made. -/
theorem After.getLast {duration : Int} {m3u8 : M3u8} {calls : List AddSegment} {t : Acting M3u8}
    (h : After duration m3u8 calls t) (hRoom : m3u8.liveTsCount ≠ 0) :
    t.owner.segments.getLast? = (segmentsOf m3u8.m3u8Folder calls).getLast? := by
  obtain ⟨k, hCount⟩ := Nat.exists_eq_succ_of_ne_zero hRoom
  rw [h.owner, M3u8.afterAll, hCount]
  show (List.rtake _ (k + 1)).getLast? = _
  rw [List.rtake, List.getLast?_drop]
  split
  · rename_i hEmpty
    have hNil : segmentsOf m3u8.m3u8Folder calls = [] := by
      apply List.length_eq_zero_iff.mp
      omega
    rw [hNil]
    rfl
  · rfl

/-- The notices of a remuxer: of the last segment in the window, where there is one. -/
theorem notices_cases (self : Flv2HlsRemuxer) :
    self.notices = [] ∧ announced self.notices = [] ∧
      (self.eventProducer = false ∨ self.m3u8Handler.segments.getLast? = none) ∨
    ∃ segment, self.notices = [.onHls self.appName self.streamName segment] ∧
      self.eventProducer = true ∧ self.m3u8Handler.segments.getLast? = some segment := by
  rw [Flv2HlsRemuxer.notices]
  cases hProducer : self.eventProducer with
  | false => exact .inl ⟨rfl, rfl, .inl rfl⟩
  | true =>
    cases hLast : self.m3u8Handler.segments.getLast? with
    | none => exact .inl ⟨rfl, rfl, .inr rfl⟩
    | some segment => exact .inr ⟨segment, rfl, rfl, rfl⟩

theorem present_notices (self : Flv2HlsRemuxer) (path : Text) (effects : List Effect) :
    Present path (effects ++ self.notices) = Present path effects := by
  rcases notices_cases self with ⟨hNone, -⟩ | ⟨segment, hSome, -⟩
  · rw [hNone, List.append_nil]
  · rw [hSome, present_onHls]

theorem After.notices {duration : Int} {m3u8 : M3u8} {calls : List AddSegment}
    {self : Flv2HlsRemuxer} {effects : List Effect}
    (h : After duration m3u8 calls ⟨self.m3u8Handler, effects⟩) :
    After duration m3u8 calls ⟨self.m3u8Handler, effects ++ self.notices⟩ where
  owner := h.owner
  present segment hMem := (present_notices self segment.path effects).trans (h.present segment hMem)

theorem timely_notices {self : Flv2HlsRemuxer} {effects : List Effect} (h : Timely effects)
    (hPresent : ∀ segment ∈ self.m3u8Handler.segments, Present segment.path effects) :
    Timely (effects ++ self.notices) := by
  rcases notices_cases self with ⟨hNone, -⟩ | ⟨segment, hSome, -, hLast⟩
  · rw [hNone, List.append_nil]
    exact h
  · rw [hSome]
    apply timely_append h
    intro before appName streamName segment' after hEq
    cases before with
    | nil =>
      obtain ⟨hEffect, -⟩ := List.cons.inj hEq
      obtain ⟨-, -, rfl⟩ := Effect.onHls.inj hEffect
      rw [List.append_nil]
      exact hPresent segment (List.mem_of_getLast? hLast)
    | cons effect before =>
      have hLength := congrArg List.length hEq
      simp at hLength

/-- What a segment that is opened adds to the notices. -/
theorem announced_cut {duration : Int} {m3u8 : M3u8} {self : Flv2HlsRemuxer} {made : List Made}
    {effects : List Effect}
    (hAfter : After duration m3u8 (made.map (·.call)) ⟨self.m3u8Handler, effects⟩)
    (hRoom : m3u8.liveTsCount ≠ 0)
    (hAnnounced : announced effects =
      if self.eventProducer then (createdOf m3u8 made).dropLast else []) :
    announced (effects ++ self.notices) = if self.eventProducer then createdOf m3u8 made else [] := by
  have hLast := hAfter.getLast hRoom
  rw [announced_append, hAnnounced]
  rcases notices_cases self with ⟨-, hNone, hWhy⟩ | ⟨segment, hSome, hProducer, hSegment⟩
  · rw [hNone, List.append_nil]
    rcases hWhy with hProducer | hEmpty
    · rw [hProducer]
      rfl
    · have hNil : createdOf m3u8 made = [] := List.getLast?_eq_none_iff.mp (hLast.symm.trans hEmpty)
      rw [hNil]
      rfl
  · rw [hSome, hProducer]
    show (createdOf m3u8 made).dropLast ++ [segment] = createdOf m3u8 made
    exact List.dropLast_append_getLast? segment (hLast.symm.trans hSegment)

theorem createdOf_concat (m3u8 : M3u8) (made : List Made) (m : Made) :
    ∃ segment, createdOf m3u8 (made ++ [m]) = createdOf m3u8 made ++ [segment] := by
  exact ⟨_, by rw [createdOf, List.map_append, List.map_singleton, segmentsOf_concat]; rfl⟩

theorem played_step {appName streamName : Text} {hlsConfig : Option HlsConfig} {eventProducer : Bool}
    {duration : Int} {m3u8 : M3u8} {s s' : Segmenting} {data : FlvDemuxerData}
    (h : Played duration m3u8 s)
    (hStep : (segmenting appName streamName hlsConfig eventProducer).step s data s') :
    Played duration m3u8 s' := by
  obtain ⟨state, hProcess, rfl⟩ := hStep
  rcases process_cases hProcess with ⟨hFrame, rfl⟩ | ⟨frame, ⟨hFrame, hWrite⟩ | ⟨s1, hFrame, hCut, hWrite⟩⟩
  · simp only [Segmenting.after, hFrame]
    exact h
  · obtain ⟨m, -, rfl⟩ := writeFrame_eq_ok hWrite
    simp only [Segmenting.after, hFrame]
    exact ⟨h.after, h.count, h.announced, h.timely⟩
  · obtain ⟨t, hAdds, rfl⟩ := cut_eq_ok hCut
    obtain ⟨m, -, rfl⟩ := writeFrame_eq_ok hWrite
    simp only [Segmenting.after, hFrame]
    obtain ⟨hAfter, hRoom, hCount, effects, hQuiet, hEffects⟩ := h.after.notices.adds h.count hAdds
    have hCalls : (s.made ++ [s.ended frame.dts false]).map (·.call) =
        s.made.map (·.call) ++ [s.state.owner.call frame.dts false] := List.map_append
    refine ⟨?_, ?_, ?_, ?_⟩
    · rw [hCalls]
      exact hAfter
    · rw [hCalls]
      exact hCount
    · obtain ⟨segment, hCreated⟩ :=
        createdOf_concat m3u8 s.made (s.ended frame.dts false)
      show announced t.effects = _
      rw [hEffects, announced_append, announced_quiet hQuiet, List.append_nil, hCreated,
        List.dropLast_concat]
      exact announced_cut h.after hRoom h.announced
    · show Timely t.effects
      rw [hEffects]
      exact timely_quiet (timely_notices h.timely h.after.present) hQuiet

theorem played_init {appName streamName : Text} {hlsConfig : Option HlsConfig} {eventProducer : Bool}
    {s : Segmenting} (h : (segmenting appName streamName hlsConfig eventProducer).init s) :
    Played s.state.owner.duration s.state.owner.m3u8Handler s := by
  obtain ⟨state, hNew, rfl⟩ := h
  obtain ⟨audioPid, videoPid, tsMuxer, m3u8, -, hM3u8, rfl⟩ := new_eq_ok hNew
  have hQuiet : Quiet m3u8.effects := by
    rw [effects_new hM3u8]
    intro effect hMem appName streamName segment hEq
    simp only [List.mem_cons, List.not_mem_nil, or_false, or_self] at hMem
    rw [hMem] at hEq
    cases hEq
  refine ⟨after_nil (begun_new hM3u8), (by decide : 0 < 2 ^ 32), ?_, ?_⟩
  · show announced m3u8.effects = if eventProducer then [] else []
    rw [announced_quiet hQuiet, ite_self]
  · have hNothing : Timely [] := by
      intro before appName streamName segment after hEq
      cases before <;> cases hEq
    exact timely_quiet hNothing hQuiet

/-- In every run without errors the hub is told of all segments but the last two, each once, in order, and
while its file is there; so it is never told of all of them. -/
theorem notices_incomplete {appName streamName : Text} {hlsConfig : Option HlsConfig}
    {eventProducer : Bool} {frames : List FlvDemuxerData} {made : List Made}
    {final : Acting Flv2HlsRemuxer}
    (h : Makes appName streamName hlsConfig eventProducer frames made final) :
    let created := createdOf final.owner.m3u8Handler made
    final.owner.m3u8Handler.segments = created.rtake final.owner.m3u8Handler.liveTsCount ∧
      announced final.effects =
        (if final.owner.eventProducer then created.dropLast.dropLast else []) ∧
      Timely final.effects ∧ announced final.effects ≠ created := by
  obtain ⟨s0, s, hInit, hRun, hFlush, rfl⟩ := h
  have hPlayed : Played s0.state.owner.duration s0.state.owner.m3u8Handler s := by
    apply hRun.preserves
    · exact fun s data s' hs hStep => played_step hs hStep
    · exact played_init hInit
  obtain ⟨t, hAdds, rfl⟩ := flush_eq_ok hFlush
  obtain ⟨hAfter, -, -, effects, hQuiet, hEffects⟩ := hPlayed.after.adds hPlayed.count hAdds
  have hFolder : t.owner.m3u8Folder = s0.state.owner.m3u8Handler.m3u8Folder := by
    rw [hAfter.owner]
    rfl
  have hCreated : createdOf t.owner s.flushed = createdOf s0.state.owner.m3u8Handler s.flushed := by
    rw [createdOf, hFolder]
    rfl
  obtain ⟨segment, hLast⟩ := createdOf_concat s0.state.owner.m3u8Handler s.made
    (s.ended s.state.owner.lastDts true)
  have hAnnounced : announced t.effects =
      if s.state.owner.eventProducer then (createdOf t.owner s.flushed).dropLast.dropLast else [] := by
    rw [hEffects, announced_append, announced_quiet hQuiet, List.append_nil, hPlayed.announced, hCreated,
      Segmenting.flushed, hLast, List.dropLast_concat]
  refine ⟨?_, hAnnounced, ?_, ?_⟩
  · show t.owner.segments = (createdOf t.owner s.flushed).rtake t.owner.liveTsCount
    rw [hCreated, hAfter.owner, createdOf, Segmenting.flushed, List.map_append]
    rfl
  · show Timely t.effects
    rw [hEffects]
    exact timely_quiet hPlayed.timely hQuiet
  · show announced t.effects ≠ createdOf t.owner s.flushed
    rw [hAnnounced, hCreated, Segmenting.flushed, hLast, List.dropLast_concat]
    intro hEq
    have hLength := congrArg List.length hEq
    rw [List.length_append, List.length_singleton] at hLength
    split at hLength
    · rw [List.length_dropLast] at hLength
      omega
    · cases hLength

/-- A key frame. -/
def keyFrame (dts : Int64) : FlvDemuxerData := .video ⟨KEY_FRAME, dts, dts, [0x65]⟩

theorem oneFrame_makes : ∃ made final, Makes ['a'] ['s'] none true [keyFrame 0] made final ∧
    announced final.effects = [] ∧ (createdOf final.owner.m3u8Handler made).length = 1 := by
  obtain ⟨state, hNew, s, hRun, final, hFlush, hNone, hOne⟩ :
      ∃ state ∈ (Flv2HlsRemuxer.new ['a'] ['s'] none true).toOption,
      ∃ s ∈ (Segmenting.mk state [] []).afterAll [keyFrame 0],
      ∃ final ∈ leftBy flushRemainingData s.state, (announced final.effects).length = 0 ∧
        (createdOf final.owner.m3u8Handler s.flushed).length = 1 := by
    decide +kernel
  exact ⟨_, final, makes_of_runs hNew hRun hFlush, List.eq_nil_of_length_eq_zero hNone, hOne⟩

theorem oneFrame_incomplete : ∃ made final, Makes ['a'] ['s'] none true [keyFrame 0] made final ∧
    announced final.effects ≠ createdOf final.owner.m3u8Handler made := by
  obtain ⟨made, final, hMakes, -⟩ := oneFrame_makes
  exact ⟨made, final, hMakes, (notices_incomplete hMakes).2.2.2⟩

/-- The hub is not told of the segment of a single key frame. -/
theorem lastSegment_unannounced :
    ¬∀ frames made final, Makes ['a'] ['s'] none true frames made final →
      announced final.effects = createdOf final.owner.m3u8Handler made := by
  intro hAll
  obtain ⟨made, final, hMakes, hNone, hOne⟩ := oneFrame_makes
  have hEq := hAll _ made final hMakes
  rw [hNone] at hEq
  rw [← hEq] at hOne
  cases hOne

end Xiu.Hls
