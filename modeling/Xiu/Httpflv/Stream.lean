import Xiu.Httpflv.Metadata

/-! The stream that an HTTP-FLV consumer is given.  The header waits until both kinds of media or more
than ten frames have been seen, and the frames wait with it. -/

namespace Xiu.Httpflv

open Bytesio ProofKit StreamHub
open Flv (FlvTag FlvMuxer.writeFlvHeader FlvMuxer.writePreviousTagSize)
open Workers (Guess HttpFlv.sendBody HttpFlv.sendFrames HttpFlv.sendHeader)

/-- Media and metadata with bodies of three-byte lengths. -/
def Sendable : FrameData → Prop
  | .audio _ data => data.length < 2 ^ 24
  | .video _ data => data.length < 2 ^ 24
  | .metaData _ data => data.length < 2 ^ 24 ∧ Leads data
  | .mediaInfo _ => False

/-- The tag that is due for a frame. -/
def tagFor : FrameData → FlvTag
  | .audio timestamp data => ⟨Flv.AUDIO, timestamp, data⟩
  | .video timestamp data => ⟨Flv.VIDEO, timestamp, data⟩
  | .metaData timestamp data => ⟨Flv.SCRIPT_DATA_AMF, timestamp, bodyToSend data⟩
  | .mediaInfo _ => ⟨0, 0, []⟩

def tagBytes (frame : FrameData) : List UInt8 := (tagFor frame).bytes ++ (tagFor frame).size

/-- The file so far: a header, the size of no tag, and a tag for each frame. -/
def fileBytes (hasAudio hasVideo : Bool) (frames : List FrameData) : List UInt8 :=
  (FlvMuxer.writeFlvHeader ⟨[]⟩ hasAudio hasVideo).bytes ++ toBE 4 0 ++ frames.flatMap tagBytes

/-- The consumer is there, nothing is left in the buffer, and this has been handed over. -/
structure HttpFlv.Ready (s : HttpFlv) (output : List UInt8) : Prop where
  empty : s.writer = ⟨[]⟩
  connected : s.connected = true
  handed : s.httpResponseData.flatten = output

variable {self : HttpFlv} {output : List UInt8} {frame : FrameData} {frames : List FrameData}
  {retryCount k : Nat}

theorem flatMap_tagBytes_cons :
    (frame :: frames).flatMap tagBytes = tagBytes frame ++ frames.flatMap tagBytes :=
  List.flatMap_cons

/-! ### The calls -/

theorem writeFlvTag_of_tag {tag : FlvTag} {self1 : HttpFlv} (h : self1.Ready output)
    (hTag : HttpFlv.tagOf frame self = .ok tag self1) (hBody : tag.body.length < 2 ^ 24) :
    ∃ self', HttpFlv.writeFlvTag frame self = .ok () self' ∧
      self'.Ready (output ++ (tag.bytes ++ tag.size)) := by
  refine ⟨_, HttpFlv.writeFlvTag_ok hTag hBody h.connected, rfl, h.connected, ?_⟩
  simp only [h.empty, List.nil_append, List.flatten_append, List.flatten_cons, List.flatten_nil,
    List.append_nil, h.handed]

theorem tagOf_ready (h : self.Ready output) (hFrame : Sendable frame) :
    ∃ self1, HttpFlv.tagOf frame self = .ok (tagFor frame) self1 ∧ self1.Ready output := by
  cases frame with
  | audio timestamp data => exact ⟨_, rfl, h.empty, h.connected, h.handed⟩
  | video timestamp data => exact ⟨_, rfl, h.empty, h.connected, h.handed⟩
  | metaData timestamp data =>
    obtain ⟨rest, rfl⟩ := leads_iff.mp hFrame.2
    refine ⟨self, ?_, h⟩
    rw [tagOf_metaData, if_pos (by rw [List.length_append]; exact Nat.le_add_right _ _), tagFor,
      bodyToSend_append, List.drop_left' (by rfl)]
  | mediaInfo info => exact hFrame.elim

theorem tagFor_length (hFrame : Sendable frame) : (tagFor frame).body.length < 2 ^ 24 := by
  cases frame with
  | audio timestamp data => exact hFrame
  | video timestamp data => exact hFrame
  | metaData timestamp data =>
    obtain ⟨hLength, hLeads⟩ := hFrame
    obtain ⟨rest, rfl⟩ := leads_iff.mp hLeads
    rw [List.length_append] at hLength
    simp only [tagFor, bodyToSend_append]
    omega
  | mediaInfo info => exact hFrame.elim

/-- A frame is handed over as its tag. -/
theorem writeFlvTag_ready (h : self.Ready output) (hFrame : Sendable frame) :
    ∃ self', HttpFlv.writeFlvTag frame self = .ok () self' ∧
      self'.Ready (output ++ tagBytes frame) := by
  obtain ⟨self1, hTag, h1⟩ := tagOf_ready h hFrame
  exact writeFlvTag_of_tag h1 hTag (tagFor_length hFrame)

theorem writeFlvTags_ready (h : self.Ready output) (hFrames : ∀ frame ∈ frames, Sendable frame) :
    ∃ self', frames.forM HttpFlv.writeFlvTag self = .ok () self' ∧
      self'.Ready (output ++ frames.flatMap tagBytes) := by
  induction frames generalizing self output with
  | nil => exact ⟨self, rfl, by rwa [List.flatMap_nil, List.append_nil]⟩
  | cons frame rest ih =>
    obtain ⟨self1, hFirst, h1⟩ := writeFlvTag_ready h (hFrames frame List.mem_cons_self)
    obtain ⟨self', hRest, h'⟩ := ih h1 fun other hMem => hFrames other (List.mem_cons_of_mem _ hMem)
    refine ⟨self', (bind_of_ok hFirst).trans hRest, ?_⟩
    rwa [flatMap_tagBytes_cons, ← List.append_assoc]

/-- The header goes out together with the frames that have waited for it. -/
theorem sendHeader_ready (g : Guess) (h : self.Ready [])
    (hFrames : ∀ frame ∈ g.cachedFrames, Sendable frame) :
    ∃ self', HttpFlv.sendHeader HttpFlv.flvWriter g self = .ok () self' ∧
      self'.Ready (fileBytes g.hasAudio g.hasVideo g.cachedFrames) := by
  let headed : HttpFlv :=
    { self with writer := FlvMuxer.writeFlvHeader self.writer g.hasAudio g.hasVideo }
  let sized : HttpFlv := { headed with writer := FlvMuxer.writePreviousTagSize headed.writer 0 }
  have hHeader : HttpFlv.flvWriter.writeFlvHeader g.hasAudio g.hasVideo self = .ok () headed := rfl
  have hSize : HttpFlv.flvWriter.writePreviousTagSize 0 headed = .ok () sized := rfl
  have hFlush : HttpFlv.flvWriter.flushResponseData sized = .ok () { sized with
      writer := ⟨[]⟩, httpResponseData := sized.httpResponseData ++ [sized.writer.bytes] } :=
    HttpFlv.flushResponseData_ok h.connected
  have hReady : HttpFlv.Ready { sized with
      writer := ⟨[]⟩, httpResponseData := sized.httpResponseData ++ [sized.writer.bytes] }
      ((FlvMuxer.writeFlvHeader ⟨[]⟩ g.hasAudio g.hasVideo).bytes ++ toBE 4 0) := by
    refine ⟨rfl, h.connected, ?_⟩
    simp only [sized, headed, List.flatten_append, h.handed, List.nil_append, h.empty,
      List.flatten_cons, List.flatten_nil, List.append_nil]
    rfl
  obtain ⟨self', hTags, h'⟩ := writeFlvTags_ready hReady hFrames
  exact ⟨self', (bind_of_ok hHeader).trans ((bind_of_ok hSize).trans ((bind_of_ok hFlush).trans hTags)),
    h'⟩

/-! ### The loop -/

/-- After the last frame there is only the closed channel, until the loop gives up. -/
theorem sendBody_closed (h : retryCount ≤ 10) (hk : 10 < retryCount + k) :
    HttpFlv.sendBody HttpFlv.flvWriter retryCount (List.replicate k none) self =
      some (.ok () self) := by
  induction k generalizing retryCount with
  | zero => omega
  | succ k ih =>
    rw [List.replicate_succ, HttpFlv.sendBody]
    split
    · rfl
    · exact ih (by omega) (by omega)

theorem sendFrames_closed (g : Guess) (h : retryCount ≤ 10) (hk : 10 < retryCount + k) :
    HttpFlv.sendFrames HttpFlv.flvWriter g retryCount (List.replicate k none) self =
      some (.ok () self) := by
  induction k generalizing retryCount with
  | zero => omega
  | succ k ih =>
    rw [List.replicate_succ, HttpFlv.sendFrames]
    split
    · rfl
    · exact ih (by omega) (by omega)

/-- After the header, every frame is handed over as it comes. -/
theorem sendBody_ready (h : self.Ready output) (hFrames : ∀ frame ∈ frames, Sendable frame)
    (hk : 10 < k) :
    ∃ self', HttpFlv.sendBody HttpFlv.flvWriter 0 (frames.map some ++ List.replicate k none) self =
        some (.ok () self') ∧
      self'.Ready (output ++ frames.flatMap tagBytes) := by
  induction frames generalizing self output with
  | nil =>
    refine ⟨self, sendBody_closed (Nat.zero_le _) (by omega), ?_⟩
    rwa [List.flatMap_nil, List.append_nil]
  | cons frame rest ih =>
    obtain ⟨self1, hFirst, h1⟩ := writeFlvTag_ready h (hFrames frame List.mem_cons_self)
    obtain ⟨self', hRest, h'⟩ := ih h1 fun other hMem => hFrames other (List.mem_cons_of_mem _ hMem)
    have hWrite : HttpFlv.flvWriter.writeFlvTag frame self = .ok () self1 := hFirst
    refine ⟨self', ?_, ?_⟩
    · rw [List.map_cons, List.cons_append, HttpFlv.sendBody, hWrite]
      exact hRest
    · rwa [flatMap_tagBytes_cons, ← List.append_assoc]

/-! ### The guess -/

/-- What has been gathered from some frames. -/
def gather (g : Guess) (frames : List FrameData) : Guess := frames.foldl Guess.add g

def isAudio : FrameData → Bool
  | .audio _ _ => true
  | _ => false

def isVideo : FrameData → Bool
  | .video _ _ => true
  | _ => false

theorem add_sendable (g : Guess) (h : Sendable frame) :
    g.add frame = ⟨g.hasAudio || isAudio frame, g.hasVideo || isVideo frame, g.frameNum + 1,
      g.cachedFrames ++ [frame]⟩ := by
  cases frame with
  | mediaInfo info => exact h.elim
  | _ => simp [Guess.add, isAudio, isVideo]

theorem gather_sendable (g : Guess) (hFrames : ∀ frame ∈ frames, Sendable frame) :
    gather g frames = ⟨g.hasAudio || frames.any isAudio, g.hasVideo || frames.any isVideo,
      g.frameNum + frames.length, g.cachedFrames ++ frames⟩ := by
  induction frames generalizing g with
  | nil => simp [gather]
  | cons frame rest ih =>
    have hFirst := add_sendable g (hFrames frame List.mem_cons_self)
    have hRest := ih (g.add frame) fun other hMem => hFrames other (List.mem_cons_of_mem _ hMem)
    refine Eq.trans hRest ?_
    rw [hFirst]
    simp only [List.any_cons, Bool.or_assoc, List.length_cons, List.append_assoc,
      List.singleton_append, Guess.mk.injEq, true_and, and_true]
    omega

theorem complete_iff (g : Guess) :
    g.complete = true ↔ (g.hasAudio = true ∧ g.hasVideo = true) ∨ 10 < g.frameNum := by
  simp [Guess.complete]

/-- What has been gathered is not lost. -/
theorem complete_gather (g : Guess) (h : g.complete = true)
    (hFrames : ∀ frame ∈ frames, Sendable frame) : (gather g frames).complete = true := by
  rw [complete_iff] at h ⊢
  rw [gather_sendable g hFrames]
  rcases h with ⟨hAudio, hVideo⟩ | hMany
  · exact .inl ⟨by simp [hAudio], by simp [hVideo]⟩
  · exact .inr (Nat.lt_of_lt_of_le hMany (Nat.le_add_right _ _))

/-- Frames that complete the guess are handed over behind a header, those that waited and those that
came later. -/
theorem sendFrames_ready (g : Guess) (h : self.Ready [])
    (hCached : ∀ frame ∈ g.cachedFrames, Sendable frame)
    (hFrames : ∀ frame ∈ frames, Sendable frame) (hk : 10 < k) (hg : ¬g.complete = true)
    (hComplete : (gather g frames).complete = true) :
    ∃ self' hasAudio hasVideo, HttpFlv.sendFrames HttpFlv.flvWriter g 0
        (frames.map some ++ List.replicate k none) self = some (.ok () self') ∧
      self'.Ready (fileBytes hasAudio hasVideo (g.cachedFrames ++ frames)) := by
  induction frames generalizing g with
  | nil => exact absurd hComplete hg
  | cons frame rest ih =>
    have hFrame := hFrames frame List.mem_cons_self
    have hRest : ∀ other ∈ rest, Sendable other := fun other hMem =>
      hFrames other (List.mem_cons_of_mem _ hMem)
    have hAdd : (g.add frame).cachedFrames = g.cachedFrames ++ [frame] :=
      congrArg Guess.cachedFrames (add_sendable g hFrame)
    have hAdded : ∀ other ∈ (g.add frame).cachedFrames, Sendable other := by
      rw [hAdd, List.forall_mem_append]
      exact ⟨hCached, List.forall_mem_singleton.mpr hFrame⟩
    rw [List.map_cons, List.cons_append, HttpFlv.sendFrames]
    by_cases hNow : (g.add frame).complete = true
    · rw [if_pos hNow]
      obtain ⟨self1, hHeader, h1⟩ := sendHeader_ready (g.add frame) h hAdded
      obtain ⟨self', hBody, h'⟩ := sendBody_ready h1 hRest hk
      refine ⟨self', (g.add frame).hasAudio, (g.add frame).hasVideo, ?_, ?_⟩
      · rw [hHeader]
        exact hBody
      · rw [hAdd] at h'
        simpa [fileBytes] using h'
    · rw [if_neg hNow]
      obtain ⟨self', hasAudio, hasVideo, hRun, h'⟩ := ih (g.add frame) hAdded hRest hNow hComplete
      refine ⟨self', hasAudio, hasVideo, hRun, ?_⟩
      rwa [hAdd, List.append_assoc] at h'

/-- Without a complete guess nothing is handed over. -/
theorem sendFrames_undecided (g : Guess) (hFrames : ∀ frame ∈ frames, Sendable frame) (hk : 10 < k)
    (hComplete : ¬(gather g frames).complete = true) :
    HttpFlv.sendFrames HttpFlv.flvWriter g 0 (frames.map some ++ List.replicate k none) self =
      some (.ok () self) := by
  induction frames generalizing g with
  | nil => exact sendFrames_closed g (Nat.zero_le _) (by omega)
  | cons frame rest ih =>
    have hRest : ∀ other ∈ rest, Sendable other := fun other hMem =>
      hFrames other (List.mem_cons_of_mem _ hMem)
    have hNow : ¬(g.add frame).complete = true := fun hNow =>
      hComplete (complete_gather (g.add frame) hNow hRest)
    rw [List.map_cons, List.cons_append, HttpFlv.sendFrames, if_neg hNow]
    exact ih (g.add frame) hRest hComplete

/-! ### The file -/

/-- Both kinds of media are there, or more than ten frames. -/
def Decided (frames : List FrameData) : Prop :=
  (frames.any isAudio = true ∧ frames.any isVideo = true) ∨ 10 < frames.length

/-- The loop ends by itself, and the consumer has one file with a tag for each frame. -/
def IsServed (self : HttpFlv) (frames : List FrameData) (k : Nat) : Prop :=
  ∃ self' hasAudio hasVideo, HttpFlv.sendFrames HttpFlv.flvWriter .start 0
      (frames.map some ++ List.replicate k none) self = some (.ok () self') ∧
    self'.httpResponseData.flatten = fileBytes hasAudio hasVideo frames

theorem complete_start_iff (hFrames : ∀ frame ∈ frames, Sendable frame) :
    (gather .start frames).complete = true ↔ Decided frames := by
  rw [complete_iff, gather_sendable .start hFrames, Decided]
  simp [Guess.start]

theorem ready_new (subscriberId : Uuid) (statisticDataSender : Option (List StatisticData)) :
    (HttpFlv.new subscriberId statisticDataSender).Ready [] := ⟨rfl, rfl, rfl⟩

theorem length_header (hasAudio hasVideo : Bool) (frames : List FrameData) :
    0 < (fileBytes hasAudio hasVideo frames).length := by
  simp only [fileBytes, List.length_append, Flv.length_writeFlvHeader]
  omega

theorem not_served_of_undecided (subscriberId : Uuid)
    (statisticDataSender : Option (List StatisticData))
    (hFrames : ∀ frame ∈ frames, Sendable frame) (hk : 10 < k) (h : ¬Decided frames) :
    ¬IsServed (HttpFlv.new subscriberId statisticDataSender) frames k := by
  rintro ⟨self', hasAudio, hasVideo, hRun, hFile⟩
  have hNothing : HttpFlv.sendFrames HttpFlv.flvWriter .start 0
      (frames.map some ++ List.replicate k none) (HttpFlv.new subscriberId statisticDataSender) =
        some (.ok () (HttpFlv.new subscriberId statisticDataSender)) :=
    sendFrames_undecided .start hFrames hk (mt (complete_start_iff hFrames).mp h)
  rw [hNothing] at hRun
  injection hRun with hRun
  injection hRun with _ hState
  have hLength := length_header hasAudio hasVideo frames
  rw [← hFile, ← hState] at hLength
  exact absurd hLength (Nat.lt_irrefl 0)

/-- The consumer is served one file with every frame if and only if the header was decided before the
channel was closed. -/
theorem player_served_iff (subscriberId : Uuid) (statisticDataSender : Option (List StatisticData))
    (hFrames : ∀ frame ∈ frames, Sendable frame) (hk : 10 < k) :
    IsServed (HttpFlv.new subscriberId statisticDataSender) frames k ↔ Decided frames := by
  constructor
  · intro hServed
    by_contra hNot
    exact not_served_of_undecided subscriberId statisticDataSender hFrames hk hNot hServed
  · intro hDecided
    obtain ⟨self', hasAudio, hasVideo, hRun, h'⟩ := sendFrames_ready .start
      (ready_new subscriberId statisticDataSender) (List.forall_mem_nil _) hFrames hk (by decide)
      ((complete_start_iff hFrames).mpr hDecided)
    exact ⟨self', hasAudio, hasVideo, hRun, h'.handed⟩

theorem audio_and_video_served :
    IsServed HttpFlv.first [.audio 0 [0xaf, 0x00], .video 0 [0x17, 0x00]] 11 := by
  refine (player_served_iff (Uuid.new .four 0 Uuid.noDigits) none ?_ (by decide)).mpr
    (.inl ⟨by decide, by decide⟩)
  simp [Sendable]

/-- An audio frame before the close is cached, and the consumer is given nothing. -/
theorem audio_alone_lost :
    (∀ frame ∈ [FrameData.audio 0 [0xaf, 0x00]], Sendable frame) ∧
      ¬IsServed HttpFlv.first [.audio 0 [0xaf, 0x00]] 11 := by
  have hFrames : ∀ frame ∈ [FrameData.audio 0 [0xaf, 0x00]], Sendable frame := by simp [Sendable]
  refine ⟨hFrames, not_served_of_undecided (Uuid.new .four 0 Uuid.noDigits) none hFrames
    (by decide) ?_⟩
  rintro (⟨-, hVideo⟩ | hMany)
  · exact absurd hVideo (by decide)
  · exact absurd hMany (by decide)

end Xiu.Httpflv
