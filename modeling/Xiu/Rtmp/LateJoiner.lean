import Xiu.Rtmp.Remuxer.Calls
import Xiu.StreamHub.Loops

/-! A subscriber that joins a stream while it is published, of `protocol/rtmp/src/session/common.rs` and
the tasks of `library/streamhub/src/lib.rs`: it is sent what the cache holds and is then registered, and
meanwhile the publisher and the task that hands frames on go their ways. -/

namespace Xiu.Rtmp

open ProofKit StreamHub Remuxer
open RemuxerSession (send_ok send_error)

/-! ### The publisher -/

def isMedia : FrameData → Bool
  | .audio _ _ | .video _ _ => true
  | _ => false

/-- What `on_audio_data` and `on_video_data` do with the cache, behind the send. -/
def saveMedia : FrameData → Common.Run Unit
  | .audio timestamp data => Common.saving .saveAudio (Cache.saveAudioData data timestamp)
  | .video timestamp data =>
    Common.saving .saveVideo (Cache.saveVideoData Flv.Mpeg4Avc.parse data timestamp)
  | _ => pure ()

/-- What goes into the groups of pictures of a cache. -/
def groupCall : FrameData → Option Gops.Call
  | .audio timestamp data => some (.audio timestamp data, false)
  | .video timestamp data =>
    match Flv.VideoTagHeader.unmarshal ⟨data⟩ with
    | .ok (tagHeader, _) => some (.video timestamp data, tagHeader.frameType = Flv.KEY_FRAME)
    | .error _ => none
  | _ => none

/-! ### The event task -/

/-- The first part of `send_prior_data`. -/
def headerData (common : Common) : List FrameData :=
  common.metadata.getMetadata.toList ++
    (common.cache.getAudioSeq.toList ++ common.cache.getVideoSeq.toList)

/-- Its second part: the cached groups, for the subscriptions that get them. -/
def gopData (common : Common) : SubscribeType → List FrameData
  | .rtmpPull | .rtmpRemux2HttpFlv | .rtmpRemux2Hls =>
    match common.cache.getGopsData with
    | some gops => gops.flatMap (·.datas)
    | none => []
  | _ => []

/-- `send_prior_data`, to a subscriber that goes on receiving. -/
def sendPriorData (common : Common) (received : Channel → List Data) (dataSender : DataSender)
    (subType : SubscribeType) : Except StreamHubErrorValue (Channel → List Data) :=
  match dataSender with
  | .packet _ => .error .notCorrectDataSenderType
  | .frame sender => .ok ((headerData common ++ gopData common subType).foldl
      (fun received frame => send received sender (.frame frame)) received)

/-- What was sent to the subscriber before it is registered, and how many frames had been saved then. -/
structure Prior where
  headers : List FrameData
  gop : List FrameData
  saved : Nat

inductive Phase where
  | waiting
  | replayed (prior : Prior)
  | joined (prior : Prior)

/-! ### The tasks together -/

/-- The publisher, the channel of the stream, the task that hands frames on and the event task. -/
structure Joining where
  common : Common
  /-- What has been sent and is still to be saved. -/
  unsaved : Option FrameData
  /-- A message has failed, and the publisher's session with it. -/
  ended : Bool
  /-- What has gone into the groups so far. -/
  saved : List Gops.Call
  queue : List FrameData
  /-- What the task that hands frames on has taken from the channel. -/
  held : Option FrameData
  /-- What it has handed on so far. -/
  handed : List FrameData
  transceiver : StreamDataTransceiver
  received : Channel → List Data
  phase : Phase

/-- What happens between two locks or uses of a channel. -/
inductive JoinMove where
  | publish (frame : FrameData)
  | save
  | take
  | handOn
  | replay
  | insert

namespace Joining

variable (info : SubscriberInfo) (channel : Channel)

def step (s : Joining) : JoinMove → Option Joining
  | .publish frame =>
    if s.ended ∨ s.unsaved.isSome ∨ ¬isMedia frame then none
    else
      match Common.send frame s.common with
      | .ok _ common =>
        some { s with common, queue := s.queue ++ [frame], unsaved := some frame }
      | .error _ common => some { s with common, ended := true }
  | .save =>
    match s.unsaved with
    | none => none
    | some frame =>
      let saved := s.saved ++ (groupCall frame).toList
      match saveMedia frame s.common with
      | .ok _ common => some { s with common, saved, unsaved := none }
      | .error _ common => some { s with common, saved, unsaved := none, ended := true }
  | .take =>
    match s.held, s.queue with
    | none, frame :: queue => some { s with held := some frame, queue }
    | _, _ => none
  | .handOn =>
    match s.held with
    | none => none
    | some frame =>
      some { s with
        held := none
        handed := s.handed ++ [frame]
        received := receiveFrameData s.transceiver s.received frame }
  | .replay =>
    match s.phase with
    | .waiting =>
      match sendPriorData s.common s.received (.frame channel) info.subType with
      | .ok received =>
        let prior : Prior := ⟨headerData s.common, gopData s.common info.subType, s.saved.length⟩
        some { s with received, phase := .replayed prior }
      | .error _ => none
    | _ => none
  | .insert =>
    match s.phase with
    | .replayed prior =>
      some { s with
        transceiver := s.transceiver.insertSender info.id (.frame channel)
        phase := .joined prior }
    | _ => none

/-- What is on its way to the subscribers. -/
def inFlight (s : Joining) : List FrameData := s.held.toList ++ s.queue

end Joining

/-- A publisher that starts, with other subscribers registered or none. -/
structure Starts (channel : Channel) (s : Joining) : Prop where
  gops : ∃ size, 0 < size ∧ s.common.cache.gops = Gops.new size
  connected : s.common.connected = true
  sent : s.common.sent = []
  unsaved : s.unsaved = none
  ended : s.ended = false
  saved : s.saved = []
  queue : s.queue = []
  held : s.held = none
  handed : s.handed = []
  absent : ∀ id, s.transceiver.idToFrameSender.lookup id ≠ some channel
  received : s.received channel = []
  phase : s.phase = .waiting

def joiningSystem (info : SubscriberInfo) (channel : Channel) : System Joining JoinMove where
  init := Starts channel
  step s move s' := s.step info channel move = some s'

/-- Every frame from the first one of the replay on has been received once, in order, or is on its
way. -/
def Delivers (channel : Channel) (s : Joining) : Prop :=
  ∀ prior, s.phase = .joined prior → prior.gop ≠ [] →
    s.received channel ++ s.inFlight.map .frame =
      (prior.headers ++ s.common.sent.drop (prior.saved - prior.gop.length)).map .frame

/-- An action that leaves the groups of a cache alone. -/
def KeepsGops {ε α : Type} (x : EStateM ε Cache α) : Prop :=
  ∀ self, (stateOf (x self)).gops = self.gops

theorem KeepsGops.bind {ε α β : Type} {x : EStateM ε Cache α} {f : α → EStateM ε Cache β}
    (h : KeepsGops x) (hf : ∀ a, KeepsGops (f a)) : KeepsGops (x >>= f) := fun self =>
  stateOf_bind (R := fun s s' : Cache => s'.gops = s.gops) (fun hab hbc => hbc.trans hab) (h self)
    fun a s => hf a s

theorem keepsGops_aside {ε τ : Type} (x : EStateM ε τ Unit) (s : τ) :
    KeepsGops (Cache.aside x s) := by
  intro self
  unfold Cache.aside
  split <;> rfl

theorem keepsGops_send {ε : Type} (data : StatisticData) :
    KeepsGops (Cache.send data : EStateM ε Cache Unit) := fun _ => rfl

theorem keepsGops_reportAudioCodec (remainBytes : List UInt8) :
    KeepsGops (Cache.reportAudioCodec remainBytes) := by
  intro self
  rw [Cache.reportAudioCodec, bind_get]
  split
  · exact (keepsGops_aside _ _).bind (fun _ => keepsGops_send _) self
  · rfl

theorem keepsGops_reportVideoCodec (parseSps : Flv.Mpeg4Avc.ParseSps) (reader : Bytesio.BytesReader) :
    KeepsGops (Cache.reportVideoCodec parseSps reader) := by
  intro self
  rw [Cache.reportVideoCodec, bind_get]
  split
  · exact (keepsGops_aside _ _).bind (fun _ => keepsGops_send _) self
  · rfl

/-- An audio message goes into the groups, whatever becomes of it. -/
theorem gops_saveAudioData (data : List UInt8) (timestamp : UInt32) (self : Cache) :
    (stateOf (Cache.saveAudioData data timestamp self)).gops =
      self.gops.saveFrameData (.audio timestamp data) false := by
  rw [Cache.saveAudioData, Cache.saveFrameData, bind_modify]
  cases Flv.AudioTagHeader.unmarshal ⟨data⟩ with
  | error value => rfl
  | ok header =>
    obtain ⟨tagHeader, reader⟩ := header
    dsimp only
    split
    · exact ((keepsGops_reportAudioCodec _).bind fun _ => keepsGops_send _) _
    · exact keepsGops_send _ _

/-- So does a video message that has a header. -/
theorem gops_saveVideoData (parseSps : Flv.Mpeg4Avc.ParseSps) (data : List UInt8)
    (timestamp : UInt32) (self : Cache) :
    (stateOf (Cache.saveVideoData parseSps data timestamp self)).gops =
      self.gops.saveAll (groupCall (.video timestamp data)).toList := by
  unfold Cache.saveVideoData groupCall
  dsimp only
  cases Flv.VideoTagHeader.unmarshal ⟨data⟩ with
  | error value => rfl
  | ok header =>
    obtain ⟨tagHeader, reader⟩ := header
    dsimp only
    rw [Cache.saveFrameData, bind_modify]
    split
    · exact ((keepsGops_reportVideoCodec _ _).bind fun _ => keepsGops_send _) _
    · exact keepsGops_send _ _

theorem stateOf_saving {ε : Type} (wrap : ε → RemuxFault) (save : EStateM ε Cache Unit)
    (self : Common) :
    stateOf (Common.saving wrap save self) = { self with cache := stateOf (save self.cache) } := by
  unfold Common.saving
  cases save self.cache <;> rfl

/-- What a message leaves, whether it fails or not. -/
theorem stateOf_saveMedia (frame : FrameData) (self : Common) :
    (stateOf (saveMedia frame self)).cache.gops =
        self.cache.gops.saveAll (groupCall frame).toList ∧
      (stateOf (saveMedia frame self)).sent = self.sent := by
  cases frame with
  | audio timestamp data =>
    rw [saveMedia, stateOf_saving]
    exact ⟨gops_saveAudioData data timestamp self.cache, rfl⟩
  | video timestamp data =>
    rw [saveMedia, stateOf_saving]
    exact ⟨gops_saveVideoData _ data timestamp self.cache, rfl⟩
  | metaData timestamp data => exact ⟨rfl, rfl⟩
  | mediaInfo info => exact ⟨rfl, rfl⟩

/-! ### What the tasks keep -/

/-- What has been saved and what has been handed on are beginnings of what has been sent. -/
structure Tracks (s : Joining) : Prop where
  gops : ∃ size, 0 < size ∧ s.common.cache.gops = (Gops.new size).saveAll s.saved
  saved : ∃ rest, s.common.sent = s.saved.map Prod.fst ++ rest ∧
    (s.ended = false → rest = s.unsaved.toList)
  ended : s.ended = true → s.unsaved = none
  sent : s.common.sent = s.handed ++ s.inFlight
  media : ∀ frame ∈ s.common.sent, isMedia frame = true

/-- The subscriber after what is sent before it is registered. -/
def replayed (info : SubscriberInfo) (channel : Channel) (s : Joining) : Joining :=
  let headers := headerData s.common
  let gop := gopData s.common info.subType
  { s with
    received := (headers ++ gop).foldl
      (fun received frame => send received channel (.frame frame)) s.received
    phase := .replayed ⟨headers, gop, s.saved.length⟩ }

/-- What a step can do. -/
inductive Steps (info : SubscriberInfo) (channel : Channel) (s : Joining) : JoinMove → Joining → Prop
  | publish {frame : FrameData} (hEnded : s.ended = false) (hUnsaved : s.unsaved = none)
      (hMedia : isMedia frame = true) : Steps info channel s (.publish frame)
        { s with
          common := { s.common with sent := s.common.sent ++ [frame] }
          queue := s.queue ++ [frame]
          unsaved := some frame }
  | refused {frame : FrameData} (hUnsaved : s.unsaved = none) :
      Steps info channel s (.publish frame) { s with ended := true }
  | save {frame : FrameData} {common : Common} {ended : Bool} (hUnsaved : s.unsaved = some frame)
      (hGops : common.cache.gops = s.common.cache.gops.saveAll (groupCall frame).toList)
      (hSent : common.sent = s.common.sent) (hSaved : ended = false → (groupCall frame).isSome)
      (hEnded : s.ended = true → ended = true) : Steps info channel s .save
        { s with common, saved := s.saved ++ (groupCall frame).toList, unsaved := none, ended }
  | take {frame : FrameData} {queue : List FrameData} (hHeld : s.held = none)
      (hQueue : s.queue = frame :: queue) :
      Steps info channel s .take { s with held := some frame, queue }
  | handOn {frame : FrameData} (hHeld : s.held = some frame) : Steps info channel s .handOn
      { s with
        held := none
        handed := s.handed ++ [frame]
        received := receiveFrameData s.transceiver s.received frame }
  | replay (hPhase : s.phase = .waiting) : Steps info channel s .replay (replayed info channel s)
  | insert {prior : Prior} (hPhase : s.phase = .replayed prior) : Steps info channel s .insert
      { s with
        transceiver := s.transceiver.insertSender info.id (.frame channel)
        phase := .joined prior }

section Tracks

variable {info : SubscriberInfo} {channel : Channel} {s s' : Joining}

theorem Starts.tracks (h : Starts channel s) : Tracks s := by
  obtain ⟨size, hSize, hGops⟩ := h.gops
  refine ⟨⟨size, hSize, ?_⟩, ⟨[], ?_, ?_⟩, fun hEnded => ?_, ?_, fun frame hMem => ?_⟩
  · rw [h.saved, hGops]
    rfl
  · rw [h.sent, h.saved]
    rfl
  · rw [h.unsaved]
    exact fun _ => rfl
  · exact h.unsaved
  · rw [h.sent, h.handed, Joining.inFlight, h.held, h.queue]
    rfl
  · rw [h.sent] at hMem
    cases hMem

theorem groupCall_fst {frame : FrameData} {call : Gops.Call} (h : groupCall frame = some call) :
    call.1 = frame := by
  cases frame with
  | audio timestamp data =>
    cases h
    rfl
  | video timestamp data =>
    unfold groupCall at h
    dsimp only at h
    split at h <;> cases h
    rfl
  | metaData timestamp data => cases h
  | mediaInfo info => cases h

/-- A message that is saved without an error is in the groups. -/
theorem groupCall_of_ok {frame : FrameData} {common common' : Common} (hMedia : isMedia frame = true)
    (h : saveMedia frame common = .ok () common') : (groupCall frame).isSome := by
  cases frame with
  | audio timestamp data => rfl
  | video timestamp data =>
    unfold groupCall
    dsimp only
    cases hHeader : Flv.VideoTagHeader.unmarshal ⟨data⟩ with
    | ok header => rfl
    | error value =>
      have hSave : Cache.saveVideoData Flv.Mpeg4Avc.parse data timestamp common.cache =
          .error (.bytesReadError value) common.cache := by
        unfold Cache.saveVideoData
        rw [hHeader]
        rfl
      rw [saveMedia, Common.saving, hSave] at h
      cases h
  | metaData timestamp data => cases hMedia
  | mediaInfo info => cases hMedia

theorem steps_of_step {move : JoinMove} (hMedia : ∀ frame, s.unsaved = some frame → isMedia frame = true)
    (h : s.step info channel move = some s') : Steps info channel s move s' := by
  cases move with
  | publish frame =>
    simp only [Joining.step] at h
    split at h
    · cases h
    · rename_i hOpen
      rw [not_or, not_or, Bool.not_eq_true, Bool.not_eq_true, Option.isSome_eq_false_iff,
        Option.isNone_iff_eq_none, not_not] at hOpen
      obtain ⟨hEnded, hUnsaved, hFrame⟩ := hOpen
      by_cases hConnected : s.common.connected = true
      · rw [send_ok hConnected] at h
        cases h
        exact .publish hEnded hUnsaved hFrame
      · rw [send_error hConnected] at h
        cases h
        exact .refused hUnsaved
  | save =>
    simp only [Joining.step] at h
    cases hUnsaved : s.unsaved with
    | none =>
      rw [hUnsaved] at h
      cases h
    | some frame =>
      obtain ⟨hGops, hSent⟩ := stateOf_saveMedia frame s.common
      simp only [hUnsaved] at h
      cases hSave : saveMedia frame s.common with
      | ok _ common =>
        rw [hSave] at h hGops hSent
        cases h
        exact .save hUnsaved hGops hSent
          (fun _ => groupCall_of_ok (hMedia frame hUnsaved) hSave) id
      | error e common =>
        rw [hSave] at h hGops hSent
        cases h
        exact .save hUnsaved hGops hSent nofun fun _ => rfl
  | take =>
    simp only [Joining.step] at h
    split at h
    · rename_i hHeld hQueue
      cases h
      exact .take hHeld hQueue
    · cases h
  | handOn =>
    simp only [Joining.step] at h
    split at h
    · cases h
    · rename_i hHeld
      cases h
      exact .handOn hHeld
  | replay =>
    simp only [Joining.step] at h
    split at h
    · rename_i hPhase
      cases h
      exact .replay hPhase
    · cases h
  | insert =>
    simp only [Joining.step] at h
    split at h
    · rename_i hPhase
      cases h
      exact .insert hPhase
    · cases h

/-- What has been sent stays sent. -/
theorem Steps.sent_beginning {move : JoinMove} (h : Steps info channel s move s') :
    s.common.sent <+: s'.common.sent := by
  cases h with
  | publish hEnded hUnsaved hMedia => exact List.prefix_append _ _
  | save hUnsaved hGops hSent => exact hSent ▸ List.prefix_refl _
  | _ => exact List.prefix_refl _

theorem Tracks.step {move : JoinMove} (h : Tracks s) (hStep : Steps info channel s move s') :
    Tracks s' := by
  obtain ⟨⟨size, hSize, hGops⟩, ⟨rest, hSaved, hRest⟩, hEnded, hPath, hMedia⟩ := h
  cases hStep with
  | @publish frame hOpen hUnsaved hFrame =>
    refine ⟨⟨size, hSize, hGops⟩, ⟨[frame], ?_, fun _ => rfl⟩, fun hEnd => ?_, ?_, ?_⟩
    · have hNone : rest = [] := by rw [hRest hOpen, hUnsaved, Option.toList_none]
      rw [hNone, List.append_nil] at hSaved
      exact congrArg (· ++ [frame]) hSaved
    · rw [hOpen] at hEnd
      cases hEnd
    · change s.common.sent ++ [frame] = s.handed ++ (s.held.toList ++ (s.queue ++ [frame]))
      rw [hPath, Joining.inFlight, List.append_assoc, List.append_assoc]
    · intro frame' hMem
      rcases List.mem_append.mp hMem with hMem | hMem
      · exact hMedia frame' hMem
      · rwa [List.mem_singleton.mp hMem]
  | refused hUnsaved =>
    exact ⟨⟨size, hSize, hGops⟩, ⟨rest, hSaved, nofun⟩, fun _ => hUnsaved, hPath, hMedia⟩
  | @save frame common ended hUnsaved hGops' hSent hIn hEnded' =>
    refine ⟨⟨size, hSize, ?_⟩, ?_, fun _ => rfl, ?_, ?_⟩
    · rw [hGops', hGops, Gops.saveAll, Gops.saveAll, Gops.saveAll, List.foldl_append]
    · have hOpen : s.ended = false := by
        cases hEnd : s.ended with
        | false => rfl
        | true =>
          rw [hEnded hEnd] at hUnsaved
          cases hUnsaved
      rw [hRest hOpen, hUnsaved, Option.toList_some] at hSaved
      cases hCall : groupCall frame with
      | none =>
        refine ⟨[frame], ?_, fun hEnd => ?_⟩
        · rw [Option.toList_none, List.append_nil]
          exact hSent.trans hSaved
        · have hSome := hIn hEnd
          rw [hCall] at hSome
          cases hSome
      | some call =>
        refine ⟨[], ?_, fun _ => rfl⟩
        rw [Option.toList_some, List.map_append, List.append_nil, List.map_singleton,
          groupCall_fst hCall]
        exact hSent.trans hSaved
    · exact hSent.trans hPath
    · exact hSent ▸ hMedia
  | @take frame queue hHeld hQueue =>
    refine ⟨⟨size, hSize, hGops⟩, ⟨rest, hSaved, hRest⟩, hEnded, ?_, hMedia⟩
    rw [hPath, Joining.inFlight, hHeld, hQueue]
    rfl
  | @handOn frame hHeld =>
    refine ⟨⟨size, hSize, hGops⟩, ⟨rest, hSaved, hRest⟩, hEnded, ?_, hMedia⟩
    change s.common.sent = (s.handed ++ [frame]) ++ s.queue
    rw [hPath, Joining.inFlight, hHeld, List.append_assoc]
    rfl
  | replay hPhase => exact ⟨⟨size, hSize, hGops⟩, ⟨rest, hSaved, hRest⟩, hEnded, hPath, hMedia⟩
  | insert hPhase => exact ⟨⟨size, hSize, hGops⟩, ⟨rest, hSaved, hRest⟩, hEnded, hPath, hMedia⟩

theorem Tracks.steps {move : JoinMove} (h : Tracks s)
    (hStep : (joiningSystem info channel).step s move s') : Steps info channel s move s' := by
  refine steps_of_step (fun frame hUnsaved => ?_) hStep
  obtain ⟨rest, hSaved, hRest⟩ := h.saved
  have hOpen : s.ended = false := by
    cases hEnded : s.ended with
    | false => rfl
    | true =>
      rw [h.ended hEnded] at hUnsaved
      cases hUnsaved
  refine h.media frame ?_
  rw [hSaved, hRest hOpen, hUnsaved]
  exact List.mem_append_right _ List.mem_cons_self

/-- The replayed frames are those that had been saved last. -/
structure Placed (prior : Prior) (s : Joining) : Prop where
  sent : prior.saved ≤ s.common.sent.length
  fits : prior.gop.length ≤ prior.saved
  gop : prior.gop = (s.common.sent.take prior.saved).drop (prior.saved - prior.gop.length)

theorem Placed.of_beginning {prior : Prior} (h : Placed prior s)
    (hSent : s.common.sent <+: s'.common.sent) : Placed prior s' := by
  obtain ⟨more, hMore⟩ := hSent
  refine ⟨?_, h.fits, ?_⟩
  · rw [← hMore, List.length_append]
    exact h.sent.trans (Nat.le_add_right _ _)
  · rw [← hMore, List.take_append_of_le_length h.sent]
    exact h.gop

theorem gopData_suffix (h : Tracks s) (subType : SubscribeType) :
    gopData s.common subType <:+ s.saved.map Prod.fst := by
  obtain ⟨size, hSize, hGops⟩ := h.gops
  have hKept : (match s.common.cache.getGopsData with
      | some gops => gops.flatMap (·.datas)
      | none => []) <:+ s.saved.map Prod.fst := by
    rw [Cache.getGopsData, hGops]
    split
    · rename_i gops hSome
      split at hSome
      · cases hSome
        exact Gops.getGops_suffix hSize s.saved
      · cases hSome
    · exact List.nil_suffix
  cases subType <;> first | exact hKept | exact List.nil_suffix

theorem Tracks.placed (h : Tracks s) (headers : List FrameData) (subType : SubscribeType) :
    Placed ⟨headers, gopData s.common subType, s.saved.length⟩ s := by
  obtain ⟨before, hBefore⟩ := gopData_suffix h subType
  obtain ⟨rest, hSaved, -⟩ := h.saved
  have hLength := congrArg List.length hBefore
  rw [List.length_append, List.length_map] at hLength
  have hTake : s.common.sent.take s.saved.length = s.saved.map Prod.fst := by
    rw [hSaved, List.take_left' (List.length_map _)]
  refine ⟨?_, ?_, ?_⟩
  · rw [hSaved, List.length_append, List.length_map]
    exact Nat.le_add_right _ _
  · dsimp only
    omega
  · dsimp only
    rw [hTake, ← hBefore, List.drop_left' (by omega)]

/-- The subscriber is not registered, and has been sent this. -/
structure Unregistered (channel : Channel) (base : List FrameData) (s : Joining) : Prop where
  absent : ∀ id, s.transceiver.idToFrameSender.lookup id ≠ some channel
  received : s.received channel = base.map .frame

theorem receiveFrameData_absent {t : StreamDataTransceiver}
    (h : ∀ id, t.idToFrameSender.lookup id ≠ some channel) (received : Channel → List Data)
    (frame : FrameData) : receiveFrameData t received frame channel = received channel := by
  have hNone : ∀ e ∈ t.idToFrameSender.entries, e.2 ≠ channel := by
    rintro ⟨id, c⟩ hMem rfl
    exact h id (mem_entries.mp hMem)
  cases frame with
  | metaData timestamp data => rfl
  | _ => exact sendAll_of_not_mem hNone received _

theorem Unregistered.step {base : List FrameData} {move : JoinMove} (h : Unregistered channel base s)
    (hStep : Steps info channel s move s') (hPhase : s'.phase = s.phase) :
    Unregistered channel base s' := by
  cases hStep with
  | handOn hHeld => exact ⟨h.absent, (receiveFrameData_absent h.absent _ _).trans h.received⟩
  | replay hOld => cases hPhase.trans hOld
  | insert hOld => cases hPhase.trans hOld
  | _ => exact ⟨h.absent, h.received⟩

/-- After the subscriber has been registered in state `s`. -/
structure After (channel : Channel) (s : Joining) (prior : Prior) (r : Joining) : Prop where
  phase : r.phase = .joined prior
  registered : Registered r.transceiver.idToFrameSender channel
  placed : Placed prior r
  handed : ∃ later, r.handed = s.handed ++ later ∧
    r.received channel = (prior.headers ++ prior.gop ++ later).map .frame

theorem handedFrame_of_media {frame : FrameData} (h : isMedia frame = true) :
    handedFrame frame = some (.frame frame) := by
  cases frame with
  | metaData timestamp data => cases h
  | _ => rfl

theorem After.step {s1 : Joining} {prior : Prior} {move : JoinMove} (hTracks : Tracks s)
    (h : After channel s1 prior s) (hStep : Steps info channel s move s') :
    After channel s1 prior s' := by
  obtain ⟨hPhase, hRegistered, hPlaced, later, hHanded, hReceived⟩ := h
  have hPlaced' := hPlaced.of_beginning hStep.sent_beginning
  cases hStep with
  | @handOn frame hHeld =>
    refine ⟨hPhase, hRegistered, hPlaced', later ++ [frame], ?_, ?_⟩
    · rw [← List.append_assoc, ← hHanded]
    · have hMem : frame ∈ s.common.sent := by
        rw [hTracks.sent, Joining.inFlight, hHeld]
        exact List.mem_append_right _ List.mem_cons_self
      have hNext := receiveFrameData_handsOn s.transceiver s.received frame channel hRegistered
      rw [handedFrame_of_media (hTracks.media frame hMem), hReceived] at hNext
      refine hNext.trans ?_
      simp only [List.map_append, List.append_assoc]
      rfl
  | replay hOld => cases hPhase.symm.trans hOld
  | insert hOld => cases hPhase.symm.trans hOld
  | _ => exact ⟨hPhase, hRegistered, hPlaced', later, hHanded, hReceived⟩

end Tracks

end Xiu.Rtmp
