import Mathlib.Algebra.GroupWithZero.Nat
import Xiu.ProofKit.System
import Xiu.StreamHub.Define

/-! The traffic statistics of a stream, of `receive_statistics_data` in `library/streamhub/src/lib.rs`
and of `library/streamhub/src/statistics/mod.rs`: what the counters hold after any sequence of events
and of turns of the timer. -/

namespace Xiu.StreamHub

open ProofKit

/-- A `usize`, which panics where it overflows. -/
def usize (n : Nat) : Option Nat := if n < 2 ^ 64 then some n else none

theorem usize_eq_some {n m : Nat} (h : usize n = some m) : m = n := by
  rw [usize] at h
  split at h
  · exact (Option.some.inj h).symm
  · cases h

def AAC_RAW : UInt8 := 1

/-! ### The counters -/

/-- The counters of `VideoInfo` and of `AudioInfo`; the fields that describe the codecs are only
reported. -/
structure VideoInfo where
  recvBytes : Nat
  bitrate : Nat
  recvFrameCount : Nat
  frameRate : Nat
  recvFrameCountForGop : Nat
  gop : Nat

structure AudioInfo where
  recvBytes : Nat
  bitrate : Nat

structure StatisticPublisher where
  video : VideoInfo
  audio : AudioInfo
  recvBytes : Nat
  recvBitrate : Nat

/-- A subscriber, but for its address and its start time. -/
structure StatisticSubscriber where
  id : Uuid
  subType : SubscribeType
  sendBytes : Nat
  sendBitrate : Nat
  totalSendBytes : Nat

structure StatisticsStream where
  publisher : StatisticPublisher
  subscribers : Table Uuid StatisticSubscriber
  totalRecvBytes : Nat
  totalSendBytes : Nat

/-- The events about the traffic.  Those that describe the codecs and the publisher change no counter. -/
inductive StatisticData where
  | audioCodec
  | videoCodec
  | audio (uuid : Option Uuid) (dataSize : Nat) (aacPacketType : UInt8)
  | video (uuid : Option Uuid) (dataSize frameCount : Nat) (isKeyFrame : Option Bool)
  | publisher
  | subscriber (id : Uuid) (subType : SubscribeType)

/-- What the bytes of a frame add to a subscriber: an audio frame adds nothing to the total. -/
def StatisticSubscriber.addAudio (dataSize : Nat) (sub : StatisticSubscriber) :
    Option StatisticSubscriber := do
  let sendBytes ← usize (sub.sendBytes + dataSize)
  pure { sub with sendBytes }

def StatisticSubscriber.addVideo (dataSize : Nat) (sub : StatisticSubscriber) :
    Option StatisticSubscriber := do
  let sendBytes ← usize (sub.sendBytes + dataSize)
  let totalSendBytes ← usize (sub.totalSendBytes + dataSize)
  pure { sub with sendBytes, totalSendBytes }

/-- The frame counts that make up a group of pictures. -/
def VideoInfo.countFrame (frameCount : Nat) (isKeyFrame : Option Bool) (video : VideoInfo) :
    Option VideoInfo :=
  match isKeyFrame with
  | some true => some { video with gop := video.recvFrameCountForGop, recvFrameCountForGop := 1 }
  | some false => do
    let recvFrameCountForGop ← usize (video.recvFrameCountForGop + frameCount)
    pure { video with recvFrameCountForGop }
  | none => some video

/-- `send_bitrate` is set anew, and a new interval starts. -/
def StatisticSubscriber.caculate (sub : StatisticSubscriber) : StatisticSubscriber :=
  { sub with sendBitrate := sub.sendBytes * 8 / 5000, sendBytes := 0 }

namespace StatisticsStream

def new : StatisticsStream where
  publisher := ⟨⟨0, 0, 0, 0, 0, 0⟩, ⟨0, 0⟩, 0, 0⟩
  subscribers := ∅
  totalRecvBytes := 0
  totalSendBytes := 0

/-- What `get_mut` and an update make of the subscribers. -/
def updateSubscriber (uid : Uuid) (f : StatisticSubscriber → Option StatisticSubscriber)
    (subscribers : Table Uuid StatisticSubscriber) : Option (Table Uuid StatisticSubscriber) :=
  match subscribers.lookup uid with
  | some sub => (f sub).map (subscribers.insert uid)
  | none => some subscribers

/-- `receive_statistics_data`. -/
def receiveStatisticsData (self : StatisticsStream) : StatisticData → Option StatisticsStream
  | .audio (some uid) dataSize _ => do
    let subscribers ← updateSubscriber uid (StatisticSubscriber.addAudio dataSize) self.subscribers
    let totalSendBytes ← usize (self.totalSendBytes + dataSize)
    pure { self with subscribers, totalSendBytes }
  | .audio none dataSize aacPacketType => do
    let added := if aacPacketType = AAC_RAW then dataSize else 0
    let recvBytes ← usize (self.publisher.audio.recvBytes + added)
    let totalRecvBytes ← usize (self.totalRecvBytes + dataSize)
    pure { self with
      publisher := { self.publisher with audio := { self.publisher.audio with recvBytes } }
      totalRecvBytes }
  | .video (some uid) dataSize _ _ => do
    let subscribers ← updateSubscriber uid (StatisticSubscriber.addVideo dataSize) self.subscribers
    let totalSendBytes ← usize (self.totalSendBytes + dataSize)
    pure { self with subscribers, totalSendBytes }
  | .video none dataSize frameCount isKeyFrame => do
    let totalRecvBytes ← usize (self.totalRecvBytes + dataSize)
    let videoBytes ← usize (self.publisher.video.recvBytes + dataSize)
    let recvFrameCount ← usize (self.publisher.video.recvFrameCount + frameCount)
    let recvBytes ← usize (self.publisher.recvBytes + dataSize)
    let video ← VideoInfo.countFrame frameCount isKeyFrame
      { self.publisher.video with recvBytes := videoBytes, recvFrameCount }
    pure { self with publisher := { self.publisher with video, recvBytes }, totalRecvBytes }
  | .subscriber id subType =>
    some { self with subscribers := self.subscribers.insert id ⟨id, subType, 0, 0, 0⟩ }
  | .audioCodec | .videoCodec | .publisher => some self

/-- The entries after the loop over the subscribers. -/
def caculateEntries (entries : List (Sigma fun _ : Uuid => StatisticSubscriber)) :
    List (Sigma fun _ : Uuid => StatisticSubscriber) :=
  entries.map (.map id fun _ => StatisticSubscriber.caculate)

theorem nodupKeys_caculateEntries (subscribers : Table Uuid StatisticSubscriber) :
    (caculateEntries subscribers.entries).NodupKeys :=
  subscribers.nodupKeys.map₂ (fun _ => StatisticSubscriber.caculate)

/-- The loop over the subscribers. -/
def caculateSubscribers (subscribers : Table Uuid StatisticSubscriber) :
    Option (Table Uuid StatisticSubscriber) :=
  if ∀ entry ∈ subscribers.entries, entry.2.sendBytes * 8 < 2 ^ 64 then
    some ⟨caculateEntries subscribers.entries, nodupKeys_caculateEntries subscribers⟩
  else none

/-- `StatisticsCaculate::caculate`, every five seconds. -/
def caculate (self : StatisticsStream) : Option StatisticsStream := do
  let videoBits ← usize (self.publisher.video.recvBytes * 8)
  let audioBits ← usize (self.publisher.audio.recvBytes * 8)
  let bits ← usize (self.publisher.recvBytes * 8)
  let subscribers ← caculateSubscribers self.subscribers
  pure { self with
    publisher :=
      { video := { self.publisher.video with
          bitrate := videoBits / 5000
          recvBytes := 0
          frameRate := self.publisher.video.recvFrameCount / 5
          recvFrameCount := 0 }
        audio := { bitrate := audioBits / 5000, recvBytes := 0 }
        recvBitrate := bits / 5000
        recvBytes := 0 }
    subscribers }

/-- A subscriber after an update: it is the one that is updated, or it is as before. -/
theorem updateSubscriber_eq_some {uid : Uuid} {f : StatisticSubscriber → Option StatisticSubscriber}
    {subscribers subscribers' : Table Uuid StatisticSubscriber}
    (h : updateSubscriber uid f subscribers = some subscribers') {id : Uuid}
    {sub' : StatisticSubscriber} (hSub : subscribers'.lookup id = some sub') :
    (∃ sub, id = uid ∧ subscribers.lookup id = some sub ∧ f sub = some sub') ∨
      (id ≠ uid ∧ subscribers.lookup id = some sub') := by
  rw [updateSubscriber] at h
  cases hLookup : subscribers.lookup uid with
  | none =>
    rw [hLookup] at h
    obtain rfl := Option.some.inj h
    refine .inr ⟨?_, hSub⟩
    rintro rfl
    cases hLookup.symm.trans hSub
  | some sub =>
    rw [hLookup] at h
    obtain ⟨updated, hUpdated, rfl⟩ := Option.map_eq_some_iff.mp h
    by_cases hId : id = uid
    · subst hId
      rw [AList.lookup_insert] at hSub
      exact .inl ⟨sub, rfl, hLookup, hSub ▸ hUpdated⟩
    · rw [AList.lookup_insert_ne hId] at hSub
      exact .inr ⟨hId, hSub⟩

theorem caculateSubscribers_eq_some {subscribers subscribers' : Table Uuid StatisticSubscriber}
    (h : caculateSubscribers subscribers = some subscribers') (id : Uuid) :
    subscribers'.lookup id = (subscribers.lookup id).map StatisticSubscriber.caculate := by
  rw [caculateSubscribers] at h
  split at h
  · obtain rfl := Option.some.inj h
    exact List.dlookup_map₂ (f := fun _ => StatisticSubscriber.caculate) id
  · cases h

end StatisticsStream

/-! ### Runs -/

/-- What happens to the statistics: an event is received, or the timer ticks. -/
inductive StatisticStep where
  | data (event : StatisticData)
  | caculate

def StatisticStep.run (stream : StatisticsStream) : StatisticStep → Option StatisticsStream
  | .data event => stream.receiveStatisticsData event
  | .caculate => stream.caculate

/-- The statistics and what has happened to them, the latest first. -/
structure Watched where
  stream : StatisticsStream
  history : List StatisticStep

/-- The statistics of a new stream.  A step that overflows a counter is none: it ends the task. -/
def statistics : System Watched StatisticStep where
  init w := w = ⟨.new, []⟩
  step w a w' := ∃ stream, a.run w.stream = some stream ∧ w' = ⟨stream, a :: w.history⟩

/-- The bytes that a step brings for a subscriber, or for the publisher when `who` is none. -/
def StatisticStep.bytes (who : Option Uuid) : StatisticStep → Nat
  | .data (.audio uuid dataSize _) => if uuid = who then dataSize else 0
  | .data (.video uuid dataSize _ _) => if uuid = who then dataSize else 0
  | _ => 0

def bytesOf (who : Option Uuid) (history : List StatisticStep) : Nat :=
  (history.map (StatisticStep.bytes who)).sum

/-- What has happened since the timer ticked last. -/
def interval : List StatisticStep → List StatisticStep
  | [] => []
  | .caculate :: _ => []
  | .data event :: history => .data event :: interval history

/-- How many frames have come since the last key frame, which counts as well, if there was one. -/
def framesSinceKey : List StatisticStep → Option Nat
  | [] => none
  | .data (.video none _ frameCount (some true)) :: _ => some frameCount
  | .data (.video none _ frameCount _) :: history => (framesSinceKey history).map (· + frameCount)
  | _ :: history => framesSinceKey history

/-- How many frames there are from the second-last key frame up to the last one, if there are two. -/
def lastGop : List StatisticStep → Option Nat
  | [] => none
  | .data (.video none _ _ (some true)) :: history => framesSinceKey history
  | _ :: history => lastGop history

/-- The counters say what has come and gone. -/
structure Watched.Exact (w : Watched) : Prop where
  totalRecvBytes : w.stream.totalRecvBytes = bytesOf none w.history
  totalSendBytes : ∀ id sub, w.stream.subscribers.lookup id = some sub →
    sub.totalSendBytes = bytesOf (some id) w.history
  sendBytes : ∀ id sub, w.stream.subscribers.lookup id = some sub →
    sub.sendBytes = bytesOf (some id) (interval w.history)
  recvBytes : w.stream.publisher.recvBytes = bytesOf none (interval w.history)
  gop : ∀ n, lastGop w.history = some n → w.stream.publisher.video.gop = n

/-- The steps that the counters take right: the audio frames of the publisher and of the subscribers
that are present have no bytes, a subscriber comes before its bytes, and from the first key frame on
a key frame is one frame and no frames come that are neither key frames nor others. -/
def Watched.Allowed (w : Watched) : StatisticStep → Prop
  | .data (.audio none dataSize _) => dataSize = 0
  | .data (.audio (some uid) dataSize _) => uid ∈ w.stream.subscribers → dataSize = 0
  | .data (.video none _ frameCount (some true)) => frameCount = 1
  | .data (.video none _ frameCount none) => framesSinceKey w.history ≠ none → frameCount = 0
  | .data (.subscriber id _) => bytesOf (some id) w.history = 0
  | _ => True

/-- The counters are exact, and the one for the group of pictures at hand is. -/
structure Watched.Counted (w : Watched) : Prop extends w.Exact where
  since : ∀ n, framesSinceKey w.history = some n →
    w.stream.publisher.video.recvFrameCountForGop = n

theorem bytesOf_cons (who : Option Uuid) (a : StatisticStep) (history : List StatisticStep) :
    bytesOf who (a :: history) = a.bytes who + bytesOf who history := by
  rw [bytesOf, List.map_cons, List.sum_cons, ← bytesOf]

/-- Bytes that never came did not come in the interval. -/
theorem bytesOf_interval_le (who : Option Uuid) (history : List StatisticStep) :
    bytesOf who (interval history) ≤ bytesOf who history := by
  induction history with
  | nil => exact le_rfl
  | cons a history ih =>
    cases a with
    | caculate => exact Nat.zero_le _
    | data event =>
      rw [interval, bytesOf_cons, bytesOf_cons]
      omega

/-- An event that adds its bytes where they belong. -/
theorem Watched.Counted.data {w : Watched} (h : w.Counted) {event : StatisticData}
    {stream : StatisticsStream}
    (hTotal : stream.totalRecvBytes =
      w.stream.totalRecvBytes + (StatisticStep.data event).bytes none)
    (hRecv : stream.publisher.recvBytes =
      w.stream.publisher.recvBytes + (StatisticStep.data event).bytes none)
    (hSubscribers : ∀ id sub', stream.subscribers.lookup id = some sub' →
      ∃ sub, w.stream.subscribers.lookup id = some sub ∧
        sub'.totalSendBytes = sub.totalSendBytes + (StatisticStep.data event).bytes (some id) ∧
        sub'.sendBytes = sub.sendBytes + (StatisticStep.data event).bytes (some id))
    (hGop : ∀ n, lastGop (.data event :: w.history) = some n → stream.publisher.video.gop = n)
    (hSince : ∀ n, framesSinceKey (.data event :: w.history) = some n →
      stream.publisher.video.recvFrameCountForGop = n) :
    Watched.Counted ⟨stream, .data event :: w.history⟩ where
  totalRecvBytes := by
    have hBefore := h.totalRecvBytes
    rw [bytesOf_cons]
    dsimp only
    omega
  totalSendBytes id sub' hSub' := by
    obtain ⟨sub, hSub, hSum, -⟩ := hSubscribers id sub' hSub'
    have hBefore := h.totalSendBytes id sub hSub
    rw [bytesOf_cons]
    omega
  sendBytes id sub' hSub' := by
    obtain ⟨sub, hSub, -, hSum⟩ := hSubscribers id sub' hSub'
    have hBefore := h.sendBytes id sub hSub
    rw [interval, bytesOf_cons]
    omega
  recvBytes := by
    have hBefore := h.recvBytes
    rw [interval, bytesOf_cons]
    dsimp only
    omega
  gop := hGop
  since := hSince

/-- An event that changes nothing and brings nothing. -/
theorem Watched.Counted.quiet {w : Watched} (h : w.Counted) {event : StatisticData}
    (hBytes : ∀ who, (StatisticStep.data event).bytes who = 0)
    (hGop : lastGop (.data event :: w.history) = lastGop w.history)
    (hSince : framesSinceKey (.data event :: w.history) =
      framesSinceKey w.history) :
    Watched.Counted ⟨w.stream, .data event :: w.history⟩ := by
  apply h.data
  · rw [hBytes, Nat.add_zero]
  · rw [hBytes, Nat.add_zero]
  · intro id sub hSub
    exact ⟨sub, hSub, by rw [hBytes, Nat.add_zero], by rw [hBytes, Nat.add_zero]⟩
  · rw [hGop]
    exact h.gop
  · rw [hSince]
    exact h.since

theorem addAudio_eq_some {dataSize : Nat} {sub sub' : StatisticSubscriber}
    (h : sub.addAudio dataSize = some sub') :
    sub'.totalSendBytes = sub.totalSendBytes ∧ sub'.sendBytes = sub.sendBytes + dataSize := by
  obtain ⟨sendBytes, hSend, h⟩ := Option.bind_eq_some_iff.mp h
  obtain rfl := Option.some.inj h
  exact ⟨rfl, usize_eq_some hSend⟩

theorem addVideo_eq_some {dataSize : Nat} {sub sub' : StatisticSubscriber}
    (h : sub.addVideo dataSize = some sub') :
    sub'.totalSendBytes = sub.totalSendBytes + dataSize ∧
      sub'.sendBytes = sub.sendBytes + dataSize := by
  obtain ⟨sendBytes, hSend, h⟩ := Option.bind_eq_some_iff.mp h
  obtain ⟨totalSendBytes, hTotal, h⟩ := Option.bind_eq_some_iff.mp h
  obtain rfl := Option.some.inj h
  exact ⟨usize_eq_some hTotal, usize_eq_some hSend⟩

section Steps

variable {w : Watched} (h : w.Counted)
include h

theorem counted_audio_subscriber {uid : Uuid} {dataSize : Nat} {aacPacketType : UInt8}
    (hAllowed : uid ∈ w.stream.subscribers → dataSize = 0) {stream : StatisticsStream}
    (hRun : w.stream.receiveStatisticsData (.audio (some uid) dataSize aacPacketType) = some stream) :
    Watched.Counted ⟨stream, .data (.audio (some uid) dataSize aacPacketType) :: w.history⟩ := by
  obtain ⟨subscribers, hSubscribers, hRun⟩ := Option.bind_eq_some_iff.mp hRun
  obtain ⟨totalSendBytes, -, hRun⟩ := Option.bind_eq_some_iff.mp hRun
  obtain rfl := Option.some.inj hRun
  refine h.data rfl rfl ?_ h.gop h.since
  intro id sub' hSub'
  rcases StatisticsStream.updateSubscriber_eq_some hSubscribers hSub' with
    ⟨sub, rfl, hSub, hAdd⟩ | ⟨hOther, hSub⟩
  · obtain rfl := hAllowed (AList.lookup_isSome.mp (by rw [hSub]; rfl))
    obtain ⟨hTotal, hSend⟩ := addAudio_eq_some hAdd
    refine ⟨sub, hSub, ?_, ?_⟩
    · rw [hTotal, StatisticStep.bytes, if_pos rfl, Nat.add_zero]
    · rw [hSend, StatisticStep.bytes, if_pos rfl]
  · have hNone : some uid ≠ some id := fun hSame => hOther (Option.some.inj hSame).symm
    refine ⟨sub', hSub, ?_, ?_⟩
    · rw [StatisticStep.bytes, if_neg hNone, Nat.add_zero]
    · rw [StatisticStep.bytes, if_neg hNone, Nat.add_zero]

theorem counted_video_subscriber {uid : Uuid} {dataSize frameCount : Nat} {isKeyFrame : Option Bool}
    {stream : StatisticsStream}
    (hRun : w.stream.receiveStatisticsData (.video (some uid) dataSize frameCount isKeyFrame) =
      some stream) :
    Watched.Counted
      ⟨stream, .data (.video (some uid) dataSize frameCount isKeyFrame) :: w.history⟩ := by
  obtain ⟨subscribers, hSubscribers, hRun⟩ := Option.bind_eq_some_iff.mp hRun
  obtain ⟨totalSendBytes, -, hRun⟩ := Option.bind_eq_some_iff.mp hRun
  obtain rfl := Option.some.inj hRun
  refine h.data rfl rfl ?_ h.gop h.since
  intro id sub' hSub'
  rcases StatisticsStream.updateSubscriber_eq_some hSubscribers hSub' with
    ⟨sub, rfl, hSub, hAdd⟩ | ⟨hOther, hSub⟩
  · obtain ⟨hTotal, hSend⟩ := addVideo_eq_some hAdd
    refine ⟨sub, hSub, ?_, ?_⟩
    · rw [hTotal, StatisticStep.bytes, if_pos rfl]
    · rw [hSend, StatisticStep.bytes, if_pos rfl]
  · have hNone : some uid ≠ some id := fun hSame => hOther (Option.some.inj hSame).symm
    refine ⟨sub', hSub, ?_, ?_⟩
    · rw [StatisticStep.bytes, if_neg hNone, Nat.add_zero]
    · rw [StatisticStep.bytes, if_neg hNone, Nat.add_zero]

theorem counted_audio_publisher {dataSize : Nat} {aacPacketType : UInt8} (hAllowed : dataSize = 0)
    {stream : StatisticsStream}
    (hRun : w.stream.receiveStatisticsData (.audio none dataSize aacPacketType) = some stream) :
    Watched.Counted ⟨stream, .data (.audio none dataSize aacPacketType) :: w.history⟩ := by
  subst hAllowed
  obtain ⟨recvBytes, -, hRun⟩ := Option.bind_eq_some_iff.mp hRun
  obtain ⟨totalRecvBytes, hTotal, hRun⟩ := Option.bind_eq_some_iff.mp hRun
  obtain rfl := Option.some.inj hRun
  obtain rfl := usize_eq_some hTotal
  refine h.data rfl rfl ?_ h.gop h.since
  intro id sub hSub
  exact ⟨sub, hSub, rfl, rfl⟩

/-- A frame of the publisher, when it is counted for its group of pictures. -/
theorem counted_video_publisher {dataSize frameCount : Nat} {isKeyFrame : Option Bool}
    (hAllowed : w.Allowed (.data (.video none dataSize frameCount isKeyFrame)))
    {stream : StatisticsStream}
    (hRun : w.stream.receiveStatisticsData (.video none dataSize frameCount isKeyFrame) =
      some stream) :
    Watched.Counted ⟨stream, .data (.video none dataSize frameCount isKeyFrame) :: w.history⟩ := by
  obtain ⟨totalRecvBytes, hTotal, hRun⟩ := Option.bind_eq_some_iff.mp hRun
  obtain ⟨videoBytes, -, hRun⟩ := Option.bind_eq_some_iff.mp hRun
  obtain ⟨recvFrameCount, -, hRun⟩ := Option.bind_eq_some_iff.mp hRun
  obtain ⟨recvBytes, hBytes, hRun⟩ := Option.bind_eq_some_iff.mp hRun
  obtain ⟨video, hVideo, hRun⟩ := Option.bind_eq_some_iff.mp hRun
  obtain rfl := Option.some.inj hRun
  obtain rfl := usize_eq_some hTotal
  obtain rfl := usize_eq_some hBytes
  have hFrames : (∀ n, lastGop (.data (.video none dataSize frameCount isKeyFrame) :: w.history) =
        some n → video.gop = n) ∧
      ∀ n, framesSinceKey (.data (.video none dataSize frameCount isKeyFrame) :: w.history) =
        some n → video.recvFrameCountForGop = n := by
    rcases isKeyFrame with _ | _ | _
    · obtain rfl := Option.some.inj hVideo
      refine ⟨h.gop, ?_⟩
      intro n hSince
      obtain ⟨m, hBefore, rfl⟩ := Option.map_eq_some_iff.mp hSince
      have hZero : frameCount = 0 := hAllowed (by rw [hBefore]; exact Option.some_ne_none m)
      rw [hZero]
      exact h.since m hBefore
    · obtain ⟨count, hCount, hVideo⟩ := Option.bind_eq_some_iff.mp hVideo
      obtain rfl := Option.some.inj hVideo
      refine ⟨h.gop, ?_⟩
      intro n hSince
      obtain ⟨m, hBefore, rfl⟩ := Option.map_eq_some_iff.mp hSince
      rw [← h.since m hBefore]
      exact usize_eq_some hCount
    · obtain rfl := Option.some.inj hVideo
      refine ⟨h.since, ?_⟩
      intro n hSince
      rw [← Option.some.inj hSince]
      exact hAllowed.symm
  refine h.data rfl rfl ?_ hFrames.1 hFrames.2
  intro id sub hSub
  exact ⟨sub, hSub, rfl, rfl⟩

/-- A subscriber that comes before its bytes starts from zero. -/
theorem counted_subscriber {id : Uuid} {subType : SubscribeType}
    (hAllowed : bytesOf (some id) w.history = 0) :
    Watched.Counted
      ⟨{ w.stream with subscribers := w.stream.subscribers.insert id ⟨id, subType, 0, 0, 0⟩ },
        .data (.subscriber id subType) :: w.history⟩ := by
  have hBytes : ∀ who, bytesOf who (.data (.subscriber id subType) :: w.history) =
      bytesOf who w.history := by
    intro who
    rw [bytesOf_cons]
    exact Nat.zero_add _
  have hInterval : ∀ who, bytesOf who (interval (.data (.subscriber id subType) :: w.history)) =
      bytesOf who (interval w.history) := by
    intro who
    rw [interval, bytesOf_cons]
    exact Nat.zero_add _
  refine ⟨⟨(hBytes none).symm ▸ h.totalRecvBytes, ?_, ?_, (hInterval none).symm ▸ h.recvBytes, h.gop⟩,
    h.since⟩
  · intro other sub hSub
    rw [hBytes]
    by_cases hOther : other = id
    · subst hOther
      rw [AList.lookup_insert] at hSub
      rw [← Option.some.inj hSub, hAllowed]
    · rw [AList.lookup_insert_ne hOther] at hSub
      exact h.totalSendBytes other sub hSub
  · intro other sub hSub
    rw [hInterval]
    by_cases hOther : other = id
    · subst hOther
      rw [AList.lookup_insert] at hSub
      have hLe := bytesOf_interval_le (some other) w.history
      rw [← Option.some.inj hSub]
      dsimp only
      omega
    · rw [AList.lookup_insert_ne hOther] at hSub
      exact h.sendBytes other sub hSub

/-- The timer starts a new interval and leaves the totals. -/
theorem counted_caculate {stream : StatisticsStream} (hRun : w.stream.caculate = some stream) :
    Watched.Counted ⟨stream, .caculate :: w.history⟩ := by
  obtain ⟨videoBits, -, hRun⟩ := Option.bind_eq_some_iff.mp hRun
  obtain ⟨audioBits, -, hRun⟩ := Option.bind_eq_some_iff.mp hRun
  obtain ⟨bits, -, hRun⟩ := Option.bind_eq_some_iff.mp hRun
  obtain ⟨subscribers, hSubscribers, hRun⟩ := Option.bind_eq_some_iff.mp hRun
  obtain rfl := Option.some.inj hRun
  have hBytes : ∀ who, bytesOf who (.caculate :: w.history) = bytesOf who w.history := by
    intro who
    rw [bytesOf_cons]
    exact Nat.zero_add _
  refine ⟨⟨(hBytes none).symm ▸ h.totalRecvBytes, ?_, ?_, rfl, h.gop⟩, h.since⟩
  · intro id sub hSub
    rw [StatisticsStream.caculateSubscribers_eq_some hSubscribers] at hSub
    obtain ⟨before, hBefore, rfl⟩ := Option.map_eq_some_iff.mp hSub
    rw [hBytes]
    exact h.totalSendBytes id before hBefore
  · intro id sub hSub
    rw [StatisticsStream.caculateSubscribers_eq_some hSubscribers] at hSub
    obtain ⟨before, hBefore, rfl⟩ := Option.map_eq_some_iff.mp hSub
    rfl

/-- A step that the counters take right keeps them exact. -/
theorem counted_step {a : StatisticStep} (hAllowed : w.Allowed a) {stream : StatisticsStream}
    (hRun : a.run w.stream = some stream) : Watched.Counted ⟨stream, a :: w.history⟩ := by
  cases a with
  | caculate => exact counted_caculate h hRun
  | data event =>
    cases event with
    | audio uuid dataSize aacPacketType =>
      cases uuid with
      | none => exact counted_audio_publisher h hAllowed hRun
      | some uid => exact counted_audio_subscriber h hAllowed hRun
    | video uuid dataSize frameCount isKeyFrame =>
      cases uuid with
      | none => exact counted_video_publisher h hAllowed hRun
      | some uid => exact counted_video_subscriber h hRun
    | subscriber id subType =>
      obtain rfl := Option.some.inj hRun
      exact counted_subscriber h hAllowed
    | audioCodec | videoCodec | publisher =>
      obtain rfl := Option.some.inj hRun
      exact h.quiet (fun _ => rfl) rfl rfl

end Steps

/-- In every run whose steps the counters take right, they are exact in every state. -/
theorem statistics_exact {w : Watched} (h : (statistics.guard Watched.Allowed).Reached w) :
    w.Exact := by
  have hCounted : w.Counted := by
    apply h.invariant
    · rintro w rfl
      refine ⟨⟨rfl, ?_, ?_, rfl, ?_⟩, ?_⟩
      · rintro id sub ⟨⟩
      · rintro id sub ⟨⟩
      · rintro n ⟨⟩
      · rintro n ⟨⟩
    · rintro w a w' hw ⟨hAllowed, stream, hRun, rfl⟩
      exact counted_step hw hAllowed hRun
  exact hCounted.toExact

theorem twoKeyFrames_exact : Watched.Exact
    ⟨⟨⟨⟨220, 0, 2, 0, 1, 1⟩, ⟨0, 0⟩, 220, 0⟩, ∅, 220, 0⟩,
      [.data (.video none 120 1 (some true)), .data (.video none 100 1 (some true))]⟩ :=
  statistics_exact ⟨⟨.new, []⟩,
    [.data (.video none 100 1 (some true)), .data (.video none 120 1 (some true))], rfl,
    .cons ⟨rfl, _, rfl, rfl⟩ (.cons ⟨rfl, _, rfl, rfl⟩ (.nil _))⟩

/-- The bytes of an audio frame of the publisher are missing in its counter. -/
theorem publisher_audio_missing : ¬∀ w, statistics.Reached w → w.Exact := by
  intro hClaim
  have hExact := hClaim ⟨⟨⟨⟨0, 0, 0, 0, 0, 0⟩, ⟨100, 0⟩, 0, 0⟩, ∅, 100, 0⟩,
    [.data (.audio none 100 AAC_RAW)]⟩
    ⟨⟨.new, []⟩, [.data (.audio none 100 AAC_RAW)], rfl, .cons ⟨_, rfl, rfl⟩ (.nil _)⟩
  have hBytes := hExact.recvBytes
  revert hBytes
  decide

end Xiu.StreamHub
