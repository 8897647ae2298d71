import Xiu.StreamHub.Workers

/-! When the workers of `Xiu.StreamHub.Workers` release what they hold.  Each of them releases it
after its loop, so it does exactly when no call with `?` fails on the way. -/

namespace Xiu.StreamHub.Workers

open ProofKit

variable {ε σ : Type}

def isUnSubscribe (identifier : StreamIdentifier) (id : Uuid) : StreamHubEvent → Bool
  | .unSubscribe identifier' info => identifier' = identifier ∧ info.id = id
  | _ => false

def isUnPublish (identifier : StreamIdentifier) : StreamHubEvent → Bool
  | .unPublish identifier' _ => identifier' = identifier
  | _ => false

/-- Exactly one `UnSubscribe` for this stream and subscriber has been sent. -/
def UnSubscribed (identifier : StreamIdentifier) (id : Uuid) (events : List StreamHubEvent) : Prop :=
  events.countP (isUnSubscribe identifier id) = 1

def UnPublished (identifier : StreamIdentifier) (events : List StreamHubEvent) : Prop :=
  events.countP (isUnPublish identifier) = 1

instance (identifier : StreamIdentifier) (id : Uuid) (events : List StreamHubEvent) :
    Decidable (UnSubscribed identifier id events) :=
  inferInstanceAs (Decidable (_ = _))

instance (identifier : StreamIdentifier) (events : List StreamHubEvent) :
    Decidable (UnPublished identifier events) :=
  inferInstanceAs (Decidable (_ = _))

/-- The frames that a worker takes before its channel falls silent for eleven receives or a frame
ends the stream; none when neither happens. -/
def heard (takes ends : FrameData → Bool) : Nat → List (Option FrameData) → Option (List FrameData)
  | _, [] => none
  | retryCount, some data :: rest =>
    if takes data then
      if ends data then some [data] else (heard takes ends 0 rest).map (data :: ·)
    else
      heard takes ends retryCount rest
  | retryCount, none :: rest =>
    if retryCount + 1 > 10 then some [] else heard takes ends (retryCount + 1) rest

/-- The state after all frames have been processed; none when processing one of them fails. -/
def processAll (process : FrameData → Call ε σ Unit) : List FrameData → σ → Option σ
  | [], s => some s
  | data :: rest, s =>
    match process data s with
    | .ok _ s => processAll process rest s
    | .error _ _ => none

/-- The loop ends well exactly when the stream ends and every frame taken has been processed. -/
theorem receiveData_ok {takes ends : FrameData → Bool} {process : FrameData → Call ε σ Unit}
    {retryCount : Nat} {received : List (Option FrameData)} {s s' : σ} :
    receiveData takes ends process retryCount received s = some (.ok () s') ↔
      ∃ frames, heard takes ends retryCount received = some frames ∧
        processAll process frames s = some s' := by
  induction received generalizing retryCount s with
  | nil => simp [receiveData, heard]
  | cons entry rest ih =>
    cases entry with
    | none =>
      by_cases hRetry : retryCount + 1 > 10
      · simp only [receiveData, heard, if_pos hRetry]
        constructor
        · intro h
          cases h
          exact ⟨[], rfl, rfl⟩
        · rintro ⟨frames, hFrames, hEnd⟩
          cases hFrames
          cases hEnd
          rfl
      · simp only [receiveData, heard, if_neg hRetry]
        exact ih
    | some data =>
      by_cases hTakes : takes data = true
      · simp only [receiveData, heard, if_pos hTakes]
        cases hCall : process data s with
        | error f s1 =>
          constructor
          · intro h
            cases h
          · rintro ⟨frames, hFrames, hAll⟩
            have hFirst : ∃ tail, frames = data :: tail := by
              split at hFrames
              · exact ⟨[], (Option.some.inj hFrames).symm⟩
              · obtain ⟨tail, -, hTail⟩ := Option.map_eq_some_iff.mp hFrames
                exact ⟨tail, hTail.symm⟩
            obtain ⟨tail, rfl⟩ := hFirst
            simp [processAll, hCall] at hAll
        | ok u s1 =>
          by_cases hEnds : ends data = true
          · simp [hEnds, processAll, hCall]
          · simp only [if_neg hEnds]
            rw [ih]
            constructor
            · rintro ⟨frames, hFrames, hAll⟩
              refine ⟨data :: frames, by rw [hFrames]; rfl, ?_⟩
              simpa only [processAll, hCall] using hAll
            · rintro ⟨frames, hFrames, hAll⟩
              obtain ⟨tail, hTail, rfl⟩ := Option.map_eq_some_iff.mp hFrames
              refine ⟨tail, hTail, ?_⟩
              simpa only [processAll, hCall] using hAll
      · simp only [receiveData, heard, if_neg hTakes]
        exact ih

/-! ### HLS -/

namespace FlvDataReceiver

/-- The stream ends, and processing its frames, flushing the rest and removing the files succeed. -/
def Calm (c : Segmenter ε σ) (received : List (Option FrameData)) (s : σ) : Prop :=
  ∃ frames s1 s2 s3, heard takes (fun _ => false) 0 received = some frames ∧
    processAll c.processFlvData frames s = some s1 ∧ c.flushRemainingData s1 = .ok () s2 ∧
      c.clearFiles s2 = .ok () s3

theorem receiveFlvData_released (w : FlvDataReceiver) (c : Segmenter ε σ)
    (received : List (Option FrameData)) (s : σ) :
    (Calm c received s ∧ w.receiveFlvData c received s = (.ok, [.unSubscribe w.identifier w.subInfo])) ∨
      (¬Calm c received s ∧ (w.receiveFlvData c received s).2 = []) := by
  simp only [receiveFlvData]
  cases hLoop : receiveData takes (fun _ => false) c.processFlvData 0 received s with
  | none =>
    refine .inr ⟨?_, rfl⟩
    rintro ⟨frames, s1, s2, s3, hHeard, hAll, -⟩
    rw [receiveData_ok.mpr ⟨frames, hHeard, hAll⟩] at hLoop
    cases hLoop
  | some result =>
    cases result with
    | error f s1 =>
      refine .inr ⟨?_, rfl⟩
      rintro ⟨frames, s1, s2, s3, hHeard, hAll, -⟩
      rw [receiveData_ok.mpr ⟨frames, hHeard, hAll⟩] at hLoop
      cases hLoop
    | ok u s1 =>
      obtain ⟨frames, hHeard, hAll⟩ := receiveData_ok.mp hLoop
      cases hFlush : c.flushRemainingData s1 with
      | error f s2 =>
        simp only [bind_of_error hFlush]
        refine .inr ⟨?_, rfl⟩
        rintro ⟨frames', s1', s2', s3', hHeard', hAll', hFlush', -⟩
        cases hHeard.symm.trans hHeard'
        cases hAll.symm.trans hAll'
        cases hFlush.symm.trans hFlush'
      | ok u s2 =>
        simp only [bind_of_ok hFlush]
        cases hClear : c.clearFiles s2 with
        | error f s3 =>
          refine .inr ⟨?_, rfl⟩
          rintro ⟨frames', s1', s2', s3', hHeard', hAll', hFlush', hClear'⟩
          cases hHeard.symm.trans hHeard'
          cases hAll.symm.trans hAll'
          cases hFlush.symm.trans hFlush'
          cases hClear.symm.trans hClear'
        | ok u s3 => exact .inl ⟨⟨frames, s1, s2, s3, hHeard, hAll, hFlush, hClear⟩, rfl⟩

end FlvDataReceiver

/-! ### RTSP and WHIP to RTMP -/

namespace RemuxerSession

/-- The stream ends, and remuxing its frames succeeds. -/
def Calm (c : Remuxer ε σ) (received : List (Option FrameData)) (s : σ) : Prop :=
  ∃ frames s', heard Remuxer.takes Remuxer.ends 0 received = some frames ∧
    processAll c.onFrame frames s = some s'

theorem receive_released (w : RemuxerSession) (c : Remuxer ε σ) (received : List (Option FrameData))
    (s : σ) :
    (Calm c received s ∧ w.receive c received s =
        (.ok, [.unSubscribe w.source w.subInfo, .unPublish w.identifier w.pubInfo])) ∨
      (¬Calm c received s ∧ (w.receive c received s).2 = []) := by
  simp only [receive]
  cases hLoop : receiveData Remuxer.takes Remuxer.ends c.onFrame 0 received s with
  | none =>
    refine .inr ⟨?_, rfl⟩
    rintro ⟨frames, s', hHeard, hAll⟩
    rw [receiveData_ok.mpr ⟨frames, hHeard, hAll⟩] at hLoop
    cases hLoop
  | some result =>
    cases result with
    | error f s1 =>
      refine .inr ⟨?_, rfl⟩
      rintro ⟨frames, s', hHeard, hAll⟩
      rw [receiveData_ok.mpr ⟨frames, hHeard, hAll⟩] at hLoop
      cases hLoop
    | ok u s1 =>
      obtain ⟨frames, hHeard, hAll⟩ := receiveData_ok.mp hLoop
      exact .inl ⟨⟨frames, s1, hHeard, hAll⟩, rfl⟩

end RemuxerSession

/-! ### HTTP-FLV -/

namespace HttpFlv

/-- What has been gathered when the header comes to be sent, if it does before the channel has been
silent for eleven receives. -/
def opening : Guess → Nat → List (Option FrameData) → Option Guess
  | _, _, [] => none
  | g, retryCount, some data :: rest =>
    if (g.add data).complete then some (g.add data) else opening (g.add data) retryCount rest
  | g, retryCount, none :: rest =>
    if retryCount + 1 > 10 then none else opening g (retryCount + 1) rest

/-- Sending the header and the frames before it succeeds, if it comes to that. -/
def Calm (c : FlvWriter ε σ) (received : List (Option FrameData)) (s : σ) : Prop :=
  ∀ g, opening .start 0 received = some g → ∃ s', sendHeader c g s = .ok () s'

/-- After the header only a panic ends the loop early. -/
theorem sendBody_error {c : FlvWriter ε σ} {retryCount : Nat} {received : List (Option FrameData)}
    {s s' : σ} {f : Failure ε} (h : sendBody c retryCount received s = some (.error f s')) :
    f = .panic := by
  induction received generalizing retryCount s with
  | nil => cases h
  | cons entry rest ih =>
    cases entry with
    | none =>
      simp only [sendBody] at h
      split at h
      · cases h
      · exact ih h
    | some data =>
      simp only [sendBody] at h
      split at h
      · exact ih h
      · cases h
        rfl
      · split at h
        · cases h
        · split at h
          · cases h
          · exact ih h

/-- When the loop of `send_media_stream` ends well, so has sending the header. -/
theorem sendFrames_ok {c : FlvWriter ε σ} {g g' : Guess} {retryCount : Nat}
    {received : List (Option FrameData)} {s s' : σ}
    (h : sendFrames c g retryCount received s = some (.ok () s'))
    (hOpening : opening g retryCount received = some g') :
    ∃ s1, sendHeader c g' s = .ok () s1 := by
  induction received generalizing g retryCount with
  | nil => cases h
  | cons entry rest ih =>
    cases entry with
    | none =>
      simp only [sendFrames] at h
      simp only [opening] at hOpening
      split at hOpening
      · cases hOpening
      · rename_i hRetry
        rw [if_neg hRetry] at h
        exact ih h hOpening
    | some data =>
      simp only [sendFrames] at h
      simp only [opening] at hOpening
      split at hOpening
      · rename_i hDone
        rw [if_pos hDone] at h
        obtain rfl := Option.some.inj hOpening
        cases hHeader : sendHeader c (g.add data) s with
        | ok u s1 => exact ⟨s1, rfl⟩
        | error f s1 =>
          rw [hHeader] at h
          cases h
      · rename_i hDone
        rw [if_neg hDone] at h
        exact ih h hOpening

/-- When it fails without a panic, sending the header has failed. -/
theorem sendFrames_error {c : FlvWriter ε σ} {g : Guess} {retryCount : Nat}
    {received : List (Option FrameData)} {s s' : σ} {e : ε}
    (h : sendFrames c g retryCount received s = some (.error (.error e) s')) :
    ∃ g', opening g retryCount received = some g' ∧ sendHeader c g' s = .error (.error e) s' := by
  induction received generalizing g retryCount with
  | nil => cases h
  | cons entry rest ih =>
    cases entry with
    | none =>
      simp only [sendFrames] at h
      simp only [opening]
      split at h
      · cases h
      · rename_i hRetry
        rw [if_neg hRetry]
        exact ih h
    | some data =>
      simp only [sendFrames] at h
      simp only [opening]
      split at h
      · rename_i hDone
        rw [if_pos hDone]
        cases hHeader : sendHeader c (g.add data) s with
        | ok u s1 =>
          rw [hHeader] at h
          cases sendBody_error h
        | error f s1 =>
          rw [hHeader] at h
          cases h
          exact ⟨_, rfl, hHeader⟩
      · rename_i hDone
        rw [if_neg hDone]
        exact ih h

theorem sendMediaStream_released (w : HttpFlv) (c : FlvWriter ε σ)
    (received : List (Option FrameData)) (s : σ)
    (hReturned : (w.sendMediaStream c received s).1.Returned) :
    (Calm c received s ∧ (w.sendMediaStream c received s).2 = [.unSubscribe w.identifier w.subInfo]) ∨
      (¬Calm c received s ∧ (w.sendMediaStream c received s).2 = []) := by
  simp only [sendMediaStream] at hReturned ⊢
  cases hLoop : sendFrames c .start 0 received s with
  | none =>
    rw [hLoop] at hReturned
    exact hReturned.elim
  | some result =>
    rw [hLoop] at hReturned
    cases result with
    | ok u s1 => exact .inl ⟨fun _ hOpening => sendFrames_ok hLoop hOpening, rfl⟩
    | error f s1 =>
      refine .inr ⟨?_, rfl⟩
      intro hCalm
      cases f with
      | panic => exact hReturned
      | error e =>
        obtain ⟨g, hOpening, hHeader⟩ := sendFrames_error hLoop
        obtain ⟨s2, hOk⟩ := hCalm g hOpening
        rw [hHeader] at hOk
        cases hOk

end HttpFlv

/-! ### All workers -/

/-- Once it holds its subscription, and its publication, each worker whose `run` returns has sent the
`UnSubscribe` exactly once, and the `UnPublish`, if and only if its calls succeed: for the segmenter
and for the two sessions that remux to RTMP those on every frame up to the end of the stream, for
HTTP-FLV those that send the header. -/
theorem released_iff_calm :
    (∀ (w : FlvDataReceiver) (c : Segmenter ε σ) (received : List (Option FrameData)) (s : σ),
      (w.run c (.ok ()) received s).1.Returned →
        (UnSubscribed w.identifier w.subscriberId (w.run c (.ok ()) received s).2 ↔
          FlvDataReceiver.Calm c received s)) ∧
    (∀ (w : HttpFlv) (c : FlvWriter ε σ) (received : List (Option FrameData)) (s : σ),
      (w.run c (.ok ()) received s).1.Returned →
        (UnSubscribed w.identifier w.subscriberId (w.run c (.ok ()) received s).2 ↔
          HttpFlv.Calm c received s)) ∧
    ∀ (w : RemuxerSession) (c : Remuxer ε σ) (received : List (Option FrameData)) (s : σ),
      (w.run c (.ok ()) (.ok ()) received s).1.Returned →
        (UnSubscribed w.source w.subInfo.id (w.run c (.ok ()) (.ok ()) received s).2 ∧
            UnPublished w.identifier (w.run c (.ok ()) (.ok ()) received s).2 ↔
          RemuxerSession.Calm c received s) := by
  refine ⟨?_, ?_, ?_⟩
  · intro w c received s _
    rcases w.receiveFlvData_released c received s with ⟨hCalm, hRun⟩ | ⟨hCalm, hRun⟩
    · simp [FlvDataReceiver.run, hRun, hCalm, UnSubscribed, isUnSubscribe, FlvDataReceiver.subInfo]
    · simp [FlvDataReceiver.run, hRun, hCalm, UnSubscribed, isUnSubscribe]
  · intro w c received s hReturned
    rcases w.sendMediaStream_released c received s hReturned with ⟨hCalm, hRun⟩ | ⟨hCalm, hRun⟩
    · simp [HttpFlv.run, hRun, hCalm, UnSubscribed, isUnSubscribe, HttpFlv.subInfo]
    · simp [HttpFlv.run, hRun, hCalm, UnSubscribed, isUnSubscribe]
  · intro w c received s _
    rcases w.receive_released c received s with ⟨hCalm, hRun⟩ | ⟨hCalm, hRun⟩
    · simp [RemuxerSession.run, hRun, hCalm, UnSubscribed, isUnSubscribe, UnPublished, isUnPublish]
    · simp [RemuxerSession.run, hRun, hCalm, UnSubscribed, isUnSubscribe]

section Runs

def anId : Uuid := ⟨Vector.replicate 16 '0', .four⟩

def camera : RemuxerSession := Rtsp2RtmpRemuxerSession "live/cam" anId anId

def remux : Remuxer Unit Unit :=
  { onAudio := fun _ _ => pure ()
    onNalu := fun _ => pure ()
    onNalus := fun _ _ => pure ()
    setClockRates := fun _ s => s
    notEnoughBytes := () }

def browser : HttpFlv := ⟨"live", "cam", anId⟩

/-- The consumer of the response has gone away. -/
def abandoned : FlvWriter Unit Unit :=
  { writeFlvHeader := fun _ _ => pure ()
    writePreviousTagSize := fun _ => pure ()
    flushResponseData := throw (.error ())
    writeFlvTag := fun _ => throw (.error ())
    isDisconnected := fun _ => true }

/-- Calls that succeed, and a channel that is closed at once. -/
theorem closed_channel_released :
    UnSubscribed camera.source anId
        (camera.run remux (.ok ()) (.ok ()) (List.replicate 11 none) ()).2 ∧
      UnPublished camera.identifier
        (camera.run remux (.ok ()) (.ok ()) (List.replicate 11 none) ()).2 :=
  (released_iff_calm.2.2 camera remux (List.replicate 11 none) () (by decide)).mpr
    ⟨[], (), rfl, rfl⟩

/-- A video frame that is a start code and no more ends the session of an RTSP stream, and a player
that leaves before the header ends the HTTP-FLV handler; neither gives back what it holds. -/
theorem start_code_keeps_subscription :
    ((camera.run remux (.ok ()) (.ok ()) [some (.video 0 [0, 0, 1])] ()).1.Returned ∧
      ¬UnSubscribed camera.source anId
        (camera.run remux (.ok ()) (.ok ()) [some (.video 0 [0, 0, 1])] ()).2 ∧
      ¬UnPublished camera.identifier
        (camera.run remux (.ok ()) (.ok ()) [some (.video 0 [0, 0, 1])] ()).2) ∧
    (browser.run abandoned (.ok ()) [some (.video 0 [23]), some (.audio 0 [175])] ()).1.Returned ∧
      ¬UnSubscribed browser.identifier anId
        (browser.run abandoned (.ok ()) [some (.video 0 [23]), some (.audio 0 [175])] ()).2 := by
  decide +kernel

end Runs

end Xiu.StreamHub.Workers
