import Xiu.Rtmp.Remuxer.Session

/-! What the calls of a remuxer session send and keep, whether they succeed or fail. -/

namespace Xiu.Rtmp.Remuxer

open Bytesio ProofKit StreamHub

namespace RemuxerSession

/-- The clock rates and the bases. -/
def clocks (s : RemuxerSession) : UInt32 × UInt32 × UInt32 × UInt32 :=
  (s.videoClockRate, s.audioClockRate, s.baseVideoTimestamp, s.baseAudioTimestamp)

/-- From `s`, messages of a kind are sent and the clocks are kept; when `calm` is the case, no failure
is one of arithmetic. -/
structure Sends {α : Type} (P : FrameData → Prop) (calm : Prop) (s : RemuxerSession)
    (result : EStateM.Result RemuxFault RemuxerSession α) : Prop where
  sent : ∃ new, (stateOf result).rtmpHandler.sent = s.rtmpHandler.sent ++ new ∧ ∀ m ∈ new, P m
  clocks : (stateOf result).clocks = s.clocks
  fails : ∀ e s', result = .error e s' → calm → e ≠ .subtractOverflow ∧ e ≠ .divideByZero

variable {α β : Type} {P : FrameData → Prop} {calm : Prop} {s s' : RemuxerSession}

theorem sends_ok {a : α} (hSent : s'.rtmpHandler.sent = s.rtmpHandler.sent)
    (hClocks : s'.clocks = s.clocks) : Sends P calm s (.ok a s') := by
  refine ⟨⟨[], ?_, List.forall_mem_nil _⟩, hClocks, ?_⟩
  · rw [List.append_nil]
    exact hSent
  · intro e s1 h
    cases h

theorem sends_error {e : RemuxFault} (h : calm → e ≠ .subtractOverflow ∧ e ≠ .divideByZero) :
    Sends P calm s (.error e s : EStateM.Result RemuxFault RemuxerSession α) := by
  refine ⟨⟨[], (List.append_nil _).symm, List.forall_mem_nil _⟩, rfl, ?_⟩
  intro e' s1 hError
  cases hError
  exact h

theorem Sends.bind {x : Run α} {f : α → Run β} (hx : Sends P calm s (x s))
    (hf : ∀ a s1, x s = .ok a s1 → Sends P calm s1 (f a s1)) :
    Sends P calm s ((x >>= f) s) := by
  obtain ⟨⟨first, hFirst, hFirstP⟩, hClocks, hFails⟩ := hx
  cases h : x s with
  | ok a s1 =>
    obtain ⟨⟨second, hSecond, hSecondP⟩, hClocks1, hFails1⟩ := hf a s1 h
    rw [h] at hFirst hClocks
    rw [bind_of_ok h]
    refine ⟨⟨first ++ second, ?_, List.forall_mem_append.mpr ⟨hFirstP, hSecondP⟩⟩,
      hClocks1.trans hClocks, hFails1⟩
    rw [hSecond, ← List.append_assoc]
    exact congrArg (· ++ second) hFirst
  | error e s1 =>
    rw [h] at hFirst hClocks hFails
    rw [bind_of_error h]
    refine ⟨⟨first, hFirst, hFirstP⟩, hClocks, ?_⟩
    intro e' s' hError
    cases hError
    exact hFails e s1 rfl

theorem sends_ite {c : Prop} [Decidable c] {x y : Run α} (hThen : c → Sends P calm s (x s))
    (hElse : ¬c → Sends P calm s (y s)) : Sends P calm s ((if c then x else y) s) := by
  by_cases h : c
  · rw [if_pos h]
    exact hThen h
  · rw [if_neg h]
    exact hElse h

/-! ### The messages -/

/-- A failure that is not one of arithmetic. -/
def Other (e : RemuxFault) : Prop := e ≠ .subtractOverflow ∧ e ≠ .divideByZero

theorem send_ok {m : FrameData} {c : Common} (h : c.connected = true) :
    Common.send m c = .ok () { c with sent := c.sent ++ [m] } := by
  rw [Common.send, bind_get, if_pos h]
  rfl

theorem send_error {m : FrameData} {c : Common} (h : ¬c.connected = true) :
    Common.send m c = .error .sendFrameDataErr c := by
  rw [Common.send, bind_get, if_neg h]
  rfl

/-- A message that cannot be sent is no failure of arithmetic. -/
theorem other_send {m : FrameData} {c c' : Common} {e : RemuxFault}
    (h : Common.send m c = .error e c') : Other e := by
  by_cases hConnected : c.connected = true
  · rw [send_ok hConnected] at h
    cases h
  · rw [send_error hConnected] at h
    cases h
    exact ⟨by decide, by decide⟩

/-- What is done to the cache sends nothing. -/
theorem sent_saving {ε : Type} (wrap : ε → RemuxFault) (save : EStateM ε Cache Unit) (c : Common) :
    (stateOf (Common.saving wrap save c)).sent = c.sent := by
  unfold Common.saving
  cases save c.cache with
  | ok _ cache => rfl
  | error e cache => rfl

/-- A message is sent before it is saved, if it is. -/
theorem sent_send {m : FrameData} {rest : Common.Run Unit} (hP : P m)
    (hRest : ∀ c, (stateOf (rest c)).sent = c.sent) (c : Common) :
    ∃ new, (stateOf ((Common.send m >>= fun _ => rest) c)).sent = c.sent ++ new ∧
      ∀ m ∈ new, P m := by
  by_cases h : c.connected = true
  · rw [bind_of_ok (send_ok h)]
    exact ⟨[m], hRest _, List.forall_mem_singleton.mpr hP⟩
  · rw [bind_of_error (send_error h)]
    exact ⟨[], (List.append_nil _).symm, List.forall_mem_nil _⟩

theorem other_saving {ε : Type} {wrap : ε → RemuxFault} (hWrap : ∀ e, Other (wrap e))
    {save : EStateM ε Cache Unit} {m : FrameData} {c c' : Common} {e : RemuxFault}
    (h : (Common.send m >>= fun _ => Common.saving wrap save) c = .error e c') : Other e := by
  rcases bind_eq_error h with hSend | ⟨_, c1, -, hSave⟩
  · exact other_send hSend
  · unfold Common.saving at hSave
    split at hSave
    · cases hSave
    · cases hSave
      exact hWrap _

theorem sends_handler {x : Common.Run Unit}
    (hSent : ∀ c, ∃ new, (stateOf (x c)).sent = c.sent ++ new ∧ ∀ m ∈ new, P m)
    (hFails : ∀ c e c', x c = .error e c' → Other e) : Sends P calm s (handler x s) := by
  have hNew := hSent s.rtmpHandler
  cases h : x s.rtmpHandler with
  | ok u c =>
    have hHandler : handler x s = .ok u { s with rtmpHandler := c } := by
      rw [handler, onPart, h]
    rw [h] at hNew
    rw [hHandler]
    refine ⟨hNew, rfl, ?_⟩
    intro e s1 hError
    cases hError
  | error e c =>
    have hHandler : handler x s = .error e { s with rtmpHandler := c } := by
      rw [handler, onPart, h]
    rw [h] at hNew
    rw [hHandler]
    refine ⟨hNew, rfl, ?_⟩
    intro e' s1 hError hCalm
    cases hError
    exact hFails _ _ _ h

theorem sends_onAudioData {data : List UInt8} {timestamp : UInt32} (hP : P (.audio timestamp data)) :
    Sends P calm s (handler (Common.onAudioData data timestamp) s) :=
  sends_handler (sent_send hP (sent_saving _ _)) fun _ _ _ =>
    other_saving fun _ => ⟨RemuxFault.noConfusion, RemuxFault.noConfusion⟩

theorem sends_onVideoData {data : List UInt8} {timestamp : UInt32} (hP : P (.video timestamp data)) :
    Sends P calm s (handler (Common.onVideoData data timestamp) s) :=
  sends_handler (sent_send hP (sent_saving _ _)) fun _ _ _ =>
    other_saving fun _ => ⟨RemuxFault.noConfusion, RemuxFault.noConfusion⟩

theorem sends_onMetaData {data : List UInt8} {timestamp : UInt32}
    (hP : P (.metaData timestamp data)) :
    Sends P calm s (handler (Common.onMetaData data timestamp) s) := by
  refine sends_handler (sent_send hP fun c => rfl) ?_
  intro c e c' h
  rcases bind_eq_error h with hSend | ⟨_, c1, -, hSave⟩
  · exact other_send hSend
  · cases hSave

/-- A message goes through if and only if the channel takes it and the cache does. -/
theorem saved_ok_iff {ε : Type} {wrap : ε → RemuxFault} {save : EStateM ε Cache Unit} {m : FrameData}
    {c c' : Common} :
    (Common.send m >>= fun _ => Common.saving wrap save) c = .ok () c' ↔
      c.connected = true ∧ ∃ cache, save c.cache = .ok () cache ∧
        c' = { c with sent := c.sent ++ [m], cache } := by
  by_cases h : c.connected = true
  · rw [bind_of_ok (send_ok h), and_iff_right h, Common.saving]
    dsimp only
    cases save c.cache with
    | ok u cache =>
      constructor
      · intro hOk
        cases hOk
        exact ⟨cache, rfl, rfl⟩
      · rintro ⟨cache', hCache, rfl⟩
        cases hCache
        rfl
    | error e cache =>
      constructor
      · intro hOk
        cases hOk
      · rintro ⟨cache', hCache, -⟩
        cases hCache
  · rw [bind_of_error (send_error h)]
    constructor
    · intro hOk
      cases hOk
    · rintro ⟨hConnected, -⟩
      exact absurd hConnected h

theorem handler_ok_iff {x : Common.Run Unit} :
    handler x s = .ok () s' ↔ ∃ c, x s.rtmpHandler = .ok () c ∧ s' = { s with rtmpHandler := c } := by
  rw [handler, onPart]
  cases x s.rtmpHandler with
  | ok u c =>
    constructor
    · intro hOk
      cases hOk
      exact ⟨c, rfl, rfl⟩
    · rintro ⟨c', hC, rfl⟩
      cases hC
      rfl
  | error e c =>
    constructor
    · intro hOk
      cases hOk
    · rintro ⟨c', hC, -⟩
      cases hC

/-! ### The frames -/

variable {timestamp base clockRate : UInt32}

theorem adjust_eq_ok {a : UInt32} (h : adjust timestamp base clockRate s = .ok a s') :
    base ≤ timestamp ∧ clockRate / 1000 ≠ 0 ∧ a = (timestamp - base) / (clockRate / 1000) ∧
      s' = s := by
  unfold adjust at h
  split at h
  · cases h
  · rename_i hLess
    split at h
    · cases h
    · rename_i hZero
      cases h
      exact ⟨UInt32.not_lt.mp hLess, hZero, rfl, rfl⟩

theorem adjust_ok (hBase : base ≤ timestamp) (hRate : clockRate / 1000 ≠ 0) :
    adjust timestamp base clockRate s = .ok ((timestamp - base) / (clockRate / 1000)) s := by
  unfold adjust
  rw [if_neg (UInt32.not_lt.mpr hBase), if_neg hRate]
  rfl

theorem sends_adjust (h : calm → base ≤ timestamp ∧ clockRate / 1000 ≠ 0) :
    Sends P calm s (adjust timestamp base clockRate s) := by
  by_cases hLess : timestamp < base
  · have hError : adjust timestamp base clockRate s = .error .subtractOverflow s := by
      rw [adjust, if_pos hLess]
      rfl
    rw [hError]
    exact sends_error fun hCalm => absurd hLess (UInt32.not_lt.mpr (h hCalm).1)
  by_cases hZero : clockRate / 1000 = 0
  · have hError : adjust timestamp base clockRate s = .error .divideByZero s := by
      rw [adjust, if_neg hLess, if_pos hZero]
      rfl
    rw [hError]
    exact sends_error fun hCalm => absurd hZero (h hCalm).2
  · rw [adjust_ok (UInt32.not_lt.mp hLess) hZero]
    exact sends_ok rfl rfl

/-- A frame becomes a message with the time since the base. -/
theorem sends_onAudio {data : List UInt8}
    (hCalm : calm → baseFrom s.baseAudioTimestamp timestamp ≤ timestamp ∧
      s.audioClockRate / 1000 ≠ 0)
    (hP : ∀ body, P (.audio ((timestamp - baseFrom s.baseAudioTimestamp timestamp) /
      (s.audioClockRate / 1000)) body)) (source : Source) :
    Sends P calm { s with baseAudioTimestamp := baseFrom s.baseAudioTimestamp timestamp }
      (source.onAudio data timestamp s) := by
  have hAudio : Sends P calm
      { s with baseAudioTimestamp := baseFrom s.baseAudioTimestamp timestamp }
      (onAudio data timestamp s) := by
    rw [onAudio, bind_modify, bind_get]
    refine (sends_adjust hCalm).bind fun a s1 hOk => ?_
    obtain ⟨-, -, rfl, -⟩ := adjust_eq_ok hOk
    exact sends_onAudioData (hP _)
  cases source with
  | rtsp => exact hAudio
  | whip => exact hAudio

theorem sends_parseSize (sps : List UInt8) : Sends P calm s (parseSize sps s) := by
  unfold parseSize
  rcases Flv.Mpeg4Avc.parse sps with (_ | _ | _ | _) | size
  · exact sends_ok rfl rfl
  · exact sends_ok rfl rfl
  · exact sends_ok rfl rfl
  · exact sends_error fun _ => ⟨by decide, by decide⟩
  · exact sends_ok rfl rfl

theorem sends_readNalu (found : Found) (nalu : List UInt8) :
    Sends P calm s (readNalu found nalu s) := by
  cases nalu with
  | nil => exact sends_error fun _ => ⟨by decide, by decide⟩
  | cons naluType rest =>
    refine sends_ite (fun _ => ?_) fun _ => sends_ite (fun _ => sends_ok rfl rfl) fun _ =>
      sends_ite (fun _ => sends_ok rfl rfl) fun _ => sends_ok rfl rfl
    exact (sends_parseSize rest).bind fun a s1 _ => sends_ok rfl rfl

theorem sends_readNalus (nalus : List (List UInt8)) (found : Found) :
    Sends P calm s (nalus.foldlM readNalu found s) := by
  induction nalus generalizing found s with
  | nil => exact sends_ok rfl rfl
  | cons nalu rest ih =>
    rw [List.foldlM_cons]
    exact (sends_readNalu found nalu).bind fun a s1 _ => ih a

/-- The second byte of a sequence header. -/
theorem genVideoSeqHeader_type {sps pps seqHeader : List UInt8} {profile level : UInt8}
    (h : RtmpCooker.genVideoSeqHeader sps pps profile level = .ok seqHeader) :
    seqHeader[1]? = some 0 := by
  unfold RtmpCooker.genVideoSeqHeader at h
  cases hRecord : (RtmpCooker.recordOf sps pps profile level).decoderConfigurationRecordSave with
  | error e =>
    rw [hRecord] at h
    cases h
  | ok record =>
    rw [hRecord] at h
    cases h
    rfl

theorem sends_sendHeader (found : Found) (sps pps : List UInt8)
    (hMeta : ∀ body, P (.metaData 0 body))
    (hHeader : ∀ body, body[1]? = some 0 → P (.video 0 body)) :
    Sends P calm s (sendHeader found sps pps s) := by
  obtain ⟨metaData, hGen⟩ := RtmpCooker.exists_genMetaData found.width found.height
  unfold sendHeader
  rw [hGen]
  refine (sends_onMetaData (hMeta metaData)).bind fun _ s1 _ => ?_
  cases hSeq : RtmpCooker.genVideoSeqHeader sps pps found.profile found.level with
  | error fault => exact sends_error fun _ => ⟨RemuxFault.noConfusion, RemuxFault.noConfusion⟩
  | ok seqHeader => exact sends_onVideoData (hHeader seqHeader (genVideoSeqHeader_type hSeq))

theorem sends_sendFrame (nalus : List (List UInt8)) (containsIdr : Bool)
    (hCalm : calm → s.baseVideoTimestamp ≤ timestamp ∧ s.videoClockRate / 1000 ≠ 0)
    (hP : ∀ body, P (.video ((timestamp - s.baseVideoTimestamp) / (s.videoClockRate / 1000)) body)) :
    Sends P calm s (sendFrame nalus containsIdr timestamp s) := by
  rw [sendFrame, bind_get]
  refine (sends_adjust hCalm).bind fun a s1 hOk => ?_
  obtain ⟨-, -, rfl, -⟩ := adjust_eq_ok hOk
  exact sends_onVideoData (hP _)

/-- A buffer becomes a message with the time since the base, or metadata and a sequence header. -/
theorem sends_onVideo {data : List UInt8}
    (hCalm : calm → baseFrom s.baseVideoTimestamp timestamp ≤ timestamp ∧
      s.videoClockRate / 1000 ≠ 0)
    (hP : ∀ body, P (.video ((timestamp - baseFrom s.baseVideoTimestamp timestamp) /
      (s.videoClockRate / 1000)) body))
    (hMeta : ∀ body, P (.metaData 0 body))
    (hHeader : ∀ body, body[1]? = some 0 → P (.video 0 body)) (source : Source) :
    Sends P calm { s with baseVideoTimestamp := baseFrom s.baseVideoTimestamp timestamp }
      (source.onVideo data timestamp s) := by
  -- a state with the clocks that the base gives
  have hFrame : ∀ (s1 : RemuxerSession) (nalus : List (List UInt8)) (containsIdr : Bool),
      s1.clocks = ({ s with
        baseVideoTimestamp := baseFrom s.baseVideoTimestamp timestamp } : RemuxerSession).clocks →
      Sends P calm s1 (sendFrame nalus containsIdr timestamp s1) := by
    intro s1 nalus containsIdr hClocks
    injection hClocks with hVideoRate hClocks
    injection hClocks with hAudioRate hClocks
    injection hClocks with hVideoBase hAudioBase
    refine sends_sendFrame nalus containsIdr ?_ ?_
    · rw [hVideoBase, hVideoRate]
      exact hCalm
    · rw [hVideoBase, hVideoRate]
      exact hP
  cases source with
  | rtsp =>
    change Sends P calm _ (onRtspVideo data timestamp s)
    rw [onRtspVideo, setVideoBase, bind_modify]
    have hRead := @sends_readNalus P calm
      { s with baseVideoTimestamp := baseFrom s.baseVideoTimestamp timestamp }
      (Workers.splitNalus data) (.start none none)
    refine hRead.bind fun found s1 hOk => ?_
    have hClocks := hRead.clocks
    rw [hOk] at hClocks
    obtain ⟨width, height, level, profile, _ | sps, _ | pps, containsIdr⟩ := found
    · exact hFrame s1 _ _ hClocks
    · exact hFrame s1 _ _ hClocks
    · exact hFrame s1 _ _ hClocks
    · exact sends_sendHeader _ _ _ hMeta hHeader
  | whip =>
    change Sends P calm _ (onWhipVideo data timestamp s)
    rw [onWhipVideo, setVideoBase, bind_modify, bind_get]
    have hRead := @sends_readNalus P calm
      { s with baseVideoTimestamp := baseFrom s.baseVideoTimestamp timestamp }
      (Workers.splitNalus data) (.start s.sps s.pps)
    refine hRead.bind fun found s1 hOk => ?_
    have hClocks := hRead.clocks
    rw [hOk] at hClocks
    -- storing the parameter sets sends nothing and keeps the clocks
    have hStored : Sends P calm s1 (.ok () { s1 with sps := found.sps, pps := found.pps }) :=
      sends_ok rfl rfl
    refine Sends.bind (x := modify fun self => { self with sps := found.sps, pps := found.pps })
      hStored fun _ s2 hStore => ?_
    have hClocks2 := hStored.clocks.trans hClocks
    cases hStore
    refine sends_ite (fun _ => ?_) fun _ => sends_ite (fun _ => hFrame _ _ _ hClocks2) fun _ =>
      sends_ok rfl rfl
    obtain ⟨width, height, level, profile, _ | sps, _ | pps, containsIdr⟩ := found
    · exact sends_ok rfl rfl
    · exact sends_ok rfl rfl
    · exact sends_ok rfl rfl
    · exact (sends_sendHeader _ _ _ hMeta hHeader).bind fun _ s3 _ => sends_ok rfl rfl

/-! ### Timestamps and bases -/

/-- No timestamp comes before the base at that point. -/
def NotBefore : UInt32 → List UInt32 → Prop
  | _, [] => True
  | base, timestamp :: rest =>
    baseFrom base timestamp ≤ timestamp ∧ NotBefore (baseFrom base timestamp) rest

theorem NotBefore.left {base : UInt32} {before after : List UInt32}
    (h : NotBefore base (before ++ after)) : NotBefore base before := by
  induction before generalizing base with
  | nil => trivial
  | cons timestamp rest ih => exact ⟨h.1, ih h.2⟩

/-- A clock has a tick a millisecond. -/
theorem divisor_ne_zero_iff {clockRate : UInt32} :
    clockRate / 1000 ≠ 0 ↔ 1000 ≤ clockRate.toNat := by
  have hThousand : (1000 : UInt32).toNat = 1000 := rfl
  rw [ne_eq, ← UInt32.toNat_inj, UInt32.toNat_div, hThousand, UInt32.toNat_zero]
  omega

end RemuxerSession

end Xiu.Rtmp.Remuxer
