import Mathlib.Algebra.Group.Nat.Defs
import Xiu.Rtmp.Remuxer.Calls

/-! The timestamps of remuxed messages.  A timestamp of RTP counts ticks of a clock modulo `2^32`, from
any start; one of RTMP counts milliseconds from the first frame. -/

namespace Xiu.Rtmp.Remuxer

open ProofKit StreamHub

/-! ### Ticks and milliseconds -/

/-- A count of ticks, divided by the whole ticks of a millisecond, is the count of milliseconds if and
only if what the division of the clock rate leaves has not added up to another one. -/
theorem adjusted_iff {ticks clockRate : Nat} (h : 1000 ≤ clockRate) :
    ticks / (clockRate / 1000) = ticks * 1000 / clockRate ↔
      ticks / (clockRate / 1000) * (clockRate % 1000) ≤ 1000 * (ticks % (clockRate / 1000)) := by
  have hRate := Nat.div_add_mod clockRate 1000
  have hPos : 0 < clockRate / 1000 := Nat.div_pos h (by decide)
  generalize clockRate / 1000 = perMs at *
  generalize clockRate % 1000 = left at *
  have hTicks := Nat.div_add_mod ticks perMs
  have hLess := Nat.mod_lt ticks hPos
  generalize ticks / perMs = ms at *
  generalize ticks % perMs = more at *
  have hProduct : ticks * 1000 = 1000 * (perMs * ms) + 1000 * more := by omega
  have hWhole : clockRate * ms = 1000 * (perMs * ms) + ms * left := by
    rw [← hRate]
    ring
  rw [eq_comm, Nat.div_eq_iff (by omega), hProduct, Nat.mul_comm ms clockRate, hWhole]
  omega

/-- The milliseconds from the first frame, modulo `2^32`. -/
def exactTimestamp (clockRate : UInt32) (first time : Nat) : UInt32 :=
  UInt32.ofNat ((time - first) * 1000 / clockRate.toNat)

/-- A frame at which nothing goes wrong: the clock has a tick a millisecond, the first timestamp is not
taken for one that has not been set, no timestamp since then has wrapped, and the division by whole ticks
is exact. -/
structure Steady (clockRate : UInt32) (first time : Nat) : Prop where
  rate : 1000 ≤ clockRate.toNat
  start : first % 2 ^ 32 ≠ 0 ∨ time = first
  unwrapped : first % 2 ^ 32 + (time - first) < 2 ^ 32
  divided : (time - first) / (clockRate.toNat / 1000) * (clockRate.toNat % 1000) ≤
    1000 * ((time - first) % (clockRate.toNat / 1000))

variable {clockRate : UInt32} {first time : Nat}

theorem toNat_divisor (clockRate : UInt32) : (clockRate / 1000).toNat = clockRate.toNat / 1000 :=
  UInt32.toNat_div clockRate 1000

theorem Steady.exact (h : Steady clockRate first time) (hOrder : first ≤ time) :
    UInt32.ofNat first ≤ UInt32.ofNat time ∧ clockRate / 1000 ≠ 0 ∧
      (UInt32.ofNat time - UInt32.ofNat first) / (clockRate / 1000) =
        exactTimestamp clockRate first time := by
  have hUnwrapped := h.unwrapped
  have hTime : time % 2 ^ 32 = first % 2 ^ 32 + (time - first) := by omega
  have hLe : UInt32.ofNat first ≤ UInt32.ofNat time := by
    rw [UInt32.le_iff_toNat_le, UInt32.toNat_ofNat', UInt32.toNat_ofNat']
    omega
  have hPos : 0 < clockRate.toNat / 1000 := Nat.div_pos h.rate (by decide)
  have hMs : (time - first) * 1000 / clockRate.toNat < 2 ^ 32 := by
    rw [← (adjusted_iff h.rate).mpr h.divided]
    have hLess := Nat.div_le_self (time - first) (clockRate.toNat / 1000)
    omega
  refine ⟨hLe, ?_, ?_⟩
  · intro hZero
    have hNat := congrArg UInt32.toNat hZero
    rw [toNat_divisor, UInt32.toNat_zero] at hNat
    omega
  · rw [← UInt32.toNat_inj, UInt32.toNat_div, UInt32.toNat_sub_of_le _ _ hLe, toNat_divisor,
      UInt32.toNat_ofNat', UInt32.toNat_ofNat', hTime, Nat.add_sub_cancel_left,
      (adjusted_iff h.rate).mpr h.divided, exactTimestamp, UInt32.toNat_ofNat', Nat.mod_eq_of_lt hMs]

/-! ### The bases -/

inductive Track where
  | audio
  | video
  deriving DecidableEq

/-- A frame with the true time of its clock. -/
structure Input where
  track : Track
  time : Nat
  data : List UInt8

/-- How it is delivered. -/
def Input.frame (input : Input) : FrameData :=
  match input.track with
  | .audio => .audio (UInt32.ofNat input.time) input.data
  | .video => .video (UInt32.ofNat input.time) input.data

/-- The true times of a track. -/
def timesOf (track : Track) (inputs : List Input) : List Nat :=
  (inputs.filter fun input => input.track = track).map (·.time)

def rateOf (info : MediaInfo) : Track → UInt32
  | .audio => info.audioClockRate
  | .video => info.videoClockRate

namespace RemuxerSession

def rate (s : RemuxerSession) : Track → UInt32
  | .audio => s.audioClockRate
  | .video => s.videoClockRate

def base (s : RemuxerSession) : Track → UInt32
  | .audio => s.baseAudioTimestamp
  | .video => s.baseVideoTimestamp

/-- A base after timestamps. -/
def baseAfter (timestamps : List UInt32) : UInt32 := timestamps.foldl baseFrom 0

variable {s s' : RemuxerSession}

theorem clocks_inj (h : s'.clocks = s.clocks) (track : Track) :
    s'.rate track = s.rate track ∧ s'.base track = s.base track := by
  injection h with hVideoRate h
  injection h with hAudioRate h
  injection h with hVideoBase hAudioBase
  cases track with
  | audio => exact ⟨hAudioRate, hAudioBase⟩
  | video => exact ⟨hVideoRate, hVideoBase⟩

/-- What a frame does to the base of a track. -/
def baseWith (s : RemuxerSession) (track : Track) (input : Input) : UInt32 :=
  if input.track = track then baseFrom (s.base track) (UInt32.ofNat input.time) else s.base track

/-- The rates are kept, and a base is set by frames of its own track only. -/
theorem clocks_onFrame (source : Source) (input : Input) (s : RemuxerSession) (track : Track) :
    (stateOf (onFrame source input.frame s)).rate track = s.rate track ∧
      (stateOf (onFrame source input.frame s)).base track = s.baseWith track input := by
  obtain ⟨inputTrack, time, data⟩ := input
  cases inputTrack with
  | audio =>
    have hSends := @sends_onAudio (fun _ => True) False s (UInt32.ofNat time) data False.elim
      (fun _ => trivial) source
    obtain ⟨hRate, hBase⟩ := clocks_inj hSends.clocks track
    cases track with
    | audio => exact ⟨hRate, hBase⟩
    | video => exact ⟨hRate, hBase⟩
  | video =>
    have hSends := @sends_onVideo (fun _ => True) False s (UInt32.ofNat time) data False.elim
      (fun _ => trivial) (fun _ => trivial) (fun _ _ => trivial) source
    obtain ⟨hRate, hBase⟩ := clocks_inj hSends.clocks track
    cases track with
    | audio => exact ⟨hRate, hBase⟩
    | video => exact ⟨hRate, hBase⟩

theorem timesOf_append (track : Track) (inputs : List Input) (input : Input) :
    timesOf track (inputs ++ [input]) =
      timesOf track inputs ++ if input.track = track then [input.time] else [] := by
  unfold timesOf
  rw [List.filter_append, List.map_append]
  by_cases h : input.track = track
  · simp [h]
  · simp [h]

/-- After frames, the rates are those announced and each base is that of its track. -/
theorem clocks_after (source : Source) (common : Common) (info : MediaInfo) (track : Track)
    {inputs : List Input}
    (h : handleAll (onFrame source) (inputs.map Input.frame) (announced common info) = .ok () s) :
    s.rate track = rateOf info track ∧
      s.base track = baseAfter ((timesOf track inputs).map UInt32.ofNat) := by
  induction inputs using List.reverseRecOn generalizing s with
  | nil =>
    cases h
    cases track with
    | audio => exact ⟨rfl, rfl⟩
    | video => exact ⟨rfl, rfl⟩
  | append_singleton inputs input ih =>
    rw [List.map_append, handleAll_append] at h
    obtain ⟨_, s1, hBefore, hLast⟩ := bind_eq_ok h
    rw [List.map_singleton, handleAll_singleton] at hLast
    obtain ⟨hRate1, hBase1⟩ := ih hBefore
    obtain ⟨hRate, hBase⟩ := clocks_onFrame source input s1 track
    rw [hLast] at hRate hBase
    refine ⟨hRate.trans hRate1, hBase.trans ?_⟩
    rw [baseWith, timesOf_append, hBase1]
    by_cases hTrack : input.track = track
    · rw [if_pos hTrack, if_pos hTrack]
      simp only [baseAfter, List.map_append, List.map_cons, List.map_nil, List.foldl_append,
        List.foldl_cons, List.foldl_nil]
    · rw [if_neg hTrack, if_neg hTrack, List.append_nil]

/-- The base is the first timestamp, if a first timestamp of zero stays the only one. -/
theorem foldl_baseFrom {times : List Nat}
    (h : ∀ time ∈ times, first % 2 ^ 32 ≠ 0 ∨ time = first) :
    (times.map UInt32.ofNat).foldl baseFrom (UInt32.ofNat first) = UInt32.ofNat first := by
  induction times with
  | nil => rfl
  | cons time rest ih =>
    have hFirst : baseFrom (UInt32.ofNat first) (UInt32.ofNat time) = UInt32.ofNat first := by
      unfold baseFrom
      split
      · rename_i hZero
        rcases h time List.mem_cons_self with hNonzero | rfl
        · have hNat := congrArg UInt32.toNat hZero
          rw [UInt32.toNat_ofNat', UInt32.toNat_zero] at hNat
          exact absurd hNat hNonzero
        · rfl
      · rfl
    rw [List.map_cons, List.foldl_cons, hFirst]
    exact ih fun other hMem => h other (List.mem_cons_of_mem _ hMem)

theorem baseAfter_times {times : List Nat}
    (h : ∀ time ∈ times, first % 2 ^ 32 ≠ 0 ∨ time = first) :
    baseAfter ((first :: times).map UInt32.ofNat) = UInt32.ofNat first := by
  have hFirst : baseFrom 0 (UInt32.ofNat first) = UInt32.ofNat first := if_pos rfl
  rw [List.map_cons, baseAfter, List.foldl_cons, hFirst]
  exact foldl_baseFrom h

/-! ### Conversion -/

/-- A message that is made of media says this time. -/
def Says (timestamp : UInt32) : FrameData → Prop
  | .audio messageTimestamp _ => messageTimestamp = timestamp
  | .video messageTimestamp data => data[1]? = some Flv.AVC_NALU → messageTimestamp = timestamp
  | _ => True

/-- The messages made from a frame say this time, and no arithmetic fails at it. -/
structure Converts (source : Source) (s : RemuxerSession) (input : Input) (timestamp : UInt32) :
    Prop where
  messages : ∃ new, (stateOf (onFrame source input.frame s)).rtmpHandler.sent =
    s.rtmpHandler.sent ++ new ∧ ∀ m ∈ new, Says timestamp m
  arithmetic : ∀ e s', onFrame source input.frame s = .error e s' → Other e

/-- Every frame of a track that the session comes to is converted to the milliseconds from the first
frame of its track. -/
def ConvertsAll (source : Source) (common : Common) (info : MediaInfo) (track : Track)
    (inputs : List Input) : Prop :=
  ∀ before input after first s, inputs = before ++ input :: after → input.track = track →
    (timesOf track inputs).head? = some first →
    handleAll (onFrame source) (before.map Input.frame) (announced common info) = .ok () s →
    Converts source s input (exactTimestamp (rateOf info track) first input.time)

/-- A frame is converted by what its track's base becomes. -/
theorem converts_of_base (source : Source) {input : Input} {timestamp : UInt32}
    (hLe : baseFrom (s.base input.track) (UInt32.ofNat input.time) ≤ UInt32.ofNat input.time)
    (hRate : s.rate input.track / 1000 ≠ 0)
    (hTimestamp : (UInt32.ofNat input.time -
      baseFrom (s.base input.track) (UInt32.ofNat input.time)) / (s.rate input.track / 1000) =
        timestamp) :
    Converts source s input timestamp := by
  obtain ⟨track, time, data⟩ := input
  cases track with
  | audio =>
    have hSends := @sends_onAudio (Says timestamp) True s (UInt32.ofNat time) data
      (fun _ => ⟨hLe, hRate⟩) (fun _ => hTimestamp) source
    exact ⟨hSends.sent, fun e s' hError => hSends.fails e s' hError trivial⟩
  | video =>
    have hHeader : ∀ body : List UInt8, body[1]? = some 0 → Says timestamp (.video 0 body) := by
      intro body hType hNalu
      rw [hType] at hNalu
      exact absurd hNalu (by decide)
    have hSends := @sends_onVideo (Says timestamp) True s (UInt32.ofNat time) data
      (fun _ => ⟨hLe, hRate⟩) (fun _ _ => hTimestamp) (fun _ => trivial) hHeader source
    exact ⟨hSends.sent, fun e s' hError => hSends.fails e s' hError trivial⟩

/-- Timestamps are converted exactly in every run in which each frame of the track is steady. -/
theorem converts_of_steady (source : Source) (common : Common) (info : MediaInfo) (track : Track)
    {inputs : List Input} (hOrder : (timesOf track inputs).Pairwise (· ≤ ·))
    (hSteady : ∀ first ∈ (timesOf track inputs).head?, ∀ time ∈ timesOf track inputs,
      Steady (rateOf info track) first time) :
    ConvertsAll source common info track inputs := by
  rintro before input after first s rfl rfl hFirst hBefore
  obtain ⟨hRate, hBase⟩ := clocks_after source common info input.track hBefore
  have hSplit : timesOf input.track (before ++ input :: after) =
      timesOf input.track (before ++ [input]) ++ timesOf input.track after := by
    rw [List.append_cons, timesOf, List.filter_append, List.map_append]
    rfl
  have hUpTo := timesOf_append input.track before input
  rw [if_pos rfl] at hUpTo
  -- the times so far begin with the first one
  obtain ⟨later, hLater⟩ : ∃ later, timesOf input.track before ++ [input.time] = first :: later := by
    rw [hSplit, hUpTo] at hFirst
    cases hTimes : timesOf input.track before with
    | nil =>
      rw [hTimes] at hFirst
      exact ⟨[], by rw [← Option.some.inj hFirst]; rfl⟩
    | cons time times =>
      rw [hTimes] at hFirst
      exact ⟨times ++ [input.time], by rw [← Option.some.inj hFirst]; rfl⟩
  have hAll : timesOf input.track (before ++ input :: after) =
      first :: (later ++ timesOf input.track after) := by
    rw [hSplit, hUpTo, hLater]
    rfl
  rw [hAll] at hOrder hSteady
  have hEach := hSteady first rfl
  have hMem : input.time ∈ first :: later := by
    rw [← hLater]
    exact List.mem_append_right _ List.mem_cons_self
  have hMemAll : input.time ∈ first :: (later ++ timesOf input.track after) := by
    rw [← List.cons_append]
    exact List.mem_append_left _ hMem
  have hLe : first ≤ input.time := by
    rcases List.mem_cons.mp hMemAll with hEq | hRest
    · exact Nat.le_of_eq hEq.symm
    · exact (List.pairwise_cons.mp hOrder).1 _ hRest
  -- so the base is the first timestamp
  have hNow : baseFrom (s.base input.track) (UInt32.ofNat input.time) = UInt32.ofNat first := by
    have hStart : ∀ time ∈ later, first % 2 ^ 32 ≠ 0 ∨ time = first := fun time hTime =>
      (hEach time (List.mem_cons_of_mem _ (List.mem_append_left _ hTime))).start
    have hAfter := baseAfter_times hStart
    rw [← hLater] at hAfter
    rw [hBase]
    simpa only [baseAfter, List.map_append, List.map_cons, List.map_nil, List.foldl_append,
      List.foldl_cons, List.foldl_nil] using hAfter
  obtain ⟨hBaseLe, hDivisor, hExact⟩ := (hEach input.time hMemAll).exact hLe
  refine converts_of_base source ?_ ?_ ?_
  · rw [hNow]
    exact hBaseLe
  · rw [hRate]
    exact hDivisor
  · rw [hNow, hRate]
    exact hExact

/-! ### Two frames -/

/-- A session that publishes without statistics. -/
def published : Common := Common.published 1 none

/-- An audio specific config, and an access unit a second later. -/
def secondApart (clockRate : Nat) : List Input :=
  [⟨.audio, 1, [0x12, 0x10]⟩, ⟨.audio, 1 + clockRate, [0x21, 0x10, 0x05, 0x00, 0xa0, 0x1b]⟩]

theorem kilohertz48_converted :
    ConvertsAll .rtsp published ⟨48000, 90000, .h264⟩ .audio (secondApart 48000) := by
  refine converts_of_steady .rtsp published ⟨48000, 90000, .h264⟩ .audio (by decide) ?_
  rintro first hFirst time hTime
  obtain rfl : 1 = first := Option.some.inj hFirst
  have hTimes : time = 1 ∨ time = 48001 := by simpa [timesOf, secondApart] using hTime
  rcases hTimes with rfl | rfl
  · exact ⟨by decide, .inl (by decide), by decide, by decide⟩
  · exact ⟨by decide, .inl (by decide), by decide, by decide⟩

/-- The session behind the first of them. -/
def afterFirst (clockRate : UInt32) : RemuxerSession :=
  stateOf (onFrame .rtsp (.audio 1 [0x12, 0x10]) (announced published ⟨clockRate, 90000, .h264⟩))

theorem afterFirst_ok : handleAll (onFrame .rtsp)
    (([⟨.audio, 1, [0x12, 0x10]⟩] : List Input).map Input.frame)
    (announced published ⟨44100, 90000, .h264⟩) = .ok () (afterFirst 44100) := rfl

theorem second_sent : (stateOf (onFrame .rtsp
    (.audio 44101 [0x21, 0x10, 0x05, 0x00, 0xa0, 0x1b]) (afterFirst 44100))).rtmpHandler.sent =
      (afterFirst 44100).rtmpHandler.sent ++
        [.audio 1002 [0xaf, 0x01, 0x21, 0x10, 0x05, 0x00, 0xa0, 0x1b]] := by
  decide +kernel

/-- At 44100 ticks a second, the frame a second later comes at 1002 ms. -/
theorem hertz44100_drifts :
    (timesOf .audio (secondApart 44100)).Pairwise (· ≤ ·) ∧
      ¬ConvertsAll .rtsp published ⟨44100, 90000, .h264⟩ .audio (secondApart 44100) := by
  refine ⟨by decide, fun h => ?_⟩
  obtain ⟨new, hNew, hSays⟩ := (h [⟨.audio, 1, [0x12, 0x10]⟩]
    ⟨.audio, 44101, [0x21, 0x10, 0x05, 0x00, 0xa0, 0x1b]⟩ [] 1 (afterFirst 44100) rfl rfl rfl
    afterFirst_ok).messages
  have hOne := List.append_cancel_left (second_sent.symm.trans hNew)
  subst hOne
  have hTimestamp : (1002 : UInt32) = 1000 := hSays _ (List.mem_singleton_self _)
  exact absurd hTimestamp (by decide)

end RemuxerSession

end Xiu.Rtmp.Remuxer
