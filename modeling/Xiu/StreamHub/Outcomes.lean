import Xiu.StreamHub.Effects

/-! What a publication and a query for statistics leave, of `publish` and `api_statistic` in
`library/streamhub/src/lib.rs`: when a publication that fails changes no stream, and when a query waits
for as many answers as it has asked for. -/

namespace Xiu.StreamHub

namespace StreamsHub

/-! ### A publication -/

/-- A publication that fails leaves the streams alone, and one that succeeds adds the stream. -/
structure AllOrNothing (hub : StreamsHub) (listened : Bool) (identifier : StreamIdentifier)
    (info : PublisherInfo) : Prop where
  error : ∀ e, (hub.publish listened identifier info).2 = .error e →
    (hub.publish listened identifier info).1.streams = hub.streams
  ok : (hub.publish listened identifier info).2 = .ok () →
    identifier ∉ hub.streams ∧ identifier ∈ (hub.publish listened identifier info).1.streams

/-- The hub tells its clients about what is published. -/
def tells (hub : StreamsHub) : Bool :=
  hub.rtmpPushEnabled || hub.hlsEnabled || hub.rtmpRemuxerEnabled

/-- A stream that is not there is put there, whether its publication succeeds or cannot be told. -/
theorem publish_absent {hub : StreamsHub} {identifier : StreamIdentifier}
    (h : hub.streams.lookup identifier = none) (listened : Bool) (info : PublisherInfo) :
    (hub.publish listened identifier info).1.streams =
        hub.streams.insert identifier hub.tasks.length ∧
      (hub.publish listened identifier info).2 =
        if hub.tells = true ∧ listened = false then .error .sendError else .ok () := by
  by_cases hTells : hub.tells = true
  · rw [tells] at hTells
    cases listened with
    | false => simp [publish, h, broadcast, hTells, tells]
    | true => simp [publish, h, broadcast, hTells]
  · rw [tells] at hTells
    simp [publish, h, hTells, tells]

/-- A publication is all or nothing if and only if the stream is there already or the clients can be
told, where they are. -/
theorem publish_allOrNothing_iff (hub : StreamsHub) (listened : Bool) (identifier : StreamIdentifier)
    (info : PublisherInfo) :
    AllOrNothing hub listened identifier info ↔
      identifier ∈ hub.streams ∨ hub.tells = false ∨ listened = true := by
  cases hLookup : hub.streams.lookup identifier with
  | some k =>
    have hThere : identifier ∈ hub.streams := AList.lookup_isSome.mp (by rw [hLookup]; rfl)
    have hPublish : hub.publish listened identifier info = (hub, .error .exists_) := by
      rw [publish, hLookup]
    refine iff_of_true ⟨?_, ?_⟩ (.inl hThere)
    · intro e _
      rw [hPublish]
    · intro hOk
      rw [hPublish] at hOk
      cases hOk
  | none =>
    have hAbsent : identifier ∉ hub.streams := AList.lookup_eq_none.mp hLookup
    have hMem : identifier ∈ hub.streams.insert identifier hub.tasks.length :=
      (AList.mem_insert hub.streams).mpr (.inl rfl)
    obtain ⟨hStreams, hResult⟩ := publish_absent hLookup listened info
    by_cases hUntold : hub.tells = true ∧ listened = false
    · rw [if_pos hUntold] at hResult
      refine iff_of_false ?_ (by simp [hAbsent, hUntold.1, hUntold.2])
      intro hAll
      have hSame := hAll.error _ hResult
      rw [hStreams] at hSame
      exact hAbsent (hSame ▸ hMem)
    · rw [if_neg hUntold] at hResult
      refine iff_of_true ⟨?_, ?_⟩ (.inr ?_)
      · intro e hError
        rw [hResult] at hError
        cases hError
      · intro _
        rw [hStreams]
        exact ⟨hAbsent, hMem⟩
      · rw [not_and, Bool.not_eq_false] at hUntold
        cases hTells : hub.tells with
        | true => exact .inr (hUntold hTells)
        | false => exact .inl rfl

/-- A stream that nobody can be told about stays registered although its publication fails. -/
theorem untold_stream_left :
    ¬AllOrNothing (new false true false false) false (.rtmp "live" "a")
      ⟨Uuid.new .zero 1700000000 fun _ => 0, .rtmpPush, .frame⟩ := by
  intro hAll
  have hSame := hAll.error .sendError rfl
  exact absurd (congrArg AList.keys hSame) (by decide)

/-! ### A query for statistics -/

/-- A query whose answers go to this channel. -/
def asksFor (sender : Channel) : TransceiverEvent → Bool
  | .api sender' _ => sender' = sender
  | _ => false

/-- How many such queries have been sent to the streams. -/
def apiEvents (hub : StreamsHub) (sender : Channel) : Nat :=
  (hub.tasks.flatMap (·.events)).countP (asksFor sender)

/-- The hub after so many answers. -/
def answered (hub : StreamsHub) (sender : Channel) (uuid : Option Uuid) : Nat → StreamsHub
  | 0 => hub
  | n + 1 => (hub.answered sender uuid n).reply (.api sender uuid)

/-- A query that waits for answers waits for as many as there are streams that it has asked, and goes
on once each of these has answered once. -/
structure Collects (hub : StreamsHub) (identifier : Option StreamIdentifier) (uuid : Option Uuid)
    (hub' : StreamsHub) : Prop where
  asked : hub'.apiEvents hub.channels = hub.apiEvents hub.channels + hub.streamCount identifier
  ends : ((hub'.answered hub.channels uuid
    (hub'.apiEvents hub.channels - hub.apiEvents hub.channels)).step .resume).isSome

theorem apiEvents_sendTo {hub hub' : StreamsHub} {k : Nat} {sender : Channel} {uuid : Option Uuid}
    (h : hub.sendTo k (.api sender uuid) = some hub') :
    hub'.apiEvents sender = hub.apiEvents sender + 1 := by
  obtain ⟨t, hTask, -, rfl⟩ := sendTo_eq_some.mp h
  obtain ⟨hLt, hGet⟩ := List.getElem?_eq_some_iff.mp hTask
  have hSplit : hub.tasks = hub.tasks.take k ++ t :: hub.tasks.drop (k + 1) := by
    rw [← hGet, List.getElem_cons_drop hLt, List.take_append_drop]
  have hSet : ∀ t', hub.tasks.set k t' = hub.tasks.take k ++ t' :: hub.tasks.drop (k + 1) :=
    fun t' => List.set_eq_take_append_cons_drop.trans (if_pos hLt)
  rw [apiEvents, apiEvents, hSet]
  conv_rhs => rw [hSplit]
  simp only [List.flatMap_append, List.flatMap_cons, List.countP_append]
  have hOne : [TransceiverEvent.api sender uuid].countP (asksFor sender) = 1 := by
    simp [asksFor]
  omega

theorem apiEvents_sendApi {sender : Channel} {uuid : Option Uuid} {ks : List Nat}
    {hub hub' : StreamsHub} (h : hub.sendApi sender uuid ks = (hub', .ok ())) :
    hub'.apiEvents sender = hub.apiEvents sender + ks.length := by
  induction ks generalizing hub with
  | nil =>
    cases h
    rfl
  | cons k ks ih =>
    rw [sendApi] at h
    split at h
    · rename_i hub1 hSend
      rw [ih h, apiEvents_sendTo hSend, List.length_cons]
      omega
    · cases h

theorem waiting_answered {hub : StreamsHub} {sender : Channel} {uuid : Option Uuid} {missing : Nat}
    (h : hub.waiting = some (.statistics sender missing)) (n : Nat) :
    (hub.answered sender uuid n).waiting = some (.statistics sender (missing - n)) := by
  induction n with
  | zero => exact h
  | succ n ih =>
    rw [answered, reply, ih]
    simp only [if_true]
    rfl

theorem resume_isSome {hub : StreamsHub} {sender : Channel} {missing : Nat}
    (h : hub.waiting = some (.statistics sender missing)) :
    (hub.step .resume).isSome = true ↔ missing = 0 := by
  rw [step, h]
  cases missing with
  | zero => simp
  | succ n => simp

/-- How the function enters its loop. -/
theorem apiStatistic_ok {hub hub' : StreamsHub} {identifier : Option StreamIdentifier}
    {uuid : Option Uuid} (hStreams : hub.streams.keys ≠ [])
    (h : hub.apiStatistic identifier uuid = (hub', .ok ())) :
    hub'.apiEvents hub.channels = hub.apiEvents hub.channels + (hub.asked identifier).length ∧
      hub'.waiting = some (.statistics hub.channels (hub.streamCount identifier)) := by
  rw [apiStatistic, if_neg (by simpa using hStreams)] at h
  split at h
  · rename_i hub1 hSent
    have hEvents := apiEvents_sendApi hSent
    cases h
    exact ⟨hEvents, rfl⟩
  · cases h

/-- The streams that are asked are as many as the answers that are waited for. -/
theorem length_asked_iff (hub : StreamsHub) (identifier : Option StreamIdentifier) :
    (hub.asked identifier).length = hub.streamCount identifier ↔
      ∀ name, identifier = some name → name ∈ hub.streams := by
  cases identifier with
  | none => simp [asked, streamCount, AList.keys, List.keys]
  | some name =>
    cases hLookup : hub.streams.lookup name with
    | none =>
      have hAbsent : name ∉ hub.streams := AList.lookup_eq_none.mp hLookup
      simp [asked, streamCount, hLookup, hAbsent]
    | some k =>
      have hThere : name ∈ hub.streams := AList.lookup_isSome.mp (by rw [hLookup]; rfl)
      simp [asked, streamCount, hLookup, hThere]

/-- A query that asks nobody is not refused. -/
theorem apiStatistic_absent {hub : StreamsHub} {name : StreamIdentifier}
    (hStreams : hub.streams.keys ≠ []) (hAbsent : name ∉ hub.streams) (uuid : Option Uuid) :
    ∃ hub', hub.apiStatistic (some name) uuid = (hub', .ok ()) := by
  have hNone : hub.asked (some name) = [] := by
    rw [asked, AList.lookup_eq_none.mpr hAbsent]
    rfl
  rw [apiStatistic, if_neg (by simpa using hStreams), hNone]
  exact ⟨_, rfl⟩

/-- A query collects as many answers as it has asked for if and only if it names no stream that the hub
does not have, or the hub has none. -/
theorem apiStatistic_collects_iff (hub : StreamsHub) (identifier : Option StreamIdentifier)
    (uuid : Option Uuid) :
    (∀ hub', hub.streams.keys ≠ [] → hub.apiStatistic identifier uuid = (hub', .ok ()) →
      Collects hub identifier uuid hub') ↔
    hub.streams.keys = [] ∨ ∀ name, identifier = some name → name ∈ hub.streams := by
  constructor
  · intro hCollects
    by_contra hNot
    obtain ⟨hStreams, hAbsent⟩ := not_or.mp hNot
    push Not at hAbsent
    obtain ⟨name, rfl, hAbsent⟩ := hAbsent
    obtain ⟨hub', hOk⟩ := apiStatistic_absent hStreams hAbsent uuid
    have hAsked := (hCollects hub' hStreams hOk).asked
    rw [(apiStatistic_ok hStreams hOk).1, Nat.add_left_cancel_iff, length_asked_iff] at hAsked
    exact hAbsent (hAsked name rfl)
  · intro hNamed hub' hStreams hOk
    obtain ⟨hEvents, hWaiting⟩ := apiStatistic_ok hStreams hOk
    have hLength := (length_asked_iff hub identifier).mpr (hNamed.resolve_left hStreams)
    rw [hLength] at hEvents
    refine ⟨hEvents, ?_⟩
    rw [hEvents, Nat.add_sub_cancel_left, resume_isSome (waiting_answered hWaiting _), Nat.sub_self]

/-- A query for a stream that is not there waits for an answer that nobody has been asked for. -/
theorem absent_stream_stalls : ∃ hub, system.Reached hub ∧
    ¬∀ hub', hub.streams.keys ≠ [] → hub.apiStatistic (some (.rtsp "b")) none = (hub', .ok ()) →
      Collects hub (some (.rtsp "b")) none hub' := by
  let publisher : PublisherInfo := ⟨Uuid.new .zero 1700000000 fun _ => 0, .rtspPush, .frame⟩
  have hReached : ∃ hub, system.Reached hub ∧ hub.streams.keys ≠ [] ∧
      hub.streams.lookup (.rtsp "b") = none :=
    @exists_reached false false false false
      [.post (.publish (.rtsp "a") publisher), .take (.publish (.rtsp "a") publisher) false]
      _ (by decide +kernel)
  obtain ⟨hub, hReached, hStreams, hLookup⟩ := hReached
  have hAbsent : .rtsp "b" ∉ hub.streams := AList.lookup_eq_none.mp hLookup
  refine ⟨hub, hReached, ?_⟩
  intro hCollects
  obtain ⟨hub', hOk⟩ := apiStatistic_absent hStreams hAbsent none
  have hAsked := (hCollects hub' hStreams hOk).asked
  rw [(apiStatistic_ok hStreams hOk).1, Nat.add_left_cancel_iff, length_asked_iff] at hAsked
  exact hAbsent (hAsked _ rfl)

end StreamsHub

end Xiu.StreamHub
